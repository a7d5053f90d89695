namespace PrivateRetrieval
namespace Text

/-!
# Unsigned decimal numbers of 64 bits

A number is a non-empty run of ASCII digits, optionally after one plus sign, with a value below
`2 ^ 64`.  Leading zeros are allowed; separators, minus signs and digits of other scripts are not.

The text is read from the left and the first thing wrong with it is the reason given: a number that
has become too large is refused as such even if a character that is no digit comes later.
-/

/-- Why a text is not an unsigned decimal number of 64 bits. -/
inductive DecimalError where
  /-- There is no text at all. -/
  | empty
  /-- A character is no digit, or a sign stands alone. -/
  | invalidDigit
  /-- The value does not fit. -/
  | tooLarge
  deriving DecidableEq

/-- The reason in words. -/
def DecimalError.message : DecimalError → String
  | .empty => "cannot parse integer from empty string"
  | .invalidDigit => "invalid digit found in string"
  | .tooLarge => "number too large to fit in target type"

/-- The value of an ASCII digit. -/
def digitValue? (c : Char) : Option Nat :=
  if '0' ≤ c ∧ c ≤ '9' then some (c.val.toNat - '0'.val.toNat) else none

/-- Continue a number with further digits. -/
def readDigits (value : Nat) : List Char → Except DecimalError Nat
  | [] => .ok value
  | c :: rest =>
      match digitValue? c with
      | none => .error .invalidDigit
      | some digit =>
          if value * 10 + digit < 1 <<< 64 then readDigits (value * 10 + digit) rest
          else .error .tooLarge

/-- Read a whole text as an unsigned decimal number of 64 bits. -/
def readDecimal : List Char → Except DecimalError Nat
  | [] => .error .empty
  | ['+'] => .error .invalidDigit
  | '+' :: digits => readDigits 0 digits
  | text => readDigits 0 text

end Text
end PrivateRetrieval
