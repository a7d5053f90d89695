import Mathlib.Algebra.Group.Nat.Defs
import Mathlib.Data.List.TakeWhile
import PrivateRetrieval.Text.Blank
import PrivateRetrieval.Text.Decimal

namespace PrivateRetrieval
namespace Text

/-!
# Which texts stand for which numbers

The reader of numbers goes through a text from the left and gives up at the first thing that is wrong.  A
text that it reads is a non-empty run of digits, after a plus sign or not, whose value in base ten fits in
64 bits; and every such text is read, with this value.  Digits in front do not have to be significant.

Blanks around a number are trimmed away first.  Since a numeral neither begins nor ends with a blank, what
is left by trimming is the numeral exactly if there is nothing but blanks on either side of it.
-/

/-! ## Digits -/

theorem digitValue?_of_isDigit {c : Char} (digit : c.isDigit = true) :
    digitValue? c = some (c.toNat - '0'.toNat) := by
  rw [Char.isDigit, Bool.and_eq_true, decide_eq_true_eq, decide_eq_true_eq] at digit
  exact if_pos digit

theorem digitValue?_eq_none {c : Char} (other : ¬ c.isDigit = true) : digitValue? c = none := by
  rw [Char.isDigit, Bool.and_eq_true, decide_eq_true_eq, decide_eq_true_eq] at other
  exact if_neg other

/-- More digits do not make a number smaller. -/
theorem le_ofDigitChars (digits : List Char) (value : Nat) :
    value ≤ Nat.ofDigitChars 10 digits value := by
  induction digits generalizing value with
  | nil => exact Nat.le_refl value
  | cons c rest larger =>
      have step : value ≤ 10 * value + (c.toNat - '0'.toNat) := by omega
      exact Nat.le_trans step (larger _)

theorem readDigits_eq_ok_iff {text : List Char} {value number : Nat} (fits : value < 2 ^ 64) :
    readDigits value text = .ok number ↔
      (∀ c ∈ text, c.isDigit = true) ∧ Nat.ofDigitChars 10 text value = number ∧ number < 2 ^ 64 := by
  induction text generalizing value with
  | nil =>
      constructor
      · intro done
        cases done
        exact ⟨fun c member => absurd member List.not_mem_nil, rfl, fits⟩
      · rintro ⟨_, rfl, _⟩
        rfl
  | cons c rest later =>
      rw [readDigits, Nat.ofDigitChars_cons, List.forall_mem_cons]
      by_cases digit : c.isDigit = true
      · have next : value * 10 + (c.toNat - '0'.toNat) = 10 * value + (c.toNat - '0'.toNat) := by
          rw [Nat.mul_comm]
        simp only [digitValue?_of_isDigit digit, next, Nat.one_shiftLeft]
        by_cases small : 10 * value + (c.toNat - '0'.toNat) < 2 ^ 64
        · rw [if_pos small, later small]
          exact ⟨fun rest => ⟨⟨digit, rest.1⟩, rest.2⟩, fun all => ⟨all.1.2, all.2⟩⟩
        · rw [if_neg small]
          refine iff_of_false nofun ?_
          rintro ⟨_, rfl, below⟩
          exact small (Nat.lt_of_le_of_lt (le_ofDigitChars rest _) below)
      · simp only [digitValue?_eq_none digit]
        exact iff_of_false nofun fun all => digit all.1.1

/-! ## Numerals -/

/-- A non-empty run of ASCII digits, after a plus sign or not, with a value of 64 bits. -/
structure IsNumeral (text : List Char) (number : Nat) : Prop where
  written : ∃ digits : List Char, (text = digits ∨ text = '+' :: digits) ∧ digits ≠ [] ∧
    (∀ c ∈ digits, c.isDigit = true) ∧ Nat.ofDigitChars 10 digits 0 = number
  fits : number < 2 ^ 64

theorem isNumeral_plus_iff {digits : List Char} {number : Nat} :
    IsNumeral ('+' :: digits) number ↔ digits ≠ [] ∧
      (∀ c ∈ digits, c.isDigit = true) ∧ Nat.ofDigitChars 10 digits 0 = number ∧ number < 2 ^ 64 := by
  constructor
  · rintro ⟨⟨run, shape, filled, all, value⟩, fits⟩
    rcases shape with rfl | same
    · exact absurd (all '+' List.mem_cons_self) (by decide)
    · cases same
      exact ⟨filled, all, value, fits⟩
  · rintro ⟨filled, all, value, fits⟩
    exact ⟨⟨digits, Or.inr rfl, filled, all, value⟩, fits⟩

theorem isNumeral_iff_of_no_plus {text : List Char} {number : Nat}
    (unsigned : ∀ digits, text ≠ '+' :: digits) :
    IsNumeral text number ↔ text ≠ [] ∧
      (∀ c ∈ text, c.isDigit = true) ∧ Nat.ofDigitChars 10 text 0 = number ∧ number < 2 ^ 64 := by
  constructor
  · rintro ⟨⟨run, shape, filled, all, value⟩, fits⟩
    rcases shape with rfl | signed
    · exact ⟨filled, all, value, fits⟩
    · exact absurd signed (unsigned run)
  · rintro ⟨filled, all, value, fits⟩
    exact ⟨⟨text, Or.inl rfl, filled, all, value⟩, fits⟩

/-- The texts that are read as numbers are the numerals. -/
theorem readDecimal_eq_ok_iff {text : List Char} {number : Nat} :
    readDecimal text = .ok number ↔ IsNumeral text number := by
  fun_cases readDecimal text with
  | case1 =>
      have unsigned : ∀ digits : List Char, [] ≠ '+' :: digits := nofun
      rw [isNumeral_iff_of_no_plus unsigned]
      exact iff_of_false nofun fun numeral => numeral.1 rfl
  | case2 =>
      rw [isNumeral_plus_iff]
      exact iff_of_false nofun fun numeral => numeral.1 rfl
  | case3 digits filled =>
      rw [isNumeral_plus_iff, readDigits_eq_ok_iff (by decide)]
      exact (and_iff_right filled).symm
  | case4 _ filled _ unsigned =>
      rw [isNumeral_iff_of_no_plus unsigned, readDigits_eq_ok_iff (by decide)]
      exact (and_iff_right filled).symm

/-! ## Blanks -/

/-- A text stands for a number if it is a numeral between blanks. -/
def Denotes (text : String) (number : Nat) : Prop :=
  ∃ before numeral after : List Char, text.toList = before ++ numeral ++ after ∧
    (∀ c ∈ before, isBlank c = true) ∧ (∀ c ∈ after, isBlank c = true) ∧ IsNumeral numeral number

theorem isBlank_of_isDigit {c : Char} (digit : c.isDigit = true) : isBlank c = false := by
  rcases Bool.and_eq_true_iff.mp digit with ⟨least, greatest⟩
  have low : 48 ≤ c.val.toNat := (of_decide_eq_true least : '0'.val ≤ c.val)
  have high : c.val.toNat ≤ 57 := (of_decide_eq_true greatest : c.val ≤ '9'.val)
  simp only [isBlank, Bool.or_eq_false_iff, Bool.and_eq_false_iff, decide_eq_false_iff_not,
    beq_eq_false_iff_ne]
  omega

theorem IsNumeral.filled {text : List Char} {number : Nat} (numeral : IsNumeral text number) :
    text ≠ [] := by
  rcases numeral.written with ⟨digits, rfl | rfl, filled, _⟩
  · exact filled
  · exact List.cons_ne_nil _ _

theorem IsNumeral.isBlank_eq_false {text : List Char} {number : Nat} (numeral : IsNumeral text number)
    {c : Char} (member : c ∈ text) : isBlank c = false := by
  rcases numeral.written with ⟨digits, rfl | rfl, _, all, _⟩
  · exact isBlank_of_isDigit (all c member)
  · rcases List.mem_cons.mp member with rfl | inDigits
    · decide
    · exact isBlank_of_isDigit (all c inDigits)

/-- Blanks in front of a text that does not begin with one are what is trimmed there. -/
theorem trimStart_append {before text : List Char} (blank : ∀ c ∈ before, isBlank c = true)
    (solid : ∀ c, text.head? = some c → isBlank c = false) : trimStart (before ++ text) = text := by
  have gone : before.dropWhile isBlank = [] := List.dropWhile_eq_nil_iff.mpr blank
  rw [trimStart, List.dropWhile_append, gone]
  cases text with
  | nil => rfl
  | cons c rest =>
      rw [List.isEmpty_nil, if_pos rfl, List.dropWhile_cons_of_neg]
      rw [solid c rfl]
      exact Bool.false_ne_true

theorem trimEnd_append {text after : List Char} (blank : ∀ c ∈ after, isBlank c = true)
    (solid : ∀ c, text.getLast? = some c → isBlank c = false) : trimEnd (text ++ after) = text := by
  have reversed : trimStart (after.reverse ++ text.reverse) = text.reverse :=
    trimStart_append (fun c member => blank c (List.mem_reverse.mp member))
      (fun c last => solid c (List.head?_reverse.symm.trans last))
  rw [trimStart, ← List.reverse_append] at reversed
  rw [trimEnd, reversed, List.reverse_reverse]

/-- What is left by trimming stands between the blanks that are gone. -/
theorem exists_eq_append_trim (text : List Char) :
    ∃ before after, text = before ++ trim text ++ after ∧ (∀ c ∈ before, isBlank c = true) ∧
      ∀ c ∈ after, isBlank c = true := by
  refine ⟨text.takeWhile isBlank, ((trimStart text).reverse.takeWhile isBlank).reverse, ?_, ?_, ?_⟩
  · have front := @List.takeWhile_append_dropWhile _ isBlank (trimStart text).reverse
    have back := congrArg List.reverse front
    rw [List.reverse_append, List.reverse_reverse] at back
    rw [List.append_assoc, trim, trimEnd, back, trimStart, List.takeWhile_append_dropWhile]
  · exact fun c member => List.mem_takeWhile_imp member
  · exact fun c member => List.mem_takeWhile_imp (List.mem_reverse.mp member)

/-- What stands for a number is what is read as that number when its blanks are trimmed. -/
theorem readDecimal_trim_eq_ok_iff {text : String} {number : Nat} :
    readDecimal (trim text.toList) = .ok number ↔ Denotes text number := by
  rw [readDecimal_eq_ok_iff]
  constructor
  · intro numeral
    rcases exists_eq_append_trim text.toList with ⟨before, after, whole, front, back⟩
    exact ⟨before, _, after, whole, front, back, numeral⟩
  · rintro ⟨before, numeral, after, whole, front, back, isNumeral⟩
    obtain ⟨first, rest, rfl⟩ := List.exists_cons_of_ne_nil isNumeral.filled
    have solid {c : Char} (member : c ∈ first :: rest) := isNumeral.isBlank_eq_false member
    have trimmed : trim text.toList = first :: rest := by
      rw [whole, trim, List.append_assoc, trimStart_append front, trimEnd_append back]
      · exact fun c last => solid (List.mem_of_getLast? last)
      · intro c head
        cases head
        exact solid List.mem_cons_self
    rw [trimmed]
    exact isNumeral

end Text
end PrivateRetrieval
