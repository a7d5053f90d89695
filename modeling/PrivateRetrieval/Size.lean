import PrivateRetrieval.Failure

namespace PrivateRetrieval
namespace Size

/-!
# Sizes of 64 bits

Counts of bytes, rows and workers are natural numbers, but the machine keeps them in 64 bits.  Where
a count is computed from numbers that a caller chose freely, the operations below report a result
that does not fit instead of wrapping around.  A count that is bounded by the length of a buffer in
memory needs no such care.
-/

/-- The first count that does not fit. -/
def limit : Nat := 1 <<< 64

/-- The sum of two counts. -/
def add (left right : Nat) : Outcome Nat :=
  if left + right < limit then .ok (left + right) else .error (.fault .sizeOverflow)

/-- The product of two counts. -/
def mul (left right : Nat) : Outcome Nat :=
  if left * right < limit then .ok (left * right) else .error (.fault .sizeOverflow)

/-- A power of two, as a shift of one in a word of 64 bits. -/
def powerOfTwo (exponent : Nat) : Outcome Nat :=
  if exponent < 64 then .ok (1 <<< exponent) else .error (.fault .shiftTooFar)

/-- How many groups of `size` are needed for `count` items. -/
def ceilDiv (count size : Nat) : Nat :=
  count / size + if count % size = 0 then 0 else 1

theorem add_eq_ok {left right : Nat} (fits : left + right < limit) :
    add left right = .ok (left + right) := by
  simp [add, fits]

theorem mul_eq_ok {left right : Nat} (fits : left * right < limit) :
    mul left right = .ok (left * right) := by
  simp [mul, fits]

theorem mul_eq_error {left right : Nat} (large : limit ≤ left * right) :
    mul left right = .error (.fault .sizeOverflow) :=
  if_neg (Nat.not_lt_of_ge large)

theorem powerOfTwo_eq_ok {exponent : Nat} (small : exponent < 64) :
    powerOfTwo exponent = .ok (1 <<< exponent) := by
  simp [powerOfTwo, small]

end Size
end PrivateRetrieval
