import PrivateRetrieval.Failure

namespace PrivateRetrieval

/-!
# Byte strings

Rows, selections and answers are arrays of bytes.
-/

/-- A byte string. -/
abbrev Bytes := Array UInt8

namespace Bytes

/-- A string of zero bytes. -/
def zeros (length : Nat) : Bytes :=
  Array.replicate length 0

/-- The first length that exceeds the memory that can be addressed. -/
def maxLength : Nat := 1 <<< 63

/-- A new buffer of zero bytes. -/
def fresh (length : Nat) : Outcome Bytes :=
  if length < maxLength then .ok (zeros length) else .error (.fault .bufferTooLong)

/-- The bytewise exclusive or, as long as the shorter string. -/
def xor (left right : Bytes) : Bytes :=
  Array.zipWith (· ^^^ ·) left right

/-- The bytes from `start` up to but not including `stop`. -/
def slice (bytes : Bytes) (start stop : Nat) : Outcome Bytes :=
  if start ≤ stop ∧ stop ≤ bytes.size then .ok (bytes.extract start stop)
  else .error (.fault .sliceOutOfRange)

@[simp]
theorem size_zeros (length : Nat) : (zeros length).size = length :=
  Array.size_replicate

theorem fresh_eq_ok {length : Nat} (short : length < maxLength) :
    fresh length = .ok (zeros length) :=
  if_pos short

@[simp]
theorem size_xor (left right : Bytes) : (xor left right).size = min left.size right.size :=
  Array.size_zipWith

theorem size_xor_of_size_eq {left right : Bytes} (sameSize : left.size = right.size) :
    (xor left right).size = left.size := by
  rw [size_xor, ← sameSize, Nat.min_self]

/-- Byte by byte, with zero bytes past the end of both strings. -/
theorem getD_xor {left right : Bytes} (sameSize : left.size = right.size) (index : Nat) :
    (xor left right).getD index 0 = left.getD index 0 ^^^ right.getD index 0 := by
  simp only [Array.getD_eq_getD_getElem?, xor, Array.getElem?_zipWith]
  rcases Nat.lt_or_ge index left.size with inside | outside
  · rw [Array.getElem?_eq_getElem inside, Array.getElem?_eq_getElem (sameSize ▸ inside)]
    rfl
  · rw [Array.getElem?_eq_none outside, Array.getElem?_eq_none (sameSize ▸ outside)]
    rfl

theorem slice_eq_ok {bytes : Bytes} {start stop : Nat} (ordered : start ≤ stop)
    (inside : stop ≤ bytes.size) : slice bytes start stop = .ok (bytes.extract start stop) :=
  if_pos ⟨ordered, inside⟩

end Bytes
end PrivateRetrieval
