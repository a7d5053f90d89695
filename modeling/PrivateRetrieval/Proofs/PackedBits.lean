import PrivateRetrieval.Block.Basic
import PrivateRetrieval.Size

namespace PrivateRetrieval

/-!
# Byte strings as packed bits

Selections and the values of a bit key are byte strings that are read bit by bit: bit `i` of the string
is bit `i % 8` of byte `i / 8`.  Every operation on such strings has one lemma here that says what it
does to the bits, and two strings of one length with equal bits are equal.
-/

/-- The items fit into the groups that they need. -/
theorem Size.le_mul_ceilDiv (count : Nat) : count ≤ 8 * Size.ceilDiv count 8 := by
  unfold Size.ceilDiv
  split <;> omega

namespace Bytes

/-- A bit of a byte string, false beyond its end. -/
def bit (bytes : Bytes) (index : Nat) : Bool :=
  (bytes.getD (index / 8) 0).toBitVec.getLsbD (index % 8)

/-- The bits `0` to `count - 1`, of which only one is set. -/
def oneBit (count index : Nat) : Bytes :=
  Array.ofFn fun i : Fin (Size.ceilDiv count 8) =>
    if i.val = index / 8 then UInt8.ofNat (1 <<< (index % 8)) else 0

theorem bit_eq_false_of_ge {bytes : Bytes} {index : Nat} (beyond : 8 * bytes.size ≤ index) :
    bytes.bit index = false := by
  have outside : bytes.size ≤ index / 8 := by omega
  rw [bit, Array.getD_eq_getD_getElem?, Array.getElem?_eq_none outside]
  simp

theorem bit_eq_getLsbD_getElem {bytes : Bytes} {position : Nat} (inside : position < bytes.size)
    {place : Nat} (small : place < 8) :
    bytes.bit (8 * position + place) = bytes[position].toBitVec.getLsbD place := by
  have quotient : (8 * position + place) / 8 = position := by omega
  have remainder : (8 * position + place) % 8 = place := by omega
  rw [bit, quotient, remainder, Array.getD_eq_getD_getElem?, Array.getElem?_eq_getElem inside,
    Option.getD_some]

/-- Strings of one length with equal bits are equal. -/
theorem eq_of_bit_eq {left right : Bytes} (sameSize : left.size = right.size)
    (same : ∀ index, index < 8 * left.size → left.bit index = right.bit index) : left = right := by
  apply Array.ext sameSize
  intro position inLeft inRight
  apply UInt8.toBitVec_inj.mp
  apply BitVec.eq_of_getLsbD_eq
  intro place small
  rw [← bit_eq_getLsbD_getElem inLeft small, ← bit_eq_getLsbD_getElem inRight small]
  exact same _ (by omega)

theorem bit_xor {left right : Bytes} (sameSize : left.size = right.size) (index : Nat) :
    (xor left right).bit index = (left.bit index ^^ right.bit index) := by
  rw [bit, getD_xor sameSize, UInt8.toBitVec_xor, BitVec.getLsbD_xor]
  rfl

theorem bit_extract {bytes : Bytes} {start stop : Nat} (inside : stop ≤ bytes.size) {index : Nat}
    (within : index < 8 * (stop - start)) :
    bit (bytes.extract start stop) index = bytes.bit (8 * start + index) := by
  have quotient : (8 * start + index) / 8 = start + index / 8 := by omega
  have remainder : (8 * start + index) % 8 = index % 8 := by omega
  have covered : index / 8 < min stop bytes.size - start := by omega
  rw [bit, bit, quotient, remainder, Array.getD_eq_getD_getElem?, Array.getElem?_extract,
    if_pos covered, Array.getD_eq_getD_getElem?]

theorem bit_concat {blocks : Array Block} {index : Nat} (inside : index < 128 * blocks.size) :
    (Block.concat blocks).bit index = (blocks.getD (index / 128) 0).getLsbD (index % 128) := by
  have bound : index / 8 < Block.byteCount * blocks.size := by
    change index / 8 < 16 * blocks.size
    omega
  have small : index % 8 < 8 := Nat.mod_lt _ (by decide)
  have block : index / 8 / Block.byteCount = index / 128 := by
    change index / 8 / 16 = index / 128
    omega
  have place : 8 * (index / 8 % Block.byteCount) + index % 8 = index % 128 := by
    change 8 * (index / 8 % 16) + index % 8 = index % 128
    omega
  rw [bit, Block.getD_concat _ _ bound, Block.getLsbD_byte _ _ _ small, block, place]

/-! ## A single bit -/

@[simp]
theorem size_oneBit (count index : Nat) : (oneBit count index).size = Size.ceilDiv count 8 :=
  Array.size_ofFn

theorem getLsbD_ofNat_one_shiftLeft (place position : Nat) (small : place < 8) :
    (UInt8.ofNat (1 <<< place)).toBitVec.getLsbD position = decide (position = place) := by
  rw [UInt8.toBitVec_ofNat', BitVec.getLsbD_ofNat, Nat.one_shiftLeft, Nat.testBit_two_pow]
  by_cases same : position = place
  · subst same
    simp [small]
  · simp [same, Ne.symm same]

theorem getD_oneBit {count position : Nat} (index : Nat) (inside : position < Size.ceilDiv count 8) :
    (oneBit count index).getD position 0 =
      if position = index / 8 then UInt8.ofNat (1 <<< (index % 8)) else 0 := by
  simp [oneBit, Array.getD_eq_getD_getElem?, inside]

theorem bit_oneBit {count index : Nat} (inside : index < count) (position : Nat) :
    (oneBit count index).bit position = decide (position = index) := by
  have covered := Size.le_mul_ceilDiv count
  rcases Nat.lt_or_ge (position / 8) (Size.ceilDiv count 8) with within | beyond
  · rw [bit, getD_oneBit index within]
    split
    · rename_i sameByte
      rw [getLsbD_ofNat_one_shiftLeft _ _ (Nat.mod_lt _ (by decide))]
      congr 1
      apply propext
      omega
    · rename_i otherByte
      have other : position ≠ index := fun same => otherByte (congrArg (· / 8) same)
      rw [decide_eq_false other]
      exact BitVec.getLsbD_zero
  · have other : position ≠ index := by omega
    rw [decide_eq_false other]
    apply bit_eq_false_of_ge
    rw [size_oneBit]
    omega

end Bytes
end PrivateRetrieval
