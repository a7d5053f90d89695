import Mathlib.Algebra.BigOperators.Ring.Finset
import PrivateRetrieval.Proofs.Field.Blocks

namespace PrivateRetrieval

/-!
# Blocks as numbers

A block of a byte string is read as a number whose digits to the base 256 are its bytes, the first byte
being the least significant.  Nothing here refers to the way in which blocks are cut out or put together
again: the number is a plain sum over the sixteen bytes, so a statement about blocks that are read in this
way pins down the order of the bytes.
-/

namespace Block

/-- The number whose digits to the base 256 are the first bytes of a sequence, lowest digit first. -/
def littleEndian (byteAt : Nat → UInt8) (count : Nat) : Nat :=
  ∑ place ∈ Finset.range count, (byteAt place).toNat * 256 ^ place

theorem littleEndian_succ (byteAt : Nat → UInt8) (count : Nat) :
    littleEndian byteAt (count + 1) =
      littleEndian byteAt count + (byteAt count).toNat * 256 ^ count :=
  Finset.sum_range_succ _ _

theorem littleEndian_lt (byteAt : Nat → UInt8) (count : Nat) :
    littleEndian byteAt count < 256 ^ count := by
  induction count with
  | zero => exact Nat.one_pos
  | succ count bound =>
      have digit : (byteAt count).toNat * 256 ^ count ≤ 255 * 256 ^ count :=
        Nat.mul_le_mul_right _ (Nat.le_of_lt_succ (byteAt count).toNat_lt)
      rw [littleEndian_succ, Nat.pow_succ]
      omega

/-- A byte that is shifted to its place in a block is a digit of the block's number. -/
theorem toNat_shiftedByte (byte : UInt8) {place : Nat} (inside : place < byteCount) :
    (byte.toBitVec.setWidth 128 <<< (8 * place)).toNat = 2 ^ (8 * place) * byte.toNat := by
  have narrow : byte.toNat < 2 ^ 8 := byte.toNat_lt
  have digit : 2 ^ (8 * place) * byte.toNat < 2 ^ (8 * place) * 2 ^ 8 :=
    Nat.mul_lt_mul_of_pos_left narrow (Nat.two_pow_pos _)
  have room : 2 ^ (8 * place) * 2 ^ 8 ≤ 2 ^ 128 := by
    change place < 16 at inside
    rw [← Nat.pow_add]
    exact Nat.pow_le_pow_right Nat.two_pos (by omega)
  have value : byte.toBitVec.toNat = byte.toNat := rfl
  rw [BitVec.toNat_shiftLeft, BitVec.toNat_setWidth, value, Nat.shiftLeft_eq,
    Nat.mod_eq_of_lt (Nat.lt_trans narrow (by decide)), Nat.mul_comm,
    Nat.mod_eq_of_lt (Nat.lt_of_lt_of_le digit room)]

/-- The first `count` steps of `ofByteAt` have placed the digits of the first `count` bytes. -/
theorem toNat_placeBytes (byteAt : Nat → UInt8) {count : Nat} (inside : count ≤ byteCount) :
    ((List.range count).foldl (fun (block : Block) i =>
        block ||| (byteAt i).toBitVec.setWidth 128 <<< (8 * i)) 0).toNat =
      littleEndian byteAt count := by
  induction count with
  | zero => rfl
  | succ count placed =>
      have base : 256 ^ count = 2 ^ (8 * count) := by
        rw [Nat.pow_mul]
      -- The next digit stands above all digits placed before, so that the two can be joined by a sum.
      have low : littleEndian byteAt count < 2 ^ (8 * count) := base ▸ littleEndian_lt byteAt count
      rw [List.range_succ, List.foldl_append, List.foldl_cons, List.foldl_nil, BitVec.toNat_or,
        placed (Nat.le_of_succ_le inside), toNat_shiftedByte _ inside, Nat.or_comm,
        ← Nat.two_pow_add_eq_or_of_lt low, littleEndian_succ, base, Nat.add_comm, Nat.mul_comm]

/-- A block is the number whose digits are its bytes. -/
theorem toNat_ofByteAt (byteAt : Nat → UInt8) :
    (ofByteAt byteAt).toNat = littleEndian byteAt byteCount :=
  toNat_placeBytes byteAt (Nat.le_refl _)

end Block

namespace Element

/-- One block of a byte string, read as a number with the least significant byte first. -/
def blockAt (bytes : Bytes) (block : Nat) : Element :=
  ⟨BitVec.ofNat 128
    (Block.littleEndian (fun place => bytes.getD (Block.byteCount * block + place) 0)
      Block.byteCount)⟩

theorem blockAt_eq_ofByteAt (bytes : Bytes) (block : Nat) :
    blockAt bytes block =
      ⟨Block.ofByteAt fun place => bytes.getD (Block.byteCount * block + place) 0⟩ := by
  rw [blockAt, ← Block.toNat_ofByteAt, BitVec.ofNat_toNat, BitVec.setWidth_eq]

/-- The elements that are cut out of a byte string are its blocks. -/
theorem getElem?_split_eq_blockAt (bytes : Bytes) {block : Nat}
    (inside : block < bytes.size / Block.byteCount) :
    (split bytes)[block]? = some (blockAt bytes block) := by
  rw [getElem?_split bytes inside, blockAt_eq_ofByteAt]

/-- Strings of whole blocks with equal blocks are equal. -/
theorem eq_of_blockAt_eq {left right : Bytes} (sameSize : left.size = right.size)
    (whole : left.size % Block.byteCount = 0)
    (same : ∀ block, block < left.size / Block.byteCount → blockAt left block = blockAt right block) :
    left = right := by
  apply eq_of_getElem?_split_eq sameSize whole
  intro block inside
  rw [getElem?_split_eq_blockAt left inside, getElem?_split_eq_blockAt right (sameSize ▸ inside),
    same block inside]

theorem blockAt_mapBlocks (act : Nat → Element → Element) {bytes : Bytes}
    (whole : bytes.size % Block.byteCount = 0) {block : Nat}
    (inside : block < bytes.size / Block.byteCount) :
    blockAt (mapBlocks act bytes) block = act block (blockAt bytes block) := by
  have mapped : (split (mapBlocks act bytes))[block]? = some (blockAt (mapBlocks act bytes) block) :=
    getElem?_split_eq_blockAt _ ((size_mapBlocks act whole).symm ▸ inside)
  rw [split_mapBlocks, Array.getElem?_mapIdx, getElem?_split_eq_blockAt bytes inside] at mapped
  exact (Option.some.inj mapped).symm

theorem blockAt_zeros (size block : Nat) : blockAt (Bytes.zeros size) block = 0 := by
  simp only [blockAt_eq_ofByteAt, Bytes.getD_zeros]
  exact eq_of_bits_eq Block.ofByteAt_zero

end Element
end PrivateRetrieval
