import PrivateRetrieval.Proofs.Field.Addition
import PrivateRetrieval.Proofs.Update

namespace PrivateRetrieval

theorem Block.ofByteAt_zero : ofByteAt (fun _ => 0) = 0 := by
  apply BitVec.eq_of_getLsbD_eq
  intro index inside
  rw [getLsbD_ofByteAt _ _ inside]
  exact BitVec.getLsbD_zero.trans BitVec.getLsbD_zero.symm

/-- A block of sums of bytes is the sum of the blocks. -/
theorem Block.ofByteAt_xor (left right : Nat → UInt8) :
    ofByteAt (fun i => left i ^^^ right i) = ofByteAt left ^^^ ofByteAt right := by
  apply BitVec.eq_of_getLsbD_eq
  intro index inside
  rw [BitVec.getLsbD_xor, getLsbD_ofByteAt _ _ inside, getLsbD_ofByteAt _ _ inside,
    getLsbD_ofByteAt _ _ inside, UInt8.toBitVec_xor, BitVec.getLsbD_xor]

namespace Element

/-!
# Byte strings as elements

A byte string of whole blocks is an array of elements.  An operation on every element by itself is
written as `mapBlocks`: it composes like a map, and a piece of whole blocks can be cut off before or
after it.
-/

@[simp]
theorem size_concat (elements : Array Element) :
    (concat elements).size = Block.byteCount * elements.size := by
  rw [concat, Block.size_concat, Array.size_map]

@[simp]
theorem size_split (bytes : Bytes) : (split bytes).size = bytes.size / Block.byteCount := by
  rw [split, Array.size_map, Block.size_split]

theorem split_concat (elements : Array Element) : split (concat elements) = elements := by
  rw [split, concat, Block.split_concat, Array.map_map]
  exact Array.map_id elements

theorem concat_split {bytes : Bytes} (whole : bytes.size % Block.byteCount = 0) :
    concat (split bytes) = bytes := by
  have bits : (split bytes).map Element.bits = Block.split bytes := by
    rw [split, Array.map_map]
    exact Array.map_id _
  rw [concat, bits, Block.concat_split bytes whole]

/-- A string of whole blocks is known from its elements. -/
theorem eq_of_getElem?_split_eq {left right : Bytes} (sameSize : left.size = right.size)
    (whole : left.size % Block.byteCount = 0)
    (same : ∀ block, block < left.size / Block.byteCount →
      (split left)[block]? = (split right)[block]?) : left = right := by
  have elements : split left = split right := by
    apply eq_of_getElem?_eq
    · rw [size_split, size_split, sameSize]
    · intro block inside
      rw [size_split] at inside
      exact same block inside
  rw [← concat_split whole, elements, concat_split (sameSize ▸ whole)]

theorem getElem?_split (bytes : Bytes) {block : Nat} (inside : block < bytes.size / Block.byteCount) :
    (split bytes)[block]? =
      some ⟨Block.ofByteAt fun j => bytes.getD (Block.byteCount * block + j) 0⟩ := by
  have within : block < (Block.split bytes).size := by
    rw [Block.size_split]
    exact inside
  rw [split, Array.getElem?_map, Array.getElem?_eq_getElem within, Block.getElem_split]
  rfl

/-- Cutting off whole blocks cuts off their elements. -/
theorem split_extract {bytes : Bytes} {start stop : Nat}
    (inside : stop * Block.byteCount ≤ bytes.size) :
    split (bytes.extract (start * Block.byteCount) (stop * Block.byteCount)) =
      (split bytes).extract start stop := by
  have blocks : stop ≤ bytes.size / Block.byteCount :=
    (Nat.le_div_iff_mul_le Block.byteCount_pos).mpr inside
  have size : (bytes.extract (start * Block.byteCount) (stop * Block.byteCount)).size /
      Block.byteCount = stop - start := by
    rw [Array.size_extract, Nat.min_eq_left inside, ← Nat.sub_mul]
    exact Nat.mul_div_left _ Block.byteCount_pos
  apply Array.ext_getElem?
  intro block
  rw [Array.getElem?_extract, size_split, Nat.min_eq_left blocks]
  rcases Nat.lt_or_ge block (stop - start) with within | beyond
  · rw [if_pos within, getElem?_split _ (by rw [size]; exact within), getElem?_split _ (by omega)]
    refine congrArg (fun bits => some (Element.mk bits)) (Block.ofByteAt_congr ?_)
    intro j small
    change j < 16 at small
    change stop * 16 ≤ bytes.size at inside
    change (bytes.extract (start * 16) (stop * 16)).getD (16 * block + j) 0 =
      bytes.getD (16 * (start + block) + j) 0
    have place : start * 16 + (16 * block + j) = 16 * (start + block) + j := by omega
    rw [Array.getD_eq_getD_getElem?, Array.getElem?_extract, Nat.min_eq_left inside,
      if_pos (by omega), place, Array.getD_eq_getD_getElem?]
  · rw [if_neg (Nat.not_lt_of_ge beyond), Array.getElem?_eq_none]
    rw [size_split, size]
    exact beyond

theorem getElem?_split_zeros {size block : Nat} (inside : block < size / Block.byteCount) :
    (split (Bytes.zeros size))[block]? = some 0 := by
  rw [getElem?_split _ (by rw [Bytes.size_zeros]; exact inside)]
  simp only [Bytes.getD_zeros]
  exact congrArg some (eq_of_bits_eq Block.ofByteAt_zero)

/-- The exclusive or of byte strings adds their elements. -/
theorem getElem?_split_xor {left right : Bytes} (sameSize : left.size = right.size) {block : Nat}
    (inside : block < left.size / Block.byteCount) {a b : Element}
    (first : (split left)[block]? = some a) (second : (split right)[block]? = some b) :
    (split (Bytes.xor left right))[block]? = some (a + b) := by
  have size := Bytes.size_xor_of_size_eq sameSize
  have sum : Block.ofByteAt (fun j =>
      (Bytes.xor left right).getD (Block.byteCount * block + j) 0) =
        Block.ofByteAt (fun j => left.getD (Block.byteCount * block + j) 0) ^^^
          Block.ofByteAt (fun j => right.getD (Block.byteCount * block + j) 0) := by
    rw [← Block.ofByteAt_xor]
    exact Block.ofByteAt_congr fun j _ => Bytes.getD_xor sameSize _
  rw [getElem?_split _ inside] at first
  rw [getElem?_split _ (sameSize ▸ inside)] at second
  rw [getElem?_split _ (by rw [size]; exact inside), sum, ← Option.some.inj first,
    ← Option.some.inj second, mk_add_mk]

/-! ## Maps over the elements -/

/-- A byte string with every element replaced. -/
def mapBlocks (act : Nat → Element → Element) (bytes : Bytes) : Bytes :=
  concat ((split bytes).mapIdx act)

theorem split_mapBlocks (act : Nat → Element → Element) (bytes : Bytes) :
    split (mapBlocks act bytes) = (split bytes).mapIdx act :=
  split_concat _

theorem size_mapBlocks (act : Nat → Element → Element) {bytes : Bytes}
    (whole : bytes.size % Block.byteCount = 0) : (mapBlocks act bytes).size = bytes.size := by
  rw [mapBlocks, size_concat, Array.size_mapIdx, size_split]
  exact Nat.mul_div_cancel' (Nat.dvd_of_mod_eq_zero whole)

theorem mapBlocks_congr {act other : Nat → Element → Element} {bytes : Bytes}
    (same : ∀ block element, block < bytes.size / Block.byteCount →
      act block element = other block element) :
    mapBlocks act bytes = mapBlocks other bytes := by
  rw [mapBlocks, mapBlocks]
  refine congrArg concat (mapIdx_congr ?_)
  intro block element inside
  rw [size_split] at inside
  exact same block element inside

theorem mapBlocks_eq_self {act : Nat → Element → Element} {bytes : Bytes}
    (whole : bytes.size % Block.byteCount = 0) (idle : ∀ block element, act block element = element) :
    mapBlocks act bytes = bytes := by
  rw [mapBlocks, mapIdx_eq_self idle, concat_split whole]

/-- A fold of maps is a map by folds. -/
theorem foldl_mapBlocks {β : Type} (list : List β) (act : β → Nat → Element → Element) {bytes : Bytes}
    (whole : bytes.size % Block.byteCount = 0) :
    list.foldl (fun written entry => mapBlocks (act entry) written) bytes =
      mapBlocks
        (fun block element => list.foldl (fun current entry => act entry block current) element)
        bytes := by
  induction list generalizing bytes with
  | nil => exact (mapBlocks_eq_self whole fun _ _ => rfl).symm
  | cons entry rest later =>
      have kept : (mapBlocks (act entry) bytes).size % Block.byteCount = 0 := by
        rw [size_mapBlocks _ whole]
        exact whole
      rw [List.foldl_cons, later kept, mapBlocks, split_mapBlocks, Array.mapIdx_mapIdx]
      rfl

/-- A piece of a map is a map of the piece. -/
theorem extract_mapBlocks (act : Nat → Element → Element) {bytes : Bytes}
    (whole : bytes.size % Block.byteCount = 0) {start stop : Nat}
    (inside : stop * Block.byteCount ≤ bytes.size) :
    (mapBlocks act bytes).extract (start * Block.byteCount) (stop * Block.byteCount) =
      mapBlocks (fun block => act (start + block))
        (bytes.extract (start * Block.byteCount) (stop * Block.byteCount)) := by
  have mapped := size_mapBlocks act whole
  have piece : (bytes.extract (start * Block.byteCount) (stop * Block.byteCount)).size =
      (stop - start) * Block.byteCount := by
    rw [Array.size_extract, Nat.min_eq_left inside, ← Nat.sub_mul]
  have blocks : (bytes.extract (start * Block.byteCount) (stop * Block.byteCount)).size %
      Block.byteCount = 0 := by
    rw [piece]
    exact Nat.mul_mod_left _ _
  have sizes : ((mapBlocks act bytes).extract (start * Block.byteCount)
      (stop * Block.byteCount)).size =
        (bytes.extract (start * Block.byteCount) (stop * Block.byteCount)).size := by
    rw [Array.size_extract, mapped, Array.size_extract]
  apply eq_of_getElem?_split_eq
  · rw [sizes, size_mapBlocks _ blocks]
  · rw [sizes, blocks]
  · intro block _
    rw [split_extract (by rw [mapped]; exact inside), split_mapBlocks, split_mapBlocks,
      split_extract inside, Array.getElem?_extract, Array.size_mapIdx, Array.getElem?_mapIdx,
      Array.getElem?_mapIdx, Array.getElem?_extract]
    split
    · rfl
    · rfl

/-- Adding a multiple of a byte string to zeros leaves the multiple. -/
theorem mapBlocks_zeros (act : Element → Element) {bytes : Bytes}
    (whole : bytes.size % Block.byteCount = 0) :
    mapBlocks (fun block element => element + act ((split bytes).getD block 0))
        (Bytes.zeros bytes.size) =
      mapBlocks (fun _ element => act element) bytes := by
  have zeros := Bytes.size_zeros bytes.size
  have sizes := size_mapBlocks
    (fun block element => element + act ((split bytes).getD block 0)) (zeros.symm ▸ whole)
  apply eq_of_getElem?_split_eq
  · rw [sizes, zeros, size_mapBlocks _ whole]
  · rw [sizes, zeros, whole]
  · intro block inside
    rw [sizes, zeros] at inside
    rw [split_mapBlocks, split_mapBlocks, Array.getElem?_mapIdx, Array.getElem?_mapIdx,
      getElem?_split_zeros inside, Array.getD_eq_getD_getElem?, getElem?_split bytes inside]
    exact congrArg some (Element.zero_add _)

end Element
end PrivateRetrieval
