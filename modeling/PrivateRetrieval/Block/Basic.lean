import PrivateRetrieval.Bytes

namespace PrivateRetrieval

/-!
# Blocks of sixteen bytes

A block is both a seed of the tree and a cell of a row.  It is kept as one word of 128 bits whose
bit `8 * i + j` is bit `j` of byte `i`; so the first byte is the least significant, the exclusive or
of blocks is that of words, and domain point `p` of a leaf is bit `p`.

A block and its bytes determine each other, and a byte string that is a whole number of blocks is
the concatenation of them.  An incomplete block at the end of a byte string is not one of its blocks.
-/

/-- Sixteen bytes, the first one least significant. -/
abbrev Block := BitVec 128

namespace Block

/-- The number of bytes in a block. -/
def byteCount : Nat := 16

/-- The number of bits in a block. -/
def bitCount : Nat := 128

/-- Byte `index` of a block, zero beyond the last. -/
def byte (block : Block) (index : Nat) : UInt8 :=
  UInt8.ofBitVec (block.extractLsb' (8 * index) 8)

/-- The block whose byte `i` is `byteAt i`. -/
def ofByteAt (byteAt : Nat → UInt8) : Block :=
  (List.range byteCount).foldl
    (fun block i => block ||| (byteAt i).toBitVec.setWidth 128 <<< (8 * i)) 0

/-- The block whose bytes stand at the start of a byte string; missing bytes are zero. -/
def ofBytes (bytes : Bytes) : Block :=
  ofByteAt fun i => bytes.getD i 0

/-- The sixteen bytes of a block. -/
def toBytes (block : Block) : Bytes :=
  Array.ofFn fun i : Fin byteCount => block.byte i

/-- The bytes of several blocks, one block after the other. -/
def concat (blocks : Array Block) : Bytes :=
  Array.ofFn fun i : Fin (byteCount * blocks.size) =>
    (blocks.getD (i / byteCount) 0).byte (i % byteCount)

/-- The whole blocks that a byte string consists of; an incomplete last one is left out. -/
def split (bytes : Bytes) : Array Block :=
  Array.ofFn fun i : Fin (bytes.size / byteCount) =>
    ofByteAt fun j => bytes.getD (byteCount * i + j) 0

/-! ## Bits and bytes -/

theorem getLsbD_byte (block : Block) (index position : Nat) (small : position < 8) :
    (block.byte index).toBitVec.getLsbD position = block.getLsbD (8 * index + position) := by
  rw [byte, UInt8.toBitVec_ofBitVec, BitVec.getLsbD_extractLsb', decide_eq_true small, Bool.true_and]

/-- The first `count` steps of `ofByteAt` have placed the bits of the first `count` bytes. -/
private theorem getLsbD_placeBytes (byteAt : Nat → UInt8) (count index : Nat) (inside : index < 128) :
    ((List.range count).foldl (fun (block : Block) i =>
        block ||| (byteAt i).toBitVec.setWidth 128 <<< (8 * i)) 0).getLsbD index =
      (decide (index < 8 * count) && (byteAt (index / 8)).toBitVec.getLsbD (index % 8)) := by
  induction count with
  | zero => simp
  | succ count placed =>
      rw [List.range_succ, List.foldl_append, List.foldl_cons, List.foldl_nil, BitVec.getLsbD_or,
        placed, BitVec.getLsbD_shiftLeft, BitVec.getLsbD_setWidth]
      rcases Nat.lt_or_ge index (8 * count) with before | after
      · simp [before, Nat.lt_of_lt_of_le before (Nat.mul_le_mul_left 8 count.le_succ)]
      · have notBefore : ¬ index < 8 * count := Nat.not_lt_of_ge after
        rcases Nat.lt_or_ge index (8 * (count + 1)) with here | beyond
        · have quotient : index / 8 = count := by omega
          have remainder : index - 8 * count = index % 8 := by omega
          have narrow : index % 8 < 128 := by omega
          simp [notBefore, here, inside, quotient, remainder, narrow]
        · have notHere : ¬ index < 8 * (count + 1) := Nat.not_lt_of_ge beyond
          have above : 8 ≤ index - 8 * count := by omega
          simp [notBefore, notHere, inside, BitVec.getLsbD_of_ge _ _ above]

/-- Bit `8 * i + j` of the block is bit `j` of byte `i`. -/
theorem getLsbD_ofByteAt (byteAt : Nat → UInt8) (index : Nat) (inside : index < 128) :
    (ofByteAt byteAt).getLsbD index = (byteAt (index / 8)).toBitVec.getLsbD (index % 8) := by
  have within : index < 8 * byteCount := inside
  rw [ofByteAt, getLsbD_placeBytes byteAt byteCount index inside, decide_eq_true within,
    Bool.true_and]

theorem byte_ofByteAt (byteAt : Nat → UInt8) (index : Nat) (inside : index < byteCount) :
    (ofByteAt byteAt).byte index = byteAt index := by
  have bound : index < 16 := inside
  apply UInt8.toBitVec_inj.mp
  apply BitVec.eq_of_getLsbD_eq
  intro position small
  rw [getLsbD_byte _ _ _ small, getLsbD_ofByteAt _ _ (by omega)]
  have quotient : (8 * index + position) / 8 = index := by omega
  have remainder : (8 * index + position) % 8 = position := by omega
  rw [quotient, remainder]

/-- A block consists of its bytes. -/
theorem ofByteAt_byte (block : Block) : ofByteAt block.byte = block := by
  apply BitVec.eq_of_getLsbD_eq
  intro index inside
  rw [getLsbD_ofByteAt _ _ inside, getLsbD_byte _ _ _ (Nat.mod_lt _ (by decide)),
    Nat.div_add_mod]

/-- Blocks that agree byte by byte are equal. -/
theorem ofByteAt_congr {left right : Nat → UInt8}
    (agree : ∀ index, index < byteCount → left index = right index) :
    ofByteAt left = ofByteAt right := by
  apply BitVec.eq_of_getLsbD_eq
  intro index inside
  have bound : index / 8 < byteCount := Nat.div_lt_of_lt_mul inside
  rw [getLsbD_ofByteAt _ _ inside, getLsbD_ofByteAt _ _ inside, agree _ bound]

@[simp]
theorem size_toBytes (block : Block) : block.toBytes.size = byteCount := by
  simp [toBytes]

theorem ofBytes_toBytes (block : Block) : ofBytes block.toBytes = block := by
  rw [ofBytes]
  refine (ofByteAt_congr ?_).trans (ofByteAt_byte block)
  intro index inside
  simp [toBytes, Array.getD_eq_getD_getElem?, inside]

/-! ## Several blocks -/

theorem byteCount_pos : 0 < byteCount := Nat.succ_pos 15

@[simp]
theorem size_concat (blocks : Array Block) : (concat blocks).size = byteCount * blocks.size := by
  simp [concat]

@[simp]
theorem size_split (bytes : Bytes) : (split bytes).size = bytes.size / byteCount := by
  simp [split]

/-- Byte `16 * i + j` of the concatenation is byte `j` of block `i`. -/
theorem getD_concat (blocks : Array Block) (index : Nat)
    (inside : index < byteCount * blocks.size) :
    (concat blocks).getD index 0 =
      (blocks.getD (index / byteCount) 0).byte (index % byteCount) := by
  simp [concat, Array.getD_eq_getD_getElem?, inside]

theorem getElem_split (bytes : Bytes) (index : Nat) (inside : index < (split bytes).size) :
    (split bytes)[index] = ofByteAt fun j => bytes.getD (byteCount * index + j) 0 := by
  simp [split]

/-- Cutting a concatenation gives the blocks back. -/
theorem split_concat (blocks : Array Block) : split (concat blocks) = blocks := by
  apply Array.ext
  · rw [size_split, size_concat, Nat.mul_div_cancel_left _ (by decide)]
  · intro index inSplit inBlocks
    rw [getElem_split]
    refine (ofByteAt_congr ?_).trans (ofByteAt_byte blocks[index])
    intro j small
    have bound : byteCount * index + j < byteCount * blocks.size := by
      have step : byteCount * index + byteCount ≤ byteCount * blocks.size :=
        Nat.mul_le_mul_left byteCount (Nat.succ_le_of_lt inBlocks)
      omega
    rw [getD_concat _ _ bound, Nat.mul_add_div (by decide), Nat.div_eq_of_lt small,
      Nat.mul_add_mod, Nat.mod_eq_of_lt small, Nat.add_zero]
    simp [Array.getD_eq_getD_getElem?, inBlocks]

/-- A byte string that is a whole number of blocks is the concatenation of them. -/
theorem concat_split (bytes : Bytes) (whole : bytes.size % byteCount = 0) :
    concat (split bytes) = bytes := by
  have size : byteCount * (bytes.size / byteCount) = bytes.size :=
    Nat.mul_div_cancel' (Nat.dvd_of_mod_eq_zero whole)
  apply Array.ext
  · rw [size_concat, size_split, size]
  · intro index inConcat inBytes
    have quotient : index / byteCount < bytes.size / byteCount :=
      Nat.div_lt_of_lt_mul (by rw [size]; exact inBytes)
    have value := getD_concat (split bytes) index (by rw [size_split, size]; exact inBytes)
    rw [Array.getD_eq_getD_getElem?, Array.getElem?_eq_getElem inConcat, Option.getD_some] at value
    rw [value, Array.getD_eq_getD_getElem?,
      Array.getElem?_eq_getElem (by rw [size_split]; exact quotient), Option.getD_some,
      getElem_split, byte_ofByteAt _ _ (Nat.mod_lt _ (by decide)), Nat.div_add_mod,
      Array.getD_eq_getD_getElem?, Array.getElem?_eq_getElem inBytes, Option.getD_some]

end Block
end PrivateRetrieval
