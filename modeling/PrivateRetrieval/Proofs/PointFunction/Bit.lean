import PrivateRetrieval.PointFunction.Bit
import PrivateRetrieval.Proofs.HalfTree.Offset
import PrivateRetrieval.Proofs.PackedBits

namespace PrivateRetrieval
namespace PointFunction

open HalfTree

/-!
# Two keys of one bit make one point

A key has a value at every point, whether it was generated or not: the bit of the point in the leaf that
its path leads to.  The full expansion packs these values and nothing else, also where the domain ends
inside a leaf or inside a byte.

For the two keys of a generated pair the values agree at every point but the chosen one.  In the other
leaves they agree because the leaves are equal; in the chosen leaf exactly one party adds the leaf's
correction word, which turns the sum of the two hashes into the unit block.
-/

namespace BitKey

variable {context : HashContext}

/-- The value of a key at a point. -/
def value (context : HashContext) (key : BitKey) (index : Nat) : Bool :=
  (leafValues context key
    (leafAt context.hash key.seed key.levels key.last (leafPath index))).getLsbD (leafPlace index)

/-- The evaluation at one point succeeds for a key whose correction words fit its domain. -/
theorem eval_eq_ok {key : BitKey} (narrow : key.logn ≤ maxLogn)
    (shaped : Shaped (bitDepth key.logn) key.levels key.last) {index : Nat}
    (inside : index < 2 ^ key.logn) : eval context key index = .ok (value context key index) := by
  have shallow : bitDepth key.logn ≤ 32 := Nat.le_trans (Nat.sub_le key.logn leafLevels) narrow
  have inDomain := requireIndex_eq_ok_iff.mpr ⟨narrow, (Nat.one_shiftLeft _).symm ▸ inside⟩
  rw [eval, bind_of_eq_ok inDomain, bind_of_eq_ok (requireShape_eq_ok_iff.mpr shaped),
    bind_of_eq_ok (walk_eq_ok shaped shallow (leafPath index))]
  rfl

/-! ## Points, leaves and bytes -/

theorem leafPath_lt {index logn : Nat} (inside : index < 2 ^ logn) :
    leafPath index < 2 ^ bitDepth logn := by
  change index / 128 < 2 ^ (logn - 7)
  rcases Nat.lt_or_ge logn 7 with shallow | deep
  · have small : 2 ^ logn < 2 ^ 7 := Nat.pow_lt_pow_right (by decide) shallow
    have none : index / 128 = 0 := Nat.div_eq_of_lt (Nat.lt_trans inside small)
    rw [none]
    exact Nat.two_pow_pos _
  · have split : 2 ^ logn = 2 ^ (logn - 7) * 128 := (Nat.pow_sub_mul_pow 2 deep).symm
    exact Nat.div_lt_of_lt_mul (by omega)

theorem eq_of_leaf_eq {first second : Nat} (paths : leafPath first = leafPath second)
    (places : leafPlace first = leafPlace second) : first = second := by
  rw [← Nat.div_add_mod first 128, ← Nat.div_add_mod second 128]
  change 128 * leafPath first + leafPlace first = 128 * leafPath second + leafPlace second
  rw [paths, places]

@[simp]
theorem size_maskSmallDomain (points : Nat) (packed : Bytes) :
    (maskSmallDomain points packed).size = packed.size := by
  unfold maskSmallDomain
  split
  · exact Array.size_modify
  · rfl

/-- The bits beyond a small domain are cleared; a domain of eight points or more ends with a byte. -/
theorem bit_maskSmallDomain {logn : Nat} {packed : Bytes}
    (size : packed.size = Size.ceilDiv (2 ^ logn) 8) (index : Nat) :
    (maskSmallDomain (2 ^ logn) packed).bit index =
      (decide (index < 2 ^ logn) && packed.bit index) := by
  rcases Nat.lt_or_ge (2 ^ logn) 8 with small | large
  · have positive : 0 < 2 ^ logn := Nat.two_pow_pos logn
    have one : Size.ceilDiv (2 ^ logn) 8 = 1 := by
      rw [Size.ceilDiv, Nat.div_eq_of_lt small, Nat.mod_eq_of_lt small, if_neg (by omega)]
    rw [one] at size
    rcases Nat.lt_or_ge index 8 with within | beyond
    · have quotient : index / 8 = 0 := Nat.div_eq_of_lt within
      have remainder : index % 8 = index := Nat.mod_eq_of_lt within
      have byte : (packed.modify 0 (· &&& UInt8.ofNat ((1 <<< 2 ^ logn) - 1))).getD 0 0 =
          packed.getD 0 0 &&& UInt8.ofNat ((1 <<< 2 ^ logn) - 1) := by
        simp [Array.getD_eq_getD_getElem?, size, Array.getElem_modify]
      rw [maskSmallDomain, if_pos small, Bytes.bit, Bytes.bit, quotient, remainder, byte,
        UInt8.toBitVec_and, BitVec.getLsbD_and, UInt8.toBitVec_ofNat', BitVec.getLsbD_ofNat,
        Nat.one_shiftLeft, Nat.testBit_two_pow_sub_one, decide_eq_true within, Bool.true_and,
        Bool.and_comm]
    · rw [decide_eq_false (by omega), Bool.false_and]
      apply Bytes.bit_eq_false_of_ge
      rw [size_maskSmallDomain, size]
      exact beyond
  · have deep : 3 ≤ logn := Nat.le_of_not_lt fun shallow =>
      Nat.not_lt_of_ge large (Nat.pow_lt_pow_right (by decide) shallow)
    have split : 2 ^ logn = 2 ^ (logn - 3) * 8 := (Nat.pow_sub_mul_pow 2 deep).symm
    have whole : 8 * Size.ceilDiv (2 ^ logn) 8 = 2 ^ logn := by
      rw [Size.ceilDiv, if_pos (by omega)]
      omega
    rw [maskSmallDomain, if_neg (Nat.not_lt_of_ge large)]
    rcases Nat.lt_or_ge index (2 ^ logn) with inside | outside
    · rw [decide_eq_true inside, Bool.true_and]
    · rw [decide_eq_false (Nat.not_lt_of_ge outside), Bool.false_and]
      apply Bytes.bit_eq_false_of_ge
      rw [size, whole]
      exact outside

/-- The bytes of a domain lie within the blocks of its leaves. -/
theorem ceilDiv_le_leafBytes (logn : Nat) :
    Size.ceilDiv (2 ^ logn) 8 ≤ Block.byteCount * 2 ^ bitDepth logn := by
  have last := @leafPath_lt (2 ^ logn - 1) logn (Nat.sub_lt (Nat.two_pow_pos logn) Nat.one_pos)
  have positive := Nat.two_pow_pos logn
  change (2 ^ logn - 1) / 128 < 2 ^ bitDepth logn at last
  change _ ≤ 16 * _
  unfold Size.ceilDiv
  split <;> omega

/-- The values of all leaves, packed into bytes. -/
def packedLeaves (context : HashContext) (key : BitKey) : Bytes :=
  Block.concat
    ((expand context.hash key.seed key.levels key.last).map (leafValues context key)).toArray

theorem size_packedLeaves {key : BitKey} {depth : Nat} (shaped : Shaped depth key.levels key.last) :
    (packedLeaves context key).size = Block.byteCount * 2 ^ depth := by
  rw [packedLeaves, Block.size_concat, List.size_toArray, List.length_map, length_expand shaped]

theorem bit_packedLeaves {key : BitKey} {depth : Nat} (shaped : Shaped depth key.levels key.last)
    {index : Nat} (inside : leafPath index < 2 ^ depth) :
    (packedLeaves context key).bit index = value context key index := by
  let blocks :=
    ((expand context.hash key.seed key.levels key.last).map (leafValues context key)).toArray
  have count : blocks.size = 2 ^ depth := by
    rw [List.size_toArray, List.length_map, length_expand shaped]
  have bound : index < 128 * blocks.size := by
    rw [count]
    change index / 128 < _ at inside
    omega
  have block : blocks.getD (leafPath index) 0 = leafValues context key
      (leafAt context.hash key.seed key.levels key.last (leafPath index)) := by
    rw [Array.getD_eq_getD_getElem?, List.getElem?_toArray, List.getElem?_map,
      getElem?_expand shaped inside]
    rfl
  rw [packedLeaves, Bytes.bit_concat bound]
  change (blocks.getD (leafPath index) 0).getLsbD (leafPlace index) = _
  rw [block]
  rfl

/-- The full expansion of a key that fits its domain succeeds, and its bits are the values of the key
within the domain. -/
theorem evalAll_eq_ok {key : BitKey} {logn : Nat} (made : key.logn = logn) (small : logn < 64)
    (shaped : Shaped (bitDepth logn) key.levels key.last) :
    ∃ packed, evalAll context key logn = .ok packed ∧ packed.size = Size.ceilDiv (2 ^ logn) 8 ∧
      ∀ index, packed.bit index = (decide (index < 2 ^ logn) && value context key index) := by
  let packed := (packedLeaves context key).extract 0 (Size.ceilDiv (2 ^ logn) 8)
  have covered : Size.ceilDiv (2 ^ logn) 8 ≤ (packedLeaves context key).size := by
    rw [size_packedLeaves shaped]
    exact ceilDiv_le_leafBytes logn
  have size : packed.size = Size.ceilDiv (2 ^ logn) 8 := by
    rw [Array.size_extract, Nat.min_eq_left covered, Nat.sub_zero]
  refine ⟨maskSmallDomain (2 ^ logn) packed, ?_, ?_, ?_⟩
  · rw [evalAll, Key.requireLogn, bind_of_eq_ok (require_eq_ok_iff.mpr made), made,
      bind_of_eq_ok (requireShape_eq_ok_iff.mpr shaped), bind_of_eq_ok (Size.powerOfTwo_eq_ok small),
      Nat.one_shiftLeft]
    rfl
  · rw [size_maskSmallDomain, size]
  · intro index
    rw [bit_maskSmallDomain size]
    rcases Nat.lt_or_ge index (2 ^ logn) with inside | outside
    · have within := Size.le_mul_ceilDiv (2 ^ logn)
      rw [Bytes.bit_extract covered (by omega), Nat.mul_zero, Nat.zero_add,
        bit_packedLeaves shaped (leafPath_lt inside)]
    · rw [decide_eq_false (Nat.not_lt_of_ge outside), Bool.false_and, Bool.false_and]

/-! ## The two keys of a pair -/

/-- The word that corrects the leaves of a pair. -/
def leafWord (context : HashContext) (dealt : Dealt) (index : Nat) : Block :=
  (dealt.leaves.map context.hashLeaf).sum ^^^ BitVec.twoPow 128 (leafPlace index)

/-- Generation succeeds, with the keys of what is dealt from the tape and a tape 32 bytes further on. -/
theorem generate_eq_fromTape (context : HashContext) {index logn : Nat} (narrow : logn ≤ maxLogn)
    (inside : index < 2 ^ logn) (tape : Tape) :
    let dealt := Dealt.fromTape context.hash tape (leafPath index) (bitDepth logn)
    generate context index logn tape =
      .ok (keysOf logn dealt (leafWord context dealt index),
        { tape with position := tape.position + 32 }) := by
  intro dealt
  have shallow : bitDepth logn ≤ 32 := Nat.le_trans (Nat.sub_le logn leafLevels) narrow
  have inDomain := requireIndex_eq_ok_iff.mpr ⟨narrow, (Nat.one_shiftLeft _).symm ▸ inside⟩
  have dealing := deal_eq_ok context.hash (leafPath index) shallow tape
  rw [generate, bind_of_eq_ok inDomain, bind_of_eq_ok dealing]
  rfl

theorem generate_eq_ok (context : HashContext) {index logn : Nat} (narrow : logn ≤ maxLogn)
    (inside : index < 2 ^ logn) (tape : Tape) :
    ∃ dealt rest,
      generate context index logn tape = .ok (keysOf logn dealt (leafWord context dealt index), rest) ∧
        dealt.DiffersAlong context.hash tape.drawOffset.1 (leafPath index) (bitDepth logn) :=
  ⟨_, _, generate_eq_fromTape context narrow inside tape,
    Dealt.fromTape_differsAlong context.hash tape (leafPath_lt inside)⟩

/-- In the leaf on the path the sum of the values is the unit block of the chosen point. -/
theorem leafValues_xor_leafValues {offset : Block} {index logn : Nat} {dealt : Dealt}
    (differs : dealt.DiffersAlong context.hash offset (leafPath index) (bitDepth logn)) :
    let keys := keysOf logn dealt (leafWord context dealt index)
    leafValues context keys.first dealt.leaves.first ^^^
        leafValues context keys.second dealt.leaves.second =
      BitVec.twoPow 128 (leafPlace index) := by
  intro keys
  have word : keys.second.leaf = context.hashLeaf dealt.leaves.first ^^^
      context.hashLeaf dealt.leaves.second ^^^ BitVec.twoPow 128 (leafPlace index) := rfl
  change _ ^^^ Block.onlyIf _ keys.second.leaf ^^^ (_ ^^^ Block.onlyIf _ keys.second.leaf) = _
  rw [Block.corrected_xor_corrected, differs.controls_differ, word]
  change _ ^^^ (_ ^^^ BitVec.twoPow 128 (leafPlace index)) = _
  rw [← BitVec.xor_assoc, BitVec.xor_self, BitVec.zero_xor]

/-- Of the values of a pair at one point exactly one is set if the point is the chosen one; otherwise
they are equal. -/
theorem value_xor_value {offset : Block} {index logn : Nat} {dealt : Dealt}
    (differs : dealt.DiffersAlong context.hash offset (leafPath index) (bitDepth logn))
    {point : Nat} (inside : point < 2 ^ logn) :
    let keys := keysOf logn dealt (leafWord context dealt index)
    (value context keys.first point ^^ value context keys.second point) = decide (point = index) := by
  intro keys
  have first : keys.first.seed = dealt.roots.first := rfl
  have second : keys.second.seed = dealt.roots.second := rfl
  rw [value, value, ← BitVec.getLsbD_xor, first, second]
  change (leafValues context keys.first (leafAt _ _ dealt.levels dealt.last _) ^^^
    leafValues context keys.second (leafAt _ _ dealt.levels dealt.last _)).getLsbD _ = _
  by_cases path : leafPath point = leafPath index
  · rw [path, differs.leafAt_first, differs.leafAt_second, leafValues_xor_leafValues differs,
      BitVec.getLsbD_twoPow,
      decide_eq_true (p := leafPlace index < 128) (Nat.mod_lt index (by decide)), Bool.true_and]
    apply Bool.eq_iff_iff.mpr
    rw [decide_eq_true_eq, decide_eq_true_eq]
    constructor
    · intro samePlace
      exact eq_of_leaf_eq path samePlace.symm
    · intro same
      rw [same]
  · have other : point ≠ index := fun same => path (congrArg leafPath same)
    rw [decide_eq_false other, differs.leaves_agree (leafPath point) (leafPath_lt inside) path]
    change (leafValues context keys.first _ ^^^ leafValues context keys.first _).getLsbD _ = _
    rw [BitVec.xor_self]
    exact BitVec.getLsbD_zero

/-- **Two keys make one point.**  For every point of a domain of at most `2 ^ 32` points, generation
succeeds, both full expansions succeed, and their sum is the byte string in which the bit of that point
alone is set. -/
theorem generate_evalAll_xor (context : HashContext) (logn index : Nat) (narrow : logn ≤ maxLogn)
    (inside : index < 2 ^ logn) (tape : Tape) :
    ∃ keys rest first second,
      generate context index logn tape = .ok (keys, rest) ∧
        evalAll context keys.first logn = .ok first ∧
        evalAll context keys.second logn = .ok second ∧
        first.size = Size.ceilDiv (2 ^ logn) 8 ∧ second.size = Size.ceilDiv (2 ^ logn) 8 ∧
        Bytes.xor first second = Bytes.oneBit (2 ^ logn) index := by
  have small : logn < 64 := Nat.lt_of_le_of_lt narrow (by decide)
  rcases generate_eq_ok context narrow inside tape with ⟨dealt, rest, generated, differs⟩
  let keys := keysOf logn dealt (leafWord context dealt index)
  rcases @evalAll_eq_ok context keys.first logn rfl small differs.shaped with
    ⟨first, firstOk, firstSize, firstBits⟩
  rcases @evalAll_eq_ok context keys.second logn rfl small differs.shaped with
    ⟨second, secondOk, secondSize, secondBits⟩
  have sameSize : first.size = second.size := firstSize.trans secondSize.symm
  refine ⟨keys, rest, first, second, generated, firstOk, secondOk, firstSize, secondSize, ?_⟩
  apply Bytes.eq_of_bit_eq
  · rw [Bytes.size_xor_of_size_eq sameSize, Bytes.size_oneBit, firstSize]
  · intro point _
    rw [Bytes.bit_xor sameSize, firstBits, secondBits, Bytes.bit_oneBit inside]
    rcases Nat.lt_or_ge point (2 ^ logn) with within | beyond
    · rw [decide_eq_true within, Bool.true_and, Bool.true_and, value_xor_value differs within]
    · have other : point ≠ index := by omega
      rw [decide_eq_false (Nat.not_lt_of_ge beyond), decide_eq_false other]
      rfl

/-- A domain of 512 points, whose tree has two levels. -/
theorem generate_evalAll_xor_of_512_points :
    9 ≤ maxLogn ∧ 300 < 2 ^ 9 ∧
      ∃ keys rest first second,
        generate ⟨0x2b7e, 0x1516⟩ 300 9 (Tape.repeating #[3, 141, 59]) = .ok (keys, rest) ∧
          evalAll ⟨0x2b7e, 0x1516⟩ keys.first 9 = .ok first ∧
          evalAll ⟨0x2b7e, 0x1516⟩ keys.second 9 = .ok second ∧
          first.size = Size.ceilDiv (2 ^ 9) 8 ∧ second.size = Size.ceilDiv (2 ^ 9) 8 ∧
          Bytes.xor first second = Bytes.oneBit (2 ^ 9) 300 :=
  ⟨by decide, by decide,
    generate_evalAll_xor ⟨0x2b7e, 0x1516⟩ 9 300 (by decide) (by decide)
      (Tape.repeating #[3, 141, 59])⟩

end BitKey
end PointFunction
end PrivateRetrieval
