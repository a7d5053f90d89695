import PrivateRetrieval.Block.Basic

namespace PrivateRetrieval
namespace Block

/-!
# Blocks as seeds

A seed of the tree consists of a body, its first fifteen bytes and the upper seven bits of the last,
and the control bit, the lowest bit of the last byte.  Where only the body's fifteen bytes and the
control bit should count, the seed is normalised: the upper seven bits of its last byte are cleared.

Normalising is linear, so two seeds with a known sum have normalised seeds with a known sum.
-/

/-- The control bit: the lowest bit of the last byte. -/
def control (seed : Block) : Bool :=
  seed.getLsbD 120

/-- The first fifteen bytes. -/
def body (seed : Block) : BitVec 120 :=
  seed.setWidth 120

/-- The last byte of a seed that holds nothing but a control bit. -/
def controlByte (bit : Bool) : BitVec 8 :=
  if bit then 1 else 0

/-- The seed with its last byte replaced by a bare control bit. -/
def withControl (seed : Block) (bit : Bool) : Block :=
  controlByte bit ++ seed.body

/-- The seed with nothing but the control bit left in its last byte. -/
def normalize (seed : Block) : Block :=
  seed.withControl seed.control

/-- The block, or the zero block. -/
def onlyIf (condition : Bool) (block : Block) : Block :=
  if condition then block else 0

/-! ## Bits of a seed -/

/-- Below the last byte the seed is kept; of the last byte only the new control bit is left. -/
theorem getLsbD_withControl (seed : Block) (bit : Bool) (index : Nat) :
    (seed.withControl bit).getLsbD index =
      if index < 120 then seed.getLsbD index else (decide (index = 120) && bit) := by
  change (controlByte bit ++ seed.body).getLsbD index = _
  rw [BitVec.getLsbD_append]
  split
  · rename_i below
    rw [body, BitVec.getLsbD_setWidth, decide_eq_true below, Bool.true_and]
  · rename_i notBelow
    rcases Nat.lt_or_eq_of_le (Nat.le_of_not_lt notBelow) with above | here
    · have notHere : index ≠ 120 := Nat.ne_of_gt above
      have positive : index - 120 ≠ 0 := Nat.sub_ne_zero_of_lt above
      cases bit <;> simp [controlByte, notHere, positive]
    · subst here
      cases bit <;> rfl

@[simp]
theorem control_withControl (seed : Block) (bit : Bool) : (seed.withControl bit).control = bit := by
  change (controlByte bit ++ seed.body).getLsbD 120 = bit
  rw [BitVec.getLsbD_append]
  cases bit <;> rfl

/-- The control bit and the body determine a normalised seed. -/
theorem withControl_congr {left right : Block} {bit : Bool} (bodies : left.body = right.body) :
    left.withControl bit = right.withControl bit := by
  rw [withControl, withControl, bodies]

@[simp]
theorem control_normalize (seed : Block) : seed.normalize.control = seed.control :=
  control_withControl seed seed.control

/-- Normalising keeps the bits up to the control bit and clears the seven above it. -/
theorem getLsbD_normalize (seed : Block) (index : Nat) :
    seed.normalize.getLsbD index = (decide (index ≤ 120) && seed.getLsbD index) := by
  rw [normalize, getLsbD_withControl]
  split
  · rename_i below
    rw [decide_eq_true (Nat.le_of_lt below), Bool.true_and]
  · rename_i notBelow
    by_cases here : index = 120
    · subst here
      rfl
    · have above : ¬ index ≤ 120 := fun le => here (Nat.le_antisymm le (Nat.le_of_not_lt notBelow))
      rw [decide_eq_false here, decide_eq_false above, Bool.false_and, Bool.false_and]

/-! ## Sums of seeds -/

theorem control_xor (left right : Block) :
    control (left ^^^ right) = (left.control ^^ right.control) :=
  BitVec.getLsbD_xor

theorem body_xor (left right : Block) : body (left ^^^ right) = left.body ^^^ right.body :=
  BitVec.setWidth_xor

/-! ## Conditional terms -/

theorem onlyIf_xor_onlyIf (condition : Bool) (left right : Block) :
    onlyIf condition left ^^^ onlyIf condition right = onlyIf condition (left ^^^ right) := by
  cases condition
  · exact BitVec.xor_zero
  · rfl

/-- A block that two parties add conditionally is left if exactly one of them adds it. -/
theorem onlyIf_xor_onlyIf_same (left right : Bool) (block : Block) :
    onlyIf left block ^^^ onlyIf right block = onlyIf (left ^^ right) block := by
  cases left
  · rw [Bool.false_xor]
    exact BitVec.zero_xor
  · cases right
    · exact BitVec.xor_zero
    · exact BitVec.xor_self

/-- The sum of two blocks to which two parties add one correction word, each under its own condition. -/
theorem corrected_xor_corrected (left right word : Block) (leftAdds rightAdds : Bool) :
    left ^^^ onlyIf leftAdds word ^^^ (right ^^^ onlyIf rightAdds word) =
      left ^^^ right ^^^ onlyIf (leftAdds ^^ rightAdds) word := by
  rw [← onlyIf_xor_onlyIf_same]
  ac_rfl

end Block
end PrivateRetrieval
