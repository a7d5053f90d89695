import PrivateRetrieval.Proofs.Fold.Linearity
import PrivateRetrieval.Proofs.Fold.Rows

namespace PrivateRetrieval

/-!
# Weights of zero and one

A selection becomes a list of weights: one for every selected row and zero for every other.  One times a
block is the block, and the sum of blocks is the exclusive or of their bytes, so the fold of all rows with
these weights is the fold of the selected rows, byte for byte.

The two folds share nothing but the selection.  One goes through the bits and adds bytes; the other goes
through a list of elements and adds products of whole blocks, reduced modulo the field polynomial.
-/

/-! ## The weights -/

namespace Selection

variable {selection : Bytes} {rows : Nat}

/-- One for a chosen row and zero for any other. -/
def indicator (chosen : Nat → Bool) (row : Nat) : Element :=
  if chosen row then 1 else 0

theorem toWeights_eq_ok (short : selection.size * 8 < Size.limit)
    (covers : rows ≤ selection.size * 8) :
    toWeights selection rows = .ok ((List.range rows).map (indicator selection.bit)) := by
  rw [toWeights, coverage, bind_of_eq_ok (Size.mul_eq_ok short),
    bind_of_eq_ok (require_eq_ok_iff.mpr covers)]
  apply mapM_eq_ok
  intro row member
  have covered : row < selection.size * 8 := Nat.lt_of_lt_of_le (List.mem_range.mp member) covers
  rw [bind_of_eq_ok (isSelected_eq_ok covered)]
  rfl

theorem getD_map_indicator (chosen : Nat → Bool) {row : Nat} (inside : row < rows) :
    ((List.range rows).map (indicator chosen)).getD row 0 = indicator chosen row := by
  rw [List.getD_eq_getElem?_getD, List.getElem?_map, List.getElem?_range inside]
  rfl

theorem toWeights_eq_error (long : Size.limit ≤ selection.size * 8) :
    toWeights selection rows = .error (.fault .sizeOverflow) :=
  bind_of_eq_error (Size.mul_eq_error long) _

end Selection

namespace Database

open Selection

variable (database : Database) (chosen : Nat → Bool)

/-- To add a row's block times its indicator is to add the row's bytes if the row is chosen. -/
theorem add_indicator_mul (row block : Nat) (byteAt : Nat → UInt8) :
    (⟨Block.ofByteAt byteAt⟩ + indicator chosen row * database.elementAt row block : Element) =
      ⟨Block.ofByteAt fun place =>
        if chosen row then byteAt place ^^^ database.byteAt row (Block.byteCount * block + place)
        else byteAt place⟩ := by
  rw [indicator]
  cases chosen row with
  | true =>
      rw [if_pos rfl, one_mul, elementAt, Element.mk_add_mk, ← Block.ofByteAt_xor]
      simp only [if_true]
  | false =>
      rw [if_neg Bool.false_ne_true, zero_mul, add_zero]
      simp only [Bool.false_eq_true, if_false]

/-- The sum of all rows with the indicator as weight has at each of its bytes the sum of the chosen
rows. -/
theorem weightedSum_indicator (block : Nat) (byteAt : Nat → UInt8) :
    database.weightedSum (indicator chosen) block ⟨Block.ofByteAt byteAt⟩ =
      ⟨Block.ofByteAt fun place =>
        database.selectedSum chosen (Block.byteCount * block + place) (byteAt place)⟩ := by
  unfold weightedSum selectedSum
  generalize List.range database.rows = rows
  induction rows generalizing byteAt with
  | nil => rfl
  | cons row rest later =>
      rw [List.foldl_cons, add_indicator_mul, later]
      rfl

variable {database}

/-- The weighted rows with the indicator as weight are the chosen rows. -/
theorem addWeighted_indicator (whole : database.rowLength % Block.byteCount = 0) {output : Bytes}
    (fits : output.size = database.rowLength) :
    database.addWeighted (indicator chosen) output = database.addSelected chosen output := by
  have size : (database.addWeighted (indicator chosen) output).size = database.rowLength :=
    (Element.size_mapBlocks _ (fits.symm ▸ whole)).trans fits
  have selectedSize : (database.addSelected chosen output).size = output.size := Array.size_mapIdx
  apply Element.eq_of_blockAt_eq
  · rw [size, selectedSize, fits]
  · rw [size, whole]
  · intro block within
    rw [size] at within
    rw [blockAt_addWeighted whole _ fits within, Element.blockAt_eq_ofByteAt,
      Element.blockAt_eq_ofByteAt, weightedSum_indicator]
    refine congrArg Element.mk (Block.ofByteAt_congr ?_)
    intro place small
    have inside : Block.byteCount * block + place < output.size := by
      change place < 16 at small
      change block < database.rowLength / 16 at within
      change 16 * block + place < output.size
      omega
    rw [getD_addSelected _ _ inside]

end Database

namespace Fold

variable {selection : Bytes} {database : Database} {output : Bytes}

/-- **Both ways of selecting.**  For rows of whole blocks the fold with the weights made from a selection
ends as the fold of the selected rows does, with the same bytes in the output.  If the bits of the
selection cannot be counted, neither is carried out, for the same reason. -/
theorem run_weighted_toWeights_eq (whole : database.rowLength % Block.byteCount = 0)
    (covers : database.rows ≤ selection.size * 8) (fits : output.size = database.rowLength) :
    (selection.size * 8 < Size.limit →
        ∃ weights folded, Selection.toWeights selection database.rows = .ok weights ∧
          (weighted weights database).run output = .ok () folded ∧
          (selected selection database).run output = .ok () folded) ∧
      (Size.limit ≤ selection.size * 8 →
        Selection.toWeights selection database.rows = .error (.fault .sizeOverflow) ∧
          (selected selection database).run output = .error (.fault .sizeOverflow) output) := by
  constructor
  · intro short
    have count : ((List.range database.rows).map (Selection.indicator selection.bit)).length =
        database.rows := by
      rw [List.length_map, List.length_range]
    refine ⟨_, _, Selection.toWeights_eq_ok short covers, run_weighted_eq_ok whole count fits, ?_⟩
    rw [(selected_computes short covers output fits).1,
      Database.addWeighted_congr (fun _ => Selection.getD_map_indicator selection.bit),
      Database.addWeighted_indicator _ whole fits]
  · intro long
    exact ⟨Selection.toWeights_eq_error long, selected_refuses fits long⟩

/-- The second of two rows of three blocks is selected, with stray bits and a byte too many, into an output
that is not clear. -/
theorem run_weighted_toWeights_eq_of_two_rows :
    48 % Block.byteCount = 0 ∧ 2 ≤ 2 * 8 ∧ 2 * 8 < Size.limit ∧
      ∃ folded, Selection.toWeights #[0xfe, 0x55] 2 = .ok [0, 1] ∧
        (weighted [0, 1] twoWideRows).run (Array.replicate 48 0xa5) = .ok () folded ∧
        (selected #[0xfe, 0x55] twoWideRows).run (Array.replicate 48 0xa5) = .ok () folded := by
  have agree := @run_weighted_toWeights_eq #[0xfe, 0x55] twoWideRows (Array.replicate 48 0xa5)
    (by decide) (by decide) Array.size_replicate
  rcases agree.1 (by decide) with ⟨weights, folded, made, weightedRun, selectedRun⟩
  have listed : Selection.toWeights #[0xfe, 0x55] 2 = .ok [0, 1] := by rfl
  cases Except.ok.inj (listed.symm.trans made)
  exact ⟨by decide, by decide, by decide, folded, listed, weightedRun, selectedRun⟩

end Fold
end PrivateRetrieval
