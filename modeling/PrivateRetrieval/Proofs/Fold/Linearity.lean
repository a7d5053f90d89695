import PrivateRetrieval.Proofs.Field.LittleEndian
import PrivateRetrieval.Proofs.Fold.Answer
import PrivateRetrieval.Proofs.Fold.Sharing

namespace PrivateRetrieval

/-!
# Weighted rows as a linear map

The fold of weighted rows adds to every block of its output the sum of that block in all rows times their
weights.  Blocks are read here with the least significant byte first, and the sum goes over all rows: those
of weight zero, which the fold does not read, contribute zero.

So the fold into an output of zeros is a linear map from the weights.  A factor that is common to all
weights is a factor of every block of the fold, and if it is not zero its inverse takes it off again.
-/

namespace Database

variable {database : Database}

theorem elementAt_eq_blockAt {index : Nat} (inside : index < database.rows) {block : Nat}
    (within : block < database.rowLength / Block.byteCount) :
    database.elementAt index block = Element.blockAt (database.rowBytes index) block := by
  have size := size_rowBytes inside
  have read := Element.getElem?_split_eq_blockAt (database.rowBytes index) (size.symm ▸ within)
  rw [getElem?_split_rowBytes inside within] at read
  exact Option.some.inj read

/-- The weighted sum at one block of the rows as they are read. -/
theorem weightedSum_eq_sum_blockAt (weight : Nat → Element) {block : Nat}
    (within : block < database.rowLength / Block.byteCount) (start : Element) :
    database.weightedSum weight block start =
      start + ∑ row ∈ Finset.range database.rows,
        weight row * Element.blockAt (database.rowBytes row) block := by
  rw [weightedSum_eq_sum]
  refine congrArg (start + ·) (Finset.sum_congr rfl ?_)
  intro row member
  rw [elementAt_eq_blockAt (Finset.mem_range.mp member) within]

theorem weightedSum_mul_add (factor : Element) (left right : Nat → Element) (block : Nat) :
    database.weightedSum (fun row => factor * left row + right row) block 0 =
      factor * database.weightedSum left block 0 + database.weightedSum right block 0 := by
  simp only [weightedSum_eq_sum, zero_add, add_mul, mul_assoc, Finset.sum_add_distrib,
    Finset.mul_sum]

variable (whole : database.rowLength % Block.byteCount = 0)

include whole

theorem blockAt_addWeighted (weight : Nat → Element) {output : Bytes}
    (fits : output.size = database.rowLength) {block : Nat}
    (within : block < database.rowLength / Block.byteCount) :
    Element.blockAt (database.addWeighted weight output) block =
      database.weightedSum weight block (Element.blockAt output block) :=
  Element.blockAt_mapBlocks _ (fits.symm ▸ whole) (fits.symm ▸ within)

theorem blockAt_sumOfWeighted (weight : Nat → Element) {block : Nat}
    (within : block < database.rowLength / Block.byteCount) :
    Element.blockAt (database.sumOfWeighted weight) block = database.weightedSum weight block 0 := by
  rw [sumOfWeighted, blockAt_addWeighted whole weight (Bytes.size_zeros _) within,
    Element.blockAt_zeros]

theorem blockAt_sumOfWeighted_mul_add (factor : Element) (left right : Nat → Element) {block : Nat}
    (within : block < database.rowLength / Block.byteCount) :
    Element.blockAt (database.sumOfWeighted fun row => factor * left row + right row) block =
      factor * Element.blockAt (database.sumOfWeighted left) block +
        Element.blockAt (database.sumOfWeighted right) block := by
  rw [blockAt_sumOfWeighted whole _ within, blockAt_sumOfWeighted whole _ within,
    blockAt_sumOfWeighted whole _ within, weightedSum_mul_add]

/-- The inverse of a common factor of all weights takes it off the sum. -/
theorem mapBlocks_inverse_sumOfWeighted {factor : Element} (other : factor ≠ 0)
    (weight : Nat → Element) :
    Element.mapBlocks (fun _ element => factor.inverse * element)
        (database.sumOfWeighted fun row => factor * weight row) =
      database.sumOfWeighted weight := by
  have scaled := size_sumOfWeighted whole fun row => factor * weight row
  have mapped := (Element.size_mapBlocks (fun _ element => factor.inverse * element)
    (scaled.symm ▸ whole)).trans scaled
  have inverts : factor.inverse * factor = 1 :=
    (mul_comm _ _).trans (Element.mul_inverse_cancel factor other)
  apply Element.eq_of_blockAt_eq
  · rw [mapped, size_sumOfWeighted whole]
  · rw [mapped, whole]
  · intro block within
    rw [mapped] at within
    rw [Element.blockAt_mapBlocks _ (scaled.symm ▸ whole) (scaled.symm ▸ within),
      blockAt_sumOfWeighted whole _ within, blockAt_sumOfWeighted whole _ within,
      weightedSum_eq_sum, weightedSum_eq_sum, zero_add, zero_add, Finset.mul_sum]
    apply Finset.sum_congr rfl
    intro row _
    rw [← mul_assoc, ← mul_assoc, inverts, one_mul]

/-! ## Lists of weights -/

omit whole in
theorem sumOfWeighted_zipWith (factor : Element) {left right : List Element}
    (leftCount : left.length = database.rows) (rightCount : right.length = database.rows) :
    database.sumOfWeighted ((List.zipWith (fun u v => factor * u + v) left right).getD · 0) =
      database.sumOfWeighted fun row => factor * left.getD row 0 + right.getD row 0 := by
  apply sumOfWeighted_congr
  intro row inside
  simp [List.getD_eq_getElem?_getD, leftCount, rightCount, inside]

omit whole in
theorem sumOfWeighted_map (factor : Element) {weights : List Element}
    (count : weights.length = database.rows) :
    database.sumOfWeighted ((weights.map (factor * ·)).getD · 0) =
      database.sumOfWeighted fun row => factor * weights.getD row 0 := by
  apply sumOfWeighted_congr
  intro row inside
  simp [List.getD_eq_getElem?_getD, count, inside]

end Database

namespace Fold

/-- What the fold of weighted rows does to the blocks of its output.  There is one weight for each row, and
the output is as long as a row. -/
structure FoldsLinearly (database : Database) : Prop where
  /-- Every block of the output receives the sum over all rows of the weight times the row's block. -/
  adds_weighted_rows : ∀ (weights : List Element) (output : Bytes), weights.length = database.rows →
    output.size = database.rowLength →
      ∃ folded, (weighted weights database).run output = .ok () folded ∧
        folded.size = output.size ∧
        ∀ block, block < database.rowLength / Block.byteCount →
          Element.blockAt folded block =
            Element.blockAt output block + ∑ row ∈ Finset.range database.rows,
              weights.getD row 0 * Element.blockAt (database.rowBytes row) block
  /-- A combination of weights is folded into zeros to the combination of their folds. -/
  combines : ∀ (left right : List Element) (factor : Element), left.length = database.rows →
    right.length = database.rows →
      ∃ leftFold rightFold mixedFold,
        (weighted left database).run (Bytes.zeros database.rowLength) = .ok () leftFold ∧
        (weighted right database).run (Bytes.zeros database.rowLength) = .ok () rightFold ∧
        (weighted (List.zipWith (fun u v => factor * u + v) left right) database).run
            (Bytes.zeros database.rowLength) = .ok () mixedFold ∧
        ∀ block, block < database.rowLength / Block.byteCount →
          Element.blockAt mixedFold block =
            factor * Element.blockAt leftFold block + Element.blockAt rightFold block
  /-- The inverse of a factor that all weights have in common takes it off the fold into zeros. -/
  takes_factor_off : ∀ (weights : List Element) (factor : Element),
    weights.length = database.rows → factor ≠ 0 →
      ∃ folded scaledFold,
        (weighted weights database).run (Bytes.zeros database.rowLength) = .ok () folded ∧
        (weighted (weights.map (factor * ·)) database).run (Bytes.zeros database.rowLength) =
          .ok () scaledFold ∧
        (addScaled factor.inverse scaledFold).run (Bytes.zeros database.rowLength) =
          .ok () folded

variable {database : Database} (whole : database.rowLength % Block.byteCount = 0)

include whole

theorem run_weighted_eq_ok {weights : List Element} (count : weights.length = database.rows)
    {output : Bytes} (fits : output.size = database.rowLength) :
    (weighted weights database).run output =
      .ok () (database.addWeighted (weights.getD · 0) output) :=
  (weighted_computes count whole output fits).1

theorem run_weighted_zeros {weights : List Element} (count : weights.length = database.rows) :
    (weighted weights database).run (Bytes.zeros database.rowLength) =
      .ok () (database.sumOfWeighted (weights.getD · 0)) :=
  run_weighted_eq_ok whole count (Bytes.size_zeros _)

/-- A multiple of a row that is added to zeros is the multiple itself. -/
theorem run_addScaled_zeros (weight : Element) {row : Bytes} (fits : row.size = database.rowLength) :
    (addScaled weight row).run (Bytes.zeros database.rowLength) =
      .ok () (Element.mapBlocks (fun _ element => weight * element) row) := by
  rw [(addScaled_computes weight fits whole _ (Bytes.size_zeros _)).1, ← fits]
  exact congrArg _ (Element.mapBlocks_zeros (weight * ·) (fits.symm ▸ whole))

/-- **Weighted rows.**  If a row is a whole number of blocks, the fold of weighted rows succeeds, adds the
weighted sums of all rows, and is linear in the weights. -/
theorem weighted_foldsLinearly : FoldsLinearly database where
  adds_weighted_rows weights output count fits := by
    refine ⟨_, run_weighted_eq_ok whole count fits, ?_, ?_⟩
    · exact Element.size_mapBlocks _ (fits.symm ▸ whole)
    · intro block within
      rw [Database.blockAt_addWeighted whole _ fits within,
        Database.weightedSum_eq_sum_blockAt _ within]
  combines left right factor leftCount rightCount := by
    have mixedCount : (List.zipWith (fun u v => factor * u + v) left right).length =
        database.rows := by
      rw [List.length_zipWith, leftCount, rightCount, Nat.min_self]
    refine ⟨_, _, _, run_weighted_zeros whole leftCount, run_weighted_zeros whole rightCount,
      run_weighted_zeros whole mixedCount, ?_⟩
    intro block within
    rw [Database.sumOfWeighted_zipWith factor leftCount rightCount,
      Database.blockAt_sumOfWeighted_mul_add whole _ _ _ within]
  takes_factor_off weights factor count other := by
    have scaledCount : (weights.map (factor * ·)).length = database.rows := by
      rw [List.length_map, count]
    have size := Database.size_sumOfWeighted whole ((weights.map (factor * ·)).getD · 0)
    refine ⟨_, _, run_weighted_zeros whole count, run_weighted_zeros whole scaledCount, ?_⟩
    rw [run_addScaled_zeros whole _ size, Database.sumOfWeighted_map factor count,
      Database.mapBlocks_inverse_sumOfWeighted whole other]

omit whole in
/-- Two rows of three blocks: weights with a zero among them into an output that is not clear, two lists
that are combined, and a factor that is taken off again. -/
theorem twoWideRows_foldsLinearly :
    48 % Block.byteCount = 0 ∧
      (∃ folded, (weighted [0, ⟨0x87⟩] twoWideRows).run (Array.replicate 48 0xa5) = .ok () folded ∧
        Element.blockAt folded 2 =
          Element.blockAt (Array.replicate 48 0xa5) 2 + ∑ row ∈ Finset.range 2,
            [0, (⟨0x87⟩ : Element)].getD row 0 * Element.blockAt (twoWideRows.rowBytes row) 2) ∧
      (∃ leftFold rightFold mixedFold,
        (weighted [0, ⟨0x87⟩] twoWideRows).run (Bytes.zeros 48) = .ok () leftFold ∧
        (weighted [1, ⟨2⟩] twoWideRows).run (Bytes.zeros 48) = .ok () rightFold ∧
        (weighted [⟨3⟩ * 0 + 1, ⟨3⟩ * ⟨0x87⟩ + ⟨2⟩] twoWideRows).run (Bytes.zeros 48) =
          .ok () mixedFold ∧
        Element.blockAt mixedFold 0 =
          ⟨3⟩ * Element.blockAt leftFold 0 + Element.blockAt rightFold 0) ∧
      (⟨3⟩ : Element) ≠ 0 ∧
      ∃ folded scaledFold,
        (weighted [0, ⟨0x87⟩] twoWideRows).run (Bytes.zeros 48) = .ok () folded ∧
        (weighted [⟨3⟩ * 0, ⟨3⟩ * ⟨0x87⟩] twoWideRows).run (Bytes.zeros 48) = .ok () scaledFold ∧
        (addScaled (⟨3⟩ : Element).inverse scaledFold).run (Bytes.zeros 48) = .ok () folded := by
  have linear := @weighted_foldsLinearly twoWideRows (by decide)
  rcases linear.adds_weighted_rows [0, ⟨0x87⟩] (Array.replicate 48 0xa5) rfl
    Array.size_replicate with ⟨folded, ran, _, blocks⟩
  rcases linear.combines [0, ⟨0x87⟩] [1, ⟨2⟩] ⟨3⟩ rfl rfl with
    ⟨leftFold, rightFold, mixedFold, leftRan, rightRan, mixedRan, mixed⟩
  have other : (⟨3⟩ : Element) ≠ 0 := by decide
  exact ⟨by decide, ⟨folded, ran, blocks 2 (by decide)⟩,
    ⟨leftFold, rightFold, mixedFold, leftRan, rightRan, mixedRan, mixed 0 (by decide)⟩, other,
    linear.takes_factor_off [0, ⟨0x87⟩] ⟨3⟩ rfl other⟩

end Fold
end PrivateRetrieval
