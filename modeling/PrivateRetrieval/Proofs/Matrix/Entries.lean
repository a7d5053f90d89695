import Mathlib.Algebra.BigOperators.Ring.Finset
import PrivateRetrieval.Proofs.Matrix.Sharing

namespace PrivateRetrieval
namespace Matrix

open Update Workers

/-!
# The entries of a product

A kernel goes through the rows of the right factor, brings in a whole row at a time and wraps after every
step.  What it leaves in an entry of the output is said here with natural numbers: the number that was
there before, plus the sum of the exact products along the inner dimension, modulo `2 ^ w`.  The rows of
the left factor are counted from its first row, those of the output from the first row of the range.

An entry depends on nothing but its row and its column.  So the whole output may be computed at once, or
range by range in any order.
-/

variable {w : Nat}

/-- To wrap after every step is to wrap once, at the end. -/
theorem toNat_foldl_add_mul (left right : Nat → BitVec w) (start : BitVec w) (count : Nat) :
    ((List.range count).foldl (fun sum k => sum + left k * right k) start).toNat =
      (start.toNat + ∑ k ∈ Finset.range count, (left k).toNat * (right k).toNat) % 2 ^ w := by
  induction count with
  | zero => exact (Nat.mod_eq_of_lt start.isLt).symm
  | succ count earlier =>
      rw [List.range_succ, List.foldl_append, List.foldl_cons, List.foldl_nil, BitVec.toNat_add,
        BitVec.toNat_mul, earlier, Finset.sum_range_succ, ← Nat.add_mod, Nat.add_assoc]

theorem toNat_productEntry (left right : Matrix (BitVec w)) (i j : Nat) (start : BitVec w) :
    (productEntry left right i j start).toNat =
      (start.toNat + ∑ k ∈ Finset.range left.cols,
        (left.entry i k).toNat * (right.entry k j).toNat) % 2 ^ w :=
  toNat_foldl_add_mul (left.entry i) (right.entry · j) start left.cols

/-- What becomes of the output rows for a range of rows of the left factor.  As many entries as the range
asks for are there, so nothing but these entries can change. -/
structure AddsRows (left right : Matrix (BitVec w)) (range : RowRange)
    (before after : Array (BitVec w)) : Prop where
  size_eq : after.size = before.size
  entry_eq : ∀ i j, range.start ≤ i → i < range.stop → j < right.cols →
    (after.getD ((i - range.start) * right.cols + j) 0).toNat =
      ((before.getD ((i - range.start) * right.cols + j) 0).toNat +
        ∑ k ∈ Finset.range left.cols, (left.entry i k).toNat * (right.entry k j).toNat) % 2 ^ w

variable {left right : Matrix (BitVec w)}

theorem changeRows_addsRows {range : RowRange} {output : Array (BitVec w)}
    (fits : output.size = range.length * right.cols) :
    AddsRows left right range output
      (changeRows (productEntry left right) right.cols range.start output) where
  size_eq := size_changeRows _ _ _ _
  entry_eq i j first last within := by
    have row : i - range.start < range.length := by
      rw [RowRange.length]
      omega
    have present : (i - range.start) * right.cols + j < output.size :=
      fits.symm ▸ position_lt row within
    rw [getD_changeRows within present, Nat.add_sub_of_le first, toNat_productEntry]

/-- **The product, entry by entry.**  Let the inner dimensions of two factors agree.  For any range of rows
of the left factor and any output rows for that range, as many entries as a count of 64 bits allows, the
kernel succeeds and adds to every entry the sum of the products along the inner dimension, modulo `2 ^ w`.
So the product adds to every entry of its output, and ranges that tile the rows of the left factor, each
with its own piece of the output, give that product in every order. -/
theorem multiply_adds_product (inner : left.cols = right.rows) :
    (∀ (range : RowRange) (output : Array (BitVec w)), range.start ≤ range.stop →
        range.stop ≤ left.rows → output.size = range.length * right.cols →
        output.size < Size.limit →
        ∃ product, (multiplyRows left right range).run output = .ok () product ∧
          AddsRows left right range output product) ∧
      ∀ output : Matrix (BitVec w), output.rows = left.rows → output.cols = right.cols →
        ∃ product, (multiply left right output.shape).run output.data = .ok () product ∧
          AddsRows left right ⟨0, left.rows⟩ output.data product ∧
          ∀ ranges order : List RowRange, Tiles 0 ranges left.rows → ranges.Perm order →
            (order.forM fun range =>
                (rowsSlice right.cols range).update (multiplyRows left right range)).run
              output.data = .ok () product := by
  constructor
  · intro range output ordered inside fits small
    have computes := productRows_computes addMultiple_entrywise inner ordered inside (fits ▸ small)
    exact ⟨_, (computes output fits).1, changeRows_addsRows fits⟩
  · intro output rows cols
    rcases size_of_outer ⟨rows, cols⟩ with ⟨fits, small⟩
    have whole := overAllRows_computes addMultiple_entrywise inner ⟨rows, cols⟩ small
    refine ⟨_, (whole output.data fits).1, changeRows_addsRows fits, ?_⟩
    intro ranges order tiles permuted
    have each := partOfProduct_computes addMultiple_entrywise inner small
    exact (forM_ranges_computes tiles permuted each output.data fits).1

/-- Rows 1 to 3 of five, with words that wrap, and all five rows in three ranges, of which one is empty and
the last comes first. -/
theorem multiply_adds_product_of_five_rows :
    fiveByTwo.cols = twoByThree.rows ∧
      (∃ product,
        (multiplyRows fiveByTwo twoByThree ⟨1, 4⟩).run (fiveByThree.data.extract 3 12) =
            .ok () product ∧
          (product.getD 4 0).toNat =
            (((fiveByThree.data.extract 3 12).getD 4 0).toNat + ∑ k ∈ Finset.range 2,
              (fiveByTwo.entry 2 k).toNat * (twoByThree.entry k 1).toNat) % 2 ^ 32) ∧
      ∃ product,
        (multiply fiveByTwo twoByThree ⟨5, 3⟩).run fiveByThree.data = .ok () product ∧
          ([⟨3, 5⟩, ⟨0, 3⟩, ⟨3, 3⟩].forM fun range : RowRange =>
              (rowsSlice 3 range).update (multiplyRows fiveByTwo twoByThree range)).run
            fiveByThree.data = .ok () product := by
  have inner : fiveByTwo.cols = twoByThree.rows := rfl
  have adds := multiply_adds_product inner
  rcases adds.1 ⟨1, 4⟩ (fiveByThree.data.extract 3 12) (by decide) (by decide) (by decide)
    (by decide) with ⟨product, ran, rows⟩
  rcases adds.2 fiveByThree rfl rfl with ⟨whole, ranWhole, _, ranges⟩
  have entry := rows.entry_eq 2 1 (by decide) (by decide) (by decide)
  have tiles : Tiles 0 [⟨0, 3⟩, ⟨3, 3⟩, ⟨3, 5⟩] fiveByTwo.rows := by
    refine ⟨rfl, by decide, rfl, by decide, rfl, by decide, rfl⟩
  have permuted : List.Perm [⟨0, 3⟩, ⟨3, 3⟩, ⟨3, 5⟩] [⟨3, 5⟩, ⟨0, 3⟩, (⟨3, 3⟩ : RowRange)] := by
    decide
  exact ⟨inner, ⟨product, ran, entry⟩, whole, ranWhole, ranges _ _ tiles permuted⟩

end Matrix
end PrivateRetrieval
