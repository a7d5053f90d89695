import Mathlib.Algebra.BigOperators.Ring.Finset
import PrivateRetrieval.Fold.Sum
import PrivateRetrieval.Proofs.Field.Inverse

namespace PrivateRetrieval
namespace Database

/-!
# Two sums make one

The sums of one position under two selections add up to the sum under the exclusive or of the
selections, and the same holds of weights.  If the two selections differ at one row only, or the weights
add up to zero at all rows but one, that row alone is left; if it lies past the end of the database,
nothing is.
-/

variable (database : Database)

/-! ## Selections -/

theorem selectedSum_congr {chosen other : Nat → Bool} (position : Nat)
    (same : ∀ row, row < database.rows → chosen row = other row) (start : UInt8) :
    database.selectedSum chosen position start = database.selectedSum other position start := by
  apply List.foldl_ext
  intro sum row member
  rw [same row (List.mem_range.mp member)]

/-- What both sums add cancels. -/
theorem addIf_xor_addIf (left right : Bool) (start other byte : UInt8) :
    ((if left = true then start ^^^ byte else start) ^^^
        if right = true then other ^^^ byte else other) =
      if (left ^^ right) = true then start ^^^ other ^^^ byte else start ^^^ other := by
  cases left with
  | false =>
      cases right with
      | false => rfl
      | true => exact (UInt8.xor_assoc start other byte).symm
  | true =>
      cases right with
      | false =>
          change start ^^^ byte ^^^ other = start ^^^ other ^^^ byte
          ac_rfl
      | true =>
          change start ^^^ byte ^^^ (other ^^^ byte) = start ^^^ other
          have grouped : start ^^^ byte ^^^ (other ^^^ byte) =
              start ^^^ other ^^^ (byte ^^^ byte) := by ac_rfl
          rw [grouped, UInt8.xor_self, UInt8.xor_zero]

theorem selectedSum_xor (left right : Nat → Bool) (position : Nat) (start other : UInt8) :
    database.selectedSum left position start ^^^ database.selectedSum right position other =
      database.selectedSum (fun row => left row ^^ right row) position (start ^^^ other) := by
  unfold selectedSum
  generalize List.range database.rows = rows
  induction rows generalizing start other with
  | nil => rfl
  | cons row rest later =>
      rw [List.foldl_cons, List.foldl_cons, List.foldl_cons, later]
      rw [addIf_xor_addIf]

/-- A selection of one row. -/
theorem selectedSum_single (index position : Nat) :
    database.selectedSum (fun row => decide (row = index)) position 0 =
      if index < database.rows then database.byteAt index position else 0 := by
  unfold selectedSum
  induction database.rows with
  | zero => rfl
  | succ rows earlier =>
      rw [List.range_succ, List.foldl_append, earlier, List.foldl_cons, List.foldl_nil]
      by_cases same : rows = index
      · subst same
        rw [if_neg (Nat.lt_irrefl _), if_pos (Nat.lt_succ_self _), if_pos (decide_eq_true rfl)]
        exact UInt8.zero_xor
      · have bound : index < rows ↔ index < rows + 1 := by omega
        rw [if_neg (fun chosen => same (of_decide_eq_true chosen)), if_congr bound rfl rfl]

/-! ## Weights -/

theorem weightedSum_eq_sum (weight : Nat → Element) (block : Nat) (start : Element) :
    database.weightedSum weight block start =
      start + ∑ row ∈ Finset.range database.rows, weight row * database.elementAt row block :=
  foldl_range_eq_add_sum (fun sum => sum)
    (fun sum row => sum + weight row * database.elementAt row block) (fun _ _ _ => rfl) start

theorem weightedSum_congr {weight other : Nat → Element} (block : Nat)
    (same : ∀ row, row < database.rows → weight row = other row) (start : Element) :
    database.weightedSum weight block start = database.weightedSum other block start := by
  apply List.foldl_ext
  intro sum row member
  rw [same row (List.mem_range.mp member)]

theorem weightedSum_add (left right : Nat → Element) (block : Nat) (start other : Element) :
    database.weightedSum left block start + database.weightedSum right block other =
      database.weightedSum (fun row => left row + right row) block (start + other) := by
  simp only [weightedSum_eq_sum, add_mul, Finset.sum_add_distrib]
  ring

/-- Weights that are zero at all rows but one. -/
theorem weightedSum_single (index : Nat) (scale : Element) (block : Nat) :
    database.weightedSum (fun row => if row = index then scale else 0) block 0 =
      scale * if index < database.rows then database.elementAt index block else 0 := by
  rw [weightedSum_eq_sum, zero_add]
  simp only [ite_mul, zero_mul, Finset.sum_ite_eq', Finset.mem_range, mul_ite, mul_zero]

end Database
end PrivateRetrieval
