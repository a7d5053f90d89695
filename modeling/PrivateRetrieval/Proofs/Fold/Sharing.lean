import PrivateRetrieval.Proofs.Fold.SelectedParallel
import PrivateRetrieval.Proofs.Fold.Weighted

namespace PrivateRetrieval
namespace Fold

open Update

/-!
# The workers do not show in a fold

A fold whose rows or blocks are shared among workers leaves every output as the sequential fold leaves
it, for every number of workers and in every order of their tasks.  Both come to the same plain sum over
the rows, so the two never have to be compared step by step.

The fold of selected rows adds up one row for each worker.  There are fewer than `2 ^ 58` workers, so
that the list of these rows can be addressed.
-/

section Selected

variable {selection : Bytes} {database : Database} {output : Bytes} {workers : Nat}

/-- A selection whose bits cannot be counted is no selection. -/
theorem selected_refuses (fits : output.size = database.rowLength)
    (long : Size.limit ≤ selection.size * 8) :
    (selected selection database).Refuses output (.fault .sizeOverflow) := by
  refine Refuses.afterGet ?_
  refine Refuses.afterCheck (require_eq_ok_iff.mpr fits) ?_
  exact Refuses.atCheck (Size.mul_eq_error long) _

theorem selectedParallel_refuses (scheduler : Workers.Scheduler)
    (fits : output.size = database.rowLength) (long : Size.limit ≤ selection.size * 8) :
    (selectedParallel scheduler selection database workers).Refuses output
      (.fault .sizeOverflow) := by
  refine Refuses.afterGet ?_
  refine Refuses.afterCheck (require_eq_ok_iff.mpr fits) ?_
  exact Refuses.atCheck (Size.mul_eq_error long) _

/-- **Selected rows.**  On every output of one row the shared fold ends as the sequential fold does: with
the same folded row if the bits of the selection can be counted, and with the same failure and an
untouched output if not. -/
theorem run_selectedParallel_eq (scheduler : Workers.Scheduler)
    (covers : database.rows ≤ selection.size * 8) (fits : output.size = database.rowLength)
    (some_worker : 0 < workers) (few : workers < 2 ^ 58) :
    (selectedParallel scheduler selection database workers).run output =
        (selected selection database).run output ∧
      (selection.size * 8 < Size.limit →
        ∃ folded, (selected selection database).run output = .ok () folded ∧
          folded.size = output.size) := by
  have few_shares : workers < Workers.maxShares := Nat.lt_trans few (by decide)
  rcases Nat.lt_or_ge (selection.size * 8) Size.limit with short | long
  · have sequential := selected_computes short covers
    have shared := selectedParallel_computes scheduler short covers some_worker few_shares
    refine ⟨shared.run_eq sequential fits, fun _ => ?_⟩
    rcases sequential output fits with ⟨ran, kept⟩
    exact ⟨_, ran, kept.trans fits.symm⟩
  · have shared : (selectedParallel scheduler selection database workers).run output =
        .error (.fault .sizeOverflow) output := selectedParallel_refuses scheduler fits long
    have sequential : (selected selection database).run output =
        .error (.fault .sizeOverflow) output := selected_refuses fits long
    exact ⟨shared.trans sequential.symm, fun short => absurd short (Nat.not_lt_of_ge long)⟩

/-- A database of 25 rows with two bytes each. -/
def twentyFiveRows : Database where
  data := Array.ofFn fun position : Fin 50 => UInt8.ofNat (7 * position + 1)
  rows := 25
  rowLength := 2
  rowLength_pos := by decide
  size_eq := Array.size_ofFn

/-- Three workers have the rows `0` to `7`, `8` to `15` and `16` to `24`, and the last runs first.  The
selection has a byte too many and stray bits past the last row. -/
theorem run_selectedParallel_eq_of_25_rows :
    25 ≤ 5 * 8 ∧ 3 < 2 ^ 58 ∧
      ∃ folded,
        (selectedParallel .backwards #[0x96, 0, 0x5a, 0xff, 0x81] twentyFiveRows 3).run #[9, 200] =
            .ok () folded ∧
          (selected #[0x96, 0, 0x5a, 0xff, 0x81] twentyFiveRows).run #[9, 200] =
            .ok () folded := by
  have shared := @run_selectedParallel_eq #[0x96, 0, 0x5a, 0xff, 0x81] twentyFiveRows #[9, 200] 3
    .backwards (by decide) rfl (by decide) (by decide)
  rcases shared.2 (by decide) with ⟨folded, ran, _⟩
  exact ⟨by decide, by decide, folded, shared.1.trans ran, ran⟩

end Selected

section Weighted

variable {weights : List Element} {database : Database} {output : Bytes} {workers : Nat}

/-- **Weighted rows.**  With one weight for each row of whole blocks both folds succeed on every output
of one row and leave the same bytes there, also with more workers than blocks. -/
theorem run_weightedParallel_eq (scheduler : Workers.Scheduler)
    (count : weights.length = database.rows) (whole : database.rowLength % Block.byteCount = 0)
    (short : database.rowLength < Size.limit) (fits : output.size = database.rowLength)
    (some_worker : 0 < workers) (few : workers < 2 ^ 58) :
    ∃ folded, (weighted weights database).run output = .ok () folded ∧
      (weightedParallel scheduler weights database workers).run output = .ok () folded ∧
      folded.size = output.size := by
  have few_shares : workers < Workers.maxShares := Nat.lt_trans few (by decide)
  have sequential := weighted_computes count whole
  have shared := weightedParallel_computes scheduler count whole short some_worker few_shares
  rcases sequential output fits with ⟨ran, kept⟩
  exact ⟨_, ran, (shared.run_eq sequential fits).trans ran, kept.trans fits.symm⟩

/-- A database of two rows with three blocks each. -/
def twoWideRows : Database where
  data := Array.ofFn fun position : Fin 96 => UInt8.ofNat (11 * position + 3)
  rows := 2
  rowLength := 48
  rowLength_pos := by decide
  size_eq := Array.size_ofFn

/-- Five workers share three blocks, so that the last of them has all three, and one of two rows has no
weight. -/
theorem run_weightedParallel_eq_of_two_rows :
    [(0 : Element), ⟨0x87⟩].length = twoWideRows.rows ∧ 48 % Block.byteCount = 0 ∧ 5 < 2 ^ 58 ∧
      ∃ folded,
        (weighted [0, ⟨0x87⟩] twoWideRows).run (Bytes.zeros 48) = .ok () folded ∧
          (weightedParallel .backwards [0, ⟨0x87⟩] twoWideRows 5).run (Bytes.zeros 48) =
            .ok () folded ∧
          folded.size = (Bytes.zeros 48).size :=
  ⟨rfl, rfl, by decide,
    run_weightedParallel_eq .backwards rfl rfl (by decide) (Bytes.size_zeros 48) (by decide)
      (by decide)⟩

end Weighted

end Fold
end PrivateRetrieval
