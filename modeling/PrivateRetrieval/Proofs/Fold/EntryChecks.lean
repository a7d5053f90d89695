import PrivateRetrieval.Proofs.Fold.Rebalanced

namespace PrivateRetrieval

/-!
# A fold looks before it writes

Every fold begins with checks: of the length of its output, of the rows or columns that its selection
covers, of its weights, of the number of workers.  Further in, rows and pieces of rows are cut out, bytes
of a selection are read, buffers are added up and offsets are computed, each with a bound of its own, and
in the parallel folds this happens in the tasks of the workers.

No bound further in is ever passed.  If a check fails, it is the first thing that happens and the output is
as it was; and if all of them let pass, the fold finishes, for every number of workers and in every order.
A task that fails would make the whole fold fail, so no worker does.
-/

/-- A check before something else stops it, or lets it stop by itself. -/
theorem require_bind_eq_error_iff {α : Type} {condition : Prop} [Decidable condition]
    {cause failure : Failure} {next : Outcome α} :
    (do require condition cause; next) = .error failure ↔
      ¬ condition ∧ failure = cause ∨ condition ∧ next = .error failure := by
  by_cases holds : condition
  · rw [bind_of_eq_ok (require_eq_ok_iff.mpr holds)]
    simp [holds]
  · rw [bind_of_eq_error (require_eq_error holds)]
    simp [holds, eq_comm]

theorem require_eq_error_iff {condition : Prop} [Decidable condition] {cause failure : Failure} :
    require condition cause = .error failure ↔ ¬ condition ∧ failure = cause := by
  by_cases holds : condition
  · rw [require_eq_ok_iff.mpr holds]
    simp [holds]
  · rw [require_eq_error holds]
    simp [holds, eq_comm]

namespace Update

variable {α : Type} {update : Update α Unit} {buffer : Array α} {refused : Prop}
  {checks : Outcome Unit}

/-- An update that fails on a buffer under a condition and no other, and then as its checks do, with
nothing written. -/
structure StopsOnlyAt (refused : Prop) (checks : Outcome Unit) (update : Update α Unit)
    (buffer : Array α) : Prop where
  fails_iff : (∃ failure written, update.run buffer = .error failure written) ↔ refused
  failure_iff : ∀ failure written, update.run buffer = .error failure written ↔
    checks = .error failure ∧ written = buffer
  finishes_iff : (∃ written, update.run buffer = .ok () written ∧ written.size = buffer.size) ↔
    ¬ refused

/-- The update stops on a buffer as its checks stop, with nothing written. -/
def StopsAs (checks : Outcome Unit) (update : Update α Unit) (buffer : Array α) : Prop :=
  ∀ failure, checks = .error failure → update.Refuses buffer failure

namespace StopsAs

theorem last {check : Outcome Unit} (next : Unit → Update α Unit) :
    StopsAs check (liftM check >>= next) buffer :=
  fun _ fails => Refuses.atCheck fails next

/-- After a check that both make, what is left is compared only if it lets pass. -/
theorem both {check : Outcome Unit} {next : Unit → Update α Unit}
    (rest : check = .ok () → StopsAs checks (next ()) buffer) :
    StopsAs (do check; checks) (liftM check >>= next) buffer := by
  intro failure stopped
  cases verdict : check with
  | ok =>
      rw [bind_of_eq_ok verdict] at stopped
      exact Refuses.afterCheck rfl (rest verdict failure stopped)
  | error cause =>
      rw [bind_of_eq_error verdict] at stopped
      cases stopped
      exact Refuses.atCheck rfl next

theorem afterCheck {β : Type} {check : Outcome β} {value : β} {next : β → Update α Unit}
    (passes : check = .ok value) (rest : StopsAs checks (next value) buffer) :
    StopsAs checks (liftM check >>= next) buffer :=
  fun failure stopped => Refuses.afterCheck passes (rest failure stopped)

theorem afterGet {next : Array α → Update α Unit} (rest : StopsAs checks (next buffer) buffer) :
    StopsAs checks (get >>= next) buffer :=
  fun failure stopped => Refuses.afterGet (rest failure stopped)

end StopsAs

/-- It is enough that the update stops as its checks do, and computes something when all of them let
pass. -/
theorem StopsOnlyAt.of_checks (passes_iff : checks = .ok () ↔ ¬ refused)
    (stops : StopsAs checks update buffer)
    (finishes : checks = .ok () → ∃ f, update.Computes buffer.size f) :
    StopsOnlyAt refused checks update buffer := by
  cases verdict : checks with
  | ok =>
      have allowed := passes_iff.mp verdict
      rcases finishes verdict with ⟨f, computes⟩
      rcases computes buffer rfl with ⟨ran, kept⟩
      constructor <;> rw [ran]
      · exact iff_of_false (fun ⟨_, _, other⟩ => nomatch other) allowed
      · exact fun _ _ => iff_of_false nofun fun both => nomatch both.1
      · exact iff_of_true ⟨_, rfl, kept⟩ allowed
  | error cause =>
      have broken : refused := by
        by_contra allowed
        exact nomatch verdict.symm.trans (passes_iff.mpr allowed)
      have stopped : update.run buffer = .error cause buffer := stops cause verdict
      constructor <;> rw [stopped]
      · exact iff_of_true ⟨cause, buffer, rfl⟩ broken
      · intro failure written
        rw [EStateM.Result.error.injEq, Except.error.injEq, eq_comm (a := buffer)]
      · exact iff_of_false (fun ⟨_, other, _⟩ => nomatch other) fun allowed => allowed broken

end Update

namespace Fold

open Update

variable {selection : Bytes} {database : Database} {weights : List Element} {output : Bytes}
  {blockLength workers : Nat}

/-! ## Selected rows -/

/-- What the fold of selected rows looks at. -/
def selectedChecks (selection : Bytes) (database : Database) (output : Bytes) : Outcome Unit := do
  require (output.size = database.rowLength) (.fault .outputNotOneRow)
  require (database.rows ≤ selection.size * 8)
    (.fault (.selectionTooShort (selection.size * 8) database.rows))

/-- What the fold of selected rows looks at before it calls any worker. -/
def selectedParallelChecks (selection : Bytes) (database : Database) (workers : Nat)
    (output : Bytes) : Outcome Unit := do
  require (output.size = database.rowLength) (.fault .outputNotOneRow)
  require (database.rows ≤ selection.size * 8) (.fault .selectionExhausted)
  require (0 < workers) (.aggregation .noWorkers)

theorem selected_stopsOnlyAt (short : selection.size * 8 < Size.limit) :
    StopsOnlyAt (output.size ≠ database.rowLength ∨ selection.size * 8 < database.rows)
      (selectedChecks selection database output) (selected selection database) output := by
  refine .of_checks ?_ ?_ ?_
  · rw [selectedChecks, check_bind_eq_ok_iff, require_eq_ok_iff, require_eq_ok_iff]
    simp only [ne_eq, not_or, not_not, Nat.not_lt]
  · refine .afterGet ?_
    refine .both fun _ => ?_
    exact .afterCheck (Size.mul_eq_ok short) (.last _)
  · intro passed
    rcases check_bind_eq_ok_iff.mp passed with ⟨fits, covers⟩
    rw [require_eq_ok_iff.mp fits]
    exact ⟨_, selected_computes short (require_eq_ok_iff.mp covers)⟩

theorem selectedParallel_stopsOnlyAt (scheduler : Workers.Scheduler)
    (short : selection.size * 8 < Size.limit) (few : workers < Workers.maxShares) :
    StopsOnlyAt
      (output.size ≠ database.rowLength ∨ selection.size * 8 < database.rows ∨ workers = 0)
      (selectedParallelChecks selection database workers output)
      (selectedParallel scheduler selection database workers) output := by
  refine .of_checks ?_ ?_ ?_
  · rw [selectedParallelChecks, check_bind_eq_ok_iff, check_bind_eq_ok_iff, require_eq_ok_iff,
      require_eq_ok_iff, require_eq_ok_iff]
    simp only [ne_eq, not_or, not_not, Nat.not_lt, Nat.pos_iff_ne_zero]
  · refine .afterGet ?_
    refine .both fun _ => ?_
    refine .afterCheck (Size.mul_eq_ok short) ?_
    exact .both fun _ => .last _
  · intro passed
    rcases check_bind_eq_ok_iff.mp passed with ⟨fits, passed⟩
    rcases check_bind_eq_ok_iff.mp passed with ⟨covers, somebody⟩
    rw [require_eq_ok_iff.mp fits]
    exact ⟨_, selectedParallel_computes scheduler short (require_eq_ok_iff.mp covers)
      (require_eq_ok_iff.mp somebody) few⟩

theorem selectedParallelChecks_eq_noWorkers_iff :
    selectedParallelChecks selection database workers output = .error (.aggregation .noWorkers) ↔
      output.size = database.rowLength ∧ database.rows ≤ selection.size * 8 ∧ workers = 0 := by
  simp [selectedParallelChecks, require_bind_eq_error_iff, require_eq_error_iff]

/-! ## Selected columns of blocks -/

/-- What the rebalanced fold looks at. -/
def selectedRebalancedChecks (selection : Bytes) (database : Database) (blockLength : Nat)
    (output : Bytes) : Outcome Unit := do
  require (0 < blockLength ∧ database.rowLength % blockLength = 0) (.fault .partialBlock)
  require (database.rowLength / blockLength ≤ selection.size * 8) (.fault .selectionExhausted)
  require (output.size = database.rows * blockLength) (.fault .outputNotOneBlockPerRow)

/-- One block for each row is no more than the rows. -/
theorem rows_mul_blockLength_le (whole : database.rowLength % blockLength = 0) :
    database.rows * blockLength ≤ database.data.size := by
  rw [database.size_eq]
  exact Nat.mul_le_mul_left _
    (Nat.le_of_dvd database.rowLength_pos (Nat.dvd_of_mod_eq_zero whole))

theorem selectedRebalanced_stopsOnlyAt (short : selection.size * 8 < Size.limit)
    (small : database.data.size < Size.limit) :
    StopsOnlyAt
      (blockLength = 0 ∨ database.rowLength % blockLength ≠ 0 ∨
        selection.size * 8 < database.rowLength / blockLength ∨
        output.size ≠ database.rows * blockLength)
      (selectedRebalancedChecks selection database blockLength output)
      (selectedRebalanced selection database blockLength) output := by
  refine .of_checks ?_ ?_ ?_
  · rw [selectedRebalancedChecks, check_bind_eq_ok_iff, check_bind_eq_ok_iff, require_eq_ok_iff,
      require_eq_ok_iff, require_eq_ok_iff]
    simp only [ne_eq, not_or, not_not, Nat.not_lt, Nat.pos_iff_ne_zero, and_assoc]
  · refine .both fun blocks => ?_
    refine .afterCheck (Size.mul_eq_ok short) ?_
    refine .both fun _ => ?_
    refine .afterGet ?_
    have whole := (require_eq_ok_iff.mp blocks).2
    have product := Nat.lt_of_le_of_lt (rows_mul_blockLength_le whole) small
    exact .afterCheck (Size.mul_eq_ok product) (.last _)
  · intro passed
    rcases check_bind_eq_ok_iff.mp passed with ⟨blocks, passed⟩
    rcases check_bind_eq_ok_iff.mp passed with ⟨covers, fits⟩
    rcases require_eq_ok_iff.mp blocks with ⟨positive, whole⟩
    have product := Nat.lt_of_le_of_lt (rows_mul_blockLength_le whole) small
    rw [require_eq_ok_iff.mp fits]
    exact ⟨_, selectedRebalanced_computes positive whole (require_eq_ok_iff.mp covers) short product⟩

/-! ## Weighted rows -/

theorem weighted_stopsOnlyAt :
    StopsOnlyAt
      (database.rowLength % Block.byteCount ≠ 0 ∨ weights.length ≠ database.rows ∨
        output.size ≠ database.rowLength)
      (requireWeighted weights database output.size) (weighted weights database) output := by
  refine .of_checks ?_ ?_ ?_
  · rw [requireWeighted_eq_ok_iff]
    simp only [ne_eq, not_or, not_not]
  · exact .afterGet (.last _)
  · intro passed
    rcases requireWeighted_eq_ok_iff.mp passed with ⟨whole, count, size⟩
    rw [size]
    exact ⟨_, weighted_computes count whole⟩

/-- What the fold of weighted rows looks at before it calls any worker. -/
def weightedParallelChecks (weights : List Element) (database : Database) (workers : Nat)
    (output : Bytes) : Outcome Unit := do
  requireWeighted weights database output.size
  require (0 < workers) (.aggregation .noWorkers)

theorem weightedParallel_stopsOnlyAt (scheduler : Workers.Scheduler)
    (short : output.size < Size.limit) (few : workers < Workers.maxShares) :
    StopsOnlyAt
      (database.rowLength % Block.byteCount ≠ 0 ∨ weights.length ≠ database.rows ∨
        output.size ≠ database.rowLength ∨ workers = 0)
      (weightedParallelChecks weights database workers output)
      (weightedParallel scheduler weights database workers) output := by
  refine .of_checks ?_ ?_ ?_
  · rw [weightedParallelChecks, check_bind_eq_ok_iff, requireWeighted_eq_ok_iff, require_eq_ok_iff]
    simp only [ne_eq, not_or, not_not, Nat.pos_iff_ne_zero, and_assoc]
  · refine .afterGet ?_
    refine .both fun fits => ?_
    intro failure stopped
    rcases require_eq_error_iff.mp stopped with ⟨nobody, rfl⟩
    rcases requireWeighted_eq_ok_iff.mp fits with ⟨whole, _, size⟩
    have blocks : database.rowLength / Block.byteCount * Block.byteCount = output.size := by
      rw [size, Nat.div_mul_cancel (Nat.dvd_of_mod_eq_zero whole)]
    rw [Nat.eq_zero_of_not_pos nobody]
    exact Workers.runPartitioned_refuses scheduler (blocks.symm ▸ short) blocks.symm
  · intro passed
    rcases check_bind_eq_ok_iff.mp passed with ⟨fits, somebody⟩
    rcases requireWeighted_eq_ok_iff.mp fits with ⟨whole, count, size⟩
    have shared := weightedParallel_computes scheduler count whole (size ▸ short)
      (require_eq_ok_iff.mp somebody) few
    rw [size]
    exact ⟨_, shared⟩

theorem weightedParallelChecks_eq_noWorkers_iff :
    weightedParallelChecks weights database workers output = .error (.aggregation .noWorkers) ↔
      database.rowLength % Block.byteCount = 0 ∧ weights.length = database.rows ∧
        output.size = database.rowLength ∧ workers = 0 := by
  simp [weightedParallelChecks, requireWeighted, bind_assoc, require_bind_eq_error_iff,
    require_eq_error_iff]

/-! ## All folds -/

/-- **Checks come first and are enough.**  On buffers in memory and with workers that can be listed, every
fold fails under the conditions that are written here and under no other.  It then fails with the first
check that is broken and leaves the output as it was.  That there are no workers is noticed after
everything else.  If nothing is broken the fold finishes, whatever its workers meet and in whichever order
they run. -/
theorem folds_check_before_writing (scheduler : Workers.Scheduler) (database : Database)
    (selection : Bytes) (weights : List Element) (blockLength workers : Nat) (output : Bytes)
    (selectionShort : selection.size < 2 ^ 60) (databaseShort : database.data.size < 2 ^ 60)
    (outputShort : output.size < 2 ^ 60) (few : workers < 2 ^ 58) :
    StopsOnlyAt (output.size ≠ database.rowLength ∨ selection.size * 8 < database.rows)
        (selectedChecks selection database output) (selected selection database) output ∧
      (StopsOnlyAt
          (output.size ≠ database.rowLength ∨ selection.size * 8 < database.rows ∨ workers = 0)
          (selectedParallelChecks selection database workers output)
          (selectedParallel scheduler selection database workers) output ∧
        ((selectedParallel scheduler selection database workers).run output =
            .error (.aggregation .noWorkers) output ↔
          output.size = database.rowLength ∧ database.rows ≤ selection.size * 8 ∧
            workers = 0)) ∧
      StopsOnlyAt
        (blockLength = 0 ∨ database.rowLength % blockLength ≠ 0 ∨
          selection.size * 8 < database.rowLength / blockLength ∨
          output.size ≠ database.rows * blockLength)
        (selectedRebalancedChecks selection database blockLength output)
        (selectedRebalanced selection database blockLength) output ∧
      StopsOnlyAt
        (database.rowLength % Block.byteCount ≠ 0 ∨ weights.length ≠ database.rows ∨
          output.size ≠ database.rowLength)
        (requireWeighted weights database output.size) (weighted weights database) output ∧
      StopsOnlyAt
          (database.rowLength % Block.byteCount ≠ 0 ∨ weights.length ≠ database.rows ∨
            output.size ≠ database.rowLength ∨ workers = 0)
          (weightedParallelChecks weights database workers output)
          (weightedParallel scheduler weights database workers) output ∧
        ((weightedParallel scheduler weights database workers).run output =
            .error (.aggregation .noWorkers) output ↔
          database.rowLength % Block.byteCount = 0 ∧ weights.length = database.rows ∧
            output.size = database.rowLength ∧ workers = 0) := by
  have limit : Size.limit = 2 ^ 64 := rfl
  have short : selection.size * 8 < Size.limit := by omega
  have outputInMemory : output.size < Size.limit := by omega
  have databaseInMemory : database.data.size < Size.limit := by omega
  have fewShares : workers < Workers.maxShares := Nat.lt_trans few (by decide)
  have rowsShared := @selectedParallel_stopsOnlyAt selection database output workers scheduler short
    fewShares
  have blocksShared := @weightedParallel_stopsOnlyAt database weights output workers scheduler
    outputInMemory fewShares
  refine ⟨selected_stopsOnlyAt short, ⟨rowsShared, ?_⟩,
    selectedRebalanced_stopsOnlyAt short databaseInMemory, weighted_stopsOnlyAt, blocksShared, ?_⟩
  · rw [rowsShared.failure_iff, and_iff_left rfl, selectedParallelChecks_eq_noWorkers_iff]
  · rw [blocksShared.failure_iff, and_iff_left rfl, weightedParallelChecks_eq_noWorkers_iff]

/-- One row of 25 that the selection has no bit for, no worker, more workers than rows or blocks, blocks of
four bytes in a row of six, and a row without a weight. -/
theorem folds_check_before_writing_at_boundary_shapes :
    4 < 2 ^ 60 ∧ 96 < 2 ^ 60 ∧ 48 < 2 ^ 60 ∧ 40 < 2 ^ 58 ∧
      (selected #[0x96, 0, 0x5a] twentyFiveRows).run #[9, 200] =
        .error (.fault (.selectionTooShort 24 25)) #[9, 200] ∧
      (selectedParallel .backwards #[0x96, 0, 0x5a, 1] twentyFiveRows 0).run #[9, 200] =
        .error (.aggregation .noWorkers) #[9, 200] ∧
      (∃ written,
        (selectedParallel .backwards #[0x96, 0, 0x5a, 1] twentyFiveRows 40).run #[9, 200] =
          .ok () written ∧ written.size = 2) ∧
      (selectedRebalanced #[0xfd] threeShortRows 4).run #[9, 200] =
        .error (.fault .partialBlock) #[9, 200] ∧
      (∃ failure written,
        (weighted [⟨0x87⟩] twoWideRows).run (Bytes.zeros 48) = .error failure written) ∧
      ∃ written,
        (weightedParallel .backwards [0, ⟨0x87⟩] twoWideRows 40).run (Bytes.zeros 48) =
          .ok () written ∧ written.size = 48 := by
  have uncovered := folds_check_before_writing .backwards twentyFiveRows #[0x96, 0, 0x5a] [] 4 0
    #[9, 200] (by decide) (by decide) (by decide) (by decide)
  have nobody := folds_check_before_writing .backwards twentyFiveRows #[0x96, 0, 0x5a, 1] [] 4 0
    #[9, 200] (by decide) (by decide) (by decide) (by decide)
  have crowded := folds_check_before_writing .backwards twentyFiveRows #[0x96, 0, 0x5a, 1] [] 4 40
    #[9, 200] (by decide) (by decide) (by decide) (by decide)
  have uneven := folds_check_before_writing .backwards threeShortRows #[0xfd] [] 4 0 #[9, 200]
    (by decide) (by decide) (by decide) (by decide)
  have unweighted := folds_check_before_writing .backwards twoWideRows #[] [⟨0x87⟩] 4 0
    (Bytes.zeros 48) (by decide) (by decide) (by decide) (by decide)
  have weighed := folds_check_before_writing .backwards twoWideRows #[] [0, ⟨0x87⟩] 4 40
    (Bytes.zeros 48) (by decide) (by decide) (by decide) (by decide)
  refine ⟨by decide, by decide, by decide, by decide, ?_, ?_, ?_, ?_, ?_, ?_⟩
  · exact (uncovered.1.failure_iff _ _).mpr ⟨rfl, rfl⟩
  · exact nobody.2.1.2.mpr ⟨rfl, by decide, rfl⟩
  · exact crowded.2.1.1.finishes_iff.mpr (by decide)
  · exact (uneven.2.2.1.failure_iff _ _).mpr ⟨rfl, rfl⟩
  · exact unweighted.2.2.2.1.fails_iff.mpr (.inr (.inl (by decide)))
  · exact weighed.2.2.2.2.1.finishes_iff.mpr (by decide)

end Fold
end PrivateRetrieval
