import Mathlib.Data.List.FinRange
import PrivateRetrieval.Proofs.Update
import PrivateRetrieval.Proofs.Workers.Partition
import PrivateRetrieval.Workers.Schedule

namespace PrivateRetrieval

/-!
# The order of the workers does not matter

Tasks that write to pieces of a buffer without overlap leave the same buffer in every order: a task
reads and writes its own piece only, so it finds there what was there at the beginning.  It is enough to
say what each task leaves in its piece and that the rest of the buffer is as before.

The pieces that are cut off for consecutive ranges of rows do not overlap and together are the whole
buffer.  A shared computation is therefore the function whose every piece some worker computes.

Tasks that give results instead of writing them have their results filed by number, so the list of all
results does not show the order either.  The order shows in failures only: it decides which of several
failing tasks is reported.
-/

/-! ## Pieces of a buffer -/

namespace Slice

variable {α : Type} {slice other : Slice} {buffer piece : Array α}

/-- The position lies in the piece. -/
def Holds (slice : Slice) (position : Nat) : Prop :=
  slice.offset ≤ position ∧ position < slice.offset + slice.length

/-- Two pieces without common positions. -/
def Apart (slice other : Slice) : Prop :=
  slice.offset + slice.length ≤ other.offset ∨ other.offset + other.length ≤ slice.offset

theorem Apart.symm (apart : slice.Apart other) : other.Apart slice :=
  Or.symm apart

theorem getElem?_read (slice : Slice) (buffer : Array α) {position : Nat}
    (inside : position < slice.length) :
    (slice.read buffer)[position]? = buffer[slice.offset + position]? := by
  rw [read, Array.getElem?_extract]
  split
  · rfl
  · rw [Array.getElem?_eq_none (by omega)]

theorem read_eq_read {first second : Array α} (sizes : first.size = second.size)
    (same : ∀ position, slice.Holds position → first[position]? = second[position]?) :
    slice.read first = slice.read second := by
  apply eq_of_getElem?_eq
  · rw [read, read, Array.size_extract, Array.size_extract, sizes]
  · intro position inside
    have within : position < slice.length := by
      rw [read, Array.size_extract] at inside
      omega
    rw [getElem?_read slice first within, getElem?_read slice second within]
    exact same _ ⟨Nat.le_add_right _ _, Nat.add_lt_add_left within _⟩

/-- To write a piece of another buffer is to take over the other buffer's entries in the piece. -/
theorem getElem?_write_read {before after : Array α} (sizes : after.size = before.size)
    (inside : slice.offset + slice.length ≤ before.size) {position : Nat}
    (same : ¬ slice.Holds position → after[position]? = before[position]?) :
    (slice.write before (slice.read after))[position]? = after[position]? := by
  have fits : (slice.read after).size = slice.length := size_read (sizes ▸ inside)
  rw [getElem?_write inside fits]
  by_cases held : slice.offset ≤ position ∧ position < slice.offset + slice.length
  · have inPiece : position - slice.offset < slice.length := by omega
    rw [if_pos held, getElem?_read slice after inPiece, Nat.add_sub_of_le held.1]
  · rw [if_neg held, same held]

/-- What is written to a piece can be read there. -/
theorem read_write (inside : slice.offset + slice.length ≤ buffer.size)
    (fits : piece.size = slice.length) : slice.read (slice.write buffer piece) = piece := by
  have size : (slice.read (slice.write buffer piece)).size = slice.length := by
    rw [size_read (by rw [size_write inside fits]; exact inside)]
  apply eq_of_getElem?_eq (size.trans fits.symm)
  intro position inPiece
  rw [size] at inPiece
  rw [getElem?_read slice _ inPiece, getElem?_write inside fits,
    if_pos ⟨Nat.le_add_right _ _, Nat.add_lt_add_left inPiece _⟩, Nat.add_sub_cancel_left]

/-- What is written to one piece cannot be seen in another. -/
theorem read_write_of_apart (inside : slice.offset + slice.length ≤ buffer.size)
    (fits : piece.size = slice.length) (apart : slice.Apart other) :
    other.read (slice.write buffer piece) = other.read buffer := by
  apply read_eq_read (size_write inside fits)
  intro position held
  have outside : ¬ (slice.offset ≤ position ∧ position < slice.offset + slice.length) := by
    rcases held with ⟨after, before⟩
    rcases apart with below | above <;> omega
  rw [getElem?_write inside fits, if_neg outside]

end Slice

namespace Workers

variable {α : Type}

/-! ## Tasks in any order -/

/-- The scheduler that runs tasks from the last to the first. -/
def Scheduler.backwards : Scheduler where
  order := fun count => (List.finRange count).reverse
  order_perm := fun count => List.reverse_perm (List.finRange count)

/-- Tasks whose pieces lie in a buffer of a given size and do not overlap. -/
structure Separate (tasks : List (Task α)) (size : Nat) : Prop where
  inside : ∀ task ∈ tasks, task.slice.offset + task.slice.length ≤ size
  apart : tasks.Pairwise fun task other => task.slice.Apart other.slice

theorem Separate.perm {tasks others : List (Task α)} {size : Nat} (separate : Separate tasks size)
    (permuted : tasks.Perm others) : Separate others size where
  inside := fun task member => separate.inside task (permuted.mem_iff.mpr member)
  apart := permuted.pairwise separate.apart Slice.Apart.symm

theorem Separate.sublist {tasks fewer : List (Task α)} {size : Nat} (separate : Separate tasks size)
    (left_out : fewer.Sublist tasks) : Separate fewer size where
  inside := fun task member => separate.inside task (left_out.subset member)
  apart := separate.apart.sublist left_out

/-- One task replaces its piece by what its update leaves there. -/
theorem run_update_eq_ok {task : Task α} {buffer piece : Array α}
    (inside : task.slice.offset + task.slice.length ≤ buffer.size)
    (ran : task.update.run (task.slice.read buffer) = .ok () piece) :
    (task.slice.update task.update).run buffer = .ok () (task.slice.write buffer piece) := by
  change task.slice.update task.update buffer = _
  rw [Slice.update, if_pos inside, ran]

/-- One after the other, the tasks turn a buffer into the only one that holds in each piece what its
task leaves there and is unchanged elsewhere. -/
theorem forM_update_run {tasks : List (Task α)} {before after : Array α}
    (sizes : after.size = before.size) (separate : Separate tasks before.size)
    (each : ∀ task ∈ tasks,
      task.update.run (task.slice.read before) = .ok () (task.slice.read after))
    (untouched : ∀ position, position < before.size →
      (∀ task ∈ tasks, ¬ task.slice.Holds position) → after[position]? = before[position]?) :
    (tasks.forM fun task => task.slice.update task.update).run before = .ok () after := by
  induction tasks generalizing before with
  | nil =>
      have same : after = before := by
        apply eq_of_getElem?_eq sizes
        intro position inside
        rw [sizes] at inside
        exact untouched position inside fun task member => absurd member List.not_mem_nil
      rw [same]
      rfl
  | cons task rest later =>
      have inside := separate.inside task List.mem_cons_self
      have fits : (task.slice.read after).size = task.slice.length := Slice.size_read (sizes ▸ inside)
      have first := run_update_eq_ok inside (each task List.mem_cons_self)
      let middle := task.slice.write before (task.slice.read after)
      have middleSize : middle.size = before.size := Slice.size_write inside fits
      -- The first task has put its piece right and changed no other, so the rest begins from a buffer
      -- that differs from `after` in fewer pieces.
      have remaining : (rest.forM fun task => task.slice.update task.update).run middle =
          .ok () after := by
        apply later (sizes.trans middleSize.symm)
        · rw [middleSize]
          exact separate.sublist (List.sublist_cons_self _ _)
        · intro other member
          have apart := (List.pairwise_cons.mp separate.apart).1 other member
          rw [Slice.read_write_of_apart inside fits apart]
          exact each other (List.mem_cons_of_mem _ member)
        · intro position within free
          rw [middleSize] at within
          refine (Slice.getElem?_write_read sizes inside fun passed => ?_).symm
          apply untouched position within
          intro other member
          rcases List.mem_cons.mp member with rfl | inRest
          · exact passed
          · exact free other inRest
      change EStateM.bind (task.slice.update task.update) _ before = _
      change task.slice.update task.update before = _ at first
      rw [EStateM.bind, first]
      exact remaining

/-- In every order the tasks leave the same buffer. -/
theorem Scheduler.run_eq_ok (scheduler : Scheduler) {tasks : List (Task α)} {before after : Array α}
    (sizes : after.size = before.size) (separate : Separate tasks before.size)
    (each : ∀ task ∈ tasks,
      task.update.run (task.slice.read before) = .ok () (task.slice.read after))
    (untouched : ∀ position, position < before.size →
      (∀ task ∈ tasks, ¬ task.slice.Holds position) → after[position]? = before[position]?) :
    (scheduler.run tasks).run before = .ok () after := by
  have permuted : ((scheduler.order tasks.length).map tasks.get).Perm tasks := by
    have listed := (scheduler.order_perm tasks.length).map tasks.get
    rw [List.map_get_finRange] at listed
    exact listed
  have unfolded : scheduler.run tasks =
      ((scheduler.order tasks.length).map tasks.get).forM fun task =>
        task.slice.update task.update := by
    rw [List.forM_eq_forM, List.forM_map]
    rfl
  rw [unfolded]
  apply forM_update_run sizes (separate.perm permuted.symm)
  · intro task member
    exact each task (permuted.mem_iff.mp member)
  · intro position inside free
    apply untouched position inside
    intro task member
    exact free task (permuted.mem_iff.mpr member)

/-! ## Results in any order -/

section Results

variable {count : Nat} {task : Fin count → Outcome α}

/-- Run one task and file its result under its number. -/
def file (task : Fin count → Outcome α) (filed : List (Option α)) (i : Fin count) :
    Outcome (List (Option α)) := do
  let result ← task i
  return filed.set i (some result)

theorem set_ofFn {β : Type} (filed : Fin count → β) (i : Fin count) (entry : β) :
    (List.ofFn filed).set i entry = List.ofFn (Function.update filed i entry) := by
  apply List.ext_getElem
  · rw [List.length_set, List.length_ofFn, List.length_ofFn]
  · intro place inSet inUpdate
    rw [List.getElem_set, List.getElem_ofFn, List.getElem_ofFn, Function.update_apply]
    simp only [Fin.ext_iff, eq_comm]

/-- Tasks that succeed leave their results under their numbers and nothing under another. -/
theorem foldlM_file_eq_ok {result : Fin count → α} (order : List (Fin count))
    (each : ∀ i ∈ order, task i = .ok (result i)) (filed : Fin count → Option α) :
    order.foldlM (file task) (List.ofFn filed) =
      .ok (List.ofFn fun i => if i ∈ order then some (result i) else filed i) := by
  -- What is filed already is a function of the number, so that a task changes it at one number.
  induction order generalizing filed with
  | nil => rfl
  | cons first rest later =>
      have ran : file task (List.ofFn filed) first =
          .ok (List.ofFn (Function.update filed first (some (result first)))) := by
        rw [file, bind_of_eq_ok (each first List.mem_cons_self), set_ofFn]
        rfl
      rw [List.foldlM_cons, bind_of_eq_ok ran,
        later fun i member => each i (List.mem_cons_of_mem _ member)]
      congr
      funext i
      by_cases same : i = first
      · subst same
        simp
      · simp [same]

/-- The run goes through all tasks or stops at one that fails. -/
theorem foldlM_file_cases (task : Fin count → Outcome α) (order : List (Fin count))
    (filed : List (Option α)) :
    (∀ i ∈ order, ∃ result, task i = .ok result) ∨
      ∃ i failure, task i = .error failure ∧
        order.foldlM (file task) filed = .error failure := by
  induction order generalizing filed with
  | nil => exact Or.inl fun i member => absurd member List.not_mem_nil
  | cons first rest later =>
      cases ran : task first with
      | error failure =>
          have stopped : file task filed first = .error failure := bind_of_eq_error ran _
          refine Or.inr ⟨first, failure, ran, ?_⟩
          rw [List.foldlM_cons]
          exact bind_of_eq_error stopped _
      | ok result =>
          have went : file task filed first = .ok (filed.set first (some result)) :=
            bind_of_eq_ok ran _
          rcases later (filed.set first (some result)) with all | ⟨i, failure, failed, stopped⟩
          · left
            intro i member
            rcases List.mem_cons.mp member with rfl | inRest
            · exact ⟨result, ran⟩
            · exact all i inRest
          · refine Or.inr ⟨i, failure, failed, ?_⟩
            rw [List.foldlM_cons, bind_of_eq_ok went]
            exact stopped

/-- In every order the tasks give the list of their results, or the failure of one of them. -/
theorem Scheduler.collect_cases (scheduler : Scheduler) (task : Fin count → Outcome α) :
    (∃ result : Fin count → α, (∀ i, task i = .ok (result i)) ∧
        scheduler.collect count task = .ok (List.ofFn result)) ∨
      ∃ i failure, task i = .error failure ∧
        scheduler.collect count task = .error failure := by
  have everyone (i : Fin count) : i ∈ scheduler.order count :=
    (scheduler.order_perm count).mem_iff.mpr (List.mem_finRange i)
  rcases foldlM_file_cases task (scheduler.order count) (List.replicate count none) with
    all | ⟨i, failure, failed, stopped⟩
  · left
    choose result each using fun i => all i (everyone i)
    have filed := foldlM_file_eq_ok (scheduler.order count) (fun i _ => each i) fun _ => none
    rw [List.ofFn_const] at filed
    have present : List.ofFn (fun i => some (result i)) = (List.ofFn result).map some :=
      List.map_ofFn.symm
    refine ⟨result, each, (bind_of_eq_ok filed _).trans ?_⟩
    simp only [everyone, if_true]
    rw [present, List.filterMap_map]
    exact congrArg Except.ok List.filterMap_some
  · exact Or.inr ⟨i, failure, failed, bind_of_eq_error stopped _⟩

end Results

/-! ## Tasks for consecutive ranges -/

/-- The piece of a buffer that holds a range of rows. -/
def rowsSlice (width : Nat) (range : RowRange) : Slice :=
  ⟨range.start * width, range.length * width⟩

/-- The tasks of all ranges that are not empty. -/
def rangeTasks (width : Nat) (kernel : RowRange → Update α Unit) (ranges : List RowRange) :
    List (Task α) :=
  (ranges.filter fun range => !range.isEmpty).map fun range =>
    ⟨rowsSlice width range, kernel range⟩

variable {width : Nat} {kernel : RowRange → Update α Unit}

theorem mem_rangeTasks {ranges : List RowRange} {task : Task α} :
    task ∈ rangeTasks width kernel ranges ↔
      ∃ range ∈ ranges, range.start < range.stop ∧
        ⟨rowsSlice width range, kernel range⟩ = task := by
  simp [rangeTasks, RowRange.isEmpty, and_assoc]

theorem rangeTasks_cons (range : RowRange) (rest : List RowRange) :
    rangeTasks width kernel (range :: rest) =
      if range.isEmpty then rangeTasks width kernel rest
      else ⟨rowsSlice width range, kernel range⟩ :: rangeTasks width kernel rest := by
  rw [rangeTasks, List.filter_cons]
  cases range.isEmpty with
  | true => rfl
  | false => rfl

theorem rowsSlice_end {range : RowRange} (ordered : range.start ≤ range.stop) :
    (rowsSlice width range).offset + (rowsSlice width range).length = range.stop * width := by
  rw [rowsSlice, RowRange.length, ← Nat.add_mul, Nat.add_sub_of_le ordered]

theorem size_read_rowsSlice {range : RowRange} (ordered : range.start ≤ range.stop) {rows : Nat}
    (inside : range.stop ≤ rows) {buffer : Array α} (fits : buffer.size = rows * width) :
    ((rowsSlice width range).read buffer).size = range.length * width := by
  apply Slice.size_read
  rw [rowsSlice_end ordered, fits]
  exact Nat.mul_le_mul_right width inside

theorem tasksFrom_eq_ok {start stop : Nat} {ranges : List RowRange}
    (tiles : Tiles start ranges stop) (small : stop * width < Size.limit) :
    tasksFrom width kernel (start * width) ranges = .ok (rangeTasks width kernel ranges) := by
  induction ranges generalizing start with
  | nil => rfl
  | cons range rest later =>
      rcases tiles with ⟨rfl, forward, follows⟩
      have fits : range.length * width < Size.limit := by
        refine Nat.lt_of_le_of_lt (Nat.mul_le_mul_right width ?_) small
        exact Nat.le_trans (Nat.sub_le _ _) follows.ordered
      have next : range.start * width + range.length * width = range.stop * width :=
        rowsSlice_end forward
      rw [tasksFrom, bind_of_eq_ok (Size.mul_eq_ok fits), next, bind_of_eq_ok (later follows),
        rangeTasks_cons]
      rfl

/-- The pieces of consecutive ranges do not overlap; a range without rows has an empty piece. -/
theorem separate_rowsSlices {start stop : Nat} {ranges : List RowRange}
    (tiles : Tiles start ranges stop) (kernel : RowRange → Update α Unit) :
    Separate (ranges.map fun range => ⟨rowsSlice width range, kernel range⟩) (stop * width) := by
  constructor
  · intro task member
    rcases List.mem_map.mp member with ⟨range, listed, rfl⟩
    have bounds := tiles.of_mem listed
    rw [rowsSlice_end bounds.2.1]
    exact Nat.mul_le_mul_right width bounds.2.2
  · rw [List.pairwise_map]
    induction ranges generalizing start with
    | nil => exact List.Pairwise.nil
    | cons range rest later =>
        rcases tiles with ⟨begins, forward, follows⟩
        refine List.Pairwise.cons ?_ (later follows)
        intro other listed
        left
        rw [rowsSlice_end forward]
        exact Nat.mul_le_mul_right width (follows.of_mem listed).1

theorem separate_rangeTasks {start stop : Nat} {ranges : List RowRange}
    (tiles : Tiles start ranges stop) :
    Separate (rangeTasks width kernel ranges) (stop * width) :=
  (separate_rowsSlices tiles kernel).sublist (List.filter_sublist.map _)

/-- Every position of the buffer lies in the piece of some task. -/
theorem exists_mem_rangeTasks {rows : Nat} {ranges : List RowRange} (tiles : Tiles 0 ranges rows)
    (kernel : RowRange → Update α Unit) {position : Nat} (inside : position < rows * width) :
    ∃ task ∈ rangeTasks width kernel ranges, task.slice.Holds position := by
  have positive : 0 < width := Nat.pos_of_lt_mul_left inside
  have row : position / width < rows := (Nat.div_lt_iff_lt_mul positive).mpr inside
  rcases tiles.exists_mem (Nat.zero_le _) row with ⟨range, listed, first, last⟩
  have filled : range.start < range.stop := Nat.lt_of_le_of_lt first last
  refine ⟨_, mem_rangeTasks.mpr ⟨range, listed, filled, rfl⟩, ?_, ?_⟩
  · exact (Nat.le_div_iff_mul_le positive).mp first
  · rw [rowsSlice_end (Nat.le_of_lt filled)]
    exact (Nat.div_lt_iff_lt_mul positive).mp last

/-- Rows are not shared among no workers, and the buffer is left as it is. -/
theorem runPartitioned_refuses (scheduler : Scheduler) {rows : Nat} {buffer : Array α}
    (small : rows * width < Size.limit) (fits : buffer.size = rows * width) :
    (runPartitioned scheduler 0 rows width kernel).Refuses buffer (.aggregation .noWorkers) := by
  refine Update.Refuses.afterGet ?_
  refine Update.Refuses.afterCheck (Size.mul_eq_ok small) ?_
  refine Update.Refuses.afterCheck (require_eq_ok_iff.mpr fits) ?_
  exact Update.Refuses.atCheck (require_eq_error (Nat.lt_irrefl 0)) _

/-- **Sharing rows among workers.**  If on the share of every worker the kernel leaves what a function of
the whole buffer leaves there, then the shared computation is that function, for every number of workers
and in every order.  The rows may be empty, and then so is the buffer. -/
theorem runPartitioned_computes_of_shares (scheduler : Scheduler) {workers rows : Nat}
    {f : Array α → Array α} (some_worker : 0 < workers) (few : workers < maxShares)
    (few_rows : rows < Size.limit) (small : rows * width < Size.limit)
    (kept : ∀ buffer, buffer.size = rows * width → (f buffer).size = rows * width)
    (each : ∀ range ∈ shares rows workers 1, ∀ buffer, buffer.size = rows * width →
      (kernel range).run ((rowsSlice width range).read buffer) =
        .ok () ((rowsSlice width range).read (f buffer))) :
    (runPartitioned scheduler workers rows width kernel).Computes (rows * width) f := by
  have tiles := tiles_shares rows 1 some_worker
  have tasks := @tasksFrom_eq_ok α width kernel 0 rows _ tiles small
  rw [Nat.zero_mul] at tasks
  refine Update.Computes.afterGet fun output fits => ?_
  refine Update.Computes.afterCheck (Size.mul_eq_ok small) ?_
  refine Update.Computes.afterCheck (require_eq_ok_iff.mpr fits) ?_
  refine Update.Computes.afterCheck (require_eq_ok_iff.mpr some_worker) ?_
  refine Update.Computes.afterCheck
    (partitionAligned_eq_ok some_worker few Nat.one_pos few_rows) ?_
  refine Update.Computes.afterCheck tasks ?_
  intro buffer same
  refine ⟨?_, kept buffer same⟩
  apply scheduler.run_eq_ok ((kept buffer same).trans same.symm)
  · rw [same]
    exact separate_rangeTasks tiles
  · intro task member
    rcases mem_rangeTasks.mp member with ⟨range, listed, _, rfl⟩
    exact each range listed buffer same
  · intro position inside free
    rw [same] at inside
    rcases exists_mem_rangeTasks tiles kernel inside with ⟨task, member, held⟩
    exact absurd held (free task member)

/-- The shares need not be known where the kernel leaves the right thing on every range of rows. -/
theorem runPartitioned_computes (scheduler : Scheduler) {workers rows : Nat}
    {f : Array α → Array α} (some_worker : 0 < workers) (few : workers < maxShares)
    (few_rows : rows < Size.limit) (small : rows * width < Size.limit)
    (kept : ∀ buffer, buffer.size = rows * width → (f buffer).size = rows * width)
    (each : ∀ range : RowRange, range.start ≤ range.stop → range.stop ≤ rows →
      ∀ buffer, buffer.size = rows * width →
        (kernel range).run ((rowsSlice width range).read buffer) =
          .ok () ((rowsSlice width range).read (f buffer))) :
    (runPartitioned scheduler workers rows width kernel).Computes (rows * width) f := by
  refine runPartitioned_computes_of_shares scheduler some_worker few few_rows small kept ?_
  intro range listed
  have bounds := (tiles_shares rows 1 some_worker).of_mem listed
  exact each range bounds.2.1 bounds.2.2

end Workers
end PrivateRetrieval
