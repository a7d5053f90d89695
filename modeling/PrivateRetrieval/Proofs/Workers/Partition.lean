import PrivateRetrieval.Workers.Partition

namespace PrivateRetrieval

/-!
# The shares of the workers tile the rows

A list of ranges tiles the rows from a start to a stop if each range begins where the one before it
ends.  The shares of any positive number of workers tile all rows, however many workers there are, and
each share begins at a multiple of the alignment.  A loop over the rows can then be read as one loop
for each share.
-/

/-- A computation of a list whose members all succeed. -/
theorem mapM_eq_ok {α β : Type} {list : List α} {compute : α → Outcome β} {result : α → β}
    (each : ∀ entry ∈ list, compute entry = .ok (result entry)) :
    list.mapM compute = .ok (list.map result) := by
  induction list with
  | nil => rfl
  | cons entry rest later =>
      have others := later fun other member => each other (List.mem_cons_of_mem _ member)
      rw [List.mapM_cons, each entry List.mem_cons_self, others]
      rfl

namespace Workers

/-! ## Consecutive ranges -/

/-- The ranges follow each other without gap or overlap, from `start` up to `stop`. -/
def Tiles : (start : Nat) → List RowRange → (stop : Nat) → Prop
  | start, [], stop => start = stop
  | start, range :: rest, stop =>
      range.start = start ∧ range.start ≤ range.stop ∧ Tiles range.stop rest stop

theorem Tiles.ordered {start stop : Nat} {ranges : List RowRange} (tiles : Tiles start ranges stop) :
    start ≤ stop := by
  induction ranges generalizing start with
  | nil => exact Nat.le_of_eq tiles
  | cons range rest later =>
      rcases tiles with ⟨begins, forward, follows⟩
      have after := later follows
      omega

theorem Tiles.of_mem {start stop : Nat} {ranges : List RowRange} (tiles : Tiles start ranges stop)
    {range : RowRange} (member : range ∈ ranges) :
    start ≤ range.start ∧ range.start ≤ range.stop ∧ range.stop ≤ stop := by
  induction ranges generalizing start with
  | nil => cases member
  | cons head rest later =>
      rcases tiles with ⟨begins, forward, follows⟩
      rcases List.mem_cons.mp member with rfl | inRest
      · exact ⟨Nat.le_of_eq begins.symm, forward, follows.ordered⟩
      · have within := later follows inRest
        omega

/-- Every row lies in one of the ranges. -/
theorem Tiles.exists_mem {start stop : Nat} {ranges : List RowRange}
    (tiles : Tiles start ranges stop) {row : Nat} (from_start : start ≤ row) (inside : row < stop) :
    ∃ range ∈ ranges, range.start ≤ row ∧ row < range.stop := by
  induction ranges generalizing start with
  | nil =>
      change start = stop at tiles
      omega
  | cons head rest later =>
      rcases tiles with ⟨begins, forward, follows⟩
      rcases Nat.lt_or_ge row head.stop with early | late
      · exact ⟨head, List.mem_cons_self, begins ▸ from_start, early⟩
      · rcases later follows late with ⟨range, member, within⟩
        exact ⟨range, List.mem_cons_of_mem _ member, within⟩

/-- No row is missing and none lies in two of the ranges. -/
theorem Tiles.countP_eq_one {start stop : Nat} {ranges : List RowRange}
    (tiles : Tiles start ranges stop) {row : Nat} (from_start : start ≤ row) (inside : row < stop) :
    ranges.countP (fun range => range.start ≤ row ∧ row < range.stop) = 1 := by
  induction ranges generalizing start with
  | nil =>
      change start = stop at tiles
      omega
  | cons head rest later =>
      rcases tiles with ⟨begins, forward, follows⟩
      rcases Nat.lt_or_ge row head.stop with early | late
      · have none : rest.countP (fun range => range.start ≤ row ∧ row < range.stop) = 0 := by
          apply List.countP_eq_zero.mpr
          intro range member holds
          have after := (follows.of_mem member).1
          have held := (of_decide_eq_true holds).1
          omega
        rw [List.countP_cons, none, if_pos (decide_eq_true ⟨begins ▸ from_start, early⟩)]
      · have apart : ¬ (head.start ≤ row ∧ row < head.stop) :=
          fun held => Nat.not_lt_of_ge late held.2
        rw [List.countP_cons, later follows late, if_neg (mt of_decide_eq_true apart)]

/-- A loop over all rows is a loop over the rows of each range in turn. -/
theorem Tiles.foldl_eq {α : Type} {start stop : Nat} {ranges : List RowRange}
    (tiles : Tiles start ranges stop) (act : α → Nat → α) (initial : α) :
    ranges.foldl
        (fun current range => (List.range' range.start range.length).foldl act current) initial =
      (List.range' start (stop - start)).foldl act initial := by
  induction ranges generalizing start initial with
  | nil =>
      change start = stop at tiles
      subst tiles
      rw [Nat.sub_self]
      rfl
  | cons head rest later =>
      rcases tiles with ⟨begins, forward, follows⟩
      have after := follows.ordered
      have length : stop - start = head.length + (stop - head.stop) := by
        rw [RowRange.length]
        omega
      have next : start + head.length = head.stop := by
        rw [RowRange.length]
        omega
      rw [List.foldl_cons, later follows, length, ← List.range'_append_1, List.foldl_append, next,
        begins]

/-! ## The shares -/

/-- The length of every share but the last. -/
def shareLength (rows workers align : Nat) : Nat := rows / workers / align * align

/-- The share of one worker. -/
def share (rows workers align worker : Nat) : RowRange where
  start := worker * shareLength rows workers align
  stop := if worker + 1 = workers then rows else (worker + 1) * shareLength rows workers align

/-- The shares of all workers. -/
def shares (rows workers align : Nat) : List RowRange :=
  (List.range workers).map (share rows workers align)

variable {rows workers align : Nat}

@[simp]
theorem length_shares : (shares rows workers align).length = workers := by
  rw [shares, List.length_map, List.length_range]

theorem mul_shareLength_le (rows align : Nat) {worker workers : Nat} (below : worker ≤ workers) :
    worker * shareLength rows workers align ≤ rows :=
  calc worker * shareLength rows workers align
      ≤ workers * (rows / workers) := Nat.mul_le_mul below (Nat.div_mul_le_self _ _)
    _ ≤ rows := Nat.mul_div_le rows workers

theorem partitionAligned_eq_ok (some_worker : 0 < workers) (few : workers < maxShares)
    (aligned : 0 < align) (small : rows < Size.limit) :
    partitionAligned rows workers align = .ok (shares rows workers align) := by
  have fits : ∀ worker, worker ≤ workers →
      worker * shareLength rows workers align < Size.limit := fun worker below =>
    Nat.lt_of_le_of_lt (mul_shareLength_le rows align below) small
  have unit : rows / workers / align * align < Size.limit := by
    have one := fits 1 some_worker
    rw [Nat.one_mul] at one
    exact one
  have each : ∀ worker ∈ List.range workers,
      shareOf rows workers (shareLength rows workers align) worker =
        .ok (share rows workers align worker) := by
    intro worker member
    have below := List.mem_range.mp member
    rw [shareOf, Size.mul_eq_ok (fits worker (Nat.le_of_lt below)), share]
    by_cases last : worker + 1 = workers
    · simp only [last, if_true]
      rfl
    · have next := fits (worker + 1) below
      rw [Nat.succ_mul] at next
      simp only [last, if_false, Nat.succ_mul]
      change (Size.add _ _ >>= _) = _
      rw [Size.add_eq_ok next]
      rfl
  rw [partitionAligned, require_eq_ok_iff.mpr some_worker, require_eq_ok_iff.mpr aligned,
    require_eq_ok_iff.mpr few, Size.mul_eq_ok unit]
  exact mapM_eq_ok each

/-- The shares tile all rows: the last share takes what the others leave. -/
theorem tiles_shares (rows align : Nat) (some_worker : 0 < workers) :
    Tiles 0 (shares rows workers align) rows := by
  have later : ∀ count first, 0 < count → first + count = workers →
      Tiles (first * shareLength rows workers align)
        ((List.range' first count).map (share rows workers align)) rows := by
    intro count
    induction count with
    | zero => exact fun first positive => absurd positive (Nat.lt_irrefl 0)
    | succ count following =>
        intro first _ total
        rw [List.range'_succ, List.map_cons]
        rcases Nat.eq_zero_or_pos count with rfl | more
        · have last : first + 1 = workers := total
          refine ⟨rfl, ?_, ?_⟩
          · rw [share, if_pos last]
            exact mul_shareLength_le rows align (by omega)
          · rw [share, if_pos last]
            rfl
        · have inner : first + 1 ≠ workers := by omega
          refine ⟨rfl, ?_, ?_⟩
          · rw [share, if_neg inner]
            exact Nat.mul_le_mul_right _ (Nat.le_succ first)
          · rw [share, if_neg inner]
            exact following (first + 1) more (by omega)
  have all := later workers 0 some_worker (Nat.zero_add workers)
  rw [Nat.zero_mul] at all
  rw [shares, List.range_eq_range']
  exact all

theorem dvd_start_of_mem_shares {range : RowRange} (member : range ∈ shares rows workers align) :
    align ∣ range.start := by
  rcases List.mem_map.mp member with ⟨worker, _, rfl⟩
  exact Nat.dvd_trans (Nat.dvd_mul_left _ _) (Nat.dvd_mul_left _ _)

end Workers
end PrivateRetrieval
