import Mathlib.Order.Bounds.Defs
import PrivateRetrieval.Proofs.Workers.Partition

namespace PrivateRetrieval
namespace Workers

/-!
# How even the shares are

The shares tile the rows, and they are as even as the alignment allows.  All of them but the last have one
length, the largest multiple of the alignment that does not exceed an equal share.  The last share has in
addition what the rounding has left over, which is less than one unit of alignment for each worker.

All positions on the way are within the rows, so if the number of rows fits in 64 bits, no size overflows.
What is refused is to share among no workers or by an alignment of zero.
-/

variable {rows workers align : Nat}

/-- Ranges that share rows among workers as evenly as the alignment allows. -/
structure SharesEvenly (rows workers align : Nat) (ranges : List RowRange) (share : Nat) : Prop where
  length_eq : ranges.length = workers
  tiles : Tiles 0 ranges rows
  dvd_start : ∀ range ∈ ranges, align ∣ range.start
  share_greatest : IsGreatest {length | align ∣ length ∧ length ≤ rows / workers} share
  inner : ∀ range ∈ ranges.dropLast, align ∣ range.stop ∧ range.length = share
  /-- The last range has the share and what the rounding leaves over. -/
  last : ∃ range, ranges.getLast? = some range ∧ share ≤ range.length ∧
    range.length < share + workers * align

/-- The last share stands behind the others. -/
theorem shares_succ (rows count align : Nat) :
    shares rows (count + 1) align =
      (List.range count).map (share rows (count + 1) align) ++ [share rows (count + 1) align count] := by
  rw [shares, List.range_succ, List.map_append]
  rfl

theorem shareLength_isGreatest (rows workers : Nat) (aligned : 0 < align) :
    IsGreatest {length | align ∣ length ∧ length ≤ rows / workers}
      (shareLength rows workers align) := by
  constructor
  · exact ⟨Nat.dvd_mul_left _ _, Nat.div_mul_le_self _ _⟩
  · rintro length ⟨⟨units, rfl⟩, within⟩
    rw [Nat.mul_comm, shareLength]
    apply Nat.mul_le_mul_right
    rw [Nat.le_div_iff_mul_le aligned, Nat.mul_comm]
    exact within

/-- Each worker loses less than one unit of alignment to the rounding. -/
theorem rows_lt_shareLength (rows : Nat) (some_worker : 0 < workers) (aligned : 0 < align) :
    rows < workers * shareLength rows workers align + workers * align :=
  calc rows
      < workers * (rows / workers + 1) := Nat.lt_mul_div_succ rows some_worker
    _ ≤ workers * (shareLength rows workers align + align) :=
        Nat.mul_le_mul_left workers (Nat.lt_div_mul_add aligned)
    _ = workers * shareLength rows workers align + workers * align := Nat.mul_add _ _ _

/-- A share before the last ends one share length after its start, at a multiple of the alignment. -/
theorem share_inner {worker : Nat} (inner : worker + 1 ≠ workers) :
    align ∣ (share rows workers align worker).stop ∧
      (share rows workers align worker).length = shareLength rows workers align := by
  rw [RowRange.length, share, if_neg inner]
  constructor
  · exact Nat.dvd_trans (Nat.dvd_mul_left _ _) (Nat.dvd_mul_left _ _)
  · rw [Nat.succ_mul, Nat.add_sub_cancel_left]

/-- The last share is what all the others leave. -/
theorem length_share_last (rows count align : Nat) :
    count * shareLength rows (count + 1) align + (share rows (count + 1) align count).length = rows := by
  rw [RowRange.length, share, if_pos rfl]
  exact Nat.add_sub_of_le (mul_shareLength_le rows align count.le_succ)

theorem shares_sharesEvenly (rows : Nat) (some_worker : 0 < workers) (aligned : 0 < align) :
    SharesEvenly rows workers align (shares rows workers align) (shareLength rows workers align) where
  length_eq := length_shares
  tiles := tiles_shares rows align some_worker
  dvd_start _ := dvd_start_of_mem_shares
  share_greatest := shareLength_isGreatest rows workers aligned
  inner range member := by
    obtain ⟨count, rfl⟩ := Nat.exists_eq_add_one.mpr some_worker
    rw [shares_succ, List.dropLast_concat] at member
    rcases List.mem_map.mp member with ⟨worker, listed, rfl⟩
    have before := List.mem_range.mp listed
    exact share_inner (Nat.ne_of_lt (Nat.succ_lt_succ before))
  last := by
    obtain ⟨count, rfl⟩ := Nat.exists_eq_add_one.mpr some_worker
    refine ⟨_, by rw [shares_succ, List.getLast?_concat], ?_⟩
    have whole := length_share_last rows count align
    have least := mul_shareLength_le rows align (Nat.le_refl (count + 1))
    have most := rows_lt_shareLength rows some_worker aligned
    rw [Nat.succ_mul] at least
    rw [Nat.succ_mul count (shareLength rows (count + 1) align)] at most
    omega

/-- **The shares tile the rows.**  Among any positive number of workers, as long as the list of shares fits
in memory, rows that can be counted in 64 bits are shared evenly for every positive alignment, and no size
overflows on the way.  Nothing is refused but to share among no workers or by an alignment of zero. -/
theorem shares_tile_rows (align : Nat) (few : workers < maxShares) (small : rows < Size.limit) :
    (0 < workers → 0 < align →
        ∃ ranges share, partitionAligned rows workers align = .ok ranges ∧
          SharesEvenly rows workers align ranges share) ∧
      (workers = 0 → partitionAligned rows workers align = .error (.fault .noWorkersToShare)) ∧
      (0 < workers → align = 0 →
        partitionAligned rows workers align = .error (.fault .zeroAlignment)) ∧
      ((∃ failure, partitionAligned rows workers align = .error failure) ↔
        workers = 0 ∨ align = 0) := by
  have shared (some_worker : 0 < workers) (aligned : 0 < align) :=
    partitionAligned_eq_ok some_worker few aligned small
  have alone (none : workers = 0) :
      partitionAligned rows workers align = .error (.fault .noWorkersToShare) :=
    bind_of_eq_error (require_eq_error (Nat.not_lt_of_ge (Nat.le_of_eq none))) _
  have unaligned (some_worker : 0 < workers) (zero : align = 0) :
      partitionAligned rows workers align = .error (.fault .zeroAlignment) :=
    (bind_of_eq_ok (require_eq_ok_iff.mpr some_worker) _).trans
      (bind_of_eq_error (require_eq_error (Nat.not_lt_of_ge (Nat.le_of_eq zero))) _)
  refine ⟨?_, alone, unaligned, ?_, ?_⟩
  · intro some_worker aligned
    exact ⟨_, _, shared some_worker aligned, shares_sharesEvenly rows some_worker aligned⟩
  · rintro ⟨failure, refused⟩
    rcases Nat.eq_zero_or_pos workers with none | some_worker
    · exact Or.inl none
    · rcases Nat.eq_zero_or_pos align with zero | aligned
      · exact Or.inr zero
      · rw [shared some_worker aligned] at refused
        cases refused
  · intro bad
    rcases Nat.eq_zero_or_pos workers with none | some_worker
    · exact ⟨_, alone none⟩
    · exact ⟨_, unaligned some_worker (bad.resolve_left (Nat.ne_of_gt some_worker))⟩

/-- As many rows as 64 bits can count, in shares that begin at multiples of eight.  The last share has seven
rows more than the others. -/
theorem shares_tile_rows_up_to_largest_count :
    3 < maxShares ∧ 18446744073709551615 < Size.limit ∧
      (∃ ranges share, partitionAligned 18446744073709551615 3 8 = .ok ranges ∧
        ranges = [⟨0, 6148914691236517200⟩, ⟨6148914691236517200, 12297829382473034400⟩,
          ⟨12297829382473034400, 18446744073709551615⟩] ∧
        SharesEvenly 18446744073709551615 3 8 ranges share ∧ share = 6148914691236517200) ∧
      partitionAligned 18446744073709551615 3 0 = .error (.fault .zeroAlignment) := by
  have few : 3 < maxShares := by decide
  have small : 18446744073709551615 < Size.limit := by decide
  rcases (shares_tile_rows 8 few small).1 (by decide) (by decide) with ⟨ranges, share, shared, even⟩
  have computed : partitionAligned 18446744073709551615 3 8 =
      .ok [⟨0, 6148914691236517200⟩, ⟨6148914691236517200, 12297829382473034400⟩,
        ⟨12297829382473034400, 18446744073709551615⟩] := rfl
  have same := Except.ok.inj (shared.symm.trans computed)
  subst same
  have first := even.inner ⟨0, 6148914691236517200⟩ (by decide)
  exact ⟨few, small, ⟨_, share, shared, rfl, even, first.2.symm⟩,
    (shares_tile_rows 0 few small).2.2.1 (by decide) rfl⟩

end Workers
end PrivateRetrieval
