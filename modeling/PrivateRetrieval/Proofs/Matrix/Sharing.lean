import Mathlib.Algebra.Group.Nat.Defs
import PrivateRetrieval.Proofs.Matrix.Product

namespace PrivateRetrieval
namespace Matrix

open Update Workers

/-!
# The workers do not show in a product

A product whose rows are shared among workers looks at the shapes of its factors and of its output, then
at the number of workers, and only then writes.  Whatever it refuses, the output is as it was.  What it
does not refuse it finishes, with the output that the sequential product leaves: both change every entry
by the same function of its row and its column.  Rows without entries, outputs without rows and more
workers than rows are no exception.

The number of rows is a count of 64 bits.  This has to be said here, because a matrix without columns
has no entries that would bound the number of its rows.
-/

variable {w : Nat} {β : Type}

/-! ## Refusals -/

theorem requireProduct_of_inner {left right output : Shape} (apart : left.cols ≠ right.rows) :
    requireProduct left right output =
      .error (.aggregation (.innerDimension left.cols right.rows)) :=
  bind_of_eq_error (require_eq_error apart) _

theorem requireProduct_of_outer {left right output : Shape} (inner : left.cols = right.rows)
    (apart : ¬ (output.rows = left.rows ∧ output.cols = right.cols)) :
    requireProduct left right output =
      .error (.aggregation (.outputShape output.rows output.cols left.rows right.cols)) :=
  (bind_of_eq_ok (require_eq_ok_iff.mpr inner) _).trans (require_eq_error apart)

theorem requireProduct_eq_ok {left right output : Shape} (inner : left.cols = right.rows)
    (outer : output.rows = left.rows ∧ output.cols = right.cols) :
    requireProduct left right output = .ok () :=
  (bind_of_eq_ok (require_eq_ok_iff.mpr inner) _).trans (require_eq_ok_iff.mpr outer)

/-- What becomes of an output when the product of two factors with given shapes is shared among
workers, next to the product without workers. -/
structure SharesFaithfully (shared sequential : Update (BitVec w) Unit) (left right : Shape)
    (output : Matrix (BitVec w)) (workers : Nat) : Prop where
  innerDimension_iff :
    shared.run output.data =
        .error (.aggregation (.innerDimension left.cols right.rows)) output.data ↔
      left.cols ≠ right.rows
  outputShape_iff :
    shared.run output.data =
        .error (.aggregation (.outputShape output.rows output.cols left.rows right.cols))
          output.data ↔
      left.cols = right.rows ∧ ¬ (output.rows = left.rows ∧ output.cols = right.cols)
  noWorkers_iff :
    shared.run output.data = .error (.aggregation .noWorkers) output.data ↔
      left.cols = right.rows ∧ (output.rows = left.rows ∧ output.cols = right.cols) ∧ workers = 0
  product_iff :
    (∃ product, shared.run output.data = .ok () product ∧
        sequential.run output.data = .ok () product ∧ product.size = output.data.size) ↔
      left.cols = right.rows ∧ (output.rows = left.rows ∧ output.cols = right.cols) ∧ 0 < workers

namespace SharesFaithfully

variable {shared sequential : Update (BitVec w) Unit} {left right : Shape}
  {output : Matrix (BitVec w)} {workers : Nat}

/-- The four cases exclude each other and leave no fifth, so each of them has to be looked at in one
direction only. -/
theorem of_cases
    (inner : left.cols ≠ right.rows →
      shared.Refuses output.data (.aggregation (.innerDimension left.cols right.rows)))
    (outer : left.cols = right.rows → ¬ (output.rows = left.rows ∧ output.cols = right.cols) →
      shared.Refuses output.data
        (.aggregation (.outputShape output.rows output.cols left.rows right.cols)))
    (idle : left.cols = right.rows → output.rows = left.rows ∧ output.cols = right.cols →
      workers = 0 → shared.Refuses output.data (.aggregation .noWorkers))
    (busy : left.cols = right.rows → output.rows = left.rows ∧ output.cols = right.cols →
      0 < workers → ∃ product, shared.run output.data = .ok () product ∧
        sequential.run output.data = .ok () product ∧ product.size = output.data.size) :
    SharesFaithfully shared sequential left right output workers := by
  by_cases fitting : left.cols = right.rows
  · by_cases shaped : output.rows = left.rows ∧ output.cols = right.cols
    · rcases Nat.eq_zero_or_pos workers with zero | positive
      · have ran : shared.run output.data = _ := idle fitting shaped zero
        constructor <;> rw [ran]
        · exact iff_of_false nofun fun apart => apart fitting
        · exact iff_of_false nofun fun both => both.2 shaped
        · exact iff_of_true rfl ⟨fitting, shaped, zero⟩
        · exact iff_of_false (fun ⟨_, other, _⟩ => nomatch other)
            fun all => Nat.ne_of_gt all.2.2 zero
      · rcases busy fitting shaped positive with ⟨product, ran, same, size⟩
        constructor <;> rw [ran]
        · exact iff_of_false nofun fun apart => apart fitting
        · exact iff_of_false nofun fun both => both.2 shaped
        · exact iff_of_false nofun fun all => Nat.ne_of_gt positive all.2.2
        · exact iff_of_true ⟨product, rfl, same, size⟩ ⟨fitting, shaped, positive⟩
    · have ran : shared.run output.data = _ := outer fitting shaped
      constructor <;> rw [ran]
      · exact iff_of_false nofun fun apart => apart fitting
      · exact iff_of_true rfl ⟨fitting, shaped⟩
      · exact iff_of_false nofun fun all => shaped all.2.1
      · exact iff_of_false (fun ⟨_, other, _⟩ => nomatch other) fun all => shaped all.2.1
  · have ran : shared.run output.data = _ := inner fitting
    constructor <;> rw [ran]
    · exact iff_of_true rfl fitting
    · exact iff_of_false nofun fun both => fitting both.1
    · exact iff_of_false nofun fun all => fitting all.1
    · exact iff_of_false (fun ⟨_, other, _⟩ => nomatch other) fun all => fitting all.1

end SharesFaithfully

/-! ## One product -/

section Product

variable {add : BitVec w → Array β → Array (BitVec w) → Array (BitVec w)}
  {combine : BitVec w → BitVec w → β → BitVec w} {left : Matrix (BitVec w)} {right : Matrix β}
  {output : Shape}

section Agreeing

variable [Inhabited β] (entrywise : Entrywise add combine) (inner : left.cols = right.rows)
  (outer : output.rows = left.rows ∧ output.cols = right.cols)

include entrywise inner

/-- Where the whole product fits in 64 bits, so does every range of its rows. -/
theorem partOfProduct_computes (small : left.rows * right.cols < Size.limit) (range : RowRange)
    (ordered : range.start ≤ range.stop) (inside : range.stop ≤ left.rows) :
    (productRows add left right range).Computes (range.length * right.cols)
      (changeRows (combined combine left right) right.cols range.start) := by
  apply productRows_computes entrywise inner ordered inside
  have part : range.length ≤ left.rows := Nat.le_trans (Nat.sub_le _ _) inside
  exact Nat.lt_of_le_of_lt (Nat.mul_le_mul_right _ part) small

include outer

theorem overAllRows_computes (small : left.rows * right.cols < Size.limit) :
    (overAllRows left right output (productRows add left right)).Computes (left.rows * right.cols)
      (changeRows (combined combine left right) right.cols 0) := by
  have passes : requireProduct left.shape right.shape output = .ok () :=
    requireProduct_eq_ok inner outer
  rw [overAllRows, passes]
  exact partOfProduct_computes entrywise inner small _ (Nat.zero_le left.rows) (Nat.le_refl _)

theorem shareRows_computes (scheduler : Scheduler) {workers : Nat} (some_worker : 0 < workers)
    (few : workers < maxShares) (counted : left.rows < Size.limit)
    (small : left.rows * right.cols < Size.limit) :
    (shareRows scheduler workers left right output (productRows add left right)).Computes
      (left.rows * right.cols) (changeRows (combined combine left right) right.cols 0) := by
  refine Computes.afterCheck (requireProduct_eq_ok inner outer) ?_
  rw [outer.1, outer.2]
  exact runPartitioned_computes_changeRows scheduler some_worker few counted small
    (partOfProduct_computes entrywise inner small)

end Agreeing

/-- The size of an output that has the shape of the product. -/
theorem size_of_outer {output : Matrix (BitVec w)}
    (outer : output.rows = left.rows ∧ output.cols = right.cols) :
    output.data.size = left.rows * right.cols ∧ left.rows * right.cols < Size.limit := by
  rw [← outer.1, ← outer.2]
  exact ⟨output.size_eq, output.fits⟩

/-- Both products are one kernel, run by workers or run once. -/
theorem sharesFaithfully_productRows [Inhabited β] (entrywise : Entrywise add combine)
    (scheduler : Scheduler) (left : Matrix (BitVec w)) (right : Matrix β)
    (output : Matrix (BitVec w)) {workers : Nat} (counted : left.rows < Size.limit)
    (few : workers < maxShares) :
    SharesFaithfully
      (shareRows scheduler workers left right output.shape (productRows add left right))
      (overAllRows left right output.shape (productRows add left right))
      left.shape right.shape output workers := by
  apply SharesFaithfully.of_cases
  · intro apart
    exact Refuses.atCheck (requireProduct_of_inner apart) _
  · intro inner apart
    exact Refuses.atCheck (requireProduct_of_outer inner apart) _
  · rintro inner outer rfl
    refine Refuses.afterCheck (requireProduct_eq_ok inner outer) ?_
    exact runPartitioned_refuses scheduler output.fits output.size_eq
  · intro inner outer some_worker
    rcases size_of_outer outer with ⟨whole, fits⟩
    rcases overAllRows_computes entrywise inner outer fits output.data whole with ⟨ran, kept⟩
    have shared := shareRows_computes entrywise inner outer scheduler some_worker few counted fits
    exact ⟨_, (shared output.data whole).1, ran, kept.trans whole.symm⟩

end Product

/-- **Shared products.**  For every number of workers and in every order of their tasks, the shared
product and the shared indicator product refuse shapes that do not agree and an empty set of workers, in
this order and without a change to the output, and otherwise leave the output of the sequential
product. -/
theorem products_share_faithfully (scheduler : Scheduler) (left right : Matrix (BitVec w))
    (mask : Matrix UInt8) (output : Matrix (BitVec w)) {workers : Nat}
    (counted : left.rows < Size.limit) (few : workers < 2 ^ 58) :
    SharesFaithfully (multiplyParallel scheduler left right output.shape workers)
        (multiply left right output.shape) left.shape right.shape output workers ∧
      SharesFaithfully (indicateParallel scheduler left mask output.shape workers)
        (indicate left mask output.shape) left.shape mask.shape output workers := by
  have few_shares : workers < maxShares := Nat.lt_trans few (by decide)
  exact ⟨sharesFaithfully_productRows addMultiple_entrywise scheduler left right output counted
      few_shares,
    sharesFaithfully_productRows addWhereOne_entrywise scheduler left mask output counted few_shares⟩

/-- The matrix of a given shape whose entries are a function of their positions. -/
def ofPositions {α : Type} (shape : Shape) (fits : shape.rows * shape.cols < Size.limit)
    (entry : Nat → α) : Matrix α where
  shape
  data := Array.ofFn fun position : Fin (shape.rows * shape.cols) => entry position
  size_eq := Array.size_ofFn
  fits

/-- Five rows of two words, whose sums and products wrap. -/
def fiveByTwo : Matrix (BitVec 32) :=
  ofPositions ⟨5, 2⟩ (by decide) fun position => BitVec.ofNat 32 (0xfffffff0 + 7 * position)

def twoByThree : Matrix (BitVec 32) :=
  ofPositions ⟨2, 3⟩ (by decide) fun position => BitVec.ofNat 32 (0x80000001 + position)

/-- A mask with bytes that are neither zero nor one. -/
def maskOfTwoByThree : Matrix UInt8 :=
  ofPositions ⟨2, 3⟩ (by decide) fun position => UInt8.ofNat (position % 4)

def fiveByThree : Matrix (BitVec 32) :=
  ofPositions ⟨5, 3⟩ (by decide) fun position => BitVec.ofNat 32 (100 * position)

/-- Two workers have the rows `0`, `1` and `2` to `4`; of seven workers the last has all five.  The last
runs first.  No workers, a factor with too many rows and an output with too few columns are refused. -/
theorem products_of_five_rows :
    5 < Size.limit ∧ 7 < 2 ^ 58 ∧
      (∃ product,
        (multiplyParallel .backwards fiveByTwo twoByThree ⟨5, 3⟩ 2).run fiveByThree.data =
            .ok () product ∧
          (multiply fiveByTwo twoByThree ⟨5, 3⟩).run fiveByThree.data = .ok () product) ∧
      (∃ product,
        (indicateParallel .backwards fiveByTwo maskOfTwoByThree ⟨5, 3⟩ 7).run fiveByThree.data =
            .ok () product ∧
          (indicate fiveByTwo maskOfTwoByThree ⟨5, 3⟩).run fiveByThree.data = .ok () product) ∧
      (multiplyParallel .backwards fiveByTwo twoByThree ⟨5, 3⟩ 0).run fiveByThree.data =
        .error (.aggregation .noWorkers) fiveByThree.data ∧
      (multiplyParallel .backwards fiveByTwo fiveByTwo ⟨5, 3⟩ 0).run fiveByThree.data =
        .error (.aggregation (.innerDimension 2 5)) fiveByThree.data ∧
      (indicateParallel .backwards fiveByTwo maskOfTwoByThree ⟨5, 2⟩ 0).run fiveByTwo.data =
        .error (.aggregation (.outputShape 5 2 5 3)) fiveByTwo.data := by
  have counted : fiveByTwo.rows < Size.limit := by decide
  have pair := products_share_faithfully .backwards fiveByTwo twoByThree maskOfTwoByThree
    fiveByThree counted (show 2 < 2 ^ 58 by decide)
  have crowd := products_share_faithfully .backwards fiveByTwo twoByThree maskOfTwoByThree
    fiveByThree counted (show 7 < 2 ^ 58 by decide)
  have idle := products_share_faithfully .backwards fiveByTwo twoByThree maskOfTwoByThree
    fiveByThree counted (show 0 < 2 ^ 58 by decide)
  have tall := products_share_faithfully .backwards fiveByTwo fiveByTwo maskOfTwoByThree
    fiveByThree counted (show 0 < 2 ^ 58 by decide)
  have narrow := products_share_faithfully .backwards fiveByTwo twoByThree maskOfTwoByThree
    fiveByTwo counted (show 0 < 2 ^ 58 by decide)
  rcases pair.1.product_iff.mpr ⟨rfl, ⟨rfl, rfl⟩, by decide⟩ with ⟨product, shared, alone, _⟩
  rcases crowd.2.product_iff.mpr ⟨rfl, ⟨rfl, rfl⟩, by decide⟩ with ⟨marked, sharedToo, aloneToo, _⟩
  exact ⟨counted, by decide, ⟨product, shared, alone⟩, ⟨marked, sharedToo, aloneToo⟩,
    idle.1.noWorkers_iff.mpr ⟨rfl, ⟨rfl, rfl⟩, rfl⟩,
    tall.1.innerDimension_iff.mpr (by decide),
    narrow.2.outputShape_iff.mpr ⟨rfl, by decide⟩⟩

end Matrix
end PrivateRetrieval
