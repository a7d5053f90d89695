import PrivateRetrieval.Update

namespace PrivateRetrieval

/-!
# What an update computes

An update that finishes on every buffer of one length and keeps that length is described by a function
on buffers.  The lemmas here say how the function of a composite update comes from those of its parts:
checks that pass disappear, a loop becomes a fold, and an update of a slice rewrites that slice.  An
update that stops at a check before its first write is described by the failure alone.

Folds over rows act on every position of the buffer by itself; such a loop can be read at one position.
-/

namespace Update

variable {α β : Type} {size : Nat} {f g : Array α → Array α}

/-- On buffers of a given length the update finishes, with the result of a function that keeps the
length. -/
def Computes (update : Update α Unit) (size : Nat) (f : Array α → Array α) : Prop :=
  ∀ buffer, buffer.size = size → update.run buffer = .ok () (f buffer) ∧ (f buffer).size = size

namespace Computes

theorem done : Computes (pure () : Update α Unit) size id := by
  intro buffer fits
  exact ⟨rfl, fits⟩

theorem congr {update : Update α Unit} (computes : update.Computes size f)
    (same : ∀ buffer, buffer.size = size → f buffer = g buffer) : update.Computes size g := by
  intro buffer fits
  rw [← same buffer fits]
  exact computes buffer fits

theorem seq {first second : Update α Unit} (former : first.Computes size f)
    (latter : second.Computes size g) :
    Computes (first >>= fun _ => second) size fun buffer => g (f buffer) := by
  intro buffer fits
  rcases former buffer fits with ⟨ran, kept⟩
  refine ⟨?_, (latter (f buffer) kept).2⟩
  have step : (first >>= fun _ => second).run buffer = second.run (f buffer) := by
    change EStateM.bind first (fun _ => second) buffer = second (f buffer)
    change first buffer = _ at ran
    rw [EStateM.bind, ran]
  rw [step]
  exact (latter (f buffer) kept).1

/-- A check that passes leaves the rest of the update. -/
theorem afterCheck {check : Outcome β} {value : β} {next : β → Update α Unit}
    (passes : check = .ok value) (rest : (next value).Computes size f) :
    Computes (liftM check >>= next) size f := by
  rw [passes]
  exact rest

theorem afterGet {next : Array α → Update α Unit}
    (rest : ∀ output, output.size = size → (next output).Computes size f) :
    Computes (get >>= next) size f := by
  intro buffer fits
  exact rest buffer fits buffer fits

/-- A loop computes the fold of what its body computes. -/
theorem loop {list : List β} {body : β → Update α Unit} {h : β → Array α → Array α}
    (each : ∀ entry ∈ list, (body entry).Computes size (h entry)) :
    Computes (list.forM body) size fun buffer =>
      list.foldl (fun written entry => h entry written) buffer := by
  induction list with
  | nil => exact done
  | cons entry rest later =>
      change Computes (body entry >>= fun _ => rest.forM body) size _
      exact seq (each entry List.mem_cons_self)
        (later fun other member => each other (List.mem_cons_of_mem _ member))

theorem apply_eq_ok {update : Update α Unit} (computes : update.Computes size f) {buffer : Array α}
    (fits : buffer.size = size) : update.apply buffer = .ok (f buffer) := by
  rw [Update.apply, (computes buffer fits).1]

theorem modify (kept : ∀ buffer : Array α, buffer.size = size → (f buffer).size = size) :
    Computes (modify f : Update α Unit) size f := by
  intro buffer fits
  exact ⟨rfl, kept buffer fits⟩

/-- Two updates that compute the same function run alike. -/
theorem run_eq {first second : Update α Unit} (former : first.Computes size f)
    (latter : second.Computes size f) {buffer : Array α} (fits : buffer.size = size) :
    first.run buffer = second.run buffer := by
  rw [(former buffer fits).1, (latter buffer fits).1]

end Computes

/-! ## Refusals -/

/-- On one buffer the update stops with a failure, and nothing has been written. -/
def Refuses (update : Update α Unit) (buffer : Array α) (failure : Failure) : Prop :=
  update.run buffer = .error failure buffer

namespace Refuses

variable {buffer : Array α} {failure : Failure}

theorem atCheck {check : Outcome β} (fails : check = .error failure) (next : β → Update α Unit) :
    Refuses (liftM check >>= next) buffer failure := by
  rw [fails]
  rfl

theorem afterCheck {check : Outcome β} {value : β} {next : β → Update α Unit}
    (passes : check = .ok value) (rest : (next value).Refuses buffer failure) :
    Refuses (liftM check >>= next) buffer failure := by
  rw [passes]
  exact rest

theorem afterGet {next : Array α → Update α Unit} (rest : (next buffer).Refuses buffer failure) :
    Refuses (get >>= next) buffer failure :=
  rest

end Refuses

end Update

/-! ## Positions -/

section Positions

variable {α β : Type}

theorem eq_of_getElem?_eq {left right : Array α} (sameSize : left.size = right.size)
    (same : ∀ position, position < left.size → left[position]? = right[position]?) :
    left = right := by
  apply Array.ext_getElem?
  intro position
  rcases Nat.lt_or_ge position left.size with inside | beyond
  · exact same position inside
  · rw [Array.getElem?_eq_none beyond, Array.getElem?_eq_none (sameSize ▸ beyond)]

theorem mapIdx_congr {buffer : Array α} {act other : Nat → α → α}
    (same : ∀ position value, position < buffer.size → act position value = other position value) :
    buffer.mapIdx act = buffer.mapIdx other := by
  rw [Array.mapIdx_eq_mapIdx_iff]
  intro position inside
  exact same position _ inside

theorem mapIdx_eq_self {buffer : Array α} {act : Nat → α → α}
    (idle : ∀ position value, act position value = value) : buffer.mapIdx act = buffer := by
  apply Array.ext
  · exact Array.size_mapIdx
  · intro position inMap inBuffer
    rw [Array.getElem_mapIdx, idle]

/-- To combine a buffer with another of its size is to change every entry by the other's. -/
theorem zipWith_eq_mapIdx (combine : α → β → α) {buffer : Array α} {other : Array β}
    (sizes : buffer.size = other.size) (spare : β) :
    Array.zipWith combine buffer other =
      buffer.mapIdx fun position value => combine value (other.getD position spare) := by
  apply Array.ext
  · rw [Array.size_zipWith, Array.size_mapIdx, ← sizes, Nat.min_self]
  · intro position inZip inMap
    have inOther : position < other.size := by
      rw [Array.size_mapIdx] at inMap
      exact sizes ▸ inMap
    rw [Array.getElem_mapIdx, Array.getD_eq_getD_getElem?, Array.getElem?_eq_getElem inOther]
    exact Array.getElem_zipWith inZip

/-- The entries of a list with their places. -/
theorem zipIdx_eq_map (list : List β) (spare : β) :
    list.zipIdx = (List.range list.length).map fun place => (list.getD place spare, place) := by
  apply List.ext_getElem
  · simp
  · intro place inside _
    rw [List.length_zipIdx] at inside
    simp [inside]

/-- A fold of updates that act on every position by itself can be read at one position. -/
theorem foldl_mapIdx (list : List β) (act : β → Nat → α → α) (buffer : Array α) :
    list.foldl (fun written entry => written.mapIdx (act entry)) buffer =
      buffer.mapIdx fun position value =>
        list.foldl (fun current entry => act entry position current) value := by
  induction list generalizing buffer with
  | nil =>
      exact (mapIdx_eq_self fun _ _ => rfl).symm
  | cons entry rest later =>
      rw [List.foldl_cons, later, Array.mapIdx_mapIdx]
      rfl

end Positions

namespace Bytes

theorem getElem?_zeros {length position : Nat} (inside : position < length) :
    (zeros length)[position]? = some 0 := by
  rw [zeros, Array.getElem?_replicate, if_pos inside]

theorem getD_zeros (length position : Nat) : (zeros length).getD position 0 = 0 := by
  rcases Nat.lt_or_ge position length with inside | beyond
  · rw [Array.getD_eq_getD_getElem?, getElem?_zeros inside]
    rfl
  · rw [Array.getD_eq_getD_getElem?, Array.getElem?_eq_none (by rw [size_zeros]; exact beyond)]
    rfl

/-- Strings of one length with equal bytes are equal. -/
theorem eq_of_getD_eq {left right : Bytes} (sameSize : left.size = right.size)
    (same : ∀ position, position < left.size → left.getD position 0 = right.getD position 0) :
    left = right := by
  apply Array.ext sameSize
  intro position inLeft inRight
  have equal := same position inLeft
  rw [Array.getD_eq_getD_getElem?, Array.getD_eq_getD_getElem?, Array.getElem?_eq_getElem inLeft,
    Array.getElem?_eq_getElem inRight] at equal
  exact equal

/-- What is added twice cancels. -/
theorem xor_xor_cancel {left right : Bytes} (sameSize : left.size = right.size) :
    xor (xor left right) right = left := by
  have size := size_xor_of_size_eq sameSize
  apply eq_of_getD_eq
  · rw [size_xor_of_size_eq (size.trans sameSize), size]
  · intro position _
    rw [getD_xor (size.trans sameSize), getD_xor sameSize, UInt8.xor_assoc,
      UInt8.xor_self, UInt8.xor_zero]

theorem xor_eq_mapIdx {left right : Bytes} (sameSize : left.size = right.size) :
    xor left right = left.mapIdx fun position byte => byte ^^^ right.getD position 0 :=
  zipWith_eq_mapIdx (· ^^^ ·) sameSize 0

/-- Adding a byte string acts on every position by itself. -/
theorem addInto_computes {other : Bytes} {size : Nat} (fits : other.size = size) :
    (addInto other).Computes size fun buffer =>
      buffer.mapIdx fun position byte => byte ^^^ other.getD position 0 := by
  intro buffer same
  have sameSize : buffer.size = other.size := same.trans fits.symm
  refine ⟨?_, by rw [Array.size_mapIdx, same]⟩
  have passes : require (buffer.size = other.size) (.fault .lengthMismatch) = .ok () :=
    require_eq_ok_iff.mpr sameSize
  change EStateM.run (liftM (require (buffer.size = other.size) (.fault .lengthMismatch)) >>=
    fun _ => set (xor buffer other)) buffer = .ok () (buffer.mapIdx _)
  rw [← xor_eq_mapIdx sameSize, passes]
  rfl

end Bytes
end PrivateRetrieval
