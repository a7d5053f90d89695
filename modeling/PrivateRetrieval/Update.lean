import PrivateRetrieval.Bytes

namespace PrivateRetrieval

/-!
# Updates of a buffer

Folds and products add into a buffer that the caller owns.  An update is an action on such a buffer
that either finishes or stops with a failure; when it stops, the buffer is as far written as it was at
that moment.  So "a refused operation writes nothing" is a statement about the buffer that comes back
with the failure, and it can be false of an update that checks too late.

`Slice.update` confines an update to a piece of the buffer.
-/

/-- The actions on a buffer with entries of type `α`. -/
abbrev Update (α : Type) : Type → Type := EStateM Failure (Array α)

/-- A checked computation that does not touch the buffer is part of an update. -/
instance {σ : Type} : MonadLift Outcome (EStateM Failure σ) where
  monadLift
    | .ok value => pure value
    | .error failure => throw failure

/-- The buffer after an update, if the update finishes. -/
def Update.apply {α : Type} (update : Update α Unit) (buffer : Array α) : Outcome (Array α) :=
  match update.run buffer with
  | .ok _ written => .ok written
  | .error failure _ => .error failure

/-- A piece of a buffer. -/
structure Slice where
  /-- Where the piece starts. -/
  offset : Nat
  /-- How many entries it has. -/
  length : Nat

namespace Slice

/-- The entries of a buffer in the piece. -/
def read {α : Type} (slice : Slice) (buffer : Array α) : Array α :=
  buffer.extract slice.offset (slice.offset + slice.length)

/-- The buffer with the piece replaced. -/
def write {α : Type} (slice : Slice) (buffer piece : Array α) : Array α :=
  buffer.extract 0 slice.offset ++ piece ++
    buffer.extract (slice.offset + slice.length) buffer.size

/-- Run an update on the piece alone.  It sees nothing of the rest, and what it has written, finished
or not, takes the place of the piece. -/
def update {α : Type} (slice : Slice) (inner : Update α Unit) : Update α Unit := fun buffer =>
  if slice.offset + slice.length ≤ buffer.size then
    match inner.run (slice.read buffer) with
    | .ok _ piece => .ok () (slice.write buffer piece)
    | .error failure piece => .error failure (slice.write buffer piece)
  else .error (.fault .sliceOutOfRange) buffer

variable {α : Type} {slice : Slice} {buffer piece : Array α}

theorem size_read (inside : slice.offset + slice.length ≤ buffer.size) :
    (slice.read buffer).size = slice.length := by
  rw [read, Array.size_extract, Nat.min_eq_left inside, Nat.add_sub_cancel_left]

theorem size_write (inside : slice.offset + slice.length ≤ buffer.size)
    (fits : piece.size = slice.length) : (slice.write buffer piece).size = buffer.size := by
  rw [write, Array.size_append, Array.size_append, Array.size_extract, Array.size_extract, fits]
  omega

/-- A written buffer holds the piece where the slice is and is unchanged elsewhere. -/
theorem getElem?_write (inside : slice.offset + slice.length ≤ buffer.size)
    (fits : piece.size = slice.length) (index : Nat) :
    (slice.write buffer piece)[index]? =
      if slice.offset ≤ index ∧ index < slice.offset + slice.length then
        piece[index - slice.offset]?
      else buffer[index]? := by
  have front : (buffer.extract 0 slice.offset).size = slice.offset := by
    rw [Array.size_extract]
    omega
  have both : (buffer.extract 0 slice.offset ++ piece).size = slice.offset + slice.length := by
    rw [Array.size_append, front, fits]
  rw [write]
  rcases Nat.lt_or_ge index slice.offset with before | after
  · have outside : ¬ (slice.offset ≤ index ∧ index < slice.offset + slice.length) :=
      fun within => Nat.not_le_of_gt before within.1
    rw [if_neg outside, Array.getElem?_append_left (by omega),
      Array.getElem?_append_left (by omega), Array.getElem?_extract, if_pos (by omega),
      Nat.zero_add]
  · rcases Nat.lt_or_ge index (slice.offset + slice.length) with within | beyond
    · rw [if_pos ⟨after, within⟩, Array.getElem?_append_left (by omega),
        Array.getElem?_append_right (by omega), front]
    · have outside : ¬ (slice.offset ≤ index ∧ index < slice.offset + slice.length) :=
        fun within => Nat.not_lt_of_ge beyond within.2
      rw [if_neg outside, Array.getElem?_append_right (by omega), both]
      rcases Nat.lt_or_ge index buffer.size with present | absent
      · rw [Array.getElem?_extract, if_pos (by omega), Nat.add_sub_of_le beyond]
      · rw [Array.getElem?_extract, if_neg (by omega), Array.getElem?_eq_none absent]

end Slice

namespace Bytes

/-- Add a byte string of the same length to the buffer. -/
def addInto (other : Bytes) : Update UInt8 Unit := do
  let buffer ← get
  require (buffer.size = other.size) (.fault .lengthMismatch)
  set (Bytes.xor buffer other)

end Bytes
end PrivateRetrieval
