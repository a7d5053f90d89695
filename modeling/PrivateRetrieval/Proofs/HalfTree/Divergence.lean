import Mathlib.Data.Nat.Find
import PrivateRetrieval.Proofs.HalfTree.Offset

namespace PrivateRetrieval
namespace HalfTree

/-!
# Two paths from one tape

The dealer reads the bits of the secret path one by one.  What is chosen at a level depends on the bits
read so far, and the bit of the level itself decides no more than whether the offset is added to the
correction word.  So if the same offset and the same roots are dealt along two paths, the correction
words are equal down to the level at which the paths diverge, and there they differ by the offset.  At
the last level it is not the offset that makes the difference but the control bit of either child.

Nothing is said about the levels below.  There the seeds on the two paths are different, and so are the
values of the hash.
-/

variable {hash : Block → Block} {offset : Block}

/-! ## Paths -/

/-- Two paths of `depth` bits agree before a place, counted from the most significant bit, and differ
there. -/
structure DivergeAt (path other depth place : Nat) : Prop where
  inside : place < depth
  same_before : ∀ earlier, earlier < place →
    path.testBit (depth - 1 - earlier) = other.testBit (depth - 1 - earlier)
  differ : path.testBit (depth - 1 - place) ≠ other.testBit (depth - 1 - place)

/-- Two paths are equal or diverge at some place. -/
theorem eq_or_divergeAt {path other depth : Nat} (inside : path < 2 ^ depth)
    (otherInside : other < 2 ^ depth) : path = other ∨ ∃ place, DivergeAt path other depth place := by
  by_cases apart : ∃ place, place < depth ∧
      path.testBit (depth - 1 - place) ≠ other.testBit (depth - 1 - place)
  · have first := Nat.find_spec apart
    refine Or.inr ⟨Nat.find apart, first.1, ?_, first.2⟩
    intro earlier before
    by_contra differ
    exact Nat.find_min apart before ⟨Nat.lt_trans before first.1, differ⟩
  · left
    apply eq_of_steps_eq inside otherInside
    apply List.map_congr_left
    intro place member
    by_contra differ
    exact apart ⟨place, List.mem_range.mp member, differ⟩

theorem DivergeAt.steps_eq {path other depth place : Nat} (diverge : DivergeAt path other depth place) :
    steps path depth place = steps other depth place := by
  apply List.map_congr_left
  intro earlier member
  exact diverge.same_before earlier (List.mem_range.mp member)

theorem DivergeAt.bit_eq {path other depth place : Nat} (diverge : DivergeAt path other depth place) :
    other.testBit (depth - 1 - place) = !path.testBit (depth - 1 - place) :=
  Bool.eq_not.mpr diverge.differ.symm

/-- A path goes on after its first steps. -/
theorem steps_split (path depth : Nat) {place count : Nat} (before : place < count) :
    ∃ later, steps path depth count =
      steps path depth place ++ path.testBit (depth - 1 - place) :: later := by
  obtain ⟨more, rfl⟩ : ∃ more, count = place + (1 + more) := ⟨count - place - 1, by omega⟩
  rw [steps, List.range_add, List.map_append, Nat.add_comm 1 more, List.range_succ_eq_map]
  exact ⟨_, rfl⟩

/-! ## Inner levels -/

theorem levelWord_not (offset : Block) (hashed : Shares Block) (right : Bool) :
    levelWord offset hashed (!right) = levelWord offset hashed right ^^^ offset := by
  cases right with
  | true => exact congrArg (· ^^^ offset) BitVec.xor_zero.symm
  | false =>
      change hashed.sum ^^^ 0 = hashed.sum ^^^ offset ^^^ offset
      rw [BitVec.xor_assoc, BitVec.xor_self]
      rfl

/-- The words chosen along two lists of steps are equal for the steps that the lists have in common. -/
theorem levelWords_diverge (hash : Block → Block) (offset : Block) (common : List Bool)
    (right : Bool) (later otherLater : List Bool) :
    ∀ seeds : Shares Block, ∃ before word after otherAfter,
      before.length = common.length ∧
        levelWords hash offset seeds (common ++ right :: later) = before ++ word :: after ∧
        levelWords hash offset seeds (common ++ (!right) :: otherLater) =
          before ++ (word ^^^ offset) :: otherAfter := by
  induction common with
  | nil =>
      intro seeds
      have others : levelWords hash offset seeds ((!right) :: otherLater) =
          levelWord offset (seeds.map hash) (!right) :: _ := rfl
      rw [levelWord_not] at others
      exact ⟨[], _, _, _, rfl, rfl, others⟩
  | cons step common below =>
      intro seeds
      let first := levelWord offset (seeds.map hash) step
      rcases below (seeds.map fun seed => child hash first seed step) with
        ⟨before, word, after, otherAfter, length, words, others⟩
      exact ⟨first :: before, word, after, otherAfter, congrArg Nat.succ length,
        congrArg (first :: ·) words, congrArg (first :: ·) others⟩

/-! ## The last level -/

theorem controlByte_not (bit : Bool) : Block.controlByte (!bit) = Block.controlByte bit ^^^ 1 := by
  cases bit <;> rfl

theorem leftByte_dealLast_not (seeds : Shares Block) (right : Bool) :
    (dealLast hash seeds (!right)).1.leftByte = (dealLast hash seeds right).1.leftByte ^^^ 1 := by
  change Block.controlByte (_ ^^ !!right) = Block.controlByte (_ ^^ !right) ^^^ 1
  rw [← controlByte_not, Bool.xor_not]

theorem rightByte_dealLast_not (seeds : Shares Block) (right : Bool) :
    (dealLast hash seeds (!right)).1.rightByte = (dealLast hash seeds right).1.rightByte ^^^ 1 := by
  change Block.controlByte (_ ^^ !right) = Block.controlByte (_ ^^ right) ^^^ 1
  rw [← controlByte_not, Bool.xor_not]

/-! ## The whole tree -/

/-- How the correction words of two trees with one offset differ if their paths diverge at a place. -/
structure WordsDiverge (offset : Block) (depth place : Nat) (levels others : List Block)
    (last otherLast : Option LastLevelWord) : Prop where
  /-- Above the last level the word at the place is the first that differs, and it differs by the
  offset. -/
  at_level : place < depth - 1 → ∃ before word after otherAfter,
    before.length = place ∧ levels = before ++ word :: after ∧
      others = before ++ (word ^^^ offset) :: otherAfter
  /-- At the last level all words of inner levels are equal, and both control bits flip. -/
  at_last : place = depth - 1 → levels = others ∧ ∃ word other,
    last = some word ∧ otherLast = some other ∧
      other.leftByte = word.leftByte ^^^ 1 ∧ other.rightByte = word.rightByte ^^^ 1

theorem Dealt.ofPath_wordsDiverge (hash : Block → Block) (offset : Block) (roots : Shares Block)
    {path other depth place : Nat} (diverge : DivergeAt path other depth place) :
    let dealt := Dealt.ofPath hash offset roots path depth
    let otherDealt := Dealt.ofPath hash offset roots other depth
    WordsDiverge offset depth place dealt.levels otherDealt.levels dealt.last otherDealt.last := by
  cases depth with
  | zero => exact absurd diverge.inside (Nat.not_lt_zero place)
  | succ inner =>
      rw [Dealt.ofPath_succ, Dealt.ofPath_succ]
      constructor
      · intro above
        rcases steps_split path (inner + 1) above with ⟨later, taken⟩
        rcases steps_split other (inner + 1) above with ⟨otherLater, otherTaken⟩
        rw [← diverge.steps_eq, diverge.bit_eq] at otherTaken
        have words := levelWords_diverge hash offset (steps path (inner + 1) place)
          (path.testBit (inner + 1 - 1 - place)) later otherLater roots
        rw [length_steps, ← taken, ← otherTaken] at words
        exact words
      · rintro rfl
        have lastBit := diverge.bit_eq
        rw [Nat.add_sub_cancel, Nat.sub_self] at lastBit
        have sameNodes : lastNodes hash offset roots path place =
            lastNodes hash offset roots other place := by
          rw [lastNodes_eq_descend, lastNodes_eq_descend, diverge.steps_eq]
        rw [diverge.steps_eq, sameNodes, lastBit]
        exact ⟨rfl, _, _, rfl, rfl, leftByte_dealLast_not _ _, rightByte_dealLast_not _ _⟩

end HalfTree
end PrivateRetrieval
