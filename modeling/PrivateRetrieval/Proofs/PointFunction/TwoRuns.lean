import PrivateRetrieval.Proofs.HalfTree.Divergence
import PrivateRetrieval.Proofs.PointFunction.Bit
import PrivateRetrieval.Proofs.PointFunction.Field

namespace PrivateRetrieval
namespace PointFunction

open HalfTree

/-!
# What the keys show of the secret

Two runs of the key generation read the same tape and have different secrets.  They draw the same bytes,
so the roots are the same and the rest of the tape is the same.  The secret enters at the level at which
the paths of the two points diverge and in the word that corrects the leaves, and the lemmas say what it
changes there.  If the paths are equal, only the word for the leaves can differ.

This compares two runs on one tape.  It is no statement about what can be computed from one key, which
would need a property of the hash.
-/

/-- What two runs of the key generation from one tape have in common and how their keys differ, for two
paths through a tree of a given depth.  `shift` is what becomes of the word for the leaves if the paths
are equal. -/
structure TwoRuns {Leaf : Type} (tape : Tape) (depth path other : Nat) (shift : Leaf → Leaf)
    (run otherRun : Shares (Key Leaf) × Tape) : Prop where
  seeds_eq : otherRun.1.map Key.seed = run.1.map Key.seed
  /-- The sum of the two seeds is an offset. -/
  control_seeds : (run.1.map Key.seed).sum.control = true
  rest_eq : run.2 = { tape with position := tape.position + 32 }
  otherRest_eq : otherRun.2 = { tape with position := tape.position + 32 }
  /-- In either party's key the correction words change where the paths diverge. -/
  words_diverge : ∀ place, DivergeAt path other depth place →
    WordsDiverge (run.1.map Key.seed).sum depth place run.1.first.levels otherRun.1.first.levels
        run.1.first.last otherRun.1.first.last ∧
      WordsDiverge (run.1.map Key.seed).sum depth place run.1.second.levels
        otherRun.1.second.levels run.1.second.last otherRun.1.second.last
  keys_eq : path = other → otherRun.1 = run.1.map fun key => { key with leaf := shift key.leaf }
  /-- One of the two cases is always there. -/
  exhaustive : path = other ∨ ∃ place, DivergeAt path other depth place

/-- Whatever the keys are for, their trees are dealt alike. -/
theorem TwoRuns.of_fromTape {Leaf : Type} (hash : Block → Block) (tape : Tape) (logn : Nat)
    {depth path other : Nat} (inside : path < 2 ^ depth) (otherInside : other < 2 ^ depth)
    {leaf otherLeaf : Leaf} {shift : Leaf → Leaf} (shifted : path = other → otherLeaf = shift leaf) :
    TwoRuns tape depth path other shift
      (keysOf logn (Dealt.fromTape hash tape path depth) leaf,
        { tape with position := tape.position + 32 })
      (keysOf logn (Dealt.fromTape hash tape other depth) otherLeaf,
        { tape with position := tape.position + 32 }) := by
  have seeds (path : Nat) (leaf : Leaf) :
      (keysOf logn (Dealt.fromTape hash tape path depth) leaf).map Key.seed = drawnRoots tape :=
    Dealt.roots_ofPath tape.drawOffset.1 (drawnRoots tape) path depth
  constructor
  · rw [seeds, seeds]
  · rw [seeds, sum_drawnRoots]
    exact control_drawOffset tape
  · rfl
  · rfl
  · intro place diverge
    have words := Dealt.ofPath_wordsDiverge hash tape.drawOffset.1 (drawnRoots tape) diverge
    rw [seeds, sum_drawnRoots]
    exact ⟨words, words⟩
  · rintro rfl
    rw [shifted rfl]
    rfl
  · exact eq_or_divergeAt inside otherInside

/-- On one leaf the words for two points differ by the unit blocks of the points. -/
theorem BitKey.leafWord_eq_xor (context : HashContext) (dealt : Dealt) (index other : Nat) :
    leafWord context dealt other = leafWord context dealt index ^^^
      (BitVec.twoPow 128 (leafPlace index) ^^^ BitVec.twoPow 128 (leafPlace other)) := by
  rw [leafWord, leafWord]
  generalize (dealt.leaves.map context.hashLeaf).sum = hashes
  rw [BitVec.xor_assoc hashes, ← BitVec.xor_assoc (BitVec.twoPow 128 (leafPlace index)),
    BitVec.xor_self, BitVec.zero_xor]

theorem FieldKey.leafWord_eq_add (context : HashContext) (dealt : Dealt)
    (element otherElement : Element) :
    leafWord context dealt otherElement =
      leafWord context dealt element + (element + otherElement) := by
  rw [leafWord, leafWord]
  generalize context.convert dealt.leaves.first = first
  generalize context.convert dealt.leaves.second = second
  have grouped : element + first + second + (element + otherElement) =
      element + (element + (otherElement + first + second)) := by ac_rfl
  rw [grouped, Element.add_add_cancel]

/-- **Two runs.**  For any two points of one domain and any two elements, all keys are generated.  With
one tape the seeds and the rest of the tape are the same, the correction words change first where the
paths of the two points diverge, and for two points with one path only the word for the leaves changes,
by the two unit blocks or by the two elements. -/
theorem generate_twice (context : HashContext) (tape : Tape) {logn index other : Nat}
    (narrow : logn ≤ maxLogn) (inside : index < 2 ^ logn) (otherInside : other < 2 ^ logn) :
    (∃ run otherRun,
      BitKey.generate context index logn tape = .ok run ∧
        BitKey.generate context other logn tape = .ok otherRun ∧
        TwoRuns tape (bitDepth logn) (leafPath index) (leafPath other)
          (fun leaf => leaf ^^^
            (BitVec.twoPow 128 (leafPlace index) ^^^ BitVec.twoPow 128 (leafPlace other)))
          run otherRun) ∧
      ∀ element otherElement : Element, ∃ run otherRun,
        FieldKey.generate context index element logn tape = .ok run ∧
          FieldKey.generate context other otherElement logn tape = .ok otherRun ∧
          TwoRuns tape logn index other (fun leaf => leaf + (element + otherElement)) run
            otherRun := by
  constructor
  · refine ⟨_, _, BitKey.generate_eq_fromTape context narrow inside tape,
      BitKey.generate_eq_fromTape context narrow otherInside tape, ?_⟩
    apply TwoRuns.of_fromTape _ _ _ (BitKey.leafPath_lt inside) (BitKey.leafPath_lt otherInside)
    intro samePath
    rw [samePath]
    exact BitKey.leafWord_eq_xor context _ index other
  · intro element otherElement
    refine ⟨_, _, FieldKey.generate_eq_fromTape context narrow inside element tape,
      FieldKey.generate_eq_fromTape context narrow otherInside otherElement tape, ?_⟩
    apply TwoRuns.of_fromTape _ _ _ inside otherInside
    rintro rfl
    exact FieldKey.leafWord_eq_add context _ element otherElement

/-- The points 300 and 428 of 512.  As paths to leaves of 128 bits they are `10` and `11` and diverge at
the last level; as paths of nine bits they diverge at the second level. -/
theorem generate_twice_of_512_points :
    9 ≤ maxLogn ∧ 300 < 2 ^ 9 ∧ 428 < 2 ^ 9 ∧
      (∃ run otherRun,
        BitKey.generate ⟨0x2b7e, 0x1516⟩ 300 9 (Tape.repeating #[3, 141, 59]) = .ok run ∧
          BitKey.generate ⟨0x2b7e, 0x1516⟩ 428 9 (Tape.repeating #[3, 141, 59]) = .ok otherRun ∧
          run.1.first.levels = otherRun.1.first.levels ∧
          ∃ word other, run.1.first.last = some word ∧ otherRun.1.first.last = some other ∧
            other.leftByte = word.leftByte ^^^ 1 ∧ other.rightByte = word.rightByte ^^^ 1) ∧
      ∃ run otherRun,
        FieldKey.generate ⟨0x2b7e, 0x1516⟩ 300 ⟨0x53⟩ 9 (Tape.repeating #[3, 141, 59]) = .ok run ∧
          FieldKey.generate ⟨0x2b7e, 0x1516⟩ 428 ⟨0x35⟩ 9 (Tape.repeating #[3, 141, 59]) =
            .ok otherRun ∧
          ∃ before word after otherAfter, before.length = 1 ∧
            run.1.first.levels = before ++ word :: after ∧
            otherRun.1.first.levels =
              before ++ (word ^^^ (run.1.map Key.seed).sum) :: otherAfter := by
  have atLast : DivergeAt (leafPath 300) (leafPath 428) (bitDepth 9) 1 :=
    ⟨by decide, by decide, by decide⟩
  have atSecond : DivergeAt 300 428 9 1 := ⟨by decide, by decide, by decide⟩
  rcases generate_twice ⟨0x2b7e, 0x1516⟩ (Tape.repeating #[3, 141, 59])
      (show 9 ≤ maxLogn by decide) (show 300 < 2 ^ 9 by decide) (show 428 < 2 ^ 9 by decide) with
    ⟨⟨run, otherRun, ran, ranToo, bits⟩, elements⟩
  rcases elements ⟨0x53⟩ ⟨0x35⟩ with ⟨fieldRun, otherFieldRun, fieldRan, fieldRanToo, shares⟩
  exact ⟨by decide, by decide, by decide,
    ⟨run, otherRun, ran, ranToo, (bits.words_diverge 1 atLast).1.at_last rfl⟩,
    fieldRun, otherFieldRun, fieldRan, fieldRanToo,
    (shares.words_diverge 1 atSecond).1.at_level (by decide)⟩

end PointFunction
end PrivateRetrieval
