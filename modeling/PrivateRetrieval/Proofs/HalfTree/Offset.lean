import PrivateRetrieval.HalfTree.Deal
import PrivateRetrieval.Proofs.HalfTree.Nodes

namespace PrivateRetrieval
namespace HalfTree

/-!
# The offset along the secret path

The dealer follows one path; the parties expand every node.  The invariant that connects them is the
sum of the two seeds at a node: it is the offset if the node lies on the secret path and zero if it
does not.  Below the root it is carried from level to level by the choice of the correction word, in
both directions at once, and off the path it is carried by equality alone.

The last level breaks the offset on purpose.  What is left there is that the leaves off the path are
equal and that the control bits of the two leaves on it differ.

The hash is any function: only the difference of its values at two seeds enters, and the correction
words cancel it.
-/

variable {hash : Block → Block}

/-! ## One inner level -/

/-- The sum of two children derived with one correction word. -/
theorem derive_xor_derive (first second firstHash secondHash word : Block) (right : Bool) :
    derive first firstHash word right ^^^ derive second secondHash word right =
      firstHash ^^^ secondHash ^^^ Block.onlyIf right (first ^^^ second) ^^^
        Block.onlyIf (first ^^^ second).control word := by
  rw [derive, derive, Block.corrected_xor_corrected, Block.control_xor, ← Block.onlyIf_xor_onlyIf]
  ac_rfl

/-- One level keeps the offset in the direction of the path and removes it in the other. -/
theorem child_xor_child (hash : Block → Block) {offset : Block} (set : offset.control = true)
    {seeds : Shares Block} (apart : seeds.sum = offset) (right direction : Bool) :
    child hash (levelWord offset (seeds.map hash) right) seeds.first direction ^^^
        child hash (levelWord offset (seeds.map hash) right) seeds.second direction =
      Block.onlyIf (direction == right) offset := by
  have hashed (left right extra : Block) : left ^^^ right ^^^ extra ^^^ (left ^^^ right) = extra := by
    rw [BitVec.xor_comm (left ^^^ right), BitVec.xor_assoc, BitVec.xor_self, BitVec.xor_zero]
  change seeds.first ^^^ seeds.second = offset at apart
  rw [child, child, derive_xor_derive, apart, set]
  change hash seeds.first ^^^ hash seeds.second ^^^ Block.onlyIf direction offset ^^^
    (hash seeds.first ^^^ hash seeds.second ^^^ Block.onlyIf (!right) offset) = _
  rw [← BitVec.xor_assoc, hashed, Block.onlyIf_xor_onlyIf_same]
  cases direction <;> cases right <;> rfl

/-! ## All inner levels -/

/-- The correction words that the dealer chooses along some steps. -/
def levelWords (hash : Block → Block) (offset : Block) : Shares Block → List Bool → List Block
  | _, [] => []
  | seeds, right :: path =>
      let word := levelWord offset (seeds.map hash) right
      word :: levelWords hash offset (seeds.map fun seed => child hash word seed right) path

theorem length_levelWords (offset : Block) (seeds : Shares Block) (path : List Bool) :
    (levelWords hash offset seeds path).length = path.length := by
  induction path generalizing seeds with
  | nil => rfl
  | cons right path counted =>
      rw [levelWords, List.length_cons, List.length_cons, counted]

/-- The dealer's loop succeeds, with the words of the steps it takes and the seeds they lead to. -/
theorem dealLevels_eq_ok (hash : Block → Block) (offset : Block) (path : Nat) {depth : Nat}
    (narrow : depth ≤ 32) (count : Nat) :
    ∀ (level : Nat) (seeds : Shares Block), level + count ≤ depth →
      let taken := (List.range' level count).map fun place => path.testBit (depth - 1 - place)
      let words := levelWords hash offset seeds taken
      dealLevels hash offset path depth count level seeds =
        .ok (words, seeds.map fun seed => descend hash seed words taken) := by
  induction count with
  | zero =>
      intro level seeds _
      rfl
  | succ count below =>
      intro level seeds inside
      have here : level < depth := by omega
      have rest := below (level + 1)
        (seeds.map fun seed => child hash (levelWord offset (seeds.map hash)
          (path.testBit (depth - 1 - level))) seed (path.testBit (depth - 1 - level)))
        (by omega)
      rw [dealLevels, bind_of_eq_ok (pathBit_eq_ok here narrow)]
      exact (bind_of_eq_ok rest _).trans rfl

theorem descend_of_seeds_eq {first second : Block} (same : first = second) (words : List Block)
    (path : List Bool) : descend hash first words path ^^^ descend hash second words path = 0 := by
  rw [same]
  exact BitVec.xor_self

/-- Wherever some steps lead, the seeds differ by the offset if the steps lie on the path, and not at
all if they leave it. -/
theorem descend_xor_descend (hash : Block → Block) {offset : Block} (set : offset.control = true)
    (path : List Bool) :
    ∀ (seeds : Shares Block), seeds.sum = offset → ∀ taken : List Bool,
      taken.length ≤ path.length →
        descend hash seeds.first (levelWords hash offset seeds path) taken ^^^
            descend hash seeds.second (levelWords hash offset seeds path) taken =
          Block.onlyIf (taken.isPrefixOf path) offset := by
  induction path with
  | nil =>
      intro seeds apart taken short
      rw [List.length_eq_zero_iff.mp (Nat.le_zero.mp short)]
      exact apart
  | cons right path below =>
      intro seeds apart taken short
      cases taken with
      | nil => exact apart
      | cons direction taken =>
          have step := child_xor_child hash set apart right direction
          change descend hash (child hash _ seeds.first direction) _ taken ^^^
            descend hash (child hash _ seeds.second direction) _ taken = _
          rw [List.isPrefixOf]
          cases onPath : direction == right with
          | true =>
              rw [onPath] at step
              rw [beq_iff_eq.mp onPath] at step ⊢
              rw [Bool.true_and]
              exact below (seeds.map fun seed => child hash _ seed right) step taken
                (Nat.le_of_succ_le_succ short)
          | false =>
              rw [onPath] at step
              -- Equal seeds stay equal below, whatever the correction words are.
              exact descend_of_seeds_eq (BitVec.xor_eq_zero_iff.mp step) _ taken

/-! ## The last level -/

theorem body_toward (word : LastLevelWord) (right : Bool) : (word.toward right).body = word.body := by
  apply BitVec.eq_of_getLsbD_eq
  intro index inside
  change (((if right then word.rightByte else word.leftByte) ++ word.body).setWidth 120).getLsbD index
    = _
  rw [BitVec.getLsbD_setWidth, BitVec.getLsbD_append, if_pos inside, decide_eq_true inside,
    Bool.true_and]

theorem control_toward (word : LastLevelWord) (right : Bool) :
    (word.toward right).control = (if right then word.rightByte else word.leftByte).getLsbD 0 := by
  change ((if right then word.rightByte else word.leftByte) ++ word.body).getLsbD 120 = _
  rw [BitVec.getLsbD_append]
  rfl

theorem getLsbD_controlByte (bit : Bool) : (Block.controlByte bit).getLsbD 0 = bit := by
  cases bit <;> rfl

theorem normalize_congr {left right : Block} (bodies : left.body = right.body)
    (controls : left.control = right.control) : left.normalize = right.normalize := by
  rw [Block.normalize, Block.normalize, controls]
  exact Block.withControl_congr bodies

/-- The hash values for one child of the two nodes above the last level. -/
def lastHashes (hash : Block → Block) (seeds : Shares Block) (direction : Bool) : Shares Block :=
  seeds.map fun seed => hash (lastInput seed direction)

theorem body_dealLast (seeds : Shares Block) (right : Bool) :
    (dealLast hash seeds right).1.body = (lastHashes hash seeds (!right)).sum.body :=
  rfl

theorem control_dealLast_toward (seeds : Shares Block) (right direction : Bool) :
    ((dealLast hash seeds right).1.toward direction).control =
      ((lastHashes hash seeds direction).sum.control ^^ (direction == right)) := by
  rw [control_toward, Shares.sum, Block.control_xor]
  cases direction
  · change (Block.controlByte _).getLsbD 0 = _
    rw [getLsbD_controlByte, Bool.false_beq]
    rfl
  · change (Block.controlByte _).getLsbD 0 = _
    rw [getLsbD_controlByte, Bool.true_beq]
    rfl

/-- Two leaves before they are normalised, if one party alone adds the correction word. -/
theorem leaf_xor_leaf (hash : Block → Block) {seeds : Shares Block} (apart : seeds.sum.control = true)
    (word : LastLevelWord) (direction : Bool) :
    (lastHashes hash seeds direction).first ^^^
          Block.onlyIf seeds.first.control (word.toward direction) ^^^
        ((lastHashes hash seeds direction).second ^^^
          Block.onlyIf seeds.second.control (word.toward direction)) =
      (lastHashes hash seeds direction).sum ^^^ word.toward direction := by
  rw [Block.corrected_xor_corrected, ← Block.control_xor]
  change _ ^^^ Block.onlyIf seeds.sum.control _ = _
  rw [apart]
  rfl

/-- The control bits of the two leaves differ in the direction of the path and nowhere else. -/
theorem control_leafBelow_xor (hash : Block → Block) {seeds : Shares Block}
    (apart : seeds.sum.control = true) (right direction : Bool) :
    ((leafBelow hash (dealLast hash seeds right).1 seeds.first direction).control ^^
        (leafBelow hash (dealLast hash seeds right).1 seeds.second direction).control) =
      (direction == right) := by
  have sum := congrArg Block.control
    (leaf_xor_leaf hash apart (dealLast hash seeds right).1 direction)
  rw [Block.control_xor, Block.control_xor _ (LastLevelWord.toward _ _),
    control_dealLast_toward, ← Bool.xor_assoc, Bool.xor_self, Bool.false_xor] at sum
  rw [leafBelow, leafBelow, deriveLeaf, deriveLeaf, Block.control_normalize,
    Block.control_normalize]
  exact sum

/-- The two leaves off the path are equal. -/
theorem leafBelow_eq_of_ne {seeds : Shares Block} (apart : seeds.sum.control = true)
    {right direction : Bool} (off : direction ≠ right) :
    leafBelow hash (dealLast hash seeds right).1 seeds.first direction =
      leafBelow hash (dealLast hash seeds right).1 seeds.second direction := by
  have other : direction = !right := Bool.eq_not.mpr off
  have controls := control_leafBelow_xor hash apart right direction
  rw [beq_eq_false_iff_ne.mpr off, leafBelow, leafBelow, deriveLeaf, deriveLeaf,
    Block.control_normalize, Block.control_normalize] at controls
  have bodies := congrArg Block.body
    (leaf_xor_leaf hash apart (dealLast hash seeds right).1 direction)
  rw [Block.body_xor, Block.body_xor _ (LastLevelWord.toward _ _), body_toward, body_dealLast,
    ← other, BitVec.xor_self] at bodies
  exact normalize_congr (BitVec.xor_eq_zero_iff.mp bodies) (bne_eq_false_iff_eq.mp controls)

/-! ## The whole tree -/

/-- What the dealer derives for a path, without the checks on bit positions. -/
def Dealt.ofPath (hash : Block → Block) (offset : Block) (roots : Shares Block) (path depth : Nat) :
    Dealt :=
  if depth = 0 then
    { roots, levels := [], last := none, leaves := roots.map Block.normalize }
  else
    let taken := steps path depth (depth - 1)
    let levels := levelWords hash offset roots taken
    let (word, leaves) :=
      dealLast hash (roots.map fun root => descend hash root levels taken) (path.testBit 0)
    { roots, levels, last := some word, leaves }

theorem Dealt.roots_ofPath (offset : Block) (roots : Shares Block) (path depth : Nat) :
    (Dealt.ofPath hash offset roots path depth).roots = roots := by
  unfold Dealt.ofPath
  split <;> rfl

theorem dealFrom_eq_ok (offset : Block) (roots : Shares Block) (path : Nat) {depth : Nat}
    (narrow : depth ≤ 32) :
    dealFrom hash offset roots path depth = .ok (Dealt.ofPath hash offset roots path depth) := by
  cases depth with
  | zero => rfl
  | succ inner =>
      have levels := dealLevels_eq_ok hash offset path narrow inner 0 roots (by omega)
      have last := @pathBit_eq_ok path inner (inner + 1) (Nat.lt_add_one inner) narrow
      rw [← List.range_eq_range'] at levels
      rw [Nat.add_sub_cancel, Nat.sub_self] at last
      rw [dealFrom, if_neg (Nat.succ_ne_zero inner), Nat.add_sub_cancel, bind_of_eq_ok levels]
      exact bind_of_eq_ok last _

/-- Two trees with common correction words that differ along one path only. -/
structure Dealt.DiffersAlong (hash : Block → Block) (offset : Block) (path depth : Nat)
    (dealt : Dealt) : Prop where
  roots_sum : dealt.roots.sum = offset
  shaped : Shaped depth dealt.levels dealt.last
  /-- At every node above the last level the sum of the seeds is the offset or zero. -/
  seeds_sum : ∀ taken : List Bool, taken.length ≤ depth - 1 →
    descend hash dealt.roots.first dealt.levels taken ^^^
        descend hash dealt.roots.second dealt.levels taken =
      Block.onlyIf (taken.isPrefixOf (steps path depth (depth - 1))) offset
  leaves_eq : dealt.leaves = dealt.roots.map fun root =>
    leafAt hash root dealt.levels dealt.last path
  controls_differ : (dealt.leaves.first.control ^^ dealt.leaves.second.control) = true
  leaves_agree : ∀ index, index < 2 ^ depth → index ≠ path →
    leafAt hash dealt.roots.first dealt.levels dealt.last index =
      leafAt hash dealt.roots.second dealt.levels dealt.last index

theorem Dealt.DiffersAlong.leafAt_first {hash : Block → Block} {offset : Block} {path depth : Nat}
    {dealt : Dealt} (differs : dealt.DiffersAlong hash offset path depth) :
    leafAt hash dealt.roots.first dealt.levels dealt.last path = dealt.leaves.first :=
  congrArg Shares.first differs.leaves_eq.symm

theorem Dealt.DiffersAlong.leafAt_second {hash : Block → Block} {offset : Block} {path depth : Nat}
    {dealt : Dealt} (differs : dealt.DiffersAlong hash offset path depth) :
    leafAt hash dealt.roots.second dealt.levels dealt.last path = dealt.leaves.second :=
  congrArg Shares.second differs.leaves_eq.symm

/-- The sum of the seeds at the node above the last level that a path goes through. -/
theorem lastNode_xor_lastNode (hash : Block → Block) {offset : Block} (set : offset.control = true)
    {roots : Shares Block} (apart : roots.sum = offset) (path inner index : Nat) :
    let levels := levelWords hash offset roots (steps path (inner + 1) inner)
    lastNode hash roots.first levels index ^^^ lastNode hash roots.second levels index =
      Block.onlyIf (decide (steps index (inner + 1) inner = steps path (inner + 1) inner)) offset := by
  intro levels
  have length : levels.length = inner := by
    rw [length_levelWords, length_steps]
  have sum := descend_xor_descend hash set (steps path (inner + 1) inner) roots apart
    (steps index (inner + 1) inner) (Nat.le_of_eq (by rw [length_steps, length_steps]))
  rw [lastNode, lastNode, length, sum]
  congr 1
  apply Bool.eq_iff_iff.mpr
  rw [List.isPrefixOf_iff_prefix, decide_eq_true_eq]
  constructor
  · intro leading
    exact leading.eq_of_length (by rw [length_steps, length_steps])
  · intro same
    exact same ▸ List.prefix_rfl

/-- The nodes above the last level that the path goes through. -/
def lastNodes (hash : Block → Block) (offset : Block) (roots : Shares Block) (path inner : Nat) :
    Shares Block :=
  roots.map fun root =>
    lastNode hash root (levelWords hash offset roots (steps path (inner + 1) inner)) path

theorem lastNodes_eq_descend (hash : Block → Block) (offset : Block) (roots : Shares Block)
    (path inner : Nat) :
    lastNodes hash offset roots path inner =
      let taken := steps path (inner + 1) inner
      roots.map fun root => descend hash root (levelWords hash offset roots taken) taken := by
  simp only [lastNodes, lastNode, length_levelWords, length_steps]

/-- A tree with a last level has it below the nodes that the path goes through. -/
theorem Dealt.ofPath_succ (hash : Block → Block) (offset : Block) (roots : Shares Block)
    (path inner : Nat) :
    Dealt.ofPath hash offset roots path (inner + 1) =
      { roots, levels := levelWords hash offset roots (steps path (inner + 1) inner)
        last := some (dealLast hash (lastNodes hash offset roots path inner) (path.testBit 0)).1
        leaves := (dealLast hash (lastNodes hash offset roots path inner) (path.testBit 0)).2 } := by
  rw [lastNodes_eq_descend]
  rfl

section Path

variable {offset : Block} (set : offset.control = true) {roots : Shares Block}
  (apart : roots.sum = offset)

include set apart

theorem control_sum_lastNodes (hash : Block → Block) (path inner : Nat) :
    (lastNodes hash offset roots path inner).sum.control = true := by
  have onPath := lastNode_xor_lastNode hash set apart path inner path
  rw [decide_eq_true rfl] at onPath
  change (lastNodes hash offset roots path inner).sum = offset at onPath
  rw [onPath]
  exact set

/-- Another path ends at two equal leaves: it leaves the path above the last level, where both nodes are
equal already, or at the last level. -/
theorem leafBelow_lastNode_eq (hash : Block → Block) {path index inner : Nat}
    (inside : path < 2 ^ (inner + 1)) (below : index < 2 ^ (inner + 1)) (other : index ≠ path) :
    let levels := levelWords hash offset roots (steps path (inner + 1) inner)
    let word := (dealLast hash (lastNodes hash offset roots path inner) (path.testBit 0)).1
    leafBelow hash word (lastNode hash roots.first levels index) (index.testBit 0) =
      leafBelow hash word (lastNode hash roots.second levels index) (index.testBit 0) := by
  intro levels word
  have node := lastNode_xor_lastNode hash set apart path inner index
  by_cases onPath : steps index (inner + 1) inner = steps path (inner + 1) inner
  · have lastBit : index.testBit 0 ≠ path.testBit 0 := by
      intro same
      refine other (eq_of_steps_eq below inside ?_)
      rw [steps_succ, steps_succ, onPath, Nat.add_sub_cancel, Nat.sub_self, same]
    have sameNode (root : Block) : lastNode hash root levels index = lastNode hash root levels path := by
      simp only [lastNode, levels, length_levelWords, length_steps, onPath]
    rw [sameNode, sameNode]
    exact leafBelow_eq_of_ne (control_sum_lastNodes set apart hash path inner) lastBit
  · rw [decide_eq_false onPath] at node
    rw [BitVec.xor_eq_zero_iff.mp node]

/-- At depth zero the roots are the leaves. -/
theorem Dealt.ofPath_zero_differsAlong :
    (Dealt.ofPath hash offset roots 0 0).DiffersAlong hash offset 0 0 := by
  refine ⟨apart, ⟨rfl, rfl⟩, ?_, rfl, ?_, ?_⟩
  · intro taken short
    rw [List.length_eq_zero_iff.mp (Nat.le_zero.mp short)]
    exact apart
  · change (roots.first.normalize.control ^^ roots.second.normalize.control) = true
    rw [Block.control_normalize, Block.control_normalize, ← Block.control_xor]
    exact (congrArg Block.control apart).trans set
  · intro index below other
    exact absurd (Nat.lt_one_iff.mp below) other

/-- The dealt trees differ along the path. -/
theorem Dealt.ofPath_differsAlong {path depth : Nat} (inside : path < 2 ^ depth) :
    (Dealt.ofPath hash offset roots path depth).DiffersAlong hash offset path depth := by
  cases depth with
  | zero =>
      rw [Nat.lt_one_iff.mp inside]
      exact Dealt.ofPath_zero_differsAlong set apart
  | succ inner =>
      rw [Dealt.ofPath_succ]
      refine ⟨apart, ⟨?_, rfl⟩, ?_, rfl, ?_, ?_⟩
      · rw [length_levelWords, length_steps, Nat.add_sub_cancel]
      · intro taken short
        exact descend_xor_descend hash set _ roots apart taken (by rw [length_steps]; exact short)
      · have nodes := control_sum_lastNodes set apart hash path inner
        exact (control_leafBelow_xor hash nodes _ _).trans (beq_self_eq_true _)
      · intro index below other
        exact leafBelow_lastNode_eq set apart hash inside below other

end Path

/-! ## The draw from the tape -/

theorem control_drawOffset (tape : Tape) : tape.drawOffset.1.control = true := by
  change (tape.drawBlock.1 ||| BitVec.twoPow 128 120).getLsbD 120 = true
  rw [BitVec.getLsbD_or, BitVec.getLsbD_twoPow]
  simp

/-- The two roots that are drawn from a tape. -/
def drawnRoots (tape : Tape) : Shares Block :=
  let shares := tape.drawOffset.2.drawShares tape.drawOffset.1
  ⟨shares.1.1, shares.1.2⟩

theorem sum_drawnRoots (tape : Tape) : (drawnRoots tape).sum = tape.drawOffset.1 := by
  change tape.drawOffset.2.drawBlock.1 ^^^ (tape.drawOffset.2.drawBlock.1 ^^^ tape.drawOffset.1) = _
  rw [← BitVec.xor_assoc, BitVec.xor_self, BitVec.zero_xor]

/-- What is dealt from a tape, without the checks of the depth and of bit positions. -/
def Dealt.fromTape (hash : Block → Block) (tape : Tape) (path depth : Nat) : Dealt :=
  Dealt.ofPath hash tape.drawOffset.1 (drawnRoots tape) path depth

/-- Dealing succeeds for every path of at most 32 bits and uses 32 bytes of the tape. -/
theorem deal_eq_ok (hash : Block → Block) (path : Nat) {depth : Nat} (narrow : depth ≤ 32)
    (tape : Tape) :
    deal hash path depth tape =
      .ok (Dealt.fromTape hash tape path depth, { tape with position := tape.position + 32 }) := by
  refine (bind_of_eq_ok (require_eq_ok_iff.mpr narrow) _).trans ?_
  exact bind_of_eq_ok (dealFrom_eq_ok _ _ path narrow) _

/-- If the tree has the path, the dealt trees differ along it. -/
theorem Dealt.fromTape_differsAlong (hash : Block → Block) (tape : Tape) {path depth : Nat}
    (inside : path < 2 ^ depth) :
    (Dealt.fromTape hash tape path depth).DiffersAlong hash tape.drawOffset.1 path depth :=
  Dealt.ofPath_differsAlong (control_drawOffset tape) (sum_drawnRoots tape) inside

end HalfTree
end PrivateRetrieval
