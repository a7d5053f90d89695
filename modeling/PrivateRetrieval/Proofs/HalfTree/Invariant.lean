import PrivateRetrieval.Proofs.HalfTree.Offset

namespace PrivateRetrieval
namespace HalfTree

/-!
# The invariant of two dealt trees

What the dealer promises is about the secret path, and what the parties compute is all nodes of all levels.
Here the promise is said of the lists of nodes that the expansion produces.  At a node above the last level
the seeds of the two parties differ by the offset if the node lies on the path, and are equal if it does
not.  At the last level the leaves off the path are equal, and those on the path are the two that the dealer
has derived, whose control bits differ.

The node that some steps lead to is `descend` of these steps; the levels of the expansion list these nodes
in the order of their steps.
-/

variable {hash : Block → Block}

/-! ## Steps and nodes -/

/-- The first steps of a path lead along it. -/
theorem prefix_steps_iff {path depth count : Nat} (inside : count ≤ depth) {taken : List Bool} :
    taken <+: steps path depth count ↔ taken <+: steps path depth depth ∧ taken.length ≤ count := by
  have first : (steps path depth depth).take count = steps path depth count := by
    rw [steps, steps, ← List.map_take, List.take_range, Nat.min_eq_left inside]
  rw [← first, List.prefix_take_iff]

/-- The correction words below a node have no influence on it. -/
theorem descend_take (seed : Block) (words : List Block) {taken : List Bool} {count : Nat}
    (short : taken.length ≤ count) :
    descend hash seed (words.take count) taken = descend hash seed words taken := by
  induction taken generalizing seed words count with
  | nil => rw [descend_nil, descend_nil]
  | cons right taken below =>
      cases count with
      | zero => exact absurd short (Nat.not_succ_le_zero _)
      | succ count =>
          cases words with
          | nil => rfl
          | cons word words =>
              exact below (derive seed (hash seed) word right) words (Nat.le_of_succ_le_succ short)

/-- A level of the expansion lists the nodes of all sequences of steps of one length. -/
theorem expandLevels_take (root : Block) {words : List Block} {count : Nat}
    (inside : count ≤ words.length) :
    expandLevels hash root (words.take count) =
      (List.range (2 ^ count)).map fun index =>
        descend hash root words (steps index count count) := by
  have length : (words.take count).length = count := by
    rw [List.length_take, Nat.min_eq_left inside]
  apply List.ext_getElem?
  intro index
  rcases Nat.lt_or_ge index (2 ^ count) with present | absent
  · have short : (steps index count count).length ≤ count :=
      Nat.le_of_eq (length_steps index count count)
    rw [getElem?_expandLevels root count _ length index present, descend_take root words short,
      List.getElem?_map, List.getElem?_range present]
    rfl
  · rw [List.getElem?_eq_none, List.getElem?_eq_none]
    · rw [List.length_map, List.length_range]
      exact absent
    · rw [length_expandLevels, length]
      exact absent

/-! ## Leaves -/

/-- The last byte of a normalised seed is its control bit. -/
theorem byte_normalize_le (seed : Block) : seed.normalize.byte 15 ≤ 1 := by
  have bits : (seed.normalize.byte 15).toBitVec = Block.controlByte seed.control := by
    apply BitVec.eq_of_getLsbD_eq
    intro place small
    rw [Block.getLsbD_byte _ _ _ small, Block.getLsbD_normalize]
    rcases Nat.eq_zero_or_pos place with rfl | above
    · rw [getLsbD_controlByte]
      exact Bool.true_and _
    · have past : ¬ 8 * 15 + place ≤ 120 := by omega
      have upper (bit : Bool) : (Block.controlByte bit).getLsbD place = false := by
        cases bit <;> simp [Block.controlByte, Nat.ne_of_gt above]
      rw [decide_eq_false past, upper, Bool.false_and]
  rw [UInt8.le_iff_toBitVec_le, bits]
  cases seed.control <;> decide

theorem byte_leafAt_le (hash : Block → Block) (root : Block) (levels : List Block)
    (last : Option LastLevelWord) (path : Nat) : (leafAt hash root levels last path).byte 15 ≤ 1 := by
  cases last with
  | none => exact byte_normalize_le root
  | some word => exact byte_normalize_le _

/-! ## The whole tree -/

/-- The invariant of two trees that were dealt along a path with an offset between their roots. -/
structure Dealt.Invariant (hash : Block → Block) (offset : Block) (path depth : Nat) (dealt : Dealt) :
    Prop where
  roots_sum : dealt.roots.first ^^^ dealt.roots.second = offset
  offset_control : offset.control = true
  /-- The levels of either party's expansion list the nodes that all steps lead to. -/
  levels_eq : ∀ root count, count ≤ depth - 1 →
    expandLevels hash root (dealt.levels.take count) =
      (List.range (2 ^ count)).map fun index =>
        descend hash root dealt.levels (steps index count count)
  on_path : ∀ taken : List Bool, taken.length ≤ depth - 1 → taken <+: steps path depth depth →
    descend hash dealt.roots.first dealt.levels taken ^^^
      descend hash dealt.roots.second dealt.levels taken = offset
  off_path : ∀ taken : List Bool, taken.length ≤ depth - 1 → ¬ taken <+: steps path depth depth →
    descend hash dealt.roots.first dealt.levels taken =
      descend hash dealt.roots.second dealt.levels taken
  leaves_length : ∀ root, (expand hash root dealt.levels dealt.last).length = 2 ^ depth
  /-- Nothing but the control bit is left in the last byte of a leaf. -/
  leaves_normal : ∀ root, ∀ leaf ∈ expand hash root dealt.levels dealt.last, leaf.byte 15 ≤ 1
  leaves_off_path : ∀ index, index < 2 ^ depth → index ≠ path →
    (expand hash dealt.roots.first dealt.levels dealt.last)[index]? =
      (expand hash dealt.roots.second dealt.levels dealt.last)[index]?
  first_leaf : (expand hash dealt.roots.first dealt.levels dealt.last)[path]? = some dealt.leaves.first
  second_leaf : (expand hash dealt.roots.second dealt.levels dealt.last)[path]? =
    some dealt.leaves.second
  leaves_control : dealt.leaves.first.control ≠ dealt.leaves.second.control

theorem Dealt.DiffersAlong.invariant {offset : Block} (set : offset.control = true) {path depth : Nat}
    (inside : path < 2 ^ depth) {dealt : Dealt} (differs : dealt.DiffersAlong hash offset path depth) :
    dealt.Invariant hash offset path depth := by
  have shaped := differs.shaped
  have onPath {taken : List Bool} (short : taken.length ≤ depth - 1) :
      taken.isPrefixOf (steps path depth (depth - 1)) = true ↔ taken <+: steps path depth depth := by
    rw [List.isPrefixOf_iff_prefix, prefix_steps_iff (Nat.sub_le depth 1)]
    exact and_iff_left short
  constructor
  case roots_sum => exact differs.roots_sum
  case offset_control => exact set
  case levels_eq =>
    intro root count above
    exact expandLevels_take root (shaped.length_eq.symm ▸ above)
  case on_path =>
    intro taken short along
    rw [differs.seeds_sum taken short, (onPath short).mpr along]
    rfl
  case off_path =>
    intro taken short away
    have none := Bool.eq_false_iff.mpr (mt (onPath short).mp away)
    apply BitVec.xor_eq_zero_iff.mp
    rw [differs.seeds_sum taken short, none]
    rfl
  case leaves_length =>
    intro root
    exact length_expand shaped
  case leaves_normal =>
    intro root found member
    rw [expand_eq_map shaped] at member
    rcases List.mem_map.mp member with ⟨index, _, rfl⟩
    exact byte_leafAt_le hash root dealt.levels dealt.last index
  case leaves_off_path =>
    intro index present other
    rw [getElem?_expand shaped present, getElem?_expand shaped present,
      differs.leaves_agree index present other]
  case first_leaf => rw [getElem?_expand shaped inside, differs.leafAt_first]
  case second_leaf => rw [getElem?_expand shaped inside, differs.leafAt_second]
  case leaves_control => exact bne_iff_ne.mp differs.controls_differ

/-- **The invariant of the trees.**  For every path of at most 32 bits dealing succeeds, and what is dealt
keeps the invariant, with the offset that was drawn from the tape.  The hash may be any function. -/
theorem deal_keeps_invariant (hash : Block → Block) {path depth : Nat} (narrow : depth ≤ 32)
    (inside : path < 2 ^ depth) (tape : Tape) :
    ∃ dealt rest, deal hash path depth tape = .ok (dealt, rest) ∧
      dealt.Invariant hash tape.drawOffset.1 path depth :=
  ⟨_, _, deal_eq_ok hash path narrow tape,
    (Dealt.fromTape_differsAlong hash tape inside).invariant (control_drawOffset tape) inside⟩

/-- A tree of the greatest depth and a path near its right edge. -/
theorem deal_keeps_invariant_at_greatest_depth :
    32 ≤ 32 ∧ 4294967290 < 2 ^ 32 ∧
      ∃ dealt rest,
        deal (HashContext.hash ⟨0x2b7e, 0x1516⟩) 4294967290 32 (Tape.repeating #[3, 141, 59]) =
            .ok (dealt, rest) ∧
          dealt.Invariant (HashContext.hash ⟨0x2b7e, 0x1516⟩)
            (Tape.repeating #[3, 141, 59]).drawOffset.1 4294967290 32 :=
  ⟨Nat.le_refl 32, by decide,
    deal_keeps_invariant (HashContext.hash ⟨0x2b7e, 0x1516⟩) (Nat.le_refl 32) (by decide)
      (Tape.repeating #[3, 141, 59])⟩

end HalfTree
end PrivateRetrieval
