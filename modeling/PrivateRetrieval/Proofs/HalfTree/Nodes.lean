import PrivateRetrieval.HalfTree.Descent

namespace PrivateRetrieval
namespace HalfTree

/-!
# The place of a node in its level

The expansion doubles whole levels and relies on the order in which children are appended; `descend`
reads one path from the top.  Here the two meet: node `i` of a level is the node that the bits of `i`
lead to, most significant first, and the leaves are those of the paths `0`, `1`, `2` and so on.  The walk
to a single leaf takes the same steps, one for each bit that it reads.

Nothing is assumed about the root, the correction words or the hash.
-/

variable {hash : Block → Block}

/-- One child of an inner node. -/
def child (hash : Block → Block) (word seed : Block) (right : Bool) : Block :=
  derive seed (hash seed) word right

/-- One leaf below a node above the last level. -/
def leafBelow (hash : Block → Block) (word : LastLevelWord) (seed : Block) (right : Bool) : Block :=
  deriveLeaf seed (hash (lastInput seed right)) word right

/-- The node above the last level that a path of `levels.length + 1` bits goes through. -/
def lastNode (hash : Block → Block) (root : Block) (levels : List Block) (path : Nat) : Block :=
  descend hash root levels (steps path (levels.length + 1) levels.length)

/-- The leaf at the end of a path. -/
def leafAt (hash : Block → Block) (root : Block) (levels : List Block)
    (last : Option LastLevelWord) (path : Nat) : Block :=
  match last with
  | none => root.normalize
  | some word => leafBelow hash word (lastNode hash root levels path) (path.testBit 0)

/-- The correction words fit a tree of a given depth. -/
structure Shaped (depth : Nat) (levels : List Block) (last : Option LastLevelWord) : Prop where
  length_eq : levels.length = depth - 1
  isSome_eq : last.isSome = decide (0 < depth)

theorem requireShape_eq_ok_iff {depth : Nat} {levels : List Block} {last : Option LastLevelWord} :
    requireShape depth levels last = .ok () ↔ Shaped depth levels last := by
  rw [requireShape, check_bind_eq_ok_iff, require_eq_ok_iff, require_eq_ok_iff]
  exact ⟨fun both => ⟨both.1, both.2⟩, fun shaped => ⟨shaped.length_eq, shaped.isSome_eq⟩⟩

/-! ## Steps of a path -/

theorem steps_succ (path depth count : Nat) :
    steps path depth (count + 1) = steps path depth count ++ [path.testBit (depth - 1 - count)] := by
  rw [steps, List.range_succ, List.map_append]
  rfl

/-- Dropping the last bit of a path keeps the steps before it. -/
theorem steps_div_two (path : Nat) {depth count : Nat} (inside : count ≤ depth) :
    steps (path / 2) depth count = steps path (depth + 1) count := by
  apply List.map_congr_left
  intro level member
  have below : level < depth := Nat.lt_of_lt_of_le (List.mem_range.mp member) inside
  have shifted : depth - 1 - level + 1 = depth + 1 - 1 - level := by omega
  rw [Nat.testBit_div_two, shifted]

/-- Paths of one depth that take the same steps are equal. -/
theorem eq_of_steps_eq {first second depth : Nat} (firstInside : first < 2 ^ depth)
    (secondInside : second < 2 ^ depth) (same : steps first depth depth = steps second depth depth) :
    first = second := by
  apply Nat.eq_of_testBit_eq
  intro place
  rcases Nat.lt_or_ge place depth with inside | outside
  · have member : depth - 1 - place ∈ List.range depth := List.mem_range.mpr (by omega)
    have bits := List.map_inj_left.mp same _ member
    have mirrored : depth - 1 - (depth - 1 - place) = place := by omega
    rw [mirrored] at bits
    exact bits
  · have large : 2 ^ depth ≤ 2 ^ place := Nat.pow_le_pow_right (by decide) outside
    rw [Nat.testBit_lt_two_pow (Nat.lt_of_lt_of_le firstInside large),
      Nat.testBit_lt_two_pow (Nat.lt_of_lt_of_le secondInside large)]

/-! ## Nodes of a level -/

/-- One more inner level continues every complete descent by one step. -/
theorem descend_append (seed : Block) (words : List Block) (word : Block) (path : List Bool)
    (right : Bool) (complete : path.length = words.length) :
    descend hash seed (words ++ [word]) (path ++ [right]) =
      child hash word (descend hash seed words path) right := by
  induction words generalizing seed path with
  | nil =>
      rw [List.length_eq_zero_iff.mp complete]
      rfl
  | cons head words continued =>
      cases path with
      | nil => cases complete
      | cons first path =>
          exact continued _ path (Nat.succ.inj complete)

/-- In a list of pairs, the element at `2 * i` or `2 * i + 1` comes from element `i`. -/
theorem getElem?_flatMap_pair {α β : Type} (pick : α → Bool → β) (list : List α) (index : Nat) :
    (list.flatMap fun entry => [pick entry false, pick entry true])[index]? =
      list[index / 2]?.map fun entry => pick entry (index.testBit 0) := by
  induction list generalizing index with
  | nil => simp
  | cons head tail rest =>
      match index with
      | 0 => rfl
      | 1 => rfl
      | index + 2 =>
          have quotient : (index + 2) / 2 = index / 2 + 1 := by omega
          have parity : (index + 2).testBit 0 = index.testBit 0 := by
            simp only [Nat.testBit_zero, Nat.add_mod_right]
          rw [quotient, parity, List.getElem?_cons_succ, ← rest index]
          rfl

theorem expandLevels_append (root : Block) (words : List Block) (word : Block) :
    expandLevels hash root (words ++ [word]) =
      (expandLevels hash root words).flatMap (children hash word) := by
  rw [expandLevels, List.foldl_append]
  rfl

/-- Node `i` of a level is the one that the bits of `i` lead to. -/
theorem getElem?_expandLevels (root : Block) (count : Nat) :
    ∀ (words : List Block), words.length = count → ∀ index, index < 2 ^ count →
      (expandLevels hash root words)[index]? =
        some (descend hash root words (steps index count count)) := by
  induction count with
  | zero =>
      intro words none index inside
      rw [List.length_eq_zero_iff.mp none, Nat.lt_one_iff.mp inside]
      rfl
  | succ count above =>
      intro words length index inside
      -- The level is built from its last correction word, so the words are taken apart at the end.
      obtain ⟨front, word, rfl⟩ : ∃ front word, words = front ++ [word] :=
        ⟨words.dropLast, words.getLast (List.ne_nil_of_length_eq_add_one length),
          (List.dropLast_concat_getLast _).symm⟩
      have frontLength : front.length = count := by
        simpa using length
      have half : index / 2 < 2 ^ count := by
        rw [Nat.pow_succ] at inside
        omega
      have lastBit : count + 1 - 1 - count = 0 := by omega
      rw [expandLevels_append, steps_succ, lastBit, ← steps_div_two index (Nat.le_refl count),
        descend_append root front word _ _ (by rw [length_steps, frontLength])]
      change ((expandLevels hash root front).flatMap
        fun seed => [child hash word seed false, child hash word seed true])[index]? = _
      rw [getElem?_flatMap_pair (fun seed right => child hash word seed right),
        above front frontLength _ half]
      rfl

/-! ## Leaves -/

/-- The leaves are those at the ends of all paths, in order. -/
theorem expand_eq_map {root : Block} {levels : List Block} {last : Option LastLevelWord}
    {depth : Nat} (shaped : Shaped depth levels last) :
    expand hash root levels last = (List.range (2 ^ depth)).map (leafAt hash root levels last) := by
  cases last with
  | none =>
      have shallow : depth = 0 := by
        have present := shaped.isSome_eq
        simpa using present
      subst shallow
      rfl
  | some word =>
      have deep : 0 < depth := of_decide_eq_true shaped.isSome_eq.symm
      have length : levels.length + 1 = depth := by
        have inner := shaped.length_eq
        omega
      apply List.ext_getElem?
      intro index
      change ((expandLevels hash root levels).flatMap
        fun seed => [leafBelow hash word seed false, leafBelow hash word seed true])[index]? = _
      rw [getElem?_flatMap_pair (fun seed right => leafBelow hash word seed right), ← length,
        Nat.pow_succ]
      rcases Nat.lt_or_ge index (2 ^ levels.length * 2) with inside | outside
      · have half : index / 2 < 2 ^ levels.length := Nat.div_lt_of_lt_mul (by omega)
        rw [getElem?_expandLevels root _ levels rfl _ half,
          steps_div_two index (Nat.le_refl levels.length), List.getElem?_map,
          List.getElem?_range inside]
        rfl
      · have half : 2 ^ levels.length ≤ index / 2 := by omega
        rw [List.getElem?_eq_none (by rw [length_expandLevels]; exact half), List.getElem?_eq_none]
        · rfl
        · rw [List.length_map, List.length_range]
          exact outside

section Leaves

variable {root : Block} {levels : List Block} {last : Option LastLevelWord} {depth : Nat}
  (shaped : Shaped depth levels last)

include shaped

theorem length_expand : (expand hash root levels last).length = 2 ^ depth := by
  rw [expand_eq_map shaped, List.length_map, List.length_range]

/-- The leaf at an index is the one at the end of the path of that number. -/
theorem getElem?_expand {index : Nat} (inside : index < 2 ^ depth) :
    (expand hash root levels last)[index]? = some (leafAt hash root levels last index) := by
  rw [expand_eq_map shaped, List.getElem?_map, List.getElem?_range inside]
  rfl

end Leaves

/-! ## One leaf -/

/-- The walk down the inner levels succeeds and takes the steps of its path. -/
theorem walkLevels_eq_ok (path : Nat) {depth : Nat} (narrow : depth ≤ 32) (words : List Block) :
    ∀ (level : Nat) (seed : Block), level + words.length ≤ depth →
      walkLevels hash path depth level words seed =
        .ok (descend hash seed words ((List.range' level words.length).map fun place =>
          path.testBit (depth - 1 - place))) := by
  induction words with
  | nil =>
      intro level seed _
      rfl
  | cons word words below =>
      intro level seed inside
      rw [List.length_cons] at inside
      have here : level < depth := by omega
      have rest := below (level + 1)
        (derive seed (hash seed) word (path.testBit (depth - 1 - level))) (by omega)
      rw [walkLevels, bind_of_eq_ok (pathBit_eq_ok here narrow)]
      exact rest

/-- The walk succeeds and ends at the leaf of its path. -/
theorem walk_eq_ok {root : Block} {levels : List Block} {last : Option LastLevelWord} {depth : Nat}
    (shaped : Shaped depth levels last) (narrow : depth ≤ 32) (path : Nat) :
    walk hash root levels last path depth = .ok (leafAt hash root levels last path) := by
  cases last with
  | none => rfl
  | some word =>
      obtain ⟨inner, rfl⟩ : ∃ inner, depth = inner + 1 :=
        Nat.exists_eq_add_one.mpr (of_decide_eq_true shaped.isSome_eq.symm)
      have length : levels.length = inner := shaped.length_eq
      have node := @walkLevels_eq_ok hash path (inner + 1) narrow levels 0 root (by omega)
      have lastBit := @pathBit_eq_ok path inner (inner + 1) (Nat.lt_add_one inner) narrow
      rw [← List.range_eq_range', length] at node
      rw [Nat.add_sub_cancel, Nat.sub_self] at lastBit
      rw [walk, Nat.add_sub_cancel, bind_of_eq_ok node, bind_of_eq_ok lastBit, leafAt, lastNode,
        length]
      rfl

end HalfTree
end PrivateRetrieval
