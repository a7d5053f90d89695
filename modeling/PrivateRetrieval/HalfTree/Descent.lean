import Mathlib.Algebra.Group.Nat.Defs
import PrivateRetrieval.HalfTree.Evaluation

namespace PrivateRetrieval
namespace HalfTree

/-!
# Nodes by their path

The seed of the node that a sequence of steps leads to, said by recursion on the steps alone.  Neither
the dealer, who follows one path with two seeds, nor the expansion, which doubles whole levels, is
written in this way; both can be compared with it.
-/

/-- The seed of the node below a root that some steps lead to, `true` being right.  The steps beyond
the inner levels lead nowhere. -/
def descend (hash : Block → Block) : Block → List Block → List Bool → Block
  | seed, word :: words, right :: steps =>
      descend hash (derive seed (hash seed) word right) words steps
  | seed, _, _ => seed

/-- The first steps of a path of `depth` bits. -/
def steps (path depth count : Nat) : List Bool :=
  (List.range count).map fun level => path.testBit (depth - 1 - level)

@[simp]
theorem length_steps (path depth count : Nat) : (steps path depth count).length = count := by
  rw [steps, List.length_map, List.length_range]

theorem descend_nil (hash : Block → Block) (seed : Block) (words : List Block) :
    descend hash seed words [] = seed := by
  cases words <;> rfl

/-- A bit of a path is available as long as the path has no more than 32 bits. -/
theorem pathBit_eq_ok {path position depth : Nat} (inside : position < depth)
    (narrow : depth ≤ 32) : pathBit path position depth = .ok (path.testBit (depth - 1 - position)) := by
  have near : depth - 1 - position < 32 := by omega
  rw [pathBit, if_pos inside, if_pos near]

/-! ## The number of nodes -/

theorem length_foldl_flatMap_children (hash : Block → Block) (words seeds : List Block) :
    (words.foldl (fun nodes word => nodes.flatMap (children hash word)) seeds).length =
      seeds.length * 2 ^ words.length := by
  induction words generalizing seeds with
  | nil => simp
  | cons word words doubled =>
      have twice : (seeds.flatMap (children hash word)).length = seeds.length * 2 := by
        induction seeds with
        | nil => rfl
        | cons seed seeds counted =>
            rw [List.flatMap_cons, List.length_append, counted, List.length_cons]
            simp only [children, List.length_cons, List.length_nil]
            omega
      rw [List.foldl_cons, doubled, twice, List.length_cons, Nat.pow_succ, Nat.mul_assoc,
        Nat.mul_comm 2]

/-- The level below `n` inner levels has `2 ^ n` nodes. -/
theorem length_expandLevels (hash : Block → Block) (root : Block) (words : List Block) :
    (expandLevels hash root words).length = 2 ^ words.length := by
  rw [expandLevels, length_foldl_flatMap_children, List.length_singleton, Nat.one_mul]

end HalfTree
end PrivateRetrieval
