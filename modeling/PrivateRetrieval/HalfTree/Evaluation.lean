import PrivateRetrieval.HalfTree.Seeds

namespace PrivateRetrieval
namespace HalfTree

/-!
# Evaluating one party's tree

One party knows its root and the correction words.  It can walk down to one leaf, reading the path
bit by bit, or expand level after level into all leaves in the order of their paths.  The walk hashes
once for each level; the expansion hashes every inner node once and uses the result for both
children.

A tree without a last-level word has no levels: its root is its only leaf.
-/

/-- Check that the correction words fit a tree of a given depth. -/
def requireShape (depth : Nat) (levels : List Block) (last : Option LastLevelWord) :
    Outcome Unit := do
  require (levels.length = depth - 1) (.fault (.levelCount levels.length depth))
  require (last.isSome = decide (0 < depth)) (.fault (.lastLevelPresence depth))

/-! ## One leaf -/

/-- Walk down the inner levels, starting at level `level` of a path of `depth` bits. -/
def walkLevels (hash : Block → Block) (path depth : Nat) :
    (level : Nat) → List Block → Block → Outcome Block
  | _, [], seed => .ok seed
  | level, word :: words, seed => do
      let right ← pathBit path level depth
      walkLevels hash path depth (level + 1) words (derive seed (hash seed) word right)

/-- The leaf at the end of a path of `depth` bits. -/
def walk (hash : Block → Block) (root : Block) (levels : List Block) (last : Option LastLevelWord)
    (path depth : Nat) : Outcome Block :=
  match last with
  | none => .ok root.normalize
  | some word => do
      let seed ← walkLevels hash path depth 0 levels root
      let right ← pathBit path (depth - 1) depth
      return deriveLeaf seed (hash (lastInput seed right)) word right

/-! ## All leaves -/

/-- Both children of an inner node, from one hash. -/
def children (hash : Block → Block) (word seed : Block) : List Block :=
  let hashed := hash seed
  [derive seed hashed word false, derive seed hashed word true]

/-- Both leaves below a node. -/
def leavesBelow (hash : Block → Block) (word : LastLevelWord) (seed : Block) : List Block :=
  [deriveLeaf seed (hash (lastInput seed false)) word false,
    deriveLeaf seed (hash (lastInput seed true)) word true]

/-- The nodes of the level below the inner levels, in path order. -/
def expandLevels (hash : Block → Block) (root : Block) (levels : List Block) : List Block :=
  levels.foldl (fun seeds word => seeds.flatMap (children hash word)) [root]

/-- All leaves in path order. -/
def expand (hash : Block → Block) (root : Block) (levels : List Block)
    (last : Option LastLevelWord) : List Block :=
  match last with
  | none => [root.normalize]
  | some word => (expandLevels hash root levels).flatMap (leavesBelow hash word)

end HalfTree
end PrivateRetrieval
