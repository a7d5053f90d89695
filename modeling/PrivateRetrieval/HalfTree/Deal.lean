import PrivateRetrieval.HalfTree.Seeds
import PrivateRetrieval.Tape

namespace PrivateRetrieval
namespace HalfTree

/-!
# Dealing the two trees

The dealer draws an offset with a set control bit and shares it between the two roots.  It then
follows the secret path from the root, keeping the seeds of both parties.  At every level it chooses
the correction word so that the children off the path become equal, while those on the path keep the
offset between them; the last-level word does the same with control bits alone.

Every depth up to 32 is allowed, and a deeper tree is refused before anything is drawn.  At depth zero
the roots are the leaves and there are no correction words.
-/

/-- What the dealer derives for one path. -/
structure Dealt where
  /-- The roots of both parties. -/
  roots : Shares Block
  /-- The correction words of the inner levels, from the top. -/
  levels : List Block
  /-- The correction word of the last level, absent at depth zero. -/
  last : Option LastLevelWord
  /-- The leaves of both parties at the end of the path, normalised. -/
  leaves : Shares Block

/-- The correction word that removes the offset from the child off the path. -/
def levelWord (offset : Block) (hashed : Shares Block) (right : Bool) : Block :=
  hashed.sum ^^^ Block.onlyIf (!right) offset

/-- Follow `count` inner levels, starting at level `level` of a path of `depth` bits.  The answer has
the correction words and the seeds below them. -/
def dealLevels (hash : Block → Block) (offset : Block) (path depth : Nat) :
    (count level : Nat) → Shares Block → Outcome (List Block × Shares Block)
  | 0, _, seeds => .ok ([], seeds)
  | count + 1, level, seeds => do
      let right ← pathBit path level depth
      let hashed := seeds.map hash
      let word := levelWord offset hashed right
      let below : Shares Block :=
        ⟨derive seeds.first hashed.first word right, derive seeds.second hashed.second word right⟩
      let (words, final) ← dealLevels hash offset path depth count (level + 1) below
      return (word :: words, final)

/-- The correction word of the last level and both leaves on the path. -/
def dealLast (hash : Block → Block) (seeds : Shares Block) (right : Bool) :
    LastLevelWord × Shares Block :=
  let hashed (direction : Bool) : Shares Block := seeds.map fun seed => hash (lastInput seed direction)
  let lowBit (direction : Bool) : Bool :=
    (hashed direction).first.control ^^ (hashed direction).second.control
  let word : LastLevelWord :=
    { body := (hashed (!right)).sum.body
      leftByte := Block.controlByte (lowBit false ^^ !right)
      rightByte := Block.controlByte (lowBit true ^^ right) }
  (word,
    ⟨deriveLeaf seeds.first (hashed right).first word right,
      deriveLeaf seeds.second (hashed right).second word right⟩)

/-- Deal both trees below given roots. -/
def dealFrom (hash : Block → Block) (offset : Block) (roots : Shares Block) (path depth : Nat) :
    Outcome Dealt :=
  if depth = 0 then
    .ok { roots, levels := [], last := none, leaves := roots.map Block.normalize }
  else do
    let (levels, seeds) ← dealLevels hash offset path depth (depth - 1) 0 roots
    let right ← pathBit path (depth - 1) depth
    let (word, leaves) := dealLast hash seeds right
    return { roots, levels, last := some word, leaves }

/-- Deal both trees for a path of `depth` bits, drawing the offset and the first root. -/
def deal (hash : Block → Block) (path depth : Nat) (tape : Tape) : Outcome (Dealt × Tape) := do
  require (depth ≤ 32) (.fault (.treeTooDeep depth))
  let (offset, tape) := tape.drawOffset
  let (roots, tape) := tape.drawShares offset
  let dealt ← dealFrom hash offset ⟨roots.1, roots.2⟩ path depth
  return (dealt, tape)

end HalfTree
end PrivateRetrieval
