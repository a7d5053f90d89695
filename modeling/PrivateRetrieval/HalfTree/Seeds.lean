import PrivateRetrieval.Block.Seed

namespace PrivateRetrieval
namespace HalfTree

/-!
# Seeds and correction words of the tree

Two parties hold trees of the same depth that differ along one secret path only.  A node carries a
seed, and a seed has a control bit.  Below an inner node the children are derived by hashing: the
right child is the left child plus the seed itself, and a node whose control bit is set adds the
correction word of its level to both children.

The last level is different.  Its two hash inputs are the body of the seed with the control bit or
its complement, and its correction word has one body for both children and a last byte for each, so
that the control bits of the leaves say nothing about the offset between the parties.

The hash is any function on blocks.
-/

/-- One value for each of the two parties. -/
structure Shares (α : Type) where
  /-- The value of the first party. -/
  first : α
  /-- The value of the second party. -/
  second : α
  deriving DecidableEq

/-- Apply a function to both values. -/
def Shares.map {α β : Type} (f : α → β) (shares : Shares α) : Shares β :=
  ⟨f shares.first, f shares.second⟩

/-- The sum of two blocks held by the parties. -/
def Shares.sum (shares : Shares Block) : Block :=
  shares.first ^^^ shares.second

/-- The correction word of the last level. -/
structure LastLevelWord where
  /-- The first fifteen bytes, for both children. -/
  body : BitVec 120
  /-- The last byte for the left child. -/
  leftByte : BitVec 8
  /-- The last byte for the right child. -/
  rightByte : BitVec 8
  deriving DecidableEq

/-- The correction word for the child in one direction, `true` being right. -/
def LastLevelWord.toward (word : LastLevelWord) (right : Bool) : Block :=
  (if right then word.rightByte else word.leftByte) ++ word.body

/-- Bit `position` of a number of `size` bits, counted from the most significant.  Numbers have 32
bits, so a bit further up cannot be reached. -/
def pathBit (number position size : Nat) : Outcome Bool :=
  if position < size then
    if size - 1 - position < 32 then .ok (number.testBit (size - 1 - position))
    else .error (.fault .shiftTooFar)
  else .error (.fault .bitOutOfRange)

/-- A child at an inner level, from the seed of its parent and the hash of that seed. -/
def derive (seed hashed word : Block) (right : Bool) : Block :=
  hashed ^^^ Block.onlyIf right seed ^^^ Block.onlyIf seed.control word

/-- The hash input for one child of a node above the last level. -/
def lastInput (seed : Block) (right : Bool) : Block :=
  seed.withControl (seed.control ^^ right)

/-- A leaf, from the seed of its parent and the hash of its input. -/
def deriveLeaf (seed hashed : Block) (word : LastLevelWord) (right : Bool) : Block :=
  (hashed ^^^ Block.onlyIf seed.control (word.toward right)).normalize

end HalfTree
end PrivateRetrieval
