import PrivateRetrieval.HalfTree.Evaluation
import PrivateRetrieval.PointFunction.Key

namespace PrivateRetrieval
namespace PointFunction

/-!
# Point functions with values of one bit

A leaf has room for the values at 128 points, so the tree is seven levels shorter than the domain:
the path to the leaf of a point is the point divided by 128, and its bit in the leaf is the
remainder.  A domain of at most 128 points fits in the root.

The full expansion packs the values into bytes, eight to a byte from the lowest bit up.  A domain of
fewer than eight points leaves the rest of its only byte zero.
-/

/-- The key of a point function with values of one bit. -/
abbrev BitKey := Key Block

/-- The levels that are saved because a leaf holds 128 values. -/
def leafLevels : Nat := 7

/-- The depth of the tree for a domain of `2 ^ logn` points. -/
def bitDepth (logn : Nat) : Nat := logn - leafLevels

/-- The path to the leaf that holds the value at a point. -/
def leafPath (index : Nat) : Nat := index / Block.bitCount

/-- The place of a point in its leaf. -/
def leafPlace (index : Nat) : Nat := index % Block.bitCount

namespace BitKey

/-- The values of a leaf: its hash, corrected if its control bit is set. -/
def leafValues (context : HashContext) (key : BitKey) (leaf : Block) : Block :=
  context.hashLeaf leaf ^^^ Block.onlyIf leaf.control key.leaf

/-- The two keys of the function that is one at `index`. -/
def generate (context : HashContext) (index logn : Nat) (tape : Tape) :
    Outcome (HalfTree.Shares BitKey × Tape) := do
  requireIndex index logn
  let (dealt, tape) ← HalfTree.deal context.hash (leafPath index) (bitDepth logn) tape
  let leaf := (dealt.leaves.map context.hashLeaf).sum ^^^ BitVec.twoPow 128 (leafPlace index)
  return (keysOf logn dealt leaf, tape)

/-- The value of a key at one point. -/
def eval (context : HashContext) (key : BitKey) (index : Nat) : Outcome Bool := do
  requireIndex index key.logn
  let depth := bitDepth key.logn
  HalfTree.requireShape depth key.levels key.last
  let leaf ← HalfTree.walk context.hash key.seed key.levels key.last (leafPath index) depth
  return (leafValues context key leaf).getLsbD (leafPlace index)

/-- Clear the bits of a first byte that lie beyond a domain of fewer than eight points. -/
def maskSmallDomain (points : Nat) (packed : Bytes) : Bytes :=
  if points < 8 then packed.modify 0 (· &&& UInt8.ofNat ((1 <<< points) - 1)) else packed

/-- The values of a key at all points, packed into bytes. -/
def evalAll (context : HashContext) (key : BitKey) (logn : Nat) : Outcome Bytes := do
  key.requireLogn logn
  HalfTree.requireShape (bitDepth key.logn) key.levels key.last
  let points ← Size.powerOfTwo logn
  let leaves := HalfTree.expand context.hash key.seed key.levels key.last
  let packed := Block.concat (leaves.map (leafValues context key)).toArray
  return maskSmallDomain points (packed.extract 0 (Size.ceilDiv points 8))

end BitKey
end PointFunction
end PrivateRetrieval
