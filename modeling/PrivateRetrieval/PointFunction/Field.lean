import PrivateRetrieval.HalfTree.Evaluation
import PrivateRetrieval.PointFunction.Key

namespace PrivateRetrieval
namespace PointFunction

/-!
# Point functions with values in the field

Every point of the domain has a leaf of its own, which is converted into a field element.  The values
of the two keys add up to the chosen element at the chosen point and to zero elsewhere.
-/

/-- The key of a point function with values in the field. -/
abbrev FieldKey := Key Element

namespace FieldKey

/-- The value of a leaf: its element, corrected if its control bit is set. -/
def leafValue (context : HashContext) (key : FieldKey) (leaf : Block) : Element :=
  context.convert leaf + if leaf.control then key.leaf else 0

/-- The two keys of the function that is `value` at `index`. -/
def generate (context : HashContext) (index : Nat) (value : Element) (logn : Nat) (tape : Tape) :
    Outcome (HalfTree.Shares FieldKey × Tape) := do
  requireIndex index logn
  let (dealt, tape) ← HalfTree.deal context.hash index logn tape
  require ((dealt.leaves.first.control ^^ dealt.leaves.second.control) = true)
    (.fault .equalControlBits)
  let leaf := value + context.convert dealt.leaves.first + context.convert dealt.leaves.second
  return (keysOf logn dealt leaf, tape)

/-- The value of a key at one point. -/
def eval (context : HashContext) (key : FieldKey) (index : Nat) : Outcome Element := do
  requireIndex index key.logn
  HalfTree.requireShape key.logn key.levels key.last
  let leaf ← HalfTree.walk context.hash key.seed key.levels key.last index key.logn
  return leafValue context key leaf

/-- The values of a key at all points, in order. -/
def evalAll (context : HashContext) (key : FieldKey) (logn : Nat) : Outcome (List Element) := do
  key.requireLogn logn
  HalfTree.requireShape logn key.levels key.last
  let _ ← Size.powerOfTwo logn
  let leaves := HalfTree.expand context.hash key.seed key.levels key.last
  return leaves.map (leafValue context key)

end FieldKey
end PointFunction
end PrivateRetrieval
