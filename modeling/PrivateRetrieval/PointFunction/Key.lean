import PrivateRetrieval.HalfTree.Deal
import PrivateRetrieval.Size

namespace PrivateRetrieval
namespace PointFunction

/-!
# Keys of a distributed point function

A point function is zero at all points of its domain but one.  Two keys split it: each gives a value
at every point, the two values add up to that of the function, and one key alone does not show the
point.  The domain has `2 ^ logn` points with `logn` at most 32.

The keys of both kinds of point function differ only in the word that corrects a leaf.
-/

/-- The two holders of keys. -/
inductive Party where
  | first
  | second
  deriving DecidableEq

/-- A key, with a word of type `Leaf` that corrects the leaves. -/
structure Key (Leaf : Type) where
  /-- Who holds the key. -/
  party : Party
  /-- The exponent of the domain size. -/
  logn : Nat
  /-- The root of the holder's tree. -/
  seed : Block
  /-- The correction words of the inner levels, from the top. -/
  levels : List Block
  /-- The correction word of the last level, absent if the root is a leaf. -/
  last : Option HalfTree.LastLevelWord
  /-- The correction word of the leaves. -/
  leaf : Leaf
  deriving DecidableEq

/-- The largest exponent of a domain size. -/
def maxLogn : Nat := 32

/-- Check that a point lies in the domain. -/
def requireIndex (index logn : Nat) : Outcome Unit := do
  require (logn ≤ maxLogn) (.fault (.exponentTooLarge logn))
  require (index < 1 <<< logn) (.fault (.indexOutsideDomain index logn))

theorem requireIndex_eq_ok_iff {index logn : Nat} :
    requireIndex index logn = .ok () ↔ logn ≤ maxLogn ∧ index < 1 <<< logn := by
  rw [requireIndex, check_bind_eq_ok_iff, require_eq_ok_iff, require_eq_ok_iff]

/-- Check that a key is expanded over the domain that it was made for. -/
def Key.requireLogn {Leaf : Type} (key : Key Leaf) (logn : Nat) : Outcome Unit :=
  require (key.logn = logn) (.fault (.exponentMismatch key.logn logn))

/-- The number of points of a key's domain, in a word of 64 bits. -/
def Key.domainSize {Leaf : Type} (key : Key Leaf) : Outcome Nat :=
  Size.powerOfTwo key.logn

/-- The keys of both parties for a dealt tree. -/
def keysOf {Leaf : Type} (logn : Nat) (dealt : HalfTree.Dealt) (leaf : Leaf) :
    HalfTree.Shares (Key Leaf) where
  first := ⟨.first, logn, dealt.roots.first, dealt.levels, dealt.last, leaf⟩
  second := ⟨.second, logn, dealt.roots.second, dealt.levels, dealt.last, leaf⟩

end PointFunction
end PrivateRetrieval
