import PrivateRetrieval.Proofs.PointFunction.Bit
import PrivateRetrieval.Proofs.PointFunction.Field

namespace PrivateRetrieval
namespace PointFunction

open HalfTree

/-!
# One point and all points

A key can be evaluated at one point, by a walk down the tree, or at all points at once, by an expansion
level after level.  The two run different code, but they give the same values: the walk to a leaf and
the place of that leaf in the expansion are both described by the steps of its path.

This is a property of the evaluations alone.  It holds of every key whose correction words fit its
domain, whatever they are and wherever the key comes from, and for all public keys.
-/

variable {context : HashContext} {logn : Nat}

/-- The bits of a full expansion are the values at single points, with nothing after the last point. -/
theorem BitKey.eval_eq_bit_evalAll {key : BitKey} (narrow : logn ≤ maxLogn) (made : key.logn = logn)
    (shaped : Shaped (bitDepth logn) key.levels key.last) :
    ∃ packed, evalAll context key logn = .ok packed ∧ packed.size = Size.ceilDiv (2 ^ logn) 8 ∧
      (∀ point, point < 2 ^ logn → eval context key point = .ok (packed.bit point)) ∧
      ∀ position, 2 ^ logn ≤ position → packed.bit position = false := by
  have small : logn < 64 := Nat.lt_of_le_of_lt narrow (by decide)
  rcases @evalAll_eq_ok context key logn made small shaped with ⟨packed, expanded, size, bits⟩
  subst made
  refine ⟨packed, expanded, size, ?_, ?_⟩
  · intro point inside
    rw [eval_eq_ok narrow shaped inside, bits, decide_eq_true inside, Bool.true_and]
  · intro position beyond
    rw [bits, decide_eq_false (Nat.not_lt_of_ge beyond), Bool.false_and]

/-- The entries of a full expansion are the values at single points. -/
theorem FieldKey.eval_eq_getElem_evalAll {key : FieldKey} (narrow : logn ≤ maxLogn)
    (made : key.logn = logn) (shaped : Shaped logn key.levels key.last) :
    ∃ values, evalAll context key logn = .ok values ∧ values.length = 2 ^ logn ∧
      ∀ point (inside : point < values.length), eval context key point = .ok values[point] := by
  have small : logn < 64 := Nat.lt_of_le_of_lt narrow (by decide)
  have count : ((List.range (2 ^ logn)).map (value context key)).length = 2 ^ logn := by
    rw [List.length_map, List.length_range]
  refine ⟨_, evalAll_eq_ok made small shaped, count, ?_⟩
  subst made
  intro point inside
  rw [count] at inside
  rw [eval_eq_ok narrow shaped inside, List.getElem_map, List.getElem_range]

/-- **One point and all points.**  Take any key for a domain of at most `2 ^ 32` points whose correction
words fit its tree.  The full expansion of a key of one bit has a bit for each point and sets no other;
the full expansion of a key in the field has an element for each point.  The evaluation at any point of
the domain succeeds, and its value is that bit or that element. -/
theorem eval_agrees_with_evalAll (context : HashContext) {logn : Nat} (narrow : logn ≤ maxLogn) :
    (∀ key : BitKey, key.logn = logn → Shaped (bitDepth logn) key.levels key.last →
      ∃ packed, BitKey.evalAll context key logn = .ok packed ∧
        packed.size = Size.ceilDiv (2 ^ logn) 8 ∧
        (∀ point, point < 2 ^ logn → BitKey.eval context key point = .ok (packed.bit point)) ∧
        ∀ position, 2 ^ logn ≤ position → packed.bit position = false) ∧
      ∀ key : FieldKey, key.logn = logn → Shaped logn key.levels key.last →
        ∃ values, FieldKey.evalAll context key logn = .ok values ∧ values.length = 2 ^ logn ∧
          ∀ point (inside : point < values.length),
            FieldKey.eval context key point = .ok values[point] := by
  constructor
  · intro key made shaped
    exact BitKey.eval_eq_bit_evalAll narrow made shaped
  · intro key made shaped
    exact FieldKey.eval_eq_getElem_evalAll narrow made shaped

/-- A key of one bit for four points, whose tree is its root.  Nobody generated it. -/
def rootKey : BitKey where
  party := .first
  logn := 2
  seed := BitVec.allOnes 128
  levels := []
  last := none
  leaf := 0x16180339

/-- A key in the field for four points, whose tree has two levels.  Nobody generated it. -/
def twoLevelKey : FieldKey where
  party := .second
  logn := 2
  seed := BitVec.allOnes 128
  levels := [0x31415926]
  last := some ⟨0x577, 0xfe, 0x7f⟩
  leaf := ⟨0x16180339⟩

/-- The four points share one byte, of which the upper four bits stay zero. -/
theorem eval_agrees_with_evalAll_on_four_points :
    ∃ packed values,
      BitKey.evalAll ⟨0x2b7e, 0x1516⟩ rootKey 2 = .ok packed ∧ packed.size = 1 ∧
        (∀ point, point < 4 →
          BitKey.eval ⟨0x2b7e, 0x1516⟩ rootKey point = .ok (packed.bit point)) ∧
        packed.bit 4 = false ∧ packed.bit 7 = false ∧
        FieldKey.evalAll ⟨0x2b7e, 0x1516⟩ twoLevelKey 2 = .ok values ∧ values.length = 4 ∧
        ∀ point (inside : point < values.length),
          FieldKey.eval ⟨0x2b7e, 0x1516⟩ twoLevelKey point = .ok values[point] := by
  have agreement := @eval_agrees_with_evalAll ⟨0x2b7e, 0x1516⟩ 2 (by decide)
  rcases agreement.1 rootKey rfl ⟨rfl, rfl⟩ with ⟨packed, expanded, size, bits, padding⟩
  rcases agreement.2 twoLevelKey rfl ⟨rfl, rfl⟩ with ⟨values, listed, length, entries⟩
  exact ⟨packed, values, expanded, size, bits, padding 4 (by decide), padding 7 (by decide), listed,
    length, entries⟩

end PointFunction
end PrivateRetrieval
