import PrivateRetrieval.PointFunction.Field
import PrivateRetrieval.Proofs.Field.Addition
import PrivateRetrieval.Proofs.HalfTree.Offset

namespace PrivateRetrieval
namespace PointFunction

open HalfTree

/-!
# Two keys in the field make one value

Every point has a leaf of its own, so the value of a key at a point is the element of that leaf, with the
key's correction word added if the leaf's control bit is set.  The full expansion lists these values in
order, for any key whose correction words fit its domain.

For a generated pair the values at every point but the chosen one are equal and cancel.  At the chosen
point exactly one party adds the correction word, which is the chosen element plus the elements of both
leaves.
-/

namespace FieldKey

variable {context : HashContext}

/-- The value of a key at a point. -/
def value (context : HashContext) (key : FieldKey) (index : Nat) : Element :=
  leafValue context key (leafAt context.hash key.seed key.levels key.last index)

/-- The evaluation at one point succeeds for a key whose correction words fit its domain. -/
theorem eval_eq_ok {key : FieldKey} (narrow : key.logn ≤ maxLogn)
    (shaped : Shaped key.logn key.levels key.last) {index : Nat} (inside : index < 2 ^ key.logn) :
    eval context key index = .ok (value context key index) := by
  have inDomain := requireIndex_eq_ok_iff.mpr ⟨narrow, (Nat.one_shiftLeft _).symm ▸ inside⟩
  rw [eval, bind_of_eq_ok inDomain, bind_of_eq_ok (requireShape_eq_ok_iff.mpr shaped),
    bind_of_eq_ok (walk_eq_ok shaped narrow index)]
  rfl

/-- The full expansion of a key that fits its domain succeeds and lists the values of the key. -/
theorem evalAll_eq_ok {key : FieldKey} {logn : Nat} (made : key.logn = logn) (small : logn < 64)
    (shaped : Shaped logn key.levels key.last) :
    evalAll context key logn = .ok ((List.range (2 ^ logn)).map (value context key)) := by
  rw [evalAll, Key.requireLogn, bind_of_eq_ok (require_eq_ok_iff.mpr made),
    bind_of_eq_ok (requireShape_eq_ok_iff.mpr shaped), bind_of_eq_ok (Size.powerOfTwo_eq_ok small)]
  change Except.ok ((expand context.hash key.seed key.levels key.last).map _) = _
  rw [expand_eq_map shaped, List.map_map]
  rfl

/-! ## The two keys of a pair -/

/-- The element that corrects the leaves of a pair. -/
def leafWord (context : HashContext) (dealt : Dealt) (element : Element) : Element :=
  element + context.convert dealt.leaves.first + context.convert dealt.leaves.second

/-- Generation succeeds, with the keys of what is dealt from the tape and a tape 32 bytes further on. -/
theorem generate_eq_fromTape (context : HashContext) {index logn : Nat} (narrow : logn ≤ maxLogn)
    (inside : index < 2 ^ logn) (element : Element) (tape : Tape) :
    let dealt := Dealt.fromTape context.hash tape index logn
    generate context index element logn tape =
      .ok (keysOf logn dealt (leafWord context dealt element),
        { tape with position := tape.position + 32 }) := by
  intro dealt
  have inDomain := requireIndex_eq_ok_iff.mpr ⟨narrow, (Nat.one_shiftLeft _).symm ▸ inside⟩
  have dealing := deal_eq_ok context.hash index narrow tape
  have differs := Dealt.fromTape_differsAlong context.hash tape inside
  rw [generate, bind_of_eq_ok inDomain, bind_of_eq_ok dealing]
  exact bind_of_eq_ok (require_eq_ok_iff.mpr differs.controls_differ) _

theorem generate_eq_ok (context : HashContext) {index logn : Nat} (narrow : logn ≤ maxLogn)
    (inside : index < 2 ^ logn) (element : Element) (tape : Tape) :
    ∃ dealt rest,
      generate context index element logn tape =
          .ok (keysOf logn dealt (leafWord context dealt element), rest) ∧
        dealt.DiffersAlong context.hash tape.drawOffset.1 index logn :=
  ⟨_, _, generate_eq_fromTape context narrow inside element tape,
    Dealt.fromTape_differsAlong context.hash tape inside⟩

/-- In the two leaves on the path one party alone adds the correction word, whichever it is. -/
theorem leafValue_add_leafValue {offset : Block} {index logn : Nat} {dealt : Dealt}
    (differs : dealt.DiffersAlong context.hash offset index logn) (element : Element) :
    let keys := keysOf logn dealt (leafWord context dealt element)
    leafValue context keys.first dealt.leaves.first +
      leafValue context keys.second dealt.leaves.second = element := by
  intro keys
  have firstWord : keys.first.leaf = leafWord context dealt element := rfl
  have secondWord : keys.second.leaf = leafWord context dealt element := rfl
  have apart := differs.controls_differ
  rw [leafValue, leafValue, firstWord, secondWord, leafWord]
  generalize context.convert dealt.leaves.first = first
  generalize context.convert dealt.leaves.second = second
  have cancelled : first + second + (element + first + second) = element := by
    have grouped : first + second + (element + first + second) =
        first + second + (first + second + element) := by ac_rfl
    rw [grouped, Element.add_add_cancel]
  cases firstAdds : dealt.leaves.first.control with
  | true =>
      have secondKeeps : dealt.leaves.second.control = false := by
        rw [firstAdds] at apart
        simpa using apart
      rw [secondKeeps, if_pos rfl, if_neg (by decide), Element.add_zero]
      refine Eq.trans ?_ cancelled
      ac_rfl
  | false =>
      have secondAdds : dealt.leaves.second.control = true := by
        rw [firstAdds] at apart
        simpa using apart
      rw [secondAdds, if_pos rfl, if_neg (by decide), Element.add_zero]
      refine Eq.trans ?_ cancelled
      ac_rfl

/-- The values of a pair add up to the chosen element at the chosen point and cancel elsewhere. -/
theorem value_add_value {offset : Block} {index logn : Nat} {dealt : Dealt}
    (differs : dealt.DiffersAlong context.hash offset index logn) (element : Element)
    {point : Nat} (inside : point < 2 ^ logn) :
    let keys := keysOf logn dealt (leafWord context dealt element)
    value context keys.first point + value context keys.second point =
      if point = index then element else 0 := by
  intro keys
  change leafValue context keys.first (leafAt _ dealt.roots.first dealt.levels dealt.last _) +
    leafValue context keys.second (leafAt _ dealt.roots.second dealt.levels dealt.last _) = _
  by_cases same : point = index
  · rw [same, differs.leafAt_first, differs.leafAt_second, leafValue_add_leafValue differs,
      if_pos rfl]
  · rw [differs.leaves_agree point inside same, if_neg same]
    exact Element.add_self _

/-- **Two keys make one value.**  For every point of a domain of at most `2 ^ 32` points and every
element, generation succeeds, both full expansions succeed with one element for each point, and they
add up to the element at that point and to zero at every other. -/
theorem generate_evalAll_add (context : HashContext) (logn index : Nat) (narrow : logn ≤ maxLogn)
    (inside : index < 2 ^ logn) (element : Element) (tape : Tape) :
    ∃ keys rest first second,
      generate context index element logn tape = .ok (keys, rest) ∧
        evalAll context keys.first logn = .ok first ∧
        evalAll context keys.second logn = .ok second ∧
        first.length = 2 ^ logn ∧ second.length = 2 ^ logn ∧
        List.zipWith (· + ·) first second =
          (List.range (2 ^ logn)).map fun point => if point = index then element else 0 := by
  have small : logn < 64 := Nat.lt_of_le_of_lt narrow (by decide)
  rcases generate_eq_ok context narrow inside element tape with ⟨dealt, rest, generated, differs⟩
  let keys := keysOf logn dealt (leafWord context dealt element)
  have firstOk := @evalAll_eq_ok context keys.first logn rfl small differs.shaped
  have secondOk := @evalAll_eq_ok context keys.second logn rfl small differs.shaped
  refine ⟨keys, rest, _, _, generated, firstOk, secondOk, ?_, ?_, ?_⟩
  · rw [List.length_map, List.length_range]
  · rw [List.length_map, List.length_range]
  · rw [List.zipWith_map, List.zipWith_self]
    apply List.map_congr_left
    intro point member
    exact value_add_value differs element (List.mem_range.mp member)

/-- A domain of eight points, whose tree has three levels. -/
theorem generate_evalAll_add_of_eight_points :
    3 ≤ maxLogn ∧ 5 < 2 ^ 3 ∧
      ∃ keys rest first second,
        generate ⟨0x2b7e, 0x1516⟩ 5 ⟨0x53⟩ 3 (Tape.repeating #[3, 141, 59]) = .ok (keys, rest) ∧
          evalAll ⟨0x2b7e, 0x1516⟩ keys.first 3 = .ok first ∧
          evalAll ⟨0x2b7e, 0x1516⟩ keys.second 3 = .ok second ∧
          first.length = 2 ^ 3 ∧ second.length = 2 ^ 3 ∧
          List.zipWith (· + ·) first second =
            (List.range (2 ^ 3)).map fun point => if point = 5 then ⟨0x53⟩ else 0 :=
  ⟨by decide, by decide,
    generate_evalAll_add ⟨0x2b7e, 0x1516⟩ 3 5 (by decide) (by decide) ⟨0x53⟩
      (Tape.repeating #[3, 141, 59])⟩

end FieldKey
end PointFunction
end PrivateRetrieval
