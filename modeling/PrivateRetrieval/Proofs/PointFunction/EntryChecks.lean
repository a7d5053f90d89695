import PrivateRetrieval.Proofs.PointFunction.Bit
import PrivateRetrieval.Proofs.PointFunction.Field

namespace PrivateRetrieval
namespace PointFunction

open HalfTree

/-!
# The checks at entry are enough

Generation, the evaluation at one point and the full expansion all begin with checks: of the domain and
the point, of the exponent, of the number of correction words.  Further in there are more ways to fail.
A bit of a path may be asked for beyond its end or beyond 32 bits, a shift may be by the width of a
word, and the two control bits of a programmed leaf may agree.

None of these is ever met.  Each operation succeeds exactly on the inputs that the checks at entry are
meant to let pass, and if it fails, then with the failure of one of these checks.  Keys may have any
exponent and any correction words here, not only those that generation gives them.
-/

/-- An operation succeeds on the documented inputs and on no others, and its only failures are those of
its checks at entry. -/
structure FailsOnlyAtEntry {α : Type} (documented : Prop) (checks : Outcome Unit)
    (outcome : Outcome α) : Prop where
  succeeds_iff : (∃ result, outcome = .ok result) ↔ documented
  fails_iff : ∀ failure, outcome = .error failure ↔ checks = .error failure

namespace FailsOnlyAtEntry

variable {α : Type} {documented : Prop} {outcome next : Outcome α}

/-- For an operation that begins with its checks it is enough that they let pass the documented inputs
only, and that it succeeds on these. -/
theorem of_check {check : Outcome Unit} (begins : outcome = do check; next)
    (passes_iff : check = .ok () ↔ documented)
    (succeeds : documented → ∃ result, outcome = .ok result) :
    FailsOnlyAtEntry documented check outcome := by
  cases verdict : check with
  | ok =>
      have allowed := passes_iff.mp verdict
      rcases succeeds allowed with ⟨result, done⟩
      subst done
      exact
        { succeeds_iff := iff_of_true ⟨result, rfl⟩ allowed
          fails_iff := fun _ => iff_of_false nofun nofun }
  | error cause =>
      have stopped : outcome = .error cause := begins.trans (bind_of_eq_error verdict _)
      subst stopped
      have refused : ¬ documented := fun allowed =>
        nomatch verdict.symm.trans (passes_iff.mpr allowed)
      exact
        { succeeds_iff := iff_of_false (fun ⟨_, other⟩ => nomatch other) refused
          fails_iff := fun _ => by rw [Except.error.injEq, Except.error.injEq] }

/-- The same for two checks, the second of which is made if the first lets pass. -/
theorem of_two_checks {first second : Outcome Unit}
    (begins : outcome = do first; second; next)
    (passes_iff : first = .ok () ∧ second = .ok () ↔ documented)
    (succeeds : documented → ∃ result, outcome = .ok result) :
    FailsOnlyAtEntry documented (do first; second) outcome := by
  have grouped : outcome = (do first; second) >>= fun _ => next := by rw [begins, bind_assoc]
  refine of_check grouped ?_ succeeds
  rw [check_bind_eq_ok_iff, passes_iff]

end FailsOnlyAtEntry

/-- After the check of the exponent it does not matter which of the two is read. -/
theorem Key.requireLogn_bind {Leaf α : Type} (key : Key Leaf) (logn : Nat)
    (next : Nat → Outcome α) :
    (do key.requireLogn logn; next logn) = (do key.requireLogn logn; next key.logn) := by
  by_cases made : key.logn = logn
  · rw [made]
  · have refused : key.requireLogn logn = .error (.fault (.exponentMismatch key.logn logn)) :=
      require_eq_error made
    rw [bind_of_eq_error refused, bind_of_eq_error refused]

/-! ## Generation -/

/-- Both keys of a pair have the correction words of a tree of a given depth. -/
structure ShapedPair {Leaf : Type} (depth : Nat) (keys : Shares (Key Leaf)) : Prop where
  first : Shaped depth keys.first.levels keys.first.last
  second : Shaped depth keys.second.levels keys.second.last

/-- Generation checks the point and makes its keys of what is dealt for a tree. -/
theorem failsOnlyAtEntry_of_keysOf {Leaf : Type} {depth index logn : Nat}
    {outcome next : Outcome (Shares (Key Leaf) × Tape)}
    (begins : outcome = do requireIndex index logn; next)
    (succeeds : logn ≤ maxLogn ∧ index < 2 ^ logn → ∃ dealt leaf rest,
      outcome = .ok (keysOf logn dealt leaf, rest) ∧ Shaped depth dealt.levels dealt.last) :
    FailsOnlyAtEntry (logn ≤ maxLogn ∧ index < 2 ^ logn) (requireIndex index logn) outcome ∧
      ∀ keys rest, outcome = .ok (keys, rest) → ShapedPair depth keys := by
  have atEntry : FailsOnlyAtEntry (logn ≤ maxLogn ∧ index < 2 ^ logn) (requireIndex index logn)
      outcome := by
    refine .of_check begins ?_ ?_
    · rw [requireIndex_eq_ok_iff, Nat.one_shiftLeft]
    · intro inDomain
      rcases succeeds inDomain with ⟨dealt, leaf, rest, generated, _⟩
      exact ⟨_, generated⟩
  refine ⟨atEntry, ?_⟩
  intro keys rest generated
  rcases succeeds (atEntry.succeeds_iff.mp ⟨_, generated⟩) with ⟨dealt, leaf, _, same, shaped⟩
  rw [generated] at same
  cases same
  exact ⟨shaped, shaped⟩

/-! ## The operations -/

/-- Each of the three operations on keys for trees of a given depth accepts its documented inputs: a
point of a domain of at most `2 ^ 32` points, a key whose correction words fit its domain, and for the
full expansion the exponent of the key. -/
structure AcceptsDocumentedInputs {Leaf Value All : Type} (depth : Nat → Nat)
    (generate : (index logn : Nat) → Tape → Outcome (Shares (Key Leaf) × Tape))
    (eval : Key Leaf → Nat → Outcome Value) (evalAll : Key Leaf → Nat → Outcome All) : Prop where
  generates : ∀ index logn tape,
    FailsOnlyAtEntry (logn ≤ maxLogn ∧ index < 2 ^ logn) (requireIndex index logn)
      (generate index logn tape)
  shaped : ∀ index logn tape keys rest, generate index logn tape = .ok (keys, rest) →
    ShapedPair (depth logn) keys
  evaluates : ∀ key index,
    FailsOnlyAtEntry
      (key.logn ≤ maxLogn ∧ index < 2 ^ key.logn ∧ Shaped (depth key.logn) key.levels key.last)
      (do requireIndex index key.logn; requireShape (depth key.logn) key.levels key.last)
      (eval key index)
  expands : ∀ key logn, logn ≤ maxLogn →
    FailsOnlyAtEntry (key.logn = logn ∧ Shaped (depth key.logn) key.levels key.last)
      (do key.requireLogn logn; requireShape (depth key.logn) key.levels key.last)
      (evalAll key logn)
  /-- The depth of the tree stays within what generation and the words of 32 bits allow. -/
  depth_le : ∀ logn, logn ≤ maxLogn → depth logn ≤ 32

/-! ## Keys with values of one bit -/

/-- The pieces of a buffer that the operations on keys of one bit reach without a check of their own. -/
structure BitKey.StaysInBounds (context : HashContext) (logn : Nat) : Prop where
  /-- The path to the leaf of a point has no more bits than the tree has levels. -/
  path_lt : ∀ index, index < 2 ^ logn → leafPath index < 2 ^ bitDepth logn
  /-- The bit of a point lies in one of the bytes of its leaf. -/
  byte_lt : ∀ index, leafPlace index / 8 < Block.byteCount
  /-- A full expansion has a first byte, where the bits beyond a small domain are cleared. -/
  expansion_pos : 0 < Size.ceilDiv (2 ^ logn) 8
  /-- The leaves have all the bytes of a full expansion. -/
  expansion_le : ∀ key : BitKey, Shaped (bitDepth logn) key.levels key.last →
    Size.ceilDiv (2 ^ logn) 8 ≤ (packedLeaves context key).size

theorem BitKey.staysInBounds (context : HashContext) (logn : Nat) :
    StaysInBounds context logn where
  path_lt _ inside := leafPath_lt inside
  byte_lt index := by
    have place : leafPlace index < 128 := Nat.mod_lt index (by decide)
    exact Nat.div_lt_of_lt_mul place
  expansion_pos := by
    have covered := Size.le_mul_ceilDiv (2 ^ logn)
    have positive := Nat.two_pow_pos logn
    omega
  expansion_le key shaped := by
    rw [size_packedLeaves shaped]
    exact ceilDiv_le_leafBytes logn

namespace BitKey

theorem generate_failsOnlyAtEntry (context : HashContext) (index logn : Nat) (tape : Tape) :
    FailsOnlyAtEntry (logn ≤ maxLogn ∧ index < 2 ^ logn) (requireIndex index logn)
        (generate context index logn tape) ∧
      ∀ keys rest, generate context index logn tape = .ok (keys, rest) →
        ShapedPair (bitDepth logn) keys := by
  refine failsOnlyAtEntry_of_keysOf rfl ?_
  rintro ⟨narrow, inside⟩
  rcases generate_eq_ok context narrow inside tape with ⟨dealt, rest, generated, differs⟩
  exact ⟨dealt, _, rest, generated, differs.shaped⟩

theorem acceptsDocumentedInputs (context : HashContext) :
    AcceptsDocumentedInputs bitDepth (generate context) (eval context) (evalAll context) where
  generates index logn tape := (generate_failsOnlyAtEntry context index logn tape).1
  shaped index logn tape := (generate_failsOnlyAtEntry context index logn tape).2
  evaluates key index := by
    refine .of_two_checks rfl ?_ ?_
    · rw [requireIndex_eq_ok_iff, Nat.one_shiftLeft, requireShape_eq_ok_iff, and_assoc]
    · rintro ⟨narrow, inside, shaped⟩
      exact ⟨_, eval_eq_ok narrow shaped inside⟩
  expands key logn narrow := by
    refine .of_two_checks rfl ?_ ?_
    · rw [Key.requireLogn, require_eq_ok_iff, requireShape_eq_ok_iff]
    · rintro ⟨made, shaped⟩
      have small : logn < 64 := Nat.lt_of_le_of_lt narrow (by decide)
      rcases @evalAll_eq_ok context key logn made small (made ▸ shaped) with ⟨packed, expanded, -⟩
      exact ⟨packed, expanded⟩
  depth_le logn narrow := Nat.le_trans (Nat.sub_le logn leafLevels) narrow

end BitKey

/-! ## Keys with values in the field -/

namespace FieldKey

theorem generate_failsOnlyAtEntry (context : HashContext) (value : Element) (index logn : Nat)
    (tape : Tape) :
    FailsOnlyAtEntry (logn ≤ maxLogn ∧ index < 2 ^ logn) (requireIndex index logn)
        (generate context index value logn tape) ∧
      ∀ keys rest, generate context index value logn tape = .ok (keys, rest) →
        ShapedPair logn keys := by
  refine failsOnlyAtEntry_of_keysOf rfl ?_
  rintro ⟨narrow, inside⟩
  rcases generate_eq_ok context narrow inside value tape with ⟨dealt, rest, generated, differs⟩
  exact ⟨dealt, _, rest, generated, differs.shaped⟩

theorem acceptsDocumentedInputs (context : HashContext) (value : Element) :
    AcceptsDocumentedInputs id (fun index logn => generate context index value logn)
      (eval context) (evalAll context) where
  generates index logn tape := (generate_failsOnlyAtEntry context value index logn tape).1
  shaped index logn tape := (generate_failsOnlyAtEntry context value index logn tape).2
  evaluates key index := by
    refine .of_two_checks rfl ?_ ?_
    · rw [requireIndex_eq_ok_iff, Nat.one_shiftLeft, requireShape_eq_ok_iff, and_assoc, id_eq]
    · rintro ⟨narrow, inside, shaped⟩
      exact ⟨_, eval_eq_ok narrow shaped inside⟩
  expands key logn narrow := by
    -- The shape is checked against the exponent asked for, which is that of the key by then.
    refine .of_two_checks
      (key.requireLogn_bind logn fun exponent =>
        requireShape exponent key.levels key.last >>= fun _ => _) ?_ ?_
    · rw [Key.requireLogn, require_eq_ok_iff, requireShape_eq_ok_iff, id_eq]
    · rintro ⟨made, shaped⟩
      have small : logn < 64 := Nat.lt_of_le_of_lt narrow (by decide)
      exact ⟨_, evalAll_eq_ok made small (made ▸ shaped)⟩
  depth_le _ narrow := narrow

end FieldKey

/-! ## Both kinds of keys -/

/-- **The checks at entry are enough.**  For all public keys, all values, all points and exponents and
all tapes, generation succeeds exactly for a point of a domain of at most `2 ^ 32` points, and both keys
then have the correction words of their tree.  Evaluation at a point and, for an exponent of at most 32,
the full expansion succeed exactly for keys whose correction words fit their domain, at a point of that
domain and with its exponent.  Every failure is one of a check at entry: where these pass, no bit of a
path is out of reach, no shift too far, no piece of a buffer beyond its end, and the control bits of
the programmed leaves differ. -/
theorem accepts_exactly_documented_inputs (context : HashContext) :
    AcceptsDocumentedInputs bitDepth (BitKey.generate context) (BitKey.eval context)
        (BitKey.evalAll context) ∧
      (∀ value : Element,
        AcceptsDocumentedInputs id (fun index logn => FieldKey.generate context index value logn)
          (FieldKey.eval context) (FieldKey.evalAll context)) ∧
      ∀ logn, BitKey.StaysInBounds context logn :=
  ⟨BitKey.acceptsDocumentedInputs context, FieldKey.acceptsDocumentedInputs context,
    BitKey.staysInBounds context⟩

/-- A key of one bit for `2 ^ 32` points.  Nobody generated it. -/
def largestKey (last : Option LastLevelWord) : BitKey where
  party := .first
  logn := 32
  seed := BitVec.allOnes 128
  levels := List.replicate 24 0x31415926
  last := last
  leaf := 0x16180339

/-- The last point of the largest domain, whose path is read from bit 24 down, is accepted.  It lies
outside the domain half as large, there is no larger domain, and a key without a last-level word is not
evaluated. -/
theorem accepts_exactly_documented_inputs_up_to_largest_domain :
    (∃ result, BitKey.generate ⟨0x2b7e, 0x1516⟩ (2 ^ 32 - 1) 32 (Tape.repeating #[3, 141, 59]) =
        .ok result) ∧
      BitKey.generate ⟨0x2b7e, 0x1516⟩ (2 ^ 32 - 1) 31 (Tape.repeating #[3, 141, 59]) =
        .error (.fault (.indexOutsideDomain (2 ^ 32 - 1) 31)) ∧
      BitKey.generate ⟨0x2b7e, 0x1516⟩ 0 33 (Tape.repeating #[3, 141, 59]) =
        .error (.fault (.exponentTooLarge 33)) ∧
      (∃ bit, BitKey.eval ⟨0x2b7e, 0x1516⟩ (largestKey (some ⟨0x577, 0xfe, 0x7f⟩)) (2 ^ 32 - 1) =
        .ok bit) ∧
      BitKey.eval ⟨0x2b7e, 0x1516⟩ (largestKey none) (2 ^ 32 - 1) =
        .error (.fault (.lastLevelPresence 25)) := by
  have accepted := (accepts_exactly_documented_inputs ⟨0x2b7e, 0x1516⟩).1
  refine ⟨?_, ?_, ?_, ?_, ?_⟩
  · exact (accepted.generates _ _ _).succeeds_iff.mpr ⟨by decide, by decide⟩
  · exact ((accepted.generates _ _ _).fails_iff _).mpr rfl
  · exact ((accepted.generates _ _ _).fails_iff _).mpr rfl
  · exact (accepted.evaluates _ _).succeeds_iff.mpr ⟨by decide, by decide, rfl, rfl⟩
  · exact ((accepted.evaluates _ _).fails_iff _).mpr rfl

end PointFunction
end PrivateRetrieval
