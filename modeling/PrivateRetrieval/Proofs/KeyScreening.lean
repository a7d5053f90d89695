import PrivateRetrieval.Proofs.PointwiseAnswer

namespace PrivateRetrieval

open HalfTree PointFunction

/-!
# Keys from outside

A server looks at a key before it expands it: at the exponent, and then at the number of correction
words.  The evaluation of keys and the folds have checks of their own further in, but those are promises
of the caller and not refusals.  What the server looks at is all that those checks need.  So a key that
is let through is answered, a key that is not let through is refused for a reason that names what is
wrong, and nothing else can happen.

A wrong exponent is named before wrong correction words.
-/

/-- What a server with given parameters makes of a key, where the depth of a tree is a function of the
exponent. -/
structure Screened {Leaf : Type} (params : Params) (depth : Nat → Nat) (key : Key Leaf)
    (outcome : Outcome Bytes) : Prop where
  mismatch_iff :
    outcome = .error (.retrieval (.domainMismatch key.logn params.logn)) ↔ key.logn ≠ params.logn
  malformed_iff :
    outcome = .error
        (.retrieval (.malformedKey params.logn key.levels.length (depth key.logn - 1))) ↔
      key.logn = params.logn ∧ ¬ Shaped (depth key.logn) key.levels key.last
  answered_iff :
    (∃ answer, outcome = .ok answer ∧ answer.size = params.rowLength) ↔
      key.Fits depth params.logn
  /-- There is no other outcome; in particular no precondition is broken further in. -/
  exhaustive :
    outcome = .error (.retrieval (.domainMismatch key.logn params.logn)) ∨
      outcome = .error
        (.retrieval (.malformedKey params.logn key.levels.length (depth key.logn - 1))) ∨
      ∃ answer, outcome = .ok answer ∧ answer.size = params.rowLength

namespace Screened

variable {Leaf : Type} {params : Params} {depth : Nat → Nat} {key : Key Leaf}
  {outcome : Outcome Bytes}

/-- It is enough to know the outcome in three cases, which exclude each other and leave no fourth. -/
theorem of_cases
    (mismatch : key.logn ≠ params.logn →
      outcome = .error (.retrieval (.domainMismatch key.logn params.logn)))
    (malformed : key.logn = params.logn → ¬ Shaped (depth key.logn) key.levels key.last →
      outcome = .error
        (.retrieval (.malformedKey params.logn key.levels.length (depth key.logn - 1))))
    (answered : key.Fits depth params.logn →
      ∃ answer, outcome = .ok answer ∧ answer.size = params.rowLength) :
    Screened params depth key outcome := by
  by_cases made : key.logn = params.logn
  · by_cases shaped : Shaped (depth key.logn) key.levels key.last
    · have fits : key.Fits depth params.logn := ⟨made, shaped⟩
      rcases answered fits with ⟨answer, rfl, size⟩
      exact
        { mismatch_iff := iff_of_false nofun fun other => other made
          malformed_iff := iff_of_false nofun fun both => both.2 shaped
          answered_iff := iff_of_true ⟨answer, rfl, size⟩ fits
          exhaustive := Or.inr (Or.inr ⟨answer, rfl, size⟩) }
    · have refused := malformed made shaped
      subst refused
      exact
        { mismatch_iff := iff_of_false nofun fun other => other made
          malformed_iff := iff_of_true rfl ⟨made, shaped⟩
          answered_iff :=
            iff_of_false (fun ⟨_, other, _⟩ => nomatch other) fun fits => shaped fits.shaped
          exhaustive := Or.inr (Or.inl rfl) }
  · have refused := mismatch made
    subst refused
    exact
      { mismatch_iff := iff_of_true rfl made
        malformed_iff := iff_of_false nofun fun both => made both.1
        answered_iff :=
          iff_of_false (fun ⟨_, other, _⟩ => nomatch other) fun fits => made fits.logn_eq
        exhaustive := Or.inl rfl }

/-- Two servers for one domain that make the same of every key that fits make the same of every key. -/
theorem outcome_eq {otherParams : Params} {other : Outcome Bytes}
    (screened : Screened params depth key outcome)
    (screenedToo : Screened otherParams depth key other) (sameLogn : params.logn = otherParams.logn)
    (alike : key.Fits depth params.logn → outcome = other) : outcome = other := by
  by_cases made : key.logn = params.logn
  · by_cases shaped : Shaped (depth key.logn) key.levels key.last
    · exact alike ⟨made, shaped⟩
    · rw [screened.malformed_iff.mpr ⟨made, shaped⟩,
        screenedToo.malformed_iff.mpr ⟨made.trans sameLogn, shaped⟩, sameLogn]
  · have apart : key.logn ≠ otherParams.logn := sameLogn ▸ made
    rw [screened.mismatch_iff.mpr made, screenedToo.mismatch_iff.mpr apart, sameLogn]

end Screened

namespace Server

variable {server : Server}

theorem requireDomain_eq_error {keyLogn : Nat} (other : keyLogn ≠ server.params.logn) :
    server.requireDomain keyLogn =
      .error (.retrieval (.domainMismatch keyLogn server.params.logn)) :=
  require_eq_error other

theorem requireLevels_eq_error {depth : Nat} {levels : List Block} {last : Option LastLevelWord}
    (misshapen : ¬ Shaped depth levels last) :
    server.requireLevels depth levels.length last.isSome =
      .error (.retrieval (.malformedKey server.params.logn levels.length (depth - 1))) :=
  require_eq_error fun passed => misshapen ⟨passed.1, passed.2⟩

/-- An answer that begins with the two checks is refused by them for every key that does not fit. -/
theorem screened_of_checks {Leaf : Type} {depth : Nat → Nat} {key : Key Leaf}
    {outcome next : Outcome Bytes}
    (checks : outcome = do
      server.requireDomain key.logn
      server.requireLevels (depth key.logn) key.levels.length key.last.isSome
      next)
    (answered : key.Fits depth server.params.logn →
      ∃ answer, outcome = .ok answer ∧ answer.size = server.params.rowLength) :
    Screened server.params depth key outcome := by
  apply Screened.of_cases
  · intro other
    rw [checks]
    exact bind_of_eq_error (requireDomain_eq_error other) _
  · intro made misshapen
    have passed : server.requireDomain key.logn = .ok () := require_eq_ok_iff.mpr made
    rw [checks, bind_of_eq_ok passed]
    exact bind_of_eq_error (requireLevels_eq_error misshapen) _
  · exact answered

section Answers

variable (short : server.database.rowLength < Bytes.maxLength)
  (few : server.params.threads < Workers.maxShares)

include short few

theorem screened_answer (key : BitKey) :
    Screened server.params bitDepth key (server.answer key) := by
  apply screened_of_checks rfl
  intro fits
  exact ⟨_, answer_eq_ok fits.logn_eq fits.shaped short few,
    (server.database.size_sumOfSelected _).trans server.rowLength_eq⟩

theorem screened_answerField (key : FieldKey) :
    Screened server.params id key (server.answerField key) := by
  apply screened_of_checks rfl
  intro fits
  exact ⟨_, answerField_eq_ok fits.logn_eq fits.shaped short few,
    (Database.size_sumOfWeighted server.rowLength_whole _).trans server.rowLength_eq⟩

end Answers

/-- **Any key from outside.**  A server that can be made refuses the keys for other domains and the
keys whose correction words do not fit, each for that reason, and answers all others with one row. -/
theorem every_key_is_screened {data : Bytes} {context : HashContext} {params : Params}
    {scheduler : Workers.Scheduler} {server : Server}
    (built : new data context params scheduler = .ok server)
    (short : params.rowLength < Bytes.maxLength) (few : params.threads < Workers.maxShares) :
    (∀ key : BitKey, Screened params bitDepth key (server.answer key)) ∧
      ∀ key : FieldKey, Screened params id key (server.answerField key) := by
  rcases of_new_eq_ok built with ⟨_, _, rfl⟩
  have row : server.database.rowLength < Bytes.maxLength := server.rowLength_eq.symm ▸ short
  exact ⟨screened_answer row few, screened_answerField row few⟩

/-- Four workers that run backwards over three rows.  They refuse a forged key with another exponent and
forged keys that lack a level or the last level, and answer the forged keys that fit. -/
theorem forged_keys_are_screened :
    ∃ server,
      new Database.threeBlocks.data ⟨0x2b7e, 0x1516⟩ ⟨9, 16, 4⟩ .backwards = .ok server ∧
        server.answer { forgedKey with logn := 40 } = .error (.retrieval (.domainMismatch 40 9)) ∧
        server.answer { forgedKey with levels := [] } = .error (.retrieval (.malformedKey 9 0 1)) ∧
        server.answer { forgedKey with last := none } = .error (.retrieval (.malformedKey 9 1 1)) ∧
        (∃ answer, server.answer forgedKey = .ok answer ∧ answer.size = 16) ∧
        server.answerField { forgedFieldKey with levels := [] } =
          .error (.retrieval (.malformedKey 9 0 8)) ∧
        ∃ answer, server.answerField forgedFieldKey = .ok answer ∧ answer.size = 16 := by
  have valid : Params.Valid ⟨9, 16, 4⟩ := Params.Valid.of_validate rfl
  have built := new_eq_ok Database.threeBlocks ⟨0x2b7e, 0x1516⟩ .backwards valid rfl (by decide)
  rcases every_key_is_screened built (by decide) (by decide) with ⟨bits, elements⟩
  exact ⟨_, built, (bits { forgedKey with logn := 40 }).mismatch_iff.mpr (by decide),
    (bits { forgedKey with levels := [] }).malformed_iff.mpr
      ⟨rfl, fun shaped => absurd shaped.length_eq (by decide)⟩,
    (bits { forgedKey with last := none }).malformed_iff.mpr
      ⟨rfl, fun shaped => absurd shaped.isSome_eq (by decide)⟩,
    (bits forgedKey).answered_iff.mpr ⟨rfl, rfl, rfl⟩,
    (elements { forgedFieldKey with levels := [] }).malformed_iff.mpr
      ⟨rfl, fun shaped => absurd shaped.length_eq (by decide)⟩,
    (elements forgedFieldKey).answered_iff.mpr ⟨rfl, rfl, rfl⟩⟩

end Server
end PrivateRetrieval
