import PrivateRetrieval.Proofs.Retrieval

namespace PrivateRetrieval

open HalfTree PointFunction

/-!
# Answers from single points

A server expands a key level by level and folds the rows under the packed values, perhaps on many
workers.  The same answer comes from evaluating the key at one row after the other, every time with a
walk down the tree, and adding up the rows where the value is one or all rows times their values.

This holds of every key whose correction words fit the domain, whoever made it and whatever it holds.
-/

/-- A key is for a domain of `2 ^ logn` points and has the correction words of its tree, whose depth is
a function of the exponent. -/
structure PointFunction.Key.Fits {Leaf : Type} (key : Key Leaf) (depth : Nat → Nat) (logn : Nat) :
    Prop where
  logn_eq : key.logn = logn
  shaped : Shaped (depth key.logn) key.levels key.last

namespace Server

/-- What a server is made of. -/
theorem of_new_eq_ok {data : Bytes} {context : HashContext} {params : Params}
    {scheduler : Workers.Scheduler} {server : Server}
    (built : new data context params scheduler = .ok server) :
    Database.ofBytes data params.rowLength = .ok server.database ∧ server.context = context ∧
      server.params = params := by
  unfold new at built
  split at built
  · cases built
  · split at built
    · cases built
    · rename_i cut
      split at built
      · cases built
        exact ⟨cut, rfl, rfl⟩
      · cases built

variable {server : Server}

/-- The answer to a key, byte by byte, from its values at single rows. -/
theorem answer_eq_selectedSum {key : BitKey} (fits : key.Fits bitDepth server.params.logn)
    (short : server.database.rowLength < Bytes.maxLength)
    (few : server.params.threads < Workers.maxShares) :
    ∃ answer chosen,
      server.answer key = .ok answer ∧
        (∀ row, row < server.database.rows →
          BitKey.eval server.context key row = .ok (chosen row)) ∧
        answer.size = server.database.rowLength ∧
        ∀ position, position < server.database.rowLength →
          answer.getD position 0 = server.database.selectedSum chosen position 0 := by
  refine ⟨_, BitKey.value server.context key, answer_eq_ok fits.logn_eq fits.shaped short few, ?_,
    server.database.size_sumOfSelected _, fun position => server.database.getD_sumOfSelected _⟩
  intro row inside
  have narrow : key.logn ≤ maxLogn := fits.logn_eq ▸ server.valid.logn_le
  have within := Nat.lt_of_lt_of_le inside server.rows_le_two_pow
  exact BitKey.eval_eq_ok narrow fits.shaped (fits.logn_eq.symm ▸ within)

/-- The answer to a key in the field, block by block, from its values at single rows. -/
theorem answerField_eq_weightedSum {key : FieldKey} (fits : key.Fits id server.params.logn)
    (short : server.database.rowLength < Bytes.maxLength)
    (few : server.params.threads < Workers.maxShares) :
    ∃ answer weight,
      server.answerField key = .ok answer ∧
        (∀ row, row < server.database.rows →
          FieldKey.eval server.context key row = .ok (weight row)) ∧
        answer.size = server.database.rowLength ∧
        ∀ block, block < server.database.rowLength / Block.byteCount →
          (Element.split answer)[block]? = some (server.database.weightedSum weight block 0) := by
  refine ⟨_, FieldKey.value server.context key, answerField_eq_ok fits.logn_eq fits.shaped short few,
    ?_, Database.size_sumOfWeighted server.rowLength_whole _,
    fun block => Database.getElem?_split_sumOfWeighted _⟩
  intro row inside
  have narrow : key.logn ≤ maxLogn := fits.logn_eq ▸ server.valid.logn_le
  have within := Nat.lt_of_lt_of_le inside server.rows_le_two_pow
  exact FieldKey.eval_eq_ok narrow fits.shaped (fits.logn_eq.symm ▸ within)

/-! ## Two servers -/

/-- Two servers hold the same rows for the same domain and share their public keys.  Their workers may
differ. -/
structure Agrees (first second : Server) : Prop where
  database_eq : first.database = second.database
  context_eq : first.context = second.context
  logn_eq : first.params.logn = second.params.logn

namespace Agrees

variable {first second : Server} (agrees : first.Agrees second)
  (short : second.database.rowLength < Bytes.maxLength)
  (firstFew : first.params.threads < Workers.maxShares)
  (secondFew : second.params.threads < Workers.maxShares)

include agrees short firstFew secondFew

theorem answer_eq {key : BitKey} (fits : key.Fits bitDepth second.params.logn) :
    first.answer key = second.answer key := by
  have firstLogn := fits.logn_eq.trans agrees.logn_eq.symm
  have firstShort := agrees.database_eq.symm ▸ short
  rw [answer_eq_ok firstLogn fits.shaped firstShort firstFew,
    answer_eq_ok fits.logn_eq fits.shaped short secondFew, agrees.database_eq, agrees.context_eq]

theorem answerField_eq {key : FieldKey} (fits : key.Fits id second.params.logn) :
    first.answerField key = second.answerField key := by
  have firstLogn := fits.logn_eq.trans agrees.logn_eq.symm
  have firstShort := agrees.database_eq.symm ▸ short
  rw [answerField_eq_ok firstLogn fits.shaped firstShort firstFew,
    answerField_eq_ok fits.logn_eq fits.shaped short secondFew, agrees.database_eq,
    agrees.context_eq]

end Agrees

/-- The number of workers and their order are the only difference between two servers that are made of
the same bytes. -/
theorem agrees_of_new_eq_ok {data : Bytes} {context : HashContext} {params : Params} {threads : Nat}
    {scheduler order : Workers.Scheduler} {first second : Server}
    (firstBuilt : new data context { params with threads } order = .ok first)
    (secondBuilt : new data context params scheduler = .ok second) : first.Agrees second := by
  rcases of_new_eq_ok firstBuilt with ⟨firstCut, firstContext, firstParams⟩
  rcases of_new_eq_ok secondBuilt with ⟨secondCut, secondContext, secondParams⟩
  exact
    { database_eq := Except.ok.inj (firstCut.symm.trans secondCut)
      context_eq := firstContext.trans secondContext.symm
      logn_eq := by rw [firstParams, secondParams] }

/-! ## Any key -/

/-- **Answers to any key.**  A server that can be made answers every key whose correction words fit its
domain.  With keys of one bit the answer has at every byte the exclusive or of the rows at which the
evaluation of the key gives one; with keys in the field it has at every block the sum of all rows times
what the evaluation gives.  Another number of workers, in any order, gives the same answers. -/
theorem answers_from_single_points {data : Bytes} {context : HashContext} {params : Params}
    {scheduler : Workers.Scheduler} {server : Server}
    (built : new data context params scheduler = .ok server)
    (short : params.rowLength < Bytes.maxLength) (few : params.threads < Workers.maxShares) :
    ∃ database, Database.ofBytes data params.rowLength = .ok database ∧
      (∀ key : BitKey, key.Fits bitDepth params.logn →
        ∃ answer chosen,
          server.answer key = .ok answer ∧
            (∀ row, row < database.rows → BitKey.eval context key row = .ok (chosen row)) ∧
            answer.size = params.rowLength ∧
            ∀ position, position < params.rowLength →
              answer.getD position 0 = database.selectedSum chosen position 0) ∧
      (∀ key : FieldKey, key.Fits id params.logn →
        ∃ answer weight,
          server.answerField key = .ok answer ∧
            (∀ row, row < database.rows → FieldKey.eval context key row = .ok (weight row)) ∧
            answer.size = params.rowLength ∧
            ∀ block, block < params.rowLength / Block.byteCount →
              (Element.split answer)[block]? = some (database.weightedSum weight block 0)) ∧
      ∀ threads order other, threads < Workers.maxShares →
        new data context { params with threads } order = .ok other →
          (∀ key : BitKey, key.Fits bitDepth params.logn →
            other.answer key = server.answer key) ∧
          ∀ key : FieldKey, key.Fits id params.logn →
            other.answerField key = server.answerField key := by
  rcases of_new_eq_ok built with ⟨cut, sameContext, sameParams⟩
  subst sameContext sameParams
  have width := server.rowLength_eq
  rw [← width] at short
  refine ⟨server.database, cut, ?_, ?_, ?_⟩
  · intro key fits
    rw [← width]
    exact answer_eq_selectedSum fits short few
  · intro key fits
    rw [← width]
    exact answerField_eq_weightedSum fits short few
  · intro threads order other otherFew otherBuilt
    have agrees := agrees_of_new_eq_ok otherBuilt built
    have otherThreads : other.params.threads < Workers.maxShares := by
      rw [(of_new_eq_ok otherBuilt).2.2]
      exact otherFew
    exact ⟨fun key fits => agrees.answer_eq short otherThreads few fits,
      fun key fits => agrees.answerField_eq short otherThreads few fits⟩

/-- A key of one bit for 512 points that nobody generated. -/
def forgedKey : BitKey where
  party := .second
  logn := 9
  seed := 0x2718281828
  levels := [0x31415926]
  last := some ⟨0x577, 0xfe, 0x7f⟩
  leaf := 0x16180339

/-- A key in the field for 512 points that nobody generated. -/
def forgedFieldKey : FieldKey where
  party := .first
  logn := 9
  seed := 0x2718281828
  levels := [3, 1, 4, 1, 5, 9, 2, 6]
  last := some ⟨0x577, 0xfe, 0x7f⟩
  leaf := ⟨0x16180339⟩

/-- Four workers that run backwards, or one, over three rows. -/
theorem answers_to_forged_keys :
    ∃ server alone answer chosen fieldAnswer weight,
      new Database.threeBlocks.data ⟨0x2b7e, 0x1516⟩ ⟨9, 16, 4⟩ .backwards = .ok server ∧
        new Database.threeBlocks.data ⟨0x2b7e, 0x1516⟩ ⟨9, 16, 1⟩ .inOrder = .ok alone ∧
        server.answer forgedKey = .ok answer ∧ alone.answer forgedKey = .ok answer ∧
        (∀ row, row < 3 → BitKey.eval ⟨0x2b7e, 0x1516⟩ forgedKey row = .ok (chosen row)) ∧
        (∀ position, position < 16 →
          answer.getD position 0 = Database.threeBlocks.selectedSum chosen position 0) ∧
        server.answerField forgedFieldKey = .ok fieldAnswer ∧
        alone.answerField forgedFieldKey = .ok fieldAnswer ∧
        (∀ row, row < 3 → FieldKey.eval ⟨0x2b7e, 0x1516⟩ forgedFieldKey row = .ok (weight row)) ∧
        (Element.split fieldAnswer)[0]? = some (Database.threeBlocks.weightedSum weight 0 0) := by
  have valid : Params.Valid ⟨9, 16, 4⟩ := Params.Valid.of_validate rfl
  have aloneValid : Params.Valid ⟨9, 16, 1⟩ := Params.Valid.of_validate rfl
  have built := new_eq_ok Database.threeBlocks ⟨0x2b7e, 0x1516⟩ .backwards valid rfl (by decide)
  have aloneBuilt :=
    new_eq_ok Database.threeBlocks ⟨0x2b7e, 0x1516⟩ .inOrder aloneValid rfl (by decide)
  have fits : forgedKey.Fits bitDepth 9 := ⟨rfl, rfl, rfl⟩
  have fieldFits : forgedFieldKey.Fits id 9 := ⟨rfl, rfl, rfl⟩
  rcases answers_from_single_points built (by decide) (by decide) with
    ⟨database, cut, bits, elements, others⟩
  cases Except.ok.inj (cut.symm.trans Database.threeBlocks.ofBytes_eq_ok)
  rcases bits forgedKey fits with ⟨answer, chosen, answered, evaluated, _, bytes⟩
  rcases elements forgedFieldKey fieldFits with
    ⟨fieldAnswer, weight, fieldAnswered, fieldEvaluated, _, blocks⟩
  rcases others 1 .inOrder _ (by decide) aloneBuilt with ⟨same, fieldSame⟩
  exact ⟨_, _, answer, chosen, fieldAnswer, weight, built, aloneBuilt, answered,
    (same forgedKey fits).trans answered, evaluated, bytes, fieldAnswered,
    (fieldSame forgedFieldKey fieldFits).trans fieldAnswered, fieldEvaluated, blocks 0 (by decide)⟩

end Server
end PrivateRetrieval
