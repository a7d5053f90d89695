import PrivateRetrieval.Proofs.KeyScreening

namespace PrivateRetrieval
namespace Server

open PointFunction

/-!
# Many keys at once

A batch is answered key by key, each key by one worker alone, in whatever order the workers get to
them.  A server with one worker makes the same of every key, good or bad, as the server with all of its
workers.  So the batch gives what the server would give to each key by itself, and if the server would
refuse some of the keys, the batch is refused as a whole with one of these refusals.

Which refusal that is depends on the order; nothing else does.
-/

/-- The number of workers and their order do not show in the outcome for any key, also if the key is
refused. -/
theorem Agrees.answer_eq_of_any_key {first second : Server} (agrees : first.Agrees second)
    (short : second.database.rowLength < Bytes.maxLength)
    (firstFew : first.params.threads < Workers.maxShares)
    (secondFew : second.params.threads < Workers.maxShares) (key : BitKey) :
    first.answer key = second.answer key := by
  have firstShort : first.database.rowLength < Bytes.maxLength := agrees.database_eq.symm ▸ short
  apply (screened_answer firstShort firstFew key).outcome_eq (screened_answer short secondFew key)
    agrees.logn_eq
  intro fits
  exact agrees.answer_eq short firstFew secondFew (agrees.logn_eq ▸ fits)

/-- The same server with its tasks in another order. -/
def reordered (server : Server) (order : Workers.Scheduler) : Server :=
  { server with scheduler := order }

/-- A batch collects what the server itself makes of each key. -/
theorem answerBatch_eq_collect (server : Server)
    (short : server.database.rowLength < Bytes.maxLength)
    (few : server.params.threads < Workers.maxShares) (order : Workers.Scheduler)
    (keys : List BitKey) :
    (server.reordered order).answerBatch keys =
      order.collect keys.length fun i => server.answer (keys.get i) := by
  -- The server that answers the keys of a batch differs from this one in its workers only.
  have alone : (server.reordered order).sequential.Agrees server := ⟨rfl, rfl, rfl⟩
  have one : 1 < Workers.maxShares := by decide
  change order.collect keys.length (fun i => _) = _
  congr
  funext i
  exact alone.answer_eq_of_any_key short one few (keys.get i)

/-- **Batches.**  Whatever the number of workers and in whatever order they take the keys, a batch is
answered exactly if the server answers every key of it.  Then there are as many answers as keys, and
each is the server's own answer to the key at its place.  Otherwise the batch is refused as the server
refuses one of the keys. -/
theorem batch_is_pointwise (server : Server)
    (short : server.database.rowLength < Bytes.maxLength)
    (few : server.params.threads < Workers.maxShares) (order : Workers.Scheduler)
    (keys : List BitKey) :
    ((∃ answers, (server.reordered order).answerBatch keys = .ok answers) ↔
        ∀ key ∈ keys, ∃ answer, server.answer key = .ok answer) ∧
      (∀ answers, (server.reordered order).answerBatch keys = .ok answers →
        answers.length = keys.length ∧
          ∀ i (inKeys : i < keys.length) (inAnswers : i < answers.length),
            server.answer keys[i] = .ok answers[i]) ∧
      ∀ failure, (server.reordered order).answerBatch keys = .error failure →
        ∃ key ∈ keys, server.answer key = .error failure := by
  rw [server.answerBatch_eq_collect short few order keys]
  rcases order.collect_cases fun i => server.answer (keys.get i) with
    ⟨answer, each, answered⟩ | ⟨i, failure, failed, refused⟩
  · refine ⟨iff_of_true ⟨_, answered⟩ ?_, ?_, ?_⟩
    · intro key member
      rcases List.mem_iff_get.mp member with ⟨i, rfl⟩
      exact ⟨answer i, each i⟩
    · intro answers same
      cases answered.symm.trans same
      refine ⟨List.length_ofFn, ?_⟩
      intro i inKeys inAnswers
      rw [List.getElem_ofFn]
      exact each ⟨i, inKeys⟩
    · intro failure refused
      cases answered.symm.trans refused
  · have member : keys.get i ∈ keys := List.get_mem keys i
    refine ⟨iff_of_false ?_ ?_, ?_, ?_⟩
    · rintro ⟨answers, answered⟩
      cases refused.symm.trans answered
    · intro every
      rcases every _ member with ⟨answer, answered⟩
      cases failed.symm.trans answered
    · intro answers answered
      cases refused.symm.trans answered
    · intro other same
      cases refused.symm.trans same
      exact ⟨_, member, failed⟩

/-- A server with four workers over three rows, in a domain of 512 points. -/
def fourWorkers : Server where
  database := Database.threeBlocks
  context := ⟨0x2b7e, 0x1516⟩
  params := ⟨9, 16, 4⟩
  scheduler := .inOrder
  valid := Params.Valid.of_validate rfl
  rowLength_eq := rfl
  rows_le := by decide

/-- A key without the word of the last level that its tree needs. -/
def cutKey : BitKey := { forgedKey with last := none }

/-- Workers that take the last key first answer a batch with the same key twice.  They refuse a batch of
a malformed key and a good one, although they get to the good one first. -/
theorem batch_of_forged_keys :
    (∃ answers,
        (fourWorkers.reordered .backwards).answerBatch [forgedKey, forgedKey] = .ok answers ∧
          answers.length = 2 ∧
          ∀ inAnswers : 1 < answers.length,
            fourWorkers.answer forgedKey = .ok answers[1]) ∧
      (fourWorkers.reordered .backwards).answerBatch [cutKey, forgedKey] =
        .error (.retrieval (.malformedKey 9 1 1)) := by
  have short : fourWorkers.database.rowLength < Bytes.maxLength := by decide
  have few : fourWorkers.params.threads < Workers.maxShares := by decide
  have good := (screened_answer short few forgedKey).answered_iff.mpr ⟨rfl, rfl, rfl⟩
  have bad := (screened_answer short few cutKey).malformed_iff.mpr
    ⟨rfl, fun shaped => absurd shaped.isSome_eq (by decide)⟩
  rcases good with ⟨answer, answered, _⟩
  constructor
  · rcases batch_is_pointwise fourWorkers short few .backwards [forgedKey, forgedKey] with
      ⟨isOk, pointwise, _⟩
    have every : ∀ key ∈ [forgedKey, forgedKey], ∃ answer, fourWorkers.answer key = .ok answer := by
      intro key member
      rcases List.mem_pair.mp member with rfl | rfl
      · exact ⟨answer, answered⟩
      · exact ⟨answer, answered⟩
    rcases isOk.mpr every with ⟨answers, collected⟩
    rcases pointwise answers collected with ⟨length, entries⟩
    exact ⟨answers, collected, length, entries 1 (by decide)⟩
  · rcases batch_is_pointwise fourWorkers short few .backwards [cutKey, forgedKey] with
      ⟨isOk, _, refused⟩
    cases outcome : (fourWorkers.reordered .backwards).answerBatch [cutKey, forgedKey] with
    | ok answers =>
        rcases isOk.mp ⟨answers, outcome⟩ cutKey List.mem_cons_self with ⟨other, passed⟩
        cases bad.symm.trans passed
    | error failure =>
        rcases refused failure outcome with ⟨key, member, same⟩
        rcases List.mem_pair.mp member with rfl | rfl
        · cases same.symm.trans bad
          rfl
        · cases answered.symm.trans same

end Server
end PrivateRetrieval
