import PrivateRetrieval.Proofs.Fold.Answer
import PrivateRetrieval.Proofs.Fold.SelectedParallel
import PrivateRetrieval.Proofs.PointFunction.Bit
import PrivateRetrieval.Proofs.PointFunction.Field
import PrivateRetrieval.Server

namespace PrivateRetrieval

open HalfTree PointFunction

/-!
# What a server answers

A server answers every key that fits its domain, whoever made it: the answer is the plain sum of the
rows at which the key has the value one, or of all rows times the values of the key.  Neither the number
of workers nor their order changes it.
-/

namespace Server

/-- A server can be made for every database that fits valid parameters. -/
theorem new_eq_ok (database : Database) (context : HashContext) {params : Params}
    (scheduler : Workers.Scheduler) (valid : params.Valid)
    (width : database.rowLength = params.rowLength) (fits : database.rows ≤ 1 <<< params.logn) :
    new database.data context params scheduler =
      .ok ⟨database, context, params, scheduler, valid, width, fits⟩ := by
  have checked := Params.validate_eq_ok_iff.mpr valid
  have built := database.ofBytes_eq_ok
  rw [width] at built
  unfold new
  split
  · rename_i refused
    rw [checked] at refused
    cases refused
  · split
    · rename_i refused
      rw [built] at refused
      cases refused
    · rename_i other same
      rw [built] at same
      cases same
      rw [dif_pos fits]

variable {server : Server}

theorem rows_le_two_pow (server : Server) : server.database.rows ≤ 2 ^ server.params.logn :=
  Nat.one_shiftLeft _ ▸ server.rows_le

theorem rowLength_whole (server : Server) : server.database.rowLength % Block.byteCount = 0 := by
  rw [server.rowLength_eq]
  exact server.valid.rowLength_whole

theorem requireLevels_eq_ok {depth : Nat} {levels : List Block} {last : Option LastLevelWord}
    (shaped : Shaped depth levels last) :
    server.requireLevels depth levels.length last.isSome = .ok () :=
  require_eq_ok_iff.mpr ⟨shaped.length_eq, shaped.isSome_eq⟩

/-- If both folds compute the same, so does the server with any number of workers. -/
theorem foldRow_eq_ok {sequential parallel : Update UInt8 Unit} {f : Bytes → Bytes}
    (short : server.database.rowLength < Bytes.maxLength)
    (alone : sequential.Computes server.database.rowLength f)
    (together : parallel.Computes server.database.rowLength f) :
    server.foldRow sequential parallel = .ok (f (Bytes.zeros server.database.rowLength)) := by
  have row := Bytes.size_zeros server.database.rowLength
  rw [foldRow, Bytes.fresh_eq_ok short]
  change (if 1 < server.params.threads then parallel else sequential).apply _ = _
  split
  · exact together.apply_eq_ok row
  · exact alone.apply_eq_ok row

theorem answer_eq_ok {key : BitKey} (made : key.logn = server.params.logn)
    (shaped : Shaped (bitDepth key.logn) key.levels key.last)
    (short : server.database.rowLength < Bytes.maxLength)
    (few : server.params.threads < Workers.maxShares) :
    server.answer key =
      .ok (server.database.sumOfSelected (BitKey.value server.context key)) := by
  have narrow : server.params.logn ≤ 32 := server.valid.logn_le
  have points : 2 ^ server.params.logn ≤ 2 ^ 32 := Nat.pow_le_pow_right Nat.two_pos narrow
  rcases @BitKey.evalAll_eq_ok server.context key server.params.logn made (by omega)
    (made ▸ shaped) with ⟨selection, expanded, size, bits⟩
  have enough := Size.le_mul_ceilDiv (2 ^ server.params.logn)
  have small : selection.size * 8 < Size.limit := by
    change selection.size * 8 < 2 ^ 64
    rw [size, Size.ceilDiv]
    split <;> omega
  have covers : server.database.rows ≤ selection.size * 8 := by
    have rows := server.rows_le_two_pow
    omega
  rw [answer, requireDomain, bind_of_eq_ok (require_eq_ok_iff.mpr made),
    bind_of_eq_ok (requireLevels_eq_ok shaped), bind_of_eq_ok expanded]
  refine (foldRow_eq_ok short (Fold.selected_computes small covers)
    (Fold.selectedParallel_computes server.scheduler small covers server.valid.threads_pos
      few)).trans (congrArg _ (Database.sumOfSelected_congr _ ?_))
  intro row inside
  rw [bits, decide_eq_true (Nat.lt_of_lt_of_le inside server.rows_le_two_pow), Bool.true_and]

theorem answerField_eq_ok {key : FieldKey} (made : key.logn = server.params.logn)
    (shaped : Shaped key.logn key.levels key.last)
    (short : server.database.rowLength < Bytes.maxLength)
    (few : server.params.threads < Workers.maxShares) :
    server.answerField key =
      .ok (server.database.sumOfWeighted (FieldKey.value server.context key)) := by
  have narrow : server.params.logn ≤ 32 := server.valid.logn_le
  have expanded := @FieldKey.evalAll_eq_ok server.context key server.params.logn made (by omega)
    (made ▸ shaped)
  have whole := server.rowLength_whole
  have small : server.database.rowLength < Size.limit := Nat.lt_trans short (by decide)
  have weights : ((List.range (2 ^ server.params.logn)).map
      (FieldKey.value server.context key)).take server.database.rows =
        (List.range server.database.rows).map (FieldKey.value server.context key) := by
    rw [← List.map_take, List.take_range, Nat.min_eq_left server.rows_le_two_pow]
  have count : ((List.range server.database.rows).map
      (FieldKey.value server.context key)).length = server.database.rows := by
    rw [List.length_map, List.length_range]
  rw [answerField, requireDomain, bind_of_eq_ok (require_eq_ok_iff.mpr made),
    bind_of_eq_ok (requireLevels_eq_ok shaped), bind_of_eq_ok expanded]
  change server.foldRow (Fold.weighted (List.take _ _) _) (Fold.weightedParallel _ (List.take _ _) _ _)
    = _
  rw [weights]
  refine (foldRow_eq_ok short (Fold.weighted_computes count whole)
    (Fold.weightedParallel_computes server.scheduler count whole small server.valid.threads_pos
      few)).trans (congrArg _ (Database.sumOfWeighted_congr ?_))
  intro row inside
  rw [List.getD_eq_getElem?_getD, List.getElem?_map, List.getElem?_range inside]
  rfl

end Server
end PrivateRetrieval
