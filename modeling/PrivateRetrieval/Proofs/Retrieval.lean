import PrivateRetrieval.Proofs.Client
import PrivateRetrieval.Proofs.Field.Inverse
import PrivateRetrieval.Proofs.Server

namespace PrivateRetrieval

open PointFunction

/-!
# A retrieval from end to end

A client asks two servers that hold the same database.  The values of its two keys differ at the row it
wants and nowhere else, so the sum of the answers is that row.  With keys in the field the sum is the row
times the element that the client chose, and the inverse of that element takes it off again.

An index of the domain that lies past the last row of the database is answered by zeros.
-/

/-- The number of workers may be chosen freely. -/
theorem Params.Valid.withThreads {params : Params} (valid : params.Valid) {threads : Nat}
    (some_worker : 0 < threads) : Params.Valid { params with threads } where
  logn_le := valid.logn_le
  rowLength_pos := valid.rowLength_pos
  rowLength_whole := valid.rowLength_whole
  threads_pos := some_worker

/-- A database of three rows with one block each. -/
def Database.threeBlocks : Database where
  data := Array.ofFn fun position : Fin 48 => UInt8.ofNat (5 * position)
  rows := 3
  rowLength := 16
  rowLength_pos := by decide
  size_eq := Array.size_ofFn

/-- **Retrieval with keys of one bit.**  For valid parameters, every database that fits them, every index
of the domain, every tape and any workers of either server, no step fails and the client ends with the
row that it asked for. -/
theorem retrieve_row (context : HashContext) (params : Params) (accepted : params.validate = .ok ())
    (short : params.rowLength < Bytes.maxLength) (database : Database)
    (width : database.rowLength = params.rowLength) (fits : database.rows ≤ 2 ^ params.logn)
    (index : Nat) (inside : index < 2 ^ params.logn) (tape : Tape) (firstThreads secondThreads : Nat)
    (firstSome : 0 < firstThreads) (firstFew : firstThreads < Workers.maxShares)
    (secondSome : 0 < secondThreads) (secondFew : secondThreads < Workers.maxShares)
    (firstScheduler secondScheduler : Workers.Scheduler) :
    ∃ client keys rest firstServer secondServer first second,
      Client.new context params = .ok client ∧
        client.query index tape = .ok (keys, rest) ∧
        Server.new database.data context { params with threads := firstThreads } firstScheduler =
          .ok firstServer ∧
        Server.new database.data context { params with threads := secondThreads } secondScheduler =
          .ok secondServer ∧
        firstServer.answer keys.first = .ok first ∧
        secondServer.answer keys.second = .ok second ∧
        Client.reconstruct first second =
          .ok (if index < database.rows then database.rowBytes index
            else Bytes.zeros params.rowLength) := by
  have valid := Params.Valid.of_validate accepted
  have firstValid := valid.withThreads firstSome
  have secondValid := valid.withThreads secondSome
  have rows : database.rows ≤ 1 <<< params.logn := (Nat.one_shiftLeft _).symm ▸ fits
  let client : Client := ⟨context, params, valid⟩
  let firstServer : Server := ⟨database, context, _, firstScheduler, firstValid, width, rows⟩
  let secondServer : Server := ⟨database, context, _, secondScheduler, secondValid, width, rows⟩
  rcases @Client.query_eq_ok client index inside tape with ⟨dealt, rest, asked, differs⟩
  let keys := keysOf params.logn dealt (BitKey.leafWord context dealt index)
  have row : database.rowLength < Bytes.maxLength := width ▸ short
  have firstAnswer := @Server.answer_eq_ok firstServer keys.first rfl differs.shaped row firstFew
  have secondAnswer := @Server.answer_eq_ok secondServer keys.second rfl differs.shaped row secondFew
  have sameSize := (database.size_sumOfSelected (BitKey.value context keys.first)).trans
    (database.size_sumOfSelected (BitKey.value context keys.second)).symm
  have sum := database.xor_sumOfSelected fun row below =>
    BitKey.value_xor_value differs (Nat.lt_of_lt_of_le below fits)
  refine ⟨client, keys, rest, firstServer, secondServer, _, _, Client.new_eq_ok context valid, asked,
    Server.new_eq_ok database context firstScheduler firstValid width rows,
    Server.new_eq_ok database context secondScheduler secondValid width rows, firstAnswer,
    secondAnswer, ?_⟩
  rw [← width]
  exact (Client.reconstruct_eq_ok sameSize).trans (congrArg _ sum)

/-- The last of three rows in a domain of four points, from a server with one worker and a server with
four. -/
theorem retrieve_row_of_three :
    ∃ client keys rest firstServer secondServer first second,
      Client.new ⟨0x2b7e, 0x1516⟩ ⟨2, 16, 1⟩ = .ok client ∧
        client.query 2 (Tape.repeating #[3, 141, 59]) = .ok (keys, rest) ∧
        Server.new Database.threeBlocks.data ⟨0x2b7e, 0x1516⟩ ⟨2, 16, 1⟩ .inOrder =
          .ok firstServer ∧
        Server.new Database.threeBlocks.data ⟨0x2b7e, 0x1516⟩ ⟨2, 16, 4⟩ .backwards =
          .ok secondServer ∧
        firstServer.answer keys.first = .ok first ∧
        secondServer.answer keys.second = .ok second ∧
        Client.reconstruct first second = .ok (Database.threeBlocks.rowBytes 2) :=
  retrieve_row ⟨0x2b7e, 0x1516⟩ ⟨2, 16, 1⟩ rfl (by decide) Database.threeBlocks rfl (by decide) 2
    (by decide) (Tape.repeating #[3, 141, 59]) 1 4 (by decide) (by decide) (by decide) (by decide)
    .inOrder .backwards

/-- **Retrieval with keys in the field.**  The same holds for every element other than zero that the
client multiplies the row with. -/
theorem retrieve_scaled_row (context : HashContext) (params : Params)
    (accepted : params.validate = .ok ()) (short : params.rowLength < Bytes.maxLength)
    (database : Database) (width : database.rowLength = params.rowLength)
    (fits : database.rows ≤ 2 ^ params.logn) (index : Nat) (inside : index < 2 ^ params.logn)
    (scale : Element) (other : scale ≠ 0) (tape : Tape) (firstThreads secondThreads : Nat)
    (firstSome : 0 < firstThreads) (firstFew : firstThreads < Workers.maxShares)
    (secondSome : 0 < secondThreads) (secondFew : secondThreads < Workers.maxShares)
    (firstScheduler secondScheduler : Workers.Scheduler) :
    ∃ client keys rest firstServer secondServer first second,
      Client.new context params = .ok client ∧
        client.queryField index scale tape = .ok (keys, rest) ∧
        Server.new database.data context { params with threads := firstThreads } firstScheduler =
          .ok firstServer ∧
        Server.new database.data context { params with threads := secondThreads } secondScheduler =
          .ok secondServer ∧
        firstServer.answerField keys.first = .ok first ∧
        secondServer.answerField keys.second = .ok second ∧
        Client.reconstructField first second scale =
          .ok (if index < database.rows then database.rowBytes index
            else Bytes.zeros params.rowLength) := by
  have valid := Params.Valid.of_validate accepted
  have firstValid := valid.withThreads firstSome
  have secondValid := valid.withThreads secondSome
  have rows : database.rows ≤ 1 <<< params.logn := (Nat.one_shiftLeft _).symm ▸ fits
  let client : Client := ⟨context, params, valid⟩
  let firstServer : Server := ⟨database, context, _, firstScheduler, firstValid, width, rows⟩
  let secondServer : Server := ⟨database, context, _, secondScheduler, secondValid, width, rows⟩
  rcases @Client.queryField_eq_ok client index inside scale other tape with
    ⟨dealt, rest, asked, differs⟩
  let keys := keysOf params.logn dealt (FieldKey.leafWord context dealt scale)
  have row : database.rowLength < Bytes.maxLength := width ▸ short
  have firstAnswer := @Server.answerField_eq_ok firstServer keys.first rfl differs.shaped row firstFew
  have secondAnswer :=
    @Server.answerField_eq_ok secondServer keys.second rfl differs.shaped row secondFew
  have whole : database.rowLength % Block.byteCount = 0 := width ▸ valid.rowLength_whole
  have firstSize := Database.size_sumOfWeighted whole (FieldKey.value context keys.first)
  have secondSize := Database.size_sumOfWeighted whole (FieldKey.value context keys.second)
  have inverts : scale.inverse * scale = 1 := by
    rw [mul_comm]
    exact Element.mul_inverse_cancel scale other
  have sum := Database.scaled_xor_sumOfWeighted whole inverts fun row below =>
    FieldKey.value_add_value differs scale (Nat.lt_of_lt_of_le below fits)
  refine ⟨client, keys, rest, firstServer, secondServer, _, _, Client.new_eq_ok context valid, asked,
    Server.new_eq_ok database context firstScheduler firstValid width rows,
    Server.new_eq_ok database context secondScheduler secondValid width rows, firstAnswer,
    secondAnswer, ?_⟩
  rw [← width]
  exact (Client.reconstructField_eq_ok other (firstSize.trans secondSize.symm)
    (firstSize.symm ▸ whole)).trans (congrArg _ sum)

/-- An index past the last of three rows is answered by zeros. -/
theorem retrieve_scaled_row_past_three :
    ∃ client keys rest firstServer secondServer first second,
      Client.new ⟨0x2b7e, 0x1516⟩ ⟨2, 16, 1⟩ = .ok client ∧
        client.queryField 3 ⟨0x53⟩ (Tape.repeating #[3, 141, 59]) = .ok (keys, rest) ∧
        Server.new Database.threeBlocks.data ⟨0x2b7e, 0x1516⟩ ⟨2, 16, 2⟩ .backwards =
          .ok firstServer ∧
        Server.new Database.threeBlocks.data ⟨0x2b7e, 0x1516⟩ ⟨2, 16, 1⟩ .inOrder =
          .ok secondServer ∧
        firstServer.answerField keys.first = .ok first ∧
        secondServer.answerField keys.second = .ok second ∧
        Client.reconstructField first second ⟨0x53⟩ = .ok (Bytes.zeros 16) :=
  retrieve_scaled_row ⟨0x2b7e, 0x1516⟩ ⟨2, 16, 1⟩ rfl (by decide) Database.threeBlocks rfl
    (by decide) 3 (by decide) ⟨0x53⟩ (by decide) (Tape.repeating #[3, 141, 59]) 2 1 (by decide)
    (by decide) (by decide) (by decide) .backwards .inOrder

end PrivateRetrieval
