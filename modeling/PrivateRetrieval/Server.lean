import PrivateRetrieval.Configuration.Params
import PrivateRetrieval.Fold.Selected
import PrivateRetrieval.Fold.Weighted
import PrivateRetrieval.PointFunction.Bit
import PrivateRetrieval.PointFunction.Field

namespace PrivateRetrieval

open PointFunction

/-!
# A server

A server holds a database and answers keys.  It expands the key over the domain and folds the rows of
the database under the values: the rows where the value is one, or all rows weighted by their values.

A key comes from outside and may be anything.  It is refused if it is for another domain or if its
correction words do not fit the domain; every other key is answered, if memory can hold a row.
-/

/-- A server with a database that fits its valid parameters.  Its scheduler orders the tasks of its
workers. -/
structure Server where
  database : Database
  context : HashContext
  params : Params
  scheduler : Workers.Scheduler
  valid : params.Valid
  rowLength_eq : database.rowLength = params.rowLength
  rows_le : database.rows ≤ 1 <<< params.logn

namespace Server

/-- A server over the rows of a byte string. -/
def new (data : Bytes) (context : HashContext) (params : Params)
    (scheduler : Workers.Scheduler) : Outcome Server :=
  match checked : params.validate with
  | .error failure => .error failure
  | .ok () =>
      match built : Database.ofBytes data params.rowLength with
      | .error failure => .error failure
      | .ok database =>
          if fits : database.rows ≤ 1 <<< params.logn then
            .ok
              { database, context, params, scheduler
                valid := Params.Valid.of_validate checked
                rowLength_eq := Database.rowLength_of_ofBytes built
                rows_le := fits }
          else .error (.retrieval (.tooManyRows database.rows params.logn))

/-- Check that a key is for the server's domain. -/
def requireDomain (server : Server) (keyLogn : Nat) : Outcome Unit :=
  require (keyLogn = server.params.logn)
    (.retrieval (.domainMismatch keyLogn server.params.logn))

/-- Check that the correction words of a key fit a tree of a given depth. -/
def requireLevels (server : Server) (depth found : Nat) (hasLast : Bool) : Outcome Unit :=
  require (found = depth - 1 ∧ hasLast = decide (0 < depth))
    (.retrieval (.malformedKey server.params.logn found (depth - 1)))

/-- Fold into a fresh row, in parallel if the server has several workers. -/
def foldRow (server : Server) (sequential parallel : Update UInt8 Unit) : Outcome Bytes := do
  let row ← Bytes.fresh server.database.rowLength
  (if 1 < server.params.threads then parallel else sequential).apply row

/-- The sum of the rows that a key selects. -/
def answer (server : Server) (key : BitKey) : Outcome Bytes := do
  server.requireDomain key.logn
  server.requireLevels (bitDepth key.logn) key.levels.length key.last.isSome
  let selection ← BitKey.evalAll server.context key server.params.logn
  server.foldRow (Fold.selected selection server.database)
    (Fold.selectedParallel server.scheduler selection server.database server.params.threads)

/-- The sum of all rows, each multiplied by the value of a key. -/
def answerField (server : Server) (key : FieldKey) : Outcome Bytes := do
  server.requireDomain key.logn
  server.requireLevels key.logn key.levels.length key.last.isSome
  let values ← FieldKey.evalAll server.context key server.params.logn
  let weights := values.take server.database.rows
  server.foldRow (Fold.weighted weights server.database)
    (Fold.weightedParallel server.scheduler weights server.database server.params.threads)

/-- The same server with one worker. -/
def sequential (server : Server) : Server :=
  { server with
    params := { server.params with threads := 1 }
    valid :=
      ⟨server.valid.logn_le, server.valid.rowLength_pos, server.valid.rowLength_whole,
        Nat.one_pos⟩ }

/-- The answers to several keys.  The keys are answered side by side, each by one worker; the answers
stand in the order of the keys. -/
def answerBatch (server : Server) (keys : List BitKey) : Outcome (List Bytes) :=
  server.scheduler.collect keys.length fun i => server.sequential.answer (keys.get i)

end Server
end PrivateRetrieval
