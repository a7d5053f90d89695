import PrivateRetrieval.Configuration.Params
import PrivateRetrieval.Fold.Weighted
import PrivateRetrieval.PointFunction.Bit
import PrivateRetrieval.PointFunction.Field

namespace PrivateRetrieval

open PointFunction

/-!
# The client

A client asks for a row of a database that two servers hold, without telling either of them which.  It
sends each server one key of a point function and adds up the two answers.

With keys of one bit the sum of the answers is the row.  With keys in the field it is the row times an
element that the client chose, which the client divides out again; that element cannot be zero.
-/

/-- A client with its public keys and valid parameters. -/
structure Client where
  context : HashContext
  params : Params
  valid : params.Valid

namespace Client

/-- A client with given public keys. -/
def new (context : HashContext) (params : Params) : Outcome Client :=
  match checked : params.validate with
  | .ok () => .ok ⟨context, params, Params.Valid.of_validate checked⟩
  | .error failure => .error failure

/-- A client with public keys drawn from a tape. -/
def random (params : Params) (tape : Tape) : Outcome (Client × Tape) := do
  let (context, tape) := tape.drawContext
  let client ← new context params
  return (client, tape)

/-- Check that a row lies in the domain. -/
def requireIndex (client : Client) (index : Nat) : Outcome Unit := do
  let points ← client.params.domainSize
  require (index < points) (.retrieval (.indexOutOfDomain index client.params.logn))

/-- The keys that ask for a row. -/
def query (client : Client) (index : Nat) (tape : Tape) :
    Outcome (HalfTree.Shares BitKey × Tape) := do
  client.requireIndex index
  BitKey.generate client.context index client.params.logn tape

/-- The keys that ask for a row times an element. -/
def queryField (client : Client) (index : Nat) (scale : Element) (tape : Tape) :
    Outcome (HalfTree.Shares FieldKey × Tape) := do
  client.requireIndex index
  require (scale ≠ 0) (.retrieval .zeroScale)
  FieldKey.generate client.context index scale client.params.logn tape

/-- The sum of two answers. -/
def reconstruct (left right : Bytes) : Outcome Bytes := do
  require (left.size = right.size) (.retrieval (.answerLength left.size right.size))
  (Bytes.addInto right).apply left

/-- The sum of two answers, divided by the element that the keys were made with. -/
def reconstructField (left right : Bytes) (scale : Element) : Outcome Bytes := do
  require (scale ≠ 0) (.retrieval .zeroScale)
  let scaled ← reconstruct left right
  require (scaled.size % Block.byteCount = 0)
    (.retrieval (.invalidParameter (.answer scaled.size)))
  (Fold.addScaled scale.inverse scaled).apply (Bytes.zeros scaled.size)

end Client
end PrivateRetrieval
