import PrivateRetrieval.PointFunction.Key

namespace PrivateRetrieval

/-!
# Parameters of a retrieval

Three numbers fix a retrieval: the exponent of the domain size, the length of a row in bytes and the
number of workers that an answer may use.  They are numbers first and valid parameters second: the
sizes that follow from them are defined for any numbers, as far as they fit in 64 bits, and validity is
checked where a client or a server is made.
-/

/-- The numbers that fix a retrieval. -/
structure Params where
  /-- The domain has `2 ^ logn` rows. -/
  logn : Nat
  /-- The number of bytes in a row. -/
  rowLength : Nat
  /-- The number of workers for one answer. -/
  threads : Nat
  deriving DecidableEq

namespace Params

/-- The conditions on parameters. -/
structure Valid (params : Params) : Prop where
  logn_le : params.logn ≤ PointFunction.maxLogn
  rowLength_pos : 0 < params.rowLength
  rowLength_whole : params.rowLength % Block.byteCount = 0
  threads_pos : 0 < params.threads

/-- Check the conditions in their order. -/
def validate (params : Params) : Outcome Unit := do
  require (params.logn ≤ PointFunction.maxLogn)
    (.retrieval (.invalidParameter (.logn params.logn)))
  require (0 < params.rowLength ∧ params.rowLength % Block.byteCount = 0)
    (.retrieval (.invalidParameter (.rowLength params.rowLength)))
  require (0 < params.threads) (.retrieval (.invalidParameter .threads))

theorem validate_eq_ok_iff {params : Params} : params.validate = .ok () ↔ params.Valid := by
  constructor
  · intro passed
    unfold validate require at passed
    by_cases exponent : params.logn ≤ PointFunction.maxLogn
    · by_cases row : 0 < params.rowLength ∧ params.rowLength % Block.byteCount = 0
      · by_cases worker : 0 < params.threads
        · exact ⟨exponent, row.1, row.2, worker⟩
        · simp [exponent, row, worker, bind, Except.bind] at passed
      · simp [exponent, row, bind, Except.bind] at passed
    · simp [exponent, bind, Except.bind] at passed
  · intro valid
    simp [validate, require, valid.logn_le, valid.rowLength_pos, valid.rowLength_whole,
      valid.threads_pos, bind, Except.bind]

theorem Valid.of_validate {params : Params} (passed : params.validate = .ok ()) : params.Valid :=
  validate_eq_ok_iff.mp passed

/-- Parameters from numbers that meet the conditions. -/
def ofNumbers (logn rowLength threads : Nat) : Outcome Params := do
  let params : Params := ⟨logn, rowLength, threads⟩
  params.validate
  return params

/-- The number of points of the domain, in a word of 64 bits. -/
def domainSize (params : Params) : Outcome Nat :=
  Size.powerOfTwo params.logn

/-- The number of bytes in a packed selection over the domain. -/
def selectionLength (params : Params) : Outcome Nat := do
  let points ← params.domainSize
  return Size.ceilDiv points 8

end Params
end PrivateRetrieval
