import PrivateRetrieval.Text.Decimal
import PrivateRetrieval.Text.Quoted

namespace PrivateRetrieval

/-!
# Causes of failure

An operation that cannot be carried out says why with a value of the domain; the wording is made
from that value in one place.  There are three kinds of cause:

* a `Fault` is a broken precondition: the caller promised something that does not hold;
* an `AggregationError` is a shape that an operation on rows or matrices refuses;
* a `RetrievalError` is a query, an answer or a configuration that the protocol refuses.

Some faults are described to the reader and some are only named, because their cause lies in the
arithmetic or in the bounds of a buffer.
-/

/-- A broken precondition. -/
inductive Fault where
  /-- The exponent of the domain size is above 32. -/
  | exponentTooLarge (logn : Nat)
  /-- A point lies outside the domain. -/
  | indexOutsideDomain (index logn : Nat)
  /-- A key is expanded over a domain that it was not made for. -/
  | exponentMismatch (keyLogn requested : Nat)
  /-- A tree is to be dealt whose paths have more than 32 bits. -/
  | treeTooDeep (depth : Nat)
  /-- A key has the wrong number of level correction words. -/
  | levelCount (found depth : Nat)
  /-- A key has a last-level correction word without a last level, or the reverse. -/
  | lastLevelPresence (depth : Nat)
  /-- The output of a fold is not as long as a row. -/
  | outputNotOneRow
  /-- The output of a rebalanced fold does not hold a block for each row. -/
  | outputNotOneBlockPerRow
  /-- A selection has fewer bits than the database has rows. -/
  | selectionTooShort (covered rows : Nat)
  /-- The rows do not divide into blocks of the asked length. -/
  | partialBlock
  /-- The rows do not divide into field elements. -/
  | partialElement
  /-- The weights are not as many as the rows. -/
  | weightCount
  /-- Rows are to be shared among no workers. -/
  | noWorkersToShare
  /-- A row index is not below the number of rows. -/
  | rowOutOfRange (index rows : Nat)
  /-- Shares of rows are to start at multiples of zero. -/
  | zeroAlignment
  /-- More shares are asked for than memory can list. -/
  | tooManyShares
  /-- A longer buffer is asked for than memory can address. -/
  | bufferTooLong
  /-- A count does not fit in 64 bits. -/
  | sizeOverflow
  /-- A shift is by the width of the word or more. -/
  | shiftTooFar
  /-- A bit position is not below the number of bits. -/
  | bitOutOfRange
  /-- A piece of a buffer reaches beyond its end. -/
  | sliceOutOfRange
  /-- Two buffers that are combined differ in length. -/
  | lengthMismatch
  /-- A selection ends before the row or column that it is asked about. -/
  | selectionExhausted
  /-- The shapes of a matrix product do not agree. -/
  | shapeMismatch
  /-- The two control bits on the programmed path agree. -/
  | equalControlBits
  /-- An environment variable cannot have the name or the value that it is given. -/
  | impossibleVariable
  deriving DecidableEq

/-- What a fault says to the reader, when it says anything. -/
def Fault.message? : Fault → Option String
  | .exponentTooLarge logn => some s!"logn {logn} exceeds 32"
  | .indexOutsideDomain index logn => some s!"index {index} outside domain of size 2^{logn}"
  | .exponentMismatch keyLogn requested =>
      some s!"key was generated for logn {keyLogn}, evaluated with {requested}"
  | .treeTooDeep depth => some s!"tree depth {depth} exceeds 32"
  | .levelCount found depth =>
      some s!"key carries {found} level correction words, tree depth is {depth}"
  | .lastLevelPresence depth =>
      some s!"last-level correction word presence does not match tree depth {depth}"
  | .outputNotOneRow => some "output must be exactly one row"
  | .outputNotOneBlockPerRow => some "output must hold one block per row"
  | .selectionTooShort covered rows =>
      some s!"selection covers {covered} rows, database has {rows}"
  | .partialBlock => some "row is not a whole number of blocks"
  | .partialElement => some "row length must be a multiple of 16"
  | .weightCount => some "one weight per database row"
  | .noWorkersToShare => some "cannot partition over zero workers"
  | .rowOutOfRange index rows => some s!"row {index} out of {rows}"
  | .zeroAlignment | .tooManyShares | .bufferTooLong | .sizeOverflow | .shiftTooFar
  | .bitOutOfRange | .sliceOutOfRange | .lengthMismatch | .selectionExhausted | .shapeMismatch
  | .equalControlBits | .impossibleVariable => none

/-- A shape that an operation on rows or matrices refuses. -/
inductive AggregationError where
  /-- A row would have no bytes. -/
  | emptyRow
  /-- The data is not a whole number of rows. -/
  | raggedDatabase (length rowLength : Nat)
  /-- The data is a whole number of rows, but not the number announced. -/
  | databaseShape (length rows rowLength : Nat)
  /-- The entries of a matrix are not as many as its shape asks for. -/
  | matrixShape (rows cols length : Nat)
  /-- The factors of a product do not fit together. -/
  | innerDimension (leftCols rightRows : Nat)
  /-- The output of a product has another shape than the product. -/
  | outputShape (foundRows foundCols rows cols : Nat)
  /-- Parallel work is asked of no workers. -/
  | noWorkers
  deriving DecidableEq

/-- The refusal in words. -/
def AggregationError.message : AggregationError → String
  | .emptyRow => "row length must be non-zero"
  | .raggedDatabase length rowLength =>
      s!"database of {length} bytes is not a whole number of {rowLength}-byte rows"
  | .databaseShape length rows rowLength =>
      s!"database of {length} bytes does not hold {rows} rows of {rowLength} bytes"
  | .matrixShape rows cols length => s!"matrix of {rows}x{cols} backed by {length} elements"
  | .innerDimension leftCols rightRows =>
      s!"inner dimensions disagree: left has {leftCols} columns, right has {rightRows} rows"
  | .outputShape foundRows foundCols rows cols =>
      s!"output is {foundRows}x{foundCols}, expected {rows}x{cols}"
  | .noWorkers => "worker count must be at least 1"

/-- The quantity that a configuration or an answer has wrong. -/
inductive InvalidParameter where
  /-- The exponent of the domain size is above 32. -/
  | logn (value : Nat)
  /-- The row length is not a positive multiple of 16. -/
  | rowLength (value : Nat)
  /-- There is no worker. -/
  | threads
  /-- A field answer is not a whole number of blocks. -/
  | answer (length : Nat)
  deriving DecidableEq

/-- The name under which a quantity is reported. -/
def InvalidParameter.name : InvalidParameter → String
  | .logn _ => "logn"
  | .rowLength _ => "row_len"
  | .threads => "threads"
  | .answer _ => "answer"

/-- What is wrong with the quantity. -/
def InvalidParameter.reason : InvalidParameter → String
  | .logn value => s!"{value} exceeds 32"
  | .rowLength value => s!"{value} is not a positive multiple of 16"
  | .threads => "must be at least 1"
  | .answer length => s!"{length} bytes is not a whole number of field blocks"

/-- The environment variables that configure a retrieval. -/
inductive Setting where
  | logn
  | rowLength
  | threads
  deriving DecidableEq

/-- The name of the environment variable. -/
def Setting.variable : Setting → String
  | .logn => "PIR_LOGN"
  | .rowLength => "PIR_ROW_LEN"
  | .threads => "PIR_THREADS"

/-- A query, an answer or a configuration that the protocol refuses. -/
inductive RetrievalError where
  /-- A key is for another domain than the server's. -/
  | domainMismatch (keyLogn serverLogn : Nat)
  /-- The correction words of a key do not fit its domain. -/
  | malformedKey (logn found expected : Nat)
  /-- A query is for a row outside the domain. -/
  | indexOutOfDomain (index logn : Nat)
  /-- The database has more rows than the domain has points. -/
  | tooManyRows (rows logn : Nat)
  /-- Two answers that should be combined differ in length. -/
  | answerLength (left right : Nat)
  /-- A row scaled by zero is lost. -/
  | zeroScale
  /-- A quantity is out of its range. -/
  | invalidParameter (cause : InvalidParameter)
  /-- The text of a setting is no number. -/
  | unreadableSetting (setting : Setting) (value : String) (cause : Text.DecimalError)
  deriving DecidableEq

/-- The refusal in words. -/
def RetrievalError.message : RetrievalError → String
  | .domainMismatch keyLogn serverLogn =>
      s!"key was generated for a 2^{keyLogn} domain, server expects 2^{serverLogn}"
  | .malformedKey logn found expected =>
      s!"key carries {found} level correction words, a 2^{logn} domain needs {expected}"
  | .indexOutOfDomain index logn => s!"index {index} outside a 2^{logn} domain"
  | .tooManyRows rows logn => s!"database has {rows} rows but the domain only covers 2^{logn}"
  | .answerLength left right => s!"answers have different lengths: {left} and {right}"
  | .zeroScale => "field answers are scaled by zero and cannot be unscaled"
  | .invalidParameter cause => "invalid parameter " ++ cause.name ++ ": " ++ cause.reason
  | .unreadableSetting setting value cause =>
      "could not parse " ++ setting.variable ++ "=" ++ Text.quoted value ++ ": " ++ cause.message

/-- Why an operation was not carried out. -/
inductive Failure where
  /-- A precondition is broken. -/
  | fault (cause : Fault)
  /-- An operation on rows or matrices refuses its arguments. -/
  | aggregation (cause : AggregationError)
  /-- The protocol refuses a query, an answer or a configuration. -/
  | retrieval (cause : RetrievalError)
  deriving DecidableEq

/-- What a failure says to the reader, when it says anything. -/
def Failure.message? : Failure → Option String
  | .fault cause => cause.message?
  | .aggregation cause => some cause.message
  | .retrieval cause => some cause.message

/-- The result of an operation that may fail. -/
abbrev Outcome (α : Type) := Except Failure α

/-- A step that succeeds hands its value to what follows. -/
theorem bind_of_eq_ok {α β : Type} {first : Outcome α} {value : α} (done : first = .ok value)
    (next : α → Outcome β) : (first >>= next) = next value := by
  rw [done]
  rfl

/-- A step that fails is the end. -/
theorem bind_of_eq_error {α β : Type} {first : Outcome α} {failure : Failure}
    (failed : first = .error failure) (next : α → Outcome β) : (first >>= next) = .error failure := by
  rw [failed]
  rfl

/-- Go on only if a condition holds. -/
def require (condition : Prop) [Decidable condition] (failure : Failure) : Outcome Unit :=
  if condition then .ok () else .error failure

@[simp]
theorem require_eq_ok_iff {condition : Prop} [Decidable condition] {failure : Failure} :
    require condition failure = .ok () ↔ condition := by
  unfold require
  split <;> simp [*]

/-- A check before something else lets pass what both let pass. -/
theorem check_bind_eq_ok_iff {α : Type} {check : Outcome Unit} {next : Outcome α} {value : α} :
    (do check; next) = .ok value ↔ check = .ok () ∧ next = .ok value := by
  cases check with
  | ok => exact (and_iff_right rfl).symm
  | error => exact iff_of_false nofun fun both => nomatch both.1

theorem require_eq_error {condition : Prop} [Decidable condition] {failure : Failure}
    (broken : ¬ condition) : require condition failure = .error failure :=
  if_neg broken

end PrivateRetrieval
