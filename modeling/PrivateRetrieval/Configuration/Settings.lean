import PrivateRetrieval.Configuration.AssignmentFile
import PrivateRetrieval.Configuration.Params

namespace PrivateRetrieval
namespace Settings

/-!
# Parameters from the environment

Each of the three parameters can be set by an environment variable, and a file of assignments can set
the variables that are not set already.  The text of a variable may have blanks at either end and must
be an unsigned decimal number of 64 bits.  All variables are read before any number is checked, so text
that is no number is reported before a number that is out of range.
-/

/-- The number that a variable is set to, if it is set. -/
def read (environment : Environment) (setting : Setting) : Outcome (Option Nat) :=
  match environment.text? setting.variable with
  | none => .ok none
  | some text =>
      match Text.readDecimal (Text.trim text.toList) with
      | .ok number => .ok (some number)
      | .error cause => .error (.retrieval (.unreadableSetting setting text cause))

/-- The parameters that an environment sets, with defaults for the others. -/
def params (defaults : Params) (environment : Environment) : Outcome Params := do
  let logn ← read environment .logn
  let rowLength ← read environment .rowLength
  let threads ← read environment .threads
  let params : Params :=
    ⟨logn.getD defaults.logn, rowLength.getD defaults.rowLength, threads.getD defaults.threads⟩
  params.validate
  return params

/-- The usual defaults: a domain of 1024 rows of one mebibyte, and the workers that the machine has. -/
def standard (machineThreads : Nat) : Params :=
  ⟨10, 1 <<< 20, machineThreads⟩

/-- The parameters for a process environment and an optional file of assignments. -/
def load (defaults : Params) (environment : Environment) (file : Option String) :
    Outcome Params := do
  let environment ← AssignmentFile.load environment file
  params defaults environment

end Settings
end PrivateRetrieval
