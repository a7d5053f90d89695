import PrivateRetrieval.Failure

namespace PrivateRetrieval

/-!
# Environment variables

A process has named variables whose values are byte strings.  Here a variable counts as set only if its
value is valid UTF-8; any other value is as good as none.

A process keeps each variable as one string: the name, an equals sign and the value.  A name is looked
for at the start of these strings, up to an equals sign.  No variable has an equals sign in its own
name, so for a name without one this is the variable of that name.  A name with one reaches into a
value instead: while `A` has the value `B=7`, the name `A=B` stands for `7`.
-/

/-- The variables of a process, by name. -/
structure Environment where
  /-- Names and values; of two entries with one name the first counts. -/
  entries : List (String × ByteArray)

namespace Environment

/-- Test whether a variable can have a name and a value: neither has a null character, and the name is
not empty and has no equals sign. -/
def admits (name : String) (value : ByteArray) : Bool :=
  !name.isEmpty && !name.toList.contains '=' && !name.toList.contains '\x00' &&
    !value.data.contains 0

/-- The environment that has the given variables and no others. -/
def ofEntries (entries : List (String × ByteArray)) : Outcome Environment :=
  if entries.all fun (name, value) => admits name value then .ok ⟨entries⟩
  else .error (.fault .impossibleVariable)

/-- The text of a variable that is set. -/
def text? (environment : Environment) (name : String) : Option String :=
  match environment.entries.lookup name with
  | some bytes => String.fromUTF8? bytes
  | none => none

/-- What follows an expected beginning of a text. -/
def afterBeginning? : (beginning text : List Char) → Option (List Char)
  | [], text => some text
  | _ :: _, [] => none
  | expected :: beginning, c :: text =>
      if expected = c then afterBeginning? beginning text else none

/-- The characters that a name stands for, where a name with an equals sign reaches into the value of
the variable that is named before the sign. -/
def lookUp? (environment : Environment) (name : List Char) : Option (List Char) := do
  let text ← environment.text? (String.ofList (name.takeWhile (· ≠ '=')))
  match name.dropWhile (· ≠ '=') with
  | [] => return text.toList
  | _ :: inside => afterBeginning? (inside ++ ['=']) text.toList

/-- Set a variable to a text. -/
def set (environment : Environment) (name value : String) : Environment :=
  ⟨(name, value.toUTF8) :: environment.entries⟩

/-- Set a variable unless it is set already. -/
def setIfUnset (environment : Environment) (name value : String) : Environment :=
  match environment.text? name with
  | some _ => environment
  | none => environment.set name value

end Environment
end PrivateRetrieval
