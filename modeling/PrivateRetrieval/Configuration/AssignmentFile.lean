import PrivateRetrieval.Configuration.Environment
import PrivateRetrieval.Text.Alphanumeric
import PrivateRetrieval.Text.Blank

namespace PrivateRetrieval
namespace AssignmentFile

/-!
# Files of assignments to environment variables

Such a file has one assignment `NAME=value` to a line, with blanks allowed around the name and the
sign and the word `export` in front of the name.  A hash at the start of a line, or after a blank,
begins a comment.

A value may be written in pieces.  Between single quotes every character stands for itself.  Between
double quotes, and outside quotes, a backslash protects the next character, and a dollar sign stands
for the value of the variable that is named after it, with or without braces.  Outside quotes a blank
ends the value.

A line that opens a quote goes on until the quote is closed, so a file is first cut into logical lines
and these are read one by one.  Each assignment takes effect before the next line is read, unless the
variable was set before; the first line that cannot be read ends the file.
-/

/-! ## Logical lines -/

/-- Where the scan of a logical line is. -/
inductive Scan where
  /-- In ordinary text. -/
  | plain
  /-- Just after a blank, where a hash begins a comment. -/
  | afterBlank
  /-- After a backslash in ordinary text. -/
  | escaped
  /-- Between single quotes, possibly after a backslash. -/
  | singleQuoted (escaped : Bool)
  /-- Between double quotes, possibly after a backslash. -/
  | doubleQuoted (escaped : Bool)
  /-- A comment was met. -/
  | comment
  deriving DecidableEq

/-- The scan after one more character of ordinary text, where `blank` tells what to do at a blank. -/
def Scan.ordinary (c : Char) (blank : Scan) : Scan :=
  if c = '\\' then .escaped
  else if c = '"' then .doubleQuoted false
  else if c = '\'' then .singleQuoted false
  else blank

/-- The scan after one more character. -/
def Scan.next (scan : Scan) (c : Char) : Scan :=
  match scan with
  | .afterBlank => if c = '#' then .comment else Scan.ordinary c .plain
  | .escaped => .plain
  | .plain =>
      Scan.ordinary c
        (if Text.isBlank c ∧ c ≠ '\n' ∧ c ≠ '\r' then .afterBlank else .plain)
  | .doubleQuoted true => .doubleQuoted false
  | .doubleQuoted false =>
      if c = '\\' then .doubleQuoted true else if c = '"' then .plain else .doubleQuoted false
  | .singleQuoted true => .singleQuoted false
  | .singleQuoted false =>
      if c = '\\' then .singleQuoted true else if c = '\'' then .plain else .singleQuoted false
  | .comment => .comment

/-- The scan at the end of some text, and the text before the hash of a comment if there is one. -/
def Scan.run (scan : Scan) : List Char → Scan × List Char
  | [] => (scan, [])
  | c :: rest =>
      match scan.next c with
      | .comment => (.comment, [])
      | following =>
          let (final, kept) := following.run rest
          (final, c :: kept)

/-- The physical lines of a text, each with the line feed that ends it. -/
def physicalLines : List Char → List (List Char)
  | [] => []
  | c :: rest =>
      if c = '\n' then [c] :: physicalLines rest
      else
        match physicalLines rest with
        | [] => [[c]]
        | line :: later => (c :: line) :: later

/-- A line without the line feed, and the carriage return before it, that end it. -/
def dropLineEnd (line : List Char) : List Char :=
  match line.reverse with
  | '\n' :: '\r' :: rest => rest.reverse
  | '\n' :: rest => rest.reverse
  | _ => line

/-- Test whether a line has nothing but a comment. -/
def isCommentLine (line : List Char) : Bool :=
  (Text.trimStart line).head? == some '#'

/-- Put physical lines together into logical ones.  `started` is the beginning of a logical line that
is not complete, and `scan` tells where it stopped.  A logical line that the text does not complete
cannot be read, and is absent from the answer in the place of its text. -/
def logicalLinesFrom (started : List Char) (scan : Scan) :
    List (List Char) → List (Option (List Char))
  | [] => if scan = .plain then [] else [none]
  | line :: later =>
      let whole := started ++ line
      if isCommentLine whole then some [] :: logicalLinesFrom [] .plain later
      else
        match scan.run line with
        | (.plain, _) => some (dropLineEnd whole) :: logicalLinesFrom [] .plain later
        | (.comment, kept) => some (started ++ kept) :: logicalLinesFrom [] .plain later
        | (unfinished, _) => logicalLinesFrom whole unfinished later

/-- The logical lines of a text. -/
def logicalLines (text : List Char) : List (Option (List Char)) :=
  logicalLinesFrom [] .plain (physicalLines text)

/-! ## Values -/

/-- Where the reading of a value is.  In the states with a flag the flag tells whether the value goes
on between double quotes afterwards. -/
inductive Reading where
  /-- Outside quotes. -/
  | bare
  /-- Between single quotes. -/
  | singleQuoted
  /-- Between double quotes. -/
  | doubleQuoted
  /-- After a backslash. -/
  | escaped (quoted : Bool)
  /-- In the name of a variable without braces, the characters of the name last first. -/
  | name (quoted : Bool) (reversed : List Char)
  /-- In the name of a variable between braces, the characters of the name last first. -/
  | bracedName (quoted : Bool) (reversed : List Char)
  /-- After the blank that ends the value. -/
  | ended
  deriving DecidableEq

/-- Go on between double quotes or outside quotes. -/
def Reading.resume (quoted : Bool) : Reading :=
  if quoted then .doubleQuoted else .bare

/-- The characters that a name stands for, none if nothing of that name is set. -/
def substitution (environment : Environment) (reversedName : List Char) : List Char :=
  (environment.lookUp? reversedName.reverse).getD []

/-- The character that a backslash and another character stand for. -/
def escapedCharacter? (c : Char) : Option Char :=
  if c = '\\' ∨ c = '\'' ∨ c = '"' ∨ c = '$' ∨ c = ' ' then some c
  else if c = 'n' then some '\n'
  else none

/-- Read the rest of a value.  The answer has the characters that the rest stands for, and is absent if
it cannot be read. -/
def readValueFrom (environment : Environment) (reading : Reading) :
    List Char → Option (List Char)
  | [] =>
      match reading with
      | .bare | .ended | .escaped false => some []
      | .name false reversed => some (substitution environment reversed)
      | _ => none
  | c :: rest =>
      match reading with
      | .ended =>
          if c = ' ' ∨ c = '\t' then readValueFrom environment .ended rest
          else if c = '#' then some []
          else none
      | .escaped quoted =>
          match escapedCharacter? c with
          | some meant => (readValueFrom environment (.resume quoted) rest).map (meant :: ·)
          | none => none
      | .singleQuoted =>
          if c = '\'' then readValueFrom environment .bare rest
          else (readValueFrom environment .singleQuoted rest).map (c :: ·)
      | .name quoted reversed =>
          if Text.isAlphanumeric c then
            readValueFrom environment (.name quoted (c :: reversed)) rest
          else if c = '\x7b' ∧ reversed = [] then
            readValueFrom environment (.bracedName quoted []) rest
          else if c = '$' then
            (readValueFrom environment (.name quoted []) rest).map
              (substitution environment reversed ++ ·)
          else
            (readValueFrom environment (.resume quoted) rest).map
              (substitution environment reversed ++ c :: ·)
      | .bracedName quoted reversed =>
          if c = '\x7d' then
            (readValueFrom environment (.resume quoted) rest).map
              (substitution environment reversed ++ ·)
          else readValueFrom environment (.bracedName quoted (c :: reversed)) rest
      | .doubleQuoted =>
          if c = '$' then readValueFrom environment (.name true []) rest
          else if c = '"' then readValueFrom environment .bare rest
          else if c = '\\' then readValueFrom environment (.escaped true) rest
          else (readValueFrom environment .doubleQuoted rest).map (c :: ·)
      | .bare =>
          if c = '$' then readValueFrom environment (.name false []) rest
          else if c = '\'' then readValueFrom environment .singleQuoted rest
          else if c = '"' then readValueFrom environment .doubleQuoted rest
          else if c = '\\' then readValueFrom environment (.escaped false) rest
          else if c = ' ' ∨ c = '\t' then readValueFrom environment .ended rest
          else (readValueFrom environment .bare rest).map (c :: ·)

/-- Read a value. -/
def readValue (environment : Environment) (text : List Char) : Option (List Char) :=
  readValueFrom environment .bare text

/-! ## Assignments -/

/-- An ASCII letter or an underscore, which a name may start with. -/
def startsName (c : Char) : Bool := c.isAlpha || c == '_'

/-- A character that a name may go on with. -/
def continuesName (c : Char) : Bool := c.isAlphanum || c == '_' || c == '.'

/-- Split a name off the start of a text. -/
def splitName (text : List Char) : Option (List Char × List Char) :=
  match text with
  | c :: _ =>
      if startsName c then some (text.takeWhile continuesName, text.dropWhile continuesName)
      else none
  | [] => none

/-- What follows the equals sign at the start of a text. -/
def afterEquals : List Char → Option (List Char)
  | '=' :: rest => some rest
  | _ => none

/-- Split a text into a name and what follows its equals sign.  The word `export` is passed over
unless it is the name itself. -/
def splitAssignment (text : List Char) : Option (List Char × List Char) := do
  let (name, rest) ← splitName text
  let rest := Text.trimStart rest
  match afterEquals rest with
  | some value => return (name, value)
  | none =>
      if name = "export".toList then do
        let (name, rest) ← splitName rest
        let value ← afterEquals (Text.trimStart rest)
        return (name, value)
      else none

/-- What a logical line says. -/
inductive Line where
  /-- Nothing. -/
  | blank
  /-- A variable should have a value. -/
  | assignment (name value : String)
  /-- The line cannot be read. -/
  | unreadable
  deriving DecidableEq

/-- Read a logical line. -/
def readLine (environment : Environment) (line : List Char) : Line :=
  let text := Text.trim line
  if text = [] ∨ text.head? = some '#' then .blank
  else
    match splitAssignment text with
    | none => .unreadable
    | some (name, value) =>
        let value := Text.trimStart value
        if value = [] ∨ value.head? = some '#' then .assignment (String.ofList name) ""
        else
          match readValue environment value with
          | some meant => .assignment (String.ofList name) (String.ofList meant)
          | none => .unreadable

/-- The assignments of some logical lines up to the first that cannot be read.  Each one takes effect
for the lines after it, unless the variable was set before. -/
def assignmentsOf (environment : Environment) :
    List (Option (List Char)) → List (String × String)
  | [] => []
  | none :: _ => []
  | some line :: later =>
      match readLine environment line with
      | .blank => assignmentsOf environment later
      | .unreadable => []
      | .assignment name value =>
          (name, value) :: assignmentsOf (environment.setIfUnset name value) later

/-- The assignments of a file up to the first line that cannot be read.  A byte order mark at the start
of the file is passed over. -/
def assignments (environment : Environment) (text : String) : List (String × String) :=
  let characters := text.toList
  let characters :=
    if characters.head? = some '\uFEFF' then characters.drop 1 else characters
  assignmentsOf environment (logicalLines characters)

/-- Carry out assignments in order.  A variable that is set keeps its value, and a value with a null
character cannot be given to a variable. -/
def assign (environment : Environment) : List (String × String) → Outcome Environment
  | [] => .ok environment
  | (name, value) :: later =>
      if environment.text? name = none ∧ value.toList.contains '\x00' then
        .error (.fault .impossibleVariable)
      else assign (environment.setIfUnset name value) later

/-- The environment after a file of assignments, if there is one. -/
def load (environment : Environment) (file : Option String) : Outcome Environment :=
  match file with
  | none => .ok environment
  | some text => assign environment (assignments environment text)

end AssignmentFile
end PrivateRetrieval
