import Coffer.Error
import Coffer.Text.Split

/-!
# Reports

What a failed command says: a message, and under it the causes. A single cause is indented; several
are numbered from the outermost, the number to the right of a narrow column. Further lines of a
cause are indented to where its first line starts.
-/

namespace Coffer.CommandLine

/-- A message and its causes, the outermost first. -/
structure Report where
  message : String
  causes : List String := []
  deriving Repr, DecidableEq

namespace Report

/-- The report of an error. -/
def ofError (e : Error) : Report := { message := e.message, causes := e.deeper }

/-- The report of an error that kept something from being done. -/
def within (doing : String) (e : Error) : Report :=
  { message := doing, causes := e.message :: e.deeper }

/-- So many blanks. -/
def blanks (n : Nat) : String := String.ofList (List.replicate n ' ')

/-- The lines of a text, the first after `first` and the others after `further`. -/
def indentLines (first further text : String) : String :=
  first ++ String.intercalate ("\n" ++ further) (Text.splitOn '\n' text)

/-- A cause with its number. -/
def numbered (n : Nat) (cause : String) : String :=
  let number := toString n
  indentLines (blanks (5 - number.length) ++ number ++ ": ") (blanks 7) cause

/-- The causes as they are listed. -/
def listCauses : List String → List String
  | [cause] => [indentLines (blanks 4) (blanks 4) cause]
  | causes => causes.mapIdx numbered

/-- The text of a report. -/
def text (r : Report) : String :=
  let causes :=
    if r.causes.isEmpty then ""
    else "\n\nCaused by:\n" ++ String.intercalate "\n" (listCauses r.causes)
  "Error: " ++ r.message ++ causes ++ "\n"

end Report

end Coffer.CommandLine
