import Coffer.CommandLine.Command

/-!
# Help

The help is written from the grammar: a line on what the program is for, the usage, and a table each
of verbs, operands and switches. The second column of a table starts two blanks after the longest
entry of the first, in rows without a second column too.
-/

namespace Coffer.CommandLine.Help

/-- The name of the program. -/
def program : String := "quiver"

/-- The answer to a question for the version. -/
def versionText : String := "quiver-store 0.1.0\n"

/-- A text filled up with blanks to a width. -/
def padTo (width : Nat) (text : String) : String :=
  text ++ String.ofList (List.replicate (width - text.length) ' ')

/-- A titled table with two columns. -/
def table (title : String) (rows : List (String × String)) : List String :=
  let width := rows.foldl (fun w row => max w row.1.length) 0
  (title ++ ":") :: rows.map fun (left, right) => "  " ++ padTo (width + 2) left ++ right

/-- How a switch is written. -/
def spelling (s : Switch) : String :=
  let short := match s.letter with
    | some c => String.ofList ['-', c, ',', ' ']
    | none => "    "
  let value := match s.parameter with
    | some p => " <" ++ p.label ++ ">"
    | none => ""
  short ++ "--" ++ s.name ++ value

/-- The table of switches. -/
def switchTable (switches : List Switch) : List String :=
  table "Options" (switches.map fun s => (spelling s, s.about))

/-- An operand as it is written in the usage. -/
def operand (label : String) : String := "<" ++ label ++ ">"

/-- Paragraphs of lines, with an empty line between each two. -/
def page (paragraphs : List (List String)) : String :=
  let paragraphs := paragraphs.filter fun lines => !lines.isEmpty
  String.intercalate "\n\n" (paragraphs.map fun lines => String.intercalate "\n" lines) ++ "\n"

/-- The help in general. -/
def general : String :=
  let verbs := Verb.all.map fun v => (v.name, "")
  let help := ("help", "Print this message or the help of the given subcommand(s)")
  page [
    ["Inspect and edit a Quiver Store database file"],
    ["Usage: " ++ program ++ " [OPTIONS] <COMMAND>"],
    table "Commands" (verbs ++ [help]),
    switchTable (Switch.global ++ [.help, .version])]

/-- The help on a verb. -/
def onVerb (v : Verb) : String :=
  let options := if v.switches.isEmpty then [] else ["[OPTIONS]"]
  let usage := [program, v.name] ++ options ++ v.operands.map operand
  let operands := v.operands.map fun label => (operand label, "")
  page [
    ["Usage: " ++ String.intercalate " " usage],
    if operands.isEmpty then [] else table "Arguments" operands,
    switchTable (v.switches ++ [.help])]

/-- The help on asking for help. -/
def onHelp : String :=
  page [
    ["Print this message or the help of the given subcommand(s)"],
    ["Usage: " ++ program ++ " help [COMMAND]..."],
    table "Arguments" [("[COMMAND]...", "Print help for the subcommand(s)")]]

/-- The help on a verb or in general. -/
def text : Option Verb → String
  | none => general
  | some v => onVerb v

end Coffer.CommandLine.Help
