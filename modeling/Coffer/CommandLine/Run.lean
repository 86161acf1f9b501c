import Coffer.Bytes.Hex
import Coffer.CommandLine.Arguments
import Coffer.CommandLine.Help
import Coffer.CommandLine.Report
import Coffer.Config.Environment
import Coffer.Json.Text
import Coffer.Store.Session

/-!
# Running commands

A run opens the store that the arguments and the environment choose, does one thing to it, and
prints the answer. A command that changes the store saves it afterwards. Two commands need no store:
those on passwords.

Switches win over variables, and a switch that takes no value can only turn something on.
-/

namespace Coffer.CommandLine

/-- What a run prints and how it ends. -/
structure Outcome where
  code : Nat
  out : String := ""
  err : String := ""
  deriving Repr, DecidableEq

/-- What a command gives: a line to print, or a report of why there is none. -/
abbrev Answer := Except Report String

/-- What a run finds besides its arguments and the disk. -/
structure Surroundings where
  env : Config.Environment := []
  /-- The salt of a new password hash. -/
  salt : Bytes := []
  /-- The order in which a file is written. -/
  order : Arrangement := .asInserted

/-- The configuration that switches and variables choose. -/
def configOf (o : Options) (env : Config.Environment) : Except Report Config :=
  let c := Config.override {} env
  let c := { c with
    path := o.path.or c.path
    passphrase := o.key.or c.passphrase
    encoding := o.encoding.getD c.encoding
    ignoreCase := c.ignoreCase || o.ignoreCase
    strict := c.strict || o.strict }
  if c.isInMemory then .error { message := "no database file given (use --path or QUIVER_PATH)" }
  else .ok c

/-- Opens the chosen store and goes on with it. -/
def withStore (o : Options) (around : Surroundings) (d : Disk)
    (use : Session → Answer × Session) : Answer × Disk :=
  match configOf o around.env with
  | .error report => (.error report, d)
  | .ok c =>
    match Host.openStore { disk := d, order := around.order } c with
    | (.error e, h) => (.error (.within ("failed to open " ++ Text.quotedOption c.path) e), h.disk)
    | (.ok store, host) =>
      let (answer, s) := use { store, host }
      (answer, s.host.disk)

/-- Saves the store and answers that all went well. -/
def saveAndAnswer (s : Session) : Answer × Session :=
  match s.save false with
  | (.error e, s) => (.error (.ofError e), s)
  | (.ok (), s) => (.ok "OK", s)

/-- A value as it is printed: as text, if it is text and no digits are asked for. -/
def shownValue (hex : Bool) (value : Bytes) : String :=
  if hex then Bytes.Hex.encode value
  else (Text.Utf8.decode? value).getD (Bytes.Hex.encode value)

/-- The bytes that a given value stands for. -/
def givenValue (hex : Bool) (value : String) : Except Report Bytes :=
  if hex then
    match Bytes.Hex.decode value with
    | .ok b => .ok b
    | .error e => .error { message := "VALUE is not valid hex", causes := [e.message] }
  else .ok (Text.Utf8.encode value)

/-- Keys as they are printed, a sorted list with a key in each line. -/
def shownKeys (keys : List String) : String :=
  if keys.isEmpty then "[]"
  else
    let sorted := keys.mergeSort fun a b => decide (a ≤ b)
    "[\n" ++ String.intercalate ",\n" (sorted.map fun k => "  " ++ Json.quote k) ++ "\n]"

/-! ## The commands on a store -/

def runGet (key : String) (valueKey : Option String) (hex : Bool) (s : Session) :
    Answer × Session :=
  match s.get key valueKey with
  | (some value, s) => (.ok (shownValue hex value), s)
  | (none, s) => (.error { message := "key '" ++ key ++ "' not found" }, s)

def runSet (key : String) (value : Bytes) (valueKey : Option String) (s : Session) :
    Answer × Session :=
  match s.upsert key value valueKey with
  | (.error e, s) => (.error (.ofError e), s)
  | (.ok (), s) => saveAndAnswer s

def runDelete (key : String) (s : Session) : Answer × Session :=
  match s.remove key with
  | (.error e, s) => (.error (.ofError e), s)
  | (.ok true, s) => saveAndAnswer s
  | (.ok false, s) => (.ok "Not found", s)

def runClear (s : Session) : Answer × Session :=
  match s.clear with
  | (.error e, s) => (.error (.ofError e), s)
  | (.ok (), s) => saveAndAnswer s

/-! ## Runs -/

/-- Does what an invocation asks for. -/
def perform (i : Invocation) (around : Surroundings) (d : Disk) : Answer × Disk :=
  let onStore := withStore i.options around d
  match i.command with
  | .get key valueKey hex => onStore (runGet key valueKey hex)
  | .set key value valueKey hex =>
    match givenValue hex value with
    | .error report => (.error report, d)
    | .ok value => onStore (runSet key value valueKey)
  | .delete key => onStore (runDelete key)
  | .keys => onStore fun s => (.ok (shownKeys s.store.entries.keys), s)
  | .count => onStore fun s => (.ok (toString s.store.entries.size), s)
  | .clear => onStore runClear
  | .hashPassword password iterations =>
    match Password.hash password around.salt iterations with
    | .ok hash => (.ok hash, d)
    | .error e => (.error (.ofError e), d)
  | .verifyPassword password hash =>
    if Password.verify password hash then (.ok "OK", d)
    else (.error { message := "password does not match" }, d)

/-- The outcome of an answer: what is printed ends with a line break. -/
def Outcome.ofAnswer : Answer → Outcome
  | .ok line => { code := 0, out := line ++ "\n" }
  | .error report => { code := 1, err := report.text }

/-- The outcome of arguments that are no invocation. -/
def Outcome.ofStop : Stop → Outcome
  | .usage => { code := 2, err := Help.general }
  | .help topic => { code := 0, out := Help.text topic }
  | .helpOnHelp => { code := 0, out := Help.onHelp }
  | .version => { code := 0, out := Help.versionText }

/-- **Runs the program once.** -/
def run (args : List String) (around : Surroundings) (d : Disk) : Outcome × Disk :=
  match parse args with
  | .error stop => (.ofStop stop, d)
  | .ok i =>
    let (answer, d) := perform i around d
    (.ofAnswer answer, d)

end Coffer.CommandLine
