import Coffer.CommandLine.Command

/-!
# Arguments

Reading arguments as an invocation. First come the switches that choose the store, then the verb,
then the verb's operands and its own switches in any order.

An argument that begins with a hyphen and is more than a hyphen is a switch, whatever stands before
it. So no value and no operand begins with a hyphen, except that after `--` all is operands, and
that a value may be attached to its switch: `--path=X`, `-pX` and `-p=X` are `--path X`.

Arguments are read from the left, and the first one that breaks the rules decides, as does the first
one that asks for help. A value that is not attached to its switch is judged late: not when it is
read, but when the next switch or operand is, or when all has been read. A value right before the
verb is judged last of all, so help that is asked for after the verb is given even if that value
will not do.
-/

namespace Coffer.CommandLine

/-- Why arguments are no invocation. -/
inductive Stop where
  /-- They break the rules. -/
  | usage
  /-- They ask for help, on a verb or in general. -/
  | help (topic : Option Verb)
  /-- They ask for help on asking for help. -/
  | helpOnHelp
  | version
  deriving Repr, DecidableEq

/-- The switches read so far with their values, and the operands. A switch without a value has the
empty one. -/
structure Found where
  switches : List (String × String) := []
  operands : List String := []
  deriving Repr, DecidableEq

namespace Found

/-- The value of a switch. -/
def value? (f : Found) (s : Switch) : Option String := f.switches.lookup s.name

/-- Was the switch given? -/
def has (f : Found) (s : Switch) : Bool := (f.value? s).isSome

/-- Notes a switch, which must not be given twice. -/
def note (f : Found) (s : Switch) (value : String) : Except Stop Found :=
  if f.has s || !(s.parameter.all fun p => p.accepts value) then .error .usage
  else .ok { f with switches := f.switches ++ [(s.name, value)] }

/-- Notes an operand, of which there must not be more than `limit`. -/
def noteOperand (limit : Nat) (f : Found) (operand : String) : Except Stop Found :=
  if f.operands.length < limit then .ok { f with operands := f.operands ++ [operand] }
  else .error .usage

end Found

/-! ## Switches -/

/-- Is the argument a switch? -/
def isSwitch (arg : String) : Bool :=
  match arg.toList with
  | '-' :: _ :: _ => true
  | _ => false

/-- The text after an equals sign. -/
def afterEquals : List Char → Option String
  | '=' :: value => some (String.ofList value)
  | _ => none

/-- The switch that an argument names, among those that are known, and the value attached to it. -/
def readSwitch? (known : List Switch) (arg : String) : Option (Switch × Option String) :=
  match arg.toList with
  | '-' :: '-' :: text =>
    let name := String.ofList (text.takeWhile (· ≠ '='))
    let attached := afterEquals (text.dropWhile (· ≠ '='))
    (known.find? fun s => s.name == name).map fun s => (s, attached)
  | '-' :: letter :: text =>
    (known.find? fun s => s.letter == some letter).map fun s =>
      let attached :=
        if text.isEmpty then none else (afterEquals text).or (some (String.ofList text))
      (s, if s.parameter.isSome then attached else none)
  | _ => none

/-- What the arguments read so far leave open. -/
inductive Loose where
  | nothing
  /-- A switch without its value. -/
  | awaited (s : Switch)
  /-- A switch with a value that is not judged yet. -/
  | unjudged (s : Switch) (value : String)

/-- Settles what was left open. -/
def Found.settle (f : Found) : Loose → Except Stop Found
  | .nothing => .ok f
  | .awaited _ => .error .usage
  | .unjudged s value => f.note s value

/-- Reads a switch. If its value is not attached, it is awaited. -/
def enterSwitch (topic : Option Verb) (known : List Switch) (f : Found) (arg : String) :
    Except Stop (Found × Loose) := do
  match readSwitch? known arg with
  | none => .error .usage
  | some (s, attached) =>
    match s.parameter, attached with
    | none, none =>
      if s.name = Switch.help.name then .error (.help topic)
      else if s.name = Switch.version.name then .error .version
      else return (← f.note s "", .nothing)
    | none, some _ => .error .usage
    | some _, some value => return (← f.note s value, .nothing)
    | some _, none => .ok (f, .awaited s)

/-! ## Both parts of the arguments -/

/-- What stands before the verb, the verb's word, and what stands after it. -/
structure Parts where
  found : Found
  loose : Loose
  word : String
  rest : List String

/-- Reads the arguments up to the verb. -/
def readGlobal (loose : Loose) (f : Found) : List String → Except Stop Parts
  | [] => .error .usage
  | arg :: rest =>
    if isSwitch arg then do
      let f ← f.settle loose
      let (f, loose) ← enterSwitch none (Switch.global ++ [.help, .version]) f arg
      readGlobal loose f rest
    else
      match loose with
      | .awaited s => readGlobal (.unjudged s arg) f rest
      | _ => .ok { found := f, loose, word := arg, rest }

/-- Reads the arguments after a verb. -/
def readVerb (v : Verb) (loose : Loose) (f : Found) : List String → Except Stop Found
  | [] => f.settle loose
  | arg :: rest =>
    if isSwitch arg then do
      let f ← f.settle loose
      if arg = "--" then rest.foldlM (Found.noteOperand v.operands.length) f
      else
        let (f, loose) ← enterSwitch (some v) (v.switches ++ [.help]) f arg
        readVerb v loose f rest
    else
      match loose with
      | .awaited s => readVerb v (.unjudged s arg) f rest
      | _ => do
        let f ← f.settle loose
        let f ← f.noteOperand v.operands.length arg
        readVerb v .nothing f rest

/-! ## Invocations -/

/-- What the switches before the verb choose. -/
def optionsOf (f : Found) : Options :=
  { path := f.value? .path
    key := f.value? .key
    ignoreCase := f.has .ignoreCase
    encoding := (f.value? .encoding).bind KeyEncoding.ofName?
    strict := f.has .strict }

/-- The command of a verb with its operands and switches; none if operands are missing. -/
def commandOf? (v : Verb) (f : Found) : Option Command :=
  let valueKey := f.value? (.valueKey "")
  let hex := f.has (.hex "")
  match v, f.operands with
  | .get, [key] => some (.get key valueKey hex)
  | .set, [key, value] => some (.set key value valueKey hex)
  | .delete, [key] => some (.delete key)
  | .keys, [] => some .keys
  | .count, [] => some .count
  | .clear, [] => some .clear
  | .hashPassword, [password] =>
    let iterations := ((f.value? .iterations).bind count?).getD Password.defaultIterations
    some (.hashPassword password iterations)
  | .verifyPassword, [password, hash] => some (.verifyPassword password hash)
  | _, _ => none

/-- What the words after `help` ask for. -/
def readHelp : List String → Stop
  | [] => .help none
  | ["help"] => .helpOnHelp
  | [word] =>
    match Verb.ofName? word with
    | some v => .help (some v)
    | none => .usage
  | _ => .usage

/-- **The invocation that arguments spell.** -/
def parse (args : List String) : Except Stop Invocation := do
  let parts ← readGlobal .nothing {} args
  if parts.word = "help" then .error (readHelp parts.rest)
  else
    match Verb.ofName? parts.word with
    | none => .error .usage
    | some v =>
      let f ← readVerb v .nothing {} parts.rest
      let global ← parts.found.settle parts.loose
      match commandOf? v f with
      | some command => .ok { options := optionsOf global, command }
      | none => .error .usage

end Coffer.CommandLine
