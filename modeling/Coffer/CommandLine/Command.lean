import Coffer.KeyEncoding
import Coffer.Password

/-!
# Commands

What can be asked for on the command line: which store, and what to do with it. The grammar is data:
a table of switches and operands for each verb, from which arguments are read and the help is
written.
-/

namespace Coffer.CommandLine

/-! ## Commands -/

/-- What to do. -/
inductive Command where
  | get (key : String) (valueKey : Option String) (hex : Bool)
  | set (key value : String) (valueKey : Option String) (hex : Bool)
  | delete (key : String)
  | keys
  | count
  | clear
  | hashPassword (password : String) (iterations : Nat)
  | verifyPassword (password hash : String)
  deriving Repr, DecidableEq

/-- Which store to work on, as far as the arguments say. -/
structure Options where
  path : Option String := none
  key : Option String := none
  ignoreCase : Bool := false
  encoding : Option KeyEncoding := none
  strict : Bool := false
  deriving Repr, DecidableEq

/-- A command and the store it is meant for. -/
structure Invocation where
  options : Options
  command : Command
  deriving Repr, DecidableEq

/-! ## Switches -/

/-- A value that a switch takes: what it is called, and which texts will do. -/
structure Parameter where
  label : String
  accepts : String → Bool := fun _ => true

/-- A switch, which begins with a hyphen. -/
structure Switch where
  name : String
  letter : Option Char := none
  parameter : Option Parameter := none
  about : String := ""

/-- The number that digits spell, perhaps after a sign, if it is not negative and below 2^32. -/
def count? (text : String) : Option Nat :=
  match text.toList with
  | '-' :: cs => (Password.digits? cs).filter (· = 0)
  | '+' :: cs => (Password.digits? cs).filter (· < Bytes.bound 4)
  | cs => (Password.digits? cs).filter (· < Bytes.bound 4)

namespace Switch

def path : Switch :=
  { name := "path", letter := 'p'
    parameter := some { label := "PATH", accepts := fun v => !v.isEmpty }
    about := "Database file. Falls back to QUIVER_PATH" }

def key : Switch :=
  { name := "key", letter := 'k', parameter := some { label := "KEY" }
    about := "Whole-file encryption passphrase. Falls back to QUIVER_ENCRYPTION_KEY" }

def ignoreCase : Switch := { name := "ignore-case" }

def encoding : Switch :=
  { name := "encoding"
    parameter := some { label := "ENCODING", accepts := fun v => (KeyEncoding.ofName? v).isSome }
    about := "Key encoding inside the file: utf8 or utf16" }

def strict : Switch :=
  { name := "strict"
    about := "Fail instead of starting empty when the file cannot be decrypted" }

def valueKey (about : String) : Switch :=
  { name := "value-key", parameter := some { label := "VALUE_KEY" }, about }

def hex (about : String) : Switch := { name := "hex", about }

def iterations : Switch :=
  { name := "iterations"
    parameter := some { label := "ITERATIONS", accepts := fun v => (count? v).isSome }
    about := s!"[default: {Password.defaultIterations}]" }

def help : Switch := { name := "help", letter := 'h', about := "Print help" }

def version : Switch := { name := "version", letter := 'V', about := "Print version" }

/-- The switches that choose the store. They stand before the verb. -/
def global : List Switch := [path, key, ignoreCase, encoding, strict]

end Switch

/-! ## Verbs -/

/-- What a command does, without what it does it to. -/
inductive Verb where
  | get
  | set
  | delete
  | keys
  | count
  | clear
  | hashPassword
  | verifyPassword
  deriving Repr, DecidableEq

namespace Verb

/-- All verbs. -/
def all : List Verb := [get, set, delete, keys, count, clear, hashPassword, verifyPassword]

/-- The word for the verb. -/
def name : Verb → String
  | get => "get"
  | set => "set"
  | delete => "del"
  | keys => "keys"
  | count => "count"
  | clear => "clear"
  | hashPassword => "hash-password"
  | verifyPassword => "verify-password"

/-- The verb of a word. -/
def ofName? (word : String) : Option Verb := all.find? fun v => v.name == word

/-- What the verb's operands are called. All of them are needed. -/
def operands : Verb → List String
  | get => ["KEY"]
  | set => ["KEY", "VALUE"]
  | delete => ["KEY"]
  | hashPassword => ["PASSWORD"]
  | verifyPassword => ["PASSWORD", "HASH"]
  | _ => []

/-- The verb's own switches. -/
def switches : Verb → List Switch
  | get => [.valueKey "Per-value decryption key", .hex "Print the value as hex instead of text"]
  | set => [.valueKey "", .hex "Treat VALUE as hex-encoded bytes"]
  | hashPassword => [.iterations]
  | _ => []

end Verb

end Coffer.CommandLine
