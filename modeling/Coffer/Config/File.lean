import Coffer.Config.Basic
import Coffer.Disk.Basic
import Coffer.Error
import Coffer.Json.Basic

/-!
# Configuration files

A configuration as a JSON text. It is written as an object with all fields in order. It is read from
an object with the fields in any order, where a missing field has its default and an unknown one is
skipped, or from an array of the fields in order, the last of which may be missing.

A known field may stand once. Its name is compared after its escapes are resolved.
-/

namespace Coffer.Config

/-! ## Fields -/

/-- The fields of a configuration. -/
inductive Field where
  | path
  | ignoreCase
  | encoding
  | saveOnUpdate
  | announce
  | passphrase
  | strict
  deriving Repr, DecidableEq

/-- The fields in their order. -/
def Field.all : List Field :=
  [.path, .ignoreCase, .encoding, .saveOnUpdate, .announce, .passphrase, .strict]

/-- The name of a field. -/
def Field.name : Field → String
  | .path => "path"
  | .ignoreCase => "ignore_case"
  | .encoding => "string_encoding"
  | .saveOnUpdate => "serialize_on_update"
  | .announce => "trigger_update_events"
  | .passphrase => "encryption_key"
  | .strict => "strict_decryption"

/-- The field of a name. -/
def Field.ofName? (name : String) : Option Field := Field.all.find? fun f => f.name == name

/-! ## Writing -/

/-- A text that may be missing, as JSON. -/
def jsonOption : Option String → String
  | none => "null"
  | some s => Json.quote s

/-- The value of a field as JSON. -/
def Field.json (c : Config) : Field → String
  | .path => jsonOption c.path
  | .ignoreCase => toString c.ignoreCase
  | .encoding => Json.quote c.encoding.name
  | .saveOnUpdate => toString c.saveOnUpdate
  | .announce => toString c.announce
  | .passphrase => jsonOption c.passphrase
  | .strict => toString c.strict

/-- **The JSON text of a configuration.** -/
def toJson (c : Config) : String :=
  let members := Field.all.map fun f => Json.quote f.name ++ ":" ++ f.json c
  "\x7b" ++ String.intercalate "," members ++ "\x7d"

/-! ## Reading -/

/-- The truth value that a JSON value is. -/
def readBool? : Json → Option Bool
  | .bool b => some b
  | _ => none

/-- The text that a JSON value is, or none for null. -/
def readText? : Json → Option (Option String)
  | .null => some none
  | .string raw => (Json.unquote? raw).map some
  | _ => none

/-- The encoding of a name in a file, which has one spelling. -/
def readEncodingName? (raw : Bytes) : Option KeyEncoding :=
  match Json.unquote? raw with
  | some "utf8" => some .utf8
  | some "utf16" => some .utf16
  | _ => none

/-- The encoding that a JSON value names: its name alone or as the one name of an object. -/
def readEncoding? : Json → Option KeyEncoding
  | .string raw => readEncodingName? raw
  | .object [(raw, .null)] => readEncodingName? raw
  | _ => none

/-- The configuration with a field set to a JSON value, if the value is of the field's kind. -/
def setField? (c : Config) (f : Field) (v : Json) : Option Config :=
  match f with
  | .path => (readText? v).map fun path => { c with path }
  | .ignoreCase => (readBool? v).map fun ignoreCase => { c with ignoreCase }
  | .encoding => (readEncoding? v).map fun encoding => { c with encoding }
  | .saveOnUpdate => (readBool? v).map fun saveOnUpdate => { c with saveOnUpdate }
  | .announce => (readBool? v).map fun announce => { c with announce }
  | .passphrase => (readText? v).map fun passphrase => { c with passphrase }
  | .strict => (readBool? v).map fun strict => { c with strict }

/-- The configuration with the members of an object set, none of them among those already `seen`. -/
def setMembers? (c : Config) (seen : List Field) : List (Bytes × Json) → Option Config
  | [] => some c
  | (raw, v) :: rest =>
    match Json.unquote? raw with
    | none => none
    | some name =>
      match Field.ofName? name with
      | none => setMembers? c seen rest
      | some f =>
        if f ∈ seen then none
        else (setField? c f v).bind fun c => setMembers? c (f :: seen) rest

/-- The configuration with the first of the given fields set to the items of an array. -/
def setItems? (c : Config) : List Field → List Json → Option Config
  | _, [] => some c
  | [], _ :: _ => none
  | f :: fields, v :: rest => (setField? c f v).bind fun c => setItems? c fields rest

/-- The configuration that a JSON value is. -/
def ofJson? : Json → Option Config
  | .object members => setMembers? {} [] members
  | .array items => setItems? {} Field.all items
  | _ => none

/-- **The configuration that a JSON text is**, if it is one. -/
def parse? (b : Bytes) : Option Config := (Json.parse? b).bind ofJson?

/-- **The configuration in a file.** In which words a text that is none is refused is left to the
reader of JSON, which has a `complaint` for each. -/
def ofFile (complaint : Bytes → String) (d : Disk) (path : String) : Except Error Config :=
  match d.read path with
  | .error fault => .error (.io fault)
  | .ok b =>
    match parse? b with
    | some c => .ok c
    | none => .error (.configuration (complaint b))

end Coffer.Config
