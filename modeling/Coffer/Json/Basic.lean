import Coffer.Json.Token

/-!
# JSON values

A JSON text is one value. Strings keep their bytes as they stand in the text and numbers keep
nothing: whoever needs a string resolves it with `unquote?`, and only there it has to be well-formed
text.

## Reading

The words of the text drive a machine with a stack: one frame for each bracket that is still open,
and the kind of word that may come next. So values may be nested to any depth, and reading is one
pass over the words.
-/

namespace Coffer

/-- A JSON value. -/
inductive Json where
  | null
  | bool (value : Bool)
  | number
  | string (raw : Bytes)
  | array (items : List Json)
  | object (members : List (Bytes × Json))
  deriving Repr, Inhabited

namespace Json

/-- A bracket that is open, with what was read inside it so far, the last first. -/
inductive Frame where
  | array (items : List Json)
  | object (members : List (Bytes × Json)) (key : Bytes)

/-- What may come next. -/
inductive Expected where
  /-- A value. -/
  | value
  /-- The first value of an array or its end. -/
  | firstItem
  /-- The first name of an object or its end; the object's members so far are none. -/
  | firstName
  /-- A further name of an object with these members. -/
  | name (members : List (Bytes × Json))
  /-- The colon after a name. -/
  | colon
  /-- A comma or the end of what is open. -/
  | next
  /-- Nothing: the value is complete. -/
  | nothing (value : Json)

/-- The open brackets, the innermost first, and what may come next. -/
structure Reader where
  open_ : List Frame
  expected : Expected

namespace Reader

/-- The reader before the first word. -/
def start : Reader := { open_ := [], expected := .value }

/-- Puts a complete value where it belongs. -/
def place (frames : List Frame) (v : Json) : Reader :=
  match frames with
  | [] => { open_ := [], expected := .nothing v }
  | .array items :: rest => { open_ := .array (v :: items) :: rest, expected := .next }
  | .object members key :: rest =>
    { open_ := .object ((key, v) :: members) key :: rest, expected := .next }

/-- Starts a value with its first word. -/
def startValue (frames : List Frame) : Token → Option Reader
  | .null => some (place frames .null)
  | .bool b => some (place frames (.bool b))
  | .number => some (place frames .number)
  | .string raw => some (place frames (.string raw))
  | .openBracket => some { open_ := .array [] :: frames, expected := .firstItem }
  | .openBrace => some { open_ := frames, expected := .firstName }
  | _ => none

/-- The reader after one more word, if that word may come. -/
def step (r : Reader) (t : Token) : Option Reader :=
  match r.expected with
  | .value => startValue r.open_ t
  | .firstItem =>
    match t, r.open_ with
    | .closeBracket, .array items :: rest => some (place rest (.array items.reverse))
    | _, _ => startValue r.open_ t
  | .firstName =>
    match t with
    | .closeBrace => some (place r.open_ (.object []))
    | .string key => some { open_ := .object [] key :: r.open_, expected := .colon }
    | _ => none
  | .name members =>
    match t with
    | .string key => some { open_ := .object members key :: r.open_, expected := .colon }
    | _ => none
  | .colon =>
    match t with
    | .colon => some { r with expected := .value }
    | _ => none
  | .next =>
    match t, r.open_ with
    | .comma, .array items :: rest => some { open_ := .array items :: rest, expected := .value }
    | .comma, .object members _ :: rest => some { open_ := rest, expected := .name members }
    | .closeBracket, .array items :: rest => some (place rest (.array items.reverse))
    | .closeBrace, .object members _ :: rest => some (place rest (.object members.reverse))
    | _, _ => none
  | .nothing _ => none

/-- The reader after some words. -/
def run (r : Reader) (ts : List Token) : Option Reader := ts.foldlM step r

/-- The value that was read, if it is complete. -/
def result? (r : Reader) : Option Json :=
  match r.expected with
  | .nothing v => some v
  | _ => none

end Reader

/-- **The value that a text is**, if it is one. -/
def parse? (b : Bytes) : Option Json := do
  let ts ← tokens? b
  let r ← Reader.start.run ts
  r.result?

end Json

end Coffer
