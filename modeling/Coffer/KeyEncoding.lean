import Coffer.Text.Blank
import Coffer.Text.Utf8
import Coffer.Text.Utf16

/-!
# Key encodings

The text encodings in which a file can hold its keys.
-/

namespace Coffer

/-- The encoding of the keys in a file. -/
inductive KeyEncoding where
  | utf8
  | utf16
  deriving Repr, DecidableEq, Inhabited

namespace KeyEncoding

/-- The name of the encoding. -/
def name : KeyEncoding → String
  | .utf8 => "utf8"
  | .utf16 => "utf16"

/-- The bytes charged for each UTF-8 byte of a key when the size of an entry is estimated. -/
def unitSize : KeyEncoding → Nat
  | .utf8 => 1
  | .utf16 => 2

/-- The form in which a name is looked up: without blanks around it, in small ASCII letters. -/
def canonicalName (text : String) : String := Text.lowercaseAscii (Text.trim text)

/-- The encoding that a text names, if it names one. -/
def ofName? (text : String) : Option KeyEncoding :=
  let name := canonicalName text
  if name = "utf8" ∨ name = "utf-8" then some .utf8
  else if name = "utf16" ∨ name = "utf-16" then some .utf16
  else none

/-- What is said of a text that names no encoding. -/
def unknownMessage (text : String) : String :=
  s!"unknown string encoding '{canonicalName text}'"

/-- A key as bytes. -/
def encode : KeyEncoding → String → Bytes
  | .utf8, key => Text.Utf8.encode key
  | .utf16, key => Text.Utf16.encode key

/-- The key that bytes hold, if they hold one. -/
def decode? : KeyEncoding → Bytes → Option String
  | .utf8, raw => Text.Utf8.decode? raw
  | .utf16, raw => Text.Utf16.decode? raw

end KeyEncoding

end Coffer
