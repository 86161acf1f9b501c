import Coffer.Store.Session
import Coffer.Value.Codec

/-!
# Typed values in a store

Values of a type, kept in a store by a codec. A value that is missing and one that the codec cannot
decode read alike. A conditional write looks at the value so far, and only at one that decodes:
where there is none, the write goes ahead.

A conditional write is decided before anything else, so it can decline on a closed store too; a
value that cannot be encoded is an error before the store's being closed is.

A check of the value so far and an encoder of the new one are given the session as they find it, and
may use it. Those of a codec and a condition look at the value alone.
-/

namespace Coffer

/-- A check: from the session and the value so far to whether the value is rejected. -/
abbrev Check := Session → Bytes → Bool × Session

/-- The check that looks at the value alone. -/
def Check.ofValue (rejects : Bytes → Bool) : Check := fun s value => (rejects value, s)

/-- An encoder of some value: from the session to its bytes, or to why there are none. -/
abbrev Encoder := Session → Except Error Bytes × Session

/-- The encoder that does not look at the session. -/
def Encoder.ofResult (encoded : Except Error Bytes) : Encoder := fun s => (encoded, s)

namespace Session

variable {α : Type}

/-- The value of a key, if it decodes. -/
def getAs (s : Session) (c : Codec α) (key : String) (valueKey : Option String) :
    Option α × Session :=
  let (value, s) := s.get key valueKey
  (value.bind c.decode?, s)

/-- The values of a key, if they decode. -/
def getManyAs (s : Session) (c : Codec α) (key : String) (valueKey : Option String) :
    Option (List α) × Session :=
  let (value, s) := s.get key valueKey
  (value.bind c.decodeMany?, s)

/-- Stores bytes that an encoder may have refused to give. -/
def upsertEncoded (s : Session) (key : String) (encoded : Except Error Bytes)
    (valueKey : Option String) : Except Error Unit × Session :=
  match encoded with
  | .error e => (.error e, s)
  | .ok b => s.upsert key b valueKey

/-- Stores a value. -/
def upsertAs (s : Session) (c : Codec α) (key : String) (v : α) (valueKey : Option String) :
    Except Error Unit × Session :=
  s.upsertEncoded key (c.encode v) valueKey

/-- Stores several values under one key. -/
def upsertManyAs (s : Session) (c : Codec α) (key : String) (vs : List α)
    (valueKey : Option String) : Except Error Unit × Session :=
  s.upsertEncoded key (c.encodeMany vs) valueKey

/-- Stores encoded bytes, which are encoded with the session at hand. -/
def upsertEncodedBy (s : Session) (key : String) (encode : Encoder) (valueKey : Option String) :
    Except Error Unit × Session :=
  let (encoded, s) := encode s
  s.upsertEncoded key encoded valueKey

/-- Stores encoded bytes unless there is a value so far and a check rejects it, and tells whether it
stored them. -/
def upsertUnlessBy (s : Session) (key : String) (rejects : Check) (encode : Encoder)
    (valueKey : Option String) : Except Error Bool × Session :=
  let (existing, s) := s.get key valueKey
  let (rejected, s) := existing.elim (false, s) (rejects s)
  if rejected then (.ok false, s)
  else
    let (result, s) := s.upsertEncodedBy key encode valueKey
    (result.map fun _ => true, s)

/-- Stores encoded bytes unless there is a value so far and it is rejected. -/
def upsertUnless (s : Session) (key : String) (rejects : Bytes → Bool)
    (encoded : Except Error Bytes) (valueKey : Option String) : Except Error Bool × Session :=
  s.upsertUnlessBy key (.ofValue rejects) (.ofResult encoded) valueKey

/-- **Stores a value unless the condition rejects the value so far.** -/
def upsertAsIf (s : Session) (c : Codec α) (key : String) (v : α) (valueKey : Option String)
    (condition : α → Bool) : Except Error Bool × Session :=
  s.upsertUnless key (fun b => (c.decode? b).any fun w => !condition w) (c.encode v) valueKey

/-- **Stores several values unless the condition rejects those so far.** -/
def upsertManyAsIf (s : Session) (c : Codec α) (key : String) (vs : List α)
    (valueKey : Option String) (condition : List α → Bool) : Except Error Bool × Session :=
  s.upsertUnless key (fun b => (c.decodeMany? b).any fun ws => !condition ws) (c.encodeMany vs)
    valueKey

end Session

end Coffer
