import Coffer.Store.Typed

/-!
# Tables

A table is the part of a store that holds the values of one type. Its keys are kept with a start in
front, the short name of the type and a colon; the table takes and gives keys without it. A table
has no state of its own: it is a way of looking at a store.
-/

namespace Coffer

/-- What stands before the first `<` of a type's full name. -/
def withoutArguments (name : List Char) : List Char := name.takeWhile fun c => c != '<'

/-- The last segment of a name whose segments are set apart by `::`, where `segment` is what was
read of the current one. -/
def lastSegment (segment : List Char) : List Char → List Char
  | ':' :: ':' :: rest => lastSegment [] rest
  | c :: rest => lastSegment (segment ++ [c]) rest
  | [] => segment

/-- The short name of a type: the last segment of its full name, without type arguments. -/
def typeTag (fullName : String) : String :=
  String.ofList (lastSegment [] (withoutArguments fullName.toList))

/-- The values of one type in a store. -/
structure Table (α : Type) where
  /-- The short name of the type. -/
  tag : String
  codec : Codec α
  /-- The passphrase of its own that every value is encrypted under. -/
  valueKey : Option String := none

namespace Table

variable {α : Type}

/-- The table of a type with the given full name. -/
def ofType (fullName : String) (codec : Codec α) : Table α := { tag := typeTag fullName, codec }

/-- The table with its values encrypted under a passphrase, unless that is empty. -/
def withValueKey (t : Table α) (valueKey : String) : Table α :=
  { t with valueKey := activeKey (some valueKey) }

/-- What the table's keys start with in the store. -/
def start (t : Table α) : String := t.tag ++ ":"

/-- The key in the store for a key of the table. -/
def storedKey (t : Table α) (key : String) : String := t.start ++ key

/-! ## Reading -/

/-- Has the table a key? -/
def contains (t : Table α) (s : Session) (key : String) : Bool :=
  s.store.entries.contains (t.storedKey key)

/-- The value of a key, if it decodes. -/
def get (t : Table α) (s : Session) (key : String) : Option α × Session :=
  s.getAs t.codec (t.storedKey key) t.valueKey

/-- The values of a key, if they decode. -/
def getMany (t : Table α) (s : Session) (key : String) : Option (List α) × Session :=
  s.getManyAs t.codec (t.storedKey key) t.valueKey

/-- The keys of the table. -/
def keys (t : Table α) (s : Session) : List String :=
  s.store.entries.keys.filterMap fun key => s.store.comparer.after? t.start key

/-- The number of keys. -/
def size (t : Table α) (s : Session) : Nat := (t.keys s).length

/-- Has the table no keys? -/
def isEmpty (t : Table α) (s : Session) : Bool := t.size s == 0

/-! ## Writing -/

/-- Stores a value. -/
def upsert (t : Table α) (s : Session) (key : String) (v : α) : Except Error Unit × Session :=
  s.upsertAs t.codec (t.storedKey key) v t.valueKey

/-- Stores several values under one key. -/
def upsertMany (t : Table α) (s : Session) (key : String) (vs : List α) :
    Except Error Unit × Session :=
  s.upsertManyAs t.codec (t.storedKey key) vs t.valueKey

/-- Stores a value unless the condition rejects the value so far. -/
def upsertIf (t : Table α) (s : Session) (key : String) (v : α) (condition : α → Bool) :
    Except Error Bool × Session :=
  s.upsertAsIf t.codec (t.storedKey key) v t.valueKey condition

/-- Removes a key, and tells whether it was there. -/
def remove (t : Table α) (s : Session) (key : String) : Except Error Bool × Session :=
  s.remove (t.storedKey key)

/-- Removes the keys that a test accepts, and tells how many there were. -/
def removeWhere (t : Table α) (s : Session) (test : String → Bool) : Except Error Nat × Session :=
  s.removeWhere (some t.start) test

end Table

end Coffer
