import Coffer.Bytes
import Coffer.Comparer

/-!
# Dictionaries

The entries of a store in memory: a finite map from keys to values, where keys that are equal under
the comparer are one key. An entry keeps the spelling of its first insertion while its value is
replaced, and a value may be absent.

Each entry is filed under the normal form of its spelling, so that a look-up compares normal forms
and never normalizes what is already filed. Entries stand in the order of their first insertion; a
file may hold them in any order, which is what an `Arrangement` is for.
-/

namespace Coffer

/-- A key in its spelling and its value, which may be absent. -/
structure Entry where
  key : String
  value : Option Bytes
  deriving Repr, DecidableEq

/-- The value's bytes; an absent value has none. -/
def Entry.bytes (e : Entry) : Bytes := e.value.getD []

/-- An entry and the normal form it is filed under. -/
structure Filed where
  index : String
  entry : Entry
  deriving Repr, DecidableEq

/-- The entries of a store. -/
structure Dictionary where
  comparer : Comparer
  filed : List Filed
  deriving Repr, DecidableEq

namespace Dictionary

/-- The dictionary without entries. -/
def empty (comparer : Comparer) : Dictionary := { comparer, filed := [] }

instance : Inhabited Dictionary := ⟨empty .ordinal⟩

/-- The number of entries. -/
def size (d : Dictionary) : Nat := d.filed.length

/-- The entries in the order of their first insertion. -/
def entries (d : Dictionary) : List Entry := d.filed.map (·.entry)

/-- The spellings of the keys in the order of their first insertion. -/
def keys (d : Dictionary) : List String := d.entries.map (·.key)

/-- The entry that a key names, in whatever spelling. -/
def get? (d : Dictionary) (key : String) : Option Entry :=
  let index := d.comparer.normalize key
  (d.filed.find? fun f => f.index == index).map (·.entry)

/-- Does the key name an entry? -/
def contains (d : Dictionary) (key : String) : Bool := (d.get? key).isSome

/-- The dictionary with a value filed under a key. An entry that is there keeps its spelling. -/
def insert (d : Dictionary) (key : String) (value : Option Bytes) : Dictionary :=
  let index := d.comparer.normalize key
  if d.filed.any fun f => f.index == index then
    { d with
      filed := d.filed.map fun f =>
        if f.index == index then { f with entry := { f.entry with value } } else f }
  else
    { d with filed := d.filed ++ [{ index, entry := { key, value } }] }

/-- The dictionary without the entry that a key names. -/
def erase (d : Dictionary) (key : String) : Dictionary :=
  let index := d.comparer.normalize key
  { d with filed := d.filed.filter fun f => f.index != index }

/-- Replaces the value of a key, and tells the value that was there: none if there was no entry. -/
def exchange (d : Dictionary) (key : String) (value : Option Bytes) :
    Option (Option Bytes) × Dictionary :=
  ((d.get? key).map (·.value), d.insert key value)

/-- Takes the entry of a key out, and tells it. -/
def takeOut (d : Dictionary) (key : String) : Option Entry × Dictionary :=
  (d.get? key, d.erase key)

/-- The dictionary without any entry. -/
def clear (d : Dictionary) : Dictionary := { d with filed := [] }

/-- The entries of a list filed one after the other. Of keys that are equal under the comparer the
first spelling and the last value stay. -/
def ofEntries (comparer : Comparer) (es : List Entry) : Dictionary :=
  es.foldl (fun d e => d.insert e.key e.value) (empty comparer)

end Dictionary

/-- An order in which the entries of a dictionary are gone through. -/
structure Arrangement where
  arrange : List Entry → List Entry
  perm : ∀ es, (arrange es).Perm es

/-- The order of first insertion. -/
def Arrangement.asInserted : Arrangement := ⟨id, fun _ => .refl _⟩

instance : Inhabited Arrangement := ⟨.asInserted⟩

end Coffer
