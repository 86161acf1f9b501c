import Coffer.Archive.Basic
import Coffer.Change
import Coffer.Cipher.Keyring

/-!
# Stores

A store is a dictionary in memory with an archive behind it. Writes are first put into a queue and
then merged into the dictionary, all that are waiting at once; a merge is followed by at most one
save.

## Counters

* `estimate` grows by the size of each value written and shrinks by the size of each entry removed;
  it is not corrected when a value replaces another. It sizes the buffers for saving.
* `updates` counts the changes of the dictionary.
* `saves` counts the snapshots written.
-/

namespace Coffer

/-- A write that waits to be merged. -/
structure Pending where
  key : String
  value : Bytes
  deriving Repr, DecidableEq

/-- An open store. -/
structure Store where
  config : Config
  archive : Archive
  entries : Dictionary
  pending : List Pending := []
  estimate : Nat := 0
  updates : Nat := 0
  saves : Nat := 0
  feed : Feed := {}
  closed : Bool := false

namespace Store

/-- A store with default settings that never touches a file. -/
def inMemory : Store := { config := {}, archive := .disabled, entries := .empty .ordinal }

instance : Inhabited Store := ⟨inMemory⟩

/-- The comparer of the store's keys. -/
def comparer (s : Store) : Comparer := s.entries.comparer

/-- The path of the file behind the store. -/
def path (s : Store) : Option String := s.archive.path

/-- The size that an entry is charged with. -/
def entrySize (s : Store) (key : String) (value : Bytes) : Nat :=
  key.utf8ByteSize * s.config.encoding.unitSize + value.length

/-- Lets a write wait to be merged. -/
def enqueue (s : Store) (p : Pending) : Store := { s with pending := s.pending ++ [p] }

/-- Merges a waiting write into the dictionary. -/
def merge (s : Store) (p : Pending) : Store :=
  { s with
    entries := s.entries.insert p.key (some p.value)
    estimate := s.estimate + s.entrySize p.key p.value
    updates := s.updates + 1 }

/-- Merges all waiting writes, oldest first. -/
def mergeAll (s : Store) : Store := s.pending.foldl merge { s with pending := [] }

/-- Removes the entry of a key, and tells it. -/
def discard (s : Store) (key : String) : Option Entry × Store :=
  match s.entries.takeOut key with
  | (none, _) => (none, s)
  | (some e, entries) =>
    (some e,
      { s with
        entries
        estimate := s.estimate - s.entrySize e.key e.bytes
        updates := s.updates + 1 })

/-- Removes the entries of several keys, and tells those that were there. -/
def discardAll (s : Store) : List String → List Entry × Store
  | [] => ([], s)
  | key :: rest =>
    let (found, s) := s.discard key
    let (removed, s) := s.discardAll rest
    (found.toList ++ removed, s)

/-- Removes all entries. -/
def discardEverything (s : Store) : Store :=
  { s with entries := s.entries.clear, estimate := 0, updates := s.updates + 1 }

/-- Takes over a dictionary that was loaded from a file of `estimate` bytes. -/
def adopt (s : Store) (entries : Dictionary) (estimate : Nat) : Store :=
  { s with entries, estimate, updates := s.updates + 1 }

/-- Announces a change, if the store is set up to. -/
def announce (s : Store) (c : Change) : Store :=
  if s.config.announce then { s with feed := s.feed.publish c } else s

/-- What a store shows of itself. -/
def description (s : Store) : String :=
  "Database \x7b path: " ++ Text.quotedOption s.path
    ++ ", comparer: " ++ s.comparer.name
    ++ ", encrypted: " ++ toString s.archive.isEncrypted
    ++ ", entries: " ++ toString s.entries.size
    ++ ", closed: " ++ toString s.closed ++ " \x7d"

end Store

end Coffer
