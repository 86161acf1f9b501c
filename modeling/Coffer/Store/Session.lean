import Coffer.Store.Basic

/-!
# Working with a store

A session is an open store with what it works on: the disk, the keyring its values are encrypted
with, the pools its buffers come from, and the order in which it goes through its entries. An
operation takes a session to its result and the session afterwards. The session goes on after an
error too: a write that cannot be saved has been merged all the same.

## Order of effects

A change of the store is merged first, then saved if the store saves on every change, and an error
of saving is the result. A value that is written is announced before it is merged; a removal is
announced after it was saved, and not at all if saving failed.

## Saves that overlap

A save renders a snapshot and then writes it. Other operations may come between the two steps, also
other saves.

## What a caller brings

The update of a value and the factory of a missing one are given the session as they find it, and
may use it before they give a value.

## Value keys

A value can be encrypted under a passphrase of its own. Reading it under another passphrase gives no
bytes, and so does an absent value. An empty passphrase is none.
-/

namespace Coffer

/-- What stores work on. -/
structure Host where
  disk : Disk := {}
  keyring : Keyring := {}
  scratch : Scratch := {}
  order : Arrangement := .asInserted

instance : Inhabited Host := ⟨{}⟩

/-- An open store and what it works on. -/
structure Session where
  store : Store
  host : Host

instance : Inhabited Session := ⟨⟨default, default⟩⟩

/-- Why an update gave no value: it declined, or it broke off without an error of the library. -/
inductive Interruption where
  | failed (error : Error)
  | crashed
  deriving Repr, DecidableEq

/-- An update: from the session and the value so far to a new value. -/
abbrev Update := Session → Bytes → Except Interruption Bytes × Session

/-- A factory: from the session and the spelling of a key that is missing to a value for it. -/
abbrev Factory := Session → String → Bytes × Session

/-- The factory that looks at the spelling alone. -/
def Factory.ofSpelling (make : String → Bytes) : Factory := fun s spelling => (make spelling, s)

/-- A passphrase, unless it is empty. -/
def activeKey (valueKey : Option String) : Option String := valueKey.filter fun k => !k.isEmpty

/-! ## Opening -/

/-- Opens the store of a configuration and loads its file. -/
def Host.openStore (h : Host) (c : Config) : Except Error Store × Host :=
  match Archive.ofConfig c h.disk with
  | (.error e, disk) => (.error e, { h with disk })
  | (.ok archive, disk) =>
    let estimate := (archive.path.map disk.fileLength).getD 0
    let (loaded, archive, scratch) := archive.load false estimate c.ignoreCase disk h.scratch
    let h := { h with disk, scratch }
    match loaded with
    | .error e => (.error e, h)
    | .ok entries => (.ok { config := c, archive, entries, estimate }, h)

namespace Session

/-- The session after its store has become another. -/
def withStore (s : Session) (store : Store) : Session := { s with store }

/-! ## Reading -/

/-- The cipher of a passphrase. -/
def cipherFor (s : Session) (passphrase : String) : Except Error Cipher × Session :=
  let (cipher, keyring) := s.host.keyring.cipherFor passphrase
  (cipher, { s with host := { s.host with keyring } })

/-- The value of a key as its writer knows it; none if the key is missing. -/
def get (s : Session) (key : String) (valueKey : Option String) : Option Bytes × Session :=
  match s.store.entries.get? key with
  | none => (none, s)
  | some e =>
    match activeKey valueKey with
    | none => (some e.bytes, s)
    | some passphrase =>
      match s.cipherFor passphrase with
      | (.ok cipher, s) => (some (cipher.decrypt e.bytes), s)
      | (.error _, s) => (some [], s)

/-- The value of a key in a rented buffer with room for `extra` more bytes. The capacity that is
asked for is a number of 64 bits; what is more comes round to a small one, in which a value that has
to be decrypted may not fit. -/
def getBuffered (s : Session) (key : String) (valueKey : Option String) (extra : UInt64) :
    Option (Buffer UInt8) × Session :=
  match s.store.entries.get? key with
  | none => (none, s)
  | some e =>
    let stored := e.bytes
    let capacity := UInt64.ofNat stored.length + extra
    let (buffer, pool) := Buffer.rent s.host.scratch.bytes capacity.toNat
    let (buffer, pool, s) := match activeKey valueKey with
      | none =>
        let (buffer, pool) := buffer.append pool stored
        (buffer, pool, s)
      | some passphrase =>
        let (cipher, s) := s.cipherFor passphrase
        let filled := do
          let cipher ← cipher
          let value ← cipher.decryptInto stored buffer.room
          (buffer.fillAhead value).advance value.length
        match filled with
        | .ok buffer => (buffer, pool, s)
        | .error _ => (buffer.reset, pool, s)
    let scratch := { s.host.scratch with bytes := pool }
    (some buffer, { s with host := { s.host with scratch } })

/-! ## Saving -/

/-- Renders a snapshot of the store. Without a file there is none. -/
def render (s : Session) : Except Error (Option Snapshot) × Session :=
  let (rendered, archive, scratch) :=
    s.store.archive.render s.host.order s.store.entries s.store.estimate s.host.scratch
  (rendered, { store := { s.store with archive }, host := { s.host with scratch } })

/-- Writes a snapshot that was rendered some time before, and counts it. -/
def write (s : Session) (snapshot : Snapshot) (cancelled : Bool) : Except Error Unit × Session :=
  let (written, archive, disk) := s.store.archive.write snapshot cancelled s.host.disk
  let s := { store := { s.store with archive }, host := { s.host with disk } }
  match written with
  | .error e => (.error e, s)
  | .ok () => (.ok (), s.withStore { s.store with saves := s.store.saves + 1 })

/-- Renders a snapshot of the store and writes it. Without a file nothing happens. -/
def save (s : Session) (cancelled : Bool) : Except Error Unit × Session :=
  match s.render with
  | (.error e, s) => (.error e, s)
  | (.ok none, s) => (.ok (), s)
  | (.ok (some snapshot), s) => s.write snapshot cancelled

/-- Saves after a change, if the store is set up to. -/
def saveChange (s : Session) : Except Error Unit × Session :=
  if s.store.config.saveOnUpdate then s.save false else (.ok (), s)

/-- Merges all waiting writes, saves once if there were any, and tells how many there were. -/
def drain (s : Session) : Except Error Nat × Session :=
  let waiting := s.store.pending.length
  let s := s.withStore s.store.mergeAll
  if waiting = 0 then (.ok 0, s)
  else
    match s.saveChange with
    | (.error e, s) => (.error e, s)
    | (.ok (), s) => (.ok waiting, s)

/-- Loads the file again, in place of what is in memory. -/
def rollback (s : Session) : Except Error Unit × Session :=
  let estimate := (s.store.path.map s.host.disk.fileLength).getD 0
  let (loaded, archive, scratch) :=
    s.store.archive.load false estimate s.store.config.ignoreCase s.host.disk s.host.scratch
  let s := { store := { s.store with archive }, host := { s.host with scratch } }
  match loaded with
  | .error e => (.error e, s)
  | .ok entries => (.ok (), s.withStore (s.store.adopt entries estimate))

/-- Merges what is waiting and closes the store for writing. If nothing was waiting, a store that
saves on every change is saved once more. Closing a closed store does nothing. -/
def close (s : Session) : Except Error Unit × Session :=
  if s.store.closed then (.ok (), s)
  else
    let s := s.withStore { s.store with closed := true }
    match s.drain with
    | (.error e, s) => (.error e, s)
    | (.ok 0, s) => s.saveChange
    | (.ok _, s) => (.ok (), s)

/-! ## Writing -/

/-- The form in which a value is stored. -/
def sealValue (s : Session) (value : Bytes) (valueKey : Option String) :
    Except Error Bytes × Session :=
  match activeKey valueKey with
  | none => (.ok value, s)
  | some passphrase =>
    let (cipher, s) := s.cipherFor passphrase
    (cipher.bind fun c => c.encrypt value, s)

/-- **Stores a value under a key.** -/
def upsert (s : Session) (key : String) (value : Bytes) (valueKey : Option String) :
    Except Error Unit × Session :=
  if s.store.closed then (.error .closed, s)
  else
    match s.sealValue value valueKey with
    | (.error e, s) => (.error e, s)
    | (.ok stored, s) =>
      let store := (s.store.enqueue { key, value := stored }).announce
        { kind := .upsert, key, value := some value }
      match (s.withStore store).drain with
      | (.error e, s) => (.error e, s)
      | (.ok _, s) => (.ok (), s)

/-- **Replaces the value of a key by what an update makes of it.** A missing key starts from no
bytes. If the update gives no value, nothing is written. -/
def update (s : Session) (key : String) (valueKey : Option String) (f : Update) :
    Except Interruption Bytes × Session :=
  if s.store.closed then (.error (.failed .closed), s)
  else
    let (current, s) := s.get key valueKey
    match f s (current.getD []) with
    | (.error e, s) => (.error e, s)
    | (.ok value, s) =>
      match s.upsert key value valueKey with
      | (.error e, s) => (.error (.failed e), s)
      | (.ok (), s) => (.ok value, s)

/-- The value of a key, which is made and stored first if the key is missing. Making it may use the
session and have further effects. -/
def getOrAddM {m : Type → Type} [Monad m] (s : Session) (key : String) (valueKey : Option String)
    (make : Session → String → m (Bytes × Session)) : m (Except Error Bytes × Session) :=
  match s.get key valueKey with
  | (some value, s) => pure (.ok value, s)
  | (none, s) =>
    if s.store.closed then pure (.error .closed, s)
    else do
      let (value, s) ← make s key
      match s.upsert key value valueKey with
      | (.error e, s) => pure (.error e, s)
      | (.ok (), s) => pure (.ok value, s)

/-- **The value of a key, which is made and stored first if the key is missing.** -/
def getOrAdd (s : Session) (key : String) (valueKey : Option String) (make : Factory) :
    Except Error Bytes × Session :=
  s.getOrAddM (m := Id) key valueKey make

/-! ## Removing -/

/-- Announces the removal of an entry. -/
def announceRemoval (store : Store) (e : Entry) : Store :=
  store.announce { kind := .remove, key := e.key, value := e.value }

/-- **Removes a key**, and tells whether it was there. -/
def remove (s : Session) (key : String) : Except Error Bool × Session :=
  if s.store.closed then (.error .closed, s)
  else
    match s.store.discard key with
    | (none, _) => (.ok false, s)
    | (some e, store) =>
      match (s.withStore store).saveChange with
      | (.error err, s) => (.error err, s)
      | (.ok (), s) => (.ok true, s.withStore (announceRemoval s.store e))

/-- The keys that start with `start`, if one is given, each with what follows the start. -/
def candidates (s : Session) (start : Option String) : List (String × String) :=
  (s.host.order.arrange s.store.entries.entries).filterMap fun e =>
    match start with
    | none => some (e.key, e.key)
    | some start => (s.store.comparer.after? start e.key).map fun rest => (e.key, rest)

/-- **Removes the candidates that a test accepts**, and tells how many there were. The test is given
what follows the start. -/
def removeWhere (s : Session) (start : Option String) (test : String → Bool) :
    Except Error Nat × Session :=
  if s.store.closed then (.error .closed, s)
  else
    let doomed := (s.candidates start).filter fun (_, rest) => test rest
    let (removed, store) := s.store.discardAll (doomed.map (·.1))
    if removed.isEmpty then (.ok 0, s)
    else
      match (s.withStore store).saveChange with
      | (.error e, s) => (.error e, s)
      | (.ok (), s) =>
        (.ok removed.length, s.withStore (removed.foldl announceRemoval s.store))

/-- **Removes everything.** -/
def clear (s : Session) : Except Error Unit × Session :=
  if s.store.closed then (.error .closed, s)
  else
    match (s.withStore s.store.discardEverything).saveChange with
    | (.error e, s) => (.error e, s)
    | (.ok (), s) => (.ok (), s.withStore (s.store.announce .cleared))

/-! ## Subscriptions -/

/-- Subscribes to the changes of the store, and tells the number of the subscription. -/
def subscribe (s : Session) : Nat × Session :=
  let (n, feed) := s.store.feed.subscribe
  (n, s.withStore { s.store with feed })

end Session

end Coffer
