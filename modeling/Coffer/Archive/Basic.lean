import Coffer.Cipher.Basic
import Coffer.Config.Basic
import Coffer.Dictionary.Format
import Coffer.Disk.Basic

/-!
# Archives

An archive keeps a dictionary in a file. Every save writes the whole dictionary, and every load
reads the whole file. An archive without a file keeps nothing and loads as empty.

## Snapshots

A save has two steps. Rendering turns the dictionary into a snapshot, the complete new content of
the file, and numbers it; writing puts a snapshot into the file. Snapshots may be written in any
order: one that was rendered before the last one written is dropped without an error, so the file
never goes back.

## Files that cannot be decrypted

A file that is encrypted under another key cannot be told from a damaged one. A strict archive fails
to load it. A lenient one loads as empty but is *degraded* from then on: it refuses to write, so
that what it could not read is not lost. Each further load starts from a sound archive again.

## Estimates

Rendering and loading are told a size to expect, which decides how large a buffer they rent at first
and nothing else.
-/

namespace Coffer

/-- The file of an archive, and what the archive knows about it. -/
structure Target where
  path : String
  comparer : Comparer
  encoding : KeyEncoding
  /-- The cipher of the whole file, if it is encrypted. -/
  cipher : Option Cipher
  strict : Bool
  /-- The number of the last snapshot rendered. -/
  rendered : Nat := 0
  /-- The number of the last snapshot written. -/
  committed : Nat := 0
  /-- Was the file loaded as empty because it could not be decrypted? -/
  degraded : Bool := false
  deriving Repr, DecidableEq

/-- The content of a file, rendered at some moment. -/
structure Snapshot where
  number : Nat
  bytes : Bytes
  deriving Repr, DecidableEq

/-- Room beyond the estimate in the buffer that a snapshot is rendered in. -/
def reservedHeadroom : Nat := 1024

/-- The least room that a file is read into at a time. -/
def readChunk : Nat := 8 * 1024

namespace Target

/-- The error that the file is not what it should be. -/
def fault (t : Target) (f : FormatFault) : Error := .deserialization t.path f

/-! ## Rendering -/

/-- The room that rendering asks for: the estimate, what the format adds, and some headroom. -/
def reserve (d : Dictionary) (estimate : Nat) : Nat :=
  estimate + Dictionary.Format.headerSize + d.size * Dictionary.Format.entryOverhead
    + reservedHeadroom

/-- What was written in a buffer, encrypted if the file is. -/
def sealed (t : Target) (plain : Bytes) (scratch : Scratch) : Except Error (Bytes × Scratch) :=
  match t.cipher with
  | none => .ok (plain, scratch)
  | some cipher => do
    let (buffer, pool) := Buffer.rent scratch.bytes (Cipher.encryptedLength plain.length)
    let message ← cipher.encryptInto plain buffer.room
    let buffer ← (buffer.fillAhead message).advance message.length
    let content := buffer.written
    let (_, pool) := buffer.release pool
    return (content, { scratch with bytes := pool })

/-- The buffer that rendering rents, with nothing in it yet. -/
def rented (d : Dictionary) (estimate : Nat) (scratch : Scratch) : Dictionary.Format.Writer :=
  let (out, pool) := Buffer.rent scratch.bytes (reserve d estimate)
  { out, scratch := { scratch with bytes := pool } }

/-- The buffer with the entries of a dictionary in it. -/
def filled (t : Target) (order : Arrangement) (d : Dictionary) (estimate : Nat)
    (scratch : Scratch) : Except Error Dictionary.Format.Writer :=
  (rented d estimate scratch).putEntries t.encoding (order.arrange d.entries)

/-- The content of the file for a dictionary. -/
def content (t : Target) (order : Arrangement) (d : Dictionary) (estimate : Nat)
    (scratch : Scratch) : Except Error (Bytes × Scratch) := do
  let w ← t.filled order d estimate scratch
  let (content, scratch) ← t.sealed w.out.written w.scratch
  let (_, pool) := w.out.release scratch.bytes
  return (content, { scratch with bytes := pool })

/-- A numbered snapshot of a dictionary. The number is used up even if rendering fails. -/
def render (t : Target) (order : Arrangement) (d : Dictionary) (estimate : Nat)
    (scratch : Scratch) : Except Error Snapshot × Target × Scratch :=
  let t := { t with rendered := t.rendered + 1 }
  match t.content order d estimate scratch with
  | .ok (bytes, scratch) => (.ok { number := t.rendered, bytes }, t, scratch)
  | .error e => (.error e, t, scratch)

/-! ## Writing -/

/-- Puts a snapshot into the file unless a later one is there already. -/
def commit (t : Target) (s : Snapshot) (d : Disk) : Except Error Unit × Target × Disk :=
  if s.number < t.committed then (.ok (), t, d)
  else
    match d.replace t.path s.bytes with
    | .ok d => (.ok (), { t with committed := s.number }, d)
    | .error f => (.error (.io f), t, d)

/-- Writes a snapshot. Cancelling takes effect after the new file has been started and before it
replaces the old one. -/
def write (t : Target) (s : Snapshot) (cancelled : Bool) (d : Disk) :
    Except Error Unit × Target × Disk :=
  if t.degraded then (.error (t.fault .undecryptable), t, d)
  else
    match d.checkBeside t.path with
    | .error f => (.error (.io f), t, d)
    | .ok () => if cancelled then (.error .cancelled, t, d) else t.commit s d

/-! ## Loading -/

/-- Reads a content to its end through a buffer, as much at a time as the buffer has room for. -/
def readThrough (buffer : Buffer UInt8) (pool : Pool UInt8) (content : Bytes) :
    Buffer UInt8 × Pool UInt8 :=
  let reserved := buffer.reserve pool readChunk
  let n := min content.length (max reserved.1.room 1)
  if h : content = [] then reserved
  else
    let filled := reserved.1.fillAhead (content.take n)
    have : (content.drop n).length < content.length := by
      have := List.length_pos_iff.mpr h
      simp only [List.length_drop, n]
      omega
    readThrough { filled with length := filled.length + n } reserved.2 (content.drop n)
termination_by content.length

/-- The dictionary in the content of the file, and whether the archive is degraded by it. -/
def decodeContent (t : Target) (content : Bytes) : Except Error (Dictionary × Bool) :=
  let decode (plain : Bytes) : Except Error (Dictionary × Bool) :=
    match Dictionary.Format.decode t.encoding t.comparer plain with
    | .ok d => .ok (d, false)
    | .error f => .error (t.fault f)
  if content.isEmpty then .ok (.empty t.comparer, false)
  else
    match t.cipher with
    | none => decode content
    | some cipher =>
      if content.length % Cipher.blockSize ≠ 0 then
        let ragged := content.length % Cipher.blockSize
        .error (t.fault (.truncated content.length (Cipher.blockSize - ragged)))
      else
        match cipher.decryptInto content content.length with
        | .ok plain => decode plain
        | .error _ =>
          if t.strict then .error (t.fault .undecryptable)
          else .ok (.empty t.comparer, true)

/-- Loads the file; a missing one is empty. Cancelling takes effect once the file is open. -/
def load (t : Target) (cancelled : Bool) (estimate : Nat) (d : Disk) (scratch : Scratch) :
    Except Error Dictionary × Target × Scratch :=
  let t := { t with degraded := false }
  match d.stat t.path with
  | .error .notFound => (.ok (.empty t.comparer), t, scratch)
  | .error f => (.error (.io f), t, scratch)
  | .ok node =>
    if cancelled then (.error .cancelled, t, scratch)
    else
      match node with
      | .folder => (.error (.io .isDirectory), t, scratch)
      | .file content =>
        let (buffer, pool) := Buffer.rent scratch.bytes (max estimate readChunk)
        let (buffer, pool) := readThrough buffer pool content
        let raw := buffer.written
        let (_, pool) := buffer.release pool
        let scratch := { scratch with bytes := pool }
        match t.decodeContent raw with
        | .ok (entries, degraded) => (.ok entries, { t with degraded }, scratch)
        | .error e => (.error e, t, scratch)

end Target

/-! ## With or without a file -/

/-- An archive with or without a file. -/
inductive Archive where
  | disabled
  | file (target : Target)
  deriving Repr, DecidableEq

namespace Archive

/-- The archive of a configuration. The folder of its file is made if it is missing. -/
def ofConfig (c : Config) (d : Disk) : Except Error Archive × Disk :=
  match c.filePath with
  | none => (.ok .disabled, d)
  | some path =>
    let folder := Path.folder path
    let (made, d) := if d.isThere folder then (.ok (), d) else d.makeTree folder
    match made with
    | .error f => (.error (.io f), d)
    | .ok () =>
      let target (cipher : Option Cipher) : Archive :=
        .file { path, comparer := c.comparer, encoding := c.encoding, cipher, strict := c.strict }
      match c.activePassphrase with
      | none => (.ok (target none), d)
      | some passphrase =>
        match Cipher.ofPassphrase passphrase with
        | .ok cipher => (.ok (target (some cipher)), d)
        | .error e => (.error e, d)

/-- The file, if there is one. -/
def target? : Archive → Option Target
  | .disabled => none
  | .file t => some t

/-- The path of the file. -/
def path (a : Archive) : Option String := a.target?.map (·.path)

/-- Is the file encrypted? -/
def isEncrypted (a : Archive) : Bool := (a.target?.bind (·.cipher)).isSome

/-- Does the archive refuse to write? -/
def isDegraded (a : Archive) : Bool := (a.target?.map (·.degraded)).getD false

/-- The comparer of the dictionaries it loads; without a file the caller's choice counts. -/
def comparer (a : Archive) (ignoreCase : Bool) : Comparer :=
  match a with
  | .disabled => .ofIgnoreCase ignoreCase
  | .file t => t.comparer

/-- A snapshot of a dictionary; none without a file. -/
def render (a : Archive) (order : Arrangement) (d : Dictionary) (estimate : Nat)
    (scratch : Scratch) : Except Error (Option Snapshot) × Archive × Scratch :=
  match a with
  | .disabled => (.ok none, .disabled, scratch)
  | .file t =>
    let (result, t, scratch) := t.render order d estimate scratch
    (result.map some, .file t, scratch)

/-- Writes a snapshot; without a file nothing happens. -/
def write (a : Archive) (s : Snapshot) (cancelled : Bool) (d : Disk) :
    Except Error Unit × Archive × Disk :=
  match a with
  | .disabled => (.ok (), .disabled, d)
  | .file t =>
    let (result, t, d) := t.write s cancelled d
    (result, .file t, d)

/-- Renders and writes a dictionary. -/
def save (a : Archive) (order : Arrangement) (entries : Dictionary) (estimate : Nat)
    (scratch : Scratch) (d : Disk) : Except Error Unit × Archive × Scratch × Disk :=
  match a.render order entries estimate scratch with
  | (.error e, a, scratch) => (.error e, a, scratch, d)
  | (.ok none, a, scratch) => (.ok (), a, scratch, d)
  | (.ok (some s), a, scratch) =>
    let (result, a, d) := a.write s false d
    (result, a, scratch, d)

/-- Loads the dictionary; without a file it is empty. -/
def load (a : Archive) (cancelled : Bool) (estimate : Nat) (ignoreCase : Bool) (d : Disk)
    (scratch : Scratch) : Except Error Dictionary × Archive × Scratch :=
  match a with
  | .disabled => (.ok (.empty (a.comparer ignoreCase)), .disabled, scratch)
  | .file t =>
    let (result, t, scratch) := t.load cancelled estimate d scratch
    (result, .file t, scratch)

end Archive

end Coffer
