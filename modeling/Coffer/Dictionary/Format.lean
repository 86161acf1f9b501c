import Coffer.Buffer.Basic
import Coffer.Dictionary.Basic

/-!
# The dictionary as bytes

The byte form of a dictionary, all numbers with the low byte first:

* the number of entries, in four bytes;
* for each entry the length of its key in bytes (four bytes), the key in the file's encoding, the
  length of its value (four bytes, signed), the value. An absent value has the length -1 and no
  bytes.

Nothing else: no byte may follow. The entries may stand in any order.

## Writing

The form is written into a buffer piece by piece. Keys in UTF-16 are first turned into units in a
buffer of their own, which is rented with one unit for each UTF-8 byte: no character has more units
than bytes.

## Reading

A cursor carries the rest of the bytes and how many came before it, so each fault tells its offset.
The count at the front is only believed entry by entry: an entry needs at least its two lengths, so
a count that is too large ends the reading early.
-/

namespace Coffer

/-- The pools that writing and reading rent their buffers from. -/
structure Scratch where
  bytes : Pool UInt8 := {}
  units : Pool UInt16 := {}

instance : Inhabited Scratch := ⟨{}⟩

namespace Dictionary.Format

/-- The bytes of an entry besides its key and its value. -/
def entryOverhead : Nat := 8

/-- The bytes of the form besides its entries. -/
def headerSize : Nat := 4

/-- The length of an absent value, as the unsigned number of the same four bytes. -/
def absentMark : Nat := Bytes.bound 4 - 1

/-! ## Writing -/

/-- A buffer being written, and the pools it draws on. -/
structure Writer where
  out : Buffer UInt8
  scratch : Scratch

namespace Writer

/-- Appends bytes. -/
def put (w : Writer) (b : Bytes) : Writer :=
  let (out, pool) := w.out.append w.scratch.bytes b
  { out, scratch := { w.scratch with bytes := pool } }

/-- Appends a number in four bytes. -/
def putNumber (w : Writer) (n : Nat) : Writer := w.put (Bytes.ofNat 4 n)

/-- Appends the length of a key in bytes, if four bytes can hold it. -/
def putKeyLength (w : Writer) (n : Nat) : Except Error Writer :=
  if n < Bytes.bound 4 then .ok (w.putNumber n) else .error (.invalidArgument .keyTooLong)

/-- The units of a key, collected in a buffer that has a unit for each of the key's bytes. -/
def unitsOfKey (w : Writer) (key : String) : Except Error (List UInt16 × Writer) := do
  let units := Text.Utf16.units key
  let (buffer, pool) := Buffer.rent w.scratch.units key.utf8ByteSize
  let buffer ← (buffer.fillAhead units).advance (min units.length buffer.room)
  let collected := buffer.written
  let (_, pool) := buffer.release pool
  return (collected, { w with scratch := { w.scratch with units := pool } })

/-- Appends a key and its length. -/
def putKey (w : Writer) (encoding : KeyEncoding) (key : String) : Except Error Writer :=
  match encoding with
  | .utf8 => do
    let w ← w.putKeyLength (Text.Utf8.encode key).length
    return w.put (Text.Utf8.encode key)
  | .utf16 => do
    let (units, w) ← w.unitsOfKey key
    let w ← w.putKeyLength (2 * units.length)
    return w.put (Text.Utf16.toBytes units)

/-- Appends a value and its length. -/
def putValue (w : Writer) (e : Entry) : Except Error Writer :=
  match e.value with
  | none => .ok (w.putNumber absentMark)
  | some value =>
    if 2 * value.length < Bytes.bound 4 then .ok ((w.putNumber value.length).put value)
    else .error (.invalidArgument (.valueTooLong e.key))

/-- Appends an entry. -/
def putEntry (encoding : KeyEncoding) (w : Writer) (e : Entry) : Except Error Writer := do
  let w ← w.putKey encoding e.key
  w.putValue e

/-- **Appends the byte form of a list of entries.** -/
def putEntries (w : Writer) (encoding : KeyEncoding) (es : List Entry) : Except Error Writer :=
  if es.length < Bytes.bound 4 then es.foldlM (putEntry encoding) (w.putNumber es.length)
  else .error (.invalidArgument .tooManyEntries)

end Writer

/-! ## Reading -/

/-- A place in a byte string: how much came before it, and the rest. -/
structure Cursor where
  offset : Nat
  rest : Bytes

namespace Cursor

/-- The next `n` bytes, and the place after them. -/
def take (c : Cursor) (n : Nat) : Except FormatFault (Bytes × Cursor) :=
  let part := c.rest.take n
  if part.length = n then .ok (part, { offset := c.offset + n, rest := c.rest.drop n })
  else .error (.truncated c.offset (n - part.length))

/-- The number in the next four bytes. -/
def number (c : Cursor) : Except FormatFault (Nat × Cursor) := do
  let (raw, c) ← c.take 4
  return (Bytes.toNat raw, c)

/-- The next key. Its fault tells where its length stands. -/
def key (encoding : KeyEncoding) (c : Cursor) : Except FormatFault (String × Cursor) := do
  let (length, d) ← c.number
  let (raw, d) ← d.take length
  match encoding.decode? raw with
  | some key => .ok (key, d)
  | none => .error (.invalidKey c.offset encoding)

/-- The next value, which may be absent. -/
def value (c : Cursor) : Except FormatFault (Option Bytes × Cursor) := do
  let (length, d) ← c.number
  if length = absentMark then
    return (none, d)
  else if 2 * length < Bytes.bound 4 then do
    let (raw, d) ← d.take length
    return (some raw, d)
  else
    .error (.invalidLength c.offset (Bytes.signed32 length))

/-- The next entry. -/
def entry (encoding : KeyEncoding) (c : Cursor) : Except FormatFault (Entry × Cursor) := do
  let (key, c) ← c.key encoding
  let (value, c) ← c.value
  return ({ key, value }, c)

/-- The next `count` entries. -/
def entries (encoding : KeyEncoding) : (count : Nat) → Cursor →
    Except FormatFault (List Entry × Cursor)
  | 0, c => .ok ([], c)
  | count + 1, c => do
    let (e, c) ← c.entry encoding
    let (es, c) ← entries encoding count c
    return (e :: es, c)

end Cursor

/-- The entries whose byte form the bytes are. -/
def read (encoding : KeyEncoding) (b : Bytes) : Except FormatFault (List Entry) := do
  let (count, c) ← Cursor.number { offset := 0, rest := b }
  let (es, c) ← c.entries encoding count
  if c.rest.isEmpty then return es else .error (.trailingBytes c.rest.length)

/-- **The dictionary whose byte form the bytes are.** Entries whose keys are equal under the
comparer become one. -/
def decode (encoding : KeyEncoding) (comparer : Comparer) (b : Bytes) :
    Except FormatFault Dictionary :=
  (read encoding b).map (ofEntries comparer)

end Dictionary.Format

end Coffer
