import Coffer.Text.Utf8
import Coffer.Value.Codec

/-!
# Layouts

A layout writes values one after the other without separators: each kind of value says by itself
where it ends, by its fixed width or by a length in front. Numbers have fixed width and their least
significant byte first. So the layouts of parts combine to the layout of the whole, and a reader
hands on the bytes that it leaves over.

Reading is the inverse of writing whatever follows (`Layout.Faithful`), for every layout here:
`word`, `flag`, `text`, `seq`, `option`, `pair` and what `imap` makes of them.

## Codecs

The codec of a layout ignores bytes that are left over after the value. Several values are laid out
as a sequence, their number first.
-/

namespace Coffer

/-- How the values of a type are laid out. Some values may have no byte form. -/
structure Layout (α : Type) where
  write : α → Option Bytes
  read : Bytes → Option (α × Bytes)

namespace Layout

variable {α β : Type}

/-- What a layout writes is read back as the same value, and what follows is left over. -/
def Faithful (l : Layout α) : Prop :=
  ∀ v b, l.write v = some b → ∀ rest, l.read (b ++ rest) = some (v, rest)

/-! ## Single values -/

/-- The first `n` bytes and the rest, if there are as many. -/
def splitAt? (n : Nat) (b : Bytes) : Option (Bytes × Bytes) :=
  let head := b.take n
  if head.length = n then some (head, b.drop n) else none

theorem splitAt?_append (b rest : Bytes) : splitAt? b.length (b ++ rest) = some (b, rest) := by
  simp [splitAt?]

/-- Numbers of `width` bytes. A greater number has no byte form. -/
def word (width : Nat) : Layout Nat where
  write n := if n < Bytes.bound width then some (Bytes.ofNat width n) else none
  read b := (splitAt? width b).map fun (head, rest) => (head.toNat, rest)

theorem word_faithful (width : Nat) : (word width).Faithful := by
  intro n b h rest
  simp only [word, Option.ite_none_right_eq_some, Option.some.injEq] at h
  obtain ⟨hn, rfl⟩ := h
  have hsplit := splitAt?_append (Bytes.ofNat width n) rest
  rw [Bytes.length_ofNat] at hsplit
  simp [word, hsplit, Bytes.toNat_ofNat width n hn]

/-- The layout of a type whose values are those of another in a different guise. -/
def imap (l : Layout α) (guise : α → β) (bare : β → α) : Layout β where
  write v := l.write (bare v)
  read b := (l.read b).map fun (v, rest) => (guise v, rest)

theorem imap_faithful {l : Layout α} {guise : α → β} {bare : β → α} (hl : l.Faithful)
    (h : ∀ v, guise (bare v) = v) : (l.imap guise bare).Faithful := by
  intro v b hw rest
  simp [imap, hl _ _ hw rest, h]

/-- Unsigned numbers of one byte. -/
def u8 : Layout UInt8 := (word 1).imap UInt8.ofNat UInt8.toNat

/-- Unsigned numbers of two bytes. -/
def u16 : Layout UInt16 := (word 2).imap UInt16.ofNat UInt16.toNat

/-- Unsigned numbers of four bytes. -/
def u32 : Layout UInt32 := (word 4).imap UInt32.ofNat UInt32.toNat

/-- Unsigned numbers of eight bytes. -/
def u64 : Layout UInt64 := (word 8).imap UInt64.ofNat UInt64.toNat

/-- Signed numbers of four bytes, in two's complement. -/
def i32 : Layout Int32 := u32.imap UInt32.toInt32 Int32.toUInt32

/-- Signed numbers of eight bytes, in two's complement. -/
def i64 : Layout Int64 := u64.imap UInt64.toInt64 Int64.toUInt64

/-- Truth values: one byte, 0 or 1. -/
def flag : Layout Bool where
  write v := some [if v then 1 else 0]
  read
    | 0 :: rest => some (false, rest)
    | 1 :: rest => some (true, rest)
    | _ => none

theorem flag_faithful : flag.Faithful := by
  intro v b h rest
  cases v <;> simp_all [flag] <;> subst h <;> rfl

/-- Texts: the number of bytes in eight bytes, then the text in UTF-8. -/
def text : Layout String where
  write s := ((word 8).write (Text.Utf8.encode s).length).map (· ++ Text.Utf8.encode s)
  read b := do
    let (size, b) ← (word 8).read b
    let (head, rest) ← splitAt? size b
    let s ← Text.Utf8.decode? head
    return (s, rest)

theorem text_faithful : text.Faithful := by
  intro s b h rest
  obtain ⟨size, hsize, rfl⟩ := Option.map_eq_some_iff.mp h
  have hread := word_faithful 8 _ _ hsize (Text.Utf8.encode s ++ rest)
  simp [text, List.append_assoc, hread, splitAt?_append, Text.Utf8.decode?_encode]

/-! ## Values in several parts -/

/-- Values one after the other. -/
def writeAll (l : Layout α) : List α → Option Bytes
  | [] => some []
  | v :: rest => do
    let head ← l.write v
    let tail ← writeAll l rest
    return head ++ tail

/-- As many values as `n`, one after the other. -/
def readAll (l : Layout α) : (n : Nat) → Bytes → Option (List α × Bytes)
  | 0, b => some ([], b)
  | n + 1, b => do
    let (v, b) ← l.read b
    let (vs, rest) ← readAll l n b
    return (v :: vs, rest)

theorem readAll_writeAll {l : Layout α} (hl : l.Faithful) {vs : List α} {b : Bytes}
    (h : writeAll l vs = some b) (rest : Bytes) :
    readAll l vs.length (b ++ rest) = some (vs, rest) := by
  induction vs generalizing b with
  | nil =>
    cases h
    rfl
  | cons v vs ih =>
    simp only [writeAll, Option.bind_eq_bind, Option.bind_eq_some_iff] at h
    obtain ⟨head, hhead, tail, htail, hb⟩ := h
    cases hb
    simp [readAll, List.append_assoc, hl v head hhead (tail ++ rest), ih htail]

/-- Sequences: the number of values in eight bytes, then the values. -/
def seq (l : Layout α) : Layout (List α) where
  write vs := do
    let count ← (word 8).write vs.length
    let body ← writeAll l vs
    return count ++ body
  read b := do
    let (n, b) ← (word 8).read b
    readAll l n b

theorem seq_faithful {l : Layout α} (hl : l.Faithful) : l.seq.Faithful := by
  intro vs b h rest
  simp only [seq, Option.bind_eq_bind, Option.bind_eq_some_iff] at h
  obtain ⟨count, hcount, body, hbody, hb⟩ := h
  cases hb
  have hread := word_faithful 8 _ _ hcount (body ++ rest)
  simp [seq, List.append_assoc, hread, readAll_writeAll hl hbody]

/-- Values that may be missing: a byte 0, or a byte 1 and the value. -/
def option (l : Layout α) : Layout (Option α) where
  write
    | none => some [0]
    | some v => (l.write v).map (1 :: ·)
  read
    | 0 :: rest => some (none, rest)
    | 1 :: b => (l.read b).map fun (v, rest) => (some v, rest)
    | _ => none

theorem option_faithful {l : Layout α} (hl : l.Faithful) : l.option.Faithful := by
  intro v b h rest
  cases v with
  | none =>
    cases h
    rfl
  | some v =>
    obtain ⟨body, hbody, rfl⟩ := Option.map_eq_some_iff.mp h
    simp [option, hl v body hbody rest]

/-- Pairs: the first part, then the second. -/
def pair (l : Layout α) (m : Layout β) : Layout (α × β) where
  write v := do
    let head ← l.write v.1
    let tail ← m.write v.2
    return head ++ tail
  read b := do
    let (v, b) ← l.read b
    let (w, rest) ← m.read b
    return ((v, w), rest)

theorem pair_faithful {l : Layout α} {m : Layout β} (hl : l.Faithful) (hm : m.Faithful) :
    (l.pair m).Faithful := by
  intro v b h rest
  simp only [pair, Option.bind_eq_bind, Option.bind_eq_some_iff] at h
  obtain ⟨head, hhead, tail, htail, hb⟩ := h
  cases hb
  simp [pair, List.append_assoc, hl v.1 head hhead, hm v.2 tail htail]

/-! ## Codecs -/

/-- The bytes of a value, or the error that it has none. -/
def encode (l : Layout α) (v : α) : Except Error Bytes :=
  match l.write v with
  | some b => .ok b
  | none => .error (.codec "the value has no byte form")

/-- The value at the start of bytes, or the error that there is none. -/
def decode (l : Layout α) (b : Bytes) : Except Error α :=
  match l.read b with
  | some (v, _) => .ok v
  | none => .error (.codec "the bytes are no value of the type")

/-- **The codec of a layout.** -/
def codec (l : Layout α) : Codec α where
  encode := l.encode
  decode := l.decode
  encodeMany := l.seq.encode
  decodeMany := l.seq.decode

/-- A faithful layout decodes what it encodes. -/
theorem decode_encode {l : Layout α} (hl : l.Faithful) {v : α} {b : Bytes}
    (h : l.encode v = .ok b) : l.decode b = .ok v := by
  unfold encode at h
  split at h
  · rename_i bytes hw
    cases h
    have hread := hl v _ hw []
    rw [List.append_nil] at hread
    simp [decode, hread]
  · cases h

end Layout

end Coffer
