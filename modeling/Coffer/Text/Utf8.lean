import Coffer.Bytes

/-!
# UTF-8

Texts as bytes and back. Reading accepts exactly what writing produces (`decode?_eq_some_iff`), so a
byte string has at most one text. When it has none, `firstFault` tells where the first sequence goes
wrong, for the message.

## The scan for the first fault

The scan carries the ranges in which the next bytes of the current sequence must lie. The lead byte
sets them, each following byte uses one up, and there is no looking back: one pass over the list.
-/

namespace Coffer.Text.Utf8

/-- The UTF-8 form of a text. -/
def encode (s : String) : Bytes := s.toUTF8.data.toList

/-- The number of bytes of a text in UTF-8. -/
def size (s : String) : Nat := s.utf8ByteSize

/-- The text whose UTF-8 form the bytes are, if there is one. -/
def decode? (b : Bytes) : Option String := String.fromUTF8? ⟨b.toArray⟩

/-- Reading accepts exactly what writing produces. -/
theorem decode?_eq_some_iff {b : Bytes} {s : String} : decode? b = some s ↔ b = encode s := by
  unfold decode? encode String.fromUTF8?
  constructor
  · intro h
    split at h
    · have h' := Option.some.inj h
      subst h'
      rfl
    · cases h
  · intro h
    subst h
    have hs : (⟨s.toUTF8.data.toList.toArray⟩ : ByteArray) = s.toUTF8 := rfl
    have hv : s.toUTF8.IsValidUTF8 := s.isValidUTF8
    rw [hs, dif_pos hv]
    rfl

theorem decode?_encode (s : String) : decode? (encode s) = some s := decode?_eq_some_iff.mpr rfl

theorem encode_injective {s t : String} (h : encode s = encode t) : s = t := by
  have hs := decode?_encode s
  rw [h, decode?_encode t] at hs
  exact (Option.some.inj hs).symm

/-! ## Faults -/

/-- The first sequence of a byte string that is no character. -/
structure Fault where
  /-- Where the sequence starts. -/
  start : Nat
  /-- How many bytes of it are well formed, at least the first; none if the bytes end inside it. -/
  width : Option Nat
  deriving Repr, DecidableEq

/-- What is wrong, in words. -/
def Fault.message (f : Fault) : String :=
  match f.width with
  | some n => s!"invalid utf-8 sequence of {n} bytes from index {f.start}"
  | none => s!"incomplete utf-8 byte sequence from index {f.start}"

/-- The ranges of the bytes that must follow a lead byte; none if the byte leads nothing. -/
def followers (lead : UInt8) : Option (List (UInt8 × UInt8)) :=
  if lead < 0x80 then some []
  else if lead < 0xC2 then none
  else if lead < 0xE0 then some [(0x80, 0xBF)]
  else if lead = 0xE0 then some [(0xA0, 0xBF), (0x80, 0xBF)]
  else if lead = 0xED then some [(0x80, 0x9F), (0x80, 0xBF)]
  else if lead < 0xF0 then some [(0x80, 0xBF), (0x80, 0xBF)]
  else if lead = 0xF0 then some [(0x90, 0xBF), (0x80, 0xBF), (0x80, 0xBF)]
  else if lead < 0xF4 then some [(0x80, 0xBF), (0x80, 0xBF), (0x80, 0xBF)]
  else if lead = 0xF4 then some [(0x80, 0x8F), (0x80, 0xBF), (0x80, 0xBF)]
  else none

/-- The first fault, where the current sequence starts at `start`, `seen` of its bytes are well
formed, and `due` are the ranges of its missing bytes. -/
def faultFrom (start seen : Nat) (due : List (UInt8 × UInt8)) : Bytes → Option Fault
  | [] => if due.isEmpty then none else some ⟨start, none⟩
  | b :: rest =>
    match due with
    | [] =>
      match followers b with
      | none => some ⟨start, some 1⟩
      | some [] => faultFrom (start + 1) 0 [] rest
      | some due => faultFrom start 1 due rest
    | [(low, high)] =>
      if low ≤ b && b ≤ high then faultFrom (start + seen + 1) 0 [] rest
      else some ⟨start, some seen⟩
    | (low, high) :: due =>
      if low ≤ b && b ≤ high then faultFrom start (seen + 1) due rest
      else some ⟨start, some seen⟩

/-- Where a byte string stops being text; none if it is text throughout. -/
def firstFault (b : Bytes) : Option Fault := faultFrom 0 0 [] b

/-- The text whose UTF-8 form the bytes are, or the first fault. -/
def decode (b : Bytes) : Except Fault String :=
  match decode? b with
  | some s => .ok s
  | none => .error ((firstFault b).getD ⟨0, none⟩)

theorem decode_eq_ok_iff {b : Bytes} {s : String} : decode b = .ok s ↔ b = encode s := by
  rw [← decode?_eq_some_iff]
  unfold decode
  split <;> simp_all

end Coffer.Text.Utf8
