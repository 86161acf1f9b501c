import Coffer.Dictionary.Format
import Coffer.Proofs.Filing
import Coffer.Proofs.Steps
import Coffer.Proofs.Utf16

/-!
# The byte form of a list of entries

The form is written down once more without a buffer and without a cursor, as a function of the
entries (`form`). Reading is then described by it: each part of the reader succeeds exactly on a
text that starts with the form of what it gives, and goes on behind it.

## How the parts fit together

`Cursor.Passes c b d` says that `d` is the place behind the bytes `b` that stand at `c`. Each part
of the reader has one law, an equivalence, and the law of a part that is made of others follows from
theirs by `passes_append`. The law of the whole reader is `read_eq_ok_iff`.
-/

namespace Coffer

namespace Bytes

/-- A signed number in four bytes, in two's complement. -/
def ofSigned32 (n : Int) : Bytes := ofNat 4 (n % bound 4).toNat

theorem ofSigned32_natCast {n : Nat} (h : 2 * n < bound 4) : ofSigned32 n = ofNat 4 n := by
  have hbound : bound 4 = 4294967296 := rfl
  have hmod : ((n : Int) % (bound 4 : Nat)).toNat = n := by
    rw [hbound]
    omega
  rw [ofSigned32, hmod]

end Bytes

namespace Dictionary.Format

/-! ## The form -/

/-- A key with its length in front. -/
def keyForm (encoding : KeyEncoding) (key : String) : Bytes :=
  Bytes.ofNat 4 (encoding.encode key).length ++ encoding.encode key

/-- The length that is noted of a value: -1 if it is absent. -/
def notedLength : Option Bytes → Int
  | none => -1
  | some value => value.length

/-- A value with its length in front. -/
def valueForm (value : Option Bytes) : Bytes :=
  Bytes.ofSigned32 (notedLength value) ++ value.getD []

/-- An entry: the key, then the value. -/
def entryForm (encoding : KeyEncoding) (e : Entry) : Bytes :=
  keyForm encoding e.key ++ valueForm e.value

/-- **The byte form of a list of entries**: how many there are, then one after the other. -/
def form (encoding : KeyEncoding) (es : List Entry) : Bytes :=
  Bytes.ofNat 4 es.length ++ es.flatMap (entryForm encoding)

/-- Four bytes hold the length of the key, and of the value with a sign. -/
structure Fits (encoding : KeyEncoding) (e : Entry) : Prop where
  key : (encoding.encode e.key).length < Bytes.bound 4
  value : 2 * e.bytes.length < Bytes.bound 4

/-- The entries can be counted and measured in four bytes each. -/
structure Encodable (encoding : KeyEncoding) (es : List Entry) : Prop where
  count : es.length < Bytes.bound 4
  fits : ∀ e ∈ es, Fits encoding e

theorem valueForm_none : valueForm none = Bytes.ofNat 4 absentMark := rfl

theorem valueForm_some {value : Bytes} (h : 2 * value.length < Bytes.bound 4) :
    valueForm (some value) = Bytes.ofNat 4 value.length ++ value := by
  rw [valueForm, notedLength, Bytes.ofSigned32_natCast h, Option.getD_some]

theorem length_entryForm (encoding : KeyEncoding) (e : Entry) :
    (entryForm encoding e).length
      = entryOverhead + (encoding.encode e.key).length + e.bytes.length := by
  simp only [entryForm, keyForm, valueForm, Bytes.ofSigned32, List.length_append,
    Bytes.length_ofNat, entryOverhead, Entry.bytes]
  omega

/-! ## Places -/

namespace Cursor

variable {c d : Cursor}

/-- The bytes `b` stand at `c`, and `d` is the place behind them. -/
structure Passes (c : Cursor) (b : Bytes) (d : Cursor) : Prop where
  rest : c.rest = b ++ d.rest
  offset : d.offset = c.offset + b.length

theorem passes_nil : c.Passes [] d ↔ c = d := by
  constructor
  · rintro ⟨hrest, hoffset⟩
    cases c
    cases d
    simp_all
  · rintro rfl
    exact ⟨rfl, rfl⟩

/-- To pass two byte strings is to pass the first and then the second. -/
theorem passes_append {a b : Bytes} :
    c.Passes (a ++ b) d ↔ ∃ m : Cursor, c.Passes a m ∧ m.Passes b d := by
  constructor
  · rintro ⟨hrest, hoffset⟩
    refine ⟨{ offset := c.offset + a.length, rest := b ++ d.rest }, ⟨?_, rfl⟩, ⟨rfl, ?_⟩⟩
    · rw [hrest, List.append_assoc]
    · rw [hoffset, List.length_append, Nat.add_assoc]
  · rintro ⟨m, ha, hb⟩
    refine ⟨?_, ?_⟩
    · rw [ha.rest, hb.rest, List.append_assoc]
    · rw [hb.offset, ha.offset, List.length_append, Nat.add_assoc]

/-! ## What each part of the reader accepts -/

variable {encoding : KeyEncoding}

theorem take_eq_ok_iff {n : Nat} {part : Bytes} :
    c.take n = .ok (part, d) ↔ part.length = n ∧ c.Passes part d := by
  unfold take
  simp only
  constructor
  · intro h
    split at h
    · next hlen =>
      cases h
      refine ⟨hlen, ⟨(List.take_append_drop n c.rest).symm, ?_⟩⟩
      show c.offset + n = _
      rw [hlen]
    · cases h
  · rintro ⟨rfl, hrest, hoffset⟩
    have htake : c.rest.take part.length = part := by rw [hrest, List.take_left]
    have hdrop : c.rest.drop part.length = d.rest := by rw [hrest, List.drop_left]
    rw [htake, hdrop, if_pos rfl, ← hoffset]

theorem number_eq_ok_iff {n : Nat} :
    c.number = .ok (n, d) ↔ n < Bytes.bound 4 ∧ c.Passes (Bytes.ofNat 4 n) d := by
  simp only [number, bind_eq_ok_iff, Prod.exists, take_eq_ok_iff, pure_eq_ok, Except.ok.injEq,
    Prod.mk.injEq]
  constructor
  · rintro ⟨raw, e, ⟨hlen, hpasses⟩, rfl, rfl⟩
    have hform := Bytes.ofNat_toNat raw
    rw [hlen] at hform
    exact ⟨hlen ▸ Bytes.toNat_lt raw, by rw [hform]; exact hpasses⟩
  · rintro ⟨hn, hpasses⟩
    exact ⟨_, d, ⟨Bytes.length_ofNat 4 n, hpasses⟩, Bytes.toNat_ofNat 4 n hn, rfl⟩

theorem key_eq_ok_iff {key : String} :
    c.key encoding = .ok (key, d) ↔
      (encoding.encode key).length < Bytes.bound 4 ∧ c.Passes (keyForm encoding key) d := by
  simp only [Cursor.key, bind_eq_ok_iff, Prod.exists, number_eq_ok_iff, take_eq_ok_iff, keyForm,
    passes_append]
  constructor
  · rintro ⟨n, m, ⟨hn, hm⟩, raw, m', ⟨hlen, hraw⟩, h⟩
    split at h
    · next key' hkey =>
      cases h
      have hform := encoding.decode?_eq_some_iff.mp hkey
      subst hform hlen
      exact ⟨hn, m, hm, hraw⟩
    · cases h
  · rintro ⟨hn, m, hm, hraw⟩
    refine ⟨_, m, ⟨hn, hm⟩, _, d, ⟨rfl, hraw⟩, ?_⟩
    rw [encoding.decode?_eq_some_iff.mpr rfl]

theorem value_eq_ok_iff {value : Option Bytes} :
    c.value = .ok (value, d) ↔
      2 * (value.getD []).length < Bytes.bound 4 ∧ c.Passes (valueForm value) d := by
  simp only [Cursor.value, bind_eq_ok_iff, Prod.exists, number_eq_ok_iff]
  constructor
  · rintro ⟨n, m, ⟨hn, hm⟩, h⟩
    split at h
    · next habsent =>
      cases h
      rw [valueForm_none, ← habsent]
      exact ⟨by decide, hm⟩
    · split at h
      · next hlen =>
        obtain ⟨⟨raw, m'⟩, hraw, h⟩ := bind_eq_ok_iff.mp h
        cases h
        obtain ⟨rfl, hpasses⟩ := take_eq_ok_iff.mp hraw
        rw [valueForm_some hlen]
        exact ⟨hlen, passes_append.mpr ⟨m, hm, hpasses⟩⟩
      · cases h
  · rintro ⟨hlen, hpasses⟩
    cases value with
    | none => exact ⟨absentMark, d, ⟨by decide, hpasses⟩, by rw [if_pos rfl]; rfl⟩
    | some raw =>
      rw [Option.getD_some] at hlen
      rw [valueForm_some hlen] at hpasses
      obtain ⟨m, hm, hraw⟩ := passes_append.mp hpasses
      -- the mark of absence is larger than any length that fits
      have hmark : raw.length ≠ absentMark := by
        have hvalue : absentMark = 4294967295 := rfl
        have hbound : Bytes.bound 4 = 4294967296 := rfl
        omega
      refine ⟨raw.length, m, ⟨by omega, hm⟩, ?_⟩
      rw [if_neg hmark, if_pos hlen, take_eq_ok_iff.mpr ⟨rfl, hraw⟩]
      rfl

theorem entry_eq_ok_iff {e : Entry} :
    c.entry encoding = .ok (e, d) ↔ Fits encoding e ∧ c.Passes (entryForm encoding e) d := by
  simp only [Cursor.entry, bind_eq_ok_iff, Prod.exists, key_eq_ok_iff, value_eq_ok_iff, pure_eq_ok,
    Except.ok.injEq, Prod.mk.injEq, entryForm, passes_append]
  constructor
  · rintro ⟨key, m, ⟨hkey, hm⟩, value, m', ⟨hvalue, hd⟩, rfl, rfl⟩
    exact ⟨⟨hkey, hvalue⟩, m, hm, hd⟩
  · rintro ⟨⟨hkey, hvalue⟩, m, hm, hd⟩
    exact ⟨e.key, m, ⟨hkey, hm⟩, e.value, d, ⟨hvalue, hd⟩, rfl, rfl⟩

/-- The entries follow each other, as many as were asked for. -/
theorem entries_eq_ok_iff {count : Nat} {es : List Entry} :
    c.entries encoding count = .ok (es, d) ↔
      es.length = count ∧ (∀ e ∈ es, Fits encoding e)
        ∧ c.Passes (es.flatMap (entryForm encoding)) d := by
  induction count generalizing c d es with
  | zero =>
    simp only [Cursor.entries, Except.ok.injEq, Prod.mk.injEq, List.length_eq_zero_iff]
    constructor
    · rintro ⟨rfl, rfl⟩
      exact ⟨rfl, by simp, passes_nil.mpr rfl⟩
    · rintro ⟨rfl, -, hpasses⟩
      exact ⟨rfl, passes_nil.mp hpasses⟩
  | succ count ih =>
    simp only [Cursor.entries, bind_eq_ok_iff, Prod.exists, entry_eq_ok_iff, ih, pure_eq_ok,
      Except.ok.injEq, Prod.mk.injEq]
    constructor
    · rintro ⟨e, m, ⟨he, hm⟩, rest, m', ⟨hcount, hfits, hrest⟩, rfl, rfl⟩
      refine ⟨by rw [List.length_cons, hcount], ?_, ?_⟩
      · simpa using ⟨he, hfits⟩
      · rw [List.flatMap_cons]
        exact passes_append.mpr ⟨m, hm, hrest⟩
    · rintro ⟨hcount, hfits, hpasses⟩
      cases es with
      | nil => cases hcount
      | cons e rest =>
        rw [List.flatMap_cons] at hpasses
        obtain ⟨m, hm, hrest⟩ := passes_append.mp hpasses
        rw [List.forall_mem_cons] at hfits
        exact ⟨e, m, ⟨hfits.1, hm⟩, rest, d, ⟨Nat.succ.inj hcount, hfits.2, hrest⟩, rfl, rfl⟩

end Cursor

/-- **The reader accepts the forms of lists of entries, and nothing else.** -/
theorem read_eq_ok_iff {encoding : KeyEncoding} {b : Bytes} {es : List Entry} :
    read encoding b = .ok es ↔ Encodable encoding es ∧ b = form encoding es := by
  simp only [read, bind_eq_ok_iff, Prod.exists, Cursor.number_eq_ok_iff, Cursor.entries_eq_ok_iff]
  constructor
  · rintro ⟨count, c, ⟨hcount, hc⟩, es', d, ⟨rfl, hfits, hd⟩, h⟩
    split at h
    · next hend =>
      cases h
      have hb : b = Bytes.ofNat 4 es.length ++ c.rest := hc.rest
      refine ⟨⟨hcount, hfits⟩, ?_⟩
      rw [form, hb, hd.rest, List.isEmpty_iff.mp hend, List.append_nil]
    · cases h
  · rintro ⟨⟨hcount, hfits⟩, rfl⟩
    -- the whole form leads to the place behind it, where nothing is left over
    obtain ⟨c, hc, hd⟩ := Cursor.passes_append.mp
      (show Cursor.Passes { offset := 0, rest := form encoding es } (form encoding es)
        { offset := (form encoding es).length, rest := [] } from ⟨by simp, by simp⟩)
    exact ⟨es.length, c, ⟨hcount, hc⟩, es, _, ⟨rfl, hfits, hd⟩, rfl⟩

theorem decode_form {encoding : KeyEncoding} {es : List Entry} (h : Encodable encoding es)
    (c : Comparer) : decode encoding c (form encoding es) = .ok (ofEntries c es) := by
  rw [decode, read_eq_ok_iff.mpr ⟨h, rfl⟩]
  rfl

/-- What is decoded is orderly and has the comparer that was asked for. -/
theorem orderly_of_decode {encoding : KeyEncoding} {c : Comparer} {b : Bytes} {d : Dictionary}
    (h : decode encoding c b = .ok d) : d.Orderly ∧ d.comparer = c := by
  obtain ⟨es, -, rfl⟩ := map_eq_ok_iff.mp h
  exact ⟨.ofEntries c es, comparer_ofEntries c es⟩

/-- **The bytes that are a dictionary are the byte forms of lists of entries.** The dictionary is
the list filed entry by entry: of the entries whose keys are equal under the comparer it keeps the
first spelling and the last value. -/
theorem decode_accepts_forms (encoding : KeyEncoding) (c : Comparer) (b : Bytes)
    (d : Dictionary) :
    decode encoding c b = .ok d ↔
      ∃ es, Encodable encoding es ∧ b = form encoding es ∧ d = ofEntries c es
        ∧ ∀ key, d.get? key = survivor? c es key := by
  rw [decode, map_eq_ok_iff]
  constructor
  · rintro ⟨es, hread, rfl⟩
    obtain ⟨hes, hb⟩ := read_eq_ok_iff.mp hread
    exact ⟨es, hes, hb, rfl, get?_ofEntries c es⟩
  · rintro ⟨es, hes, hb, rfl, -⟩
    exact ⟨es, read_eq_ok_iff.mpr ⟨hes, hb⟩, rfl⟩

end Dictionary.Format

end Coffer
