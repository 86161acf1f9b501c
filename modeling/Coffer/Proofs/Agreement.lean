import Mathlib
import Coffer.Proofs.Writing

/-!
# Writing and reading agree

What is written is read back, and what was read is written again: the same bytes, but for the order
of the entries, which a dictionary does not keep.

The second half needs that no entries were merged on reading. Then the dictionary holds the entries
of the file as they are, and since a key has one form as bytes, so has each entry.
-/

namespace Coffer.Dictionary.Format

open Writer

theorem length_form (encoding : KeyEncoding) (es : List Entry) :
    (form encoding es).length = headerSize + (es.map fun e =>
      entryOverhead + (encoding.encode e.key).length + e.bytes.length).sum := by
  rw [form, List.length_append, Bytes.length_ofNat, List.length_flatMap]
  simp only [length_entryForm]
  rfl

theorem take_form (encoding : KeyEncoding) (es : List Entry) :
    (form encoding es).take headerSize = Bytes.ofNat 4 es.length :=
  List.take_left' (Bytes.length_ofNat 4 es.length)

theorem Encodable.perm {encoding : KeyEncoding} {es fs : List Entry} (h : Encodable encoding es)
    (hperm : fs.Perm es) : Encodable encoding fs :=
  ⟨hperm.length_eq ▸ h.count, fun e he => h.fits e (hperm.mem_iff.mp he)⟩

/-- Entries written in any order are read back as they were. -/
theorem decode_form_of_perm {encoding : KeyEncoding} {d : Dictionary} (hd : d.Orderly)
    {es : List Entry} (hperm : es.Perm d.entries) (hes : Encodable encoding es) :
    ∃ d', decode encoding d.comparer (form encoding es) = .ok d' ∧ d'.Orderly
      ∧ d'.comparer = d.comparer ∧ d'.entries.Perm d.entries :=
  ⟨_, decode_form hes d.comparer, .ofEntries _ es, comparer_ofEntries _ es,
    (hd.entries_ofEntries_perm hperm).symm ▸ hperm⟩

/-- If as many entries were counted as the dictionary has, they are its entries. -/
theorem eq_form_entries {encoding : KeyEncoding} {c : Comparer} {b : Bytes} {d : Dictionary}
    (h : decode encoding c b = .ok d) (hcount : Bytes.toNat (b.take headerSize) = d.size) :
    Encodable encoding d.entries ∧ b = form encoding d.entries := by
  obtain ⟨es, hread, rfl⟩ := map_eq_ok_iff.mp h
  obtain ⟨hes, rfl⟩ := read_eq_ok_iff.mp hread
  rw [take_form, Bytes.toNat_ofNat 4 _ hes.count] at hcount
  rw [entries_ofEntries (nodup_of_size_ofEntries hcount.symm)]
  exact ⟨hes, rfl⟩

variable {w w' : Writer}

/-- What was written is read back. -/
theorem decode_of_putEntries {encoding : KeyEncoding} {d : Dictionary} (hw : w.out.Sound)
    (order : Arrangement) (hd : d.Orderly)
    (h : w.putEntries encoding (order.arrange d.entries) = .ok w') :
    ∃ b, w'.out.written = w.out.written ++ b
      ∧ b.length = headerSize + (d.entries.map fun e =>
          entryOverhead + (encoding.encode e.key).length + e.bytes.length).sum
      ∧ ∃ d', decode encoding d.comparer b = .ok d' ∧ d'.entries.Perm d.entries
        ∧ ∀ key, d'.get? key = d.get? key := by
  -- what was appended is the form of the entries in the order they were gone through
  have hwrites := putEntries_writes hw encoding (order.arrange d.entries)
  rw [h] at hwrites
  obtain ⟨hes, happends⟩ := hwrites
  have hperm := order.perm d.entries
  obtain ⟨d', hdecode, hd', hc, hentries⟩ := decode_form_of_perm hd hperm hes
  refine ⟨_, happends.written, ?_, d', hdecode, hentries, hd.get?_eq_of_perm hd' hc hentries⟩
  rw [length_form, (hperm.map _).sum_eq]

/-- What was read without merging any keys is written again, entry by entry. -/
theorem putEntries_of_decode {encoding : KeyEncoding} {c : Comparer} {b : Bytes} {d : Dictionary}
    (hw : w.out.Sound) (order : Arrangement) (h : decode encoding c b = .ok d)
    (hcount : Bytes.toNat (b.take headerSize) = d.size) :
    b = b.take headerSize ++ (d.entries.map (entryForm encoding)).flatten
      ∧ ∃ w', w.putEntries encoding (order.arrange d.entries) = .ok w'
        ∧ w'.out.written = w.out.written ++ (b.take headerSize
            ++ ((order.arrange d.entries).map (entryForm encoding)).flatten) := by
  obtain ⟨hes, rfl⟩ := eq_form_entries h hcount
  have hperm := order.perm d.entries
  obtain ⟨w', hok, happends⟩ := (putEntries_writes hw encoding _).isOk (hes.perm hperm)
  rw [take_form]
  refine ⟨rfl, w', hok, ?_⟩
  rw [happends.written, form, hperm.length_eq]
  rfl

/-- **What is written is read back, and what was read is written again.** -/
theorem putEntries_agrees_with_decode (encoding : KeyEncoding) (order : Arrangement) (w : Writer)
    (hw : w.out.Sound) :
    (∀ (d : Dictionary) (w' : Writer), d.Orderly →
      w.putEntries encoding (order.arrange d.entries) = .ok w' →
      ∃ b, w'.out.written = w.out.written ++ b
        ∧ b.length = headerSize + (d.entries.map fun e =>
            entryOverhead + (encoding.encode e.key).length + e.bytes.length).sum
        ∧ ∃ d', decode encoding d.comparer b = .ok d' ∧ d'.entries.Perm d.entries
          ∧ ∀ key, d'.get? key = d.get? key)
    ∧ ∀ (c : Comparer) (b : Bytes) (d : Dictionary), decode encoding c b = .ok d →
        Bytes.toNat (b.take headerSize) = d.size →
        b = b.take headerSize ++ (d.entries.map (entryForm encoding)).flatten
          ∧ ∃ w', w.putEntries encoding (order.arrange d.entries) = .ok w'
            ∧ w'.out.written = w.out.written ++ (b.take headerSize
                ++ ((order.arrange d.entries).map (entryForm encoding)).flatten) := by
  constructor
  · intro d w' hd hok
    exact decode_of_putEntries hw order hd hok
  · intro c b d hdecode hcount
    exact putEntries_of_decode hw order hdecode hcount

/-- A writer whose buffer has two cells, one of them written. -/
def narrow : Writer :=
  { out := { storage := some { size := 2, cells := #[5] }, length := 1 }, scratch := {} }

/-- Two entries whose keys are not equal without regard to case; one value is absent. -/
def pair : Dictionary :=
  ofEntries .ignoreCase [{ key := "Ab", value := some [7, 8] }, { key := "𝄞", value := none }]

/-- A small buffer, surrogates and an absent value, written from the last entry to the first. -/
theorem putEntries_agrees_with_decode_pair :
    (∃ b, (narrow.putEntries .utf16 pair.entries.reverse).map (·.out.written)
          = .ok (narrow.out.written ++ b)
        ∧ ∃ d', decode .utf16 .ignoreCase b = .ok d' ∧ d'.entries.Perm pair.entries
          ∧ ∀ key, d'.get? key = pair.get? key)
      ∧ ∃ w', narrow.putEntries .utf16 pair.entries.reverse = .ok w'
        ∧ w'.out.written = narrow.out.written ++ ((form .utf16 pair.entries).take headerSize
            ++ (pair.entries.reverse.map (entryForm .utf16)).flatten) := by
  have hsound : narrow.out.Sound := (by decide : 1 ≤ 2)
  have hdecode : decode .utf16 .ignoreCase (form .utf16 pair.entries) = .ok pair := by
    decide +kernel
  have h := putEntries_agrees_with_decode .utf16 ⟨List.reverse, List.reverse_perm⟩ narrow hsound
  obtain ⟨-, w', hw', hwritten⟩ := h.2 _ _ _ hdecode (by decide +kernel)
  obtain ⟨b, hb, -, d', hd'⟩ := h.1 pair w' (.ofEntries _ _) hw'
  refine ⟨⟨b, ?_, d', hd'⟩, w', hw', hwritten⟩
  rw [← hb]
  exact congrArg (Except.map (·.out.written)) hw'

end Coffer.Dictionary.Format
