import Mathlib.Logic.Function.Basic
import Coffer.Proofs.Ciphertexts
import Coffer.Proofs.Form
import Coffer.Proofs.Slots
import Coffer.Proofs.Values

/-!
# Shelves

A shelf is what a store is to those who use it: a map from keys to values. It has a slot for all
the keys with one normal form, and in it at most one deposit: the key as it was first spelled, the
value, and the value key it was put there under.

A shelf *describes* a dictionary that holds its deposits, sealed, and nothing else. It still
describes it after a value was put in, taken out, or all was cleared (`Describes.set`,
`Describes.delete`, `Describes.clear`), and it tells what can be asked of the dictionary: what a
value key reads (`Deposit.reveal_entry`), the keys (`Describes.mem_keys`), their number
(`Describes.size_eq`), and whether it can be written into a file (`Describes.encodable_iff`).
-/

namespace Coffer

/-! ## Deposits -/

/-- A value in a slot, with the first spelling of its key and the value key it was put in under. -/
structure Deposit where
  key : String
  value : Bytes
  lock : Option String
  deriving Repr, DecidableEq

namespace Deposit

/-- The form in which the value is stored. -/
def stored (x : Deposit) : Bytes := (sealedUnder x.value x.lock).toOption.getD []

/-- The entry that holds the value. -/
def entry (x : Deposit) : Entry := { key := x.key, value := some x.stored }

/-- What a value key reads: the value, if it is the one it was put in under, and else what that key
makes of the stored form. -/
def seen (x : Deposit) (valueKey : Option String) : Bytes :=
  if activeKey valueKey = activeKey x.lock then x.value else x.entry.reveal valueKey

theorem seen_of_lock {x : Deposit} {valueKey : Option String}
    (h : activeKey valueKey = activeKey x.lock) : x.seen valueKey = x.value := if_pos h

/-- Every value can be sealed. -/
theorem sealedUnder_eq_stored (x : Deposit) : sealedUnder x.value x.lock = .ok x.stored := by
  have hok : ∃ b, sealedUnder x.value x.lock = .ok b := by
    unfold sealedUnder
    cases hkey : activeKey x.lock with
    | none => exact ⟨_, rfl⟩
    | some passphrase =>
      obtain ⟨made, hmade⟩ := Cipher.exists_ofPassphrase hkey
      simp only [hmade]
      exact ⟨_, Cipher.encrypt_eq_ok_iff.mpr ⟨made, rfl, rfl⟩⟩
  obtain ⟨b, hb⟩ := hok
  rw [stored, hb]
  rfl

/-- **Under the value key it was put in with a value is read as it is**, and under any other one as
that key makes of it. -/
theorem reveal_entry (x : Deposit) (valueKey : Option String) :
    x.entry.reveal valueKey = x.seen valueKey := by
  by_cases hkey : activeKey valueKey = activeKey x.lock
  · rw [seen_of_lock hkey]
    have hsealed := x.sealedUnder_eq_stored
    unfold sealedUnder at hsealed
    rw [Entry.reveal, hkey]
    cases hlock : activeKey x.lock with
    | none =>
      rw [hlock] at hsealed
      exact (Except.ok.inj hsealed).symm
    | some passphrase =>
      rw [hlock] at hsealed
      obtain ⟨cipher, hcipher, hencrypt⟩ := bind_eq_ok_iff.mp hsealed
      have hdecrypt := Cipher.tryDecrypt_eq_ok_iff.mpr hencrypt
      simp only [hcipher, Cipher.decrypt, entry, Entry.bytes, Option.getD_some, hdecrypt]
  · exact (if_neg hkey).symm

end Deposit

/-! ## Shelves -/

/-- What is put away under the keys of each normal form. -/
def Shelf : Type := String → Option Deposit

namespace Shelf

variable {c : Comparer} {m : Shelf} {d d' : Dictionary}

/-- The shelf with nothing on it. -/
def empty : Shelf := fun _ => none

/-- The shelf with a value put in under a key. A slot that is occupied keeps its spelling. -/
def set (m : Shelf) (c : Comparer) (key : String) (value : Bytes) (lock : Option String) : Shelf :=
  let first := ((m (c.normalize key)).map (·.key)).getD key
  Function.update m (c.normalize key) (some { key := first, value, lock })

/-- The shelf with the slot of a key emptied. -/
def delete (m : Shelf) (c : Comparer) (key : String) : Shelf :=
  Function.update m (c.normalize key) none

theorem set_apply (m : Shelf) (c : Comparer) (key : String) (value : Bytes)
    (lock : Option String) (i : String) :
    m.set c key value lock i = if i = c.normalize key then
        some { key := ((m (c.normalize key)).map (·.key)).getD key, value, lock }
      else m i :=
  Function.update_apply _ _ _ i

theorem delete_apply (m : Shelf) (c : Comparer) (key i : String) :
    m.delete c key i = if i = c.normalize key then none else m i :=
  Function.update_apply _ _ _ i

theorem delete_of_none {key : String} (h : m (c.normalize key) = none) : m.delete c key = m := by
  funext i
  rw [delete_apply]
  split
  · next hi => rw [hi, h]
  · rfl

/-- The slots with something in them. -/
def occupied (m : Shelf) : Set String := {i | (m i).isSome}

/-- What is on the shelf can be written into a file. -/
structure Encodable (m : Shelf) (encoding : KeyEncoding) : Prop where
  count : m.occupied.ncard < Bytes.bound 4
  fits : ∀ i x, m i = some x → Dictionary.Format.Fits encoding x.entry

/-- The dictionary has what is on the shelf, and no more. -/
structure Describes (m : Shelf) (d : Dictionary) : Prop where
  orderly : d.Orderly
  get?_eq : ∀ key, d.get? key = (m (d.comparer.normalize key)).map Deposit.entry
  normal : ∀ i x, m i = some x → d.comparer.normalize x.key = i

/-! ### Changes -/

theorem describes_empty (c : Comparer) : empty.Describes (.empty c) :=
  ⟨.empty c, fun _ => rfl, nofun⟩

theorem describes_clear (d : Dictionary) : empty.Describes d.clear :=
  ⟨.clear d, fun _ => rfl, nofun⟩

/-- Copies of a dictionary are described by the same shelf. -/
theorem Describes.copies (h : m.Describes d) (hcopies : d'.Copies d) : m.Describes d' where
  orderly := hcopies.orderly
  get?_eq key := by rw [hcopies.get?_eq h.orderly, hcopies.comparer, h.get?_eq]
  normal i x hx := hcopies.comparer ▸ h.normal i x hx

theorem Describes.set (h : m.Describes d) (key : String) {value stored : Bytes}
    {lock : Option String} (hstored : sealedUnder value lock = .ok stored) :
    (m.set d.comparer key value lock).Describes (d.insert key (some stored)) := by
  have hstored' (spelling : String) :
      Deposit.entry { key := spelling, value, lock }
        = { key := spelling, value := some stored } := by
    rw [Deposit.entry, Deposit.stored, hstored]
    rfl
  refine ⟨h.orderly.insert key _, fun other => ?_, fun i x hx => ?_⟩
  · rw [Dictionary.get?_insert, Dictionary.comparer_insert, set_apply]
    split
    · rw [Option.map_some, hstored', h.get?_eq, Option.map_map]
      rfl
    · exact h.get?_eq other
  · rw [Dictionary.comparer_insert]
    rw [set_apply] at hx
    split at hx
    · next hi =>
      cases hx
      cases hfirst : m (d.comparer.normalize key) with
      | none => exact hi.symm
      | some y => exact (h.normal _ y hfirst).trans hi.symm
    · exact h.normal i x hx

theorem Describes.delete (h : m.Describes d) (key : String) :
    (m.delete d.comparer key).Describes (d.erase key) := by
  refine ⟨h.orderly.erase key, fun other => ?_, fun i x hx => ?_⟩
  · rw [Dictionary.get?_erase, Dictionary.comparer_erase, delete_apply]
    split
    · rfl
    · exact h.get?_eq other
  · rw [delete_apply] at hx
    split at hx
    · cases hx
    · exact h.normal i x hx

/-! ### Questions -/

/-- The entries are the deposits. -/
theorem Describes.mem_entries (h : m.Describes d) {e : Entry} :
    e ∈ d.entries ↔ ∃ i x, m i = some x ∧ x.entry = e := by
  constructor
  · intro he
    have hget := h.orderly.get?_eq_some_iff.mpr ⟨he, rfl⟩
    rw [h.get?_eq] at hget
    obtain ⟨x, hx, hentry⟩ := Option.map_eq_some_iff.mp hget
    exact ⟨_, x, hx, hentry⟩
  · rintro ⟨i, x, hx, rfl⟩
    have hget : d.get? x.key = some x.entry := by
      rw [h.get?_eq, h.normal i x hx, hx]
      rfl
    exact (h.orderly.get?_eq_some_iff.mp hget).1

/-- **The keys are the spellings of the deposits.** -/
theorem Describes.mem_keys (h : m.Describes d) {key : String} :
    key ∈ d.keys ↔ ∃ i x, m i = some x ∧ x.key = key := by
  rw [Dictionary.keys, List.mem_map]
  constructor
  · rintro ⟨e, he, rfl⟩
    obtain ⟨i, x, hx, rfl⟩ := h.mem_entries.mp he
    exact ⟨i, x, hx, rfl⟩
  · rintro ⟨i, x, hx, rfl⟩
    exact ⟨x.entry, h.mem_entries.mpr ⟨i, x, hx, rfl⟩, rfl⟩

/-- **There are as many entries as occupied slots.** -/
theorem Describes.size_eq (h : m.Describes d) : d.size = m.occupied.ncard := by
  rw [h.orderly.size_eq_ncard]
  congr 1
  ext i
  constructor
  · rintro ⟨key, rfl, hcontains⟩
    rw [Dictionary.contains, h.get?_eq, Option.isSome_map] at hcontains
    exact hcontains
  · intro hi
    obtain ⟨x, hx⟩ := Option.isSome_iff_exists.mp hi
    refine ⟨x.key, h.normal i x hx, ?_⟩
    rw [Dictionary.contains, h.get?_eq, h.normal i x hx, Option.isSome_map]
    exact hi

/-- **The entries can be written if what is on the shelf can.** -/
theorem Describes.encodable_iff (h : m.Describes d) {encoding : KeyEncoding} :
    Dictionary.Format.Encodable encoding d.entries ↔ m.Encodable encoding := by
  have hcount : d.entries.length = m.occupied.ncard := by
    rw [← h.size_eq, Dictionary.entries, List.length_map, Dictionary.size]
  constructor
  · rintro ⟨hlength, hfits⟩
    exact ⟨hcount ▸ hlength, fun i x hx => hfits _ (h.mem_entries.mpr ⟨i, x, hx, rfl⟩)⟩
  · rintro ⟨hncard, hfits⟩
    refine ⟨hcount ▸ hncard, fun e he => ?_⟩
    obtain ⟨i, x, hx, rfl⟩ := h.mem_entries.mp he
    exact hfits i x hx

theorem encodable_empty (encoding : KeyEncoding) : empty.Encodable encoding :=
  (describes_empty .ordinal).encodable_iff.mp
    ⟨by decide, by simp [Dictionary.empty, Dictionary.entries]⟩

/-- What stays after something was taken out can still be written. -/
theorem Describes.encodable_delete (h : m.Describes d) {encoding : KeyEncoding}
    (hm : m.Encodable encoding) (key : String) : (m.delete d.comparer key).Encodable encoding := by
  obtain ⟨hcount, hfits⟩ := h.encodable_iff.mpr hm
  have hsub : (d.erase key).entries.Sublist d.entries := List.filter_sublist.map _
  exact (h.delete key).encodable_iff.mp
    ⟨Nat.lt_of_le_of_lt hsub.length_le hcount, fun e he => hfits e (hsub.subset he)⟩

end Shelf

end Coffer
