import Coffer.Proofs.Agreement
import Coffer.Proofs.Announcing
import Coffer.Proofs.Ciphertexts
import Coffer.Proofs.Likeness
import Coffer.Proofs.Opening

/-!
# What the estimate covers

A store estimates its size and never counts it. The estimate starts from the length of the file, it
grows by the *charge* of each entry written and shrinks by that of each entry removed, and it stays
when a value replaces another. An entry is charged the bytes of its value, and for each byte of its
key in UTF-8 a unit that depends on the encoding.

Where the entries are charged more than the estimate, by `slack` at the most, no change makes it
worse, saturating or not (`Changes.covered`). So it is enough to look at what is loaded. A file is
at least as long as its entries take there (`Loads.weight_le`). In UTF-8 that is what they are
charged, so that the estimate of a store is never too low (`charge_le_estimate`).
-/

namespace Coffer

/-! ## The weight of a dictionary -/

namespace Dictionary

/-- The bytes of all values, and for each key as much as `f` says. -/
def weight (f : String → Nat) (d : Dictionary) : Nat :=
  (d.entries.map fun e => f e.key + e.bytes.length).sum

variable {f g : String → Nat} {d : Dictionary} {key : String} {e : Entry}

/-- An entry of an orderly dictionary and what is filed under other keys. -/
theorem Orderly.filed_perm (h : d.Orderly) {x : Filed} (hx : x ∈ d.filed) :
    d.filed.Perm (x :: d.filed.filter fun y => y.index != x.index) := by
  have hrest : d.filed.erase x = d.filed.filter fun y => y.index != x.index := by
    rw [(h.nodup.of_map _).erase_eq_filter]
    refine List.filter_congr fun y hy => ?_
    rw [Bool.eq_iff_iff, bne_iff_ne, bne_iff_ne, not_iff_not]
    exact ⟨congrArg Filed.index, List.inj_on_of_nodup_map h.nodup hy hx⟩
  rw [← hrest]
  exact List.perm_cons_erase hx

/-- What a key finds is filed under its normal form. -/
theorem exists_filed_of_get? (h : d.get? key = some e) :
    ∃ x ∈ d.filed, x.index = d.comparer.normalize key ∧ x.entry = e := by
  obtain ⟨x, hx, rfl⟩ := Option.map_eq_some_iff.mp h
  exact ⟨x, List.mem_of_find?_eq_some hx, by simpa using List.find?_some hx, rfl⟩

/-- The entry that a key finds, and what is left without it. -/
theorem Orderly.entries_perm_erase (h : d.Orderly) (hget : d.get? key = some e) :
    d.entries.Perm (e :: (d.erase key).entries) := by
  obtain ⟨x, hx, hindex, rfl⟩ := exists_filed_of_get? hget
  have hperm := (h.filed_perm hx).map (·.entry)
  rwa [hindex, List.map_cons] at hperm

/-- A replaced value leaves the rest as it is. -/
theorem Orderly.entries_perm_insert (h : d.Orderly) (hget : d.get? key = some e)
    (value : Option Bytes) :
    (d.insert key value).entries.Perm ({ e with value } :: (d.erase key).entries) := by
  obtain ⟨x, hx, hindex, rfl⟩ := exists_filed_of_get? hget
  have hany : (d.filed.any fun y => y.index == d.comparer.normalize key) = true :=
    List.any_eq_true.mpr ⟨x, hx, by simpa using hindex⟩
  have hperm := h.filed_perm hx
  rw [hindex] at hperm
  unfold Dictionary.insert
  simp only [if_pos hany]
  refine ((hperm.map _).map _).trans ?_
  rw [List.map_cons, List.map_cons, if_pos (by simpa using hindex)]
  refine .of_eq (congrArg _ ?_)
  show _ = (d.filed.filter fun y => y.index != d.comparer.normalize key).map (·.entry)
  rw [List.map_map]
  refine List.map_congr_left fun y hy => ?_
  have hother : y.index ≠ d.comparer.normalize key := by simpa using (List.mem_filter.mp hy).2
  simp [hother]

theorem weight_le_weight (h : ∀ e ∈ d.entries, f e.key ≤ g e.key) : d.weight f ≤ d.weight g :=
  List.sum_le_sum fun e he => Nat.add_le_add_right (h e he) _

theorem weight_congr (h : ∀ e ∈ d.entries, f e.key = g e.key) : d.weight f = d.weight g := by
  refine congrArg List.sum (List.map_congr_left fun e he => ?_)
  rw [h e he]

/-- An entry that is erased takes its weight with it. -/
theorem Orderly.weight_erase (h : d.Orderly) (hget : d.get? key = some e) :
    d.weight f = f e.key + e.bytes.length + (d.erase key).weight f := by
  rw [weight, ((h.entries_perm_erase hget).map _).sum_eq, List.map_cons, List.sum_cons, weight]

/-- A value that replaces another brings its own length in place of the other. -/
theorem Orderly.weight_insert_of_some (h : d.Orderly) (hget : d.get? key = some e)
    (value : Option Bytes) :
    (d.insert key value).weight f + e.bytes.length = d.weight f + (value.getD []).length := by
  have herase := h.weight_erase (f := f) hget
  rw [herase, weight, ((h.entries_perm_insert hget value).map _).sum_eq, List.map_cons,
    List.sum_cons, ← weight]
  show f e.key + (value.getD []).length + _ + _ = _
  omega

theorem weight_insert_of_none (hget : d.get? key = none) (value : Option Bytes) :
    (d.insert key value).weight f = d.weight f + (f key + (value.getD []).length) := by
  rw [weight, entries, filed_insert_of_get?_eq_none hget, List.map_append, List.map_append,
    List.sum_append]
  rfl

/-- An insertion adds no more than the weight of what is inserted. -/
theorem Orderly.weight_insert_le (h : d.Orderly) (key : String) (value : Option Bytes) :
    (d.insert key value).weight f ≤ d.weight f + (f key + (value.getD []).length) := by
  cases hget : d.get? key with
  | none => exact Nat.le_of_eq (weight_insert_of_none hget value)
  | some e =>
    have hreplaced := h.weight_insert_of_some (f := f) hget value
    omega

/-- Filing entries one after the other adds no weight. -/
theorem weight_ofEntries_le (f : String → Nat) (c : Comparer) (es : List Entry) :
    (ofEntries c es).weight f ≤ (es.map fun e => f e.key + e.bytes.length).sum := by
  induction es using List.reverseRecOn with
  | nil => exact Nat.le_refl _
  | append_singleton es e ih =>
    have hinsert := (Orderly.ofEntries c es).weight_insert_le (f := f) e.key e.value
    have hbytes : (e.value.getD []).length = e.bytes.length := rfl
    rw [ofEntries_concat, List.map_append, List.sum_append, List.map_singleton,
      List.sum_singleton]
    omega

end Dictionary

/-! ## What a file holds -/

namespace KeyEncoding

/-- The bytes of a key in a file. -/
def length (encoding : KeyEncoding) (key : String) : Nat := (encoding.encode key).length

/-- What a key is charged with. -/
def charge (encoding : KeyEncoding) (key : String) : Nat := key.utf8ByteSize * encoding.unitSize

theorem length_utf8 (key : String) : utf8.length key = utf8.charge key := by
  rw [charge, unitSize, Nat.mul_one]
  rfl

theorem length_utf16_le (key : String) : utf16.length key ≤ utf16.charge key := by
  have hle := Text.Utf16.length_units_le key
  have hlength : utf16.length key = 2 * (Text.Utf16.units key).length := Text.Utf16.length_toBytes _
  rw [hlength, charge, unitSize]
  omega

/-- A key takes no more in a file than it is charged with. -/
theorem length_le_charge (encoding : KeyEncoding) (key : String) :
    encoding.length key ≤ encoding.charge key := by
  cases encoding with
  | utf8 => exact Nat.le_of_eq (length_utf8 key)
  | utf16 => exact length_utf16_le key

end KeyEncoding

open Dictionary Format

/-- What is decoded takes no more than the bytes that it was decoded from. -/
theorem weight_le_of_decode {encoding : KeyEncoding} {c : Comparer} {b : Bytes} {d : Dictionary}
    (h : decode encoding c b = .ok d) : d.weight encoding.length ≤ b.length := by
  obtain ⟨es, hread, rfl⟩ := map_eq_ok_iff.mp h
  obtain ⟨-, rfl⟩ := read_eq_ok_iff.mp hread
  have hmerged := weight_ofEntries_le encoding.length c es
  have hentry : (es.map fun e => encoding.length e.key + e.bytes.length).sum
      ≤ (es.map fun e => entryOverhead + (encoding.encode e.key).length + e.bytes.length).sum := by
    refine List.sum_le_sum fun e _ => ?_
    show (encoding.encode e.key).length + _ ≤ _
    omega
  rw [length_form]
  omega

namespace Target

variable {t : Target} {disk : Disk} {d : Dictionary} {degraded : Bool}

/-- What is read from a content is empty, or decoded from no more bytes than the content has. -/
theorem decodeContent_cases {b : Bytes} (h : t.decodeContent b = .ok (d, degraded)) :
    d = .empty t.comparer
      ∨ ∃ plain, plain.length ≤ b.length ∧ decode t.encoding t.comparer plain = .ok d := by
  unfold decodeContent at h
  simp only at h
  split at h
  · cases h
    exact .inl rfl
  · split at h
    · split at h
      · next hdecode =>
        cases h
        exact .inr ⟨b, Nat.le_refl _, hdecode⟩
      · cases h
    · split at h
      · cases h
      · split at h
        · next plain hplain =>
          rw [Cipher.decryptInto_eq (Nat.le_refl _)] at hplain
          split at h
          · next hdecode =>
            cases h
            exact .inr ⟨plain, Cipher.length_le_of_tryDecrypt hplain, hdecode⟩
          · cases h
        · split at h
          · cases h
          · cases h
            exact .inl rfl

/-- **What is read takes no more than the file is long.** -/
theorem weight_le_of_reads (h : t.reads disk = .ok (d, degraded)) :
    d.weight t.encoding.length ≤ disk.fileLength t.path := by
  unfold reads at h
  split at h
  · cases h
    exact Nat.zero_le _
  · cases h
  · cases h
  · next content hstat =>
    have hlength : disk.fileLength t.path = content.length := by
      rw [Disk.fileLength, Disk.read, hstat]
      rfl
    rw [hlength]
    rcases decodeContent_cases h with rfl | ⟨plain, hle, hdecode⟩
    · exact Nat.zero_le _
    · exact (weight_le_of_decode hdecode).trans hle

end Target

variable {c : Config}

/-- **What a store loads takes no more than its new estimate.** -/
theorem Config.Loads.weight_le {d : Dictionary} {estimate : Nat} (h : c.Loads d estimate) :
    d.Orderly ∧ d.weight c.encoding.length ≤ estimate := by
  obtain ⟨a, disk, scratch, ha, rfl, hload⟩ := h
  refine ⟨((ha.load false _ disk scratch).2 d hload).1, ?_⟩
  cases a with
  | disabled =>
    cases hload
    exact Nat.zero_le _
  | file t =>
    have hfile : (t.load false (disk.fileLength t.path) disk scratch).1 = .ok d := hload
    rw [Target.load_fst] at hfile
    obtain ⟨⟨d, degraded⟩, hreads, rfl⟩ := map_eq_ok_iff.mp hfile
    have hencoding : t.encoding = c.encoding := Target.Serves.encoding ha
    rw [← hencoding]
    exact Target.weight_le_of_reads hreads

/-- What is loaded when a store is opened. -/
theorem loads_of_openStore {h h' : Host} {store : Store} (hopen : h.openStore c = (.ok store, h')) :
    c.Loads store.entries store.estimate := by
  unfold Host.openStore at hopen
  split at hopen
  · cases hopen
  · next archive disk harchive =>
    simp only at hopen
    split at hopen
    · cases hopen
    · next entries hload =>
      cases hopen
      exact ⟨archive, disk, h.scratch, Archive.serves_of_ofConfig harchive, rfl, hload⟩

/-! ## What changes of a store leave -/

namespace Store

variable {loads : Dictionary → Nat → Prop} {slack : Nat} {s t : Store}

/-- An entry is charged its value, and its key by the encoding. -/
theorem entrySize_eq (s : Store) (key : String) (value : Bytes) :
    s.entrySize key value = s.config.encoding.charge key + value.length := rfl

/-- The entries are charged no more than the estimate and the slack. -/
structure Covered (c : Config) (slack : Nat) (s : Store) : Prop where
  config : s.config = c
  orderly : s.entries.Orderly
  weight_le : s.entries.weight c.encoding.charge ≤ s.estimate + slack

theorem Covered.merge (h : s.Covered c slack) (p : Pending) : (s.merge p).Covered c slack := by
  refine ⟨h.config, h.orderly.insert _ _, ?_⟩
  have hinsert := h.orderly.weight_insert_le (f := c.encoding.charge) p.key (some p.value)
  have hle := h.weight_le
  have hsize := entrySize_eq s p.key p.value
  rw [h.config] at hsize
  rw [Option.getD_some] at hinsert
  show (s.entries.insert p.key (some p.value)).weight c.encoding.charge
    ≤ s.estimate + s.entrySize p.key p.value + slack
  omega

/-- An entry takes its charge with it. If the estimate is less than that, no estimate is left, and
what the rest is charged was slack already. -/
theorem Covered.discard (h : s.Covered c slack) (key : String) :
    (s.discard key).2.Covered c slack := by
  cases hget : s.entries.get? key with
  | none =>
    rw [discard_of_none hget]
    exact h
  | some e =>
    have herase := h.orderly.weight_erase (f := c.encoding.charge) hget
    have hle := h.weight_le
    have hsize := entrySize_eq s e.key e.bytes
    rw [h.config] at hsize
    rw [discard_of_some hget]
    refine ⟨h.config, h.orderly.erase key, ?_⟩
    show (s.entries.erase key).weight c.encoding.charge
      ≤ s.estimate - s.entrySize e.key e.bytes + slack
    omega

/-- **No change makes the estimate cover less than it did**, if what is loaded is covered. -/
theorem Changes.covered (h : s.Changes loads t)
    (hloads : ∀ d estimate, loads d estimate →
      d.Orderly ∧ d.weight c.encoding.charge ≤ estimate + slack)
    (hs : s.Covered c slack) : t.Covered c slack := by
  induction h with
  | refl => exact hs
  | trans _ _ ih ih' => exact ih' (ih hs)
  | save | tell | close => exact { hs with }
  | merge _ p => exact hs.merge p
  | discard _ key => exact hs.discard key
  | discardEverything s => exact ⟨hs.config, .clear s.entries, Nat.zero_le _⟩
  | adopt s hload =>
    obtain ⟨horderly, hle⟩ := hloads _ _ hload
    exact ⟨hs.config, horderly, hle⟩

/-- What several removals take off the estimate, which does not fall below zero. -/
theorem estimate_discardAll (s : Store) (keys : List String) :
    (s.discardAll keys).2.estimate
      = s.estimate
        - ((s.discardAll keys).1.map fun e =>
          s.config.encoding.charge e.key + e.bytes.length).sum := by
  induction keys generalizing s with
  | nil => rfl
  | cons key keys ih =>
    cases hget : s.entries.get? key with
    | none => rw [discardAll_cons_of_none hget, ih]
    | some e =>
      have hshrunk : (s.discard key).2.estimate = s.estimate - s.entrySize e.key e.bytes := by
        rw [discard_of_some hget]
      rw [discardAll_cons_of_some hget, List.map_cons, List.sum_cons]
      show ((s.discard key).2.discardAll keys).2.estimate = _
      rw [ih, config_discard, hshrunk, entrySize_eq, Nat.sub_sub]

/-- What several removals take off the weight of the entries. -/
theorem weight_discardAll (f : String → Nat) (horderly : s.entries.Orderly) (keys : List String) :
    s.entries.weight f
      = ((s.discardAll keys).1.map fun e => f e.key + e.bytes.length).sum
        + (s.discardAll keys).2.entries.weight f := by
  induction keys generalizing s with
  | nil => exact (Nat.zero_add _).symm
  | cons key keys ih =>
    cases hget : s.entries.get? key with
    | none => rw [discardAll_cons_of_none hget, ← ih horderly]
    | some e =>
      have hleft : (s.discard key).2.entries = s.entries.erase key := by rw [discard_of_some hget]
      have hrest := ih (s := (s.discard key).2) (hleft ▸ horderly.erase key)
      rw [discardAll_cons_of_some hget, horderly.weight_erase hget, ← hleft, hrest, List.map_cons,
        List.sum_cons]
      exact (Nat.add_assoc _ _ _).symm

end Store

namespace Session

variable {slack : Nat} {s t : Session}

/-- What a program makes of a store stays covered, if what is loaded is. -/
theorem Opened.covered (hs : s.Opened c)
    (hloads : ∀ d estimate, c.Loads d estimate → d.weight c.encoding.charge ≤ estimate + slack) :
    s.store.Covered c slack := by
  obtain ⟨_, store, host, hopen, hreach⟩ := hs
  have hserves := serves_of_openStore hopen
  have hidle : store.pending = [] := (Opened.idle ⟨_, store, host, hopen, .refl _⟩ :)
  have hcovered : store.Covered c slack :=
    ⟨hserves.config, hserves.orderly, hloads _ _ (loads_of_openStore hopen)⟩
  exact (hreach.changes hserves hidle).covered
    (fun d estimate h => ⟨h.weight_le.1, hloads d estimate h⟩) hcovered

/-- **With keys in UTF-8 the estimate is never too low.** A removal takes off what the entries were
charged, and never falls short of it. -/
theorem charge_le_estimate (hs : s.Opened c) (hutf8 : c.encoding = .utf8) :
    (s.store.entries.entries.map fun e => e.key.utf8ByteSize + e.bytes.length).sum
        ≤ s.store.estimate
      ∧ ∀ keys, (s.store.discardAll keys).2.estimate
        + ((s.store.discardAll keys).1.map fun e => e.key.utf8ByteSize + e.bytes.length).sum
          = s.store.estimate := by
  have hcharge : KeyEncoding.utf8.charge = fun key : String => key.utf8ByteSize := by
    funext key
    exact Nat.mul_one _
  have hloads : ∀ d estimate, c.Loads d estimate →
      d.weight c.encoding.charge ≤ estimate + 0 := by
    intro d estimate hload
    have hle := hload.weight_le.2
    rw [hutf8] at hle ⊢
    have hsame : KeyEncoding.utf8.length = KeyEncoding.utf8.charge :=
      funext KeyEncoding.length_utf8
    rwa [hsame] at hle
  have hcovered := (hs.covered hloads).weight_le
  rw [hutf8, hcharge, Nat.add_zero] at hcovered
  refine ⟨hcovered, fun keys => ?_⟩
  have hweight := Store.weight_discardAll (fun key : String => key.utf8ByteSize)
    hs.serves.orderly keys
  have hestimate := Store.estimate_discardAll s.store keys
  rw [hs.serves.config, hutf8, hcharge] at hestimate
  beta_reduce at hestimate
  omega

/-- A store with a file, which ignores case. -/
def logbook : Config := { path := some "d/f", ignoreCase := true }

/-- It was written to and loaded again, and then a value was replaced. -/
def logbookReloaded : Session :=
  let s := (Host.session {} logbook).upsert "Note" [1, 2] none
  let s := s.2.upsert "€" [4] none
  ((s.2.save false).2.rollback.2.upsert "NOTE" [5, 6, 7] none).2

theorem opened_logbookReloaded : logbookReloaded.Opened logbook := by
  have hopened : (Host.session {} logbook).Opened logbook := Host.opened_session (by decide +kernel)
  have hwritten := (hopened.trans (.upsert _ "Note" [1, 2] none)).trans (.upsert _ "€" [4] none)
  exact ((hwritten.trans (.save _ false)).trans (.rollback _)).trans (.upsert _ "NOTE" [5, 6, 7] none)

/-- The file had 30 bytes, and the write that replaced a value was charged 7, which is what the
removal of that entry takes off. -/
theorem charge_le_estimate_logbook :
    logbookReloaded.Opened logbook ∧ logbook.encoding = .utf8
      ∧ logbookReloaded.store.estimate = 37
      ∧ (logbookReloaded.store.entries.entries.map
        fun e => e.key.utf8ByteSize + e.bytes.length).sum ≤ 37
      ∧ (logbookReloaded.store.discardAll ["note"]).2.estimate = 30 := by
  obtain ⟨hcovered, hremoved⟩ := charge_le_estimate opened_logbookReloaded rfl
  have hestimate : logbookReloaded.store.estimate = 37 := by decide +kernel
  have hfound : ((logbookReloaded.store.discardAll ["note"]).1.map
      fun e => e.key.utf8ByteSize + e.bytes.length).sum = 7 := by decide +kernel
  have hleft := hremoved ["note"]
  rw [hfound, hestimate] at hleft
  exact ⟨opened_logbookReloaded, rfl, hestimate, hestimate ▸ hcovered, by omega⟩

end Session

end Coffer
