import Coffer.Proofs.Estimates
import Coffer.Proofs.Letters
import Coffer.Proofs.Mirroring
import Coffer.Proofs.Runs
import Coffer.Proofs.Upserting

/-!
# What rendering reserves

Rendering rents a buffer by the estimate, with what the format adds and some headroom. If the
entries fit, the buffer stays where it is (`Fits.stays`).

Entries fit if their keys and values are no longer in the file than the estimate and the headroom.
In UTF-16 that is not the same as being charged no more. A key takes two bytes for each of its
units and is charged two for each of its bytes in UTF-8, so `€` takes 2 bytes and is charged 6.
Right after a load the estimate is the length of the file and covers what the entries take; but a
removal takes off what an entry is charged, and that can be more than it took.

So the entries of a store fit until the next load, whatever is done with it, if and only if they are
charged no more than the estimate and the headroom to begin with (`fits_iff`). If they are charged
more, there is a way to a store whose entries do not fit: to write one large entry with a key in
ASCII, and to remove all the others.
-/

namespace Coffer

open Dictionary Format

/-! ## What the form takes -/

theorem Dictionary.length_entries (d : Dictionary) : d.entries.length = d.size := List.length_map _

theorem Dictionary.Format.length_form_entries (encoding : KeyEncoding) (d : Dictionary) :
    (form encoding d.entries).length
      = headerSize + d.size * entryOverhead + d.weight encoding.length := by
  have hsum : ∀ es : List Entry,
      (es.map fun e => entryOverhead + (encoding.encode e.key).length + e.bytes.length).sum
        = es.length * entryOverhead + (es.map fun e => encoding.length e.key + e.bytes.length).sum := by
    intro es
    induction es with
    | nil => rfl
    | cons e es ih =>
      have hkey : encoding.length e.key = (encoding.encode e.key).length := rfl
      rw [List.map_cons, List.sum_cons, ih, List.map_cons, List.sum_cons, List.length_cons,
        Nat.succ_mul, hkey]
      omega
  rw [length_form, hsum, length_entries, weight, Nat.add_assoc]

namespace Target

variable {d : Dictionary} {estimate : Nat} {scratch : Scratch}

/-- What is rendered stays in the buffer that was rented, if and only if the form is no longer than
that. -/
theorem capacity_eq_iff {t : Target} {order : Arrangement} {w : Writer}
    (hw : t.filled order d estimate scratch = .ok w) :
    w.out.capacity = (rented d estimate scratch).out.capacity
      ↔ (form t.encoding d.entries).length ≤ (rented d estimate scratch).out.capacity := by
  have hsound := sound_rented d estimate scratch
  have hwrites := Writer.putEntries_writes hsound t.encoding (order.arrange d.entries)
  rw [filled] at hw
  rw [hw] at hwrites
  have hlength : (form t.encoding (order.arrange d.entries)).length
      = (form t.encoding d.entries).length := by
    rw [length_form, length_form, ((order.perm d.entries).map _).sum_eq]
  rw [hwrites.2.capacity_eq_iff hsound, hlength]
  show 0 + _ ≤ _ ↔ _
  rw [Nat.zero_add]

end Target

namespace Store

variable {c : Config} {s t : Store}

/-- The form of the entries fits what rendering reserves for it. -/
def Fits (s : Store) : Prop :=
  (form s.config.encoding s.entries.entries).length ≤ Target.reserve s.entries s.estimate

/-- What the format adds is reserved, so what counts is what the keys and values take. -/
theorem fits_iff_weight_le :
    s.Fits ↔ s.entries.weight s.config.encoding.length ≤ s.estimate + reservedHeadroom := by
  rw [Fits, length_form_entries, Target.reserve]
  omega

/-- Rendering never moves what is written into a larger buffer. -/
def Stays (s : Store) : Prop :=
  ∀ (t : Target) (order : Arrangement) (scratch : Scratch) (w : Writer),
    t.encoding = s.config.encoding → t.filled order s.entries s.estimate scratch = .ok w →
      w.out.capacity = (Target.rented s.entries s.estimate scratch).out.capacity

/-- **Entries that fit are rendered in the buffer that was rented for them.** -/
theorem Fits.stays (h : s.Fits) : s.Stays := by
  intro t order scratch w hencoding hw
  refine (Target.capacity_eq_iff hw).mpr ?_
  rw [hencoding]
  exact Nat.le_trans h (Buffer.le_capacity_rent _ _)

/-- Entries that are charged no more than the estimate and the headroom fit. -/
theorem Covered.fits (h : s.Covered c reservedHeadroom) : s.Fits := by
  rw [fits_iff_weight_le, h.config]
  exact (weight_le_weight fun e _ => c.encoding.length_le_charge e.key).trans h.weight_le

/-! ## Removing all entries but one -/

theorem get?_discard (s : Store) (key other : String) :
    (s.discard key).2.entries.get? other
      = if s.entries.comparer.normalize other = s.entries.comparer.normalize key then none
        else s.entries.get? other := by
  cases hget : s.entries.get? key with
  | none =>
    rw [discard_of_none hget]
    split
    · next hkey => rw [get?_eq, hkey, ← get?_eq, hget]
    · rfl
  | some e => rw [discard_of_some hget, get?_erase]

/-- A key finds what it found before, unless it is equal to one of those removed. -/
theorem get?_discardAll (s : Store) (keys : List String) (other : String) :
    (s.discardAll keys).2.entries.get? other
      = if ∃ key ∈ keys, s.entries.comparer.normalize other = s.entries.comparer.normalize key
        then none else s.entries.get? other := by
  induction keys generalizing s with
  | nil => simp [discardAll]
  | cons key keys ih =>
    show ((s.discard key).2.discardAll keys).2.entries.get? other = _
    rw [ih, comparer_discard, get?_discard]
    have hcons : (∃ x ∈ key :: keys,
          s.entries.comparer.normalize other = s.entries.comparer.normalize x)
        ↔ s.entries.comparer.normalize other = s.entries.comparer.normalize key
          ∨ ∃ x ∈ keys, s.entries.comparer.normalize other = s.entries.comparer.normalize x := by
      simp
    by_cases hrest : ∃ x ∈ keys,
        s.entries.comparer.normalize other = s.entries.comparer.normalize x
    · rw [if_pos hrest, if_pos (hcons.mpr (.inr hrest))]
    · rw [if_neg hrest]
      by_cases hkey : s.entries.comparer.normalize other = s.entries.comparer.normalize key
      · rw [if_pos hkey, if_pos (hcons.mpr (.inl hkey))]
      · rw [if_neg hkey, if_neg fun h => (hcons.mp h).elim hkey hrest]

/-- When all other keys are removed, what is left has the key. -/
theorem eq_key_of_mem_discardAll {keys : List String} {key : String} {e : Entry}
    (horderly : s.entries.Orderly) (horderly' : (s.discardAll keys).2.entries.Orderly)
    (hkeys : ∀ e ∈ s.entries.entries, e.key ≠ key → e.key ∈ keys)
    (he : e ∈ (s.discardAll keys).2.entries.entries) : e.key = key := by
  by_contra hne
  have hfound := horderly'.get?_eq_some_iff.mpr ⟨he, rfl⟩
  rw [get?_discardAll] at hfound
  split at hfound
  · cases hfound
  · next hkept =>
    have hmem := (horderly.get?_eq_some_iff.mp hfound).1
    exact hkept ⟨e.key, hkeys e hmem hne, rfl⟩

/-- When the keys of other entries are removed, an entry stays. -/
theorem get?_discardAll_of_others {keys : List String} {key : String} {e : Entry}
    (horderly : s.entries.Orderly) (hget : s.entries.get? key = some e)
    (hkeys : ∀ x ∈ keys, x ≠ e.key ∧ ∃ o ∈ s.entries.entries, o.key = x) :
    (s.discardAll keys).2.entries.get? key = some e := by
  rw [get?_discardAll, if_neg, hget]
  rintro ⟨x, hx, hequal⟩
  obtain ⟨hne, o, ho, rfl⟩ := hkeys x hx
  -- the other entry would be found under the key as well
  have hother := horderly.get?_eq_some_iff.mpr ⟨ho, hequal.symm⟩
  rw [hget] at hother
  cases hother
  exact hne rfl

theorem discardAll_of_nil {keys : List String} (h : (s.discardAll keys).1 = []) :
    (s.discardAll keys).2 = s := by
  induction keys generalizing s with
  | nil => rfl
  | cons key keys ih =>
    cases hget : s.entries.get? key with
    | none =>
      rw [discardAll_cons_of_none hget] at h ⊢
      exact ih h
    | some e =>
      rw [discardAll_cons_of_some hget] at h
      cases h

end Store

namespace Session

variable {c : Config} {s t : Session}

theorem memory_removeWhere (hopen : s.store.closed = false) (start : Option String)
    (test : String → Bool) :
    (s.removeWhere start test).2.store.memory
      = (s.store.discardAll (s.doomed start test)).2.memory := by
  rw [removeWhere_eq, if_neg (by simp [hopen])]
  split
  · next hnone => rw [Store.discardAll_of_nil (List.isEmpty_iff.mp hnone)]
  · exact memory_saveThen (Store.memory_announceAll _) _ _

end Session

/-! ## Keys in ASCII -/

/-- A key in ASCII takes what it is charged. -/
theorem KeyEncoding.length_eq_charge_of_isAscii (encoding : KeyEncoding) {key : String}
    (h : ∀ ch ∈ key.toList, Text.IsAscii ch) : encoding.length key = encoding.charge key := by
  cases encoding with
  | utf8 => exact length_utf8 key
  | utf16 =>
    have hbytes : key.utf8ByteSize = key.toList.length := by
      rw [← Text.utf8ByteSize_eq_length_iff] at h
      rwa [String.ofList_toList] at h
    have hunits : ∀ xs : List Char, (∀ ch ∈ xs, Text.IsAscii ch) →
        (xs.flatMap Text.Utf16.unitsOf).length = xs.length := by
      intro xs
      induction xs with
      | nil => exact fun _ => rfl
      | cons ch xs ih =>
        intro hxs
        rw [List.forall_mem_cons] at hxs
        have hone : (Text.Utf16.unitsOf ch).length = 1 := by
          have hcode : ch.toNat < 0x80 := hxs.1
          rw [Text.Utf16.unitsOf, if_pos (by omega)]
          rfl
        rw [List.flatMap_cons, List.length_append, ih hxs.2, hone, List.length_cons, Nat.add_comm]
    have hlength : utf16.length key = 2 * (Text.Utf16.units key).length :=
      Text.Utf16.length_toBytes _
    have hcount : (Text.Utf16.units key).length = key.toList.length := hunits _ h
    rw [hlength, hcount, charge, unitSize, hbytes, Nat.mul_comm]

/-- There is a key in ASCII that a dictionary does not have. -/
theorem Dictionary.exists_ascii_fresh (d : Dictionary) :
    ∃ key : String, (∀ ch ∈ key.toList, Text.IsAscii ch) ∧ d.get? key = none := by
  -- it is as long as none that an entry is filed under
  obtain ⟨n, hn⟩ := Infinite.exists_notMem_finset (d.filed.map (·.index.length)).toFinset
  rw [List.mem_toFinset] at hn
  have hall : ∀ ch ∈ List.replicate n 'a', ch = 'a' := fun ch hch => (List.mem_replicate.mp hch).2
  refine ⟨String.ofList (List.replicate n 'a'), ?_, ?_⟩
  · rw [String.toList_ofList]
    intro ch hch
    rw [hall ch hch]
    decide
  · have hnormal : d.comparer.normalize (String.ofList (List.replicate n 'a'))
        = String.ofList (List.replicate n 'a') := by
      cases d.comparer with
      | ordinal => rfl
      | ignoreCase =>
        have hupper : (List.replicate n 'a').any Text.isUppercase = false := by
          rw [List.any_eq_false]
          intro ch hch
          rw [hall ch hch]
          decide
        rw [Comparer.normalize, String.toList_ofList, hupper]
        rfl
    rw [get?, Option.map_eq_none_iff, List.find?_eq_none, hnormal]
    intro x hx hindex
    refine hn (List.mem_map.mpr ⟨x, hx, ?_⟩)
    rw [eq_of_beq hindex, String.length_ofList, List.length_replicate]

namespace Session

variable {c : Config} {s t : Session}

/-- **What the entries are charged beyond the estimate can become what they take beyond it.** After
one large entry was written with a key in ASCII and all the others were removed, what is left takes
as much more than the estimate as all of them were charged more before. -/
theorem exists_run_of_charge (aside : Session → Session → Prop) (hs : s.Opened c)
    (hopen : s.store.closed = false) :
    ∃ t, Runs aside (fun _ o => o ≠ .rollback) s t
      ∧ t.store.entries.weight c.encoding.length + s.store.estimate
        = s.store.entries.weight c.encoding.charge + t.store.estimate := by
  obtain ⟨key, hascii, hfresh⟩ := s.store.entries.exists_ascii_fresh
  obtain ⟨value, hvalue⟩ : ∃ value : Bytes,
      value.length = s.store.entries.weight c.encoding.charge :=
    ⟨List.replicate _ 0, List.length_replicate⟩
  -- the large entry
  obtain ⟨u, hu⟩ : ∃ u, u = (s.upsert key value none).2 := ⟨_, rfl⟩
  have hwritten : u.store.memory = (s.store.merge { key, value }).memory :=
    hu ▸ memory_upsert hs.idle hopen rfl key
  have hus : u.Opened c := hu ▸ hs.trans (.upsert s key value none)
  have huopen : u.store.closed = false := (congrArg Store.closed hwritten :).trans hopen
  have huentries : u.store.entries = s.store.entries.insert key (some value) :=
    (congrArg Store.entries hwritten :)
  have huestimate : u.store.estimate = s.store.estimate + s.store.entrySize key value :=
    (congrArg Store.estimate hwritten :)
  have hufound : u.store.entries.get? key = some { key, value := some value } := by
    rw [huentries, get?_insert, if_pos rfl, hfresh]
    rfl
  -- all the others
  obtain ⟨t, ht⟩ : ∃ t, t = (u.removeWhere none (· != key)).2 := ⟨_, rfl⟩
  obtain ⟨keys, hkeys⟩ : ∃ keys, keys = u.doomed none (· != key) := ⟨_, rfl⟩
  have hleft : t.store.memory = (u.store.discardAll keys).2.memory :=
    ht ▸ hkeys ▸ memory_removeWhere huopen none (· != key)
  have hts : t.Opened c := ht ▸ hus.trans (.removeWhere u none (· != key))
  have htentries : t.store.entries = (u.store.discardAll keys).2.entries :=
    (congrArg Store.entries hleft :)
  have htestimate : t.store.estimate = (u.store.discardAll keys).2.estimate :=
    (congrArg Store.estimate hleft :)
  refine ⟨t, ?_, ?_⟩
  · have hfirst : Runs aside (fun _ o => o ≠ .rollback) s u := by
      rw [hu]
      exact .perform (o := .upsert key value none) s nofun trivial
    have hsecond : Runs aside (fun _ o => o ≠ .rollback) u t := by
      rw [ht]
      exact .perform (o := .removeWhere none (· != key)) u nofun trivial
    exact hfirst.trans hsecond
  · have hall : ∀ e ∈ t.store.entries.entries, e.key = key := by
      intro e he
      rw [htentries] at he
      refine Store.eq_key_of_mem_discardAll hus.serves.orderly
        (htentries ▸ hts.serves.orderly) ?_ he
      intro o ho hne
      rw [hkeys, mem_doomed]
      exact ⟨⟨o, ho, rfl⟩, by simpa [Comparer.selects] using hne⟩
    have hkept : t.store.entries.get? key = some { key, value := some value } := by
      rw [htentries]
      refine Store.get?_discardAll_of_others hus.serves.orderly hufound ?_
      intro x hx
      rw [hkeys, mem_doomed] at hx
      exact ⟨by simpa [Comparer.selects] using hx.2, hx.1⟩
    have htakes : t.store.entries.weight c.encoding.length
        = t.store.entries.weight c.encoding.charge := by
      refine weight_congr fun e he => ?_
      rw [hall e he]
      exact c.encoding.length_eq_charge_of_isAscii hascii
    -- the estimate is large enough for what the others are charged
    have hadded := weight_insert_of_none (f := c.encoding.charge) hfresh (some value)
    have hremoved := Store.weight_discardAll c.encoding.charge hus.serves.orderly keys
    have hlarge := hts.serves.orderly.weight_erase (f := c.encoding.charge) hkept
    have hshrunk := Store.estimate_discardAll u.store keys
    have hsize := Store.entrySize_eq s.store key value
    rw [hs.serves.config] at hsize
    rw [hus.serves.config] at hshrunk
    rw [← huentries, Option.getD_some] at hadded
    rw [← htentries] at hremoved
    rw [← htestimate] at hshrunk
    have hbytes : Entry.bytes { key, value := some value } = value := rfl
    rw [hbytes] at hlarge
    omega

/-- **Until the next load all entries fit what rendering reserves, if and only if those there are
are charged no more than the estimate and the headroom.** -/
theorem fits_iff (hs : s.Opened c) (hutf16 : c.encoding = .utf16)
    (hopen : s.store.closed = false) :
    (∀ t, Runs Aside (fun _ o => o ≠ .rollback) s t → t.store.Fits ∧ t.store.Stays)
      ↔ (s.store.entries.entries.map fun e => 2 * e.key.utf8ByteSize + e.bytes.length).sum
        ≤ s.store.estimate + reservedHeadroom := by
  have hcharge : (s.store.entries.entries.map fun e => 2 * e.key.utf8ByteSize + e.bytes.length).sum
      = s.store.entries.weight c.encoding.charge := by
    refine congrArg List.sum (List.map_congr_left fun e _ => ?_)
    rw [hutf16, KeyEncoding.charge, KeyEncoding.unitSize, Nat.mul_comm]
  rw [hcharge]
  constructor
  · intro hfits
    obtain ⟨t, hrun, htakes⟩ := exists_run_of_charge Aside hs hopen
    have hts := hs.trans (hrun.reaches fun _ _ => Aside.reaches)
    have hfit := Store.fits_iff_weight_le.mp (hfits t hrun).1
    rw [hts.serves.config] at hfit
    omega
  · intro hle t hrun
    have hcovered : s.store.Covered c reservedHeadroom :=
      ⟨hs.serves.config, hs.serves.orderly, hle⟩
    have hchanges : s.store.Changes (fun _ _ => False) t.store :=
      hrun.changes (fun _ _ => Aside.changes) (fun _ _ => id) hs.idle
    have hfits := (hchanges.covered (fun _ _ => False.elim) hcovered).fits
    exact ⟨hfits, hfits.stays⟩

set_option maxRecDepth 8000 in
/-- A store that has loaded nothing keeps fitting, whatever its keys are. -/
theorem fits_iff_memory :
    ((Host.session {} { encoding := .utf16 }).upsert "Zürich" [1, 2] none).2.Opened
        { encoding := .utf16 }
      ∧ ∀ t, Runs Aside (fun _ o => o ≠ .rollback)
        ((Host.session {} { encoding := .utf16 }).upsert "Zürich" [1, 2] none).2 t →
          t.store.Fits ∧ t.store.Stays := by
  have hopened : ((Host.session {} { encoding := .utf16 }).upsert "Zürich" [1, 2] none).2.Opened
      { encoding := .utf16 } := (Host.opened_session (by decide)).trans (.upsert _ _ _ _)
  exact ⟨hopened, (fits_iff hopened rfl (by decide)).mpr (by decide)⟩

end Session

/-! ## Entries that do not fit -/

/-- A file that is not encrypted is read as the entries whose form it holds. -/
theorem Target.reads_form {t : Target} {disk : Disk} {es : List Entry} (hcipher : t.cipher = none)
    (h : Encodable t.encoding es) (hread : disk.read t.path = .ok (form t.encoding es)) :
    t.reads disk = .ok (ofEntries t.comparer es, false) := by
  have hplain : t.Seals (form t.encoding es) (form t.encoding es) := by
    rw [Seals, hcipher]
  have hne : form t.encoding es ≠ [] := by
    intro hnil
    have hlength := length_form t.encoding es
    rw [hnil, List.length_nil, headerSize] at hlength
    omega
  rw [reads_of_read hread]
  exact decodeContent_of_seals hplain hne (decode_form h _)

/-- What the first session has, if the folder of its file is there. -/
theorem Host.session_of_reads {h : Host} {c : Config} {t : Target} {d : Dictionary}
    {degraded : Bool} (ht : t.Serves c)
    (hfolder : Path.folder t.path ≠ "" → h.disk.isThere (Path.folder t.path) = true)
    (hreads : t.reads h.disk = .ok (d, degraded)) :
    (h.session c).Opened c ∧ (h.session c).store.entries = d
      ∧ (h.session c).store.estimate = h.disk.fileLength t.path
      ∧ (h.session c).store.closed = false := by
  obtain ⟨archive, h', hopen⟩ := openStore_eq_of_reads ht hfolder hreads
  have hok : (h.openStore c).1.isOk = true := by
    rw [hopen]
    rfl
  have hopened : (h.session c).Opened c := opened_session hok
  rw [openStore_eq_session hok] at hopen
  have hstore := Except.ok.inj (congrArg Prod.fst hopen)
  rw [hstore]
  exact ⟨hopened, rfl, rfl, rfl⟩

namespace Session

/-- A store with keys in UTF-16. -/
def atlas : Config := { path := some "f", encoding := .utf16 }

/-- A key whose characters take three bytes each in UTF-8 and two in UTF-16. -/
def euros (n : Nat) : String := String.ofList (List.replicate n '€')

theorem utf8ByteSize_euros (n : Nat) : (euros n).utf8ByteSize = 3 * n := by
  induction n with
  | zero => rfl
  | succ n ih =>
    have hsize : '€'.utf8Size = 3 := by decide
    rw [euros] at ih
    rw [euros, List.replicate_succ, Text.Utf16.utf8ByteSize_ofList_cons, ih, hsize]
    omega

theorem length_euros (n : Nat) : KeyEncoding.utf16.length (euros n) = 2 * n := by
  have hlength : KeyEncoding.utf16.length (euros n) = 2 * (Text.Utf16.units (euros n)).length :=
    Text.Utf16.length_toBytes _
  have hone : (Text.Utf16.unitsOf '€').length = 1 := by decide
  have hunits : (Text.Utf16.units (euros n)).length = n * 1 := by
    rw [Text.Utf16.units, euros, String.toList_ofList, List.length_flatMap, List.map_replicate,
      hone, List.sum_replicate, smul_eq_mul]
  rw [hlength, hunits, Nat.mul_one]

theorem euros_ne (n : Nat) : euros n ≠ "b" := by
  intro heq
  have hsize := utf8ByteSize_euros n
  have hone : "b".utf8ByteSize = 1 := by decide
  rw [heq, hone] at hsize
  omega

/-- An entry with such a key, and one with a long value. -/
def atlasEntries (n m : Nat) : List Entry :=
  [{ key := euros n, value := some [] }, { key := "b", value := some (List.replicate m 7) }]

/-- The session after a store was opened whose file holds the two. -/
def atlasOpened (n m : Nat) : Session :=
  Host.session { disk := { nodes := [(["f"], .file (form .utf16 (atlasEntries n m)))] } } atlas

theorem entries_ofEntries_atlas (n m : Nat) :
    (ofEntries .ordinal (atlasEntries n m)).entries = atlasEntries n m := by
  refine entries_ofEntries ?_
  show [euros n, "b"].Nodup
  simpa using euros_ne n

theorem length_form_atlas (n m : Nat) :
    (form .utf16 (atlasEntries n m)).length = 2 * n + m + 22 := by
  have hkey : (KeyEncoding.utf16.encode (euros n)).length = 2 * n := length_euros n
  have hshort : (KeyEncoding.utf16.encode "b").length = 2 := by decide
  rw [length_form]
  show headerSize + (entryOverhead + (KeyEncoding.utf16.encode (euros n)).length + 0
      + (entryOverhead + (KeyEncoding.utf16.encode "b").length + (List.replicate m 7).length + 0))
    = _
  rw [hkey, hshort, List.length_replicate, headerSize, entryOverhead]
  omega

theorem encodable_atlas {n m : Nat} (hn : 2 * n < Bytes.bound 4) (hm : 2 * m < Bytes.bound 4) :
    Encodable .utf16 (atlasEntries n m) := by
  refine ⟨(by decide : 2 < Bytes.bound 4), ?_⟩
  intro e he
  have hshort : (KeyEncoding.utf16.encode "b").length < Bytes.bound 4 := by decide
  have hempty : 2 * 0 < Bytes.bound 4 := by decide
  rcases List.mem_pair.mp he with rfl | rfl
  · exact ⟨(length_euros n).trans_lt hn, hempty⟩
  · refine ⟨hshort, ?_⟩
    show 2 * (List.replicate m (7 : UInt8)).length < Bytes.bound 4
    rwa [List.length_replicate]

/-- It was opened with the two entries, and with the length of the file as its estimate. -/
theorem opened_atlas {n m : Nat} (hn : 2 * n < Bytes.bound 4) (hm : 2 * m < Bytes.bound 4) :
    (atlasOpened n m).Opened atlas
      ∧ (atlasOpened n m).store.entries = ofEntries .ordinal (atlasEntries n m)
      ∧ (atlasOpened n m).store.estimate = 2 * n + m + 22
      ∧ (atlasOpened n m).store.closed = false := by
  obtain ⟨t, ht⟩ : ∃ t : Target, t =
      { path := "f", comparer := .ordinal, encoding := .utf16, cipher := none, strict := false } :=
    ⟨_, rfl⟩
  have hserves : t.Serves atlas := by
    subst ht
    exact ⟨rfl, rfl, rfl, rfl, rfl, Nat.le_refl _⟩
  obtain ⟨disk, hdisk⟩ : ∃ disk : Disk,
    disk = { nodes := [(["f"], .file (form .utf16 (atlasEntries n m)))] } := ⟨_, rfl⟩
  have hread : disk.read t.path = .ok (form .utf16 (atlasEntries n m)) := by
    subst ht hdisk
    rfl
  have hreads : t.reads disk = .ok (ofEntries .ordinal (atlasEntries n m), false) := by
    subst ht
    exact Target.reads_form rfl (encodable_atlas hn hm) hread
  have hlength : disk.fileLength t.path = 2 * n + m + 22 := by
    rw [Disk.fileLength, hread]
    exact length_form_atlas n m
  have hfolder : Path.folder t.path ≠ "" → disk.isThere (Path.folder t.path) = true := by
    subst ht
    exact fun hne => absurd (by decide) hne
  have hopened := Host.session_of_reads (h := { disk }) hserves hfolder hreads
  rw [hlength, hdisk] at hopened
  exact hopened

/-- The session after the first of the two entries was removed. -/
def atlasPruned (n m : Nat) : Session := ((atlasOpened n m).remove (euros n)).2

/-- The removal takes six bytes off for each character of the key, and the other entry stays. -/
theorem opened_atlasPruned {n m : Nat} (hn : 2 * n < Bytes.bound 4) (hm : 2 * m < Bytes.bound 4) :
    (atlasPruned n m).Opened atlas
      ∧ (atlasPruned n m).store.estimate = 2 * n + m + 22 - 6 * n
      ∧ (atlasPruned n m).store.entries.entries
        = [{ key := "b", value := some (List.replicate m 7) }] := by
  obtain ⟨hopened, hentries, hestimate, hopen⟩ := opened_atlas hn hm
  have horderly := hopened.serves.orderly
  have hboth : (atlasOpened n m).store.entries.entries = atlasEntries n m := by
    rw [hentries, entries_ofEntries_atlas]
  have hget : (atlasOpened n m).store.entries.get? (euros n)
      = some { key := euros n, value := some [] } := by
    rw [horderly.get?_eq_some_iff, hboth]
    exact ⟨List.mem_cons_self, rfl⟩
  have hleft : (atlasPruned n m).store.memory
      = ((atlasOpened n m).store.discard (euros n)).2.memory := by
    rw [atlasPruned, remove_of_some hopen hget]
    exact memory_saveThen (fun _ => Store.memory_announce _ _) _ _
  rw [Store.discard_of_some hget] at hleft
  refine ⟨hopened.trans (.remove _ _), ?_, ?_⟩
  · have hremoved : (atlasPruned n m).store.estimate
        = (atlasOpened n m).store.estimate - (atlasOpened n m).store.entrySize (euros n) [] :=
      (congrArg Store.estimate hleft :)
    have hcharge : (atlasOpened n m).store.entrySize (euros n) [] = 6 * n := by
      rw [Store.entrySize_eq, hopened.serves.config, KeyEncoding.charge, utf8ByteSize_euros]
      show 3 * n * 2 + 0 = 6 * n
      omega
    rw [hremoved, hcharge, hestimate]
  · have hkept : (atlasPruned n m).store.entries = (atlasOpened n m).store.entries.erase (euros n) :=
      (congrArg Store.entries hleft :)
    have hperm := horderly.entries_perm_erase hget
    rw [hboth, atlasEntries, List.perm_cons] at hperm
    rw [hkept]
    exact List.perm_singleton.mp hperm.symm

theorem length_form_pruned (m : Nat) :
    (form .utf16 [{ key := "b", value := some (List.replicate m 7) }]).length = m + 14 := by
  have hshort : (KeyEncoding.utf16.encode "b").length = 2 := by decide
  rw [length_form, List.map_singleton, List.sum_singleton, hshort]
  show headerSize + (entryOverhead + 2 + (List.replicate m 7).length) = m + 14
  rw [List.length_replicate, headerSize, entryOverhead]
  omega

theorem encodable_pruned {m : Nat} (hm : 2 * m < Bytes.bound 4) :
    Encodable .utf16 [{ key := "b", value := some (List.replicate m 7) }] := by
  have hboth := encodable_atlas (n := 0) (by decide) hm
  exact ⟨(by decide : 1 < Bytes.bound 4), fun e he => hboth.fits e (List.mem_cons_of_mem _ he)⟩

/-- What a removal leaves need not fit, and rendering it moves it into a larger buffer. -/
theorem not_fits_atlas :
    (atlasPruned 600 2100).Opened atlas ∧ atlas.encoding = .utf16
      ∧ ¬(atlasPruned 600 2100).store.Fits ∧ ¬(atlasPruned 600 2100).store.Stays := by
  have hsmall : 2 * 2100 < Bytes.bound 4 := by decide
  obtain ⟨hopened, hestimate, hentries⟩ := opened_atlasPruned (n := 600) (by decide) hsmall
  generalize (atlasPruned 600 2100) = s at hopened hestimate hentries ⊢
  have hconfig : s.store.config.encoding = .utf16 := congrArg Config.encoding hopened.serves.config
  have hsize : s.store.entries.size = 1 := by
    rw [← length_entries, hentries]
    rfl
  have hlength : (form .utf16 s.store.entries.entries).length = 2114 := by
    rw [hentries, length_form_pruned]
  have hreserve : Target.reserve s.store.entries s.store.estimate = 1036 := by
    rw [Target.reserve, hestimate, hsize, headerSize, entryOverhead, reservedHeadroom]
  have hcapacity : (Target.rented s.store.entries s.store.estimate {}).out.capacity = 2048 := by
    rw [Target.rented, hreserve]
    rfl
  refine ⟨hopened, rfl, ?_, ?_⟩
  · rw [Store.Fits, hconfig, hlength, hreserve]
    decide
  · intro hstays
    obtain ⟨t, -, ht⟩ := hopened.serves.archive.eq_file (show atlas.filePath = some "f" from rfl)
    have hencoding : t.encoding = .utf16 := ht.encoding
    have hfits : Encodable t.encoding (s.host.order.arrange s.store.entries.entries) := by
      refine Encodable.perm ?_ (s.host.order.perm _)
      rw [hencoding, hentries]
      exact encodable_pruned hsmall
    obtain ⟨w, hw, -⟩ := (Writer.putEntries_writes
      (Target.sound_rented s.store.entries s.store.estimate {}) t.encoding
      (s.host.order.arrange s.store.entries.entries)).isOk hfits
    have hle := (Target.capacity_eq_iff hw).mp
      (hstays t s.host.order {} w (hencoding.trans hconfig.symm) hw)
    rw [hencoding, hlength, hcapacity] at hle
    omega

end Session

end Coffer
