import Coffer.Proofs.NormalForms
import Coffer.Proofs.Operations
import Coffer.Proofs.Starts
import Coffer.Table
import Coffer.Value.Layout

/-!
# Listing and looking up

A table lists the keys whose start it can cut off, and it finds the keys whose normal forms are
those of its own keys. The two agree on every entry but those that *stray* (`Table.agrees_iff`). If
no entry strays, a table has a key exactly if it lists one that is equal to it.

With regard to case no entry strays. Without it, there are two ways to:

* The start is hidden by a Kelvin sign. Such an entry is found, but not listed.
* The start has a capital where the table's has none, or the other way round, and the rest does not
  settle whether the whole is lowercased: it has no capital, but a letter that has another small
  letter all the same, which is a titlecase letter such as ǅ. Such an entry *forks*. It is listed,
  but under a key that does not find it.

What a table writes itself does not stray (`Comparer.not_strays_append`). Keys that do come from
writing to the store without a table.
-/

namespace Coffer

namespace Comparer

open Text

variable {c : Comparer} {start key rest : String}

/-! ## Normal forms -/

/-- The text has a capital, or nothing to lowercase. -/
def Settled (xs : List Char) : Prop :=
  xs.any isUppercase = true ∨ xs.map lowercaseOne = xs

instance : DecidablePred Settled := fun _ => inferInstanceAs (Decidable (_ ∨ _))

theorem settled_append {head tail : List Char} (hhead : ∀ ch ∈ head, IsAscii ch) :
    Settled (head ++ tail) ↔ head.any isUppercase = true ∨ Settled tail := by
  rw [Settled, Settled, List.any_append, Bool.or_eq_true, or_assoc]
  cases hupper : head.any isUppercase with
  | true => simp
  | false =>
    rw [List.map_append, map_lowercaseOne_of_isAscii hhead hupper, List.append_right_inj]

/-- A text without capitals is lowercased letter by letter. -/
theorem toList_lowercase_of_no_uppercase (h : key.toList.any isUppercase = false) :
    (lowercase key).toList = key.toList.map lowercaseOne := by
  rw [lowercase, String.toList_ofList]
  exact lowercaseFrom_eq_map (isSimple_of_no_uppercase h) false

/-- **The normal form of a key is its lowercase if the key is settled**, and only then. -/
theorem normalize_eq_lowercase_iff (key : String) :
    normalize .ignoreCase key = lowercase key ↔ Settled key.toList := by
  rw [normalize, Settled]
  cases hupper : key.toList.any isUppercase with
  | true => simp
  | false =>
    simp only [Bool.false_eq_true, if_false, false_or]
    rw [← String.toList_inj, toList_lowercase_of_no_uppercase hupper, eq_comm]

/-- A key is lowercased to the same, however the case of its start is. -/
theorem lowercase_eq_of_starts (hplain : Plain .ignoreCase start)
    (h : Starts .ignoreCase start key) (hrest : key.toList.drop start.length = rest.toList) :
    lowercase key = lowercase (start ++ rest) := by
  have hfolded : (key.toList.take start.length).map lowercaseOne = start.toList.map lowercaseOne :=
    starts_iff_take.mp h
  have hascii : ∀ ch ∈ (key.toList.take start.length).map lowercaseOne, IsAscii ch :=
    fun ch hch => hplain.folded.1 ch (by rwa [hfolded] at hch)
  have hsimple : ∀ ch ∈ key.toList.take start.length, IsSimple ch := fun ch hch =>
    isSimple_of_isAscii_lowercaseOne (hascii _ (List.mem_map_of_mem hch))
  have hsimple' : ∀ ch ∈ start.toList, IsSimple ch := fun ch hch => (hplain.1 ch hch).isSimple
  -- both heads are alike to what follows
  have hnext : (key.toList.take start.length).foldl nextAfterCased false
      = start.toList.foldl nextAfterCased false := by
    rw [← foldl_nextAfterCased_map hascii, hfolded,
      foldl_nextAfterCased_map (hfolded ▸ hascii)]
  rw [lowercase, lowercase, String.toList_append, lowercaseFrom_append hsimple', ← hrest, ← hnext,
    ← hfolded, ← lowercaseFrom_append hsimple, List.take_append_drop]

/-! ## Keys that stray -/

/-- A key and the start have different cases, and what follows does not settle whether the whole is
lowercased. -/
def Forks (c : Comparer) (start key : String) : Prop :=
  c = .ignoreCase ∧ c.Starts start key
    ∧ (key.toList.take start.length).any isUppercase ≠ start.toList.any isUppercase
    ∧ ¬Settled (key.toList.drop start.length)

/-- A key starts with a text, but a listing and a look-up do not agree about it. -/
def Strays (c : Comparer) (start key : String) : Prop := c.Hides start key ∨ c.Forks start key

instance (c : Comparer) (start key : String) : Decidable (c.Forks start key) :=
  inferInstanceAs (Decidable (_ ∧ _ ∧ _ ∧ _))

instance (c : Comparer) (start key : String) : Decidable (c.Strays start key) :=
  inferInstanceAs (Decidable (_ ∨ _))

/-- What is written behind the start itself does not stray. -/
theorem not_strays_append (hplain : c.Plain start) (rest : String) :
    ¬c.Strays start (start ++ rest) := by
  have htake : (start ++ rest).toList.take start.length = start.toList := by
    rw [String.toList_append, ← String.length_toList, List.take_left]
  rintro (⟨rfl, -, hkelvin⟩ | ⟨-, -, hupper, -⟩)
  · rw [htake] at hkelvin
    exact absurd (hplain.1 kelvin hkelvin) (by decide)
  · exact hupper (by rw [htake])

/-- **The key that a listing gives finds what it was cut from, unless that forks.** -/
theorem normalize_eq_iff_not_forks (hplain : c.Plain start) (h : c.Starts start key)
    (hhides : ¬c.Hides start key) (hrest : key.toList.drop start.length = rest.toList) :
    c.normalize key = c.normalize (start ++ rest) ↔ ¬c.Forks start key := by
  have hkey : key.toList = key.toList.take start.length ++ rest.toList := by
    rw [← hrest, List.take_append_drop]
  have hfolded := starts_iff_take.mp h
  cases c with
  | ordinal =>
    have hhead : key.toList.take start.length = start.toList := hfolded
    rw [hhead, ← String.toList_append] at hkey
    exact iff_of_true (String.toList_inj.mp hkey) fun hforks => by cases hforks.1
  | ignoreCase =>
    have hhead := h.isAscii_take hplain hhides
    have hlower := lowercase_eq_of_starts hplain h hrest
    have hkey_lowers : normalize .ignoreCase key = lowercase key
        ↔ (key.toList.take start.length).any isUppercase = true ∨ Settled rest.toList := by
      rw [normalize_eq_lowercase_iff, ← settled_append hhead, ← hkey]
    have hown_lowers : normalize .ignoreCase (start ++ rest) = lowercase (start ++ rest)
        ↔ start.toList.any isUppercase = true ∨ Settled rest.toList := by
      rw [normalize_eq_lowercase_iff, String.toList_append, settled_append hplain.1]
    have hforks : ¬Forks .ignoreCase start key
        ↔ ((key.toList.take start.length).any isUppercase = true ∨ Settled rest.toList
          ↔ start.toList.any isUppercase = true ∨ Settled rest.toList) := by
      rw [Forks, hrest, Ne, Bool.eq_iff_iff]
      by_cases hsettled : Settled rest.toList <;> simp [h, hsettled]
    rw [hforks, ← hkey_lowers, ← hown_lowers]
    constructor
    · intro heq
      rw [heq, hlower]
    · intro hboth
      by_cases hlowers : normalize .ignoreCase key = lowercase key
      · rw [hlowers, hboth.mp hlowers, hlower]
      · -- neither is lowercased, so neither start has a capital, and they are spelled alike
        have hupper : (key.toList.take start.length).any isUppercase = false :=
          Bool.eq_false_iff.mpr fun hupper => hlowers (hkey_lowers.mpr (.inl hupper))
        have hupper' : start.toList.any isUppercase = false := Bool.eq_false_iff.mpr fun hupper =>
          hlowers (hboth.mpr (hown_lowers.mpr (.inl hupper)))
        have hspelled : key.toList.take start.length = start.toList := by
          rw [← map_lowercaseOne_of_isAscii hhead hupper,
            ← map_lowercaseOne_of_isAscii hplain.1 hupper']
          exact hfolded
        rw [hspelled, ← String.toList_append] at hkey
        rw [String.toList_inj.mp hkey]

/-- **A key whose start is hidden is found**, though not by what a listing would give. -/
theorem Hides.exists_normalize_eq (h : c.Hides start key) (hplain : c.Plain start) :
    ∃ rest, c.normalize key = c.normalize (start ++ rest) := by
  obtain ⟨rfl, hstarts, hkelvin⟩ := h
  have hsettled : Settled key.toList :=
    .inl (List.any_eq_true.mpr ⟨kelvin, List.mem_of_mem_take hkelvin, isUppercase_kelvin⟩)
  have hlower : lowercase key
      = lowercase (start ++ String.ofList (key.toList.drop start.length)) :=
    lowercase_eq_of_starts hplain hstarts String.toList_ofList.symm
  rw [(normalize_eq_lowercase_iff key).mpr hsettled, hlower]
  generalize String.ofList (key.toList.drop start.length) = rest
  by_cases hown : Settled (start ++ rest).toList
  · exact ⟨rest, ((normalize_eq_lowercase_iff _).mpr hown).symm⟩
  · -- what follows has no capital, so its small letters make the same key
    have hupper : (start ++ rest).toList.any isUppercase = false := by
      rw [← Bool.not_eq_true]
      exact fun hupper => hown (.inl hupper)
    have hstart : start.toList.map lowercaseOne = start.toList := by
      rw [String.toList_append, List.any_append, Bool.or_eq_false_iff] at hupper
      exact map_lowercaseOne_of_isAscii hplain.1 hupper.1
    have hsmall : start ++ String.ofList (rest.toList.map lowercaseOne)
        = lowercase (start ++ rest) := by
      rw [← String.toList_inj, toList_lowercase_of_no_uppercase hupper, String.toList_append,
        String.toList_append, List.map_append, hstart, String.toList_ofList]
    exact ⟨_, by rw [hsmall, normalize_lowercase]⟩

end Comparer

/-! ## Tables -/

namespace Table

variable {α : Type} {c : Config} {s : Session} {t : Table α}

/-- What the table lists and what it finds are the same entries. -/
structure Agrees (t : Table α) (s : Session) : Prop where
  /-- A key that is listed finds the entry that it was cut from. -/
  finds : ∀ e ∈ s.store.entries.entries, ∀ key,
    s.store.comparer.after? t.start e.key = some key →
      s.store.entries.get? (t.storedKey key) = some e
  /-- An entry that is found is listed. -/
  lists : ∀ key e, s.store.entries.get? (t.storedKey key) = some e →
    (s.store.comparer.after? t.start e.key).isSome

theorem mem_keys {key : String} :
    key ∈ t.keys s ↔ ∃ e ∈ s.store.entries.entries,
      s.store.comparer.after? t.start e.key = some key := by
  simp only [keys, Dictionary.keys, List.mem_filterMap, List.mem_map]
  constructor
  · rintro ⟨_, ⟨e, he, rfl⟩, hkey⟩
    exact ⟨e, he, hkey⟩
  · rintro ⟨e, he, hkey⟩
    exact ⟨e.key, ⟨e, he, rfl⟩, hkey⟩

section Orderly

variable (horderly : s.store.entries.Orderly)

include horderly

/-- A table that agrees with itself has a key if it lists one that is equal to it. -/
theorem Agrees.contains_iff (h : t.Agrees s) (key : String) :
    t.contains s key = true ↔ ∃ listed ∈ t.keys s,
      s.store.comparer.normalize (t.storedKey listed)
        = s.store.comparer.normalize (t.storedKey key) := by
  rw [contains, Dictionary.contains, Option.isSome_iff_exists]
  constructor
  · rintro ⟨e, he⟩
    obtain ⟨listed, hlisted⟩ := Option.isSome_iff_exists.mp (h.lists key e he)
    obtain ⟨hmem, hkey⟩ := horderly.get?_eq_some_iff.mp he
    obtain ⟨-, hfound⟩ := horderly.get?_eq_some_iff.mp (h.finds e hmem listed hlisted)
    exact ⟨listed, mem_keys.mpr ⟨e, hmem, hlisted⟩, hfound.symm.trans hkey⟩
  · rintro ⟨listed, hlisted, hkey⟩
    obtain ⟨e, hmem, he⟩ := mem_keys.mp hlisted
    obtain ⟨-, hfound⟩ := horderly.get?_eq_some_iff.mp (h.finds e hmem listed he)
    exact ⟨e, horderly.get?_eq_some_iff.mpr ⟨hmem, hfound.trans hkey⟩⟩

/-- What a table that agrees with itself finds is among what it may remove. -/
theorem Agrees.mem_candidates (h : t.Agrees s) {key : String} {e : Entry}
    (he : s.store.entries.get? (t.storedKey key) = some e) :
    ∃ listed, (e.key, listed) ∈ s.candidates (some t.start) := by
  obtain ⟨hmem, -⟩ := horderly.get?_eq_some_iff.mp he
  obtain ⟨listed, hlisted⟩ := Option.isSome_iff_exists.mp (h.lists key e he)
  refine ⟨listed, List.mem_filterMap.mpr ⟨e, (s.host.order.perm _).mem_iff.mpr hmem, ?_⟩⟩
  exact Option.map_eq_some_iff.mpr ⟨listed, hlisted, rfl⟩

/-- **A table agrees with itself on all entries but those that stray.** -/
theorem agrees_iff_not_strays (hplain : s.store.comparer.Plain t.start) :
    t.Agrees s ↔ ∀ e ∈ s.store.entries.entries, ¬s.store.comparer.Strays t.start e.key := by
  constructor
  · intro h e he hstrays
    by_cases hhides : s.store.comparer.Hides t.start e.key
    · -- it is found, but not listed
      obtain ⟨key, hkey⟩ := hhides.exists_normalize_eq hplain
      have hlisted := h.lists key e (horderly.get?_eq_some_iff.mpr ⟨he, hkey⟩)
      obtain ⟨listed, hlisted⟩ := Option.isSome_iff_exists.mp hlisted
      exact ((Comparer.after?_eq_some_iff hplain).mp hlisted).2.1 hhides
    · -- it is listed, but what is listed does not find it
      have hforks := hstrays.resolve_left hhides
      obtain ⟨-, hstarts, -⟩ := hforks
      have hrest : e.key.toList.drop t.start.length
          = (String.ofList (e.key.toList.drop t.start.length)).toList :=
        String.toList_ofList.symm
      have hfound := h.finds e he _
        ((Comparer.after?_eq_some_iff hplain).mpr ⟨hstarts, hhides, hrest⟩)
      have hkey := (horderly.get?_eq_some_iff.mp hfound).2
      exact (Comparer.normalize_eq_iff_not_forks hplain hstarts hhides hrest).mp hkey
        (hstrays.resolve_left hhides)
  · intro h
    refine ⟨?_, ?_⟩
    · intro e he key hkey
      obtain ⟨hstarts, hhides, hrest⟩ := (Comparer.after?_eq_some_iff hplain).mp hkey
      refine horderly.get?_eq_some_iff.mpr ⟨he, ?_⟩
      exact (Comparer.normalize_eq_iff_not_forks hplain hstarts hhides hrest).mpr
        fun hforks => h e he (.inr hforks)
    · intro key e hfound
      obtain ⟨he, hkey⟩ := horderly.get?_eq_some_iff.mp hfound
      have hstarts := (Comparer.starts_append _ t.start key).of_normalize_eq hplain hkey.symm
      have hlisted := (Comparer.after?_eq_some_iff hplain).mpr
        ⟨hstarts, fun hhides => h e he (.inl hhides), String.toList_ofList.symm⟩
      exact Option.isSome_of_eq_some hlisted

end Orderly

/-- **What a table lists is what it finds, but for the entries that stray.** If none does, the table
has a key exactly if it lists one that is equal to it. With regard to case none does, and without it
the tag has to be ASCII. -/
theorem agrees_iff (hs : s.Opened c)
    (hascii : s.store.comparer = .ignoreCase → ∀ ch ∈ t.tag.toList, Text.IsAscii ch) :
    (t.Agrees s ↔ ∀ e ∈ s.store.entries.entries, ¬s.store.comparer.Strays t.start e.key)
      ∧ (s.store.comparer = .ordinal → t.Agrees s)
      ∧ (t.Agrees s → ∀ key, t.contains s key = true ↔ ∃ listed ∈ t.keys s,
        s.store.comparer.normalize (t.storedKey listed)
          = s.store.comparer.normalize (t.storedKey key))
      ∧ (t.Agrees s → ∀ key e, s.store.entries.get? (t.storedKey key) = some e →
        ∃ listed, (e.key, listed) ∈ s.candidates (some t.start)) := by
  have horderly := hs.serves.orderly
  have hiff := agrees_iff_not_strays horderly (Comparer.plain_append_colon hascii)
  refine ⟨hiff, ?_, fun h => h.contains_iff horderly, fun h _ _ => h.mem_candidates horderly⟩
  intro hordinal
  refine hiff.mpr fun e he hstrays => ?_
  rcases hstrays with hhides | hforks
  · cases hordinal.symm.trans hhides.1
  · cases hordinal.symm.trans hforks.1

/-- A table of users. -/
def users : Table UInt8 := .ofType "User" Layout.u8.codec

/-- A table of tasks. -/
def tasks : Table UInt8 := .ofType "Task" Layout.u8.codec

/-- A table of groups. -/
def groups : Table UInt8 := .ofType "Group" Layout.u8.codec

/-- A store that ignores case. Its keys were written without a table: the first forks, the second
has its start hidden, and the third is spelled as no table would do it. -/
def roster : Session :=
  let s := Host.session {} { ignoreCase := true }
  let s := (s.upsert "user:ǅ" [7] none).2
  let s := (s.upsert "Tas\u212A:a" [8] none).2
  (s.upsert "GROUP:Σας" [9] none).2

theorem opened_roster : roster.Opened { ignoreCase := true } := by
  have hopened : (Host.session {} { ignoreCase := true }).Opened { ignoreCase := true } :=
    Host.opened_session (by decide)
  exact ((hopened.trans (.upsert _ _ _ _)).trans (.upsert _ _ _ _)).trans (.upsert _ _ _ _)

set_option maxRecDepth 8000 in
/-- Of the three tables only the last agrees with itself. -/
theorem agrees_iff_roster :
    roster.Opened { ignoreCase := true } ∧ (∀ ch ∈ users.tag.toList, Text.IsAscii ch)
      ∧ (∀ ch ∈ tasks.tag.toList, Text.IsAscii ch) ∧ (∀ ch ∈ groups.tag.toList, Text.IsAscii ch)
      ∧ ¬users.Agrees roster ∧ ¬tasks.Agrees roster ∧ groups.Agrees roster := by
  have htags : Comparer.IsTag users.tag ∧ Comparer.IsTag tasks.tag ∧ Comparer.IsTag groups.tag := by
    decide
  have husers : ∀ ch ∈ users.tag.toList, Text.IsAscii ch := fun ch hch => (htags.1 ch hch).1
  have htasks : ∀ ch ∈ tasks.tag.toList, Text.IsAscii ch := fun ch hch => (htags.2.1 ch hch).1
  have hgroups : ∀ ch ∈ groups.tag.toList, Text.IsAscii ch := fun ch hch => (htags.2.2 ch hch).1
  refine ⟨opened_roster, husers, htasks, hgroups, ?_, ?_, ?_⟩
  · rw [(agrees_iff opened_roster fun _ => husers).1]
    decide
  · rw [(agrees_iff opened_roster fun _ => htasks).1]
    decide
  · rw [(agrees_iff opened_roster fun _ => hgroups).1]
    decide

set_option maxRecDepth 8000 in
/-- The table of users lists a key that it does not have, and the table of tasks has one that it
does not list. -/
theorem not_agrees_roster :
    roster.Opened { ignoreCase := true }
      ∧ (users.keys roster = ["ǅ"] ∧ users.contains roster "ǅ" = false)
      ∧ (tasks.contains roster "a" = true ∧ tasks.keys roster = [])
      ∧ ¬∀ key, users.contains roster key = true ↔ ∃ listed ∈ users.keys roster,
        roster.store.comparer.normalize (users.storedKey listed)
          = roster.store.comparer.normalize (users.storedKey key) := by
  have hkeys : users.keys roster = ["ǅ"] := by decide
  have hcontains : users.contains roster "ǅ" = false := by decide
  refine ⟨opened_roster, ⟨hkeys, hcontains⟩, by decide, fun hall => ?_⟩
  have hfound := (hall "ǅ").mpr ⟨"ǅ", by rw [hkeys]; exact List.mem_singleton_self _, rfl⟩
  rw [hcontains] at hfound
  cases hfound

end Table

end Coffer
