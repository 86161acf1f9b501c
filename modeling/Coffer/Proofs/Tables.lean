import Coffer.Proofs.Starts
import Coffer.Proofs.Touching
import Coffer.Table
import Coffer.Value.Layout

/-!
# Tables do not see each other

What is done through one table makes no difference to another one (`Table.unchanged_run`), whatever
the keys are, as long as the two tags are ASCII without colons and differ under the comparer.

Who looks for keys with a start is *spared* by an operation on keys that do not start with it: the
look-ups find what they found, the listing has what it had, and the keyring hands out the same
ciphers (`Session.Spares`). A look-up compares normal forms and a listing cuts off heads, and both
agree on how a key starts letter by letter. So it is enough that no key starts with two tags.

Values may be read and sealed under passphrases of their own, which the keyring then remembers. That
is no difference to others either, if the keyring is linked.
-/

namespace Coffer

/-! ## What is not looked for -/

namespace Dictionary

/-- From one dictionary to the other nothing has changed about the keys that start with a text. -/
structure Spares (start : String) (d d' : Dictionary) : Prop where
  comparer : d'.comparer = d.comparer
  get? : ∀ key, d.comparer.Starts start key → d'.get? key = d.get? key
  listed : d'.keys.filterMap (d'.comparer.after? start)
    = d.keys.filterMap (d.comparer.after? start)

variable {start key : String} {d d' d'' : Dictionary}

theorem Spares.refl (start : String) (d : Dictionary) : d.Spares start d :=
  ⟨rfl, fun _ _ => rfl, rfl⟩

theorem Spares.trans (h : Spares start d d') (h' : Spares start d' d'') : Spares start d d'' where
  comparer := h'.comparer.trans h.comparer
  get? key hkey := (h'.get? key (h.comparer ▸ hkey)).trans (h.get? key hkey)
  listed := h'.listed.trans h.listed

theorem spares_insert (hplain : d.comparer.Plain start) (hkey : ¬d.comparer.Starts start key)
    (value : Option Bytes) : d.Spares start (d.insert key value) where
  comparer := comparer_insert d key value
  get? other hother := by
    rw [get?_insert, if_neg]
    exact fun hnormal => hkey (hother.of_normalize_eq hplain hnormal)
  listed := by
    rw [comparer_insert]
    cases hget : d.get? key with
    | some e => rw [keys_insert_of_get?_eq_some hget]
    | none =>
      have hunlisted := Comparer.after?_eq_none hplain hkey
      rw [keys, entries, filed_insert_of_get?_eq_none hget, List.map_append, List.map_append,
        List.filterMap_append]
      simp [keys, entries, hunlisted]

theorem spares_erase (h : d.Orderly) (hplain : d.comparer.Plain start)
    (hkey : ¬d.comparer.Starts start key) : d.Spares start (d.erase key) where
  comparer := comparer_erase d key
  get? other hother := by
    rw [get?_erase, if_neg]
    exact fun hnormal => hkey (hother.of_normalize_eq hplain hnormal)
  listed := by
    simp only [keys, entries, erase, List.map_map, List.filterMap_map, List.filterMap_filter]
    apply List.filterMap_congr
    intro f hf
    split
    · rfl
    · next hindex =>
      -- what is erased has the normal form of the key, so it was not listed either
      have hnormal : d.comparer.normalize f.entry.key = d.comparer.normalize key := by
        rw [← h.index_eq f hf]
        simpa using hindex
      have hstarts : ¬d.comparer.Starts start f.entry.key := fun hstarts =>
        hkey (hstarts.of_normalize_eq hplain hnormal)
      exact (Comparer.after?_eq_none hplain hstarts).symm

end Dictionary

theorem Store.spares_discard {start key : String} {s : Store} (h : s.entries.Orderly)
    (hplain : s.comparer.Plain start) (hkey : ¬s.comparer.Starts start key) :
    s.entries.Spares start (s.discard key).2.entries := by
  cases hget : s.entries.get? key with
  | none => exact discard_of_none hget ▸ .refl start s.entries
  | some e => exact discard_of_some hget ▸ Dictionary.spares_erase h hplain hkey

namespace Session

/-- From one session to the other nothing has changed for those who look for keys that start with a
text. -/
structure Spares (start : String) (s s' : Session) : Prop where
  entries : s.store.entries.Spares start s'.store.entries
  linked : s.host.keyring.Linked → s'.host.keyring.Linked
  ciphers : s.host.keyring.Linked → ∀ passphrase,
    (s'.host.keyring.cipherFor passphrase).1 = (s.host.keyring.cipherFor passphrase).1

variable {start key : String} {s s' s'' : Session} {c : Config}

theorem Spares.refl (start : String) (s : Session) : s.Spares start s :=
  ⟨.refl start _, id, fun _ _ => rfl⟩

theorem Spares.trans (h : Spares start s s') (h' : Spares start s' s'') : Spares start s s'' where
  entries := h.entries.trans h'.entries
  linked hlinked := h'.linked (h.linked hlinked)
  ciphers hlinked passphrase :=
    (h'.ciphers (h.linked hlinked) passphrase).trans (h.ciphers hlinked passphrase)

/-- **Nothing else is read under a key that is spared.** -/
theorem Spares.get (h : Spares start s s') (hlinked : s.host.keyring.Linked)
    (hkey : s.store.comparer.Starts start key) (valueKey : Option String) :
    (s'.get key valueKey).1 = (s.get key valueKey).1 := by
  rw [get_fst, get_fst, h.entries.get? key hkey]
  simp only [Keyring.reveal, h.ciphers hlinked]

/-- **If no key with the start is touched, all of them are spared.** -/
theorem spares_of_touches {c : Comparer} (h : Touches (fun key => ¬c.Starts start key) s s')
    (hc : s.store.comparer = c) (hplain : c.Plain start) (horderly : s.store.entries.Orderly) :
    s.Spares start s' := by
  induction h with
  | trans h _ ih ih' => exact (ih hc horderly).trans (ih' (h.comparer.trans hc) (h.orderly horderly))
  | ask s passphrase =>
    exact ⟨.refl start _, (·.cipherFor passphrase), (·.cipherFor_cipherFor passphrase)⟩
  | @behind s t hmemory hkeyring =>
    have hentries : t.store.entries = s.store.entries := (congrArg Store.entries hmemory :)
    exact ⟨hentries ▸ .refl start _, fun hlinked => hkeyring ▸ hlinked, fun _ _ => by rw [hkeyring]⟩
  | @merge s p hp =>
    subst hc
    exact ⟨Dictionary.spares_insert hplain hp _, id, fun _ _ => rfl⟩
  | @discard s key hkey =>
    subst hc
    exact ⟨Store.spares_discard horderly hplain hkey, id, fun _ _ => rfl⟩

end Session

/-! ## Tables -/

namespace Table

variable {α β : Type} {c : Config} {s s' : Session} {t : Table α} {u : Table β}

/-- What can be done through a table. -/
inductive Act (α : Type) where
  | upsert (key : String) (v : α)
  | upsertMany (key : String) (vs : List α)
  | upsertIf (key : String) (v : α) (condition : α → Bool)
  | remove (key : String)
  | removeWhere (test : String → Bool)

/-- The session after something was done through the table. -/
def perform (t : Table α) (s : Session) : Act α → Session
  | .upsert key v => (t.upsert s key v).2
  | .upsertMany key vs => (t.upsertMany s key vs).2
  | .upsertIf key v condition => (t.upsertIf s key v condition).2
  | .remove key => (t.remove s key).2
  | .removeWhere test => (t.removeWhere s test).2

/-- The session after several things were done through the table, one after the other. -/
def run (t : Table α) (s : Session) (acts : List (Act α)) : Session := acts.foldl t.perform s

/-- Through the table one session looks like the other. -/
structure Unchanged (u : Table β) (s s' : Session) : Prop where
  contains : ∀ key, u.contains s' key = u.contains s key
  get : ∀ key, (u.get s' key).1 = (u.get s key).1
  getMany : ∀ key, (u.getMany s' key).1 = (u.getMany s key).1
  keys : u.keys s' = u.keys s
  size : u.size s' = u.size s

theorem unchanged_of_spares (h : s.Spares u.start s') (hlinked : s.host.keyring.Linked) :
    u.Unchanged s s' := by
  have hstored : ∀ key, s.store.comparer.Starts u.start (u.storedKey key) :=
    Comparer.starts_append s.store.comparer u.start
  have hkeys : u.keys s' = u.keys s := h.entries.listed
  exact
    { contains := fun key => congrArg Option.isSome (h.entries.get? _ (hstored key))
      get := fun key => congrArg (Option.bind · u.codec.decode?)
        (h.get hlinked (hstored key) u.valueKey)
      getMany := fun key => congrArg (Option.bind · u.codec.decodeMany?)
        (h.get hlinked (hstored key) u.valueKey)
      keys := hkeys
      size := congrArg List.length hkeys }

theorem reaches_perform (t : Table α) (s : Session) (a : Act α) : s.Reaches (t.perform s a) := by
  cases a with
  | upsert key v => exact .upsertEncoded s _ _ _
  | upsertMany key vs => exact .upsertEncoded s _ _ _
  | upsertIf key v condition => exact .upsertUnless s _ _ _ _
  | remove key => exact .remove s _
  | removeWhere test => exact .removeWhere s _ test

/-- What is done through one table touches no key of another. -/
theorem touches_perform (hidle : s.store.pending = []) (ht : Comparer.IsTag t.tag)
    (hu : Comparer.IsTag u.tag)
    (hne : s.store.comparer.folded t.tag.toList ≠ s.store.comparer.folded u.tag.toList)
    (a : Act α) :
    Session.Touches (fun key => ¬s.store.comparer.Starts u.start key) s (t.perform s a) := by
  have hapart : ∀ key, s.store.comparer.Starts t.start key →
      ¬s.store.comparer.Starts u.start key :=
    fun key h h' => hne (Comparer.folded_eq_of_starts ht hu h h')
  have hstored : ∀ key, ¬s.store.comparer.Starts u.start (t.storedKey key) := fun key =>
    hapart _ (Comparer.starts_append _ t.start key)
  cases a with
  | upsert key v => exact Session.touches_upsertEncoded hidle (hstored key) _ _
  | upsertMany key vs => exact Session.touches_upsertEncoded hidle (hstored key) _ _
  | upsertIf key v condition => exact Session.touches_upsertUnless hidle (hstored key) _ _ _
  | remove key => exact Session.touches_remove s (hstored key)
  | removeWhere test =>
    refine Session.touches_removeWhere s fun key hkey => ?_
    obtain ⟨rest, hrest, -⟩ := (Option.any_eq_true _ _).mp hkey
    exact hapart key ((Comparer.after?_eq_some_iff (ht.plain _)).mp hrest).1

/-- **Tables do not see each other.** Whatever is done through one table, through the other one the
store looks as before, if the tags are ASCII without colons and differ under the comparer. -/
theorem unchanged_run (hs : s.Opened c) (hlinked : s.host.keyring.Linked)
    (ht : Comparer.IsTag t.tag) (hu : Comparer.IsTag u.tag) (hne : t.tag ≠ u.tag)
    (hlower : s.store.comparer = .ignoreCase → Text.lowercase t.tag ≠ Text.lowercase u.tag)
    (acts : List (Act α)) : u.Unchanged s (t.run s acts) := by
  have hfolded := Comparer.folded_ne_of_lowercase_ne ht hu hne hlower
  suffices h : s.Spares u.start (t.run s acts) from unchanged_of_spares h hlinked
  clear hlinked hlower
  induction acts generalizing s with
  | nil => exact .refl u.start s
  | cons a acts ih =>
    have htouches := touches_perform hs.idle ht hu hfolded a
    have hfirst := Session.spares_of_touches htouches rfl (hu.plain _) hs.serves.orderly
    have hcomparer : (t.perform s a).store.comparer = s.store.comparer := hfirst.entries.comparer
    exact hfirst.trans (ih (hs.trans (reaches_perform t s a)) (hcomparer ▸ hfolded))

/-- A table of pages. -/
def pages : Table UInt8 := .ofType "library::Page" Layout.u8.codec

/-- A table of sets of pages, whose tag begins with that of the pages. -/
def pageSets : Table UInt8 := .ofType "library::PageSet" Layout.u8.codec

/-- A store that ignores case, with one entry in either table. -/
def library : Session :=
  pageSets.perform (pages.perform (Host.session {} { ignoreCase := true }) (.upsert "ΣΑΣ" 1))
    (.upsert "Σας" 2)

/-- Keys that look like those of the other table, and a removal of everything. -/
def pageActs : List (Act UInt8) :=
  [.upsert "Set:Σας" 3, .upsertIf "\u212A" 4 fun _ => true, .remove "set:ΣΑΣ",
    .removeWhere fun _ => true]

set_option maxRecDepth 8000 in
/-- The one table loses its entry, and the other one keeps its own. -/
theorem unchanged_run_library :
    library.Opened { ignoreCase := true } ∧ library.host.keyring.Linked
      ∧ Comparer.IsTag pages.tag ∧ Comparer.IsTag pageSets.tag ∧ pages.tag ≠ pageSets.tag
      ∧ Text.lowercase pages.tag ≠ Text.lowercase pageSets.tag
      ∧ pages.keys library = ["ΣΑΣ"] ∧ pages.keys (pages.run library pageActs) = []
      ∧ pageSets.keys library = ["Σας"]
      ∧ pageSets.Unchanged library (pages.run library pageActs) := by
  have hopened : library.Opened { ignoreCase := true } :=
    ((Host.opened_session (by decide)).trans (reaches_perform pages _ _)).trans
      (reaches_perform pageSets _ _)
  have hkeyring : library.host.keyring = {} := by decide
  have hlinked : library.host.keyring.Linked := hkeyring ▸ Keyring.linked_empty
  have hlower : Text.lowercase pages.tag ≠ Text.lowercase pageSets.tag := by decide
  exact ⟨hopened, hlinked, by decide, by decide, by decide, hlower,
    by decide, by decide, by decide,
    unchanged_run hopened hlinked (by decide) (by decide) (by decide)
      (fun _ => hlower) pageActs⟩

end Table

end Coffer
