import Coffer.Proofs.Following
import Coffer.Proofs.Reserves

/-!
# What a removal by a test removes

A removal by a test goes through the entries twice. First it collects the spellings of the entries
that are selected, and then it removes what each of these spellings finds. It removes exactly what
it selected (`removesExactly_removeWhere`), because in an orderly dictionary a spelling finds its own
entry and no other, also after some of the others are gone (`discardAll_map_key`).

The selected entries are counted, taken off the estimate, and told one by one after a save that
succeeds. If none is selected, the session stays as it is.
-/

namespace Coffer

/-! ## Removing entries by their spellings -/

/-- What is left is what has another normal form. -/
theorem Dictionary.Orderly.entries_erase {d : Dictionary} (h : d.Orderly) (key : String) :
    (d.erase key).entries
      = d.entries.filter fun e => d.comparer.normalize e.key ≠ d.comparer.normalize key := by
  rw [entries, entries, Dictionary.erase, List.filter_map]
  congr 1
  refine List.filter_congr fun f hf => ?_
  rw [h.index_eq f hf, Bool.eq_iff_iff]
  simp

namespace Store

variable {s : Store}

/-- **The spellings of some entries remove these entries and no others.** -/
theorem discardAll_map_key {es : List Entry} (horderly : s.entries.Orderly)
    (hmem : ∀ e ∈ es, e ∈ s.entries.entries)
    (hnodup : (es.map fun e => s.entries.comparer.normalize e.key).Nodup) :
    (s.discardAll (es.map (·.key))).1 = es
      ∧ (s.discardAll (es.map (·.key))).2.entries.entries = s.entries.entries.filter fun e =>
        ∀ o ∈ es, s.entries.comparer.normalize e.key ≠ s.entries.comparer.normalize o.key := by
  induction es generalizing s with
  | nil => exact ⟨rfl, by simp [discardAll]⟩
  | cons e es ih =>
    rw [List.map_cons, List.nodup_cons] at hnodup
    have hget : s.entries.get? e.key = some e :=
      horderly.get?_eq_some_iff.mpr ⟨hmem e List.mem_cons_self, rfl⟩
    have hleft : (s.discard e.key).2.entries = s.entries.erase e.key := by rw [discard_of_some hget]
    -- the other entries are still there, for their normal forms are others
    have hmem' : ∀ o ∈ es, o ∈ (s.discard e.key).2.entries.entries := by
      intro o ho
      rw [hleft, horderly.entries_erase, List.mem_filter]
      refine ⟨hmem o (List.mem_cons_of_mem _ ho), decide_eq_true fun heq => hnodup.1 ?_⟩
      exact List.mem_map.mpr ⟨o, ho, heq⟩
    obtain ⟨hremoved, hentries⟩ := ih (hleft ▸ horderly.erase e.key) hmem'
      (by rw [comparer_discard]; exact hnodup.2)
    rw [List.map_cons, discardAll_cons_of_some hget]
    refine ⟨congrArg (e :: ·) hremoved, ?_⟩
    show ((s.discard e.key).2.discardAll (es.map (·.key))).2.entries.entries = _
    rw [hentries, comparer_discard, hleft, horderly.entries_erase, List.filter_filter]
    refine List.filter_congr fun x _ => ?_
    simp [Bool.and_comm]

end Store

namespace Session

variable {s : Session} {c : Config} {start : Option String} {test : String → Bool}

/-- The entries that go when those are removed that a test accepts. -/
def selected (s : Session) (start : Option String) (test : String → Bool) : List Entry :=
  s.store.entries.entries.filter fun e => s.store.comparer.selects start test e.key

theorem doomed_perm_selected (s : Session) (start : Option String) (test : String → Bool) :
    (s.doomed start test).Perm ((s.selected start test).map (·.key)) := by
  rw [doomed_eq]
  exact ((s.host.order.perm _).filter _).map _

/-- **Both passes together remove what is selected**, in whatever order the entries are gone
through. -/
theorem discardAll_doomed (horderly : s.store.entries.Orderly) (start : Option String)
    (test : String → Bool) :
    (s.store.discardAll (s.doomed start test)).1.Perm (s.selected start test)
      ∧ (s.store.discardAll (s.doomed start test)).2.entries.entries
        = s.store.entries.entries.filter
          fun e => !s.store.comparer.selects start test e.key := by
  have hmem : ∀ e ∈ s.selected start test, e ∈ s.store.entries.entries :=
    fun e he => (List.mem_filter.mp he).1
  have hnodup : ((s.selected start test).map
      fun e => s.store.entries.comparer.normalize e.key).Nodup :=
    horderly.nodup_keys.sublist (List.filter_sublist.map _)
  obtain ⟨hremoved, hentries⟩ := Store.discardAll_map_key horderly hmem hnodup
  obtain ⟨hstore, hperm⟩ := Store.discardAll_perm (s.doomed_perm_selected start test) s.store
  refine ⟨hremoved ▸ hperm, ?_⟩
  rw [hstore, hentries]
  refine List.filter_congr fun e he => ?_
  -- who has the normal form of a selected entry is that entry
  cases hselects : s.store.comparer.selects start test e.key with
  | true =>
    have hitself : e ∈ s.selected start test := List.mem_filter.mpr ⟨he, hselects⟩
    exact decide_eq_false fun hothers => hothers e hitself rfl
  | false =>
    refine decide_eq_true fun o ho heq => ?_
    obtain rfl : e = o := List.inj_on_of_nodup_map horderly.nodup_keys he (hmem o ho) heq
    rw [(List.mem_filter.mp ho).2] at hselects
    cases hselects

/-! ## Telling what was removed -/

/-- Who does not announce does not tell of removals. -/
theorem announceAll_of_silent {a : Store} (h : a.config.announce = false) (es : List Entry) :
    es.foldl announceRemoval a = a := by
  induction es with
  | nil => rfl
  | cons e es ih =>
    have hfirst : announceRemoval a e = a := by
      rw [announceRemoval, Store.announce_eq, h]
      rfl
    rw [List.foldl_cons, hfirst, ih]

/-- Each subscriber is told of the removals one by one. -/
theorem inbox?_announceAll {a : Store} (h : a.config.announce = true) (es : List Entry) (n : Nat) :
    (es.foldl announceRemoval a).feed.inbox? n
      = (a.feed.inbox? n).map (· ++ es.map Entry.removal) := by
  have hall : es.foldl announceRemoval a = (es.map Entry.removal).foldl Store.announce a := by
    rw [List.foldl_map]
    rfl
  rw [hall]
  exact (Store.announceAll_eq h _).1

section Saving

variable {α : Type} {store : Store} {removed : List Entry} {a : α}

/-- If saving does not fail, each subscriber is told of the removals. -/
theorem inbox?_saveThen (hannounce : store.config.announce = true)
    (hok : ∃ b, ((s.withStore store).saveThen a (removed.foldl announceRemoval)).1 = .ok b)
    (n : Nat) :
    ((s.withStore store).saveThen a (removed.foldl announceRemoval)).2.store.feed.inbox? n
      = (store.feed.inbox? n).map (· ++ removed.map Entry.removal) := by
  obtain ⟨b, hok⟩ := hok
  obtain ⟨saved, hunsaved, hstore⟩ := store_saveThen_of_saved (not_saveFailed_of_ok hok)
  have hfeed : saved.feed = store.feed := (congrArg Store.feed hunsaved :)
  have hconfig : saved.config = store.config := (congrArg Store.config hunsaved :)
  rw [hstore, inbox?_announceAll (hconfig ▸ hannounce), hfeed]

/-- If saving fails or changes are not announced, nobody is told. -/
theorem feed_saveThen (h : store.config.announce = false
      ∨ ∃ e, ((s.withStore store).saveThen a (removed.foldl announceRemoval)).1 = .error e) :
    ((s.withStore store).saveThen a (removed.foldl announceRemoval)).2.store.feed = store.feed := by
  have hunsaved := unsaved_saveChange (s.withStore store)
  have hfeed : (s.withStore store).saveChange.2.store.feed = store.feed :=
    (congrArg Store.feed hunsaved :)
  have hconfig : (s.withStore store).saveChange.2.store.config = store.config :=
    (congrArg Store.config hunsaved :)
  unfold saveThen at h ⊢
  split at h
  · next heq => rwa [heq] at hfeed
  · next saved heq =>
    rw [heq] at hfeed hconfig
    rcases h with hsilent | ⟨e, he⟩
    · rw [← hconfig] at hsilent
      show (removed.foldl announceRemoval saved.store).feed = store.feed
      rw [announceAll_of_silent hsilent, hfeed]
    · cases he

end Saving

/-- A removal that succeeds tells each subscriber of what was removed, one by one. -/
theorem inbox?_removeWhere (hopen : s.store.closed = false) (hannounce : s.store.config.announce = true)
    (hok : ∃ count, (s.removeWhere start test).1 = .ok count) (n : Nat) :
    (s.removeWhere start test).2.store.feed.inbox? n = (s.store.feed.inbox? n).map
      (· ++ (s.store.discardAll (s.doomed start test)).1.map Entry.removal) := by
  have hconfig := Store.config_discardAll s.store (s.doomed start test)
  have hfeed := Store.feed_discardAll s.store (s.doomed start test)
  rw [removeWhere_eq, if_neg (by simp [hopen])] at hok ⊢
  split at hok
  · next hnone =>
    rw [if_pos hnone, List.isEmpty_iff.mp hnone]
    cases s.store.feed.inbox? n <;> simp
  · next hsome => rw [if_neg hsome, inbox?_saveThen (hconfig ▸ hannounce) hok, hfeed]

/-- A removal that fails tells nobody. -/
theorem feed_removeWhere (hopen : s.store.closed = false)
    (h : s.store.config.announce = false ∨ ∃ e, (s.removeWhere start test).1 = .error e) :
    (s.removeWhere start test).2.store.feed = s.store.feed := by
  have hconfig := Store.config_discardAll s.store (s.doomed start test)
  have hfeed := Store.feed_discardAll s.store (s.doomed start test)
  rw [removeWhere_eq, if_neg (by simp [hopen])] at h ⊢
  split at h
  · next hnone => rw [if_pos hnone]
  · next hsome => rw [if_neg hsome, feed_saveThen (hconfig ▸ h), hfeed]

/-! ## The removal -/

/-- The result of a removal that removed what a test selects, and nothing else. -/
structure RemovesExactly (s : Session) (start : Option String) (test : String → Bool)
    (x : Except Error Nat × Session) : Prop where
  /-- All other entries keep their spelling and their value. -/
  entries : x.2.store.entries.entries
    = s.store.entries.entries.filter fun e => !s.store.comparer.selects start test e.key
  /-- The answer is their number, unless saving failed. -/
  answer : x.1 = .ok (s.selected start test).length ∨ SaveFailed id x
  updates : x.2.store.updates = s.store.updates + (s.selected start test).length
  /-- The estimate falls by their sizes, but not below zero. -/
  estimate : x.2.store.estimate = s.store.estimate
    - ((s.selected start test).map fun e => s.store.entrySize e.key e.bytes).sum
  /-- A store that announces tells each subscriber of each of them once. -/
  told : s.store.config.announce = true → (∃ n, x.1 = .ok n) →
    ∃ removed : List Entry, removed.Perm (s.selected start test) ∧ ∀ n, x.2.store.feed.inbox? n
      = (s.store.feed.inbox? n).map (· ++ removed.map Entry.removal)
  silent : s.store.config.announce = false ∨ (∃ e, x.1 = .error e) →
    x.2.store.feed = s.store.feed
  /-- Where none is selected, nothing is done. -/
  idle : s.selected start test = [] → x = (.ok 0, s)

/-- **A removal by a test is exact.** -/
theorem removesExactly_removeWhere (hs : s.Opened c) (hopen : s.store.closed = false)
    (start : Option String) (test : String → Bool) :
    s.RemovesExactly start test (s.removeWhere start test) := by
  have hmemory := memory_removeWhere hopen start test
  obtain ⟨hperm, hentries⟩ := discardAll_doomed hs.serves.orderly start test
  have hupdates := Store.updates_discardAll s.store (s.doomed start test)
  have hestimate := Store.estimate_discardAll s.store (s.doomed start test)
  have hleft : (s.removeWhere start test).2.store.entries
      = (s.store.discardAll (s.doomed start test)).2.entries := (congrArg Store.entries hmemory :)
  have heq := removeWhere_eq s start test
  rw [if_neg (by simp [hopen]), hperm.length_eq] at heq
  rw [hperm.length_eq] at hupdates
  rw [(hperm.map _).sum_eq] at hestimate
  refine
    { entries := hleft ▸ hentries
      answer := ?_
      updates := (congrArg Store.updates hmemory :).trans hupdates
      estimate := (congrArg Store.estimate hmemory :).trans hestimate
      told := fun hannounce hok => ⟨_, hperm, inbox?_removeWhere hopen hannounce hok⟩
      silent := feed_removeWhere hopen
      idle := ?_ }
  · rw [heq]
    split
    · next hnone =>
      rw [← hperm.length_eq, List.isEmpty_iff.mp hnone]
      exact .inl rfl
    · exact saveThen_answer _ _ _
  · intro hnone
    rw [hnone] at hperm
    rw [heq, if_pos (List.isEmpty_iff.mpr hperm.eq_nil)]

/-- Two keys that start with `page:` in any case, and one that does not. -/
def boardOfPages : Session :=
  let s := (board.upsert "Page:One" [1] none).2
  let s := (s.upsert "PAGE:two" [2] none).2
  (s.upsert "title" [3] none).2

set_option maxRecDepth 8000 in
/-- The subscriber had been told of three writes, and is told of the one page that goes. -/
theorem removesExactly_removeWhere_board :
    boardOfPages.Opened { ignoreCase := true, announce := true }
      ∧ boardOfPages.store.closed = false
      ∧ boardOfPages.selected (some "pagE:") (· != "two") = [{ key := "Page:One", value := some [1] }]
      ∧ boardOfPages.RemovesExactly (some "pagE:") (· != "two")
        (boardOfPages.removeWhere (some "pagE:") (· != "two"))
      ∧ ((boardOfPages.removeWhere (some "pagE:") (· != "two")).2.store.feed.inbox? 0).map
        (·.drop 3) = some [{ kind := .remove, key := "Page:One", value := some [1] }] := by
  have hopened : boardOfPages.Opened { ignoreCase := true, announce := true } :=
    ((opened_board.trans (.upsert _ "Page:One" [1] none)).trans
      (.upsert _ "PAGE:two" [2] none)).trans (.upsert _ "title" [3] none)
  have hopen : boardOfPages.store.closed = false := by decide
  have hexactly := removesExactly_removeWhere hopened hopen (some "pagE:") (· != "two")
  have hselected : boardOfPages.selected (some "pagE:") (· != "two")
      = [{ key := "Page:One", value := some [1] }] := by decide
  have hok : (boardOfPages.removeWhere (some "pagE:") (· != "two")).1 = .ok 1 := by decide
  have hinbox : (boardOfPages.store.feed.inbox? 0).map (·.length) = some 3 := by decide
  refine ⟨hopened, hopen, hselected, hexactly, ?_⟩
  obtain ⟨removed, hperm, htold⟩ := hexactly.told (by decide) ⟨1, hok⟩
  obtain ⟨old, hold, hlength⟩ := Option.map_eq_some_iff.mp hinbox
  rw [hselected, List.perm_singleton] at hperm
  rw [htold, hold, hperm, Option.map_some, Option.map_some, List.drop_left' hlength]
  rfl

end Session

end Coffer
