import Coffer.Proofs.Mirroring
import Coffer.Proofs.Runs

/-!
# Following a store by its changes

A subscriber who has a copy of the entries can keep it up to date by the changes that he receives
(`Dictionary.follow`). An upsert is inserted, a removal erased, and the change that tells of emptying
the store empties the copy. So he has at any time what is in the store, spellings included
(`follows_run`), as long as

* nothing is loaded from the file, for that is not announced,
* values are written without a passphrase, for a change carries the value as its caller knows it,
* saving a removal does not fail, for then the removal is not announced,
* no value was absent to begin with. The removal of an entry named `ALL` without a value is told like
  emptying the store.

The spelling in a change need not be the one in the store: an upsert carries that of its caller, and
an insertion keeps the one that is there.
-/

namespace Coffer

/-! ## What a change makes of a dictionary -/

/-- The change that tells of the removal of an entry. -/
def Entry.removal (e : Entry) : Change := { kind := .remove, key := e.key, value := e.value }

namespace Dictionary

variable {d d' : Dictionary} {key other : String} {e : Entry}

/-- The dictionary after a change. -/
def follow (d : Dictionary) (c : Change) : Dictionary :=
  if c.isCleared then d.clear
  else
    match c.kind with
    | .upsert => d.insert c.key c.value
    | .remove => d.erase c.key

/-- No value is absent. -/
def Full (d : Dictionary) : Prop := ∀ e ∈ d.entries, e.value.isSome

instance : DecidablePred Full := fun _ => inferInstanceAs (Decidable (∀ _ ∈ _, _))

theorem follow_upsert (d : Dictionary) (key : String) (value : Option Bytes) :
    d.follow { kind := .upsert, key, value } = d.insert key value := rfl

theorem follow_cleared (d : Dictionary) : d.follow .cleared = d.clear := rfl

/-- The removal of an entry that has a value is not taken for emptying the store, whatever its
name. -/
theorem follow_removal (d : Dictionary) (h : e.value.isSome) :
    d.follow e.removal = d.erase e.key := by
  have hone : e.removal.isCleared = false := by
    rw [Change.isCleared, Entry.removal, ← Option.not_isSome, h]
    simp
  rw [follow, hone]
  rfl

theorem Orderly.follow (h : d.Orderly) (c : Change) : (d.follow c).Orderly := by
  unfold Dictionary.follow
  split
  · exact .clear d
  · split
    · exact h.insert _ _
    · exact h.erase _

theorem Copies.follow (h : d'.Copies d) (hd : d.Orderly) (c : Change) :
    (d'.follow c).Copies (d.follow c) := by
  unfold Dictionary.follow
  split
  · exact ⟨.clear d', h.comparer, .refl _⟩
  · split
    · exact h.insert hd _ _
    · exact h.erase hd _

/-- **Dictionaries with the same entries stay so when they follow the same changes.** -/
theorem Copies.foldl_follow (h : d'.Copies d) (hd : d.Orderly) (cs : List Change) :
    (cs.foldl Dictionary.follow d').Copies (cs.foldl Dictionary.follow d) := by
  induction cs generalizing d d' with
  | nil => exact h
  | cons c cs ih => exact ih (h.follow hd c) (hd.follow c)

/-! ## Inserting and erasing -/

/-- What is in a dictionary after an insertion has the value that was inserted or was there. -/
theorem mem_entries_insert {value : Option Bytes} (h : e ∈ (d.insert key value).entries) :
    e.value = value ∨ e ∈ d.entries := by
  obtain ⟨f, hf, rfl⟩ := List.mem_map.mp h
  rw [insert] at hf
  split at hf
  · obtain ⟨g, hg, rfl⟩ := List.mem_map.mp hf
    split
    · exact .inl rfl
    · exact .inr (List.mem_map_of_mem hg)
  · rcases List.mem_append.mp hf with hf | hf
    · exact .inr (List.mem_map_of_mem hf)
    · rw [List.mem_singleton] at hf
      exact .inl (congrArg (·.entry.value) hf)

theorem mem_entries_erase (h : e ∈ (d.erase key).entries) : e ∈ d.entries := by
  obtain ⟨f, hf, rfl⟩ := List.mem_map.mp h
  exact List.mem_map_of_mem (List.mem_filter.mp hf).1

theorem Full.insert (h : d.Full) (key : String) (b : Bytes) : (d.insert key (some b)).Full := by
  intro e he
  rcases mem_entries_insert he with hvalue | hmem
  · rw [hvalue]
    rfl
  · exact h e hmem

theorem Full.erase (h : d.Full) (key : String) : (d.erase key).Full :=
  fun e he => h e (mem_entries_erase he)

theorem Full.clear (d : Dictionary) : d.clear.Full := by
  intro e he
  cases he

end Dictionary

/-! ## What a subscriber makes of what he receives -/

namespace Store

variable {n : Nat} {a b d : Store} {cs : List Change}

/-- Subscriber `n` is there, and no value is absent. -/
structure Heard (n : Nat) (a : Store) : Prop where
  live : (a.feed.inbox? n).isSome
  full : a.entries.Full

/-- Subscriber `n` is there, and what he receives from `a` to `b` makes the entries of `b`, none of
whose values is absent, of those of `a`. -/
structure Traces (n : Nat) (a b : Store) : Prop where
  full : b.entries.Full
  received : ∃ old new, a.feed.inbox? n = some old ∧ b.feed.inbox? n = some (old ++ new)
    ∧ b.entries = new.foldl Dictionary.follow a.entries

theorem Traces.heard (h : a.Traces n b) : b.Heard n := by
  obtain ⟨old, new, -, hnew, -⟩ := h.received
  exact ⟨Option.isSome_of_eq_some hnew, h.full⟩

/-- Who receives nothing follows a store whose entries stay as they are. -/
theorem Heard.traces (h : a.Heard n) (hfeed : b.feed.inbox? n = a.feed.inbox? n)
    (hentries : b.entries = a.entries) : a.Traces n b := by
  obtain ⟨old, hold⟩ := Option.isSome_iff_exists.mp h.live
  exact ⟨hentries ▸ h.full, old, [], hold, by rw [hfeed, hold, List.append_nil], hentries⟩

theorem Heard.refl (h : a.Heard n) : a.Traces n a := h.traces rfl rfl

theorem Traces.trans (h : a.Traces n b) (h' : b.Traces n d) : a.Traces n d := by
  obtain ⟨old, new, hold, hnew, hentries⟩ := h.received
  obtain ⟨old', new', hold', hnew', hentries'⟩ := h'.received
  obtain rfl : old ++ new = old' := Option.some.inj (hnew.symm.trans hold')
  refine ⟨h'.full, old, new ++ new', hold, by rw [hnew', List.append_assoc], ?_⟩
  rw [hentries', hentries, List.foldl_append]

theorem Heard.of_unsaved_eq (h : a.Heard n) (hsave : b.unsaved = a.unsaved) : a.Traces n b :=
  h.traces (congrArg (·.feed.inbox? n) hsave :) (congrArg Store.entries hsave :)

/-- Announcing changes posts them, and touches nothing but the feed. -/
theorem announceAll_eq (h : a.config.announce = true) (cs : List Change) :
    (cs.foldl announce a).feed.inbox? n = (a.feed.inbox? n).map (· ++ cs)
      ∧ (cs.foldl announce a).entries = a.entries := by
  induction cs generalizing a with
  | nil => simp
  | cons c cs ih =>
    have hfirst : a.announce c = { a with feed := a.feed.publish c } := by
      rw [announce_eq, if_pos h]
    obtain ⟨hfeed, hentries⟩ := ih (a := a.announce c) (by rw [hfirst]; exact h)
    rw [List.foldl_cons, hfeed, hentries, hfirst, Feed.inbox?_publish, Option.map_map]
    refine ⟨?_, rfl⟩
    congr 1
    funext old
    show old ++ [c] ++ cs = old ++ c :: cs
    rw [List.append_assoc, List.singleton_append]

/-- A store is followed if the changes that make its entries are announced. -/
theorem Heard.traces_announceAll (h : a.Heard n) (cs : List Change)
    (hannounce : b.config.announce = true) (hfeed : b.feed = a.feed) (hfull : b.entries.Full)
    (hentries : b.entries = cs.foldl Dictionary.follow a.entries) :
    a.Traces n (cs.foldl announce b) := by
  obtain ⟨old, hold⟩ := Option.isSome_iff_exists.mp h.live
  obtain ⟨hposted, hsame⟩ := announceAll_eq (n := n) hannounce cs
  refine ⟨hsame ▸ hfull, old, cs, hold, ?_, hsame.trans hentries⟩
  rw [hposted, hfeed, hold]
  rfl

/-! ## Removals -/

/-- **What is left after some keys were removed is what is left after the entries were erased that
are told to be removed.** -/
theorem entries_discardAll (horderly : a.entries.Orderly) (hfull : a.entries.Full)
    (keys : List String) :
    (a.discardAll keys).2.entries.Full
      ∧ (a.discardAll keys).2.entries
        = ((a.discardAll keys).1.map Entry.removal).foldl Dictionary.follow a.entries := by
  induction keys generalizing a with
  | nil => exact ⟨hfull, rfl⟩
  | cons key keys ih =>
    cases hget : a.entries.get? key with
    | none =>
      rw [discardAll_cons_of_none hget]
      exact ih horderly hfull
    | some e =>
      obtain ⟨hmem, hkey⟩ := horderly.get?_eq_some_iff.mp hget
      have hleft : (a.discard key).2.entries = a.entries.erase key := by rw [discard_of_some hget]
      obtain ⟨hfull', hentries⟩ := ih (a := (a.discard key).2) (hleft ▸ horderly.erase key)
        (hleft ▸ hfull.erase key)
      rw [discardAll_cons_of_some hget]
      refine ⟨hfull', ?_⟩
      rw [hentries, hleft, List.map_cons, List.foldl_cons,
        Dictionary.follow_removal a.entries (hfull e hmem), Dictionary.erase_congr hkey]

end Store

namespace Session

variable {n : Nat} {c : Config} {s t : Session} {base store : Store} {cs : List Change}

/-! ## Saving and telling -/

/-- What was told before saving is followed, whether saving succeeds or not. -/
theorem traces_saveThen {α : Type} (h : base.Traces n store) (s : Session) (a : α) :
    base.Traces n ((s.withStore store).saveThen a id).2.store := by
  have hsave := h.trans (h.heard.of_unsaved_eq (unsaved_saveChange (s.withStore store)))
  unfold saveThen
  split <;> next heq => rwa [heq] at hsave

/-- If saving does not fail, what is left is the store as it was saved, after it told the change. -/
theorem store_saveThen_of_saved {α : Type} {a : α} {tell : Store → Store}
    (hsaved : ¬SaveFailed id (s.saveThen a tell)) :
    ∃ saved : Store, saved.unsaved = s.store.unsaved ∧ (s.saveThen a tell).2.store = tell saved := by
  have hok := (saveThen_answer s a tell).resolve_right hsaved
  have hunsaved := unsaved_saveChange s
  unfold saveThen at hok ⊢
  split
  · next heq =>
    rw [heq] at hok
    cases hok
  · next saved heq =>
    rw [heq] at hunsaved
    exact ⟨saved.store, hunsaved, rfl⟩

/-- What is told after saving is followed if saving does not fail. -/
theorem traces_of_saved {α : Type} (h : base.Heard n) (cs : List Change)
    (hannounce : store.config.announce = true) (hfeed : store.feed = base.feed)
    (hfull : store.entries.Full)
    (hentries : store.entries = cs.foldl Dictionary.follow base.entries) (s : Session) (a : α)
    (hsaved : ¬SaveFailed id
      ((s.withStore store).saveThen a fun saved => cs.foldl Store.announce saved)) :
    base.Traces n
      ((s.withStore store).saveThen a fun saved => cs.foldl Store.announce saved).2.store := by
  obtain ⟨saved, hunsaved, hstore⟩ := store_saveThen_of_saved hsaved
  have hconfig : saved.config = store.config := (congrArg Store.config hunsaved :)
  have hfeed' : saved.feed = store.feed := (congrArg Store.feed hunsaved :)
  have hsame : saved.entries = store.entries := (congrArg Store.entries hunsaved :)
  rw [hstore]
  exact h.traces_announceAll cs (hconfig ▸ hannounce) (hfeed'.trans hfeed) (hsame ▸ hfull)
    (hsame.trans hentries)

/-! ## Operations that write -/

section Writing

variable (hs : s.Opened c) (hannounce : c.announce = true) (h : s.store.Heard n)

include hs hannounce h

theorem traces_upsert (key : String) (value : Bytes) {valueKey : Option String}
    (hplain : activeKey valueKey = none) :
    s.store.Traces n (s.upsert key value valueKey).2.store := by
  have hsealed : s.sealValue value valueKey = (.ok value, s) := by simp [sealValue, hplain]
  rw [upsert_of_idle hs.idle, hsealed]
  split
  · exact h.refl
  · have hconfig : (s.store.merge { key, value }).config.announce = true := by
      show s.store.config.announce = true
      rw [hs.serves.config, hannounce]
    have htold : s.store.Traces n ((s.store.merge { key, value }).announce
        { kind := .upsert, key, value := some value }) :=
      h.traces_announceAll [_] hconfig rfl (h.full.insert key value)
        (Dictionary.follow_upsert s.store.entries key (some value)).symm
    exact traces_saveThen htold s ()

theorem traces_upsertEncoded (key : String) (encoded : Except Error Bytes)
    {valueKey : Option String} (hplain : activeKey valueKey = none) :
    s.store.Traces n (s.upsertEncoded key encoded valueKey).2.store := by
  cases encoded with
  | error e => exact h.refl
  | ok b => exact traces_upsert hs hannounce h key b hplain

theorem traces_upsertUnless (key : String) (rejects : Bytes → Bool)
    (encoded : Except Error Bytes) {valueKey : Option String}
    (hplain : activeKey valueKey = none) :
    s.store.Traces n (s.upsertUnless key rejects encoded valueKey).2.store := by
  have hstore := store_get s key valueKey
  have hget := hs.trans (.get s key valueKey)
  have hwrite := traces_upsertEncoded (n := n) hget hannounce (by rwa [hstore]) key encoded hplain
  rw [hstore] at hwrite
  rw [upsertUnless_eq]
  split
  · rw [hstore]
    exact h.refl
  · exact hwrite

/-- What the update told comes first, and then the write. -/
theorem traces_update (key : String) {valueKey : Option String}
    (hplain : activeKey valueKey = none) {f : Update}
    (hreach : s.store.closed = false → (s.get key valueKey).2.Reaches
      (f (s.get key valueKey).2 ((s.get key valueKey).1.getD [])).2)
    (htold : s.store.closed = false → s.store.Traces n
      (f (s.get key valueKey).2 ((s.get key valueKey).1.getD [])).2.store) :
    s.store.Traces n (s.update key valueKey f).2.store := by
  unfold update
  split
  · exact h.refl
  · next hopen =>
    have hnew := hs.trans ((Reaches.get s key valueKey).trans (hreach (Bool.eq_false_iff.mpr hopen)))
    replace htold := htold (Bool.eq_false_iff.mpr hopen)
    simp only
    split
    · next heq => rwa [heq] at htold
    · next value s' heq =>
      rw [heq] at hnew htold
      have hupsert := traces_upsert hnew hannounce htold.heard key value hplain
      split <;> next heq => rw [heq] at hupsert; exact htold.trans hupsert

theorem traces_getOrAdd (key : String) (make : String → Bytes) {valueKey : Option String}
    (hplain : activeKey valueKey = none) :
    s.store.Traces n (s.getOrAdd key valueKey (.ofSpelling make)).2.store := by
  have hstore : (s.get key valueKey).2.store = s.store := store_get s key valueKey
  have hget := hs.trans (.get s key valueKey)
  have hread : s.store.Traces n (s.get key valueKey).2.store :=
    h.traces (congrArg (·.feed.inbox? n) hstore :) (congrArg Store.entries hstore :)
  cases hvalue : (s.get key valueKey).1 with
  | some value =>
    rw [getOrAdd_of_some hvalue]
    exact hread
  | none =>
    rw [getOrAdd_ofSpelling_of_missing hvalue]
    split
    · exact hread
    · exact hread.trans (traces_upsert hget hannounce hread.heard key (make key) hplain)

/-! ## Operations that remove -/

theorem traces_remove (key : String) (hsaved : ¬SaveFailed id (s.remove key)) :
    s.store.Traces n (s.remove key).2.store := by
  cases hclosed : s.store.closed with
  | true =>
    have hidle : (s.remove key).2 = s := by simp [remove, hclosed]
    rw [hidle]
    exact h.refl
  | false =>
    cases hget : s.store.entries.get? key with
    | none =>
      rw [remove_of_none hclosed hget]
      exact h.refl
    | some e =>
      obtain ⟨hmem, hkey⟩ := hs.serves.orderly.get?_eq_some_iff.mp hget
      have hleft : (s.store.discard key).2.entries = s.store.entries.erase key := by
        rw [Store.discard_of_some hget]
      have hfollowed : (s.store.discard key).2.entries
          = [e.removal].foldl Dictionary.follow s.store.entries := by
        rw [hleft, List.foldl_cons, List.foldl_nil,
          Dictionary.follow_removal s.store.entries (h.full e hmem), Dictionary.erase_congr hkey]
      rw [remove_of_some hclosed hget] at hsaved ⊢
      refine traces_of_saved h [e.removal] ?_ (Store.feed_discard s.store key)
        (hleft ▸ h.full.erase key) hfollowed s true hsaved
      rw [Store.config_discard, hs.serves.config, hannounce]

theorem traces_removeWhere (start : Option String) (test : String → Bool)
    (hsaved : ¬SaveFailed id (s.removeWhere start test)) :
    s.store.Traces n (s.removeWhere start test).2.store := by
  obtain ⟨hfull, hentries⟩ := Store.entries_discardAll hs.serves.orderly h.full
    (s.doomed start test)
  have htell : ∀ removed : List Entry, (fun store => removed.foldl announceRemoval store)
      = fun store => (removed.map Entry.removal).foldl Store.announce store := by
    intro removed
    funext store
    rw [List.foldl_map]
    rfl
  rw [removeWhere_eq] at hsaved ⊢
  split at hsaved
  · next hclosed =>
    rw [if_pos hclosed]
    exact h.refl
  · next hopen =>
    rw [if_neg hopen]
    split at hsaved
    · next hnone =>
      rw [if_pos hnone]
      exact h.refl
    · next hsome =>
      rw [if_neg hsome]
      have htold := htell (s.store.discardAll (s.doomed start test)).1
      simp only [htold] at hsaved ⊢
      refine traces_of_saved h _ ?_ (Store.feed_discardAll s.store _) hfull hentries s _ hsaved
      rw [Store.config_discardAll, hs.serves.config, hannounce]

theorem traces_clear (hsaved : ¬SaveFailed id s.clear) : s.store.Traces n s.clear.2.store := by
  rw [clear_eq] at hsaved ⊢
  split at hsaved
  · next hclosed =>
    rw [if_pos hclosed]
    exact h.refl
  · next hopen =>
    rw [if_neg hopen]
    have hconfig : s.store.discardEverything.config.announce = true := by
      show s.store.config.announce = true
      rw [hs.serves.config, hannounce]
    exact traces_of_saved h [.cleared] hconfig rfl (.clear s.store.entries)
      (Dictionary.follow_cleared s.store.entries).symm s () hsaved

end Writing

/-! ## Operations that can be followed -/

/-- An operation that writes does so without a passphrase. -/
def Operation.IsPlain : Operation → Prop
  | .upsert _ _ valueKey => activeKey valueKey = none
  | .upsertAs _ _ _ valueKey => activeKey valueKey = none
  | .upsertManyAs _ _ _ valueKey => activeKey valueKey = none
  | .upsertAsIf _ _ _ valueKey _ => activeKey valueKey = none
  | .upsertManyAsIf _ _ _ valueKey _ => activeKey valueKey = none
  | .update _ valueKey _ => activeKey valueKey = none
  | .getOrAdd _ valueKey _ => activeKey valueKey = none
  | _ => True

/-- The operation can be followed. -/
structure Followable (s : Session) (o : Operation) : Prop where
  /-- It takes nothing over from the file. -/
  load : o ≠ .rollback
  /-- What it writes is stored as it is told. -/
  plain : o.IsPlain
  /-- If it removes entries, saving that does not fail. -/
  saved : o.isRemoval = true → ¬SaveFailed .failed (s.perform o)

/-- Subscriber `n` is left alone too. -/
def LeavesAlone (n : Nat) (s t : Session) : Prop :=
  Aside s t ∧ t.store.feed.inbox? n = s.store.feed.inbox? n

theorem LeavesAlone.reaches (h : LeavesAlone n s t) : s.Reaches t := h.1.reaches

theorem LeavesAlone.traces (haside : LeavesAlone n s t) (h : s.store.Heard n) :
    s.store.Traces n t.store := by
  obtain ⟨⟨host, feed, rfl⟩, hinbox⟩ := haside
  exact h.traces hinbox rfl

theorem traces_perform {o : Operation} (hs : s.Opened c) (hannounce : c.announce = true)
    (h : s.store.Heard n) (ho : s.Followable o) (hf : o.Updates fun _ => False) :
    s.store.Traces n (s.perform o).2.store := by
  obtain ⟨hload, hplain, hsaved⟩ := ho
  cases o with
  | get key valueKey =>
    have hstore := store_get s key valueKey
    exact h.traces (congrArg (·.feed.inbox? n) hstore) (congrArg Store.entries hstore)
  | getBuffered key valueKey extra =>
    have hstore := store_getBuffered s key valueKey extra
    exact h.traces (congrArg (·.feed.inbox? n) hstore) (congrArg Store.entries hstore)
  | upsert key value valueKey => exact traces_upsert hs hannounce h key value hplain
  | upsertAs codec key v valueKey => exact traces_upsertEncoded hs hannounce h key _ hplain
  | upsertManyAs codec key vs valueKey => exact traces_upsertEncoded hs hannounce h key _ hplain
  | upsertAsIf codec key v valueKey condition =>
    exact traces_upsertUnless hs hannounce h key _ _ hplain
  | upsertManyAsIf codec key vs valueKey condition =>
    exact traces_upsertUnless hs hannounce h key _ _ hplain
  | update key valueKey f => exact hf.elim
  | getOrAdd key valueKey make => exact traces_getOrAdd hs hannounce h key make hplain
  | remove key =>
    exact traces_remove hs hannounce h key fun hfailed => hsaved rfl (hfailed.answer _)
  | removeWhere start test =>
    exact traces_removeWhere hs hannounce h start test fun hfailed => hsaved rfl (hfailed.answer _)
  | clear => exact traces_clear hs hannounce h fun hfailed => hsaved rfl (hfailed.answer _)
  | drain =>
    rw [perform, drain_of_idle hs.idle]
    exact h.refl
  | save cancelled => exact h.of_unsaved_eq (unsaved_save s cancelled)
  | rollback => exact absurd rfl hload
  | close =>
    rw [perform, close_of_idle hs.idle]
    split
    · exact h.refl
    · have hclosing : s.store.Traces n { s.store with closed := true } := h.traces rfl rfl
      exact traces_saveThen hclosing s ()

/-- A run of operations that can be followed is followed. -/
theorem Runs.traces (hrun : Runs (LeavesAlone n) Followable s t) (hs : s.Opened c)
    (hannounce : c.announce = true) (h : s.store.Heard n) : s.store.Traces n t.store := by
  induction hrun with
  | refl => exact h.refl
  | trans hfirst _ ih ih' =>
    have htold := ih hs h
    exact htold.trans (ih' (hs.trans (hfirst.reaches fun _ _ => LeavesAlone.reaches)) htold.heard)
  | aside haside => exact haside.traces h
  | perform s ho hf => exact traces_perform hs hannounce h ho hf
  | update s key valueKey f ho hinner ih =>
    have hstore := store_get s key valueKey
    refine traces_update hs hannounce h key ho.plain
      (fun hopen => (hinner hopen).reaches fun _ _ => LeavesAlone.reaches) fun hopen => ?_
    have htold := ih hopen (hs.trans (.get s key valueKey)) (hstore ▸ h)
    rwa [hstore] at htold

/-- **The changes that a subscriber receives make what is in the store of what was in it.** A copy
of the entries that follows them has the same entries as the store at any time, spellings
included. -/
theorem follows_run {old : List Change} (hs : s.Opened c) (hannounce : c.announce = true)
    (hinbox : s.store.feed.inbox? n = some old) (hfull : s.store.entries.Full)
    (hrun : Runs (LeavesAlone n) Followable s t) :
    ∃ new, t.store.feed.inbox? n = some (old ++ new)
      ∧ t.store.entries = new.foldl Dictionary.follow s.store.entries
      ∧ ∀ d, d.Copies s.store.entries →
        (new.foldl Dictionary.follow d).Copies t.store.entries := by
  have htold := hrun.traces hs hannounce ⟨Option.isSome_of_eq_some hinbox, hfull⟩
  obtain ⟨old', new, hold, hnew, hentries⟩ := htold.received
  obtain rfl : old = old' := Option.some.inj (hinbox.symm.trans hold)
  refine ⟨new, hnew, hentries, ?_⟩
  intro d hcopies
  rw [hentries]
  exact hcopies.foldl_follow hs.serves.orderly new

/-- A store in memory that ignores case and announces its changes, with a subscriber. -/
def board : Session := (Host.session {} { ignoreCase := true, announce := true }).subscribe.2

/-- It is emptied. -/
def boardCleared : Session :=
  ((board.perform (.upsert "ALL" [1] none)).2.perform .clear).2

/-- It is written to again, and an entry of the name `ALL` is removed. -/
def boardWritten : Session :=
  let s := (boardCleared.perform (.upsert "Title" [2] none)).2
  let s := (s.perform (.upsert "TITLE" [3] none)).2
  (s.perform (.upsert "ALL" [4] none)).2

theorem opened_board : board.Opened { ignoreCase := true, announce := true } :=
  (Host.opened_session (by decide)).trans (.subscribe _)

set_option maxRecDepth 8000 in
theorem runs_board :
    Runs (LeavesAlone 0) Followable board (boardWritten.perform (.remove "all")).2 := by
  have hwrite : ∀ (s : Session) (key : String) (value : Bytes),
      Runs (LeavesAlone 0) Followable s (s.perform (.upsert key value none)).2 :=
    fun s key value => .perform s ⟨nofun, rfl, fun h => (Bool.false_ne_true h).elim⟩ trivial
  have hclear : Runs (LeavesAlone 0) Followable board boardCleared := by
    refine (hwrite board "ALL" [1]).trans (.perform _ ⟨nofun, trivial, fun _ => ?_⟩ trivial)
    exact not_saveFailed_of_ok (a := .done) (by decide)
  have hwritten : Runs (LeavesAlone 0) Followable boardCleared boardWritten :=
    ((hwrite boardCleared "Title" [2]).trans (hwrite _ "TITLE" [3])).trans (hwrite _ "ALL" [4])
  refine (hclear.trans hwritten).trans (.perform _ ⟨nofun, trivial, fun _ => ?_⟩ trivial)
  exact not_saveFailed_of_ok (a := .decided true) (by decide)

set_option maxRecDepth 8000 in
/-- The subscriber tells the one removal from the other, and knows of the one entry that is left. -/
theorem follows_run_board :
    board.Opened { ignoreCase := true, announce := true }
      ∧ board.store.feed.inbox? 0 = some [] ∧ board.store.entries.Full
      ∧ Runs (LeavesAlone 0) Followable board (boardWritten.perform (.remove "all")).2
      ∧ ∃ new : List Change,
        new.map (·.key) = ["ALL", "ALL", "Title", "TITLE", "ALL", "ALL"]
          ∧ (new.foldl Dictionary.follow board.store.entries).entries
            = [{ key := "Title", value := some [3] }] := by
  have hinbox : board.store.feed.inbox? 0 = some [] := by decide
  have hfull : board.store.entries.Full := by decide
  obtain ⟨new, hnew, hentries, -⟩ := follows_run opened_board rfl hinbox hfull runs_board
  have hkeys : ((boardWritten.perform (.remove "all")).2.store.feed.inbox? 0).map
      (·.map (·.key)) = some ["ALL", "ALL", "Title", "TITLE", "ALL", "ALL"] := by decide
  rw [hnew, List.nil_append, Option.map_some, Option.some.injEq] at hkeys
  refine ⟨opened_board, hinbox, hfull, runs_board, new, hkeys, ?_⟩
  rw [← hentries]
  decide

end Session

end Coffer
