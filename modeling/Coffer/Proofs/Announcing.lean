import Coffer.Proofs.Operations

/-!
# Which changes are announced

A store that is set up to announce its changes counts them too, so a subscriber should receive as
many changes during an operation as the store counts (`Store.Tells`). That is so for every operation
that writes, whatever it is answered: a write is announced before it is merged, and saving comes
last. A removal is announced after it was saved. If saving fails, the entries are gone and counted,
and nobody hears of them; these are the only removals, and the only operations, where subscribers
miss a change (`tells_iff`). Loading the file again is counted as one change and is not announced at
all.
-/

namespace Coffer

/-! ## Feeds -/

theorem Feed.inbox?_publish (f : Feed) (c : Change) (n : Nat) :
    (f.publish c).inbox? n = (f.inbox? n).map (· ++ [c]) := by
  unfold inbox? publish
  rw [List.getElem?_map]
  cases f.inboxes[n]? <;> rfl

namespace Store

variable {n k : Nat} {a b d : Store}

/-- Subscriber `n` is there, and from `a` to `b` he has received as many changes as were counted. -/
def Tells (n : Nat) (a b : Store) : Prop :=
  ∃ old new, a.feed.inbox? n = some old ∧ b.feed.inbox? n = some (old ++ new)
    ∧ b.updates = a.updates + new.length

/-- Subscriber `n` has received `k` changes, and none was counted. -/
structure Posts (n k : Nat) (a b : Store) : Prop where
  config : b.config = a.config
  updates : b.updates = a.updates
  received : ∃ new, new.length = k ∧ b.feed.inbox? n = (a.feed.inbox? n).map (· ++ new)

theorem Tells.of_eq (hlive : (a.feed.inbox? n).isSome) (hfeed : b.feed = a.feed)
    (hupdates : b.updates = a.updates) : a.Tells n b := by
  obtain ⟨old, hold⟩ := Option.isSome_iff_exists.mp hlive
  exact ⟨old, [], hold, by rw [hfeed, hold, List.append_nil], hupdates⟩

theorem Tells.refl (hlive : (a.feed.inbox? n).isSome) : a.Tells n a := .of_eq hlive rfl rfl

theorem Tells.trans (h : a.Tells n b) (h' : b.Tells n d) : a.Tells n d := by
  obtain ⟨old, new, hold, hnew, hupdates⟩ := h
  obtain ⟨old', new', hold', hnew', hupdates'⟩ := h'
  obtain rfl : old ++ new = old' := Option.some.inj (hnew.symm.trans hold')
  refine ⟨old, new ++ new', hold, by rw [hnew', List.append_assoc], ?_⟩
  rw [hupdates', hupdates, List.length_append, Nat.add_assoc]

theorem Tells.live (h : a.Tells n b) : (b.feed.inbox? n).isSome := by
  obtain ⟨old, new, -, hnew, -⟩ := h
  rw [hnew]
  rfl

theorem Tells.of_unsaved_eq (hlive : (a.feed.inbox? n).isSome) (h : b.unsaved = a.unsaved) :
    a.Tells n b :=
  .of_eq hlive (congrArg Store.feed h :) (congrArg Store.updates h :)

/-- Changes that were counted are told when they are posted. -/
theorem Posts.tells (h : b.Posts n k d) (hlive : (a.feed.inbox? n).isSome)
    (hfeed : b.feed = a.feed) (hupdates : b.updates = a.updates + k) : a.Tells n d := by
  obtain ⟨old, hold⟩ := Option.isSome_iff_exists.mp hlive
  obtain ⟨new, hlength, hnew⟩ := h.received
  refine ⟨old, new, hold, ?_, ?_⟩
  · rw [hnew, hfeed, hold]
    rfl
  · rw [h.updates, hupdates, hlength]

/-- A change that was counted and not posted is missed. -/
theorem not_tells_of_lost (hfeed : b.feed = a.feed) (hupdates : a.updates < b.updates) :
    ¬a.Tells n b := by
  rintro ⟨old, new, hold, hnew, hcount⟩
  rw [hfeed, hold] at hnew
  have hnil : new = [] := by simpa using hnew
  rw [hnil, List.length_nil] at hcount
  omega

theorem posts_announce (h : a.config.announce = true) (c : Change) :
    a.Posts n 1 (a.announce c) := by
  rw [announce_eq, if_pos h]
  exact ⟨rfl, rfl, [c], rfl, Feed.inbox?_publish a.feed c n⟩

theorem Posts.trans {l : Nat} (h : a.Posts n k b) (h' : b.Posts n l d) : a.Posts n (k + l) d := by
  obtain ⟨new, hlength, hnew⟩ := h.received
  obtain ⟨new', hlength', hnew'⟩ := h'.received
  refine ⟨h'.config.trans h.config, h'.updates.trans h.updates, new ++ new', ?_, ?_⟩
  · rw [List.length_append, hlength, hlength']
  · rw [hnew', hnew, Option.map_map]
    congr 1
    funext old
    exact List.append_assoc old new new'

theorem posts_announceAll (h : a.config.announce = true) (es : List Entry) :
    a.Posts n es.length (es.foldl Session.announceRemoval a) := by
  induction es generalizing a with
  | nil => exact ⟨rfl, rfl, [], rfl, by simp⟩
  | cons e es ih =>
    have hfirst : a.Posts n 1 (Session.announceRemoval a e) := posts_announce h _
    rw [List.length_cons, Nat.add_comm]
    exact hfirst.trans (ih (hfirst.config ▸ h))

/-! ## What removals count -/

@[simp] theorem feed_discard (s : Store) (key : String) : (s.discard key).2.feed = s.feed := by
  unfold discard
  split <;> rfl

@[simp] theorem config_discard (s : Store) (key : String) :
    (s.discard key).2.config = s.config := by
  unfold discard
  split <;> rfl

theorem updates_discard (s : Store) (key : String) :
    (s.discard key).2.updates = s.updates + (s.discard key).1.toList.length := by
  unfold discard
  split <;> rfl

theorem feed_discardAll (s : Store) (keys : List String) :
    (s.discardAll keys).2.feed = s.feed := by
  induction keys generalizing s with
  | nil => rfl
  | cons key keys ih => exact (ih (s.discard key).2).trans (feed_discard s key)

theorem config_discardAll (s : Store) (keys : List String) :
    (s.discardAll keys).2.config = s.config := by
  induction keys generalizing s with
  | nil => rfl
  | cons key keys ih => exact (ih (s.discard key).2).trans (config_discard s key)

/-- Each entry that is removed counts as one change. -/
theorem updates_discardAll (s : Store) (keys : List String) :
    (s.discardAll keys).2.updates = s.updates + (s.discardAll keys).1.length := by
  induction keys generalizing s with
  | nil => rfl
  | cons key keys ih =>
    show ((s.discard key).2.discardAll keys).2.updates = s.updates
      + ((s.discard key).1.toList ++ ((s.discard key).2.discardAll keys).1).length
    rw [ih, updates_discard, List.length_append, Nat.add_assoc]

end Store

/-- The update uses the store as a program does, and what it changes is announced. -/
def Update.Announces (n : Nat) (f : Update) : Prop :=
  ∀ (s : Session) (value : Bytes), s.Reaches (f s value).2
    ∧ (s.store.config.announce = true → (s.store.feed.inbox? n).isSome →
      s.store.Tells n (f s value).2.store)

namespace Session

variable {n k : Nat} {c : Config} {s : Session} {base store : Store}

/-! ## Saving and telling -/

theorem tells_save (hlive : (s.store.feed.inbox? n).isSome) (cancelled : Bool) :
    s.store.Tells n (s.save cancelled).2.store :=
  .of_unsaved_eq hlive (unsaved_save s cancelled)

/-- What was told before saving stays told, whether saving succeeds or not. -/
theorem tells_saveThen {α : Type} (h : base.Tells n store) (s : Session) (a : α) :
    base.Tells n ((s.withStore store).saveThen a id).2.store := by
  have hsave := h.trans (.of_unsaved_eq h.live (unsaved_saveChange (s.withStore store)))
  unfold saveThen
  split <;> next heq => rwa [heq] at hsave

/-- What is to be told after saving is told if and only if saving succeeds. -/
theorem saveThen_tells_iff {α : Type} (hlive : (base.feed.inbox? n).isSome)
    (hfeed : store.feed = base.feed) (hupdates : store.updates = base.updates + k) (hk : 0 < k)
    (s : Session) (a : α) {tell : Store → Store}
    (htell : ∀ saved : Store, saved.config = store.config → saved.Posts n k (tell saved)) :
    base.Tells n ((s.withStore store).saveThen a tell).2.store
      ↔ ¬∃ e, ((s.withStore store).saveThen a tell).1 = .error e := by
  have hunsaved := unsaved_saveChange (s.withStore store)
  have hfeed' : (s.withStore store).saveChange.2.store.feed = base.feed :=
    (congrArg Store.feed hunsaved :).trans hfeed
  have hupdates' : (s.withStore store).saveChange.2.store.updates = base.updates + k :=
    (congrArg Store.updates hunsaved :).trans hupdates
  have hconfig : (s.withStore store).saveChange.2.store.config = store.config :=
    (congrArg Store.config hunsaved :)
  unfold saveThen
  split
  · next heq =>
    rw [heq] at hfeed' hupdates'
    have hlost : ¬base.Tells n _ := Store.not_tells_of_lost hfeed' (by omega)
    simp [hlost]
  · next heq =>
    rw [heq] at hfeed' hupdates' hconfig
    simp [withStore, (htell _ hconfig).tells hlive hfeed' hupdates']

/-! ## Operations that write -/

section Writing

variable (hs : s.Opened c) (hannounce : c.announce = true)
  (hlive : (s.store.feed.inbox? n).isSome)

include hs hannounce hlive

theorem tells_upsert (key : String) (value : Bytes) (valueKey : Option String) :
    s.store.Tells n (s.upsert key value valueKey).2.store := by
  rw [upsert_of_idle hs.idle]
  split
  · exact .refl hlive
  · have hstore := store_sealValue s value valueKey
    generalize s.sealValue value valueKey = x at hstore
    obtain ⟨e | stored, s'⟩ := x <;> replace hstore : s'.store = s.store := hstore
    · exact .of_eq hlive (hstore ▸ rfl) (hstore ▸ rfl)
    · have hconfig : (s'.store.merge { key, value := stored }).config.announce = true := by
        show s'.store.config.announce = true
        rw [hstore, hs.serves.config, hannounce]
      have htold := Store.posts_announce (n := n) hconfig
        { kind := .upsert, key, value := some value }
      rw [← hstore] at hlive ⊢
      exact tells_saveThen (htold.tells hlive rfl rfl) s' ()

theorem tells_upsertEncoded (key : String) (encoded : Except Error Bytes)
    (valueKey : Option String) :
    s.store.Tells n (s.upsertEncoded key encoded valueKey).2.store := by
  cases encoded with
  | error e => exact .refl hlive
  | ok b => exact tells_upsert hs hannounce hlive key b valueKey

theorem tells_upsertUnless (key : String) (rejects : Bytes → Bool)
    (encoded : Except Error Bytes) (valueKey : Option String) :
    s.store.Tells n (s.upsertUnless key rejects encoded valueKey).2.store := by
  have hstore := store_get s key valueKey
  have hget := hs.trans (.get s key valueKey)
  have hwrite := tells_upsertEncoded (n := n) hget hannounce (by rwa [hstore]) key encoded valueKey
  rw [hstore] at hwrite
  rw [upsertUnless_eq]
  split
  · exact .of_eq hlive (hstore ▸ rfl) (hstore ▸ rfl)
  · exact hwrite

/-- What the update told comes first, and then the write. -/
theorem tells_update (key : String) (valueKey : Option String) {f : Update}
    (hf : f.Announces n) : s.store.Tells n (s.update key valueKey f).2.store := by
  have hstore := store_get s key valueKey
  unfold update
  split
  · exact .refl hlive
  · obtain ⟨hreach, htold⟩ := hf (s.get key valueKey).2 ((s.get key valueKey).1.getD [])
    have hnew := hs.trans ((Reaches.get s key valueKey).trans hreach)
    rw [hstore, hs.serves.config] at htold
    replace htold := htold hannounce hlive
    simp only
    split
    · next heq => rwa [heq] at htold
    · next value s' heq =>
      rw [heq] at hnew htold
      have hupsert := tells_upsert hnew hannounce htold.live key value valueKey
      split <;> next heq => rw [heq] at hupsert; exact htold.trans hupsert

theorem tells_getOrAdd (key : String) (valueKey : Option String) (make : String → Bytes) :
    s.store.Tells n (s.getOrAdd key valueKey (.ofSpelling make)).2.store := by
  have hstore := store_get s key valueKey
  have hget := hs.trans (.get s key valueKey)
  have hread : s.store.Tells n (s.get key valueKey).2.store :=
    .of_eq hlive (hstore ▸ rfl) (hstore ▸ rfl)
  cases hvalue : (s.get key valueKey).1 with
  | some value =>
    rw [getOrAdd_of_some hvalue]
    exact hread
  | none =>
    rw [getOrAdd_ofSpelling_of_missing hvalue]
    split
    · exact hread
    · exact hread.trans (tells_upsert hget hannounce hread.live key (make key) valueKey)

end Writing

/-! ## Operations that remove -/

section Removing

variable (hannounce : s.store.config.announce = true) (hlive : (s.store.feed.inbox? n).isSome)
  (hopen : s.store.closed = false)

include hannounce hlive hopen

theorem remove_tells_iff (key : String) :
    s.store.Tells n (s.remove key).2.store ↔ ¬∃ e, (s.remove key).1 = .error e := by
  cases hget : s.store.entries.get? key with
  | none =>
    rw [remove_of_none hopen hget]
    simp [Store.Tells.refl hlive]
  | some e =>
    have hupdates := Store.updates_discard s.store key
    have hfound : (s.store.discard key).1 = some e := by
      simp [Store.discard, Dictionary.takeOut, hget]
    rw [hfound] at hupdates
    rw [remove_of_some hopen hget]
    refine saveThen_tells_iff hlive (Store.feed_discard s.store key) hupdates Nat.one_pos s true ?_
    intro saved hconfig
    rw [Store.config_discard] at hconfig
    exact Store.posts_announce (hconfig ▸ hannounce) _

theorem removeWhere_tells_iff (start : Option String) (test : String → Bool) :
    s.store.Tells n (s.removeWhere start test).2.store
      ↔ ¬∃ e, (s.removeWhere start test).1 = .error e := by
  rw [removeWhere_eq, if_neg (by simp [hopen])]
  generalize s.doomed start test = keys
  split
  · simp [Store.Tells.refl hlive]
  · next hsome =>
    have hpos : 0 < (s.store.discardAll keys).1.length := by
      rwa [List.length_pos_iff, ne_eq, ← List.isEmpty_iff]
    refine saveThen_tells_iff hlive (Store.feed_discardAll s.store keys)
      (Store.updates_discardAll s.store keys) hpos s _ ?_
    intro saved hconfig
    rw [Store.config_discardAll] at hconfig
    exact Store.posts_announceAll (hconfig ▸ hannounce) _

theorem clear_tells_iff :
    s.store.Tells n s.clear.2.store ↔ ¬∃ e, s.clear.1 = .error e := by
  have hfeed : s.store.discardEverything.feed = s.store.feed := rfl
  have hupdates : s.store.discardEverything.updates = s.store.updates + 1 := rfl
  rw [clear_eq, if_neg (by simp [hopen])]
  refine saveThen_tells_iff hlive hfeed hupdates Nat.one_pos s () ?_
  intro saved hconfig
  exact Store.posts_announce (hconfig ▸ hannounce) _

end Removing

/-- Does the operation remove entries? -/
def Operation.isRemoval : Operation → Bool
  | .remove _ | .removeWhere _ _ | .clear => true
  | _ => false

/-- A removal from an open store tells what it counts unless it fails. -/
theorem removal_tells_iff {o : Operation} (hremoval : o.isRemoval = true)
    (hannounce : s.store.config.announce = true) (hlive : (s.store.feed.inbox? n).isSome)
    (hopen : s.store.closed = false) :
    s.store.Tells n (s.perform o).2.store ↔ ¬∃ i, (s.perform o).1 = .error i := by
  cases o with
  | remove key =>
    rw [perform, answer_eq_error_iff]
    exact remove_tells_iff hannounce hlive hopen key
  | removeWhere start test =>
    rw [perform, answer_eq_error_iff]
    exact removeWhere_tells_iff hannounce hlive hopen start test
  | clear =>
    rw [perform, answer_eq_error_iff]
    exact clear_tells_iff hannounce hlive hopen
  | _ => simp [Operation.isRemoval] at hremoval

/-- A closed store has nothing removed from it. -/
theorem removal_of_closed {o : Operation} (hremoval : o.isRemoval = true)
    (hclosed : s.store.closed = true) : (s.perform o).2 = s := by
  cases o with
  | remove key => simp [perform, answer, remove, hclosed]
  | removeWhere start test => simp [perform, answer, removeWhere, hclosed]
  | clear => simp [perform, answer, clear, hclosed]
  | _ => simp [Operation.isRemoval] at hremoval

/-- Every other operation that does not load tells what it counts, whatever it is answered. -/
theorem tells_perform {o : Operation} (hs : s.Opened c) (hannounce : c.announce = true)
    (hlive : (s.store.feed.inbox? n).isSome) (hremoval : o.isRemoval = false)
    (hload : o ≠ .rollback) (hf : o.Updates (Update.Announces n)) :
    s.store.Tells n (s.perform o).2.store := by
  cases o with
  | get key valueKey =>
    exact .of_eq hlive (congrArg Store.feed (store_get s key valueKey))
      (congrArg Store.updates (store_get s key valueKey))
  | getBuffered key valueKey extra =>
    exact .of_eq hlive (congrArg Store.feed (store_getBuffered s key valueKey extra))
      (congrArg Store.updates (store_getBuffered s key valueKey extra))
  | upsert key value valueKey => exact tells_upsert hs hannounce hlive key value valueKey
  | upsertAs codec key v valueKey => exact tells_upsertEncoded hs hannounce hlive key _ valueKey
  | upsertManyAs codec key vs valueKey =>
    exact tells_upsertEncoded hs hannounce hlive key _ valueKey
  | upsertAsIf codec key v valueKey condition =>
    exact tells_upsertUnless hs hannounce hlive key _ _ valueKey
  | upsertManyAsIf codec key vs valueKey condition =>
    exact tells_upsertUnless hs hannounce hlive key _ _ valueKey
  | update key valueKey f => exact tells_update hs hannounce hlive key valueKey hf
  | getOrAdd key valueKey make => exact tells_getOrAdd hs hannounce hlive key valueKey make
  | drain =>
    rw [perform, drain_of_idle hs.idle]
    exact .refl hlive
  | save cancelled => exact tells_save hlive cancelled
  | close =>
    rw [perform, close_of_idle hs.idle]
    split
    · exact .refl hlive
    · have hclosing : s.store.Tells n { s.store with closed := true } := .of_eq hlive rfl rfl
      exact tells_saveThen hclosing s ()
  | rollback => exact absurd rfl hload
  | _ => simp [Operation.isRemoval] at hremoval

/-- **A subscriber receives as many changes during an operation as the store counts, unless it is a
removal from an open store that fails.** Such a removal is counted, and nobody hears of it. -/
theorem tells_iff {o : Operation} (hs : s.Opened c) (hannounce : c.announce = true)
    (hlive : (s.store.feed.inbox? n).isSome) (hload : o ≠ .rollback)
    (hf : o.Updates (Update.Announces n)) :
    s.store.Tells n (s.perform o).2.store
      ↔ ¬(o.isRemoval = true ∧ s.store.closed = false ∧ ∃ i, (s.perform o).1 = .error i) := by
  cases hremoval : o.isRemoval with
  | false => simp [tells_perform hs hannounce hlive hremoval hload hf]
  | true =>
    cases hclosed : s.store.closed with
    | true => simp [removal_of_closed hremoval hclosed, Store.Tells.refl hlive]
    | false =>
      rw [removal_tells_iff hremoval (hs.serves.config ▸ hannounce) hlive hclosed]
      simp

end Session

/-- A store that announces its changes and saves each of them in a folder of its own. -/
def gazette : Config := { path := some "d/f", saveOnUpdate := true, announce := true }

/-- It has a subscriber and one entry, and then the folder of its file was removed. -/
def gazetteAlone : Session :=
  { ((Host.session {} gazette).subscribe.2.upsert "a" [7] none).2 with host := {} }

theorem opened_gazetteAlone : gazetteAlone.Opened gazette := by
  have hopened : (Host.session {} gazette).Opened gazette := Host.opened_session (by decide +kernel)
  have hwritten := (hopened.trans (.subscribe _)).trans (.upsert _ "a" [7] none)
  exact hwritten.trans (.elsewhere _ {})

/-- Without its folder the store cannot save an update, and the subscriber hears of it. -/
theorem Session.tells_iff_update :
    gazetteAlone.Opened gazette ∧ gazette.announce = true
      ∧ (gazetteAlone.store.feed.inbox? 0).isSome = true
      ∧ (gazetteAlone.perform (.update "a" none appendOne)).1 = .error (.failed (.io .notFound))
      ∧ gazetteAlone.store.Tells 0 (gazetteAlone.perform (.update "a" none appendOne)).2.store := by
  have hlive : (gazetteAlone.store.feed.inbox? 0).isSome = true := by decide +kernel
  have hload : Operation.update "a" none appendOne ≠ .rollback := nofun
  have htold : (Operation.update "a" none appendOne).Updates (Update.Announces 0) :=
    fun s _ => ⟨.refl s, fun _ hlive => .refl hlive⟩
  refine ⟨opened_gazetteAlone, rfl, hlive, by decide +kernel, ?_⟩
  rw [Session.tells_iff opened_gazetteAlone rfl hlive hload htold]
  rintro ⟨hremoval, -⟩
  cases hremoval

/-- It cannot save a removal either, and nobody hears of that: the entry is gone and the change is
counted. -/
theorem Session.not_tells_remove :
    gazetteAlone.Opened gazette ∧ gazette.announce = true
      ∧ (gazetteAlone.store.feed.inbox? 0).isSome = true
      ∧ (gazetteAlone.perform (.remove "a")).1 = .error (.failed (.io .notFound))
      ∧ ¬gazetteAlone.store.Tells 0 (gazetteAlone.perform (.remove "a")).2.store :=
  ⟨opened_gazetteAlone, rfl, by decide +kernel, by decide +kernel,
    Store.not_tells_of_lost (by decide +kernel) (by decide +kernel)⟩

end Coffer
