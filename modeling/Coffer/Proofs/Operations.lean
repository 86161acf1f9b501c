import Coffer.Proofs.Reach

/-!
# The operations of a store

What a program can ask of an open store, with what it is answered. A run is a list of operations,
and its history tells of each what it was answered and how things stood after it.

## What an operation does

Between two operations no write is waiting: a store is opened so, and each operation merges what it
put into the queue (`Opened.idle`). Therefore an operation either leaves the store as it was, or
changes it in memory, saves, and if that succeeded announces what is still to be announced
(`saveThen`). Saving changes nothing of the store but its archive and how often it was saved
(`unsaved_save`).

The changes that a store goes through in memory are few (`Store.Changes`), and all that operations
do to a store is made of them (`Reaches.changes`).
-/

namespace Coffer

/-! ## What a store goes through -/

/-- An archive of the configuration loads the entries from a file of that length. -/
def Config.Loads (c : Config) (entries : Dictionary) (estimate : Nat) : Prop :=
  ∃ (a : Archive) (disk : Disk) (scratch : Scratch), a.Serves c
    ∧ estimate = (a.path.map disk.fileLength).getD 0
    ∧ (a.load false estimate c.ignoreCase disk scratch).1 = .ok entries

/-- One store becomes another by the changes that operations are made of. It takes over only what
can be loaded. -/
inductive Store.Changes (loads : Dictionary → Nat → Prop) : Store → Store → Prop
  | refl (s : Store) : Changes loads s s
  | trans {s t u : Store} : Changes loads s t → Changes loads t u → Changes loads s u
  | save (s : Store) (archive : Archive) (saves : Nat) : Changes loads s { s with archive, saves }
  | tell (s : Store) (feed : Feed) : Changes loads s { s with feed }
  | close (s : Store) : Changes loads s { s with closed := true }
  | merge (s : Store) (p : Pending) : Changes loads s (s.merge p)
  | discard (s : Store) (key : String) : Changes loads s (s.discard key).2
  | discardEverything (s : Store) : Changes loads s s.discardEverything
  | adopt (s : Store) {entries : Dictionary} {estimate : Nat} (h : loads entries estimate) :
    Changes loads s (s.adopt entries estimate)

namespace Store

variable {loads : Dictionary → Nat → Prop} {s t : Store}

@[simp] theorem pending_discard (s : Store) (key : String) :
    (s.discard key).2.pending = s.pending := by
  unfold discard
  split <;> rfl

/-- None of the changes leaves a write waiting that was not waiting before. -/
theorem Changes.pending (h : s.Changes loads t) : t.pending = s.pending := by
  induction h with
  | refl | save | tell | close | merge | discardEverything | adopt => rfl
  | trans _ _ ih ih' => exact ih'.trans ih
  | discard s key => exact pending_discard s key

/-- Announcing a change touches the feed alone. -/
theorem announce_eq (s : Store) (c : Change) :
    s.announce c = { s with feed := if s.config.announce then s.feed.publish c else s.feed } := by
  unfold announce
  split <;> rfl

theorem Changes.announce (s : Store) (c : Change) : s.Changes loads (s.announce c) :=
  announce_eq s c ▸ .tell s _

theorem Changes.announceAll (es : List Entry) (s : Store) :
    s.Changes loads (es.foldl Session.announceRemoval s) := by
  induction es generalizing s with
  | nil => exact .refl s
  | cons e es ih => exact (announce s _).trans (ih _)

theorem Changes.discardAll (keys : List String) (s : Store) :
    s.Changes loads (s.discardAll keys).2 := by
  induction keys generalizing s with
  | nil => exact .refl s
  | cons key keys ih => exact (Changes.discard s key).trans (ih _)

/-- The store without what saving changes: its archive and how often it was saved. -/
def unsaved (s : Store) : Store := { s with archive := .disabled, saves := 0 }

theorem changes_of_unsaved_eq (h : t.unsaved = s.unsaved) : s.Changes loads t := by
  cases t
  cases s
  simp only [unsaved, Store.mk.injEq] at h
  obtain ⟨rfl, -, rfl, rfl, rfl, rfl, -, rfl, rfl⟩ := h
  exact .save _ _ _

/-- A write that alone is waiting is merged, whether it is announced or not. -/
theorem mergeAll_enqueue (h : s.pending = []) (p : Pending) (c : Change) :
    ((s.enqueue p).announce c).mergeAll = (s.merge p).announce c := by
  cases s
  subst h
  rw [announce_eq, announce_eq]
  rfl

end Store

/-- Is a spelling selected by a test of what follows the start, or of the whole spelling where no
start is given? -/
def Comparer.selects (c : Comparer) (start : Option String) (test : String → Bool)
    (spelling : String) : Bool :=
  match start with
  | none => test spelling
  | some start => (c.after? start spelling).any test

namespace Session

variable {loads : Dictionary → Nat → Prop} {s t : Session} {c : Config}

/-! ## Saving -/

theorem unsaved_render (s : Session) : s.render.2.store.unsaved = s.store.unsaved := rfl

theorem unsaved_write (s : Session) (snapshot : Snapshot) (cancelled : Bool) :
    (s.write snapshot cancelled).2.store.unsaved = s.store.unsaved := by
  unfold write
  simp only
  split <;> rfl

/-- **Saving changes nothing of the store but its archive and how often it was saved.** -/
theorem unsaved_save (s : Session) (cancelled : Bool) :
    (s.save cancelled).2.store.unsaved = s.store.unsaved := by
  rcases s.save_eq_render_or_write cancelled with ⟨r, hsave⟩ | ⟨snapshot, hsave⟩
  · rw [hsave]
    exact unsaved_render s
  · rw [hsave]
    exact (unsaved_write s.render.2 snapshot cancelled).trans (unsaved_render s)

theorem host_render (s : Session) : ∃ scratch, s.render.2.host = { s.host with scratch } :=
  ⟨_, rfl⟩

theorem host_write (s : Session) (snapshot : Snapshot) (cancelled : Bool) :
    ∃ disk, (s.write snapshot cancelled).2.host = { s.host with disk } := by
  unfold write
  simp only
  split <;> exact ⟨_, rfl⟩

/-- What saving changes besides: the disk, and the buffers that lie in the pools. -/
theorem host_save (s : Session) (cancelled : Bool) :
    ∃ disk scratch, (s.save cancelled).2.host = { s.host with disk, scratch } := by
  obtain ⟨scratch, hrender⟩ := host_render s
  rcases s.save_eq_render_or_write cancelled with ⟨r, hsave⟩ | ⟨snapshot, hsave⟩
  · rw [hsave]
    exact ⟨s.host.disk, scratch, hrender⟩
  · obtain ⟨disk, hwrite⟩ := host_write s.render.2 snapshot cancelled
    exact ⟨disk, scratch, by rw [hsave, hwrite, hrender]⟩

/-- One step after another. An error of the first is the answer. -/
def andThen {α β : Type} (x : Except Error α × Session)
    (f : α → Session → Except Error β × Session) : Except Error β × Session :=
  match x with
  | (.error e, s) => (.error e, s)
  | (.ok a, s) => f a s

/-- Saves a store that has changed. If that succeeds the change is told, and `a` is the answer. -/
def saveThen {α : Type} (s : Session) (a : α) (tell : Store → Store) : Except Error α × Session :=
  match s.saveChange with
  | (.error e, s) => (.error e, s)
  | (.ok (), s) => (.ok a, s.withStore (tell s.store))

theorem unsaved_saveChange (s : Session) : s.saveChange.2.store.unsaved = s.store.unsaved := by
  unfold saveChange
  split
  · exact unsaved_save s false
  · rfl

theorem keyring_save (s : Session) (cancelled : Bool) :
    (s.save cancelled).2.host.keyring = s.host.keyring := by
  obtain ⟨disk, scratch, h⟩ := host_save s cancelled
  rw [h]

theorem keyring_saveChange (s : Session) : s.saveChange.2.host.keyring = s.host.keyring := by
  unfold saveChange
  split
  · exact keyring_save s false
  · rfl

/-! ## What operations do -/

section Idle

variable (h : s.store.pending = [])

include h

theorem drain_of_idle : s.drain = (.ok 0, s) := by
  obtain ⟨store, host⟩ := s
  cases store
  cases h
  rfl

theorem close_of_idle :
    s.close = if s.store.closed then (.ok (), s)
      else (s.withStore { s.store with closed := true }).saveThen () id := by
  unfold close
  split
  · rfl
  · simp only [drain_of_idle (s := s.withStore { s.store with closed := true }) h, saveThen]
    generalize saveChange _ = x
    obtain ⟨e | _, s'⟩ := x <;> rfl

/-- A write is merged and saved at once. -/
theorem drain_enqueue (p : Pending) (c : Change) :
    (s.withStore ((s.store.enqueue p).announce c)).drain
      = (s.withStore ((s.store.merge p).announce c)).saveThen 1 id := by
  have hwaiting : ((s.store.enqueue p).announce c).pending.length = 1 := by
    rw [Store.announce_eq]
    simp [Store.enqueue, h]
  simp only [drain, withStore, Store.mergeAll_enqueue h, hwaiting, Nat.one_ne_zero, if_false]
  rfl

theorem upsert_of_idle (key : String) (value : Bytes) (valueKey : Option String) :
    s.upsert key value valueKey = if s.store.closed then (.error .closed, s) else
      andThen (s.sealValue value valueKey) fun stored s =>
        (s.withStore ((s.store.merge { key, value := stored }).announce
          { kind := .upsert, key, value := some value })).saveThen () id := by
  have hstore := store_sealValue s value valueKey
  unfold upsert
  split
  · rfl
  · generalize s.sealValue value valueKey = x at hstore
    obtain ⟨e | stored, s'⟩ := x
    · rfl
    · have hidle : s'.store.pending = [] := hstore ▸ h
      simp only [drain_enqueue hidle, andThen, saveThen]
      generalize saveChange _ = x
      obtain ⟨e | _, s''⟩ := x <;> rfl

end Idle

theorem remove_of_none {key : String} (hopen : s.store.closed = false)
    (h : s.store.entries.get? key = none) : s.remove key = (.ok false, s) := by
  simp [remove, hopen, Store.discard, Dictionary.takeOut, h]

theorem remove_of_some {key : String} {e : Entry} (hopen : s.store.closed = false)
    (h : s.store.entries.get? key = some e) :
    s.remove key
      = (s.withStore (s.store.discard key).2).saveThen true (announceRemoval · e) := by
  have hdiscard : s.store.discard key = (some e, (s.store.discard key).2) := by
    simp [Store.discard, Dictionary.takeOut, h]
  unfold remove
  rw [if_neg (by simp [hopen]), hdiscard]
  rfl

theorem clear_eq (s : Session) :
    s.clear = if s.store.closed then (.error .closed, s)
      else (s.withStore s.store.discardEverything).saveThen () (·.announce .cleared) := rfl

/-- The keys whose entries go when those are removed that a test accepts. -/
def doomed (s : Session) (start : Option String) (test : String → Bool) : List String :=
  ((s.candidates start).filter fun c => test c.2).map (·.1)

/-- The spellings that go are those of the entries that are selected. -/
theorem doomed_eq (s : Session) (start : Option String) (test : String → Bool) :
    s.doomed start test = ((s.host.order.arrange s.store.entries.entries).filter
      fun e => s.store.comparer.selects start test e.key).map (·.key) := by
  rw [doomed, candidates, List.filter_filterMap, List.map_filterMap, ← List.filterMap_eq_map,
    List.filterMap_filter]
  congr 1
  funext e
  cases start with
  | none =>
    show Option.map _ (Option.filter _ (some (e.key, e.key)))
      = if test e.key then some e.key else none
    rw [Option.filter_some]
    split <;> rfl
  | some start =>
    show Option.map _ (Option.filter _
        ((s.store.comparer.after? start e.key).map fun rest => (e.key, rest)))
      = if (s.store.comparer.after? start e.key).any test then some e.key else none
    cases s.store.comparer.after? start e.key with
    | none => rfl
    | some rest =>
      rw [Option.map_some, Option.filter_some, Option.any_some]
      split <;> rfl

theorem mem_doomed {start : Option String} {test : String → Bool} {key : String} :
    key ∈ s.doomed start test ↔ (∃ e ∈ s.store.entries.entries, e.key = key)
      ∧ s.store.comparer.selects start test key = true := by
  rw [doomed_eq]
  simp only [List.mem_map, List.mem_filter, (s.host.order.perm _).mem_iff]
  constructor
  · rintro ⟨e, ⟨he, hselects⟩, rfl⟩
    exact ⟨⟨e, he, rfl⟩, hselects⟩
  · rintro ⟨⟨e, he, rfl⟩, hselects⟩
    exact ⟨e, ⟨he, hselects⟩, rfl⟩

theorem removeWhere_eq (s : Session) (start : Option String) (test : String → Bool) :
    s.removeWhere start test = if s.store.closed then (.error .closed, s)
      else if (s.store.discardAll (s.doomed start test)).1.isEmpty then (.ok 0, s)
      else (s.withStore (s.store.discardAll (s.doomed start test)).2).saveThen
        (s.store.discardAll (s.doomed start test)).1.length
        ((s.store.discardAll (s.doomed start test)).1.foldl announceRemoval) := rfl

/-! ## What a program can make of a store -/

theorem changes_save (s : Session) (cancelled : Bool) :
    s.store.Changes loads (s.save cancelled).2.store :=
  Store.changes_of_unsaved_eq (unsaved_save s cancelled)

theorem changes_saveThen {α : Type} {base store : Store} (h : base.Changes loads store)
    (s : Session) (a : α) {tell : Store → Store}
    (htell : ∀ store : Store, store.Changes loads (tell store)) :
    base.Changes loads ((s.withStore store).saveThen a tell).2.store := by
  have hsave := h.trans (Store.changes_of_unsaved_eq (unsaved_saveChange (s.withStore store)))
  unfold saveThen
  split
  · next heq => rwa [heq] at hsave
  · next heq =>
    rw [heq] at hsave
    exact hsave.trans (htell _)

theorem changes_close (h : s.store.pending = []) :
    s.store.Changes loads s.close.2.store := by
  rw [close_of_idle h]
  split
  · exact .refl _
  · exact changes_saveThen (.close s.store) s () .refl

theorem changes_rollback (hs : s.store.Serves c) :
    s.store.Changes c.Loads s.rollback.2.store := by
  unfold rollback
  simp only
  split
  · exact .save _ _ _
  · next entries hload =>
    rw [hs.config] at hload
    have hloads : c.Loads entries ((s.store.path.map s.host.disk.fileLength).getD 0) :=
      ⟨s.store.archive, s.host.disk, s.host.scratch, hs.archive, rfl, hload⟩
    exact (Store.Changes.save s.store _ s.store.saves).trans (.adopt _ hloads)

theorem changes_upsert (h : s.store.pending = []) (key : String) (value : Bytes)
    (valueKey : Option String) : s.store.Changes loads (s.upsert key value valueKey).2.store := by
  rw [upsert_of_idle h]
  split
  · exact .refl _
  · have hstore := store_sealValue s value valueKey
    generalize s.sealValue value valueKey = x at hstore
    obtain ⟨e | stored, s'⟩ := x
    · exact hstore ▸ .refl _
    · have hmerge : s'.store.Changes loads (s'.store.merge { key, value := stored }) := .merge _ _
      rw [← hstore]
      exact changes_saveThen (hmerge.trans (.announce _ _)) s' () .refl

/-- What the update changes comes first, and then the write. -/
theorem changes_update (h : s.store.pending = []) (key : String) (valueKey : Option String)
    {f : Update}
    (hf : s.store.closed = false → s.store.Changes loads
      (f (s.get key valueKey).2 ((s.get key valueKey).1.getD [])).2.store) :
    s.store.Changes loads (s.update key valueKey f).2.store := by
  unfold update
  split
  · exact .refl _
  · next hopen =>
    have hnew := hf (Bool.eq_false_iff.mpr hopen)
    simp only
    split
    · next heq => rwa [heq] at hnew
    · next value s' heq =>
      rw [heq] at hnew
      have hupsert : s'.store.Changes loads (s'.upsert key value valueKey).2.store :=
        changes_upsert (hnew.pending.trans h) key value valueKey
      split <;> next heq => rw [heq] at hupsert; exact hnew.trans hupsert

/-- What the factory changes comes first, and then the write. -/
theorem changes_getOrAdd (h : s.store.pending = []) (key : String) (valueKey : Option String)
    {make : Factory}
    (hmake : s.store.Changes loads (make (s.get key valueKey).2 key).2.store) :
    s.store.Changes loads (s.getOrAdd key valueKey make).2.store := by
  have hread : s.store.Changes loads (s.get key valueKey).2.store :=
    store_get s key valueKey ▸ .refl _
  cases hvalue : (s.get key valueKey).1 with
  | some value =>
    rw [getOrAdd_of_some hvalue]
    exact hread
  | none =>
    rw [getOrAdd_of_missing hvalue]
    split
    · exact hread
    · exact hmake.trans (changes_upsert (hmake.pending.trans h) key _ valueKey)

theorem changes_remove (s : Session) (key : String) :
    s.store.Changes loads (s.remove key).2.store := by
  cases hclosed : s.store.closed with
  | true =>
    unfold remove
    rw [if_pos hclosed]
    exact .refl _
  | false =>
    cases hget : s.store.entries.get? key with
    | none =>
      rw [remove_of_none hclosed hget]
      exact .refl _
    | some e =>
      rw [remove_of_some hclosed hget]
      exact changes_saveThen (.discard s.store key) s true fun store => .announce store _

theorem changes_removeWhere (s : Session) (start : Option String) (test : String → Bool) :
    s.store.Changes loads (s.removeWhere start test).2.store := by
  rw [removeWhere_eq]
  split
  · exact .refl _
  · split
    · exact .refl _
    · exact changes_saveThen (.discardAll _ s.store) s _ (.announceAll _)

theorem changes_clear (s : Session) : s.store.Changes loads s.clear.2.store := by
  rw [clear_eq]
  split
  · exact .refl _
  · exact changes_saveThen (.discardEverything s.store) s () fun store => .announce store _

/-- **All that operations do to a store between two others is made of few changes.** -/
theorem Reaches.changes (hreach : s.Reaches t) (hs : s.store.Serves c) (h : s.store.pending = []) :
    s.store.Changes c.Loads t.store := by
  induction hreach with
  | refl | elsewhere => exact .refl _
  | trans hreach _ ih ih' =>
    exact (ih hs h).trans (ih' (hreach.serves hs) ((ih hs h).pending.trans h))
  | subscribers s feed => exact .tell _ _
  | subscribe s => exact .tell _ _
  | get s key valueKey => exact store_get s key valueKey ▸ .refl _
  | getBuffered s key valueKey extra => exact store_getBuffered s key valueKey extra ▸ .refl _
  | render s => exact Store.changes_of_unsaved_eq (unsaved_render s)
  | write s _ cancelled => exact Store.changes_of_unsaved_eq (unsaved_write s _ cancelled)
  | save s cancelled => exact changes_save s cancelled
  | drain => exact drain_of_idle h ▸ .refl _
  | rollback s => exact changes_rollback hs
  | close => exact changes_close h
  | upsert _ key value valueKey => exact changes_upsert h key value valueKey
  | update s key valueKey f _ ih =>
    have hstore := store_get s key valueKey
    refine changes_update h key valueKey fun _ => ?_
    rw [← hstore] at hs h ⊢
    exact ih _ _ hs h
  | getOrAdd s key valueKey make _ ih =>
    have hstore := store_get s key valueKey
    refine changes_getOrAdd h key valueKey ?_
    rw [← hstore] at hs h ⊢
    exact ih _ key hs h
  | remove s key => exact changes_remove s key
  | removeWhere s start test => exact changes_removeWhere s start test
  | clear s => exact changes_clear s

/-- The session is one that a program comes to after opening a store of the configuration. -/
def Opened (s : Session) (c : Config) : Prop :=
  ∃ h store host, Host.openStore h c = (.ok store, host) ∧ Reaches ⟨store, host⟩ s

theorem Opened.trans (h : s.Opened c) (hreach : s.Reaches t) : t.Opened c := by
  obtain ⟨host, store, host', hopen, hreach'⟩ := h
  exact ⟨host, store, host', hopen, hreach'.trans hreach⟩

theorem Opened.serves (h : s.Opened c) : s.store.Serves c := by
  obtain ⟨_, store, host, hopen, hreach⟩ := h
  exact hreach.serves (serves_of_openStore hopen)

/-- **Between two operations no write is waiting.** -/
theorem Opened.idle (h : s.Opened c) : s.store.pending = [] := by
  obtain ⟨_, store, host, hopen, hreach⟩ := h
  have hidle : store.pending = [] := by
    unfold Host.openStore at hopen
    split at hopen
    · cases hopen
    · simp only at hopen
      split at hopen
      · cases hopen
      · cases hopen
        rfl
  exact (hreach.changes (serves_of_openStore hopen) hidle).pending.trans hidle

end Session

/-- The session after the store of a configuration was opened. -/
def Host.session (h : Host) (c : Config) : Session :=
  ⟨(h.openStore c).1.toOption.getD default, (h.openStore c).2⟩

theorem Host.openStore_eq_session {h : Host} {c : Config} (hok : (h.openStore c).1.isOk = true) :
    h.openStore c = (.ok (h.session c).store, (h.session c).host) := by
  unfold session
  cases hopen : h.openStore c with
  | mk opened host =>
    cases opened with
    | error e =>
      rw [hopen] at hok
      cases hok
    | ok store => rfl

theorem Host.opened_session {h : Host} {c : Config} (hok : (h.openStore c).1.isOk = true) :
    (h.session c).Opened c :=
  ⟨h, _, _, openStore_eq_session hok, .refl _⟩

namespace Session

/-! ## Operations as data -/

/-- What an operation that succeeds gives. -/
inductive Reply where
  | done
  | decided (b : Bool)
  | counted (n : Nat)
  | value (b : Bytes)
  | found (b : Option Bytes)
  deriving Repr, DecidableEq

/-- What an operation is answered. -/
abbrev Answer := Except Interruption Reply

/-- An operation of an open store. -/
inductive Operation : Type 1
  | get (key : String) (valueKey : Option String)
  | getBuffered (key : String) (valueKey : Option String) (extra : UInt64)
  | upsert (key : String) (value : Bytes) (valueKey : Option String)
  | upsertAs {α : Type} (codec : Codec α) (key : String) (v : α) (valueKey : Option String)
  | upsertManyAs {α : Type} (codec : Codec α) (key : String) (vs : List α)
    (valueKey : Option String)
  | upsertAsIf {α : Type} (codec : Codec α) (key : String) (v : α) (valueKey : Option String)
    (condition : α → Bool)
  | upsertManyAsIf {α : Type} (codec : Codec α) (key : String) (vs : List α)
    (valueKey : Option String) (condition : List α → Bool)
  | update (key : String) (valueKey : Option String) (f : Update)
  | getOrAdd (key : String) (valueKey : Option String) (make : String → Bytes)
  | remove (key : String)
  | removeWhere (start : Option String) (test : String → Bool)
  | clear
  | drain
  | save (cancelled : Bool)
  | rollback
  | close

/-- An answer from a result, with the session after it. -/
def answer {α β : Type} (reply : α → β) (x : Except Error α × Session) :
    Except Interruption β × Session :=
  ((x.1.mapError .failed).map reply, x.2)

theorem answer_eq_error_iff {α β : Type} {reply : α → β} {x : Except Error α × Session} :
    (∃ i, (answer reply x).1 = .error i) ↔ ∃ e, x.1 = .error e := by
  obtain ⟨e | a, s⟩ := x <;> simp [answer, Except.map, Except.mapError]

/-- What an operation is answered, and the session after it. -/
def perform (s : Session) : Operation → Answer × Session
  | .get key valueKey =>
    let (value, s) := s.get key valueKey
    (.ok (.found value), s)
  | .getBuffered key valueKey extra =>
    let (buffer, s) := s.getBuffered key valueKey extra
    (.ok (.found (buffer.map (·.written))), s)
  | .upsert key value valueKey => answer (fun _ => .done) (s.upsert key value valueKey)
  | .upsertAs codec key v valueKey => answer (fun _ => .done) (s.upsertAs codec key v valueKey)
  | .upsertManyAs codec key vs valueKey =>
    answer (fun _ => .done) (s.upsertManyAs codec key vs valueKey)
  | .upsertAsIf codec key v valueKey condition =>
    answer .decided (s.upsertAsIf codec key v valueKey condition)
  | .upsertManyAsIf codec key vs valueKey condition =>
    answer .decided (s.upsertManyAsIf codec key vs valueKey condition)
  | .update key valueKey f =>
    let (value, s) := s.update key valueKey f
    (value.map .value, s)
  | .getOrAdd key valueKey make => answer .value (s.getOrAdd key valueKey (.ofSpelling make))
  | .remove key => answer .decided (s.remove key)
  | .removeWhere start test => answer .counted (s.removeWhere start test)
  | .clear => answer (fun _ => .done) s.clear
  | .drain => answer .counted s.drain
  | .save cancelled => answer (fun _ => .done) (s.save cancelled)
  | .rollback => answer (fun _ => .done) s.rollback
  | .close => answer (fun _ => .done) s.close

/-- The operation's update, if it has one, is of a certain sort. -/
def Operation.Updates (sort : Update → Prop) : Operation → Prop
  | .update _ _ f => sort f
  | _ => True

theorem answer_eq_ok_iff {α β : Type} {reply : α → β} {x : Except Error α × Session} {r : β} :
    (answer reply x).1 = .ok r ↔ ∃ a, x.1 = .ok a ∧ reply a = r := by
  obtain ⟨e | a, s⟩ := x <;> simp [answer, Except.map, Except.mapError]

/-- What is performed leads to where its operation leads. -/
theorem Reaches.perform (s : Session) {o : Operation}
    (hf : o.Updates fun f => ∀ (s : Session) (value : Bytes), s.Reaches (f s value).2) :
    s.Reaches (s.perform o).2 := by
  cases o with
  | get key valueKey => exact .get s key valueKey
  | getBuffered key valueKey extra => exact .getBuffered s key valueKey extra
  | upsert key value valueKey => exact .upsert s key value valueKey
  | upsertAs codec key v valueKey => exact .upsertEncoded s key _ valueKey
  | upsertManyAs codec key vs valueKey => exact .upsertEncoded s key _ valueKey
  | upsertAsIf codec key v valueKey condition => exact .upsertUnless s key _ _ valueKey
  | upsertManyAsIf codec key vs valueKey condition => exact .upsertUnless s key _ _ valueKey
  | update key valueKey f => exact .update s key valueKey f hf
  | getOrAdd key valueKey make => exact .getOrAdd s key valueKey _ fun s _ => .refl s
  | remove key => exact .remove s key
  | removeWhere start test => exact .removeWhere s start test
  | clear => exact .clear s
  | drain => exact .drain s
  | save cancelled => exact .save s cancelled
  | rollback => exact .rollback s
  | close => exact .close s

theorem Operation.Updates.mono {sort sort' : Update → Prop} (h : ∀ f, sort f → sort' f)
    {o : Operation} (ho : o.Updates sort) : o.Updates sort' := by
  cases o with
  | update key valueKey f => exact h f ho
  | _ => trivial

/-! ## Runs -/

/-- An operation, and what happens elsewhere before it. -/
structure Call where
  operation : Operation
  elsewhere : Host → Host := id

/-- An operation that was performed. -/
structure Event where
  answer : Answer
  after : Session

/-- The operation of a call, performed on what it finds. -/
def call (s : Session) (c : Call) : Answer × Session :=
  perform { s with host := c.elsewhere s.host } c.operation

/-- The operations of a run one by one. -/
def history (s : Session) : List Call → List Event
  | [] => []
  | c :: calls =>
    let (answer, after) := s.call c
    { answer, after } :: after.history calls

end Session

/-- An update that appends a byte. -/
def appendOne : Update := fun s value => (.ok (value ++ [1]), s)

end Coffer
