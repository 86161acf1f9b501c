import Coffer.Proofs.Durability
import Coffer.Proofs.Mirroring
import Coffer.Proofs.Snapshots

/-!
# What an operation leaves on the disk

An operation saves at most once, and only at its end. So it leaves the disk as it was, or it has
succeeded and the disk holds what the store does (`Session.keeps_perform`). In particular an
operation that fails has left the disk alone.

A store that is closed is changed by no operation but a rollback, and only a save still writes
(`Session.perform_of_closed`).
-/

namespace Coffer.Session

variable {c : Config} {path : String} {s t : Session} {ε α β : Type}

/-- What an operation has left: the disk as it was, or a disk that holds what the store does. The
store was not closed by it. -/
structure Keeps (c : Config) (s : Session) (x : Except ε α × Session) : Prop where
  closed : x.2.store.closed = s.store.closed
  disk : x.2.host.disk = s.host.disk ∨ (∃ a, x.1 = .ok a) ∧ x.2.Recorded c

theorem Keeps.of_same {x : Except ε α × Session} (hstore : x.2.store = s.store)
    (hdisk : x.2.host.disk = s.host.disk) : Keeps c s x :=
  ⟨congrArg Store.closed hstore, .inl hdisk⟩

/-- What changed neither store nor disk may come before. -/
theorem Keeps.after_same {x : Except ε α × Session} (h : Keeps c t x)
    (hstore : t.store = s.store) (hdisk : t.host.disk = s.host.disk) : Keeps c s x :=
  ⟨h.closed.trans (congrArg Store.closed hstore), h.disk.imp_left fun h => h.trans hdisk⟩

/-- **An operation that fails has left the disk as it was.** -/
theorem Keeps.disk_of_error {x : Except ε α × Session} (h : Keeps c s x) {e : ε}
    (he : x.1 = .error e) : x.2.host.disk = s.host.disk := by
  rcases h.disk with hdisk | ⟨⟨a, ha⟩, -⟩
  · exact hdisk
  · rw [he] at ha
    cases ha

/-- Another form of the answer makes no difference. -/
theorem Keeps.map {x : Except ε α × Session} (h : Keeps c s x) (f : α → β) :
    Keeps c s (x.1.map f, x.2) := by
  refine ⟨h.closed, h.disk.imp_right ?_⟩
  rintro ⟨⟨a, ha⟩, hrecorded⟩
  exact ⟨⟨f a, by rw [ha]; rfl⟩, hrecorded⟩

theorem Keeps.answer {x : Except Error α × Session} (h : Keeps c s x) (reply : α → β) :
    Keeps c s (Session.answer reply x) := by
  refine ⟨h.closed, h.disk.imp_right ?_⟩
  rintro ⟨⟨a, ha⟩, hrecorded⟩
  exact ⟨⟨reply a, answer_eq_ok_iff.mpr ⟨a, ha, rfl⟩⟩, hrecorded⟩

/-! ## Saving -/

/-- **A save that fails leaves the disk as it was.** -/
theorem disk_of_save_error {cancelled : Bool} {e : Error} (h : (s.save cancelled).1 = .error e) :
    (s.save cancelled).2.host.disk = s.host.disk := by
  have hrender : s.render.2.host.disk = s.host.disk := rfl
  rcases s.save_eq_render_or_write cancelled with ⟨r, hsave⟩ | ⟨snapshot, hsave⟩
  · rw [hsave]
    exact hrender
  · rw [hsave] at h ⊢
    rw [write_of_error h]
    exact hrender

theorem keeps_save (hpath : c.filePath = some path) (hs : s.store.Serves c) (cancelled : Bool) :
    Keeps c s (s.save cancelled) := by
  refine ⟨(congrArg Store.closed (unsaved_save s cancelled) :), ?_⟩
  cases hsave : (s.save cancelled).1 with
  | error e => exact .inl (disk_of_save_error hsave)
  | ok u => exact .inr ⟨⟨u, rfl⟩, recorded_of_save hs hpath (Prod.ext hsave rfl)⟩

theorem keeps_saveChange (hpath : c.filePath = some path) (hs : s.store.Serves c) :
    Keeps c s s.saveChange := by
  unfold saveChange
  split
  · exact keeps_save hpath hs false
  · exact .of_same rfl rfl

/-- A change that was saved, if the store saves on every change. -/
theorem keeps_saveThen (hpath : c.filePath = some path) {store : Store} (hs : store.Serves c)
    (hclosed : store.closed = s.store.closed) {a : α} {tell : Store → Store}
    (htell : ∀ store : Store, (tell store).memory = store.memory) :
    Keeps c s ((s.withStore store).saveThen a tell) := by
  have hsave := keeps_saveChange (s := s.withStore store) hpath hs
  unfold saveThen
  generalize (s.withStore store).saveChange = x at hsave
  obtain ⟨e | u, saved⟩ := x
  · exact ⟨hsave.closed.trans hclosed, .inl (hsave.disk_of_error rfl)⟩
  · have hmemory := htell saved.store
    refine ⟨(congrArg Store.closed hmemory :).trans (hsave.closed.trans hclosed), ?_⟩
    refine hsave.disk.imp_right fun h => ⟨⟨a, rfl⟩, ?_⟩
    exact h.2.of_eq (congrArg Store.entries hmemory :) rfl

/-! ## Operations -/

theorem disk_sealValue (s : Session) (value : Bytes) (valueKey : Option String) :
    (s.sealValue value valueKey).2.host.disk = s.host.disk := by
  unfold sealValue
  split <;> rfl

theorem closed_discard (store : Store) (key : String) :
    (store.discard key).2.closed = store.closed := by
  unfold Store.discard
  split <;> rfl

theorem closed_discardAll (store : Store) (keys : List String) :
    (store.discardAll keys).2.closed = store.closed := by
  induction keys generalizing store with
  | nil => rfl
  | cons key keys ih => exact (ih _).trans (closed_discard store key)

section Writing

variable (hpath : c.filePath = some path) (hs : s.store.Serves c)

include hpath hs

theorem keeps_upsert (hidle : s.store.pending = []) (key : String) (value : Bytes)
    (valueKey : Option String) : Keeps c s (s.upsert key value valueKey) := by
  rw [upsert_of_idle hidle]
  split
  · exact .of_same rfl rfl
  · have hstore := store_sealValue s value valueKey
    have hdisk := disk_sealValue s value valueKey
    generalize s.sealValue value valueKey = x at hstore hdisk
    obtain ⟨e | stored, s'⟩ := x
    · exact .of_same hstore hdisk
    · have hs' : s'.store.Serves c := hstore ▸ hs
      have hwritten := (hs'.merge { key, value := stored }).announce
        { kind := .upsert, key, value := some value }
      have hopen : ((s'.store.merge { key, value := stored }).announce
          { kind := .upsert, key, value := some value }).closed = s'.store.closed := by
        rw [Store.announce_eq]
        rfl
      have hwrite : Keeps c s' ((s'.withStore _).saveThen () id) :=
        keeps_saveThen hpath hwritten hopen fun _ => rfl
      exact hwrite.after_same hstore hdisk

theorem keeps_upsertEncoded (hidle : s.store.pending = []) (key : String)
    (encoded : Except Error Bytes) (valueKey : Option String) :
    Keeps c s (s.upsertEncoded key encoded valueKey) := by
  cases encoded with
  | error e => exact .of_same rfl rfl
  | ok b => exact keeps_upsert hpath hs hidle key b valueKey

theorem keeps_upsertUnless (hidle : s.store.pending = []) (key : String) (rejects : Bytes → Bool)
    (encoded : Except Error Bytes) (valueKey : Option String) :
    Keeps c s (s.upsertUnless key rejects encoded valueKey) := by
  have hstore := store_get s key valueKey
  have hdisk := disk_get s key valueKey
  rw [upsertUnless_eq]
  split
  · exact .of_same hstore hdisk
  · have hwrite := (keeps_upsertEncoded (s := (s.get key valueKey).2) hpath (hstore ▸ hs)
      (hstore ▸ hidle) key encoded valueKey).after_same hstore hdisk
    exact hwrite.map _

theorem keeps_getOrAdd (hidle : s.store.pending = []) (key : String) (valueKey : Option String)
    (make : String → Bytes) : Keeps c s (s.getOrAdd key valueKey (.ofSpelling make)) := by
  have hstore := store_get s key valueKey
  have hdisk := disk_get s key valueKey
  cases hvalue : (s.get key valueKey).1 with
  | some value =>
    rw [getOrAdd_of_some hvalue]
    exact .of_same hstore hdisk
  | none =>
    rw [getOrAdd_ofSpelling_of_missing hvalue]
    split
    · exact .of_same hstore hdisk
    · have hwrite := (keeps_upsert (s := (s.get key valueKey).2) hpath (hstore ▸ hs)
        (hstore ▸ hidle) key (make key) valueKey).after_same hstore hdisk
      exact hwrite.map _

theorem keeps_remove (key : String) : Keeps c s (s.remove key) := by
  cases hclosed : s.store.closed with
  | true =>
    rw [remove, if_pos hclosed]
    exact .of_same rfl rfl
  | false =>
    cases hget : s.store.entries.get? key with
    | none =>
      rw [remove_of_none hclosed hget]
      exact .of_same rfl rfl
    | some e =>
      rw [remove_of_some hclosed hget]
      exact keeps_saveThen hpath (hs.discard key) (closed_discard s.store key)
        fun _ => Store.memory_announce _ _

theorem keeps_removeWhere (start : Option String) (test : String → Bool) :
    Keeps c s (s.removeWhere start test) := by
  rw [removeWhere_eq]
  split
  · exact .of_same rfl rfl
  · split
    · exact .of_same rfl rfl
    · exact keeps_saveThen hpath (hs.discardAll _) (closed_discardAll s.store _)
        (Store.memory_announceAll _)

theorem keeps_clear : Keeps c s s.clear := by
  rw [clear_eq]
  split
  · exact .of_same rfl rfl
  · exact keeps_saveThen hpath hs.discardEverything rfl fun _ => Store.memory_announce _ _

end Writing

/-- A rollback reads. -/
theorem keeps_rollback (s : Session) : Keeps c s s.rollback := by
  unfold rollback
  simp only
  split <;> exact ⟨rfl, .inl rfl⟩

/-- **An operation leaves the disk as it was, or it has succeeded and the disk holds what the store
does.** Only a close closes the store. -/
theorem keeps_perform (hpath : c.filePath = some path) (hs : s.store.Serves c)
    (hidle : s.store.pending = []) {o : Operation} (hplain : o.Updates fun _ => False)
    (hclose : o ≠ .close) : Keeps c s (s.perform o) := by
  cases o with
  | get key valueKey => exact .of_same (store_get s key valueKey) (disk_get s key valueKey)
  | getBuffered key valueKey extra =>
    exact .of_same (store_getBuffered s key valueKey extra) (disk_getBuffered s key valueKey extra)
  | upsert key value valueKey => exact (keeps_upsert hpath hs hidle key value valueKey).answer _
  | upsertAs codec key v valueKey =>
    exact (keeps_upsertEncoded hpath hs hidle key _ valueKey).answer _
  | upsertManyAs codec key vs valueKey =>
    exact (keeps_upsertEncoded hpath hs hidle key _ valueKey).answer _
  | upsertAsIf codec key v valueKey condition =>
    exact (keeps_upsertUnless hpath hs hidle key _ _ valueKey).answer _
  | upsertManyAsIf codec key vs valueKey condition =>
    exact (keeps_upsertUnless hpath hs hidle key _ _ valueKey).answer _
  | update key valueKey f => exact hplain.elim
  | getOrAdd key valueKey make => exact (keeps_getOrAdd hpath hs hidle key valueKey make).answer _
  | remove key => exact (keeps_remove hpath hs key).answer _
  | removeWhere start test => exact (keeps_removeWhere hpath hs start test).answer _
  | clear => exact (keeps_clear hpath hs).answer _
  | drain =>
    rw [perform, drain_of_idle hidle]
    exact .of_same rfl rfl
  | save cancelled => exact (keeps_save hpath hs cancelled).answer _
  | rollback => exact (keeps_rollback s).answer _
  | close => exact absurd rfl hclose

/-! ## Closed stores -/

/-- What the write of an encoded value is refused with: if there was none, that comes first. -/
def refusal (encoded : Except Error Bytes) : Error :=
  match encoded with
  | .error e => e
  | .ok _ => .closed

section Closed

variable (hclosed : s.store.closed = true)

include hclosed

theorem upsertEncoded_refused (key : String) (encoded : Except Error Bytes)
    (valueKey : Option String) :
    s.upsertEncoded key encoded valueKey = (.error (refusal encoded), s) := by
  cases encoded with
  | error e => rfl
  | ok value => rw [upsertEncoded, upsert, if_pos hclosed, refusal]

/-- On a closed store a conditional write reads and decides, and does no more. -/
theorem upsertUnless_refused (key : String) (rejects : Bytes → Bool)
    (encoded : Except Error Bytes) (valueKey : Option String) :
    s.upsertUnless key rejects encoded valueKey
      = (if (s.get key valueKey).1.any rejects then .ok false else .error (refusal encoded),
        (s.get key valueKey).2) := by
  have hread : (s.get key valueKey).2.store.closed = true := by rwa [store_get]
  rw [upsertUnless_eq, upsertEncoded_refused hread]
  split <;> rfl

theorem getOrAdd_refused (key : String) (valueKey : Option String) (make : Factory) :
    s.getOrAdd key valueKey make
      = ((s.get key valueKey).1.elim (.error .closed) .ok, (s.get key valueKey).2) :=
  getOrAddM_of_closed (m := Id) hclosed key valueKey make

/-- **A closed store stays as it is**, and so does the disk, but for a save and a rollback. -/
theorem perform_of_closed (hidle : s.store.pending = []) {o : Operation}
    (hplain : o.Updates fun _ => False) (hsave : ∀ cancelled, o ≠ .save cancelled)
    (hload : o ≠ .rollback) :
    (s.perform o).2.store = s.store ∧ (s.perform o).2.host.disk = s.host.disk := by
  have hget (key : String) (valueKey : Option String) :
      (s.get key valueKey).2.store = s.store ∧ (s.get key valueKey).2.host.disk = s.host.disk :=
    ⟨store_get s key valueKey, disk_get s key valueKey⟩
  -- what is refused comes back with the session as it was
  have hsame {s' : Session} (h : s' = s) : s'.store = s.store ∧ s'.host.disk = s.host.disk :=
    h ▸ ⟨rfl, rfl⟩
  cases o with
  | get key valueKey => exact hget key valueKey
  | getBuffered key valueKey extra =>
    exact ⟨store_getBuffered s key valueKey extra, disk_getBuffered s key valueKey extra⟩
  | upsert key value valueKey =>
    exact hsame (congrArg Prod.snd (upsertEncoded_refused hclosed key (.ok value) valueKey))
  | upsertAs codec key v valueKey =>
    exact hsame (congrArg Prod.snd (upsertEncoded_refused hclosed key (codec.encode v) valueKey))
  | upsertManyAs codec key vs valueKey =>
    exact hsame
      (congrArg Prod.snd (upsertEncoded_refused hclosed key (codec.encodeMany vs) valueKey))
  | upsertAsIf codec key v valueKey condition =>
    rw [perform, upsertAsIf, upsertUnless_refused hclosed]
    exact hget key valueKey
  | upsertManyAsIf codec key vs valueKey condition =>
    rw [perform, upsertManyAsIf, upsertUnless_refused hclosed]
    exact hget key valueKey
  | update key valueKey f => exact hplain.elim
  | getOrAdd key valueKey make =>
    rw [perform, getOrAdd_refused hclosed]
    exact hget key valueKey
  | remove key =>
    have hremove : s.remove key = (.error .closed, s) := by rw [remove, if_pos hclosed]
    exact hsame (congrArg Prod.snd hremove)
  | removeWhere start test =>
    have hremove : s.removeWhere start test = (.error .closed, s) := by
      rw [removeWhere, if_pos hclosed]
    exact hsame (congrArg Prod.snd hremove)
  | clear =>
    have hclear : s.clear = (.error .closed, s) := by rw [clear, if_pos hclosed]
    exact hsame (congrArg Prod.snd hclear)
  | drain => exact hsame (congrArg Prod.snd (drain_of_idle hidle))
  | save cancelled => exact absurd rfl (hsave cancelled)
  | rollback => exact absurd rfl hload
  | close =>
    have hclose : s.close = (.ok (), s) := by rw [close, if_pos hclosed]
    exact hsame (congrArg Prod.snd hclose)

end Closed

end Coffer.Session
