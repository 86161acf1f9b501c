import Coffer.Proofs.Likeness
import Coffer.Proofs.Opening

/-!
# A store that saves on every change is in its file

As long as all operations on a store that saves on every change succeed, and nobody else writes its
file, the file has what the store has: whenever it is opened again, the new store has the entries
of the old one (`openStore_of_succeeds`).

An operation that succeeds has either changed nothing, or saved what it changed in memory
(`recorded_saveThen`), or taken what it has from the file (`recorded_rollback`). Of an update only
its own operations have to succeed, in this run.
-/

namespace Coffer

namespace Session

variable {c : Config} {path : String} {s s' : Session} {store : Store} {α β : Type}

/-! ## What the disk holds of a store -/

/-- The folder of the file is there, and what is read from the file is what the store holds. -/
structure Recorded (s : Session) (c : Config) : Prop where
  folder : ∀ t : Target, t.Serves c → Path.folder t.path ≠ "" →
    s.host.disk.isThere (Path.folder t.path) = true
  reads : ∀ t : Target, t.Serves c →
    ∃ d degraded, t.reads s.host.disk = .ok (d, degraded) ∧ d.Copies s.store.entries

theorem Recorded.of_eq (h : s.Recorded c) (hentries : s'.store.entries = s.store.entries)
    (hdisk : s'.host.disk = s.host.disk) : s'.Recorded c :=
  ⟨fun t ht => hdisk ▸ h.folder t ht, fun t ht => hentries ▸ hdisk ▸ h.reads t ht⟩

theorem Recorded.of_store_eq (h : s.Recorded c) (hstore : s'.store = s.store)
    (hdisk : s'.host.disk = s.host.disk) : s'.Recorded c :=
  h.of_eq (congrArg Store.entries hstore) hdisk

/-- **A save that succeeds leaves on the disk what the store holds.** -/
theorem recorded_of_save {cancelled : Bool} (hs : s.store.Serves c) (hpath : c.filePath = some path)
    (hsave : s.save cancelled = (.ok (), s')) : s'.Recorded c := by
  obtain ⟨t, harchive, ht⟩ := hs.archive.eq_file hpath
  obtain ⟨b, hread, ⟨d, hdecode, hcopies⟩, hends⟩ := restores_of_save hs harchive hsave
  have hunsaved := unsaved_save s cancelled
  rw [hsave] at hunsaved
  have hentries : s'.store.entries = s.store.entries := (congrArg Store.entries hunsaved :)
  refine ⟨?_, ?_⟩
  · intro t' ht'
    rw [show t'.path = t.path from Option.some.inj (ht'.path.symm.trans ht.path)]
    exact Disk.isThere_folder hread hends.1 hends.2
  · intro t' ht'
    rw [ht.reads_eq ht', Target.reads_of_read hread, hdecode, hentries]
    exact ⟨d, false, rfl, hcopies⟩

/-- What was changed in memory and then saved is on the disk. -/
theorem recorded_saveThen (hs : s.store.Serves c) (hpath : c.filePath = some path)
    (hsave : c.saveOnUpdate = true) {a r : α} {tell : Store → Store}
    (htell : ∀ store : Store, (tell store).memory = store.memory)
    (hok : (s.saveThen a tell).1 = .ok r) : (s.saveThen a tell).2.Recorded c := by
  unfold saveThen saveChange at hok ⊢
  rw [hs.config, if_pos hsave] at hok ⊢
  split at hok
  · cases hok
  · next saved heq =>
    exact (recorded_of_save hs hpath heq).of_eq (congrArg Store.entries (htell saved.store) :) rfl

/-! ## Reading leaves the disk as it is -/

theorem disk_get (s : Session) (key : String) (valueKey : Option String) :
    (s.get key valueKey).2.host.disk = s.host.disk := by
  unfold get
  split
  · rfl
  · split
    · rfl
    · next passphrase _ =>
      have hdisk : (s.cipherFor passphrase).2.host.disk = s.host.disk := rfl
      split <;> next heq => rwa [heq] at hdisk

theorem disk_getBuffered (s : Session) (key : String) (valueKey : Option String)
    (extra : UInt64) : (s.getBuffered key valueKey extra).2.host.disk = s.host.disk := by
  unfold getBuffered cipherFor
  split
  · rfl
  · simp only
    split
    · rfl
    · split <;> rfl

theorem Recorded.get (h : s.Recorded c) (key : String) (valueKey : Option String) :
    (s.get key valueKey).2.Recorded c :=
  h.of_store_eq (store_get s key valueKey) (disk_get s key valueKey)

/-! ## Operations that succeed -/

/-- Between two operations the store serves its configuration, no write is waiting, and what the
store holds is on the disk. -/
structure Durable (s : Session) (c : Config) : Prop where
  serves : s.store.Serves c
  idle : s.store.pending = []
  recorded : s.Recorded c

theorem Durable.reaches (h : s.Durable c) (hreach : s.Reaches s') (hrecorded : s'.Recorded c) :
    s'.Durable c :=
  ⟨hreach.serves h.serves, (hreach.changes h.serves h.idle).pending.trans h.idle, hrecorded⟩

section Writing

variable (hpath : c.filePath = some path) (hsave : c.saveOnUpdate = true) (h : s.Durable c)

include hpath hsave h

theorem recorded_upsert {key : String} {value : Bytes} {valueKey : Option String} {u : Unit}
    (hok : (s.upsert key value valueKey).1 = .ok u) :
    (s.upsert key value valueKey).2.Recorded c := by
  rw [upsert_of_idle h.idle] at hok ⊢
  split at hok
  · cases hok
  · next hopen =>
    rw [if_neg hopen]
    have hstore := store_sealValue s value valueKey
    generalize s.sealValue value valueKey = x at hok hstore
    obtain ⟨e | stored, s'⟩ := x
    · cases hok
    · have hs' : s'.store.Serves c := hstore ▸ h.serves
      exact recorded_saveThen ((hs'.merge _).announce _) hpath hsave (fun _ => rfl) hok

theorem recorded_upsertEncoded {key : String} {encoded : Except Error Bytes}
    {valueKey : Option String} {u : Unit} (hok : (s.upsertEncoded key encoded valueKey).1 = .ok u) :
    (s.upsertEncoded key encoded valueKey).2.Recorded c := by
  cases encoded with
  | error e => cases hok
  | ok b => exact recorded_upsert hpath hsave h hok

theorem recorded_upsertUnless {key : String} {rejects : Bytes → Bool}
    {encoded : Except Error Bytes} {valueKey : Option String} {stored : Bool}
    (hok : (s.upsertUnless key rejects encoded valueKey).1 = .ok stored) :
    (s.upsertUnless key rejects encoded valueKey).2.Recorded c := by
  have hget := h.reaches (.get s key valueKey) (h.recorded.get key valueKey)
  rw [upsertUnless_eq] at hok ⊢
  split at hok
  · next hrejected =>
    rw [if_pos hrejected]
    exact hget.recorded
  · next haccepted =>
    rw [if_neg haccepted]
    obtain ⟨u, hok, -⟩ := map_eq_ok_iff.mp hok
    exact recorded_upsertEncoded hpath hsave hget hok

theorem recorded_getOrAdd {key : String} {valueKey : Option String} {make : String → Bytes}
    {value : Bytes} (hok : (s.getOrAdd key valueKey (.ofSpelling make)).1 = .ok value) :
    (s.getOrAdd key valueKey (.ofSpelling make)).2.Recorded c := by
  have hget := h.reaches (.get s key valueKey) (h.recorded.get key valueKey)
  cases hvalue : (s.get key valueKey).1 with
  | some value =>
    rw [getOrAdd_of_some hvalue]
    exact hget.recorded
  | none =>
    rw [getOrAdd_ofSpelling_of_missing hvalue] at hok ⊢
    split at hok
    · cases hok
    · next hopen =>
      rw [if_neg hopen]
      obtain ⟨u, hadded, -⟩ := map_eq_ok_iff.mp hok
      exact recorded_upsert hpath hsave hget hadded

theorem recorded_remove {key : String} {found : Bool} (hok : (s.remove key).1 = .ok found) :
    (s.remove key).2.Recorded c := by
  cases hclosed : s.store.closed with
  | true =>
    rw [remove, if_pos hclosed] at hok
    cases hok
  | false =>
    cases hget : s.store.entries.get? key with
    | none =>
      rw [remove_of_none hclosed hget]
      exact h.recorded
    | some e =>
      rw [remove_of_some hclosed hget] at hok ⊢
      exact recorded_saveThen (h.serves.discard key) hpath hsave
        (fun _ => Store.memory_announce _ _) hok

theorem recorded_removeWhere {start : Option String} {test : String → Bool} {count : Nat}
    (hok : (s.removeWhere start test).1 = .ok count) :
    (s.removeWhere start test).2.Recorded c := by
  rw [removeWhere_eq] at hok ⊢
  split at hok
  · cases hok
  · next hopen =>
    rw [if_neg hopen]
    split at hok
    · next hnone =>
      rw [if_pos hnone]
      exact h.recorded
    · next hsome =>
      rw [if_neg hsome]
      exact recorded_saveThen (h.serves.discardAll _) hpath hsave (Store.memory_announceAll _) hok

theorem recorded_clear {u : Unit} (hok : s.clear.1 = .ok u) : s.clear.2.Recorded c := by
  rw [clear_eq] at hok ⊢
  split at hok
  · cases hok
  · next hopen =>
    rw [if_neg hopen]
    exact recorded_saveThen h.serves.discardEverything hpath hsave
      (fun _ => Store.memory_announce _ _) hok

theorem recorded_close {u : Unit} (hok : s.close.1 = .ok u) : s.close.2.Recorded c := by
  rw [close_of_idle h.idle] at hok ⊢
  split at hok
  · next hclosed =>
    rw [if_pos hclosed]
    exact h.recorded
  · next hopen =>
    rw [if_neg hopen]
    have hclosing : Store.Serves { s.store with closed := true } c := { h.serves with }
    exact recorded_saveThen hclosing hpath hsave (fun _ => rfl) hok

end Writing

/-- Loading again takes over what is on the disk. -/
theorem recorded_rollback (hpath : c.filePath = some path) (h : s.Durable c) :
    s.rollback.2.Recorded c := by
  obtain ⟨t, harchive, ht⟩ := h.serves.archive.eq_file hpath
  obtain ⟨d, degraded, hreads, -⟩ := h.recorded.reads t ht
  have hload := Target.load_fst t ((s.store.path.map s.host.disk.fileLength).getD 0) s.host.disk
    s.host.scratch
  rw [hreads] at hload
  unfold rollback
  generalize (s.store.path.map s.host.disk.fileLength).getD 0 = estimate at hload
  simp only [harchive, Archive.load, hload, Except.map]
  refine ⟨h.recorded.folder, fun t' ht' => ⟨d, degraded, ?_, ?_⟩⟩
  · exact (ht.reads_eq ht' _).trans hreads
  · exact ⟨(Target.orderly_of_reads hreads).1, rfl, .refl _⟩

/-- **An operation that succeeds leaves on the disk what the store holds.** -/
theorem Durable.perform (hpath : c.filePath = some path) (hsave : c.saveOnUpdate = true)
    (h : s.Durable c) {o : Operation} (hplain : o.Updates fun _ => False) {r : Reply}
    (hok : (s.perform o).1 = .ok r) : (s.perform o).2.Durable c := by
  refine h.reaches (.perform s (hplain.mono fun _ => False.elim)) ?_
  cases o with
  | get key valueKey => exact h.recorded.get key valueKey
  | getBuffered key valueKey extra =>
    exact h.recorded.of_store_eq (store_getBuffered s key valueKey extra)
      (disk_getBuffered s key valueKey extra)
  | upsert key value valueKey =>
    obtain ⟨u, hok, -⟩ := answer_eq_ok_iff.mp hok
    exact recorded_upsert hpath hsave h hok
  | upsertAs codec key v valueKey =>
    obtain ⟨u, hok, -⟩ := answer_eq_ok_iff.mp hok
    exact recorded_upsertEncoded hpath hsave h hok
  | upsertManyAs codec key vs valueKey =>
    obtain ⟨u, hok, -⟩ := answer_eq_ok_iff.mp hok
    exact recorded_upsertEncoded hpath hsave h hok
  | upsertAsIf codec key v valueKey condition =>
    obtain ⟨stored, hok, -⟩ := answer_eq_ok_iff.mp hok
    exact recorded_upsertUnless hpath hsave h hok
  | upsertManyAsIf codec key vs valueKey condition =>
    obtain ⟨stored, hok, -⟩ := answer_eq_ok_iff.mp hok
    exact recorded_upsertUnless hpath hsave h hok
  | update key valueKey f => exact hplain.elim
  | getOrAdd key valueKey make =>
    obtain ⟨value, hok, -⟩ := answer_eq_ok_iff.mp hok
    exact recorded_getOrAdd hpath hsave h hok
  | remove key =>
    obtain ⟨found, hok, -⟩ := answer_eq_ok_iff.mp hok
    exact recorded_remove hpath hsave h hok
  | removeWhere start test =>
    obtain ⟨count, hok, -⟩ := answer_eq_ok_iff.mp hok
    exact recorded_removeWhere hpath hsave h hok
  | clear =>
    obtain ⟨u, hok, -⟩ := answer_eq_ok_iff.mp hok
    exact recorded_clear hpath hsave h hok
  | drain =>
    rw [Session.perform, drain_of_idle h.idle]
    exact h.recorded
  | save cancelled =>
    obtain ⟨u, hok, -⟩ := answer_eq_ok_iff.mp hok
    exact recorded_of_save h.serves hpath (Prod.ext hok rfl)
  | rollback => exact recorded_rollback hpath h
  | close =>
    obtain ⟨u, hok, -⟩ := answer_eq_ok_iff.mp hok
    exact recorded_close hpath hsave h hok

/-- What the update has done is on the disk, and then its value is. -/
theorem Durable.update (hpath : c.filePath = some path) (hsave : c.saveOnUpdate = true)
    (h : s.Durable c) {key : String} {valueKey : Option String} {f : Update}
    (hf : (s.get key valueKey).2.Durable c →
      (f (s.get key valueKey).2 ((s.get key valueKey).1.getD [])).2.Durable c) {value : Bytes}
    (hok : (s.update key valueKey f).1 = .ok value) : (s.update key valueKey f).2.Durable c := by
  have hget := h.reaches (.get s key valueKey) (h.recorded.get key valueKey)
  have hnew := hf hget
  unfold Session.update at hok ⊢
  split at hok
  · cases hok
  · next hopen =>
    rw [if_neg hopen]
    simp only at hok ⊢
    generalize f (s.get key valueKey).2 _ = x at hok hnew
    obtain ⟨i | new, s'⟩ := x
    · cases hok
    · simp only at hok ⊢
      have hreach := Reaches.upsert s' key new valueKey
      split at hok
      · cases hok
      · next heq =>
        have hwritten := recorded_upsert hpath hsave hnew (congrArg Prod.fst heq)
        rw [heq] at hwritten hreach
        exact hnew.reaches hreach hwritten

/-! ## Runs in which all succeeds -/

/-- The session that operations on the store lead to which all succeed, while nobody else writes
the file at the path or takes away the folder it lies in. -/
inductive Succeeds (path : String) : Session → Session → Prop
  | refl (s : Session) : Succeeds path s s
  | trans {s t u : Session} : Succeeds path s t → Succeeds path t u → Succeeds path s u
  | elsewhere (s : Session) (host : Host) (hfile : host.disk.stat path = s.host.disk.stat path)
    (hfolder : s.host.disk.isThere (Path.folder path) = true →
      host.disk.isThere (Path.folder path) = true) : Succeeds path s { s with host }
  | subscribers (s : Session) (feed : Feed) :
    Succeeds path s (s.withStore { s.store with feed })
  | perform (s : Session) (o : Operation) (hplain : o.Updates fun _ => False)
    (hok : ∃ r, (s.perform o).1 = .ok r) : Succeeds path s (s.perform o).2
  | update (s : Session) (key : String) (valueKey : Option String) (f : Update)
    (hf : Succeeds path (s.get key valueKey).2
      (f (s.get key valueKey).2 ((s.get key valueKey).1.getD [])).2)
    (hok : ∃ value, (s.update key valueKey f).1 = .ok value) :
    Succeeds path s (s.update key valueKey f).2

/-- Who leaves the file and its folder alone does not change what is read. -/
theorem Recorded.elsewhere (hpath : c.filePath = some path) (h : s.Recorded c) {host : Host}
    (hfile : host.disk.stat path = s.host.disk.stat path)
    (hfolder : s.host.disk.isThere (Path.folder path) = true →
      host.disk.isThere (Path.folder path) = true) : Recorded { s with host } c := by
  refine ⟨fun t ht hne => ?_, fun t ht => ?_⟩
  · have ht' : t.path = path := Option.some.inj (ht.path.symm.trans hpath)
    have hthere := h.folder t ht hne
    rw [ht'] at hthere ⊢
    exact hfolder hthere
  · have ht' : t.path = path := Option.some.inj (ht.path.symm.trans hpath)
    obtain ⟨d, degraded, hreads, hcopies⟩ := h.reads t ht
    refine ⟨d, degraded, ?_, hcopies⟩
    unfold Target.reads at hreads ⊢
    rwa [ht', hfile, ← ht']

/-- **In a run in which all succeeds the disk holds at every point what the store holds.** -/
theorem Succeeds.durable (hrun : Succeeds path s s') (hpath : c.filePath = some path)
    (hsave : c.saveOnUpdate = true) (h : s.Durable c) : s'.Durable c := by
  induction hrun with
  | refl => exact h
  | trans _ _ ih ih' => exact ih' (ih h)
  | elsewhere s host hfile hfolder =>
    exact ⟨h.serves, h.idle, h.recorded.elsewhere hpath hfile hfolder⟩
  | subscribers => exact ⟨{ h.serves with }, h.idle, h.recorded.of_eq rfl rfl⟩
  | perform s o hplain hok =>
    obtain ⟨r, hok⟩ := hok
    exact h.perform hpath hsave hplain hok
  | update s key valueKey f _ hok ih =>
    obtain ⟨value, hok⟩ := hok
    exact h.update hpath hsave ih hok

end Session

variable {c : Config} {path : String} {store : Store} {s : Session} {opened host : Host}

/-- A store that was just opened is as it is on the disk. -/
theorem durable_of_openStore (hopen : opened.openStore c = (.ok store, host)) :
    Session.Durable ⟨store, host⟩ c := by
  have hserves := serves_of_openStore hopen
  have hidle := Session.Opened.idle ⟨opened, store, host, hopen, .refl _⟩
  refine ⟨hserves, hidle, ?_, ?_⟩
  · exact fun t ht => (Host.reads_of_openStore hopen ht).1
  · intro t ht
    obtain ⟨degraded, hreads⟩ := (Host.reads_of_openStore hopen ht).2
    exact ⟨store.entries, degraded, hreads, hserves.orderly, rfl, .refl _⟩

/-- **A store that saves on every change is in its file**, as long as all operations succeed and
nobody else touches the file. -/
theorem openStore_of_succeeds (hpath : c.filePath = some path) (hsave : c.saveOnUpdate = true)
    (hopen : opened.openStore c = (.ok store, host))
    (hrun : Session.Succeeds path ⟨store, host⟩ s) :
    ∃ store' host', s.host.openStore c = (.ok store', host')
      ∧ store'.entries.entries.Perm s.store.entries.entries
      ∧ ∀ key, store'.entries.get? key = s.store.entries.get? key := by
  have h := hrun.durable hpath hsave (durable_of_openStore hopen)
  obtain ⟨t, -, ht⟩ := h.serves.archive.eq_file hpath
  obtain ⟨d, degraded, hreads, hcopies⟩ := h.recorded.reads t ht
  obtain ⟨store', host', hopen', rfl⟩ :=
    Host.openStore_of_reads ht (h.recorded.folder t ht) hreads
  exact ⟨store', host', hopen', hcopies.entries, hcopies.get?_eq h.serves.orderly⟩

/-- A store that saves on every change and compares keys without regard to case. -/
def ledger : Config := { path := some "d/f", ignoreCase := true, saveOnUpdate := true }

/-- The first session on it. -/
def ledgerOpened : Session := Host.session {} ledger

/-- A key was stored and its value updated in another spelling. -/
def ledgerUpdated : Session :=
  ((ledgerOpened.perform (.upsert "Ab" [7] none)).2.update "aB" none appendOne).2

/-- Then the file was loaded again, and the store closed. -/
def ledgerClosed : Session := ((ledgerUpdated.perform .rollback).2.perform .close).2

/-- What was stored is there when the store is opened again. -/
theorem openStore_of_succeeds_ledger :
    ledger.filePath = some "d/f" ∧ ledger.saveOnUpdate = true
      ∧ Host.openStore {} ledger = (.ok ledgerOpened.store, ledgerOpened.host)
      ∧ Session.Succeeds "d/f" ledgerOpened ledgerClosed
      ∧ ∃ store' host', ledgerClosed.host.openStore ledger = (.ok store', host')
        ∧ store'.entries.entries.Perm [{ key := "Ab", value := some [7, 1] }] := by
  have hpath : ledger.filePath = some "d/f" := rfl
  have hopen : Host.openStore {} ledger = (.ok ledgerOpened.store, ledgerOpened.host) :=
    Host.openStore_eq_session (by decide +kernel)
  have hupsert : Session.Succeeds "d/f" ledgerOpened _ :=
    .perform _ (.upsert "Ab" [7] none) trivial ⟨.done, by decide +kernel⟩
  have hupdate : Session.Succeeds "d/f" _ ledgerUpdated :=
    .update _ "aB" none appendOne (.refl _) ⟨[7, 1], by decide +kernel⟩
  have hrollback : Session.Succeeds "d/f" ledgerUpdated _ :=
    .perform _ .rollback trivial ⟨.done, by decide +kernel⟩
  have hclose : Session.Succeeds "d/f" _ ledgerClosed :=
    .perform _ .close trivial ⟨.done, by decide +kernel⟩
  have hrun := ((hupsert.trans hupdate).trans hrollback).trans hclose
  have hentries : ledgerClosed.store.entries.entries = [{ key := "Ab", value := some [7, 1] }] := by
    decide +kernel
  obtain ⟨store', host', hopen', hperm, -⟩ := openStore_of_succeeds hpath rfl hopen hrun
  exact ⟨hpath, rfl, hopen, hrun, store', host', hopen', hentries ▸ hperm⟩

end Coffer
