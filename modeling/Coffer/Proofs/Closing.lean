import Coffer.Proofs.Effects

/-!
# What a close that succeeds has saved

A store that saves on every change is saved once more when it is closed. If that close succeeds, what
is loaded from the file is what the store holds, whatever failed before (`filed_of_close`).

Closing a store that is closed already does nothing and succeeds. So after a close that failed the
next one says nothing about the file (`not_filed_of_close_again`), unless the store was saved
or loaded again in between. A run therefore carries along whether a failed close is still owing.
-/

namespace Coffer

namespace Session

variable {c : Config} {path : String} {s : Session}

/-- What is read from the file is what the store holds. -/
def Filed (s : Session) (c : Config) : Prop :=
  ∀ t : Target, t.Serves c →
    ∃ d degraded, t.reads s.host.disk = .ok (d, degraded) ∧ d.Copies s.store.entries

theorem Filed.of_eq {s' : Session} (h : s.Filed c) (hentries : s'.store.entries = s.store.entries)
    (hdisk : s'.host.disk = s.host.disk) : s'.Filed c :=
  fun t ht => hentries ▸ hdisk ▸ h t ht

/-! ## Runs in which operations may fail -/

/-- Is a close that failed still owing after an operation? A save or a rollback that succeeds makes
up for it. -/
def Operation.owing : Operation → Answer → Bool → Bool
  | .close, .error _, _ => true
  | .save _, .ok _, _ => false
  | .rollback, .ok _, _ => false
  | _, _, before => before

/-- A session in the course of a run, and whether a close that failed is still owing. -/
structure Course where
  session : Session
  owing : Bool := false

/-- What operations on the store lead to, which may fail, while nobody else writes the file at the
path. -/
inductive Course.Leads (path : String) : Course → Course → Prop
  | refl (w : Course) : Leads path w w
  | trans {w w' w'' : Course} : Leads path w w' → Leads path w' w'' → Leads path w w''
  | elsewhere (w : Course) (host : Host)
    (hfile : host.disk.stat path = w.session.host.disk.stat path) :
    Leads path w { w with session := { w.session with host } }
  | subscribers (w : Course) (feed : Feed) :
    Leads path w { w with session := w.session.withStore { w.session.store with feed } }
  | perform (w : Course) (o : Operation) (hplain : o.Updates fun _ => False) :
    Leads path w ⟨(w.session.perform o).2, o.owing (w.session.perform o).1 w.owing⟩
  | update (w : Course) (key : String) (valueKey : Option String) (f : Update) {owing : Bool}
    (hclosed : w.session.store.closed = true → owing = w.owing)
    (hf : w.session.store.closed = false → Leads path ⟨(w.session.get key valueKey).2, w.owing⟩
      ⟨(f (w.session.get key valueKey).2 ((w.session.get key valueKey).1.getD [])).2, owing⟩) :
    Leads path w ⟨(w.session.update key valueKey f).2, owing⟩

/-- Between two operations the store serves its configuration, no write is waiting, and a store that
is closed is in its file unless a close is owing. -/
structure Course.Sound (w : Course) (c : Config) : Prop where
  serves : w.session.store.Serves c
  idle : w.session.store.pending = []
  filed : w.session.store.closed = true → w.owing = false → w.session.Filed c

/-- Who leaves the file alone does not change what is read. -/
theorem Filed.elsewhere (hpath : c.filePath = some path) (h : s.Filed c) {host : Host}
    (hfile : host.disk.stat path = s.host.disk.stat path) : Filed { s with host } c := by
  intro t ht
  have hsame : t.path = path := Option.some.inj (ht.path.symm.trans hpath)
  obtain ⟨d, degraded, hreads, hcopies⟩ := h t ht
  refine ⟨d, degraded, ?_, hcopies⟩
  unfold Target.reads at hreads ⊢
  rwa [hsame, hfile, ← hsame]

/-! ## The operations that count -/

/-- A rollback that succeeds takes over what is in the file. -/
theorem filed_of_rollback (hpath : c.filePath = some path) (hs : s.store.Serves c) {u : Unit}
    (hok : s.rollback.1 = .ok u) : s.rollback.2.Filed c := by
  obtain ⟨t, harchive, ht⟩ := hs.archive.eq_file hpath
  have hload := Target.load_fst t ((s.store.path.map s.host.disk.fileLength).getD 0) s.host.disk
    s.host.scratch
  unfold rollback at hok ⊢
  simp only [harchive, Archive.load] at hok ⊢
  generalize t.load false _ s.host.disk s.host.scratch = x at hok hload
  obtain ⟨e | d, target, scratch⟩ := x
  · cases hok
  · obtain ⟨⟨d', degraded⟩, hreads, rfl⟩ := map_eq_ok_iff.mp hload.symm
    intro t' ht'
    exact ⟨d', degraded, (ht.reads_eq ht' _).trans hreads,
      (Target.orderly_of_reads hreads).1, rfl, .refl _⟩

/-- One that fails changes nothing that counts. -/
theorem rollback_of_failed {e : Error} (h : s.rollback.1 = .error e) :
    s.rollback.2.store.entries = s.store.entries ∧ s.rollback.2.host.disk = s.host.disk := by
  revert h
  unfold rollback
  simp only
  split
  · exact fun _ => ⟨rfl, rfl⟩
  · nofun

/-- **The close of an open store saves it.** -/
theorem filed_of_closing (hpath : c.filePath = some path) (hsave : c.saveOnUpdate = true)
    (hs : s.store.Serves c) (hidle : s.store.pending = []) (hopen : s.store.closed = false)
    {u : Unit} (hok : s.close.1 = .ok u) : s.close.2.Filed c := by
  have hclosing : Store.Serves { s.store with closed := true } c := { hs with }
  have hnot : ¬s.store.closed = true := by simp [hopen]
  rw [close_of_idle hidle, if_neg hnot] at hok ⊢
  exact (recorded_saveThen hclosing hpath hsave (fun _ => rfl) hok).reads

/-! ## A step -/

namespace Course

/-- Other operations do not make up for a close, and none is owing because of them. -/
theorem owing_of_others {o : Operation} (hsave : ∀ cancelled, o ≠ .save cancelled)
    (hload : o ≠ .rollback) (hclose : o ≠ .close) (answer : Answer) (before : Bool) :
    o.owing answer before = before := by
  cases o with
  | save cancelled => exact absurd rfl (hsave cancelled)
  | rollback => exact absurd rfl hload
  | close => exact absurd rfl hclose
  | _ => rfl

theorem owing_save_of_error {cancelled : Bool} {e : Error} (h : (s.save cancelled).1 = .error e)
    (before : Bool) :
    (Operation.save cancelled).owing (s.perform (.save cancelled)).1 before = before := by
  simp only [perform, answer, h]
  rfl

theorem owing_rollback_of_error {e : Error} (h : s.rollback.1 = .error e) (before : Bool) :
    Operation.rollback.owing (s.perform .rollback).1 before = before := by
  simp only [perform, answer, h]
  rfl

theorem owing_close_of_error {e : Error} (h : s.close.1 = .error e) (before : Bool) :
    Operation.close.owing (s.perform .close).1 before = true := by
  simp only [perform, answer, h]
  rfl

theorem owing_close_of_ok {u : Unit} (h : s.close.1 = .ok u) (before : Bool) :
    Operation.close.owing (s.perform .close).1 before = before := by
  simp only [perform, answer, h]
  rfl

variable {w w' : Course}

/-- Whatever operations lead to is sound if the file is. -/
theorem Sound.reaches (h : w.Sound c) (hreach : w.session.Reaches w'.session)
    (hfiled : w'.session.store.closed = true → w'.owing = false → w'.session.Filed c) :
    w'.Sound c :=
  ⟨hreach.serves h.serves, (hreach.changes h.serves h.idle).pending.trans h.idle, hfiled⟩

section Step

variable (hpath : c.filePath = some path) (h : w.Sound c)

include hpath h

theorem Sound.filed_save (cancelled : Bool)
    (hclosed : (w.session.save cancelled).2.store.closed = true)
    (howing : (Operation.save cancelled).owing (w.session.perform (.save cancelled)).1 w.owing
      = false) : (w.session.save cancelled).2.Filed c := by
  have hunsaved := unsaved_save w.session cancelled
  cases hsaved : (w.session.save cancelled).1 with
  | ok u => exact (recorded_of_save h.serves hpath (Prod.ext hsaved rfl)).reads
  | error e =>
    rw [owing_save_of_error hsaved] at howing
    have hfiled := h.filed ((congrArg Store.closed hunsaved :).symm.trans hclosed) howing
    exact hfiled.of_eq (congrArg Store.entries hunsaved :) (disk_of_save_error hsaved)

theorem Sound.filed_rollback (hclosed : w.session.rollback.2.store.closed = true)
    (howing : Operation.rollback.owing (w.session.perform .rollback).1 w.owing = false) :
    w.session.rollback.2.Filed c := by
  cases hloaded : w.session.rollback.1 with
  | ok u => exact filed_of_rollback hpath h.serves hloaded
  | error e =>
    rw [owing_rollback_of_error hloaded] at howing
    obtain ⟨hentries, hdisk⟩ := rollback_of_failed hloaded
    have hbefore := (keeps_rollback (c := c) w.session).closed.symm.trans hclosed
    exact (h.filed hbefore howing).of_eq hentries hdisk

theorem Sound.filed_close (hsave : c.saveOnUpdate = true)
    (howing : Operation.close.owing (w.session.perform .close).1 w.owing = false) :
    w.session.close.2.Filed c := by
  cases hok : w.session.close.1 with
  | error e =>
    rw [owing_close_of_error hok] at howing
    cases howing
  | ok u =>
    rw [owing_close_of_ok hok] at howing
    cases hclosed : w.session.store.closed with
    | false => exact filed_of_closing hpath hsave h.serves h.idle hclosed hok
    | true =>
      -- a store that is closed already was in its file before
      rw [close, if_pos hclosed]
      exact h.filed hclosed howing

/-- **A step keeps a course sound.** -/
theorem Sound.perform (hsave : c.saveOnUpdate = true) {o : Operation}
    (hplain : o.Updates fun _ => False) :
    Sound ⟨(w.session.perform o).2, o.owing (w.session.perform o).1 w.owing⟩ c := by
  refine h.reaches (.perform w.session (hplain.mono fun _ => False.elim)) ?_
  intro hclosed howing
  by_cases hissave : ∃ cancelled, o = .save cancelled
  · obtain ⟨cancelled, rfl⟩ := hissave
    exact h.filed_save hpath cancelled hclosed howing
  · by_cases hload : o = .rollback
    · subst hload
      exact h.filed_rollback hpath hclosed howing
    · by_cases hclose : o = .close
      · subst hclose
        exact h.filed_close hpath hsave howing
      · have hothers := not_exists.mp hissave
        rw [owing_of_others hothers hload hclose] at howing
        have hbefore : w.session.store.closed = true :=
          (keeps_perform hpath h.serves h.idle hplain hclose).closed.symm.trans hclosed
        obtain ⟨hstore, hdisk⟩ := perform_of_closed hbefore h.idle hplain hothers hload
        exact (h.filed hbefore howing).of_eq (congrArg Store.entries hstore) hdisk

/-- The write at the end of an update does not close the store, and a closed one it leaves alone. -/
theorem Sound.upsert (key : String) (value : Bytes) (valueKey : Option String) :
    Sound ⟨(w.session.upsert key value valueKey).2, w.owing⟩ c := by
  refine h.reaches (.upsert w.session key value valueKey) fun hclosed howing => ?_
  have hbefore : w.session.store.closed = true :=
    (keeps_upsert hpath h.serves h.idle key value valueKey).closed.symm.trans hclosed
  have hsame : (w.session.upsert key value valueKey).2 = w.session :=
    congrArg Prod.snd (upsertEncoded_refused hbefore key (.ok value) valueKey)
  exact (h.filed hbefore howing).of_eq (congrArg (·.store.entries) hsame)
    (congrArg (·.host.disk) hsame)

/-- **An update keeps a course sound** if what it does before it writes does. -/
theorem Sound.update (key : String) (valueKey : Option String) {f : Update} {owing : Bool}
    (hclosed : w.session.store.closed = true → owing = w.owing)
    (hf : w.session.store.closed = false → Sound ⟨(w.session.get key valueKey).2, w.owing⟩ c →
      Sound ⟨(f (w.session.get key valueKey).2 ((w.session.get key valueKey).1.getD [])).2, owing⟩
        c) :
    Sound ⟨(w.session.update key valueKey f).2, owing⟩ c := by
  have hget : Sound ⟨(w.session.get key valueKey).2, w.owing⟩ c := by
    refine h.reaches (.get w.session key valueKey) fun hread howing => ?_
    have hstore := store_get w.session key valueKey
    exact (h.filed ((congrArg Store.closed hstore).symm.trans hread) howing).of_eq
      (congrArg Store.entries hstore) (disk_get w.session key valueKey)
  unfold Session.update
  split
  · next hrefused =>
    rw [hclosed hrefused]
    exact h
  · next hopen =>
    have hnew := hf (Bool.eq_false_iff.mpr hopen) hget
    simp only
    generalize f (w.session.get key valueKey).2 _ = x at hnew
    obtain ⟨i | value, s'⟩ := x
    · exact hnew
    · have hwritten := hnew.upsert hpath key value valueKey
      simp only at hwritten ⊢
      generalize s'.upsert key value valueKey = y at hwritten
      obtain ⟨e | u, s''⟩ := y <;> exact hwritten

end Step

/-! ## A run -/

/-- An operation leads on, and what it makes of a close that is owing is known. -/
theorem Leads.performed (w : Course) (o : Operation) (hplain : o.Updates fun _ => False)
    {owing : Bool} (howing : o.owing (w.session.perform o).1 w.owing = owing) :
    Leads path w ⟨(w.session.perform o).2, owing⟩ :=
  howing ▸ .perform w o hplain

/-- **A run keeps a course sound.** -/
theorem Leads.sound (hrun : Leads path w w') (hpath : c.filePath = some path)
    (hsave : c.saveOnUpdate = true) (h : w.Sound c) : w'.Sound c := by
  induction hrun with
  | refl => exact h
  | trans _ _ ih ih' => exact ih' (ih h)
  | elsewhere w host hfile =>
    exact ⟨h.serves, h.idle, fun hclosed howing =>
      (h.filed hclosed howing).elsewhere hpath hfile⟩
  | subscribers w feed =>
    exact ⟨{ h.serves with }, h.idle, fun hclosed howing =>
      (h.filed hclosed howing).of_eq rfl rfl⟩
  | perform w o hplain => exact h.perform hpath hsave hplain
  | update w key valueKey f hclosed _ ih =>
    exact h.update hpath key valueKey hclosed ih

end Course

end Session

variable {c : Config} {path : String} {store : Store} {s : Session} {opened host : Host}

/-- What a file holds is what every archive of the configuration loads from it. -/
theorem Session.Filed.load (h : s.Filed c) (hs : s.store.Serves c) (hpath : c.filePath = some path)
    {a : Archive} (ha : a.Serves c) (estimate : Nat) (scratch : Scratch) :
    ∃ d, (a.load false estimate c.ignoreCase s.host.disk scratch).1 = .ok d
      ∧ d.entries.Perm s.store.entries.entries
      ∧ ∀ key, d.get? key = s.store.entries.get? key := by
  obtain ⟨t, rfl, ht⟩ := ha.eq_file hpath
  obtain ⟨d, degraded, hreads, hcopies⟩ := h t ht
  refine ⟨d, ?_, hcopies.entries, hcopies.get?_eq hs.orderly⟩
  show (t.load false estimate s.host.disk scratch).1 = .ok d
  rw [Target.load_fst, hreads]
  rfl

/-- **After a close that succeeds the file has what the store has**, whatever failed before it, if
nobody else writes the file and no close that failed is owing. Every archive of the configuration
loads the entries, and a store is opened with them if the folder of the file is still there. -/
theorem filed_of_close (hpath : c.filePath = some path) (hsave : c.saveOnUpdate = true)
    (hopen : opened.openStore c = (.ok store, host))
    (hrun : Session.Course.Leads path ⟨⟨store, host⟩, false⟩ ⟨s, false⟩)
    (hclose : s.close.1 = .ok ()) :
    (∀ (a : Archive) (estimate : Nat) (scratch : Scratch), a.Serves c →
      ∃ d, (a.load false estimate c.ignoreCase s.close.2.host.disk scratch).1 = .ok d
        ∧ d.entries.Perm s.close.2.store.entries.entries
        ∧ ∀ key, d.get? key = s.close.2.store.entries.get? key)
    ∧ ((Path.folder path ≠ "" → s.close.2.host.disk.isThere (Path.folder path) = true) →
      ∃ store' host', s.close.2.host.openStore c = (.ok store', host')
        ∧ store'.entries.entries.Perm s.close.2.store.entries.entries
        ∧ ∀ key, store'.entries.get? key = s.close.2.store.entries.get? key) := by
  have hopened : Session.Course.Sound ⟨⟨store, host⟩, false⟩ c := by
    refine ⟨serves_of_openStore hopen, ?_, fun _ _ => (durable_of_openStore hopen).recorded.reads⟩
    exact Session.Opened.idle ⟨opened, store, host, hopen, .refl _⟩
  have hsound := hrun.sound hpath hsave hopened
  have howing : Session.Operation.close.owing (s.perform .close).1 false = false :=
    Session.Course.owing_close_of_ok hclose false
  have hfiled : s.close.2.Filed c := hsound.filed_close hpath hsave howing
  have hserves : s.close.2.store.Serves c := Session.serves_close hsound.serves
  refine ⟨fun a estimate scratch ha => hfiled.load hserves hpath ha estimate scratch, ?_⟩
  intro hfolder
  obtain ⟨t, -, ht⟩ := hserves.archive.eq_file hpath
  obtain ⟨d, degraded, hreads, hcopies⟩ := hfiled t ht
  have hsame : t.path = path := Option.some.inj (ht.path.symm.trans hpath)
  obtain ⟨store', host', hopen', rfl⟩ := Host.openStore_of_reads ht (hsame ▸ hfolder) hreads
  exact ⟨store', host', hopen', hcopies.entries, hcopies.get?_eq hserves.orderly⟩

/-- The session on a store whose folder others have taken away before anything was saved. -/
def strayed : Session := { ledgerOpened with host := { ledgerOpened.host with disk := {} } }

/-- A key is stored in it and it is closed, and both fail. -/
def strayedClosed : Session := ((strayed.perform (.upsert "Ab" [7] none)).2.perform .close).2

/-- Then the folder is back. -/
def strayedBack : Session :=
  { strayedClosed with host := { strayedClosed.host with disk := ledgerOpened.host.disk } }

/-- Once it was saved the close after that has nothing to do, and the file has the key. -/
theorem filed_of_close_strayed :
    ledger.filePath = some "d/f" ∧ ledger.saveOnUpdate = true
      ∧ Host.openStore {} ledger = (.ok ledgerOpened.store, ledgerOpened.host)
      ∧ Session.Course.Leads "d/f" ⟨ledgerOpened, false⟩ ⟨(strayedBack.perform (.save false)).2, false⟩
      ∧ (strayedBack.perform (.save false)).2.close.1 = .ok ()
      ∧ (strayed.perform (.upsert "Ab" [7] none)).1 = .error (.failed (.io .notFound))
      ∧ ((strayed.perform (.upsert "Ab" [7] none)).2.perform .close).1
        = .error (.failed (.io .notFound))
      ∧ ∃ store' host', (strayedBack.perform (.save false)).2.close.2.host.openStore ledger
          = (.ok store', host')
        ∧ store'.entries.entries.Perm [{ key := "Ab", value := some [7] }] := by
  have hpath : ledger.filePath = some "d/f" := rfl
  have hopen : Host.openStore {} ledger = (.ok ledgerOpened.store, ledgerOpened.host) :=
    Host.openStore_eq_session (by decide +kernel)
  have hupsert : (strayed.perform (.upsert "Ab" [7] none)).1 = .error (.failed (.io .notFound)) := by
    decide +kernel
  have hfailed : ((strayed.perform (.upsert "Ab" [7] none)).2.perform .close).1
      = .error (.failed (.io .notFound)) := by decide +kernel
  have haway : Session.Course.Leads "d/f" ⟨ledgerOpened, false⟩ ⟨strayed, false⟩ :=
    .elsewhere ⟨ledgerOpened, false⟩ { ledgerOpened.host with disk := {} } (by decide +kernel)
  have hwrite : Session.Course.Leads "d/f" ⟨strayed, false⟩ ⟨_, false⟩ :=
    .perform ⟨strayed, false⟩ (.upsert "Ab" [7] none) trivial
  have hshut : Session.Course.Leads "d/f" ⟨_, false⟩ ⟨strayedClosed, true⟩ :=
    .performed ⟨_, false⟩ .close trivial (by rw [hfailed]; rfl)
  have hback : Session.Course.Leads "d/f" ⟨strayedClosed, true⟩ ⟨strayedBack, true⟩ :=
    .elsewhere ⟨strayedClosed, true⟩
      { strayedClosed.host with disk := ledgerOpened.host.disk } (by decide +kernel)
  have hsaved : Session.Course.Leads "d/f" ⟨strayedBack, true⟩ ⟨_, false⟩ :=
    .performed ⟨strayedBack, true⟩ (.save false) trivial (by decide +kernel)
  have hrun := (((haway.trans hwrite).trans hshut).trans hback).trans hsaved
  have hclose : (strayedBack.perform (.save false)).2.close.1 = .ok () := by decide +kernel
  have hfolder : (strayedBack.perform (.save false)).2.close.2.host.disk.isThere
      (Path.folder "d/f") = true := by decide +kernel
  have hentries : (strayedBack.perform (.save false)).2.close.2.store.entries.entries
      = [{ key := "Ab", value := some [7] }] := by decide +kernel
  obtain ⟨store', host', hopen', hperm, -⟩ :=
    (filed_of_close hpath rfl hopen hrun hclose).2 fun _ => hfolder
  exact ⟨hpath, rfl, hopen, hrun, hclose, hupsert, hfailed, store', host', hopen', hentries ▸ hperm⟩

/-- A store that saves on every change and whose file is encrypted. -/
def barred : Config := { path := some "f", passphrase := some "k", saveOnUpdate := true }

/-- There is a file, but it is encrypted under another key. -/
def barredHost : Host := { disk := { nodes := [(["f"], .file (List.replicate 16 7))] } }

/-- A key was stored, which was not saved, for the file is kept as it is. Then the store was closed.
-/
def barredClosed : Session :=
  (((barredHost.session barred).perform (.upsert "a" [7] none)).2.perform .close).2

/-- The close has failed. Another one succeeds, and still the key is in no file. -/
theorem not_filed_of_close_again :
    barred.filePath = some "f" ∧ barred.saveOnUpdate = true
      ∧ barredHost.openStore barred
        = (.ok (barredHost.session barred).store, (barredHost.session barred).host)
      ∧ Session.Course.Leads "f" ⟨barredHost.session barred, false⟩ ⟨barredClosed, true⟩
      ∧ barredClosed.close.1 = .ok ()
      ∧ ¬∃ store host, barredClosed.close.2.host.openStore barred = (.ok store, host)
        ∧ store.entries.entries.Perm barredClosed.close.2.store.entries.entries := by
  -- the keys of the cipher are made only once for all that is computed
  obtain ⟨hok, howing, hclose, hentries, hempty⟩ :
      (barredHost.openStore barred).1.isOk = true
        ∧ Session.Operation.close.owing
          (((barredHost.session barred).perform (.upsert "a" [7] none)).2.perform .close).1 false
          = true
        ∧ barredClosed.close.1 = .ok ()
        ∧ barredClosed.close.2.store.entries.entries = [{ key := "a", value := some [7] }]
        ∧ (barredClosed.close.2.host.openStore barred).1.toOption.map (·.entries.entries)
          = some [] := by decide +kernel
  have hwrite : Session.Course.Leads "f" ⟨barredHost.session barred, false⟩ ⟨_, false⟩ :=
    .perform ⟨barredHost.session barred, false⟩ (.upsert "a" [7] none) trivial
  have hshut : Session.Course.Leads "f" ⟨_, false⟩ ⟨barredClosed, true⟩ :=
    .performed ⟨_, false⟩ .close trivial howing
  refine ⟨rfl, rfl, Host.openStore_eq_session hok, hwrite.trans hshut, hclose, ?_⟩
  rintro ⟨store, host, hagain, hperm⟩
  rw [hagain] at hempty
  have hnone : store.entries.entries = [] := Option.some.inj hempty
  rw [hnone, hentries] at hperm
  cases hperm.length_eq

end Coffer
