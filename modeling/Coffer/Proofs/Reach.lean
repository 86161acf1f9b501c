import Coffer.Proofs.Serving
import Coffer.Store.Typed

/-!
# What a program can make of a store

A program *reaches* the sessions that it comes to by operations on an open store, one after the
other. Between two operations everything that is not the store may change: somebody may write other
files, take buffers from the pools and give them back, clear the keyring, and the entries may be
gone through in another order. Subscribers may empty their inboxes and leave. An update or a factory
may use the store itself before it gives a value, so reaching is part of its own definition there.

A save may be interrupted between its two steps, and other operations come in between, other saves
among them. What it has rendered is *outstanding* until it is written (`Session.Outstanding`).

A store *serves* its configuration if its archive does, and if its entries are orderly and compared
as the configuration says. A store that was opened does (`serves_of_openStore`), each operation
keeps it so, and with that every session that is reached (`Reaches.serves`).
-/

namespace Coffer

/-- The snapshot was rendered for the file and is not the one that was written last: no snapshot is
written twice. -/
def Session.Outstanding (s : Session) (snapshot : Snapshot) : Prop :=
  ∃ t, s.store.archive = .file t ∧ snapshot.number ≤ t.rendered ∧ snapshot.number ≠ t.committed

instance (s : Session) (snapshot : Snapshot) : Decidable (s.Outstanding snapshot) :=
  match h : s.store.archive with
  | .disabled => isFalse (by rintro ⟨t, ht, -⟩; cases h.symm.trans ht)
  | .file t => decidable_of_iff (snapshot.number ≤ t.rendered ∧ snapshot.number ≠ t.committed)
      ⟨fun hnumber => ⟨t, h, hnumber⟩, by
        rintro ⟨t', ht', hnumber⟩
        obtain rfl := Archive.file.inj (h.symm.trans ht')
        exact hnumber⟩

/-- The session that operations on the store lead to. -/
inductive Session.Reaches : Session → Session → Prop
  | refl (s : Session) : Reaches s s
  | trans {s t u : Session} : Reaches s t → Reaches t u → Reaches s u
  | elsewhere (s : Session) (host : Host) : Reaches s { s with host }
  | subscribers (s : Session) (feed : Feed) : Reaches s (s.withStore { s.store with feed })
  | subscribe (s : Session) : Reaches s s.subscribe.2
  | get (s : Session) (key : String) (valueKey : Option String) : Reaches s (s.get key valueKey).2
  | getBuffered (s : Session) (key : String) (valueKey : Option String) (extra : UInt64) :
    Reaches s (s.getBuffered key valueKey extra).2
  | render (s : Session) : Reaches s s.render.2
  | write (s : Session) {snapshot : Snapshot} (h : s.Outstanding snapshot) (cancelled : Bool) :
    Reaches s (s.write snapshot cancelled).2
  | save (s : Session) (cancelled : Bool) : Reaches s (s.save cancelled).2
  | drain (s : Session) : Reaches s s.drain.2
  | rollback (s : Session) : Reaches s s.rollback.2
  | close (s : Session) : Reaches s s.close.2
  | upsert (s : Session) (key : String) (value : Bytes) (valueKey : Option String) :
    Reaches s (s.upsert key value valueKey).2
  | update (s : Session) (key : String) (valueKey : Option String) (f : Update)
    (hf : ∀ s value, Reaches s (f s value).2) : Reaches s (s.update key valueKey f).2
  | getOrAdd (s : Session) (key : String) (valueKey : Option String) (make : Factory)
    (hmake : ∀ s spelling, Reaches s (make s spelling).2) :
    Reaches s (s.getOrAdd key valueKey make).2
  | remove (s : Session) (key : String) : Reaches s (s.remove key).2
  | removeWhere (s : Session) (start : Option String) (test : String → Bool) :
    Reaches s (s.removeWhere start test).2
  | clear (s : Session) : Reaches s s.clear.2

/-- The store is one of the configuration. -/
structure Store.Serves (store : Store) (c : Config) : Prop where
  config : store.config = c
  archive : store.archive.Serves c
  orderly : store.entries.Orderly
  comparer : store.entries.comparer = c.comparer

variable {c : Config} {s s' : Session} {store : Store}

/-- The file of the store is the one that the configuration asks for. -/
theorem Store.Serves.file {t : Target} (h : store.Serves c) (hfile : store.archive = .file t) :
    t.Serves c := by
  have harchive := h.archive
  rwa [hfile] at harchive

/-! ## Changes of the store in memory -/

namespace Store

theorem Serves.merge (h : store.Serves c) (p : Pending) : (store.merge p).Serves c :=
  { h with
    orderly := h.orderly.insert p.key (some p.value)
    comparer := (Dictionary.comparer_insert _ _ _).trans h.comparer }

theorem Serves.mergeAll (h : store.Serves c) : store.mergeAll.Serves c := by
  -- the queue is emptied before the first of its writes is merged
  suffices ∀ (waiting : List Pending) {store : Store}, store.Serves c →
      (waiting.foldl Store.merge store).Serves c from this store.pending { h with }
  intro waiting
  induction waiting with
  | nil => exact fun h => h
  | cons p waiting ih => exact fun h => ih (h.merge p)

theorem Serves.discard (h : store.Serves c) (key : String) : (store.discard key).2.Serves c := by
  unfold Store.discard
  split
  · exact h
  · next e entries htake =>
    obtain rfl : store.entries.erase key = entries := congrArg Prod.snd htake
    exact { h with orderly := h.orderly.erase key }

theorem Serves.discardAll (h : store.Serves c) (keys : List String) :
    (store.discardAll keys).2.Serves c := by
  induction keys generalizing store with
  | nil => exact h
  | cons key keys ih => exact ih (h.discard key)

theorem Serves.discardEverything (h : store.Serves c) : store.discardEverything.Serves c :=
  { h with orderly := .clear store.entries }

theorem Serves.announce (h : store.Serves c) (change : Change) :
    (store.announce change).Serves c := by
  unfold Store.announce
  split
  · exact { h with }
  · exact h

theorem Serves.announceAll (h : store.Serves c) (es : List Entry) :
    (es.foldl Session.announceRemoval store).Serves c := by
  induction es generalizing store with
  | nil => exact h
  | cons e es ih => exact ih (h.announce _)

end Store

/-! ## Operations -/

namespace Session

@[simp] theorem store_cipherFor (s : Session) (passphrase : String) :
    (s.cipherFor passphrase).2.store = s.store := rfl

@[simp] theorem store_get (s : Session) (key : String) (valueKey : Option String) :
    (s.get key valueKey).2.store = s.store := by
  unfold get
  split
  · rfl
  · split
    · rfl
    · next passphrase _ =>
      have hstore := store_cipherFor s passphrase
      split <;> next heq => rwa [heq] at hstore

@[simp] theorem store_sealValue (s : Session) (value : Bytes) (valueKey : Option String) :
    (s.sealValue value valueKey).2.store = s.store := by
  unfold sealValue
  split <;> rfl

@[simp] theorem store_getBuffered (s : Session) (key : String) (valueKey : Option String)
    (extra : UInt64) : (s.getBuffered key valueKey extra).2.store = s.store := by
  unfold getBuffered cipherFor
  split
  · rfl
  · simp only
    split
    · rfl
    · split <;> rfl

/-! ### Keys that may be missing -/

section Missing

variable {m : Type → Type} [Monad m] {key : String} {valueKey : Option String}

/-- Where there is a value, it is the answer, and the factory has no effects. -/
theorem getOrAddM_of_some {make : Session → String → m (Bytes × Session)} {value : Bytes}
    (h : (s.get key valueKey).1 = some value) :
    s.getOrAddM key valueKey make = pure (.ok value, (s.get key valueKey).2) := by
  unfold getOrAddM
  generalize s.get key valueKey = x at h
  obtain ⟨r, s'⟩ := x
  obtain rfl : r = some value := h
  rfl

/-- Where there is none, it depends on the store whether the factory is run. -/
theorem getOrAddM_of_missing {make : Session → String → m (Bytes × Session)}
    (h : (s.get key valueKey).1 = none) :
    s.getOrAddM key valueKey make
      = if s.store.closed then pure (.error .closed, (s.get key valueKey).2) else do
        let made ← make (s.get key valueKey).2 key
        let written := made.2.upsert key made.1 valueKey
        return (written.1.map fun _ => made.1, written.2) := by
  rw [← show (s.get key valueKey).2.store = s.store from store_get s key valueKey]
  unfold getOrAddM
  generalize s.get key valueKey = x at h
  obtain ⟨r, s'⟩ := x
  obtain rfl : r = none := h
  dsimp only
  congr
  funext made
  obtain ⟨value, s''⟩ := made
  dsimp only
  generalize s''.upsert key value valueKey = y
  obtain ⟨_ | _, _⟩ := y <;> rfl

/-- In a store that is closed the factory has no effects either. -/
theorem getOrAddM_of_closed (hclosed : s.store.closed = true) (key : String)
    (valueKey : Option String) (make : Session → String → m (Bytes × Session)) :
    s.getOrAddM key valueKey make
      = pure ((s.get key valueKey).1.elim (.error .closed) .ok, (s.get key valueKey).2) := by
  cases hvalue : (s.get key valueKey).1 with
  | some value => rw [getOrAddM_of_some hvalue, Option.elim_some]
  | none => rw [getOrAddM_of_missing hvalue, if_pos hclosed, Option.elim_none]

theorem getOrAdd_of_some {make : Factory} {value : Bytes}
    (h : (s.get key valueKey).1 = some value) :
    s.getOrAdd key valueKey make = (.ok value, (s.get key valueKey).2) :=
  getOrAddM_of_some h

/-- What the factory does comes first, and then the write. -/
theorem getOrAdd_of_missing {make : Factory} (h : (s.get key valueKey).1 = none) :
    s.getOrAdd key valueKey make
      = if s.store.closed then (.error .closed, (s.get key valueKey).2) else
        (((make (s.get key valueKey).2 key).2.upsert key (make (s.get key valueKey).2 key).1
            valueKey).1.map fun _ => (make (s.get key valueKey).2 key).1,
          ((make (s.get key valueKey).2 key).2.upsert key (make (s.get key valueKey).2 key).1
            valueKey).2) :=
  getOrAddM_of_missing h

theorem getOrAdd_ofSpelling_of_missing {make : String → Bytes}
    (h : (s.get key valueKey).1 = none) :
    s.getOrAdd key valueKey (.ofSpelling make)
      = if s.store.closed then (.error .closed, (s.get key valueKey).2) else
        (((s.get key valueKey).2.upsert key (make key) valueKey).1.map fun _ => make key,
          ((s.get key valueKey).2.upsert key (make key) valueKey).2) :=
  getOrAdd_of_missing h

end Missing

/-! ### Saving -/

section Saving

variable {t : Target}

/-- The session after a snapshot for the file was counted. -/
def counted (s : Session) (t : Target) (scratch : Scratch) : Session where
  store := { s.store with archive := .file { t with rendered := t.rendered + 1 } }
  host := { s.host with scratch }

/-- The session after a snapshot has come into the file. -/
def landed (s : Session) (t : Target) (snapshot : Snapshot) (disk : Disk) : Session where
  store := { s.store with
    archive := .file { t with committed := snapshot.number }
    saves := s.store.saves + 1 }
  host := { s.host with disk }

theorem render_of_disabled (h : s.store.archive = .disabled) : s.render = (.ok none, s) := by
  obtain ⟨store, host⟩ := s
  cases store
  cases h
  rfl

theorem save_of_disabled (h : s.store.archive = .disabled) (cancelled : Bool) :
    s.save cancelled = (.ok (), s) := by
  rw [save, render_of_disabled h]

/-- A save renders, and unless that settles it, writes what was rendered. -/
theorem save_eq_render_or_write (s : Session) (cancelled : Bool) :
    (∃ r, s.save cancelled = (r, s.render.2))
      ∨ ∃ snapshot, s.save cancelled = s.render.2.write snapshot cancelled := by
  unfold save
  generalize s.render = x
  obtain ⟨e | _ | snapshot, s'⟩ := x
  · exact .inl ⟨.error e, rfl⟩
  · exact .inl ⟨.ok (), rfl⟩
  · exact .inr ⟨snapshot, rfl⟩

/-- Rendering for a file counts a snapshot, which bears the new number if there is one. -/
theorem exists_render (h : s.store.archive = .file t) :
    ∃ scratch, (∃ e, { t with rendered := t.rendered + 1 }.content s.host.order s.store.entries
          s.store.estimate s.host.scratch = .error e
        ∧ s.render = (.error e, s.counted t scratch))
      ∨ ∃ snapshot, snapshot.number = t.rendered + 1
        ∧ { t with rendered := t.rendered + 1 }.content s.host.order s.store.entries
          s.store.estimate s.host.scratch = .ok (snapshot.bytes, scratch)
        ∧ s.render = (.ok (some snapshot), s.counted t scratch) := by
  simp only [render, h, Archive.render, Target.render]
  cases { t with rendered := t.rendered + 1 }.content s.host.order s.store.entries
      s.store.estimate s.host.scratch with
  | error e => exact ⟨s.host.scratch, .inl ⟨e, rfl, rfl⟩⟩
  | ok r => exact ⟨r.2, .inr ⟨⟨t.rendered + 1, r.1⟩, rfl, rfl, rfl⟩⟩

/-- **A snapshot is refused, or it comes too late, or it is in the file then**, and is counted unless
it was refused. -/
theorem write_cases (h : s.store.archive = .file t) (snapshot : Snapshot) (cancelled : Bool) :
    (∃ e, s.write snapshot cancelled = (.error e, s))
      ∨ snapshot.number < t.committed
        ∧ s.write snapshot cancelled
          = (.ok (), s.withStore { s.store with saves := s.store.saves + 1 })
      ∨ t.committed ≤ snapshot.number
        ∧ ∃ disk, s.host.disk.replace t.path snapshot.bytes = .ok disk
          ∧ s.write snapshot cancelled = (.ok (), s.landed t snapshot disk) := by
  obtain ⟨store, host⟩ := s
  cases store
  cases h
  simp only [write, Archive.write]
  rcases t.write_cases snapshot cancelled host.disk with
    ⟨e, heq⟩ | ⟨hlate, heq⟩ | ⟨hnew, disk, hreplace, heq⟩
  · exact .inl ⟨e, by rw [heq]⟩
  · exact .inr (.inl ⟨hlate, by rw [heq]⟩)
  · exact .inr (.inr ⟨hnew, disk, hreplace, by rw [heq]; rfl⟩)

/-- A write that is refused changes nothing. -/
theorem write_of_error {snapshot : Snapshot} {cancelled : Bool} {e : Error}
    (h : (s.write snapshot cancelled).1 = .error e) : (s.write snapshot cancelled).2 = s := by
  cases hfile : s.store.archive with
  | disabled =>
    simp only [write, hfile, Archive.write] at h
    cases h
  | file t =>
    rcases write_cases hfile snapshot cancelled with
      ⟨e, hwrite⟩ | ⟨-, hwrite⟩ | ⟨-, disk, -, hwrite⟩
    · rw [hwrite]
    · rw [hwrite] at h
      cases h
    · rw [hwrite] at h
      cases h

/-- **A save fails, and a snapshot was counted all the same, or its snapshot is in the file.** It
does not come too late, for it bears the highest number. -/
theorem exists_save (h : s.store.archive = .file t) (hle : t.committed ≤ t.rendered)
    (cancelled : Bool) :
    ∃ scratch, (∃ e, s.save cancelled = (.error e, s.counted t scratch))
      ∨ ∃ snapshot disk, snapshot.number = t.rendered + 1
        ∧ { t with rendered := t.rendered + 1 }.content s.host.order s.store.entries
          s.store.estimate s.host.scratch = .ok (snapshot.bytes, scratch)
        ∧ s.host.disk.replace t.path snapshot.bytes = .ok disk
        ∧ s.save cancelled = (.ok (), (s.counted t scratch).landed
          { t with rendered := t.rendered + 1 } snapshot disk) := by
  obtain ⟨scratch, ⟨e, -, hrender⟩ | ⟨snapshot, hnumber, hcontent, hrender⟩⟩ := exists_render h
  · exact ⟨scratch, .inl ⟨e, by rw [save, hrender]⟩⟩
  · have hsave : s.save cancelled = (s.counted t scratch).write snapshot cancelled := by
      rw [save, hrender]
    have hcounted : (s.counted t scratch).store.archive
        = .file { t with rendered := t.rendered + 1 } := rfl
    refine ⟨scratch, ?_⟩
    rcases write_cases hcounted snapshot cancelled with
      ⟨e, hwrite⟩ | ⟨hlate, -⟩ | ⟨-, disk, hreplace, hwrite⟩
    · exact .inl ⟨e, hsave.trans hwrite⟩
    · have hlate : snapshot.number < t.committed := hlate
      omega
    · exact .inr ⟨snapshot, disk, hnumber, hcontent, hreplace, hsave.trans hwrite⟩

theorem serves_counted (h : s.store.Serves c) (hfile : s.store.archive = .file t)
    (scratch : Scratch) : (s.counted t scratch).store.Serves c :=
  { h with archive := (h.file hfile).counted }

theorem serves_landed (h : s.store.Serves c) (hfile : s.store.archive = .file t)
    {snapshot : Snapshot} (hle : snapshot.number ≤ t.rendered) (disk : Disk) :
    (s.landed t snapshot disk).store.Serves c :=
  { h with archive := (h.file hfile).landed hle }

theorem serves_render (h : s.store.Serves c) : s.render.2.store.Serves c := by
  cases hfile : s.store.archive with
  | disabled =>
    rw [render_of_disabled hfile]
    exact h
  | file t =>
    obtain ⟨scratch, ⟨e, -, hrender⟩ | ⟨snapshot, -, -, hrender⟩⟩ := exists_render hfile
    · rw [hrender]
      exact serves_counted h hfile scratch
    · rw [hrender]
      exact serves_counted h hfile scratch

theorem serves_write (h : s.store.Serves c) {snapshot : Snapshot} (hout : s.Outstanding snapshot)
    (cancelled : Bool) : (s.write snapshot cancelled).2.store.Serves c := by
  obtain ⟨t, hfile, hle, -⟩ := hout
  rcases write_cases hfile snapshot cancelled with
    ⟨e, hwrite⟩ | ⟨-, hwrite⟩ | ⟨-, disk, -, hwrite⟩
  · rw [hwrite]
    exact h
  · rw [hwrite]
    exact { h with }
  · rw [hwrite]
    exact serves_landed h hfile hle disk

theorem serves_save (h : s.store.Serves c) (cancelled : Bool) :
    (s.save cancelled).2.store.Serves c := by
  cases hfile : s.store.archive with
  | disabled =>
    rw [save_of_disabled hfile]
    exact h
  | file t =>
    obtain ⟨scratch, ⟨e, hsave⟩ | ⟨snapshot, disk, hnumber, -, -, hsave⟩⟩ :=
      exists_save hfile (h.file hfile).committed_le cancelled
    · rw [hsave]
      exact serves_counted h hfile scratch
    · rw [hsave]
      exact serves_landed (serves_counted h hfile scratch) rfl (Nat.le_of_eq hnumber) disk

end Saving

/-! ### Changes -/

theorem serves_saveChange (h : s.store.Serves c) : s.saveChange.2.store.Serves c := by
  unfold saveChange
  split
  · exact serves_save h false
  · exact h

theorem serves_drain (h : s.store.Serves c) : s.drain.2.store.Serves c := by
  unfold drain
  simp only
  split
  · exact h.mergeAll
  · have hsave := serves_saveChange (s := s.withStore s.store.mergeAll) h.mergeAll
    split <;> next heq => rwa [heq] at hsave

theorem serves_rollback (h : s.store.Serves c) : s.rollback.2.store.Serves c := by
  unfold rollback
  simp only
  obtain ⟨harchive, hentries⟩ := h.archive.load false
    ((s.store.path.map s.host.disk.fileLength).getD 0) s.host.disk s.host.scratch
  rw [← h.config] at harchive hentries
  split
  · next hload =>
    exact { h with archive := h.config ▸ harchive }
  · next entries hload =>
    obtain ⟨horderly, hcomparer⟩ := hentries entries hload
    exact ⟨h.config, h.config ▸ harchive, horderly, h.config ▸ hcomparer⟩

theorem serves_close (h : s.store.Serves c) : s.close.2.store.Serves c := by
  unfold close
  split
  · exact h
  · have hdrain := serves_drain (s := s.withStore { s.store with closed := true }) { h with }
    simp only
    split
    · next heq => rwa [heq] at hdrain
    · next heq =>
      rw [heq] at hdrain
      exact serves_saveChange hdrain
    · next heq => rwa [heq] at hdrain

theorem serves_upsert (h : s.store.Serves c) (key : String) (value : Bytes)
    (valueKey : Option String) : (s.upsert key value valueKey).2.store.Serves c := by
  unfold upsert
  split
  · exact h
  · have hseal : (s.sealValue value valueKey).2.store.Serves c := by rwa [store_sealValue]
    split
    · next heq => rwa [heq] at hseal
    · next stored s heq =>
      rw [heq] at hseal
      have hwaiting : (s.store.enqueue { key, value := stored }).Serves c := { hseal with }
      have hannounced := hwaiting.announce { kind := .upsert, key, value := some value }
      have hdrain := serves_drain (s := s.withStore
        ((s.store.enqueue { key, value := stored }).announce
          { kind := .upsert, key, value := some value })) hannounced
      simp only
      split <;> next heq => rwa [heq] at hdrain

theorem serves_update (h : s.store.Serves c) (key : String) (valueKey : Option String) {f : Update}
    (hf : ∀ s value, s.store.Serves c → (f s value).2.store.Serves c) :
    (s.update key valueKey f).2.store.Serves c := by
  unfold update
  split
  · exact h
  · have hget : (s.get key valueKey).2.store.Serves c := by rwa [store_get]
    -- the update may have used the store before it gave a value, or broke off
    have hnew := hf _ ((s.get key valueKey).1.getD []) hget
    simp only
    split
    · next heq => rwa [heq] at hnew
    · next value s heq =>
      rw [heq] at hnew
      have hupsert := serves_upsert hnew key value valueKey
      split <;> next heq => rwa [heq] at hupsert

theorem serves_getOrAdd (h : s.store.Serves c) (key : String) (valueKey : Option String)
    {make : Factory}
    (hmake : ∀ s spelling, s.store.Serves c → (make s spelling).2.store.Serves c) :
    (s.getOrAdd key valueKey make).2.store.Serves c := by
  have hget : (s.get key valueKey).2.store.Serves c := by rwa [store_get]
  cases hread : (s.get key valueKey).1 with
  | some value =>
    rw [getOrAdd_of_some hread]
    exact hget
  | none =>
    rw [getOrAdd_of_missing hread]
    split
    · exact hget
    · exact serves_upsert (hmake _ key hget) key _ valueKey

theorem serves_remove (h : s.store.Serves c) (key : String) :
    (s.remove key).2.store.Serves c := by
  unfold remove
  split
  · exact h
  · have hdiscard := h.discard key
    split
    · exact h
    · next e store heq =>
      rw [heq] at hdiscard
      have hsave := serves_saveChange (s := s.withStore store) hdiscard
      split
      · next heq => rwa [heq] at hsave
      · next heq =>
        rw [heq] at hsave
        exact hsave.announce _

theorem serves_removeWhere (h : s.store.Serves c) (start : Option String) (test : String → Bool) :
    (s.removeWhere start test).2.store.Serves c := by
  unfold removeWhere
  split
  · exact h
  · simp only
    generalize List.map _ (List.filter _ (s.candidates start)) = keys
    split
    · exact h
    · have hsave := serves_saveChange (s := s.withStore (s.store.discardAll keys).2)
        (h.discardAll keys)
      split
      · next heq => rwa [heq] at hsave
      · next heq =>
        rw [heq] at hsave
        exact hsave.announceAll _

theorem serves_clear (h : s.store.Serves c) : s.clear.2.store.Serves c := by
  unfold clear
  split
  · exact h
  · have hsave := serves_saveChange (s := s.withStore s.store.discardEverything)
      h.discardEverything
    split
    · next heq => rwa [heq] at hsave
    · next heq =>
      rw [heq] at hsave
      exact hsave.announce _

/-- **Every session that is reached serves the configuration.** -/
theorem Reaches.serves (hreach : s.Reaches s') (h : s.store.Serves c) : s'.store.Serves c := by
  induction hreach with
  | refl => exact h
  | trans _ _ ih ih' => exact ih' (ih h)
  | elsewhere => exact h
  | subscribers | subscribe => exact { h with }
  | get s key valueKey => rwa [store_get]
  | getBuffered s key valueKey extra => rwa [store_getBuffered]
  | render => exact serves_render h
  | write _ hout cancelled => exact serves_write h hout cancelled
  | save _ cancelled => exact serves_save h cancelled
  | drain => exact serves_drain h
  | rollback => exact serves_rollback h
  | close => exact serves_close h
  | upsert _ key value valueKey => exact serves_upsert h key value valueKey
  | update _ key valueKey f _ ih => exact serves_update h key valueKey ih
  | getOrAdd _ key valueKey make _ ih => exact serves_getOrAdd h key valueKey ih
  | remove _ key => exact serves_remove h key
  | removeWhere _ start test => exact serves_removeWhere h start test
  | clear => exact serves_clear h

/-! ## Typed operations -/

/-- Storing encoded bytes is storing bytes, or nothing. -/
theorem Reaches.upsertEncoded (s : Session) (key : String) (encoded : Except Error Bytes)
    (valueKey : Option String) : s.Reaches (s.upsertEncoded key encoded valueKey).2 := by
  cases encoded with
  | error e => exact .refl s
  | ok b => exact .upsert s key b valueKey

/-- What the encoder does comes before the write. -/
theorem Reaches.upsertEncodedBy (s : Session) (key : String) {encode : Encoder}
    (hencode : ∀ s : Session, s.Reaches (encode s).2) (valueKey : Option String) :
    s.Reaches (s.upsertEncodedBy key encode valueKey).2 :=
  (hencode s).trans (.upsertEncoded _ key _ valueKey)

/-- What a check has found of the value so far, and the session after it. -/
def checkedBy (s : Session) (key : String) (valueKey : Option String) (rejects : Check) :
    Bool × Session :=
  (s.get key valueKey).1.elim (false, (s.get key valueKey).2) (rejects (s.get key valueKey).2)

/-- A conditional write reads, checks what it has read, and then writes. -/
theorem upsertUnlessBy_eq (s : Session) (key : String) (rejects : Check) (encode : Encoder)
    (valueKey : Option String) :
    s.upsertUnlessBy key rejects encode valueKey
      = if (s.checkedBy key valueKey rejects).1 then
          (.ok false, (s.checkedBy key valueKey rejects).2)
        else (((s.checkedBy key valueKey rejects).2.upsertEncodedBy key encode valueKey).1.map
            fun _ => true,
          ((s.checkedBy key valueKey rejects).2.upsertEncodedBy key encode valueKey).2) := rfl

theorem Reaches.upsertUnlessBy (s : Session) (key : String) {rejects : Check} {encode : Encoder}
    (hrejects : ∀ (s : Session) value, s.Reaches (rejects s value).2)
    (hencode : ∀ s : Session, s.Reaches (encode s).2) (valueKey : Option String) :
    s.Reaches (s.upsertUnlessBy key rejects encode valueKey).2 := by
  have hchecked : s.Reaches (s.checkedBy key valueKey rejects).2 := by
    have hread := Reaches.get s key valueKey
    unfold checkedBy
    cases (s.get key valueKey).1 with
    | none => exact hread
    | some value => exact hread.trans (hrejects _ value)
  rw [upsertUnlessBy_eq]
  split
  · exact hchecked
  · exact hchecked.trans (.upsertEncodedBy _ key hencode valueKey)

theorem Reaches.upsertUnless (s : Session) (key : String) (rejects : Bytes → Bool)
    (encoded : Except Error Bytes) (valueKey : Option String) :
    s.Reaches (s.upsertUnless key rejects encoded valueKey).2 :=
  .upsertUnlessBy s key (fun s _ => .refl s) (fun s => .refl s) valueKey

/-- Where nothing else uses the session, a conditional write reads, decides, and then writes. -/
theorem upsertUnless_eq (s : Session) (key : String) (rejects : Bytes → Bool)
    (encoded : Except Error Bytes) (valueKey : Option String) :
    s.upsertUnless key rejects encoded valueKey
      = if (s.get key valueKey).1.any rejects then (.ok false, (s.get key valueKey).2)
        else (((s.get key valueKey).2.upsertEncoded key encoded valueKey).1.map fun _ => true,
          ((s.get key valueKey).2.upsertEncoded key encoded valueKey).2) := by
  rw [upsertUnless, upsertUnlessBy_eq, checkedBy]
  generalize s.get key valueKey = x
  obtain ⟨_ | value, s'⟩ := x <;> rfl

end Session

/-- **A store that was opened serves its configuration.** -/
theorem serves_of_openStore {h h' : Host} (hopen : h.openStore c = (.ok store, h')) :
    store.Serves c := by
  unfold Host.openStore at hopen
  split at hopen
  · cases hopen
  · next archive disk harchive =>
    have hserves := Archive.serves_of_ofConfig harchive
    simp only at hopen
    split at hopen
    · cases hopen
    · next entries hload =>
      cases hopen
      obtain ⟨hserves', hentries⟩ := hserves.load false
        ((archive.path.map disk.fileLength).getD 0) disk h.scratch
      obtain ⟨horderly, hcomparer⟩ := hentries entries hload
      exact ⟨rfl, hserves', horderly, hcomparer⟩

end Coffer
