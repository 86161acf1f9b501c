import Coffer.Proofs.Persisting
import Coffer.Proofs.Runs
import Coffer.Proofs.Verdicts

/-!
# A rollback returns to what was saved

A store that does not save on every change has its file as it was saved last: whatever is done in
memory, and whether saves fail or not, the bytes of the file stay (`RunsUnsaved.read_eq`). So a
rollback loads what the last save has put there, and the store has the entries again that it had
then (`rollback_after_save`).
-/

namespace Coffer.Session

variable {c : Config} {path : String} {s s' t : Session}

/-! ## Rolling back -/

/-- **A rollback takes over the entries that the file restores, and the length of the file as its
estimate.** -/
theorem rollback_of_restores {a : Target} {b : Bytes} {d : Dictionary} (hs : s.store.Serves c)
    (ha : a.Serves c) (hread : s.host.disk.read a.path = .ok b) (hb : a.Restores b d) :
    ∃ d' : Dictionary, d'.Copies d
      ∧ s.rollback = (.ok (), s.afterLoad (s.store.adopt d' b.length))
      ∧ s.reloaded.2.1.isDegraded = false := by
  obtain ⟨d', hdecode, hcopies⟩ := hb
  -- the archive of the session differs from the other by what does not count for loading
  obtain ⟨a', harchive, ha'⟩ := hs.archive.eq_file ha.path
  have hpath : a'.path = a.path := Option.some.inj (ha'.path.symm.trans ha.path)
  have hreads : a'.reads s.host.disk = .ok (d', false) := by
    rw [ha.reads_eq ha', Target.reads_of_read hread, hdecode]
  have hlength : (s.store.path.map s.host.disk.fileLength).getD 0 = b.length := by
    show (s.store.archive.path.map s.host.disk.fileLength).getD 0 = b.length
    rw [harchive]
    show s.host.disk.fileLength a'.path = b.length
    rw [hpath, Disk.fileLength, hread]
  have hloaded : s.reloaded.1 = .ok d' := by
    rw [reloaded, harchive]
    exact (Target.load_fst a' _ _ _).trans (by rw [hreads]; rfl)
  have hdegraded : s.reloaded.2.1.isDegraded = false := by
    rw [reloaded, harchive]
    exact (Target.degraded_load a' _ _ _).trans (by rw [hreads]; rfl)
  rw [← hlength]
  exact ⟨d', hcopies, rollback_of_ok hloaded, hdegraded⟩

/-! ## Leaving the file alone -/

/-- Somebody uses the host, subscribes or leaves, and does not write the file at the path. -/
def AsideFrom (path : String) (s t : Session) : Prop :=
  Aside s t ∧ t.host.disk.read path = s.host.disk.read path

/-- Operations of any kind with any results, but no save succeeds, and nobody else writes the file
at the path. -/
abbrev RunsUnsaved (path : String) : Session → Session → Prop :=
  Runs (AsideFrom path) fun s o =>
    ∀ cancelled, o = .save cancelled → ∃ e, (s.save cancelled).1 = .error e

/-- In a store that does not save on every change a save is due only if it is asked for. -/
theorem Operation.IsDue.eq_save {o : Operation} (h : o.IsDue s t)
    (hlazy : s.store.config.saveOnUpdate = false) : ∃ cancelled, o = .save cancelled := by
  cases o with
  | save cancelled => exact ⟨cancelled, rfl⟩
  | get | getBuffered | rollback => exact h.elim
  | _ => exact absurd h.1 (by simp [hlazy])

/-- From where it begins on, an operation leaves the disk alone if no save succeeds. -/
theorem disk_perform_of_unsaved {o : Operation}
    (hlazy : (o.start s).store.config.saveOnUpdate = false)
    (hunsaved : ∀ cancelled, o = .save cancelled → ∃ e, (s.save cancelled).1 = .error e) :
    (s.perform o).2.host.disk = (o.start s).host.disk := by
  by_cases hload : o = .rollback
  · subst hload
    show s.rollback.2.host.disk = s.host.disk
    unfold rollback
    simp only
    split <;> rfl
  · rcases persists_perform s hload with ⟨-, hworks⟩ | ⟨hdue, -, -, -, hok⟩ |
      ⟨-, hworks, hsave, -⟩
    · exact hworks.disk
    · obtain ⟨cancelled, rfl⟩ := hdue.eq_save hlazy
      obtain ⟨e, he⟩ := hunsaved cancelled rfl
      obtain ⟨r, hr⟩ := hok
      obtain ⟨u, hu, -⟩ := answer_eq_ok_iff.mp hr
      rw [he] at hu
      cases hu
    · have hfailed := disk_of_save_error (congrArg Prod.fst hsave)
      rw [hsave] at hfailed
      exact hfailed.trans hworks.disk

/-- **In such a run the file stays as it is.** -/
theorem RunsUnsaved.read_eq (hrun : RunsUnsaved path s t) (hs : s.store.Serves c)
    (hlazy : c.saveOnUpdate = false) :
    t.store.Serves c ∧ t.host.disk.read path = s.host.disk.read path := by
  have hreaches {s t : Session} (hrun : RunsUnsaved path s t) : s.Reaches t :=
    hrun.reaches fun _ _ haside => haside.1.reaches
  refine ⟨(hreaches hrun).serves hs, ?_⟩
  induction hrun with
  | refl => rfl
  | trans hrun _ ih ih' => exact (ih' ((hreaches hrun).serves hs)).trans (ih hs)
  | aside h => exact h.2
  | @perform s o hunsaved hplain =>
    have hstart := Operation.start_of_plain hplain s
    have hdisk := disk_perform_of_unsaved (by rwa [hstart, hs.config]) hunsaved
    rw [hdisk, hstart]
  | update s key valueKey f _ hf ih =>
    -- the transform comes first, and then the write
    have hstart : (s.transformedBy key valueKey f).store.Serves c
        ∧ (s.transformedBy key valueKey f).host.disk.read path = s.host.disk.read path := by
      unfold transformedBy
      split
      · exact ⟨hs, rfl⟩
      · next hopen =>
        have hopen := Bool.eq_false_iff.mpr hopen
        have hget : (s.get key valueKey).2.store.Serves c := by rwa [store_get]
        refine ⟨(hreaches (hf hopen)).serves hget, ?_⟩
        rw [ih hopen hget, disk_get]
    have hdisk := disk_perform_of_unsaved (s := s) (o := .update key valueKey f)
      (by rw [← hlazy, ← hstart.1.config]; rfl) nofun
    exact (congrArg (Disk.read · path) hdisk).trans hstart.2

/-- **A rollback returns to what was saved.** If a save succeeds, and after that any operations with
any results are performed, but no other save succeeds and nobody else writes the file, then a
rollback succeeds: the store has the entries again that it had when it was saved, under their
spellings and with their values and absences, and the length of the file as its estimate. One more
update is counted, and nobody is told. -/
theorem rollback_after_save {cancelled : Bool} (hpath : c.filePath = some path)
    (hlazy : c.saveOnUpdate = false) (hs : s.Opened c)
    (hsave : s.save cancelled = (.ok (), s')) (hrun : RunsUnsaved path s' t) :
    ∃ b, t.host.disk.read path = .ok b
      ∧ t.rollback.1 = .ok ()
      ∧ t.rollback.2.store.entries.entries.Perm s.store.entries.entries
      ∧ (∀ key, t.rollback.2.store.entries.get? key = s.store.entries.get? key)
      ∧ t.rollback.2.store.estimate = b.length
      ∧ t.rollback.2.store.updates = t.store.updates + 1
      ∧ t.rollback.2.store.feed = t.store.feed
      ∧ t.rollback.2.store.archive.isDegraded = false := by
  obtain ⟨a, harchive, ha⟩ := hs.serves.archive.eq_file hpath
  obtain rfl : path = a.path := Option.some.inj (hpath.symm.trans ha.path)
  obtain ⟨b, hread, hrestores, -⟩ := restores_of_save hs.serves harchive hsave
  have hserves : s'.store.Serves c := by
    have hsaved := serves_save hs.serves cancelled
    rwa [hsave] at hsaved
  obtain ⟨ht, hsame⟩ := hrun.read_eq hserves hlazy
  have hread' : t.host.disk.read a.path = .ok b := hsame.trans hread
  obtain ⟨d, hcopies, hrollback, hsound⟩ := rollback_of_restores ht ha hread' hrestores
  rw [hrollback]
  exact ⟨b, hread', rfl, hcopies.entries, hcopies.get?_eq hs.serves.orderly, rfl, rfl, rfl, hsound⟩

/-- The vault with one entry. -/
def vaultFilled : Session := ((Host.session {} vault).upsert "Ab" [7] none).2

/-- It is saved; then the entry is updated and another one stored, and both are removed. -/
def vaultCleared : Session :=
  (((vaultFilled.save false).2.update "aB" none storeAndAppend).2.clear).2

/-- The entry is there again, under the spelling that it was stored with. -/
theorem rollback_after_save_vault :
    vault.filePath = some "f" ∧ vault.saveOnUpdate = false ∧ vaultFilled.Opened vault
      ∧ vaultFilled.save false = (.ok (), (vaultFilled.save false).2)
      ∧ RunsUnsaved "f" (vaultFilled.save false).2 vaultCleared
      ∧ vaultCleared.store.entries.get? "AB" = none
      ∧ vaultCleared.rollback.1 = .ok ()
      ∧ vaultCleared.rollback.2.store.entries.get? "AB"
        = some { key := "Ab", value := some [7] } := by
  have hopened : vaultFilled.Opened vault :=
    (Host.opened_session (by decide)).trans (.upsert _ "Ab" [7] none)
  have hsaved {x : Except Error Unit × Session} (h : x.1 = .ok ()) : x = (.ok (), x.2) :=
    Prod.ext h rfl
  have hsave : vaultFilled.save false = (.ok (), (vaultFilled.save false).2) :=
    hsaved (by decide +kernel)
  have hupdate (s : Session) :
      RunsUnsaved "f" s (s.update "aB" none storeAndAppend).2 :=
    .update s "aB" none storeAndAppend nofun fun _ =>
      .perform (o := .upsert "b" [2] none) _ nofun trivial
  have hclear (s : Session) : RunsUnsaved "f" s s.clear.2 :=
    .perform (o := .clear) s nofun trivial
  have hrun : RunsUnsaved "f" (vaultFilled.save false).2 vaultCleared :=
    (hupdate _).trans (hclear _)
  obtain ⟨b, -, hok, -, hfound, -⟩ := rollback_after_save rfl rfl hopened hsave hrun
  have hheld : vaultFilled.store.entries.get? "AB" = some { key := "Ab", value := some [7] } := by
    decide
  exact ⟨rfl, rfl, hopened, hsave, hrun, by decide +kernel, hok, (hfound "AB").trans hheld⟩

end Coffer.Session
