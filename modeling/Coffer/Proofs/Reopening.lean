import Coffer.Proofs.Folders
import Coffer.Proofs.Reach

/-!
# What was saved is there when the store is opened again

A save that succeeds leaves a file from which the entries are restored (`restores_of_save`). The
snapshot is not dropped as a late one, for no snapshot that was written bears a higher number. The
path ends neither in a slash nor in dots, or nothing would have been saved, so opening the store
finds the folder and then the file. What else is on the disk does not matter, nor does anything of
the first store.
-/

namespace Coffer

variable {c : Config}

/-- Where a file was replaced, the path ends in a name of its own. -/
theorem Disk.ends_of_replace {d d' : Disk} {path : String} {b : Bytes}
    (h : d.replace path b = .ok d') : ¬Path.endsInDots path ∧ ¬Path.endsInSlash path := by
  simp only [Disk.replace, bind_eq_ok_iff] at h
  obtain ⟨-, -, -, -, -, -, h⟩ := h
  split at h
  · cases h
  · next hdots =>
    split at h
    · cases h
    · next hslash => exact ⟨hdots, hslash⟩

/-- **What a save that succeeds leaves behind.** -/
theorem Session.restores_of_save {s s' : Session} {t : Target} {cancelled : Bool}
    (h : s.store.Serves c) (hfile : s.store.archive = .file t)
    (hsave : s.save cancelled = (.ok (), s')) :
    ∃ b, s'.host.disk.read t.path = .ok b ∧ t.Restores b s.store.entries
      ∧ ¬Path.endsInDots t.path ∧ ¬Path.endsInSlash t.path := by
  have ht : t.Serves c := h.file hfile
  obtain ⟨scratch, ⟨e, heq⟩ | ⟨snapshot, disk, -, hcontent, hreplace, heq⟩⟩ :=
    exists_save hfile ht.committed_le cancelled
  · cases hsave.symm.trans heq
  · cases hsave.symm.trans heq
    refine ⟨snapshot.bytes, Disk.read_replace hreplace, ?_, Disk.ends_of_replace hreplace⟩
    exact Target.restores_content h.orderly (h.comparer.trans ht.comparer.symm) hcontent

/-- **Opening a store restores what is in its file.** -/
theorem Host.openStore_of_restores {t : Target} {h : Host} {b : Bytes} {d : Dictionary}
    (ht : t.Serves c) (hread : h.disk.read t.path = .ok b) (hb : t.Restores b d)
    (hends : ¬Path.endsInDots t.path ∧ ¬Path.endsInSlash t.path) :
    ∃ store h', h.openStore c = (.ok store, h') ∧ store.archive.isDegraded = false
      ∧ store.entries.Copies d := by
  have hfolder := Archive.ofConfig_of_serves ht (Disk.isThere_folder hread hends.1 hends.2)
  obtain ⟨d', hdecode, hcopies⟩ := hb
  -- the archive of the new store differs from the old one by what does not count for loading
  obtain ⟨scratch, hload⟩ := Target.load_of_read
    (t := { t with rendered := 0, committed := 0, degraded := false }) hread
    (h.disk.fileLength t.path) h.scratch
  rw [show Target.decodeContent { t with rendered := 0, committed := 0, degraded := false } b
    = .ok (d', false) from hdecode] at hload
  simp only at hload
  simp only [openStore, hfolder, Archive.load, Archive.path, Archive.target?, Option.map_some,
    Option.getD_some, hload]
  exact ⟨_, _, rfl, rfl, hcopies⟩

/-- **A store that was saved and is opened again has the entries it had**, whatever was done with
it before, in whatever order its entries were written, and whatever else has changed meanwhile. -/
theorem openStore_after_save {path : String} {opened host host' : Host} {store : Store}
    {s s' : Session} {cancelled : Bool} (hpath : c.filePath = some path)
    (hopen : opened.openStore c = (.ok store, host)) (hreach : Session.Reaches ⟨store, host⟩ s)
    (hsave : s.save cancelled = (.ok (), s'))
    (hfile : host'.disk.read path = s'.host.disk.read path) :
    ∃ store' host'', host'.openStore c = (.ok store', host'')
      ∧ store'.archive.isDegraded = false
      ∧ store'.entries.entries.Perm s.store.entries.entries
      ∧ ∀ key, store'.entries.get? key = s.store.entries.get? key := by
  have hserves := hreach.serves (serves_of_openStore hopen)
  obtain ⟨t, harchive, ht⟩ := hserves.archive.eq_file hpath
  obtain rfl : path = t.path := Option.some.inj (hpath.symm.trans ht.path)
  obtain ⟨b, hread, hrestores, hends⟩ := Session.restores_of_save hserves harchive hsave
  obtain ⟨store', host'', hopen', hsound, hcopies⟩ :=
    Host.openStore_of_restores ht (hfile.trans hread) hrestores hends
  exact ⟨store', host'', hopen', hsound, hcopies.entries, hcopies.get?_eq hserves.orderly⟩

/-- An encrypted file with keys in UTF-16 that are compared without regard to case. -/
def vault : Config :=
  { path := some "f", ignoreCase := true, encoding := .utf16, passphrase := some "p" }

/-- The first session on it. -/
def vaultOpened : Session :=
  match Host.openStore {} vault with
  | (.ok store, host) => ⟨store, host⟩
  | (.error _, host) => ⟨default, host⟩

/-- One key is stored and found again in another spelling. -/
theorem openStore_after_save_upsert :
    ∃ s', (vaultOpened.upsert "Ab" [7] none).2.save false = (.ok (), s')
      ∧ ∃ store' host', s'.host.openStore vault = (.ok store', host')
        ∧ store'.archive.isDegraded = false
        ∧ store'.entries.entries.Perm [{ key := "Ab", value := some [7] }]
        ∧ store'.entries.get? "aB" = some { key := "Ab", value := some [7] } := by
  have hpath : vault.filePath = some "f" := rfl
  have hopen : Host.openStore {} vault = (.ok vaultOpened.store, vaultOpened.host) := by
    have hok : (Host.openStore {} vault).1.isOk = true := by decide +kernel
    unfold vaultOpened
    split
    · next heq => exact heq
    · next heq =>
      rw [heq] at hok
      cases hok
  obtain ⟨s', hsave⟩ : ∃ s', (vaultOpened.upsert "Ab" [7] none).2.save false = (.ok (), s') := by
    have hok : ((vaultOpened.upsert "Ab" [7] none).2.save false).1 = .ok () := by decide +kernel
    generalize (vaultOpened.upsert "Ab" [7] none).2.save false = r at hok
    exact ⟨r.2, Prod.ext hok rfl⟩
  have hentries : (vaultOpened.upsert "Ab" [7] none).2.store.entries.entries
      = [{ key := "Ab", value := some [7] }] := by decide +kernel
  have hget : (vaultOpened.upsert "Ab" [7] none).2.store.entries.get? "aB"
      = some { key := "Ab", value := some [7] } := by decide +kernel
  obtain ⟨store', host', hopen', hsound, hperm, hfound⟩ :=
    openStore_after_save hpath hopen (.upsert _ "Ab" [7] none) hsave rfl
  refine ⟨s', hsave, store', host', hopen', hsound, ?_, ?_⟩
  · rwa [hentries] at hperm
  · rw [hfound, hget]

end Coffer
