import Mathlib.Logic.Function.Iterate
import Coffer.Proofs.Repeating
import Coffer.Proofs.Shelf
import Coffer.Proofs.Verdicts

/-!
# A shelf that is kept in a file

A file keeps a shelf if its content is that of a dictionary which the shelf describes, and if it can
be replaced (`Shelf.KeptIn`). The empty shelf is also kept where there is no file yet. A store that
is opened on such a disk presents the shelf (`Host.openStore_of_keptIn`), and after a save that
succeeds the file keeps the shelf that the store presents then (`Session.Savable.keptIn`).

Opening may make the folder of the file, as far as that can be done, and it does so even if it fails
afterwards. That is no change of the file (`Disk.Bears.prepared`).
-/

namespace Coffer

/-! ## The file of a path -/

namespace Disk

variable {d : Disk} {path : String} {b : Bytes} {content : Option Bytes}

/-- The disk after the folder of a file was made, as far as it could be. -/
def prepared (d : Disk) (path : String) : Disk := (Archive.prepare path d).2

/-- What the file of a path contains, if there is one. Another one is not to appear either when the
folders are made that its path leads through, however often that is tried. -/
def Bears (d : Disk) (path : String) (content : Option Bytes) : Prop :=
  ∀ n, (((·.prepared path)^[n] d).read path).toOption = content

/-- The folder of the file is there or can be made, and in it there is the file or nothing of that
name. -/
structure Opens (d : Disk) (path : String) : Prop where
  folder : (Archive.prepare path d).1 = .ok ()
  file : (d.prepared path).read path = .error .notFound ∨ ∃ b, (d.prepared path).read path = .ok b

theorem Bears.read (h : d.Bears path content) : (d.read path).toOption = content := h 0

/-- **Making the folder of a file does not change the file.** -/
theorem Bears.prepared (h : d.Bears path content) : (d.prepared path).Bears path content :=
  fun n => h (n + 1)

theorem Bears.read_eq (h : d.Bears path (some b)) : d.read path = .ok b := by
  have hread := h.read
  cases heq : d.read path with
  | error f =>
    rw [heq] at hread
    cases hread
  | ok b' =>
    rw [heq] at hread
    exact congrArg Except.ok (Option.some.inj hread)

/-- Where the folder of a file is there, nothing is made that could bring up another file. -/
theorem bears_of_isThere (h : Path.folder path ≠ "" → d.isThere (Path.folder path) = true) :
    d.Bears path (d.read path).toOption := by
  have hfix : Function.IsFixedPt (·.prepared path) d :=
    congrArg Prod.snd (Archive.prepare_of_isThere h)
  intro n
  rw [hfix.iterate n]

/-- The folder of a file that can be read and replaced is there already. -/
theorem Takes.isThere (h : d.Takes path) (hread : d.read path = .ok b) :
    Path.folder path ≠ "" → d.isThere (Path.folder path) = true :=
  isThere_folder hread h.dots h.slash

theorem Takes.prepare_eq (h : d.Takes path) (hread : d.read path = .ok b) :
    Archive.prepare path d = (.ok (), d) :=
  Archive.prepare_of_isThere (h.isThere hread)

theorem Takes.bears (h : d.Takes path) (hread : d.read path = .ok b) : d.Bears path (some b) := by
  have hbears := bears_of_isThere (h.isThere hread)
  rwa [hread] at hbears

theorem Takes.opens (h : d.Takes path) (hread : d.read path = .ok b) : d.Opens path := by
  have hprepare := h.prepare_eq hread
  refine ⟨congrArg Prod.fst hprepare, .inr ⟨b, ?_⟩⟩
  rw [Disk.prepared, hprepare]
  exact hread

theorem Opens.prepare_eq (h : d.Opens path) :
    Archive.prepare path d = (.ok (), d.prepared path) := by
  rw [Disk.prepared, ← h.folder]

/-- Where there is no file yet, it is found to be missing. -/
theorem Opens.missing (h : d.Opens path) (hnone : (d.prepared path).Bears path none) :
    (d.prepared path).read path = .error .notFound := by
  rcases h.file with hmissing | ⟨b, hread⟩
  · exact hmissing
  · have hread' := hnone.read
    rw [hread] at hread'
    cases hread'

end Disk

/-! ## Shelves in files -/

/-- How a disk keeps a shelf: in a file that restores it and can be replaced, or, as long as there
is nothing on it, in no file at all. -/
inductive Shelf.KeptIn (c : Config) (path : String) (d : Disk) : Shelf → Prop
  | nowhere (h : d.Bears path none) : KeptIn c path d .empty
  | file {m : Shelf} {b : Bytes} {entries : Dictionary} (hread : d.read path = .ok b)
    (htakes : d.Takes path) (hrestores : ∀ t : Target, t.Serves c → t.Restores b entries)
    (hdescribes : m.Describes entries) (hfits : m.Encodable c.encoding) : KeptIn c path d m

/-- The session has a shelf in memory and can go on to change and save it. -/
structure Session.Presents (s : Session) (c : Config) (m : Shelf) : Prop where
  serves : s.store.Serves c
  idle : s.store.pending = []
  writable : s.store.closed = false
  faithful : s.host.keyring.Sound
  sound : s.store.archive.isDegraded = false
  describes : m.Describes s.store.entries

variable {c : Config} {path : String} {m : Shelf} {d : Disk}

theorem Shelf.KeptIn.bears (h : m.KeptIn c path d) : ∃ content, d.Bears path content := by
  cases h with
  | nowhere hnone => exact ⟨none, hnone⟩
  | file hread htakes => exact ⟨_, htakes.bears hread⟩

/-- Making the folder of a file changes nothing of what is kept. -/
theorem Shelf.KeptIn.prepared (h : m.KeptIn c path d) : m.KeptIn c path (d.prepared path) := by
  cases h with
  | nowhere hnone => exact .nowhere hnone.prepared
  | file hread htakes hrestores hdescribes hfits =>
    rw [Disk.prepared, htakes.prepare_eq hread]
    exact .file hread htakes hrestores hdescribes hfits

/-- What others do elsewhere on the disk changes nothing of what is kept. -/
theorem Shelf.KeptIn.elsewhere {d' : Disk} (h : m.KeptIn c path d)
    (hfile : ∀ content, d.Bears path content → d'.Bears path content)
    (htakes : d.Takes path → d'.Takes path) : m.KeptIn c path d' := by
  cases h with
  | nowhere hnone => exact .nowhere (hfile none hnone)
  | file hread htakes' hrestores hdescribes hfits =>
    exact .file (hfile _ (htakes'.bears hread)).read_eq (htakes htakes') hrestores hdescribes hfits

theorem Shelf.KeptIn.encodable (h : m.KeptIn c path d) : m.Encodable c.encoding := by
  cases h with
  | nowhere => exact encodable_empty c.encoding
  | file _ _ _ _ hfits => exact hfits

/-- Where something is on the shelf, there is a file that can be replaced. -/
theorem Shelf.KeptIn.takes (h : m.KeptIn c path d) {i : String} {x : Deposit} (hx : m i = some x) :
    d.Takes path := by
  cases h with
  | nowhere => cases hx
  | file _ htakes => exact htakes

/-- Where something is on the shelf or the file is there, a store can be opened. -/
theorem Shelf.KeptIn.opens (h : m.KeptIn c path d)
    (hm : m ≠ .empty ∨ ∃ b, d.read path = .ok b) : d.Opens path := by
  cases h with
  | nowhere hnone =>
    obtain hm | ⟨b, hread⟩ := hm
    · exact absurd rfl hm
    · have hread' := hnone.read
      rw [hread] at hread'
      cases hread'
  | file hread htakes => exact htakes.opens hread

/-! ## Opening -/

/-- There is an archive for every file. -/
theorem Config.exists_serves (hpath : c.filePath = some path) :
    ∃ t : Target, t.Serves c ∧ t.path = path := by
  have hcipher : ∃ cipher, c.fileCipher = .ok cipher := by
    unfold fileCipher
    cases hkey : c.activePassphrase with
    | none => exact ⟨none, rfl⟩
    | some passphrase =>
      obtain ⟨made, hmade⟩ := Cipher.exists_ofPassphrase hkey
      simp only [hmade]
      exact ⟨_, rfl⟩
  obtain ⟨cipher, hcipher⟩ := hcipher
  exact ⟨{ path, comparer := c.comparer, encoding := c.encoding, cipher, strict := c.strict },
    ⟨hpath, rfl, rfl, hcipher, rfl, Nat.le_refl _⟩, rfl⟩

namespace Host

variable {h : Host} {t : Target} {disk : Disk} {entries : Dictionary}

/-- **Where no store can be opened, there is an error.** -/
theorem openStore_of_not_opens (hpath : c.filePath = some path) (hnot : ¬h.disk.Opens path) :
    ∃ e h', h.openStore c = (.error e, h') ∧ h'.disk = h.disk.prepared path := by
  obtain ⟨t, ht, rfl⟩ := Config.exists_serves hpath
  cases hprepare : Archive.prepare t.path h.disk with
  | mk made disk =>
    have hdisk : h.disk.prepared t.path = disk := congrArg Prod.snd hprepare
    cases made with
    | error fault => exact ⟨_, _, openStore_of_unprepared hpath hprepare, hdisk.symm⟩
    | ok u =>
      obtain ⟨archive, scratch, -, hopen⟩ := openStore_of_prepared ht hprepare
      have herror : ∃ e, t.reads disk = .error e := by
        rw [← hdisk]
        cases hread : (h.disk.prepared t.path).read t.path with
        | ok b => exact absurd ⟨congrArg Prod.fst hprepare, .inr ⟨b, hread⟩⟩ hnot
        | error fault =>
          have hfault : fault ≠ .notFound := by
            rintro rfl
            exact hnot ⟨congrArg Prod.fst hprepare, .inl hread⟩
          rw [Target.reads_of_unread hread, if_neg hfault]
          exact ⟨_, rfl⟩
      obtain ⟨e, he⟩ := herror
      rw [he] at hopen
      exact ⟨e, _, hopen, hdisk.symm⟩

/-- **A store that is opened where a shelf is kept presents the shelf.** -/
theorem openStore_of_keptIn (hpath : c.filePath = some path) (hm : m.KeptIn c path h.disk)
    (hopens : h.disk.Opens path) (hkeyring : h.keyring.Sound) :
    ∃ store h', h.openStore c = (.ok store, h') ∧ Session.Presents ⟨store, h'⟩ c m
      ∧ h'.disk = h.disk.prepared path := by
  obtain ⟨t, ht, rfl⟩ := Config.exists_serves hpath
  have hprepare := hopens.prepare_eq
  have hmissing := hopens.missing
  have hkept := hm.prepared
  generalize h.disk.prepared t.path = disk at hprepare hmissing hkept ⊢
  obtain ⟨archive, scratch, hdegraded, hopen⟩ := openStore_of_prepared ht hprepare
  have hreads : ∃ entries, t.reads disk = .ok (entries, false) ∧ m.Describes entries := by
    cases hkept with
    | nowhere hnone =>
      rw [Target.reads_of_unread (hmissing hnone), if_pos rfl]
      exact ⟨_, rfl, Shelf.describes_empty t.comparer⟩
    | file hread htakes hrestores hdescribes hfits =>
      obtain ⟨entries, hdecode, hcopies⟩ := hrestores t ht
      rw [Target.reads_of_read hread, hdecode]
      exact ⟨entries, rfl, hdescribes.copies hcopies⟩
  obtain ⟨entries, hreads, hdescribes⟩ := hreads
  rw [hreads] at hopen hdegraded
  refine ⟨_, _, hopen, ?_, rfl⟩
  exact ⟨serves_of_openStore hopen, rfl, rfl, hkeyring, hdegraded, hdescribes⟩

end Host

/-! ## Saving -/

namespace Session

variable {s : Session}

/-- A session with the shelf in memory can be saved if what is on the shelf can be written and the
disk takes the file. -/
theorem savable_iff (hdescribes : m.Describes s.store.entries)
    (hsound : s.store.archive.isDegraded = false) :
    s.Savable c path ↔ m.Encodable c.encoding ∧ s.host.disk.Takes path :=
  ⟨fun h => ⟨hdescribes.encodable_iff.mp h.encodable, h.takes⟩,
    fun h => ⟨hdescribes.encodable_iff.mpr h.1, hsound, h.2⟩⟩

/-- **After a save that succeeds the file keeps the shelf.** -/
theorem Savable.keptIn (h : s.Savable c path) (hs : s.store.Serves c)
    (hpath : c.filePath = some path) (hdescribes : m.Describes s.store.entries) :
    (s.save false).1 = .ok () ∧ m.KeptIn c path (s.save false).2.host.disk := by
  have hok := (save_eq_ok_iff hs hpath).mpr h
  obtain ⟨t, harchive, ht⟩ := hs.archive.eq_file hpath
  obtain rfl : path = t.path := Option.some.inj (hpath.symm.trans ht.path)
  obtain ⟨b, hread, ⟨entries, hdecode, hcopies⟩, -⟩ :=
    restores_of_save hs harchive (Prod.ext hok rfl)
  refine ⟨hok, .file hread (h.save hs hpath).takes (fun t' ht' => ?_) hdescribes
    (hdescribes.encodable_iff.mp h.encodable)⟩
  -- another archive of the configuration reads the same file alike
  have hsame := ht.reads_eq ht' (s.save false).2.host.disk
  have hread' : (s.save false).2.host.disk.read t'.path = .ok b := by
    rw [show t'.path = t.path from Option.some.inj (ht'.path.symm.trans ht.path)]
    exact hread
  rw [Target.reads_of_read hread, Target.reads_of_read hread', hdecode] at hsame
  exact ⟨entries, hsame, hcopies⟩

end Session

end Coffer
