import Coffer.Proofs.Reopening

/-!
# What a store finds when it is opened

What is loaded from a disk depends on the disk and on the configuration alone: neither on estimates
and buffers, nor on what the archive did before (`Target.reads`). So a store can be opened if the
folder of its file is there and the file can be read, and then has the entries of the file
(`Host.openStore_of_reads`). Both are so after any store of the configuration was opened
(`Host.reads_of_openStore`), for what is missing of the folder is made at that time.
-/

namespace Coffer

/-! ## Folders that were made -/

namespace Disk

variable {d d' : Disk} {here : Place}

/-- Names that stay in place are walked in every folder. -/
theorem walk_idle {names : List String} (hhere : d.node? here = some .folder)
    (hidle : ∀ name ∈ names, name = "" ∨ name = ".") : d.walk here names = .ok here := by
  induction names with
  | nil => rfl
  | cons name rest ih =>
    rw [List.forall_mem_cons] at hidle
    rw [walk, hhere]
    simp only [if_pos hidle.1]
    exact ih hidle.2

theorem isFolder_iff {names : List String} :
    d.isFolder names = true ↔ ∃ p, d.walk [] names = .ok p ∧ d.node? p = some .folder := by
  unfold isFolder
  cases d.walk [] names with
  | error f => simp
  | ok p => simp

theorem isFolder_of_makeFolder {names : List String} (h : d.makeFolder names = .ok d') :
    d'.isFolder names = true := by
  obtain ⟨p, hwalk, h⟩ := bind_eq_ok_iff.mp h
  split at h
  · cases h
  · next hnode =>
    cases h
    have houter : ¬p.isOuter := by
      intro h0
      simp [node?, h0] at hnode
    refine isFolder_iff.mpr ⟨p, walk_put (by simp [hnode]) hwalk, ?_⟩
    rw [node?_put d houter, if_pos rfl]

theorem isFolder_of_makeFolderBelow {makeAbove : Disk → Except DiskFault Unit × Disk}
    {names : List String} (h : d.makeFolderBelow makeAbove names = (.ok (), d')) :
    d'.isFolder names = true := by
  -- a folder that could not be made will do if it is there
  have hsettle {d : Disk} {fault : DiskFault}
      (h : (if d.isFolder names then (Except.ok (), d) else (Except.error fault, d))
        = (Except.ok (), d')) :
      d'.isFolder names = true := by
    split at h
    · next hthere =>
      cases h
      exact hthere
    · cases h
  unfold makeFolderBelow at h
  simp only at h
  split at h
  · next hmade =>
    cases h
    exact isFolder_of_makeFolder hmade
  · split at h
    · cases h
    · split at h
      · next hmade =>
        cases h
        exact isFolder_of_makeFolder hmade
      · exact hsettle h
  · exact hsettle h

/-- The names of a path that are written lead where the path leads, if that is a folder. -/
theorem isThere_of_isFolder {path : String} {names : List String}
    (hparts : Path.parts path = .ok names) (h : d.isFolder (Path.writtenNames path) = true) :
    d.isThere path = true := by
  obtain ⟨p, hwalk, hnode⟩ := isFolder_iff.mp h
  obtain ⟨-, -, -, hnames⟩ := Path.parts_eq_ok_iff.mp hparts
  have hsplit : names = Path.writtenNames path
      ++ ((Text.splitOn '/' path).reverse.takeWhile fun name => name = "").reverse := by
    rw [Path.writtenNames, ← List.reverse_append, List.takeWhile_append_dropWhile,
      List.reverse_reverse, hnames]
  have hidle : ∀ name ∈ ((Text.splitOn '/' path).reverse.takeWhile fun name => name = "").reverse,
      name = "" ∨ name = "." := by
    intro name hname
    have hempty := List.all_eq_true.mp List.all_takeWhile name (List.mem_reverse.mp hname)
    exact .inl (by simpa using hempty)
  have hlocate : d.locate path = .ok p := by
    rw [locate, hparts, ok_bind, hsplit, walk_append, hwalk, ok_bind, walk_idle hnode hidle]
  rw [isThere, stat, hlocate, ok_bind, hnode]

/-- A folder that was made is there. -/
theorem isThere_of_makeTree {path : String} (hne : path ≠ "")
    (h : d.makeTree path = (.ok (), d')) : d'.isThere path = true := by
  unfold makeTree at h
  split at h
  · rw [if_neg (by rwa [String.isEmpty_iff])] at h
    cases h
  · next hparts => exact isThere_of_isFolder hparts (isFolder_of_makeFolderBelow h)

end Disk

/-- After its archive was prepared the folder of a file is there. -/
theorem Archive.isThere_of_prepare {path : String} {disk disk' : Disk}
    (h : prepare path disk = (.ok (), disk')) (hne : Path.folder path ≠ "") :
    disk'.isThere (Path.folder path) = true := by
  unfold prepare at h
  split at h
  · next hthere =>
    cases h
    exact hthere
  · exact Disk.isThere_of_makeTree hne h

/-! ## Loading -/

namespace Target

variable {t t' : Target} {c : Config} {disk : Disk} {d : Dictionary}

/-- What the archive reads on a disk, and whether it is degraded by that. -/
def reads (t : Target) (disk : Disk) : Except Error (Dictionary × Bool) :=
  match disk.stat t.path with
  | .error .notFound => .ok (.empty t.comparer, false)
  | .error f => .error (.io f)
  | .ok .folder => .error (.io .isDirectory)
  | .ok (.file content) => t.decodeContent content

theorem reads_of_read {b : Bytes} (h : disk.read t.path = .ok b) :
    t.reads disk = t.decodeContent b := by
  obtain ⟨node, hstat, hfile⟩ := bind_eq_ok_iff.mp h
  unfold reads
  rw [hstat]
  cases node with
  | folder => cases hfile
  | file content =>
    cases hfile
    rfl

/-- Does what was read degrade the archive? -/
def degrades : Except Error (Dictionary × Bool) → Bool
  | .ok (_, degraded) => degraded
  | .error _ => false

theorem load_as_read (t : Target) (estimate : Nat) (disk : Disk) (scratch : Scratch) :
    (t.load false estimate disk scratch).1 = (t.reads disk).map (·.1)
      ∧ (t.load false estimate disk scratch).2.1.degraded = degrades (t.reads disk) := by
  unfold reads
  split
  · next hstat => simp only [load, hstat]; exact ⟨rfl, rfl⟩
  · next hne hstat => simp only [load, hstat]; exact ⟨rfl, rfl⟩
  · next hstat => simp only [load, hstat, Bool.false_eq_true, if_false]; exact ⟨rfl, rfl⟩
  · next content hstat =>
    have hread : disk.read t.path = .ok content := by
      rw [Disk.read, hstat]
      rfl
    obtain ⟨scratch', hload⟩ := load_of_read hread estimate scratch
    rw [hload]
    split <;> next hdecode => rw [hdecode]; exact ⟨rfl, rfl⟩

/-- **A load gives what is read.** -/
theorem load_fst (t : Target) (estimate : Nat) (disk : Disk) (scratch : Scratch) :
    (t.load false estimate disk scratch).1 = (t.reads disk).map (·.1) :=
  (t.load_as_read estimate disk scratch).1

/-- **A load degrades the archive as what is read does.** -/
theorem degraded_load (t : Target) (estimate : Nat) (disk : Disk) (scratch : Scratch) :
    (t.load false estimate disk scratch).2.1.degraded = degrades (t.reads disk) :=
  (t.load_as_read estimate disk scratch).2

/-- Archives of the same configuration read the same. -/
theorem Serves.reads_eq (h : t.Serves c) (h' : t'.Serves c) (disk : Disk) :
    t'.reads disk = t.reads disk := by
  have hpath : t'.path = t.path := Option.some.inj (h'.path.symm.trans h.path)
  have hcipher : t'.cipher = t.cipher := Except.ok.inj (h'.cipher.symm.trans h.cipher)
  have hcomparer := h'.comparer.trans h.comparer.symm
  have hencoding := h'.encoding.trans h.encoding.symm
  have hstrict := h'.strict.trans h.strict.symm
  simp only [reads, decodeContent, fault, hpath, hcipher, hcomparer, hencoding, hstrict]

/-- What is read is an orderly dictionary. -/
theorem orderly_of_reads {degraded : Bool} (h : t.reads disk = .ok (d, degraded)) :
    d.Orderly ∧ d.comparer = t.comparer := by
  have hload : (t.load false 0 disk {}).1 = .ok d := by
    rw [load_fst, h]
    rfl
  exact orderly_of_load (Prod.ext hload rfl)

end Target

/-! ## Opening -/

namespace Host

variable {c : Config} {h h' : Host} {t : Target} {d : Dictionary} {store : Store}

theorem openStore_of_unprepared {path : String} {disk : Disk} {fault : DiskFault}
    (hpath : c.filePath = some path)
    (hprepare : Archive.prepare path h.disk = (.error fault, disk)) :
    h.openStore c = (.error (.io fault), { h with disk }) := by
  simp only [openStore, Archive.ofConfig_of_filePath hpath, hprepare]

/-- Where the folder is there or was made, a store is opened as its file is read, with the length of
the file as its estimate. -/
theorem openStore_of_prepared {disk : Disk} (ht : t.Serves c)
    (hprepare : Archive.prepare t.path h.disk = (.ok (), disk)) :
    ∃ archive scratch, archive.isDegraded = Target.degrades (t.reads disk)
      ∧ h.openStore c =
        ((t.reads disk).map fun r =>
          { config := c, archive, entries := r.1, estimate := disk.fileLength t.path },
          { h with disk, scratch }) := by
  have hofConfig : Archive.ofConfig c h.disk = _ := Archive.ofConfig_of_filePath ht.path
  rw [hprepare] at hofConfig
  simp only [ht.cipher, Except.map] at hofConfig
  -- the archive that is opened is of the same configuration as the other
  have hserves : Target.Serves
      { path := t.path, comparer := c.comparer, encoding := c.encoding, cipher := t.cipher,
        strict := c.strict } c :=
    ⟨ht.path, rfl, rfl, ht.cipher, rfl, Nat.le_refl _⟩
  simp only [openStore, hofConfig, Archive.load, Archive.path, Archive.target?, Option.map_some,
    Option.getD_some]
  generalize Target.mk t.path c.comparer c.encoding t.cipher c.strict 0 0 false = fresh
    at hserves ⊢
  have hloaded := fresh.load_fst (disk.fileLength t.path) disk h.scratch
  have hdegraded := fresh.degraded_load (disk.fileLength t.path) disk h.scratch
  rw [ht.reads_eq hserves] at hloaded hdegraded
  generalize fresh.load false (disk.fileLength t.path) disk h.scratch = x at hloaded hdegraded
  obtain ⟨loaded, fresh', scratch⟩ := x
  refine ⟨.file fresh', scratch, hdegraded, ?_⟩
  simp only at hloaded
  subst hloaded
  cases t.reads disk <;> rfl

/-- A store whose folder is there is opened with what is read, and with the length of its file as
its estimate. -/
theorem openStore_eq_of_reads {degraded : Bool} (ht : t.Serves c)
    (hfolder : Path.folder t.path ≠ "" → h.disk.isThere (Path.folder t.path) = true)
    (hreads : t.reads h.disk = .ok (d, degraded)) :
    ∃ archive h', h.openStore c
      = (.ok { config := c, archive, entries := d, estimate := h.disk.fileLength t.path }, h') := by
  obtain ⟨archive, scratch, -, hopen⟩ :=
    openStore_of_prepared ht (Archive.prepare_of_isThere hfolder)
  rw [hreads] at hopen
  exact ⟨archive, _, hopen⟩

/-- **A store whose folder is there is opened with the entries that are read.** -/
theorem openStore_of_reads {degraded : Bool} (ht : t.Serves c)
    (hfolder : Path.folder t.path ≠ "" → h.disk.isThere (Path.folder t.path) = true)
    (hreads : t.reads h.disk = .ok (d, degraded)) :
    ∃ store h', h.openStore c = (.ok store, h') ∧ store.entries = d := by
  obtain ⟨_, h', hopen⟩ := openStore_eq_of_reads ht hfolder hreads
  exact ⟨_, h', hopen, rfl⟩

/-- **After a store was opened its folder is there, and its entries are those that are read.** -/
theorem reads_of_openStore (hopen : h.openStore c = (.ok store, h')) (ht : t.Serves c) :
    (Path.folder t.path ≠ "" → h'.disk.isThere (Path.folder t.path) = true)
      ∧ ∃ degraded, t.reads h'.disk = .ok (store.entries, degraded) := by
  cases hprepare : Archive.prepare t.path h.disk with
  | mk made disk =>
    cases made with
    | error f =>
      rw [openStore_of_unprepared ht.path hprepare] at hopen
      cases hopen
    | ok u =>
      obtain ⟨archive, scratch, -, heq⟩ := openStore_of_prepared ht hprepare
      rw [heq] at hopen
      cases hreads : t.reads disk with
      | error e =>
        rw [hreads] at hopen
        cases hopen
      | ok r =>
        rw [hreads] at hopen
        cases hopen
        exact ⟨Archive.isThere_of_prepare hprepare, r.2, hreads⟩

end Host

end Coffer
