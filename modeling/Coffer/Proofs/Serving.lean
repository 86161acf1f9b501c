import Coffer.Proofs.Saving

/-!
# The archive of a configuration

An archive *serves* a configuration if it is what the configuration asks for. Opening gives such an
archive (`serves_of_ofConfig`), and so do rendering, writing and loading: they change its two counters
and whether it is degraded, and the last snapshot written is one that was rendered.

A dictionary that such an archive loads is orderly and has the comparer of the configuration
(`Serves.load`).
-/

namespace Coffer

/-- The cipher of the whole file that the configuration asks for, if any. -/
def Config.fileCipher (c : Config) : Except Error (Option Cipher) :=
  match c.activePassphrase with
  | none => .ok none
  | some passphrase => (Cipher.ofPassphrase passphrase).map some

/-- The archive's file is the one that the configuration asks for. -/
structure Target.Serves (t : Target) (c : Config) : Prop where
  path : c.filePath = some t.path
  comparer : t.comparer = c.comparer
  encoding : t.encoding = c.encoding
  cipher : c.fileCipher = .ok t.cipher
  strict : t.strict = c.strict
  committed_le : t.committed ≤ t.rendered

/-- The archive is the one that the configuration asks for. -/
def Archive.Serves (a : Archive) (c : Config) : Prop :=
  match a with
  | .disabled => c.filePath = none
  | .file t => t.Serves c

/-! ## Opening -/

namespace Archive

variable {c : Config} {disk : Disk} {a : Archive}

theorem Serves.eq_file {path : String} (h : a.Serves c) (hpath : c.filePath = some path) :
    ∃ t, a = .file t ∧ t.Serves c := by
  cases a with
  | disabled =>
    rw [Serves, hpath] at h
    cases h
  | file t => exact ⟨t, rfl, h⟩

/-- Making the folder of a path unless it is there. -/
def prepare (path : String) (disk : Disk) : Except DiskFault Unit × Disk :=
  if disk.isThere (Path.folder path) then (.ok (), disk) else disk.makeTree (Path.folder path)

/-- Nothing is made of a folder that is there. The working directory has no path of its own, and
nothing is made for it either. -/
theorem prepare_of_isThere {path : String}
    (h : Path.folder path ≠ "" → disk.isThere (Path.folder path) = true) :
    prepare path disk = (.ok (), disk) := by
  unfold prepare
  by_cases hempty : Path.folder path = ""
  · rw [hempty]
    rfl
  · rw [if_pos (h hempty)]

/-- A file's archive needs the folder and the cipher. -/
theorem ofConfig_of_filePath {path : String} (h : c.filePath = some path) :
    ofConfig c disk =
      match prepare path disk with
      | (.error f, disk) => (.error (.io f), disk)
      | (.ok (), disk) =>
        (c.fileCipher.map fun cipher => .file
          { path, comparer := c.comparer, encoding := c.encoding, cipher, strict := c.strict },
          disk) := by
  have hprepare : (if disk.isThere (Path.folder path) then (.ok (), disk)
      else disk.makeTree (Path.folder path)) = prepare path disk := rfl
  simp only [ofConfig, h, hprepare]
  cases prepare path disk with
  | mk made disk =>
    cases made with
    | error f => rfl
    | ok u =>
      unfold Config.fileCipher
      cases c.activePassphrase with
      | none => rfl
      | some passphrase =>
        simp only
        cases Cipher.ofPassphrase passphrase <;> rfl

theorem serves_of_ofConfig {disk' : Disk} (h : ofConfig c disk = (.ok a, disk')) :
    a.Serves c := by
  cases hpath : c.filePath with
  | none =>
    simp only [ofConfig, hpath] at h
    cases h
    exact hpath
  | some path =>
    rw [ofConfig_of_filePath hpath] at h
    split at h
    · cases h
    · obtain ⟨hok, -⟩ := Prod.mk.inj h
      obtain ⟨cipher, hcipher, rfl⟩ := map_eq_ok_iff.mp hok
      exact ⟨hpath, rfl, rfl, hcipher, rfl, Nat.le_refl _⟩

/-- Where the folder is there, opening gives an archive that has neither rendered nor written. -/
theorem ofConfig_of_serves {t : Target} (h : t.Serves c)
    (hfolder : Path.folder t.path ≠ "" → disk.isThere (Path.folder t.path)) :
    ofConfig c disk
      = (.ok (.file { t with rendered := 0, committed := 0, degraded := false }), disk) := by
  rw [ofConfig_of_filePath h.path, prepare_of_isThere hfolder]
  simp only [h.cipher, ← h.comparer, ← h.encoding, ← h.strict]
  rfl

end Archive

/-! ## Rendering and writing -/

namespace Target

variable {t : Target} {c : Config}

@[simp] theorem target_render (t : Target) (order : Arrangement) (d : Dictionary) (estimate : Nat)
    (scratch : Scratch) :
    (t.render order d estimate scratch).2.1 = { t with rendered := t.rendered + 1 } := by
  unfold render
  simp only
  split <;> rfl

/-- A snapshot bears the number that was counted for it. -/
theorem render_eq_ok {order : Arrangement} {d : Dictionary} {estimate : Nat}
    {scratch scratch' : Scratch} {t' : Target} {s : Snapshot}
    (h : t.render order d estimate scratch = (.ok s, t', scratch')) :
    s.number = t.rendered + 1 ∧ t' = { t with rendered := t.rendered + 1 }
      ∧ { t with rendered := t.rendered + 1 }.content order d estimate scratch
        = .ok (s.bytes, scratch') := by
  unfold render at h
  simp only at h
  split at h
  · next hcontent =>
    cases h
    exact ⟨rfl, rfl, hcontent⟩
  · cases h

theorem target_load (t : Target) (cancelled : Bool) (estimate : Nat) (disk : Disk)
    (scratch : Scratch) :
    ∃ degraded, (t.load cancelled estimate disk scratch).2.1 = { t with degraded } := by
  unfold load
  simp only
  split
  · exact ⟨false, rfl⟩
  · exact ⟨false, rfl⟩
  · split
    · exact ⟨false, rfl⟩
    · split
      · exact ⟨false, rfl⟩
      · split
        · next degraded _ => exact ⟨degraded, rfl⟩
        · exact ⟨false, rfl⟩

theorem Serves.counted (h : t.Serves c) : { t with rendered := t.rendered + 1 }.Serves c :=
  { h with committed_le := Nat.le_succ_of_le h.committed_le }

theorem Serves.landed (h : t.Serves c) {number : Nat} (hle : number ≤ t.rendered) :
    { t with committed := number }.Serves c :=
  { h with committed_le := hle }

theorem Serves.load (h : t.Serves c) (cancelled : Bool) (estimate : Nat) (disk : Disk)
    (scratch : Scratch) : (t.load cancelled estimate disk scratch).2.1.Serves c := by
  obtain ⟨degraded, heq⟩ := target_load t cancelled estimate disk scratch
  exact heq.symm ▸ { h with }

/-! ## Loading -/

/-- Whatever a content is, what is decoded from it is an orderly dictionary. -/
theorem orderly_of_decodeContent {b : Bytes} {d : Dictionary} {degraded : Bool}
    (h : t.decodeContent b = .ok (d, degraded)) : d.Orderly ∧ d.comparer = t.comparer := by
  -- what an empty file gives, and one that a lenient archive cannot decrypt
  have hempty : (Dictionary.empty t.comparer).Orderly
      ∧ (Dictionary.empty t.comparer).comparer = t.comparer := ⟨.empty _, rfl⟩
  unfold decodeContent at h
  simp only at h
  split at h
  · cases h
    exact hempty
  · split at h
    · split at h
      · next hd =>
        cases h
        exact Dictionary.Format.orderly_of_decode hd
      · cases h
    · split at h
      · cases h
      · split at h
        · split at h
          · next hd =>
            cases h
            exact Dictionary.Format.orderly_of_decode hd
          · cases h
        · split at h
          · cases h
          · cases h
            exact hempty

theorem orderly_of_load {cancelled : Bool} {estimate : Nat} {disk : Disk}
    {scratch scratch' : Scratch} {t' : Target} {d : Dictionary}
    (h : t.load cancelled estimate disk scratch = (.ok d, t', scratch')) :
    d.Orderly ∧ d.comparer = t.comparer := by
  unfold load at h
  simp only at h
  split at h
  · cases h
    exact ⟨.empty _, rfl⟩
  · cases h
  · split at h
    · cases h
    · split at h
      · cases h
      · split at h
        · next hdecode =>
          cases h
          exact orderly_of_decodeContent hdecode
        · cases h

end Target

/-- An archive of the configuration loads orderly dictionaries with its comparer. -/
theorem Archive.Serves.load {a : Archive} {c : Config} (h : a.Serves c) (cancelled : Bool)
    (estimate : Nat) (disk : Disk) (scratch : Scratch) :
    (a.load cancelled estimate c.ignoreCase disk scratch).2.1.Serves c
      ∧ ∀ d, (a.load cancelled estimate c.ignoreCase disk scratch).1 = .ok d →
        d.Orderly ∧ d.comparer = c.comparer := by
  cases a with
  | disabled =>
    refine ⟨h, ?_⟩
    rintro d hd
    cases hd
    exact ⟨.empty _, rfl⟩
  | file t =>
    refine ⟨Target.Serves.load h cancelled estimate disk scratch, ?_⟩
    rintro d hd
    have hd' := Target.orderly_of_load (t := t) (Prod.ext hd rfl)
    exact ⟨hd'.1, hd'.2.trans (Target.Serves.comparer h)⟩

end Coffer
