import Coffer.Proofs.Opening
import Coffer.Proofs.Operations

/-!
# What a load makes of a file

A file is missing, empty, sound, cut short or not to be decrypted, and each case has its verdict
(`Target.Verdict`): which dictionary or which error a load gives, and whether the archive is
degraded from then on. The verdict depends on the file and on the configuration. What the archive
did before, the estimate and the buffers have no part in it, and there is exactly one
(`Target.Verdict.eq_reads`).

A rollback takes over what is loaded or, if the load fails, keeps what the store had
(`load_has_verdict`).
-/

namespace Coffer

namespace Target

/-- What is decoded of a message, with the faults as errors that tell the path. -/
def decoded (t : Target) (message : Bytes) : Except Error Dictionary :=
  (Dictionary.Format.decode t.encoding t.comparer message).mapError t.fault

/-- **The verdict on a file**: what a load gives, and whether it degrades the archive. -/
inductive Verdict (t : Target) (disk : Disk) : Except Error Dictionary → Bool → Prop
  /-- A file that is not there counts as empty. -/
  | missing (h : disk.read t.path = .error .notFound) :
    Verdict t disk (.ok (.empty t.comparer)) false
  /-- What cannot be read is no empty file. -/
  | unreadable {fault : DiskFault} (h : disk.read t.path = .error fault)
    (hfault : fault ≠ .notFound) : Verdict t disk (.error (.io fault)) false
  /-- An empty file is an empty dictionary, encrypted or not. -/
  | empty (h : disk.read t.path = .ok []) : Verdict t disk (.ok (.empty t.comparer)) false
  /-- A file that is not encrypted is decoded. -/
  | plain {b : Bytes} (h : disk.read t.path = .ok b) (hne : b ≠ []) (hcipher : t.cipher = none) :
    Verdict t disk (t.decoded b) false
  /-- An encrypted file has whole blocks. Otherwise the rest of the last one is missing. -/
  | ragged {b : Bytes} {cipher : Cipher} (h : disk.read t.path = .ok b)
    (hcipher : t.cipher = some cipher) (hragged : b.length % 16 ≠ 0) :
    Verdict t disk (.error (t.fault (.truncated b.length (16 - b.length % 16)))) false
  /-- The message whose ciphertext the file is, is decoded. -/
  | decrypted {b message : Bytes} {cipher : Cipher} (h : disk.read t.path = .ok b)
    (hcipher : t.cipher = some cipher) (hmessage : cipher.encrypt message = .ok b) :
    Verdict t disk (t.decoded message) false
  /-- A strict archive refuses a file that is no ciphertext under its key. -/
  | refused {b : Bytes} {cipher : Cipher} (h : disk.read t.path = .ok b) (hne : b ≠ [])
    (hcipher : t.cipher = some cipher) (hwhole : b.length % 16 = 0)
    (hmessage : ∀ message, cipher.encrypt message ≠ .ok b) (hstrict : t.strict = true) :
    Verdict t disk (.error (t.fault .undecryptable)) false
  /-- A lenient one counts it as empty, and is degraded. -/
  | degraded {b : Bytes} {cipher : Cipher} (h : disk.read t.path = .ok b) (hne : b ≠ [])
    (hcipher : t.cipher = some cipher) (hwhole : b.length % 16 = 0)
    (hmessage : ∀ message, cipher.encrypt message ≠ .ok b) (hstrict : t.strict = false) :
    Verdict t disk (.ok (.empty t.comparer)) true

variable {t : Target} {disk : Disk}

/-! ## Contents -/

theorem decodeContent_plain {b : Bytes} (hne : b ≠ []) (hcipher : t.cipher = none) :
    t.decodeContent b = (t.decoded b).map fun d => (d, false) := by
  have hempty : ¬b.isEmpty = true := by rwa [List.isEmpty_iff]
  simp only [decodeContent, if_neg hempty, hcipher, decoded]
  cases Dictionary.Format.decode t.encoding t.comparer b <;> rfl

/-- A content of parts of blocks is not empty and is never decrypted. -/
theorem decodeContent_ragged {b : Bytes} {cipher : Cipher} (hcipher : t.cipher = some cipher)
    (hragged : b.length % 16 ≠ 0) :
    t.decodeContent b = .error (t.fault (.truncated b.length (16 - b.length % 16))) := by
  have hempty : ¬b.isEmpty = true := by
    rw [List.isEmpty_iff]
    rintro rfl
    exact hragged rfl
  have hblocks : b.length % Cipher.blockSize ≠ 0 := hragged
  simp only [decodeContent, if_neg hempty, hcipher, if_pos hblocks]
  rfl

theorem decodeContent_decrypted {b message : Bytes} {cipher : Cipher}
    (hcipher : t.cipher = some cipher) (hmessage : cipher.encrypt message = .ok b) :
    t.decodeContent b = (t.decoded message).map fun d => (d, false) := by
  have hlength : b.length = 16 * (message.length / 16 + 1) := by
    rw [Cipher.length_of_encrypt hmessage, Cipher.encryptedLength_eq]
  have hempty : ¬b.isEmpty = true := by
    rw [List.isEmpty_iff, ← List.length_eq_zero_iff]
    omega
  have hwhole : ¬b.length % Cipher.blockSize ≠ 0 := by
    rw [Cipher.blockSize]
    omega
  have hopen : cipher.decryptInto b b.length = .ok message := by
    rw [Cipher.decryptInto_eq (Nat.le_refl _), Cipher.tryDecrypt_eq_ok_iff, hmessage]
  simp only [decodeContent, if_neg hempty, hcipher, if_neg hwhole, hopen, decoded]
  cases Dictionary.Format.decode t.encoding t.comparer message <;> rfl

/-- Whole blocks that are no ciphertext under the key are refused or counted as empty. -/
theorem decodeContent_undecryptable {b : Bytes} {cipher : Cipher} (hne : b ≠ [])
    (hcipher : t.cipher = some cipher) (hwhole : b.length % 16 = 0)
    (hmessage : ∀ message, cipher.encrypt message ≠ .ok b) :
    t.decodeContent b = if t.strict then .error (t.fault .undecryptable)
      else .ok (.empty t.comparer, true) := by
  have hempty : ¬b.isEmpty = true := by rwa [List.isEmpty_iff]
  have hblocks : ¬b.length % Cipher.blockSize ≠ 0 := not_not.mpr hwhole
  simp only [decodeContent, if_neg hempty, hcipher, if_neg hblocks]
  cases hopen : cipher.decryptInto b b.length with
  | ok message =>
    rw [Cipher.decryptInto_eq (Nat.le_refl _), Cipher.tryDecrypt_eq_ok_iff] at hopen
    exact absurd hopen (hmessage message)
  | error e => rfl

/-! ## Every load has its verdict -/

/-- What cannot be read gives an error, unless it is missing. -/
theorem reads_of_unread {fault : DiskFault} (h : disk.read t.path = .error fault) :
    t.reads disk = if fault = .notFound then .ok (.empty t.comparer, false)
      else .error (.io fault) := by
  unfold Disk.read at h
  unfold reads
  cases hstat : disk.stat t.path with
  | error fault' =>
    rw [hstat, error_bind] at h
    cases h
    cases fault <;> rfl
  | ok node =>
    rw [hstat, ok_bind] at h
    cases node with
    | folder =>
      cases h
      rfl
    | file content => cases h

/-- A content that is decoded gives what the decoder gives, and is no reason to degrade. -/
theorem map_fst_decoded (t : Target) (message : Bytes) :
    ((t.decoded message).map fun d => (d, false)).map (·.1) = t.decoded message
      ∧ degrades ((t.decoded message).map fun d => (d, false)) = false := by
  cases t.decoded message <;> exact ⟨rfl, rfl⟩

/-- **What is read has its verdict.** -/
theorem verdict_reads (t : Target) (disk : Disk) :
    t.Verdict disk ((t.reads disk).map (·.1)) (degrades (t.reads disk)) := by
  cases hread : disk.read t.path with
  | error fault =>
    rw [reads_of_unread hread]
    by_cases hfault : fault = .notFound
    · rw [if_pos hfault]
      exact .missing (hfault ▸ hread)
    · rw [if_neg hfault]
      exact .unreadable hread hfault
  | ok b =>
    rw [reads_of_read hread]
    by_cases hne : b = []
    · subst hne
      exact .empty hread
    · cases hcipher : t.cipher with
      | none =>
        obtain ⟨hresult, hdegraded⟩ := t.map_fst_decoded b
        rw [decodeContent_plain hne hcipher, hresult, hdegraded]
        exact .plain hread hne hcipher
      | some cipher =>
        by_cases hwhole : b.length % 16 = 0
        · by_cases hmessage : ∃ message, cipher.encrypt message = .ok b
          · obtain ⟨message, hmessage⟩ := hmessage
            obtain ⟨hresult, hdegraded⟩ := t.map_fst_decoded message
            rw [decodeContent_decrypted hcipher hmessage, hresult, hdegraded]
            exact .decrypted hread hcipher hmessage
          · have hnone := not_exists.mp hmessage
            rw [decodeContent_undecryptable hne hcipher hwhole hnone]
            cases hstrict : t.strict with
            | true => exact .refused hread hne hcipher hwhole hnone hstrict
            | false => exact .degraded hread hne hcipher hwhole hnone hstrict
        · rw [decodeContent_ragged hcipher hwhole]
          exact .ragged hread hcipher hwhole

/-- There is no other verdict. -/
theorem Verdict.eq_reads {result : Except Error Dictionary} {degraded : Bool}
    (h : t.Verdict disk result degraded) :
    (t.reads disk).map (·.1) = result ∧ degrades (t.reads disk) = degraded := by
  cases h with
  | missing hread =>
    rw [reads_of_unread hread]
    exact ⟨rfl, rfl⟩
  | unreadable hread hfault =>
    rw [reads_of_unread hread, if_neg hfault]
    exact ⟨rfl, rfl⟩
  | empty hread =>
    rw [reads_of_read hread]
    exact ⟨rfl, rfl⟩
  | plain hread hne hcipher =>
    rw [reads_of_read hread, decodeContent_plain hne hcipher]
    exact t.map_fst_decoded _
  | ragged hread hcipher hragged =>
    rw [reads_of_read hread, decodeContent_ragged hcipher hragged]
    exact ⟨rfl, rfl⟩
  | decrypted hread hcipher hmessage =>
    rw [reads_of_read hread, decodeContent_decrypted hcipher hmessage]
    exact t.map_fst_decoded _
  | refused hread hne hcipher hwhole hmessage hstrict =>
    rw [reads_of_read hread, decodeContent_undecryptable hne hcipher hwhole hmessage, hstrict]
    exact ⟨rfl, rfl⟩
  | degraded hread hne hcipher hwhole hmessage hstrict =>
    rw [reads_of_read hread, decodeContent_undecryptable hne hcipher hwhole hmessage, hstrict]
    exact ⟨rfl, rfl⟩

end Target

/-! ## With or without a file -/

/-- The verdict of an archive. Without a file it is always an empty dictionary. -/
def Archive.Verdict (a : Archive) (ignoreCase : Bool) (disk : Disk)
    (result : Except Error Dictionary) (degraded : Bool) : Prop :=
  match a with
  | .disabled => result = .ok (.empty (.ofIgnoreCase ignoreCase)) ∧ degraded = false
  | .file t => t.Verdict disk result degraded

/-- A load has the verdict and no other. -/
theorem Archive.verdict_iff {a : Archive} {ignoreCase : Bool} {disk : Disk}
    {result : Except Error Dictionary} {degraded : Bool} (estimate : Nat) (scratch : Scratch) :
    ((a.load false estimate ignoreCase disk scratch).1 = result
        ∧ (a.load false estimate ignoreCase disk scratch).2.1.isDegraded = degraded)
      ↔ a.Verdict ignoreCase disk result degraded := by
  cases a with
  | disabled => exact and_congr eq_comm eq_comm
  | file t =>
    show (t.load false estimate disk scratch).1 = result
      ∧ (t.load false estimate disk scratch).2.1.degraded = degraded ↔ t.Verdict disk result degraded
    rw [Target.load_fst, Target.degraded_load]
    constructor
    · rintro ⟨rfl, rfl⟩
      exact t.verdict_reads disk
    · exact Target.Verdict.eq_reads

namespace Session

variable {s : Session}

/-- What a rollback loads. -/
def reloaded (s : Session) : Except Error Dictionary × Archive × Scratch :=
  s.store.archive.load false ((s.store.path.map s.host.disk.fileLength).getD 0)
    s.store.config.ignoreCase s.host.disk s.host.scratch

/-- The session after a load, with the archive and the buffers that the load left. -/
def afterLoad (s : Session) (store : Store) : Session where
  store := { store with archive := s.reloaded.2.1 }
  host := { s.host with scratch := s.reloaded.2.2 }

/-- A rollback that fails leaves the store as it was but for its archive. -/
theorem rollback_of_error {e : Error} (h : s.reloaded.1 = .error e) :
    s.rollback = (.error e, s.afterLoad s.store) := by
  unfold reloaded at h
  simp only [rollback, h]
  rfl

/-- One that succeeds takes over what was loaded. -/
theorem rollback_of_ok {d : Dictionary} (h : s.reloaded.1 = .ok d) :
    s.rollback = (.ok (), s.afterLoad (s.store.adopt d
      ((s.store.path.map s.host.disk.fileLength).getD 0))) := by
  unfold reloaded at h
  simp only [rollback, h]
  rfl

end Session

/-- **A load gives a whole dictionary or an error, as the verdict says, and touches no file.** It
depends on nothing else: neither on the estimate and the buffers nor on what the archive did before.
A rollback takes over the dictionary, and after an error the store has the entries, the estimate and
the count of updates that it had. -/
theorem load_has_verdict :
    (∀ (a : Archive) (ignoreCase : Bool) (disk : Disk) (estimate : Nat) (scratch : Scratch)
        (result : Except Error Dictionary) (degraded : Bool),
      ((a.load false estimate ignoreCase disk scratch).1 = result
          ∧ (a.load false estimate ignoreCase disk scratch).2.1.isDegraded = degraded)
        ↔ a.Verdict ignoreCase disk result degraded)
    ∧ ∀ s : Session, ∃ result degraded,
        s.store.archive.Verdict s.store.config.ignoreCase s.host.disk result degraded
        ∧ s.rollback.1 = result.map (fun _ => ())
        ∧ s.rollback.2.store.archive.isDegraded = degraded
        ∧ s.rollback.2.host.disk = s.host.disk
        ∧ (∀ d, result = .ok d → s.rollback.2.store.entries = d)
        ∧ ∀ e, s.rollback.1 = .error e →
          s.rollback.2.store.entries = s.store.entries
            ∧ s.rollback.2.store.estimate = s.store.estimate
            ∧ s.rollback.2.store.updates = s.store.updates := by
  refine ⟨fun a ignoreCase disk estimate scratch result degraded =>
    Archive.verdict_iff estimate scratch, fun s => ?_⟩
  have hverdict : s.store.archive.Verdict s.store.config.ignoreCase s.host.disk s.reloaded.1
      s.reloaded.2.1.isDegraded := (Archive.verdict_iff _ s.host.scratch).mp ⟨rfl, rfl⟩
  refine ⟨_, _, hverdict, ?_⟩
  cases hloaded : s.reloaded.1 with
  | error e =>
    rw [Session.rollback_of_error hloaded]
    exact ⟨rfl, rfl, rfl, nofun, fun _ _ => ⟨rfl, rfl, rfl⟩⟩
  | ok d =>
    rw [Session.rollback_of_ok hloaded]
    exact ⟨rfl, rfl, rfl, fun _ h => Except.ok.inj h, nofun⟩

end Coffer
