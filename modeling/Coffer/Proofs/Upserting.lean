import Coffer.Proofs.Touching

/-!
# Reading what was written

A write is merged before it is saved, so a save that fails does not take it back. After a write the
key reads the value in every spelling, under the value key that it was written with, and every other
key reads what it read before, under any value key (`upsert_reads_back`).

What can keep a write from being merged is told before anything is done: the store is closed, or
somebody released the cipher of the value key. Then the session stays as it is, keyring included,
for a cipher that was released is one that the keyring remembers.
-/

namespace Coffer

/-! ## Ciphers that can be used -/

namespace Keyring

variable {r : Keyring} {valueKey : Option String} {passphrase : String} {c : Cipher}

/-- For a value key that counts the keyring has a cipher, which may have been released. -/
theorem exists_cipherFor (r : Keyring) (h : activeKey valueKey = some passphrase) :
    ∃ c, (r.cipherFor passphrase).1 = .ok c := by
  rw [cipherFor_fst]
  cases r.number? passphrase with
  | some n => exact ⟨r.cipher n, rfl⟩
  | none =>
    obtain ⟨key, hkey⟩ := Cipher.exists_ofPassphrase h
    exact ⟨_, hkey⟩

/-- A cipher that was released was made before, so asking for it makes no other. -/
theorem cipherFor_of_released (h : (r.cipherFor passphrase).1 = .ok c)
    (hreleased : c.isReleased = true) : (r.cipherFor passphrase).2 = r := by
  rcases cipherFor_snd r passphrase with heq | ⟨d, hnone, hd, -⟩
  · exact heq
  · have hfresh : Cipher.ofPassphrase passphrase = .ok c := by rwa [cipherFor_fst, hnone] at h
    unfold Cipher.ofPassphrase at hfresh
    split at hfresh
    · cases hfresh
    · cases hfresh
      cases hreleased

/-- With a cipher that the keyring has, what is read is what the cipher decrypts. -/
theorem reveal_of_cipherFor (hkey : activeKey valueKey = some passphrase)
    (h : (r.cipherFor passphrase).1 = .ok c) (stored : Bytes) :
    r.reveal stored valueKey = c.decrypt stored := by
  rw [reveal, hkey]
  simp only [h]

end Keyring

namespace Session

variable {s s' t : Session} {key : String} {value stored : Bytes} {valueKey : Option String}
  {c : Config}

/-- A value can be stored under the value key: there is none, or its cipher was not released. -/
def CanSeal (s : Session) (valueKey : Option String) : Prop :=
  ∀ passphrase cipher, activeKey valueKey = some passphrase →
    (s.host.keyring.cipherFor passphrase).1 = .ok cipher → cipher.isReleased = false

/-- Where no cipher was released, values can be stored under every value key. -/
theorem canSeal_of_sound (h : s.host.keyring.Sound) (valueKey : Option String) :
    s.CanSeal valueKey := by
  intro passphrase cipher hkey hcipher
  obtain ⟨key, hfresh⟩ := Cipher.exists_ofPassphrase hkey
  rw [(Keyring.cipherFor_of_sound h passphrase).1, hfresh] at hcipher
  cases hcipher
  rfl

/-- **What can be sealed is read back**, by whoever has the keyring that it was sealed with. -/
theorem exists_sealValue (hlinked : s.host.keyring.Linked) (h : s.CanSeal valueKey)
    (value : Bytes) :
    ∃ stored s', s.sealValue value valueKey = (.ok stored, s')
      ∧ s'.host.keyring.reveal stored valueKey = value := by
  unfold sealValue
  cases hkey : activeKey valueKey with
  | none =>
    refine ⟨value, s, rfl, ?_⟩
    rw [Keyring.reveal, hkey]
  | some passphrase =>
    obtain ⟨cipher, hcipher⟩ := s.host.keyring.exists_cipherFor hkey
    obtain ⟨bytes, hbytes⟩ : ∃ bytes, cipher.key = some bytes :=
      Option.isSome_iff_exists.mp (by simpa [Cipher.isReleased] using h passphrase cipher hkey hcipher)
    have hencrypt : cipher.encrypt value = .ok (Cipher.encryptBytes bytes value) :=
      Cipher.encrypt_eq_ok_iff.mpr ⟨bytes, hbytes, rfl⟩
    have hsame : ((s.cipherFor passphrase).2.host.keyring.cipherFor passphrase).1 = .ok cipher :=
      (hlinked.cipherFor_cipherFor passphrase passphrase).trans hcipher
    refine ⟨Cipher.encryptBytes bytes value, (s.cipherFor passphrase).2, ?_, ?_⟩
    · show ((s.host.keyring.cipherFor passphrase).1.bind _, _) = _
      rw [hcipher, ← hencrypt]
      rfl
    · rw [Keyring.reveal_of_cipherFor hkey hsame, Cipher.decrypt,
        Cipher.tryDecrypt_eq_ok_iff.mpr hencrypt]

/-- With a cipher that was released nothing can be sealed, and trying changes nothing. -/
theorem sealValue_of_not_canSeal (h : ¬s.CanSeal valueKey) (value : Bytes) :
    s.sealValue value valueKey = (.error .released, s) := by
  simp only [CanSeal, not_forall, Bool.not_eq_false] at h
  obtain ⟨passphrase, cipher, hkey, hcipher, hreleased⟩ := h
  have hkeyring := Keyring.cipherFor_of_released hcipher hreleased
  have hsame : (s.cipherFor passphrase).2 = s := by
    show { s with host := { s.host with keyring := (s.host.keyring.cipherFor passphrase).2 } } = s
    rw [hkeyring]
  have hrefused : cipher.encrypt value = .error .released := by
    have hnone : cipher.key = none := by simpa [Cipher.isReleased] using hreleased
    rw [Cipher.encrypt, Cipher.activeKey, hnone]
    rfl
  rw [sealValue, hkey]
  show ((s.host.keyring.cipherFor passphrase).1.bind _, (s.cipherFor passphrase).2) = _
  rw [hcipher, hsame, ← hrefused]
  rfl

/-! ## What a write does -/

section Sealed

variable (hidle : s.store.pending = []) (hopen : s.store.closed = false)
  (hsealed : s.sealValue value valueKey = (.ok stored, s'))

include hidle hopen hsealed

theorem upsert_of_sealed (key : String) :
    s.upsert key value valueKey
      = (s'.withStore ((s'.store.merge { key, value := stored }).announce
          { kind := .upsert, key, value := some value })).saveThen () id := by
  rw [upsert_of_idle hidle, if_neg (by simp [hopen]), hsealed]
  rfl

/-- A write is merged, whether it can be saved or not. -/
theorem memory_upsert (key : String) :
    (s.upsert key value valueKey).2.store.memory
      = (s.store.merge { key, value := stored }).memory := by
  have hstore : s'.store = s.store := by rw [← store_sealValue s value valueKey, hsealed]
  rw [upsert_of_sealed hidle hopen hsealed, ← hstore]
  exact (memory_saveThen (fun _ => rfl) _ ()).trans (Store.memory_announce _ _)

theorem keyring_upsert (key : String) :
    (s.upsert key value valueKey).2.host.keyring = s'.host.keyring := by
  rw [upsert_of_sealed hidle hopen hsealed]
  exact keyring_saveThen _ () id

theorem upsert_answer (key : String) :
    (s.upsert key value valueKey).1 = .ok () ∨ SaveFailed id (s.upsert key value valueKey) := by
  rw [upsert_of_sealed hidle hopen hsealed]
  exact saveThen_answer _ () id

end Sealed

/-- A write that cannot be sealed does nothing. -/
theorem upsert_of_not_canSeal (hopen : s.store.closed = false) (h : ¬s.CanSeal valueKey)
    (key : String) (value : Bytes) :
    s.upsert key value valueKey = (.error .released, s) := by
  rw [upsert, if_neg (by simp [hopen]), sealValue_of_not_canSeal h]

/-- What a write makes of a session. -/
structure Wrote (key : String) (value : Bytes) (valueKey : Option String) (s t : Session) : Prop where
  /-- The key reads the value, however it is spelled. -/
  read : ∀ spelling, s.store.comparer.normalize spelling = s.store.comparer.normalize key →
    (t.get spelling valueKey).1 = some value
  /-- All other keys are there or not and read what they read before. -/
  others : ∀ other, s.store.comparer.normalize other ≠ s.store.comparer.normalize key →
    t.store.entries.contains other = s.store.entries.contains other
      ∧ ∀ otherKey, (t.get other otherKey).1 = (s.get other otherKey).1
  /-- There is one entry more if the key was not there. -/
  size : t.store.entries.size
    = s.store.entries.size + if s.store.entries.contains key then 0 else 1
  /-- If it was there, the entry keeps its spelling. -/
  spelling : ∀ e, s.store.entries.get? key = some e →
    (t.store.entries.get? key).map (·.key) = some e.key

/-- The write that was sealed is the only change. -/
theorem wrote_of_sealed (hidle : s.store.pending = []) (hopen : s.store.closed = false)
    (hlinked : s.host.keyring.Linked)
    (hsealed : s.sealValue value valueKey = (.ok stored, s'))
    (hreveal : s'.host.keyring.reveal stored valueKey = value) (key : String) :
    s.Wrote key value valueKey (s.upsert key value valueKey).2 := by
  have htouches : Touches (· = key) s (s.upsert key value valueKey).2 :=
    touches_upsert hidle (by rfl) value valueKey
  have hentries : (s.upsert key value valueKey).2.store.entries
      = s.store.entries.insert key (some stored) :=
    (congrArg Store.entries (memory_upsert hidle hopen hsealed key) :)
  have hkeyring := keyring_upsert hidle hopen hsealed key
  generalize (s.upsert key value valueKey).2 = t at htouches hentries hkeyring
  refine ⟨?_, ?_, ?_, ?_⟩
  · intro spelling hspelling
    have hfound := (Dictionary.get?_insert s.store.entries key spelling (some stored)).trans
      (if_pos hspelling)
    rw [get_fst, hentries, hfound, hkeyring]
    exact congrArg some hreveal
  · intro other hother
    have hkey : ∀ touched, touched = key →
        s.store.comparer.normalize other ≠ s.store.comparer.normalize touched := by
      rintro touched rfl
      exact hother
    refine ⟨?_, htouches.get hlinked hkey⟩
    rw [Dictionary.contains, Dictionary.contains, htouches.get? hkey]
  · rw [hentries, Dictionary.contains]
    cases hget : s.store.entries.get? key with
    | some e => exact Dictionary.size_insert_of_get?_eq_some hget _
    | none =>
      rw [Dictionary.size, Dictionary.filed_insert_of_get?_eq_none hget, List.length_append]
      rfl
  · intro e hget
    rw [hentries, Dictionary.get?_insert, if_pos rfl, hget]
    rfl

/-- **Who writes reads his write, and nobody else reads it.** If the write is merged at all, then the
key reads the value and all others read what they read before, also if the error of a save is the
answer. If the store is closed or the value cannot be sealed, nothing is done. -/
theorem upsert_reads_back (hs : s.Opened c) (hlinked : s.host.keyring.Linked) (key : String)
    (value : Bytes) (valueKey : Option String) :
    (s.store.closed = false → s.CanSeal valueKey →
        s.Wrote key value valueKey (s.upsert key value valueKey).2
          ∧ ((s.upsert key value valueKey).1 = .ok ()
            ∨ SaveFailed id (s.upsert key value valueKey)))
      ∧ (s.store.closed = true → s.upsert key value valueKey = (.error .closed, s))
      ∧ (s.store.closed = false → ¬s.CanSeal valueKey →
        s.upsert key value valueKey = (.error .released, s)) := by
  refine ⟨?_, ?_, ?_⟩
  · intro hopen hseal
    obtain ⟨stored, s', hsealed, hreveal⟩ := exists_sealValue hlinked hseal value
    exact ⟨wrote_of_sealed hs.idle hopen hlinked hsealed hreveal key,
      upsert_answer hs.idle hopen hsealed key⟩
  · intro hclosed
    rw [upsert, if_pos hclosed]
  · intro hopen hseal
    exact upsert_of_not_canSeal hopen hseal key value

/-- Two entries in memory, where case does not count. -/
def lexicon : Session :=
  ((Host.session {} { ignoreCase := true }).upsert "Kelvin" [1] none).2.upsert "Joule" [2] none |>.2

theorem opened_lexicon : lexicon.Opened { ignoreCase := true } :=
  ((Host.opened_session (by decide)).trans (.upsert _ "Kelvin" [1] none)).trans
    (.upsert _ "Joule" [2] none)

theorem sound_lexicon : lexicon.host.keyring.Sound := by
  have hkeyring : lexicon.host.keyring = {} := by decide
  exact hkeyring ▸ Keyring.sound_empty

set_option maxRecDepth 8000 in
/-- With a passphrase the value is read back under each spelling, also under the sign that is a `k`
in lowercase. The other entry reads what it read, and there is no third. -/
theorem upsert_reads_back_lexicon :
    lexicon.Opened { ignoreCase := true } ∧ lexicon.host.keyring.Linked
      ∧ lexicon.store.closed = false ∧ lexicon.CanSeal (some "p")
      ∧ ((lexicon.upsert "KELVIN" [7, 8] (some "p")).2.get "\u212Aelvin" (some "p")).1
        = some [7, 8]
      ∧ ((lexicon.upsert "KELVIN" [7, 8] (some "p")).2.get "joule" none).1 = some [2]
      ∧ (lexicon.upsert "KELVIN" [7, 8] (some "p")).2.store.entries.size = 2
      ∧ ((lexicon.upsert "KELVIN" [7, 8] (some "p")).2.store.entries.get? "KELVIN").map (·.key)
        = some "Kelvin" := by
  have hopen : lexicon.store.closed = false := by decide
  have hseal := canSeal_of_sound sound_lexicon (some "p")
  obtain ⟨hwrote, -⟩ :=
    (upsert_reads_back opened_lexicon sound_lexicon.linked "KELVIN" [7, 8] (some "p")).1 hopen hseal
  have hother := (hwrote.others "joule" (by decide)).2 none
  refine ⟨opened_lexicon, sound_lexicon.linked, hopen, hseal, hwrote.read _ (by decide), ?_, ?_, ?_⟩
  · rw [hother]
    decide
  · rw [hwrote.size]
    decide
  · exact hwrote.spelling { key := "Kelvin", value := some [1] } (by decide)

end Session

end Coffer
