import Mathlib.Data.List.GetD
import Coffer.Proofs.Operations

/-!
# What values are read and stored as

A keyring remembers ciphers to spare their making. As long as nobody releases one, it hands out what
would have been made (`Keyring.Sound`), and so it makes no difference which passphrases were asked
for before: a value that is read is told by the entry and the passphrase alone (`Entry.reveal`), and
so is the form in which a value is stored (`sealedUnder`).

Reading into a rented buffer gives the same bytes (`getBuffered_agrees`), whatever lies in the pools
and whoever released which cipher, unless more is asked for than a number of 64 bits can say. What
was asked for besides is left as room in the buffer.
-/

namespace Coffer

/-! ## Keyrings -/

namespace Keyring

/-- The keyring that remembers the cipher for one more passphrase. -/
def remember (r : Keyring) (passphrase : String) (c : Cipher) : Keyring :=
  { ciphers := r.ciphers ++ [c], remembered := r.remembered ++ [(passphrase, r.ciphers.length)] }

/-- What is remembered are numbers of ciphers that were made, released or not. Every keyring that a
program can have is linked: it is so when it is empty, and asking, releasing and clearing keep it
so. -/
def Linked (r : Keyring) : Prop :=
  ∀ passphrase n, r.number? passphrase = some n → n < r.ciphers.length

/-- The ciphers that are remembered are those of their passphrases: none was released. -/
def Sound (r : Keyring) : Prop :=
  ∀ passphrase n, r.number? passphrase = some n → Cipher.ofPassphrase passphrase = .ok (r.cipher n)

variable {r : Keyring} {passphrase : String} {c : Cipher}

/-! ### One more passphrase -/

theorem number?_remember (r : Keyring) (passphrase other : String) (c : Cipher) :
    (r.remember passphrase c).number? other
      = (r.number? other).or (if other = passphrase then some r.ciphers.length else none) := by
  rw [remember, number?, number?, List.lookup_append, List.lookup_cons, List.lookup_nil]
  by_cases heq : other = passphrase
  · simp [heq]
  · simp [heq, beq_eq_false_iff_ne.mpr heq]

theorem cipher_remember_self (r : Keyring) (passphrase : String) (c : Cipher) :
    (r.remember passphrase c).cipher r.ciphers.length = c := by
  rw [cipher, remember, List.getD_append_right _ _ _ _ (Nat.le_refl _), Nat.sub_self]
  rfl

theorem cipher_remember_of_lt {n : Nat} (h : n < r.ciphers.length) (passphrase : String)
    (c : Cipher) : (r.remember passphrase c).cipher n = r.cipher n :=
  List.getD_append _ _ _ _ h

/-- A request hands out what is remembered or else what is made. -/
theorem cipherFor_fst (r : Keyring) (passphrase : String) :
    (r.cipherFor passphrase).1 = match r.number? passphrase with
      | some n => .ok (r.cipher n)
      | none => Cipher.ofPassphrase passphrase := by
  unfold cipherFor get
  cases r.number? passphrase with
  | some n => rfl
  | none =>
    cases Cipher.ofPassphrase passphrase with
    | error e => rfl
    | ok c => exact congrArg Except.ok (cipher_remember_self r passphrase c)

/-- A request changes a keyring at most by making it remember what was made. -/
theorem cipherFor_snd (r : Keyring) (passphrase : String) :
    (r.cipherFor passphrase).2 = r ∨ ∃ c, r.number? passphrase = none
      ∧ Cipher.ofPassphrase passphrase = .ok c
      ∧ (r.cipherFor passphrase).2 = r.remember passphrase c := by
  unfold cipherFor get
  cases hn : r.number? passphrase with
  | some n => exact .inl rfl
  | none =>
    cases hc : Cipher.ofPassphrase passphrase with
    | error e => exact .inl rfl
    | ok c => exact .inr ⟨c, rfl, rfl, rfl⟩

/-! ### Linked keyrings -/

theorem linked_empty : Linked {} := nofun

/-- A keyring that has forgotten all is linked, whatever it remembered before. -/
theorem linked_clear (r : Keyring) : r.clear.Linked := nofun

theorem Linked.release (h : r.Linked) (n : Nat) : (r.release n).Linked := by
  intro passphrase m hm
  rw [Keyring.release, List.length_modify]
  exact h passphrase m hm

theorem Linked.remember (h : r.Linked) (passphrase : String) (c : Cipher) :
    (r.remember passphrase c).Linked := by
  intro other n hn
  rw [number?_remember, Option.or_eq_some_iff] at hn
  rw [Keyring.remember, List.length_append, List.length_singleton]
  rcases hn with hn | ⟨-, hn⟩
  · exact Nat.lt_succ_of_lt (h other n hn)
  · split at hn
    · cases hn
      exact Nat.lt_succ_self _
    · cases hn

theorem Linked.cipherFor (h : r.Linked) (passphrase : String) :
    (r.cipherFor passphrase).2.Linked := by
  rcases cipherFor_snd r passphrase with heq | ⟨c, -, -, heq⟩
  · rwa [heq]
  · rw [heq]
    exact h.remember passphrase c

/-- **Asking for one cipher makes no difference to those who ask for another.** -/
theorem Linked.cipherFor_cipherFor (h : r.Linked) (passphrase other : String) :
    ((r.cipherFor passphrase).2.cipherFor other).1 = (r.cipherFor other).1 := by
  rcases cipherFor_snd r passphrase with heq | ⟨c, hnone, hc, heq⟩
  · rw [heq]
  · rw [heq, cipherFor_fst, cipherFor_fst, number?_remember]
    cases hn : r.number? other with
    | some n =>
      rw [Option.some_or]
      exact congrArg Except.ok (cipher_remember_of_lt (h other n hn) passphrase c)
    | none =>
      rw [Option.none_or]
      by_cases hother : other = passphrase
      · rw [if_pos hother, hother, hc]
        exact congrArg Except.ok (cipher_remember_self r passphrase c)
      · rw [if_neg hother]

/-! ### Sound keyrings -/

theorem sound_empty : Sound {} := nofun

/-- A cipher that was just made has its key. -/
theorem Sound.linked (h : r.Sound) : r.Linked := by
  intro passphrase n hn
  by_contra hge
  have hkey := h passphrase n hn
  rw [cipher, List.getD_eq_default _ _ (Nat.le_of_not_lt hge), Cipher.ofPassphrase] at hkey
  split at hkey <;> cases hkey

/-- A keyring that remembers one more passphrase hands out the same ciphers as before. -/
theorem Sound.remember (h : r.Sound) (hc : Cipher.ofPassphrase passphrase = .ok c) :
    (r.remember passphrase c).Sound := by
  intro other n hn
  rw [number?_remember, Option.or_eq_some_iff] at hn
  rcases hn with hn | ⟨-, hn⟩
  · rw [h other n hn, cipher_remember_of_lt (h.linked other n hn)]
  · split at hn
    · next heq =>
      cases hn
      rw [heq, hc, cipher_remember_self]
    · cases hn

/-- **A sound keyring hands out the cipher of the passphrase**, and stays sound. -/
theorem cipherFor_of_sound (h : r.Sound) (passphrase : String) :
    (r.cipherFor passphrase).1 = Cipher.ofPassphrase passphrase
      ∧ (r.cipherFor passphrase).2.Sound := by
  refine ⟨?_, ?_⟩
  · rw [cipherFor_fst]
    cases hn : r.number? passphrase with
    | some n => exact (h passphrase n hn).symm
    | none => rfl
  · rcases cipherFor_snd r passphrase with heq | ⟨c, -, hc, heq⟩
    · rwa [heq]
    · rw [heq]
      exact h.remember hc

end Keyring

/-! ## Values -/

/-- What a value key reads in what is stored, by the ciphers of a keyring. -/
def Keyring.reveal (r : Keyring) (stored : Bytes) (valueKey : Option String) : Bytes :=
  match activeKey valueKey with
  | none => stored
  | some passphrase =>
    match (r.cipherFor passphrase).1 with
    | .ok cipher => cipher.decrypt stored
    | .error _ => []

/-- What a value key reads in an entry. -/
def Entry.reveal (e : Entry) (valueKey : Option String) : Bytes :=
  match activeKey valueKey with
  | none => e.bytes
  | some passphrase =>
    match Cipher.ofPassphrase passphrase with
    | .ok cipher => cipher.decrypt e.bytes
    | .error _ => []

/-- The form in which a value is stored under a value key. -/
def sealedUnder (value : Bytes) (valueKey : Option String) : Except Error Bytes :=
  match activeKey valueKey with
  | none => .ok value
  | some passphrase => (Cipher.ofPassphrase passphrase).bind fun cipher => cipher.encrypt value

namespace Session

variable {s : Session}

theorem cipherFor_of_sound (h : s.host.keyring.Sound) (passphrase : String) :
    (s.cipherFor passphrase).1 = Cipher.ofPassphrase passphrase
      ∧ (s.cipherFor passphrase).2.host.keyring.Sound :=
  Keyring.cipherFor_of_sound h passphrase

/-- What is read is told by the entry and by what the keyring hands out. -/
theorem get_fst (s : Session) (key : String) (valueKey : Option String) :
    (s.get key valueKey).1
      = (s.store.entries.get? key).map fun e => s.host.keyring.reveal e.bytes valueKey := by
  unfold get Keyring.reveal
  cases s.store.entries.get? key with
  | none => rfl
  | some e =>
    cases activeKey valueKey with
    | none => rfl
    | some passphrase =>
      have hcipher : (s.cipherFor passphrase).1 = (s.host.keyring.cipherFor passphrase).1 := rfl
      simp only [Option.map_some, ← hcipher]
      generalize s.cipherFor passphrase = x
      obtain ⟨e | cipher, s'⟩ := x <;> rfl

/-- Reading asks for one cipher at most. -/
theorem get_snd (s : Session) (key : String) (valueKey : Option String) :
    (s.get key valueKey).2 = s
      ∨ ∃ passphrase, (s.get key valueKey).2 = (s.cipherFor passphrase).2 := by
  unfold get
  split
  · exact .inl rfl
  · split
    · exact .inl rfl
    · next passphrase _ =>
      refine .inr ⟨passphrase, ?_⟩
      generalize s.cipherFor passphrase = x
      obtain ⟨e | cipher, s'⟩ := x <;> rfl

/-- Sealing a value asks for one cipher at most. -/
theorem sealValue_snd (s : Session) (value : Bytes) (valueKey : Option String) :
    (s.sealValue value valueKey).2 = s
      ∨ ∃ passphrase, (s.sealValue value valueKey).2 = (s.cipherFor passphrase).2 := by
  unfold sealValue
  split
  · exact .inl rfl
  · exact .inr ⟨_, rfl⟩

/-- **What is read depends on the entry and the value key alone.** -/
theorem get_of_sound (h : s.host.keyring.Sound) (key : String) (valueKey : Option String) :
    (s.get key valueKey).1 = (s.store.entries.get? key).map (·.reveal valueKey)
      ∧ (s.get key valueKey).2.host.keyring.Sound := by
  refine ⟨?_, ?_⟩
  · rw [get_fst]
    congr 1
    funext e
    rw [Entry.reveal, Keyring.reveal]
    split
    · rfl
    · next passphrase _ => rw [(Keyring.cipherFor_of_sound h passphrase).1]
  · rcases get_snd s key valueKey with heq | ⟨passphrase, heq⟩
    · rwa [heq]
    · rw [heq]
      exact (cipherFor_of_sound h passphrase).2

/-- **What is stored depends on the value and the value key alone.** -/
theorem sealValue_of_sound (h : s.host.keyring.Sound) (value : Bytes) (valueKey : Option String) :
    (s.sealValue value valueKey).1 = sealedUnder value valueKey
      ∧ (s.sealValue value valueKey).2.host.keyring.Sound := by
  unfold sealValue sealedUnder
  cases activeKey valueKey with
  | none => exact ⟨rfl, h⟩
  | some passphrase =>
    obtain ⟨hcipher, hsound⟩ := cipherFor_of_sound h passphrase
    exact ⟨congrArg (Except.bind · fun c => c.encrypt value) hcipher, hsound⟩

/-- What a plain read finds, a buffered one finds in a buffer with the room that was asked for, if a
number of 64 bits can say how much that is. -/
theorem exists_getBuffered {key : String} {e : Entry} (hget : s.store.entries.get? key = some e)
    (valueKey : Option String) {extra : UInt64}
    (hextra : e.bytes.length + extra.toNat < Bytes.bound 8) :
    ∃ buffer, (s.getBuffered key valueKey extra).1 = some buffer
      ∧ (s.get key valueKey).1 = some buffer.written ∧ extra.toNat ≤ buffer.room := by
  -- what is rented has room for the stored bytes and for what is asked for besides
  have hcapacity : (UInt64.ofNat e.bytes.length + extra).toNat = e.bytes.length + extra.toNat := by
    have hbits : Bytes.bound 8 = 18446744073709551616 := rfl
    rw [UInt64.toNat_add, UInt64.toNat_ofNat']
    omega
  have hstored : e.bytes.length ≤ e.bytes.length + extra.toNat := Nat.le_add_right _ _
  rw [get_fst, hget, getBuffered, hget]
  simp only [Option.map_some, hcapacity, Keyring.reveal]
  cases activeKey valueKey with
  | none =>
    obtain ⟨hwritten, hroom⟩ := Buffer.append_rent s.host.scratch.bytes
      (Buffer.rent s.host.scratch.bytes (e.bytes.length + extra.toNat)).2 hstored
    exact ⟨_, rfl, congrArg some hwritten.symm, Nat.le_of_add_le_add_left hroom⟩
  | some passphrase =>
    -- where there is no message, nothing is left in the buffer
    have hreset := Buffer.written_rent s.host.scratch.bytes (e.bytes.length + extra.toNat)
    have hroom := Buffer.room_rent s.host.scratch.bytes (e.bytes.length + extra.toNat)
    have hextra := Nat.le_trans (Nat.le_add_left extra.toNat e.bytes.length) hroom
    have hcipher : (s.cipherFor passphrase).1 = (s.host.keyring.cipherFor passphrase).1 := rfl
    simp only [← hcipher]
    cases (s.cipherFor passphrase).1 with
    | error f => exact ⟨_, rfl, congrArg some hreset.symm, hextra⟩
    | ok cipher =>
      simp only [ok_bind, Cipher.decryptInto_eq (Nat.le_trans hstored hroom), Cipher.decrypt]
      cases hopen : cipher.tryDecrypt e.bytes with
      | error f => exact ⟨_, rfl, congrArg some hreset.symm, hextra⟩
      | ok message =>
        have hmessage := Cipher.length_le_of_tryDecrypt hopen
        obtain ⟨buffer, hbuffer, hwritten, hleft⟩ :=
          Buffer.fill_rent s.host.scratch.bytes (Nat.le_trans hmessage hstored)
        simp only [ok_bind, hbuffer]
        exact ⟨buffer, rfl, congrArg some hwritten.symm, by omega⟩

/-- **A buffered read gives the same bytes**, if a number of 64 bits can say what is asked for. -/
theorem written_getBuffered (key : String) (valueKey : Option String) {extra : UInt64}
    (hextra : ∀ e, s.store.entries.get? key = some e →
      e.bytes.length + extra.toNat < Bytes.bound 8) :
    (s.getBuffered key valueKey extra).1.map (·.written) = (s.get key valueKey).1 := by
  cases hget : s.store.entries.get? key with
  | none => rw [get_fst, getBuffered, hget]; rfl
  | some e =>
    obtain ⟨buffer, hbuffer, hvalue, -⟩ := exists_getBuffered hget valueKey (hextra e hget)
    rw [hbuffer, hvalue]
    rfl

/-- **A buffered read agrees with a plain one.** It gives a buffer exactly when there is a value, the
buffer holds the value, and it has room for as many more bytes as were asked for. A value that its
key cannot decrypt is read as no bytes. -/
theorem getBuffered_agrees (s : Session) (key : String) (valueKey : Option String) (extra : UInt64)
    (hextra : ∀ e, s.store.entries.get? key = some e →
      e.bytes.length + extra.toNat < Bytes.bound 8) :
    (s.getBuffered key valueKey extra).1.map (·.written) = (s.get key valueKey).1
      ∧ (∀ buffer, (s.getBuffered key valueKey extra).1 = some buffer → extra.toNat ≤ buffer.room)
      ∧ ∀ e passphrase, s.store.entries.get? key = some e → activeKey valueKey = some passphrase →
        (∀ cipher message, (s.host.keyring.cipherFor passphrase).1 = .ok cipher →
          cipher.tryDecrypt e.bytes ≠ .ok message) →
        (s.getBuffered key valueKey extra).1.map (·.written) = some [] := by
  have hsame := written_getBuffered key valueKey hextra
  refine ⟨hsame, ?_, ?_⟩
  · intro buffer hbuffer
    cases hget : s.store.entries.get? key with
    | none =>
      rw [getBuffered, hget] at hbuffer
      cases hbuffer
    | some e =>
      obtain ⟨buffer', hbuffer', -, hroom⟩ := exists_getBuffered hget valueKey (hextra e hget)
      rw [hbuffer] at hbuffer'
      cases hbuffer'
      exact hroom
  · intro e passphrase hget hpassphrase hfails
    rw [hsame, get_fst, hget, Option.map_some, Keyring.reveal, hpassphrase]
    cases hcipher : (s.host.keyring.cipherFor passphrase).1 with
    | error f => simp only [hcipher]
    | ok cipher =>
      cases hopen : cipher.tryDecrypt e.bytes with
      | error f => simp only [hcipher, Cipher.decrypt, hopen]
      | ok message => exact absurd hopen (hfails cipher message hcipher)

/-- A session with one entry, whose value no passphrase decrypts, and with a storage full of old
bytes in its pool. -/
def smudged : Session where
  store := (Store.inMemory.merge { key := "a", value := [1, 2, 3] })
  host := { scratch := { bytes := { idle := [{ size := 512, cells := #[9, 9, 9, 9] }] } } }

/-- Nothing of the old bytes is read, with a passphrase or without. -/
theorem getBuffered_agrees_smudged :
    (∀ e, smudged.store.entries.get? "a" = some e →
        e.bytes.length + (400 : UInt64).toNat < Bytes.bound 8)
      ∧ (smudged.getBuffered "a" none 400).1.map (·.written) = some [1, 2, 3]
      ∧ (smudged.getBuffered "a" (some "p") 400).1.map (·.written) = some []
      ∧ ∀ buffer, (smudged.getBuffered "a" (some "p") 400).1 = some buffer
        → 400 ≤ buffer.room := by
  have hget : smudged.store.entries.get? "a" = some { key := "a", value := some [1, 2, 3] } := by
    decide +kernel
  have hextra : ∀ e, smudged.store.entries.get? "a" = some e →
      e.bytes.length + (400 : UInt64).toNat < Bytes.bound 8 := by
    intro e he
    rw [hget] at he
    cases he
    decide
  obtain ⟨hplain, -, -⟩ := getBuffered_agrees smudged "a" none 400 hextra
  obtain ⟨-, hroom, hsealed⟩ := getBuffered_agrees smudged "a" (some "p") 400 hextra
  refine ⟨hextra, ?_, ?_, hroom⟩
  · rw [hplain, get_fst, hget]
    rfl
  · refine hsealed _ "p" hget (by decide) fun cipher message _ hopen => ?_
    -- three bytes are no whole block
    have hlength := Cipher.checkLength_eq_ok_iff.mp (bind_eq_ok_iff.mp hopen).choose_spec.1
    exact absurd hlength.2 (by decide)

end Session

end Coffer
