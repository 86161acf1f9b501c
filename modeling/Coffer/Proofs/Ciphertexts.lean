import Mathlib.Data.FinEnum
import Mathlib.Data.Finite.Prod
import Mathlib.Order.Bounds.Basic
import Coffer.Proofs.Sealing

/-!
# Which byte strings are ciphertexts

A cipher that has its key decrypts exactly what it encrypts: a byte string is accepted as the
ciphertext of a message if and only if it is what the message is encrypted to
(`tryDecrypt_eq_ok_iff`). So every message has one ciphertext, and no two messages share one.

`Sealing` takes a message to its ciphertext and back. Here are the steps the other way round. A
block that was deciphered is enciphered to what it was, because there are only finitely many blocks
and enciphering confuses no two of them (`encipher_decipher`). A chain follows block by block from
the one before, and what a filling was taken off is filled up again to what it was
(`pad_of_unpad?`).
-/

namespace Coffer.Cipher

/-! ## Blocks -/

instance : Finite Column :=
  .of_injective (fun x => (x.a, x.b, x.c, x.d)) fun x y h => by
    obtain ⟨a, b, c, d⟩ := x
    simp only [Prod.mk.injEq] at h
    obtain ⟨rfl, rfl, rfl, rfl⟩ := h
    rfl

instance : Finite Block :=
  .of_injective (fun x => (x.p, x.q, x.r, x.s)) fun x y h => by
    obtain ⟨p, q, r, s⟩ := x
    simp only [Prod.mk.injEq] at h
    obtain ⟨rfl, rfl, rfl, rfl⟩ := h
    rfl

/-- **Enciphering undoes deciphering**, under any round keys. -/
theorem Aes.encipher_decipher (keys : List Block) (y : Block) :
    encipher keys (decipher keys y) = y := by
  -- what can be deciphered is injective, and on finitely many blocks that makes it surjective
  have hinjective : Function.Injective (encipher keys) :=
    Function.LeftInverse.injective (decipher_encipher keys)
  obtain ⟨x, rfl⟩ := Finite.surjective_of_injective hinjective y
  rw [decipher_encipher]

/-! ## The filling -/

theorem unpad?_eq_some {b message : Bytes} (h : unpad? b = some message) :
    ∃ n, 1 ≤ n ∧ n ≤ 16 ∧ n ≤ b.length ∧ message = b.take (b.length - n)
      ∧ b.drop (b.length - n) = List.replicate n (UInt8.ofNat n) := by
  unfold unpad? at h
  split at h
  · cases h
  · next last _ =>
    simp only at h
    split at h
    · next hfilling =>
      obtain ⟨hpos, hle, hroom, hdrop⟩ := hfilling
      cases h
      exact ⟨last.toNat, hpos, hle, hroom, rfl, by rw [hdrop, UInt8.ofNat_toNat]⟩
    · cases h

/-- Whole blocks without their filling are filled up to what they were. -/
theorem pad_of_unpad? {count : Nat} {b message : Bytes} (hlength : b.length = 16 * count)
    (h : unpad? b = some message) : pad message = b := by
  obtain ⟨n, hpos, hle, hroom, rfl, hdrop⟩ := unpad?_eq_some h
  -- the message ends where its filling starts, and the filling reaches to the end of its block
  have hmissing : 16 - (b.take (b.length - n)).length % 16 = n := by
    rw [List.length_take]
    omega
  have hfilling : filling (b.take (b.length - n)).length = b.drop (b.length - n) := by
    rw [hdrop]
    simp only [filling, blockSize, hmissing]
  rw [pad, hfilling, List.take_append_drop]

/-! ## The chain -/

theorem encipherChain_decipherChain (keys : List Block) (before : Block) (ys : List Block) :
    encipherChain keys before (decipherChain keys before ys) = ys := by
  induction ys generalizing before with
  | nil => rfl
  | cons y ys ih =>
    rw [decipherChain, encipherChain, Block.xor_cancel, Aes.encipher_decipher, ih]

/-! ## Messages -/

/-- **Whole blocks that are decrypted to a message are its ciphertext.** -/
theorem encryptBytes_of_decryptBytes? {count : Nat} {key sealed message : Bytes}
    (hlength : sealed.length = 16 * count) (h : decryptBytes? key sealed = some message) :
    encryptBytes key message = sealed := by
  have hpad : pad message = Block.join (decipherChain (Aes.roundKeys key) chainStart
      (Block.split sealed)) :=
    pad_of_unpad? (Block.length_join _) h
  rw [encryptBytes, hpad, Block.split_join, encipherChain_decipherChain, Block.join_split hlength]

/-! ## Ciphers -/

variable {c : Cipher} {message sealed : Bytes} {room : Nat}

theorem checkLength_eq_ok_iff :
    checkLength sealed = .ok () ↔ 0 < sealed.length ∧ sealed.length % 16 = 0 := by
  unfold checkLength blockSize
  split
  · next h => simp only [reduceCtorEq, false_iff]; omega
  · next h => simp only [true_iff]; omega

theorem open?_eq_ok_iff :
    c.open? sealed = .ok message
      ↔ ∃ key, c.key = some key ∧ decryptBytes? key sealed = some message := by
  unfold open? activeKey
  cases c.key with
  | none => simp
  | some key =>
    simp only [ok_bind, Option.some.injEq, exists_eq_left']
    cases decryptBytes? key sealed <;> simp

/-- **What a cipher decrypts to a message is what it encrypts the message to.** -/
theorem tryDecrypt_eq_ok_iff : c.tryDecrypt sealed = .ok message ↔ c.encrypt message = .ok sealed := by
  rw [encrypt_eq_ok_iff]
  constructor
  · intro h
    obtain ⟨_, hcheck, hopen⟩ := bind_eq_ok_iff.mp h
    obtain ⟨hpos, hwhole⟩ := checkLength_eq_ok_iff.mp hcheck
    obtain ⟨key, hkey, hmessage⟩ := open?_eq_ok_iff.mp hopen
    have hlength : sealed.length = 16 * (sealed.length / 16) := by omega
    exact ⟨key, hkey, (encryptBytes_of_decryptBytes? hlength hmessage).symm⟩
  · rintro ⟨key, hkey, rfl⟩
    have hlength := length_encryptBytes key message
    rw [encryptedLength_eq] at hlength
    have hcheck : checkLength (encryptBytes key message) = .ok () :=
      checkLength_eq_ok_iff.mpr (by omega)
    rw [tryDecrypt, hcheck, ok_bind, open?_eq_ok_iff]
    exact ⟨key, hkey, decryptBytes?_encryptBytes key message⟩

theorem length_of_encrypt (h : c.encrypt message = .ok sealed) :
    sealed.length = encryptedLength message.length := by
  obtain ⟨key, -, rfl⟩ := encrypt_eq_ok_iff.mp h
  exact length_encryptBytes key message

/-- A message is no longer than its ciphertext. -/
theorem length_le_of_tryDecrypt (h : c.tryDecrypt sealed = .ok message) :
    message.length ≤ sealed.length := by
  rw [length_of_encrypt (tryDecrypt_eq_ok_iff.mp h), encryptedLength_eq]
  omega

/-! ## Destinations -/

/-- A destination that has room for the ciphertext gets what the message is encrypted to. -/
theorem encryptInto_eq (h : encryptedLength message.length ≤ room) :
    c.encryptInto message room = c.encrypt message := by
  rw [encryptInto, if_neg (Nat.not_lt.mpr h)]

theorem encryptInto_of_lt (h : room < encryptedLength message.length) :
    c.encryptInto message room = .error (.outOfRange (encryptedLength message.length) room) := by
  rw [encryptInto, if_pos h]

/-- Decrypting into a destination with room for the ciphertext is decrypting. -/
theorem decryptInto_eq (h : sealed.length ≤ room) :
    c.decryptInto sealed room = c.tryDecrypt sealed := by
  unfold decryptInto tryDecrypt
  rw [if_neg (Nat.not_lt.mpr h)]

/-- A smaller destination is refused, unless the ciphertext is refused before. -/
theorem decryptInto_of_lt (h : room < sealed.length) :
    c.decryptInto sealed room = .error (.outOfRange sealed.length room)
      ∨ c.decryptInto sealed room = .error (.decryption (.raggedLength sealed.length)) := by
  unfold decryptInto
  rw [if_pos h, checkLength]
  split
  · exact .inr rfl
  · exact .inl rfl

/-! ## Lengths -/

/-- The length of a ciphertext is the first multiple of the block size above that of the message. -/
theorem isLeast_encryptedLength (n : Nat) :
    IsLeast {m | blockSize ∣ m ∧ n < m} (encryptedLength n) := by
  rw [encryptedLength_eq]
  refine ⟨⟨⟨n / 16 + 1, rfl⟩, by omega⟩, ?_⟩
  rintro m ⟨⟨k, rfl⟩, hlt⟩
  simp only [blockSize] at hlt ⊢
  omega

/-- As a number of 64 bits it is the same, for every length that leaves room for one more block. -/
theorem toNat_encryptedSize_length (h : message.length + blockSize < Bytes.bound 8) :
    (encryptedSize (UInt64.ofNat message.length)).toNat = encryptedLength message.length := by
  have hbits : (UInt64.ofNat message.length).toNat = message.length := by
    rw [UInt64.toNat_ofNat']
    exact Nat.mod_eq_of_lt (Nat.lt_of_le_of_lt (Nat.le_add_right _ blockSize) h)
  rw [toNat_encryptedSize (hbits.symm ▸ h), hbits]

/-! ## The correspondence -/

/-- Messages and ciphertexts correspond one to one under the cipher. -/
structure Corresponds (c : Cipher) : Prop where
  /-- Each message has a ciphertext, and its length is told by that of the message. -/
  encrypts : ∀ message, ∃ sealed,
    c.encrypt message = .ok sealed ∧ sealed.length = encryptedLength message.length
  /-- What is decrypted to a message is what the message is encrypted to, and nothing else. -/
  tryDecrypt_iff : ∀ message sealed,
    c.tryDecrypt sealed = .ok message ↔ c.encrypt message = .ok sealed
  /-- A destination makes no difference as long as it has room for the ciphertext. -/
  encryptInto : ∀ message room, encryptedLength message.length ≤ room →
    c.encryptInto message room = c.encrypt message
  decryptInto : ∀ (sealed : Bytes) room, sealed.length ≤ room →
    c.decryptInto sealed room = c.tryDecrypt sealed
  /-- A smaller destination is refused. -/
  encryptInto_refuses : ∀ message room, room < encryptedLength message.length →
    ∃ e, c.encryptInto message room = .error e
  decryptInto_refuses : ∀ (sealed : Bytes) room, room < sealed.length →
    ∃ e, c.decryptInto sealed room = .error e

/-- **A passphrase puts messages and ciphertexts into a correspondence.** A ciphertext is as long as
the first multiple of the block size above its message, also as a number of 64 bits. -/
theorem exists_corresponds {passphrase : String} (h : passphrase ≠ "") :
    (∃ c, ofPassphrase passphrase = .ok c ∧ c.isReleased = false ∧ c.Corresponds)
      ∧ (∀ n, IsLeast {m | blockSize ∣ m ∧ n < m} (encryptedLength n))
      ∧ ∀ message : Bytes, message.length + blockSize < Bytes.bound 8 →
        (encryptedSize (UInt64.ofNat message.length)).toNat = encryptedLength message.length := by
  refine ⟨?_, isLeast_encryptedLength, fun _ => toNat_encryptedSize_length⟩
  have hnonempty : ¬passphrase.isEmpty = true := by rwa [String.isEmpty_iff]
  refine ⟨_, if_neg hnonempty, rfl, ?_⟩
  exact {
    encrypts := fun message =>
      ⟨_, encrypt_eq_ok_iff.mpr ⟨_, rfl, rfl⟩, length_encryptBytes _ message⟩
    tryDecrypt_iff := fun _ _ => tryDecrypt_eq_ok_iff
    encryptInto := fun _ _ => encryptInto_eq
    decryptInto := fun _ _ => decryptInto_eq
    encryptInto_refuses := fun _ _ h => ⟨_, encryptInto_of_lt h⟩
    decryptInto_refuses := fun _ _ h => (decryptInto_of_lt h).elim (⟨_, ·⟩) (⟨_, ·⟩) }

/-- A message that fills its block gets a second one, and its ciphertext needs room for both. -/
theorem exists_corresponds_fullBlock :
    "correct horse" ≠ "" ∧ ∃ c sealed, ofPassphrase "correct horse" = .ok c
      ∧ c.encrypt (List.replicate 16 7) = .ok sealed ∧ sealed.length = 32
      ∧ c.tryDecrypt sealed = .ok (List.replicate 16 7)
      ∧ c.decryptInto sealed 32 = .ok (List.replicate 16 7)
      ∧ ∃ e, c.decryptInto sealed 31 = .error e := by
  have hne : "correct horse" ≠ "" := by decide
  obtain ⟨⟨c, hc, -, hcorresponds⟩, -, -⟩ := exists_corresponds hne
  obtain ⟨sealed, hsealed, hlength⟩ := hcorresponds.encrypts (List.replicate 16 7)
  have hlength : sealed.length = 32 := hlength
  have hopen := (hcorresponds.tryDecrypt_iff _ _).mpr hsealed
  refine ⟨hne, c, sealed, hc, hsealed, hlength, hopen, ?_, ?_⟩
  · rw [hcorresponds.decryptInto sealed 32 (by omega), hopen]
  · exact hcorresponds.decryptInto_refuses sealed 31 (by omega)

end Coffer.Cipher
