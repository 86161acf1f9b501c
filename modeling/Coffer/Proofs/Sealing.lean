import Coffer.Cipher.Basic
import Coffer.Proofs.Aes
import Coffer.Proofs.Steps

/-!
# What is sealed can be opened

Under one key decrypting takes a ciphertext back to its message. The three layers are undone one by
one: blocks that are joined are split again, a chain is deciphered from the block before, and the
filling tells its own length.
-/

namespace Coffer.Cipher

/-! ## Blocks -/

namespace Block

/-- Sixteen bytes are a block. -/
theorem exists_toBytes_eq {b : Bytes} (h : b.length = 16) : ∃ x : Block, x.toBytes = b := by
  match b, h with
  | [a, b, c, d, e, f, g, h, i, j, k, l, m, n, o, p], _ =>
    exact ⟨⟨⟨a, b, c, d⟩, ⟨e, f, g, h⟩, ⟨i, j, k, l⟩, ⟨m, n, o, p⟩⟩, rfl⟩

theorem split_toBytes_append (x : Block) (rest : Bytes) :
    split (x.toBytes ++ rest) = x :: split rest := rfl

/-- Whole blocks that are split are joined to what they were. -/
theorem join_split {count : Nat} {b : Bytes} (h : b.length = 16 * count) :
    join (split b) = b := by
  induction count generalizing b with
  | zero =>
    have hb : b = [] := List.length_eq_zero_iff.mp h
    subst hb
    rfl
  | succ count ih =>
    obtain ⟨x, hx⟩ := exists_toBytes_eq (b := b.take 16) (by rw [List.length_take]; omega)
    have hrest : (b.drop 16).length = 16 * count := by rw [List.length_drop]; omega
    have hb : x.toBytes ++ b.drop 16 = b := by rw [hx, List.take_append_drop]
    rw [← hb, split_toBytes_append, join, List.flatMap_cons, ← join, ih hrest]

theorem length_join (xs : List Block) : (join xs).length = 16 * xs.length := by
  induction xs with
  | nil => rfl
  | cons x xs ih =>
    rw [join, List.flatMap_cons, List.length_append, ← join, ih, length_toBytes, List.length_cons]
    omega

end Block

/-! ## The filling -/

theorem encryptedLength_eq (n : Nat) : encryptedLength n = 16 * (n / 16 + 1) :=
  Nat.mul_comm _ _

theorem length_pad (b : Bytes) : (pad b).length = 16 * (b.length / 16 + 1) := by
  simp only [pad, filling, blockSize, List.length_append, List.length_replicate]
  omega

/-- The filling is taken off again. -/
theorem unpad?_pad (b : Bytes) : unpad? (pad b) = some b := by
  -- the filling has between one and sixteen bytes, and each tells how many
  have hpos : 1 ≤ 16 - b.length % 16 := by omega
  have hle : 16 - b.length % 16 ≤ 16 := Nat.sub_le _ _
  generalize hn : 16 - b.length % 16 = n at hpos hle
  have hpad : pad b = b ++ List.replicate n (UInt8.ofNat n) := by rw [← hn]; rfl
  have hlast : (pad b).getLast? = some (UInt8.ofNat n) := by
    rw [hpad, List.getLast?_append, List.getLast?_replicate, if_neg (by omega)]
    rfl
  have hbyte : (UInt8.ofNat n).toNat = n := by
    rw [UInt8.toNat_ofNat']
    omega
  have hlength : (pad b).length - n = b.length := by
    rw [hpad, List.length_append, List.length_replicate, Nat.add_sub_cancel]
  have hdrop : (pad b).drop b.length = List.replicate n (UInt8.ofNat n) := by
    rw [hpad, List.drop_left]
  have htake : (pad b).take b.length = b := by rw [hpad, List.take_left]
  have hroom : n ≤ (pad b).length := by
    rw [hpad, List.length_append, List.length_replicate]
    omega
  unfold unpad?
  simp only [hlast, hbyte, hlength, hdrop, htake, blockSize]
  rw [if_pos ⟨hpos, hle, hroom, trivial⟩]

/-! ## The chain -/

theorem decipherChain_encipherChain (keys : List Block) (before : Block) (xs : List Block) :
    decipherChain keys before (encipherChain keys before xs) = xs := by
  induction xs generalizing before with
  | nil => rfl
  | cons x xs ih =>
    rw [encipherChain, decipherChain, Aes.decipher_encipher, Block.xor_cancel, ih]

theorem length_encipherChain (keys : List Block) (before : Block) (xs : List Block) :
    (encipherChain keys before xs).length = xs.length := by
  induction xs generalizing before with
  | nil => rfl
  | cons x xs ih => rw [encipherChain, List.length_cons, ih, List.length_cons]

/-! ## Messages -/

theorem length_encryptBytes (key message : Bytes) :
    (encryptBytes key message).length = encryptedLength message.length := by
  have hjoin := Block.join_split (length_pad message)
  have hlength := Block.length_join (Block.split (pad message))
  rw [hjoin, length_pad] at hlength
  rw [encryptBytes, Block.length_join, length_encipherChain, ← hlength, encryptedLength_eq]

/-- **The ciphertext of a message is decrypted to the message.** -/
theorem decryptBytes?_encryptBytes (key message : Bytes) :
    decryptBytes? key (encryptBytes key message) = some message := by
  rw [decryptBytes?, encryptBytes, Block.split_join, decipherChain_encipherChain,
    Block.join_split (length_pad message), unpad?_pad]

/-! ## Ciphers -/

variable {c : Cipher} {message sealed : Bytes}

/-- A cipher encrypts as long as it has its key. -/
theorem encrypt_eq_ok_iff :
    c.encrypt message = .ok sealed
      ↔ ∃ key, c.key = some key ∧ sealed = encryptBytes key message := by
  unfold encrypt activeKey
  cases c.key with
  | none => simp
  | some key => simp [eq_comm]

/-- A passphrase that counts has a cipher, and the cipher has its key. -/
theorem exists_ofPassphrase {given : Option String} {passphrase : String}
    (h : (given.filter fun p => !p.isEmpty) = some passphrase) :
    ∃ key, ofPassphrase passphrase = .ok { key := some key } := by
  have hnonempty : ¬passphrase.isEmpty = true := by
    simpa using (Option.filter_eq_some_iff.mp h).2
  exact ⟨_, if_neg hnonempty⟩

end Coffer.Cipher
