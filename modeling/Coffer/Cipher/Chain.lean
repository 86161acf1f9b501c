import Coffer.Cipher.Aes

/-!
# Chained blocks and padding

A message of any length is filled up to whole blocks and enciphered block by block, each block
summed with the enciphered one before it, the first with a fixed one.

The filling is between one and sixteen bytes long and each of its bytes is its length, so a message
that fills its blocks gets one more. Taking it off checks every byte of it.
-/

namespace Coffer.Cipher

/-- The bytes of a block. -/
def blockSize : Nat := 16

/-- The length of the ciphertext of `length` bytes: the first multiple of sixteen above it. -/
def encryptedLength (length : Nat) : Nat := (length / blockSize + 1) * blockSize

/-- The same for a length that is a number of 64 bits, and in that range: above the last multiple of
sixteen comes zero. -/
def encryptedSize (length : UInt64) : UInt64 :=
  (length / UInt64.ofNat blockSize + 1) * UInt64.ofNat blockSize

/-- Below the end of the range there is one length only. -/
theorem toNat_encryptedSize {length : UInt64} (h : length.toNat + blockSize < Bytes.bound 8) :
    (encryptedSize length).toNat = encryptedLength length.toNat := by
  have hbound : Bytes.bound 8 = 18446744073709551616 := rfl
  have hblock : (UInt64.ofNat 16).toNat = 16 := rfl
  have hone : (1 : UInt64).toNat = 1 := rfl
  simp only [hbound, blockSize] at h
  simp only [encryptedSize, encryptedLength, blockSize, UInt64.toNat_mul, UInt64.toNat_add,
    UInt64.toNat_div, hblock, hone]
  omega

/-- What fills a message of `length` bytes up to whole blocks. -/
def filling (length : Nat) : Bytes :=
  let missing := blockSize - length % blockSize
  List.replicate missing (UInt8.ofNat missing)

/-- A message filled up to whole blocks. -/
def pad (b : Bytes) : Bytes := b ++ filling b.length

/-- The message that was filled up to these bytes, if one was. -/
def unpad? (b : Bytes) : Option Bytes :=
  match b.getLast? with
  | none => none
  | some last =>
    let n := last.toNat
    if 1 ≤ n ∧ n ≤ blockSize ∧ n ≤ b.length ∧ b.drop (b.length - n) = List.replicate n last then
      some (b.take (b.length - n))
    else none

/-- The blocks enciphered in a chain that starts with `before`. -/
def encipherChain (keys : List Block) (before : Block) : List Block → List Block
  | [] => []
  | x :: rest =>
    let y := Aes.encipher keys (x.xor before)
    y :: encipherChain keys y rest

/-- The blocks of a chain that starts with `before`, deciphered. -/
def decipherChain (keys : List Block) (before : Block) : List Block → List Block
  | [] => []
  | y :: rest => (Aes.decipher keys y).xor before :: decipherChain keys y rest

/-- The block that every chain starts with. -/
def chainStart : Block :=
  ⟨⟨0x51, 0x75, 0x69, 0x76⟩, ⟨0x65, 0x72, 0x2d, 0x53⟩, ⟨0x74, 0x6f, 0x72, 0x65⟩,
    ⟨0x2d, 0x49, 0x56, 0x31⟩⟩

/-- The ciphertext of a message under a key of 32 bytes. -/
def encryptBytes (key message : Bytes) : Bytes :=
  Block.join (encipherChain (Aes.roundKeys key) chainStart (Block.split (pad message)))

/-- The message whose ciphertext these whole blocks are, if there is one. -/
def decryptBytes? (key sealed : Bytes) : Option Bytes :=
  unpad? (Block.join (decipherChain (Aes.roundKeys key) chainStart (Block.split sealed)))

end Coffer.Cipher
