import Coffer.Cipher.Chain
import Coffer.Digest.Sha256
import Coffer.Error

/-!
# Ciphers

A cipher seals byte strings under a passphrase: AES-256 in chained blocks, under the SHA-256 digest
of the passphrase. The same message always has the same ciphertext.

A cipher can be released, which makes it forget its key. After that every use fails, and the lenient
way of decrypting gives nothing.
-/

namespace Coffer

/-- A key, until it is released. -/
structure Cipher where
  key : Option Bytes
  deriving Repr, DecidableEq, Inhabited

namespace Cipher

/-- The cipher of a passphrase, which must not be empty. -/
def ofPassphrase (passphrase : String) : Except Error Cipher :=
  if passphrase.isEmpty then .error (.invalidArgument .emptyPassphrase)
  else .ok { key := some (Digest.Sha256.digest (Text.Utf8.encode passphrase)) }

/-- The cipher without its key. -/
def release (_ : Cipher) : Cipher := { key := none }

/-- Has the cipher forgotten its key? -/
def isReleased (c : Cipher) : Bool := c.key.isNone

/-- What a cipher shows of itself. -/
def description (c : Cipher) : String :=
  s!"CipherProvider \x7b key: \"[REDACTED]\", released: {c.isReleased} \x7d"

/-- The key, unless it has been released. -/
def activeKey (c : Cipher) : Except Error Bytes :=
  match c.key with
  | some key => .ok key
  | none => .error .released

/-! ## Encrypting -/

/-- The ciphertext of a message. -/
def encrypt (c : Cipher) (message : Bytes) : Except Error Bytes := do
  let key ← c.activeKey
  return encryptBytes key message

/-- The ciphertext of a message, for a destination of `room` bytes that must be large enough. -/
def encryptInto (c : Cipher) (message : Bytes) (room : Nat) : Except Error Bytes :=
  if room < encryptedLength message.length then
    .error (.outOfRange (encryptedLength message.length) room)
  else c.encrypt message

/-! ## Decrypting -/

/-- A ciphertext is a positive number of whole blocks. -/
def checkLength (sealed : Bytes) : Except Error Unit :=
  if sealed.length = 0 ∨ sealed.length % blockSize ≠ 0 then
    .error (.decryption (.raggedLength sealed.length))
  else .ok ()

/-- The message of a ciphertext of whole blocks. -/
def open? (c : Cipher) (sealed : Bytes) : Except Error Bytes := do
  let key ← c.activeKey
  match decryptBytes? key sealed with
  | some message => .ok message
  | none => .error (.decryption .wrongKeyOrCorrupt)

/-- The message of a ciphertext. -/
def tryDecrypt (c : Cipher) (sealed : Bytes) : Except Error Bytes := do
  checkLength sealed
  c.open? sealed

/-- The message of a ciphertext, for a destination of `room` bytes that must hold as many bytes as
the ciphertext has. -/
def decryptInto (c : Cipher) (sealed : Bytes) (room : Nat) : Except Error Bytes := do
  checkLength sealed
  if room < sealed.length then .error (.outOfRange sealed.length room) else c.open? sealed

/-- The message of a ciphertext, or nothing if there is none. -/
def decrypt (c : Cipher) (sealed : Bytes) : Bytes :=
  match c.tryDecrypt sealed with
  | .ok message => message
  | .error _ => []

/-! ## Texts -/

/-- A text as a ciphertext in the alphabet that is safe within addresses. -/
def encryptUrl (c : Cipher) (text : String) : Except Error String := do
  let sealed ← c.encrypt (Text.Utf8.encode text)
  return Bytes.Base64.encode .urlSafe sealed

/-- A text without the padding signs at its end. -/
def withoutPadding (text : String) : String :=
  String.ofList (text.toList.reverse.dropWhile (· = '=')).reverse

/-- The text that `encryptUrl` turned into this one. -/
def decryptUrl (c : Cipher) (encoded : String) : Except Error String :=
  match Bytes.Base64.decode .urlSafe (withoutPadding encoded) with
  | .error e => .error (.decryption (.notBase64 e))
  | .ok sealed => do
    let message ← c.tryDecrypt sealed
    match Text.Utf8.decode message with
    | .ok text => .ok text
    | .error e => .error (.decryption (.notText e))

end Cipher

end Coffer
