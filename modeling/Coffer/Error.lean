import Coffer.Bytes.Base64
import Coffer.Disk.Fault
import Coffer.KeyEncoding

/-!
# Errors

Every failure of the library is a cause, and each cause has its wording here and nowhere else.
`Error.message` is the whole text, `Error.deeper` are the causes beneath it, outermost first.
-/

namespace Coffer

/-- Why a byte string is no dictionary. Offsets count from its first byte. -/
inductive FormatFault where
  /-- The bytes end `needed` bytes before the part that starts at `offset` does. -/
  | truncated (offset needed : Nat)
  /-- The value length that stands at `offset` is negative and no sign of absence. -/
  | invalidLength (offset : Nat) (length : Int)
  /-- The key whose length stands at `offset` is no text. -/
  | invalidKey (offset : Nat) (encoding : KeyEncoding)
  /-- Bytes are left over after the last entry. -/
  | trailingBytes (count : Nat)
  /-- The file is encrypted, and not under this key. -/
  | undecryptable
  deriving Repr, DecidableEq

/-- What is wrong with the bytes, in words. -/
def FormatFault.message : FormatFault → String
  | .truncated offset needed => s!"truncated at byte {offset}: needed {needed} more bytes"
  | .invalidLength offset length => s!"invalid value length {length} at byte {offset}"
  | .invalidKey offset encoding => s!"key at byte {offset} is not valid {encoding.name}"
  | .trailingBytes count => s!"{count} unexpected trailing bytes"
  | .undecryptable => "payload could not be decrypted (wrong key or corrupt data)"

/-- Why a ciphertext has no plaintext. -/
inductive DecryptionFault where
  | raggedLength (length : Nat)
  | wrongKeyOrCorrupt
  | notBase64 (fault : Bytes.Base64.Fault)
  | notText (fault : Text.Utf8.Fault)
  deriving Repr, DecidableEq

/-- What is wrong with the ciphertext, in words. -/
def DecryptionFault.message : DecryptionFault → String
  | .raggedLength length => s!"ciphertext length {length} is not a positive multiple of 16"
  | .wrongKeyOrCorrupt => "wrong key or corrupt data"
  | .notBase64 fault => fault.message
  | .notText fault => fault.message

/-- Why an argument is refused. -/
inductive ArgumentFault where
  | emptyPassphrase
  | zeroIterations
  | tooManyEntries
  | keyTooLong
  | valueTooLong (key : String)
  /-- A value codec of the caller's refuses a value. -/
  | refused (reason : String)
  deriving Repr, DecidableEq

/-- What is wrong with the argument, in words. -/
def ArgumentFault.message : ArgumentFault → String
  | .emptyPassphrase => "encryption passphrase must not be empty"
  | .zeroIterations => "iteration count must be positive"
  | .tooManyEntries => "too many entries to serialize"
  | .keyTooLong => "key is too long to serialize"
  | .valueTooLong key => s!"value for key '{key}' is too large to serialize"
  | .refused reason => reason

/-- Why an operation failed. -/
inductive Error where
  /-- The file at `path` is no dictionary. -/
  | deserialization (path : String) (fault : FormatFault)
  | decryption (fault : DecryptionFault)
  /-- A cursor was to move over more elements than there are. -/
  | outOfRange (requested available : Nat)
  | invalidArgument (fault : ArgumentFault)
  /-- The caller's update declined to produce a value. -/
  | aborted (reason : String)
  | cancelled
  /-- The cipher has given up its key. -/
  | released
  /-- The store is closed. -/
  | closed
  /-- The caller's update failed for a reason of its own. -/
  | internal (reason : String)
  | io (fault : DiskFault)
  /-- A typed value has no byte form, or bytes are no value of the type. -/
  | codec (reason : String)
  /-- A configuration file is no configuration. -/
  | configuration (reason : String)
  deriving Repr, DecidableEq

namespace Error

/-- The text of an error. -/
def message : Error → String
  | .deserialization path fault => s!"failed to deserialize database at {path}: {fault.message}"
  | .decryption fault => s!"decryption failed: {fault.message}"
  | .outOfRange requested available =>
    s!"out of range: requested {requested} elements but only {available} are available"
  | .invalidArgument fault => s!"invalid argument: {fault.message}"
  | .aborted reason => s!"update aborted: {reason}"
  | .cancelled => "operation cancelled"
  | .released => "cipher provider has been released"
  | .closed => "database is closed"
  | .internal reason => s!"internal error: {reason}"
  | .io fault => s!"IO error: {fault.message}"
  | .codec reason => s!"codec error: {reason}"
  | .configuration reason => s!"Serialization error: {reason}"

/-- The texts of the causes beneath an error. -/
def deeper : Error → List String
  | .deserialization _ fault => [fault.message]
  | .io fault => [fault.message]
  | .codec reason => [reason]
  | .configuration reason => [reason]
  | _ => []

end Error

end Coffer
