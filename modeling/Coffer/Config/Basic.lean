import Coffer.Comparer
import Coffer.KeyEncoding
import Coffer.Text.Quoted

/-!
# Configurations

Everything a store needs to know when it is opened. A path or a passphrase that is empty counts as
missing wherever it is used, but it is kept as it was given.
-/

namespace Coffer

/-- How a store is set up. -/
structure Config where
  /-- The file behind the store. Without one the store lives in memory only. -/
  path : Option String := none
  /-- Compare keys without regard to case. -/
  ignoreCase : Bool := false
  /-- The encoding of the keys in the file. -/
  encoding : KeyEncoding := .utf8
  /-- Write the file after every change. -/
  saveOnUpdate : Bool := false
  /-- Tell subscribers of every change. -/
  announce : Bool := false
  /-- The passphrase that the whole file is encrypted under. -/
  passphrase : Option String := none
  /-- Fail on a file that cannot be decrypted, where otherwise the store starts empty. -/
  strict : Bool := false
  deriving Repr, DecidableEq, Inhabited

namespace Config

/-- The file behind the store, if there is one. -/
def filePath (c : Config) : Option String := c.path.filter fun p => !p.isEmpty

/-- Does the store live in memory only? -/
def isInMemory (c : Config) : Bool := c.filePath.isNone

/-- The passphrase of the file, if it is encrypted. -/
def activePassphrase (c : Config) : Option String := c.passphrase.filter fun p => !p.isEmpty

/-- The comparer of the store's keys. -/
def comparer (c : Config) : Comparer := .ofIgnoreCase c.ignoreCase

/-- What a configuration shows of itself. The passphrase stays hidden. -/
def description (c : Config) : String :=
  let passphrase := Text.quotedOption (c.activePassphrase.map fun _ => "[REDACTED]")
  let encoding := match c.encoding with
    | .utf8 => "Utf8"
    | .utf16 => "Utf16"
  "DatabaseConfig \x7b path: " ++ Text.quotedOption c.path
    ++ ", ignore_case: " ++ toString c.ignoreCase
    ++ ", string_encoding: " ++ encoding
    ++ ", serialize_on_update: " ++ toString c.saveOnUpdate
    ++ ", trigger_update_events: " ++ toString c.announce
    ++ ", encryption_key: " ++ passphrase
    ++ ", strict_decryption: " ++ toString c.strict ++ " \x7d"

end Config

end Coffer
