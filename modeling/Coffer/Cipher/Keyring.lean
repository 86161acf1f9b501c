import Coffer.Cipher.Basic

/-!
# Keyrings

A keyring hands out one cipher for each passphrase and remembers it, so that everybody who names the
passphrase shares the cipher. Clearing the keyring releases the ciphers it remembers and forgets
them; who still holds one finds it released, and the next request for its passphrase gets a new one.

Ciphers are told apart by number, in the order in which they were made. A keyring keeps the state of
every cipher it ever made, which is how a holder learns that a cipher was released.
-/

namespace Coffer

/-- The ciphers made so far, and the numbers of those that are remembered, by passphrase. -/
structure Keyring where
  ciphers : List Cipher := []
  remembered : List (String × Nat) := []
  deriving Repr, DecidableEq

instance : Inhabited Keyring := ⟨{}⟩

namespace Keyring

/-- The number of passphrases that are remembered. -/
def size (r : Keyring) : Nat := r.remembered.length

/-- The number under which a passphrase is remembered. -/
def number? (r : Keyring) (passphrase : String) : Option Nat := r.remembered.lookup passphrase

/-- The number of the cipher for a passphrase, which is made at the first request. -/
def get (r : Keyring) (passphrase : String) : Except Error Nat × Keyring :=
  match r.number? passphrase with
  | some n => (.ok n, r)
  | none =>
    match Cipher.ofPassphrase passphrase with
    | .error e => (.error e, r)
    | .ok c =>
      let n := r.ciphers.length
      (.ok n, { ciphers := r.ciphers ++ [c], remembered := r.remembered ++ [(passphrase, n)] })

/-- The cipher of a number as it is now. -/
def cipher (r : Keyring) (n : Nat) : Cipher := r.ciphers.getD n { key := none }

/-- The cipher for a passphrase as it is now. -/
def cipherFor (r : Keyring) (passphrase : String) : Except Error Cipher × Keyring :=
  let (n, r) := r.get passphrase
  (n.map r.cipher, r)

/-- The keyring after its holder of cipher `n` has released it. -/
def release (r : Keyring) (n : Nat) : Keyring :=
  { r with ciphers := r.ciphers.modify n Cipher.release }

/-- The keyring with all remembered ciphers released and forgotten. -/
def clear (r : Keyring) : Keyring :=
  { (r.remembered.foldl (fun r entry => r.release entry.2) r) with remembered := [] }

/-- What a keyring shows of itself. -/
def description (r : Keyring) : String := s!"CipherCache \x7b providers: {r.size} \x7d"

end Keyring

end Coffer
