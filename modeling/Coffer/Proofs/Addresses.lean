import Coffer.Proofs.Base64
import Coffer.Proofs.Ciphertexts

/-!
# Texts sealed for addresses

What `decryptUrl` makes a text of is what `encryptUrl` made into it: a text is accepted if and only
if it is, without the padding signs at its end, what some text is encrypted to
(`decryptUrl_eq_ok_iff`). Each layer is exact on its own account. The symbols have one spelling for
each ciphertext, a message has one ciphertext, and its bytes are the UTF-8 form of one text. So no
two addresses are decrypted to the same text, except for padding signs.
-/

namespace Coffer.Cipher

open Bytes

variable {c : Cipher} {text address : String}

theorem encryptUrl_eq_ok_iff :
    c.encryptUrl text = .ok address ↔ ∃ sealed, c.encrypt (Text.Utf8.encode text) = .ok sealed
      ∧ address = Base64.encode .urlSafe sealed := by
  simp only [encryptUrl, bind_eq_ok_iff, pure_eq_ok, Except.ok.injEq, eq_comm (a := address)]

/-- A ciphertext is known by its symbols, whatever padding signs follow them. -/
theorem decode_withoutPadding_eq_ok_iff {sealed : Bytes} :
    Base64.decode .urlSafe (withoutPadding address) = .ok sealed
      ↔ withoutPadding address = Base64.encode .urlSafe sealed := by
  refine Base64.sound_urlSafe.decode_eq_ok_iff ?_
  rw [withoutPadding, String.toList_ofList]
  exact Base64.getLast?_withoutPadding _

/-- **An address is decrypted to a text exactly when the text is encrypted to it**, but for the
padding signs at its end. -/
theorem decryptUrl_eq_ok_iff :
    c.decryptUrl address = .ok text ↔ c.encryptUrl text = .ok (withoutPadding address) := by
  rw [encryptUrl_eq_ok_iff]
  constructor
  · intro h
    unfold decryptUrl at h
    split at h
    · cases h
    · next sealed hsealed =>
      obtain ⟨message, hmessage, hread⟩ := bind_eq_ok_iff.mp h
      have htext : Text.Utf8.decode message = .ok text := by
        split at hread
        · next htext => rwa [← Except.ok.inj hread]
        · cases hread
      rw [Text.Utf8.decode_eq_ok_iff.mp htext] at hmessage
      exact ⟨sealed, tryDecrypt_eq_ok_iff.mp hmessage, decode_withoutPadding_eq_ok_iff.mp hsealed⟩
  · rintro ⟨sealed, hsealed, haddress⟩
    unfold decryptUrl
    rw [decode_withoutPadding_eq_ok_iff.mpr haddress]
    simp only [tryDecrypt_eq_ok_iff.mpr hsealed, ok_bind, Text.Utf8.decode_eq_ok_iff.mpr rfl]

theorem withoutPadding_encode_append (sealed : Bytes) (n : Nat) :
    withoutPadding (Base64.encode .urlSafe sealed ++ String.ofList (List.replicate n '='))
      = Base64.encode .urlSafe sealed := by
  have hsymbols := Base64.sound_urlSafe.withoutPadding_symbols sealed n
  rw [withoutPadding, String.toList_append, Base64.encode, String.toList_ofList,
    String.toList_ofList]
  exact congrArg String.ofList hsymbols

/-- An address may be followed by padding signs. -/
theorem decryptUrl_append_padding (h : c.encryptUrl text = .ok address) (n : Nat) :
    c.decryptUrl (address ++ String.ofList (List.replicate n '=')) = .ok text := by
  obtain ⟨sealed, -, rfl⟩ := encryptUrl_eq_ok_iff.mp h
  rw [decryptUrl_eq_ok_iff, withoutPadding_encode_append, h]

/-- A cipher that has its key opens a ciphertext, or finds that there is none. -/
theorem tryDecrypt_cases (h : c.isReleased = false) (sealed : Bytes) :
    (∃ message, c.tryDecrypt sealed = .ok message)
      ∨ ∃ f, c.tryDecrypt sealed = .error (.decryption f) := by
  obtain ⟨key, hkey⟩ := Option.isSome_iff_exists.mp (by simpa [isReleased] using h)
  unfold tryDecrypt checkLength open? activeKey
  rw [hkey]
  by_cases hragged : sealed.length = 0 ∨ sealed.length % blockSize ≠ 0
  · exact .inr ⟨_, by rw [if_pos hragged]; rfl⟩
  · rw [if_neg hragged]
    cases hmessage : decryptBytes? key sealed with
    | none => exact .inr ⟨.wrongKeyOrCorrupt, by simp only [ok_bind, hmessage]⟩
    | some message => exact .inl ⟨message, by simp only [ok_bind, hmessage]⟩

/-- An address is decrypted, or it is refused with an error of decryption. -/
theorem decryptUrl_cases (h : c.isReleased = false) (address : String) :
    (∃ text, c.decryptUrl address = .ok text)
      ∨ ∃ f, c.decryptUrl address = .error (.decryption f) := by
  unfold decryptUrl
  cases Base64.decode .urlSafe (withoutPadding address) with
  | error e => exact .inr ⟨_, rfl⟩
  | ok sealed =>
    rcases tryDecrypt_cases h sealed with ⟨message, hmessage⟩ | ⟨f, hfault⟩
    · simp only [hmessage, ok_bind]
      cases Text.Utf8.decode message with
      | error e => exact .inr ⟨_, rfl⟩
      | ok text => exact .inl ⟨text, rfl⟩
    · simp only [hfault, error_bind]
      exact .inr ⟨f, rfl⟩

/-- **Texts and their addresses correspond**, under every cipher that has its key. Each text has an
address. What an address is decrypted to is the text that has it, padding signs apart; two addresses
that are decrypted to one text differ in padding signs only; and a text that is nobody's address is
refused with an error of decryption. -/
theorem addresses_correspond (h : c.isReleased = false) :
    (∀ text, ∃ address, c.encryptUrl text = .ok address)
      ∧ (∀ address text, c.decryptUrl address = .ok text
        ↔ c.encryptUrl text = .ok (withoutPadding address))
      ∧ (∀ address address' text, c.decryptUrl address = .ok text →
        c.decryptUrl address' = .ok text → withoutPadding address = withoutPadding address')
      ∧ ∀ address, (∀ text, c.encryptUrl text ≠ .ok (withoutPadding address)) →
        ∃ f, c.decryptUrl address = .error (.decryption f) := by
  obtain ⟨key, hkey⟩ := Option.isSome_iff_exists.mp (by simpa [isReleased] using h)
  refine ⟨fun text => ?_, fun _ _ => decryptUrl_eq_ok_iff, fun address address' text ha hb => ?_,
    fun address hnone => ?_⟩
  · exact ⟨_, encryptUrl_eq_ok_iff.mpr ⟨_, encrypt_eq_ok_iff.mpr ⟨key, hkey, rfl⟩, rfl⟩⟩
  · have hsame := (decryptUrl_eq_ok_iff.mp ha).symm.trans (decryptUrl_eq_ok_iff.mp hb)
    exact Except.ok.inj hsame
  · rcases decryptUrl_cases h address with ⟨text, htext⟩ | hrefused
    · exact absurd (decryptUrl_eq_ok_iff.mp htext) (hnone text)
    · exact hrefused

/-- An address with signs that fill up its last group is accepted; a single symbol is no address. -/
theorem addresses_correspond_passphrase :
    ∃ c address, ofPassphrase "correct horse" = .ok c ∧ c.isReleased = false
      ∧ c.encryptUrl "héllo" = .ok address ∧ c.decryptUrl (address ++ "==") = .ok "héllo"
      ∧ ∃ f, c.decryptUrl "A" = .error (.decryption f) := by
  have hcounts : ((some "correct horse").filter fun p => !p.isEmpty) = some "correct horse" := rfl
  obtain ⟨key, hc⟩ := exists_ofPassphrase hcounts
  obtain ⟨hencrypts, hexact, -, hrefuses⟩ := addresses_correspond (c := { key := some key }) rfl
  obtain ⟨address, haddress⟩ := hencrypts "héllo"
  refine ⟨_, address, hc, rfl, haddress, decryptUrl_append_padding haddress 2, hrefuses _ ?_⟩
  intro text htext
  cases (hexact "A" text).mpr htext

end Coffer.Cipher
