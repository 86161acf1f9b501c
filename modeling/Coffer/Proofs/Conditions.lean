import Coffer.Proofs.Values
import Coffer.Table

/-!
# Writing under a condition

A conditional write reads the value so far, decides, and then writes like one without a condition.
It declines exactly when there is a value, what is decrypted of it decodes, and the condition
rejects that (`Session.Rejects`). Where there is no message to decrypt, it is no bytes that are
decoded.

If it declines, nothing was done but that the keyring may have been asked for a cipher. If not, the
result is that of the plain write, keyring included: that asks for the same cipher again, and asking
twice is asking once (`Keyring.cipherFor_again`). Only a value that cannot be encoded makes a
difference there, for the plain write does not ask for a cipher then (`Session.Guarded`).

A table's operations are those of the store on a longer key, under the value key of the table. One
that was given twice, to the table and then to the store, is still the same (`activeKey_activeKey`).
-/

namespace Coffer

variable {α β : Type}

/-- What is left of a value key is a value key that counts. -/
@[simp] theorem activeKey_activeKey (valueKey : Option String) :
    activeKey (activeKey valueKey) = activeKey valueKey := by
  rw [activeKey, activeKey, Option.filter_filter]
  simp only [Bool.and_self]

namespace Keyring

/-- **Asking twice for a cipher is asking once.** -/
theorem cipherFor_again (r : Keyring) (passphrase : String) :
    (r.cipherFor passphrase).2.cipherFor passphrase = r.cipherFor passphrase := by
  rcases cipherFor_snd r passphrase with heq | ⟨c, hnone, hc, heq⟩
  · rw [heq]
  · have hnumber : (r.remember passphrase c).number? passphrase = some r.ciphers.length := by
      rw [number?_remember, hnone, Option.none_or, if_pos rfl]
    refine Prod.ext ?_ ?_
    · rw [heq, cipherFor_fst, cipherFor_fst, hnumber, hnone, hc]
      exact congrArg Except.ok (cipher_remember_self r passphrase c)
    · rw [heq]
      rcases cipherFor_snd (r.remember passphrase c) passphrase with hsame | ⟨-, hmissing, -⟩
      · exact hsame
      · rw [hnumber] at hmissing
        cases hmissing

/-- Where no cipher opens what is stored, no bytes are read. -/
theorem reveal_of_unreadable {r : Keyring} {stored : Bytes} {valueKey : Option String}
    {passphrase : String} (hkey : activeKey valueKey = some passphrase)
    (h : ∀ cipher message, (r.cipherFor passphrase).1 = .ok cipher →
      cipher.tryDecrypt stored ≠ .ok message) : r.reveal stored valueKey = [] := by
  rw [reveal, hkey]
  cases hcipher : (r.cipherFor passphrase).1 with
  | error e => simp only [hcipher]
  | ok cipher =>
    cases hopen : cipher.tryDecrypt stored with
    | error e => simp only [hcipher, Cipher.decrypt, hopen]
    | ok message => exact absurd hopen (h cipher message hcipher)

end Keyring

namespace Session

variable {s t : Session} {key : String} {valueKey valueKey' : Option String}

/-- The second session is the first, except that its keyring may have been asked for a cipher. -/
def UpToKeyring (s t : Session) : Prop :=
  t = s ∨ ∃ passphrase, t = { s with
    host := { s.host with keyring := (s.host.keyring.cipherFor passphrase).2 } }

theorem UpToKeyring.refl (s : Session) : s.UpToKeyring s := .inl rfl

theorem upToKeyring_get (s : Session) (key : String) (valueKey : Option String) :
    s.UpToKeyring (s.get key valueKey).2 :=
  get_snd s key valueKey

/-! ## Reading before writing -/

theorem get_snd_of_some {e : Entry} {passphrase : String}
    (hget : s.store.entries.get? key = some e) (hkey : activeKey valueKey = some passphrase) :
    (s.get key valueKey).2 = (s.cipherFor passphrase).2 := by
  simp only [get, hget, hkey]
  split <;> next heq => rw [heq]

/-- **A value is sealed as it is without reading under the same value key first.** -/
theorem sealValue_get (s : Session) (key : String) (value : Bytes) (valueKey : Option String) :
    (s.get key valueKey).2.sealValue value valueKey = s.sealValue value valueKey := by
  cases hget : s.store.entries.get? key with
  | none => simp only [get, hget]
  | some e =>
    cases hkey : activeKey valueKey with
    | none => simp only [get, hget, hkey]
    | some passphrase =>
      have hagain : (s.cipherFor passphrase).2.cipherFor passphrase = s.cipherFor passphrase := by
        unfold cipherFor
        simp only [Keyring.cipherFor_again]
      rw [get_snd_of_some hget hkey]
      simp only [sealValue, hkey, hagain]

theorem upsert_get (hopen : s.store.closed = false) (key : String) (value : Bytes)
    (valueKey : Option String) :
    (s.get key valueKey).2.upsert key value valueKey = s.upsert key value valueKey := by
  have hnot : ¬s.store.closed = true := by simp [hopen]
  rw [upsert, upsert, store_get, if_neg hnot, if_neg hnot, sealValue_get]

/-- What can be written is written as it is without reading first. -/
theorem upsertEncoded_get (hopen : s.store.closed = false) (key : String)
    {encoded : Except Error Bytes} (hencoded : encoded.isOk = true) (valueKey : Option String) :
    (s.get key valueKey).2.upsertEncoded key encoded valueKey
      = s.upsertEncoded key encoded valueKey := by
  cases encoded with
  | error e => cases hencoded
  | ok value => exact upsert_get hopen key value valueKey

/-- What is refused is refused all the same, with the keyring as it was after reading. -/
theorem upToKeyring_upsertEncoded_get (s : Session) (key : String) (encoded : Except Error Bytes)
    (valueKey : Option String) :
    ((s.get key valueKey).2.upsertEncoded key encoded valueKey).1
        = (s.upsertEncoded key encoded valueKey).1
      ∧ (s.upsertEncoded key encoded valueKey).2.UpToKeyring
        ((s.get key valueKey).2.upsertEncoded key encoded valueKey).2 := by
  cases encoded with
  | error e => exact ⟨rfl, upToKeyring_get s key valueKey⟩
  | ok value =>
    cases hclosed : s.store.closed with
    | false =>
      rw [upsertEncoded_get hclosed key rfl]
      exact ⟨rfl, .refl _⟩
    | true =>
      rw [upsertEncoded, upsertEncoded, upsert, upsert, store_get, if_pos hclosed, if_pos hclosed]
      exact ⟨rfl, upToKeyring_get s key valueKey⟩

/-! ## Declining -/

/-- There is a value so far, what is decrypted of it decodes, and the condition rejects that. -/
def Rejects (s : Session) (decode? : Bytes → Option β) (key : String) (valueKey : Option String)
    (condition : β → Bool) : Prop :=
  ∃ e w, s.store.entries.get? key = some e
    ∧ decode? (s.host.keyring.reveal e.bytes valueKey) = some w ∧ condition w = false

/-- It is what a read under the value key decodes that is rejected. -/
theorem rejects_iff {decode? : Bytes → Option β} {condition : β → Bool} :
    s.Rejects decode? key valueKey condition
      ↔ ((s.get key valueKey).1.bind decode?).any (fun w => !condition w) = true := by
  rw [get_fst]
  cases hget : s.store.entries.get? key with
  | none => simp [Rejects, hget]
  | some e => simp [Rejects, hget, Option.any_eq_true]

/-- What a write does under a condition, as compared with the plain write of the same bytes. -/
structure Guarded (s : Session) (rejected : Prop) (encoded : Except Error Bytes)
    (plain : Except Error Unit × Session) (x : Except Error Bool × Session) : Prop where
  /-- It declines if the value so far is rejected, and only then. -/
  declines : x.1 = .ok false ↔ rejected
  /-- In that case nothing has changed but what the keyring remembers. -/
  untouched : rejected → s.UpToKeyring x.2
  /-- Otherwise it is answered what the plain write is answered, -/
  answer : ¬rejected → x.1 = plain.1.map fun _ => true
  /-- the session is the same but for the keyring, -/
  leaves : ¬rejected → plain.2.UpToKeyring x.2
  /-- and entirely the same if the store is open and the value encodes. -/
  writes : ¬rejected → s.store.closed = false → encoded.isOk = true → x.2 = plain.2

theorem upsertUnless_of_rejects {rejects : Bytes → Bool}
    (h : (s.get key valueKey).1.any rejects = true) (encoded : Except Error Bytes) :
    s.upsertUnless key rejects encoded valueKey = (.ok false, (s.get key valueKey).2) := by
  rw [upsertUnless_eq, if_pos h]

theorem upsertUnless_of_accepts {rejects : Bytes → Bool}
    (h : ¬(s.get key valueKey).1.any rejects = true) (encoded : Except Error Bytes) :
    s.upsertUnless key rejects encoded valueKey
      = (((s.get key valueKey).2.upsertEncoded key encoded valueKey).1.map fun _ => true,
        ((s.get key valueKey).2.upsertEncoded key encoded valueKey).2) := by
  rw [upsertUnless_eq, if_neg h]

/-- Decoding first and deciding then is deciding about bytes. -/
theorem any_decode (found : Option Bytes) (decode? : Bytes → Option β) (p : β → Bool) :
    (found.any fun b => (decode? b).any p) = (found.bind decode?).any p := by
  cases found <;> rfl

/-- **A write under a condition declines, or it is the plain write.** -/
theorem guarded_upsertUnless (s : Session) (decode? : Bytes → Option β) (key : String)
    (condition : β → Bool) (encoded : Except Error Bytes) (valueKey : Option String) :
    s.Guarded (s.Rejects decode? key valueKey condition) encoded
      (s.upsertEncoded key encoded valueKey)
      (s.upsertUnless key (fun b => (decode? b).any fun w => !condition w) encoded valueKey) := by
  obtain ⟨hanswer, hleaves⟩ := upToKeyring_upsertEncoded_get s key encoded valueKey
  by_cases hrejected : s.Rejects decode? key valueKey condition
  · have hany := rejects_iff.mp hrejected
    rw [← any_decode] at hany
    rw [upsertUnless_of_rejects hany]
    exact
      { declines := iff_of_true rfl hrejected
        untouched := fun _ => upToKeyring_get s key valueKey
        answer := fun h => absurd hrejected h
        leaves := fun h => absurd hrejected h
        writes := fun h => absurd hrejected h }
  · have hany := mt rejects_iff.mpr hrejected
    rw [← any_decode] at hany
    rw [upsertUnless_of_accepts hany, hanswer]
    have hgoes : (s.upsertEncoded key encoded valueKey).1.map (fun _ => true) ≠ .ok false := by
      cases (s.upsertEncoded key encoded valueKey).1 <;> nofun
    exact
      { declines := iff_of_false hgoes hrejected
        untouched := fun h => absurd h hrejected
        answer := fun _ => rfl
        leaves := fun _ => hleaves
        writes := fun _ hopen hencoded =>
          congrArg Prod.snd (upsertEncoded_get hopen key hencoded valueKey) }

theorem guarded_upsertAsIf (s : Session) (codec : Codec α) (key : String) (v : α)
    (valueKey : Option String) (condition : α → Bool) :
    s.Guarded (s.Rejects codec.decode? key valueKey condition) (codec.encode v)
      (s.upsertAs codec key v valueKey) (s.upsertAsIf codec key v valueKey condition) :=
  guarded_upsertUnless s codec.decode? key condition (codec.encode v) valueKey

theorem guarded_upsertManyAsIf (s : Session) (codec : Codec α) (key : String) (vs : List α)
    (valueKey : Option String) (condition : List α → Bool) :
    s.Guarded (s.Rejects codec.decodeMany? key valueKey condition) (codec.encodeMany vs)
      (s.upsertManyAs codec key vs valueKey) (s.upsertManyAsIf codec key vs valueKey condition) :=
  guarded_upsertUnless s codec.decodeMany? key condition (codec.encodeMany vs) valueKey

/-! ## Value keys that count the same -/

section Active

variable (h : activeKey valueKey = activeKey valueKey')

include h

theorem get_of_activeKey_eq (s : Session) (key : String) :
    s.get key valueKey = s.get key valueKey' := by
  rw [get, get, h]

theorem sealValue_of_activeKey_eq (s : Session) (value : Bytes) :
    s.sealValue value valueKey = s.sealValue value valueKey' := by
  rw [sealValue, sealValue, h]

theorem upsertEncoded_of_activeKey_eq (s : Session) (key : String)
    (encoded : Except Error Bytes) :
    s.upsertEncoded key encoded valueKey = s.upsertEncoded key encoded valueKey' := by
  cases encoded with
  | error e => rfl
  | ok value =>
    rw [upsertEncoded, upsertEncoded, upsert, upsert, sealValue_of_activeKey_eq h]

theorem upsertUnless_of_activeKey_eq (s : Session) (key : String) (rejects : Bytes → Bool)
    (encoded : Except Error Bytes) :
    s.upsertUnless key rejects encoded valueKey = s.upsertUnless key rejects encoded valueKey' := by
  rw [upsertUnless_eq, upsertUnless_eq, get_of_activeKey_eq h]
  simp only [upsertEncoded_of_activeKey_eq h]

end Active

end Session

/-! ## Tables -/

namespace Table

/-- Through the table each operation is that of the store on a longer key, with a value key. -/
structure Shows (x : Table α) (s : Session) (start : String) (valueKey : Option String) : Prop where
  contains : ∀ key, x.contains s key = s.store.entries.contains (start ++ key)
  get : ∀ key, x.get s key = s.getAs x.codec (start ++ key) valueKey
  getMany : ∀ key, x.getMany s key = s.getManyAs x.codec (start ++ key) valueKey
  upsert : ∀ key v, x.upsert s key v = s.upsertAs x.codec (start ++ key) v valueKey
  upsertMany : ∀ key vs, x.upsertMany s key vs = s.upsertManyAs x.codec (start ++ key) vs valueKey
  upsertIf : ∀ key v condition,
    x.upsertIf s key v condition = s.upsertAsIf x.codec (start ++ key) v valueKey condition
  remove : ∀ key, x.remove s key = s.remove (start ++ key)

theorem shows_of_activeKey_eq (x : Table α) (s : Session) {valueKey : Option String}
    (h : activeKey x.valueKey = activeKey valueKey) : x.Shows s x.start valueKey where
  contains _ := rfl
  get key := by rw [get, Session.getAs, Session.getAs, Session.get_of_activeKey_eq h]; rfl
  getMany key := by
    rw [getMany, Session.getManyAs, Session.getManyAs, Session.get_of_activeKey_eq h]
    rfl
  upsert key v := Session.upsertEncoded_of_activeKey_eq h s _ _
  upsertMany key vs := Session.upsertEncoded_of_activeKey_eq h s _ _
  upsertIf key v condition := Session.upsertUnless_of_activeKey_eq h s _ _ _
  remove _ := rfl

/-- A conditional write through a table is a read through it, and a write if that is not
rejected. -/
theorem upsertIf_eq (x : Table α) (s : Session) (key : String) (v : α) (condition : α → Bool) :
    x.upsertIf s key v condition
      = if (x.get s key).1.any (fun w => !condition w) then (.ok false, (x.get s key).2)
        else ((x.upsert (x.get s key).2 key v).1.map fun _ => true,
          (x.upsert (x.get s key).2 key v).2) := by
  have hany := Session.any_decode (s.get (x.storedKey key) x.valueKey).1 x.codec.decode?
    fun w => !condition w
  split
  · next h => exact Session.upsertUnless_of_rejects (hany.trans h) _
  · next h => exact Session.upsertUnless_of_accepts (hany ▸ h) _

end Table

/-- **A conditional write declines exactly if the value so far decodes and is rejected, and is the
plain write otherwise**: for one value and for several, on a store and through a table. What cannot
be decrypted counts as no bytes. Through the table of a type each operation is that of the store on
the key with the name of the type in front. -/
theorem conditional_writes_exact (s : Session) (codec : Codec α) (key : String)
    (valueKey : Option String) :
    (∀ v condition, s.Guarded (s.Rejects codec.decode? key valueKey condition) (codec.encode v)
        (s.upsertAs codec key v valueKey) (s.upsertAsIf codec key v valueKey condition))
      ∧ (∀ vs condition, s.Guarded (s.Rejects codec.decodeMany? key valueKey condition)
        (codec.encodeMany vs) (s.upsertManyAs codec key vs valueKey)
        (s.upsertManyAsIf codec key vs valueKey condition))
      ∧ (∀ (x : Table α) v condition,
        s.Guarded (s.Rejects x.codec.decode? (x.storedKey key) x.valueKey condition)
          (x.codec.encode v) (x.upsert s key v) (x.upsertIf s key v condition)
        ∧ x.upsertIf s key v condition
          = if (x.get s key).1.any (fun w => !condition w) then (.ok false, (x.get s key).2)
            else ((x.upsert (x.get s key).2 key v).1.map fun _ => true,
              (x.upsert (x.get s key).2 key v).2))
      ∧ (∀ stored passphrase, activeKey valueKey = some passphrase →
        (∀ cipher message, (s.host.keyring.cipherFor passphrase).1 = .ok cipher →
          cipher.tryDecrypt stored ≠ .ok message) → s.host.keyring.reveal stored valueKey = [])
      ∧ ∀ fullName, (Table.ofType fullName codec).Shows s (typeTag fullName ++ ":") none
        ∧ ∀ passphrase, ((Table.ofType fullName codec).withValueKey passphrase).Shows s
          (typeTag fullName ++ ":") (some passphrase) := by
  refine ⟨fun v condition => Session.guarded_upsertAsIf s codec key v valueKey condition,
    fun vs condition => Session.guarded_upsertManyAsIf s codec key vs valueKey condition, ?_,
    fun _ _ hkey hunreadable => Keyring.reveal_of_unreadable hkey hunreadable, fun fullName =>
      ⟨Table.shows_of_activeKey_eq _ s rfl, fun passphrase => ?_⟩⟩
  · intro x v condition
    exact ⟨Session.guarded_upsertAsIf s x.codec (x.storedKey key) v x.valueKey condition,
      x.upsertIf_eq s key v condition⟩
  · exact Table.shows_of_activeKey_eq _ s (activeKey_activeKey (some passphrase))

/-- Bytes that are kept as they are. -/
def rawCodec : Codec Bytes where
  encode := .ok
  decode := .ok
  encodeMany vs := .ok vs.flatten
  decodeMany b := .ok [b]

/-- Three bytes are no message, so that there is nothing in what the condition looks at. -/
example : (Session.smudged.upsertAsIf rawCodec "a" [5] (some "p") fun b => !b.isEmpty).1
    = .ok false := by decide

end Coffer
