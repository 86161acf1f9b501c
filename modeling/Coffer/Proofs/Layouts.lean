import Coffer.Proofs.Upserting
import Coffer.Table
import Coffer.Value.Layout

/-!
# Typed values read back

A layout that is made of those of the library is faithful (`Layout.Composed.faithful`, by induction
on how it is made), so its codec decodes what it encodes, one value or several
(`Layout.Composed.codec`).

A store keeps bytes and a table keeps nothing of its own. So a value that has a byte form is read
back from both whatever became of saving it, and all that is read of other keys stays
(`Session.upsertEncoded_retains`, `Table.get_upsert`).
-/

namespace Coffer

variable {α β : Type}

/-! ## Codecs of layouts -/

/-- The codec decodes what it encodes. -/
structure Codec.Faithful (codec : Codec α) : Prop where
  one : ∀ v b, codec.encode v = .ok b → codec.decode? b = some v
  many : ∀ vs b, codec.encodeMany vs = .ok b → codec.decodeMany? b = some vs

namespace Layout

/-- Layouts that are made of those of the library. -/
inductive Composed : {α : Type} → Layout α → Prop
  | word (width : Nat) : Composed (word width)
  | flag : Composed flag
  | text : Composed text
  | imap {α β : Type} {l : Layout α} {guise : α → β} {bare : β → α} (hl : Composed l)
      (h : ∀ v, guise (bare v) = v) : Composed (l.imap guise bare)
  | seq {α : Type} {l : Layout α} (hl : Composed l) : Composed l.seq
  | option {α : Type} {l : Layout α} (hl : Composed l) : Composed l.option
  | pair {α β : Type} {l : Layout α} {m : Layout β} (hl : Composed l) (hm : Composed m) :
      Composed (l.pair m)

namespace Composed

theorem u8 : Layout.u8.Composed := (word 1).imap fun _ => UInt8.ofNat_toNat

theorem u16 : Layout.u16.Composed := (word 2).imap fun _ => UInt16.ofNat_toNat

theorem u32 : Layout.u32.Composed := (word 4).imap fun _ => UInt32.ofNat_toNat

theorem u64 : Layout.u64.Composed := (word 8).imap fun _ => UInt64.ofNat_toNat

theorem i32 : Layout.i32.Composed := u32.imap fun _ => rfl

theorem i64 : Layout.i64.Composed := u64.imap fun _ => rfl

/-- **What a composed layout writes it reads**, whatever follows. -/
theorem faithful {l : Layout α} (h : l.Composed) : l.Faithful := by
  induction h with
  | word width => exact word_faithful width
  | flag => exact flag_faithful
  | text => exact text_faithful
  | imap _ hguise ih => exact imap_faithful ih hguise
  | seq _ ih => exact seq_faithful ih
  | option _ ih => exact option_faithful ih
  | pair _ _ ihl ihm => exact pair_faithful ihl ihm

theorem decode?_encode {l : Layout α} (h : l.Composed) {v : α} {b : Bytes}
    (hencode : l.encode v = .ok b) : (l.decode b).toOption = some v := by
  rw [decode_encode h.faithful hencode]
  rfl

/-- The codec of a composed layout decodes what it encodes. -/
theorem codec {l : Layout α} (h : l.Composed) : l.codec.Faithful where
  one _ _ hencode := h.decode?_encode hencode
  many _ _ hencode := h.seq.decode?_encode hencode

end Composed

end Layout

/-! ## Values in a store -/

namespace Session

variable {s t : Session} {key : String} {valueKey : Option String} {c : Config} {codec : Codec α}
  {encoded : Except Error Bytes} {b : Bytes}

/-- The session takes values under the value key. -/
structure Takes (c : Config) (valueKey : Option String) (s : Session) : Prop where
  opened : s.Opened c
  linked : s.host.keyring.Linked
  isOpen : s.store.closed = false
  canSeal : s.CanSeal valueKey

/-- What storing a value makes of a session, as seen by those who decode what they read. -/
structure Retains (decode? : Bytes → Option β) (key : String) (v : β) (valueKey : Option String)
    (s t : Session) : Prop where
  /-- The key reads the value, however it is spelled. -/
  read : ∀ spelling, s.store.comparer.normalize spelling = s.store.comparer.normalize key →
    (t.get spelling valueKey).1.bind decode? = some v
  /-- What other keys read, of whatever type, is what they read before. -/
  others : ∀ other, s.store.comparer.normalize other ≠ s.store.comparer.normalize key →
    ∀ otherKey, (t.get other otherKey).1 = (s.get other otherKey).1

/-- **A value that has a byte form is retained**, whether or not it could be saved. -/
theorem upsertEncoded_retains (hs : s.Takes c valueKey) {decode? : Bytes → Option β} {v : β}
    (hencoded : encoded = .ok b) (hdecode : decode? b = some v) (key : String) :
    s.Retains decode? key v valueKey (s.upsertEncoded key encoded valueKey).2
      ∧ ((s.upsertEncoded key encoded valueKey).1 = .ok ()
        ∨ SaveFailed id (s.upsertEncoded key encoded valueKey)) := by
  subst hencoded
  obtain ⟨stored, s', hsealed, hreveal⟩ := exists_sealValue hs.linked hs.canSeal b
  have hwrote : s.Wrote key b valueKey (s.upsertEncoded key (.ok b) valueKey).2 :=
    wrote_of_sealed hs.opened.idle hs.isOpen hs.linked hsealed hreveal key
  refine ⟨⟨?_, ?_⟩, upsert_answer hs.opened.idle hs.isOpen hsealed key⟩
  · intro spelling hspelling
    rw [hwrote.read spelling hspelling]
    exact hdecode
  · intro other hother
    exact (hwrote.others other hother).2

/-- A value that was stored is the one that is read. -/
theorem getAs_upsertAs (hs : s.Takes c valueKey) (hcodec : codec.Faithful) {v : α}
    (hencode : codec.encode v = .ok b) {spelling : String}
    (hspelling : s.store.comparer.normalize spelling = s.store.comparer.normalize key) :
    ((s.upsertAs codec key v valueKey).2.getAs codec spelling valueKey).1 = some v := by
  obtain ⟨hretains, -⟩ := upsertEncoded_retains hs hencode (hcodec.one v b hencode) key
  exact hretains.read spelling hspelling

/-- Several values that were stored under one key are those that are read. -/
theorem getManyAs_upsertManyAs (hs : s.Takes c valueKey) (hcodec : codec.Faithful) {vs : List α}
    (hencode : codec.encodeMany vs = .ok b) {spelling : String}
    (hspelling : s.store.comparer.normalize spelling = s.store.comparer.normalize key) :
    ((s.upsertManyAs codec key vs valueKey).2.getManyAs codec spelling valueKey).1 = some vs := by
  obtain ⟨hretains, -⟩ := upsertEncoded_retains hs hencode (hcodec.many vs b hencode) key
  exact hretains.read spelling hspelling

end Session

/-! ## Values in a table -/

namespace Table

variable {s : Session} {c : Config} {b : Bytes} (x : Table α)

/-- **A table gives the value that it took**, and every other key of any table what it gave
before. -/
theorem get_upsert (hs : s.Takes c x.valueKey) (hcodec : x.codec.Faithful) {v : α}
    (hencode : x.codec.encode v = .ok b) (key : String) :
    (x.get (x.upsert s key v).2 key).1 = some v
      ∧ ∀ (y : Table β) other, s.store.comparer.normalize (y.storedKey other)
          ≠ s.store.comparer.normalize (x.storedKey key) →
        (y.get (x.upsert s key v).2 other).1 = (y.get s other).1 := by
  obtain ⟨hretains, -⟩ :=
    Session.upsertEncoded_retains hs hencode (hcodec.one v b hencode) (x.storedKey key)
  refine ⟨hretains.read (x.storedKey key) rfl, ?_⟩
  intro y other hother
  exact congrArg (fun found => found.bind y.codec.decode?)
    (hretains.others (y.storedKey other) hother y.valueKey)

/-- The same with several values under one key. -/
theorem getMany_upsertMany (hs : s.Takes c x.valueKey) (hcodec : x.codec.Faithful) {vs : List α}
    (hencode : x.codec.encodeMany vs = .ok b) (key : String) :
    (x.getMany (x.upsertMany s key vs).2 key).1 = some vs :=
  Session.getManyAs_upsertManyAs hs hcodec hencode rfl

/-- Lines of an account: an amount and what it was for, if that is known. -/
def accounts : Table (List (UInt8 × Option String)) :=
  .ofType "books::Account" (Layout.u8.pair Layout.text.option).seq.codec

example : accounts.codec.Faithful := (Layout.Composed.u8.pair Layout.Composed.text.option).seq.codec

example : (accounts.get (accounts.upsert (Host.session {} {}) "May" [(3, some "rent"), (1, none)]).2
    "May").1 = some [(3, some "rent"), (1, none)] := by decide

end Table

end Coffer
