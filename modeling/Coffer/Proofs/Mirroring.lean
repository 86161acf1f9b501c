import Coffer.Proofs.Announcing
import Coffer.Proofs.Likeness
import Coffer.Proofs.Values

/-!
# What is in memory does not depend on the disk

Two stores that are alike stay alike when the same is done with both, whatever is behind them: one
may live in memory only and the other save each change to an encrypted file, on a disk that loses
its folder on the way (`Session.history_matches`). After each operation both hold the same entries
with the same counters, and all reads agree. The answers are the same too, unless one of the two is
the error of a save.

The reason is the order of effects. What an operation does in memory it has done before it saves,
and after that it changes nothing any more (`parallel_saveThen`). What it does in memory depends on
what the store holds and on the ciphers of its passphrases, which are the same on both sides as long
as nobody releases them.

An update must not ask what is behind the store either (`Update.Steady`). One that fails when a save
within it fails gives no value on one side, and there the write is left out.
-/

namespace Coffer

namespace Session

variable {s t s' t' : Session} {a b : Store} {ε α β : Type}

/-- Between two operations the stores are alike and no cipher has been released. -/
structure Agrees (s t : Session) : Prop where
  stores : s.store.Agrees t.store
  sound : s.host.keyring.Sound
  sound' : t.host.keyring.Sound

theorem Agrees.withStore (h : s.Agrees t) (hstore : a.Agrees b) :
    (s.withStore a).Agrees (t.withStore b) :=
  ⟨hstore, h.sound, h.sound'⟩

theorem Agrees.doomed_perm (h : s.Agrees t) (start : Option String) (test : String → Bool) :
    (t.doomed start test).Perm (s.doomed start test) := by
  have harranged := ((t.host.order.perm _).trans h.stores.entries).trans
    (s.host.order.perm _).symm
  rw [doomed_eq, doomed_eq, h.stores.comparer]
  exact (harranged.filter _).map _

/-! ## Reading and sealing -/

theorem Agrees.get (h : s.Agrees t) (key : String) (valueKey : Option String) :
    (s.get key valueKey).1 = (t.get key valueKey).1
      ∧ (s.get key valueKey).2.Agrees (t.get key valueKey).2 := by
  obtain ⟨hvalue, hsound⟩ := get_of_sound h.sound key valueKey
  obtain ⟨hvalue', hsound'⟩ := get_of_sound h.sound' key valueKey
  refine ⟨by rw [hvalue, hvalue', h.stores.get?_eq], ?_, hsound, hsound'⟩
  rw [store_get, store_get]
  exact h.stores

theorem Agrees.sealValue (h : s.Agrees t) (value : Bytes) (valueKey : Option String) :
    (s.sealValue value valueKey).1 = (t.sealValue value valueKey).1
      ∧ (s.sealValue value valueKey).2.Agrees (t.sealValue value valueKey).2 := by
  obtain ⟨hsealed, hsound⟩ := sealValue_of_sound h.sound value valueKey
  obtain ⟨hsealed', hsound'⟩ := sealValue_of_sound h.sound' value valueKey
  refine ⟨by rw [hsealed, hsealed'], ?_, hsound, hsound'⟩
  rw [store_sealValue, store_sealValue]
  exact h.stores

/-! ## Answers -/

/-- The result is the error of a save, after which nothing more was done. -/
def SaveFailed (fail : Error → ε) (x : Except ε α × Session) : Prop :=
  ∃ (u : Session) (cancelled : Bool) (e : Error),
    u.save cancelled = (.error e, x.2) ∧ x.1 = .error (fail e)

/-- Two results that differ only where saving failed, and sessions that agree. -/
structure Parallel (fail : Error → ε) (x y : Except ε α × Session) : Prop where
  agrees : x.2.Agrees y.2
  answers : x.1 = y.1 ∨ SaveFailed fail x ∨ SaveFailed fail y

theorem not_saveFailed_of_ok {fail : Error → ε} {x : Except ε α × Session} {a : α}
    (h : x.1 = .ok a) : ¬SaveFailed fail x := by
  rintro ⟨u, cancelled, e, -, herror⟩
  rw [h] at herror
  cases herror

theorem SaveFailed.map {fail : Error → ε} {x : Except ε α × Session} (h : SaveFailed fail x)
    (f : α → β) : SaveFailed fail (x.1.map f, x.2) := by
  obtain ⟨u, cancelled, e, hsave, herror⟩ := h
  exact ⟨u, cancelled, e, hsave, by rw [herror]; rfl⟩

theorem SaveFailed.answer {x : Except Error α × Session} (h : SaveFailed id x) (f : α → β) :
    SaveFailed Interruption.failed (answer f x) := by
  obtain ⟨u, cancelled, e, hsave, herror⟩ := h
  refine ⟨u, cancelled, e, hsave, ?_⟩
  rw [Session.answer, herror]
  rfl

theorem Parallel.map {fail : Error → ε} {x y : Except ε α × Session} (h : Parallel fail x y)
    (f : α → β) : Parallel fail (x.1.map f, x.2) (y.1.map f, y.2) := by
  refine ⟨h.agrees, ?_⟩
  rcases h.answers with heq | hs | ht
  · exact .inl (congrArg (Except.map f) heq)
  · exact .inr (.inl (hs.map f))
  · exact .inr (.inr (ht.map f))

theorem Parallel.answer {x y : Except Error α × Session} (h : Parallel id x y) (f : α → β) :
    Parallel Interruption.failed (answer f x) (answer f y) := by
  refine ⟨h.agrees, ?_⟩
  rcases h.answers with heq | hs | ht
  · exact .inl (congrArg (fun r => (r.mapError Interruption.failed).map f) heq)
  · exact .inr (.inl (hs.answer f))
  · exact .inr (.inr (ht.answer f))

/-! ## Saving -/

theorem saveFailed_saveChange {e : Error} (h : s.saveChange = (.error e, s')) :
    s.save false = (.error e, s') := by
  unfold saveChange at h
  split at h
  · exact h
  · cases h

theorem Agrees.of_memory (h : s.Agrees t) (hs : s'.store.memory = s.store.memory)
    (ht : t'.store.memory = t.store.memory) (hsound : s'.host.keyring = s.host.keyring)
    (hsound' : t'.host.keyring = t.host.keyring) : s'.Agrees t' :=
  ⟨h.stores.of_memory hs ht, hsound ▸ h.sound, hsound' ▸ h.sound'⟩

section Telling

variable {tell : Store → Store} (htell : ∀ store : Store, (tell store).memory = store.memory)

include htell

theorem memory_saveThen (s : Session) (v : α) :
    (s.saveThen v tell).2.store.memory = s.store.memory := by
  have hsave := Store.memory_of_unsaved_eq (unsaved_saveChange s)
  unfold saveThen
  split
  · next heq => rwa [heq] at hsave
  · next heq =>
    rw [heq] at hsave
    exact (htell _).trans hsave

end Telling

theorem keyring_saveThen (s : Session) (v : α) (tell : Store → Store) :
    (s.saveThen v tell).2.host.keyring = s.host.keyring := by
  have hsave := keyring_saveChange s
  unfold saveThen
  split <;> next heq => rwa [heq] at hsave

theorem saveThen_answer (s : Session) (v : α) (tell : Store → Store) :
    (s.saveThen v tell).1 = .ok v ∨ SaveFailed id (s.saveThen v tell) := by
  unfold saveThen
  split
  · next e s' heq => exact .inr ⟨s, false, e, saveFailed_saveChange heq, rfl⟩
  · exact .inl rfl

/-- **Saving keeps what is alike alike**, whether it succeeds or not. -/
theorem parallel_saveThen (h : s.Agrees t) (v : α) {tell tell' : Store → Store}
    (htell : ∀ store : Store, (tell store).memory = store.memory)
    (htell' : ∀ store : Store, (tell' store).memory = store.memory) :
    Parallel id (s.saveThen v tell) (t.saveThen v tell') := by
  refine ⟨h.of_memory (memory_saveThen htell s v) (memory_saveThen htell' t v)
    (keyring_saveThen s v tell) (keyring_saveThen t v tell'), ?_⟩
  rcases saveThen_answer s v tell with hs | hs
  · rcases saveThen_answer t v tell' with ht | ht
    · exact .inl (hs.trans ht.symm)
    · exact .inr (.inr ht)
  · exact .inr (.inl hs)

theorem parallel_save (h : s.Agrees t) (cancelled : Bool) :
    Parallel id (s.save cancelled) (t.save cancelled) := by
  refine ⟨h.of_memory (Store.memory_of_unsaved_eq (unsaved_save s cancelled))
    (Store.memory_of_unsaved_eq (unsaved_save t cancelled)) (keyring_save s cancelled)
    (keyring_save t cancelled), ?_⟩
  cases hs : (s.save cancelled).1 with
  | error e => exact .inr (.inl ⟨s, cancelled, e, Prod.ext hs rfl, hs⟩)
  | ok u =>
    cases ht : (t.save cancelled).1 with
    | error e => exact .inr (.inr ⟨t, cancelled, e, Prod.ext ht rfl, ht⟩)
    | ok u => exact .inl rfl

/-! ## Operations -/

theorem parallel_of_eq {fail : Error → ε} {r r' : Except ε α} (h : s.Agrees t) (hr : r = r') :
    Parallel fail (r, s) (r', t) :=
  ⟨h, .inl hr⟩

theorem parallel_upsert (h : s.Agrees t) (key : String) (value : Bytes)
    (valueKey : Option String) :
    Parallel id (s.upsert key value valueKey) (t.upsert key value valueKey) := by
  rw [upsert_of_idle h.stores.idle, upsert_of_idle h.stores.idle', h.stores.closed]
  split
  · exact parallel_of_eq h rfl
  · obtain ⟨hsealed, hagrees⟩ := h.sealValue value valueKey
    generalize s.sealValue value valueKey = x at hsealed hagrees
    generalize t.sealValue value valueKey = y at hsealed hagrees
    obtain ⟨sealed, s'⟩ := x
    obtain ⟨sealed', t'⟩ := y
    obtain rfl : sealed = sealed' := hsealed
    cases sealed with
    | error e => exact parallel_of_eq hagrees rfl
    | ok stored =>
      have hmerged := (hagrees.stores.merge { key, value := stored }).of_memory
        (Store.memory_announce _ { kind := .upsert, key, value := some value })
        (Store.memory_announce _ { kind := .upsert, key, value := some value })
      exact parallel_saveThen (hagrees.withStore hmerged) () (fun _ => rfl) fun _ => rfl

theorem parallel_upsertEncoded (h : s.Agrees t) (key : String) (encoded : Except Error Bytes)
    (valueKey : Option String) :
    Parallel id (s.upsertEncoded key encoded valueKey) (t.upsertEncoded key encoded valueKey) := by
  cases encoded with
  | error e => exact parallel_of_eq h rfl
  | ok b => exact parallel_upsert h key b valueKey

theorem parallel_upsertUnless (h : s.Agrees t) (key : String) (rejects : Bytes → Bool)
    (encoded : Except Error Bytes) (valueKey : Option String) :
    Parallel id (s.upsertUnless key rejects encoded valueKey)
      (t.upsertUnless key rejects encoded valueKey) := by
  obtain ⟨hvalue, hagrees⟩ := h.get key valueKey
  rw [upsertUnless_eq, upsertUnless_eq, hvalue]
  split
  · exact parallel_of_eq hagrees rfl
  · exact (parallel_upsertEncoded hagrees key encoded valueKey).map fun _ => true

theorem parallel_getOrAdd (h : s.Agrees t) (key : String) (valueKey : Option String)
    (make : String → Bytes) :
    Parallel id (s.getOrAdd key valueKey (.ofSpelling make))
      (t.getOrAdd key valueKey (.ofSpelling make)) := by
  obtain ⟨hsame, hagrees⟩ := h.get key valueKey
  cases hvalue : (s.get key valueKey).1 with
  | some value =>
    rw [getOrAdd_of_some hvalue, getOrAdd_of_some (hsame ▸ hvalue)]
    exact parallel_of_eq hagrees rfl
  | none =>
    rw [getOrAdd_ofSpelling_of_missing hvalue, getOrAdd_ofSpelling_of_missing (hsame ▸ hvalue),
      h.stores.closed]
    split
    · exact parallel_of_eq hagrees rfl
    · exact (parallel_upsert hagrees key (make key) valueKey).map fun _ => make key

end Session

/-- The update does the same in sessions that agree, and they agree afterwards. -/
def Update.Steady (f : Update) : Prop :=
  ∀ (s t : Session) (value : Bytes), s.Agrees t →
    (f s value).1 = (f t value).1 ∧ (f s value).2.Agrees (f t value).2

/-- An update that looks at the value alone is steady. -/
theorem Update.steady_of_pure (f : Bytes → Except Interruption Bytes) :
    Update.Steady fun s value => (f value, s) :=
  fun _ _ _ h => ⟨rfl, h⟩

namespace Session

variable {s t s' t' : Session} {a b : Store} {ε α β : Type}

theorem parallel_update (h : s.Agrees t) (key : String) (valueKey : Option String) {f : Update}
    (hf : f.Steady) :
    Parallel Interruption.failed (s.update key valueKey f) (t.update key valueKey f) := by
  obtain ⟨hvalue, hagrees⟩ := h.get key valueKey
  obtain ⟨hnew, hagrees'⟩ := hf _ _ ((s.get key valueKey).1.getD []) hagrees
  unfold update
  simp only [h.stores.closed, ← hvalue]
  split
  · exact parallel_of_eq h rfl
  · generalize f (s.get key valueKey).2 _ = x at hnew hagrees'
    generalize f (t.get key valueKey).2 _ = y at hnew hagrees'
    obtain ⟨new, s'⟩ := x
    obtain ⟨new', t'⟩ := y
    obtain rfl : new = new' := hnew
    cases new with
    | error i => exact parallel_of_eq hagrees' rfl
    | ok value =>
      have hwritten := (parallel_upsert hagrees' key value valueKey).answer fun _ => value
      simp only
      generalize s'.upsert key value valueKey = x at hwritten
      generalize t'.upsert key value valueKey = y at hwritten
      obtain ⟨e | _, s''⟩ := x <;> obtain ⟨e' | _, t''⟩ := y <;> exact hwritten

theorem parallel_remove (h : s.Agrees t) (key : String) :
    Parallel id (s.remove key) (t.remove key) := by
  cases hclosed : s.store.closed with
  | true =>
    have hclosed' := h.stores.closed.trans hclosed
    unfold remove
    rw [if_pos hclosed, if_pos hclosed']
    exact parallel_of_eq h rfl
  | false =>
    have hclosed' := h.stores.closed.trans hclosed
    have hget := h.stores.get?_eq key
    cases hfound : s.store.entries.get? key with
    | none =>
      rw [hfound] at hget
      rw [remove_of_none hclosed hfound, remove_of_none hclosed' hget]
      exact parallel_of_eq h rfl
    | some e =>
      rw [hfound] at hget
      rw [remove_of_some hclosed hfound, remove_of_some hclosed' hget]
      exact parallel_saveThen (h.withStore (h.stores.discard key).2) true
        (fun _ => Store.memory_announce _ _) fun _ => Store.memory_announce _ _

theorem parallel_removeWhere (h : s.Agrees t) (start : Option String) (test : String → Bool) :
    Parallel id (s.removeWhere start test) (t.removeWhere start test) := by
  obtain ⟨hremoved, hstores⟩ := h.stores.discardAll (h.doomed_perm start test)
  rw [removeWhere_eq, removeWhere_eq, h.stores.closed, hremoved.isEmpty_eq, hremoved.length_eq]
  split
  · exact parallel_of_eq h rfl
  · split
    · exact parallel_of_eq h rfl
    · exact parallel_saveThen (h.withStore hstores) _ (Store.memory_announceAll _)
        (Store.memory_announceAll _)

theorem parallel_clear (h : s.Agrees t) : Parallel id s.clear t.clear := by
  rw [clear_eq, clear_eq, h.stores.closed]
  split
  · exact parallel_of_eq h rfl
  · exact parallel_saveThen (h.withStore h.stores.discardEverything) ()
      (fun _ => Store.memory_announce _ _) fun _ => Store.memory_announce _ _

theorem parallel_close (h : s.Agrees t) : Parallel id s.close t.close := by
  rw [close_of_idle h.stores.idle, close_of_idle h.stores.idle', h.stores.closed]
  split
  · exact parallel_of_eq h rfl
  · exact parallel_saveThen (h.withStore h.stores.close) () (fun _ => rfl) fun _ => rfl

/-- Does the operation work in memory, apart from saving? -/
def Operation.inMemory : Operation → Bool
  | .getBuffered .. | .rollback => false
  | _ => true

/-- **An operation does the same in memory on both sides.** -/
theorem Agrees.perform (h : s.Agrees t) {o : Operation} (hmemory : o.inMemory = true)
    (hf : o.Updates Update.Steady) :
    Parallel Interruption.failed (s.perform o) (t.perform o) := by
  cases o with
  | get key valueKey =>
    obtain ⟨hvalue, hagrees⟩ := h.get key valueKey
    have hfound := congrArg (fun value => (Except.ok (.found value) : Answer)) hvalue
    exact parallel_of_eq hagrees hfound
  | upsert key value valueKey => exact (parallel_upsert h key value valueKey).answer _
  | upsertAs codec key v valueKey => exact (parallel_upsertEncoded h key _ valueKey).answer _
  | upsertManyAs codec key vs valueKey => exact (parallel_upsertEncoded h key _ valueKey).answer _
  | upsertAsIf codec key v valueKey condition =>
    exact (parallel_upsertUnless h key _ _ valueKey).answer _
  | upsertManyAsIf codec key vs valueKey condition =>
    exact (parallel_upsertUnless h key _ _ valueKey).answer _
  | update key valueKey f => exact (parallel_update h key valueKey hf).map Reply.value
  | getOrAdd key valueKey make => exact (parallel_getOrAdd h key valueKey make).answer _
  | remove key => exact (parallel_remove h key).answer _
  | removeWhere start test => exact (parallel_removeWhere h start test).answer _
  | clear => exact (parallel_clear h).answer _
  | drain =>
    rw [Session.perform, Session.perform, drain_of_idle h.stores.idle,
      drain_of_idle h.stores.idle']
    exact parallel_of_eq h rfl
  | save cancelled => exact (parallel_save h cancelled).answer _
  | close => exact (parallel_close h).answer _
  | _ => simp [Operation.inMemory] at hmemory

/-! ## Runs -/

/-- Two calls of the same operation. What happens elsewhere before each may differ, but it releases
no cipher. -/
structure Call.Mirrors (c d : Call) : Prop where
  operation : d.operation = c.operation
  inMemory : c.operation.inMemory = true
  steady : c.operation.Updates Update.Steady
  sound : ∀ h : Host, h.keyring.Sound → (c.elsewhere h).keyring.Sound
  sound' : ∀ h : Host, h.keyring.Sound → (d.elsewhere h).keyring.Sound

/-- The operation was answered with the error of a save. -/
def Event.SaveFailed (x : Event) : Prop :=
  Session.SaveFailed Interruption.failed (x.answer, x.after)

/-- After the two operations the stores hold the same and all reads agree, and so do the answers
unless one is the error of a save. -/
structure Event.Matches (x y : Event) : Prop where
  stores : x.after.store.Alike y.after.store
  entries : ∀ key, x.after.store.entries.get? key = y.after.store.entries.get? key
  reads : ∀ key valueKey, (x.after.get key valueKey).1 = (y.after.get key valueKey).1
  buffers : ∀ key valueKey (extra : UInt64),
    (∀ e, x.after.store.entries.get? key = some e →
      e.bytes.length + extra.toNat < Bytes.bound 8) →
      (x.after.getBuffered key valueKey extra).1.map (·.written)
        = (y.after.getBuffered key valueKey extra).1.map (·.written)
  answers : x.answer = y.answer ∨ x.SaveFailed ∨ y.SaveFailed

theorem Agrees.of_opened {c c' : Config} (hs : s.Opened c) (ht : t.Opened c')
    (halike : s.store.Alike t.store) (hsound : s.host.keyring.Sound)
    (hsound' : t.host.keyring.Sound) : s.Agrees t :=
  ⟨{ halike with
      orderly := hs.serves.orderly
      orderly' := ht.serves.orderly
      idle := hs.idle
      idle' := ht.idle }, hsound, hsound'⟩

theorem Agrees.matches {x y : Event} (h : x.after.Agrees y.after)
    (hanswers : x.answer = y.answer ∨ x.SaveFailed ∨ y.SaveFailed) : x.Matches y where
  stores := h.stores.toAlike
  entries key := (h.stores.get?_eq key).symm
  reads key valueKey := (h.get key valueKey).1
  buffers key valueKey extra hextra := by
    have hextra' := hextra
    simp only [← h.stores.get?_eq] at hextra'
    rw [written_getBuffered key valueKey hextra,
      written_getBuffered key valueKey hextra', (h.get key valueKey).1]
  answers := hanswers

theorem Agrees.call (h : s.Agrees t) {c d : Call} (hcall : c.Mirrors d) :
    Parallel Interruption.failed (s.call c) (t.call d) := by
  have hfound :
      Agrees { s with host := c.elsewhere s.host } { t with host := d.elsewhere t.host } := ⟨h.stores, hcall.sound _ h.sound, hcall.sound' _ h.sound'⟩
  unfold Session.call
  rw [hcall.operation]
  exact hfound.perform hcall.inMemory hcall.steady

theorem Agrees.history (h : s.Agrees t) {calls calls' : List Call}
    (hcalls : List.Forall₂ Call.Mirrors calls calls') :
    List.Forall₂ Event.Matches (s.history calls) (t.history calls') := by
  induction hcalls generalizing s t with
  | nil => exact .nil
  | cons hcall _ ih =>
    have hparallel := h.call hcall
    exact .cons (hparallel.agrees.matches hparallel.answers) (ih hparallel.agrees)

/-- **What is in memory does not depend on the disk.** Two open stores that are alike stay alike
when the same operations are performed on both, whatever is behind them and whatever happens to
their disks meanwhile. -/
theorem history_matches {c c' : Config} (hs : s.Opened c) (ht : t.Opened c')
    (halike : s.store.Alike t.store) (hsound : s.host.keyring.Sound)
    (hsound' : t.host.keyring.Sound) {calls calls' : List Call}
    (hcalls : List.Forall₂ Call.Mirrors calls calls') :
    List.Forall₂ Event.Matches (s.history calls) (t.history calls') :=
  (Agrees.of_opened hs ht halike hsound hsound').history hcalls

end Session

/-- A store that lives in memory only, with the one entry that `gazetteAlone` has too. -/
def slate : Session := ((Host.session {} {}).upsert "a" [7] none).2

/-- An update and a removal. -/
def slateCalls : List Session.Call :=
  [{ operation := .update "a" none appendOne }, { operation := .remove "a" }]

/-- In memory both succeed. Without its folder the other store can save neither, and all the same
it has the new value and then no entry. -/
theorem Session.history_matches_slate :
    slate.Opened {} ∧ gazetteAlone.Opened gazette ∧ slate.store.Alike gazetteAlone.store
      ∧ slate.host.keyring.Sound ∧ gazetteAlone.host.keyring.Sound
      ∧ List.Forall₂ Session.Call.Mirrors slateCalls slateCalls
      ∧ (slate.history slateCalls).map (·.answer) = [.ok (.value [7, 1]), .ok (.decided true)]
      ∧ (gazetteAlone.history slateCalls).map (·.answer)
        = [.error (.failed (.io .notFound)), .error (.failed (.io .notFound))]
      ∧ List.Forall₂ Session.Event.Matches (slate.history slateCalls)
        (gazetteAlone.history slateCalls) := by
  have hopened : slate.Opened {} :=
    (Host.opened_session (by decide +kernel)).trans (.upsert _ "a" [7] none)
  have hentries : gazetteAlone.store.entries.entries = slate.store.entries.entries := by
    decide +kernel
  have halike : slate.store.Alike gazetteAlone.store :=
    ⟨hentries ▸ .refl _, by decide +kernel, by decide +kernel, by decide +kernel,
      by decide +kernel, by decide +kernel⟩
  have hkeyring : slate.host.keyring = {} := by decide +kernel
  have hsound : slate.host.keyring.Sound := hkeyring ▸ Keyring.sound_empty
  have hsound' : gazetteAlone.host.keyring.Sound := Keyring.sound_empty
  have hupdate : Update.Steady appendOne := Update.steady_of_pure fun value => .ok (value ++ [1])
  have hcalls : List.Forall₂ Session.Call.Mirrors slateCalls slateCalls :=
    .cons ⟨rfl, rfl, hupdate, fun _ => id, fun _ => id⟩
      (.cons ⟨rfl, rfl, trivial, fun _ => id, fun _ => id⟩ .nil)
  exact ⟨hopened, opened_gazetteAlone, halike, hsound, hsound', hcalls, by decide +kernel,
    by decide +kernel, history_matches hopened opened_gazetteAlone halike hsound hsound' hcalls⟩

end Coffer
