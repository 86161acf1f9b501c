import Coffer.Proofs.Deeds
import Coffer.Proofs.Updating

/-!
# Writes under different keys commute

Writes and removals whose keys differ under the comparer can be done in any order: the store holds
the same afterwards, with the same counters, and each of them is answered the same
(`errands_commute`).

Each call does a deed in memory and then may save. The form in which a value is sealed, and whether
a key is there to be removed, do not depend on what is done under other keys. So the deeds and the
answers can both be told at the beginning (`Session.deed`, `Session.outcome`), and it is enough that
the deeds commute. Where a save fails, that call is answered with the error, and in memory nothing
is different.
-/

namespace Coffer

/-- A write or a removal of one key. -/
inductive Errand where
  | put (key : String) (value : Bytes) (valueKey : Option String)
  | drop (key : String)

namespace Errand

def key : Errand → String
  | .put key .. => key
  | .drop key => key

def operation : Errand → Session.Operation
  | .put key value valueKey => .upsert key value valueKey
  | .drop key => .remove key

end Errand

namespace Session

variable {c : Comparer} {s t : Session} {e : Errand}

/-- What an errand does to the store, if values are sealed as the session seals them. -/
def deed (s : Session) : Errand → Store.Deed
  | .put key value valueKey =>
    match (s.sealValue value valueKey).1 with
    | .ok stored => .merge { key, value := stored }
    | .error _ => .pass key
  | .drop key => .discard key

/-- What an errand is answered, if saving does not fail. -/
def outcome (s : Session) : Errand → Answer
  | .put _ value valueKey =>
    ((s.sealValue value valueKey).1.mapError .failed).map fun _ => .done
  | .drop key => .ok (.decided (s.store.entries.contains key))

/-- The session after errands, one after the other. -/
def afterAll (s : Session) (es : List Errand) : Session :=
  es.foldl (fun s e => (s.perform e.operation).2) s

/-- The errands as they were performed. -/
def events (s : Session) (es : List Errand) : List Event :=
  s.history (es.map fun e => { operation := e.operation })

theorem key_deed (s : Session) (e : Errand) : (s.deed e).key = e.key := by
  cases e with
  | put key value valueKey =>
    rw [deed]
    split <;> rfl
  | drop key => rfl

/-! ## One errand -/

/-- An errand does its deed, whether that can be saved or not. -/
theorem memory_errand (h : s.Ready c) (e : Errand) :
    (s.perform e.operation).2.store.memory = (s.store.after (s.deed e)).memory := by
  cases e with
  | put key value valueKey =>
    show (s.upsert key value valueKey).2.store.memory = _
    rw [deed]
    cases hsealed : s.sealValue value valueKey with
    | mk sealed s' =>
      have hstore : s'.store = s.store := by rw [← store_sealValue s value valueKey, hsealed]
      cases sealed with
      | ok stored => exact memory_upsert h.idle h.unclosed hsealed key
      | error f =>
        rw [upsert, if_neg (by simp [h.unclosed]), hsealed]
        exact congrArg Store.memory hstore
  | drop key =>
    show (s.remove key).2.store.memory = (s.store.discard key).2.memory
    cases hget : s.store.entries.get? key with
    | none => rw [remove_of_none h.unclosed hget, Store.discard_of_none hget]
    | some f =>
      rw [remove_of_some h.unclosed hget]
      exact memory_saveThen (fun store => Store.memory_announce store _) _ true

/-- It is answered its outcome, or else with the error of a save. -/
theorem answer_errand (h : s.Ready c) (e : Errand) :
    (s.perform e.operation).1 = s.outcome e ∨ SaveFailed .failed (s.perform e.operation) := by
  cases e with
  | put key value valueKey =>
    cases hsealed : s.sealValue value valueKey with
    | mk sealed s' =>
      cases sealed with
      | ok stored =>
        refine (upsert_answer h.idle h.unclosed hsealed key).imp (fun hok => ?_) (·.answer _)
        show ((s.upsert key value valueKey).1.mapError _).map _ = _
        rw [hok, outcome, hsealed]
        rfl
      | error f =>
        left
        show ((s.upsert key value valueKey).1.mapError _).map _ = _
        rw [upsert, if_neg (by simp [h.unclosed]), outcome, hsealed]
        rfl
  | drop key =>
    cases hget : s.store.entries.get? key with
    | none =>
      left
      show ((s.remove key).1.mapError _).map _ = _
      rw [remove_of_none h.unclosed hget, outcome, Dictionary.contains, hget]
      rfl
    | some f =>
      have hremove := remove_of_some h.unclosed hget
      have hanswer := saveThen_answer (s.withStore (s.store.discard key).2) true
        (announceRemoval · f)
      rw [← hremove] at hanswer
      refine hanswer.imp (fun hok => ?_) (·.answer _)
      show ((s.remove key).1.mapError _).map _ = _
      rw [hok, outcome, Dictionary.contains, hget]
      rfl

theorem touches_errand (h : s.Ready c) (e : Errand) :
    Touches (· = e.key) s (s.perform e.operation).2 := by
  cases e with
  | put key value valueKey => exact touches_upsert h.idle (by rfl) value valueKey
  | drop key => exact touches_remove s (by rfl)

/-! ## What stays the same for the others -/

section Touched

variable {keys : String → Prop} (h : Touches keys s t) (hlinked : s.host.keyring.Linked)

include h hlinked

/-- A value is sealed in the same way afterwards. -/
theorem Touches.sealValue (value : Bytes) (valueKey : Option String) :
    (t.sealValue value valueKey).1 = (s.sealValue value valueKey).1 := by
  unfold Session.sealValue
  cases activeKey valueKey with
  | none => rfl
  | some passphrase =>
    exact congrArg (Except.bind · fun cipher => cipher.encrypt value)
      (h.cipherFor hlinked passphrase)

theorem Touches.deed (e : Errand) : t.deed e = s.deed e := by
  cases e with
  | put key value valueKey => rw [Session.deed, Session.deed, h.sealValue hlinked]
  | drop key => rfl

/-- An errand under another key is answered the same. -/
theorem Touches.outcome
    (hkey : ∀ other, keys other →
      s.store.comparer.normalize e.key ≠ s.store.comparer.normalize other) :
    t.outcome e = s.outcome e := by
  cases e with
  | put key value valueKey => rw [Session.outcome, Session.outcome, h.sealValue hlinked]
  | drop key =>
    exact congrArg (fun found => Except.ok (Reply.decided found.isSome)) (h.get? hkey)

end Touched

/-! ## Many errands -/

/-- Errands do the deeds that they would do at the beginning. -/
theorem agrees_afterAll (h : s.Ready c) {a : Store} (hagrees : a.Agrees s.store)
    (es : List Errand) :
    ((es.map s.deed).foldl Store.after a).Agrees (s.afterAll es).store := by
  induction es generalizing s a with
  | nil => exact hagrees
  | cons e es ih =>
    have htouches := touches_errand h e
    have hfirst : (a.after (s.deed e)).Agrees (s.perform e.operation).2.store :=
      (hagrees.after (s.deed e)).of_memory rfl (memory_errand h e)
    have hrest := ih (h.of_touches htouches) hfirst
    rwa [List.map_congr_left fun f _ => htouches.deed h.linked f] at hrest

/-- They are answered what they would be answered at the beginning, but for errors of saving. -/
theorem answers_afterAll (h : s.Ready c) {es : List Errand}
    (hapart : (es.map fun e => c.normalize e.key).Nodup) :
    List.Forall₂ (fun e x => x.answer = s.outcome e ∨ x.SaveFailed) es (s.events es) := by
  induction es generalizing s with
  | nil => exact .nil
  | cons e es ih =>
    obtain ⟨hne, hrest⟩ := List.nodup_cons.mp hapart
    have htouches := touches_errand h e
    have hsame : ∀ f ∈ es, (s.perform e.operation).2.outcome f = s.outcome f := by
      refine fun f hf => htouches.outcome h.linked ?_
      rintro _ rfl heq
      rw [h.comparer] at heq
      exact hne (List.mem_map.mpr ⟨f, hf, heq⟩)
    have hlater := ih (h.of_touches htouches) hrest
    refine .cons (answer_errand h e) (((List.forall₂_and_left es _).mpr ⟨hsame, hlater⟩).imp ?_)
    rintro f x ⟨hf, hx⟩
    rwa [hf] at hx

/-- Where no save fails, what each errand is answered is its outcome. -/
theorem zip_answers {f : Errand → Answer} {es : List Errand} {xs : List Event}
    (h : List.Forall₂ (fun e x => x.answer = f e ∨ x.SaveFailed) es xs)
    (hsaved : ∀ x ∈ xs, ¬x.SaveFailed) :
    es.zip (xs.map (·.answer)) = es.map fun e => (e, f e) := by
  induction h with
  | nil => rfl
  | cons hx _ ih =>
    obtain ⟨hfirst, hrest⟩ := List.forall_mem_cons.mp hsaved
    rw [List.map_cons, List.zip_cons_cons, List.map_cons, hx.resolve_right hfirst, ih hrest]

/-- With keys in UTF-8 the estimate covers what the entries are charged. -/
theorem Opened.covered_utf8 {config : Config} (hs : s.Opened config)
    (hutf8 : config.encoding = .utf8) : s.store.Covered config 0 := by
  refine hs.covered fun d estimate hload => ?_
  have hle := hload.weight_le.2
  rw [hutf8] at hle ⊢
  rwa [funext KeyEncoding.length_utf8] at hle

/-- **Writes and removals under different keys commute.** Whether they can be saved or not, the
store holds and counts the same in whatever order they are done, and where no save fails each of
them is answered the same. -/
theorem errands_commute {config : Config} (hs : s.Opened config) (hopen : s.store.closed = false)
    (hlinked : s.host.keyring.Linked) (hutf8 : config.encoding = .utf8) {es es' : List Errand}
    (hperm : es.Perm es') (hapart : (es.map fun e => s.store.comparer.normalize e.key).Nodup) :
    (s.afterAll es).store.Agrees (s.afterAll es').store
      ∧ (∀ key, (s.afterAll es').store.entries.get? key = (s.afterAll es).store.entries.get? key)
      ∧ ((∀ x ∈ s.events es ++ s.events es', ¬x.SaveFailed) →
        (es.zip ((s.events es).map (·.answer))).Perm
          (es'.zip ((s.events es').map (·.answer)))) := by
  have hready : s.Ready s.store.comparer := ⟨hs.idle, hopen, hlinked, rfl⟩
  have hself : s.store.Agrees s.store := .refl hs.serves.orderly hs.idle
  have hdeeds : ((es.map s.deed).map fun x => s.store.comparer.normalize x.key).Nodup := by
    simpa only [List.map_map, Function.comp_def, key_deed] using hapart
  have hagrees : (s.afterAll es).store.Agrees (s.afterAll es').store :=
    ((agrees_afterAll hready hself es).symm.trans
      (Store.agrees_of_perm (hperm.map _) (hs.covered_utf8 hutf8) hs.idle hdeeds)).trans
        (agrees_afterAll hready hself es')
  refine ⟨hagrees, hagrees.get?_eq, fun hsaved => ?_⟩
  have hapart' := (hperm.map fun e => s.store.comparer.normalize e.key).nodup_iff.mp hapart
  obtain ⟨hfirst, hsecond⟩ := List.forall_mem_append.mp hsaved
  rw [zip_answers (answers_afterAll hready hapart) hfirst,
    zip_answers (answers_afterAll hready hapart') hsecond]
  exact hperm.map _

/-- A write with a passphrase under a key that is there, a removal, and a write under a new key. -/
def lexiconErrands : List Errand :=
  [.put "KELVIN" [7, 8] (some "p"), .drop "joule", .put "Watt" [3] none]

set_option maxRecDepth 8000 in
/-- In either order the three are answered the same, and leave the same entries. -/
theorem errands_commute_lexicon :
    lexicon.Opened { ignoreCase := true } ∧ lexicon.store.closed = false
      ∧ lexicon.host.keyring.Linked
      ∧ lexiconErrands.Perm lexiconErrands.reverse
      ∧ (lexiconErrands.map fun e => lexicon.store.comparer.normalize e.key).Nodup
      ∧ (lexicon.afterAll lexiconErrands).store.Agrees
        (lexicon.afterAll lexiconErrands.reverse).store
      ∧ (lexiconErrands.zip ((lexicon.events lexiconErrands).map (·.answer))).Perm
        (lexiconErrands.reverse.zip
          ((lexicon.events lexiconErrands.reverse).map (·.answer))) := by
  have hopen : lexicon.store.closed = false := by decide
  have hperm : lexiconErrands.Perm lexiconErrands.reverse := (List.reverse_perm _).symm
  have hapart : (lexiconErrands.map fun e => lexicon.store.comparer.normalize e.key).Nodup := by
    decide
  have hall : ∀ x ∈ lexicon.events lexiconErrands ++ lexicon.events lexiconErrands.reverse,
      x.answer.isOk = true := by decide
  obtain ⟨hagrees, -, hanswers⟩ := errands_commute opened_lexicon hopen sound_lexicon.linked rfl
    hperm hapart
  refine ⟨opened_lexicon, hopen, sound_lexicon.linked, hperm, hapart, hagrees, hanswers ?_⟩
  intro x hx hfailed
  have hok := hall x hx
  cases hanswer : x.answer with
  | error i =>
    rw [hanswer] at hok
    cases hok
  | ok r => exact not_saveFailed_of_ok hanswer hfailed

end Session

end Coffer
