import Coffer.Proofs.Conditions
import Coffer.Proofs.Effects
import Coffer.Proofs.Following

/-!
# A closed store is frozen

Once a store has been closed, whatever the close was answered, no operation but a rollback changes
what it holds or counts, and nobody hears of anything any more (`frozen_of_close`). Only its archive
and the number of saves can change, for a closed store can still be saved.

What would write is refused, each operation at the place where it asks whether the store is open. An
update asks first, so that nothing is computed. A typed value is encoded before that, and its own
error is told. A condition is decided before, and so is whether a key is there that is to be added:
these two still succeed where there is nothing to write (`Session.Refuses`).

A factory is run in no case. Its result alone would not tell, so this is said of a factory that may
have any effects: the call has none of them.
-/

namespace Coffer

variable {α β : Type}

namespace Session

variable {s t : Session} {c : Config} {key : String} {valueKey : Option String}

/-! ## What is refused -/

/-- All that writes is refused and leaves the session as it is, or as reading does. What an update
would make of the value makes no difference, and whatever effects a factory has, there are none. -/
structure Refuses (s : Session) : Prop where
  upsert : ∀ key value valueKey, s.upsert key value valueKey = (.error .closed, s)
  upsertAs : ∀ {α : Type} (codec : Codec α) key v valueKey,
    s.upsertAs codec key v valueKey = (.error (refusal (codec.encode v)), s)
  upsertManyAs : ∀ {α : Type} (codec : Codec α) key vs valueKey,
    s.upsertManyAs codec key vs valueKey = (.error (refusal (codec.encodeMany vs)), s)
  upsertAsIf : ∀ {α : Type} (codec : Codec α) key v valueKey condition,
    s.upsertAsIf codec key v valueKey condition
      = (if (s.getAs codec key valueKey).1.any (fun w => !condition w) then .ok false
        else .error (refusal (codec.encode v)), (s.get key valueKey).2)
  upsertManyAsIf : ∀ {α : Type} (codec : Codec α) key vs valueKey condition,
    s.upsertManyAsIf codec key vs valueKey condition
      = (if (s.getManyAs codec key valueKey).1.any (fun ws => !condition ws) then .ok false
        else .error (refusal (codec.encodeMany vs)), (s.get key valueKey).2)
  update : ∀ key valueKey f, s.update key valueKey f = (.error (.failed .closed), s)
  getOrAdd : ∀ key valueKey make, s.getOrAdd key valueKey make
    = ((s.get key valueKey).1.elim (.error .closed) .ok, (s.get key valueKey).2)
  getOrAddM : ∀ {m : Type → Type} [Monad m] key valueKey
    (make : Session → String → m (Bytes × Session)), s.getOrAddM key valueKey make
      = pure ((s.get key valueKey).1.elim (.error .closed) .ok, (s.get key valueKey).2)
  remove : ∀ key, s.remove key = (.error .closed, s)
  removeWhere : ∀ start test, s.removeWhere start test = (.error .closed, s)
  clear : s.clear = (.error .closed, s)

section Closed

variable (hclosed : s.store.closed = true)

include hclosed

/-- A conditional write decodes the value so far before it decides. -/
theorem upsertDecoded_refused (decode? : Bytes → Option β) (key : String) (condition : β → Bool)
    (encoded : Except Error Bytes) (valueKey : Option String) :
    s.upsertUnless key (fun b => (decode? b).any fun w => !condition w) encoded valueKey
      = (if ((s.get key valueKey).1.bind decode?).any (fun w => !condition w) then .ok false
        else .error (refusal encoded), (s.get key valueKey).2) := by
  rw [upsertUnless_refused hclosed, any_decode]

theorem update_refused (key : String) (valueKey : Option String) (f : Update) :
    s.update key valueKey f = (.error (.failed .closed), s) := by
  rw [update, if_pos hclosed]

/-- **A closed store refuses all that writes.** -/
theorem refuses_of_closed : s.Refuses where
  upsert key value valueKey := upsertEncoded_refused hclosed key (.ok value) valueKey
  upsertAs codec key v valueKey := upsertEncoded_refused hclosed key (codec.encode v) valueKey
  upsertManyAs codec key vs valueKey :=
    upsertEncoded_refused hclosed key (codec.encodeMany vs) valueKey
  upsertAsIf codec key v valueKey condition :=
    upsertDecoded_refused hclosed codec.decode? key condition (codec.encode v) valueKey
  upsertManyAsIf codec key vs valueKey condition :=
    upsertDecoded_refused hclosed codec.decodeMany? key condition (codec.encodeMany vs) valueKey
  update := update_refused hclosed
  getOrAdd := getOrAdd_refused hclosed
  getOrAddM := getOrAddM_of_closed hclosed
  remove key := by rw [remove, if_pos hclosed]
  removeWhere start test := by rw [removeWhere, if_pos hclosed]
  clear := by rw [clear, if_pos hclosed]

/-! ## What stays as it is -/

/-- **No operation but a rollback changes a closed store**, its archive and the number of saves
apart. -/
theorem unsaved_perform_of_closed (hidle : s.store.pending = []) {o : Operation}
    (hload : o ≠ .rollback) : (s.perform o).2.store.unsaved = s.store.unsaved := by
  by_cases hplain : o.Updates fun _ => False
  · by_cases hsave : ∃ cancelled, o = .save cancelled
    · obtain ⟨cancelled, rfl⟩ := hsave
      exact unsaved_save s cancelled
    · have hstore := (perform_of_closed hclosed hidle hplain (not_exists.mp hsave) hload).1
      exact congrArg Store.unsaved hstore
  · cases o with
    | update key valueKey f => rw [perform, update_refused hclosed]
    | _ => exact absurd trivial hplain

end Closed

/-- What saving does not change of a closed store, no run without a rollback changes, if those who
step in between leave it alone. -/
theorem Runs.read_of_closed {aside : Session → Session → Prop} {read : Store → β}
    (hread : ∀ a b : Store, b.unsaved = a.unsaved → read b = read a)
    (haside : ∀ s t, aside s t → Aside s t ∧ read t.store = read s.store)
    (hrun : Runs aside (fun _ o => o ≠ .rollback) s t) (hclosed : s.store.closed = true)
    (hidle : s.store.pending = []) :
    t.store.closed = true ∧ t.store.pending = [] ∧ read t.store = read s.store := by
  have hstep : ∀ {s t : Session}, t.store.unsaved = s.store.unsaved → s.store.closed = true →
      s.store.pending = [] →
      t.store.closed = true ∧ t.store.pending = [] ∧ read t.store = read s.store :=
    fun hsame hclosed hidle => ⟨(congrArg Store.closed hsame :).trans hclosed,
      (congrArg Store.pending hsame :).trans hidle, hread _ _ hsame⟩
  induction hrun with
  | refl => exact ⟨hclosed, hidle, rfl⟩
  | trans _ _ ih ih' =>
    obtain ⟨hclosed', hidle', hsame⟩ := ih hclosed hidle
    obtain ⟨hclosed'', hidle'', hsame'⟩ := ih' hclosed' hidle'
    exact ⟨hclosed'', hidle'', hsame'.trans hsame⟩
  | aside h =>
    obtain ⟨⟨host, feed, rfl⟩, hsame⟩ := haside _ _ h
    exact ⟨hclosed, hidle, hsame⟩
  | perform s hload hf => exact hstep (unsaved_perform_of_closed hclosed hidle hload) hclosed hidle
  | update s key valueKey f hload _ _ =>
    exact hstep (unsaved_perform_of_closed hclosed hidle hload) hclosed hidle

/-- A close closes the store, whatever it is answered. -/
theorem closed_close (hidle : s.store.pending = []) : s.close.2.store.closed = true := by
  rw [close_of_idle hidle]
  split
  · next hclosed => exact hclosed
  · have htell : ∀ store : Store, (id store).memory = store.memory := fun _ => rfl
    have hmemory := memory_saveThen htell (s.withStore { s.store with closed := true }) ()
    exact (congrArg Store.closed hmemory :)

end Session

/-! ## Tables -/

namespace Table

/-- All that writes through the table is refused. -/
structure Refuses (x : Table α) (s : Session) : Prop where
  upsert : ∀ key v, x.upsert s key v = (.error (Session.refusal (x.codec.encode v)), s)
  upsertMany : ∀ key vs, x.upsertMany s key vs = (.error (Session.refusal (x.codec.encodeMany vs)), s)
  upsertIf : ∀ key v condition, x.upsertIf s key v condition
    = (if (x.get s key).1.any (fun w => !condition w) then .ok false
      else .error (Session.refusal (x.codec.encode v)), (x.get s key).2)
  remove : ∀ key, x.remove s key = (.error .closed, s)
  removeWhere : ∀ test, x.removeWhere s test = (.error .closed, s)

/-- **What the store refuses it refuses through a table too.** -/
theorem refuses_of_refuses {s : Session} (h : s.Refuses) (x : Table α) : x.Refuses s where
  upsert key v := h.upsertAs x.codec (x.storedKey key) v x.valueKey
  upsertMany key vs := h.upsertManyAs x.codec (x.storedKey key) vs x.valueKey
  upsertIf key v condition := h.upsertAsIf x.codec (x.storedKey key) v x.valueKey condition
  remove key := h.remove (x.storedKey key)
  removeWhere test := h.removeWhere (some x.start) test

end Table

namespace Session

variable {s t : Session} {c : Config}

/-- **A closed store is frozen.** Whatever the close was answered, and whatever is done afterwards
without loading: the store stays closed, holds and counts what it did, tells its subscribers
nothing, and refuses all that writes, also through tables. -/
theorem frozen_of_close (hs : s.Opened c)
    (hrun : Runs Aside (fun _ o => o ≠ .rollback) s.close.2 t) :
    t.store.closed = true
      ∧ t.store.entries = s.close.2.store.entries
      ∧ t.store.estimate = s.close.2.store.estimate
      ∧ t.store.updates = s.close.2.store.updates
      ∧ (∀ n u, Runs (LeavesAlone n) (fun _ o => o ≠ .rollback) t u →
        u.store.feed.inbox? n = t.store.feed.inbox? n)
      ∧ t.Refuses
      ∧ ∀ {α : Type} (x : Table α), x.Refuses t := by
  have hidle : s.close.2.store.pending = [] := (hs.trans (.close s)).idle
  have haside : ∀ s t, Aside s t → Aside s t ∧ t.store.memory = s.store.memory := by
    rintro s t ⟨host, feed, rfl⟩
    exact ⟨⟨host, feed, rfl⟩, rfl⟩
  obtain ⟨hclosed, hidle', hmemory⟩ := hrun.read_of_closed
    (fun _ _ => Store.memory_of_unsaved_eq) haside (closed_close hs.idle) hidle
  have hrefuses : t.Refuses := refuses_of_closed hclosed
  refine ⟨hclosed, (congrArg Store.entries hmemory :), (congrArg Store.estimate hmemory :),
    (congrArg Store.updates hmemory :), ?_, hrefuses, Table.refuses_of_refuses hrefuses⟩
  intro n u hlater
  have hsilent : ∀ a b : Store, b.unsaved = a.unsaved → b.feed.inbox? n = a.feed.inbox? n :=
    fun a b h => (congrArg (·.feed.inbox? n) h :)
  exact (hlater.read_of_closed hsilent (fun _ _ h => h) hclosed hidle').2.2

/-- The store without a folder, after it was closed, an update and a removal of everything were
tried, and it was saved. -/
def gazetteFrozen : Session :=
  (((gazetteAlone.close.2.perform (.update "a" none appendOne)).2.perform .clear).2.perform
    (.save false)).2

/-- The close fails, and so does all that follows, but for adding a key that is there. The entry
stays, the subscriber has heard of nothing but the write of it, and a factory that counts its runs
counts none. -/
theorem frozen_of_close_gazette :
    gazetteAlone.Opened gazette ∧ gazetteAlone.close.1 = .error (.io .notFound)
      ∧ Runs Aside (fun _ o => o ≠ .rollback) gazetteAlone.close.2 gazetteFrozen
      ∧ gazetteFrozen.store.entries.entries = [{ key := "a", value := some [7] }]
      ∧ gazetteFrozen.store.updates = 1
      ∧ (gazetteFrozen.getOrAdd "b" none fun s _ => ([1], s)) = (.error .closed, gazetteFrozen)
      ∧ (gazetteFrozen.getOrAdd "a" none fun s _ => ([1], s)).1 = .ok [7]
      ∧ (gazetteFrozen.getOrAddM (m := StateM Nat) "b" none fun s _ => do
          modify (· + 1)
          return ([1], s)).run 0 = ((.error .closed, gazetteFrozen), 0)
      ∧ (gazetteFrozen.perform .clear).2.store.feed.inbox? 0 = gazetteFrozen.store.feed.inbox? 0
      ∧ gazetteFrozen.remove "a" = (.error .closed, gazetteFrozen) := by
  have hrun : Runs Aside (fun _ o => o ≠ .rollback) gazetteAlone.close.2 gazetteFrozen :=
    ((Runs.update _ "a" none appendOne nofun fun _ => .refl _).trans
      (.perform (o := .clear) _ nofun trivial)).trans (.perform (o := .save false) _ nofun trivial)
  have hlater : Runs (LeavesAlone 0) (fun _ o => o ≠ .rollback) gazetteFrozen
      (gazetteFrozen.perform .clear).2 := .perform (o := .clear) _ nofun trivial
  obtain ⟨-, hentries, -, hupdates, hsilent, hrefuses, -⟩ :=
    frozen_of_close opened_gazetteAlone hrun
  have hheld : gazetteAlone.close.2.store.entries.entries
      = [{ key := "a", value := some [7] }] := by decide +kernel
  have hcounted : gazetteAlone.close.2.store.updates = 1 := by decide +kernel
  have hfound : gazetteAlone.close.2.store.entries.get? "a"
      = some { key := "a", value := some [7] } := by decide +kernel
  have hmissing : gazetteAlone.close.2.store.entries.get? "b" = none := by decide +kernel
  refine ⟨opened_gazetteAlone, by decide +kernel, hrun, hentries ▸ hheld, hupdates.trans hcounted,
    ?_, ?_, ?_, hsilent 0 _ hlater, hrefuses.remove "a"⟩
  · rw [hrefuses.getOrAdd, get, hentries, hmissing]
    rfl
  · rw [hrefuses.getOrAdd, get_fst, hentries, hfound]
    rfl
  · rw [hrefuses.getOrAddM, get, hentries, hmissing]
    rfl

end Session

end Coffer
