import Coffer.Proofs.Updating

/-!
# The first factory provides for all

A key that is missing is provided with a value by whoever asks for it first and brings a factory.
Who asks later finds the value there, so his factory is not run and he gets the same answer, under
whatever spelling he asks; and if the key had a value before, no factory is run at all
(`first_factory_provides`). Between two demands other keys are read and written and removed, and a
factory may do so itself.

That a factory is run, and on what, is an effect of the call that its result does not show.
`getOrAddM` is the call under any effects that a factory may have. It has none of them where there
is a value (`getOrAddM_of_some`), and elsewhere those of one run on the spelling at hand
(`getOrAddM_of_none`). Where the only effect is a note of the run, it is `getOrAdd`
(`Demand.result_eq_getOrAdd`).
-/

namespace Coffer

namespace Session

variable {m : Type → Type} [Monad m] {c : Comparer} {key : String} {valueKey : Option String}
  {s t : Session} {config : Config}

/-- The factory is run once, and what it makes is stored. -/
theorem getOrAddM_of_none {make : Session → String → m (Bytes × Session)}
    (hopen : s.store.closed = false) (h : (s.get key valueKey).1 = none) :
    s.getOrAddM key valueKey make = (do
      let made ← make (s.get key valueKey).2 key
      let written := made.2.upsert key made.1 valueKey
      return (written.1.map fun _ => made.1, written.2)) := by
  rw [getOrAddM_of_missing h, if_neg (by rw [hopen]; exact Bool.false_ne_true)]

/-! ## Demands -/

/-- A demand for the value of a key when its turn has come: the session that it finds, the spelling
that it goes by, and the factory that it brings. -/
structure Demand where
  before : Session
  spelling : String
  make : Factory

namespace Demand

/-- What the demand reads at first. -/
def read (x : Demand) (valueKey : Option String) : Option Bytes × Session :=
  x.before.get x.spelling valueKey

/-- What the factory makes if it is run. -/
def made (x : Demand) (valueKey : Option String) : Bytes × Session :=
  x.make (x.read valueKey).2 x.spelling

/-- The whole call, and a note of every spelling that the factory was run on. -/
def traced (x : Demand) (valueKey : Option String) :
    (Except Error Bytes × Session) × List String :=
  (x.before.getOrAddM (m := StateM (List String)) x.spelling valueKey fun s spelling => do
    modify (· ++ [spelling])
    return x.make s spelling).run []

/-- What the call is answered, and the session after it. -/
def result (x : Demand) (valueKey : Option String) : Except Error Bytes × Session :=
  (x.traced valueKey).1

/-- The spellings that the factory was run on. -/
def runs (x : Demand) (valueKey : Option String) : List String := (x.traced valueKey).2

variable {x : Demand} {value : Bytes}

theorem traced_of_some (h : (x.read valueKey).1 = some value) :
    x.traced valueKey = ((.ok value, (x.read valueKey).2), []) := by
  rw [traced, getOrAddM_of_some h]
  rfl

theorem traced_of_none (hopen : x.before.store.closed = false) (h : (x.read valueKey).1 = none) :
    x.traced valueKey = ((((x.made valueKey).2.upsert x.spelling (x.made valueKey).1 valueKey).1.map
      fun _ => (x.made valueKey).1,
      ((x.made valueKey).2.upsert x.spelling (x.made valueKey).1 valueKey).2), [x.spelling]) := by
  rw [traced, getOrAddM_of_none hopen h]
  rfl

/-- **Noting when the factory is run changes nothing**: the call is `getOrAdd`. -/
theorem result_eq_getOrAdd (x : Demand) (valueKey : Option String) :
    x.result valueKey = x.before.getOrAdd x.spelling valueKey x.make := by
  rw [result]
  cases hread : (x.read valueKey).1 with
  | some value =>
    rw [traced_of_some hread, getOrAdd_of_some hread]
    rfl
  | none =>
    by_cases hclosed : x.before.store.closed = true
    · rw [traced, getOrAddM_of_closed hclosed, getOrAdd_of_missing hread, if_pos hclosed]
      rw [show (x.before.get x.spelling valueKey).1 = none from hread]
      rfl
    · rw [getOrAdd_of_missing hread, if_neg hclosed,
        traced_of_none (Bool.eq_false_iff.mpr hclosed) hread]
      rfl

end Demand

/-- Who wants the value of a key asks for it in turn, by whatever spellings and all with one value
key. Between two demands and while a factory runs there are operations on other keys; a factory that
looks at the spelling alone has none. -/
inductive Demands (c : Comparer) (key : String) (valueKey : Option String) :
    Session → List Demand → Session → Prop
  | done (s : Session) : Demands c key valueKey s [] s
  | others {s t u : Session} {demands : List Demand} (h : RunsApart c key s t)
    (hrest : Demands c key valueKey t demands u) : Demands c key valueKey s demands u
  | demand (x : Demand) {u : Session} {demands : List Demand}
    (hspelling : c.normalize x.spelling = c.normalize key)
    (hmake : (x.read valueKey).1 = none →
      RunsApart c key (x.read valueKey).2 (x.made valueKey).2)
    (hrest : Demands c key valueKey (x.result valueKey).2 demands u) :
    Demands c key valueKey x.before (x :: demands) u

/-- Two spellings of a key read the same. -/
theorem Ready.get_congr (h : s.Ready c) {spelling : String}
    (hspelling : c.normalize spelling = c.normalize key) (valueKey : Option String) :
    (s.get spelling valueKey).1 = (s.get key valueKey).1 :=
  Session.get_congr (by rw [h.comparer]; exact hspelling)

/-! ## One demand -/

namespace Demand

variable {x : Demand} {value : Bytes}

/-- Before anything is written, a factory touches other keys at most. -/
theorem touches_made (h : x.before.Ready c)
    (hmake : RunsApart c key (x.read valueKey).2 (x.made valueKey).2) :
    Touches (Apart c key) x.before (x.made valueKey).2 := by
  have hread : Touches (Apart c key) x.before (x.read valueKey).2 := touches_get _ _ _
  have hready := h.of_touches hread
  exact hread.trans (hmake.touches hready.idle hready.comparer)

/-- A value that is there is the answer, and it stays. -/
theorem result_of_some (hvalue : (x.read valueKey).1 = some value) :
    x.result valueKey = (.ok value, (x.read valueKey).2) ∧ x.runs valueKey = [] := by
  rw [result, runs, traced_of_some hvalue]
  exact ⟨rfl, rfl⟩

/-- Where there is none, what the factory makes is read from then on under every spelling. It is the
answer, unless it cannot be saved. -/
theorem result_of_none (h : x.before.Ready c) (hnone : (x.read valueKey).1 = none)
    (hmake : RunsApart c key (x.read valueKey).2 (x.made valueKey).2)
    (hseal : x.before.CanSeal valueKey) :
    x.runs valueKey = [x.spelling]
      ∧ ((x.result valueKey).1 = .ok (x.made valueKey).1 ∨ SaveFailed id (x.result valueKey))
      ∧ ∀ spelling, c.normalize spelling = c.normalize x.spelling →
        ((x.result valueKey).2.get spelling valueKey).1 = some (x.made valueKey).1 := by
  have htouches := touches_made h hmake
  have hready := h.of_touches htouches
  have hseal' := (htouches.canSeal_iff h.linked valueKey).mpr hseal
  obtain ⟨stored, s', hsealed, hreveal⟩ :=
    exists_sealValue hready.linked hseal' (x.made valueKey).1
  have hwrote := wrote_of_sealed hready.idle hready.unclosed hready.linked hsealed hreveal x.spelling
  have hanswer := upsert_answer hready.idle hready.unclosed hsealed x.spelling
  rw [result, runs, traced_of_none h.unclosed hnone]
  refine ⟨rfl, ?_, fun spelling hspelling => hwrote.read spelling (hready.comparer ▸ hspelling)⟩
  rcases hanswer with hok | hfailed
  · exact .inl (by rw [hok]; rfl)
  · exact .inr (hfailed.map _)

/-- What cannot be sealed is refused, though the factory was run for it. -/
theorem result_of_not_canSeal (h : x.before.Ready c) (hnone : (x.read valueKey).1 = none)
    (hmake : RunsApart c key (x.read valueKey).2 (x.made valueKey).2)
    (hseal : ¬x.before.CanSeal valueKey) :
    x.result valueKey = (.error .released, (x.made valueKey).2)
      ∧ x.runs valueKey = [x.spelling] := by
  have htouches := touches_made h hmake
  have hready := h.of_touches htouches
  have hrefused := upsert_of_not_canSeal hready.unclosed
    (mt (htouches.canSeal_iff h.linked valueKey).mp hseal) x.spelling (x.made valueKey).1
  rw [result, runs, traced_of_none h.unclosed hnone, hrefused]
  exact ⟨rfl, rfl⟩

/-- The demand is over, and the session is ready for the next one. -/
theorem touches_result (h : x.before.Ready c)
    (hmake : (x.read valueKey).1 = none →
      RunsApart c key (x.read valueKey).2 (x.made valueKey).2) :
    Touches (fun _ => True) x.before (x.result valueKey).2 := by
  cases hread : (x.read valueKey).1 with
  | some value =>
    rw [(result_of_some hread).1]
    exact touches_get _ _ _
  | none =>
    have htouches := touches_made h (hmake hread)
    have hready := h.of_touches htouches
    rw [result, traced_of_none h.unclosed hread]
    exact (htouches.mono fun _ _ => trivial).trans (touches_upsert hready.idle trivial _ valueKey)

end Demand

/-! ## All demands -/

variable {value : Bytes} {demands : List Demand}

theorem Demands.ready (hdemands : Demands c key valueKey s demands t) (h : s.Ready c) :
    t.Ready c := by
  induction hdemands with
  | done s => exact h
  | others hrun _ ih => exact ih (h.of_touches (hrun.touches h.idle h.comparer))
  | demand x _ hmake _ ih => exact ih (h.of_touches (Demand.touches_result h hmake))

/-- Once the key has a value, all demands are met with it, and it stays. -/
theorem Demands.of_some (hdemands : Demands c key valueKey s demands t) (h : s.Ready c)
    (hvalue : (s.get key valueKey).1 = some value) :
    (∀ x ∈ demands, x.runs valueKey = [] ∧ (x.result valueKey).1 = .ok value)
      ∧ (t.get key valueKey).1 = some value := by
  induction hdemands with
  | done s => exact ⟨fun x hx => absurd hx List.not_mem_nil, hvalue⟩
  | others hrun _ ih =>
    have htouches := hrun.touches h.idle h.comparer
    exact ih (h.of_touches htouches) ((h.get_of_apart htouches rfl valueKey).trans hvalue)
  | demand x hspelling _ _ ih =>
    have hread : (x.read valueKey).1 = some value :=
      (h.get_congr hspelling valueKey).trans hvalue
    obtain ⟨hresult, hruns⟩ := Demand.result_of_some hread
    have htouches : Touches (Apart c key) x.before (x.result valueKey).2 := by
      rw [hresult]
      exact touches_get _ _ _
    obtain ⟨hall, hend⟩ := ih (h.of_touches htouches)
      ((h.get_of_apart htouches rfl valueKey).trans hvalue)
    exact ⟨List.forall_mem_cons.mpr ⟨⟨hruns, by rw [hresult]⟩, hall⟩, hend⟩

/-- As long as it has none, the first demand provides it. -/
theorem Demands.of_none {first : Demand} (hdemands : Demands c key valueKey s (first :: demands) t)
    (h : s.Ready c) (hnone : (s.get key valueKey).1 = none) (hseal : s.CanSeal valueKey) :
    first.runs valueKey = [first.spelling]
      ∧ ((first.result valueKey).1 = .ok (first.made valueKey).1
        ∨ SaveFailed id (first.result valueKey))
      ∧ (∀ x ∈ demands,
        x.runs valueKey = [] ∧ (x.result valueKey).1 = .ok (first.made valueKey).1)
      ∧ (t.get key valueKey).1 = some (first.made valueKey).1 := by
  generalize hlist : first :: demands = list at hdemands
  induction hdemands with
  | done s => cases hlist
  | others hrun _ ih =>
    have htouches := hrun.touches h.idle h.comparer
    exact ih (h.of_touches htouches) ((h.get_of_apart htouches rfl valueKey).trans hnone)
      ((htouches.canSeal_iff h.linked valueKey).mpr hseal) hlist
  | demand x hspelling hmake hrest _ =>
    obtain ⟨rfl, rfl⟩ := List.cons.inj hlist
    have hread : (first.read valueKey).1 = none :=
      (h.get_congr hspelling valueKey).trans hnone
    obtain ⟨hruns, hanswer, hstored⟩ := Demand.result_of_none h hread (hmake hread) hseal
    obtain ⟨hall, hend⟩ := hrest.of_some (h.of_touches (Demand.touches_result h hmake))
      (hstored key hspelling.symm)
    exact ⟨hruns, hanswer, hall, hend⟩

/-- With a cipher that was released no demand is met, and the key stays missing. -/
theorem Demands.of_not_canSeal (hdemands : Demands c key valueKey s demands t) (h : s.Ready c)
    (hnone : (s.get key valueKey).1 = none) (hseal : ¬s.CanSeal valueKey) :
    (∀ x ∈ demands, x.runs valueKey = [x.spelling] ∧ (x.result valueKey).1 = .error .released)
      ∧ (t.get key valueKey).1 = none := by
  induction hdemands with
  | done s => exact ⟨fun x hx => absurd hx List.not_mem_nil, hnone⟩
  | others hrun _ ih =>
    have htouches := hrun.touches h.idle h.comparer
    exact ih (h.of_touches htouches) ((h.get_of_apart htouches rfl valueKey).trans hnone)
      (mt (htouches.canSeal_iff h.linked valueKey).mp hseal)
  | demand x hspelling hmake _ ih =>
    have hread : (x.read valueKey).1 = none :=
      (h.get_congr hspelling valueKey).trans hnone
    obtain ⟨hresult, hruns⟩ := Demand.result_of_not_canSeal h hread (hmake hread) hseal
    have htouches : Touches (Apart c key) x.before (x.result valueKey).2 := by
      rw [hresult]
      exact Demand.touches_made h (hmake hread)
    obtain ⟨hall, hend⟩ := ih (h.of_touches htouches)
      ((h.get_of_apart htouches rfl valueKey).trans hnone)
      (mt (htouches.canSeal_iff h.linked valueKey).mp hseal)
    exact ⟨List.forall_mem_cons.mpr ⟨⟨hruns, by rw [hresult]⟩, hall⟩, hend⟩

/-- **The first factory provides for all.** Whatever is done to other keys in between, a value that
the key had before is the answer to every demand, and no factory is run. If it had none, exactly the
first factory is run, on the spelling of that demand; what it makes is the answer to all demands, to
the first one unless it cannot be saved, and it is what the key reads then in every spelling. Only if
somebody has released the cipher every demand runs its factory, in vain. Each demand is a `getOrAdd`
with a note of when its factory is run. -/
theorem first_factory_provides (hs : s.Opened config) (hopen : s.store.closed = false)
    (hlinked : s.host.keyring.Linked)
    (hdemands : Demands s.store.comparer key valueKey s demands t) :
    (∀ value, (s.get key valueKey).1 = some value →
        (∀ x ∈ demands, x.runs valueKey = [] ∧ (x.result valueKey).1 = .ok value)
          ∧ ∀ spelling, s.store.comparer.normalize spelling = s.store.comparer.normalize key →
            (t.get spelling valueKey).1 = some value)
      ∧ ((s.get key valueKey).1 = none → s.CanSeal valueKey →
        ∀ first rest, demands = first :: rest →
          first.runs valueKey = [first.spelling]
            ∧ ((first.result valueKey).1 = .ok (first.made valueKey).1
              ∨ SaveFailed id (first.result valueKey))
            ∧ (∀ x ∈ rest,
              x.runs valueKey = [] ∧ (x.result valueKey).1 = .ok (first.made valueKey).1)
            ∧ ∀ spelling, s.store.comparer.normalize spelling = s.store.comparer.normalize key →
              (t.get spelling valueKey).1 = some (first.made valueKey).1)
      ∧ ((s.get key valueKey).1 = none → ¬s.CanSeal valueKey → ∀ x ∈ demands,
        x.runs valueKey = [x.spelling] ∧ (x.result valueKey).1 = .error .released)
      ∧ ∀ x : Demand, x.result valueKey = x.before.getOrAdd x.spelling valueKey x.make := by
  have hready : s.Ready s.store.comparer := ⟨hs.idle, hopen, hlinked, rfl⟩
  have hread {spelling : String}
      (hspelling : s.store.comparer.normalize spelling = s.store.comparer.normalize key) :
      (t.get spelling valueKey).1 = (t.get key valueKey).1 :=
    (hdemands.ready hready).get_congr hspelling valueKey
  refine ⟨?_, ?_, ?_, ?_⟩
  · intro value hvalue
    obtain ⟨hall, hend⟩ := hdemands.of_some hready hvalue
    exact ⟨hall, fun spelling hspelling => (hread hspelling).trans hend⟩
  · rintro hnone hseal first rest rfl
    obtain ⟨hruns, hanswer, hall, hend⟩ := hdemands.of_none hready hnone hseal
    exact ⟨hruns, hanswer, hall, fun spelling hspelling => (hread hspelling).trans hend⟩
  · intro hnone hseal
    exact (hdemands.of_not_canSeal hready hnone hseal).1
  · exact fun x => x.result_eq_getOrAdd valueKey

/-- A factory that writes to another key before it makes a byte, -/
def lexiconMaker : Demand where
  before := lexicon
  spelling := "newton"
  make s _ := ([3], (s.upsert "Joule" [9] none).2)

/-- and one that makes the bytes of the spelling, but comes too late. -/
def lexiconFollower : Demand where
  before := ((lexiconMaker.result (some "p")).2.upsert "joule" [4] none).2
  spelling := "NEWTON"
  make s spelling := (Text.Utf8.encode spelling, s)

set_option maxRecDepth 8000 in
/-- The key is missing at first. The second demand goes by another spelling, and between the two
another key is written. -/
theorem first_factory_provides_lexicon :
    lexicon.Opened { ignoreCase := true } ∧ lexicon.store.closed = false
      ∧ lexicon.host.keyring.Linked ∧ lexicon.CanSeal (some "p")
      ∧ (lexicon.get "Newton" (some "p")).1 = none
      ∧ Demands lexicon.store.comparer "Newton" (some "p") lexicon [lexiconMaker, lexiconFollower]
        (lexiconFollower.result (some "p")).2
      ∧ lexiconMaker.runs (some "p") = ["newton"] ∧ lexiconFollower.runs (some "p") = []
      ∧ (lexiconFollower.result (some "p")).1 = .ok [3]
      ∧ ((lexiconFollower.result (some "p")).2.get "nEWTON" (some "p")).1 = some [3] := by
  have hopen : lexicon.store.closed = false := by decide
  have hseal := canSeal_of_sound sound_lexicon (some "p")
  have hcomparer : lexicon.store.comparer = .ignoreCase := by decide
  have hnone : (lexicon.get "Newton" (some "p")).1 = none := by decide
  have hwrite (s : Session) (other : String) (value : Bytes)
      (h : Comparer.ignoreCase.normalize other ≠ Comparer.ignoreCase.normalize "Newton") :
      RunsApart .ignoreCase "Newton" s (s.upsert other value none).2 :=
    .perform (o := .upsert other value none) s h trivial
  have hlast : Demands .ignoreCase "Newton" (some "p") lexiconFollower.before [lexiconFollower]
      (lexiconFollower.result (some "p")).2 :=
    .demand lexiconFollower (by decide) (fun _ => .refl _) (.done _)
  have hdemands : Demands lexicon.store.comparer "Newton" (some "p") lexicon
      [lexiconMaker, lexiconFollower] (lexiconFollower.result (some "p")).2 := by
    rw [hcomparer]
    exact .demand lexiconMaker (by decide) (fun _ => hwrite _ "Joule" [9] (by decide))
      (.others (hwrite _ "joule" [4] (by decide)) hlast)
  obtain ⟨-, hmissing, -⟩ :=
    first_factory_provides opened_lexicon hopen sound_lexicon.linked hdemands
  obtain ⟨hruns, -, hrest, hend⟩ := hmissing hnone hseal _ _ rfl
  obtain ⟨hlate, hanswer⟩ := hrest lexiconFollower List.mem_cons_self
  exact ⟨opened_lexicon, hopen, sound_lexicon.linked, hseal, hnone, hdemands, hruns, hlate, hanswer,
    hend "nEWTON" (by rw [hcomparer]; decide)⟩

end Session

end Coffer
