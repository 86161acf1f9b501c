import Coffer.Proofs.Durability
import Coffer.Proofs.Upserting

/-!
# Updates of one key take turns

An update reads a value and writes what it makes of it. Updates of one key that take turns compose:
what the key reads after them is what the first one started from, transformed by one after the other
(`takesTurns_compose`). An update that declines or breaks off is skipped. The updates may go by
different spellings of the key, and between them other keys are read and written and removed; an
update may do so itself.

Two facts carry the induction over the turns. What is done to other keys does not touch this one
(`Touches.get`), and a write is read back under the value key that it was written with
(`wrote_of_sealed`). Nothing is asked of the disk: a save that fails does not take the write back.
-/

namespace Coffer

/-! ## Transforms -/

/-- The value of a key after a transform: what the transform gives, or else what it was. A missing
key starts from no bytes. -/
def transformed (current : Option Bytes) (f : Bytes → Except Interruption Bytes) : Option Bytes :=
  match f (current.getD []) with
  | .ok value => some value
  | .error _ => current

/-- Some bytes after a transform, or as they were if it gives none. -/
def attempted (current : Bytes) (f : Bytes → Except Interruption Bytes) : Bytes :=
  match f current with
  | .ok value => value
  | .error _ => current

/-- Whether the key is missing or has no bytes makes no difference to its transforms. -/
theorem getD_foldl_transformed (fs : List (Bytes → Except Interruption Bytes))
    (current : Option Bytes) :
    (fs.foldl transformed current).getD [] = fs.foldl attempted (current.getD []) := by
  induction fs generalizing current with
  | nil => rfl
  | cons f fs ih =>
    have hfirst : (transformed current f).getD [] = attempted (current.getD []) f := by
      rw [transformed, attempted]
      cases f (current.getD []) <;> rfl
    rw [List.foldl_cons, ih, hfirst, List.foldl_cons]

namespace Session

variable {c : Comparer} {key : String} {valueKey : Option String} {s t : Session} {config : Config}

/-! ## Turns -/

/-- An update of a key when its turn has come: the session that it finds, and the spelling that it
goes by. -/
structure Turn where
  before : Session
  spelling : String
  update : Update

namespace Turn

/-- What the update reads. -/
def read (x : Turn) (valueKey : Option String) : Option Bytes × Session :=
  x.before.get x.spelling valueKey

/-- What the update makes of the value, and the session as it leaves it. -/
def attempt (x : Turn) (valueKey : Option String) : Except Interruption Bytes × Session :=
  x.update (x.read valueKey).2 ((x.read valueKey).1.getD [])

/-- The update as a function of the value. -/
def transform (x : Turn) (valueKey : Option String) (value : Bytes) : Except Interruption Bytes :=
  (x.update (x.read valueKey).2 value).1

/-- What the whole turn is answered, and the session after it. -/
def result (x : Turn) (valueKey : Option String) : Except Interruption Bytes × Session :=
  x.before.update x.spelling valueKey x.update

/-- The turn does what its update says. -/
structure Fair (valueKey : Option String) (x : Turn) : Prop where
  /-- A value that it gives is read from then on. It is the answer, unless it cannot be saved. -/
  stored : x.before.CanSeal valueKey → ∀ value, (x.attempt valueKey).1 = .ok value →
    ((x.result valueKey).2.get x.spelling valueKey).1 = some value
      ∧ ((x.result valueKey).1 = .ok value ∨ SaveFailed .failed (x.result valueKey))
  /-- If somebody has released the cipher, the value is refused and nothing is written. -/
  refused : ¬x.before.CanSeal valueKey → ∀ value, (x.attempt valueKey).1 = .ok value →
    x.result valueKey = (.error (.failed .released), (x.attempt valueKey).2)
  /-- If it gives none, the answer is why, and nothing is written. If it did nothing else itself,
  then the store and the disk are as they were. -/
  declined : ∀ i, (x.attempt valueKey).1 = .error i →
    x.result valueKey = (.error i, (x.attempt valueKey).2)
      ∧ ((x.attempt valueKey).2 = (x.read valueKey).2 →
        (x.result valueKey).2.store = x.before.store
          ∧ (x.result valueKey).2.host.disk = x.before.host.disk)

end Turn

/-- Under the comparer the key is another one. -/
def Apart (c : Comparer) (key other : String) : Prop := c.normalize other ≠ c.normalize key

/-- Operations on other keys. -/
abbrev RunsApart (c : Comparer) (key : String) : Session → Session → Prop :=
  Runs Beside fun _ o => o.Within c (Apart c key)

/-- Updates of a key take turns, by whatever spellings and all with one value key. Between two turns
and within a turn there are operations on other keys; an update that looks at the value alone has
none within. -/
inductive TakesTurns (c : Comparer) (key : String) (valueKey : Option String) :
    Session → List Turn → Session → Prop
  | done (s : Session) : TakesTurns c key valueKey s [] s
  | others {s t u : Session} {turns : List Turn} (h : RunsApart c key s t)
    (hrest : TakesTurns c key valueKey t turns u) : TakesTurns c key valueKey s turns u
  | turn (x : Turn) {u : Session} {turns : List Turn}
    (hspelling : c.normalize x.spelling = c.normalize key)
    (hupdate : RunsApart c key (x.read valueKey).2 (x.attempt valueKey).2)
    (hrest : TakesTurns c key valueKey (x.result valueKey).2 turns u) :
    TakesTurns c key valueKey x.before (x :: turns) u

/-! ## What all turns keep -/

/-- The store is open and idle between two operations, and the keyring is linked. -/
structure Ready (c : Comparer) (s : Session) : Prop where
  idle : s.store.pending = []
  unclosed : s.store.closed = false
  linked : s.host.keyring.Linked
  comparer : s.store.comparer = c

theorem Ready.of_touches {keys : String → Prop} (h : s.Ready c) (htouches : Touches keys s t) :
    t.Ready c where
  idle := htouches.pending.trans h.idle
  unclosed := htouches.closed.trans h.unclosed
  linked := htouches.linked h.linked
  comparer := htouches.comparer.trans h.comparer

theorem Touches.canSeal_iff {keys : String → Prop} (h : Touches keys s t)
    (hlinked : s.host.keyring.Linked) (valueKey : Option String) :
    t.CanSeal valueKey ↔ s.CanSeal valueKey := by
  simp only [CanSeal, h.cipherFor hlinked]

/-- What is done to other keys makes no difference to who reads this one. -/
theorem Ready.get_of_apart (h : s.Ready c) (htouches : Touches (Apart c key) s t)
    {spelling : String} (hspelling : c.normalize spelling = c.normalize key)
    (valueKey : Option String) : (t.get spelling valueKey).1 = (s.get spelling valueKey).1 := by
  refine htouches.get h.linked ?_ valueKey
  intro other hother heq
  rw [h.comparer] at heq
  exact hother (heq.symm.trans hspelling)

/-- Equal keys read the same. -/
theorem get_congr {spelling : String}
    (h : s.store.comparer.normalize spelling = s.store.comparer.normalize key) :
    (s.get spelling valueKey).1 = (s.get key valueKey).1 := by
  have hfound : s.store.entries.get? spelling = s.store.entries.get? key :=
    congrArg (Dictionary.find? s.store.entries.filed) h
  rw [get_fst, get_fst, hfound]

/-! ## One turn -/

section Update

variable {f : Update} (hopen : s.store.closed = false)

include hopen

/-- An update that gives no value writes nothing. -/
theorem update_of_error {i : Interruption}
    (h : (f (s.get key valueKey).2 ((s.get key valueKey).1.getD [])).1 = .error i) :
    s.update key valueKey f
      = (.error i, (f (s.get key valueKey).2 ((s.get key valueKey).1.getD [])).2) := by
  unfold update
  rw [if_neg (by simp [hopen])]
  simp only
  generalize f (s.get key valueKey).2 _ = x at h
  obtain ⟨r, s'⟩ := x
  obtain rfl : r = .error i := h
  rfl

/-- A value that it gives is written. -/
theorem update_of_ok {value : Bytes}
    (h : (f (s.get key valueKey).2 ((s.get key valueKey).1.getD [])).1 = .ok value) :
    s.update key valueKey f
      = answer (fun _ => value) ((f (s.get key valueKey).2 ((s.get key valueKey).1.getD [])).2.upsert
        key value valueKey) := by
  unfold update
  rw [if_neg (by simp [hopen])]
  simp only
  generalize f (s.get key valueKey).2 _ = x at h
  obtain ⟨r, s'⟩ := x
  obtain rfl : r = .ok value := h
  simp only
  generalize s'.upsert key value valueKey = y
  obtain ⟨e | _, s''⟩ := y <;> rfl

end Update

namespace Turn

variable {x : Turn}

/-- Before it writes, a turn does not touch its key. -/
theorem touches_attempt (h : x.before.Ready c)
    (hupdate : RunsApart c key (x.read valueKey).2 (x.attempt valueKey).2) :
    Touches (Apart c key) x.before (x.attempt valueKey).2 := by
  have hread : Touches (Apart c key) x.before (x.read valueKey).2 := touches_get _ _ _
  have hready := h.of_touches hread
  exact hread.trans (hupdate.touches hready.idle hready.comparer)

/-- A value that can be sealed is what every spelling of the key reads after the turn. -/
theorem result_of_sealed {value : Bytes} (h : x.before.Ready c)
    (hupdate : RunsApart c key (x.read valueKey).2 (x.attempt valueKey).2)
    (hgiven : (x.attempt valueKey).1 = .ok value) (hseal : x.before.CanSeal valueKey) :
    (∀ spelling, c.normalize spelling = c.normalize x.spelling →
        ((x.result valueKey).2.get spelling valueKey).1 = some value)
      ∧ ((x.result valueKey).1 = .ok value ∨ SaveFailed .failed (x.result valueKey)) := by
  have htouches := touches_attempt h hupdate
  have hready := h.of_touches htouches
  have hseal' := (htouches.canSeal_iff h.linked valueKey).mpr hseal
  obtain ⟨stored, s', hsealed, hreveal⟩ := exists_sealValue hready.linked hseal' value
  have hresult : x.result valueKey = _ := update_of_ok h.unclosed hgiven
  have hwrote := wrote_of_sealed hready.idle hready.unclosed hready.linked hsealed hreveal x.spelling
  have hanswer := upsert_answer hready.idle hready.unclosed hsealed x.spelling
  rw [hresult]
  refine ⟨fun spelling hspelling => hwrote.read spelling (hready.comparer ▸ hspelling), ?_⟩
  rcases hanswer with hok | hfailed
  · refine .inl ?_
    rw [answer]
    show ((((x.attempt valueKey).2.upsert x.spelling value valueKey).1.mapError
      Interruption.failed).map fun _ => value) = .ok value
    rw [hok]
    rfl
  · exact .inr (hfailed.answer _)

/-- **A turn does what its update says.** -/
theorem fair (h : x.before.Ready c)
    (hupdate : RunsApart c key (x.read valueKey).2 (x.attempt valueKey).2) :
    x.Fair valueKey where
  stored hseal value hgiven := by
    obtain ⟨hread, hanswer⟩ := result_of_sealed h hupdate hgiven hseal
    exact ⟨hread x.spelling rfl, hanswer⟩
  refused hseal value hgiven := by
    have htouches := touches_attempt h hupdate
    have hready := h.of_touches htouches
    have hresult : x.result valueKey = _ := update_of_ok h.unclosed hgiven
    have hrefused := upsert_of_not_canSeal hready.unclosed
      (mt (htouches.canSeal_iff h.linked valueKey).mp hseal) x.spelling value
    rw [hresult]
    exact congrArg (answer fun _ => value) hrefused
  declined i hdeclined := by
    have hresult : x.result valueKey = (.error i, (x.attempt valueKey).2) :=
      update_of_error h.unclosed hdeclined
    refine ⟨hresult, fun hleft => ?_⟩
    rw [hresult, hleft]
    exact ⟨store_get _ _ _, disk_get _ _ _⟩

/-- The turn is over, and the session is ready for the next one. -/
theorem touches_result (h : x.before.Ready c)
    (hupdate : RunsApart c key (x.read valueKey).2 (x.attempt valueKey).2) :
    Touches (fun _ => True) x.before (x.result valueKey).2 := by
  have hread : Touches (Apart c key) x.before (x.read valueKey).2 := touches_get _ _ _
  have hready := h.of_touches hread
  have hown := (hupdate.touches hready.idle hready.comparer).mono fun _ _ => trivial
  exact touches_update h.idle trivial valueKey fun _ => hown

/-- What the key reads after the turn is what it read before, transformed. -/
theorem get_result (h : x.before.Ready c) (hspelling : c.normalize x.spelling = c.normalize key)
    (hupdate : RunsApart c key (x.read valueKey).2 (x.attempt valueKey).2)
    (hseal : x.before.CanSeal valueKey) :
    ((x.result valueKey).2.get key valueKey).1
      = transformed (x.before.get key valueKey).1 (x.transform valueKey) := by
  have hread : (x.read valueKey).1 = (x.before.get key valueKey).1 :=
    get_congr (by rw [h.comparer]; exact hspelling)
  have hgiven : x.transform valueKey ((x.read valueKey).1.getD []) = (x.attempt valueKey).1 := rfl
  rw [← hread, transformed, hgiven]
  cases hattempt : (x.attempt valueKey).1 with
  | ok value => exact (result_of_sealed h hupdate hattempt hseal).1 key hspelling.symm
  | error i =>
    rw [((fair h hupdate).declined i hattempt).1]
    have hsame : ((x.attempt valueKey).2.get key valueKey).1 = (x.before.get key valueKey).1 :=
      h.get_of_apart (touches_attempt h hupdate) rfl valueKey
    exact hsame.trans hread.symm

end Turn

/-! ## All turns -/

/-- In each turn of a run things are as fair as in the first one. -/
theorem TakesTurns.fair {turns : List Turn} (hturns : TakesTurns c key valueKey s turns t)
    (h : s.Ready c) :
    ∀ x ∈ turns, (x.before.CanSeal valueKey ↔ s.CanSeal valueKey) ∧ x.Fair valueKey := by
  induction hturns with
  | done s => exact fun x hx => absurd hx List.not_mem_nil
  | others hrun _ ih =>
    have htouches := hrun.touches h.idle h.comparer
    intro x hx
    obtain ⟨hseal, hfair⟩ := ih (h.of_touches htouches) x hx
    exact ⟨hseal.trans (htouches.canSeal_iff h.linked valueKey), hfair⟩
  | turn x hspelling hupdate _ ih =>
    have htouches := Turn.touches_result h hupdate
    intro y hy
    rcases List.mem_cons.mp hy with rfl | hy
    · exact ⟨.rfl, Turn.fair h hupdate⟩
    · obtain ⟨hseal, hfair⟩ := ih (h.of_touches htouches) y hy
      exact ⟨hseal.trans (htouches.canSeal_iff h.linked valueKey), hfair⟩

/-- What the key reads after the run is what it read before, transformed turn by turn. -/
theorem TakesTurns.get {turns : List Turn} (hturns : TakesTurns c key valueKey s turns t)
    (h : s.Ready c) (hseal : s.CanSeal valueKey) :
    (t.get key valueKey).1
      = (turns.map (·.transform valueKey)).foldl transformed (s.get key valueKey).1 := by
  induction hturns with
  | done s => rfl
  | others hrun _ ih =>
    have htouches := hrun.touches h.idle h.comparer
    rw [ih (h.of_touches htouches) ((htouches.canSeal_iff h.linked valueKey).mpr hseal),
      h.get_of_apart htouches rfl valueKey]
  | turn x hspelling hupdate _ ih =>
    have htouches := Turn.touches_result h hupdate
    rw [ih (h.of_touches htouches) ((htouches.canSeal_iff h.linked valueKey).mpr hseal),
      Turn.get_result h hspelling hupdate hseal]
    rfl

theorem TakesTurns.comparer {turns : List Turn} (hturns : TakesTurns c key valueKey s turns t)
    (h : s.Ready c) : t.store.comparer = c := by
  induction hturns with
  | done s => exact h.comparer
  | others hrun _ ih => exact ih (h.of_touches (hrun.touches h.idle h.comparer))
  | turn x _ hupdate _ ih => exact ih (h.of_touches (Turn.touches_result h hupdate))

/-- **Updates that take turns compose.** Whatever is done to other keys in between, and whether
saving succeeds or not, the key reads in every spelling what the transforms make of the value that
it had, one after the other. Each of them is answered with the value that it gave, and one that gave
none has left nothing behind. -/
theorem takesTurns_compose {turns : List Turn} (hs : s.Opened config)
    (hopen : s.store.closed = false) (hlinked : s.host.keyring.Linked)
    (hturns : TakesTurns s.store.comparer key valueKey s turns t) :
    (s.CanSeal valueKey → ∀ spelling,
        s.store.comparer.normalize spelling = s.store.comparer.normalize key →
        (t.get spelling valueKey).1
            = (turns.map (·.transform valueKey)).foldl transformed (s.get key valueKey).1
          ∧ (t.get spelling valueKey).1.getD []
            = (turns.map (·.transform valueKey)).foldl attempted
              ((s.get key valueKey).1.getD []))
      ∧ ∀ x ∈ turns, (x.before.CanSeal valueKey ↔ s.CanSeal valueKey) ∧ x.Fair valueKey := by
  have hready : s.Ready s.store.comparer := ⟨hs.idle, hopen, hlinked, rfl⟩
  refine ⟨?_, hturns.fair hready⟩
  intro hseal spelling hspelling
  have hsame : (t.get spelling valueKey).1 = (t.get key valueKey).1 :=
    get_congr (by rw [hturns.comparer hready]; exact hspelling)
  rw [hsame, hturns.get hready hseal]
  exact ⟨rfl, getD_foldl_transformed _ _⟩

/-- An update that writes to another key and then breaks off. -/
def strayUpdate : Update := fun s _ => (.error .crashed, (s.upsert "Joule" [9] none).2)

/-- A byte is appended, -/
def lexiconFirst : Turn := { before := lexicon, spelling := "KELVIN", update := appendOne }

/-- another key is written, and an update breaks off, -/
def lexiconSecond : Turn where
  before := ((lexiconFirst.result (some "p")).2.upsert "joule" [3] none).2
  spelling := "\u212Aelvin"
  update := strayUpdate

/-- and another byte is appended. -/
def lexiconThird : Turn where
  before := (lexiconSecond.result (some "p")).2
  spelling := "kelvin"
  update := appendOne

set_option maxRecDepth 8000 in
/-- The key had a value that was stored without a passphrase, so with one it is read as no bytes. Two
bytes are appended, and the update that breaks off is skipped. -/
theorem takesTurns_compose_lexicon :
    lexicon.Opened { ignoreCase := true } ∧ lexicon.store.closed = false
      ∧ lexicon.host.keyring.Linked ∧ lexicon.CanSeal (some "p")
      ∧ TakesTurns lexicon.store.comparer "Kelvin" (some "p") lexicon
        [lexiconFirst, lexiconSecond, lexiconThird] (lexiconThird.result (some "p")).2
      ∧ ((lexiconThird.result (some "p")).2.get "KELVIN" (some "p")).1 = some [1, 1]
      ∧ (lexiconSecond.result (some "p")).1 = .error .crashed := by
  have hopen : lexicon.store.closed = false := by decide
  have hseal := canSeal_of_sound sound_lexicon (some "p")
  have hcomparer : lexicon.store.comparer = .ignoreCase := by decide
  have hwrite (s : Session) (other : String) (value : Bytes)
      (h : Comparer.ignoreCase.normalize other ≠ Comparer.ignoreCase.normalize "Kelvin") :
      RunsApart .ignoreCase "Kelvin" s (s.upsert other value none).2 :=
    .perform (o := .upsert other value none) s h trivial
  have hlast : TakesTurns .ignoreCase "Kelvin" (some "p") (lexiconSecond.result (some "p")).2
      [lexiconThird] (lexiconThird.result (some "p")).2 :=
    .turn lexiconThird (by decide) (.refl _) (.done _)
  have hrest : TakesTurns .ignoreCase "Kelvin" (some "p") (lexiconFirst.result (some "p")).2
      [lexiconSecond, lexiconThird] (lexiconThird.result (some "p")).2 :=
    .others (hwrite _ "joule" [3] (by decide))
      (.turn lexiconSecond (by decide) (hwrite _ "Joule" [9] (by decide)) hlast)
  have hturns : TakesTurns lexicon.store.comparer "Kelvin" (some "p") lexicon
      [lexiconFirst, lexiconSecond, lexiconThird] (lexiconThird.result (some "p")).2 := by
    rw [hcomparer]
    exact .turn lexiconFirst (by decide) (.refl _) hrest
  obtain ⟨hcompose, hfair⟩ := takesTurns_compose opened_lexicon hopen sound_lexicon.linked hturns
  have hread := (hcompose hseal "KELVIN" (by decide)).1
  have hstart : (lexicon.get "Kelvin" (some "p")).1 = some [] := by decide
  rw [hstart] at hread
  obtain ⟨-, hsecond⟩ := hfair lexiconSecond (by simp)
  have hcrashed := congrArg Prod.fst (hsecond.declined .crashed rfl).1
  exact ⟨opened_lexicon, hopen, sound_lexicon.linked, hseal, hturns, hread, hcrashed⟩

end Session

end Coffer
