import Mathlib.Data.Option.Basic
import Coffer.Proofs.Classes

/-!
# Buffers behave like lists

What a buffer holds can be told from what was done with this buffer alone. A `Sheet` keeps it: the
list that was written, what the cells behind it were filled with, as far as that is known, and the
capacity. Writing appends to the list, advancing over filled cells moves them to it, and the rest of
the storage never shows: not what its last user left there, nor what a buffer leaves behind when it
moves or is released.

A buffer shows a sheet if its cells start with those of the sheet (`Buffer.Shows`). This is shown
for one thing that is done with the buffer (`Buffer.Shows.perform`), then for a step at a desk and
for all steps. A sheet cannot say what a cell holds that nobody filled, so the steps must not
advance over such cells (`Sheets.Proper`); advancing out of range is allowed and fails.
-/

namespace Coffer

variable {α : Type}

/-! ## Sheets -/

/-- What can be told of a buffer by what was done with it. -/
structure Sheet (α : Type) where
  capacity : Nat
  written : List α := []
  /-- What the cells behind the written ones hold, as far as it is known. -/
  filled : List α := []
  deriving Repr, DecidableEq

namespace Sheet

/-- How many elements fit behind the written ones. -/
def room (s : Sheet α) : Nat := s.capacity - s.written.length

/-- The sheet in a larger size. Only what was written is taken along. -/
def grow (s : Sheet α) (least : Nat) : Sheet α :=
  { capacity := Pool.sizeFor (max least (2 * s.capacity)), written := s.written }

/-- The sheet with room for at least `n` more elements. -/
def reserve (s : Sheet α) (n : Nat) : Sheet α :=
  if s.room < n then s.grow (s.written.length + n) else s

/-- The answer and the sheet after something was done. -/
def perform (s : Sheet α) : Buffer.Act α → Except Error Unit × Sheet α
  | .write data =>
    (.ok (), { capacity := (s.reserve data.length).capacity
               written := s.written ++ data
               filled := (s.reserve data.length).filled.drop data.length })
  | .request n =>
    (.ok (), if s.room < n.toNat then s.grow (UInt64.ofNat s.written.length + n).toNat else s)
  | .fill data => (.ok (), { s with filled := data.take s.room ++ s.filled.drop data.length })
  | .advance n =>
    if n ≤ s.room then
      (.ok (), { s with written := s.written ++ s.filled.take n, filled := s.filled.drop n })
    else (.error (.outOfRange n s.room), s)
  | .rewind n =>
    if n ≤ s.written.length then
      (.ok (), { s with written := s.written.take (s.written.length - n)
                        filled := s.written.drop (s.written.length - n) ++ s.filled })
    else (.error (.outOfRange n s.written.length), s)
  | .reset => (.ok (), { s with written := [], filled := s.written ++ s.filled })
  | .release => (.ok (), { capacity := 0 })

/-- Cells are advanced over only if it is known what they hold, or if there are not so many. -/
def Permits (s : Sheet α) : Buffer.Act α → Prop
  | .advance n => n ≤ s.filled.length ∨ s.room < n
  | .write _ | .request _ | .fill _ | .rewind _ | .reset | .release => True

instance (s : Sheet α) (a : Buffer.Act α) : Decidable (s.Permits a) := by
  cases a <;> unfold Permits <;> infer_instance

end Sheet

/-! ## One buffer -/

namespace Buffer

variable [Inhabited α] {b : Buffer α} {s : Sheet α} {p : Pool α}

/-- What all cells hold. -/
def contents (b : Buffer α) : List α := (b.storage.map Storage.contents).getD []

theorem length_contents (b : Buffer α) : b.contents.length = b.capacity := by
  unfold contents capacity
  cases b.storage with
  | none => rfl
  | some s => exact Storage.length_contents s

/-- The buffer has the size of the sheet, its cursor stands behind what is written on it, and its
cells hold what the sheet says. -/
structure Shows (b : Buffer α) (s : Sheet α) : Prop where
  length_eq : b.length = s.written.length
  capacity_eq : b.capacity = s.capacity
  starts : s.written ++ s.filled <+: b.contents

theorem Shows.sound (h : b.Shows s) : b.Sound := by
  have hle := h.starts.length_le
  rw [length_contents, List.length_append] at hle
  rw [Sound, h.length_eq]
  omega

theorem Shows.written_eq (h : b.Shows s) : b.written = s.written := by
  obtain ⟨rest, hrest⟩ := h.starts
  rw [Buffer.written_eq, ← contents, ← hrest, h.length_eq, List.append_assoc, List.take_left]

theorem Shows.room_eq (h : b.Shows s) : b.room = s.room := by
  rw [Buffer.room, Sheet.room, h.length_eq, h.capacity_eq]

/-- A buffer that was rented or is moved shows what was written and no more. -/
theorem shows_of_written {c : Nat} {l : List α} (hsound : b.Sound) (hwritten : b.written = l)
    (hcapacity : b.capacity = c) : b.Shows { capacity := c, written := l } := by
  refine ⟨?_, hcapacity, ?_⟩
  · rw [← length_written hsound, hwritten]
  · rw [List.append_nil, ← hwritten, Buffer.written_eq, ← contents]
    exact List.take_prefix _ _

theorem shows_rent (h : p.Exact) (n : Nat) :
    (rent p n).1.Shows { capacity := Pool.sizeFor n } :=
  shows_of_written (sound_rent p n) (written_rent p n) (rent_of_exact h n).1

/-- Moving takes along what was written. -/
theorem Shows.grow (h : b.Shows s) (hb : b.Tidy p) (least : Nat) :
    (b.grow p least).1.Shows (s.grow least) := by
  have hcapacity := (hb.grow least).1
  rw [h.capacity_eq] at hcapacity
  refine shows_of_written ?_ ((written_grow h.sound p least).trans h.written_eq) hcapacity
  have hle := le_capacity_grow b p least
  have hsound : b.length ≤ b.capacity := h.sound
  rw [Sound, length_grow]
  omega

theorem Shows.reserve (h : b.Shows s) (hb : b.Tidy p) (n : Nat) :
    (b.reserve p n).1.Shows (s.reserve n) := by
  rw [Buffer.reserve, Sheet.reserve, h.room_eq, h.length_eq]
  split
  · exact h.grow hb _
  · exact h

/-- Filling the room leaves the cells before and behind it. -/
theorem Shows.fillAhead (h : b.Shows s) (data : List α) :
    (b.fillAhead data).Shows
      { s with filled := data.take s.room ++ s.filled.drop data.length } := by
  refine ⟨h.length_eq, (capacity_fillAhead b data).trans h.capacity_eq, ?_⟩
  have hroom := h.room_eq
  obtain ⟨rest, hrest⟩ := h.starts
  cases hs : b.storage with
  | none =>
    -- without storage there is no room and nothing is known
    have hzero : s.room = 0 := by
      rw [← hroom, Buffer.room, Buffer.capacity, hs]
      exact Nat.zero_sub _
    have hnil : s.written ++ s.filled ++ rest = [] := by rw [hrest, contents, hs]; rfl
    simp only [List.append_eq_nil_iff] at hnil
    simp [hzero, hnil.1.1, hnil.1.2]
  | some t =>
    have hcontents : t.contents = s.written ++ s.filled ++ rest := by
      rw [hrest, contents, hs]
      rfl
    have hsize : t.size - b.length = s.room := by
      rw [← hroom, Buffer.room, Buffer.capacity, hs]
      rfl
    have htake : t.contents.take b.length = s.written := by
      rw [hcontents, h.length_eq, List.append_assoc, List.take_left]
    have hdrop : t.contents.drop (b.length + data.length)
        = s.filled.drop data.length ++ rest.drop (data.length - s.filled.length) := by
      rw [hcontents, h.length_eq, List.append_assoc, List.drop_append, List.drop_append,
        List.drop_eq_nil_of_le (Nat.le_add_right _ _), Nat.add_sub_cancel_left, List.nil_append]
    refine ⟨rest.drop (data.length - s.filled.length), ?_⟩
    rw [contents, Buffer.fillAhead, hs]
    simp only [Option.map_some, Option.getD_some]
    rw [Storage.contents_write, hsize, htake, hdrop]
    simp only [List.append_assoc]

/-- Cells that are known become written ones when the cursor moves over them. -/
theorem Shows.advanced (h : b.Shows s) {n : Nat} (hn : n ≤ s.filled.length) :
    Shows { b with length := b.length + n }
      { s with written := s.written ++ s.filled.take n, filled := s.filled.drop n } := by
  refine ⟨?_, h.capacity_eq, ?_⟩
  · show b.length + n = (s.written ++ s.filled.take n).length
    rw [h.length_eq, List.length_append, List.length_take_of_le hn]
  · show s.written ++ s.filled.take n ++ s.filled.drop n <+: b.contents
    rw [List.append_assoc, List.take_append_drop]
    exact h.starts

/-- Written cells stay known when the cursor moves back over them. -/
theorem Shows.cut (h : b.Shows s) {n : Nat} (hn : n ≤ s.written.length) :
    Shows { b with length := n }
      { s with written := s.written.take n, filled := s.written.drop n ++ s.filled } := by
  refine ⟨(List.length_take_of_le hn).symm, h.capacity_eq, ?_⟩
  show s.written.take n ++ (s.written.drop n ++ s.filled) <+: b.contents
  rw [← List.append_assoc, List.take_append_drop]
  exact h.starts

/-- After writing, the data stand behind what was written before. -/
theorem Shows.append (h : b.Shows s) (hb : b.Tidy p) (data : List α) :
    (b.append p data).1.Shows (s.perform (.write data)).2 := by
  have hreserved := h.reserve hb data.length
  have hroom : data.length ≤ (s.reserve data.length).room := by
    have hle := le_room_reserve h.sound p data.length
    rw [← hreserved.room_eq, Buffer.room, length_reserve]
    omega
  have hwritten : (s.reserve data.length).written = s.written := by
    unfold Sheet.reserve
    split <;> rfl
  have hfilled := hreserved.fillAhead data
  rw [List.take_of_length_le hroom] at hfilled
  have hdata : data.length ≤ (data ++ (s.reserve data.length).filled.drop data.length).length := by
    rw [List.length_append]
    omega
  have hshows := hfilled.advanced hdata
  simp only [List.take_left, List.drop_left, hwritten] at hshows
  exact hshows

/-- The answer is told by the sheet. -/
theorem Shows.answer_eq (h : b.Shows s) (p : Pool α) (a : Act α) :
    (a.perform b p).1 = (s.perform a).1 := by
  cases a with
  | advance n =>
    rw [Act.perform, Buffer.advance, Sheet.perform, h.room_eq]
    split <;> rfl
  | rewind n =>
    rw [Act.perform, Buffer.rewind, Sheet.perform, h.length_eq]
    split <;> rfl
  | write | request | fill | reset | release => rfl

/-- **What is done with a buffer is done to its sheet.** -/
theorem Shows.perform (h : b.Shows s) (hb : b.Tidy p) {a : Act α} (ha : s.Permits a) :
    (a.perform b p).2.1.Shows (s.perform a).2 := by
  cases a with
  | write data => exact h.append hb data
  | request n =>
    rw [Act.perform, Sheet.perform, Buffer.request, h.room_eq, h.length_eq]
    dsimp only
    split
    · exact h.grow hb _
    · exact h
  | fill data => exact h.fillAhead data
  | advance n =>
    rw [Act.perform, Buffer.advance, Sheet.perform, h.room_eq]
    split
    · next hle => exact h.advanced (ha.resolve_right (Nat.not_lt.mpr hle))
    · exact h
  | rewind n =>
    rw [Act.perform, Buffer.rewind, Sheet.perform, h.length_eq]
    split
    · exact h.cut (Nat.sub_le _ _)
    · exact h
  | reset => exact h.cut (Nat.zero_le _)
  | release =>
    have hnone : (b.release p).1 = { storage := none, length := 0 } := by
      unfold Buffer.release
      split <;> rfl
    rw [Act.perform, hnone]
    exact shows_of_written (sound_empty none) rfl rfl

end Buffer

/-! ## All buffers -/

/-- The sheets of the buffers at a desk; in the place of a buffer that was dropped is none. -/
abbrev Sheets (α : Type) := List (Option (Sheet α))

namespace Sheets

/-- The sheet of a number, unless its buffer was dropped. -/
def sheet? (sheets : Sheets α) (i : Nat) : Option (Sheet α) := sheets[i]?.join

/-- The answer and the sheets after a step. -/
def perform (sheets : Sheets α) : Desk.Step α → Except Error Unit × Sheets α
  | .rent n => (.ok (), sheets ++ [some { capacity := Pool.sizeFor n }])
  | .act i a =>
    match sheets.sheet? i with
    | some s => ((s.perform a).1, sheets.set i (s.perform a).2)
    | none => (.ok (), sheets)
  | .drop i => (.ok (), sheets.set i none)

/-- The sheets after some steps. -/
def run (sheets : Sheets α) (steps : List (Desk.Step α)) : Sheets α :=
  steps.foldl (fun sheets step => (sheets.perform step).2) sheets

/-- A step does not advance over cells of which it is not known what they hold. -/
def Permits (sheets : Sheets α) : Desk.Step α → Prop
  | .act i a => ∀ s ∈ sheets.sheet? i, s.Permits a
  | .rent _ | .drop _ => True

/-- No step advances over cells of which it is not known what they hold. -/
def Proper (sheets : Sheets α) : List (Desk.Step α) → Prop
  | [] => True
  | step :: steps => sheets.Permits step ∧ Proper (sheets.perform step).2 steps

instance (sheets : Sheets α) (step : Desk.Step α) : Decidable (sheets.Permits step) := by
  cases step <;> unfold Permits <;> infer_instance

instance decidableProper (sheets : Sheets α) (steps : List (Desk.Step α)) :
    Decidable (sheets.Proper steps) :=
  match steps with
  | [] => .isTrue trivial
  | step :: steps =>
    have := decidableProper (sheets.perform step).2 steps
    inferInstanceAs (Decidable (_ ∧ _))

end Sheets

namespace Desk

/-- A list with another element in a place, seen from any place. -/
theorem join_getElem?_set {β : Type} (xs : List (Option β)) (i j : Nat) (x : Option β) :
    (xs.set i x)[j]?.join = if i = j ∧ i < xs.length then x else xs[j]?.join := by
  rw [List.getElem?_set]
  by_cases hij : i = j
  · subst hij
    by_cases hi : i < xs.length
    · simp [hi]
    · simp [hi]
  · simp [hij]

/-- Each buffer at the desk shows its sheet, and there is no buffer where there is no sheet. -/
structure Shows [Inhabited α] (d : Desk α) (sheets : Sheets α) : Prop where
  length_eq : d.buffers.length = sheets.length
  shows : ∀ i, Option.Rel Buffer.Shows (d.buffer? i) (sheets.sheet? i)

/-- The number of the buffer that a step is about. -/
def Step.target? : Step α → Option Nat
  | .rent _ => none
  | .act i _ | .drop i => some i

variable [Inhabited α] {d : Desk α} {sheets : Sheets α}

theorem shows_empty : Shows ({} : Desk α) [] := ⟨rfl, fun _ => .none⟩

theorem Shows.put (h : d.Shows sheets) (i : Nat) (pool : Pool α) {b : Option (Buffer α)}
    {s : Option (Sheet α)} (hs : Option.Rel Buffer.Shows b s) :
    (d.put i pool b).Shows (sheets.set i s) := by
  refine ⟨by simpa [Desk.put] using h.length_eq, fun j => ?_⟩
  rw [buffer?, Desk.put, Sheets.sheet?, join_getElem?_set, join_getElem?_set, h.length_eq]
  split
  · exact hs
  · exact h.shows j

theorem Shows.rent (h : d.Shows sheets) {b : Buffer α} {s : Sheet α} (hs : b.Shows s)
    (pool : Pool α) :
    Shows { pool, buffers := d.buffers ++ [some b] } (sheets ++ [some s]) := by
  refine ⟨by simpa using h.length_eq, fun j => ?_⟩
  rw [buffer?, Sheets.sheet?, List.getElem?_append, List.getElem?_append, h.length_eq]
  split
  · exact h.shows j
  · cases j - sheets.length with
    | zero => exact .some hs
    | succ k => exact .none

/-- A sheet of a buffer that is there. -/
theorem Shows.exists_sheet (h : d.Shows sheets) {i : Nat} {b : Buffer α}
    (hb : d.buffer? i = some b) : ∃ s, sheets.sheet? i = some s ∧ b.Shows s := by
  have hrel := h.shows i
  rw [hb] at hrel
  cases hs : sheets.sheet? i with
  | none => rw [hs] at hrel; cases hrel
  | some s =>
    rw [hs] at hrel
    cases hrel with
    | some hrel => exact ⟨s, rfl, hrel⟩

theorem Shows.sheet?_eq_none (h : d.Shows sheets) {i : Nat} (hb : d.buffer? i = none) :
    sheets.sheet? i = none := by
  have hrel := h.shows i
  rw [hb] at hrel
  cases hs : sheets.sheet? i with
  | none => rfl
  | some s => rw [hs] at hrel; cases hrel

/-- The answers are told by the sheets. -/
theorem Shows.answer_eq (h : d.Shows sheets) (step : Step α) :
    (d.perform step).1 = (sheets.perform step).1 := by
  cases step with
  | rent n => rfl
  | act i a =>
    cases hb : d.buffer? i with
    | none => rw [perform_act_of_none hb, Sheets.perform, h.sheet?_eq_none hb]
    | some b =>
      obtain ⟨s, hs, hshows⟩ := h.exists_sheet hb
      rw [perform_act hb, Sheets.perform, hs]
      exact hshows.answer_eq d.pool a
  | drop i =>
    cases hb : d.buffer? i with
    | none => rw [perform_drop_of_none hb]; rfl
    | some b => rw [perform_drop hb]; rfl

/-- **A step does to the sheets what it does to the buffers.** -/
theorem Shows.perform (h : d.Shows sheets) (hd : d.Exact) {step : Step α}
    (hstep : sheets.Permits step) : (d.perform step).2.Shows (sheets.perform step).2 := by
  cases step with
  | rent n => exact h.rent (Buffer.shows_rent hd.pool n) _
  | act i a =>
    cases hb : d.buffer? i with
    | none =>
      rw [perform_act_of_none hb, Sheets.perform, h.sheet?_eq_none hb]
      exact h
    | some b =>
      obtain ⟨s, hs, hshows⟩ := h.exists_sheet hb
      rw [perform_act hb, Sheets.perform, hs]
      exact h.put i _ (.some (hshows.perform (hd.tidy hb) (hstep s hs)))
  | drop i =>
    cases hb : d.buffer? i with
    | none =>
      -- no buffer is there, and none is put in its place
      rw [perform_drop_of_none hb]
      refine ⟨h.length_eq.trans (List.length_set).symm, fun j => ?_⟩
      rw [Sheets.perform, Sheets.sheet?, join_getElem?_set]
      split
      · next heq => rw [← heq.1, hb]; exact .none
      · exact h.shows j
    | some b =>
      rw [perform_drop hb]
      exact h.put i _ .none

/-- All steps. -/
theorem Shows.run (h : d.Shows sheets) (hd : d.Exact) {steps : List (Step α)}
    (hsteps : sheets.Proper steps) : (d.run steps).Shows (sheets.run steps) := by
  induction steps generalizing d sheets with
  | nil => exact h
  | cons step steps ih => exact ih (h.perform hd hsteps.1) (hd.perform step) hsteps.2

/-! ## What a step leaves alone -/

omit [Inhabited α] in
theorem put_self {i : Nat} {b : Buffer α} (hb : d.buffer? i = some b) :
    d.put i d.pool (some b) = d := by
  have hplace : d.buffers[i]? = some (some b) := Option.join_eq_some_iff.mp hb
  obtain ⟨hi, hget⟩ := List.getElem?_eq_some_iff.mp hplace
  rw [put, ← hget, List.set_getElem_self]

/-- A step about one buffer leaves the others alone. -/
theorem buffer?_perform_of_ne {step : Step α} {i : Nat} {b : Buffer α}
    (hb : d.buffer? i = some b) (hi : step.target? ≠ some i) :
    (d.perform step).2.buffer? i = some b := by
  have hput (j : Nat) (pool : Pool α) (b' : Option (Buffer α)) (hj : j ≠ i) :
      (d.put j pool b').buffer? i = some b := by
    rw [buffer?, put, join_getElem?_set, if_neg fun h => hj h.1]
    exact hb
  cases step with
  | rent n =>
    have hplace : d.buffers[i]? = some (some b) := Option.join_eq_some_iff.mp hb
    exact Option.join_eq_some_iff.mpr (List.getElem?_append_left
      (List.getElem?_eq_some_iff.mp hplace).1 ▸ hplace)
  | act j a =>
    have hj : j ≠ i := fun h => hi (congrArg some h)
    cases hb' : d.buffer? j with
    | none => rwa [perform_act_of_none hb']
    | some b' => rw [perform_act hb']; exact hput j _ _ hj
  | drop j =>
    have hj : j ≠ i := fun h => hi (congrArg some h)
    cases hb' : d.buffer? j with
    | none => rwa [perform_drop_of_none hb']
    | some b' => rw [perform_drop hb']; exact hput j _ _ hj

/-- Moving the cursor out of range fails and leaves everything as it was. -/
theorem perform_advance_of_lt {i n : Nat} {b : Buffer α} (hb : d.buffer? i = some b)
    (hn : b.capacity - b.length < n) :
    d.perform (.act i (.advance n)) = (.error (.outOfRange n (b.capacity - b.length)), d) := by
  have hfails : b.advance n = .error (.outOfRange n (b.capacity - b.length)) :=
    if_neg (Nat.not_le.mpr hn)
  rw [perform_act hb, Buffer.Act.perform, hfails]
  exact congrArg _ (put_self hb)

theorem perform_rewind_of_lt {i n : Nat} {b : Buffer α} (hb : d.buffer? i = some b)
    (hn : b.length < n) :
    d.perform (.act i (.rewind n)) = (.error (.outOfRange n b.length), d) := by
  have hfails : b.rewind n = .error (.outOfRange n b.length) := if_neg (Nat.not_le.mpr hn)
  rw [perform_act hb, Buffer.Act.perform, hfails]
  exact congrArg _ (put_self hb)

/-- **Buffers behave like lists.** After any steps with the buffers of a pool that advance over
filled cells only, each buffer holds the list on its sheet, and each answer is the one that the
sheet gives. No cursor lies beyond the capacity. What is out of range fails with what was asked for
and what there is, and changes nothing; and a step about one buffer leaves the others alone. -/
theorem buffers_behave_as_lists {steps : List (Step α)} (h : Sheets.Proper [] steps) :
    (∀ i, ((({} : Desk α).run steps).buffer? i).map (·.written)
        = ((Sheets.run [] steps).sheet? i).map (·.written))
      ∧ (∀ step, ((({} : Desk α).run steps).perform step).1
        = ((Sheets.run [] steps).perform step).1)
      ∧ (∀ i b, (({} : Desk α).run steps).buffer? i = some b →
        b.length = b.written.length ∧ b.length ≤ b.capacity
          ∧ (∀ n, b.capacity - b.length < n →
            (({} : Desk α).run steps).perform (.act i (.advance n))
              = (.error (.outOfRange n (b.capacity - b.length)), ({} : Desk α).run steps))
          ∧ ∀ n, b.length < n → (({} : Desk α).run steps).perform (.act i (.rewind n))
              = (.error (.outOfRange n b.length), ({} : Desk α).run steps))
      ∧ ∀ step i b, (({} : Desk α).run steps).buffer? i = some b → step.target? ≠ some i →
        ((({} : Desk α).run steps).perform step).2.buffer? i = some b := by
  have hshows := shows_empty.run exact_empty h
  refine ⟨fun i => ?_, hshows.answer_eq, fun i b hb => ?_, fun _ _ _ => buffer?_perform_of_ne⟩
  · cases hb : (({} : Desk α).run steps).buffer? i with
    | none => rw [hshows.sheet?_eq_none hb]; rfl
    | some b =>
      obtain ⟨s, hs, hbs⟩ := hshows.exists_sheet hb
      rw [hs]
      exact congrArg some hbs.written_eq
  · obtain ⟨s, -, hbs⟩ := hshows.exists_sheet hb
    exact ⟨(Buffer.length_written hbs.sound).symm, hbs.sound, fun _ => perform_advance_of_lt hb,
      fun _ => perform_rewind_of_lt hb⟩

/-- The second buffer is rented with what the first one wrote still in its storage, and the first
one is written to again after it was released. -/
def secondhand : List (Step UInt8) :=
  [.rent 4, .act 0 (.write [1, 2, 3]), .act 0 .release, .rent 100, .act 1 (.fill [7, 8]),
    .act 0 (.write [5, 6]), .act 1 (.advance 2), .act 1 (.advance 255), .act 1 (.rewind 1)]

theorem buffers_behave_as_lists_secondhand :
    Sheets.Proper [] secondhand
      ∧ ((({} : Desk UInt8).run secondhand).buffer? 0).map (·.written) = some [5, 6]
      ∧ ((({} : Desk UInt8).run secondhand).buffer? 1).map (·.written) = some [7]
      ∧ ((({} : Desk UInt8).run secondhand).perform (.act 1 (.advance 256))).1
        = .error (.outOfRange 256 255) := by
  have hproper : Sheets.Proper [] secondhand := by decide
  obtain ⟨hwritten, hanswer, -, -⟩ := buffers_behave_as_lists hproper
  refine ⟨hproper, (hwritten 0).trans ?_, (hwritten 1).trans ?_, (hanswer _).trans ?_⟩
  · decide
  · decide
  · rfl

end Desk

end Coffer
