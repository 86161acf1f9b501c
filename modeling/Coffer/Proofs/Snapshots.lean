import Coffer.Proofs.Protection

/-!
# The file never goes back

Snapshots are numbered when they are rendered and may be written in any order. An archive remembers
the number of the last one that it put into the file and drops those that bear a smaller one, though
it answers as if it had written them. So the file always holds the latest of the snapshots that were
written without an error (`file_holds_latest`): the one that was rendered last, whichever of them
was written last.

The invariant is `Journal.Current`: the number the archive remembers is the largest of those
written, and the file holds that snapshot. It carries over a late write, whose number is too small
to be the largest, and over one that is refused or cancelled, which changes nothing at all.
-/

namespace Coffer

/-- An archive that was just opened has put nothing into its file. -/
theorem Archive.committed_of_ofConfig {c : Config} {disk disk' : Disk} {t : Target}
    (h : ofConfig c disk = (.ok (.file t), disk')) : t.committed = 0 := by
  have hserves := serves_of_ofConfig h
  rw [ofConfig_of_filePath (Target.Serves.path hserves)] at h
  split at h
  · cases h
  · obtain ⟨cipher, -, heq⟩ := map_eq_ok_iff.mp (Prod.mk.inj h).1
    have htarget := Archive.file.inj heq
    rw [← htarget]

namespace Target

/-- A run so far: how things stand, the snapshots that were rendered, and those that were written
without an error, each in the order in which that happened. -/
structure Journal where
  state : State
  rendered : List Snapshot := []
  landed : List Snapshot := []

/-- The journal of a run that is about to begin. -/
def State.journal (st : State) : Journal := { state := st }

namespace Journal

/-- The snapshot that a call was answered with. -/
def renderedBy : Answer → List Snapshot
  | .rendered (.ok s) => [s]
  | _ => []

/-- The snapshot that a call has written, by what it was answered. -/
def landedBy : Call → Answer → List Snapshot
  | .write s _, .written (.ok ()) => [s]
  | _, _ => []

/-- One call more. -/
def step (j : Journal) (call : Call) : Journal :=
  { state := (j.state.step call).2
    rendered := j.rendered ++ renderedBy (j.state.step call).1
    landed := j.landed ++ landedBy call (j.state.step call).1 }

/-- The journal after a run. -/
def run (j : Journal) (calls : List Call) : Journal := calls.foldl step j

/-- The snapshot that was rendered last of those that were written without an error. -/
def latest? (j : Journal) : Option Snapshot := j.rendered.reverse.find? fun s => s ∈ j.landed

/-- What is written was rendered before, and others leave the file alone. -/
def Permits (j : Journal) : Call → Prop
  | .write s _ => s ∈ j.rendered
  | .elsewhere disk => disk.read j.state.target.path = j.state.disk.read j.state.target.path
  | .render .. | .load .. => True

/-- Each call of a run is permitted when its turn comes. -/
def PermitsAll (j : Journal) : List Call → Prop
  | [] => True
  | call :: calls => j.Permits call ∧ (j.step call).PermitsAll calls

instance (j : Journal) : (call : Call) → Decidable (j.Permits call)
  | .write s _ => inferInstanceAs (Decidable (s ∈ j.rendered))
  | .elsewhere disk =>
    inferInstanceAs
      (Decidable (disk.read j.state.target.path = j.state.disk.read j.state.target.path))
  | .render .. => .isTrue trivial
  | .load .. => .isTrue trivial

/-- Whether a run is permitted can be found out by running it. -/
instance decidablePermitsAll (j : Journal) : (calls : List Call) → Decidable (j.PermitsAll calls)
  | [] => .isTrue trivial
  | call :: calls =>
    have := decidablePermitsAll (j.step call) calls
    inferInstanceAs (Decidable (j.Permits call ∧ (j.step call).PermitsAll calls))

/-- What the file holds after the writes so far, where `start` stood at first. -/
inductive Current (start : Except DiskFault Bytes) (j : Journal) : Prop
  | untouched (hnone : j.landed = []) (hcommitted : j.state.target.committed = 0)
    (hread : j.state.disk.read j.state.target.path = start)
  | holds (s : Snapshot) (hmem : s ∈ j.landed) (hlargest : ∀ s' ∈ j.landed, s'.number ≤ s.number)
    (hcommitted : j.state.target.committed = s.number)
    (hread : j.state.disk.read j.state.target.path = .ok s.bytes)

/-- What holds of a journal at every moment. -/
structure Sound (path : String) (start : Except DiskFault Bytes) (j : Journal) : Prop where
  path : j.state.target.path = path
  ascending : j.rendered.Pairwise fun s s' => s.number < s'.number
  counted : ∀ s ∈ j.rendered, s.number ≤ j.state.target.rendered
  landed : ∀ s ∈ j.landed, s ∈ j.rendered
  current : j.Current start

variable {j : Journal} {path : String} {start : Except DiskFault Bytes}

/-- The snapshot with the largest number is the one that was rendered last. -/
theorem latest?_eq (h : j.Sound path start) {s : Snapshot} (hmem : s ∈ j.landed)
    (hlargest : ∀ s' ∈ j.landed, s'.number ≤ s.number) : j.latest? = some s := by
  obtain ⟨before, after, hsplit⟩ := List.append_of_mem (h.landed s hmem)
  have hascending := h.ascending
  rw [hsplit, List.pairwise_append, List.pairwise_cons] at hascending
  have hlater : ∀ s' ∈ after, s' ∉ j.landed := by
    intro s' hs' hlanded
    have hlt := hascending.2.1.1 s' hs'
    have hle := hlargest s' hlanded
    omega
  have hnone : after.reverse.find? (fun s => decide (s ∈ j.landed)) = none := by
    rw [List.find?_eq_none]
    intro s' hs'
    simpa using hlater s' (List.mem_reverse.mp hs')
  rw [latest?, hsplit, List.reverse_append, List.reverse_cons, List.append_assoc, List.find?_append,
    hnone, Option.none_or, List.singleton_append, List.find?_cons_of_pos (by simpa using hmem)]

/-! ## One call more -/

theorem Current.congr {j' : Journal} (h : j.Current start) (hlanded : j'.landed = j.landed)
    (hcommitted : j'.state.target.committed = j.state.target.committed)
    (hread : j'.state.disk.read j'.state.target.path = j.state.disk.read j.state.target.path) :
    j'.Current start := by
  cases h with
  | untouched hnone hzero hstart =>
    exact .untouched (hlanded.trans hnone) (hcommitted.trans hzero) (hread.trans hstart)
  | holds s hmem hlargest hnumber hbytes =>
    rw [← hlanded] at hmem hlargest
    exact .holds s hmem hlargest (hcommitted.trans hnumber) (hread.trans hbytes)

/-- A call that neither renders a snapshot nor writes one and leaves the file alone. -/
theorem Sound.idle (h : j.Sound path start) {j' : Journal} (hrendered : j'.rendered = j.rendered)
    (hlanded : j'.landed = j.landed) (hpath : j'.state.target.path = j.state.target.path)
    (hcount : j.state.target.rendered ≤ j'.state.target.rendered)
    (hcommitted : j'.state.target.committed = j.state.target.committed)
    (hread : j'.state.disk.read j.state.target.path = j.state.disk.read j.state.target.path) :
    j'.Sound path start where
  path := hpath.trans h.path
  ascending := hrendered ▸ h.ascending
  counted := fun s hs => Nat.le_trans (h.counted s (hrendered ▸ hs)) hcount
  landed := by
    rw [hlanded, hrendered]
    exact h.landed
  current := h.current.congr hlanded hcommitted (hpath ▸ hread)

theorem Sound.render (h : j.Sound path start) (order : Arrangement) (d : Dictionary)
    (estimate : Nat) : (j.step (.render order d estimate)).Sound path start := by
  have htarget := target_render j.state.target order d estimate j.state.scratch
  cases hresult : j.state.target.render order d estimate j.state.scratch with
  | mk result rest =>
    obtain ⟨t, scratch⟩ := rest
    rw [hresult] at htarget
    obtain rfl : t = _ := htarget
    cases result with
    | error e =>
      apply h.idle <;> simp [step, State.step, hresult, renderedBy, landedBy]
    | ok s =>
      obtain ⟨hnumber, -, -⟩ := render_eq_ok hresult
      have hstep : j.step (.render order d estimate) =
          { state := { j.state with
              target := { j.state.target with rendered := j.state.target.rendered + 1 }, scratch }
            rendered := j.rendered ++ [s]
            landed := j.landed } := by
        simp [step, State.step, hresult, renderedBy, landedBy]
      rw [hstep]
      refine ⟨h.path, ?_, ?_, ?_, h.current.congr rfl rfl rfl⟩
      · -- the number is new: all that were rendered before bear smaller ones
        rw [List.pairwise_append]
        refine ⟨h.ascending, by simp, ?_⟩
        intro s' hs' s'' hs''
        obtain rfl := List.mem_singleton.mp hs''
        have hcounted := h.counted s' hs'
        omega
      · intro s' hs'
        rcases List.mem_append.mp hs' with hs' | hs'
        · exact Nat.le_succ_of_le (h.counted s' hs')
        · obtain rfl := List.mem_singleton.mp hs'
          exact Nat.le_of_eq hnumber
      · exact fun s' hs' => List.mem_append_left _ (h.landed s' hs')

/-- A write that was refused might as well not have been asked for. -/
theorem step_write_of_error {s : Snapshot} {cancelled : Bool} {e : Error}
    (h : j.state.target.write s cancelled j.state.disk
      = (.error e, j.state.target, j.state.disk)) : j.step (.write s cancelled) = j := by
  simp [step, State.step, h, renderedBy, landedBy]

theorem step_write_of_ok {s : Snapshot} {cancelled : Bool} {t : Target} {disk : Disk}
    (h : j.state.target.write s cancelled j.state.disk = (.ok (), t, disk)) :
    j.step (.write s cancelled) =
      { state := { j.state with target := t, disk }
        rendered := j.rendered
        landed := j.landed ++ [s] } := by
  simp [step, State.step, h, renderedBy, landedBy]

/-- A snapshot that comes too late does not change what the file holds. -/
theorem Current.late (h : j.Current start) {s : Snapshot}
    (hlate : s.number < j.state.target.committed) :
    { j with landed := j.landed ++ [s] }.Current start := by
  cases h with
  | untouched hnone hzero hread =>
    -- no snapshot is late before one was written
    omega
  | holds s' hmem hlargest hcommitted hread =>
    refine .holds s' (List.mem_append_left _ hmem) ?_ hcommitted hread
    intro s'' hs''
    rcases List.mem_append.mp hs'' with hs'' | hs''
    · exact hlargest s'' hs''
    · obtain rfl := List.mem_singleton.mp hs''
      omega

/-- None of the snapshots that were written is later than the last one that was not late. -/
theorem Current.number_le (h : j.Current start) {s : Snapshot} (hs : s ∈ j.landed) :
    s.number ≤ j.state.target.committed := by
  cases h with
  | untouched hnone hzero hread =>
    rw [hnone] at hs
    cases hs
  | holds s' hmem hlargest hcommitted hread => exact hcommitted ▸ hlargest s hs

theorem Sound.write (h : j.Sound path start) {s : Snapshot} (hs : s ∈ j.rendered)
    (cancelled : Bool) : (j.step (.write s cancelled)).Sound path start := by
  have hlanded : ∀ s' ∈ j.landed ++ [s], s' ∈ j.rendered := by
    intro s' hs'
    rcases List.mem_append.mp hs' with hs' | hs'
    · exact h.landed s' hs'
    · exact List.mem_singleton.mp hs' ▸ hs
  rcases j.state.target.write_cases s cancelled j.state.disk with
    ⟨e, hwrite⟩ | ⟨hlate, hwrite⟩ | ⟨hnew, disk, hreplace, hwrite⟩
  · rw [step_write_of_error hwrite]
    exact h
  · rw [step_write_of_ok hwrite]
    exact ⟨h.path, h.ascending, h.counted, hlanded, h.current.late hlate⟩
  · rw [step_write_of_ok hwrite]
    refine ⟨h.path, h.ascending, h.counted, hlanded, ?_⟩
    refine .holds s (by simp) ?_ rfl (Disk.read_replace hreplace)
    intro s' hs'
    rcases List.mem_append.mp hs' with hs' | hs'
    · exact Nat.le_trans (h.current.number_le hs') hnew
    · exact List.mem_singleton.mp hs' ▸ Nat.le_refl _

theorem Sound.load (h : j.Sound path start) (cancelled : Bool) (estimate : Nat) :
    (j.step (.load cancelled estimate)).Sound path start := by
  obtain ⟨degraded, htarget⟩ :=
    target_load j.state.target cancelled estimate j.state.disk j.state.scratch
  apply h.idle <;> simp [step, State.step, htarget, renderedBy, landedBy]

theorem Sound.step (h : j.Sound path start) {call : Call} (hcall : j.Permits call) :
    (j.step call).Sound path start := by
  cases call with
  | render order d estimate => exact h.render order d estimate
  | write s cancelled => exact h.write hcall cancelled
  | load cancelled estimate => exact h.load cancelled estimate
  | elsewhere disk =>
    exact h.idle (List.append_nil _) (List.append_nil _) rfl (Nat.le_refl _) rfl hcall

/-! ## Runs -/

theorem Sound.run {calls later : List Call} (h : j.Sound path start)
    (hcalls : j.PermitsAll (calls ++ later)) : (j.run calls).Sound path start := by
  induction calls generalizing j with
  | nil => exact h
  | cons call calls ih => exact ih (h.step hcalls.1) hcalls.2

/-- What the file holds, by which snapshots were written. -/
theorem Sound.read_eq (h : j.Sound path start) :
    (j.landed = [] ∧ j.state.disk.read path = start)
      ∨ ∃ s, j.latest? = some s ∧ j.state.disk.read path = .ok s.bytes := by
  obtain rfl := h.path
  cases h.current with
  | untouched hnone _ hread => exact .inl ⟨hnone, hread⟩
  | holds s hmem hlargest _ hread => exact .inr ⟨s, latest?_eq h hmem hlargest, hread⟩

/-- A write that was cancelled or refused might as well not have been asked for. -/
theorem step_write_of_refused {s : Snapshot} {cancelled : Bool}
    (h : cancelled ∨ ∃ e, (j.state.step (.write s cancelled)).1 = .written (.error e)) :
    j.step (.write s cancelled) = j := by
  rcases h with rfl | ⟨e, he⟩
  · obtain ⟨e, hwrite⟩ := j.state.target.write_of_cancelled s j.state.disk
    exact step_write_of_error hwrite
  · rcases j.state.target.write_cases s cancelled j.state.disk with
      ⟨e', hwrite⟩ | ⟨-, hwrite⟩ | ⟨-, disk, -, hwrite⟩
    · exact step_write_of_error hwrite
    · simp [State.step, hwrite] at he
    · simp [State.step, hwrite] at he

theorem run_append (j : Journal) (calls later : List Call) :
    j.run (calls ++ later) = (j.run calls).run later := List.foldl_append

end Journal

/-- **The file never goes back.** At every moment of a run from opening an archive on, in which
nobody else writes the file, it is untouched if nothing was written yet, and else holds the latest
of the snapshots that were written. Writes that are cancelled or refused might as well not have been
asked for. -/
theorem file_holds_latest {c : Config} {disk disk' : Disk} {st : State} {calls : List Call}
    (hopen : Archive.ofConfig c disk = (.ok (.file st.target), disk'))
    (hcalls : st.journal.PermitsAll calls) :
    (∀ earlier later, calls = earlier ++ later →
      ((st.journal.run earlier).landed = []
          ∧ (st.journal.run earlier).state.disk.read st.target.path = st.disk.read st.target.path)
        ∨ ∃ s, (st.journal.run earlier).latest? = some s
          ∧ (st.journal.run earlier).state.disk.read st.target.path = .ok s.bytes)
      ∧ ∀ earlier s (cancelled : Bool) later, calls = earlier ++ .write s cancelled :: later →
        (cancelled ∨ ∃ e, ((st.journal.run earlier).state.step (.write s cancelled)).1
          = .written (.error e)) →
        st.journal.run calls = st.journal.run (earlier ++ later) := by
  have hfresh : st.target.committed = 0 := Archive.committed_of_ofConfig hopen
  have hsound : st.journal.Sound st.target.path (st.disk.read st.target.path) :=
    ⟨rfl, .nil, by simp [State.journal], by simp [State.journal], .untouched rfl hfresh rfl⟩
  refine ⟨?_, ?_⟩
  · rintro earlier later rfl
    exact (hsound.run hcalls).read_eq
  · rintro earlier s cancelled later rfl hrefused
    rw [Journal.run_append, Journal.run_append]
    show Journal.run (Journal.step _ _) later = _
    rw [Journal.step_write_of_refused hrefused]

/-- An archive that was just opened, on a disk without files. -/
def fresh : State :=
  { target :=
      { path := "f", comparer := .ordinal, encoding := .utf8, cipher := none, strict := false }
    disk := {} }

/-- What is rendered for one entry. -/
def second : Snapshot := { number := 2, bytes := [1, 0, 0, 0, 1, 0, 0, 0, 0x61, 1, 0, 0, 0, 7] }

/-- Three snapshots are rendered. Writing the last is cancelled; then the second is written and
after it, late, the first. -/
def outOfTurn : List Call :=
  [.render .asInserted (.empty .ordinal) 0,
    .render .asInserted (.ofEntries .ordinal [{ key := "a", value := some [7] }]) 0,
    .render .asInserted (.empty .ordinal) 0,
    .write { number := 3, bytes := [0, 0, 0, 0] } true,
    .write second false,
    .write { number := 1, bytes := [0, 0, 0, 0] } false]

/-- The file holds the second snapshot, and the cancelled write has made no difference. -/
theorem file_holds_latest_outOfTurn :
    Archive.ofConfig { path := some "f" } {} = (.ok (.file fresh.target), {})
      ∧ fresh.journal.PermitsAll outOfTurn
      ∧ (fresh.journal.run outOfTurn).landed = [second, { number := 1, bytes := [0, 0, 0, 0] }]
      ∧ (fresh.journal.run outOfTurn).state.disk.read "f" = .ok second.bytes
      ∧ fresh.journal.run outOfTurn = fresh.journal.run (outOfTurn.eraseIdx 3) := by
  have hopen : Archive.ofConfig { path := some "f" } {} = (.ok (.file fresh.target), {}) := rfl
  have hpermits : fresh.journal.PermitsAll outOfTurn := by decide +kernel
  have hlanded : (fresh.journal.run outOfTurn).landed
      = [second, { number := 1, bytes := [0, 0, 0, 0] }] := by decide +kernel
  have hlatest : (fresh.journal.run outOfTurn).latest? = some second := by decide +kernel
  obtain ⟨hfile, hrefused⟩ := file_holds_latest hopen hpermits
  refine ⟨hopen, hpermits, hlanded, ?_, ?_⟩
  · rcases hfile outOfTurn [] (List.append_nil _).symm with ⟨hnone, -⟩ | ⟨s, hs, hread⟩
    · rw [hlanded] at hnone
      cases hnone
    · rw [hlatest] at hs
      cases hs
      exact hread
  · exact hrefused (outOfTurn.take 3) _ true (outOfTurn.drop 4) rfl (.inl rfl)

end Target

end Coffer
