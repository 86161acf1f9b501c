import Coffer.Proofs.Protection

/-!
# When a cancel wins

A write or a load that was cancelled before it began should be answered so, and else nothing should
have happened: the file, the number of the last snapshot written and the protection of a file that
could not be decrypted are as they were, and whatever is called later goes as if the call had never
been made (`State.Cancels`).

The cancel is asked for late, however. A write looks first at whether the archive is degraded and
then starts the new file; a load clears the protection and opens the file. Either can come to an
answer before the cancel does: the write is refused or finds no folder, and the load finds no file
and takes it for an empty one. So the cancel wins exactly where the archive is not degraded and
nothing stands in the way of the file (`cancels_iff`). The file and the number are left alone in any
case.
-/

namespace Coffer.Target

/-- The call was answered that it was cancelled. -/
def Answer.IsCancelled : Answer → Prop
  | .written r => r = .error .cancelled
  | .loaded r => r = .error .cancelled
  | _ => False

/-- The call is cancelled, and all goes on as if it had not been made. -/
structure State.Cancels (st : State) (call : Call) : Prop where
  answer : (st.step call).1.IsCancelled
  disk : (st.step call).2.disk = st.disk
  committed : (st.step call).2.target.committed = st.target.committed
  degraded : (st.step call).2.target.degraded = st.target.degraded
  later : ∀ calls, (st.step call).2.history calls = st.history calls

variable {st : State}

/-- A call that is answered so and leaves things as they were is cancelled. -/
theorem State.Cancels.of_step {call : Call} (hanswer : (st.step call).1.IsCancelled)
    (hafter : (st.step call).2 = st) : st.Cancels call where
  answer := hanswer
  disk := by rw [hafter]
  committed := by rw [hafter]
  degraded := by rw [hafter]
  later calls := by rw [hafter]

/-! ## Writing -/

/-- A cancelled write leaves everything as it was, whatever it is answered. -/
theorem step_write_cancelled (st : State) (s : Snapshot) : (st.step (.write s true)).2 = st := by
  obtain ⟨e, hwrite⟩ := st.target.write_of_cancelled s st.disk
  simp only [State.step, hwrite]

/-- It is answered so if the archive may write and the new file can be started. -/
theorem isCancelled_write_iff (st : State) (s : Snapshot) :
    (st.step (.write s true)).1.IsCancelled
      ↔ st.target.degraded = false ∧ st.disk.checkBeside st.target.path = .ok () := by
  show (st.target.write s true st.disk).1 = .error .cancelled ↔ _
  unfold write
  by_cases hdegraded : st.target.degraded = true
  · rw [if_pos hdegraded]
    constructor
    · intro h
      cases h
    · rintro ⟨hsound, -⟩
      rw [hsound] at hdegraded
      cases hdegraded
  · rw [if_neg hdegraded]
    cases hbeside : st.disk.checkBeside st.target.path with
    | error f =>
      constructor
      · intro h
        cases h
      · rintro ⟨-, h⟩
        cases h
    | ok u => exact iff_of_true rfl ⟨Bool.eq_false_iff.mpr hdegraded, rfl⟩

/-! ## Loading -/

/-- A cancelled load takes the protection of the file away, and else leaves everything as it was. -/
theorem step_load_cancelled (st : State) (estimate : Nat) :
    (st.step (.load true estimate)).2
      = { st with target := { st.target with degraded := false } } := by
  have hload : (st.target.load true estimate st.disk st.scratch).2
      = ({ st.target with degraded := false }, st.scratch) := by
    unfold load
    simp only
    split <;> rfl
  simp only [State.step, hload]

/-- It is answered so if there is something at the path that can be opened. -/
theorem isCancelled_load_iff (st : State) (estimate : Nat) :
    (st.step (.load true estimate)).1.IsCancelled
      ↔ ∃ node, st.disk.stat st.target.path = .ok node := by
  show (st.target.load true estimate st.disk st.scratch).1 = .error .cancelled ↔ _
  unfold load
  simp only
  cases hstat : st.disk.stat st.target.path with
  | ok node => exact iff_of_true rfl ⟨node, rfl⟩
  | error f =>
    -- a missing file is taken for an empty one, and any other fault is the answer
    refine iff_of_false ?_ (by simp)
    intro h
    cases f <;> cases h

/-! ## When the cancel wins -/

theorem cancels_write_iff (st : State) (s : Snapshot) :
    st.Cancels (.write s true)
      ↔ st.target.degraded = false ∧ st.disk.checkBeside st.target.path = .ok () := by
  rw [← isCancelled_write_iff st s]
  constructor
  · intro h
    exact h.answer
  · intro hanswer
    exact .of_step hanswer (step_write_cancelled st s)

theorem cancels_load_iff (st : State) (estimate : Nat) :
    st.Cancels (.load true estimate)
      ↔ st.target.degraded = false ∧ ∃ node, st.disk.stat st.target.path = .ok node := by
  have hafter := step_load_cancelled st estimate
  rw [← isCancelled_load_iff st estimate]
  constructor
  · intro h
    -- after the load the archive is not degraded, so it was not before
    have hdegraded := h.degraded
    rw [hafter] at hdegraded
    exact ⟨hdegraded.symm, h.answer⟩
  · rintro ⟨hsound, hanswer⟩
    refine .of_step hanswer (hafter.trans ?_)
    rw [← hsound]

/-- **A cancel that came before the call wins if and only if the archive is not degraded and nothing
stands in the way of the file**: of a write, that no new file can be started beside the old one, and
of a load, that the file is missing or cannot be opened. In any case a write leaves everything as it
was, and a load everything but the protection of the file. -/
theorem cancels_iff (st : State) (s : Snapshot) (estimate : Nat) :
    (st.Cancels (.write s true)
        ↔ st.target.degraded = false ∧ st.disk.checkBeside st.target.path = .ok ())
      ∧ (st.Cancels (.load true estimate)
        ↔ st.target.degraded = false ∧ ∃ node, st.disk.stat st.target.path = .ok node)
      ∧ (st.step (.write s true)).2 = st
      ∧ (st.step (.load true estimate)).2
        = { st with target := { st.target with degraded := false } } :=
  ⟨cancels_write_iff st s, cancels_load_iff st estimate, step_write_cancelled st s,
    step_load_cancelled st estimate⟩

/-- The archive before it has met a file. -/
def unmet : State := { target := { locked.target with degraded := false }, disk := {} }

/-- A cancelled load finds no file and succeeds. One that meets the file that could not be decrypted
is cancelled and takes the protection away, and a write that is to be cancelled there is refused. -/
theorem not_cancels_locked :
    (unmet.step (.load true 0)).1 = .loaded (.ok (.empty .ordinal))
      ∧ ¬unmet.Cancels (.load true 0)
      ∧ (locked.step (.load true 0)).1 = .loaded (.error .cancelled)
      ∧ (locked.step (.load true 0)).2.target.degraded = false
      ∧ ¬locked.Cancels (.load true 0)
      ∧ (locked.step (.write hollow true)).1
        = .written (.error (.deserialization "f" .undecryptable))
      ∧ ¬locked.Cancels (.write hollow true) := by
  have hunmet : (unmet.step (.load true 0)).1 = .loaded (.ok (.empty .ordinal)) := by
    decide
  have hcleared : (locked.step (.load true 0)).2.target.degraded = false := by decide
  have hrefused : (locked.step (.write hollow true)).1
      = .written (.error (.deserialization "f" .undecryptable)) := by decide
  refine ⟨hunmet, ?_, by decide, hcleared, ?_, hrefused, ?_⟩
  · intro h
    have hanswer := h.answer
    rw [hunmet] at hanswer
    cases hanswer
  · intro h
    have hdegraded := h.degraded
    rw [hcleared] at hdegraded
    cases hdegraded
  · intro h
    have hanswer := h.answer
    rw [hrefused] at hanswer
    cases hanswer

end Coffer.Target
