import Coffer.Proofs.Calls

/-!
# How long an undecryptable file is protected

An archive that could not decrypt its file is degraded and refuses to write. That lasts until the
next load, and any load ends it: also one that fails, be it cancelled, or the file cut short or out
of reach by then. So the file is protected until a load *succeeds* exactly in those runs where no
load fails before.
-/

namespace Coffer.Target

/-- Was the call a load that succeeded? -/
def Event.loaded (e : Event) : Bool :=
  match e.answer with
  | .loaded (.ok _) => true
  | _ => false

/-- Was the call a load that failed? -/
def Event.loadFailed (e : Event) : Bool :=
  match e.answer with
  | .loaded (.error _) => true
  | _ => false

/-- The archive stays degraded, and if it was asked to write, it refused and the disk is as it
was. -/
structure Event.Guards (e : Event) : Prop where
  degraded : e.after.target.degraded = true
  refused : ∀ r, e.answer = .written r → (∃ err, r = .error err) ∧ e.after.disk = e.before.disk

/-- The file is protected until a load succeeds. -/
def Protected (history : List Event) : Prop :=
  ∀ earlier e later, history = earlier ++ e :: later → (∀ e' ∈ earlier ++ [e], ¬e'.loaded) →
    e.Guards

/-- No load fails until one succeeds. -/
def LoadsAtOnce (history : List Event) : Prop :=
  ∀ earlier e later, history = earlier ++ e :: later → (∀ e' ∈ earlier, ¬e'.loaded) →
    ¬e.loadFailed

variable {st : State} {call : Call}

/-! ## One call -/

/-- What a call of a degraded archive comes to. -/
theorem guards_or_load (h : st.target.degraded = true) (call : Call) :
    Event.Guards { before := st, answer := (st.step call).1, after := (st.step call).2 }
      ∨ ∃ r, (st.step call).1 = .loaded r := by
  cases call with
  | render order d estimate =>
    refine .inl ⟨?_, ?_⟩
    · exact (degraded_render st.target order d estimate st.scratch).trans h
    · rintro r hr
      cases hr
  | write s cancelled =>
    have hwrite := write_of_degraded h s cancelled st.disk
    refine .inl ⟨?_, ?_⟩
    · show (st.target.write s cancelled st.disk).2.1.degraded = true
      rw [hwrite]
      exact h
    · rintro r hr
      obtain rfl : (st.target.write s cancelled st.disk).1 = r := Answer.written.inj hr
      show _ ∧ (st.target.write s cancelled st.disk).2.2 = st.disk
      rw [hwrite]
      exact ⟨⟨_, rfl⟩, rfl⟩
  | load cancelled estimate => exact .inr ⟨_, rfl⟩
  | elsewhere disk =>
    refine .inl ⟨h, ?_⟩
    rintro r hr
    cases hr

/-- A load that fails takes the protection away. -/
theorem degraded_of_loadFailed {err : Error} (h : (st.step call).1 = .loaded (.error err)) :
    (st.step call).2.target.degraded = false := by
  cases call with
  | render | write | elsewhere => cases h
  | load cancelled estimate => exact degraded_of_load_error (Answer.loaded.inj h)

/-! ## Runs -/

theorem history_cons (st : State) (call : Call) (calls : List Call) :
    st.history (call :: calls)
      = { before := st, answer := (st.step call).1, after := (st.step call).2 }
        :: (st.step call).2.history calls := rfl

/-- Each event of a history is a call that was made. -/
theorem exists_step_of_mem {calls : List Call} {e : Event} (h : e ∈ st.history calls) :
    ∃ call, e.before.step call = (e.answer, e.after) := by
  induction calls generalizing st with
  | nil => cases h
  | cons call calls ih =>
    rw [history_cons] at h
    rcases List.mem_cons.mp h with rfl | h
    · exact ⟨call, Prod.ext rfl rfl⟩
    · exact ih h

/-- As long as no load failed or succeeded, the file is protected: each call finds the archive
degraded and leaves it so. -/
theorem protected_of_loadsAtOnce {calls : List Call} (h : st.target.degraded = true)
    (hloads : LoadsAtOnce (st.history calls)) : Protected (st.history calls) := by
  induction calls generalizing st with
  | nil =>
    rintro earlier e later heq
    simp [State.history] at heq
  | cons call calls ih =>
    rw [history_cons] at hloads ⊢
    -- what the first call comes to, if it is no load that succeeds
    have hfirst : ¬(Event.mk st (st.step call).1 (st.step call).2).loaded →
        (Event.mk st (st.step call).1 (st.step call).2).Guards := by
      intro hloaded
      have hfailed := hloads [] _ _ rfl (by simp)
      rcases guards_or_load h call with hguards | ⟨r, hr⟩
      · exact hguards
      · cases r with
        | ok d => exact absurd (by rw [Event.loaded, hr]) hloaded
        | error err => exact absurd (by rw [Event.loadFailed, hr]) hfailed
    rintro earlier e later heq hnone
    cases earlier with
    | nil =>
      obtain ⟨rfl, -⟩ := List.cons.inj heq
      exact hfirst (hnone _ (by simp))
    | cons e' earlier =>
      obtain ⟨rfl, htail⟩ := List.cons.inj heq
      rw [List.cons_append, List.forall_mem_cons] at hnone
      refine ih (hfirst hnone.1).degraded ?_ earlier e later htail hnone.2
      rintro earlier e later heq hearlier
      refine hloads (_ :: earlier) e later (by rw [heq]; rfl) ?_
      exact List.forall_mem_cons.mpr ⟨hnone.1, hearlier⟩

/-- Where the file is protected until a load succeeds, no load fails before that. -/
theorem loadsAtOnce_of_protected {calls : List Call} (hprotected : Protected (st.history calls)) :
    LoadsAtOnce (st.history calls) := by
  rintro earlier e later heq hearlier hfailed
  obtain ⟨err, herr⟩ : ∃ err, e.answer = .loaded (.error err) := by
    unfold Event.loadFailed at hfailed
    split at hfailed
    · next err heq => exact ⟨err, heq⟩
    · cases hfailed
  have hmem : e ∈ st.history calls := by simp [heq]
  obtain ⟨call, hcall⟩ := exists_step_of_mem hmem
  have hanswer : (e.before.step call).1 = .loaded (.error err) := by rw [hcall]; exact herr
  have hafter := degraded_of_loadFailed hanswer
  rw [hcall] at hafter
  -- a load that failed is none that succeeded, so the protection should still be there
  have hnone : ∀ e' ∈ earlier ++ [e], ¬e'.loaded := by
    intro e' he'
    rcases List.mem_append.mp he' with he' | he'
    · exact hearlier e' he'
    · obtain rfl := List.mem_singleton.mp he'
      simp [Event.loaded, herr]
  have hguards := (hprotected earlier e later heq hnone).degraded
  rw [hafter] at hguards
  cases hguards

/-- **An undecryptable file is protected until a load succeeds if and only if no load fails before
that.** -/
theorem protected_iff (calls : List Call) (h : st.target.degraded = true) :
    Protected (st.history calls) ↔ LoadsAtOnce (st.history calls) :=
  ⟨loadsAtOnce_of_protected, protected_of_loadsAtOnce h⟩

/-- An archive with the key `k` that has found a file it cannot decrypt. -/
def locked : State :=
  { target := { path := "f", comparer := .ordinal, encoding := .utf8, strict := false
                cipher := some { key := some (Digest.Sha256.digest (Text.Utf8.encode "k")) }
                degraded := true }
    disk := { nodes := [(["f"], .file (List.replicate 16 7))] } }

/-- A write is refused; then the file is gone, a load finds that, and nothing is left to protect. -/
theorem protected_locked :
    locked.target.degraded = true
      ∧ Protected (locked.history [.write { number := 1, bytes := [0] } false, .elsewhere {},
          .load false 0, .write { number := 1, bytes := [0] } false]) := by
  refine ⟨rfl, (protected_iff _ rfl).mpr ?_⟩
  have hall : (locked.history [.write { number := 1, bytes := [0] } false, .elsewhere {},
      .load false 0, .write { number := 1, bytes := [0] } false]).all
        (fun e => !e.loadFailed) := by decide +kernel
  rintro earlier e later heq - hfailed
  rw [heq] at hall
  simp [hfailed] at hall

/-- What the archive renders for a dictionary without entries. -/
def hollow : Snapshot :=
  { number := 1
    bytes := [0x27, 0x52, 0x5D, 0xB9, 0x1F, 0x41, 0xE6, 0x63, 0x96, 0x5B, 0xCC, 0x6C, 0x8D, 0x41,
      0xB2, 0x3E] }

/-- A load has locked the archive. Another one that is cancelled ends the protection, and the next
snapshot replaces the file. -/
theorem not_protected_locked :
    (Target.load { locked.target with degraded := false } false 0 locked.disk {}).2.1.degraded
        = true
      ∧ ¬Protected (locked.history [.load true 0, .render .asInserted (.empty .ordinal) 0,
          .write hollow false])
      ∧ ((locked.run [.load true 0]).step (.render .asInserted (.empty .ordinal) 0)).1
        = .rendered (.ok hollow)
      ∧ (locked.run [.load true 0, .render .asInserted (.empty .ordinal) 0,
          .write hollow false]).disk.read "f" = .ok hollow.bytes := by
  have hlocked : (Target.load { locked.target with degraded := false } false 0 locked.disk
      {}).2.1.degraded = true := by decide +kernel
  have hrendered : ((locked.run [.load true 0]).step (.render .asInserted (.empty .ordinal) 0)).1
      = .rendered (.ok hollow) := by decide +kernel
  refine ⟨hlocked, ?_, hrendered, by decide +kernel⟩
  intro hprotected
  have hanswer : (locked.step (.load true 0)).1 = .loaded (.error .cancelled) := by decide +kernel
  have hguards := hprotected [] _ _ (history_cons _ _ _) (by
    intro e he
    obtain rfl := List.mem_singleton.mp he
    rw [Event.loaded, hanswer]
    exact Bool.false_ne_true)
  have hdegraded := hguards.degraded
  rw [degraded_of_loadFailed hanswer] at hdegraded
  cases hdegraded

end Coffer.Target
