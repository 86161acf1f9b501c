import Coffer.Proofs.Serving

/-!
# Calls of an archive

An archive with a file is used by three calls: it renders, writes and loads. Between them others may
do what they like with the disk. A run is a list of calls, and its history tells of each call what
it was answered and how things stood before and after it.

Each call is described once, by what it leaves as it was: rendering counts, a write that is refused
changes nothing, and a load touches no file.
-/

namespace Coffer.Target

/-- A call of the archive, or something that others do. -/
inductive Call where
  | render (order : Arrangement) (d : Dictionary) (estimate : Nat)
  | write (s : Snapshot) (cancelled : Bool)
  | load (cancelled : Bool) (estimate : Nat)
  | elsewhere (disk : Disk)

/-- What a call is answered. -/
inductive Answer where
  | rendered (r : Except Error Snapshot)
  | written (r : Except Error Unit)
  | loaded (r : Except Error Dictionary)
  | nothing
  deriving DecidableEq

/-- An archive with a file and what it works on. -/
structure State where
  target : Target
  disk : Disk
  scratch : Scratch := {}

/-- One call. -/
def State.step (st : State) : Call → Answer × State
  | .render order d estimate =>
    let (r, target, scratch) := st.target.render order d estimate st.scratch
    (.rendered r, { st with target, scratch })
  | .write s cancelled =>
    let (r, target, disk) := st.target.write s cancelled st.disk
    (.written r, { st with target, disk })
  | .load cancelled estimate =>
    let (r, target, scratch) := st.target.load cancelled estimate st.disk st.scratch
    (.loaded r, { st with target, scratch })
  | .elsewhere disk => (.nothing, { st with disk })

/-- A call that was made. -/
structure Event where
  before : State
  answer : Answer
  after : State

/-- The calls of a run one by one. -/
def State.history (st : State) : List Call → List Event
  | [] => []
  | call :: calls =>
    let (answer, after) := st.step call
    { before := st, answer, after } :: after.history calls

/-- How things stand after a run. -/
def State.run (st : State) (calls : List Call) : State :=
  calls.foldl (fun st call => (st.step call).2) st

/-! ## What a call leaves as it was -/

variable {t : Target}

@[simp] theorem degraded_render (t : Target) (order : Arrangement) (d : Dictionary)
    (estimate : Nat) (scratch : Scratch) :
    (t.render order d estimate scratch).2.1.degraded = t.degraded := by
  rw [target_render]

/-- A degraded archive refuses to write, and nothing changes. -/
theorem write_of_degraded (h : t.degraded = true) (s : Snapshot) (cancelled : Bool) (disk : Disk) :
    t.write s cancelled disk = (.error (t.fault .undecryptable), t, disk) := by
  rw [write, if_pos h]

/-- After a load that failed the archive is not degraded, whatever it was before. -/
theorem degraded_of_load_error {cancelled : Bool} {estimate : Nat} {disk : Disk}
    {scratch : Scratch} {e : Error}
    (h : (t.load cancelled estimate disk scratch).1 = .error e) :
    (t.load cancelled estimate disk scratch).2.1.degraded = false := by
  revert h
  unfold load
  -- the flag is cleared first, and set again only along with a dictionary
  simp only
  split
  · intro h
    cases h
  · exact fun _ => rfl
  · split
    · exact fun _ => rfl
    · split
      · exact fun _ => rfl
      · split
        · intro h
          cases h
        · exact fun _ => rfl

end Coffer.Target
