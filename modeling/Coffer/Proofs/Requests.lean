import Coffer.Proofs.Persisting

/-!
# Requests that bring functions of their own

The update of a value, the factory of a missing one, the check of a conditional write and the
encoder of a typed one are functions that a program brings, and each may use the store before it
gives an answer. A *request* is an operation, or one of the calls that operations as data know only
with functions of the value or the spelling alone.

What such a function does to the store is not the request's own doing. A request begins where the
functions that come before its write have come to their end (`Request.start`), and from there on it
persists what it does like any operation (`persists_handle`).
-/

namespace Coffer.Session

/-- What a program asks of an open store. -/
inductive Request : Type 1
  | operation (o : Operation)
  | getOrAdd (key : String) (valueKey : Option String) (make : Factory)
  | upsertEncodedBy (key : String) (encode : Encoder) (valueKey : Option String)
  | upsertUnlessBy (key : String) (rejects : Check) (encode : Encoder) (valueKey : Option String)

/-- What a request is answered, and the session after it. -/
def handle (s : Session) : Request → Answer × Session
  | .operation o => s.perform o
  | .getOrAdd key valueKey make => answer .value (s.getOrAdd key valueKey make)
  | .upsertEncodedBy key encode valueKey =>
    answer (fun _ => .done) (s.upsertEncodedBy key encode valueKey)
  | .upsertUnlessBy key rejects encode valueKey =>
    answer .decided (s.upsertUnlessBy key rejects encode valueKey)

namespace Request

/-- Where a request begins: what its functions do comes before that. -/
def start (s : Session) : Request → Session
  | .operation o => o.start s
  | .getOrAdd key valueKey make => s.madeBy key valueKey make
  | .upsertEncodedBy _ encode _ => (encode s).2
  | .upsertUnlessBy key rejects encode valueKey => s.decidedBy key valueKey rejects encode

/-- Is a save due in a request that takes `s`, where it begins, to `t`? -/
def IsDue (s t : Session) : Request → Prop
  | .operation o => o.IsDue s t
  | _ => s.Due t

/-- The functions of the request use the store as a program does. -/
def Uses : Request → Prop
  | .operation o => o.Updates fun f => ∀ (s : Session) value, s.Reaches (f s value).2
  | .getOrAdd _ _ make => ∀ (s : Session) spelling, s.Reaches (make s spelling).2
  | .upsertEncodedBy _ encode _ => ∀ s : Session, s.Reaches (encode s).2
  | .upsertUnlessBy _ rejects encode _ =>
    (∀ (s : Session) value, s.Reaches (rejects s value).2) ∧ ∀ s : Session, s.Reaches (encode s).2

end Request

/-- What a request leads to is reached. -/
theorem Reaches.handle (s : Session) {r : Request} (h : r.Uses) : s.Reaches (s.handle r).2 := by
  cases r with
  | operation o => exact .perform s h
  | getOrAdd key valueKey make => exact .getOrAdd s key valueKey make h
  | upsertEncodedBy key encode valueKey => exact .upsertEncodedBy s key h valueKey
  | upsertUnlessBy key rejects encode valueKey => exact .upsertUnlessBy s key h.1 h.2 valueKey

/-- **A request saves once if a save is due, and else does not save**, whatever its functions have
done before. -/
theorem persists_handle (s : Session) {r : Request} (hload : r ≠ .operation .rollback) :
    Persists .failed (r.IsDue (r.start s) (s.handle r).2) (r.start s) (s.handle r) := by
  cases r with
  | operation o =>
    exact persists_perform s fun h => hload (congrArg Request.operation h)
  | getOrAdd key valueKey make => exact (persists_getOrAdd s key valueKey make).answer _
  | upsertEncodedBy key encode valueKey =>
    exact (persists_upsertEncoded (encode s).2 key (encode s).1 valueKey).answer _
  | upsertUnlessBy key rejects encode valueKey =>
    exact (persists_upsertUnlessBy s key rejects encode valueKey).answer _

end Coffer.Session
