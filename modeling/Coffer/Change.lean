import Coffer.Bytes

/-!
# Changes and their subscribers

A store announces its changes one by one. A change of a value carries the value as its caller knows
it, a removal the value as it was stored, and emptying the store is announced as one removal of the
key `ALL` without a value. A removal of an entry of that name is told apart by its value, unless the
entry's value was absent.

A feed holds an inbox for each subscription; a subscriber takes the changes out of his inbox when he
likes, and the inbox of one who left takes no more.
-/

namespace Coffer

/-- What happened to a key. -/
inductive ChangeKind where
  | upsert
  | remove
  deriving Repr, DecidableEq

/-- One change of a store. -/
structure Change where
  kind : ChangeKind
  key : String
  value : Option Bytes
  deriving Repr, DecidableEq

namespace Change

/-- The name of the kind of change. -/
def kindName (c : Change) : String :=
  match c.kind with
  | .upsert => "Upsert"
  | .remove => "Remove"

/-- The key that stands for all keys. -/
def allKeys : String := "ALL"

/-- The announcement that the store was emptied. -/
def cleared : Change := { kind := .remove, key := allKeys, value := none }

/-- Does the change say that the store was emptied? -/
def isCleared (c : Change) : Bool := c.kind = .remove && c.key = allKeys && c.value.isNone

end Change

/-- The inboxes of all subscriptions, in their order; none for a subscriber who left. -/
structure Feed where
  inboxes : List (Option (List Change)) := []
  deriving Repr, DecidableEq

instance : Inhabited Feed := ⟨{}⟩

namespace Feed

/-- Adds a subscription, and tells its number. -/
def subscribe (f : Feed) : Nat × Feed :=
  (f.inboxes.length, { inboxes := f.inboxes ++ [some []] })

/-- Ends a subscription. -/
def unsubscribe (f : Feed) (n : Nat) : Feed := { inboxes := f.inboxes.set n none }

/-- Puts a change into every inbox. -/
def publish (f : Feed) (c : Change) : Feed :=
  { inboxes := f.inboxes.map fun inbox => inbox.map (· ++ [c]) }

/-- What is in an inbox; none if the subscription has ended. -/
def inbox? (f : Feed) (n : Nat) : Option (List Change) := (f.inboxes[n]?).join

/-- The feed with all inboxes emptied. -/
def emptied (f : Feed) : Feed := { inboxes := f.inboxes.map fun inbox => inbox.map fun _ => [] }

end Feed

end Coffer
