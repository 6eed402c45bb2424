import Dissect.Conversation.Basic
/-!
# One value per side

Much of a conversation's state comes in pairs, one for what the client sends and one for what
the server sends: frame buffers, header tables, pending fragments.
-/

set_option autoImplicit false

namespace Dissect

/-- A value for each side of a conversation. -/
structure Sides (α : Type) where
  client : α
  server : α
  deriving Repr, DecidableEq, Inhabited

namespace Sides

variable {α : Type}

def both (a : α) : Sides α := ⟨a, a⟩

def get (s : Sides α) : Direction → α
  | .client => s.client
  | .server => s.server

def set (s : Sides α) : Direction → α → Sides α
  | .client, a => { s with client := a }
  | .server, a => { s with server := a }

def modify (s : Sides α) (d : Direction) (f : α → α) : Sides α := s.set d (f (s.get d))

@[simp] theorem get_set_self (s : Sides α) (d : Direction) (a : α) : (s.set d a).get d = a := by
  cases d <;> rfl

@[simp] theorem get_set_opposite (s : Sides α) (d : Direction) (a : α) :
    (s.set d a).get d.opposite = s.get d.opposite := by
  cases d <;> rfl

@[simp] theorem set_get (s : Sides α) (d : Direction) : s.set d (s.get d) = s := by
  cases d <;> rfl

@[simp] theorem set_set (s : Sides α) (d : Direction) (a b : α) :
    (s.set d a).set d b = s.set d b := by
  cases d <;> rfl

end Sides

end Dissect
