import Dissect.Bytes.Basic

/-!
# Conversations

A conversation is one captured exchange between a client and a server: where it ran, and the
chunks of octets each side sent, in the order they were captured. A dissector answers a
conversation with chunks of its own; the answer is `unchanged` exactly when those chunks are the
input again, chunk for chunk.
-/

set_option autoImplicit false

namespace Dissect

/-- Which side sent a chunk. -/
inductive Direction where
  | client
  | server
  deriving Repr, DecidableEq, Inhabited

namespace Direction

def code : Direction → Nat
  | .client => 0
  | .server => 1

/-- The direction a number stands for. -/
def ofCode? : Nat → Option Direction
  | 0 => some .client
  | 1 => some .server
  | _ => none

def opposite : Direction → Direction
  | .client => .server
  | .server => .client

@[simp] theorem ofCode?_code (d : Direction) : ofCode? d.code = some d := by cases d <;> rfl

@[simp] theorem opposite_opposite (d : Direction) : d.opposite.opposite = d := by cases d <;> rfl

end Direction

/-- Octets one side sent, as captured. -/
structure Chunk where
  direction : Direction
  content : Bytes
  deriving Repr, DecidableEq, Inhabited

def Chunk.text (d : Direction) (s : String) : Chunk := ⟨d, Bytes.ofString s⟩

/-- How the conversation travelled. -/
inductive Transport where
  | tcp
  | udp
  deriving Repr, DecidableEq, Inhabited

def Transport.name : Transport → String
  | .tcp => "tcp"
  | .udp => "udp"

/-- Where a conversation ran. -/
structure Metadata where
  streamId : UInt64
  clientHost : String
  clientPort : UInt16
  serverHost : String
  serverPort : UInt16
  transport : Transport
  deriving Repr, DecidableEq, Inhabited

/-- One captured conversation. -/
structure Conversation where
  metadata : Metadata
  chunks : List Chunk
  deriving Repr, DecidableEq, Inhabited

/-- A dissector's answer to a conversation. -/
inductive Conversion where
  | unchanged
  | chunks (cs : List Chunk)
  deriving Repr, DecidableEq

namespace Conversion

def ofOutput (input output : List Chunk) : Conversion :=
  if input = output then .unchanged else .chunks output

def resolve (input : List Chunk) : Conversion → List Chunk
  | .unchanged => input
  | .chunks cs => cs

def isUnchanged : Conversion → Bool
  | .unchanged => true
  | .chunks _ => false

theorem resolve_ofOutput (input output : List Chunk) :
    (ofOutput input output).resolve input = output := by
  unfold ofOutput
  split <;> simp_all [resolve]

end Conversion

/-- A capture that starts with the server is put back in order by swapping its first two chunks,
on the guess that the capture began in the middle of the first exchange. -/
def clientFirst : List Chunk → List Chunk
  | a :: b :: rest => if a.direction = .server then b :: a :: rest else a :: b :: rest
  | cs => cs

theorem clientFirst_perm : ∀ cs : List Chunk, (clientFirst cs).Perm cs
  | a :: b :: rest => by
    by_cases h : a.direction = .server
    · rw [clientFirst, if_pos h]
      exact List.Perm.swap a b rest
    · rw [clientFirst, if_neg h]
  | [] => List.Perm.refl _
  | [_] => List.Perm.refl _

end Dissect
