import Dissect.Conversation.Basic
/-!
# Issues found while dissecting

An issue either concerns one chunk or frame, and is then shown in the output as a diagnostic
chunk close to where it arose, or it makes the whole conversation undissectable: a WebSocket
handshake whose accept value is wrong, fragments that do not join, or too many of them.
-/

set_option autoImplicit false

namespace Dissect

/-- Something that went wrong while dissecting a conversation. -/
inductive Issue where
  | http (text : String)
  | frame (text : String)
  | hpack (text : String)
  | webSocket (text : String)
  | grpc (text : String)
  | inspect (text : String)
  | handshakeMismatch (received expected : String)
  | invalidFragmentation
  | tooManyFragments (pending : Nat)
  deriving Repr, DecidableEq

namespace Issue

/-- The text of an issue. -/
def message : Issue → String
  | .http t | .frame t | .webSocket t | .grpc t | .inspect t => t
  | .hpack t => s!"HPACK decoding failed: {t}"
  | .handshakeMismatch r e => s!"Invalid websocket key: {r} != {e}"
  | .invalidFragmentation => "Invalid fragmented message"
  | .tooManyFragments n => s!"Fragmented message too long ({n} fragments pending)"

/-- Whether the issue ends the dissection of the whole conversation. -/
def isFatal : Issue → Bool
  | .handshakeMismatch _ _ | .invalidFragmentation | .tooManyFragments _ => true
  | _ => false

end Issue

/-- A dissection step over a state `σ`; an issue ends the step but keeps the state changes made
before it. -/
abbrev Dissecting (σ : Type) := ExceptT Issue (StateM σ)

/-- Run a step; a recoverable issue becomes what `recover` makes of it, a fatal one goes on. -/
def Dissecting.recovering {σ α : Type} (step : Dissecting σ α) (recover : Issue → α) :
    Dissecting σ α :=
  tryCatch step fun e => if e.isFatal then throw e else pure (recover e)

/-- Run a step over a part of a larger state, read by `get` and written back by `put`. -/
def Dissecting.within {σ τ α : Type} (get : τ → σ) (put : τ → σ → τ) (m : Dissecting σ α) :
    Dissecting τ α := ExceptT.mk fun t =>
  let (r, s) := Id.run ((m.run).run (get t))
  pure (r, put t s)

/-- Run a dissection step from a start state and keep its result. -/
def Dissecting.evaluate {σ α : Type} (step : Dissecting σ α) (start : σ) : Except Issue α :=
  (Id.run (step.run.run start)).1

end Dissect
