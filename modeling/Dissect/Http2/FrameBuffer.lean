import Dissect.Http2.Frame
import Dissect.Config
/-!
# Reassembling frames

The octets of one direction of a connection arrive in pieces; whole frames are split off the
front by the length in their header. The client's direction first carries the connection
preface. A wrong preface, or a frame longer than the direction's bound, loses the frame
boundaries, so the buffered octets are dropped.
-/

set_option autoImplicit false

namespace Dissect.Http2

def preface : Bytes := Bytes.ofString "PRI * HTTP/2.0\r\n\r\nSM\r\n\r\n"

/-- Why frames cannot be split off. -/
inductive BufferError where
  | preamble
  | overlong (length max : Nat)
  deriving Repr, DecidableEq

def BufferError.message : BufferError → String
  | .preamble => "Invalid HTTP/2 preamble"
  | .overlong l m => s!"Received overlong frame: length {l}, max {m}"

/-- The buffered octets of one direction. -/
structure FrameBuffer where
  data : Bytes := []
  awaitingPreface : Bool := false
  maxFrameSize : Nat
  deriving Repr, DecidableEq

namespace FrameBuffer

def forServer (maxFrameSize : Nat) : FrameBuffer := { maxFrameSize }

def forClient (maxFrameSize : Nat) : FrameBuffer := { maxFrameSize, awaitingPreface := true }

def push (b : FrameBuffer) (data : Bytes) : FrameBuffer := { b with data := b.data ++ data }

def setMaxFrameSize (b : FrameBuffer) (size : Nat) : FrameBuffer :=
  { b with maxFrameSize := Config.clampFrameSize size }

def pending (b : FrameBuffer) : Nat := b.data.length

/-- Consume the preface if it is still awaited: an error if the octets so far disagree with it,
none if they agree but it is not complete. -/
def takePreface (b : FrameBuffer) : Except BufferError (Option FrameBuffer) :=
  if !b.awaitingPreface then .ok (some b) else
  let seen := min b.data.length preface.length
  if b.data.take seen != preface.take seen then .error .preamble
  else if seen < preface.length then .ok none
  else .ok (some { b with data := b.data.drop preface.length, awaitingPreface := false })

/-- Split the next whole frame off the front: its header and payload, none when more octets are
needed. -/
def next (b : FrameBuffer) : FrameBuffer × Except BufferError (Option (FrameHeader × Bytes)) :=
  match b.takePreface with
  | .error e => ({ b with data := [] }, .error e)
  | .ok none => (b, .ok none)
  | .ok (some b) =>
    match FrameHeader.decode? b.data with
    | none => (b, .ok none)
    | some h =>
      if h.length > b.maxFrameSize then
        ({ b with data := [] }, .error (.overlong h.length b.maxFrameSize))
      else
        let (frame, rest) := b.data.splitAt (headerSize + h.length)
        if frame.length < headerSize + h.length then (b, .ok none)
        else ({ b with data := rest }, .ok (some (h, frame.drop headerSize)))

end FrameBuffer

end Dissect.Http2
