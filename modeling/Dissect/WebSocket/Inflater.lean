import Dissect.Deflate.Container
import Dissect.Bytes.Basic
/-!
# Inflating compressed WebSocket messages

With permessage-deflate, each direction of a WebSocket connection keeps one raw DEFLATE stream
across messages: a message's payload is the next piece of that stream, without the four octets
`00 00 FF FF` that end it, which are put back before inflating. A message that ends the stream
with a final block starts a fresh one for the next message. So does a message that fails: one
whose data is malformed, or whose output passes the size limit.
-/

set_option autoImplicit false

namespace Dissect.WebSocket

open Dissect.Deflate

def messageTail : Bytes := [0x00, 0x00, 0xFF, 0xFF]

/-- Why a message cannot be inflated. -/
inductive InflateError where
  | malformed
  | oversize (limit : Nat)
  deriving Repr, DecidableEq

def InflateError.message : InflateError → String
  | .malformed => "Unable to inflate websocket message: deflate decompression error"
  | .oversize n => s!"Inflated websocket message exceeds {n} bytes"

def grow (len cap : Nat) : Nat :=
  if cap - len < 1024 then max (2 * cap) (len + max cap 4096) else cap

/-! ## The loop over a decompressor -/

/-- How a call of the decompressor ended. -/
inductive Status where
  | ok
  | bufError
  | streamEnd
  deriving Repr, DecidableEq

/-- What one call of the decompressor reports: how it ended, the octets of input it read and what
it wrote into the room left in the buffer. -/
structure Call where
  status : Status
  read : Nat
  written : Bytes
  deriving Repr

/-- A raw DEFLATE decompressor with state `σ`: a call on the unread input and the room left in
the buffer (`none` when the data is malformed), and a reset to a fresh stream. -/
structure Decompressor (σ : Type) where
  decompress : σ → Bytes → Nat → σ × Option Call
  reset : σ → σ

/-- The loop of one message between two calls. -/
structure Pass (σ : Type) where
  state : σ
  consumed : Nat
  out : Bytes
  cap : Nat

inductive Turn (σ : Type) where
  | done (state : σ) (result : Except InflateError Bytes)
  | next (pass : Pass σ)

namespace Pass

variable {σ : Type} (dec : Decompressor σ) (limit : Nat) (input : Bytes)

/-- One iteration: make at least 1 KiB of room, call the decompressor, and stop on malformed data,
on output past the limit, at the stream's end, on a call that wanted more room, once the input is
used up, or when nothing moved; the last two only while the buffer is not full. -/
def turn (p : Pass σ) : Turn σ :=
  let cap := grow p.out.length p.cap
  match dec.decompress p.state (input.drop p.consumed) (cap - p.out.length) with
  | (st, none) => .done (dec.reset st) (.error .malformed)
  | (st, some c) =>
    let consumed := p.consumed + c.read
    let out := p.out ++ c.written
    if limit < out.length then .done (dec.reset st) (.error (.oversize limit)) else
    match c.status with
    | .streamEnd => .done (dec.reset st) (.ok out)
    | .bufError => .done st (.ok out)
    | .ok =>
      if input.length ≤ consumed ∧ out.length ≠ cap then .done st (.ok out)
      else if c.read = 0 ∧ c.written = [] ∧ out.length ≠ cap then .done st (.ok out)
      else .next ⟨st, consumed, out, cap⟩

def run : Nat → Pass σ → Option (σ × Except InflateError Bytes)
  | 0, _ => none
  | fuel + 1, p =>
    match p.turn dec limit input with
    | .done st r => some (st, r)
    | .next p => run fuel p

/-- What is left to consume and to produce before the limit: every iteration that goes on
lowers it. -/
def measure (p : Pass σ) : Nat := (input.length - p.consumed) + (limit + 1 - p.out.length)

end Pass

/-! ## The DEFLATE decoder as the decompressor -/

/-- The compression context of one direction. -/
structure Inflater where
  windowBits : Nat
  maxOutput : Nat
  machine : Machine := Machine.start ByteArray.empty
  produced : Nat := 0

/-- The sizes of the whole window loads before output position `pos`, the first load ending at
the window's edge after `offset`. -/
def loadsBefore (offset pos : Nat) : List Nat :=
  let first := windowSize - offset % windowSize
  if pos ≤ first then [] else
  first :: (List.range ((pos - first - 1) / windowSize)).map fun _ => windowSize

/-- Whole window loads go out until the room is used up or a load is left over: the octets that
went out, those of the load left over, and the loads after it; none when the loads run out. -/
def takeLoads (taken space : Nat) : List Nat → Option (Nat × Nat × List Nat)
  | [] => none
  | s :: rest =>
    let n := min s space
    if space - n = 0 ∨ s - n ≠ 0 then some (taken + n, s - n, rest)
    else takeLoads (taken + n) (space - n) rest

/-- What the decoder holds of the current message. -/
inductive Held where
  | none
  | output (rest : Bytes) (final : Bool)
  | fault (rest : Bytes) (pending : Nat) (loads : List Nat)

namespace Held

/-- One call's handing out into `spare` octets of room. -/
def handOut (spare : Nat) : Held → Held × Option (Status × Bytes)
  | .none => (.none, some (.bufError, []))
  | .output rest final =>
    let status := if final ∧ rest.length ≤ spare then Status.streamEnd else .ok
    (.output (rest.drop spare) final, some (status, rest.take spare))
  | .fault rest pending loads =>
    if 0 < pending then
      let n := min pending spare
      (.fault (rest.drop n) (pending - n) loads, some (.ok, rest.take n))
    else
      match takeLoads 0 spare loads with
      | .none => (.fault rest 0 loads, .none)
      | some (n, pending, loads) => (.fault (rest.drop n) pending loads, some (.ok, rest.take n))

end Held

/-- The decompressor within one message: the context kept across messages, and what it holds of
the message. -/
structure Inner where
  context : Inflater
  held : Held

namespace Inflater

def fresh (windowBits maxOutput : Nat) : Inflater := { windowBits, maxOutput }

def reset (i : Inflater) : Inflater := fresh i.windowBits i.maxOutput

def fed (i : Inflater) (input : Bytes) : Machine :=
  { i.machine with bits := i.machine.bits.feed input.toByteArray }

/-- Run the decoder over a message's input, up to a bound on its output far past the limit: the
held output and the context after it, and the octets read. A stream that goes on keeps the last
window of its output; one found malformed reads nothing. -/
def begin (i : Inflater) (input : Bytes) : Inner × Nat :=
  let m := i.fed input
  let base := m.out.size
  let bound := base + 2 * i.maxOutput + (input.length * 4 + 64) + 131072
  let (m, stop) := m.run bound
  let out := (m.out.extract base m.out.size).toList
  match stop with
  | .finished => (⟨i, .output out true⟩, input.length)
  | .overflow => (⟨i, .output out false⟩, input.length)
  | .starved =>
    let window := m.out.extract (m.out.size - windowSize) m.out.size
    (⟨{ i with machine := { m with out := window }, produced := i.produced + out.length },
      .output out false⟩, input.length)
  | .failed _ => (⟨i, .fault out 0 (loadsBefore i.produced out.length)⟩, 0)

end Inflater

namespace Inner

/-- The first call of a message runs the decoder over its input; the octets it read. -/
def started (st : Inner) (input : Bytes) : Inner × Nat :=
  match st.held with
  | .none => st.context.begin input
  | _ => (st, 0)

/-- A call hands out what the room allows. -/
def decompress (st : Inner) (input : Bytes) (spare : Nat) : Inner × Option Call :=
  let (st, read) := st.started input
  let (held, r) := st.held.handOut spare
  (⟨st.context, held⟩, r.map fun c => ⟨c.1, read, c.2⟩)

def decompressor : Decompressor Inner where
  decompress := decompress
  reset st := ⟨st.context.reset, .none⟩

end Inner

def Pass.start (i : Inflater) (input : Bytes) : Pass Inner :=
  ⟨⟨i, .none⟩, 0, [], input.length * 4 + 64⟩

namespace Inflater

/-- Inflate one message payload. The loop ends before its measure runs out
(`Pass.run_ends_within_limit`), so the fuel never does. -/
def inflate (i : Inflater) (payload : Bytes) : Inflater × Except InflateError Bytes :=
  let input := payload ++ messageTail
  match (Pass.start i input).run Inner.decompressor i.maxOutput input
      (input.length + i.maxOutput + 2) with
  | some (st, r) => (st.context, r)
  | none => (i.reset, .error .malformed)

end Inflater

end Dissect.WebSocket
