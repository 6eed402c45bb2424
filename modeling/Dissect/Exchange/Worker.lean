import Dissect.Record.Buffer
import Dissect.Conversation.Codec

/-!
# The exchange channel

A worker answers each conversation record of its channel with a result record of the same
sequence number, in order. A conversation that cannot be read or dissected is answered
`unchanged` with flag bit 1; only a broken channel ends the run.
-/

set_option autoImplicit false

namespace Dissect.Exchange

open Record

/-- A result written back to the channel. -/
structure Answer where
  sequence : UInt32
  failed : Bool
  conversion : Conversion
  deriving Repr, DecidableEq

namespace Answer

def flags (a : Answer) : UInt8 :=
  (if a.conversion.isUnchanged then unchangedFlag else 0) ||| (if a.failed then failedFlag else 0)

def payload (a : Answer) : Bytes := a.conversion.encode

def fits (a : Answer) : Bool := a.payload.length < UInt32.size

def record (a : Answer) : Record :=
  ⟨⟨resultKind, a.flags, a.sequence, a.payload.length.toUInt32⟩, a.payload⟩

def encode (a : Answer) : Bytes := a.record.encode

end Answer

/-- Why a run ended before its input did. -/
inductive Failure where
  | refused (f : Fault)
  | connectionClosed
  deriving Repr, DecidableEq

def Failure.message : Failure → String
  | .refused f => "Protocol error: " ++ f.message
  | .connectionClosed => "Connection closed"

/-- The answer to one conversation record: the dissector's answer, or a failed unchanged answer
when the payload is not a conversation or the dissector gives up. -/
def answer {ε : Type} (transform : List Chunk → Except ε (List Chunk)) (r : Record) : Answer :=
  match Conversation.decode r.payload with
  | .error _ => ⟨r.header.sequence, true, .unchanged⟩
  | .ok c =>
    match transform c.chunks with
    | .error _ => ⟨r.header.sequence, true, .unchanged⟩
    | .ok out => ⟨r.header.sequence, false, Conversion.ofOutput c.chunks out⟩

/-- The octets a reader hands over, in reads of at most `size` octets. -/
def reads (size : Nat) (bs : Bytes) : List Bytes :=
  if size = 0 ∨ bs = [] then (if bs = [] then [] else [bs])
  else bs.take size :: reads size (bs.drop size)
termination_by bs.length
decreasing_by
  simp only [List.length_drop]
  have : bs.length ≠ 0 := by simp_all
  omega

def readSize : Nat := 65536

/-- What a run wrote, and how it ended: the number of answers, or the failure that stopped it. -/
structure Run where
  answers : List Answer
  outcome : Except Failure Nat
  deriving Repr

/-- Answer the records of one read in order, stopping at one that is not a conversation or whose
answer does not fit a record. -/
def answerAll {ε : Type} (transform : List Chunk → Except ε (List Chunk)) :
    List Record → List Answer × Option Failure
  | [] => ([], none)
  | r :: rest =>
    if r.header.kind ≠ conversationKind then ([], some (.refused (.unexpectedKind r.header.kind)))
    else
      let a := answer transform r
      if !a.fits then ([], some (.refused (.unfit a.payload.length)))
      else
        let (more, failure) := answerAll transform rest
        (a :: more, failure)

/-- Serve the reads in order with the records they complete. -/
def serve {ε : Type} (transform : List Chunk → Except ε (List Chunk)) :
    Buffer → List Bytes → List Answer × Except Failure Unit
  | buf, [] => ([], if buf.isEmpty then .ok () else .error .connectionClosed)
  | buf, data :: more =>
    let (buf, records) := buf.push data
    match records with
    | .error f => ([], .error (.refused f))
    | .ok records =>
      match answerAll transform records with
      | (done, some failure) => (done, .error failure)
      | (done, none) =>
        let (later, outcome) := serve transform buf more
        (done ++ later, outcome)

/-- Serve a whole input under a payload limit. -/
def run {ε : Type} (transform : List Chunk → Except ε (List Chunk)) (limit : UInt32)
    (input : Bytes) : Run :=
  let (answers, outcome) := serve transform (Buffer.empty limit) (reads readSize input)
  ⟨answers, outcome.map fun () => answers.length⟩

def Run.output (r : Run) : Bytes := r.answers.flatMap Answer.encode

end Dissect.Exchange
