import Dissect.Bytes.Basic

/-!
# Record headers

Conversations reach the worker, and results leave it, as records on one channel: a ten-octet
header and a payload of the length the header gives.
-/

set_option autoImplicit false

namespace Dissect.Record

/-- The ten octets in front of every record. -/
structure Header where
  kind : UInt8
  flags : UInt8
  sequence : UInt32
  payloadLength : UInt32
  deriving Repr, DecidableEq

def conversationKind : UInt8 := 1

def resultKind : UInt8 := 2

def unchangedFlag : UInt8 := 1

def failedFlag : UInt8 := 2

def reservedMask : UInt8 := 0xFC

def headerSize : Nat := 10

def defaultMaxPayload : UInt32 := 268435456

/-- Why the channel refuses a record. -/
inductive Fault where
  | unknownKind (kind : UInt8)
  | oversized (size limit : UInt32)
  | reservedFlags
  | unexpectedKind (kind : UInt8)
  | unfit (size : Nat)
  deriving Repr, DecidableEq

/-- The text of a refusal. -/
def Fault.message : Fault → String
  | .unknownKind k => s!"Unknown record kind {k}"
  | .oversized size limit => s!"Payload size {size} exceeds maximum {limit}"
  | .reservedFlags => "Reserved flag bits must be 0"
  | .unexpectedKind k => s!"expected conversation record, got kind {k}"
  | .unfit size => s!"Payload of {size} bytes does not fit a record header"

namespace Header

def encode (h : Header) : Bytes :=
  [h.kind, h.flags] ++ Bytes.ofBeNat 4 h.sequence.toNat ++ Bytes.ofBeNat 4 h.payloadLength.toNat

/-- The header at the front of an octet string, if ten octets are there. -/
def decode? : Bytes → Option Header
  | k :: f :: s0 :: s1 :: s2 :: s3 :: l0 :: l1 :: l2 :: l3 :: _ =>
    some ⟨k, f, (Bytes.beNat [s0, s1, s2, s3]).toUInt32, (Bytes.beNat [l0, l1, l2, l3]).toUInt32⟩
  | _ => none

def isConversation (h : Header) : Bool := h.kind == conversationKind

def isResult (h : Header) : Bool := h.kind == resultKind

def isUnchanged (h : Header) : Bool := h.flags &&& unchangedFlag != 0

def isFailed (h : Header) : Bool := h.flags &&& failedFlag != 0

/-- A header the channel accepts under a payload limit, or the first rule it breaks. -/
def validate (limit : UInt32) (h : Header) : Except Fault Unit :=
  if !(h.kind == conversationKind || h.kind == resultKind) then .error (.unknownKind h.kind)
  else if h.payloadLength > limit then .error (.oversized h.payloadLength limit)
  else if h.flags &&& reservedMask != 0 then .error .reservedFlags
  else .ok ()

theorem decode?_length (bs : Bytes) (h : Header) (hd : decode? bs = some h) :
    headerSize ≤ bs.length := by
  unfold decode? at hd
  split at hd
  · simp [headerSize]
  · simp at hd

@[simp] theorem length_encode (h : Header) : h.encode.length = headerSize := by
  simp [encode, headerSize]

end Header

end Dissect.Record
