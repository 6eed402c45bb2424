import Dissect.Bytes.Basic
/-!
# WebSocket frames

A frame is a two-octet header (FIN, three reserved bits, an opcode; a mask bit and a 7-bit
length), an extended length of two or eight octets when the 7-bit length is 126 or 127, a
four-octet masking key when the mask bit is set, and the payload.
-/

set_option autoImplicit false

namespace Dissect.WebSocket

def continuationOpcode : Nat := 0

/-- A frame: its header without the masking key, and its unmasked payload. -/
structure Frame where
  header : Bytes
  payload : Bytes
  deriving Repr, DecidableEq

namespace Frame

def first (f : Frame) : Nat := (f.header.headD 0).toNat

def fin (f : Frame) : Bool := f.first &&& 0x80 != 0

def rsv1 (f : Frame) : Bool := f.first &&& 0x40 != 0

def opcode (f : Frame) : Nat := f.first &&& 0x0F

def isControl (f : Frame) : Bool := f.opcode &&& 0x08 != 0

def isMasked (f : Frame) : Bool := ((f.header.getD 1 0).toNat &&& 0x80) != 0

/-- Change the first header octet. -/
def mapFirst (f : Frame) (g : UInt8 → UInt8) : Frame :=
  { f with header := match f.header with
    | b :: rest => g b :: rest
    | [] => [] }

def setFin (f : Frame) : Frame := f.mapFirst (· ||| 0x80)

def clearRsv1 (f : Frame) : Frame := f.mapFirst (· &&& 0xBF)

def render (f : Frame) : Bytes := f.header ++ f.payload

end Frame

def applyMask (key : Bytes) (payload : Bytes) : Bytes := Bytes.xorCycle key payload

/-- A frame cut short: the octets it needs and the octets there are. -/
structure Truncated where
  need : Nat
  available : Nat
  deriving Repr, DecidableEq

def Truncated.message (t : Truncated) : String :=
  s!"Truncated websocket frame: need {t.need} bytes, have {t.available}"

def countLimit : Nat := Nat.pow 2 64 - 1

/-- The length of the header at the front of `data` and the payload length it declares, once the
header is whole. -/
def frameHeader (data : Bytes) : Except Truncated (Nat × Nat) := do
  -- the longest header is ten octets, so `n` is the length of `data` whenever it is below ten
  let n := (data.take 10).length
  if n < 2 then throw ⟨2, n⟩
  let lenField := (data.getD 1 0).toNat &&& 0x7F
  if lenField = 126 then
    if n < 4 then throw ⟨4, n⟩ else pure (4, Bytes.beNat ((data.drop 2).take 2))
  else if lenField = 127 then
    if n < 10 then throw ⟨10, n⟩ else pure (10, Bytes.beNat ((data.drop 2).take 8))
  else pure (2, lenField)

/-- Cut the frame at the front of `data` whose header takes `headerLen` octets and declares a
payload of `payloadLen` octets: the frame and the octets it took. -/
def cutFrameAt (data : Bytes) (headerLen payloadLen : Nat) : Except Truncated (Frame × Nat) := do
  let masked := (data.getD 1 0).toNat &&& 0x80 != 0
  let keyLen := if masked then 4 else 0
  let frame := data.take (headerLen + keyLen + payloadLen)
  if frame.length < headerLen + keyLen + payloadLen then
    throw ⟨min countLimit (headerLen + min countLimit (keyLen + payloadLen)), data.length⟩
  let start := headerLen + keyLen
  let header := frame.take headerLen
  let payload := frame.drop start
  if masked then
    let key := (data.drop headerLen).take 4
    let header := match header with
      | a :: b :: rest => a :: (b &&& 0x7F) :: rest
      | h => h
    pure (⟨header, applyMask key payload⟩, start + payloadLen)
  else pure (⟨header, payload⟩, start + payloadLen)

def parseFrame (data : Bytes) : Except Truncated (Frame × Nat) := do
  let (headerLen, payloadLen) ← frameHeader data
  cutFrameAt data headerLen payloadLen

end Dissect.WebSocket
