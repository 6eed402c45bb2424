import Dissect.Http2.Layer
import Dissect.Grpc.Message
import Dissect.Protobuf.Dump
/-!
# Dissecting gRPC conversations

gRPC runs over HTTP/2. Header blocks tell which streams carry gRPC and how each side compresses;
a non-empty DATA frame of a gRPC stream is shown as its summary line, the message's compressed
flag and length, and the message taken apart as protobuf. A message that cannot be shown gives
its error line followed by the usual DATA rendering.
-/

set_option autoImplicit false

namespace Dissect.Grpc

open Dissect.Http2

/-- What the header blocks of one stream said, per direction. -/
structure Stream where
  confirmed : Sides Bool := Sides.both false
  encoding : Sides Encoding := Sides.both .identity

/-- The gRPC state of a conversation. -/
structure State where
  streams : List (Nat × Stream) := []
  latched : Sides Bool := Sides.both false
  maxInflated : Nat

namespace State

def stream (s : State) (id : Nat) : Stream := (s.streams.lookup id).getD {}

def isGrpc (s : State) (d : Direction) (id : Nat) : Bool :=
  s.latched.get d || ((s.streams.lookup id).map (·.confirmed.get d)).getD false

def encodingOf (s : State) (d : Direction) (id : Nat) : Encoding := ((s.stream id).encoding.get d)

def setStream (s : State) (id : Nat) (st : Stream) : State :=
  { s with streams := (id, st) :: s.streams.filter (·.1 != id) }

end State

/-- The settings gRPC peers add. -/
def settingName (id : Nat) : Option String :=
  if id = 0xfe03 then some "GRPC_ALLOW_TRUE_BINARY_METADATA"
  else if id = 0xfe04 then some "GRPC_PREFERRED_RECEIVE_CRYPTO_FRAME_SIZE"
  else baseSettingName id

def trimEnd (s : String) : String :=
  String.ofList ((s.toList.reverse.dropWhile Text.isBlank).reverse)

/-- Show one message of a DATA frame. -/
def renderMessage (s : State) (d : Direction) (f : Frame) (payload : Bytes) :
    Except Issue String := do
  let m ← (Message.parse payload).mapError fun e => .grpc e.message
  let data ← if m.compressed != 0 then
      ((s.encodingOf d f.streamId).decode s.maxInflated m.data).mapError fun e => .grpc e.message
    else pure m.data
  let fields ← if data.isEmpty then pure "" else
    (Protobuf.inspect data).mapError fun e => .inspect e.message
  pure s!"{f.display}\nGRPC-Compressed: {m.compressed.toNat}\nGRPC-Message-Length: {m.length}\n{trimEnd fields}\n"

/-- gRPC on top of HTTP/2. -/
def extension : Http2.Extension State where
  settingName := settingName
  rawChunk _ := pure none
  request _ _ := pure none
  response _ _ := pure none
  headers d f hs := do
    let contentType := findHeader hs "content-type"
    let encoding := findHeader hs "grpc-encoding"
    if contentType.isNone && encoding.isNone then return
    let s ← get
    let st := s.stream f.streamId
    let (st, latched) := match contentType with
      | some ct =>
        let ok := isGrpcContentType ct
        ({ st with confirmed := st.confirmed.set d ok }, if ok then s.latched.set d true else s.latched)
      | none => (st, s.latched)
    let st := match encoding with
      | some e => { st with encoding := st.encoding.set d (Encoding.parse e) }
      | none => st
    set { s.setStream f.streamId st with latched }
  frame d f := do
    let .data payload := f.body | return none
    let s ← get
    if payload.isEmpty || !s.isGrpc d f.streamId then return none
    match renderMessage s d f payload with
    | .ok text => return some (Bytes.ofString text)
    | .error e => return some (Bytes.ofString (e.message ++ "\n") ++ f.renderData)

end Dissect.Grpc
