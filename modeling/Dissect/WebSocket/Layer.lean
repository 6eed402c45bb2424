import Dissect.Http2.Layer
import Dissect.WebSocket.Frame
import Dissect.WebSocket.Extensions
import Dissect.WebSocket.Inflater
import Dissect.Digest.Sha1
/-!
# Dissecting WebSocket conversations

WebSocket runs over an upgraded HTTP/1 connection or over an HTTP/2 stream opened by an extended
CONNECT. Its frames are shown header then payload, unmasked; the fragments of a message are
joined under the first fragment's header with FIN set; compressed messages are inflated when
permessage-deflate was negotiated, and their compressed bit cleared.
-/

set_option autoImplicit false

namespace Dissect.WebSocket

open Dissect.Http2

def handshakeGuid : String := "258EAFA5-E914-47DA-95CA-C5AB0DC85B11"

/-- The `Sec-WebSocket-Accept` value for a client key: the Base64 of the SHA-1 of the key and the
GUID. -/
def acceptKey (key : String) : String :=
  Base64.encode (Sha1.digest (Bytes.ofString (key ++ handshakeGuid)))

def http1Stream : Nat := 0

def enableConnectProtocol : Nat := 8

/-- The state of one WebSocket stream. -/
structure Stream where
  deflate : Option (Sides Inflater)
  fragments : Sides (List Frame) := Sides.both []
  negotiated : Bool := false

/-- The inflaters that the extensions call for. -/
def inflatersFor (extensions : List Extension) (maxInflated : Nat) : Option (Sides Inflater) :=
  (findDeflate extensions).map fun ext =>
    ⟨Inflater.fresh (ext.windowBits "client_max_window_bits") maxInflated,
      Inflater.fresh (ext.windowBits "server_max_window_bits") maxInflated⟩

/-- Inflate a whole message when it is compressed and permessage-deflate was negotiated, and
clear its compressed bit. -/
def Stream.inflate (d : Direction) (f : Frame) : Dissecting Stream Frame := do
  if !f.rsv1 then return f
  let s ← get
  match s.deflate with
  | none => return f
  | some inflaters =>
    let (inflater, r) := (inflaters.get d).inflate f.payload
    set { s with deflate := some (inflaters.set d inflater) }
    match r with
    | .ok payload => return Frame.clearRsv1 { f with payload }
    | .error e => throw (.webSocket e.message)

/-- Join a message's fragments, then inflate it; none while the message is unfinished. -/
def Stream.process (d : Direction) (f : Frame) (maxPending : Nat) :
    Dissecting Stream (Option Frame) := do
  if f.isControl then return some f
  let s ← get
  let pending := s.fragments.get d
  let clear : Dissecting Stream Unit :=
    modify fun s => { s with fragments := s.fragments.set d [] }
  let continuation := f.opcode == continuationOpcode
  if !f.fin then
    if continuation == pending.isEmpty then
      clear
      throw .invalidFragmentation
    let pending := pending ++ [f]
    set { s with fragments := s.fragments.set d pending }
    if pending.length ≥ maxPending then
      clear
      throw (.tooManyFragments pending.length)
    return none
  let f ← if !pending.isEmpty then do
      clear
      if !continuation then throw .invalidFragmentation
      let parts := pending ++ [f]
      pure (Frame.setFin ⟨(parts.headD f).header, parts.flatMap (·.payload)⟩)
    else if continuation then throw .invalidFragmentation
    else pure f
  some <$> Stream.inflate d f

/-- The frames of a piece of a stream, rendered, and what was left at its end. -/
structure Rendered where
  content : Bytes
  truncated : Option (Truncated × Bytes)

def Rendered.note (r : Rendered) : Option Bytes :=
  r.truncated.map fun (t, rest) => Bytes.ofString (t.message ++ "\n") ++ rest

/-- Render the frames of `data` on a stream after the frames `shown` (latest first) rendered
already; every frame takes at least two octets, so `fuel` at least the number of octets
suffices. -/
def Stream.renderFrames (d : Direction) (maxPending : Nat) :
    Nat → List Bytes → Bytes → Dissecting Stream Rendered
  | 0, shown, _ => pure ⟨shown.reverse.flatten, none⟩
  | fuel + 1, shown, rest =>
    if rest.isEmpty then pure ⟨shown.reverse.flatten, none⟩ else
    match parseFrame rest with
    | .error t => pure ⟨shown.reverse.flatten, some (t, rest)⟩
    | .ok (f, used) => do
      let shown := match ← Stream.process d f maxPending with
        | some f => f.render :: shown
        | none => shown
      Stream.renderFrames d maxPending fuel shown (rest.drop used)

/-- The WebSocket state of a conversation. -/
structure State where
  key : Option String := none
  switched : Bool := false
  connectProtocol : Bool := false
  streams : List (Nat × Stream) := []
  maxPending : Nat
  maxInflated : Nat

namespace State

def stream? (s : State) (id : Nat) : Option Stream := s.streams.lookup id

def setStream (s : State) (id : Nat) (st : Stream) : State :=
  { s with streams := (id, st) :: s.streams.filter (·.1 != id) }

def newStream (s : State) (extensions : List Extension) : Stream :=
  { deflate := inflatersFor extensions s.maxInflated }

/-- Render the frames of `data` on a stream; octets of an unknown stream stay as they are. -/
def renderFrames (d : Direction) (id : Nat) (data : Bytes) : Dissecting State Rendered := do
  let s ← get
  match s.stream? id with
  | none => pure ⟨data, none⟩
  | some st =>
    (Stream.renderFrames d s.maxPending (data.length + 1) [] data).within
      (fun t => (t.stream? id).getD st) (fun t st => t.setStream id st)

def http1Frames (c : Chunk) (pre data : Bytes) : Dissecting State (List Chunk) := do
  let r ← renderFrames c.direction http1Stream data
  pure (⟨c.direction, pre ++ r.content⟩ :: (r.note.map fun n => [⟨c.direction, n⟩]).getD [])

end State

def isHandshake (h : Http1.Headers) : Bool :=
  h.hasToken "connection" "upgrade" && h.valueIs "upgrade" "websocket"

def extensionsOf (value : Option String) : List Extension :=
  (value.map parseExtensions).getD []

open State in
/-- WebSocket on top of HTTP/2. -/
def extension : Http2.Extension State where
  settingName id := if id = enableConnectProtocol then some "ENABLE_CONNECT_PROTOCOL"
    else baseSettingName id
  rawChunk c := do
    if !(← get).switched then return none
    Dissecting.recovering (some <$> http1Frames c [] c.content) fun e =>
      some [Chunk.text c.direction s!"Error while handling websocket frame: {e.message}"]
  request c r := do
    if !isHandshake r.headers then return none
    match r.headers.get? "sec-websocket-key" with
    | some key =>
      modify fun s => { s with key := some (Text.trim key) }
      return none
    | none => return some [Chunk.text c.direction "No websocket key found"]
  response c r := do
    if r.status != 101 || !isHandshake r.headers then return none
    let some key := (← get).key | throw (.webSocket "No websocket key found")
    let expected := acceptKey key
    let received := Text.trim ((r.headers.get? "sec-websocket-accept").getD "")
    if received != expected then throw (.handshakeMismatch received expected)
    let extensions := extensionsOf (r.headers.get? "sec-websocket-extensions")
    modify fun s =>
      { s.setStream http1Stream { s.newStream extensions with negotiated := true } with
        switched := true }
    return some (← http1Frames c (r.head ++ Http1.blankLine) r.body)
  headers d f hs := do
    match d with
    | .client =>
      let s ← get
      if !s.connectProtocol then return
      if findHeader hs ":protocol" != some "websocket" then return
      if !(findHeader hs ":scheme" == some "http" || findHeader hs ":scheme" == some "https") then
        return
      let extensions := extensionsOf (findHeader hs "sec-websocket-extensions")
      set (s.setStream f.streamId (s.newStream extensions))
    | .server =>
      let s ← get
      if let some st := s.stream? f.streamId then
        if !st.negotiated then
          let extensions := extensionsOf (findHeader hs "sec-websocket-extensions")
          set (s.setStream f.streamId
            { st with deflate := inflatersFor extensions s.maxInflated, negotiated := true })
  frame d f := do
    match f.body with
    | .settings _ =>
      if d == .server && (f.setting? enableConnectProtocol).getD 0 != 0 then
        modify fun s => { s with connectProtocol := true }
      return none
    | .data payload =>
      if f.streamId == http1Stream || ((← get).stream? f.streamId).isNone then return none
      let r ← renderFrames d f.streamId payload
      match r.note with
      | none => return some r.content
      | some n => return some ((if r.content.isEmpty then [] else r.content ++ [10]) ++ n)
    | _ => return none

end Dissect.WebSocket
