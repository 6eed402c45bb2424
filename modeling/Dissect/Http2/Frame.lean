import Dissect.Bytes.Basic
/-!
# HTTP/2 frames

A frame is a nine-octet header (a 24-bit payload length, a type, flags, and a 31-bit stream
identifier whose top bit is reserved) followed by its payload. Reading a frame checks the layout
that its type prescribes and strips padding and priority fields; writing a frame never pads.
-/

set_option autoImplicit false

namespace Dissect.Http2

def headerSize : Nat := 9

/-- A frame header. -/
structure FrameHeader where
  length : Nat
  kind : UInt8
  flags : UInt8
  streamId : Nat
  deriving Repr, DecidableEq

/-- Read a frame header from the first nine octets; the reserved bit of the stream is dropped. -/
def FrameHeader.decode? : Bytes → Option FrameHeader
  | l0 :: l1 :: l2 :: kind :: flags :: s0 :: s1 :: s2 :: s3 :: _ =>
    some ⟨Bytes.beNat [l0, l1, l2], kind, flags, Bytes.beNat [s0, s1, s2, s3] % Nat.pow 2 31⟩
  | _ => none

def dataKind : UInt8 := 0x0
def headersKind : UInt8 := 0x1
def priorityKind : UInt8 := 0x2
def rstStreamKind : UInt8 := 0x3
def settingsKind : UInt8 := 0x4
def pushPromiseKind : UInt8 := 0x5
def pingKind : UInt8 := 0x6
def goAwayKind : UInt8 := 0x7
def windowUpdateKind : UInt8 := 0x8
def continuationKind : UInt8 := 0x9

def endStream : UInt8 := 0x01
def ack : UInt8 := 0x01
def endHeaders : UInt8 := 0x04
def padded : UInt8 := 0x08
def priorityFlag : UInt8 := 0x20

def maxFrameSizeSetting : Nat := 5

/-- A stream dependency. -/
structure Priority where
  exclusive : Bool
  dependsOn : Nat
  weight : UInt8
  deriving Repr, DecidableEq

def Priority.read (bs : Bytes) : Priority :=
  let raw := Bytes.beNat (bs.take 4)
  ⟨raw ≥ Nat.pow 2 31, raw % Nat.pow 2 31, bs.getD 4 0⟩

def Priority.encode (p : Priority) : Bytes :=
  Bytes.ofBeNat 4 (p.dependsOn % Nat.pow 2 31 + if p.exclusive then Nat.pow 2 31 else 0) ++ [p.weight]

/-- The contents of a frame, by type. -/
inductive Body where
  | data (payload : Bytes)
  | headers (block : Bytes) (priority : Option Priority)
  | priority (p : Priority)
  | rstStream (errorCode : Nat)
  | settings (values : List (Nat × Nat))
  | pushPromise (promisedStreamId : Nat) (block : Bytes)
  | ping (octets : Bytes)
  | goAway (lastStreamId errorCode : Nat) (debugData : Bytes)
  | windowUpdate (increment : Nat)
  | continuation (block : Bytes)
  | extension (kind : UInt8) (payload : Bytes)
  deriving Repr, DecidableEq

/-- A frame. -/
structure Frame where
  flags : UInt8
  streamId : Nat
  body : Body
  deriving Repr, DecidableEq

/-- Why a payload does not fit its frame type. -/
inductive Layout where
  | missingPadLength
  | paddingTooLong
  | priorityTruncated
  | needsStream
  | needsConnection
  | wrongLength (expected got : Nat)
  | settingsLength
  | settingsAck
  | promisedTruncated
  | goAwayShort
  deriving Repr, DecidableEq

/-- The reason a layout error gives. -/
def Layout.reason : Layout → String
  | .missingPadLength => "missing pad length"
  | .paddingTooLong => "padding is too long"
  | .priorityTruncated => "priority fields truncated"
  | .needsStream => "must be associated with a stream"
  | .needsConnection => "must not be associated with a stream"
  | .wrongLength e g => s!"body must be {e} bytes, got {g}"
  | .settingsLength => "length must be a multiple of 6"
  | .settingsAck => "ACK must have an empty body"
  | .promisedTruncated => "promised stream id truncated"
  | .goAwayShort => "body shorter than 8 bytes"

/-- A payload that does not fit its frame type. -/
structure FrameError where
  kind : UInt8
  layout : Layout
  deriving Repr, DecidableEq

def hexNumber (n : Nat) : String := "0x" ++ String.ofList ((Nat.toDigits 16 n))

def FrameError.message (e : FrameError) : String :=
  s!"Invalid frame of type {hexNumber e.kind.toNat}: {e.layout.reason}"

def hasFlag (flags bit : UInt8) : Bool := flags &&& bit != 0

/-- Remove padding from a payload when the frame is flagged `PADDED`. -/
def stripPadding (flags : UInt8) (payload : Bytes) : Except Layout Bytes :=
  if !hasFlag flags padded then .ok payload else
  match payload with
  | [] => .error .missingPadLength
  | pad :: rest =>
    if pad.toNat ≥ payload.length then .error .paddingTooLong
    else .ok (rest.take (rest.length - pad.toNat))

/-- The entries of a SETTINGS payload, six octets each: a 16-bit identifier and a 32-bit value. -/
def settingsEntries (payload : Bytes) : List (Nat × Nat) :=
  (List.range (payload.length / 6)).map fun i =>
    let e := (payload.drop (6 * i)).take 6
    (Bytes.beNat (e.take 2), Bytes.beNat (e.drop 2))

def settingsPayload (values : List (Nat × Nat)) : Bytes :=
  values.flatMap fun (id, v) => Bytes.ofBeNat 2 id ++ Bytes.ofBeNat 4 v

/-- The layout of each frame type. -/
def parseBody (kind flags : UInt8) (streamId : Nat) (payload : Bytes) : Except Layout Body :=
  let needStream : Except Layout Unit := if streamId = 0 then .error .needsStream else .ok ()
  let needConnection : Except Layout Unit :=
    if streamId ≠ 0 then .error .needsConnection else .ok ()
  let needLength (n : Nat) : Except Layout Unit :=
    if payload.length ≠ n then .error (.wrongLength n payload.length) else .ok ()
  match kind with
  | 0x0 => do needStream; pure (.data (← stripPadding flags payload))
  | 0x1 => do
    needStream
    let block ← stripPadding flags payload
    if hasFlag flags priorityFlag then
      if block.length < 5 then throw .priorityTruncated
      pure (.headers (block.drop 5) (some (Priority.read block)))
    else pure (.headers block none)
  | 0x2 => do needStream; needLength 5; pure (.priority (Priority.read payload))
  | 0x3 => do needStream; needLength 4; pure (.rstStream (Bytes.beNat payload))
  | 0x4 => do
    needConnection
    if payload.length % 6 ≠ 0 then throw .settingsLength
    if hasFlag flags ack && !payload.isEmpty then throw .settingsAck
    pure (.settings (settingsEntries payload))
  | 0x5 => do
    needStream
    let block ← stripPadding flags payload
    if block.length < 4 then throw .promisedTruncated
    pure (.pushPromise (Bytes.beNat (block.take 4) % Nat.pow 2 31) (block.drop 4))
  | 0x6 => do needConnection; needLength 8; pure (.ping payload)
  | 0x7 => do
    needConnection
    if payload.length < 8 then throw .goAwayShort
    pure (.goAway (Bytes.beNat (payload.take 4) % Nat.pow 2 31) (Bytes.beNat ((payload.drop 4).take 4))
      (payload.drop 8))
  | 0x8 => do needLength 4; pure (.windowUpdate (Bytes.beNat payload % Nat.pow 2 31))
  | 0x9 => do needStream; pure (.continuation payload)
  | other => pure (.extension other payload)

/-- Read a frame from its header and payload; the header's length field is not consulted. -/
def Frame.parse (h : FrameHeader) (payload : Bytes) : Except FrameError Frame :=
  match parseBody h.kind h.flags h.streamId payload with
  | .ok body => .ok ⟨h.flags, h.streamId, body⟩
  | .error l => .error ⟨h.kind, l⟩

namespace Frame

/-- The type octet. -/
def kind (f : Frame) : UInt8 :=
  match f.body with
  | .data _ => dataKind
  | .headers _ _ => headersKind
  | .priority _ => priorityKind
  | .rstStream _ => rstStreamKind
  | .settings _ => settingsKind
  | .pushPromise _ _ => pushPromiseKind
  | .ping _ => pingKind
  | .goAway _ _ _ => goAwayKind
  | .windowUpdate _ => windowUpdateKind
  | .continuation _ => continuationKind
  | .extension k _ => k

/-- The name of the frame's type. -/
def typeName (f : Frame) : String :=
  match f.body with
  | .data _ => "DataFrame"
  | .headers _ _ => "HeadersFrame"
  | .priority _ => "PriorityFrame"
  | .rstStream _ => "RstStreamFrame"
  | .settings _ => "SettingsFrame"
  | .pushPromise _ _ => "PushPromiseFrame"
  | .ping _ => "PingFrame"
  | .goAway _ _ _ => "GoAwayFrame"
  | .windowUpdate _ => "WindowUpdateFrame"
  | .continuation _ => "ContinuationFrame"
  | .extension _ _ => "ExtensionFrame"

def has (f : Frame) (bit : UInt8) : Bool := hasFlag f.flags bit

/-- The flags that the frame's type defines, with their names. -/
def definedFlags (f : Frame) : List (UInt8 × String) :=
  match f.body with
  | .data _ => [(endStream, "END_STREAM"), (padded, "PADDED")]
  | .headers _ _ => [(endStream, "END_STREAM"), (endHeaders, "END_HEADERS"), (padded, "PADDED"),
      (priorityFlag, "PRIORITY")]
  | .settings _ | .ping _ => [(ack, "ACK")]
  | .pushPromise _ _ => [(endHeaders, "END_HEADERS"), (padded, "PADDED")]
  | .continuation _ => [(endHeaders, "END_HEADERS")]
  | _ => []

def flagNames (f : Frame) : List String :=
  (f.definedFlags.filter fun (bit, _) => f.has bit).map (·.2)

/-- The header block of a HEADERS, PUSH_PROMISE or CONTINUATION frame. -/
def headerBlock? (f : Frame) : Option Bytes :=
  match f.body with
  | .headers b _ | .pushPromise _ b | .continuation b => some b
  | _ => none

def isHeaderClass (f : Frame) : Bool := f.headerBlock?.isSome

/-- The payload of a DATA frame, without padding. -/
def data? (f : Frame) : Option Bytes :=
  match f.body with
  | .data d => some d
  | _ => none

/-- The value of a SETTINGS entry; of several, the last. -/
def setting? (f : Frame) (id : Nat) : Option Nat :=
  match f.body with
  | .settings values => (values.reverse.find? (·.1 == id)).map (·.2)
  | _ => none

/-- The flags a frame is written with: `PADDED` is cleared, and a HEADERS frame has `PRIORITY`
exactly when it carries a priority. -/
def wireFlags (f : Frame) : UInt8 :=
  let flags0 := f.flags &&& ~~~padded
  match f.body with
  | .headers _ none => flags0 &&& ~~~priorityFlag
  | .headers _ (some _) => flags0 ||| priorityFlag
  | _ => flags0

/-- The payload a frame is written with, without padding. -/
def wirePayload (f : Frame) : Bytes :=
  match f.body with
  | .data d | .continuation d => d
  | .headers block none => block
  | .headers block (some p) => p.encode ++ block
  | .priority p => p.encode
  | .rstStream code => Bytes.ofBeNat 4 code
  | .settings values => settingsPayload values
  | .pushPromise promised block => Bytes.ofBeNat 4 promised ++ block
  | .ping octets => octets
  | .goAway last code debug => Bytes.ofBeNat 4 last ++ Bytes.ofBeNat 4 code ++ debug
  | .windowUpdate inc => Bytes.ofBeNat 4 inc
  | .extension _ raw => raw

def encode (f : Frame) : Bytes :=
  Bytes.ofBeNat 3 f.wirePayload.length ++ [f.kind, f.wireFlags] ++
    Bytes.ofBeNat 4 (f.streamId % Nat.pow 2 31) ++ f.wirePayload

end Frame

def hexPreview (bs : Bytes) : String :=
  Bytes.hex (bs.take 10) ++ if bs.length > 10 then "..." else ""

def boolText (b : Bool) : String := if b then "true" else "false"

def Priority.describe (p : Priority) : String :=
  s!"exclusive={boolText p.exclusive}, depends_on={p.dependsOn}, stream_weight={p.weight.toNat}"

/-- The one-line summary of a frame. -/
def Frame.display (f : Frame) : String :=
  let opening := match f.body with
    | .extension k _ => s!"{f.typeName}(type={k.toNat}, "
    | _ => s!"{f.typeName}("
  let flags := ", ".intercalate f.flagNames
  let contents := match f.body with
    | .data d | .continuation d | .extension _ d => s!"<hex:{hexPreview d}>"
    | .headers block p =>
      (match p with
        | some p => p.describe ++ ", "
        | none => "") ++ s!"data=<hex:{hexPreview block}>"
    | .priority p => p.describe
    | .rstStream code => s!"error_code={code}"
    | .settings values =>
      "settings=\x7b" ++ ", ".intercalate (values.map fun (id, v) => s!"{id}: {v}") ++ "\x7d"
    | .pushPromise promised block => s!"promised_stream_id={promised}, data=<hex:{hexPreview block}>"
    | .ping octets => s!"opaque_data=<hex:{hexPreview octets}>"
    | .goAway last code debug =>
      s!"last_stream_id={last}, error_code={code}, additional_data=<hex:{hexPreview debug}>"
    | .windowUpdate inc => s!"window_increment={inc}"
  opening ++ s!"stream_id={f.streamId}, flags=[{flags}]): " ++ contents

def Frame.renderData (f : Frame) : Bytes :=
  Bytes.ofString (f.display ++ "\n") ++ (f.data?.getD []) ++ [10]

end Dissect.Http2
