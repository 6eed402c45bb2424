import Dissect.Http1.Layer
import Dissect.Http2.FrameBuffer
import Dissect.Hpack.Decoder
import Dissect.Text.Base64
import Dissect.Conversation.Sides
/-!
# Dissecting HTTP/2 conversations

HTTP/2 sits on HTTP/1: a conversation is read as HTTP/1 until the client sends the connection
preface, or until an `Upgrade: h2c` exchange; from then on each direction is a stream of frames,
and every frame becomes one chunk of its own, ending in a line feed.
-/

set_option autoImplicit false

namespace Dissect.Http2

abbrev HeaderList := List (String × String)

def findHeader (hs : HeaderList) (name : String) : Option String :=
  (hs.find? (·.1 == name)).map (·.2)

/-- The names of the settings every HTTP/2 peer knows. -/
def baseSettingName : Nat → Option String
  | 1 => some "HEADER_TABLE_SIZE"
  | 2 => some "ENABLE_PUSH"
  | 3 => some "MAX_CONCURRENT_STREAMS"
  | 4 => some "INITIAL_WINDOW_SIZE"
  | 5 => some "MAX_FRAME_SIZE"
  | 6 => some "MAX_HEADER_LIST_SIZE"
  | _ => none

/-- What a protocol on top of HTTP/2 adds, over its own state `σ`. Each hook may decline. -/
structure Extension (σ : Type) where
  settingName : Nat → Option String
  rawChunk : Chunk → Dissecting σ (Option (List Chunk))
  request : Chunk → Http1.Request → Dissecting σ (Option (List Chunk))
  response : Chunk → Http1.Response → Dissecting σ (Option (List Chunk))
  headers : Direction → Frame → HeaderList → Dissecting σ Unit
  frame : Direction → Frame → Dissecting σ (Option Bytes)

/-- Nothing on top of HTTP/2. -/
def Extension.plain : Extension Unit where
  settingName := baseSettingName
  rawChunk _ := pure none
  request _ _ := pure none
  response _ _ := pure none
  headers _ _ _ := pure ()
  frame _ _ := pure none

/-- The HTTP/2 state of a conversation, with the state `ext` of the protocol on top. -/
structure Session (σ : Type) where
  ext : σ
  active : Bool := false
  buffers : Option (Sides FrameBuffer) := none
  tables : Sides Hpack.DynamicTable := Sides.both {}
  openBlock : Sides Bool := Sides.both false
  maxFrameSize : Nat
  maxInflated : Nat

namespace Session

variable {σ : Type}

def lift {α : Type} (m : Dissecting σ α) : Dissecting (Session σ) α :=
  m.within (·.ext) fun s e => { s with ext := e }

/-- Make the frame buffers if there are none yet. -/
def ensureBuffers : Dissecting (Session σ) Unit := modify fun s =>
  match s.buffers with
  | some _ => s
  | none => { s with buffers := some ⟨FrameBuffer.forClient s.maxFrameSize,
      FrameBuffer.forServer s.maxFrameSize⟩ }

/-- A peer's largest frame size bounds what the other side may send. -/
def applySettings (d : Direction) (f : Frame) : Dissecting (Session σ) Unit := modify fun s =>
  if f.has ack then s else
  match f.setting? maxFrameSizeSetting, s.buffers with
  | some size, some bufs =>
    { s with buffers := some (bufs.modify d.opposite (·.setMaxFrameSize size)) }
  | _, _ => s

/-- Decode a header block with the direction's table. -/
def decodeBlock (d : Direction) (block : Bytes) : Dissecting (Session σ) (List Hpack.Field) := do
  let s ← get
  let (table, r) := (s.tables.get d).decode block
  set { s with tables := s.tables.set d table }
  match r with
  | .ok fields => pure fields
  | .error e => throw (.hpack e.message)

def fieldLines (hs : HeaderList) : String :=
  String.join (hs.map fun (n, v) => n ++ ": " ++ v ++ "\n")

/-- A HEADERS, PUSH_PROMISE or CONTINUATION frame: its summary, then its decoded fields. -/
def renderHeaders (x : Extension σ) (d : Direction) (f : Frame) : Dissecting (Session σ) Bytes := do
  let s ← get
  let complete := f.has endHeaders
  if s.openBlock.get d || !complete then
    set { s with openBlock := s.openBlock.set d !complete }
    throw (.frame s!"fragmented header blocks are not supported ({f.display})")
  let fields ← decodeBlock d (f.headerBlock?.getD [])
  let headers := fields.map fun (n, v) => (Utf8.lossy n, Utf8.lossy v)
  lift (x.headers d f headers)
  pure (Bytes.ofString (f.display ++ "\n" ++ fieldLines headers))

/-- A SETTINGS frame: its type, stream and flags, then one line per entry. -/
def settingsText (x : Extension σ) (f : Frame) (values : List (Nat × Nat)) : String :=
  let flags := ", ".intercalate f.flagNames
  s!"{f.typeName}(stream_id={f.streamId}, flags=[{flags}]):\n" ++
    String.join (values.map fun (id, v) =>
      let name := (x.settingName id).getD (toString id)
      s!"{name}: {v}\n")

/-- The rendering of a frame, before the final line feed. -/
def renderFrame (x : Extension σ) (d : Direction) (f : Frame) : Dissecting (Session σ) Bytes := do
  if let some out ← lift (x.frame d f) then return out
  match f.body with
  | .headers _ _ | .pushPromise _ _ | .continuation _ => renderHeaders x d f
  | .data _ => pure f.renderData
  | .settings values => pure (Bytes.ofString (settingsText x f values))
  | _ => pure (Bytes.ofString (f.display ++ "\n"))

/-- The chunk of one frame of a direction, or a diagnostic for it. -/
def frameChunk (x : Extension σ) (d : Direction) (h : FrameHeader) (payload : Bytes) :
    Dissecting (Session σ) Chunk :=
  Dissecting.recovering (do
      let f ← match Frame.parse h payload with
        | .ok f => pure f
        | .error e => throw (.frame e.message)
      applySettings d f
      let content ← renderFrame x d f
      pure ⟨d, content ++ [10]⟩)
    fun e => Chunk.text d s!"Unable to parse HTTP2 frame: {e.message}"

/-- Render the whole frames buffered for a direction, after the chunks `acc` (latest first)
already rendered; every frame takes at least one octet, so `fuel` at least the number of
buffered octets suffices. -/
def drain (x : Extension σ) (d : Direction) : Nat → List Chunk → Dissecting (Session σ) (List Chunk)
  | 0, acc => pure acc.reverse
  | fuel + 1, acc => do
    let s ← get
    let some bufs := s.buffers | pure acc.reverse
    let (b, r) := (bufs.get d).next
    set { s with buffers := some (bufs.set d b) }
    match r with
    | .ok none => pure acc.reverse
    | .error e =>
      let c := Chunk.text d s!"Unable to parse HTTP2 {Http1.messageWord d}: {e.message}"
      pure (c :: acc).reverse
    | .ok (some (h, payload)) =>
      let c ← frameChunk x d h payload
      drain x d fuel (c :: acc)

/-- Feed octets of a direction and render every whole frame; without frame buffers the octets
are one chunk as they are. -/
def feed (x : Extension σ) (d : Direction) (data : Bytes) : Dissecting (Session σ) (List Chunk) := do
  let s ← get
  match s.buffers with
  | none => pure [⟨d, data⟩]
  | some bufs =>
    let b := (bufs.get d).push data
    set { s with buffers := some (bufs.set d b) }
    drain x d (b.pending + 1) []

def dropPadding (s : String) : String :=
  String.ofList ((s.toList.reverse.dropWhile (· == '=')).reverse)

/-- The SETTINGS frame an upgrade request's `HTTP2-Settings` header stands for, as a chunk. -/
def upgradeSettings (x : Extension σ) (encoded : String) : Dissecting (Session σ) Chunk := do
  let payload ← match Base64.decodeUrlSafe (Bytes.ofString (dropPadding (Text.trim encoded))) with
    | .ok p => pure p
    | .error e => throw (.frame s!"Invalid HTTP2-Settings header: {e.message}")
  let f ← match Frame.parse ⟨payload.length, settingsKind, 0, 0⟩ payload with
    | .ok f => pure f
    | .error e => throw (.frame e.message)
  applySettings .client f
  let content ← renderFrame x .client f
  pure ⟨.client, content ++ [10]⟩

def isUpgrade (h : Http1.Headers) : Bool :=
  h.hasToken "connection" "upgrade" && h.valueIs "upgrade" "h2c"

end Session

open Session in
/-- The HTTP/1 hooks of the HTTP/2 layer. -/
def Extension.hooks {σ : Type} (x : Extension σ) : Http1.Hooks (Session σ) where
  rawChunk c := do
    if let some out ← lift (x.rawChunk c) then return some out
    if (← get).active then return some (← feed x c.direction c.content)
    if c.direction == .client && preface.isPrefixOf c.content then
      ensureBuffers
      modify fun s => { s with active := true }
      return some (← feed x c.direction c.content)
    return none
  request c r := do
    if let some out ← lift (x.request c r) then return out
    if isUpgrade r.headers then
      ensureBuffers
      match r.headers.get? "http2-settings" with
      | some settings => return [c, ← upgradeSettings x settings]
      | none => return [c]
    return [c]
  response c r := do
    if let some out ← lift (x.response c r) then return out
    if isUpgrade r.headers then
      if (← get).buffers.isNone then throw (.http "HTTP/2 upgrade request not found")
      modify fun s => { s with active := true }
      let head : Chunk := ⟨c.direction, r.head ++ Http1.blankLine⟩
      return head :: (← feed x c.direction r.body)
    return [Http1.Response.renderChunk c.direction r (← get).maxInflated]

/-- Dissect a conversation with HTTP/1, HTTP/2 and the protocol on top, putting the client first
when the capture starts with the server. -/
def Extension.dissect {σ : Type} (x : Extension σ) (start : σ) (maxFrameSize maxInflated : Nat)
    (chunks : List Chunk) : Except Issue (List Chunk) :=
  Dissecting.evaluate (x.hooks.dissect (clientFirst chunks)) { ext := start, maxFrameSize, maxInflated }

end Dissect.Http2
