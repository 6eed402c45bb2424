import Dissect.Conversation.Basic
import Dissect.MsgPack.Write
import Dissect.MsgPack.Read

/-!
# Conversations as MessagePack

Record payloads carry conversations and answers in MessagePack. A conversation is written as a
map keyed by field names: `metadata` (the stream id, both hosts and ports, and the transport as
`"tcp"` or `"udp"`) and `chunks`, each chunk a map of its `direction` (0 or 1) and its `content`
(binary). An answer is the string `"Unchanged"` or the map `{"Chunks": [...]}`.
-/

set_option autoImplicit false

namespace Dissect

open MsgPack

def Chunk.encode (c : Chunk) : Bytes :=
  record [("direction", uint c.direction.code), ("content", bin c.content)]

/-- Where a conversation ran, as MessagePack. -/
def Metadata.encode (m : Metadata) : Bytes :=
  record [("stream_id", uint m.streamId.toNat), ("client_host", str m.clientHost),
    ("client_port", uint m.clientPort.toNat), ("server_host", str m.serverHost),
    ("server_port", uint m.serverPort.toNat), ("transport", str m.transport.name)]

def Conversation.encode (c : Conversation) : Bytes :=
  record [("metadata", c.metadata.encode), ("chunks", array (c.chunks.map Chunk.encode))]

def Conversion.encode : Conversion → Bytes
  | .unchanged => str "Unchanged"
  | .chunks cs => record [("Chunks", array (cs.map Chunk.encode))]

/-- A direction from its number on the wire. -/
def Direction.read (h : Head) : Reader Direction := do
  let n ← unsignedOf 255 "u8" h
  match Direction.ofCode? n with
  | some d => pure d
  | none => throw (.custom s!"invalid direction discriminator {n}")

def Transport.read : Reader Transport :=
  enumOf ["tcp", "udp"] fun i => .unit (if i = 0 then .tcp else .udp)

/-- The fields of a chunk being read. -/
structure ChunkFields where
  direction : Option Direction := none
  content : Option Bytes := none

def chunkNames : List String := ["direction", "content"]

def ChunkFields.has : Nat → ChunkFields → Bool
  | 0, f => f.direction.isSome
  | 1, f => f.content.isSome
  | _, _ => false

def ChunkFields.set : Nat → ChunkFields → Reader ChunkFields
  | 0, f => do pure { f with direction := some (← Direction.read (← readHead)) }
  | 1, f => do pure { f with content := some (← bytesOf (← readHead)) }
  | _, f => pure f

/-- A chunk, as a map or as an array of its fields. -/
def Chunk.read (h : Head) : Reader Chunk := do
  let f ← match h with
    | .map n => mapFields chunkNames 3 ChunkFields.has ChunkFields.set n {}
    | .array n => arrayFields "struct Chunk with 2 elements" 2 ChunkFields.set n {}
    | h => reject "struct Chunk" h
  let some d := f.direction | throw (.missingField "direction")
  let some c := f.content | throw (.missingField "content")
  pure ⟨d, c⟩

/-- The fields of conversation metadata being read. -/
structure MetadataFields where
  streamId : Option UInt64 := none
  clientHost : Option String := none
  clientPort : Option UInt16 := none
  serverHost : Option String := none
  serverPort : Option UInt16 := none
  transport : Option Transport := none

def metadataNames : List String :=
  ["stream_id", "client_host", "client_port", "server_host", "server_port", "transport"]

def MetadataFields.has : Nat → MetadataFields → Bool
  | 0, f => f.streamId.isSome
  | 1, f => f.clientHost.isSome
  | 2, f => f.clientPort.isSome
  | 3, f => f.serverHost.isSome
  | 4, f => f.serverPort.isSome
  | 5, f => f.transport.isSome
  | _, _ => false

def MetadataFields.set : Nat → MetadataFields → Reader MetadataFields
  | 0, f => do
    pure { f with streamId := some (← unsignedOf (Nat.pow 2 64 - 1) "u64" (← readHead)).toUInt64 }
  | 1, f => do pure { f with clientHost := some (← stringOf (← readHead)) }
  | 2, f => do
    pure { f with clientPort := some (← unsignedOf 65535 "u16" (← readHead)).toUInt16 }
  | 3, f => do pure { f with serverHost := some (← stringOf (← readHead)) }
  | 4, f => do
    pure { f with serverPort := some (← unsignedOf 65535 "u16" (← readHead)).toUInt16 }
  | 5, f => do pure { f with transport := some (← Transport.read) }
  | _, f => pure f

/-- Where a conversation ran, as a map or as an array of its fields. -/
def Metadata.read (h : Head) : Reader Metadata := do
  let f ← match h with
    | .map n => mapFields metadataNames 2 MetadataFields.has MetadataFields.set n {}
    | .array n => arrayFields "struct StreamMetadata with 6 elements" 6 MetadataFields.set n {}
    | h => reject "struct StreamMetadata" h
  let some streamId := f.streamId | throw (.missingField "stream_id")
  let some clientHost := f.clientHost | throw (.missingField "client_host")
  let some clientPort := f.clientPort | throw (.missingField "client_port")
  let some serverHost := f.serverHost | throw (.missingField "server_host")
  let some serverPort := f.serverPort | throw (.missingField "server_port")
  let some transport := f.transport | throw (.missingField "transport")
  pure ⟨streamId, clientHost, clientPort, serverHost, serverPort, transport⟩

/-- `n` chunks in order. -/
def Chunk.readMany : Nat → Reader (List Chunk)
  | 0 => pure []
  | n + 1 => do
    let c ← Chunk.read (← readHead)
    let rest ← Chunk.readMany n
    pure (c :: rest)

/-- The chunks of a conversation: an array. Binary stands for the sequence of its octets, none of
which is a chunk, so only empty binary is read, as no chunks. -/
def Chunk.readList : Head → Reader (List Chunk)
  | .array n => Chunk.readMany n
  | .bin [] => pure []
  | .bin (b :: _) => throw (.invalidType (.unsigned b.toNat) "struct Chunk")
  | h => reject "a sequence" h

/-- The fields of a conversation being read. -/
structure ConversationFields where
  metadata : Option Metadata := none
  chunks : Option (List Chunk) := none

def conversationNames : List String := ["metadata", "chunks"]

def ConversationFields.has : Nat → ConversationFields → Bool
  | 0, f => f.metadata.isSome
  | 1, f => f.chunks.isSome
  | _, _ => false

def ConversationFields.set : Nat → ConversationFields → Reader ConversationFields
  | 0, f => do pure { f with metadata := some (← Metadata.read (← readHead)) }
  | 1, f => do pure { f with chunks := some (← Chunk.readList (← readHead)) }
  | _, f => pure f

/-- A conversation, as a map or as an array of its fields. -/
def Conversation.read : Reader Conversation := do
  let f ← match ← readHead with
    | .map n => mapFields conversationNames 1 ConversationFields.has ConversationFields.set n {}
    | .array n => arrayFields "struct Stream with 2 elements" 2 ConversationFields.set n {}
    | h => reject "struct Stream" h
  let some metadata := f.metadata | throw (.missingField "metadata")
  let some chunks := f.chunks | throw (.missingField "chunks")
  pure ⟨metadata, chunks⟩

/-- An answer: `Unchanged` alone or as a map to nil, or a map from `Chunks` to its chunks. -/
def Conversion.read : Reader Conversion :=
  enumOf ["Unchanged", "Chunks"] fun i =>
    if i = 0 then .unit .unchanged
    else .newtype do pure (.chunks (← Chunk.readList (← readHead)))

/-- The answer at the front of a payload; whatever follows it is ignored. -/
def Conversion.decode (payload : Bytes) : Except DecodeError Conversion :=
  Conversion.read.run' payload

/-- The conversation at the front of a payload; whatever follows it is ignored. -/
def Conversation.decode (payload : Bytes) : Except DecodeError Conversation :=
  Conversation.read.run' payload

end Dissect
