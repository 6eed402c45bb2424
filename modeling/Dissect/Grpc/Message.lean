import Dissect.Deflate.Container
import Dissect.Text.Blank
import Dissect.Bytes.Basic
/-!
# gRPC messages

A gRPC message travels in DATA frames behind a five-octet prefix: a compressed flag and the
big-endian length of the message. The `content-type` of a stream says whether it carries gRPC
(`application/grpc`, or a `+` subtype, parameters ignored); `grpc-encoding` names the compression
of flagged messages.
-/

set_option autoImplicit false

namespace Dissect.Grpc

open Dissect.Text Dissect.Deflate

def prefixSize : Nat := 5

def isGrpcContentType (value : String) : Bool :=
  let media := toLowerAscii (trim (String.ofList ((value.toList.splitOn ';').headD [])))
  media == "application/grpc" || media.startsWith "application/grpc+"

/-- The compression of flagged messages. -/
inductive Encoding where
  | identity
  | deflate
  | gzip
  | other (name : String)
  deriving Repr, DecidableEq, Inhabited

/-- The encoding a `grpc-encoding` value names, trimmed and in lowercase. -/
def Encoding.parse (value : String) : Encoding :=
  match toLowerAscii (trim value) with
  | "identity" => .identity
  | "deflate" => .deflate
  | "gzip" => .gzip
  | name => .other name

/-- Why a message cannot be shown. -/
inductive MessageError where
  | short
  | lengthMismatch
  | overlong
  | unsupported (name : String)
  | oversize (limit : Nat)
  deriving Repr, DecidableEq

/-- The text of a message error. -/
def MessageError.message : MessageError → String
  | .short => "Data length is less than 5 bytes"
  | .lengthMismatch => "Message length does not match the length of the message data"
  | .overlong => "Message data is longer than the message length"
  | .unsupported name => s!"Compressed grpc data is not supported (grpc-encoding: {name})"
  | .oversize limit => s!"Decompressed grpc message exceeds {limit} bytes"

/-- A message taken from a DATA payload. -/
structure Message where
  compressed : UInt8
  length : Nat
  data : Bytes
  deriving Repr, DecidableEq

/-- Take the one message a DATA payload must hold. -/
def Message.parse (payload : Bytes) : Except MessageError Message :=
  match payload with
  | flag :: l0 :: l1 :: l2 :: l3 :: data =>
    let length := Bytes.beNat [l0, l1, l2, l3]
    if data.length < length then .error .lengthMismatch
    else if data.length > length then .error .overlong
    else .ok ⟨flag, length, data⟩
  | _ => .error .short

/-- The outcome of bounded decompression: the output, or the data as it came when the
decompressor found it corrupt, or an error when the output passes the limit. -/
def bounded (limit : Nat) (data : Bytes) (r : Inflated) : Except MessageError Bytes :=
  match r with
  | .complete out _ => if out.size > limit then .error (.oversize limit) else .ok out.toList
  | r => if r.noticed limit then .ok data else .error (.oversize limit)

/-- Undo the encoding of a flagged message, producing at most `limit` octets. -/
def Encoding.decode (e : Encoding) (limit : Nat) (data : Bytes) : Except MessageError Bytes :=
  match e with
  | .identity => .ok data
  | .deflate => bounded limit data (inflateZlib limit data.toByteArray)
  | .gzip => bounded limit data (inflateGzipMember limit data.toByteArray)
  | .other name => .error (.unsupported name)

end Dissect.Grpc
