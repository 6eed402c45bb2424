import Dissect.Http1.Message
import Dissect.Deflate.Container
/-!
# Response bodies

A response body is shown as the application sent it: the chunked transfer coding is removed
first, then the content codings are undone from the last applied to the first. Decoding is best
effort: a malformed chunked body stays as captured, an unknown content coding stops decoding
where it stands, and a coding that fails, or that would expand past the size limit, leaves the
body as it was after removing the chunked coding.
-/

set_option autoImplicit false

namespace Dissect.Http1

open Dissect.Text Dissect.Deflate

def chunkSize (line : Bytes) : Option Nat := do
  let text ← (Utf8.decode line).toOption
  readUnsigned 16 (Nat.pow 2 64) (trim (String.ofList ((text.toList.splitOn ';').headD [])))

/-- Remove the chunked transfer coding; trailer fields after the last chunk are dropped. -/
def dechunk (data : Bytes) : Option Bytes :=
  match Bytes.find? [13, 10] data with
  | none => none
  | some lineEnd =>
    match chunkSize (data.take lineEnd) with
    | none => none
    | some 0 => some []
    | some size =>
      let rest := data.drop (lineEnd + 2)
      let piece := rest.take size
      if piece.length < size then none
      else match _h : rest.drop size with
        | 13 :: 10 :: more => (dechunk more).map (piece ++ ·)
        | _ => none
termination_by data.length
decreasing_by
  have := congrArg List.length _h
  simp only [rest, List.length_drop, List.length_cons] at this
  omega

/-- A content coding that can be undone. -/
inductive Coding where
  | identity
  | gzip
  | deflate
  deriving Repr, DecidableEq

/-- The coding a (trimmed, lowercase) name stands for. -/
def Coding.ofName? : String → Option Coding
  | "identity" => some .identity
  | "gzip" => some .gzip
  | "x-gzip" => some .gzip
  | "deflate" => some .deflate
  | _ => none

/-- Undo a coding, producing at most `limit` octets. `deflate` is meant to be zlib-wrapped, but
raw DEFLATE is accepted too. -/
def Coding.decode (limit : Nat) (data : Bytes) : Coding → Option Bytes
  | .identity => some data
  | .gzip => ((inflateGzip limit data.toByteArray).within limit).map (·.toList)
  | .deflate =>
    let input := data.toByteArray
    match (inflateZlib limit input).within limit with
    | some out => some out.toList
    | none => ((inflateRaw limit input).within limit).map (·.toList)

def codingNames (value : String) : List String :=
  ((value.toList.splitOn ',').map fun c => toLowerAscii (trim (String.ofList c))).filter (!·.isEmpty)

/-- Undo codings, last applied first: none if one fails; an unknown one stops the decoding. -/
def undoCodings (limit : Nat) : List String → Bytes → Option Bytes
  | [], data => some data
  | name :: rest, data =>
    match Coding.ofName? name with
    | none => some data
    | some c => (c.decode limit data).bind (undoCodings limit rest)

/-- The body of a response as its application sent it. -/
def Headers.decodeBody (h : Headers) (body : Bytes) (limit : Nat) : Bytes :=
  let plain := if h.hasToken "transfer-encoding" "chunked" then (dechunk body).getD body else body
  match h.get? "content-encoding" with
  | none => plain
  | some value => (undoCodings limit (codingNames value).reverse plain).getD plain

def Response.render (r : Response) (limit : Nat) : Bytes :=
  r.head ++ blankLine ++ r.headers.decodeBody r.body limit

end Dissect.Http1
