import Dissect.Http1.Headers
import Dissect.Bytes.Basic
import Dissect.Text.Utf8
import Dissect.Text.Numeral
/-!
# HTTP/1 messages

A chunk of a conversation holds one whole request or response. The start line is read strictly,
the header fields leniently (`Headers.parse`).
-/

set_option autoImplicit false

namespace Dissect.Http1

open Dissect.Text

/-- Why a message cannot be read. -/
inductive MessageError where
  | requestVersion (version : String)
  | simpleRequestMethod (method : String)
  | requestSyntax (line : String)
  | requestMethod (method : String)
  | tooManyHeaders
  | unterminatedHead
  | statusLine (line : String)
  deriving Repr, DecidableEq

def previewLength : Nat := 80

/-- The text of a message error. -/
def MessageError.message : MessageError → String
  | .requestVersion v => s!"400 Bad request version ('{preview previewLength v}')"
  | .simpleRequestMethod m => s!"400 Bad HTTP/0.9 request type ('{preview previewLength m}')"
  | .requestSyntax l => s!"400 Bad request syntax ('{preview previewLength l}')"
  | .requestMethod m => s!"400 Bad request method ('{preview previewLength m}')"
  | .tooManyHeaders => s!"got more than {maxHeaders} headers"
  | .unterminatedHead => "missing end of response headers"
  | .statusLine l => s!"invalid status line '{preview previewLength l}'"

/-- A request as read from a chunk. -/
structure Request where
  method : String
  path : String
  version : String
  headers : Headers
  body : Bytes
  deriving Repr, DecidableEq

/-- A response as read from a chunk. -/
structure Response where
  version : String
  status : Nat
  reason : String
  headers : Headers
  head : Bytes
  body : Bytes
  deriving Repr, DecidableEq

def blankLine : Bytes := [13, 10, 13, 10]

/-- Split a request chunk into head and body at its first blank line. -/
def splitHead (data : Bytes) : Bytes × Bytes :=
  match Bytes.find? blankLine data with
  | some i => (data.take i, data.drop (i + 4))
  | none =>
    match Bytes.find? [10, 10] data with
    | some i => (data.take i, data.drop (i + 2))
    | none => (data, [])

/-- The lines of a head: its text, cut at line feeds, each without a final carriage return. -/
def headLines (head : Bytes) : List String :=
  ((Utf8.lossy head).toList.splitOn '\n').map fun l =>
    let l := String.ofList l
    if l.endsWith "\r" then l.dropEnd 1 |>.toString else l

/-- Whether a word is `HTTP/` followed by two runs of digits joined by a dot. -/
def isVersion (v : String) : Bool :=
  if v.startsWith "HTTP/" then
    match (v.drop 5).toString.toList.splitOn '.' with
    | [major, minor] =>
      !major.isEmpty && !minor.isEmpty && major.all Char.isDigit && minor.all Char.isDigit
    | _ => false
  else false

def tokenMarks : List Char := "!#$%&'*+-.^_`|~".toList

def isToken (s : String) : Bool :=
  !s.isEmpty && s.toList.all fun c => (c.isAlphanum && c.toNat < 128) || tokenMarks.contains c

/-- Read a request chunk. -/
def Request.parse (data : Bytes) : Except MessageError Request := do
  let (head, body) := splitHead data
  let lines := headLines head
  let line := lines.headD ""
  let (method, path, version) ← match words line with
    | [method, path, version] =>
      if isVersion version then pure (method, path, version)
      else throw (.requestVersion version)
    | [method, path] =>
      if method == "GET" then pure (method, path, "HTTP/0.9")
      else throw (.simpleRequestMethod method)
    | _ => throw (.requestSyntax line)
  unless isToken method do throw (.requestMethod method)
  let some headers := Headers.parse lines.tail | throw .tooManyHeaders
  pure ⟨method, path, version, headers, body⟩

/-- Cut a status line at its first two single spaces. -/
def statusParts (line : String) : List String :=
  match (line.toList.splitOn ' ').map String.ofList with
  | a :: b :: c :: rest => [a, b, " ".intercalate (c :: rest)]
  | parts => parts

/-- Read a response chunk. -/
def Response.parse (data : Bytes) : Except MessageError Response := do
  let some split := Bytes.find? blankLine data | throw .unterminatedHead
  let head := data.take split
  let body := data.drop (split + 4)
  let lines := headLines head
  let line := lines.headD ""
  let parts := statusParts line
  let version := parts.headD ""
  let some status := (parts[1]?).bind (readUnsigned 10 65536 ∘ trim) | throw (.statusLine line)
  unless version.startsWith "HTTP/" do throw (.statusLine line)
  let reason := parts[2]?.getD ""
  let some headers := Headers.parse lines.tail | throw .tooManyHeaders
  pure ⟨version, status, reason, headers, head, body⟩

end Dissect.Http1
