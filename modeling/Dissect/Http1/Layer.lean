import Dissect.Http1.Body
import Dissect.Dissection.Issue
/-!
# Dissecting HTTP/1 conversations

Each chunk of a conversation is one message: a request from the client, a response from the
server. What is made of a message is up to a set of hooks, so that the protocols that start as
HTTP/1 and switch to something else can take over; the plain hooks echo requests and show
responses with their bodies decoded.
-/

set_option autoImplicit false

namespace Dissect.Http1

/-- What a protocol on top of HTTP/1 does with each chunk, over its own state `σ`. -/
structure Hooks (σ : Type) where
  rawChunk : Chunk → Dissecting σ (Option (List Chunk))
  request : Chunk → Request → Dissecting σ (List Chunk)
  response : Chunk → Response → Dissecting σ (List Chunk)

def Response.renderChunk (d : Direction) (r : Response) (limit : Nat) : Chunk :=
  ⟨d, r.render limit⟩

/-- Hooks that echo requests and decode response bodies up to `limit` octets. -/
def plainHooks (limit : Nat) : Hooks Unit where
  rawChunk _ := pure none
  request c _ := pure [c]
  response c r := pure [Response.renderChunk c.direction r limit]

def messageWord : Direction → String
  | .client => "request"
  | .server => "response"

variable {σ : Type}

/-- Answer one chunk without recovering from issues. -/
def Hooks.answer (h : Hooks σ) (c : Chunk) : Dissecting σ (List Chunk) := do
  if let some out ← h.rawChunk c then return out
  match c.direction with
  | .client =>
    match Request.parse c.content with
    | .ok r => h.request c r
    | .error e => throw (.http e.message)
  | .server =>
    match Response.parse c.content with
    | .ok r => h.response c r
    | .error e => throw (.http e.message)

def Hooks.chunk (h : Hooks σ) (c : Chunk) : Dissecting σ (List Chunk) :=
  (h.answer c).recovering fun e =>
    [Chunk.text c.direction s!"Unable to parse HTTP {messageWord c.direction}: {e.message}"]

def Hooks.dissect (h : Hooks σ) (chunks : List Chunk) : Dissecting σ (List Chunk) := do
  let outs ← chunks.mapM h.chunk
  pure outs.flatten

end Dissect.Http1
