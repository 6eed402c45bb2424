import Dissect.WebSocket.Layer
import Dissect.Grpc.Layer
import Dissect.Config
/-!
# Dissectors

A dissector turns one conversation into its re-rendered chunks. Each kind stacks protocol layers
over HTTP/1; all state lives for one conversation only. Recoverable issues are already shown in
the chunks; a fatal issue is the dissector's answer instead.
-/

set_option autoImplicit false

namespace Dissect

/-- The kinds of dissector. -/
inductive Dissector where
  | http
  | http2
  | webSocket
  | grpc
  deriving Repr, DecidableEq

/-- The dissector a name stands for. -/
def Dissector.ofName? : String → Option Dissector
  | "http" => some .http
  | "http2" => some .http2
  | "websocket" => some .webSocket
  | "grpc" => some .grpc
  | _ => none

/-- Dissect a conversation's chunks. -/
def Dissector.transform (d : Dissector) (config : Config) (chunks : List Chunk) :
    Except Issue (List Chunk) :=
  let c := config.normalize
  match d with
  | .http => ((Http1.plainHooks c.maxInflatedSize).dissect chunks).evaluate ()
  | .webSocket =>
    let start : WebSocket.State :=
      { maxPending := c.maxPendingFragments, maxInflated := c.maxInflatedSize }
    WebSocket.extension.dissect start c.maxFrameSize c.maxInflatedSize chunks
  | .grpc =>
    Grpc.extension.dissect { maxInflated := c.maxInflatedSize } c.maxFrameSize c.maxInflatedSize chunks
  | .http2 => Http2.Extension.plain.dissect () c.maxFrameSize c.maxInflatedSize chunks

end Dissect
