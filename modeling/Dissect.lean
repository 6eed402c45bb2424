import Dissect.Bytes.Basic
import Dissect.Text.Utf8
import Dissect.Text.Blank
import Dissect.Record.Header
import Dissect.Record.Buffer
import Dissect.Config
import Dissect.Conversation.Basic
import Dissect.Decimal.Shortest
import Dissect.Text.Invisible
import Dissect.Text.Extend
import Dissect.Text.Quoted
import Dissect.MsgPack.Write
import Dissect.MsgPack.Read
import Dissect.Conversation.Codec
import Dissect.Exchange.Worker
import Dissect.Huffman.Canonical
import Dissect.Deflate.Inflate
import Dissect.Deflate.Checksum
import Dissect.Deflate.Container
import Dissect.Text.Numeral
import Dissect.Http1.Headers
import Dissect.Http1.Message
import Dissect.Http1.Body
import Dissect.Http2.Frame
import Dissect.Http2.FrameBuffer
import Dissect.Hpack.Huffman
import Dissect.Hpack.Table
import Dissect.Hpack.Decoder
import Dissect.Dissection.Issue
import Dissect.Http1.Layer
import Dissect.Dissection.Dissector
import Dissect.Text.Base64
import Dissect.Digest.Sha1
import Dissect.Conversation.Sides
import Dissect.Http2.Layer
import Dissect.WebSocket.Frame
import Dissect.WebSocket.Extensions
import Dissect.WebSocket.Inflater
import Dissect.WebSocket.Layer
import Dissect.Protobuf.Dump
import Dissect.Grpc.Message
import Dissect.Grpc.Layer
import Dissect.Main
import Dissect.Proofs.Bytes.BigEndian
import Dissect.Proofs.Record.Framing
import Dissect.Proofs.Record.Reads
import Dissect.Proofs.MsgPack.ReadBack
import Dissect.Proofs.Text.Utf8
import Dissect.Proofs.Conversation.RoundTrip
import Dissect.Proofs.Conversation.LengthFields
import Dissect.Proofs.Http1.Plain
import Dissect.Proofs.Exchange.Serving
import Dissect.Proofs.Dissection.Containment
import Dissect.Proofs.Http2.FrameSplit
import Dissect.Proofs.Dissection.Relational
import Dissect.Proofs.Http2.Lanes
import Dissect.Proofs.Grpc.Lanes
import Dissect.Proofs.Dissection.Directions
import Dissect.Proofs.Http2.HeaderBlocks
import Dissect.Proofs.Dissection.Simulation
import Dissect.Proofs.Dissection.Conservative
import Dissect.Proofs.Http2.Layering
import Dissect.Proofs.Http2.FrameCodec
import Dissect.Proofs.WebSocket.Fragments
import Dissect.Proofs.WebSocket.Framing
import Dissect.Proofs.Deflate.Reading
import Dissect.Proofs.Deflate.Steps
import Dissect.Proofs.Deflate.Stored
import Dissect.Proofs.WebSocket.InflateBounds
import Dissect.Proofs.WebSocket.ContextTakeover
import Dissect.Proofs.Grpc.Detection
import Dissect.Proofs.Grpc.Messages
import Dissect.Proofs.Http1.ChunkForChunk
import Dissect.Proofs.Deflate.StoredStreams
import Dissect.Proofs.Http1.BodyDecoding
import Dissect.Proofs.Http1.ChunkedCoding
import Dissect.Proofs.Http2.History
import Dissect.Proofs.Http2.FrameBounds
import Dissect.Proofs.Http2.BlockHistory
import Dissect.Proofs.WebSocket.Registration
import Dissect.Proofs.Http2.FrameReassembly
import Dissect.Proofs.Protobuf.Varint
import Dissect.Proofs.Protobuf.Fields
import Dissect.Proofs.Text.Base64
import Dissect.Proofs.Http2.Upgrade
import Dissect.Proofs.WebSocket.Handshake
import Dissect.Proofs.WebSocket.Rendering
