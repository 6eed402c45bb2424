import Dissect.Proofs.MsgPack.ReadBack
import Dissect.Proofs.Text.Utf8
import Dissect.Conversation.Codec

/-!
# Reading back written conversations and answers

A conversation or an answer written as MessagePack is read back as itself, as long as every
length inside it fits the 32-bit field it is written in.
-/

set_option autoImplicit false

namespace Dissect

open MsgPack

@[simp] theorem Direction.read_unsigned_code (d : Direction) :
    Direction.read (.unsigned d.code) = pure d := by
  cases d <;> rfl

theorem Chunk.run_read_encode (c : Chunk) (rest : Bytes) (h : c.content.length < 2 ^ 32) :
    (do Chunk.read (← readHead)).run (c.encode ++ rest) = .ok (c, rest) := by
  have hdir : chunkNames.findIdx? (fun x => Bytes.ofString x == Bytes.ofString "direction") =
      some 0 := by simp only [Bytes.ofString_beq]; decide
  have hcon : chunkNames.findIdx? (fun x => Bytes.ofString x == Bytes.ofString "content") =
      some 1 := by simp only [Bytes.ofString_beq]; decide
  have hcode : c.direction.code < 2 ^ 64 := by cases c.direction <;> decide
  have henc : c.encode ++ rest = mapHead 2 ++ (str "direction" ++ (uint c.direction.code ++
      (str "content" ++ (bin c.content ++ rest)))) := by
    simp [Chunk.encode, record]
  rw [henc, StateT.run_bind, run_readHead_mapHead 2 _ (by decide)]
  simp only [ok_bind, Chunk.read, StateT.run_bind]
  rw [run_mapFields_field chunkNames 3 ChunkFields.has ChunkFields.set 1 {} "direction" 0 _ hdir
    rfl (by rw [Bytes.length_ofString]; decide)]
  simp only [ChunkFields.set, StateT.run_bind, run_readHead_uint _ _ hcode, ok_bind,
    Direction.read_unsigned_code, StateT.run_pure, pure_bind]
  rw [run_mapFields_field chunkNames 3 ChunkFields.has ChunkFields.set 0 _ "content" 1 _ hcon
    rfl (by rw [Bytes.length_ofString]; decide)]
  simp [ChunkFields.set, StateT.run_bind, run_readHead_bin _ _ h, bytesOf, mapFields]
  rfl

theorem Chunk.run_readMany_encode (cs : List Chunk) (rest : Bytes)
    (h : ∀ c ∈ cs, c.content.length < 2 ^ 32) :
    (Chunk.readMany cs.length).run ((cs.map Chunk.encode).flatten ++ rest) = .ok (cs, rest) := by
  induction cs with
  | nil => rfl
  | cons c cs ih =>
    have hc := Chunk.run_read_encode c ((cs.map Chunk.encode).flatten ++ rest) (h c (by simp))
    rw [StateT.run_bind] at hc
    have hcs := ih (fun x hx => h x (by simp [hx]))
    simp only [List.length_cons, List.map_cons, List.flatten_cons, List.append_assoc,
      Chunk.readMany, StateT.run_bind]
    rw [← bind_assoc, hc, ok_bind, hcs]
    rfl

theorem Chunk.content_length_lt_encode (c : Chunk) : c.content.length < c.encode.length := by
  have hbin : c.content.length < (bin c.content).length := by
    unfold bin sized
    split_ifs <;> simp
  simp only [Chunk.encode, record, List.flatMap_cons, List.flatMap_nil, List.length_append]
  omega

theorem Chunk.length_le_flatten_encode (cs : List Chunk) :
    cs.length ≤ (cs.map Chunk.encode).flatten.length := by
  induction cs with
  | nil => simp
  | cons c cs ih =>
    have hc := Chunk.content_length_lt_encode c
    simp only [List.length_cons, List.map_cons, List.flatten_cons, List.length_append]
    omega

theorem Chunk.content_length_lt_flatten_encode {cs : List Chunk} {c : Chunk} (hc : c ∈ cs) :
    c.content.length < (cs.map Chunk.encode).flatten.length := by
  have hsub := List.sublist_flatten_of_mem (List.mem_map_of_mem (f := Chunk.encode) hc)
  have := Chunk.content_length_lt_encode c
  have := hsub.length_le
  omega

theorem Conversion.encode_chunks (cs : List Chunk) :
    (Conversion.chunks cs).encode =
      mapHead 1 ++ (str "Chunks" ++ (arrayHead cs.length ++ (cs.map Chunk.encode).flatten)) := by
  simp [Conversion.encode, record, array]

theorem Conversion.decode_encode_unchanged :
    Conversion.decode Conversion.unchanged.encode = .ok .unchanged := by
  have hread := run_enumOf_name ["Unchanged", "Chunks"]
    (fun i => if i = 0 then .unit Conversion.unchanged
      else .newtype do pure (.chunks (← Chunk.readList (← readHead))))
    "Unchanged" 0 Conversion.unchanged [] (Utf8.decode_ofString _) (by decide) rfl
    (by rw [Bytes.length_ofString]; decide)
  simp only [List.append_nil] at hread
  rw [Conversion.decode, Conversion.read, Conversion.encode, StateT.run'_eq, hread]
  rfl

theorem Conversion.decode_encode_chunks (cs : List Chunk) (hn : cs.length < 2 ^ 32)
    (hcontent : ∀ x ∈ cs, x.content.length < 2 ^ 32) :
    Conversion.decode (Conversion.chunks cs).encode = .ok (.chunks cs) := by
  have henc := Conversion.encode_chunks cs
  have hread := run_enumOf_entry ["Unchanged", "Chunks"]
    (fun i => if i = 0 then .unit Conversion.unchanged
      else .newtype do pure (.chunks (← Chunk.readList (← readHead))))
    "Chunks" 1 (do pure (.chunks (← Chunk.readList (← readHead))))
    (arrayHead cs.length ++ (cs.map Chunk.encode).flatten) (Utf8.decode_ofString _) (by decide) rfl
    (by rw [Bytes.length_ofString]; decide)
  have hmany := Chunk.run_readMany_encode cs [] hcontent
  simp only [List.append_nil] at hmany
  rw [Conversion.decode, henc, StateT.run'_eq, Conversion.read, hread]
  simp [StateT.run_bind, run_readHead_arrayHead cs.length _ hn, Chunk.readList, hmany]

theorem Conversion.decode_encode (c : Conversion) (h : c.encode.length < 2 ^ 32) :
    Conversion.decode c.encode = .ok c := by
  cases c with
  | unchanged => exact Conversion.decode_encode_unchanged
  | chunks cs =>
    -- every length inside the answer is below the answer's own
    have henc := Conversion.encode_chunks cs
    have hflat : (cs.map Chunk.encode).flatten.length < 2 ^ 32 := by
      rw [henc] at h
      simp only [List.length_append] at h
      omega
    have hcount := Chunk.length_le_flatten_encode cs
    exact Conversion.decode_encode_chunks cs (by omega) fun x hx =>
      Nat.lt_trans (Chunk.content_length_lt_flatten_encode hx) hflat

/-! Conversations -/

theorem Transport.run_read_name (t : Transport) (rest : Bytes) :
    Transport.read.run (str t.name ++ rest) = .ok (t, rest) := by
  cases t
  · exact run_enumOf_name ["tcp", "udp"] _ "tcp" 0 _ rest (Utf8.decode_ofString _) (by decide) rfl
      (by rw [Bytes.length_ofString]; decide)
  · exact run_enumOf_name ["tcp", "udp"] _ "udp" 1 _ rest (Utf8.decode_ofString _) (by decide) rfl
      (by rw [Bytes.length_ofString]; decide)

theorem Metadata.run_read_encode (m : Metadata) (rest : Bytes)
    (hc : Utf8.decode (Bytes.ofString m.clientHost) = .ok m.clientHost)
    (hs : Utf8.decode (Bytes.ofString m.serverHost) = .ok m.serverHost)
    (hcl : (Bytes.ofString m.clientHost).length < 2 ^ 32)
    (hsl : (Bytes.ofString m.serverHost).length < 2 ^ 32) :
    (do Metadata.read (← readHead)).run (m.encode ++ rest) = .ok (m, rest) := by
  have hid : m.streamId.toNat < 2 ^ 64 := m.streamId.toNat_lt
  have hcp : m.clientPort.toNat < 2 ^ 16 := m.clientPort.toNat_lt
  have hsp : m.serverPort.toNat < 2 ^ 16 := m.serverPort.toNat_lt
  have henc : m.encode ++ rest = mapHead 6 ++ (str "stream_id" ++ (uint m.streamId.toNat ++
      (str "client_host" ++ (str m.clientHost ++ (str "client_port" ++ (uint m.clientPort.toNat ++
      (str "server_host" ++ (str m.serverHost ++ (str "server_port" ++
      (uint m.serverPort.toNat ++ (str "transport" ++
      (str m.transport.name ++ rest)))))))))))) := by
    simp [Metadata.encode, record]
  rw [henc, StateT.run_bind, run_readHead_mapHead 6 _ (by decide)]
  simp only [ok_bind, Metadata.read, StateT.run_bind]
  rw [run_mapFields_entry metadataNames 2 MetadataFields.has MetadataFields.set 5 {}
    { streamId := some m.streamId } "stream_id" 0 _ _
    (by simp only [Bytes.ofString_beq]; decide) rfl (by rw [Bytes.length_ofString]; decide)
    (by simp [MetadataFields.set, StateT.run_bind, run_readHead_uint _ _ hid, unsignedOf,
      show m.streamId.toNat ≤ 18446744073709551615 by omega]; rfl)]
  rw [run_mapFields_entry metadataNames 2 MetadataFields.has MetadataFields.set 4 _
    { streamId := some m.streamId, clientHost := some m.clientHost } "client_host" 1 _ _
    (by simp only [Bytes.ofString_beq]; decide) rfl
    (by rw [Bytes.length_ofString]; decide)
    (by simp [MetadataFields.set, StateT.run_bind, run_readHead_str _ _ hcl, stringOf, hc]; rfl)]
  rw [run_mapFields_entry metadataNames 2 MetadataFields.has MetadataFields.set 3 _
    { streamId := some m.streamId, clientHost := some m.clientHost,
      clientPort := some m.clientPort } "client_port" 2 _ _
    (by simp only [Bytes.ofString_beq]; decide) rfl
    (by rw [Bytes.length_ofString]; decide)
    (by simp [MetadataFields.set, StateT.run_bind, run_readHead_uint m.clientPort.toNat _ (by omega),
      unsignedOf, show m.clientPort.toNat ≤ 65535 by omega]; rfl)]
  rw [run_mapFields_entry metadataNames 2 MetadataFields.has MetadataFields.set 2 _
    { streamId := some m.streamId, clientHost := some m.clientHost,
      clientPort := some m.clientPort, serverHost := some m.serverHost } "server_host" 3 _ _
    (by simp only [Bytes.ofString_beq]; decide) rfl
    (by rw [Bytes.length_ofString]; decide)
    (by simp [MetadataFields.set, StateT.run_bind, run_readHead_str _ _ hsl, stringOf, hs]; rfl)]
  rw [run_mapFields_entry metadataNames 2 MetadataFields.has MetadataFields.set 1 _
    { streamId := some m.streamId, clientHost := some m.clientHost,
      clientPort := some m.clientPort, serverHost := some m.serverHost,
      serverPort := some m.serverPort } "server_port" 4 _ _
    (by simp only [Bytes.ofString_beq]; decide) rfl
    (by rw [Bytes.length_ofString]; decide)
    (by simp [MetadataFields.set, StateT.run_bind, run_readHead_uint m.serverPort.toNat _ (by omega),
      unsignedOf, show m.serverPort.toNat ≤ 65535 by omega]; rfl)]
  rw [run_mapFields_entry metadataNames 2 MetadataFields.has MetadataFields.set 0 _
    { streamId := some m.streamId, clientHost := some m.clientHost,
      clientPort := some m.clientPort, serverHost := some m.serverHost,
      serverPort := some m.serverPort, transport := some m.transport } "transport" 5 _ _
    (by simp only [Bytes.ofString_beq]; decide) rfl
    (by rw [Bytes.length_ofString]; decide)
    (by simp [MetadataFields.set, Transport.run_read_name])]
  rfl

theorem MsgPack.length_ofString_le_length_str (s : String) :
    (Bytes.ofString s).length ≤ (str s).length := by
  simp only [str, List.length_append]
  omega

theorem Conversation.encode_mk (m : Metadata) (cs : List Chunk) :
    (Conversation.mk m cs).encode = mapHead 2 ++ (str "metadata" ++ (m.encode ++
      (str "chunks" ++ (arrayHead cs.length ++ (cs.map Chunk.encode).flatten)))) := by
  simp [Conversation.encode, record, array]

/-- A conversation is read back from its MessagePack as long as every length written in it fits
the 32-bit length field it is written with: the octets of both host names, the number of chunks
and the octets of each chunk. -/
theorem Conversation.decode_encode_of_lengths (c : Conversation)
    (hcl : (Bytes.ofString c.metadata.clientHost).length < 2 ^ 32)
    (hsl : (Bytes.ofString c.metadata.serverHost).length < 2 ^ 32)
    (hn : c.chunks.length < 2 ^ 32) (hcontent : ∀ x ∈ c.chunks, x.content.length < 2 ^ 32) :
    Conversation.decode c.encode = .ok c := by
  obtain ⟨m, cs⟩ := c
  have henc := Conversation.encode_mk m cs
  have hmeta := Metadata.run_read_encode m (str "chunks" ++ (arrayHead cs.length ++
    (cs.map Chunk.encode).flatten)) (Utf8.decode_ofString _) (Utf8.decode_ofString _) hcl hsl
  rw [StateT.run_bind] at hmeta
  have hmany := Chunk.run_readMany_encode cs [] hcontent
  simp only [List.append_nil] at hmany
  rw [Conversation.decode, henc, StateT.run'_eq, Conversation.read, StateT.run_bind,
    run_readHead_mapHead 2 _ (by decide)]
  simp only [ok_bind, StateT.run_bind]
  rw [run_mapFields_field conversationNames 1 ConversationFields.has ConversationFields.set 1 {}
    "metadata" 0 _ (by simp only [Bytes.ofString_beq]; decide) rfl
    (by rw [Bytes.length_ofString]; decide)]
  simp only [ConversationFields.set, StateT.run_bind]
  rw [← bind_assoc, hmeta, ok_bind]
  simp only [StateT.run_pure, pure_bind]
  rw [run_mapFields_field conversationNames 1 ConversationFields.has ConversationFields.set 0 _
    "chunks" 1 _ (by simp only [Bytes.ofString_beq]; decide) rfl
    (by rw [Bytes.length_ofString]; decide)]
  simp [ConversationFields.set, StateT.run_bind, run_readHead_arrayHead cs.length _ hn,
    Chunk.readList, hmany, mapFields]
  rfl

theorem Conversation.decode_encode (c : Conversation) (h : c.encode.length < 2 ^ 32)
    (hc : Utf8.decode (Bytes.ofString c.metadata.clientHost) = .ok c.metadata.clientHost)
    (hs : Utf8.decode (Bytes.ofString c.metadata.serverHost) = .ok c.metadata.serverHost) :
    Conversation.decode c.encode = .ok c := by
  obtain ⟨m, cs⟩ := c
  -- every length inside the conversation is below the conversation's own
  have henc := Conversation.encode_mk m cs
  have hmenc : m.encode.length = (mapHead 6).length + (str "stream_id").length +
      (uint m.streamId.toNat).length + (str "client_host").length + (str m.clientHost).length +
      (str "client_port").length + (uint m.clientPort.toNat).length +
      (str "server_host").length + (str m.serverHost).length + (str "server_port").length +
      (uint m.serverPort.toNat).length + (str "transport").length +
      (str m.transport.name).length := by
    simp [Metadata.encode, record]
    omega
  rw [henc] at h
  simp only [List.length_append] at h
  have hcl := MsgPack.length_ofString_le_length_str m.clientHost
  have hsl := MsgPack.length_ofString_le_length_str m.serverHost
  have hcount := Chunk.length_le_flatten_encode cs
  have hcl' : (Bytes.ofString m.clientHost).length < 2 ^ 32 := by omega
  have hsl' : (Bytes.ofString m.serverHost).length < 2 ^ 32 := by omega
  have hn : cs.length < 2 ^ 32 := by omega
  have hcontent : ∀ x ∈ cs, x.content.length < 2 ^ 32 := fun x hx =>
    Nat.lt_of_lt_of_le (Chunk.content_length_lt_flatten_encode hx) (by omega)
  exact Conversation.decode_encode_of_lengths ⟨m, cs⟩ hcl' hsl' hn hcontent

end Dissect
