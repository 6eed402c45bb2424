import Mathlib
import Dissect.Proofs.Conversation.RoundTrip

/-!
# Lengths that fit their fields, and lengths that wrap

MessagePack gives the length of a string, of binary and of an array in a field of at most 32
bits. A conversation or an answer all of whose lengths fit is read back as itself
(`decode_encode_of_fits`), whatever its stream id, ports, transport, directions and text.
-/

set_option autoImplicit false

namespace Dissect

open MsgPack

/-- Every length that the writer puts in a 32-bit field of a conversation fits it: the octets of
both host names, the number of chunks and the octets of each chunk. -/
def Conversation.Fits (c : Conversation) : Prop :=
  (Bytes.ofString c.metadata.clientHost).length < 2 ^ 32 ∧
    (Bytes.ofString c.metadata.serverHost).length < 2 ^ 32 ∧
    c.chunks.length < 2 ^ 32 ∧ ∀ x ∈ c.chunks, x.content.length < 2 ^ 32

instance : DecidablePred Conversation.Fits := fun c => by
  unfold Conversation.Fits
  infer_instance

def Conversion.Fits : Conversion → Prop
  | .unchanged => True
  | .chunks cs => cs.length < 2 ^ 32 ∧ ∀ x ∈ cs, x.content.length < 2 ^ 32

instance : DecidablePred Conversion.Fits
  | .unchanged => isTrue trivial
  | .chunks cs => inferInstanceAs (Decidable (cs.length < 2 ^ 32 ∧ _))

/-- Conversations and answers whose lengths fit their fields are read back as themselves, so
that `unchanged` and an answer of no chunks are never confused. -/
theorem decode_encode_of_fits :
    (∀ c : Conversation, c.Fits → Conversation.decode c.encode = .ok c) ∧
    (∀ a : Conversion, a.Fits → Conversion.decode a.encode = .ok a) ∧
    Conversion.decode Conversion.unchanged.encode ≠
      Conversion.decode (Conversion.chunks []).encode := by
  refine ⟨fun c ⟨hcl, hsl, hn, hcontent⟩ =>
    Conversation.decode_encode_of_lengths c hcl hsl hn hcontent, fun a ha => ?_, ?_⟩
  · cases a with
    | unchanged => exact Conversion.decode_encode_unchanged
    | chunks cs => exact Conversion.decode_encode_chunks cs ha.1 ha.2
  · rw [Conversion.decode_encode_unchanged,
      Conversion.decode_encode_chunks [] (by decide) (by simp)]
    simp

def sampleConversation : Conversation :=
  ⟨⟨0x8000000000000007, "hôte", 40000, "10.0.0.2", 80, .udp⟩, [⟨.server, []⟩]⟩

theorem decode_encode_sample :
    (sampleConversation.Fits ∧
      Conversation.decode sampleConversation.encode = .ok sampleConversation) ∧
    ((Conversion.chunks []).Fits ∧
      Conversion.decode (Conversion.chunks []).encode = .ok (.chunks [])) := by
  have hc : sampleConversation.Fits := by decide +kernel
  have ha : (Conversion.chunks []).Fits := by decide
  exact ⟨⟨hc, decode_encode_of_fits.1 _ hc⟩, ⟨ha, decode_encode_of_fits.2.1 _ ha⟩⟩

/-! ## A host name of `2 ^ 32` octets -/

theorem MsgPack.run_mapFields_skip {σ : Type} (names : List String) (level : Nat)
    (hasField : Nat → σ → Bool) (setField : Nat → σ → Reader σ) (n : Nat) (acc : σ)
    (k v : UInt8) (rest : Bytes) (hk : names.length ≤ k.toNat) (hk' : k.toNat < 0x80)
    (hv : v.toNat < 0x80) :
    (mapFields names level hasField setField (n + 1) acc).run (k :: v :: rest) =
      (mapFields names level hasField setField n acc).run rest := by
  have hkey : fieldKey names (.unsigned k.toNat) = pure none := by
    simp only [fieldKey, if_neg (show ¬ k.toNat < names.length by omega)]
  have hskip : (skipValue level).run (v :: rest) = .ok ((), rest) := by
    simp [skipValue, skipNested, StateT.run_bind, run_readHead_cons, headOf_fixpos hv]
    rw [show 2 * (rest.length + 1) = (2 * rest.length + 1) + 1 by omega]
    simp [skipNested]
    rfl
  simp [mapFields, StateT.run_bind, run_readHead_cons, headOf_fixpos hk', hkey, hskip]

def wideHost : Conversation :=
  ⟨⟨0, String.ofList (List.replicate (2 ^ 32) 'a'), 0, "", 0, .tcp⟩, []⟩

theorem ofString_wideHost :
    Bytes.ofString wideHost.metadata.clientHost = List.replicate (2 ^ 32) 97 := by
  rw [Bytes.ofString_eq_flatMap]
  have ha : String.utf8EncodeChar 'a' = [97] := by decide
  simp only [wideHost, String.toList_ofList, List.flatMap_replicate, ha,
    List.flatten_replicate_singleton]

theorem str_wideHost :
    str wideHost.metadata.clientHost = [0xDB, 0, 0, 0, 0] ++ List.replicate (2 ^ 32) 97 := by
  have hhead : Bytes.ofBeNat 4 (2 ^ 32) = [0, 0, 0, 0] := by decide
  simp only [str, sized, ofString_wideHost, List.length_replicate]
  rw [if_neg (by norm_num), if_neg (by norm_num), if_neg (by norm_num), hhead]

theorem MsgPack.run_readHead_str32_zero (rest : Bytes) :
    readHead.run (0xDB :: 0 :: 0 :: 0 :: 0 :: rest) = .ok (.str [], rest) := by
  have hzero : (readUnsigned 4).run (0 :: 0 :: 0 :: 0 :: rest) = .ok (0, rest) :=
    run_readUnsigned_ofBeNat 4 0 rest (by decide)
  have hnil : (readSlice 0).run rest = .ok ([], rest) := run_readSlice_append [] rest
  simp [readHead, headOf, StateT.run_bind, hzero, hnil]

theorem replicate_split : List.replicate (2 ^ 32) (97 : UInt8) =
      List.replicate 8 97 ++ List.replicate (2 ^ 32 - 8) 97 := by
  rw [← List.replicate_add, Nat.add_sub_cancel' (by norm_num : 8 ≤ 2 ^ 32)]

theorem encode_wideHost_metadata (rest : Bytes) : ∃ tail, wideHost.metadata.encode ++ rest =
    mapHead 6 ++ (str "stream_id" ++ (uint 0 ++ (str "client_host" ++ ([0xDB, 0, 0, 0, 0] ++
      (97 :: 97 :: 97 :: 97 :: 97 :: 97 :: 97 :: 97 :: tail))))) := by
  refine ⟨List.replicate (2 ^ 32 - 8) 97 ++ (str "client_port" ++ (uint 0 ++
    (str "server_host" ++ (str "" ++ (str "server_port" ++ (uint 0 ++ (str "transport" ++
    (str "tcp" ++ rest)))))))), ?_⟩
  have hid : wideHost.metadata.streamId.toNat = 0 := rfl
  have hcp : wideHost.metadata.clientPort.toNat = 0 := rfl
  have hsp : wideHost.metadata.serverPort.toNat = 0 := rfl
  have hsh : wideHost.metadata.serverHost = "" := rfl
  have htr : wideHost.metadata.transport.name = "tcp" := rfl
  simp only [Metadata.encode, record, List.length_cons, List.length_nil, List.flatMap_cons,
    List.flatMap_nil, List.append_nil, List.append_assoc, hid, hcp, hsp, hsh, htr, str_wideHost,
    replicate_split]
  rfl

theorem run_read_wideHost_metadata (rest : Bytes) :
    (do Metadata.read (← readHead)).run (wideHost.metadata.encode ++ rest) =
      .error (.missingField "client_port") := by
  obtain ⟨tail, henc⟩ := encode_wideHost_metadata rest
  rw [henc, StateT.run_bind, run_readHead_mapHead 6 _ (by decide)]
  simp only [ok_bind, Metadata.read, StateT.run_bind]
  rw [run_mapFields_entry metadataNames 2 MetadataFields.has MetadataFields.set 5 {}
    { streamId := some 0 } "stream_id" 0 _ _ (by decide +kernel) rfl (by decide +kernel)
    (by simp [MetadataFields.set, StateT.run_bind, run_readHead_uint 0 _ (by norm_num),
      unsignedOf]; rfl)]
  rw [run_mapFields_entry metadataNames 2 MetadataFields.has MetadataFields.set 4 _
    { streamId := some 0, clientHost := some "" } "client_host" 1 _ _
    (by decide +kernel) rfl (by decide +kernel)
    (by simp [MetadataFields.set, StateT.run_bind, run_readHead_str32_zero, stringOf,
      Utf8.decode, Utf8.decodeFrom]; rfl)]
  have hskip : ∀ (n : Nat) (acc : MetadataFields) (rest : Bytes),
      (mapFields metadataNames 2 MetadataFields.has MetadataFields.set (n + 1) acc).run
        (97 :: 97 :: rest) =
      (mapFields metadataNames 2 MetadataFields.has MetadataFields.set n acc).run rest :=
    fun n acc rest => run_mapFields_skip metadataNames 2 _ _ n acc 97 97 rest (by decide)
      (by decide) (by decide)
  rw [hskip, hskip, hskip, hskip]
  simp [mapFields]
  rfl

theorem Conversation.decode_encode_of_metadata_error (c : Conversation) (e : DecodeError)
    (h : ∀ rest, (do Metadata.read (← readHead)).run (c.metadata.encode ++ rest) = .error e) :
    Conversation.decode c.encode = .error e := by
  obtain ⟨m, cs⟩ := c
  have henc := Conversation.encode_mk m cs
  have hmeta := h (str "chunks" ++ (arrayHead cs.length ++ (cs.map Chunk.encode).flatten))
  rw [StateT.run_bind] at hmeta
  rw [Conversation.decode, henc, StateT.run'_eq, Conversation.read, StateT.run_bind,
    run_readHead_mapHead 2 _ (by decide)]
  simp only [ok_bind, StateT.run_bind]
  rw [run_mapFields_field conversationNames 1 ConversationFields.has ConversationFields.set 1 {}
    "metadata" 0 _ (by decide +kernel) rfl (by decide +kernel)]
  simp only [ConversationFields.set, StateT.run_bind]
  rw [← bind_assoc, hmeta]
  rfl

/-- A conversation whose client host name has `2 ^ 32` octets does not fit, and what is written
for it is not read back as it: the reading stops for want of a client port. -/
theorem decode_encode_wideHost :
    ¬ wideHost.Fits ∧
      Conversation.decode wideHost.encode = .error (.missingField "client_port") := by
  refine ⟨fun h => ?_, ?_⟩
  · have hlen := h.1
    rw [ofString_wideHost, List.length_replicate] at hlen
    exact lt_irrefl _ hlen
  · exact Conversation.decode_encode_of_metadata_error wideHost _ run_read_wideHost_metadata

end Dissect
