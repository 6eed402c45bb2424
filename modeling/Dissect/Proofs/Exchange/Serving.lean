import Dissect.Exchange.Worker
import Dissect.Proofs.Record.Framing
import Dissect.Proofs.Conversation.RoundTrip
import Dissect.Proofs.Http1.Plain

/-!
# Serving a channel

However the reads of a channel cut its input, a worker answers the records of the input as if it
had read it whole (`serve_eq_answerAll`): one result per conversation record, in order, up to the
first answer too long for a record header. A result carries the sequence number of its
conversation, flags that tell an unchanged answer and a failed conversation, and the answer in
MessagePack, which reads back as the dissector's output (`answer_answered`).
-/

set_option autoImplicit false

namespace Dissect.Exchange

open Record

variable {ε : Type} (transform : List Chunk → Except ε (List Chunk))

theorem flatten_reads (size : Nat) (bs : Bytes) : (reads size bs).flatten = bs := by
  fun_induction reads size bs <;> simp_all

theorem answerAll_append (xs ys : List Record) :
    answerAll transform (xs ++ ys) =
      match answerAll transform xs with
      | (done, some f) => (done, some f)
      | (done, none) => (done ++ (answerAll transform ys).1, (answerAll transform ys).2) := by
  induction xs with
  | nil => rfl
  | cons r rs ih =>
    simp only [List.cons_append, answerAll]
    split_ifs
    · rfl
    · rfl
    · rw [ih]
      rcases answerAll transform rs with ⟨done, _ | f⟩ <;> rfl

theorem serve_eq_answerAll {b bF : Buffer} (hb : b.Settled) {ds : List Bytes}
    {rs : List Record} (h : b.push ds.flatten = (bF, .ok rs)) :
    serve transform b ds = ((answerAll transform rs).1,
      match (answerAll transform rs).2 with
      | some f => .error f
      | none => if bF.isEmpty then .ok () else .error .connectionClosed) := by
  induction ds generalizing b rs with
  | nil =>
    have hpush : b.push [] = (b, .ok []) := by
      rw [Buffer.push, List.append_nil]
      exact hb
    rw [List.flatten_nil, hpush, Prod.mk.injEq] at h
    obtain ⟨rfl, hrs⟩ := h
    cases hrs
    rfl
  | cons d ds ih =>
    rw [List.flatten_cons] at h
    rcases hd : b.push d with ⟨b1, r1⟩
    cases r1 with
    | error e =>
      have := Buffer.push_append_of_error hd ds.flatten
      rw [h] at this
      cases this
    | ok rs1 =>
      have hb1 : b1.Settled := Buffer.settled_extract hd
      rw [Buffer.push_append hd] at h
      rcases hrest : b1.push ds.flatten with ⟨b2, r2⟩
      rw [hrest] at h
      cases r2 with
      | error e => cases h
      | ok rs2 =>
        obtain ⟨rfl, hrs⟩ := Prod.mk.inj h
        obtain rfl : rs1 ++ rs2 = rs := Except.ok.inj hrs
        simp only [serve, hd]
        rw [answerAll_append]
        rcases answerAll transform rs1 with ⟨done, _ | f⟩
        · simp only [ih hb1 hrest]
        · rfl

theorem answerAll_of_conversations {rs : List Record}
    (hk : ∀ r ∈ rs, r.header.kind = conversationKind) :
    answerAll transform rs = ((rs.map (answer transform)).takeWhile (·.fits),
      ((rs.map (answer transform)).find? (!·.fits)).map
        fun a => .refused (.unfit a.payload.length)) := by
  induction rs with
  | nil => rfl
  | cons r rs ih =>
    have hr := hk r (by simp)
    rw [answerAll, if_neg (by simp [hr]), ih fun r' h' => hk r' (by simp [h'])]
    by_cases hfit : (answer transform r).fits
    · simp [hfit]
    · simp [hfit]

/-- What a result record `a` says of the conversation record `r` it answers: it is a result of
the same sequence number announcing the length of its payload. When `r` holds a conversation that
the dissector takes, the payload is the answer in MessagePack, which reads back as the dissector's
output, flagged unchanged exactly when the output is the input; otherwise it is the answer
`unchanged`, flagged unchanged and failed. -/
def Answered (r a : Record) : Prop :=
  a.header.kind = resultKind ∧ a.header.sequence = r.header.sequence ∧
    a.header.payloadLength.toNat = a.payload.length ∧
    match Conversation.decode r.payload with
    | .ok s =>
      match transform s.chunks with
      | .ok out =>
        a.header.flags = (if s.chunks = out then unchangedFlag else 0) ∧
          a.payload = (Conversion.ofOutput s.chunks out).encode ∧
          (Conversion.decode a.payload).map (·.resolve s.chunks) = .ok out
      | .error _ =>
        a.header.flags = unchangedFlag ||| failedFlag ∧ a.payload = Conversion.unchanged.encode
    | .error _ =>
      a.header.flags = unchangedFlag ||| failedFlag ∧ a.payload = Conversion.unchanged.encode

theorem answer_answered (r : Record) (h : (answer transform r).fits) :
    Answered transform r (answer transform r).record := by
  have hlen : (answer transform r).payload.length.toUInt32.toNat =
      (answer transform r).payload.length := by
    simp only [Answer.fits, decide_eq_true_eq] at h
    simp only [Nat.toUInt32, UInt32.toNat_ofNat']
    exact Nat.mod_eq_of_lt h
  have hseq : (answer transform r).sequence = r.header.sequence := by
    unfold answer
    split
    · rfl
    · split <;> rfl
  refine ⟨rfl, hseq, hlen, ?_⟩
  rcases hd : Conversation.decode r.payload with e | s
  · simp only [answer, hd]
    exact ⟨rfl, rfl⟩
  rcases ht : transform s.chunks with e | out
  · simp only [answer, hd, ht]
    exact ⟨rfl, rfl⟩
  have hfit : (Conversion.ofOutput s.chunks out).encode.length < 2 ^ 32 := by
    simpa [answer, hd, ht, Answer.fits, Answer.payload] using h
  have hdec := Conversion.decode_encode (Conversion.ofOutput s.chunks out) hfit
  simp only [answer, hd, ht]
  refine ⟨?_, rfl, ?_⟩
  · by_cases heq : s.chunks = out
    · simp [Answer.record, Answer.flags, Conversion.ofOutput, Conversion.isUnchanged, heq]
    · simp [Answer.record, Answer.flags, Conversion.ofOutput, Conversion.isUnchanged, heq]
  · simp only [Answer.record, Answer.payload, hdec]
    exact congrArg Except.ok (Conversion.resolve_ofOutput s.chunks out)

/-- **The exchange contract.** Conversation records sent whole under the payload limit, followed
by nothing or by the beginning of one more, are answered in order, one result each, however the
reads cut the input, up to the first answer too long for a record header. The run then ends with
the refusal of that answer; when every answer fits, it ends cleanly if nothing is left over and
with a closed connection if a record was cut short. -/
theorem serve_conversations (limit : UInt32) (rs : List Record) (tail : Bytes) (ds : List Bytes)
    (hrs : ∀ r ∈ rs, r.Sendable limit)
    (htail : tail = [] ∨ ∃ r : Record, r.Sendable limit ∧ tail <+: r.encode ∧
      tail.length < r.encode.length)
    (hds : ds.flatten = rs.flatMap Record.encode ++ tail) :
    serve transform (Buffer.empty limit) ds =
      ((rs.map (answer transform)).takeWhile (·.fits),
        match (rs.map (answer transform)).find? (!·.fits) with
        | some a => .error (.refused (.unfit a.payload.length))
        | none => if tail = [] then .ok () else .error .connectionClosed) ∧
    ∀ r ∈ rs, (answer transform r).fits →
      Answered transform r (answer transform r).record := by
  have hacc : ∀ r ∈ rs, r.Accepted limit := fun r h => (hrs r h).accepted
  -- what is left after the whole records: nothing handed out, and kept exactly when nonempty
  have htl : (Buffer.extract limit none tail).2 = .ok [] ∧
      ((Buffer.extract limit none tail).1.isEmpty = true ↔ tail = []) := by
    rcases htail with rfl | ⟨r, hr, hpre, hlt⟩
    · simp [Buffer.extract, Header.decode?, Buffer.isEmpty]
    · exact Buffer.extract_of_prefix hr.accepted hpre hlt
  obtain ⟨hok, hempty⟩ := htl
  have hpush : (Buffer.empty limit).push ds.flatten =
      ((Buffer.extract limit none tail).1, .ok rs) := by
    rw [Buffer.push, hds]
    simp only [Buffer.empty, List.nil_append]
    rw [Buffer.extract_flatMap_encode_append hacc, hok]
    simp only [Except.map, List.append_nil]
  rw [serve_eq_answerAll transform (Buffer.settled_empty limit) hpush,
    answerAll_of_conversations transform fun r h => (hrs r h).1]
  refine ⟨?_, fun r _ hfit => answer_answered transform r hfit⟩
  rcases hfind : (rs.map (answer transform)).find? (!·.fits) with _ | a
  · simp only [hfind, Option.map_none, hempty]
  · simp only [hfind, Option.map_some]

theorem serve_conversations_one_record :
    (⟨⟨conversationKind, 0, 7, 0⟩, []⟩ : Record).Sendable 16 ∧
      serve (ε := Unit) .ok (Buffer.empty 16) [Record.encode ⟨⟨conversationKind, 0, 7, 0⟩, []⟩] =
        ([⟨7, true, .unchanged⟩], .ok ()) := by
  have hs : (⟨⟨conversationKind, 0, 7, 0⟩, []⟩ : Record).Sendable 16 := by decide
  have hans : answer (ε := Unit) .ok ⟨⟨conversationKind, 0, 7, 0⟩, []⟩ = ⟨7, true, .unchanged⟩ := by
    decide +kernel
  have hfit : (⟨7, true, .unchanged⟩ : Answer).fits = true := by decide +kernel
  refine ⟨hs, ?_⟩
  rw [(serve_conversations (ε := Unit) .ok 16 [⟨⟨conversationKind, 0, 7, 0⟩, []⟩] []
    [Record.encode ⟨⟨conversationKind, 0, 7, 0⟩, []⟩] (by simpa using hs) (Or.inl rfl)
    (by simp)).1]
  simp [hans, hfit]

/-! ## An answer too long for its header -/

def emptyRequests (n : Nat) : Conversation :=
  ⟨⟨0, "", 0, "", 0, .tcp⟩, List.replicate n ⟨.client, []⟩⟩

def emptyRequestsRecord (n : Nat) : Record :=
  ⟨⟨conversationKind, 0, 0, (emptyRequests n).encode.length.toUInt32⟩, (emptyRequests n).encode⟩

theorem length_arrayHead_of_le {n : Nat} (h : 0x10000 ≤ n) : (MsgPack.arrayHead n).length = 5 := by
  unfold MsgPack.arrayHead
  rw [if_neg (by omega), if_neg (by omega)]
  simp [Bytes.length_ofBeNat]

theorem length_flatten_encode_replicate (n : Nat) (c : Chunk) :
    ((List.replicate n c).map Chunk.encode).flatten.length = n * c.encode.length := by
  simp [List.map_replicate]

theorem length_encode_emptyRequests {n : Nat} (h : 0x10000 ≤ n) :
    (emptyRequests n).encode.length = 100 + 22 * n := by
  have henc : (emptyRequests n).encode = MsgPack.mapHead 2 ++ (MsgPack.str "metadata" ++
      (Metadata.encode ⟨0, "", 0, "", 0, .tcp⟩ ++ (MsgPack.str "chunks" ++
      (MsgPack.arrayHead n ++ ((List.replicate n ⟨.client, []⟩).map Chunk.encode).flatten)))) := by
    simp [emptyRequests, Conversation.encode, MsgPack.record, MsgPack.array]
  have hmeta : (Metadata.encode ⟨0, "", 0, "", 0, .tcp⟩).length = 78 := by decide +kernel
  have hchunk : (Chunk.encode ⟨.client, []⟩).length = 22 := by decide +kernel
  have hmap : (MsgPack.mapHead 2).length = 1 := by decide +kernel
  have hkeys : (MsgPack.str "metadata").length + (MsgPack.str "chunks").length = 16 := by
    decide +kernel
  rw [henc]
  simp only [List.length_append, length_flatten_encode_replicate, hmeta, hchunk, hmap,
    length_arrayHead_of_le h]
  omega

theorem length_encode_emptyRequestsAnswer {n : Nat} (h : 0x10000 ≤ n) :
    (Conversion.chunks (List.replicate n emptyRequestDiagnostic)).encode.length = 13 + 79 * n := by
  have henc : (Conversion.chunks (List.replicate n emptyRequestDiagnostic)).encode =
      MsgPack.mapHead 1 ++ (MsgPack.str "Chunks" ++ (MsgPack.arrayHead n ++
      ((List.replicate n emptyRequestDiagnostic).map Chunk.encode).flatten)) := by
    simp [Conversion.encode, MsgPack.record, MsgPack.array]
  have hdiag : emptyRequestDiagnostic.encode.length = 79 := by decide +kernel
  have hkey : (MsgPack.mapHead 1 ++ MsgPack.str "Chunks").length = 8 := by decide +kernel
  rw [henc, ← List.append_assoc]
  simp only [List.length_append, length_flatten_encode_replicate, hdiag, hkey,
    length_arrayHead_of_le h]
  omega

theorem emptyRequestsRecord_sendable {n : Nat} (h₀ : 0x10000 ≤ n) (h₁ : 100 + 22 * n < 2 ^ 32) :
    (emptyRequestsRecord n).Sendable 4294967295 := by
  have hlen := length_encode_emptyRequests h₀
  have htoNat : (emptyRequests n).encode.length.toUInt32.toNat =
      (emptyRequests n).encode.length := by
    simp only [Nat.toUInt32, UInt32.toNat_ofNat']
    omega
  refine ⟨rfl, show (0 : UInt8) &&& reservedMask = 0 by decide, ?_, htoNat⟩
  rw [UInt32.le_iff_toNat_le]
  change (emptyRequests n).encode.length.toUInt32.toNat ≤ _
  rw [htoNat]
  simp only [UInt32.reduceToNat]
  omega

theorem answer_emptyRequestsRecord (config : Config) {n : Nat} (h₀ : 0x10000 ≤ n)
    (h₁ : 100 + 22 * n < 2 ^ 32) :
    answer (Dissector.http.transform config) (emptyRequestsRecord n) =
      ⟨0, false, .chunks (List.replicate n emptyRequestDiagnostic)⟩ := by
  have hdec := Conversation.decode_encode (emptyRequests n)
    (by rw [length_encode_emptyRequests h₀]; omega) (by simp only [emptyRequests]; decide +kernel)
    (by simp only [emptyRequests]; decide +kernel)
  have hne : List.replicate n (⟨.client, []⟩ : Chunk) ≠
      List.replicate n emptyRequestDiagnostic := by
    intro heq
    have := congrArg List.head? heq
    simp only [List.head?_replicate, show n ≠ 0 by omega, if_false, Option.some.injEq] at this
    exact absurd this (by decide +kernel)
  unfold answer
  rw [show (emptyRequestsRecord n).payload = (emptyRequests n).encode from rfl, hdec]
  simp only [show (emptyRequests n).chunks = List.replicate n ⟨.client, []⟩ from rfl,
    Dissector.transform_http_empty_requests, Conversion.ofOutput, if_neg hne]
  rfl

theorem run_emptyRequestsRecord {n : Nat} (h₀ : 0x10000 ≤ n) (h₁ : 100 + 22 * n < 2 ^ 32)
    (h₂ : 2 ^ 32 ≤ 13 + 79 * n) :
    run (Dissector.http.transform {}) 4294967295 (emptyRequestsRecord n).encode =
      ⟨[], .error (.refused (.unfit (13 + 79 * n)))⟩ := by
  have hs := emptyRequestsRecord_sendable h₀ h₁
  have ha := answer_emptyRequestsRecord {} h₀ h₁
  have hlen := length_encode_emptyRequestsAnswer h₀
  have hunfit : (⟨0, false, .chunks (List.replicate n emptyRequestDiagnostic)⟩ : Answer).fits =
      false := by
    simp only [Answer.fits, Answer.payload, hlen, decide_eq_false_iff_not]
    change ¬ 13 + 79 * n < 4294967296
    omega
  have hserve := (serve_conversations (Dissector.http.transform {}) 4294967295
    [emptyRequestsRecord n] [] (reads readSize (emptyRequestsRecord n).encode)
    (by simpa using hs) (Or.inl rfl) (by simp [flatten_reads])).1
  unfold run
  rw [hserve]
  simp only [List.map_cons, List.map_nil, ha, List.takeWhile_cons, hunfit, List.find?_cons,
    Bool.not_false, Answer.payload, hlen]
  rfl

theorem run_refuses_overlong_answer :
    (emptyRequestsRecord (2 ^ 26)).Sendable 4294967295 ∧
      run (Dissector.http.transform {}) 4294967295 (emptyRequestsRecord (2 ^ 26)).encode =
        ⟨[], .error (.refused (.unfit 5301600269))⟩ := by
  refine ⟨emptyRequestsRecord_sendable (by decide) (by decide), ?_⟩
  have hrun := run_emptyRequestsRecord (n := 2 ^ 26) (by decide) (by decide) (by decide)
  rw [show 13 + 79 * 2 ^ 26 = 5301600269 by decide] at hrun
  exact hrun

end Dissect.Exchange
