import Mathlib
import Dissect.Proofs.Grpc.Detection
import Dissect.Proofs.Http2.Layering

/-!
# gRPC messages in DATA frames

A DATA frame of a direction that carries gRPC is shown as the one message its payload holds, or,
when that message cannot be shown, as the reason followed by the usual DATA rendering (`shown`).
Taking the message out of the payload succeeds exactly when the payload has its five-octet prefix
and then exactly the number of octets the prefix declares (`Message.parse_ok_iff`); one octet
more or less is refused with its own reason.
-/

set_option autoImplicit false

namespace Dissect.Grpc

open Dissecting Http2

/-! ## The message in a payload -/

theorem Message.parse_of_short {P : Bytes} (h : P.length < prefixSize) :
    Message.parse P = .error .short := by
  match P, h with
  | [], _ | [_], _ | [_, _], _ | [_, _, _], _ | [_, _, _, _], _ => rfl

theorem Message.parse_prefixed (flag l₀ l₁ l₂ l₃ : UInt8) (data : Bytes) :
    Message.parse (flag :: l₀ :: l₁ :: l₂ :: l₃ :: data) =
      if data.length < Bytes.beNat [l₀, l₁, l₂, l₃] then .error .lengthMismatch
      else if data.length > Bytes.beNat [l₀, l₁, l₂, l₃] then .error .overlong
      else .ok ⟨flag, Bytes.beNat [l₀, l₁, l₂, l₃], data⟩ :=
  rfl

theorem Message.parse_ok_iff (P : Bytes) :
    (∃ m, Message.parse P = .ok m) ↔
      prefixSize ≤ P.length ∧ P.length - prefixSize = Bytes.beNat ((P.drop 1).take 4) := by
  match P with
  | flag :: l₀ :: l₁ :: l₂ :: l₃ :: data =>
    rw [Message.parse_prefixed]
    simp only [List.drop_succ_cons, List.drop_zero, List.take_succ_cons, List.take_zero,
      List.length_cons, prefixSize]
    split_ifs with hlt hgt
    · simp only [exists_false, false_iff, not_and]
      omega
    · simp only [exists_false, false_iff, not_and]
      omega
    · simp only [Except.ok.injEq, exists_eq', true_iff]
      omega
  | [] | [_] | [_, _] | [_, _, _] | [_, _, _, _] =>
    rw [Message.parse_of_short (by simp [prefixSize])]
    simp [prefixSize]

/-! ## What a DATA frame is shown as -/

def messageText (f : Frame) (m : Message) (fields : String) : String :=
  s!"{f.display}\nGRPC-Compressed: {m.compressed.toNat}\nGRPC-Message-Length: {m.length}\n{trimEnd fields}\n"

def fallback (f : Frame) (e : Issue) : Bytes := Bytes.ofString (e.message ++ "\n") ++ f.renderData

/-- What gRPC shows for the payload `P` of a DATA frame `f` of direction `d`: the one message of
the payload, when its data decompresses with the encoding of `d` on the frame's stream (only if
it is flagged) and can be taken apart (only if it is not empty); else the first reason it cannot
be shown, then the usual rendering. -/
def shown (g : State) (d : Direction) (f : Frame) (P : Bytes) : Bytes :=
  match Message.parse P with
  | .error e => fallback f (.grpc e.message)
  | .ok m =>
    let data : Except MessageError Bytes :=
      if m.compressed = 0 then .ok m.data
      else (g.encodingOf d f.streamId).decode g.maxInflated m.data
    match data with
    | .error e => fallback f (.grpc e.message)
    | .ok data =>
      let fields : Except Protobuf.Malformed String :=
        if data = [] then .ok "" else Protobuf.inspect data
      match fields with
      | .error e => fallback f (.inspect e.message)
      | .ok fields => Bytes.ofString (messageText f m fields)

theorem shown_of_length_off_by_one (g : State) (d : Direction) (f : Frame)
    (flag l₀ l₁ l₂ l₃ : UInt8) (data : Bytes) :
    (data.length + 1 = Bytes.beNat [l₀, l₁, l₂, l₃] →
      shown g d f (flag :: l₀ :: l₁ :: l₂ :: l₃ :: data) =
        fallback f (.grpc MessageError.lengthMismatch.message)) ∧
    (data.length = Bytes.beNat [l₀, l₁, l₂, l₃] + 1 →
      shown g d f (flag :: l₀ :: l₁ :: l₂ :: l₃ :: data) =
        fallback f (.grpc MessageError.overlong.message)) := by
  constructor
  · intro hshort
    rw [shown, Message.parse_prefixed, if_pos (by omega)]
  · intro hlong
    rw [shown, Message.parse_prefixed, if_neg (by omega), if_pos (by omega)]

theorem renderMessage_shown (g : State) (d : Direction) (f : Frame) (P : Bytes) :
    (match renderMessage g d f P with
      | .ok text => Bytes.ofString text
      | .error e => fallback f e) = shown g d f P := by
  cases hp : Message.parse P with
  | error e => simp [renderMessage, shown, hp, Except.mapError, bind, Except.bind]
  | ok m =>
    by_cases hc : m.compressed = 0
    · by_cases he : m.data = []
      · simp [renderMessage, shown, hp, hc, he, messageText, Except.mapError, bind,
          Except.bind, pure, Except.pure]
      · cases hi : Protobuf.inspect m.data <;>
          simp [renderMessage, shown, hp, hc, he, hi, messageText, Except.mapError, bind,
            Except.bind, pure, Except.pure, List.isEmpty_iff]
    · have hflag : (m.compressed != 0) = true := by simp [hc]
      cases hdec : (g.encodingOf d f.streamId).decode g.maxInflated m.data with
      | error e =>
        simp [renderMessage, shown, hp, hflag, hc, hdec, Except.mapError, bind, Except.bind]
      | ok data =>
        by_cases he : data = []
        · simp [renderMessage, shown, hp, hflag, hc, hdec, he, messageText, Except.mapError, bind,
            Except.bind, pure, Except.pure]
        · cases hi : Protobuf.inspect data <;>
            simp [renderMessage, shown, hp, hflag, hc, hdec, he, hi, messageText, Except.mapError,
              bind, Except.bind, pure, Except.pure, List.isEmpty_iff]

theorem exec_frame_of_data {g : State} {d : Direction} {f : Frame} {P : Bytes}
    (hdata : f.body = .data P) (hne : P ≠ []) (hgrpc : g.isGrpc d f.streamId = true) :
    exec (extension.frame d f) g = (.ok (some (shown g d f P)), g) := by
  dsimp only [extension]
  rw [← renderMessage_shown]
  split
  · rename_i P' hP'
    have hP : P' = P := by
      rw [hdata] at hP'
      exact (Body.data.inj hP').symm
    subst hP
    have hshow : (P'.isEmpty || !g.isGrpc d f.streamId) = false := by
      simp [hgrpc, hne]
    rw [exec_bind, exec_get]
    dsimp only
    simp only [hshow, Bool.false_eq_true, if_false]
    cases renderMessage g d f P' <;> rfl
  · rename_i hnot
    exact absurd hdata (hnot P)

end Dissect.Grpc

namespace Dissect.Http2.Session

open Dissecting Grpc

theorem exec_applySettings_of_data {σ : Type} (d : Direction) {f : Frame} {P : Bytes}
    (hdata : f.body = .data P) (s : Session σ) : exec (applySettings d f) s = (.ok ⟨⟩, s) := by
  have hnone : f.setting? maxFrameSizeSetting = none := by simp [Frame.setting?, hdata]
  have hid : settingsBuffers d f = id := by
    funext bufs
    unfold settingsBuffers
    split <;> simp [hnone]
  rw [exec_applySettings, hid, Option.map_id]
  rfl

theorem frameChunk_grpc_data (s : Session State) (d : Direction) (h : FrameHeader) (payload : Bytes)
    {f : Frame} {P : Bytes} (hf : Frame.parse h payload = .ok f) (hdata : f.body = .data P)
    (hne : P ≠ []) (hlatched : s.ext.latched.get d = true) :
    exec (frameChunk extension d h payload) s = (.ok ⟨d, shown s.ext d f P ++ [10]⟩, s) ∧
      ((∃ m, Message.parse P = .ok m) ↔
        prefixSize ≤ P.length ∧ P.length - prefixSize = Bytes.beNat ((P.drop 1).take 4)) ∧
      ∀ flag l₀ l₁ l₂ l₃ data, P = flag :: l₀ :: l₁ :: l₂ :: l₃ :: data →
        (data.length + 1 = Bytes.beNat [l₀, l₁, l₂, l₃] →
          shown s.ext d f P = fallback f (.grpc MessageError.lengthMismatch.message)) ∧
        (data.length = Bytes.beNat [l₀, l₁, l₂, l₃] + 1 →
          shown s.ext d f P = fallback f (.grpc MessageError.overlong.message)) := by
  have hgrpc : s.ext.isGrpc d f.streamId = true := by
    rw [State.isGrpc_eq, hlatched, Bool.true_or]
  have hrender : exec (renderFrame extension d f) s = (.ok (shown s.ext d f P), s) := by
    unfold renderFrame
    rw [exec_bind, exec_lift, exec_frame_of_data hdata hne hgrpc]
    rfl
  refine ⟨?_, Message.parse_ok_iff P, fun flag l₀ l₁ l₂ l₃ data hP => ?_⟩
  · unfold frameChunk
    rw [Dissecting.recovering, exec_tryCatch]
    simp only [hf, pure_bind]
    rw [exec_bind, exec_applySettings_of_data d hdata]
    dsimp only
    rw [exec_bind, hrender]
    rfl
  · subst hP
    exact shown_of_length_off_by_one s.ext d f flag l₀ l₁ l₂ l₃ data

/-- A message one octet short of its declared length is shown, in one chunk, with its reason. -/
theorem frameChunk_grpc_data_short :
    let s : Session State :=
      { ext := { latched := Sides.both true, maxInflated := 64 }, maxFrameSize := 16384,
        maxInflated := 64 }
    let P : Bytes := [0, 0, 0, 0, 2, 8]
    let f : Frame := ⟨0, 1, .data P⟩
    Frame.parse ⟨6, 0, 0, 1⟩ P = .ok f ∧ P ≠ [] ∧ s.ext.latched.get .client = true ∧
      exec (frameChunk extension .client ⟨6, 0, 0, 1⟩ P) s =
        (.ok ⟨.client, fallback f
          (.grpc "Message length does not match the length of the message data") ++ [10]⟩, s) := by
  intro s P f
  have hf : Frame.parse ⟨6, 0, 0, 1⟩ P = .ok f := rfl
  obtain ⟨hchunk, -, hoff⟩ := frameChunk_grpc_data s .client ⟨6, 0, 0, 1⟩ P hf rfl (by simp [P]) rfl
  refine ⟨hf, by simp [P], rfl, ?_⟩
  rw [hchunk, (hoff 0 0 0 0 2 [8] rfl).1 rfl]
  rfl

end Dissect.Http2.Session
