import Mathlib
import Dissect.Proofs.Text.Base64
import Dissect.Proofs.Http2.FrameCodec
import Dissect.Proofs.Http2.Lanes
import Dissect.Proofs.Http2.Layering
import Dissect.Proofs.Http1.ChunkForChunk
import Dissect.Grpc.Layer
import Dissect.WebSocket.Layer

/-!
# Upgrading to h2c

An HTTP/1 request that asks for h2c is answered with itself and the SETTINGS frame its
`HTTP2-Settings` header stands for, in URL-safe Base64 with or without padding; the frame
buffers are made and the client's frame size bounds the server's frames.
-/

set_option autoImplicit false

namespace Dissect

open Dissecting

namespace Text

theorem trim_of_forall_not_blank {s : String} (h : ∀ c ∈ s.toList, isBlank c = false) :
    trim s = s := by
  have hfront : s.toList.dropWhile isBlank = s.toList :=
    List.dropWhile_eq_self_iff.2 fun hl => by
      simp only [h _ (List.getElem_mem hl), Bool.false_eq_true, not_false_eq_true]
  have hback : s.toList.reverse.dropWhile isBlank = s.toList.reverse :=
    List.dropWhile_eq_self_iff.2 fun hl => by
      simp only [h _ (List.mem_reverse.1 (List.getElem_mem hl)), Bool.false_eq_true,
        not_false_eq_true]
  rw [trim, hfront, hback, List.reverse_reverse, String.ofList_toList]

end Text

namespace Http1.Headers

theorem valueIs_websocket_of_h2c {h : Http1.Headers} {name : String}
    (hh2c : h.valueIs name "h2c" = true) : h.valueIs name "websocket" = false := by
  unfold valueIs at hh2c ⊢
  rcases hv : h.get? name with _ | v
  · rfl
  · rw [hv] at hh2c
    simp only [Text.eqIgnoreAsciiCase, beq_iff_eq] at hh2c ⊢
    rw [hh2c]
    decide

end Http1.Headers

namespace Http2

variable {σ : Type}

/-- A protocol on top leaves an h2c upgrade to HTTP/2 in state `e`: it takes over no chunk before
HTTP/2 reads it, no upgrade request, and no rendering of a SETTINGS frame the client sends on the
connection, and changes nothing while declining. -/
structure Extension.LeavesUpgrade (x : Extension σ) (e : σ) : Prop where
  rawChunk : ∀ c, exec (x.rawChunk c) e = (.ok none, e)
  request : ∀ c r, Session.isUpgrade r.headers = true → exec (x.request c r) e = (.ok none, e)
  settings : ∀ values, exec (x.frame .client ⟨0, 0, .settings values⟩) e = (.ok none, e)

end Http2

namespace Http2.Session

open Base64

theorem dropPadding_trim_encodeUrl (bs : Bytes) (pad : Nat) :
    dropPadding (Text.trim (encodeUrl bs ++ String.ofList (List.replicate pad '='))) =
      encodeUrl bs := by
  have hsym : ∀ c ∈ (sextets bs).map urlSymbol, Text.isBlank c = false ∧ c ≠ '=' := by
    intro c hc
    obtain ⟨v, hv, rfl⟩ := List.mem_map.1 hc
    exact ⟨isBlank_urlSymbol (sextets_lt bs v hv), urlSymbol_ne_pad (sextets_lt bs v hv)⟩
  have htrim : Text.trim (encodeUrl bs ++ String.ofList (List.replicate pad '=')) =
      encodeUrl bs ++ String.ofList (List.replicate pad '=') := by
    refine Text.trim_of_forall_not_blank fun c hc => ?_
    rw [encodeUrl, String.toList_append, String.toList_ofList, String.toList_ofList,
      List.mem_append] at hc
    rcases hc with hc | hc
    · exact (hsym c hc).1
    · rw [List.eq_of_mem_replicate hc]
      decide
  -- the last symbol is no `=`, so only the padding is dropped
  have hlast : ((sextets bs).map urlSymbol).reverse.dropWhile (· == '=') =
      ((sextets bs).map urlSymbol).reverse :=
    List.dropWhile_eq_self_iff.2 fun hl => by
      simpa using (hsym _ (List.mem_reverse.1 (List.getElem_mem hl))).2
  rw [htrim, dropPadding, encodeUrl, String.toList_append, String.toList_ofList,
    String.toList_ofList, List.reverse_append, List.reverse_replicate, List.dropWhile_append,
    List.dropWhile_replicate]
  simp [hlast]

variable {σ : Type}

theorem parse_settingsPayload {E : List (Nat × Nat)} (hE : ∀ e ∈ E, e.1 < 2 ^ 16 ∧ e.2 < 2 ^ 32) :
    Frame.parse ⟨(settingsPayload E).length, settingsKind, 0, 0⟩ (settingsPayload E) =
      .ok ⟨0, 0, .settings E⟩ := by
  have hack : hasFlag 0 ack = false := by decide
  have hbody := Frame.parseBody_wirePayload (f := ⟨0, 0, .settings E⟩)
    ⟨rfl, fun h => absurd (hack.symm.trans h) Bool.false_ne_true, hE⟩
  have hflags : (⟨0, 0, .settings E⟩ : Frame).wireFlags = 0 := by
    simp only [Frame.wireFlags]
    decide
  rw [hflags] at hbody
  exact Frame.parse_of_parseBody hbody

theorem settingsText_connection (x : Extension σ) (E : List (Nat × Nat)) :
    settingsText x ⟨0, 0, .settings E⟩ E = "SettingsFrame(stream_id=0, flags=[]):\n" ++
      String.join (E.map fun e => (x.settingName e.1).getD (toString e.1) ++ ": " ++
        toString e.2 ++ "\n") := by
  have hflags : (⟨0, 0, .settings E⟩ : Frame).flagNames = [] := by
    simp only [Frame.flagNames, Frame.definedFlags, Frame.has]
    decide
  rw [settingsText, hflags]
  dsimp only [Frame.typeName]
  congr 2

theorem exec_ensureBuffers (s : Session σ) :
    exec (ensureBuffers : Dissecting (Session σ) Unit) s =
      (.ok (), { s with buffers := some (s.buffers.getD
        ⟨FrameBuffer.forClient s.maxFrameSize, FrameBuffer.forServer s.maxFrameSize⟩) }) := by
  rcases s with ⟨ext, active, _ | bufs, tables, openBlock, maxFrameSize, maxInflated⟩ <;> rfl

theorem exec_applySettings_client (s : Session σ) (bufs : Sides FrameBuffer)
    (E : List (Nat × Nat)) :
    exec (applySettings .client ⟨0, 0, .settings E⟩ : Dissecting (Session σ) Unit)
        { s with buffers := some bufs } =
      (.ok (), { s with buffers := some { bufs with server :=
        ((E.reverse.find? (·.1 == maxFrameSizeSetting)).map fun e =>
          { bufs.server with maxFrameSize := Config.clampFrameSize e.2 }).getD bufs.server } }) := by
  have hack : (⟨0, 0, .settings E⟩ : Frame).has ack = false := by
    simp only [Frame.has]
    decide
  rcases hfind : E.reverse.find? (·.1 == maxFrameSizeSetting) with _ | e
  · simp [applySettings, hack, Frame.setting?, hfind]
  · simp [applySettings, hack, Frame.setting?, hfind, Sides.modify, Sides.set, Sides.get,
      FrameBuffer.setMaxFrameSize, Direction.opposite]

variable {x : Extension σ} {s : Session σ}

theorem exec_renderFrame_settings {e : σ} (hx : x.LeavesUpgrade e) (E : List (Nat × Nat))
    {t : Session σ} (ht : t.ext = e) :
    exec (renderFrame x .client ⟨0, 0, .settings E⟩) t =
      (.ok (Bytes.ofString (settingsText x ⟨0, 0, .settings E⟩ E)), t) := by
  subst ht
  unfold renderFrame
  rw [exec_bind, exec_lift, hx.settings E]
  rfl

theorem exec_upgradeSettings_encodeUrl (hx : x.LeavesUpgrade s.ext) (bufs : Sides FrameBuffer)
    {E : List (Nat × Nat)} (hE : ∀ e ∈ E, e.1 < 2 ^ 16 ∧ e.2 < 2 ^ 32) (pad : Nat) :
    exec (upgradeSettings x (encodeUrl (settingsPayload E) ++
        String.ofList (List.replicate pad '='))) { s with buffers := some bufs } =
      (.ok ⟨.client, Bytes.ofString (settingsText x ⟨0, 0, .settings E⟩ E) ++ [10]⟩,
        { s with buffers := some { bufs with server :=
          ((E.reverse.find? (·.1 == maxFrameSizeSetting)).map fun e =>
            { bufs.server with maxFrameSize := Config.clampFrameSize e.2 }).getD bufs.server } }) := by
  unfold upgradeSettings
  rw [dropPadding_trim_encodeUrl, decodeUrlSafe_encodeUrl]
  simp only [parse_settingsPayload hE, pure_bind]
  rw [exec_bind, exec_applySettings_client]
  dsimp only
  rw [exec_bind, exec_renderFrame_settings hx E]
  · rfl
  · rfl

theorem exec_upgradeSettings_of_error {t : Session σ} {encoded : String} {err : DecodeError}
    (hdec : decodeUrlSafe (Bytes.ofString (dropPadding (Text.trim encoded))) = .error err) :
    exec (upgradeSettings x encoded) t =
      (.error (.frame ("Invalid HTTP2-Settings header: " ++ err.message)), t) := by
  unfold upgradeSettings
  rw [hdec, exec_bind]
  rfl

theorem exec_hooks_rawChunk {c : Chunk} (hraw : exec (x.rawChunk c) s.ext = (.ok none, s.ext))
    (hact : s.active = false) (hpre : c.direction = .client → ¬ preface <+: c.content) :
    exec (x.hooks.rawChunk c) s = (.ok none, s) := by
  have hno : (c.direction == .client && preface.isPrefixOf c.content) = false := by
    cases hd : c.direction
    · rw [beq_self_eq_true, Bool.true_and, Bool.eq_false_iff, Ne, List.isPrefixOf_iff_prefix]
      exact hpre hd
    · rfl
  rcases s with ⟨ext, active, buffers, tables, openBlock, maxFrameSize, maxInflated⟩
  subst hact
  simp only [Extension.hooks]
  rw [exec_bind, exec_lift, hraw]
  dsimp only
  rw [exec_bind, exec_get]
  simp only [hno, Bool.false_eq_true, if_false]
  rfl

theorem exec_hooks_request_upgrade {c : Chunk} {r : Http1.Request} (hx : x.LeavesUpgrade s.ext)
    (hup : isUpgrade r.headers = true) :
    exec (x.hooks.request c r) s =
      exec (match r.headers.get? "http2-settings" with
        | some settings => do return [c, ← upgradeSettings x settings]
        | none => return [c])
        { s with buffers := some (s.buffers.getD
          ⟨FrameBuffer.forClient s.maxFrameSize, FrameBuffer.forServer s.maxFrameSize⟩) } := by
  simp only [Extension.hooks]
  rw [exec_bind, exec_lift, hx.request c r hup]
  dsimp only
  simp only [hup, if_true]
  exact exec_bind_of_ok (exec_ensureBuffers s)

end Http2.Session

namespace Http2

open Session Base64

variable {σ : Type}

def Session.ReadsAs (s : Session σ) (c : Chunk) (r : Http1.Request) : Prop :=
  c.direction = .client ∧ s.active = false ∧ ¬ preface <+: c.content ∧
    Http1.Request.parse c.content = .ok r

theorem Extension.leavesUpgrade_plain : Extension.plain.LeavesUpgrade () :=
  ⟨fun _ => rfl, fun _ _ _ => rfl, fun _ => rfl⟩

/-- An h2c upgrade request that the protocol on top leaves to HTTP/2. When its `HTTP2-Settings`
header is the URL-safe Base64 of SETTINGS entries `E`, with or without `=` padding, the request is
answered by itself and then one client chunk: the frame's summary, a line `name: value` per entry
of `E` in order, and a line feed. The frame buffers are made if there were none, and the server's
bound is the last MAX_FRAME_SIZE entry of `E`, clamped. When the header is not URL-safe Base64,
the request is an issue: its chunk is answered by a diagnostic alone, and the buffers are made all
the same. -/
theorem Extension.upgradeRequest_settings (x : Extension σ) {s : Session σ} (c : Chunk)
    {r : Http1.Request} (hx : x.LeavesUpgrade s.ext) (hup : isUpgrade r.headers = true) :
    let prior := s.buffers.getD
      ⟨FrameBuffer.forClient s.maxFrameSize, FrameBuffer.forServer s.maxFrameSize⟩
    (∀ (E : List (Nat × Nat)) (pad : Nat), (∀ e ∈ E, e.1 < 2 ^ 16 ∧ e.2 < 2 ^ 32) →
      r.headers.get? "http2-settings" =
        some (encodeUrl (settingsPayload E) ++ String.ofList (List.replicate pad '=')) →
      let answer : List Chunk := [c, ⟨.client, Bytes.ofString
        ("SettingsFrame(stream_id=0, flags=[]):\n" ++ String.join (E.map fun e =>
          (x.settingName e.1).getD (toString e.1) ++ ": " ++ toString e.2 ++ "\n")) ++ [10]⟩]
      let after : Session σ := { s with buffers := some { prior with server :=
        ((E.reverse.find? (·.1 == maxFrameSizeSetting)).map fun e =>
          { prior.server with maxFrameSize := Config.clampFrameSize e.2 }).getD prior.server } }
      exec (x.hooks.request c r) s = (.ok answer, after) ∧
        (s.ReadsAs c r → exec (x.hooks.chunk c) s = (.ok answer, after))) ∧
    (∀ (encoded : String) (err : DecodeError), r.headers.get? "http2-settings" = some encoded →
      decodeUrlSafe (Bytes.ofString (dropPadding (Text.trim encoded))) = .error err →
      exec (x.hooks.request c r) s =
          (.error (.frame ("Invalid HTTP2-Settings header: " ++ err.message)),
            { s with buffers := some prior }) ∧
        (s.ReadsAs c r → exec (x.hooks.chunk c) s =
          (.ok [Chunk.text .client
              ("Unable to parse HTTP request: Invalid HTTP2-Settings header: " ++ err.message)],
            { s with buffers := some prior }))) := by
  intro prior
  have hanswer : s.ReadsAs c r → exec (x.hooks.answer c) s = exec (x.hooks.request c r) s :=
    by
      rintro ⟨hd, hact, hpre, hr⟩
      exact Http1.Hooks.exec_answer_of_request _
        (exec_hooks_rawChunk (hx.rawChunk c) hact fun _ => hpre) hd hr
  refine ⟨fun E pad hE hget => ?_, fun encoded err hget hdec => ?_⟩
  · have hreq := exec_hooks_request_upgrade (c := c) hx hup
    rw [hget, exec_bind, exec_upgradeSettings_encodeUrl hx prior hE pad,
      settingsText_connection] at hreq
    exact ⟨hreq, fun hc => Http1.Hooks.exec_chunk_of_ok _ ((hanswer hc).trans hreq)⟩
  · have hreq := exec_hooks_request_upgrade (c := c) hx hup
    rw [hget, exec_bind, exec_upgradeSettings_of_error hdec] at hreq
    refine ⟨hreq, fun hc => ?_⟩
    have hprefix : "Unable to parse HTTP request: " ++ "Invalid HTTP2-Settings header: " =
        "Unable to parse HTTP request: Invalid HTTP2-Settings header: " := by
      decide
    have hdiag := Http1.diagnostic_request ("Invalid HTTP2-Settings header: " ++ err.message)
    rw [← String.append_assoc, hprefix] at hdiag
    rw [Http1.Hooks.exec_chunk_of_error _ ((hanswer hc).trans hreq) rfl, hc.1]
    exact congrArg (fun t => (Except.ok [Chunk.text .client t], _)) hdiag

/-- An upgrade request whose settings, in URL-safe Base64 with one `=`, set the largest frame size
to 20000: plain HTTP/2 answers it with itself and the SETTINGS frame, and bounds the server's
frames by 20000. -/
theorem upgradeRequest_settings_maxFrameSize :
    let headers : Http1.Headers := ⟨[("Connection", "Upgrade"), ("Upgrade", "h2c"),
      ("HTTP2-Settings", encodeUrl (settingsPayload [(5, 20000)]) ++
        String.ofList (List.replicate 1 '='))]⟩
    let s : Session Unit := { ext := (), maxFrameSize := 16384, maxInflated := 65536 }
    isUpgrade headers = true ∧
      exec (Extension.plain.hooks.request ⟨.client, []⟩ ⟨"GET", "/", "HTTP/1.1", headers, []⟩) s =
        (.ok [⟨.client, []⟩, ⟨.client, Bytes.ofString
          ("SettingsFrame(stream_id=0, flags=[]):\n" ++ "MAX_FRAME_SIZE: 20000\n") ++ [10]⟩],
          { s with buffers := some ⟨FrameBuffer.forClient 16384,
            { FrameBuffer.forServer 16384 with maxFrameSize := 20000 }⟩ }) := by
  intro headers s
  have hup : isUpgrade headers = true := by decide
  have hget : headers.get? "http2-settings" = some (encodeUrl (settingsPayload [(5, 20000)]) ++
      String.ofList (List.replicate 1 '=')) := by
    have h1 : Text.eqIgnoreAsciiCase "Connection" "http2-settings" = false := by decide
    have h2 : Text.eqIgnoreAsciiCase "Upgrade" "http2-settings" = false := by decide
    have h3 : Text.eqIgnoreAsciiCase "HTTP2-Settings" "http2-settings" = true := by decide
    simp [headers, Http1.Headers.get?, h1, h2, h3]
  have hline : String.join ([(5, 20000)].map fun (e : Nat × Nat) =>
      (Extension.plain.settingName e.1).getD (toString e.1) ++ ": " ++ toString e.2 ++ "\n") =
      "MAX_FRAME_SIZE: 20000\n" := by
    decide
  have h := ((Extension.upgradeRequest_settings Extension.plain (s := s) ⟨.client, []⟩
    (r := ⟨"GET", "/", "HTTP/1.1", headers, []⟩) Extension.leavesUpgrade_plain hup).1
      [(5, 20000)] 1 (by decide) hget).1
  rw [hline] at h
  exact ⟨hup, h⟩

end Http2

open Http2

theorem Grpc.leavesUpgrade (g : Grpc.State) : Grpc.extension.LeavesUpgrade g :=
  ⟨fun _ => rfl, fun _ _ _ => rfl, fun _ => rfl⟩

theorem WebSocket.leavesUpgrade {w : WebSocket.State} (hw : w.switched = false) :
    WebSocket.extension.LeavesUpgrade w where
  rawChunk c := by
    dsimp only [WebSocket.extension]
    rw [exec_bind, exec_get]
    simp only [hw, Bool.not_false, if_true]
    rfl
  request c r hup := by
    have hh : WebSocket.isHandshake r.headers = false := by
      simp only [Http2.Session.isUpgrade, Bool.and_eq_true] at hup
      simp [WebSocket.isHandshake, Http1.Headers.valueIs_websocket_of_h2c hup.2]
    dsimp only [WebSocket.extension]
    simp only [hh, Bool.not_false, if_true]
    rfl
  settings _ := rfl

end Dissect
