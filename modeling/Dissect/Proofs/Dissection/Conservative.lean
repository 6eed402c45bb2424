import Mathlib
import Dissect.Proofs.Dissection.Simulation
import Dissect.Proofs.Http2.Layering
import Dissect.Proofs.Grpc.Lanes
import Dissect.Proofs.Http1.Plain

/-!
# Layers that change nothing until they are called for

Each protocol on top of HTTP/1 takes over only once something in the conversation calls for it.
HTTP/2 waits for the client's connection preface or for an `Upgrade: h2c` exchange; until then it
answers every chunk as plain HTTP/1 does, with the same bound on decoded bodies. So on a
conversation that never calls for it, the HTTP/2 dissector gives what the plain HTTP dissector
gives once the client is put first (`Dissector.transform_http2_eq_http`).
-/

set_option autoImplicit false

namespace Dissect

open Dissecting

namespace Http2.Session

variable {s : Session Unit} {c : Chunk}

/-! ## HTTP/2 before it takes over -/

theorem exec_plain_rawChunk (hact : s.active = false)
    (hpre : c.direction = .client → ¬ preface <+: c.content) :
    exec (Extension.plain.hooks.rawChunk c) s = (.ok none, s) := by
  have hno : (c.direction == .client && preface.isPrefixOf c.content) = false := by
    cases hd : c.direction
    · simp only [beq_self_eq_true, Bool.true_and]
      rw [Bool.eq_false_iff, Ne, List.isPrefixOf_iff_prefix]
      exact hpre hd
    · rfl
  simp only [Extension.hooks, Extension.plain]
  rw [exec_bind, exec_lift_pure]
  dsimp only
  rw [exec_bind, exec_get]
  simp only [hact, hno, Bool.false_eq_true, if_false]
  rfl

theorem exec_plain_request {r : Http1.Request} (hup : isUpgrade r.headers = false) :
    exec (Extension.plain.hooks.request c r) s = (.ok [c], s) := by
  simp only [Extension.hooks, Extension.plain]
  rw [exec_bind, exec_lift_pure]
  simp only [hup, Bool.false_eq_true, if_false]
  rfl

theorem exec_plain_response {r : Http1.Response} (hup : isUpgrade r.headers = false) :
    exec (Extension.plain.hooks.response c r) s =
      (.ok [Http1.Response.renderChunk c.direction r s.maxInflated], s) := by
  simp only [Extension.hooks, Extension.plain]
  rw [exec_bind, exec_lift_pure]
  simp only [hup, Bool.false_eq_true, if_false]
  rfl

def Unswitched (limit : Nat) (s : Session Unit) (_ : Unit) : Prop :=
  s.active = false ∧ s.maxInflated = limit

theorem sim_plain_chunk (limit : Nat) (hpre : c.direction = .client → ¬ preface <+: c.content)
    (hreq : c.direction = .client → ∀ r, Http1.Request.parse c.content = .ok r →
      isUpgrade r.headers = false)
    (hresp : c.direction = .server → ∀ r, Http1.Response.parse c.content = .ok r →
      isUpgrade r.headers = false) :
    Sim (Unswitched limit) (fun _ => True) (Extension.plain.hooks.chunk c)
      ((Http1.plainHooks limit).chunk c) := by
  refine Http1.Hooks.sim_chunk (Http1.Hooks.sim_answer ?_ ?_ ?_ (fun _ => keep_neverGains_true _)
    fun _ => keep_neverGains_true _)
  · intro s t hst
    exact simAt_of_exec (exec_plain_rawChunk hst.1 hpre) rfl hst
  · intro hd r hr s t hst
    exact simAt_of_exec (exec_plain_request (hreq hd r hr)) rfl hst
  · intro hd r hr s t hst
    -- the plain hooks bound decoded bodies by `limit`, which is the session's bound
    obtain ⟨hact, rfl⟩ := hst
    exact simAt_of_exec (exec_plain_response (hresp hd r hr)) rfl ⟨hact, rfl⟩

end Http2.Session

theorem Dissector.transform_http2_eq_http (config : Config) (chunks : List Chunk)
    (hpre : ∀ c ∈ chunks, c.direction = .client → ¬ Http2.preface <+: c.content)
    (hreq : ∀ c ∈ chunks, c.direction = .client → ∀ r, Http1.Request.parse c.content = .ok r →
      Http2.Session.isUpgrade r.headers = false)
    (hresp : ∀ c ∈ chunks, c.direction = .server → ∀ r, Http1.Response.parse c.content = .ok r →
      Http2.Session.isUpgrade r.headers = false) :
    Dissector.http2.transform config chunks = Dissector.http.transform config (clientFirst chunks) := by
  have hmem : ∀ c ∈ clientFirst chunks, c ∈ chunks := fun c hc =>
    (clientFirst_perm chunks).mem_iff.1 hc
  have hsim := Http1.Hooks.sim_dissect (fun _ => keep_neverGains_true _) (clientFirst chunks)
    fun c hc => Http2.Session.sim_plain_chunk config.normalize.maxInflatedSize
      (hpre c (hmem c hc)) (hreq c (hmem c hc)) (hresp c (hmem c hc))
  exact hsim.evaluate_eq ⟨rfl, rfl⟩ trivial

/-- A conversation the server opens, with a request and a response that both read as HTTP/1 and
keep the connection alive instead of asking for h2c: HTTP/2 answers it as plain HTTP does once
the client is put first. -/
theorem transform_http2_eq_http_keepAlive :
    let request := Bytes.ofString "GET / HTTP/1.1\r\nHost: a\r\nConnection: keep-alive\r\n\r\n"
    let response := Bytes.ofString
      "HTTP/1.1 200 OK\r\nConnection: keep-alive\r\nContent-Length: 2\r\n\r\nhi"
    let chunks : List Chunk := [⟨.server, response⟩, ⟨.client, request⟩]
    (Http1.Request.parse request).toOption =
        some ⟨"GET", "/", "HTTP/1.1", ⟨[("Host", "a"), ("Connection", "keep-alive")]⟩, []⟩ ∧
      (Http1.Response.parse response).toOption.map (fun r => (r.status, r.headers)) =
        some (200, ⟨[("Connection", "keep-alive"), ("Content-Length", "2")]⟩) ∧
      (∀ c ∈ chunks, c.direction = .client → ¬ Http2.preface <+: c.content) ∧
      (∀ c ∈ chunks, c.direction = .client → ∀ r, Http1.Request.parse c.content = .ok r →
        Http2.Session.isUpgrade r.headers = false) ∧
      (∀ c ∈ chunks, c.direction = .server → ∀ r, Http1.Response.parse c.content = .ok r →
        Http2.Session.isUpgrade r.headers = false) ∧
      Dissector.http2.transform {} chunks = Dissector.http.transform {} (clientFirst chunks) := by
  intro request response chunks
  obtain ⟨hrequest, hresponse, hkeep, hkeep', hpre⟩ :
      (Http1.Request.parse request).toOption =
          some ⟨"GET", "/", "HTTP/1.1", ⟨[("Host", "a"), ("Connection", "keep-alive")]⟩, []⟩ ∧
        (Http1.Response.parse response).toOption.map (fun r => (r.status, r.headers)) =
          some (200, ⟨[("Connection", "keep-alive"), ("Content-Length", "2")]⟩) ∧
        Http2.Session.isUpgrade ⟨[("Host", "a"), ("Connection", "keep-alive")]⟩ = false ∧
        Http2.Session.isUpgrade ⟨[("Connection", "keep-alive"), ("Content-Length", "2")]⟩ = false ∧
        ¬ Http2.preface <+: request := by
    decide +kernel
  have hclient : ∀ c ∈ chunks, c.direction = .client → c = ⟨.client, request⟩ := by
    intro c hc hd
    simp only [chunks, List.mem_cons, List.not_mem_nil, or_false] at hc
    rcases hc with rfl | rfl
    · cases hd
    · rfl
  have hserver : ∀ c ∈ chunks, c.direction = .server → c = ⟨.server, response⟩ := by
    intro c hc hd
    simp only [chunks, List.mem_cons, List.not_mem_nil, or_false] at hc
    rcases hc with rfl | rfl
    · rfl
    · cases hd
  have hpre' : ∀ c ∈ chunks, c.direction = .client → ¬ Http2.preface <+: c.content := by
    intro c hc hd
    rw [hclient c hc hd]
    exact hpre
  have hreq : ∀ c ∈ chunks, c.direction = .client → ∀ r, Http1.Request.parse c.content = .ok r →
      Http2.Session.isUpgrade r.headers = false := by
    intro c hc hd r hr
    rw [hclient c hc hd] at hr
    rw [hr] at hrequest
    cases hrequest
    exact hkeep
  have hresp : ∀ c ∈ chunks, c.direction = .server → ∀ r, Http1.Response.parse c.content = .ok r →
      Http2.Session.isUpgrade r.headers = false := by
    intro c hc hd r hr
    rw [hserver c hc hd] at hr
    rw [hr] at hresponse
    have hheaders : r.headers = ⟨[("Connection", "keep-alive"), ("Content-Length", "2")]⟩ :=
      congrArg Prod.snd (Option.some.inj hresponse)
    rw [hheaders]
    exact hkeep'
  exact ⟨hrequest, hresponse, hpre', hreq, hresp,
    Dissector.transform_http2_eq_http {} chunks hpre' hreq hresp⟩

/-! ## What HTTP/2 hands the protocol on top -/

namespace Http2

/-- A request or response read as HTTP/1, a decoded header list, or a frame about to be rendered:
what the HTTP/2 layer hands the protocol on top. -/
inductive Event where
  | request (c : Chunk) (r : Http1.Request)
  | response (c : Chunk) (r : Http1.Response)
  | headers (d : Direction) (f : Frame) (hs : HeaderList)
  | frame (d : Direction) (f : Frame)
  deriving DecidableEq

/-- Plain HTTP/2 that writes down every event it hands the protocol on top. -/
def Extension.recording : Extension (List Event) where
  settingName := baseSettingName
  rawChunk _ := pure none
  request c r := do modify (· ++ [.request c r]); pure none
  response c r := do modify (· ++ [.response c r]); pure none
  headers d f hs := modify (· ++ [.headers d f hs])
  frame d f := do modify (· ++ [.frame d f]); pure none

/-- The events of dissecting a conversation with HTTP/2, in order. -/
def events (config : Config) (chunks : List Chunk) : List Event :=
  (exec (Extension.recording.hooks.dissect (clientFirst chunks))
    { ext := [], maxFrameSize := config.normalize.maxFrameSize,
      maxInflated := config.normalize.maxInflatedSize }).2.ext

theorem keep_record (G : Event → Prop) (e : Event) :
    Keep (NeverGains fun l : List Event => ∀ e ∈ l, G e) (modify (· ++ [e])) :=
  fun _ _ hu hok => hu fun e' he' => hok e' (List.mem_append_left _ he')

theorem Extension.recording_keeps (G : Event → Prop) :
    Extension.recording.Keeps (NeverGains fun l : List Event => ∀ e ∈ l, G e) where
  rawChunk _ := keep_pure _
  request _ _ := Keep.bind (keep_record G _) fun _ => keep_pure _
  response _ _ := Keep.bind (keep_record G _) fun _ => keep_pure _
  headers _ _ _ := keep_record G _
  frame _ _ := Keep.bind (keep_record G _) fun _ => keep_pure _

theorem Extension.recording_follows_plain :
    Extension.recording.Follows Extension.plain (fun _ _ => True) fun _ => True where
  keeps := ⟨fun _ => keep_neverGains_true _, fun _ _ => keep_neverGains_true _,
    fun _ _ => keep_neverGains_true _, fun _ _ _ => keep_neverGains_true _,
    fun _ _ => keep_neverGains_true _⟩
  rawChunk _ _ _ h := simAt_pure _ h
  request _ _ _ _ _ := simAt_of_exec rfl rfl trivial
  response _ _ _ _ _ := simAt_of_exec rfl rfl trivial
  headers _ _ _ _ _ _ := simAt_of_exec rfl rfl trivial
  frame _ _ _ _ _ := simAt_of_exec rfl rfl trivial
  settingName _ _ _ _ _ _ _ _ := rfl

theorem mem_record (l : List Event) (e : Event) : e ∈ l ++ [e] :=
  List.mem_append_right _ (List.mem_singleton_self e)

/-- A frame has no SETTINGS entry of an identifier exactly when it reports no value for it. -/
theorem Frame.setting?_eq_none_iff (f : Frame) (id : Nat) :
    f.setting? id = none ↔ ∀ values, f.body = .settings values → ∀ p ∈ values, p.1 ≠ id := by
  rcases f with ⟨flags, streamId, body⟩
  cases body with
  | settings values =>
    simp only [Frame.setting?, Option.map_eq_none_iff, List.find?_eq_none, List.mem_reverse,
      beq_iff_eq, Body.settings.injEq, forall_eq']
  | _ => simp [Frame.setting?]

end Http2

/-! ## gRPC before anything calls for it -/

namespace Grpc

def State.Quiet (g : State) : Prop :=
  ∀ d, g.latched.get d = false ∧ ∀ id, (g.stream id).confirmed.get d = false

theorem State.Quiet.isGrpc {g : State} (h : g.Quiet) (d : Direction) (id : Nat) :
    g.isGrpc d id = false := by
  rw [isGrpc_eq, (h d).1, (h d).2 id]
  rfl

theorem State.Quiet.setStream {g : State} (h : g.Quiet) (id : Nat) {st : Stream}
    (hst : ∀ d, st.confirmed.get d = false) : (g.setStream id st).Quiet := by
  intro d
  refine ⟨(h d).1, fun id' => ?_⟩
  rw [State.stream_setStream]
  split
  · exact hst d
  · exact (h d).2 id'

/-- What gRPC reacts to: a header list whose first content type is gRPC, and its own settings. -/
def Ignores : Http2.Event → Prop
  | .headers _ _ hs => ∀ ct, Http2.findHeader hs "content-type" = some ct → isGrpcContentType ct = false
  | .frame _ f => ∀ values, f.body = .settings values → ∀ p ∈ values, p.1 ≠ 0xfe03 ∧ p.1 ≠ 0xfe04
  | _ => True

instance : DecidablePred Ignores
  | .headers _ _ hs =>
    inferInstanceAs (Decidable (∀ ct ∈ Http2.findHeader hs "content-type", isGrpcContentType ct = false))
  | .frame _ f => decidable_of_iff (f.setting? 0xfe03 = none ∧ f.setting? 0xfe04 = none) (by
      rw [Http2.Frame.setting?_eq_none_iff, Http2.Frame.setting?_eq_none_iff]
      exact ⟨fun h v hv p hp => ⟨h.1 v hv p hp, h.2 v hv p hp⟩,
        fun h => ⟨fun v hv p hp => (h v hv p hp).1, fun v hv p hp => (h v hv p hp).2⟩⟩)
  | .request _ _ => isTrue trivial
  | .response _ _ => isTrue trivial

theorem exec_frame_of_quiet {g : State} (h : g.Quiet) (d : Direction) (f : Http2.Frame) :
    exec (extension.frame d f) g = (.ok none, g) := by
  dsimp only [extension]
  split
  · rw [exec_bind, exec_get]
    simp only [h.isGrpc, Bool.not_false, Bool.or_true, if_true]
    rfl
  · rfl

theorem exec_headers_of_quiet {g : State} (h : g.Quiet) (d : Direction) (f : Http2.Frame)
    {hs : Http2.HeaderList} (hct : Ignores (.headers d f hs)) :
    (exec (extension.headers d f hs) g).1 = .ok () ∧ (exec (extension.headers d f hs) g).2.Quiet := by
  dsimp only [extension]
  split
  · exact ⟨rfl, h⟩
  · rw [exec_bind, exec_get]
    dsimp only
    rw [exec_set]
    refine ⟨rfl, ?_⟩
    have hcleared : ∀ d', ((g.stream f.streamId).confirmed.set d false).get d' = false := by
      intro d'
      cases d <;> cases d'
      · rfl
      · exact (h .server).2 f.streamId
      · exact (h .client).2 f.streamId
      · rfl
    rcases hctv : Http2.findHeader hs "content-type" with _ | ct <;>
      rcases henc : Http2.findHeader hs "grpc-encoding" with _ | e
    · simp_all
    · exact State.Quiet.setStream h _ fun d' => (h d').2 _
    · simp only [hct ct hctv, Bool.false_eq_true, if_false]
      exact State.Quiet.setStream h _ hcleared
    · simp only [hct ct hctv, Bool.false_eq_true, if_false]
      exact State.Quiet.setStream h _ hcleared

open Http2 in
theorem extension_follows_recording :
    extension.Follows Extension.recording (fun g _ => g.Quiet) fun l => ∀ e ∈ l, Ignores e where
  keeps := Extension.recording_keeps _
  rawChunk _ _ _ h := simAt_pure _ h
  request _ _ _ _ h := simAt_of_exec rfl rfl h
  response _ _ _ _ h := simAt_of_exec rfl rfl h
  headers d f hs g l h hok := exec_headers_of_quiet h d f (hok _ (mem_record l _))
  frame d f g l h _ := by
    rw [exec_frame_of_quiet h]
    exact ⟨rfl, h⟩
  settingName d f values l hbody hok p hp := by
    obtain ⟨h₁, h₂⟩ := hok _ (mem_record l (.frame d f)) values hbody p hp
    simp [extension, settingName, Extension.recording, h₁, h₂]

end Grpc

/-! ## WebSocket before anything calls for it -/

namespace WebSocket

/-- The WebSocket state before anything calls for WebSocket: no switched HTTP/1 connection, no
extended CONNECT allowed, no stream. -/
structure State.Idle (w : State) : Prop where
  switched : w.switched = false
  connectProtocol : w.connectProtocol = false
  streams : w.streams = []

/-- What WebSocket reacts to: a handshake request without a key, a `101` handshake response, and
the setting that allows extended CONNECT. -/
def Ignores : Http2.Event → Prop
  | .request _ r => isHandshake r.headers = true → (r.headers.get? "sec-websocket-key").isSome
  | .response _ r => r.status = 101 → isHandshake r.headers = false
  | .frame _ f => ∀ values, f.body = .settings values → ∀ p ∈ values, p.1 ≠ enableConnectProtocol
  | .headers _ _ _ => True

instance : DecidablePred Ignores
  | .request _ r =>
    inferInstanceAs (Decidable (isHandshake r.headers = true → (r.headers.get? "sec-websocket-key").isSome))
  | .response _ r => inferInstanceAs (Decidable (r.status = 101 → isHandshake r.headers = false))
  | .frame _ f => decidable_of_iff _ (Http2.Frame.setting?_eq_none_iff f enableConnectProtocol)
  | .headers _ _ _ => isTrue trivial

theorem exec_response_of_ignored {w : State} {c : Chunk} {r : Http1.Response}
    (h101 : Ignores (.response c r)) : exec (extension.response c r) w = (.ok none, w) := by
  dsimp only [extension]
  have hno : (r.status != 101 || !isHandshake r.headers) = true := by
    by_cases hs : r.status = 101
    · simp [h101 hs]
    · simp [hs]
  simp only [hno, if_true]
  rfl

variable {w : State} (hw : w.Idle)
include hw

theorem exec_rawChunk_of_idle (c : Chunk) : exec (extension.rawChunk c) w = (.ok none, w) := by
  dsimp only [extension]
  rw [exec_bind, exec_get]
  simp only [hw.switched, Bool.not_false, if_true]
  rfl

theorem exec_request_of_idle {c : Chunk} {r : Http1.Request} (hkey : Ignores (.request c r)) :
    (exec (extension.request c r) w).1 = .ok none ∧ (exec (extension.request c r) w).2.Idle := by
  dsimp only [extension]
  by_cases hh : isHandshake r.headers = true
  · obtain ⟨key, hk⟩ := Option.isSome_iff_exists.1 (hkey hh)
    simp only [hh, Bool.not_true, Bool.false_eq_true, if_false, hk]
    exact ⟨rfl, hw.switched, hw.connectProtocol, hw.streams⟩
  · simp only [hh, Bool.not_false, if_true]
    exact ⟨rfl, hw⟩

theorem exec_headers_of_idle (d : Direction) (f : Http2.Frame) (hs : Http2.HeaderList) :
    exec (extension.headers d f hs) w = (.ok (), w) := by
  dsimp only [extension]
  cases d
  · rw [exec_bind, exec_get]
    simp only [hw.connectProtocol, Bool.not_false, if_true]
    rfl
  · rw [exec_bind, exec_get]
    simp only [State.stream?, hw.streams, List.lookup]
    rfl

theorem exec_frame_of_idle {d : Direction} {f : Http2.Frame} (h8 : Ignores (.frame d f)) :
    exec (extension.frame d f) w = (.ok none, w) := by
  dsimp only [extension]
  split
  · rename_i values hbody
    have hnone : f.setting? enableConnectProtocol = none := by
      simp only [Http2.Frame.setting?, hbody, Option.map_eq_none_iff, List.find?_eq_none]
      intro p hp
      simpa using h8 values hbody p (List.mem_reverse.1 hp)
    simp only [hnone, Option.getD_none, bne_self_eq_false, Bool.and_false, Bool.false_eq_true,
      if_false]
    rfl
  · rw [exec_bind, exec_get]
    simp only [State.stream?, hw.streams, List.lookup, Option.isNone_none, Bool.or_true, if_true]
    rfl
  · rfl

omit hw in
open Http2 in
theorem extension_follows_recording :
    extension.Follows Extension.recording (fun w _ => w.Idle) fun l => ∀ e ∈ l, Ignores e where
  keeps := Extension.recording_keeps _
  rawChunk c w _ h _ := by
    rw [exec_rawChunk_of_idle h]
    exact ⟨rfl, h⟩
  request _ _ w l h hok := exec_request_of_idle h (hok _ (mem_record l _))
  response c r w l h hok := by
    rw [exec_response_of_ignored (hok _ (mem_record l _))]
    exact ⟨rfl, h⟩
  headers d f hs w _ h _ := by
    rw [exec_headers_of_idle h]
    exact ⟨rfl, h⟩
  frame d f w l h hok := by
    rw [exec_frame_of_idle h (hok _ (mem_record l _))]
    exact ⟨rfl, h⟩
  settingName d f values l hbody hok p hp := by
    have h8 := hok _ (mem_record l (.frame d f)) values hbody p hp
    simp [extension, Extension.recording, h8]

end WebSocket

theorem Dissector.transform_grpc_webSocket_eq_http2 (config : Config) (chunks : List Chunk) :
    ((∀ d f hs, Http2.Event.headers d f hs ∈ Http2.events config chunks →
        ∀ ct, Http2.findHeader hs "content-type" = some ct → Grpc.isGrpcContentType ct = false) →
      (∀ d f values, Http2.Event.frame d f ∈ Http2.events config chunks →
        f.body = .settings values → ∀ p ∈ values, p.1 ≠ 65027 ∧ p.1 ≠ 65028) →
      Dissector.grpc.transform config chunks = Dissector.http2.transform config chunks) ∧
    ((∀ c r, Http2.Event.request c r ∈ Http2.events config chunks →
        WebSocket.isHandshake r.headers = true → (r.headers.get? "sec-websocket-key").isSome) →
      (∀ c r, Http2.Event.response c r ∈ Http2.events config chunks → r.status = 101 →
        WebSocket.isHandshake r.headers = false) →
      (∀ d f values, Http2.Event.frame d f ∈ Http2.events config chunks →
        f.body = .settings values → ∀ p ∈ values, p.1 ≠ 8) →
      Dissector.webSocket.transform config chunks = Dissector.http2.transform config chunks) := by
  have hplain : Http2.Extension.recording.dissect [] config.normalize.maxFrameSize
      config.normalize.maxInflatedSize chunks =
      Http2.Extension.plain.dissect () config.normalize.maxFrameSize
        config.normalize.maxInflatedSize chunks :=
    Http2.Extension.recording_follows_plain.dissect_eq trivial _ _ chunks trivial
  refine ⟨fun hct hset => ?_, fun hreq hresp hset => ?_⟩
  · have hok : ∀ e ∈ Http2.events config chunks, Grpc.Ignores e := by
      intro e he
      cases e with
      | request c r => trivial
      | response c r => trivial
      | headers d f hs => exact hct d f hs he
      | frame d f => exact fun values hbody => hset d f values he hbody
    have hquiet : Grpc.State.Quiet { maxInflated := config.normalize.maxInflatedSize } :=
      fun d => ⟨by cases d <;> rfl, fun id => by cases d <;> rfl⟩
    exact (Grpc.extension_follows_recording.dissect_eq hquiet _ _ chunks hok).trans hplain
  · have hok : ∀ e ∈ Http2.events config chunks, WebSocket.Ignores e := by
      intro e he
      cases e with
      | request c r => exact hreq c r he
      | response c r => exact hresp c r he
      | headers d f hs => trivial
      | frame d f => exact fun values hbody => hset d f values he hbody
    have hidle : WebSocket.State.Idle
        { maxPending := config.normalize.maxPendingFragments,
          maxInflated := config.normalize.maxInflatedSize } := ⟨rfl, rfl, rfl⟩
    exact (WebSocket.extension_follows_recording.dissect_eq hidle _ _ chunks hok).trans hplain

/-- Two conversations that hand the protocol on top real events and call for neither gRPC nor
WebSocket: one in frames, with SETTINGS and header lists of plain text, and one in HTTP/1, with a
request and a response that keep the connection alive. All three dissectors agree on both. -/
theorem transform_grpc_webSocket_eq_http2_plainExchanges :
    let block : Bytes := [0x82, 0x84, 0x86, 0x0f, 0x10, 0x0a] ++ Bytes.ofString "text/plain"
    let frames : List Chunk :=
      [⟨.client, Http2.preface ++ [0, 0, 6, 4, 0, 0, 0, 0, 0, 0, 3, 0, 0, 0, 100] ++
          [0, 0, 16, 1, 5, 0, 0, 0, 1] ++ block⟩,
        ⟨.server, [0, 0, 0, 4, 0, 0, 0, 0, 0, 0, 0, 1, 1, 5, 0, 0, 0, 1, 0x88]⟩]
    let request := Bytes.ofString "GET / HTTP/1.1\r\nHost: a\r\nConnection: keep-alive\r\n\r\n"
    let response := Bytes.ofString
      "HTTP/1.1 200 OK\r\nConnection: keep-alive\r\nContent-Length: 2\r\n\r\nhi"
    let messages : List Chunk := [⟨.client, request⟩, ⟨.server, response⟩]
    Http2.events {} frames =
        [.frame .client ⟨0, 0, .settings [(3, 100)]⟩, .frame .client ⟨5, 1, .headers block none⟩,
          .headers .client ⟨5, 1, .headers block none⟩
            [(":method", "GET"), (":path", "/"), (":scheme", "http"), ("content-type", "text/plain")],
          .frame .server ⟨0, 0, .settings []⟩, .frame .server ⟨5, 1, .headers [0x88] none⟩,
          .headers .server ⟨5, 1, .headers [0x88] none⟩ [(":status", "200")]] ∧
      Http2.events {} messages =
        [.request ⟨.client, request⟩
            ⟨"GET", "/", "HTTP/1.1", ⟨[("Host", "a"), ("Connection", "keep-alive")]⟩, []⟩,
          .response ⟨.server, response⟩
            ⟨"HTTP/1.1", 200, "OK", ⟨[("Connection", "keep-alive"), ("Content-Length", "2")]⟩,
              response.take 58, response.drop 62⟩] ∧
      ∀ chunks ∈ [frames, messages],
        Dissector.grpc.transform {} chunks = Dissector.http2.transform {} chunks ∧
          Dissector.webSocket.transform {} chunks = Dissector.http2.transform {} chunks := by
  intro block frames request response messages
  have hframes : Http2.events {} frames =
      [.frame .client ⟨0, 0, .settings [(3, 100)]⟩, .frame .client ⟨5, 1, .headers block none⟩,
        .headers .client ⟨5, 1, .headers block none⟩
          [(":method", "GET"), (":path", "/"), (":scheme", "http"), ("content-type", "text/plain")],
        .frame .server ⟨0, 0, .settings []⟩, .frame .server ⟨5, 1, .headers [0x88] none⟩,
        .headers .server ⟨5, 1, .headers [0x88] none⟩ [(":status", "200")]] := by
    decide +kernel
  have hmessages : Http2.events {} messages =
      [.request ⟨.client, request⟩
          ⟨"GET", "/", "HTTP/1.1", ⟨[("Host", "a"), ("Connection", "keep-alive")]⟩, []⟩,
        .response ⟨.server, response⟩
          ⟨"HTTP/1.1", 200, "OK", ⟨[("Connection", "keep-alive"), ("Content-Length", "2")]⟩,
            response.take 58, response.drop 62⟩] := by
    decide +kernel
  have hquiet : ∀ chunks ∈ [frames, messages], (∀ e ∈ Http2.events {} chunks, Grpc.Ignores e) ∧
      ∀ e ∈ Http2.events {} chunks, WebSocket.Ignores e := by
    simp only [List.mem_cons, List.not_mem_nil, or_false, forall_eq_or_imp, forall_eq, hframes,
      hmessages]
    decide
  refine ⟨hframes, hmessages, fun chunks hc => ?_⟩
  obtain ⟨hg, hw⟩ := hquiet chunks hc
  obtain ⟨hgrpc, hws⟩ := Dissector.transform_grpc_webSocket_eq_http2 {} chunks
  exact ⟨hgrpc (fun _ _ _ he => hg _ he) (fun _ _ values he => hg _ he values),
    hws (fun _ _ he => hw _ he) (fun _ _ he => hw _ he) (fun _ _ values he => hw _ he values)⟩

end Dissect
