import Mathlib
import Dissect.Proofs.WebSocket.Registration
import Dissect.Proofs.Http2.Upgrade

/-!
# The HTTP/1 handshake

A WebSocket connection over HTTP/1 is switched by a handshake: a request with the upgrade headers
and a `Sec-WebSocket-Key`, answered by a `101` response whose `Sec-WebSocket-Accept` is the Base64
of the SHA-1 of the key and a fixed GUID (`acceptKey`).
-/

set_option autoImplicit false

namespace Dissect

open Dissecting

namespace Http2.Session

variable {σ : Type}

def ReadsAsResponse (s : Session σ) (c : Chunk) (r : Http1.Response) : Prop :=
  c.direction = .server ∧ s.active = false ∧ Http1.Response.parse c.content = .ok r

end Http2.Session

namespace Http2.Extension

variable {σ : Type} {x : Extension σ} {s : Session σ} {c : Chunk} {out : List Chunk} {w : σ}

theorem exec_hooks_request_of_some {r : Http1.Request}
    (h : exec (x.request c r) s.ext = (.ok (some out), w)) :
    exec (x.hooks.request c r) s = (.ok out, { s with ext := w }) := by
  simp only [hooks]
  rw [exec_bind, Session.exec_lift, h]
  rfl

theorem exec_hooks_response_of_some {r : Http1.Response}
    (h : exec (x.response c r) s.ext = (.ok (some out), w)) :
    exec (x.hooks.response c r) s = (.ok out, { s with ext := w }) := by
  simp only [hooks]
  rw [exec_bind, Session.exec_lift, h]
  rfl

theorem exec_hooks_response_of_error {r : Http1.Response} {e : Issue}
    (h : exec (x.response c r) s.ext = (.error e, w)) :
    exec (x.hooks.response c r) s = (.error e, { s with ext := w }) := by
  simp only [hooks]
  rw [exec_bind, Session.exec_lift, h]

end Http2.Extension

namespace WebSocket

open Http2 (Event)
open State

/-! ## The key over a history -/

theorem lastKey_append_singleton (hist : List Event) (e : Event) :
    lastKey (hist ++ [e]) = (keyOf e).or (lastKey hist) := by
  unfold lastKey
  rw [List.filterMap_append, List.getLast?_append]
  cases hk : keyOf e <;> simp [hk]

theorem keyOf_eq_some {e : Event} {key : String} (h : keyOf e = some key) :
    ∃ c r, e = .request c r ∧ requestKey r = some key := by
  cases e with
  | request c r => exact ⟨c, r, rfl, h⟩
  | _ => cases h

theorem append_singleton_eq_split {hist pre post : List Event} {e x : Event}
    (h : hist ++ [e] = pre ++ x :: post) :
    (post = [] ∧ hist = pre ∧ e = x) ∨ ∃ post', post = post' ++ [e] ∧ hist = pre ++ x :: post' := by
  rcases List.eq_nil_or_concat post with rfl | ⟨post', e', rfl⟩
  · obtain ⟨hpre, hx⟩ := List.append_inj' h rfl
    exact .inl ⟨rfl, hpre, List.singleton_inj.1 hx⟩
  · have h' : hist ++ [e] = (pre ++ x :: post') ++ [e'] := by simpa using h
    obtain ⟨hpre, he⟩ := List.append_inj' h' rfl
    exact .inr ⟨post', by rw [List.singleton_inj.1 he, List.concat_eq_append], hpre⟩

/-- The key a history leaves remembered is that of a handshake request with a key that no later
handshake request with a key follows. -/
theorem lastKey_eq_some_iff (hist : List Event) (key : String) :
    lastKey hist = some key ↔ ∃ pre c r post, hist = pre ++ .request c r :: post ∧
      requestKey r = some key ∧ ∀ e ∈ post, keyOf e = none := by
  induction hist using List.reverseRecOn with
  | nil => simp [lastKey]
  | append_singleton hist e ih =>
    rw [lastKey_append_singleton]
    cases hk : keyOf e with
    | none =>
      rw [Option.none_or, ih]
      constructor
      · rintro ⟨pre, c, r, post, rfl, hr, hpost⟩
        refine ⟨pre, c, r, post ++ [e], by simp, hr, fun e' he' => ?_⟩
        rcases List.mem_append.1 he' with he' | he'
        · exact hpost e' he'
        · rw [List.mem_singleton.1 he', hk]
      · rintro ⟨pre, c, r, post, heq, hr, hpost⟩
        rcases append_singleton_eq_split heq with ⟨-, -, rfl⟩ | ⟨post', rfl, rfl⟩
        · rw [keyOf, hr] at hk
          cases hk
        · exact ⟨pre, c, r, post', rfl, hr, fun e' he' => hpost e' (by simp [he'])⟩
    | some k =>
      rw [Option.some_or, Option.some_inj]
      obtain ⟨c, r, rfl, hr⟩ := keyOf_eq_some hk
      constructor
      · rintro rfl
        exact ⟨hist, c, r, [], rfl, hr, by simp⟩
      · rintro ⟨pre, c', r', post, heq, hr', hpost⟩
        rcases append_singleton_eq_split heq with ⟨-, -, he⟩ | ⟨post', rfl, -⟩
        · cases he
          rw [hr] at hr'
          exact Option.some_inj.1 hr'
        · have := hpost _ (List.mem_append_right post' (List.mem_singleton_self _))
          rw [keyOf, hr] at this
          cases this

/-! ## The hooks of the layer with WebSocket on top -/

variable {u : Http2.Session State} {c : Chunk}

theorem exec_rawChunk_unswitched (hsw : u.ext.switched = false) (c : Chunk) :
    exec (extension.rawChunk c) u.ext = (.ok none, u.ext) :=
  (leavesUpgrade hsw).rawChunk c

theorem exec_hooks_request_keyless {r : Http1.Request} (hh : isHandshake r.headers = true)
    (hk : r.headers.get? "sec-websocket-key" = none) :
    exec (extension.hooks.request c r) u =
      (.ok [Chunk.text c.direction "No websocket key found"], u) := by
  have hnone : requestKey r = none := by simp [requestKey, hh, hk]
  have hreq := exec_request c r u.ext
  rw [hnone, Option.none_or] at hreq
  simp only [hh, hk, Option.isNone_none, Bool.and_self, if_true] at hreq
  exact Http2.Extension.exec_hooks_request_of_some hreq

section Response

variable {r : Http1.Response} (h101 : r.status = 101) (hh : isHandshake r.headers = true)
include h101 hh

theorem exec_hooks_response_keyless (hk : u.ext.key = none) :
    exec (extension.hooks.response c r) u = (.error (.webSocket "No websocket key found"), u) :=
  Http2.Extension.exec_hooks_response_of_error (exec_response_keyless h101 hh hk)

theorem exec_hooks_response_mismatch {key : String} (hk : u.ext.key = some key)
    (hne : acceptValue r ≠ acceptKey key) :
    exec (extension.hooks.response c r) u =
      (.error (.handshakeMismatch (acceptValue r) (acceptKey key)), u) :=
  Http2.Extension.exec_hooks_response_of_error (exec_response_mismatch h101 hh hk hne)

theorem exec_hooks_response_accept {key : String} (hk : u.ext.key = some key)
    (heq : acceptValue r = acceptKey key) :
    exec (extension.hooks.response c r) u =
      ((exec (http1Frames c (r.head ++ Http1.blankLine) r.body) (u.ext.upgrade r)).1,
        { u with ext := (exec (http1Frames c (r.head ++ Http1.blankLine) r.body)
          (u.ext.upgrade r)).2 }) := by
  have hresp := exec_response_accept (c := c) h101 hh hk heq
  rw [exec_map] at hresp
  rcases hf : exec (http1Frames c (r.head ++ Http1.blankLine) r.body) (u.ext.upgrade r) with
    ⟨_ | out, w⟩
  · rw [hf] at hresp
    exact Http2.Extension.exec_hooks_response_of_error hresp
  · rw [hf] at hresp
    exact Http2.Extension.exec_hooks_response_of_some hresp

end Response

theorem switched_http1Frames_upgrade (pre data : Bytes) (w : State) (r : Http1.Response) :
    (exec (http1Frames c pre data) (w.upgrade r)).2.switched = true :=
  (sameRegistration_http1Frames c pre data (w.upgrade r)).switched

/-! ## Chunks before the switch -/

theorem exec_hooks_chunk_of_request {r : Http1.Request} (hsw : u.ext.switched = false)
    (hc : u.ReadsAs c r) {out : List Chunk} {u' : Http2.Session State}
    (h : exec (extension.hooks.request c r) u = (.ok out, u')) :
    exec (extension.hooks.chunk c) u = (.ok out, u') := by
  obtain ⟨hd, hact, hpre, hr⟩ := hc
  have hraw := Http2.Session.exec_hooks_rawChunk (exec_rawChunk_unswitched hsw c) hact
    fun _ => hpre
  refine Http1.Hooks.exec_chunk_of_ok _ ?_
  rw [Http1.Hooks.exec_answer_of_request _ hraw hd hr, h]

theorem exec_hooks_chunk_of_response {r : Http1.Response} (hsw : u.ext.switched = false)
    (hc : u.ReadsAsResponse c r) :
    exec (extension.hooks.chunk c) u =
      exec ((extension.hooks.response c r).recovering fun e =>
        [Chunk.text .server ("Unable to parse HTTP response: " ++ e.message)]) u := by
  obtain ⟨hd, hact, hr⟩ := hc
  have hraw := Http2.Session.exec_hooks_rawChunk (exec_rawChunk_unswitched hsw c) hact
    fun hcl => absurd (hd.symm.trans hcl) nofun
  exact Http1.Hooks.exec_chunk_of_response _ hraw hd hr

section ResponseChunk

variable {r : Http1.Response} (hsw : u.ext.switched = false) (hc : u.ReadsAsResponse c r)
  (h101 : r.status = 101) (hh : isHandshake r.headers = true)
include hsw hc h101 hh

theorem exec_hooks_chunk_keyless (hk : u.ext.key = none) :
    exec (extension.hooks.chunk c) u =
      (.ok [Chunk.text .server "Unable to parse HTTP response: No websocket key found"], u) := by
  rw [exec_hooks_chunk_of_response hsw hc, Dissecting.recovering, exec_tryCatch,
    exec_hooks_response_keyless h101 hh hk]
  have htext : "Unable to parse HTTP response: " ++ "No websocket key found" =
      "Unable to parse HTTP response: No websocket key found" := by decide
  dsimp only
  rw [if_neg (by decide)]
  show exec (pure [Chunk.text .server
    ("Unable to parse HTTP response: " ++ "No websocket key found")]) u = _
  rw [htext, exec_pure]

theorem exec_hooks_chunk_mismatch {key : String} (hk : u.ext.key = some key)
    (hne : acceptValue r ≠ acceptKey key) :
    exec (extension.hooks.chunk c) u =
      (.error (.handshakeMismatch (acceptValue r) (acceptKey key)), u) := by
  rw [exec_hooks_chunk_of_response hsw hc, Dissecting.recovering, exec_tryCatch,
    exec_hooks_response_mismatch h101 hh hk hne]
  rfl

theorem exec_hooks_chunk_accept {key : String} (hk : u.ext.key = some key)
    (heq : acceptValue r = acceptKey key) :
    exec (extension.hooks.chunk c) u =
      ((exec ((http1Frames c (r.head ++ Http1.blankLine) r.body).recovering fun e =>
          [Chunk.text .server ("Unable to parse HTTP response: " ++ e.message)])
        (u.ext.upgrade r)).1,
        { u with ext := (exec (http1Frames c (r.head ++ Http1.blankLine) r.body)
          (u.ext.upgrade r)).2 }) := by
  rw [exec_hooks_chunk_of_response hsw hc, Dissecting.recovering, exec_tryCatch,
    exec_hooks_response_accept h101 hh hk heq, Dissecting.recovering, exec_tryCatch]
  rcases exec (http1Frames c (r.head ++ Http1.blankLine) r.body) (u.ext.upgrade r) with
    ⟨_ | out, w⟩
  · -- whether the issue ends the conversation decides whether it is shown
    rename_i e
    dsimp only
    cases e.isFatal <;> rfl
  · rfl

end ResponseChunk

/-! ## Over a whole run -/

/-- In every state a WebSocket dissection reaches, the key remembered is that of the last
handshake request of the run that carried one, trimmed. A handshake request without a key is
answered by a diagnostic alone and keeps the key. Before the switch, a `101` response with the
handshake headers is a diagnostic when no key is remembered; when its trimmed accept value is not
the Base64 of the SHA-1 of the key and the GUID, it ends the conversation with both values;
otherwise the connection switches, the chunk is its head, a blank line and the frames of its body,
an issue in them that does not end the conversation shown instead, and the connection stays
switched. -/
theorem handshake_follows_requests (config : Config) (cs : List Chunk) :
    let start : State :=
      { maxPending := config.normalize.maxPendingFragments
        maxInflated := config.normalize.maxInflatedSize }
    let u := extension.hooks.after (Http2.Session.initial start config) cs
    let t := extension.watching.hooks.after (Http2.Session.initial (start, []) config) cs
    (∀ key, u.ext.key = some key ↔ ∃ pre c r post, t.ext.2 = pre ++ .request c r :: post ∧
      requestKey r = some key ∧ ∀ e ∈ post, keyOf e = none) ∧
    (∀ c r, isHandshake r.headers = true → r.headers.get? "sec-websocket-key" = none →
      exec (extension.hooks.request c r) u =
        (.ok [Chunk.text c.direction "No websocket key found"], u) ∧
      (u.ext.switched = false → u.ReadsAs c r → exec (extension.hooks.chunk c) u =
        (.ok [Chunk.text c.direction "No websocket key found"], u))) ∧
    (∀ c r, r.status = 101 → isHandshake r.headers = true → u.ext.switched = false →
      u.ReadsAsResponse c r →
      (u.ext.key = none → exec (extension.hooks.chunk c) u =
        (.ok [Chunk.text .server "Unable to parse HTTP response: No websocket key found"], u)) ∧
      ∀ key, u.ext.key = some key →
        let received := Text.trim ((r.headers.get? "sec-websocket-accept").getD "")
        let expected := Base64.encode (Sha1.digest
          (Bytes.ofString (key ++ "258EAFA5-E914-47DA-95CA-C5AB0DC85B11")))
        let frames := http1Frames c (r.head ++ Http1.blankLine) r.body
        (received ≠ expected → ∀ more, exec (extension.hooks.dissect (c :: more)) u =
          (.error (.handshakeMismatch received expected), u)) ∧
        (received = expected →
          exec (extension.hooks.chunk c) u =
            ((exec (frames.recovering fun e =>
                [Chunk.text .server ("Unable to parse HTTP response: " ++ e.message)])
              (u.ext.upgrade r)).1,
              { u with ext := (exec frames (u.ext.upgrade r)).2 }) ∧
          (exec frames (u.ext.upgrade r)).2.switched = true)) := by
  intro start u t
  have hkey : u.ext.key = lastKey t.ext.2 := by
    rw [(registered_run config cs).key, key_registrationOf]
  refine ⟨fun key => by rw [hkey, lastKey_eq_some_iff], fun c r hh hk => ?_,
    fun c r h101 hh hsw hc => ⟨exec_hooks_chunk_keyless hsw hc h101 hh, fun key hk =>
      ⟨fun hne more => Http1.Hooks.exec_dissect_cons_of_error _
          (exec_hooks_chunk_mismatch hsw hc h101 hh hk hne) more,
        fun heq => ⟨exec_hooks_chunk_accept hsw hc h101 hh hk heq,
          switched_http1Frames_upgrade _ _ _ r⟩⟩⟩⟩
  have hreq := exec_hooks_request_keyless (u := u) (c := c) hh hk
  exact ⟨hreq, fun hsw hc => exec_hooks_chunk_of_request hsw hc hreq⟩

/-- The handshake of RFC 6455's example: after the request, its key is remembered, and the `101`
response that accepts it switches the connection, its chunk rendered as its head, a blank line and
the frames of its body. -/
theorem handshake_follows_requests_accepted :
    let start : State :=
      { maxPending := ({} : Config).normalize.maxPendingFragments
        maxInflated := ({} : Config).normalize.maxInflatedSize }
    let request := Bytes.ofString ("GET /chat HTTP/1.1\r\nHost: a\r\nUpgrade: websocket\r\n" ++
      "Connection: Upgrade\r\nSec-WebSocket-Key: dGhlIHNhbXBsZSBub25jZQ==\r\n\r\n")
    let response := Bytes.ofString ("HTTP/1.1 101 Switching Protocols\r\nUpgrade: websocket\r\n" ++
      "Connection: Upgrade\r\nSec-WebSocket-Accept: s3pPLMBiTxaQ9kYGzzhZRbK+xOo=\r\n\r\n")
    let u := extension.hooks.after (Http2.Session.initial start {}) [⟨.client, request⟩]
    let r : Http1.Response := ⟨"HTTP/1.1", 101, "Switching Protocols",
      ⟨[("Upgrade", "websocket"), ("Connection", "Upgrade"),
        ("Sec-WebSocket-Accept", "s3pPLMBiTxaQ9kYGzzhZRbK+xOo=")]⟩, response.take 125, []⟩
    let frames := http1Frames ⟨.server, response⟩ (r.head ++ Http1.blankLine) r.body
    u.ext.key = some "dGhlIHNhbXBsZSBub25jZQ==" ∧ Http1.Response.parse response = .ok r ∧
      exec (extension.hooks.chunk ⟨.server, response⟩) u =
        ((exec (frames.recovering fun e =>
            [Chunk.text .server ("Unable to parse HTTP response: " ++ e.message)]) (u.ext.upgrade r)).1,
          { u with ext := (exec frames (u.ext.upgrade r)).2 }) ∧
      (exec frames (u.ext.upgrade r)).2.switched = true := by
  intro start request response
  -- the run and the response stay unnamed, so that the kernel compares them without running again
  dsimp only
  obtain ⟨hkey, hsw, hactive⟩ :
      (extension.hooks.after (Http2.Session.initial start {}) [⟨.client, request⟩]).ext.key =
          some "dGhlIHNhbXBsZSBub25jZQ==" ∧
        (extension.hooks.after (Http2.Session.initial start {}) [⟨.client, request⟩]).ext.switched =
          false ∧
        (extension.hooks.after (Http2.Session.initial start {}) [⟨.client, request⟩]).active = false := by
    decide +kernel
  have hread : (Http1.Response.parse response).toOption = some ⟨"HTTP/1.1", 101, "Switching Protocols",
      ⟨[("Upgrade", "websocket"), ("Connection", "Upgrade"),
        ("Sec-WebSocket-Accept", "s3pPLMBiTxaQ9kYGzzhZRbK+xOo=")]⟩, response.take 125, []⟩ := by
    decide +kernel
  have hparse : Http1.Response.parse response = .ok ⟨"HTTP/1.1", 101, "Switching Protocols",
      ⟨[("Upgrade", "websocket"), ("Connection", "Upgrade"),
        ("Sec-WebSocket-Accept", "s3pPLMBiTxaQ9kYGzzhZRbK+xOo=")]⟩, response.take 125, []⟩ := by
    cases h : Http1.Response.parse response with
    | error e => rw [h] at hread; cases hread
    | ok r => rw [h] at hread; cases hread; rfl
  have hdigest : Text.trim "s3pPLMBiTxaQ9kYGzzhZRbK+xOo=" = Base64.encode (Sha1.digest
      (Bytes.ofString ("dGhlIHNhbXBsZSBub25jZQ==" ++ "258EAFA5-E914-47DA-95CA-C5AB0DC85B11"))) := by
    decide +kernel
  obtain ⟨-, -, haccept⟩ := handshake_follows_requests {} [⟨.client, request⟩]
  obtain ⟨-, hswitch⟩ := haccept ⟨.server, response⟩ _ rfl (by decide) hsw ⟨rfl, hactive, hparse⟩
  exact ⟨hkey, hparse, hswitch _ hkey |>.2 hdigest⟩

end WebSocket

end Dissect
