import Mathlib
import Dissect.Proofs.Http2.History
import Dissect.Proofs.WebSocket.Fragments

/-!
# Which streams WebSocket dissects

A stream is dissected as WebSocket once it is registered. Stream 0 is the HTTP/1 connection, and
it is registered by the `101` response that accepts the key of the handshake request: the
connection switches, and the stream is negotiated, with inflaters exactly when that response lists
permessage-deflate. Any other stream is registered by a client header block on it that asks for
WebSocket by extended CONNECT, after a SETTINGS frame of the server allowed extended CONNECT.
-/

set_option autoImplicit false

namespace Dissect

open Dissecting

namespace Http2

theorem parseBody_ne_headerClass {kind flags : UInt8} {payload : Bytes} {body : Body}
    (h : parseBody kind flags 0 payload = .ok body) :
    Frame.isHeaderClass ⟨flags, 0, body⟩ = false := by
  unfold parseBody at h
  simp only [↓reduceIte, ne_eq, not_true_eq_false] at h
  split at h <;> (try split_ifs at h) <;> simp [bind, Except.bind, pure, Except.pure] at h <;>
    (subst h; rfl)

theorem Frame.Parsed.streamId_ne_zero {f : Frame} (hf : f.Parsed) (hh : f.isHeaderClass = true) :
    f.streamId ≠ 0 := by
  obtain ⟨h, payload, hp⟩ := hf
  unfold Frame.parse at hp
  split at hp
  · rename_i body hbody
    cases hp
    intro h0
    simp only at h0 hh
    rw [h0] at hbody hh
    rw [parseBody_ne_headerClass hbody] at hh
    cases hh
  · cases hp

end Http2

namespace WebSocket

open Http2 (Event findHeader)

/-! ## What registration fixes of a stream -/

namespace Stream

def kind (st : Stream) : Bool × Bool := (st.negotiated, st.deflate.isSome)

variable (d : Direction) (m : Nat)

theorem kind_inflate (st : Stream) (f : Frame) :
    (exec (Stream.inflate d f) st).2.kind = st.kind := by
  rcases inflate_state_cases d st f with h | ⟨_, _, hd, h⟩
  · rw [h]
  · simp [h, kind, hd]

theorem kind_process (st : Stream) (f : Frame) :
    (exec (Stream.process d f m) st).2.kind = st.kind := by
  by_cases hc : f.isControl = true
  · rw [exec_process_control d m hc]
  have hc : f.isControl = false := by simpa using hc
  cases hfin : f.fin
  · by_cases hmis : (f.opcode == continuationOpcode) = (st.fragments.get d).isEmpty
    · rw [exec_process_misplaced d m hc hfin hmis]
      rfl
    by_cases hlt : (st.fragments.get d ++ [f]).length < m
    · rw [exec_process_wait d m hc hfin hmis hlt]
      rfl
    · rw [exec_process_tooMany d m hc hfin hmis (Nat.le_of_not_lt hlt)]
      rfl
  · by_cases hemp : st.fragments.get d = []
    · by_cases hcont : f.opcode = continuationOpcode
      · rw [exec_process_orphan d m hc hfin hemp hcont]
      · rw [exec_process_single d m hc hfin hemp hcont, exec_map]
        exact kind_inflate d st f
    · by_cases hcont : f.opcode = continuationOpcode
      · rw [exec_process_join d m hc hfin hemp hcont, exec_map]
        exact kind_inflate d _ _
      · rw [exec_process_final_misplaced d m hc hfin hemp hcont]
        rfl

theorem keep_kind_renderFrames : ∀ (fuel : Nat) (shown : List Bytes) (rest : Bytes),
    Keep (fun st st₀ => st.kind = st₀.kind) (Stream.renderFrames d m fuel shown rest) :=
  keep_renderFrames_of_process fun f st _ h => (kind_process d m st f).trans h

end Stream

namespace State

variable {w : State}

theorem stream?_setStream (w : State) (id id' : Nat) (st : Stream) :
    (w.setStream id st).stream? id' = if id' = id then some st else w.stream? id' := by
  unfold stream? setStream
  by_cases h : id' = id
  · simp [h]
  · have hne : (id' == id) = false := by simpa using h
    simp [List.lookup, h, hne, lookup_filter_ne _ h]

/-- States alike in all that registration fixes: the key, the switch, whether extended CONNECT is
allowed, and the streams there are, each of its kind. -/
structure SameRegistration (w w' : State) : Prop where
  key : w'.key = w.key
  switched : w'.switched = w.switched
  connectProtocol : w'.connectProtocol = w.connectProtocol
  kind : ∀ id, (w'.stream? id).map Stream.kind = (w.stream? id).map Stream.kind

theorem SameRegistration.refl (w : State) : SameRegistration w w := ⟨rfl, rfl, rfl, fun _ => rfl⟩

theorem SameRegistration.trans {w₁ w₂ w₃ : State} (h₁ : SameRegistration w₁ w₂)
    (h₂ : SameRegistration w₂ w₃) : SameRegistration w₁ w₃ :=
  ⟨h₂.key.trans h₁.key, h₂.switched.trans h₁.switched,
    h₂.connectProtocol.trans h₁.connectProtocol, fun id => (h₂.kind id).trans (h₁.kind id)⟩

theorem sameRegistration_setStream {id : Nat} {st st' : Stream} (hs : w.stream? id = some st)
    (hk : st'.kind = st.kind) : SameRegistration w (w.setStream id st') := by
  refine ⟨rfl, rfl, rfl, fun id' => ?_⟩
  rw [stream?_setStream]
  split
  · subst id'
    simp [hs, hk]
  · rfl

theorem sameRegistration_renderFrames (d : Direction) (id : Nat) (data : Bytes) (w : State) :
    SameRegistration w (exec (renderFrames d id data) w).2 := by
  unfold renderFrames
  rw [exec_bind_of_ok (exec_get w)]
  split
  · exact .refl w
  · rename_i st hst
    rw [exec_within]
    refine sameRegistration_setStream hst ?_
    simp only [hst, Option.getD_some]
    exact Stream.keep_kind_renderFrames d _ _ _ _ st st rfl

theorem sameRegistration_http1Frames (c : Chunk) (pre data : Bytes) (w : State) :
    SameRegistration w (exec (http1Frames c pre data) w).2 := by
  unfold http1Frames
  rw [exec_bind]
  rcases hr : exec (renderFrames c.direction http1Stream data) w with ⟨_ | _, w'⟩ <;>
    simpa [hr] using sameRegistration_renderFrames c.direction http1Stream data w

end State

/-! ## What each hook does -/

def requestKey (r : Http1.Request) : Option String :=
  if isHandshake r.headers then (r.headers.get? "sec-websocket-key").map Text.trim else none

def acceptValue (r : Http1.Response) : String :=
  Text.trim ((r.headers.get? "sec-websocket-accept").getD "")

/-- Whether a response switches the connection under the key remembered: a `101` response with
the upgrade headers whose accept value is the key's. -/
def accepts (key : Option String) (r : Http1.Response) : Bool :=
  r.status == 101 && isHandshake r.headers &&
    match key with
    | some k => acceptValue r == acceptKey k
    | none => false

def asksWebSocket (hs : Http2.HeaderList) : Bool :=
  findHeader hs ":protocol" == some "websocket" &&
    (findHeader hs ":scheme" == some "http" || findHeader hs ":scheme" == some "https")

def allowsConnect (d : Direction) (f : Http2.Frame) : Bool :=
  d == .server && (f.setting? enableConnectProtocol).getD 0 != 0

namespace State

/-- The state a `101` response that accepts the key switches to: stream 0 is negotiated, with the
extensions the response lists. -/
def upgrade (w : State) (r : Http1.Response) : State :=
  { w.setStream http1Stream
      { w.newStream (extensionsOf (r.headers.get? "sec-websocket-extensions")) with
        negotiated := true } with
    switched := true }

end State

open State

variable {w : State}

theorem sameRegistration_rawChunk (c : Chunk) (w : State) :
    SameRegistration w (exec (extension.rawChunk c) w).2 := by
  dsimp only [extension]
  rw [exec_bind_of_ok (exec_get w)]
  split
  · exact .refl w
  · refine KeepAt.recovering (R := fun w' w₀ => SameRegistration w₀ w') ?_ _
    unfold KeepAt
    rw [exec_map]
    exact sameRegistration_http1Frames c [] c.content w

theorem exec_request (c : Chunk) (r : Http1.Request) (w : State) :
    exec (extension.request c r) w =
      (.ok (if isHandshake r.headers && (r.headers.get? "sec-websocket-key").isNone then
          some [Chunk.text c.direction "No websocket key found"] else none),
        { w with key := (requestKey r).or w.key }) := by
  dsimp only [extension]
  unfold requestKey
  by_cases hh : isHandshake r.headers = true
  · rcases r.headers.get? "sec-websocket-key" with _ | key
    · simp [hh]
    · simp [hh]
      rfl
  · simp [hh]

section Handshake

variable {c : Chunk} {r : Http1.Response} (h101 : r.status = 101)
  (hh : isHandshake r.headers = true)
include h101 hh

theorem exec_response_keyless (hk : w.key = none) :
    exec (extension.response c r) w = (.error (.webSocket "No websocket key found"), w) := by
  dsimp only [extension]
  have hgo : (r.status != 101 || !isHandshake r.headers) = false := by simp [h101, hh]
  simp only [hgo, Bool.false_eq_true, ↓reduceIte]
  rw [exec_bind_of_ok (exec_get w)]
  simp only [hk]
  rfl

theorem exec_response_mismatch {key : String} (hk : w.key = some key)
    (hne : acceptValue r ≠ acceptKey key) :
    exec (extension.response c r) w =
      (.error (.handshakeMismatch (acceptValue r) (acceptKey key)), w) := by
  dsimp only [extension]
  have hgo : (r.status != 101 || !isHandshake r.headers) = false := by simp [h101, hh]
  have hdiff : (acceptValue r != acceptKey key) = true := by simpa using hne
  unfold acceptValue at hdiff
  simp only [hgo, Bool.false_eq_true, ↓reduceIte]
  rw [exec_bind_of_ok (exec_get w)]
  simp only [hk]
  rw [if_pos hdiff]
  rfl

theorem exec_response_accept {key : String} (hk : w.key = some key)
    (heq : acceptValue r = acceptKey key) :
    exec (extension.response c r) w =
      exec (some <$> http1Frames c (r.head ++ Http1.blankLine) r.body) (w.upgrade r) := by
  dsimp only [extension]
  have hgo : (r.status != 101 || !isHandshake r.headers) = false := by simp [h101, hh]
  have hsame : (acceptValue r != acceptKey key) = false := by simpa using heq
  simp only [hgo, Bool.false_eq_true, ↓reduceIte]
  rw [exec_bind_of_ok (exec_get w)]
  simp only [hk]
  rw [if_neg (by simpa [acceptValue] using hsame), exec_bind, exec_modify]
  rfl

end Handshake

theorem sameRegistration_response (c : Chunk) (r : Http1.Response) (w : State) :
    SameRegistration (if accepts w.key r then w.upgrade r else w)
      (exec (extension.response c r) w).2 := by
  by_cases hgo : r.status = 101 ∧ isHandshake r.headers = true
  · obtain ⟨h101, hh⟩ := hgo
    cases hk : w.key with
    | none =>
      rw [exec_response_keyless h101 hh hk, if_neg (by simp [accepts])]
      exact .refl w
    | some key =>
      by_cases heq : acceptValue r = acceptKey key
      · rw [exec_response_accept h101 hh hk heq, exec_map,
          if_pos (by simp [accepts, h101, hh, heq])]
        exact sameRegistration_http1Frames _ _ _ _
      · rw [exec_response_mismatch h101 hh hk heq, if_neg (by simp [accepts, heq])]
        exact .refl w
  · have hign : Ignores (.response c r) := fun h101 => by simpa [h101] using hgo
    have hacc : accepts w.key r = false := by
      by_cases h101 : r.status = 101 <;> simp_all [accepts]
    rw [exec_response_of_ignored hign, hacc]
    exact .refl w

theorem exec_headers_client (f : Http2.Frame) (hs : Http2.HeaderList) (w : State) :
    (exec (extension.headers .client f hs) w).2 =
      if w.connectProtocol && asksWebSocket hs then
        w.setStream f.streamId (w.newStream (extensionsOf (findHeader hs "sec-websocket-extensions")))
      else w := by
  dsimp only [extension]
  rw [exec_bind_of_ok (exec_get w)]
  unfold asksWebSocket
  cases hc : w.connectProtocol
  · simp
  by_cases hp : findHeader hs ":protocol" = some "websocket"
  · by_cases hsc : findHeader hs ":scheme" = some "http" ∨ findHeader hs ":scheme" = some "https"
    · have hkeep : ¬(¬findHeader hs ":scheme" = some "http" ∧
          ¬findHeader hs ":scheme" = some "https") := by tauto
      simp [hp, hsc, hkeep]
    · simp only [not_or] at hsc
      simp [hp, hsc]
  · simp [hp]

theorem exec_headers_server (f : Http2.Frame) (hs : Http2.HeaderList) (w : State) :
    (exec (extension.headers .server f hs) w).2 = w ∨
      ∃ st st', w.stream? f.streamId = some st ∧
        (exec (extension.headers .server f hs) w).2 = w.setStream f.streamId st' := by
  dsimp only [extension]
  rw [exec_bind_of_ok (exec_get w)]
  split
  · rename_i st hst
    split
    · exact .inr ⟨st, _, hst, rfl⟩
    · exact .inl rfl
  · exact .inl rfl

theorem sameRegistration_frame (d : Direction) (f : Http2.Frame) (w : State) :
    SameRegistration (if allowsConnect d f then { w with connectProtocol := true } else w)
      (exec (extension.frame d f) w).2 := by
  by_cases hallow : allowsConnect d f = true
  · rw [if_pos hallow]
    dsimp only [extension]
    split
    · rw [if_pos (show (d == .server && (f.setting? enableConnectProtocol).getD 0 != 0) = true
        from hallow)]
      exact .refl _
    · rename_i payload hbody
      simp [allowsConnect, Http2.Frame.setting?, hbody] at hallow
    · rename_i hset _
      cases hb : f.body <;> simp_all [allowsConnect, Http2.Frame.setting?]
  · rw [if_neg hallow]
    dsimp only [extension]
    split
    · rw [if_neg (show ¬(d == .server && (f.setting? enableConnectProtocol).getD 0 != 0) = true
        from hallow)]
      exact .refl w
    · rename_i payload hbody
      refine keepAt_get_bind (R := fun w' w₀ => SameRegistration w₀ w') ?_
      split
      · exact keepAt_pure _ (.refl w)
      · refine KeepAt.bind (sameRegistration_renderFrames d f.streamId payload w) fun _ _ h => ?_
        split <;> exact keepAt_pure _ h
    · exact .refl w

/-! ## Registration over a history -/

def keyOf : Event → Option String
  | .request _ r => requestKey r
  | _ => none

def lastKey (hist : List Event) : Option String := (hist.filterMap keyOf).getLast?

/-- What a history fixes of registration: the key remembered, the last response that accepted
it, and whether a SETTINGS frame of the server allowed extended CONNECT. -/
structure Registration where
  key : Option String := none
  switch : Option Http1.Response := none
  connect : Bool := false

/-- The registration after one more event. -/
def Registration.step (g : Registration) : Event → Registration
  | .request _ r => { g with key := (requestKey r).or g.key }
  | .response _ r => if accepts g.key r then { g with switch := some r } else g
  | .frame d f => if allowsConnect d f then { g with connect := true } else g
  | .headers _ _ _ => g

def registrationOf (hist : List Event) : Registration := hist.foldl Registration.step {}

def listsDeflate (es : List Extension) : Prop := ∃ e ∈ es, e.name = permessageDeflate

def switchKind (r : Http1.Response) : Bool × Bool :=
  (true, (findDeflate (extensionsOf (r.headers.get? "sec-websocket-extensions"))).isSome)

/-- A stream opened by a header block of the client on it that asks for WebSocket, read from a
parsed frame, after a SETTINGS frame of the server allowed extended CONNECT. -/
def OpenedBy (hist : List Event) (id : Nat) : Prop :=
  ∃ pre f hs post, hist = pre ++ .headers .client f hs :: post ∧ f.streamId = id ∧ f.Parsed ∧
    f.isHeaderClass = true ∧ asksWebSocket hs = true ∧
    ∃ d f', Event.frame d f' ∈ pre ∧ allowsConnect d f' = true

/-- A WebSocket state registered as its history says: the key, the switch and extended CONNECT
are those of the history, stream 0 is there exactly after a switch and of its kind, and every
other stream was opened by a header block of the history. -/
structure Registered (w : State) (hist : List Event) : Prop where
  key : w.key = (registrationOf hist).key
  switched : w.switched = (registrationOf hist).switch.isSome
  connect : w.connectProtocol = (registrationOf hist).connect
  upgraded : (w.stream? http1Stream).map Stream.kind = (registrationOf hist).switch.map switchKind
  opened : ∀ id, id ≠ http1Stream → (w.stream? id).isSome → OpenedBy hist id

theorem registrationOf_append_singleton (hist : List Event) (e : Event) :
    registrationOf (hist ++ [e]) = (registrationOf hist).step e := by
  rw [registrationOf, List.foldl_append]
  rfl

theorem key_registrationOf (hist : List Event) : (registrationOf hist).key = lastKey hist := by
  induction hist using List.reverseRecOn with
  | nil => rfl
  | append_singleton hist e ih =>
    rw [registrationOf_append_singleton, lastKey, List.filterMap_append]
    cases e with
    | request c r =>
      cases hk : requestKey r <;> simp [Registration.step, keyOf, hk, ih, lastKey]
    | response c r =>
      simp only [Registration.step]
      split <;> simp [keyOf, ih, lastKey]
    | headers d f hs => simp [Registration.step, keyOf, ih, lastKey]
    | frame d f =>
      simp only [Registration.step]
      split <;> simp [keyOf, ih, lastKey]

theorem connect_registrationOf (hist : List Event) :
    (registrationOf hist).connect = true ↔
      ∃ d f, Event.frame d f ∈ hist ∧ allowsConnect d f = true := by
  induction hist using List.reverseRecOn with
  | nil => simp [registrationOf]
  | append_singleton hist e ih =>
    rw [registrationOf_append_singleton]
    cases e with
    | frame d f =>
      simp only [Registration.step]
      split
      · rename_i hallow
        exact ⟨fun _ => ⟨d, f, by simp, hallow⟩, fun _ => rfl⟩
      · rename_i hallow
        rw [ih]
        constructor
        · rintro ⟨d', f', hmem, h⟩
          exact ⟨d', f', List.mem_append_left _ hmem, h⟩
        · rintro ⟨d', f', hmem, h⟩
          rcases List.mem_append.1 hmem with hmem | hmem
          · exact ⟨d', f', hmem, h⟩
          · simp only [List.mem_singleton, Event.frame.injEq] at hmem
            obtain ⟨rfl, rfl⟩ := hmem
            exact absurd h hallow
    | request c r => simpa [Registration.step] using ih
    | response c r =>
      simp only [Registration.step]
      split <;> simpa using ih
    | headers d f hs => simpa [Registration.step] using ih

theorem switch_registrationOf {hist : List Event} {r : Http1.Response}
    (h : (registrationOf hist).switch = some r) :
    ∃ pre c post, hist = pre ++ .response c r :: post ∧ accepts (lastKey pre) r = true := by
  induction hist using List.reverseRecOn with
  | nil => simp [registrationOf] at h
  | append_singleton hist e ih =>
    rw [registrationOf_append_singleton] at h
    have hold : (registrationOf hist).switch = some r →
        ∃ pre c post, hist ++ [e] = pre ++ .response c r :: post ∧
          accepts (lastKey pre) r = true := fun hs => by
      obtain ⟨pre, c, post, rfl, hacc⟩ := ih hs
      exact ⟨pre, c, post ++ [e], by simp, hacc⟩
    cases e with
    | response c r' =>
      simp only [Registration.step] at h
      split at h
      · rename_i hacc
        simp only [Option.some.injEq] at h
        subst h
        exact ⟨hist, c, [], rfl, by rwa [← key_registrationOf]⟩
      · exact hold h
    | request c r' => exact hold h
    | headers d f hs => exact hold h
    | frame d f =>
      simp only [Registration.step] at h
      split at h <;> exact hold h

theorem OpenedBy.append {hist : List Event} {id : Nat} (h : OpenedBy hist id) (e : Event) :
    OpenedBy (hist ++ [e]) id := by
  obtain ⟨pre, f, hs, post, rfl, hrest⟩ := h
  exact ⟨pre, f, hs, post ++ [e], by simp, hrest⟩

theorem Registered.of_same {w w' : State} {hist : List Event} (h : Registered w hist)
    (hw : SameRegistration w w') : Registered w' hist where
  key := hw.key.trans h.key
  switched := hw.switched.trans h.switched
  connect := hw.connectProtocol.trans h.connect
  upgraded := (hw.kind http1Stream).trans h.upgraded
  opened id hid hs := by
    refine h.opened id hid ?_
    have hk := congrArg Option.isSome (hw.kind id)
    simpa using hk.symm.trans (by simpa using hs)

theorem Registered.append_of_step {w : State} {hist : List Event} (h : Registered w hist)
    {e : Event} (he : (registrationOf hist).step e = registrationOf hist) :
    Registered w (hist ++ [e]) where
  key := by rw [registrationOf_append_singleton, he]; exact h.key
  switched := by rw [registrationOf_append_singleton, he]; exact h.switched
  connect := by rw [registrationOf_append_singleton, he]; exact h.connect
  upgraded := by rw [registrationOf_append_singleton, he]; exact h.upgraded
  opened id hid hs := (h.opened id hid hs).append e

theorem Registered.setStream {w : State} {hist : List Event} (h : Registered w hist) {id : Nat}
    (hid : id ≠ http1Stream) (st : Stream) (hop : OpenedBy hist id) :
    Registered (w.setStream id st) hist where
  key := h.key
  switched := h.switched
  connect := h.connect
  upgraded := by rw [stream?_setStream, if_neg (Ne.symm hid)]; exact h.upgraded
  opened id' hid' hs := by
    rw [stream?_setStream] at hs
    split at hs
    · subst id'
      exact hop
    · exact h.opened id' hid' hs

/-! ## Each hook keeps the registration in step with the history -/

section Steps

open Http2 (Extension)

def Tracked (p : State × List Event) (_ : State × List Event) : Prop := Registered p.1 p.2

theorem isSome_inflatersFor (es : List Extension) (m : Nat) :
    (inflatersFor es m).isSome = (findDeflate es).isSome := by
  simp [inflatersFor]

theorem stream?_upgrade (w : State) (r : Http1.Response) (id : Nat) :
    (w.upgrade r).stream? id = if id = http1Stream then
      some { w.newStream (extensionsOf (r.headers.get? "sec-websocket-extensions")) with
        negotiated := true } else w.stream? id :=
  stream?_setStream _ _ _ _

theorem keep_tracked_rawChunk (c : Chunk) : Keep Tracked (extension.watching.rawChunk c) := by
  intro p t h
  exact Registered.of_same h (sameRegistration_rawChunk c p.1)

theorem keep_tracked_note {α : Type} (e : Event) (m : Dissecting State α)
    (h : ∀ w hist, Registered w hist → Registered (exec m w).2 (hist ++ [e])) :
    Keep Tracked (do modify (Http2.note e); Http2.onFirst m) := by
  intro p t hp
  dsimp only [KeepAt, Tracked]
  rw [Http2.exec_note_onFirst]
  exact h p.1 p.2 hp

theorem keep_tracked_request (c : Chunk) (r : Http1.Request) :
    Keep Tracked (extension.watching.request c r) := by
  refine keep_tracked_note _ _ fun w hist h => ?_
  rw [exec_request]
  have hstep : registrationOf (hist ++ [.request c r]) =
      { registrationOf hist with key := (requestKey r).or (registrationOf hist).key } := by
    rw [registrationOf_append_singleton]
    rfl
  refine ⟨?_, ?_, ?_, ?_, fun id hid hs => (h.opened id hid hs).append _⟩ <;>
    simp only [hstep]
  · rw [h.key]
  · exact h.switched
  · exact h.connect
  · exact h.upgraded

theorem keep_tracked_response (c : Chunk) (r : Http1.Response) :
    Keep Tracked (extension.watching.response c r) := by
  refine keep_tracked_note _ _ fun w hist h => ?_
  refine Registered.of_same ?_ (sameRegistration_response c r w)
  have hstep := registrationOf_append_singleton hist (.response c r)
  simp only [Registration.step, ← h.key] at hstep
  by_cases hacc : accepts w.key r = true
  · rw [if_pos hacc] at hstep ⊢
    refine ⟨?_, ?_, ?_, ?_, fun id hid hs => ?_⟩
    · simp only [hstep]
      rfl
    · simp only [hstep]
      rfl
    · simp only [hstep]
      exact h.connect
    · simp [hstep, stream?_upgrade, Stream.kind, switchKind, State.newStream, isSome_inflatersFor]
    · rw [stream?_upgrade, if_neg hid] at hs
      exact (h.opened id hid hs).append _
  · rw [if_neg hacc] at hstep ⊢
    exact h.append_of_step (by rw [← registrationOf_append_singleton]; exact hstep)

theorem keep_tracked_headers (d : Direction) (f : Http2.Frame) (hs : Http2.HeaderList)
    (hf : f.Parsed) (hh : f.isHeaderClass = true) :
    Keep Tracked (extension.watching.headers d f hs) := by
  refine keep_tracked_note _ _ fun w hist h => ?_
  -- a header block is never on stream 0, and changes no registration of the history
  have hid : f.streamId ≠ http1Stream := hf.streamId_ne_zero hh
  have hkeep : Registered w (hist ++ [.headers d f hs]) := h.append_of_step rfl
  cases d with
  | client =>
    rw [exec_headers_client]
    split
    · rename_i hask
      rw [Bool.and_eq_true] at hask
      refine hkeep.setStream hid _ ⟨hist, f, hs, [], rfl, rfl, hf, hh, hask.2, ?_⟩
      rw [← connect_registrationOf, ← h.connect]
      exact hask.1
    · exact hkeep
  | server =>
    rcases exec_headers_server f hs w with hsame | ⟨st, st', hst, hset⟩
    · rw [hsame]
      exact hkeep
    · rw [hset]
      exact hkeep.setStream hid st' ((h.opened _ hid (by simp [hst])).append _)

theorem keep_tracked_frame (d : Direction) (f : Http2.Frame) :
    Keep Tracked (extension.watching.frame d f) := by
  refine keep_tracked_note _ _ fun w hist h => ?_
  refine Registered.of_same ?_ (sameRegistration_frame d f w)
  have hstep := registrationOf_append_singleton hist (.frame d f)
  simp only [Registration.step] at hstep
  by_cases hallow : allowsConnect d f = true
  · rw [if_pos hallow] at hstep ⊢
    refine ⟨?_, ?_, by simp only [hstep], ?_, fun id hid hs => (h.opened id hid hs).append _⟩ <;>
      simp only [hstep]
    · exact h.key
    · exact h.switched
    · exact h.upgraded
  · rw [if_neg hallow] at hstep ⊢
    exact h.append_of_step (by rw [← registrationOf_append_singleton]; exact hstep)

theorem watching_keeps_tracked : extension.watching.KeepsParsed Tracked where
  rawChunk := keep_tracked_rawChunk
  request := keep_tracked_request
  response := keep_tracked_response
  headers d f hs hf hh := keep_tracked_headers d f hs hf hh
  frame d f _ := keep_tracked_frame d f

end Steps

/-! ## What only grows -/

def Grows (w w₀ : State) : Prop :=
  (w₀.switched = true → w.switched = true) ∧
    (w₀.connectProtocol = true → w.connectProtocol = true)

theorem Grows.of_same {w w' w₀ : State} (h : Grows w w₀) (hw : SameRegistration w w') :
    Grows w' w₀ :=
  ⟨fun hs => hw.switched.trans (h.1 hs), fun hc => hw.connectProtocol.trans (h.2 hc)⟩

theorem extension_keeps_grows : extension.Keeps Grows where
  rawChunk c w w₀ h := h.of_same (sameRegistration_rawChunk c w)
  request c r w w₀ h := by
    unfold KeepAt
    rw [exec_request]
    exact h
  response c r w w₀ h := by
    refine Grows.of_same ?_ (sameRegistration_response c r w)
    split
    · exact ⟨fun _ => rfl, h.2⟩
    · exact h
  headers d f hs w w₀ h := by
    unfold KeepAt
    cases d with
    | client =>
      rw [exec_headers_client]
      split
      · exact h
      · exact h
    | server =>
      rcases exec_headers_server f hs w with hsame | ⟨_, _, _, hset⟩
      · rw [hsame]
        exact h
      · rw [hset]
        exact h
  frame d f w w₀ h := by
    refine Grows.of_same ?_ (sameRegistration_frame d f w)
    split
    · exact ⟨h.1, fun _ => rfl⟩
    · exact h

/-! ## What the hooks do with registered streams -/

theorem exec_frame_data_unregistered {d : Direction} {f : Http2.Frame} {payload : Bytes}
    (hdata : f.body = .data payload) (w : State)
    (hnot : f.streamId = http1Stream ∨ w.stream? f.streamId = none) :
    exec (extension.frame d f) w = (.ok none, w) := by
  dsimp only [extension]
  split
  · rename_i hs
    rw [hdata] at hs
    cases hs
  · rw [exec_bind_of_ok (exec_get w)]
    have hleave : (f.streamId == http1Stream || (w.stream? f.streamId).isNone) = true := by
      rcases hnot with h | h <;> simp [h]
    rw [if_pos hleave]
    rfl
  · rename_i _ hs
    exact absurd hdata (hs payload)

theorem exec_hooks_chunk_switched (c : Chunk) {u : Http2.Session State}
    (hsw : u.ext.switched = true) :
    exec (extension.hooks.chunk c) u =
      ((exec ((State.http1Frames c [] c.content).recovering fun e =>
          [Chunk.text c.direction s!"Error while handling websocket frame: {e.message}"]) u.ext).1,
        { u with ext := (exec (State.http1Frames c [] c.content) u.ext).2 }) := by
  unfold Http1.Hooks.chunk Http1.Hooks.answer
  simp only [Http2.Extension.hooks]
  rw [Dissecting.recovering, exec_tryCatch, exec_bind, exec_bind, Http2.Session.exec_lift]
  dsimp only [extension]
  rw [exec_bind_of_ok (exec_get u.ext)]
  simp only [hsw, Bool.not_true, Bool.false_eq_true, if_false]
  rw [Dissecting.recovering, exec_tryCatch, exec_map, Dissecting.recovering, exec_tryCatch]
  rcases exec (State.http1Frames c [] c.content) u.ext with ⟨_ | out, w'⟩
  · -- an issue that does not end the conversation is shown, one that does goes on
    rename_i e
    cases he : e.isFatal
    · simp only [Except.map, he, Bool.false_eq_true, if_false]
      rfl
    · simp only [Except.map, he, if_true, exec_throw]
  · rfl

/-! ## Over a whole run -/

theorem isSome_findDeflate_iff (es : List Extension) :
    (findDeflate es).isSome = true ↔ listsDeflate es := by
  simp [findDeflate, listsDeflate, List.find?_isSome]

theorem registered_after (cs : List Chunk) {u : Http2.Session (State × List Event)}
    (hu : Registered u.ext.1 u.ext.2) :
    Registered (extension.watching.hooks.after u cs).ext.1
      (extension.watching.hooks.after u cs).ext.2 := by
  induction cs generalizing u with
  | nil => exact hu
  | cons c cs ih => exact ih (watching_keeps_tracked.chunk c u u hu)

/-- A run from the start of a conversation is registered as the history of its watched twin
says. -/
theorem registered_run (config : Config) (cs : List Chunk) :
    let start : State :=
      { maxPending := config.normalize.maxPendingFragments
        maxInflated := config.normalize.maxInflatedSize }
    Registered (extension.hooks.after (Http2.Session.initial start config) cs).ext
      (extension.watching.hooks.after (Http2.Session.initial (start, []) config) cs).ext.2 := by
  intro start
  rw [(extension.matches_after_watching cs start config).ext]
  -- the watched run starts registered, with an empty history, and stays so
  exact registered_after cs ⟨rfl, rfl, rfl, rfl, fun id _ hs => by
    simp [State.stream?, Http2.Session.initial, start] at hs⟩

theorem grows_after (cs : List Chunk) {u t : Http2.Session State} (hu : Grows u.ext t.ext) :
    Grows (extension.hooks.after u cs).ext t.ext := by
  induction cs generalizing u with
  | nil => exact hu
  | cons c cs ih => exact ih (extension_keeps_grows.chunk c u t hu)

/-- In every state a WebSocket dissection reaches, registration is what the run's history says.
The connection has switched exactly when stream 0 is registered; stream 0 is then negotiated, and
inflated exactly when the response that accepted the key listed permessage-deflate. Every other
stream was opened by a client header block on it that asks for WebSocket, after a SETTINGS frame of
the server allowed extended CONNECT. Later states keep the switch and extended CONNECT. A DATA frame
is taken from HTTP/2 only on such a stream, and once switched a chunk is frames of stream 0 and
nothing else. -/
theorem registration_follows_history (config : Config) (cs : List Chunk) :
    let start : State :=
      { maxPending := config.normalize.maxPendingFragments
        maxInflated := config.normalize.maxInflatedSize }
    let u := extension.hooks.after (Http2.Session.initial start config) cs
    let t := extension.watching.hooks.after (Http2.Session.initial (start, []) config) cs
    Http2.Session.Matches Http2.Beneath u t ∧
    (u.ext.switched = true ↔ (u.ext.stream? http1Stream).isSome) ∧
    (∀ st, u.ext.stream? http1Stream = some st → st.negotiated = true ∧
      ∃ pre c r post, t.ext.2 = pre ++ .response c r :: post ∧ accepts (lastKey pre) r = true ∧
        (st.deflate.isSome = true ↔
          listsDeflate (extensionsOf (r.headers.get? "sec-websocket-extensions")))) ∧
    (∀ id st, id ≠ http1Stream → u.ext.stream? id = some st → OpenedBy t.ext.2 id) ∧
    (∀ more, let u' := extension.hooks.after (Http2.Session.initial start config) (cs ++ more)
      (u.ext.switched = true → u'.ext.switched = true) ∧
        (u.ext.connectProtocol = true → u'.ext.connectProtocol = true)) ∧
    (∀ d f payload, f.body = .data payload → (exec (extension.frame d f) u.ext).1 ≠ .ok none →
      f.streamId ≠ http1Stream ∧ OpenedBy t.ext.2 f.streamId) ∧
    (u.ext.switched = true → ∀ c, exec (extension.hooks.chunk c) u =
      ((exec ((State.http1Frames c [] c.content).recovering fun e =>
          [Chunk.text c.direction s!"Error while handling websocket frame: {e.message}"]) u.ext).1,
        { u with ext := (exec (State.http1Frames c [] c.content) u.ext).2 })) := by
  intro start u t
  have hmatch : Http2.Session.Matches Http2.Beneath u t :=
    extension.matches_after_watching cs start config
  have hreg : Registered u.ext t.ext.2 := registered_run config cs
  have hzero : u.ext.switched = (u.ext.stream? http1Stream).isSome := by
    rw [hreg.switched, ← Option.isSome_map (f := switchKind), ← hreg.upgraded, Option.isSome_map]
  refine ⟨hmatch, by rw [hzero], fun st hst => ?_, fun id st hid hst => hreg.opened id hid (by simp [hst]),
    fun more => ?_, fun d f payload hdata hne => ?_, fun hsw c => exec_hooks_chunk_switched c hsw⟩
  · have hk := hreg.upgraded
    rw [hst, Option.map_some] at hk
    obtain ⟨r, hr, hkind⟩ := Option.map_eq_some_iff.1 hk.symm
    obtain ⟨pre, c, post, hhist, hacc⟩ := switch_registrationOf hr
    simp only [Stream.kind, switchKind, Prod.mk.injEq] at hkind
    refine ⟨hkind.1.symm, pre, c, r, post, hhist, hacc, ?_⟩
    rw [← hkind.2]
    exact isSome_findDeflate_iff _
  · have hg := grows_after more (u := u) (t := u) ⟨id, id⟩
    rw [Http1.Hooks.after_after] at hg
    exact hg
  · have hreg' : f.streamId ≠ http1Stream ∧ (u.ext.stream? f.streamId).isSome := by
      by_contra hnot
      refine hne (congrArg Prod.fst (exec_frame_data_unregistered hdata u.ext ?_))
      by_cases h0 : f.streamId = http1Stream
      · exact .inl h0
      · exact .inr (by simpa [h0] using hnot)
    exact ⟨hreg'.1, hreg.opened _ hreg'.1 hreg'.2⟩

/-- The handshake of RFC 6455's example, a request with its key and the `101` response that
accepts it: the connection has switched, stream 0 is registered and negotiated, and every later
chunk is frames of stream 0. -/
theorem registration_follows_history_handshake :
    let start : State :=
      { maxPending := ({} : Config).normalize.maxPendingFragments
        maxInflated := ({} : Config).normalize.maxInflatedSize }
    let cs : List Chunk :=
      [⟨.client, Bytes.ofString ("GET /chat HTTP/1.1\r\nHost: a\r\nUpgrade: websocket\r\n" ++
          "Connection: Upgrade\r\nSec-WebSocket-Key: dGhlIHNhbXBsZSBub25jZQ==\r\n\r\n")⟩,
        ⟨.server, Bytes.ofString ("HTTP/1.1 101 Switching Protocols\r\nUpgrade: websocket\r\n" ++
          "Connection: Upgrade\r\nSec-WebSocket-Accept: s3pPLMBiTxaQ9kYGzzhZRbK+xOo=\r\n\r\n")⟩]
    let u := extension.hooks.after (Http2.Session.initial start {}) cs
    u.ext.switched = true ∧
      ∃ st, u.ext.stream? http1Stream = some st ∧ st.negotiated = true ∧
        ∀ c, exec (extension.hooks.chunk c) u =
          ((exec ((State.http1Frames c [] c.content).recovering fun e =>
              [Chunk.text c.direction s!"Error while handling websocket frame: {e.message}"]) u.ext).1,
            { u with ext := (exec (State.http1Frames c [] c.content) u.ext).2 }) := by
  intro start cs
  -- the run stays unnamed, so that the kernel compares it without running it again
  dsimp only
  obtain ⟨-, hzero, hstream, -, -, -, hframes⟩ := registration_follows_history {} cs
  have hsw : (extension.hooks.after (Http2.Session.initial start {}) cs).ext.switched = true := by
    decide +kernel
  obtain ⟨st, hst⟩ := Option.isSome_iff_exists.1 (hzero.1 hsw)
  exact ⟨hsw, st, hst, (hstream st hst).1, hframes hsw⟩

end WebSocket

end Dissect
