import Mathlib
import Dissect.Proofs.Dissection.Conservative

/-!
# Which directions carry gRPC

The gRPC state changes only when HTTP/2 hands gRPC a decoded header list: the first
`content-type` of the list gives a verdict on the list's direction of its stream, and a gRPC
verdict latches the direction for good; the first `grpc-encoding` sets the stream's encoding for
the direction (`State.heard`). Every other hook only reads the state.
-/

set_option autoImplicit false

namespace Dissect

open Dissecting

theorem Sides.get_set {α : Type} (s : Sides α) (d : Direction) (a : α) (d' : Direction) :
    (s.set d a).get d' = if d' = d then a else s.get d' := by
  cases d <;> cases d' <;> rfl

@[simp] theorem Sides.get_both {α : Type} (a : α) (d : Direction) : (Sides.both a).get d = a := by
  cases d <;> rfl

/-! ## Events handed to the protocol on top -/

namespace Http2

variable {σ : Type}

/-- The state on top once its hook has looked at an event, whatever the hook answered. -/
def Extension.after (x : Extension σ) (s : σ) : Event → σ
  | .request c r => (exec (x.request c r) s).2
  | .response c r => (exec (x.response c r) s).2
  | .headers d f hs => (exec (x.headers d f hs) s).2
  | .frame d f => (exec (x.frame d f) s).2

def Extension.replay (x : Extension σ) (start : σ) (evs : List Event) : σ :=
  evs.foldl x.after start

@[simp] theorem Extension.replay_nil (x : Extension σ) (start : σ) : x.replay start [] = start :=
  rfl

@[simp] theorem Extension.replay_cons (x : Extension σ) (start : σ) (e : Event) (evs : List Event) :
    x.replay start (e :: evs) = x.replay (x.after start e) evs :=
  rfl

theorem Extension.replay_invariant (x : Extension σ) (I : σ → Prop)
    (hstep : ∀ s e, I s → I (x.after s e)) :
    ∀ (evs : List Event) {start : σ}, I start → I (x.replay start evs)
  | [], _, h => h
  | e :: evs, _, h => replay_invariant x I hstep evs (hstep _ e h)

end Http2

namespace Grpc

open Http2 (Event HeaderList findHeader)

/-! ## One header list -/

def verdict (hs : HeaderList) : Option Bool := (findHeader hs "content-type").map isGrpcContentType

def encodingNamed (hs : HeaderList) : Option Encoding :=
  (findHeader hs "grpc-encoding").map Encoding.parse

namespace State

/-- The state once a header list of direction `d` on stream `id` has given its verdict `v` and
named the encoding `e`, each if it has one: the verdict becomes the stream's flag for `d` and a
gRPC one sets `d`'s latch; the encoding becomes the stream's encoding for `d`. -/
def heard (g : State) (d : Direction) (id : Nat) (v : Option Bool) (e : Option Encoding) : State :=
  if v.isNone && e.isNone then g else
  { g.setStream id
      { confirmed := (v.map ((g.stream id).confirmed.set d)).getD (g.stream id).confirmed
        encoding := (e.map ((g.stream id).encoding.set d)).getD (g.stream id).encoding }
    with latched := if v = some true then g.latched.set d true else g.latched }

theorem latched_heard (g : State) (d : Direction) (id : Nat) (v : Option Bool) (e : Option Encoding)
    (d' : Direction) :
    (g.heard d id v e).latched.get d' = (g.latched.get d' || (d' == d && v == some true)) := by
  unfold heard
  split
  · rename_i hnone
    simp only [Bool.and_eq_true, Option.isNone_iff_eq_none] at hnone
    simp [hnone.1]
  · by_cases hv : v = some true
    · by_cases hd : d' = d
      · subst hd
        simp [hv]
      · simp [hv, hd, Sides.get_set]
    · simp [hv]

theorem confirmed_heard (g : State) (d : Direction) (id : Nat) (v : Option Bool)
    (e : Option Encoding) (id' : Nat) (d' : Direction) :
    ((g.heard d id v e).stream id').confirmed.get d' =
      if id' = id ∧ d' = d then v.getD ((g.stream id').confirmed.get d')
      else (g.stream id').confirmed.get d' := by
  unfold heard
  split
  · rename_i hnone
    simp only [Bool.and_eq_true, Option.isNone_iff_eq_none] at hnone
    simp [hnone.1]
  · change ((g.setStream id _).stream id').confirmed.get d' = _
    rw [stream_setStream]
    by_cases hid : id' = id
    · subst hid
      cases v <;> simp [Sides.get_set]
    · simp [hid]

theorem encoding_heard (g : State) (d : Direction) (id : Nat) (v : Option Bool)
    (e : Option Encoding) (id' : Nat) (d' : Direction) :
    ((g.heard d id v e).stream id').encoding.get d' =
      if id' = id ∧ d' = d then e.getD ((g.stream id').encoding.get d')
      else (g.stream id').encoding.get d' := by
  unfold heard
  split
  · rename_i hnone
    simp only [Bool.and_eq_true, Option.isNone_iff_eq_none] at hnone
    simp [hnone.2]
  · change ((g.setStream id _).stream id').encoding.get d' = _
    rw [stream_setStream]
    by_cases hid : id' = id
    · subst hid
      cases e <;> simp [Sides.get_set]
    · simp [hid]

end State

/-! ## The hooks -/

theorem exec_headers (d : Direction) (f : Http2.Frame) (hs : HeaderList) (g : State) :
    exec (extension.headers d f hs) g =
      (.ok (), g.heard d f.streamId (verdict hs) (encodingNamed hs)) := by
  unfold State.heard verdict encodingNamed
  dsimp only [extension]
  generalize findHeader hs "content-type" = ct?
  generalize findHeader hs "grpc-encoding" = enc?
  cases ct? with
  | none =>
    cases enc? with
    | none => rfl
    | some e => rfl
  | some ct =>
    cases enc? <;> by_cases hok : isGrpcContentType ct = true <;> simp [hok] <;> rfl

theorem exec_frame_state (d : Direction) (f : Http2.Frame) (g : State) :
    (exec (extension.frame d f) g).2 = g := by
  dsimp only [extension]
  split
  · rw [exec_bind, exec_get]
    dsimp only
    split
    · rfl
    · split <;> rfl
  · rfl

@[simp] theorem after_headers (g : State) (d : Direction) (f : Http2.Frame) (hs : HeaderList) :
    extension.after g (.headers d f hs) = g.heard d f.streamId (verdict hs) (encodingNamed hs) := by
  simp only [Http2.Extension.after, exec_headers]

@[simp] theorem after_frame (g : State) (d : Direction) (f : Http2.Frame) :
    extension.after g (.frame d f) = g :=
  exec_frame_state d f g

@[simp] theorem after_request (g : State) (c : Chunk) (r : Http1.Request) :
    extension.after g (.request c r) = g :=
  rfl

@[simp] theorem after_response (g : State) (c : Chunk) (r : Http1.Response) :
    extension.after g (.response c r) = g :=
  rfl

/-! ## What the events decide -/

def callsGrpc (d : Direction) : Event → Bool
  | .headers d' _ hs => d' == d && verdict hs == some true
  | _ => false

def namesEncoding (d : Direction) (id : Nat) : Event → Option Encoding
  | .headers d' f hs => if d' = d ∧ f.streamId = id then encodingNamed hs else none
  | _ => none

theorem callsGrpc_iff (d : Direction) (e : Event) :
    callsGrpc d e = true ↔ ∃ f hs ct, e = .headers d f hs ∧ findHeader hs "content-type" = some ct ∧
      isGrpcContentType ct = true := by
  cases e with
  | headers d' f hs =>
    simp only [callsGrpc, verdict, Bool.and_eq_true, beq_iff_eq, Event.headers.injEq]
    constructor
    · rintro ⟨rfl, hv⟩
      obtain ⟨ct, hct, hok⟩ := Option.map_eq_some_iff.1 hv
      exact ⟨f, hs, ct, ⟨rfl, rfl, rfl⟩, hct, hok⟩
    · rintro ⟨_, _, ct, ⟨rfl, rfl, rfl⟩, hct, hok⟩
      simp [hct, hok]
  | request c r => simp [callsGrpc]
  | response c r => simp [callsGrpc]
  | frame d' f => simp [callsGrpc]

namespace State

def Latching (g : State) : Prop :=
  ∀ d id, (g.stream id).confirmed.get d = true → g.latched.get d = true

theorem latching_start (limit : Nat) : ({ maxInflated := limit } : State).Latching := by
  intro d id h
  simp [stream] at h

theorem Latching.heard {g : State} (h : g.Latching) (d : Direction) (id : Nat) (v : Option Bool)
    (e : Option Encoding) : (g.heard d id v e).Latching := by
  intro d' id' hc
  rw [confirmed_heard] at hc
  rw [latched_heard]
  split at hc
  · rename_i hwhere
    obtain ⟨rfl, rfl⟩ := hwhere
    cases v with
    | none => simp [h _ _ hc]
    | some b => simp_all
  · simp [h _ _ hc]

theorem Latching.after {g : State} (h : g.Latching) : ∀ e, (extension.after g e).Latching
  | .headers _ _ _ => by rw [after_headers]; exact h.heard _ _ _ _
  | .frame _ _ => by rw [after_frame]; exact h
  | .request _ _ => h
  | .response _ _ => h

theorem Latching.isGrpc {g : State} (h : g.Latching) (d : Direction) (id : Nat) :
    g.isGrpc d id = g.latched.get d := by
  rw [isGrpc_eq]
  cases hl : g.latched.get d
  · cases hc : (g.stream id).confirmed.get d
    · rfl
    · rw [h d id hc] at hl
      cases hl
  · rfl

theorem latched_after (g : State) (d : Direction) (e : Event) :
    (extension.after g e).latched.get d = (g.latched.get d || callsGrpc d e) := by
  cases e with
  | headers d' f hs =>
    by_cases hd : d' = d
    · subst hd
      simp [latched_heard, callsGrpc]
    · have h₁ : (d == d') = false := beq_eq_false_iff_ne.2 (Ne.symm hd)
      have h₂ : (d' == d) = false := beq_eq_false_iff_ne.2 hd
      simp [latched_heard, callsGrpc, h₁, h₂]
  | frame _ _ => simp [callsGrpc]
  | request _ _ => simp [callsGrpc]
  | response _ _ => simp [callsGrpc]

theorem encodingOf_after (g : State) (d : Direction) (id : Nat) (e : Event) :
    (extension.after g e).encodingOf d id = (namesEncoding d id e).getD (g.encodingOf d id) := by
  cases e with
  | headers d' f hs =>
    simp only [after_headers, encodingOf, encoding_heard, namesEncoding]
    by_cases hw : d' = d ∧ f.streamId = id
    · obtain ⟨rfl, rfl⟩ := hw
      simp
    · have hw' : ¬(id = f.streamId ∧ d = d') := fun ⟨h₁, h₂⟩ => hw ⟨h₂.symm, h₁.symm⟩
      simp [hw, hw']
  | frame _ _ => simp [namesEncoding]
  | request _ _ => simp [namesEncoding]
  | response _ _ => simp [namesEncoding]

theorem latched_replay (d : Direction) :
    ∀ (evs : List Event) (g : State),
      (extension.replay g evs).latched.get d = (g.latched.get d || evs.any (callsGrpc d))
  | [], g => by simp
  | e :: evs, g => by
    rw [Http2.Extension.replay_cons, latched_replay d evs, latched_after, List.any_cons,
      Bool.or_assoc]

theorem encodingOf_replay (d : Direction) (id : Nat) :
    ∀ (evs : List Event) (g : State), (extension.replay g evs).encodingOf d id =
      ((evs.filterMap (namesEncoding d id)).getLast?).getD (g.encodingOf d id)
  | [], g => by simp
  | e :: evs, g => by
    rw [Http2.Extension.replay_cons, encodingOf_replay d id evs, encodingOf_after]
    -- the event's own encoding, if any, stands before those of the later events
    cases hn : namesEncoding d id e with
    | none => rw [List.filterMap_cons_none hn, Option.getD_none]
    | some enc => rw [List.filterMap_cons_some hn, List.getLast?_cons, Option.getD_some, Option.getD_some]

theorem detection_of_events (limit : Nat) (evs : List Event) (d : Direction) (id : Nat) :
    let g := extension.replay { maxInflated := limit } evs
    g.isGrpc d id = g.latched.get d ∧
      ((g.stream id).confirmed.get d = true → g.latched.get d = true) ∧
      (g.latched.get d = true ↔ ∃ f hs ct, Event.headers d f hs ∈ evs ∧
        findHeader hs "content-type" = some ct ∧ isGrpcContentType ct = true) ∧
      (∀ more, g.latched.get d = true →
        (extension.replay { maxInflated := limit } (evs ++ more)).latched.get d = true) ∧
      g.encodingOf d id = ((evs.filterMap (namesEncoding d id)).getLast?).getD .identity := by
  intro g
  have hlatching : g.Latching :=
    Http2.Extension.replay_invariant _ Latching (fun _ e h => h.after e) evs (latching_start limit)
  have hlatched : ∀ evs' : List Event, (extension.replay { maxInflated := limit } evs').latched.get d =
      evs'.any (callsGrpc d) := fun evs' => by
    rw [latched_replay]
    simp
  refine ⟨hlatching.isGrpc d id, hlatching d id, ?_, fun more h => ?_, ?_⟩
  · rw [hlatched, List.any_eq_true]
    constructor
    · rintro ⟨e, he, hcalls⟩
      obtain ⟨f, hs, ct, rfl, hct, hok⟩ := (callsGrpc_iff d e).1 hcalls
      exact ⟨f, hs, ct, he, hct, hok⟩
    · rintro ⟨f, hs, ct, he, hct, hok⟩
      exact ⟨_, he, (callsGrpc_iff d _).2 ⟨f, hs, ct, rfl, hct, hok⟩⟩
  · rw [hlatched] at h ⊢
    rw [List.any_append, h, Bool.true_or]
  · rw [encodingOf_replay]
    congr 1
    cases d <;> rfl

end State

end Grpc

end Dissect
