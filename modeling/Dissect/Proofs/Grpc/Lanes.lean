import Mathlib
import Dissect.Proofs.Http2.Lanes

/-!
# gRPC state by direction

gRPC keeps, besides the streams' compression, whether a direction carried gRPC at all (its latch)
and, for each stream, what the headers of each direction said. The frames of one direction read
and write only that direction's part (`State.Alike`), so gRPC on top of HTTP/2 keeps its state
apart by direction (`extension_lanes`).
-/

set_option autoImplicit false

namespace Dissect

theorem lookup_filter_ne {β : Type} (l : List (Nat × β)) {id id' : Nat} (h : id' ≠ id) :
    (l.filter (·.1 != id)).lookup id' = l.lookup id' := by
  induction l with
  | nil => rfl
  | cons p l ih =>
    obtain ⟨k, v⟩ := p
    by_cases hk : k = id
    · subst hk
      have hne : (id' == k) = false := by simpa using h
      simp [ih, List.lookup, hne]
    · simp [hk, List.lookup, ih]

namespace Grpc

open Dissecting

namespace State

theorem stream_setStream (s : State) (id : Nat) (st : Stream) (id' : Nat) :
    (s.setStream id st).stream id' = if id' = id then st else s.stream id' := by
  by_cases h : id' = id
  · subst h
    simp [setStream, stream]
  · have hne : (id' == id) = false := by simpa using h
    simp [setStream, stream, List.lookup, h, hne, lookup_filter_ne _ h]

theorem isGrpc_eq (s : State) (d : Direction) (id : Nat) :
    s.isGrpc d id = (s.latched.get d || (s.stream id).confirmed.get d) := by
  unfold isGrpc stream
  cases s.streams.lookup id with
  | none => cases d <;> rfl
  | some st => rfl

/-- What the frames of direction `d` see of the gRPC state: whether the direction carried gRPC,
and for each stream what its headers said for the direction. -/
structure Alike (d : Direction) (s t : State) : Prop where
  latched : s.latched.get d = t.latched.get d
  confirmed : ∀ id, (s.stream id).confirmed.get d = (t.stream id).confirmed.get d
  encoding : ∀ id, (s.stream id).encoding.get d = (t.stream id).encoding.get d
  maxInflated : s.maxInflated = t.maxInflated

theorem alike_equivalence (d : Direction) : Equivalence (Alike d) where
  refl _ := ⟨rfl, fun _ => rfl, fun _ => rfl, rfl⟩
  symm h := ⟨h.latched.symm, fun id => (h.confirmed id).symm, fun id => (h.encoding id).symm,
    h.maxInflated.symm⟩
  trans h₁ h₂ := ⟨h₁.latched.trans h₂.latched, fun id => (h₁.confirmed id).trans (h₂.confirmed id),
    fun id => (h₁.encoding id).trans (h₂.encoding id), h₁.maxInflated.trans h₂.maxInflated⟩

theorem Alike.update {d : Direction} {s t : State} (h : Alike d s t) (id : Nat) {st st' : Stream}
    {latched latched' : Sides Bool} (hl : latched.get d = latched'.get d)
    (hc : st.confirmed.get d = st'.confirmed.get d) (he : st.encoding.get d = st'.encoding.get d) :
    Alike d { s.setStream id st with latched } { t.setStream id st' with latched := latched' } := by
  refine ⟨hl, fun id' => ?_, fun id' => ?_, h.maxInflated⟩
  · change ((s.setStream id st).stream id').confirmed.get d = ((t.setStream id st').stream id').confirmed.get d
    rw [stream_setStream, stream_setStream]
    split_ifs
    · exact hc
    · exact h.confirmed id'
  · change ((s.setStream id st).stream id').encoding.get d = ((t.setStream id st').stream id').encoding.get d
    rw [stream_setStream, stream_setStream]
    split_ifs
    · exact he
    · exact h.encoding id'

theorem Alike.update_left {d : Direction} {s t : State} (h : Alike d s t) (id : Nat) {st : Stream}
    {latched : Sides Bool} (hl : latched.get d = s.latched.get d)
    (hc : st.confirmed.get d = (s.stream id).confirmed.get d)
    (he : st.encoding.get d = (s.stream id).encoding.get d) :
    Alike d { s.setStream id st with latched } t := by
  refine ⟨hl.trans h.latched, fun id' => ?_, fun id' => ?_, h.maxInflated⟩
  · change ((s.setStream id st).stream id').confirmed.get d = _
    rw [stream_setStream]
    split_ifs with hid
    · subst hid
      exact hc.trans (h.confirmed _)
    · exact h.confirmed id'
  · change ((s.setStream id st).stream id').encoding.get d = _
    rw [stream_setStream]
    split_ifs with hid
    · subst hid
      exact he.trans (h.encoding _)
    · exact h.encoding id'

end State

theorem renderMessage_congr {s t : State} {d : Direction} (h : State.Alike d s t) (f : Http2.Frame)
    (payload : Bytes) : renderMessage s d f payload = renderMessage t d f payload := by
  unfold renderMessage State.encodingOf
  rw [h.encoding, h.maxInflated]

theorem agree_frame (d : Direction) (f : Http2.Frame) :
    Agree (State.Alike d) (extension.frame d f) := by
  intro s t h
  dsimp only [extension]
  split
  · refine agreeAt_get_bind ?_
    rw [State.isGrpc_eq, State.isGrpc_eq, h.latched, h.confirmed, renderMessage_congr h]
    split
    · exact agreeAt_pure _ h
    · split <;> exact agreeAt_pure _ h
  · exact agreeAt_pure _ h

theorem keep_frame (d : Direction) (f : Http2.Frame) :
    Keep (State.Alike d.opposite) (extension.frame d f) := by
  intro s t h
  dsimp only [extension]
  split
  · refine keepAt_get_bind ?_
    split
    · exact keepAt_pure _ h
    · split <;> exact keepAt_pure _ h
  · exact keepAt_pure _ h

theorem agree_headers (d : Direction) (f : Http2.Frame) (hs : Http2.HeaderList) :
    Agree (State.Alike d) (extension.headers d f hs) := by
  intro s t h
  dsimp only [extension]
  split
  · exact agreeAt_pure _ h
  · refine agreeAt_get_bind (agreeAt_set (h.update _ ?_ ?_ ?_))
    · split
      · split_ifs <;> simp [h.latched]
      · exact h.latched
    · split <;> split <;> simp [h.confirmed]
    · split <;> split <;> simp [h.encoding]

theorem keep_headers (d : Direction) (f : Http2.Frame) (hs : Http2.HeaderList) :
    Keep (State.Alike d.opposite) (extension.headers d f hs) := by
  intro s t h
  dsimp only [extension]
  split
  · exact keepAt_pure _ h
  · refine keepAt_get_bind (keepAt_set (h.update_left _ ?_ ?_ ?_))
    · split
      · split_ifs <;> simp
      · rfl
    · split <;> split <;> simp
    · split <;> split <;> simp

theorem extension_lanes : extension.Lanes State.Alike where
  equivalence := State.alike_equivalence
  rawChunk _ := rfl
  headers := agree_headers
  frame := agree_frame
  headers_opposite := keep_headers
  frame_opposite := keep_frame

end Grpc

end Dissect
