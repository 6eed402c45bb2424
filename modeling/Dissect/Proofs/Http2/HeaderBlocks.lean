import Mathlib
import Dissect.Proofs.Dissection.Directions

/-!
# One HPACK decoder per direction

Each direction keeps its own HPACK table and its own flag for a header block left open
(`BlockState.step`). A session renders a direction's header-class frames as that direction's
block state says and leaves the other direction's alone.
-/

set_option autoImplicit false

namespace Dissect.Http2

open Dissecting

variable {σ : Type}

/-- What one direction keeps for its header blocks: the table of its HPACK decoder, and whether a
header block without END_HEADERS is open. -/
structure BlockState where
  table : Hpack.DynamicTable
  isOpen : Bool

/-- A header-class frame against its direction's block state. A fragment, and any block after
one, is refused and leaves the table alone; any other block is decoded with the table. -/
def BlockState.step (st : BlockState) (f : Frame) : BlockState × Except Issue (List Hpack.Field) :=
  if st.isOpen || !f.has endHeaders then
    (⟨st.table, !f.has endHeaders⟩,
      .error (.frame s!"fragmented header blocks are not supported ({f.display})"))
  else
    let (table, r) := st.table.decode (f.headerBlock?.getD [])
    (⟨table, false⟩, r.mapError fun e => .hpack e.message)

def fieldText (f : Frame) (fields : List Hpack.Field) : Bytes :=
  Bytes.ofString (f.display ++ "\n" ++
    Session.fieldLines (fields.map fun (n, v) => (Utf8.lossy n, Utf8.lossy v)))

def headerChunk (d : Direction) (f : Frame) : Except Issue (List Hpack.Field) → Chunk
  | .ok fields => ⟨d, fieldText f fields ++ [10]⟩
  | .error e => Chunk.text d s!"Unable to parse HTTP2 frame: {e.message}"

/-- The header-class frame that a frame's header and payload parse as, if they do. -/
def headerFrame? (h : FrameHeader) (payload : Bytes) : Option Frame :=
  match Frame.parse h payload with
  | .ok f => if f.isHeaderClass then some f else none
  | .error _ => none

/-- What the frames of `d` render as far as header blocks go: for each frame that parses as a
header-class frame, its chunk, with one block state carried from block to block; `none` for
every other frame. -/
def headerChunks (d : Direction) : BlockState → List (FrameHeader × Bytes) → List (Option Chunk)
  | _, [] => []
  | st, (h, payload) :: frames =>
    match headerFrame? h payload with
    | some f => some (headerChunk d f (st.step f).2) :: headerChunks d (st.step f).1 frames
    | none => none :: headerChunks d st frames

def Session.blockState (s : Session σ) (d : Direction) : BlockState :=
  ⟨s.tables.get d, s.openBlock.get d⟩

/-- Hooks that leave header-class frames to HTTP/2: the frame hook declines them, and the headers
hook raises nothing. -/
structure Extension.LeavesHeaders (x : Extension σ) : Prop where
  frame : ∀ d f, f.isHeaderClass = true → ∀ s, (exec (x.frame d f) s).1 = .ok none
  headers : ∀ d f hs, Raises (fun _ => False) (x.headers d f hs)

theorem headerFrame?_eq_some {h : FrameHeader} {payload : Bytes} {f : Frame}
    (hf : headerFrame? h payload = some f) :
    Frame.parse h payload = .ok f ∧ f.isHeaderClass = true := by
  unfold headerFrame? at hf
  split at hf
  · split_ifs at hf with hc
    cases hf
    exact ⟨by assumption, hc⟩
  · cases hf

theorem BlockState.step_error_isFatal (st : BlockState) (f : Frame) {e : Issue}
    (he : (st.step f).2 = .error e) : e.isFatal = false := by
  unfold BlockState.step at he
  split at he
  · cases he
    rfl
  · dsimp only at he
    generalize (st.table.decode (f.headerBlock?.getD [])).2 = r at he
    cases r with
    | ok _ => cases he
    | error e' =>
      cases he
      rfl

namespace Session

theorem exec_decodeBlock (d : Direction) (block : Bytes) (s : Session σ) :
    exec (decodeBlock d block) s =
      (((s.tables.get d).decode block).2.mapError fun e => Issue.hpack e.message,
        { s with tables := s.tables.set d ((s.tables.get d).decode block).1 }) := by
  unfold decodeBlock
  rw [exec_bind, exec_get]
  dsimp only
  rcases hdec : (s.tables.get d).decode block with ⟨t, r⟩
  dsimp only
  rw [exec_bind, exec_set]
  cases r <;> rfl

variable {x : Extension σ}

theorem exec_renderHeaders (hx : x.LeavesHeaders) (d : Direction) (f : Frame) (s : Session σ) :
    (exec (renderHeaders x d f) s).1 = ((s.blockState d).step f).2.map (fieldText f) ∧
      (exec (renderHeaders x d f) s).2.blockState d = ((s.blockState d).step f).1 ∧
      (exec (renderHeaders x d f) s).2.blockState d.opposite = s.blockState d.opposite := by
  unfold renderHeaders
  rw [exec_bind, exec_get]
  dsimp only
  by_cases hopen : (s.openBlock.get d || !f.has endHeaders) = true
  · rw [if_pos hopen]
    simp [exec_bind, BlockState.step, blockState, hopen, Except.map]
  · rw [if_neg hopen, exec_bind, exec_decodeBlock]
    have hclosed : s.openBlock.get d = false ∧ f.has endHeaders = true := by simpa using hopen
    rcases hdec : (s.tables.get d).decode (f.headerBlock?.getD []) with ⟨t, r⟩
    cases r with
    | error e => simp [BlockState.step, blockState, hclosed, hdec, Except.mapError, Except.map]
    | ok fields =>
      obtain ⟨u, hu⟩ := (hx.headers d f (fields.map fun (n, v) => (Utf8.lossy n, Utf8.lossy v))).exec_ok
        { s with tables := s.tables.set d t }.ext
      simp [hdec, Except.mapError, lift, exec_within, hu, BlockState.step, blockState,
        hclosed, fieldText, Except.map]

theorem exec_renderFrame_of_headerClass (hx : x.LeavesHeaders) (d : Direction) {f : Frame}
    (hc : f.isHeaderClass = true) (s : Session σ) :
    exec (renderFrame x d f) s =
      exec (renderHeaders x d f) { s with ext := (exec (x.frame d f) s.ext).2 } := by
  unfold renderFrame
  rw [exec_bind]
  rcases hframe : exec (x.frame d f) s.ext with ⟨r, e⟩
  have hr : r = .ok none := by simpa [hframe] using hx.frame d f hc s.ext
  subst hr
  rw [show exec (lift (x.frame d f)) s = (.ok none, { s with ext := e }) by
    simp only [lift, exec_within, hframe]]
  dsimp only
  obtain ⟨flags, streamId, body⟩ := f
  cases body <;> simp_all [Frame.isHeaderClass, Frame.headerBlock?]

theorem exec_frameChunk_of_headerFrame (hx : x.LeavesHeaders) (d : Direction) {h : FrameHeader}
    {payload : Bytes} {f : Frame} (hf : headerFrame? h payload = some f) (s : Session σ) :
    (exec (frameChunk x d h payload) s).1 = .ok (headerChunk d f ((s.blockState d).step f).2) ∧
      (exec (frameChunk x d h payload) s).2.blockState d = ((s.blockState d).step f).1 ∧
      (exec (frameChunk x d h payload) s).2.blockState d.opposite = s.blockState d.opposite := by
  obtain ⟨hparse, hc⟩ := headerFrame?_eq_some hf
  set s₁ : Session σ := { s with
    buffers := s.buffers.map (settingsBuffers d f)
    ext := (exec (x.frame d f) s.ext).2 }
  have hblock : ∀ d', s₁.blockState d' = s.blockState d' := fun _ => rfl
  obtain ⟨hres, hself, hother⟩ := exec_renderHeaders hx d f s₁
  simp only [hblock] at hres hself hother
  unfold frameChunk
  rw [Dissecting.recovering, exec_tryCatch]
  dsimp only
  simp only [hparse, pure_bind]
  rw [exec_bind, exec_applySettings]
  dsimp only
  rw [exec_bind, exec_renderFrame_of_headerClass hx d hc]
  rcases hR : exec (renderHeaders x d f) s₁ with ⟨r, s₂⟩
  rw [hR] at hres hself hother
  dsimp only at hres hself hother
  rcases hstep : ((s.blockState d).step f).2 with e | fields
  · rw [hstep] at hres
    cases hres
    have hfatal := (s.blockState d).step_error_isFatal f hstep
    simp [hfatal, headerChunk, Except.map, hself, hother]
  · rw [hstep] at hres
    cases hres
    exact ⟨rfl, hself, hother⟩

def SameBlocks (s t : Session σ) : Prop := s.tables = t.tables ∧ s.openBlock = t.openBlock

theorem SameBlocks.blockState_eq {s t : Session σ} (h : SameBlocks s t) (d : Direction) :
    s.blockState d = t.blockState d := by
  rw [Session.blockState, Session.blockState, h.1, h.2]

theorem keep_sameBlocks_lift {α : Type} (m : Dissecting σ α) : Keep SameBlocks (lift m) := fun _ _ h => h

theorem keep_sameBlocks_applySettings (d : Direction) (f : Frame) :
    Keep SameBlocks (applySettings (σ := σ) d f) := by
  intro s t h
  unfold KeepAt
  rw [exec_applySettings]
  exact h

theorem keep_sameBlocks_renderFrame (d : Direction) {f : Frame} (hc : f.isHeaderClass = false) :
    Keep SameBlocks (renderFrame x d f) := by
  intro s t h
  have hblock : f.headerBlock? = none := by simpa [Frame.isHeaderClass] using hc
  unfold renderFrame
  refine (keep_sameBlocks_lift _ s t h).bind fun o s' h' => ?_
  split
  · exact keepAt_pure _ h'
  · split
    next hb => simp [Frame.headerBlock?, hb] at hblock
    next hb => simp [Frame.headerBlock?, hb] at hblock
    next hb => simp [Frame.headerBlock?, hb] at hblock
    all_goals exact keepAt_pure _ h'

theorem keep_sameBlocks_frameChunk (d : Direction) {h : FrameHeader} {payload : Bytes}
    (hnone : headerFrame? h payload = none) : Keep SameBlocks (frameChunk x d h payload) := by
  intro s t hst
  unfold frameChunk
  refine KeepAt.recovering ?_ _
  dsimp only
  split
  · rename_i f hparse
    have hc : f.isHeaderClass = false := by
      unfold headerFrame? at hnone
      rw [hparse] at hnone
      simpa using hnone
    rw [pure_bind]
    exact (keep_sameBlocks_applySettings d f s t hst).bind fun _ s' h' =>
      (keep_sameBlocks_renderFrame d hc s' t h').bind fun _ _ h'' => keepAt_pure _ h''
  · unfold KeepAt
    rw [exec_bind, exec_throw]
    exact hst

end Session

open Session

/-- Rendering frames of `d` one after another gives, for each header-class frame, the chunk that
one block state, carried from block to block, gives it. -/
theorem frameChunks_headerChunks {x : Extension σ} (hx : x.LeavesHeaders) (hr : x.Recoverable)
    (d : Direction) :
    ∀ (frames : List (FrameHeader × Bytes)) (s : Session σ), ∃ outs,
      (exec (frameChunks x d frames) s).1 = .ok outs ∧
        List.Forall₂ (fun o c => ∀ c' ∈ o, c' = c) (headerChunks d (s.blockState d) frames) outs
  | [], _ => ⟨[], rfl, .nil⟩
  | (h, payload) :: frames, s => by
    obtain ⟨c, s₁, hstep⟩ := (raises_frameChunk hr d h payload).exec_eq_ok s
    obtain ⟨outs, hres, hall⟩ := frameChunks_headerChunks hx hr d frames s₁
    refine ⟨c :: outs, ?_, ?_⟩
    · rw [exec_frameChunks_cons_of_ok (f := (h, payload)) hstep, hres]
      rfl
    rcases hf : headerFrame? h payload with _ | f
    · have hsame := (keep_sameBlocks_frameChunk (x := x) d hf s s ⟨rfl, rfl⟩).blockState_eq d
      rw [hstep] at hsame
      simp only [headerChunks, hf]
      rw [← hsame]
      exact .cons (by simp) hall
    · obtain ⟨hres', hblock, -⟩ := exec_frameChunk_of_headerFrame hx d hf s
      rw [hstep] at hres' hblock
      have hc : c = headerChunk d f ((s.blockState d).step f).2 := by simpa using hres'
      simp only [headerChunks, hf]
      rw [← hblock]
      exact .cons (by simp [hc]) hall

theorem Extension.plain_leavesHeaders : Extension.plain.LeavesHeaders where
  frame _ _ _ _ := rfl
  headers _ _ _ := raises_pure _

/-- A session switched to frames has a fresh table and no open block in either direction. -/
@[simp] theorem Session.blockState_opened (start : σ) (maxFrameSize maxInflated : Nat)
    (d : Direction) : (opened start maxFrameSize maxInflated).blockState d = ⟨{}, false⟩ := by
  cases d <;> rfl

theorem Extension.dissect_onSide_frameChunks {x : Extension σ} {A : Direction → σ → σ → Prop}
    (hx : x.Lanes A) (hr : x.Recoverable) (start : σ) {maxFrameSize : Nat} (maxInflated : Nat)
    (hmax : Config.minFrameSize ≤ maxFrameSize) {c : Chunk} {rest : List Chunk}
    (hc : c.direction = .client) (hp : preface <+: c.content)
    (hw : ∀ d, FramesWithin Config.minFrameSize (frameOctets d (octetsOf d (c :: rest))))
    (d : Direction) :
    (x.dissect start maxFrameSize maxInflated (c :: rest)).map (·.filter (·.direction = d)) =
      (exec (frameChunks x d (splitFrames (frameOctets d (octetsOf d (c :: rest)))).1)
        (opened start maxFrameSize maxInflated)).1 := by
  rw [x.dissect_onSide hx hr start maxInflated hmax hc hp hw d]
  have hs₀ : (opened start maxFrameSize maxInflated).buffers =
      some ⟨FrameBuffer.forClient maxFrameSize, FrameBuffer.forServer maxFrameSize⟩ := rfl
  rw [(feed_spec hx hr d _ hs₀
    (sound_push_opened hmax d _ (preface_prefix_octetsOf rest hc hp d) (hw d))
    (by cases d <;> exact hmax)).1, ready_data_push_opened]

end Dissect.Http2

namespace Dissect.Grpc

open Dissecting

theorem extension_leavesHeaders : extension.LeavesHeaders where
  frame d f hc s := by
    obtain ⟨flags, streamId, body⟩ := f
    cases body
    all_goals first
      | rfl
      | simp [Http2.Frame.isHeaderClass, Http2.Frame.headerBlock?] at hc
  headers d f hs := by
    dsimp only [extension]
    split
    · exact raises_pure _
    · exact raises_get.bind fun _ => raises_set _

end Dissect.Grpc

namespace Dissect

/-- The HTTP/2 dissectors decode the header blocks of each direction with one HPACK decoder of
that direction, from a fresh table: in a conversation in frame mode, every frame of a direction
that parses as a HEADERS, PUSH_PROMISE or CONTINUATION frame is rendered as one block state
carried over that direction's header-class frames alone says. A fragment, or a block after one,
is refused without touching the table; any other block is decoded with it. -/
theorem Dissector.transform_headerChunks (k : Dissector) (hk : k = .http2 ∨ k = .grpc)
    (config : Config) {cs : List Chunk} (hcs : OpensWithPreface cs)
    (hbound : ∀ d, Http2.FramesWithin Config.minFrameSize (Http2.frameOctets d (octetsOf d cs)))
    (d : Direction) :
    ∃ outs, (k.transform config cs).map (·.filter (·.direction = d)) = .ok outs ∧
      List.Forall₂ (fun o c => ∀ c' ∈ o, c' = c)
        (Http2.headerChunks d ⟨{}, false⟩
          (Http2.splitFrames (Http2.frameOctets d (octetsOf d cs))).1) outs := by
  obtain ⟨c, rest, rfl, hc, hp⟩ := hcs
  have hmax : Config.minFrameSize ≤ config.normalize.maxFrameSize :=
    (Config.clampFrameSize_mem _).1
  rcases hk with rfl | rfl
  · simp only [Dissector.transform]
    rw [Http2.Extension.dissect_onSide_frameChunks Http2.Extension.plain_lanes
      Http2.Extension.plain_recoverable () _ hmax hc hp hbound d,
      ← Http2.Session.blockState_opened () config.normalize.maxFrameSize
        config.normalize.maxInflatedSize d]
    exact Http2.frameChunks_headerChunks Http2.Extension.plain_leavesHeaders
      Http2.Extension.plain_recoverable d _ _
  · simp only [Dissector.transform]
    rw [Http2.Extension.dissect_onSide_frameChunks Grpc.extension_lanes Grpc.extension_recoverable
      _ _ hmax hc hp hbound d,
      ← Http2.Session.blockState_opened ({ maxInflated := config.normalize.maxInflatedSize } :
        Grpc.State) config.normalize.maxFrameSize config.normalize.maxInflatedSize d]
    exact Http2.frameChunks_headerChunks Grpc.extension_leavesHeaders Grpc.extension_recoverable
      d _ _

end Dissect
