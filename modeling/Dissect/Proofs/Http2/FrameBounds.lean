import Mathlib
import Dissect.Proofs.Http2.History

/-!
# The largest frame each side may send

Each direction's frame buffer refuses frames longer than its bound. The bound starts as the
configured one, brought into the range HTTP/2 allows. A side that announces a largest frame size
in a SETTINGS frame that is no acknowledgement sets the bound of the other side's frames, again
brought into range; an upgrade request's `HTTP2-Settings` counts as a SETTINGS frame of the client.
-/

set_option autoImplicit false

namespace Dissect.Http2

open Dissecting

/-! ## What a history announces -/

/-- The value of the last entry `id` of a SETTINGS frame. -/
def Frame.lastSetting (f : Frame) (id : Nat) : Option Nat :=
  match f.body with
  | .settings values => ((values.filter (·.1 == id)).getLast?).map (·.2)
  | _ => none

theorem Frame.setting?_eq_lastSetting (f : Frame) (id : Nat) :
    f.setting? id = f.lastSetting id := by
  cases hb : f.body <;> simp [Frame.setting?, Frame.lastSetting, hb, List.getLast?_filter]

/-- The largest frame size an event announces for the frames of direction `d`: a SETTINGS frame
of the other side, no acknowledgement, with a MAX_FRAME_SIZE entry. -/
def Event.announces (d : Direction) : Event → Option Nat
  | .frame d' f =>
    if d' = d.opposite ∧ f.has ack = false then f.lastSetting maxFrameSizeSetting else none
  | _ => none

def lastAnnounced (d : Direction) (events : List Event) : Option Nat :=
  (events.filterMap (Event.announces d)).getLast?

theorem lastAnnounced_append (d : Direction) (events : List Event) (e : Event) :
    lastAnnounced d (events ++ [e]) = (e.announces d).or (lastAnnounced d events) := by
  unfold lastAnnounced
  rw [List.filterMap_append, List.getLast?_append]
  cases he : e.announces d <;> simp [he]

/-! ## What changes a bound -/

namespace FrameBuffer

theorem maxFrameSize_of_takePreface {b b' : FrameBuffer} (h : b.takePreface = .ok (some b')) :
    b'.maxFrameSize = b.maxFrameSize := by
  unfold takePreface at h
  split at h
  · cases h
    rfl
  · dsimp only at h
    split at h
    · cases h
    · split at h
      · cases h
      · cases h
        rfl

/-- Splitting a frame off leaves the bound as it is. -/
@[simp] theorem maxFrameSize_next (b : FrameBuffer) : b.next.1.maxFrameSize = b.maxFrameSize := by
  unfold next
  split
  · rfl
  · rfl
  · rename_i b' hb'
    rw [← maxFrameSize_of_takePreface hb']
    split
    · rfl
    · split
      · rfl
      · split
        split <;> rfl

@[simp] theorem maxFrameSize_push (b : FrameBuffer) (data : Bytes) :
    (b.push data).maxFrameSize = b.maxFrameSize := rfl

end FrameBuffer

namespace Session

variable {σ : Type}

theorem settingsBuffers_maxFrameSize (d d' : Direction) (f : Frame) (bufs : Sides FrameBuffer) :
    ((settingsBuffers d f bufs).get d').maxFrameSize =
      (((Event.frame d f).announces d').map Config.clampFrameSize).getD
        (bufs.get d').maxFrameSize := by
  simp only [settingsBuffers, Event.announces, ← Frame.setting?_eq_lastSetting]
  by_cases hack : f.has ack = true
  · simp [hack]
  · cases hs : f.setting? maxFrameSizeSetting <;>
      cases d <;> cases d' <;> simp [hack, Sides.modify, Sides.set, Sides.get, Direction.opposite,
        FrameBuffer.setMaxFrameSize]

/-- The bound on the frames of direction `d`: its buffer's, or the configured one while there are
no buffers. -/
def frameBound {τ : Type} (s : Session τ) (d : Direction) : Nat :=
  match s.buffers with
  | some bufs => (bufs.get d).maxFrameSize
  | none => s.maxFrameSize

def BoundsAnnounced (configured : Nat) (s : Session (σ × List Event)) : Prop :=
  ∀ d, s.frameBound d = Config.clampFrameSize ((lastAnnounced d s.ext.2).getD configured)

def BoundsOpen (configured : Nat) (s : Session (σ × List Event)) : Prop :=
  s.BoundsAnnounced configured ∧ s.buffers.isSome = true

variable {m : Nat} {s : Session (σ × List Event)}

theorem BoundsAnnounced.withExt (h : s.BoundsAnnounced m) {e : σ × List Event}
    (he : ∀ d, lastAnnounced d e.2 = lastAnnounced d s.ext.2) :
    BoundsAnnounced m { s with ext := e } := fun d => by
  simp only [BoundsAnnounced, frameBound] at h ⊢
  rw [he]
  exact h d

theorem BoundsAnnounced.note (h : s.BoundsAnnounced m) {e : Event}
    (he : ∀ d, e.announces d = none) (a : σ) :
    BoundsAnnounced m { s with ext := (a, s.ext.2 ++ [e]) } :=
  h.withExt fun d => by rw [lastAnnounced_append, he, Option.none_or]

theorem BoundsAnnounced.setBuffer (h : s.BoundsAnnounced m) {bufs : Sides FrameBuffer}
    (hs : s.buffers = some bufs) {d : Direction} {b : FrameBuffer}
    (hb : b.maxFrameSize = (bufs.get d).maxFrameSize) :
    BoundsAnnounced m { s with buffers := some (bufs.set d b) } := fun d' => by
  rw [← h d']
  simp only [frameBound, hs]
  cases d <;> cases d' <;> simp [Sides.set, Sides.get, hb]

theorem BoundsOpen.settings (h : s.BoundsOpen m) (d : Direction) (f : Frame) (a : σ) :
    BoundsOpen m
      { s with
        ext := (a, s.ext.2 ++ [.frame d f])
        buffers := s.buffers.map (settingsBuffers d f) } := by
  obtain ⟨hb, hopen⟩ := h
  obtain ⟨bufs, hs⟩ := Option.isSome_iff_exists.1 hopen
  refine ⟨fun d' => ?_, by simp [hs]⟩
  have hd' := hb d'
  simp only [frameBound, hs, Option.map_some] at hd' ⊢
  rw [settingsBuffers_maxFrameSize, lastAnnounced_append, hd']
  cases (Event.frame d f).announces d' <;> rfl

/-! ## Every step keeps the bounds in step with the history -/

section Steps

variable {x : Extension σ}

theorem exec_lift_note {α : Type} (e : Event) (n : Dissecting σ α)
    (u : Session (σ × List Event)) :
    (exec (lift (do modify (note e); onFirst n)) u).2 =
      { u with ext := ((exec n u.ext.1).2, u.ext.2 ++ [e]) } := by
  rw [exec_lift, exec_note_onFirst]

theorem keep_boundsAnnounced_lift_note {α : Type} (e : Event) (he : ∀ d, e.announces d = none)
    (n : Dissecting σ α) :
    Keep (fun v _ => v.BoundsAnnounced m) (lift (do modify (note e); onFirst n)) := by
  intro u t hu
  unfold KeepAt
  rw [exec_lift_note]
  exact hu.note he _

theorem keep_boundsOpen_lift_note {α : Type} (e : Event) (he : ∀ d, e.announces d = none)
    (n : Dissecting σ α) :
    Keep (fun v _ => v.BoundsOpen m) (lift (do modify (note e); onFirst n)) := by
  intro u t hu
  unfold KeepAt
  rw [exec_lift_note]
  exact ⟨hu.1.note he _, hu.2⟩

theorem keep_boundsAnnounced_lift_onFirst {α : Type} (n : Dissecting σ α) :
    Keep (fun v _ => v.BoundsAnnounced m) (lift (onFirst n)) := by
  intro u t hu
  unfold KeepAt
  rw [exec_lift, exec_onFirst]
  exact hu.withExt fun _ => rfl

theorem keep_boundsOpen_decodeBlock (d : Direction) (block : Bytes) :
    Keep (fun v _ => v.BoundsOpen m) (decodeBlock (σ := σ × List Event) d block) := by
  intro u t hu
  unfold KeepAt
  rw [exec_decodeBlock]
  exact hu

theorem keep_boundsOpen_renderHeaders (d : Direction) (f : Frame) :
    Keep (fun v _ => v.BoundsOpen m) (renderHeaders x.watching d f) := by
  intro u t hu
  unfold renderHeaders
  refine keepAt_get_bind ?_
  dsimp only
  split
  · refine (keepAt_set ?_).bind fun _ _ h' => keepAt_throw _ h'
    exact hu
  · exact (keep_boundsOpen_decodeBlock d _ u t hu).bind fun _ u' h' =>
      (keep_boundsOpen_lift_note (.headers d f _) (fun _ => rfl) _ u' t h').bind fun _ _ h'' =>
        keepAt_pure _ h''

theorem keepAt_boundsOpen_renderFrame {d : Direction} {f : Frame} {u : Session (σ × List Event)}
    (hu : ∀ a : σ, BoundsOpen m { u with ext := (a, u.ext.2 ++ [.frame d f]) })
    (t : Session (σ × List Event)) :
    KeepAt (fun v _ => v.BoundsOpen m) (renderFrame x.watching d f) u t := by
  unfold renderFrame
  refine KeepAt.bind ?_ fun o u' h' => ?_
  · unfold KeepAt
    rw [show x.watching.frame d f = do modify (note (.frame d f)); onFirst (x.frame d f) from rfl,
      exec_lift_note]
    exact hu _
  · split
    · exact keepAt_pure _ h'
    · split
      · exact keep_boundsOpen_renderHeaders d f u' t h'
      · exact keep_boundsOpen_renderHeaders d f u' t h'
      · exact keep_boundsOpen_renderHeaders d f u' t h'
      · exact keepAt_pure _ h'
      · exact keepAt_pure _ h'
      · exact keepAt_pure _ h'

theorem keep_boundsOpen_applyRender (d : Direction) (f : Frame) :
    Keep (fun v _ => v.BoundsOpen m) (do
      applySettings d f
      let content ← renderFrame x.watching d f
      pure (⟨d, content ++ [10]⟩ : Chunk)) := by
  intro u t hu
  unfold KeepAt
  rw [exec_bind_of_ok (exec_applySettings d f u)]
  exact (keepAt_boundsOpen_renderFrame (fun a => hu.settings d f a) t).bind fun _ _ h' =>
    keepAt_pure _ h'

theorem keep_boundsOpen_frameChunk (d : Direction) (h : FrameHeader) (payload : Bytes) :
    Keep (fun v _ => v.BoundsOpen m) (frameChunk x.watching d h payload) := by
  intro u t hu
  unfold frameChunk
  refine KeepAt.recovering ?_ _
  dsimp only
  split
  · rw [pure_bind]
    exact keep_boundsOpen_applyRender d _ u t hu
  · exact keepAt_throw_bind hu

theorem keep_boundsOpen_drain (d : Direction) :
    ∀ fuel acc, Keep (fun v _ => v.BoundsOpen m) (drain x.watching d fuel acc)
  | 0, _ => fun _ _ h => keepAt_pure _ h
  | fuel + 1, acc => fun u t hu => by
    rw [drain]
    refine keepAt_get_bind ?_
    dsimp only
    split
    · rename_i bufs hbufs
      refine (keepAt_set ?_).bind fun _ u' h' => ?_
      · exact ⟨hu.1.setBuffer hbufs (FrameBuffer.maxFrameSize_next _), rfl⟩
      split
      · exact keepAt_pure _ h'
      · exact keepAt_pure _ h'
      · exact (keep_boundsOpen_frameChunk d _ _ u' t h').bind fun _ u'' h'' =>
          keep_boundsOpen_drain d fuel _ u'' t h''
    · exact keepAt_pure _ hu

theorem keep_boundsAnnounced_feed (d : Direction) (data : Bytes) :
    Keep (fun v _ => v.BoundsAnnounced m) (feed x.watching d data) := by
  intro u t hu
  unfold feed
  refine keepAt_get_bind ?_
  split
  · exact keepAt_pure _ hu
  · rename_i bufs hbufs
    unfold KeepAt
    rw [exec_bind, exec_set]
    exact (keep_boundsOpen_drain d _ _ _ t
      ⟨hu.setBuffer hbufs (FrameBuffer.maxFrameSize_push _ _), rfl⟩).1

theorem keep_boundsOpen_upgradeSettings (encoded : String) :
    Keep (fun v _ => v.BoundsOpen m) (upgradeSettings x.watching encoded) := by
  intro u t hu
  unfold upgradeSettings
  split
  · simp only [pure_bind]
    split
    · exact keep_boundsOpen_applyRender .client _ u t hu
    · exact keepAt_throw_bind hu
  · exact keepAt_throw_bind hu

theorem keepAt_announced_of_open {α : Type} {n : Dissecting (Session (σ × List Event)) α}
    {u t : Session (σ × List Event)} (h : KeepAt (fun v _ => v.BoundsOpen m) n u t) :
    KeepAt (fun v _ => v.BoundsAnnounced m) n u t :=
  h.1

theorem keepAt_boundsOpen_ensureBuffers {u : Session (σ × List Event)} (hu : u.BoundsAnnounced m)
    (t : Session (σ × List Event)) :
    KeepAt (fun v _ => v.BoundsOpen m) (ensureBuffers (σ := σ × List Event)) u t := by
  unfold KeepAt ensureBuffers
  rw [exec_modify]
  split
  · rename_i hbufs
    exact ⟨hu, by simp [hbufs]⟩
  · rename_i hnone
    refine ⟨fun d => ?_, rfl⟩
    rw [← hu d]
    cases d <;> simp [frameBound, hnone, FrameBuffer.forClient, FrameBuffer.forServer, Sides.get]

theorem keep_boundsAnnounced_hooks_rawChunk (c : Chunk) :
    Keep (fun v _ => v.BoundsAnnounced m) (x.watching.hooks.rawChunk c) := by
  intro u t hu
  dsimp only [Extension.hooks]
  refine (keep_boundsAnnounced_lift_onFirst (x.rawChunk c) u t hu).bind fun o u' h' => ?_
  split
  · exact keepAt_pure _ h'
  · refine keepAt_get_bind ?_
    split
    · exact (keep_boundsAnnounced_feed _ _ u' t h').bind fun _ _ h'' => keepAt_pure _ h''
    · split
      · refine (keepAt_announced_of_open (keepAt_boundsOpen_ensureBuffers h' t)).bind
          fun _ _ h₂ => (keepAt_modify ?_).bind fun _ _ h₃ =>
            (keep_boundsAnnounced_feed _ _ _ t h₃).bind fun _ _ h₄ => keepAt_pure _ h₄
        exact h₂
      · exact keepAt_pure _ h'

theorem keep_boundsAnnounced_hooks_request (c : Chunk) (r : Http1.Request) :
    Keep (fun v _ => v.BoundsAnnounced m) (x.watching.hooks.request c r) := by
  intro u t hu
  dsimp only [Extension.hooks]
  refine (keep_boundsAnnounced_lift_note (.request c r) (fun _ => rfl) (x.request c r) u t hu).bind
    fun o u' h' => ?_
  split
  · exact keepAt_pure _ h'
  · split
    · refine keepAt_announced_of_open
        ((keepAt_boundsOpen_ensureBuffers h' t).bind fun _ u'' h'' => ?_)
      split
      · exact (keep_boundsOpen_upgradeSettings _ u'' t h'').bind fun _ _ h₃ => keepAt_pure _ h₃
      · exact keepAt_pure _ h''
    · exact keepAt_pure _ h'

theorem keep_boundsAnnounced_switch (c : Chunk) (r : Http1.Response) :
    Keep (fun v _ => v.BoundsAnnounced m) (do
      modify fun s : Session (σ × List Event) => { s with active := true }
      let out ← feed x.watching c.direction r.body
      pure (⟨c.direction, r.head ++ Http1.blankLine⟩ :: out)) := by
  intro u t hu
  refine (keepAt_modify ?_).bind fun _ _ h' =>
    (keep_boundsAnnounced_feed _ _ _ t h').bind fun _ _ h'' => keepAt_pure _ h''
  exact hu

theorem keep_boundsAnnounced_hooks_response (c : Chunk) (r : Http1.Response) :
    Keep (fun v _ => v.BoundsAnnounced m) (x.watching.hooks.response c r) := by
  intro u t hu
  dsimp only [Extension.hooks]
  refine (keep_boundsAnnounced_lift_note (.response c r) (fun _ => rfl) (x.response c r) u t
    hu).bind fun o u' h' => ?_
  split
  · exact keepAt_pure _ h'
  · split
    · refine keepAt_get_bind ?_
      split
      · exact (keepAt_throw _ h').bind fun _ u'' h'' => keep_boundsAnnounced_switch c r u'' t h''
      · exact keep_boundsAnnounced_switch c r u' t h'
    · exact keepAt_get_bind (keepAt_pure _ h')

theorem keep_boundsAnnounced_chunk (c : Chunk) :
    Keep (fun v _ => v.BoundsAnnounced m) (x.watching.hooks.chunk c) :=
  Http1.Hooks.keep_chunk _ c (keep_boundsAnnounced_hooks_rawChunk c)
    (keep_boundsAnnounced_hooks_request c) (keep_boundsAnnounced_hooks_response c)

/-- A whole run keeps the bounds in step with the history. -/
theorem boundsAnnounced_after (cs : List Chunk) {u : Session (σ × List Event)}
    (hu : u.BoundsAnnounced m) : (x.watching.hooks.after u cs).BoundsAnnounced m := by
  induction cs generalizing u with
  | nil => exact hu
  | cons c cs ih => exact ih (keep_boundsAnnounced_chunk c u u hu)

end Steps

end Session

open Session in
/-- In every state a run reaches, each direction's frame bound lies in the range HTTP/2 allows,
and it is the largest frame size the other side announced last, in a SETTINGS frame that is no
acknowledgement (an upgrade request's `HTTP2-Settings` being the client's), brought into range;
while the other side announced none, it is the configured bound brought into range. -/
theorem frameBound_last_announced {σ : Type} (x : Extension σ) (start : σ) (config : Config)
    (cs : List Chunk) :
    let u := x.hooks.after (Session.initial start config) cs
    let t := x.watching.hooks.after (Session.initial (start, []) config) cs
    Matches Beneath u t ∧
      ∀ bufs, u.buffers = some bufs → ∀ d,
        (Config.minFrameSize ≤ (bufs.get d).maxFrameSize ∧
          (bufs.get d).maxFrameSize ≤ Config.maxAllowedFrameSize) ∧
        (bufs.get d).maxFrameSize =
          Config.clampFrameSize ((lastAnnounced d t.ext.2).getD config.maxFrameSize) := by
  intro u t
  have hmatch : Matches Beneath u t := x.matches_after_watching cs start config
  have hbounds : t.BoundsAnnounced config.maxFrameSize := boundsAnnounced_after cs fun _ => rfl
  refine ⟨hmatch, fun bufs hbufs d => ?_⟩
  have hd := hbounds d
  simp only [frameBound, ← hmatch.buffers, hbufs] at hd
  exact ⟨hd ▸ Config.clampFrameSize_mem _, hd⟩

open Session in
/-- A client that opens with a SETTINGS frame raising the largest frame size to 20000: the buffers
are made, the server's frames are bounded by 20000 and the client's keep the default bound. -/
theorem frameBound_last_announced_settings :
    let cs : List Chunk := [⟨.client, preface ++ [0, 0, 6, 4, 0, 0, 0, 0, 0, 0, 5, 0, 0, 0x4e, 0x20]⟩]
    let u := Extension.plain.hooks.after (Session.initial () {}) cs
    ∃ bufs, u.buffers = some bufs ∧ (bufs.get .server).maxFrameSize = 20000 ∧
      (bufs.get .client).maxFrameSize = 16384 := by
  intro cs u
  obtain ⟨-, hbound⟩ := frameBound_last_announced Extension.plain () {} cs
  obtain ⟨hsome, hserver, hclient⟩ : u.buffers.isSome = true ∧
      lastAnnounced .server
        (Extension.plain.watching.hooks.after (Session.initial ((), []) {}) cs).ext.2 = some 20000 ∧
      lastAnnounced .client
        (Extension.plain.watching.hooks.after (Session.initial ((), []) {}) cs).ext.2 = none := by
    decide +kernel
  obtain ⟨bufs, hbufs⟩ := Option.isSome_iff_exists.1 hsome
  refine ⟨bufs, hbufs, ?_, ?_⟩
  · rw [(hbound bufs hbufs .server).2, hserver]
    rfl
  · rw [(hbound bufs hbufs .client).2, hclient]
    rfl

end Dissect.Http2
