import Mathlib
import Dissect.Proofs.Dissection.Relational
import Dissect.Proofs.Http2.FrameSplit

/-!
# The two directions of an HTTP/2 connection

In frame mode each direction has its own buffer, header table and open header block. A
direction's octets are rendered from that direction's lane alone, in one piece or in several,
and nothing done for one direction is seen by the other.
-/

set_option autoImplicit false

namespace Dissect.Http2

open Dissecting

variable {σ : Type}

/-- A protocol on top of HTTP/2 whose state splits by direction: `A d` relates the states that
look the same to the frames of direction `d`. Its hooks never take over a chunk, give the same
answers for `d`'s frames from states alike for `d`, and what they do for `d` is invisible to the
other direction. -/
structure Extension.Lanes (x : Extension σ) (A : Direction → σ → σ → Prop) : Prop where
  equivalence : ∀ d, Equivalence (A d)
  rawChunk : ∀ c, x.rawChunk c = pure none
  headers : ∀ d f hs, Agree (A d) (x.headers d f hs)
  frame : ∀ d f, Agree (A d) (x.frame d f)
  headers_opposite : ∀ d f hs, Keep (A d.opposite) (x.headers d f hs)
  frame_opposite : ∀ d f, Keep (A d.opposite) (x.frame d f)

namespace Session

/-- What the frames of direction `d` see of a session, besides their own buffer: the direction's
header table, whether a header block of it is open, the state of the protocol on top as `agree`
compares it, and whether frame buffers were made. -/
structure Sees (agree : σ → σ → Prop) (d : Direction) (s t : Session σ) : Prop where
  active : s.active = t.active
  tables : s.tables.get d = t.tables.get d
  openBlock : s.openBlock.get d = t.openBlock.get d
  ext : agree s.ext t.ext
  buffers : s.buffers.isSome = t.buffers.isSome

/-- Sessions alike for direction `d`: the same view of it, and buffers for it that split off the
same frames. -/
structure Lane (agree : σ → σ → Prop) (d : Direction) (s t : Session σ) : Prop
    extends Sees agree d s t where
  buffer : Option.Rel FrameBuffer.Alike (s.buffers.map (·.get d)) (t.buffers.map (·.get d))

/-- What a step for the frames of direction `d` leaves alone: the other direction's lane, and
`d`'s own buffer. -/
structure Beside (agree : σ → σ → Prop) (d : Direction) (s t : Session σ) : Prop where
  lane : Lane agree d.opposite s t
  buffer : s.buffers.map (·.get d) = t.buffers.map (·.get d)

variable {agree : σ → σ → Prop} {d : Direction}

theorem Sees.refl (hagree : Equivalence agree) (s : Session σ) : Sees agree d s s :=
  ⟨rfl, rfl, rfl, hagree.refl _, rfl⟩

theorem Sees.trans (hagree : Equivalence agree) {s t u : Session σ} (h₁ : Sees agree d s t)
    (h₂ : Sees agree d t u) : Sees agree d s u :=
  ⟨h₁.active.trans h₂.active, h₁.tables.trans h₂.tables, h₁.openBlock.trans h₂.openBlock, hagree.trans h₁.ext h₂.ext,
    h₁.buffers.trans h₂.buffers⟩

theorem Sees.setBuffer (hagree : Equivalence agree) {s : Session σ} {bufs : Sides FrameBuffer}
    (hs : s.buffers = some bufs) (b : FrameBuffer) :
    Sees agree d { s with buffers := some (bufs.set d b) } s :=
  ⟨rfl, rfl, rfl, hagree.refl _, by simp [hs]⟩

theorem Lane.trans (hagree : Equivalence agree) {s t u : Session σ} (h₁ : Lane agree d s t)
    (h₂ : Lane agree d t u) : Lane agree d s u := by
  refine ⟨h₁.toSees.trans hagree h₂.toSees, ?_⟩
  have hb₁ := h₁.buffer
  have hb₂ := h₂.buffer
  generalize s.buffers.map (·.get d) = o₁ at hb₁ ⊢
  generalize t.buffers.map (·.get d) = o₂ at hb₁ hb₂
  generalize u.buffers.map (·.get d) = o₃ at hb₂ ⊢
  cases hb₁ with
  | none => exact hb₂
  | some hab =>
    cases hb₂ with
    | some hbc => exact .some (hab.trans hbc)

theorem Lane.setBuffer {s t : Session σ} (h : Lane agree d.opposite s t) {bufs : Sides FrameBuffer}
    (hs : s.buffers = some bufs) (b : FrameBuffer) :
    Lane agree d.opposite { s with buffers := some (bufs.set d b) } t := by
  refine ⟨⟨h.active, h.tables, h.openBlock, h.ext, by simpa [hs] using h.buffers⟩, ?_⟩
  have hb := h.buffer
  rw [hs] at hb
  simpa using hb

theorem Lane.refl_of_bound (hagree : Equivalence agree) {s : Session σ} {bufs : Sides FrameBuffer}
    (hs : s.buffers = some bufs) (hb : Config.minFrameSize ≤ (bufs.get d).maxFrameSize) :
    Lane agree d s s := by
  refine ⟨Sees.refl hagree s, ?_⟩
  rw [hs]
  exact .some (FrameBuffer.Alike.refl hb)

theorem Lane.alike {s t : Session σ} (h : Lane agree d s t) {bufs bufs' : Sides FrameBuffer}
    (hs : s.buffers = some bufs) (ht : t.buffers = some bufs') :
    (bufs.get d).Alike (bufs'.get d) := by
  have hb := h.buffer
  rw [hs, ht] at hb
  cases hb with
  | some hab => exact hab

theorem Lane.beside (hagree : Equivalence agree) {s t : Session σ} (h : Lane agree d.opposite s t) :
    Beside agree d s s := by
  refine ⟨⟨Sees.refl hagree s, ?_⟩, rfl⟩
  have hb := h.buffer
  generalize s.buffers.map (·.get d.opposite) = o at hb ⊢
  generalize t.buffers.map (·.get d.opposite) = o' at hb
  cases hb with
  | none => exact .none
  | some hab => exact .some (FrameBuffer.Alike.refl hab.bound)

theorem Sees.setTables {s t : Session σ} (h : Sees agree d s t) (table : Hpack.DynamicTable) :
    Sees agree d { s with tables := s.tables.set d table } { t with tables := t.tables.set d table } :=
  ⟨h.active, by simp, h.openBlock, h.ext, h.buffers⟩

theorem Sees.setOpenBlock {s t : Session σ} (h : Sees agree d s t) (b : Bool) :
    Sees agree d { s with openBlock := s.openBlock.set d b } { t with openBlock := t.openBlock.set d b } :=
  ⟨h.active, h.tables, by simp, h.ext, h.buffers⟩

theorem Sees.setExt {s t : Session σ} (h : Sees agree d s t) {e₁ e₂ : σ} (he : agree e₁ e₂) :
    Sees agree d { s with ext := e₁ } { t with ext := e₂ } :=
  ⟨h.active, h.tables, h.openBlock, he, h.buffers⟩

theorem Beside.setTables {s t : Session σ} (h : Beside agree d s t) (table : Hpack.DynamicTable) :
    Beside agree d { s with tables := s.tables.set d table } t :=
  ⟨⟨⟨h.lane.active, by simpa using h.lane.tables, h.lane.openBlock, h.lane.ext, h.lane.buffers⟩,
    h.lane.buffer⟩, h.buffer⟩

theorem Beside.setOpenBlock {s t : Session σ} (h : Beside agree d s t) (b : Bool) :
    Beside agree d { s with openBlock := s.openBlock.set d b } t :=
  ⟨⟨⟨h.lane.active, h.lane.tables, by simpa using h.lane.openBlock, h.lane.ext, h.lane.buffers⟩,
    h.lane.buffer⟩, h.buffer⟩

theorem Beside.setExt {s t : Session σ} (h : Beside agree d s t) {e : σ} (he : agree e t.ext) :
    Beside agree d { s with ext := e } t :=
  ⟨⟨⟨h.lane.active, h.lane.tables, h.lane.openBlock, he, h.lane.buffers⟩, h.lane.buffer⟩, h.buffer⟩

theorem agree_decodeBlock (d : Direction) (block : Bytes) :
    Agree (Sees agree d) (decodeBlock (σ := σ) d block) := by
  intro s t h
  unfold decodeBlock
  refine agreeAt_get_bind ?_
  dsimp only
  rw [h.tables]
  refine (agreeAt_set (h.setTables _)).bind fun _ s' t' h' => ?_
  split
  · exact agreeAt_pure _ h'
  · exact agreeAt_throw _ h'

theorem keep_decodeBlock (d : Direction) (block : Bytes) :
    Keep (Beside agree d) (decodeBlock (σ := σ) d block) := by
  intro s t h
  unfold decodeBlock
  refine keepAt_get_bind ?_
  dsimp only
  refine (keepAt_set (h.setTables _)).bind fun _ s' h' => ?_
  split
  · exact keepAt_pure _ h'
  · exact keepAt_throw _ h'

variable {x : Extension σ} {A : Direction → σ → σ → Prop}

theorem agree_renderHeaders (hx : x.Lanes A) (d : Direction) (f : Frame) :
    Agree (Sees (A d) d) (renderHeaders x d f) := by
  intro s t h
  unfold renderHeaders
  refine agreeAt_get_bind ?_
  dsimp only
  rw [h.openBlock]
  split
  · exact (agreeAt_set (h.setOpenBlock _)).bind fun _ _ _ h' => agreeAt_throw _ h'
  · refine (agree_decodeBlock d _ s t h).bind fun fields s' t' h' => ?_
    exact ((hx.headers d f _).within h'.ext fun _ _ he => h'.setExt he).bind
      fun _ _ _ h'' => agreeAt_pure _ h''

theorem keep_renderHeaders (hx : x.Lanes A) (d : Direction) (f : Frame) :
    Keep (Beside (A d.opposite) d) (renderHeaders x d f) := by
  intro s t h
  unfold renderHeaders
  refine keepAt_get_bind ?_
  dsimp only
  split
  · exact (keepAt_set (h.setOpenBlock _)).bind fun _ _ h' => keepAt_throw _ h'
  · refine (keep_decodeBlock d _ s t h).bind fun fields s' h' => ?_
    exact ((hx.headers_opposite d f _).within h'.lane.ext fun _ he => h'.setExt he).bind
      fun _ _ h'' => keepAt_pure _ h''

theorem agree_renderFrame (hx : x.Lanes A) (d : Direction) (f : Frame) :
    Agree (Sees (A d) d) (renderFrame x d f) := by
  intro s t h
  unfold renderFrame
  refine ((hx.frame d f).within h.ext fun _ _ he => h.setExt he).bind fun o s' t' h' => ?_
  split
  · exact agreeAt_pure _ h'
  · split
    · exact agree_renderHeaders hx d f s' t' h'
    · exact agree_renderHeaders hx d f s' t' h'
    · exact agree_renderHeaders hx d f s' t' h'
    · exact agreeAt_pure _ h'
    · exact agreeAt_pure _ h'
    · exact agreeAt_pure _ h'

theorem keep_renderFrame (hx : x.Lanes A) (d : Direction) (f : Frame) :
    Keep (Beside (A d.opposite) d) (renderFrame x d f) := by
  intro s t h
  unfold renderFrame
  refine ((hx.frame_opposite d f).within h.lane.ext fun _ he => h.setExt he).bind
    fun o s' h' => ?_
  split
  · exact keepAt_pure _ h'
  · split
    · exact keep_renderHeaders hx d f s' t h'
    · exact keep_renderHeaders hx d f s' t h'
    · exact keep_renderHeaders hx d f s' t h'
    · exact keepAt_pure _ h'
    · exact keepAt_pure _ h'
    · exact keepAt_pure _ h'

/-- What a SETTINGS frame of direction `d` does to the frame buffers: the other side's bound
follows a new largest frame size. -/
def settingsBuffers (d : Direction) (f : Frame) (bufs : Sides FrameBuffer) : Sides FrameBuffer :=
  if f.has ack then bufs else
  match f.setting? maxFrameSizeSetting with
  | some size => bufs.modify d.opposite (·.setMaxFrameSize size)
  | none => bufs

theorem exec_applySettings (d : Direction) (f : Frame) (s : Session σ) :
    exec (applySettings d f) s = (.ok ⟨⟩, { s with buffers := s.buffers.map (settingsBuffers d f) }) := by
  obtain ⟨ext, active, buffers, tables, openBlock, maxFrameSize, maxInflated⟩ := s
  unfold applySettings settingsBuffers
  rw [exec_modify]
  by_cases hack : f.has ack = true
  · simp [hack]
  · cases f.setting? maxFrameSizeSetting <;> cases buffers <;> simp [hack]

theorem settingsBuffers_get_self (d : Direction) (f : Frame) (bufs : Sides FrameBuffer) :
    (settingsBuffers d f bufs).get d = bufs.get d := by
  unfold settingsBuffers Sides.modify
  split_ifs
  · rfl
  · split
    · simpa using Sides.get_set_opposite bufs d.opposite _
    · rfl

theorem settingsBuffers_get_opposite_alike {d : Direction} {f : Frame} {bufs : Sides FrameBuffer}
    {b : FrameBuffer} (h : (bufs.get d.opposite).Alike b) :
    ((settingsBuffers d f bufs).get d.opposite).Alike b := by
  unfold settingsBuffers Sides.modify
  split_ifs
  · exact h
  · split
    · rw [Sides.get_set_self]
      exact h.setMaxFrameSize _
    · exact h

theorem agree_applySettings (d : Direction) (f : Frame) :
    Agree (Sees agree d) (applySettings (σ := σ) d f) := by
  intro s t h
  unfold AgreeAt
  rw [exec_applySettings, exec_applySettings]
  exact ⟨rfl, h.active, h.tables, h.openBlock, h.ext, by simpa using h.buffers⟩

theorem keep_applySettings (d : Direction) (f : Frame) :
    Keep (Beside agree d) (applySettings (σ := σ) d f) := by
  intro s t h
  unfold KeepAt
  rw [exec_applySettings]
  have hlane := h.lane.buffer
  refine ⟨⟨⟨h.lane.active, h.lane.tables, h.lane.openBlock, h.lane.ext,
    by simpa using h.lane.buffers⟩, ?_⟩, ?_⟩
  · rcases hs : s.buffers with _ | bufs
    · simpa [hs] using hlane
    · rw [hs] at hlane
      rcases ht : t.buffers with _ | bufs'
      · rw [ht] at hlane
        cases hlane
      · rw [ht] at hlane
        simp only [Option.map_some] at hlane ⊢
        cases hlane with
        | some hab => exact .some (settingsBuffers_get_opposite_alike hab)
  · simpa [Option.map_map, Function.comp_def, settingsBuffers_get_self] using h.buffer

theorem agree_frameChunk (hx : x.Lanes A) (d : Direction) (h : FrameHeader) (payload : Bytes) :
    Agree (Sees (A d) d) (frameChunk x d h payload) := by
  intro s t hst
  unfold frameChunk
  refine AgreeAt.recovering ?_ _
  have hrest : ∀ (fr : Frame) s' t', Sees (A d) d s' t' → AgreeAt (Sees (A d) d)
      (do applySettings d fr; let content ← renderFrame x d fr; pure (⟨d, content ++ [10]⟩ : Chunk))
      (do applySettings d fr; let content ← renderFrame x d fr; pure (⟨d, content ++ [10]⟩ : Chunk))
      s' t' := fun fr s' t' h' =>
    (agree_applySettings d fr s' t' h').bind fun _ _ _ h'' =>
      (agree_renderFrame hx d fr _ _ h'').bind fun _ _ _ h3 => agreeAt_pure _ h3
  dsimp only
  split
  · exact (agreeAt_pure _ hst).bind hrest
  · exact (agreeAt_throw _ hst).bind hrest

theorem keep_frameChunk (hx : x.Lanes A) (d : Direction) (h : FrameHeader) (payload : Bytes) :
    Keep (Beside (A d.opposite) d) (frameChunk x d h payload) := by
  intro s t hst
  unfold frameChunk
  refine KeepAt.recovering ?_ _
  have hrest : ∀ (fr : Frame) s', Beside (A d.opposite) d s' t → KeepAt (Beside (A d.opposite) d)
      (do applySettings d fr; let content ← renderFrame x d fr; pure (⟨d, content ++ [10]⟩ : Chunk))
      s' t := fun fr s' h' =>
    (keep_applySettings d fr s' t h').bind fun _ _ h'' =>
      (keep_renderFrame hx d fr _ _ h'').bind fun _ _ h3 => keepAt_pure _ h3
  dsimp only
  split
  · exact (keepAt_pure _ hst).bind hrest
  · exact (keepAt_throw _ hst).bind hrest

theorem gives_frameChunk (d : Direction) (h : FrameHeader) (payload : Bytes) :
    Gives (·.direction = d) (frameChunk x d h payload) := by
  unfold frameChunk
  refine Gives.recovering ?_ fun _ => rfl
  dsimp only
  split <;> exact (gives_true _).bind fun _ _ => (gives_true _).bind fun _ _ =>
    (gives_true _).bind fun _ _ => gives_pure (by rfl)

theorem exec_drain_of_none {d : Direction} {k : Nat} {acc : List Chunk} {s : Session σ}
    {bufs : Sides FrameBuffer} {b : FrameBuffer} (hs : s.buffers = some bufs)
    (hnext : (bufs.get d).next = (b, .ok none)) :
    exec (drain x d (k + 1) acc) s = (.ok acc.reverse, { s with buffers := some (bufs.set d b) }) := by
  rw [drain, exec_bind, exec_get]
  dsimp only
  simp [hs, hnext]
  rfl

theorem exec_drain_of_some {d : Direction} {k : Nat} {acc : List Chunk} {s : Session σ}
    {bufs : Sides FrameBuffer} {b : FrameBuffer} {h : FrameHeader} {payload : Bytes}
    (hs : s.buffers = some bufs) (hnext : (bufs.get d).next = (b, .ok (some (h, payload)))) :
    exec (drain x d (k + 1) acc) s =
      exec (frameChunk x d h payload >>= fun c => drain x d k (c :: acc))
        { s with buffers := some (bufs.set d b) } := by
  rw [drain, exec_bind, exec_get]
  dsimp only
  simp [hs, hnext]
  rw [exec_bind, exec_set]

theorem frameChunk_buffers (hx : x.Lanes A) (d : Direction) (h : FrameHeader) (payload : Bytes)
    {s : Session σ} {bufs : Sides FrameBuffer} (hs : s.buffers = some bufs)
    (hop : Config.minFrameSize ≤ (bufs.get d.opposite).maxFrameSize) :
    ∃ bufs', (exec (frameChunk x d h payload) s).2.buffers = some bufs' ∧
      bufs'.get d = bufs.get d ∧ Config.minFrameSize ≤ (bufs'.get d.opposite).maxFrameSize := by
  obtain ⟨hlane, hbuf⟩ := keep_frameChunk hx d h payload s s
    ⟨Lane.refl_of_bound (hx.equivalence _) hs hop, rfl⟩
  rw [hs] at hbuf
  obtain ⟨bufs', hs', hget⟩ := Option.map_eq_some_iff.1 hbuf
  dsimp only at hget
  exact ⟨bufs', hs', hget, (hlane.alike hs' hs).bound⟩

def frameChunks (x : Extension σ) (d : Direction) (frames : List (FrameHeader × Bytes)) :
    Dissecting (Session σ) (List Chunk) :=
  frames.mapM fun f => frameChunk x d f.1 f.2

theorem raises_frameChunks (hr : x.Recoverable) (d : Direction)
    (frames : List (FrameHeader × Bytes)) : Raises (fun _ => False) (frameChunks x d frames) :=
  raises_mapM (fun f : FrameHeader × Bytes => raises_frameChunk hr d f.1 f.2) frames

theorem agree_frameChunks (hx : x.Lanes A) (d : Direction) (frames : List (FrameHeader × Bytes)) :
    Agree (Sees (A d) d) (frameChunks x d frames) :=
  agree_mapM (fun f : FrameHeader × Bytes => agree_frameChunk hx d f.1 f.2) frames

theorem exec_frameChunks_cons_of_ok {d : Direction} {f : FrameHeader × Bytes}
    {fs : List (FrameHeader × Bytes)} {s s' : Session σ} {c : Chunk}
    (h : exec (frameChunk x d f.1 f.2) s = (.ok c, s')) :
    exec (frameChunks x d (f :: fs)) s =
      ((exec (frameChunks x d fs) s').1.map (c :: ·), (exec (frameChunks x d fs) s').2) :=
  exec_mapM_cons_of_ok (g := fun f : FrameHeader × Bytes => frameChunk x d f.1 f.2) h

theorem drain_spec (hx : x.Lanes A) (hr : x.Recoverable) (d : Direction) :
    ∀ (frames : List (FrameHeader × Bytes)) (fuel : Nat) (acc : List Chunk) (s : Session σ)
      (bufs : Sides FrameBuffer), s.buffers = some bufs → (bufs.get d).Sound →
      Config.minFrameSize ≤ (bufs.get d.opposite).maxFrameSize →
      (splitFrames (bufs.get d).ready.data).1 = frames → frames.length < fuel →
      (exec (drain x d fuel acc) s).1 =
          (exec (frameChunks x d frames) s).1.map (acc.reverse ++ ·) ∧
        Sees (A d) d (exec (drain x d fuel acc) s).2 (exec (frameChunks x d frames) s).2 ∧
        (exec (drain x d fuel acc) s).2.buffers.map (·.get d) =
          some { (bufs.get d).ready with data := (splitFrames (bufs.get d).ready.data).2 } := by
  intro frames
  -- each whole frame is one step of the drain, with one unit of fuel
  induction frames with
  | nil =>
    rintro (_ | fuel) acc s bufs hs hb - hframes hlen
    · simp at hlen
    have hnext := hb.next_eq
    rw [hframes] at hnext
    rw [exec_drain_of_none hs hnext, splitFrames_snd_of_fst_nil hframes]
    refine ⟨by simp [frameChunks, Except.map], Sees.setBuffer (hx.equivalence d) hs _, ?_⟩
    simp only [Option.map_some, Sides.get_set_self]
  | cons f fs ih =>
    rintro (_ | fuel) acc s bufs hs hb hop hframes hlen
    · simp at hlen
    have hnext := hb.next_eq
    rw [hframes] at hnext
    obtain ⟨-, -, -, hrest⟩ := splitFrames_drop_of_cons hframes
    rw [exec_drain_of_some hs hnext]
    set b₁ : FrameBuffer :=
      { (bufs.get d).ready with data := (bufs.get d).ready.data.drop (headerSize + f.1.length) }
    set s₁ : Session σ := { s with buffers := some (bufs.set d b₁) }
    obtain ⟨c, s₂, hc₁⟩ := (raises_frameChunk hr d f.1 f.2).exec_eq_ok s₁
    rw [exec_bind_of_ok hc₁]
    obtain ⟨hres, hsees⟩ := agree_frameChunk hx d f.1 f.2 s₁ s (Sees.setBuffer (hx.equivalence d) hs _)
    rcases hc' : exec (frameChunk x d f.1 f.2) s with ⟨r', s₂'⟩
    rw [hc₁, hc'] at hres hsees
    dsimp only at hres hsees
    subst hres
    rw [exec_frameChunks_cons_of_ok hc']
    have hs₁ : s₁.buffers = some (bufs.set d b₁) := rfl
    obtain ⟨bufs₂, hs₂, hget, hop₂⟩ := frameChunk_buffers hx d f.1 f.2 hs₁ (by simpa using hop)
    rw [hc₁] at hs₂
    dsimp only at hs₂
    simp only [Sides.get_set_self] at hget
    have hb₁ : (bufs₂.get d).Sound := hget ▸ hb.drop hframes
    have hready : (bufs₂.get d).ready = b₁ := by
      rw [hget, FrameBuffer.ready_of_not_awaiting (by simp [b₁])]
    obtain ⟨ih₁, ih₂, ih₃⟩ := ih fuel (c :: acc) s₂ bufs₂ hs₂ hb₁ hop₂
      (by rw [hready]; exact congrArg Prod.fst hrest) (by simp at hlen; omega)
    obtain ⟨hmres, hmsees⟩ := agree_frameChunks hx d fs s₂ s₂' hsees
    refine ⟨?_, ih₂.trans (hx.equivalence d) hmsees, ?_⟩
    · rw [ih₁, hmres]
      generalize (exec (frameChunks x d fs) s₂').1 = r
      cases r <;> simp [Except.map]
    · rw [ih₃, hready]
      simp only [b₁, hrest]

theorem exec_feed_of_some {d : Direction} {data : Bytes} {s : Session σ}
    {bufs : Sides FrameBuffer} (hs : s.buffers = some bufs) :
    exec (feed x d data) s =
      exec (drain x d (((bufs.get d).push data).pending + 1) [])
        { s with buffers := some (bufs.set d ((bufs.get d).push data)) } := by
  unfold feed
  rw [exec_bind, exec_get]
  simp only [hs]
  rw [exec_bind, exec_set]

theorem feed_spec (hx : x.Lanes A) (hr : x.Recoverable) (d : Direction) (data : Bytes)
    {s : Session σ} {bufs : Sides FrameBuffer} (hs : s.buffers = some bufs)
    (hb : ((bufs.get d).push data).Sound)
    (hop : Config.minFrameSize ≤ (bufs.get d.opposite).maxFrameSize) :
    (exec (feed x d data) s).1 =
        (exec (frameChunks x d (splitFrames ((bufs.get d).push data).ready.data).1) s).1 ∧
      Sees (A d) d (exec (feed x d data) s).2
        (exec (frameChunks x d (splitFrames ((bufs.get d).push data).ready.data).1) s).2 ∧
      (exec (feed x d data) s).2.buffers.map (·.get d) =
        some { ((bufs.get d).push data).ready with
          data := (splitFrames ((bufs.get d).push data).ready.data).2 } := by
  set b := (bufs.get d).push data
  have hfuel : (splitFrames b.ready.data).1.length < b.pending + 1 := by
    have h₁ := length_splitFrames_le b.ready.data
    have h₂ := b.length_ready_data_le
    simp only [FrameBuffer.pending]
    omega
  obtain ⟨h₁, h₂, h₃⟩ := drain_spec hx hr d (splitFrames b.ready.data).1 (b.pending + 1) []
    { s with buffers := some (bufs.set d b) } (bufs.set d b) rfl (by simpa using hb)
    (by simpa using hop) (by simp) (by simpa using hfuel)
  simp only [Sides.get_set_self] at h₁ h₂ h₃
  obtain ⟨hres, hsees⟩ := agree_frameChunks hx d (splitFrames b.ready.data).1 _ s
    (Sees.setBuffer (hx.equivalence d) hs b)
  rw [exec_feed_of_some hs]
  refine ⟨?_, h₂.trans (hx.equivalence d) hsees, h₃⟩
  rw [h₁, hres]
  generalize (exec (frameChunks x d (splitFrames b.ready.data).1) s).1 = r
  cases r <;> rfl

theorem keep_lane_frameChunk (hx : x.Lanes A) (d : Direction) (h : FrameHeader) (payload : Bytes) :
    Keep (Lane (A d.opposite) d.opposite) (frameChunk x d h payload) := fun s _ hst =>
  (keep_frameChunk hx d h payload s s (hst.beside (hx.equivalence _))).lane.trans
    (hx.equivalence _) hst

theorem keep_lane_drain (hx : x.Lanes A) (d : Direction) :
    ∀ fuel acc, Keep (Lane (A d.opposite) d.opposite) (drain x d fuel acc)
  | 0, _ => fun _ _ h => keepAt_pure _ h
  | fuel + 1, acc => fun s t h => by
    rw [drain]
    refine keepAt_get_bind ?_
    dsimp only
    split
    · rename_i bufs hs
      refine (keepAt_set (h.setBuffer hs _)).bind fun _ s' h' => ?_
      split
      · exact keepAt_pure _ h'
      · exact keepAt_pure _ h'
      · exact (keep_lane_frameChunk hx d _ _ s' t h').bind fun c s'' h'' =>
          keep_lane_drain hx d fuel _ s'' t h''
    · exact keepAt_pure _ h

theorem keep_lane_feed (hx : x.Lanes A) (d : Direction) (data : Bytes) :
    Keep (Lane (A d.opposite) d.opposite) (feed x d data) := fun s t h => by
  unfold feed
  refine keepAt_get_bind ?_
  split
  · exact keepAt_pure _ h
  · rename_i bufs hs
    exact (keepAt_set (h.setBuffer hs _)).bind fun _ s' h' => keep_lane_drain hx d _ _ s' t h'

theorem gives_drain (d : Direction) :
    ∀ fuel (acc : List Chunk), (∀ c ∈ acc, c.direction = d) →
      Gives (fun cs : List Chunk => ∀ c ∈ cs, c.direction = d) (drain x d fuel acc)
  | 0, acc, h => gives_pure (by simpa using h)
  | fuel + 1, acc, h => by
    rw [drain]
    refine (gives_true _).bind fun s _ => ?_
    dsimp only
    split
    · refine (gives_true _).bind fun _ _ => ?_
      split
      · exact gives_pure (by simpa using h)
      · refine gives_pure ?_
        simp only [List.reverse_cons, List.mem_append, List.mem_reverse, List.mem_singleton]
        rintro c (hc | rfl)
        · exact h c hc
        · rfl
      · exact (gives_frameChunk d _ _).bind fun c hc =>
          gives_drain d fuel (c :: acc) (by simpa [hc] using h)
    · exact gives_pure (by simpa using h)

theorem gives_feed (d : Direction) (data : Bytes) :
    Gives (fun cs : List Chunk => ∀ c ∈ cs, c.direction = d) (feed x d data) := by
  unfold feed
  refine (gives_true _).bind fun s _ => ?_
  split
  · exact gives_pure (by simp)
  · exact (gives_true _).bind fun _ _ => gives_drain d _ [] (by simp)

theorem feed_congr (hx : x.Lanes A) (hr : x.Recoverable) (d : Direction) (data : Bytes)
    {s t : Session σ} {bufs bufs' : Sides FrameBuffer} (hs : s.buffers = some bufs)
    (ht : t.buffers = some bufs') (hst : Lane (A d) d s t) (hb : ((bufs.get d).push data).Sound)
    (hop : Config.minFrameSize ≤ (bufs.get d.opposite).maxFrameSize)
    (hop' : Config.minFrameSize ≤ (bufs'.get d.opposite).maxFrameSize) :
    (exec (feed x d data) s).1 = (exec (feed x d data) t).1 := by
  have halike := hst.alike hs ht
  rw [(feed_spec hx hr d data hs hb hop).1, (feed_spec hx hr d data ht (halike.sound_push hb) hop').1,
    halike.ready_push_data]
  exact (agree_frameChunks hx d _ s t hst.toSees).1

theorem feed_append (hx : x.Lanes A) (hr : x.Recoverable) (d : Direction) (a b : Bytes)
    {s : Session σ} {bufs : Sides FrameBuffer} (hs : s.buffers = some bufs)
    (hpre : (bufs.get d).awaitingPreface = true → preface <+: (bufs.get d).data ++ a)
    (hb : ((bufs.get d).push (a ++ b)).Sound)
    (hop : Config.minFrameSize ≤ (bufs.get d.opposite).maxFrameSize) :
    (exec (feed x d (a ++ b)) s).1 =
      (exec (feed x d a) s).1 >>= fun o₁ =>
        (exec (feed x d b) (exec (feed x d a) s).2).1.map (o₁ ++ ·) := by
  have hdata := (bufs.get d).data_ready_push_append (c := b) hpre
  have hw := hb.within
  rw [hdata] at hw
  have hbA : ((bufs.get d).push a).Sound := ⟨hpre, hb.bound, hw.of_append_left⟩
  obtain ⟨hA₁, hA₂, hA₃⟩ := feed_spec hx hr d a hs hbA hop
  set F₁ := (splitFrames ((bufs.get d).push a).ready.data).1
  set L₁ := (splitFrames ((bufs.get d).push a).ready.data).2
  obtain ⟨o₁, u, hu⟩ := (raises_frameChunks hr d F₁).exec_eq_ok s
  have hab := (feed_spec hx hr d (a ++ b) hs hb hop).1
  rw [hdata, splitFrames_append] at hab
  have happ := exec_mapM_append_of_ok (g := fun f : FrameHeader × Bytes => frameChunk x d f.1 f.2)
    (splitFrames (L₁ ++ b)).1 hu
  rw [hu] at hA₂
  obtain ⟨bufs₁, hs₁, hget₁⟩ := Option.map_eq_some_iff.1 hA₃
  dsimp only at hget₁
  have hop₁ : Config.minFrameSize ≤ (bufs₁.get d.opposite).maxFrameSize :=
    ((keep_lane_feed hx d a s s (Lane.refl_of_bound (hx.equivalence _) hs hop)).alike hs₁ hs).bound
  have hpush : ((bufs₁.get d).push b).ready.data = L₁ ++ b := by
    rw [hget₁, FrameBuffer.ready_of_not_awaiting (by simp [FrameBuffer.push])]
    rfl
  have hb₁ : ((bufs₁.get d).push b).Sound := by
    refine ⟨fun h => ?_, ?_, ?_⟩
    · simp [hget₁, FrameBuffer.push] at h
    · simpa [hget₁, FrameBuffer.push] using hb.bound
    · rw [hpush]
      exact hw.leftover_append
  obtain ⟨hB₁, -, -⟩ := feed_spec hx hr d b hs₁ hb₁ hop₁
  rw [hpush] at hB₁
  have hagree := (agree_frameChunks hx d (splitFrames (L₁ ++ b)).1 _ u hA₂).1
  rw [hab, frameChunks, happ, hA₁, hu, hB₁, hagree]
  rfl

@[simp] theorem exec_lift_pure {α : Type} (a : α) (s : Session σ) :
    exec (lift (pure a : Dissecting σ α)) s = (.ok a, s) := rfl

theorem feed_settled (hx : x.Lanes A) (hr : x.Recoverable) (d : Direction) (data : Bytes)
    {s : Session σ} {bufs : Sides FrameBuffer} (hs : s.buffers = some bufs)
    (hset : ∀ d', (bufs.get d').Settled)
    (hw : FramesWithin Config.minFrameSize ((bufs.get d).data ++ data)) :
    ∃ bufs₁, (exec (feed x d data) s).2.buffers = some bufs₁ ∧ (∀ d', (bufs₁.get d').Settled) ∧
      (bufs₁.get d).data = (splitFrames ((bufs.get d).data ++ data)).2 ∧
      (bufs₁.get d.opposite).data = (bufs.get d.opposite).data ∧
      (exec (feed x d data) s).2.active = s.active := by
  have hb := (hset d).sound_push hw
  obtain ⟨-, -, h₃⟩ := feed_spec hx hr d data hs hb (hset d.opposite).bound
  rw [(hset d).ready_push] at h₃
  have hlane := keep_lane_feed hx d data s s
    (Lane.refl_of_bound (hx.equivalence _) hs (hset d.opposite).bound)
  obtain ⟨bufs₁, h₁, hget⟩ := Option.map_eq_some_iff.1 h₃
  dsimp only at hget
  have hop := hlane.alike h₁ hs
  have hself : (bufs₁.get d).Settled := by
    refine ⟨by simp [hget, FrameBuffer.push, (hset d).ready], by
      simpa [hget, FrameBuffer.push] using (hset d).bound, ?_⟩
    rw [hget]
    exact congrArg Prod.fst (splitFrames_leftover _)
  have hother : (bufs₁.get d.opposite).Settled :=
    ⟨hop.awaitingPreface.trans (hset d.opposite).ready, hop.bound,
      hop.data ▸ (hset d.opposite).split⟩
  refine ⟨bufs₁, h₁, fun d' => ?_, by rw [hget]; rfl, hop.data, hlane.active⟩
  cases d <;> cases d'
  · exact hself
  · exact hother
  · exact hother
  · exact hself

end Session

theorem Extension.plain_lanes : Extension.plain.Lanes fun _ _ _ => True where
  equivalence _ := ⟨fun _ => trivial, fun _ => trivial, fun _ _ => trivial⟩
  rawChunk _ := rfl
  headers _ _ _ _ _ h := agreeAt_pure _ h
  frame _ _ _ _ h := agreeAt_pure _ h
  headers_opposite _ _ _ _ _ h := keepAt_pure _ h
  frame_opposite _ _ _ _ h := keepAt_pure _ h

end Dissect.Http2
