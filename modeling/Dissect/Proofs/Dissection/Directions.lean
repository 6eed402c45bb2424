import Mathlib
import Dissect.Proofs.Http2.Lanes
import Dissect.Proofs.Grpc.Lanes

/-!
# Each direction of an HTTP/2 conversation on its own

Once a conversation opens with the connection preface, each direction's frames are rendered from
that direction's octets alone, however they are cut into chunks and interleaved.
-/

set_option autoImplicit false

namespace Dissect

def octetsOf (d : Direction) (cs : List Chunk) : Bytes :=
  (cs.filter (·.direction = d)).flatMap (·.content)

@[simp] theorem octetsOf_nil (d : Direction) : octetsOf d [] = [] := rfl

theorem octetsOf_cons (d : Direction) (c : Chunk) (cs : List Chunk) :
    octetsOf d (c :: cs) = if c.direction = d then c.content ++ octetsOf d cs else octetsOf d cs := by
  by_cases h : c.direction = d <;> simp [octetsOf, h]

theorem Direction.eq_opposite_of_ne {d d' : Direction} (h : d ≠ d') : d = d'.opposite := by
  cases d <;> cases d' <;> simp_all [Direction.opposite]

namespace Http2

open Dissecting

variable {σ : Type}

open Session in
theorem Extension.exec_hooks_chunk {x : Extension σ} {A : Direction → σ → σ → Prop}
    (hx : x.Lanes A) (hr : x.Recoverable) (c : Chunk) {s : Session σ} (hs : s.active = true) :
    exec (x.hooks.chunk c) s = exec (feed x c.direction c.content) s := by
  obtain ⟨o, s', hf⟩ := (raises_feed hr c.direction c.content).exec_eq_ok s
  unfold Http1.Hooks.chunk Http1.Hooks.answer
  rw [Dissecting.recovering, exec_tryCatch, exec_bind]
  dsimp only [Extension.hooks]
  rw [exec_bind, hx.rawChunk c, exec_lift_pure]
  simp only [exec_bind, exec_get, hs, if_true, hf, exec_pure]

def Session.opened {σ : Type} (start : σ) (maxFrameSize maxInflated : Nat) : Session σ :=
  { ext := start, maxFrameSize, maxInflated, active := true,
    buffers := some ⟨FrameBuffer.forClient maxFrameSize, FrameBuffer.forServer maxFrameSize⟩ }

open Session in
theorem Extension.exec_hooks_chunk_preface {x : Extension σ} {A : Direction → σ → σ → Prop}
    (hx : x.Lanes A) (hr : x.Recoverable) (start : σ) (maxFrameSize maxInflated : Nat) {c : Chunk}
    (hc : c.direction = .client) (hp : preface <+: c.content) :
    exec (x.hooks.chunk c) { ext := start, maxFrameSize, maxInflated } =
      exec (feed x .client c.content) (opened start maxFrameSize maxInflated) := by
  obtain ⟨o, s', hf⟩ :=
    (raises_feed hr .client c.content).exec_eq_ok (opened start maxFrameSize maxInflated)
  unfold Http1.Hooks.chunk Http1.Hooks.answer
  rw [Dissecting.recovering, exec_tryCatch, exec_bind]
  dsimp only [Extension.hooks]
  rw [exec_bind, hx.rawChunk c, exec_lift_pure]
  have hpre : preface.isPrefixOf c.content = true := List.isPrefixOf_iff_prefix.2 hp
  have hf' := hf
  simp only [opened] at hf'
  simp [exec_bind, hc, hpre, ensureBuffers, hf, hf', Except.map]

open Session in
theorem feed_cons_onSide {x : Extension σ} {A : Direction → σ → σ → Prop} (hx : x.Lanes A)
    (hr : x.Recoverable) (d : Direction) {c : Chunk} {rest : List Chunk} {s s₁ : Session σ}
    {bufs bufs₁ : Sides FrameBuffer} {o : List Chunk} (hs : s.buffers = some bufs)
    (hs₁ : s₁.buffers = some bufs₁) (hf : exec (feed x c.direction c.content) s = (.ok o, s₁))
    (hpre : (bufs.get d).awaitingPreface = true → preface <+: (bufs.get d).data ++ c.content)
    (hb : ((bufs.get d).push (octetsOf d (c :: rest))).Sound)
    (hop : Config.minFrameSize ≤ (bufs.get d.opposite).maxFrameSize)
    (hb₁ : ((bufs₁.get d).push (octetsOf d rest)).Sound)
    (hop₁ : Config.minFrameSize ≤ (bufs₁.get d.opposite).maxFrameSize)
    {r : Except Issue (List (List Chunk))}
    (hrest : r.map (fun outs => outs.flatten.filter (·.direction = d)) =
      (exec (feed x d (octetsOf d rest)) s₁).1) :
    (r.map (o :: ·)).map (fun outs => outs.flatten.filter (·.direction = d)) =
      (exec (feed x d (octetsOf d (c :: rest))) s).1 := by
  have hdir : ∀ c' ∈ o, c'.direction = c.direction :=
    gives_feed c.direction c.content s o (by rw [hf])
  by_cases hcd : c.direction = d
  · -- a chunk of `d`: its frames come before those of the rest of `d`'s octets
    subst hcd
    rw [octetsOf_cons, if_pos rfl] at hb ⊢
    rw [feed_append hx hr c.direction c.content _ hs hpre hb hop, hf, ← hrest]
    have hkeep : o.filter (·.direction = c.direction) = o :=
      List.filter_eq_self.2 fun c' hc' => by simpa using hdir c' hc'
    cases r <;> simp [Except.map, hkeep, bind, Except.bind]
  · -- a chunk of the other direction: none of its chunks are `d`'s, and `d`'s lane is unchanged
    have hdrop : o.filter (·.direction = d) = [] :=
      List.filter_eq_nil_iff.2 fun c' hc' => by simp [hdir c' hc', hcd]
    have hlane : Lane (A d) d s₁ s := by
      have hop := Direction.eq_opposite_of_ne (Ne.symm hcd)
      subst hop
      have : KeepAt _ _ s s := keep_lane_feed hx c.direction c.content s s
        (Lane.refl_of_bound (hx.equivalence _) hs hb.bound)
      unfold KeepAt at this
      rwa [hf] at this
    rw [octetsOf_cons, if_neg hcd, ← feed_congr hx hr d _ hs₁ hs hlane hb₁ hop₁ hop, ← hrest]
    cases r <;> simp [Except.map, hdrop]

open Session in
theorem Extension.run_frames {x : Extension σ} {A : Direction → σ → σ → Prop} (hx : x.Lanes A)
    (hr : x.Recoverable) (d : Direction) :
    ∀ (cs : List Chunk) (s : Session σ) (bufs : Sides FrameBuffer), s.active = true →
      s.buffers = some bufs → (∀ d', (bufs.get d').Settled) →
      (∀ d', FramesWithin Config.minFrameSize ((bufs.get d').data ++ octetsOf d' cs)) →
      (exec (cs.mapM x.hooks.chunk) s).1.map (fun outs => outs.flatten.filter (·.direction = d)) =
        (exec (feed x d (octetsOf d cs)) s).1
  | [], s, bufs, _, hs, hset, hw => by
    have hb := (hset d).sound_push (hw d)
    rw [(feed_spec hx hr d _ hs hb (hset d.opposite).bound).1, (hset d).ready_push]
    simp [FrameBuffer.push, (hset d).split, frameChunks, Except.map]
  | c :: cs, s, bufs, hact, hs, hset, hw => by
    obtain ⟨o, s₁, hf⟩ := (raises_feed hr c.direction c.content).exec_eq_ok s
    have hstep : exec (x.hooks.chunk c) s = (.ok o, s₁) := by
      rw [x.exec_hooks_chunk hx hr c hact, hf]
    rw [exec_mapM_cons_of_ok hstep]
    have hwc := hw c.direction
    rw [octetsOf_cons, if_pos rfl, ← List.append_assoc] at hwc
    obtain ⟨bufs₁, hs₁, hset₁, hdata, hdata', hact₁⟩ :=
      feed_settled hx hr c.direction c.content hs hset hwc.of_append_left
    rw [hf] at hs₁ hact₁
    dsimp only at hs₁ hact₁
    have hw₁ : ∀ d', FramesWithin Config.minFrameSize ((bufs₁.get d').data ++ octetsOf d' cs) := by
      intro d'
      by_cases hd' : c.direction = d'
      · subst hd'
        rw [hdata]
        exact hwc.leftover_append
      · have hop := Direction.eq_opposite_of_ne (Ne.symm hd')
        subst hop
        have := hw c.direction.opposite
        rwa [octetsOf_cons, if_neg hd', ← hdata'] at this
    exact feed_cons_onSide hx hr d hs hs₁ hf (fun h => absurd h (by simp [(hset d).ready]))
      ((hset d).sound_push (hw d)) (hset _).bound ((hset₁ d).sound_push (hw₁ d)) (hset₁ _).bound
      (run_frames hx hr d cs s₁ bufs₁ (hact₁.trans hact) hs₁ hset₁ hw₁)

def frameOctets : Direction → Bytes → Bytes
  | .client, bs => bs.drop preface.length
  | .server, bs => bs

theorem preface_prefix_octetsOf {c : Chunk} (rest : List Chunk) (hc : c.direction = .client)
    (hp : preface <+: c.content) (d : Direction) :
    d = .client → preface <+: octetsOf d (c :: rest) := by
  rintro rfl
  rw [octetsOf_cons, if_pos hc]
  exact hp.trans (List.prefix_append _ _)

theorem ready_data_push_opened (maxFrameSize : Nat) (d : Direction) (data : Bytes) :
    ((Sides.get ⟨FrameBuffer.forClient maxFrameSize, FrameBuffer.forServer maxFrameSize⟩ d).push
      data).ready.data = frameOctets d data := by
  cases d <;> simp [FrameBuffer.data_ready, FrameBuffer.forClient, FrameBuffer.forServer,
    FrameBuffer.push, frameOctets, Sides.get]

theorem sound_push_opened {maxFrameSize : Nat} (hmax : Config.minFrameSize ≤ maxFrameSize)
    (d : Direction) (data : Bytes) (hpre : d = .client → preface <+: data)
    (hw : FramesWithin Config.minFrameSize (frameOctets d data)) :
    ((Sides.get ⟨FrameBuffer.forClient maxFrameSize, FrameBuffer.forServer maxFrameSize⟩ d).push
      data).Sound := by
  refine ⟨fun ha => ?_, by cases d <;> exact hmax, by rw [ready_data_push_opened]; exact hw⟩
  cases d
  · simpa [FrameBuffer.forClient, FrameBuffer.push, Sides.get] using hpre rfl
  · simp [FrameBuffer.forServer, FrameBuffer.push, Sides.get] at ha

theorem clientFirst_of_client {c : Chunk} (rest : List Chunk) (hc : c.direction = .client) :
    clientFirst (c :: rest) = c :: rest := by
  cases rest with
  | nil => rfl
  | cons b rest => simp [clientFirst, hc]

open Session in
theorem Extension.dissect_onSide {x : Extension σ} {A : Direction → σ → σ → Prop} (hx : x.Lanes A)
    (hr : x.Recoverable) (start : σ) {maxFrameSize : Nat} (maxInflated : Nat)
    (hmax : Config.minFrameSize ≤ maxFrameSize) {c : Chunk} {rest : List Chunk}
    (hc : c.direction = .client) (hp : preface <+: c.content)
    (hw : ∀ d, FramesWithin Config.minFrameSize (frameOctets d (octetsOf d (c :: rest))))
    (d : Direction) :
    (x.dissect start maxFrameSize maxInflated (c :: rest)).map (·.filter (·.direction = d)) =
      (exec (feed x d (octetsOf d (c :: rest))) (opened start maxFrameSize maxInflated)).1 := by
  set s₀ : Session σ := opened start maxFrameSize maxInflated
  have hs₀ : s₀.buffers =
      some ⟨FrameBuffer.forClient maxFrameSize, FrameBuffer.forServer maxFrameSize⟩ := rfl
  obtain ⟨o, s₁, hf⟩ := (raises_feed hr .client c.content).exec_eq_ok s₀
  have hstep := x.exec_hooks_chunk_preface hx hr start maxFrameSize maxInflated hc hp
  rw [hf] at hstep
  have hdissect : (x.dissect start maxFrameSize maxInflated (c :: rest)).map
      (·.filter (·.direction = d)) = ((exec (rest.mapM x.hooks.chunk) s₁).1.map (o :: ·)).map
        (fun outs => outs.flatten.filter (·.direction = d)) := by
    unfold Extension.dissect Http1.Hooks.dissect
    rw [evaluate_eq_exec, clientFirst_of_client rest hc, exec_bind, exec_mapM_cons_of_ok hstep]
    generalize (exec (rest.mapM x.hooks.chunk) s₁).1 = r
    cases r <;> rfl
  have hwc := hw .client
  simp only [frameOctets, octetsOf_cons, hc, if_true] at hwc
  rw [List.drop_append_of_le_length hp.length_le] at hwc
  have hready : ((FrameBuffer.forClient maxFrameSize).push c.content).ready.data =
      c.content.drop preface.length :=
    ready_data_push_opened maxFrameSize .client c.content
  obtain ⟨-, -, h₃⟩ := feed_spec hx hr .client c.content hs₀
    (sound_push_opened hmax .client c.content (fun _ => hp) hwc.of_append_left) hmax
  have hlane : KeepAt _ _ s₀ s₀ := keep_lane_feed hx .client c.content s₀ s₀
    (Lane.refl_of_bound (hx.equivalence _) hs₀ hmax)
  unfold KeepAt at hlane
  rw [hf] at h₃ hlane
  obtain ⟨bufs₁, hs₁, hget⟩ := Option.map_eq_some_iff.1 h₃
  have hclient : bufs₁.get .client =
      { ((FrameBuffer.forClient maxFrameSize).push c.content).ready with
        data := (splitFrames ((FrameBuffer.forClient maxFrameSize).push c.content).ready.data).2 } :=
    hget
  have hserver : (bufs₁.get .server).Alike (FrameBuffer.forServer maxFrameSize) :=
    hlane.alike hs₁ hs₀
  -- from here on both buffers are settled, and the rest of each direction keeps in bound
  have hset₁ : ∀ d', (bufs₁.get d').Settled := by
    intro d'
    cases d'
    · rw [hclient]
      exact ⟨by simp, by simpa [FrameBuffer.forClient, FrameBuffer.push] using hmax,
        congrArg Prod.fst (splitFrames_leftover _)⟩
    · exact ⟨hserver.awaitingPreface, hserver.bound, by rw [hserver.data]; simp [FrameBuffer.forServer]⟩
  have hw₁ : ∀ d', FramesWithin Config.minFrameSize ((bufs₁.get d').data ++ octetsOf d' rest) := by
    intro d'
    cases d'
    · rw [hclient]
      dsimp only
      rw [hready]
      exact hwc.leftover_append
    · rw [hserver.data]
      simpa [frameOctets, octetsOf_cons, hc, FrameBuffer.forServer] using hw .server
  have hpre : (Sides.get ⟨FrameBuffer.forClient maxFrameSize, FrameBuffer.forServer maxFrameSize⟩
      d).awaitingPreface = true → preface <+: (Sides.get ⟨FrameBuffer.forClient maxFrameSize,
        FrameBuffer.forServer maxFrameSize⟩ d).data ++ c.content := by
    intro ha
    cases d
    · simpa [FrameBuffer.forClient, Sides.get] using hp
    · simp [FrameBuffer.forServer, Sides.get] at ha
  have hf' : exec (feed x c.direction c.content) s₀ = (.ok o, s₁) := by rw [hc]; exact hf
  rw [hdissect]
  exact feed_cons_onSide hx hr d hs₀ hs₁ hf' hpre
    (sound_push_opened hmax d _ (preface_prefix_octetsOf rest hc hp d) (hw d)) (by cases d <;> exact hmax)
    ((hset₁ d).sound_push (hw₁ d)) (hset₁ _).bound
    (x.run_frames hx hr d rest s₁ bufs₁ (hlane.active.trans rfl) hs₁ hset₁ hw₁)

end Http2

def OpensWithPreface (cs : List Chunk) : Prop :=
  ∃ c rest, cs = c :: rest ∧ c.direction = .client ∧ Http2.preface <+: c.content

/-- The HTTP/2 dissectors render each direction of a conversation in frame mode from that
direction's octets alone: two conversations with the same octets in each direction give the same
chunks for each direction, however the octets are cut and interleaved, when no frame header
declares more than the least frame bound. -/
theorem Dissector.transform_filter_of_octets (k : Dissector) (hk : k = .http2 ∨ k = .grpc)
    (config : Config) {a b : List Chunk} (ha : OpensWithPreface a) (hb : OpensWithPreface b)
    (hsame : ∀ d, octetsOf d a = octetsOf d b)
    (hbound : ∀ d, Http2.FramesWithin Config.minFrameSize (Http2.frameOctets d (octetsOf d a)))
    (d : Direction) :
    (k.transform config a).map (·.filter (·.direction = d)) =
      (k.transform config b).map (·.filter (·.direction = d)) := by
  obtain ⟨c, rest, rfl, hc, hp⟩ := ha
  obtain ⟨c', rest', rfl, hc', hp'⟩ := hb
  have hmax : Config.minFrameSize ≤ config.normalize.maxFrameSize :=
    (Config.clampFrameSize_mem _).1
  have hbound' : ∀ d, Http2.FramesWithin Config.minFrameSize
      (Http2.frameOctets d (octetsOf d (c' :: rest'))) := fun d => hsame d ▸ hbound d
  rcases hk with rfl | rfl
  · simp only [Dissector.transform]
    rw [Http2.Extension.dissect_onSide Http2.Extension.plain_lanes
        Http2.Extension.plain_recoverable () _ hmax hc hp hbound d,
      Http2.Extension.dissect_onSide Http2.Extension.plain_lanes
        Http2.Extension.plain_recoverable () _ hmax hc' hp' hbound' d, hsame d]
  · simp only [Dissector.transform]
    rw [Http2.Extension.dissect_onSide Grpc.extension_lanes Grpc.extension_recoverable _ _ hmax hc
        hp hbound d,
      Http2.Extension.dissect_onSide Grpc.extension_lanes Grpc.extension_recoverable _ _ hmax hc'
        hp' hbound' d, hsame d]

/-- Two empty SETTINGS frames each way, sent at once or one chunk at a time. -/
theorem transform_filter_of_octets_settings :
    let settings : Bytes := [0, 0, 0, 4, 0, 0, 0, 0, 0]
    let a : List Chunk := [⟨.client, Http2.preface ++ settings⟩, ⟨.server, settings ++ settings⟩]
    let b : List Chunk :=
      [⟨.client, Http2.preface⟩, ⟨.server, settings⟩, ⟨.client, settings⟩, ⟨.server, settings⟩]
    OpensWithPreface a ∧ OpensWithPreface b ∧ (∀ d, octetsOf d a = octetsOf d b) ∧
      (∀ d, Http2.FramesWithin Config.minFrameSize (Http2.frameOctets d (octetsOf d a))) ∧
      (Dissector.http2.transform {} a).map (·.filter (·.direction = .server)) =
        (Dissector.http2.transform {} b).map (·.filter (·.direction = .server)) := by
  intro settings a b
  have ha : OpensWithPreface a := ⟨_, _, rfl, rfl, List.prefix_append _ _⟩
  have hb : OpensWithPreface b := ⟨_, _, rfl, rfl, List.prefix_refl _⟩
  have hsame : ∀ d, octetsOf d a = octetsOf d b := by
    intro d
    cases d <;> simp [a, b, octetsOf]
  have hsettings : Http2.FramesWithin Config.minFrameSize settings :=
    Http2.framesWithin_of_decode? rfl (by decide) (Http2.framesWithin_nil _)
  have hbound : ∀ d, Http2.FramesWithin Config.minFrameSize (Http2.frameOctets d (octetsOf d a)) := by
    intro d
    cases d with
    | client =>
      have hclient : octetsOf .client a = Http2.preface ++ settings := by simp [a, octetsOf]
      rw [hclient]
      simp only [Http2.frameOctets, List.drop_left]
      exact hsettings
    | server =>
      have hserver : octetsOf .server a = settings ++ settings := by simp [a, octetsOf]
      rw [hserver]
      exact Http2.framesWithin_of_decode? rfl (by decide) hsettings
  exact ⟨ha, hb, hsame, hbound,
    Dissector.transform_filter_of_octets .http2 (.inl rfl) {} ha hb hsame hbound .server⟩

end Dissect
