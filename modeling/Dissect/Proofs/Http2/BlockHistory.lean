import Mathlib
import Dissect.Proofs.Http2.FrameBounds
import Dissect.Proofs.Http2.HeaderBlocks

/-!
# One HPACK decoder per direction, over every run

The watched history of a run holds every header-class frame the run rendered, in order. Each
direction's block state is the one a fresh decoder reaches over that direction's frames there.
-/

set_option autoImplicit false

namespace Dissect.Http2

open Dissecting

def Event.headerFrame (d : Direction) : Event → Option Frame
  | .frame d' f => if d' = d ∧ f.isHeaderClass = true then some f else none
  | _ => none

def headerFramesOf (d : Direction) (events : List Event) : List Frame :=
  events.filterMap (Event.headerFrame d)

theorem headerFramesOf_append (d : Direction) (es es' : List Event) :
    headerFramesOf d (es ++ es') = headerFramesOf d es ++ headerFramesOf d es' :=
  List.filterMap_append

def BlockState.fresh : BlockState := ⟨{}, false⟩

def BlockState.after (st : BlockState) (frames : List Frame) : BlockState :=
  frames.foldl (fun st f => (st.step f).1) st

theorem BlockState.after_append (st : BlockState) (fs gs : List Frame) :
    st.after (fs ++ gs) = (st.after fs).after gs :=
  List.foldl_append

theorem Extension.LeavesHeaders.watching {σ : Type} {x : Extension σ} (hx : x.LeavesHeaders) :
    x.watching.LeavesHeaders where
  frame d f hc s := by
    show (exec (do modify (note (.frame d f)); onFirst (x.frame d f)) s).1 = _
    rw [exec_note_onFirst]
    exact hx.frame d f hc s.1
  headers d f hs := by
    show Raises _ (do modify (note (.headers d f hs)); onFirst (x.headers d f hs))
    exact (raises_modify _).bind fun _ => (hx.headers d f hs).within _ _

namespace Session

variable {σ : Type}

def BlocksFollow (s : Session (σ × List Event)) : Prop :=
  ∀ d, s.blockState d = BlockState.fresh.after (headerFramesOf d s.ext.2)

def Moved (v s₀ : Session (σ × List Event)) : Prop :=
  ∃ es, v.ext.2 = s₀.ext.2 ++ es ∧
    ∀ d, v.blockState d = (s₀.blockState d).after (headerFramesOf d es)

def Quiet (v s₀ : Session (σ × List Event)) : Prop :=
  ∃ es, v.ext.2 = s₀.ext.2 ++ es ∧ ∀ d, headerFramesOf d es = []

theorem Moved.refl (s : Session (σ × List Event)) : Moved s s :=
  ⟨[], (List.append_nil _).symm, fun _ => rfl⟩

theorem Moved.trans {w v s : Session (σ × List Event)} (h₁ : Moved w v) (h₂ : Moved v s) :
    Moved w s := by
  obtain ⟨es, hh, hb⟩ := h₂
  obtain ⟨es', hh', hb'⟩ := h₁
  refine ⟨es ++ es', by rw [hh', hh, List.append_assoc], fun d => ?_⟩
  rw [hb', hb, headerFramesOf_append, BlockState.after_append]

theorem Quiet.trans {w v s : Session (σ × List Event)} (h₁ : Quiet w v) (h₂ : Quiet v s) :
    Quiet w s := by
  obtain ⟨es, hh, hq⟩ := h₂
  obtain ⟨es', hh', hq'⟩ := h₁
  exact ⟨es ++ es', by rw [hh', hh, List.append_assoc], fun d => by
    rw [headerFramesOf_append, hq, hq', List.append_nil]⟩

theorem Quiet.moved {v s₀ : Session (σ × List Event)} (h : Quiet v s₀)
    (hb : ∀ d, v.blockState d = s₀.blockState d) : Moved v s₀ := by
  obtain ⟨es, hh, hq⟩ := h
  exact ⟨es, hh, fun d => by rw [hb, hq]; rfl⟩

theorem BlocksFollow.of_moved {s v : Session (σ × List Event)} (hs : s.BlocksFollow)
    (h : Moved v s) : v.BlocksFollow := by
  obtain ⟨es, hh, hb⟩ := h
  intro d
  rw [hb, hs d, hh, headerFramesOf_append, BlockState.after_append]

theorem blocksFollow_initial (start : σ) (config : Config) :
    (Session.initial (start, []) config).BlocksFollow := by
  intro d
  cases d <;> rfl

/-! ## Steps that leave the block states -/

variable {x : Extension σ}

theorem keep_moved_of {α : Type} {m : Dissecting (Session (σ × List Event)) α}
    (h : ∀ s, Moved (exec m s).2 s) : Keep Moved m :=
  fun s _ hs => (h s).trans hs

theorem keep_quiet_of {α : Type} {m : Dissecting (Session (σ × List Event)) α}
    (h : ∀ s, Quiet (exec m s).2 s) : Keep Quiet m :=
  fun s _ hs => (h s).trans hs

theorem moved_of_same {v s₀ : Session (σ × List Event)} (ht : v.tables = s₀.tables)
    (ho : v.openBlock = s₀.openBlock) (he : v.ext.2 = s₀.ext.2) : Moved v s₀ :=
  ⟨[], by rw [he, List.append_nil], fun d => by
    simp only [blockState, ht, ho]
    rfl⟩

theorem quiet_lift_onFirst {α : Type} (n : Dissecting σ α) (s : Session (σ × List Event)) :
    Quiet (exec (lift (onFirst n)) s).2 s :=
  ⟨[], (List.append_nil _).symm, fun _ => rfl⟩

theorem quiet_lift_note {α : Type} {e : Event} (he : ∀ d, e.headerFrame d = none)
    (n : Dissecting σ α) (s : Session (σ × List Event)) :
    Quiet (exec (lift (do modify (note e); onFirst n)) s).2 s :=
  ⟨[e], by rw [exec_lift_note], fun d => by simp [headerFramesOf, he d]⟩

theorem keep_moved_lift_onFirst {α : Type} (n : Dissecting σ α) :
    Keep Moved (lift (onFirst n) : Dissecting (Session (σ × List Event)) α) :=
  keep_moved_of fun s => (quiet_lift_onFirst n s).moved fun _ => rfl

theorem keep_moved_lift_note {α : Type} {e : Event} (he : ∀ d, e.headerFrame d = none)
    (n : Dissecting σ α) :
    Keep Moved (lift (do modify (note e); onFirst n) : Dissecting (Session (σ × List Event)) α) :=
  keep_moved_of fun s => (quiet_lift_note he n s).moved fun d => by rw [exec_lift_note]; rfl

theorem keep_quiet_renderHeaders (d : Direction) (f : Frame) :
    Keep Quiet (renderHeaders x.watching d f) := by
  intro u t hu
  unfold renderHeaders
  refine keepAt_get_bind ?_
  dsimp only
  split
  · refine (keepAt_set ?_).bind fun _ _ h' => keepAt_throw _ h'
    exact hu
  · refine KeepAt.bind ?_ fun _ u' h' =>
      ((keep_quiet_of (quiet_lift_note (e := .headers d f _) (fun _ => rfl) _)) u' t h').bind
        fun _ _ h'' => keepAt_pure _ h''
    unfold KeepAt
    rw [exec_decodeBlock]
    exact hu

theorem keep_moved_applySettings (d : Direction) (f : Frame) :
    Keep Moved (applySettings (σ := σ × List Event) d f) :=
  keep_moved_of fun s => by
    rw [exec_applySettings]
    exact moved_of_same rfl rfl rfl

theorem keep_moved_ensureBuffers : Keep Moved (ensureBuffers (σ := σ × List Event)) :=
  keep_moved_of fun s => by
    unfold ensureBuffers
    rw [exec_modify]
    split <;> exact moved_of_same rfl rfl rfl

/-! ## Rendering a frame -/

theorem exec_renderFrame_watching (hx : x.LeavesHeaders) (d : Direction) {f : Frame}
    (hc : f.isHeaderClass = true) (s : Session (σ × List Event)) :
    ∃ es, (exec (renderFrame x.watching d f) s).2.ext.2 = s.ext.2 ++ .frame d f :: es ∧
      (∀ d', headerFramesOf d' es = []) ∧
      (exec (renderFrame x.watching d f) s).2.blockState d = ((s.blockState d).step f).1 ∧
      (exec (renderFrame x.watching d f) s).2.blockState d.opposite = s.blockState d.opposite := by
  rw [exec_renderFrame_of_headerClass hx.watching d hc]
  set s₁ : Session (σ × List Event) :=
    { s with ext := (exec (x.watching.frame d f) s.ext).2 }
  have hs₁ : s₁.ext.2 = s.ext.2 ++ [.frame d f] := by
    show (exec (do modify (note (.frame d f)); onFirst (x.frame d f)) s.ext).2.2 = _
    rw [exec_note_onFirst]
  obtain ⟨-, hself, hother⟩ := exec_renderHeaders hx.watching d f s₁
  obtain ⟨es, hh, hq⟩ := keep_quiet_renderHeaders (x := x) d f s₁ s₁ ⟨[], by simp, fun _ => rfl⟩
  refine ⟨es, by rw [hh, hs₁, List.append_assoc, List.singleton_append], hq, hself, hother⟩

theorem Event.headerFrame_of_not_headerClass {d d' : Direction} {f : Frame}
    (hc : f.isHeaderClass = false) : (Event.frame d f).headerFrame d' = none := by
  simp [Event.headerFrame, hc]

theorem quiet_renderFrame (d : Direction) {f : Frame}
    (hc : f.isHeaderClass = false) (s : Session (σ × List Event)) :
    Quiet (exec (renderFrame x.watching d f) s).2 s := by
  unfold renderFrame
  refine KeepAt.bind (keep_quiet_of (quiet_lift_note
    (fun _ => Event.headerFrame_of_not_headerClass hc) (x.frame d f)) s s
    ⟨[], by simp, fun _ => rfl⟩) fun o u' h' => ?_
  split
  · exact keepAt_pure _ h'
  · split
    all_goals first
      | exact keepAt_pure _ h'
      | exact keep_quiet_renderHeaders d f u' s h'

theorem moved_renderFrame (hx : x.LeavesHeaders) (d : Direction) (f : Frame)
    (s : Session (σ × List Event)) : Moved (exec (renderFrame x.watching d f) s).2 s := by
  cases hc : f.isHeaderClass
  · have hsame := keep_sameBlocks_renderFrame (x := x.watching) d hc s s ⟨rfl, rfl⟩
    exact (quiet_renderFrame d hc s).moved fun d' => hsame.blockState_eq d'
  · obtain ⟨es, hh, hq, hself, hother⟩ := exec_renderFrame_watching hx d hc s
    refine ⟨.frame d f :: es, hh, fun d' => ?_⟩
    have hes : headerFramesOf d' (.frame d f :: es) =
        (if d = d' then [f] else []) := by
      rw [show Event.frame d f :: es = [.frame d f] ++ es from rfl, headerFramesOf_append, hq]
      by_cases hd : d = d' <;> simp [headerFramesOf, Event.headerFrame, hc, hd]
    rw [hes]
    by_cases hd : d = d'
    · subst hd
      rw [if_pos rfl, hself]
      rfl
    · rw [if_neg hd, Direction.eq_opposite_of_ne (Ne.symm hd), hother]
      rfl

theorem keep_moved_applyRender (hx : x.LeavesHeaders) (d : Direction) (f : Frame) :
    Keep Moved (do
      applySettings d f
      let content ← renderFrame x.watching d f
      pure (⟨d, content ++ [10]⟩ : Chunk)) := fun u t hu =>
  (keep_moved_applySettings d f u t hu).bind fun _ u' h' =>
    (keep_moved_of (moved_renderFrame hx d f) u' t h').bind fun _ _ h'' => keepAt_pure _ h''

theorem keep_moved_frameChunk (hx : x.LeavesHeaders) (d : Direction) (h : FrameHeader)
    (payload : Bytes) : Keep Moved (frameChunk x.watching d h payload) := by
  intro u t hu
  unfold frameChunk
  refine KeepAt.recovering ?_ _
  dsimp only
  split
  · rw [pure_bind]
    exact keep_moved_applyRender hx d _ u t hu
  · exact keepAt_throw_bind hu

theorem quiet_frameChunk_of_none (d : Direction) {h : FrameHeader} {payload : Bytes}
    (hnone : headerFrame? h payload = none) (s : Session (σ × List Event)) :
    Quiet (exec (frameChunk x.watching d h payload) s).2 s := by
  have hrefl : Quiet s s := ⟨[], by simp, fun _ => rfl⟩
  show KeepAt Quiet (frameChunk x.watching d h payload) s s
  unfold frameChunk
  refine KeepAt.recovering ?_ _
  dsimp only
  split
  · rename_i f hparse
    have hc : f.isHeaderClass = false := by
      unfold headerFrame? at hnone
      rw [hparse] at hnone
      simpa using hnone
    rw [pure_bind]
    have hsettings : KeepAt Quiet (applySettings d f) s s := by
      unfold KeepAt
      rw [exec_applySettings]
      exact hrefl
    exact hsettings.bind fun _ u' h' =>
      (keep_quiet_of (quiet_renderFrame d hc) u' s h').bind fun _ _ h'' => keepAt_pure _ h''
  · exact keepAt_throw_bind hrefl

theorem history_frameChunk_of_headerFrame (hx : x.LeavesHeaders) (d : Direction)
    {h : FrameHeader} {payload : Bytes} {f : Frame} (hf : headerFrame? h payload = some f)
    (s : Session (σ × List Event)) :
    ∀ d', headerFramesOf d' (exec (frameChunk x.watching d h payload) s).2.ext.2 =
      headerFramesOf d' s.ext.2 ++ (if d = d' then [f] else []) := by
  obtain ⟨hparse, hc⟩ := headerFrame?_eq_some hf
  set s₁ : Session (σ × List Event) := { s with buffers := s.buffers.map (settingsBuffers d f) }
  obtain ⟨es, hh, hq, -, -⟩ := exec_renderFrame_watching hx d hc s₁
  have hstate : (exec (frameChunk x.watching d h payload) s).2 =
      (exec (renderFrame x.watching d f) s₁).2 := by
    unfold frameChunk
    rw [Dissecting.recovering, exec_tryCatch]
    simp only [hparse, pure_bind]
    rw [exec_bind, exec_applySettings]
    dsimp only
    rw [exec_bind]
    rcases exec (renderFrame x.watching d f) s₁ with ⟨_ | _, _⟩
    · dsimp only
      split <;> rfl
    · rfl
  intro d'
  rw [hstate, hh, show Event.frame d f :: es = [.frame d f] ++ es from rfl, ← List.append_assoc,
    headerFramesOf_append, headerFramesOf_append, hq, List.append_nil]
  by_cases hd : d = d' <;> simp [headerFramesOf, Event.headerFrame, hc, hd, s₁]

/-! ## Every step of a run -/

theorem keep_moved_drain (hx : x.LeavesHeaders) (d : Direction) :
    ∀ fuel acc, Keep Moved (drain x.watching d fuel acc)
  | 0, _ => fun _ _ h => keepAt_pure _ h
  | fuel + 1, acc => fun u t hu => by
    rw [drain]
    refine keepAt_get_bind ?_
    dsimp only
    split
    · refine (keepAt_set ?_).bind fun _ u' h' => ?_
      · exact (moved_of_same rfl rfl rfl).trans hu
      split
      · exact keepAt_pure _ h'
      · exact keepAt_pure _ h'
      · exact (keep_moved_frameChunk hx d _ _ u' t h').bind fun _ u'' h'' =>
          keep_moved_drain hx d fuel _ u'' t h''
    · exact keepAt_pure _ hu

theorem keep_moved_feed (hx : x.LeavesHeaders) (d : Direction) (data : Bytes) :
    Keep Moved (feed x.watching d data) := by
  intro u t hu
  unfold feed
  refine keepAt_get_bind ?_
  split
  · exact keepAt_pure _ hu
  · refine (keepAt_set ?_).bind fun _ u' h' => keep_moved_drain hx d _ _ u' t h'
    exact (moved_of_same rfl rfl rfl).trans hu

theorem keep_moved_upgradeSettings (hx : x.LeavesHeaders) (encoded : String) :
    Keep Moved (upgradeSettings x.watching encoded) := by
  intro u t hu
  unfold upgradeSettings
  split
  · simp only [pure_bind]
    split
    · exact keep_moved_applyRender hx .client _ u t hu
    · exact keepAt_throw_bind hu
  · exact keepAt_throw_bind hu

theorem keep_moved_hooks_rawChunk (hx : x.LeavesHeaders) (c : Chunk) :
    Keep Moved (x.watching.hooks.rawChunk c) := by
  intro u t hu
  dsimp only [Extension.hooks]
  refine (keep_moved_lift_onFirst (x.rawChunk c) u t hu).bind fun o u' h' => ?_
  split
  · exact keepAt_pure _ h'
  · refine keepAt_get_bind ?_
    split
    · exact (keep_moved_feed hx _ _ u' t h').bind fun _ _ h'' => keepAt_pure _ h''
    · split
      · exact (keep_moved_ensureBuffers u' t h').bind fun _ _ h₂ =>
          (keepAt_modify ((moved_of_same rfl rfl rfl).trans h₂)).bind fun _ _ h₃ =>
            (keep_moved_feed hx _ _ _ t h₃).bind fun _ _ h₄ => keepAt_pure _ h₄
      · exact keepAt_pure _ h'

theorem keep_moved_hooks_request (hx : x.LeavesHeaders) (c : Chunk) (r : Http1.Request) :
    Keep Moved (x.watching.hooks.request c r) := by
  intro u t hu
  dsimp only [Extension.hooks]
  refine (keep_moved_lift_note (e := .request c r) (fun _ => rfl) (x.request c r) u t hu).bind
    fun o u' h' => ?_
  split
  · exact keepAt_pure _ h'
  · split
    · refine (keep_moved_ensureBuffers u' t h').bind fun _ u'' h'' => ?_
      split
      · exact (keep_moved_upgradeSettings hx _ u'' t h'').bind fun _ _ h₃ => keepAt_pure _ h₃
      · exact keepAt_pure _ h''
    · exact keepAt_pure _ h'

theorem keep_moved_hooks_response (hx : x.LeavesHeaders) (c : Chunk) (r : Http1.Response) :
    Keep Moved (x.watching.hooks.response c r) := by
  intro u t hu
  dsimp only [Extension.hooks]
  refine (keep_moved_lift_note (e := .response c r) (fun _ => rfl) (x.response c r) u t hu).bind
    fun o u' h' => ?_
  have hswitch : ∀ u'', Moved u'' t → KeepAt Moved (do
      modify fun s : Session (σ × List Event) => { s with active := true }
      let out ← feed x.watching c.direction r.body
      pure (⟨c.direction, r.head ++ Http1.blankLine⟩ :: out)) u'' t := fun u'' h'' =>
    (keepAt_modify ((moved_of_same rfl rfl rfl).trans h'')).bind fun _ _ h₃ =>
      (keep_moved_feed hx _ _ _ t h₃).bind fun _ _ h₄ => keepAt_pure _ h₄
  split
  · exact keepAt_pure _ h'
  · split
    · refine keepAt_get_bind ?_
      split
      · exact (keepAt_throw _ h').bind fun _ u'' h'' => hswitch u'' h''
      · exact hswitch u' h'
    · exact keepAt_get_bind (keepAt_pure _ h')

theorem keep_moved_chunk (hx : x.LeavesHeaders) (c : Chunk) :
    Keep Moved (x.watching.hooks.chunk c) :=
  Http1.Hooks.keep_chunk _ c (keep_moved_hooks_rawChunk hx c) (keep_moved_hooks_request hx c)
    (keep_moved_hooks_response hx c)

theorem moved_after (hx : x.LeavesHeaders) (cs : List Chunk) (u : Session (σ × List Event)) :
    Moved (x.watching.hooks.after u cs) u := by
  induction cs generalizing u with
  | nil => exact Moved.refl u
  | cons c cs ih => exact (ih _).trans (keep_moved_chunk hx c u u (Moved.refl u))

end Session

end Dissect.Http2

namespace Dissect.WebSocket

open Dissecting

theorem extension_leavesHeaders : extension.LeavesHeaders where
  frame d f hc s := by
    obtain ⟨flags, streamId, body⟩ := f
    cases body
    all_goals first
      | rfl
      | simp [Http2.Frame.isHeaderClass, Http2.Frame.headerBlock?] at hc
  headers d f hs := by
    intro w e he
    change (exec (extension.headers d f hs) w).1 = .error e at he
    dsimp only [extension] at he
    cases d
    · rw [exec_bind_of_ok (exec_get w)] at he
      split_ifs at he <;> cases he
    · rw [exec_bind_of_ok (exec_get w)] at he
      split at he
      · split_ifs at he <;> cases he
      · cases he

end Dissect.WebSocket

namespace Dissect.Http2

open Dissecting

open Session in
/-- **One HPACK decoder per direction.** For every protocol on top that leaves header blocks to
HTTP/2, as the plain, gRPC and WebSocket ones do, every setting and every run, also one that
switches to frames on an h2c upgrade: the run is its watched twin below the protocol on top, and
each direction's block state is the one a fresh decoder reaches over the header-class frames of
that direction in the history, in order, so the next header-class frame of `d` is rendered as that
block state says. From every state where this holds, a frame keeps it: a header-class frame of `d`
is written down in `d`'s history alone, and rendered as the block state carried over `d`'s earlier
header-class frames says (decoded with its table, or refused when it or the header-class frame
before it lacks END_HEADERS); any other frame writes down no header-class frame. -/
theorem headerBlocks_one_decoder {σ : Type} (x : Extension σ) (hx : x.LeavesHeaders) (start : σ)
    (config : Config) (cs : List Chunk) :
    let u := x.hooks.after (Session.initial start config) cs
    let t := x.watching.hooks.after (Session.initial (start, []) config) cs
    Matches Beneath u t ∧ t.BlocksFollow ∧
    (∀ d h payload f, headerFrame? h payload = some f →
      (exec (frameChunk x d h payload) u).1 =
        .ok (headerChunk d f ((BlockState.fresh.after (headerFramesOf d t.ext.2)).step f).2)) ∧
    ∀ s : Session (σ × List Event), s.BlocksFollow → ∀ d h payload,
      (exec (frameChunk x.watching d h payload) s).2.BlocksFollow ∧
      (headerFrame? h payload = none → ∀ d',
        headerFramesOf d' (exec (frameChunk x.watching d h payload) s).2.ext.2 =
          headerFramesOf d' s.ext.2) ∧
      ∀ f, headerFrame? h payload = some f →
        (exec (frameChunk x.watching d h payload) s).1 =
          .ok (headerChunk d f ((BlockState.fresh.after (headerFramesOf d s.ext.2)).step f).2) ∧
        ∀ d', headerFramesOf d' (exec (frameChunk x.watching d h payload) s).2.ext.2 =
          headerFramesOf d' s.ext.2 ++ (if d = d' then [f] else []) := by
  intro u t
  have hmatch : Matches Beneath u t := x.matches_after_watching cs start config
  have hfollow : t.BlocksFollow :=
    (blocksFollow_initial start config).of_moved (moved_after hx cs _)
  refine ⟨hmatch, hfollow, fun d h payload f hf => ?_, fun s hs d h payload => ⟨?_, ?_, ?_⟩⟩
  · have hblock : u.blockState d = t.blockState d := by
      simp only [blockState, hmatch.tables, hmatch.openBlock]
    rw [(exec_frameChunk_of_headerFrame hx d hf u).1, hblock, hfollow d]
  · exact hs.of_moved (keep_moved_frameChunk hx d h payload s s (Moved.refl s))
  · intro hnone d'
    obtain ⟨es, hh, hq⟩ := quiet_frameChunk_of_none d hnone s
    rw [hh, headerFramesOf_append, hq, List.append_nil]
  · intro f hf
    refine ⟨?_, history_frameChunk_of_headerFrame hx d hf s⟩
    rw [(exec_frameChunk_of_headerFrame hx.watching d hf s).1, hs d]

open Session in
/-- A WebSocket run that switches to frames on an h2c upgrade: the client's next HEADERS frame,
an indexed GET with END_HEADERS, is rendered as the client's block state over the run's history
says. -/
theorem headerBlocks_one_decoder_h2c :
    let cs : List Chunk :=
      [⟨.client, Bytes.ofString ("GET / HTTP/1.1\r\nHost: a\r\nConnection: Upgrade, HTTP2-Settings\r\n" ++
        "Upgrade: h2c\r\nHTTP2-Settings: AAMAAABkAAQAAP__\r\n\r\n")⟩,
       ⟨.server, Bytes.ofString
        "HTTP/1.1 101 Switching Protocols\r\nConnection: Upgrade\r\nUpgrade: h2c\r\n\r\n"⟩]
    let start : WebSocket.State := { maxPending := 50, maxInflated := 1048576 }
    let t := WebSocket.extension.watching.hooks.after (Session.initial (start, []) {}) cs
    headerFrame? ⟨1, 1, 4, 1⟩ [130] = some ⟨4, 1, .headers [130] none⟩ ∧
      (exec (frameChunk WebSocket.extension .client ⟨1, 1, 4, 1⟩ [130])
          (WebSocket.extension.hooks.after (Session.initial start {}) cs)).1 =
        .ok (headerChunk .client ⟨4, 1, .headers [130] none⟩
          ((BlockState.fresh.after (headerFramesOf .client t.ext.2)).step
            ⟨4, 1, .headers [130] none⟩).2) := by
  intro cs start t
  have hf : headerFrame? ⟨1, 1, 4, 1⟩ [130] = some ⟨4, 1, .headers [130] none⟩ := rfl
  exact ⟨hf, (headerBlocks_one_decoder WebSocket.extension WebSocket.extension_leavesHeaders start
    {} cs).2.2.1 .client _ _ _ hf⟩

end Dissect.Http2
