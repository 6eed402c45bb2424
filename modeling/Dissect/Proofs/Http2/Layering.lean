import Mathlib
import Dissect.Proofs.Dissection.Simulation
import Dissect.Proofs.Http2.HeaderBlocks

/-!
# Protocols on top of HTTP/2 that follow one another

The HTTP/2 layer reaches the protocol on top only through its hooks. When the hooks of one
protocol give what those of another give from related states (`Extension.Follows`), the two
layers dissect every conversation alike.
-/

set_option autoImplicit false

namespace Dissect.Http2

open Dissecting

variable {σ τ : Type}

/-- The hooks of a protocol on top of HTTP/2 all keep `P`. -/
structure Extension.Keeps (y : Extension τ) (P : τ → τ → Prop) : Prop where
  rawChunk : ∀ c, Keep P (y.rawChunk c)
  request : ∀ c r, Keep P (y.request c r)
  response : ∀ c r, Keep P (y.response c r)
  headers : ∀ d f hs, Keep P (y.headers d f hs)
  frame : ∀ d f, Keep P (y.frame d f)

def Frame.Parsed (f : Frame) : Prop := ∃ h payload, Frame.parse h payload = .ok f

/-- The hooks of a protocol on top of HTTP/2 keep `P` on what the layer can hand them: any chunk,
request or response, and frames that were parsed, with a header block for the header hook. -/
structure Extension.KeepsParsed (y : Extension τ) (P : τ → τ → Prop) : Prop where
  rawChunk : ∀ c, Keep P (y.rawChunk c)
  request : ∀ c r, Keep P (y.request c r)
  response : ∀ c r, Keep P (y.response c r)
  headers : ∀ d f hs, f.Parsed → f.isHeaderClass = true → Keep P (y.headers d f hs)
  frame : ∀ d f, f.Parsed → Keep P (y.frame d f)

theorem Extension.Keeps.parsed {y : Extension τ} {P : τ → τ → Prop} (hy : y.Keeps P) :
    y.KeepsParsed P :=
  ⟨hy.rawChunk, hy.request, hy.response, fun d f hs _ _ => hy.headers d f hs,
    fun d f _ => hy.frame d f⟩

/-- The hooks of `x` follow those of `y` from states related by `E`, as long as `y` ends where `ok`
holds, and the hooks of `y` never gain `ok`. SETTINGS entries are named alike once `y` has seen
their frame and still holds `ok`. -/
structure Extension.Follows (x : Extension σ) (y : Extension τ) (E : σ → τ → Prop)
    (ok : τ → Prop) : Prop where
  keeps : y.Keeps (NeverGains ok)
  rawChunk : ∀ c, Sim E ok (x.rawChunk c) (y.rawChunk c)
  request : ∀ c r, Sim E ok (x.request c r) (y.request c r)
  response : ∀ c r, Sim E ok (x.response c r) (y.response c r)
  headers : ∀ d f hs, Sim E ok (x.headers d f hs) (y.headers d f hs)
  frame : ∀ d f, Sim E ok (x.frame d f) (y.frame d f)
  settingName : ∀ d f values (u : τ), f.body = .settings values → ok (exec (y.frame d f) u).2 →
    ∀ p ∈ values, x.settingName p.1 = y.settingName p.1

namespace Session

/-! ## What the layer keeps of the state on top -/

def OnExt (P : τ → τ → Prop) (u t : Session τ) : Prop := P u.ext t.ext

theorem exec_lift {α : Type} (m : Dissecting τ α) (t : Session τ) :
    exec (lift m) t = ((exec m t.ext).1, { t with ext := (exec m t.ext).2 }) := rfl

variable {P : τ → τ → Prop} {y : Extension τ}

theorem keep_onExt_lift {α : Type} {m : Dissecting τ α} (h : Keep P m) : Keep (OnExt P) (lift m) :=
  fun u t hu => h u.ext t.ext hu

theorem keep_onExt_decodeBlock (d : Direction) (block : Bytes) :
    Keep (OnExt P) (decodeBlock (σ := τ) d block) := by
  intro u t hu
  unfold KeepAt
  rw [exec_decodeBlock]
  exact hu

theorem keep_onExt_applySettings (d : Direction) (f : Frame) :
    Keep (OnExt P) (applySettings (σ := τ) d f) := by
  intro u t hu
  unfold KeepAt
  rw [exec_applySettings]
  exact hu

theorem keep_onExt_ensureBuffers : Keep (OnExt P) (ensureBuffers (σ := τ)) := by
  intro u t hu
  unfold ensureBuffers
  refine keepAt_modify ?_
  split <;> exact hu

section Frame

variable {d : Direction} {f : Frame} (hframe : Keep P (y.frame d f))
  (hhead : f.isHeaderClass = true → ∀ hs, Keep P (y.headers d f hs))

theorem keep_onExt_renderHeaders (hhead : ∀ hs, Keep P (y.headers d f hs)) :
    Keep (OnExt P) (renderHeaders y d f) := by
  intro u t hu
  unfold renderHeaders
  refine keepAt_get_bind ?_
  dsimp only
  split
  · refine (keepAt_set ?_).bind fun _ _ h' => keepAt_throw _ h'
    exact hu
  · exact (keep_onExt_decodeBlock d _ u t hu).bind fun _ u' h' =>
      (keep_onExt_lift (hhead _) u' t h').bind fun _ _ h'' => keepAt_pure _ h''

include hframe hhead in
theorem keep_onExt_renderFrame : Keep (OnExt P) (renderFrame y d f) := by
  intro u t hu
  unfold renderFrame
  refine (keep_onExt_lift hframe u t hu).bind fun o u' h' => ?_
  split
  · exact keepAt_pure _ h'
  · split <;> rename_i hbody
    · exact keep_onExt_renderHeaders (hhead (by simp [Frame.isHeaderClass, Frame.headerBlock?, hbody]))
        u' t h'
    · exact keep_onExt_renderHeaders (hhead (by simp [Frame.isHeaderClass, Frame.headerBlock?, hbody]))
        u' t h'
    · exact keep_onExt_renderHeaders (hhead (by simp [Frame.isHeaderClass, Frame.headerBlock?, hbody]))
        u' t h'
    · exact keepAt_pure _ h'
    · exact keepAt_pure _ h'
    · exact keepAt_pure _ h'

include hframe hhead in
theorem keep_onExt_applyRender :
    Keep (OnExt P) (do
      applySettings d f
      let content ← renderFrame y d f
      pure (⟨d, content ++ [10]⟩ : Chunk)) := fun u t hu =>
  (keep_onExt_applySettings d f u t hu).bind fun _ u' h' =>
    (keep_onExt_renderFrame hframe hhead u' t h').bind fun _ _ h'' => keepAt_pure _ h''

end Frame

variable (hy : y.KeepsParsed P)
include hy

theorem keep_onExt_applyRender_of_parse {h : FrameHeader} {payload : Bytes} {f : Frame}
    (hf : Frame.parse h payload = .ok f) (d : Direction) :
    Keep (OnExt P) (do
      applySettings d f
      let content ← renderFrame y d f
      pure (⟨d, content ++ [10]⟩ : Chunk)) :=
  keep_onExt_applyRender (hy.frame d f ⟨h, payload, hf⟩) fun hc hs =>
    hy.headers d f hs ⟨h, payload, hf⟩ hc

theorem keep_onExt_frameChunk (d : Direction) (h : FrameHeader) (payload : Bytes) :
    Keep (OnExt P) (frameChunk y d h payload) := by
  intro u t hu
  unfold frameChunk
  refine KeepAt.recovering ?_ _
  dsimp only
  split
  · rename_i hf
    rw [pure_bind]
    exact keep_onExt_applyRender_of_parse hy hf d u t hu
  · exact keepAt_throw_bind hu

theorem keep_onExt_drain (d : Direction) :
    ∀ fuel acc, Keep (OnExt P) (drain y d fuel acc)
  | 0, _ => fun _ _ h => keepAt_pure _ h
  | fuel + 1, acc => fun u t hu => by
    rw [drain]
    refine keepAt_get_bind ?_
    dsimp only
    split
    · refine (keepAt_set ?_).bind fun _ u' h' => ?_
      · exact hu
      split
      · exact keepAt_pure _ h'
      · exact keepAt_pure _ h'
      · exact (keep_onExt_frameChunk hy d _ _ u' t h').bind fun c u'' h'' =>
          keep_onExt_drain d fuel _ u'' t h''
    · exact keepAt_pure _ hu

theorem keep_onExt_feed (d : Direction) (data : Bytes) : Keep (OnExt P) (feed y d data) := by
  intro u t hu
  unfold feed
  refine keepAt_get_bind ?_
  split
  · exact keepAt_pure _ hu
  · refine (keepAt_set ?_).bind fun _ u' h' => keep_onExt_drain hy d _ _ u' t h'
    exact hu

theorem keep_onExt_upgradeSettings (encoded : String) :
    Keep (OnExt P) (upgradeSettings y encoded) := by
  intro u t hu
  unfold upgradeSettings
  split
  · simp only [pure_bind]
    split
    · rename_i hf
      exact keep_onExt_applyRender_of_parse hy hf .client u t hu
    · exact keepAt_throw_bind hu
  · exact keepAt_throw_bind hu

theorem keep_onExt_hooks_rawChunk (c : Chunk) : Keep (OnExt P) (y.hooks.rawChunk c) := by
  intro u t hu
  dsimp only [Extension.hooks]
  refine (keep_onExt_lift (hy.rawChunk c) u t hu).bind fun o u' h' => ?_
  split
  · exact keepAt_pure _ h'
  · refine keepAt_get_bind ?_
    split
    · exact (keep_onExt_feed hy _ _ u' t h').bind fun _ _ h'' => keepAt_pure _ h''
    · split
      · refine (keep_onExt_ensureBuffers u' t h').bind fun _ _ h₂ => (keepAt_modify ?_).bind
          fun _ _ h₃ => (keep_onExt_feed hy _ _ _ t h₃).bind fun _ _ h₄ => keepAt_pure _ h₄
        exact h₂
      · exact keepAt_pure _ h'

theorem keep_onExt_hooks_request (c : Chunk) (r : Http1.Request) :
    Keep (OnExt P) (y.hooks.request c r) := by
  intro u t hu
  dsimp only [Extension.hooks]
  refine (keep_onExt_lift (hy.request c r) u t hu).bind fun o u' h' => ?_
  split
  · exact keepAt_pure _ h'
  · split
    · refine (keep_onExt_ensureBuffers u' t h').bind fun _ u'' h'' => ?_
      split
      · exact (keep_onExt_upgradeSettings hy _ u'' t h'').bind fun _ _ h₃ => keepAt_pure _ h₃
      · exact keepAt_pure _ h''
    · exact keepAt_pure _ h'

theorem keep_onExt_switch (c : Chunk) (r : Http1.Response) :
    Keep (OnExt P) (do
      modify fun s : Session τ => { s with active := true }
      let out ← feed y c.direction r.body
      pure (⟨c.direction, r.head ++ Http1.blankLine⟩ :: out)) := by
  intro u t hu
  refine (keepAt_modify ?_).bind fun _ _ h' =>
    (keep_onExt_feed hy _ _ _ t h').bind fun _ _ h'' => keepAt_pure _ h''
  exact hu

theorem keep_onExt_hooks_response (c : Chunk) (r : Http1.Response) :
    Keep (OnExt P) (y.hooks.response c r) := by
  intro u t hu
  dsimp only [Extension.hooks]
  refine (keep_onExt_lift (hy.response c r) u t hu).bind fun o u' h' => ?_
  split
  · exact keepAt_pure _ h'
  · split
    · -- a switch that no request asked for ends here; otherwise the body is fed as frames
      refine keepAt_get_bind ?_
      split
      · exact (keepAt_throw _ h').bind fun _ u'' h'' => keep_onExt_switch hy c r u'' t h''
      · exact keep_onExt_switch hy c r u' t h'
    · exact keepAt_get_bind (keepAt_pure _ h')

end Session

theorem Extension.KeepsParsed.chunk {y : Extension τ} {P : τ → τ → Prop}
    (hy : y.KeepsParsed P) (c : Chunk) : Keep (Session.OnExt P) (y.hooks.chunk c) :=
  Http1.Hooks.keep_chunk _ c (Session.keep_onExt_hooks_rawChunk hy c)
    (Session.keep_onExt_hooks_request hy c) (Session.keep_onExt_hooks_response hy c)

theorem Extension.Keeps.chunk {y : Extension τ} {P : τ → τ → Prop} (hy : y.Keeps P) (c : Chunk) :
    Keep (Session.OnExt P) (y.hooks.chunk c) :=
  hy.parsed.chunk c

namespace Session

/-! ## Sessions alike below the protocol on top -/

/-- Sessions that are the same below the protocol on top, whose states on top are related by
`E`. -/
structure Matches (E : σ → τ → Prop) (s : Session σ) (t : Session τ) : Prop where
  ext : E s.ext t.ext
  active : s.active = t.active
  buffers : s.buffers = t.buffers
  tables : s.tables = t.tables
  openBlock : s.openBlock = t.openBlock
  maxFrameSize : s.maxFrameSize = t.maxFrameSize
  maxInflated : s.maxInflated = t.maxInflated

def Ok (ok : τ → Prop) (t : Session τ) : Prop := ok t.ext

variable {E : σ → τ → Prop} {ok : τ → Prop} {s : Session σ} {t : Session τ}

theorem Matches.withTables (h : Matches E s t) (v : Sides Hpack.DynamicTable) :
    Matches E { s with tables := v } { t with tables := v } :=
  ⟨h.ext, h.active, h.buffers, rfl, h.openBlock, h.maxFrameSize, h.maxInflated⟩

theorem Matches.withOpenBlock (h : Matches E s t) (v : Sides Bool) :
    Matches E { s with openBlock := v } { t with openBlock := v } :=
  ⟨h.ext, h.active, h.buffers, h.tables, rfl, h.maxFrameSize, h.maxInflated⟩

theorem Matches.withBuffers (h : Matches E s t) (v : Option (Sides FrameBuffer)) :
    Matches E { s with buffers := v } { t with buffers := v } :=
  ⟨h.ext, h.active, rfl, h.tables, h.openBlock, h.maxFrameSize, h.maxInflated⟩

theorem Matches.withActive (h : Matches E s t) (v : Bool) :
    Matches E { s with active := v } { t with active := v } :=
  ⟨h.ext, rfl, h.buffers, h.tables, h.openBlock, h.maxFrameSize, h.maxInflated⟩

theorem sim_lift {α : Type} {m₁ : Dissecting σ α} {m₂ : Dissecting τ α} (h : Sim E ok m₁ m₂) :
    Sim (Matches E) (Ok ok) (lift m₁) (lift m₂) := fun _ _ hst =>
  h.within hst.ext (fun _ _ he =>
    ⟨he, hst.active, hst.buffers, hst.tables, hst.openBlock, hst.maxFrameSize, hst.maxInflated⟩)
    fun _ hok => hok

theorem sim_decodeBlock (d : Direction) (block : Bytes) :
    Sim (Matches E) (Ok ok) (decodeBlock d block) (decodeBlock d block) := by
  intro s t h
  refine simAt_of_exec (exec_decodeBlock d block s) ?_ (h.withTables _)
  rw [exec_decodeBlock, h.tables]

theorem sim_applySettings (d : Direction) (f : Frame) :
    Sim (Matches E) (Ok ok) (applySettings d f) (applySettings d f) := by
  intro s t h
  refine simAt_of_exec (exec_applySettings d f s) ?_ (h.withBuffers _)
  rw [exec_applySettings, h.buffers]

theorem sim_ensureBuffers : Sim (Matches E) (Ok ok) ensureBuffers ensureBuffers := by
  intro s t h
  unfold ensureBuffers
  refine simAt_modify ?_
  rw [h.buffers]
  split
  · exact h
  · exact ⟨h.ext, h.active, by simp only [h.maxFrameSize], h.tables, h.openBlock, h.maxFrameSize,
      h.maxInflated⟩

theorem settingsText_congr {x : Extension σ} {y : Extension τ} (f : Frame) {values : List (Nat × Nat)}
    (h : ∀ p ∈ values, x.settingName p.1 = y.settingName p.1) :
    settingsText x f values = settingsText y f values := by
  unfold settingsText
  dsimp only
  congr 2
  refine List.map_congr_left fun p hp => ?_
  obtain ⟨id, v⟩ := p
  simp only [h _ hp]

variable {x : Extension σ} {y : Extension τ} (hxy : x.Follows y E ok)
include hxy

theorem sim_renderHeaders (d : Direction) (f : Frame) :
    Sim (Matches E) (Ok ok) (renderHeaders x d f) (renderHeaders y d f) := by
  intro s t h
  unfold renderHeaders
  refine simAt_get_bind ?_
  dsimp only
  rw [h.openBlock]
  split
  · exact (simAt_set (h.withOpenBlock _)).bind (fun _ _ _ h' => simAt_throw _ h')
      fun _ => keep_throw _
  · refine (sim_decodeBlock d _ s t h).bind (fun _ s' t' h' => ?_) fun _ =>
      Keep.bind (keep_onExt_lift (hxy.keeps.headers d f _)) fun _ => keep_pure _
    exact (sim_lift (hxy.headers d f _) s' t' h').bind (fun _ _ _ h'' => simAt_pure _ h'')
      fun _ => keep_pure _

theorem sim_renderFrame (d : Direction) (f : Frame) :
    Sim (Matches E) (Ok ok) (renderFrame x d f) (renderFrame y d f) := by
  intro s t h
  unfold renderFrame
  refine (sim_lift (hxy.frame d f) s t h).bind_exec (fun o s' t' h' hexec => ?_) fun o => ?_
  · split
    · exact simAt_pure _ h'
    · split
      · exact sim_renderHeaders hxy d f s' t' h'
      · exact sim_renderHeaders hxy d f s' t' h'
      · exact sim_renderHeaders hxy d f s' t' h'
      · exact simAt_pure _ h'
      · rename_i values hbody
        intro hok
        rw [exec_lift] at hexec
        have ht' : (exec (y.frame d f) t.ext).2 = t'.ext := congrArg (fun p => p.2.ext) hexec
        have hnames := hxy.settingName d f values t.ext hbody (by rw [ht']; exact hok)
        exact ⟨by simp only [exec_pure, settingsText_congr f hnames], h'⟩
      · exact simAt_pure _ h'
  · intro u v hu
    split
    · exact keepAt_pure _ hu
    · split
      · exact keep_onExt_renderHeaders (hxy.keeps.headers d f) u v hu
      · exact keep_onExt_renderHeaders (hxy.keeps.headers d f) u v hu
      · exact keep_onExt_renderHeaders (hxy.keeps.headers d f) u v hu
      · exact keepAt_pure _ hu
      · exact keepAt_pure _ hu
      · exact keepAt_pure _ hu

theorem sim_applyRender (d : Direction) (f : Frame) :
    Sim (Matches E) (Ok ok)
      (do applySettings d f; let content ← renderFrame x d f; pure (⟨d, content ++ [10]⟩ : Chunk))
      (do applySettings d f; let content ← renderFrame y d f; pure (⟨d, content ++ [10]⟩ : Chunk)) :=
  fun s t h => (sim_applySettings d f s t h).bind
    (fun _ s' t' h' => (sim_renderFrame hxy d f s' t' h').bind (fun _ _ _ h'' => simAt_pure _ h'')
      fun _ => keep_pure _)
    fun _ => Keep.bind (keep_onExt_renderFrame (hxy.keeps.frame d f) fun _ => hxy.keeps.headers d f)
      fun _ => keep_pure _

theorem sim_frameChunk (d : Direction) (h : FrameHeader) (payload : Bytes) :
    Sim (Matches E) (Ok ok) (frameChunk x d h payload) (frameChunk y d h payload) := by
  intro s t hst
  unfold frameChunk
  refine SimAt.recovering ?_ _
  dsimp only
  split
  · exact simAt_pure_bind (sim_applyRender hxy d _ s t hst)
  · exact simAt_throw_bind hst

theorem sim_drain (d : Direction) :
    ∀ fuel acc, Sim (Matches E) (Ok ok) (drain x d fuel acc) (drain y d fuel acc)
  | 0, _ => fun _ _ h => simAt_pure _ h
  | fuel + 1, acc => fun s t h => by
    rw [drain, drain]
    refine simAt_get_bind ?_
    dsimp only
    rw [h.buffers]
    split
    · refine (simAt_set (h.withBuffers _)).bind (fun _ s' t' h' => ?_) fun _ => ?_
      · split
        · exact simAt_pure _ h'
        · exact simAt_pure _ h'
        · exact (sim_frameChunk hxy d _ _ s' t' h').bind (fun _ s'' t'' h'' =>
            sim_drain d fuel _ s'' t'' h'') fun _ => keep_onExt_drain hxy.keeps.parsed d fuel _
      · intro u v hu
        split
        · exact keepAt_pure _ hu
        · exact keepAt_pure _ hu
        · exact (keep_onExt_frameChunk hxy.keeps.parsed d _ _ u v hu).bind fun _ u' h' =>
            keep_onExt_drain hxy.keeps.parsed d fuel _ u' v h'
    · exact simAt_pure _ h

theorem sim_feed (d : Direction) (data : Bytes) :
    Sim (Matches E) (Ok ok) (feed x d data) (feed y d data) := by
  intro s t h
  unfold feed
  refine simAt_get_bind ?_
  dsimp only
  rw [h.buffers]
  split
  · exact simAt_pure _ h
  · exact (simAt_set (h.withBuffers _)).bind (fun _ s' t' h' => sim_drain hxy d _ _ s' t' h')
      fun _ => keep_onExt_drain hxy.keeps.parsed d _ _

theorem sim_upgradeSettings (encoded : String) :
    Sim (Matches E) (Ok ok) (upgradeSettings x encoded) (upgradeSettings y encoded) := by
  intro s t h
  unfold upgradeSettings
  split
  · refine simAt_pure_bind ?_
    dsimp only
    split
    · exact simAt_pure_bind (sim_applyRender hxy .client _ s t h)
    · exact simAt_throw_bind h
  · exact simAt_throw_bind h

/-! ## The HTTP/1 hooks of two layers -/

theorem sim_hooks_rawChunk (c : Chunk) :
    Sim (Matches E) (Ok ok) (x.hooks.rawChunk c) (y.hooks.rawChunk c) := by
  intro s t h
  dsimp only [Extension.hooks]
  refine (sim_lift (hxy.rawChunk c) s t h).bind (fun o s' t' h' => ?_) fun o => ?_
  · split
    · exact simAt_pure _ h'
    · refine simAt_get_bind ?_
      rw [h'.active]
      split
      · exact (sim_feed hxy _ _ s' t' h').bind (fun _ _ _ h'' => simAt_pure _ h'')
          fun _ => keep_pure _
      · split
        · refine (sim_ensureBuffers s' t' h').bind (fun _ s₂ t₂ h₂ => ?_) fun _ => ?_
          · refine (simAt_modify (h₂.withActive true)).bind (fun _ s₃ t₃ h₃ => ?_) fun _ =>
              Keep.bind (keep_onExt_feed hxy.keeps.parsed _ _) fun _ => keep_pure _
            exact (sim_feed hxy _ _ s₃ t₃ h₃).bind (fun _ _ _ h₄ => simAt_pure _ h₄)
              fun _ => keep_pure _
          · refine Keep.bind (fun u v hu => keepAt_modify ?_) fun _ =>
              Keep.bind (keep_onExt_feed hxy.keeps.parsed _ _) fun _ => keep_pure _
            exact hu
        · exact simAt_pure _ h'
  -- what follows the hook on top, for `y`, never gains `ok`
  · intro u v hu
    split
    · exact keepAt_pure _ hu
    · refine keepAt_get_bind ?_
      split
      · exact (keep_onExt_feed hxy.keeps.parsed _ _ u v hu).bind fun _ _ h'' => keepAt_pure _ h''
      · split
        · refine (keep_onExt_ensureBuffers (P := NeverGains ok) u v hu).bind fun _ _ h₂ => (keepAt_modify ?_).bind
            fun _ _ h₃ => (keep_onExt_feed hxy.keeps.parsed _ _ _ v h₃).bind fun _ _ h₄ =>
              keepAt_pure _ h₄
          exact h₂
        · exact keepAt_pure _ hu

theorem sim_hooks_request (c : Chunk) (r : Http1.Request) :
    Sim (Matches E) (Ok ok) (x.hooks.request c r) (y.hooks.request c r) := by
  intro s t h
  dsimp only [Extension.hooks]
  refine (sim_lift (hxy.request c r) s t h).bind (fun o s' t' h' => ?_) fun o => ?_
  · split
    · exact simAt_pure _ h'
    · split
      · refine (sim_ensureBuffers s' t' h').bind (fun _ s₂ t₂ h₂ => ?_) fun _ => ?_
        · split
          · exact (sim_upgradeSettings hxy _ s₂ t₂ h₂).bind (fun _ _ _ h₃ => simAt_pure _ h₃)
              fun _ => keep_pure _
          · exact simAt_pure _ h₂
        · intro u v hu
          split
          · exact (keep_onExt_upgradeSettings hxy.keeps.parsed _ u v hu).bind fun _ _ h₃ =>
              keepAt_pure _ h₃
          · exact keepAt_pure _ hu
      · exact simAt_pure _ h'
  · intro u v hu
    split
    · exact keepAt_pure _ hu
    · split
      · refine (keep_onExt_ensureBuffers (P := NeverGains ok) u v hu).bind fun _ u' h' => ?_
        split
        · exact (keep_onExt_upgradeSettings hxy.keeps.parsed _ u' v h').bind fun _ _ h₃ =>
            keepAt_pure _ h₃
        · exact keepAt_pure _ h'
      · exact keepAt_pure _ hu

theorem sim_switch (c : Chunk) (r : Http1.Response) :
    Sim (Matches E) (Ok ok)
      (do
        modify fun s : Session σ => { s with active := true }
        let out ← feed x c.direction r.body
        pure (⟨c.direction, r.head ++ Http1.blankLine⟩ :: out))
      (do
        modify fun s : Session τ => { s with active := true }
        let out ← feed y c.direction r.body
        pure (⟨c.direction, r.head ++ Http1.blankLine⟩ :: out)) := fun _ _ h =>
  (simAt_modify (h.withActive true)).bind
    (fun _ s' t' h' => (sim_feed hxy _ _ s' t' h').bind (fun _ _ _ h'' => simAt_pure _ h'')
      fun _ => keep_pure _)
    fun _ => Keep.bind (keep_onExt_feed hxy.keeps.parsed _ _) fun _ => keep_pure _

theorem sim_hooks_response (c : Chunk) (r : Http1.Response) :
    Sim (Matches E) (Ok ok) (x.hooks.response c r) (y.hooks.response c r) := by
  intro s t h
  dsimp only [Extension.hooks]
  refine (sim_lift (hxy.response c r) s t h).bind (fun o s' t' h' => ?_) fun o => ?_
  · split
    · exact simAt_pure _ h'
    · split
      · refine simAt_get_bind ?_
        rw [h'.buffers]
        split
        · exact (simAt_throw _ h').bind (fun _ => sim_switch hxy c r)
            fun _ => keep_onExt_switch hxy.keeps.parsed c r
        · exact sim_switch hxy c r s' t' h'
      · refine simAt_get_bind ?_
        rw [h'.maxInflated]
        exact simAt_pure _ h'
  · intro u v hu
    split
    · exact keepAt_pure _ hu
    · split
      · refine keepAt_get_bind ?_
        split
        · exact (keepAt_throw _ hu).bind fun _ u' h' =>
            keep_onExt_switch hxy.keeps.parsed c r u' v h'
        · exact keep_onExt_switch hxy.keeps.parsed c r u v hu
      · exact keepAt_get_bind (keepAt_pure _ hu)

end Session

variable {E : σ → τ → Prop} {ok : τ → Prop} {x : Extension σ} {y : Extension τ}

open Session in
theorem Extension.Follows.sim_chunk (hxy : x.Follows y E ok) (c : Chunk) :
    Sim (Matches E) (Ok ok) (x.hooks.chunk c) (y.hooks.chunk c) :=
  Http1.Hooks.sim_chunk (Http1.Hooks.sim_answer (sim_hooks_rawChunk hxy c)
    (fun _ r _ => sim_hooks_request hxy c r) (fun _ r _ => sim_hooks_response hxy c r)
    (keep_onExt_hooks_request hxy.keeps.parsed c) (keep_onExt_hooks_response hxy.keeps.parsed c))

open Session in
/-- Two HTTP/2 layers whose protocols on top follow each other dissect alike, as long as the second
ends where `ok` holds. -/
theorem Extension.Follows.sim_dissect (hxy : x.Follows y E ok) (cs : List Chunk) :
    Sim (Matches E) (Ok ok) (x.hooks.dissect cs) (y.hooks.dissect cs) :=
  Http1.Hooks.sim_dissect (fun c => hxy.keeps.chunk c) cs fun c _ => hxy.sim_chunk c

/-- Two protocols on top of HTTP/2 that follow each other from related start states dissect a
conversation alike when the second ends where `ok` holds. -/
theorem Extension.Follows.dissect_eq (hxy : x.Follows y E ok) {start₁ : σ} {start₂ : τ}
    (hstart : E start₁ start₂) (maxFrameSize maxInflated : Nat) (chunks : List Chunk)
    (hok : ok (exec (y.hooks.dissect (clientFirst chunks))
      { ext := start₂, maxFrameSize, maxInflated }).2.ext) :
    x.dissect start₁ maxFrameSize maxInflated chunks = y.dissect start₂ maxFrameSize maxInflated chunks :=
  (hxy.sim_dissect (clientFirst chunks)).evaluate_eq
    ⟨hstart, rfl, rfl, rfl, rfl, rfl, rfl⟩ hok

end Dissect.Http2
