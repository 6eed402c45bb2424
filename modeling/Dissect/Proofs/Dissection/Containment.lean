import Mathlib
import Dissect.Dissection.Dissector

/-!
# Containment of issues

`Raises p m` says that every issue a step `m` can end with satisfies `p`. It is closed under the
monad's operations, so it is carried through each layer one definition at a time.
-/

set_option autoImplicit false

namespace Dissect

def Dissecting.Raises {σ α : Type} (p : Issue → Prop) (m : Dissecting σ α) : Prop :=
  ∀ s e, (Id.run (m.run.run s)).1 = .error e → p e

def Issue.Recoverable (e : Issue) : Prop := e.isFatal = false

namespace Dissecting

variable {σ τ α β : Type} {p q : Issue → Prop}

theorem run_run_bind (m : Dissecting σ α) (f : α → Dissecting σ β) (s : σ) :
    Id.run ((m >>= f).run.run s) =
      match Id.run (m.run.run s) with
      | (.ok a, s') => Id.run ((f a).run.run s')
      | (.error e, s') => (.error e, s') := by
  rcases hr : Id.run (m.run.run s) with ⟨r, s'⟩
  simp only [Id.run] at hr
  cases r <;> simp [ExceptT.run_bind, StateT.run_bind, hr] <;> rfl

theorem run_run_tryCatch (m : Dissecting σ α) (h : Issue → Dissecting σ α) (s : σ) :
    Id.run ((tryCatch m h).run.run s) =
      match Id.run (m.run.run s) with
      | (.ok a, s') => (.ok a, s')
      | (.error e, s') => Id.run ((h e).run.run s') := by
  rcases hr : Id.run (m.run.run s) with ⟨r, s'⟩
  simp only [Id.run] at hr
  cases r <;> simp [ExceptT.run_tryCatch, StateT.run_bind, hr] <;> rfl

/-! The steps that raise nothing of their own, and the ways of putting steps together. -/

theorem Raises.mono {m : Dissecting σ α} (h : Raises p m) (hpq : ∀ e, p e → q e) :
    Raises q m := fun s e he => hpq e (h s e he)

theorem raises_pure (a : α) : Raises (σ := σ) p (pure a) := by
  intro s e h
  cases h

theorem raises_throw {e : Issue} (h : p e) : Raises (σ := σ) (α := α) p (throw e) := by
  intro s e' h'
  cases h'
  exact h

theorem raises_get : Raises (σ := σ) p get := by
  intro s e h
  cases h

theorem raises_set (s : σ) : Raises p (set s : Dissecting σ PUnit) := by
  intro s e h
  cases h

theorem raises_modify (f : σ → σ) : Raises p (modify f : Dissecting σ PUnit) := by
  intro s e h
  cases h

theorem Raises.bind {m : Dissecting σ α} {f : α → Dissecting σ β} (hm : Raises p m)
    (hf : ∀ a, Raises p (f a)) : Raises p (m >>= f) := by
  intro s e h
  rw [run_run_bind] at h
  rcases hr : Id.run (m.run.run s) with ⟨r, s'⟩
  rw [hr] at h
  cases r with
  | error e' =>
    cases h
    exact hm s e (by rw [hr])
  | ok a => exact hf a s' e h

theorem Raises.recovering {m : Dissecting σ α} (h : Raises p m) (r : Issue → α) :
    Raises (fun e => p e ∧ e.isFatal = true) (m.recovering r) := by
  intro s e he
  rw [Dissecting.recovering, run_run_tryCatch] at he
  rcases hr : Id.run (m.run.run s) with ⟨x, s'⟩
  rw [hr] at he
  cases x with
  | ok a => cases he
  | error e' =>
    have hp := h s e' (by rw [hr])
    by_cases hf : e'.isFatal = true
    · simp only [hf, if_true] at he
      cases he
      exact ⟨hp, hf⟩
    · simp only [hf] at he
      cases he

theorem Raises.recovering_of_recoverable {m : Dissecting σ α} (h : Raises Issue.Recoverable m)
    (r : Issue → α) : Raises (fun _ => False) (m.recovering r) :=
  (h.recovering r).mono fun e he => by
    have hr : e.isFatal = false := he.1
    have hf : e.isFatal = true := he.2
    rw [hr] at hf
    cases hf

theorem Raises.within {m : Dissecting σ α} (h : Raises p m) (get : τ → σ) (put : τ → σ → τ) :
    Raises p (m.within get put) := by
  intro t e he
  exact h (get t) e he

theorem raises_mapM {f : α → Dissecting σ β} (hf : ∀ a, Raises p (f a)) :
    ∀ l : List α, Raises p (l.mapM f)
  | [] => raises_pure []
  | a :: l => by
    rw [List.mapM_cons]
    exact (hf a).bind fun b => (raises_mapM hf l).bind fun bs => raises_pure _

theorem Raises.evaluate {m : Dissecting σ α} (h : Raises p m) (s : σ) {e : Issue}
    (he : m.evaluate s = .error e) : p e := h s e he

theorem Raises.exists_evaluate_ok {m : Dissecting σ α} (h : Raises (fun _ => False) m) (s : σ) :
    ∃ a, m.evaluate s = .ok a := by
  rcases hr : m.evaluate s with e | a
  · exact (h.evaluate s hr).elim
  · exact ⟨a, rfl⟩

end Dissecting

open Dissecting

namespace Http1

variable {σ : Type}

/-- Hooks that raise only recoverable issues. -/
structure Hooks.Recoverable (h : Hooks σ) : Prop where
  rawChunk : ∀ c, Raises Issue.Recoverable (h.rawChunk c)
  request : ∀ c r, Raises Issue.Recoverable (h.request c r)
  response : ∀ c r, Raises Issue.Recoverable (h.response c r)

theorem Hooks.raises_answer {h : Hooks σ} (hh : h.Recoverable) (c : Chunk) :
    Raises Issue.Recoverable (h.answer c) := by
  unfold Hooks.answer
  refine (hh.rawChunk c).bind fun o => ?_
  split
  · exact raises_pure _
  -- a message that cannot be read is an HTTP issue, which is recoverable
  · split
    · split
      · exact hh.request _ _
      · exact raises_throw rfl
    · split
      · exact hh.response _ _
      · exact raises_throw rfl

theorem Hooks.raises_chunk (h : Hooks σ) (c : Chunk) :
    Raises (fun e => e.isFatal = true) (h.chunk c) :=
  ((show Raises (fun _ => True) (h.answer c) from fun _ _ _ => trivial).recovering _).mono
    fun _ he => he.2

theorem Hooks.raises_chunk_of_recoverable {h : Hooks σ} (hh : h.Recoverable) (c : Chunk) :
    Raises (fun _ => False) (h.chunk c) :=
  (h.raises_answer hh c).recovering_of_recoverable _

theorem Hooks.raises_dissect (h : Hooks σ) (cs : List Chunk) :
    Raises (fun e => e.isFatal = true) (h.dissect cs) :=
  (raises_mapM h.raises_chunk cs).bind fun _ => raises_pure _

theorem Hooks.raises_dissect_of_recoverable {h : Hooks σ} (hh : h.Recoverable) (cs : List Chunk) :
    Raises (fun _ => False) (h.dissect cs) :=
  (raises_mapM (h.raises_chunk_of_recoverable hh) cs).bind fun _ => raises_pure _

theorem plainHooks_recoverable (limit : Nat) : (plainHooks limit).Recoverable :=
  ⟨fun _ => raises_pure _, fun _ _ => raises_pure _, fun _ _ => raises_pure _⟩

end Http1

namespace Http2

variable {σ : Type}

/-- A protocol on top of HTTP/2 whose hooks raise only recoverable issues. -/
structure Extension.Recoverable (x : Extension σ) : Prop where
  rawChunk : ∀ c, Raises Issue.Recoverable (x.rawChunk c)
  request : ∀ c r, Raises Issue.Recoverable (x.request c r)
  response : ∀ c r, Raises Issue.Recoverable (x.response c r)
  headers : ∀ d f hs, Raises Issue.Recoverable (x.headers d f hs)
  frame : ∀ d f, Raises Issue.Recoverable (x.frame d f)

theorem Extension.plain_recoverable : Extension.plain.Recoverable :=
  ⟨fun _ => raises_pure _, fun _ _ => raises_pure _, fun _ _ => raises_pure _,
    fun _ _ _ => raises_pure _, fun _ _ => raises_pure _⟩

namespace Session

variable {x : Extension σ}

theorem raises_lift {α : Type} {p : Issue → Prop} {m : Dissecting σ α} (h : Raises p m) :
    Raises p (lift m) := h.within _ _

theorem raises_decodeBlock (d : Direction) (block : Bytes) :
    Raises Issue.Recoverable (decodeBlock (σ := σ) d block) := by
  unfold decodeBlock
  refine raises_get.bind fun s => (raises_set _).bind fun _ => ?_
  split
  · exact raises_pure _
  · exact raises_throw rfl

theorem raises_renderHeaders (hx : x.Recoverable) (d : Direction) (f : Frame) :
    Raises Issue.Recoverable (renderHeaders x d f) := by
  unfold renderHeaders
  refine raises_get.bind fun s => ?_
  dsimp only
  split
  · exact (raises_set _).bind fun _ => raises_throw rfl
  · exact (raises_decodeBlock d _).bind fun _ =>
      (raises_lift (hx.headers _ _ _)).bind fun _ => raises_pure _

theorem raises_renderFrame (hx : x.Recoverable) (d : Direction) (f : Frame) :
    Raises Issue.Recoverable (renderFrame x d f) := by
  unfold renderFrame
  refine (raises_lift (hx.frame d f)).bind fun o => ?_
  split
  · exact raises_pure _
  · split
    · exact raises_renderHeaders hx d f
    · exact raises_renderHeaders hx d f
    · exact raises_renderHeaders hx d f
    · exact raises_pure _
    · exact raises_pure _
    · exact raises_pure _

theorem raises_applyRender (hx : x.Recoverable) (d : Direction) (f : Frame) :
    Raises Issue.Recoverable (do
      applySettings d f
      let content ← renderFrame x d f
      pure (⟨d, content ++ [10]⟩ : Chunk)) :=
  (raises_modify _).bind fun _ => (raises_renderFrame hx d f).bind fun _ => raises_pure _

theorem raises_frameChunk (hx : x.Recoverable) (d : Direction) (h : FrameHeader) (payload : Bytes) :
    Raises (fun _ => False) (frameChunk x d h payload) := by
  unfold frameChunk
  refine Raises.recovering_of_recoverable ?_ _
  dsimp only
  split
  · exact (raises_pure _).bind (raises_applyRender hx d)
  · exact (raises_throw (by rfl)).bind (raises_applyRender hx d)

theorem raises_drain (hx : x.Recoverable) (d : Direction) {p : Issue → Prop} :
    ∀ fuel acc, Raises p (drain x d fuel acc)
  | 0, _ => raises_pure _
  | fuel + 1, acc => by
    rw [drain]
    refine raises_get.bind fun s => ?_
    dsimp only
    split
    · refine (raises_set _).bind fun _ => ?_
      split
      · exact raises_pure _
      · exact raises_pure _
      · exact ((raises_frameChunk hx d _ _).mono fun _ h => h.elim).bind fun c =>
          raises_drain hx d fuel _
    · exact raises_pure _

theorem raises_feed (hx : x.Recoverable) (d : Direction) (data : Bytes) {p : Issue → Prop} :
    Raises p (feed x d data) := by
  unfold feed
  refine raises_get.bind fun s => ?_
  split
  · exact raises_pure _
  · exact (raises_set _).bind fun _ => raises_drain hx d _ _

theorem raises_upgradeSettings (hx : x.Recoverable) (encoded : String) :
    Raises Issue.Recoverable (upgradeSettings x encoded) := by
  unfold upgradeSettings
  dsimp only
  split
  all_goals
    refine Raises.bind ?_ fun payload => ?_
    · first
      | exact raises_pure _
      | exact raises_throw (by rfl)
    · split
      · exact (raises_pure _).bind (raises_applyRender hx .client)
      · exact (raises_throw (by rfl)).bind (raises_applyRender hx .client)

end Session

open Session in
theorem Extension.Recoverable.hooks {x : Extension σ} (hx : x.Recoverable) :
    x.hooks.Recoverable := by
  refine ⟨fun c => ?_, fun c r => ?_, fun c r => ?_⟩
  · dsimp only [Extension.hooks]
    refine (raises_lift (hx.rawChunk c)).bind fun o => ?_
    split
    · exact raises_pure _
    · refine raises_get.bind fun s => ?_
      split
      · exact (raises_feed hx _ _).bind fun _ => raises_pure _
      · split
        · exact (raises_modify _).bind fun _ => (raises_modify _).bind fun _ =>
            (raises_feed hx _ _).bind fun _ => raises_pure _
        · exact raises_pure _
  · dsimp only [Extension.hooks]
    refine (raises_lift (hx.request c r)).bind fun o => ?_
    split
    · exact raises_pure _
    · split
      · refine (raises_modify _).bind fun _ => ?_
        split
        · exact (raises_upgradeSettings hx _).bind fun _ => raises_pure _
        · exact raises_pure _
      · exact raises_pure _
  · dsimp only [Extension.hooks]
    refine (raises_lift (hx.response c r)).bind fun o => ?_
    split
    · exact raises_pure _
    · split
      · have hrest : Raises Issue.Recoverable (do
            modify fun s : Session σ => { s with active := true }
            let out ← feed x c.direction r.body
            pure (⟨c.direction, r.head ++ Http1.blankLine⟩ :: out)) :=
          (raises_modify _).bind fun _ => (raises_feed hx _ _).bind fun _ => raises_pure _
        refine raises_get.bind fun s => ?_
        split
        · exact (raises_throw (by rfl)).bind fun _ => hrest
        · exact hrest
      · exact raises_get.bind fun _ => raises_pure _

theorem Extension.Recoverable.dissect_ok {x : Extension σ} (hx : x.Recoverable) (start : σ)
    (maxFrameSize maxInflated : Nat) (chunks : List Chunk) :
    ∃ out, x.dissect start maxFrameSize maxInflated chunks = .ok out :=
  ((x.hooks.raises_dissect_of_recoverable hx.hooks _).exists_evaluate_ok _)

theorem Extension.dissect_error_fatal (x : Extension σ) (start : σ)
    (maxFrameSize maxInflated : Nat) (chunks : List Chunk) {e : Issue}
    (he : x.dissect start maxFrameSize maxInflated chunks = .error e) : e.isFatal = true :=
  (x.hooks.raises_dissect _).evaluate _ he

end Http2

namespace Grpc

open Dissecting

theorem extension_recoverable : extension.Recoverable := by
  refine ⟨fun _ => raises_pure _, fun _ _ => raises_pure _, fun _ _ => raises_pure _,
    fun d f hs => ?_, fun d f => ?_⟩
  · dsimp only [extension]
    split
    · exact raises_pure _
    · exact raises_get.bind fun _ => raises_set _
  · dsimp only [extension]
    split
    · refine raises_get.bind fun s => ?_
      split
      · exact raises_pure _
      · split <;> exact raises_pure _
    · exact raises_pure _

end Grpc

/-- Every conversation is answered, whatever its chunks and the configuration; only the WebSocket
dissector may instead fail, and then with a fatal issue. -/
theorem Dissector.transform_ok_or_fatal (d : Dissector) (config : Config) (chunks : List Chunk) :
    (∃ out, d.transform config chunks = .ok out) ∨
      (d = .webSocket ∧ ∃ e, d.transform config chunks = .error e ∧ e.isFatal = true) := by
  cases d with
  | http =>
    exact .inl (((Http1.plainHooks _).raises_dissect_of_recoverable
      (Http1.plainHooks_recoverable _) chunks).exists_evaluate_ok ())
  | http2 => exact .inl (Http2.Extension.plain_recoverable.dissect_ok _ _ _ _)
  | grpc => exact .inl (Grpc.extension_recoverable.dissect_ok _ _ _ _)
  | webSocket =>
    rcases hr : Dissector.transform .webSocket config chunks with e | out
    · exact .inr ⟨rfl, e, rfl, WebSocket.extension.dissect_error_fatal _ _ _ _ hr⟩
    · exact .inl ⟨out, rfl⟩

end Dissect
