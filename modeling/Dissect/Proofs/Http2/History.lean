import Mathlib
import Dissect.Proofs.Dissection.Conservative

/-!
# What the HTTP/2 layer has handed the protocol on top

The protocol on top is wrapped so that it also writes down every event the layer hands it
(`Extension.watching`). The wrapped run matches the plain one below the protocol on top, so what
holds of it and its history holds of the run itself.
-/

set_option autoImplicit false

namespace Dissect

open Dissecting

namespace Http1

variable {τ : Type}

def Hooks.after (h : Hooks τ) (u : τ) : List Chunk → τ
  | [] => u
  | c :: cs => h.after (exec (h.chunk c) u).2 cs

theorem Hooks.after_append (h : Hooks τ) (u : τ) (cs : List Chunk) (c : Chunk) :
    h.after u (cs ++ [c]) = (exec (h.chunk c) (h.after u cs)).2 := by
  induction cs generalizing u with
  | nil => rfl
  | cons c' cs ih => exact ih _

theorem Hooks.after_after (h : Hooks τ) (u : τ) (cs more : List Chunk) :
    h.after (h.after u cs) more = h.after u (cs ++ more) := by
  induction cs generalizing u with
  | nil => rfl
  | cons c cs ih => exact ih _

/-- The reachable states are the states that runs end in. -/
theorem Hooks.reachable_iff_after (h : Hooks τ) (start u : τ) :
    h.Reachable start u ↔ ∃ cs, h.after start cs = u := by
  constructor
  · intro hr
    induction hr with
    | start => exact ⟨[], rfl⟩
    | chunk c _ ih =>
      obtain ⟨cs, rfl⟩ := ih
      exact ⟨cs ++ [c], h.after_append start cs c⟩
  · rintro ⟨cs, rfl⟩
    induction cs using List.reverseRecOn with
    | nil => exact .start
    | append_singleton cs c ih =>
      rw [h.after_append]
      exact .chunk c ih

end Http1

namespace Http2

variable {σ τ : Type}

def Session.initial (start : σ) (config : Config) : Session σ :=
  { ext := start, maxFrameSize := config.normalize.maxFrameSize,
    maxInflated := config.normalize.maxInflatedSize }

def onFirst {α : Type} (m : Dissecting σ α) : Dissecting (σ × List Event) α :=
  m.within Prod.fst fun p e => (e, p.2)

def note (e : Event) (p : σ × List Event) : σ × List Event := (p.1, p.2 ++ [e])

/-- The protocol on top, writing down every event the layer hands it before it looks at the
event. -/
def Extension.watching (x : Extension σ) : Extension (σ × List Event) where
  settingName := x.settingName
  rawChunk c := onFirst (x.rawChunk c)
  request c r := do modify (note (.request c r)); onFirst (x.request c r)
  response c r := do modify (note (.response c r)); onFirst (x.response c r)
  headers d f hs := do modify (note (.headers d f hs)); onFirst (x.headers d f hs)
  frame d f := do modify (note (.frame d f)); onFirst (x.frame d f)

theorem exec_onFirst {α : Type} (m : Dissecting σ α) (p : σ × List Event) :
    exec (onFirst m) p = ((exec m p.1).1, ((exec m p.1).2, p.2)) := rfl

theorem exec_note_onFirst {α : Type} (e : Event) (m : Dissecting σ α) (p : σ × List Event) :
    exec (do modify (note e); onFirst m) p = ((exec m p.1).1, ((exec m p.1).2, p.2 ++ [e])) := by
  rw [exec_bind, exec_modify]
  rfl

def Beneath (s : σ) (p : σ × List Event) : Prop := s = p.1

variable {ok : σ × List Event → Prop}

theorem sim_onFirst {α : Type} (m : Dissecting σ α) : Sim Beneath ok m (onFirst m) := by
  rintro s p rfl
  exact fun _ => ⟨rfl, rfl⟩

theorem sim_note_onFirst {α : Type} (e : Event) (m : Dissecting σ α) :
    Sim Beneath ok m (do modify (note e); onFirst m) := by
  rintro s p rfl
  intro _
  rw [exec_note_onFirst]
  exact ⟨rfl, rfl⟩

theorem Extension.follows_watching (x : Extension σ) :
    x.Follows x.watching Beneath fun _ => True where
  keeps := ⟨fun _ => keep_neverGains_true _, fun _ _ => keep_neverGains_true _,
    fun _ _ => keep_neverGains_true _, fun _ _ _ => keep_neverGains_true _,
    fun _ _ => keep_neverGains_true _⟩
  rawChunk _ := sim_onFirst _
  request _ _ := sim_note_onFirst _ _
  response _ _ := sim_note_onFirst _ _
  headers _ _ _ := sim_note_onFirst _ _
  frame _ _ := sim_note_onFirst _ _
  settingName _ _ _ _ _ _ _ _ := rfl

theorem Extension.Follows.matches_after {x : Extension σ} {y : Extension τ}
    {E : σ → τ → Prop} (hxy : x.Follows y E fun _ => True) (cs : List Chunk) {s : Session σ} {t : Session τ}
    (hst : Session.Matches E s t) :
    Session.Matches E (x.hooks.after s cs) (y.hooks.after t cs) := by
  induction cs generalizing s t with
  | nil => exact hst
  | cons c cs ih => exact ih (hxy.sim_chunk c s t hst trivial).2

/-- A run of the wrapped protocol is the run of the protocol, with the history beside it. -/
theorem Extension.matches_after_watching (x : Extension σ) (cs : List Chunk) (start : σ)
    (config : Config) :
    Session.Matches Beneath (x.hooks.after (Session.initial start config) cs)
      (x.watching.hooks.after (Session.initial (start, []) config) cs) :=
  x.follows_watching.matches_after cs ⟨rfl, rfl, rfl, rfl, rfl, rfl, rfl⟩

end Http2

end Dissect
