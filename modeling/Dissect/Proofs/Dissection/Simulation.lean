import Mathlib
import Dissect.Proofs.Dissection.Relational

/-!
# One step following another

`SimAt R ok m₁ m₂`: from states related by `R`, `m₁` gives what `m₂` gives and ends in related
states, along runs of `m₂` whose states stay `ok`, a property no step gains once lost.
-/

set_option autoImplicit false

namespace Dissect.Dissecting

variable {σ τ α β : Type} {R : σ → τ → Prop} {ok : τ → Prop}

def SimAt (R : σ → τ → Prop) (ok : τ → Prop) (m₁ : Dissecting σ α) (m₂ : Dissecting τ α)
    (s : σ) (t : τ) : Prop :=
  ok (exec m₂ t).2 → (exec m₁ s).1 = (exec m₂ t).1 ∧ R (exec m₁ s).2 (exec m₂ t).2

def Sim (R : σ → τ → Prop) (ok : τ → Prop) (m₁ : Dissecting σ α) (m₂ : Dissecting τ α) : Prop :=
  ∀ s t, R s t → SimAt R ok m₁ m₂ s t

def NeverGains (ok : τ → Prop) (u t : τ) : Prop := ok u → ok t

theorem Keep.ok_of_ok {m : Dissecting τ α} (h : Keep (NeverGains ok) m) {t : τ}
    (hok : ok (exec m t).2) : ok t :=
  h t t id hok

theorem keep_neverGains_true (m : Dissecting τ α) : Keep (NeverGains fun _ => True) m :=
  fun _ _ _ _ => trivial

theorem keep_pure {P : τ → τ → Prop} (a : α) : Keep P (pure a : Dissecting τ α) :=
  fun _ _ h => h

theorem keep_throw {P : τ → τ → Prop} (e : Issue) : Keep P (throw e : Dissecting τ α) :=
  fun _ _ h => h

theorem Keep.bind {P : τ → τ → Prop} {m : Dissecting τ β} {f : β → Dissecting τ α} (hm : Keep P m)
    (hf : ∀ b, Keep P (f b)) : Keep P (m >>= f) := fun u t hu =>
  (hm u t hu).bind fun b u' h' => hf b u' t h'

variable {s : σ} {t : τ}

theorem simAt_pure (a : α) (h : R s t) : SimAt R ok (pure a) (pure a) s t :=
  fun _ => ⟨rfl, h⟩

theorem simAt_throw (e : Issue) (h : R s t) :
    SimAt R ok (throw e : Dissecting σ α) (throw e) s t :=
  fun _ => ⟨rfl, h⟩

theorem simAt_set {u₁ : σ} {u₂ : τ} (h : R u₁ u₂) :
    SimAt R ok (set u₁ : Dissecting σ PUnit) (set u₂) s t :=
  fun _ => ⟨rfl, h⟩

theorem simAt_modify {f₁ : σ → σ} {f₂ : τ → τ} (h : R (f₁ s) (f₂ t)) :
    SimAt R ok (modify f₁ : Dissecting σ PUnit) (modify f₂) s t :=
  fun _ => ⟨rfl, h⟩

theorem simAt_of_exec {m₁ : Dissecting σ α} {m₂ : Dissecting τ α} {r : Except Issue α} {s' : σ}
    {t' : τ} (h₁ : exec m₁ s = (r, s')) (h₂ : exec m₂ t = (r, t')) (h : R s' t') :
    SimAt R ok m₁ m₂ s t := by
  intro _
  rw [h₁, h₂]
  exact ⟨rfl, h⟩

theorem simAt_get_bind {f₁ : σ → Dissecting σ α} {f₂ : τ → Dissecting τ α}
    (h : SimAt R ok (f₁ s) (f₂ t) s t) : SimAt R ok (get >>= f₁) (get >>= f₂) s t :=
  h

theorem simAt_pure_bind {a : β} {f₁ : β → Dissecting σ α} {f₂ : β → Dissecting τ α}
    (h : SimAt R ok (f₁ a) (f₂ a) s t) : SimAt R ok (pure a >>= f₁) (pure a >>= f₂) s t := by
  simpa only [pure_bind] using h

theorem simAt_throw_bind {e : Issue} {f₁ : β → Dissecting σ α} {f₂ : β → Dissecting τ α}
    (h : R s t) : SimAt R ok (throw e >>= f₁) (throw e >>= f₂) s t :=
  fun _ => ⟨rfl, h⟩

theorem keepAt_throw_bind {P : τ → τ → Prop} {e : Issue} {f : β → Dissecting τ α} {u t : τ}
    (h : P u t) : KeepAt P (throw e >>= f) u t :=
  h

theorem SimAt.exec_eq {m₁ : Dissecting σ β} {m₂ : Dissecting τ β} (hm : SimAt R ok m₁ m₂ s t)
    {r : Except Issue β} {t' : τ} (h₂ : exec m₂ t = (r, t')) (hok : ok t') :
    ∃ s', exec m₁ s = (r, s') ∧ R s' t' := by
  obtain ⟨hres, hrel⟩ := hm (by rw [h₂]; exact hok)
  rw [h₂] at hres hrel
  exact ⟨(exec m₁ s).2, Prod.ext hres rfl, hrel⟩

theorem SimAt.bind_exec {m₁ : Dissecting σ β} {m₂ : Dissecting τ β} {f₁ : β → Dissecting σ α}
    {f₂ : β → Dissecting τ α} (hm : SimAt R ok m₁ m₂ s t)
    (hf : ∀ b s' t', R s' t' → exec m₂ t = (.ok b, t') → SimAt R ok (f₁ b) (f₂ b) s' t')
    (hk : ∀ b, Keep (NeverGains ok) (f₂ b)) : SimAt R ok (m₁ >>= f₁) (m₂ >>= f₂) s t := by
  intro hok
  rw [exec_bind] at hok
  rw [exec_bind, exec_bind]
  rcases h₂ : exec m₂ t with ⟨r, t'⟩
  rw [h₂] at hok
  cases r with
  | error e =>
    obtain ⟨s', h₁, hrel⟩ := hm.exec_eq h₂ hok
    rw [h₁]
    exact ⟨rfl, hrel⟩
  | ok b =>
    -- `ok` after the second half vouches for `ok` between the halves
    obtain ⟨s', h₁, hrel⟩ := hm.exec_eq h₂ ((hk b).ok_of_ok hok)
    rw [h₁]
    exact hf b s' t' hrel h₂ hok

theorem SimAt.bind {m₁ : Dissecting σ β} {m₂ : Dissecting τ β} {f₁ : β → Dissecting σ α}
    {f₂ : β → Dissecting τ α} (hm : SimAt R ok m₁ m₂ s t)
    (hf : ∀ b s' t', R s' t' → SimAt R ok (f₁ b) (f₂ b) s' t')
    (hk : ∀ b, Keep (NeverGains ok) (f₂ b)) : SimAt R ok (m₁ >>= f₁) (m₂ >>= f₂) s t :=
  hm.bind_exec (fun b s' t' h _ => hf b s' t' h) hk

theorem SimAt.tryCatch {m₁ : Dissecting σ α} {m₂ : Dissecting τ α} {h₁ : Issue → Dissecting σ α}
    {h₂ : Issue → Dissecting τ α} (hm : SimAt R ok m₁ m₂ s t)
    (hh : ∀ e s' t', R s' t' → SimAt R ok (h₁ e) (h₂ e) s' t')
    (hk : ∀ e, Keep (NeverGains ok) (h₂ e)) : SimAt R ok (tryCatch m₁ h₁) (tryCatch m₂ h₂) s t := by
  intro hok
  rw [exec_tryCatch] at hok
  rw [exec_tryCatch, exec_tryCatch]
  rcases e₂ : exec m₂ t with ⟨r, t'⟩
  rw [e₂] at hok
  cases r with
  | ok a =>
    obtain ⟨s', e₁, hrel⟩ := hm.exec_eq e₂ hok
    rw [e₁]
    exact ⟨rfl, hrel⟩
  | error e =>
    -- `ok` after the handler vouches for `ok` where the issue was raised
    obtain ⟨s', e₁, hrel⟩ := hm.exec_eq e₂ ((hk e).ok_of_ok hok)
    rw [e₁]
    exact hh e s' t' hrel hok

theorem SimAt.recovering {m₁ : Dissecting σ α} {m₂ : Dissecting τ α} (hm : SimAt R ok m₁ m₂ s t)
    (r : Issue → α) : SimAt R ok (m₁.recovering r) (m₂.recovering r) s t := by
  refine hm.tryCatch (fun e s' t' h => ?_) (keep_recover r)
  by_cases hf : e.isFatal = true
  · simp only [hf, if_true]
    exact simAt_throw e h
  · simp only [hf]
    exact simAt_pure _ h

theorem Sim.within {σ' τ' : Type} {R' : σ' → τ' → Prop} {ok' : τ' → Prop}
    {m₁ : Dissecting σ' α} {m₂ : Dissecting τ' α} (hm : Sim R' ok' m₁ m₂)
    {get₁ : σ → σ'} {put₁ : σ → σ' → σ} {get₂ : τ → τ'} {put₂ : τ → τ' → τ}
    (hget : R' (get₁ s) (get₂ t)) (hput : ∀ e₁ e₂, R' e₁ e₂ → R (put₁ s e₁) (put₂ t e₂))
    (hok : ∀ e, ok (put₂ t e) → ok' e) :
    SimAt R ok (m₁.within get₁ put₁) (m₂.within get₂ put₂) s t := by
  intro h
  rw [exec_within] at h ⊢
  rw [exec_within]
  obtain ⟨hres, hrel⟩ := hm _ _ hget (hok _ h)
  exact ⟨hres, hput _ _ hrel⟩

theorem sim_mapM {f : β → Dissecting σ α} {g : β → Dissecting τ α}
    (hk : ∀ b, Keep (NeverGains ok) (g b)) :
    ∀ l : List β, (∀ b ∈ l, Sim R ok (f b) (g b)) → Sim R ok (l.mapM f) (l.mapM g)
  | [], _, _, _, h => simAt_pure [] h
  | b :: l, hf, s, t, h => by
    rw [List.mapM_cons, List.mapM_cons]
    have htail := sim_mapM hk l fun b' hb' => hf b' (List.mem_cons_of_mem b hb')
    refine (hf b List.mem_cons_self s t h).bind (fun a s' t' h' => ?_) fun a => ?_
    · exact (htail s' t' h').bind (fun bs _ _ h'' => simAt_pure _ h'') fun _ => fun _ _ h => h
    · exact fun u t' hu => (keep_mapM hk l u t' hu).bind fun _ _ h => keepAt_pure _ h

theorem Sim.evaluate_eq {m₁ : Dissecting σ α} {m₂ : Dissecting τ α} (h : Sim R ok m₁ m₂)
    (hst : R s t) (hok : ok (exec m₂ t).2) : m₁.evaluate s = m₂.evaluate t :=
  (h s t hst hok).1

end Dissect.Dissecting

namespace Dissect.Http1

open Dissecting

variable {σ τ : Type} {R : σ → τ → Prop} {ok : τ → Prop}

/-! ## Hooks that follow each other -/

section Keeping

variable {P : τ → τ → Prop} (h : Hooks τ) (c : Chunk)

theorem Hooks.keep_answer (hraw : Keep P (h.rawChunk c)) (hreq : ∀ r, Keep P (h.request c r))
    (hresp : ∀ r, Keep P (h.response c r)) : Keep P (h.answer c) := by
  intro u t hu
  unfold Hooks.answer
  refine (hraw u t hu).bind fun o u' h' => ?_
  split
  · exact keepAt_pure _ h'
  · split
    · split
      · exact hreq _ u' t h'
      · exact keepAt_throw _ h'
    · split
      · exact hresp _ u' t h'
      · exact keepAt_throw _ h'

theorem Hooks.keep_chunk (hraw : Keep P (h.rawChunk c)) (hreq : ∀ r, Keep P (h.request c r))
    (hresp : ∀ r, Keep P (h.response c r)) : Keep P (h.chunk c) := fun u t hu =>
  (h.keep_answer c hraw hreq hresp u t hu).recovering _

end Keeping

/-! ## Reachable states -/

/-- The states a dissection reaches from `start`, one chunk after another, also when a chunk
fails. -/
inductive Hooks.Reachable (h : Hooks τ) (start : τ) : τ → Prop
  | start : h.Reachable start start
  | chunk {u : τ} (c : Chunk) : h.Reachable start u → h.Reachable start (exec (h.chunk c) u).2

theorem Hooks.Reachable.invariant {h : Hooks τ} {start u : τ} (hr : h.Reachable start u)
    (I : τ → Prop) (h0 : I start) (hk : ∀ c, Keep (fun v _ => I v) (h.chunk c)) : I u := by
  induction hr with
  | start => exact h0
  | chunk c _ ih => exact hk c _ start ih

theorem Hooks.reachable_dissect (h : Hooks τ) (start : τ) (cs : List Chunk) :
    h.Reachable start (exec (h.dissect cs) start).2 := by
  have hrun : ∀ (cs : List Chunk) (u : τ), h.Reachable start u →
      h.Reachable start (exec (cs.mapM h.chunk) u).2 := by
    intro cs
    induction cs with
    | nil => exact fun u hu => hu
    | cons c cs ih =>
      intro u hu
      rw [List.mapM_cons, exec_bind]
      rcases hc : exec (h.chunk c) u with ⟨r, u'⟩
      have hu' : h.Reachable start u' := by
        have := Hooks.Reachable.chunk c hu
        rwa [hc] at this
      cases r with
      | error e => exact hu'
      | ok out =>
        dsimp only
        rw [exec_bind]
        rcases hrest : exec (cs.mapM h.chunk) u' with ⟨r', u''⟩
        have hu'' := ih u' hu'
        rw [hrest] at hu''
        cases r' <;> exact hu''
  unfold Hooks.dissect
  rw [exec_bind]
  rcases hall : exec (cs.mapM h.chunk) start with ⟨r, u⟩
  have hu := hrun cs start .start
  rw [hall] at hu
  cases r <;> exact hu

variable {h₁ : Hooks σ} {h₂ : Hooks τ} {c : Chunk}

theorem Hooks.sim_answer (hraw : Sim R ok (h₁.rawChunk c) (h₂.rawChunk c))
    (hreq : c.direction = .client → ∀ r, Request.parse c.content = .ok r →
      Sim R ok (h₁.request c r) (h₂.request c r))
    (hresp : c.direction = .server → ∀ r, Response.parse c.content = .ok r →
      Sim R ok (h₁.response c r) (h₂.response c r))
    (hkreq : ∀ r, Keep (NeverGains ok) (h₂.request c r))
    (hkresp : ∀ r, Keep (NeverGains ok) (h₂.response c r)) :
    Sim R ok (h₁.answer c) (h₂.answer c) := by
  intro s t hst
  unfold Hooks.answer
  refine (hraw s t hst).bind (fun o s' t' h' => ?_) fun o => ?_
  · split
    · exact simAt_pure _ h'
    · split
      · rename_i hd
        split
        · exact hreq hd _ ‹_› s' t' h'
        · exact simAt_throw _ h'
      · rename_i hd
        split
        · exact hresp hd _ ‹_› s' t' h'
        · exact simAt_throw _ h'
  · intro u t' hu
    split
    · exact keepAt_pure _ hu
    · split
      · split
        · exact hkreq _ u t' hu
        · exact keepAt_throw _ hu
      · split
        · exact hkresp _ u t' hu
        · exact keepAt_throw _ hu

theorem Hooks.sim_chunk (ha : Sim R ok (h₁.answer c) (h₂.answer c)) :
    Sim R ok (h₁.chunk c) (h₂.chunk c) := fun s t hst =>
  (ha s t hst).recovering _

/-- Dissections follow each other when the hooks answer every chunk alike and the second hooks
never gain `ok`. -/
theorem Hooks.sim_dissect (hk : ∀ c, Keep (NeverGains ok) (h₂.chunk c)) (cs : List Chunk)
    (hc : ∀ c ∈ cs, Sim R ok (h₁.chunk c) (h₂.chunk c)) : Sim R ok (h₁.dissect cs) (h₂.dissect cs) := by
  intro s t hst
  unfold Hooks.dissect
  exact (sim_mapM hk cs hc s t hst).bind (fun outs _ _ h' => simAt_pure _ h') fun _ _ _ h => h

end Dissect.Http1
