import Mathlib
import Dissect.Proofs.Dissection.Containment

/-!
# Steps compared from related states

A step `Agree`s along a relation on states when from related states it gives the same result and
related states; it `Keep`s a relation when the state after it still relates to what the one
before it did. Both are proved once for each way of building a step.
-/

set_option autoImplicit false

namespace Dissect.Dissecting

variable {σ τ α β : Type} {R : σ → σ → Prop}

/-- The result of a step from a state, and the state after it. -/
def exec (m : Dissecting σ α) (s : σ) : Except Issue α × σ := Id.run (m.run.run s)

@[simp] theorem exec_pure (a : α) (s : σ) : exec (pure a : Dissecting σ α) s = (.ok a, s) := rfl

@[simp] theorem exec_throw (e : Issue) (s : σ) :
    exec (throw e : Dissecting σ α) s = (.error e, s) := rfl

@[simp] theorem exec_get (s : σ) : exec (get : Dissecting σ σ) s = (.ok s, s) := rfl

@[simp] theorem exec_set (u s : σ) : exec (set u : Dissecting σ PUnit) s = (.ok ⟨⟩, u) := rfl

@[simp] theorem exec_modify (f : σ → σ) (s : σ) :
    exec (modify f : Dissecting σ PUnit) s = (.ok ⟨⟩, f s) := rfl

theorem exec_bind (m : Dissecting σ α) (f : α → Dissecting σ β) (s : σ) :
    exec (m >>= f) s =
      match exec m s with
      | (.ok a, s') => exec (f a) s'
      | (.error e, s') => (.error e, s') :=
  run_run_bind m f s

theorem exec_bind_of_ok {m : Dissecting σ α} {f : α → Dissecting σ β} {s s' : σ} {a : α}
    (h : exec m s = (.ok a, s')) : exec (m >>= f) s = exec (f a) s' := by
  rw [exec_bind, h]

theorem exec_tryCatch (m : Dissecting σ α) (h : Issue → Dissecting σ α) (s : σ) :
    exec (tryCatch m h) s =
      match exec m s with
      | (.ok a, s') => (.ok a, s')
      | (.error e, s') => exec (h e) s' :=
  run_run_tryCatch m h s

theorem exec_within (m : Dissecting σ α) (get : τ → σ) (put : τ → σ → τ) (t : τ) :
    exec (m.within get put) t = ((exec m (get t)).1, put t (exec m (get t)).2) := rfl

@[simp] theorem exec_map (f : α → β) (m : Dissecting σ α) (s : σ) :
    exec (f <$> m) s = ((exec m s).1.map f, (exec m s).2) := by
  rw [← bind_pure_comp, exec_bind]
  rcases exec m s with ⟨r, s'⟩
  cases r <;> rfl

theorem evaluate_eq_exec (m : Dissecting σ α) (s : σ) : m.evaluate s = (exec m s).1 := rfl

theorem Raises.exec_ok {m : Dissecting σ α} (h : Raises (fun _ => False) m) (s : σ) :
    ∃ a, (exec m s).1 = .ok a := by
  rcases hr : (exec m s).1 with e | a
  · exact (h s e hr).elim
  · exact ⟨a, rfl⟩

theorem Raises.exec_eq_ok {m : Dissecting σ α} (h : Raises (fun _ => False) m) (s : σ) :
    ∃ a s', exec m s = (.ok a, s') := by
  obtain ⟨a, ha⟩ := h.exec_ok s
  exact ⟨a, (exec m s).2, Prod.ext ha rfl⟩

theorem exec_mapM_cons_of_ok {g : α → Dissecting σ β} {a : α} {l : List α} {s s' : σ} {b : β}
    (h : exec (g a) s = (.ok b, s')) :
    exec ((a :: l).mapM g) s = ((exec (l.mapM g) s').1.map (b :: ·), (exec (l.mapM g) s').2) := by
  rw [List.mapM_cons, exec_bind, h]
  dsimp only
  rw [exec_bind]
  rcases exec (l.mapM g) s' with ⟨r, s''⟩
  cases r <;> rfl

theorem exec_mapM_append_of_ok {g : α → Dissecting σ β} :
    ∀ {l₁ : List α} (l₂ : List α) {s u : σ} {bs : List β}, exec (l₁.mapM g) s = (.ok bs, u) →
      exec ((l₁ ++ l₂).mapM g) s = ((exec (l₂.mapM g) u).1.map (bs ++ ·), (exec (l₂.mapM g) u).2)
  | [], l₂, s, u, bs, h => by
    simp only [List.mapM_nil, exec_pure, Prod.mk.injEq, Except.ok.injEq] at h
    obtain ⟨rfl, rfl⟩ := h
    rw [List.nil_append]
    rcases exec (l₂.mapM g) s with ⟨r, s'⟩
    cases r <;> rfl
  | a :: l₁, l₂, s, u, bs, h => by
    rcases ha : exec (g a) s with ⟨r, s'⟩
    cases r with
    | error e =>
      rw [List.mapM_cons, exec_bind, ha] at h
      cases h
    | ok b =>
      rw [exec_mapM_cons_of_ok ha] at h
      rcases hl : exec (l₁.mapM g) s' with ⟨r', u'⟩
      rw [hl] at h
      cases r' with
      | error e => cases h
      | ok bs' =>
        simp only [Except.map, Prod.mk.injEq, Except.ok.injEq] at h
        obtain ⟨rfl, rfl⟩ := h
        rw [List.cons_append, exec_mapM_cons_of_ok ha, exec_mapM_append_of_ok l₂ hl]
        generalize (exec (l₂.mapM g) u').1 = r
        cases r <;> rfl

/-! ## Agreement from related states -/

def AgreeAt (R : σ → σ → Prop) (m₁ m₂ : Dissecting σ α) (s t : σ) : Prop :=
  (exec m₁ s).1 = (exec m₂ t).1 ∧ R (exec m₁ s).2 (exec m₂ t).2

def Agree (R : σ → σ → Prop) (m : Dissecting σ α) : Prop :=
  ∀ s t, R s t → AgreeAt R m m s t

theorem agreeAt_pure {s t : σ} (a : α) (h : R s t) : AgreeAt R (pure a) (pure a) s t :=
  ⟨rfl, h⟩

theorem agreeAt_throw {s t : σ} (e : Issue) (h : R s t) :
    AgreeAt R (throw e : Dissecting σ α) (throw e) s t :=
  ⟨rfl, h⟩

theorem agreeAt_set {s t u₁ u₂ : σ} (h : R u₁ u₂) :
    AgreeAt R (set u₁ : Dissecting σ PUnit) (set u₂) s t :=
  ⟨rfl, h⟩

theorem agreeAt_modify {s t : σ} {f₁ f₂ : σ → σ} (h : R (f₁ s) (f₂ t)) :
    AgreeAt R (modify f₁ : Dissecting σ PUnit) (modify f₂) s t :=
  ⟨rfl, h⟩

theorem agreeAt_get_bind {s t : σ} {f₁ f₂ : σ → Dissecting σ α}
    (h : AgreeAt R (f₁ s) (f₂ t) s t) : AgreeAt R (get >>= f₁) (get >>= f₂) s t :=
  h

theorem AgreeAt.bind {s t : σ} {m₁ m₂ : Dissecting σ α} {f₁ f₂ : α → Dissecting σ β}
    (hm : AgreeAt R m₁ m₂ s t) (hf : ∀ a s' t', R s' t' → AgreeAt R (f₁ a) (f₂ a) s' t') :
    AgreeAt R (m₁ >>= f₁) (m₂ >>= f₂) s t := by
  obtain ⟨hres, hrel⟩ := hm
  unfold AgreeAt
  rw [exec_bind, exec_bind]
  rcases h₁ : exec m₁ s with ⟨r, s'⟩
  rcases h₂ : exec m₂ t with ⟨r', t'⟩
  rw [h₁, h₂] at hres hrel
  dsimp only at hres hrel
  subst hres
  cases r with
  | error e => exact ⟨rfl, hrel⟩
  | ok a => exact hf a s' t' hrel

theorem AgreeAt.tryCatch {s t : σ} {m₁ m₂ : Dissecting σ α} {h₁ h₂ : Issue → Dissecting σ α}
    (hm : AgreeAt R m₁ m₂ s t) (hh : ∀ e s' t', R s' t' → AgreeAt R (h₁ e) (h₂ e) s' t') :
    AgreeAt R (tryCatch m₁ h₁) (tryCatch m₂ h₂) s t := by
  obtain ⟨hres, hrel⟩ := hm
  unfold AgreeAt
  rw [exec_tryCatch, exec_tryCatch]
  rcases e₁ : exec m₁ s with ⟨r, s'⟩
  rcases e₂ : exec m₂ t with ⟨r', t'⟩
  rw [e₁, e₂] at hres hrel
  dsimp only at hres hrel
  subst hres
  cases r with
  | ok a => exact ⟨rfl, hrel⟩
  | error e => exact hh e s' t' hrel

theorem AgreeAt.recovering {s t : σ} {m₁ m₂ : Dissecting σ α} (hm : AgreeAt R m₁ m₂ s t)
    (r : Issue → α) : AgreeAt R (m₁.recovering r) (m₂.recovering r) s t :=
  hm.tryCatch fun e _ _ h => by
    by_cases hf : e.isFatal = true
    · simp only [hf, if_true]
      exact agreeAt_throw e h
    · simp only [hf]
      exact agreeAt_pure _ h

theorem Agree.within {R' : τ → τ → Prop} {m : Dissecting σ α} (hm : Agree R m) {get : τ → σ}
    {put : τ → σ → τ} {s t : τ} (hget : R (get s) (get t))
    (hput : ∀ e₁ e₂, R e₁ e₂ → R' (put s e₁) (put t e₂)) :
    AgreeAt R' (m.within get put) (m.within get put) s t := by
  obtain ⟨hres, hrel⟩ := hm _ _ hget
  exact ⟨hres, hput _ _ hrel⟩

theorem agree_mapM {f : α → Dissecting σ β} (hf : ∀ a, Agree R (f a)) :
    ∀ l : List α, Agree R (l.mapM f)
  | [], _, _, h => agreeAt_pure [] h
  | a :: l, s, t, h => by
    rw [List.mapM_cons]
    exact (hf a s t h).bind fun b s' t' h' =>
      (agree_mapM hf l s' t' h').bind fun bs _ _ h'' => agreeAt_pure _ h''

/-! ## Steps invisible to a relation -/

def KeepAt (R : σ → σ → Prop) (m : Dissecting σ α) (s t : σ) : Prop :=
  R (exec m s).2 t

def Keep (R : σ → σ → Prop) (m : Dissecting σ α) : Prop :=
  ∀ s t, R s t → KeepAt R m s t

theorem keepAt_pure {s t : σ} (a : α) (h : R s t) : KeepAt R (pure a) s t := h

theorem keepAt_throw {s t : σ} (e : Issue) (h : R s t) : KeepAt R (throw e : Dissecting σ α) s t :=
  h

theorem keepAt_set {s t u : σ} (h : R u t) : KeepAt R (set u : Dissecting σ PUnit) s t := h

theorem keepAt_modify {s t : σ} {f : σ → σ} (h : R (f s) t) :
    KeepAt R (modify f : Dissecting σ PUnit) s t := h

theorem keepAt_get_bind {s t : σ} {f : σ → Dissecting σ α} (h : KeepAt R (f s) s t) :
    KeepAt R (get >>= f) s t := h

theorem KeepAt.bind {s t : σ} {m : Dissecting σ α} {f : α → Dissecting σ β}
    (hm : KeepAt R m s t) (hf : ∀ a s', R s' t → KeepAt R (f a) s' t) :
    KeepAt R (m >>= f) s t := by
  unfold KeepAt at hm ⊢
  rw [exec_bind]
  rcases h : exec m s with ⟨r, s'⟩
  rw [h] at hm
  cases r with
  | error e => exact hm
  | ok a => exact hf a s' hm

theorem KeepAt.tryCatch {s t : σ} {m : Dissecting σ α} {h : Issue → Dissecting σ α}
    (hm : KeepAt R m s t) (hh : ∀ e s', R s' t → KeepAt R (h e) s' t) :
    KeepAt R (tryCatch m h) s t := by
  unfold KeepAt at hm ⊢
  rw [exec_tryCatch]
  rcases e₁ : exec m s with ⟨r, s'⟩
  rw [e₁] at hm
  cases r with
  | ok a => exact hm
  | error e => exact hh e s' hm

theorem keep_recover (r : Issue → α) (e : Issue) :
    Keep R (if e.isFatal then throw e else pure (r e) : Dissecting σ α) := by
  intro u t h
  by_cases hf : e.isFatal = true
  · simp only [hf, if_true]
    exact keepAt_throw e h
  · simp only [hf]
    exact keepAt_pure _ h

theorem KeepAt.recovering {s t : σ} {m : Dissecting σ α} (hm : KeepAt R m s t)
    (r : Issue → α) : KeepAt R (m.recovering r) s t :=
  hm.tryCatch fun e _ h => keep_recover r e _ _ h

theorem Keep.within {R' : τ → τ → Prop} {S : σ → σ → Prop} {m : Dissecting σ α}
    (hm : Keep S m) {get : τ → σ} {put : τ → σ → τ} {s t : τ} {u : σ} (hget : S (get s) u)
    (hput : ∀ e, S e u → R' (put s e) t) :
    KeepAt R' (m.within get put) s t :=
  hput _ (hm _ _ hget)

theorem keep_mapM {f : α → Dissecting σ β} (hf : ∀ a, Keep R (f a)) :
    ∀ l : List α, Keep R (l.mapM f)
  | [], _, _, h => keepAt_pure [] h
  | a :: l, s, t, h => by
    rw [List.mapM_cons]
    exact (hf a s t h).bind fun b s' h' =>
      (keep_mapM hf l s' t h').bind fun bs _ h'' => keepAt_pure _ h''

/-! ## What a step gives -/

def Gives (P : α → Prop) (m : Dissecting σ α) : Prop :=
  ∀ s a, (exec m s).1 = .ok a → P a

theorem gives_pure {P : α → Prop} {a : α} (h : P a) : Gives (σ := σ) P (pure a) := by
  intro s b hb
  cases hb
  exact h

theorem gives_true (m : Dissecting σ α) : Gives (fun _ => True) m := fun _ _ _ => trivial

theorem Gives.bind {Q : α → Prop} {P : β → Prop} {m : Dissecting σ α} {f : α → Dissecting σ β}
    (hm : Gives Q m) (hf : ∀ a, Q a → Gives P (f a)) : Gives P (m >>= f) := by
  intro s b hb
  rw [exec_bind] at hb
  rcases h : exec m s with ⟨r, s'⟩
  rw [h] at hb
  cases r with
  | error e => cases hb
  | ok a => exact hf a (hm s a (by rw [h])) s' b hb

theorem Gives.recovering {P : α → Prop} {m : Dissecting σ α} (hm : Gives P m) {r : Issue → α}
    (hr : ∀ e, P (r e)) : Gives P (m.recovering r) := by
  intro s a ha
  rw [Dissecting.recovering, exec_tryCatch] at ha
  rcases h : exec m s with ⟨x, s'⟩
  rw [h] at ha
  cases x with
  | ok b =>
    cases ha
    exact hm s a (by rw [h])
  | error e =>
    by_cases hf : e.isFatal = true
    · simp only [hf, if_true, exec_throw] at ha
      cases ha
    · simp only [hf] at ha
      cases ha
      exact hr e

end Dissect.Dissecting
