import Mathlib
import Dissect.Deflate.Inflate

/-!
# How far a DEFLATE reading moves

Every reading of the decoder keeps the input and never moves back: `Reading.Advances k r` says
that `r`, when it succeeds from a position within its data, moves on by at least `k` bits and
stays within the data. Block headers read at least three bits, coded symbols and runs of stored
bytes at least one (`advances_blockHeader`, `advances_codedStep`, `advances_storedRun`).
-/

set_option autoImplicit false

namespace Dissect.Deflate

open Dissect.Huffman

namespace Bits

theorem bit?_eq_some {b b' : Bits} {x : Bool} (h : b.bit? = some (x, b')) :
    b'.data = b.data ∧ b'.pos = b.pos + 1 ∧ b.pos < b.data.size * 8 := by
  unfold bit? at h
  split_ifs at h with hlt
  cases h
  exact ⟨rfl, rfl, hlt⟩

theorem take?_eq_some {n : Nat} {b b' : Bits} {x : Nat} (h : b.take? n = some (x, b'))
    (hb : b.pos ≤ b.data.size * 8) :
    b'.data = b.data ∧ b'.pos = b.pos + n ∧ b'.pos ≤ b.data.size * 8 ∧ x < 2 ^ n := by
  induction n generalizing b b' x with
  | zero =>
    simp only [take?, Option.some.injEq, Prod.mk.injEq] at h
    obtain ⟨rfl, rfl⟩ := h
    exact ⟨rfl, rfl, hb, by simp⟩
  | succ n ih =>
    simp only [take?, Option.bind_eq_bind, Option.bind_eq_some_iff] at h
    obtain ⟨⟨x₁, b₁⟩, hbit, ⟨y, b₂⟩, htake, hx⟩ := h
    dsimp only at htake hx
    obtain ⟨hd₁, hp₁, hlt⟩ := bit?_eq_some hbit
    obtain ⟨hd₂, hp₂, hle₂, hy⟩ := ih htake (by rw [hd₁]; omega)
    simp only [pure, Option.some.injEq, Prod.mk.injEq] at hx
    obtain ⟨rfl, rfl⟩ := hx
    refine ⟨hd₂.trans hd₁, by omega, by rw [← hd₁]; exact hle₂, ?_⟩
    rw [Nat.pow_succ]
    split <;> omega

end Bits

def Reading.Advances {α : Type} (k : Nat) (r : Reading α) : Prop :=
  ∀ b a b', r b = .ok (a, b') → b.pos ≤ b.data.size * 8 →
    b'.data = b.data ∧ b.pos + k ≤ b'.pos ∧ b'.pos ≤ b.data.size * 8

namespace Reading

variable {α β : Type} {k l : Nat}

theorem advances_pure (a : α) : Advances 0 (pure a : Reading α) := by
  intro b a' b' h hb
  cases h
  exact ⟨rfl, by omega, hb⟩

theorem advances_throw (k : Nat) (e : Halt) : Advances k (throw e : Reading α) := by
  intro b a b' h
  cases h

theorem Advances.mono {r : Reading α} (h : Advances k r) {j : Nat} (hj : j ≤ k) :
    Advances j r := fun b a b' hr hb => by
  obtain ⟨hd, hp, hle⟩ := h b a b' hr hb
  exact ⟨hd, by omega, hle⟩

theorem Advances.bind_add {x : Reading α} {f : α → Reading β} (hx : Advances k x)
    (hf : ∀ a, Advances l (f a)) : Advances (k + l) (x >>= f) := by
  intro b c b' h hb
  change (x >>= f).run b = _ at h
  rw [StateT.run_bind] at h
  cases hx₁ : x.run b with
  | error e => rw [hx₁] at h; cases h
  | ok p =>
    obtain ⟨a, b₁⟩ := p
    rw [hx₁] at h
    obtain ⟨hd₁, hp₁, hle₁⟩ := hx b a b₁ hx₁ hb
    obtain ⟨hd₂, hp₂, hle₂⟩ := hf a b₁ c b' h (by rw [hd₁]; exact hle₁)
    exact ⟨hd₂.trans hd₁, by omega, by rw [← hd₁]; exact hle₂⟩

theorem Advances.bind {x : Reading α} {f : α → Reading β} (hx : Advances k x)
    (hf : ∀ a, Advances 0 (f a)) : Advances k (x >>= f) :=
  hx.bind_add hf

theorem advances_throw_bind {f : α → Reading β} (k : Nat) (e : Halt) :
    Advances k ((throw e : Reading α) >>= f) := by
  intro b c b' h
  cases h

theorem bind_eq_ok {x : Reading α} {f : α → Reading β} {b b' : Bits} {c : β}
    (h : (x >>= f) b = .ok (c, b')) : ∃ a b₁, x b = .ok (a, b₁) ∧ f a b₁ = .ok (c, b') := by
  change (x >>= f).run b = _ at h
  rw [StateT.run_bind] at h
  cases hx : x.run b with
  | error e => rw [hx] at h; cases h
  | ok p =>
    rw [hx] at h
    exact ⟨p.1, p.2, hx, h⟩

theorem bind_of_ok {x : Reading α} {f : α → Reading β} {b b₁ : Bits} {a : α}
    (hx : x b = .ok (a, b₁)) : (x >>= f) b = f a b₁ := by
  change (x >>= f).run b = _
  rw [StateT.run_bind]
  change x b >>= _ = _
  rw [hx]
  rfl

theorem bind_of_error {x : Reading α} {f : α → Reading β} {b : Bits} {e : Halt}
    (hx : x b = .error e) : (x >>= f) b = .error e := by
  change (x >>= f).run b = _
  rw [StateT.run_bind]
  change x b >>= _ = _
  rw [hx]
  rfl

theorem advances_bits (n : Nat) : Advances n (bits n) := by
  intro b x b' h hb
  unfold bits at h
  split at h
  · rename_i r hr
    cases h
    obtain ⟨hd, hp, hle, -⟩ := Bits.take?_eq_some hr hb
    exact ⟨hd, by omega, hle⟩
  · cases h

theorem lt_of_bits {n : Nat} {b b' : Bits} {x : Nat} (h : bits n b = .ok (x, b'))
    (hb : b.pos ≤ b.data.size * 8) : x < 2 ^ n := by
  unfold bits at h
  split at h
  · rename_i r hr
    cases h
    exact (Bits.take?_eq_some hr hb).2.2.2
  · cases h

theorem advances_align : Advances 0 (modify Bits.align) := by
  intro b u b' h hb
  cases h
  refine ⟨rfl, ?_, ?_⟩ <;> simp only [Bits.align] <;> omega

theorem advances_storedRun (left : Nat) : Advances 1 (storedRun left) := by
  intro b bytes b' h hb
  unfold storedRun at h
  simp only at h
  split_ifs at h with hn
  cases h
  refine ⟨rfl, ?_, ?_⟩ <;> simp only <;> omega

theorem advances_symbolOf (c : Code) : ∀ (fuel : Nat) (cur : Cursor),
    Advances 1 (symbolOf c fuel cur)
  | 0, _ => by
    unfold symbolOf
    exact advances_throw 1 _
  | fuel + 1, cur => by
    unfold symbolOf
    refine (advances_bits 1).bind fun bit => ?_
    split
    · exact advances_pure _
    · exact (advances_symbolOf c fuel _).mono (Nat.zero_le 1)
    · exact advances_throw 0 _

theorem advances_symbol (c : Code) : Advances 1 (symbol c) := advances_symbolOf c 15 {}

theorem advances_forIn {γ σ : Type} (f : γ → σ → Reading (ForInStep σ))
    (hf : ∀ x s, Advances 0 (f x s)) : ∀ (l : List γ) (init : σ), Advances 0 (forIn l init f)
  | [], init => by
    rw [List.forIn_nil]
    exact advances_pure init
  | x :: l, init => by
    rw [List.forIn_cons]
    refine (hf x init).bind fun step => ?_
    cases step with
    | done s => exact advances_pure s
    | yield s => exact advances_forIn f hf l s

theorem advances_codeLengths (cl : Code) (total : Nat) :
    ∀ (fuel : Nat) (acc : Array Nat), Advances 0 (codeLengths cl total fuel acc)
  | 0, acc => by
    unfold codeLengths
    exact advances_pure acc
  | fuel + 1, acc => by
    unfold codeLengths
    split
    · exact advances_pure acc
    · refine ((advances_symbol cl).bind fun s => ?_).mono (Nat.zero_le _)
      dsimp only
      -- every way of extending the lengths is followed by the same check and the next round
      have hnext : ∀ acc : Array Nat, Advances 0 (if acc.size > total then
          (throw (Halt.failed Fault.lengthRepeat) : Reading Unit) >>=
            fun _ => codeLengths cl total fuel acc
          else codeLengths cl total fuel acc) := fun acc => by
        split
        · exact (advances_throw 0 _).bind fun _ => advances_codeLengths cl total fuel acc
        · exact advances_codeLengths cl total fuel acc
      split
      · exact (advances_pure _).bind fun a => hnext a
      · split
        · split
          · exact ((advances_bits 2).bind fun r => (advances_pure _).bind fun a => hnext a).mono
              (Nat.zero_le _)
          · exact (advances_throw 0 _).bind fun a => hnext a
        · split
          · exact ((advances_bits 3).bind fun r => (advances_pure _).bind fun a => hnext a).mono
              (Nat.zero_le _)
          · exact ((advances_bits 7).bind fun r => (advances_pure _).bind fun a => hnext a).mono
              (Nat.zero_le _)

theorem advances_dynamicTables : Advances 0 dynamicTables := by
  unfold dynamicTables
  refine ((advances_bits 5).bind fun _ => ?_).mono (Nat.zero_le _)
  refine ((advances_bits 5).bind fun _ => ?_).mono (Nat.zero_le _)
  refine ((advances_bits 4).bind fun _ => ?_).mono (Nat.zero_le _)
  dsimp only
  split
  · exact advances_throw_bind 0 _
  · -- the lengths of the code-length code, then the code lengths themselves
    refine (advances_forIn _ (fun i s => ((advances_bits 3).bind fun l => advances_pure _).mono
      (Nat.zero_le _)) _ _).bind fun _ => ?_
    split
    · refine (advances_codeLengths _ _ _ _).bind fun _ => ?_
      split
      · exact advances_pure _
      · exact advances_throw_bind 0 _
    · exact advances_throw_bind 0 _

theorem advances_blockHeader : Advances 3 blockHeader := by
  unfold blockHeader
  show Advances (1 + 2) _
  refine (advances_bits 1).bind_add fun _ => (advances_bits 2).bind fun _ => ?_
  split
  · -- a stored block: skip to the byte, then the length and its complement
    refine advances_align.bind fun _ => ?_
    refine ((advances_bits 16).bind fun _ => ?_).mono (Nat.zero_le _)
    refine ((advances_bits 16).bind fun _ => ?_).mono (Nat.zero_le _)
    split
    · exact advances_throw_bind 0 _
    · exact advances_pure _
  · exact advances_pure _
  · exact advances_dynamicTables.bind fun _ => advances_pure _
  · exact advances_throw 0 _

theorem advances_codedStep (t : Tables) : Advances 1 (codedStep t) := by
  unfold codedStep
  refine (advances_symbol _).bind fun _ => ?_
  split
  · exact advances_pure _
  · split
    · exact advances_pure _
    · dsimp only
      split
      · refine ((advances_bits _).bind fun _ => ?_).mono (Nat.zero_le _)
        refine ((advances_symbol _).bind fun _ => ?_).mono (Nat.zero_le _)
        split
        · exact ((advances_bits _).bind fun _ => advances_pure _).mono (Nat.zero_le _)
        · exact advances_throw 0 _
      · exact advances_throw 0 _

end Reading

open Reading

theorem distanceBase_add_le : ∀ d : Fin 30,
    distanceBase.getD d 0 + 2 ^ distanceExtra.getD d 0 ≤ 32769 := by
  decide +kernel

theorem codedStep_copy_le {t : Tables} {b b' : Bits} {distance length : Nat}
    (h : codedStep t b = .ok (some (.copy distance length), b'))
    (hb : b.pos ≤ b.data.size * 8) : distance ≤ 32768 := by
  unfold codedStep at h
  obtain ⟨s, b₁, hs, h⟩ := bind_eq_ok h
  have hb₁ := (advances_symbol _ b s b₁ hs hb)
  split_ifs at h with h256 h256'
  · cases h
  · cases h
  dsimp only at h
  split at h
  · obtain ⟨x, b₂, hx, h⟩ := bind_eq_ok h
    have hb₂ := advances_bits _ b₁ x b₂ hx (by rw [hb₁.1]; exact hb₁.2.2)
    obtain ⟨d, b₃, hd, h⟩ := bind_eq_ok h
    have hb₃ := advances_symbol _ b₂ d b₃ hd (by rw [hb₂.1]; exact hb₂.2.2)
    split at h
    · rename_i hlt
      obtain ⟨y, b₄, hy, h⟩ := bind_eq_ok h
      have hy' := lt_of_bits hy (by rw [hb₃.1]; exact hb₃.2.2)
      cases h
      have htable := distanceBase_add_le ⟨d, hlt⟩
      have hbase : distanceBase[d] = distanceBase.getD d 0 := by simp [Array.getD, hlt]
      simp only at htable
      omega
    · cases h
  · cases h

def Phase.weight : Phase → Nat
  | .header => 0
  | _ => 1

def potential (b : Bits) (p : Phase) : Nat := 2 * (b.data.size * 8 - b.pos) + p.weight

theorem Phase.weight_le_one (p : Phase) : p.weight ≤ 1 := by
  cases p <;> simp [Phase.weight]

/-- A step that goes on keeps the data, stays within it and lowers the potential. Steps read at
least a bit, all but the one that leaves a stored block, which reads none but goes from inside a
block to between blocks. -/
theorem step_potential {p p' : Phase} {b b' : Bits} {e : Emit}
    (h : step p b = .ok ((some p', e), b')) (hb : b.pos ≤ b.data.size * 8) :
    b'.data = b.data ∧ b'.pos ≤ b.data.size * 8 ∧ potential b' p' < potential b p := by
  have hgo : Advances 1 (step p) →
      b'.data = b.data ∧ b'.pos ≤ b.data.size * 8 ∧ potential b' p' < potential b p := by
    intro hadv
    obtain ⟨hd, hp, hle⟩ := hadv b _ b' h hb
    have hw := p'.weight_le_one
    refine ⟨hd, hle, ?_⟩
    unfold potential
    rw [hd]
    omega
  cases p with
  | header =>
    exact hgo ((advances_blockHeader.bind fun _ => advances_pure _).mono (by norm_num))
  | stored left final =>
    cases left with
    | zero =>
      cases final <;> simp [step, pure, StateT.pure, Except.pure] at h
      obtain ⟨⟨rfl, -⟩, rfl⟩ := h
      exact ⟨rfl, hb, by simp [potential, Phase.weight]⟩
    | succ left => exact hgo ((advances_storedRun _).bind fun _ => advances_pure _)
  | coded t final =>
    exact hgo ((advances_codedStep t).bind fun r => by split <;> exact advances_pure _)

end Dissect.Deflate
