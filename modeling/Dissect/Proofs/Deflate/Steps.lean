import Mathlib
import Dissect.Deflate.Container
import Dissect.Bytes.Basic
import Dissect.Proofs.Deflate.Reading

/-!
# Runs of the decoder

A run of the decoder is a chain of steps, each going on from a phase and a position to the next
and emitting what it adds to the output (`Steps`). Decoding never looks at the output, so a
chain is fixed by the input alone, and what it writes is the fold of its emits over whatever
output the machine holds (`Emit.applyAll`).
-/

set_option autoImplicit false

namespace Dissect.Deflate

open Reading

/-- Steps of the decoder from a position and phase to another, with what each emits; none of
them ends the stream. -/
inductive Steps : Bits → Phase → Bits → Phase → List Emit → Prop
  | refl (b : Bits) (p : Phase) : Steps b p b p []
  | step {b b₁ b' : Bits} {p p₁ p' : Phase} {e : Emit} {es : List Emit} :
      step p b = .ok ((some p₁, e), b₁) → Steps b₁ p₁ b' p' es → Steps b p b' p' (e :: es)

namespace Emit

def applyAll (es : List Emit) (out : ByteArray) : ByteArray :=
  es.foldl (fun o e => e.apply o) out

@[simp] theorem applyAll_nil (out : ByteArray) : applyAll [] out = out := rfl

@[simp] theorem applyAll_cons (e : Emit) (es : List Emit) (out : ByteArray) :
    applyAll (e :: es) out = applyAll es (e.apply out) := rfl

def reach : Emit → Nat
  | .copy distance _ => distance
  | _ => 0

theorem size_copyBack (d : Nat) :
    ∀ (n : Nat) (out : ByteArray), (copyBack d n out).size = out.size + n
  | 0, _ => rfl
  | n + 1, out => by
    rw [copyBack, size_copyBack d n, ByteArray.size_push]
    omega

theorem size_apply_le (e : Emit) (out : ByteArray) : out.size ≤ (e.apply out).size := by
  cases e <;> simp [apply, size_copyBack, ByteArray.size_push, ByteArray.size_append]

theorem size_applyAll_le :
    ∀ (es : List Emit) (out : ByteArray), out.size ≤ (applyAll es out).size
  | [], _ => le_rfl
  | e :: es, out => (size_apply_le e out).trans (size_applyAll_le es _)

theorem push_append (pre w : ByteArray) (v : UInt8) : (pre ++ w).push v = pre ++ w.push v := by
  apply ByteArray.ext
  simp [ByteArray.data_append, ByteArray.data_push]

theorem copied_append {pre w : ByteArray} {d : Nat} (h : pre.size = 0 ∨ d ≤ w.size) :
    (if d ≤ (pre ++ w).size then ((pre ++ w)[(pre ++ w).size - d]?).getD 0 else 0) =
      (if d ≤ w.size then (w[w.size - d]?).getD 0 else 0) := by
  rcases h with h | h
  · rw [ByteArray.size_eq_zero_iff.1 h, ByteArray.empty_append]
  have hsize : (pre ++ w).size = pre.size + w.size := ByteArray.size_append
  rw [if_pos (by omega), if_pos h]
  rcases Nat.eq_zero_or_pos d with rfl | hd
  · rw [getElem?_neg _ _ (by omega), getElem?_neg _ _ (by omega)]
  · rw [getElem?_pos _ _ (by omega), getElem?_pos _ _ (by omega),
      ByteArray.getElem_append_right (by omega)]
    simp only [Option.getD_some]
    congr 1
    omega

theorem copyBack_append (d : Nat) : ∀ (n : Nat) (pre w : ByteArray),
    pre.size = 0 ∨ d ≤ w.size → copyBack d n (pre ++ w) = pre ++ copyBack d n w
  | 0, _, _, _ => rfl
  | n + 1, pre, w, h => by
    simp only [copyBack]
    rw [copied_append h, push_append]
    exact copyBack_append d n pre _ (h.imp id fun h => by rw [ByteArray.size_push]; omega)

theorem apply_append (e : Emit) (pre w : ByteArray) (h : pre.size = 0 ∨ e.reach ≤ w.size) :
    e.apply (pre ++ w) = pre ++ e.apply w := by
  cases e with
  | nothing => rfl
  | literal v => exact push_append pre w v
  | copy d n => exact copyBack_append d n pre w h
  | verbatim bytes => exact ByteArray.append_assoc

theorem applyAll_append (es es' : List Emit) (out : ByteArray) :
    applyAll (es ++ es') out = applyAll es' (applyAll es out) :=
  List.foldl_append

theorem applyAll_window : ∀ (es : List Emit), (∀ e ∈ es, e.reach ≤ windowSize) →
    ∀ (pre w : ByteArray), pre.size = 0 ∨ windowSize ≤ w.size →
      applyAll es (pre ++ w) = pre ++ applyAll es w
  | [], _, _, _, _ => rfl
  | e :: es, hes, pre, w, h => by
    have he : e.reach ≤ windowSize := hes e List.mem_cons_self
    rw [applyAll_cons, applyAll_cons, e.apply_append pre w (h.imp id he.trans)]
    exact applyAll_window es (fun e' he' => hes e' (List.mem_cons_of_mem e he')) pre _
      (h.imp id fun h => h.trans (size_apply_le e w))

end Emit

theorem step_reach_le {p : Phase} {b b' : Bits} {next : Option Phase} {e : Emit}
    (h : step p b = .ok ((next, e), b')) (hb : b.pos ≤ b.data.size * 8) :
    e.reach ≤ windowSize := by
  cases p with
  | header =>
    obtain ⟨_, _, -, h⟩ := bind_eq_ok h
    cases h
    simp [Emit.reach]
  | stored left final =>
    cases left with
    | zero => cases final <;> (cases h; simp [Emit.reach])
    | succ left =>
      obtain ⟨_, _, -, h⟩ := bind_eq_ok h
      cases h
      simp [Emit.reach]
  | coded t final =>
    obtain ⟨r, b₁, hr, h⟩ := bind_eq_ok h
    cases r with
    | none => cases final <;> (cases h; simp [Emit.reach])
    | some e' =>
      cases h
      cases e with
      | copy d n => exact codedStep_copy_le hr hb
      | _ => simp [Emit.reach]

namespace Steps

variable {b b' : Bits} {p p' : Phase} {es : List Emit}

theorem append {b₁ : Bits} {p₁ : Phase} {es' : List Emit} (h₁ : Steps b p b₁ p₁ es)
    (h₂ : Steps b₁ p₁ b' p' es') : Steps b p b' p' (es ++ es') := by
  induction h₁ with
  | refl => exact h₂
  | step hstep _ ih => exact .step hstep (ih h₂)

theorem potential_le (h : Steps b p b' p' es) (hb : b.pos ≤ b.data.size * 8) :
    b'.data = b.data ∧ b'.pos ≤ b.data.size * 8 ∧ es.length + potential b' p' ≤ potential b p := by
  induction h with
  | refl => exact ⟨rfl, hb, by simp⟩
  | step hstep _ ih =>
    obtain ⟨hd, hle, hlt⟩ := step_potential hstep hb
    obtain ⟨hd', hle', hpot⟩ := ih (by rw [hd]; exact hle)
    refine ⟨hd'.trans hd, by rw [← hd]; exact hle', ?_⟩
    simp only [List.length_cons]
    omega

theorem reach_le (h : Steps b p b' p' es) (hb : b.pos ≤ b.data.size * 8) :
    ∀ e ∈ es, e.reach ≤ windowSize := by
  induction h with
  | refl => simp
  | step hstep _ ih =>
    obtain ⟨hd, hle, -⟩ := step_potential hstep hb
    intro e he
    rcases List.mem_cons.1 he with rfl | he
    · exact step_reach_le hstep hb
    · exact ih (by rw [hd]; exact hle) e he

end Steps

theorem step_header_starved {b : Bits} (h : b.data.size * 8 ≤ b.pos) :
    step .header b = .error .starved := by
  have hbit : b.bit? = none := by
    rw [Bits.bit?, if_neg (by omega)]
  have hbits : bits 1 b = .error .starved := by
    simp [bits, Bits.take?, hbit]
  have hheader : blockHeader b = .error .starved := bind_of_error hbits
  exact bind_of_error hheader

section Machine

variable {b b' : Bits} {p p' : Phase} {es : List Emit} {bound : Nat}

theorem runFor_of_steps (h : Steps b p b' p' es) (out : ByteArray)
    (hout : (Emit.applyAll es out).size ≤ bound) (fuel : Nat) (hfuel : es.length ≤ fuel) :
    Machine.runFor bound fuel ⟨b, out, p⟩ =
      Machine.runFor bound (fuel - es.length) ⟨b', Emit.applyAll es out, p'⟩ := by
  induction h generalizing out fuel with
  | refl => simp
  | @step b b₁ b' p p₁ p' e es' hstep _ ih =>
    obtain ⟨f, rfl⟩ : ∃ f, fuel = f + 1 := ⟨fuel - 1, by simp at hfuel; omega⟩
    have hsize : out.size ≤ bound :=
      ((Emit.size_apply_le e out).trans (Emit.size_applyAll_le es' _)).trans hout
    rw [Machine.runFor, if_neg (by omega), hstep]
    simp only [List.length_cons] at hfuel ⊢
    rw [ih _ hout f (by omega), show f + 1 - (es'.length + 1) = f - es'.length by omega]
    rfl

theorem runFor_overflow_of_steps (h : Steps b p b' p' es) (out : ByteArray)
    (hout : bound < (Emit.applyAll es out).size) (fuel : Nat) (hfuel : es.length < fuel) :
    ∃ m, Machine.runFor bound fuel ⟨b, out, p⟩ = (m, .overflow) := by
  induction h generalizing out fuel with
  | refl =>
    obtain ⟨f, rfl⟩ : ∃ f, fuel = f + 1 := ⟨fuel - 1, by simp at hfuel; omega⟩
    exact ⟨_, by rw [Machine.runFor, if_pos (by simpa using hout)]⟩
  | step hstep _ ih =>
    obtain ⟨f, rfl⟩ : ∃ f, fuel = f + 1 := ⟨fuel - 1, by simp at hfuel; omega⟩
    by_cases hover : out.size > bound
    · exact ⟨_, by rw [Machine.runFor, if_pos hover]⟩
    · rw [Machine.runFor, if_neg hover, hstep]
      simp only [List.length_cons] at hfuel
      exact ih _ hout f (by omega)

theorem runFor_at_end (hb : b.data.size * 8 ≤ b.pos) {out : ByteArray} (hout : out.size ≤ bound)
    (fuel : Nat) :
    Machine.runFor bound (fuel + 1) ⟨b, out, .header⟩ = (⟨b, out, .header⟩, .starved) := by
  rw [Machine.runFor, if_neg (by omega), step_header_starved hb]

theorem run_of_steps {input : ByteArray} (h : Steps ⟨input, 0⟩ .header ⟨input, input.size * 8⟩ .header es)
    (out : ByteArray) (hout : (Emit.applyAll es out).size ≤ bound) :
    Machine.run bound ⟨⟨input, 0⟩, out, .header⟩ =
      (⟨⟨input, input.size * 8⟩, Emit.applyAll es out, .header⟩, .starved) := by
  -- the run takes at most twice as many steps as it has bits, within the fuel
  have hlen := (h.potential_le (by simp)).2.2
  simp only [potential, Phase.weight, Nat.sub_self, Nat.sub_zero] at hlen
  have hfuel : es.length ≤ 2 * (⟨input, 0⟩ : Bits).left + 2 := by
    simp only [Bits.left]
    omega
  rw [Machine.run, runFor_of_steps h out hout _ hfuel,
    show 2 * (⟨input, 0⟩ : Bits).left + 2 - es.length = (2 * (⟨input, 0⟩ : Bits).left + 1 - es.length) + 1 by
      simp only [Bits.left]; omega]
  exact runFor_at_end le_rfl hout _

theorem run_overflow_of_steps {input : ByteArray}
    (h : Steps ⟨input, 0⟩ .header ⟨input, input.size * 8⟩ .header es)
    (out : ByteArray) (hout : bound < (Emit.applyAll es out).size) :
    ∃ m, Machine.run bound ⟨⟨input, 0⟩, out, .header⟩ = (m, .overflow) := by
  have hlen := (h.potential_le (by simp)).2.2
  simp only [potential, Phase.weight, Nat.sub_self, Nat.sub_zero] at hlen
  exact runFor_overflow_of_steps h out hout _ (by simp only [Bits.left]; omega)

end Machine

theorem Bits.feed_of_end {b : Bits} (h : b.pos = b.data.size * 8) (more : ByteArray) :
    b.feed more = ⟨more, 0⟩ := by
  simp only [Bits.feed, Bits.rest, h, Nat.mul_div_cancel _ (by norm_num : 0 < 8),
    ByteArray.extract_same, ByteArray.empty_append, Nat.mul_mod_left]

theorem steps_of_runFor {bound : Nat} : ∀ (fuel : Nat) {b b' : Bits} {p p' : Phase}
    {out out' : ByteArray},
    Machine.runFor bound fuel ⟨b, out, p⟩ = (⟨b', out', p'⟩, .starved) →
      ∃ es, Steps b p b' p' es ∧ Emit.applyAll es out = out'
  | 0, b, b', p, p', out, out', h => by
    cases h
    exact ⟨[], .refl _ _, rfl⟩
  | fuel + 1, b, b', p, p', out, out', h => by
    rw [Machine.runFor] at h
    split_ifs at h
    · cases h
    split at h
    · cases h
    · rename_i next e b₁ hstep
      obtain ⟨es, hsteps, hout⟩ := steps_of_runFor fuel h
      exact ⟨e :: es, .step hstep hsteps, hout⟩
    · cases h
      exact ⟨[], .refl _ _, rfl⟩
    · cases h

def Continues (history data x : Bytes) : Prop :=
  ∃ es, Steps ⟨data.toByteArray, 0⟩ .header ⟨data.toByteArray, data.length * 8⟩ .header es ∧
    Emit.applyAll es history.toByteArray = (history ++ x).toByteArray

/-- Whether the machine, given `data` after the output `history`, reads it to its last bit and
stops there before a block header, having written `x`. -/
def decodesTo (history data x : Bytes) : Bool :=
  match Machine.runFor (history ++ x).length (2 * data.length * 8 + 2)
      ⟨⟨data.toByteArray, 0⟩, history.toByteArray, .header⟩ with
  | (⟨b, out, .header⟩, .starved) =>
    b.pos == data.length * 8 && out.data == (history ++ x).toByteArray.data
  | _ => false

/-- The machine decides whether a piece continues a stream. -/
theorem decodesTo_iff {history data x : Bytes} :
    decodesTo history data x = true ↔ Continues history data x := by
  constructor
  · intro h
    unfold decodesTo at h
    split at h
    · rename_i b out heq
      obtain ⟨es, hsteps, hout⟩ := steps_of_runFor _ heq
      have hdata := (hsteps.potential_le (by simp)).1
      simp only [Bool.and_eq_true, beq_iff_eq] at h
      obtain ⟨hpos, hbytes⟩ := h
      obtain ⟨d, pos⟩ := b
      dsimp only at hdata hpos
      subst hdata hpos
      exact ⟨es, hsteps, hout.trans (ByteArray.ext hbytes)⟩
    · cases h
  · rintro ⟨es, hsteps, hwrite⟩
    have hlen := (hsteps.potential_le (by simp)).2.2
    simp only [potential, Phase.weight, Nat.sub_self, Nat.sub_zero, List.size_toByteArray] at hlen
    have hout : (Emit.applyAll es history.toByteArray).size ≤ (history ++ x).length := by
      rw [hwrite, List.size_toByteArray]
    have hrun := runFor_of_steps hsteps _ hout (2 * data.length * 8 + 2) (by omega)
    have hend : Machine.runFor (history ++ x).length (2 * data.length * 8 + 1 - es.length + 1)
        ⟨⟨data.toByteArray, data.length * 8⟩, Emit.applyAll es history.toByteArray, .header⟩ =
        (⟨⟨data.toByteArray, data.length * 8⟩, Emit.applyAll es history.toByteArray, .header⟩,
          .starved) :=
      runFor_at_end (by simp) hout _
    rw [show 2 * data.length * 8 + 2 - es.length = (2 * data.length * 8 + 1 - es.length) + 1 by
      omega, hend] at hrun
    rw [decodesTo, hrun]
    simp [hwrite]

instance (history data x : Bytes) : Decidable (Continues history data x) :=
  decidable_of_iff _ decodesTo_iff

end Dissect.Deflate
