import Mathlib
import Dissect.WebSocket.Inflater
import Dissect.Proofs.Deflate.Reading
import Dissect.Proofs.Text.Utf8

/-!
# The inflating loop stops, within its limit

Each iteration that goes on consumed input or wrote output within the limit, so it lowers
`(|input| - consumed) + (limit + 1 - |out|)`. This needs only that a call reads no more than its
input and writes no more than its room, which the DEFLATE decoder does.
-/

set_option autoImplicit false

namespace Dissect

namespace Deflate

/-- Fuel past the potential changes nothing: the decoder stops on its own before it runs out. -/
theorem Machine.runFor_add {bound : Nat} : ∀ (n k : Nat) (m : Machine),
    m.bits.pos ≤ m.bits.data.size * 8 → potential m.bits m.phase < n →
      m.runFor bound (n + k) = m.runFor bound n
  | 0, _, _, _, h => absurd h (Nat.not_lt_zero _)
  | n + 1, k, ⟨bits, out, phase⟩, hb, h => by
    dsimp only at hb h
    rw [show n + 1 + k = (n + k) + 1 by omega, Machine.runFor, Machine.runFor]
    split_ifs with hover
    · rfl
    rcases hstep : step phase bits with halt | ⟨⟨_ | next, e⟩, b⟩
    · cases halt <;> rfl
    · rfl
    · obtain ⟨hd, hle, hlt⟩ := step_potential hstep hb
      exact Machine.runFor_add n k ⟨b, e.apply out, next⟩ (by rw [hd]; exact hle)
        (show potential b next < n by omega)

theorem Machine.runFor_eq_run {m : Machine} (hb : m.bits.pos ≤ m.bits.data.size * 8)
    (bound : Nat) {n : Nat} (hn : 2 * m.bits.left + 2 ≤ n) : m.runFor bound n = m.run bound := by
  have hpot : potential m.bits m.phase < 2 * m.bits.left + 2 := by
    have hw := m.phase.weight_le_one
    simp only [potential, Bits.left]
    omega
  obtain ⟨k, rfl⟩ := Nat.exists_eq_add_of_le hn
  exact Machine.runFor_add _ k m hb hpot

theorem Machine.runFor_overflow {bound : Nat} :
    ∀ (fuel : Nat) (m m' : Machine), m.runFor bound fuel = (m', .overflow) → bound < m'.out.size
  | 0, _, _, h => by simp [Machine.runFor] at h
  | fuel + 1, ⟨bits, out, phase⟩, m', h => by
    rw [Machine.runFor] at h
    split_ifs at h with hover
    · cases h
      exact hover
    rcases hstep : step phase bits with halt | ⟨⟨_ | next, e⟩, b⟩ <;> rw [hstep] at h
    · cases halt <;> cases h
    · cases h
    · exact Machine.runFor_overflow fuel _ m' h

end Deflate

namespace WebSocket

open Dissect.Deflate

theorem le_grow_sub (len cap : Nat) : 1024 ≤ grow len cap - len := by
  unfold grow
  split_ifs <;> omega

namespace Pass

variable {σ : Type} {dec : Decompressor σ} {limit : Nat} {input : Bytes}

theorem turn_of_none {p : Pass σ} {st : σ} (hd : dec.decompress p.state (input.drop p.consumed)
      (grow p.out.length p.cap - p.out.length) = (st, none)) :
    p.turn dec limit input = .done (dec.reset st) (.error .malformed) := by
  dsimp only [turn]
  rw [hd]

theorem turn_of_some {p : Pass σ} {st : σ} {c : Call}
    (hd : dec.decompress p.state (input.drop p.consumed)
      (grow p.out.length p.cap - p.out.length) = (st, some c)) :
    p.turn dec limit input =
      if limit < (p.out ++ c.written).length then .done (dec.reset st) (.error (.oversize limit))
      else if c.status = .ok ∧ ((p.out ++ c.written).length = grow p.out.length p.cap ∨
          p.consumed + c.read < input.length ∧ (c.read ≠ 0 ∨ c.written ≠ [])) then
        .next ⟨st, p.consumed + c.read, p.out ++ c.written, grow p.out.length p.cap⟩
      else .done (if c.status = .streamEnd then dec.reset st else st) (.ok (p.out ++ c.written)) := by
  dsimp only [turn]
  rw [hd]
  dsimp only
  obtain ⟨status, read, written⟩ := c
  by_cases hover : limit < (p.out ++ written).length
  · simp only [if_pos hover]
  simp only [if_neg hover]
  cases status
  · by_cases hused : input.length ≤ p.consumed + read ∧ (p.out ++ written).length ≠
        grow p.out.length p.cap
    · rw [if_pos hused, if_neg (by omega)]
      rfl
    by_cases hstill : read = 0 ∧ written = [] ∧ (p.out ++ written).length ≠
        grow p.out.length p.cap
    · rw [if_neg hused, if_pos hstill, if_neg]
      · rfl
      · rintro ⟨-, hfull | ⟨-, hr | hw⟩⟩
        exacts [hstill.2.2 hfull, hr hstill.1, hw hstill.2.1]
    · rw [if_neg hused, if_neg hstill, if_pos]
      refine ⟨rfl, ?_⟩
      by_cases hfull : (p.out ++ written).length = grow p.out.length p.cap
      · exact .inl hfull
      · refine .inr ⟨by omega, ?_⟩
        by_cases hr : read = 0
        · exact .inr fun hw => hstill ⟨hr, hw, hfull⟩
        · exact .inl hr
  · simp
  · simp

theorem turn_eq_next {p p' : Pass σ} (h : p.turn dec limit input = .next p') :
    ∃ st c, dec.decompress p.state (input.drop p.consumed)
        (grow p.out.length p.cap - p.out.length) = (st, some c) ∧
      p' = ⟨st, p.consumed + c.read, p.out ++ c.written, grow p.out.length p.cap⟩ ∧
      (p.out ++ c.written).length ≤ limit ∧
      ((p.out ++ c.written).length = grow p.out.length p.cap ∨
        p.consumed + c.read < input.length ∧ (c.read ≠ 0 ∨ c.written ≠ [])) := by
  rcases hd : dec.decompress p.state (input.drop p.consumed)
    (grow p.out.length p.cap - p.out.length) with ⟨st, _ | c⟩
  · rw [turn_of_none hd] at h
    cases h
  rw [turn_of_some hd] at h
  split_ifs at h with hover hgo
  cases h
  exact ⟨st, c, rfl, rfl, Nat.le_of_not_lt hover, hgo.2⟩

theorem turn_eq_done_ok {p : Pass σ} {st : σ} {out : Bytes}
    (h : p.turn dec limit input = .done st (.ok out)) : out.length ≤ limit := by
  rcases hd : dec.decompress p.state (input.drop p.consumed)
    (grow p.out.length p.cap - p.out.length) with ⟨st, _ | c⟩
  · rw [turn_of_none hd] at h
    cases h
  rw [turn_of_some hd] at h
  split_ifs at h with hover <;> cases h <;> exact Nat.le_of_not_lt hover

theorem turn_eq_done_error {p : Pass σ} {st : σ} {e : InflateError}
    (h : p.turn dec limit input = .done st (.error e)) :
    st = dec.reset (dec.decompress p.state (input.drop p.consumed)
      (grow p.out.length p.cap - p.out.length)).1 := by
  rcases hd : dec.decompress p.state (input.drop p.consumed)
    (grow p.out.length p.cap - p.out.length) with ⟨st, _ | c⟩
  · rw [turn_of_none hd] at h
    cases h
    rfl
  rw [turn_of_some hd] at h
  split_ifs at h <;> cases h
  rfl

theorem run_of_turn {I : σ → Prop} {Q : σ → Except InflateError Bytes → Prop}
    (hnext : ∀ p p' : Pass σ, I p.state → p.turn dec limit input = .next p' → I p'.state)
    (hdone : ∀ (p : Pass σ) st r, I p.state → p.turn dec limit input = .done st r → Q st r) :
    ∀ (fuel : Nat) (p : Pass σ) st r, I p.state → p.run dec limit input fuel = some (st, r) →
      Q st r
  | 0, _, _, _, _, h => by cases h
  | fuel + 1, p, st, r, hi, h => by
    rw [run] at h
    rcases ht : p.turn dec limit input with ⟨st', r'⟩ | p' <;> rw [ht] at h
    · cases h
      exact hdone p st r hi ht
    · exact run_of_turn hnext hdone fuel p' st r (hnext p p' hi ht) h

theorem run_ok_le {fuel : Nat} {p : Pass σ} {st : σ} {out : Bytes}
    (h : p.run dec limit input fuel = some (st, .ok out)) : out.length ≤ limit :=
  run_of_turn (I := fun _ => True) (Q := fun _ r => ∀ out, r = .ok out → out.length ≤ limit)
    (fun _ _ _ _ => trivial) (fun _ _ _ _ ht _ hr => turn_eq_done_ok (hr ▸ ht)) fuel p st _
    trivial h out rfl

theorem run_error_reset {fuel : Nat} {p : Pass σ} {st : σ} {e : InflateError}
    (h : p.run dec limit input fuel = some (st, .error e)) : ∃ st₀, st = dec.reset st₀ :=
  run_of_turn (I := fun _ => True) (Q := fun st r => ∀ e, r = .error e → ∃ st₀, st = dec.reset st₀)
    (fun _ _ _ _ => trivial) (fun _ _ _ _ ht _ hr => ⟨_, turn_eq_done_error (hr ▸ ht)⟩) fuel p st _
    trivial h e rfl

section Bounds

variable (hread : ∀ st rest spare st' c, dec.decompress st rest spare = (st', some c) →
    c.read ≤ rest.length)
  (hwritten : ∀ st rest spare st' c, dec.decompress st rest spare = (st', some c) →
    c.written.length ≤ spare)
include hread hwritten

theorem measure_lt_of_turn {p p' : Pass σ} (h : p.turn dec limit input = .next p') :
    (p.consumed < p'.consumed ∨ p.out.length < p'.out.length) ∧
      p'.measure limit input < p.measure limit input := by
  obtain ⟨st, c, hd, rfl, hle, hgo⟩ := turn_eq_next h
  have hr : c.read ≤ input.length - p.consumed := by
    simpa using hread _ _ _ _ _ hd
  have hw := hwritten _ _ _ _ _ hd
  have hroom := le_grow_sub p.out.length p.cap
  simp only [List.length_append] at hle hgo ⊢
  simp only [measure, List.length_append]
  rcases hgo with hfull | ⟨hin, hread0 | hwritten0⟩
  · omega
  · omega
  · have hpos : 0 < c.written.length := List.length_pos_iff.2 hwritten0
    omega

theorem run_isSome : ∀ (fuel : Nat) (p : Pass σ), p.measure limit input < fuel →
    ∃ r, p.run dec limit input fuel = some r
  | 0, _, h => absurd h (Nat.not_lt_zero _)
  | fuel + 1, p, h => by
    rw [run]
    rcases ht : p.turn dec limit input with ⟨st, r⟩ | p'
    · exact ⟨_, rfl⟩
    · have hlt := (measure_lt_of_turn hread hwritten ht).2
      exact run_isSome fuel p' (by omega)

theorem run_add : ∀ (fuel k : Nat) (p : Pass σ), p.measure limit input < fuel →
    p.run dec limit input (fuel + k) = p.run dec limit input fuel
  | 0, _, _, h => absurd h (Nat.not_lt_zero _)
  | fuel + 1, k, p, h => by
    rw [show fuel + 1 + k = (fuel + k) + 1 by omega, run, run]
    rcases ht : p.turn dec limit input with ⟨st, r⟩ | p'
    · rfl
    · have hlt := (measure_lt_of_turn hread hwritten ht).2
      exact run_add fuel k p' (by omega)

end Bounds

end Pass

/-! ## The DEFLATE decoder keeps to the bounds -/

theorem takeLoads_le : ∀ {taken space : Nat} {loads : List Nat} {n pending : Nat}
    {rest : List Nat}, takeLoads taken space loads = some (n, pending, rest) → n ≤ taken + space
  | _, _, [], _, _, _, h => by simp [takeLoads] at h
  | taken, space, s :: loads, n, pending, rest, h => by
    simp only [takeLoads] at h
    split_ifs at h with hstop
    · simp only [Option.some.injEq, Prod.mk.injEq] at h
      omega
    · have hle := takeLoads_le h
      omega

theorem Held.length_handOut_le {h held : Held} {spare : Nat} {status : Status} {written : Bytes}
    (hh : h.handOut spare = (held, some (status, written))) : written.length ≤ spare := by
  cases h with
  | none =>
    simp only [Held.handOut, Prod.mk.injEq, Option.some.injEq] at hh
    simp [← hh.2.2]
  | output rest final =>
    simp only [Held.handOut, Prod.mk.injEq, Option.some.injEq] at hh
    rw [← hh.2.2]
    exact List.length_take_le _ _
  | fault rest pending loads =>
    simp only [Held.handOut] at hh
    split_ifs at hh with hpending
    · simp only [Prod.mk.injEq, Option.some.injEq] at hh
      rw [← hh.2.2, List.length_take]
      omega
    · rcases ht : takeLoads 0 spare loads with _ | ⟨n, pending', rest'⟩ <;> rw [ht] at hh
      · cases hh
      · simp only [Prod.mk.injEq, Option.some.injEq] at hh
        have hn := takeLoads_le ht
        rw [← hh.2.2, List.length_take]
        omega

namespace Inflater

theorem begin_read_le (i : Inflater) (input : Bytes) : (i.begin input).2 ≤ input.length := by
  rw [Inflater.begin]
  generalize Machine.run _ _ = r
  obtain ⟨m, stop⟩ := r
  cases stop <;> simp

theorem begin_context (i : Inflater) (input : Bytes) :
    (i.begin input).1.context.windowBits = i.windowBits ∧
      (i.begin input).1.context.maxOutput = i.maxOutput := by
  rw [Inflater.begin]
  generalize Machine.run _ _ = r
  obtain ⟨m, stop⟩ := r
  cases stop <;> simp

end Inflater

namespace Inner

theorem decompress_eq_some {st st' : Inner} {input : Bytes} {spare : Nat} {c : Call}
    (h : st.decompress input spare = (st', some c)) :
    ∃ held status written, (st.started input).1.held.handOut spare = (held, some (status, written)) ∧
      c = ⟨status, (st.started input).2, written⟩ ∧ st' = ⟨(st.started input).1.context, held⟩ := by
  unfold decompress at h
  rcases hs : st.started input with ⟨st₁, read⟩
  rcases hh : st₁.held.handOut spare with ⟨held, _ | ⟨status, written⟩⟩ <;>
    simp only [hs, hh, Option.map_none, Option.map_some, Prod.mk.injEq, reduceCtorEq,
      and_false, Option.some.injEq] at h
  exact ⟨held, status, written, rfl, h.2.symm, h.1.symm⟩

theorem started_context (st : Inner) (input : Bytes) :
    (st.started input).1.context.windowBits = st.context.windowBits ∧
      (st.started input).1.context.maxOutput = st.context.maxOutput := by
  unfold started
  split
  · exact Inflater.begin_context _ _
  · exact ⟨rfl, rfl⟩

theorem read_le (st : Inner) (input : Bytes) (spare : Nat) (st' : Inner) (c : Call)
    (h : decompressor.decompress st input spare = (st', some c)) : c.read ≤ input.length := by
  obtain ⟨held, status, written, -, rfl, -⟩ := decompress_eq_some h
  unfold started
  split
  · exact Inflater.begin_read_le _ _
  · exact Nat.zero_le _

theorem written_le (st : Inner) (input : Bytes) (spare : Nat) (st' : Inner) (c : Call)
    (h : decompressor.decompress st input spare = (st', some c)) : c.written.length ≤ spare := by
  obtain ⟨held, status, written, hh, rfl, -⟩ := decompress_eq_some h
  exact Held.length_handOut_le hh

theorem decompress_context (st : Inner) (input : Bytes) (spare : Nat) :
    (decompressor.decompress st input spare).1.context.windowBits = st.context.windowBits ∧
      (decompressor.decompress st input spare).1.context.maxOutput = st.context.maxOutput :=
  started_context st input

end Inner

/-- **The loop stops, within its limit.** For every decompressor that reads no more than the
input it is given and writes no more than the room it is given, every state and every input: an
iteration that goes on consumes input or writes output, and lowers the measure
`(|input| - consumed) + (limit + 1 - |out|)`; so the loop ends before its measure runs out, and
more fuel changes nothing; its output is within the limit, and an error leaves the decompressor
reset. -/
theorem Pass.run_ends_within_limit {σ : Type} (dec : Decompressor σ) (limit : Nat) (input : Bytes)
    (hread : ∀ st rest spare st' c, dec.decompress st rest spare = (st', some c) →
      c.read ≤ rest.length)
    (hwritten : ∀ st rest spare st' c, dec.decompress st rest spare = (st', some c) →
      c.written.length ≤ spare) :
    (∀ p p' : Pass σ, p.turn dec limit input = .next p' →
      (p.consumed < p'.consumed ∨ p.out.length < p'.out.length) ∧
        p'.measure limit input < p.measure limit input) ∧
    (∀ (p : Pass σ) (k : Nat), ∃ r, p.run dec limit input (p.measure limit input + 1) = some r ∧
      p.run dec limit input (p.measure limit input + 1 + k) = some r) ∧
    (∀ (p : Pass σ) fuel st out, p.run dec limit input fuel = some (st, .ok out) →
      out.length ≤ limit) ∧
    (∀ (p : Pass σ) fuel st e, p.run dec limit input fuel = some (st, .error e) →
      ∃ st₀, st = dec.reset st₀) := by
  refine ⟨fun p p' h => Pass.measure_lt_of_turn hread hwritten h, fun p k => ?_,
    fun p fuel st out h => ?_, fun p fuel st e h => ?_⟩
  · obtain ⟨r, hr⟩ := Pass.run_isSome hread hwritten _ p (Nat.lt_succ_self _)
    exact ⟨r, hr, (Pass.run_add hread hwritten _ k p (Nat.lt_succ_self _)).trans hr⟩
  · exact Pass.run_ok_le h
  · exact Pass.run_error_reset h

/-- The DEFLATE decoder keeps to both bounds, so the loop over "hello" stops within its
measure. -/
theorem Pass.run_ends_within_limit_hello :
    (∀ st rest spare st' c, Inner.decompressor.decompress st rest spare = (st', some c) →
      c.read ≤ rest.length) ∧
    (∀ st rest spare st' c, Inner.decompressor.decompress st rest spare = (st', some c) →
      c.written.length ≤ spare) ∧
    ∃ r, (Pass.start (Inflater.fresh 15 5) ([0xCA, 0x48, 0xCD, 0xC9, 0xC9, 0x07, 0x00] ++ messageTail)).run
      Inner.decompressor 5 ([0xCA, 0x48, 0xCD, 0xC9, 0xC9, 0x07, 0x00] ++ messageTail) 18 = some r := by
  refine ⟨Inner.read_le, Inner.written_le, ?_⟩
  obtain ⟨r, hr, -⟩ := (Pass.run_ends_within_limit Inner.decompressor 5
    ([0xCA, 0x48, 0xCD, 0xC9, 0xC9, 0x07, 0x00] ++ messageTail) Inner.read_le Inner.written_le).2.1
    (Pass.start (Inflater.fresh 15 5) ([0xCA, 0x48, 0xCD, 0xC9, 0xC9, 0x07, 0x00] ++ messageTail)) 0
  exact ⟨r, hr⟩

namespace Inflater

/-- Inflating a message never runs out of fuel, gives at most the limit, and a message that fails
leaves a fresh context. -/
theorem inflate_within_limit (i : Inflater) (payload : Bytes) :
    (∃ r, (Pass.start i (payload ++ messageTail)).run Inner.decompressor i.maxOutput
      (payload ++ messageTail) ((payload ++ messageTail).length + i.maxOutput + 2) = some r) ∧
    (∀ out, (i.inflate payload).2 = .ok out → out.length ≤ i.maxOutput) ∧
    (∀ e, (i.inflate payload).2 = .error e → (i.inflate payload).1 = fresh i.windowBits i.maxOutput) := by
  have hmeasure : (Pass.start i (payload ++ messageTail)).measure i.maxOutput
      (payload ++ messageTail) < (payload ++ messageTail).length + i.maxOutput + 2 := by
    simp only [Pass.measure, Pass.start, List.length_nil]
    omega
  obtain ⟨⟨st, r⟩, hrun⟩ := Pass.run_isSome Inner.read_le Inner.written_le _ _ hmeasure
  have hinflate : i.inflate payload = (st.context, r) := by
    rw [inflate, hrun]
  -- the context's window size and limit are those of `i` all along
  let Same : Inner → Prop := fun st => st.context.windowBits = i.windowBits ∧
    st.context.maxOutput = i.maxOutput
  have hnext : ∀ p p' : Pass Inner, Same p.state →
      p.turn Inner.decompressor i.maxOutput (payload ++ messageTail) = .next p' → Same p'.state := by
    intro p p' hs ht
    obtain ⟨st', c, hd, rfl, -⟩ := Pass.turn_eq_next ht
    have hc := Inner.decompress_context p.state (List.drop p.consumed (payload ++ messageTail))
      (grow p.out.length p.cap - p.out.length)
    rw [hd] at hc
    exact ⟨hc.1.trans hs.1, hc.2.trans hs.2⟩
  refine ⟨⟨_, hrun⟩, fun out hout => ?_, fun e he => ?_⟩
  · have hr : r = .ok out := by rw [hinflate] at hout; exact hout
    exact Pass.run_ok_le (hr ▸ hrun)
  · rw [hinflate] at he ⊢
    refine Pass.run_of_turn (I := Same)
      (Q := fun st r => ∀ e, r = .error e → st.context = fresh i.windowBits i.maxOutput) hnext
      (fun p st r hs ht e hr => ?_) _ _ st r ⟨rfl, rfl⟩ hrun e he
    subst hr
    rw [Pass.turn_eq_done_error ht]
    obtain ⟨hw, hm⟩ := Inner.decompress_context p.state (List.drop p.consumed (payload ++ messageTail))
      (grow p.out.length p.cap - p.out.length)
    exact congrArg₂ fresh (hw.trans hs.1) (hm.trans hs.2)

end Inflater

end WebSocket

end Dissect
