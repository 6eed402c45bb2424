import Mathlib
import Dissect.Proofs.WebSocket.InflateBounds
import Dissect.Proofs.Deflate.Stored
import Dissect.Proofs.Text.Utf8

/-!
# Compression contexts kept across messages

With permessage-deflate each direction inflates its messages as pieces of one DEFLATE stream.
The context keeps only the last 32 KiB of its output (`Inflater.Holds`), which is enough to
inflate every message that continues the stream.
-/

set_option autoImplicit false

namespace Dissect.WebSocket

open Dissect.Deflate

namespace Inflater

/-- The context holds the last window of `history`: its output ends the history and is all of it
or at least a window long, and its decoder stands before a block header at the end of its
input. -/
def Holds (i : Inflater) (history : Bytes) : Prop :=
  i.machine.phase = .header ∧ i.machine.bits.pos = i.machine.bits.data.size * 8 ∧
    ∃ pre : ByteArray, history.toByteArray = pre ++ i.machine.out ∧
      (pre.size = 0 ∨ windowSize ≤ i.machine.out.size)

theorem holds_fresh (windowBits maxOutput : Nat) : (fresh windowBits maxOutput).Holds [] :=
  ⟨rfl, rfl, ByteArray.empty, ByteArray.empty_append.symm, .inl rfl⟩

theorem exists_lastWindow {pre o : ByteArray} (h : pre.size = 0 ∨ windowSize ≤ o.size) :
    ∃ pre', pre ++ o = pre' ++ o.extract (o.size - windowSize) o.size ∧
      (pre'.size = 0 ∨ windowSize ≤ (o.extract (o.size - windowSize) o.size).size) := by
  refine ⟨pre ++ o.extract 0 (o.size - windowSize), ?_, ?_⟩
  · rw [ByteArray.append_assoc, ← ByteArray.extract_eq_extract_append_extract _ (Nat.zero_le _)
      (Nat.sub_le _ _), ByteArray.extract_zero_size]
  · by_cases hw : windowSize ≤ o.size
    · right
      simp only [ByteArray.size_extract, Nat.min_self]
      omega
    · left
      have hpre : pre.size = 0 := h.resolve_right hw
      simp only [ByteArray.size_append, ByteArray.size_extract, hpre]
      omega

theorem applyAll_window_of_holds {i : Inflater} {history x : Bytes} {es : List Emit}
    (hi : i.Holds history) (hreach : ∀ e ∈ es, e.reach ≤ windowSize)
    (hwrite : Emit.applyAll es history.toByteArray = (history ++ x).toByteArray) :
    Emit.applyAll es i.machine.out = i.machine.out ++ x.toByteArray := by
  obtain ⟨-, -, pre, hhist, hpre⟩ := hi
  have hwin := Emit.applyAll_window es hreach pre i.machine.out hpre
  rw [← hhist, hwrite, List.toByteArray_append, hhist, ByteArray.append_assoc] at hwin
  exact ((ByteArray.append_right_inj pre).1 hwin).symm

/-- How the loop ends once the decoder holds all of a message's output: past the limit, at the
stream's end, or with the stream going on. -/
def drained (limit : Nat) (context : Inflater) (out : Bytes) (final : Bool) :
    Inner × Except InflateError Bytes :=
  if limit < out.length then (⟨context.reset, .none⟩, .error (.oversize limit))
  else if final then (⟨context.reset, .none⟩, .ok out)
  else (⟨context, .output [] false⟩, .ok out)

theorem decompress_of_output {st : Inner} {input : Bytes} {rest : Bytes} {final : Bool}
    (h : (st.started input).1.held = .output rest final) (spare : Nat) :
    Inner.decompressor.decompress st input spare =
      (⟨(st.started input).1.context, .output (rest.drop spare) final⟩,
        some ⟨if final ∧ rest.length ≤ spare then .streamEnd else .ok, (st.started input).2,
          rest.take spare⟩) := by
  show st.decompress input spare = _
  unfold Inner.decompress
  rcases hs : st.started input with ⟨st₁, read⟩
  rw [hs] at h
  obtain ⟨context, held⟩ := st₁
  dsimp only at h ⊢
  subst h
  rfl

theorem run_of_output {limit : Nat} {input : Bytes} (fuel : Nat) : ∀ (p : Pass Inner)
    (rest : Bytes) (final : Bool),
    (p.state.started (input.drop p.consumed)).1.held = .output rest final →
    input.length ≤ p.consumed + (p.state.started (input.drop p.consumed)).2 →
    min rest.length (limit + 1 - p.out.length) < fuel →
    p.run Inner.decompressor limit input fuel =
      some (drained limit (p.state.started (input.drop p.consumed)).1.context (p.out ++ rest) final) := by
  induction fuel with
  | zero =>
    intro _ _ _ _ _ hfuel
    exact absurd hfuel (Nat.not_lt_zero _)
  | succ fuel ih =>
    intro p rest final hheld hread hfuel
    have hd := decompress_of_output hheld (grow p.out.length p.cap - p.out.length)
    have hroom := le_grow_sub p.out.length p.cap
    have htake := List.take_append_drop (grow p.out.length p.cap - p.out.length) rest
    have hlen : (rest.take (grow p.out.length p.cap - p.out.length)).length =
        min (grow p.out.length p.cap - p.out.length) rest.length := List.length_take
    rw [Pass.run, Pass.turn_of_some hd]
    by_cases hover : limit < (p.out ++ rest.take (grow p.out.length p.cap - p.out.length)).length
    · rw [if_pos hover]
      simp only [List.length_append] at hover
      have hpast : limit < (p.out ++ rest).length := by
        simp only [List.length_append]
        omega
      simp only [drained, if_pos hpast]
      rfl
    rw [if_neg hover]
    simp only [List.length_append] at hover
    have hfit : ¬ limit < (p.out ++ rest).length ∨
        grow p.out.length p.cap - p.out.length < rest.length := by
      simp only [List.length_append]
      omega
    by_cases hfull : (p.out ++ rest.take (grow p.out.length p.cap - p.out.length)).length =
      grow p.out.length p.cap
    · by_cases hend : final = true ∧ rest.length ≤ grow p.out.length p.cap - p.out.length
      · obtain ⟨rfl, hle⟩ := hend
        have hfits : ¬ limit < (p.out ++ rest).length := by
          simp only [List.length_append]
          omega
        have hstatus : (if true = true ∧ rest.length ≤ grow p.out.length p.cap - p.out.length then
            Status.streamEnd else .ok) = .streamEnd := if_pos ⟨rfl, hle⟩
        rw [hstatus, if_neg (fun h => by cases h.1), if_pos rfl, List.take_of_length_le hle]
        simp only [drained, if_neg hfits, if_true]
        rfl
      · have hstatus : (if final = true ∧ rest.length ≤ grow p.out.length p.cap - p.out.length then
            Status.streamEnd else .ok) = .ok := if_neg hend
        rw [if_pos ⟨hstatus, .inl hfull⟩]
        dsimp only
        have hmore : min (rest.drop (grow p.out.length p.cap - p.out.length)).length
            (limit + 1 - (p.out ++ rest.take (grow p.out.length p.cap - p.out.length)).length) <
              fuel := by
          simp only [List.length_append, List.length_drop] at hfull ⊢
          omega
        rw [ih _ (rest.drop (grow p.out.length p.cap - p.out.length)) final rfl
          (Nat.le_trans hread (Nat.le_add_right _ _)) hmore]
        simp only [Inner.started, List.append_assoc, htake]
    · have hall : rest.length ≤ grow p.out.length p.cap - p.out.length := by
        simp only [List.length_append] at hfull
        omega
      have hfits : ¬ limit < (p.out ++ rest).length := by
        rw [List.take_of_length_le hall] at hover
        simpa using hover
      rw [List.take_of_length_le hall]
      rw [List.take_of_length_le hall] at hfull
      cases final
      · have hstatus : (if false = true ∧ rest.length ≤ grow p.out.length p.cap - p.out.length then
            Status.streamEnd else .ok) = .ok := if_neg fun h => by cases h.1
        have hstop : ¬ (Status.ok = .ok ∧ ((p.out ++ rest).length = grow p.out.length p.cap ∨
            p.consumed + (p.state.started (input.drop p.consumed)).2 < input.length ∧
              ((p.state.started (input.drop p.consumed)).2 ≠ 0 ∨ rest ≠ []))) := by
          rintro ⟨-, hgo | ⟨hin, -⟩⟩
          · exact hfull hgo
          · omega
        rw [hstatus, if_neg hstop, if_neg (fun h => by cases h), List.drop_eq_nil_of_le hall]
        simp only [drained, if_neg hfits, Bool.false_eq_true, if_false]
      · have hstatus : (if true = true ∧ rest.length ≤ grow p.out.length p.cap - p.out.length then
            Status.streamEnd else .ok) = .streamEnd := if_pos ⟨rfl, hall⟩
        rw [hstatus, if_neg (fun h => by cases h.1), if_pos rfl]
        simp only [drained, if_neg hfits, if_true]
        rfl

theorem begin_of_starved {i : Inflater} {input : Bytes} {m : Machine}
    (h : (i.fed input).run ((i.fed input).out.size + 2 * i.maxOutput + (input.length * 4 + 64) +
      131072) = (m, .starved)) :
    i.begin input =
      (⟨{ i with
          machine := { m with out := m.out.extract (m.out.size - windowSize) m.out.size }
          produced := i.produced + (m.out.extract (i.fed input).out.size m.out.size).toList.length },
        .output (m.out.extract (i.fed input).out.size m.out.size).toList false⟩, input.length) := by
  rw [begin]
  simp only [h]

theorem begin_of_overflow {i : Inflater} {input : Bytes} {m : Machine}
    (h : (i.fed input).run ((i.fed input).out.size + 2 * i.maxOutput + (input.length * 4 + 64) +
      131072) = (m, .overflow)) :
    i.begin input = (⟨i, .output (m.out.extract (i.fed input).out.size m.out.size).toList false⟩,
      input.length) := by
  rw [begin]
  simp only [h]

theorem inflate_of_begin {i context : Inflater} {payload out : Bytes} {final : Bool}
    (h : i.begin (payload ++ messageTail) = (⟨context, .output out final⟩,
      (payload ++ messageTail).length)) :
    i.inflate payload = ((drained i.maxOutput context out final).1.context,
      (drained i.maxOutput context out final).2) := by
  have hstart : (Pass.start i (payload ++ messageTail)).state.started
      ((payload ++ messageTail).drop (Pass.start i (payload ++ messageTail)).consumed) =
      (⟨context, .output out final⟩, (payload ++ messageTail).length) := h
  rw [inflate, run_of_output _ (Pass.start i _) out final (by rw [hstart])
    (by rw [hstart]; exact Nat.le_add_left _ _) (by simp [Pass.start]), hstart]
  rfl

theorem inflate_of_starved {i : Inflater} {payload : Bytes} {m : Machine}
    (h : (i.fed (payload ++ messageTail)).run ((i.fed (payload ++ messageTail)).out.size +
      2 * i.maxOutput + ((payload ++ messageTail).length * 4 + 64) + 131072) = (m, .starved)) :
    i.inflate payload =
      if i.maxOutput <
          (m.out.extract (i.fed (payload ++ messageTail)).out.size m.out.size).toList.length then
        (i.reset, .error (.oversize i.maxOutput))
      else
        ({ i with
            machine := { m with out := m.out.extract (m.out.size - windowSize) m.out.size }
            produced := i.produced +
              (m.out.extract (i.fed (payload ++ messageTail)).out.size m.out.size).toList.length },
          .ok (m.out.extract (i.fed (payload ++ messageTail)).out.size m.out.size).toList) := by
  rw [inflate_of_begin (begin_of_starved h)]
  simp only [drained, Bool.false_eq_true, if_false]
  split_ifs <;> rfl

theorem inflate_of_continues {i : Inflater} {history c x : Bytes} (hi : i.Holds history)
    (hc : Continues history (c ++ messageTail) x) (hx : x.length ≤ i.maxOutput) :
    ∃ i', i.inflate c = (i', .ok x) ∧ i'.Holds (history ++ x) ∧
      i'.windowBits = i.windowBits ∧ i'.maxOutput = i.maxOutput := by
  obtain ⟨es, hsteps, hwrite⟩ := hc
  have hw := applyAll_window_of_holds hi (hsteps.reach_le (by simp)) hwrite
  obtain ⟨windowBits, maxOutput, ⟨bits, w, phase⟩, produced⟩ := i
  obtain ⟨hphase, hend, pre, hhist, hpre⟩ := hi
  dsimp only at hphase hend hhist hpre hw hx
  subst hphase
  rw [← List.size_toByteArray] at hsteps
  have hbound : (Emit.applyAll es w).size ≤ w.size + 2 * maxOutput +
      ((c ++ messageTail).length * 4 + 64) + 131072 := by
    rw [hw, ByteArray.size_append, List.size_toByteArray]
    omega
  have hfeed := Bits.feed_of_end hend (c ++ messageTail).toByteArray
  have hrun : (Inflater.fed ⟨windowBits, maxOutput, ⟨bits, w, .header⟩, produced⟩ (c ++ messageTail)).run
      (w.size + 2 * maxOutput + ((c ++ messageTail).length * 4 + 64) + 131072) =
      (⟨⟨(c ++ messageTail).toByteArray, (c ++ messageTail).toByteArray.size * 8⟩,
        Emit.applyAll es w, .header⟩, .starved) := by
    simp only [Inflater.fed, hfeed]
    exact run_of_steps hsteps w hbound
  have hout : (w ++ x.toByteArray).extract w.size (w ++ x.toByteArray).size = x.toByteArray :=
    ByteArray.extract_append_eq_right rfl ByteArray.size_append
  rw [Inflater.inflate_of_starved hrun]
  simp only [Inflater.fed, hw, hout, ByteArray.toList_toByteArray, if_neg (Nat.not_lt.2 hx)]
  obtain ⟨pre', hsplit, hpre'⟩ := @exists_lastWindow pre (w ++ x.toByteArray)
    (hpre.imp id fun h => h.trans (by rw [ByteArray.size_append]; omega))
  refine ⟨_, rfl, ⟨rfl, rfl, pre', ?_, hpre'⟩, rfl, rfl⟩
  rw [List.toByteArray_append, hhist, ByteArray.append_assoc]
  exact hsplit

theorem inflate_of_oversize {i : Inflater} {history c x : Bytes} (hi : i.Holds history)
    (hc : Continues history (c ++ messageTail) x) (hx : i.maxOutput < x.length) :
    i.inflate c = (i.reset, .error (.oversize i.maxOutput)) := by
  obtain ⟨es, hsteps, hwrite⟩ := hc
  have hw := applyAll_window_of_holds hi (hsteps.reach_le (by simp)) hwrite
  obtain ⟨windowBits, maxOutput, ⟨bits, w, phase⟩, produced⟩ := i
  obtain ⟨hphase, hend, -, -, -⟩ := hi
  dsimp only at hphase hend hw hx
  subst hphase
  rw [← List.size_toByteArray] at hsteps
  have hfeed := Bits.feed_of_end hend (c ++ messageTail).toByteArray
  by_cases hbound : (Emit.applyAll es w).size ≤ w.size + 2 * maxOutput +
      ((c ++ messageTail).length * 4 + 64) + 131072
  · have hrun : (Inflater.fed ⟨windowBits, maxOutput, ⟨bits, w, .header⟩, produced⟩
        (c ++ messageTail)).run (w.size + 2 * maxOutput + ((c ++ messageTail).length * 4 + 64) +
          131072) = (⟨⟨(c ++ messageTail).toByteArray, (c ++ messageTail).toByteArray.size * 8⟩,
          Emit.applyAll es w, .header⟩, .starved) := by
      simp only [Inflater.fed, hfeed]
      exact run_of_steps hsteps w hbound
    have hout : (w ++ x.toByteArray).extract w.size (w ++ x.toByteArray).size = x.toByteArray :=
      ByteArray.extract_append_eq_right rfl ByteArray.size_append
    rw [Inflater.inflate_of_starved hrun]
    simp only [Inflater.fed, hw, hout, ByteArray.toList_toByteArray, if_pos hx]
  · obtain ⟨m, hm⟩ := run_overflow_of_steps hsteps w (Nat.lt_of_not_le hbound)
    have hrun : (Inflater.fed ⟨windowBits, maxOutput, ⟨bits, w, .header⟩, produced⟩
        (c ++ messageTail)).run (w.size + 2 * maxOutput + ((c ++ messageTail).length * 4 + 64) +
          131072) = (m, .overflow) := by
      simp only [Inflater.fed, hfeed]
      exact hm
    have hsize := Machine.runFor_overflow _ _ _ hm
    have hlong : maxOutput < (m.out.extract w.size m.out.size).toList.length := by
      simp only [ByteArray.length_toList, ByteArray.size_extract]
      omega
    rw [Inflater.inflate_of_begin (Inflater.begin_of_overflow hrun)]
    simp only [drained, Inflater.fed, hfeed, if_pos hlong]

/-- Inflate payloads one after another on one context. -/
def inflateAll (i : Inflater) : List Bytes → Inflater × List (Except InflateError Bytes)
  | [] => (i, [])
  | c :: cs =>
    let r := i.inflate c
    let rest := r.1.inflateAll cs
    (rest.1, r.2 :: rest.2)

theorem inflateAll_append (i : Inflater) (cs ds : List Bytes) :
    i.inflateAll (cs ++ ds) = (((i.inflateAll cs).1.inflateAll ds).1,
      (i.inflateAll cs).2 ++ ((i.inflateAll cs).1.inflateAll ds).2) := by
  induction cs generalizing i with
  | nil => rfl
  | cons c cs ih => simp [inflateAll, ih]

end Inflater

/-- Messages compressed in order on one stream after `history`, each with its payload: the
payload, with the four octets that end it put back, continues the stream after the messages
before it. -/
def Sent : Bytes → List (Bytes × Bytes) → Prop
  | _, [] => True
  | history, (payload, x) :: rest =>
    Continues history (payload ++ messageTail) x ∧ Sent (history ++ x) rest

theorem sent_cons (history payload x : Bytes) (rest : List (Bytes × Bytes)) :
    Sent history ((payload, x) :: rest) ↔
      Continues history (payload ++ messageTail) x ∧ Sent (history ++ x) rest := Iff.rfl

instance Sent.decidable : ∀ (history : Bytes) (msgs : List (Bytes × Bytes)),
    Decidable (Sent history msgs)
  | _, [] => isTrue trivial
  | history, (payload, x) :: rest =>
    haveI := Sent.decidable (history ++ x) rest
    decidable_of_iff _ (sent_cons history payload x rest).symm

theorem Sent.left {history : Bytes} :
    ∀ {msgs more : List (Bytes × Bytes)}, Sent history (msgs ++ more) →
      Sent history msgs ∧ Sent (history ++ (msgs.map Prod.snd).flatten) more
  | [], _, h => ⟨trivial, by simpa using h⟩
  | (c, x) :: msgs, more, h => by
    obtain ⟨hc, hrest⟩ := h
    obtain ⟨hmsgs, hmore⟩ := Sent.left hrest
    exact ⟨⟨hc, hmsgs⟩, by simpa using hmore⟩

namespace Inflater

theorem inflateAll_of_sent : ∀ (msgs : List (Bytes × Bytes)) {i : Inflater} {history : Bytes},
    i.Holds history → Sent history msgs → (∀ m ∈ msgs, m.2.length ≤ i.maxOutput) →
      ∃ i', i.inflateAll (msgs.map Prod.fst) = (i', msgs.map fun m => .ok m.2) ∧
        i'.Holds (history ++ (msgs.map Prod.snd).flatten) ∧
        i'.windowBits = i.windowBits ∧ i'.maxOutput = i.maxOutput
  | [], i, history, hi, _, _ => ⟨i, rfl, by simpa using hi, rfl, rfl⟩
  | (c, x) :: msgs, i, history, hi, ⟨hc, hrest⟩, hfit => by
    obtain ⟨i₁, h₁, hi₁, hwb₁, hmax₁⟩ := inflate_of_continues hi hc (hfit _ List.mem_cons_self)
    obtain ⟨i', h', hi', hwb', hmax'⟩ := inflateAll_of_sent msgs hi₁ hrest
      (fun m hm => hmax₁ ▸ hfit m (List.mem_cons_of_mem _ hm))
    refine ⟨i', ?_, by simpa using hi', hwb'.trans hwb₁, hmax'.trans hmax₁⟩
    simp [inflateAll, h₁, h']

end Inflater

/-- Messages compressed in order on one stream come out in order when inflated in order on a
fresh context, the empty message among them, as long as each fits the limit. The first message
past the limit is refused with the oversize error, and the context starts over. -/
theorem inflate_messages_in_order (windowBits maxOutput : Nat) :
    (∀ msgs : List (Bytes × Bytes), Sent [] msgs → (∀ m ∈ msgs, m.2.length ≤ maxOutput) →
      ((Inflater.fresh windowBits maxOutput).inflateAll (msgs.map Prod.fst)).2 =
        msgs.map fun m => .ok m.2) ∧
    (∀ (msgs : List (Bytes × Bytes)) (c x : Bytes), Sent [] (msgs ++ [(c, x)]) →
      (∀ m ∈ msgs, m.2.length ≤ maxOutput) → maxOutput < x.length →
      (Inflater.fresh windowBits maxOutput).inflateAll (msgs.map Prod.fst ++ [c]) =
        (Inflater.fresh windowBits maxOutput,
          (msgs.map fun m => Except.ok m.2) ++ [Except.error (InflateError.oversize maxOutput)])) ∧
    (InflateError.oversize maxOutput).message =
      s!"Inflated websocket message exceeds {maxOutput} bytes" := by
  have hfresh := Inflater.holds_fresh windowBits maxOutput
  refine ⟨fun msgs hsent hfit => ?_, fun msgs c x hsent hfit hx => ?_, rfl⟩
  · obtain ⟨i', h, -⟩ := Inflater.inflateAll_of_sent msgs hfresh hsent hfit
    rw [h]
  · -- the messages before the long one come out, then the long one resets the context
    obtain ⟨hmsgs, hlast, -⟩ := hsent.left
    obtain ⟨i', h, hi', hwb, hmax⟩ := Inflater.inflateAll_of_sent msgs hfresh hmsgs hfit
    have hover := Inflater.inflate_of_oversize hi' hlast (hmax ▸ hx)
    rw [Inflater.inflateAll_append, h]
    simp [Inflater.inflateAll, hover, Inflater.reset, hwb, hmax, Inflater.fresh]

def hello : Bytes := [0x68, 0x65, 0x6C, 0x6C, 0x6F]

def helloPayloads : List (Bytes × Bytes) :=
  [([0xCA, 0x48, 0xCD, 0xC9, 0xC9, 0x07, 0x00], hello), ([0xCA, 0x00, 0x11, 0x00, 0x00], hello),
    ([0x00], [])]

def helloTwicePayload : Bytes × Bytes := ([0x42, 0x10, 0x00, 0x00], hello ++ hello)

theorem inflate_messages_in_order_hello :
    (Sent [] helloPayloads ∧ (∀ m ∈ helloPayloads, m.2.length ≤ 5) ∧
      ((Inflater.fresh 15 5).inflateAll (helloPayloads.map Prod.fst)).2 =
        helloPayloads.map fun m => .ok m.2) ∧
    (Sent [] (helloPayloads ++ [helloTwicePayload]) ∧ (∀ m ∈ helloPayloads, m.2.length ≤ 5) ∧
      5 < helloTwicePayload.2.length ∧
      (Inflater.fresh 15 5).inflateAll (helloPayloads.map Prod.fst ++ [helloTwicePayload.1]) =
        (Inflater.fresh 15 5,
          (helloPayloads.map fun m => Except.ok m.2) ++ [Except.error (InflateError.oversize 5)])) := by
  -- the decoder itself checks that the four payloads continue the stream in order
  have hsent : Sent [] (helloPayloads ++ [helloTwicePayload]) := by decide +kernel
  have hsent₃ := hsent.left.1
  have hfit : ∀ m ∈ helloPayloads, m.2.length ≤ 5 := by decide
  have hlong : 5 < helloTwicePayload.2.length := by decide
  exact ⟨⟨hsent₃, hfit, (inflate_messages_in_order 15 5).1 _ hsent₃ hfit⟩,
    ⟨hsent, hfit, hlong, (inflate_messages_in_order 15 5).2.1 _ _ _ hsent hfit hlong⟩⟩

end Dissect.WebSocket
