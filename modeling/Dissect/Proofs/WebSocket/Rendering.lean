import Mathlib
import Dissect.WebSocket.Layer
import Dissect.Proofs.WebSocket.Framing
import Dissect.Proofs.Dissection.Relational

/-!
# Rendering the frames of a chunk

The octets a WebSocket stream carries in one chunk are cut into frames from the front, one parse
after another, until nothing is left or what is left holds no whole frame (`Cuts`). Every octet
string is cut so (`Cuts.exists`), and the pieces the frames take, followed by what is left, give
the octets back (`Cuts.eq_append`).
-/

set_option autoImplicit false

namespace Dissect.WebSocket

open Dissecting

/-! ## Cutting octets into frames -/

/-- Octets cut into frames one parse after another: each frame with the octets it took from the
front of what was left, and at the end nothing, or octets on which a parse fails together with the
truncation it reports. -/
inductive Cuts : Bytes → List (Frame × Bytes) → Option (Truncated × Bytes) → Prop
  | nil : Cuts [] [] none
  | short {rest : Bytes} {t : Truncated} : rest ≠ [] → parseFrame rest = .error t →
      Cuts rest [] (some (t, rest))
  | cons {piece more : Bytes} {f : Frame} {cuts : List (Frame × Bytes)}
      {left : Option (Truncated × Bytes)} :
      parseFrame (piece ++ more) = .ok (f, piece.length) → Cuts more cuts left →
      Cuts (piece ++ more) ((f, piece) :: cuts) left

namespace Cuts

variable {data : Bytes} {cuts : List (Frame × Bytes)} {left : Option (Truncated × Bytes)}

/-- The pieces the frames took, and then what is left, are the octets cut. -/
theorem eq_append (h : Cuts data cuts left) :
    data = (cuts.map (·.2)).flatten ++ (left.map (·.2)).getD [] := by
  induction h with
  | nil => rfl
  | short => rfl
  | cons _ _ ih => simp [ih]

theorem two_mul_length_le (h : Cuts data cuts left) : 2 * cuts.length ≤ data.length := by
  induction h with
  | nil => simp
  | short => simp
  | @cons piece more f cuts left hf _ ih =>
    obtain ⟨-, hused, -⟩ := parseFrame_eq_ok hf
    have htwo := two_le_declaredLength (piece ++ more)
    simp only [List.length_cons, List.length_append]
    omega

theorem «exists» (data : Bytes) : ∃ cuts left, Cuts data cuts left := by
  induction hn : data.length using Nat.strong_induction_on generalizing data with
  | _ n ih =>
  by_cases hnil : data = []
  · exact ⟨[], none, hnil ▸ .nil⟩
  by_cases hfits : declaredLength data ≤ data.length
  · have htwo := two_le_declaredLength data
    obtain ⟨cuts, left, hrest⟩ :=
      ih _ (by rw [← hn, List.length_drop]; omega) (data.drop (declaredLength data)) rfl
    have hpiece : (data.take (declaredLength data)).length = declaredLength data := by
      rw [List.length_take, Nat.min_eq_left hfits]
    have hparse : parseFrame (data.take (declaredLength data) ++ data.drop (declaredLength data)) =
        .ok (cutFrame data, (data.take (declaredLength data)).length) := by
      rw [List.take_append_drop, hpiece]
      exact parseFrame_of_le hfits
    have hcut := Cuts.cons hparse hrest
    rw [List.take_append_drop] at hcut
    exact ⟨_, _, hcut⟩
  · obtain ⟨t, ht⟩ := parseFrame_of_lt (Nat.lt_of_not_le hfits)
    exact ⟨[], some (t, data), .short hnil ht⟩

/-- Octets are cut into frames in one way only: each cut is the one parse the front allows. -/
theorem unique (h : Cuts data cuts left) {cuts' : List (Frame × Bytes)}
    {left' : Option (Truncated × Bytes)} (h' : Cuts data cuts' left') :
    cuts = cuts' ∧ left = left' := by
  have hclash : ∀ {d : Bytes} {t : Truncated} {f : Frame} {n : Nat},
      parseFrame d = .error t → parseFrame d = .ok (f, n) → False := by
    intro d t f n ht hf
    rw [ht] at hf
    cases hf
  induction h generalizing cuts' left' with
  | nil =>
    generalize hd : ([] : Bytes) = d at h'
    cases h' with
    | nil => exact ⟨rfl, rfl⟩
    | short hne _ => exact absurd hd.symm hne
    | cons hf _ => exact (hclash (d := []) rfl (hd ▸ hf)).elim
  | short hne ht =>
    rename_i rest t
    generalize hd : rest = d at h'
    cases h' with
    | nil => exact absurd hd hne
    | short _ ht' =>
      subst hd
      rw [ht] at ht'
      cases ht'
      exact ⟨rfl, rfl⟩
    | cons hf _ => exact (hclash ht (hd ▸ hf)).elim
  | @cons piece more f cuts left hf _ ih =>
    generalize hd : piece ++ more = d at h'
    cases h' with
    | nil => exact (hclash (d := []) rfl (hd ▸ hf)).elim
    | short _ ht => exact (hclash ht (hd ▸ hf)).elim
    | @cons piece' more' f' cuts' left' hf' hmore' =>
      rw [← hd] at hf'
      obtain ⟨rfl, hused, -⟩ := parseFrame_eq_ok hf
      obtain ⟨hframe, hused', -⟩ := parseFrame_eq_ok hf'
      obtain ⟨rfl, rfl⟩ := List.append_inj hd.symm (hused'.trans hused.symm)
      obtain ⟨rfl, rfl⟩ := ih hmore'
      exact ⟨by rw [hframe], rfl⟩

-- a text frame `hi`, then the first octet of another frame
example : Cuts [0x81, 0x02, 0x68, 0x69, 0x81]
    [(⟨[0x81, 0x02], [0x68, 0x69]⟩, [0x81, 0x02, 0x68, 0x69])] (some (⟨2, 1⟩, [0x81])) :=
  @Cuts.cons [0x81, 0x02, 0x68, 0x69] [0x81] _ [] _ (by decide) (.short (by simp) (by decide))

end Cuts

/-! ## Rendering on a registered stream -/

namespace Stream

variable {d : Direction} {m : Nat}

theorem renderFrames_nil (fuel : Nat) (shown : List Bytes) :
    Stream.renderFrames d m (fuel + 1) shown [] = pure ⟨shown.reverse.flatten, none⟩ := rfl

theorem renderFrames_short {rest : Bytes} {t : Truncated} (hne : rest ≠ [])
    (ht : parseFrame rest = .error t) (fuel : Nat) (shown : List Bytes) :
    Stream.renderFrames d m (fuel + 1) shown rest = pure ⟨shown.reverse.flatten, some (t, rest)⟩ := by
  rw [Stream.renderFrames, if_neg (by simpa using hne), ht]

theorem renderFrames_cons {piece more : Bytes} {f : Frame}
    (hf : parseFrame (piece ++ more) = .ok (f, piece.length)) (fuel : Nat) (shown : List Bytes) :
    Stream.renderFrames d m (fuel + 1) shown (piece ++ more) =
      Stream.process d f m >>= fun o =>
        Stream.renderFrames d m fuel ((o.toList.map Frame.render) ++ shown) more := by
  have hne : piece ++ more ≠ [] := by
    obtain ⟨-, hused, -⟩ := parseFrame_eq_ok hf
    have hlen : 2 ≤ piece.length := hused ▸ two_le_declaredLength (piece ++ more)
    exact List.append_ne_nil_of_left_ne_nil (List.ne_nil_of_length_pos (by omega)) more
  rw [Stream.renderFrames, if_neg (by simpa using hne), hf]
  simp only [List.drop_left]
  congr 1
  funext o
  cases o <;> rfl

/-- **Rendering follows the cuts.** With fuel for every frame and one step more, rendering octets
after the frames `shown` gives what the stream makes of the frames cut from them, in order: the
frames it gives back, rendered one after the other, and what was left with its truncation. -/
theorem renderFrames_of_cuts {data : Bytes} {cuts : List (Frame × Bytes)}
    {left : Option (Truncated × Bytes)} (h : Cuts data cuts left) :
    ∀ (fuel : Nat), cuts.length ≤ fuel → ∀ (shown : List Bytes),
      Stream.renderFrames d m (fuel + 1) shown data =
        (fun outs => ⟨shown.reverse.flatten ++ (outs.filterMap id).flatMap Frame.render, left⟩) <$>
          cuts.mapM fun c => Stream.process d c.1 m := by
  induction h with
  | nil =>
    intro fuel _ shown
    simp [renderFrames_nil]
  | short hne ht =>
    intro fuel _ shown
    simp [renderFrames_short hne ht]
  | @cons piece more f cuts left hf _ ih =>
    intro fuel hfuel shown
    obtain ⟨fuel, rfl⟩ : ∃ k, fuel = k + 1 := ⟨fuel - 1, by simp at hfuel; omega⟩
    have hrest : cuts.length ≤ fuel := by simpa using hfuel
    rw [renderFrames_cons hf, List.mapM_cons, map_bind]
    congr 1
    funext o
    rw [ih fuel hrest, map_bind]
    simp only [map_pure, bind_pure_comp]
    congr 1
    funext outs
    cases o <;> simp

end Stream

/-! ## Rendering a chunk -/

namespace State

variable {w : State} {d : Direction} {sid : Nat} {data : Bytes}

theorem exec_renderFrames_of_none (hnone : w.stream? sid = none) :
    exec (State.renderFrames d sid data) w = (.ok ⟨data, none⟩, w) := by
  simp [State.renderFrames, exec_bind, hnone]

theorem exec_renderFrames_of_cuts {st : Stream} {cuts : List (Frame × Bytes)}
    {left : Option (Truncated × Bytes)} (hst : w.stream? sid = some st) (hcuts : Cuts data cuts left) :
    exec (State.renderFrames d sid data) w =
      ((exec (cuts.mapM fun c => Stream.process d c.1 w.maxPending) st).1.map
          fun shown => ⟨(shown.filterMap id).flatMap Frame.render, left⟩,
        w.setStream sid (exec (cuts.mapM fun c => Stream.process d c.1 w.maxPending) st).2) := by
  -- the fuel the layer gives is more than the frames there are
  have hfuel : cuts.length ≤ data.length := by
    have := hcuts.two_mul_length_le
    omega
  rw [State.renderFrames, exec_bind, exec_get]
  dsimp only
  rw [hst]
  dsimp only
  rw [exec_within, Stream.renderFrames_of_cuts hcuts _ hfuel, hst, Option.getD_some, exec_map]
  simp

end State

/-- **A chunk is rendered frame by frame.** On a stream that is not registered the octets are
shown as they are. Otherwise they are cut into frames, the pieces of which followed by what is
left give them back; the frames go through the stream in order, and rendering fails only where the
stream refuses one, keeping what the stream did until then. Else it shows the frames the stream
gives back, header then payload, one after the other, and what was left, if anything, with the
truncation that stopped the cutting: its note is the truncation's text, a line feed and those
octets as they are. -/
theorem renderFrames_cuts_frames (w : State) (d : Direction) (sid : Nat) (data : Bytes) :
    (w.stream? sid = none → exec (State.renderFrames d sid data) w = (.ok ⟨data, none⟩, w)) ∧
    ∃ cuts left, Cuts data cuts left ∧
      data = (cuts.map (·.2)).flatten ++ (left.map (·.2)).getD [] ∧
      ∀ st, w.stream? sid = some st →
        let run := exec (cuts.mapM fun c => Stream.process d c.1 w.maxPending) st
        exec (State.renderFrames d sid data) w =
          (run.1.map fun shown => ⟨(shown.filterMap id).flatMap Frame.render, left⟩,
            w.setStream sid run.2) ∧
        ∀ r, (exec (State.renderFrames d sid data) w).1 = .ok r →
          r.note = left.map fun p => Bytes.ofString (p.1.message ++ "\n") ++ p.2 := by
  obtain ⟨cuts, left, hcuts⟩ := Cuts.exists data
  refine ⟨State.exec_renderFrames_of_none, cuts, left, hcuts, hcuts.eq_append, fun st hst => ?_⟩
  have hrun := State.exec_renderFrames_of_cuts (d := d) hst hcuts
  refine ⟨hrun, fun r hr => ?_⟩
  rw [hrun] at hr
  cases hx : (exec (cuts.mapM fun c => Stream.process d c.1 w.maxPending) st).1 with
  | error e =>
    rw [hx] at hr
    cases hr
  | ok shown =>
    rw [hx] at hr
    cases hr
    rfl

/-- A masked text frame `Hello`, then the first octet of another frame, on a registered stream:
the octets are cut into that frame and the octet left, which the note shows after the
truncation's text. -/
theorem renderFrames_cuts_frames_hello :
    let st : Stream := { deflate := none, negotiated := true }
    let w : State := { streams := [(0, st)], maxPending := 16, maxInflated := 1024 }
    let hello : Bytes := [0x81, 0x85, 0x37, 0xfa, 0x21, 0x3d, 0x7f, 0x9f, 0x4d, 0x51, 0x58]
    w.stream? 0 = some st ∧
      ∃ f t, parseFrame (hello ++ [0x81]) = .ok (f, hello.length) ∧ parseFrame [0x81] = .error t ∧
        exec (State.renderFrames .client 0 (hello ++ [0x81])) w =
          ((exec ([(f, hello)].mapM fun c => Stream.process .client c.1 16) st).1.map fun shown =>
              ⟨(shown.filterMap id).flatMap Frame.render, some (t, [0x81])⟩,
            w.setStream 0 (exec ([(f, hello)].mapM fun c => Stream.process .client c.1 16) st).2) ∧
        ∀ r, (exec (State.renderFrames .client 0 (hello ++ [0x81])) w).1 = .ok r →
          r.note = some (Bytes.ofString (t.message ++ "\n") ++ [0x81]) := by
  intro st w hello
  have hlen : declaredLength (hello ++ [0x81]) = hello.length := by decide
  have hf : parseFrame (hello ++ [0x81]) = .ok (cutFrame (hello ++ [0x81]), hello.length) := by
    rw [← hlen]
    exact parseFrame_of_le (by rw [hlen]; simp)
  obtain ⟨t, ht⟩ := parseFrame_of_lt (d := [0x81]) (by decide)
  -- the cuts the rendering goes by are these, as octets are cut in one way only
  obtain ⟨-, cuts, left, hcuts, -, hrender⟩ := renderFrames_cuts_frames w .client 0 (hello ++ [0x81])
  obtain ⟨rfl, rfl⟩ := hcuts.unique (.cons hf (.short (by simp) ht))
  have hst : w.stream? 0 = some st := rfl
  exact ⟨hst, _, t, hf, ht, hrender st hst⟩

end Dissect.WebSocket
