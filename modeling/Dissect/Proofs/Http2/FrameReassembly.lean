import Mathlib
import Dissect.Proofs.Http2.FrameSplit

/-!
# Frames pushed in pieces of any sizes

A direction's octets are the preface, if its buffer awaits one, then whole frames, each nine
header octets whose length field its payload matches (`WireFrame`), then the start of one more
frame. However they are cut into pieces, pushing each piece and splitting frames off until the
buffer waits (`FrameBuffer.pushEach`) gives back every frame, header and payload, in order,
without error, and leaves the start of the last frame buffered.
-/

set_option autoImplicit false

namespace Dissect.Http2

/-- A frame as the octets that carry it: nine header octets, whose length field is the payload's
length, then the payload. -/
structure WireFrame where
  head : Bytes
  payload : Bytes
  head_length : head.length = headerSize
  declares : Bytes.beNat (head.take 3) = payload.length

namespace WireFrame

def octets (F : WireFrame) : Bytes := F.head ++ F.payload

def header (F : WireFrame) : FrameHeader := (FrameHeader.decode? F.head).getD ⟨0, 0, 0, 0⟩

def split (F : WireFrame) : FrameHeader × Bytes := (F.header, F.payload)

theorem decode?_head (F : WireFrame) : FrameHeader.decode? F.head = some F.header := by
  obtain ⟨head, payload, hlen, _⟩ := F
  match head, hlen with
  | [_, _, _, _, _, _, _, _, _], _ => rfl

theorem length_header (F : WireFrame) : F.header.length = F.payload.length := by
  obtain ⟨head, payload, hlen, hdecl⟩ := F
  match head, hlen with
  | [_, _, _, _, _, _, _, _, _], _ => exact hdecl

theorem length_octets (F : WireFrame) : F.octets.length = headerSize + F.header.length := by
  simp [octets, F.head_length, F.length_header]

theorem decode?_of_head_prefix (F : WireFrame) {bs : Bytes} (h : F.head <+: bs) :
    FrameHeader.decode? bs = some F.header := by
  obtain ⟨rest, rfl⟩ := h
  exact FrameHeader.decode?_append F.decode?_head rest

theorem splitFrames_octets_append (F : WireFrame) (rest : Bytes) :
    splitFrames (F.octets ++ rest) = (F.split :: (splitFrames rest).1, (splitFrames rest).2) := by
  have hd : FrameHeader.decode? (F.octets ++ rest) = some F.header :=
    F.decode?_of_head_prefix (by simp [octets])
  have hle : headerSize + F.header.length ≤ (F.octets ++ rest).length := by
    rw [← F.length_octets]; simp
  rw [splitFrames_of_le hd hle, ← F.length_octets, List.take_left, List.drop_left]
  simp [split, octets, ← F.head_length]

theorem framesWithin_octets_append {M : Nat} (F : WireFrame) (hF : F.payload.length ≤ M)
    {rest : Bytes} (hrest : FramesWithin M rest) : FramesWithin M (F.octets ++ rest) := by
  have hd : FrameHeader.decode? (F.octets ++ rest) = some F.header :=
    F.decode?_of_head_prefix (by simp [octets])
  refine framesWithin_of_decode? hd (F.length_header ▸ hF) ?_
  rwa [← F.length_octets, List.drop_left]

theorem splitFrames_flatMap_octets (fs : List WireFrame) (t : Bytes) :
    splitFrames (fs.flatMap octets ++ t) =
      (fs.map split ++ (splitFrames t).1, (splitFrames t).2) := by
  induction fs with
  | nil => simp
  | cons F fs ih => simp [List.append_assoc, splitFrames_octets_append, ih]

theorem framesWithin_flatMap_octets {M : Nat} {fs : List WireFrame}
    (hfs : ∀ F ∈ fs, F.payload.length ≤ M) {t : Bytes} (ht : FramesWithin M t) :
    FramesWithin M (fs.flatMap octets ++ t) := by
  induction fs with
  | nil => simpa using ht
  | cons F fs ih =>
    rw [List.flatMap_cons, List.append_assoc]
    exact F.framesWithin_octets_append (hfs F List.mem_cons_self)
      (ih fun F' hF' => hfs F' (List.mem_cons_of_mem F hF'))

end WireFrame

def Unfinished (M : Nat) (t : Bytes) : Prop :=
  ∃ F : WireFrame, F.payload.length ≤ M ∧ t <+: F.octets ∧ t.length < F.octets.length

namespace Unfinished

variable {M : Nat} {t : Bytes}

theorem decode? (h : Unfinished M t) {hdr : FrameHeader} (hd : FrameHeader.decode? t = some hdr) :
    ∃ F : WireFrame, F.payload.length ≤ M ∧ hdr = F.header ∧ t.length < headerSize + hdr.length := by
  obtain ⟨F, hM, hpre, hlt⟩ := h
  have hlen := FrameHeader.headerSize_le_of_decode? hd
  have hhead : F.head <+: t :=
    List.prefix_of_prefix_length_le (by simp [WireFrame.octets]) hpre (by rw [F.head_length]; exact hlen)
  have hdr_eq : hdr = F.header := Option.some.inj (hd.symm.trans (F.decode?_of_head_prefix hhead))
  subst hdr_eq
  exact ⟨F, hM, rfl, F.length_octets ▸ hlt⟩

theorem splitFrames_eq (h : Unfinished M t) : splitFrames t = ([], t) := by
  rcases hd : FrameHeader.decode? t with _ | hdr
  · exact splitFrames_of_decode?_none hd
  · obtain ⟨F, -, -, hlt⟩ := h.decode? hd
    exact splitFrames_of_lt hd hlt

theorem framesWithin (h : Unfinished M t) : FramesWithin M t := by
  rcases hd : FrameHeader.decode? t with _ | hdr
  · exact framesWithin_of_decode?_none hd
  · obtain ⟨F, hM, rfl, hlt⟩ := h.decode? hd
    refine framesWithin_of_decode? hd (F.length_header ▸ hM) ?_
    rw [List.drop_eq_nil_of_le (by omega)]
    exact framesWithin_nil M

end Unfinished

namespace FrameBuffer

theorem length_data_takePreface_le {b b' : FrameBuffer} (h : b.takePreface = .ok (some b')) :
    b'.data.length ≤ b.data.length := by
  unfold takePreface at h
  split at h
  · cases h
    exact le_rfl
  · dsimp only at h
    split at h
    · cases h
    · split at h
      · cases h
      · cases h
        simp

theorem length_data_next_lt {b b' : FrameBuffer} {f : FrameHeader × Bytes}
    (h : b.next = (b', .ok (some f))) : b'.data.length < b.data.length := by
  unfold next at h
  split at h
  · cases h
  · cases h
  · rename_i b₁ hb₁
    have hle := length_data_takePreface_le hb₁
    split at h
    · cases h
    · rename_i hdr _
      split at h
      · cases h
      · simp only [List.splitAt_eq] at h
        split at h
        · cases h
        · rename_i hwhole
          cases h
          simp only [List.length_drop, List.length_take, headerSize] at hwhole ⊢
          omega

/-- Split frames off until the buffer waits for more octets or refuses: the buffer after, the
frames in order, and the refusal if there was one. -/
def drainFrames (b : FrameBuffer) : FrameBuffer × List (FrameHeader × Bytes) × Option BufferError :=
  match _h : b.next with
  | (b', .ok (some f)) =>
    let r := b'.drainFrames
    (r.1, f :: r.2.1, r.2.2)
  | (b', .ok none) => (b', [], none)
  | (b', .error e) => (b', [], some e)
termination_by b.data.length
decreasing_by exact length_data_next_lt _h

/-- Push each piece in turn, splitting frames off after each: the buffer at the end, and what
each push gave. -/
def pushEach (b : FrameBuffer) :
    List Bytes → FrameBuffer × List (List (FrameHeader × Bytes) × Option BufferError)
  | [] => (b, [])
  | d :: ds =>
    let r := (b.push d).drainFrames
    let rest := r.1.pushEach ds
    (rest.1, (r.2.1, r.2.2) :: rest.2)

variable {b b' : FrameBuffer}

theorem drainFrames_of_next_some {f : FrameHeader × Bytes} (h : b.next = (b', .ok (some f))) :
    b.drainFrames = (b'.drainFrames.1, f :: b'.drainFrames.2.1, b'.drainFrames.2.2) := by
  rw [drainFrames]
  split <;> simp_all

theorem drainFrames_of_next_none (h : b.next = (b', .ok none)) : b.drainFrames = (b', [], none) := by
  rw [drainFrames]
  split <;> simp_all

theorem drainFrames_of_next_error {e : BufferError} (h : b.next = (b', .error e)) :
    b.drainFrames = (b', [], some e) := by
  rw [drainFrames]
  split <;> simp_all

theorem drainFrames_congr (h : b.next = b'.next) : b.drainFrames = b'.drainFrames := by
  rcases hn : b'.next with ⟨b'', e | _ | f⟩
  · rw [drainFrames_of_next_error (h.trans hn), drainFrames_of_next_error hn]
  · rw [drainFrames_of_next_none (h.trans hn), drainFrames_of_next_none hn]
  · rw [drainFrames_of_next_some (h.trans hn), drainFrames_of_next_some hn]

theorem drainFrames_of_ready (hready : b.awaitingPreface = false)
    (hw : FramesWithin b.maxFrameSize b.data) :
    b.drainFrames = ({ b with data := (splitFrames b.data).2 }, (splitFrames b.data).1, none) := by
  -- on the number of octets held; each frame split off leaves a buffer of the same kind
  induction hn : b.data.length using Nat.strong_induction_on generalizing b with
  | _ n ih =>
    have hnext := b.next_eq hready le_rfl hw
    cases hs : (splitFrames b.data).1 with
    | nil =>
      rw [hs] at hnext
      rw [drainFrames_of_next_none hnext, splitFrames_snd_of_fst_nil hs]
    | cons f fs =>
      rw [hs] at hnext
      obtain ⟨hd, hle, -, hrest⟩ := splitFrames_drop_of_cons hs
      have hlt : (b.data.drop (headerSize + f.1.length)).length < n := by
        simp only [List.length_drop, headerSize] at hle ⊢
        omega
      have hready' : ({ b with data := b.data.drop (headerSize + f.1.length) } :
          FrameBuffer).awaitingPreface = false := hready
      rw [drainFrames_of_next_some hnext, ih _ hlt hready' (hw.of_decode? hd).2 rfl]
      simp [hrest]

theorem next_of_partial_preface (hawait : b.awaitingPreface = true) (hpre : b.data <+: preface)
    (hshort : b.data.length < preface.length) : b.next = (b, .ok none) := by
  have htake : b.takePreface = .ok none := by
    have hmin : min b.data.length preface.length = b.data.length := Nat.min_eq_left hshort.le
    unfold takePreface
    rw [if_neg (by simp [hawait])]
    dsimp only
    rw [hmin, if_neg (by rw [List.take_length, ← List.prefix_iff_eq_take.1 hpre]; simp),
      if_pos hshort]
  simp [next, htake]

theorem take_ne_preface_iff (bs : Bytes) :
    bs.take (min bs.length preface.length) ≠ preface.take (min bs.length preface.length) ↔
      ¬ bs <+: preface ∧ ¬ preface <+: bs := by
  rw [← not_or, not_iff_not]
  constructor
  · intro h
    rcases Nat.le_total bs.length preface.length with hle | hle
    · rw [Nat.min_eq_left hle, List.take_length] at h
      exact .inl (h ▸ List.take_prefix _ _)
    · rw [Nat.min_eq_right hle, List.take_length] at h
      exact .inr (h ▸ List.take_prefix _ _)
  · rintro (h | h)
    · rw [Nat.min_eq_left h.length_le, List.take_length, ← List.prefix_iff_eq_take.1 h]
    · rw [Nat.min_eq_right h.length_le, List.take_length, ← List.prefix_iff_eq_take.1 h]

theorem next_of_preface_mismatch (hawait : b.awaitingPreface = true) (hne : ¬ b.data <+: preface)
    (hne' : ¬ preface <+: b.data) :
    b.next = ({ b with data := [] }, .error .preamble) ∧
      ({ b with data := [] } : FrameBuffer).next.2 = .ok none := by
  have hdiff := (take_ne_preface_iff b.data).2 ⟨hne, hne'⟩
  refine ⟨by simp [next, takePreface, hawait, hdiff], ?_⟩
  have hempty : ({ b with data := [] } : FrameBuffer).awaitingPreface = true := hawait
  rw [next_of_partial_preface hempty List.nil_prefix (by simp [length_preface])]

theorem next_of_overlong (hpre : b.awaitingPreface = true → preface <+: b.data) {h : FrameHeader}
    (hd : FrameHeader.decode? b.ready.data = some h) (hlong : b.maxFrameSize < h.length) :
    b.next = ({ b.ready with data := [] }, .error (.overlong h.length b.maxFrameSize)) ∧
      ({ b.ready with data := [] } : FrameBuffer).next.2 = .ok none := by
  have htake : b.ready.takePreface = .ok (some b.ready) := by simp [takePreface]
  have hmax : b.ready.maxFrameSize = b.maxFrameSize := maxFrameSize_ready b
  refine ⟨?_, by simp [next, takePreface, FrameHeader.decode?]⟩
  rw [b.next_ready hpre]
  simp [next, htake, hd, hlong]

/-! ## One state after every first part of the octets -/

def afterPreface (withPreface : Bool) (p : Bytes) : Bytes :=
  if withPreface then p.drop preface.length else p

/-- The buffer of a fresh direction once the octets `p` were pushed and every whole frame split
off: the octets while the preface is incomplete, else what follows the last whole frame. -/
def settledAt (withPreface : Bool) (M : Nat) (p : Bytes) : FrameBuffer :=
  if withPreface = true ∧ p.length < preface.length then
    { data := p, awaitingPreface := true, maxFrameSize := M }
  else { data := (splitFrames (afterPreface withPreface p)).2, maxFrameSize := M }

/-- Octets a fresh direction's buffer splits without error: they agree with the preface it awaits
as far as both go, and every header at a frame boundary after it keeps within `M`. -/
structure Splittable (withPreface : Bool) (M : Nat) (bs : Bytes) : Prop where
  agrees : withPreface = true → bs <+: preface ∨ preface <+: bs
  within : FramesWithin M (afterPreface withPreface bs)

variable {w : Bool} {M : Nat}

theorem afterPreface_append {p : Bytes} (hp : w = true → preface.length ≤ p.length) (d : Bytes) :
    afterPreface w (p ++ d) = afterPreface w p ++ d := by
  cases w
  · rfl
  · exact List.drop_append_of_le_length (hp rfl)

theorem afterPreface_of_short {p : Bytes} (hw : w = true) (hp : p.length < preface.length) :
    afterPreface w p = [] := by
  simp [afterPreface, hw, List.drop_eq_nil_of_le hp.le]

theorem Splittable.of_append {p d : Bytes} (h : Splittable w M (p ++ d)) : Splittable w M p := by
  refine ⟨fun hw => ?_, ?_⟩
  · rcases h.agrees hw with hpd | hpd
    · exact .inl ((List.prefix_append p d).trans hpd)
    · rcases Nat.le_total p.length preface.length with hle | hle
      · exact .inl (List.prefix_of_prefix_length_le (List.prefix_append p d) hpd hle)
      · exact .inr (List.prefix_of_prefix_length_le hpd (List.prefix_append p d) hle)
  · by_cases hshort : w = true ∧ p.length < preface.length
    · rw [afterPreface_of_short hshort.1 hshort.2]
      exact framesWithin_nil M
    · have hp : w = true → preface.length ≤ p.length := fun hw => by
        have := not_and.1 hshort hw
        omega
      have hw := h.within
      rw [afterPreface_append hp] at hw
      exact hw.of_append_left

/-- One piece pushed and the frames split off: the buffer is settled after the longer first part,
and the frames handed out are those the piece completes. -/
theorem drainFrames_push_settledAt {p d : Bytes} (h : Splittable w M (p ++ d)) :
    ∃ out, ((settledAt w M p).push d).drainFrames = (settledAt w M (p ++ d), out, none) ∧
      (splitFrames (afterPreface w (p ++ d))).1 =
        (splitFrames (afterPreface w p)).1 ++ out := by
  have hlen : (p ++ d).length = p.length + d.length := List.length_append
  by_cases hp : w = true ∧ p.length < preface.length
  · obtain ⟨hw, hshort⟩ := hp
    have hpush : (settledAt w M p).push d =
        { data := p ++ d, awaitingPreface := true, maxFrameSize := M } := by
      simp [settledAt, hw, hshort, push]
    rw [hpush, afterPreface_of_short hw hshort]
    by_cases hpd : (p ++ d).length < preface.length
    · -- the preface is still incomplete: nothing to split off
      have hpre : p ++ d <+: preface := by
        rcases h.agrees hw with hpre | hpre
        · exact hpre
        · exact absurd hpre.length_le (by omega)
      refine ⟨[], ?_, by rw [afterPreface_of_short hw hpd, List.append_nil]⟩
      rw [drainFrames_of_next_none (next_of_partial_preface rfl hpre hpd), settledAt,
        if_pos ⟨hw, hpd⟩]
    · -- the piece completes the preface: what follows it is split as usual
      have hpre : preface <+: p ++ d := by
        rcases h.agrees hw with hpre | hpre
        · exact List.IsPrefix.eq_of_length hpre (le_antisymm hpre.length_le (by omega)) ▸
            List.prefix_refl _
        · exact hpre
      refine ⟨(splitFrames (afterPreface w (p ++ d))).1, ?_, by simp⟩
      rw [drainFrames_congr (next_ready _ fun _ => hpre)]
      have hw' : FramesWithin M ((p ++ d).drop preface.length) := by
        simpa [afterPreface, hw] using h.within
      rw [drainFrames_of_ready (by simp) (by simpa [ready] using hw')]
      have hnot : ¬ (w = true ∧ (p ++ d).length < preface.length) := fun h' => hpd h'.2
      rw [settledAt, if_neg hnot]
      simp [ready, afterPreface, hw]
  · have hlong : w = true → preface.length ≤ p.length := fun hw => by
      have := not_and.1 hp hw
      omega
    have hsettled : settledAt w M p =
        { data := (splitFrames (afterPreface w p)).2, maxFrameSize := M } := if_neg hp
    have hw : FramesWithin M ((splitFrames (afterPreface w p)).2 ++ d) := by
      have := h.within
      rw [afterPreface_append hlong] at this
      exact this.leftover_append
    have hnot : ¬ (w = true ∧ (p ++ d).length < preface.length) := by
      rintro ⟨hw', hlt⟩
      have := hlong hw'
      omega
    have hsplit : splitFrames (afterPreface w (p ++ d)) =
        ((splitFrames (afterPreface w p)).1 ++
            (splitFrames ((splitFrames (afterPreface w p)).2 ++ d)).1,
          (splitFrames ((splitFrames (afterPreface w p)).2 ++ d)).2) := by
      rw [afterPreface_append hlong, splitFrames_append]
    refine ⟨(splitFrames ((splitFrames (afterPreface w p)).2 ++ d)).1, ?_, by rw [hsplit]⟩
    rw [hsettled, drainFrames_of_ready rfl hw, settledAt, if_neg hnot, hsplit]
    rfl

theorem pushEach_settledAt :
    ∀ (ds : List Bytes) (p : Bytes), Splittable w M (p ++ ds.flatten) →
      ∃ outs : List (List (FrameHeader × Bytes)),
        (settledAt w M p).pushEach ds = (settledAt w M (p ++ ds.flatten), outs.map (·, none)) ∧
        (splitFrames (afterPreface w (p ++ ds.flatten))).1 =
          (splitFrames (afterPreface w p)).1 ++ outs.flatten
  | [], p, _ => ⟨[], by simp [pushEach]⟩
  | d :: ds, p, h => by
    have hd : Splittable w M (p ++ d) := by
      rw [List.flatten_cons, ← List.append_assoc] at h
      exact h.of_append
    obtain ⟨out, hdrain, hout⟩ := drainFrames_push_settledAt hd
    obtain ⟨outs, hrest, houts⟩ := pushEach_settledAt ds (p ++ d) (by simpa using h)
    refine ⟨out :: outs, ?_, ?_⟩
    · simp [pushEach, hdrain, hrest]
    · simp [← List.append_assoc, ← hout, houts]

theorem settledAt_nil (w : Bool) (M : Nat) :
    settledAt w M [] = if w then forClient M else forServer M := by
  cases w <;> simp [settledAt, afterPreface, forClient, forServer, length_preface]

end FrameBuffer

open FrameBuffer in
/-- **Frames pushed in pieces of any sizes.** A fresh buffer of bound `M`, awaiting the preface
or not, fed octets cut into pieces of any sizes:
* when they are the preface (if awaited), whole frames whose lengths keep within `M`, and the
  start of one more, the pushes hand out every frame, header and payload, in order, refuse
  nothing, and leave the start of the last frame buffered;
* when the buffer awaits the preface and they are a first part of it, nothing is handed out or
  refused, and all of them stay buffered;
* a buffer refuses octets that disagree with the preface it awaits, still awaiting it, and a
  front header longer than its bound; either way it drops every octet it holds, and the call after
  finds nothing to split off. -/
theorem pushEach_wireFrames (M : Nat) (withPreface : Bool) (ds : List Bytes) :
    let b₀ := if withPreface then forClient M else forServer M
    ((∀ (fs : List WireFrame) (t : Bytes), (∀ F ∈ fs, F.payload.length ≤ M) → Unfinished M t →
        ds.flatten = (if withPreface then preface else []) ++ fs.flatMap WireFrame.octets ++ t →
        (b₀.pushEach ds).2.flatMap (·.1) = fs.map WireFrame.split ∧
        (∀ o ∈ (b₀.pushEach ds).2, o.2 = none) ∧ (b₀.pushEach ds).1.pending = t.length) ∧
      (withPreface = true → ds.flatten <+: preface → ds.flatten.length < preface.length →
        (b₀.pushEach ds).2.flatMap (·.1) = [] ∧ (∀ o ∈ (b₀.pushEach ds).2, o.2 = none) ∧
        (b₀.pushEach ds).1.pending = ds.flatten.length)) ∧
    ∀ b : FrameBuffer,
      (b.awaitingPreface = true → ¬ b.data <+: preface → ¬ preface <+: b.data →
        b.next = ({ b with data := [] }, .error .preamble) ∧
          ({ b with data := [] } : FrameBuffer).next.2 = .ok none) ∧
      (∀ h : FrameHeader, (b.awaitingPreface = true → preface <+: b.data) →
        FrameHeader.decode? b.ready.data = some h → b.maxFrameSize < h.length →
        b.next = ({ b.ready with data := [] }, .error (.overlong h.length b.maxFrameSize)) ∧
          ({ b.ready with data := [] } : FrameBuffer).next.2 = .ok none) := by
  intro b₀
  have hrun : ∀ bs, ds.flatten = bs → Splittable withPreface M bs →
      ∃ outs : List (List (FrameHeader × Bytes)),
        b₀.pushEach ds = (settledAt withPreface M bs, outs.map (·, none)) ∧
        (splitFrames (afterPreface withPreface bs)).1 = outs.flatten := by
    rintro bs rfl hs
    obtain ⟨outs, h, hout⟩ := pushEach_settledAt ds [] hs
    rw [settledAt_nil] at h
    refine ⟨outs, by simpa using h, ?_⟩
    simpa [afterPreface_of_short, afterPreface, length_preface] using hout
  refine ⟨⟨fun fs t hfs ht hcat => ?_, fun hw hpre hshort => ?_⟩, fun b =>
    ⟨fun hawait hne hne' => next_of_preface_mismatch hawait hne hne',
      fun h hpre hd hlong => next_of_overlong hpre hd hlong⟩⟩
  · have hafter : afterPreface withPreface ds.flatten = fs.flatMap WireFrame.octets ++ t := by
      rw [hcat]
      cases withPreface <;> simp [afterPreface, List.append_assoc]
    have hs : Splittable withPreface M ds.flatten :=
      ⟨fun hw => .inr (by simp [hcat, hw, List.append_assoc]),
        hafter ▸ WireFrame.framesWithin_flatMap_octets hfs ht.framesWithin⟩
    obtain ⟨outs, hpush, hout⟩ := hrun _ rfl hs
    have hnot : ¬ (withPreface = true ∧ ds.flatten.length < preface.length) := by
      rintro ⟨hw, hlt⟩
      simp [hcat, hw] at hlt
    have hsplit : splitFrames (afterPreface withPreface ds.flatten) = (fs.map WireFrame.split, t) := by
      rw [hafter, WireFrame.splitFrames_flatMap_octets, ht.splitFrames_eq, List.append_nil]
    have hfinal : settledAt withPreface M ds.flatten = { data := t, maxFrameSize := M } := by
      rw [settledAt, if_neg hnot, hsplit]
    rw [hsplit] at hout
    refine ⟨?_, ?_, ?_⟩
    · simp [hpush, List.flatMap_map, ← hout]
    · simp [hpush]
    · rw [hpush, hfinal]
      rfl
  · obtain ⟨outs, hpush, hout⟩ := hrun _ rfl ⟨fun _ => .inl hpre, by
      rw [afterPreface_of_short hw hshort]; exact framesWithin_nil M⟩
    rw [afterPreface_of_short hw hshort, splitFrames_nil] at hout
    have hfinal : settledAt withPreface M ds.flatten =
        { data := ds.flatten, awaitingPreface := true, maxFrameSize := M } := by
      rw [settledAt, if_pos ⟨hw, hshort⟩]
    refine ⟨?_, ?_, ?_⟩
    · simp [hpush, List.flatMap_map, ← hout]
    · simp [hpush]
    · rw [hpush, hfinal]
      rfl

/-- A DATA frame of two octets after the preface, cut inside the preface and inside the frame, and
the start of one more header. -/
theorem pushEach_wireFrames_cut_preface :
    let F : WireFrame := ⟨[0, 0, 2, 0, 0, 0, 0, 0, 1], [104, 105], rfl, rfl⟩
    let ds := [preface.take 10, preface.drop 10 ++ F.octets.take 4, F.octets.drop 4 ++ [0, 0]]
    (∀ F' ∈ [F], F'.payload.length ≤ 16384) ∧ Unfinished 16384 [0, 0] ∧
      ds.flatten = preface ++ [F].flatMap WireFrame.octets ++ [0, 0] ∧
      ((FrameBuffer.forClient 16384).pushEach ds).2.flatMap (·.1) = [F.split] ∧
      (∀ o ∈ ((FrameBuffer.forClient 16384).pushEach ds).2, o.2 = none) ∧
      ((FrameBuffer.forClient 16384).pushEach ds).1.pending = 2 := by
  intro F ds
  have hF : ∀ F' ∈ [F], F'.payload.length ≤ 16384 := by simp [F]
  have ht : Unfinished 16384 [0, 0] :=
    ⟨⟨[0, 0, 0, 0, 0, 0, 0, 0, 1], [], rfl, rfl⟩, by decide, ⟨[0, 0, 0, 0, 0, 0, 1], rfl⟩,
      by decide⟩
  have hcat : ds.flatten = preface ++ [F].flatMap WireFrame.octets ++ [0, 0] := by
    simp only [ds, List.flatten_cons, List.flatten_nil, List.append_nil, List.flatMap_cons,
      List.flatMap_nil, List.append_assoc]
    rw [← List.append_assoc (preface.take 10), List.take_append_drop,
      ← List.append_assoc (F.octets.take 4), List.take_append_drop]
  exact ⟨hF, ht, hcat, (pushEach_wireFrames 16384 true ds).1.1 [F] [0, 0] hF ht hcat⟩

end Dissect.Http2
