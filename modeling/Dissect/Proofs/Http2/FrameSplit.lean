import Mathlib
import Dissect.Http2.FrameBuffer
import Dissect.Proofs.Text.Utf8

/-!
# The frames of a direction's octets

`splitFrames` takes apart the frames a side sends after the preface. Reading the octets in two
pieces splits off the same frames as reading them at once, and a frame buffer splits off exactly
these frames as long as no header declares more than its bound.
-/

set_option autoImplicit false

namespace Dissect.Http2

namespace FrameHeader

theorem headerSize_le_of_decode? {bs : Bytes} {h : FrameHeader} (hd : decode? bs = some h) :
    headerSize ≤ bs.length := by
  match bs, hd with
  | _ :: _ :: _ :: _ :: _ :: _ :: _ :: _ :: _ :: rest, _ => simp [headerSize]

theorem decode?_append {bs : Bytes} {h : FrameHeader} (hd : decode? bs = some h) (ys : Bytes) :
    decode? (bs ++ ys) = some h := by
  match bs, hd with
  | _ :: _ :: _ :: _ :: _ :: _ :: _ :: _ :: _ :: rest, hd => exact hd

end FrameHeader

/-- The whole frames at the front of the octets, each as its header and payload, and the octets
after them. -/
def splitFrames (bs : Bytes) : List (FrameHeader × Bytes) × Bytes :=
  match _hd : FrameHeader.decode? bs with
  | none => ([], bs)
  | some h =>
    if bs.length < headerSize + h.length then ([], bs)
    else
      let rest := splitFrames (bs.drop (headerSize + h.length))
      ((h, (bs.take (headerSize + h.length)).drop headerSize) :: rest.1, rest.2)
termination_by bs.length
decreasing_by
  have := FrameHeader.headerSize_le_of_decode? _hd
  simp only [List.length_drop, headerSize] at *
  omega

theorem splitFrames_of_decode?_none {bs : Bytes} (hd : FrameHeader.decode? bs = none) :
    splitFrames bs = ([], bs) := by
  rw [splitFrames]
  split <;> simp_all

theorem splitFrames_of_lt {bs : Bytes} {h : FrameHeader} (hd : FrameHeader.decode? bs = some h)
    (hlt : bs.length < headerSize + h.length) : splitFrames bs = ([], bs) := by
  rw [splitFrames]
  split
  · rfl
  · simp_all

theorem splitFrames_of_le {bs : Bytes} {h : FrameHeader} (hd : FrameHeader.decode? bs = some h)
    (hle : headerSize + h.length ≤ bs.length) :
    splitFrames bs =
      ((h, (bs.take (headerSize + h.length)).drop headerSize) ::
          (splitFrames (bs.drop (headerSize + h.length))).1,
        (splitFrames (bs.drop (headerSize + h.length))).2) := by
  rw [splitFrames]
  split
  · simp_all
  · rename_i h' hd'
    obtain rfl : h' = h := Option.some.inj (hd'.symm.trans hd)
    rw [if_neg (by omega)]

/-- Splitting octets read in two pieces: the frames of the first piece, then those of what it
left over followed by the second piece. -/
theorem splitFrames_append (xs ys : Bytes) :
    splitFrames (xs ++ ys) =
      ((splitFrames xs).1 ++ (splitFrames ((splitFrames xs).2 ++ ys)).1,
        (splitFrames ((splitFrames xs).2 ++ ys)).2) := by
  induction xs using splitFrames.induct with
  | case1 xs hd => simp [splitFrames_of_decode?_none hd]
  | case2 xs h hd hlt => simp [splitFrames_of_lt hd hlt]
  | case3 xs h hd hle ih =>
    have hle' : headerSize + h.length ≤ xs.length := by omega
    have hdrop : (xs ++ ys).drop (headerSize + h.length) = xs.drop (headerSize + h.length) ++ ys :=
      List.drop_append_of_le_length hle'
    have htake : (xs ++ ys).take (headerSize + h.length) = xs.take (headerSize + h.length) :=
      List.take_append_of_le_length hle'
    rw [splitFrames_of_le (FrameHeader.decode?_append hd ys) (by simp; omega),
      splitFrames_of_le hd hle', hdrop, htake, ih]
    simp

theorem splitFrames_leftover (bs : Bytes) :
    splitFrames (splitFrames bs).2 = ([], (splitFrames bs).2) := by
  induction bs using splitFrames.induct with
  | case1 bs hd => rw [splitFrames_of_decode?_none hd, splitFrames_of_decode?_none hd]
  | case2 bs h hd hlt => rw [splitFrames_of_lt hd hlt, splitFrames_of_lt hd hlt]
  | case3 bs h hd hle ih => rw [splitFrames_of_le hd (by omega)]; exact ih

theorem length_splitFrames_le (bs : Bytes) : (splitFrames bs).1.length ≤ bs.length := by
  induction bs using splitFrames.induct with
  | case1 bs hd => simp [splitFrames_of_decode?_none hd]
  | case2 bs h hd hlt => simp [splitFrames_of_lt hd hlt]
  | case3 bs h hd hle ih =>
    rw [splitFrames_of_le hd (by omega)]
    simp only [List.length_cons, List.length_drop, headerSize] at ih hle ⊢
    omega

/-- Every header at a frame boundary of the octets declares at most `n` octets of payload, the
header of an unfinished last frame included. -/
def FramesWithin (n : Nat) (bs : Bytes) : Prop :=
  match _hd : FrameHeader.decode? bs with
  | none => True
  | some h => h.length ≤ n ∧ FramesWithin n (bs.drop (headerSize + h.length))
termination_by bs.length
decreasing_by
  have := FrameHeader.headerSize_le_of_decode? _hd
  simp only [List.length_drop, headerSize] at *
  omega

theorem framesWithin_of_decode?_none {n : Nat} {bs : Bytes} (hd : FrameHeader.decode? bs = none) :
    FramesWithin n bs := by
  rw [FramesWithin]
  split <;> simp_all

theorem FramesWithin.of_decode? {n : Nat} {bs : Bytes} {h : FrameHeader}
    (hw : FramesWithin n bs) (hd : FrameHeader.decode? bs = some h) :
    h.length ≤ n ∧ FramesWithin n (bs.drop (headerSize + h.length)) := by
  rw [FramesWithin] at hw
  split at hw
  · simp_all
  · rename_i h' hd'
    obtain rfl : h' = h := Option.some.inj (hd'.symm.trans hd)
    exact hw

theorem framesWithin_nil (n : Nat) : FramesWithin n [] := framesWithin_of_decode?_none rfl

theorem FramesWithin.leftover_append {n : Nat} {xs ys : Bytes} (hw : FramesWithin n (xs ++ ys)) :
    FramesWithin n ((splitFrames xs).2 ++ ys) := by
  induction xs using splitFrames.induct with
  | case1 xs hd => rwa [splitFrames_of_decode?_none hd]
  | case2 xs h hd hlt => rwa [splitFrames_of_lt hd hlt]
  | case3 xs h hd hle ih =>
    have hle' : headerSize + h.length ≤ xs.length := by omega
    rw [splitFrames_of_le hd hle']
    apply ih
    have hnext := (hw.of_decode? (FrameHeader.decode?_append hd ys)).2
    rwa [List.drop_append_of_le_length hle'] at hnext

theorem splitFrames_drop_of_cons {bs : Bytes} {f : FrameHeader × Bytes}
    {fs : List (FrameHeader × Bytes)} (hs : (splitFrames bs).1 = f :: fs) :
    FrameHeader.decode? bs = some f.1 ∧ headerSize + f.1.length ≤ bs.length ∧
      f.2 = (bs.take (headerSize + f.1.length)).drop headerSize ∧
      splitFrames (bs.drop (headerSize + f.1.length)) = (fs, (splitFrames bs).2) := by
  rcases hd : FrameHeader.decode? bs with _ | h
  · rw [splitFrames_of_decode?_none hd] at hs
    cases hs
  · by_cases hlt : bs.length < headerSize + h.length
    · rw [splitFrames_of_lt hd hlt] at hs
      cases hs
    · rw [splitFrames_of_le hd (by omega)] at hs ⊢
      simp only [List.cons.injEq] at hs
      obtain ⟨rfl, rfl⟩ := hs
      exact ⟨rfl, by dsimp only; omega, rfl, rfl⟩

@[simp] theorem splitFrames_nil : splitFrames [] = ([], []) := splitFrames_of_decode?_none rfl

theorem splitFrames_snd_of_fst_nil {bs : Bytes} (h : (splitFrames bs).1 = []) :
    (splitFrames bs).2 = bs := by
  rcases hd : FrameHeader.decode? bs with _ | hdr
  · rw [splitFrames_of_decode?_none hd]
  · by_cases hlt : bs.length < headerSize + hdr.length
    · rw [splitFrames_of_lt hd hlt]
    · rw [splitFrames_of_le hd (by omega)] at h
      cases h

theorem framesWithin_of_decode? {n : Nat} {bs : Bytes} {h : FrameHeader}
    (hd : FrameHeader.decode? bs = some h) (hle : h.length ≤ n)
    (hrest : FramesWithin n (bs.drop (headerSize + h.length))) : FramesWithin n bs := by
  rw [FramesWithin]
  split
  · trivial
  · rename_i h' hd'
    obtain rfl : h' = h := Option.some.inj (hd'.symm.trans hd)
    exact ⟨hle, hrest⟩

theorem FramesWithin.of_append_left {n : Nat} {xs ys : Bytes} (hw : FramesWithin n (xs ++ ys)) :
    FramesWithin n xs := by
  induction xs using splitFrames.induct with
  | case1 xs hd => exact framesWithin_of_decode?_none hd
  | case2 xs h hd hlt =>
    -- the last header of `xs` is unfinished there, but whole in `xs ++ ys`
    have hnext := hw.of_decode? (FrameHeader.decode?_append hd ys)
    refine framesWithin_of_decode? hd hnext.1 ?_
    rw [List.drop_eq_nil_of_le (by omega)]
    exact framesWithin_nil n
  | case3 xs h hd hle ih =>
    have hle' : headerSize + h.length ≤ xs.length := by omega
    have hnext := hw.of_decode? (FrameHeader.decode?_append hd ys)
    rw [List.drop_append_of_le_length hle'] at hnext
    exact framesWithin_of_decode? hd hnext.1 (ih hnext.2)

namespace FrameBuffer

theorem next_eq (b : FrameBuffer) {n : Nat} (hready : b.awaitingPreface = false)
    (hmax : n ≤ b.maxFrameSize) (hw : FramesWithin n b.data) :
    b.next = match (splitFrames b.data).1 with
      | [] => (b, .ok none)
      | f :: _ => ({ b with data := b.data.drop (headerSize + f.1.length) }, .ok (some f)) := by
  have htake : b.takePreface = .ok (some b) := by simp [takePreface, hready]
  unfold next
  rw [htake]
  dsimp only
  rcases hd : FrameHeader.decode? b.data with _ | h
  · rw [splitFrames_of_decode?_none hd]
  · dsimp only
    have hlen : ¬ h.length > b.maxFrameSize := by
      have := (hw.of_decode? hd).1
      omega
    rw [if_neg hlen]
    by_cases hlt : b.data.length < headerSize + h.length
    · rw [splitFrames_of_lt hd hlt]
      simp [List.splitAt_eq, hlt]
    · rw [splitFrames_of_le hd (by omega)]
      simp [List.splitAt_eq, hlt]

theorem length_preface : preface.length = 24 := by
  rw [preface, Bytes.length_ofString]
  decide

theorem next_of_preface (b : FrameBuffer) (hawait : b.awaitingPreface = true)
    (hp : preface <+: b.data) :
    b.next = { b with data := b.data.drop preface.length, awaitingPreface := false }.next := by
  obtain ⟨rest, hrest⟩ := hp
  have hlen : preface.length ≤ b.data.length := by rw [← hrest]; simp
  have htake : b.data.take preface.length = preface := by rw [← hrest]; simp
  have hb : b.takePreface =
      .ok (some { b with data := b.data.drop preface.length, awaitingPreface := false }) := by
    simp [takePreface, hawait, Nat.min_eq_right hlen, htake]
  have hb' : ({ b with data := b.data.drop preface.length, awaitingPreface := false } :
      FrameBuffer).takePreface =
      .ok (some { b with data := b.data.drop preface.length, awaitingPreface := false }) := by
    simp [takePreface]
  unfold next
  rw [hb, hb']

def ready (b : FrameBuffer) : FrameBuffer :=
  if b.awaitingPreface then { b with data := b.data.drop preface.length, awaitingPreface := false }
  else b

@[simp] theorem awaitingPreface_ready (b : FrameBuffer) : b.ready.awaitingPreface = false := by
  unfold ready
  split_ifs with h
  · rfl
  · simpa using h

@[simp] theorem maxFrameSize_ready (b : FrameBuffer) : b.ready.maxFrameSize = b.maxFrameSize := by
  unfold ready
  split_ifs <;> rfl

theorem data_ready (b : FrameBuffer) :
    b.ready.data = if b.awaitingPreface then b.data.drop preface.length else b.data := by
  unfold ready
  split_ifs <;> rfl

theorem ready_of_not_awaiting {b : FrameBuffer} (h : b.awaitingPreface = false) : b.ready = b := by
  simp [ready, h]

theorem length_ready_data_le (b : FrameBuffer) : b.ready.data.length ≤ b.data.length := by
  unfold ready
  split_ifs
  · simp
  · rfl

theorem next_ready (b : FrameBuffer) (hp : b.awaitingPreface = true → preface <+: b.data) :
    b.next = b.ready.next := by
  unfold ready
  split_ifs with h
  · exact b.next_of_preface h (hp h)
  · rfl

theorem data_ready_push_append (b : FrameBuffer) {a c : Bytes}
    (hpre : b.awaitingPreface = true → preface <+: b.data ++ a) :
    (b.push (a ++ c)).ready.data = (b.push a).ready.data ++ c := by
  simp only [data_ready, push]
  split_ifs with h
  · obtain ⟨rest, hrest⟩ := hpre h
    have hlen : preface.length ≤ (b.data ++ a).length := by rw [← hrest]; simp
    rw [← List.append_assoc, List.drop_append_of_le_length hlen]
  · rw [List.append_assoc]

/-! ## Buffers that split off their frames without error -/

/-- A buffer that splits off its frames without error: the preface, if awaited, is whole, the
bound is in range, and no header declares more than the smallest bound. -/
structure Sound (b : FrameBuffer) : Prop where
  preface : b.awaitingPreface = true → preface <+: b.data
  bound : Config.minFrameSize ≤ b.maxFrameSize
  within : FramesWithin Config.minFrameSize b.ready.data

theorem Sound.next_eq {b : FrameBuffer} (h : b.Sound) :
    b.next = match (splitFrames b.ready.data).1 with
      | [] => (b.ready, .ok none)
      | f :: _ =>
        ({ b.ready with data := b.ready.data.drop (headerSize + f.1.length) }, .ok (some f)) := by
  rw [b.next_ready h.preface, FrameBuffer.next_eq b.ready (by simp) (by simpa using h.bound) h.within]

theorem Sound.drop {b : FrameBuffer} (h : b.Sound) {f : FrameHeader × Bytes}
    {fs : List (FrameHeader × Bytes)} (hs : (splitFrames b.ready.data).1 = f :: fs) :
    ({ b.ready with data := b.ready.data.drop (headerSize + f.1.length) } : FrameBuffer).Sound := by
  obtain ⟨hd, -, -, -⟩ := splitFrames_drop_of_cons hs
  refine ⟨fun h' => by simp at h', by simpa using h.bound, ?_⟩
  rw [ready_of_not_awaiting (by simp)]
  exact (h.within.of_decode? hd).2

/-- A buffer between two chunks in frame mode: the preface taken, its bound in range, and no whole
frame left in it. -/
structure Settled (b : FrameBuffer) : Prop where
  ready : b.awaitingPreface = false
  bound : Config.minFrameSize ≤ b.maxFrameSize
  split : (splitFrames b.data).1 = []

theorem Settled.ready_push {b : FrameBuffer} (h : b.Settled) (data : Bytes) :
    (b.push data).ready = b.push data :=
  ready_of_not_awaiting (by simpa [push] using h.ready)

theorem Settled.sound_push {b : FrameBuffer} (h : b.Settled) {data : Bytes}
    (hw : FramesWithin Config.minFrameSize (b.data ++ data)) : (b.push data).Sound := by
  refine ⟨fun ha => ?_, by simpa [push] using h.bound, ?_⟩
  · simp [push, h.ready] at ha
  · rw [h.ready_push]
    exact hw

/-- Two buffers split off the same frames from here on, as long as no header declares more than
the smallest bound: the same octets, the same state of the preface, and bounds no smaller. -/
structure Alike (b b' : FrameBuffer) : Prop where
  data : b.data = b'.data
  awaitingPreface : b.awaitingPreface = b'.awaitingPreface
  bound : Config.minFrameSize ≤ b.maxFrameSize
  bound' : Config.minFrameSize ≤ b'.maxFrameSize

theorem Alike.refl {b : FrameBuffer} (h : Config.minFrameSize ≤ b.maxFrameSize) : b.Alike b :=
  ⟨rfl, rfl, h, h⟩

theorem Alike.trans {b b' b'' : FrameBuffer} (h₁ : b.Alike b') (h₂ : b'.Alike b'') :
    b.Alike b'' :=
  ⟨h₁.data.trans h₂.data, h₁.awaitingPreface.trans h₂.awaitingPreface, h₁.bound, h₂.bound'⟩

theorem Alike.setMaxFrameSize {b b' : FrameBuffer} (h : b.Alike b') (size : Nat) :
    (b.setMaxFrameSize size).Alike b' :=
  ⟨h.data, h.awaitingPreface, (Config.clampFrameSize_mem size).1, h.bound'⟩

theorem Alike.ready_push_data {b b' : FrameBuffer} (h : b.Alike b') (data : Bytes) :
    (b.push data).ready.data = (b'.push data).ready.data := by
  simp [data_ready, push, h.data, h.awaitingPreface]

theorem Alike.sound_push {b b' : FrameBuffer} (h : b.Alike b') {data : Bytes}
    (hb : (b.push data).Sound) : (b'.push data).Sound := by
  refine ⟨fun ha => ?_, h.bound', ?_⟩
  · have := hb.preface (by simpa [push, h.awaitingPreface] using ha)
    simpa [push, h.data] using this
  · rw [← h.ready_push_data]
    exact hb.within

end FrameBuffer

end Dissect.Http2
