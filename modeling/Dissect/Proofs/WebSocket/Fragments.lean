import Mathlib
import Dissect.WebSocket.Layer
import Dissect.Proofs.Dissection.Relational
import Dissect.Proofs.Dissection.Directions
import Dissect.Proofs.Http2.Layering

/-!
# Fragmented WebSocket messages

A message may come in fragments: a first data frame without FIN, continuations without FIN, and a
last continuation with FIN. Each stream keeps, per direction, the fragments that wait for the end
of their message. They are always none, or a frame that opens a data message followed by
continuations, none of them final, and fewer than the bound (`Stream.Pending`): each frame keeps
that so (`Stream.Pending.process`), and so does everything a dissection does between two frames.
-/

set_option autoImplicit false

namespace Dissect.WebSocket

open Dissecting

/-! ## Header bits -/

namespace Frame

theorem first_cons (b : UInt8) (rest payload : Bytes) :
    (⟨b :: rest, payload⟩ : Frame).first = b.toNat := rfl

theorem first_setFin (f : Frame) (h : f.header ≠ []) : f.setFin.first = f.first ||| 0x80 := by
  obtain ⟨_ | ⟨b, rest⟩, payload⟩ := f
  · exact absurd rfl h
  · simp only [setFin, mapFirst, first_cons, UInt8.toNat_or]
    rfl

theorem fin_setFin (f : Frame) (h : f.header ≠ []) : f.setFin.fin = true := by
  simp only [fin, f.first_setFin h, Nat.and_or_distrib_right, Nat.and_self, bne_iff_ne, ne_eq]
  intro h0
  have := Nat.or_eq_zero_iff.1 h0
  simp at this

theorem opcode_setFin (f : Frame) : f.setFin.opcode = f.opcode := by
  by_cases h : f.header = []
  · simp [setFin, mapFirst, h, opcode, first]
  · have hdisjoint : (0x80 &&& 0x0F : Nat) = 0 := by decide
    simp only [opcode, f.first_setFin h, Nat.and_or_distrib_right, hdisjoint, Nat.or_zero]

theorem rsv1_setFin (f : Frame) : f.setFin.rsv1 = f.rsv1 := by
  by_cases h : f.header = []
  · simp [setFin, mapFirst, h, rsv1, first]
  · have hdisjoint : (0x80 &&& 0x40 : Nat) = 0 := by decide
    simp only [rsv1, f.first_setFin h, Nat.and_or_distrib_right, hdisjoint, Nat.or_zero]

theorem isControl_setFin (f : Frame) : f.setFin.isControl = f.isControl := by
  simp only [isControl, f.opcode_setFin]

end Frame

/-! ## Fragments that wait -/

def Frame.Opens (f : Frame) : Prop :=
  f.fin = false ∧ f.isControl = false ∧ f.opcode ≠ continuationOpcode

def Frame.Continues (f : Frame) : Prop := f.fin = false ∧ f.opcode = continuationOpcode

/-- The fragments of an unfinished message: none, or one that opens it and continuations. -/
inductive Waiting : List Frame → Prop
  | none : Waiting []
  | message {first : Frame} {rest : List Frame} (opens : first.Opens)
      (continues : ∀ g ∈ rest, g.Continues) : Waiting (first :: rest)

theorem Waiting.push {p : List Frame} (h : Waiting p) {f : Frame} (hc : f.isControl = false)
    (hfin : f.fin = false) (hok : (f.opcode == continuationOpcode) ≠ p.isEmpty) :
    Waiting (p ++ [f]) := by
  cases h with
  | none =>
    have hop : f.opcode ≠ continuationOpcode := by simpa using hok
    exact .message ⟨hfin, hc, hop⟩ (by simp)
  | message opens continues =>
    have hop : f.opcode = continuationOpcode := by simpa using hok
    refine .message opens fun g hg => ?_
    rcases List.mem_append.1 hg with hg | hg
    · exact continues g hg
    · rw [List.mem_singleton.1 hg]
      exact ⟨hfin, hop⟩

theorem Waiting.continuation_of_append {p rest : List Frame} {g : Frame}
    (h : Waiting (p ++ g :: rest)) : (g.opcode == continuationOpcode) ≠ p.isEmpty := by
  cases p with
  | nil =>
    cases h with
    | message opens _ => simpa using opens.2.2
  | cons a p =>
    cases h with
    | message _ continues =>
      have hg := continues g (List.mem_append_right _ List.mem_cons_self)
      simp [hg.2]

/-! ## One frame -/

namespace Stream

variable (d : Direction) (m : Nat) {st : Stream} {f : Frame}

def clearing (st : Stream) : Stream := { st with fragments := st.fragments.set d [] }

theorem exec_process_control (hc : f.isControl = true) :
    exec (Stream.process d f m) st = (.ok (some f), st) := by
  simp [Stream.process, hc]

section NonFinal

variable (hc : f.isControl = false) (hfin : f.fin = false)
include hc hfin

theorem exec_process_misplaced
    (hmis : (f.opcode == continuationOpcode) = (st.fragments.get d).isEmpty) :
    exec (Stream.process d f m) st = (.error .invalidFragmentation, clearing d st) := by
  simp only [Stream.process, hc, hfin, Bool.false_eq_true, ↓reduceIte, Bool.not_false]
  rw [exec_bind, exec_get]
  dsimp only
  rw [if_pos (by simp [hmis])]
  simp only [exec_bind, exec_modify, exec_throw]
  rfl

theorem exec_process_wait
    (hok : (f.opcode == continuationOpcode) ≠ (st.fragments.get d).isEmpty)
    (hlt : (st.fragments.get d ++ [f]).length < m) :
    exec (Stream.process d f m) st =
      (.ok none, { st with fragments := st.fragments.set d (st.fragments.get d ++ [f]) }) := by
  simp only [Stream.process, hc, hfin, Bool.false_eq_true, ↓reduceIte, Bool.not_false]
  rw [exec_bind, exec_get]
  dsimp only
  rw [if_neg (by simpa using hok)]
  simp only [exec_bind, exec_set, Nat.not_le.2 hlt, ↓reduceIte, exec_pure]

theorem exec_process_tooMany
    (hok : (f.opcode == continuationOpcode) ≠ (st.fragments.get d).isEmpty)
    (hge : m ≤ (st.fragments.get d ++ [f]).length) :
    exec (Stream.process d f m) st =
      (.error (.tooManyFragments (st.fragments.get d ++ [f]).length), clearing d st) := by
  simp only [Stream.process, hc, hfin, Bool.false_eq_true, ↓reduceIte, Bool.not_false]
  rw [exec_bind, exec_get]
  dsimp only
  rw [if_neg (by simpa using hok)]
  simp only [exec_bind, exec_set, hge, ↓reduceIte, exec_modify, exec_throw, Sides.set_set]
  rfl

end NonFinal

section Final

variable (hc : f.isControl = false) (hfin : f.fin = true)
include hc hfin

theorem exec_process_join (hne : st.fragments.get d ≠ [])
    (hcont : f.opcode = continuationOpcode) :
    exec (Stream.process d f m) st =
      exec (some <$> Stream.inflate d (Frame.setFin ⟨((st.fragments.get d ++ [f]).headD f).header,
        (st.fragments.get d ++ [f]).flatMap (·.payload)⟩)) (clearing d st) := by
  have hne' : (st.fragments.get d).isEmpty = false := List.isEmpty_eq_false_iff.2 hne
  simp only [Stream.process, hc, hfin, Bool.false_eq_true, ↓reduceIte, Bool.not_true]
  rw [exec_bind, exec_get]
  dsimp only
  simp only [hne', hcont, beq_self_eq_true, Bool.not_false, Bool.not_true, Bool.false_eq_true,
    ↓reduceIte]
  rw [exec_bind, exec_modify]
  rfl

theorem exec_process_final_misplaced (hne : st.fragments.get d ≠ [])
    (hcont : f.opcode ≠ continuationOpcode) :
    exec (Stream.process d f m) st = (.error .invalidFragmentation, clearing d st) := by
  have hne' : (st.fragments.get d).isEmpty = false := List.isEmpty_eq_false_iff.2 hne
  have hb : (f.opcode == continuationOpcode) = false := by simpa using hcont
  simp only [Stream.process, hc, hfin, Bool.false_eq_true, ↓reduceIte, Bool.not_true]
  rw [exec_bind, exec_get]
  dsimp only
  simp only [hne', hb, Bool.not_false, ↓reduceIte]
  simp only [exec_bind, exec_modify, exec_throw]
  rfl

theorem exec_process_single (hemp : st.fragments.get d = [])
    (hcont : f.opcode ≠ continuationOpcode) :
    exec (Stream.process d f m) st = exec (some <$> Stream.inflate d f) st := by
  have hb : (f.opcode == continuationOpcode) = false := by simpa using hcont
  simp only [Stream.process, hc, hfin, Bool.false_eq_true, ↓reduceIte, Bool.not_true]
  rw [exec_bind, exec_get]
  dsimp only
  simp only [hemp, List.isEmpty_nil, hb, Bool.not_true, Bool.false_eq_true, ↓reduceIte]
  rw [exec_bind]
  rfl

theorem exec_process_orphan (hemp : st.fragments.get d = [])
    (hcont : f.opcode = continuationOpcode) :
    exec (Stream.process d f m) st = (.error .invalidFragmentation, st) := by
  simp only [Stream.process, hc, hfin, Bool.false_eq_true, ↓reduceIte, Bool.not_true]
  rw [exec_bind, exec_get]
  dsimp only
  simp only [hemp, List.isEmpty_nil, hcont, beq_self_eq_true, Bool.not_true, Bool.false_eq_true,
    ↓reduceIte]
  rfl

end Final

theorem inflate_state_cases (st : Stream) (f : Frame) :
    (exec (Stream.inflate d f) st).2 = st ∨
      ∃ inflaters inflater, st.deflate = some inflaters ∧
        (exec (Stream.inflate d f) st).2 = { st with deflate := some (inflaters.set d inflater) } := by
  unfold Stream.inflate
  cases f.rsv1
  · exact .inl rfl
  · rw [if_neg (by decide), exec_bind_of_ok (exec_get st)]
    rcases hd : st.deflate with _ | inflaters
    · exact .inl rfl
    · -- reducing this match makes the kernel run the inflater as far as a symbolic input lets
      -- it (seconds): done once here, and the callers cite this lemma instead of unfolding
      dsimp only
      refine .inr ⟨inflaters, ((inflaters.get d).inflate f.payload).1, rfl, ?_⟩
      rw [exec_bind_of_ok (exec_set _ st)]
      cases ((inflaters.get d).inflate f.payload).2 <;> rfl

theorem fragments_inflate (st : Stream) (f : Frame) :
    (exec (Stream.inflate d f) st).2.fragments = st.fragments := by
  rcases inflate_state_cases d st f with h | ⟨_, _, -, h⟩ <;> rw [h]

/-- In each direction, the fragments that wait make an unfinished message and are fewer than
`m`. -/
structure Pending (m : Nat) (st : Stream) : Prop where
  waiting : ∀ d, Waiting (st.fragments.get d)
  length_lt : ∀ d, (st.fragments.get d).length < m

theorem Pending.of_fragments {m : Nat} {st st' : Stream} (h : st.Pending m)
    (he : st'.fragments = st.fragments) : st'.Pending m :=
  ⟨fun d => he ▸ h.waiting d, fun d => he ▸ h.length_lt d⟩

theorem Pending.set {m : Nat} {st : Stream} (h : st.Pending m) {p : List Frame} (hw : Waiting p)
    (hl : p.length < m) : { st with fragments := st.fragments.set d p }.Pending m := by
  refine ⟨fun d' => ?_, fun d' => ?_⟩ <;> by_cases hd : d' = d
  · subst hd
    simpa using hw
  · rw [Direction.eq_opposite_of_ne hd, Sides.get_set_opposite]
    exact h.waiting d.opposite
  · subst hd
    simpa using hl
  · rw [Direction.eq_opposite_of_ne hd, Sides.get_set_opposite]
    exact h.length_lt d.opposite

theorem Pending.clearing {m : Nat} {st : Stream} (h : st.Pending m) : (clearing d st).Pending m :=
  h.set d .none (Nat.lt_of_le_of_lt (Nat.zero_le _) (h.length_lt d))

theorem Pending.inflate {m : Nat} {st : Stream} (h : st.Pending m) (f : Frame) :
    (exec (Stream.inflate d f) st).2.Pending m :=
  h.of_fragments (fragments_inflate d st f)

theorem Pending.process (h : st.Pending m) (f : Frame) :
    (exec (Stream.process d f m) st).2.Pending m := by
  by_cases hc : f.isControl = true
  · rw [exec_process_control d m hc]
    exact h
  have hc : f.isControl = false := by simpa using hc
  cases hfin : f.fin
  · -- a fragment without FIN waits, or fails and drops the others
    by_cases hmis : (f.opcode == continuationOpcode) = (st.fragments.get d).isEmpty
    · rw [exec_process_misplaced d m hc hfin hmis]
      exact h.clearing d
    by_cases hlt : (st.fragments.get d ++ [f]).length < m
    · rw [exec_process_wait d m hc hfin hmis hlt]
      exact h.set d ((h.waiting d).push hc hfin hmis) hlt
    · rw [exec_process_tooMany d m hc hfin hmis (Nat.le_of_not_lt hlt)]
      exact h.clearing d
  · -- a final frame ends the message that waits, or is one of its own
    by_cases hemp : st.fragments.get d = []
    · by_cases hcont : f.opcode = continuationOpcode
      · rw [exec_process_orphan d m hc hfin hemp hcont]
        exact h
      · rw [exec_process_single d m hc hfin hemp hcont, exec_map]
        exact h.inflate d f
    · by_cases hcont : f.opcode = continuationOpcode
      · rw [exec_process_join d m hc hfin hemp hcont, exec_map]
        exact (h.clearing d).inflate d _
      · rw [exec_process_final_misplaced d m hc hfin hemp hcont]
        exact h.clearing d

/-! ## A whole message -/

def fragmentsOf (xs : List Frame) : List Frame := xs.filter fun g => !g.isControl

def controlsOf (xs : List Frame) : List (Option Frame) :=
  xs.map fun g => if g.isControl then some g else none

@[simp] theorem fragmentsOf_cons_control {g : Frame} (hc : g.isControl = true) (xs : List Frame) :
    fragmentsOf (g :: xs) = fragmentsOf xs := by
  simp [fragmentsOf, hc]

@[simp] theorem fragmentsOf_cons_data {g : Frame} (hc : g.isControl = false) (xs : List Frame) :
    fragmentsOf (g :: xs) = g :: fragmentsOf xs := by
  simp [fragmentsOf, hc]

variable {d m}

theorem exec_mapM_process_cons {g : Frame} {xs : List Frame} {st st' : Stream} {o : Option Frame}
    (h : exec (Stream.process d g m) st = (.ok o, st')) :
    exec ((g :: xs).mapM fun g => Stream.process d g m) st =
      ((exec (xs.mapM fun g => Stream.process d g m) st').1.map (o :: ·),
        (exec (xs.mapM fun g => Stream.process d g m) st').2) :=
  exec_mapM_cons_of_ok h

theorem exec_mapM_process_waiting : ∀ (xs : List Frame) (st : Stream),
    Waiting (st.fragments.get d ++ fragmentsOf xs) →
    (∀ g ∈ fragmentsOf xs, g.fin = false) →
    (st.fragments.get d ++ fragmentsOf xs).length < m →
    exec (xs.mapM fun g => Stream.process d g m) st =
      (.ok (controlsOf xs),
        { st with fragments := st.fragments.set d (st.fragments.get d ++ fragmentsOf xs) })
  | [], st, _, _, _ => by simp [fragmentsOf, controlsOf]
  | g :: xs, st, hw, hfin, hlt => by
    by_cases hc : g.isControl = true
    · rw [fragmentsOf_cons_control hc] at hw hfin hlt ⊢
      rw [exec_mapM_process_cons (exec_process_control d m hc),
        exec_mapM_process_waiting xs st hw hfin hlt]
      simp [controlsOf, hc, Except.map]
    · have hc : g.isControl = false := by simpa using hc
      rw [fragmentsOf_cons_data hc] at hw hfin hlt ⊢
      have hgfin : g.fin = false := hfin g List.mem_cons_self
      have hok := Waiting.continuation_of_append hw
      have hwait := exec_process_wait d m hc hgfin hok (by simp at hlt ⊢; omega)
      rw [exec_mapM_process_cons hwait]
      have hrest := exec_mapM_process_waiting xs
        { st with fragments := st.fragments.set d (st.fragments.get d ++ [g]) }
        (by simpa using hw) (fun g' hg' => hfin g' (List.mem_cons_of_mem _ hg'))
        (by simpa using hlt)
      rw [hrest]
      simp [controlsOf, hc, Except.map]

theorem exec_mapM_process_tooMany : ∀ (xs : List Frame) (st : Stream),
    Waiting (st.fragments.get d ++ fragmentsOf xs) →
    (∀ g ∈ fragmentsOf xs, g.fin = false) →
    (st.fragments.get d).length < m → m ≤ (st.fragments.get d ++ fragmentsOf xs).length →
    exec (xs.mapM fun g => Stream.process d g m) st =
      (.error (.tooManyFragments m), clearing d st)
  | [], st, _, _, hlt, hge => by simp [fragmentsOf] at hge; omega
  | g :: xs, st, hw, hfin, hlt, hge => by
    by_cases hc : g.isControl = true
    · rw [fragmentsOf_cons_control hc] at hw hfin hge
      rw [exec_mapM_process_cons (exec_process_control d m hc),
        exec_mapM_process_tooMany xs st hw hfin hlt hge]
      rfl
    · have hc : g.isControl = false := by simpa using hc
      rw [fragmentsOf_cons_data hc] at hw hfin hge
      have hgfin : g.fin = false := hfin g List.mem_cons_self
      have hok := Waiting.continuation_of_append hw
      by_cases hnext : (st.fragments.get d ++ [g]).length < m
      · rw [exec_mapM_process_cons (exec_process_wait d m hc hgfin hok hnext)]
        rw [exec_mapM_process_tooMany xs _ (by simpa using hw)
          (fun g' hg' => hfin g' (List.mem_cons_of_mem _ hg')) (by simpa using hnext)
          (by simpa using hge)]
        simp [clearing, Except.map]
      · have hcount : (st.fragments.get d ++ [g]).length = m := by
          simp at hnext hlt ⊢
          omega
        rw [List.mapM_cons, exec_bind,
          exec_process_tooMany d m hc hgfin hok (Nat.le_of_not_lt hnext), hcount]

theorem exec_mapM_process_singleton (g : Frame) (st : Stream) :
    exec ([g].mapM fun g => Stream.process d g m) st =
      ((exec (Stream.process d g m) st).1.map (fun o => [o]), (exec (Stream.process d g m) st).2) := by
  rw [List.mapM_cons, exec_bind]
  rcases exec (Stream.process d g m) st with ⟨r, st'⟩
  cases r <;> rfl

theorem isControl_of_continuation {g : Frame} (h : g.opcode = continuationOpcode) :
    g.isControl = false := by
  simp [Frame.isControl, h, continuationOpcode]

/-- A message in fragments, with control frames among them, from a stream with nothing waiting:
below the bound it is given back as one frame, the first fragment's header with FIN set over all
the payloads, inflated as a single final frame would be, after the control frames; at the bound
it fails with that many fragments, and nothing is left waiting. -/
theorem process_message {st : Stream} (hnone : st.fragments.get d = [])
    {first last : Frame} {middles xs : List Frame} (hfirst : first.Opens)
    (hmiddles : ∀ g ∈ middles, g.Continues)
    (hlast : last.fin = true ∧ last.opcode = continuationOpcode)
    (hxs : fragmentsOf xs = first :: middles) :
    (middles.length + 1 < m →
      exec ((xs ++ [last]).mapM fun g => Stream.process d g m) st =
        exec ((fun g => controlsOf xs ++ [some g]) <$> Stream.inflate d
          (Frame.setFin ⟨first.header, (first :: middles ++ [last]).flatMap (·.payload)⟩)) st) ∧
    (0 < m → m ≤ middles.length + 1 →
      exec ((xs ++ [last]).mapM fun g => Stream.process d g m) st =
        (.error (.tooManyFragments m), st)) := by
  have hw : Waiting (st.fragments.get d ++ fragmentsOf xs) := by
    rw [hnone, hxs]
    exact .message hfirst hmiddles
  have hfin : ∀ g ∈ fragmentsOf xs, g.fin = false := by
    rw [hxs]
    intro g hg
    rcases List.mem_cons.1 hg with rfl | hg
    · exact hfirst.1
    · exact (hmiddles g hg).1
  have hclear : clearing d st = st := by
    simp only [clearing, ← hnone, Sides.set_get]
  refine ⟨fun hlt => ?_, fun hpos hge => ?_⟩
  · have hwait := exec_mapM_process_waiting xs st hw hfin (by simp [hnone, hxs]; omega)
    rw [exec_mapM_append_of_ok [last] hwait, exec_mapM_process_singleton]
    have hget : ({ st with fragments := st.fragments.set d (st.fragments.get d ++ fragmentsOf xs) } :
        Stream).fragments.get d = first :: middles := by
      simp [hnone, hxs]
    have hjoin := exec_process_join d m (isControl_of_continuation hlast.2) hlast.1
      (hget ▸ List.cons_ne_nil first middles) hlast.2
    have hclear' : clearing d
        { st with fragments := st.fragments.set d (st.fragments.get d ++ fragmentsOf xs) } = st := by
      simpa [clearing] using hclear
    have hhead : (first :: middles ++ [last]).headD last = first := rfl
    rw [hjoin, hget, hclear', hhead, exec_map, exec_map]
    refine Prod.ext ?_ rfl
    dsimp only
    cases (exec (Stream.inflate d _) st).1 <;> rfl
  · rw [List.mapM_append, exec_bind,
      exec_mapM_process_tooMany xs st hw hfin (by simpa [hnone] using hpos)
        (by simp [hnone, hxs]; omega), hclear]

theorem keep_renderFrames_of_process {R : Stream → Stream → Prop}
    (hp : ∀ f, Keep R (Stream.process d f m)) :
    ∀ (fuel : Nat) (shown : List Bytes) (rest : Bytes),
      Keep R (Stream.renderFrames d m fuel shown rest) := by
  intro fuel
  -- one frame is parsed and processed with each unit of fuel
  induction fuel with
  | zero => exact fun _ _ _ _ h => h
  | succ fuel ih =>
    intro shown rest st t h
    simp only [Stream.renderFrames]
    split
    · exact keepAt_pure _ h
    · split
      · exact keepAt_pure _ h
      · exact KeepAt.bind (hp _ st t h) fun _ st' h' => ih _ _ st' t h'

theorem keep_renderFrames (d : Direction) (m : Nat) : ∀ (fuel : Nat) (shown : List Bytes)
    (rest : Bytes), Keep (fun st (_ : Stream) => st.Pending m) (Stream.renderFrames d m fuel shown rest) :=
  keep_renderFrames_of_process fun f _ _ h => h.process d m f

theorem pending_fresh {m : Nat} (hm : 0 < m) (deflate : Option (Sides Inflater)) (negotiated : Bool) :
    ({ deflate, negotiated } : Stream).Pending m :=
  ⟨fun d => by cases d <;> exact .none, fun d => by cases d <;> exact hm⟩

end Stream

/-! ## Every stream of a conversation -/

namespace State

/-- Every stream keeps its waiting fragments an unfinished message below the bound, and the bound
lets a fragment wait. -/
structure Pending (w : State) : Prop where
  pos : 0 < w.maxPending
  streams : ∀ p ∈ w.streams, p.2.Pending w.maxPending

theorem Pending.stream? {w : State} (h : w.Pending) {id : Nat} {st : Stream}
    (hs : w.stream? id = some st) : st.Pending w.maxPending := by
  obtain ⟨l₁, l₂, hl, _⟩ := List.lookup_eq_some_iff.1 hs
  exact h.streams (id, st) (hl ▸ List.mem_append_right _ List.mem_cons_self)

theorem Pending.setStream {w : State} (h : w.Pending) (id : Nat) {st : Stream}
    (hst : st.Pending w.maxPending) : (w.setStream id st).Pending := by
  refine ⟨h.pos, fun p hp => ?_⟩
  rcases List.mem_cons.1 hp with rfl | hp
  · exact hst
  · exact h.streams p (List.mem_of_mem_filter hp)

theorem Pending.newStream {w : State} (h : w.Pending) (extensions : List Extension) :
    (w.newStream extensions).Pending w.maxPending :=
  Stream.pending_fresh h.pos _ _

theorem keep_renderFrames (d : Direction) (id : Nat) (data : Bytes) :
    Keep (fun w (_ : State) => w.Pending) (State.renderFrames d id data) := by
  intro w t h
  unfold State.renderFrames
  refine keepAt_get_bind ?_
  split
  · exact keepAt_pure _ h
  · rename_i st hst
    have hget : ((w.stream? id).getD st).Pending w.maxPending := by
      simp only [hst, Option.getD_some]
      exact h.stream? hst
    unfold KeepAt
    rw [exec_within]
    exact h.setStream id
      (Stream.keep_renderFrames d w.maxPending (data.length + 1) [] data _ st hget)

theorem keep_http1Frames (c : Chunk) (pre data : Bytes) :
    Keep (fun w (_ : State) => w.Pending) (State.http1Frames c pre data) := fun w t h =>
  KeepAt.bind (keep_renderFrames _ _ _ w t h) fun _ _ h' => keepAt_pure _ h'

end State

/-! ## The hooks of WebSocket -/

section Hooks

open State

theorem keep_pending_rawChunk (c : Chunk) :
    Keep (fun w (_ : State) => w.Pending) (extension.rawChunk c) := by
  intro w t h
  dsimp only [extension]
  refine keepAt_get_bind ?_
  split
  · exact keepAt_pure _ h
  · refine KeepAt.recovering ?_ _
    unfold KeepAt
    rw [exec_map]
    exact keep_http1Frames c [] c.content w t h

theorem keep_pending_request (c : Chunk) (r : Http1.Request) :
    Keep (fun w (_ : State) => w.Pending) (extension.request c r) := by
  intro w t h
  dsimp only [extension]
  split
  · exact keepAt_pure _ h
  · split
    · exact KeepAt.bind (keepAt_modify ⟨h.pos, h.streams⟩) fun _ _ h' => keepAt_pure _ h'
    · exact keepAt_pure _ h

theorem keep_pending_response (c : Chunk) (r : Http1.Response) :
    Keep (fun w (_ : State) => w.Pending) (extension.response c r) := by
  intro w t h
  dsimp only [extension]
  split
  · exact keepAt_pure _ h
  · refine keepAt_get_bind ?_
    split
    · split
      · exact keepAt_throw_bind h
      · have hnew : (w.setStream http1Stream
            { w.newStream (extensionsOf (r.headers.get? "sec-websocket-extensions")) with
              negotiated := true }).Pending :=
          h.setStream _ (Stream.pending_fresh h.pos _ _)
        refine KeepAt.bind (keepAt_modify ⟨hnew.pos, hnew.streams⟩) fun _ w' h' => ?_
        exact KeepAt.bind (keep_http1Frames _ _ _ w' t h') fun _ _ h'' => keepAt_pure _ h''
    · exact keepAt_throw _ h

theorem keep_pending_headers (d : Direction) (f : Http2.Frame) (hs : Http2.HeaderList) :
    Keep (fun w (_ : State) => w.Pending) (extension.headers d f hs) := by
  intro w t h
  dsimp only [extension]
  split
  · refine keepAt_get_bind ?_
    split
    · exact keepAt_pure _ h
    · split
      · exact keepAt_pure _ h
      · split
        · exact keepAt_pure _ h
        · exact keepAt_set (h.setStream _ (h.newStream _))
  · refine keepAt_get_bind ?_
    split
    · rename_i st hst
      split
      · exact keepAt_set (h.setStream _ ((h.stream? hst).of_fragments rfl))
      · exact keepAt_pure _ h
    · exact keepAt_pure _ h

theorem keep_pending_frame (d : Direction) (f : Http2.Frame) :
    Keep (fun w (_ : State) => w.Pending) (extension.frame d f) := by
  intro w t h
  dsimp only [extension]
  split
  · split
    · exact KeepAt.bind (keepAt_modify ⟨h.pos, h.streams⟩) fun _ _ h' => keepAt_pure _ h'
    · exact keepAt_pure _ h
  · refine keepAt_get_bind ?_
    split
    · exact keepAt_pure _ h
    · refine KeepAt.bind (keep_renderFrames _ _ _ w t h) fun _ _ h' => ?_
      split <;> exact keepAt_pure _ h'
  · exact keepAt_pure _ h

theorem extension_keeps_pending : extension.Keeps fun w (_ : State) => w.Pending where
  rawChunk := keep_pending_rawChunk
  request := keep_pending_request
  response := keep_pending_response
  headers := keep_pending_headers
  frame := keep_pending_frame

end Hooks

/-! ## Fragments over a whole conversation -/

/-- In every state a WebSocket dissection reaches, every stream keeps its waiting fragments an
unfinished message below the bound; each frame keeps that so; and a message in fragments is
given back as one joined frame below the bound and fails at it. -/
theorem fragments_pending_and_joined :
    (∀ (config : Config) (s : Http2.Session State),
      extension.hooks.Reachable
        { ext := { maxPending := config.normalize.maxPendingFragments,
                   maxInflated := config.normalize.maxInflatedSize },
          maxFrameSize := config.normalize.maxFrameSize,
          maxInflated := config.normalize.maxInflatedSize } s →
      s.ext.Pending) ∧
    (∀ (m : Nat) (st : Stream) (d : Direction) (f : Frame), st.Pending m →
      (exec (Stream.process d f m) st).2.Pending m) ∧
    (∀ (d : Direction) (m : Nat) (st : Stream) (first last : Frame) (middles xs : List Frame),
      st.fragments.get d = [] → first.Opens → (∀ g ∈ middles, g.Continues) →
      last.fin = true ∧ last.opcode = continuationOpcode →
      Stream.fragmentsOf xs = first :: middles →
      (middles.length + 1 < m →
        exec ((xs ++ [last]).mapM fun g => Stream.process d g m) st =
          exec ((fun g => Stream.controlsOf xs ++ [some g]) <$> Stream.inflate d
            (Frame.setFin ⟨first.header, (first :: middles ++ [last]).flatMap (·.payload)⟩)) st) ∧
      (0 < m → m ≤ middles.length + 1 →
        exec ((xs ++ [last]).mapM fun g => Stream.process d g m) st =
          (.error (.tooManyFragments m), st))) := by
  refine ⟨fun config s hs => ?_, fun m st d f h => h.process d m f,
    fun d m st first last middles xs hnone hfirst hmiddles hlast hxs =>
      Stream.process_message hnone hfirst hmiddles hlast hxs⟩
  have hstart : State.Pending
      { maxPending := config.normalize.maxPendingFragments,
        maxInflated := config.normalize.maxInflatedSize } :=
    ⟨Nat.lt_of_lt_of_le Nat.zero_lt_one (Nat.le_max_right _ _), fun _ hp => absurd hp List.not_mem_nil⟩
  exact hs.invariant (fun u => u.ext.Pending) hstart fun c u t hu =>
    extension_keeps_pending.chunk c u t hu

/-- A text message in two fragments is given back as one final frame over both payloads, and the
first fragment waits in shape. -/
theorem fragments_joined_text_message :
    let first : Frame := ⟨[0x01, 0x01], [0x61]⟩
    let last : Frame := ⟨[0x80, 0x01], [0x62]⟩
    (exec ([first, last].mapM fun g => Stream.process .client g 50)
        ({ deflate := none } : Stream)).1 = .ok [none, some ⟨[0x81, 0x01], [0x61, 0x62]⟩] ∧
      (exec (Stream.process .client first 50) ({ deflate := none } : Stream)).2.Pending 50 := by
  intro first last
  obtain ⟨_, hstep, hmsg⟩ := fragments_pending_and_joined
  have hjoined := (hmsg .client 50 { deflate := none } first last [] [first] rfl
    ⟨by decide, by decide, by decide⟩ (by simp) ⟨by decide, by decide⟩ (by decide)).1 (by decide)
  refine ⟨?_, hstep 50 { deflate := none } .client first (Stream.pending_fresh (by decide) _ _)⟩
  rw [show [first, last] = [first] ++ [last] from rfl, hjoined]
  have hjoin : Frame.setFin ⟨first.header, ([first] ++ [last]).flatMap (·.payload)⟩ =
      ⟨[0x81, 0x01], [0x61, 0x62]⟩ := by
    decide
  have hrsv1 : (⟨[0x81, 0x01], [0x61, 0x62]⟩ : Frame).rsv1 = false := by decide
  have hcontrols : Stream.controlsOf [first] = [none] := by decide
  simp only [hjoin, Stream.inflate, hrsv1, Bool.not_false, ↓reduceIte, exec_map, exec_pure,
    hcontrols]
  rfl

end Dissect.WebSocket
