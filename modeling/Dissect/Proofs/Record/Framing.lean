import Dissect.Proofs.Bytes.BigEndian
import Dissect.Record.Buffer

/-!
# Cutting records out of reads

A buffer cuts records out of what it receives by the lengths in their headers alone, so where
the reads of the channel begin and end makes no difference.
-/

set_option autoImplicit false

namespace Dissect.Record

namespace Header

/-- A written header is read back, whatever follows it. -/
@[simp] theorem decode?_encode_append (h : Header) (rest : Bytes) :
    decode? (h.encode ++ rest) = some h := by
  obtain ⟨s0, s1, s2, s3, hs, hsv⟩ := Bytes.ofBeNat_four h.sequence.toNat
  obtain ⟨l0, l1, l2, l3, hl, hlv⟩ := Bytes.ofBeNat_four h.payloadLength.toNat
  have hseq : (Bytes.beNat [s0, s1, s2, s3]).toUInt32 = h.sequence := by
    rw [hsv, Nat.mod_eq_of_lt h.sequence.toNat_lt]
    simp
  have hlen : (Bytes.beNat [l0, l1, l2, l3]).toUInt32 = h.payloadLength := by
    rw [hlv, Nat.mod_eq_of_lt h.payloadLength.toNat_lt]
    simp
  simp [encode, hs, hl, decode?, hseq, hlen]

theorem decode?_append {bs : Bytes} {h : Header} (hd : decode? bs = some h) (rest : Bytes) :
    decode? (bs ++ rest) = some h := by
  unfold decode? at hd ⊢
  split at hd
  · simpa using hd
  · simp at hd

end Header

def Accepted (limit : UInt32) (r : Record) : Prop :=
  r.header.validate limit = .ok () ∧ r.header.payloadLength.toNat = r.payload.length

def Sendable (limit : UInt32) (r : Record) : Prop :=
  r.header.kind = conversationKind ∧ r.header.flags &&& reservedMask = 0 ∧
    r.header.payloadLength ≤ limit ∧ r.header.payloadLength.toNat = r.payload.length

instance (limit : UInt32) (r : Record) : Decidable (r.Sendable limit) :=
  inferInstanceAs (Decidable (_ ∧ _ ∧ _ ∧ _))

theorem Sendable.accepted {limit : UInt32} {r : Record} (h : r.Sendable limit) :
    r.Accepted limit := by
  obtain ⟨hk, hf, hl, hlen⟩ := h
  refine ⟨?_, hlen⟩
  have hle : ¬ r.header.payloadLength > limit := UInt32.not_lt.mpr hl
  simp [Header.validate, hk, hf, hle]

namespace Buffer

variable {limit : UInt32}

@[simp] theorem limit_extract (awaiting : Option Header) (pending : Bytes) :
    (extract limit awaiting pending).1.limit = limit := by
  fun_induction extract limit awaiting pending <;> simp_all

def Settled (b : Buffer) : Prop := extract b.limit b.awaiting b.pending = (b, .ok [])

theorem settled_empty (limit : UInt32) : (empty limit).Settled := by
  simp [Settled, empty, extract, Header.decode?]

theorem settled_extract {awaiting : Option Header} {pending : Bytes} {b : Buffer}
    {rs : List Record} (h : extract limit awaiting pending = (b, .ok rs)) : b.Settled := by
  fun_induction extract limit awaiting pending generalizing b rs with
  | case1 pending hd payload =>
    rename_i short
    cases h
    rw [Settled, extract]
    simp only [payload] at short
    simp only [short, if_true]
  | case2 pending hd payload long b' out hrest =>
    rename_i ih
    simp only [Prod.mk.injEq] at h
    obtain ⟨rfl, hout⟩ := h
    cases out with
    | error e => cases hout
    | ok rs' => exact ih hrest
  | case3 pending hd =>
    cases h
    rw [Settled, extract]
    split <;> simp_all
  | case4 => cases h
  | case5 pending hd hdec hvalid hzero b' out hrest ih =>
    simp only [Prod.mk.injEq] at h
    obtain ⟨rfl, hout⟩ := h
    cases out with
    | error e => cases hout
    | ok rs' => exact ih hrest
  | case6 pending hd hdec hvalid hzero ih => exact ih h

private theorem map_nil_append (r : Except Fault (List Record)) : r.map ([] ++ ·) = r := by
  cases r <;> rfl

private theorem map_cons_map_append (r : Except Fault (List Record)) (x : Record)
    (xs : List Record) : (r.map (xs ++ ·)).map (x :: ·) = r.map ((x :: xs) ++ ·) := by
  cases r <;> rfl

theorem extract_append {awaiting : Option Header} {pending : Bytes} {b : Buffer}
    {rs : List Record} (h : extract limit awaiting pending = (b, .ok rs)) (more : Bytes) :
    extract limit awaiting (pending ++ more) =
      ((extract limit b.awaiting (b.pending ++ more)).1,
        (extract limit b.awaiting (b.pending ++ more)).2.map (rs ++ ·)) := by
  fun_induction extract limit awaiting pending generalizing b rs with
  | case1 pending hd payload =>
    cases h
    rw [map_nil_append]
  | case2 pending hd payload long b' out hrest =>
    rename_i ih
    simp only [Prod.mk.injEq] at h
    obtain ⟨rfl, hout⟩ := h
    cases out with
    | error e => cases hout
    | ok rs' =>
      cases hout
      simp only [payload] at long ⊢
      have hle : hd.payloadLength.toNat ≤ pending.length := by
        simp only [List.length_take] at long
        omega
      conv => lhs; rw [extract]
      simp only [List.take_append_of_le_length hle, List.drop_append_of_le_length hle, long,
        if_false, ih hrest, map_cons_map_append]
  | case3 pending hd =>
    cases h
    rw [map_nil_append]
  | case4 => cases h
  | case5 pending hd hdec hvalid hzero b' out hrest ih =>
    simp only [Prod.mk.injEq] at h
    obtain ⟨rfl, hout⟩ := h
    cases out with
    | error e => cases hout
    | ok rs' =>
      cases hout
      have hle : headerSize ≤ pending.length := Header.decode?_length pending hd hdec
      conv => lhs; rw [extract]
      split
      · rename_i hnone
        rw [Header.decode?_append hdec more] at hnone
        cases hnone
      · rename_i hd' hdec'
        rw [Header.decode?_append hdec more] at hdec'
        cases hdec'
        simp only [hvalid, hzero, if_true, List.drop_append_of_le_length hle, ih hrest,
          map_cons_map_append]
  | case6 pending hd hdec hvalid hzero ih =>
    have hle : headerSize ≤ pending.length := Header.decode?_length pending hd hdec
    conv => lhs; rw [extract]
    split
    · rename_i hnone
      rw [Header.decode?_append hdec more] at hnone
      cases hnone
    · rename_i hd' hdec'
      rw [Header.decode?_append hdec more] at hdec'
      cases hdec'
      simp only [hvalid, hzero, if_false, List.drop_append_of_le_length hle]
      exact ih h

theorem extract_append_of_error {awaiting : Option Header} {pending : Bytes} {b : Buffer}
    {e : Fault} (h : extract limit awaiting pending = (b, .error e)) (more : Bytes) :
    (extract limit awaiting (pending ++ more)).2 = .error e := by
  fun_induction extract limit awaiting pending generalizing b with
  | case1 => cases h
  | case2 pending hd payload long b' out hrest =>
    rename_i ih
    simp only [Prod.mk.injEq] at h
    obtain ⟨rfl, hout⟩ := h
    cases out with
    | ok rs' => cases hout
    | error e' =>
      cases hout
      simp only [payload] at long ⊢
      have hle : hd.payloadLength.toNat ≤ pending.length := by
        simp only [List.length_take] at long
        omega
      rw [extract]
      simp only [List.take_append_of_le_length hle, List.drop_append_of_le_length hle, long,
        if_false, ih hrest]
      rfl
  | case3 => cases h
  | case4 pending hd hdec e' hinvalid =>
    cases h
    rw [extract]
    split
    · rename_i hnone
      rw [Header.decode?_append hdec more] at hnone
      cases hnone
    · rename_i hd' hdec'
      rw [Header.decode?_append hdec more] at hdec'
      cases hdec'
      simp only [hinvalid]
  | case5 pending hd hdec hvalid hzero b' out hrest ih =>
    simp only [Prod.mk.injEq] at h
    obtain ⟨rfl, hout⟩ := h
    cases out with
    | ok rs' => cases hout
    | error e' =>
      cases hout
      have hle : headerSize ≤ pending.length := Header.decode?_length pending hd hdec
      rw [extract]
      split
      · rename_i hnone
        rw [Header.decode?_append hdec more] at hnone
        cases hnone
      · rename_i hd' hdec'
        rw [Header.decode?_append hdec more] at hdec'
        cases hdec'
        simp only [hvalid, hzero, if_true, List.drop_append_of_le_length hle, ih hrest]
        rfl
  | case6 pending hd hdec hvalid hzero ih =>
    have hle : headerSize ≤ pending.length := Header.decode?_length pending hd hdec
    rw [extract]
    split
    · rename_i hnone
      rw [Header.decode?_append hdec more] at hnone
      cases hnone
    · rename_i hd' hdec'
      rw [Header.decode?_append hdec more] at hdec'
      cases hdec'
      simp only [hvalid, hzero, if_false, List.drop_append_of_le_length hle]
      exact ih h

theorem push_append {b b' : Buffer} {xs : Bytes} {rs : List Record}
    (h : b.push xs = (b', .ok rs)) (ys : Bytes) :
    b.push (xs ++ ys) = ((b'.push ys).1, (b'.push ys).2.map (rs ++ ·)) := by
  have hlimit : b'.limit = b.limit := by
    rw [← @limit_extract b.limit b.awaiting (b.pending ++ xs)]
    exact congrArg (·.1.limit) h.symm
  unfold push at h ⊢
  rw [← List.append_assoc, extract_append h, hlimit]

theorem push_append_of_error {b b' : Buffer} {xs : Bytes} {e : Fault}
    (h : b.push xs = (b', .error e)) (ys : Bytes) : (b.push (xs ++ ys)).2 = .error e := by
  unfold push at h ⊢
  rw [← List.append_assoc]
  exact extract_append_of_error h ys

theorem extract_encode_append {r : Record} (hr : r.Accepted limit) (rest : Bytes) :
    extract limit none (r.encode ++ rest) =
      ((extract limit none rest).1, (extract limit none rest).2.map (r :: ·)) := by
  rcases r with ⟨h, payload⟩
  obtain ⟨hvalid, hlen⟩ := hr
  dsimp only at hvalid hlen
  rw [extract]
  split
  · rename_i hnone
    simp [Record.encode] at hnone
  · rename_i h' hdec
    simp only [Record.encode, List.append_assoc, Header.decode?_encode_append,
      Option.some.injEq] at hdec
    subst hdec
    simp only [hvalid]
    by_cases hzero : h.payloadLength = 0
    · have hnil : payload = [] := by
        rw [← List.length_eq_zero_iff, ← hlen, hzero]
        rfl
      subst hnil
      simp [hzero, Record.encode]
    · rw [if_neg hzero, extract]
      simp [Record.encode, hlen]

theorem extract_flatMap_encode_append {rs : List Record} (hrs : ∀ r ∈ rs, r.Accepted limit)
    (rest : Bytes) :
    extract limit none (rs.flatMap Record.encode ++ rest) =
      ((extract limit none rest).1, (extract limit none rest).2.map (rs ++ ·)) := by
  induction rs with
  | nil => rw [List.flatMap_nil, List.nil_append, map_nil_append]
  | cons r rs ih =>
    have hr := hrs r (by simp)
    rw [List.flatMap_cons, List.append_assoc, extract_encode_append hr,
      ih fun r' h' => hrs r' (by simp [h'])]
    simp only [map_cons_map_append]

theorem extract_of_prefix {r : Record} (hr : r.Accepted limit) {q : Bytes}
    (hq : q <+: r.encode) (hlt : q.length < r.encode.length) :
    (extract limit none q).2 = .ok [] ∧ ((extract limit none q).1.isEmpty = true ↔ q = []) := by
  rcases r with ⟨h, payload⟩
  obtain ⟨hvalid, hlen⟩ := hr
  dsimp only at hvalid hlen
  by_cases hshort : q.length < headerSize
  · have hnone : Header.decode? q = none := by
      cases hd : Header.decode? q with
      | none => rfl
      | some h => exact absurd (Header.decode?_length q h hd) (by omega)
    rw [extract]
    split
    · simp [isEmpty, List.isEmpty_iff]
    · rename_i h hsome
      rw [hnone] at hsome
      cases hsome
  · have htake : q = h.encode ++ payload.take (q.length - headerSize) := by
      calc q = (h.encode ++ payload).take q.length := List.prefix_iff_eq_take.mp hq
        _ = h.encode ++ payload.take (q.length - headerSize) := by
          rw [List.take_append, List.take_of_length_le (by simp; omega), Header.length_encode]
    have hlt' : q.length - headerSize < h.payloadLength.toNat := by
      simp [Record.encode, headerSize] at hlt hshort ⊢
      omega
    generalize hp : payload.take (q.length - headerSize) = p at htake
    have hplen : p.length < h.payloadLength.toNat := by
      rw [← hp, List.length_take]
      omega
    subst htake
    have hne : h.encode ≠ [] := by
      rw [← List.length_pos_iff, Header.length_encode]
      decide
    rw [extract]
    split
    · rename_i hnone
      simp at hnone
    · rename_i h' hdec
      simp only [Header.decode?_encode_append, Option.some.injEq] at hdec
      subst hdec
      have hzero : h.payloadLength ≠ 0 := by
        intro hz
        rw [hz] at hplen
        simp at hplen
      have hshort' : min h.payloadLength.toNat p.length < h.payloadLength.toNat := by omega
      simp only [hvalid, if_neg hzero]
      rw [extract]
      simp [hshort', isEmpty, hne]

end Buffer

end Dissect.Record
