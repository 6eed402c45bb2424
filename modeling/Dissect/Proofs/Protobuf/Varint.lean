import Mathlib
import Dissect.Protobuf.Dump

/-!
# Protobuf varints

A varint is at most ten octets, seven bits each, least significant first; every octet but the
last has its high bit set (`IsVarint`). The reader takes exactly such octets off the front and
returns the number their low seven bits spell, modulo `2^64` (`readVarint_eq_ok_iff`): bits past
the 64th, which only a tenth octet can carry, fall off. The shortest varint of a number below
`2^64` (`leb128`) is at most ten octets long and reads back as the number, whatever follows it.
-/

set_option autoImplicit false

namespace Dissect.Protobuf

def groupValue (bs : Bytes) : Nat :=
  ∑ i ∈ Finset.range bs.length, (bs.getD i 0 &&& 0x7f).toNat * 2 ^ (7 * i)

@[simp] theorem groupValue_nil : groupValue [] = 0 := rfl

theorem toNat_and_low (b : UInt8) : (b &&& 0x7f).toNat = b.toNat % 128 := by
  rw [UInt8.toNat_and]
  exact Nat.and_two_pow_sub_one_eq_mod _ 7

theorem groupValue_cons (b : UInt8) (bs : Bytes) :
    groupValue (b :: bs) = b.toNat % 128 + 128 * groupValue bs := by
  unfold groupValue
  rw [List.length_cons, Finset.sum_range_succ', Finset.mul_sum]
  simp only [List.getD_cons_succ, List.getD_cons_zero, toNat_and_low, Nat.mul_zero, pow_zero,
    Nat.mul_one]
  rw [Nat.add_comm]
  congr 1
  refine Finset.sum_congr rfl fun i _ => ?_
  rw [Nat.mul_add, pow_add]
  ring

def IsVarint (pre : Bytes) : Prop :=
  ∃ cont last, pre = cont ++ [last] ∧ (∀ b ∈ cont, 128 ≤ b.toNat) ∧ last.toNat < 128 ∧
    cont.length < 10

def varintOf (pre : Bytes) : Nat := groupValue pre % 2 ^ 64

theorem varintOf_lt (pre : Bytes) : varintOf pre < 2 ^ 64 := Nat.mod_lt _ (by positivity)

namespace IsVarint

theorem ne_nil {pre : Bytes} (h : IsVarint pre) : pre ≠ [] := by
  obtain ⟨cont, last, rfl, -⟩ := h
  simp

theorem length_le {pre : Bytes} (h : IsVarint pre) : pre.length ≤ 10 := by
  obtain ⟨cont, last, rfl, -, -, hlen⟩ := h
  simp only [List.length_append, List.length_singleton]
  omega

end IsVarint

/-! ## The reader -/

section Reader

variable {last : UInt8} {rest : Bytes}

theorem go_cons (i shift acc : Nat) (b : UInt8) (bs : Bytes) :
    readVarint.go i shift acc (b :: bs) =
      if b.toNat < 128 then .ok ((acc + b.toNat % 128 * 2 ^ shift) % 2 ^ 64, bs)
      else if i + 1 = 10 then .error .varintTooLong
      else readVarint.go (i + 1) (shift + 7) (acc + b.toNat % 128 * 2 ^ shift) bs := by
  rw [readVarint.go]
  simp only [Nat.pow_eq]

theorem go_append (rest : Bytes) :
    ∀ (cont : Bytes) (i shift acc : Nat), (∀ b ∈ cont, 128 ≤ b.toNat) → last.toNat < 128 →
      i + cont.length < 10 →
      readVarint.go i shift acc (cont ++ last :: rest) =
        .ok ((acc + 2 ^ shift * groupValue (cont ++ [last])) % 2 ^ 64, rest)
  | [], i, shift, acc, _, hlast, _ => by
    rw [List.nil_append, go_cons, if_pos hlast, List.nil_append, groupValue_cons, groupValue_nil]
    congr 3
    ring
  | b :: cont, i, shift, acc, hcont, hlast, hlen => by
    have hb : ¬ b.toNat < 128 := by
      have := hcont b List.mem_cons_self
      omega
    have hi : i + 1 ≠ 10 := by
      simp only [List.length_cons] at hlen
      omega
    rw [List.cons_append, go_cons, if_neg hb, if_neg hi,
      go_append rest cont (i + 1) (shift + 7) _ (fun b' hb' => hcont b' (List.mem_cons_of_mem b hb')) hlast
        (by simp only [List.length_cons] at hlen; omega),
      List.cons_append, groupValue_cons]
    congr 3
    rw [pow_add]
    ring

theorem go_eq_ok :
    ∀ {bs : Bytes} {i shift acc x : Nat}, i < 10 → readVarint.go i shift acc bs = .ok (x, rest) →
      ∃ cont last, bs = cont ++ last :: rest ∧ (∀ b ∈ cont, 128 ≤ b.toNat) ∧ last.toNat < 128 ∧
        i + cont.length < 10 ∧ x = (acc + 2 ^ shift * groupValue (cont ++ [last])) % 2 ^ 64
  | [], _, _, _, _, _, h => by simp [readVarint.go] at h
  | b :: bs, i, shift, acc, x, hi, h => by
    rw [go_cons] at h
    by_cases hb : b.toNat < 128
    · rw [if_pos hb] at h
      obtain ⟨rfl, rfl⟩ := Prod.mk.inj (Except.ok.inj h)
      refine ⟨[], b, rfl, by simp, hb, by simpa using hi, ?_⟩
      rw [List.nil_append, groupValue_cons, groupValue_nil]
      ring_nf
    · rw [if_neg hb] at h
      split_ifs at h with hten
      obtain ⟨cont, last, rfl, hcont, hlast, hlen, rfl⟩ := go_eq_ok (by omega) h
      refine ⟨b :: cont, last, rfl, ?_, hlast, by simp only [List.length_cons]; omega, ?_⟩
      · intro b' hb'
        rcases List.mem_cons.1 hb' with rfl | hb'
        · omega
        · exact hcont b' hb'
      · rw [List.cons_append, groupValue_cons, pow_add]
        ring_nf

end Reader

/-- The reader takes exactly one varint off the front of the octets and gives its groups modulo
`2^64`. -/
theorem readVarint_eq_ok_iff {bs rest : Bytes} {x : Nat} :
    readVarint bs = .ok (x, rest) ↔ ∃ pre, bs = pre ++ rest ∧ IsVarint pre ∧ x = varintOf pre := by
  constructor
  · intro h
    obtain ⟨cont, last, rfl, hcont, hlast, hlen, rfl⟩ := go_eq_ok (by decide) h
    refine ⟨cont ++ [last], by simp, ⟨cont, last, rfl, hcont, hlast, by simpa using hlen⟩, ?_⟩
    simp [varintOf]
  · rintro ⟨pre, rfl, ⟨cont, last, rfl, hcont, hlast, hlen⟩, rfl⟩
    have hgo := go_append rest cont 0 0 0 hcont hlast (by simpa using hlen)
    simpa [readVarint, varintOf] using hgo

theorem readVarint_append {pre : Bytes} (h : IsVarint pre) (rest : Bytes) :
    readVarint (pre ++ rest) = .ok (varintOf pre, rest) :=
  readVarint_eq_ok_iff.2 ⟨pre, rfl, h, rfl⟩

/-! ## The shortest varint of a number -/

/-- The shortest varint of a number: seven bits per octet, least significant first, the high bit
set on every octet but the last. -/
def leb128 (v : Nat) : Bytes :=
  if v < 128 then [v.toUInt8] else (v % 128 + 128).toUInt8 :: leb128 (v / 128)
termination_by v
decreasing_by omega

theorem leb128_of_lt {v : Nat} (h : v < 128) : leb128 v = [v.toUInt8] := by
  rw [leb128, if_pos h]

theorem leb128_of_le {v : Nat} (h : 128 ≤ v) :
    leb128 v = (v % 128 + 128).toUInt8 :: leb128 (v / 128) := by
  rw [leb128, if_neg (by omega)]

theorem toNat_toUInt8_of_lt {n : Nat} (h : n < 256) : n.toUInt8.toNat = n := by
  simp [Nat.mod_eq_of_lt h]

theorem leb128_shape (v : Nat) :
    ∃ cont last, leb128 v = cont ++ [last] ∧ (∀ b ∈ cont, 128 ≤ b.toNat) ∧ last.toNat < 128 ∧
      groupValue (leb128 v) = v := by
  induction v using Nat.strong_induction_on with
  | _ v ih =>
    by_cases hv : v < 128
    · have hbyte : v.toUInt8.toNat = v := toNat_toUInt8_of_lt (by omega)
      refine ⟨[], v.toUInt8, by rw [leb128_of_lt hv]; rfl, by simp, by omega, ?_⟩
      rw [leb128_of_lt hv, groupValue_cons, groupValue_nil, hbyte]
      omega
    · obtain ⟨cont, last, hshape, hcont, hlast, hval⟩ := ih (v / 128) (by omega)
      have hbyte : (v % 128 + 128).toUInt8.toNat = v % 128 + 128 :=
        toNat_toUInt8_of_lt (by omega)
      refine ⟨(v % 128 + 128).toUInt8 :: cont, last, by rw [leb128_of_le (by omega), hshape]; rfl,
        ?_, hlast, ?_⟩
      · intro b hb
        rcases List.mem_cons.1 hb with rfl | hb
        · omega
        · exact hcont b hb
      · rw [leb128_of_le (by omega), groupValue_cons, hval, hbyte]
        omega

theorem length_leb128_le : ∀ (k v : Nat), v < 2 ^ (7 * (k + 1)) → (leb128 v).length ≤ k + 1
  | 0, v, h => by
    rw [leb128_of_lt (by simpa using h)]
    rfl
  | k + 1, v, h => by
    by_cases hv : v < 128
    · rw [leb128_of_lt hv]
      simp
    · rw [leb128_of_le (by omega), List.length_cons]
      have hpow : 2 ^ (7 * (k + 1 + 1)) = 2 ^ (7 * (k + 1)) * 128 := by
        rw [show 7 * (k + 1 + 1) = 7 * (k + 1) + 7 by omega, pow_add]
        rfl
      have := length_leb128_le k (v / 128) (by rw [Nat.div_lt_iff_lt_mul (by decide)]; omega)
      omega

theorem isVarint_leb128 {v : Nat} (hv : v < 2 ^ 64) : IsVarint (leb128 v) := by
  obtain ⟨cont, last, hshape, hcont, hlast, -⟩ := leb128_shape v
  have hlen := length_leb128_le 9 v (by omega)
  rw [hshape, List.length_append, List.length_singleton] at hlen
  exact ⟨cont, last, hshape, hcont, hlast, by omega⟩

theorem varintOf_leb128 {v : Nat} (hv : v < 2 ^ 64) : varintOf (leb128 v) = v := by
  obtain ⟨-, -, -, -, -, hval⟩ := leb128_shape v
  rw [varintOf, hval, Nat.mod_eq_of_lt hv]

theorem leb128_ne_nil (v : Nat) : leb128 v ≠ [] := by
  by_cases hv : v < 128
  · simp [leb128_of_lt hv]
  · simp [leb128_of_le (by omega : 128 ≤ v)]

end Dissect.Protobuf
