import Mathlib
import Dissect.Proofs.Deflate.Steps

/-!
# Stored blocks

A stored block carries its octets as they are (RFC 1951, section 3.2.4). The decoder reads one
from its header to its end, emitting its octets, and passes from one block header to the next.
-/

set_option autoImplicit false

namespace Dissect.Deflate

open Reading

namespace Bits

theorem bit_of_octet : ∀ (v : UInt8) (i : Fin 8),
    ((v >>> (i : Nat).toUInt8) &&& 1 == 1) = decide ((v.toNat >>> (i : Nat)) % 2 = 1) := by
  decide +kernel

theorem bit?_of_byte {data : ByteArray} {k i : Nat} {v : UInt8} (hv : data[k]? = some v)
    (hi : i < 8) :
    (⟨data, 8 * k + i⟩ : Bits).bit? =
      some (decide ((v.toNat >>> i) % 2 = 1), ⟨data, 8 * k + (i + 1)⟩) := by
  have hk : k < data.size := by
    by_contra hk
    rw [getElem?_neg data k hk] at hv
    cases hv
  have hdiv : (8 * k + i) / 8 = k := by omega
  have hmod : (8 * k + i) % 8 = i := by omega
  rw [← bit_of_octet v ⟨i, hi⟩]
  simp [bit?, hdiv, hmod, hv, show 8 * k + i < data.size * 8 by omega, Nat.add_assoc]

theorem take?_of_byte {data : ByteArray} {k : Nat} {v : UInt8} (hv : data[k]? = some v) :
    ∀ (n i : Nat), i + n ≤ 8 →
      (⟨data, 8 * k + i⟩ : Bits).take? n = some ((v.toNat >>> i) % 2 ^ n, ⟨data, 8 * k + i + n⟩)
  | 0, i, _ => by simp [take?, Nat.mod_one]
  | n + 1, i, hn => by
    have hbit := bit?_of_byte hv (show i < 8 by omega)
    have hrest := take?_of_byte hv n (i + 1) (by omega)
    have hval : (if decide ((v.toNat >>> i) % 2 = 1) = true then 1 else 0) +
        2 * ((v.toNat >>> (i + 1)) % 2 ^ n) = (v.toNat >>> i) % 2 ^ (n + 1) := by
      rw [pow_succ', Nat.mod_mul, Nat.shiftRight_succ]
      rcases Nat.mod_two_eq_zero_or_one (v.toNat >>> i) with h | h <;> simp [h]
    simp only [take?, hbit, Option.bind_eq_bind, Option.bind_some, hrest, Option.pure_def,
      hval, Option.some.injEq, Prod.mk.injEq, Bits.mk.injEq, true_and]
    omega

theorem take?_add : ∀ (m n : Nat) (b : Bits), b.take? (m + n) =
    (b.take? m).bind fun (x, b₁) => (b₁.take? n).map fun (y, b₂) => (x + 2 ^ m * y, b₂)
  | 0, n, b => by
    cases h : b.take? n with
    | none => simp [take?, h]
    | some r => simp [take?, h]
  | m + 1, n, b => by
    rw [Nat.add_right_comm]
    cases hb : b.bit? with
    | none => simp [take?, hb]
    | some p =>
      obtain ⟨x, b₁⟩ := p
      have ih := take?_add m n b₁
      cases hm : b₁.take? m with
      | none => simp [take?, hb, ih, hm]
      | some q =>
        obtain ⟨y, b₂⟩ := q
        cases hn : b₂.take? n with
        | none => simp [take?, hb, ih, hm, hn]
        | some r =>
          simp only [take?, hb, ih, hm, hn, Option.bind_eq_bind, Option.bind_some,
            Option.map_some, Option.pure_def, Option.some.injEq, Prod.mk.injEq, and_true]
          ring

theorem take?_two_bytes {data : ByteArray} {k : Nat} {lo hi : UInt8}
    (hlo : data[k]? = some lo) (hhi : data[k + 1]? = some hi) :
    (⟨data, 8 * k⟩ : Bits).take? 16 = some (lo.toNat + 256 * hi.toNat, ⟨data, 8 * k + 16⟩) := by
  have hfirst := take?_of_byte hlo 8 0 (by omega)
  have hsecond := take?_of_byte hhi 8 0 (by omega)
  rw [Nat.add_zero, Nat.shiftRight_zero, Nat.mod_eq_of_lt lo.toNat_lt] at hfirst
  rw [Nat.add_zero, Nat.shiftRight_zero, Nat.mod_eq_of_lt hi.toNat_lt,
    show 8 * (k + 1) = 8 * k + 8 by omega] at hsecond
  rw [show (16 : Nat) = 8 + 8 from rfl, take?_add]
  simp [hfirst, hsecond]

end Bits

theorem bits_of_take? {n : Nat} {b : Bits} {r : Nat × Bits} (h : b.take? n = some r) :
    bits n b = .ok r := by
  simp [bits, h]

def storedHead (n : Nat) : Bytes :=
  [0, (n % 256).toUInt8, (n / 256).toUInt8, ((65535 - n) % 256).toUInt8,
    ((65535 - n) / 256).toUInt8]

def storedBlock (x : Bytes) : Bytes := storedHead x.length ++ x

theorem toByteArray_getElem? (l : Bytes) (i : Nat) : l.toByteArray[i]? = l[i]? := by
  by_cases hi : i < l.length
  · rw [getElem?_pos _ _ (by simpa using hi), List.getElem?_eq_getElem hi,
      List.getElem_toByteArray]
  · rw [getElem?_neg _ _ (by simpa using hi), List.getElem?_eq_none (by omega)]

theorem extract_block (pre blk post : Bytes) :
    (pre ++ blk ++ post).toByteArray.extract pre.length (pre.length + blk.length) =
      blk.toByteArray := by
  rw [List.toByteArray_append, ByteArray.extract_append, List.toByteArray_append,
    ByteArray.extract_append_eq_right (by simp) (by simp), ByteArray.size_append,
    List.size_toByteArray, List.size_toByteArray, Nat.sub_self,
    Nat.sub_eq_zero_of_le (Nat.le_add_right _ _), ByteArray.extract_same, ByteArray.append_empty]

theorem getElem?_block (pre blk post : Bytes) {i : Nat} (hi : i < blk.length) :
    (pre ++ blk ++ post).toByteArray[pre.length + i]? = blk[i]? := by
  rw [toByteArray_getElem?, List.append_assoc, List.getElem?_append_right (by omega),
    Nat.add_sub_cancel_left, List.getElem?_append_left hi]

theorem blockHeader_storedAt {data : ByteArray} {k n : Nat} {final : Bool} (hn : n < 65536)
    (h0 : data[k]? = some (if final then 1 else 0)) (h1 : data[k + 1]? = some (n % 256).toUInt8)
    (h2 : data[k + 1 + 1]? = some (n / 256).toUInt8)
    (h3 : data[k + 3]? = some ((65535 - n) % 256).toUInt8)
    (h4 : data[k + 3 + 1]? = some ((65535 - n) / 256).toUInt8) :
    blockHeader ⟨data, 8 * k⟩ = .ok (.stored n final, ⟨data, 8 * (k + 5)⟩) := by
  -- the header octet is 0 or 1: the final bit, then the type bits 00 for "stored"
  have hfinal : bits 1 ⟨data, 8 * k⟩ = .ok (if final then 1 else 0, ⟨data, 8 * k + 1⟩) :=
    bits_of_take? (by cases final <;> simpa using Bits.take?_of_byte h0 1 0 (by omega))
  have htype : bits 2 ⟨data, 8 * k + 1⟩ = .ok (0, ⟨data, 8 * k + 3⟩) :=
    bits_of_take? (by cases final <;> simpa using Bits.take?_of_byte h0 2 1 (by omega))
  have halign : Bits.align ⟨data, 8 * k + 3⟩ = ⟨data, 8 * (k + 1)⟩ := by
    simp only [Bits.align, Bits.mk.injEq, true_and]
    omega
  have hlen : bits 16 ⟨data, 8 * (k + 1)⟩ = .ok (n, ⟨data, 8 * (k + 3)⟩) := by
    apply bits_of_take?
    rw [Bits.take?_two_bytes h1 h2]
    simp
    omega
  have hnlen : bits 16 ⟨data, 8 * (k + 3)⟩ = .ok (65535 - n, ⟨data, 8 * (k + 5)⟩) := by
    apply bits_of_take?
    rw [Bits.take?_two_bytes h3 h4]
    simp
    omega
  have hmodify : (modify Bits.align : Reading Unit) ⟨data, 8 * k + 3⟩ =
      .ok ((), ⟨data, 8 * (k + 1)⟩) := by
    rw [← halign]
    rfl
  unfold blockHeader
  rw [bind_of_ok hfinal, bind_of_ok htype]
  simp only
  rw [bind_of_ok hmodify, bind_of_ok hlen, bind_of_ok hnlen, if_neg (by omega)]
  cases final <;> rfl

theorem storedRun_extract {data : ByteArray} {k n : Nat} (hk : k + (n + 1) ≤ data.size) :
    storedRun (n + 1) ⟨data, 8 * k⟩ =
      .ok (data.extract k (k + (n + 1)), ⟨data, 8 * (k + (n + 1))⟩) := by
  simp only [storedRun]
  rw [show 8 * k / 8 = k by omega, show min (n + 1) (data.size - k) = n + 1 by omega,
    if_neg (by omega)]
  congr 3
  omega

theorem steps_storedAt {data : ByteArray} {k : Nat} {final : Bool} {x : Bytes}
    (hheader : blockHeader ⟨data, 8 * k⟩ = .ok (.stored x.length final, ⟨data, 8 * (k + 5)⟩))
    (hbytes : data.extract (k + 5) (k + 5 + x.length) = x.toByteArray)
    (hsize : k + 5 + x.length ≤ data.size) :
    ∃ es, Steps ⟨data, 8 * k⟩ .header ⟨data, 8 * (k + 5 + x.length)⟩ (.stored 0 final) es ∧
      ∀ out, Emit.applyAll es out = out ++ x.toByteArray := by
  have hstart : step .header ⟨data, 8 * k⟩ =
      .ok ((some (.stored x.length final), .nothing), ⟨data, 8 * (k + 5)⟩) :=
    bind_of_ok hheader
  cases hn : x.length with
  | zero =>
    rw [hn] at hstart
    refine ⟨[.nothing], .step hstart (.refl _ _), fun out => ?_⟩
    simp [List.length_eq_zero_iff.1 hn, Emit.apply, ByteArray.append_empty]
  | succ n =>
    rw [hn] at hstart hbytes hsize
    have hrun : step (.stored (n + 1) final) ⟨data, 8 * (k + 5)⟩ =
        .ok ((some (.stored 0 final), .verbatim x.toByteArray), ⟨data, 8 * (k + 5 + (n + 1))⟩) := by
      rw [step, bind_of_ok (storedRun_extract hsize), hbytes, List.size_toByteArray, hn,
        Nat.sub_self]
      rfl
    exact ⟨[.nothing, .verbatim x.toByteArray], .step hstart (.step hrun (.refl _ _)),
      fun out => rfl⟩

section Block

variable {pre x post : Bytes}

theorem blockHeader_stored (hx : x.length < 65536) :
    blockHeader ⟨(pre ++ storedBlock x ++ post).toByteArray, 8 * pre.length⟩ =
      .ok (.stored x.length false,
        ⟨(pre ++ storedBlock x ++ post).toByteArray, 8 * (pre.length + 5)⟩) := by
  have hbyte : ∀ i, i < 5 →
      (pre ++ storedBlock x ++ post).toByteArray[pre.length + i]? = (storedBlock x)[i]? :=
    fun i hi => getElem?_block pre (storedBlock x) post (by simp [storedBlock, storedHead]; omega)
  exact @blockHeader_storedAt _ _ _ false hx (hbyte 0 (by omega)) (hbyte 1 (by omega))
    (hbyte 2 (by omega)) (hbyte 3 (by omega)) (hbyte 4 (by omega))

theorem steps_storedBlock (hx : x.length < 65536) :
    ∃ es, Steps ⟨(pre ++ storedBlock x ++ post).toByteArray, 8 * pre.length⟩ .header
        ⟨(pre ++ storedBlock x ++ post).toByteArray, 8 * (pre.length + 5 + x.length)⟩ .header es ∧
      ∀ out, Emit.applyAll es out = out ++ x.toByteArray := by
  have hsplit : pre ++ storedBlock x ++ post = (pre ++ storedHead x.length) ++ x ++ post := by
    simp [storedBlock]
  have hbytes := extract_block (pre ++ storedHead x.length) x post
  rw [← hsplit, List.length_append, show (storedHead x.length).length = 5 from rfl] at hbytes
  obtain ⟨es, hsteps, hwrite⟩ := steps_storedAt (blockHeader_stored hx) hbytes
    (by simp [storedBlock, storedHead]; omega)
  have hleave : ∀ b : Bits, step (.stored 0 false) b = .ok ((some .header, .nothing), b) :=
    fun _ => rfl
  refine ⟨es ++ [.nothing], hsteps.append (.step (hleave _) (.refl _ _)), fun out => ?_⟩
  rw [Emit.applyAll_append, hwrite]
  rfl

end Block

theorem continues_storedBlock (history x : Bytes) (hx : x.length < 65536) :
    Continues history (storedBlock x ++ storedBlock []) x := by
  obtain ⟨es, hfirst, hwrite⟩ := @steps_storedBlock [] x (storedBlock []) hx
  obtain ⟨es', hsecond, hwrite'⟩ := @steps_storedBlock (storedBlock x) [] [] (by decide)
  have hlen : (storedBlock x).length = 5 + x.length := by
    simp [storedBlock, storedHead]
    omega
  simp only [List.nil_append, List.length_nil, Nat.mul_zero, Nat.zero_add] at hfirst
  simp only [List.append_nil, List.length_nil, Nat.add_zero, hlen] at hsecond
  refine ⟨es ++ es', hfirst.append ?_, ?_⟩
  · rw [List.length_append, hlen, show (storedBlock []).length = 5 from rfl]
    rwa [Nat.mul_comm _ 8]
  · rw [Emit.applyAll_append, hwrite, hwrite', List.toByteArray_append]
    simp [ByteArray.append_empty]

end Dissect.Deflate
