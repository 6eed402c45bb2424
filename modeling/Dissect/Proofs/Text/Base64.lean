import Mathlib
import Dissect.Text.Base64
import Dissect.Text.Blank
import Dissect.Proofs.Text.Utf8

/-!
# URL-safe Base64 read back

The URL-safe encoder writes three octets as four symbols of six bits each, and a last one or two
octets as two or three symbols whose bits past the octets are zero; the alphabet is the standard
one with `-` and `_` in place of `+` and `/`. The reader of unpadded URL-safe Base64 gives back
the octets of every text the encoder writes (`decodeUrlSafe_encodeUrl`): no symbol is stray, no
last group is a single symbol, and no last symbol carries bits past the last octet.
-/

set_option autoImplicit false

namespace Dissect.Base64

def urlAlphabet : List Char := standardAlphabet.take 62 ++ ['-', '_']

def urlSymbol (v : Nat) : Char := urlAlphabet.getD v 'A'

def urlOctet (v : Nat) : UInt8 := (urlSymbol v).toNat.toUInt8

/-- The six-bit values of octets: three octets make four, a last two make three and a last one
makes two, filled with zero bits. -/
def sextets : Bytes → List Nat
  | a :: b :: c :: rest =>
    let n := a.toNat * 65536 + b.toNat * 256 + c.toNat
    n / 262144 :: n / 4096 % 64 :: n / 64 % 64 :: n % 64 :: sextets rest
  | [a, b] =>
    let n := a.toNat * 65536 + b.toNat * 256
    [n / 262144, n / 4096 % 64, n / 64 % 64]
  | [a] =>
    let n := a.toNat * 65536
    [n / 262144, n / 4096 % 64]
  | [] => []

def encodeUrl (bs : Bytes) : String := String.ofList ((sextets bs).map urlSymbol)

/-! ## The alphabet -/

set_option maxRecDepth 20000 in
theorem urlSymbol_table : ∀ v : Fin 64, (urlSymbol v).toNat < 128 ∧
    Text.isBlank (urlSymbol v) = false ∧ urlSymbol v ≠ '=' ∧ urlValue? (urlOctet v) = some v := by
  decide

section Symbol

variable {v : Nat} (hv : v < 64)
include hv

theorem toNat_urlSymbol_lt : (urlSymbol v).toNat < 128 := (urlSymbol_table ⟨v, hv⟩).1

theorem isBlank_urlSymbol : Text.isBlank (urlSymbol v) = false := (urlSymbol_table ⟨v, hv⟩).2.1

theorem urlSymbol_ne_pad : urlSymbol v ≠ '=' := (urlSymbol_table ⟨v, hv⟩).2.2.1

theorem urlValue?_urlOctet : urlValue? (urlOctet v) = some v := (urlSymbol_table ⟨v, hv⟩).2.2.2

theorem urlOctet_ne_padSymbol : urlOctet v ≠ padSymbol := by
  intro h
  have hpad := urlValue?_urlOctet hv
  have hnone : urlValue? padSymbol = none := by decide
  rw [h, hnone] at hpad
  exact Option.some_ne_none v hpad.symm

end Symbol

theorem utf8EncodeChar_of_lt {c : Char} (h : c.toNat < 128) :
    String.utf8EncodeChar c = [c.toNat.toUInt8] := by
  have hv : c.val.toNat ≤ 127 := Nat.le_of_lt_succ h
  simp only [String.utf8EncodeChar, hv, if_true]
  rfl

/-! ## The six-bit values -/

theorem sextets_lt (bs : Bytes) : ∀ v ∈ sextets bs, v < 64 := by
  fun_induction sextets bs with
  | case1 a b c rest n ih =>
    intro v hv
    simp only [List.mem_cons] at hv
    have := a.toNat_lt
    have := b.toNat_lt
    have := c.toNat_lt
    rcases hv with rfl | rfl | rfl | rfl | hv
    all_goals first | exact ih v hv | omega
  | case2 a b n =>
    have := a.toNat_lt
    have := b.toNat_lt
    simp only [List.mem_cons, List.not_mem_nil, or_false]
    omega
  | case3 a n =>
    have := a.toNat_lt
    simp only [List.mem_cons, List.not_mem_nil, or_false]
    omega
  | case4 => simp

theorem length_sextets (bs : Bytes) :
    (sextets bs).length = 4 * (bs.length / 3) + if bs.length % 3 = 0 then 0 else bs.length % 3 + 1 := by
  fun_induction sextets bs with
  | case1 a b c rest n ih =>
    simp only [List.length_cons, ih]
    split_ifs <;> omega
  | case2 | case3 | case4 => simp

theorem ofString_encodeUrl (bs : Bytes) :
    Bytes.ofString (encodeUrl bs) = (sextets bs).map urlOctet := by
  rw [Bytes.ofString_eq_flatMap, encodeUrl, String.toList_ofList, List.flatMap_map,
    List.map_eq_flatMap]
  refine List.flatMap_congr fun v hv => ?_
  exact utf8EncodeChar_of_lt (toNat_urlSymbol_lt (sextets_lt bs v hv))

/-! ## Reading the symbols back -/

theorem values_map_urlOctet (start : Nat) :
    ∀ (i : Nat) (vs : List Nat), (∀ v ∈ vs, v < 64) → values start i (vs.map urlOctet) = .ok vs
  | _, [], _ => rfl
  | i, v :: vs, hvs => by
    have hv := hvs v List.mem_cons_self
    have hrest := values_map_urlOctet start (i + 1) vs fun w hw => hvs w (List.mem_cons_of_mem v hw)
    simp only [List.map_cons, values, urlValue?_urlOctet hv, hrest]
    rfl

theorem lastGroup_go_map_urlOctet (start : Nat) :
    ∀ (i pads : Nat) (vs : List Nat), (∀ v ∈ vs, v < 64) →
      lastGroup.go start i none pads (vs.map urlOctet) = .ok (vs, pads)
  | _, _, [], _ => rfl
  | i, pads, v :: vs, hvs => by
    have hv := hvs v List.mem_cons_self
    have hrest := lastGroup_go_map_urlOctet start (i + 1) pads vs
      fun w hw => hvs w (List.mem_cons_of_mem v hw)
    simp only [List.map_cons, lastGroup.go, beq_iff_eq, urlOctet_ne_padSymbol hv, if_false,
      urlValue?_urlOctet hv, hrest]
    rfl

theorem toUInt8_eq_of_toNat {n : Nat} {a : UInt8} (h : n = a.toNat) : n.toUInt8 = a := by
  subst h
  simp

section Gather

variable (a b c : UInt8) (out : Bytes) (n : Nat)

theorem gather_three (hn : n = a.toNat * 65536 + b.toNat * 256 + c.toNat) :
    gather (gather (gather (gather (out, 0, 0) (n / 262144)) (n / 4096 % 64)) (n / 64 % 64))
      (n % 64) = (c :: b :: a :: out, 0, 0) := by
  have := a.toNat_lt
  have := b.toNat_lt
  have := c.toNat_lt
  simp only [gather, Nat.pow_eq, Nat.zero_add, Nat.zero_mul, Nat.reduceAdd, Nat.reduceSub,
    Nat.reducePow, ge_iff_le, Nat.reduceLeDiff, ↓reduceIte, Nat.div_one, Nat.mod_one]
  refine congrArg₂ Prod.mk ?_ rfl
  simp only [List.cons.injEq, and_true]
  refine ⟨?_, ?_, ?_⟩ <;> apply toUInt8_eq_of_toNat <;> omega

theorem gather_two (hn : n = a.toNat * 65536 + b.toNat * 256) :
    gather (gather (gather (out, 0, 0) (n / 262144)) (n / 4096 % 64)) (n / 64 % 64) =
      (b :: a :: out, 0, 2) := by
  have := a.toNat_lt
  have := b.toNat_lt
  simp only [gather, Nat.pow_eq, Nat.zero_add, Nat.zero_mul, Nat.reduceAdd, Nat.reduceSub,
    Nat.reducePow, ge_iff_le, Nat.reduceLeDiff, ↓reduceIte]
  refine congrArg₂ Prod.mk ?_ (congrArg₂ Prod.mk (by omega) rfl)
  simp only [List.cons.injEq, and_true]
  refine ⟨?_, ?_⟩ <;> apply toUInt8_eq_of_toNat <;> omega

theorem gather_one (hn : n = a.toNat * 65536) :
    gather (gather (out, 0, 0) (n / 262144)) (n / 4096 % 64) = (a :: out, 0, 4) := by
  have := a.toNat_lt
  simp only [gather, Nat.pow_eq, Nat.zero_add, Nat.zero_mul, Nat.reduceAdd, Nat.reduceSub,
    Nat.reducePow, ge_iff_le, Nat.reduceLeDiff, ↓reduceIte]
  refine congrArg₂ Prod.mk ?_ (congrArg₂ Prod.mk (by omega) rfl)
  simp only [List.cons.injEq, and_true]
  apply toUInt8_eq_of_toNat
  omega

end Gather

theorem foldl_gather_sextets (bs : Bytes) (out : Bytes) :
    ∃ k, (sextets bs).foldl gather (out, 0, 0) = (bs.reverse ++ out, 0, k) := by
  induction bs using sextets.induct generalizing out with
  | case1 a b c rest ih =>
    obtain ⟨k, hk⟩ := ih (c :: b :: a :: out)
    refine ⟨k, ?_⟩
    simp only [sextets, List.foldl_cons]
    rw [gather_three a b c out _ rfl, hk]
    simp
  | case2 a b =>
    refine ⟨2, ?_⟩
    simp only [sextets, List.foldl_cons, List.foldl_nil]
    rw [gather_two a b out _ rfl]
    simp
  | case3 a =>
    refine ⟨4, ?_⟩
    simp only [sextets, List.foldl_cons, List.foldl_nil]
    rw [gather_one a out _ rfl]
    simp
  | case4 => exact ⟨0, rfl⟩

theorem decodeUrlSafe_map_urlOctet (bs : Bytes) :
    decodeUrlSafe ((sextets bs).map urlOctet) = .ok bs := by
  have hlt := sextets_lt bs
  have hlen := length_sextets bs
  obtain ⟨k, hfold⟩ := foldl_gather_sextets bs []
  generalize sextets bs = vs at hlt hlen hfold
  have hmod : vs.length % 4 ≠ 1 := by split_ifs at hlen <;> omega
  simp only [decodeUrlSafe, List.length_map, hmod, if_false]
  generalize hw : (vs.length - vs.length % 4 - if vs.length % 4 = 0 then 4 else 0) = whole
  have hfront : values 0 0 ((vs.map urlOctet).take whole) = pure (vs.take whole) := by
    rw [← List.map_take]
    exact values_map_urlOctet 0 0 _ fun v hv => hlt v (List.mem_of_mem_take hv)
  have hback : lastGroup whole ((vs.map urlOctet).drop whole) = pure (vs.drop whole, 0) := by
    rw [← List.map_drop]
    exact lastGroup_go_map_urlOctet whole 0 0 _ fun v hv => hlt v (List.mem_of_mem_drop hv)
  -- a text of more than one symbol ends in a group of two to four
  have hshort : (decide (vs.length > 0) && decide ((vs.drop whole).length < 2)) = false := by
    rw [Bool.and_eq_false_iff, decide_eq_false_iff_not, decide_eq_false_iff_not, List.length_drop]
    split_ifs at hw hlen <;> omega
  simp only [hfront, hback, pure_bind, hshort, List.take_append_drop, hfold, gt_iff_lt,
    lt_self_iff_false, Bool.false_eq_true, if_false, ne_eq, not_true_eq_false, List.append_nil,
    List.reverse_reverse]
  rfl

/-- The reader of unpadded URL-safe Base64 takes back whatever the encoder writes. -/
theorem decodeUrlSafe_encodeUrl (bs : Bytes) :
    decodeUrlSafe (Bytes.ofString (encodeUrl bs)) = .ok bs := by
  rw [ofString_encodeUrl, decodeUrlSafe_map_urlOctet]

/-- `Man?` -/
example : (sextets [77, 97, 110, 63]).map urlSymbol = ['T', 'W', 'F', 'u', 'P', 'w'] := by decide

end Dissect.Base64
