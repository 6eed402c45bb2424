import Mathlib
import Dissect.Text.Utf8

/-!
# Text written as UTF-8 reads back

Every string is read back from its UTF-8 octets as itself (`Utf8.decode_ofString`). The reader
takes a character at a time (`piece`): the first octet says how many continuation octets follow
and which second octets are allowed, the table of RFC 3629 section 4 (`lead_of_two`,
`lead_of_three`, `lead_of_four`). What the writer puts down for a scalar value always lies inside
that table: it is never overlong, never a surrogate and never past `10FFFF`.
-/

set_option autoImplicit false

namespace Dissect.Utf8

/-! ## The table of first octets -/

theorem lead_of_two : ∀ b : UInt8, 0xC2 ≤ b → b ≤ 0xDF → lead b = some (1, 0x80, 0xBF) := by
  decide +kernel

theorem lead_of_three : ∀ b : UInt8, 0xE0 ≤ b → b ≤ 0xEF →
    lead b = some (2, if b = 0xE0 then 0xA0 else 0x80, if b = 0xED then 0x9F else 0xBF) := by
  decide +kernel

theorem lead_of_four : ∀ b : UInt8, 0xF0 ≤ b → b ≤ 0xF4 →
    lead b = some (3, if b = 0xF0 then 0x90 else 0x80, if b = 0xF4 then 0x8F else 0xBF) := by
  decide +kernel

/-! ## One character at a time -/

variable {b c d e : UInt8} {x y z w : Nat}

theorem piece_of_lead (hb : ¬ b < 0x80) {n : Nat} {lo hi : UInt8} (hl : lead b = some (n, lo, hi))
    (hc : lo ≤ c ∧ c ≤ hi) (rest : Bytes) :
    piece b (c :: rest) =
      tail (b.toNat % Nat.pow 2 (6 - n) * 64 + (c.toNat - 0x80)) 2 (n - 1) rest := by
  simp only [piece, hb, if_false, hl, hc, and_self, if_true]

theorem tail_zero (acc seen : Nat) (rest : Bytes) :
    tail acc seen 0 rest = .char (Char.ofNat acc) (seen - 1) := by
  simp [tail]

theorem tail_cons_of_toNat (hc : c.toNat = y + 0x80) (hy : y < 64) (acc seen k : Nat)
    (rest : Bytes) :
    tail acc seen (k + 1) (c :: rest) = tail (acc * 64 + y) (seen + 1) k rest := by
  have hin : (0x80 : UInt8) ≤ c ∧ c ≤ 0xBF := by
    simp only [UInt8.le_iff_toNat_le, hc, UInt8.reduceToNat]
    omega
  simp [tail, hin, hc]

theorem piece_of_toNat_one (hb : b.toNat = x) (hx : x < 0x80) (rest : Bytes) :
    piece b rest = .char (Char.ofNat x) 0 := by
  have hlt : b < 0x80 := by rw [UInt8.lt_iff_toNat_lt, hb]; simpa using hx
  simp [piece, hlt, hb]

theorem piece_of_toNat_two (hb : b.toNat = x + 0xC0) (hc : c.toNat = y + 0x80) (hx : 2 ≤ x)
    (hx' : x < 32) (hy : y < 64) (rest : Bytes) :
    piece b (c :: rest) = .char (Char.ofNat (x * 64 + y)) 1 := by
  have hnot : ¬ b < 0x80 := by rw [UInt8.lt_iff_toNat_lt, hb]; simp
  have hl := lead_of_two b (by rw [UInt8.le_iff_toNat_le, hb]; simp; omega)
    (by rw [UInt8.le_iff_toNat_le, hb]; simp; omega)
  have hrange : (0x80 : UInt8) ≤ c ∧ c ≤ 0xBF := by
    simp only [UInt8.le_iff_toNat_le, hc, UInt8.reduceToNat]
    omega
  have hacc : (x + 0xC0) % Nat.pow 2 (6 - 1) * 64 + (y + 0x80 - 0x80) = x * 64 + y := by
    simp only [Nat.pow_eq]
    omega
  rw [piece_of_lead hnot hl hrange, tail_zero, hb, hc, hacc]

theorem piece_of_toNat_three (hb : b.toNat = x + 0xE0) (hc : c.toNat = y + 0x80)
    (hd : d.toNat = z + 0x80) (hx : x < 16) (hy : y < 64) (hz : z < 64)
    (hmin : 0x800 ≤ (x * 64 + y) * 64 + z) (hsur : x = 13 → y < 32) (rest : Bytes) :
    piece b (c :: d :: rest) = .char (Char.ofNat ((x * 64 + y) * 64 + z)) 2 := by
  have hnot : ¬ b < 0x80 := by rw [UInt8.lt_iff_toNat_lt, hb]; simp
  have hl := lead_of_three b (by rw [UInt8.le_iff_toNat_le, hb]; simp)
    (by rw [UInt8.le_iff_toNat_le, hb]; simp; omega)
  -- `E0` refuses the overlong forms and `ED` the surrogates, through the second octet
  have hrange : (if b = 0xE0 then (0xA0 : UInt8) else 0x80) ≤ c ∧
      c ≤ (if b = 0xED then (0x9F : UInt8) else 0xBF) := by
    have h0 : b = 0xE0 ↔ x = 0 := by rw [← UInt8.toNat_inj, hb]; simp
    have h13 : b = 0xED ↔ x = 13 := by rw [← UInt8.toNat_inj, hb]; simp
    simp only [h0, h13]
    split_ifs <;> simp only [UInt8.le_iff_toNat_le, hc, UInt8.reduceToNat] <;> omega
  have hacc : ((x + 0xE0) % Nat.pow 2 (6 - 2) * 64 + (y + 0x80 - 0x80)) * 64 + z =
      (x * 64 + y) * 64 + z := by
    simp only [Nat.pow_eq]
    omega
  rw [piece_of_lead hnot hl hrange, tail_cons_of_toNat hd hz, tail_zero, hb, hc, hacc]

theorem piece_of_toNat_four (hb : b.toNat = x + 0xF0) (hc : c.toNat = y + 0x80)
    (hd : d.toNat = z + 0x80) (he : e.toNat = w + 0x80) (hx : x < 8) (hy : y < 64) (hz : z < 64)
    (hw : w < 64) (hmin : 0x10000 ≤ ((x * 64 + y) * 64 + z) * 64 + w)
    (hmax : ((x * 64 + y) * 64 + z) * 64 + w < 0x110000) (rest : Bytes) :
    piece b (c :: d :: e :: rest) = .char (Char.ofNat (((x * 64 + y) * 64 + z) * 64 + w)) 3 := by
  have hnot : ¬ b < 0x80 := by rw [UInt8.lt_iff_toNat_lt, hb]; simp
  have hl := lead_of_four b (by rw [UInt8.le_iff_toNat_le, hb]; simp)
    (by rw [UInt8.le_iff_toNat_le, hb]; simp; omega)
  -- `F0` refuses the overlong forms and `F4` what lies past `10FFFF`, through the second octet
  have hrange : (if b = 0xF0 then (0x90 : UInt8) else 0x80) ≤ c ∧
      c ≤ (if b = 0xF4 then (0x8F : UInt8) else 0xBF) := by
    have h0 : b = 0xF0 ↔ x = 0 := by rw [← UInt8.toNat_inj, hb]; simp
    have h4 : b = 0xF4 ↔ x = 4 := by rw [← UInt8.toNat_inj, hb]; simp
    simp only [h0, h4]
    split_ifs <;> simp only [UInt8.le_iff_toNat_le, hc, UInt8.reduceToNat] <;> omega
  have hacc : (((x + 0xF0) % Nat.pow 2 (6 - 3) * 64 + (y + 0x80 - 0x80)) * 64 + z) * 64 + w =
      ((x * 64 + y) * 64 + z) * 64 + w := by
    simp only [Nat.pow_eq]
    omega
  rw [piece_of_lead hnot hl hrange, tail_cons_of_toNat hd hz, tail_cons_of_toNat he hw, tail_zero,
    hb, hc, hacc]

theorem piece_utf8EncodeChar (ch : Char) (rest : Bytes) :
    ∃ b bs, String.utf8EncodeChar ch = b :: bs ∧ piece b (bs ++ rest) = .char ch bs.length := by
  have hvalid : ch.toNat < 0xD800 ∨ (0xDFFF < ch.toNat ∧ ch.toNat < 0x110000) := ch.valid
  have hof : ∀ {n : Nat}, n = ch.toNat → Char.ofNat n = ch := fun h => h ▸ Char.ofNat_toNat ch
  have hbyte : ∀ {n : Nat}, n < 256 → (UInt8.ofNat n).toNat = n := fun h => by simp; omega
  unfold String.utf8EncodeChar
  simp only [← Char.toNat.eq_1]
  generalize hv : ch.toNat = v at hvalid hof
  by_cases h1 : v ≤ 0x7F
  · rw [if_pos h1]
    refine ⟨_, [], rfl, ?_⟩
    rw [List.nil_append, List.length_nil,
      piece_of_toNat_one (hbyte (show v < 256 by omega)) (show v < 0x80 by omega), hof rfl]
  rw [if_neg h1]
  by_cases h2 : v ≤ 0x7FF
  · rw [if_pos h2]
    refine ⟨_, [_], rfl, ?_⟩
    rw [List.cons_append, List.nil_append, List.length_singleton,
      piece_of_toNat_two (hbyte (show v / 64 % 32 + 0xC0 < 256 by omega))
        (hbyte (show v % 64 + 0x80 < 256 by omega)) (by omega) (by omega) (by omega),
      hof (by omega)]
  rw [if_neg h2]
  by_cases h3 : v ≤ 0xFFFF
  · rw [if_pos h3]
    refine ⟨_, [_, _], rfl, ?_⟩
    rw [List.cons_append, List.cons_append, List.nil_append, List.length_cons, List.length_singleton,
      piece_of_toNat_three (hbyte (show v / 4096 % 16 + 0xE0 < 256 by omega))
        (hbyte (show v / 64 % 64 + 0x80 < 256 by omega)) (hbyte (show v % 64 + 0x80 < 256 by omega))
        (by omega) (by omega) (by omega) (by omega) (by omega),
      hof (by omega)]
  rw [if_neg h3]
  refine ⟨_, [_, _, _], rfl, ?_⟩
  rw [List.cons_append, List.cons_append, List.cons_append, List.nil_append, List.length_cons,
    List.length_cons, List.length_singleton,
    piece_of_toNat_four (hbyte (show v / 262144 % 8 + 0xF0 < 256 by omega))
      (hbyte (show v / 4096 % 64 + 0x80 < 256 by omega))
      (hbyte (show v / 64 % 64 + 0x80 < 256 by omega)) (hbyte (show v % 64 + 0x80 < 256 by omega))
      (by omega) (by omega) (by omega) (by omega) (by omega) (by omega),
    hof (by omega)]

theorem decodeFrom_utf8EncodeChar_append (pos : Nat) (acc : List Char) (ch : Char) (rest : Bytes) :
    decodeFrom pos acc (String.utf8EncodeChar ch ++ rest) =
      decodeFrom (pos + ch.utf8Size) (ch :: acc) rest := by
  obtain ⟨b, bs, henc, hpiece⟩ := piece_utf8EncodeChar ch rest
  have hsize : ch.utf8Size = 1 + bs.length := by
    rw [← String.length_utf8EncodeChar, henc, List.length_cons, Nat.add_comm]
  rw [henc, List.cons_append, decodeFrom, hpiece, hsize]
  simp only [List.drop_left, Nat.add_assoc]

theorem decodeFrom_flatMap_utf8EncodeChar (l : List Char) (pos : Nat) (acc : List Char) :
    decodeFrom pos acc (l.flatMap String.utf8EncodeChar) = .ok (acc.reverse ++ l) := by
  induction l generalizing pos acc with
  | nil => simp [decodeFrom]
  | cons ch l ih =>
    rw [List.flatMap_cons, decodeFrom_utf8EncodeChar_append, ih]
    simp

end Dissect.Utf8

namespace ByteArray

theorem toList_loop_eq (bs : ByteArray) (i : Nat) (r : List UInt8) :
    toList.loop bs i r = r.reverse ++ bs.data.toList.drop i := by
  fun_induction toList.loop bs i r with
  | case1 i r h ih =>
    have hi : i < bs.data.toList.length := by simpa using h
    rw [ih, List.drop_eq_getElem_cons hi]
    simp [ByteArray.get!, h]
  | case2 i r h =>
    rw [List.drop_eq_nil_of_le (by simpa using Nat.le_of_not_lt h)]
    simp

theorem toList_toByteArray (l : List UInt8) : l.toByteArray.toList = l := by
  simp [toList, toList_loop_eq]

theorem length_toList (bs : ByteArray) : bs.toList.length = bs.size := by
  simp only [toList, toList_loop_eq, List.reverse_nil, List.nil_append, List.drop_zero,
    Array.length_toList]
  rfl

end ByteArray

namespace Dissect

theorem Bytes.ofString_eq_flatMap (s : String) :
    Bytes.ofString s = s.toList.flatMap String.utf8EncodeChar := by
  conv => lhs; rw [← String.ofList_toList (s := s)]
  rw [Bytes.ofString, String.toUTF8_eq_toByteArray, String.toByteArray_ofList, List.utf8Encode,
    ByteArray.toList_toByteArray]

/-- The octets that a text is written in are read back as that text. -/
@[simp] theorem Utf8.decode_ofString (s : String) : Utf8.decode (Bytes.ofString s) = .ok s := by
  rw [Utf8.decode, Bytes.ofString_eq_flatMap, Utf8.decodeFrom_flatMap_utf8EncodeChar]
  simp [Except.map, String.ofList_toList]

theorem Bytes.ofString_injective {s t : String} (h : Bytes.ofString s = Bytes.ofString t) : s = t := by
  have hs := Utf8.decode_ofString s
  rw [h, Utf8.decode_ofString] at hs
  exact (Except.ok.inj hs).symm

theorem Bytes.ofString_beq (s t : String) :
    (Bytes.ofString s == Bytes.ofString t) = (s == t) := by
  by_cases h : s = t
  · simp [h]
  · have hne : Bytes.ofString s ≠ Bytes.ofString t := fun he => h (Bytes.ofString_injective he)
    simp [h, hne]

theorem Bytes.length_ofString (s : String) : (Bytes.ofString s).length = s.utf8ByteSize := by
  rw [Bytes.ofString, ByteArray.length_toList]
  rfl

end Dissect
