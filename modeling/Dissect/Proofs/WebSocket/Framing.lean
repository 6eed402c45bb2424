import Mathlib
import Dissect.WebSocket.Frame
import Dissect.Proofs.Bytes.BigEndian

/-!
# Cutting WebSocket frames

A frame states its own size in its first octets (`declaredLength`). Cutting a frame fails exactly
when fewer octets are there, and otherwise takes exactly that many.
-/

set_option autoImplicit false

namespace Dissect

namespace Bytes

theorem xorCycle_go_go (key : Bytes) (i : Nat) (bs : Bytes) :
    xorCycle.go key i (xorCycle.go key i bs) = bs := by
  induction bs generalizing i with
  | nil => rfl
  | cons b rest ih => simp [xorCycle.go, ih]

/-- Masking twice with one key gives the octets back. -/
@[simp] theorem xorCycle_xorCycle (key bs : Bytes) : xorCycle key (xorCycle key bs) = bs :=
  xorCycle_go_go key 0 bs

theorem xorCycle_go_nil (i : Nat) (bs : Bytes) : xorCycle.go [] i bs = bs := by
  induction bs generalizing i with
  | nil => rfl
  | cons b rest ih => simp [xorCycle.go, ih]

@[simp] theorem xorCycle_nil (bs : Bytes) : xorCycle [] bs = bs := xorCycle_go_nil 0 bs

end Bytes

namespace WebSocket

/-! ## What a frame declares -/

def lengthField (b1 : UInt8) : Nat := b1.toNat &&& 0x7F

def maskBit (b1 : UInt8) : Bool := b1.toNat &&& 0x80 != 0

def headerLength (b1 : UInt8) : Nat :=
  if lengthField b1 = 126 then 4 else if lengthField b1 = 127 then 10 else 2

def keyLength (b1 : UInt8) : Nat := if maskBit b1 then 4 else 0

/-- The payload length a header declares; `ext` holds the octets after the second. -/
def payloadLength (b1 : UInt8) (ext : Bytes) : Nat :=
  if lengthField b1 = 126 then Bytes.beNat (ext.take 2)
  else if lengthField b1 = 127 then Bytes.beNat (ext.take 8)
  else lengthField b1

def declaredLength : Bytes → Nat
  | _ :: b1 :: ext => headerLength b1 + keyLength b1 + payloadLength b1 ext
  | _ => 2

/-- The frame that whole octets hold: the header with the mask bit cleared, and the payload
unmasked with the key, if there is one. -/
def cutFrame : Bytes → Frame
  | b0 :: b1 :: ext =>
    let h := headerLength b1
    let k := keyLength b1
    ⟨b0 :: (b1 &&& 0x7F) :: ext.take (h - 2),
      applyMask (ext.drop (h - 2) |>.take k) ((ext.drop (h - 2 + k)).take (payloadLength b1 ext))⟩
  | d => ⟨d, []⟩

theorem two_le_headerLength (b1 : UInt8) : 2 ≤ headerLength b1 := by
  unfold headerLength
  split_ifs <;> omega

theorem two_le_declaredLength (d : Bytes) : 2 ≤ declaredLength d := by
  match d with
  | _ :: b1 :: ext =>
    have := two_le_headerLength b1
    simp only [declaredLength]
    omega
  | [] | [_] => exact le_rfl

theorem headerLength_le_declaredLength (b0 b1 : UInt8) (ext : Bytes) :
    headerLength b1 ≤ declaredLength (b0 :: b1 :: ext) := by
  simp only [declaredLength]
  omega

theorem and_clear_of_not_maskBit {b1 : UInt8} (h : maskBit b1 = false) : b1 &&& 0x7F = b1 := by
  revert h
  revert b1
  decide +kernel

/-! ## Cutting a frame -/

theorem frameHeader_cons_cons (b0 b1 : UInt8) (ext : Bytes) :
    frameHeader (b0 :: b1 :: ext) =
      if ext.length + 2 < headerLength b1 then .error ⟨headerLength b1, ext.length + 2⟩
      else .ok (headerLength b1, payloadLength b1 ext) := by
  have hn : (List.take 10 (b0 :: b1 :: ext)).length = min 10 (ext.length + 2) := by
    simp only [List.length_take, List.length_cons]
  have hfield : b1.toNat &&& 0x7F = lengthField b1 := rfl
  unfold frameHeader
  simp only [hn, hfield, headerLength, payloadLength, List.getD_cons_succ, List.getD_cons_zero,
    List.drop_succ_cons, List.drop_zero]
  split_ifs <;> first | rfl | omega |
    simp only [throw, throwThe, MonadExceptOf.throw, Except.error.injEq, Truncated.mk.injEq,
      true_and]; omega

theorem cutFrameAt_cons_cons {b0 b1 : UInt8} {ext : Bytes} {h p : Nat} (h2 : 2 ≤ h)
    (hh : h ≤ ext.length + 2) :
    cutFrameAt (b0 :: b1 :: ext) h p =
      if ext.length + 2 < h + keyLength b1 + p then
        .error ⟨min countLimit (h + min countLimit (keyLength b1 + p)), ext.length + 2⟩
      else .ok (⟨b0 :: (b1 &&& 0x7F) :: ext.take (h - 2),
        applyMask ((ext.drop (h - 2)).take (keyLength b1))
          ((ext.drop (h - 2 + keyLength b1)).take p)⟩, h + keyLength b1 + p) := by
  have hkey : (if maskBit b1 then 4 else 0) = keyLength b1 := rfl
  have hmask : (((b0 :: b1 :: ext).getD 1 0).toNat &&& 0x80 != 0) = maskBit b1 := rfl
  have hlen : ∀ n, (List.take n (b0 :: b1 :: ext)).length < n ↔ ext.length + 2 < n := by
    intro n
    simp only [List.length_take, List.length_cons]
    omega
  obtain ⟨h, rfl⟩ : ∃ h', h = h' + 2 := ⟨h - 2, by omega⟩
  unfold cutFrameAt
  simp only [bind, Except.bind, pure, Except.pure, throw, throwThe, MonadExceptOf.throw, hmask]
  simp only [hkey, hlen, List.length_cons]
  by_cases hshort : ext.length + 2 < h + 2 + keyLength b1 + p
  · simp only [hshort, if_true]
  simp only [hshort, if_false, Nat.add_sub_cancel]
  have hcut : ∀ k, List.drop (h + 2 + k) (List.take (h + 2 + k + p) (b0 :: b1 :: ext)) =
      List.take p (List.drop (h + k) ext) := by
    intro k
    rw [List.drop_take, show h + 2 + k = (h + k) + 2 by omega, List.drop_succ_cons,
      List.drop_succ_cons]
    congr 1
    omega
  have hhead : List.take (h + 2) (List.take (h + 2 + keyLength b1 + p) (b0 :: b1 :: ext)) =
      b0 :: b1 :: List.take h ext := by
    rw [List.take_take, Nat.min_eq_left (by omega), List.take_succ_cons, List.take_succ_cons]
  cases hm : maskBit b1
  · have hk : keyLength b1 = 0 := by simp [keyLength, hm]
    have hpay := hcut 0
    rw [hk] at hhead
    simp only [Nat.add_zero] at hhead hpay
    simp only [hk, Nat.add_zero, hhead, hpay, List.take_zero, applyMask, Bytes.xorCycle_nil,
      and_clear_of_not_maskBit hm, Bool.false_eq_true, if_false]
  · have hk : keyLength b1 = 4 := by simp [keyLength, hm]
    rw [hk] at hhead
    simp only [hhead, hcut, hk, if_true, List.drop_succ_cons]

theorem parseFrame_cons_cons (b0 b1 : UInt8) (ext : Bytes) :
    parseFrame (b0 :: b1 :: ext) = (frameHeader (b0 :: b1 :: ext)).bind fun (h, p) =>
      cutFrameAt (b0 :: b1 :: ext) h p := rfl

theorem parseFrame_of_lt {d : Bytes} (h : d.length < declaredLength d) :
    ∃ t, parseFrame d = .error t := by
  match d with
  | [] => exact ⟨_, rfl⟩
  | [_] => exact ⟨_, rfl⟩
  | b0 :: b1 :: ext =>
    simp only [declaredLength, List.length_cons] at h
    rw [parseFrame_cons_cons, frameHeader_cons_cons]
    by_cases hh : ext.length + 2 < headerLength b1
    · exact ⟨_, by simp only [hh, if_true]; rfl⟩
    · simp only [hh, if_false, Except.bind]
      rw [cutFrameAt_cons_cons (two_le_headerLength b1) (by omega), if_pos (by omega)]
      exact ⟨_, rfl⟩

theorem parseFrame_of_le {d : Bytes} (h : declaredLength d ≤ d.length) :
    parseFrame d = .ok (cutFrame d, declaredLength d) := by
  match d with
  | [] | [_] => simp [declaredLength] at h
  | b0 :: b1 :: ext =>
    have hh := headerLength_le_declaredLength b0 b1 ext
    simp only [declaredLength, List.length_cons] at h hh
    rw [parseFrame_cons_cons, frameHeader_cons_cons, if_neg (by omega)]
    simp only [Except.bind]
    rw [cutFrameAt_cons_cons (two_le_headerLength b1) (by omega), if_neg (by omega)]
    rfl

theorem parseFrame_eq_ok {d : Bytes} {f : Frame} {used : Nat} (h : parseFrame d = .ok (f, used)) :
    f = cutFrame d ∧ used = declaredLength d ∧ declaredLength d ≤ d.length := by
  by_cases hle : declaredLength d ≤ d.length
  · rw [parseFrame_of_le hle] at h
    obtain ⟨rfl, rfl⟩ := Prod.mk.inj (Except.ok.inj h)
    exact ⟨rfl, rfl, hle⟩
  · obtain ⟨t, ht⟩ := parseFrame_of_lt (Nat.lt_of_not_le hle)
    rw [ht] at h
    cases h

/-! ## Frames as a sender writes them -/

/-- The three ways a payload length is written: in the 7-bit field itself, or as 126 or 127
followed by two or eight octets. -/
inductive LengthForm where
  | short
  | medium
  | long
  deriving Repr, DecidableEq

namespace LengthForm

/-- Whether a form can write a payload length. -/
def Fits : LengthForm → Nat → Prop
  | short, n => n ≤ 125
  | medium, n => n ≤ 65535
  | long, n => n < 2 ^ 64

instance : (form : LengthForm) → (n : Nat) → Decidable (form.Fits n)
  | short, n => inferInstanceAs (Decidable (n ≤ 125))
  | medium, n => inferInstanceAs (Decidable (n ≤ 65535))
  | long, n => inferInstanceAs (Decidable (n < 2 ^ 64))

/-- The 7-bit length field. -/
def field : LengthForm → Nat → Nat
  | short, n => n
  | medium, _ => 126
  | long, _ => 127

/-- The octets of the extended length. -/
def extended : LengthForm → Nat → Bytes
  | short, _ => []
  | medium, n => Bytes.ofBeNat 2 n
  | long, n => Bytes.ofBeNat 8 n

def second (form : LengthForm) (masked : Bool) (n : Nat) : UInt8 :=
  (if masked then 0x80 else 0) ||| (form.field n).toUInt8

def header (form : LengthForm) (b0 : UInt8) (masked : Bool) (n : Nat) : Bytes :=
  b0 :: form.second masked n :: form.extended n

theorem field_lt (form : LengthForm) {n : Nat} (h : form.Fits n) : form.field n < 128 := by
  cases form <;> simp only [Fits, field] at h ⊢ <;> omega

theorem second_bits (form : LengthForm) (masked : Bool) {n : Nat} (h : form.Fits n) :
    lengthField (form.second masked n) = form.field n ∧ maskBit (form.second masked n) = masked ∧
      form.second masked n &&& 0x7F = form.second false n := by
  have bits : ∀ f : Fin 128, ∀ m : Bool,
      lengthField ((if m then 0x80 else 0) ||| f.val.toUInt8) = f.val ∧
        maskBit ((if m then 0x80 else 0) ||| f.val.toUInt8) = m ∧
        ((if m then 0x80 else 0) ||| f.val.toUInt8) &&& 0x7F = 0 ||| f.val.toUInt8 := by
    decide
  exact bits ⟨form.field n, form.field_lt h⟩ masked

theorem declares (form : LengthForm) (masked : Bool) {n : Nat} (h : form.Fits n) (rest : Bytes) :
    headerLength (form.second masked n) = 2 + (form.extended n).length ∧
      payloadLength (form.second masked n) (form.extended n ++ rest) = n := by
  obtain ⟨hfield, -, -⟩ := form.second_bits masked h
  cases form with
  | short =>
    simp only [Fits, field, extended] at h hfield ⊢
    simp [headerLength, payloadLength, hfield, show n ≠ 126 by omega, show n ≠ 127 by omega]
  | medium =>
    simp only [Fits, field, extended] at h hfield ⊢
    simp [headerLength, payloadLength, hfield, Bytes.beNat_ofBeNat]
    omega
  | long =>
    simp only [Fits, field, extended] at h hfield ⊢
    simp [headerLength, payloadLength, hfield, Bytes.beNat_ofBeNat]
    exact h

end LengthForm

/-- A frame as a sender writes it: the header, then the masking key and the payload masked with
it, or the payload as it is. -/
def frameOctets (b0 : UInt8) (form : LengthForm) (key : Option (Vector UInt8 4)) (p : Bytes) :
    Bytes :=
  match key with
  | none => form.header b0 false p.length ++ p
  | some k => form.header b0 true p.length ++ k.toList ++ applyMask k.toList p

theorem parseFrame_frameOctets_append (b0 : UInt8) (form : LengthForm)
    (key : Option (Vector UInt8 4)) (p rest : Bytes) (hfit : form.Fits p.length) :
    parseFrame (frameOctets b0 form key p ++ rest) =
      .ok (⟨form.header b0 false p.length, p⟩, (frameOctets b0 form key p).length) := by
  obtain ⟨-, hunmasked, -⟩ := form.second_bits false hfit
  have hk0 : keyLength (form.second false p.length) = 0 := by simp [keyLength, hunmasked]
  cases key with
  | none =>
    obtain ⟨hh, hp⟩ := form.declares false hfit (p ++ rest)
    have hlen : declaredLength (frameOctets b0 form none p ++ rest) =
        (frameOctets b0 form none p).length := by
      simp only [frameOctets, LengthForm.header, List.cons_append, List.append_assoc,
        declaredLength, hh, hp, hk0, List.length_cons, List.length_append]
      omega
    rw [parseFrame_of_le (by rw [hlen]; simp), hlen]
    simp [frameOctets, LengthForm.header, cutFrame, hh, hp, hk0, applyMask,
      and_clear_of_not_maskBit hunmasked]
  | some k =>
    obtain ⟨-, hmasked, hclear⟩ := form.second_bits true hfit
    obtain ⟨hh, hp⟩ := form.declares true hfit (k.toList ++ (applyMask k.toList p ++ rest))
    have hk : keyLength (form.second true p.length) = 4 := by simp [keyLength, hmasked]
    simp only [applyMask] at hp
    have hlen : declaredLength (frameOctets b0 form (some k) p ++ rest) =
        (frameOctets b0 form (some k) p).length := by
      simp only [frameOctets, LengthForm.header, List.cons_append, List.append_assoc,
        declaredLength, hh, hp, hk, List.length_cons, List.length_append, Vector.length_toList,
        applyMask, Bytes.length_xorCycle]
      omega
    rw [parseFrame_of_le (by rw [hlen]; simp), hlen]
    simp [frameOctets, LengthForm.header, cutFrame, hh, hp, hk, hclear, applyMask]

/-- **Frames are cut as they are declared.** A frame written with any first octet, any length
form wide enough for its payload and any masking key is cut back, whatever follows it, into its
header with the mask bit cleared and its payload, taking exactly the octets written. Any octets
are refused exactly when they are fewer than the frame they begin declares, and a frame cut from
them takes what it declares: at least two octets and at most all of them. -/
theorem parseFrame_cuts_declared :
    (∀ (b0 : UInt8) (form : LengthForm) (key : Option (Vector UInt8 4)) (p rest : Bytes),
      form.Fits p.length →
        parseFrame (frameOctets b0 form key p ++ rest) =
          .ok (⟨form.header b0 false p.length, p⟩, (frameOctets b0 form key p).length)) ∧
    ∀ d : Bytes, ((∃ t, parseFrame d = .error t) ↔ d.length < declaredLength d) ∧
      ∀ f used, parseFrame d = .ok (f, used) →
        used = declaredLength d ∧ 2 ≤ used ∧ used ≤ d.length := by
  refine ⟨parseFrame_frameOctets_append, fun d => ⟨⟨fun ⟨t, ht⟩ => ?_, parseFrame_of_lt⟩, ?_⟩⟩
  · by_contra hle
    rw [parseFrame_of_le (Nat.le_of_not_lt hle)] at ht
    cases ht
  · intro f used hok
    by_cases hle : declaredLength d ≤ d.length
    · rw [parseFrame_of_le hle] at hok
      obtain ⟨-, rfl⟩ := Prod.mk.inj (Except.ok.inj hok)
      exact ⟨rfl, two_le_declaredLength d, hle⟩
    · obtain ⟨t, ht⟩ := parseFrame_of_lt (Nat.lt_of_not_le hle)
      rw [ht] at hok
      cases hok

theorem parseFrame_masked_hello :
    LengthForm.short.Fits 5 ∧
      parseFrame (frameOctets 0x81 .short (some #v[1, 2, 3, 4]) [104, 101, 108, 108, 111]) =
        .ok (⟨[0x81, 5], [104, 101, 108, 108, 111]⟩, 11) ∧
      ∃ t, parseFrame [0x81, 10, 97] = .error t := by
  have hfit : LengthForm.short.Fits 5 := by decide
  have hcut := parseFrame_cuts_declared.1 0x81 .short (some #v[1, 2, 3, 4])
    [104, 101, 108, 108, 111] [] hfit
  rw [List.append_nil] at hcut
  refine ⟨hfit, by rw [hcut]; rfl, (parseFrame_cuts_declared.2 [0x81, 10, 97]).1.2 (by decide)⟩

end WebSocket

end Dissect
