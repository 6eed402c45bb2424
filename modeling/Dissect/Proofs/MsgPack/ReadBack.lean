import Mathlib
import Dissect.Proofs.Bytes.BigEndian
import Dissect.MsgPack.Write
import Dissect.MsgPack.Read

/-!
# Reading back what is written

Every head the writer produces is read back as what it stands for, and the reader stops right
after it, whatever follows: numbers below `2 ^ 64`, and strings, binaries, arrays and maps whose
lengths fit the 32-bit length fields of the format.
-/

set_option autoImplicit false

namespace Dissect.MsgPack

@[simp] theorem ok_bind {ε α β : Type} (a : α) (f : α → Except ε β) :
    (Except.ok a >>= f) = f a := rfl

@[simp] theorem run_readMarker_cons (b : UInt8) (rest : Bytes) :
    readMarker.run (b :: rest) = .ok (b, rest) := rfl

theorem run_readSlice_append (bs rest : Bytes) :
    (readSlice bs.length).run (bs ++ rest) = .ok (bs, rest) := by
  simp [readSlice]
  rfl

theorem run_readData_append (bs rest : Bytes) :
    (readData bs.length).run (bs ++ rest) = .ok (bs, rest) := by
  simp [readData]
  rfl

theorem run_readUnsigned_ofBeNat (w n : Nat) (rest : Bytes) (h : n < 256 ^ w) :
    (readUnsigned w).run (Bytes.ofBeNat w n ++ rest) = .ok (n, rest) := by
  have hdata := run_readData_append (Bytes.ofBeNat w n) rest
  rw [Bytes.length_ofBeNat] at hdata
  simp [readUnsigned, hdata, Bytes.beNat_ofBeNat, Nat.mod_eq_of_lt h]

theorem run_readHead_cons (m : UInt8) (rest : Bytes) :
    readHead.run (m :: rest) = (headOf m).run rest := rfl

theorem run_readHead_counted {m : UInt8} {w : Nat} {k : Nat → Head}
    (hm : headOf m = readUnsigned w >>= fun n => pure (k n)) (n : Nat) (rest : Bytes)
    (h : n < 256 ^ w) :
    readHead.run (m :: Bytes.ofBeNat w n ++ rest) = .ok (k n, rest) := by
  rw [List.cons_append, run_readHead_cons, hm, StateT.run_bind, run_readUnsigned_ofBeNat w n rest h]
  rfl

theorem run_readHead_sized {m : UInt8} {w : Nat} {k : Bytes → Head}
    (hm : headOf m = readUnsigned w >>= fun n => readSlice n >>= fun raw => pure (k raw))
    (raw rest : Bytes) (h : raw.length < 256 ^ w) :
    readHead.run (m :: Bytes.ofBeNat w raw.length ++ (raw ++ rest)) = .ok (k raw, rest) := by
  rw [List.cons_append, run_readHead_cons, hm, StateT.run_bind, run_readUnsigned_ofBeNat w _ _ h]
  simp [run_readSlice_append]

private theorem toNat_toUInt8 {n : Nat} (h : n < 256) : n.toUInt8.toNat = n := by
  simp only [Nat.toUInt8, UInt8.toNat_ofNat']
  omega

/-! Markers that carry their number in their low bits. -/

theorem headOf_fixpos {m : UInt8} (h : m.toNat < 0x80) : headOf m = pure (.unsigned m.toNat) := by
  unfold headOf
  simp only
  rw [if_pos h]

theorem headOf_fixmap {m : UInt8} (h₁ : 0x80 ≤ m.toNat) (h₂ : m.toNat < 0x90) :
    headOf m = pure (.map (m.toNat - 0x80)) := by
  unfold headOf
  simp only
  rw [if_neg (by omega), if_pos h₂]

theorem headOf_fixarray {m : UInt8} (h₁ : 0x90 ≤ m.toNat) (h₂ : m.toNat < 0xA0) :
    headOf m = pure (.array (m.toNat - 0x90)) := by
  unfold headOf
  simp only
  rw [if_neg (by omega), if_neg (by omega), if_pos h₂]

theorem headOf_fixstr {m : UInt8} (h₁ : 0xA0 ≤ m.toNat) (h₂ : m.toNat < 0xC0) :
    headOf m = readSlice (m.toNat - 0xA0) >>= fun raw => pure (.str raw) := by
  unfold headOf
  simp only
  rw [if_neg (by omega), if_neg (by omega), if_neg (by omega), if_pos h₂]

theorem run_readHead_uint (n : Nat) (rest : Bytes) (h : n < 2 ^ 64) :
    readHead.run (uint n ++ rest) = .ok (.unsigned n, rest) := by
  unfold uint
  split_ifs with h7 h8 h16 h32
  · have hm := toNat_toUInt8 (show n < 256 by omega)
    rw [List.singleton_append, run_readHead_cons, headOf_fixpos (by omega), hm]
    rfl
  · exact run_readHead_counted (by rfl) n rest (by simpa using h8)
  · exact run_readHead_counted (by rfl) n rest (by simpa using h16)
  · exact run_readHead_counted (by rfl) n rest (by simpa using h32)
  · exact run_readHead_counted (by rfl) n rest (by simpa using h)

theorem run_readHead_bin (raw rest : Bytes) (h : raw.length < 2 ^ 32) :
    readHead.run (bin raw ++ rest) = .ok (.bin raw, rest) := by
  unfold bin sized
  rw [List.append_assoc]
  split_ifs with h8 h16
  · exact run_readHead_sized (by rfl) raw rest (by simpa using h8)
  · exact run_readHead_sized (by rfl) raw rest (by simpa using h16)
  · exact run_readHead_sized (by rfl) raw rest (by simpa using h)

theorem run_readHead_str (s : String) (rest : Bytes) (h : (Bytes.ofString s).length < 2 ^ 32) :
    readHead.run (str s ++ rest) = .ok (.str (Bytes.ofString s), rest) := by
  simp only [str, sized]
  generalize Bytes.ofString s = raw at h ⊢
  rw [List.append_assoc]
  split_ifs with h5 h8 h16
  · have hm := toNat_toUInt8 (show 0xA0 + raw.length < 256 by omega)
    rw [List.singleton_append, run_readHead_cons, headOf_fixstr (by omega) (by omega), hm,
      Nat.add_sub_cancel_left]
    simp [run_readSlice_append]
  · exact run_readHead_sized (by rfl) raw rest (by simpa using h8)
  · exact run_readHead_sized (by rfl) raw rest (by simpa using h16)
  · exact run_readHead_sized (by rfl) raw rest (by simpa using h)

theorem run_readHead_arrayHead (n : Nat) (rest : Bytes) (h : n < 2 ^ 32) :
    readHead.run (arrayHead n ++ rest) = .ok (.array n, rest) := by
  unfold arrayHead
  split_ifs with h4 h16
  · have hm := toNat_toUInt8 (show 0x90 + n < 256 by omega)
    rw [List.singleton_append, run_readHead_cons, headOf_fixarray (by omega) (by omega), hm,
      Nat.add_sub_cancel_left]
    rfl
  · exact run_readHead_counted (by rfl) n rest (by simpa using h16)
  · exact run_readHead_counted (by rfl) n rest (by simpa using h)

theorem run_readHead_mapHead (n : Nat) (rest : Bytes) (h : n < 2 ^ 32) :
    readHead.run (mapHead n ++ rest) = .ok (.map n, rest) := by
  unfold mapHead
  split_ifs with h4 h16
  · have hm := toNat_toUInt8 (show 0x80 + n < 256 by omega)
    rw [List.singleton_append, run_readHead_cons, headOf_fixmap (by omega) (by omega), hm,
      Nat.add_sub_cancel_left]
    rfl
  · exact run_readHead_counted (by rfl) n rest (by simpa using h16)
  · exact run_readHead_counted (by rfl) n rest (by simpa using h)

theorem run_mapFields_field {σ : Type} (names : List String) (level : Nat)
    (hasField : Nat → σ → Bool) (setField : Nat → σ → Reader σ) (n : Nat) (acc : σ)
    (name : String) (i : Nat) (rest : Bytes)
    (hi : names.findIdx? (fun x => Bytes.ofString x == Bytes.ofString name) = some i)
    (hnew : hasField i acc = false) (hlen : (Bytes.ofString name).length < 2 ^ 32) :
    (mapFields names level hasField setField (n + 1) acc).run (str name ++ rest) =
      (setField i acc >>= mapFields names level hasField setField n).run rest := by
  simp [mapFields, StateT.run_bind, run_readHead_str name rest hlen, fieldKey, hi, hnew]

theorem run_mapFields_entry {σ : Type} (names : List String) (level : Nat)
    (hasField : Nat → σ → Bool) (setField : Nat → σ → Reader σ) (n : Nat) (acc acc' : σ)
    (name : String) (i : Nat) (value rest : Bytes)
    (hi : names.findIdx? (fun x => Bytes.ofString x == Bytes.ofString name) = some i)
    (hnew : hasField i acc = false) (hlen : (Bytes.ofString name).length < 2 ^ 32)
    (hset : (setField i acc).run (value ++ rest) = .ok (acc', rest)) :
    (mapFields names level hasField setField (n + 1) acc).run (str name ++ (value ++ rest)) =
      (mapFields names level hasField setField n acc').run rest := by
  rw [run_mapFields_field names level hasField setField n acc name i _ hi hnew hlen,
    StateT.run_bind, hset, ok_bind]

/-! Enums, as the writer writes a variant: its name alone, or a map of one entry from its name. -/

theorem run_enumOf_name {α : Type} (names : List String) (variant : Nat → Variant α)
    (s : String) (i : Nat) (v : α) (rest : Bytes)
    (hs : Utf8.decode (Bytes.ofString s) = .ok s) (hi : names.idxOf? s = some i)
    (hv : variant i = .unit v) (hshort : (Bytes.ofString s).length < 32) :
    (enumOf names variant).run (str s ++ rest) = .ok (v, rest) := by
  have hm := toNat_toUInt8 (show 0xA0 + (Bytes.ofString s).length < 256 by omega)
  -- a string marker is no map marker, so the name is read as a bare identifier
  have hnone : mapLength? (0xA0 + (Bytes.ofString s).length).toUInt8 = none := by
    unfold mapLength?
    simp only [hm]
    rw [if_neg (by omega), if_neg (by omega), if_neg (by omega)]
  simp only [str, if_pos hshort, List.cons_append]
  simp only [enumOf, StateT.run_bind, run_readMarker_cons, ok_bind, hnone]
  rw [headOf_fixstr (by omega) (by omega), hm, Nat.add_sub_cancel_left]
  simp [run_readSlice_append, variantIndex, hs, variantIndex.named, hi, hv]
  rfl

theorem run_enumOf_entry {α : Type} (names : List String) (variant : Nat → Variant α)
    (s : String) (i : Nat) (read : Reader α) (rest : Bytes)
    (hs : Utf8.decode (Bytes.ofString s) = .ok s) (hi : names.idxOf? s = some i)
    (hv : variant i = .newtype read) (hlen : (Bytes.ofString s).length < 2 ^ 32) :
    (enumOf names variant).run (mapHead 1 ++ (str s ++ rest)) = read.run rest := by
  have hone : mapHead 1 = [0x81] := rfl
  have hmap : mapLength? 0x81 = some (pure 1) := rfl
  rw [hone, List.singleton_append]
  simp only [enumOf, StateT.run_bind, run_readMarker_cons, ok_bind, hmap]
  simp [StateT.run_bind, run_readHead_str s rest hlen, variantIndex, hs, variantIndex.named, hi,
    hv]

end Dissect.MsgPack
