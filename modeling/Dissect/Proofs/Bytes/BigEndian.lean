import Mathlib
import Dissect.Bytes.Basic

/-!
# Big-endian numbers read back

A number written in `w` big-endian octets is read back modulo `256 ^ w`, so a number below that
bound is read back as itself. Three and four octets, the widths of frame lengths and of sequence
numbers and lengths of record headers, are also given as an explicit list, for readers that match
on it.
-/

set_option autoImplicit false

namespace Dissect.Bytes

theorem beNat_append_singleton (bs : Bytes) (b : UInt8) :
    beNat (bs ++ [b]) = beNat bs * 256 + b.toNat := by
  simp [beNat, List.foldl_append]

theorem beNat_ofBeNat (w n : Nat) : beNat (ofBeNat w n) = n % 256 ^ w := by
  induction w generalizing n with
  | zero => simp [ofBeNat, Nat.mod_one]
  | succ w ih =>
    have low : ((n % 256).toUInt8).toNat = n % 256 := by
      simp [Nat.toUInt8]
    rw [ofBeNat, beNat_append_singleton, ih, low, Nat.pow_succ', Nat.mod_mul]
    omega

theorem ofBeNat_three (n : Nat) :
    ∃ b0 b1 b2, ofBeNat 3 n = [b0, b1, b2] ∧ beNat [b0, b1, b2] = n % 2 ^ 24 := by
  refine ⟨_, _, _, rfl, ?_⟩
  have := beNat_ofBeNat 3 n
  simp only [ofBeNat, List.nil_append, List.cons_append] at this
  simpa using this

theorem ofBeNat_four (n : Nat) :
    ∃ b0 b1 b2 b3, ofBeNat 4 n = [b0, b1, b2, b3] ∧ beNat [b0, b1, b2, b3] = n % 2 ^ 32 := by
  refine ⟨_, _, _, _, rfl, ?_⟩
  have := beNat_ofBeNat 4 n
  simp only [ofBeNat, List.nil_append, List.cons_append] at this
  simpa using this

end Dissect.Bytes
