/-!
# Unsigned numerals

A numeral is an optional `+` followed by at least one digit of its base; it names a number only
if that number is below the bound of the field it is read into. Leading zeros are allowed.
-/

set_option autoImplicit false

namespace Dissect.Text

/-- The value of a digit in base 16 or below, if the character is one. -/
def digitValue (radix : Nat) (c : Char) : Option Nat :=
  let v :=
    if '0' ≤ c ∧ c ≤ '9' then some (c.toNat - '0'.toNat)
    else if 'a' ≤ c ∧ c ≤ 'z' then some (c.toNat - 'a'.toNat + 10)
    else if 'A' ≤ c ∧ c ≤ 'Z' then some (c.toNat - 'A'.toNat + 10)
    else none
  v.filter (· < radix)

/-- The number that the digits spell in a base. -/
def digitsValue (radix : Nat) : List Char → Option Nat → Option Nat
  | [], acc => acc
  | c :: cs, acc => digitsValue radix cs (do
      let a ← acc
      let d ← digitValue radix c
      pure (a * radix + d))

/-- Read an unsigned numeral of a base that must stay below `bound`. -/
def readUnsigned (radix bound : Nat) (s : String) : Option Nat :=
  let digits := match s.toList with
    | '+' :: rest => rest
    | cs => cs
  if digits.isEmpty then none
  else (digitsValue radix digits (some 0)).filter (· < bound)

theorem readUnsigned_empty (radix bound : Nat) : readUnsigned radix bound "" = none := rfl

end Dissect.Text
