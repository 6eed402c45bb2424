/-!
# Shortest decimals of binary floating-point values

A finite binary value `m · 2^q` stands for every real that rounds to it: the reals strictly
closer to it than to its neighbours, and the two midpoints as well when `m` is even. Its
shortest decimal is the decimal of fewest significant digits in that interval, and of two such
decimals the nearer; an exact tie goes to the greater one.
-/

set_option autoImplicit false

namespace Dissect.Decimal

/-- A positive finite binary value `m · 2^q`. `narrowBelow` holds when the next value below is
half as far away as the next value above, as at a power of two above the least exponent. -/
structure Binary where
  m : Nat
  q : Int
  narrowBelow : Bool
  deriving Repr, DecidableEq

/-- What the bits of a floating-point number stand for. -/
inductive Value where
  | nan
  | infinity (negative : Bool)
  | zero (negative : Bool)
  | finite (negative : Bool) (x : Binary)
  deriving Repr, DecidableEq

/-- The value of 64 bits in the binary64 format. -/
def Value.ofBits64 (b : UInt64) : Value :=
  let neg := b >>> 63 == 1
  let e := ((b >>> 52) &&& 0x7FF).toNat
  let f := (b &&& 0xFFFFFFFFFFFFF).toNat
  if e == 0x7FF then (if f == 0 then .infinity neg else .nan)
  else if e == 0 then (if f == 0 then .zero neg else .finite neg ⟨f, -1074, false⟩)
  else .finite neg ⟨Nat.pow 2 52 + f, (e : Int) - 1075, f == 0 && e > 1⟩

/-- The value of 32 bits in the binary32 format. -/
def Value.ofBits32 (b : UInt32) : Value :=
  let neg := b >>> 31 == 1
  let e := ((b >>> 23) &&& 0xFF).toNat
  let f := (b &&& 0x7FFFFF).toNat
  if e == 0xFF then (if f == 0 then .infinity neg else .nan)
  else if e == 0 then (if f == 0 then .zero neg else .finite neg ⟨f, -149, false⟩)
  else .finite neg ⟨Nat.pow 2 23 + f, (e : Int) - 150, f == 0 && e > 1⟩

/-- A binary32 value seen as the binary64 value equal to it: the significand is moved into the
53-bit range, where every binary32 value is a normal binary64 value. -/
def Binary.widen (x : Binary) : Binary :=
  let s := 53 - (Nat.log2 x.m + 1)
  ⟨x.m * Nat.pow 2 s, x.q - s, x.m * Nat.pow 2 s == Nat.pow 2 52⟩

def Value.widen : Value → Value
  | .finite neg x => .finite neg x.widen
  | v => v

/-- A decimal `digits · 10^exp`. -/
structure Dec where
  digits : Nat
  exp : Int
  deriving Repr, DecidableEq

def cmpScaled (a : Nat) (i : Int) (n : Nat) (j : Int) : Ordering :=
  compare (a * Nat.pow 10 i.toNat * Nat.pow 2 (-j).toNat) (n * Nat.pow 2 j.toNat * Nat.pow 10 (-i).toNat)

/-- Whether a decimal lies among the reals that round to `x`. -/
def Binary.readsBack (x : Binary) (d : Dec) : Bool :=
  let lo := if x.narrowBelow then 4 * x.m - 1 else 4 * x.m - 2
  let hi := 4 * x.m + 2
  let incl := x.m % 2 == 0
  let cl := cmpScaled d.digits d.exp lo (x.q - 2)
  let ch := cmpScaled d.digits d.exp hi (x.q - 2)
  (cl == .gt || (incl && cl == .eq)) && (ch == .lt || (incl && ch == .eq))

def digitCount (n : Nat) : Nat := (Nat.toDigits 10 n).length

/-- The exponent `e` of the leading digit of `x`: `10^e ≤ m · 2^q < 10^(e+1)`. -/
def Binary.leadExp (x : Binary) : Int :=
  let num := x.m * Nat.pow 2 x.q.toNat
  let den := Nat.pow 2 (-x.q).toNat
  if den ≤ num then (digitCount (num / den) : Int) - 1
  else
    let j := digitCount den - digitCount num
    if den ≤ num * Nat.pow 10 j then -(j : Int) else -(j : Int) - 1

def Binary.floorOnGrid (x : Binary) (k : Int) : Nat :=
  (x.m * Nat.pow 2 x.q.toNat * Nat.pow 10 (-k).toNat) / (Nat.pow 2 (-x.q).toNat * Nat.pow 10 k.toNat)

/-- The point of the grid `10^k` chosen for `x`, if one of its two neighbours reads back: the
nearer one, and the greater one on a tie. -/
def Binary.onGrid (x : Binary) (k : Int) : Option Dec :=
  let lo := x.floorOnGrid k
  let below : Dec := ⟨lo, k⟩
  let above : Dec := ⟨lo + 1, k⟩
  match x.readsBack below, x.readsBack above with
  | true, true =>
    if cmpScaled (2 * lo + 1) k x.m (x.q + 1) == .gt then some below else some above
  | true, false => some below
  | false, true => some above
  | false, false => none

/-- A decimal without the zeros at the end of its digits. -/
def Dec.strip (d : Dec) : Dec :=
  let rec go : Nat → Nat → Int → Dec
    | 0, digits, exp => ⟨digits, exp⟩
    | fuel + 1, digits, exp =>
      if digits != 0 && digits % 10 == 0 then go fuel (digits / 10) (exp + 1) else ⟨digits, exp⟩
  go (digitCount d.digits) d.digits d.exp

/-- The shortest decimal of a positive finite value. -/
def Binary.shortest (x : Binary) : Dec :=
  let e := x.leadExp
  let found := (List.range 17).findSome? fun (i : Nat) => x.onGrid (e - (i : Int))
  match found with
  | some d => d.strip
  | none => (⟨x.floorOnGrid (e - 16), e - 16⟩ : Dec).strip

/-- The digits of a decimal in scientific layout: one digit, the point and the rest if any, then
`e` and the exponent of the leading digit. -/
def Dec.scientific (d : Dec) : String :=
  let s := Nat.toDigits 10 d.digits
  let lead := d.exp + (s.length : Int) - 1
  let body := match s with
    | [] => "0"
    | c :: [] => String.ofList [c]
    | c :: rest => String.ofList (c :: '.' :: rest)
  body ++ "e" ++ toString lead

/-- The digits of a decimal in positional layout, without a point when the value is whole. -/
def Dec.positional (d : Dec) : String :=
  let s := Nat.toDigits 10 d.digits
  if 0 ≤ d.exp then String.ofList (s ++ List.replicate d.exp.toNat '0')
  else
    let point := (s.length : Int) + d.exp
    if 0 < point then
      String.ofList (s.take point.toNat ++ '.' :: s.drop point.toNat)
    else String.ofList ('0' :: '.' :: List.replicate (-point).toNat '0' ++ s)

/-- A value in scientific layout: `1e0`, `-1.5e-7`, `0e0`, `NaN`, `inf`. -/
def Value.scientific : Value → String
  | .nan => "NaN"
  | .infinity neg => if neg then "-inf" else "inf"
  | .zero neg => if neg then "-0e0" else "0e0"
  | .finite neg x => (if neg then "-" else "") ++ x.shortest.scientific

/-- A value in positional layout: `1`, `0.001`, `-0`, `NaN`, `inf`. -/
def Value.positional : Value → String
  | .nan => "NaN"
  | .infinity neg => if neg then "-inf" else "inf"
  | .zero neg => if neg then "-0" else "0"
  | .finite neg x => (if neg then "-" else "") ++ x.shortest.positional

/-- Whether a value is neither NaN nor infinite. -/
def Value.isFinite : Value → Bool
  | .nan => false
  | .infinity _ => false
  | _ => true

end Dissect.Decimal
