/-!
# Octet strings

Every wire format of this library reads and writes octet strings. They are lists of octets, so
that a parser can take them apart by pattern matching and a lemma can follow the recursion. The
module also holds the big-endian numbers that frame headers use, lowercase hexadecimal text, the
search for a separator, and the cyclic exclusive-or that masks WebSocket payloads.
-/

set_option autoImplicit false

namespace Dissect

abbrev Bytes := List UInt8

namespace Bytes

def ofString (s : String) : Bytes := s.toUTF8.toList

def beNat (bs : Bytes) : Nat := bs.foldl (fun acc b => acc * 256 + b.toNat) 0

def ofBeNat : Nat → Nat → Bytes
  | 0, _ => []
  | w + 1, n => ofBeNat w (n / 256) ++ [(n % 256).toUInt8]

def hexDigit (n : Nat) : Char :=
  if n < 10 then Char.ofNat (48 + n) else Char.ofNat (87 + n)

def hexOctet (b : UInt8) : String :=
  String.ofList [hexDigit (b.toNat / 16), hexDigit (b.toNat % 16)]

def hex (bs : Bytes) : String := bs.foldl (fun acc b => acc ++ hexOctet b) ""

def hexPadded (width n : Nat) : String :=
  let digits := Nat.toDigits 16 n
  String.ofList (List.replicate (width - digits.length) '0' ++ digits)

def findFrom (pat : Bytes) (i : Nat) : Bytes → Option Nat
  | [] => if pat.isEmpty then some i else none
  | b :: rest => if pat.isPrefixOf (b :: rest) then some i else findFrom pat (i + 1) rest

def find? (pat : Bytes) (bs : Bytes) : Option Nat := findFrom pat 0 bs

/-- Exclusive-or with a key that repeats from the first octet on. -/
def xorCycle (key : Bytes) (bs : Bytes) : Bytes :=
  let rec go : Nat → Bytes → Bytes
    | _, [] => []
    | i, b :: rest => (b ^^^ key.getD (i % key.length) 0) :: go (i + 1) rest
  go 0 bs

@[simp] theorem beNat_nil : beNat [] = 0 := rfl

@[simp] theorem length_ofBeNat (w n : Nat) : (ofBeNat w n).length = w := by
  induction w generalizing n with
  | zero => rfl
  | succ w ih => simp [ofBeNat, ih]

@[simp] theorem length_xorCycle (key bs : Bytes) : (xorCycle key bs).length = bs.length := by
  suffices h : ∀ i, (xorCycle.go key i bs).length = bs.length from h 0
  induction bs with
  | nil => intro i; rfl
  | cons b rest ih => intro i; simp [xorCycle.go, ih]

end Bytes

end Dissect
