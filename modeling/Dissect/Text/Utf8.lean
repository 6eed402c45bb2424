import Dissect.Bytes.Basic

/-!
# UTF-8

Reading octets as UTF-8 text after RFC 3629. A first octet fixes how many continuation octets
follow and the range of the second one (`E0` needs `A0`-`BF`, `ED` needs `80`-`9F`, `F0` needs
`90`-`BF`, `F4` needs `80`-`8F`, every other continuation `80`-`BF`). Where the octets leave the
grammar, the longest prefix that still begins a character is refused as one piece: strict
decoding reports its length and position, and lossy decoding writes one U+FFFD for it.
-/

set_option autoImplicit false

namespace Dissect.Utf8

/-- The shape of a multi-octet character from its first octet: the number of continuation octets,
and the least and greatest second octet. -/
def lead (b : UInt8) : Option (Nat × UInt8 × UInt8) :=
  if 0xC2 ≤ b ∧ b ≤ 0xDF then some (1, 0x80, 0xBF)
  else if b = 0xE0 then some (2, 0xA0, 0xBF)
  else if b = 0xED then some (2, 0x80, 0x9F)
  else if 0xE1 ≤ b ∧ b ≤ 0xEF then some (2, 0x80, 0xBF)
  else if b = 0xF0 then some (3, 0x90, 0xBF)
  else if b = 0xF4 then some (3, 0x80, 0x8F)
  else if 0xF1 ≤ b ∧ b ≤ 0xF3 then some (3, 0x80, 0xBF)
  else none

/-- What stands at the front of a nonempty octet string. -/
inductive Piece where
  | char (c : Char) (more : Nat)
  | refused (more : Nat)
  | cut
  deriving Repr, DecidableEq

/-- Continuation octets after the second: `count` of them in `80`-`BF`, folded into `acc`.
`seen` counts the octets of the character read so far. -/
def tail (acc : Nat) (seen : Nat) : Nat → Bytes → Piece
  | 0, _ => .char (Char.ofNat acc) (seen - 1)
  | _ + 1, [] => .cut
  | n + 1, c :: rest =>
    if 0x80 ≤ c ∧ c ≤ 0xBF then tail (acc * 64 + (c.toNat - 0x80)) (seen + 1) n rest
    else .refused (seen - 1)

/-- The piece at the front of the octet string `b :: rest`. -/
def piece (b : UInt8) (rest : Bytes) : Piece :=
  if b < 0x80 then .char (Char.ofNat b.toNat) 0
  else match lead b with
    | none => .refused 0
    | some (n, lo, hi) =>
      match rest with
      | [] => .cut
      | c :: rest' =>
        if lo ≤ c ∧ c ≤ hi then
          let first := b.toNat % (Nat.pow 2 (6 - n))
          tail (first * 64 + (c.toNat - 0x80)) 2 (n - 1) rest'
        else .refused 0

/-- Where strict decoding stopped: the octets before it are text, and `length` octets from there
begin no character (`none` when the input ends inside one). -/
structure Fault where
  validUpTo : Nat
  length : Option Nat
  deriving Repr, DecidableEq

/-- The text of a fault, as error messages quote it. -/
def Fault.message (f : Fault) : String :=
  match f.length with
  | some n => s!"invalid utf-8 sequence of {n} bytes from index {f.validUpTo}"
  | none => s!"incomplete utf-8 byte sequence from index {f.validUpTo}"

/-- The characters of well-formed UTF-8 after those already read (`acc`, latest first), or the
first fault, counting positions from `pos`. -/
def decodeFrom (pos : Nat) (acc : List Char) : Bytes → Except Fault (List Char)
  | [] => .ok acc.reverse
  | b :: rest =>
    match piece b rest with
    | .char c more => decodeFrom (pos + 1 + more) (c :: acc) (rest.drop more)
    | .refused more => .error ⟨pos, some (1 + more)⟩
    | .cut => .error ⟨pos, none⟩
termination_by bs => bs.length
decreasing_by simp only [List.length_drop, List.length_cons]; omega

/-- The text that well-formed UTF-8 octets encode, or the first fault. -/
def decode (bs : Bytes) : Except Fault String :=
  (decodeFrom 0 [] bs).map String.ofList

/-- The characters of octets read leniently, after those already read (`acc`, latest first):
each refused piece, and a character cut off by the end, becomes one U+FFFD. -/
def lossyChars (acc : List Char) : Bytes → List Char
  | [] => acc.reverse
  | b :: rest =>
    match piece b rest with
    | .char c more => lossyChars (c :: acc) (rest.drop more)
    | .refused more => lossyChars ('�' :: acc) (rest.drop more)
    | .cut => ('�' :: acc).reverse
termination_by bs => bs.length
decreasing_by all_goals (simp only [List.length_drop, List.length_cons]; omega)

/-- Octets read as text, with U+FFFD for whatever is not UTF-8. -/
def lossy (bs : Bytes) : String := String.ofList (lossyChars [] bs)

/-- Whether octets are well-formed UTF-8. -/
def isValid (bs : Bytes) : Bool :=
  match decodeFrom 0 [] bs with
  | .ok _ => true
  | .error _ => false

end Dissect.Utf8
