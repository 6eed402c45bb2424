import Dissect.Bytes.Basic
/-!
# Base64

Octets written six bits to a symbol, in the standard alphabet with `=` padding or in the URL-safe
one, whose unpadded form is read with the checks that decide which error a bad text gets.
-/

set_option autoImplicit false

namespace Dissect.Base64

def standardAlphabet : List Char :=
  "ABCDEFGHIJKLMNOPQRSTUVWXYZabcdefghijklmnopqrstuvwxyz0123456789+/".toList

def standardSymbol (v : Nat) : Char := standardAlphabet.getD v 'A'

/-- Standard Base64 with padding. -/
def encode (bs : Bytes) : String :=
  let rec go : Bytes → List Char
    | a :: b :: c :: rest =>
      let n := a.toNat * 65536 + b.toNat * 256 + c.toNat
      standardSymbol (n / 262144) :: standardSymbol (n / 4096 % 64) ::
        standardSymbol (n / 64 % 64) :: standardSymbol (n % 64) :: go rest
    | [a, b] =>
      let n := a.toNat * 65536 + b.toNat * 256
      [standardSymbol (n / 262144), standardSymbol (n / 4096 % 64), standardSymbol (n / 64 % 64), '=']
    | [a] =>
      let n := a.toNat * 65536
      [standardSymbol (n / 262144), standardSymbol (n / 4096 % 64), '=', '=']
    | [] => []
  String.ofList (go bs)

/-- The value of a symbol of the URL-safe alphabet. -/
def urlValue? (c : UInt8) : Option Nat :=
  if 65 ≤ c ∧ c ≤ 90 then some (c.toNat - 65)
  else if 97 ≤ c ∧ c ≤ 122 then some (c.toNat - 97 + 26)
  else if 48 ≤ c ∧ c ≤ 57 then some (c.toNat - 48 + 52)
  else if c == 45 then some 62
  else if c == 95 then some 63
  else none

def padSymbol : UInt8 := 61

/-- Why a text is not unpadded URL-safe Base64. -/
inductive DecodeError where
  | invalidByte (index : Nat) (byte : UInt8)
  | invalidLength (length : Nat)
  | invalidLastSymbol (index : Nat) (byte : UInt8)
  | invalidPadding
  deriving Repr, DecidableEq

/-- The text of a decoding error. -/
def DecodeError.message : DecodeError → String
  | .invalidByte i b => s!"Invalid symbol {b.toNat}, offset {i}."
  | .invalidLength n => s!"Invalid input length: {n}"
  | .invalidLastSymbol i b => s!"Invalid last symbol {b.toNat}, offset {i}."
  | .invalidPadding => "Invalid padding"

/-- Gather six bits at a time, emitting an octet whenever eight have gathered; the state holds
the octets so far (last first), the bits not yet emitted and their number. -/
def gather (st : Bytes × Nat × Nat) (v : Nat) : Bytes × Nat × Nat :=
  let (out, acc, nbits) := st
  let acc := acc * 64 + v
  if nbits + 6 ≥ 8 then
    ((acc / Nat.pow 2 (nbits + 6 - 8)).toUInt8 :: out, acc % Nat.pow 2 (nbits + 6 - 8), nbits + 6 - 8)
  else (out, acc, nbits + 6)

/-- The values of the symbols of a group, or the first stray symbol, counted from `start`. -/
def values (start : Nat) : Nat → Bytes → Except DecodeError (List Nat)
  | _, [] => .ok []
  | i, c :: rest =>
    match urlValue? c with
    | some v => do pure (v :: (← values start (i + 1) rest))
    | none => .error (.invalidByte (start + i) c)

/-- Read the last group, which starts at `start`: the values of its symbols, and an error for
padding inside it. -/
def lastGroup (start : Nat) (group : Bytes) : Except DecodeError (List Nat × Nat) :=
  let rec go (i : Nat) (firstPad : Option Nat) (pads : Nat) : Bytes →
      Except DecodeError (List Nat × Nat)
    | [] => .ok ([], pads)
    | c :: rest =>
      if c == padSymbol then
        if i < 2 then .error (.invalidByte (start + i) c)
        else go (i + 1) (firstPad <|> some i) (pads + 1) rest
      else match firstPad with
        | some p => .error (.invalidByte (start + p) padSymbol)
        | none =>
          match urlValue? c with
          | none => .error (.invalidByte (start + i) c)
          | some v => do
            let (vs, pads) ← go (i + 1) firstPad pads rest
            pure (v :: vs, pads)
  go 0 none 0 group

/-- Read unpadded URL-safe Base64. -/
def decodeUrlSafe (bs : Bytes) : Except DecodeError Bytes := do
  let n := bs.length
  if n % 4 = 1 then
    match bs.getLast? with
    | some last =>
      if last != padSymbol && (urlValue? last).isNone then throw (.invalidByte (n - 1) last)
    | none => pure ()
  let whole := n - n % 4 - (if n % 4 = 0 then 4 else 0)
  let front ← values 0 0 (bs.take whole)
  let (back, pads) ← lastGroup whole (bs.drop whole)
  if n > 0 && back.length < 2 then throw (.invalidLength (whole + back.length))
  if pads > 0 then throw .invalidPadding
  let (out, rest, _) := (front ++ back).foldl gather ([], 0, 0)
  if rest ≠ 0 then
    throw (.invalidLastSymbol (whole + back.length - 1) (bs.getD (whole + back.length - 1) 0))
  pure out.reverse

end Dissect.Base64
