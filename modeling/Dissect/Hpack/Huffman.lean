import Dissect.Huffman.Canonical
import Dissect.Bytes.Basic
/-!
# The HPACK string code

Header names and values may be sent in a fixed canonical prefix code over the 256 octet values
and an end-of-string symbol (256). Codewords are read most significant bit first. The string
must not contain the end-of-string symbol, and the bits after the last codeword, at most seven,
must all be ones (the start of the end-of-string codeword).
-/

set_option autoImplicit false

namespace Dissect.Hpack

open Dissect.Huffman

/-- The codeword length of each symbol, octets first and the end-of-string symbol last. -/
def codeLengths : Array Nat := #[
    13, 23, 28, 28, 28, 28, 28, 28, 28, 24, 30, 28, 28, 30, 28, 28,
    28, 28, 28, 28, 28, 28, 30, 28, 28, 28, 28, 28, 28, 28, 28, 28,
    6, 10, 10, 12, 13, 6, 8, 11, 10, 10, 8, 11, 8, 6, 6, 6,
    5, 5, 5, 6, 6, 6, 6, 6, 6, 6, 7, 8, 15, 6, 12, 10,
    13, 6, 7, 7, 7, 7, 7, 7, 7, 7, 7, 7, 7, 7, 7, 7,
    7, 7, 7, 7, 7, 7, 7, 7, 8, 7, 8, 13, 19, 13, 14, 6,
    15, 5, 6, 5, 6, 5, 6, 6, 6, 5, 7, 7, 6, 6, 6, 5,
    6, 7, 6, 5, 5, 6, 7, 7, 7, 7, 7, 15, 11, 14, 13, 28,
    20, 22, 20, 20, 22, 22, 22, 23, 22, 23, 23, 23, 23, 23, 24, 23,
    24, 24, 22, 23, 24, 23, 23, 23, 23, 21, 22, 23, 22, 23, 23, 24,
    22, 21, 20, 22, 22, 23, 23, 21, 23, 22, 22, 24, 21, 22, 23, 23,
    21, 21, 22, 21, 23, 22, 23, 23, 20, 22, 22, 22, 23, 22, 22, 23,
    26, 26, 20, 19, 22, 23, 22, 25, 26, 26, 26, 27, 27, 26, 24, 25,
    19, 21, 26, 27, 27, 26, 27, 24, 21, 21, 26, 26, 28, 27, 27, 27,
    20, 24, 20, 21, 22, 21, 21, 23, 22, 22, 25, 25, 24, 24, 26, 23,
    26, 27, 26, 26, 27, 27, 27, 27, 27, 28, 27, 27, 27, 27, 27, 26,
    30]

def stringCode : Code := Code.ofLengths codeLengths

def endOfString : Nat := 256

/-- Why a coded string cannot be read. -/
inductive HuffmanError where
  | paddingTooLarge
  | invalidPadding
  | eosInString
  deriving Repr, DecidableEq

/-- The name of a string-code error. -/
def HuffmanError.name : HuffmanError → String
  | .paddingTooLarge => "PaddingTooLarge"
  | .invalidPadding => "InvalidPadding"
  | .eosInString => "EOSInString"

def octetBits (b : UInt8) : List Bool :=
  (List.range 8).reverse.map fun i => (b.toNat >>> i) % 2 == 1

/-- Read codewords from a stream of bits; the cursor holds the bits of an unfinished codeword.
The code is complete, so every bit string begins with a codeword and `.stray` never comes. -/
def decodeBits (out : Bytes) (cur : Cursor) : List Bool → Except HuffmanError (Bytes × Cursor)
  | [] => .ok (out, cur)
  | bit :: rest =>
    match stringCode.step cur bit with
    | .symbol s =>
      if s = endOfString then .error .eosInString
      else decodeBits (out ++ [s.toUInt8]) {} rest
    | .more cur => decodeBits out cur rest
    | .stray => .error .eosInString

/-- Decode a coded string. -/
def decodeString (bs : Bytes) : Except HuffmanError Bytes := do
  let (out, cur) ← decodeBits [] {} (bs.flatMap octetBits)
  if cur.len > 7 then throw .paddingTooLarge
  if cur.value ≠ Nat.pow 2 cur.len - 1 then throw .invalidPadding
  pure out

end Dissect.Hpack
