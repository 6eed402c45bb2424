import Dissect.Bytes.Basic

/-!
# Writing MessagePack

The encodings a record payload is written with. Every number, string, binary, array and map is
written in the shortest form MessagePack has for it: a number below 128 in its marker octet, a
string of fewer than 32 octets with its length in the marker, and so on up through the 8-, 16-
and 32-bit lengths.
-/

set_option autoImplicit false

namespace Dissect.MsgPack

/-- An unsigned integer in its shortest encoding. -/
def uint (n : Nat) : Bytes :=
  if n < 0x80 then [n.toUInt8]
  else if n < 0x100 then 0xCC :: Bytes.ofBeNat 1 n
  else if n < 0x10000 then 0xCD :: Bytes.ofBeNat 2 n
  else if n < 0x100000000 then 0xCE :: Bytes.ofBeNat 4 n
  else 0xCF :: Bytes.ofBeNat 8 n

/-- A length given after a marker of one, two or four octets' width. -/
def sized (m8 m16 m32 : UInt8) (n : Nat) : Bytes :=
  if n < 0x100 then m8 :: Bytes.ofBeNat 1 n
  else if n < 0x10000 then m16 :: Bytes.ofBeNat 2 n
  else m32 :: Bytes.ofBeNat 4 n

/-- A UTF-8 string. -/
def str (s : String) : Bytes :=
  let raw := Bytes.ofString s
  let n := raw.length
  (if n < 32 then [(0xA0 + n).toUInt8] else sized 0xD9 0xDA 0xDB n) ++ raw

def bin (raw : Bytes) : Bytes := sized 0xC4 0xC5 0xC6 raw.length ++ raw

/-- The head of an array of `n` elements. -/
def arrayHead (n : Nat) : Bytes :=
  if n < 16 then [(0x90 + n).toUInt8]
  else if n < 0x10000 then 0xDC :: Bytes.ofBeNat 2 n
  else 0xDD :: Bytes.ofBeNat 4 n

/-- The head of a map of `n` entries. -/
def mapHead (n : Nat) : Bytes :=
  if n < 16 then [(0x80 + n).toUInt8]
  else if n < 0x10000 then 0xDE :: Bytes.ofBeNat 2 n
  else 0xDF :: Bytes.ofBeNat 4 n

def record (fields : List (String × Bytes)) : Bytes :=
  mapHead fields.length ++ fields.flatMap fun (k, v) => str k ++ v

def array (elems : List Bytes) : Bytes := arrayHead elems.length ++ elems.flatten

end Dissect.MsgPack
