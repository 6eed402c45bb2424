import Dissect.Bytes.Basic
/-!
# SHA-1

The SHA-1 digest (FIPS 180-4), used for the WebSocket handshake: the message is padded with a one
bit, zeros and its bit length to a multiple of 64 octets, and each 64-octet block is mixed into
five 32-bit words in eighty rounds.
-/

set_option autoImplicit false

namespace Dissect.Sha1

def rotl (x : UInt32) (n : UInt32) : UInt32 := (x <<< n) ||| (x >>> (32 - n))

/-- The message padded to whole blocks. -/
def pad (msg : Bytes) : Bytes :=
  let len := msg.length
  let zeros := (119 - len % 64) % 64
  msg ++ [0x80] ++ List.replicate zeros 0 ++ Bytes.ofBeNat 8 (len * 8)

def blockWords (block : Bytes) : List UInt32 :=
  (List.range 16).map fun i => (Bytes.beNat ((block.drop (4 * i)).take 4)).toUInt32

/-- The eighty words of the message schedule. -/
def schedule (w : List UInt32) : Array UInt32 :=
  (List.range 64).foldl (fun (acc : Array UInt32) i =>
    let t := i + 16
    acc.push (rotl (acc.getD (t - 3) 0 ^^^ acc.getD (t - 8) 0 ^^^ acc.getD (t - 14) 0 ^^^
      acc.getD (t - 16) 0) 1)) w.toArray

/-- The five working words. -/
structure State where
  a : UInt32
  b : UInt32
  c : UInt32
  d : UInt32
  e : UInt32

def State.initial : State := ⟨0x67452301, 0xEFCDAB89, 0x98BADCFE, 0x10325476, 0xC3D2E1F0⟩

/-- One round. -/
def round (w : Array UInt32) (s : State) (t : Nat) : State :=
  let (f, k) : UInt32 × UInt32 :=
    if t < 20 then ((s.b &&& s.c) ||| (~~~s.b &&& s.d), 0x5A827999)
    else if t < 40 then (s.b ^^^ s.c ^^^ s.d, 0x6ED9EBA1)
    else if t < 60 then ((s.b &&& s.c) ||| (s.b &&& s.d) ||| (s.c &&& s.d), 0x8F1BBCDC)
    else (s.b ^^^ s.c ^^^ s.d, 0xCA62C1D6)
  let temp := rotl s.a 5 + f + s.e + k + w.getD t 0
  ⟨temp, s.a, rotl s.b 30, s.c, s.d⟩

/-- Mix one block into the hash value. -/
def compress (h : State) (block : Bytes) : State :=
  let w := schedule (blockWords block)
  let s := (List.range 80).foldl (round w) h
  ⟨h.a + s.a, h.b + s.b, h.c + s.c, h.d + s.d, h.e + s.e⟩

def blocks (msg : Bytes) : List Bytes :=
  (List.range (msg.length / 64)).map fun i => (msg.drop (64 * i)).take 64

def digest (msg : Bytes) : Bytes :=
  let h := (blocks (pad msg)).foldl compress State.initial
  [h.a, h.b, h.c, h.d, h.e].flatMap fun x => Bytes.ofBeNat 4 x.toNat

end Dissect.Sha1
