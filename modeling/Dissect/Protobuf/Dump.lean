import Dissect.Bytes.Basic
import Dissect.Text.Utf8
import Dissect.Text.Quoted
import Dissect.Decimal.Shortest
/-!
# Showing protobuf messages without a schema

A protobuf message is a sequence of fields, each a varint key and a value; without a schema a
field is shown by what its wire type allows.
-/

set_option autoImplicit false

namespace Dissect.Protobuf

/-- Why octets are not a message. -/
inductive Malformed where
  | truncatedVarint
  | varintTooLong
  | fieldZero
  | pastEnd
  | groups
  | wireType (n : Nat)
  | tooDeep
  deriving Repr, DecidableEq

/-- The text of a malformation. -/
def Malformed.message (m : Malformed) : String :=
  "Invalid protobuf message: " ++ match m with
  | .truncatedVarint => "truncated varint"
  | .varintTooLong => "varint longer than 10 bytes"
  | .fieldZero => "field number 0"
  | .pastEnd => "field runs past end of message"
  | .groups => "groups are not supported"
  | .wireType n => s!"invalid wire type {n}"
  | .tooDeep => "message nested too deeply"

def maxDepth : Nat := 16

def maxHexOctets : Nat := 64

/-- Read a varint of at most ten octets, seven bits each, least significant first; bits past the
64th are dropped. -/
def readVarint (bs : Bytes) : Except Malformed (Nat × Bytes) :=
  let rec go (i shift acc : Nat) : Bytes → Except Malformed (Nat × Bytes)
    | [] => .error .truncatedVarint
    | b :: rest =>
      let acc := acc + (b.toNat % 128) * Nat.pow 2 shift
      if b.toNat < 128 then .ok (acc % Nat.pow 2 64, rest)
      else if i + 1 = 10 then .error .varintTooLong
      else go (i + 1) (shift + 7) acc rest
  go 0 0 0 bs

def takeOctets (n : Nat) (bs : Bytes) : Except Malformed (Bytes × Bytes) :=
  if n ≤ bs.length then .ok (bs.take n, bs.drop n) else .error .pastEnd

def signed (width n : Nat) : Int := if n < Nat.pow 2 (width - 1) then n else (n : Int) - Nat.pow 2 width

def hexDigits (width n : Nat) : String :=
  let ds := Nat.toDigits 16 n
  String.ofList (List.replicate (width - ds.length) '0' ++ ds)

def isPlainText (s : String) : Bool :=
  s.all fun c => !(c.toNat < 0x20 || (0x7F ≤ c.toNat && c.toNat ≤ 0x9F)) || c == '\n' ||
    c == '\t' || c == '\r'

/-- The fields of a message at a nesting depth, written after `out`. Each call reads at least
one octet of the octets it is given, and a nested message is shorter than its field, so `fuel`
above the number of octets suffices. -/
def dump : Nat → Nat → Bytes → String → Except Malformed String
  | 0, _, _, out => .ok out
  | fuel + 1, depth, data, out => do
    if depth > maxDepth then throw .tooDeep
    if data.isEmpty then return out
    let (key, rest) ← readVarint data
    let field := key / 8
    if field = 0 then throw .fieldZero
    let (line, rest) ← fieldValue fuel depth (key % 8) rest
    let indent := String.ofList (List.replicate (4 * depth) ' ')
    dump fuel depth rest (out ++ indent ++ s!"{field} " ++ line)
where
  fieldValue (fuel depth wire : Nat) (rest : Bytes) : Except Malformed (String × Bytes) :=
    match wire with
    | 0 => do
      let (v, rest) ← readVarint rest
      pure (s!"<varint> = {v}\n", rest)
    | 1 => do
      let (raw, rest) ← takeOctets 8 rest
      let v := Bytes.beNat raw.reverse
      let f := (Decimal.Value.ofBits64 v.toUInt64).scientific
      pure (s!"<64bit> = 0x{hexDigits 16 v} / {signed 64 v} / {f}\n", rest)
    | 5 => do
      let (raw, rest) ← takeOctets 4 rest
      let v := Bytes.beNat raw.reverse
      let f := (Decimal.Value.ofBits32 v.toUInt32).scientific
      pure (s!"<32bit> = 0x{hexDigits 8 v} / {signed 32 v} / {f}\n", rest)
    | 2 => do
      let (len, rest) ← readVarint rest
      let (bytes, rest) ← takeOctets len rest
      pure (chunk fuel depth bytes, rest)
    | 3 | 4 => throw .groups
    | w => throw (.wireType w)
  chunk (fuel depth : Nat) (bytes : Bytes) : String :=
    if bytes.isEmpty then "<chunk> = empty chunk\n" else
    match Utf8.decode bytes with
    | .ok text =>
      if isPlainText text then s!"<chunk> = {Text.quote text}\n"
      else chunkOther fuel depth bytes
    | .error _ => chunkOther fuel depth bytes
  chunkOther (fuel depth : Nat) (bytes : Bytes) : String :=
    match dump fuel (depth + 1) bytes "" with
    | .ok nested => "<chunk> = message:\n" ++ nested
    | .error _ =>
      let more := if bytes.length > maxHexOctets then "..." else ""
      s!"<chunk> = bytes ({bytes.length}) {Bytes.hex (bytes.take maxHexOctets)}{more}\n"

def inspect (data : Bytes) : Except Malformed String := dump (data.length + 1) 0 data ""

end Dissect.Protobuf
