import Dissect.Hpack.Huffman
import Dissect.Hpack.Table
/-!
# Decoding HPACK header blocks

A header block is a sequence of representations, each known by its first octet (RFC 7541,
section 6): indexed fields, literals with or without indexing, and table size updates.
-/

set_option autoImplicit false

namespace Dissect.Hpack

/-- Why an integer cannot be read. -/
inductive IntegerError where
  | notEnoughOctets
  | tooManyOctets
  deriving Repr, DecidableEq

/-- Why a string cannot be read. -/
inductive StringError where
  | notEnoughOctets
  | huffman (e : HuffmanError)
  deriving Repr, DecidableEq

/-- Why a header block cannot be read. -/
inductive BlockError where
  | indexOutOfBounds
  | integer (e : IntegerError)
  | string (e : StringError)
  | malformed
  deriving Repr, DecidableEq

/-- The text of a block error, naming its cause and the cause's cause. -/
def BlockError.message : BlockError → String
  | .indexOutOfBounds => "HeaderIndexOutOfBounds"
  | .integer .notEnoughOctets => "IntegerDecodingError(NotEnoughOctets)"
  | .integer .tooManyOctets => "IntegerDecodingError(TooManyOctets)"
  | .string .notEnoughOctets => "StringDecodingError(NotEnoughOctets)"
  | .string (.huffman e) => s!"StringDecodingError(HuffmanDecoderError({e.name}))"
  | .malformed => "malformed header block"

def integerOctetLimit : Nat := 5

/-- Continue an integer with octets of seven bits each, the value so far being `value`, the next
octet's weight `2^shift`, and `used` octets read. -/
def integerRest (value shift used : Nat) : Bytes → Except IntegerError (Nat × Nat)
  | [] => .error .notEnoughOctets
  | b :: rest =>
    let value := value + (b.toNat % 128) * Nat.pow 2 shift
    if b.toNat < 128 then .ok (value, used + 1)
    else if used + 1 = integerOctetLimit then .error .tooManyOctets
    else integerRest value (shift + 7) (used + 1) rest

/-- Read an integer with a prefix of `prefix` bits: its value and the octets it took. -/
def readInteger (prefixBits : Nat) : Bytes → Except IntegerError (Nat × Nat)
  | [] => .error .notEnoughOctets
  | b :: rest =>
    let mask := Nat.pow 2 prefixBits - 1
    let value := b.toNat % Nat.pow 2 prefixBits
    if value < mask then .ok (value, 1) else integerRest value 0 1 rest

/-- Read a string: its octets and the octets it took. -/
def readString (bs : Bytes) : Except BlockError (Bytes × Nat) := do
  let (len, used) ← (readInteger 7 bs).mapError .integer
  if used + len > bs.length then throw (.string .notEnoughOctets)
  let raw := (bs.drop used).take len
  if bs.headD 0 ≥ 128 then
    match decodeString raw with
    | .ok s => pure (s, used + len)
    | .error e => throw (.string (.huffman e))
  else pure (raw, used + len)

/-- How a representation treats the dynamic table. -/
inductive Representation where
  | indexed
  | incremental
  | sizeUpdate
  | literal
  deriving Repr, DecidableEq

/-- The representation that a first octet announces. -/
def Representation.ofOctet (b : UInt8) : Representation :=
  if b.toNat ≥ 128 then .indexed
  else if b.toNat ≥ 64 then .incremental
  else if b.toNat ≥ 32 then .sizeUpdate
  else .literal

/-- A field of the table by index. -/
def DynamicTable.lookup (t : DynamicTable) (index : Nat) : Except BlockError Field :=
  match t.get? index with
  | some f => .ok f
  | none => .error .indexOutOfBounds

/-- Read a literal field whose name index has a prefix of `prefixBits` bits. -/
def readLiteral (t : DynamicTable) (prefixBits : Nat) (bs : Bytes) :
    Except BlockError (Field × Nat) := do
  let (index, used) ← (readInteger prefixBits bs).mapError .integer
  let (name, used) ← if index = 0 then do
      let (name, n) ← readString (bs.drop used)
      pure (name, used + n)
    else do
      let (name, _) ← t.lookup index
      pure (name, used)
  let (value, n) ← readString (bs.drop used)
  pure ((name, value), used + n)

/-- Where a block stands: the table so far and the fields read so far, latest first. -/
structure Progress where
  table : DynamicTable
  fields : List Field
  deriving Repr

/-- Read the representations of a block from `bs` on; every representation takes at least one
octet, so `fuel` at least the number of octets suffices. -/
def readBlock (fuel : Nat) (p : Progress) (bs : Bytes) : Progress × Option BlockError :=
  match fuel, bs with
  | _, [] => (p, none)
  | 0, _ :: _ => (p, none)
  | fuel + 1, b :: _ =>
    let step : Except BlockError (Progress × Nat) :=
      match Representation.ofOctet b with
      | .indexed => do
        let (index, used) ← (readInteger 7 bs).mapError .integer
        let f ← p.table.lookup index
        pure ({ p with fields := f :: p.fields }, used)
      | .incremental => do
        let (f, used) ← readLiteral p.table 6 bs
        pure (⟨p.table.add f, f :: p.fields⟩, used)
      | .sizeUpdate =>
        match readInteger 5 bs with
        | .ok (size, used) => pure ({ p with table := p.table.setMaxSize size }, used)
        | .error _ => throw .malformed
      | .literal => do
        let (f, used) ← readLiteral p.table 4 bs
        pure ({ p with fields := f :: p.fields }, used)
    match step with
    | .ok (p, used) => readBlock fuel p (bs.drop used)
    | .error e => (p, some e)

/-- Decode a header block with a table: the table afterwards, and the fields or the error. A
malformed size update leaves a fresh table. -/
def DynamicTable.decode (t : DynamicTable) (block : Bytes) :
    DynamicTable × Except BlockError (List Field) :=
  match readBlock block.length ⟨t, []⟩ block with
  | (p, none) => (p.table, .ok p.fields.reverse)
  | (_, some .malformed) => ({}, .error .malformed)
  | (p, some e) => (p.table, .error e)

end Dissect.Hpack
