import Dissect.Bytes.Basic
import Dissect.Text.Utf8
import Dissect.Text.Quoted
import Dissect.Decimal.Shortest

/-!
# Reading MessagePack into typed values

A payload is read into a value of a known shape. Each value starts with a marker octet, and the
shape that is expected decides what it accepts: a number within its range, text, octets, a
sequence, or a record written as a map keyed by field names (or field positions) or as an array
of its fields in order. Unknown keys of a record are skipped, whatever they hold.
-/

set_option autoImplicit false

namespace Dissect.MsgPack

/-- What a value turned out to be, as refusals describe it. -/
inductive Found where
  | bool (b : Bool)
  | unsigned (n : Nat)
  | signed (i : Int)
  | float (v : Decimal.Value)
  | str (s : String)
  | bytes
  | unit
  | seq
  | map
  | newtype
  | unitVariant
  deriving Repr

def floatText (v : Decimal.Value) : String :=
  let t := v.positional
  if v.isFinite && !t.toList.contains '.' then t ++ ".0" else t

/-- The description of what was found. -/
def Found.describe : Found → String
  | .bool b => s!"boolean `{b}`"
  | .unsigned n => s!"integer `{n}`"
  | .signed i => s!"integer `{i}`"
  | .float v => "floating point `" ++ floatText v ++ "`"
  | .str s => "string " ++ Text.quote s
  | .bytes => "byte array"
  | .unit => "unit value"
  | .seq => "sequence"
  | .map => "map"
  | .newtype => "newtype struct"
  | .unitVariant => "unit variant"

/-- The name of a marker octet. -/
def markerName (m : UInt8) : String :=
  let n := m.toNat
  if n < 0x80 then s!"FixPos({n})"
  else if n < 0x90 then s!"FixMap({n - 0x80})"
  else if n < 0xA0 then s!"FixArray({n - 0x90})"
  else if n < 0xC0 then s!"FixStr({n - 0xA0})"
  else if n ≥ 0xE0 then s!"FixNeg({(n : Int) - 256})"
  else
    (["Null", "Reserved", "False", "True", "Bin8", "Bin16", "Bin32", "Ext8", "Ext16", "Ext32",
      "F32", "F64", "U8", "U16", "U32", "U64", "I8", "I16", "I32", "I64", "FixExt1", "FixExt2",
      "FixExt4", "FixExt8", "FixExt16", "Str8", "Str16", "Str32", "Array16", "Array32", "Map16",
      "Map32"].getD (n - 0xC0) "Reserved")

/-- Why a payload could not be read as the value expected. -/
inductive DecodeError where
  | markerEnd
  | dataEnd
  | sliceEnd
  | wrongMarker (marker : UInt8)
  | lengthMismatch (n : Nat)
  | badUtf8 (f : Utf8.Fault)
  | invalidType (found : Found) (expected : String)
  | invalidValue (found : Found) (expected : String)
  | invalidLength (n : Nat) (expected : String)
  | missingField (name : String)
  | duplicateField (name : String)
  | unknownVariant (name : String) (expected : List String)
  | custom (text : String)
  | depthExceeded
  deriving Repr

/-- Names in backticks, joined as a list to choose from. -/
def oneOf : List String → String
  | [] => "there are no variants"
  | [a] => s!"`{a}`"
  | [a, b] => s!"`{a}` or `{b}`"
  | names => "one of " ++ ", ".intercalate (names.map fun n => s!"`{n}`")

/-- The text of a refusal. -/
def DecodeError.message : DecodeError → String
  | .markerEnd => "IO error while reading marker: failed to fill whole buffer"
  | .dataEnd => "IO error while reading data: failed to fill whole buffer"
  | .sliceEnd => "IO error while reading data: unexpected end of file"
  | .wrongMarker m => s!"wrong msgpack marker {markerName m}"
  | .lengthMismatch n => s!"array had incorrect length, expected {n}"
  | .badUtf8 f => "string found to be invalid utf8: " ++ f.message
  | .invalidType f e => s!"invalid type: {f.describe}, expected {e}"
  | .invalidValue f e => s!"invalid value: {f.describe}, expected {e}"
  | .invalidLength n e => s!"invalid length {n}, expected {e}"
  | .missingField n => s!"missing field `{n}`"
  | .duplicateField n => s!"duplicate field `{n}`"
  | .unknownVariant n [] => s!"unknown variant `{n}`, there are no variants"
  | .unknownVariant n vs => s!"unknown variant `{n}`, expected {oneOf vs}"
  | .custom t => t
  | .depthExceeded => "depth limit exceeded"

abbrev Reader := StateT Bytes (Except DecodeError)

/-- The first value of a marker and what follows it, before its contents are read. -/
inductive Head where
  | nil
  | bool (b : Bool)
  | unsigned (n : Nat)
  | signed (i : Int)
  | float (v : Decimal.Value)
  | str (raw : Bytes)
  | bin (raw : Bytes)
  | array (n : Nat)
  | map (n : Nat)
  | ext (n : Nat)
  deriving Repr

/-- The next marker octet. -/
def readMarker : Reader UInt8 := do
  match ← get with
  | [] => throw .markerEnd
  | b :: rest => set rest; pure b

/-- The next `n` octets of a number or a length. -/
def readData (n : Nat) : Reader Bytes := do
  let bs ← get
  let front := bs.take n
  if front.length < n then throw .dataEnd
  set (bs.drop n); pure front

/-- The next `n` octets of a string or binary. -/
def readSlice (n : Nat) : Reader Bytes := do
  let bs ← get
  let front := bs.take n
  if front.length < n then throw .sliceEnd
  set (bs.drop n); pure front

def readUnsigned (n : Nat) : Reader Nat := do pure (Bytes.beNat (← readData n))

def readSigned (n : Nat) : Reader Int := do
  let v ← readUnsigned n
  pure (if v < Nat.pow 2 (8 * n - 1) then (v : Int) else (v : Int) - Nat.pow 2 (8 * n))

/-- The head of the value a marker begins. -/
def headOf (m : UInt8) : Reader Head := do
  let n := m.toNat
  if n < 0x80 then pure (.unsigned n)
  else if n < 0x90 then pure (.map (n - 0x80))
  else if n < 0xA0 then pure (.array (n - 0x90))
  else if n < 0xC0 then pure (.str (← readSlice (n - 0xA0)))
  else if n ≥ 0xE0 then pure (.signed ((n : Int) - 256))
  else match n with
    | 0xC0 => pure .nil
    | 0xC2 => pure (.bool false)
    | 0xC3 => pure (.bool true)
    | 0xC4 => pure (.bin (← readSlice (← readUnsigned 1)))
    | 0xC5 => pure (.bin (← readSlice (← readUnsigned 2)))
    | 0xC6 => pure (.bin (← readSlice (← readUnsigned 4)))
    | 0xC7 => pure (.ext (← readUnsigned 1))
    | 0xC8 => pure (.ext (← readUnsigned 2))
    | 0xC9 => pure (.ext (← readUnsigned 4))
    | 0xCA => pure (.float (Decimal.Value.ofBits32 (← readUnsigned 4).toUInt32).widen)
    | 0xCB => pure (.float (Decimal.Value.ofBits64 (← readUnsigned 8).toUInt64))
    | 0xCC => pure (.unsigned (← readUnsigned 1))
    | 0xCD => pure (.unsigned (← readUnsigned 2))
    | 0xCE => pure (.unsigned (← readUnsigned 4))
    | 0xCF => pure (.unsigned (← readUnsigned 8))
    | 0xD0 => pure (.signed (← readSigned 1))
    | 0xD1 => pure (.signed (← readSigned 2))
    | 0xD2 => pure (.signed (← readSigned 4))
    | 0xD3 => pure (.signed (← readSigned 8))
    | 0xD4 => pure (.ext 1)
    | 0xD5 => pure (.ext 2)
    | 0xD6 => pure (.ext 4)
    | 0xD7 => pure (.ext 8)
    | 0xD8 => pure (.ext 16)
    | 0xD9 => pure (.str (← readSlice (← readUnsigned 1)))
    | 0xDA => pure (.str (← readSlice (← readUnsigned 2)))
    | 0xDB => pure (.str (← readSlice (← readUnsigned 4)))
    | 0xDC => pure (.array (← readUnsigned 2))
    | 0xDD => pure (.array (← readUnsigned 4))
    | 0xDE => pure (.map (← readUnsigned 2))
    | 0xDF => pure (.map (← readUnsigned 4))
    | _ => throw (.wrongMarker m)

def readHead : Reader Head := do headOf (← readMarker)

/-- The refusal of a head by a shape that expects something else. A string that is not UTF-8 is
refused for that. -/
def reject {α : Type} (expected : String) : Head → Reader α
  | .nil => throw (.invalidType .unit expected)
  | .bool b => throw (.invalidType (.bool b) expected)
  | .unsigned n => throw (.invalidType (.unsigned n) expected)
  | .signed i => throw (.invalidType (.signed i) expected)
  | .float v => throw (.invalidType (.float v) expected)
  | .str raw =>
    match Utf8.decode raw with
    | .ok s => throw (.invalidType (.str s) expected)
    | .error f => throw (.badUtf8 f)
  | .bin _ => throw (.invalidType .bytes expected)
  | .array _ => throw (.invalidType .seq expected)
  | .map _ => throw (.invalidType .map expected)
  | .ext _ => throw (.invalidType .newtype expected)

/-- An unsigned number of at most `bound`, named `name` in refusals. -/
def unsignedOf (bound : Nat) (name : String) : Head → Reader Nat
  | .unsigned n => if n ≤ bound then pure n else throw (.invalidValue (.unsigned n) name)
  | .signed i =>
    if 0 ≤ i ∧ i ≤ bound then pure i.toNat else throw (.invalidValue (.signed i) name)
  | h => reject name h

/-- A string: UTF-8 text, or binary that is UTF-8. -/
def stringOf : Head → Reader String
  | .str raw =>
    match Utf8.decode raw with
    | .ok s => pure s
    | .error f => throw (.badUtf8 f)
  | .bin raw =>
    match Utf8.decode raw with
    | .ok s => pure s
    | .error _ => throw (.invalidValue .bytes "a string")
  | h => reject "a string" h

/-- `n` octets given as an array of small numbers. -/
def octetsOf : Nat → Reader Bytes
  | 0 => pure []
  | n + 1 => do
    let b ← unsignedOf 255 "u8" (← readHead)
    let rest ← octetsOf n
    pure (b.toUInt8 :: rest)

/-- An octet string: binary, a string's octets, or an array of octets. -/
def bytesOf : Head → Reader Bytes
  | .bin raw => pure raw
  | .str raw => pure raw
  | .array n => octetsOf n
  | h => reject "byte array" h

/-- The number of arrays, maps and extension values a reader may be inside at once: entering one
that would be the `depthLimit`-th is refused, after its length is read. -/
def depthLimit : Nat := 1024

def enter (level : Nat) : Reader Unit :=
  if level ≥ depthLimit then throw .depthExceeded else pure ()

/-- Skip whole values, whatever they hold. `open` lists, innermost first, how many values remain
in each open array or map, the last entry being the values asked for; `outer` counts the
containers around those. Every step reads a head, which consumes an octet, or closes a container,
so `fuel` of twice the input's length, and one more, suffices. -/
def skipNested (outer : Nat) : Nat → List Nat → Reader Unit
  | _, [] => pure ()
  | fuel + 1, 0 :: rest => skipNested outer fuel rest
  | fuel + 1, (pending + 1) :: rest => do
    let level := outer + rest.length + 1
    match ← readHead with
    | .array n => do
      enter level
      skipNested outer fuel (n :: pending :: rest)
    | .map n => do
      enter level
      skipNested outer fuel (2 * n :: pending :: rest)
    | .ext n => do
      enter level
      let _ ← readData 1
      let _ ← readSlice n
      skipNested outer fuel (pending :: rest)
    | _ => skipNested outer fuel (pending :: rest)
  | 0, _ :: _ => throw .markerEnd

def skipValue (outer : Nat) : Reader Unit := do
  let bs ← get
  skipNested outer (2 * bs.length + 1) [1]

/-- The field a record key names: its position among `names`, or `none` for a key to skip. Keys
may be names, as text or octets, or positions. -/
def fieldKey (names : List String) : Head → Reader (Option Nat)
  | .unsigned n => pure (if n < names.length then some n else none)
  | .str raw => pure (names.findIdx? fun name => Bytes.ofString name == raw)
  | .bin raw => pure (names.findIdx? fun name => Bytes.ofString name == raw)
  | h => reject "field identifier" h

/-- Read `n` map entries into a record under construction, the map being the `level`-th container
around its entries. `setField i` reads the value of field `i` into it, and `hasField i` tells
whether field `i` was already given. -/
def mapFields {σ : Type} (names : List String) (level : Nat) (hasField : Nat → σ → Bool)
    (setField : Nat → σ → Reader σ) : Nat → σ → Reader σ
  | 0, acc => pure acc
  | n + 1, acc => do
    match ← fieldKey names (← readHead) with
    | some i =>
      if hasField i acc then throw (.duplicateField (names.getD i ""))
      let acc ← setField i acc
      mapFields names level hasField setField n acc
    | none =>
      skipValue level
      mapFields names level hasField setField n acc

/-- The map markers, each with the reading of the number of entries it announces. -/
def mapLength? (m : UInt8) : Option (Reader Nat) :=
  let n := m.toNat
  if 0x80 ≤ n ∧ n < 0x90 then some (pure (n - 0x80))
  else if n = 0xDE then some (readUnsigned 2)
  else if n = 0xDF then some (readUnsigned 4)
  else none

/-- The variant an identifier names: its position among `names`. A position, text or octets may
name it; text must be UTF-8, while octets are read with each broken sequence shown as a
replacement character. -/
def variantIndex (names : List String) : Head → Reader Nat
  | .unsigned n =>
    if n < names.length then pure n
    else throw (.invalidValue (.unsigned n) s!"variant index 0 <= i < {names.length}")
  | .str raw =>
    match Utf8.decode raw with
    | .ok s => named s
    | .error f => throw (.badUtf8 f)
  | .bin raw => named (Utf8.lossy raw)
  | h => reject "variant identifier" h
where
  named (s : String) : Reader Nat :=
    match names.idxOf? s with
    | some i => pure i
    | none => throw (.unknownVariant s names)

/-- How a variant of an enum carries its contents: none, or one value read by its own reader. -/
inductive Variant (α : Type) where
  | unit (value : α)
  | newtype (read : Reader α)

/-- An enum: a map of one entry from a variant to its contents, or a variant alone, which then
carries no contents. A variant without contents is given nil in the map form. -/
def enumOf {α : Type} (names : List String) (variant : Nat → Variant α) : Reader α := do
  let m ← readMarker
  match mapLength? m with
  | some entries =>
    let count ← entries
    if count ≠ 1 then throw (.lengthMismatch count)
    match variant (← variantIndex names (← readHead)) with
    | .unit v =>
      let nilMarker ← readMarker
      if nilMarker ≠ 0xC0 then throw (.wrongMarker nilMarker)
      pure v
    | .newtype read => read
  | none =>
    match variant (← variantIndex names (← headOf m)) with
    | .unit v => pure v
    | .newtype _ => throw (.invalidType .unitVariant "newtype variant")

/-- Read the first fields of a record from the `n` elements of an array. -/
def arrayFields {σ : Type} (expected : String) (count : Nat) (setField : Nat → σ → Reader σ)
    (n : Nat) (acc : σ) : Reader σ := do
  let rec go : Nat → σ → Reader σ
    | i, acc =>
      if h : i < count then
        if i < n then do
          let acc ← setField i acc
          go (i + 1) acc
        else throw (.invalidLength i expected)
      else pure acc
  termination_by i => count - i
  let acc ← go 0 acc
  if n > count then throw (.lengthMismatch count)
  pure acc

end Dissect.MsgPack
