import Dissect.Huffman.Canonical
/-!
# Inflating DEFLATE data

A DEFLATE stream is a sequence of blocks: stored blocks carry bytes as they are, coded blocks
carry literals and back-references written in prefix codes, fixed or sent ahead of the block.
Bits are taken from each byte least significant first.
-/

set_option autoImplicit false

namespace Dissect.Deflate

open Dissect.Huffman

/-- Why a compressed stream is refused. -/
inductive Fault where
  | reservedBlock
  | storedLength
  | tableSize
  | codeLengths
  | lengthRepeat
  | symbol
  deriving Repr, DecidableEq

/-- A position in a byte array, counted in bits. -/
structure Bits where
  data : ByteArray
  pos : Nat

namespace Bits

def left (b : Bits) : Nat := b.data.size * 8 - b.pos

/-- The next bit, least significant of its byte first. -/
def bit? (b : Bits) : Option (Bool × Bits) :=
  if b.pos < b.data.size * 8 then
    let byte := (b.data[b.pos / 8]?).getD 0
    some ((byte >>> (b.pos % 8).toUInt8) &&& 1 == 1, ⟨b.data, b.pos + 1⟩)
  else none

/-- The next `n` bits as a number, the first bit read the least significant. -/
def take? (b : Bits) : Nat → Option (Nat × Bits)
  | 0 => some (0, b)
  | n + 1 => do
    let (x, b) ← b.bit?
    let (y, b) ← b.take? n
    pure ((if x then 1 else 0) + 2 * y, b)

def align (b : Bits) : Bits := ⟨b.data, (b.pos + 7) / 8 * 8⟩

def rest (b : Bits) : ByteArray := b.data.extract (b.pos / 8) b.data.size

def feed (b : Bits) (more : ByteArray) : Bits := ⟨b.rest ++ more, b.pos % 8⟩

end Bits

/-- Why a step did not complete. -/
inductive Halt where
  | starved
  | failed (f : Fault)
  deriving Repr, DecidableEq

abbrev Reading := StateT Bits (Except Halt)

/-- Read `n` bits as a number. -/
def bits (n : Nat) : Reading Nat := fun b =>
  match b.take? n with
  | some r => .ok r
  | none => .error .starved

/-- Read one symbol of a code; no DEFLATE codeword is longer than 15 bits. -/
def symbolOf (c : Code) : Nat → Cursor → Reading Nat
  | 0, _ => throw (.failed .symbol)
  | fuel + 1, cur => do
    let bit ← bits 1
    match c.step cur (bit == 1) with
    | .symbol s => pure s
    | .more cur => symbolOf c fuel cur
    | .stray => throw (.failed .symbol)

def symbol (c : Code) : Reading Nat := symbolOf c 15 {}

/-- The two codes of a coded block: literals and lengths, and distances. -/
structure Tables where
  literals : Code
  distances : Code

/-- The fixed codes of block type 1. -/
def fixedTables : Tables where
  literals := Code.ofLengths ((List.replicate 144 8 ++ List.replicate 112 9 ++
    List.replicate 24 7 ++ List.replicate 8 8).toArray)
  distances := Code.ofLengths (List.replicate 32 5).toArray

/-- Where the decoder stands between steps. -/
inductive Phase where
  | header
  | stored (left : Nat) (final : Bool)
  | coded (t : Tables) (final : Bool)

def lengthOrder : List Nat := [16, 17, 18, 0, 8, 7, 9, 6, 10, 5, 11, 4, 12, 3, 13, 2, 14, 1, 15]

def lengthBase : Array Nat :=
  #[3, 4, 5, 6, 7, 8, 9, 10, 11, 13, 15, 17, 19, 23, 27, 31, 35, 43, 51, 59, 67, 83, 99, 115,
    131, 163, 195, 227, 258]

def lengthExtra : Array Nat :=
  #[0, 0, 0, 0, 0, 0, 0, 0, 1, 1, 1, 1, 2, 2, 2, 2, 3, 3, 3, 3, 4, 4, 4, 4, 5, 5, 5, 5, 0]

def distanceBase : Array Nat :=
  #[1, 2, 3, 4, 5, 7, 9, 13, 17, 25, 33, 49, 65, 97, 129, 193, 257, 385, 513, 769, 1025, 1537,
    2049, 3073, 4097, 6145, 8193, 12289, 16385, 24577]

def distanceExtra : Array Nat :=
  #[0, 0, 0, 0, 1, 1, 2, 2, 3, 3, 4, 4, 5, 5, 6, 6, 7, 7, 8, 8, 9, 9, 10, 10, 11, 11, 12, 12,
    13, 13]

/-- Read code lengths with the code-length code until `total` of them are known: symbols below
16 are lengths, 16 repeats the last length 3 to 6 times, 17 and 18 give 3 to 10 and 11 to 138
zeros. -/
def codeLengths (cl : Code) (total : Nat) : Nat → Array Nat → Reading (Array Nat)
  | 0, acc => pure acc
  | fuel + 1, acc => do
    if acc.size ≥ total then return acc
    let s ← symbol cl
    let acc ← if s < 16 then pure (acc.push s)
      else if s = 16 then do
        let some last := acc.back? | throw (.failed .lengthRepeat)
        let r ← bits 2
        pure (acc ++ Array.replicate (3 + r) last)
      else if s = 17 then do
        let r ← bits 3
        pure (acc ++ Array.replicate (3 + r) 0)
      else do
        let r ← bits 7
        pure (acc ++ Array.replicate (11 + r) 0)
    if acc.size > total then throw (.failed .lengthRepeat)
    codeLengths cl total fuel acc

/-- Read the codes that a block of type 2 sends ahead of its data. -/
def dynamicTables : Reading Tables := do
  let literalCount := (← bits 5) + 257
  let distanceCount := (← bits 5) + 1
  let clCount := (← bits 4) + 4
  if literalCount > 286 || distanceCount > 30 then throw (.failed .tableSize)
  let mut clLengths := Array.replicate 19 0
  for i in lengthOrder.take clCount do
    let l ← bits 3
    clLengths := clLengths.set! i l
  let cl := Code.ofLengths clLengths
  unless cl.isComplete 7 do throw (.failed .codeLengths)
  let total := literalCount + distanceCount
  let lengths ← codeLengths cl total (total + 1) #[]
  let literals := Code.ofLengths (lengths.extract 0 literalCount)
  let distances := Code.ofLengths (lengths.extract literalCount total)
  unless literals.isUsable 15 && distances.isUsable 15 do throw (.failed .codeLengths)
  pure ⟨literals, distances⟩

/-- Append `count` bytes, each copied from `distance` bytes back; positions before the start of
the output read as zero. -/
def copyBack (distance : Nat) : Nat → ByteArray → ByteArray
  | 0, out => out
  | count + 1, out =>
    let b := if distance ≤ out.size then (out[out.size - distance]?).getD 0 else 0
    copyBack distance count (out.push b)

/-- What one step adds to the output. -/
inductive Emit where
  | nothing
  | literal (b : UInt8)
  | copy (distance length : Nat)
  | verbatim (bytes : ByteArray)

/-- Add what a step emits to the output. Decoding a step never looks at the output, so the
output is touched only here, once the step is complete. -/
def Emit.apply : Emit → ByteArray → ByteArray
  | .nothing, out => out
  | .literal b, out => out.push b
  | .copy distance length, out => copyBack distance length out
  | .verbatim bytes, out => out ++ bytes

/-- Read a block header and enter the block. -/
def blockHeader : Reading Phase := do
  let final := (← bits 1) == 1
  match ← bits 2 with
  | 0 =>
    modify Bits.align
    let len ← bits 16
    let nlen ← bits 16
    if len + nlen ≠ 65535 then throw (.failed .storedLength)
    pure (.stored len final)
  | 1 => pure (.coded fixedTables final)
  | 2 => pure (.coded (← dynamicTables) final)
  | _ => throw (.failed .reservedBlock)

/-- As many bytes of a stored block as the input holds, at least one. -/
def storedRun (left : Nat) : Reading ByteArray := fun b =>
  let start := b.pos / 8
  let n := min left (b.data.size - start)
  if n = 0 then .error .starved
  else .ok (b.data.extract start (start + n), ⟨b.data, (start + n) * 8⟩)

/-- One symbol of a coded block: a literal, a back-reference, or none at the end of the
block. -/
def codedStep (t : Tables) : Reading (Option Emit) := do
  let s ← symbol t.literals
  if s < 256 then return some (.literal s.toUInt8)
  if s = 256 then return none
  let i := s - 257
  if h : i < lengthBase.size then
    let length := lengthBase[i] + (← bits (lengthExtra.getD i 0))
    let d ← symbol t.distances
    if hd : d < distanceBase.size then
      let distance := distanceBase[d] + (← bits (distanceExtra.getD d 0))
      pure (some (.copy distance length))
    else throw (.failed .symbol)
  else throw (.failed .symbol)

/-- One step from a phase: the next phase (none once the final block has ended) and what it
adds to the output. -/
def step (phase : Phase) : Reading (Option Phase × Emit) :=
  match phase with
  | .header => do pure (some (← blockHeader), .nothing)
  | .stored 0 final => pure (if final then none else some .header, .nothing)
  | .stored (left + 1) final => do
    let bytes ← storedRun (left + 1)
    pure (some (.stored (left + 1 - bytes.size) final), .verbatim bytes)
  | .coded t final => do
    match ← codedStep t with
    | some e => pure (some (.coded t final), e)
    | none => pure (if final then none else some .header, .nothing)

/-- A decoder between steps: the unread input, everything output so far after the part of the
history it was given, and the phase. -/
structure Machine where
  bits : Bits
  out : ByteArray
  phase : Phase

/-- Why a run of the decoder stopped. -/
inductive Stop where
  | finished
  | starved
  | failed (f : Fault)
  | overflow
  deriving Repr, DecidableEq

/-- Run steps until the stream ends, the input runs out, a fault shows, or the output passes
`bound`. -/
def Machine.runFor (bound : Nat) : Nat → Machine → Machine × Stop
  | 0, m => (m, .starved)
  | fuel + 1, ⟨bits, out, phase⟩ =>
    if out.size > bound then (⟨bits, out, phase⟩, .overflow) else
    match step phase bits with
    | .ok ((none, e), b) => (⟨b, e.apply out, .header⟩, .finished)
    | .ok ((some next, e), b) => Machine.runFor bound fuel ⟨b, e.apply out, next⟩
    | .error .starved => (⟨bits, out, phase⟩, .starved)
    | .error (.failed f) => (⟨bits, out, phase⟩, .failed f)

/-- Run a machine to its stop. Every two steps read at least one bit, so the fuel given never
runs out first. -/
def Machine.run (bound : Nat) (m : Machine) : Machine × Stop :=
  m.runFor bound (2 * m.bits.left + 2)

def Machine.start (input : ByteArray) : Machine := ⟨⟨input, 0⟩, ByteArray.empty, .header⟩

end Dissect.Deflate
