/-!
# Canonical prefix codes

A canonical prefix code is fixed by the length of each symbol's codeword: codewords of one length
are consecutive numbers, taken in the order of their symbols, and each length starts where the
shorter ones left off, doubled. DEFLATE's codes and the HPACK string code are of this kind.
-/

set_option autoImplicit false

namespace Dissect.Huffman

/-- A canonical prefix code: the number of codewords of each length (index 0 unused), the symbols
in the order of their codewords, and for each length how many prefixes of that length begin a
longer codeword. -/
structure Code where
  counts : Array Nat
  symbols : Array Nat
  reach : Array Nat
  deriving Repr

/-- The code whose codeword lengths are `lengths`, symbol by symbol; length 0 means the symbol
has no codeword. -/
def Code.ofLengths (lengths : Array Nat) : Code :=
  let maxLen := lengths.foldl max 0
  let counts := (List.range (maxLen + 1)).toArray.map fun l =>
    if l = 0 then 0 else lengths.foldl (fun n x => if x = l then n + 1 else n) 0
  let symbols := ((List.range maxLen).flatMap fun i =>
    (List.range lengths.size).filter fun s => lengths.getD s 0 = i + 1).toArray
  -- the prefixes of length `l` of the codewords longer than `l`, rounded up to whole prefixes
  let reach := (List.range (maxLen + 1)).toArray.map fun l =>
    let share := (List.range (maxLen + 1)).foldl (fun acc k =>
      if l < k then acc + counts.getD k 0 * Nat.pow 2 (maxLen - k) else acc) 0
    (share + Nat.pow 2 (maxLen - l) - 1) / Nat.pow 2 (maxLen - l)
  ⟨counts, symbols, reach⟩

def Code.used (c : Code) : Nat := c.symbols.size

/-- The codewords' share of all bit strings, in units of `2^-bound`: a complete code reaches
`2^bound`, an over-full one passes it. -/
def Code.kraft (c : Code) (bound : Nat) : Nat :=
  (List.range c.counts.size).foldl (fun acc l =>
    if l = 0 then acc else acc + c.counts.getD l 0 * Nat.pow 2 (bound - l)) 0

def Code.isComplete (c : Code) (bound : Nat) : Bool :=
  c.kraft bound == Nat.pow 2 bound

/-- Whether the lengths make a code a decoder accepts: a complete one, one with no codeword at
all, or a single codeword of one bit. A lone longer codeword leaves most bit strings undecodable
and is refused. -/
def Code.isUsable (c : Code) (bound : Nat) : Bool :=
  c.isComplete bound || c.used == 0 || (c.used == 1 && c.counts.getD 1 0 == 1)

/-- Where a reader stands inside a codeword: the bits read so far and their value, and the first
codeword and first symbol index of the length reached. -/
structure Cursor where
  len : Nat := 0
  value : Nat := 0
  first : Nat := 0
  index : Nat := 0
  deriving Repr, DecidableEq

/-- The outcome of one more bit. -/
inductive Step where
  | symbol (s : Nat)
  | more (c : Cursor)
  | stray
  deriving Repr

/-- Read one more bit of a codeword. -/
def Code.step (c : Code) (cur : Cursor) (bit : Bool) : Step :=
  let len := cur.len + 1
  let value := cur.value * 2 + (if bit then 1 else 0)
  let first := cur.first * 2
  let count := c.counts.getD len 0
  if value < first + count then .symbol (c.symbols.getD (cur.index + (value - first)) 0)
  else if value < first + count + c.reach.getD len 0 then
    .more ⟨len, value, first + count, cur.index + count⟩
  else .stray

end Dissect.Huffman
