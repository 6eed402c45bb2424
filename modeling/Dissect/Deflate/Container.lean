import Dissect.Deflate.Inflate
import Dissect.Deflate.Checksum
/-!
# Whole compressed streams: raw DEFLATE, zlib and gzip

A reader decompresses a whole stream under an output limit. Output passes through a 32 KiB window,
one window load at a time, and a fault in the data is noticed with the load that holds it: a
reader that stops after `limit + 1` bytes notices a fault only if that load starts within the
limit (`Inflated.noticed`). A gzip trailer is checked only after all output has been read.
-/

set_option autoImplicit false

namespace Dissect.Deflate

def windowSize : Nat := 32768

/-- Where the window load that holds output position `pos` starts: a fault found just after a
full load belongs to that load. -/
def loadStart (pos : Nat) : Nat := if pos = 0 then 0 else (pos - 1) / windowSize * windowSize

/-- The result of decompressing a whole stream under a limit. -/
inductive Inflated where
  | complete (out : ByteArray) (rest : ByteArray)
  | fault (pos : Nat)
  | trailer (total : Nat)
  | overflow

/-- Whether a reader that stops after `limit + 1` bytes sees the stream fail. -/
def Inflated.noticed (limit : Nat) : Inflated → Bool
  | .complete _ _ => false
  | .fault pos => loadStart pos ≤ limit
  | .trailer total => total ≤ limit
  | .overflow => false

def Inflated.within (limit : Nat) : Inflated → Option ByteArray
  | .complete out _ => if out.size ≤ limit then some out else none
  | _ => none

/-- Decompress raw DEFLATE data, stopping once the output is past `limit` by a window load. -/
def inflateRaw (limit : Nat) (input : ByteArray) : Inflated :=
  match (Machine.start input).run (limit + windowSize) with
  | (m, .finished) => .complete m.out m.bits.align.rest
  | (_, .overflow) => .overflow
  | (m, _) => .fault m.out.size

def leNat (data : ByteArray) (i n : Nat) : Nat :=
  (List.range n).foldr (fun k acc => acc * 256 + ((data[i + k]?).getD 0).toNat) 0

def beNatAt (data : ByteArray) (i n : Nat) : Nat :=
  (List.range n).foldl (fun acc k => acc * 256 + ((data[i + k]?).getD 0).toNat) 0

/-- Decompress a zlib stream: a two-byte header (method 8, a window of at most 32 KiB, no preset
dictionary, the pair a multiple of 31), DEFLATE data, and the Adler-32 of the output. -/
def inflateZlib (limit : Nat) (input : ByteArray) : Inflated :=
  if input.size < 2 then .fault 0 else
  let cmf := (input[0]?.getD 0).toNat
  let flg := (input[1]?.getD 0).toNat
  if (cmf * 256 + flg) % 31 ≠ 0 || cmf % 16 ≠ 8 || cmf / 16 > 7 || flg &&& 0x20 ≠ 0 then .fault 0
  else match inflateRaw limit (input.extract 2 input.size) with
    | .complete out rest =>
      if rest.size < 4 || beNatAt rest 0 4 ≠ adler32 out then .fault out.size
      else .complete out (rest.extract 4 rest.size)
    | r => r

def gzipText : Nat := 0x01
def gzipHeaderCrc : Nat := 0x02
def gzipExtra : Nat := 0x04
def gzipName : Nat := 0x08
def gzipComment : Nat := 0x10
def gzipReserved : Nat := 0xE0

def pastZero (data : ByteArray) (i : Nat) : Option Nat :=
  ((data.extract i data.size).toList.findIdx? (· == 0)).map (i + · + 1)

/-- The length of a gzip member header: ten fixed bytes (magic 1f 8b, method 8, no reserved flag),
then the extra field, file name, comment and header CRC that the flags announce. -/
def gzipHeaderLength (data : ByteArray) : Option Nat := do
  if data.size < 10 then none
  if data[0]? ≠ some 0x1f || data[1]? ≠ some 0x8b || data[2]? ≠ some 8 then none
  let flags := (data[3]?.getD 0).toNat
  if flags &&& gzipReserved ≠ 0 then none
  let mut pos := 10
  if flags &&& gzipExtra ≠ 0 then
    if data.size < pos + 2 then none
    pos := pos + 2 + leNat data pos 2
    if data.size < pos then none
  if flags &&& gzipName ≠ 0 then pos ← pastZero data pos
  if flags &&& gzipComment ≠ 0 then pos ← pastZero data pos
  if flags &&& gzipHeaderCrc ≠ 0 then
    if data.size < pos + 2 then none
    if leNat data pos 2 ≠ (crc32 (data.extract 0 pos)).toNat % 65536 then none
    pos := pos + 2
  pure pos

/-- Decompress one gzip member: header, DEFLATE data, and a trailer with the CRC-32 and the
length (modulo 2^32) of the output. -/
def inflateGzipMember (limit : Nat) (input : ByteArray) : Inflated :=
  match gzipHeaderLength input with
  | none => .fault 0
  | some start =>
    match inflateRaw limit (input.extract start input.size) with
    | .complete out rest =>
      if out.size > limit then .complete out rest
      else if rest.size < 8 || leNat rest 0 4 ≠ (crc32 out).toNat ||
          leNat rest 4 4 ≠ out.size % Nat.pow 2 32 then .trailer out.size
      else .complete out (rest.extract 8 rest.size)
    | r => r

/-- Decompress gzip members one after another until the input ends; what follows a member must
be another member. -/
def inflateGzipMembers (limit : Nat) : Nat → ByteArray → ByteArray → Inflated
  | 0, acc, _ => .complete acc ByteArray.empty
  | fuel + 1, acc, input =>
    match inflateGzipMember (limit - acc.size) input with
    | .complete out rest =>
      let acc := acc ++ out
      if rest.size = 0 || acc.size > limit then .complete acc rest
      else inflateGzipMembers limit fuel acc rest
    | .fault pos => .fault (acc.size + pos)
    | .trailer total => .trailer (acc.size + total)
    | .overflow => .overflow

def inflateGzip (limit : Nat) (input : ByteArray) : Inflated :=
  inflateGzipMembers limit input.size ByteArray.empty input

end Dissect.Deflate
