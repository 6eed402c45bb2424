import Dissect.Exchange.Worker
import Dissect.Dissection.Dissector
/-!
# The worker program

Reads conversation records on standard input and writes a result record for each on standard
output, flushed one by one.
-/

set_option autoImplicit false

namespace Dissect.Program

/-- The settings of one run. -/
structure Settings where
  dissector : Option Dissector := none
  config : Config := {}
  maxRecordSize : Nat := Record.defaultMaxPayload.toNat

/-- Read the value of a numeric option. -/
def numberOption (name value : String) (bound : Nat) : Except String Nat :=
  match value.toNat? with
  | some n => if n ≤ bound then .ok n else .error s!"invalid value for {name}: {value}"
  | none => .error s!"invalid value for {name}: {value}"

/-- Apply one option with its value. -/
def applyOption (s : Settings) (name value : String) : Except String Settings :=
  match name with
  | "-d" | "--dissector" =>
    match Dissector.ofName? value with
    | some d => .ok { s with dissector := some d }
    | none => .error s!"invalid dissector: {value}"
  | "--max-frame-size" => do
    let n ← numberOption name value (Nat.pow 2 32 - 1)
    pure { s with config := { s.config with maxFrameSize := n } }
  | "--max-pending-fragments" => do
    let n ← numberOption name value (Nat.pow 2 64 - 1)
    pure { s with config := { s.config with maxPendingFragments := n } }
  | "--max-inflated-size" => do
    let n ← numberOption name value (Nat.pow 2 64 - 1)
    pure { s with config := { s.config with maxInflatedSize := n } }
  | "--max-record-size" => do
    let n ← numberOption name value (Nat.pow 2 32 - 1)
    pure { s with maxRecordSize := n }
  | "--log-level" => .ok s
  | other => .error s!"unexpected argument: {other}"

/-- Read the command line. -/
def parseArgs : List String → Settings → Except String Settings
  | [], s => .ok s
  | arg :: rest, s =>
    match arg.splitOn "=" with
    | name :: value :: more =>
      if name.startsWith "--" then do
        parseArgs rest (← applyOption s name ("=".intercalate (value :: more)))
      else match rest with
        | value :: rest => do parseArgs rest (← applyOption s arg value)
        | [] => .error s!"missing value for {arg}"
    | _ =>
      match rest with
      | value :: rest => do parseArgs rest (← applyOption s arg value)
      | [] => .error s!"missing value for {arg}"

/-- Serve the channel until it ends between records. -/
partial def serve (transform : List Chunk → Except Issue (List Chunk)) (stdin : IO.FS.Stream)
    (stdout : IO.FS.Stream) (buf : Record.Buffer) (answered : Nat) : IO (Except String Nat) := do
  let data ← stdin.read (USize.ofNat Exchange.readSize)
  if data.isEmpty then
    return if buf.isEmpty then .ok answered else .error Exchange.Failure.connectionClosed.message
  let (buf, records) := buf.push data.toList
  match records with
  | .error f => return .error (Exchange.Failure.refused f).message
  | .ok records =>
    let (answers, failure) := Exchange.answerAll transform records
    for a in answers do
      stdout.write a.encode.toByteArray
      stdout.flush
    match failure with
    | some f => return .error f.message
    | none => serve transform stdin stdout buf (answered + answers.length)

end Dissect.Program

open Dissect
open Dissect.Program

/-- Run the worker on standard input and output. -/
def main (args : List String) : IO UInt32 := do
  match parseArgs args {} with
  | .error e =>
    IO.eprintln s!"error: {e}"
    return 2
  | .ok s =>
    let some d := s.dissector
      | IO.eprintln "error: the option --dissector is required"
        return 2
    let transform := d.transform s.config
    match ← serve transform (← IO.getStdin) (← IO.getStdout)
        (Record.Buffer.empty s.maxRecordSize.toUInt32) 0 with
    | .ok _ => return 0
    | .error e =>
      IO.eprintln s!"Error: {e}"
      return 1
