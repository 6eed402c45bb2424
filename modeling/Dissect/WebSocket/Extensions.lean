import Dissect.Text.Blank
import Dissect.Text.Numeral
/-!
# WebSocket extensions

The `Sec-WebSocket-Extensions` header lists extensions separated by commas, each a name and
parameters separated by semicolons, a parameter being a key with an optional `=value` (quotes
around the value are dropped). Everything is read in lowercase. Parameters are kept sorted by key,
and of two with one key the later wins.
-/

set_option autoImplicit false

namespace Dissect.WebSocket

open Dissect.Text

def permessageDeflate : String := "permessage-deflate"

def defaultWindowBits : Nat := 15

/-- An extension with its parameters, sorted by key. -/
structure Extension where
  name : String
  params : List (String × Option String)
  deriving Repr, DecidableEq

/-- Set a parameter in a list sorted by key, replacing one with the same key. -/
def insertParam (p : String × Option String) : List (String × Option String) →
    List (String × Option String)
  | [] => [p]
  | q :: rest =>
    if p.1 < q.1 then p :: q :: rest
    else if p.1 = q.1 then p :: rest
    else q :: insertParam p rest

/-- A value without one pair of surrounding double quotes. -/
def unquote (v : String) : String :=
  match v.toList with
  | '"' :: rest =>
    match rest.reverse with
    | '"' :: inner => String.ofList inner.reverse
    | _ => v
  | _ => v

/-- Read one parameter. -/
def parseParam (param : String) : String × Option String :=
  match param.splitOn "=" with
  | key :: value :: more => (trim key, some (unquote (trim ("=".intercalate (value :: more)))))
  | _ => (param, none)

/-- Read an extensions header. -/
def parseExtensions (header : String) : List Extension :=
  let items := ((header.splitOn ",").map fun raw => toLowerAscii (trim raw)).filter (!·.isEmpty)
  items.map fun raw =>
    match raw.splitOn ";" with
    | name :: params =>
      let ps := ((params.map trim).filter (!·.isEmpty)).map parseParam
      ⟨trim name, ps.foldl (fun acc p => insertParam p acc) []⟩
    | [] => ⟨"", []⟩

/-- A window size parameter: a number from 8 to 15, else the default. -/
def Extension.windowBits (e : Extension) (param : String) : Nat :=
  match (e.params.find? (·.1 == param)).bind (·.2) with
  | some v =>
    match readUnsigned 10 256 v with
    | some bits => if 8 ≤ bits ∧ bits ≤ 15 then bits else defaultWindowBits
    | none => defaultWindowBits
  | none => defaultWindowBits

def findDeflate (es : List Extension) : Option Extension :=
  es.find? (·.name == permessageDeflate)

end Dissect.WebSocket
