import Dissect.Text.Blank
/-!
# Header fields

The header fields of an HTTP/1 message in the order they came, with names compared without regard
to ASCII case. Reading them is lenient: a line without a colon is skipped, and a line that starts
with a space or a tab continues the previous field's value. More than a hundred fields are refused.
-/

set_option autoImplicit false

namespace Dissect.Http1

open Dissect.Text

/-- The header fields of a message, in order. -/
structure Headers where
  fields : List (String × String) := []
  deriving Repr, DecidableEq, Inhabited

def maxHeaders : Nat := 100

namespace Headers

def get? (h : Headers) (name : String) : Option String :=
  (h.fields.find? (fun f => eqIgnoreAsciiCase f.1 name)).map (·.2)

/-- Whether the named field is present and its value, trimmed, is `value` up to ASCII case. -/
def valueIs (h : Headers) (name value : String) : Bool :=
  match h.get? name with
  | some v => eqIgnoreAsciiCase (trim v) value
  | none => false

/-- Whether the named field lists `token` among its comma-separated items, up to ASCII case. -/
def hasToken (h : Headers) (name token : String) : Bool :=
  match h.get? name with
  | some v => (v.toList.splitOn ',').any fun t => eqIgnoreAsciiCase (trim (String.ofList t)) token
  | none => false

/-- Add a continuation line to the last field's value, after one space. -/
def fold (fields : List (String × String)) (line : String) : List (String × String) :=
  match fields.getLast? with
  | some (n, v) => fields.dropLast ++ [(n, v ++ " " ++ trim line)]
  | none => fields

/-- Read header lines until the first empty one; none when there are too many fields. -/
def readLines : List String → List (String × String) → Option Headers
  | [], acc => some ⟨acc⟩
  | line :: rest, acc =>
    if line.isEmpty then some ⟨acc⟩
    else if line.startsWith " " || line.startsWith "\t" then readLines rest (fold acc line)
    else match (line.toList.splitOn ':').map String.ofList with
      | name :: value :: more =>
        let acc := acc ++ [(trim name, trim (":".intercalate (value :: more)))]
        if acc.length > maxHeaders then none
        else readLines rest acc
      | _ => readLines rest acc

/-- Read the header lines of a message, after its start line; none when there are more than
`maxHeaders` fields. -/
def parse (lines : List String) : Option Headers := readLines lines []

end Headers

end Dissect.Http1
