import Dissect.Bytes.Basic
/-!
# The HPACK header table

Header fields are named by index into one address space: first the 61 entries of the static
table, then the dynamic table, newest entry first. An entry's size is the length of its name and
value plus 32; when the sum of the sizes passes the table's maximum, the oldest entries leave.
An entry larger than the maximum empties the table.
-/

set_option autoImplicit false

namespace Dissect.Hpack

/-- The static table, from index 1. -/
def staticTable : List (String × String) := [
  (":authority", ""),
  (":method", "GET"),
  (":method", "POST"),
  (":path", "/"),
  (":path", "/index.html"),
  (":scheme", "http"),
  (":scheme", "https"),
  (":status", "200"),
  (":status", "204"),
  (":status", "206"),
  (":status", "304"),
  (":status", "400"),
  (":status", "404"),
  (":status", "500"),
  ("accept-charset", ""),
  ("accept-encoding", "gzip, deflate"),
  ("accept-language", ""),
  ("accept-ranges", ""),
  ("accept", ""),
  ("access-control-allow-origin", ""),
  ("age", ""),
  ("allow", ""),
  ("authorization", ""),
  ("cache-control", ""),
  ("content-disposition", ""),
  ("content-encoding", ""),
  ("content-language", ""),
  ("content-length", ""),
  ("content-location", ""),
  ("content-range", ""),
  ("content-type", ""),
  ("cookie", ""),
  ("date", ""),
  ("etag", ""),
  ("expect", ""),
  ("expires", ""),
  ("from", ""),
  ("host", ""),
  ("if-match", ""),
  ("if-modified-since", ""),
  ("if-none-match", ""),
  ("if-range", ""),
  ("if-unmodified-since", ""),
  ("last-modified", ""),
  ("link", ""),
  ("location", ""),
  ("max-forwards", ""),
  ("proxy-authenticate", ""),
  ("proxy-authorization", ""),
  ("range", ""),
  ("referer", ""),
  ("refresh", ""),
  ("retry-after", ""),
  ("server", ""),
  ("set-cookie", ""),
  ("strict-transport-security", ""),
  ("transfer-encoding", ""),
  ("user-agent", ""),
  ("vary", ""),
  ("via", ""),
  ("www-authenticate", "")]

abbrev Field := Bytes × Bytes

def Field.size (f : Field) : Nat := f.1.length + f.2.length + 32

def defaultMaxSize : Nat := 4096

/-- The dynamic table: its entries, newest first, and its maximum size. -/
structure DynamicTable where
  entries : List Field := []
  maxSize : Nat := defaultMaxSize
  deriving Repr, DecidableEq, Inhabited

namespace DynamicTable

def size (t : DynamicTable) : Nat := t.entries.foldr (fun f acc => f.size + acc) 0

def keep (room : Nat) : List Field → List Field
  | [] => []
  | f :: rest => if f.size ≤ room then f :: keep (room - f.size) rest else []

def fit (t : DynamicTable) : DynamicTable := { t with entries := keep t.maxSize t.entries }

def add (t : DynamicTable) (f : Field) : DynamicTable := fit { t with entries := f :: t.entries }

def setMaxSize (t : DynamicTable) (n : Nat) : DynamicTable := fit { t with maxSize := n }

end DynamicTable

/-- The entry at an index of the combined address space; index 0 names nothing. -/
def DynamicTable.get? (t : DynamicTable) (index : Nat) : Option Field :=
  if index = 0 then none
  else if index ≤ staticTable.length then
    (staticTable[index - 1]?).map fun (n, v) => (Bytes.ofString n, Bytes.ofString v)
  else t.entries[index - 1 - staticTable.length]?

end Dissect.Hpack
