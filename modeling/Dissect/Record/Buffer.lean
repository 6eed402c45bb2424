import Dissect.Record.Header

/-!
# Record buffer

Reads from the channel cut records anywhere. The buffer keeps what has arrived and hands out
every record that is complete. It waits either for a header or, once a header is read and
checked, for the rest of that header's payload. A header that breaks a rule is refused and its
octets stay where they are, so every later push is refused the same way.
-/

set_option autoImplicit false

namespace Dissect

/-- A header and its payload. -/
structure Record where
  header : Record.Header
  payload : Bytes
  deriving Repr, DecidableEq

namespace Record

def encode (r : Record) : Bytes := r.header.encode ++ r.payload

/-- Octets received but not yet handed out as records. -/
structure Buffer where
  limit : UInt32
  pending : Bytes := []
  awaiting : Option Header := none
  deriving Repr

namespace Buffer

def empty (limit : UInt32) : Buffer := { limit }

def size (b : Buffer) : Nat := b.pending.length

def isEmpty (b : Buffer) : Bool := b.pending.isEmpty && b.awaiting.isNone

/-- Every record complete in the kept octets, the buffer that remains, and the refusal of a
header if one was met; the records before a refusal are consumed with it. -/
def extract (limit : UInt32) (awaiting : Option Header) (pending : Bytes) :
    Buffer × Except Fault (List Record) :=
  match awaiting with
  | some h =>
    let payload := pending.take h.payloadLength.toNat
    if payload.length < h.payloadLength.toNat then (⟨limit, pending, some h⟩, .ok [])
    else
      let (b, out) := extract limit none (pending.drop h.payloadLength.toNat)
      (b, out.map (⟨h, payload⟩ :: ·))
  | none =>
    match _hd : Header.decode? pending with
    | none => (⟨limit, pending, none⟩, .ok [])
    | some h =>
      match h.validate limit with
      | .error e => (⟨limit, pending, none⟩, .error e)
      | .ok () =>
        if h.payloadLength = 0 then
          let (b, out) := extract limit none (pending.drop headerSize)
          (b, out.map (⟨h, []⟩ :: ·))
        else extract limit (some h) (pending.drop headerSize)
termination_by (pending.length, if awaiting.isSome then 1 else 0)
decreasing_by
  · simp only [Prod.lex_def, List.length_drop, Option.isSome_some, Option.isSome_none,
      Bool.false_eq_true, if_true, if_false]
    omega
  · have := Header.decode?_length pending h _hd
    simp only [Prod.lex_def, List.length_drop, Option.isSome_none, headerSize,
      Bool.false_eq_true, if_false] at *
    omega
  · have := Header.decode?_length pending h _hd
    simp only [Prod.lex_def, List.length_drop, Option.isSome_some, Option.isSome_none, headerSize,
      Bool.false_eq_true, if_true, if_false] at *
    omega

def push (b : Buffer) (data : Bytes) : Buffer × Except Fault (List Record) :=
  extract b.limit b.awaiting (b.pending ++ data)

end Buffer

end Record

end Dissect
