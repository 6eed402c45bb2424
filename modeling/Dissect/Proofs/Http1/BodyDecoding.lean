import Mathlib
import Dissect.Http1.Body
import Dissect.Proofs.Deflate.StoredStreams
import Dissect.Proofs.Text.Utf8

/-!
# Decoding response bodies

A response body is dechunked, then its content codings are undone, the last applied first. Undoing
is all or nothing: a coding that fails or passes the limit leaves the body as it was.
-/

set_option autoImplicit false

namespace Dissect.Http1

open Dissect.Text Dissect.Deflate

/-! ## The two stages -/

/-- The body without the chunked transfer coding, when the `Transfer-Encoding` field lists it
and the body is well formed; the body as captured otherwise. -/
def dechunked (h : Headers) (body : Bytes) : Bytes :=
  match h.hasToken "transfer-encoding" "chunked", dechunk body with
  | true, some plain => plain
  | _, _ => body

/-- The content codings a message lists, in the order they were applied. -/
def contentCodings (h : Headers) : List String :=
  match h.get? "content-encoding" with
  | some value => codingNames value
  | none => []

/-- The codings of a list of names, up to the first name that is not known. -/
def knownRun : List String → List Coding
  | [] => []
  | name :: rest =>
    match Coding.ofName? name with
    | some c => c :: knownRun rest
    | none => []

def decodeAll (limit : Nat) (cs : List Coding) (data : Bytes) : Option Bytes :=
  cs.foldlM (fun d c => c.decode limit d) data

@[simp] theorem decodeAll_nil (limit : Nat) (data : Bytes) : decodeAll limit [] data = some data :=
  rfl

@[simp] theorem decodeAll_cons (limit : Nat) (c : Coding) (cs : List Coding) (data : Bytes) :
    decodeAll limit (c :: cs) data = (c.decode limit data).bind (decodeAll limit cs) :=
  rfl

theorem undoCodings_eq_decodeAll (limit : Nat) :
    ∀ (names : List String) (data : Bytes),
      undoCodings limit names data = decodeAll limit (knownRun names) data
  | [], _ => rfl
  | name :: rest, data => by
    cases hname : Coding.ofName? name with
    | none => simp [undoCodings, knownRun, hname]
    | some c =>
      simp only [undoCodings, knownRun, hname, decodeAll_cons]
      cases c.decode limit data with
      | none => rfl
      | some d => exact undoCodings_eq_decodeAll limit rest d

theorem decodeAll_eq_none_iff (limit : Nat) :
    ∀ (cs : List Coding) (data : Bytes), decodeAll limit cs data = none ↔
      ∃ i c y, cs[i]? = some c ∧ decodeAll limit (cs.take i) data = some y ∧
        c.decode limit y = none
  | [], data => by simp
  | c :: cs, data => by
    rw [decodeAll_cons]
    cases hc : c.decode limit data with
    | none =>
      exact ⟨fun _ => ⟨0, c, data, rfl, rfl, hc⟩, fun _ => rfl⟩
    | some d =>
      rw [Option.bind_some, decodeAll_eq_none_iff limit cs d]
      constructor
      · rintro ⟨i, c', y, hi, hy, hfail⟩
        exact ⟨i + 1, c', y, hi, by simpa [hc] using hy, hfail⟩
      · rintro ⟨i, c', y, hi, hy, hfail⟩
        cases i with
        | zero =>
          simp only [List.getElem?_cons_zero, Option.some.injEq] at hi
          simp only [List.take_zero, decodeAll_nil, Option.some.injEq] at hy
          subst hi hy
          rw [hc] at hfail
          cases hfail
        | succ i => exact ⟨i, c', y, hi, by simpa [hc] using hy, hfail⟩

theorem dechunked_eq (h : Headers) (body : Bytes) :
    (if h.hasToken "transfer-encoding" "chunked" then (dechunk body).getD body else body) =
      dechunked h body := by
  unfold dechunked
  cases h.hasToken "transfer-encoding" "chunked" <;> cases dechunk body <;> rfl

theorem Headers.decodeBody_eq (h : Headers) (body : Bytes) (limit : Nat) :
    h.decodeBody body limit =
      (decodeAll limit (knownRun (contentCodings h).reverse) (dechunked h body)).getD
        (dechunked h body) := by
  unfold Headers.decodeBody
  rw [dechunked_eq]
  unfold contentCodings
  cases h.get? "content-encoding" with
  | none => rfl
  | some value => simp only [undoCodings_eq_decodeAll]

theorem Coding.decode_length_le {limit : Nat} {c : Coding} {data out : Bytes}
    (hc : c ≠ .identity) (h : c.decode limit data = some out) : out.length ≤ limit := by
  have hwithin : ∀ (r : Inflated) (o : ByteArray), r.within limit = some o →
      o.toList.length ≤ limit := by
    intro r o hr
    rw [ByteArray.length_toList]
    cases r with
    | complete o' _ =>
      simp only [Inflated.within] at hr
      split at hr
      · cases hr
        assumption
      · cases hr
    | _ => cases hr
  cases c with
  | identity => exact absurd rfl hc
  | gzip =>
    obtain ⟨o, ho, rfl⟩ := Option.map_eq_some_iff.1 h
    exact hwithin _ _ ho
  | deflate =>
    simp only [Coding.decode] at h
    split at h
    · rename_i o ho
      cases h
      exact hwithin _ _ ho
    · obtain ⟨o, ho, rfl⟩ := Option.map_eq_some_iff.1 h
      exact hwithin _ _ ho

/-! ## Bodies a storing compressor encoded -/

/-- The name a `Content-Encoding` field gives a coding. -/
def Coding.name : Coding → String
  | .identity => "identity"
  | .gzip => "gzip"
  | .deflate => "deflate"

/-- A coding as a compressor that stores its input applies it: gzip as one member, deflate
zlib-wrapped. -/
def Coding.encode : Coding → Bytes → Bytes
  | .identity, x => x
  | .gzip, x => gzipStored x
  | .deflate, x => zlibStored x

def encodeAll (cs : List Coding) (x : Bytes) : Bytes := cs.foldl (fun d c => c.encode d) x

def encodedHeaders (cs : List Coding) : Headers :=
  ⟨[("Content-Encoding", ",".intercalate (cs.map Coding.name))]⟩

theorem Coding.decode_gzipMembers {limit : Nat} {parts : List Bytes}
    (hparts : (parts.map List.length).sum ≤ limit) :
    Coding.gzip.decode limit (parts.flatMap gzipStored) = some parts.flatten := by
  simp [Coding.decode, inflateGzip_members parts hparts, Inflated.within, hparts,
    ByteArray.toList_toByteArray]

theorem Coding.decode_encode {limit : Nat} {x : Bytes} (hx : x.length ≤ limit) :
    ∀ c : Coding, c.decode limit (c.encode x) = some x
  | .identity => rfl
  | .gzip => by
    have hone := @Coding.decode_gzipMembers limit [x] (by simpa using hx)
    simpa [Coding.encode] using hone
  | .deflate => by
    have hzlib := @inflateZlib_zlibStored limit x (by simp only [windowSize]; omega)
    simp [Coding.decode, Coding.encode, hzlib, Inflated.within, hx, ByteArray.toList_toByteArray]

theorem Coding.name_read (c : Coding) :
    toLowerAscii (trim (String.ofList c.name.toList)) = c.name ∧ ',' ∉ c.name.toList ∧
      c.name.isEmpty = false ∧ Coding.ofName? c.name = some c := by
  cases c <;> decide

theorem codingNames_intercalate (cs : List Coding) :
    codingNames (",".intercalate (cs.map Coding.name)) = cs.map Coding.name := by
  cases cs with
  | nil => decide
  | cons c cs =>
    have hsplit : ((",".intercalate ((c :: cs).map Coding.name)).toList.splitOn ',') =
        (c :: cs).map (fun c => c.name.toList) := by
      rw [String.toList_intercalate, List.map_map]
      refine List.splitOn_intercalate ',' (fun l hl => ?_) (by simp)
      obtain ⟨c', -, rfl⟩ := List.mem_map.1 hl
      exact (Coding.name_read c').2.1
    have hread : ((fun c => toLowerAscii (trim (String.ofList c))) ∘ fun c : Coding => c.name.toList) =
        Coding.name := by
      funext c
      exact (Coding.name_read c).1
    unfold codingNames
    rw [hsplit, List.map_map, hread]
    refine List.filter_eq_self.2 fun n hn => ?_
    obtain ⟨c', -, rfl⟩ := List.mem_map.1 hn
    simp [(Coding.name_read c').2.2.1]

theorem knownRun_names (cs : List Coding) : knownRun (cs.map Coding.name) = cs := by
  induction cs with
  | nil => rfl
  | cons c cs ih => simp [knownRun, (Coding.name_read c).2.2.2, ih]

theorem contentCodings_single (value : String) :
    contentCodings ⟨[("Content-Encoding", value)]⟩ = codingNames value := by
  have hname : eqIgnoreAsciiCase "Content-Encoding" "content-encoding" = true := by decide
  simp [contentCodings, Headers.get?, hname]

theorem dechunked_single (value : String) (body : Bytes) :
    dechunked ⟨[("Content-Encoding", value)]⟩ body = body := by
  have hname : eqIgnoreAsciiCase "Content-Encoding" "transfer-encoding" = false := by
    decide
  have hchunked : Headers.hasToken ⟨[("Content-Encoding", value)]⟩ "transfer-encoding" "chunked" =
      false := by
    simp [Headers.hasToken, Headers.get?, hname]
  unfold dechunked
  rw [hchunked]

theorem encodeAll_append_singleton (cs : List Coding) (c : Coding) (x : Bytes) :
    encodeAll (cs ++ [c]) x = c.encode (encodeAll cs x) := by
  simp [encodeAll, List.foldl_append]

theorem decodeAll_encodeAll {limit : Nat} (x : Bytes) :
    ∀ cs : List Coding, (∀ i < cs.length, (encodeAll (cs.take i) x).length ≤ limit) →
      decodeAll limit cs.reverse (encodeAll cs x) = some x := by
  intro cs
  induction cs using List.reverseRecOn with
  | nil => intro _; rfl
  | append_singleton cs c ih =>
    intro hbound
    -- the last coding applied is undone first, on what the others gave
    have hlast : (encodeAll cs x).length ≤ limit := by
      have := hbound cs.length (by simp)
      rwa [List.take_left' rfl] at this
    have hfront : ∀ i < cs.length, (encodeAll (cs.take i) x).length ≤ limit := by
      intro i hi
      have := hbound i (by simp; omega)
      rwa [List.take_append_of_le_length (by omega)] at this
    rw [List.reverse_append, List.reverse_singleton, List.singleton_append, decodeAll_cons,
      encodeAll_append_singleton, Coding.decode_encode hlast, Option.bind_some, ih hfront]

theorem decodeBody_encodeAll {limit : Nat} (cs : List Coding) (x : Bytes)
    (hbound : ∀ i < cs.length, (encodeAll (cs.take i) x).length ≤ limit) :
    (encodedHeaders cs).decodeBody (encodeAll cs x) limit = x := by
  rw [Headers.decodeBody_eq, encodedHeaders, contentCodings_single, dechunked_single,
    codingNames_intercalate, ← List.map_reverse, knownRun_names, decodeAll_encodeAll x cs hbound,
    Option.getD_some]

theorem decodeBody_gzipMembers {limit : Nat} (parts : List Bytes)
    (hparts : (parts.map List.length).sum ≤ limit) :
    (Headers.mk [("Content-Encoding", "x-gzip")]).decodeBody (parts.flatMap gzipStored) limit =
      parts.flatten := by
  have hcodings : knownRun (codingNames "x-gzip").reverse = [.gzip] := by decide
  rw [Headers.decodeBody_eq, contentCodings_single, dechunked_single, hcodings, decodeAll_cons,
    Coding.decode_gzipMembers hparts]
  rfl

theorem decodeBody_all_or_nothing (h : Headers) (body : Bytes) (limit : Nat) :
    h.decodeBody body limit =
        (decodeAll limit (knownRun (contentCodings h).reverse) (dechunked h body)).getD
          (dechunked h body) ∧
      (∀ i c y, (knownRun (contentCodings h).reverse)[i]? = some c →
        decodeAll limit ((knownRun (contentCodings h).reverse).take i) (dechunked h body) = some y →
        c.decode limit y = none → h.decodeBody body limit = dechunked h body) ∧
      (∀ (c : Coding) (data out : Bytes), c ≠ .identity → c.decode limit data = some out →
        out.length ≤ limit) ∧
      (∀ cs x, (∀ i < cs.length, (encodeAll (cs.take i) x).length ≤ limit) →
        (encodedHeaders cs).decodeBody (encodeAll cs x) limit = x) ∧
      (∀ parts : List Bytes, (parts.map List.length).sum ≤ limit →
        (Headers.mk [("Content-Encoding", "x-gzip")]).decodeBody (parts.flatMap gzipStored) limit =
          parts.flatten) := by
  refine ⟨h.decodeBody_eq body limit, fun i c y hi hy hfail => ?_,
    fun _ _ _ hc hdec => Coding.decode_length_le hc hdec,
    fun cs x hbound => decodeBody_encodeAll cs x hbound,
    fun parts hparts => decodeBody_gzipMembers parts hparts⟩
  -- one coding of the run fails, so the whole run does and the body stays without its codings
  have hnone := (decodeAll_eq_none_iff limit _ _).2 ⟨i, c, y, hi, hy, hfail⟩
  rw [h.decodeBody_eq body limit, hnone, Option.getD_none]

/-- Decoding at the limit itself: a stored gzip body wrapped in deflate, whose gzip stage is
exactly the limit long, and two stored gzip members as long as the limit together decode back; a
body that is no gzip member is left as it came. -/
theorem decodeBody_stored_at_limit :
    (encodedHeaders [.gzip, .deflate]).decodeBody (encodeAll [.gzip, .deflate] [104, 105]) 25 =
        [104, 105] ∧
      (Headers.mk [("Content-Encoding", "x-gzip")]).decodeBody ([[104], [105]].flatMap gzipStored)
        2 = [104, 105] ∧
      (Headers.mk [("Content-Encoding", "gzip")]).decodeBody [1, 2, 3] 10 = [1, 2, 3] ∧
      ∃ out, Coding.gzip.decode 2 (gzipStored [104, 105]) = some out ∧ out.length ≤ 2 := by
  obtain ⟨-, -, -, hround, -⟩ := decodeBody_all_or_nothing (encodedHeaders []) [] 25
  obtain ⟨-, -, hle, -, hmembers⟩ := decodeBody_all_or_nothing (encodedHeaders []) [] 2
  obtain ⟨-, hfail, -, -, -⟩ :=
    decodeBody_all_or_nothing (Headers.mk [("Content-Encoding", "gzip")]) [1, 2, 3] 10
  have hdecode : Coding.gzip.decode 2 (gzipStored [104, 105]) = some [104, 105] :=
    Coding.decode_encode (by decide) .gzip
  refine ⟨hround _ _ fun i hi => ?_, hmembers [[104], [105]] (by decide), ?_,
    ⟨_, hdecode, hle .gzip _ _ (by decide) hdecode⟩⟩
  · -- the stages before the last: the text, then its gzip member of exactly 25 octets
    match i, hi with
    | 0, _ => decide
    | 1, _ =>
      simp [encodeAll, Coding.encode, gzipStored, storedStream_of_le, length_lastStoredBlock,
        gzipPlainHeader]
  · have hplain := dechunked_single "gzip" [1, 2, 3]
    rw [← hplain]
    refine hfail 0 .gzip [1, 2, 3] ?_ ?_ (by rfl)
    · rw [contentCodings_single]
      decide +kernel
    · rw [hplain]
      rfl

end Dissect.Http1
