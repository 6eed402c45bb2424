import Mathlib
import Dissect.Proofs.Dissection.Relational

/-!
# The plain HTTP dissector answers chunk for chunk

Each chunk of a conversation is answered by exactly one chunk of its direction: the request, the
response with its decoded body, or the diagnostic that says why the chunk cannot be read.
-/

set_option autoImplicit false

namespace Dissect

open Dissecting

namespace Bytes

theorem findFrom_spec {pat : Bytes} :
    ∀ {bs : Bytes} {i j : Nat}, findFrom pat i bs = some j →
      i ≤ j ∧ bs = bs.take (j - i) ++ pat ++ bs.drop (j - i + pat.length)
  | [], i, j, h => by
    simp only [findFrom] at h
    split at h
    · rename_i hpat
      cases h
      simp [List.isEmpty_iff.1 hpat]
    · cases h
  | b :: rest, i, j, h => by
    simp only [findFrom] at h
    split at h
    · rename_i hpre
      cases h
      have hsplit := (List.prefix_iff_eq_append.1 (List.isPrefixOf_iff_prefix.1 hpre)).symm
      simpa using hsplit
    · obtain ⟨hle, hrest⟩ := findFrom_spec h
      refine ⟨by omega, ?_⟩
      obtain ⟨k, rfl⟩ : ∃ k, j = i + 1 + k := ⟨j - (i + 1), by omega⟩
      rw [show i + 1 + k - (i + 1) = k by omega] at hrest
      rw [show i + 1 + k - i = k + 1 by omega, show k + 1 + pat.length = (k + pat.length) + 1 by omega,
        List.take_succ_cons, List.drop_succ_cons, List.cons_append, List.cons_append, ← hrest]

theorem find?_spec {pat bs : Bytes} {j : Nat} (h : find? pat bs = some j) :
    bs = bs.take j ++ pat ++ bs.drop (j + pat.length) := by
  simpa using (findFrom_spec h).2

end Bytes

namespace Http1

theorem Response.split_of_parse {data : Bytes} {r : Response} (h : Response.parse data = .ok r) :
    ∃ i, Bytes.find? blankLine data = some i ∧ r.head = data.take i ∧ r.body = data.drop (i + 4) := by
  cases hi : Bytes.find? blankLine data with
  | none => simp [Response.parse, hi] at h
  | some i =>
    refine ⟨i, rfl, ?_⟩
    simp only [Response.parse, hi] at h
    split at h
    · split at h
      · split at h
        · simp only [pure, Except.pure, Except.ok.injEq] at h
          subst h
          exact ⟨rfl, rfl⟩
        · cases h
      · cases h
    · cases h

theorem Response.reassemble_of_parse {data : Bytes} {r : Response} (h : Response.parse data = .ok r) :
    r.head ++ blankLine ++ r.body = data := by
  obtain ⟨i, hi, hhead, hbody⟩ := Response.split_of_parse h
  rw [hhead, hbody]
  exact (Bytes.find?_spec hi).symm

/-- What the plain hooks answer a chunk with: a request as it came, a response with its body
decoded up to `limit` octets, or the one diagnostic for a chunk that cannot be read. -/
def plainAnswer (limit : Nat) (c : Chunk) : Chunk :=
  match c.direction with
  | .client =>
    match Request.parse c.content with
    | .ok _ => c
    | .error e => Chunk.text .client ("Unable to parse HTTP request: " ++ e.message)
  | .server =>
    match Response.parse c.content with
    | .ok r => Response.renderChunk .server r limit
    | .error e => Chunk.text .server ("Unable to parse HTTP response: " ++ e.message)

/-- What a plain answer `o` to a chunk `c` must be: of the chunk's direction; the chunk itself
for a request that can be read and for a response whose body decoding changes nothing; the head,
a blank line and the decoded body for any response that can be read; and one diagnostic naming
the reason for a chunk that cannot be read. -/
structure AnswersPlainly (limit : Nat) (c o : Chunk) : Prop where
  direction : o.direction = c.direction
  request : c.direction = .client → ∀ r, Request.parse c.content = .ok r → o = c
  response : c.direction = .server → ∀ r, Response.parse c.content = .ok r →
    o.content = r.head ++ blankLine ++ r.headers.decodeBody r.body limit
  unchanged : c.direction = .server → ∀ r, Response.parse c.content = .ok r →
    r.headers.decodeBody r.body limit = r.body → o = c
  badRequest : c.direction = .client → ∀ e, Request.parse c.content = .error e →
    o = Chunk.text .client ("Unable to parse HTTP request: " ++ e.message)
  badResponse : c.direction = .server → ∀ e, Response.parse c.content = .error e →
    o = Chunk.text .server ("Unable to parse HTTP response: " ++ e.message)

theorem answersPlainly_plainAnswer (limit : Nat) (c : Chunk) :
    AnswersPlainly limit c (plainAnswer limit c) := by
  obtain ⟨d, content⟩ := c
  cases d with
  | client =>
    refine ⟨?_, fun _ r hr => ?_, nofun, nofun, fun _ e he => ?_, nofun⟩
    · cases hp : Request.parse content <;> simp [plainAnswer, hp, Chunk.text]
    · simp [plainAnswer, hr]
    · simp [plainAnswer, he]
  | server =>
    refine ⟨?_, nofun, fun _ r hr => ?_, fun _ r hr hsame => ?_, nofun, fun _ e he => ?_⟩
    · cases hp : Response.parse content <;>
        simp [plainAnswer, hp, Chunk.text, Response.renderChunk]
    · simp [plainAnswer, hr, Response.renderChunk, Response.render]
    · -- the body decodes to itself, so the rendering puts the chunk back together
      have hback := Response.reassemble_of_parse hr
      simp only [plainAnswer, hr, Response.renderChunk, Response.render, hsame]
      rw [hback]
    · simp [plainAnswer, he]

theorem diagnostic_text (d : Direction) (t : String) :
    s!"Unable to parse HTTP {messageWord d}: {(Issue.http t).message}" =
      "Unable to parse HTTP " ++ messageWord d ++ ": " ++ t :=
  rfl

theorem diagnostic_request (t : String) :
    s!"Unable to parse HTTP {messageWord .client}: {(Issue.http t).message}" =
      "Unable to parse HTTP request: " ++ t := by
  have hword : "Unable to parse HTTP " ++ messageWord .client ++ ": " =
      "Unable to parse HTTP request: " := by decide
  rw [diagnostic_text, hword]

theorem diagnostic_response (t : String) :
    s!"Unable to parse HTTP {messageWord .server}: {(Issue.http t).message}" =
      "Unable to parse HTTP response: " ++ t := by
  have hword : "Unable to parse HTTP " ++ messageWord .server ++ ": " =
      "Unable to parse HTTP response: " := by decide
  rw [diagnostic_text, hword]

theorem diagnostic_response_text (t : String) :
    s!"Unable to parse HTTP {messageWord .server}: {t}" = "Unable to parse HTTP response: " ++ t :=
  diagnostic_response t

theorem exec_plain_chunk (limit : Nat) (c : Chunk) :
    exec ((plainHooks limit).chunk c) () = (.ok [plainAnswer limit c], ()) := by
  obtain ⟨d, content⟩ := c
  unfold Hooks.chunk Hooks.answer
  rw [Dissecting.recovering, exec_tryCatch, exec_bind]
  cases d with
  | client =>
    cases hp : Request.parse content with
    | ok r => simp [plainHooks, plainAnswer, hp]
    | error e =>
      simp [plainHooks, plainAnswer, hp, Issue.isFatal, Chunk.text, diagnostic_request]
  | server =>
    cases hp : Response.parse content with
    | ok r => simp [plainHooks, plainAnswer, hp]
    | error e =>
      simp [plainHooks, plainAnswer, hp, Issue.isFatal, Chunk.text, diagnostic_response]

theorem exec_plain_dissect (limit : Nat) :
    ∀ chunks : List Chunk,
      exec ((plainHooks limit).dissect chunks) () = (.ok (chunks.map (plainAnswer limit)), ())
  | [] => rfl
  | c :: chunks => by
    have hrest := exec_plain_dissect limit chunks
    unfold Hooks.dissect at hrest ⊢
    rw [exec_bind] at hrest ⊢
    rw [exec_mapM_cons_of_ok (exec_plain_chunk limit c)]
    rcases hmap : exec (chunks.mapM (plainHooks limit).chunk) () with ⟨r, u⟩
    rw [hmap] at hrest
    cases r with
    | error e => cases hrest
    | ok outs =>
      cases u
      simp only [exec_pure, Prod.mk.injEq, Except.ok.injEq, and_true] at hrest
      simp [Except.map, hrest]

/-! ## Any hooks, chunk by chunk -/

namespace Hooks

variable {τ : Type} (h : Hooks τ) {c : Chunk} {s s' : τ}

theorem exec_answer_of_request (hraw : exec (h.rawChunk c) s = (.ok none, s))
    (hd : c.direction = .client) {r : Request} (hr : Request.parse c.content = .ok r) :
    exec (h.answer c) s = exec (h.request c r) s := by
  unfold answer
  rw [exec_bind, hraw]
  simp only [hd, hr]

theorem exec_answer_of_response (hraw : exec (h.rawChunk c) s = (.ok none, s))
    (hd : c.direction = .server) {r : Response} (hr : Response.parse c.content = .ok r) :
    exec (h.answer c) s = exec (h.response c r) s := by
  unfold answer
  rw [exec_bind, hraw]
  simp only [hd, hr]

theorem exec_chunk_of_ok {out : List Chunk} (ha : exec (h.answer c) s = (.ok out, s')) :
    exec (h.chunk c) s = (.ok out, s') := by
  rw [chunk, Dissecting.recovering, exec_tryCatch, ha]

theorem exec_chunk_of_error {e : Issue} (ha : exec (h.answer c) s = (.error e, s'))
    (he : e.isFatal = false) :
    exec (h.chunk c) s = (.ok [Chunk.text c.direction
      s!"Unable to parse HTTP {messageWord c.direction}: {e.message}"], s') := by
  rw [chunk, Dissecting.recovering, exec_tryCatch, ha]
  simp only [he, Bool.false_eq_true, if_false]
  rfl

theorem exec_chunk_of_fatal {e : Issue} (ha : exec (h.answer c) s = (.error e, s'))
    (he : e.isFatal = true) : exec (h.chunk c) s = (.error e, s') := by
  rw [chunk, Dissecting.recovering, exec_tryCatch, ha]
  simp only [he, if_true]
  rfl

theorem exec_dissect_cons_of_error {e : Issue} (hc : exec (h.chunk c) s = (.error e, s'))
    (more : List Chunk) : exec (h.dissect (c :: more)) s = (.error e, s') := by
  rw [dissect, exec_bind, List.mapM_cons, exec_bind, hc]

theorem exec_chunk_of_response (hraw : exec (h.rawChunk c) s = (.ok none, s))
    (hd : c.direction = .server) {r : Response} (hr : Response.parse c.content = .ok r) :
    exec (h.chunk c) s = exec ((h.response c r).recovering fun e =>
      [Chunk.text .server ("Unable to parse HTTP response: " ++ e.message)]) s := by
  rw [chunk, Dissecting.recovering, Dissecting.recovering, exec_tryCatch, exec_tryCatch,
    exec_answer_of_response h hraw hd hr]
  rcases exec (h.response c r) s with ⟨_ | out, s'⟩
  · dsimp only
    rw [hd, diagnostic_response_text]
  · rfl

end Hooks

end Http1

theorem Dissector.transform_http_answers (config : Config) (chunks : List Chunk) :
    (∃ out, Dissector.http.transform config chunks = .ok out ∧ out.length = chunks.length ∧
      List.Forall₂ (Http1.AnswersPlainly config.normalize.maxInflatedSize) chunks out) ∧
    ∀ data r, Http1.Response.parse data = .ok r → r.head ++ Http1.blankLine ++ r.body = data := by
  refine ⟨⟨chunks.map (Http1.plainAnswer config.normalize.maxInflatedSize), ?_, ?_, ?_⟩,
    fun _ _ h => Http1.Response.reassemble_of_parse h⟩
  · rw [Dissector.transform, evaluate_eq_exec, Http1.exec_plain_dissect]
  · exact List.length_map _
  · rw [List.forall₂_map_right_iff]
    exact List.forall₂_same.2 fun c _ => Http1.answersPlainly_plainAnswer _ c

end Dissect
