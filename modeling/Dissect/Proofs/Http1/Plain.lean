import Dissect.Dissection.Dissector

/-!
# The plain HTTP dissector on empty chunks

The plain HTTP dissector answers each chunk on its own. An empty client chunk is no request: its
request line has no words, so the chunk is answered by the diagnostic
`Unable to parse HTTP request: 400 Bad request syntax ('')`, whatever chunks surround it
(`Dissector.transform_http_empty_requests`).
-/

set_option autoImplicit false

namespace Dissect

theorem Http1.Request.parse_nil : Http1.Request.parse [] = .error (.requestSyntax "") := by
  have hsplit : Http1.splitHead [] = ([], []) := by decide
  have hlossy : Utf8.lossy [] = "" := by simp [Utf8.lossy, Utf8.lossyChars]
  have hlines : Http1.headLines [] = [""] := by
    unfold Http1.headLines
    rw [hlossy]
    decide
  have hwords : Text.words "" = [] := by decide
  simp [Http1.Request.parse, hsplit, hlines, hwords]
  rfl

def emptyRequestDiagnostic : Chunk :=
  Chunk.text .client "Unable to parse HTTP request: 400 Bad request syntax ('')"

theorem Http1.plainHooks_chunk_empty_request (limit : Nat) :
    (Http1.plainHooks limit).chunk ⟨.client, []⟩ = pure [emptyRequestDiagnostic] := by
  have hmsg : toString "Unable to parse HTTP " ++ toString (Http1.messageWord .client) ++
      toString ": " ++ toString (Issue.http (Http1.MessageError.requestSyntax "").message).message =
      "Unable to parse HTTP request: 400 Bad request syntax ('')" := by decide
  apply ExceptT.ext
  simp [Http1.Hooks.chunk, Dissecting.recovering, ExceptT.run_tryCatch, Http1.Hooks.answer,
    Http1.plainHooks, Http1.Request.parse_nil, Issue.isFatal, emptyRequestDiagnostic]
  rw [hmsg]

private theorem mapM_replicate_eq_pure {m : Type → Type} [Monad m] [LawfulMonad m] {α β : Type}
    {f : α → m β} {x : α} {y : β} (h : f x = pure y) (n : Nat) :
    (List.replicate n x).mapM f = pure (List.replicate n y) := by
  induction n with
  | zero => rfl
  | succ n ih => simp [List.replicate_succ, h, ih]

theorem Dissector.transform_http_empty_requests (config : Config) (n : Nat) :
    Dissector.http.transform config (List.replicate n ⟨.client, []⟩) =
      .ok (List.replicate n emptyRequestDiagnostic) := by
  simp only [Dissector.transform, Http1.Hooks.dissect,
    mapM_replicate_eq_pure (Http1.plainHooks_chunk_empty_request _), pure_bind]
  simp [Dissecting.evaluate]

end Dissect
