import Mathlib
import Dissect.Http2.Frame
import Dissect.Proofs.Bytes.BigEndian

/-!
# Frames read back

A frame that the wire format can carry and whose body fits its type is read back from its
encoding, with `PADDED` cleared and `PRIORITY` set exactly when it carries a priority.
-/

set_option autoImplicit false

namespace Dissect.Http2

/-! ## Flag bits -/

theorem and_not_and_eq (x : UInt8) {c m : UInt8} (h : ~~~c &&& m = m) :
    x &&& ~~~c &&& m = x &&& m := by
  rw [UInt8.and_assoc, h]

theorem or_and_eq (x : UInt8) {c m : UInt8} (h : c &&& m = 0) : (x ||| c) &&& m = x &&& m := by
  apply UInt8.toBitVec_inj.1
  have hc : c.toBitVec &&& m.toBitVec = 0 := UInt8.toBitVec_inj.2 h
  simp [BitVec.and_or_distrib_right, hc]

theorem hasFlag_and_not_self (x b : UInt8) : hasFlag (x &&& ~~~b) b = false := by
  simp [hasFlag, UInt8.and_assoc, UInt8.not_and_self]

theorem hasFlag_or_self (x : UInt8) {b : UInt8} (hb : b ≠ 0) : hasFlag (x ||| b) b = true := by
  have hor : (x ||| b) &&& b = (x &&& b) ||| b := by
    apply UInt8.toBitVec_inj.1
    simp only [UInt8.toBitVec_and, UInt8.toBitVec_or, BitVec.and_or_distrib_right, BitVec.and_self]
  simp [hasFlag, hor, UInt8.or_eq_zero_iff, hb]

theorem hasFlag_or_of_disjoint (x : UInt8) {b c : UInt8} (h : c &&& b = 0) :
    hasFlag (x ||| c) b = hasFlag x b := by
  simp only [hasFlag, or_and_eq x h]

theorem hasFlag_and_not_of_disjoint (x : UInt8) {b c : UInt8} (h : ~~~c &&& b = b) :
    hasFlag (x &&& ~~~c) b = hasFlag x b := by
  simp only [hasFlag, and_not_and_eq x h]

/-! ## Fixed-width fields -/

@[simp] theorem Priority.length_encode (p : Priority) : p.encode.length = 5 := by
  simp [Priority.encode]

theorem Priority.read_encode_append {p : Priority} (h : p.dependsOn < 2 ^ 31) (rest : Bytes) :
    Priority.read (p.encode ++ rest) = p := by
  obtain ⟨exclusive, dependsOn, weight⟩ := p
  simp only [Priority.encode, Priority.read, List.append_assoc, List.cons_append, List.nil_append,
    List.take_left' (Bytes.length_ofBeNat 4 _), Bytes.beNat_ofBeNat]
  -- the exclusive bit sits above the stream, so four octets hold both without overlap
  cases exclusive <;> simp at h ⊢ <;> omega

theorem length_settingsPayload (values : List (Nat × Nat)) :
    (settingsPayload values).length = 6 * values.length := by
  induction values with
  | nil => rfl
  | cons p values ih =>
    simp only [settingsPayload, List.flatMap_cons, List.length_append] at ih ⊢
    rw [ih]
    simp
    ring

theorem settingsEntries_append {e : Bytes} (he : e.length = 6) (rest : Bytes) :
    settingsEntries (e ++ rest) =
      (Bytes.beNat (e.take 2), Bytes.beNat (e.drop 2)) :: settingsEntries rest := by
  have hlen : (e ++ rest).length / 6 = rest.length / 6 + 1 := by
    simp only [List.length_append, he]
    omega
  simp only [settingsEntries, hlen, List.range_succ_eq_map, List.map_cons, List.map_map]
  congr 1
  · simp [List.take_left' he]
  · apply List.map_congr_left
    intro i _
    have hdrop : (e ++ rest).drop (6 * (i + 1)) = rest.drop (6 * i) := by
      rw [Nat.mul_succ, Nat.add_comm, ← List.drop_drop, List.drop_left' he]
    simp only [Function.comp_apply, Nat.succ_eq_add_one, hdrop]

theorem settingsEntries_settingsPayload {values : List (Nat × Nat)}
    (h : ∀ p ∈ values, p.1 < 2 ^ 16 ∧ p.2 < 2 ^ 32) :
    settingsEntries (settingsPayload values) = values := by
  induction values with
  | nil => rfl
  | cons p values ih =>
    obtain ⟨id, v⟩ := p
    obtain ⟨hid, hv⟩ : id < 2 ^ 16 ∧ v < 2 ^ 32 := h (id, v) List.mem_cons_self
    have hrest : settingsEntries (settingsPayload values) = values :=
      ih fun q hq => h q (List.mem_cons_of_mem _ hq)
    simp only [settingsPayload, List.flatMap_cons] at hrest ⊢
    rw [settingsEntries_append (by simp), hrest]
    simp [List.take_left', List.drop_left', Bytes.beNat_ofBeNat]
    omega

/-! ## Padding -/

theorem stripPadding_of_not_padded {flags : UInt8} (h : hasFlag flags padded = false)
    (payload : Bytes) : stripPadding flags payload = .ok payload := by
  simp [stripPadding, h]

theorem stripPadding_padded {flags : UInt8} (h : hasFlag flags padded = true) {pad : UInt8}
    {padding : Bytes} (hlen : padding.length = pad.toNat) (payload : Bytes) :
    stripPadding flags (pad :: (payload ++ padding)) = .ok payload := by
  have hfits : ¬ pad.toNat ≥ (pad :: (payload ++ padding)).length := by
    simp only [List.length_cons, List.length_append, hlen]
    omega
  simp only [stripPadding, h, Bool.not_true, Bool.false_eq_true, if_false]
  rw [if_neg hfits]
  simp [hlen]

/-! ## The flags a frame is written with -/

namespace Frame

theorem hasFlag_wireFlags_padded (f : Frame) : hasFlag f.wireFlags padded = false := by
  unfold wireFlags
  split
  · rw [hasFlag_and_not_of_disjoint _ (by decide)]
    exact hasFlag_and_not_self _ _
  · rw [hasFlag_or_of_disjoint _ (by decide)]
    exact hasFlag_and_not_self _ _
  · exact hasFlag_and_not_self _ _

theorem hasFlag_wireFlags_priority {f : Frame} {block : Bytes} {p : Option Priority}
    (h : f.body = .headers block p) : hasFlag f.wireFlags priorityFlag = p.isSome := by
  cases p with
  | none =>
    simp only [wireFlags, h]
    exact hasFlag_and_not_self _ _
  | some q =>
    simp only [wireFlags, h]
    exact hasFlag_or_self _ (by decide)

theorem wireFlags_of_not_headers {f : Frame} (h : ∀ block p, f.body ≠ .headers block p) :
    f.wireFlags = f.flags &&& ~~~padded := by
  unfold wireFlags
  split
  · exact absurd ‹_› (h _ _)
  · exact absurd ‹_› (h _ _)
  · rfl

theorem wireFlags_and_others (f : Frame) :
    f.wireFlags &&& ~~~(padded ||| priorityFlag) = f.flags &&& ~~~(padded ||| priorityFlag) := by
  have hpadded : f.flags &&& ~~~padded &&& ~~~(padded ||| priorityFlag) =
      f.flags &&& ~~~(padded ||| priorityFlag) := and_not_and_eq _ (by decide)
  unfold wireFlags
  split
  · rw [and_not_and_eq _ (by decide), hpadded]
  · rw [or_and_eq _ (by decide), hpadded]
  · exact hpadded

end Frame

/-! ## What a frame may carry -/

/-- The fields of a frame that the wire format can carry, and the stream its type requires:
stream dependencies, promised and last streams and window increments fit 31 bits, error codes and
setting values 32, setting identifiers 16; PING carries eight octets; an acknowledging SETTINGS
frame carries no entries; a type this codec does not interpret is none of the ten it does. -/
def Frame.Fits (f : Frame) : Prop :=
  match f.body with
  | .data _ | .continuation _ => f.streamId ≠ 0
  | .headers _ p => f.streamId ≠ 0 ∧ ∀ q ∈ p, q.dependsOn < 2 ^ 31
  | .priority p => f.streamId ≠ 0 ∧ p.dependsOn < 2 ^ 31
  | .rstStream code => f.streamId ≠ 0 ∧ code < 2 ^ 32
  | .settings values => f.streamId = 0 ∧ (hasFlag f.flags ack = true → values = []) ∧
      ∀ p ∈ values, p.1 < 2 ^ 16 ∧ p.2 < 2 ^ 32
  | .pushPromise promised _ => f.streamId ≠ 0 ∧ promised < 2 ^ 31
  | .ping octets => f.streamId = 0 ∧ octets.length = 8
  | .goAway last code _ => f.streamId = 0 ∧ last < 2 ^ 31 ∧ code < 2 ^ 32
  | .windowUpdate increment => increment < 2 ^ 31
  | .extension kind _ => 9 < kind.toNat

/-- A frame written and read back as itself: its stream fits 31 bits, the length of its payload
24, and its fields fit its type. -/
structure Frame.WellFormed (f : Frame) : Prop where
  streamId_lt : f.streamId < 2 ^ 31
  length_lt : f.wirePayload.length < 2 ^ 24
  fits : f.Fits

/-! ## Payloads read back -/

theorem parseBody_extension {kind : UInt8} (hk : 9 < kind.toNat) (flags : UInt8) (streamId : Nat)
    (payload : Bytes) : parseBody kind flags streamId payload = .ok (.extension kind payload) := by
  dsimp only [parseBody]
  split <;> first | rfl | simp at hk

theorem Frame.parseBody_wirePayload {f : Frame} (hf : f.Fits) :
    parseBody f.kind f.wireFlags f.streamId f.wirePayload = .ok f.body := by
  have hpad := stripPadding_of_not_padded f.hasFlag_wireFlags_padded
  cases hb : f.body with
  | data d =>
    simp only [Frame.Fits, hb] at hf
    simp only [Frame.kind, Frame.wirePayload, hb, dataKind, parseBody, hf, hpad, ↓reduceIte, bind,
      Except.bind, pure, Except.pure]
  | continuation d =>
    simp only [Frame.Fits, hb] at hf
    simp only [Frame.kind, Frame.wirePayload, hb, continuationKind, parseBody, hf, ↓reduceIte, bind,
      Except.bind, pure, Except.pure]
  | headers block p =>
    simp only [Frame.Fits, hb] at hf
    have hprio := Frame.hasFlag_wireFlags_priority hb
    cases p with
    | none =>
      simp only [Option.isSome_none] at hprio
      simp only [Frame.kind, Frame.wirePayload, hb, headersKind, parseBody, hf.1, hpad, hprio,
        Bool.false_eq_true, ↓reduceIte, bind, Except.bind, pure, Except.pure]
    | some q =>
      have hq : q.dependsOn < 2 ^ 31 := hf.2 q rfl
      have hlen : ¬ (q.encode ++ block).length < 5 := by simp
      simp only [Option.isSome_some] at hprio
      simp only [Frame.kind, Frame.wirePayload, hb, headersKind, parseBody, hf.1, hpad, hprio,
        hlen, ↓reduceIte, bind, Except.bind, pure, Except.pure, Priority.read_encode_append hq,
        List.drop_left' (Priority.length_encode q)]
  | priority p =>
    simp only [Frame.Fits, hb] at hf
    have hread : Priority.read p.encode = p := by
      simpa using Priority.read_encode_append hf.2 []
    simp only [Frame.kind, Frame.wirePayload, hb, priorityKind, parseBody, hf.1, Priority.length_encode,
      hread, ↓reduceIte, bind, Except.bind, pure, Except.pure, ne_eq, not_true_eq_false]
  | rstStream code =>
    simp only [Frame.Fits, hb] at hf
    have hcode : Bytes.beNat (Bytes.ofBeNat 4 code) = code := by
      rw [Bytes.beNat_ofBeNat]
      exact Nat.mod_eq_of_lt (by simpa using hf.2)
    simp only [Frame.kind, Frame.wirePayload, hb, rstStreamKind, parseBody, hf.1, Bytes.length_ofBeNat,
      hcode, ↓reduceIte, bind, Except.bind, pure, Except.pure, ne_eq, not_true_eq_false]
  | settings values =>
    simp only [Frame.Fits, hb] at hf
    obtain ⟨hs, hack, hvalues⟩ := hf
    have hack' : (hasFlag f.wireFlags ack && !(settingsPayload values).isEmpty) = false := by
      rw [Frame.wireFlags_of_not_headers (by simp [hb]), hasFlag_and_not_of_disjoint _ (by decide)]
      cases h : hasFlag f.flags ack
      · rfl
      · simp [hack h, settingsPayload]
    simp only [Frame.kind, Frame.wirePayload, hb, settingsKind, parseBody, hs, length_settingsPayload,
      Nat.mul_mod_right, hack', settingsEntries_settingsPayload hvalues, ↓reduceIte, bind,
      Except.bind, pure, Except.pure, ne_eq, not_true_eq_false, Bool.false_eq_true]
  | pushPromise promised block =>
    simp only [Frame.Fits, hb] at hf
    have hlen : ¬ (Bytes.ofBeNat 4 promised ++ block).length < 4 := by simp
    have hpromised : Bytes.beNat ((Bytes.ofBeNat 4 promised ++ block).take 4) % Nat.pow 2 31 =
        promised := by
      rw [List.take_left' (Bytes.length_ofBeNat 4 _), Bytes.beNat_ofBeNat]
      have hpow : Nat.pow 2 31 = 2 ^ 31 := rfl
      rw [hpow, Nat.mod_eq_of_lt (by omega : promised < 256 ^ 4), Nat.mod_eq_of_lt hf.2]
    simp only [Frame.kind, Frame.wirePayload, hb, pushPromiseKind, parseBody, hf.1, hpad, hlen,
      hpromised, List.drop_left' (Bytes.length_ofBeNat 4 _), ↓reduceIte, bind, Except.bind, pure,
      Except.pure]
  | ping octets =>
    simp only [Frame.Fits, hb] at hf
    simp only [Frame.kind, Frame.wirePayload, hb, pingKind, parseBody, hf.1, hf.2, ↓reduceIte, bind,
      Except.bind, pure, Except.pure, ne_eq, not_true_eq_false]
  | goAway last code debug =>
    simp only [Frame.Fits, hb] at hf
    obtain ⟨hs, hlast, hcode⟩ := hf
    have hA := Bytes.length_ofBeNat 4 last
    have hB := Bytes.length_ofBeNat 4 code
    have hfields : Bytes.ofBeNat 4 last ++ Bytes.ofBeNat 4 code ++ debug =
        Bytes.ofBeNat 4 last ++ (Bytes.ofBeNat 4 code ++ debug) := List.append_assoc _ _ _
    have hlen : ¬ (Bytes.ofBeNat 4 last ++ (Bytes.ofBeNat 4 code ++ debug)).length < 8 := by
      simp only [List.length_append, hA, hB]
      omega
    have hdebug : (Bytes.ofBeNat 4 last ++ (Bytes.ofBeNat 4 code ++ debug)).drop 8 = debug := by
      rw [show 8 = 4 + 4 from rfl, ← List.drop_drop, List.drop_left' hA, List.drop_left' hB]
    have hpow : Nat.pow 2 31 = 2 ^ 31 := rfl
    have hlast' : Bytes.beNat (Bytes.ofBeNat 4 last) % Nat.pow 2 31 = last := by
      rw [Bytes.beNat_ofBeNat, hpow, Nat.mod_eq_of_lt (by omega : last < 256 ^ 4),
        Nat.mod_eq_of_lt hlast]
    have hcode' : Bytes.beNat (Bytes.ofBeNat 4 code) = code := by
      rw [Bytes.beNat_ofBeNat]
      exact Nat.mod_eq_of_lt (by omega)
    simp only [Frame.kind, Frame.wirePayload, hb, goAwayKind, parseBody, hs, hfields, hlen, hdebug,
      List.take_left' hA, List.drop_left' hA, List.take_left' hB, hlast', hcode', ↓reduceIte, bind,
      Except.bind, pure, Except.pure, ne_eq, not_true_eq_false]
  | windowUpdate increment =>
    simp only [Frame.Fits, hb] at hf
    have hpow : Nat.pow 2 31 = 2 ^ 31 := rfl
    have hinc : Bytes.beNat (Bytes.ofBeNat 4 increment) % Nat.pow 2 31 = increment := by
      rw [Bytes.beNat_ofBeNat, hpow, Nat.mod_eq_of_lt (by omega : increment < 256 ^ 4),
        Nat.mod_eq_of_lt hf]
    simp only [Frame.kind, Frame.wirePayload, hb, windowUpdateKind, parseBody, Bytes.length_ofBeNat,
      hinc, ↓reduceIte, bind, Except.bind, pure, Except.pure, ne_eq, not_true_eq_false]
  | extension kind raw =>
    simp only [Frame.Fits, hb] at hf
    simp only [Frame.kind, Frame.wirePayload, hb, parseBody_extension hf]

theorem parseBody_padded {kind flags : UInt8}
    (hk : kind = dataKind ∨ kind = headersKind ∨ kind = pushPromiseKind)
    (hflags : hasFlag flags padded = false) (streamId : Nat) {pad : UInt8} {padding : Bytes}
    (hlen : padding.length = pad.toNat) (payload : Bytes) :
    parseBody kind (flags ||| padded) streamId (pad :: (payload ++ padding)) =
      parseBody kind flags streamId payload := by
  have hstrip : stripPadding (flags ||| padded) (pad :: (payload ++ padding)) =
      stripPadding flags payload := by
    rw [stripPadding_padded (hasFlag_or_self _ (by decide)) hlen, stripPadding_of_not_padded hflags]
  have hprio : hasFlag (flags ||| padded) priorityFlag = hasFlag flags priorityFlag :=
    hasFlag_or_of_disjoint _ (by decide)
  rcases hk with rfl | rfl | rfl <;>
    simp only [parseBody, dataKind, headersKind, pushPromiseKind, hstrip, hprio]

theorem Frame.parse_of_parseBody {h : FrameHeader} {payload : Bytes} {body : Body}
    (hbody : parseBody h.kind h.flags h.streamId payload = .ok body) :
    Frame.parse h payload = .ok ⟨h.flags, h.streamId, body⟩ := by
  simp [Frame.parse, hbody]

/-! ## Frames read back -/

namespace Frame

theorem length_encode (f : Frame) : f.encode.length = headerSize + f.wirePayload.length := by
  simp only [encode, List.length_append, Bytes.length_ofBeNat, List.length_cons, List.length_nil,
    headerSize]

theorem drop_encode (f : Frame) : f.encode.drop headerSize = f.wirePayload :=
  List.drop_left' (by simp [headerSize])

theorem decode?_encode {f : Frame} (hid : f.streamId < 2 ^ 31)
    (hlen : f.wirePayload.length < 2 ^ 24) :
    FrameHeader.decode? f.encode = some ⟨f.wirePayload.length, f.kind, f.wireFlags, f.streamId⟩ := by
  obtain ⟨l0, l1, l2, hl, hlv⟩ := Bytes.ofBeNat_three f.wirePayload.length
  obtain ⟨s0, s1, s2, s3, hs, hsv⟩ := Bytes.ofBeNat_four (f.streamId % Nat.pow 2 31)
  have hpow : Nat.pow 2 31 = 2 ^ 31 := rfl
  have hstream : f.streamId % Nat.pow 2 31 % 2 ^ 32 % Nat.pow 2 31 = f.streamId := by
    rw [hpow, Nat.mod_eq_of_lt hid, Nat.mod_eq_of_lt (by omega : f.streamId < 2 ^ 32),
      Nat.mod_eq_of_lt hid]
  rw [encode, hl, hs]
  simp only [List.cons_append, List.nil_append, FrameHeader.decode?, hlv, hsv, hstream,
    Nat.mod_eq_of_lt hlen]

end Frame

theorem Frame.decode_parse_encode (f : Frame) (hf : f.WellFormed) :
    FrameHeader.decode? f.encode =
        some ⟨f.encode.length - headerSize, f.kind, f.wireFlags, f.streamId⟩ ∧
      Frame.parse ⟨f.encode.length - headerSize, f.kind, f.wireFlags, f.streamId⟩
          (f.encode.drop headerSize) = .ok { f with flags := f.wireFlags } ∧
      hasFlag f.wireFlags padded = false ∧
      (∀ block p, f.body = .headers block p → hasFlag f.wireFlags priorityFlag = p.isSome) ∧
      ((∀ block p, f.body ≠ .headers block p) →
        hasFlag f.wireFlags priorityFlag = hasFlag f.flags priorityFlag) ∧
      f.wireFlags &&& ~~~(padded ||| priorityFlag) = f.flags &&& ~~~(padded ||| priorityFlag) ∧
      (f.kind = dataKind ∨ f.kind = headersKind ∨ f.kind = pushPromiseKind →
        ∀ (length : Nat) (pad : UInt8) (padding : Bytes), padding.length = pad.toNat →
          Frame.parse ⟨length, f.kind, f.wireFlags ||| padded, f.streamId⟩
              (pad :: (f.encode.drop headerSize ++ padding)) =
            .ok { f with flags := f.wireFlags ||| padded }) := by
  have hlength : f.encode.length - headerSize = f.wirePayload.length := by
    rw [f.length_encode]
    omega
  have hbody := f.parseBody_wirePayload hf.fits
  refine ⟨?_, ?_, f.hasFlag_wireFlags_padded, fun _ _ hb => Frame.hasFlag_wireFlags_priority hb,
    fun hb => ?_, f.wireFlags_and_others, fun hk length pad padding hlen => ?_⟩
  · rw [hlength]
    exact Frame.decode?_encode hf.streamId_lt hf.length_lt
  · rw [f.drop_encode]
    exact Frame.parse_of_parseBody hbody
  · rw [Frame.wireFlags_of_not_headers hb]
    exact hasFlag_and_not_of_disjoint _ (by decide)
  · rw [f.drop_encode]
    apply Frame.parse_of_parseBody
    rw [parseBody_padded hk f.hasFlag_wireFlags_padded _ hlen]
    exact hbody

/-- A HEADERS frame with a priority and the `PADDED` flag is written with `PRIORITY` and without
`PADDED`, and read back so. -/
theorem decode_parse_encode_prioritized :
    let f : Frame := ⟨endHeaders ||| padded, 3, .headers [0x82] (some ⟨true, 1, 15⟩)⟩
    f.WellFormed ∧ f.wireFlags = endHeaders ||| priorityFlag ∧
      Frame.parse ⟨f.encode.length - headerSize, f.kind, f.wireFlags, f.streamId⟩
        (f.encode.drop headerSize) = .ok { f with flags := f.wireFlags } := by
  intro f
  have hf : f.WellFormed := ⟨by decide, by decide, by simp [f, Frame.Fits]⟩
  exact ⟨hf, by decide, (Frame.decode_parse_encode f hf).2.1⟩

end Dissect.Http2
