import Dissect.Proofs.Record.Framing

/-!
# Records out of reads of any sizes

Pushing an octet string into a fresh buffer in pieces of any sizes hands out the records it
begins with (`frontRecords`), or the refusal of the first header at a boundary that is bad.
-/

set_option autoImplicit false

namespace Dissect.Record

namespace Header

def Valid (limit : UInt32) (h : Header) : Prop :=
  (h.kind = conversationKind ∨ h.kind = resultKind) ∧ h.payloadLength ≤ limit ∧
    h.flags &&& reservedMask = 0

instance (limit : UInt32) (h : Header) : Decidable (h.Valid limit) :=
  inferInstanceAs (Decidable (_ ∧ _ ∧ _))

theorem validate_eq_ok_iff {limit : UInt32} {h : Header} : h.validate limit = .ok () ↔ h.Valid limit := by
  unfold validate Valid
  by_cases hk : h.kind = conversationKind ∨ h.kind = resultKind
  · have hk' : (h.kind == conversationKind || h.kind == resultKind) = true := by
      rcases hk with hk | hk <;> simp [hk]
    simp only [hk', Bool.not_true, Bool.false_eq_true, if_false, hk, true_and]
    split_ifs <;> simp_all [UInt32.not_lt]
  · have hk' : (h.kind == conversationKind || h.kind == resultKind) = false := by
      simp only [not_or] at hk
      simp [hk.1, hk.2]
    simp [hk', hk]

theorem exists_validate_eq_error {limit : UInt32} {h : Header} (hv : ¬ h.Valid limit) :
    ∃ e, h.validate limit = .error e := by
  rcases hval : h.validate limit with e | ⟨⟩
  · exact ⟨e, rfl⟩
  · exact absurd (validate_eq_ok_iff.mp hval) hv

theorem decode?_of_prefix {bs more : Bytes} {h : Header} (hd : decode? (bs ++ more) = some h)
    (hlen : headerSize ≤ bs.length) : decode? bs = some h := by
  rcases hbs : decode? bs with _ | h'
  · unfold decode? at hbs
    split at hbs
    · cases hbs
    · rename_i hshape
      match bs, hlen with
      | k :: f :: s0 :: s1 :: s2 :: s3 :: l0 :: l1 :: l2 :: l3 :: _, _ => exact absurd rfl (hshape _ _ _ _ _ _ _ _ _ _ _)
  · rw [decode?_append hbs more] at hd
    exact hd

theorem decode?_of_short {bs : Bytes} (hlen : bs.length < headerSize) : decode? bs = none := by
  rcases hbs : decode? bs with _ | h
  · rfl
  · exact absurd (decode?_length bs h hbs) (by omega)

end Header

theorem accepted_iff {limit : UInt32} {r : Record} :
    r.Accepted limit ↔ r.header.Valid limit ∧ r.header.payloadLength.toNat = r.payload.length := by
  rw [Accepted, Header.validate_eq_ok_iff]

/-! ## The records an octet string begins with -/

/-- The records an octet string begins with, each header followed by the payload it announces,
and what follows the last whole one. -/
def frontRecords (bs : Bytes) : List Record × Bytes :=
  match _hd : Header.decode? bs with
  | none => ([], bs)
  | some h =>
    if (bs.drop headerSize).length < h.payloadLength.toNat then ([], bs)
    else
      let (rs, rest) := frontRecords ((bs.drop headerSize).drop h.payloadLength.toNat)
      (⟨h, (bs.drop headerSize).take h.payloadLength.toNat⟩ :: rs, rest)
termination_by bs.length
decreasing_by
  have := Header.decode?_length bs h _hd
  simp only [List.length_drop, headerSize] at *
  omega

def boundaryHeaders (bs : Bytes) : List Header :=
  (frontRecords bs).1.map (·.header) ++ (Header.decode? (frontRecords bs).2).toList

theorem frontRecords_of_none {bs : Bytes} (hd : Header.decode? bs = none) :
    frontRecords bs = ([], bs) := by
  rw [frontRecords]
  split
  · rfl
  · rename_i h hsome
    rw [hd] at hsome
    cases hsome

theorem frontRecords_of_short {bs : Bytes} {h : Header} (hd : Header.decode? bs = some h)
    (hshort : (bs.drop headerSize).length < h.payloadLength.toNat) :
    frontRecords bs = ([], bs) := by
  rw [frontRecords]
  split
  · rfl
  · rename_i h' hsome
    rw [hd] at hsome
    cases hsome
    simp only [hshort, if_true]

theorem frontRecords_of_whole {bs : Bytes} {h : Header} (hd : Header.decode? bs = some h)
    (hwhole : h.payloadLength.toNat ≤ (bs.drop headerSize).length) :
    frontRecords bs =
      (⟨h, (bs.drop headerSize).take h.payloadLength.toNat⟩ ::
          (frontRecords ((bs.drop headerSize).drop h.payloadLength.toNat)).1,
        (frontRecords ((bs.drop headerSize).drop h.payloadLength.toNat)).2) := by
  rw [frontRecords]
  split
  · rename_i hnone
    rw [hd] at hnone
    cases hnone
  · rename_i h' hsome
    rw [hd] at hsome
    cases hsome
    simp only [Nat.not_lt.mpr hwhole, if_false]

theorem boundaryHeaders_of_whole {bs : Bytes} {h : Header} (hd : Header.decode? bs = some h)
    (hwhole : h.payloadLength.toNat ≤ (bs.drop headerSize).length) :
    boundaryHeaders bs =
      h :: boundaryHeaders ((bs.drop headerSize).drop h.payloadLength.toNat) := by
  simp [boundaryHeaders, frontRecords_of_whole hd hwhole]

namespace Buffer

variable {limit : UInt32}

theorem push_empty (bs : Bytes) : (empty limit).push bs = extract limit none bs := rfl

theorem extract_of_valid (bs : Bytes) (hv : ∀ h ∈ boundaryHeaders bs, h.Valid limit) :
    ∃ b, extract limit none bs = (b, .ok (frontRecords bs).1) ∧
      (b.isEmpty = true ↔ (frontRecords bs).2 = []) := by
  induction bs using frontRecords.induct with
  | case1 bs hd =>
    rw [frontRecords_of_none hd, extract]
    split
    · exact ⟨_, rfl, by simp [isEmpty, List.isEmpty_iff]⟩
    · rename_i h hsome
      rw [hd] at hsome
      cases hsome
  | case2 bs h hd hshort =>
    have hvalid := Header.validate_eq_ok_iff.mpr
      (hv h (by simp [boundaryHeaders, frontRecords_of_short hd hshort, hd]))
    have hlen := Header.decode?_length bs h hd
    have hzero : h.payloadLength ≠ 0 := by
      intro hz
      rw [hz] at hshort
      exact absurd hshort (by simp)
    rw [frontRecords_of_short hd hshort, extract]
    split
    · rename_i hnone
      rw [hd] at hnone
      cases hnone
    · rename_i h' hsome
      rw [hd] at hsome
      cases hsome
      simp only [hvalid, if_neg hzero]
      rw [extract]
      simp only [List.length_take, Nat.min_eq_right hshort.le, hshort, if_true]
      refine ⟨_, rfl, ?_⟩
      have : bs ≠ [] := by
        intro hnil
        simp [hnil, headerSize] at hlen
      simp [isEmpty, this]
  | case3 bs h hd hwhole _ _ _ ih =>
    have hwhole' : h.payloadLength.toNat ≤ (bs.drop headerSize).length := Nat.le_of_not_lt hwhole
    rw [boundaryHeaders_of_whole hd hwhole'] at hv
    have hvalid := Header.validate_eq_ok_iff.mpr (hv h List.mem_cons_self)
    obtain ⟨b, hb, hempty⟩ := ih fun h' hh' => hv h' (List.mem_cons_of_mem _ hh')
    rw [frontRecords_of_whole hd hwhole', extract]
    split
    · rename_i hnone
      rw [hd] at hnone
      cases hnone
    · rename_i h' hsome
      rw [hd] at hsome
      cases hsome
      simp only [hvalid]
      by_cases hzero : h.payloadLength = 0
      · have hz : h.payloadLength.toNat = 0 := by simp [hzero]
        rw [hz] at hb hempty ⊢
        simp only [List.drop_zero] at hb hempty
        simp only [hzero, if_true, hb, List.take_zero, List.drop_zero]
        exact ⟨b, rfl, hempty⟩
      · rw [if_neg hzero, extract]
        simp only [List.length_take, Nat.min_eq_left hwhole', Nat.lt_irrefl, if_false, hb]
        exact ⟨b, rfl, hempty⟩

def pushAll (b : Buffer) : List Bytes → Buffer × List (Except Fault (List Record))
  | [] => (b, [])
  | d :: ds => ((pushAll (b.push d).1 ds).1, (b.push d).2 :: (pushAll (b.push d).1 ds).2)

theorem pushAll_of_push_ok {b bF : Buffer} (hb : b.Settled) {ds : List Bytes}
    {rs : List Record} (h : b.push ds.flatten = (bF, .ok rs)) :
    ∃ rss : List (List Record), b.pushAll ds = (bF, rss.map .ok) ∧ rss.flatten = rs := by
  induction ds generalizing b rs with
  | nil =>
    have hpush : b.push [] = (b, .ok []) := by
      rw [push, List.append_nil]
      exact hb
    rw [List.flatten_nil, hpush, Prod.mk.injEq] at h
    obtain ⟨rfl, hrs⟩ := h
    cases hrs
    exact ⟨[], rfl, rfl⟩
  | cons d ds ih =>
    rw [List.flatten_cons] at h
    rcases hd : b.push d with ⟨b1, r1⟩
    cases r1 with
    | error e =>
      have := push_append_of_error hd ds.flatten
      rw [h] at this
      cases this
    | ok rs1 =>
      rw [push_append hd] at h
      rcases hrest : b1.push ds.flatten with ⟨b2, r2⟩
      rw [hrest] at h
      cases r2 with
      | error e => cases h
      | ok rs2 =>
        obtain ⟨rfl, hrs⟩ := Prod.mk.inj h
        obtain ⟨rss, hall, hflat⟩ := ih (settled_extract hd) hrest
        refine ⟨rs1 :: rss, by simp [pushAll, hd, hall], ?_⟩
        rw [List.flatten_cons, hflat]
        exact Except.ok.inj hrs

def Refuses (e : Fault) (b : Buffer) : Prop :=
  b.awaiting = none ∧ ∃ h, Header.decode? b.pending = some h ∧ h.validate b.limit = .error e

theorem Refuses.push {e : Fault} {b : Buffer} (hb : b.Refuses e) (d : Bytes) :
    (b.push d).2 = .error e ∧ (b.push d).1.Refuses e := by
  obtain ⟨hnone, h, hdec, hval⟩ := hb
  have hdec' := Header.decode?_append hdec d
  unfold Buffer.push
  rw [hnone, extract]
  split
  · rename_i hn
    rw [hdec'] at hn
    cases hn
  · rename_i h' hs
    rw [hdec'] at hs
    cases hs
    simp only [hval]
    exact ⟨trivial, rfl, h, hdec', hval⟩

theorem Refuses.pushAll {e : Fault} {b : Buffer} (hb : b.Refuses e) (ds : List Bytes) :
    (b.pushAll ds).2 = List.replicate ds.length (.error e) := by
  induction ds generalizing b with
  | nil => rfl
  | cons d ds ih =>
    obtain ⟨hpush, hnext⟩ := hb.push d
    simp [Buffer.pushAll, hpush, ih hnext, List.replicate_succ]

section Refused

variable {rs : List Record} (hrs : ∀ r ∈ rs, r.Accepted limit) {c : Bytes} {h : Header}
  {e : Fault} (hc : Header.decode? c = some h) (he : h.validate limit = .error e)
include hrs hc he

theorem extract_prefix_of_refused {p : Bytes} (hp : p <+: rs.flatMap Record.encode ++ c) :
    (p.length < (rs.flatMap Record.encode).length + headerSize →
      ∃ b rs', extract limit none p = (b, .ok rs') ∧ rs' <+: rs) ∧
    ((rs.flatMap Record.encode).length + headerSize ≤ p.length →
      ∃ b, extract limit none p = (b, .error e) ∧ b.Refuses e) := by
  induction rs generalizing p with
  | nil =>
    simp only [List.flatMap_nil, List.nil_append, List.length_nil, Nat.zero_add] at hp ⊢
    refine ⟨fun hshort => ?_, fun hlong => ?_⟩
    · rw [extract, Header.decode?_of_short hshort]
      exact ⟨_, [], rfl, List.nil_prefix⟩
    · obtain ⟨more, rfl⟩ := hp
      have hdec := Header.decode?_of_prefix hc hlong
      rw [extract]
      split
      · rename_i hn
        rw [hdec] at hn
        cases hn
      · rename_i h' hs
        rw [hdec] at hs
        cases hs
        simp only [he]
        exact ⟨_, rfl, rfl, h, hdec, he⟩
  | cons r rs ih =>
    have hr := hrs r List.mem_cons_self
    have hrs' : ∀ r' ∈ rs, r'.Accepted limit := fun r' h' => hrs r' (List.mem_cons_of_mem r h')
    rw [List.flatMap_cons] at hp ⊢
    rw [List.append_assoc] at hp
    by_cases hle : r.encode.length ≤ p.length
    · -- the record is whole in the prefix and comes out ahead of what the rest gives
      obtain ⟨p', rfl⟩ := List.prefix_of_prefix_length_le (List.prefix_append _ _) hp hle
      rw [List.prefix_append_right_inj] at hp
      obtain ⟨hok, herr⟩ := ih hrs' hp
      rw [extract_encode_append hr]
      simp only [List.length_append] at hok herr ⊢
      refine ⟨fun hshort => ?_, fun hlong => ?_⟩
      · obtain ⟨b, rs', hext, hpre⟩ := hok (by omega)
        exact ⟨b, r :: rs', by rw [hext]; rfl, List.cons_prefix_cons.mpr ⟨rfl, hpre⟩⟩
      · obtain ⟨b, hext, hb⟩ := herr (by omega)
        exact ⟨b, by rw [hext]; rfl, hb⟩
    · -- the prefix ends inside the record, which keeps it whole
      have hpre : p <+: r.encode :=
        List.prefix_of_prefix_length_le hp (List.prefix_append _ _) (by omega)
      obtain ⟨hnone, -⟩ := extract_of_prefix hr hpre (by omega)
      simp only [List.length_append]
      refine ⟨fun _ => ⟨_, [], Prod.ext rfl hnone, List.nil_prefix⟩, fun hlong => ?_⟩
      omega

/-- Pushing the rest of accepted records and a refused header into the buffer that a prefix of
them left: pushes that stop short of the end of the header hand out records that precede it, the
push that completes the header is refused, and so is every push after it. -/
theorem pushAll_of_refused : ∀ (ds : List Bytes) {p0 : Bytes} {b0 : Buffer} {rs0 : List Record},
    extract limit none p0 = (b0, .ok rs0) → rs0 <+: rs →
    p0.length < (rs.flatMap Record.encode).length + headerSize →
    p0 ++ ds.flatten = rs.flatMap Record.encode ++ c →
    ∃ (rss : List (List Record)) (n : Nat), (b0.pushAll ds).2 = rss.map .ok ++ List.replicate (n + 1) (.error e) ∧
      rs0 ++ rss.flatten <+: rs ∧
      (p0 ++ (ds.take rss.length).flatten).length <
        (rs.flatMap Record.encode).length + headerSize ∧
      (rs.flatMap Record.encode).length + headerSize ≤
        (p0 ++ (ds.take (rss.length + 1)).flatten).length
  | [], p0, b0, rs0, _, _, hshort, hcat => by
    have := Header.decode?_length c h hc
    rw [List.flatten_nil, List.append_nil] at hcat
    rw [hcat, List.length_append] at hshort
    omega
  | d :: ds, p0, b0, rs0, h0, hpre0, hshort, hcat => by
    have hpush := @push_append (empty limit) _ _ _ h0 d
    rw [push_empty] at hpush
    have hp1 : p0 ++ d <+: rs.flatMap Record.encode ++ c :=
      ⟨ds.flatten, by rw [← hcat, List.flatten_cons, List.append_assoc]⟩
    obtain ⟨hok, herr⟩ := extract_prefix_of_refused hrs hc he hp1
    by_cases hlen : (p0 ++ d).length < (rs.flatMap Record.encode).length + headerSize
    · obtain ⟨b1, rs1, hext, hpre1⟩ := hok hlen
      rw [hext] at hpush
      rcases hd : b0.push d with ⟨b1', r⟩
      rw [hd] at hpush
      obtain ⟨rfl, hr⟩ := Prod.mk.inj hpush
      cases r with
      | error e' => cases hr
      | ok rsd =>
        have hrs1 : rs1 = rs0 ++ rsd := Except.ok.inj hr
        obtain ⟨rss, n, hall, hpre, hbefore, hafter⟩ :=
          pushAll_of_refused ds hext hpre1 hlen (by rw [← hcat, List.flatten_cons, List.append_assoc])
        refine ⟨rsd :: rss, n, ?_, ?_, ?_, ?_⟩
        · simp [Buffer.pushAll, hd, hall]
        · rw [List.flatten_cons, ← List.append_assoc, ← hrs1]
          exact hpre
        · simpa [List.append_assoc] using hbefore
        · simpa [List.append_assoc] using hafter
    · obtain ⟨b1, hext, hrefuses⟩ := herr (by omega)
      rw [hext] at hpush
      rcases hd : b0.push d with ⟨b1', r⟩
      rw [hd] at hpush
      obtain ⟨rfl, hr⟩ := Prod.mk.inj hpush
      cases r with
      | ok _ => cases hr
      | error e' =>
        cases hr
        have hafter : (rs.flatMap Record.encode).length + headerSize ≤
            (p0 ++ ((d :: ds).take (([] : List (List Record)).length + 1)).flatten).length := by
          simp only [List.length_nil, Nat.zero_add, List.take_succ_cons, List.take_zero,
            List.flatten_cons, List.flatten_nil, List.append_nil]
          exact Nat.le_of_not_lt hlen
        refine ⟨[], ds.length, ?_, by simpa using hpre0, by simpa using hshort, hafter⟩
        simp [Buffer.pushAll, hd, hrefuses.pushAll, List.replicate_succ]

end Refused

end Buffer

/-- **Reads of any sizes.** Octets pushed into a fresh buffer in pieces of any sizes:
* when every header that stands whole at a record boundary passes the checks, every push hands
  out its share of the records the octets begin with, and the buffer is left empty exactly when
  the octets end on a record boundary;
* when the records up to some boundary pass the checks and the header there, whole, does not,
  the pushes before the one that completes it hand out some of the records before it, and that
  push and every later one are refused with the header's fault;
* in particular, records that pass the checks, sent one after the other and cut anywhere, come
  out all of them, in order, leaving the buffer empty. -/
theorem pushAll_frontRecords (limit : UInt32) (ds : List Bytes) :
    ((∀ h ∈ boundaryHeaders ds.flatten, h.Valid limit) →
      ∃ rss : List (List Record), ((Buffer.empty limit).pushAll ds).2 = rss.map .ok ∧
        rss.flatten = (frontRecords ds.flatten).1 ∧
        (((Buffer.empty limit).pushAll ds).1.isEmpty = true ↔ (frontRecords ds.flatten).2 = [])) ∧
    (∀ (rs : List Record) (c : Bytes) (h : Header),
      (∀ r ∈ rs, r.header.Valid limit ∧ r.header.payloadLength.toNat = r.payload.length) →
      ds.flatten = rs.flatMap Record.encode ++ c → Header.decode? c = some h →
      ¬ h.Valid limit →
      ∃ (e : Fault) (rss : List (List Record)) (n : Nat), h.validate limit = .error e ∧
        ((Buffer.empty limit).pushAll ds).2 = rss.map .ok ++ List.replicate (n + 1) (.error e) ∧
        rss.flatten <+: rs ∧
        (ds.take rss.length).flatten.length < (rs.flatMap Record.encode).length + headerSize ∧
        (rs.flatMap Record.encode).length + headerSize ≤
          (ds.take (rss.length + 1)).flatten.length) ∧
    (∀ rs : List Record,
      (∀ r ∈ rs, r.header.Valid limit ∧ r.header.payloadLength.toNat = r.payload.length) →
      ds.flatten = rs.flatMap Record.encode →
      ∃ rss : List (List Record), ((Buffer.empty limit).pushAll ds).2 = rss.map .ok ∧
        rss.flatten = rs ∧ ((Buffer.empty limit).pushAll ds).1.isEmpty = true) := by
  have hnil : Buffer.extract limit none [] = (Buffer.empty limit, .ok []) :=
    Buffer.settled_empty limit
  refine ⟨fun hv => ?_, fun rs c h hrs hcat hc hbad => ?_, fun rs hrs hcat => ?_⟩
  · obtain ⟨b, hext, hempty⟩ := Buffer.extract_of_valid ds.flatten hv
    obtain ⟨rss, hall, hflat⟩ := Buffer.pushAll_of_push_ok (Buffer.settled_empty limit) hext
    rw [hall]
    exact ⟨rss, rfl, hflat, hempty⟩
  · obtain ⟨e, he⟩ := Header.exists_validate_eq_error hbad
    have hacc : ∀ r ∈ rs, r.Accepted limit := fun r hr => accepted_iff.mpr (hrs r hr)
    have hpos : 0 < headerSize := by decide
    obtain ⟨rss, n, hall, hpre, hbefore, hafter⟩ :=
      Buffer.pushAll_of_refused hacc hc he ds hnil List.nil_prefix
        (by simp only [List.length_nil]; omega) (by rw [List.nil_append, hcat])
    exact ⟨e, rss, n, he, hall, by simpa using hpre, by simpa using hbefore,
      by simpa using hafter⟩
  · have hacc : ∀ r ∈ rs, r.Accepted limit := fun r hr => accepted_iff.mpr (hrs r hr)
    have hpush : (Buffer.empty limit).push ds.flatten = (Buffer.empty limit, .ok rs) := by
      rw [Buffer.push_empty, hcat, ← List.append_nil (rs.flatMap Record.encode),
        Buffer.extract_flatMap_encode_append hacc, hnil]
      simp [Except.map]
    obtain ⟨rss, hall, hflat⟩ := Buffer.pushAll_of_push_ok (Buffer.settled_empty limit) hpush
    rw [hall]
    exact ⟨rss, rfl, hflat, rfl⟩

theorem pushAll_frontRecords_byte_at_a_time :
    let r : Record := ⟨⟨conversationKind, 0, 42, 2⟩, [104, 105]⟩
    (∀ x ∈ [r], x.header.Valid 16 ∧ x.header.payloadLength.toNat = x.payload.length) ∧
      (r.encode.map fun b => [b]).flatten = [r].flatMap Record.encode ∧
      ∃ rss : List (List Record),
        ((Buffer.empty 16).pushAll (r.encode.map fun b => [b])).2 = rss.map .ok ∧
        rss.flatten = [r] ∧ ((Buffer.empty 16).pushAll (r.encode.map fun b => [b])).1.isEmpty = true := by
  intro r
  have hvalid : ∀ x ∈ [r], x.header.Valid 16 ∧ x.header.payloadLength.toNat = x.payload.length := by
    decide
  have hcat : (r.encode.map fun b => [b]).flatten = [r].flatMap Record.encode := by
    decide
  exact ⟨hvalid, hcat, (pushAll_frontRecords 16 _).2.2 [r] hvalid hcat⟩

end Dissect.Record
