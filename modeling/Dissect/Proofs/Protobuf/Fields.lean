import Mathlib
import Dissect.Proofs.Protobuf.Varint

/-!
# What a protobuf message is shown from

A message is fields one after the other (`Fields`). A field is a key varint whose field number,
the key over eight, is not zero, then a value of the wire type the key names modulo eight
(`WireValue`): a varint, eight octets, a varint length and that many octets, or four octets.
-/

set_option autoImplicit false

namespace Dissect.Protobuf

/-! ## The wire grammar -/

/-- The value of a field, by wire type: a varint, eight octets, a varint length and that many
octets, or four octets. -/
inductive WireValue : Nat → Bytes → Prop
  | varint {v : Bytes} : IsVarint v → WireValue 0 v
  | fixed64 {v : Bytes} : v.length = 8 → WireValue 1 v
  | delimited {len payload : Bytes} : IsVarint len → payload.length = varintOf len →
      WireValue 2 (len ++ payload)
  | fixed32 {v : Bytes} : v.length = 4 → WireValue 5 v

/-- One field: a key varint whose field number is not zero, then a value of its wire type. -/
inductive Field : Bytes → Prop
  | mk {key value : Bytes} : IsVarint key → 0 < varintOf key / 8 →
      WireValue (varintOf key % 8) value → Field (key ++ value)

/-- A message: fields one after the other. -/
inductive Fields : Bytes → Prop
  | nil : Fields []
  | cons {field rest : Bytes} : Field field → Fields rest → Fields (field ++ rest)

theorem Field.ne_nil {f : Bytes} (h : Field f) : f ≠ [] := by
  obtain ⟨hkey, -, -⟩ := h
  exact fun hnil => hkey.ne_nil (List.append_eq_nil_iff.1 hnil).1

/-! ## Reading one field -/

theorem except_bind_eq_ok {ε α β : Type} {x : Except ε α} {f : α → Except ε β} {b : β} :
    x >>= f = .ok b ↔ ∃ a, x = .ok a ∧ f a = .ok b := by
  cases x <;> simp [bind, Except.bind]

theorem takeOctets_eq_ok_iff {n : Nat} {bs taken rest : Bytes} :
    takeOctets n bs = .ok (taken, rest) ↔ taken.length = n ∧ bs = taken ++ rest := by
  unfold takeOctets
  split
  · rename_i hn
    simp only [Except.ok.injEq, Prod.mk.injEq]
    constructor
    · rintro ⟨rfl, rfl⟩
      exact ⟨List.length_take_of_le hn, (List.take_append_drop n bs).symm⟩
    · rintro ⟨rfl, rfl⟩
      simp
  · rename_i hn
    simp only [reduceCtorEq, false_iff, not_and]
    rintro rfl rfl
    simp at hn

theorem takeOctets_append {taken : Bytes} (rest : Bytes) :
    takeOctets taken.length (taken ++ rest) = .ok (taken, rest) :=
  takeOctets_eq_ok_iff.2 ⟨rfl, rfl⟩

theorem wireValue_of_fieldValue {fuel depth wire : Nat} {bs rest : Bytes} {line : String}
    (h : dump.fieldValue fuel depth wire bs = .ok (line, rest)) :
    ∃ v, bs = v ++ rest ∧ WireValue wire v := by
  unfold dump.fieldValue at h
  split at h
  · obtain ⟨⟨x, rest'⟩, hv, hpure⟩ := except_bind_eq_ok.1 h
    obtain ⟨pre, rfl, hpre, -⟩ := readVarint_eq_ok_iff.1 hv
    cases hpure
    exact ⟨pre, rfl, .varint hpre⟩
  · obtain ⟨⟨raw, rest'⟩, ht, hpure⟩ := except_bind_eq_ok.1 h
    obtain ⟨hlen, rfl⟩ := takeOctets_eq_ok_iff.1 ht
    cases hpure
    exact ⟨raw, rfl, .fixed64 hlen⟩
  · obtain ⟨⟨raw, rest'⟩, ht, hpure⟩ := except_bind_eq_ok.1 h
    obtain ⟨hlen, rfl⟩ := takeOctets_eq_ok_iff.1 ht
    cases hpure
    exact ⟨raw, rfl, .fixed32 hlen⟩
  · obtain ⟨⟨len, rest'⟩, hv, h'⟩ := except_bind_eq_ok.1 h
    obtain ⟨⟨payload, rest''⟩, ht, hpure⟩ := except_bind_eq_ok.1 h'
    obtain ⟨pre, rfl, hpre, rfl⟩ := readVarint_eq_ok_iff.1 hv
    obtain ⟨hlen, rfl⟩ := takeOctets_eq_ok_iff.1 ht
    cases hpure
    exact ⟨pre ++ payload, by rw [List.append_assoc], .delimited hpre hlen⟩
  · cases h
  · cases h
  · cases h

theorem fieldValue_of_wireValue {wire : Nat} {v : Bytes} (hv : WireValue wire v)
    (fuel depth : Nat) (rest : Bytes) :
    ∃ line, dump.fieldValue fuel depth wire (v ++ rest) = .ok (line, rest) := by
  cases hv with
  | varint hpre =>
    rw [dump.fieldValue, readVarint_append hpre]
    exact ⟨_, rfl⟩
  | fixed64 hlen =>
    rw [dump.fieldValue, ← hlen, takeOctets_append]
    exact ⟨_, rfl⟩
  | fixed32 hlen =>
    rw [dump.fieldValue, ← hlen, takeOctets_append]
    exact ⟨_, rfl⟩
  | @delimited len payload hlen hpay =>
    refine ⟨dump.chunk fuel depth payload, ?_⟩
    rw [dump.fieldValue, List.append_assoc, readVarint_append hlen, ← hpay]
    show (takeOctets payload.length (payload ++ rest) >>= _) = _
    rw [takeOctets_append]
    rfl

/-- The first field of a message as it is shown: its number, its value shown, and the octets
after it. -/
def readField (fuel depth : Nat) (data : Bytes) : Except Malformed (Nat × String × Bytes) := do
  let (key, rest) ← readVarint data
  if key / 8 = 0 then throw .fieldZero
  let (line, rest) ← dump.fieldValue fuel depth (key % 8) rest
  pure (key / 8, line, rest)

theorem dump_succ (fuel depth : Nat) (data : Bytes) (out : String) :
    dump (fuel + 1) depth data out =
      if maxDepth < depth then .error .tooDeep
      else if data = [] then .ok out
      else match readField fuel depth data with
        | .ok (field, line, rest) =>
          dump fuel depth rest (out ++ String.ofList (List.replicate (4 * depth) ' ') ++
            s!"{field} " ++ line)
        | .error e => .error e := by
  rw [dump.eq_2]
  by_cases hd : maxDepth < depth
  · simp only [gt_iff_lt, hd, if_true]
    rfl
  · simp only [gt_iff_lt, hd, if_false]
    by_cases hn : data = []
    · simp only [hn, if_true, List.isEmpty_nil]
      rfl
    · simp only [hn, if_false, List.isEmpty_iff]
      unfold readField
      rcases readVarint data with e | ⟨key, rest⟩
      · rfl
      · by_cases hk : key / 8 = 0
        · simp only [bind, Except.bind, hk, if_true]
          rfl
        · simp only [bind, Except.bind, hk, if_false]
          rcases dump.fieldValue fuel depth (key % 8) rest with e | ⟨line, rest'⟩
          · rfl
          · rfl

theorem field_of_readField {fuel depth field : Nat} {data rest : Bytes} {line : String}
    (h : readField fuel depth data = .ok (field, line, rest)) : ∃ f, data = f ++ rest ∧ Field f := by
  unfold readField at h
  rcases hkey : readVarint data with e | ⟨key, rest'⟩
  · rw [hkey] at h
    cases h
  obtain ⟨pre, rfl, hpre, rfl⟩ := readVarint_eq_ok_iff.1 hkey
  rw [hkey] at h
  by_cases hzero : varintOf pre / 8 = 0
  · simp [bind, Except.bind, hzero] at h
  rcases hval : dump.fieldValue fuel depth (varintOf pre % 8) rest' with e | ⟨line', rest''⟩
  · simp [bind, Except.bind, hzero, hval] at h
  simp only [bind, Except.bind, hzero, if_false, hval] at h
  cases h
  obtain ⟨v, rfl, hv⟩ := wireValue_of_fieldValue hval
  exact ⟨pre ++ v, by rw [List.append_assoc], .mk hpre (Nat.pos_of_ne_zero hzero) hv⟩

theorem readField_append {key value : Bytes} (hkey : IsVarint key) (hfield : 0 < varintOf key / 8)
    (hv : WireValue (varintOf key % 8) value) (fuel depth : Nat) (rest : Bytes) :
    ∃ line, readField fuel depth (key ++ value ++ rest) = .ok (varintOf key / 8, line, rest) := by
  obtain ⟨line, hline⟩ := fieldValue_of_wireValue hv fuel depth rest
  refine ⟨line, ?_⟩
  unfold readField
  rw [List.append_assoc, readVarint_append hkey]
  simp only [bind, Except.bind, Nat.ne_of_gt hfield, if_false, hline]
  rfl

theorem readField_of_field {f : Bytes} (hf : Field f) (fuel depth : Nat) (rest : Bytes) :
    ∃ field line, readField fuel depth (f ++ rest) = .ok (field, line, rest) := by
  obtain ⟨hkey, hfield, hv⟩ := hf
  obtain ⟨line, h⟩ := readField_append hkey hfield hv fuel depth rest
  exact ⟨_, line, h⟩

/-! ## Whole messages -/

/-- With fuel above the number of octets, a message is shown exactly when it is nested at most
`maxDepth` deep and its octets are fields one after the other. -/
theorem dump_ok_iff : ∀ {fuel depth : Nat} {data : Bytes} {out : String}, data.length < fuel →
    ((∃ s, dump fuel depth data out = .ok s) ↔ depth ≤ maxDepth ∧ Fields data)
  | 0, _, _, _, hfuel => absurd hfuel (Nat.not_lt_zero _)
  | fuel + 1, depth, data, out, hfuel => by
    rw [dump_succ]
    by_cases hd : maxDepth < depth
    · simp [hd]
    rw [if_neg hd]
    by_cases hn : data = []
    · subst hn
      simp only [if_true, Except.ok.injEq, exists_eq', true_iff]
      exact ⟨by omega, .nil⟩
    rw [if_neg hn]
    -- each field takes at least one octet, so what follows it has fuel enough
    have hshorter : ∀ {f rest : Bytes}, data = f ++ rest → Field f → rest.length < fuel :=
      fun hdata hf => by
        have := List.length_pos_iff.2 hf.ne_nil
        rw [hdata, List.length_append] at hfuel
        omega
    constructor
    · rintro ⟨s, hs⟩
      rcases hr : readField fuel depth data with e | ⟨field, line, rest⟩
      · rw [hr] at hs
        cases hs
      · rw [hr] at hs
        obtain ⟨f, hdata, hf⟩ := field_of_readField hr
        obtain ⟨-, hrest⟩ := (dump_ok_iff (hshorter hdata hf)).1 ⟨s, hs⟩
        exact ⟨by omega, hdata ▸ .cons hf hrest⟩
    · rintro ⟨-, hfields⟩
      cases hfields with
      | nil => exact absurd rfl hn
      | @cons f rest hf hrest =>
        obtain ⟨field, line, hr⟩ := readField_of_field hf fuel depth rest
        rw [hr]
        exact (dump_ok_iff (hshorter rfl hf)).2 ⟨by omega, hrest⟩

theorem chunkOther_eq {fuel depth : Nat} {payload : Bytes} (hfuel : payload.length < fuel) :
    (depth + 1 ≤ maxDepth ∧ Fields payload → ∃ nested, dump fuel (depth + 1) payload "" = .ok nested ∧
        dump.chunkOther fuel depth payload = "<chunk> = message:\n" ++ nested) ∧
      (¬ (depth + 1 ≤ maxDepth ∧ Fields payload) → dump.chunkOther fuel depth payload =
        "<chunk> = bytes (" ++ toString payload.length ++ ") " ++
          Bytes.hex (payload.take maxHexOctets) ++
          (if payload.length > maxHexOctets then "..." else "") ++ "\n") := by
  refine ⟨fun h => ?_, fun h => ?_⟩
  · obtain ⟨nested, hnested⟩ := (dump_ok_iff hfuel).2 h
    exact ⟨nested, hnested, by rw [dump.chunkOther, hnested]⟩
  · rcases hd : dump fuel (depth + 1) payload "" with e | nested
    · rw [dump.chunkOther, hd]
      rfl
    · exact absurd ((dump_ok_iff hfuel).1 ⟨nested, hd⟩) h

theorem dump_succ_delimited {fuel depth : Nat} {key len payload rest : Bytes} (out : String)
    (hd : depth ≤ maxDepth) (hkey : IsVarint key) (hfield : 0 < varintOf key / 8)
    (hwire : varintOf key % 8 = 2) (hlen : IsVarint len) (hpay : payload.length = varintOf len)
    (hfuel : (key ++ len ++ payload ++ rest).length ≤ fuel) :
    payload.length < fuel ∧
      dump (fuel + 1) depth (key ++ len ++ payload ++ rest) out =
        dump fuel depth rest (out ++ String.ofList (List.replicate (4 * depth) ' ') ++
          s!"{varintOf key / 8} " ++ dump.chunk fuel depth payload) := by
  have hv : WireValue (varintOf key % 8) (len ++ payload) := hwire ▸ .delimited hlen hpay
  have hread : readField fuel depth (key ++ (len ++ payload) ++ rest) =
      .ok (varintOf key / 8, dump.chunk fuel depth payload, rest) := by
    unfold readField
    rw [List.append_assoc, readVarint_append hkey]
    simp only [bind, Except.bind, Nat.ne_of_gt hfield, if_false, hwire]
    rw [dump.fieldValue, List.append_assoc, readVarint_append hlen, ← hpay]
    show (takeOctets payload.length (payload ++ rest) >>= _) >>= _ = _
    rw [takeOctets_append]
    rfl
  refine ⟨?_, ?_⟩
  · have := List.length_pos_iff.2 hkey.ne_nil
    have := List.length_pos_iff.2 hlen.ne_nil
    simp only [List.length_append] at hfuel
    omega
  · have hne : key ++ len ++ payload ++ rest ≠ [] := by simp [hkey.ne_nil]
    rw [dump_succ, if_neg (by omega), if_neg hne, show key ++ len ++ payload ++ rest =
      key ++ (len ++ payload) ++ rest by simp, hread]

/-- **Protobuf messages shown without a schema.** Showing octets succeeds exactly when they are a
message: fields one after the other, each a key varint of at most ten octets whose field number is
not zero and whose wire type is 0, 1, 2 or 5, then a varint, eight octets, a varint length and that
many octets, or four octets. What a length-delimited field holds never makes it fail: it is read
whole and shown with fuel enough to parse it, as a nested message exactly when it parses one level
deeper within `maxDepth`, and else as hexadecimal; no message is shown nested deeper than
`maxDepth`. -/
theorem inspect_accepts_fields :
    (∀ d : Bytes, (∃ s, inspect d = .ok s) ↔ Fields d) ∧
    (∀ (fuel depth : Nat) (data : Bytes) (out : String), data.length < fuel →
      ((∃ s, dump fuel depth data out = .ok s) ↔ depth ≤ maxDepth ∧ Fields data)) ∧
    (∀ (fuel depth : Nat) (key len payload rest : Bytes) (out : String), depth ≤ maxDepth →
      IsVarint key → 0 < varintOf key / 8 → varintOf key % 8 = 2 → IsVarint len →
      payload.length = varintOf len → (key ++ len ++ payload ++ rest).length ≤ fuel →
      payload.length < fuel ∧
        dump (fuel + 1) depth (key ++ len ++ payload ++ rest) out =
          dump fuel depth rest (out ++ String.ofList (List.replicate (4 * depth) ' ') ++
            s!"{varintOf key / 8} " ++ dump.chunk fuel depth payload)) ∧
    (∀ (fuel depth : Nat) (payload : Bytes), payload.length < fuel →
      (depth + 1 ≤ maxDepth ∧ Fields payload → ∃ nested,
          dump fuel (depth + 1) payload "" = .ok nested ∧
          dump.chunkOther fuel depth payload = "<chunk> = message:\n" ++ nested) ∧
        (¬ (depth + 1 ≤ maxDepth ∧ Fields payload) → dump.chunkOther fuel depth payload =
          "<chunk> = bytes (" ++ toString payload.length ++ ") " ++
            Bytes.hex (payload.take maxHexOctets) ++
            (if payload.length > maxHexOctets then "..." else "") ++ "\n")) := by
  refine ⟨fun d => ?_, fun _ _ _ _ h => dump_ok_iff h,
    fun _ _ _ _ _ _ out hd hkey hfield hwire hlen hpay hfuel =>
      dump_succ_delimited out hd hkey hfield hwire hlen hpay hfuel,
    fun _ _ _ h => chunkOther_eq h⟩
  have h := @dump_ok_iff (d.length + 1) 0 d "" (Nat.lt_succ_self d.length)
  rw [inspect, h]
  exact ⟨fun h => h.2, fun h => ⟨by decide, h⟩⟩

/-- A nested message of one varint field, `3 <chunk>` holding `1 <varint> = 1`. -/
theorem inspect_accepts_fields_nested :
    (0 ≤ maxDepth ∧ IsVarint [0x1a] ∧ 0 < varintOf [0x1a] / 8 ∧ varintOf [0x1a] % 8 = 2 ∧
      IsVarint [0x02] ∧ ([0x08, 0x01] : Bytes).length = varintOf [0x02] ∧
      ([0x1a] ++ [0x02] ++ [0x08, 0x01] ++ [] : Bytes).length ≤ 4) ∧
    ([0x08, 0x01] : Bytes).length < 4 ∧
      dump (4 + 1) 0 ([0x1a] ++ [0x02] ++ [0x08, 0x01] ++ []) "" =
        dump 4 0 [] ("" ++ String.ofList (List.replicate (4 * 0) ' ') ++
          s!"{varintOf [0x1a] / 8} " ++ dump.chunk 4 0 [0x08, 0x01]) := by
  have hkey : IsVarint [0x1a] := ⟨[], 0x1a, rfl, by simp, by decide, by simp⟩
  have hlen : IsVarint [0x02] := ⟨[], 0x02, rfl, by simp, by decide, by simp⟩
  have hkv : varintOf [0x1a] = 26 := by simp [varintOf, groupValue_cons]
  have hlv : varintOf [0x02] = 2 := by simp [varintOf, groupValue_cons]
  have hfield : 0 < varintOf [0x1a] / 8 := by rw [hkv]; decide
  have hwire : varintOf [0x1a] % 8 = 2 := by rw [hkv]
  have hpay : ([0x08, 0x01] : Bytes).length = varintOf [0x02] := by rw [hlv]; rfl
  exact ⟨⟨by decide, hkey, hfield, hwire, hlen, hpay, by decide⟩,
    inspect_accepts_fields.2.2.1 4 0 [0x1a] [0x02] [0x08, 0x01] [] "" (by decide) hkey hfield
      hwire hlen hpay (by decide)⟩

/-! ## Messages of varint fields -/

theorem readField_leb128 {n v : Nat} (hn : 0 < n) (hn' : n < 2 ^ 61) (hv : v < 2 ^ 64)
    (fuel depth : Nat) (rest : Bytes) :
    readField fuel depth (leb128 (8 * n) ++ leb128 v ++ rest) =
      .ok (n, s!"<varint> = {v}\n", rest) := by
  have hkey : 8 * n < 2 ^ 64 := by omega
  have hfield : 8 * n / 8 = n := by omega
  have hwire : 8 * n % 8 = 0 := by omega
  unfold readField
  rw [List.append_assoc, readVarint_append (isVarint_leb128 hkey), varintOf_leb128 hkey]
  simp only [bind, Except.bind, hfield, Nat.ne_of_gt hn, if_false, hwire]
  rw [dump.fieldValue, readVarint_append (isVarint_leb128 hv), varintOf_leb128 hv]
  rfl

theorem dump_leb128_fields (pairs : List (Nat × Nat))
    (hp : ∀ p ∈ pairs, 1 ≤ p.1 ∧ p.1 < 2 ^ 61 ∧ p.2 < 2 ^ 64) :
    ∀ (fuel : Nat) (out : String), pairs.length ≤ fuel →
      dump fuel 0 (pairs.flatMap fun p => leb128 (8 * p.1) ++ leb128 p.2) out =
        .ok (out ++ String.join (pairs.map fun p => s!"{p.1} <varint> = {p.2}\n")) := by
  induction pairs with
  | nil =>
    intro fuel out _
    cases fuel with
    | zero => simp [dump.eq_1]
    | succ fuel => simp [dump_succ, maxDepth]
  | cons p ps ih =>
    intro fuel out hlen
    obtain ⟨n, v⟩ := p
    obtain ⟨hn, hn', hv⟩ := hp (n, v) List.mem_cons_self
    obtain ⟨fuel, rfl⟩ : ∃ f, fuel = f + 1 := ⟨fuel - 1, by simp at hlen; omega⟩
    have hne : leb128 (8 * n) ++ leb128 v ++ ps.flatMap (fun p => leb128 (8 * p.1) ++ leb128 p.2) ≠
        [] := by simp [leb128_ne_nil]
    rw [List.flatMap_cons, dump_succ, if_neg (by decide), if_neg hne, readField_leb128 hn hn' hv]
    dsimp only
    rw [ih (fun p hp' => hp p (List.mem_cons_of_mem _ hp')) fuel _ (by simpa using hlen)]
    simp only [List.map_cons, String.join_cons, String.append_assoc]
    rfl

theorem length_le_leb128_fields (pairs : List (Nat × Nat)) :
    pairs.length ≤ (pairs.flatMap fun p => leb128 (8 * p.1) ++ leb128 p.2).length := by
  induction pairs with
  | nil => simp
  | cons p ps ih =>
    have := List.length_pos_iff.2 (leb128_ne_nil (8 * p.1))
    simp only [List.flatMap_cons, List.length_append, List.length_cons]
    omega

/-- **Varints read exactly.** The shortest varint of every number below `2^64` reads back as the
number, whatever follows it, and takes at most ten octets; every varint the reader accepts is at
most ten octets, the last below `0x80`, and reads as the sum of its groups of seven bits modulo
`2^64`; so a message of varint fields, each field number below `2^61` and not zero, is shown as one
line `n <varint> = v` per field. -/
theorem inspect_varint_fields :
    (∀ (v : Nat) (r : Bytes), v < 2 ^ 64 →
      readVarint (leb128 v ++ r) = .ok (v, r) ∧ (leb128 v).length ≤ 10) ∧
    (∀ (bs rest : Bytes) (x : Nat), readVarint bs = .ok (x, rest) →
      ∃ pre, bs = pre ++ rest ∧ IsVarint pre ∧ x = groupValue pre % 2 ^ 64) ∧
    (∀ pairs : List (Nat × Nat), (∀ p ∈ pairs, 1 ≤ p.1 ∧ p.1 < 2 ^ 61 ∧ p.2 < 2 ^ 64) →
      inspect (pairs.flatMap fun p => leb128 (8 * p.1) ++ leb128 p.2) =
        .ok (String.join (pairs.map fun p => s!"{p.1} <varint> = {p.2}\n"))) := by
  refine ⟨fun v r hv => ⟨?_, ?_⟩, fun bs rest x h => readVarint_eq_ok_iff.1 h, fun pairs hp => ?_⟩
  · rw [readVarint_append (isVarint_leb128 hv), varintOf_leb128 hv]
  · exact (isVarint_leb128 hv).length_le
  · rw [inspect, dump_leb128_fields pairs hp _ _
      (Nat.le_succ_of_le (length_le_leb128_fields pairs)), String.empty_append]

/-- `150` after field number `1`, the example of the wire-format guide. -/
theorem inspect_varint_fields_guide :
    (150 < 2 ^ 64 ∧ readVarint (leb128 150 ++ [0x12]) = .ok (150, [0x12])) ∧
    (∀ p ∈ [(1, 150)], 1 ≤ p.1 ∧ p.1 < 2 ^ 61 ∧ p.2 < 2 ^ 64) ∧
      inspect ([(1, 150)].flatMap fun p => leb128 (8 * p.1) ++ leb128 p.2) =
        .ok (String.join ([(1, 150)].map fun p => s!"{p.1} <varint> = {p.2}\n")) := by
  have hv : 150 < 2 ^ 64 := by norm_num
  have hp : ∀ p ∈ [(1, 150)], 1 ≤ p.1 ∧ p.1 < 2 ^ 61 ∧ p.2 < 2 ^ 64 := by simp
  exact ⟨⟨hv, (inspect_varint_fields.1 150 [0x12] hv).1⟩, hp,
    inspect_varint_fields.2.2 [(1, 150)] hp⟩

end Dissect.Protobuf
