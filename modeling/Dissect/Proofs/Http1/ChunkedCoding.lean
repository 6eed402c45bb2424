import Mathlib
import Dissect.Http1.Body
import Dissect.Proofs.Text.Utf8

/-!
# The chunked transfer coding

Reading a chunked body gives back the data of its chunks, whatever the size lines' case, zeros,
blanks and extensions, and fails exactly where a chunk is malformed (`Malformed`).
-/

set_option autoImplicit false

namespace Dissect

namespace Text

/-! ## Hexadecimal numerals -/

theorem digitsValue_append (radix : Nat) (xs ys : List Char) (acc : Option Nat) :
    digitsValue radix (xs ++ ys) acc = digitsValue radix ys (digitsValue radix xs acc) := by
  induction xs generalizing acc with
  | nil => rfl
  | cons c cs ih => exact ih _

theorem digitsValue_none (radix : Nat) (cs : List Char) : digitsValue radix cs none = none := by
  induction cs with
  | nil => rfl
  | cons c cs ih => exact ih

theorem digitsValue_zeros (radix zeros : Nat) (hr : 0 < radix) :
    digitsValue radix (List.replicate zeros '0') (some 0) = some 0 := by
  induction zeros with
  | zero => rfl
  | succ k ih =>
    have hzero : digitValue radix '0' = some 0 := by simp [digitValue, hr]
    rw [List.replicate_succ', digitsValue_append, ih]
    simp [digitsValue, hzero]

theorem digitValue_digitChar : ∀ d, d < 16 → digitValue 16 (Nat.digitChar d) = some d := by
  decide

theorem digitsValue_toDigits (n : Nat) : digitsValue 16 (Nat.toDigits 16 n) (some 0) = some n := by
  induction n using Nat.strong_induction_on with
  | _ n ih =>
    by_cases hn : n < 16
    · rw [Nat.toDigits_of_lt_base hn]
      simp [digitsValue, digitValue_digitChar n hn]
    · rw [Nat.toDigits_of_base_le (by omega) (by omega), digitsValue_append, ih (n / 16) (by omega)]
      simp only [digitsValue, Option.bind_eq_bind, Option.bind_some,
        digitValue_digitChar (n % 16) (Nat.mod_lt _ (by omega))]
      congr 1
      omega

theorem char_le_iff {a b : Char} : a ≤ b ↔ a.toNat ≤ b.toNat := by
  rw [Char.le_def, UInt32.le_iff_toNat_le]
  rfl

theorem toNat_ofNat_of_lt {n : Nat} (h : n < 0xd800) : (Char.ofNat n).toNat = n := by
  have hv : n.isValidChar := Or.inl h
  simp [Char.ofNat, hv, Char.ofNatAux, Char.toNat]

theorem digitValue_lowerAscii (c : Char) : digitValue 16 (lowerAscii c) = digitValue 16 c := by
  unfold lowerAscii
  split
  · rename_i hupper
    simp only [char_le_iff] at hupper
    have hA : 'A'.toNat = 65 := rfl
    have hZ : 'Z'.toNat = 90 := rfl
    have hlow := toNat_ofNat_of_lt (n := c.toNat + 32) (by omega)
    have h0 : '0'.toNat = 48 := rfl
    have h9 : '9'.toNat = 57 := rfl
    have ha : 'a'.toNat = 97 := rfl
    have hz : 'z'.toNat = 122 := rfl
    simp only [digitValue, char_le_iff, hlow, h0, h9, ha, hz, hA, hZ]
    split_ifs <;> simp <;> omega
  · rfl

theorem digitsValue_map_lowerAscii (cs : List Char) (acc : Option Nat) :
    digitsValue 16 (cs.map lowerAscii) acc = digitsValue 16 cs acc := by
  induction cs generalizing acc with
  | nil => rfl
  | cons c cs ih => simp only [List.map_cons, digitsValue, digitValue_lowerAscii, ih]

theorem digitValue_of_mem {radix : Nat} {cs : List Char} {acc : Option Nat} {n : Nat}
    (h : digitsValue radix cs acc = some n) : ∀ c ∈ cs, ∃ v, digitValue radix c = some v := by
  induction cs generalizing acc with
  | nil => simp
  | cons c cs ih =>
    intro x hx
    cases hc : digitValue radix c with
    | none =>
      -- a character without a value spoils the whole numeral
      simp [digitsValue, hc, digitsValue_none] at h
    | some v =>
      rcases List.mem_cons.1 hx with rfl | hx
      · exact ⟨v, hc⟩
      · exact ih h x hx

theorem digit_not_blank {c : Char} {v : Nat} (h : digitValue 16 c = some v) :
    isBlank c = false ∧ c ≠ ';' ∧ c ≠ '+' := by
  have hrange : (48 ≤ c.toNat ∧ c.toNat ≤ 57) ∨ (97 ≤ c.toNat ∧ c.toNat ≤ 122) ∨
      (65 ≤ c.toNat ∧ c.toNat ≤ 90) := by
    simp only [digitValue, char_le_iff] at h
    split_ifs at h with h1 h2 h3
    · exact .inl h1
    · exact .inr (.inl h2)
    · exact .inr (.inr h3)
    · simp at h
  have hsemi : c ≠ ';' := fun hc => by subst hc; simp at hrange
  have hplus : c ≠ '+' := fun hc => by subst hc; simp at hrange
  refine ⟨?_, hsemi, hplus⟩
  simp only [isBlank, Bool.or_eq_false_iff, Bool.and_eq_false_iff, decide_eq_false_iff_not,
    beq_eq_false_iff_ne]
  omega

end Text

namespace Http1

open Text

/-! ## Size lines -/

def sizeLineText (lead digits trail : List Char) (ext : Option (List Char)) : List Char :=
  lead ++ digits ++ trail ++ (ext.map (';' :: ·)).getD []

/-- A size line announcing `n` octets: the hexadecimal digits of `n`, in any letter case and after
any number of zeros, between blanks, and optionally `;` and an extension. Its octets hold no CRLF,
which would end it early. -/
structure SizeLine (n : Nat) where
  lead : List Char
  digits : List Char
  trail : List Char
  ext : Option (List Char)
  zeros : Nat
  lead_blank : ∀ c ∈ lead, isBlank c = true
  trail_blank : ∀ c ∈ trail, isBlank c = true
  spells : digits.map lowerAscii = List.replicate zeros '0' ++ Nat.toDigits 16 n
  no_crlf : ¬ [13, 10] <:+: Bytes.ofString (String.ofList (sizeLineText lead digits trail ext))

def SizeLine.octets {n : Nat} (l : SizeLine n) : Bytes :=
  Bytes.ofString (String.ofList (sizeLineText l.lead l.digits l.trail l.ext))

/-- A chunk of a chunked body: data that is not empty, and the size line announcing it. -/
structure BodyChunk where
  data : Bytes
  line : SizeLine data.length
  nonempty : data ≠ []

def BodyChunk.octets (c : BodyChunk) : Bytes := c.line.octets ++ [13, 10] ++ c.data ++ [13, 10]

def chunkedBody (chunks : List BodyChunk) (last : SizeLine 0) (trailer : Bytes) : Bytes :=
  chunks.flatMap BodyChunk.octets ++ last.octets ++ [13, 10] ++ trailer

theorem trim_between_blanks {lead mid trail : List Char} (hlead : ∀ c ∈ lead, isBlank c = true)
    (hmid : ∀ c ∈ mid, isBlank c = false) (htrail : ∀ c ∈ trail, isBlank c = true) :
    trim (String.ofList (lead ++ mid ++ trail)) = String.ofList mid := by
  have hkeep : ∀ l : List Char, (∀ c ∈ l.head?, isBlank c = false) → l.dropWhile isBlank = l := by
    intro l hl
    cases l with
    | nil => rfl
    | cons c rest => exact List.dropWhile_cons_of_neg (by simpa using hl c rfl)
  cases mid with
  | nil =>
    have hall : ∀ c ∈ lead ++ [] ++ trail, isBlank c = true := by
      intro c hc
      simp only [List.append_nil, List.mem_append] at hc
      exact hc.elim (hlead c) (htrail c)
    rw [List.append_nil] at hall
    simp [trim, List.dropWhile_eq_nil_iff.2 hall]
  | cons c rest =>
    have hc : isBlank c = false := hmid c (by simp)
    have hfront : (lead ++ c :: rest ++ trail).dropWhile isBlank = c :: rest ++ trail := by
      rw [List.append_assoc, List.dropWhile_append_of_pos hlead]
      exact hkeep _ (by simpa using hc)
    have hback : (c :: rest ++ trail).reverse.dropWhile isBlank = (c :: rest).reverse := by
      rw [List.reverse_append, List.dropWhile_append_of_pos (by simpa using htrail)]
      exact hkeep _ (fun x hx => hmid x (List.mem_reverse.1 (List.mem_of_mem_head? hx)))
    simp only [trim, String.toList_ofList, hfront, hback, List.reverse_reverse]

theorem chunkSize_ofString (text : List Char) :
    chunkSize (Bytes.ofString (String.ofList text)) =
      readUnsigned 16 (2 ^ 64) (trim (String.ofList ((text.splitOn ';').headD []))) := by
  have h64 : (2 : Nat) ^ 64 = Nat.pow 2 64 := rfl
  simp only [chunkSize, Utf8.decode_ofString, Except.toOption, Option.bind_eq_bind, Option.bind_some,
    String.toList_ofList, h64]

theorem readUnsigned_digits {radix bound : Nat} {d : Char} {ds : List Char} (hd : d ≠ '+') :
    readUnsigned radix bound (String.ofList (d :: ds)) =
      (digitsValue radix (d :: ds) (some 0)).filter (· < bound) := by
  simp only [readUnsigned, String.toList_ofList]
  split
  · rename_i h
    cases h
    exact absurd rfl hd
  · simp

theorem SizeLine.chunkSize_octets {n : Nat} (l : SizeLine n) (hn : n < 2 ^ 64) :
    chunkSize l.octets = some n := by
  have hvalue : digitsValue 16 l.digits (some 0) = some n := by
    rw [← digitsValue_map_lowerAscii, l.spells, digitsValue_append, digitsValue_zeros 16 _ (by omega),
      digitsValue_toDigits]
  have hdigit : ∀ c ∈ l.digits, isBlank c = false ∧ c ≠ ';' ∧ c ≠ '+' := by
    intro c hc
    obtain ⟨v, hv⟩ := digitValue_of_mem hvalue c hc
    exact digit_not_blank hv
  have hsemi : ';' ∉ l.lead ++ l.digits ++ l.trail := by
    have hblank : isBlank ';' = false := rfl
    simp only [List.mem_append, not_or]
    exact ⟨⟨fun h => by simpa [hblank] using l.lead_blank _ h, fun h => (hdigit _ h).2.1 rfl⟩,
      fun h => by simpa [hblank] using l.trail_blank _ h⟩
  have hfield : ((sizeLineText l.lead l.digits l.trail l.ext).splitOn ';').headD [] =
      l.lead ++ l.digits ++ l.trail := by
    cases l.ext with
    | none =>
      rw [sizeLineText, Option.map_none, Option.getD_none, List.append_nil,
        List.splitOn_eq_singleton hsemi]
      rfl
    | some e =>
      rw [sizeLineText, Option.map_some, Option.getD_some, List.splitOn_append_cons_self_of_not_mem hsemi]
      rfl
  obtain ⟨d, ds, hds⟩ : ∃ d ds, l.digits = d :: ds := by
    apply List.exists_cons_of_ne_nil
    intro h
    have hlen := congrArg List.length l.spells
    have := Nat.length_toDigits_pos (b := 16) (n := n)
    simp only [h, List.map_nil, List.length_nil, List.length_append, List.length_replicate] at hlen
    omega
  rw [SizeLine.octets, chunkSize_ofString, hfield,
    trim_between_blanks l.lead_blank (fun c hc => (hdigit c hc).1) l.trail_blank, hds,
    readUnsigned_digits (hdigit d (by simp [hds])).2.2, ← hds, hvalue]
  simpa using hn

theorem find?_crlf_after {line : Bytes} (hline : ¬ [13, 10] <:+: line) (rest : Bytes) :
    Bytes.find? [13, 10] (line ++ 13 :: 10 :: rest) = some line.length := by
  suffices h : ∀ i, Bytes.findFrom [13, 10] i (line ++ 13 :: 10 :: rest) = some (i + line.length) by
    simpa [Bytes.find?] using h 0
  induction line with
  | nil => intro i; simp [Bytes.findFrom]
  | cons b line ih =>
    intro i
    have hline' : ¬ [13, 10] <:+: line := fun h => hline (h.trans (List.suffix_cons b line).isInfix)
    -- no CRLF starts at `b`: either `b` is not CR, or what follows it is not LF
    have hnot : ([13, 10] : Bytes).isPrefixOf (b :: (line ++ 13 :: 10 :: rest)) = false := by
      cases line with
      | nil => simp [List.isPrefixOf]
      | cons c line =>
        simp only [List.cons_append, List.isPrefixOf, Bool.and_eq_false_iff]
        by_contra hboth
        simp only [not_or, Bool.not_eq_false, beq_iff_eq] at hboth
        obtain ⟨hb, hc, -⟩ := hboth
        exact hline ⟨[], line, by simp [hb, hc]⟩
    simp only [List.cons_append, Bytes.findFrom, hnot, ih hline', List.length_cons]
    simp only [Bool.false_eq_true, ↓reduceIte, Option.some.injEq]
    omega

theorem SizeLine.find?_octets {n : Nat} (l : SizeLine n) (rest : Bytes) :
    Bytes.find? [13, 10] (l.octets ++ 13 :: 10 :: rest) = some l.octets.length :=
  find?_crlf_after l.no_crlf rest

/-! ## One chunk at a time -/

section Steps

variable {data : Bytes} {e n : Nat}

theorem dechunk_of_find?_none (h : Bytes.find? [13, 10] data = none) : dechunk data = none := by
  rw [dechunk, h]

theorem dechunk_of_chunkSize_none (hf : Bytes.find? [13, 10] data = some e)
    (hs : chunkSize (data.take e) = none) : dechunk data = none := by
  rw [dechunk, hf]
  simp only [hs]

theorem dechunk_of_chunkSize_zero (hf : Bytes.find? [13, 10] data = some e)
    (hs : chunkSize (data.take e) = some 0) : dechunk data = some [] := by
  rw [dechunk, hf]
  simp only [hs]

theorem dechunk_of_short (hf : Bytes.find? [13, 10] data = some e)
    (hs : chunkSize (data.take e) = some n) (hn : n ≠ 0) (hshort : (data.drop (e + 2)).length < n) :
    dechunk data = none := by
  obtain ⟨m, rfl⟩ : ∃ m, n = m + 1 := ⟨n - 1, by omega⟩
  rw [dechunk, hf]
  simp only [hs, List.length_take]
  rw [if_pos (by omega)]

theorem dechunk_of_unterminated (hf : Bytes.find? [13, 10] data = some e)
    (hs : chunkSize (data.take e) = some n) (hn : n ≠ 0) (hlong : n ≤ (data.drop (e + 2)).length)
    (hend : ¬ [13, 10] <+: data.drop (e + 2 + n)) : dechunk data = none := by
  obtain ⟨m, rfl⟩ : ∃ m, n = m + 1 := ⟨n - 1, by omega⟩
  rw [dechunk, hf]
  simp only [hs, List.length_take]
  rw [if_neg (by omega)]
  split
  · rename_i more hmore
    rw [List.drop_drop] at hmore
    exact absurd ⟨more, hmore.symm⟩ hend
  · rfl

theorem dechunk_of_chunk {piece more : Bytes} (hf : Bytes.find? [13, 10] data = some e)
    (hs : chunkSize (data.take e) = some n) (hn : n ≠ 0)
    (hsplit : data.drop (e + 2) = piece ++ 13 :: 10 :: more) (hlen : piece.length = n) :
    dechunk data = (dechunk more).map (piece ++ ·) := by
  obtain ⟨m, rfl⟩ : ∃ m, n = m + 1 := ⟨n - 1, by omega⟩
  have htake : (data.drop (e + 2)).take (m + 1) = piece := by simp [hsplit, ← hlen]
  have hdrop : (data.drop (e + 2)).drop (m + 1) = 13 :: 10 :: more := by simp [hsplit, ← hlen]
  rw [dechunk, hf]
  simp only [hs, htake, hlen, Nat.lt_irrefl, ↓reduceIte]
  split
  · rename_i more' hmore
    rw [hdrop] at hmore
    cases hmore
    rfl
  · rename_i hnot
    exact absurd hdrop (hnot more)

end Steps

/-! ## Chunked bodies read back -/

theorem dechunk_chunkedBody (chunks : List BodyChunk) (last : SizeLine 0) (trailer : Bytes)
    (hsize : ∀ c ∈ chunks, c.data.length < 2 ^ 64) :
    dechunk (chunkedBody chunks last trailer) = some (chunks.flatMap BodyChunk.data) := by
  induction chunks with
  | nil =>
    have hbody : chunkedBody [] last trailer = last.octets ++ 13 :: 10 :: trailer := by
      simp [chunkedBody]
    rw [hbody]
    exact dechunk_of_chunkSize_zero (last.find?_octets trailer)
      (by simpa using last.chunkSize_octets (by norm_num))
  | cons c cs ih =>
    have hbody : chunkedBody (c :: cs) last trailer =
        c.line.octets ++ 13 :: 10 :: (c.data ++ 13 :: 10 :: chunkedBody cs last trailer) := by
      simp [chunkedBody, BodyChunk.octets]
    have hlen : c.data.length ≠ 0 := by simpa using c.nonempty
    have hsplit : (c.line.octets ++ 13 :: 10 :: (c.data ++ 13 :: 10 :: chunkedBody cs last trailer)).drop
        (c.line.octets.length + 2) = c.data ++ 13 :: 10 :: chunkedBody cs last trailer := by
      simp
    rw [hbody, dechunk_of_chunk (c.line.find?_octets _)
      (by simpa using c.line.chunkSize_octets (hsize c (by simp))) hlen hsplit rfl,
      ih (fun c' hc' => hsize c' (by simp [hc']))]
    simp

/-! ## Why a body cannot be read -/

/-- Why a chunked body cannot be read, found by walking its chunks up to the line of size zero:
the next size line has no CRLF after it, is not UTF-8, or does not give a hexadecimal size below
`2 ^ 64`; it announces more octets than remain; its data is not followed by CRLF; or the chunk is
well formed and the rest of the body cannot be read. -/
inductive Malformed : Bytes → Prop
  | noSizeLine {data : Bytes} : Bytes.find? [13, 10] data = none → Malformed data
  | notText {data : Bytes} {e : Nat} {fault : Utf8.Fault} : Bytes.find? [13, 10] data = some e →
      Utf8.decode (data.take e) = .error fault → Malformed data
  | notHex {data : Bytes} {e : Nat} {text : String} : Bytes.find? [13, 10] data = some e →
      Utf8.decode (data.take e) = .ok text →
      readUnsigned 16 (2 ^ 64) (trim (String.ofList ((text.toList.splitOn ';').headD []))) = none →
      Malformed data
  | short {data : Bytes} {e n : Nat} : Bytes.find? [13, 10] data = some e →
      chunkSize (data.take e) = some n → n ≠ 0 → (data.drop (e + 2)).length < n → Malformed data
  | unterminated {data : Bytes} {e n : Nat} : Bytes.find? [13, 10] data = some e →
      chunkSize (data.take e) = some n → n ≠ 0 → n ≤ (data.drop (e + 2)).length →
      ¬ [13, 10] <+: data.drop (e + 2 + n) → Malformed data
  | later {data piece more : Bytes} {e n : Nat} : Bytes.find? [13, 10] data = some e →
      chunkSize (data.take e) = some n → n ≠ 0 → data.drop (e + 2) = piece ++ 13 :: 10 :: more →
      piece.length = n → Malformed more → Malformed data

theorem chunkSize_eq_none_iff (line : Bytes) :
    chunkSize line = none ↔ (∃ fault, Utf8.decode line = .error fault) ∨
      ∃ text, Utf8.decode line = .ok text ∧
        readUnsigned 16 (2 ^ 64) (trim (String.ofList ((text.toList.splitOn ';').headD []))) = none := by
  have h64 : (2 : Nat) ^ 64 = Nat.pow 2 64 := rfl
  cases hd : Utf8.decode line with
  | error fault => simp [chunkSize, hd, Except.toOption]
  | ok text =>
    simp only [chunkSize, hd, Except.toOption, Option.bind_eq_bind, Option.bind_some, h64]
    simp

theorem Malformed.of_chunkSize_none {data : Bytes} {e : Nat} (hf : Bytes.find? [13, 10] data = some e)
    (hs : chunkSize (data.take e) = none) : Malformed data := by
  rcases (chunkSize_eq_none_iff _).1 hs with ⟨fault, hfault⟩ | ⟨text, htext, hhex⟩
  · exact .notText hf hfault
  · exact .notHex hf htext hhex

theorem dechunk_of_malformed {data : Bytes} (h : Malformed data) : dechunk data = none := by
  induction h with
  | noSizeLine hf => exact dechunk_of_find?_none hf
  | notText hf hfault =>
    exact dechunk_of_chunkSize_none hf ((chunkSize_eq_none_iff _).2 (.inl ⟨_, hfault⟩))
  | notHex hf htext hhex =>
    exact dechunk_of_chunkSize_none hf ((chunkSize_eq_none_iff _).2 (.inr ⟨_, htext, hhex⟩))
  | short hf hs hn hshort => exact dechunk_of_short hf hs hn hshort
  | unterminated hf hs hn hlong hend => exact dechunk_of_unterminated hf hs hn hlong hend
  | later hf hs hn hsplit hlen _ ih => rw [dechunk_of_chunk hf hs hn hsplit hlen, ih, Option.map_none]

theorem malformed_of_dechunk {data : Bytes} (h : dechunk data = none) : Malformed data := by
  induction data using dechunk.induct with
  | case1 data hf => exact .noSizeLine hf
  | case2 data e hf hs => exact .of_chunkSize_none hf hs
  | case3 data e hf hs => simp [dechunk_of_chunkSize_zero hf hs] at h
  | case4 data e hf n hn hs rest piece hshort =>
    exact .short hf hs hn (by simpa [rest, piece, List.length_take] using hshort)
  | case5 data e hf n hn hs rest piece hlong more hmore ih =>
    have hsplit : data.drop (e + 2) = (data.drop (e + 2)).take n ++ 13 :: 10 :: more := by
      rw [← hmore, List.take_append_drop]
    have hlen : ((data.drop (e + 2)).take n).length = n := by
      simp only [piece, rest, List.length_take] at hlong ⊢
      omega
    rw [dechunk_of_chunk hf hs hn hsplit hlen, Option.map_eq_none_iff] at h
    exact .later hf hs hn hsplit hlen (ih h)
  | case6 data e hf n hn hs rest piece hlong hend =>
    refine .unterminated hf hs hn (by simpa [rest, piece, List.length_take] using hlong) ?_
    rintro ⟨more, hmore⟩
    exact hend more (by simp only [rest, List.drop_drop]; exact hmore.symm)

/-- Reading a chunked body fails exactly when it is malformed. -/
theorem dechunk_eq_none_iff (data : Bytes) : dechunk data = none ↔ Malformed data :=
  ⟨malformed_of_dechunk, dechunk_of_malformed⟩

/-- Reading undoes the chunked coding: a chunked body, its sizes in any spelling and its trailer
anything, gives back the data of its chunks, and reading fails exactly on malformed bodies. -/
theorem dechunk_undoes_chunking :
    (∀ (chunks : List BodyChunk) (last : SizeLine 0) (trailer : Bytes),
      (∀ c ∈ chunks, c.data.length < 2 ^ 64) →
        dechunk (chunkedBody chunks last trailer) = some (chunks.flatMap BodyChunk.data)) ∧
    ∀ data : Bytes, dechunk data = none ↔ Malformed data :=
  ⟨dechunk_chunkedBody, dechunk_eq_none_iff⟩

/-- The chunks of `4 CRLF Wiki CRLF 5;ext=1 CRLF pedia CRLF`, the second with an extension. -/
def wikipediaChunks : List BodyChunk :=
  [⟨Bytes.ofString "Wiki",
     ⟨[], ['4'], [], none, 0, by simp, by simp, by rw [Bytes.length_ofString]; decide,
       by rw [Bytes.ofString_eq_flatMap]; decide⟩,
     by rw [Bytes.ofString_eq_flatMap]; decide⟩,
   ⟨Bytes.ofString "pedia",
     ⟨[], ['5'], [], some "ext=1".toList, 0, by simp, by simp, by rw [Bytes.length_ofString]; decide,
       by rw [Bytes.ofString_eq_flatMap]; decide⟩,
     by rw [Bytes.ofString_eq_flatMap]; decide⟩]

def zeroLine : SizeLine 0 :=
  ⟨[], ['0'], [], none, 0, by simp, by simp, by decide, by rw [Bytes.ofString_eq_flatMap]; decide⟩

theorem dechunk_wikipedia :
    (∀ c ∈ wikipediaChunks, c.data.length < 2 ^ 64) ∧
      dechunk (chunkedBody wikipediaChunks zeroLine [13, 10]) = some (Bytes.ofString "Wikipedia") := by
  have hsize : ∀ c ∈ wikipediaChunks, c.data.length < 2 ^ 64 := by
    simp only [wikipediaChunks, List.mem_cons, List.not_mem_nil, or_false, forall_eq_or_imp,
      forall_eq, Bytes.length_ofString]
    decide
  refine ⟨hsize, ?_⟩
  rw [dechunk_undoes_chunking.1 wikipediaChunks zeroLine [13, 10] hsize]
  simp only [wikipediaChunks, List.flatMap_cons, List.flatMap_nil, List.append_nil,
    Bytes.ofString_eq_flatMap]
  decide

end Http1

end Dissect
