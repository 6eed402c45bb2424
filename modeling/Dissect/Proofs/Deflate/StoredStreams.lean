import Mathlib
import Dissect.Proofs.Deflate.Stored
import Dissect.Proofs.Bytes.BigEndian

/-!
# Streams that store their data

Raw DEFLATE data of stored blocks, and its zlib and gzip wrappings (RFC 1950, RFC 1952), are
decoded to what they store, while the output stays within the bound the decoder is given.
-/

set_option autoImplicit false

namespace Dissect.Deflate

open Reading

/-! ## Stored DEFLATE data -/

def lastStoredBlock (x : Bytes) : Bytes := 1 :: (storedHead x.length).tail ++ x

/-- Raw DEFLATE data that stores `x`: blocks of 65535 octets, then a final block with the rest. -/
def storedStream (x : Bytes) : Bytes :=
  if x.length ≤ 65535 then lastStoredBlock x
  else storedBlock (x.take 65535) ++ storedStream (x.drop 65535)
termination_by x.length
decreasing_by
  simp only [List.length_drop]
  omega

theorem storedStream_of_le {x : Bytes} (hx : x.length ≤ 65535) :
    storedStream x = lastStoredBlock x := by
  rw [storedStream, if_pos hx]

theorem length_storedBlock (x : Bytes) : (storedBlock x).length = 5 + x.length := by
  simp [storedBlock, storedHead]
  omega

theorem length_lastStoredBlock (x : Bytes) : (lastStoredBlock x).length = 5 + x.length := by
  simp [lastStoredBlock, storedHead]
  omega

theorem blockHeader_lastStored {pre x post : Bytes} (hx : x.length ≤ 65535) :
    blockHeader ⟨(pre ++ lastStoredBlock x ++ post).toByteArray, 8 * pre.length⟩ =
      .ok (.stored x.length true,
        ⟨(pre ++ lastStoredBlock x ++ post).toByteArray, 8 * (pre.length + 5)⟩) := by
  have hbyte : ∀ i, i < 5 →
      (pre ++ lastStoredBlock x ++ post).toByteArray[pre.length + i]? = (lastStoredBlock x)[i]? :=
    fun i hi => getElem?_block pre _ post (by rw [length_lastStoredBlock]; omega)
  exact @blockHeader_storedAt _ _ _ true (by omega) (hbyte 0 (by omega)) (hbyte 1 (by omega))
    (hbyte 2 (by omega)) (hbyte 3 (by omega)) (hbyte 4 (by omega))

theorem steps_storedStream (x : Bytes) : ∀ pre post : Bytes,
    ∃ es, Steps ⟨(pre ++ storedStream x ++ post).toByteArray, 8 * pre.length⟩ .header
        ⟨(pre ++ storedStream x ++ post).toByteArray,
          8 * (pre.length + (storedStream x).length)⟩ (.stored 0 true) es ∧
      ∀ out, Emit.applyAll es out = out ++ x.toByteArray := by
  induction x using storedStream.induct with
  | case1 x hx =>
    intro pre post
    have hsplit : pre ++ lastStoredBlock x ++ post =
        (pre ++ 1 :: (storedHead x.length).tail) ++ x ++ post := by
      simp [lastStoredBlock]
    have hbytes := extract_block (pre ++ 1 :: (storedHead x.length).tail) x post
    rw [← hsplit, List.length_append, show (1 :: (storedHead x.length).tail).length = 5 from rfl]
      at hbytes
    obtain ⟨es, hsteps, hwrite⟩ := steps_storedAt (blockHeader_lastStored hx) hbytes
      (by simp [length_lastStoredBlock]; omega)
    rw [storedStream_of_le hx, length_lastStoredBlock, ← Nat.add_assoc]
    exact ⟨es, hsteps, hwrite⟩
  | case2 x hx ih =>
    intro pre post
    have hstream : storedStream x = storedBlock (x.take 65535) ++ storedStream (x.drop 65535) := by
      rw [storedStream, if_neg hx]
    have htake : (x.take 65535).length = 65535 := by
      simp only [List.length_take]
      omega
    obtain ⟨es₁, hfirst, hwrite₁⟩ :=
      @steps_storedBlock pre (x.take 65535) (storedStream (x.drop 65535) ++ post) (by omega)
    obtain ⟨es₂, hrest, hwrite₂⟩ := ih (pre ++ storedBlock (x.take 65535)) post
    have hdata : pre ++ storedBlock (x.take 65535) ++ (storedStream (x.drop 65535) ++ post) =
        pre ++ storedBlock (x.take 65535) ++ storedStream (x.drop 65535) ++ post := by
      simp
    rw [hdata, htake] at hfirst
    rw [List.length_append, length_storedBlock, htake, ← Nat.add_assoc pre.length 5 65535] at hrest
    have hend : pre.length + (storedBlock (x.take 65535) ++ storedStream (x.drop 65535)).length =
        pre.length + 5 + 65535 + (storedStream (x.drop 65535)).length := by
      rw [List.length_append, length_storedBlock, htake]
      omega
    refine ⟨es₁ ++ es₂, ?_, fun out => ?_⟩
    · rw [hstream, ← List.append_assoc, hend]
      exact hfirst.append hrest
    · rw [Emit.applyAll_append, hwrite₁, hwrite₂, ByteArray.append_assoc,
        ← List.toByteArray_append, List.take_append_drop]

theorem extract_tail (pre rest : Bytes) :
    (pre ++ rest).toByteArray.extract pre.length (pre ++ rest).length = rest.toByteArray := by
  have hbytes := extract_block pre rest []
  rwa [List.append_nil, ← List.length_append] at hbytes

theorem Bits.rest_align_at (pre post : Bytes) :
    (Bits.align ⟨(pre ++ post).toByteArray, 8 * pre.length⟩).rest = post.toByteArray := by
  simp only [Bits.align, Bits.rest, List.size_toByteArray]
  rw [show (8 * pre.length + 7) / 8 * 8 / 8 = pre.length by omega]
  exact extract_tail pre post

theorem run_of_steps_final {input : ByteArray} {b' : Bits} {es : List Emit} {bound : Nat}
    (h : Steps ⟨input, 0⟩ .header b' (.stored 0 true) es) (out : ByteArray)
    (hout : (Emit.applyAll es out).size ≤ bound) :
    Machine.run bound ⟨⟨input, 0⟩, out, .header⟩ =
      (⟨b', Emit.applyAll es out, .header⟩, .finished) := by
  -- the run takes fewer steps than twice its bits, which leaves fuel for the last one
  have hlen := (h.potential_le (by simp)).2.2
  simp only [potential, Phase.weight, Nat.sub_zero] at hlen
  have hfuel : es.length ≤ 2 * (⟨input, 0⟩ : Bits).left + 2 := by
    simp only [Bits.left]
    omega
  rw [Machine.run, runFor_of_steps h out hout _ hfuel,
    show 2 * (⟨input, 0⟩ : Bits).left + 2 - es.length =
      (2 * (⟨input, 0⟩ : Bits).left + 1 - es.length) + 1 by simp only [Bits.left]; omega,
    Machine.runFor, if_neg (by omega)]
  rfl

/-- Stored data, whatever follows it, decodes to what it stores, the rest of the input left as
it is, while the output stays within the bound. -/
theorem inflateRaw_storedStream {limit : Nat} {x : Bytes} (hx : x.length ≤ limit + windowSize)
    (post : Bytes) :
    inflateRaw limit (storedStream x ++ post).toByteArray =
      .complete x.toByteArray post.toByteArray := by
  obtain ⟨es, hsteps, hwrite⟩ := steps_storedStream x [] post
  simp only [List.nil_append, List.length_nil, Nat.mul_zero, Nat.zero_add] at hsteps
  have hout : (Emit.applyAll es ByteArray.empty).size ≤ limit + windowSize := by
    rw [hwrite, ByteArray.empty_append, List.size_toByteArray]
    exact hx
  unfold inflateRaw Machine.start
  rw [run_of_steps_final hsteps _ hout, hwrite, ByteArray.empty_append]
  exact congrArg _ (Bits.rest_align_at _ post)

/-! ## Numbers in the trailers -/

theorem leNat_succ (data : ByteArray) (i n : Nat) :
    leNat data i (n + 1) = leNat data (i + 1) n * 256 + ((data[i]?).getD 0).toNat := by
  simp only [leNat, List.range_succ_eq_map, List.foldr_cons, List.foldr_map, Nat.add_zero]
  congr 3
  funext k acc
  rw [Nat.add_assoc, Nat.add_comm 1 k]

theorem leNat_block (l : Bytes) : ∀ pre post : Bytes,
    leNat (pre ++ l ++ post).toByteArray pre.length l.length = Bytes.beNat l.reverse := by
  induction l with
  | nil => intro pre post; rfl
  | cons b l ih =>
    intro pre post
    have hrest := ih (pre ++ [b]) post
    rw [List.append_assoc pre [b], List.singleton_append, List.length_append,
      List.length_singleton] at hrest
    have hfirst : (pre ++ b :: l ++ post).toByteArray[pre.length]? = some b := by
      rw [toByteArray_getElem?]
      simp
    rw [List.length_cons, leNat_succ, hrest, hfirst, List.reverse_cons,
      Bytes.beNat_append_singleton, Option.getD_some]

theorem beNatAt_succ (data : ByteArray) (i n : Nat) :
    beNatAt data i (n + 1) = beNatAt data i n * 256 + ((data[i + n]?).getD 0).toNat := by
  simp only [beNatAt, List.range_succ, List.foldl_append, List.foldl_cons, List.foldl_nil]

theorem beNatAt_block (l : Bytes) : ∀ pre post : Bytes,
    beNatAt (pre ++ l ++ post).toByteArray pre.length l.length = Bytes.beNat l := by
  induction l using List.reverseRecOn with
  | nil => intro pre post; rfl
  | append_singleton l b ih =>
    intro pre post
    have hfirst := ih pre ([b] ++ post)
    rw [← List.append_assoc] at hfirst
    have hlast : (pre ++ l ++ [b] ++ post).toByteArray[pre.length + l.length]? = some b := by
      rw [toByteArray_getElem?]
      simp
    rw [List.length_append, List.length_singleton, beNatAt_succ, ← List.append_assoc, hfirst,
      hlast, Bytes.beNat_append_singleton, Option.getD_some]

theorem foldl_invariant {β : Type} (P : β → Prop) {f : β → UInt8 → β} {init : β}
    (data : ByteArray) (h0 : P init) (hf : ∀ b x, P b → P (f b x)) :
    P (data.foldl f init) := by
  -- the fold runs a loop over the indices, and each turn keeps the property
  have hloop : ∀ (stop : Nat) (h : stop ≤ data.size) (i j : Nat) (b : β), P b →
      P (Id.run (ByteArray.foldlM.loop (fun b x => (pure (f b x) : Id β)) data stop h i j b)) := by
    intro stop h i
    induction i with
    | zero =>
      intro j b hb
      unfold ByteArray.foldlM.loop
      split <;> exact hb
    | succ i ih =>
      intro j b hb
      unfold ByteArray.foldlM.loop
      split
      · exact ih _ _ (hf _ _ hb)
      · exact hb
  unfold ByteArray.foldl ByteArray.foldlM
  split <;> exact hloop _ _ _ _ _ h0

theorem adler32_lt (data : ByteArray) : adler32 data < 2 ^ 32 := by
  have hsums : (data.foldl adlerByte (1, 0)).1 < 65521 ∧ (data.foldl adlerByte (1, 0)).2 < 65521 :=
    foldl_invariant (fun s : Nat × Nat => s.1 < 65521 ∧ s.2 < 65521) data (by decide)
      fun s b _ => ⟨Nat.mod_lt _ (by decide), Nat.mod_lt _ (by decide)⟩
  unfold adler32
  generalize data.foldl adlerByte (1, 0) = s at hsums ⊢
  obtain ⟨a, b⟩ := s
  simp only at hsums ⊢
  omega

/-! ## zlib -/

def zlibStored (x : Bytes) : Bytes :=
  [0x78, 0x01] ++ storedStream x ++ Bytes.ofBeNat 4 (adler32 x.toByteArray)

theorem inflateZlib_zlibStored {limit : Nat} {x : Bytes} (hx : x.length ≤ limit + windowSize) :
    inflateZlib limit (zlibStored x).toByteArray = .complete x.toByteArray ByteArray.empty := by
  set trailer := Bytes.ofBeNat 4 (adler32 x.toByteArray)
  have hsplit : zlibStored x = [0x78, 0x01] ++ (storedStream x ++ trailer) := by
    simp [zlibStored, trailer]
  have hbody : (zlibStored x).toByteArray.extract 2 (zlibStored x).toByteArray.size =
      (storedStream x ++ trailer).toByteArray := by
    rw [List.size_toByteArray, hsplit]
    exact extract_tail [0x78, 0x01] _
  -- a header for DEFLATE with a 32 KiB window and no dictionary, its check a multiple of 31
  have hsize : ¬ (zlibStored x).toByteArray.size < 2 := by
    rw [List.size_toByteArray, hsplit]
    simp only [List.length_append, List.length_cons, List.length_nil]
    omega
  have hcmf : (zlibStored x).toByteArray[0]? = some 0x78 := by
    rw [toByteArray_getElem?, hsplit]
    rfl
  have hflg : (zlibStored x).toByteArray[1]? = some 0x01 := by
    rw [toByteArray_getElem?, hsplit]
    rfl
  have hlen : trailer.length = 4 := Bytes.length_ofBeNat 4 _
  have hsum : beNatAt trailer.toByteArray 0 4 = adler32 x.toByteArray := by
    have := beNatAt_block trailer [] []
    rw [List.nil_append, List.append_nil, List.length_nil, hlen] at this
    rw [this, Bytes.beNat_ofBeNat, Nat.mod_eq_of_lt (lt_of_lt_of_eq (adler32_lt _) (by norm_num))]
  unfold inflateZlib
  rw [if_neg hsize, hcmf, hflg, if_neg (by decide), hbody, inflateRaw_storedStream hx]
  dsimp only
  rw [List.size_toByteArray, hlen, hsum, if_neg (by simp), ByteArray.extract_same]

/-! ## gzip -/

def gzipPlainHeader : Bytes := [0x1f, 0x8b, 8, 0, 0, 0, 0, 0, 0, 0xff]

def gzipStored (x : Bytes) : Bytes :=
  gzipPlainHeader ++ storedStream x ++ (Bytes.ofBeNat 4 (crc32 x.toByteArray).toNat).reverse ++
    (Bytes.ofBeNat 4 x.length).reverse

theorem gzipHeaderLength_plain (rest : Bytes) :
    gzipHeaderLength (gzipPlainHeader ++ rest).toByteArray = some 10 := by
  simp [gzipHeaderLength, gzipPlainHeader]

theorem inflateGzipMember_gzipStored {limit : Nat} {x : Bytes} (hx : x.length ≤ limit)
    (post : Bytes) :
    inflateGzipMember limit (gzipStored x ++ post).toByteArray =
      .complete x.toByteArray post.toByteArray := by
  set crc := (Bytes.ofBeNat 4 (crc32 x.toByteArray).toNat).reverse
  set size := (Bytes.ofBeNat 4 x.length).reverse
  have hcrcLen : crc.length = 4 := by simp [crc]
  have hsizeLen : size.length = 4 := by simp [size]
  have hsplit : gzipStored x ++ post =
      gzipPlainHeader ++ (storedStream x ++ (crc ++ size ++ post)) := by
    simp [gzipStored, crc, size]
  have hbody : (gzipPlainHeader ++ (storedStream x ++ (crc ++ size ++ post))).toByteArray.extract 10
      (gzipPlainHeader ++ (storedStream x ++ (crc ++ size ++ post))).toByteArray.size =
      (storedStream x ++ (crc ++ size ++ post)).toByteArray := by
    rw [List.size_toByteArray]
    exact extract_tail gzipPlainHeader _
  have hcrc : leNat (crc ++ size ++ post).toByteArray 0 4 = (crc32 x.toByteArray).toNat := by
    have := leNat_block crc [] (size ++ post)
    rw [List.nil_append, List.length_nil, hcrcLen, ← List.append_assoc, List.reverse_reverse]
      at this
    rw [this, Bytes.beNat_ofBeNat,
      Nat.mod_eq_of_lt (lt_of_lt_of_eq (UInt32.toNat_lt _) (by norm_num))]
  have hsize : leNat (crc ++ size ++ post).toByteArray 4 4 = x.length % Nat.pow 2 32 := by
    have := leNat_block size crc post
    rw [hcrcLen, hsizeLen, List.reverse_reverse, Bytes.beNat_ofBeNat] at this
    rw [this]
    rfl
  have hrest : (crc ++ size ++ post).toByteArray.extract 8 (crc ++ size ++ post).length =
      post.toByteArray := by
    have htail := extract_tail (crc ++ size) post
    rwa [show (crc ++ size).length = 8 by rw [List.length_append, hcrcLen, hsizeLen]] at htail
  have hlong : ¬ (crc ++ size ++ post).toByteArray.size < 8 := by
    rw [List.size_toByteArray, List.length_append, List.length_append, hcrcLen, hsizeLen]
    omega
  unfold inflateGzipMember
  rw [hsplit, gzipHeaderLength_plain]
  dsimp only
  rw [hbody, inflateRaw_storedStream (by simp only [windowSize]; omega)]
  dsimp only
  rw [if_neg (by simp; omega), hcrc, hsize, List.size_toByteArray, if_neg (by simpa using hlong),
    hrest]

theorem length_gzipStored_pos (x : Bytes) : 0 < (gzipStored x).length := by
  simp [gzipStored, gzipPlainHeader]

theorem inflateGzipMembers_stored {limit : Nat} :
    ∀ (p : Bytes) (ps : List Bytes) (acc : ByteArray) (fuel : Nat), ps.length < fuel →
      acc.size + ((p :: ps).map List.length).sum ≤ limit →
      inflateGzipMembers limit fuel acc ((p :: ps).flatMap gzipStored).toByteArray =
        .complete (acc ++ (p :: ps).flatten.toByteArray) ByteArray.empty := by
  intro p ps
  induction ps generalizing p with
  | nil =>
    intro acc fuel hfuel hsum
    obtain ⟨f, rfl⟩ : ∃ f, fuel = f + 1 := ⟨fuel - 1, by simp at hfuel; omega⟩
    simp only [List.map_cons, List.map_nil, List.sum_cons, List.sum_nil, Nat.add_zero] at hsum
    have hmember := @inflateGzipMember_gzipStored (limit - acc.size) p (by omega) []
    simp only [List.append_nil, List.toByteArray_nil] at hmember
    rw [List.flatMap_singleton, inflateGzipMembers, hmember]
    dsimp only
    rw [if_pos (by simp)]
    simp
  | cons q qs ih =>
    intro acc fuel hfuel hsum
    obtain ⟨f, rfl⟩ : ∃ f, fuel = f + 1 := ⟨fuel - 1, by simp at hfuel; omega⟩
    simp only [List.map_cons, List.sum_cons] at hsum
    have hmember := @inflateGzipMember_gzipStored (limit - acc.size) p (by omega)
      ((q :: qs).flatMap gzipStored)
    have hmore : ((q :: qs).flatMap gzipStored).toByteArray.size ≠ 0 := by
      have := length_gzipStored_pos q
      rw [List.size_toByteArray, List.flatMap_cons, List.length_append]
      omega
    have hwithin : ¬ (acc ++ p.toByteArray).size > limit := by
      simp
      omega
    rw [List.flatMap_cons, inflateGzipMembers, hmember]
    dsimp only
    rw [if_neg (by simp only [hmore, hwithin, decide_false, Bool.or_false]; decide),
      ih q (acc ++ p.toByteArray) f (by simp at hfuel; omega)
        (by simp only [List.map_cons, List.sum_cons, ByteArray.size_append, List.size_toByteArray]; omega)]
    simp [ByteArray.append_assoc]

/-- The gzip reader gives back what stored members hold, one after another, when it all fits
within the limit. -/
theorem inflateGzip_members {limit : Nat} (parts : List Bytes)
    (hparts : (parts.map List.length).sum ≤ limit) :
    inflateGzip limit (parts.flatMap gzipStored).toByteArray =
      .complete parts.flatten.toByteArray ByteArray.empty := by
  cases parts with
  | nil => rfl
  | cons p ps =>
    -- every member takes at least one octet, so there is fuel for each
    have hlen : ∀ l : List Bytes, l.length ≤ (l.flatMap gzipStored).length := by
      intro l
      induction l with
      | nil => simp
      | cons q l ih =>
        have := length_gzipStored_pos q
        simp only [List.flatMap_cons, List.length_append, List.length_cons]
        omega
    have hfuel : ps.length < ((p :: ps).flatMap gzipStored).toByteArray.size := by
      have := hlen (p :: ps)
      rw [List.size_toByteArray]
      simp only [List.length_cons] at this
      omega
    unfold inflateGzip
    rw [inflateGzipMembers_stored p ps _ _ hfuel (by simpa using hparts), ByteArray.empty_append]

end Dissect.Deflate
