import RiftGPU.Gemm.Protocol

/-!
# Encoding and decoding of GEMM requests are inverse up to the reserved word

A request message is its ten header fields followed by the elements of its matrices. The encoder
and the decoder compute the sizes of the parts separately; both are shown to accept exactly the
requests whose matrices have the sizes their dimensions imply and whose message length fits 64
bits (`GemmRequest.WellSized`), and both are shown to relate such a request to the same bytes
(`requestBytes`). The only freedom is the reserved word, which the decoder ignores and the
encoder sets to zero.

## Main results

* `Gemm.inspectRequest_eq_ok_iff`: what the header check accepts and yields.
* `Gemm.encodeRequest_eq_ok_iff`, `Gemm.decodeRequest_eq_ok_iff`: what the encoder and the
  decoder accept and yield.
-/

namespace RiftGPU.Gemm

open Bytes

/-! ### Sizes -/

theorem checkedElements_eq_ok_iff {rows columns elements : BitVec 64} {label : String} :
    checkedElements rows columns label = .ok elements ↔
      elements.toNat = rows.toNat * columns.toNat := by
  rw [checkedElements, Option.okOr_eq_ok_iff, BitVec.checkedMul_eq_some_iff]

theorem payloadElements_eq_some_iff {a b c elements : BitVec 64} {hasC : Bool} :
    payloadElements a b c hasC = some elements ↔
      elements.toNat = a.toNat + b.toNat + if hasC then c.toNat else 0 := by
  rw [payloadElements, Option.bind_eq_some_iff]
  cases hasC with
  | false =>
    simp only [BitVec.checkedAdd_eq_some_iff, Bool.false_eq_true, if_false, Nat.add_zero,
      Option.some.injEq]
    constructor
    · rintro ⟨_, hsum, rfl⟩
      exact hsum
    · intro hsum
      exact ⟨elements, hsum, rfl⟩
  | true =>
    simp only [BitVec.checkedAdd_eq_some_iff, if_true]
    constructor
    · rintro ⟨_, hsum, htotal⟩
      rw [htotal, hsum]
    · intro htotal
      have hlt : a.toNat + b.toNat < 2 ^ 64 := by
        have := elements.isLt
        omega
      refine ⟨BitVec.ofNat 64 (a.toNat + b.toNat), ?_, ?_⟩
      · rw [BitVec.toNat_ofNat, Nat.mod_eq_of_lt hlt]
      · rw [BitVec.toNat_ofNat, Nat.mod_eq_of_lt hlt, htotal]

theorem validateSliceLen_eq_ok_iff {matrix : String} {expected : BitVec 64} {actual : ℕ}
    {u : Unit} : validateSliceLen matrix expected actual = .ok u ↔ expected.toNat = actual := by
  simp only [validateSliceLen, Except.bind_eq_ok_iff, Option.okOr_eq_ok_iff,
    BitVec.tryOfNat_eq_some_iff, Except.rejectIf_eq_ok_iff, ne_eq, not_not]
  constructor
  · rintro ⟨_, hactual, rfl⟩
    exact hactual
  · intro h
    exact ⟨expected, h, rfl⟩

/-! ### Fields of a message that is long enough -/

theorem readArray_of_le {n offset : ℕ} {input : List Byte} (hle : offset + n ≤ input.length)
    (hlt : offset + n < 2 ^ 64) : readArray n input offset = .ok (slice input offset n) := by
  rw [readArray, Usize.checkedAdd_of_lt hlt, Option.okOr_some, Except.ok_bind,
    Except.rejectIf_of_not (by omega)]
  rfl

theorem readU32_of_le {offset : ℕ} {input : List Byte} (hle : offset + 4 ≤ input.length)
    (hlt : offset + 4 < 2 ^ 64) : readU32 input offset = .ok (ofLe 32 (slice input offset 4)) := by
  rw [readU32, readArray_of_le hle hlt]
  rfl

theorem readU64_of_le {offset : ℕ} {input : List Byte} (hle : offset + 8 ≤ input.length)
    (hlt : offset + 8 < 2 ^ 64) : readU64 input offset = .ok (ofLe 64 (slice input offset 8)) := by
  rw [readU64, readArray_of_le hle hlt]
  rfl

theorem readF32_of_le {offset : ℕ} {input : List Byte} (hle : offset + 4 ≤ input.length)
    (hlt : offset + 4 < 2 ^ 64) : readF32 input offset = .ok (ofLe 32 (slice input offset 4)) := by
  rw [readF32, readArray_of_le hle hlt]
  rfl

/-- The element loop reads the words that lie at its cursor. The induction is on the words; the
bytes already read move to the front. -/
theorem readF32Loop_append {values : List F32} {front back : List Byte} {acc : List F32}
    (hlt : (front ++ (wordsLe values ++ back)).length < 2 ^ 64) :
    readF32Loop (front ++ (wordsLe values ++ back)) values.length front.length acc =
      .ok (acc ++ values, front.length + 4 * values.length) := by
  induction values generalizing front acc with
  | nil => simp [readF32Loop]
  | cons v vs ih =>
    have hsplit : front ++ (wordsLe (v :: vs) ++ back) =
        (front ++ toLe v) ++ (wordsLe vs ++ back) := by
      rw [wordsLe_cons, List.append_assoc, List.append_assoc]
    have hlen : front.length + 4 ≤ (front ++ (wordsLe (v :: vs) ++ back)).length := by
      simp only [List.length_append, length_wordsLe, List.length_cons, Nat.reduceDiv]
      omega
    have hread : slice (front ++ (wordsLe (v :: vs) ++ back)) front.length 4 = toLe v := by
      rw [slice_append_right (le_refl _), Nat.sub_self, wordsLe_cons, List.append_assoc,
        slice_append_left (length_toLe v)]
    rw [List.length_cons, readF32Loop, readF32_of_le hlen (by omega), hread,
      ofLe_toLe (by norm_num), Except.ok_bind, Usize.checkedAdd_of_lt (by omega),
      Option.okOr_some, Except.ok_bind, hsplit]
    have hcursor : front.length + 4 = (front ++ toLe v).length := by
      rw [List.length_append, length_toLe]
    rw [hcursor, ih (by rwa [← hsplit])]
    rw [List.append_assoc, List.singleton_append, List.length_append, length_toLe]
    congr 2
    omega

/-! ### The bytes of a request -/

/-- The length of the message of a request. -/
def GemmRequest.messageLen (request : GemmRequest) : ℕ :=
  gemmRequestHeaderLen + 4 * (request.a.length + request.b.length + (request.c.getD []).length)

/-- The matrices have the sizes that the dimensions imply, and every size that the protocol
computes fits 64 bits. -/
structure GemmRequest.WellSized (request : GemmRequest) : Prop where
  a_length : request.a.length = request.m.toNat * request.k.toNat
  b_length : request.b.length = request.k.toNat * request.n.toNat
  c_length : ∀ c ∈ request.c, c.length = request.m.toNat * request.n.toNat
  c_lt : request.m.toNat * request.n.toNat < 2 ^ 64
  messageLen_lt : request.messageLen < 2 ^ 64

/-- The flags word: the presence of C. -/
def requestFlags (hasC : Bool) : BitVec 32 := if hasC then gemmFlagHasC else 0#32

/-- The header of the message of a request, with an arbitrary reserved word. -/
def requestHeader (request : GemmRequest) (reserved : BitVec 32) : List Byte :=
  gemmRequestMagic ++ (toLe gemmProtocolVersion ++
    (toLe (BitVec.ofNat 32 gemmRequestHeaderLen) ++ (toLe (requestFlags request.c.isSome) ++
    (toLe reserved ++ (toLe request.m ++ (toLe request.n ++ (toLe request.k ++
    (toLe request.alpha ++ toLe request.beta))))))))

/-- The message of a request, with an arbitrary reserved word. -/
def requestBytes (request : GemmRequest) (reserved : BitVec 32) : List Byte :=
  requestHeader request reserved ++
    (wordsLe request.a ++ (wordsLe request.b ++ wordsLe (request.c.getD [])))

@[simp] theorem length_gemmRequestMagic : gemmRequestMagic.length = 8 := by decide

@[simp] theorem length_requestHeader (request : GemmRequest) (reserved : BitVec 32) :
    (requestHeader request reserved).length = gemmRequestHeaderLen := by
  simp [requestHeader, gemmRequestHeaderLen]

theorem length_requestBytes (request : GemmRequest) (reserved : BitVec 32) :
    (requestBytes request reserved).length = request.messageLen := by
  simp only [requestBytes, List.length_append, length_requestHeader, length_wordsLe,
    GemmRequest.messageLen, Nat.reduceDiv]
  omega

theorem GemmRequest.WellSized.c_getD_length {request : GemmRequest} (h : request.WellSized) :
    (request.c.getD []).length =
      if request.c.isSome then request.m.toNat * request.n.toNat else 0 := by
  cases hc : request.c with
  | none => rfl
  | some c => exact h.c_length c hc

/-! ### The encoder -/

/-- The check of the optional matrix C. -/
private theorem validate_c_eq_ok_iff {c : Option (List F32)} {elements : BitVec 64} {u : Unit} :
    (c.elim (.ok ()) fun c => validateSliceLen "C" elements c.length) = .ok u ↔
      ∀ c' ∈ c, elements.toNat = c'.length := by
  cases c with
  | none => simp
  | some c => simp [validateSliceLen_eq_ok_iff]

/-- Writing the optional matrix C appends its elements. -/
private theorem elim_write_eq (c : Option (List F32)) (output : List Byte) :
    c.elim output (writeF32Values output) = output ++ wordsLe (c.getD []) := by
  cases c with
  | none => simp
  | some c => exact foldl_append_toLe c output

/-- The encoder accepts exactly the well-sized requests and yields their message with a zero
reserved word. -/
theorem encodeRequest_eq_ok_iff {request : GemmRequest} {bytes : List Byte} :
    encodeRequest request = .ok bytes ↔
      request.WellSized ∧ bytes = requestBytes request 0#32 := by
  simp only [encodeRequest, Except.bind_eq_ok_iff, checkedElements_eq_ok_iff,
    validateSliceLen_eq_ok_iff, validate_c_eq_ok_iff, Option.okOr_eq_ok_iff,
    payloadElements_eq_some_iff, BitVec.checkedMul_eq_some_iff, BitVec.checkedAdd_eq_some_iff,
    elim_write_eq, Except.pure_eq_ok_iff]
  have hf32 : f32Bytes.toNat = 4 := rfl
  have hheader : (BitVec.ofNat 64 gemmRequestHeaderLen).toNat = gemmRequestHeaderLen := rfl
  have hbytes : requestBytes request 0#32 =
      writeF32Values (writeF32Values (gemmRequestMagic ++ toLe gemmProtocolVersion ++
        toLe (BitVec.ofNat 32 gemmRequestHeaderLen) ++
        toLe (if request.c.isSome then gemmFlagHasC else 0#32) ++ toLe 0#32 ++ toLe request.m ++
        toLe request.n ++ toLe request.k ++ toLe request.alpha ++ toLe request.beta)
        request.a) request.b ++ wordsLe (request.c.getD []) := by
    simp only [requestBytes, requestHeader, requestFlags, writeF32Values, foldl_append_toLe,
      List.append_assoc]
  constructor
  · rintro ⟨aElements, ha, bElements, hb, cElements, hc, _, ha', _, hb', _, hc', elements,
      helements, payload, hpayload, total, htotal, rfl⟩
    have hlen : (request.c.getD []).length = if request.c.isSome then cElements.toNat else 0 := by
      cases hreq : request.c with
      | none => rfl
      | some c => exact (hc' c hreq).symm
    refine ⟨⟨by rw [← ha', ha], by rw [← hb', hb], fun c hmem => by rw [← hc' c hmem, hc],
      by rw [← hc]; exact cElements.isLt, ?_⟩, hbytes.symm⟩
    have hlt := total.isLt
    rw [htotal, hheader, hpayload, hf32, helements, ha', hb', ← hlen] at hlt
    rw [GemmRequest.messageLen]
    omega
  · rintro ⟨h, rfl⟩
    have hlt := h.messageLen_lt
    rw [GemmRequest.messageLen, h.a_length, h.b_length, h.c_getD_length] at hlt
    obtain ⟨aElements, ha⟩ := BitVec.exists_toNat_eq
      (show request.m.toNat * request.k.toNat < 2 ^ 64 by omega)
    obtain ⟨bElements, hb⟩ := BitVec.exists_toNat_eq
      (show request.k.toNat * request.n.toNat < 2 ^ 64 by omega)
    obtain ⟨cElements, hc⟩ := BitVec.exists_toNat_eq h.c_lt
    rw [← ha, ← hb, ← hc] at hlt
    obtain ⟨elements, helements⟩ := BitVec.exists_toNat_eq (w := 64)
      (show aElements.toNat + bElements.toNat +
        (if request.c.isSome then cElements.toNat else 0) < 2 ^ 64 by omega)
    obtain ⟨payload, hpayload⟩ := BitVec.exists_toNat_eq (w := 64)
      (show elements.toNat * 4 < 2 ^ 64 by omega)
    obtain ⟨total, htotal⟩ := BitVec.exists_toNat_eq (w := 64)
      (show gemmRequestHeaderLen + payload.toNat < 2 ^ 64 by omega)
    exact ⟨aElements, ha, bElements, hb, cElements, hc, (), ha.trans h.a_length.symm, (),
      hb.trans h.b_length.symm, (), fun c hmem => hc.trans (h.c_length c hmem).symm, elements,
      helements, payload, hpayload, total, htotal, hbytes.symm⟩

/-! ### The header check -/

/-- `header` is read from the header of `input`, the constant fields of the header are the
specified ones, the sizes are exact, and the message has the length they imply. -/
structure IsRequestHeader (input : List Byte) (header : GemmRequestMeta) : Prop where
  length_le : gemmRequestHeaderLen ≤ input.length
  magic : slice input 0 8 = gemmRequestMagic
  version : ofLe 32 (slice input 8 4) = gemmProtocolVersion
  headerLen : (ofLe 32 (slice input 12 4)).toNat = gemmRequestHeaderLen
  flags : ofLe 32 (slice input 16 4) = requestFlags header.hasC
  m : header.m = ofLe 64 (slice input 24 8)
  n : header.n = ofLe 64 (slice input 32 8)
  k : header.k = ofLe 64 (slice input 40 8)
  alpha : header.alpha = ofLe 32 (slice input 48 4)
  beta : header.beta = ofLe 32 (slice input 52 4)
  aElements : header.aElements.toNat = header.m.toNat * header.k.toNat
  bElements : header.bElements.toNat = header.k.toNat * header.n.toNat
  cElements : header.cElements.toNat = header.m.toNat * header.n.toNat
  encodedLen : header.encodedLen.toNat = gemmRequestHeaderLen + 4 * (header.aElements.toNat +
    header.bElements.toNat + if header.hasC then header.cElements.toNat else 0)
  length_eq : input.length = header.encodedLen.toNat

/-- A word whose only possible bit is the lowest is the word of that bit. -/
private theorem flags_eq {flags : BitVec 32} (h : flags &&& ~~~gemmKnownFlags = 0#32) :
    flags = requestFlags (flags &&& gemmFlagHasC != 0#32) := by
  have hsplit : flags = flags &&& gemmFlagHasC := by
    apply BitVec.eq_of_getLsbD_eq
    intro i hi
    have hbit := congrArg (fun v : BitVec 32 => v.getLsbD i) h
    simp only [BitVec.getLsbD_and, BitVec.getLsbD_not, hi, decide_true, Bool.true_and,
      BitVec.getLsbD_zero, gemmKnownFlags] at hbit
    rw [BitVec.getLsbD_and]
    cases hf : flags.getLsbD i <;> simp_all
  have hmask : flags &&& gemmFlagHasC = 0#32 ∨ flags &&& gemmFlagHasC = gemmFlagHasC := by
    rw [gemmFlagHasC, BitVec.and_one_eq_setWidth_ofBool_getLsbD]
    cases flags.getLsbD 0
    · exact Or.inl rfl
    · exact Or.inr rfl
  rcases hmask with hmask | hmask
  · rw [hmask] at hsplit ⊢
    exact hsplit
  · rw [hmask] at hsplit ⊢
    exact hsplit

private theorem requestFlags_known (hasC : Bool) :
    requestFlags hasC &&& ~~~gemmKnownFlags = 0#32 := by
  cases hasC <;> rfl

private theorem requestFlags_hasC (hasC : Bool) :
    (requestFlags hasC &&& gemmFlagHasC != 0#32) = hasC := by
  cases hasC <;> rfl

/-- The header check accepts exactly the messages with a request header and yields its fields. -/
theorem inspectRequest_eq_ok_iff {input : List Byte} {header : GemmRequestMeta} :
    inspectRequest input = .ok header ↔ IsRequestHeader input header := by
  have hf32 : f32Bytes.toNat = 4 := rfl
  have hconst : (BitVec.ofNat 64 gemmRequestHeaderLen).toNat = gemmRequestHeaderLen := rfl
  rw [inspectRequest, requireLen, Except.rejectIf_bind_eq_ok_iff, not_lt]
  constructor
  · rintro ⟨hle, h⟩
    have hle' : 56 ≤ input.length := hle
    simp (disch := omega) only [readU32_of_le, readU64_of_le, readF32_of_le, Except.ok_bind,
      Except.rejectIf_bind_eq_ok_iff, ne_eq, not_not] at h
    obtain ⟨hmagic, hversion, hheader, hflags, h⟩ := h
    simp only [Except.bind_eq_ok_iff, checkedElements_eq_ok_iff, Option.okOr_eq_ok_iff,
      payloadElements_eq_some_iff, BitVec.checkedMul_eq_some_iff, BitVec.checkedAdd_eq_some_iff,
      BitVec.tryOfNat_eq_some_iff, Except.rejectIf_eq_ok_iff, not_not,
      Except.pure_eq_ok_iff] at h
    obtain ⟨aElements, ha, bElements, hb, cElements, hc, elements, helements, payload, hpayload,
      total, htotal, actual, hactual, _, rfl, rfl⟩ := h
    refine ⟨hle, hmagic, hversion, hheader, flags_eq hflags, rfl, rfl, rfl, rfl, rfl, ha, hb, hc,
      ?_, hactual.symm⟩
    dsimp only
    rw [htotal, hconst, hpayload, hf32, helements, Nat.mul_comm 4]
  · intro h
    have hle : 56 ≤ input.length := h.length_le
    refine ⟨h.length_le, ?_⟩
    simp (disch := omega) only [readU32_of_le, readU64_of_le, readF32_of_le, Except.ok_bind,
      Except.rejectIf_bind_eq_ok_iff, ne_eq, not_not]
    refine ⟨h.magic, h.version, h.headerLen, ?_, ?_⟩
    · rw [h.flags]
      exact requestFlags_known _
    rw [h.flags, requestFlags_hasC, ← h.m, ← h.n, ← h.k, ← h.alpha, ← h.beta]
    simp only [Except.bind_eq_ok_iff, checkedElements_eq_ok_iff, Option.okOr_eq_ok_iff,
      payloadElements_eq_some_iff, BitVec.checkedMul_eq_some_iff, BitVec.checkedAdd_eq_some_iff,
      BitVec.tryOfNat_eq_some_iff, Except.rejectIf_eq_ok_iff, not_not, Except.pure_eq_ok_iff]
    have hlt := header.encodedLen.isLt
    have hlen := h.encodedLen
    rw [hlen] at hlt
    obtain ⟨elements, helements⟩ := BitVec.exists_toNat_eq (w := 64)
      (show header.aElements.toNat + header.bElements.toNat +
        (if header.hasC then header.cElements.toNat else 0) < 2 ^ 64 by omega)
    obtain ⟨payload, hpayload⟩ := BitVec.exists_toNat_eq (w := 64)
      (show elements.toNat * 4 < 2 ^ 64 by omega)
    refine ⟨header.aElements, h.aElements, header.bElements, h.bElements, header.cElements,
      h.cElements, elements, helements, payload, hpayload, header.encodedLen, ?_,
      header.encodedLen, h.length_eq.symm, (), rfl, rfl⟩
    rw [hlen, hconst, hpayload, helements, Nat.mul_comm 4]

/-! ### The decoder -/

/-- The header fields of the message of a request. -/
def GemmRequest.header (request : GemmRequest) : GemmRequestMeta where
  m := request.m
  n := request.n
  k := request.k
  alpha := request.alpha
  beta := request.beta
  hasC := request.c.isSome
  aElements := BitVec.ofNat 64 (request.m.toNat * request.k.toNat)
  bElements := BitVec.ofNat 64 (request.k.toNat * request.n.toNat)
  cElements := BitVec.ofNat 64 (request.m.toNat * request.n.toNat)
  encodedLen := BitVec.ofNat 64 request.messageLen

/-- What the decoder yields for the message of a request. -/
def GemmRequest.decoded (request : GemmRequest) : DecodedGemmRequest where
  requestMeta := request.header
  a := request.a
  b := request.b
  c := request.c

theorem GemmRequest.WellSized.toNat_elements {request : GemmRequest} (h : request.WellSized) :
    request.header.aElements.toNat = request.a.length ∧
    request.header.bElements.toNat = request.b.length ∧
    request.header.cElements.toNat = request.m.toNat * request.n.toNat ∧
    request.header.encodedLen.toNat = request.messageLen := by
  have hlt := h.messageLen_lt
  have hlt' := hlt
  rw [GemmRequest.messageLen] at hlt'
  simp only [GemmRequest.header, BitVec.toNat_ofNat, ← h.a_length, ← h.b_length]
  exact ⟨Nat.mod_eq_of_lt (by omega), Nat.mod_eq_of_lt (by omega), Nat.mod_eq_of_lt h.c_lt,
    Nat.mod_eq_of_lt hlt⟩

/-- The message of a well-sized request has the header of that request. -/
theorem GemmRequest.WellSized.isRequestHeader {request : GemmRequest} (h : request.WellSized)
    (reserved : BitVec 32) :
    IsRequestHeader (requestBytes request reserved) request.header := by
  obtain ⟨ha, hb, hc, hlen⟩ := h.toNat_elements
  constructor
  case length_le =>
    rw [length_requestBytes, GemmRequest.messageLen]
    omega
  case aElements => rw [ha, h.a_length]; rfl
  case bElements => rw [hb, h.b_length]; rfl
  case cElements => exact hc
  case encodedLen =>
    rw [hlen, ha, hb, hc, GemmRequest.messageLen, h.c_getD_length]
    rfl
  case length_eq => rw [length_requestBytes, hlen]
  all_goals
    simp only [requestBytes, requestHeader, List.append_assoc]
    simp (disch := simp) only [slice_append_right, slice_append_left, length_toLe,
      length_gemmRequestMagic, Nat.reduceDiv, Nat.reduceSub, ofLe_toLe]
    try rfl

/-- The matrices that a message with a request header carries behind its header. -/
private theorem IsRequestHeader.exists_payload {input : List Byte} {header : GemmRequestMeta}
    (h : IsRequestHeader input header) :
    ∃ (a b : List F32) (c : Option (List F32)), a.length = header.aElements.toNat ∧
      b.length = header.bElements.toNat ∧ c.isSome = header.hasC ∧
      (∀ c' ∈ c, c'.length = header.cElements.toNat) ∧
      input.drop gemmRequestHeaderLen = wordsLe a ++ (wordsLe b ++ wordsLe (c.getD [])) := by
  have hlen : (input.drop gemmRequestHeaderLen).length = 32 / 8 * (header.aElements.toNat +
      header.bElements.toNat + if header.hasC then header.cElements.toNat else 0) := by
    rw [List.length_drop, h.length_eq, h.encodedLen, Nat.add_sub_cancel_left]
  obtain ⟨words, hwords, hdrop⟩ := exists_wordsLe (by norm_num) hlen
  refine ⟨words.take header.aElements.toNat,
    (words.drop header.aElements.toNat).take header.bElements.toNat,
    if header.hasC then
      some ((words.drop header.aElements.toNat).drop header.bElements.toNat) else none,
    ?_, ?_, ?_, ?_, ?_⟩
  · rw [List.length_take]
    omega
  · rw [List.length_take, List.length_drop]
    omega
  · cases header.hasC <;> rfl
  · intro c' hc'
    cases hC : header.hasC with
    | false => simp [hC] at hc'
    | true =>
      simp only [hC, if_true, Option.mem_some_iff] at hc' hwords
      rw [← hc', List.length_drop, List.length_drop]
      omega
  · have hrest : (if header.hasC then
          some ((words.drop header.aElements.toNat).drop header.bElements.toNat)
          else none).getD [] =
        (words.drop header.aElements.toNat).drop header.bElements.toNat := by
      cases hC : header.hasC with
      | true => rfl
      | false =>
        simp only [hC, Bool.false_eq_true, if_false] at hwords ⊢
        rw [List.drop_drop, List.drop_of_length_le (by omega)]
        rfl
    rw [hrest, hdrop]
    simp only [wordsLe, ← List.flatMap_append, List.take_append_drop]

/-- A message with a request header is the message of a well-sized request. -/
theorem IsRequestHeader.exists_request {input : List Byte} {header : GemmRequestMeta}
    (h : IsRequestHeader input header) :
    ∃ (request : GemmRequest) (reserved : BitVec 32), request.WellSized ∧
      request.header = header ∧ input = requestBytes request reserved := by
  obtain ⟨a, b, c, ha, hb, hsome, hc, hdrop⟩ := h.exists_payload
  have hclen : (c.getD []).length = if header.hasC then header.cElements.toNat else 0 := by
    rw [← hsome]
    cases hcase : c with
    | none => rfl
    | some c' => exact hc c' hcase
  have hmessage : header.encodedLen.toNat =
      gemmRequestHeaderLen + 4 * (a.length + b.length + (c.getD []).length) := by
    rw [h.encodedLen, ha, hb, hclen]
  refine ⟨⟨header.m, header.n, header.k, header.alpha, header.beta, a, b, c⟩,
    ofLe 32 (slice input 20 4), ?_, ?_, ?_⟩
  · refine ⟨ha.trans h.aElements, hb.trans h.bElements, fun c' hmem => ?_, ?_, ?_⟩
    · exact (hc c' hmem).trans h.cElements
    · rw [← h.cElements]
      exact header.cElements.isLt
    · rw [GemmRequest.messageLen, ← hmessage]
      exact header.encodedLen.isLt
  · simp only [GemmRequest.header, GemmRequest.messageLen, hsome, ← h.aElements, ← h.bElements,
      ← h.cElements, ← hmessage, BitVec.ofNat_toNat, BitVec.setWidth_eq]
  · have hle : 56 ≤ input.length := h.length_le
    have hconst : BitVec.ofNat 32 gemmRequestHeaderLen = ofLe 32 (slice input 12 4) := by
      rw [← h.headerLen, BitVec.ofNat_toNat, BitVec.setWidth_eq]
    simp only [requestBytes, requestHeader, ← h.magic, ← h.version, hconst, hsome, ← h.flags, h.m,
      h.n, h.k, h.alpha, h.beta, ← hdrop]
    simp (disch := first | rfl | (rw [length_slice (by omega)])) only [toLe_ofLe]
    -- The header fields are the adjacent slices of the first 56 bytes.
    simp only [← List.append_assoc]
    simp (disch := rfl) only [slice_append_slice, Nat.reduceAdd]
    rw [gemmRequestHeaderLen, slice, List.drop_zero, List.take_append_drop]

/-- Reading `count` elements at a cursor where the bytes of that many elements lie. -/
theorem readF32Values_of_eq {input : List Byte} {values : List F32} {cursor : ℕ}
    {count : BitVec 64} (front back : List Byte)
    (hinput : input = front ++ (wordsLe values ++ back))
    (hcursor : cursor = front.length) (hcount : count.toNat = values.length)
    (hlt : input.length < 2 ^ 64) :
    readF32Values input cursor count = .ok (values, cursor + 4 * values.length) := by
  subst hinput hcursor
  rw [readF32Values, hcount, readF32Loop_append hlt, List.nil_append]

/-- The reads of the decoder: each matrix lies where the one before it ends, and the last one ends
with the message. -/
theorem GemmRequest.WellSized.reads {request : GemmRequest} (h : request.WellSized)
    (reserved : BitVec 32) :
    let bytes := requestBytes request reserved
    let cursorB := gemmRequestHeaderLen + 4 * request.a.length
    let cursorC := cursorB + 4 * request.b.length
    readF32Values bytes gemmRequestHeaderLen request.header.aElements =
        .ok (request.a, cursorB) ∧
      readF32Values bytes cursorB request.header.bElements = .ok (request.b, cursorC) ∧
      (∀ c ∈ request.c, readF32Values bytes cursorC request.header.cElements =
        .ok (c, cursorC + 4 * c.length)) ∧
      cursorC + 4 * (request.c.getD []).length = bytes.length := by
  intro bytes cursorB cursorC
  have hlt : bytes.length < 2 ^ 64 := by
    rw [length_requestBytes]
    exact h.messageLen_lt
  obtain ⟨ha, hb, hc, -⟩ := h.toNat_elements
  refine ⟨?_, ?_, fun c hmem => ?_, ?_⟩
  · exact readF32Values_of_eq _ _ rfl (length_requestHeader request reserved).symm ha hlt
  · exact readF32Values_of_eq (requestHeader request reserved ++ wordsLe request.a) _
      (by rw [List.append_assoc]; rfl) (by simp [cursorB]) hb hlt
  · have hcase : request.c = some c := hmem
    exact readF32Values_of_eq
      (requestHeader request reserved ++ (wordsLe request.a ++ wordsLe request.b)) []
      (by simp only [bytes, requestBytes, hcase, Option.getD_some, List.append_assoc,
        List.append_nil])
      (by simp [cursorC, cursorB, Nat.add_assoc]) (hc.trans (h.c_length c hmem).symm) hlt
  · rw [length_requestBytes, GemmRequest.messageLen]
    omega

/-- The decoder reads the matrices that the message of a well-sized request carries. -/
theorem decodeRequest_requestBytes {request : GemmRequest} (h : request.WellSized)
    (reserved : BitVec 32) :
    decodeRequest (requestBytes request reserved) = .ok request.decoded := by
  obtain ⟨hreadA, hreadB, hreadC, -⟩ := h.reads reserved
  rw [decodeRequest, inspectRequest_eq_ok_iff.mpr (h.isRequestHeader reserved), Except.ok_bind,
    hreadA, Except.ok_bind]
  dsimp only
  rw [hreadB, Except.ok_bind]
  dsimp only
  cases hcase : request.c with
  | none =>
    have hhas : request.header.hasC = false := by rw [GemmRequest.header, hcase]; rfl
    rw [hhas, GemmRequest.decoded, hcase]
    rfl
  | some c =>
    have hhas : request.header.hasC = true := by rw [GemmRequest.header, hcase]; rfl
    rw [hhas, if_pos rfl, hreadC c hcase, GemmRequest.decoded, hcase]
    rfl

/-- The decoder accepts exactly the messages of well-sized requests, whatever their reserved
word, and yields the request. -/
theorem decodeRequest_eq_ok_iff {input : List Byte} {decoded : DecodedGemmRequest} :
    decodeRequest input = .ok decoded ↔
      ∃ (request : GemmRequest) (reserved : BitVec 32), request.WellSized ∧
        input = requestBytes request reserved ∧ decoded = request.decoded := by
  constructor
  · intro h
    obtain ⟨header, hinspect, -⟩ := Except.bind_eq_ok_iff.mp h
    obtain ⟨request, reserved, hsized, -, rfl⟩ :=
      (inspectRequest_eq_ok_iff.mp hinspect).exists_request
    rw [decodeRequest_requestBytes hsized] at h
    exact ⟨request, reserved, hsized, rfl, (Except.ok.inj h).symm⟩
  · rintro ⟨request, reserved, hsized, rfl, rfl⟩
    exact decodeRequest_requestBytes hsized reserved

/-! ### The round trips -/

/-- The request whose fields a decoded request has. -/
def DecodedGemmRequest.request (decoded : DecodedGemmRequest) : GemmRequest where
  m := decoded.requestMeta.m
  n := decoded.requestMeta.n
  k := decoded.requestMeta.k
  alpha := decoded.requestMeta.alpha
  beta := decoded.requestMeta.beta
  a := decoded.a
  b := decoded.b
  c := decoded.c

@[simp] theorem GemmRequest.request_decoded (request : GemmRequest) :
    request.decoded.request = request := rfl

/-- Zeroing the reserved word of a message gives the message with a zero reserved word. -/
theorem splice_requestBytes (request : GemmRequest) (reserved : BitVec 32) :
    splice (requestBytes request reserved) 20 [0#8, 0#8, 0#8, 0#8] =
      requestBytes request 0#32 := by
  have hsplit (word : BitVec 32) : requestBytes request word =
      (gemmRequestMagic ++ (toLe gemmProtocolVersion ++
        (toLe (BitVec.ofNat 32 gemmRequestHeaderLen) ++ toLe (requestFlags request.c.isSome)))) ++
      (toLe word ++ (toLe request.m ++ (toLe request.n ++ (toLe request.k ++
        (toLe request.alpha ++ (toLe request.beta ++
        (wordsLe request.a ++ (wordsLe request.b ++ wordsLe (request.c.getD []))))))))) := by
    simp only [requestBytes, requestHeader, List.append_assoc]
  rw [hsplit reserved, hsplit 0#32, splice_append (by simp) (by simp)]
  rfl

/-- **Encoding and decoding of requests are mutually inverse up to the reserved word.** What the
encoder yields decodes to the fields of the request; and the fields of a message that decodes
are encoded to that message with the bytes 20 to 23 replaced by zeros. -/
theorem request_codec_inverse :
    (∀ (request : GemmRequest) (bytes : List Byte), encodeRequest request = .ok bytes →
      ∃ decoded, decodeRequest bytes = .ok decoded ∧
        decoded.requestMeta.m = request.m ∧ decoded.requestMeta.n = request.n ∧
        decoded.requestMeta.k = request.k ∧ decoded.requestMeta.alpha = request.alpha ∧
        decoded.requestMeta.beta = request.beta ∧ decoded.a = request.a ∧
        decoded.b = request.b ∧ decoded.c = request.c ∧
        decoded.requestMeta.hasC = request.c.isSome ∧
        decoded.requestMeta.encodedLen.toNat = bytes.length) ∧
    (∀ (bytes : List Byte) (decoded : DecodedGemmRequest), decodeRequest bytes = .ok decoded →
      encodeRequest decoded.request = .ok (splice bytes 20 [0#8, 0#8, 0#8, 0#8])) := by
  refine ⟨fun request bytes h => ?_, fun bytes decoded h => ?_⟩
  · obtain ⟨hsized, rfl⟩ := encodeRequest_eq_ok_iff.mp h
    refine ⟨request.decoded, decodeRequest_requestBytes hsized 0#32, rfl, rfl, rfl, rfl, rfl, rfl,
      rfl, rfl, rfl, ?_⟩
    rw [length_requestBytes]
    exact hsized.toNat_elements.2.2.2
  · obtain ⟨request, reserved, hsized, rfl, rfl⟩ := decodeRequest_eq_ok_iff.mp h
    rw [splice_requestBytes, GemmRequest.request_decoded]
    exact encodeRequest_eq_ok_iff.mpr ⟨hsized, rfl⟩

/-- A request of a one-by-two matrix with a C matrix. -/
def rowRequest : GemmRequest where
  m := 1#64
  n := 2#64
  k := 1#64
  alpha := 0x3f800000#32
  beta := 0x3f000000#32
  a := [0x40000000#32]
  b := [0x3f800000#32, 0x40400000#32]
  c := some [0x41200000#32, 0x41a00000#32]

/-- The same with `beta = 2`, so that all its numbers are integers. -/
def integerRequest : GemmRequest := { rowRequest with beta := 0x40000000#32 }

theorem wellSized_rowRequest : rowRequest.WellSized :=
  ⟨rfl, rfl, fun c hc => by cases hc; rfl, by decide, by decide⟩

theorem request_codec_inverse_row :
    (∃ decoded, decodeRequest (requestBytes rowRequest 0#32) = .ok decoded ∧
      decoded.requestMeta.hasC = true) ∧
    encodeRequest rowRequest.decoded.request =
      .ok (splice (requestBytes rowRequest 7#32) 20 [0#8, 0#8, 0#8, 0#8]) := by
  constructor
  · obtain ⟨decoded, hdecode, -, -, -, -, -, -, -, -, hhas, -⟩ := request_codec_inverse.1
      rowRequest (requestBytes rowRequest 0#32)
      (encodeRequest_eq_ok_iff.mpr ⟨wellSized_rowRequest, rfl⟩)
    exact ⟨decoded, hdecode, hhas⟩
  · exact request_codec_inverse.2 (requestBytes rowRequest 7#32) rowRequest.decoded
      (decodeRequest_requestBytes wellSized_rowRequest 7#32)

end RiftGPU.Gemm
