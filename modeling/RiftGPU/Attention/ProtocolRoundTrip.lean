import RiftGPU.Attention.Protocol

/-!
# The attention control message is an exact bijection

Every accepted control record is encoded to one message that decodes to the same record, and
every accepted message is the encoding of the record it decodes to. Both directions go through
`controlBytes`, the fifteen fields of the message written one behind the other: the encoder
fills a zeroed buffer with exactly these bytes, and the decoder accepts a message only when it
is of this form.

## Main results

* `Attention.encodeControl_eq_ok_iff`: what the encoder accepts and yields.
* `Attention.decodeControl_eq_ok_iff`: what the decoder accepts and yields.
* `Attention.decodeControl_eq_ok_iff_encodeControl`: decoding and encoding are inverse.
* `Attention.control_format_bijective`: the control format is an exact bijection.
-/

namespace RiftGPU.Attention

open Bytes

/-- The fields of the message of a control record, one behind the other. -/
def controlBytes (control : AttentionControl) : List Byte :=
  toLe attentionMagic ++ (toLe attentionProtocolVersion ++
    (toLe (BitVec.ofNat 16 attentionHeaderLen) ++ (toLe control.flags ++
    (toLe control.dataType.toRaw ++ (toLe control.batch ++ (toLe control.queryHeads ++
    (toLe control.kvHeads ++ (toLe control.queryLen ++ (toLe control.kvLen ++
    (toLe control.headDim ++ (toLe control.scale ++ (toLe control.deviceIndex ++
    (toLe attentionResourceCount ++ (toLe 0#32 ++ toLe 0#64))))))))))))))

@[simp] theorem length_controlBytes (control : AttentionControl) :
    (controlBytes control).length = attentionHeaderLen := by
  simp [controlBytes, attentionHeaderLen]

/-! ### The encoder -/

/-- The encoder accepts exactly the valid controls and yields their fields in order. -/
theorem encodeControl_eq_ok_iff {control : AttentionControl} {bytes : List Byte} :
    encodeControl control = .ok bytes ↔
      control.validate = .ok () ∧ bytes = controlBytes control := by
  have hzero : List.replicate attentionHeaderLen 0#8 =
      [] ++ List.replicate attentionHeaderLen 0#8 := rfl
  unfold encodeControl
  rw [Except.bind_eq_ok_iff, hzero]
  simp only [writeU16, writeU32, writeU64]
  simp (disch := simp) only [splice_zeros]
  simp only [length_toLe, attentionHeaderLen, Nat.reduceDiv, Nat.reduceSub, List.replicate_zero,
    List.append_nil, List.nil_append, List.append_assoc, Except.pure_eq_ok_iff]
  constructor
  · rintro ⟨_, hvalid, rfl⟩
    exact ⟨hvalid, rfl⟩
  · rintro ⟨hvalid, rfl⟩
    exact ⟨(), hvalid, rfl⟩

/-! ### The decoder -/

/-- `input` is a well-formed message that carries the fields of `control`. -/
structure IsMessageOf (input : List Byte) (control : AttentionControl) : Prop where
  length_eq : input.length = attentionHeaderLen
  magic : readU32 input 0 = attentionMagic
  version : readU16 input 4 = attentionProtocolVersion
  headerLen : (readU16 input 6).toNat = attentionHeaderLen
  resourceCount : readU32 input 48 = attentionResourceCount
  reserved : readU32 input 52 = 0#32 ∧ readU64 input 56 = 0#64
  flags : control.flags = readU32 input 8
  dataType : control.dataType.toRaw = readU32 input 12
  batch : control.batch = readU32 input 16
  queryHeads : control.queryHeads = readU32 input 20
  kvHeads : control.kvHeads = readU32 input 24
  queryLen : control.queryLen = readU32 input 28
  kvLen : control.kvLen = readU32 input 32
  headDim : control.headDim = readU32 input 36
  scale : control.scale = readU32 input 40
  deviceIndex : control.deviceIndex = readU32 input 44

/-- The decoder accepts exactly the well-formed messages of valid controls. -/
theorem decodeControl_eq_ok_iff {input : List Byte} {control : AttentionControl} :
    decodeControl input = .ok control ↔
      IsMessageOf input control ∧ control.validate = .ok () := by
  unfold decodeControl
  simp only [Except.rejectIf_bind_eq_ok_iff, not_or, not_not, ne_eq]
  simp only [Except.bind_eq_ok_iff, AttentionDataType.fromRaw_eq_ok_iff, Except.pure_eq_ok_iff]
  constructor
  · rintro ⟨hlen, hmagic, hversion, hheader, hcount, hres, dataType, htag, _, hvalid, rfl⟩
    exact ⟨⟨hlen, hmagic, hversion, hheader, hcount, hres, rfl, htag.symm, rfl, rfl, rfl, rfl,
      rfl, rfl, rfl, rfl⟩, hvalid⟩
  · rintro ⟨h, hvalid⟩
    refine ⟨h.length_eq, h.magic, h.version, h.headerLen, h.resourceCount, h.reserved,
      control.dataType, h.dataType.symm, (), ?_⟩
    rw [← h.flags, ← h.batch, ← h.queryHeads, ← h.kvHeads, ← h.queryLen, ← h.kvLen, ← h.headDim,
      ← h.scale, ← h.deviceIndex]
    exact ⟨hvalid, rfl⟩

/-- The fields of a control, one behind the other, are a message of it. -/
theorem isMessageOf_controlBytes (control : AttentionControl) :
    IsMessageOf (controlBytes control) control := by
  constructor
  case length_eq => exact length_controlBytes control
  all_goals
    simp only [readU16, readU32, readU64, controlBytes]
    simp (disch := simp) only [slice_append_right, slice_append_left, slice_self, length_toLe,
      Nat.reduceDiv, Nat.reduceSub, ofLe_toLe, and_self]
  rfl

/-- A message of a control is its fields, one behind the other. -/
theorem IsMessageOf.eq_controlBytes {input : List Byte} {control : AttentionControl}
    (h : IsMessageOf input control) : input = controlBytes control := by
  have hlen := h.length_eq
  have hheader : BitVec.ofNat 16 attentionHeaderLen = readU16 input 6 := by
    rw [← h.headerLen, BitVec.ofNat_toNat, BitVec.setWidth_eq]
  rw [controlBytes, ← h.magic, ← h.version, hheader, ← h.resourceCount, ← h.reserved.1,
    ← h.reserved.2, h.flags, h.dataType, h.batch, h.queryHeads, h.kvHeads, h.queryLen, h.kvLen,
    h.headDim, h.scale, h.deviceIndex]
  simp only [readU16, readU32, readU64]
  simp (disch := simp [length_slice, hlen, attentionHeaderLen]) only [toLe_ofLe]
  -- Every byte of the message lies in exactly one field, so the fields join to the whole.
  simp (disch := rfl) only [slice_append_slice]
  exact (slice_self hlen).symm

/-! ### The bijection -/

/-- Decoding and encoding are inverse partial maps. -/
theorem decodeControl_eq_ok_iff_encodeControl {input : List Byte} {control : AttentionControl} :
    decodeControl input = .ok control ↔ encodeControl control = .ok input := by
  rw [encodeControl_eq_ok_iff, decodeControl_eq_ok_iff]
  constructor
  · rintro ⟨hmessage, hvalid⟩
    exact ⟨hvalid, hmessage.eq_controlBytes⟩
  · rintro ⟨hvalid, rfl⟩
    exact ⟨isMessageOf_controlBytes control, hvalid⟩

/-- **The control format is an exact bijection.** A valid control is encoded, and its message
decodes to it; a message that decodes yields a valid control whose encoding is that message, byte
for byte. Hence the decoder accepts exactly the image of the encoder, and no two messages decode
to one control. -/
theorem control_format_bijective :
    (∀ control : AttentionControl, control.validate = .ok () →
      ∃ bytes, encodeControl control = .ok bytes ∧ decodeControl bytes = .ok control) ∧
    (∀ (bytes : List Byte) (control : AttentionControl), decodeControl bytes = .ok control →
      control.validate = .ok () ∧ encodeControl control = .ok bytes) ∧
    (∀ bytes : List Byte, (∃ control, decodeControl bytes = .ok control) ↔
      ∃ control, encodeControl control = .ok bytes) ∧
    (∀ (bytes bytes' : List Byte) (control : AttentionControl),
      decodeControl bytes = .ok control → decodeControl bytes' = .ok control →
        bytes = bytes') := by
  refine ⟨fun control hvalid => ?_, fun bytes control h => ?_, fun bytes => ?_,
    fun bytes bytes' control h h' => ?_⟩
  · have hencode := encodeControl_eq_ok_iff.mpr ⟨hvalid, rfl⟩
    exact ⟨controlBytes control, hencode, decodeControl_eq_ok_iff_encodeControl.mpr hencode⟩
  · have hencode := decodeControl_eq_ok_iff_encodeControl.mp h
    exact ⟨(encodeControl_eq_ok_iff.mp hencode).1, hencode⟩
  · exact exists_congr fun control => decodeControl_eq_ok_iff_encodeControl
  · rw [decodeControl_eq_ok_iff] at h h'
    rw [h.1.eq_controlBytes, h'.1.eq_controlBytes]

/-- A causal half-precision control with grouped heads. -/
def groupedControl : AttentionControl :=
  { flags := flagCausal
    dataType := .f16
    batch := 2#32
    queryHeads := 8#32
    kvHeads := 2#32
    queryLen := 16#32
    kvLen := 32#32
    headDim := 64#32
    scale := 0x3e000000#32
    deviceIndex := 0#32 }

theorem control_format_bijective_grouped :
    groupedControl.validate = .ok () ∧
      ∃ bytes, encodeControl groupedControl = .ok bytes ∧
        decodeControl bytes = .ok groupedControl :=
  ⟨rfl, control_format_bijective.1 groupedControl rfl⟩

end RiftGPU.Attention
