import RiftGPU.Gemm.SharedSizes

/-!
# Encoding and decoding the shared GEMM control message

The first 56 bytes of a control message carry the control record. The last eight are reserved: the
encoder writes zeros and the decoder does not look at them. Hence encoding followed by decoding
gives the record back, and decoding followed by encoding gives the message back with its reserved
bytes cleared.

## Main definitions

* `Gemm.controlHeader`: the fields of a control record in the order of the message.
* `Gemm.IsControlMessage`: a message of 64 bytes that carries the fields of a control record.

## Main results

* `Gemm.encodeControl_eq_ok_iff`, `Gemm.decodeControl_eq_ok_iff`: what is accepted and yielded.
* `Gemm.isControlMessage_iff`: a message is the header of its record and eight reserved bytes.
* `Gemm.control_round_trip`: both directions.
-/

namespace RiftGPU.Gemm

open Bytes

/-- The length of the reserved tail. -/
def sharedGemmReservedLen : ℕ := 8

/-- The fields of a control record, one behind the other. -/
def controlHeader (control : SharedGemmControl) : List Byte :=
  sharedGemmMagic ++ (toLe sharedGemmProtocolVersion ++
    (toLe (BitVec.ofNat 32 sharedGemmHeaderLen) ++ (toLe control.m ++ (toLe control.n ++
    (toLe control.k ++ (toLe control.alpha ++ (toLe control.beta ++
    (toLe control.hipDeviceIndex ++ toLe (BitVec.ofNat 32 sharedGemmResourceCount)))))))))

@[simp] theorem length_sharedGemmMagic : sharedGemmMagic.length = 8 := by decide

@[simp] theorem length_controlHeader (control : SharedGemmControl) :
    (controlHeader control).length = 56 := by
  simp [controlHeader]

variable {control : SharedGemmControl} {input bytes : List Byte}

/-- The encoder accepts the valid controls and yields their fields and eight zeros. -/
theorem encodeControl_eq_ok_iff : encodeControl control = .ok bytes ↔
    control.Valid ∧ bytes = controlHeader control ++ List.replicate sharedGemmReservedLen 0#8 := by
  simp only [encodeControl, Except.bind_eq_ok_iff, exists_const, validateControl_eq_ok_iff,
    Except.pure_eq_ok_iff, controlHeader, sharedGemmReservedLen, List.append_assoc]
  exact and_congr_right fun _ => eq_comm

/-- `input` has the length and the constant fields of a control message and carries the fields of
`control`. -/
structure IsControlMessage (input : List Byte) (control : SharedGemmControl) : Prop where
  length_eq : input.length = sharedGemmHeaderLen
  magic : slice input 0 8 = sharedGemmMagic
  version : readWord 32 input 8 = sharedGemmProtocolVersion
  headerLen : (readWord 32 input 12).toNat = sharedGemmHeaderLen
  resourceCount : readWord 32 input 52 = BitVec.ofNat 32 sharedGemmResourceCount
  m : control.m = readWord 64 input 16
  n : control.n = readWord 64 input 24
  k : control.k = readWord 64 input 32
  alpha : control.alpha = readWord 32 input 40
  beta : control.beta = readWord 32 input 44
  hipDeviceIndex : control.hipDeviceIndex = readWord 32 input 48

/-- The decoder accepts the messages of valid controls. -/
theorem decodeControl_eq_ok_iff : decodeControl input = .ok control ↔
    IsControlMessage input control ∧ control.Valid := by
  unfold decodeControl
  simp only [Except.rejectIf_bind_eq_ok_iff, not_not, ne_eq]
  simp only [Except.bind_eq_ok_iff, exists_const, validateControl_eq_ok_iff,
    Except.pure_eq_ok_iff]
  constructor
  · rintro ⟨-, hlen, hmagic, hversion, hheader, hcount, hvalid, rfl⟩
    exact ⟨⟨hlen, hmagic, hversion, hheader, hcount, rfl, rfl, rfl, rfl, rfl, rfl⟩, hvalid⟩
  · rintro ⟨h, hvalid⟩
    have hlong : ¬input.length < sharedGemmHeaderLen := by rw [h.length_eq]; exact lt_irrefl _
    refine ⟨hlong, h.length_eq, h.magic, h.version, h.headerLen, h.resourceCount, ?_⟩
    rw [← h.m, ← h.n, ← h.k, ← h.alpha, ← h.beta, ← h.hipDeviceIndex]
    exact ⟨hvalid, rfl⟩

/-! ### Messages as headers -/

/-- The header of a control, with any reserved bytes behind it, is a message of the control. -/
theorem isControlMessage_append (control : SharedGemmControl) {reserved : List Byte}
    (h : reserved.length = sharedGemmReservedLen) :
    IsControlMessage (controlHeader control ++ reserved) control := by
  constructor
  case length_eq =>
    rw [List.length_append, length_controlHeader, h]
    rfl
  all_goals
    simp only [readWord, controlHeader, List.append_assoc]
    simp (disch := simp) only [slice_append_right, slice_append_left, length_toLe,
      length_sharedGemmMagic, Nat.reduceDiv, Nat.reduceSub, ofLe_toLe]
  rfl

/-- The first 56 bytes of a message of a control are its header. -/
theorem IsControlMessage.take_eq (h : IsControlMessage input control) :
    input.take 56 = controlHeader control := by
  have hlen := h.length_eq
  have hheader : BitVec.ofNat 32 sharedGemmHeaderLen = readWord 32 input 12 := by
    rw [← h.headerLen, BitVec.ofNat_toNat, BitVec.setWidth_eq]
  rw [controlHeader, ← h.magic, ← h.version, hheader, ← h.resourceCount, h.m, h.n, h.k, h.alpha,
    h.beta, h.hipDeviceIndex]
  simp only [readWord]
  simp (disch := simp [length_slice, hlen, sharedGemmHeaderLen]) only [toLe_ofLe]
  -- The fields cover the first 56 bytes without a gap.
  simp (disch := rfl) only [slice_append_slice]
  rw [slice, List.drop_zero]

/-- **The form of a message**: the header of its control and eight reserved bytes. -/
theorem isControlMessage_iff : IsControlMessage input control ↔
    ∃ reserved : List Byte, reserved.length = sharedGemmReservedLen ∧
      input = controlHeader control ++ reserved := by
  constructor
  · intro h
    refine ⟨input.drop 56, ?_, ?_⟩
    · rw [List.length_drop, h.length_eq]
      rfl
    · rw [← h.take_eq, List.take_append_drop]
  · rintro ⟨reserved, hlen, rfl⟩
    exact isControlMessage_append control hlen

/-! ### The round trips -/

/-- **Encoding and decoding are inverse up to the reserved tail.** What is encoded has 64 bytes and
decodes to the same record, and what is decoded encodes to the same message with zeros in its last
eight bytes. -/
theorem control_round_trip :
    (∀ (control : SharedGemmControl) (bytes : List Byte), encodeControl control = .ok bytes →
      bytes.length = sharedGemmHeaderLen ∧ decodeControl bytes = .ok control) ∧
    ∀ (input : List Byte) (control : SharedGemmControl), decodeControl input = .ok control →
      input.length = sharedGemmHeaderLen ∧
        encodeControl control = .ok (input.take 56 ++ List.replicate 8 0#8) := by
  constructor
  · intro control bytes h
    obtain ⟨hvalid, rfl⟩ := encodeControl_eq_ok_iff.1 h
    have hmessage := isControlMessage_append control
      (List.length_replicate (n := sharedGemmReservedLen) (a := 0#8))
    exact ⟨hmessage.length_eq, decodeControl_eq_ok_iff.2 ⟨hmessage, hvalid⟩⟩
  · intro input control h
    obtain ⟨hmessage, hvalid⟩ := decodeControl_eq_ok_iff.1 h
    refine ⟨hmessage.length_eq, encodeControl_eq_ok_iff.2 ⟨hvalid, ?_⟩⟩
    rw [hmessage.take_eq]
    rfl

/-- A message with a reserved tail that is not zero. -/
def taggedMessage : List Byte := controlHeader smallControl ++ List.replicate 8 0xff#8

theorem control_round_trip_small :
    (∃ bytes, encodeControl smallControl = .ok bytes ∧ bytes.length = sharedGemmHeaderLen ∧
      decodeControl bytes = .ok smallControl) ∧
    decodeControl taggedMessage = .ok smallControl ∧
      encodeControl smallControl = .ok (taggedMessage.take 56 ++ List.replicate 8 0#8) := by
  have hdecoded : decodeControl taggedMessage = .ok smallControl := by decide +kernel
  exact ⟨⟨_, rfl, control_round_trip.1 smallControl _ rfl⟩, hdecoded,
    (control_round_trip.2 taggedMessage smallControl hdecoded).2⟩

end RiftGPU.Gemm
