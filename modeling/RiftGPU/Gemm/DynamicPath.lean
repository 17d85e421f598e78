import RiftGPU.Gemm.ReferencePlugin
import RiftGPU.Gemm.ReferenceResponse

/-!
# The plugin path of the reference GEMM equals the path in the process

The host first asks the plugin for the size of the output and then calls it with a buffer of that
size. The plugin computes the size and the output by different functions. Since these agree on
every message, the second call always fills the buffer of the first, and the plugin path returns
what the operator in the process returns.

## Main definitions

* `Gemm.referenceOperator`: the operator of the plugin, loaded under the default policy.

## Main results

* `Gemm.loadWithPolicy_plugin`: loading the plugin gives this operator.
* `Gemm.executePlugin_or_reject`: the two calls, for every message.
* `Gemm.dynamic_path_eq_reference`: the two paths agree.
-/

namespace RiftGPU.Gemm

open Bytes PluginAbi Operators ReferencePlugin

variable (F : Type) [Add F] [Mul F] [Zero F] [BEq F] [FloatCodec F]

/-- The operator of the reference plugin, loaded under the default policy. -/
def referenceOperator : DynamicOperator where
  plugin := {
    pluginName := "vrb-reference-gemm"
    maxOutputBytes := defaultMaxOutputBytes
    callbacks := { userData := 0#64, outputSize := outputSize, execute := execute F }
    poisoned := false }
  operatorId := referenceGemmOperatorId
  name := referenceGemmName
  kind := .gemm
  backend := .cpu
  rawCapabilityBits := Capability.fp32 ||| Capability.hostBytes

/-- Loading the plugin gives this operator. -/
theorem loadWithPolicy_plugin :
    loadWithPolicy (.ok (some (plugin F))) {} =
      .ok { pluginName := "vrb-reference-gemm", operators := [referenceOperator F] } := by
  have hpluginName : abiCharsToString (plugin F).name = "vrb-reference-gemm" := by
    change abiCharsToString (cName pluginName) = _
    decide
  have hname : abiCharsToString (cName (ascii referenceGemmName)) = referenceGemmName := by decide
  have hdescriptor : validatePluginDescriptor (plugin F) {} = .ok () :=
    validatePluginDescriptor_eq_ok_iff.2
      ⟨rfl, BitVec.le_refl expectedOperatorPluginStructSize, by rw [hpluginName]; decide,
        (by decide : 1#32 ≠ 0#32), (by decide : 1#32 ≤ defaultMaxOperators)⟩
  have hdiscover : discoverOperator (plugin F) queryOperator { ids := [], discovered := [] } 0 =
      .ok { ids := [referenceGemmOperatorId], discovered := [{
        operatorId := referenceGemmOperatorId
        name := referenceGemmName
        kind := .gemm
        backend := .cpu
        rawCapabilityBits := Capability.fp32 ||| Capability.hostBytes }] } := by
    rw [discoverOperator]
    simp only [queryOperator, ne_eq, not_true_eq_false, if_false, hname]
    rw [Except.rejectIf_of_not not_false, Except.rejectIf_of_not (by decide),
      Except.rejectIf_of_not (by decide), Except.rejectIf_of_not List.not_mem_nil]
    rw [show (plugin F).capabilityBits = Capability.fp32 ||| Capability.hostBytes from rfl,
      BitVec.or_self]
    rfl
  unfold loadWithPolicy
  rw [Except.ok_bind, Option.okOr_some, Except.ok_bind, hdescriptor, Except.ok_bind, hpluginName]
  have hloop : (List.range (plugin F).operatorCount.toNat).foldlM
      (discoverOperator (plugin F) queryOperator) { ids := [], discovered := [] } =
      discoverOperator (plugin F) queryOperator { ids := [], discovered := [] } 0 >>= pure := rfl
  simp only [plugin, Option.okOr_some, Except.ok_bind] at hloop hdiscover ⊢
  rw [hloop, hdiscover]
  rfl

/-! ### The two calls -/

theorem abiInput_some {input : List Byte} {inputLen : BitVec 64}
    (h : inputLen.toNat = input.length) : abiInput (some input) inputLen = .ok input := by
  unfold abiInput
  split_ifs with hzero
  · rw [h, List.length_eq_zero_iff] at hzero
    rw [hzero]
  · rw [Option.okOr_some, Except.ok_bind, h, List.take_length]
    rfl

/-- The first call reports the required length. -/
theorem outputSize_of_ok {input : List Byte} {inputLen length : BitVec 64}
    (hinput : inputLen.toNat = input.length)
    (h : requiredOutputLen input GemmLimits.default = .ok length) (userData : BitVec 64) :
    outputSize userData referenceGemmOperatorId (some input) inputLen (some 0#64) =
      .ok ⟨Status.ok, length⟩ := by
  rw [outputSize, if_neg (by simp), abiInput_some hinput]
  dsimp only
  rw [h]

/-- The first call rejects what the length computation rejects. -/
theorem outputSize_of_error {input : List Byte} {inputLen : BitVec 64}
    {error : ReferenceGemmError} (hinput : inputLen.toNat = input.length)
    (h : requiredOutputLen input GemmLimits.default = .error (.error error))
    (userData : BitVec 64) :
    outputSize userData referenceGemmOperatorId (some input) inputLen (some 0#64) =
      .ok ⟨ReferencePlugin.mapError error, 0#64⟩ := by
  rw [outputSize, if_neg (by simp), abiInput_some hinput]
  dsimp only
  rw [h]
  rfl

theorem mapError_eq_or (error : ReferenceGemmError) :
    ReferencePlugin.mapError error = Status.invalidArgument ∨
      ReferencePlugin.mapError error = Status.unsupported := by
  cases error with
  | protocol error => exact .inl rfl
  | resourceLimit resource actual maximum => exact .inr rfl
  | addressSpaceOverflow => exact .inr rfl

/-- The output replaces a buffer of its length. -/
theorem writeOutput_of_length {input output : List Byte} {inputLen length : BitVec 64}
    (hlength : output.length = length.toNat) :
    writeOutput ((referenceOperator F).executionRequest input inputLen length) output =
      ⟨Status.ok, output, length⟩ := by
  have hrequired : BitVec.tryOfNat 64 output.length = some length :=
    BitVec.tryOfNat_eq_some_iff.2 hlength.symm
  have hbuffer : List.replicate length.toNat 0#8 = [] ↔ output = [] := by
    rw [List.replicate_eq_nil_iff, ← hlength, List.length_eq_zero_iff]
  have hcapacity : ¬length > ((referenceOperator F).executionRequest input inputLen
      length).outputCapacity := BitVec.lt_irrefl length
  rw [writeOutput, hrequired]
  dsimp only
  rw [if_neg hcapacity]
  simp only [DynamicOperator.executionRequest]
  by_cases hempty : output = []
  · have hzero : length.toNat = 0 := by rw [← hlength, hempty, List.length_nil]
    simp [hempty, hzero]
  · have hbuffer' : (List.replicate length.toNat 0#8).isEmpty = false := by
      rwa [List.isEmpty_eq_false_iff, Ne, hbuffer]
    simp [hbuffer', hlength]

/-- The second call fills the buffer when the output has the length that was asked for. -/
theorem execute_of_ok {input output : List Byte} {inputLen length : BitVec 64}
    (hinput : inputLen.toNat = input.length)
    (h : executeGemmBytes F input GemmLimits.default = .ok output)
    (hlength : output.length = length.toNat) (userData : BitVec 64) :
    execute F userData ((referenceOperator F).executionRequest input inputLen length) =
      .ok ⟨Status.ok, output, length⟩ := by
  rw [execute, if_neg (by simp [DynamicOperator.executionRequest, referenceOperator,
    expectedExecutionRequestStructSize])]
  rw [show ((referenceOperator F).executionRequest input inputLen length).inputPtr = some input
    from rfl, show ((referenceOperator F).executionRequest input inputLen length).inputLen =
      inputLen from rfl, abiInput_some hinput]
  dsimp only
  rw [h]
  exact congrArg Except.ok (writeOutput_of_length F hlength)

/-- A response within the default limits is within the default policy. -/
theorem length_le_defaultMaxOutputBytes {request : GemmRequest} (hsized : request.WellSized)
    (hlimits : request.header.Within GemmLimits.default) {length : BitVec 64}
    (hlength : (request.response F).length = length.toNat) :
    ¬length > defaultMaxOutputBytes := by
  have hc := hlimits.c_le
  have hmax : GemmLimits.default.maxMatrixElements.toNat = 16777216 := rfl
  have hbytes : defaultMaxOutputBytes.toNat = 1073741824 := rfl
  rw [hsized.toNat_elements.2.2.1, hmax] at hc
  rw [request.length_response F, gemmResponseHeaderLen] at hlength
  rw [gt_iff_lt, BitVec.not_lt, BitVec.le_def, hbytes]
  omega

/-- **The two calls.** The plugin path rejects every message that the reference rejects, because
the message is too long or with the status of the error, and otherwise it returns the response. -/
theorem executePlugin_or_reject (input : List Byte) :
    (∃ error, executeGemmBytes F input GemmLimits.default = .error (.error error) ∧
      ((referenceOperator F).executePlugin input =
          .error (.error (.inputTooLarge input.length)) ∨
        (referenceOperator F).executePlugin input =
          .error (.error (.pluginStatus (ReferencePlugin.mapError error))))) ∨
    ∃ output, executeGemmBytes F input GemmLimits.default = .ok output ∧
      (referenceOperator F).executePlugin input = .ok output := by
  obtain ⟨error, hrequired, hexecute⟩ | ⟨request, reserved, length, hsized, rfl, hlimits, hrequired,
    hexecute, hlength⟩ := execute_or_reject F input GemmLimits.default
  · refine .inl ⟨error, hexecute, ?_⟩
    obtain hlarge | hsmall := Nat.lt_or_ge input.length (2 ^ 64)
    · obtain ⟨inputLen, hinput⟩ := BitVec.exists_toNat_eq hlarge
      have hstatus : ReferencePlugin.mapError error ≠ Status.ok := by
        obtain h | h := mapError_eq_or error <;> rw [h] <;> decide
      have hsize : (referenceOperator F).plugin.callbacks.outputSize 0#64 referenceGemmOperatorId
          (some input) inputLen (some 0#64) = .ok ⟨ReferencePlugin.mapError error, 0#64⟩ :=
        outputSize_of_error hinput hrequired 0#64
      exact .inr (DynamicOperator.executePlugin_of_size_rejected rfl hinput hsize hstatus)
    · exact .inl (DynamicOperator.executePlugin_of_too_large rfl hsmall)
  · refine .inr ⟨request.response F, hexecute, ?_⟩
    have hlt : (requestBytes request reserved).length < 2 ^ 64 := by
      rw [length_requestBytes]
      exact hsized.messageLen_lt
    obtain ⟨inputLen, hinput⟩ := BitVec.exists_toNat_eq hlt
    have hmax := length_le_defaultMaxOutputBytes F hsized hlimits hlength
    rw [DynamicOperator.executePlugin_of_returned rfl hinput
      (outputSize_of_ok hinput hrequired 0#64) hmax
      (execute_of_ok F hinput hexecute hlength 0#64) rfl (BitVec.lt_irrefl length)]
    dsimp only
    rw [← hlength, List.take_length]

/-! ### The two paths -/

/-- **The plugin path equals the path in the process.** Loading the plugin under the default policy
gives its operator. For every input this operator returns an output exactly when the operator in
the process returns it; when the first call reports a length, the second call writes an output of
this length; and no run panics, finds a buffer too small, or finds an output beyond the policy or
beyond its buffer. -/
theorem dynamic_path_eq_reference :
    loadWithPolicy (.ok (some (plugin F))) {} =
      .ok { pluginName := "vrb-reference-gemm", operators := [referenceOperator F] } ∧
    ∀ input : List Byte,
      (∀ output, (referenceOperator F).execute ⟨input⟩ = .ok output ↔
        CpuReferenceGemm.default.execute F ⟨input⟩ = .ok output) ∧
      (∀ inputLen length : BitVec 64, inputLen.toNat = input.length →
        outputSize 0#64 referenceGemmOperatorId (some input) inputLen (some 0#64) =
          .ok ⟨Status.ok, length⟩ →
        ∃ output, output.length = length.toNat ∧
          execute F 0#64 ((referenceOperator F).executionRequest input inputLen length) =
            .ok ⟨Status.ok, output, length⟩) ∧
      (∀ fault, (referenceOperator F).executePlugin input = .error fault →
        ∃ error, fault = .error error ∧ error ≠ .pluginStatus Status.bufferTooSmall ∧
          (∀ requested maximum, error ≠ .outputTooLarge requested maximum) ∧
          (∀ actual capacity, error ≠ .outputLengthExceeded actual capacity)) := by
  refine ⟨loadWithPolicy_plugin F, fun input => ⟨fun output => ?_, ?_, ?_⟩⟩
  · rw [DynamicOperator.execute, CpuReferenceGemm.execute]
    dsimp only [CpuReferenceGemm.default]
    obtain ⟨error, hexecute, hrejected | hrejected⟩ | ⟨bytes, hexecute, hreturned⟩ :=
      executePlugin_or_reject F input
    · rw [hexecute, hrejected]
      exact iff_of_false nofun nofun
    · rw [hexecute, hrejected]
      exact iff_of_false nofun nofun
    · rw [hexecute, hreturned]
      exact Iff.rfl
  · intro inputLen length hinput hsize
    obtain ⟨error, hrequired, _⟩ | ⟨request, reserved, required, hsized, rfl, hlimits, hrequired,
      hexecute, hlength⟩ := execute_or_reject F input GemmLimits.default
    · rw [outputSize_of_error hinput hrequired] at hsize
      cases error <;> cases hsize
    · rw [outputSize_of_ok hinput hrequired] at hsize
      cases hsize
      exact ⟨request.response F, hlength, execute_of_ok F hinput hexecute hlength 0#64⟩
  · intro fault hfault
    obtain ⟨error, _, hrejected | hrejected⟩ | ⟨output, _, hreturned⟩ :=
      executePlugin_or_reject F input
    · rw [hrejected] at hfault
      cases hfault
      exact ⟨_, rfl, nofun, nofun, nofun⟩
    · rw [hrejected] at hfault
      cases hfault
      refine ⟨_, rfl, ?_, nofun, nofun⟩
      obtain h | h := mapError_eq_or error <;> rw [h] <;> decide
    · rw [hreturned] at hfault
      cases hfault

theorem dynamic_path_eq_reference_integer :
    (referenceOperator ℤ).execute ⟨requestBytes integerRequest 0#32⟩ =
      .ok ⟨responseBytes 1#64 2#64 [0x41b00000#32, 0x42380000#32]⟩ :=
  (((dynamic_path_eq_reference ℤ).2 _).1 _).2 (by decide +kernel)

end RiftGPU.Gemm
