import RiftGPU.Gemm.ProtocolRoundTrip

/-!
# The GEMM request decoder and empty dimensions

A protocol decoder has to validate the constant fields of a message, its dimensions, the sizes
they imply and its exact length. The decoder of GEMM requests does all of this except that it lets
empty dimensions pass, so that the rule fails for the well-formed messages with such a dimension.

## Main definitions

* `Gemm.DecoderRule`: what a validated request satisfies.

## Main results

* `Gemm.inspectRequest_keeps_rule_iff`: the messages for which the decoder keeps the rule.
-/

namespace RiftGPU.Gemm

open Bytes

/-- The fields of a validated request: the constant fields are the specified ones, no dimension is
empty, and the sizes and the length of the message are exact. -/
structure DecoderRule (input : List Byte) (header : GemmRequestMeta) : Prop where
  magic : slice input 0 8 = gemmRequestMagic
  version : ofLe 32 (slice input 8 4) = gemmProtocolVersion
  headerLen : (ofLe 32 (slice input 12 4)).toNat = gemmRequestHeaderLen
  flags : ofLe 32 (slice input 16 4) = requestFlags header.hasC
  m_ne_zero : header.m ≠ 0#64
  n_ne_zero : header.n ≠ 0#64
  k_ne_zero : header.k ≠ 0#64
  aElements : header.aElements.toNat = header.m.toNat * header.k.toNat
  bElements : header.bElements.toNat = header.k.toNat * header.n.toNat
  cElements : header.cElements.toNat = header.m.toNat * header.n.toNat
  encodedLen : header.encodedLen.toNat = 56 + 4 * (header.m.toNat * header.k.toNat +
    header.k.toNat * header.n.toNat + if header.hasC then header.m.toNat * header.n.toNat else 0)
  length_eq : input.length = header.encodedLen.toNat

/-- What the decoder accepts satisfies the rule when no dimension is empty. -/
theorem IsRequestHeader.decoderRule_iff {input : List Byte} {header : GemmRequestMeta}
    (h : IsRequestHeader input header) :
    DecoderRule input header ↔ header.m ≠ 0#64 ∧ header.n ≠ 0#64 ∧ header.k ≠ 0#64 := by
  constructor
  · intro hrule
    exact ⟨hrule.m_ne_zero, hrule.n_ne_zero, hrule.k_ne_zero⟩
  · rintro ⟨hm, hn, hk⟩
    have hlen := h.encodedLen
    rw [h.aElements, h.bElements, h.cElements] at hlen
    exact ⟨h.magic, h.version, h.headerLen, h.flags, hm, hn, hk, h.aElements, h.bElements,
      h.cElements, hlen, h.length_eq⟩

/-- **When the decoder keeps the rule.** It does on every message but those of a well-sized request
with an empty dimension. -/
theorem inspectRequest_keeps_rule_iff (input : List Byte) :
    (∀ header, inspectRequest input = .ok header → DecoderRule input header) ↔
      ∀ (request : GemmRequest) (reserved : BitVec 32), request.WellSized →
        input = requestBytes request reserved →
          request.m ≠ 0#64 ∧ request.n ≠ 0#64 ∧ request.k ≠ 0#64 := by
  constructor
  · rintro h request reserved hsized rfl
    have hheader := hsized.isRequestHeader reserved
    exact hheader.decoderRule_iff.1 (h request.header (inspectRequest_eq_ok_iff.2 hheader))
  · intro h header hinspect
    have hheader := inspectRequest_eq_ok_iff.1 hinspect
    obtain ⟨request, reserved, hsized, rfl, hinput⟩ := hheader.exists_request
    exact hheader.decoderRule_iff.2 (h request reserved hsized hinput)

/-- A request of depth zero for a result of `2 ^ 52` elements. Its matrices A and B are empty. -/
def hollowRequest : GemmRequest where
  m := 0x100000000#64
  n := 0x100000#64
  k := 0#64
  alpha := 0x3f800000#32
  beta := 0#32
  a := []
  b := []
  c := none

/-- The message of the hollow request has 56 bytes and is accepted. -/
theorem hollowRequest_accepted :
    (requestBytes hollowRequest 0#32).length = 56 ∧
      inspectRequest (requestBytes hollowRequest 0#32) = .ok hollowRequest.header ∧
      ¬DecoderRule (requestBytes hollowRequest 0#32) hollowRequest.header := by
  have hsized : hollowRequest.WellSized := ⟨rfl, rfl, nofun, by decide, by decide⟩
  refine ⟨by decide +kernel, inspectRequest_eq_ok_iff.2 (hsized.isRequestHeader 0#32), ?_⟩
  intro hrule
  exact hrule.k_ne_zero rfl

end RiftGPU.Gemm
