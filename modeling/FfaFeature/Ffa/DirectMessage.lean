/-
# Packing and unpacking a direct message

`FfaPackDirectMessage` lays a message out in the registers of a call and
`FfaUnpackDirectMessage` reads one from the registers of its result.  A first
version message carries six arguments from `x2`, a second version message a GUID
in `x2` and `x3` and fourteen arguments from `x4`.

The two functions choose the layout by tests of their own.  Packing knows the
four function ids of the first version, unpacking the two requests only, so a
first version response is read back two registers late.  The message that is
unpacked is the one that was packed exactly where its six arguments repeat in
that way (`unpack_pack_iff`).
-/

import FfaFeature.Ffa.Registers

namespace FfaFeature
namespace Ffa

/-! ### The two layouts -/

/-- The arguments of a first version message, from `x2`. -/
def unpackVersion1 (response : ArmSxcArgs) (message : DirectMsgArgsEx) : DirectMsgArgsEx :=
  { message with
    arg0 := response.arg2, arg1 := response.arg3, arg2 := response.arg4,
    arg3 := response.arg5, arg4 := response.arg6, arg5 := response.arg7 }

/-- The GUID of a second version message, in `x2` and `x3`, and its arguments, from `x4`. -/
def unpackVersion2 (response : ArmSxcArgs) (message : DirectMsgArgsEx) : DirectMsgArgsEx :=
  { message with
    serviceGuid := ffaPrepareGuid (guidOfRegisters response.arg2 response.arg3),
    arg0 := response.arg4, arg1 := response.arg5, arg2 := response.arg6,
    arg3 := response.arg7, arg4 := response.arg8, arg5 := response.arg9,
    arg6 := response.arg10, arg7 := response.arg11, arg8 := response.arg12,
    arg9 := response.arg13, arg10 := response.arg14, arg11 := response.arg15,
    arg12 := response.arg16, arg13 := response.arg17 }

/-- `FfaUnpackDirectMessage`: the fields of `message` it does not write keep their values. -/
def ffaUnpackDirectMessage (response : ArmSxcArgs) (message : DirectMsgArgsEx) :
    DirectMsgArgsEx :=
  let functionId := response.arg0.setWidth 32
  let message := { message with
    functionId, sourceId := (response.arg1 >>> 16).setWidth 16,
    destinationId := response.arg1.setWidth 16 }
  if functionId = fidMsgSendDirectReq32 ∨ functionId = fidMsgSendDirectReq64 then
    unpackVersion1 response message
  else
    unpackVersion2 response message

/-- The arguments of a first version message, from `x2`. -/
def packVersion1 (request : ArmSxcArgs) (message : DirectMsgArgsEx) : ArmSxcArgs :=
  { request with
    arg2 := message.arg0, arg3 := message.arg1, arg4 := message.arg2,
    arg5 := message.arg3, arg6 := message.arg4, arg7 := message.arg5 }

/-- The GUID of a second version message, in `x2` and `x3`, and its arguments, from `x4`. -/
def packVersion2 (request : ArmSxcArgs) (message : DirectMsgArgsEx) : ArmSxcArgs :=
  let serviceGuid := ffaPrepareGuid message.serviceGuid
  { request with
    arg2 := guidLow serviceGuid, arg3 := guidHigh serviceGuid,
    arg4 := message.arg0, arg5 := message.arg1, arg6 := message.arg2,
    arg7 := message.arg3, arg8 := message.arg4, arg9 := message.arg5,
    arg10 := message.arg6, arg11 := message.arg7, arg12 := message.arg8,
    arg13 := message.arg9, arg14 := message.arg10, arg15 := message.arg11,
    arg16 := message.arg12, arg17 := message.arg13 }

/-- `FfaPackDirectMessage`: the registers of `request` it does not write keep their values. -/
def ffaPackDirectMessage (request : ArmSxcArgs) (message : DirectMsgArgsEx) : ArmSxcArgs :=
  let request := { request with
    arg0 := message.functionId.setWidth 64,
    arg1 := packIds message.sourceId message.destinationId }
  if message.functionId = fidMsgSendDirectReq32 ∨ message.functionId = fidMsgSendDirectReq64 ∨
      message.functionId = fidMsgSendDirectResp32 ∨
      message.functionId = fidMsgSendDirectResp64 then
    packVersion1 request message
  else
    packVersion2 request message

/-! ### The format -/

/-- The direct requests of the first version. -/
abbrev IsReq (functionId : BitVec 32) : Prop :=
  functionId = fidMsgSendDirectReq32 ∨ functionId = fidMsgSendDirectReq64

/-- The direct responses of the first version. -/
abbrev IsResp (functionId : BitVec 32) : Prop :=
  functionId = fidMsgSendDirectResp32 ∨ functionId = fidMsgSendDirectResp64

/-- The direct messages of the second version. -/
abbrev IsVersion2 (functionId : BitVec 32) : Prop :=
  functionId = fidMsgSendDirectReq2 ∨ functionId = fidMsgSendDirectResp2

/-- The payload of two messages of the first version is the same. -/
def SamePayload1 (m m' : DirectMsgArgsEx) : Prop :=
  m.arg0 = m'.arg0 ∧ m.arg1 = m'.arg1 ∧ m.arg2 = m'.arg2 ∧ m.arg3 = m'.arg3 ∧
    m.arg4 = m'.arg4 ∧ m.arg5 = m'.arg5

/-- The payload of two messages of the second version is the same. -/
def SamePayload2 (m m' : DirectMsgArgsEx) : Prop :=
  m.serviceGuid = m'.serviceGuid ∧ SamePayload1 m m' ∧
    m.arg6 = m'.arg6 ∧ m.arg7 = m'.arg7 ∧ m.arg8 = m'.arg8 ∧ m.arg9 = m'.arg9 ∧
    m.arg10 = m'.arg10 ∧ m.arg11 = m'.arg11 ∧ m.arg12 = m'.arg12 ∧ m.arg13 = m'.arg13

/-- Two direct messages say the same: the function, the two parties and the payload of the
version `m'` has. -/
structure SameMessage (m m' : DirectMsgArgsEx) : Prop where
  functionId : m.functionId = m'.functionId
  sourceId : m.sourceId = m'.sourceId
  destinationId : m.destinationId = m'.destinationId
  payload1 : ¬ IsVersion2 m'.functionId → SamePayload1 m m'
  payload2 : IsVersion2 m'.functionId → SamePayload2 m m'

/-- The arguments of a message repeat two places on, the last two in the registers `x8` and
`x9` packing leaves as they were. -/
def Repeats (request : ArmSxcArgs) (m : DirectMsgArgsEx) : Prop :=
  m.arg2 = m.arg0 ∧ m.arg3 = m.arg1 ∧ m.arg4 = m.arg2 ∧ m.arg5 = m.arg3 ∧
    request.arg8 = m.arg4 ∧ request.arg9 = m.arg5

/-! ### Unpacking what was packed -/

variable {request : ArmSxcArgs} {message : DirectMsgArgsEx}

/-- The function id of a packed message. -/
theorem ffaPackDirectMessage_arg0 :
    (ffaPackDirectMessage request message).arg0 = message.functionId.setWidth 64 := by
  unfold ffaPackDirectMessage
  dsimp only
  split <;> rfl

/-- Its ids. -/
theorem ffaPackDirectMessage_arg1 :
    (ffaPackDirectMessage request message).arg1 =
      packIds message.sourceId message.destinationId := by
  unfold ffaPackDirectMessage
  dsimp only
  split <;> rfl

/-- The function and the parties come back, and the layout read is that of the function. -/
theorem unpack_pack (prior : DirectMsgArgsEx) :
    ffaUnpackDirectMessage (ffaPackDirectMessage request message) prior =
      let prior := { prior with
        functionId := message.functionId, sourceId := message.sourceId,
        destinationId := message.destinationId }
      if IsReq message.functionId then
        unpackVersion1 (ffaPackDirectMessage request message) prior
      else unpackVersion2 (ffaPackDirectMessage request message) prior := by
  have hid : (message.functionId.setWidth 64).setWidth 32 = message.functionId := by
    rw [BitVec.setWidth_setWidth_of_le _ (by decide), BitVec.setWidth_eq]
  simp only [ffaUnpackDirectMessage, ffaPackDirectMessage_arg0, ffaPackDirectMessage_arg1, hid,
    packIds_low, packIds_high, IsReq]

/-- A first version message is laid out by `packVersion1`, request or response. -/
theorem ffaPackDirectMessage_version1 (h : IsReq message.functionId ∨ IsResp message.functionId) :
    ffaPackDirectMessage request message =
      packVersion1 { request with
        arg0 := message.functionId.setWidth 64,
        arg1 := packIds message.sourceId message.destinationId } message := by
  refine if_pos ?_
  rcases h with hreq | hresp
  · exact hreq.elim .inl (.inr ∘ .inl)
  · exact .inr (.inr hresp)

/-- The six function ids are told apart. -/
theorem not_isReq_of_isResp (h : IsResp message.functionId) : ¬ IsReq message.functionId := by
  rintro (hreq | hreq) <;> rcases h with hresp | hresp <;> rw [hreq] at hresp <;>
    exact absurd hresp (by decide)

/-- A message of the second version is none of the first. -/
theorem not_version1_of_isVersion2 (h : IsVersion2 message.functionId) :
    ¬ (IsReq message.functionId ∨ IsResp message.functionId) := by
  rintro ((hid | hid) | (hid | hid)) <;> rcases h with hid' | hid' <;> rw [hid] at hid' <;>
    exact absurd hid' (by decide)

/-- A first version request comes back with its six arguments. -/
theorem unpack_pack_req (hreq : IsReq message.functionId) (prior : DirectMsgArgsEx) :
    SamePayload1 (ffaUnpackDirectMessage (ffaPackDirectMessage request message) prior)
      message := by
  rw [unpack_pack, ffaPackDirectMessage_version1 (.inl hreq)]
  simp only [if_pos hreq, SamePayload1, unpackVersion1, packVersion1, and_self]

/-- A first version response comes back two places late. -/
theorem unpack_pack_resp (hresp : IsResp message.functionId) (prior : DirectMsgArgsEx) :
    SamePayload1 (ffaUnpackDirectMessage (ffaPackDirectMessage request message) prior) message ↔
      Repeats request message := by
  rw [unpack_pack, ffaPackDirectMessage_version1 (.inr hresp)]
  simp only [if_neg (not_isReq_of_isResp hresp), SamePayload1, unpackVersion2, packVersion1,
    Repeats]

/-- A second version message comes back whole. -/
theorem unpack_pack_version2 (hversion : IsVersion2 message.functionId)
    (prior : DirectMsgArgsEx) :
    ffaUnpackDirectMessage (ffaPackDirectMessage request message) prior = message := by
  have hnot := not_or.1 (not_version1_of_isVersion2 hversion)
  have hpack : ffaPackDirectMessage request message =
      packVersion2 { request with
        arg0 := message.functionId.setWidth 64,
        arg1 := packIds message.sourceId message.destinationId } message := by
    refine if_neg ?_
    rintro (h | h | h)
    · exact hnot.1 (.inl h)
    · exact hnot.1 (.inr h)
    · exact hnot.2 h
  rw [unpack_pack, hpack]
  simp only [if_neg hnot.1, unpackVersion2, packVersion2, guidOfRegisters_guidLow_guidHigh,
    ffaPrepareGuid_ffaPrepareGuid]

/-- **What is unpacked is what was packed, but for first version responses, exactly.**  A
request of the first version and every message of the second come back as they were; a
response of the first version comes back exactly when its arguments repeat two places on. -/
theorem unpack_pack_iff (request : ArmSxcArgs) (message prior : DirectMsgArgsEx)
    (hid : IsReq message.functionId ∨ IsResp message.functionId ∨
      IsVersion2 message.functionId) :
    (∀ guid, ffaPrepareGuid (ffaPrepareGuid guid) = guid) ∧
      (SameMessage (ffaUnpackDirectMessage (ffaPackDirectMessage request message) prior) message ↔
        (IsResp message.functionId → Repeats request message)) := by
  refine ⟨ffaPrepareGuid_ffaPrepareGuid, ?_⟩
  constructor
  · intro hsame hresp
    have hversion : ¬ IsVersion2 message.functionId := fun h =>
      not_version1_of_isVersion2 h (.inr hresp)
    exact (unpack_pack_resp hresp prior).1 (hsame.payload1 hversion)
  · intro hrepeats
    refine ⟨?_, ?_, ?_, fun hversion => ?_, fun hversion => ?_⟩
    · rw [unpack_pack]
      split <;> rfl
    · rw [unpack_pack]
      split <;> rfl
    · rw [unpack_pack]
      split <;> rfl
    · rcases hid with hreq | hresp | h
      · exact unpack_pack_req hreq prior
      · exact (unpack_pack_resp hresp prior).2 (hrepeats hresp)
      · exact absurd h hversion
    · rw [unpack_pack_version2 hversion]
      simp only [SamePayload2, SamePayload1, and_self]

/-- A message with every argument its own number. -/
def countingRequest (functionId : BitVec 32) : DirectMsgArgsEx :=
  ⟨functionId, 0x8001, 0x8002, ⟨0x17B862A4, 0x1806, 0x4FAF, fun i => BitVec.ofNat 8 i⟩,
    0, 1, 2, 3, 4, 5, 6, 7, 8, 9, 10, 11, 12, 13⟩

/-- A request of the second version arrives. -/
theorem unpack_pack_counting :
    SameMessage
      (ffaUnpackDirectMessage
        (ffaPackDirectMessage .zero (countingRequest fidMsgSendDirectReq2)) .zero)
      (countingRequest fidMsgSendDirectReq2) :=
  (unpack_pack_iff .zero (countingRequest fidMsgSendDirectReq2) .zero
    (.inr (.inr (.inl rfl)))).2.2 fun h => absurd h (by decide)

/-- **A response of the first version is read two registers late**: the arguments
`0, 1, 2, 3, 4, 5` come back as `2, 3, 4, 5, 0, 0`. -/
theorem unpack_pack_resp_late :
    let message := countingRequest fidMsgSendDirectResp64
    let unpacked := ffaUnpackDirectMessage (ffaPackDirectMessage .zero message) .zero
    (unpacked.arg0 = 2 ∧ unpacked.arg1 = 3 ∧ unpacked.arg2 = 4 ∧ unpacked.arg3 = 5 ∧
      unpacked.arg4 = 0 ∧ unpacked.arg5 = 0) ∧ ¬ SameMessage unpacked message := by
  refine ⟨by decide, fun h => ?_⟩
  have harg0 := (h.payload1 (by decide)).1
  exact absurd harg0 (by decide)

end Ffa
end FfaFeature
