/-
# Direct requests

`FfaMessageSendDirectReq2` of `Library/ArmFfaLibEx/ArmFfaLibEx.c`: it fills the function, the
parties and the service of the caller's message, sends the message, hands the interrupts that
are delivered to the platform, and overwrites the message with the response.

The first call of all asks for the id of the caller and keeps it in `mPartitionId`.  From then
on a request carries that id, so a caller speaks for itself only.  What comes back is the
response as it was packed (`ffaMessageSendDirectReq2_resp`), or the status of an error and the
caller's message as it was sent (`ffaMessageSendDirectReq2_error`).
-/

import FfaFeature.Ffa.MessageWait
import FfaFeature.Ffa.NotificationGet

namespace FfaFeature
namespace Ffa

/-- `ImpDefArgs` as it is sent. -/
def directRequest (sourceId destPartId : BitVec 16) (serviceGuid : Option EfiGuid)
    (impDefArgs : DirectMsgArgsEx) : DirectMsgArgsEx :=
  { impDefArgs with
    functionId := fidMsgSendDirectReq2, sourceId, destinationId := destPartId,
    serviceGuid := serviceGuid.getD .zero }

section Functions

variable (ffaStatusToEfiStatus : BitVec 64 → EfiStatus)

/-- What the function makes of the last result: the status and the message. -/
def receiveResponse (result : ArmSxcArgs) (message : DirectMsgArgsEx) :
    Except Stop (EfiStatus × DirectMsgArgsEx) :=
  if result.arg0 = fidError.setWidth 64 then .ok (ffaStatusToEfiStatus result.arg2, message)
  else if result.arg0 = fidMsgSendDirectResp2.setWidth 64 then
    .ok (.success, ffaUnpackDirectMessage result message)
  else if result.arg0 = fidSuccess32.setWidth 64 then
    .ok (.success, { DirectMsgArgsEx.zero with functionId := result.arg0.setWidth 32 })
  else .error .assertion

/-- `FfaMessageSendDirectReq2`, with the results the SPMC delivers: `mPartitionId` afterwards,
and what the function leaves.  `acquired` is what `ArmFfaLibPartitionIdGet` would give. -/
def ffaMessageSendDirectReq2 (acquired mPartitionId destPartId : BitVec 16)
    (serviceGuid : Option EfiGuid) (results : List ArmSxcArgs) (impDefArgs : DirectMsgArgsEx) :
    Except Stop (BitVec 16 × Received) := do
  let mPartitionId := partitionId mPartitionId acquired
  let impDefArgs := directRequest mPartitionId destPartId serviceGuid impDefArgs
  let (result, actions) ←
    callAndHandleInterrupts (ffaPackDirectMessage .zero impDefArgs) results
  let (status, message) ← receiveResponse ffaStatusToEfiStatus result impDefArgs
  pure (mPartitionId, ⟨status, message, actions⟩)

end Functions

/-! ### What comes back -/

section Responses

variable {ffaStatusToEfiStatus : BitVec 64 → EfiStatus}
  {acquired mPartitionId destPartId : BitVec 16} {serviceGuid : Option EfiGuid}
  {interrupts rest : List ArmSxcArgs} {result : ArmSxcArgs} {impDefArgs : DirectMsgArgsEx}

/-- The function on a result behind interrupts. -/
theorem ffaMessageSendDirectReq2_eq
    (hinterrupts : ∀ r ∈ interrupts, r.arg0 = fidInterrupt.setWidth 64)
    (hresult : result.arg0 ≠ fidInterrupt.setWidth 64) {status : EfiStatus}
    {message : DirectMsgArgsEx}
    (hreceive : receiveResponse ffaStatusToEfiStatus result
      (directRequest (partitionId mPartitionId acquired) destPartId serviceGuid impDefArgs) =
        .ok (status, message)) :
    ∃ actions, ffaMessageSendDirectReq2 ffaStatusToEfiStatus acquired mPartitionId
        destPartId serviceGuid (interrupts ++ result :: rest) impDefArgs =
      .ok (partitionId mPartitionId acquired, ⟨status, message, actions⟩) := by
  obtain ⟨actions, hactions⟩ := @callAndHandleInterrupts_eq result interrupts rest hinterrupts
    hresult (ffaPackDirectMessage .zero
      (directRequest (partitionId mPartitionId acquired) destPartId serviceGuid impDefArgs))
  refine ⟨actions, ?_⟩
  unfold ffaMessageSendDirectReq2
  dsimp only
  rw [hactions]
  change (receiveResponse ffaStatusToEfiStatus result _ >>= fun out =>
    pure (_, Received.mk out.1 out.2 actions)) = _
  rw [hreceive]
  rfl

/-- **The response comes back as it was packed**, whatever interrupts arrive before it. -/
theorem ffaMessageSendDirectReq2_resp
    (hinterrupts : ∀ r ∈ interrupts, r.arg0 = fidInterrupt.setWidth 64)
    {response : DirectMsgArgsEx} (hresponse : response.functionId = fidMsgSendDirectResp2)
    (registers : ArmSxcArgs) :
    ∃ actions, ffaMessageSendDirectReq2 ffaStatusToEfiStatus acquired mPartitionId
        destPartId serviceGuid
        (interrupts ++ ffaPackDirectMessage registers response :: rest) impDefArgs =
      .ok (partitionId mPartitionId acquired, ⟨.success, response, actions⟩) := by
  have harg0 : (ffaPackDirectMessage registers response).arg0 =
      fidMsgSendDirectResp2.setWidth 64 := by
    rw [ffaPackDirectMessage_arg0, hresponse]
  refine ffaMessageSendDirectReq2_eq hinterrupts (by rw [harg0]; decide) ?_
  unfold receiveResponse
  rw [harg0, if_neg (by decide), if_pos rfl, unpack_pack_version2 (.inr hresponse)]

/-- **An error leaves the message as it was sent.** -/
theorem ffaMessageSendDirectReq2_error
    (hinterrupts : ∀ r ∈ interrupts, r.arg0 = fidInterrupt.setWidth 64)
    (hresult : result.arg0 = fidError.setWidth 64) :
    ∃ actions, ffaMessageSendDirectReq2 ffaStatusToEfiStatus acquired mPartitionId
        destPartId serviceGuid (interrupts ++ result :: rest) impDefArgs =
      .ok (partitionId mPartitionId acquired,
        ⟨ffaStatusToEfiStatus result.arg2,
          directRequest (partitionId mPartitionId acquired) destPartId serviceGuid impDefArgs,
          actions⟩) :=
  ffaMessageSendDirectReq2_eq hinterrupts (by rw [hresult]; decide) (if_pos hresult)

/-- **A partition that waits gets the message as it was sent**, in either of its functions. -/
theorem Receiver.run_request (receiver : Receiver)
    (hinterrupts : ∀ r ∈ interrupts, r.arg0 = fidInterrupt.setWidth 64)
    {request : DirectMsgArgsEx} (hrequest : request.functionId = fidMsgSendDirectReq2)
    (registers : ArmSxcArgs) (response message : DirectMsgArgsEx) :
    ∃ actions, receiver.run ffaStatusToEfiStatus
        (interrupts ++ ffaPackDirectMessage registers request :: rest) response message =
      .ok ⟨.success, request, actions⟩ := by
  have harg0 : (ffaPackDirectMessage registers request).arg0 =
      fidMsgSendDirectReq2.setWidth 64 := by
    rw [ffaPackDirectMessage_arg0, hrequest]
  refine receiver.run_eq ⟨interrupts, rest, rfl, hinterrupts, by rw [harg0]; decide⟩ response
    message ?_
  rw [receiveMessage_request (.inr (.inr harg0)), unpack_pack_version2 (.inl hrequest)]

end Responses

end Ffa
end FfaFeature
