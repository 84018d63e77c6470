/-
# Waiting for a message

`FfaMessageWait` and `FfaMessageSendDirectResp32`, `64` and `2` of
`Library/ArmFfaLibEx/ArmFfaLibEx.c`.  Each makes a call, hands the interrupts the SPMC delivers
to the platform, and fills the message structure of the caller from the first result that is no
interrupt.

What the SPMC delivers is the list of results it gives, one for each call.  A request of the
first version fills seven of the message's fields besides the ids, and the others keep what
they held before (`ffaUnpackDirectMessage_eq_iff`).  So what is received depends on the SPMC alone
unless such a request is delivered, and then only up to these fields
(`received_same_iff`).
-/

import FfaFeature.Ffa.DirectMessage

namespace FfaFeature
namespace Ffa

/-! ### The calls -/

/-- What a function does outside: it calls the SPMC, or hands an interrupt to the platform. -/
inductive Action
  | call (request : ArmSxcArgs)
  | interrupt (interruptId : BitVec 32)

/-- Why a function does not return. -/
inductive Stop
  | assertion
  | noResult

/-- The request of `FfaReturnFromInterrupt`, and the first one of `FfaMessageWait`. -/
def waitRequest : ArmSxcArgs := { ArmSxcArgs.zero with arg0 := fidWait.setWidth 64 }

/-- The loop over `FFA_INTERRUPT`, from a result on: the result that is no interrupt, and the
actions of the loop. -/
def handleInterrupts (result : ArmSxcArgs) :
    List ArmSxcArgs → Except Stop (ArmSxcArgs × List Action)
  | [] => if result.arg0 = fidInterrupt.setWidth 64 then .error .noResult else .ok (result, [])
  | next :: results =>
    if result.arg0 = fidInterrupt.setWidth 64 then do
      let (last, actions) ← handleInterrupts next results
      pure (last, .interrupt (result.arg2.setWidth 32) :: .call waitRequest :: actions)
    else .ok (result, [])

/-- `ArmCallSxc`, and the loop behind it. -/
def callAndHandleInterrupts (request : ArmSxcArgs) :
    List ArmSxcArgs → Except Stop (ArmSxcArgs × List Action)
  | [] => .error .noResult
  | result :: results => do
    let (last, actions) ← handleInterrupts result results
    pure (last, .call request :: actions)

/-- What a function leaves: its status, the message, and its actions. -/
structure Received where
  status : EfiStatus
  message : DirectMsgArgsEx
  actions : List Action

section Functions

variable (ffaStatusToEfiStatus : BitVec 64 → EfiStatus)

/-- What the functions make of the last result: the status and the message. -/
def receiveMessage (result : ArmSxcArgs) (message : DirectMsgArgsEx) :
    Except Stop (EfiStatus × DirectMsgArgsEx) :=
  if result.arg0 = fidError.setWidth 64 then .ok (ffaStatusToEfiStatus result.arg2, message)
  else if result.arg0 = fidMsgSendDirectReq32.setWidth 64 ∨
      result.arg0 = fidMsgSendDirectReq64.setWidth 64 ∨
      result.arg0 = fidMsgSendDirectReq2.setWidth 64 then
    .ok (.success, ffaUnpackDirectMessage result message)
  else if result.arg0 = fidSuccess32.setWidth 64 then
    .ok (.success, { DirectMsgArgsEx.zero with functionId := result.arg0.setWidth 32 })
  else .error .assertion

/-- `FfaMessageWait`, with the results the SPMC delivers. -/
def ffaMessageWait (results : List ArmSxcArgs) (message : DirectMsgArgsEx) :
    Except Stop Received := do
  let (result, actions) ← callAndHandleInterrupts waitRequest results
  let (status, message) ← receiveMessage ffaStatusToEfiStatus result message
  pure ⟨status, message, actions⟩

/-- `FfaMessageSendDirectResp`; the function id is also written to the request. -/
def ffaMessageSendDirectResp (functionId : BitVec 32) (results : List ArmSxcArgs)
    (request response : DirectMsgArgsEx) : Except Stop Received := do
  let request := { request with functionId }
  let (result, actions) ←
    callAndHandleInterrupts (ffaPackDirectMessage .zero request) results
  let (status, message) ← receiveMessage ffaStatusToEfiStatus result response
  pure ⟨status, message, actions⟩

/-- `FfaMessageSendDirectResp32`. -/
def ffaMessageSendDirectResp32 :=
  ffaMessageSendDirectResp ffaStatusToEfiStatus fidMsgSendDirectResp32

/-- `FfaMessageSendDirectResp64`. -/
def ffaMessageSendDirectResp64 :=
  ffaMessageSendDirectResp ffaStatusToEfiStatus fidMsgSendDirectResp64

/-- `FfaMessageSendDirectResp2`. -/
def ffaMessageSendDirectResp2 :=
  ffaMessageSendDirectResp ffaStatusToEfiStatus fidMsgSendDirectResp2

/-- The functions that receive a message. -/
inductive Receiver
  | messageWait
  | messageSendDirectResp32
  | messageSendDirectResp64
  | messageSendDirectResp2

/-- A function on the results delivered, its request where it has one, and the message structure
it fills. -/
def Receiver.run (results : List ArmSxcArgs) (request message : DirectMsgArgsEx) :
    Receiver → Except Stop Received
  | .messageWait => ffaMessageWait ffaStatusToEfiStatus results message
  | .messageSendDirectResp32 =>
    ffaMessageSendDirectResp32 ffaStatusToEfiStatus results request message
  | .messageSendDirectResp64 =>
    ffaMessageSendDirectResp64 ffaStatusToEfiStatus results request message
  | .messageSendDirectResp2 =>
    ffaMessageSendDirectResp2 ffaStatusToEfiStatus results request message

end Functions

/-! ### What is delivered -/

/-- The SPMC delivers interrupts, any number of them, and then a result that is none; what
there may be behind it is not delivered yet. -/
def Delivers (results : List ArmSxcArgs) (result : ArmSxcArgs) : Prop :=
  ∃ interrupts rest, results = interrupts ++ result :: rest ∧
    (∀ r ∈ interrupts, r.arg0 = fidInterrupt.setWidth 64) ∧
    result.arg0 ≠ fidInterrupt.setWidth 64

/-- A result that carries a message: a direct request, or the success of a call. -/
def IsMessage (result : ArmSxcArgs) : Prop :=
  result.arg0 = fidMsgSendDirectReq32.setWidth 64 ∨
    result.arg0 = fidMsgSendDirectReq64.setWidth 64 ∨
    result.arg0 = fidMsgSendDirectReq2.setWidth 64 ∨ result.arg0 = fidSuccess32.setWidth 64

/-- A direct request of the first version. -/
def IsVersion1 (result : ArmSxcArgs) : Prop :=
  result.arg0 = fidMsgSendDirectReq32.setWidth 64 ∨
    result.arg0 = fidMsgSendDirectReq64.setWidth 64

/-- Two messages agree in the fields that a request of the first version does not fill. -/
structure SameRest (message message' : DirectMsgArgsEx) : Prop where
  serviceGuid : message.serviceGuid = message'.serviceGuid
  arg6 : message.arg6 = message'.arg6
  arg7 : message.arg7 = message'.arg7
  arg8 : message.arg8 = message'.arg8
  arg9 : message.arg9 = message'.arg9
  arg10 : message.arg10 = message'.arg10
  arg11 : message.arg11 = message'.arg11
  arg12 : message.arg12 = message'.arg12
  arg13 : message.arg13 = message'.arg13

variable {results : List ArmSxcArgs} {result : ArmSxcArgs} {message message' : DirectMsgArgsEx}

/-- **The loop ends with the result that is no interrupt.** -/
theorem callAndHandleInterrupts_eq {interrupts rest : List ArmSxcArgs}
    (hinterrupts : ∀ r ∈ interrupts, r.arg0 = fidInterrupt.setWidth 64)
    (hresult : result.arg0 ≠ fidInterrupt.setWidth 64) (request : ArmSxcArgs) :
    ∃ actions, callAndHandleInterrupts request (interrupts ++ result :: rest) =
      .ok (result, actions) := by
  induction interrupts generalizing request with
  | nil =>
    refine ⟨[.call request], ?_⟩
    rw [List.nil_append, callAndHandleInterrupts]
    cases rest with
    | nil => rw [handleInterrupts, if_neg hresult]; rfl
    | cons next rest => rw [handleInterrupts, if_neg hresult]; rfl
  | cons first interrupts ih =>
    obtain ⟨hfirst, hrest⟩ := List.forall_mem_cons.1 hinterrupts
    obtain ⟨actions, hloop⟩ := ih hrest waitRequest
    refine ⟨.call request :: .interrupt (first.arg2.setWidth 32) :: actions, ?_⟩
    -- the call of the loop is the one `hloop` is about
    cases hresults : interrupts ++ result :: rest with
    | nil => exact absurd hresults (by simp)
    | cons next results =>
      rw [hresults, callAndHandleInterrupts] at hloop
      rw [List.cons_append, hresults, callAndHandleInterrupts, handleInterrupts, if_pos hfirst]
      cases hnext : handleInterrupts next results with
      | error stop =>
        rw [hnext] at hloop
        cases hloop
      | ok last =>
        rw [hnext] at hloop
        obtain ⟨rfl, rfl⟩ := Prod.mk.inj (Except.ok.inj hloop)
        rfl

/-! ### What is received -/

/-- **A request of the first version leaves the rest of the message as it was.** -/
theorem ffaUnpackDirectMessage_eq_iff (h : IsVersion1 result) :
    ffaUnpackDirectMessage result message = ffaUnpackDirectMessage result message' ↔
      SameRest message message' := by
  have hid : IsReq (result.arg0.setWidth 32) := by
    rcases h with h | h
    · exact .inl (by rw [h]; rfl)
    · exact .inr (by rw [h]; rfl)
  unfold ffaUnpackDirectMessage
  dsimp only
  rw [if_pos hid, if_pos hid]
  unfold unpackVersion1
  rw [DirectMsgArgsEx.mk.injEq]
  constructor
  · rintro ⟨-, -, -, hguid, -, -, -, -, -, -, h6, h7, h8, h9, h10, h11, h12, h13⟩
    exact ⟨hguid, h6, h7, h8, h9, h10, h11, h12, h13⟩
  · rintro ⟨hguid, h6, h7, h8, h9, h10, h11, h12, h13⟩
    exact ⟨rfl, rfl, rfl, hguid, rfl, rfl, rfl, rfl, rfl, rfl, h6, h7, h8, h9, h10, h11, h12, h13⟩

/-- One of the second version replaces the whole message. -/
theorem ffaUnpackDirectMessage_eq (h : result.arg0 = fidMsgSendDirectReq2.setWidth 64) :
    ffaUnpackDirectMessage result message = ffaUnpackDirectMessage result message' := by
  have hid : ¬ IsReq (result.arg0.setWidth 32) := by
    rw [h]
    decide
  unfold ffaUnpackDirectMessage
  dsimp only
  rw [if_neg hid, if_neg hid]
  rfl

/-- Two runs return with success, and leave the same message. -/
def SameReceived (run run' : Except Stop Received) : Prop :=
  ∃ received received', run = .ok received ∧ run' = .ok received' ∧
    received.status = .success ∧ received'.status = .success ∧
    received.message = received'.message

section Receivers

variable {ffaStatusToEfiStatus : BitVec 64 → EfiStatus}

/-- A request is unpacked. -/
theorem receiveMessage_request (h : result.arg0 = fidMsgSendDirectReq32.setWidth 64 ∨
    result.arg0 = fidMsgSendDirectReq64.setWidth 64 ∨
    result.arg0 = fidMsgSendDirectReq2.setWidth 64) :
    receiveMessage ffaStatusToEfiStatus result message =
      .ok (.success, ffaUnpackDirectMessage result message) := by
  have herror : result.arg0 ≠ fidError.setWidth 64 := by
    rcases h with h | h | h <;> rw [h] <;> decide
  unfold receiveMessage
  rw [if_neg herror, if_pos h]

/-- Success replaces the whole message. -/
theorem receiveMessage_success (h : result.arg0 = fidSuccess32.setWidth 64) :
    receiveMessage ffaStatusToEfiStatus result message =
      .ok (.success, { DirectMsgArgsEx.zero with functionId := fidSuccess32 }) := by
  unfold receiveMessage
  rw [h, if_neg (by decide), if_neg (by decide), if_pos rfl]
  rfl

/-- Each function makes of the result delivered what `receiveMessage` does. -/
theorem Receiver.run_eq (receiver : Receiver) (hdelivers : Delivers results result)
    (request message : DirectMsgArgsEx) {status : EfiStatus} {received : DirectMsgArgsEx}
    (hreceive : receiveMessage ffaStatusToEfiStatus result message = .ok (status, received)) :
    ∃ actions, receiver.run ffaStatusToEfiStatus results request message =
      .ok ⟨status, received, actions⟩ := by
  obtain ⟨interrupts, rest, rfl, hinterrupts, hresult⟩ := hdelivers
  -- the functions differ in the request of their first call only
  have hcall : ∀ request, ∃ actions, (callAndHandleInterrupts request
      (interrupts ++ result :: rest) >>= fun called =>
        receiveMessage ffaStatusToEfiStatus called.1 message >>= fun out =>
          pure (Received.mk out.1 out.2 called.2)) = .ok ⟨status, received, actions⟩ := by
    intro request
    obtain ⟨actions, hactions⟩ :=
      @callAndHandleInterrupts_eq result interrupts rest hinterrupts hresult request
    refine ⟨actions, ?_⟩
    rw [hactions]
    change (receiveMessage ffaStatusToEfiStatus result message >>= fun out =>
      pure (Received.mk out.1 out.2 actions)) = _
    rw [hreceive]
    rfl
  cases receiver with
  | messageWait => exact hcall waitRequest
  | messageSendDirectResp32 =>
    exact hcall (ffaPackDirectMessage .zero { request with functionId := fidMsgSendDirectResp32 })
  | messageSendDirectResp64 =>
    exact hcall (ffaPackDirectMessage .zero { request with functionId := fidMsgSendDirectResp64 })
  | messageSendDirectResp2 =>
    exact hcall (ffaPackDirectMessage .zero { request with functionId := fidMsgSendDirectResp2 })

/-- Two runs on the same result. -/
theorem sameReceived_of_receive (receiver : Receiver) (hdelivers : Delivers results result)
    (request request' : DirectMsgArgsEx) {received received' : DirectMsgArgsEx}
    (h : receiveMessage ffaStatusToEfiStatus result message = .ok (.success, received))
    (h' : receiveMessage ffaStatusToEfiStatus result message' = .ok (.success, received')) :
    SameReceived (receiver.run ffaStatusToEfiStatus results request message)
        (receiver.run ffaStatusToEfiStatus results request' message') ↔ received = received' := by
  obtain ⟨actions, hrun⟩ := receiver.run_eq hdelivers request message h
  obtain ⟨actions', hrun'⟩ := receiver.run_eq hdelivers request' message' h'
  rw [hrun, hrun']
  constructor
  · rintro ⟨_, _, hok, hok', -, -, heq⟩
    rwa [← Except.ok.inj hok, ← Except.ok.inj hok'] at heq
  · exact fun heq => ⟨_, _, rfl, rfl, rfl, rfl, heq⟩

/-- **What is received depends on what was delivered alone, exactly** where that is no request
of the first version, or the message structures agree in what such a request leaves. -/
theorem received_same_iff (receiver : Receiver) (hdelivers : Delivers results result)
    (hmessage : IsMessage result) (request request' message message' : DirectMsgArgsEx) :
    SameReceived (receiver.run ffaStatusToEfiStatus results request message)
        (receiver.run ffaStatusToEfiStatus results request' message') ↔
      ¬ IsVersion1 result ∨ SameRest message message' := by
  by_cases hversion : IsVersion1 result
  · have hreq : result.arg0 = fidMsgSendDirectReq32.setWidth 64 ∨
        result.arg0 = fidMsgSendDirectReq64.setWidth 64 ∨
        result.arg0 = fidMsgSendDirectReq2.setWidth 64 := hversion.imp_right .inl
    rw [sameReceived_of_receive receiver hdelivers request request' (receiveMessage_request hreq)
      (receiveMessage_request hreq), ffaUnpackDirectMessage_eq_iff hversion]
    exact ⟨.inr, fun hor => hor.resolve_left (not_not.2 hversion)⟩
  · refine iff_of_true ?_ (.inl hversion)
    rcases hmessage with h | h | h | h
    · exact absurd (.inl h) hversion
    · exact absurd (.inr h) hversion
    · exact (sameReceived_of_receive receiver hdelivers request request'
        (receiveMessage_request (.inr (.inr h))) (receiveMessage_request (.inr (.inr h)))).2
        (ffaUnpackDirectMessage_eq h)
    · exact (sameReceived_of_receive receiver hdelivers request request'
        (receiveMessage_success h) (receiveMessage_success h)).2 rfl

end Receivers

/-- A result with a function id, from one party to another. -/
def resultOf (functionId : BitVec 32) : ArmSxcArgs :=
  { ArmSxcArgs.zero with arg0 := functionId.setWidth 64, arg1 := packIds 0x8001 0x8002 }

/-- An interrupt and a request of the second version. -/
theorem received_same_version2 :
    SameReceived
      (Receiver.messageWait.run (fun _ => .invalidParameter)
        [resultOf fidInterrupt, resultOf fidMsgSendDirectReq2] .zero
        (countingRequest fidMsgSendDirectReq2))
      (Receiver.messageWait.run (fun _ => .invalidParameter)
        [resultOf fidInterrupt, resultOf fidMsgSendDirectReq2] .zero .zero) :=
  (received_same_iff .messageWait
    ⟨[resultOf fidInterrupt], [], rfl, fun r hr => by rw [List.mem_singleton.1 hr]; rfl, by decide⟩
    (.inr (.inr (.inl rfl))) .zero .zero (countingRequest fidMsgSendDirectReq2) .zero).2
    (.inl (by unfold IsVersion1; decide))

/-- **A request of the first version behind one of the second**: the GUID and eight arguments of
the earlier message are still there. -/
theorem received_leftover :
    ∃ received received',
      Receiver.messageSendDirectResp2.run (fun _ => .invalidParameter)
          [resultOf fidMsgSendDirectReq32] .zero (countingRequest fidMsgSendDirectReq2) =
        .ok received ∧
      Receiver.messageSendDirectResp2.run (fun _ => .invalidParameter)
          [resultOf fidMsgSendDirectReq32] .zero .zero = .ok received' ∧
      received.status = .success ∧ received'.status = .success ∧
      received.message.serviceGuid = (countingRequest fidMsgSendDirectReq2).serviceGuid ∧
      received.message.arg13 = 13 ∧ received'.message.arg13 = 0 ∧
      received.message ≠ received'.message := by
  refine ⟨_, _, rfl, rfl, rfl, rfl, rfl, rfl, rfl, fun heq => ?_⟩
  exact absurd (congrArg DirectMsgArgsEx.arg13 heq) (by decide)

end Ffa
end FfaFeature
