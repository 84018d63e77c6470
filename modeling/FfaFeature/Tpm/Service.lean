/-
# The TPM service

`TpmServiceLib.c`.  Each locality has a page of registers that the service shares
with its clients (`crb`).  A client prepares its page and sends a `START` message;
the service looks at the page of the locality, carries out one operation of the
state translation library at most, moves its state machine (`mCurrentState`) or
its active locality, and cleans the registers of the active locality's page.  The
secure world opens and closes localities with `MANAGE_LOCALITY`.

A request is a step of `serviceMachine`, with the external TPM's behaviour during
it as part of the input; the other inputs are the clients' writes, which may leave
anything in any page.  The output of a step has the response, the operation
called with its status, and the events of the operation.
-/

import FfaFeature.Lib.Machine
import FfaFeature.Tpm.Sst

namespace FfaFeature
namespace Tpm

/-- `TpmState`. -/
inductive TpmState
  | idle
  | ready
  | complete
  | numTpmStates
  deriving DecidableEq, Repr

/-- `TpmLocalityState`. -/
inductive TpmLocalityState
  | closed
  | opened
  deriving DecidableEq, Repr

/-- The static variables, of the service and of the state translation library, and
the shared pages.  `none` is `NO_ACTIVE_LOCALITY`. -/
structure TpmService where
  mCurrentState : TpmState
  mActiveLocality : Option Locality
  mLocalityStates : Locality → TpmLocalityState
  mIsCrbInterface : Bool
  mIsIdleBypassSupported : Bool
  crb : Locality → PtpCrbRegisters

/-- The page of a locality replaced. -/
def TpmService.setPage (s : TpmService) (locality : Locality) (page : PtpCrbRegisters) :
    TpmService :=
  { s with crb := Function.update s.crb locality page }

/-- The operations of the state translation library. -/
inductive SstOp
  | goIdle
  | cmdReady
  | start
  | localityRequest
  | localityRelinquish
  deriving DecidableEq, Repr

/-- A call of an operation, with the status it returned. -/
structure SstCall where
  op : SstOp
  locality : Locality
  status : EfiStatus
  deriving DecidableEq, Repr

/-- What a handler leaves: the status for `Arg0`, the service, and the operation it
called. -/
structure Handled where
  status : BitVec 64
  service : TpmService
  call : Option SstCall

section Handlers

variable (platform : TpmPlatform)

/-- `ConvertEfiToTpmStatus`. -/
def convertEfiToTpmStatus (status : EfiStatus) : BitVec 64 :=
  if status = EfiStatus.success then platform.successOk
  else if status = EfiStatus.deviceError then platform.errorDenied
  else if status = EfiStatus.bufferTooSmall then platform.errorNomem
  else platform.errorDenied

/-- `mInterfaceIdDefault.Uint32` as `TpmServiceInit` sets it: type 1, version 1,
five localities, CRB supported. -/
def mInterfaceIdDefault : BitVec 32 := 0x4111

/-- `InternalTpmCrb->CrbDataBuffer`, the address. -/
def crbDataBufferAddress (locality : Locality) : BitVec 64 :=
  platform.pcdTpmInternalBaseAddress + BitVec.ofNat 64 (locality.val * 0x1000) + 0x80

/-- The command and response addresses and sizes, as `InitInternalCrb` and
`CleanInternalCrb` set them. -/
def setBuffers (locality : Locality) (page : PtpCrbRegisters) : PtpCrbRegisters :=
  { page with
    crbControlCommandAddressHigh :=
      (crbDataBufferAddress platform locality >>> 32).setWidth 32
    crbControlCommandAddressLow := (crbDataBufferAddress platform locality).setWidth 32
    crbControlCommandSize := BitVec.ofNat 32 crbDataBufferSize
    crbControlResponseAddrss := crbDataBufferAddress platform locality
    crbControlResponseSize := BitVec.ofNat 32 crbDataBufferSize }

/-- `InitInternalCrb`: the page it leaves. -/
def initInternalCrb (locality : Locality) : PtpCrbRegisters :=
  setBuffers platform locality
    { PtpCrbRegisters.zero with
      interfaceId := mInterfaceIdDefault
      crbControlStatus := statusTpmIdle }

/-- `CleanInternalCrb` on the page of the active locality.  `LocalityState` and
`LocalityStatus` are updated in place, the others assigned. -/
def cleanPage (locality : Locality) (mCurrentState : TpmState) (page : PtpCrbRegisters) :
    PtpCrbRegisters :=
  setBuffers platform locality
    { page with
      localityState := page.localityState ||| localityStateActiveLocality locality |||
        localityStateTpmRegValidStatus ||| localityStateLocalityAssigned
      localityStatus := page.localityStatus ||| localityStatusGranted
      localityControl := 0
      interfaceId := mInterfaceIdDefault
      crbControlExtension := 0
      crbControlRequest := 0
      crbControlCancel := 0
      crbControlStart := 0
      crbInterruptEnable := 0
      crbInterruptStatus := 0
      crbControlStatus := if mCurrentState = .idle then statusTpmIdle else 0 }

/-- `CleanInternalCrb`. -/
def cleanInternalCrb (s : TpmService) : TpmService :=
  match s.mActiveLocality with
  | none => s
  | some locality =>
    s.setPage locality (cleanPage platform locality s.mCurrentState (s.crb locality))

/-- The state after an operation: moved, where it succeeded. -/
def TpmService.moveTo (s : TpmService) (status : EfiStatus) (state : TpmState) : TpmService :=
  if status = EfiStatus.success then { s with mCurrentState := state } else s

/-- The same, the data buffer of the locality set to zero with it. -/
def TpmService.moveToAndClear (s : TpmService) (status : EfiStatus) (state : TpmState)
    (locality : Locality) : TpmService :=
  if status = EfiStatus.success then
    { s.setPage locality { s.crb locality with crbDataBuffer := fun _ => 0 } with
      mCurrentState := state }
  else s

section Updates

variable (s : TpmService) (status : EfiStatus) (state : TpmState) (locality : Locality)
  (page : PtpCrbRegisters)

/-- A page that is written leaves the state. -/
@[simp] theorem TpmService.setPage_mCurrentState :
    (s.setPage locality page).mCurrentState = s.mCurrentState := rfl

/-- It leaves the active locality. -/
@[simp] theorem TpmService.setPage_mActiveLocality :
    (s.setPage locality page).mActiveLocality = s.mActiveLocality := rfl

/-- It leaves the localities' states. -/
@[simp] theorem TpmService.setPage_mLocalityStates :
    (s.setPage locality page).mLocalityStates = s.mLocalityStates := rfl

/-- The page that is written. -/
@[simp] theorem TpmService.setPage_crb_self : (s.setPage locality page).crb locality = page :=
  Function.update_self ..

/-- The other pages. -/
@[simp] theorem TpmService.setPage_crb_ne {other : Locality} (hne : other ≠ locality) :
    (s.setPage locality page).crb other = s.crb other :=
  Function.update_of_ne hne ..

/-- A move leads to its state on success. -/
@[simp] theorem TpmService.moveTo_mCurrentState :
    (s.moveTo status state).mCurrentState =
      if status = EfiStatus.success then state else s.mCurrentState := by
  unfold TpmService.moveTo
  split_ifs <;> rfl

/-- It leaves the active locality. -/
@[simp] theorem TpmService.moveTo_mActiveLocality :
    (s.moveTo status state).mActiveLocality = s.mActiveLocality := by
  unfold TpmService.moveTo
  split_ifs <;> rfl

/-- It leaves the localities' states. -/
@[simp] theorem TpmService.moveTo_mLocalityStates :
    (s.moveTo status state).mLocalityStates = s.mLocalityStates := by
  unfold TpmService.moveTo
  split_ifs <;> rfl

/-- It leaves the pages. -/
@[simp] theorem TpmService.moveTo_crb : (s.moveTo status state).crb = s.crb := by
  unfold TpmService.moveTo
  split_ifs <;> rfl

/-- So does one that clears a data buffer. -/
@[simp] theorem TpmService.moveToAndClear_mCurrentState :
    (s.moveToAndClear status state locality).mCurrentState =
      if status = EfiStatus.success then state else s.mCurrentState := by
  unfold TpmService.moveToAndClear
  split_ifs <;> rfl

/-- It leaves the active locality. -/
@[simp] theorem TpmService.moveToAndClear_mActiveLocality :
    (s.moveToAndClear status state locality).mActiveLocality = s.mActiveLocality := by
  unfold TpmService.moveToAndClear
  split_ifs <;> rfl

/-- It leaves the localities' states. -/
@[simp] theorem TpmService.moveToAndClear_mLocalityStates :
    (s.moveToAndClear status state locality).mLocalityStates = s.mLocalityStates := by
  unfold TpmService.moveToAndClear
  split_ifs <;> rfl

/-- It leaves the other pages. -/
@[simp] theorem TpmService.moveToAndClear_crb_ne {other : Locality} (hne : other ≠ locality) :
    (s.moveToAndClear status state locality).crb other = s.crb other := by
  unfold TpmService.moveToAndClear
  split_ifs
  · exact Function.update_of_ne hne ..
  · rfl

/-- Clearing the data buffer leaves the registers. -/
@[simp] theorem TpmService.moveToAndClear_registers :
    ((s.moveToAndClear status state locality).crb locality).registers =
      (s.crb locality).registers := by
  unfold TpmService.moveToAndClear
  split_ifs
  · simp [TpmService.setPage, PtpCrbRegisters.registers]
  · rfl

end Updates

/-- What `HandleCommand` returns after an operation. -/
def commandHandled (op : SstOp) (locality : Locality) (status : EfiStatus)
    (service : TpmService) : Handled :=
  ⟨convertEfiToTpmStatus platform status, service, some ⟨op, locality, status⟩⟩

/-- `HandleCommand`, the active locality being `locality`. -/
def handleCommand (s : TpmService) (locality : Locality) : TpmIo Handled :=
  let internalTpmCrb := s.crb locality
  -- what is not one of the cases below is denied
  let denied : Handled :=
    ⟨convertEfiToTpmStatus platform EfiStatus.accessDenied, s, none⟩
  match s.mCurrentState with
  | .idle =>
    if internalTpmCrb.crbControlRequest &&& requestCommandReady ≠ 0 then do
      let status ← tpmSstCmdReady s.mIsCrbInterface locality
      pure (commandHandled platform .cmdReady locality status (s.moveTo status .ready))
    else pure denied
  | .ready =>
    if internalTpmCrb.crbControlRequest &&& requestGoIdle ≠ 0 then do
      let status ← tpmSstGoIdle s.mIsCrbInterface locality
      pure (commandHandled platform .goIdle locality status (s.moveTo status .idle))
    else if internalTpmCrb.crbControlRequest &&& requestCommandReady ≠ 0 then do
      let status ← tpmSstCmdReady s.mIsCrbInterface locality
      pure (commandHandled platform .cmdReady locality status s)
    else if internalTpmCrb.crbControlStart &&& controlStart ≠ 0 then do
      let (status, page) ← tpmSstStart s.mIsCrbInterface locality internalTpmCrb
      pure (commandHandled platform .start locality status
        ((s.setPage locality page).moveTo status .complete))
    else pure denied
  | .complete =>
    if internalTpmCrb.crbControlRequest &&& requestGoIdle ≠ 0 then do
      let status ← tpmSstGoIdle s.mIsCrbInterface locality
      pure (commandHandled platform .goIdle locality status
        (s.moveToAndClear status .idle locality))
    else if internalTpmCrb.crbControlRequest &&& requestCommandReady ≠ 0 then
      if s.mIsIdleBypassSupported then do
        let status ← tpmSstCmdReady s.mIsCrbInterface locality
        pure (commandHandled platform .cmdReady locality status
          (s.moveToAndClear status .ready locality))
      else pure denied
    else if internalTpmCrb.crbControlStart &&& controlStart ≠ 0 then
      if s.mIsIdleBypassSupported then do
        let (status, page) ← tpmSstStart s.mIsCrbInterface locality internalTpmCrb
        pure (commandHandled platform .start locality status (s.setPage locality page))
      else pure denied
    else pure denied
  | .numTpmStates => do
    let status ← tpmSstGoIdle s.mIsCrbInterface locality
    pure (commandHandled platform .goIdle locality status
      (s.moveToAndClear status .idle locality))

/-- What `HandleLocalityRequest` returns after an operation: on success the page is
initialised and the active locality changed. -/
def localityHandled (s : TpmService) (op : SstOp) (locality : Locality) (status : EfiStatus)
    (activeLocality : Option Locality) : Handled :=
  { status := convertEfiToTpmStatus platform status
    service :=
      if status = EfiStatus.success then
        { s.setPage locality (initInternalCrb platform locality) with
          mActiveLocality := activeLocality }
      else s
    call := some ⟨op, locality, status⟩ }

/-- `HandleLocalityRequest`. -/
def handleLocalityRequest (s : TpmService) (locality : Locality) : TpmIo Handled :=
  let internalTpmCrb := s.crb locality
  if internalTpmCrb.localityControl &&& localityControlRelinquish ≠ 0 then
    if some locality ≠ s.mActiveLocality then pure ⟨platform.errorDenied, s, none⟩
    else do
      let status ← tpmSstLocalityRelinquish s.mIsCrbInterface locality
      pure (localityHandled platform s .localityRelinquish locality status none)
  else if internalTpmCrb.localityControl &&& localityControlRequestAccess ≠ 0 then
    if s.mActiveLocality ≠ none ∧ s.mActiveLocality ≠ some locality then
      pure ⟨platform.errorDenied, s, none⟩
    else do
      let status ← tpmSstLocalityRequest s.mIsCrbInterface locality
      pure (localityHandled platform s .localityRequest locality status (some locality))
  else pure ⟨platform.errorDenied, s, none⟩

/-- `Function` of `StartHandler` and `LocalityOperation` of `ManageLocalityHandler`:
`Arg1` in a `UINT16`. -/
def requestFunction (request : DirectMsgArgsEx) : BitVec 16 := request.arg1.setWidth 16

/-- `Locality`, if it is below `NUM_LOCALITIES`: `Arg2` in a `UINT8`. -/
def requestLocality (request : DirectMsgArgsEx) : Option Locality :=
  if h : (request.arg2.setWidth 8).toNat < numLocalities then
    some ⟨(request.arg2.setWidth 8).toNat, h⟩
  else none

/-- `StartHandler` up to its exit. -/
def startDispatch (s : TpmService) (request : DirectMsgArgsEx) : TpmIo Handled :=
  match requestLocality request with
  | none => pure ⟨platform.errorInvarg, s, none⟩
  | some locality =>
    if s.mLocalityStates locality = .closed then pure ⟨platform.errorDenied, s, none⟩
    else if requestFunction request = platform.startFuncQualifierCommand then
      if some locality = s.mActiveLocality then handleCommand platform s locality
      else pure ⟨platform.errorInvarg, s, none⟩
    else if requestFunction request = platform.startFuncQualifierLocality then
      handleLocalityRequest platform s locality
    else pure ⟨platform.errorInvarg, s, none⟩

/-- `StartHandler`: whatever happened, the page of the active locality is
cleaned. -/
def startHandler (s : TpmService) (request : DirectMsgArgsEx) : TpmIo Handled := do
  let handled ← startDispatch platform s request
  pure { handled with service := cleanInternalCrb platform handled.service }

/-- `ManageLocalityHandler`: the status, and the service. -/
def manageLocalityHandler (s : TpmService) (request : DirectMsgArgsEx) :
    BitVec 64 × TpmService :=
  if request.sourceId &&& 0xFF00 ≠ 0xFF00 then (platform.errorDenied, s)
  else
    match requestLocality request with
    | none => (platform.errorInvarg, s)
    | some locality =>
      if requestFunction request = platform.manageLocalityOpen then
        (platform.successOk,
          { s with mLocalityStates := Function.update s.mLocalityStates locality .opened })
      else if requestFunction request = platform.manageLocalityClose then
        (platform.successOk,
          { s with mLocalityStates := Function.update s.mLocalityStates locality .closed })
      else (platform.errorInvarg, s)

/-- `TpmServiceInit`, given the interface identifier of the external TPM. -/
def tpmServiceInit (interfaceId : BitVec 32) : TpmService where
  mCurrentState := .idle
  mActiveLocality := none
  mLocalityStates := fun _ => .closed
  mIsCrbInterface := (tpmSstInit interfaceId).1
  mIsIdleBypassSupported := (tpmSstInit interfaceId).2
  crb := initInternalCrb platform

/-! ### The service as a machine -/

/-- A request with the structure it is answered in and the TPM's behaviour during
it, or the clients' writes to the shared pages. -/
inductive ServiceInput
  | request (request response : DirectMsgArgsEx) (tpm : ExternalTpm)
  | clientWrite (crb : Locality → PtpCrbRegisters)

/-- The response, the operation called, and its events. -/
structure ServiceOutput where
  response : Option DirectMsgArgsEx
  call : Option SstCall
  events : List Event

/-- A response with the status in `Arg0` and no operation called. -/
def answer (response : DirectMsgArgsEx) (status : BitVec 64) : ServiceOutput :=
  ⟨some { response with arg0 := status }, none, []⟩

/-- `TpmServiceHandle`. -/
def tpmServiceHandle (s : TpmService) (request response : DirectMsgArgsEx) (tpm : ExternalTpm) :
    TpmService × ServiceOutput :=
  let opcode := request.arg0
  if opcode = platform.getInterfaceVersion then
    (s, answer { response with arg1 := 0x10000 } platform.successOkResultsReturned)
  else if opcode = platform.getFeatureInfo then (s, answer response platform.errorNotsup)
  else if opcode = platform.start then
    let result := (startHandler platform s request).run tpm []
    (result.1.service,
      ⟨some { response with arg0 := result.1.status }, result.1.call, result.2⟩)
  else if opcode = platform.registerForNotification then (s, answer response platform.errorNotsup)
  else if opcode = platform.unregisterFromNotification then
    (s, answer response platform.errorNotsup)
  else if opcode = platform.finishNotified then (s, answer response platform.errorNotsup)
  else if opcode = platform.manageLocality then
    ((manageLocalityHandler platform s request).2,
      answer response (manageLocalityHandler platform s request).1)
  else (s, answer response platform.errorNofunc)

/-- The service as a machine. -/
def serviceMachine : Machine TpmService ServiceInput ServiceOutput where
  step s
    | .request request response tpm => tpmServiceHandle platform s request response tpm
    | .clientWrite crb => ({ s with crb := crb }, ⟨none, none, []⟩)

/-- A request is handled by `TpmServiceHandle`. -/
theorem serviceMachine_request (s : TpmService) (request response : DirectMsgArgsEx)
    (tpm : ExternalTpm) :
    (serviceMachine platform).step s (.request request response tpm) =
      tpmServiceHandle platform s request response tpm := rfl

/-- The states reached from `TpmServiceInit`. -/
def Reachable (interfaceId : BitVec 32) (s : TpmService) : Prop :=
  (serviceMachine platform).Reachable (tpmServiceInit platform interfaceId) s

end Handlers

end Tpm
end FfaFeature
