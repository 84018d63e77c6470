/-
# What one request does

A `START` request calls one operation of the state translation library or none.
Which one is a function of the state and the request (`startOp`), and so is the
effect of its outcome on the service (`applyOp`); `startDispatch_result` says that
this is all that happens, and `tpmServiceHandle_cases` the same of a whole request.
The properties of runs are proved from these alone.
-/

import FfaFeature.Tpm.Service

namespace FfaFeature
namespace Tpm

/-! ### The operations, uniformly -/

/-- An operation, with the page of its locality; only `TpmSstStart` changes it. -/
def sstRun (mIsCrbInterface : Bool) (op : SstOp) (locality : Locality) (page : PtpCrbRegisters) :
    TpmIo (EfiStatus × PtpCrbRegisters) :=
  match op with
  | .goIdle => do
    let status ← tpmSstGoIdle mIsCrbInterface locality
    pure (status, page)
  | .cmdReady => do
    let status ← tpmSstCmdReady mIsCrbInterface locality
    pure (status, page)
  | .start => do
    let (status, page) ← tpmSstStart mIsCrbInterface locality page
    pure (status, page)
  | .localityRequest => do
    let status ← tpmSstLocalityRequest mIsCrbInterface locality
    pure (status, page)
  | .localityRelinquish => do
    let status ← tpmSstLocalityRelinquish mIsCrbInterface locality
    pure (status, page)

/-- The operation `HandleCommand` calls. -/
def commandOp (s : TpmService) (locality : Locality) : Option SstOp :=
  let internalTpmCrb := s.crb locality
  match s.mCurrentState with
  | .idle =>
    if internalTpmCrb.crbControlRequest &&& requestCommandReady ≠ 0 then some .cmdReady else none
  | .ready =>
    if internalTpmCrb.crbControlRequest &&& requestGoIdle ≠ 0 then some .goIdle
    else if internalTpmCrb.crbControlRequest &&& requestCommandReady ≠ 0 then some .cmdReady
    else if internalTpmCrb.crbControlStart &&& controlStart ≠ 0 then some .start
    else none
  | .complete =>
    if internalTpmCrb.crbControlRequest &&& requestGoIdle ≠ 0 then some .goIdle
    else if internalTpmCrb.crbControlRequest &&& requestCommandReady ≠ 0 then
      if s.mIsIdleBypassSupported then some .cmdReady else none
    else if internalTpmCrb.crbControlStart &&& controlStart ≠ 0 then
      if s.mIsIdleBypassSupported then some .start else none
    else none
  | .numTpmStates => some .goIdle

/-- The operation `HandleLocalityRequest` calls. -/
def localityOp (s : TpmService) (locality : Locality) : Option SstOp :=
  let internalTpmCrb := s.crb locality
  if internalTpmCrb.localityControl &&& localityControlRelinquish ≠ 0 then
    if some locality ≠ s.mActiveLocality then none else some .localityRelinquish
  else if internalTpmCrb.localityControl &&& localityControlRequestAccess ≠ 0 then
    if s.mActiveLocality ≠ none ∧ s.mActiveLocality ≠ some locality then none
    else some .localityRequest
  else none

/-- The operation a `START` request calls, and its locality. -/
def startOp (platform : TpmPlatform) (s : TpmService) (request : DirectMsgArgsEx) :
    Option (SstOp × Locality) :=
  match requestLocality request with
  | none => none
  | some locality =>
    if s.mLocalityStates locality = .closed then none
    else if requestFunction request = platform.startFuncQualifierCommand then
      if some locality = s.mActiveLocality then (commandOp s locality).map (·, locality) else none
    else if requestFunction request = platform.startFuncQualifierLocality then
      (localityOp s locality).map (·, locality)
    else none

/-- The service after an operation that returned `status` and left `page`. -/
def applyOp (platform : TpmPlatform) (s : TpmService) (op : SstOp) (locality : Locality)
    (status : EfiStatus) (page : PtpCrbRegisters) : TpmService :=
  match op, s.mCurrentState with
  | .goIdle, .ready => s.moveTo status .idle
  | .goIdle, _ => s.moveToAndClear status .idle locality
  | .cmdReady, .idle => s.moveTo status .ready
  | .cmdReady, .complete => s.moveToAndClear status .ready locality
  | .cmdReady, _ => s
  | .start, .ready => (s.setPage locality page).moveTo status .complete
  | .start, _ => s.setPage locality page
  | .localityRequest, _ =>
    (localityHandled platform s .localityRequest locality status (some locality)).service
  | .localityRelinquish, _ =>
    (localityHandled platform s .localityRelinquish locality status none).service

section Dispatch

variable (platform : TpmPlatform) (s : TpmService) (tpm : ExternalTpm) (h : List Event)

/-- **The results of `StartHandler` up to its exit**: a refusal that changes
nothing, or one operation with its effect. -/
inductive StartResult (call : Option (SstOp × Locality)) : Handled × List Event → Prop
  | refused (status : BitVec 64) : call = none →
      status = platform.errorInvarg ∨ status = platform.errorDenied →
      StartResult call (⟨status, s, none⟩, [])
  | called (op : SstOp) (locality : Locality) : call = some (op, locality) →
      StartResult call
        (⟨convertEfiToTpmStatus platform
            ((sstRun s.mIsCrbInterface op locality (s.crb locality)).run tpm h).1.1,
          applyOp platform s op locality
            ((sstRun s.mIsCrbInterface op locality (s.crb locality)).run tpm h).1.1
            ((sstRun s.mIsCrbInterface op locality (s.crb locality)).run tpm h).1.2,
          some ⟨op, locality,
            ((sstRun s.mIsCrbInterface op locality (s.crb locality)).run tpm h).1.1⟩⟩,
        ((sstRun s.mIsCrbInterface op locality (s.crb locality)).run tpm h).2)

/-- Access denied is converted to denied. -/
theorem convertEfiToTpmStatus_accessDenied :
    convertEfiToTpmStatus platform EfiStatus.accessDenied = platform.errorDenied := by
  simp only [convertEfiToTpmStatus]
  rw [if_neg (by decide), if_neg (by decide), if_neg (by decide)]

/-- `HandleCommand`. -/
theorem handleCommand_result (locality : Locality) :
    StartResult platform s tpm h ((commandOp s locality).map (·, locality))
      ((handleCommand platform s locality).run tpm h) := by
  have hdenied := convertEfiToTpmStatus_accessDenied platform
  rcases s with ⟨state, active, states, isCrb, bypass, crb⟩
  unfold handleCommand commandOp
  cases state with
  | idle =>
    dsimp only
    split_ifs
    · exact .called .cmdReady locality rfl
    · exact .refused _ rfl (.inr hdenied)
  | ready =>
    dsimp only
    split_ifs
    · exact .called .goIdle locality rfl
    · exact .called .cmdReady locality rfl
    · exact .called .start locality rfl
    · exact .refused _ rfl (.inr hdenied)
  | complete =>
    dsimp only
    split_ifs
    · exact .called .goIdle locality rfl
    · exact .called .cmdReady locality rfl
    · exact .refused _ rfl (.inr hdenied)
    · exact .called .start locality rfl
    · exact .refused _ rfl (.inr hdenied)
    · exact .refused _ rfl (.inr hdenied)
  | numTpmStates => exact .called .goIdle locality rfl

/-- `HandleLocalityRequest`. -/
theorem handleLocalityRequest_result (locality : Locality) :
    StartResult platform s tpm h ((localityOp s locality).map (·, locality))
      ((handleLocalityRequest platform s locality).run tpm h) := by
  unfold handleLocalityRequest localityOp
  dsimp only
  split_ifs
  · exact .refused _ rfl (.inr rfl)
  · exact .called .localityRelinquish locality rfl
  · exact .refused _ rfl (.inr rfl)
  · exact .called .localityRequest locality rfl
  · exact .refused _ rfl (.inr rfl)

/-- **What a `START` request does before the clean-up.** -/
theorem startDispatch_result (request : DirectMsgArgsEx) :
    StartResult platform s tpm h (startOp platform s request)
      ((startDispatch platform s request).run tpm h) := by
  unfold startDispatch startOp
  cases requestLocality request with
  | none => exact .refused _ rfl (.inl rfl)
  | some locality =>
    dsimp only
    split_ifs
    · exact .refused _ rfl (.inr rfl)
    · exact handleCommand_result platform s tpm h locality
    · exact .refused _ rfl (.inl rfl)
    · exact handleLocalityRequest_result platform s tpm h locality
    · exact .refused _ rfl (.inl rfl)

end Dispatch

/-! ### When an operation is called -/

/-- A command is no operation on localities. -/
theorem commandOp_ne_locality {s : TpmService} {locality : Locality} {op : SstOp}
    (h : commandOp s locality = some op) :
    op ≠ .localityRequest ∧ op ≠ .localityRelinquish := by
  unfold commandOp at h
  dsimp only at h
  repeat' split at h
  all_goals cases h <;> simp

/-- Only a service past `idle` starts a command. -/
theorem commandOp_start {s : TpmService} {locality : Locality}
    (h : commandOp s locality = some .start) :
    s.mCurrentState = .ready ∨ s.mCurrentState = .complete := by
  unfold commandOp at h
  dsimp only at h
  cases hs : s.mCurrentState with
  | idle => rw [hs] at h; dsimp only at h; split_ifs at h; cases h
  | ready => exact .inl rfl
  | complete => exact .inr rfl
  | numTpmStates => rw [hs] at h; cases h

/-- The locality operations: a relinquish by the active locality, a request while no
other one is active. -/
theorem localityOp_some {s : TpmService} {locality : Locality} {op : SstOp}
    (h : localityOp s locality = some op) :
    (op = .localityRelinquish ∧ s.mActiveLocality = some locality) ∨
      (op = .localityRequest ∧
        (s.mActiveLocality = none ∨ s.mActiveLocality = some locality)) := by
  unfold localityOp at h
  dsimp only at h
  split_ifs at h with h₁ h₂ h₃ h₄
  · exact .inl ⟨(Option.some.inj h).symm, (not_not.1 h₂).symm⟩
  · refine .inr ⟨(Option.some.inj h).symm, ?_⟩
    by_contra hno
    exact h₄ (not_or.1 hno)

section Calls

variable {platform : TpmPlatform} {s : TpmService} {request : DirectMsgArgsEx} {op : SstOp}
  {locality : Locality}

/-- A command comes from the active locality, a locality operation as
`localityOp_some` says. -/
theorem startOp_some (h : startOp platform s request = some (op, locality)) :
    s.mLocalityStates locality = .opened ∧
      ((s.mActiveLocality = some locality ∧ commandOp s locality = some op) ∨
        localityOp s locality = some op) := by
  unfold startOp at h
  cases hl : requestLocality request with
  | none => rw [hl] at h; cases h
  | some l =>
    rw [hl] at h
    dsimp only at h
    split_ifs at h with hclosed hcommand hactive hqual
    · obtain ⟨op', hop, he⟩ := Option.map_eq_some_iff.1 h
      obtain ⟨rfl, rfl⟩ := Prod.mk.inj he
      refine ⟨?_, .inl ⟨hactive.symm, hop⟩⟩
      cases hst : s.mLocalityStates l with
      | closed => exact absurd hst hclosed
      | opened => rfl
    · obtain ⟨op', hop, he⟩ := Option.map_eq_some_iff.1 h
      obtain ⟨rfl, rfl⟩ := Prod.mk.inj he
      refine ⟨?_, .inr hop⟩
      cases hst : s.mLocalityStates l with
      | closed => exact absurd hst hclosed
      | opened => rfl

/-- **Who may call what**: requests while no other locality is active, everything else
by the active locality. -/
theorem startOp_active (h : startOp platform s request = some (op, locality)) :
    (op ≠ .localityRequest → s.mActiveLocality = some locality) ∧
      (op = .localityRequest → s.mActiveLocality = none ∨ s.mActiveLocality = some locality) := by
  rcases (startOp_some h).2 with ⟨hactive, hop⟩ | hop
  · exact ⟨fun _ => hactive, fun he => absurd he (commandOp_ne_locality hop).1⟩
  · rcases localityOp_some hop with ⟨rfl, hactive⟩ | ⟨rfl, hactive⟩
    · exact ⟨fun _ => hactive, fun he => by cases he⟩
    · exact ⟨fun he => absurd rfl he, fun _ => hactive⟩

/-- A command starts in the ready or the complete state. -/
theorem startOp_start (h : startOp platform s request = some (.start, locality)) :
    s.mCurrentState = .ready ∨ s.mCurrentState = .complete := by
  rcases (startOp_some h).2 with ⟨-, hop⟩ | hop
  · exact commandOp_start hop
  · rcases localityOp_some hop with ⟨he, -⟩ | ⟨he, -⟩ <;> cases he

end Calls

/-! ### What an operation changes -/

section Effects

variable (platform : TpmPlatform) (s : TpmService) (op : SstOp) (locality : Locality)
  (status : EfiStatus) (page : PtpCrbRegisters)

/-- The active locality after an operation. -/
def nextActive (active : Option Locality) : SstOp → Locality → EfiStatus → Option Locality
  | .localityRequest, locality, status =>
    if status = EfiStatus.success then some locality else active
  | .localityRelinquish, _, status => if status = EfiStatus.success then none else active
  | _, _, _ => active

/-- The state after an operation. -/
def nextState (state : TpmState) (op : SstOp) (status : EfiStatus) : TpmState :=
  if status = EfiStatus.success then
    match op, state with
    | .goIdle, _ => .idle
    | .cmdReady, .idle => .ready
    | .cmdReady, .complete => .ready
    | .start, .ready => .complete
    | _, _ => state
  else state

/-- A failed operation moves nothing. -/
theorem nextActive_failed {status : EfiStatus} (hst : status ≠ EfiStatus.success)
    (active : Option Locality) (op : SstOp) (locality : Locality) :
    nextActive active op locality status = active := by
  rcases op <;> simp [nextActive, hst]

/-- A failure leaves the state. -/
theorem nextState_failed {status : EfiStatus} (hst : status ≠ EfiStatus.success)
    (state : TpmState) (op : SstOp) : nextState state op status = state :=
  if_neg hst

/-- The active locality after an operation. -/
theorem applyOp_mActiveLocality :
    (applyOp platform s op locality status page).mActiveLocality =
      nextActive s.mActiveLocality op locality status := by
  unfold applyOp localityHandled nextActive
  cases op <;> cases s.mCurrentState <;> simp <;> split_ifs <;> rfl

/-- The state after it. -/
theorem applyOp_mCurrentState :
    (applyOp platform s op locality status page).mCurrentState =
      nextState s.mCurrentState op status := by
  unfold applyOp localityHandled nextState
  cases op <;> cases hs : s.mCurrentState <;> simp [hs] <;> split_ifs <;> simp [hs]

/-- The localities' states stay. -/
theorem applyOp_mLocalityStates :
    (applyOp platform s op locality status page).mLocalityStates = s.mLocalityStates := by
  unfold applyOp localityHandled
  cases op <;> cases s.mCurrentState <;> simp <;> split_ifs <;> rfl

/-- The pages of the other localities stay. -/
theorem applyOp_crb_ne {other : Locality} (hne : other ≠ locality) :
    (applyOp platform s op locality status page).crb other = s.crb other := by
  unfold applyOp localityHandled
  cases op <;> cases s.mCurrentState <;> simp [hne] <;> split_ifs <;> simp [hne]

/-- The registers of the locality's page stay too, but where a locality operation
succeeded. -/
theorem applyOp_registers (hpage : page.registers = (s.crb locality).registers)
    (hno : status = EfiStatus.success → op ≠ .localityRequest ∧ op ≠ .localityRelinquish) :
    ((applyOp platform s op locality status page).crb locality).registers =
      (s.crb locality).registers := by
  unfold applyOp localityHandled
  cases op with
  | localityRequest =>
    have hst : status ≠ EfiStatus.success := fun he => (hno he).1 rfl
    simp [hst]
  | localityRelinquish =>
    have hst : status ≠ EfiStatus.success := fun he => (hno he).2 rfl
    simp [hst]
  | goIdle => cases s.mCurrentState <;> simp
  | cmdReady => cases s.mCurrentState <;> simp
  | start => cases s.mCurrentState <;> simp [hpage]

/-- A granted or relinquished locality has a fresh page. -/
theorem applyOp_crb_init (hop : op = .localityRequest ∨ op = .localityRelinquish) :
    (applyOp platform s op locality EfiStatus.success page).crb locality =
      initInternalCrb platform locality := by
  rcases hop with rfl | rfl <;> simp [applyOp, localityHandled, TpmService.setPage]

end Effects

/-- The locality active after an operation is the operation's, and was not given up
by it. -/
theorem nextActive_some {platform : TpmPlatform} {s : TpmService} {request : DirectMsgArgsEx}
    {op : SstOp} {l locality : Locality} {status : EfiStatus}
    (hop : startOp platform s request = some (op, l))
    (h : nextActive s.mActiveLocality op l status = some locality) :
    l = locality ∧ (op = .localityRelinquish → status ≠ EfiStatus.success) := by
  obtain ⟨hother, hrequest⟩ := startOp_active hop
  cases op with
  | localityRequest =>
    refine ⟨?_, fun he => by cases he⟩
    unfold nextActive at h
    dsimp only at h
    split_ifs at h
    · exact Option.some.inj h
    · rcases hrequest rfl with hnone | hsome
      · rw [hnone] at h
        cases h
      · exact Option.some.inj (hsome.symm.trans h)
  | localityRelinquish =>
    unfold nextActive at h
    dsimp only at h
    split_ifs at h with hst
    exact ⟨Option.some.inj ((hother (by simp)).symm.trans h), fun _ => hst⟩
  | goIdle => exact ⟨Option.some.inj ((hother (by simp)).symm.trans h), fun he => by cases he⟩
  | cmdReady => exact ⟨Option.some.inj ((hother (by simp)).symm.trans h), fun he => by cases he⟩
  | start => exact ⟨Option.some.inj ((hother (by simp)).symm.trans h), fun he => by cases he⟩

/-! ### A whole request -/

/-- `TpmSstStart` writes the data buffer and nothing else of the page. -/
theorem tpmSstStart_registers (mIsCrbInterface : Bool) (locality : Locality)
    (page : PtpCrbRegisters) :
    Traced.Returns (fun _ => True) (tpmSstStart mIsCrbInterface locality page)
      fun result => result.2.registers = page.registers := by
  unfold tpmSstStart
  refine Traced.Returns.skip fun pastEnd => Traced.Returns.skip fun _ =>
    Traced.Returns.skip fun _ => Traced.Returns.skip fun status => ?_
  split_ifs
  · exact Traced.Returns.pure rfl
  · refine Traced.Returns.skip fun status => ?_
    split_ifs
    · exact Traced.Returns.pure rfl
    · refine Traced.Returns.skip fun result => ?_
      dsimp only
      split_ifs
      · exact Traced.Returns.pure rfl
      · exact Traced.Returns.skip fun _ => Traced.Returns.pure rfl

/-- `TpmSstStart` among the operations. -/
theorem sstRun_start_fst (mIsCrbInterface : Bool) (locality : Locality) (page : PtpCrbRegisters)
    (tpm : ExternalTpm) (h : List Event) :
    ((sstRun mIsCrbInterface .start locality page).run tpm h).1 =
      ((tpmSstStart mIsCrbInterface locality page).run tpm h).1 := by
  unfold sstRun
  dsimp only
  -- the commands the TPM gets do not matter here, and are long
  generalize tpmSstStart mIsCrbInterface locality page = result
  rfl

/-- No operation changes the registers of its locality's page. -/
theorem sstRun_registers (mIsCrbInterface : Bool) (op : SstOp) (locality : Locality)
    (page : PtpCrbRegisters) (tpm : ExternalTpm) (h : List Event) :
    ((sstRun mIsCrbInterface op locality page).run tpm h).1.2.registers = page.registers := by
  cases op with
  | start =>
    rw [sstRun_start_fst]
    exact tpmSstStart_registers mIsCrbInterface locality page tpm trivial h
  | goIdle => rfl
  | cmdReady => rfl
  | localityRequest => rfl
  | localityRelinquish => rfl

/-- The clean-up leaves the state. -/
@[simp] theorem cleanInternalCrb_mCurrentState (platform : TpmPlatform) (s : TpmService) :
    (cleanInternalCrb platform s).mCurrentState = s.mCurrentState := by
  unfold cleanInternalCrb
  split <;> rfl

/-- It leaves the active locality. -/
@[simp] theorem cleanInternalCrb_mActiveLocality (platform : TpmPlatform) (s : TpmService) :
    (cleanInternalCrb platform s).mActiveLocality = s.mActiveLocality := by
  unfold cleanInternalCrb
  split <;> rfl

/-- It leaves the localities' states. -/
@[simp] theorem cleanInternalCrb_mLocalityStates (platform : TpmPlatform) (s : TpmService) :
    (cleanInternalCrb platform s).mLocalityStates = s.mLocalityStates := by
  unfold cleanInternalCrb
  split <;> rfl

/-- With no locality active there is nothing to clean. -/
theorem cleanInternalCrb_none (platform : TpmPlatform) {s : TpmService}
    (h : s.mActiveLocality = none) : cleanInternalCrb platform s = s := by
  unfold cleanInternalCrb
  rw [h]

/-- The page of the active locality is cleaned. -/
theorem cleanInternalCrb_some (platform : TpmPlatform) {s : TpmService} {locality : Locality}
    (h : s.mActiveLocality = some locality) :
    (cleanInternalCrb platform s).crb locality =
      cleanPage platform locality s.mCurrentState (s.crb locality) := by
  unfold cleanInternalCrb
  rw [h]
  exact TpmService.setPage_crb_self ..

/-- `StartHandler` is its dispatch, with the page of the active locality cleaned. -/
theorem startHandler_run (platform : TpmPlatform) (s : TpmService) (request : DirectMsgArgsEx)
    (tpm : ExternalTpm) (h : List Event) :
    (startHandler platform s request).run tpm h =
      ({ ((startDispatch platform s request).run tpm h).1 with
          service := cleanInternalCrb platform
            ((startDispatch platform s request).run tpm h).1.service },
        ((startDispatch platform s request).run tpm h).2) := by
  simp [startHandler]

section Request

variable (platform : TpmPlatform) (s : TpmService) (request response : DirectMsgArgsEx)
  (tpm : ExternalTpm)

/-- **The results of `TpmServiceHandle`**: a message that changes nothing, a `START`
as `StartResult` says and the clean-up after it, or a `MANAGE_LOCALITY`. -/
inductive HandleResult : TpmService × ServiceOutput → Prop
  | other (response : DirectMsgArgsEx) (status : BitVec 64) :
      request.arg0 ≠ platform.start → request.arg0 ≠ platform.manageLocality →
      HandleResult (s, answer response status)
  | start (handled : Handled) (events : List Event) : request.arg0 = platform.start →
      StartResult platform s tpm [] (startOp platform s request) (handled, events) →
      HandleResult (cleanInternalCrb platform handled.service,
        ⟨some { response with arg0 := handled.status }, handled.call, events⟩)
  | manageLocality : request.arg0 = platform.manageLocality →
      HandleResult ((manageLocalityHandler platform s request).2,
        answer response (manageLocalityHandler platform s request).1)

/-- `TpmServiceHandle` has one of these results. -/
theorem tpmServiceHandle_result :
    HandleResult platform s request response tpm
      (tpmServiceHandle platform s request response tpm) := by
  have hnodup := platform.opcodes_nodup
  simp only [List.nodup_cons, List.mem_cons, List.not_mem_nil, or_false, not_or] at hnodup
  obtain ⟨⟨-, hs₁, -, -, -, hm₁⟩, ⟨hs₂, -, -, -, hm₂⟩, ⟨hs₃, hs₄, hs₅, hs₆⟩, ⟨-, -, hm₃⟩,
    ⟨-, hm₄⟩, hm₅, -⟩ := hnodup
  have hstart := startDispatch_result platform s tpm [] request
  unfold tpmServiceHandle
  rw [startHandler_run]
  generalize (startDispatch platform s request).run tpm [] = result at hstart ⊢
  dsimp only
  split_ifs with h₁ h₂ h₃ h₄ h₅ h₆ h₇
  · exact .other _ _ (h₁ ▸ hs₁) (h₁ ▸ hm₁)
  · exact .other _ _ (h₂ ▸ hs₂) (h₂ ▸ hm₂)
  · exact .start _ _ h₃ hstart
  · exact .other _ _ h₃ (h₄ ▸ hm₃)
  · exact .other _ _ h₃ (h₅ ▸ hm₄)
  · exact .other _ _ h₃ (h₆ ▸ hm₅)
  · exact .manageLocality h₇
  · exact .other _ _ h₃ h₇

end Request

/-! ### A step of the machine -/

/-- `MANAGE_LOCALITY` changes nothing but the localities' states. -/
theorem manageLocalityHandler_frame (platform : TpmPlatform) (s : TpmService)
    (request : DirectMsgArgsEx) :
    (manageLocalityHandler platform s request).2.mActiveLocality = s.mActiveLocality ∧
      (manageLocalityHandler platform s request).2.mCurrentState = s.mCurrentState ∧
      (manageLocalityHandler platform s request).2.crb = s.crb := by
  unfold manageLocalityHandler
  repeat' split
  all_goals exact ⟨rfl, rfl, rfl⟩

section Machine

variable {platform : TpmPlatform} {s : TpmService} {i : ServiceInput}

/-- **A step with a call** is a request whose operation is the one called, with the
effect of its outcome. -/
theorem step_call_some {call : SstCall}
    (h : ((serviceMachine platform).step s i).2.call = some call) :
    ∃ request response tpm, i = .request request response tpm ∧
      request.arg0 = platform.start ∧
      startOp platform s request = some (call.op, call.locality) ∧
      call.status = ((sstRun s.mIsCrbInterface call.op call.locality
        (s.crb call.locality)).run tpm []).1.1 ∧
      ((serviceMachine platform).step s i).1.mActiveLocality =
        nextActive s.mActiveLocality call.op call.locality call.status ∧
      ((serviceMachine platform).step s i).1.mCurrentState =
        nextState s.mCurrentState call.op call.status ∧
      ((serviceMachine platform).step s i).1.mLocalityStates = s.mLocalityStates := by
  cases i with
  | clientWrite crb => cases h
  | request request response tpm =>
    have hresult := tpmServiceHandle_result platform s request response tpm
    refine ⟨request, response, tpm, rfl, ?_⟩
    rw [serviceMachine_request] at h ⊢
    generalize tpmServiceHandle platform s request response tpm = result at hresult h ⊢
    cases hresult with
    | other _ _ _ _ => cases h
    | manageLocality _ => cases h
    | start handled events harg hstart =>
      cases hstart with
      | refused _ _ _ => cases h
      | called op locality hop =>
        obtain rfl := Option.some.inj h
        simp only [cleanInternalCrb_mActiveLocality, cleanInternalCrb_mCurrentState,
          cleanInternalCrb_mLocalityStates, applyOp_mActiveLocality, applyOp_mCurrentState,
          applyOp_mLocalityStates]
        exact ⟨harg, hop, trivial, trivial, trivial, trivial⟩

/-- **A step without a call** emits nothing and keeps the state and the active
locality; a request that makes none while no locality is active keeps the pages. -/
theorem step_call_none (h : ((serviceMachine platform).step s i).2.call = none) :
    ((serviceMachine platform).step s i).2.events = [] ∧
      ((serviceMachine platform).step s i).1.mActiveLocality = s.mActiveLocality ∧
      ((serviceMachine platform).step s i).1.mCurrentState = s.mCurrentState ∧
      (∀ request response tpm, i = .request request response tpm → s.mActiveLocality = none →
        ((serviceMachine platform).step s i).1.crb = s.crb) := by
  cases i with
  | clientWrite crb => exact ⟨rfl, rfl, rfl, fun _ _ _ he => by cases he⟩
  | request request response tpm =>
    have hresult := tpmServiceHandle_result platform s request response tpm
    rw [serviceMachine_request] at h ⊢
    generalize tpmServiceHandle platform s request response tpm = result at hresult h ⊢
    cases hresult with
    | other _ _ _ _ => exact ⟨rfl, rfl, rfl, fun _ _ _ _ _ => rfl⟩
    | manageLocality _ =>
      obtain ⟨hactive, hstate, hcrb⟩ := manageLocalityHandler_frame platform s request
      exact ⟨rfl, hactive, hstate, fun _ _ _ _ _ => hcrb⟩
    | start handled events _ hstart =>
      cases hstart with
      | refused _ _ _ =>
        refine ⟨rfl, cleanInternalCrb_mActiveLocality .., cleanInternalCrb_mCurrentState ..,
          fun _ _ _ _ hnone => ?_⟩
        exact congrArg TpmService.crb (cleanInternalCrb_none platform hnone)
      | called op locality hop => cases h

end Machine

/-! ### Messages -/

/-- A `START` message for a locality. -/
def startMessage (platform : TpmPlatform) (qualifier : BitVec 16) (locality : Locality) :
    DirectMsgArgsEx :=
  { DirectMsgArgsEx.zero with
    arg0 := platform.start, arg1 := qualifier.setWidth 64, arg2 := BitVec.ofNat 64 locality }

/-- A `MANAGE_LOCALITY` message from a secure logical partition. -/
def manageMessage (platform : TpmPlatform) (operation : BitVec 16) (locality : Locality) :
    DirectMsgArgsEx :=
  { DirectMsgArgsEx.zero with
    sourceId := 0xFF00, arg0 := platform.manageLocality, arg1 := operation.setWidth 64,
    arg2 := BitVec.ofNat 64 locality }

/-- Clients leave these registers in every page. -/
def clientPages (localityControl crbControlRequest crbControlStart : BitVec 32) : ServiceInput :=
  .clientWrite fun _ =>
    { PtpCrbRegisters.zero with
      localityControl := localityControl
      crbControlRequest := crbControlRequest
      crbControlStart := crbControlStart }

/-- Open the localities `0` and `1`, request `0`, make it ready, and prepare a start. -/
def readyRun : List ServiceInput :=
  [.request (manageMessage .standard 0 0) .zero (.const 0),
    .request (manageMessage .standard 0 1) .zero (.const 0),
    clientPages 1 0 0, .request (startMessage .standard 1 0) .zero (.const 1),
    clientPages 0 1 0, .request (startMessage .standard 0 0) .zero (.const 0),
    clientPages 0 0 1]

end Tpm
end FfaFeature
