/-
# Failed requests leave no trace

An operation of the state translation library can fail at every stage of its exchange with
the TPM: a burst count that never comes, a status that never arrives, an interrupted yield.
The waits answer success or an error and nothing between (`decisive_pollLoop`), and the
response is copied to the client's page only after the last of them, so an operation that
did not succeed leaves the page as it was (`sstRun_failed`), and the service with it
(`applyOp_failed`).

`tpmServiceHandle_steady` is the property of a whole request: an answer other than the two
success values comes with nothing changed but registers, and the state of the service moves
only along the edges of the interface's state machine, each with the operation it stands
for (`Moves`).
-/

import FfaFeature.Tpm.Step

namespace FfaFeature
namespace Tpm

/-! ### Operations that fail -/

/-- The status is success or an error, not a warning. -/
def Decisive (status : EfiStatus) : Prop :=
  status = EfiStatus.success ∨ status.isError = true

/-- A timeout is an error. -/
theorem decisive_timeout : Decisive EfiStatus.timeout := .inr (by decide)

section Waits

variable {R : ExternalTpm → Prop}

/-- A wait ends with what it waits for, or with an error. -/
theorem pollLoop_answers {α : Type} [Inhabited α] (poll : TpmIo α) (done : α → Bool)
    (timeout : BitVec 32) (fuel : ℕ) (delayAmount : BitVec 32) :
    Traced.Returns R (pollLoop poll done timeout fuel delayAmount) fun result =>
      (result.1 = EfiStatus.success ∧ done result.2 = true) ∨ result.1.isError = true := by
  have htimeout : EfiStatus.timeout.isError = true := by decide
  induction fuel generalizing delayAmount with
  | zero => exact Traced.Returns.pure (.inr htimeout)
  | succ fuel ih =>
    unfold pollLoop
    refine Traced.Returns.skip fun value => ?_
    split_ifs with hdone
    · exact Traced.Returns.pure (.inl ⟨rfl, hdone⟩)
    · exact Traced.Returns.pure (.inr htimeout)
    · refine Traced.Returns.skip fun status => ?_
      split_ifs with herror
      · exact Traced.Returns.pure (.inr herror)
      · exact ih _

/-- A poll returns success or an error. -/
theorem decisive_pollLoop {α : Type} [Inhabited α] (poll : TpmIo α) (done : α → Bool)
    (timeout : BitVec 32) (fuel : ℕ) (delayAmount : BitVec 32) :
    Traced.Returns R (pollLoop poll done timeout fuel delayAmount) fun result =>
      Decisive result.1 :=
  Traced.Sat.mono (pollLoop_answers poll done timeout fuel delayAmount)
    fun _ _ hanswer => hanswer.imp_left And.left

/-- The bursts of a response that is not empty end with the status of the last wait. -/
theorem decisive_receiveBursts (locality : Locality) {responseDataLen fuel index : ℕ}
    {status : EfiStatus} (bytes : Bytes)
    (h : Decisive status ∨ (index < responseDataLen ∧ 0 < fuel)) :
    Traced.Returns R (receiveBursts locality responseDataLen fuel index status bytes)
      fun result => Decisive result.1 := by
  induction fuel generalizing index status bytes with
  | zero => exact Traced.Returns.pure (h.resolve_right fun hno => Nat.lt_irrefl 0 hno.2)
  | succ fuel ih =>
    unfold receiveBursts
    split_ifs with hlt
    · refine Traced.Returns.bind (decisive_pollLoop _ _ _ _ _) fun result hstatus => ?_
      dsimp only
      split_ifs
      · exact Traced.Returns.pure hstatus
      · exact Traced.Returns.skip fun _ => ih _ (.inl hstatus)
    · exact Traced.Returns.pure (h.resolve_right fun hno => hlt hno.1)

/-- Only the status of an empty response is not decisive: nothing assigns it. -/
theorem decisive_copyResponseData (mIsCrbInterface : Bool) (locality : Locality)
    (bytes : Bytes) {responseDataLen : ℕ} (hpos : 0 < responseDataLen) :
    Traced.Returns R (copyResponseData mIsCrbInterface locality bytes responseDataLen)
      fun result => Decisive result.1 := by
  unfold copyResponseData
  split_ifs
  · exact Traced.Returns.skip fun _ => Traced.Returns.pure (.inl rfl)
  · exact Traced.Returns.skip fun _ => decisive_receiveBursts locality bytes (.inr ⟨hpos, hpos⟩)

end Waits

/-- No bytes change nothing. -/
theorem PtpCrbRegisters.setData_zero (page : PtpCrbRegisters) (bytes : Bytes) :
    page.setData bytes 0 = page := by
  unfold PtpCrbRegisters.setData
  simp

/-- **`TpmSstStart` writes to the page only when it succeeds.** -/
theorem tpmSstStart_failed (mIsCrbInterface : Bool) (locality : Locality)
    (page : PtpCrbRegisters) :
    Traced.Returns (fun _ => True) (tpmSstStart mIsCrbInterface locality page)
      fun result => result.1 ≠ EfiStatus.success → result.2 = page := by
  unfold tpmSstStart
  refine Traced.Returns.skip fun pastEnd => Traced.Returns.skip fun _ =>
    Traced.Returns.skip fun _ => Traced.Returns.skip fun status => ?_
  split_ifs
  · exact Traced.Returns.pure fun _ => rfl
  · refine Traced.Returns.skip fun status => ?_
    split_ifs
    · exact Traced.Returns.pure fun _ => rfl
    · rcases Nat.eq_zero_or_pos page.crbControlResponseSize.toNat with hzero | hpos
      · -- an empty response writes nothing, whatever its status
        refine Traced.Returns.skip fun result => ?_
        dsimp only
        split_ifs
        · exact Traced.Returns.pure fun _ => rfl
        · refine Traced.Returns.skip fun _ => Traced.Returns.pure fun _ => ?_
          rw [hzero]
          exact page.setData_zero result.2
      · refine Traced.Returns.bind (decisive_copyResponseData _ _ _ hpos)
          fun result hstatus => ?_
        dsimp only
        split_ifs with herror
        · exact Traced.Returns.pure fun _ => rfl
        · exact Traced.Returns.skip fun _ =>
            Traced.Returns.pure fun hne => absurd (hstatus.resolve_right herror) hne

/-- No operation that fails changes the page of its locality. -/
theorem sstRun_failed {mIsCrbInterface : Bool} {op : SstOp} {locality : Locality}
    {page : PtpCrbRegisters} {tpm : ExternalTpm} {h : List Event}
    (hne : ((sstRun mIsCrbInterface op locality page).run tpm h).1.1 ≠ EfiStatus.success) :
    ((sstRun mIsCrbInterface op locality page).run tpm h).1.2 = page := by
  cases op with
  | start =>
    rw [sstRun_start_fst] at hne ⊢
    exact tpmSstStart_failed mIsCrbInterface locality page tpm trivial h hne
  | goIdle => rfl
  | cmdReady => rfl
  | localityRequest => rfl
  | localityRelinquish => rfl

/-- **A failed operation leaves the service as it was.** -/
theorem applyOp_failed (platform : TpmPlatform) (s : TpmService) (op : SstOp)
    (locality : Locality) {status : EfiStatus} (hne : status ≠ EfiStatus.success) :
    applyOp platform s op locality status (s.crb locality) = s := by
  have hpage : s.setPage locality (s.crb locality) = s := by
    unfold TpmService.setPage
    rw [Function.update_eq_self]
  unfold applyOp localityHandled TpmService.moveTo TpmService.moveToAndClear
  cases op <;> cases s.mCurrentState <;> simp [hne, hpage]

/-! ### A whole request -/

/-- The second service differs from the first in registers at most. -/
structure Steady (s s' : TpmService) : Prop where
  state : s'.mCurrentState = s.mCurrentState
  active : s'.mActiveLocality = s.mActiveLocality
  localities : s'.mLocalityStates = s.mLocalityStates
  data : ∀ locality, (s'.crb locality).crbDataBuffer = (s.crb locality).crbDataBuffer

/-- Nothing changes. -/
theorem Steady.refl (s : TpmService) : Steady s s := ⟨rfl, rfl, rfl, fun _ => rfl⟩

/-- Cleaning the page of the active locality changes registers only. -/
theorem steady_cleanInternalCrb (platform : TpmPlatform) (s : TpmService) :
    Steady s (cleanInternalCrb platform s) := by
  refine ⟨cleanInternalCrb_mCurrentState .., cleanInternalCrb_mActiveLocality ..,
    cleanInternalCrb_mLocalityStates .., fun locality => ?_⟩
  unfold cleanInternalCrb
  cases s.mActiveLocality with
  | none => rfl
  | some active =>
    dsimp only
    by_cases hactive : locality = active
    · subst hactive
      rw [TpmService.setPage_crb_self]
      rfl
    · rw [TpmService.setPage_crb_ne _ _ _ hactive]

/-- Success is reported for success only. -/
theorem convertEfiToTpmStatus_eq_success {platform : TpmPlatform} {status : EfiStatus} :
    convertEfiToTpmStatus platform status = platform.successOk ↔
      status = EfiStatus.success := by
  obtain ⟨-, hdenied, hnomem⟩ := platform.successOk_ne_errors
  unfold convertEfiToTpmStatus
  split_ifs with hsuccess hdevice hbuffer
  · exact iff_of_true rfl hsuccess
  · exact iff_of_false (Ne.symm hdenied) hsuccess
  · exact iff_of_false (Ne.symm hnomem) hsuccess
  · exact iff_of_false (Ne.symm hdenied) hsuccess

/-- A `MANAGE_LOCALITY` that is not accepted changes nothing. -/
theorem manageLocalityHandler_failed {platform : TpmPlatform} {s : TpmService}
    {request : DirectMsgArgsEx}
    (h : (manageLocalityHandler platform s request).1 ≠ platform.successOk) :
    (manageLocalityHandler platform s request).2 = s := by
  unfold manageLocalityHandler at h ⊢
  cases hl : requestLocality request with
  | none => split_ifs <;> rfl
  | some locality =>
    rw [hl] at h
    dsimp only at h ⊢
    split_ifs at h ⊢
    · rfl
    · exact absurd rfl h
    · exact absurd rfl h
    · rfl

/-- The edges of the state machine of the command interface, each with the operation it
stands for; the last needs the idle bypass. -/
inductive Moves (mIsIdleBypassSupported : Bool) : TpmState → SstOp → TpmState → Prop
  | cmdReady : Moves mIsIdleBypassSupported .idle .cmdReady .ready
  | goIdle : Moves mIsIdleBypassSupported .ready .goIdle .idle
  | start : Moves mIsIdleBypassSupported .ready .start .complete
  | finish : Moves mIsIdleBypassSupported .complete .goIdle .idle
  | bypass : mIsIdleBypassSupported = true →
      Moves mIsIdleBypassSupported .complete .cmdReady .ready

/-- The service never reaches the state behind the last. -/
theorem Reachable.state_ne {platform : TpmPlatform} {interfaceId : BitVec 32} {s : TpmService}
    (h : Reachable platform interfaceId s) : s.mCurrentState ≠ .numTpmStates := by
  have hstart : (tpmServiceInit platform interfaceId).mCurrentState ≠ .numTpmStates := by
    intro he
    cases he
  refine @Machine.Reachable.of_step _ _ _ (serviceMachine platform)
    (fun s => s.mCurrentState ≠ .numTpmStates) _ _ h hstart fun s i hs => ?_
  rcases hc : ((serviceMachine platform).step s i).2.call with _ | call
  · rwa [(step_call_none hc).2.2.1]
  · obtain ⟨_, _, _, -, -, -, -, -, hnext, -⟩ := step_call_some hc
    rw [hnext]
    intro he
    unfold nextState at he
    split_ifs at he
    · cases hop : call.op <;> cases hstate : s.mCurrentState <;>
        simp_all
    · exact hs he

/-- `HandleCommand` reaches a `cmdReady` from `COMPLETE` only with the idle bypass. -/
theorem commandOp_bypass {s : TpmService} {locality : Locality}
    (h : commandOp s locality = some .cmdReady) (hstate : s.mCurrentState = .complete) :
    s.mIsIdleBypassSupported = true := by
  unfold commandOp at h
  rw [hstate] at h
  by_contra hno
  simp only [hno, if_false] at h
  split_ifs at h
  cases h

/-- **The state moves along the edges only**, with the operation that succeeded. -/
theorem nextState_moves {platform : TpmPlatform} {s : TpmService} {request : DirectMsgArgsEx}
    {op : SstOp} {locality : Locality} {status : EfiStatus}
    (hop : startOp platform s request = some (op, locality))
    (hne : s.mCurrentState ≠ .numTpmStates)
    (hmoves : nextState s.mCurrentState op status ≠ s.mCurrentState) :
    status = EfiStatus.success ∧
      Moves s.mIsIdleBypassSupported s.mCurrentState op
        (nextState s.mCurrentState op status) := by
  have hst : status = EfiStatus.success := by
    by_contra hno
    exact hmoves (nextState_failed hno _ _)
  refine ⟨hst, ?_⟩
  subst hst
  cases op with
  | goIdle =>
    cases hstate : s.mCurrentState with
    | idle => exact absurd (hstate ▸ rfl) hmoves
    | ready => exact .goIdle
    | complete => exact .finish
    | numTpmStates => exact absurd hstate hne
  | cmdReady =>
    cases hstate : s.mCurrentState with
    | idle => exact .cmdReady
    | ready => exact absurd (by rw [hstate]; rfl) hmoves
    | complete =>
      refine .bypass ?_
      rcases (startOp_some hop).2 with ⟨-, hcommand⟩ | hlocality
      · exact commandOp_bypass hcommand hstate
      · rcases localityOp_some hlocality with ⟨he, -⟩ | ⟨he, -⟩ <;> cases he
    | numTpmStates => exact absurd hstate hne
  | start =>
    cases hstate : s.mCurrentState with
    | idle => exact absurd (by rw [hstate]; rfl) hmoves
    | ready => exact .start
    | complete => exact absurd (by rw [hstate]; rfl) hmoves
    | numTpmStates => exact absurd hstate hne
  | localityRequest => exact absurd (by cases s.mCurrentState <;> rfl) hmoves
  | localityRelinquish => exact absurd (by cases s.mCurrentState <;> rfl) hmoves

/-- **A request is steady unless it succeeds, and moves along the edges.**  For every
reachable state, request, page content and behaviour of the TPM: an answer that is neither
of the two success values comes with the state, the active locality, the localities and all
data buffers as before; and the state changes only along an edge of the state machine, by a
call of its operation that returned `EFI_SUCCESS`. -/
theorem tpmServiceHandle_steady {platform : TpmPlatform} {interfaceId : BitVec 32}
    {s : TpmService} (h : Reachable platform interfaceId s) (request response : DirectMsgArgsEx)
    (tpm : ExternalTpm) :
    (∀ reply, (tpmServiceHandle platform s request response tpm).2.response = some reply →
        reply.arg0 ≠ platform.successOk → reply.arg0 ≠ platform.successOkResultsReturned →
        Steady s (tpmServiceHandle platform s request response tpm).1) ∧
      ((tpmServiceHandle platform s request response tpm).1.mCurrentState = s.mCurrentState ∨
        ∃ op locality,
          (tpmServiceHandle platform s request response tpm).2.call =
            some ⟨op, locality, EfiStatus.success⟩ ∧
          Moves s.mIsIdleBypassSupported s.mCurrentState op
            (tpmServiceHandle platform s request response tpm).1.mCurrentState) := by
  have hresult := tpmServiceHandle_result platform s request response tpm
  generalize tpmServiceHandle platform s request response tpm = result at hresult ⊢
  cases hresult with
  | other response status _ _ => exact ⟨fun _ _ _ _ => Steady.refl s, .inl rfl⟩
  | manageLocality _ =>
    have hstate := (manageLocalityHandler_frame platform s request).2.1
    refine ⟨fun reply hreply hok _ => ?_, .inl hstate⟩
    obtain rfl := Option.some.inj hreply
    dsimp only
    rw [manageLocalityHandler_failed hok]
    exact Steady.refl s
  | start handled events harg hstart =>
    cases hstart with
    | refused status hnone hdenied =>
      exact ⟨fun _ _ _ _ => steady_cleanInternalCrb platform s,
        .inl (cleanInternalCrb_mCurrentState platform s)⟩
    | called op locality hop =>
      constructor
      · intro reply hreply hok _
        obtain rfl := Option.some.inj hreply
        have hne : ((sstRun s.mIsCrbInterface op locality (s.crb locality)).run tpm
            []).1.1 ≠ EfiStatus.success :=
          fun he => hok (convertEfiToTpmStatus_eq_success.2 he)
        dsimp only
        rw [sstRun_failed hne, applyOp_failed platform s op locality hne]
        exact steady_cleanInternalCrb platform s
      · dsimp only
        rw [cleanInternalCrb_mCurrentState, applyOp_mCurrentState]
        by_cases hsame : nextState s.mCurrentState op
            ((sstRun s.mIsCrbInterface op locality (s.crb locality)).run tpm []).1.1 =
              s.mCurrentState
        · exact .inl hsame
        · obtain ⟨hst, hmoves⟩ := nextState_moves hop h.state_ne hsame
          refine .inr ⟨op, locality, ?_, hmoves⟩
          rw [hst]

/-- A TPM whose registers all read as `1`, interrupted at the first yield. -/
def ExternalTpm.interrupted : ExternalTpm :=
  { ExternalTpm.const 1 with yield := fun _ => EfiStatus.deviceError }

/-- The start of a command that is interrupted is denied, and leaves no trace. -/
theorem tpmServiceHandle_steady_interrupted :
    (tpmServiceHandle .standard
        ((serviceMachine .standard).final (tpmServiceInit .standard 1) readyRun)
        (startMessage .standard 0 0) .zero .interrupted).1.mCurrentState = .ready ∧
      Steady ((serviceMachine .standard).final (tpmServiceInit .standard 1) readyRun)
        (tpmServiceHandle .standard
          ((serviceMachine .standard).final (tpmServiceInit .standard 1) readyRun)
          (startMessage .standard 0 0) .zero .interrupted).1 := by
  have hreach : Reachable .standard 1
      ((serviceMachine .standard).final (tpmServiceInit .standard 1) readyRun) := ⟨_, rfl⟩
  have hreply : (tpmServiceHandle .standard
      ((serviceMachine .standard).final (tpmServiceInit .standard 1) readyRun)
      (startMessage .standard 0 0) .zero .interrupted).2.response =
        some { DirectMsgArgsEx.zero with arg0 := 0x8E000004 } := by
    rfl
  have hsteady := (tpmServiceHandle_steady hreach (startMessage .standard 0 0) .zero
    .interrupted).1 _ hreply (by decide) (by decide)
  exact ⟨hsteady.state.trans (by decide +kernel), hsteady⟩

end Tpm
end FfaFeature
