/-
# Where a response may be

The pages are shared with the clients, and the state of the service is one for all
localities, so a response must not outlive the hold of the locality that asked for it.  The
service clears data buffers in four places: leaving `COMPLETE` by `goIdle` or `cmdReady`,
and granting and giving up a locality.

`Confined` says of one step that a request touches no page but its own locality's and the
active one's, that a command writes only the data buffer of the active locality, and that
the four places clear.  `responses_confined` adds what follows for runs.  A data buffer is
`ClientOnly` when every request since it was last zero left it alone, so that it holds zeros
and what clients wrote; in every state, that is every data buffer but the one of the active
locality in `COMPLETE`.
-/

import FfaFeature.Tpm.Failure
import FfaFeature.Tpm.Access

namespace FfaFeature
namespace Tpm

/-- The step is a request. -/
def IsRequest (e : ServiceStep) : Prop :=
  ∃ request response tpm, e.input = .request request response tpm

/-- The step is a client's, or leaves the data buffer of the locality alone. -/
def Untouched (locality : Locality) (e : ServiceStep) : Prop :=
  IsRequest e → (e.post.crb locality).crbDataBuffer = (e.pre.crb locality).crbDataBuffer

/-- The step is a request that leaves zeros in the data buffer of the locality. -/
def Cleared (locality : Locality) (e : ServiceStep) : Prop :=
  IsRequest e ∧ (e.post.crb locality).crbDataBuffer = fun _ => 0

/-- No request has put anything into the data buffer of the locality since it was last
cleared, or at all. -/
def ClientOnly (locality : Locality) (h : List ServiceStep) : Prop :=
  (∀ e ∈ h, Untouched locality e) ∨ Machine.Since (Cleared locality) (Untouched locality) h

/-- **What a step may do to the pages.** -/
structure Confined (platform : TpmPlatform) (e : ServiceStep) : Prop where
  frame : ∀ request response tpm, e.input = .request request response tpm →
    ∀ locality, requestLocality request ≠ some locality →
      e.pre.mActiveLocality ≠ some locality → e.post.crb locality = e.pre.crb locality
  start : ∀ locality, e.output.call = some ⟨.start, locality, EfiStatus.success⟩ →
    e.pre.mActiveLocality = some locality ∧ e.post.mActiveLocality = some locality ∧
      (∀ other, other ≠ locality → e.post.crb other = e.pre.crb other) ∧
      (e.post.crb locality).registers =
        (cleanPage platform locality e.post.mCurrentState (e.pre.crb locality)).registers
  left : ∀ op locality, e.output.call = some ⟨op, locality, EfiStatus.success⟩ →
    op = .goIdle ∨ op = .cmdReady → e.pre.mCurrentState = .complete →
      (e.post.crb locality).crbDataBuffer = fun _ => 0
  handed : ∀ op locality, e.output.call = some ⟨op, locality, EfiStatus.success⟩ →
    op = .localityRequest ∨ op = .localityRelinquish →
      (e.post.crb locality).crbDataBuffer = fun _ => 0

/-! ### The pages after an operation -/

/-- The pages of other localities stay. -/
theorem cleanInternalCrb_crb_ne (platform : TpmPlatform) {s : TpmService} {locality : Locality}
    (h : s.mActiveLocality ≠ some locality) :
    (cleanInternalCrb platform s).crb locality = s.crb locality := by
  unfold cleanInternalCrb
  cases hactive : s.mActiveLocality with
  | none => rfl
  | some active =>
    refine TpmService.setPage_crb_ne _ _ _ ?_
    rintro rfl
    exact h hactive

/-- The operation is of the locality of the request. -/
theorem startOp_locality {platform : TpmPlatform} {s : TpmService} {request : DirectMsgArgsEx}
    {op : SstOp} {locality : Locality} (h : startOp platform s request = some (op, locality)) :
    requestLocality request = some locality := by
  unfold startOp at h
  cases hl : requestLocality request with
  | none =>
    rw [hl] at h
    cases h
  | some l =>
    rw [hl] at h
    dsimp only at h
    split_ifs at h <;>
      (obtain ⟨op', -, he⟩ := Option.map_eq_some_iff.1 h
       rw [(Prod.mk.inj he).2])

/-- The data buffer after an operation: as before, cleared, or the response of a command. -/
def nextData (state : TpmState) (op : SstOp) (status : EfiStatus)
    (data response : Fin crbDataBufferSize → BitVec 8) : Fin crbDataBufferSize → BitVec 8 :=
  if status = EfiStatus.success then
    match op, state with
    | .goIdle, .ready => data
    | .cmdReady, .idle => data
    | .cmdReady, .ready => data
    | .cmdReady, .numTpmStates => data
    | .start, _ => response
    | _, _ => fun _ => 0
  else data

/-- The data buffer after an operation. -/
theorem applyOp_data (platform : TpmPlatform) (s : TpmService) (op : SstOp)
    (locality : Locality) {status : EfiStatus} {page : PtpCrbRegisters}
    (hpage : status ≠ EfiStatus.success → page = s.crb locality) :
    ((applyOp platform s op locality status page).crb locality).crbDataBuffer =
      nextData s.mCurrentState op status (s.crb locality).crbDataBuffer page.crbDataBuffer := by
  by_cases hst : status = EfiStatus.success
  · subst hst
    unfold applyOp localityHandled TpmService.moveTo TpmService.moveToAndClear nextData
    cases op <;> cases s.mCurrentState <;>
      simp [TpmService.setPage, initInternalCrb, setBuffers, PtpCrbRegisters.zero]
  · rw [hpage hst, applyOp_failed platform s op locality hst]
    unfold nextData
    rw [if_neg hst]

/-- **The data buffers after a request**: all as before where no operation is called, and
all but its locality's where one is. -/
theorem tpmServiceHandle_data (platform : TpmPlatform) (s : TpmService)
    (request response : DirectMsgArgsEx) (tpm : ExternalTpm) :
    ((tpmServiceHandle platform s request response tpm).2.call = none ∧
        ∀ locality, ((tpmServiceHandle platform s request response tpm).1.crb
          locality).crbDataBuffer = (s.crb locality).crbDataBuffer) ∨
      ∃ op l status page, startOp platform s request = some (op, l) ∧
        (tpmServiceHandle platform s request response tpm).2.call = some ⟨op, l, status⟩ ∧
        (tpmServiceHandle platform s request response tpm).1 =
          cleanInternalCrb platform (applyOp platform s op l status page) ∧
        page.registers = (s.crb l).registers ∧
        (status ≠ EfiStatus.success → page = s.crb l) := by
  have hresult := tpmServiceHandle_result platform s request response tpm
  generalize tpmServiceHandle platform s request response tpm = result at hresult ⊢
  cases hresult with
  | other response status _ _ => exact .inl ⟨rfl, fun _ => rfl⟩
  | manageLocality _ =>
    refine .inl ⟨rfl, fun locality => ?_⟩
    rw [(manageLocalityHandler_frame platform s request).2.2]
  | start handled events _ hstart =>
    cases hstart with
    | refused status _ _ => exact .inl ⟨rfl, (steady_cleanInternalCrb platform s).data⟩
    | called op l hop =>
      exact .inr ⟨op, l, _, _, hop, rfl, rfl, sstRun_registers _ _ _ _ _ _, sstRun_failed⟩

/-- A step whose operation is known leaves the data buffers as `nextData` says. -/
theorem step_data {platform : TpmPlatform} {s : TpmService} {i : ServiceInput}
    {call : SstCall} (h : ((serviceMachine platform).step s i).2.call = some call) :
    (∀ other, other ≠ call.locality →
        (((serviceMachine platform).step s i).1.crb other).crbDataBuffer =
          (s.crb other).crbDataBuffer) ∧
      ∃ response, (((serviceMachine platform).step s i).1.crb call.locality).crbDataBuffer =
        nextData s.mCurrentState call.op call.status (s.crb call.locality).crbDataBuffer
          response := by
  cases i with
  | clientWrite crb => cases h
  | request request response tpm =>
    rw [serviceMachine_request] at h ⊢
    rcases tpmServiceHandle_data platform s request response tpm with
      ⟨hnone, -⟩ | ⟨op, l, status, page, -, hcall, hpost, -, hpage⟩
    · rw [hnone] at h
      cases h
    · obtain rfl := Option.some.inj (hcall.symm.trans h)
      have hclean := steady_cleanInternalCrb platform (applyOp platform s op l status page)
      rw [hpost]
      refine ⟨fun other hother => ?_, page.crbDataBuffer, ?_⟩
      · rw [hclean.data, applyOp_crb_ne platform s op l status page hother]
      · rw [hclean.data, applyOp_data platform s op l hpage]

/-- The operations that clear it. -/
theorem nextData_cleared {state : TpmState} {op : SstOp}
    {data response : Fin crbDataBufferSize → BitVec 8}
    (h : ((op = .goIdle ∨ op = .cmdReady) ∧ state = .complete) ∨
      op = .localityRequest ∨ op = .localityRelinquish) :
    nextData state op EfiStatus.success data response = fun _ => 0 := by
  unfold nextData
  rcases h with ⟨rfl | rfl, rfl⟩ | rfl | rfl <;> simp

/-- **A request touches no page but its own locality's and the active one's.** -/
theorem tpmServiceHandle_frame (platform : TpmPlatform) (s : TpmService)
    (request response : DirectMsgArgsEx) (tpm : ExternalTpm) {locality : Locality}
    (hother : requestLocality request ≠ some locality)
    (hactive : s.mActiveLocality ≠ some locality) :
    (tpmServiceHandle platform s request response tpm).1.crb locality = s.crb locality := by
  have hresult := tpmServiceHandle_result platform s request response tpm
  generalize tpmServiceHandle platform s request response tpm = result at hresult ⊢
  cases hresult with
  | other response status _ _ => rfl
  | manageLocality _ => rw [(manageLocalityHandler_frame platform s request).2.2]
  | start handled events _ hstart =>
    cases hstart with
    | refused status _ _ => exact cleanInternalCrb_crb_ne platform hactive
    | called op l hop =>
      have hl : locality ≠ l := by
        rintro rfl
        exact hother (startOp_locality hop)
      dsimp only
      rw [cleanInternalCrb_crb_ne, applyOp_crb_ne _ _ _ _ _ _ hl]
      rw [applyOp_mActiveLocality]
      intro hnext
      exact hl (nextActive_some hop hnext).1.symm

/-- The clean-up does not look at the data buffer. -/
theorem cleanPage_registers_congr (platform : TpmPlatform) (locality : Locality)
    (state : TpmState) {page page' : PtpCrbRegisters} (h : page.registers = page'.registers) :
    (cleanPage platform locality state page).registers =
      (cleanPage platform locality state page').registers := by
  have hregs : ∀ page : PtpCrbRegisters, (cleanPage platform locality state page).registers =
      (cleanPage platform locality state page.registers).registers := fun _ => rfl
  rw [hregs page, hregs page', h]

/-- **A command that ends leaves the registers clean**, and its response in the data buffer
of the active locality. -/
theorem start_registers {platform : TpmPlatform} {s : TpmService}
    {request response : DirectMsgArgsEx} {tpm : ExternalTpm} {locality : Locality}
    (hcall : (tpmServiceHandle platform s request response tpm).2.call =
      some ⟨.start, locality, EfiStatus.success⟩)
    (hactive : (tpmServiceHandle platform s request response tpm).1.mActiveLocality =
      some locality) :
    ((tpmServiceHandle platform s request response tpm).1.crb locality).registers =
      (cleanPage platform locality
        (tpmServiceHandle platform s request response tpm).1.mCurrentState
        (s.crb locality)).registers := by
  rcases tpmServiceHandle_data platform s request response tpm with
    ⟨hnone, -⟩ | ⟨op, l, status, page, -, hcall', hafter, hpage, -⟩
  · rw [hnone] at hcall
    cases hcall
  · obtain ⟨rfl, rfl, rfl⟩ := SstCall.mk.inj (Option.some.inj (hcall'.symm.trans hcall))
    rw [hafter] at hactive ⊢
    rw [cleanInternalCrb_mActiveLocality] at hactive
    rw [cleanInternalCrb_some platform hactive, cleanInternalCrb_mCurrentState]
    refine cleanPage_registers_congr platform _ _ ?_
    exact applyOp_registers platform s .start _ _ page hpage fun _ => by simp

/-- **Every step is confined.** -/
theorem step_confined (platform : TpmPlatform) (s : TpmService) (i : ServiceInput) :
    Confined platform ((serviceMachine platform).stepAt s i) := by
  have hcleared : ∀ op locality,
      ((serviceMachine platform).stepAt s i).output.call =
        some ⟨op, locality, EfiStatus.success⟩ →
      ((op = .goIdle ∨ op = .cmdReady) ∧ s.mCurrentState = .complete) ∨
        op = .localityRequest ∨ op = .localityRelinquish →
      (((serviceMachine platform).stepAt s i).post.crb locality).crbDataBuffer =
        fun _ => 0 := by
    intro op locality hcall hop
    obtain ⟨response, hdata⟩ := (step_data hcall).2
    exact hdata.trans (nextData_cleared hop)
  refine ⟨?_, ?_, fun op locality hcall hop hstate => hcleared op locality hcall
    (.inl ⟨hop, hstate⟩), fun op locality hcall hop => hcleared op locality hcall (.inr hop)⟩
  · rintro request response tpm rfl locality hother hactive
    exact tpmServiceHandle_frame platform s request response tpm hother hactive
  · intro locality hcall
    obtain ⟨request, response, tpm, rfl, -, hop, -, hactive, -⟩ := step_call_some hcall
    have hpre : s.mActiveLocality = some locality := (startOp_active hop).1 (by simp)
    have hpost := hactive.trans hpre
    refine ⟨hpre, hpost, fun other hother => ?_, start_registers hcall hpost⟩
    refine tpmServiceHandle_frame platform s request response tpm ?_ ?_
    · rw [startOp_locality hop]
      exact fun he => hother (Option.some.inj he).symm
    · rw [hpre]
      exact fun he => hother (Option.some.inj he).symm

/-! ### Along a run -/

/-- What holds along a run: a data buffer is the clients', or the active locality's in
`COMPLETE`. -/
def PagesInv (h : List ServiceStep) (s : TpmService) : Prop :=
  ∀ locality, ClientOnly locality h ∨
    (s.mCurrentState = .complete ∧ s.mActiveLocality = some locality)

/-- A page stays its client's while it is not touched. -/
theorem ClientOnly.later {locality : Locality} {h : List ServiceStep} {e : ServiceStep}
    (hclient : ClientOnly locality h) (he : Untouched locality e) :
    ClientOnly locality (h ++ [e]) := by
  rcases hclient with hnever | hsince
  · refine .inl fun x hx => ?_
    rcases List.mem_append.1 hx with hx | hx
    · exact hnever x hx
    · rw [List.mem_singleton.1 hx]
      exact he
  · exact .inr (hsince.later he)

/-- An operation that succeeds keeps the data buffer only outside `COMPLETE`, clears it, or
is a command. -/
theorem nextData_success (state : TpmState) (op : SstOp)
    (data response : Fin crbDataBufferSize → BitVec 8) :
    (nextData state op EfiStatus.success data response = data ∧ state ≠ .complete) ∨
      nextData state op EfiStatus.success data response = (fun _ => 0) ∨ op = .start := by
  unfold nextData
  cases op <;> cases state <;> simp

/-- One step keeps the account of the pages. -/
theorem pagesInv_step {platform : TpmPlatform} {h : List ServiceStep} {s : TpmService}
    (i : ServiceInput) (hinv : PagesInv h s) :
    PagesInv (h ++ [(serviceMachine platform).stepAt s i])
      ((serviceMachine platform).step s i).1 := by
  intro locality
  rcases hc : ((serviceMachine platform).step s i).2.call with _ | ⟨op, l, status⟩
  · -- nothing is called: no data buffer, state or active locality changes
    obtain ⟨-, hactive, hstate, -⟩ := step_call_none hc
    rw [hactive, hstate]
    refine (hinv locality).imp_left fun hclient => hclient.later ?_
    rintro ⟨request, response, tpm, rfl⟩
    rcases tpmServiceHandle_data platform s request response tpm with
      ⟨-, hdata⟩ | ⟨_, _, _, _, -, hcall, -⟩
    · exact hdata locality
    · rw [serviceMachine_request, hcall] at hc
      cases hc
  · obtain ⟨hothers, response, hdata⟩ := step_data hc
    obtain ⟨request, answer, tpm, hi, -, hop, -, hactive, hstate, -⟩ := step_call_some hc
    dsimp only at hothers hdata hop hactive hstate
    have hrequest : IsRequest ((serviceMachine platform).stepAt s i) :=
      ⟨request, answer, tpm, hi⟩
    by_cases hl : locality = l
    · subst hl
      by_cases hst : status = EfiStatus.success
      · subst hst
        rcases nextData_success s.mCurrentState op (s.crb locality).crbDataBuffer response with
          ⟨hkeep, hne⟩ | hzero | rfl
        · refine .inl (((hinv locality).resolve_right fun hno => hne hno.1).later fun _ => ?_)
          exact hdata.trans hkeep
        · exact .inl (.inr (Machine.Since.here ⟨hrequest, hdata.trans hzero⟩))
        · -- a command ends in `COMPLETE`, at the active locality
          refine .inr ⟨?_, hactive.trans ((startOp_active hop).1 (by simp))⟩
          rw [hstate]
          rcases startOp_start hop with he | he <;> rw [he] <;> rfl
      · rw [hactive, hstate, nextActive_failed hst, nextState_failed hst]
        refine (hinv locality).imp_left fun hclient => hclient.later fun _ => ?_
        unfold nextData at hdata
        rw [if_neg hst] at hdata
        exact hdata
    · -- the locality of the operation is the active one, or none is
      have hne : s.mActiveLocality ≠ some locality := by
        intro he
        obtain ⟨hother, hgrant⟩ := startOp_active hop
        by_cases hreq : op = .localityRequest
        · rcases hgrant hreq with hnone | hsome
          · rw [hnone] at he
            cases he
          · exact hl (Option.some.inj (he.symm.trans hsome))
        · exact hl (Option.some.inj (he.symm.trans (hother hreq)))
      exact .inl (((hinv locality).resolve_right fun hno => hne hno.2).later
        fun _ => hothers locality hl)

/-- **Responses are confined.**  Every step of every run is `Confined`.  The data buffers are
zero at the start, and after every run each of them holds what clients wrote since it was
last zero, but the one of the active locality in `COMPLETE`: a response is in the page of
the locality that asked for it, until the state leaves `COMPLETE` or the locality is given
up. -/
theorem responses_confined (platform : TpmPlatform) (interfaceId : BitVec 32)
    (is : List ServiceInput) :
    (∀ locality, ((tpmServiceInit platform interfaceId).crb locality).crbDataBuffer =
        fun _ => 0) ∧
      (∀ e ∈ (serviceMachine platform).history (tpmServiceInit platform interfaceId) is,
        Confined platform e) ∧
      PagesInv ((serviceMachine platform).history (tpmServiceInit platform interfaceId) is)
        ((serviceMachine platform).final (tpmServiceInit platform interfaceId) is) := by
  refine ⟨fun locality => rfl, ?_, ?_⟩
  · have hsteps := @Machine.final_and_steps _ _ _ (serviceMachine platform) (fun _ => True)
      (fun _ _ => True) (Confined platform) (tpmServiceInit platform interfaceId) trivial
      (fun s i _ _ => ⟨trivial, step_confined platform s i⟩) is fun _ _ => trivial
    exact hsteps.2
  · have hstart : PagesInv [] (tpmServiceInit platform interfaceId) :=
      fun locality => .inl (.inl fun e he => absurd he List.not_mem_nil)
    exact @Machine.final_of_history _ _ _ (serviceMachine platform) PagesInv
      (fun _ _ => True) _ hstart (fun _ _ i _ => pagesInv_step i) is fun _ _ => trivial

end Tpm
end FfaFeature
