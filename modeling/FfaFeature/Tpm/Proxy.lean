/-
# The service as a proxy of the TPM

Clients do not reach the TPM.  They write their pages and send `START` messages, and the service
carries out what they ask for on the external TPM, whatever its interface.  `proxyMachine` is the
service with a device behind it: each request runs against the device as earlier requests left
it, and the clients may write their pages at any time in between.

What clients are promised is the TPM itself.  `ExecutesAnnounced` is this promise over a whole run:
the commands that were announced in the pages by `START` requests are executed by the TPM, each
once and in the order of the requests, and the page then holds the response.  It is kept with
either interface (`crb_proxy_executes`, `fifo_proxy_executes`), in the runs whose steps are
`Smooth`: no operation is cut short, a `START` announces a whole command, and localities are given
up in the idle state only.  Elsewhere the service may take the TPM to be in a state that it is not
in.

The idle bypass is a matter of the CRB interface, but the service reads its bit in every
`InterfaceId`, and lets a command follow on one that is done also where a FIFO TPM waits to be
made ready.  `Smooth` leaves this out: such a `START` may find the rest of the old response and
succeed, with nothing executed.
-/

import FfaFeature.Tpm.CrbDevice
import FfaFeature.Tpm.FifoDevice

namespace FfaFeature
namespace Tpm

/-- A message, with the structure it is answered in, or the clients' writes to their pages. -/
inductive ProxyInput
  | request (request response : DirectMsgArgsEx)
  | clientWrite (crb : Locality → PtpCrbRegisters)

/-- The input of the service, with a TPM behind it. -/
def ProxyInput.serviceInput (tpm : ExternalTpm) : ProxyInput → ServiceInput
  | .request message response => .request message response tpm
  | .clientWrite crb => .clientWrite crb

/-- The service and the device as one machine. -/
def proxyMachine {S : Type} (platform : TpmPlatform) (device : Device S) :
    Machine (TpmService × S) ProxyInput ServiceOutput where
  step s i :=
    let result := (serviceMachine platform).step s.1 (i.serviceInput (device.tpm s.2))
    ((result.1, device.after s.2 result.2.events), result.2)

/-- A step of the proxy. -/
abbrev ProxyStep (S : Type) := Machine.Step (TpmService × S) ProxyInput ServiceOutput

/-! ### What a step of the service does, in full -/

section Effect

variable {platform : TpmPlatform} {s : TpmService} {i : ServiceInput}

/-- A step with a call is the run of its operation, with its effect. -/
theorem step_call_effect {call : SstCall}
    (h : ((serviceMachine platform).step s i).2.call = some call) :
    ∃ request response tpm, i = .request request response tpm ∧
      startOp platform s request = some (call.op, call.locality) ∧
      (serviceMachine platform).step s i =
        (cleanInternalCrb platform (applyOp platform s call.op call.locality call.status
          ((sstRun s.mIsCrbInterface call.op call.locality (s.crb call.locality)).run tpm []).1.2),
          ((serviceMachine platform).step s i).2) ∧
      call.status = ((sstRun s.mIsCrbInterface call.op call.locality
        (s.crb call.locality)).run tpm []).1.1 ∧
      ((serviceMachine platform).step s i).2.events =
        ((sstRun s.mIsCrbInterface call.op call.locality (s.crb call.locality)).run tpm []).2 := by
  cases i with
  | clientWrite crb => cases h
  | request request response tpm =>
    have hresult := tpmServiceHandle_result platform s request response tpm
    refine ⟨request, response, tpm, rfl, ?_⟩
    rw [serviceMachine_request] at h ⊢
    generalize tpmServiceHandle platform s request response tpm = result at hresult h ⊢
    cases hresult with
    | other _ _ _ _ => cases h
    | manageLocality _ => cases h
    | start handled events harg hstart =>
      cases hstart with
      | refused _ _ _ => cases h
      | called op locality hop =>
        obtain rfl := Option.some.inj h
        exact ⟨hop, rfl, rfl, rfl⟩

/-- No operation changes the interface. -/
theorem applyOp_interface (platform : TpmPlatform) (s : TpmService) (op : SstOp)
    (locality : Locality) (status : EfiStatus) (page : PtpCrbRegisters) :
    (applyOp platform s op locality status page).mIsCrbInterface = s.mIsCrbInterface ∧
      (applyOp platform s op locality status page).mIsIdleBypassSupported =
        s.mIsIdleBypassSupported := by
  unfold applyOp localityHandled TpmService.moveTo TpmService.moveToAndClear TpmService.setPage
  cases op <;> cases s.mCurrentState <;> dsimp only <;> first
    | exact ⟨rfl, rfl⟩
    | split_ifs <;> exact ⟨rfl, rfl⟩

/-- Neither does the clean-up. -/
theorem cleanInternalCrb_interface (platform : TpmPlatform) (s : TpmService) :
    (cleanInternalCrb platform s).mIsCrbInterface = s.mIsCrbInterface ∧
      (cleanInternalCrb platform s).mIsIdleBypassSupported = s.mIsIdleBypassSupported := by
  unfold cleanInternalCrb
  split <;> exact ⟨rfl, rfl⟩

/-- The interface is known from the start on. -/
theorem step_interface (platform : TpmPlatform) (s : TpmService) (i : ServiceInput) :
    ((serviceMachine platform).step s i).1.mIsCrbInterface = s.mIsCrbInterface ∧
      ((serviceMachine platform).step s i).1.mIsIdleBypassSupported =
        s.mIsIdleBypassSupported := by
  cases i with
  | clientWrite crb => exact ⟨rfl, rfl⟩
  | request request response tpm =>
    have hresult := tpmServiceHandle_result platform s request response tpm
    rw [serviceMachine_request]
    generalize tpmServiceHandle platform s request response tpm = result at hresult ⊢
    cases hresult with
    | other _ _ _ _ => exact ⟨rfl, rfl⟩
    | manageLocality _ =>
      unfold manageLocalityHandler
      repeat' split
      all_goals exact ⟨rfl, rfl⟩
    | start handled events _ hstart =>
      obtain ⟨hcrb, hbypass⟩ := cleanInternalCrb_interface platform handled.service
      cases hstart with
      | refused _ _ _ => exact ⟨hcrb, hbypass⟩
      | called op locality hop =>
        obtain ⟨hcrb', hbypass'⟩ := applyOp_interface platform s op locality _ _
        exact ⟨hcrb.trans hcrb', hbypass.trans hbypass'⟩

/-- An operation that is not about localities is one of `HandleCommand`. -/
theorem startOp_command {request : DirectMsgArgsEx} {op : SstOp} {locality : Locality}
    (h : startOp platform s request = some (op, locality)) (hrequest : op ≠ .localityRequest)
    (hrelinquish : op ≠ .localityRelinquish) : commandOp s locality = some op := by
  rcases (startOp_some h).2 with ⟨-, hcommand⟩ | hlocality
  · exact hcommand
  · rcases localityOp_some hlocality with ⟨he, -⟩ | ⟨he, -⟩
    · exact absurd he hrelinquish
    · exact absurd he hrequest

/-- After a command that is done the service only goes idle, without the idle bypass. -/
theorem commandOp_complete {op : SstOp} {locality : Locality} (h : commandOp s locality = some op)
    (hstate : s.mCurrentState = .complete) :
    op = .goIdle ∨ s.mIsIdleBypassSupported = true := by
  unfold commandOp at h
  rw [hstate] at h
  by_contra hno
  obtain ⟨hop, hbypass⟩ := not_or.1 hno
  dsimp only at h
  rw [if_neg hbypass, if_neg hbypass] at h
  split_ifs at h
  exact hop (Option.some.inj h).symm

/-- And it leaves the idle state only to get ready. -/
theorem commandOp_idle {op : SstOp} {locality : Locality} (h : commandOp s locality = some op)
    (hstate : s.mCurrentState = .idle) : op = .cmdReady := by
  unfold commandOp at h
  rw [hstate] at h
  dsimp only at h
  split_ifs at h
  exact (Option.some.inj h).symm

/-- The data buffer after a command is the one the operation left. -/
theorem applyOp_start_data (platform : TpmPlatform) {locality : Locality} (status : EfiStatus)
    (page : PtpCrbRegisters) (hactive : s.mActiveLocality = some locality) :
    ((cleanInternalCrb platform (applyOp platform s .start locality status page)).crb
      locality).crbDataBuffer = page.crbDataBuffer := by
  have hsame : (applyOp platform s .start locality status page).mActiveLocality =
      some locality := by
    rw [applyOp_mActiveLocality]
    exact hactive
  rw [cleanInternalCrb_some platform hsame]
  unfold cleanPage setBuffers
  dsimp only
  unfold applyOp
  cases s.mCurrentState <;> simp

end Effect

/-! ### Runs in which nothing is cut short -/

section Runs

variable {S τ : Type}

/-- The operation is not cut short, unless it is a request for a locality or a transition out of
the idle state; it gives up a locality in the idle state only, and starts an announced command, with
a FIFO in the ready state only. -/
def SmoothCall (core : TpmCore τ) (s : TpmService) (call : SstCall) : Prop :=
  match call.op with
  | .localityRequest => True
  | .localityRelinquish => call.status = EfiStatus.success ∧ s.mCurrentState = .idle
  | .cmdReady => call.status = EfiStatus.success ∨ s.mCurrentState = .idle
  | .goIdle => call.status = EfiStatus.success
  | .start => call.status = EfiStatus.success ∧
      (s.mIsCrbInterface = false → s.mCurrentState = .ready) ∧
      ∃ command, Announces core (s.crb call.locality) command

/-- The operation that the step calls, if any, is not cut short. -/
def Smooth (core : TpmCore τ) (e : ProxyStep S) : Prop :=
  ∀ call, e.output.call = some call → SmoothCall core e.pre.1 call

/-- The step starts a command. -/
def startsCommand (e : ProxyStep S) : Bool := e.output.call.any fun call => call.op == .start

/-- **The step is an exchange with the TPM**: the page announces the command, and then holds the
response. -/
def Exchange (core : TpmCore τ) (e : ProxyStep S)
    (x : Machine.Step τ (List (BitVec 8)) (List (BitVec 8))) : Prop :=
  ∃ l, e.output.call = some ⟨.start, l, EfiStatus.success⟩ ∧
    Announces core (e.pre.1.crb l) x.input ∧
    Holds (e.post.1.crb l) (e.pre.1.crb l).crbControlResponseSize.toNat x.output

/-- No step of the run is cut short. -/
def SmoothRun (platform : TpmPlatform) (device : Device S) (core : TpmCore τ)
    (s : TpmService × S) (inputs : List ProxyInput) : Prop :=
  ∀ e ∈ (proxyMachine platform device).history s inputs, Smooth core e

/-- **The TPM executes what the run announces**: there are commands, each an exchange of its own
`START` request, and what has become of the TPM is what its core makes of them. -/
def ExecutesAnnounced (platform : TpmPlatform) (device : Device S) (core : TpmCore τ)
    (stage : S → Stage τ) (s : TpmService × S) (inputs : List ProxyInput) : Prop :=
  ∃ commands : List (List (BitVec 8)),
    List.Forall₂ (Exchange core)
      (((proxyMachine platform device).history s inputs).filter startsCommand)
      (core.machine.history (stage s.2).tpm commands) ∧
    (stage ((proxyMachine platform device).final s inputs).2).tpm =
      core.machine.final (stage s.2).tpm commands

/-- **The service and the TPM are in step.** -/
structure InStep (mIsCrbInterface bypass : Bool) (stage : S → Stage τ) (s : TpmService × S) :
    Prop where
  interface : s.1.mIsCrbInterface = mIsCrbInterface
  supported : s.1.mIsIdleBypassSupported = bypass
  known : s.1.mCurrentState ≠ .numTpmStates
  active : ∀ l, s.1.mActiveLocality = some l → (stage s.2).active = some l
  idle : s.1.mCurrentState = .idle → (stage s.2).stand.readies mIsCrbInterface bypass = true
  ready : s.1.mCurrentState = .ready → (stage s.2).stand = .ready
  complete : s.1.mCurrentState = .complete → (stage s.2).stand = .done

/-- The service stays in a known state. -/
theorem nextState_ne_numTpmStates {state : TpmState} (h : state ≠ .numTpmStates) (op : SstOp)
    (status : EfiStatus) : nextState state op status ≠ .numTpmStates := by
  unfold nextState
  split_ifs
  · cases op <;> cases state <;> simp_all
  · exact h

variable {mIsCrbInterface bypass : Bool} {stage : S → Stage τ} {platform : TpmPlatform}
  {s : TpmService × S} {op : SstOp} {l : Locality} {status : EfiStatus} {page : PtpCrbRegisters}
  {d : S}

/-- What is left to show of an operation. -/
theorem InStep.applyOp (hs : InStep mIsCrbInterface bypass stage s)
    (hactive : ∀ l', nextActive s.1.mActiveLocality op l status = some l' →
      (stage d).active = some l')
    (hidle : nextState s.1.mCurrentState op status = .idle →
      (stage d).stand.readies mIsCrbInterface bypass = true)
    (hready : nextState s.1.mCurrentState op status = .ready → (stage d).stand = .ready)
    (hcomplete : nextState s.1.mCurrentState op status = .complete → (stage d).stand = .done) :
    InStep mIsCrbInterface bypass stage
      (cleanInternalCrb platform (Tpm.applyOp platform s.1 op l status page), d) := by
  obtain ⟨hcrb, hbypass⟩ := cleanInternalCrb_interface platform
    (Tpm.applyOp platform s.1 op l status page)
  obtain ⟨hcrb', hbypass'⟩ := applyOp_interface platform s.1 op l status page
  refine ⟨(hcrb.trans hcrb').trans hs.interface, (hbypass.trans hbypass').trans hs.supported,
    ?_, ?_, ?_, ?_, ?_⟩
  all_goals
    simp only [cleanInternalCrb_mActiveLocality, cleanInternalCrb_mCurrentState,
      applyOp_mActiveLocality, applyOp_mCurrentState]
  · exact nextState_ne_numTpmStates hs.known op status
  · exact hactive
  · exact hidle
  · exact hready
  · exact hcomplete

/-- Where the service makes the TPM ready, the TPM takes the request. -/
theorem InStep.stand_cmdReady (hs : InStep mIsCrbInterface bypass stage s)
    (hop : commandOp s.1 l = some .cmdReady) :
    (stage s.2).stand.readies mIsCrbInterface bypass = true := by
  cases hstate : s.1.mCurrentState with
  | idle => exact hs.idle hstate
  | ready => rw [hs.ready hstate]; rfl
  | complete =>
    have hbypass := (commandOp_complete hop hstate).resolve_left nofun
    rw [hs.complete hstate, ← hs.supported, hbypass]
    exact Bool.or_true _
  | numTpmStates => exact absurd hstate hs.known

/-- Where it makes it go idle, the TPM is ready or done with a command. -/
theorem InStep.stand_goIdle (hs : InStep mIsCrbInterface bypass stage s)
    (hop : commandOp s.1 l = some .goIdle) :
    (stage s.2).stand = .ready ∨ (stage s.2).stand = .done := by
  cases hstate : s.1.mCurrentState with
  | idle => cases commandOp_idle hop hstate
  | ready => exact .inl (hs.ready hstate)
  | complete => exact .inr (hs.complete hstate)
  | numTpmStates => exact absurd hstate hs.known

/-- And where it starts a command, the TPM takes one. -/
theorem InStep.stand_start (hs : InStep mIsCrbInterface bypass stage s)
    (hop : commandOp s.1 l = some .start)
    (hready : s.1.mIsCrbInterface = false → s.1.mCurrentState = .ready) :
    (stage s.2).stand.takesCommand mIsCrbInterface bypass = true := by
  rcases commandOp_start hop with hstate | hstate
  · rw [hs.ready hstate]
    rfl
  · have hbypass := (commandOp_complete hop hstate).resolve_left nofun
    have hcrb : s.1.mIsCrbInterface = true := by
      by_contra hfifo
      rw [hready (by simpa using hfifo)] at hstate
      cases hstate
    rw [hs.complete hstate, ← hs.supported, ← hs.interface, hbypass, hcrb]
    rfl

/-- A successful `cmdReady` leads to the ready state. -/
theorem nextState_cmdReady {state : TpmState} (h : state ≠ .numTpmStates) :
    nextState state .cmdReady EfiStatus.success = .ready := by
  cases state with
  | numTpmStates => exact absurd rfl h
  | _ => rfl

/-- Localities do not change the state. -/
theorem nextState_locality (state : TpmState) (op : SstOp) (status : EfiStatus)
    (h : op = .localityRequest ∨ op = .localityRelinquish) : nextState state op status = state := by
  unfold nextState
  split_ifs
  · rcases h with rfl | rfl <;> cases state <;> rfl
  · rfl

variable {device : Device S} {core : TpmCore τ}

/-- **What an operation comes to**, at a TPM that is in step with the service: they are still in
step, and only a command changes the TPM's state. -/
theorem Obeys.operation {request : DirectMsgArgsEx}
    (hobeys : Obeys mIsCrbInterface bypass device core stage)
    (hs : InStep mIsCrbInterface bypass stage s)
    (hop : startOp platform s.1 request = some (op, l)) :
    device.Triple (fun t => t = s.2) (sstRun mIsCrbInterface op l (s.1.crb l)) fun result d =>
      SmoothCall core s.1 ⟨op, l, result.1⟩ →
        InStep mIsCrbInterface bypass stage
          (cleanInternalCrb platform (Tpm.applyOp platform s.1 op l result.1 result.2), d) ∧
        (op ≠ .start → (stage d).tpm = (stage s.2).tpm) ∧
        (op = .start → ∃ command, Announces core (s.1.crb l) command ∧
          (stage d).tpm = (core.execute (stage s.2).tpm command).1 ∧
          Holds result.2 (s.1.crb l).crbControlResponseSize.toNat
            (core.execute (stage s.2).tpm command).2) := by
  intro s₀
  obtain ⟨hother, -⟩ := startOp_active hop
  have hat : ∀ t, t = s.2 → stage t = stage s.2 := fun t ht => congrArg stage ht
  -- an operation of the active locality finds the TPM granted to it, and leaves it so
  have hactive : op ≠ .localityRequest → (stage s.2).active = some l :=
    fun hne => hs.active l (hother hne)
  have hsame : ∀ d, op ≠ .localityRequest → op ≠ .localityRelinquish →
      (stage d).active = some l → ∀ status l',
        nextActive s.1.mActiveLocality op l status = some l' → (stage d).active = some l' := by
    intro d hrequest hrelinquish hd status l' hl'
    have hkept : nextActive s.1.mActiveLocality op l status = s.1.mActiveLocality := by
      cases op with
      | localityRequest => exact absurd rfl hrequest
      | localityRelinquish => exact absurd rfl hrelinquish
      | _ => rfl
    rw [hkept, hother hrequest] at hl'
    rwa [← Option.some.inj hl']
  cases op with
  | localityRequest =>
    refine Traced.Triple.bind ((hobeys.request (stage s.2) l s₀).weaken hat fun _ _ => id)
      fun status => Traced.Triple.pure fun d hd _ => ⟨hs.applyOp (fun l' hl' => ?_)
        (fun h => ?_) (fun h => ?_) fun h => ?_, fun _ => hd.1.tpm, fun h => by cases h⟩
    · unfold nextActive at hl'
      dsimp only at hl'
      split_ifs at hl' with hstatus
      · rw [← Option.some.inj hl']
        exact hd.2 (by rw [hstatus]; rfl)
      · exact hd.1.active l' (hs.active l' hl')
    all_goals rw [nextState_locality _ _ _ (.inl rfl)] at h
    · exact hd.1.readies (hs.idle h)
    · exact hd.1.ready (hs.ready h)
    · exact hd.1.done (hs.complete h)
  | localityRelinquish =>
    by_cases hidle : s.1.mCurrentState = .idle
    · refine Traced.Triple.bind ((hobeys.relinquish (stage s.2) l (hs.idle hidle) s₀).weaken hat
        fun _ _ => id) fun status => Traced.Triple.pure fun d hd hsmooth => ?_
      refine ⟨hs.applyOp (fun l' hl' => ?_) (fun _ => hd.2) (fun h => ?_) fun h => ?_,
        fun _ => hd.1, fun h => by cases h⟩
      · rw [nextActive, if_pos hsmooth.1] at hl'
        cases hl'
      all_goals
        rw [nextState_locality _ _ _ (.inr rfl), hidle] at h
        cases h
    · exact fun t _ hsmooth => absurd hsmooth.2 hidle
  | cmdReady =>
    have hstand := hs.stand_cmdReady (startOp_command hop (by decide) (by decide))
    refine Traced.Triple.bind ((hobeys.cmdReady (stage s.2) l (hactive (by decide)) hstand
      s₀).weaken hat fun _ _ => id) fun status => Traced.Triple.pure fun d hd hsmooth => ?_
    obtain ⟨htpm, hl, hidle, hready⟩ := hd
    refine ⟨hs.applyOp (hsame d (by decide) (by decide) hl _) (fun _ => hidle) (fun h => ?_)
      fun h => ?_, fun _ => htpm, fun h => by cases h⟩
    · by_cases hstatus : status = EfiStatus.success
      · exact hready (by rw [hstatus]; rfl)
      · rw [nextState_failed hstatus, hsmooth.resolve_left hstatus] at h
        cases h
    · by_cases hstatus : status = EfiStatus.success
      · rw [hstatus, nextState_cmdReady hs.known] at h
        cases h
      · rw [nextState_failed hstatus, hsmooth.resolve_left hstatus] at h
        cases h
  | goIdle =>
    have hstand := hs.stand_goIdle (startOp_command hop (by decide) (by decide))
    refine Traced.Triple.bind ((hobeys.goIdle (stage s.2) l (hactive (by decide)) hstand
      s₀).weaken hat fun _ _ => id) fun status => Traced.Triple.pure fun d hd hsmooth => ?_
    obtain ⟨htpm, hl, hidle⟩ := hd
    have hstatus : status = EfiStatus.success := hsmooth
    subst hstatus
    exact ⟨hs.applyOp (hsame d (by decide) (by decide) hl _) (fun _ => hidle rfl)
      (fun h => by cases h) (fun h => by cases h), fun _ => htpm, fun h => by cases h⟩
  | start =>
    by_cases hstart : (s.1.mIsCrbInterface = false → s.1.mCurrentState = .ready) ∧
        ∃ command, Announces core (s.1.crb l) command
    · obtain ⟨hready, command, hcommand⟩ := hstart
      have hcommandOp := startOp_command hop (by decide) (by decide)
      refine Traced.Triple.bind ((hobeys.start (stage s.2) l (s.1.crb l) command
        (hactive (by decide)) (hs.stand_start hcommandOp hready) hcommand s₀).weaken hat
        fun _ _ => id) fun result => ?_
      obtain ⟨status, page⟩ := result
      refine Traced.Triple.pure fun d hd hsmooth => ?_
      obtain ⟨htpm, hl, hdone, hholds⟩ := hd hsmooth.1
      have hstatus : status = EfiStatus.success := hsmooth.1
      -- the service is in the complete state afterwards
      have hnext : nextState s.1.mCurrentState .start status = .complete := by
        rcases commandOp_start hcommandOp with h | h <;> rw [hstatus, h] <;> rfl
      refine ⟨hs.applyOp (hsame d (by decide) (by decide) hl _) (fun h => ?_) (fun h => ?_)
        fun _ => hdone, fun h => absurd rfl h, fun _ => ⟨command, hcommand, htpm, hholds⟩⟩
      all_goals
        rw [hnext] at h
        cases h
    · exact fun t _ hsmooth => absurd hsmooth.2 hstart

/-- **The step lemma.**  A step that is not cut short keeps the service and the TPM in step, and
is an exchange with the TPM, or leaves its state. -/
theorem Obeys.step (hobeys : Obeys mIsCrbInterface bypass device core stage)
    (hs : InStep mIsCrbInterface bypass stage s) (i : ProxyInput)
    (hsmooth : Smooth core ((proxyMachine platform device).stepAt s i)) :
    InStep mIsCrbInterface bypass stage ((proxyMachine platform device).step s i).1 ∧
      (startsCommand ((proxyMachine platform device).stepAt s i) = false →
        (stage ((proxyMachine platform device).step s i).1.2).tpm = (stage s.2).tpm) ∧
      (startsCommand ((proxyMachine platform device).stepAt s i) = true →
        ∃ command, Exchange core ((proxyMachine platform device).stepAt s i)
            (core.machine.stepAt (stage s.2).tpm command) ∧
          (stage ((proxyMachine platform device).step s i).1.2).tpm =
            (core.execute (stage s.2).tpm command).1) := by
  -- the step is one of the service, and then of the device
  have hpost : ((proxyMachine platform device).step s i).1 =
      (((serviceMachine platform).step s.1 (i.serviceInput (device.tpm s.2))).1,
        device.after s.2
          ((serviceMachine platform).step s.1 (i.serviceInput (device.tpm s.2))).2.events) := rfl
  have houtput : ((proxyMachine platform device).stepAt s i).output =
      ((serviceMachine platform).step s.1 (i.serviceInput (device.tpm s.2))).2 := rfl
  rcases hc : ((serviceMachine platform).step s.1 (i.serviceInput (device.tpm s.2))).2.call with
    _ | call
  · obtain ⟨hevents, hactive, hstate, -⟩ := step_call_none hc
    obtain ⟨hcrb, hbypass⟩ := step_interface platform s.1 (i.serviceInput (device.tpm s.2))
    have hnone : startsCommand ((proxyMachine platform device).stepAt s i) = false := by
      rw [startsCommand, houtput, hc]
      rfl
    rw [hpost, hevents, hnone]
    refine ⟨⟨hcrb.trans hs.interface, hbypass.trans hs.supported, hstate ▸ hs.known,
      ?_, ?_, ?_, ?_⟩, fun _ => rfl, fun h => by cases h⟩
    · exact fun l hl => hs.active l (hactive ▸ hl)
    · exact fun h => hs.idle (hstate ▸ h)
    · exact fun h => hs.ready (hstate ▸ h)
    · exact fun h => hs.complete (hstate ▸ h)
  · obtain ⟨request, response, tpm, hi, hop, hstep, hstatus, hevents⟩ := step_call_effect hc
    obtain rfl : tpm = device.tpm s.2 := by
      cases i with
      | clientWrite crb => cases hi
      | request message response =>
        injection hi with _ _ htpm
        exact htpm.symm
    obtain ⟨op, l, status⟩ := call
    dsimp only at hop hstep hstatus hevents
    rw [hs.interface] at hstep hstatus hevents
    have hcall : SmoothCall core s.1 ⟨op, l, status⟩ := hsmooth _ hc
    have hoperation := (hobeys.operation hs hop).run rfl
    rw [← hstatus] at hoperation
    obtain ⟨hnext, hother, hstart⟩ := hoperation hcall
    rw [hpost, hevents, congrArg Prod.fst hstep]
    dsimp only
    have hcommand : startsCommand ((proxyMachine platform device).stepAt s i) = (op == .start) := by
      rw [startsCommand, houtput, hc]
      rfl
    rw [hcommand]
    refine ⟨hnext, fun h => hother (by simpa using h), fun h => ?_⟩
    obtain rfl : op = .start := by simpa using h
    obtain ⟨command, hannounces, htpm, hholds⟩ := hstart rfl
    refine ⟨command, ⟨l, ?_, hannounces, fun j hj hlt => ?_⟩, htpm⟩
    · have hsuccess : status = EfiStatus.success := hcall.1
      rw [houtput, hc, hsuccess]
    · rw [Machine.stepAt_post, hpost, congrArg Prod.fst hstep,
        applyOp_start_data platform status _ ((startOp_active hop).1 (by decide))]
      exact hholds j hj hlt

/-- They are in step when the service starts. -/
theorem inStep_init (platform : TpmPlatform) (interfaceId : BitVec 32) (stage : S → Stage τ)
    {d : S} (hidle : (stage d).stand.readies (tpmSstInit interfaceId).1
      (tpmSstInit interfaceId).2 = true) :
    InStep (tpmSstInit interfaceId).1 (tpmSstInit interfaceId).2 stage
      (tpmServiceInit platform interfaceId, d) where
  interface := rfl
  supported := rfl
  known h := by cases h
  active l h := by cases h
  idle _ := hidle
  ready h := by cases h
  complete h := by cases h

/-- **The run lemma.** -/
theorem Obeys.run (hobeys : Obeys mIsCrbInterface bypass device core stage)
    (hs : InStep mIsCrbInterface bypass stage s) (inputs : List ProxyInput)
    (hsmooth : SmoothRun platform device core s inputs) :
    ExecutesAnnounced platform device core stage s inputs := by
  have hrun := @Machine.final_of_history _ _ _ (proxyMachine platform device)
    (fun h s' => InStep mIsCrbInterface bypass stage s' ∧ ∃ commands : List (List (BitVec 8)),
      List.Forall₂ (Exchange core) (h.filter startsCommand)
        (core.machine.history (stage s.2).tpm commands) ∧
      (stage s'.2).tpm = core.machine.final (stage s.2).tpm commands)
    (fun s' i => Smooth core ((proxyMachine platform device).stepAt s' i)) s
    ⟨hs, [], .nil, rfl⟩ ?_ inputs ?_
  · exact hrun.2
  · rintro h s' i hok ⟨hs', commands, hexchanges, htpm⟩
    obtain ⟨hnext, hquiet, hstart⟩ := hobeys.step hs' i hok
    refine ⟨hnext, ?_⟩
    rw [List.filter_append]
    cases hcommand : startsCommand ((proxyMachine platform device).stepAt s' i) with
    | false =>
      refine ⟨commands, ?_, (hquiet hcommand).trans htpm⟩
      rwa [List.filter_cons_of_neg (by simp [hcommand]), List.filter_nil, List.append_nil]
    | true =>
      obtain ⟨command, hexchange, hexecute⟩ := hstart hcommand
      refine ⟨commands ++ [command], ?_, ?_⟩
      · rw [List.filter_cons_of_pos hcommand, List.filter_nil, Machine.history_concat, ← htpm]
        exact List.rel_append hexchanges (.cons hexchange .nil)
      · rw [Machine.final_concat, ← htpm]
        exact hexecute
  · intro e he
    rw [← Machine.eq_stepAt_of_mem_history he]
    exact hsmooth e he

end Runs

/-! ### What clients are promised -/

section Interfaces

variable {S τ : Type} {core : TpmCore τ}

/-- **The proxy of a CRB device executes the commands of its clients**: those that were announced
in the pages by `START` requests, each once and in order, with the responses in the pages.  It
starts at a TPM that takes a request to get ready. -/
theorem crb_proxy_executes (platform : TpmPlatform) {interfaceId : BitVec 32}
    (hinterface : (tpmSstInit interfaceId).1 = true)
    (device : CrbDevice S τ core (tpmSstInit interfaceId).2) {d : S}
    (hidle : (device.stage d).stand.readies true (tpmSstInit interfaceId).2 = true)
    (inputs : List ProxyInput)
    (hsmooth : SmoothRun platform device.toDevice core
      (tpmServiceInit platform interfaceId, d) inputs) :
    ExecutesAnnounced platform device.toDevice core device.stage
      (tpmServiceInit platform interfaceId, d) inputs := by
  have hobeys : Obeys (tpmSstInit interfaceId).1 (tpmSstInit interfaceId).2 device.toDevice core
      device.stage := hinterface ▸ device.obeys
  refine hobeys.run (inStep_init platform interfaceId device.stage ?_) inputs hsmooth
  rw [hinterface]
  exact hidle

/-- **And so does the proxy of a FIFO device**, whatever bursts it announces and whatever its
`InterfaceId` says of the idle bypass. -/
theorem fifo_proxy_executes (platform : TpmPlatform) {interfaceId : BitVec 32}
    (hinterface : (tpmSstInit interfaceId).1 = false)
    (device : FifoDevice S τ core) {d : S}
    (hcalm : (device.stage d).stand ≠ .busy) (inputs : List ProxyInput)
    (hsmooth : SmoothRun platform device.toDevice core
      (tpmServiceInit platform interfaceId, d) inputs) :
    ExecutesAnnounced platform device.toDevice core device.stage
      (tpmServiceInit platform interfaceId, d) inputs := by
  have hobeys : Obeys (tpmSstInit interfaceId).1 (tpmSstInit interfaceId).2 device.toDevice core
      device.stage := by
    rw [hinterface]
    exact device.obeys _
  refine hobeys.run (inStep_init platform interfaceId device.stage ?_) inputs hsmooth
  rw [hinterface]
  exact Stand.readies_fifo.2 hcalm

end Interfaces

/-! ### An echoing device behind the service -/

/-- A page that asks for something, with a command of two bytes. -/
def echoPage (responseSize localityControl crbControlRequest crbControlStart : BitVec 32) :
    ProxyInput :=
  .clientWrite fun _ =>
    { PtpCrbRegisters.zero with
      localityControl := localityControl
      crbControlRequest := crbControlRequest
      crbControlStart := crbControlStart
      crbControlCommandSize := 2
      crbControlResponseSize := responseSize
      crbDataBuffer := fun index => if index.val = 0 then 7 else 9 }

/-- Locality `0` is opened, granted and made ready, and starts a command. -/
def echoRun (responseSize : BitVec 32) : List ProxyInput :=
  [.request (manageMessage .standard 0 0) .zero,
    echoPage responseSize 1 0 0, .request (startMessage .standard 1 0) .zero,
    echoPage responseSize 0 1 0, .request (startMessage .standard 0 0) .zero,
    echoPage responseSize 0 0 1, .request (startMessage .standard 0 0) .zero]

/-- The step's operation succeeds, on a page with a command of two bytes, and starts it in the
ready state. -/
def echoStep {S : Type} (e : ProxyStep S) : Bool :=
  e.output.call.all fun call =>
    call.status == EfiStatus.success && call.op != .localityRelinquish &&
      (call.op != .start || e.pre.1.mCurrentState == .ready) &&
      (e.pre.1.crb call.locality).crbControlCommandSize == 2 &&
      (e.pre.1.crb call.locality).crbControlResponseSize == 4

/-- Such a step is smooth. -/
theorem smooth_echoStep {S : Type} {e : ProxyStep S} (h : echoStep e = true) :
    Smooth TpmCore.echo e := by
  intro call hcall
  rw [echoStep, hcall, Option.all_some] at h
  simp only [Bool.and_eq_true, Bool.or_eq_true, beq_iff_eq, bne_iff_ne] at h
  obtain ⟨⟨⟨⟨hstatus, hop⟩, hready⟩, hcommand⟩, hresponse⟩ := h
  obtain ⟨op, l, status⟩ := call
  cases op with
  | localityRequest => trivial
  | localityRelinquish => exact absurd rfl hop
  | cmdReady => exact .inl hstatus
  | goIdle => exact hstatus
  | start =>
    refine ⟨hstatus, fun _ => hready.resolve_left (absurd rfl),
      [(e.pre.1.crb l).crbDataBuffer 0, (e.pre.1.crb l).crbDataBuffer 1],
      TpmCore.isCommand_echo.2 rfl, ?_, ?_, ?_, ?_⟩
    · rw [hcommand]
      exact Nat.le_refl 2
    · rintro ⟨i, hi⟩ hlt
      rcases i with _ | _ | i
      · rfl
      · rfl
      · exact absurd hlt (by simp)
    · rw [hcommand]
      decide
    · rw [hresponse]
      decide

/-- The run, with the echoing CRB device. -/
theorem crb_proxy_executes_echo :
    ExecutesAnnounced .standard CrbDevice.echo.toDevice TpmCore.echo CrbDevice.echo.stage
      (tpmServiceInit .standard 1, ⟨0, none, .idle⟩) (echoRun 4) :=
  @crb_proxy_executes _ _ _ .standard 1 (by decide) CrbDevice.echo ⟨0, none, .idle⟩ (by decide)
    (echoRun 4) fun e he => smooth_echoStep (List.all_eq_true.1 (by decide +kernel) e he)

/-- And with the echoing FIFO device, whose `InterfaceId` has the bit of the idle bypass. -/
theorem fifo_proxy_executes_echo :
    ExecutesAnnounced .standard FifoDevice.echo.toDevice TpmCore.echo FifoDevice.echo.stage
      (tpmServiceInit .standard 0xFFFFFFFF, ⟨0, none, .idle⟩) (echoRun 4) :=
  @fifo_proxy_executes _ _ _ .standard 0xFFFFFFFF (by decide) FifoDevice.echo ⟨0, none, .idle⟩
    (by decide) (echoRun 4) fun e he =>
      smooth_echoStep (List.all_eq_true.1 (by decide +kernel) e he)

/-- A `START` in the complete state, where part of the response is left: it succeeds as the one
before did, and the TPM has executed one command. -/
example :
    let m := proxyMachine .standard FifoDevice.echo.toDevice
    let inputs := echoRun 1 ++ [echoPage 1 0 0 1, .request (startMessage .standard 0 0) .zero]
    ((m.history (tpmServiceInit .standard 0xFFFFFFFF, ⟨0, none, .idle⟩) inputs).filter
        startsCommand).map (fun e => e.output.call.map SstCall.status) =
      [some EfiStatus.success, some EfiStatus.success] ∧
    (m.final (tpmServiceInit .standard 0xFFFFFFFF, ⟨0, none, .idle⟩) inputs).2.tpm = 1 := by
  decide +kernel

end Tpm
end FfaFeature
