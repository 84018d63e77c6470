/-
# A command starts on a ready TPM

A locality that becomes active starts in the idle state: `InitInternalCrb` shows
`tpmIdle` in its fresh page, and the state machine asks for `cmdReady` before a
command.  But relinquishing leaves `mCurrentState` as it is.  A locality given up in
the ready or the complete state passes that state on, and the next one can start a
command on a TPM that was never made ready for it.

`ReadySince` is what a start should find in the past of the run, and it is found
along every run in which no locality is given up outside the idle state
(`start_ready`).
-/

import FfaFeature.Tpm.Access

namespace FfaFeature
namespace Tpm

/-- The locality was the active one before the step and is after it. -/
def StaysActive (locality : Locality) (e : ServiceStep) : Prop :=
  e.pre.mActiveLocality = some locality ∧ e.post.mActiveLocality = some locality

/-- Since the locality became active, a `cmdReady` succeeded at it, and no `goIdle`
after the last one. -/
def ReadySince (locality : Locality) (h : List ServiceStep) : Prop :=
  Machine.Since
    (fun e => StaysActive locality e ∧
      e.output.call = some ⟨.cmdReady, locality, EfiStatus.success⟩)
    (fun e => StaysActive locality e ∧
      ∀ l, e.output.call ≠ some ⟨.goIdle, l, EfiStatus.success⟩) h

/-- The input gives up the active locality, with the TPM's consent, while the state
is not idle. -/
def RelinquishesBusy (platform : TpmPlatform) (s : TpmService) (i : ServiceInput) : Prop :=
  s.mCurrentState ≠ .idle ∧ ∃ request response tpm locality,
    i = .request request response tpm ∧ request.arg0 = platform.start ∧
      startOp platform s request = some (.localityRelinquish, locality) ∧
      ((tpmSstLocalityRelinquish s.mIsCrbInterface locality).run tpm []).1 = EfiStatus.success

/-- What the past says of the state, where no locality was given up busy. -/
structure ReadyInv (h : List ServiceStep) (s : TpmService) : Prop where
  inactive : s.mActiveLocality = none → s.mCurrentState = .idle
  known : s.mCurrentState ≠ .numTpmStates
  ready : ∀ locality, s.mActiveLocality = some locality → s.mCurrentState ≠ .idle →
    ReadySince locality h

section Step

variable {platform : TpmPlatform} {h : List ServiceStep} {s : TpmService} {i : ServiceInput}

/-- A step that keeps the active locality and does not go idle keeps it ready. -/
theorem ReadyInv.later (hinv : ReadyInv h s) {locality : Locality}
    (hactive : s.mActiveLocality = some locality) (hbusy : s.mCurrentState ≠ .idle)
    (hpost : ((serviceMachine platform).step s i).1.mActiveLocality = some locality)
    (hno : ∀ l, ((serviceMachine platform).step s i).2.call ≠
      some ⟨.goIdle, l, EfiStatus.success⟩) :
    ReadySince locality (h ++ [(serviceMachine platform).stepAt s i]) :=
  (hinv.ready locality hactive hbusy).later ⟨⟨hactive, hpost⟩, hno⟩

/-- A step that moves neither the active locality nor the state, and does not go
idle, keeps the invariant. -/
theorem ReadyInv.still (hinv : ReadyInv h s)
    (hactive : ((serviceMachine platform).step s i).1.mActiveLocality = s.mActiveLocality)
    (hstate : ((serviceMachine platform).step s i).1.mCurrentState = s.mCurrentState)
    (hno : ∀ l, ((serviceMachine platform).step s i).2.call ≠
      some ⟨.goIdle, l, EfiStatus.success⟩) :
    ReadyInv (h ++ [(serviceMachine platform).stepAt s i])
      ((serviceMachine platform).step s i).1 := by
  refine ⟨fun hnone => ?_, ?_, fun l hl hbusy => ?_⟩
  · rw [hstate]
    exact hinv.inactive (hactive ▸ hnone)
  · rw [hstate]
    exact hinv.known
  · rw [hstate] at hbusy
    exact hinv.later (hactive ▸ hl) hbusy hl hno

/-- A `cmdReady` that succeeds makes its locality ready, in whatever state. -/
theorem ReadyInv.cmdReady (hinv : ReadyInv h s) {locality : Locality}
    (hcall : ((serviceMachine platform).step s i).2.call =
      some ⟨.cmdReady, locality, EfiStatus.success⟩)
    (hactive : s.mActiveLocality = some locality)
    (hpost : ((serviceMachine platform).step s i).1.mActiveLocality = some locality)
    (hstate : ((serviceMachine platform).step s i).1.mCurrentState =
      nextState s.mCurrentState .cmdReady EfiStatus.success) :
    ReadyInv (h ++ [(serviceMachine platform).stepAt s i])
      ((serviceMachine platform).step s i).1 := by
  have hready : nextState s.mCurrentState .cmdReady EfiStatus.success = .ready := by
    have hknown := hinv.known
    rcases hs : s.mCurrentState <;> simp_all [nextState]
  rw [hready] at hstate
  refine ⟨fun hnone => ?_, by simp [hstate], fun l hl _ => ?_⟩
  · rw [hpost] at hnone
    cases hnone
  · obtain rfl := Option.some.inj (hpost.symm.trans hl)
    exact Machine.Since.here ⟨⟨hactive, hpost⟩, hcall⟩

/-- **One step keeps the invariant** unless it gives up a busy locality. -/
theorem readyInv_step (hok : ¬ RelinquishesBusy platform s i) (hinv : ReadyInv h s) :
    ReadyInv (h ++ [(serviceMachine platform).stepAt s i])
      ((serviceMachine platform).step s i).1 := by
  rcases hc : ((serviceMachine platform).step s i).2.call with _ | ⟨op, locality, status⟩
  · obtain ⟨-, hactive, hstate, -⟩ := step_call_none hc
    exact hinv.still hactive hstate fun l he => by
      rw [hc] at he
      cases he
  obtain ⟨request, response, tpm, hi, harg, hop, hst, hactive, hstate, -⟩ := step_call_some hc
  obtain ⟨hother, hrequest⟩ := startOp_active hop
  dsimp only at hop hst hactive hstate hother hrequest
  have hgoIdle : op ≠ .goIdle ∨ status ≠ EfiStatus.success →
      ∀ l, ((serviceMachine platform).step s i).2.call ≠
        some ⟨.goIdle, l, EfiStatus.success⟩ := by
    rintro hne l he
    rw [hc] at he
    obtain ⟨rfl, -, rfl⟩ := SstCall.mk.inj (Option.some.inj he)
    simp at hne
  by_cases hs : status = EfiStatus.success
  · subst hs
    rcases op
    · -- going idle
      have hidle : ((serviceMachine platform).step s i).1.mCurrentState = .idle := by
        rw [hstate]
        rfl
      exact ⟨fun _ => hidle, by simp [hidle], fun _ _ hbusy => absurd hidle hbusy⟩
    · have hl := hother (by simp)
      exact hinv.cmdReady hc hl (hactive.trans hl) hstate
    · -- starting, which keeps a state past idle past idle
      have hl := hother (by simp)
      have hbusy : s.mCurrentState ≠ .idle := by
        rcases startOp_start hop with hs | hs <;> simp [hs]
      have hcomplete : ((serviceMachine platform).step s i).1.mCurrentState = .complete := by
        rw [hstate]
        rcases startOp_start hop with hs | hs <;> rw [hs] <;> rfl
      refine ⟨fun hnone => ?_, by simp [hcomplete], fun l' hl' _ => ?_⟩
      · rw [hactive.trans hl] at hnone
        cases hnone
      · exact hinv.later (hactive.symm.trans hl') hbusy hl'
          (hgoIdle (.inl (by simp)))
    · -- requesting: the state is idle where no locality was active
      have hsame : ((serviceMachine platform).step s i).1.mCurrentState = s.mCurrentState := by
        rw [hstate]
        rcases s.mCurrentState <;> rfl
      have hpost : ((serviceMachine platform).step s i).1.mActiveLocality = some locality := by
        rw [hactive]
        rfl
      rcases hrequest rfl with hnone | hsome
      · have hidle := hsame.trans (hinv.inactive hnone)
        exact ⟨fun _ => hidle, by simp [hidle], fun _ _ hbusy => absurd hidle hbusy⟩
      · exact hinv.still (hpost.trans hsome.symm) hsame (hgoIdle (.inl (by simp)))
    · -- relinquishing, which the condition allows in the idle state alone
      have hidle : s.mCurrentState = .idle := by
        by_contra hbusy
        exact hok ⟨hbusy, request, response, tpm, locality, hi, harg, hop, hst.symm⟩
      have hpost : ((serviceMachine platform).step s i).1.mCurrentState = .idle := by
        rw [hstate, hidle]
        rfl
      exact ⟨fun _ => hpost, by simp [hpost], fun _ _ hbusy => absurd hpost hbusy⟩
  · exact hinv.still (hactive.trans (nextActive_failed hs ..))
      (hstate.trans (nextState_failed hs ..)) (hgoIdle (.inr hs))

end Step

/-- The past of a run accounts for its last state. -/
theorem readyInv (platform : TpmPlatform) (interfaceId : BitVec 32) (is : List ServiceInput)
    (hok : ∀ e ∈ (serviceMachine platform).history (tpmServiceInit platform interfaceId) is,
      ¬ RelinquishesBusy platform e.pre e.input) :
    ReadyInv ((serviceMachine platform).history (tpmServiceInit platform interfaceId) is)
      ((serviceMachine platform).final (tpmServiceInit platform interfaceId) is) := by
  have hstart : ReadyInv [] (tpmServiceInit platform interfaceId) :=
    ⟨fun _ => rfl, by simp [tpmServiceInit], fun _ ha => (nomatch ha)⟩
  exact @Machine.final_of_history _ _ _ (serviceMachine platform) ReadyInv
    (fun s i => ¬ RelinquishesBusy platform s i) _ hstart
    (fun _ _ _ hok => readyInv_step hok) is hok

/-- **Along a run that gives up localities in the idle state only**, a command is
started at a locality only after a `cmdReady` there, with no `goIdle` since; and a
locality that becomes active finds the state idle. -/
theorem start_ready (platform : TpmPlatform) (interfaceId : BitVec 32) (is : List ServiceInput)
    (hok : ∀ e ∈ (serviceMachine platform).history (tpmServiceInit platform interfaceId) is,
      ¬ RelinquishesBusy platform e.pre e.input) :
    (∀ i locality status,
      ((serviceMachine platform).step
          ((serviceMachine platform).final (tpmServiceInit platform interfaceId) is) i).2.call =
        some ⟨.start, locality, status⟩ →
      ReadySince locality
        ((serviceMachine platform).history (tpmServiceInit platform interfaceId) is)) ∧
    ∀ i locality,
      ((serviceMachine platform).step
          ((serviceMachine platform).final (tpmServiceInit platform interfaceId) is) i).2.call =
        some ⟨.localityRequest, locality, EfiStatus.success⟩ →
      ((serviceMachine platform).final (tpmServiceInit platform interfaceId)
          is).mActiveLocality ≠ some locality →
      ((serviceMachine platform).step
          ((serviceMachine platform).final (tpmServiceInit platform interfaceId) is)
        i).1.mCurrentState = .idle := by
  have hinv := readyInv platform interfaceId is hok
  constructor
  · intro i locality status hc
    obtain ⟨request, response, tpm, -, -, hop, -⟩ := step_call_some hc
    refine hinv.ready locality ((startOp_active hop).1 (by simp)) ?_
    rcases startOp_start hop with hs | hs <;> simp [hs]
  · intro i locality hc hne
    obtain ⟨request, response, tpm, -, -, hop, -, -, hstate, -⟩ := step_call_some hc
    have hnone := ((startOp_active hop).2 rfl).resolve_right hne
    rw [hstate, hinv.inactive hnone]
    rfl

/-! ### Two runs -/

/-- Such a step is a request, in a state other than idle. -/
theorem RelinquishesBusy.request {platform : TpmPlatform} {s : TpmService} {i : ServiceInput}
    (h : RelinquishesBusy platform s i) :
    s.mCurrentState ≠ .idle ∧ ∀ crb, i ≠ .clientWrite crb := by
  obtain ⟨hstate, request, response, tpm, locality, rfl, -⟩ := h
  exact ⟨hstate, fun crb hc => by cases hc⟩

/-- The command that follows this run is started, and finds locality `0` ready. -/
theorem start_ready_zero :
    ReadySince 0 ((serviceMachine .standard).history (tpmServiceInit .standard 1) readyRun) := by
  refine (start_ready .standard 1 readyRun fun e he hbusy => ?_).1
    (.request (startMessage .standard 0 0) .zero (.const 0)) 0 EfiStatus.success (by decide +kernel)
  obtain ⟨hstate, hi⟩ := hbusy.request
  simp only [readyRun, Machine.history, List.mem_cons, List.not_mem_nil, or_false] at he
  -- the state is idle before every input but the last, which is a client's
  rcases he with rfl | rfl | rfl | rfl | rfl | rfl | rfl
  · exact hstate (by decide +kernel)
  · exact hstate (by decide +kernel)
  · exact hstate (by decide +kernel)
  · exact hstate (by decide +kernel)
  · exact hstate (by decide +kernel)
  · exact hstate (by decide +kernel)
  · exact hi _ rfl

/-- The same, but locality `0` is given up ready, and locality `1` made active. -/
def handoverRun : List ServiceInput :=
  readyRun ++
    [clientPages 2 0 0, .request (startMessage .standard 1 0) .zero (.const 0),
      clientPages 1 0 0, .request (startMessage .standard 1 1) .zero (.const 1),
      clientPages 0 0 1]

/-- **Locality `1` starts a command without a `cmdReady` of its own.** -/
theorem start_not_ready :
    ((serviceMachine .standard).step
        ((serviceMachine .standard).final (tpmServiceInit .standard 1) handoverRun)
        (.request (startMessage .standard 0 1) .zero (.const 0))).2.call =
      some ⟨.start, 1, EfiStatus.success⟩ ∧
    ¬ ReadySince 1
      ((serviceMachine .standard).history (tpmServiceInit .standard 1) handoverRun) := by
  refine ⟨by decide +kernel, fun hready => ?_⟩
  have hnone : ((serviceMachine .standard).history (tpmServiceInit .standard 1)
      handoverRun).all (fun e => e.output.call != some ⟨.cmdReady, 1, EfiStatus.success⟩) =
        true := by
    decide +kernel
  obtain ⟨before, e, after, hsplit, ⟨-, hcall⟩, -⟩ := hready
  rw [hsplit, List.all_eq_true] at hnone
  have := hnone e (by simp)
  simp [hcall] at this

end Tpm
end FfaFeature
