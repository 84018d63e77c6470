/-
# Who reaches the TPM

The secure world opens localities, clients make an open one active, and only the
active locality is served.  `LatestOpen` says of a locality and the past of a run
that the latest accepted `MANAGE_LOCALITY` for it was an `OPEN` from a secure
logical partition; `AccessInv` carries it along every run, and with it that a
locality is active only after such an `OPEN`.  Every call of a state translation
operation is therefore guarded by one, and a run without any leaves the TPM and the
pages alone (`sstCall_guarded`).
-/

import FfaFeature.Tpm.Step

namespace FfaFeature
namespace Tpm

/-- A step of the service. -/
abbrev ServiceStep := Machine.Step TpmService ServiceInput ServiceOutput

/-- The step is a `MANAGE_LOCALITY` for the locality answered with success. -/
def AcceptedManage (platform : TpmPlatform) (operation : BitVec 16) (locality : Locality)
    (e : ServiceStep) : Prop :=
  ∃ request response tpm answer, e.input = .request request response tpm ∧
    request.arg0 = platform.manageLocality ∧ requestLocality request = some locality ∧
    requestFunction request = operation ∧
    e.output.response = some answer ∧ answer.arg0 = platform.successOk

/-- The step is a message whose source has `0xFF` for its high byte. -/
def SecureSource (e : ServiceStep) : Prop :=
  ∃ request response tpm, e.input = .request request response tpm ∧
    request.sourceId &&& 0xFF00 = 0xFF00

/-- The step is an accepted `OPEN` of the locality by a secure source. -/
def SecureOpen (platform : TpmPlatform) (locality : Locality) (e : ServiceStep) : Prop :=
  AcceptedManage platform platform.manageLocalityOpen locality e ∧ SecureSource e

/-- The latest accepted `MANAGE_LOCALITY` for the locality was such an `OPEN`. -/
def LatestOpen (platform : TpmPlatform) (locality : Locality) (h : List ServiceStep) : Prop :=
  Machine.Since (SecureOpen platform locality)
    (fun e => ∀ operation, ¬ AcceptedManage platform operation locality e) h

/-- A locality open after a `MANAGE_LOCALITY` was opened by it, or was open and the
message, if accepted, was for another one. -/
theorem manageLocalityHandler_opened {platform : TpmPlatform} {s : TpmService}
    {request : DirectMsgArgsEx} {locality : Locality}
    (h : (manageLocalityHandler platform s request).2.mLocalityStates locality = .opened) :
    (request.sourceId &&& 0xFF00 = 0xFF00 ∧ requestLocality request = some locality ∧
        requestFunction request = platform.manageLocalityOpen ∧
        (manageLocalityHandler platform s request).1 = platform.successOk) ∨
      (s.mLocalityStates locality = .opened ∧
        ((manageLocalityHandler platform s request).1 = platform.successOk →
          requestLocality request ≠ some locality)) := by
  obtain ⟨hinvarg, hdenied, -⟩ := platform.successOk_ne_errors
  unfold manageLocalityHandler at h ⊢
  by_cases hsource : request.sourceId &&& 0xFF00 = 0xFF00
  · rw [if_neg (not_not.2 hsource)] at h ⊢
    rcases hl : requestLocality request with _ | l
    · rw [hl] at h
      exact .inr ⟨h, fun he => absurd he.symm hinvarg⟩
    · rw [hl] at h
      dsimp only at h ⊢
      by_cases hne : l = locality
      · subst hne
        by_cases hopen : requestFunction request = platform.manageLocalityOpen
        · exact .inl ⟨hsource, rfl, hopen, by rw [if_pos hopen]⟩
        · rw [if_neg hopen] at h ⊢
          split_ifs at h ⊢
          · simp at h
          · exact .inr ⟨h, fun he => absurd he.symm hinvarg⟩
      · refine .inr ⟨?_, fun _ he => hne (Option.some.inj he)⟩
        split_ifs at h
        · dsimp only at h
          rwa [Function.update_of_ne (Ne.symm hne)] at h
        · dsimp only at h
          rwa [Function.update_of_ne (Ne.symm hne)] at h
        · exact h
  · rw [if_pos hsource] at h ⊢
    exact .inr ⟨h, fun he => absurd he.symm hdenied⟩

/-- **An open locality was opened by this step, or was open and is not this step's
business.** -/
theorem step_opened {platform : TpmPlatform} {s : TpmService} {i : ServiceInput}
    {locality : Locality}
    (h : ((serviceMachine platform).step s i).1.mLocalityStates locality = .opened) :
    SecureOpen platform locality ((serviceMachine platform).stepAt s i) ∨
      (s.mLocalityStates locality = .opened ∧ ∀ operation,
        ¬ AcceptedManage platform operation locality ((serviceMachine platform).stepAt s i)) := by
  rcases i with ⟨request, response, tpm⟩ | crb
  · -- a step that is no `MANAGE_LOCALITY` is not an accepted one
    have hother : request.arg0 ≠ platform.manageLocality → ∀ operation,
        ¬ AcceptedManage platform operation locality
          ((serviceMachine platform).stepAt s (.request request response tpm)) := by
      rintro hne operation ⟨_, _, _, _, he, harg, -⟩
      cases he
      exact hne harg
    have hout : ((serviceMachine platform).stepAt s (.request request response tpm)).output =
        (tpmServiceHandle platform s request response tpm).2 := rfl
    have hresult := tpmServiceHandle_result platform s request response tpm
    rw [serviceMachine_request] at h
    generalize hr : tpmServiceHandle platform s request response tpm = result at hresult h hout
    rcases hresult with ⟨_, _, _, hne⟩ | ⟨handled, events, harg, hstart⟩ | ⟨harg⟩
    · exact .inr ⟨h, hother hne⟩
    · refine .inr ⟨?_, hother (harg ▸ platform.start_ne_manageLocality)⟩
      dsimp only at h
      rw [cleanInternalCrb_mLocalityStates] at h
      rcases hstart with _ | ⟨op, l, _⟩
      · exact h
      · rwa [applyOp_mLocalityStates] at h
    · rcases manageLocalityHandler_opened h with ⟨hsource, hl, hopen, hst⟩ | ⟨hopened, hst⟩
      · exact .inl ⟨⟨request, response, tpm, _, rfl, harg, hl, hopen, by rw [hout]; rfl, hst⟩,
          request, response, tpm, rfl, hsource⟩
      · refine .inr ⟨hopened, ?_⟩
        rintro operation ⟨request', _, _, answer', he, -, hl, -, hanswer, hok⟩
        cases he
        rw [hout] at hanswer
        obtain rfl := Option.some.inj hanswer
        exact hst hok hl
  · refine .inr ⟨h, ?_⟩
    rintro operation ⟨_, _, _, _, he, -⟩
    cases he

/-- What the past of a run says of its state: an open locality was last opened by the
secure world, and a locality is active only after such an `OPEN`. -/
structure AccessInv (platform : TpmPlatform) (h : List ServiceStep) (s : TpmService) : Prop where
  opened : ∀ locality, s.mLocalityStates locality = .opened → LatestOpen platform locality h
  active : ∀ locality, s.mActiveLocality = some locality → ∃ e ∈ h, SecureOpen platform locality e

/-- A latest open is an open. -/
theorem LatestOpen.exists {platform : TpmPlatform} {locality : Locality} {h : List ServiceStep}
    (hl : LatestOpen platform locality h) : ∃ e ∈ h, SecureOpen platform locality e := by
  obtain ⟨before, e, after, rfl, he, -⟩ := hl
  exact ⟨e, by simp, he⟩

/-- One step keeps the account. -/
theorem accessInv_step {platform : TpmPlatform} {h : List ServiceStep} {s : TpmService}
    (i : ServiceInput) (hinv : AccessInv platform h s) :
    AccessInv platform (h ++ [(serviceMachine platform).stepAt s i])
      ((serviceMachine platform).step s i).1 := by
  have hmem : ∀ {locality}, (∃ e ∈ h, SecureOpen platform locality e) →
      ∃ e ∈ h ++ [(serviceMachine platform).stepAt s i], SecureOpen platform locality e :=
    fun ⟨e, he, ho⟩ => ⟨e, List.mem_append_left _ he, ho⟩
  refine ⟨fun locality hopen => ?_, fun locality hactive => ?_⟩
  · rcases step_opened hopen with ho | ⟨hbefore, hq⟩
    · exact Machine.Since.here ho
    · exact (hinv.opened locality hbefore).later hq
  · rcases hc : ((serviceMachine platform).step s i).2.call with _ | call
    · rw [(step_call_none hc).2.1] at hactive
      exact hmem (hinv.active locality hactive)
    · obtain ⟨request, response, tpm, -, -, hop, -, hnext, -⟩ := step_call_some hc
      rw [hnext] at hactive
      -- whatever the operation, its locality is open, and the active one from here on
      obtain ⟨rfl, -⟩ := nextActive_some hop hactive
      exact hmem (hinv.opened _ (startOp_some hop).1).exists

/-- The past of a run accounts for its last state. -/
theorem accessInv (platform : TpmPlatform) (interfaceId : BitVec 32) (is : List ServiceInput) :
    AccessInv platform
      ((serviceMachine platform).history (tpmServiceInit platform interfaceId) is)
      ((serviceMachine platform).final (tpmServiceInit platform interfaceId) is) := by
  have hstart : AccessInv platform [] (tpmServiceInit platform interfaceId) :=
    ⟨fun _ ho => (nomatch ho), fun _ ha => (nomatch ha)⟩
  exact @Machine.final_of_history _ _ _ (serviceMachine platform) (AccessInv platform)
    (fun _ _ => True) _ hstart (fun _ _ i _ => accessInv_step i) is fun _ _ => trivial

/-- **Access control.**  After every run, a call of an operation with a locality
happens only while the latest accepted `MANAGE_LOCALITY` for it is an `OPEN` from
the secure world; requests only while no other locality is active, the others only
by the active one.  A run without such an `OPEN` calls nothing, leaves the TPM alone,
and no request of it changes a page. -/
theorem sstCall_guarded (platform : TpmPlatform) (interfaceId : BitVec 32)
    (is : List ServiceInput) :
    (∀ i call,
      ((serviceMachine platform).step
          ((serviceMachine platform).final (tpmServiceInit platform interfaceId) is) i).2.call =
        some call →
      LatestOpen platform call.locality
          ((serviceMachine platform).history (tpmServiceInit platform interfaceId) is) ∧
        (call.op ≠ .localityRequest →
          ((serviceMachine platform).final (tpmServiceInit platform interfaceId)
            is).mActiveLocality = some call.locality) ∧
        (call.op = .localityRequest →
          ((serviceMachine platform).final (tpmServiceInit platform interfaceId)
              is).mActiveLocality = none ∨
            ((serviceMachine platform).final (tpmServiceInit platform interfaceId)
              is).mActiveLocality = some call.locality)) ∧
    ((∀ e ∈ (serviceMachine platform).history (tpmServiceInit platform interfaceId) is,
        ∀ locality, ¬ SecureOpen platform locality e) →
      ∀ e ∈ (serviceMachine platform).history (tpmServiceInit platform interfaceId) is,
        e.output.call = none ∧ e.output.events = [] ∧
          ((∃ request response tpm, e.input = .request request response tpm) →
            e.post.crb = e.pre.crb)) := by
  have hinv := accessInv platform interfaceId
  constructor
  · intro i call hc
    obtain ⟨request, response, tpm, -, -, hop, -⟩ := step_call_some hc
    exact ⟨(hinv is).opened _ (startOp_some hop).1, startOp_active hop⟩
  · intro hnone
    induction is using List.reverseRecOn with
    | nil => exact fun e he => absurd he List.not_mem_nil
    | append_singleton is i ih =>
      rw [Machine.history_concat] at hnone ⊢
      have hbefore := fun e he => hnone e (List.mem_append_left _ he)
      intro e he
      rcases List.mem_append.1 he with he | he
      · exact ih hbefore e he
      · obtain rfl := List.mem_singleton.1 he
        have hcall : ((serviceMachine platform).step ((serviceMachine platform).final
            (tpmServiceInit platform interfaceId) is) i).2.call = none := by
          rcases hc : ((serviceMachine platform).step ((serviceMachine platform).final
            (tpmServiceInit platform interfaceId) is) i).2.call with _ | call
          · rfl
          · obtain ⟨request, response, tpm, -, -, hop, -⟩ := step_call_some hc
            obtain ⟨e, he, ho⟩ := ((hinv is).opened _ (startOp_some hop).1).exists
            exact absurd ho (hbefore e he _)
        obtain ⟨hevents, -, -, hcrb⟩ := step_call_none hcall
        refine ⟨hcall, hevents, ?_⟩
        rintro ⟨request, response, tpm, he⟩
        refine hcrb request response tpm he ?_
        rcases ha : ((serviceMachine platform).final (tpmServiceInit platform interfaceId)
          is).mActiveLocality with _ | locality
        · rfl
        · obtain ⟨e, he, ho⟩ := (hinv is).active locality ha
          exact absurd ho (hbefore e he _)

end Tpm
end FfaFeature
