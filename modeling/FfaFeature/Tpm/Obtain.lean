/-
# Obtaining a locality

An open locality is obtained by a `START` that requests it, after one that relinquishes the
active locality if there is another.  Both are refused for a closed locality, and the
request while another locality is active.  `MANAGE_LOCALITY` closes a locality without a
look at `mActiveLocality`: closed while it is active, it can neither be used nor given up,
and no other locality can be obtained until the secure world opens it again (`Locked`).

`obtainable_iff` says that a locked state is all that stands in the way.  Along a run every
open locality is obtainable in every state exactly when no request of the run locks one out
(`obtainable_run_iff`).
-/

import FfaFeature.Tpm.Bounds

namespace FfaFeature
namespace Tpm

section Obtain

variable (platform : TpmPlatform)

/-- A step towards a locality: a write of a client, or a `START` at an open locality to which
the TPM answers with success if it is asked. -/
def Granting (s : TpmService) (i : ServiceInput) : Prop :=
  ∀ request response tpm, i = .request request response tpm →
    request.arg0 = platform.start ∧
      (∃ locality, requestLocality request = some locality ∧
        s.mLocalityStates locality = .opened) ∧
      ∀ call, ((serviceMachine platform).step s i).2.call = some call →
        call.status = EfiStatus.success

/-- Some run of such steps makes the locality active. -/
def Obtainable (s : TpmService) (locality : Locality) : Prop :=
  ∃ is, (∀ e ∈ (serviceMachine platform).history s is, Granting platform e.pre e.input) ∧
    ((serviceMachine platform).final s is).mActiveLocality = some locality

/-- Every open locality is obtainable. -/
def AllObtainable (s : TpmService) : Prop :=
  ∀ locality, s.mLocalityStates locality = .opened → Obtainable platform s locality

end Obtain

/-- The active locality is closed. -/
def Locked (s : TpmService) : Prop :=
  ∃ locality, s.mActiveLocality = some locality ∧ s.mLocalityStates locality = .closed

/-! ### What `START` does to the localities -/

section Steps

variable {platform : TpmPlatform} {s : TpmService} {i : ServiceInput}

/-- A step that is no `MANAGE_LOCALITY` leaves the localities' states. -/
theorem step_mLocalityStates (h : ∀ request response tpm, i = .request request response tpm →
      request.arg0 ≠ platform.manageLocality) :
    ((serviceMachine platform).step s i).1.mLocalityStates = s.mLocalityStates := by
  cases i with
  | clientWrite crb => rfl
  | request request response tpm =>
    have hresult := tpmServiceHandle_result platform s request response tpm
    rw [serviceMachine_request]
    generalize tpmServiceHandle platform s request response tpm = result at hresult ⊢
    cases hresult with
    | other _ _ _ _ => rfl
    | manageLocality harg => exact absurd harg (h request response tpm rfl)
    | start handled events harg hstart =>
      dsimp only
      rw [cleanInternalCrb_mLocalityStates]
      cases hstart with
      | refused _ _ _ => rfl
      | called op locality hop => exact applyOp_mLocalityStates ..

/-- **A locality that becomes active is open.** -/
theorem step_active {locality : Locality}
    (h : ((serviceMachine platform).step s i).1.mActiveLocality = some locality) :
    s.mActiveLocality = some locality ∨ s.mLocalityStates locality = .opened := by
  rcases hc : ((serviceMachine platform).step s i).2.call with _ | call
  · rw [(step_call_none hc).2.1] at h
    exact .inl h
  · obtain ⟨request, response, tpm, -, -, hop, -, hnext, -⟩ := step_call_some hc
    rw [hnext] at h
    obtain ⟨rfl, -⟩ := nextActive_some hop h
    exact .inr (startOp_some hop).1

/-- A `START` that calls an operation does so with its effect on the active locality. -/
theorem step_start {request response : DirectMsgArgsEx} {tpm : ExternalTpm} {op : SstOp}
    {locality : Locality} (harg : request.arg0 = platform.start)
    (hop : startOp platform s request = some (op, locality)) :
    ((serviceMachine platform).step s (.request request response tpm)).2.call =
      some ⟨op, locality,
        ((sstRun s.mIsCrbInterface op locality (s.crb locality)).run tpm []).1.1⟩ := by
  have hresult := tpmServiceHandle_result platform s request response tpm
  rw [serviceMachine_request]
  generalize tpmServiceHandle platform s request response tpm = result at hresult ⊢
  cases hresult with
  | other _ _ hne _ => exact absurd harg hne
  | manageLocality harg' =>
    exact absurd (harg.symm.trans harg') platform.start_ne_manageLocality
  | start handled events _ hstart =>
    cases hstart with
    | refused _ hnone _ =>
      rw [hop] at hnone
      cases hnone
    | called op' locality' hop' =>
      obtain ⟨rfl, rfl⟩ := Prod.mk.inj (Option.some.inj (hop.symm.trans hop'))
      rfl

/-! ### A closed active locality -/

/-- **A locked state stays locked**, whatever the clients do. -/
theorem granting_locked {locality : Locality} (hactive : s.mActiveLocality = some locality)
    (hclosed : s.mLocalityStates locality = .closed) (hi : Granting platform s i) :
    ((serviceMachine platform).step s i).1.mActiveLocality = some locality ∧
      ((serviceMachine platform).step s i).1.mLocalityStates = s.mLocalityStates := by
  refine ⟨?_, step_mLocalityStates fun request response tpm he => ?_⟩
  · rcases hc : ((serviceMachine platform).step s i).2.call with _ | call
    · exact (step_call_none hc).2.1.trans hactive
    · -- an operation is called at an open locality: the active one, or while there is none
      obtain ⟨request, response, tpm, -, -, hop, -⟩ := step_call_some hc
      have hopen := (startOp_some hop).1
      obtain ⟨hother, hgrant⟩ := startOp_active hop
      have hnone : s.mActiveLocality ≠ some call.locality := by
        intro he
        obtain rfl := Option.some.inj (hactive.symm.trans he)
        rw [hclosed] at hopen
        cases hopen
      by_cases hreq : call.op = .localityRequest
      · rcases hgrant hreq with he | he
        · rw [hactive] at he
          cases he
        · exact absurd he hnone
      · exact absurd (hother hreq) hnone
  · rw [(hi request response tpm he).1]
    exact platform.start_ne_manageLocality

/-- A locked service grants no locality that is open. -/
theorem not_obtainable_of_locked (hlocked : Locked s) {locality : Locality}
    (hopen : s.mLocalityStates locality = .opened) : ¬ Obtainable platform s locality := by
  rintro ⟨is, hgrant, hfinal⟩
  obtain ⟨active, hactive, hclosed⟩ := hlocked
  have hkept := @Machine.final_of_steps _ _ _ (serviceMachine platform)
    (fun s' => s'.mActiveLocality = some active ∧ s'.mLocalityStates = s.mLocalityStates)
    (Granting platform) s ⟨hactive, rfl⟩ (fun s' i hi hs' => by
      obtain ⟨hactive', hstates⟩ := granting_locked hs'.1 (hs'.2 ▸ hclosed) hi
      exact ⟨hactive', hstates.trans hs'.2⟩) is hgrant
  obtain rfl := Option.some.inj (hkept.1.symm.trans hfinal)
  rw [hclosed] at hopen
  cases hopen

end Steps

/-! ### Requesting and relinquishing -/

/-- A message names its locality. -/
theorem requestLocality_startMessage (platform : TpmPlatform) (qualifier : BitVec 16)
    (locality : Locality) :
    requestLocality (startMessage platform qualifier locality) = some locality := by
  have hlt : locality.val < 5 := locality.isLt
  have hval : ((startMessage platform qualifier locality).arg2.setWidth 8).toNat =
      locality.val := by
    show ((BitVec.ofNat 64 locality.val).setWidth 8).toNat = locality.val
    rw [BitVec.toNat_setWidth, BitVec.toNat_ofNat]
    omega
  unfold requestLocality
  rw [dif_pos (show _ < numLocalities by rw [hval]; exact hlt)]
  exact congrArg some (Fin.ext hval)

/-- It names its function. -/
theorem requestFunction_startMessage (platform : TpmPlatform) (qualifier : BitVec 16)
    (locality : Locality) :
    requestFunction (startMessage platform qualifier locality) = qualifier := by
  show (qualifier.setWidth 64).setWidth 16 = qualifier
  simp

section Grant

variable {platform : TpmPlatform} {s : TpmService}

/-- A client's write is a step towards any locality. -/
theorem granting_clientWrite (crb : Locality → PtpCrbRegisters) :
    Granting platform s (.clientWrite crb) :=
  fun _ _ _ he => by cases he

/-- **A locality operation the TPM agrees to** is a step towards any locality, with its
effect on the active one. -/
theorem granting_localityOp {locality : Locality} {op : SstOp} {tpm : ExternalTpm}
    (hopen : s.mLocalityStates locality = .opened) (hop : localityOp s locality = some op)
    (hst : ((sstRun s.mIsCrbInterface op locality (s.crb locality)).run tpm []).1.1 =
      EfiStatus.success) (i : ServiceInput)
    (hi : i = .request (startMessage platform platform.startFuncQualifierLocality locality)
      .zero tpm) :
    Granting platform s i ∧
      ((serviceMachine platform).step s i).1.mActiveLocality =
        nextActive s.mActiveLocality op locality EfiStatus.success ∧
      ((serviceMachine platform).step s i).1.mLocalityStates = s.mLocalityStates := by
  subst hi
  have hstart : startOp platform s
      (startMessage platform platform.startFuncQualifierLocality locality) =
        some (op, locality) := by
    unfold startOp
    rw [requestLocality_startMessage, requestFunction_startMessage]
    dsimp only
    rw [if_neg (by rw [hopen]; simp), if_neg (Ne.symm platform.qualifiers_ne), if_pos rfl, hop]
    rfl
  have hcall := @step_start platform s _ .zero tpm _ _ rfl hstart
  rw [hst] at hcall
  refine ⟨?_, ?_, ?_⟩
  · intro request response tpm' he
    cases he
    refine ⟨rfl, ⟨locality, requestLocality_startMessage .., hopen⟩, fun call hc => ?_⟩
    rw [hcall] at hc
    rw [← Option.some.inj hc]
  · obtain ⟨_, _, _, -, -, -, -, hnext, -⟩ := step_call_some hcall
    exact hnext
  · refine step_mLocalityStates fun request response tpm' he => ?_
    cases he
    exact platform.start_ne_manageLocality

/-- What is obtainable after a step is so before it. -/
theorem Obtainable.step {locality : Locality} {i : ServiceInput} (hi : Granting platform s i)
    (h : Obtainable platform ((serviceMachine platform).step s i).1 locality) :
    Obtainable platform s locality := by
  obtain ⟨is, hgrant, hfinal⟩ := h
  refine ⟨i :: is, fun e he => ?_, hfinal⟩
  rcases List.mem_cons.1 he with rfl | he
  · exact hi
  · exact hgrant e he

/-- An active locality is obtained. -/
theorem obtainable_of_active {locality : Locality} (h : s.mActiveLocality = some locality) :
    Obtainable platform s locality :=
  ⟨[], fun _ he => absurd he List.not_mem_nil, h⟩

/-- A TPM whose registers read as `0xA1` grants localities, CRB or FIFO device. -/
theorem tpmSstLocalityRequest_granted (mIsCrbInterface : Bool) (locality : Locality) :
    Traced.Returns (fun tpm => tpm = .const 0xA1)
      (tpmSstLocalityRequest mIsCrbInterface locality)
      fun status => status = EfiStatus.success := by
  unfold tpmSstLocalityRequest
  split_ifs
  · exact Traced.Returns.skip fun _ =>
      const_waitRegisterBits _ (by decide) (by decide) (by decide) _ _ _
  · exact Traced.Returns.skip fun _ =>
      const_waitRegisterBits _ (by decide) (by decide) (by decide) _ _ _

/-- One whose registers read as `0x80` takes them back. -/
theorem tpmSstLocalityRelinquish_granted (mIsCrbInterface : Bool) (locality : Locality) :
    Traced.Returns (fun tpm => tpm = .const 0x80)
      (tpmSstLocalityRelinquish mIsCrbInterface locality)
      fun status => status = EfiStatus.success := by
  unfold tpmSstLocalityRelinquish
  split_ifs
  · exact Traced.Returns.skip fun _ =>
      const_waitRegisterBits _ (by decide) (by decide) (by decide) _ _ _
  · exact Traced.Returns.skip fun _ =>
      const_waitRegisterBits _ (by decide) (by decide) (by decide) _ _ _

/-- The service after clients wrote this `LocalityControl` to every page. -/
def TpmService.withControl (s : TpmService) (localityControl : BitVec 32) : TpmService :=
  { s with crb := fun _ => { PtpCrbRegisters.zero with localityControl := localityControl } }

/-- Clients may write their pages first. -/
theorem Obtainable.withControl {locality : Locality} (localityControl : BitVec 32)
    (h : Obtainable platform (s.withControl localityControl) locality) :
    Obtainable platform s locality :=
  Obtainable.step (granting_clientWrite _) h

/-- While no locality is active, an open one is a request away. -/
theorem obtainable_of_none {locality : Locality} (hnone : s.mActiveLocality = none)
    (hopen : s.mLocalityStates locality = .opened) : Obtainable platform s locality := by
  refine Obtainable.withControl localityControlRequestAccess ?_
  have hop : localityOp (s.withControl localityControlRequestAccess) locality =
      some .localityRequest := by
    unfold localityOp TpmService.withControl
    dsimp only
    rw [if_neg (by decide), if_pos (by decide), if_neg fun h => h.1 hnone]
  obtain ⟨hgrant, hactive, -⟩ := @granting_localityOp platform
    (s.withControl localityControlRequestAccess) locality _ (.const 0xA1) hopen hop
    (tpmSstLocalityRequest_granted _ _ _ rfl []) _ rfl
  exact Obtainable.step hgrant (obtainable_of_active hactive)

/-- **An open locality is obtainable unless the active one is closed.** -/
theorem obtainable_iff {locality : Locality} (hopen : s.mLocalityStates locality = .opened) :
    Obtainable platform s locality ↔ ¬ Locked s := by
  refine ⟨fun h hlocked => not_obtainable_of_locked hlocked hopen h, fun h => ?_⟩
  cases hactive : s.mActiveLocality with
  | none => exact obtainable_of_none hactive hopen
  | some active =>
    have hactive_open : s.mLocalityStates active = .opened := by
      cases hst : s.mLocalityStates active with
      | opened => rfl
      | closed => exact absurd ⟨active, hactive, hst⟩ h
    -- the active locality is given up first
    refine Obtainable.withControl localityControlRelinquish ?_
    have hop : localityOp (s.withControl localityControlRelinquish) active =
        some .localityRelinquish := by
      unfold localityOp TpmService.withControl
      dsimp only
      rw [if_pos (by decide), if_neg (not_not.2 hactive.symm)]
    obtain ⟨hgrant, hnext, hstates⟩ := @granting_localityOp platform
      (s.withControl localityControlRelinquish) active _ (.const 0x80) hactive_open hop
      (tpmSstLocalityRelinquish_granted _ _ _ rfl []) _ rfl
    refine Obtainable.step hgrant (obtainable_of_none hnext ?_)
    rw [hstates]
    exact hopen

end Grant

/-! ### Along a run -/

/-- The active locality is closed, and another one is open. -/
def LockedOut (s : TpmService) : Prop := Locked s ∧ ∃ locality, s.mLocalityStates locality = .opened

/-- All are obtainable where none is locked out. -/
theorem allObtainable_iff {platform : TpmPlatform} {s : TpmService} :
    AllObtainable platform s ↔ ¬ LockedOut s := by
  constructor
  · rintro h ⟨hlocked, locality, hopen⟩
    exact (obtainable_iff hopen).1 (h locality hopen) hlocked
  · intro h locality hopen
    exact (obtainable_iff hopen).2 fun hlocked => h ⟨hlocked, locality, hopen⟩

/-- **The step locks localities out**: a `MANAGE_LOCALITY` from the secure world that closes
the active locality while another is open, or opens one while the active locality is another
and closed. -/
def LocksOut (platform : TpmPlatform) (s : TpmService) (i : ServiceInput) : Prop :=
  ∃ request response tpm locality, i = .request request response tpm ∧
    request.arg0 = platform.manageLocality ∧ request.sourceId &&& 0xFF00 = 0xFF00 ∧
    requestLocality request = some locality ∧
    ((requestFunction request = platform.manageLocalityClose ∧
        s.mActiveLocality = some locality ∧
        ∃ other, other ≠ locality ∧ s.mLocalityStates other = .opened) ∨
      (requestFunction request = platform.manageLocalityOpen ∧
        ∃ active, active ≠ locality ∧ s.mActiveLocality = some active ∧
          s.mLocalityStates active = .closed))

section LockOut

variable {platform : TpmPlatform} {s : TpmService}

/-- Closing a locality locks others out when it is the active one. -/
theorem lockedOut_close (hno : ¬ LockedOut s) (locality : Locality) :
    LockedOut { s with mLocalityStates := Function.update s.mLocalityStates locality .closed } ↔
      s.mActiveLocality = some locality ∧
        ∃ other, other ≠ locality ∧ s.mLocalityStates other = .opened := by
  constructor
  · rintro ⟨⟨active, hactive, hclosed⟩, other, hopen⟩
    dsimp only at hactive hclosed hopen
    have hother : other ≠ locality := by
      rintro rfl
      rw [Function.update_self] at hopen
      cases hopen
    rw [Function.update_of_ne hother] at hopen
    refine ⟨?_, other, hother, hopen⟩
    by_contra hne
    have ha : active ≠ locality := by
      rintro rfl
      exact hne hactive
    rw [Function.update_of_ne ha] at hclosed
    exact hno ⟨⟨active, hactive, hclosed⟩, other, hopen⟩
  · rintro ⟨hactive, other, hother, hopen⟩
    refine ⟨⟨locality, hactive, Function.update_self ..⟩, other, ?_⟩
    dsimp only
    rw [Function.update_of_ne hother]
    exact hopen

/-- Opening one locks it out when the active one is another and closed. -/
theorem lockedOut_open (locality : Locality) :
    LockedOut { s with mLocalityStates := Function.update s.mLocalityStates locality .opened } ↔
      ∃ active, active ≠ locality ∧ s.mActiveLocality = some active ∧
        s.mLocalityStates active = .closed := by
  constructor
  · rintro ⟨⟨active, hactive, hclosed⟩, -⟩
    dsimp only at hactive hclosed
    have ha : active ≠ locality := by
      rintro rfl
      rw [Function.update_self] at hclosed
      cases hclosed
    rw [Function.update_of_ne ha] at hclosed
    exact ⟨active, ha, hactive, hclosed⟩
  · rintro ⟨active, ha, hactive, hclosed⟩
    refine ⟨⟨active, hactive, ?_⟩, locality, Function.update_self ..⟩
    dsimp only
    rw [Function.update_of_ne ha]
    exact hclosed

/-- A `MANAGE_LOCALITY` locks localities out exactly as `LocksOut` says. -/
theorem manageLocalityHandler_lockedOut (hno : ¬ LockedOut s) (request : DirectMsgArgsEx) :
    LockedOut (manageLocalityHandler platform s request).2 ↔
      request.sourceId &&& 0xFF00 = 0xFF00 ∧ ∃ locality,
        requestLocality request = some locality ∧
        ((requestFunction request = platform.manageLocalityClose ∧
            s.mActiveLocality = some locality ∧
            ∃ other, other ≠ locality ∧ s.mLocalityStates other = .opened) ∨
          (requestFunction request = platform.manageLocalityOpen ∧
            ∃ active, active ≠ locality ∧ s.mActiveLocality = some active ∧
              s.mLocalityStates active = .closed)) := by
  unfold manageLocalityHandler
  by_cases hsource : request.sourceId &&& 0xFF00 = 0xFF00
  · rw [if_neg (not_not.2 hsource)]
    cases requestLocality request with
    | none =>
      refine iff_of_false hno ?_
      rintro ⟨-, _, he, -⟩
      cases he
    | some locality =>
      dsimp only
      have hne := platform.operations_ne
      by_cases hopen : requestFunction request = platform.manageLocalityOpen
      · rw [if_pos hopen, lockedOut_open]
        constructor
        · intro h
          exact ⟨hsource, locality, rfl, .inr ⟨hopen, h⟩⟩
        · rintro ⟨-, _, he, ⟨hclose, -⟩ | ⟨-, h⟩⟩
          · exact absurd (hopen.symm.trans hclose) hne
          · obtain rfl := Option.some.inj he
            exact h
      · rw [if_neg hopen]
        by_cases hclose : requestFunction request = platform.manageLocalityClose
        · rw [if_pos hclose, lockedOut_close hno]
          constructor
          · intro h
            exact ⟨hsource, locality, rfl, .inl ⟨hclose, h⟩⟩
          · rintro ⟨-, _, he, ⟨-, h⟩ | ⟨hopen', -⟩⟩
            · obtain rfl := Option.some.inj he
              exact h
            · exact absurd hopen' hopen
        · rw [if_neg hclose]
          refine iff_of_false hno ?_
          rintro ⟨-, _, -, ⟨hclose', -⟩ | ⟨hopen', -⟩⟩
          · exact hclose hclose'
          · exact hopen hopen'
  · rw [if_pos hsource]
    exact iff_of_false hno fun h => hsource h.1

/-- **One step locks localities out exactly as `LocksOut` says.** -/
theorem step_lockedOut_iff (hno : ¬ LockedOut s) (i : ServiceInput) :
    ¬ LockedOut ((serviceMachine platform).step s i).1 ↔ ¬ LocksOut platform s i := by
  rw [not_iff_not]
  by_cases hmanage : ∃ request response tpm, i = .request request response tpm ∧
      request.arg0 = platform.manageLocality
  · obtain ⟨request, response, tpm, rfl, harg⟩ := hmanage
    have hresult := tpmServiceHandle_result platform s request response tpm
    rw [serviceMachine_request]
    generalize tpmServiceHandle platform s request response tpm = result at hresult ⊢
    cases hresult with
    | other _ _ _ hne => exact absurd harg hne
    | start _ _ harg' _ =>
      exact absurd (harg'.symm.trans harg) platform.start_ne_manageLocality
    | manageLocality _ =>
      rw [manageLocalityHandler_lockedOut hno request]
      constructor
      · rintro ⟨hsource, locality, hl, hcases⟩
        exact ⟨request, response, tpm, locality, rfl, harg, hsource, hl, hcases⟩
      · rintro ⟨_, _, _, locality, he, -, hsource, hl, hcases⟩
        cases he
        exact ⟨hsource, locality, hl, hcases⟩
  · -- no other step changes the localities' states or makes a closed locality active
    have hstates : ((serviceMachine platform).step s i).1.mLocalityStates =
        s.mLocalityStates := step_mLocalityStates fun request response tpm hi harg =>
      hmanage ⟨request, response, tpm, hi, harg⟩
    refine iff_of_false ?_ ?_
    · rintro ⟨⟨active, hactive, hclosed⟩, other, hopen⟩
      rw [hstates] at hclosed hopen
      rcases step_active hactive with hbefore | hopened
      · exact hno ⟨⟨active, hbefore, hclosed⟩, other, hopen⟩
      · rw [hclosed] at hopened
        cases hopened
    · rintro ⟨request, response, tpm, _, hi, harg, -⟩
      exact hmanage ⟨request, response, tpm, hi, harg⟩

end LockOut

/-- **Open localities are obtainable along a run exactly when no request of it locks one
out.** -/
theorem obtainable_run_iff (platform : TpmPlatform) (interfaceId : BitVec 32)
    (is : List ServiceInput) :
    (∀ k, AllObtainable platform
        ((serviceMachine platform).final (tpmServiceInit platform interfaceId) (is.take k))) ↔
      ∀ e ∈ (serviceMachine platform).history (tpmServiceInit platform interfaceId) is,
        ¬ LocksOut platform e.pre e.input := by
  have hstart : ¬ LockedOut (tpmServiceInit platform interfaceId) := by
    rintro ⟨⟨_, hactive, -⟩, -⟩
    cases hactive
  simp only [allObtainable_iff]
  exact @Machine.final_take_iff _ _ _ (serviceMachine platform) (fun s => ¬ LockedOut s)
    (fun s i => ¬ LocksOut platform s i) _ hstart
    (fun is i hno => step_lockedOut_iff hno i) is

/-- Open the localities `0` and `1`, make `0` active, and close it. -/
def closeActiveRun : List ServiceInput :=
  [.request (manageMessage .standard 0 0) .zero (.const 0),
    .request (manageMessage .standard 0 1) .zero (.const 0),
    clientPages 1 0 0, .request (startMessage .standard 1 0) .zero (.const 1),
    .request (manageMessage .standard 1 0) .zero (.const 0)]

/-- **Locality `1` is open and nobody can obtain it.** -/
theorem obtainable_close_active :
    ∃ s, Reachable .standard 1 s ∧ s.mLocalityStates 1 = .opened ∧
      s.mActiveLocality = some 0 ∧ ¬ Obtainable .standard s 1 := by
  have hactive : ((serviceMachine .standard).final (tpmServiceInit .standard 1)
      closeActiveRun).mActiveLocality = some 0 := by decide +kernel
  have hclosed : ((serviceMachine .standard).final (tpmServiceInit .standard 1)
      closeActiveRun).mLocalityStates 0 = .closed := by decide +kernel
  have hopen : ((serviceMachine .standard).final (tpmServiceInit .standard 1)
      closeActiveRun).mLocalityStates 1 = .opened := by decide +kernel
  exact ⟨_, ⟨closeActiveRun, rfl⟩, hopen, hactive,
    not_obtainable_of_locked ⟨0, hactive, hclosed⟩ hopen⟩

end Tpm
end FfaFeature
