/-
# The registers of the active locality's page

The service document says that all CRB state information of the active locality is
cleaned after every invocation of the Start ABI.  `CleanInternalCrb` assigns every
register but two: it sets bits in `LocalityState` and `LocalityStatus`, and what a
client wrote into the other bits of them stays.

`cleanRegisters` are the registers a page should have, a function of the locality
and the state.  A `START` leaves them exactly when it initialised the page or the
two registers held no other bits before (`startHandler_clean_iff`).
-/

import FfaFeature.Tpm.Step

namespace FfaFeature
namespace Tpm

/-- The registers of the active locality's page in a known good state: those of a
page of zeros cleaned. -/
def cleanRegisters (platform : TpmPlatform) (locality : Locality) (state : TpmState) :
    PtpCrbRegisters :=
  (cleanPage platform locality state .zero).registers

/-- The bits of `LocalityState` that name the one active locality. -/
def localityStateClean (locality : Locality) : BitVec 32 :=
  localityStateActiveLocality locality ||| localityStateTpmRegValidStatus |||
    localityStateLocalityAssigned

/-- **What the clean registers say.**  `LocalityState` names the locality, and
`CrbControlStatus` shows `tpmIdle` exactly when the state is idle. -/
theorem cleanRegisters_says (platform : TpmPlatform) (locality : Locality) (state : TpmState) :
    (cleanRegisters platform locality state).localityState = localityStateClean locality ∧
      ((cleanRegisters platform locality state).crbControlStatus &&& statusTpmIdle ≠ 0 ↔
        state = .idle) := by
  refine ⟨?_, ?_⟩
  · simp [cleanRegisters, cleanPage, setBuffers, PtpCrbRegisters.registers,
      PtpCrbRegisters.zero, localityStateClean]
  · simp only [cleanRegisters, cleanPage, setBuffers, PtpCrbRegisters.registers]
    cases state <;> decide

/-- The registers whose old bits a clean-up keeps hold none but those it sets. -/
def NoStrayBits (locality : Locality) (page : PtpCrbRegisters) : Prop :=
  page.localityState ||| localityStateClean locality = localityStateClean locality ∧
    page.localityStatus ||| localityStatusGranted = localityStatusGranted

/-- **A clean-up in place is complete exactly when no stray bits were there.** -/
theorem cleanPage_registers_iff (platform : TpmPlatform) (locality : Locality)
    (state : TpmState) (page : PtpCrbRegisters) :
    (cleanPage platform locality state page).registers = cleanRegisters platform locality state ↔
      NoStrayBits locality page := by
  have hassoc : ∀ x : BitVec 32,
      x ||| localityStateActiveLocality locality ||| localityStateTpmRegValidStatus |||
        localityStateLocalityAssigned = x ||| localityStateClean locality := by
    intro x
    simp only [localityStateClean, BitVec.or_assoc]
  have hzero : ∀ x : BitVec 32, 0 ||| x = x := fun _ => BitVec.zero_or
  simp only [cleanRegisters, cleanPage, setBuffers, PtpCrbRegisters.registers,
    PtpCrbRegisters.zero, PtpCrbRegisters.mk.injEq, hassoc, hzero, NoStrayBits, and_true, true_and]
  exact Iff.rfl

/-- A page just initialised has no stray bits. -/
theorem noStrayBits_init (platform : TpmPlatform) (locality : Locality) :
    NoStrayBits locality (initInternalCrb platform locality) := by
  simp [NoStrayBits, initInternalCrb, setBuffers, PtpCrbRegisters.zero]

/-- Stray bits are a matter of the registers. -/
theorem noStrayBits_of_registers {locality : Locality} {page page' : PtpCrbRegisters}
    (h : page.registers = page'.registers) :
    NoStrayBits locality page ↔ NoStrayBits locality page' := by
  have hstate : page.localityState = page'.localityState :=
    congrArg (fun p => p.localityState) h
  have hstatus : page.localityStatus = page'.localityStatus :=
    congrArg (fun p => p.localityStatus) h
  rw [NoStrayBits, NoStrayBits, hstate, hstatus]

/-- The request makes the TPM grant the locality. -/
def Grants (platform : TpmPlatform) (s : TpmService) (request : DirectMsgArgsEx)
    (tpm : ExternalTpm) (h : List Event) (locality : Locality) : Prop :=
  startOp platform s request = some (.localityRequest, locality) ∧
    ((tpmSstLocalityRequest s.mIsCrbInterface locality).run tpm h).1 = EfiStatus.success

/-- The service when `StartHandler` returns. -/
def afterStart (platform : TpmPlatform) (s : TpmService) (request : DirectMsgArgsEx)
    (tpm : ExternalTpm) (h : List Event) : TpmService :=
  ((startHandler platform s request).run tpm h).1.service

/-- The page of a locality is in a known good state: its registers are determined by
the locality and the state, name the locality, and show `tpmIdle` when idle. -/
structure PageClean (platform : TpmPlatform) (s : TpmService) (locality : Locality) : Prop where
  determined : (s.crb locality).registers = cleanRegisters platform locality s.mCurrentState
  names : (s.crb locality).localityState = localityStateClean locality
  idle : (s.crb locality).crbControlStatus &&& statusTpmIdle ≠ 0 ↔ s.mCurrentState = .idle

/-- A page is clean when its registers are. -/
theorem pageClean_iff {platform : TpmPlatform} {s : TpmService} {locality : Locality} :
    PageClean platform s locality ↔
      (s.crb locality).registers = cleanRegisters platform locality s.mCurrentState := by
  refine ⟨PageClean.determined, fun h => ?_⟩
  obtain ⟨hnames, hidle⟩ := cleanRegisters_says platform locality s.mCurrentState
  have hstate := congrArg (fun p => p.localityState) h
  have hstatus := congrArg (fun p => p.crbControlStatus) h
  exact ⟨h, hstate.trans hnames, by rw [← hidle, ← hstatus]; rfl⟩

/-- The page of the active locality is cleaned in place, from what a client left in
it, or from the page the request initialised. -/
theorem afterStart_clean_iff {platform : TpmPlatform} {s : TpmService}
    {request : DirectMsgArgsEx} {tpm : ExternalTpm} {h : List Event} {locality : Locality}
    (hactive : (afterStart platform s request tpm h).mActiveLocality = some locality) :
    PageClean platform (afterStart platform s request tpm h) locality ↔
      Grants platform s request tpm h locality ∨ NoStrayBits locality (s.crb locality) := by
  have hresult := startDispatch_result platform s tpm h request
  rw [pageClean_iff]
  unfold afterStart at hactive ⊢
  rw [startHandler_run] at hactive ⊢
  generalize (startDispatch platform s request).run tpm h = result at hresult hactive ⊢
  simp only [cleanInternalCrb_mActiveLocality, cleanInternalCrb_mCurrentState] at hactive ⊢
  rw [cleanInternalCrb_some platform hactive, cleanPage_registers_iff]
  cases hresult with
  | refused status hop =>
    have hno : ¬ Grants platform s request tpm h locality := fun hg => by
      rw [hg.1] at hop
      cases hop
    simp [hno]
  | called op l hop =>
    rw [applyOp_mActiveLocality] at hactive
    obtain ⟨rfl, hrelinquish⟩ := nextActive_some hop hactive
    by_cases hgrant : op = .localityRequest ∧
        ((sstRun s.mIsCrbInterface op l (s.crb l)).run tpm h).1.1 = EfiStatus.success
    · obtain ⟨rfl, hst⟩ := hgrant
      rw [hst, applyOp_crb_init platform s _ l _ (.inl rfl)]
      exact iff_of_true (noStrayBits_init platform l) (.inl ⟨hop, hst⟩)
    · have hno : ¬ Grants platform s request tpm h l := fun hg => by
        obtain ⟨rfl, -⟩ := Prod.mk.inj (Option.some.inj (hop.symm.trans hg.1))
        exact hgrant ⟨rfl, hg.2⟩
      rw [or_iff_right hno]
      refine noStrayBits_of_registers (applyOp_registers platform s op l _ _
        (sstRun_registers ..) fun hst => ⟨fun he => hgrant ⟨he, hst⟩, fun he => hrelinquish he hst⟩)

/-- **The registers are clean exactly when the page was initialised by this request
or held no stray bits before it**, for the locality active when `StartHandler`
returns; and two such requests that end with the same locality and state end with
the same registers, whatever clients wrote before. -/
theorem startHandler_registers (platform : TpmPlatform) (locality : Locality) :
    (∀ s request tpm h,
      (afterStart platform s request tpm h).mActiveLocality = some locality →
        (PageClean platform (afterStart platform s request tpm h) locality ↔
          Grants platform s request tpm h locality ∨ NoStrayBits locality (s.crb locality))) ∧
    ∀ s request tpm h s' request' tpm' h',
      (afterStart platform s request tpm h).mActiveLocality = some locality →
      (afterStart platform s' request' tpm' h').mActiveLocality = some locality →
      (afterStart platform s request tpm h).mCurrentState =
        (afterStart platform s' request' tpm' h').mCurrentState →
      Grants platform s request tpm h locality ∨ NoStrayBits locality (s.crb locality) →
      Grants platform s' request' tpm' h' locality ∨ NoStrayBits locality (s'.crb locality) →
        ((afterStart platform s request tpm h).crb locality).registers =
          ((afterStart platform s' request' tpm' h').crb locality).registers := by
  refine ⟨fun s request tpm h => afterStart_clean_iff, ?_⟩
  intro s request tpm h s' request' tpm' h' hactive hactive' hstate hclean hclean'
  have h₁ := (afterStart_clean_iff hactive).2 hclean
  have h₂ := (afterStart_clean_iff hactive').2 hclean'
  rw [h₁.determined, h₂.determined, hstate]

/-- Locality `0` is opened, and a client asks for it. -/
def requestRun : List ServiceInput :=
  [.request (manageMessage .standard 0 0) .zero (.const 0),
    .clientWrite fun _ => { PtpCrbRegisters.zero with localityControl := 1 }]

/-- The request that follows, granted by the TPM, leaves a clean page. -/
theorem startHandler_registers_granted :
    PageClean .standard
      (afterStart .standard
        ((serviceMachine .standard).final (tpmServiceInit .standard 1) requestRun)
        (startMessage .standard 1 0) (.const 1) []) 0 :=
  ((startHandler_registers .standard 0).1 _ _ _ _ (by decide +kernel)).2
    (.inl ⟨by decide +kernel, by decide +kernel⟩)

/-- Once it is granted, a client sets every bit of its `LocalityState`. -/
def strayBitsRun : List ServiceInput :=
  requestRun ++ [.request (startMessage .standard 1 0) .zero (.const 1),
    .clientWrite fun _ => { PtpCrbRegisters.zero with localityState := 0xFFFFFFFF }]

/-- **The bits a client wrote stay**, in the page of the active locality of a
reachable state, after a `START` at it. -/
theorem startHandler_stray_bits :
    ∃ s, Reachable .standard 1 s ∧
      (afterStart .standard s (startMessage .standard 0 0) (.const 0) []).mActiveLocality =
        some 0 ∧
      ((afterStart .standard s (startMessage .standard 0 0) (.const 0) []).crb 0).localityState =
        0xFFFFFFFF ∧
      ¬ PageClean .standard
        (afterStart .standard s (startMessage .standard 0 0) (.const 0) []) 0 := by
  refine ⟨_, ⟨strayBitsRun, rfl⟩, by decide +kernel, by decide +kernel, fun hclean => ?_⟩
  have hnames := hclean.names
  revert hnames
  decide +kernel

end Tpm
end FfaFeature
