/-
# The accesses to the buffers of a command

`TpmSstStart` reads the lengths of the command and of the response from the page and
copies that many bytes into and out of a local buffer of `sizeof (CrbDataBuffer)`
bytes.  `CleanInternalCrb` sets both lengths to that size after every request, but
the page is the client's in between, and nothing checks them again.

`Within n` says that an event stays below index `n`.  The copies stay below their
lengths (`emits_copyCommandData`, `emits_copyResponseData`), so all accesses are in
bounds where both lengths are; and a request that starts a command with a longer one
gets out of bounds for some TPM (`bufferAccess_iff`).
-/

import FfaFeature.Tpm.Step

namespace FfaFeature
namespace Tpm

/-- The index an event uses into a data buffer of the page, of the external TPM or of
the library. -/
def Event.bufferIndex : Event → Option ℕ
  | .mmioRead _ (.crbDataBuffer index) _ => some index
  | .mmioWrite _ (.crbDataBuffer index) _ => some index
  | .load _ index => some index
  | .store _ index => some index
  | _ => none

/-- The event accesses no buffer at index `n` or above. -/
def Within (n : ℕ) (e : Event) : Prop := ∀ index, e.bufferIndex = some index → index < n

/-- An event that is not about a buffer. -/
theorem within_of_none {n : ℕ} {e : Event} (h : e.bufferIndex = none) : Within n e :=
  fun index hi => by
    rw [h] at hi
    cases hi

/-- An access below the bound. -/
theorem within_of_some {n index : ℕ} {e : Event} (h : e.bufferIndex = some index)
    (hlt : index < n) : Within n e :=
  fun index' hi => by
    rw [h] at hi
    rwa [← Option.some.inj hi]

/-- A register that is no data buffer. -/
def ExternalRegister.plain : ExternalRegister → Bool
  | .crbDataBuffer _ => false
  | _ => true

/-- A read of a register that is no data buffer. -/
theorem within_mmioRead {register : ExternalRegister} (h : register.plain) (n : ℕ)
    (locality : Locality) (value : BitVec 32) : Within n (.mmioRead locality register value) := by
  rcases register with _ | _ | _ | _ | _ | index | _ | _ | _ | _ | _ <;>
    first
    | exact within_of_none rfl
    | cases h

/-- A write to one. -/
theorem within_mmioWrite {register : ExternalRegister} (h : register.plain) (n : ℕ)
    (locality : Locality) (value : BitVec 32) :
    Within n (.mmioWrite locality register value) := by
  rcases register with _ | _ | _ | _ | _ | index | _ | _ | _ | _ | _ <;>
    first
    | exact within_of_none rfl
    | cases h

variable {R : ExternalTpm → Prop} {n : ℕ}

/-! ### Waiting accesses no buffer -/

/-- A poll emits what its turns do, and yields. -/
theorem emits_pollLoop {α : Type} [Inhabited α] {P : Event → Prop}
    (hyield : ∀ status, P (.yield status)) {poll : TpmIo α} (done : α → Bool)
    (timeout : BitVec 32) (hpoll : Traced.Emits R poll P) (fuel : ℕ) (delayAmount : BitVec 32) :
    Traced.Emits R (pollLoop poll done timeout fuel delayAmount) P := by
  induction fuel generalizing delayAmount with
  | zero => exact Traced.Emits.pure _
  | succ fuel ih =>
    refine Traced.Emits.bind hpoll fun value => ?_
    split_ifs
    · exact Traced.Emits.pure _
    · exact Traced.Emits.pure _
    · refine Traced.Emits.bind (Traced.Emits.query hyield) fun status => ?_
      split_ifs
      · exact Traced.Emits.pure _
      · exact ih _

/-- A byte read. -/
theorem emits_mmioRead8 {register : ExternalRegister} (h : register.plain)
    (locality : Locality) : Traced.Emits R (mmioRead8 locality register) (Within n) :=
  Traced.Emits.query fun _ => within_mmioRead h n locality _

/-- `FifoReadBurstCount`. -/
theorem emits_fifoReadBurstCount (locality : Locality) :
    Traced.Emits R (fifoReadBurstCount locality) (Within n) := by
  refine emits_pollLoop (fun _ => within_of_none rfl) _ _ ?_ _ _
  refine Traced.Emits.bind (emits_mmioRead8 rfl locality) fun _ => ?_
  exact Traced.Emits.bind (emits_mmioRead8 rfl locality) fun _ => Traced.Emits.pure _

/-- `WaitRegisterBits`. -/
theorem emits_waitRegisterBits {register : ExternalRegister} (h : register.plain)
    (mIsCrbInterface : Bool) (locality : Locality) (bitSet bitClear timeout : BitVec 32) :
    Traced.Emits R (waitRegisterBits mIsCrbInterface locality register bitSet bitClear timeout)
      (Within n) := by
  refine Traced.Emits.bind (emits_pollLoop (fun _ => within_of_none rfl) _ _ ?_ _ _)
    fun _ => Traced.Emits.pure _
  unfold pollRegister
  split_ifs
  · exact Traced.Emits.query fun _ => within_mmioRead h n locality _
  · exact Traced.Emits.bind (emits_mmioRead8 h locality) fun _ => Traced.Emits.pure _

/-- A write. -/
theorem emits_mmioWrite {register : ExternalRegister} (h : register.plain) (locality : Locality)
    (value : BitVec 32) : Traced.Emits R (mmioWrite locality register value) (Within n) :=
  Traced.Emits.emit (within_mmioWrite h n locality value)

/-! ### Copying stays below the length -/

/-- `SetMem`. -/
theorem emits_setMem : Traced.Emits R (setMem n) (Within n) :=
  Traced.Emits.foldlM fun _ _ hi =>
    Traced.Emits.emit (within_of_some rfl (List.mem_range.1 hi))

/-- `CopyMem`. -/
theorem emits_copyMem (destination source : Buffer) :
    Traced.Emits R (copyMem destination source n) (Within n) :=
  Traced.Emits.foldlM fun _ _ hi => Traced.Emits.bind
    (Traced.Emits.emit (within_of_some rfl (List.mem_range.1 hi)))
    fun _ => Traced.Emits.emit (within_of_some rfl (List.mem_range.1 hi))

/-- A byte of the command. -/
theorem emits_sendByte {register : ExternalRegister} {index : ℕ} (hlt : index < n)
    (h : register.plain ∨ register = .crbDataBuffer index) (locality : Locality) (bytes : Bytes) :
    Traced.Emits R (sendByte locality register bytes index) (Within n) := by
  refine Traced.Emits.bind (Traced.Emits.emit (within_of_some rfl hlt)) fun _ => ?_
  rcases h with h | rfl
  · exact emits_mmioWrite h locality _
  · exact Traced.Emits.emit (within_of_some rfl hlt)

/-- A byte of the response. -/
theorem emits_receiveByte {register : ExternalRegister} {index : ℕ} (hlt : index < n)
    (h : register.plain ∨ register = .crbDataBuffer index) (locality : Locality) (bytes : Bytes) :
    Traced.Emits R (receiveByte locality register bytes index) (Within n) := by
  refine Traced.Emits.bind ?_ fun _ => Traced.Emits.bind
    (Traced.Emits.emit (within_of_some rfl hlt)) fun _ => Traced.Emits.pure _
  rcases h with h | rfl
  · exact emits_mmioRead8 h locality
  · exact Traced.Emits.query fun _ => within_of_some rfl hlt

/-- A burst of the command emits what its bytes do. -/
theorem emits_sendBurst {P : Event → Prop} {locality : Locality} {bytes : Bytes}
    (hbyte : ∀ index < n, Traced.Emits R (sendByte locality .fifoDataFifo bytes index) P)
    (burstCount index : ℕ) : Traced.Emits R (sendBurst locality bytes n burstCount index) P := by
  induction burstCount generalizing index with
  | zero => exact Traced.Emits.pure _
  | succ burstCount ih =>
    rw [sendBurst]
    split_ifs with hlt
    · exact Traced.Emits.bind (hbyte index hlt) fun _ => ih _
    · exact Traced.Emits.pure _

/-- So do its bursts, with their waits. -/
theorem emits_sendBursts {P : Event → Prop} {locality : Locality} {bytes : Bytes}
    (hwait : Traced.Emits R (fifoReadBurstCount locality) P)
    (hbyte : ∀ index < n, Traced.Emits R (sendByte locality .fifoDataFifo bytes index) P)
    (fuel index : ℕ) : Traced.Emits R (sendBursts locality bytes n fuel index) P := by
  induction fuel generalizing index with
  | zero => exact Traced.Emits.pure _
  | succ fuel ih =>
    rw [sendBursts]
    split_ifs
    · refine Traced.Emits.bind hwait fun result => ?_
      dsimp only
      split_ifs
      · exact Traced.Emits.pure _
      · exact Traced.Emits.bind (emits_sendBurst hbyte _ _) fun _ => ih _
    · exact Traced.Emits.pure _

/-- `CopyCommandData`. -/
theorem emits_copyCommandData (mIsCrbInterface : Bool) (locality : Locality) (bytes : Bytes) :
    Traced.Emits R (copyCommandData mIsCrbInterface locality bytes n) (Within n) := by
  unfold copyCommandData
  split_ifs
  · refine Traced.Emits.bind (Traced.Emits.foldlM fun _ index hi => ?_)
      fun _ => Traced.Emits.pure _
    exact emits_sendByte (List.mem_range.1 hi) (.inr rfl) locality bytes
  · refine Traced.Emits.bind (emits_sendBursts (emits_fifoReadBurstCount locality)
      (fun _ hlt => emits_sendByte hlt (.inl rfl) locality bytes) _ _) fun _ => ?_
    exact emits_waitRegisterBits rfl _ _ _ _ _

/-- `StartCommand`. -/
theorem emits_startCommand (mIsCrbInterface : Bool) (locality : Locality) :
    Traced.Emits R (startCommand mIsCrbInterface locality) (Within n) := by
  unfold startCommand
  split_ifs
  · exact Traced.Emits.bind (emits_mmioWrite rfl _ _) fun _ => emits_waitRegisterBits rfl _ _ _ _ _
  · exact Traced.Emits.bind (emits_mmioWrite rfl _ _) fun _ => emits_waitRegisterBits rfl _ _ _ _ _

/-- A burst of the response starts below its length and stops at it. -/
theorem emits_receiveBurst (locality : Locality) (burstCount index : ℕ) (bytes : Bytes)
    (hlt : index < n) :
    Traced.Emits R (receiveBurst locality n burstCount index bytes) (Within n) := by
  induction burstCount generalizing index bytes with
  | zero => exact Traced.Emits.pure _
  | succ burstCount ih =>
    refine Traced.Emits.bind (emits_receiveByte hlt (.inl rfl) locality bytes) fun bytes => ?_
    split_ifs with hlast
    · exact Traced.Emits.pure _
    · exact ih _ _ (by omega)

/-- The bursts of the response. -/
theorem emits_receiveBursts (locality : Locality) (fuel index : ℕ) (status : EfiStatus)
    (bytes : Bytes) :
    Traced.Emits R (receiveBursts locality n fuel index status bytes) (Within n) := by
  induction fuel generalizing index status bytes with
  | zero => exact Traced.Emits.pure _
  | succ fuel ih =>
    rw [receiveBursts]
    split_ifs with hlt
    · refine Traced.Emits.bind (emits_fifoReadBurstCount locality) fun result => ?_
      dsimp only
      split_ifs
      · exact Traced.Emits.pure _
      · exact Traced.Emits.bind (emits_receiveBurst _ _ _ _ hlt) fun _ => ih _ _ _
    · exact Traced.Emits.pure _

/-- `CopyResponseData`. -/
theorem emits_copyResponseData (mIsCrbInterface : Bool) (locality : Locality) (bytes : Bytes) :
    Traced.Emits R (copyResponseData mIsCrbInterface locality bytes n) (Within n) := by
  unfold copyResponseData
  split_ifs
  · refine Traced.Emits.bind (Traced.Emits.foldlM fun bytes index hi => ?_)
      fun _ => Traced.Emits.pure _
    exact emits_receiveByte (List.mem_range.1 hi) (.inr rfl) locality bytes
  · exact Traced.Emits.bind (Traced.Emits.ask _) fun _ => emits_receiveBursts _ _ _ _ _

/-- **The accesses of a start are in bounds where both lengths are.** -/
theorem emits_tpmSstStart (mIsCrbInterface : Bool) (locality : Locality)
    (page : PtpCrbRegisters) (hcommand : page.crbControlCommandSize.toNat ≤ crbDataBufferSize)
    (hresponse : page.crbControlResponseSize.toNat ≤ crbDataBufferSize) :
    Traced.Emits R (tpmSstStart mIsCrbInterface locality page) (Within crbDataBufferSize) := by
  have hmono : ∀ {m : ℕ}, m ≤ crbDataBufferSize → ∀ e, Within m e → Within crbDataBufferSize e :=
    fun hm e he index hi => lt_of_lt_of_le (he index hi) hm
  refine Traced.Emits.bind (Traced.Emits.ask _) fun _ => ?_
  refine Traced.Emits.bind emits_setMem fun _ => ?_
  refine Traced.Emits.bind ((emits_copyMem _ _).mono (hmono hcommand)) fun _ => ?_
  refine Traced.Emits.bind ((emits_copyCommandData _ _ _).mono (hmono hcommand)) fun _ => ?_
  split_ifs
  · exact Traced.Emits.pure _
  · refine Traced.Emits.bind (emits_startCommand _ _) fun _ => ?_
    split_ifs
    · exact Traced.Emits.pure _
    · refine Traced.Emits.bind ((emits_copyResponseData _ _ _).mono (hmono hresponse)) fun _ => ?_
      dsimp only
      split_ifs
      · exact Traced.Emits.pure _
      · exact Traced.Emits.bind ((emits_copyMem _ _).mono (hmono hresponse)) fun _ =>
          Traced.Emits.pure _

/-- The other operations access no buffer. -/
theorem emits_sstRun {op : SstOp} (hop : op ≠ .start) (mIsCrbInterface : Bool)
    (locality : Locality) (page : PtpCrbRegisters) :
    Traced.Emits R (sstRun mIsCrbInterface op locality page) (Within n) := by
  have hwrite : ∀ {register : ExternalRegister} (value : BitVec 32), register.plain →
      Traced.Emits R (mmioWrite locality register value) (Within n) :=
    fun value h => emits_mmioWrite h locality value
  have hwait : ∀ {register : ExternalRegister} (bitSet bitClear timeout : BitVec 32),
      register.plain → Traced.Emits R
        (waitRegisterBits mIsCrbInterface locality register bitSet bitClear timeout) (Within n) :=
    fun bitSet bitClear timeout h => emits_waitRegisterBits h _ _ _ _ _
  rcases op
  · refine Traced.Emits.bind ?_ fun _ => Traced.Emits.pure _
    unfold tpmSstGoIdle
    split_ifs
    · refine Traced.Emits.bind (hwrite _ rfl) fun _ => Traced.Emits.bind (hwait _ _ _ rfl)
        fun _ => ?_
      split_ifs
      · exact hwait _ _ _ rfl
      · exact Traced.Emits.pure _
    · exact Traced.Emits.bind (hwrite _ rfl) fun _ => hwait _ _ _ rfl
  · refine Traced.Emits.bind ?_ fun _ => Traced.Emits.pure _
    unfold tpmSstCmdReady
    split_ifs
    · refine Traced.Emits.bind (hwrite _ rfl) fun _ => Traced.Emits.bind (hwait _ _ _ rfl)
        fun _ => ?_
      split_ifs
      · exact hwait _ _ _ rfl
      · exact Traced.Emits.pure _
    · exact Traced.Emits.bind (hwrite _ rfl) fun _ => hwait _ _ _ rfl
  · exact absurd rfl hop
  · refine Traced.Emits.bind ?_ fun _ => Traced.Emits.pure _
    unfold tpmSstLocalityRequest
    split_ifs
    · exact Traced.Emits.bind (hwrite _ rfl) fun _ => hwait _ _ _ rfl
    · exact Traced.Emits.bind (hwrite _ rfl) fun _ => hwait _ _ _ rfl
  · refine Traced.Emits.bind ?_ fun _ => Traced.Emits.pure _
    unfold tpmSstLocalityRelinquish
    split_ifs
    · exact Traced.Emits.bind (hwrite _ rfl) fun _ => hwait _ _ _ rfl
    · exact Traced.Emits.bind (hwrite _ rfl) fun _ => hwait _ _ _ rfl

/-! ### Longer lengths get out of bounds -/

/-- What all registers of an obliging TPM read as: for a FIFO device, valid with data. -/
def obligingValue (mIsCrbInterface : Bool) : BitVec 32 :=
  if mIsCrbInterface then 0 else fifoStsValid ||| fifoStsData

/-- A TPM that is done with everything at once. -/
def Obliging (mIsCrbInterface : Bool) (tpm : ExternalTpm) : Prop :=
  tpm = .const (obligingValue mIsCrbInterface)

/-- A poll that is done at once ends the loop with success. -/
theorem returns_pollLoop {α : Type} [Inhabited α] {poll : TpmIo α} {done : α → Bool}
    (timeout : BitVec 32) (hpoll : Traced.Returns R poll fun value => done value = true)
    (fuel : ℕ) (delayAmount : BitVec 32) :
    Traced.Returns R (pollLoop poll done timeout (fuel + 1) delayAmount) fun result =>
      result.1 = EfiStatus.success := by
  refine Traced.Returns.bind hpoll fun value hdone => ?_
  rw [if_pos hdone]
  exact Traced.Returns.pure rfl

/-- Waiting for what a TPM's registers always read as, when they read as a byte. -/
theorem const_waitRegisterBits (mIsCrbInterface : Bool) {value bitSet bitClear : BitVec 32}
    (hbyte : (value.setWidth 8).setWidth 32 = value) (hset : value &&& bitSet = bitSet)
    (hclear : value &&& bitClear = 0) (locality : Locality) (register : ExternalRegister)
    (timeout : BitVec 32) :
    Traced.Returns (fun tpm => tpm = .const value)
      (waitRegisterBits mIsCrbInterface locality register bitSet bitClear timeout)
      fun status => status = EfiStatus.success := by
  refine Traced.Returns.bind (returns_pollLoop timeout ?_ _ _) fun _ hst =>
    Traced.Returns.pure hst
  have hpoll : Traced.Returns (fun tpm => tpm = .const value)
      (pollRegister mIsCrbInterface locality register) fun regRead => regRead = value := by
    rintro tpm rfl h
    cases mIsCrbInterface with
    | false => exact hbyte
    | true => rfl
  refine hpoll.mono fun regRead _ hread => ?_
  simp [hread, hset, hclear]

/-- Its waits succeed. -/
theorem obliging_waitRegisterBits {mIsCrbInterface : Bool} {bitSet bitClear : BitVec 32}
    (hset : obligingValue mIsCrbInterface &&& bitSet = bitSet)
    (hclear : obligingValue mIsCrbInterface &&& bitClear = 0) (locality : Locality)
    (register : ExternalRegister) (timeout : BitVec 32) :
    Traced.Returns (Obliging mIsCrbInterface)
      (waitRegisterBits mIsCrbInterface locality register bitSet bitClear timeout)
      fun status => status = EfiStatus.success :=
  const_waitRegisterBits mIsCrbInterface (by cases mIsCrbInterface <;> decide) hset hclear
    locality register timeout

/-- It announces bursts. -/
theorem obliging_fifoReadBurstCount (locality : Locality) :
    Traced.Returns (Obliging false) (fifoReadBurstCount locality)
      fun result => result.1 = EfiStatus.success := by
  refine returns_pollLoop _ ?_ _ _
  rintro tpm rfl h
  rfl

/-- It takes the command. -/
theorem obliging_copyCommandData (mIsCrbInterface : Bool) (locality : Locality) (bytes : Bytes)
    (commandDataLen : ℕ) :
    Traced.Returns (Obliging mIsCrbInterface)
      (copyCommandData mIsCrbInterface locality bytes commandDataLen)
      fun status => status = EfiStatus.success := by
  rcases mIsCrbInterface
  · exact Traced.Returns.skip fun _ => obliging_waitRegisterBits (by decide) (by decide) _ _ _
  · exact Traced.Returns.skip fun _ => Traced.Returns.pure rfl

/-- It executes it. -/
theorem obliging_startCommand (mIsCrbInterface : Bool) (locality : Locality) :
    Traced.Returns (Obliging mIsCrbInterface) (startCommand mIsCrbInterface locality)
      fun status => status = EfiStatus.success := by
  rcases mIsCrbInterface
  · exact Traced.Returns.skip fun _ => obliging_waitRegisterBits (by decide) (by decide) _ _ _
  · exact Traced.Returns.skip fun _ => obliging_waitRegisterBits (by decide) (by decide) _ _ _

/-- It gives the bursts of the response. -/
theorem obliging_receiveBursts (locality : Locality) (responseDataLen fuel index : ℕ)
    (bytes : Bytes) :
    Traced.Returns (Obliging false)
      (receiveBursts locality responseDataLen fuel index EfiStatus.success bytes)
      fun result => result.1 = EfiStatus.success := by
  induction fuel generalizing index bytes with
  | zero => exact Traced.Returns.pure rfl
  | succ fuel ih =>
    rw [receiveBursts]
    split_ifs
    · refine Traced.Returns.bind (obliging_fifoReadBurstCount locality) fun result hst => ?_
      obtain ⟨status, burstCount⟩ := result
      dsimp only at hst ⊢
      subst hst
      exact Traced.Returns.skip fun _ => ih _ _
    · exact Traced.Returns.pure rfl

/-- So it gives the response. -/
theorem obliging_copyResponseData (mIsCrbInterface : Bool) (locality : Locality) (bytes : Bytes)
    (responseDataLen : ℕ) :
    Traced.Returns (Obliging mIsCrbInterface)
      (copyResponseData mIsCrbInterface locality bytes responseDataLen)
      fun result => result.1 = EfiStatus.success := by
  rcases mIsCrbInterface
  · have hask : Traced.Returns (Obliging false)
        (Traced.ask ExternalTpm.unassigned : TpmIo EfiStatus) fun a => a = EfiStatus.success := by
      rintro tpm rfl h
      rfl
    refine Traced.Returns.bind hask fun status hst => ?_
    subst hst
    exact obliging_receiveBursts _ _ _ _ _
  · exact Traced.Returns.skip fun _ => Traced.Returns.pure rfl

/-- A copy reaches every index below its length. -/
theorem copyMem_reaches (destination source : Buffer) {index : ℕ} (hlt : index < n) :
    Traced.Reaches R (copyMem destination source n) (.store destination index) :=
  Traced.Reaches.foldlM (List.mem_range.2 hlt) fun _ =>
    Traced.Reaches.later fun _ => Traced.Sat.emit (List.mem_singleton_self _)

/-- A start copies the whole command into its buffer, whatever the TPM does. -/
theorem tpmSstStart_reaches_command (mIsCrbInterface : Bool) (locality : Locality)
    (page : PtpCrbRegisters) {index : ℕ} (hlt : index < page.crbControlCommandSize.toNat) :
    Traced.Reaches R (tpmSstStart mIsCrbInterface locality page)
      (.store .tpmCommandBuffer index) :=
  Traced.Reaches.later fun _ => Traced.Reaches.later fun _ =>
    Traced.Reaches.first (copyMem_reaches _ _ hlt)

/-- And the whole response back into the page, when the TPM obliges. -/
theorem tpmSstStart_reaches_response (mIsCrbInterface : Bool) (locality : Locality)
    (page : PtpCrbRegisters) {index : ℕ} (hlt : index < page.crbControlResponseSize.toNat) :
    Traced.Reaches (Obliging mIsCrbInterface) (tpmSstStart mIsCrbInterface locality page)
      (.store .internalCrbDataBuffer index) := by
  have hok : ∀ {status : EfiStatus}, status = EfiStatus.success → ¬ status.isError = true := by
    rintro _ rfl
    simp
  refine Traced.Reaches.later fun _ => Traced.Reaches.later fun _ =>
    Traced.Reaches.later fun _ => ?_
  refine Traced.Reaches.after (obliging_copyCommandData _ _ _ _) fun status hst => ?_
  rw [if_neg (hok hst)]
  refine Traced.Reaches.after (obliging_startCommand _ _) fun status hst => ?_
  rw [if_neg (hok hst)]
  refine Traced.Reaches.after (obliging_copyResponseData _ _ _ _) fun result hst => ?_
  dsimp only
  rw [if_neg (hok hst)]
  exact Traced.Reaches.first (copyMem_reaches _ _ hlt)

/-! ### A request is in bounds where it starts no oversized command -/

/-- The request starts a command at a locality whose page holds a length beyond the
buffers. -/
def Oversized (platform : TpmPlatform) (s : TpmService) (request : DirectMsgArgsEx) : Prop :=
  request.arg0 = platform.start ∧ ∃ locality, startOp platform s request = some (.start, locality) ∧
    (crbDataBufferSize < (s.crb locality).crbControlCommandSize.toNat ∨
      crbDataBufferSize < (s.crb locality).crbControlResponseSize.toNat)

/-- The events of a request are those of the operation it calls, if it calls one. -/
theorem tpmServiceHandle_events (platform : TpmPlatform) (s : TpmService)
    (request response : DirectMsgArgsEx) (tpm : ExternalTpm) :
    (tpmServiceHandle platform s request response tpm).2.events = [] ∧
        (request.arg0 = platform.start → startOp platform s request = none) ∨
      ∃ op locality, request.arg0 = platform.start ∧
        startOp platform s request = some (op, locality) ∧
        (tpmServiceHandle platform s request response tpm).2.events =
          ((sstRun s.mIsCrbInterface op locality (s.crb locality)).run tpm []).2 := by
  have hhandle := tpmServiceHandle_result platform s request response tpm
  generalize tpmServiceHandle platform s request response tpm = result at hhandle ⊢
  rcases hhandle with ⟨_, _, hne, -⟩ | ⟨handled, events, hstart, hresult⟩ | hmanage
  · exact .inl ⟨rfl, fun h => absurd h hne⟩
  · rcases hresult with ⟨_, hnone, -⟩ | ⟨op, locality, hsome⟩
    · exact .inl ⟨rfl, fun _ => hnone⟩
    · exact .inr ⟨op, locality, hstart, hsome, rfl⟩
  · exact .inl ⟨rfl, fun h => absurd (h.symm.trans hmanage) platform.start_ne_manageLocality⟩

/-- A request without an oversized command accesses no buffer out of bounds. -/
theorem bufferAccess_bounded {platform : TpmPlatform} {s : TpmService}
    {request : DirectMsgArgsEx} (h : ¬ Oversized platform s request) (response : DirectMsgArgsEx)
    (tpm : ExternalTpm) :
    ∀ e ∈ (tpmServiceHandle platform s request response tpm).2.events,
      Within crbDataBufferSize e := by
  rcases tpmServiceHandle_events platform s request response tpm with
    ⟨hnil, -⟩ | ⟨op, locality, hstart, hop, hevents⟩
  · rw [hnil]
    exact fun e he => absurd he List.not_mem_nil
  · rw [hevents]
    have hemits : Traced.Emits (fun _ => True)
        (sstRun s.mIsCrbInterface op locality (s.crb locality)) (Within crbDataBufferSize) := by
      by_cases hst : op = .start
      · subst hst
        have hcommand := not_lt.1 fun hlt => h ⟨hstart, locality, hop, .inl hlt⟩
        have hresponse := not_lt.1 fun hlt => h ⟨hstart, locality, hop, .inr hlt⟩
        exact Traced.Emits.bind (emits_tpmSstStart _ _ _ hcommand hresponse) fun _ =>
          Traced.Emits.pure _
      · exact emits_sstRun hst _ _ _
    exact hemits tpm trivial []

/-- What `TpmSstStart` emits is among the events of a request that starts a command. -/
theorem mem_events_of_reaches {platform : TpmPlatform} {s : TpmService}
    {request : DirectMsgArgsEx} {locality : Locality} {e : Event}
    (hstart : request.arg0 = platform.start)
    (hop : startOp platform s request = some (.start, locality))
    (hreaches : Traced.Reaches R (tpmSstStart s.mIsCrbInterface locality (s.crb locality)) e)
    (response : DirectMsgArgsEx) {tpm : ExternalTpm} (htpm : R tpm) :
    e ∈ (tpmServiceHandle platform s request response tpm).2.events := by
  rcases tpmServiceHandle_events platform s request response tpm with
    ⟨-, hnone⟩ | ⟨op, l, -, hop', hevents⟩
  · rw [hnone hstart] at hop
    cases hop
  · rw [hop] at hop'
    obtain ⟨rfl, rfl⟩ := Prod.mk.inj (Option.some.inj hop')
    rw [hevents]
    have hrun : Traced.Reaches R (sstRun s.mIsCrbInterface .start locality (s.crb locality)) e :=
      Traced.Reaches.first hreaches
    exact hrun tpm htpm []

/-- A store at the bound is not below it. -/
theorem not_within_store (buffer : Buffer) : ¬ Within n (.store buffer n) :=
  fun hin => lt_irrefl _ (hin _ rfl)

/-- A request with an oversized command gets out of bounds for a TPM that obliges. -/
theorem bufferAccess_oversized {platform : TpmPlatform} {s : TpmService}
    {request : DirectMsgArgsEx} (h : Oversized platform s request) (response : DirectMsgArgsEx) :
    ∃ tpm, ∃ e ∈ (tpmServiceHandle platform s request response tpm).2.events,
      ¬ Within crbDataBufferSize e := by
  obtain ⟨hstart, locality, hop, hsize⟩ := h
  have htpm : Obliging s.mIsCrbInterface (.const (obligingValue s.mIsCrbInterface)) := rfl
  rcases hsize with hsize | hsize
  · exact ⟨_, _, mem_events_of_reaches hstart hop (tpmSstStart_reaches_command _ _ _ hsize)
      response htpm, not_within_store _⟩
  · exact ⟨_, _, mem_events_of_reaches hstart hop (tpmSstStart_reaches_response _ _ _ hsize)
      response htpm, not_within_store _⟩

/-- **A request stays inside the buffers, whatever the TPM does, exactly where it starts
no oversized command.** -/
theorem bufferAccess_iff (platform : TpmPlatform) (s : TpmService)
    (request response : DirectMsgArgsEx) :
    (∀ tpm, ∀ e ∈ ((serviceMachine platform).step s (.request request response tpm)).2.events,
      Within crbDataBufferSize e) ↔ ¬ Oversized platform s request := by
  simp only [serviceMachine_request]
  constructor
  · intro hall hover
    obtain ⟨tpm, e, he, hnot⟩ := bufferAccess_oversized hover response
    exact hnot (hall tpm e he)
  · exact fun hnot tpm => bufferAccess_bounded hnot response tpm

/-- The last client also leaves the greatest length of a command in the page. -/
def oversizedRun : List ServiceInput :=
  readyRun ++
    [.clientWrite fun _ =>
      { PtpCrbRegisters.zero with crbControlStart := 1, crbControlCommandSize := 0xFFFFFFFF }]

/-- **The command that follows this run is copied beyond `TpmCommandBuffer`.** -/
theorem bufferAccess_escapes :
    .store .tpmCommandBuffer crbDataBufferSize ∈
      ((serviceMachine .standard).step
        ((serviceMachine .standard).final (tpmServiceInit .standard 1) oversizedRun)
        (.request (startMessage .standard 0 0) .zero (.const 0))).2.events ∧
    ¬ Within crbDataBufferSize (.store .tpmCommandBuffer crbDataBufferSize) := by
  refine ⟨?_, not_within_store _⟩
  have hop : startOp .standard
      ((serviceMachine .standard).final (tpmServiceInit .standard 1) oversizedRun)
      (startMessage .standard 0 0) = some (.start, 0) := by
    decide +kernel
  have hlt : crbDataBufferSize <
      (((serviceMachine .standard).final (tpmServiceInit .standard 1) oversizedRun).crb
        0).crbControlCommandSize.toNat := by
    decide +kernel
  have htpm : Obliging true (.const 0) := rfl
  exact mem_events_of_reaches rfl hop (tpmSstStart_reaches_command _ _ _ hlt) .zero htpm

end Tpm
end FfaFeature
