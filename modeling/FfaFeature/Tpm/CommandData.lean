/-
# Sending a command

`CopyCommandData` sends a command byte by byte: to the data buffer of a CRB device, and to
the one data register of a FIFO device, in bursts of the size it announces.  `Sending`
follows the bursts a TPM grants: it takes the whole command, or stalls, with no burst
announced in time or an interrupted yield.

In FIFO mode the error that stopped the bursts is then overwritten by the status of the last
wait, so a TPM that stalls and still reports the command complete gets a part of it
accepted.  `copyCommandData_whole_iff` says that nothing else goes wrong: a transfer that
succeeds has sent every byte once and in order, and `TpmSstStart` starts whole commands only,
exactly where no such report comes.
-/

import FfaFeature.Tpm.Polling

namespace FfaFeature
namespace Tpm

/-! ### The data written to the TPM -/

/-- The register byte `index` of a command goes to. -/
def dataRegister (mIsCrbInterface : Bool) (index : ℕ) : ExternalRegister :=
  if mIsCrbInterface then .crbDataBuffer index else .fifoDataFifo

/-- The write of that byte. -/
def dataWrite (mIsCrbInterface : Bool) (locality : Locality) (tpmCommandBuffer : Bytes)
    (index : ℕ) : Event :=
  .mmioWrite locality (dataRegister mIsCrbInterface index)
    ((tpmCommandBuffer index).setWidth 32)

/-- A write to a data register. -/
def Event.isDataWrite : Event → Bool
  | .mmioWrite _ (.crbDataBuffer _) _ => true
  | .mmioWrite _ .fifoDataFifo _ => true
  | _ => false

/-- A write of data is one. -/
@[simp] theorem isDataWrite_dataWrite (mIsCrbInterface : Bool) (locality : Locality)
    (bytes : Bytes) (index : ℕ) :
    (dataWrite mIsCrbInterface locality bytes index).isDataWrite = true := by
  cases mIsCrbInterface <;> rfl

/-- A load from a buffer is none. -/
@[simp] theorem isDataWrite_load (buffer : Buffer) (index : ℕ) :
    (Event.load buffer index).isDataWrite = false := rfl

/-- Neither is a store. -/
@[simp] theorem isDataWrite_store (buffer : Buffer) (index : ℕ) :
    (Event.store buffer index).isDataWrite = false := rfl

/-- Nor is a quiet event. -/
theorem Quiet.isDataWrite {e : Event} (h : Quiet e) : e.isDataWrite = false := by
  cases e with
  | mmioWrite => exact absurd h id
  | mmioRead => rfl
  | yield => rfl
  | load => rfl
  | store => rfl

/-- Events that write no data. -/
theorem filter_isDataWrite_eq_nil {es : List Event} (h : ∀ e ∈ es, e.isDataWrite = false) :
    es.filter Event.isDataWrite = [] :=
  List.filter_eq_nil_iff.2 fun e he => by
    rw [h e he]
    decide

/-- What the bytes `indices` of a command make of the events. -/
def sendEvents (mIsCrbInterface : Bool) (locality : Locality) (bytes : Bytes)
    (indices : List ℕ) : List Event :=
  indices.flatMap fun index =>
    [.load .tpmCommandBuffer index, dataWrite mIsCrbInterface locality bytes index]

/-- The data written is that of the indices. -/
theorem filter_sendEvents (mIsCrbInterface : Bool) (locality : Locality) (bytes : Bytes)
    (indices : List ℕ) :
    (sendEvents mIsCrbInterface locality bytes indices).filter Event.isDataWrite =
      indices.map (dataWrite mIsCrbInterface locality bytes) := by
  induction indices with
  | nil => rfl
  | cons index indices ih =>
    unfold sendEvents at ih ⊢
    rw [List.flatMap_cons, List.filter_append, ih]
    simp

variable {tpm : ExternalTpm} {locality : Locality} {bytes : Bytes} {commandDataLen : ℕ}

/-- In CRB mode the bytes go one after the other. -/
theorem sendAll_run (tpm : ExternalTpm) (locality : Locality) (bytes : Bytes)
    (indices : List ℕ) (h : List Event) :
    (indices.foldlM (fun _ index =>
        sendByte locality (.crbDataBuffer index) bytes index) ()).run tpm h =
      ((), sendEvents true locality bytes indices) := by
  induction indices generalizing h with
  | nil => rfl
  | cons index indices ih =>
    rw [List.foldlM_cons, Traced.run_bind, ih]
    rfl

/-- And in FIFO mode as many as the burst has, and the command. -/
theorem sendBurst_run (tpm : ExternalTpm) (locality : Locality) (bytes : Bytes)
    (commandDataLen count index : ℕ) (h : List Event) :
    (sendBurst locality bytes commandDataLen count index).run tpm h =
      (index + min count (commandDataLen - index),
        sendEvents false locality bytes
          (List.range' index (min count (commandDataLen - index)))) := by
  induction count generalizing index h with
  | zero => simp [sendBurst, sendEvents]
  | succ count ih =>
    rw [sendBurst]
    split_ifs with hlt
    · have hmin : min (count + 1) (commandDataLen - index) =
          min count (commandDataLen - (index + 1)) + 1 := by omega
      rw [Traced.run_bind, ih, hmin, List.range'_succ]
      refine Prod.ext ?_ rfl
      dsimp only
      omega
    · have hzero : commandDataLen - index = 0 := by omega
      simp [hzero, sendEvents]

/-! ### The bursts of a command -/

/-- **The bursts a TPM grants** to a command of which `index` bytes are sent: up to which
byte it is sent in the end, and what has happened by then. -/
inductive Sending (tpm : ExternalTpm) (locality : Locality) (bytes : Bytes)
    (commandDataLen : ℕ) : ℕ → List Event → ℕ → List Event → Prop
  | complete {index : ℕ} {h : List Event} : commandDataLen ≤ index →
      Sending tpm locality bytes commandDataLen index h index h
  | stalls {index : ℕ} {h h' : List Event} : index < commandDataLen →
      BurstCount tpm locality h none h' →
      Sending tpm locality bytes commandDataLen index h index h'
  | burst {index last : ℕ} {h h' h'' : List Event} {count : BitVec 16} :
      index < commandDataLen → BurstCount tpm locality h (some count) h' →
      Sending tpm locality bytes commandDataLen
        (index + min count.toNat (commandDataLen - index))
        (h' ++ sendEvents false locality bytes
          (List.range' index (min count.toNat (commandDataLen - index)))) last h'' →
      Sending tpm locality bytes commandDataLen index h last h''

/-- A burst sends at least one byte. -/
theorem BurstCount.sends {count : BitVec 16} {h h' : List Event}
    (hburst : BurstCount tpm locality h (some count) h') {index : ℕ}
    (hlt : index < commandDataLen) :
    0 < min count.toNat (commandDataLen - index) := by
  have hdone := Polls.done_of_some hburst
  have hpos : 0 < count.toNat := burstCount_pos hdone
  omega

/-- Each TPM grants some. -/
theorem exists_sending (tpm : ExternalTpm) (locality : Locality) (bytes : Bytes)
    (commandDataLen index : ℕ) (h : List Event) :
    ∃ last h', Sending tpm locality bytes commandDataLen index h last h' := by
  induction hleft : commandDataLen - index using Nat.strong_induction_on
    generalizing index h with
  | h left ih =>
    rcases Nat.lt_or_ge index commandDataLen with hlt | hge
    · obtain ⟨value, h', hburst⟩ := exists_polls tpm (pollBurstCount locality)
        (fun burstCount => burstCount != 0) 3 h
      cases value with
      | none => exact ⟨_, _, .stalls hlt hburst⟩
      | some count =>
        have hsends := BurstCount.sends hburst hlt
        obtain ⟨last, h'', hrest⟩ := ih _ (by omega)
          (index + min count.toNat (commandDataLen - index)) _ rfl
        exact ⟨last, h'', .burst hlt hburst hrest⟩
    · exact ⟨_, _, .complete hge⟩

/-- **The bursts are sent as the TPM grants them**: each byte once and in order, up to the
last. -/
theorem Sending.run {index last : ℕ} {h h' : List Event}
    (hsending : Sending tpm locality bytes commandDataLen index h last h') {fuel : ℕ}
    (hfuel : commandDataLen ≤ index + fuel) :
    h' = h ++ ((sendBursts locality bytes commandDataLen fuel index).run tpm h).2 ∧
      ((sendBursts locality bytes commandDataLen fuel index).run tpm h).2.filter
          Event.isDataWrite =
        (List.range' index (last - index)).map (dataWrite false locality bytes) ∧
      index ≤ last ∧ (index ≤ commandDataLen → last ≤ commandDataLen) := by
  have hquiet : ∀ h, ((fifoReadBurstCount locality).run tpm h).2.filter Event.isDataWrite = [] :=
    fun h => filter_isDataWrite_eq_nil fun e he => Quiet.isDataWrite
      (quiet_fifoReadBurstCount (R := fun _ => True) locality tpm trivial h e he)
  induction hsending generalizing fuel with
  | @complete index h hge =>
    have hrun : (sendBursts locality bytes commandDataLen fuel index).run tpm h = ((), []) := by
      cases fuel with
      | zero => rfl
      | succ fuel =>
        rw [sendBursts, if_neg (by omega)]
        rfl
    rw [hrun, Nat.sub_self]
    exact ⟨(List.append_nil h).symm, rfl, le_rfl, id⟩
  | @stalls index h h' hlt hburst =>
    obtain ⟨fuel, rfl⟩ : ∃ k, fuel = k + 1 := ⟨fuel - 1, by omega⟩
    obtain ⟨hevents, -, hnone⟩ := hburst.run
    rw [sendBursts, if_pos hlt, Traced.run_bind]
    dsimp only
    rw [if_pos (hnone rfl), Traced.run_pure, List.append_nil, Nat.sub_self]
    exact ⟨hevents, hquiet h, le_rfl, fun _ => hlt.le⟩
  | @burst index last h h' h'' count hlt hburst hrest ih =>
    obtain ⟨fuel, rfl⟩ : ∃ k, fuel = k + 1 := ⟨fuel - 1, by omega⟩
    have hsends := hburst.sends hlt
    obtain ⟨hevents, hsome, -⟩ := hburst.run
    obtain ⟨hih, hfilter, hle, hlast⟩ := @ih fuel (by omega)
    have hrange : last - index = min count.toNat (commandDataLen - index) +
        (last - (index + min count.toNat (commandDataLen - index))) := by omega
    rw [sendBursts, if_pos hlt, Traced.run_bind, hsome count rfl]
    dsimp only
    rw [if_neg (by decide), Traced.run_bind, sendBurst_run, ← hevents]
    refine ⟨?_, ?_, by omega, fun _ => hlast (by omega)⟩
    · rw [hih]
      nth_rewrite 1 [hevents]
      simp only [List.append_assoc]
    · rw [List.filter_append, List.filter_append, hquiet h, filter_sendEvents, hfilter, hrange,
        ← List.range'_append_1, List.map_append, List.nil_append]

/-! ### Whole commands -/

/-- The TPM takes part of the command only, and reports that it has it all. -/
def AcceptsPart (tpm : ExternalTpm) (locality : Locality) (bytes : Bytes) (commandDataLen : ℕ)
    (h : List Event) : Prop :=
  ∃ last h', Sending tpm locality bytes commandDataLen 0 h last h' ∧ last < commandDataLen ∧
    ReportsComplete tpm locality h'

/-- **A transfer that succeeds has sent the command**: every byte of it, once and in order. -/
def TransfersCommand (mIsCrbInterface : Bool) (locality : Locality) (bytes : Bytes)
    (commandDataLen : ℕ) (tpm : ExternalTpm) (h : List Event) : Prop :=
  ((copyCommandData mIsCrbInterface locality bytes commandDataLen).run tpm h).1 =
      EfiStatus.success →
    ((copyCommandData mIsCrbInterface locality bytes commandDataLen).run tpm h).2.filter
        Event.isDataWrite =
      (List.range commandDataLen).map (dataWrite mIsCrbInterface locality bytes)

/-- A CRB device takes all bytes. -/
theorem transfersCommand_crb (tpm : ExternalTpm) (locality : Locality) (bytes : Bytes)
    (commandDataLen : ℕ) (h : List Event) :
    TransfersCommand true locality bytes commandDataLen tpm h := by
  intro _
  unfold copyCommandData
  rw [if_pos rfl, Traced.run_bind, sendAll_run, Traced.run_pure, List.append_nil,
    filter_sendEvents]

/-- A FIFO device gets as far as it grants bursts, and its last report counts. -/
theorem transfersCommand_fifo_iff (tpm : ExternalTpm) (locality : Locality) (bytes : Bytes)
    (commandDataLen : ℕ) (h : List Event) :
    TransfersCommand false locality bytes commandDataLen tpm h ↔
      ¬ AcceptsPart tpm locality bytes commandDataLen h := by
  -- what a transfer comes to, however the bursts are granted
  have hsent : ∀ {last : ℕ} {h' : List Event},
      Sending tpm locality bytes commandDataLen 0 h last h' → last ≤ commandDataLen ∧
        (((copyCommandData false locality bytes commandDataLen).run tpm h).1 =
          EfiStatus.success ↔ ReportsComplete tpm locality h') ∧
        ((copyCommandData false locality bytes commandDataLen).run tpm h).2.filter
            Event.isDataWrite =
          (List.range last).map (dataWrite false locality bytes) := by
    intro last h' hsending
    obtain ⟨hevents, hfilter, -, hlast⟩ := @Sending.run _ _ _ _ _ _ _ _ hsending
      commandDataLen (by omega)
    have hquiet := filter_isDataWrite_eq_nil fun e he => Quiet.isDataWrite
      (quiet_waitStatus (R := fun _ => True) locality fifoStsValid fifoStsExpect ptpTimeoutC tpm
        trivial h' e he)
    unfold copyCommandData
    rw [if_neg (by decide), Traced.run_bind, ← hevents]
    refine ⟨hlast (Nat.zero_le _), waitStatus_success_iff tpm locality h', ?_⟩
    rw [List.filter_append, hfilter, hquiet, List.append_nil, Nat.sub_zero,
      List.range_eq_range']
  constructor
  · rintro htransfers ⟨last, h', hsending, hlt, hcomplete⟩
    obtain ⟨-, hsuccess, hfilter⟩ := hsent hsending
    have hlength := congrArg List.length (hfilter.symm.trans (htransfers (hsuccess.2 hcomplete)))
    simp only [List.length_map, List.length_range] at hlength
    omega
  · intro hno hstatus
    obtain ⟨last, h', hsending⟩ := exists_sending tpm locality bytes commandDataLen 0 h
    obtain ⟨hle, hsuccess, hfilter⟩ := hsent hsending
    have hlast : last = commandDataLen := by
      by_contra hne
      exact hno ⟨last, h', hsending, by omega, hsuccess.1 hstatus⟩
    rw [hfilter, hlast]

/-- When a command is transferred, with either interface. -/
theorem transfersCommand_iff (mIsCrbInterface : Bool) (locality : Locality) (bytes : Bytes)
    (commandDataLen : ℕ) (tpm : ExternalTpm) (h : List Event) :
    TransfersCommand mIsCrbInterface locality bytes commandDataLen tpm h ↔
      mIsCrbInterface = true ∨ ¬ AcceptsPart tpm locality bytes commandDataLen h := by
  cases mIsCrbInterface with
  | true =>
    exact iff_of_true (transfersCommand_crb tpm locality bytes commandDataLen h) (.inl rfl)
  | false => simp [transfersCommand_fifo_iff]

/-! ### Commands that are started -/

/-- A write that starts the execution of a command. -/
def Event.isStart : Event → Bool
  | .mmioWrite _ .crbControlStart _ => true
  | .mmioWrite _ .fifoStatus _ => true
  | _ => false

/-- A quiet event starts nothing. -/
theorem Quiet.isStart {e : Event} (h : Quiet e) : e.isStart = false := by
  cases e with
  | mmioWrite => exact absurd h id
  | mmioRead => rfl
  | yield => rfl
  | load => rfl
  | store => rfl

/-- `TpmCommandBuffer`, with the command of a page. -/
def commandBuffer (page : PtpCrbRegisters) (pastEnd : Bytes) : Bytes := fun index =>
  if index < page.crbControlCommandSize.toNat then page.dataByte pastEnd index
  else if index < crbDataBufferSize then 0 else pastEnd index

/-- What `TpmSstStart` does before it sends the command. -/
def copyCommand (page : PtpCrbRegisters) : TpmIo Unit := do
  setMem crbDataBufferSize
  copyMem .tpmCommandBuffer .internalCrbDataBuffer page.crbControlCommandSize.toNat

/-- The history at which the command is sent. -/
def afterCopy (page : PtpCrbRegisters) (tpm : ExternalTpm) (h : List Event) : List Event :=
  h ++ ((copyCommand page).run tpm h).2

/-- **What is started is a whole command**: the bytes written before the start are all of it. -/
def StartsWhole (mIsCrbInterface : Bool) (locality : Locality) (page : PtpCrbRegisters)
    (tpm : ExternalTpm) (h : List Event) : Prop :=
  (∃ e ∈ ((tpmSstStart mIsCrbInterface locality page).run tpm h).2, e.isStart = true) →
    ((((tpmSstStart mIsCrbInterface locality page).run tpm h).2.takeWhile
        fun e => !e.isStart).filter Event.isDataWrite) =
      (List.range page.crbControlCommandSize.toNat).map
        (dataWrite mIsCrbInterface locality (commandBuffer page tpm.pastEnd))

section Starts

variable {R : ExternalTpm → Prop}

/-- Copying in memory writes nothing to the TPM. -/
theorem emits_copyCommand {P : Event → Prop} (hload : ∀ buffer index, P (.load buffer index))
    (hstore : ∀ buffer index, P (.store buffer index)) (page : PtpCrbRegisters) :
    Traced.Emits R (copyCommand page) P :=
  Traced.Emits.bind (Traced.Emits.foldlM fun _ _ _ => Traced.Emits.emit (hstore _ _)) fun _ =>
    Traced.Emits.foldlM fun _ _ _ => Traced.Emits.bind (Traced.Emits.emit (hload _ _)) fun _ =>
      Traced.Emits.emit (hstore _ _)

/-- A byte that is sent starts nothing. -/
theorem sendByte_isStart (mIsCrbInterface : Bool) (locality : Locality) (bytes : Bytes)
    (index : ℕ) :
    Traced.Emits R (sendByte locality (dataRegister mIsCrbInterface index) bytes index)
      fun e => e.isStart = false :=
  Traced.Emits.bind (Traced.Emits.emit rfl) fun _ => Traced.Emits.emit (by
    cases mIsCrbInterface <;> rfl)

/-- Nor is the command started while it is sent. -/
theorem copyCommandData_isStart (mIsCrbInterface : Bool) (locality : Locality) (bytes : Bytes)
    (commandDataLen : ℕ) :
    Traced.Emits R (copyCommandData mIsCrbInterface locality bytes commandDataLen)
      fun e => e.isStart = false := by
  cases mIsCrbInterface with
  | true =>
    exact Traced.Emits.bind (Traced.Emits.foldlM fun _ index _ =>
      sendByte_isStart true locality bytes index) fun _ => Traced.Emits.pure _
  | false =>
    refine Traced.Emits.bind (emits_sendBursts ((quiet_fifoReadBurstCount locality).mono
      fun _ => Quiet.isStart) (fun index _ => sendByte_isStart false locality bytes index) _ _)
      fun _ => ?_
    exact (quiet_waitStatus locality _ _ _).mono fun _ => Quiet.isStart

/-- `CopyCommandData` returns success or an error. -/
theorem decisive_copyCommandData (mIsCrbInterface : Bool) (locality : Locality) (bytes : Bytes)
    (commandDataLen : ℕ) :
    Traced.Returns R (copyCommandData mIsCrbInterface locality bytes commandDataLen)
      Decisive := by
  cases mIsCrbInterface with
  | true => exact Traced.Returns.skip fun _ => Traced.Returns.pure (.inl rfl)
  | false =>
    exact Traced.Returns.skip fun _ => Traced.Returns.bind (decisive_pollLoop _ _ _ _ _)
      fun _ hstatus => Traced.Returns.pure hstatus

end Starts

/-- A start that gets that far begins with the write. -/
theorem startCommand_events (mIsCrbInterface : Bool) (locality : Locality) (tpm : ExternalTpm)
    (h : List Event) :
    ∃ e es, ((startCommand mIsCrbInterface locality).run tpm h).2 = e :: es ∧
      e.isStart = true := by
  cases mIsCrbInterface with
  | true => exact ⟨_, _, rfl, rfl⟩
  | false => exact ⟨_, _, rfl, rfl⟩

/-- The command is copied and sent, and `rest` follows: nothing more after an error, else the
start. -/
theorem tpmSstStart_eq (mIsCrbInterface : Bool) (locality : Locality) (page : PtpCrbRegisters) :
    ∃ rest : Bytes → EfiStatus → TpmIo (EfiStatus × PtpCrbRegisters),
      (tpmSstStart mIsCrbInterface locality page =
        Traced.ask ExternalTpm.pastEnd >>= fun pastEnd => setMem crbDataBufferSize >>= fun _ =>
          copyMem .tpmCommandBuffer .internalCrbDataBuffer page.crbControlCommandSize.toNat >>=
            fun _ => copyCommandData mIsCrbInterface locality (commandBuffer page pastEnd)
              page.crbControlCommandSize.toNat >>= rest pastEnd) ∧
      ∀ pastEnd status,
        (status.isError = true → rest pastEnd status = pure (status, page)) ∧
        (¬ status.isError = true →
          ∃ g, rest pastEnd status = startCommand mIsCrbInterface locality >>= g) :=
  ⟨_, rfl, fun _ _ => ⟨fun herror => if_pos herror, fun hok => ⟨_, if_neg hok⟩⟩⟩

/-- What `CopyCommandData` does with the command of a page. -/
def sendCommand (mIsCrbInterface : Bool) (locality : Locality) (page : PtpCrbRegisters)
    (tpm : ExternalTpm) (h : List Event) : EfiStatus × List Event :=
  (copyCommandData mIsCrbInterface locality (commandBuffer page tpm.pastEnd)
    page.crbControlCommandSize.toNat).run tpm (afterCopy page tpm h)

/-- What `TpmSstStart` does first. -/
theorem tpmSstStart_events (mIsCrbInterface : Bool) (locality : Locality)
    (page : PtpCrbRegisters) (tpm : ExternalTpm) (h : List Event) :
    ∃ rest, ((tpmSstStart mIsCrbInterface locality page).run tpm h).2 =
        ((copyCommand page).run tpm h).2 ++
          ((sendCommand mIsCrbInterface locality page tpm h).2 ++ rest) ∧
      ((sendCommand mIsCrbInterface locality page tpm h).1.isError = true → rest = []) ∧
      (¬ (sendCommand mIsCrbInterface locality page tpm h).1.isError = true →
        ∃ e es, rest = e :: es ∧ e.isStart = true) := by
  obtain ⟨rest, hstart, hrest⟩ := tpmSstStart_eq mIsCrbInterface locality page
  obtain ⟨hstop, hgo⟩ := hrest tpm.pastEnd (sendCommand mIsCrbInterface locality page tpm h).1
  refine ⟨((rest tpm.pastEnd (sendCommand mIsCrbInterface locality page tpm h).1).run tpm
    (afterCopy page tpm h ++ (sendCommand mIsCrbInterface locality page tpm h).2)).2, ?_, ?_, ?_⟩
  · rw [hstart]
    simp [sendCommand, afterCopy, copyCommand]
  · intro herror
    rw [hstop herror]
    rfl
  · intro hok
    obtain ⟨g, hg⟩ := hgo hok
    obtain ⟨e, es, hes, he⟩ := startCommand_events mIsCrbInterface locality tpm
      (afterCopy page tpm h ++ (sendCommand mIsCrbInterface locality page tpm h).2)
    rw [hg, Traced.run_bind, hes]
    exact ⟨e, _, List.cons_append, he⟩

/-- `TpmSstStart` starts whole commands only where their transfer sends them. -/
theorem startsWhole_iff (mIsCrbInterface : Bool) (locality : Locality) (page : PtpCrbRegisters)
    (tpm : ExternalTpm) (h : List Event) :
    StartsWhole mIsCrbInterface locality page tpm h ↔
      TransfersCommand mIsCrbInterface locality (commandBuffer page tpm.pastEnd)
        page.crbControlCommandSize.toNat tpm (afterCopy page tpm h) := by
  obtain ⟨rest, hevents, herror, hok⟩ := tpmSstStart_events mIsCrbInterface locality page tpm h
  have hdecisive : Decisive (sendCommand mIsCrbInterface locality page tpm h).1 :=
    decisive_copyCommandData (R := fun _ => True) mIsCrbInterface locality _ _ tpm trivial _
  have hsend : ∀ e ∈ (sendCommand mIsCrbInterface locality page tpm h).2, e.isStart = false :=
    copyCommandData_isStart (R := fun _ => True) mIsCrbInterface locality _ _ tpm trivial _
  have hcopy : ∀ e ∈ ((copyCommand page).run tpm h).2, e.isStart = false :=
    emits_copyCommand (R := fun _ => True) (fun _ _ => rfl) (fun _ _ => rfl) page tpm trivial h
  have hfilter : ((copyCommand page).run tpm h).2.filter Event.isDataWrite = [] :=
    filter_isDataWrite_eq_nil (emits_copyCommand (R := fun _ => True) (fun _ _ => rfl)
      (fun _ _ => rfl) page tpm trivial h)
  unfold StartsWhole TransfersCommand
  change _ ↔ ((sendCommand mIsCrbInterface locality page tpm h).1 = EfiStatus.success →
    (sendCommand mIsCrbInterface locality page tpm h).2.filter Event.isDataWrite = _)
  rw [hevents]
  rcases hdecisive with hsuccess | hfail
  · -- the start comes right after the bytes
    obtain ⟨e, es, rfl, he⟩ := hok (by rw [hsuccess]; decide)
    have htake : (((copyCommand page).run tpm h).2 ++
        ((sendCommand mIsCrbInterface locality page tpm h).2 ++ e :: es)).takeWhile
          (fun e => !e.isStart) =
        ((copyCommand page).run tpm h).2 ++
          (sendCommand mIsCrbInterface locality page tpm h).2 := by
      rw [List.takeWhile_append_of_pos fun e he => by simp [hcopy e he],
        List.takeWhile_append_of_pos fun e he => by simp [hsend e he],
        List.takeWhile_cons_of_neg (by simp [he]), List.append_nil]
    rw [htake, List.filter_append, hfilter, List.nil_append]
    exact ⟨fun hwhole _ => hwhole ⟨e, by simp, he⟩, fun hsent _ => hsent hsuccess⟩
  · refine iff_of_true ?_ fun hsuccess => ?_
    · rintro ⟨e, he, hstart⟩
      rw [herror hfail, List.append_nil, List.mem_append] at he
      rcases he with he | he
      · rw [hcopy e he] at hstart
        cases hstart
      · rw [hsend e he] at hstart
        cases hstart
    · rw [hsuccess] at hfail
      exact absurd hfail (by decide)

/-- **A command is transferred whole where no device accepts a part of it.**  For every
interface, locality and TPM, after any history: a transfer that succeeds has written each byte
of the command once and in order, and `TpmSstStart` starts no command of which that does not
hold, exactly where a FIFO device that stalls the bursts before the end does not go on to
report the command complete. -/
theorem copyCommandData_whole_iff (mIsCrbInterface : Bool) (locality : Locality)
    (tpm : ExternalTpm) (h : List Event) :
    (∀ bytes commandDataLen, TransfersCommand mIsCrbInterface locality bytes commandDataLen tpm h ↔
      mIsCrbInterface = true ∨ ¬ AcceptsPart tpm locality bytes commandDataLen h) ∧
    ∀ page, StartsWhole mIsCrbInterface locality page tpm h ↔
      mIsCrbInterface = true ∨ ¬ AcceptsPart tpm locality (commandBuffer page tpm.pastEnd)
        page.crbControlCommandSize.toNat (afterCopy page tpm h) := by
  refine ⟨fun bytes commandDataLen => ?_, fun page => ?_⟩
  · exact transfersCommand_iff mIsCrbInterface locality bytes commandDataLen tpm h
  · exact (startsWhole_iff ..).trans (transfersCommand_iff ..)

/-- A FIFO device that never announces a burst, and always reports the command complete. -/
def ExternalTpm.deaf : ExternalTpm :=
  { ExternalTpm.const 0 with
    read := fun _ _ register => if register = .fifoStatus then fifoStsValid else 0 }

/-- Its first command is sent with success, and without a byte. -/
theorem copyCommandData_deaf : ¬ TransfersCommand false 0 (fun _ => 0x80) 1 .deaf [] := by
  intro htransfers
  have hsent := htransfers (by decide +kernel)
  revert hsent
  decide +kernel

end Tpm
end FfaFeature
