/-
# What a wait comes to

`FifoReadBurstCount` and `WaitRegisterBits` poll a register of the TPM and yield in between.
`Polls` describes what a TPM does to someone who polls it at most so many times again: it shows
the value waited for, or lets the time pass, or interrupts a yield.  Each TPM does one of these
(`exists_polls`), and the loop ends accordingly (`Polls.run`).

Waiting moves no data: all it emits is `Quiet`.
-/

import FfaFeature.Tpm.Bounds
import FfaFeature.Tpm.Failure

namespace FfaFeature
namespace Tpm

/-! ### Events that move no data -/

/-- A yield, or the read of a register that holds no data. -/
def Quiet : Event → Prop
  | .yield _ => True
  | .mmioRead _ (.crbDataBuffer _) _ => False
  | .mmioRead _ .fifoDataFifo _ => False
  | .mmioRead _ _ _ => True
  | _ => False

section Quiet

variable {R : ExternalTpm → Prop}

/-- `FifoReadBurstCount` is quiet. -/
theorem quiet_fifoReadBurstCount (locality : Locality) :
    Traced.Emits R (fifoReadBurstCount locality) Quiet := by
  refine emits_pollLoop (fun _ => trivial) _ _ ?_ _ _
  refine Traced.Emits.bind (Traced.Emits.query fun _ => trivial) fun _ => ?_
  exact Traced.Emits.bind (Traced.Emits.query fun _ => trivial) fun _ => Traced.Emits.pure _

/-- So is a wait for the status. -/
theorem quiet_waitStatus (locality : Locality) (bitSet bitClear timeout : BitVec 32) :
    Traced.Emits R (waitRegisterBits false locality .fifoStatus bitSet bitClear timeout) Quiet := by
  refine Traced.Emits.bind (emits_pollLoop (fun _ => trivial) _ _ ?_ _ _)
    fun _ => Traced.Emits.pure _
  exact Traced.Emits.bind (Traced.Emits.query fun _ => trivial) fun _ => Traced.Emits.pure _

end Quiet

/-! ### Polling -/

variable {α : Type}

/-- What happened, after a poll. -/
def afterPoll (tpm : ExternalTpm) (poll : TpmIo α) (h : List Event) : List Event :=
  h ++ (poll.run tpm h).2

/-- And after a yield. -/
def afterYield (tpm : ExternalTpm) (h : List Event) : List Event := h ++ [.yield (tpm.yield h)]

/-- **What a TPM does to someone who polls it**, and yields at most `n` times, until `done`: the
value that is done, or none, and what has happened by then. -/
inductive Polls (tpm : ExternalTpm) (poll : TpmIo α) (done : α → Bool) :
    ℕ → List Event → Option α → List Event → Prop
  | shows {n : ℕ} {h : List Event} : done (poll.run tpm h).1 = true →
      Polls tpm poll done n h (some (poll.run tpm h).1) (afterPoll tpm poll h)
  | delays {h : List Event} : done (poll.run tpm h).1 = false →
      Polls tpm poll done 0 h none (afterPoll tpm poll h)
  | interrupts {n : ℕ} {h : List Event} : done (poll.run tpm h).1 = false →
      (tpm.yield (afterPoll tpm poll h)).isError = true →
      Polls tpm poll done (n + 1) h none (afterYield tpm (afterPoll tpm poll h))
  | again {n : ℕ} {h h' : List Event} {value : Option α} : done (poll.run tpm h).1 = false →
      (tpm.yield (afterPoll tpm poll h)).isError = false →
      Polls tpm poll done n (afterYield tpm (afterPoll tpm poll h)) value h' →
      Polls tpm poll done (n + 1) h value h'

section Polls

variable {tpm : ExternalTpm} {poll : TpmIo α} {done : α → Bool} {n : ℕ} {h h' : List Event}
  {value : Option α}

/-- Each TPM does something. -/
theorem exists_polls (tpm : ExternalTpm) (poll : TpmIo α) (done : α → Bool) (n : ℕ)
    (h : List Event) : ∃ value h', Polls tpm poll done n h value h' := by
  induction n generalizing h with
  | zero =>
    cases hdone : done (poll.run tpm h).1 with
    | true => exact ⟨_, _, .shows hdone⟩
    | false => exact ⟨_, _, .delays hdone⟩
  | succ n ih =>
    cases hdone : done (poll.run tpm h).1 with
    | true => exact ⟨_, _, .shows hdone⟩
    | false =>
      cases hyield : (tpm.yield (afterPoll tpm poll h)).isError with
      | true => exact ⟨_, _, .interrupts hdone hyield⟩
      | false =>
        obtain ⟨value, h', hrest⟩ := ih (afterYield tpm (afterPoll tpm poll h))
        exact ⟨value, h', .again hdone hyield hrest⟩

/-- What is shown is done. -/
theorem Polls.done_of_some {v : α} (hpolls : Polls tpm poll done n h (some v) h') :
    done v = true := by
  generalize hvalue : some v = value at hpolls
  induction hpolls with
  | shows hdone => rwa [Option.some.inj hvalue]
  | delays => cases hvalue
  | interrupts => cases hvalue
  | again _ _ _ ih => exact ih hvalue

/-- A run that begins with a poll. -/
theorem poll_bind_run {β : Type} (tpm : ExternalTpm) (poll : TpmIo α) (f : α → TpmIo β)
    (h : List Event) :
    (poll >>= f).run tpm h =
      (((f (poll.run tpm h).1).run tpm (afterPoll tpm poll h)).1,
        (poll.run tpm h).2 ++ ((f (poll.run tpm h).1).run tpm (afterPoll tpm poll h)).2) := rfl

/-- A run that begins with a yield. -/
theorem yield_bind_run {β : Type} (tpm : ExternalTpm) (f : EfiStatus → TpmIo β)
    (h : List Event) :
    (armFfaLibYield >>= f).run tpm h =
      (((f (tpm.yield h)).run tpm (afterYield tpm h)).1,
        [.yield (tpm.yield h)] ++ ((f (tpm.yield h)).run tpm (afterYield tpm h)).2) := rfl

variable [Inhabited α]

/-- One turn of the loop. -/
theorem pollLoop_run (tpm : ExternalTpm) (poll : TpmIo α) (done : α → Bool)
    (timeout : BitVec 32) (fuel : ℕ) (delayAmount : BitVec 32) (h : List Event) :
    (pollLoop poll done timeout (fuel + 1) delayAmount).run tpm h =
      if done (poll.run tpm h).1 then
        ((EfiStatus.success, (poll.run tpm h).1), (poll.run tpm h).2)
      else if timeout ≤ delayAmount then
        ((EfiStatus.timeout, (poll.run tpm h).1), (poll.run tpm h).2)
      else
        let status := tpm.yield (afterPoll tpm poll h)
        if status.isError then
          ((status, (poll.run tpm h).1), (poll.run tpm h).2 ++ [.yield status])
        else
          let rest := (pollLoop poll done timeout fuel (delayAmount + yieldAmount)).run tpm
            (afterYield tpm (afterPoll tpm poll h))
          (rest.1, (poll.run tpm h).2 ++ ([.yield status] ++ rest.2)) := by
  rw [pollLoop, poll_bind_run]
  by_cases hdone : done (poll.run tpm h).1 = true
  · rw [if_pos hdone, if_pos hdone, Traced.run_pure, List.append_nil]
  by_cases htimeout : timeout ≤ delayAmount
  · rw [if_neg hdone, if_neg hdone, if_pos htimeout, if_pos htimeout, Traced.run_pure,
      List.append_nil]
  rw [if_neg hdone, if_neg hdone, if_neg htimeout, if_neg htimeout, yield_bind_run]
  by_cases herror : (tpm.yield (afterPoll tpm poll h)).isError = true
  · rw [if_pos herror, if_pos herror, Traced.run_pure, List.append_nil]
  · rw [if_neg herror, if_neg herror]

/-- **The loop ends as the TPM has it**, when the delays reach the timeout after `n` yields. -/
theorem Polls.run (hpolls : Polls tpm poll done n h value h') {timeout delayAmount : BitVec 32}
    {fuel : ℕ} (hfuel : n < fuel)
    (hdelay : delayAmount.toNat + n * yieldAmount.toNat = timeout.toNat) :
    h' = h ++ ((pollLoop poll done timeout fuel delayAmount).run tpm h).2 ∧
      (∀ v, value = some v →
        ((pollLoop poll done timeout fuel delayAmount).run tpm h).1 = (EfiStatus.success, v)) ∧
      (value = none →
        ((pollLoop poll done timeout fuel delayAmount).run tpm h).1.1.isError = true) := by
  obtain ⟨fuel, rfl⟩ : ∃ k, fuel = k + 1 := ⟨fuel - 1, by omega⟩
  have hyield : yieldAmount.toNat = 10000 := rfl
  have hbound := timeout.isLt
  rw [hyield] at hdelay
  rw [pollLoop_run]
  induction hpolls generalizing fuel delayAmount with
  | shows hdone =>
    rw [if_pos hdone]
    exact ⟨rfl, fun v hv => by rw [← Option.some.inj hv], nofun⟩
  | delays hdone =>
    have htimeout : timeout ≤ delayAmount := by
      rw [BitVec.le_def]
      omega
    rw [if_neg (by simp [hdone]), if_pos htimeout]
    exact ⟨rfl, nofun, fun _ => decisive_timeout.resolve_left (by decide)⟩
  | interrupts hdone hstatus =>
    have htimeout : ¬ timeout ≤ delayAmount := by
      rw [BitVec.le_def]
      omega
    rw [if_neg (by simp [hdone]), if_neg htimeout]
    dsimp only
    rw [if_pos hstatus]
    refine ⟨?_, nofun, fun _ => hstatus⟩
    rw [afterYield, afterPoll, List.append_assoc]
  | again hdone hstatus hrest ih =>
    have htimeout : ¬ timeout ≤ delayAmount := by
      rw [BitVec.le_def]
      omega
    obtain ⟨fuel, rfl⟩ : ∃ k, fuel = k + 1 := ⟨fuel - 1, by omega⟩
    have hnext : (delayAmount + yieldAmount).toNat = delayAmount.toNat + 10000 := by
      rw [BitVec.toNat_add, hyield]
      omega
    obtain ⟨hevents, hsome, hnone⟩ := @ih (delayAmount + yieldAmount)
      (by rw [hnext]; omega) fuel (by omega)
    rw [← pollLoop_run] at hevents hsome hnone
    rw [if_neg (by simp [hdone]), if_neg htimeout]
    dsimp only
    rw [if_neg (by simp [hstatus])]
    refine ⟨?_, hsome, hnone⟩
    rw [hevents, afterYield, afterPoll, List.append_assoc, List.append_assoc]

/-- A wait is over when the delays reach the timeout: more turns than that change nothing. -/
theorem pollLoop_fuel (poll : TpmIo α) (done : α → Bool) {timeout : BitVec 32}
    (hbound : timeout.toNat + yieldAmount.toNat < 2 ^ 32) {fuel fuel' : ℕ}
    {delayAmount : BitVec 32}
    (hfuel : timeout.toNat ≤ delayAmount.toNat + fuel * yieldAmount.toNat)
    (hfuel' : timeout.toNat ≤ delayAmount.toNat + fuel' * yieldAmount.toNat) :
    pollLoop poll done timeout (fuel + 1) delayAmount =
      pollLoop poll done timeout (fuel' + 1) delayAmount := by
  have hyield : yieldAmount.toNat = 10000 := rfl
  rw [hyield] at hbound hfuel hfuel'
  induction fuel generalizing fuel' delayAmount with
  | zero =>
    have htimeout : timeout ≤ delayAmount := by
      rw [BitVec.le_def]
      omega
    conv_lhs => rw [pollLoop]
    conv_rhs => rw [pollLoop]
    simp only [if_pos htimeout]
  | succ fuel ih =>
    conv_lhs => rw [pollLoop]
    conv_rhs => rw [pollLoop]
    by_cases htimeout : timeout ≤ delayAmount
    · simp only [if_pos htimeout]
    · have hlt : delayAmount.toNat < timeout.toNat := by rwa [BitVec.le_def, not_le] at htimeout
      have hnext : (delayAmount + yieldAmount).toNat = delayAmount.toNat + 10000 := by
        rw [BitVec.toNat_add, hyield]
        omega
      obtain ⟨fuel', rfl⟩ : ∃ k, fuel' = k + 1 := ⟨fuel' - 1, by omega⟩
      rw [@ih fuel' (delayAmount + yieldAmount) (by omega) (by omega)]

end Polls

/-! ### The two waits of a transfer -/

/-- What a TPM does to a wait for a burst count. -/
def BurstCount (tpm : ExternalTpm) (locality : Locality) :
    List Event → Option (BitVec 16) → List Event → Prop :=
  Polls tpm (pollBurstCount locality) (fun burstCount => burstCount != 0) 3

/-- The TPM reports, before the time is up, that it has the whole command: its status register
is valid and expects no more data. -/
def ReportsComplete (tpm : ExternalTpm) (locality : Locality) (h : List Event) : Prop :=
  ∃ regRead h', Polls tpm (pollRegister false locality .fifoStatus)
    (fun regRead => regRead &&& fifoStsValid == fifoStsValid && regRead &&& fifoStsExpect == 0)
    20 h (some regRead) h'

variable {tpm : ExternalTpm} {locality : Locality} {h h' : List Event}

/-- `FifoReadBurstCount` returns what is announced. -/
theorem BurstCount.run {value : Option (BitVec 16)} (hburst : BurstCount tpm locality h value h') :
    h' = h ++ ((fifoReadBurstCount locality).run tpm h).2 ∧
      (∀ v, value = some v →
        ((fifoReadBurstCount locality).run tpm h).1 = (EfiStatus.success, v)) ∧
      (value = none → ((fifoReadBurstCount locality).run tpm h).1.1.isError = true) :=
  Polls.run hburst (by decide) (by decide)

/-- A burst that is announced is not empty. -/
theorem burstCount_pos {count : BitVec 16} (h : (count != 0) = true) : 0 < count.toNat := by
  have hne : count ≠ 0 := by simpa using h
  refine Nat.pos_of_ne_zero fun hzero => hne ?_
  exact BitVec.eq_of_toNat_eq hzero

/-- The last wait of a transfer. -/
theorem waitStatus_success_iff (tpm : ExternalTpm) (locality : Locality) (h : List Event) :
    ((waitRegisterBits false locality .fifoStatus fifoStsValid fifoStsExpect ptpTimeoutC).run tpm
        h).1 = EfiStatus.success ↔ ReportsComplete tpm locality h := by
  have hrun : ∀ {value : Option (BitVec 32)} {h' : List Event},
      Polls tpm (pollRegister false locality .fifoStatus)
        (fun regRead => regRead &&& fifoStsValid == fifoStsValid &&
          regRead &&& fifoStsExpect == 0) 20 h value h' →
      (value ≠ none ↔ ((waitRegisterBits false locality .fifoStatus fifoStsValid fifoStsExpect
        ptpTimeoutC).run tpm h).1 = EfiStatus.success) := by
    intro value h' hpolls
    obtain ⟨-, hsome, hnone⟩ := @Polls.run _ _ _ _ _ _ _ _ _ hpolls ptpTimeoutC 0
      (pollFuel ptpTimeoutC) (by decide) (by decide)
    unfold waitRegisterBits
    rw [Traced.run_bind]
    cases value with
    | none =>
      refine iff_of_false (fun hne => hne rfl) fun hsuccess => ?_
      have herror := hnone rfl
      have hstatus : ((pollLoop _ _ _ _ _).run tpm h).1.1 = EfiStatus.success := hsuccess
      rw [hstatus] at herror
      exact absurd herror (by decide)
    | some v => exact iff_of_true (by simp) (congrArg Prod.fst (hsome v rfl))
  obtain ⟨value, h', hpolls⟩ := exists_polls tpm (pollRegister false locality .fifoStatus)
    (fun regRead => regRead &&& fifoStsValid == fifoStsValid && regRead &&& fifoStsExpect == 0)
    20 h
  constructor
  · intro hsuccess
    cases value with
    | none => exact absurd rfl ((hrun hpolls).2 hsuccess)
    | some v => exact ⟨v, h', hpolls⟩
  · rintro ⟨v, h'', hcomplete⟩
    exact (hrun hcomplete).1 (by simp)

end Tpm
end FfaFeature
