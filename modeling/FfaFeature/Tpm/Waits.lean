/-
# How long a wait takes, and how it ends

`WaitRegisterBits` and `FifoReadBurstCount` poll a register, and between two polls give up the
processor for `YIELD_AMOUNT`.  `DelayAmount` adds up the yields, and the poll that finds it at
the timeout is the last one.

`loopHead` is the loop before its poll `k`: `DelayAmount`, and what has happened.  The loop
passes through these heads while nothing ends it (`pollLoop_head`), `DelayAmount` is the true
sum of the yields at each (`loopHead_delayAmount`), and the first of them at which the poll
shows what is waited for, the yield fails or the time is up decides the status
(`pollLoop_waits`).  So a wait takes `⌈Timeout / YIELD_AMOUNT⌉` yields at most and one poll more,
whatever the TPM does (`waits_end`).
-/

import FfaFeature.Tpm.Polling

namespace FfaFeature
namespace Tpm

/-- `⌈Timeout / YIELD_AMOUNT⌉`. -/
def yieldLimit (timeout : BitVec 32) : ℕ :=
  (timeout.toNat + yieldAmount.toNat - 1) / yieldAmount.toNat

/-- The event is a yield. -/
def Event.isYield : Event → Bool
  | .yield _ => true
  | _ => false

/-- The event is a read of the register. -/
def Event.reads (register : ExternalRegister) : Event → Bool
  | .mmioRead _ r _ => r = register
  | _ => false

section Head

variable {α : Type} (tpm : ExternalTpm) (poll : TpmIo α) (h : List Event)

/-- The loop before its poll `k`, where nothing has ended it: `DelayAmount`, and what has
happened. -/
def loopHead : ℕ → BitVec 32 × List Event
  | 0 => (0, h)
  | k + 1 =>
    ((loopHead k).1 + yieldAmount, afterYield tpm (afterPoll tpm poll (loopHead k).2))

/-- The value polled there. -/
def polled (k : ℕ) : α := (poll.run tpm (loopHead tpm poll h k).2).1

/-- What the yield after that poll returns. -/
def yielded (k : ℕ) : EfiStatus := tpm.yield (afterPoll tpm poll (loopHead tpm poll h k).2)

variable (done : α → Bool)

/-- The poll `k` shows what is waited for, and no yield before it fails. -/
def ShowsAt (k : ℕ) : Prop :=
  done (polled tpm poll h k) = true ∧ ∀ j < k, (yielded tpm poll h j).isError = false

/-- The yield `k` fails, and nothing before it has ended the wait. -/
def FailsAt (k : ℕ) : Prop :=
  (yielded tpm poll h k).isError = true ∧ (∀ j < k, (yielded tpm poll h j).isError = false) ∧
    ∀ j ≤ k, done (polled tpm poll h j) = false

/-- **How a wait ends** that makes `limit` yields at most: with success where one of its polls
shows what it waits for before any yield fails, with the error of the yield where one fails
first, and else, the last poll being made after the last yield, with a timeout.  A yield that
fails may return `EFI_TIMEOUT` itself. -/
structure EndsWith (limit : ℕ) (status : EfiStatus) : Prop where
  success_iff : status = EfiStatus.success ↔ ∃ k ≤ limit, ShowsAt tpm poll h done k
  failure_iff : ∀ error : EfiStatus, error.isError = true → error ≠ EfiStatus.timeout →
    (status = error ↔ ∃ k < limit, FailsAt tpm poll h done k ∧ yielded tpm poll h k = error)
  timeout_iff : status = EfiStatus.timeout ↔
    (∃ k < limit, FailsAt tpm poll h done k ∧ yielded tpm poll h k = EfiStatus.timeout) ∨
      (∀ k ≤ limit, ¬ ShowsAt tpm poll h done k) ∧ ∀ k < limit, ¬ FailsAt tpm poll h done k

/-- **A wait for `done` that polls `register`**: its end and its length, as the status and the
new events have them. -/
structure Waits [Inhabited α] (timeout : BitVec 32) (register : ExternalRegister)
    (status : EfiStatus) (events : List Event) : Prop
    extends EndsWith tpm poll h done (yieldLimit timeout) status where
  polls : events.countP (Event.reads register) ≤ yieldLimit timeout + 1
  yields : events.countP Event.isYield ≤ yieldLimit timeout
  noWrap : ∀ k < yieldLimit timeout,
    (loopHead tpm poll h k).1.toNat + yieldAmount.toNat < 2 ^ 32
  /-- More turns than the polls need change nothing. -/
  terminates : ∀ fuel > yieldLimit timeout,
    pollLoop poll done timeout fuel 0 = pollLoop poll done timeout (pollFuel timeout) 0

end Head

/-! ### The counter -/

/-- The yields before the limit stay below the timeout, and the limit reaches it. -/
theorem yieldLimit_spec (timeout : BitVec 32) :
    (∀ k < yieldLimit timeout, k * yieldAmount.toNat < timeout.toNat) ∧
      timeout.toNat ≤ yieldLimit timeout * yieldAmount.toNat ∧
      yieldLimit timeout * yieldAmount.toNat < timeout.toNat + yieldAmount.toNat := by
  have hyield : yieldAmount.toNat = 10000 := rfl
  unfold yieldLimit
  rw [hyield]
  refine ⟨fun k hk => ?_, ?_, ?_⟩ <;> omega

section Head

variable {α : Type} {tpm : ExternalTpm} {poll : TpmIo α} {h : List Event}

/-- **`DelayAmount` is the sum of the yields** as long as this fits. -/
theorem loopHead_delayAmount {k : ℕ} (hk : k * yieldAmount.toNat < 2 ^ 32) :
    (loopHead tpm poll h k).1.toNat = k * yieldAmount.toNat := by
  induction k with
  | zero => rw [Nat.zero_mul]; rfl
  | succ k ih =>
    rw [Nat.succ_mul] at hk ⊢
    have hprev := ih (by omega)
    rw [loopHead]
    dsimp only
    rw [BitVec.toNat_add, hprev, Nat.mod_eq_of_lt hk]

/-- The additions before the limit do not run over. -/
theorem loopHead_noWrap {timeout : BitVec 32}
    (hbound : timeout.toNat + yieldAmount.toNat < 2 ^ 32) {k : ℕ} (hk : k < yieldLimit timeout) :
    (loopHead tpm poll h k).1.toNat + yieldAmount.toNat < 2 ^ 32 := by
  have hbefore := (yieldLimit_spec timeout).1 k hk
  rw [loopHead_delayAmount (by omega)]
  omega

/-- So the loop goes on exactly before the limit. -/
theorem timeout_le_loopHead {timeout : BitVec 32}
    (hbound : timeout.toNat + yieldAmount.toNat < 2 ^ 32) {k : ℕ} (hk : k ≤ yieldLimit timeout) :
    timeout ≤ (loopHead tpm poll h k).1 ↔ k = yieldLimit timeout := by
  obtain ⟨hbefore, hreached, hnear⟩ := yieldLimit_spec timeout
  have hle : k * yieldAmount.toNat ≤ yieldLimit timeout * yieldAmount.toNat :=
    Nat.mul_le_mul_right _ hk
  rw [BitVec.le_def, loopHead_delayAmount (by omega)]
  constructor
  · intro htimeout
    by_contra hne
    have := hbefore k (by omega)
    omega
  · rintro rfl
    exact hreached

/-! ### Counting events -/

/-- What a poll of `register` emits: one read of it, and no yield. -/
def PollsOnce (poll : TpmIo α) (register : ExternalRegister) : Prop :=
  ∀ tpm h, (poll.run tpm h).2.countP (Event.reads register) = 1 ∧
    (poll.run tpm h).2.countP Event.isYield = 0

/-- A poll adds one read and no yield. -/
theorem PollsOnce.afterPoll {register : ExternalRegister} (hpoll : PollsOnce poll register)
    (tpm : ExternalTpm) (h : List Event) :
    (afterPoll tpm poll h).countP (Event.reads register) = h.countP (Event.reads register) + 1 ∧
      (afterPoll tpm poll h).countP Event.isYield = h.countP Event.isYield := by
  obtain ⟨hreads, hyields⟩ := hpoll tpm h
  unfold Tpm.afterPoll
  rw [List.countP_append, List.countP_append, hreads, hyields]
  exact ⟨rfl, rfl⟩

/-- A yield adds no read. -/
theorem countP_afterYield (tpm : ExternalTpm) (register : ExternalRegister) (h : List Event) :
    (afterYield tpm h).countP (Event.reads register) = h.countP (Event.reads register) ∧
      (afterYield tpm h).countP Event.isYield = h.countP Event.isYield + 1 := by
  unfold afterYield
  rw [List.countP_append, List.countP_append]
  exact ⟨rfl, rfl⟩

/-- Before the poll `k` there were `k` polls and `k` yields. -/
theorem PollsOnce.loopHead {register : ExternalRegister} (hpoll : PollsOnce poll register)
    (tpm : ExternalTpm) (h : List Event) (k : ℕ) :
    (loopHead tpm poll h k).2.countP (Event.reads register) =
        h.countP (Event.reads register) + k ∧
      (loopHead tpm poll h k).2.countP Event.isYield = h.countP Event.isYield + k := by
  induction k with
  | zero => exact ⟨rfl, rfl⟩
  | succ k ih =>
    obtain ⟨hreads, hyields⟩ := ih
    obtain ⟨hreads', hyields'⟩ := hpoll.afterPoll tpm (Tpm.loopHead tpm poll h k).2
    obtain ⟨hreads'', hyields''⟩ :=
      countP_afterYield tpm register (Tpm.afterPoll tpm poll (Tpm.loopHead tpm poll h k).2)
    rw [Tpm.loopHead]
    dsimp only
    omega

/-- So a wait that ends with the poll `k`, or with the yield after it, has made one poll more
than `k`. -/
theorem PollsOnce.counts {register : ExternalRegister} (hpoll : PollsOnce poll register)
    {tpm : ExternalTpm} {h events : List Event} {k : ℕ} :
    (h ++ events = Tpm.afterPoll tpm poll (Tpm.loopHead tpm poll h k).2 →
        events.countP (Event.reads register) = k + 1 ∧ events.countP Event.isYield = k) ∧
      (h ++ events = afterYield tpm (Tpm.afterPoll tpm poll (Tpm.loopHead tpm poll h k).2) →
        events.countP (Event.reads register) = k + 1 ∧ events.countP Event.isYield = k + 1) := by
  obtain ⟨hreads, hyields⟩ := hpoll.loopHead tpm h k
  obtain ⟨hreads', hyields'⟩ := hpoll.afterPoll tpm (Tpm.loopHead tpm poll h k).2
  obtain ⟨hreads'', hyields''⟩ :=
    countP_afterYield tpm register (Tpm.afterPoll tpm poll (Tpm.loopHead tpm poll h k).2)
  have hsum (p : Event → Bool) : (h ++ events).countP p = h.countP p + events.countP p :=
    List.countP_append
  have hreadsSum := hsum (Event.reads register)
  have hyieldsSum := hsum Event.isYield
  constructor
  · intro hevents
    rw [hevents] at hreadsSum hyieldsSum
    omega
  · intro hevents
    rw [hevents] at hreadsSum hyieldsSum
    omega

/-! ### How the wait ends -/

variable {done : α → Bool}

/-- Nothing ends the wait before its poll `k`. -/
def Undecided (tpm : ExternalTpm) (poll : TpmIo α) (h : List Event) (done : α → Bool) (k : ℕ) :
    Prop :=
  ∀ j < k, done (polled tpm poll h j) = false ∧ (yielded tpm poll h j).isError = false

/-- Some turn up to the limit ends the wait, or the limit is reached. -/
theorem exists_turn (tpm : ExternalTpm) (poll : TpmIo α) (h : List Event) (done : α → Bool)
    (limit : ℕ) :
    ∃ k ≤ limit, Undecided tpm poll h done k ∧
      (done (polled tpm poll h k) = true ∨
        done (polled tpm poll h k) = false ∧
          (k = limit ∨ k < limit ∧ (yielded tpm poll h k).isError = true)) := by
  have hlast : ∀ k, done (polled tpm poll h k) = true ∨
      done (polled tpm poll h k) = false ∧
        (k = k ∨ k < k ∧ (yielded tpm poll h k).isError = true) := fun k =>
    (Bool.eq_false_or_eq_true _).imp_right fun hdone => ⟨hdone, .inl rfl⟩
  induction limit with
  | zero => exact ⟨0, le_rfl, fun j hj => absurd hj (Nat.not_lt_zero j), hlast 0⟩
  | succ limit ih =>
    obtain ⟨k, hk, hopen, hdone | ⟨hdone, rfl | ⟨hlt, hfails⟩⟩⟩ := ih
    · exact ⟨k, by omega, hopen, .inl hdone⟩
    · -- the old limit decides only if its yield fails
      cases hyield : (yielded tpm poll h k).isError with
      | true => exact ⟨k, by omega, hopen, .inr ⟨hdone, .inr ⟨by omega, hyield⟩⟩⟩
      | false =>
        refine ⟨k + 1, le_rfl, fun j hj => ?_, hlast (k + 1)⟩
        rcases Nat.lt_succ_iff_lt_or_eq.1 hj with hj | rfl
        · exact hopen j hj
        · exact ⟨hdone, hyield⟩
    · exact ⟨k, by omega, hopen, .inr ⟨hdone, .inr ⟨by omega, hfails⟩⟩⟩

/-- What is shown before any yield fails leaves no yield to fail first. -/
theorem ShowsAt.not_failsAt {k k' : ℕ} (hshows : ShowsAt tpm poll h done k) :
    ¬ FailsAt tpm poll h done k' := by
  rintro ⟨herror, -, hdone⟩
  rcases Nat.lt_or_ge k' k with hlt | hle
  · rw [hshows.2 k' hlt] at herror
    cases herror
  · have := hdone k hle
    rw [hshows.1] at this
    cases this

/-- One yield fails first. -/
theorem FailsAt.unique {k k' : ℕ} (hfails : FailsAt tpm poll h done k)
    (hfails' : FailsAt tpm poll h done k') : k = k' := by
  rcases lt_trichotomy k k' with hlt | heq | hlt
  · have := hfails'.2.1 k hlt
    rw [hfails.1] at this
    cases this
  · exact heq
  · have := hfails.2.1 k' hlt
    rw [hfails'.1] at this
    cases this

/-- A wait that is shown what it waits for succeeds. -/
theorem ShowsAt.endsWith {limit k : ℕ} (hshows : ShowsAt tpm poll h done k) (hk : k ≤ limit) :
    EndsWith tpm poll h done limit EfiStatus.success where
  success_iff := iff_of_true rfl ⟨k, hk, hshows⟩
  failure_iff error herror _ := by
    refine iff_of_false ?_ ?_
    · rintro rfl
      cases herror
    · rintro ⟨k', -, hfails, -⟩
      exact hshows.not_failsAt hfails
  timeout_iff := by
    refine iff_of_false (by decide) ?_
    rintro (⟨k', -, hfails, -⟩ | ⟨hnone, -⟩)
    · exact hshows.not_failsAt hfails
    · exact hnone k hk hshows

/-- One whose yield fails ends with its error. -/
theorem FailsAt.endsWith {limit k : ℕ} (hfails : FailsAt tpm poll h done k) (hk : k < limit) :
    EndsWith tpm poll h done limit (yielded tpm poll h k) where
  success_iff := by
    refine iff_of_false (fun hsuccess => ?_) ?_
    · have herror := hfails.1
      rw [hsuccess] at herror
      cases herror
    · rintro ⟨k', -, hshows⟩
      exact hshows.not_failsAt hfails
  failure_iff error _ _ := by
    refine ⟨fun heq => ⟨k, hk, hfails, heq⟩, ?_⟩
    rintro ⟨k', -, hfails', heq⟩
    rw [hfails.unique hfails', heq]
  timeout_iff := by
    refine ⟨fun heq => .inl ⟨k, hk, hfails, heq⟩, ?_⟩
    rintro (⟨k', -, hfails', heq⟩ | ⟨-, hnone⟩)
    · rw [hfails.unique hfails', heq]
    · exact absurd hfails (hnone k hk)

/-- Otherwise it times out. -/
theorem endsWith_timeout {limit : ℕ} (hshows : ∀ k ≤ limit, ¬ ShowsAt tpm poll h done k)
    (hfails : ∀ k < limit, ¬ FailsAt tpm poll h done k) :
    EndsWith tpm poll h done limit EfiStatus.timeout where
  success_iff := by
    refine iff_of_false (by decide) ?_
    rintro ⟨k, hk, hshow⟩
    exact hshows k hk hshow
  failure_iff error _ hne := by
    refine iff_of_false hne.symm ?_
    rintro ⟨k, hk, hfail, -⟩
    exact hfails k hk hfail
  timeout_iff := iff_of_true rfl (.inr ⟨hshows, hfails⟩)

/-! ### The loop -/

variable [Inhabited α]

/-- **While nothing ends it, the loop passes from head to head.** -/
theorem pollLoop_head {timeout : BitVec 32}
    (hbound : timeout.toNat + yieldAmount.toNat < 2 ^ 32) {k : ℕ} (hk : k ≤ yieldLimit timeout)
    (hopen : Undecided tpm poll h done k) (fuel : ℕ) :
    ((pollLoop poll done timeout (fuel + k) 0).run tpm h).1 =
        ((pollLoop poll done timeout fuel (loopHead tpm poll h k).1).run tpm
          (loopHead tpm poll h k).2).1 ∧
      h ++ ((pollLoop poll done timeout (fuel + k) 0).run tpm h).2 =
        (loopHead tpm poll h k).2 ++
          ((pollLoop poll done timeout fuel (loopHead tpm poll h k).1).run tpm
            (loopHead tpm poll h k).2).2 := by
  induction k generalizing fuel with
  | zero => exact ⟨rfl, rfl⟩
  | succ k ih =>
    obtain ⟨hresult, hevents⟩ := ih (by omega) (fun j hj => hopen j (by omega)) (fuel + 1)
    obtain ⟨hdone, hyield⟩ := hopen k (by omega)
    have htimeout : ¬ timeout ≤ (loopHead tpm poll h k).1 := by
      rw [timeout_le_loopHead hbound (by omega)]
      omega
    have hturn := pollLoop_run tpm poll done timeout fuel (loopHead tpm poll h k).1
      (loopHead tpm poll h k).2
    rw [if_neg (by simpa [polled] using hdone), if_neg htimeout] at hturn
    dsimp only at hturn
    rw [if_neg (by simpa [yielded] using hyield)] at hturn
    rw [show fuel + (k + 1) = fuel + 1 + k by omega, hresult, hevents, hturn, loopHead]
    refine ⟨rfl, ?_⟩
    simp only [afterYield, afterPoll, List.append_assoc]

/-- More turns than the limit and one change nothing. -/
theorem pollLoop_limit (poll : TpmIo α) (done : α → Bool) {timeout : BitVec 32}
    (hbound : timeout.toNat + yieldAmount.toNat < 2 ^ 32) {fuel : ℕ}
    (hfuel : yieldLimit timeout < fuel) :
    pollLoop poll done timeout fuel 0 = pollLoop poll done timeout (yieldLimit timeout + 1) 0 := by
  obtain ⟨-, hreached, -⟩ := yieldLimit_spec timeout
  have hzero : (0 : BitVec 32).toNat = 0 := rfl
  obtain ⟨turns, rfl⟩ : ∃ turns, fuel = turns + 1 := ⟨fuel - 1, by omega⟩
  have hle : yieldLimit timeout * yieldAmount.toNat ≤ turns * yieldAmount.toNat :=
    Nat.mul_le_mul_right _ (by omega)
  refine pollLoop_fuel poll done hbound ?_ ?_
  · rw [hzero]
    omega
  · rw [hzero]
    omega

/-- There is fuel for every turn. -/
theorem yieldLimit_lt_pollFuel (timeout : BitVec 32) :
    yieldLimit timeout < pollFuel timeout := by
  have hyield : yieldAmount.toNat = 10000 := rfl
  unfold yieldLimit pollFuel
  rw [hyield]
  omega

/-- **The turn that ends the wait.** -/
theorem pollLoop_turn {timeout : BitVec 32}
    (hbound : timeout.toNat + yieldAmount.toNat < 2 ^ 32) {k : ℕ} (hk : k ≤ yieldLimit timeout)
    (hopen : Undecided tpm poll h done k) {result : EfiStatus × α} {events : List Event}
    (hrun : (pollLoop poll done timeout (pollFuel timeout) 0).run tpm h = (result, events)) :
    (done (polled tpm poll h k) = true →
        result = (EfiStatus.success, polled tpm poll h k) ∧
          h ++ events = afterPoll tpm poll (loopHead tpm poll h k).2) ∧
      (done (polled tpm poll h k) = false → k = yieldLimit timeout →
        result = (EfiStatus.timeout, polled tpm poll h k) ∧
          h ++ events = afterPoll tpm poll (loopHead tpm poll h k).2) ∧
      (done (polled tpm poll h k) = false → k < yieldLimit timeout →
        (yielded tpm poll h k).isError = true →
        result = (yielded tpm poll h k, polled tpm poll h k) ∧
          h ++ events = afterYield tpm (afterPoll tpm poll (loopHead tpm poll h k).2)) := by
  obtain ⟨fuel, hfuel⟩ : ∃ fuel, yieldLimit timeout + 1 = fuel + 1 + k :=
    ⟨yieldLimit timeout - k, by omega⟩
  rw [pollLoop_limit poll done hbound (yieldLimit_lt_pollFuel timeout), hfuel] at hrun
  obtain ⟨hresult, hevents⟩ := pollLoop_head hbound hk hopen (fuel + 1)
  rw [hrun, pollLoop_run] at hresult hevents
  dsimp only at hresult hevents
  have htimeout := @timeout_le_loopHead _ tpm poll h timeout hbound k hk
  unfold polled yielded
  refine ⟨fun hdone => ?_, fun hdone hlast => ?_, fun hdone hlt hfails => ?_⟩
  · rw [if_pos hdone] at hresult hevents
    exact ⟨hresult, hevents⟩
  · rw [if_neg (by simp [hdone]), if_pos (htimeout.2 hlast)] at hresult hevents
    exact ⟨hresult, hevents⟩
  · rw [if_neg (by simp [hdone]), if_neg (by rw [htimeout]; omega), if_pos hfails]
      at hresult hevents
    refine ⟨hresult, ?_⟩
    rw [hevents, afterYield, afterPoll, List.append_assoc]

/-- **The loop is a wait.** -/
theorem pollLoop_waits {timeout : BitVec 32}
    (hbound : timeout.toNat + yieldAmount.toNat < 2 ^ 32) {register : ExternalRegister}
    (hpoll : PollsOnce poll register) (tpm : ExternalTpm) (h : List Event) (done : α → Bool) :
    Waits tpm poll h done timeout register
      ((pollLoop poll done timeout (pollFuel timeout) 0).run tpm h).1.1
      ((pollLoop poll done timeout (pollFuel timeout) 0).run tpm h).2 := by
  obtain ⟨k, hk, hopen, hend⟩ := exists_turn tpm poll h done (yieldLimit timeout)
  obtain ⟨result, events, hrun⟩ : ∃ result events,
      (pollLoop poll done timeout (pollFuel timeout) 0).run tpm h = (result, events) :=
    ⟨_, _, rfl⟩
  obtain ⟨hshown, hlate, hfailed⟩ := pollLoop_turn hbound hk hopen hrun
  have hterminates : ∀ fuel > yieldLimit timeout,
      pollLoop poll done timeout fuel 0 = pollLoop poll done timeout (pollFuel timeout) 0 := by
    intro fuel hfuel
    rw [pollLoop_limit poll done hbound hfuel,
      pollLoop_limit poll done hbound (yieldLimit_lt_pollFuel timeout)]
  rw [hrun]
  rcases hend with hdone | ⟨hdone, rfl | ⟨hlt, herror⟩⟩
  · obtain ⟨rfl, hevents⟩ := hshown hdone
    obtain ⟨hpolls, hyields⟩ := hpoll.counts.1 hevents
    have hshows : ShowsAt tpm poll h done k := ⟨hdone, fun j hj => (hopen j hj).2⟩
    exact ⟨hshows.endsWith hk, hpolls ▸ Nat.succ_le_succ hk, hyields ▸ hk,
      fun _ => loopHead_noWrap hbound, hterminates⟩
  · obtain ⟨rfl, hevents⟩ := hlate hdone rfl
    obtain ⟨hpolls, hyields⟩ := hpoll.counts.1 hevents
    refine ⟨endsWith_timeout (fun j hj hshows => ?_) (fun j hj hfails => ?_), hpolls.le,
      hyields.le, fun _ => loopHead_noWrap hbound, hterminates⟩
    · rcases Nat.lt_or_eq_of_le hj with hlt | rfl
      · have hnot := (hopen j hlt).1
        rw [hshows.1] at hnot
        cases hnot
      · rw [hshows.1] at hdone
        cases hdone
    · have hnot := (hopen j hj).2
      rw [hfails.1] at hnot
      cases hnot
  · obtain ⟨rfl, hevents⟩ := hfailed hdone hlt herror
    obtain ⟨hpolls, hyields⟩ := hpoll.counts.2 hevents
    have hfails : FailsAt tpm poll h done k := by
      refine ⟨herror, fun j hj => (hopen j hj).2, fun j hj => ?_⟩
      rcases Nat.lt_or_eq_of_le hj with hlt | rfl
      · exact (hopen j hlt).1
      · exact hdone
    exact ⟨hfails.endsWith hlt, hpolls ▸ Nat.succ_le_succ hk, hyields ▸ hlt,
      fun _ => loopHead_noWrap hbound, hterminates⟩

end Head

/-! ### The two waits -/

/-- `WaitRegisterBits` polls its register once a turn. -/
theorem pollRegister_pollsOnce (mIsCrbInterface : Bool) (locality : Locality)
    (register : ExternalRegister) :
    PollsOnce (pollRegister mIsCrbInterface locality register) register := by
  intro tpm h
  cases mIsCrbInterface with
  | false => exact ⟨by simp [pollRegister, mmioRead8, Event.reads],
      by simp [pollRegister, mmioRead8, Event.isYield]⟩
  | true => exact ⟨by simp [pollRegister, mmioRead32, Event.reads],
      by simp [pollRegister, mmioRead32, Event.isYield]⟩

/-- `FifoReadBurstCount` polls the burst count once a turn. -/
theorem pollBurstCount_pollsOnce (locality : Locality) :
    PollsOnce (pollBurstCount locality) .fifoBurstCount := by
  intro tpm h
  exact ⟨by simp [pollBurstCount, mmioRead8, Event.reads],
    by simp [pollBurstCount, mmioRead8, Event.isYield]⟩

/-- **A wait takes `⌈Timeout / YIELD_AMOUNT⌉` yields at most and one poll more**, and ends with
the first poll that shows what is waited for, with the first yield that fails, or with the
timeout.  For every TPM after any history; for `WaitRegisterBits` with every register, every
mask and every timeout that leaves room for one `YIELD_AMOUNT` in 32 bits, and for
`FifoReadBurstCount`. -/
theorem waits_end (tpm : ExternalTpm) (locality : Locality) (h : List Event) :
    (∀ (mIsCrbInterface : Bool) (register : ExternalRegister)
        (bitSet bitClear timeout : BitVec 32), timeout.toNat ≤ 2 ^ 32 - 1 - yieldAmount.toNat →
      Waits tpm (pollRegister mIsCrbInterface locality register) h
        (fun regRead => regRead &&& bitSet == bitSet && regRead &&& bitClear == 0) timeout register
        ((waitRegisterBits mIsCrbInterface locality register bitSet bitClear timeout).run tpm h).1
        ((waitRegisterBits mIsCrbInterface locality register bitSet bitClear timeout).run tpm
          h).2) ∧
      Waits tpm (pollBurstCount locality) h (fun burstCount => burstCount != 0) ptpTimeoutD
        .fifoBurstCount ((fifoReadBurstCount locality).run tpm h).1.1
        ((fifoReadBurstCount locality).run tpm h).2 := by
  refine ⟨fun mIsCrbInterface register bitSet bitClear timeout htimeout => ?_, ?_⟩
  · have hyield : yieldAmount.toNat = 10000 := rfl
    unfold waitRegisterBits
    rw [Traced.run_bind, Traced.run_pure, List.append_nil]
    refine pollLoop_waits ?_ (pollRegister_pollsOnce mIsCrbInterface locality register) tpm h _
    omega
  · exact pollLoop_waits (by decide) (pollBurstCount_pollsOnce locality) tpm h _

/-- The longest timeout of the library leaves that room, and takes 9000 yields. -/
example : ptpTimeoutMax.toNat ≤ 2 ^ 32 - 1 - yieldAmount.toNat ∧
    yieldLimit ptpTimeoutMax = 9000 := by decide

end Tpm
end FfaFeature
