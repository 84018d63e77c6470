/-
# The timer

`ArmArchTimerLibEx.c`.  `GetTimeInNanoSecond` turns ticks into nanoseconds by dividing the ticks
by the frequency first and scaling the quotient and the remainder apart, so that no product is
larger than what comes out: the two floors add up to the one floor (`mul_div_split`), and the
time is exact wherever it fits in 64 bits (`getTimeInNanoSecond_exact`); beyond that it is exact
modulo 2^64 (`getTimeInNanoSecond_toNat`).

`MicroSecondDelay`, with which the waits of the TPM service begin, counts as many turns of a loop
as the timer would count ticks (`microSecondDelay_turns`).  `NanoSecondDelay` rounds up to the
microsecond, so that no delay is shorter than asked for (`nanoSecondDelay_turns`).

The 64-bit multiplication and division are those of `BaseLib`, and the frequency is what
`ArmGenericTimerGetTimerFreq` returns.
-/

import Mathlib.Tactic.Common
import Mathlib.Data.BitVec

namespace FfaFeature
namespace Timer

/-- The functions of `BaseLib` the library calls, exact on 64-bit numbers. -/
structure BaseLib where
  multU64x64 : BitVec 64 → BitVec 64 → BitVec 64
  divU64x64Remainder : BitVec 64 → BitVec 64 → BitVec 64 × BitVec 64
  divU64x32 : BitVec 64 → BitVec 32 → BitVec 64
  multU64x64_eq : ∀ a b, multU64x64 a b = a * b
  divU64x64Remainder_eq : ∀ a b, b ≠ 0 → divU64x64Remainder a b = (a / b, a % b)
  divU64x32_eq : ∀ a b, b ≠ 0 → divU64x32 a b = a / b.setWidth 64

/-- The multiplication and division of the machine. -/
def BaseLib.standard : BaseLib where
  multU64x64 a b := a * b
  divU64x64Remainder a b := (a / b, a % b)
  divU64x32 a b := a / b.setWidth 64
  multU64x64_eq _ _ := rfl
  divU64x64Remainder_eq _ _ _ := rfl
  divU64x32_eq _ _ _ := rfl

variable (lib : BaseLib) (timerFreq : BitVec 64)

/-- `Ticks / TimerFreq` and `Remainder`. -/
def divideTicks (ticks : BitVec 64) : BitVec 64 × BitVec 64 :=
  lib.divU64x64Remainder ticks timerFreq

/-- The first value of `NanoSeconds`: the quotient scaled. -/
def quotientNanoSeconds (ticks : BitVec 64) : BitVec 64 :=
  lib.multU64x64 (divideTicks lib timerFreq ticks).1 1000000000

/-- What is added to it: the remainder scaled, and divided again. -/
def remainderNanoSeconds (ticks : BitVec 64) : BitVec 64 :=
  (lib.divU64x64Remainder (lib.multU64x64 (divideTicks lib timerFreq ticks).2 1000000000)
    timerFreq).1

/-- `GetTimeInNanoSecond`, where `GetPlatformTimerFreq` returns `timerFreq`. -/
def getTimeInNanoSecond (ticks : BitVec 64) : BitVec 64 :=
  quotientNanoSeconds lib timerFreq ticks + remainderNanoSeconds lib timerFreq ticks

/-- **No product and no sum of `GetTimeInNanoSecond` wraps.** -/
structure NoWrap (ticks : BitVec 64) : Prop where
  quotient : (divideTicks lib timerFreq ticks).1.toNat * 1000000000 < 2 ^ 64
  remainder : (divideTicks lib timerFreq ticks).2.toNat * 1000000000 < 2 ^ 64
  sum : (quotientNanoSeconds lib timerFreq ticks).toNat +
    (remainderNanoSeconds lib timerFreq ticks).toNat < 2 ^ 64

/-- The nanoseconds that so many ticks take, rounded down. -/
def elapsedNanoSeconds (ticks : BitVec 64) : ℕ := ticks.toNat * 1000000000 / timerFreq.toNat

/-! ### Scaling the quotient and the remainder apart -/

/-- The floor of a product with a quotient is that of the quotient and that of the remainder. -/
theorem mul_div_split {f : ℕ} (hf : 0 < f) (t c : ℕ) :
    t * c / f = t / f * c + t % f * c / f := by
  conv_lhs => rw [← Nat.div_add_mod t f, Nat.add_mul, Nat.mul_assoc]
  exact Nat.mul_add_div hf _ _

variable {lib timerFreq}

section Exact

/-- A frequency that is not zero is positive. -/
theorem toNat_pos (hpos : timerFreq ≠ 0) : 0 < timerFreq.toNat :=
  Nat.pos_of_ne_zero fun hzero => hpos (BitVec.eq_of_toNat_eq hzero)

/-- Quotient and remainder of the ticks by the frequency. -/
theorem divideTicks_toNat (hpos : timerFreq ≠ 0) (ticks : BitVec 64) :
    (divideTicks lib timerFreq ticks).1.toNat = ticks.toNat / timerFreq.toNat ∧
      (divideTicks lib timerFreq ticks).2.toNat = ticks.toNat % timerFreq.toNat := by
  rw [divideTicks, lib.divU64x64Remainder_eq _ _ hpos]
  exact ⟨BitVec.toNat_udiv, BitVec.toNat_umod⟩

/-- The nanoseconds of the whole seconds, modulo 2^64. -/
theorem quotientNanoSeconds_toNat (hpos : timerFreq ≠ 0) (ticks : BitVec 64) :
    (quotientNanoSeconds lib timerFreq ticks).toNat =
      ticks.toNat / timerFreq.toNat * 1000000000 % 2 ^ 64 := by
  rw [quotientNanoSeconds, lib.multU64x64_eq, BitVec.toNat_mul, (divideTicks_toNat hpos ticks).1]
  rfl

/-- The frequency is below 2^32, so the scaled remainder is below 2^62. -/
theorem scaled_remainder_lt (hpos : timerFreq ≠ 0) (hfreq : timerFreq.toNat < 2 ^ 32)
    (ticks : BitVec 64) : ticks.toNat % timerFreq.toNat * 1000000000 < 2 ^ 64 := by
  have hlt : ticks.toNat % timerFreq.toNat < timerFreq.toNat := Nat.mod_lt _ (toNat_pos hpos)
  omega

/-- Those of the rest, which do not wrap. -/
theorem remainderNanoSeconds_toNat (hpos : timerFreq ≠ 0) (hfreq : timerFreq.toNat < 2 ^ 32)
    (ticks : BitVec 64) :
    (remainderNanoSeconds lib timerFreq ticks).toNat =
      ticks.toNat % timerFreq.toNat * 1000000000 / timerFreq.toNat := by
  have hscale : (1000000000 : BitVec 64).toNat = 1000000000 := rfl
  rw [remainderNanoSeconds, lib.divU64x64Remainder_eq _ _ hpos, lib.multU64x64_eq,
    BitVec.toNat_udiv, BitVec.toNat_mul, (divideTicks_toNat hpos ticks).2, hscale,
    Nat.mod_eq_of_lt (scaled_remainder_lt hpos hfreq ticks)]

/-- **The time is exact modulo 2^64**, for all ticks. -/
theorem getTimeInNanoSecond_toNat (hpos : timerFreq ≠ 0) (hfreq : timerFreq.toNat < 2 ^ 32)
    (ticks : BitVec 64) :
    (getTimeInNanoSecond lib timerFreq ticks).toNat =
      elapsedNanoSeconds timerFreq ticks % 2 ^ 64 := by
  rw [getTimeInNanoSecond, BitVec.toNat_add, quotientNanoSeconds_toNat hpos,
    remainderNanoSeconds_toNat hpos hfreq, Nat.mod_add_mod, ← mul_div_split (toNat_pos hpos)]
  rfl

/-- More ticks take no less time. -/
theorem elapsedNanoSeconds_mono {ticks ticks' : BitVec 64} (h : ticks'.toNat ≤ ticks.toNat) :
    elapsedNanoSeconds timerFreq ticks' ≤ elapsedNanoSeconds timerFreq ticks :=
  Nat.div_le_div_right (Nat.mul_le_mul_right _ h)

/-- Where the time fits in 64 bits, so does everything on the way to it. -/
theorem noWrap_of_fits (hpos : timerFreq ≠ 0) (hfreq : timerFreq.toNat < 2 ^ 32)
    {ticks : BitVec 64} (hfits : elapsedNanoSeconds timerFreq ticks < 2 ^ 64) :
    NoWrap lib timerFreq ticks := by
  have hsplit := mul_div_split (toNat_pos hpos) ticks.toNat 1000000000
  unfold elapsedNanoSeconds at hfits
  rw [hsplit] at hfits
  have hquotient : ticks.toNat / timerFreq.toNat * 1000000000 < 2 ^ 64 :=
    lt_of_le_of_lt (Nat.le_add_right _ _) hfits
  refine ⟨?_, ?_, ?_⟩
  · rw [(divideTicks_toNat hpos ticks).1]
    exact hquotient
  · rw [(divideTicks_toNat hpos ticks).2]
    exact scaled_remainder_lt hpos hfreq ticks
  · rw [quotientNanoSeconds_toNat hpos, remainderNanoSeconds_toNat hpos hfreq,
      Nat.mod_eq_of_lt hquotient]
    exact hfits

/-- **The time is exact wherever it fits in 64 bits**: nothing wraps on the way to it, and up to
there it grows with the ticks. -/
theorem getTimeInNanoSecond_exact (lib : BaseLib) {timerFreq : BitVec 64} (hpos : timerFreq ≠ 0)
    (hfreq : timerFreq.toNat < 2 ^ 32) {ticks : BitVec 64}
    (hfits : elapsedNanoSeconds timerFreq ticks < 2 ^ 64) :
    (getTimeInNanoSecond lib timerFreq ticks).toNat = elapsedNanoSeconds timerFreq ticks ∧
      NoWrap lib timerFreq ticks ∧
      ∀ ticks' : BitVec 64, ticks'.toNat ≤ ticks.toNat →
        (getTimeInNanoSecond lib timerFreq ticks').toNat ≤
          (getTimeInNanoSecond lib timerFreq ticks).toNat := by
  refine ⟨?_, noWrap_of_fits hpos hfreq hfits, fun ticks' h => ?_⟩
  · rw [getTimeInNanoSecond_toNat hpos hfreq, Nat.mod_eq_of_lt hfits]
  · have hmono := @elapsedNanoSeconds_mono timerFreq _ _ h
    rw [getTimeInNanoSecond_toNat hpos hfreq, getTimeInNanoSecond_toNat hpos hfreq,
      Nat.mod_eq_of_lt hfits, Nat.mod_eq_of_lt (lt_of_le_of_lt hmono hfits)]
    exact hmono

/-- At 62.5 MHz, 2^59 ticks are 2^63 ns; the product of the ticks with 10^9 has 89 bits. -/
theorem getTimeInNanoSecond_exact_large :
    (getTimeInNanoSecond .standard 62500000 (2 ^ 59)).toNat = 2 ^ 63 :=
  (getTimeInNanoSecond_exact .standard (by decide) (by decide) (by decide)).1

end Exact

/-! ### The delays -/

/-- The loop of `MicroSecondDelay`: the turns it takes from `systemCounterVal` on. -/
def delayTurns (timerTicks64 systemCounterVal : BitVec 64) : ℕ :=
  if systemCounterVal < timerTicks64 then delayTurns timerTicks64 (systemCounterVal + 1) + 1
  else 0
termination_by timerTicks64.toNat - systemCounterVal.toNat
decreasing_by
  have hlt : systemCounterVal.toNat < timerTicks64.toNat := by
    rwa [← BitVec.lt_def]
  have hone : (1 : BitVec 64).toNat = 1 := rfl
  rw [BitVec.toNat_add, hone, Nat.mod_eq_of_lt (by omega)]
  omega

/-- `MicroSecondDelay`: what it returns, and the turns of its loop. -/
def microSecondDelay (lib : BaseLib) (timerFreq microSeconds : BitVec 64) : BitVec 64 × ℕ :=
  (microSeconds, delayTurns (lib.divU64x32 (lib.multU64x64 microSeconds timerFreq) 1000000) 0)

/-- `NanoSecondDelay`: what it returns, and the turns of the loop. -/
def nanoSecondDelay (lib : BaseLib) (timerFreq nanoSeconds : BitVec 64) : BitVec 64 × ℕ :=
  let microSeconds := nanoSeconds / 1000 + if nanoSeconds % 1000 = 0 then 0 else 1
  (nanoSeconds, (microSecondDelay lib timerFreq microSeconds).2)

/-- The loop counts up to the ticks. -/
theorem delayTurns_eq (timerTicks64 systemCounterVal : BitVec 64) :
    delayTurns timerTicks64 systemCounterVal = timerTicks64.toNat - systemCounterVal.toNat := by
  fun_induction delayTurns timerTicks64 systemCounterVal with
  | case1 counter hlt ih =>
    have hone : (1 : BitVec 64).toNat = 1 := rfl
    have hlt' : counter.toNat < timerTicks64.toNat := by rwa [← BitVec.lt_def]
    have hnext : (counter + 1).toNat = counter.toNat + 1 := by
      rw [BitVec.toNat_add, hone, Nat.mod_eq_of_lt (by omega)]
    rw [ih, hnext]
    omega
  | case2 counter hge =>
    have hge' : ¬ counter.toNat < timerTicks64.toNat := by rwa [← BitVec.lt_def]
    omega

/-- **A delay takes as many turns as the timer would count ticks**, where the microseconds times
the frequency fit in 64 bits. -/
theorem microSecondDelay_turns (lib : BaseLib) {timerFreq microSeconds : BitVec 64}
    (hfits : microSeconds.toNat * timerFreq.toNat < 2 ^ 64) :
    (microSecondDelay lib timerFreq microSeconds).2 =
      microSeconds.toNat * timerFreq.toNat / 1000000 := by
  have hscale : ((1000000 : BitVec 32).setWidth 64).toNat = 1000000 := rfl
  rw [microSecondDelay, delayTurns_eq, lib.divU64x32_eq _ _ (by decide), lib.multU64x64_eq,
    BitVec.toNat_udiv, BitVec.toNat_mul, hscale, Nat.mod_eq_of_lt hfits]
  rfl

/-- **A delay of nanoseconds is never shorter than asked for**: it is rounded up to the
microsecond. -/
theorem nanoSecondDelay_turns (lib : BaseLib) {timerFreq nanoSeconds : BitVec 64}
    (hfits : (nanoSeconds.toNat / 1000 + 1) * timerFreq.toNat < 2 ^ 64) :
    nanoSeconds.toNat * timerFreq.toNat / 1000000000 ≤
      (nanoSecondDelay lib timerFreq nanoSeconds).2 := by
  have hbound := nanoSeconds.isLt
  have hthousand : (1000 : BitVec 64).toNat = 1000 := rfl
  have hmicro : ∃ n, (nanoSeconds / 1000 + if nanoSeconds % 1000 = 0 then 0 else 1).toNat = n ∧
      nanoSeconds.toNat ≤ 1000 * n ∧ n ≤ nanoSeconds.toNat / 1000 + 1 := by
    refine ⟨_, rfl, ?_⟩
    rw [BitVec.toNat_add, BitVec.toNat_udiv, hthousand]
    split_ifs with hzero
    · have hrest : nanoSeconds.toNat % 1000 = 0 := by
        have := congrArg BitVec.toNat hzero
        rwa [BitVec.toNat_umod, hthousand] at this
      have hzero' : (0 : BitVec 64).toNat = 0 := rfl
      rw [hzero']
      omega
    · have hone : (1 : BitVec 64).toNat = 1 := rfl
      rw [hone]
      omega
  obtain ⟨n, hn, hup, hdown⟩ := hmicro
  have hfits' : n * timerFreq.toNat < 2 ^ 64 :=
    lt_of_le_of_lt (Nat.mul_le_mul_right _ hdown) hfits
  have hturns := @microSecondDelay_turns lib timerFreq _ (hn ▸ hfits')
  rw [hn] at hturns
  calc nanoSeconds.toNat * timerFreq.toNat / 1000000000
      ≤ 1000 * n * timerFreq.toNat / 1000000000 :=
        Nat.div_le_div_right (Nat.mul_le_mul_right _ hup)
    _ = 1000 * (n * timerFreq.toNat) / (1000 * 1000000) := by rw [Nat.mul_assoc]
    _ = n * timerFreq.toNat / 1000000 := Nat.mul_div_mul_left _ _ (by decide)
    _ = (nanoSecondDelay lib timerFreq nanoSeconds).2 := hturns.symm

end Timer
end FfaFeature
