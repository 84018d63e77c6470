/-
# Notifications set and got

`FfaNotificationSet` and `FfaNotificationGet` of `Library/ArmFfaLibEx/ArmFfaLibEx.c`
against an SPMC that keeps the pending bits.  The SPMC is not part of the package:
`Spmc` is what FF-A promises of one, and everything below holds of any SPMC that keeps
the promise.

A call of `FFA_NOTIFICATION_GET` takes the selected bits away from the SPMC.
`FfaNotificationGet` looks at `Flags` afterwards and can hand over one bitmap only, so
where the SPMC has served any other selection the bits are gone (`getBoth_lost`).
`notifications_delivered_iff` says of a run of any endpoints exactly when no bit is lost and
none is reported twice, and `pending_or_reported` what that means for one notification: once
raised it is pending until it is reported.
-/

import FfaFeature.Ffa.Registers
import FfaFeature.Lib.Machine
import Mathlib.Tactic.IntervalCases

namespace FfaFeature
namespace Ffa

/-! ### The SPMC -/

/-- The bitmaps of an endpoint: those of its secure partitions, of its virtual machines, and of
the framework, whose lower half the SPM and whose upper half the hypervisor raises. -/
inductive Bitmap
  | sp
  | vm
  | framework
  deriving DecidableEq

/-- One notification: a bit of a bitmap of an endpoint, for one of its vCPUs or global. -/
structure NotificationBit where
  receiver : BitVec 16
  vCpu : Option (BitVec 16)
  bitmap : Bitmap
  bit : Fin 64

/-- The lower half of a bitmap, as a register carries it. -/
def lowWord (bitmap : BitVec 64) : BitVec 64 := (bitmap.setWidth 32).setWidth 64

/-- The upper half of a bitmap, as a register carries it. -/
def highWord (bitmap : BitVec 64) : BitVec 64 := ((bitmap >>> 32).setWidth 32).setWidth 64

/-- The two halves of a bitmap make it up. -/
@[simp] theorem highWord_lowWord (bitmap : BitVec 64) :
    highWord bitmap <<< 32 ||| lowWord bitmap = bitmap := by
  refine BitVec.eq_of_getLsbD_eq fun i hi => ?_
  rcases Nat.lt_or_ge i 32 with h | h
  · simp [highWord, lowWord, h, hi]
  · simp [highWord, lowWord, show ¬ i < 32 by omega, hi, show 32 + (i - 32) = i by omega,
      show i - 32 < 32 by omega]

/-- The bits of a bitmap that the flags of `FFA_NOTIFICATION_GET` select. -/
def selected (flags : BitVec 64) : Bitmap → BitVec 64
  | .sp => if flags.getLsbD 0 then BitVec.allOnes 64 else 0
  | .vm => if flags.getLsbD 1 then BitVec.allOnes 64 else 0
  | .framework => (if flags.getLsbD 2 then 0xFFFFFFFF else 0) |||
      if flags.getLsbD 3 then 0xFFFFFFFF00000000 else 0

/-- The endpoint whose bits a call of `FFA_NOTIFICATION_GET` takes. -/
def getReceiver (args : ArmSxcArgs) : BitVec 16 := args.arg1.setWidth 16

/-- The vCPU whose bits a call of `FFA_NOTIFICATION_GET` takes besides the global ones. -/
def getVCpu (args : ArmSxcArgs) : BitVec 16 := (args.arg1 >>> 16).setWidth 16

/-- The vCPU a call of `FFA_NOTIFICATION_SET` signals, none for a global notification. -/
def setVCpu (args : ArmSxcArgs) : Option (BitVec 16) :=
  if args.arg2.getLsbD 0 then some ((args.arg2 >>> 16).setWidth 16) else none

/-- The result registers of a served `FFA_NOTIFICATION_GET`. -/
structure Returns (result : ArmSxcArgs) (word : Bitmap → BitVec 64) : Prop where
  arg0 : result.arg0 = fidSuccess32.setWidth 64
  arg2 : result.arg2 = lowWord (word .sp)
  arg3 : result.arg3 = highWord (word .sp)
  arg4 : result.arg4 = lowWord (word .vm)
  arg5 : result.arg5 = highWord (word .vm)
  arg6 : result.arg6 = lowWord (word .framework)
  arg7 : result.arg7 = highWord (word .framework)

/-- The error codes of FF-A, `-1` to `-9` in a 32-bit register. -/
def IsErrorCode (code : BitVec 64) : Prop :=
  ∃ k : ℕ, 1 ≤ k ∧ k ≤ 9 ∧ code.setWidth 32 = BitVec.ofInt 32 (-k)

/-- The result registers of a refused call. -/
def Refused (result : ArmSxcArgs) : Prop :=
  result.arg0 = fidError.setWidth 64 ∧ IsErrorCode result.arg2

/-- **An SPMC, as FF-A specifies its notifications.**  It serves or refuses a call as it sees
fit; a served `FFA_NOTIFICATION_SET` makes the bits of its bitmap pending, a served
`FFA_NOTIFICATION_GET` returns and clears every pending bit it selects, and a refused call
changes nothing. -/
structure Spmc (σ : Type*) where
  call : σ → ArmSxcArgs → σ × ArmSxcArgs
  /-- The SPM or the hypervisor raises bits of its own. -/
  raise : σ → BitVec 16 → BitVec 64 → σ
  pending : σ → BitVec 16 → Option (BitVec 16) → Bitmap → BitVec 64
  grants : σ → ArmSxcArgs → Bool
  /-- The bitmap in which a sender's notifications arrive. -/
  senderBitmap : BitVec 16 → Bitmap
  refused : ∀ s args,
    args.arg0 = fidNotificationSet.setWidth 64 ∨ args.arg0 = fidNotificationGet.setWidth 64 →
      grants s args = false → Refused (call s args).2 ∧ pending (call s args).1 = pending s
  set_granted : ∀ s args, args.arg0 = fidNotificationSet.setWidth 64 → grants s args = true →
    (call s args).2.arg0 = fidSuccess32.setWidth 64 ∧
      ∀ receiver vCpu bitmap, pending (call s args).1 receiver vCpu bitmap =
        pending s receiver vCpu bitmap |||
          if receiver = args.arg1.setWidth 16 ∧ vCpu = setVCpu args ∧
              bitmap = senderBitmap ((args.arg1 >>> 16).setWidth 16) then
            args.arg4 <<< 32 ||| args.arg3
          else 0
  get_granted : ∀ s args, args.arg0 = fidNotificationGet.setWidth 64 → grants s args = true →
    Returns (call s args).2 (fun bitmap => (pending s (getReceiver args) none bitmap |||
        pending s (getReceiver args) (some (getVCpu args)) bitmap) &&&
          selected args.arg2 bitmap) ∧
      ∀ receiver vCpu bitmap, pending (call s args).1 receiver vCpu bitmap =
        pending s receiver vCpu bitmap &&& ~~~
          if receiver = getReceiver args ∧ (vCpu = none ∨ vCpu = some (getVCpu args)) then
            selected args.arg2 bitmap
          else 0
  raised : ∀ s target bits receiver vCpu bitmap,
    pending (raise s target bits) receiver vCpu bitmap = pending s receiver vCpu bitmap |||
      if receiver = target ∧ vCpu = none ∧ bitmap = .framework then bits else 0

/-! ### The library -/

/-- `INVALID_SOURCE_ID`. -/
def invalidSourceId : BitVec 16 := 0xFFFF

/-- `FFA_NOTIFICATION_FLAG_BITMAP_SP`. -/
def flagBitmapSp : BitVec 64 := 1

/-- `FFA_NOTIFICATION_FLAG_BITMAP_VM`. -/
def flagBitmapVm : BitVec 64 := 2

/-- `FFA_NOTIFICATION_FLAG_BITMAP_HYP`. -/
def flagBitmapHyp : BitVec 64 := 8

/-- `mPartitionId` once a call has looked at it; `acquired` is what
`ArmFfaLibPartitionIdGet` leaves there. -/
def partitionId (mPartitionId acquired : BitVec 16) : BitVec 16 :=
  if mPartitionId = invalidSourceId then acquired else mPartitionId

/-- The request of `FfaNotificationSet`. -/
def notificationSetRequest (mPartitionId destinationId : BitVec 16)
    (flags notificationBitmap : BitVec 64) : ArmSxcArgs :=
  { ArmSxcArgs.zero with
    arg0 := fidNotificationSet.setWidth 64
    arg1 := packIds mPartitionId destinationId
    arg2 := flags
    arg3 := lowWord notificationBitmap
    arg4 := highWord notificationBitmap }

/-- The request of `FfaNotificationGet`. -/
def notificationGetRequest (mPartitionId vCpuId : BitVec 16) (flags : BitVec 64) : ArmSxcArgs :=
  { ArmSxcArgs.zero with
    arg0 := fidNotificationGet.setWidth 64
    arg1 := packIds vCpuId mPartitionId
    arg2 := flags }

variable {σ : Type*} (spmc : Spmc σ) (ffaStatusToEfiStatus : BitVec 64 → EfiStatus)

/-- `FfaNotificationSet`. -/
def ffaNotificationSet (s : σ) (mPartitionId destinationId : BitVec 16)
    (flags notificationBitmap : BitVec 64) : σ × EfiStatus :=
  let (s, result) :=
    spmc.call s (notificationSetRequest mPartitionId destinationId flags notificationBitmap)
  if result.arg0 = fidError.setWidth 64 then (s, ffaStatusToEfiStatus result.arg2)
  else (s, .success)

/-- What `FfaNotificationGet` makes of the result registers: the status and the new contents
of `*NotificationBitmap`. -/
def notificationGetResult (result : ArmSxcArgs) (flags notificationBitmap : BitVec 64) :
    EfiStatus × BitVec 64 :=
  if result.arg0 = fidError.setWidth 64 then
    (ffaStatusToEfiStatus result.arg2, notificationBitmap)
  else if flags = flagBitmapSp then (.success, result.arg3 <<< 32 ||| result.arg2)
  else if flags = flagBitmapVm then (.success, result.arg5 <<< 32 ||| result.arg4)
  else if flags = flagBitmapHyp then (.success, result.arg7 <<< 32 ||| result.arg6)
  else (.unsupported, notificationBitmap)

/-- `FfaNotificationGet`. -/
def ffaNotificationGet (s : σ) (mPartitionId vCpuId : BitVec 16)
    (flags notificationBitmap : BitVec 64) : σ × EfiStatus × BitVec 64 :=
  let (s, result) := spmc.call s (notificationGetRequest mPartitionId vCpuId flags)
  (s, notificationGetResult ffaStatusToEfiStatus result flags notificationBitmap)

/-! ### Endpoints -/

/-- The SPMC and the `mPartitionId` of the library in each endpoint. -/
structure Endpoints (σ : Type*) where
  spmc : σ
  mPartitionId : BitVec 16 → BitVec 16

/-- What happens next, in any order: an endpoint calls its library, or framework notifications
are raised.  `acquired` is the id `ArmFfaLibPartitionIdGet` would give and `prior` what
`*NotificationBitmap` held. -/
inductive Event
  | set (caller acquired destinationId : BitVec 16) (flags notificationBitmap : BitVec 64)
  | get (caller acquired vCpuId : BitVec 16) (flags prior : BitVec 64)
  | raise (receiver : BitVec 16) (bits : BitVec 64)

/-- What the caller sees. -/
inductive Answer
  | set (status : EfiStatus)
  | get (status : EfiStatus) (notificationBitmap : BitVec 64)
  | raise
  deriving DecidableEq

/-- The id with which `caller` speaks. -/
def Endpoints.id (s : Endpoints σ) (caller acquired : BitVec 16) : BitVec 16 :=
  partitionId (s.mPartitionId caller) acquired

/-- The endpoints once `caller` has its id. -/
def Endpoints.withId (s : Endpoints σ) (caller acquired : BitVec 16) : BitVec 16 → BitVec 16 :=
  Function.update s.mPartitionId caller (s.id caller acquired)

/-- One step of the endpoints. -/
def endpointsMachine : Machine (Endpoints σ) Event Answer where
  step s
    | .set caller acquired destinationId flags notificationBitmap =>
      let (state, status) := ffaNotificationSet spmc ffaStatusToEfiStatus s.spmc
        (s.id caller acquired) destinationId flags notificationBitmap
      (⟨state, s.withId caller acquired⟩, .set status)
    | .get caller acquired vCpuId flags prior =>
      let (state, status, notificationBitmap) := ffaNotificationGet spmc ffaStatusToEfiStatus
        s.spmc (s.id caller acquired) vCpuId flags prior
      (⟨state, s.withId caller acquired⟩, .get status notificationBitmap)
    | .raise receiver bits => (⟨spmc.raise s.spmc receiver bits, s.mPartitionId⟩, .raise)

/-! ### Delivery -/

/-- The notification is pending at the SPMC. -/
def Pending (s : Endpoints σ) (n : NotificationBit) : Prop :=
  (spmc.pending s.spmc n.receiver n.vCpu n.bitmap).getLsbD n.bit = true

instance (s : Endpoints σ) (n : NotificationBit) : Decidable (Pending spmc s n) :=
  inferInstanceAs (Decidable (_ = true))

/-- The notifications a call of `FfaNotificationGet` asks for. -/
def Asks (s : Endpoints σ) : Event → NotificationBit → Prop
  | .get caller acquired vCpuId flags _, n =>
    n.receiver = s.id caller acquired ∧ (n.vCpu = none ∨ n.vCpu = some vCpuId) ∧
      (selected flags n.bitmap).getLsbD n.bit = true
  | _, _ => False

/-- The notifications that an event raises. -/
def Raises (s : Endpoints σ) : Event → NotificationBit → Prop
  | .set caller acquired destinationId flags notificationBitmap, n =>
    let request :=
      notificationSetRequest (s.id caller acquired) destinationId flags notificationBitmap
    spmc.grants s.spmc request = true ∧ n.receiver = destinationId ∧
      n.vCpu = setVCpu request ∧ n.bitmap = spmc.senderBitmap (s.id caller acquired) ∧
      notificationBitmap.getLsbD n.bit = true
  | .raise receiver bits, n =>
    n.receiver = receiver ∧ n.vCpu = none ∧ n.bitmap = .framework ∧ bits.getLsbD n.bit = true
  | .get .., _ => False

/-- A step of the endpoints. -/
abbrev EndpointsStep (σ : Type*) := Machine.Step (Endpoints σ) Event Answer

/-- The step takes the notification away from the SPMC. -/
def Clears (e : EndpointsStep σ) (n : NotificationBit) : Prop :=
  Pending spmc e.pre n ∧ ¬ Pending spmc e.post n

/-- The step tells its caller of a notification it asked for: `EFI_SUCCESS`, with the bit set in
`*NotificationBitmap`. -/
def Reports (e : EndpointsStep σ) (n : NotificationBit) : Prop :=
  Asks e.pre e.input n ∧
    ∃ notificationBitmap, e.output = .get .success notificationBitmap ∧
      notificationBitmap.getLsbD n.bit = true

/-- Two notifications a caller cannot tell apart: they differ in their vCPU at most. -/
def SameBit (n n' : NotificationBit) : Prop :=
  n.receiver = n'.receiver ∧ n.bitmap = n'.bitmap ∧ n.bit = n'.bit

/-- No notification is lost: what a step takes away, it reports. -/
def NoneLost (h : List (EndpointsStep σ)) : Prop :=
  ∀ e ∈ h, ∀ n, Clears spmc e n → Reports e n

/-- The notification was raised at some step, or before all of them, and no step took it away
since. -/
def Untaken (s : Endpoints σ) (h : List (EndpointsStep σ)) (n : NotificationBit) : Prop :=
  (Pending spmc s n ∧ ∀ x ∈ h, ¬ Clears spmc x n) ∨
    Machine.Since (fun x => Raises spmc x.pre x.input n) (fun x => ¬ Clears spmc x n) h

/-- None is reported twice: every report is of a notification raised and taken away by no step
since, and takes it away. -/
def NoneTwice (s : Endpoints σ) (h : List (EndpointsStep σ)) : Prop :=
  ∀ before e after, h = before ++ e :: after → ∀ n, Reports e n →
    ∃ n', SameBit n n' ∧ Clears spmc e n' ∧ Untaken spmc s before n'

/-- The answer to the event can be handed over: a call of `FfaNotificationGet` is refused, asks
for one bitmap the library can return, or finds nothing pending. -/
def Answerable (s : Endpoints σ) : Event → Prop
  | .get caller acquired vCpuId flags prior =>
    spmc.grants s.spmc (notificationGetRequest (s.id caller acquired) vCpuId flags) = false ∨
      (flags = flagBitmapSp ∨ flags = flagBitmapVm ∨ flags = flagBitmapHyp) ∨
      ∀ n, Asks s (.get caller acquired vCpuId flags prior) n → ¬ Pending spmc s n
  | _ => True

/-! ### One step -/

/-- A bit that may be raised. -/
theorem getLsbD_or_ite (x y : BitVec 64) (c : Prop) [Decidable c] (i : ℕ) :
    (x ||| if c then y else 0).getLsbD i = true ↔
      x.getLsbD i = true ∨ c ∧ y.getLsbD i = true := by
  by_cases hc : c
  · simp [hc]
  · simp [hc]

/-- A bit that may be taken away. -/
theorem getLsbD_and_not_ite (x y : BitVec 64) (c : Prop) [Decidable c] (i : Fin 64) :
    (x &&& ~~~ if c then y else 0).getLsbD i = true ↔
      x.getLsbD i = true ∧ ¬ (c ∧ y.getLsbD i = true) := by
  by_cases hc : c
  · simp [hc]
  · simp only [BitVec.getLsbD_and, BitVec.getLsbD_not, i.isLt, hc]
    simp

/-- A request names its receiver. -/
@[simp] theorem getReceiver_request (mPartitionId vCpuId : BitVec 16) (flags : BitVec 64) :
    getReceiver (notificationGetRequest mPartitionId vCpuId flags) = mPartitionId :=
  packIds_low ..

/-- It names the vCPU. -/
@[simp] theorem getVCpu_request (mPartitionId vCpuId : BitVec 16) (flags : BitVec 64) :
    getVCpu (notificationGetRequest mPartitionId vCpuId flags) = vCpuId :=
  packIds_high ..

/-- It passes the flags. -/
@[simp] theorem notificationGetRequest_arg2 (mPartitionId vCpuId : BitVec 16) (flags : BitVec 64) :
    (notificationGetRequest mPartitionId vCpuId flags).arg2 = flags := rfl

/-- The event is a call of `FfaNotificationGet` that the SPMC serves. -/
def Served (s : Endpoints σ) : Event → Prop
  | .get caller acquired vCpuId flags _ =>
    spmc.grants s.spmc (notificationGetRequest (s.id caller acquired) vCpuId flags) = true
  | _ => False

/-- What a call of `FfaNotificationSet` leaves pending. -/
theorem pending_set (s : Endpoints σ) (caller acquired destinationId : BitVec 16)
    (flags notificationBitmap : BitVec 64) (n : NotificationBit) :
    Pending spmc ((endpointsMachine spmc ffaStatusToEfiStatus).step s
        (.set caller acquired destinationId flags notificationBitmap)).1 n ↔
      Pending spmc s n ∨
        Raises spmc s (.set caller acquired destinationId flags notificationBitmap) n := by
  set request :=
    notificationSetRequest (s.id caller acquired) destinationId flags notificationBitmap
    with hrequest
  have hstate : ((endpointsMachine spmc ffaStatusToEfiStatus).step s
      (.set caller acquired destinationId flags notificationBitmap)).1.spmc =
        (spmc.call s.spmc request).1 := by
    simp only [endpointsMachine, ffaNotificationSet]
    split <;> rfl
  have hsender : (request.arg1 >>> 16).setWidth 16 = s.id caller acquired := packIds_high ..
  have hdest : request.arg1.setWidth 16 = destinationId := packIds_low ..
  have hbits : request.arg4 <<< 32 ||| request.arg3 = notificationBitmap := highWord_lowWord _
  simp only [Pending, Raises, hstate, ← hrequest]
  rcases hgrants : spmc.grants s.spmc request with _ | _
  · rw [(spmc.refused s.spmc request (.inl rfl) hgrants).2]
    simp
  · rw [(spmc.set_granted s.spmc request rfl hgrants).2, hsender, hdest, hbits]
    rw [getLsbD_or_ite]
    simp only [true_and, and_assoc]

/-- What a call of `FfaNotificationGet` leaves pending. -/
theorem pending_get (s : Endpoints σ) (caller acquired vCpuId : BitVec 16)
    (flags prior : BitVec 64) (n : NotificationBit) :
    Pending spmc ((endpointsMachine spmc ffaStatusToEfiStatus).step s
        (.get caller acquired vCpuId flags prior)).1 n ↔
      Pending spmc s n ∧ ¬ (Served spmc s (.get caller acquired vCpuId flags prior) ∧
        Asks s (.get caller acquired vCpuId flags prior) n) := by
  set request := notificationGetRequest (s.id caller acquired) vCpuId flags with hrequest
  have hstate : ((endpointsMachine spmc ffaStatusToEfiStatus).step s
      (.get caller acquired vCpuId flags prior)).1.spmc = (spmc.call s.spmc request).1 := rfl
  simp only [Pending, Served, Asks, hstate, ← hrequest]
  rcases hgrants : spmc.grants s.spmc request with _ | _
  · rw [(spmc.refused s.spmc request (.inr rfl) hgrants).2]
    simp
  · rw [(spmc.get_granted s.spmc request rfl hgrants).2, hrequest, getReceiver_request,
      getVCpu_request, notificationGetRequest_arg2]
    rw [getLsbD_and_not_ite]
    simp only [true_and, and_assoc]

/-- **What a step leaves pending**: what was pending and is not handed to a caller, and what the
step raises. -/
theorem pending_step (s : Endpoints σ) (i : Event) (n : NotificationBit) :
    Pending spmc ((endpointsMachine spmc ffaStatusToEfiStatus).step s i).1 n ↔
      (Pending spmc s n ∧ ¬ (Served spmc s i ∧ Asks s i n)) ∨ Raises spmc s i n := by
  cases i with
  | set caller acquired destinationId flags notificationBitmap =>
    rw [pending_set]
    simp only [Served, false_and, not_false_eq_true, and_true]
  | get caller acquired vCpuId flags prior =>
    rw [pending_get]
    simp only [Raises, or_false]
  | raise receiver bits =>
    simp only [Pending, endpointsMachine, spmc.raised, Served, Raises, false_and,
      not_false_eq_true, and_true]
    rw [getLsbD_or_ite]
    simp only [and_assoc]

/-- A step takes away what it is served and asks for. -/
theorem clears_iff (s : Endpoints σ) (i : Event) (n : NotificationBit) :
    Clears spmc ((endpointsMachine spmc ffaStatusToEfiStatus).stepAt s i) n ↔
      Pending spmc s n ∧ Served spmc s i ∧ Asks s i n := by
  have hnot : Asks s i n → ¬ Raises spmc s i n := by
    cases i <;> simp [Asks, Raises]
  simp only [Clears, Machine.stepAt_pre, Machine.stepAt_post, pending_step]
  tauto

/-- The flag that selects a bitmap the library can return. -/
def flagOf : Bitmap → BitVec 64
  | .sp => flagBitmapSp
  | .vm => flagBitmapVm
  | .framework => flagBitmapHyp

/-- The flags of one bitmap. -/
theorem exists_flagOf_iff (flags : BitVec 64) :
    (∃ bitmap, flags = flagOf bitmap) ↔
      flags = flagBitmapSp ∨ flags = flagBitmapVm ∨ flags = flagBitmapHyp := by
  constructor
  · rintro ⟨_ | _ | _, rfl⟩
    · exact .inl rfl
    · exact .inr (.inl rfl)
    · exact .inr (.inr rfl)
  · rintro (rfl | rfl | rfl)
    · exact ⟨.sp, rfl⟩
    · exact ⟨.vm, rfl⟩
    · exact ⟨.framework, rfl⟩

/-- A flag the library can answer selects bits of its own bitmap only. -/
theorem selected_flagOf {bitmap bitmap' : Bitmap} {bit : Fin 64}
    (h : (selected (flagOf bitmap) bitmap').getLsbD bit = true) : bitmap' = bitmap := by
  cases bitmap <;> cases bitmap' <;> first
    | rfl
    | exact absurd h (by simp [selected, flagOf, flagBitmapSp, flagBitmapVm, flagBitmapHyp])

/-- The answer to a served call with a flag the library can answer. -/
theorem notificationGetResult_flagOf {result : ArmSxcArgs} {word : Bitmap → BitVec 64}
    (hreturns : Returns result word) (bitmap : Bitmap) (prior : BitVec 64) :
    notificationGetResult ffaStatusToEfiStatus result (flagOf bitmap) prior =
      (.success, word bitmap) := by
  have hok : result.arg0 ≠ fidError.setWidth 64 := by
    rw [hreturns.arg0]
    decide
  rw [notificationGetResult, if_neg hok]
  cases bitmap with
  | sp =>
    rw [if_pos (show flagOf .sp = flagBitmapSp from rfl), hreturns.arg2, hreturns.arg3,
      highWord_lowWord]
  | vm =>
    rw [if_neg (by decide), if_pos (show flagOf .vm = flagBitmapVm from rfl), hreturns.arg4,
      hreturns.arg5, highWord_lowWord]
  | framework =>
    rw [if_neg (by decide), if_neg (by decide),
      if_pos (show flagOf .framework = flagBitmapHyp from rfl), hreturns.arg6, hreturns.arg7,
      highWord_lowWord]

/-- Any other flags leave a served call without an answer. -/
theorem notificationGetResult_other {result : ArmSxcArgs} {word : Bitmap → BitVec 64}
    (hreturns : Returns result word) {flags : BitVec 64} (hflags : ∀ bitmap, flags ≠ flagOf bitmap)
    (prior : BitVec 64) :
    notificationGetResult ffaStatusToEfiStatus result flags prior = (.unsupported, prior) := by
  have hok : result.arg0 ≠ fidError.setWidth 64 := by
    rw [hreturns.arg0]
    decide
  rw [notificationGetResult, if_neg hok,
    if_neg (show flags ≠ flagBitmapSp from hflags .sp),
    if_neg (show flags ≠ flagBitmapVm from hflags .vm),
    if_neg (show flags ≠ flagBitmapHyp from hflags .framework)]

/-- What the SPMC returns of the bitmaps of the caller of a served call. -/
def returned (s : Endpoints σ) (receiver vCpuId : BitVec 16) (flags : BitVec 64)
    (bitmap : Bitmap) : BitVec 64 :=
  (spmc.pending s.spmc receiver none bitmap |||
    spmc.pending s.spmc receiver (some vCpuId) bitmap) &&& selected flags bitmap

/-- The output of a served call. -/
theorem output_served {s : Endpoints σ} {caller acquired vCpuId : BitVec 16}
    {flags prior : BitVec 64} (h : Served spmc s (.get caller acquired vCpuId flags prior)) :
    ∃ result, Returns result (returned spmc s (s.id caller acquired) vCpuId flags) ∧
      ((endpointsMachine spmc ffaStatusToEfiStatus).step s
        (.get caller acquired vCpuId flags prior)).2 =
          .get (notificationGetResult ffaStatusToEfiStatus result flags prior).1
            (notificationGetResult ffaStatusToEfiStatus result flags prior).2 := by
  refine ⟨_, ?_, rfl⟩
  have hreturns := (spmc.get_granted s.spmc _ rfl h).1
  simp only [getReceiver_request, getVCpu_request, notificationGetRequest_arg2] at hreturns
  exact hreturns

/-- A refused call reports nothing. -/
theorem not_reports_refused
    (hstatus : ∀ code, IsErrorCode code → ffaStatusToEfiStatus code ≠ .success)
    {s : Endpoints σ} {i : Event} (h : ¬ Served spmc s i) (n : NotificationBit) :
    ¬ Reports ((endpointsMachine spmc ffaStatusToEfiStatus).stepAt s i) n := by
  rintro ⟨hasks, notificationBitmap, houtput, -⟩
  cases i with
  | set => exact hasks
  | raise => exact hasks
  | get caller acquired vCpuId flags prior =>
    obtain ⟨⟨harg0, hcode⟩, -⟩ := spmc.refused s.spmc
      (notificationGetRequest (s.id caller acquired) vCpuId flags) (.inr rfl)
      (Bool.not_eq_true _ ▸ h)
    simp only [Machine.stepAt_output, endpointsMachine, ffaNotificationGet, notificationGetResult,
      if_pos harg0, Answer.get.injEq] at houtput
    exact hstatus _ hcode houtput.1

/-- The bits of what is returned: those selected and pending, global or for the vCPU. -/
theorem getLsbD_returned {s : Endpoints σ} {receiver vCpuId : BitVec 16} {flags : BitVec 64}
    {bitmap : Bitmap} {bit : Fin 64} (h : (selected flags bitmap).getLsbD bit = true) :
    (returned spmc s receiver vCpuId flags bitmap).getLsbD bit = true ↔
      Pending spmc s ⟨receiver, none, bitmap, bit⟩ ∨
        Pending spmc s ⟨receiver, some vCpuId, bitmap, bit⟩ := by
  simp only [returned, BitVec.getLsbD_and, h, Bool.and_true, BitVec.getLsbD_or, Bool.or_eq_true,
    Pending]

/-- **What a call reports.**  It is served, its flags select a bitmap the library can return, and
the bit is pending, global or for the vCPU. -/
theorem reports_iff
    (hstatus : ∀ code, IsErrorCode code → ffaStatusToEfiStatus code ≠ .success)
    (s : Endpoints σ) (caller acquired vCpuId : BitVec 16) (flags prior : BitVec 64)
    (n : NotificationBit) :
    Reports ((endpointsMachine spmc ffaStatusToEfiStatus).stepAt s
        (.get caller acquired vCpuId flags prior)) n ↔
      Asks s (.get caller acquired vCpuId flags prior) n ∧
        Served spmc s (.get caller acquired vCpuId flags prior) ∧
        (∃ bitmap, flags = flagOf bitmap) ∧
        (Pending spmc s { n with vCpu := none } ∨
          Pending spmc s { n with vCpu := some vCpuId }) := by
  by_cases hserved : Served spmc s (.get caller acquired vCpuId flags prior)
  case neg =>
    exact iff_of_false (not_reports_refused spmc ffaStatusToEfiStatus hstatus hserved n)
      fun h => hserved h.2.1
  obtain ⟨result, hreturns, houtput⟩ := output_served spmc ffaStatusToEfiStatus hserved
  simp only [Reports, Machine.stepAt_pre, Machine.stepAt_input, Machine.stepAt_output, houtput]
  refine and_congr_right fun hasks => ?_
  have hselected := hasks.2.2
  by_cases hflags : ∃ bitmap, flags = flagOf bitmap
  · obtain ⟨bitmap, rfl⟩ := hflags
    obtain ⟨receiver, vCpu, nbitmap, bit⟩ := n
    obtain rfl : nbitmap = bitmap := selected_flagOf hselected
    rw [notificationGetResult_flagOf ffaStatusToEfiStatus hreturns]
    have hbits := @getLsbD_returned σ spmc s (s.id caller acquired) vCpuId _ _ _ hselected
    obtain rfl : receiver = s.id caller acquired := hasks.1
    constructor
    · rintro ⟨_, h, hbit⟩
      simp only [Answer.get.injEq, true_and] at h
      subst h
      exact ⟨hserved, ⟨_, rfl⟩, hbits.1 hbit⟩
    · rintro ⟨-, -, hpending⟩
      exact ⟨_, rfl, hbits.2 hpending⟩
  · have hother : ∀ bitmap, flags ≠ flagOf bitmap := fun bitmap h => hflags ⟨bitmap, h⟩
    rw [notificationGetResult_other ffaStatusToEfiStatus hreturns hother]
    refine iff_of_false ?_ fun h => hflags h.2.1
    rintro ⟨_, h, -⟩
    simp only [Answer.get.injEq] at h
    exact absurd h.1 (by decide)

/-- **A step loses nothing exactly when its answer can be handed over.** -/
theorem noneLost_step_iff
    (hstatus : ∀ code, IsErrorCode code → ffaStatusToEfiStatus code ≠ .success)
    (s : Endpoints σ) (i : Event) :
    (∀ n, Clears spmc ((endpointsMachine spmc ffaStatusToEfiStatus).stepAt s i) n →
        Reports ((endpointsMachine spmc ffaStatusToEfiStatus).stepAt s i) n) ↔
      Answerable spmc s i := by
  simp only [clears_iff]
  cases i with
  | set => exact iff_of_true (fun n h => absurd h.2.1 id) trivial
  | raise => exact iff_of_true (fun n h => absurd h.2.1 id) trivial
  | get caller acquired vCpuId flags prior =>
    simp only [reports_iff spmc ffaStatusToEfiStatus hstatus, Answerable, ← exists_flagOf_iff]
    constructor
    · intro h
      by_cases hserved : Served spmc s (.get caller acquired vCpuId flags prior)
      case neg => exact .inl (Bool.not_eq_true _ ▸ hserved)
      by_cases hflags : ∃ bitmap, flags = flagOf bitmap
      case pos => exact .inr (.inl hflags)
      refine .inr (.inr fun n hasks hpending => ?_)
      exact hflags (h n ⟨hpending, hserved, hasks⟩).2.2.1
    · rintro h n ⟨hpending, hserved, hasks⟩
      rcases h with hrefused | hflags | hnone
      · exact absurd (hrefused.symm.trans hserved) (by decide)
      · refine ⟨hasks, hserved, hflags, ?_⟩
        rcases hasks.2.1 with hvCpu | hvCpu
        · exact .inl (hvCpu ▸ hpending)
        · exact .inr (hvCpu ▸ hpending)
      · exact absurd hpending (hnone n hasks)

/-- A report takes a notification away. -/
theorem clears_of_reports
    (hstatus : ∀ code, IsErrorCode code → ffaStatusToEfiStatus code ≠ .success)
    {s : Endpoints σ} {i : Event} {n : NotificationBit}
    (h : Reports ((endpointsMachine spmc ffaStatusToEfiStatus).stepAt s i) n) :
    ∃ n', SameBit n n' ∧
      Clears spmc ((endpointsMachine spmc ffaStatusToEfiStatus).stepAt s i) n' := by
  simp only [clears_iff]
  cases i with
  | set => exact absurd h.1 id
  | raise => exact absurd h.1 id
  | get caller acquired vCpuId flags prior =>
    obtain ⟨hasks, hserved, -, hpending⟩ :=
      (reports_iff spmc ffaStatusToEfiStatus hstatus s caller acquired vCpuId flags prior n).1 h
    rcases hpending with hpending | hpending
    · exact ⟨{ n with vCpu := none }, ⟨rfl, rfl, rfl⟩, hpending, hserved, hasks.1, .inl rfl,
        hasks.2.2⟩
    · exact ⟨{ n with vCpu := some vCpuId }, ⟨rfl, rfl, rfl⟩, hpending, hserved, hasks.1,
        .inr rfl, hasks.2.2⟩

/-! ### Runs -/

/-- A notification that is pending was raised, and nothing took it away since. -/
theorem untaken_of_pending {s : Endpoints σ} (is : List Event) (n : NotificationBit)
    (h : Pending spmc ((endpointsMachine spmc ffaStatusToEfiStatus).final s is) n) :
    Untaken spmc s ((endpointsMachine spmc ffaStatusToEfiStatus).history s is) n := by
  induction is using List.reverseRecOn with
  | nil => exact .inl ⟨h, fun x hx => absurd hx List.not_mem_nil⟩
  | append_singleton is i ih =>
    rw [Machine.final_concat] at h
    rw [Machine.history_concat]
    rcases (pending_step spmc ffaStatusToEfiStatus _ i n).1 h with ⟨hbefore, -⟩ | hraises
    · rcases ih hbefore with ⟨hstart, hkept⟩ | hsince
      · refine .inl ⟨hstart, fun x hx => ?_⟩
        rcases List.mem_append.1 hx with hx | hx
        · exact hkept x hx
        · rw [List.mem_singleton.1 hx]
          exact fun hclears => hclears.2 h
      · exact .inr (hsince.later fun hclears => hclears.2 h)
    · exact .inr (.here hraises)

/-- **None is reported twice**, whatever the flags. -/
theorem noneTwice
    (hstatus : ∀ code, IsErrorCode code → ffaStatusToEfiStatus code ≠ .success)
    (s : Endpoints σ) (is : List Event) :
    NoneTwice spmc s ((endpointsMachine spmc ffaStatusToEfiStatus).history s is) := by
  rintro before e after hsplit n hreports
  obtain ⟨is₁, i, is₂, rfl, rfl, rfl⟩ := Machine.history_split hsplit
  obtain ⟨n', hsame, hclears⟩ := clears_of_reports spmc ffaStatusToEfiStatus hstatus hreports
  exact ⟨n', hsame, hclears, untaken_of_pending spmc ffaStatusToEfiStatus is₁ n' hclears.1⟩

/-- **Every notification is delivered once, exactly.**  Against any SPMC, in any order of calls
and of events: no notification is lost and none reported twice along a run exactly when the
answer to every call of the run can be handed over. -/
theorem notifications_delivered_iff
    (hstatus : ∀ code, IsErrorCode code → ffaStatusToEfiStatus code ≠ .success)
    (s : Endpoints σ) (is : List Event) :
    NoneLost spmc ((endpointsMachine spmc ffaStatusToEfiStatus).history s is) ∧
        NoneTwice spmc s ((endpointsMachine spmc ffaStatusToEfiStatus).history s is) ↔
      ∀ e ∈ (endpointsMachine spmc ffaStatusToEfiStatus).history s is,
        Answerable spmc e.pre e.input := by
  have hlost : NoneLost spmc ((endpointsMachine spmc ffaStatusToEfiStatus).history s is) ↔
      ∀ e ∈ (endpointsMachine spmc ffaStatusToEfiStatus).history s is,
        Answerable spmc e.pre e.input := by
    refine forall₂_congr fun e he => ?_
    obtain ⟨before, after, hsplit⟩ := List.append_of_mem he
    obtain ⟨is₁, i, is₂, -, -, rfl⟩ := Machine.history_split hsplit
    exact noneLost_step_iff spmc ffaStatusToEfiStatus hstatus _ i
  exact (and_iff_left (noneTwice spmc ffaStatusToEfiStatus hstatus s is)).trans hlost

/-- **What was raised is pending or was reported.**  In a run that loses nothing, a notification
raised at some step is still pending or has been reported since it was raised last. -/
theorem pending_or_reported {s : Endpoints σ} (is : List Event)
    (hlost : NoneLost spmc ((endpointsMachine spmc ffaStatusToEfiStatus).history s is))
    (n : NotificationBit)
    (hraised : ∃ e ∈ (endpointsMachine spmc ffaStatusToEfiStatus).history s is,
      Raises spmc e.pre e.input n) :
    Pending spmc ((endpointsMachine spmc ffaStatusToEfiStatus).final s is) n ∨
      Machine.Since (fun x => Reports x n) (fun x => ¬ Raises spmc x.pre x.input n)
        ((endpointsMachine spmc ffaStatusToEfiStatus).history s is) := by
  induction is using List.reverseRecOn with
  | nil =>
    obtain ⟨e, he, -⟩ := hraised
    exact absurd he List.not_mem_nil
  | append_singleton is i ih =>
    rw [Machine.history_concat] at hlost hraised ⊢
    rw [Machine.final_concat]
    set s' := (endpointsMachine spmc ffaStatusToEfiStatus).final s is with hs'
    by_cases hlast : Raises spmc s' i n
    · exact .inl ((pending_step spmc ffaStatusToEfiStatus s' i n).2 (.inr hlast))
    obtain ⟨e, he, heraises⟩ := hraised
    rcases List.mem_append.1 he with he | he
    · rcases ih (fun x hx => hlost x (List.mem_append_left _ hx)) ⟨e, he, heraises⟩ with hp | hr
      · by_cases hpost : Pending spmc ((endpointsMachine spmc ffaStatusToEfiStatus).step s' i).1 n
        · exact .inl hpost
        · exact .inr (.here (hlost _ (List.mem_append_right _ (List.mem_singleton_self _)) n
            ⟨hp, hpost⟩))
      · exact .inr (hr.later hlast)
    · rw [List.mem_singleton.1 he] at heraises
      exact absurd heraises hlast

/-! ### An SPMC -/

/-- The pending bitmaps of every endpoint. -/
abbrev PendingBitmaps := BitVec 16 → Option (BitVec 16) → Bitmap → BitVec 64

/-- The result registers with which `grantingSpmc` serves `FFA_NOTIFICATION_GET`. -/
def getResult (word : Bitmap → BitVec 64) : ArmSxcArgs :=
  { ArmSxcArgs.zero with
    arg0 := fidSuccess32.setWidth 64
    arg2 := lowWord (word .sp), arg3 := highWord (word .sp)
    arg4 := lowWord (word .vm), arg5 := highWord (word .vm)
    arg6 := lowWord (word .framework), arg7 := highWord (word .framework) }

/-- An SPMC that serves every call; every sender is a secure partition. -/
def grantingSpmc : Spmc PendingBitmaps where
  call s args :=
    if args.arg0 = fidNotificationSet.setWidth 64 then
      (fun receiver vCpu bitmap => s receiver vCpu bitmap |||
        if receiver = args.arg1.setWidth 16 ∧ vCpu = setVCpu args ∧ bitmap = .sp then
          args.arg4 <<< 32 ||| args.arg3
        else 0, { ArmSxcArgs.zero with arg0 := fidSuccess32.setWidth 64 })
    else
      (fun receiver vCpu bitmap => s receiver vCpu bitmap &&& ~~~
        if receiver = getReceiver args ∧ (vCpu = none ∨ vCpu = some (getVCpu args)) then
          selected args.arg2 bitmap
        else 0, getResult fun bitmap => (s (getReceiver args) none bitmap |||
          s (getReceiver args) (some (getVCpu args)) bitmap) &&& selected args.arg2 bitmap)
  raise s target bits receiver vCpu bitmap := s receiver vCpu bitmap |||
    if receiver = target ∧ vCpu = none ∧ bitmap = .framework then bits else 0
  pending s := s
  grants _ _ := true
  senderBitmap _ := .sp
  refused _ _ _ h := absurd h (by decide)
  set_granted s args hset _ := by
    rw [if_pos hset]
    exact ⟨rfl, fun _ _ _ => rfl⟩
  get_granted s args hget _ := by
    rw [if_neg (by rw [hget]; decide)]
    exact ⟨⟨rfl, rfl, rfl, rfl, rfl, rfl, rfl⟩, fun _ _ _ => rfl⟩
  raised _ _ _ _ _ _ := rfl

/-- The conversion of error codes, as far as the runs below go. -/
def statusOf (code : BitVec 64) : EfiStatus :=
  if code.setWidth 32 = 0 then .success else .invalidParameter

/-- It converts no error code to success. -/
theorem statusOf_isErrorCode (code : BitVec 64) (h : IsErrorCode code) :
    statusOf code ≠ .success := by
  obtain ⟨k, hlo, hhi, hcode⟩ := h
  rw [statusOf, hcode, if_neg (by interval_cases k <;> decide)]
  decide

/-- The endpoints at the start: nothing is pending and no library knows its id. -/
def quietEndpoints : Endpoints PendingBitmaps := ⟨fun _ _ _ => 0, fun _ => invalidSourceId⟩

/-- Endpoint `0x8002` raises bit 5 of endpoint `0x8001`, which asks for `flags`. -/
def raiseAndGet (flags : BitVec 64) : List Event :=
  [.set 0x8002 0x8002 0x8001 0 0x20, .get 0x8001 0x8001 0 flags 0]

/-- Asked for by its own flag the bit arrives. -/
theorem notifications_delivered_sp :
    NoneLost grantingSpmc
        ((endpointsMachine grantingSpmc statusOf).history quietEndpoints
          (raiseAndGet flagBitmapSp)) ∧
      NoneTwice grantingSpmc quietEndpoints
        ((endpointsMachine grantingSpmc statusOf).history quietEndpoints
          (raiseAndGet flagBitmapSp)) := by
  refine (notifications_delivered_iff grantingSpmc statusOf statusOf_isErrorCode
    quietEndpoints (raiseAndGet flagBitmapSp)).2 fun e he => ?_
  rcases List.mem_cons.1 he with rfl | he
  · exact trivial
  · rw [List.mem_singleton.1 he]
    exact .inr (.inl (.inl rfl))

/-- **Asked for two bitmaps at once, the library loses both**: the SPMC has cleared the bit and
the caller is told `EFI_UNSUPPORTED`. -/
theorem getBoth_lost :
    let n : NotificationBit := ⟨0x8001, none, .sp, 5⟩
    let run := (endpointsMachine grantingSpmc statusOf).history quietEndpoints (raiseAndGet 3)
    (∃ e ∈ run, Clears grantingSpmc e n ∧ e.output = .get .unsupported 0) ∧
      ¬ NoneLost grantingSpmc run := by
  have hstep : ∃ e ∈ (endpointsMachine grantingSpmc statusOf).history quietEndpoints
      (raiseAndGet 3), Clears grantingSpmc e ⟨0x8001, none, .sp, 5⟩ ∧
        e.output = .get .unsupported 0 := by
    refine ⟨_, List.mem_cons_of_mem _ (List.mem_singleton_self _), ⟨?_, ?_⟩, ?_⟩
    · decide
    · decide
    · decide
  refine ⟨hstep, fun hlost => ?_⟩
  obtain ⟨e, he, hclears, houtput⟩ := hstep
  obtain ⟨-, notificationBitmap, hsuccess, -⟩ := hlost e he _ hclears
  rw [houtput, Answer.get.injEq] at hsuccess
  exact absurd hsuccess.1 (by decide)

end Ffa
end FfaFeature
