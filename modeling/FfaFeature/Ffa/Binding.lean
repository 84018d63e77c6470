/-
# Notifications bound to their senders

`FfaNotificationBitmapCreate`, `FfaNotificationBitmapDestroy`, `FfaNotificationBind` and
`FfaNotificationUnbind` of `Library/ArmFfaLibEx/ArmFfaLibEx.c`, beside the calls of
`FfaFeature.Ffa.NotificationGet` and in any order with them.

A bitmap tells its receiver which bits are set and not who set them.  The receiver knows
because it has bound each bit to one sender, and an SPMC lets no other set it: `BindingSpmc`
is what FF-A promises of one.  The ids of a binding and of a signal travel in one register,
the sender above the receiver, so the library of the receiver and the library of the sender
have to agree on the halves.  `reported_by_bound` says that they do: a bit reported to an
endpoint was set by the sender the endpoint had bound it to, and has stayed bound to it since.
-/

import FfaFeature.Ffa.NotificationGet

namespace FfaFeature
namespace Ffa

/-! ### The SPMC -/

/-- `ARM_FID_FFA_NOTIFICATION_BITMAP_CREATE`. -/
def fidNotificationBitmapCreate : BitVec 32 := 0x8400007D

/-- `ARM_FID_FFA_NOTIFICATION_BITMAP_DESTROY`. -/
def fidNotificationBitmapDestroy : BitVec 32 := 0x8400007E

/-- `ARM_FID_FFA_NOTIFICATION_BIND`. -/
def fidNotificationBind : BitVec 32 := 0x8400007F

/-- `ARM_FID_FFA_NOTIFICATION_UNBIND`. -/
def fidNotificationUnbind : BitVec 32 := 0x84000080

/-- The sender a call names, above the receiver. -/
def senderOf (args : ArmSxcArgs) : BitVec 16 := (args.arg1 >>> 16).setWidth 16

/-- The receiver a call names. -/
def receiverOf (args : ArmSxcArgs) : BitVec 16 := args.arg1.setWidth 16

/-- The bitmap a call passes in two registers. -/
def bitsOf (args : ArmSxcArgs) : BitVec 64 := args.arg4 <<< 32 ||| args.arg3

/-- The call changes what is bound, or the bitmaps there are. -/
def ManagesBindings (args : ArmSxcArgs) : Prop :=
  args.arg0 = fidNotificationBitmapCreate.setWidth 64 ∨
    args.arg0 = fidNotificationBitmapDestroy.setWidth 64 ∨
    args.arg0 = fidNotificationBind.setWidth 64 ∨ args.arg0 = fidNotificationUnbind.setWidth 64

/-- **An SPMC, as FF-A specifies its bindings.**  A bit of a receiver's bitmap is bound to one
sender at most, and set by no other.  A bit is bound where it is free or the sender's already,
and unbound by a call that names its sender while it is not pending; the bitmaps of an endpoint
with a pending notification are not destroyed. -/
structure BindingSpmc (σ : Type*) extends Spmc σ where
  bound : σ → BitVec 16 → Bitmap → Fin 64 → Option (BitVec 16)
  bound_signal : ∀ s args,
    args.arg0 = fidNotificationSet.setWidth 64 ∨ args.arg0 = fidNotificationGet.setWidth 64 →
      bound (call s args).1 = bound s
  bound_raise : ∀ s target bits, bound (raise s target bits) = bound s
  set_bound : ∀ s args, args.arg0 = fidNotificationSet.setWidth 64 → grants s args = true →
    ∀ bit : Fin 64, (bitsOf args).getLsbD bit = true →
      bound s (receiverOf args) (senderBitmap (senderOf args)) bit = some (senderOf args)
  pending_managed : ∀ s args, ManagesBindings args → pending (call s args).1 = pending s
  refused_managed : ∀ s args, ManagesBindings args → grants s args = false →
    Refused (call s args).2 ∧ bound (call s args).1 = bound s
  create_granted : ∀ s args, args.arg0 = fidNotificationBitmapCreate.setWidth 64 →
    grants s args = true →
      (call s args).2.arg0 = fidSuccess32.setWidth 64 ∧ bound (call s args).1 = bound s
  destroy_granted : ∀ s args, args.arg0 = fidNotificationBitmapDestroy.setWidth 64 →
    grants s args = true →
      (call s args).2.arg0 = fidSuccess32.setWidth 64 ∧
      (∀ vCpu bitmap, pending s (receiverOf args) vCpu bitmap = 0) ∧
      ∀ receiver bitmap bit, bound (call s args).1 receiver bitmap bit =
        if receiver = receiverOf args then none else bound s receiver bitmap bit
  bind_granted : ∀ s args, args.arg0 = fidNotificationBind.setWidth 64 → grants s args = true →
    (call s args).2.arg0 = fidSuccess32.setWidth 64 ∧
      (∀ bit : Fin 64, (bitsOf args).getLsbD bit = true →
        bound s (receiverOf args) (senderBitmap (senderOf args)) bit = none ∨
          bound s (receiverOf args) (senderBitmap (senderOf args)) bit = some (senderOf args)) ∧
      ∀ receiver bitmap bit, bound (call s args).1 receiver bitmap bit =
        if receiver = receiverOf args ∧ bitmap = senderBitmap (senderOf args) ∧
            (bitsOf args).getLsbD bit = true then
          some (senderOf args)
        else bound s receiver bitmap bit
  unbind_granted : ∀ s args, args.arg0 = fidNotificationUnbind.setWidth 64 →
    grants s args = true →
      (call s args).2.arg0 = fidSuccess32.setWidth 64 ∧
      (∀ bit : Fin 64, (bitsOf args).getLsbD bit = true →
        bound s (receiverOf args) (senderBitmap (senderOf args)) bit = some (senderOf args) ∧
          ∀ vCpu, (pending s (receiverOf args) vCpu
            (senderBitmap (senderOf args))).getLsbD bit = false) ∧
      ∀ receiver bitmap bit, bound (call s args).1 receiver bitmap bit =
        if receiver = receiverOf args ∧ bitmap = senderBitmap (senderOf args) ∧
            (bitsOf args).getLsbD bit = true then
          none
        else bound s receiver bitmap bit

/-! ### The library -/

/-- The request of `FfaNotificationBitmapCreate`. -/
def bitmapCreateRequest (mPartitionId vCpuCount : BitVec 16) : ArmSxcArgs :=
  { ArmSxcArgs.zero with
    arg0 := fidNotificationBitmapCreate.setWidth 64
    arg1 := mPartitionId.setWidth 64
    arg2 := vCpuCount.setWidth 64 }

/-- The request of `FfaNotificationBitmapDestroy`. -/
def bitmapDestroyRequest (mPartitionId : BitVec 16) : ArmSxcArgs :=
  { ArmSxcArgs.zero with
    arg0 := fidNotificationBitmapDestroy.setWidth 64
    arg1 := mPartitionId.setWidth 64 }

/-- The request of `FfaNotificationBind` and, with its own function id and no flags, of
`FfaNotificationUnbind`. -/
def bindingRequest (functionId : BitVec 32) (mPartitionId destinationId : BitVec 16)
    (flags : BitVec 32) (notificationBitmap : BitVec 64) : ArmSxcArgs :=
  { ArmSxcArgs.zero with
    arg0 := functionId.setWidth 64
    arg1 := packIds destinationId mPartitionId
    arg2 := flags.setWidth 64
    arg3 := lowWord notificationBitmap
    arg4 := highWord notificationBitmap }

variable {σ : Type*} (spmc : BindingSpmc σ) (ffaStatusToEfiStatus : BitVec 64 → EfiStatus)

/-- A call of which only the status is looked at. -/
def callStatus (s : σ) (request : ArmSxcArgs) : σ × EfiStatus :=
  let (s, result) := spmc.call s request
  if result.arg0 = fidError.setWidth 64 then (s, ffaStatusToEfiStatus result.arg2)
  else (s, .success)

/-- `FfaNotificationBitmapCreate`. -/
def ffaNotificationBitmapCreate (s : σ) (mPartitionId vCpuCount : BitVec 16) : σ × EfiStatus :=
  callStatus spmc ffaStatusToEfiStatus s (bitmapCreateRequest mPartitionId vCpuCount)

/-- `FfaNotificationBitmapDestroy`. -/
def ffaNotificationBitmapDestroy (s : σ) (mPartitionId : BitVec 16) : σ × EfiStatus :=
  callStatus spmc ffaStatusToEfiStatus s (bitmapDestroyRequest mPartitionId)

/-- `FfaNotificationBind`. -/
def ffaNotificationBind (s : σ) (mPartitionId destinationId : BitVec 16) (flags : BitVec 32)
    (notificationBitmap : BitVec 64) : σ × EfiStatus :=
  callStatus spmc ffaStatusToEfiStatus s
    (bindingRequest fidNotificationBind mPartitionId destinationId flags notificationBitmap)

/-- `FfaNotificationUnbind`. -/
def ffaNotificationUnbind (s : σ) (mPartitionId destinationId : BitVec 16)
    (notificationBitmap : BitVec 64) : σ × EfiStatus :=
  callStatus spmc ffaStatusToEfiStatus s
    (bindingRequest fidNotificationUnbind mPartitionId destinationId 0 notificationBitmap)

/-! ### Endpoints -/

/-- An endpoint manages its bitmaps or binds them.  `acquired` is the id
`ArmFfaLibPartitionIdGet` would give. -/
inductive BindingEvent
  | create (caller acquired vCpuCount : BitVec 16)
  | destroy (caller acquired : BitVec 16)
  | bind (caller acquired destinationId : BitVec 16) (flags : BitVec 32)
      (notificationBitmap : BitVec 64)
  | unbind (caller acquired destinationId : BitVec 16) (notificationBitmap : BitVec 64)

/-- One step of an endpoint that manages its bindings. -/
def bindingsMachine : Machine (Endpoints σ) BindingEvent EfiStatus where
  step s
    | .create caller acquired vCpuCount =>
      let (state, status) := ffaNotificationBitmapCreate spmc ffaStatusToEfiStatus s.spmc
        (s.id caller acquired) vCpuCount
      (⟨state, s.withId caller acquired⟩, status)
    | .destroy caller acquired =>
      let (state, status) := ffaNotificationBitmapDestroy spmc ffaStatusToEfiStatus s.spmc
        (s.id caller acquired)
      (⟨state, s.withId caller acquired⟩, status)
    | .bind caller acquired destinationId flags notificationBitmap =>
      let (state, status) := ffaNotificationBind spmc ffaStatusToEfiStatus s.spmc
        (s.id caller acquired) destinationId flags notificationBitmap
      (⟨state, s.withId caller acquired⟩, status)
    | .unbind caller acquired destinationId notificationBitmap =>
      let (state, status) := ffaNotificationUnbind spmc ffaStatusToEfiStatus s.spmc
        (s.id caller acquired) destinationId notificationBitmap
      (⟨state, s.withId caller acquired⟩, status)

/-- The endpoints, which signal one another and manage their bindings in any order. -/
def notificationsMachine : Machine (Endpoints σ) (Event ⊕ BindingEvent) (Answer ⊕ EfiStatus) :=
  (endpointsMachine spmc.toSpmc ffaStatusToEfiStatus).sum
    (bindingsMachine spmc ffaStatusToEfiStatus)

/-- A step of the endpoints. -/
abbrev NotificationsStep (σ : Type*) :=
  Machine.Step (Endpoints σ) (Event ⊕ BindingEvent) (Answer ⊕ EfiStatus)

/-! ### Bindings -/

/-- The bit of the notification is bound to the sender. -/
def Bound (s : Endpoints σ) (n : NotificationBit) (sender : BitVec 16) : Prop :=
  spmc.bound s.spmc n.receiver n.bitmap n.bit = some sender

/-- The event binds the bit of the notification to the sender. -/
def Binds (s : Endpoints σ) (n : NotificationBit) (sender : BitVec 16) :
    Event ⊕ BindingEvent → Prop
  | .inr (.bind caller acquired destinationId flags notificationBitmap) =>
    spmc.grants s.spmc (bindingRequest fidNotificationBind (s.id caller acquired) destinationId
        flags notificationBitmap) = true ∧
      n.receiver = s.id caller acquired ∧ sender = destinationId ∧
      n.bitmap = spmc.senderBitmap destinationId ∧ notificationBitmap.getLsbD n.bit = true
  | _ => False

/-- The event unbinds the bit of the notification. -/
def Unbinds (s : Endpoints σ) (n : NotificationBit) : Event ⊕ BindingEvent → Prop
  | .inr (.unbind caller acquired destinationId notificationBitmap) =>
    spmc.grants s.spmc (bindingRequest fidNotificationUnbind (s.id caller acquired) destinationId
        0 notificationBitmap) = true ∧
      n.receiver = s.id caller acquired ∧ n.bitmap = spmc.senderBitmap destinationId ∧
      notificationBitmap.getLsbD n.bit = true
  | .inr (.destroy caller acquired) =>
    spmc.grants s.spmc (bitmapDestroyRequest (s.id caller acquired)) = true ∧
      n.receiver = s.id caller acquired
  | _ => False

/-- The sender sets the notification. -/
def Sets (s : Endpoints σ) (n : NotificationBit) (sender : BitVec 16) :
    Event ⊕ BindingEvent → Prop
  | .inl (.set caller acquired destinationId flags notificationBitmap) =>
    Raises spmc.toSpmc s (.set caller acquired destinationId flags notificationBitmap) n ∧
      s.id caller acquired = sender
  | _ => False

/-- The step tells its caller of the notification. -/
def ReportsAt (e : NotificationsStep σ) (n : NotificationBit) : Prop :=
  ∃ event answer, e.input = .inl event ∧ e.output = .inl answer ∧
    Reports ⟨e.pre, event, answer, e.post⟩ n

/-- The step takes the notification away from the SPMC. -/
def ClearsAt (e : NotificationsStep σ) (n : NotificationBit) : Prop :=
  Pending spmc.toSpmc e.pre n ∧ ¬ Pending spmc.toSpmc e.post n

/-- At some step of the history the endpoint bound the bit to the sender, at a later step the
sender set the notification, and since then it was neither unbound nor taken away. -/
def SentByBound (h : List (NotificationsStep σ)) (n : NotificationBit) (sender : BitVec 16) :
    Prop :=
  ∃ h₁ binding h₂ signal h₃, h = h₁ ++ binding :: (h₂ ++ signal :: h₃) ∧
    Binds spmc binding.pre n sender binding.input ∧ Sets spmc signal.pre n sender signal.input ∧
    (∀ e ∈ h₂ ++ signal :: h₃, ¬ Unbinds spmc e.pre n e.input) ∧ ∀ e ∈ h₃, ¬ ClearsAt spmc e n

/-- Nothing is bound, and no bit that could be is pending. -/
structure Unused (s : Endpoints σ) : Prop where
  bound : ∀ receiver bitmap bit, spmc.bound s.spmc receiver bitmap bit = none
  pending : ∀ n : NotificationBit, n.bitmap ≠ .framework → ¬ Pending spmc.toSpmc s n

/-! ### One step -/

/-- A call leaves the SPMC as the request does. -/
theorem callStatus_state (s : σ) (request : ArmSxcArgs) :
    (callStatus spmc ffaStatusToEfiStatus s request).1 = (spmc.call s request).1 := by
  simp only [callStatus]
  split <;> rfl

/-- A binding names its sender. -/
@[simp] theorem senderOf_bindingRequest (functionId : BitVec 32)
    (mPartitionId destinationId : BitVec 16) (flags : BitVec 32) (notificationBitmap : BitVec 64) :
    senderOf (bindingRequest functionId mPartitionId destinationId flags notificationBitmap) =
      destinationId :=
  packIds_high ..

/-- It names its receiver. -/
@[simp] theorem receiverOf_bindingRequest (functionId : BitVec 32)
    (mPartitionId destinationId : BitVec 16) (flags : BitVec 32) (notificationBitmap : BitVec 64) :
    receiverOf (bindingRequest functionId mPartitionId destinationId flags notificationBitmap) =
      mPartitionId :=
  packIds_low ..

/-- It passes the bitmap. -/
@[simp] theorem bitsOf_bindingRequest (functionId : BitVec 32)
    (mPartitionId destinationId : BitVec 16) (flags : BitVec 32) (notificationBitmap : BitVec 64) :
    bitsOf (bindingRequest functionId mPartitionId destinationId flags notificationBitmap) =
      notificationBitmap :=
  highWord_lowWord _

/-- A destroyed bitmap is its caller's. -/
@[simp] theorem receiverOf_bitmapDestroyRequest (mPartitionId : BitVec 16) :
    receiverOf (bitmapDestroyRequest mPartitionId) = mPartitionId := by
  refine BitVec.eq_of_getLsbD_eq fun i hi => ?_
  simp [receiverOf, bitmapDestroyRequest, hi]

/-- A signal leaves the bindings alone. -/
theorem bound_signal_step (s : Endpoints σ) (i : Event) :
    spmc.bound ((endpointsMachine spmc.toSpmc ffaStatusToEfiStatus).step s i).1.spmc =
      spmc.bound s.spmc := by
  cases i with
  | set caller acquired destinationId flags notificationBitmap =>
    have hcall := spmc.bound_signal s.spmc (notificationSetRequest (s.id caller acquired)
      destinationId flags notificationBitmap) (.inl rfl)
    rw [← hcall]
    simp only [endpointsMachine, ffaNotificationSet]
    split <;> rfl
  | get caller acquired vCpuId flags prior =>
    exact spmc.bound_signal s.spmc
      (notificationGetRequest (s.id caller acquired) vCpuId flags) (.inr rfl)
  | raise receiver bits => exact spmc.bound_raise s.spmc receiver bits

/-- What a call of `FfaNotificationBind` leaves bound. -/
theorem bound_bind (s : Endpoints σ) (caller acquired destinationId : BitVec 16)
    (flags : BitVec 32) (notificationBitmap : BitVec 64) (n : NotificationBit)
    (sender : BitVec 16) :
    Bound spmc ((bindingsMachine spmc ffaStatusToEfiStatus).step s
        (.bind caller acquired destinationId flags notificationBitmap)).1 n sender ↔
      Bound spmc s n sender ∨
        Binds spmc s n sender (.inr (.bind caller acquired destinationId flags
          notificationBitmap)) := by
  set request := bindingRequest fidNotificationBind (s.id caller acquired) destinationId flags
    notificationBitmap with hrequest
  have hstate : ((bindingsMachine spmc ffaStatusToEfiStatus).step s
      (.bind caller acquired destinationId flags notificationBitmap)).1.spmc =
        (spmc.call s.spmc request).1 := callStatus_state ..
  simp only [Bound, Binds, hstate, ← hrequest]
  rcases hgrants : spmc.grants s.spmc request with _ | _
  · rw [(spmc.refused_managed s.spmc request (.inr (.inr (.inl rfl))) hgrants).2]
    simp
  obtain ⟨-, hfree, hafter⟩ := spmc.bind_granted s.spmc request rfl hgrants
  simp only [hrequest, senderOf_bindingRequest, receiverOf_bindingRequest,
    bitsOf_bindingRequest] at hfree hafter
  rw [hafter]
  by_cases hn : n.receiver = s.id caller acquired ∧ n.bitmap = spmc.senderBitmap destinationId ∧
      notificationBitmap.getLsbD n.bit = true
  · rw [if_pos hn, hn.1, hn.2.1]
    constructor
    · rintro ⟨⟩
      exact .inr ⟨rfl, rfl, rfl, rfl, hn.2.2⟩
    · rintro (hbound | ⟨-, -, rfl, -⟩)
      · -- what was bound before is the same sender's: no other bit is granted
        rcases hfree n.bit hn.2.2 with hnone | hsame
        · rw [hnone] at hbound
          cases hbound
        · rw [← hsame, hbound]
      · rfl
  · rw [if_neg hn]
    refine (or_iff_left ?_).symm
    rintro ⟨-, hreceiver, -, hbitmap, hbit⟩
    exact hn ⟨hreceiver, hbitmap, hbit⟩

/-- What a call of `FfaNotificationUnbind` leaves bound. -/
theorem bound_unbind (s : Endpoints σ) (caller acquired destinationId : BitVec 16)
    (notificationBitmap : BitVec 64) (n : NotificationBit) (sender : BitVec 16) :
    Bound spmc ((bindingsMachine spmc ffaStatusToEfiStatus).step s
        (.unbind caller acquired destinationId notificationBitmap)).1 n sender ↔
      Bound spmc s n sender ∧
        ¬ Unbinds spmc s n (.inr (.unbind caller acquired destinationId notificationBitmap)) := by
  set request := bindingRequest fidNotificationUnbind (s.id caller acquired) destinationId 0
    notificationBitmap with hrequest
  have hstate : ((bindingsMachine spmc ffaStatusToEfiStatus).step s
      (.unbind caller acquired destinationId notificationBitmap)).1.spmc =
        (spmc.call s.spmc request).1 := callStatus_state ..
  simp only [Bound, Unbinds, hstate, ← hrequest]
  rcases hgrants : spmc.grants s.spmc request with _ | _
  · rw [(spmc.refused_managed s.spmc request (.inr (.inr (.inr rfl))) hgrants).2]
    simp
  obtain ⟨-, -, hafter⟩ := spmc.unbind_granted s.spmc request rfl hgrants
  simp only [hrequest, senderOf_bindingRequest, receiverOf_bindingRequest,
    bitsOf_bindingRequest] at hafter
  rw [hafter]
  split <;> rename_i hn
  · exact iff_of_false (fun h => by cases h) fun h => h.2 ⟨rfl, hn⟩
  · exact (and_iff_left fun h => hn h.2).symm

/-- What a call of `FfaNotificationBitmapDestroy` leaves bound. -/
theorem bound_destroy (s : Endpoints σ) (caller acquired : BitVec 16) (n : NotificationBit)
    (sender : BitVec 16) :
    Bound spmc ((bindingsMachine spmc ffaStatusToEfiStatus).step s
        (.destroy caller acquired)).1 n sender ↔
      Bound spmc s n sender ∧ ¬ Unbinds spmc s n (.inr (.destroy caller acquired)) := by
  set request := bitmapDestroyRequest (s.id caller acquired) with hrequest
  have hstate : ((bindingsMachine spmc ffaStatusToEfiStatus).step s
      (.destroy caller acquired)).1.spmc = (spmc.call s.spmc request).1 := callStatus_state ..
  simp only [Bound, Unbinds, hstate, ← hrequest]
  rcases hgrants : spmc.grants s.spmc request with _ | _
  · rw [(spmc.refused_managed s.spmc request (.inr (.inl rfl)) hgrants).2]
    simp
  obtain ⟨-, -, hafter⟩ := spmc.destroy_granted s.spmc request rfl hgrants
  rw [hafter, hrequest, receiverOf_bitmapDestroyRequest]
  split <;> rename_i hn
  · exact iff_of_false (fun h => by cases h) fun h => h.2 ⟨rfl, hn⟩
  · exact (and_iff_left fun h => hn h.2).symm

/-- A call of `FfaNotificationBitmapCreate` binds nothing. -/
theorem bound_create (s : Endpoints σ) (caller acquired vCpuCount : BitVec 16)
    (n : NotificationBit) (sender : BitVec 16) :
    Bound spmc ((bindingsMachine spmc ffaStatusToEfiStatus).step s
        (.create caller acquired vCpuCount)).1 n sender ↔ Bound spmc s n sender := by
  set request := bitmapCreateRequest (s.id caller acquired) vCpuCount
  have hstate : ((bindingsMachine spmc ffaStatusToEfiStatus).step s
      (.create caller acquired vCpuCount)).1.spmc = (spmc.call s.spmc request).1 :=
    callStatus_state ..
  simp only [Bound, hstate]
  rcases hgrants : spmc.grants s.spmc request with _ | _
  · rw [(spmc.refused_managed s.spmc request (.inl rfl) hgrants).2]
  · rw [(spmc.create_granted s.spmc request rfl hgrants).2]

/-- **What a step leaves bound**: what was bound and is not unbound, and what the step binds. -/
theorem bound_step (s : Endpoints σ) (i : Event ⊕ BindingEvent) (n : NotificationBit)
    (sender : BitVec 16) :
    Bound spmc ((notificationsMachine spmc ffaStatusToEfiStatus).step s i).1 n sender ↔
      (Bound spmc s n sender ∧ ¬ Unbinds spmc s n i) ∨ Binds spmc s n sender i := by
  rcases i with i | i
  · simp only [Bound, notificationsMachine, Machine.sum, bound_signal_step, Unbinds, Binds,
      not_false_eq_true, and_true, or_false]
  show Bound spmc ((bindingsMachine spmc ffaStatusToEfiStatus).step s i).1 n sender ↔ _
  cases i with
  | create =>
    rw [bound_create]
    simp only [Unbinds, Binds, not_false_eq_true, and_true, or_false]
  | destroy =>
    rw [bound_destroy]
    simp only [Binds, or_false]
  | bind =>
    rw [bound_bind]
    simp only [Unbinds, not_false_eq_true, and_true]
  | unbind =>
    rw [bound_unbind]
    simp only [Binds, or_false]

/-- Managing the bindings leaves every notification as it is. -/
theorem pending_managed_step (s : Endpoints σ) (i : BindingEvent) (n : NotificationBit) :
    Pending spmc.toSpmc ((bindingsMachine spmc ffaStatusToEfiStatus).step s i).1 n ↔
      Pending spmc.toSpmc s n := by
  have hcall : ∀ request, ManagesBindings request → ∀ r,
      r = (callStatus spmc ffaStatusToEfiStatus s.spmc request).1 →
        ((spmc.pending r n.receiver n.vCpu n.bitmap).getLsbD n.bit = true ↔
          Pending spmc.toSpmc s n) := by
    rintro request hmanages r rfl
    rw [callStatus_state, spmc.pending_managed s.spmc request hmanages]
    rfl
  cases i with
  | create => exact hcall _ (.inl rfl) _ rfl
  | destroy => exact hcall _ (.inr (.inl rfl)) _ rfl
  | bind => exact hcall _ (.inr (.inr (.inl rfl))) _ rfl
  | unbind => exact hcall _ (.inr (.inr (.inr rfl))) _ rfl

/-- **A pending notification is not unbound.** -/
theorem not_unbinds_of_pending {s : Endpoints σ} {n : NotificationBit}
    (hpending : Pending spmc.toSpmc s n) (i : Event ⊕ BindingEvent) : ¬ Unbinds spmc s n i := by
  rcases i with i | i
  · exact id
  cases i with
  | create => exact id
  | bind => exact id
  | destroy caller acquired =>
    rintro ⟨hgrants, hreceiver⟩
    have hzero := (spmc.destroy_granted s.spmc _ rfl hgrants).2.1 n.vCpu n.bitmap
    rw [receiverOf_bitmapDestroyRequest, ← hreceiver] at hzero
    rw [Pending, hzero] at hpending
    simp at hpending
  | unbind caller acquired destinationId notificationBitmap =>
    rintro ⟨hgrants, hreceiver, hbitmap, hbit⟩
    have hclear := (spmc.unbind_granted s.spmc _ rfl hgrants).2.1 n.bit
      (by rwa [bitsOf_bindingRequest])
    have hfalse := hclear.2 n.vCpu
    rw [receiverOf_bindingRequest, senderOf_bindingRequest, ← hreceiver, ← hbitmap] at hfalse
    exact absurd (hpending.symm.trans hfalse) (by decide)

/-- **Who sets a notification is whom its receiver has bound it to.** -/
theorem bound_of_sets {s : Endpoints σ} {n : NotificationBit} {sender : BitVec 16}
    {i : Event ⊕ BindingEvent} (h : Sets spmc s n sender i) : Bound spmc s n sender := by
  match i, h with
  | .inl (.set caller acquired destinationId flags notificationBitmap), h =>
    obtain ⟨⟨hgrants, hreceiver, -, hbitmap, hbit⟩, rfl⟩ := h
    have hsender : senderOf (notificationSetRequest (s.id caller acquired) destinationId flags
        notificationBitmap) = s.id caller acquired := packIds_high ..
    have hdest : receiverOf (notificationSetRequest (s.id caller acquired) destinationId flags
        notificationBitmap) = destinationId := packIds_low ..
    have hset := spmc.set_bound s.spmc _ rfl hgrants n.bit (by rwa [bitsOf,
      notificationSetRequest, highWord_lowWord])
    rw [hsender, hdest, ← hreceiver, ← hbitmap] at hset
    exact hset

/-- A notification of a partition that a signal raises has a sender. -/
theorem sets_of_raises {s : Endpoints σ} {n : NotificationBit} {i : Event}
    (hn : n.bitmap ≠ .framework) (h : Raises spmc.toSpmc s i n) :
    ∃ sender, Sets spmc s n sender (.inl i) := by
  cases i with
  | set caller acquired => exact ⟨s.id caller acquired, h, rfl⟩
  | get => exact absurd h id
  | raise => exact absurd h.2.2.1 hn

/-- A signal unbinds nothing. -/
theorem not_unbinds_of_sets {s : Endpoints σ} {n : NotificationBit} {sender : BitVec 16}
    {i : Event ⊕ BindingEvent} (h : Sets spmc s n sender i) : ¬ Unbinds spmc s n i := by
  match i, h with
  | .inl _, _ => exact id

/-! ### Runs -/

/-- What was sent by its sender stays so while it is neither unbound nor taken away. -/
theorem SentByBound.later {h : List (NotificationsStep σ)} {e : NotificationsStep σ}
    {n : NotificationBit} {sender : BitVec 16} (hs : SentByBound spmc h n sender)
    (hunbinds : ¬ Unbinds spmc e.pre n e.input) (hclears : ¬ ClearsAt spmc e n) :
    SentByBound spmc (h ++ [e]) n sender := by
  obtain ⟨h₁, binding, h₂, signal, h₃, rfl, hbinds, hsets, hbound, hkept⟩ := hs
  refine ⟨h₁, binding, h₂, signal, h₃ ++ [e], by simp, hbinds, hsets, fun x hx => ?_,
    fun x hx => ?_⟩
  · rw [← List.cons_append, ← List.append_assoc] at hx
    rcases List.mem_append.1 hx with hx | hx
    · exact hbound x hx
    · rwa [List.mem_singleton.1 hx]
  · rcases List.mem_append.1 hx with hx | hx
    · exact hkept x hx
    · rwa [List.mem_singleton.1 hx]

/-- A bound bit that is set is sent by its sender. -/
theorem SentByBound.here {h : List (NotificationsStep σ)} {e : NotificationsStep σ}
    {n : NotificationBit} {sender : BitVec 16}
    (hs : Machine.Since (fun x => Binds spmc x.pre n sender x.input)
      (fun x => ¬ Unbinds spmc x.pre n x.input) h)
    (hsets : Sets spmc e.pre n sender e.input) : SentByBound spmc (h ++ [e]) n sender := by
  obtain ⟨h₁, binding, h₂, rfl, hbinds, hbound⟩ := hs
  refine ⟨h₁, binding, h₂, e, [], by simp, hbinds, hsets, fun x hx => ?_,
    fun x hx => absurd hx List.not_mem_nil⟩
  rcases List.mem_append.1 hx with hx | hx
  · exact hbound x hx
  · rw [List.mem_singleton.1 hx]
    exact not_unbinds_of_sets spmc hsets

/-- What the past says of a state: a bound bit was bound by its receiver and not unbound since,
and a pending one was set by the sender it is bound to. -/
structure Accounted (h : List (NotificationsStep σ)) (s : Endpoints σ) : Prop where
  bound : ∀ n sender, Bound spmc s n sender →
    Machine.Since (fun x => Binds spmc x.pre n sender x.input)
      (fun x => ¬ Unbinds spmc x.pre n x.input) h
  pending : ∀ n : NotificationBit, n.bitmap ≠ .framework → Pending spmc.toSpmc s n →
    ∃ sender, Bound spmc s n sender ∧ SentByBound spmc h n sender

/-- **One step keeps the account.** -/
theorem Accounted.step {h : List (NotificationsStep σ)} {s : Endpoints σ}
    (hs : Accounted spmc h s) (i : Event ⊕ BindingEvent) :
    Accounted spmc (h ++ [(notificationsMachine spmc ffaStatusToEfiStatus).stepAt s i])
      ((notificationsMachine spmc ffaStatusToEfiStatus).step s i).1 where
  bound n sender hbound := by
    rcases (bound_step spmc ffaStatusToEfiStatus s i n sender).1 hbound with
      ⟨hbefore, hkept⟩ | hbinds
    · exact (hs.bound n sender hbefore).later hkept
    · exact .here hbinds
  pending n hn hpending := by
    by_cases hbefore : Pending spmc.toSpmc s n
    · obtain ⟨sender, hbound, hsent⟩ := hs.pending n hn hbefore
      have hkept := not_unbinds_of_pending spmc hbefore i
      exact ⟨sender, (bound_step spmc ffaStatusToEfiStatus s i n sender).2 (.inl ⟨hbound, hkept⟩),
        hsent.later spmc hkept fun hclears => hclears.2 hpending⟩
    · rcases i with i | i
      · have hraises : Raises spmc.toSpmc s i n :=
          ((pending_step spmc.toSpmc ffaStatusToEfiStatus s i n).1 hpending).resolve_left
            fun h => hbefore h.1
        obtain ⟨sender, hsets⟩ := sets_of_raises spmc hn hraises
        have hbound := bound_of_sets spmc hsets
        exact ⟨sender, (bound_step spmc ffaStatusToEfiStatus s _ n sender).2
          (.inl ⟨hbound, not_unbinds_of_sets spmc hsets⟩),
          .here spmc (hs.bound n sender hbound) hsets⟩
      · exact absurd ((pending_managed_step spmc ffaStatusToEfiStatus s i n).1 hpending) hbefore

/-- The past of a run from unused bitmaps accounts for its last state. -/
theorem accounted {s : Endpoints σ} (hs : Unused spmc s) (is : List (Event ⊕ BindingEvent)) :
    Accounted spmc ((notificationsMachine spmc ffaStatusToEfiStatus).history s is)
      ((notificationsMachine spmc ffaStatusToEfiStatus).final s is) := by
  refine @Machine.final_of_history _ _ _ (notificationsMachine spmc ffaStatusToEfiStatus)
    (Accounted spmc) (fun _ _ => True) s ⟨fun n sender hbound => ?_,
      fun n hn hpending => absurd hpending (hs.pending n hn)⟩
    (fun h s i _ ih => ih.step spmc ffaStatusToEfiStatus i) is fun _ _ => trivial
  rw [Bound, hs.bound] at hbound
  cases hbound

/-- A step reports what the call does. -/
theorem reportsAt_iff (s : Endpoints σ) (i : Event) (n : NotificationBit) :
    ReportsAt ((notificationsMachine spmc ffaStatusToEfiStatus).stepAt s (.inl i)) n ↔
      Reports ((endpointsMachine spmc.toSpmc ffaStatusToEfiStatus).stepAt s i) n := by
  constructor
  · rintro ⟨event, answer, hinput, houtput, hreports⟩
    obtain rfl : event = i := (Sum.inl.inj hinput).symm
    obtain rfl : answer = ((endpointsMachine spmc.toSpmc ffaStatusToEfiStatus).step s event).2 :=
      (Sum.inl.inj houtput).symm
    exact hreports
  · exact fun hreports => ⟨i, _, rfl, rfl, hreports⟩

/-- **A receiver knows its senders.**  Against any SPMC, in any order of signals, bindings and
unbindings of any endpoints: a bit of a partition's bitmap that is reported was set by the very
sender the bit is bound to, to whom its receiver had bound it before, and neither was it unbound
nor the notification taken away in between. -/
theorem reported_by_bound
    (hstatus : ∀ code, IsErrorCode code → ffaStatusToEfiStatus code ≠ .success)
    {s : Endpoints σ} (hs : Unused spmc s) (is : List (Event ⊕ BindingEvent))
    {before after : List (NotificationsStep σ)} {e : NotificationsStep σ}
    (hsplit : (notificationsMachine spmc ffaStatusToEfiStatus).history s is = before ++ e :: after)
    (n : NotificationBit) (hn : n.bitmap ≠ .framework) (hreports : ReportsAt e n) :
    ∃ n' sender, SameBit n n' ∧ Bound spmc e.pre n sender ∧
      SentByBound spmc before n' sender := by
  obtain ⟨is₁, i, is₂, rfl, rfl, rfl⟩ := Machine.history_split hsplit
  obtain ⟨event, -, hinput, -⟩ := id hreports
  obtain rfl : i = .inl event := hinput
  rw [reportsAt_iff] at hreports
  obtain ⟨n', hsame, hclears⟩ :=
    clears_of_reports spmc.toSpmc ffaStatusToEfiStatus hstatus hreports
  have haccount := accounted spmc ffaStatusToEfiStatus hs is₁
  obtain ⟨sender, hbound, hsent⟩ := haccount.pending n' (hsame.2.1 ▸ hn) hclears.1
  refine ⟨n', sender, hsame, ?_, hsent⟩
  rw [Bound, hsame.1, hsame.2.1, hsame.2.2]
  exact hbound

/-! ### An SPMC -/

/-- What an SPMC keeps that delivers to a partition as a whole: the pending bits and the senders
they are bound to. -/
structure BindingTable where
  pending : BitVec 16 → Bitmap → BitVec 64
  bound : BitVec 16 → Bitmap → Fin 64 → Option (BitVec 16)

/-- What the bits of a call are bound to is among `allowed`. -/
def BindingTable.AllBound (s : BindingTable) (args : ArmSxcArgs)
    (allowed : List (Option (BitVec 16))) : Prop :=
  ∀ bit : Fin 64, (bitsOf args).getLsbD bit = true → s.bound (receiverOf args) .sp bit ∈ allowed

instance (s : BindingTable) (args : ArmSxcArgs) (allowed : List (Option (BitVec 16))) :
    Decidable (s.AllBound args allowed) := Nat.decidableForallFin _

/-- The calls that `tableSpmc` serves: a signal for a vCPU is refused. -/
def BindingTable.grants (s : BindingTable) (args : ArmSxcArgs) : Bool :=
  if args.arg0 = fidNotificationSet.setWidth 64 then
    !args.arg2.getLsbD 0 && s.AllBound args [some (senderOf args)]
  else if args.arg0 = fidNotificationBitmapDestroy.setWidth 64 then
    s.pending (receiverOf args) .sp = 0 && s.pending (receiverOf args) .vm = 0 &&
      s.pending (receiverOf args) .framework = 0
  else if args.arg0 = fidNotificationBind.setWidth 64 then
    s.AllBound args [none, some (senderOf args)]
  else if args.arg0 = fidNotificationUnbind.setWidth 64 then
    s.AllBound args [some (senderOf args)] && s.pending (receiverOf args) .sp &&& bitsOf args = 0
  else true

/-- The table once a call is served. -/
def BindingTable.serve (s : BindingTable) (args : ArmSxcArgs) : BindingTable :=
  if args.arg0 = fidNotificationSet.setWidth 64 then
    { s with pending := fun receiver bitmap => s.pending receiver bitmap |||
        if receiver = receiverOf args ∧ bitmap = .sp then bitsOf args else 0 }
  else if args.arg0 = fidNotificationGet.setWidth 64 then
    { s with pending := fun receiver bitmap => s.pending receiver bitmap &&& ~~~
        if receiver = receiverOf args then selected args.arg2 bitmap else 0 }
  else if args.arg0 = fidNotificationBitmapDestroy.setWidth 64 then
    { s with bound := fun receiver bitmap bit =>
        if receiver = receiverOf args then none else s.bound receiver bitmap bit }
  else if args.arg0 = fidNotificationBind.setWidth 64 then
    { s with bound := fun receiver bitmap bit =>
        if receiver = receiverOf args ∧ bitmap = .sp ∧ (bitsOf args).getLsbD bit = true then
          some (senderOf args)
        else s.bound receiver bitmap bit }
  else if args.arg0 = fidNotificationUnbind.setWidth 64 then
    { s with bound := fun receiver bitmap bit =>
        if receiver = receiverOf args ∧ bitmap = .sp ∧ (bitsOf args).getLsbD bit = true then none
        else s.bound receiver bitmap bit }
  else s

/-- The registers of a served call. -/
def BindingTable.answer (s : BindingTable) (args : ArmSxcArgs) : ArmSxcArgs :=
  if args.arg0 = fidNotificationGet.setWidth 64 then
    getResult fun bitmap => s.pending (receiverOf args) bitmap &&& selected args.arg2 bitmap
  else { ArmSxcArgs.zero with arg0 := fidSuccess32.setWidth 64 }

/-- A call of the SPMC below, which refuses with `DENIED`. -/
def BindingTable.call (s : BindingTable) (args : ArmSxcArgs) : BindingTable × ArmSxcArgs :=
  if s.grants args then (s.serve args, s.answer args)
  else (s, { ArmSxcArgs.zero with arg0 := fidError.setWidth 64, arg2 := 0xFFFFFFFA })

/-- The pending bits of a partition as a whole: none is a vCPU's. -/
def BindingTable.pendingOf (s : BindingTable) (receiver : BitVec 16) (vCpu : Option (BitVec 16))
    (bitmap : Bitmap) : BitVec 64 :=
  if vCpu = none then s.pending receiver bitmap else 0

/-- A refused call leaves the table. -/
theorem BindingTable.call_refused {s : BindingTable} {args : ArmSxcArgs}
    (h : s.grants args = false) : Refused (s.call args).2 ∧ (s.call args).1 = s := by
  rw [call, h]
  exact ⟨⟨rfl, 6, by decide, by decide, rfl⟩, rfl⟩

/-- A served call is answered. -/
theorem BindingTable.call_granted {s : BindingTable} {args : ArmSxcArgs}
    (h : s.grants args = true) : s.call args = (s.serve args, s.answer args) := by
  rw [call, h, if_pos rfl]

/-- **The table keeps what is promised.** -/
def tableSpmc : BindingSpmc BindingTable where
  call := BindingTable.call
  raise s target bits :=
    { s with pending := fun receiver bitmap => s.pending receiver bitmap |||
        if receiver = target ∧ bitmap = .framework then bits else 0 }
  pending := BindingTable.pendingOf
  grants := BindingTable.grants
  senderBitmap _ := .sp
  bound := BindingTable.bound
  refused s args _ h := ⟨(BindingTable.call_refused h).1, by rw [(BindingTable.call_refused h).2]⟩
  set_granted s args hset h := by
    have hglobal : setVCpu args = none := by
      rw [BindingTable.grants, if_pos hset, Bool.and_eq_true, Bool.not_eq_true'] at h
      rw [setVCpu, h.1]
      rfl
    rw [BindingTable.call_granted h, BindingTable.serve, if_pos hset, BindingTable.answer,
      if_neg (by rw [hset]; decide), hglobal]
    refine ⟨rfl, fun receiver vCpu bitmap => ?_⟩
    cases vCpu with
    | none =>
      exact congrArg (s.pending receiver bitmap ||| ·)
        (if_congr (by simp [receiverOf]) rfl rfl)
    | some => simp [BindingTable.pendingOf]
  get_granted s args hget h := by
    rw [BindingTable.call_granted h, BindingTable.serve, if_neg (by rw [hget]; decide),
      if_pos hget, BindingTable.answer, if_pos hget]
    refine ⟨?_, fun receiver vCpu bitmap => ?_⟩
    · simp only [BindingTable.pendingOf, reduceCtorEq, if_true, if_false,
        BitVec.ofNat_eq_ofNat, BitVec.or_zero]
      exact ⟨rfl, rfl, rfl, rfl, rfl, rfl, rfl⟩
    · cases vCpu with
      | none => exact congrArg (_ &&& ~~~ ·) (if_congr (by simp [receiverOf, getReceiver]) rfl rfl)
      | some => simp [BindingTable.pendingOf]
  raised s target bits receiver vCpu bitmap := by
    cases vCpu with
    | none => simp only [BindingTable.pendingOf, if_pos, true_and]
    | some => simp [BindingTable.pendingOf]
  bound_signal s args hsignal := by
    rw [BindingTable.call]
    split
    · rcases hsignal with hset | hget
      · rw [BindingTable.serve, if_pos hset]
      · rw [BindingTable.serve, if_neg (by rw [hget]; decide), if_pos hget]
    · rfl
  bound_raise _ _ _ := rfl
  set_bound s args hset h bit hbit := by
    rw [BindingTable.grants, if_pos hset, Bool.and_eq_true, decide_eq_true_iff] at h
    simpa using h.2 bit hbit
  pending_managed s args hmanages := by
    rw [BindingTable.call]
    split
    · rcases hmanages with hid | hid | hid | hid
      all_goals
        simp only [BindingTable.serve, hid]
        rfl
    · rfl
  refused_managed s args _ h :=
    ⟨(BindingTable.call_refused h).1, by rw [(BindingTable.call_refused h).2]⟩
  create_granted s args hcreate h := by
    rw [BindingTable.call_granted h]
    simp only [BindingTable.serve, BindingTable.answer, hcreate]
    exact ⟨rfl, rfl⟩
  destroy_granted s args hdestroy h := by
    rw [BindingTable.call_granted h, BindingTable.serve, if_neg (by rw [hdestroy]; decide),
      if_neg (by rw [hdestroy]; decide), if_pos hdestroy, BindingTable.answer,
      if_neg (by rw [hdestroy]; decide)]
    rw [BindingTable.grants, if_neg (by rw [hdestroy]; decide), if_pos hdestroy] at h
    simp only [Bool.and_eq_true, decide_eq_true_iff] at h
    refine ⟨rfl, fun vCpu bitmap => ?_, fun _ _ _ => rfl⟩
    rw [BindingTable.pendingOf]
    split
    · cases bitmap with
      | sp => exact h.1.1
      | vm => exact h.1.2
      | framework => exact h.2
    · rfl
  bind_granted s args hbind h := by
    rw [BindingTable.call_granted h, BindingTable.serve, if_neg (by rw [hbind]; decide),
      if_neg (by rw [hbind]; decide), if_neg (by rw [hbind]; decide), if_pos hbind,
      BindingTable.answer, if_neg (by rw [hbind]; decide)]
    rw [BindingTable.grants, if_neg (by rw [hbind]; decide), if_neg (by rw [hbind]; decide),
      if_pos hbind, decide_eq_true_iff] at h
    exact ⟨rfl, fun bit hbit => by simpa using h bit hbit, fun _ _ _ => rfl⟩
  unbind_granted s args hunbind h := by
    rw [BindingTable.call_granted h, BindingTable.serve, if_neg (by rw [hunbind]; decide),
      if_neg (by rw [hunbind]; decide), if_neg (by rw [hunbind]; decide),
      if_neg (by rw [hunbind]; decide), if_pos hunbind, BindingTable.answer,
      if_neg (by rw [hunbind]; decide)]
    rw [BindingTable.grants, if_neg (by rw [hunbind]; decide),
      if_neg (by rw [hunbind]; decide), if_neg (by rw [hunbind]; decide), if_pos hunbind] at h
    simp only [Bool.and_eq_true, decide_eq_true_iff] at h
    refine ⟨rfl, fun bit hbit => ⟨by simpa using h.1 bit hbit, fun vCpu => ?_⟩, fun _ _ _ => rfl⟩
    rw [BindingTable.pendingOf]
    split
    · have hclear : (s.pending (receiverOf args) .sp &&& bitsOf args).getLsbD bit =
          (0 : BitVec 64).getLsbD bit := by rw [h.2]
      rw [BitVec.getLsbD_and, hbit, Bool.and_true] at hclear
      exact hclear.trans BitVec.getLsbD_zero
    · simp

/-- Endpoint `0x8001` binds bit 5 to endpoint `0x8002`, which sets it once it is bound: the
first attempt is refused. -/
def bindAndSet : List (Event ⊕ BindingEvent) :=
  [.inl (.set 0x8002 0x8002 0x8001 0 0x20), .inr (.bind 0x8001 0x8001 0x8002 0 0x20),
    .inl (.set 0x8002 0x8002 0x8001 0 0x20)]

/-- A table in which nothing is bound or pending. -/
def unusedTable : Endpoints BindingTable :=
  ⟨⟨fun _ _ => 0, fun _ _ _ => none⟩, fun _ => invalidSourceId⟩

/-- It is unused. -/
theorem unused_unusedTable : Unused tableSpmc unusedTable where
  bound _ _ _ := rfl
  pending n _ := by
    obtain ⟨receiver, vCpu, bitmap, bit⟩ := n
    cases vCpu with
    | none => simp [Pending, tableSpmc, BindingTable.pendingOf, unusedTable]
    | some => simp [Pending, tableSpmc, BindingTable.pendingOf]

/-- The step at which the endpoint asks for its bits. -/
def askStep : NotificationsStep BindingTable :=
  (notificationsMachine tableSpmc statusOf).stepAt
    ((notificationsMachine tableSpmc statusOf).final unusedTable bindAndSet)
    (.inl (.get 0x8001 0x8001 0 flagBitmapSp 0))

/-- The step reports bit 5. -/
theorem reportsAt_askStep : ReportsAt askStep ⟨0x8001, none, .sp, 5⟩ :=
  (reportsAt_iff tableSpmc statusOf _ _ _).2
    ⟨⟨by decide +kernel, .inl rfl, by decide⟩, 0x20, by decide +kernel, by decide⟩

/-- The endpoint gets the bit, and it is its sender's. -/
theorem reported_by_bound_table :
    ∃ n' sender, SameBit ⟨0x8001, none, .sp, 5⟩ n' ∧
      Bound tableSpmc askStep.pre ⟨0x8001, none, .sp, 5⟩ sender ∧
      SentByBound tableSpmc
        ((notificationsMachine tableSpmc statusOf).history unusedTable bindAndSet) n' sender :=
  @reported_by_bound _ tableSpmc statusOf statusOf_isErrorCode unusedTable unused_unusedTable
    (bindAndSet ++ [.inl (.get 0x8001 0x8001 0 flagBitmapSp 0)]) _ [] askStep
    (Machine.history_concat _ unusedTable bindAndSet _) ⟨0x8001, none, .sp, 5⟩ (by decide)
    reportsAt_askStep

end Ffa
end FfaFeature
