/-
# The notification service

`NotificationServiceLib.c` and `Include/Guid/NotificationServiceFfa.h`.

A partition registers, for a service named by a 16-byte UUID, *mappings* from a
32-bit cookie to a bit number of the global 64-bit notification bitmap.  The
store holds 16 service slots of 64 entries and the union of the bits handed out
(`NotifStore`).  A message carries one to seven mappings
(`updateServiceInfo`); `notificationServiceIdSet` raises the notification a
cookie stands for.

Fixed arrays are functions on their index set.  The integers are bit vectors of
the source's widths, so `1 << MappingId` is written as AArch64 computes it: a
32-bit shift by the amount modulo 32, sign-extended to the 64 bits of the
bitmap (`idMask`).
-/

import FfaFeature.Message
import FfaFeature.Lib.Machine
import Mathlib.Data.Fintype.Basic
import Mathlib.Data.Fin.Tuple.Basic

namespace FfaFeature
namespace Notification

/-- `NOTIFICATION_MAX_SERVICES`. -/
abbrev maxServices : ℕ := 16

/-- `NOTIFICATION_MAX_MAPPINGS`. -/
abbrev maxMappings : ℕ := 64

/-- `NotificationStatus`, the statuses the service returns. -/
inductive NotificationStatus
  | success
  | notSupported
  | invalidParameter
  | noMem
  deriving DecidableEq, Repr

/-- The `INT8` values `0`, `-1`, `-2`, `-3` of the statuses. -/
def NotificationStatus.toInt8 : NotificationStatus → BitVec 8
  | success => 0
  | notSupported => -1
  | invalidParameter => -2
  | noMem => -3

/-- A service UUID, 16 bytes. -/
abbrev Uuid := Fin 16 → BitVec 8

/-- `NotifInfo`: one entry of a service's table. -/
structure NotifInfo where
  cookie : BitVec 32
  id : BitVec 16
  perVcpu : Bool
  sourceId : BitVec 16
  inUse : Bool
  deriving DecidableEq, Repr

/-- An entry of zero bytes, as `ZeroMem` leaves it and as unregistering does. -/
def NotifInfo.zero : NotifInfo := ⟨0, 0, false, 0, false⟩

/-- `NotifService`: one service slot. -/
structure NotifService where
  serviceUuid : Uuid
  serviceInfo : Fin maxMappings → NotifInfo
  inUse : Bool

/-- A slot of zero bytes. -/
def NotifService.zero : NotifService := ⟨fun _ => 0, fun _ => .zero, false⟩

/-- The static variables `GlobalBitmask` and `NotificationServices`. -/
structure NotifStore where
  globalBitmask : BitVec 64
  notificationServices : Fin maxServices → NotifService

/-- The fields of `NotificationMapping`: bit 0, bits 23 to 31 and bits 32 to 63
of a message argument. -/
structure NotificationMapping where
  perVcpu : BitVec 1
  id : BitVec 9
  cookie : BitVec 32
  deriving DecidableEq, Repr

/-- The argument read as a `NotificationMapping`. -/
def NotificationMapping.ofUint64 (x : BitVec 64) : NotificationMapping :=
  ⟨x.extractLsb' 0 1, x.extractLsb' 23 9, x.extractLsb' 32 32⟩

/-- `MappingId`: the 9-bit `Id` in a `UINT16`. -/
def NotificationMapping.mappingId (m : NotificationMapping) : BitVec 16 := m.id.setWidth 16

/-- `1 << MappingId`, an `int` on AArch64. -/
def intShift (id : BitVec 16) : BitVec 32 := 1#32 <<< (id.toNat % 32)

/-- `1 << MappingId` where a `UINT64` is needed. -/
def idMask (id : BitVec 16) : BitVec 64 := (intShift id).signExtend 64

/-- `~(1 << MappingId)` where a `UINT64` is needed. -/
def idMaskNot (id : BitVec 16) : BitVec 64 := (~~~intShift id).signExtend 64

/-- The entry `i` of the slot replaced. -/
def NotifService.setInfo (service : NotifService) (i : Fin maxMappings) (info : NotifInfo) :
    NotifService :=
  { service with serviceInfo := Function.update service.serviceInfo i info }

/-- The slot `i` of the store replaced. -/
def NotifStore.setService (s : NotifStore) (i : Fin maxServices) (service : NotifService) :
    NotifStore :=
  { s with notificationServices := Function.update s.notificationServices i service }

/-- `IsMatchingCookie`: the first in-use entry with this cookie. -/
def isMatchingCookie (cookie : BitVec 32) (service : NotifService) : Option (Fin maxMappings) :=
  Fin.find? fun i => (service.serviceInfo i).inUse && (service.serviceInfo i).cookie == cookie

/-- The search of `UpdateServiceInfo` for an empty location. -/
def emptyIndex (service : NotifService) : Option (Fin maxMappings) :=
  Fin.find? fun i => !(service.serviceInfo i).inUse

/-- One turn of the loop of `UpdateServiceInfo`, on `TempService` and
`TempBitmask`: the status it breaks with, or the two updated. -/
def updateMapping (unregister : Bool) (sourceId : BitVec 16) (m : NotificationMapping)
    (tempService : NotifService) (tempBitmask : BitVec 64) :
    Except NotificationStatus (NotifService × BitVec 64) :=
  if unregister then
    match isMatchingCookie m.cookie tempService with
    | none => .error .invalidParameter
    | some foundIndex =>
      if (tempService.serviceInfo foundIndex).id ≠ m.mappingId then .error .invalidParameter
      else if (tempService.serviceInfo foundIndex).sourceId ≠ sourceId then
        .error .invalidParameter
      else .ok (tempService.setInfo foundIndex .zero, tempBitmask &&& idMaskNot m.mappingId)
  else
    match isMatchingCookie m.cookie tempService with
    | some _ => .error .invalidParameter
    | none =>
      if tempBitmask &&& idMask m.mappingId ≠ 0 then .error .invalidParameter
      else
        match emptyIndex tempService with
        | none => .error .noMem
        | some emptyIndex =>
          .ok (tempService.setInfo emptyIndex
              { cookie := m.cookie, id := m.mappingId, perVcpu := m.perVcpu != 0,
                sourceId := sourceId, inUse := true },
            tempBitmask ||| idMask m.mappingId)

/-- The loop of `UpdateServiceInfo` over the mappings of a message, for the slot
`i`.  The temporaries are copied back at the end of every turn that did not
break, not once after the loop. -/
def updateLoop (unregister : Bool) (sourceId : BitVec 16) (i : Fin maxServices) :
    List NotificationMapping → NotifService → BitVec 64 → NotifStore →
      NotificationStatus × NotifStore
  | [], _, _, s => (.success, s)
  | m :: ms, tempService, tempBitmask, s =>
    match updateMapping unregister sourceId m tempService tempBitmask with
    | .error returnVal => (returnVal, s)
    | .ok (tempService, tempBitmask) =>
      updateLoop unregister sourceId i ms tempService tempBitmask
        { s.setService i tempService with globalBitmask := tempBitmask }

/-- `ReqNumMappings`: `Arg6` in a `UINT8`. -/
def reqNumMappings (request : DirectMsgArgsEx) : ℕ := (request.arg6.setWidth 8).toNat

/-- `ReqMappings`: the arguments from `Arg7` on, as mappings. -/
def reqMappings (request : DirectMsgArgsEx) : List NotificationMapping :=
  [request.arg7, request.arg8, request.arg9, request.arg10, request.arg11, request.arg12,
    request.arg13].map .ofUint64

/-- `UpdateServiceInfo` for the slot `i`. -/
def updateServiceInfo (unregister : Bool) (request : DirectMsgArgsEx) (i : Fin maxServices)
    (s : NotifStore) : NotificationStatus × NotifStore :=
  -- `MAPPING_MIN` is 1 and `MAPPING_MAX` is 7
  if reqNumMappings request < 1 ∨ 7 < reqNumMappings request then (.invalidParameter, s)
  else
    updateLoop unregister request.sourceId i
      ((reqMappings request).take (reqNumMappings request))
      (s.notificationServices i) s.globalBitmask s

/-- `sizeof (Uuid)` in `LocateService`.  `Uuid` is a `UINT8 *` there, so this is
the size of a pointer, 8 on AArch64, and not the 16 of the array. -/
def sizeofUuidPointer : ℕ := 8

/-- `!CompareMem (a, b, n)` on two UUIDs: the first `n` bytes agree. -/
def equalMem (a b : Uuid) (n : ℕ) : Bool := decide (∀ k : Fin 16, k.val < n → a k = b k)

/-- `LocateService`: the first in-use slot whose UUID matches, or with
`locateEmpty` the first slot not in use. -/
def locateService (s : NotifStore) (uuid : Uuid) (locateEmpty : Bool) :
    Option (Fin maxServices) :=
  Fin.find? fun i =>
    if !locateEmpty && (s.notificationServices i).inUse then
      equalMem uuid (s.notificationServices i).serviceUuid sizeofUuidPointer
    else locateEmpty && !(s.notificationServices i).inUse

/-- `NotificationServiceExtractUuid`: the two words, most significant byte
first, the high word before the low one. -/
def notificationServiceExtractUuid (uuidLo uuidHi : BitVec 64) : Uuid := fun index =>
  if index.val < 8 then (uuidHi >>> ((7 - index.val) * 8)).setWidth 8
  else (uuidLo >>> ((15 - index.val) * 8)).setWidth 8

/-- The UUID a request carries in `x7` and `x8`. -/
def requestUuid (request : DirectMsgArgsEx) : Uuid :=
  notificationServiceExtractUuid request.arg3 request.arg4

/-- The slot `RegisterHandler` works on: the one located by UUID, else an empty
one. -/
def registerSlot (s : NotifStore) (uuid : Uuid) : Option (Fin maxServices) :=
  match locateService s uuid false with
  | some i => some i
  | none => locateService s uuid true

/-- The part of `RegisterHandler` past the search: update the slot `i`, and on
success claim it for the UUID if it was not in use. -/
def registerAt (request : DirectMsgArgsEx) (i : Fin maxServices) (s : NotifStore) :
    NotificationStatus × NotifStore :=
  match updateServiceInfo false request i s with
  | (.success, s) =>
    if (s.notificationServices i).inUse then (.success, s)
    else (.success, s.setService i { s.notificationServices i with
      serviceUuid := requestUuid request, inUse := true })
  | (returnVal, s) => (returnVal, s)

/-- `RegisterHandler`. -/
def registerHandler (s : NotifStore) (request : DirectMsgArgsEx) :
    NotificationStatus × NotifStore :=
  match registerSlot s (requestUuid request) with
  | some i => registerAt request i s
  | none => (.noMem, s)

/-- `UnregisterHandler`. -/
def unregisterHandler (s : NotifStore) (request : DirectMsgArgsEx) :
    NotificationStatus × NotifStore :=
  match locateService s (requestUuid request) false with
  | some i => updateServiceInfo true request i s
  | none => (.invalidParameter, s)

/-- `NotificationServiceInit`. -/
def notificationServiceInit : NotifStore := ⟨0, fun _ => .zero⟩

/-- `NOTIFICATION_OPCODE_REGISTER`. -/
def opcodeRegister : ℕ := 2

/-- `NOTIFICATION_OPCODE_UNREGISTER`. -/
def opcodeUnregister : ℕ := 3

/-- `Request->Arg5 & MESSAGE_INFO_ID_MASK`. -/
def opcode (request : DirectMsgArgsEx) : ℕ := (request.arg5 &&& 3).toNat

/-- The switch of `NotificationServiceHandle`.  The mask keeps two bits of the
opcode, so the memory opcodes 4 and 5 and the default are never taken. -/
def handleOpcode (s : NotifStore) (request : DirectMsgArgsEx) : NotificationStatus × NotifStore :=
  match opcode request with
  | 0 | 1 => (.notSupported, s)
  | 4 | 5 => (.notSupported, s)
  | 2 => registerHandler s request
  | 3 => unregisterHandler s request
  | _ => (.invalidParameter, s)

/-- `NotificationServiceHandle`: the store after the request, and the response. -/
def notificationServiceHandle (s : NotifStore) (request response : DirectMsgArgsEx) :
    NotifStore × DirectMsgArgsEx :=
  ((handleOpcode s request).2,
    { response with
      arg1 := request.arg1, arg2 := request.arg2, arg3 := request.arg3, arg4 := request.arg4,
      arg5 := request.arg5 ||| 0x100,
      arg6 := (handleOpcode s request).1.toInt8.setWidth 64 &&& 0xFF })

/-- The arguments of a call of `FfaNotificationSet`. -/
structure NotificationSetCall where
  destinationId : BitVec 16
  flags : BitVec 64
  notificationBitmap : BitVec 64
  deriving DecidableEq, Repr

/-- The search of `NotificationServiceIdSet`: the first entry with this cookie, in
use or not. -/
def cookieIndex (cookie : BitVec 32) (service : NotifService) : Option (Fin maxMappings) :=
  Fin.find? fun index => (service.serviceInfo index).cookie == cookie

/-- The call `NotificationServiceIdSet` makes for an entry. -/
def setCall (info : NotifInfo) (flag : BitVec 32) : NotificationSetCall :=
  { destinationId := info.sourceId
    flags := (if info.perVcpu then flag ||| 1 else flag).setWidth 64
    notificationBitmap := idMask info.id }

/-- `NotificationServiceIdSet`: the status, and the calls of `FfaNotificationSet`
it makes; `ffaNotificationSet` is what such a call returns, and `none` the null
pointer. -/
def notificationServiceIdSet (ffaNotificationSet : NotificationSetCall → EfiStatus)
    (s : NotifStore) (cookie : BitVec 32) (serviceUuid : Option Uuid) (flag : BitVec 32) :
    NotificationStatus × List NotificationSetCall :=
  match serviceUuid with
  | none => (.invalidParameter, [])
  | some uuid =>
    match locateService s uuid false with
    | none => (.invalidParameter, [])
    | some i =>
      match cookieIndex cookie (s.notificationServices i) with
      | none => (.invalidParameter, [])
      | some index =>
        let call := setCall ((s.notificationServices i).serviceInfo index) flag
        (if (ffaNotificationSet call).isError then .invalidParameter else .success, [call])

/-- The service as a machine: an input is a request with the response structure
it is answered in. -/
def notifMachine : Machine NotifStore (DirectMsgArgsEx × DirectMsgArgsEx) DirectMsgArgsEx where
  step s m := notificationServiceHandle s m.1 m.2

/-- The states reached from `NotificationServiceInit` by requests. -/
def Reachable (s : NotifStore) : Prop := notifMachine.Reachable notificationServiceInit s

end Notification
end FfaFeature
