/-
# Status codes and direct messages

`EFI_STATUS` is a `UINTN` whose top bit marks an error; the codes are those the
modelled functions return or test, with the values the UEFI specification gives
them.  `DIRECT_MSG_ARGS_EX` is the unpacked FF-A direct message of
`Include/Library/ArmFfaLibEx.h`, which the services of this package receive and
answer.
-/

import Mathlib.Tactic.Common
import Mathlib.Data.BitVec

namespace FfaFeature

/-- `EFI_STATUS`. -/
abbrev EfiStatus := BitVec 64

namespace EfiStatus

/-- `EFI_SUCCESS`. -/
def success : EfiStatus := 0

/-- `EFI_INVALID_PARAMETER`. -/
def invalidParameter : EfiStatus := 0x8000000000000002

/-- `EFI_UNSUPPORTED`. -/
def unsupported : EfiStatus := 0x8000000000000003

/-- `EFI_BUFFER_TOO_SMALL`. -/
def bufferTooSmall : EfiStatus := 0x8000000000000005

/-- `EFI_DEVICE_ERROR`. -/
def deviceError : EfiStatus := 0x8000000000000007

/-- `EFI_OUT_OF_RESOURCES`. -/
def outOfResources : EfiStatus := 0x8000000000000009

/-- `EFI_NOT_FOUND`. -/
def notFound : EfiStatus := 0x800000000000000E

/-- `EFI_ACCESS_DENIED`. -/
def accessDenied : EfiStatus := 0x800000000000000F

/-- `EFI_TIMEOUT`. -/
def timeout : EfiStatus := 0x8000000000000012

/-- `EFI_ERROR`: the top bit of the status. -/
def isError (status : EfiStatus) : Bool := status.msb

/-- Success is no error. -/
@[simp] theorem isError_success : success.isError = false := by decide

end EfiStatus

/-- `EFI_GUID`. -/
structure EfiGuid where
  data1 : BitVec 32
  data2 : BitVec 16
  data3 : BitVec 16
  data4 : Fin 8 → BitVec 8

/-- The GUID of zero bytes. -/
def EfiGuid.zero : EfiGuid := ⟨0, 0, 0, fun _ => 0⟩

/-- `DIRECT_MSG_ARGS_EX`. -/
structure DirectMsgArgsEx where
  functionId : BitVec 32
  sourceId : BitVec 16
  destinationId : BitVec 16
  serviceGuid : EfiGuid
  arg0 : BitVec 64
  arg1 : BitVec 64
  arg2 : BitVec 64
  arg3 : BitVec 64
  arg4 : BitVec 64
  arg5 : BitVec 64
  arg6 : BitVec 64
  arg7 : BitVec 64
  arg8 : BitVec 64
  arg9 : BitVec 64
  arg10 : BitVec 64
  arg11 : BitVec 64
  arg12 : BitVec 64
  arg13 : BitVec 64

/-- The message with every field zero, as `{ 0 }` initializes it. -/
def DirectMsgArgsEx.zero : DirectMsgArgsEx :=
  ⟨0, 0, 0, ⟨0, 0, 0, fun _ => 0⟩, 0, 0, 0, 0, 0, 0, 0, 0, 0, 0, 0, 0, 0, 0⟩

end FfaFeature
