/-
# Registers, localities and message values of the TPM service

`TpmServiceLib.c` and `TpmServiceStateTranslationLib.c` take the layout and the
bits of the TPM's registers from the platform profile header (`TpmPtp.h`), and
the values of their messages from `Guid/Tpm2ServiceFfa.h`.  The profile is a
standard and its numbers are written out here.  The message header is not part
of the repository: its values are a parameter (`Tpm2ServiceFfa`), with the
distinctness a `switch` over them relies on.
-/

import FfaFeature.Message
import Mathlib.Data.Fintype.Basic
import Mathlib.Data.List.Nodup

namespace FfaFeature
namespace Tpm

/-- `NUM_LOCALITIES`. -/
abbrev numLocalities : ℕ := 5

/-- A locality that passed the check against `NUM_LOCALITIES`. -/
abbrev Locality := Fin numLocalities

instance : NeZero numLocalities := ⟨by decide⟩

/-- `sizeof (CrbDataBuffer)`. -/
abbrev crbDataBufferSize : ℕ := 0xF80

/-- `PTP_CRB_REGISTERS`, the registers the service reads or writes. -/
structure PtpCrbRegisters where
  localityState : BitVec 32
  localityControl : BitVec 32
  localityStatus : BitVec 32
  interfaceId : BitVec 32
  crbControlExtension : BitVec 64
  crbControlRequest : BitVec 32
  crbControlStatus : BitVec 32
  crbControlCancel : BitVec 32
  crbControlStart : BitVec 32
  crbInterruptEnable : BitVec 32
  crbInterruptStatus : BitVec 32
  crbControlCommandSize : BitVec 32
  crbControlCommandAddressLow : BitVec 32
  crbControlCommandAddressHigh : BitVec 32
  crbControlResponseSize : BitVec 32
  crbControlResponseAddrss : BitVec 64
  crbDataBuffer : Fin crbDataBufferSize → BitVec 8

/-- A page of zero bytes, as `SetMem` leaves it. -/
def PtpCrbRegisters.zero : PtpCrbRegisters :=
  ⟨0, 0, 0, 0, 0, 0, 0, 0, 0, 0, 0, 0, 0, 0, 0, 0, fun _ => 0⟩

/-- The registers of a page: the page with its data buffer blanked. -/
def PtpCrbRegisters.registers (page : PtpCrbRegisters) : PtpCrbRegisters :=
  { page with crbDataBuffer := fun _ => 0 }

/-! ### Bits of the registers -/

/-- `PTP_CRB_LOCALITY_STATE_TPM_REG_VALID_STATUS`. -/
def localityStateTpmRegValidStatus : BitVec 32 := 0x80

/-- `PTP_CRB_LOCALITY_STATE_LOCALITY_ASSIGNED`. -/
def localityStateLocalityAssigned : BitVec 32 := 0x02

/-- `PTP_CRB_LOCALITY_STATE_ACTIVE_LOCALITY_0` to `_4`. -/
def localityStateActiveLocality : Locality → BitVec 32
  | 0 => 0x00
  | 1 => 0x04
  | 2 => 0x08
  | 3 => 0x0C
  | 4 => 0x10

/-- `PTP_CRB_LOCALITY_CONTROL_REQUEST_ACCESS`. -/
def localityControlRequestAccess : BitVec 32 := 0x1

/-- `PTP_CRB_LOCALITY_CONTROL_RELINQUISH`. -/
def localityControlRelinquish : BitVec 32 := 0x2

/-- `PTP_CRB_LOCALITY_STATUS_GRANTED`. -/
def localityStatusGranted : BitVec 32 := 0x1

/-- `PTP_CRB_CONTROL_AREA_REQUEST_COMMAND_READY`. -/
def requestCommandReady : BitVec 32 := 0x1

/-- `PTP_CRB_CONTROL_AREA_REQUEST_GO_IDLE`. -/
def requestGoIdle : BitVec 32 := 0x2

/-- `PTP_CRB_CONTROL_AREA_STATUS_TPM_IDLE`. -/
def statusTpmIdle : BitVec 32 := 0x2

/-- `PTP_CRB_CONTROL_START`. -/
def controlStart : BitVec 32 := 0x1

/-- `PTP_FIFO_STS_VALID`. -/
def fifoStsValid : BitVec 32 := 0x80

/-- `PTP_FIFO_STS_READY`. -/
def fifoStsReady : BitVec 32 := 0x40

/-- `PTP_FIFO_STS_GO`. -/
def fifoStsGo : BitVec 32 := 0x20

/-- `PTP_FIFO_STS_DATA`. -/
def fifoStsData : BitVec 32 := 0x10

/-- `PTP_FIFO_STS_EXPECT`. -/
def fifoStsExpect : BitVec 32 := 0x08

/-- `PTP_FIFO_ACC_RQUUSE`. -/
def fifoAccRquuse : BitVec 32 := 0x02

/-- `PTP_FIFO_ACC_ACTIVE`. -/
def fifoAccActive : BitVec 32 := 0x20

/-- `PTP_FIFO_VALID`. -/
def fifoValid : BitVec 32 := 0x80

/-- `PTP_TIMEOUT_A`, in microseconds as the others. -/
def ptpTimeoutA : BitVec 32 := 750 * 1000

/-- `PTP_TIMEOUT_B`. -/
def ptpTimeoutB : BitVec 32 := 2000 * 1000

/-- `PTP_TIMEOUT_C`. -/
def ptpTimeoutC : BitVec 32 := 200 * 1000

/-- `PTP_TIMEOUT_D`. -/
def ptpTimeoutD : BitVec 32 := 30 * 1000

/-- `PTP_TIMEOUT_MAX`. -/
def ptpTimeoutMax : BitVec 32 := 90000 * 1000

/-- `YIELD_AMOUNT`. -/
def yieldAmount : BitVec 32 := 10 * 1000

/-! ### Values of the messages -/

/-- `Guid/Tpm2ServiceFfa.h`: the opcodes, qualifiers, operations and statuses of
the service's messages, distinct where the code tells them apart. -/
structure Tpm2ServiceFfa where
  getInterfaceVersion : BitVec 64
  getFeatureInfo : BitVec 64
  start : BitVec 64
  registerForNotification : BitVec 64
  unregisterFromNotification : BitVec 64
  finishNotified : BitVec 64
  manageLocality : BitVec 64
  startFuncQualifierCommand : BitVec 16
  startFuncQualifierLocality : BitVec 16
  manageLocalityOpen : BitVec 16
  manageLocalityClose : BitVec 16
  successOk : BitVec 64
  successOkResultsReturned : BitVec 64
  errorNofunc : BitVec 64
  errorNotsup : BitVec 64
  errorInvarg : BitVec 64
  errorDenied : BitVec 64
  errorNomem : BitVec 64
  opcodes_nodup : [getInterfaceVersion, getFeatureInfo, start, registerForNotification,
    unregisterFromNotification, finishNotified, manageLocality].Nodup
  qualifiers_ne : startFuncQualifierCommand ≠ startFuncQualifierLocality
  operations_ne : manageLocalityOpen ≠ manageLocalityClose
  statuses_nodup : [successOk, successOkResultsReturned, errorNofunc, errorNotsup, errorInvarg,
    errorDenied, errorNomem].Nodup

/-- `START` is not `MANAGE_LOCALITY`. -/
theorem Tpm2ServiceFfa.start_ne_manageLocality (values : Tpm2ServiceFfa) :
    values.start ≠ values.manageLocality := by
  have h := values.opcodes_nodup
  simp only [List.nodup_cons, List.mem_cons, not_or] at h
  exact h.2.2.1.2.2.2.1

/-- The success code is no error code. -/
theorem Tpm2ServiceFfa.successOk_ne_errors (values : Tpm2ServiceFfa) :
    values.successOk ≠ values.errorInvarg ∧ values.successOk ≠ values.errorDenied ∧
      values.successOk ≠ values.errorNomem := by
  have h := values.statuses_nodup
  simp only [List.nodup_cons, List.mem_cons, not_or] at h
  obtain ⟨⟨-, -, -, hinvarg, hdenied, hnomem, -⟩, -⟩ := h
  exact ⟨hinvarg, hdenied, hnomem⟩

/-- Values like those of the interface's specification. -/
def Tpm2ServiceFfa.standard : Tpm2ServiceFfa where
  getInterfaceVersion := 0x0F000001
  getFeatureInfo := 0x0F000101
  start := 0x0F000201
  registerForNotification := 0x0F000301
  unregisterFromNotification := 0x0F000401
  finishNotified := 0x0F000501
  manageLocality := 0x1F000001
  startFuncQualifierCommand := 0
  startFuncQualifierLocality := 1
  manageLocalityOpen := 0
  manageLocalityClose := 1
  successOk := 0x05000001
  successOkResultsReturned := 0x05000002
  errorNofunc := 0x8E000001
  errorNotsup := 0x8E000002
  errorInvarg := 0x8E000003
  errorDenied := 0x8E000004
  errorNomem := 0x8E000005
  opcodes_nodup := by decide
  qualifiers_ne := by decide
  operations_ne := by decide
  statuses_nodup := by decide

/-- What the service is built for: the message values, and
`PcdTpmInternalBaseAddress`, where the pages it shares with its clients lie. -/
structure TpmPlatform extends Tpm2ServiceFfa where
  pcdTpmInternalBaseAddress : BitVec 64

/-- A platform, with the shared pages at an address of the usual kind. -/
def TpmPlatform.standard : TpmPlatform where
  toTpm2ServiceFfa := .standard
  pcdTpmInternalBaseAddress := 0x10000200000

end Tpm
end FfaFeature
