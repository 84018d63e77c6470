/-
# The registers of an FF-A call

`ARM_SXC_ARGS` of `Include/Library/ArmFfaLibEx.h`, the function ids of the calls
`Library/ArmFfaLibEx/ArmFfaLibEx.c` makes or answers, and the byte orders of an
`EFI_GUID`: `FfaPrepareGuid` reverses the bytes of its first three fields and is
its own inverse, and a GUID copied over two registers is read back from them.
-/

import FfaFeature.Message
import Mathlib.Tactic.FinCases

namespace FfaFeature
namespace Ffa

/-- `ARM_SXC_ARGS`: the eighteen registers of an SMC or SVC. -/
@[ext] structure ArmSxcArgs where
  arg0 : BitVec 64
  arg1 : BitVec 64
  arg2 : BitVec 64
  arg3 : BitVec 64
  arg4 : BitVec 64
  arg5 : BitVec 64
  arg6 : BitVec 64
  arg7 : BitVec 64
  arg8 : BitVec 64
  arg9 : BitVec 64
  arg10 : BitVec 64
  arg11 : BitVec 64
  arg12 : BitVec 64
  arg13 : BitVec 64
  arg14 : BitVec 64
  arg15 : BitVec 64
  arg16 : BitVec 64
  arg17 : BitVec 64

/-- The registers with every field zero, as `{ 0 }` initializes them. -/
def ArmSxcArgs.zero : ArmSxcArgs := ⟨0, 0, 0, 0, 0, 0, 0, 0, 0, 0, 0, 0, 0, 0, 0, 0, 0, 0⟩

/-! ### Function ids -/

/-- `ARM_FID_FFA_ERROR`. -/
def fidError : BitVec 32 := 0x84000060

/-- `ARM_FID_FFA_MSG_SEND_DIRECT_REQ_AARCH32`. -/
def fidMsgSendDirectReq32 : BitVec 32 := 0x8400006F

/-- `ARM_FID_FFA_MSG_SEND_DIRECT_RESP_AARCH32`. -/
def fidMsgSendDirectResp32 : BitVec 32 := 0x84000070

/-- `ARM_FID_FFA_SUCCESS_AARCH32`. -/
def fidSuccess32 : BitVec 32 := 0x84000061

/-- `ARM_FID_FFA_INTERRUPT`. -/
def fidInterrupt : BitVec 32 := 0x84000062

/-- `ARM_FID_FFA_WAIT`. -/
def fidWait : BitVec 32 := 0x8400006B

/-- `ARM_FID_FFA_NOTIFICATION_SET`. -/
def fidNotificationSet : BitVec 32 := 0x84000081

/-- `ARM_FID_FFA_NOTIFICATION_GET`. -/
def fidNotificationGet : BitVec 32 := 0x84000082

/-- `ARM_FID_FFA_MSG_SEND_DIRECT_REQ_AARCH64`. -/
def fidMsgSendDirectReq64 : BitVec 32 := 0xC400006F

/-- `ARM_FID_FFA_MSG_SEND_DIRECT_RESP_AARCH64`. -/
def fidMsgSendDirectResp64 : BitVec 32 := 0xC4000070

/-- `ARM_FID_FFA_PARTITION_INFO_GET_REGS`. -/
def fidPartitionInfoGetRegs : BitVec 32 := 0xC400008B

/-- `ARM_FID_FFA_MSG_SEND_DIRECT_REQ2`. -/
def fidMsgSendDirectReq2 : BitVec 32 := 0xC400008D

/-- `ARM_FID_FFA_MSG_SEND_DIRECT_RESP2`. -/
def fidMsgSendDirectResp2 : BitVec 32 := 0xC400008E

/-! ### Two ids in a register -/

/-- `((UINT32)High << 16) | Low`, as a register takes it. -/
def packIds (high low : BitVec 16) : BitVec 64 :=
  (high.setWidth 32 <<< 16 ||| low.setWidth 32).setWidth 64

/-- The lower id is read back. -/
@[simp] theorem packIds_low (high low : BitVec 16) : (packIds high low).setWidth 16 = low := by
  refine BitVec.eq_of_getLsbD_eq fun i hi => ?_
  simp [packIds, hi]

/-- So is the upper one. -/
@[simp] theorem packIds_high (high low : BitVec 16) :
    (packIds high low >>> 16).setWidth 16 = high := by
  refine BitVec.eq_of_getLsbD_eq fun i hi => ?_
  simp [packIds, hi, show 16 + i < 64 by omega, show 16 + i < 32 by omega]

/-! ### Byte order -/

/-- `SwapBytes16`. -/
def swapBytes16 (value : BitVec 16) : BitVec 16 := value <<< 8 ||| value >>> 8

/-- `SwapBytes32`. -/
def swapBytes32 (value : BitVec 32) : BitVec 32 :=
  let lowerBytes := (swapBytes16 (value.setWidth 16)).setWidth 32
  let higherBytes := (swapBytes16 ((value >>> 16).setWidth 16)).setWidth 32
  lowerBytes <<< 16 ||| higherBytes

/-- The bits of a half word trade places with those eight away. -/
theorem getLsbD_swapBytes16 (value : BitVec 16) (i : ℕ) (hi : i < 16) :
    (swapBytes16 value).getLsbD i = value.getLsbD (if i < 8 then i + 8 else i - 8) := by
  split <;> rename_i h
  · simp [swapBytes16, h, Nat.add_comm]
  · simp only [swapBytes16, BitVec.getLsbD_or, BitVec.getLsbD_shiftLeft,
      BitVec.getLsbD_ushiftRight, BitVec.getLsbD_of_ge value (8 + i) (by omega)]
    simp [h, hi]

/-- Swapping the bytes of 16 bits is its own inverse. -/
theorem swapBytes16_swapBytes16 (value : BitVec 16) : swapBytes16 (swapBytes16 value) = value := by
  refine BitVec.eq_of_getLsbD_eq fun i hi => ?_
  rw [getLsbD_swapBytes16 _ i hi]
  split
  · rw [getLsbD_swapBytes16 _ _ (by omega), if_neg (by omega), Nat.add_sub_cancel]
  · rw [getLsbD_swapBytes16 _ _ (by omega), if_pos (by omega), Nat.sub_add_cancel (by omega)]

/-- The lower half of a swapped word is its upper half swapped. -/
theorem setWidth_swapBytes32 (value : BitVec 32) :
    (swapBytes32 value).setWidth 16 = swapBytes16 ((value >>> 16).setWidth 16) := by
  refine BitVec.eq_of_getLsbD_eq fun i hi => ?_
  simp [swapBytes32, hi]

/-- The upper half of a swapped word is its lower half swapped. -/
theorem shiftRight_swapBytes32 (value : BitVec 32) :
    (swapBytes32 value >>> 16).setWidth 16 = swapBytes16 (value.setWidth 16) := by
  refine BitVec.eq_of_getLsbD_eq fun i hi => ?_
  simp [swapBytes32, hi, show 16 + i < 32 by omega]

/-- And so for 32 bits. -/
theorem swapBytes32_swapBytes32 (value : BitVec 32) : swapBytes32 (swapBytes32 value) = value := by
  rw [swapBytes32, setWidth_swapBytes32, shiftRight_swapBytes32, swapBytes16_swapBytes16,
    swapBytes16_swapBytes16]
  refine BitVec.eq_of_getLsbD_eq fun i hi => ?_
  rcases Nat.lt_or_ge i 16 with h | h
  · simp [h, hi]
  · simp [show ¬ i < 16 by omega, hi, show 16 + (i - 16) = i by omega, show i - 16 < 16 by omega]

/-! ### GUIDs -/

/-- `FfaPrepareGuid`. -/
def ffaPrepareGuid (guid : EfiGuid) : EfiGuid :=
  { guid with data1 := swapBytes32 guid.data1, data2 := swapBytes16 guid.data2,
              data3 := swapBytes16 guid.data3 }

/-- **`FfaPrepareGuid` is its own inverse.** -/
@[simp] theorem ffaPrepareGuid_ffaPrepareGuid (guid : EfiGuid) :
    ffaPrepareGuid (ffaPrepareGuid guid) = guid := by
  simp only [ffaPrepareGuid, swapBytes32_swapBytes32, swapBytes16_swapBytes16]

/-- The register that holds the first eight bytes of a GUID in memory, least byte first. -/
def guidLow (guid : EfiGuid) : BitVec 64 := guid.data3 ++ guid.data2 ++ guid.data1

/-- The register that holds the last eight bytes of a GUID in memory, least byte first. -/
def guidHigh (guid : EfiGuid) : BitVec 64 :=
  guid.data4 7 ++ guid.data4 6 ++ guid.data4 5 ++ guid.data4 4 ++
    guid.data4 3 ++ guid.data4 2 ++ guid.data4 1 ++ guid.data4 0

/-- The GUID a copy of two registers holds. -/
def guidOfRegisters (low high : BitVec 64) : EfiGuid where
  data1 := low.extractLsb' 0 32
  data2 := low.extractLsb' 32 16
  data3 := low.extractLsb' 48 16
  data4 i := high.extractLsb' (8 * i) 8

/-- The bytes of `Data4` in their register. -/
theorem guidHigh_byte (guid : EfiGuid) (i : Fin 8) :
    (guidHigh guid).extractLsb' (8 * i) 8 = guid.data4 i := by
  fin_cases i <;>
    simp (disch := decide) only [guidHigh, BitVec.extractLsb'_append_eq_of_le, Nat.reduceMul,
      Nat.reduceSub, BitVec.extractLsb'_append_eq_right, BitVec.extractLsb'_eq_self, Fin.zero_eta,
      Fin.mk_one, Fin.reduceFinMk]

/-- **A GUID copied to two registers is read back from them.** -/
@[simp] theorem guidOfRegisters_guidLow_guidHigh (guid : EfiGuid) :
    guidOfRegisters (guidLow guid) (guidHigh guid) = guid := by
  have h1 : (guidLow guid).extractLsb' 0 32 = guid.data1 := BitVec.extractLsb'_append_eq_right
  have h2 : (guidLow guid).extractLsb' 32 16 = guid.data2 := by
    rw [guidLow, BitVec.extractLsb'_append_eq_of_le (by decide)]
    exact BitVec.extractLsb'_append_eq_right
  have h3 : (guidLow guid).extractLsb' 48 16 = guid.data3 := by
    rw [guidLow, BitVec.extractLsb'_append_eq_of_le (by decide)]
    exact BitVec.extractLsb'_append_eq_left
  simp only [guidOfRegisters, h1, h2, h3, guidHigh_byte]

end Ffa
end FfaFeature
