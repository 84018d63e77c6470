/-
# The state translation library

`TpmServiceStateTranslationLib.c`: the operations of the service's command
interface carried out on the external TPM, which is a CRB or a FIFO device.

The TPM is an environment (`ExternalTpm`) that answers every register read and
decides every yield, as it likes and depending on all that happened.  Register
accesses, yields and the accesses to the byte buffers by index are the events of
a computation (`TpmIo`).

The lengths of a command and of its response are read from the page that a client
can write, and used as they are.  An access past the end of a buffer is an event
like the others; what lies there is not part of the model, so a read gives some
byte of the environment's (`pastEnd`) and a write to a page is lost.
-/

import FfaFeature.Lib.Traced
import FfaFeature.Tpm.Ptp

namespace FfaFeature
namespace Tpm

/-! ### The external TPM -/

/-- The registers of the external TPM the library accesses.  `crbDataBuffer` has
the index of the byte. -/
inductive ExternalRegister
  | crbLocalityControl
  | crbLocalityStatus
  | crbControlRequest
  | crbControlStatus
  | crbControlStart
  | crbDataBuffer (index : ℕ)
  | fifoAccess
  | fifoStatus
  | fifoBurstCount
  | fifoBurstCountHigh
  | fifoDataFifo
  deriving DecidableEq, Repr

/-- The byte buffers in memory. -/
inductive Buffer
  | tpmCommandBuffer
  | internalCrbDataBuffer
  deriving DecidableEq, Repr

/-- What the library does, one access at a time. -/
inductive Event
  | mmioRead (locality : Locality) (register : ExternalRegister) (value : BitVec 32)
  | mmioWrite (locality : Locality) (register : ExternalRegister) (value : BitVec 32)
  | yield (status : EfiStatus)
  | load (buffer : Buffer) (index : ℕ)
  | store (buffer : Buffer) (index : ℕ)
  deriving DecidableEq, Repr

/-- The environment: what a register holds when it is read, what
`ArmFfaLibYield` returns, the value of a status never assigned, and the bytes
past the end of a data buffer. -/
structure ExternalTpm where
  read : List Event → Locality → ExternalRegister → BitVec 32
  yield : List Event → EfiStatus
  unassigned : EfiStatus
  pastEnd : ℕ → BitVec 8

/-- A TPM whose registers all read as `value`, and which is never interrupted. -/
def ExternalTpm.const (value : BitVec 32) : ExternalTpm where
  read _ _ _ := value
  yield _ := EfiStatus.success
  unassigned := EfiStatus.success
  pastEnd _ := 0

/-- Computations on the external TPM. -/
abbrev TpmIo := Traced ExternalTpm Event

/-- `MmioRead32`. -/
def mmioRead32 (locality : Locality) (register : ExternalRegister) : TpmIo (BitVec 32) :=
  Traced.query (fun tpm h => tpm.read h locality register) (.mmioRead locality register)

/-- `MmioRead8`. -/
def mmioRead8 (locality : Locality) (register : ExternalRegister) : TpmIo (BitVec 8) :=
  Traced.query (fun tpm h => (tpm.read h locality register).setWidth 8)
    fun value => .mmioRead locality register (value.setWidth 32)

/-- `MmioWrite32` and `MmioWrite8`. -/
def mmioWrite (locality : Locality) (register : ExternalRegister) (value : BitVec 32) :
    TpmIo Unit :=
  Traced.emit (.mmioWrite locality register value)

/-- `ArmFfaLibYield (YIELD_AMOUNT)`. -/
def armFfaLibYield : TpmIo EfiStatus :=
  Traced.query (fun tpm h => tpm.yield h) .yield

/-! ### Waiting -/

/-- The loop of `FifoReadBurstCount` and `WaitRegisterBits`: poll until `done`,
yielding in between, until the delays reach the timeout.  The last value polled
comes with the status. -/
def pollLoop {α : Type} [Inhabited α] (poll : TpmIo α) (done : α → Bool) (timeout : BitVec 32) :
    ℕ → BitVec 32 → TpmIo (EfiStatus × α)
  | 0, _ => pure (EfiStatus.timeout, default)
  | fuel + 1, delayAmount => do
    let value ← poll
    if done value then pure (EfiStatus.success, value)
    else if timeout ≤ delayAmount then pure (EfiStatus.timeout, value)
    else do
      let status ← armFfaLibYield
      if status.isError then pure (status, value)
      else pollLoop poll done timeout fuel (delayAmount + yieldAmount)

/-- Turns enough for the delays to reach the timeout. -/
def pollFuel (timeout : BitVec 32) : ℕ := timeout.toNat / yieldAmount.toNat + 2

/-- The two byte reads of `FifoReadBurstCount`. -/
def pollBurstCount (locality : Locality) : TpmIo (BitVec 16) := do
  let dataByte0 ← mmioRead8 locality .fifoBurstCount
  let dataByte1 ← mmioRead8 locality .fifoBurstCountHigh
  pure ((dataByte1.setWidth 16 <<< 8) + dataByte0.setWidth 16)

/-- `FifoReadBurstCount`: the status, and `*BurstCount`. -/
def fifoReadBurstCount (locality : Locality) : TpmIo (EfiStatus × BitVec 16) :=
  pollLoop (pollBurstCount locality) (fun burstCount => burstCount != 0) ptpTimeoutD
    (pollFuel ptpTimeoutD) 0

/-- The register read of `WaitRegisterBits`. -/
def pollRegister (mIsCrbInterface : Bool) (locality : Locality) (register : ExternalRegister) :
    TpmIo (BitVec 32) :=
  if mIsCrbInterface then mmioRead32 locality register
  else do
    let regRead ← mmioRead8 locality register
    pure (regRead.setWidth 32)

/-- `WaitRegisterBits`. -/
def waitRegisterBits (mIsCrbInterface : Bool) (locality : Locality) (register : ExternalRegister)
    (bitSet bitClear timeout : BitVec 32) : TpmIo EfiStatus := do
  let result ← pollLoop (pollRegister mIsCrbInterface locality register)
    (fun regRead => regRead &&& bitSet == bitSet && regRead &&& bitClear == 0) timeout
    (pollFuel timeout) 0
  pure result.1

/-! ### Copying -/

/-- The bytes of `TpmCommandBuffer`, by index. -/
abbrev Bytes := ℕ → BitVec 8

/-- Byte `index` from the start of a page's data buffer. -/
def PtpCrbRegisters.dataByte (page : PtpCrbRegisters) (pastEnd : Bytes) : Bytes := fun index =>
  if h : index < crbDataBufferSize then page.crbDataBuffer ⟨index, h⟩ else pastEnd index

/-- `SetMem (TpmCommandBuffer, n, 0)`. -/
def setMem (n : ℕ) : TpmIo Unit :=
  (List.range n).foldlM (fun _ index => Traced.emit (.store .tpmCommandBuffer index)) ()

/-- `CopyMem` of `n` bytes between the two buffers in memory. -/
def copyMem (destination source : Buffer) (n : ℕ) : TpmIo Unit :=
  (List.range n).foldlM (fun _ index => do
    Traced.emit (.load source index)
    Traced.emit (.store destination index)) ()

/-- One byte of the command to the register it goes to. -/
def sendByte (locality : Locality) (register : ExternalRegister) (tpmCommandBuffer : Bytes)
    (index : ℕ) : TpmIo Unit := do
  Traced.emit (.load .tpmCommandBuffer index)
  mmioWrite locality register ((tpmCommandBuffer index).setWidth 32)

/-- One byte of the response from the register it comes from. -/
def receiveByte (locality : Locality) (register : ExternalRegister) (tpmCommandBuffer : Bytes)
    (index : ℕ) : TpmIo Bytes := do
  let value ← mmioRead8 locality register
  Traced.emit (.store .tpmCommandBuffer index)
  pure (Function.update tpmCommandBuffer index value)

/-- The inner loop of `CopyCommandData`: a burst from `index` on, and the index
after it. -/
def sendBurst (locality : Locality) (tpmCommandBuffer : Bytes) (commandDataLen : ℕ) :
    ℕ → ℕ → TpmIo ℕ
  | 0, index => pure index
  | burstCount + 1, index =>
    if index < commandDataLen then do
      sendByte locality .fifoDataFifo tpmCommandBuffer index
      sendBurst locality tpmCommandBuffer commandDataLen burstCount (index + 1)
    else pure index

/-- The loop of `CopyCommandData` over the bursts.  A burst sends at least one
byte, so the length is enough fuel. -/
def sendBursts (locality : Locality) (tpmCommandBuffer : Bytes) (commandDataLen : ℕ) :
    ℕ → ℕ → TpmIo Unit
  | 0, _ => pure ()
  | fuel + 1, index =>
    if index < commandDataLen then do
      let (status, burstCount) ← fifoReadBurstCount locality
      if status.isError then pure ()
      else do
        let index ← sendBurst locality tpmCommandBuffer commandDataLen burstCount.toNat index
        sendBursts locality tpmCommandBuffer commandDataLen fuel index
    else pure ()

/-- `CopyCommandData`.  In FIFO mode the status of the last wait is returned,
whatever stopped the loop. -/
def copyCommandData (mIsCrbInterface : Bool) (locality : Locality) (tpmCommandBuffer : Bytes)
    (commandDataLen : ℕ) : TpmIo EfiStatus :=
  if mIsCrbInterface then do
    (List.range commandDataLen).foldlM (fun _ index =>
      sendByte locality (.crbDataBuffer index) tpmCommandBuffer index) ()
    pure EfiStatus.success
  else do
    sendBursts locality tpmCommandBuffer commandDataLen commandDataLen 0
    waitRegisterBits mIsCrbInterface locality .fifoStatus fifoStsValid fifoStsExpect ptpTimeoutC

/-- `StartCommand`. -/
def startCommand (mIsCrbInterface : Bool) (locality : Locality) : TpmIo EfiStatus :=
  if mIsCrbInterface then do
    mmioWrite locality .crbControlStart controlStart
    waitRegisterBits mIsCrbInterface locality .crbControlStart 0 controlStart ptpTimeoutMax
  else do
    mmioWrite locality .fifoStatus fifoStsGo
    waitRegisterBits mIsCrbInterface locality .fifoStatus (fifoStsValid ||| fifoStsData) 0
      ptpTimeoutMax

/-- The inner loop of `CopyResponseData`: a burst from `index` on, left when the
response is complete. -/
def receiveBurst (locality : Locality) (responseDataLen : ℕ) :
    ℕ → ℕ → Bytes → TpmIo (ℕ × Bytes)
  | 0, index, tpmCommandBuffer => pure (index, tpmCommandBuffer)
  | burstCount + 1, index, tpmCommandBuffer => do
    let tpmCommandBuffer ← receiveByte locality .fifoDataFifo tpmCommandBuffer index
    if index + 1 = responseDataLen then pure (index + 1, tpmCommandBuffer)
    else receiveBurst locality responseDataLen burstCount (index + 1) tpmCommandBuffer

/-- The loop of `CopyResponseData` over the bursts, with the status so far. -/
def receiveBursts (locality : Locality) (responseDataLen : ℕ) :
    ℕ → ℕ → EfiStatus → Bytes → TpmIo (EfiStatus × Bytes)
  | 0, _, status, tpmCommandBuffer => pure (status, tpmCommandBuffer)
  | fuel + 1, index, status, tpmCommandBuffer =>
    if index < responseDataLen then do
      let (status, burstCount) ← fifoReadBurstCount locality
      if status.isError then pure (status, tpmCommandBuffer)
      else do
        let (index, tpmCommandBuffer) ←
          receiveBurst locality responseDataLen burstCount.toNat index tpmCommandBuffer
        receiveBursts locality responseDataLen fuel index status tpmCommandBuffer
    else pure (status, tpmCommandBuffer)

/-- `CopyResponseData`: the status, and `TpmCommandBuffer` filled.  In FIFO mode
nothing assigns the status of an empty response. -/
def copyResponseData (mIsCrbInterface : Bool) (locality : Locality) (tpmCommandBuffer : Bytes)
    (responseDataLen : ℕ) : TpmIo (EfiStatus × Bytes) :=
  if mIsCrbInterface then do
    let tpmCommandBuffer ← (List.range responseDataLen).foldlM (fun tpmCommandBuffer index =>
      receiveByte locality (.crbDataBuffer index) tpmCommandBuffer index) tpmCommandBuffer
    pure (EfiStatus.success, tpmCommandBuffer)
  else do
    let unassigned ← Traced.ask ExternalTpm.unassigned
    receiveBursts locality responseDataLen responseDataLen 0 unassigned tpmCommandBuffer

/-! ### The operations -/

/-- `TpmSstGoIdle`. -/
def tpmSstGoIdle (mIsCrbInterface : Bool) (locality : Locality) : TpmIo EfiStatus :=
  if mIsCrbInterface then do
    mmioWrite locality .crbControlRequest requestGoIdle
    let status ← waitRegisterBits mIsCrbInterface locality .crbControlRequest 0 requestGoIdle
      ptpTimeoutC
    if status = EfiStatus.success then
      waitRegisterBits mIsCrbInterface locality .crbControlStatus statusTpmIdle 0 ptpTimeoutC
    else pure status
  else do
    mmioWrite locality .fifoStatus fifoStsReady
    waitRegisterBits mIsCrbInterface locality .fifoStatus fifoStsReady 0 ptpTimeoutB

/-- `TpmSstCmdReady`. -/
def tpmSstCmdReady (mIsCrbInterface : Bool) (locality : Locality) : TpmIo EfiStatus :=
  if mIsCrbInterface then do
    mmioWrite locality .crbControlRequest requestCommandReady
    let status ← waitRegisterBits mIsCrbInterface locality .crbControlRequest 0
      requestCommandReady ptpTimeoutC
    if status = EfiStatus.success then
      waitRegisterBits mIsCrbInterface locality .crbControlStatus 0 statusTpmIdle ptpTimeoutC
    else pure status
  else do
    mmioWrite locality .fifoStatus fifoStsReady
    waitRegisterBits mIsCrbInterface locality .fifoStatus fifoStsReady 0 ptpTimeoutB

/-- A page with the first `n` bytes of its data buffer replaced. -/
def PtpCrbRegisters.setData (page : PtpCrbRegisters) (bytes : Bytes) (n : ℕ) : PtpCrbRegisters :=
  { page with
    crbDataBuffer := fun index => if index.val < n then bytes index else page.crbDataBuffer index }

/-- `TpmSstStart`: the status, and the page. -/
def tpmSstStart (mIsCrbInterface : Bool) (locality : Locality) (internalTpmCrb : PtpCrbRegisters) :
    TpmIo (EfiStatus × PtpCrbRegisters) := do
  let responseDataLen := internalTpmCrb.crbControlResponseSize.toNat
  let commandDataLen := internalTpmCrb.crbControlCommandSize.toNat
  let pastEnd ← Traced.ask ExternalTpm.pastEnd
  setMem crbDataBufferSize
  copyMem .tpmCommandBuffer .internalCrbDataBuffer commandDataLen
  let tpmCommandBuffer : Bytes := fun index =>
    if index < commandDataLen then internalTpmCrb.dataByte pastEnd index
    else if index < crbDataBufferSize then 0 else pastEnd index
  let status ← copyCommandData mIsCrbInterface locality tpmCommandBuffer commandDataLen
  if status.isError then pure (status, internalTpmCrb)
  else do
    let status ← startCommand mIsCrbInterface locality
    if status.isError then pure (status, internalTpmCrb)
    else do
      let (status, tpmCommandBuffer) ←
        copyResponseData mIsCrbInterface locality tpmCommandBuffer responseDataLen
      if status.isError then pure (status, internalTpmCrb)
      else do
        copyMem .internalCrbDataBuffer .tpmCommandBuffer responseDataLen
        pure (status, internalTpmCrb.setData tpmCommandBuffer responseDataLen)

/-- `TpmSstLocalityRequest`. -/
def tpmSstLocalityRequest (mIsCrbInterface : Bool) (locality : Locality) : TpmIo EfiStatus :=
  if mIsCrbInterface then do
    mmioWrite locality .crbLocalityControl localityControlRequestAccess
    waitRegisterBits mIsCrbInterface locality .crbLocalityStatus localityStatusGranted 0
      ptpTimeoutA
  else do
    mmioWrite locality .fifoAccess fifoAccRquuse
    waitRegisterBits mIsCrbInterface locality .fifoAccess (fifoAccActive ||| fifoValid) 0
      ptpTimeoutA

/-- `TpmSstLocalityRelinquish`. -/
def tpmSstLocalityRelinquish (mIsCrbInterface : Bool) (locality : Locality) : TpmIo EfiStatus :=
  if mIsCrbInterface then do
    mmioWrite locality .crbLocalityControl localityControlRelinquish
    waitRegisterBits mIsCrbInterface locality .crbLocalityStatus 0 localityStatusGranted
      ptpTimeoutA
  else do
    mmioWrite locality .fifoAccess fifoAccActive
    waitRegisterBits mIsCrbInterface locality .fifoAccess fifoValid fifoAccActive ptpTimeoutA

/-- `TpmSstInit`: `mIsCrbInterface` and `mIsIdleBypassSupported`, from the external
interface identifier. -/
def tpmSstInit (interfaceId : BitVec 32) : Bool × Bool :=
  (interfaceId &&& 0x00F == 1, interfaceId &&& 0x200 != 0)

end Tpm
end FfaFeature
