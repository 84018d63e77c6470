/-
# Pool management

`Pool.c`: a pool buffer lies behind the `POOL_HEADER` of its block, which holds the size
of the block and whether it is available.  Blocks of 64 bytes to 2 KB come from six lists
of available blocks, one for each size; where a list is empty, a block of the next size
is split, and the largest are halves of a page.  Larger buffers get pages of their own.

The `Link` of an available block lies behind its header, 24 bytes into the block.
-/

import FfaFeature.Allocation.Page

namespace FfaFeature
namespace Allocation

open LinkedList

/-- `MIN_POOL_SHIFT`. -/
def minPoolShift : ℕ := 6

/-- `MIN_POOL_SIZE`. -/
def minPoolSize : ℕ := 1 <<< minPoolShift

/-- `MAX_POOL_SHIFT`. -/
def maxPoolShift : ℕ := 12 - 1

/-- `MAX_POOL_SIZE`. -/
def maxPoolSize : ℕ := 1 <<< maxPoolShift

/-- `MAX_POOL_INDEX`. -/
def maxPoolIndex : ℕ := maxPoolShift - minPoolShift + 1

/-- `sizeof (POOL_HEADER)`, and the offset of `Link` in a `FREE_POOL_HEADER`. -/
def poolHeaderSize : ℕ := 24

/-- A number as a `UINTN`. -/
def toUintn (value : ℤ) : ℕ := (value % 2 ^ 64).toNat

/-- `&mMmPoolLists[index]`. -/
def poolList (g : Globals) (index : ℕ) : ℕ := g.mMmPoolLists + 16 * index

/-- `Header.Size`. -/
def headerSize (m : Mem) (hdr : ℕ) : ℕ := m.load64 (hdr + 16)

/-- A store to `Header.Size`. -/
def setHeaderSize (m : Mem) (hdr size : ℕ) : Mem := m.store64 (hdr + 16) size

/-- `Header.Available`. -/
def headerAvailable (m : Mem) (hdr : ℕ) : Bool := m (hdr + 4) != 0

/-- A store to `Header.Available`. -/
def setHeaderAvailable (m : Mem) (hdr : ℕ) (available : Bool) : Mem :=
  Function.update m (hdr + 4) (if available then 1 else 0)

/-- `EFI_MMRAM_DESCRIPTOR`. -/
structure MmramDescriptor where
  cpuStart : BitVec 64
  physicalSize : BitVec 64
  regionState : BitVec 64

section Functions

variable (lib : BaseLib) (g : Globals)

/-- The loop of `MmInitializeMemoryServices` over the lists, from the last to the
first. -/
def initializePoolLists (m : Mem) : ℕ → Mem
  | 0 => m
  | index + 1 => initializePoolLists (lib.initializeListHead m (poolList g index)) index

/-- The loop of `MmInitializeMemoryServices` over the regions. -/
def addMmramRanges (m : Mem) : List MmramDescriptor → Except Fault Mem
  | [] => .ok m
  | range :: mmramRanges =>
    if range.cpuStart.toNat < 0x100000 then addMmramRanges m mmramRanges
    else do
      let m ← mmAddMemoryRegion lib g m range.cpuStart.toNat range.physicalSize.toNat
        range.regionState
      addMmramRanges m mmramRanges

/-- `MmInitializeMemoryServices`. -/
def mmInitializeMemoryServices (m : Mem) (mmramRanges : List MmramDescriptor) :
    Except Fault Mem :=
  addMmramRanges lib g (initializePoolLists lib g m maxPoolIndex) mmramRanges

/-- The header of a block that leaves `InternalAllocPoolByIndex`. -/
def claimHeader (m : Mem) (hdr poolIndex : ℕ) : Mem :=
  setHeaderAvailable (setHeaderSize m hdr (minPoolSize <<< poolIndex)) hdr false

/-- The end of `InternalAllocPoolByIndex` when a larger block was found: its lower half
goes on the list, and its upper half is the block. -/
def splitPool (m : Mem) (hdr poolIndex : ℕ) : ℕ × Mem :=
  let m := setHeaderSize m hdr (headerSize m hdr >>> 1)
  let m := setHeaderAvailable m hdr true
  let m := lib.insertHeadList m (poolList g poolIndex) (hdr + poolHeaderSize)
  let hdr := uadd hdr (headerSize m hdr)
  (hdr, claimHeader m hdr poolIndex)

/-- `InternalAllocPoolByIndex`, `levels` below `MAX_POOL_INDEX`: the status, `*FreePoolHdr`
(null where it fails) and the memory. -/
def allocPoolLevel (m : Mem) : ℕ → Except Fault (EfiStatus × ℕ × Mem)
  | 0 => do
    let (status, address, m) ← mmInternalAllocatePages lib g m .allocateAnyPages
      .efiRuntimeServicesData (efiSizeToPages (maxPoolSize <<< 1)) 0
    if status.isError then pure (.outOfResources, 0, m)
    else pure (status, address, claimHeader m address maxPoolIndex)
  | levels + 1 =>
    let poolIndex := maxPoolIndex - (levels + 1)
    if lib.isListEmpty m (poolList g poolIndex) then do
      let (status, hdr, m) ← allocPoolLevel m levels
      if status.isError then pure (status, hdr, m)
      else pure (status, splitPool lib g m hdr poolIndex)
    else
      let hdr := usub (lib.getFirstNode m (poolList g poolIndex)) poolHeaderSize
      let m := lib.removeEntryList m (hdr + poolHeaderSize)
      .ok (.success, hdr, claimHeader m hdr poolIndex)

/-- `InternalAllocPoolByIndex`. -/
def internalAllocPoolByIndex (m : Mem) (poolIndex : ℕ) : Except Fault (EfiStatus × ℕ × Mem) :=
  if poolIndex ≤ maxPoolIndex then allocPoolLevel lib g m (maxPoolIndex - poolIndex)
  else .error .assertion

/-- `InternalFreePoolByIndex`. -/
def internalFreePoolByIndex (m : Mem) (hdr : ℕ) : Except Fault (EfiStatus × Mem) :=
  let size := headerSize m hdr
  if size &&& usub size 1 ≠ 0 then .error .assertion
  else if hdr &&& usub size 1 ≠ 0 then .error .assertion
  else if size < minPoolSize then .error .assertion
  else
    let poolIndex := toUintn (lib.highBitSet32 (size % 2 ^ 32) - minPoolShift)
    let m := setHeaderAvailable m hdr true
    if poolIndex ≥ maxPoolIndex then .error .assertion
    else .ok (.success, lib.insertHeadList m (poolList g poolIndex) (hdr + poolHeaderSize))

/-- `PoolIndex` of `MmInternalAllocatePool`, for a size with its header. -/
def poolIndexOf (size : ℕ) : ℕ :=
  let size := uadd size (minPoolSize - 1) >>> minPoolShift
  let poolIndex := toUintn (lib.highBitSet32 (size % 2 ^ 32))
  if size &&& usub size 1 ≠ 0 then poolIndex + 1 else poolIndex

/-- `MmInternalAllocatePool`: the status, `*Buffer` where it is set, and the memory. -/
def mmInternalAllocatePool (m : Mem) (poolType : EfiMemoryType) (size : ℕ) :
    Except Fault (EfiStatus × Option ℕ × Mem) :=
  if poolType.isRuntimeServices = false then .ok (.invalidParameter, none, m)
  else if uadd size poolHeaderSize > maxPoolSize then do
    let pages := efiSizeToPages (uadd size poolHeaderSize)
    let (status, address, m) ← mmInternalAllocatePages lib g m .allocateAnyPages poolType pages 0
    if status.isError then pure (status, none, m)
    else
      let m := setHeaderSize m address (efiPagesToSize pages)
      let m := setHeaderAvailable m address false
      pure (status, some (address + poolHeaderSize), m)
  else do
    let (status, hdr, m) ← internalAllocPoolByIndex lib g m
      (poolIndexOf lib (uadd size poolHeaderSize))
    if status.isError then pure (status, none, m)
    else pure (status, some (hdr + poolHeaderSize), m)

/-- `MmAllocatePool`. -/
def mmAllocatePool (m : Mem) (poolType : EfiMemoryType) (size : ℕ) :
    Except Fault (EfiStatus × Option ℕ × Mem) :=
  mmInternalAllocatePool lib g m poolType size

/-- `MmInternalFreePool`. -/
def mmInternalFreePool (m : Mem) (buffer : ℕ) : Except Fault (EfiStatus × Mem) :=
  if buffer = 0 then .ok (.invalidParameter, m)
  else
    let hdr := usub buffer poolHeaderSize
    if headerAvailable m hdr then .error .assertion
    else if headerSize m hdr > maxPoolSize then
      if hdr % 4096 ≠ 0 then .error .assertion
      else if headerSize m hdr % 4096 ≠ 0 then .error .assertion
      else mmInternalFreePages lib g m hdr (efiSizeToPages (headerSize m hdr))
    else internalFreePoolByIndex lib g m hdr

/-- `MmFreePool`. -/
def mmFreePool (m : Mem) (buffer : ℕ) : Except Fault (EfiStatus × Mem) :=
  mmInternalFreePool lib g m buffer

end Functions

end Allocation
end FfaFeature
