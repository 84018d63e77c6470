/-
# Page management

`Page.c`: the free pages are a list of blocks, in ascending order of their addresses.
The `FREE_PAGE_LIST` of a block lies in the block itself, its `Link` at the base of the
block and its `NumberOfPages` behind it; the head of the list is the global
`mMmMemoryMap`.

Pointers and `UINTN`s are natural numbers with the wrap-around written out.  A function
returns a `Fault` where an `ASSERT` fails or a loop never ends.  A loop over the list is
given more steps than there are pages in the address space.
-/

import FfaFeature.Message
import FfaFeature.Allocation.BaseLib

namespace FfaFeature
namespace Allocation

open LinkedList

/-! ### Sums and sizes -/

/-- The sum of two `UINTN`s. -/
def uadd (a b : ℕ) : ℕ := (a + b) % 2 ^ 64

/-- Their difference. -/
def usub (a b : ℕ) : ℕ := (a + (2 ^ 64 - b)) % 2 ^ 64

/-- `EFI_PAGES_TO_SIZE`. -/
def efiPagesToSize (pages : ℕ) : ℕ := (pages * 4096) % 2 ^ 64

/-- `EFI_SIZE_TO_PAGES`. -/
def efiSizeToPages (size : ℕ) : ℕ := size / 4096 + if size % 4096 = 0 then 0 else 1

/-- `TRUNCATE_TO_PAGES`. -/
def truncateToPages (a : ℕ) : ℕ := a / 4096

section Arithmetic

variable {a b pages size : ℕ}

/-- A sum that fits is exact. -/
theorem uadd_eq (h : a + b < 2 ^ 64) : uadd a b = a + b := Nat.mod_eq_of_lt h

/-- A difference that is not negative is exact. -/
theorem usub_eq (h : b ≤ a) (ha : a < 2 ^ 64) : usub a b = a - b := by
  unfold usub
  omega

/-- A size that fits is exact. -/
theorem efiPagesToSize_eq (h : pages * 4096 < 2 ^ 64) : efiPagesToSize pages = pages * 4096 :=
  Nat.mod_eq_of_lt h

end Arithmetic

/-! ### Types and globals -/

/-- `EFI_ALLOCATE_TYPE`. -/
inductive EfiAllocateType
  | allocateAnyPages
  | allocateMaxAddress
  | allocateAddress
  | maxAllocateType
  deriving DecidableEq

/-- `EFI_MEMORY_TYPE`. -/
inductive EfiMemoryType
  | efiReservedMemoryType
  | efiLoaderCode
  | efiLoaderData
  | efiBootServicesCode
  | efiBootServicesData
  | efiRuntimeServicesCode
  | efiRuntimeServicesData
  | efiConventionalMemory
  | efiUnusableMemory
  | efiACPIReclaimMemory
  | efiACPIMemoryNVS
  | efiMemoryMappedIO
  | efiMemoryMappedIOPortSpace
  | efiPalCode
  | efiPersistentMemory
  | efiUnacceptedMemoryType
  | efiMaxMemoryType
  deriving DecidableEq

/-- The types of memory that may be allocated. -/
def EfiMemoryType.isRuntimeServices (memoryType : EfiMemoryType) : Bool :=
  memoryType == .efiRuntimeServicesCode || memoryType == .efiRuntimeServicesData

/-- Where the globals of the library lie: `mMmMemoryMap` and the array `mMmPoolLists`,
which do not overlap. -/
structure Globals where
  mMmMemoryMap : ℕ
  mMmPoolLists : ℕ
  memoryMap_bound : mMmMemoryMap + 16 ≤ 2 ^ 64
  poolLists_bound : mMmPoolLists + 6 * 16 ≤ 2 ^ 64
  apart : mMmMemoryMap + 16 ≤ mMmPoolLists ∨ mMmPoolLists + 6 * 16 ≤ mMmMemoryMap

/-- The bytes of the globals. -/
def Globals.bytes (g : Globals) : Set ℕ :=
  Set.Ico g.mMmMemoryMap (g.mMmMemoryMap + 16) ∪
    Set.Ico g.mMmPoolLists (g.mMmPoolLists + 6 * 16)

/-- Why a function does not return. -/
inductive Fault
  | assertion
  | endless
  deriving DecidableEq

/-- A call that returns, and what follows. -/
theorem ok_bind {α β : Type} (a : α) (f : α → Except Fault β) : (Except.ok a >>= f) = f a := rfl

/-- More than there are pages. -/
def listFuel : ℕ := 2 ^ 52

/-- `NumberOfPages` of the `FREE_PAGE_LIST` at an address. -/
def numberOfPages (m : Mem) (pages : ℕ) : ℕ := m.load64 (pages + 16)

/-- A store to `Pages->NumberOfPages`. -/
def setNumberOfPages (m : Mem) (pages value : ℕ) : Mem := m.store64 (pages + 16) value

section Functions

variable (lib : BaseLib) (g : Globals)

/-! ### Allocation -/

/-- `InternalAllocPagesOnOneNode`. -/
def internalAllocPagesOnOneNode (m : Mem) (pages number maxAddress : ℕ) : ℕ × Mem :=
  let top := truncateToPages (usub (uadd maxAddress 1) pages)
  let top := if top > numberOfPages m pages then numberOfPages m pages else top
  let bottom := usub top number
  let m :=
    if top < numberOfPages m pages then
      let node := uadd pages (efiPagesToSize top)
      lib.insertHeadList (setNumberOfPages m node (usub (numberOfPages m pages) top)) pages node
    else m
  let m := if bottom > 0 then setNumberOfPages m pages bottom else lib.removeEntryList m pages
  (uadd pages (efiPagesToSize bottom), m)

/-- The loop of `InternalAllocMaxAddress`, from a node back to the head. -/
def allocMaxAddressLoop (head number maxAddress : ℕ) (m : Mem) :
    ℕ → ℕ → Except Fault (ℕ × Mem)
  | 0, _ => .error .endless
  | fuel + 1, node =>
    if node = head then .ok (2 ^ 64 - 1, m)
    else if numberOfPages m node ≥ number ∧
        usub (uadd node (efiPagesToSize number)) 1 ≤ maxAddress then
      .ok (internalAllocPagesOnOneNode lib m node number maxAddress)
    else allocMaxAddressLoop head number maxAddress m fuel (backLink m node)

/-- `InternalAllocMaxAddress`. -/
def internalAllocMaxAddress (m : Mem) (freePageList number maxAddress : ℕ) :
    Except Fault (ℕ × Mem) :=
  allocMaxAddressLoop lib freePageList number maxAddress m listFuel (backLink m freePageList)

/-- The loop of `InternalAllocAddress`: it stops at the last block not above the
address. -/
def allocAddressLoop (head number address endAddress : ℕ) (m : Mem) :
    ℕ → ℕ → Except Fault (ℕ × Mem)
  | 0, _ => .error .endless
  | fuel + 1, node =>
    if node = head then .ok (2 ^ 64 - 1 - address, m)
    else if node ≤ address then
      if uadd node (efiPagesToSize (numberOfPages m node)) < endAddress then
        .ok (2 ^ 64 - 1 - address, m)
      else .ok (internalAllocPagesOnOneNode lib m node number endAddress)
    else allocAddressLoop head number address endAddress m fuel (backLink m node)

/-- `InternalAllocAddress`. -/
def internalAllocAddress (m : Mem) (freePageList number address : ℕ) : Except Fault (ℕ × Mem) :=
  if address % 4096 ≠ 0 then .ok (2 ^ 64 - 1 - address, m)
  else
    allocAddressLoop lib freePageList number address (uadd address (efiPagesToSize number)) m
      listFuel (backLink m freePageList)

/-- `MmInternalAllocatePages`: the status, `*Memory` and the memory. -/
def mmInternalAllocatePages (m : Mem) (type : EfiAllocateType) (memoryType : EfiMemoryType)
    (number memory : ℕ) : Except Fault (EfiStatus × ℕ × Mem) :=
  if memoryType.isRuntimeServices = false then .ok (.invalidParameter, memory, m)
  else if number > truncateToPages (2 ^ 64 - 1) + 1 then .ok (.outOfResources, memory, m)
  else
    let maxAddress (requestedAddress : ℕ) : Except Fault (EfiStatus × ℕ × Mem) := do
      let (memory, m) ← internalAllocMaxAddress lib m g.mMmMemoryMap number requestedAddress
      if memory = 2 ^ 64 - 1 then pure (.outOfResources, memory, m)
      else pure (.success, memory, m)
    match type with
    | .allocateAnyPages => maxAddress (2 ^ 64 - 1)
    | .allocateMaxAddress => maxAddress memory
    | .allocateAddress => do
      let (address, m) ← internalAllocAddress lib m g.mMmMemoryMap number memory
      if address ≠ memory then pure (.notFound, address, m)
      else pure (.success, address, m)
    | .maxAllocateType => .ok (.invalidParameter, memory, m)

/-- `MmAllocatePages`. -/
def mmAllocatePages (m : Mem) (type : EfiAllocateType) (memoryType : EfiMemoryType)
    (number memory : ℕ) : Except Fault (EfiStatus × ℕ × Mem) :=
  mmInternalAllocatePages lib g m type memoryType number memory

/-! ### Freeing -/

/-- `InternalMergeNodes`: the node after the merge, or the next one. -/
def internalMergeNodes (m : Mem) (first : ℕ) : Except Fault (ℕ × Mem) :=
  let next := forwardLink m first
  if truncateToPages (usub next first) < numberOfPages m first then .error .assertion
  else if truncateToPages (usub next first) = numberOfPages m first then
    let m := setNumberOfPages m first (uadd (numberOfPages m first) (numberOfPages m next))
    .ok (first, lib.removeEntryList m next)
  else .ok (next, m)

/-- The loop of `MmInternalFreePages`: the first node above the address, or the
head. -/
def freePagesLoop (head memory : ℕ) (m : Mem) : ℕ → ℕ → Except Fault ℕ
  | 0, _ => .error .endless
  | fuel + 1, node =>
    if node = head then .ok node
    else if memory < node then .ok node
    else freePagesLoop head memory m fuel (forwardLink m node)

/-- The merge of a freed block with the one before it. -/
def mergePrevious (m : Mem) (pages : ℕ) : Except Fault (ℕ × Mem) :=
  if backLink m pages ≠ g.mMmMemoryMap then internalMergeNodes lib m (backLink m pages)
  else .ok (pages, m)

/-- And with the one behind it. -/
def mergeNext (m : Mem) (node pages : ℕ) : Except Fault (ℕ × Mem) :=
  if node ≠ g.mMmMemoryMap then internalMergeNodes lib m pages else .ok (pages, m)

/-- The end of `MmInternalFreePages`: the block is linked in before `node` and merged
with its neighbours. -/
def linkFreedPages (m : Mem) (node memory number : ℕ) : Except Fault Mem := do
  let m := lib.insertTailList (setNumberOfPages m memory number) node memory
  let (pages, m) ← mergePrevious lib g m memory
  let (_, m) ← mergeNext lib g m node pages
  pure m

/-- `MmInternalFreePages`. -/
def mmInternalFreePages (m : Mem) (memory number : ℕ) : Except Fault (EfiStatus × Mem) :=
  if memory % 4096 ≠ 0 then .ok (.invalidParameter, m)
  else do
    let node ← freePagesLoop g.mMmMemoryMap memory m listFuel (forwardLink m g.mMmMemoryMap)
    if node ≠ g.mMmMemoryMap ∧ uadd memory (efiPagesToSize number) > node then
      pure (.invalidParameter, m)
    else if backLink m node ≠ g.mMmMemoryMap ∧
        uadd (backLink m node) (efiPagesToSize (numberOfPages m (backLink m node))) > memory then
      pure (.invalidParameter, m)
    else
      let m ← linkFreedPages lib g m node memory number
      pure (.success, m)

/-- `MmFreePages`. -/
def mmFreePages (m : Mem) (memory number : ℕ) : Except Fault (EfiStatus × Mem) :=
  mmInternalFreePages lib g m memory number

/-! ### Regions -/

/-- `EFI_ALLOCATED | EFI_NEEDS_TESTING | EFI_NEEDS_ECC_INITIALIZATION`. -/
def excludedAttributes : BitVec 64 := 0x10 ||| 0x20 ||| 0x40

/-- `MmAddMemoryRegion`. -/
def mmAddMemoryRegion (m : Mem) (memBase memLength : ℕ) (attributes : BitVec 64) :
    Except Fault Mem :=
  if attributes &&& excludedAttributes ≠ 0 then .ok m
  else do
    let alignedMemBase := uadd memBase 4095 / 4096 * 4096
    let memLength := usub memLength (usub alignedMemBase memBase)
    let (_, m) ← mmFreePages lib g m alignedMemBase (truncateToPages memLength)
    return m

end Functions

end Allocation
end FfaFeature
