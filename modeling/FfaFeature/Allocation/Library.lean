/-
# The memory allocation library

`SecurePartitionMemoryAllocationLib.c`: what a partition calls.  The functions for boot
services memory and those for runtime services memory ask for the same type; those for
reserved memory return `NULL`.  The functions that free `ASSERT` that the allocator did.

`ZeroMem` and `CopyMem` are not part of the repository: a `BaseMemoryLib` is any
implementation of them that does what their header documents.  A pointer is a number, with 0
for `NULL`.
-/

import FfaFeature.Allocation.AlignedPages
import FfaFeature.Allocation.Pool

namespace FfaFeature
namespace Allocation

/-! ### `BaseMemoryLib` -/

/-- An implementation of the two functions, with what is documented about them. -/
structure BaseMemoryLib where
  zeroMem : Mem → ℕ → ℕ → Except Fault Mem
  copyMem : Mem → ℕ → ℕ → ℕ → Except Fault Mem
  /-- The buffer is filled with zeros. -/
  zeroMem_spec : ∀ {buffer length}, buffer ≠ 0 → buffer + length ≤ 2 ^ 64 → ∀ m, ∃ m',
    zeroMem m buffer length = .ok m' ∧ (∀ i < length, m' (buffer + i) = 0) ∧
      Set.EqOn m' m (Set.Ico buffer (buffer + length))ᶜ
  /-- The destination gets what the source held, also where the two overlap. -/
  copyMem_spec : ∀ {destination source length}, destination + length ≤ 2 ^ 64 →
    source + length ≤ 2 ^ 64 → ∀ m, ∃ m',
      copyMem m destination source length = .ok m' ∧
      (∀ i < length, m' (destination + i) = m (source + i)) ∧
      Set.EqOn m' m (Set.Ico destination (destination + length))ᶜ

/-- The obvious implementation, with the `ASSERT`s of the header. -/
def BaseMemoryLib.standard : BaseMemoryLib where
  zeroMem m buffer length :=
    if buffer = 0 ∧ length > 0 then .error .assertion
    else if length > 2 ^ 64 - buffer then .error .assertion
    else .ok (overwrite m buffer length fun _ => 0)
  copyMem m destination source length :=
    if length > 2 ^ 64 - destination then .error .assertion
    else if length > 2 ^ 64 - source then .error .assertion
    else .ok (overwrite m destination length fun i => m (source + i))
  zeroMem_spec {buffer length} hnull hbound m := by
    rw [if_neg (fun h => hnull h.1), if_neg (by omega)]
    exact ⟨_, rfl, fun i hi => overwrite_add hi, overwrite_eqOn ..⟩
  copyMem_spec {destination source length} hdestination hsource m := by
    rw [if_neg (by omega), if_neg (by omega)]
    exact ⟨_, rfl, fun i hi => overwrite_add hi, overwrite_eqOn ..⟩

section Functions

variable (lib : BaseLib) (bml : BaseMemoryLib) (g : Globals)

/-- `ASSERT_EFI_ERROR`. -/
def assertEfiError : EfiStatus × Mem → Except Fault Mem
  | (status, m) => if status.isError then .error .assertion else .ok m

/-! ### Pages -/

/-- `InternalAllocatePages`.  `Memory` is not set before the call, which does not read it for
this type. -/
def internalAllocatePages (m : Mem) (memoryType : EfiMemoryType) (pages : ℕ) :
    Except Fault (ℕ × Mem) :=
  if pages = 0 then .ok (0, m)
  else do
    let (status, memory, m) ← mmAllocatePages lib g m .allocateAnyPages memoryType pages 0
    if status.isError then pure (0, m) else pure (memory, m)

/-- `AllocatePages`. -/
def allocatePages (m : Mem) (pages : ℕ) : Except Fault (ℕ × Mem) :=
  internalAllocatePages lib g m .efiRuntimeServicesData pages

/-- `AllocateRuntimePages`. -/
def allocateRuntimePages (m : Mem) (pages : ℕ) : Except Fault (ℕ × Mem) :=
  internalAllocatePages lib g m .efiRuntimeServicesData pages

/-- `AllocateReservedPages`. -/
def allocateReservedPages (m : Mem) (_pages : ℕ) : Except Fault (ℕ × Mem) := .ok (0, m)

/-- `FreePages`. -/
def freePages (m : Mem) (buffer pages : ℕ) : Except Fault Mem :=
  if pages = 0 then .error .assertion
  else if buffer = 0 then .error .assertion
  else do assertEfiError (← mmFreePages lib g m buffer pages)

/-- The pointer `InternalAllocateAlignedPages` returns. -/
def alignedPointer : Option ℕ × Mem → ℕ × Mem
  | (address, m) => (address.getD 0, m)

/-- `AllocateAlignedPages`. -/
def allocateAlignedPages (m : Mem) (pages alignment : ℕ) : Except Fault (ℕ × Mem) :=
  (internalAllocateAlignedPages lib g m .efiRuntimeServicesData pages alignment).map alignedPointer

/-- `AllocateAlignedRuntimePages`. -/
def allocateAlignedRuntimePages (m : Mem) (pages alignment : ℕ) : Except Fault (ℕ × Mem) :=
  (internalAllocateAlignedPages lib g m .efiRuntimeServicesData pages alignment).map alignedPointer

/-- `AllocateAlignedReservedPages`. -/
def allocateAlignedReservedPages (m : Mem) (_pages _alignment : ℕ) : Except Fault (ℕ × Mem) :=
  .ok (0, m)

/-- `FreeAlignedPages`. -/
def freeAlignedPages (m : Mem) (buffer pages : ℕ) : Except Fault Mem :=
  if pages = 0 then .error .assertion
  else if buffer = 0 then .error .assertion
  else do assertEfiError (← mmFreePages lib g m buffer pages)

/-! ### Pool buffers -/

/-- `InternalAllocatePool`. -/
def internalAllocatePool (m : Mem) (memoryType : EfiMemoryType) (allocationSize : ℕ) :
    Except Fault (ℕ × Mem) := do
  let (status, buffer, m) ← mmAllocatePool lib g m memoryType allocationSize
  let memory := buffer.getD 0
  if status.isError then pure (0, m) else pure (memory, m)

/-- `AllocatePool`. -/
def allocatePool (m : Mem) (allocationSize : ℕ) : Except Fault (ℕ × Mem) :=
  internalAllocatePool lib g m .efiRuntimeServicesData allocationSize

/-- `AllocateRuntimePool`. -/
def allocateRuntimePool (m : Mem) (allocationSize : ℕ) : Except Fault (ℕ × Mem) :=
  internalAllocatePool lib g m .efiRuntimeServicesData allocationSize

/-- `AllocateReservedPool`. -/
def allocateReservedPool (m : Mem) (_allocationSize : ℕ) : Except Fault (ℕ × Mem) := .ok (0, m)

/-- `InternalAllocateZeroPool`. -/
def internalAllocateZeroPool (m : Mem) (poolType : EfiMemoryType) (allocationSize : ℕ) :
    Except Fault (ℕ × Mem) := do
  let (memory, m) ← internalAllocatePool lib g m poolType allocationSize
  if memory ≠ 0 then
    let m ← bml.zeroMem m memory allocationSize
    pure (memory, m)
  else pure (memory, m)

/-- `AllocateZeroPool`. -/
def allocateZeroPool (m : Mem) (allocationSize : ℕ) : Except Fault (ℕ × Mem) :=
  internalAllocateZeroPool lib bml g m .efiRuntimeServicesData allocationSize

/-- `AllocateRuntimeZeroPool`. -/
def allocateRuntimeZeroPool (m : Mem) (allocationSize : ℕ) : Except Fault (ℕ × Mem) :=
  internalAllocateZeroPool lib bml g m .efiRuntimeServicesData allocationSize

/-- `AllocateReservedZeroPool`. -/
def allocateReservedZeroPool (m : Mem) (_allocationSize : ℕ) : Except Fault (ℕ × Mem) := .ok (0, m)

/-- `InternalAllocateCopyPool`. -/
def internalAllocateCopyPool (m : Mem) (poolType : EfiMemoryType) (allocationSize buffer : ℕ) :
    Except Fault (ℕ × Mem) :=
  if buffer = 0 then .error .assertion
  else if ¬ allocationSize ≤ uadd (usub (2 ^ 64 - 1) buffer) 1 then .error .assertion
  else do
    let (memory, m) ← internalAllocatePool lib g m poolType allocationSize
    if memory ≠ 0 then
      let m ← bml.copyMem m memory buffer allocationSize
      pure (memory, m)
    else pure (memory, m)

/-- `AllocateCopyPool`. -/
def allocateCopyPool (m : Mem) (allocationSize buffer : ℕ) : Except Fault (ℕ × Mem) :=
  internalAllocateCopyPool lib bml g m .efiRuntimeServicesData allocationSize buffer

/-- `AllocateRuntimeCopyPool`. -/
def allocateRuntimeCopyPool (m : Mem) (allocationSize buffer : ℕ) : Except Fault (ℕ × Mem) :=
  internalAllocateCopyPool lib bml g m .efiRuntimeServicesData allocationSize buffer

/-- `AllocateReservedCopyPool`. -/
def allocateReservedCopyPool (m : Mem) (_allocationSize _buffer : ℕ) : Except Fault (ℕ × Mem) :=
  .ok (0, m)

/-- `FreePool`. -/
def freePool (m : Mem) (buffer : ℕ) : Except Fault Mem := do
  assertEfiError (← mmFreePool lib g m buffer)

/-- `InternalReallocatePool`. -/
def internalReallocatePool (m : Mem) (poolType : EfiMemoryType) (oldSize newSize oldBuffer : ℕ) :
    Except Fault (ℕ × Mem) := do
  let (newBuffer, m) ← internalAllocateZeroPool lib bml g m poolType newSize
  if newBuffer ≠ 0 ∧ oldBuffer ≠ 0 then
    let m ← bml.copyMem m newBuffer oldBuffer (min oldSize newSize)
    let m ← freePool lib g m oldBuffer
    pure (newBuffer, m)
  else pure (newBuffer, m)

/-- `ReallocatePool`. -/
def reallocatePool (m : Mem) (oldSize newSize oldBuffer : ℕ) : Except Fault (ℕ × Mem) :=
  internalReallocatePool lib bml g m .efiRuntimeServicesData oldSize newSize oldBuffer

/-- `ReallocateRuntimePool`. -/
def reallocateRuntimePool (m : Mem) (oldSize newSize oldBuffer : ℕ) : Except Fault (ℕ × Mem) :=
  internalReallocatePool lib bml g m .efiRuntimeServicesData oldSize newSize oldBuffer

/-- `ReallocateReservedPool`. -/
def reallocateReservedPool (m : Mem) (_oldSize _newSize _oldBuffer : ℕ) :
    Except Fault (ℕ × Mem) := .ok (0, m)

end Functions

end Allocation
end FfaFeature
