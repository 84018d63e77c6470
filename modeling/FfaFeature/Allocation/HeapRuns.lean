/-
# Requests at every heap reached

The machine of the two allocators with the requests it left out: pool buffers of any size, and
aligned pages with any arguments.  A request for a size whose sum with the header wraps around
still returns a block of the heap, or fails an `ASSERT` before it has changed anything, and so
does every request for aligned pages: the memory is in order at every heap that is reached
(`ReachableHeap.inv`).

At each of these heaps aligned pages are taken out of the free pages exactly
(`internalAllocateAlignedPages_exact`), and a pool buffer has room for its size unless the sum
wraps around (`mmInternalAllocatePool_room_iff`).
-/

import FfaFeature.Allocation.AlignedPages
import FfaFeature.Allocation.PoolSizes
import FfaFeature.Allocation.PoolRuns
import FfaFeature.Allocation.Regions

namespace FfaFeature
namespace Allocation

open LinkedList

/-! ### The machine -/

/-- A call of the two allocators, the clients' writes, or a request for aligned pages. -/
inductive HeapInput
  | call (input : PoolInput)
  | allocateAlignedPages (memoryType : EfiMemoryType) (pages alignment : BitVec 64)

/-- The address a call returns, or why it does not return. -/
abbrev HeapOutput := Except Fault (Option ℕ)

/-- The heap after aligned pages were asked for. -/
def PoolHeap.afterAlignedPages (s : PoolHeap) (pages : ℕ) :
    Except Fault (Option ℕ × Mem) → PoolHeap × HeapOutput
  | .error fault => (s, .error fault)
  | .ok (none, mem) => ({ s with mem := mem }, .ok none)
  | .ok (some address, mem) =>
    ({ s with mem := mem, pages := ⟨address, pages⟩ :: s.pages }, .ok (some address))

/-- The allocators with all their requests. -/
def heapMachine (lib : BaseLib) (g : Globals) : Machine PoolHeap HeapInput HeapOutput where
  step s
    | .call input =>
      let next := (poolMachine lib g).step s input
      (next.1, next.2.map Prod.snd)
    | .allocateAlignedPages memoryType pages alignment =>
      s.afterAlignedPages pages.toNat
        (internalAllocateAlignedPages lib g s.mem memoryType pages.toNat alignment.toNat)

/-- What the callers promise: what is freed is live, a request for pages is for one at least,
and clients write only into what they hold.  A size or an alignment may be anything. -/
def HeapInput.Valid (s : PoolHeap) : HeapInput → Prop
  | .call (.allocatePool _ _) => True
  | .call input => input.Valid s
  | .allocateAlignedPages _ _ _ => True

/-- The heaps the allocators reach from what `MmInitializeMemoryServices` leaves. -/
def ReachableHeap (lib : BaseLib) (g : Globals) (s : PoolHeap) : Prop :=
  ∃ m mmramRanges m₀ is, IsList m g.mMmMemoryMap [] ∧ RangesUsable g mmramRanges ∧
    mmInitializeMemoryServices lib g m mmramRanges = .ok m₀ ∧
    (∀ e ∈ (heapMachine lib g).history ⟨m₀, [], []⟩ is, e.input.Valid e.pre) ∧
    (heapMachine lib g).final ⟨m₀, [], []⟩ is = s

section Runs

variable {lib : BaseLib} {g : Globals} {arena : Set ℕ} {s : PoolHeap} {L : Layout}

/-- A request for a pool buffer of any size. -/
theorem heapInv_allocatePool_any (hzero : lib.highBitSet32 0 = -1) (h : HeapInv g arena s L)
    (poolType : EfiMemoryType) (size : BitVec 64) :
    ∃ L', HeapInv g arena ((poolMachine lib g).step s (.allocatePool poolType size)).1 L' := by
  change ∃ L', HeapInv g arena
    (s.afterAllocatePool (mmInternalAllocatePool lib g s.mem poolType size.toNat)).1 L'
  rcases mmInternalAllocatePool_any lib hzero h.inv poolType size.isLt with
    hfault | ⟨result, hcode, hresult⟩
  · rw [hfault]
    exact ⟨L, h⟩
  · rw [hcode]
    rcases hresult with ⟨status, herror⟩ | ⟨e, m', L', hmoves, htransit, hlive, -⟩
    · exact ⟨L, h⟩
    · rw [PoolHeap.afterAllocatePool, blockAt_eq hlive]
      exact h.addBuffer hmoves htransit hlive

/-- A request for aligned pages. -/
theorem heapInv_allocateAlignedPages (h : HeapInv g arena s L) (memoryType : EfiMemoryType)
    (pages alignment : BitVec 64) :
    ∃ L', HeapInv g arena
      ((heapMachine lib g).step s (.allocateAlignedPages memoryType pages alignment)).1 L' := by
  change ∃ L', HeapInv g arena (s.afterAlignedPages pages.toNat
    (internalAllocateAlignedPages lib g s.mem memoryType pages.toNat alignment.toNat)).1 L'
  rcases internalAllocateAlignedPages_any lib h.inv.freeList h.inv.base_pos memoryType pages
    alignment with hfault | ⟨result, hcode, hresult⟩
  · rw [hfault]
    exact ⟨L, h⟩
  · rw [hcode]
    rcases hresult with _ | ⟨address, m', l', -, hlist, htaken, heq⟩
    · exact ⟨L, h⟩
    · exact h.addPages hlist htaken heq

/-- **A step** of the machine keeps the memory in order. -/
theorem heapInv_step (hzero : lib.highBitSet32 0 = -1) (h : HeapInv g arena s L)
    {input : HeapInput} (hvalid : input.Valid s) :
    ∃ L', HeapInv g arena ((heapMachine lib g).step s input).1 L' := by
  cases input with
  | call input =>
    cases input with
    | allocatePool poolType size => exact heapInv_allocatePool_any hzero h poolType size
    | freePool buffer => exact (heapInv_freePool h hvalid).1
    | allocatePages memoryType number memory => exact (heapInv_allocatePages h hvalid).1
    | freePages memory number => exact (heapInv_freePages h hvalid).1
    | clientWrite mem => exact (@heapInv_clientWrite lib g arena s L h mem hvalid).1
  | allocateAlignedPages memoryType pages alignment =>
    exact heapInv_allocateAlignedPages h memoryType pages alignment

/-- **At every heap reached the memory is in order.** -/
theorem ReachableHeap.inv (hzero : lib.highBitSet32 0 = -1) (h : ReachableHeap lib g s) :
    ∃ arena L, HeapInv g arena s L := by
  obtain ⟨m, mmramRanges, m₀, is, hempty, husable, hcode, his, rfl⟩ := h
  obtain ⟨m₁, l, hcode', hinv⟩ := mmInitializeMemoryServices_whole lib hempty husable
  obtain rfl := Except.ok.inj (hcode.symm.trans hcode')
  refine ⟨addedAddrs mmramRanges, @Machine.final_of_steps _ _ _ (heapMachine lib g)
    (fun s => ∃ L, HeapInv g (addedAddrs mmramRanges) s L) (fun s i => i.Valid s) _
    ⟨freeLayout l, hinv, rfl, rfl, rfl⟩ (fun s i hi hI => ?_) is his⟩
  obtain ⟨L, hI⟩ := hI
  exact heapInv_step hzero hI hi

/-! ### Aligned pages -/

/-- **What a request for aligned pages should do**: return the null pointer and leave the memory
as it was, or return an aligned address and take exactly the pages from there on out of the free
pages. -/
def AllocatesAligned (lib : BaseLib) (g : Globals) (m : Mem) (l : List Block)
    (memoryType : EfiMemoryType) (pages alignment : ℕ) : Prop :=
  internalAllocateAlignedPages lib g m memoryType pages alignment = .ok (none, m) ∨
    ∃ address m', internalAllocateAlignedPages lib g m memoryType pages alignment =
        .ok (some address, m') ∧
      address % max alignment 4096 = 0 ∧ pageRange address pages ⊆ blockAddrs l ∧
      RunRemoved g m' l pages address

/-- **`InternalAllocateAlignedPages` at every heap reached.** -/
theorem internalAllocateAlignedPages_exact (lib : BaseLib) (hzero : lib.highBitSet32 0 = -1)
    (h : ReachableHeap lib g s) (memoryType : EfiMemoryType) {pages alignment : ℕ}
    (hpages : 1 ≤ pages) (halignment : IsAlignment alignment)
    (hbound : pages + efiSizeToPages alignment < 2 ^ 64) :
    ∃ l, FreeList g s.mem l ∧ AllocatesAligned lib g s.mem l memoryType pages alignment := by
  obtain ⟨arena, L, hinv⟩ := h.inv hzero
  obtain ⟨result, hcode, hresult⟩ := internalAllocateAlignedPages_spec lib hinv.inv.freeList
    hinv.inv.base_pos memoryType hpages halignment fun _ => hbound
  refine ⟨L.blocks, hinv.inv.freeList, ?_⟩
  rcases hresult with _ | ⟨address, m', l', haligned, hlist, htaken, -⟩
  · exact .inl hcode
  · have hrange : pageRange address pages ⊆ blockAddrs L.blocks := by
      rw [← htaken.addrs]
      exact Set.subset_union_right
    exact .inr ⟨address, m', hcode, haligned, hrange, htaken.removed hlist hinv.inv.coalesced⟩

end Runs

/-- The heap that `MmInitializeMemoryServices` leaves of a region of three pages. -/
theorem exists_reachableHeap :
    ∃ s, ReachableHeap .standard lowGlobals s ∧
      ∃ l, PoolInv lowGlobals (addedAddrs oneRange) s.mem (freeLayout l) := by
  obtain ⟨m₀, l, hcode, hinv⟩ := mmInitializeMemoryServices_whole .standard bootMem_isList
    oneRange_valid.usable
  exact ⟨⟨m₀, [], []⟩, ⟨bootMem, oneRange, m₀, [], bootMem_isList, oneRange_valid.usable, hcode,
    fun e he => absurd he List.not_mem_nil, rfl⟩, l, hinv⟩

/-- One page at an even one. -/
theorem internalAllocateAlignedPages_exact_two :
    ∃ s, ReachableHeap .standard lowGlobals s ∧ ∃ l, FreeList lowGlobals s.mem l ∧
      AllocatesAligned .standard lowGlobals s.mem l .efiRuntimeServicesData 1 0x2000 := by
  obtain ⟨s, hs, -⟩ := exists_reachableHeap
  exact ⟨s, hs, internalAllocateAlignedPages_exact .standard rfl hs .efiRuntimeServicesData le_rfl
    (.inr ⟨13, by decide, by decide⟩) (by decide)⟩

/-! ### Pool buffers -/

/-- **`MmInternalAllocatePool` at every heap reached**: a buffer has room for its size exactly
when the size with its header is a `UINTN`, or the request fails, for its type or because
nothing is free. -/
theorem mmInternalAllocatePool_room_iff (lib : BaseLib) (hzero : lib.highBitSet32 0 = -1)
    {g : Globals} {s : PoolHeap} (h : ReachableHeap lib g s) (poolType : EfiMemoryType)
    (size : BitVec 64) :
    PoolServed lib g s.mem poolType size.toNat ↔
      poolType.isRuntimeServices = false ∨ size.toNat + poolHeaderSize < 2 ^ 64 ∨
        (size.toNat + poolHeaderSize ≠ 2 ^ 64 ∧ NothingFree g s.mem) := by
  obtain ⟨arena, L, hinv⟩ := h.inv hzero
  exact mmInternalAllocatePool_served_iff lib hzero hinv.inv poolType size.isLt

/-- A buffer of 100 bytes. -/
theorem mmInternalAllocatePool_room_hundred :
    ∃ s, ReachableHeap .standard lowGlobals s ∧
      PoolServed .standard lowGlobals s.mem .efiRuntimeServicesData (100 : BitVec 64).toNat := by
  obtain ⟨s, hs, -⟩ := exists_reachableHeap
  exact ⟨s, hs, (mmInternalAllocatePool_room_iff .standard rfl hs .efiRuntimeServicesData 100).2
    (.inr (.inl (by decide)))⟩

/-- **The last size of all gets a block of 64 bytes**, and the last but 23 fails an `ASSERT`. -/
theorem mmInternalAllocatePool_no_room :
    ∃ s, ReachableHeap .standard lowGlobals s ∧
      (¬ PoolServed .standard lowGlobals s.mem .efiRuntimeServicesData (2 ^ 64 - 1)) ∧
      ¬ PoolServed .standard lowGlobals s.mem .efiRuntimeServicesData (2 ^ 64 - 24) := by
  obtain ⟨s, hs, l, hinv⟩ := exists_reachableHeap
  have hsome : ¬ NothingFree lowGlobals s.mem := by
    rw [hinv.nothingFree_iff]
    rintro ⟨-, hnil⟩
    have hmem : 0x100000 ∈ addedAddrs oneRange :=
      ⟨_, List.mem_singleton_self _, ⟨by decide, by decide⟩, 0x100, by decide, by decide,
        by decide, by decide⟩
    rw [← hinv.cover, freeLayout_extents, extentAddrs_blocks, show l = [] from hnil,
      blockAddrs_nil] at hmem
    exact hmem
  refine ⟨s, hs, ?_, ?_⟩
  all_goals
    rw [mmInternalAllocatePool_served_iff .standard rfl hinv _ (by omega)]
    have hruntime : EfiMemoryType.efiRuntimeServicesData.isRuntimeServices ≠ false := by decide
    rintro (hbad | hbad | hbad)
    · exact hruntime hbad
    · exact absurd hbad (by decide)
    · exact hsome hbad.2

end Allocation
end FfaFeature
