/-
# Runs of the two allocators

After `MmInitializeMemoryServices` a run allocates and frees pool buffers and pages in
any order, while the clients write into the buffers and pages they hold.  `PoolHeap`
keeps, beside the memory, the pages and the blocks of the buffers that are live;
`PoolInput.Valid` is what the callers promise.

Along every run the layout of the memory is in order (`HeapInv`): what the clients hold,
the available blocks and the free pages do not overlap, and every header is right.  So
every free succeeds, a pool allocation that fails changes nothing, and no call changes a
byte of a block that is live before and after it: `pool_sound`.
-/

import FfaFeature.Allocation.PoolFree
import FfaFeature.Allocation.Regions

namespace FfaFeature
namespace Allocation

open LinkedList

/-! ### The two allocators as a machine -/

/-- The memory, with what the clients hold. -/
structure PoolHeap where
  mem : Mem
  pages : List Block
  buffers : List Extent

/-- A call, or the clients' writes. -/
inductive PoolInput
  | allocatePool (poolType : EfiMemoryType) (size : BitVec 64)
  | freePool (buffer : BitVec 64)
  | allocatePages (memoryType : EfiMemoryType) (number memory : BitVec 64)
  | freePages (memory number : BitVec 64)
  | clientWrite (mem : Mem)

/-- The status of a call and the address it returns, or why it does not return. -/
abbrev PoolOutput := Except Fault (EfiStatus × Option ℕ)

/-- The block a buffer lies in, as its header has it. -/
def blockAt (m : Mem) (buffer : ℕ) : Extent :=
  ⟨buffer - poolHeaderSize, headerSize m (buffer - poolHeaderSize)⟩

/-- The bytes of a block behind its header. -/
def payload (e : Extent) : Set ℕ := Set.Ico (e.base + poolHeaderSize) e.top

namespace PoolHeap

/-- What the clients hold, with the headers of the buffers. -/
def held (s : PoolHeap) : Set ℕ := blockAddrs s.pages ∪ extentAddrs s.buffers

/-- What they may write. -/
def writable (s : PoolHeap) : Set ℕ := blockAddrs s.pages ∪ { a | ∃ e ∈ s.buffers, a ∈ payload e }

/-- The heap after a buffer was asked for. -/
def afterAllocatePool (s : PoolHeap) :
    Except Fault (EfiStatus × Option ℕ × Mem) → PoolHeap × PoolOutput
  | .error fault => (s, .error fault)
  | .ok (status, none, mem) => ({ s with mem := mem }, .ok (status, none))
  | .ok (status, some buffer, mem) =>
    ({ s with mem := mem, buffers := blockAt mem buffer :: s.buffers }, .ok (status, some buffer))

/-- The heap after a buffer was given back. -/
def afterFreePool (s : PoolHeap) (buffer : ℕ) :
    Except Fault (EfiStatus × Mem) → PoolHeap × PoolOutput
  | .error fault => (s, .error fault)
  | .ok (status, mem) =>
    ({ s with
        mem := mem
        buffers :=
          if status = .success then s.buffers.erase (blockAt s.mem buffer) else s.buffers },
      .ok (status, none))

/-- The heap after pages were asked for. -/
def afterAllocatePages (s : PoolHeap) (number : ℕ) :
    Except Fault (EfiStatus × ℕ × Mem) → PoolHeap × PoolOutput
  | .error fault => (s, .error fault)
  | .ok (status, address, mem) =>
    ({ s with
        mem := mem
        pages := if status = .success then ⟨address, number⟩ :: s.pages else s.pages },
      .ok (status, some address))

/-- The heap after pages were given back. -/
def afterFreePages (s : PoolHeap) (memory number : ℕ) :
    Except Fault (EfiStatus × Mem) → PoolHeap × PoolOutput
  | .error fault => (s, .error fault)
  | .ok (status, mem) =>
    ({ s with
        mem := mem
        pages := if status = .success then s.pages.erase ⟨memory, number⟩ else s.pages },
      .ok (status, none))

end PoolHeap

/-- The allocators as a machine. -/
def poolMachine (lib : BaseLib) (g : Globals) : Machine PoolHeap PoolInput PoolOutput where
  step s
    | .allocatePool poolType size =>
      s.afterAllocatePool (mmAllocatePool lib g s.mem poolType size.toNat)
    | .freePool buffer => s.afterFreePool buffer.toNat (mmFreePool lib g s.mem buffer.toNat)
    | .allocatePages memoryType number memory =>
      s.afterAllocatePages number.toNat
        (mmAllocatePages lib g s.mem .allocateAnyPages memoryType number.toNat memory.toNat)
    | .freePages memory number =>
      s.afterFreePages memory.toNat number.toNat
        (mmFreePages lib g s.mem memory.toNat number.toNat)
    | .clientWrite mem => ({ s with mem := mem }, .ok (.success, none))

/-- What the callers promise: a size leaves room for the header, what is freed is live,
and clients write only into what they hold. -/
def PoolInput.Valid (s : PoolHeap) : PoolInput → Prop
  | .allocatePool _ size => size.toNat + poolHeaderSize < 2 ^ 64
  | .freePool buffer => ∃ e ∈ s.buffers, buffer.toNat = e.base + poolHeaderSize
  | .allocatePages _ number _ => 1 ≤ number.toNat
  | .freePages memory number => Block.mk memory.toNat number.toNat ∈ s.pages
  | .clientWrite mem => Set.EqOn mem s.mem s.writableᶜ

/-- **The invariant**: no call is under way, and the layout is in order. -/
structure HeapInv (g : Globals) (arena : Set ℕ) (s : PoolHeap) (L : Layout) : Prop where
  inv : PoolInv g arena s.mem L
  transit : L.transit = []
  pages : L.pages = s.pages
  buffers : L.buffers = s.buffers

/-- No byte of what the clients hold before and after a step changed in it. -/
def Untouched (e : Machine.Step PoolHeap PoolInput PoolOutput) : Prop :=
  Set.EqOn e.post.mem e.pre.mem (e.pre.held ∩ e.post.held)

/-- **What holds of a step.**  A pool allocation fails and changes nothing, or returns
the first byte behind the header of a block with room for the size; a free succeeds; and
no call touches what the clients keep. -/
def PoolStepOk (e : Machine.Step PoolHeap PoolInput PoolOutput) : Prop :=
  match e.input with
  | .allocatePool _ size => Untouched e ∧
      ((∃ status, status.isError = true ∧ e.output = .ok (status, none) ∧ e.post = e.pre) ∨
        ∃ block, e.output = .ok (.success, some (block.base + poolHeaderSize)) ∧
          e.post.buffers = block :: e.pre.buffers ∧ e.post.pages = e.pre.pages ∧
          block.base + poolHeaderSize + size.toNat ≤ block.top)
  | .freePool _ => Untouched e ∧ e.output = .ok (.success, none)
  | .allocatePages _ _ _ => Untouched e ∧ ∃ result, e.output = .ok result
  | .freePages _ _ => Untouched e ∧ e.output = .ok (.success, none)
  | .clientWrite _ => True

section Runs

variable {lib : BaseLib} {g : Globals} {arena : Set ℕ} {s : PoolHeap} {L : Layout} {m' : Mem}
  {L' : Layout}

/-- What the clients hold is not the allocator's to change. -/
theorem Moves.untouched (hmoves : Moves g arena s.mem L m' L') (h : PoolInv g arena s.mem L) :
    Set.EqOn m' s.mem L.held := by
  obtain ⟨-, -, hpages, -, hbuffers⟩ := h.parts_subset
  have hsub : L.held ⊆ (L.own g arena)ᶜ := by
    rintro a ha (hglobal | ⟨-, hfree⟩)
    · exact Set.disjoint_left.1 h.managed.off (Set.union_subset hpages hbuffers ha) hglobal
    · exact hfree ha
  exact hmoves.frame.mono hsub

/-- What the layout has handed out is what clients hold. -/
theorem HeapInv.held_eq (h : HeapInv g arena s L) : L.held = s.held := by
  unfold Layout.held PoolHeap.held
  rw [h.pages, h.buffers]

/-- A buffer leads to its block. -/
theorem blockAt_eq {m : Mem} {e : Extent} (h : LiveBlock m e) :
    blockAt m (e.base + poolHeaderSize) = e := by
  have hbase : e.base + poolHeaderSize - poolHeaderSize = e.base := Nat.add_sub_cancel ..
  unfold blockAt
  rw [hbase, h.header.size]

/-- The heap with one buffer more. -/
theorem HeapInv.addBuffer (h : HeapInv g arena s L) {e : Extent}
    (hmoves : Moves g arena s.mem L m' L') (htransit : L'.transit = e :: L.transit)
    (hlive : LiveBlock m' e) :
    ∃ L'', HeapInv g arena { s with mem := m', buffers := e :: s.buffers } L'' := by
  rw [h.transit] at htransit
  refine ⟨_, hmoves.inv.toBuffer htransit hlive, rfl, hmoves.pages.trans h.pages, ?_⟩
  exact congrArg (e :: ·) (hmoves.buffers.trans h.buffers)

/-- The heap with one block of pages more. -/
theorem HeapInv.addPages (h : HeapInv g arena s L) {l' : List Block} {b : Block}
    (hlist : FreeList g m' l') (htaken : Taken L.blocks l' b)
    (heq : Set.EqOn m' s.mem (listArea g L.blocks)ᶜ) :
    ∃ L'', HeapInv g arena { s with mem := m', pages := b :: s.pages } L'' := by
  have hmoves := h.inv.takePages hlist htaken heq
  exact ⟨_, hmoves.inv.toPages rfl htaken.valid, h.transit, congrArg (b :: ·) h.pages, h.buffers⟩

/-- A step of `MmAllocatePool`. -/
theorem heapInv_allocatePool (h : HeapInv g arena s L) {poolType : EfiMemoryType}
    {size : BitVec 64} (hvalid : PoolInput.Valid s (.allocatePool poolType size)) :
    (∃ L', HeapInv g arena ((poolMachine lib g).step s (.allocatePool poolType size)).1 L') ∧
      PoolStepOk ((poolMachine lib g).stepAt s (.allocatePool poolType size)) := by
  obtain ⟨result, hcode, hresult⟩ := mmInternalAllocatePool_spec lib h.inv poolType hvalid
  have hstep : (poolMachine lib g).step s (.allocatePool poolType size) =
      s.afterAllocatePool (.ok result) := by
    show s.afterAllocatePool _ = _
    rw [mmAllocatePool, hcode]
  unfold PoolStepOk Untouched
  simp only [Machine.stepAt_input, Machine.stepAt_output, Machine.stepAt_pre, Machine.stepAt_post,
    hstep]
  rcases hresult with ⟨status, herror⟩ | ⟨e, m', L', hmoves, htransit, hlive, hroom⟩
  · exact ⟨⟨L, h⟩, fun _ _ => rfl, .inl ⟨status, herror, rfl, rfl⟩⟩
  · have hafter : s.afterAllocatePool (.ok (.success, some (e.base + poolHeaderSize), m')) =
        ({ s with mem := m', buffers := e :: s.buffers },
          .ok (.success, some (e.base + poolHeaderSize))) := by
      rw [PoolHeap.afterAllocatePool, blockAt_eq hlive]
    rw [hafter]
    refine ⟨h.addBuffer hmoves htransit hlive, ?_, .inr ⟨e, rfl, rfl, rfl, hroom⟩⟩
    exact (h.held_eq ▸ hmoves.untouched h.inv).mono Set.inter_subset_left

/-- A step of `MmFreePool`. -/
theorem heapInv_freePool (h : HeapInv g arena s L) {buffer : BitVec 64}
    (hvalid : PoolInput.Valid s (.freePool buffer)) :
    (∃ L', HeapInv g arena ((poolMachine lib g).step s (.freePool buffer)).1 L') ∧
      PoolStepOk ((poolMachine lib g).stepAt s (.freePool buffer)) := by
  obtain ⟨e, he, hbuffer⟩ := hvalid
  rw [← h.buffers] at he
  have hlive := h.inv.buffers e he
  have hback := h.inv.fromBuffer he
  obtain ⟨m', L', hcode, hmoves, htransit⟩ := mmInternalFreePool_spec lib hback rfl hlive
  have hstep : (poolMachine lib g).step s (.freePool buffer) =
      ({ s with mem := m', buffers := s.buffers.erase e }, .ok (.success, none)) := by
    show s.afterFreePool buffer.toNat _ = _
    rw [mmFreePool, hbuffer, hcode, PoolHeap.afterFreePool, if_pos rfl, blockAt_eq hlive]
  unfold PoolStepOk Untouched
  simp only [Machine.stepAt_input, Machine.stepAt_output, Machine.stepAt_pre, Machine.stepAt_post,
    hstep]
  have hbuffers : L.buffers.erase e = s.buffers.erase e := congrArg (List.erase · e) h.buffers
  have hheld : Layout.held { L with
      transit := e :: L.transit, buffers := L.buffers.erase e } =
      PoolHeap.held { s with mem := m', buffers := s.buffers.erase e } := by
    unfold Layout.held PoolHeap.held
    rw [hbuffers, h.pages]
  refine ⟨⟨L', hmoves.inv, htransit.trans h.transit, hmoves.pages.trans h.pages,
    hmoves.buffers.trans hbuffers⟩, ?_, trivial⟩
  exact (hheld ▸ hmoves.untouched hback).mono Set.inter_subset_right

/-- A step of `MmAllocatePages`. -/
theorem heapInv_allocatePages (h : HeapInv g arena s L) {memoryType : EfiMemoryType}
    {number memory : BitVec 64}
    (hvalid : PoolInput.Valid s (.allocatePages memoryType number memory)) :
    (∃ L', HeapInv g arena
        ((poolMachine lib g).step s (.allocatePages memoryType number memory)).1 L') ∧
      PoolStepOk ((poolMachine lib g).stepAt s (.allocatePages memoryType number memory)) := by
  obtain ⟨result, hcode, hresult⟩ := mmInternalAllocatePages_spec lib h.inv.freeList
    h.inv.base_pos (.inl rfl) memoryType hvalid memory.isLt
  have hstep : (poolMachine lib g).step s (.allocatePages memoryType number memory) =
      s.afterAllocatePages number.toNat (.ok result) := by
    show s.afterAllocatePages number.toNat _ = _
    rw [mmAllocatePages, hcode]
  unfold PoolStepOk Untouched
  simp only [Machine.stepAt_input, Machine.stepAt_output, Machine.stepAt_pre, Machine.stepAt_post,
    hstep]
  rcases hresult with ⟨status, address, herror⟩ | ⟨address, m', l', hlist, htaken, heq⟩
  · have hstatus : status ≠ .success := by
      rintro rfl
      simp at herror
    have hafter : s.afterAllocatePages number.toNat (.ok (status, address, s.mem)) =
        (s, .ok (status, some address)) := by
      rw [PoolHeap.afterAllocatePages, if_neg hstatus]
    rw [hafter]
    exact ⟨⟨L, h⟩, fun _ _ => rfl, _, rfl⟩
  · have hafter : s.afterAllocatePages number.toNat (.ok (.success, address, m')) =
        ({ s with mem := m', pages := ⟨address, number.toNat⟩ :: s.pages },
          .ok (.success, some address)) := by
      rw [PoolHeap.afterAllocatePages, if_pos rfl]
    rw [hafter]
    have hmoves := h.inv.takePages hlist htaken heq
    refine ⟨h.addPages hlist htaken heq, ?_, _, rfl⟩
    exact (h.held_eq ▸ hmoves.untouched h.inv).mono Set.inter_subset_left

/-- A step of `MmFreePages`. -/
theorem heapInv_freePages (h : HeapInv g arena s L) {memory number : BitVec 64}
    (hvalid : PoolInput.Valid s (.freePages memory number)) :
    (∃ L', HeapInv g arena ((poolMachine lib g).step s (.freePages memory number)).1 L') ∧
      PoolStepOk ((poolMachine lib g).stepAt s (.freePages memory number)) := by
  have hmem : Block.mk memory.toNat number.toNat ∈ L.pages := h.pages ▸ hvalid
  have hback := h.inv.fromPages hmem
  obtain ⟨m', l', hcode, hmoves⟩ := hback.givePages lib rfl (h.inv.pages _ hmem)
  have hstep : (poolMachine lib g).step s (.freePages memory number) =
      ({ s with mem := m', pages := s.pages.erase ⟨memory.toNat, number.toNat⟩ },
        .ok (.success, none)) := by
    show s.afterFreePages memory.toNat number.toNat _ = _
    rw [mmFreePages, hcode, PoolHeap.afterFreePages, if_pos rfl]
  unfold PoolStepOk Untouched
  simp only [Machine.stepAt_input, Machine.stepAt_output, Machine.stepAt_pre, Machine.stepAt_post,
    hstep]
  have hpages : L.pages.erase ⟨memory.toNat, number.toNat⟩ =
      s.pages.erase ⟨memory.toNat, number.toNat⟩ := congrArg (List.erase · _) h.pages
  have hheld : Layout.held { L with
      transit := (Block.mk memory.toNat number.toNat).extent :: L.transit
      pages := L.pages.erase ⟨memory.toNat, number.toNat⟩ } =
      PoolHeap.held { s with
        mem := m', pages := s.pages.erase ⟨memory.toNat, number.toNat⟩ } := by
    unfold Layout.held PoolHeap.held
    rw [hpages, h.buffers]
  refine ⟨⟨_, hmoves.inv, h.transit, hmoves.pages.trans hpages, hmoves.buffers.trans h.buffers⟩,
    ?_, trivial⟩
  exact (hheld ▸ hmoves.untouched hback).mono Set.inter_subset_right

/-- The headers of the live buffers are no payload. -/
theorem PoolInv.header_payload {m : Mem} (h : PoolInv g arena m L) {e : Extent}
    (he : e ∈ L.buffers) :
    Disjoint (poolHeader e.base) { a | ∃ e ∈ L.buffers, a ∈ payload e } := by
  have hheader := (h.buffers e he).placed.header_subset
  rw [Set.disjoint_left]
  rintro a ha ⟨other, hother, hpayload⟩
  have hlow := hpayload.1
  by_cases hne : e = other
  · subst hne
    have hhigh := ha.2
    have hsize : poolHeaderSize = 24 := rfl
    omega
  · have hoff : e.Off other := (Layout.separate_buffers h.separate).forall he hother hne
    exact Set.disjoint_left.1 hoff (hheader ha) ⟨(Nat.le_add_right _ _).trans hlow, hpayload.2⟩

/-- A step of the clients. -/
theorem heapInv_clientWrite (h : HeapInv g arena s L) {mem : Mem}
    (hvalid : PoolInput.Valid s (.clientWrite mem)) :
    (∃ L', HeapInv g arena ((poolMachine lib g).step s (.clientWrite mem)).1 L') ∧
      PoolStepOk ((poolMachine lib g).stepAt s (.clientWrite mem)) := by
  have hpayload : { a | ∃ e ∈ L.buffers, a ∈ payload e } ⊆ extentAddrs L.buffers := by
    rintro a ⟨e, he, ha⟩
    exact ⟨e, he, (Nat.le_add_right _ _).trans ha.1, ha.2⟩
  have hwritable : s.writable = blockAddrs L.pages ∪ { a | ∃ e ∈ L.buffers, a ∈ payload e } := by
    unfold PoolHeap.writable
    rw [h.pages, h.buffers]
  have heq : Set.EqOn mem s.mem (blockAddrs L.pages ∪ { a | ∃ e ∈ L.buffers, a ∈ payload e })ᶜ :=
    hwritable ▸ hvalid
  obtain ⟨-, -, hpages, -, -⟩ := h.inv.parts_subset
  have hlist : Disjoint (listArea g L.blocks) (blockAddrs L.pages) :=
    Set.disjoint_union_left.2
      ⟨(h.inv.managed.off.mono hpages (memoryMap_subset g)).symm, h.inv.apart.blocks_pages⟩
  have hpool : Disjoint (poolBytes g L.lists) (blockAddrs L.pages) :=
    Set.disjoint_union_left.2
      ⟨(h.inv.managed.off.mono hpages Set.subset_union_right).symm, h.inv.apart.pages_lists.symm⟩
  refine ⟨⟨L, ⟨?_, h.transit, h.pages, h.buffers⟩⟩, trivial⟩
  exact { h.inv with
    freeList := h.inv.freeList.of_eqOn heq
      (Set.disjoint_union_right.2 ⟨hlist, h.inv.listArea_buffers.symm.mono_right hpayload⟩)
    lists := h.inv.lists.of_eqOn heq
      (Set.disjoint_union_right.2 ⟨hpool, h.inv.poolBytes_buffers.symm.mono_right hpayload⟩)
    buffers := fun e he => (h.inv.buffers e he).of_eqOn heq
      (Set.disjoint_union_right.2 ⟨h.inv.apart.pages_buffers.symm.mono_left
        ((h.inv.buffers e he).placed.header_subset.trans (addrs_subset he)),
        h.inv.header_payload he⟩) }

/-- **Along every run of the two allocators the memory is in order**: what the clients
hold, the available blocks and the free pages do not overlap, and every header is right.
No `ASSERT` fails, every free succeeds, a pool allocation that fails changes nothing, and
no call touches what the clients keep. -/
theorem pool_sound (lib : BaseLib) (g : Globals) (m : Mem) (mmramRanges : List MmramDescriptor)
    (hempty : IsList m g.mMmMemoryMap []) (hvalid : RangesValid g mmramRanges) :
    ∃ m₀, mmInitializeMemoryServices lib g m mmramRanges = .ok m₀ ∧
      ∀ is, (∀ e ∈ (poolMachine lib g).history ⟨m₀, [], []⟩ is, e.input.Valid e.pre) →
        (∃ L, HeapInv g (usableAddrs mmramRanges)
          ((poolMachine lib g).final ⟨m₀, [], []⟩ is) L) ∧
        ∀ e ∈ (poolMachine lib g).history ⟨m₀, [], []⟩ is, PoolStepOk e := by
  obtain ⟨m₀, l, hcode, hinv⟩ := mmInitializeMemoryServices_whole lib hempty hvalid.usable
  rw [hvalid.addedAddrs_eq] at hinv
  refine ⟨m₀, hcode, fun is his => ?_⟩
  refine @Machine.final_and_steps _ _ _ (poolMachine lib g)
    (fun s => ∃ L, HeapInv g (usableAddrs mmramRanges) s L) (fun s i => i.Valid s) PoolStepOk _
    ⟨freeLayout l, hinv, rfl, rfl, rfl⟩ (fun s i hi hI => ?_) is his
  obtain ⟨L, hI⟩ := hI
  rcases i with _ | _ | _ | _ | _
  · exact heapInv_allocatePool hI hi
  · exact heapInv_freePool hI hi
  · exact heapInv_allocatePages hI hi
  · exact heapInv_freePages hI hi
  · exact heapInv_clientWrite hI hi

end Runs

/-! ### A run -/

/-- A region of three pages. -/
def oneRange : List MmramDescriptor := [⟨0x100000, 0x3000, 0⟩]

/-- A buffer of 100 bytes is allocated and freed again. -/
def poolRun : List PoolInput :=
  [.allocatePool .efiRuntimeServicesData 100, .freePool 0x102F98]

/-- The memory a function returns. -/
def okMem : Except Fault Mem → Mem
  | .ok m => m
  | .error _ => fun _ => 0

/-- The range is valid. -/
theorem oneRange_valid : RangesValid lowGlobals oneRange := by
  refine ⟨fun range hrange => ?_, List.pairwise_singleton _ _⟩
  rw [List.mem_singleton.1 hrange]
  refine ⟨by decide, by decide, by decide, by decide, by decide, ?_⟩
  exact lowGlobals_disjoint fun a ha => ha.1

/-- That run leaves the memory in order. -/
theorem pool_sound_poolRun :
    ∃ m₀, mmInitializeMemoryServices .standard lowGlobals bootMem oneRange = .ok m₀ ∧
      ∃ L, HeapInv lowGlobals (usableAddrs oneRange)
        ((poolMachine .standard lowGlobals).final ⟨m₀, [], []⟩ poolRun) L := by
  obtain ⟨m₀, hcode, hruns⟩ := pool_sound .standard lowGlobals bootMem oneRange bootMem_isList
    oneRange_valid
  have hmem : m₀ = okMem (mmInitializeMemoryServices .standard lowGlobals bootMem oneRange) := by
    rw [hcode]
    rfl
  refine ⟨m₀, hcode, (hruns poolRun fun e he => ?_).1⟩
  simp only [poolRun, Machine.history, List.mem_cons, List.not_mem_nil, or_false] at he
  rcases he with rfl | rfl
  · show 100 + poolHeaderSize < 2 ^ 64
    decide
  · have hbuffers : ((poolMachine .standard lowGlobals).step ⟨okMem
        (mmInitializeMemoryServices .standard lowGlobals bootMem oneRange), [], []⟩
        (.allocatePool .efiRuntimeServicesData 100)).1.buffers = [⟨0x102F80, 128⟩] := by
      decide +kernel
    refine ⟨⟨0x102F80, 128⟩, ?_, rfl⟩
    rw [Machine.stepAt_pre, hmem, hbuffers]
    exact List.mem_cons_self

end Allocation
end FfaFeature
