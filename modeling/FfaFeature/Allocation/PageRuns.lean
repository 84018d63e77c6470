/-
# Runs of the page allocator

A run donates regions with `MmAddMemoryRegion`, allocates with `MmAllocatePages` and
frees with `MmFreePages`, in any order, while the clients write into the pages they
hold.  `PageHeap` keeps, beside the memory, which addresses were donated and which are
allocated; `PageInput.Valid` is what the callers promise.

`PageInv` is the invariant: the list `mMmMemoryMap` is ascending and coalesced, and the
free pages and the allocated ones partition the donated ones.  It holds along every run
(`pages_partition`), no `ASSERT` fails, every free succeeds, and what an allocation
returns was free.
-/

import FfaFeature.Lib.Machine
import FfaFeature.Allocation.PageFree

namespace FfaFeature
namespace Allocation

open LinkedList

/-- `MmAddMemoryRegion` of a page-aligned region adds its pages. -/
theorem mmAddMemoryRegion_spec {g : Globals} {m : Mem} {l : List Block} {x : Block}
    (lib : BaseLib) (h : FreeList g m l) (hx : x.Valid) (hoff : Disjoint x.addrs g.bytes)
    (hclear : Disjoint (blockAddrs l) x.addrs) {attributes : BitVec 64}
    (hattributes : attributes &&& excludedAttributes = 0) :
    ∃ m' l', mmAddMemoryRegion lib g m x.base (4096 * x.pages) attributes = .ok m' ∧
      FreeList g m' l' ∧ blockAddrs l' = blockAddrs l ∪ x.addrs ∧
      (Coalesced l → Coalesced l') ∧ Set.EqOn m' m (listArea g (x :: l))ᶜ := by
  obtain ⟨m', l', hcode, hrest⟩ := mmInternalFreePages_spec lib h hx hoff hclear
  refine ⟨m', l', ?_, hrest⟩
  have halign := hx.aligned
  have hbound := hx.bound
  unfold Block.top at hbound
  have hbase : uadd x.base 4095 / 4096 * 4096 = x.base := by
    unfold uadd
    omega
  have hlength : truncateToPages (usub (4096 * x.pages) (usub x.base x.base)) = x.pages := by
    unfold truncateToPages usub
    omega
  rw [mmAddMemoryRegion_frees lib hattributes hbase, hlength, hcode]
  rfl

/-! ### The allocator as a machine -/

/-- The memory, with the addresses donated and those allocated. -/
structure PageHeap where
  mem : Mem
  donated : Set ℕ
  allocated : Set ℕ

/-- A call, or the clients' writes into the pages they hold. -/
inductive PageInput
  | addMemoryRegion (memBase memLength attributes : BitVec 64)
  | allocatePages (type : EfiAllocateType) (memoryType : EfiMemoryType)
      (number memory : BitVec 64)
  | freePages (memory number : BitVec 64)
  | clientWrite (mem : Mem)

/-- The status of a call and the address it returns, or why it does not return. -/
abbrev PageOutput := Except Fault (EfiStatus × ℕ)

/-- The addresses of `number` pages. -/
def pageRange (memory number : ℕ) : Set ℕ := Set.Ico memory (memory + 4096 * number)

/-- The heap after a region was added. -/
def PageHeap.afterAdd (s : PageHeap) (memBase memLength attributes : BitVec 64) :
    Except Fault Mem → PageHeap × PageOutput
  | .error fault => (s, .error fault)
  | .ok mem =>
    ({ s with
        mem := mem
        donated := s.donated ∪
          if attributes &&& excludedAttributes = 0 then
            Set.Ico memBase.toNat (memBase.toNat + memLength.toNat)
          else ∅ },
      .ok (.success, 0))

/-- The heap after pages were asked for. -/
def PageHeap.afterAllocate (s : PageHeap) (number : BitVec 64) :
    Except Fault (EfiStatus × ℕ × Mem) → PageHeap × PageOutput
  | .error fault => (s, .error fault)
  | .ok (status, address, mem) =>
    ({ s with
        mem := mem
        allocated := s.allocated ∪
          if status = .success then pageRange address number.toNat else ∅ },
      .ok (status, address))

/-- The heap after pages were given back. -/
def PageHeap.afterFree (s : PageHeap) (memory number : BitVec 64) :
    Except Fault (EfiStatus × Mem) → PageHeap × PageOutput
  | .error fault => (s, .error fault)
  | .ok (status, mem) =>
    ({ s with
        mem := mem
        allocated := s.allocated \
          if status = .success then pageRange memory.toNat number.toNat else ∅ },
      .ok (status, 0))

/-- The allocator as a machine. -/
def pageMachine (lib : BaseLib) (g : Globals) : Machine PageHeap PageInput PageOutput where
  step s
    | .addMemoryRegion memBase memLength attributes =>
      s.afterAdd memBase memLength attributes
        (mmAddMemoryRegion lib g s.mem memBase.toNat memLength.toNat attributes)
    | .allocatePages type memoryType number memory =>
      s.afterAllocate number
        (mmAllocatePages lib g s.mem type memoryType number.toNat memory.toNat)
    | .freePages memory number =>
      s.afterFree memory number (mmFreePages lib g s.mem memory.toNat number.toNat)
    | .clientWrite mem => ({ s with mem := mem }, .ok (.success, 0))

/-- What the callers promise: regions are page-aligned, lie between 1 MB and the end of
the address space and meet neither each other nor the library's globals; what is freed
is allocated; and clients write only into allocated pages. -/
def PageInput.Valid (g : Globals) (s : PageHeap) : PageInput → Prop
  | .addMemoryRegion memBase memLength attributes =>
    attributes &&& excludedAttributes = 0 →
      memBase.toNat % 4096 = 0 ∧ memLength.toNat % 4096 = 0 ∧ 4096 ≤ memLength.toNat ∧
        2 ^ 20 ≤ memBase.toNat ∧ memBase.toNat + memLength.toNat < 2 ^ 64 ∧
        Disjoint (Set.Ico memBase.toNat (memBase.toNat + memLength.toNat)) s.donated ∧
        Disjoint (Set.Ico memBase.toNat (memBase.toNat + memLength.toNat)) g.bytes
  | .allocatePages type _ number _ =>
    (type = .allocateAnyPages ∨ type = .allocateMaxAddress) ∧ 1 ≤ number.toNat
  | .freePages memory number =>
    memory.toNat % 4096 = 0 ∧ 1 ≤ number.toNat ∧
      pageRange memory.toNat number.toNat ⊆ s.allocated
  | .clientWrite mem => Set.EqOn mem s.mem s.allocatedᶜ

/-- **The invariant**, for the blocks the list consists of. -/
structure PageInv (g : Globals) (s : PageHeap) (l : List Block) : Prop where
  freeList : FreeList g s.mem l
  coalesced : Coalesced l
  partition : blockAddrs l ∪ s.allocated = s.donated
  disjoint : Disjoint (blockAddrs l) s.allocated
  low : ∀ a ∈ s.donated, 2 ^ 20 ≤ a
  bound : ∀ a ∈ s.donated, a + 1 < 2 ^ 64
  off : Disjoint s.donated g.bytes

/-- **What holds of a step**: the call returns, a free succeeds, and the pages an
allocation returns were donated and not allocated. -/
def PageStepOk (e : Machine.Step PageHeap PageInput PageOutput) : Prop :=
  match e.input with
  | .allocatePages _ _ number _ => ∃ status address, e.output = .ok (status, address) ∧
      (status = .success → pageRange address number.toNat ⊆ e.pre.donated \ e.pre.allocated)
  | .freePages _ _ => ∃ address, e.output = .ok (.success, address)
  | .addMemoryRegion _ _ _ => ∃ result, e.output = .ok result
  | .clientWrite _ => ∃ result, e.output = .ok result

section Runs

variable {lib : BaseLib} {g : Globals} {s : PageHeap} {l : List Block}

/-- No free block is at address 0. -/
theorem PageInv.base_pos (h : PageInv g s l) : ∀ b ∈ l, 0 < b.base := by
  intro b hb
  have hmem : b.base ∈ s.donated :=
    h.partition ▸ .inl (addrs_subset_blockAddrs hb (h.freeList.valid b hb).base_mem)
  have := h.low b.base hmem
  omega

/-- The bytes of the list are free, or the head of the list. -/
theorem PageInv.listArea_disjoint (h : PageInv g s l) : Disjoint (listArea g l) s.allocated := by
  refine Set.disjoint_union_left.2 ⟨?_, h.disjoint⟩
  have hsub : s.allocated ⊆ s.donated := h.partition ▸ Set.subset_union_right
  exact (h.off.mono hsub (memoryMap_subset g)).symm

/-- A step of `MmAddMemoryRegion`. -/
theorem pageInv_addMemoryRegion (h : PageInv g s l) {memBase memLength attributes : BitVec 64}
    (hvalid : PageInput.Valid g s (.addMemoryRegion memBase memLength attributes)) :
    (∃ l', PageInv g
        ((pageMachine lib g).step s (.addMemoryRegion memBase memLength attributes)).1 l') ∧
      PageStepOk
        ((pageMachine lib g).stepAt s (.addMemoryRegion memBase memLength attributes)) := by
  by_cases hattributes : attributes &&& excludedAttributes = 0
  · obtain ⟨hbase, hlength, hpos, hlow, hbound, hdonated, hoff⟩ := hvalid hattributes
    obtain ⟨x, hx, hbase', hpages, haddrs⟩ := Block.exists_of_region hbase hlength hpos hbound
    have hfree : blockAddrs l ⊆ s.donated := h.partition ▸ Set.subset_union_left
    have hallocated : s.allocated ⊆ s.donated := h.partition ▸ Set.subset_union_right
    obtain ⟨m', l', hcode, hlist, hunion, hco, -⟩ := mmAddMemoryRegion_spec lib h.freeList hx
      (haddrs ▸ hoff) (haddrs ▸ (hdonated.mono_right hfree).symm) hattributes
    rw [haddrs] at hunion
    rw [hbase', hpages] at hcode
    have hstep : (pageMachine lib g).step s (.addMemoryRegion memBase memLength attributes) =
        ({ s with
            mem := m'
            donated := s.donated ∪ Set.Ico memBase.toNat (memBase.toNat + memLength.toNat) },
          .ok (.success, 0)) := by
      show s.afterAdd memBase memLength attributes _ = _
      rw [hcode, PageHeap.afterAdd, if_pos hattributes]
    have hok : PageStepOk ((pageMachine lib g).stepAt s
        (.addMemoryRegion memBase memLength attributes)) := ⟨_, congrArg Prod.snd hstep⟩
    refine ⟨⟨l', ?_⟩, hok⟩
    rw [hstep]
    refine ⟨hlist, hco h.coalesced, ?_, ?_, fun a ha => ?_, fun a ha => ?_, ?_⟩
    · rw [hunion, ← h.partition, Set.union_right_comm]
    · rw [hunion]
      exact Set.disjoint_union_left.2 ⟨h.disjoint, hdonated.mono_right hallocated⟩
    · rcases ha with ha | ha
      · exact h.low a ha
      · exact hlow.trans ha.1
    · rcases ha with ha | ha
      · exact h.bound a ha
      · have := ha.2
        omega
    · exact Set.disjoint_union_left.2 ⟨h.off, hoff⟩
  · have hstep : (pageMachine lib g).step s (.addMemoryRegion memBase memLength attributes) =
        (s, .ok (.success, 0)) := by
      show s.afterAdd memBase memLength attributes _ = _
      rw [mmAddMemoryRegion, if_pos hattributes, PageHeap.afterAdd, if_neg hattributes,
        Set.union_empty]
    exact ⟨⟨l, hstep ▸ h⟩, ⟨_, congrArg Prod.snd hstep⟩⟩

/-- A step of `MmAllocatePages`. -/
theorem pageInv_allocatePages (h : PageInv g s l) {type : EfiAllocateType}
    {memoryType : EfiMemoryType} {number memory : BitVec 64}
    (hvalid : PageInput.Valid g s (.allocatePages type memoryType number memory)) :
    (∃ l', PageInv g
        ((pageMachine lib g).step s (.allocatePages type memoryType number memory)).1 l') ∧
      PageStepOk ((pageMachine lib g).stepAt s (.allocatePages type memoryType number memory)) := by
  obtain ⟨result, hcode, hresult⟩ := mmInternalAllocatePages_spec lib h.freeList h.base_pos hvalid.1
    memoryType hvalid.2 memory.isLt
  have hstep : (pageMachine lib g).step s (.allocatePages type memoryType number memory) =
      s.afterAllocate number (.ok result) := by
    show s.afterAllocate number _ = _
    rw [mmAllocatePages, hcode]
  rw [PageStepOk, Machine.stepAt_input, Machine.stepAt_output, hstep]
  rcases hresult with ⟨status, address, herror⟩ | ⟨address, m', l', hlist, htaken, -⟩
  · have hstatus : status ≠ .success := by
      rintro rfl
      simp at herror
    have hsame : s.afterAllocate number (.ok (status, address, s.mem)) =
        (s, .ok (status, address)) := by
      rw [PageHeap.afterAllocate, if_neg hstatus, Set.union_empty]
    rw [hsame]
    exact ⟨⟨l, h⟩, status, address, rfl, fun he => absurd he hstatus⟩
  · have hafter : s.afterAllocate number (.ok (.success, address, m')) =
        ({ s with mem := m', allocated := s.allocated ∪ pageRange address number.toNat },
          .ok (.success, address)) := by
      rw [PageHeap.afterAllocate, if_pos rfl]
    have hrange : pageRange address number.toNat ⊆ blockAddrs l :=
      htaken.addrs ▸ Set.subset_union_right
    have hrest : blockAddrs l' ⊆ blockAddrs l := htaken.addrs ▸ Set.subset_union_left
    have hfree : blockAddrs l ⊆ s.donated := h.partition ▸ Set.subset_union_left
    rw [hafter]
    refine ⟨⟨l', hlist, htaken.coalesced h.coalesced, ?_, ?_, h.low, h.bound, h.off⟩,
      .success, address, rfl, fun _ a ha => ?_⟩
    · rw [← h.partition, ← htaken.addrs, Set.union_right_comm, Set.union_assoc]
      rfl
    · exact Set.disjoint_union_right.2 ⟨h.disjoint.mono_left hrest, htaken.disjoint⟩
    · exact ⟨hfree (hrange ha), Set.disjoint_left.1 h.disjoint (hrange ha)⟩

/-- A step of `MmFreePages`. -/
theorem pageInv_freePages (h : PageInv g s l) {memory number : BitVec 64}
    (hvalid : PageInput.Valid g s (.freePages memory number)) :
    (∃ l', PageInv g ((pageMachine lib g).step s (.freePages memory number)).1 l') ∧
      PageStepOk ((pageMachine lib g).stepAt s (.freePages memory number)) := by
  obtain ⟨haligned, hpos, hrange⟩ := hvalid
  have hallocated : s.allocated ⊆ s.donated := h.partition ▸ Set.subset_union_right
  have hlast : memory.toNat + 4096 * number.toNat - 1 ∈ pageRange memory.toNat number.toNat :=
    ⟨by omega, by omega⟩
  have hbound := h.bound _ (hallocated (hrange hlast))
  have hx : (Block.mk memory.toNat number.toNat).Valid :=
    ⟨haligned, hpos, by simp only [Block.top]; omega⟩
  obtain ⟨m', l', hcode, hlist, hunion, hco, -⟩ := mmInternalFreePages_spec lib h.freeList hx
    (h.off.mono_left (hrange.trans hallocated)) (h.disjoint.mono_right hrange)
  have hstep : (pageMachine lib g).step s (.freePages memory number) =
      ({ s with mem := m', allocated := s.allocated \ pageRange memory.toNat number.toNat },
        .ok (.success, 0)) := by
    show s.afterFree memory number _ = _
    rw [mmFreePages, hcode, PageHeap.afterFree, if_pos rfl]
  have hok : PageStepOk ((pageMachine lib g).stepAt s (.freePages memory number)) :=
    ⟨_, congrArg Prod.snd hstep⟩
  refine ⟨⟨l', ?_⟩, hok⟩
  rw [hstep]
  refine ⟨hlist, hco h.coalesced, ?_, ?_, h.low, h.bound, h.off⟩
  · have hback : pageRange memory.toNat number.toNat ∪
        s.allocated \ pageRange memory.toNat number.toNat = s.allocated :=
      Set.union_sdiff_cancel hrange
    rw [hunion, ← h.partition, Set.union_assoc]
    exact congrArg _ hback
  · rw [hunion]
    exact Set.disjoint_union_left.2
      ⟨h.disjoint.mono_right Set.sdiff_subset, Set.disjoint_sdiff_right⟩

/-- A step of the clients. -/
theorem pageInv_clientWrite (h : PageInv g s l) {mem : Mem}
    (hvalid : PageInput.Valid g s (.clientWrite mem)) :
    (∃ l', PageInv g ((pageMachine lib g).step s (.clientWrite mem)).1 l') ∧
      PageStepOk ((pageMachine lib g).stepAt s (.clientWrite mem)) := by
  have hlinked : Linked g mem l := h.freeList.linked.of_eqOn hvalid
    (h.listArea_disjoint.mono_left h.freeList.headers_subset)
  exact ⟨⟨l, ⟨hlinked, h.freeList.valid, h.freeList.ascending, h.freeList.apart⟩, h.coalesced,
    h.partition, h.disjoint, h.low, h.bound, h.off⟩, ⟨_, rfl⟩⟩

/-- The heap before any region is added. -/
def emptyHeap (m : Mem) : PageHeap := ⟨m, ∅, ∅⟩

/-- The invariant holds before anything is added. -/
theorem pageInv_empty {m : Mem} (h : IsList m g.mMmMemoryMap []) : PageInv g (emptyHeap m) [] := by
  refine ⟨freeList_nil h, List.Pairwise.nil, ?_, ?_,
    fun _ ha => absurd ha (Set.notMem_empty _), fun _ ha => absurd ha (Set.notMem_empty _), ?_⟩
  · rw [blockAddrs_nil]
    exact Set.union_empty _
  · exact Set.disjoint_empty _
  · exact Set.empty_disjoint _

/-- **Along every run the list is sorted and coalesced, and the free and the allocated
pages partition the donated ones**; every call returns, every free succeeds, and no page
is handed out twice. -/
theorem pages_partition (lib : BaseLib) (g : Globals) (m : Mem) (is : List PageInput)
    (hempty : IsList m g.mMmMemoryMap [])
    (hvalid : ∀ e ∈ (pageMachine lib g).history (emptyHeap m) is, e.input.Valid g e.pre) :
    (∃ l, PageInv g ((pageMachine lib g).final (emptyHeap m) is) l) ∧
      ∀ e ∈ (pageMachine lib g).history (emptyHeap m) is, PageStepOk e := by
  refine @Machine.final_and_steps _ _ _ (pageMachine lib g) (fun s => ∃ l, PageInv g s l)
    (fun s i => i.Valid g s) PageStepOk _ ⟨[], pageInv_empty hempty⟩ (fun s i hi hI => ?_) is hvalid
  obtain ⟨l, hI⟩ := hI
  rcases i with _ | _ | _ | _
  · exact pageInv_addMemoryRegion hI hi
  · exact pageInv_allocatePages hI hi
  · exact pageInv_freePages hI hi
  · exact pageInv_clientWrite hI hi

end Runs

/-! ### A run -/

/-- What a successful allocation adds to the allocated addresses. -/
theorem allocated_of_success {lib : BaseLib} {g : Globals} {s : PageHeap} {type : EfiAllocateType}
    {memoryType : EfiMemoryType} {number memory : BitVec 64} (address : ℕ)
    (h : ((pageMachine lib g).step s (.allocatePages type memoryType number memory)).2 =
      .ok (.success, address)) :
    ((pageMachine lib g).step s (.allocatePages type memoryType number memory)).1.allocated =
      s.allocated ∪ pageRange address number.toNat := by
  simp only [pageMachine] at h ⊢
  generalize mmAllocatePages lib g s.mem type memoryType number.toNat memory.toNat = result at h ⊢
  rcases result with fault | ⟨status, address', mem⟩
  · cases h
  · obtain ⟨rfl, rfl⟩ := Prod.mk.inj (Except.ok.inj h)
    rw [PageHeap.afterAllocate, if_pos rfl]

/-- The globals at two addresses below 1 MB. -/
def lowGlobals : Globals := ⟨0x1000, 0x2000, by decide, by decide, by decide⟩

/-- A memory with an empty list. -/
def bootMem : Mem := Standard.initializeListHead (fun _ => 0) 0x1000

/-- The list is empty. -/
theorem bootMem_isList : IsList bootMem lowGlobals.mMmMemoryMap [] :=
  Standard.initializeListHead_isList (by decide)

/-- What lies from 1 MB on is off these globals. -/
theorem lowGlobals_disjoint {S : Set ℕ} (h : ∀ a ∈ S, 2 ^ 20 ≤ a) :
    Disjoint S lowGlobals.bytes := by
  rw [Set.disjoint_left]
  rintro a ha (hb | hb) <;>
  · have hlow := h a ha
    have hlt := hb.2
    simp only [lowGlobals] at hlt
    omega

/-- A region of three pages is donated, one page is allocated and freed again. -/
def pageRun : List PageInput :=
  [.addMemoryRegion 0x100000 0x3000 0,
    .allocatePages .allocateAnyPages .efiRuntimeServicesData 1 0,
    .freePages 0x102000 1]

/-- At the end of that run all three pages are free again, in one block or more. -/
theorem pages_partition_pageRun :
    ∃ l, PageInv lowGlobals
      ((pageMachine .standard lowGlobals).final (emptyHeap bootMem) pageRun) l := by
  refine (pages_partition .standard lowGlobals bootMem pageRun bootMem_isList fun e he => ?_).1
  simp only [pageRun, Machine.history, List.mem_cons, List.not_mem_nil, or_false] at he
  rcases he with rfl | rfl | rfl
  · refine fun _ =>
      ⟨by decide, by decide, by decide, by decide, by decide, Set.disjoint_empty _, ?_⟩
    exact lowGlobals_disjoint fun a ha => ha.1
  · exact ⟨.inl rfl, by decide⟩
  · refine ⟨by decide, by decide, fun a ha => ?_⟩
    rw [Machine.stepAt_pre, allocated_of_success 0x102000 (by decide +kernel)]
    exact .inr ha

end Allocation
end FfaFeature
