/-
# The pages of the heap

What `MemoryAllocationLibConstructor` makes of the heap it has read from the manifest, on an
allocator that is empty.  The whole pages of the heap should become free, and nothing else.

On the way from the manifest to the list of free pages the size is taken modulo 2^32, the
descriptor of the region carries a `RegionState` nobody has set, and a region without a whole
page is given to `MmFreePages` all the same, which puts a block of no pages on the list, or of
almost 2^52.  `constructor_freePages_iff` says for which heaps, and which contents of the
stack, the free pages are the right ones.
-/

import FfaFeature.Allocation.Manifest
import FfaFeature.Allocation.PoolInit
import Mathlib.Order.CompletePartialOrder

namespace FfaFeature
namespace Allocation

open LinkedList

/-! ### Whole pages -/

/-- The first page boundary from an address on. -/
def pageUp (address : ℕ) : ℕ := (address + 4095) / 4096 * 4096

/-- How many whole pages there are in `size` bytes from `base` on. -/
def wholePageCount (base size : ℕ) : ℕ := (base + size) / 4096 - (base + 4095) / 4096

/-- The addresses of the whole pages in `size` bytes from `base` on. -/
def wholePages (base size : ℕ) : Set ℕ :=
  {a | ∃ page, base ≤ 4096 * page ∧ 4096 * (page + 1) ≤ base + size ∧
    4096 * page ≤ a ∧ a < 4096 * (page + 1)}

/-- The whole pages are one block. -/
theorem wholePages_eq (base size : ℕ) :
    wholePages base size = (Block.mk (pageUp base) (wholePageCount base size)).addrs := by
  ext a
  simp only [Block.addrs, Block.top, pageUp, wholePageCount, Set.mem_Ico]
  constructor
  · rintro ⟨page, hlo, hhi, ha, ha'⟩
    omega
  · rintro ⟨hlo, hhi⟩
    exact ⟨a / 4096, by omega, by omega, by omega, by omega⟩

/-- The whole pages of a range lie in the range. -/
theorem wholePages_subset (base size : ℕ) :
    wholePages base size ⊆ Set.Ico base (base + size) := by
  rintro a ⟨page, hlo, hhi, ha, ha'⟩
  exact ⟨by omega, by omega⟩

/-- There are none exactly when their count is zero. -/
theorem wholePages_eq_empty_iff (base size : ℕ) :
    wholePages base size = ∅ ↔ wholePageCount base size = 0 := by
  rw [wholePages_eq, Block.addrs, Block.top, Set.Ico_eq_empty_iff]
  dsimp only
  omega

/-- Blocks with the same base and the same addresses have the same pages. -/
theorem pages_eq_of_addrs {base n n' : ℕ} (hpos : 1 ≤ n)
    (h : (Block.mk base n).addrs = (Block.mk base n').addrs) : n = n' := by
  simp only [Block.addrs, Block.top] at h
  have hlast : base + 4096 * n - 1 ∈ Set.Ico base (base + 4096 * n') :=
    h ▸ ⟨by omega, by omega⟩
  have hbehind : base + 4096 * n ∉ Set.Ico base (base + 4096 * n') := by
    rw [← h]
    exact fun hmem => absurd hmem.2 (lt_irrefl _)
  have hlt := hlast.2
  have hle : ¬ base + 4096 * n < base + 4096 * n' := fun hlt' => hbehind ⟨by omega, hlt'⟩
  omega

/-- The free pages are those of the set, and an empty set is an empty list. -/
def FreePagesAre (g : Globals) (m : Mem) (S : Set ℕ) : Prop :=
  ∃ l, FreeList g m l ∧ blockAddrs l = S

section FreePages

variable {g : Globals} {m : Mem} {x : Block} {S : Set ℕ}

/-- The free pages of an empty list. -/
theorem freePagesAre_nil_iff (h : IsList m g.mMmMemoryMap []) :
    FreePagesAre g m S ↔ S = ∅ := by
  have hlist := freeList_nil h
  constructor
  · rintro ⟨l, hl, rfl⟩
    rw [hl.linked.unique hlist.linked]
    exact blockAddrs_nil
  · rintro rfl
    exact ⟨[], hlist, blockAddrs_nil⟩

/-- The free pages of a list with one entry, if it is a block at all. -/
theorem freePagesAre_singleton_iff (h : Linked g m [x]) :
    FreePagesAre g m S ↔ x.Valid ∧ Disjoint x.addrs g.bytes ∧ x.addrs = S := by
  have haddrs : blockAddrs [x] = x.addrs := by rw [blockAddrs_cons, blockAddrs_nil, Set.union_empty]
  constructor
  · rintro ⟨l, hl, rfl⟩
    obtain rfl := hl.linked.unique h
    exact ⟨hl.valid x List.mem_cons_self, haddrs ▸ hl.apart, haddrs.symm⟩
  · rintro ⟨hvalid, hoff, rfl⟩
    exact ⟨[x], freeList_singleton h hvalid hoff, haddrs⟩

end FreePages

/-! ### The region that is added -/

/-- The number of pages `MmAddMemoryRegion` comes to for a region of `size` bytes. -/
def addedPages (base size : ℕ) : ℕ := truncateToPages (usub size (usub (pageUp base) base))

/-- The pages added are the whole pages of the heap exactly where its size fits in 32 bits and
there is a whole page. -/
theorem addedPages_iff {base pages : ℕ} (hlow : 2 ^ 20 ≤ base)
    (hbound : base + 4096 * pages ≤ 2 ^ 64 - 4096) :
    ((Block.mk (pageUp base) (addedPages base (4096 * (pages % 2 ^ 20)))).Valid ∧
        addedPages base (4096 * (pages % 2 ^ 20)) = wholePageCount base (4096 * pages)) ↔
      pages < 2 ^ 20 ∧ 0 < wholePageCount base (4096 * pages) := by
  have hoffset : usub (pageUp base) base = pageUp base - base :=
    usub_eq (by unfold pageUp; omega) (by unfold pageUp; omega)
  unfold addedPages truncateToPages
  rw [hoffset]
  constructor
  · rintro ⟨⟨-, hpos, htop⟩, hcount⟩
    simp only [Block.top] at hpos htop
    unfold usub pageUp wholePageCount at *
    omega
  · rintro ⟨hpages, hcount⟩
    rw [Nat.mod_eq_of_lt hpages]
    unfold wholePageCount at *
    have hsize : usub (4096 * pages) (pageUp base - base) = 4096 * pages - (pageUp base - base) :=
      usub_eq (by unfold pageUp; omega) (by omega)
    rw [hsize]
    unfold pageUp
    refine ⟨⟨?_, ?_, ?_⟩, ?_⟩
    · simp only
      omega
    · simp only
      omega
    · simp only [Block.top]
      omega
    · omega

section Constructor

variable {g : Globals} {m : Mem} {manifest : FdtNode} {base : BitVec 64} {pages : BitVec 32}

/-- `MmAddMemoryRegion` on an empty list. -/
theorem mmAddMemoryRegion_nil (lib : BaseLib) (h : IsList m g.mMmMemoryMap []) {base size : ℕ}
    {attributes : BitVec 64} (hattributes : attributes &&& excludedAttributes = 0)
    (hbase : base + 4095 < 2 ^ 64)
    (hoff : Disjoint (Set.Ico (pageUp base) (pageUp base + 24)) g.bytes) :
    ∃ m', mmAddMemoryRegion lib g m base size attributes = .ok m' ∧
      Linked g m' [⟨pageUp base, addedPages base size⟩] := by
  have haligned : uadd base 4095 / 4096 * 4096 = pageUp base := by
    rw [uadd_eq hbase]
    rfl
  have hfresh : Fresh g ⟨pageUp base, addedPages base size⟩ [] := by
    refine ⟨?_, ?_, ?_, hoff, fun b hb => absurd hb List.not_mem_nil⟩
    · simp only [pageUp]
      omega
    · simp only [addedPages, truncateToPages, usub]
      omega
    · simp only [pageUp]
      omega
  obtain ⟨m', hcode, hlinked⟩ := mmInternalFreePages_nil lib h hfresh
  have hpages : truncateToPages (usub size (usub (pageUp base) base)) = addedPages base size := rfl
  refine ⟨m', ?_, hlinked⟩
  rw [mmAddMemoryRegion_frees lib hattributes haligned, hpages, hcode]
  rfl

/-- The constructor reads the region `base`, `pages` from the manifest. -/
def ReadsHeap (manifest : FdtNode) (base : BitVec 64) (pages : BitVec 32) : Prop :=
  ∃ node region, findHeap manifest = (.success, some (node, region)) ∧ HasRegion node base pages

/-- The region read is passed on with the size it has in 32 bits. -/
theorem ReadsHeap.findHeap_eq (h : ReadsHeap manifest base pages) :
    ∃ node, findHeap manifest = (.success, some (node, base, (pages * 4096).setWidth 64)) := by
  obtain ⟨node, region, hfind, hregion⟩ := h
  obtain ⟨-, pages', hregion', hsize⟩ :=
    readRegionInfo_eq_some_iff.1 (readRegionInfo_of_findHeap hfind)
  obtain ⟨hbase, rfl⟩ := hregion.unique hregion'
  refine ⟨node, ?_⟩
  rw [hfind, hbase, ← hsize]

/-- The constructor on an empty allocator, where the region it adds is excluded by what the stack
held: nothing is free. -/
theorem constructor_excluded (lib : BaseLib) (hempty : IsList m g.mMmMemoryMap [])
    (hread : ReadsHeap manifest base pages) (hlow : 2 ^ 20 ≤ base.toNat) {regionState : BitVec 64}
    (hstate : regionState &&& excludedAttributes ≠ 0) :
    ∃ m', memoryAllocationLibConstructor lib g m regionState manifest = .ok (.success, m') ∧
      IsList m' g.mMmMemoryMap [] := by
  obtain ⟨node, hfind⟩ := hread.findHeap_eq
  refine ⟨_, ?_, isList_initializePoolLists lib hempty⟩
  unfold memoryAllocationLibConstructor mmInitializeMemoryServices addMmramRanges mmAddMemoryRegion
  rw [hfind]
  dsimp only
  rw [if_neg (by omega), if_pos hstate]
  rfl

/-- And where it is not: there is one block, of the pages `MmAddMemoryRegion` comes to. -/
theorem constructor_added (lib : BaseLib) (hempty : IsList m g.mMmMemoryMap [])
    (hread : ReadsHeap manifest base pages) (hlow : 2 ^ 20 ≤ base.toNat)
    (hbound : base.toNat + 4095 < 2 ^ 64)
    (hoff : Disjoint (Set.Ico (pageUp base.toNat) (pageUp base.toNat + 24)) g.bytes)
    {regionState : BitVec 64} (hstate : regionState &&& excludedAttributes = 0) :
    ∃ m', memoryAllocationLibConstructor lib g m regionState manifest = .ok (.success, m') ∧
      Linked g m' [⟨pageUp base.toNat,
        addedPages base.toNat (4096 * (pages.toNat % 2 ^ 20))⟩] := by
  obtain ⟨node, hfind⟩ := hread.findHeap_eq
  obtain ⟨m', hcode, hlinked⟩ := @mmAddMemoryRegion_nil g _ lib
    (isList_initializePoolLists lib hempty) _ (4096 * (pages.toNat % 2 ^ 20)) _ hstate hbound hoff
  refine ⟨m', ?_, hlinked⟩
  unfold memoryAllocationLibConstructor mmInitializeMemoryServices addMmramRanges
  rw [hfind]
  dsimp only
  rw [if_neg (by omega), size_toNat, hcode]
  rfl

/-- **The free pages are those of the heap, exactly when** the stack excludes nothing, the size
fits in 32 bits and there is a whole page, or the stack excludes the region and there is none. -/
theorem constructor_freePages_iff (lib : BaseLib) (g : Globals) (m : Mem)
    (hempty : IsList m g.mMmMemoryMap []) (manifest : FdtNode) (base : BitVec 64)
    (pages : BitVec 32) (hread : ReadsHeap manifest base pages) (hlow : 2 ^ 20 ≤ base.toNat)
    (hbound : base.toNat + 4096 * pages.toNat ≤ 2 ^ 64 - 4096)
    (hheap : Disjoint (Set.Ico base.toNat (base.toNat + 4096 * pages.toNat)) g.bytes)
    (hheader : Disjoint (Set.Ico (pageUp base.toNat) (pageUp base.toNat + 24)) g.bytes)
    (regionState : BitVec 64) :
    (∃ m', memoryAllocationLibConstructor lib g m regionState manifest = .ok (.success, m') ∧
        FreePagesAre g m' (wholePages base.toNat (4096 * pages.toNat))) ↔
      (regionState &&& excludedAttributes = 0 ∧ pages.toNat < 2 ^ 20 ∧
          0 < wholePageCount base.toNat (4096 * pages.toNat)) ∨
        (regionState &&& excludedAttributes ≠ 0 ∧
          wholePageCount base.toNat (4096 * pages.toNat) = 0) := by
  by_cases hstate : regionState &&& excludedAttributes = 0
  · obtain ⟨m', hcode, hlinked⟩ := constructor_added lib hempty hread hlow (by omega) hheader hstate
    have hcount := addedPages_iff hlow hbound
    rw [hcode]
    constructor
    · rintro ⟨_, hm, hfree⟩
      obtain rfl := (Prod.ext_iff.1 (Except.ok.inj hm)).2
      obtain ⟨hvalid, -, haddrs⟩ := (freePagesAre_singleton_iff hlinked).1 hfree
      rw [wholePages_eq] at haddrs
      exact .inl ⟨hstate, hcount.1 ⟨hvalid, pages_eq_of_addrs hvalid.pos haddrs⟩⟩
    · rintro (⟨-, hright⟩ | ⟨hexcluded, -⟩)
      · obtain ⟨hvalid, hpages⟩ := hcount.2 hright
        rw [hpages] at hvalid hlinked
        refine ⟨m', rfl, (freePagesAre_singleton_iff hlinked).2 ⟨hvalid, ?_, ?_⟩⟩
        · rw [← wholePages_eq]
          exact hheap.mono_left (wholePages_subset _ _)
        · exact (wholePages_eq _ _).symm
      · exact absurd hstate hexcluded
  · obtain ⟨m', hcode, hnil⟩ := constructor_excluded lib hempty hread hlow hstate
    rw [hcode]
    constructor
    · rintro ⟨_, hm, hfree⟩
      obtain rfl := (Prod.ext_iff.1 (Except.ok.inj hm)).2
      have hnone := (freePagesAre_nil_iff hnil).1 hfree
      exact .inr ⟨hstate, (wholePages_eq_empty_iff _ _).1 hnone⟩
    · rintro (⟨hincluded, -⟩ | ⟨-, hnone⟩)
      · exact absurd hincluded hstate
      · exact ⟨m', rfl, (freePagesAre_nil_iff hnil).2 ((wholePages_eq_empty_iff _ _).2 hnone)⟩

end Constructor

/-- A heap of `pages` pages at 0x80000000. -/
def heapOf (pages : List (BitVec 8)) : FdtNode :=
  regionNode (stringBytes "heap" ++ [0]) [0, 0, 0, 0, 0x80, 0, 0, 0] pages

/-- Sixteen pages become free. -/
theorem constructor_freePages_sixteen :
    ∃ m', memoryAllocationLibConstructor .standard lowGlobals bootMem 0
        (manifestOf [heapOf [0, 0, 0, 16]]) = .ok (.success, m') ∧
      FreePagesAre lowGlobals m' (wholePages (0x80000000 : BitVec 64).toNat
        (4096 * (16 : BitVec 32).toNat)) := by
  have hoff : ∀ size, Disjoint (Set.Ico (0x80000000 : BitVec 64).toNat
      ((0x80000000 : BitVec 64).toNat + size)) lowGlobals.bytes := fun size =>
    lowGlobals_disjoint fun a ha => le_trans (by decide) ha.1
  exact (constructor_freePages_iff .standard lowGlobals bootMem bootMem_isList
    (manifestOf [heapOf [0, 0, 0, 16]]) 0x80000000 16 ⟨_, _, rfl, rfl, rfl⟩ (by decide) (by decide)
    (hoff _) (hoff 24) 0).2 (.inl ⟨by decide, by decide, by decide⟩)

/-- **Three heaps the allocator does not get**: one whose `RegionState` on the stack reads
`EFI_ALLOCATED`, one of 4 GB, and one of no pages. -/
theorem constructor_freePages_fails :
    (∀ m', memoryAllocationLibConstructor .standard lowGlobals bootMem 0x10
        (manifestOf [heapOf [0, 0, 0, 16]]) = .ok (.success, m') →
      ¬ FreePagesAre lowGlobals m' (wholePages 0x80000000 (4096 * 16))) ∧
    (∀ m', memoryAllocationLibConstructor .standard lowGlobals bootMem 0
        (manifestOf [heapOf [0, 0x10, 0, 0]]) = .ok (.success, m') →
      ¬ FreePagesAre lowGlobals m' (wholePages 0x80000000 (4096 * 0x100000))) ∧
    ∀ m', memoryAllocationLibConstructor .standard lowGlobals bootMem 0
        (manifestOf [heapOf [0, 0, 0, 0]]) = .ok (.success, m') →
      ¬ FreePagesAre lowGlobals m' (wholePages 0x80000000 0) := by
  have hoff : Disjoint (Set.Ico (pageUp (0x80000000 : BitVec 64).toNat)
      (pageUp (0x80000000 : BitVec 64).toNat + 24)) lowGlobals.bytes :=
    lowGlobals_disjoint fun a ha => le_trans (by decide) ha.1
  -- In both of the last two the block put on the list has no pages.
  have hempty : ∀ {pages : BitVec 32} {manifest : FdtNode} {S : Set ℕ} (m' : Mem),
      ReadsHeap manifest 0x80000000 pages → pages.toNat % 2 ^ 20 = 0 →
      memoryAllocationLibConstructor .standard lowGlobals bootMem 0 manifest =
        .ok (.success, m') → ¬ FreePagesAre lowGlobals m' S := by
    intro pages manifest S m' hread hzero hm hfree
    obtain ⟨m'', hcode, hlinked⟩ := @constructor_added lowGlobals bootMem manifest 0x80000000
      pages .standard bootMem_isList hread (by decide) (by decide) hoff 0 (by decide)
    obtain rfl := (Prod.ext_iff.1 (Except.ok.inj (hm.symm.trans hcode))).2
    have hpos := ((freePagesAre_singleton_iff hlinked).1 hfree).1.pos
    rw [hzero] at hpos
    exact absurd hpos (by decide)
  refine ⟨fun m' hm hfree => ?_, fun m' hm => ?_, fun m' hm => ?_⟩
  · obtain ⟨m'', hcode, hnil⟩ := @constructor_excluded lowGlobals bootMem
      (manifestOf [heapOf [0, 0, 0, 16]]) 0x80000000 16 .standard bootMem_isList
      ⟨_, _, rfl, rfl, rfl⟩ (by decide) 0x10 (by decide)
    obtain rfl := (Prod.ext_iff.1 (Except.ok.inj (hm.symm.trans hcode))).2
    have hnone := (freePagesAre_nil_iff hnil).1 hfree
    rw [wholePages_eq_empty_iff] at hnone
    exact absurd hnone (by decide)
  · exact @hempty 0x100000 _ _ m' ⟨_, _, rfl, rfl, rfl⟩ (by decide) hm
  · exact @hempty 0 _ _ m' ⟨_, _, rfl, rfl, rfl⟩ (by decide) hm

end Allocation
end FfaFeature
