/-
# What the allocators start with

`MmInitializeMemoryServices` initialises the six lists of available blocks and gives the
regions of memory to the page allocator.  With free pages on its list and no available
block yet (`freeLayout`), the memory is in order (`poolInv_freeLayout`).
-/

import FfaFeature.Allocation.PageRuns
import FfaFeature.Allocation.Layout

namespace FfaFeature
namespace Allocation

open LinkedList

/-! ### Regions -/

/-- The addresses of a region. -/
def MmramDescriptor.addrs (range : MmramDescriptor) : Set ℕ :=
  Set.Ico range.cpuStart.toNat (range.cpuStart.toNat + range.physicalSize.toNat)

/-- A region of pages from 1 MB on, below the end of the address space and off the
globals. -/
structure MmramDescriptor.Valid (g : Globals) (range : MmramDescriptor) : Prop where
  start_aligned : range.cpuStart.toNat % 4096 = 0
  size_aligned : range.physicalSize.toNat % 4096 = 0
  size_pos : 4096 ≤ range.physicalSize.toNat
  low : 2 ^ 20 ≤ range.cpuStart.toNat
  bound : range.cpuStart.toNat + range.physicalSize.toNat < 2 ^ 64
  off : Disjoint range.addrs g.bytes

/-- The regions the allocator starts with: they do not overlap. -/
structure RangesValid (g : Globals) (mmramRanges : List MmramDescriptor) : Prop where
  valid : ∀ range ∈ mmramRanges, range.Valid g
  disjoint : mmramRanges.Pairwise fun range range' => Disjoint range.addrs range'.addrs

/-- The addresses of the regions that are added. -/
def usableAddrs (mmramRanges : List MmramDescriptor) : Set ℕ :=
  { a | ∃ range ∈ mmramRanges, range.regionState &&& excludedAttributes = 0 ∧ a ∈ range.addrs }

section Initialize

variable {g : Globals} {m m' : Mem} {l : List Block}

/-- The lists are initialised from the last to the first. -/
theorem initializePoolLists_spec (lib : BaseLib) {count : ℕ} (hcount : count ≤ maxPoolIndex)
    (hdone : ∀ index < maxPoolIndex, count ≤ index → IsList m (poolList g index) []) :
    (∀ index < maxPoolIndex, IsList (initializePoolLists lib g m count) (poolList g index) []) ∧
      Set.EqOn (initializePoolLists lib g m count) m
        (Set.Ico g.mMmPoolLists (g.mMmPoolLists + 6 * 16))ᶜ := by
  induction count generalizing m with
  | zero => exact ⟨fun index hindex => hdone index hindex (Nat.zero_le index), fun _ _ => rfl⟩
  | succ count ih =>
    have hmax : maxPoolIndex = 6 := rfl
    have hbound := g.poolLists_bound
    have hhead : poolList g count + 16 ≤ 2 ^ 64 := by
      unfold poolList
      omega
    have heq := lib.initializeListHead_eqOn m (poolList g count)
    obtain ⟨hlists, heq'⟩ := @ih (lib.initializeListHead m (poolList g count)) (by omega)
      fun index hindex hle => by
        rcases eq_or_ne index count with rfl | hne
        · exact lib.initializeListHead_isList hhead
        · refine (hdone index hindex (by omega)).of_eqOn heq fun x hx => ?_
          rw [List.mem_singleton.1 hx]
          refine disjoint_of_apart ?_
          unfold LinkedList.Apart poolList
          omega
    refine ⟨hlists, heq'.trans (Mem.eqOn_mono heq fun a ha => ?_)⟩
    have h₁ := ha.1
    have h₂ := ha.2
    unfold poolList at h₁ h₂
    exact ⟨by omega, by omega⟩

/-- An empty list of free pages stays one when the other lists are initialised. -/
theorem isList_initializePoolLists (lib : BaseLib) (hempty : IsList m g.mMmMemoryMap []) :
    IsList (initializePoolLists lib g m maxPoolIndex) g.mMmMemoryMap [] := by
  obtain ⟨-, heq⟩ := @initializePoolLists_spec g m lib maxPoolIndex le_rfl
    fun index hindex hle => absurd hle (not_le.2 hindex)
  have hglobals := g.heads_disjoint
  exact hempty.of_eqOn heq fun x hx => by rwa [List.mem_singleton.1 hx]

/-- The layout before any allocation. -/
def freeLayout (l : List Block) : Layout := ⟨[], l, [], fun _ => [], []⟩

/-- The extents of a heap of which nothing is taken. -/
theorem freeLayout_extents (l : List Block) : (freeLayout l).extents = l.map Block.extent := by
  have hnoblocks : poolBlocks (fun _ => []) = [] := by simp [poolBlocks]
  unfold Layout.extents freeLayout
  rw [hnoblocks]
  simp

/-- Free pages, and no available block, are a layout in order. -/
theorem poolInv_freeLayout {arena : Set ℕ} (hmanaged : Arena g arena) (hlist : FreeList g m l)
    (hco : Coalesced l) (haddrs : blockAddrs l = arena)
    (hlists : ∀ index < maxPoolIndex, IsList m (poolList g index) []) :
    PoolInv g arena m (freeLayout l) := by
  have hnone : ∀ {α : Type} {P : α → Prop}, ∀ x ∈ ([] : List α), P x := fun x hx =>
    absurd hx List.not_mem_nil
  refine ⟨hmanaged, ?_, ?_, hlist, hco, fun index hindex => ⟨?_, hnone, hnone⟩, hnone, hnone⟩
  · rw [freeLayout_extents]
    exact hlist.ascending.separate
  · rw [freeLayout_extents, extentAddrs_blocks, haddrs]
  · exact hlists index hindex

/-- The lists of available blocks are initialised, and then pages become free. -/
theorem initialized_lists (lib : BaseLib) {arena : Set ℕ} (hmanaged : Arena g arena)
    (haddrs : blockAddrs l = arena)
    (heq : Set.EqOn m' (initializePoolLists lib g m maxPoolIndex) (listArea g l)ᶜ) :
    ∀ index < maxPoolIndex, IsList m' (poolList g index) [] := by
  obtain ⟨hlists, -⟩ := @initializePoolLists_spec g m lib maxPoolIndex le_rfl
    fun index hindex hle => absurd hle (not_le.2 hindex)
  intro index hindex
  refine (hlists index hindex).of_eqOn heq fun x hx => ?_
  rw [List.mem_singleton.1 hx]
  refine Set.disjoint_union_right.2 ⟨(g.heads_disjoint.mono_right ?_).symm, ?_⟩
  · exact poolList_subset_heads g hindex
  · rw [haddrs]
    exact (hmanaged.off.mono_right (poolList_subset g hindex)).symm

end Initialize

end Allocation
end FfaFeature
