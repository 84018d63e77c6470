/-
# The regions a run starts with

`MmInitializeMemoryServices` for regions as a manifest describes them: their bounds need not be
page boundaries, and those below 1 MB and those in an excluded state are not added.  As long as
each region that is added holds a whole page, and no two share one, the whole pages of these
regions become free, and the allocators start in order
(`mmInitializeMemoryServices_whole`).
-/

import FfaFeature.Allocation.FreeRequests
import Mathlib.Order.CompletePartialOrder

namespace FfaFeature
namespace Allocation

open LinkedList

/-- `MmInitializeMemoryServices` adds the region. -/
def MmramDescriptor.IsAdded (range : MmramDescriptor) : Prop :=
  2 ^ 20 ≤ range.cpuStart.toNat ∧ range.regionState &&& excludedAttributes = 0

/-- The whole pages of a region that is added. -/
def MmramDescriptor.added (range : MmramDescriptor) : Set ℕ :=
  {a | range.IsAdded ∧ a ∈ wholePages range.cpuStart.toNat range.physicalSize.toNat}

/-- And of all regions. -/
def addedAddrs (mmramRanges : List MmramDescriptor) : Set ℕ :=
  {a | ∃ range ∈ mmramRanges, a ∈ range.added}

/-- A region that is added ends a page before the end of the address space, holds a whole page,
and lies off the globals. -/
structure MmramDescriptor.Usable (g : Globals) (range : MmramDescriptor) : Prop where
  bound : range.cpuStart.toNat + range.physicalSize.toNat ≤ 2 ^ 64 - 4096
  whole : 0 < wholePageCount range.cpuStart.toNat range.physicalSize.toNat
  off : Disjoint range.added g.bytes

/-- The regions a run starts with. -/
structure RangesUsable (g : Globals) (mmramRanges : List MmramDescriptor) : Prop where
  usable : ∀ range ∈ mmramRanges, range.IsAdded → range.Usable g
  disjoint : mmramRanges.Pairwise fun range range' => Disjoint range.added range'.added

section Regions

variable {g : Globals} {m : Mem} {l : List Block} {range : MmramDescriptor}
  {mmramRanges : List MmramDescriptor}

/-- A range that is added gives its whole pages. -/
theorem MmramDescriptor.added_eq (h : range.IsAdded) :
    range.added = wholePages range.cpuStart.toNat range.physicalSize.toNat :=
  Set.ext fun _ => and_iff_right h

/-- Another gives none. -/
theorem MmramDescriptor.added_eq_empty (h : ¬ range.IsAdded) : range.added = ∅ :=
  Set.eq_empty_of_forall_notMem fun _ ha => h ha.1

/-- What the first range gives, and the others. -/
theorem addedAddrs_cons :
    addedAddrs (range :: mmramRanges) = range.added ∪ addedAddrs mmramRanges := by
  ext a
  simp [addedAddrs]

/-- Regions of pages are such regions. -/
theorem RangesValid.usable (h : RangesValid g mmramRanges) : RangesUsable g mmramRanges := by
  have hsub : ∀ range : MmramDescriptor, range.added ⊆ range.addrs := fun range a ha =>
    wholePages_subset _ _ ha.2
  refine ⟨fun range hrange _ => ?_, h.disjoint.imp fun hoff => hoff.mono (hsub _) (hsub _)⟩
  obtain ⟨hstart, hsize, hpos, -, hbound, hoff⟩ := h.valid range hrange
  refine ⟨by omega, ?_, hoff.mono_left (hsub range)⟩
  unfold wholePageCount
  omega

/-- **The regions become free pages**, one after the other. -/
theorem addMmramRanges_whole (lib : BaseLib) (h : FreeList g m l) (hco : Coalesced l)
    (husable : RangesUsable g mmramRanges)
    (hnew : ∀ range ∈ mmramRanges, Disjoint (blockAddrs l) range.added) :
    ∃ m' l', addMmramRanges lib g m mmramRanges = .ok m' ∧ FreeList g m' l' ∧ Coalesced l' ∧
      blockAddrs l' = blockAddrs l ∪ addedAddrs mmramRanges ∧
      Set.EqOn m' m (listArea g l')ᶜ := by
  induction mmramRanges generalizing m l with
  | nil =>
    have hnone : addedAddrs [] = ∅ := by simp [addedAddrs]
    exact ⟨m, l, rfl, h, hco, by rw [hnone, Set.union_empty], fun _ _ => rfl⟩
  | cons range mmramRanges ih =>
    obtain ⟨hrange, hranges⟩ := List.forall_mem_cons.1 husable.usable
    obtain ⟨hfirst, hrest⟩ := List.pairwise_cons.1 husable.disjoint
    obtain ⟨hnew_range, hnew_rest⟩ := List.forall_mem_cons.1 hnew
    unfold addMmramRanges
    rw [addedAddrs_cons]
    by_cases hlow : range.cpuStart.toNat < 0x100000
    · have hadded := MmramDescriptor.added_eq_empty fun h : range.IsAdded => absurd h.1 (by omega)
      rw [if_pos hlow, hadded, Set.empty_union]
      exact ih h hco ⟨hranges, hrest⟩ hnew_rest
    rw [if_neg hlow]
    by_cases hstate : range.regionState &&& excludedAttributes = 0
    · have hadded : range.IsAdded := ⟨not_lt.1 hlow, hstate⟩
      obtain ⟨hbound, hwhole, hoff⟩ := hrange hadded
      have haddrs := MmramDescriptor.added_eq hadded
      rw [haddrs] at hoff hnew_range
      obtain ⟨m₁, l₁, hcode, hlist, hunion, hco₁, heq₁⟩ :=
        mmAddMemoryRegion_whole lib h hbound hwhole hoff hnew_range hstate
      rw [← haddrs] at hunion
      obtain ⟨m', l', hcode', hlist', hco', hunion', heq'⟩ := ih hlist (hco₁ hco)
        ⟨hranges, hrest⟩ fun range' hrange' => by
          rw [hunion]
          exact Set.disjoint_union_left.2 ⟨hnew_rest range' hrange', hfirst range' hrange'⟩
      refine ⟨m', l', ?_, hlist', hco', ?_, heq'.trans (Mem.eqOn_mono heq₁ ?_)⟩
      · rw [hcode, ok_bind, hcode']
      · rw [hunion', hunion, Set.union_assoc]
      · unfold listArea
        rw [hunion']
        exact Set.union_subset_union_right _ Set.subset_union_left
    · have hadded := MmramDescriptor.added_eq_empty fun h : range.IsAdded => hstate h.2
      have hskip : mmAddMemoryRegion lib g m range.cpuStart.toNat range.physicalSize.toNat
          range.regionState = .ok m := by
        unfold mmAddMemoryRegion
        rw [if_pos hstate]
      rw [hskip, ok_bind, hadded, Set.empty_union]
      exact ih h hco ⟨hranges, hrest⟩ hnew_rest

/-- What is added may be managed. -/
theorem RangesUsable.arena (h : RangesUsable g mmramRanges) : Arena g (addedAddrs mmramRanges) := by
  refine ⟨?_, ?_, ?_⟩
  · rintro a ⟨range, -, hadded, ha⟩
    exact hadded.1.trans (wholePages_subset _ _ ha).1
  · rintro a ⟨range, hrange, hadded, ha⟩
    have hbound := (h.usable range hrange hadded).bound
    have hlt := (wholePages_subset _ _ ha).2
    omega
  · rw [Set.disjoint_left]
    rintro a ⟨range, hrange, ha⟩
    exact Set.disjoint_left.1 (h.usable range hrange ha.1).off ha

/-- **`MmInitializeMemoryServices`** leaves the whole pages of the regions free. -/
theorem mmInitializeMemoryServices_whole (lib : BaseLib) (hempty : IsList m g.mMmMemoryMap [])
    (husable : RangesUsable g mmramRanges) :
    ∃ m' l, mmInitializeMemoryServices lib g m mmramRanges = .ok m' ∧
      PoolInv g (addedAddrs mmramRanges) m' (freeLayout l) := by
  obtain ⟨m', l, hcode, hlist, hco, hunion, heq⟩ := addMmramRanges_whole lib
    (freeList_nil (isList_initializePoolLists lib hempty)) List.Pairwise.nil husable
    fun range _ => by
      rw [blockAddrs_nil]
      exact Set.empty_disjoint _
  rw [blockAddrs_nil, Set.empty_union] at hunion
  exact ⟨m', l, hcode, poolInv_freeLayout husable.arena hlist hco hunion
    (initialized_lists lib husable.arena hunion heq)⟩

/-- Of regions of pages, all that is usable. -/
theorem RangesValid.addedAddrs_eq (h : RangesValid g mmramRanges) :
    addedAddrs mmramRanges = usableAddrs mmramRanges := by
  ext a
  constructor
  · rintro ⟨range, hrange, hadded, ha⟩
    exact ⟨range, hrange, hadded.2, wholePages_subset _ _ ha⟩
  · rintro ⟨range, hrange, hstate, ha⟩
    obtain ⟨hstart, hsize, hpos, hlow, hbound, -⟩ := h.valid range hrange
    have hlo := ha.1
    have hhi := ha.2
    exact ⟨range, hrange, ⟨hlow, hstate⟩, a / 4096, by omega, by omega, by omega, by omega⟩

end Regions

end Allocation
end FfaFeature
