/-
# How memory changes hands

`Moves g arena m L m' L'` is what the allocator may do between two layouts: the clients
keep what they have, no byte outside the allocator's own changes, and the invariant
holds again.  The steps the functions of the two allocators consist of are one lemma
each: `takePages` and `givePages` between the free pages and `transit`, `pop` and `push`
between a list of available blocks and `transit`, `split` and `write` within `transit`.

A block of `transit` is handed to a client with `toBuffer` or `toPages`, and taken back
with `fromBuffer` or `fromPages`; these change no memory.
-/

import FfaFeature.Allocation.Layout
import FfaFeature.Allocation.PageAlloc

namespace FfaFeature
namespace Allocation

open LinkedList

/-- **What the allocator may do**. -/
structure Moves (g : Globals) (arena : Set ℕ) (m : Mem) (L : Layout) (m' : Mem)
    (L' : Layout) : Prop where
  inv : PoolInv g arena m' L'
  pages : L'.pages = L.pages
  buffers : L'.buffers = L.buffers
  frame : Set.EqOn m' m (L.own g arena)ᶜ

section Moves

variable {g : Globals} {arena : Set ℕ} {m m' m'' : Mem} {L L' L'' : Layout}

/-- Two moves, one after the other. -/
theorem Moves.trans (h : Moves g arena m L m' L') (h' : Moves g arena m' L' m'' L'') :
    Moves g arena m L m'' L'' := by
  have hown : L'.own g arena = L.own g arena := by
    unfold Layout.own Layout.held
    rw [h.pages, h.buffers]
  refine ⟨h'.inv, h'.pages.trans h.pages, h'.buffers.trans h.buffers, ?_⟩
  have hframe := h'.frame
  rw [hown] at hframe
  exact hframe.trans h.frame

/-- The same parts, under other owners. -/
theorem PoolInv.relabel (h : PoolInv g arena m L) (hperm : L'.extents.Perm L.extents) :
    Separate L'.extents ∧ extentAddrs L'.extents = arena :=
  ⟨h.separate.perm hperm.symm, (extentAddrs_perm hperm).trans h.cover⟩

/-! ### Within `transit` -/

/-- What is in transit may be written. -/
theorem PoolInv.write (h : PoolInv g arena m L)
    (heq : Set.EqOn m' m (extentAddrs L.transit)ᶜ) : Moves g arena m L m' L := by
  refine ⟨?_, rfl, rfl, Mem.eqOn_mono heq (Set.subset_union_left.trans h.own_subset)⟩
  exact { h with
    freeList := h.freeList.of_eqOn heq h.listArea_transit
    lists := h.lists.of_eqOn heq h.poolBytes_transit
    buffers := liveBlocks_of_eqOn h.buffers heq h.apart.transit_buffers.symm }

/-- The two halves of a block. -/
theorem halves_addrs (index hdr : ℕ) :
    extentAddrs [poolBlock index hdr, poolBlock index (hdr + classSize index)] =
      extentAddrs [poolBlock (index + 1) hdr] := by
  have hsize := classSize_succ index
  ext a
  simp only [extentAddrs_cons, extentAddrs_nil, Set.union_empty, Set.mem_union, Extent.addrs,
    Set.mem_Ico, poolBlock_base, poolBlock_top]
  omega

/-- The halves of a block are separate. -/
theorem halves_separate (index hdr : ℕ) :
    Separate [poolBlock index hdr, poolBlock index (hdr + classSize index)] := by
  refine List.pairwise_pair.2 (Set.disjoint_left.2 fun a ha hb => ?_)
  have h₁ := ha.2
  have h₂ := hb.1
  rw [poolBlock_top] at h₁
  rw [poolBlock_base] at h₂
  omega

/-- **A block is split in two.** -/
theorem PoolInv.split {t : List Extent} {index hdr : ℕ} (h : PoolInv g arena m L)
    (ht : L.transit = poolBlock (index + 1) hdr :: t) :
    Moves g arena m L m { L with
      transit := poolBlock index hdr :: poolBlock index (hdr + classSize index) :: t } := by
  have hold : L.extents.Perm ([poolBlock (index + 1) hdr] ++ (t ++ (L.blocks.map Block.extent ++
      (L.pages.map Block.extent ++ (poolBlocks L.lists ++ L.buffers))))) := by
    unfold Layout.extents
    rw [ht]
    exact List.Perm.refl _
  obtain ⟨hsep, hcover⟩ := @PoolInv.rearrange g arena m L { L with
    transit := poolBlock index hdr :: poolBlock index (hdr + classSize index) :: t } h
    [poolBlock (index + 1) hdr] [poolBlock index hdr, poolBlock index (hdr + classSize index)] _
    hold (List.Perm.refl _) (halves_separate index hdr) (halves_addrs index hdr)
  exact ⟨{ h with separate := hsep, cover := hcover }, rfl, rfl, fun _ _ => rfl⟩

/-! ### Pages -/

/-- **Pages are taken out of the free pages.** -/
theorem PoolInv.takePages {l' : List Block} {b : Block} (h : PoolInv g arena m L)
    (hlist : FreeList g m' l') (htaken : Taken L.blocks l' b)
    (heq : Set.EqOn m' m (listArea g L.blocks)ᶜ) :
    Moves g arena m L m' { L with transit := b.extent :: L.transit, blocks := l' } := by
  have hsepNew : Separate (b.extent :: l'.map Block.extent) := by
    refine separate_cons.2 ⟨?_, hlist.ascending.separate⟩
    rw [extentAddrs_blocks]
    exact htaken.disjoint.symm
  have haddrs : extentAddrs (b.extent :: l'.map Block.extent) =
      extentAddrs (L.blocks.map Block.extent) := by
    rw [extentAddrs_cons, extentAddrs_blocks, extentAddrs_blocks, ← htaken.addrs, Set.union_comm]
    rfl
  have hnew : (Layout.extents { L with transit := b.extent :: L.transit, blocks := l' }).Perm
      ((b.extent :: l'.map Block.extent) ++
        (L.transit ++ (L.pages.map Block.extent ++ (poolBlocks L.lists ++ L.buffers)))) :=
    (List.perm_append_comm_assoc L.transit (l'.map Block.extent) _).cons b.extent
  obtain ⟨hsep, hcover⟩ := h.rearrange (List.perm_append_comm_assoc _ _ _) hnew hsepNew haddrs
  refine ⟨?_, rfl, rfl, Mem.eqOn_mono heq ?_⟩
  · exact { h with
      separate := hsep
      cover := hcover
      freeList := hlist
      coalesced := htaken.coalesced h.coalesced
      lists := h.lists.of_eqOn heq h.listArea_poolBytes.symm
      buffers := liveBlocks_of_eqOn h.buffers heq h.listArea_buffers }
  · exact (Set.subset_union_left.trans Set.subset_union_right).trans h.own_subset

/-- **Pages go back to the free pages.** -/
theorem PoolInv.givePages (lib : BaseLib) {t : List Extent} {b : Block}
    (h : PoolInv g arena m L) (ht : L.transit = b.extent :: t) (hb : b.Valid) :
    ∃ m' l', mmInternalFreePages lib g m b.base b.pages = .ok (.success, m') ∧
      Moves g arena m L m' { L with transit := t, blocks := l' } := by
  have htransit : extentAddrs L.transit = b.addrs ∪ extentAddrs t := by
    rw [ht, extentAddrs_cons]
    rfl
  have hsub : b.addrs ⊆ extentAddrs L.transit := htransit ▸ Set.subset_union_left
  obtain ⟨m', l', hcode, hlist, hunion, hco, heq⟩ := mmInternalFreePages_spec lib h.freeList hb
    (h.managed.off.mono_left (hsub.trans h.parts_subset.1))
    (h.apart.transit_blocks.symm.mono_right hsub)
  have harea : listArea g (b :: L.blocks) ⊆ listArea g L.blocks ∪ extentAddrs L.transit := by
    unfold listArea
    rw [blockAddrs_cons]
    rintro a (ha | ha | ha)
    · exact .inl (.inl ha)
    · exact .inr (hsub ha)
    · exact .inl (.inr ha)
  have heq := Mem.eqOn_mono heq harea
  have hold : L.extents.Perm ((b.extent :: L.blocks.map Block.extent) ++
      (t ++ (L.pages.map Block.extent ++ (poolBlocks L.lists ++ L.buffers)))) := by
    unfold Layout.extents
    rw [ht]
    exact (List.perm_append_comm_assoc _ _ _).cons _
  have haddrs : extentAddrs (l'.map Block.extent) =
      extentAddrs (b.extent :: L.blocks.map Block.extent) := by
    rw [extentAddrs_cons, extentAddrs_blocks, extentAddrs_blocks, hunion, Set.union_comm]
    rfl
  obtain ⟨hsep, hcover⟩ := @PoolInv.rearrange g arena m L { L with transit := t, blocks := l' } h
    _ _ _ hold (List.perm_append_comm_assoc _ _ _) hlist.ascending.separate haddrs
  refine ⟨m', l', hcode, ?_, rfl, rfl, Mem.eqOn_mono heq ?_⟩
  · exact { h with
      separate := hsep
      cover := hcover
      freeList := hlist
      coalesced := hco h.coalesced
      lists := h.lists.of_eqOn heq
        (Set.disjoint_union_right.2 ⟨h.listArea_poolBytes.symm, h.poolBytes_transit⟩)
      buffers := liveBlocks_of_eqOn h.buffers heq
        (Set.disjoint_union_right.2 ⟨h.listArea_buffers, h.apart.transit_buffers.symm⟩) }
  · have hown := h.own_subset
    simp only [Set.union_subset_iff] at hown
    exact Set.union_subset hown.2.1 hown.1

/-! ### Available blocks -/

/-- **An available block leaves its list.** -/
theorem PoolInv.pop (lib : BaseLib) {index hdr : ℕ} {l : List ℕ} (h : PoolInv g arena m L)
    (hindex : index < maxPoolIndex) (hl : L.lists index = hdr :: l) :
    Moves g arena m L (lib.removeEntryList m (hdr + poolHeaderSize)) { L with
      transit := poolBlock index hdr :: L.transit
      lists := Function.update L.lists index l } := by
  obtain ⟨hlists, heq⟩ := h.lists.pop lib (Layout.separate_lists h.separate) h.lists_off hindex hl
  have hblocks := poolBlocks_perm hindex hl
  have hperm : (Layout.extents { L with
      transit := poolBlock index hdr :: L.transit
      lists := Function.update L.lists index l }).Perm L.extents := by
    refine List.perm_iff_count.2 fun e => ?_
    have hcount := hblocks.count_eq e
    simp only [Layout.extents, List.count_append, List.count_cons] at hcount ⊢
    omega
  obtain ⟨hsep, hcover⟩ := h.relabel hperm
  refine ⟨?_, rfl, rfl, Mem.eqOn_mono heq ?_⟩
  · exact { h with
      separate := hsep
      cover := hcover
      freeList := h.freeList.of_eqOn heq h.listArea_poolBytes
      lists := hlists
      buffers := liveBlocks_of_eqOn h.buffers heq h.poolBytes_buffers }
  · exact (Set.subset_union_right.trans Set.subset_union_right).trans h.own_subset

/-- **A block becomes available**, once its header says so. -/
theorem PoolInv.push (lib : BaseLib) {index hdr : ℕ} {t : List Extent}
    (h : PoolInv g arena m L) (ht : L.transit = poolBlock index hdr :: t)
    (hindex : index < maxPoolIndex) (hheader : HeaderAt m hdr (classSize index) true)
    (haligned : hdr % classSize index = 0) :
    Moves g arena m L (lib.insertHeadList m (poolList g index) (hdr + poolHeaderSize)) { L with
      transit := t
      lists := Function.update L.lists index (hdr :: L.lists index) } := by
  have hblocks : (poolBlocks (Function.update L.lists index (hdr :: L.lists index))).Perm
      (poolBlock index hdr :: poolBlocks L.lists) := by
    have hperm := poolBlocks_perm hindex
      (Function.update_self index (hdr :: L.lists index) L.lists)
    rwa [Function.update_idem, Function.update_eq_self] at hperm
  have hperm : (Layout.extents { L with
      transit := t
      lists := Function.update L.lists index (hdr :: L.lists index) }).Perm L.extents := by
    refine List.perm_iff_count.2 fun e => ?_
    have hcount := hblocks.count_eq e
    simp only [Layout.extents, ht, List.count_append, List.count_cons] at hcount ⊢
    omega
  obtain ⟨hsep, hcover⟩ := h.relabel hperm
  have hmem : poolBlock index hdr ∈ L.extents := by
    unfold Layout.extents
    rw [ht]
    exact List.mem_append_left _ List.mem_cons_self
  have hsub : extentAddrs (poolBlocks (Function.update L.lists index (hdr :: L.lists index))) ⊆
      extentAddrs (poolBlocks L.lists) ∪ extentAddrs L.transit := by
    rw [extentAddrs_perm hblocks, extentAddrs_cons, ht, extentAddrs_cons]
    rintro a (ha | ha)
    · exact .inr (.inl ha)
    · exact .inl ha
  have hoff : Disjoint
      (extentAddrs (poolBlocks (Function.update L.lists index (hdr :: L.lists index)))) g.bytes :=
    Disjoint.mono_left hsub (Set.disjoint_union_left.2
      ⟨h.lists_off, h.managed.off.mono_left h.parts_subset.1⟩)
  have hsize := classSize_ge index
  have hsize_eq : (poolBlock index hdr).size = classSize index := rfl
  have hbound := (h.bounds hmem (by omega)).2
  obtain ⟨hlists, heq⟩ := h.lists.push lib (Layout.separate_lists hsep) hoff hindex hheader
    haligned hbound.le
  have hbytes : poolBytes g (Function.update L.lists index (hdr :: L.lists index)) ⊆
      poolBytes g L.lists ∪ extentAddrs L.transit := by
    unfold poolBytes
    rw [Set.union_assoc]
    exact Set.union_subset_union_right _ hsub
  have heq := Mem.eqOn_mono heq hbytes
  refine ⟨?_, rfl, rfl, Mem.eqOn_mono heq ?_⟩
  · exact { h with
      separate := hsep
      cover := hcover
      freeList := h.freeList.of_eqOn heq
        (Set.disjoint_union_right.2 ⟨h.listArea_poolBytes, h.listArea_transit⟩)
      lists := hlists
      buffers := liveBlocks_of_eqOn h.buffers heq
        (Set.disjoint_union_right.2 ⟨h.poolBytes_buffers, h.apart.transit_buffers.symm⟩) }
  · have hown := h.own_subset
    simp only [Set.union_subset_iff] at hown
    exact Set.union_subset hown.2.2 hown.1

end Moves

/-! ### To the clients and back -/

section Clients

variable {g : Globals} {arena : Set ℕ} {m : Mem} {L : Layout} {t : List Extent}

/-- A block becomes a buffer. -/
theorem PoolInv.toBuffer {e : Extent} (h : PoolInv g arena m L) (ht : L.transit = e :: t)
    (he : LiveBlock m e) :
    PoolInv g arena m { L with transit := t, buffers := e :: L.buffers } := by
  have hperm : (Layout.extents { L with transit := t, buffers := e :: L.buffers }).Perm
      L.extents := by
    refine List.perm_iff_count.2 fun x => ?_
    simp only [Layout.extents, ht, List.count_append, List.count_cons]
    omega
  obtain ⟨hsep, hcover⟩ := h.relabel hperm
  exact { h with
    separate := hsep, cover := hcover, buffers := List.forall_mem_cons.2 ⟨he, h.buffers⟩ }

/-- A buffer is taken back. -/
theorem PoolInv.fromBuffer {e : Extent} (h : PoolInv g arena m L) (he : e ∈ L.buffers) :
    PoolInv g arena m { L with transit := e :: L.transit, buffers := L.buffers.erase e } := by
  have hperm : (Layout.extents
      { L with transit := e :: L.transit, buffers := L.buffers.erase e }).Perm L.extents := by
    refine List.perm_iff_count.2 fun x => ?_
    have hcount := (List.perm_cons_erase he).count_eq x
    simp only [Layout.extents, List.count_append, List.count_cons] at hcount ⊢
    omega
  obtain ⟨hsep, hcover⟩ := h.relabel hperm
  exact { h with
    separate := hsep, cover := hcover,
    buffers := fun x hx => h.buffers x (List.mem_of_mem_erase hx) }

/-- Pages become a client's. -/
theorem PoolInv.toPages {b : Block} (h : PoolInv g arena m L) (ht : L.transit = b.extent :: t)
    (hb : b.Valid) : PoolInv g arena m { L with transit := t, pages := b :: L.pages } := by
  have hperm : (Layout.extents { L with transit := t, pages := b :: L.pages }).Perm
      L.extents := by
    refine List.perm_iff_count.2 fun x => ?_
    simp only [Layout.extents, ht, List.map_cons, List.count_append, List.count_cons]
    omega
  obtain ⟨hsep, hcover⟩ := h.relabel hperm
  exact { h with
    separate := hsep, cover := hcover, pages := List.forall_mem_cons.2 ⟨hb, h.pages⟩ }

/-- Pages are taken back. -/
theorem PoolInv.fromPages {b : Block} (h : PoolInv g arena m L) (hb : b ∈ L.pages) :
    PoolInv g arena m { L with transit := b.extent :: L.transit, pages := L.pages.erase b } := by
  have hperm : (Layout.extents
      { L with transit := b.extent :: L.transit, pages := L.pages.erase b }).Perm L.extents := by
    refine List.perm_iff_count.2 fun x => ?_
    have hcount := ((List.perm_cons_erase hb).map Block.extent).count_eq x
    simp only [Layout.extents, List.map_cons, List.count_append, List.count_cons] at hcount ⊢
    omega
  obtain ⟨hsep, hcover⟩ := h.relabel hperm
  exact { h with
    separate := hsep, cover := hcover, pages := fun x hx => h.pages x (List.mem_of_mem_erase hx) }

end Clients

end Allocation
end FfaFeature
