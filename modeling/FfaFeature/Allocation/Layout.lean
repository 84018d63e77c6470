/-
# Who owns the memory

The page allocator and the pool allocator share one memory.  A `Layout` says who has
which part of it: the free pages, the pages the clients hold, the available pool blocks
and the blocks of the live pool buffers; and `transit` is what a running call has taken
from one of them and not given to another yet.

`PoolInv g arena m L` says that the layout divides the memory `arena` among them, and
that the memory describes each part.  `Moves` is what the allocator may do between two
layouts: the clients keep what they have, and no byte of it changes.  The steps the
functions consist of are one lemma each: `takePages`, `givePages`, `pop`, `push`,
`split` and `write`.
-/

import FfaFeature.Allocation.PageFree
import FfaFeature.Allocation.PoolList

namespace FfaFeature
namespace Allocation

open LinkedList

/-- The addresses of a block of pages, as an extent. -/
def Block.extent (b : Block) : Extent := ⟨b.base, 4096 * b.pages⟩

/-- A block and its extent have the same addresses. -/
theorem Block.extent_addrs (b : Block) : b.extent.addrs = b.addrs := rfl

/-- And so have several. -/
theorem extentAddrs_blocks (l : List Block) : extentAddrs (l.map Block.extent) = blockAddrs l := by
  induction l with
  | nil => rw [List.map_nil, extentAddrs_nil, blockAddrs_nil]
  | cons b l ih => rw [List.map_cons, extentAddrs_cons, blockAddrs_cons, ih, b.extent_addrs]

/-- Ascending blocks are separate. -/
theorem Ascending.separate {l : List Block} (h : Ascending l) :
    Separate (l.map Block.extent) := by
  refine List.Pairwise.map Block.extent (fun a b hab => ?_) h
  exact Set.disjoint_left.2 fun x hx hy => absurd (hab.trans hy.1) (not_le.2 hx.2)

/-! ### Layouts -/

/-- Who has which part of the memory. -/
structure Layout where
  transit : List Extent
  blocks : List Block
  pages : List Block
  lists : ℕ → List ℕ
  buffers : List Extent

namespace Layout

/-- All parts. -/
def extents (L : Layout) : List Extent :=
  L.transit ++ (L.blocks.map Block.extent ++ (L.pages.map Block.extent ++
    (poolBlocks L.lists ++ L.buffers)))

/-- What the clients have. -/
def held (L : Layout) : Set ℕ := blockAddrs L.pages ∪ extentAddrs L.buffers

/-- What the allocator may change: its globals, and what no client has. -/
def own (g : Globals) (arena : Set ℕ) (L : Layout) : Set ℕ := g.bytes ∪ arena \ L.held

/-- The parts do not overlap. -/
structure Apart (L : Layout) : Prop where
  transit_blocks : Disjoint (extentAddrs L.transit) (blockAddrs L.blocks)
  transit_pages : Disjoint (extentAddrs L.transit) (blockAddrs L.pages)
  transit_lists : Disjoint (extentAddrs L.transit) (extentAddrs (poolBlocks L.lists))
  transit_buffers : Disjoint (extentAddrs L.transit) (extentAddrs L.buffers)
  blocks_pages : Disjoint (blockAddrs L.blocks) (blockAddrs L.pages)
  blocks_lists : Disjoint (blockAddrs L.blocks) (extentAddrs (poolBlocks L.lists))
  blocks_buffers : Disjoint (blockAddrs L.blocks) (extentAddrs L.buffers)
  pages_lists : Disjoint (blockAddrs L.pages) (extentAddrs (poolBlocks L.lists))
  pages_buffers : Disjoint (blockAddrs L.pages) (extentAddrs L.buffers)
  lists_buffers : Disjoint (extentAddrs (poolBlocks L.lists)) (extentAddrs L.buffers)

/-- The addresses of a layout, by their use. -/
theorem extentAddrs_extents (L : Layout) :
    extentAddrs L.extents = extentAddrs L.transit ∪ (blockAddrs L.blocks ∪
      (blockAddrs L.pages ∪ (extentAddrs (poolBlocks L.lists) ∪ extentAddrs L.buffers))) := by
  simp only [extents, extentAddrs_append, extentAddrs_blocks]

/-- The parts of a separate layout are disjoint. -/
theorem apart_of_separate {L : Layout} (h : Separate L.extents) : L.Apart := by
  obtain ⟨-, h₁, htransit⟩ := separate_append.1 h
  obtain ⟨-, h₂, hblocks⟩ := separate_append.1 h₁
  obtain ⟨-, h₃, hpages⟩ := separate_append.1 h₂
  obtain ⟨-, -, hlists⟩ := separate_append.1 h₃
  simp only [extentAddrs_append, extentAddrs_blocks, Set.disjoint_union_right]
    at htransit hblocks hpages
  obtain ⟨ht₁, ht₂, ht₃, ht₄⟩ := htransit
  obtain ⟨hb₁, hb₂, hb₃⟩ := hblocks
  exact ⟨ht₁, ht₂, ht₃, ht₄, hb₁, hb₂, hb₃, hpages.1, hpages.2, hlists⟩

/-- Its pool blocks and buffers are separate. -/
theorem separate_pool {L : Layout} (h : Separate L.extents) :
    Separate (poolBlocks L.lists ++ L.buffers) := by
  obtain ⟨-, h₁, -⟩ := separate_append.1 h
  obtain ⟨-, h₂, -⟩ := separate_append.1 h₁
  exact (separate_append.1 h₂).2.1

/-- So are its free pool blocks. -/
theorem separate_lists {L : Layout} (h : Separate L.extents) : Separate (poolBlocks L.lists) :=
  (separate_append.1 (separate_pool h)).1

/-- And so are its buffers. -/
theorem separate_buffers {L : Layout} (h : Separate L.extents) : Separate L.buffers :=
  (separate_append.1 (separate_pool h)).2.1

end Layout

/-! ### The invariant -/

/-- Memory that may be managed: from 1 MB on, off the end of the address space and off
the globals. -/
structure Arena (g : Globals) (arena : Set ℕ) : Prop where
  low : ∀ a ∈ arena, 2 ^ 20 ≤ a
  bound : ∀ a ∈ arena, a + 1 < 2 ^ 64
  off : Disjoint arena g.bytes

/-- A block of a size class, or of pages of its own. -/
def Placed (e : Extent) : Prop :=
  (∃ index < maxPoolIndex, e.size = classSize index ∧ e.base % classSize index = 0) ∨
    (maxPoolSize < e.size ∧ e.size % 4096 = 0 ∧ e.base % 4096 = 0)

/-- The block of a live buffer: its header has its size and is not `Available`. -/
structure LiveBlock (m : Mem) (e : Extent) : Prop where
  header : HeaderAt m e.base e.size false
  placed : Placed e

/-- **The layout divides the memory, and the memory describes the layout.** -/
structure PoolInv (g : Globals) (arena : Set ℕ) (m : Mem) (L : Layout) : Prop where
  managed : Arena g arena
  separate : Separate L.extents
  cover : extentAddrs L.extents = arena
  freeList : FreeList g m L.blocks
  coalesced : Coalesced L.blocks
  lists : PoolLists g m L.lists
  pages : ∀ b ∈ L.pages, b.Valid
  buffers : ∀ e ∈ L.buffers, LiveBlock m e

/-- A placed block has at least 64 bytes. -/
theorem Placed.size_ge {e : Extent} (h : Placed e) : 64 ≤ e.size := by
  rcases h with ⟨index, -, hsize, -⟩ | ⟨hsize, -⟩
  · rw [hsize]
    exact classSize_ge index
  · have hmax : maxPoolSize = 2048 := rfl
    omega

/-- Its header lies in it. -/
theorem Placed.header_subset {e : Extent} (h : Placed e) : poolHeader e.base ⊆ e.addrs := by
  have hge := h.size_ge
  exact Set.Ico_subset_Ico_right (by unfold Extent.top; omega)

/-- A block is live where its header has not changed. -/
theorem LiveBlock.of_eqOn {S : Set ℕ} {m m' : Mem} {e : Extent} (h : LiveBlock m e)
    (heq : Set.EqOn m' m Sᶜ) (hoff : Disjoint (poolHeader e.base) S) : LiveBlock m' e :=
  ⟨h.header.of_eqOn heq hoff, h.placed⟩

/-- And so for several. -/
theorem liveBlocks_of_eqOn {S : Set ℕ} {m m' : Mem} {l : List Extent}
    (h : ∀ e ∈ l, LiveBlock m e) (heq : Set.EqOn m' m Sᶜ) (hoff : Disjoint (extentAddrs l) S) :
    ∀ e ∈ l, LiveBlock m' e := fun e he =>
  (h e he).of_eqOn heq
    (hoff.mono_left (((h e he).placed.header_subset).trans (addrs_subset he)))

/-- A free list stays one where its area has not changed. -/
theorem FreeList.of_eqOn {S : Set ℕ} {g : Globals} {m m' : Mem} {l : List Block}
    (h : FreeList g m l) (heq : Set.EqOn m' m Sᶜ) (hoff : Disjoint (listArea g l) S) :
    FreeList g m' l :=
  ⟨h.linked.of_eqOn heq (hoff.mono_left h.headers_subset), h.valid, h.ascending, h.apart⟩

section PoolInv

variable {g : Globals} {arena : Set ℕ} {m m' : Mem} {L L' : Layout}

/-- The parts of the heap are disjoint. -/
theorem PoolInv.apart (h : PoolInv g arena m L) : L.Apart := Layout.apart_of_separate h.separate

/-- Each lies in the memory managed. -/
theorem PoolInv.subset (h : PoolInv g arena m L) {e : Extent} (he : e ∈ L.extents) :
    e.addrs ⊆ arena :=
  h.cover ▸ addrs_subset he

/-- Where an extent of the layout lies. -/
theorem PoolInv.bounds (h : PoolInv g arena m L) {e : Extent} (he : e ∈ L.extents)
    (hsize : 0 < e.size) : 2 ^ 20 ≤ e.base ∧ e.top < 2 ^ 64 := by
  have htop : e.top = e.base + e.size := rfl
  have hlow := h.managed.low e.base (h.subset he (Extent.base_mem hsize))
  have hlast := h.managed.bound (e.top - 1) (h.subset he ⟨by omega, by omega⟩)
  exact ⟨hlow, by omega⟩

/-- No free block is at address 0. -/
theorem PoolInv.base_pos (h : PoolInv g arena m L) : ∀ b ∈ L.blocks, 0 < b.base := by
  intro b hb
  have hmem : b.extent ∈ L.extents := by
    simp only [Layout.extents, List.mem_append]
    exact .inr (.inl (List.mem_map_of_mem hb))
  have hpos := (h.freeList.valid b hb).pos
  have hbase : b.extent.base = b.base := rfl
  have hsize : b.extent.size = 4096 * b.pages := rfl
  have hlow := (h.bounds hmem (by omega)).1
  omega

/-- Every part lies in the arena. -/
theorem PoolInv.parts_subset (h : PoolInv g arena m L) :
    extentAddrs L.transit ⊆ arena ∧ blockAddrs L.blocks ⊆ arena ∧ blockAddrs L.pages ⊆ arena ∧
      extentAddrs (poolBlocks L.lists) ⊆ arena ∧ extentAddrs L.buffers ⊆ arena := by
  have hcover := h.cover
  rw [L.extentAddrs_extents] at hcover
  have hall := hcover.subset
  simp only [Set.union_subset_iff] at hall
  exact hall

/-- And off the globals. -/
theorem PoolInv.lists_off (h : PoolInv g arena m L) :
    Disjoint (extentAddrs (poolBlocks L.lists)) g.bytes :=
  h.managed.off.mono_left h.parts_subset.2.2.2.1

/-- The two allocators have bytes of their own. -/
theorem PoolInv.listArea_poolBytes (h : PoolInv g arena m L) :
    Disjoint (listArea g L.blocks) (poolBytes g L.lists) := by
  obtain ⟨-, hblocks, -, hlists, -⟩ := h.parts_subset
  have hsub : Set.Ico g.mMmPoolLists (g.mMmPoolLists + 6 * 16) ⊆ g.bytes := Set.subset_union_right
  exact Set.disjoint_union_left.2
    ⟨Set.disjoint_union_right.2
        ⟨g.heads_disjoint, (h.lists_off.mono_right (memoryMap_subset g)).symm⟩,
      Set.disjoint_union_right.2 ⟨h.managed.off.mono hblocks hsub, h.apart.blocks_lists⟩⟩

/-- Buffers are off the area of the free list. -/
theorem PoolInv.listArea_buffers (h : PoolInv g arena m L) :
    Disjoint (extentAddrs L.buffers) (listArea g L.blocks) := by
  obtain ⟨-, -, -, -, hbuffers⟩ := h.parts_subset
  exact Set.disjoint_union_right.2
    ⟨h.managed.off.mono hbuffers (memoryMap_subset g), h.apart.blocks_buffers.symm⟩

/-- Buffers are off the bytes of the pool lists. -/
theorem PoolInv.poolBytes_buffers (h : PoolInv g arena m L) :
    Disjoint (extentAddrs L.buffers) (poolBytes g L.lists) := by
  obtain ⟨-, -, -, -, hbuffers⟩ := h.parts_subset
  exact Set.disjoint_union_right.2
    ⟨h.managed.off.mono hbuffers Set.subset_union_right, h.apart.lists_buffers.symm⟩

/-- What is in transit is off the area of the free list. -/
theorem PoolInv.listArea_transit (h : PoolInv g arena m L) :
    Disjoint (listArea g L.blocks) (extentAddrs L.transit) := by
  obtain ⟨htransit, -⟩ := h.parts_subset
  exact Set.disjoint_union_left.2
    ⟨(h.managed.off.mono htransit (memoryMap_subset g)).symm, h.apart.transit_blocks.symm⟩

/-- What is in transit is off the bytes of the pool lists. -/
theorem PoolInv.poolBytes_transit (h : PoolInv g arena m L) :
    Disjoint (poolBytes g L.lists) (extentAddrs L.transit) := by
  obtain ⟨htransit, -⟩ := h.parts_subset
  exact Set.disjoint_union_left.2
    ⟨(h.managed.off.mono htransit Set.subset_union_right).symm, h.apart.transit_lists.symm⟩

/-- What no client has is the allocator's. -/
theorem PoolInv.own_subset (h : PoolInv g arena m L) :
    extentAddrs L.transit ∪ (listArea g L.blocks ∪ poolBytes g L.lists) ⊆ L.own g arena := by
  obtain ⟨htransit, hblocks, -, hlists, -⟩ := h.parts_subset
  have hin : ∀ {s : Set ℕ}, s ⊆ arena → Disjoint s (blockAddrs L.pages) →
      Disjoint s (extentAddrs L.buffers) → s ⊆ L.own g arena := fun hs hpages hbuffers a ha =>
    .inr ⟨hs ha, fun hheld => hheld.elim (Set.disjoint_left.1 hpages ha)
      (Set.disjoint_left.1 hbuffers ha)⟩
  refine Set.union_subset (hin htransit h.apart.transit_pages h.apart.transit_buffers)
    (Set.union_subset (Set.union_subset ?_ ?_) (Set.union_subset ?_ ?_))
  · exact fun a ha => .inl (memoryMap_subset g ha)
  · exact hin hblocks h.apart.blocks_pages h.apart.blocks_buffers
  · exact fun a ha => .inl (.inr ha)
  · exact hin hlists h.apart.pages_lists.symm h.apart.lists_buffers

/-- Some parts give way to others. -/
theorem PoolInv.rearrange (h : PoolInv g arena m L) {old new rest : List Extent}
    (hold : L.extents.Perm (old ++ rest)) (hnew : L'.extents.Perm (new ++ rest))
    (hsep : Separate new) (haddrs : extentAddrs new = extentAddrs old) :
    Separate L'.extents ∧ extentAddrs L'.extents = arena := by
  refine ⟨((h.separate.perm hold).replace hsep haddrs.subset).perm hnew.symm, ?_⟩
  rw [extentAddrs_perm hnew, extentAddrs_append, haddrs, ← extentAddrs_append,
    ← extentAddrs_perm hold, h.cover]

end PoolInv

end Allocation
end FfaFeature
