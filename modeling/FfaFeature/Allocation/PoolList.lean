/-
# The lists of available pool blocks

The blocks on list `i` of `mMmPoolLists` have the size `classSize i`; each is aligned to
that size, and its header says so and that the block is available.  `PoolList g m i l`
says that the memory holds the blocks at the addresses `l` as list `i`, and
`PoolLists g m lists` that it holds all six lists.

A block leaves its list with `PoolLists.pop` and enters it with `PoolLists.push`.  Both
need the blocks to be separate: the link of a block lies in the block, behind its header.
-/

import FfaFeature.Lib.Extent
import FfaFeature.Allocation.Pool

namespace FfaFeature
namespace Allocation

open LinkedList

/-! ### Sizes -/

/-- The size of the blocks on a list. -/
def classSize (index : ℕ) : ℕ := 64 <<< index

/-- The size of a class. -/
theorem classSize_eq (index : ℕ) : classSize index = 64 * 2 ^ index := Nat.shiftLeft_eq 64 index

/-- The next one is twice as large. -/
theorem classSize_succ (index : ℕ) : classSize (index + 1) = 2 * classSize index := by
  rw [classSize_eq, classSize_eq, pow_succ']
  exact Nat.mul_left_comm 64 2 _

/-- Each is at least 64. -/
theorem classSize_ge (index : ℕ) : 64 ≤ classSize index := by
  rw [classSize_eq]
  exact Nat.le_mul_of_pos_right 64 (Nat.two_pow_pos index)

/-- Each class with a list is at most `MAX_POOL_SIZE`. -/
theorem classSize_le {index : ℕ} (h : index < maxPoolIndex) : classSize index ≤ maxPoolSize := by
  have hpow : 2 ^ index ≤ 2 ^ 5 := Nat.pow_le_pow_right (by norm_num) (Nat.le_of_lt_succ h)
  have hmax : maxPoolSize = 64 * 2 ^ 5 := rfl
  rw [classSize_eq, hmax]
  omega

/-! ### Headers -/

/-- The bytes of the `POOL_HEADER` at an address. -/
def poolHeader (hdr : ℕ) : Set ℕ := Set.Ico hdr (hdr + 24)

/-- What the header at an address says. -/
structure HeaderAt (m : Mem) (hdr size : ℕ) (available : Bool) : Prop where
  size : headerSize m hdr = size
  available : headerAvailable m hdr = available

section Header

variable {m m' : Mem} {hdr size : ℕ} {available : Bool}

/-- A header stays where its bytes have not changed. -/
theorem HeaderAt.of_eqOn {S : Set ℕ} (h : HeaderAt m hdr size available)
    (heq : Set.EqOn m' m Sᶜ) (hoff : Disjoint (poolHeader hdr) S) :
    HeaderAt m' hdr size available := by
  have hsize : headerSize m' hdr = headerSize m hdr := Mem.load64_of_eqOn heq
    (hoff.mono_left (Set.Ico_subset_Ico (by omega) (by omega)))
  have hbyte : m' (hdr + 4) = m (hdr + 4) :=
    heq fun hS => Set.disjoint_left.1 hoff ⟨by omega, by omega⟩ hS
  refine ⟨hsize.trans h.size, ?_⟩
  unfold headerAvailable
  rw [hbyte]
  exact h.available

/-- A store of the size writes the header. -/
theorem setHeaderSize_eqOn (m : Mem) (hdr size : ℕ) :
    Set.EqOn (setHeaderSize m hdr size) m (poolHeader hdr)ᶜ :=
  Mem.eqOn_mono (m.store64_eqOn (hdr + 16) size) (Set.Ico_subset_Ico (by omega) (by omega))

/-- A store of the flag writes one byte. -/
theorem setHeaderAvailable_eqOn (m : Mem) (hdr : ℕ) (available : Bool) :
    Set.EqOn (setHeaderAvailable m hdr available) m {hdr + 4}ᶜ :=
  fun _ ha => Function.update_of_ne ha _ m

/-- `Available` is written, and `Size` stays. -/
theorem headerAt_setHeaderAvailable (m : Mem) (hdr : ℕ) (available : Bool) :
    HeaderAt (setHeaderAvailable m hdr available) hdr (headerSize m hdr) available := by
  refine ⟨Mem.load64_of_eqOn (setHeaderAvailable_eqOn m hdr available) ?_, ?_⟩
  · rw [Set.disjoint_singleton_right]
    rintro ⟨hle, -⟩
    omega
  · unfold headerAvailable setHeaderAvailable
    rw [Function.update_self]
    cases available <;> rfl

/-- Both fields are written. -/
theorem headerAt_set (m : Mem) (hdr : ℕ) {size : ℕ} (available : Bool) (h : size < 2 ^ 64) :
    HeaderAt (setHeaderAvailable (setHeaderSize m hdr size) hdr available) hdr size available := by
  have hsize : headerSize (setHeaderSize m hdr size) hdr = size := Mem.load64_store64 m _ h
  have hset := headerAt_setHeaderAvailable (setHeaderSize m hdr size) hdr available
  rwa [hsize] at hset

/-- Both write the header only. -/
theorem set_eqOn (m : Mem) (hdr size : ℕ) (available : Bool) :
    Set.EqOn (setHeaderAvailable (setHeaderSize m hdr size) hdr available) m (poolHeader hdr)ᶜ := by
  refine Set.EqOn.trans (Mem.eqOn_mono (setHeaderAvailable_eqOn _ hdr available) ?_)
    (setHeaderSize_eqOn m hdr size)
  exact Set.singleton_subset_iff.2 ⟨by omega, by omega⟩

end Header

/-! ### One list -/

/-- The block of list `index` at an address. -/
def poolBlock (index hdr : ℕ) : Extent := ⟨hdr, classSize index⟩

/-- A block begins with its header. -/
@[simp] theorem poolBlock_base (index hdr : ℕ) : (poolBlock index hdr).base = hdr := rfl

/-- It ends a class size later. -/
@[simp] theorem poolBlock_top (index hdr : ℕ) :
    (poolBlock index hdr).top = hdr + classSize index := rfl

/-- Its header lies in it. -/
theorem poolHeader_subset (index hdr : ℕ) : poolHeader hdr ⊆ (poolBlock index hdr).addrs := by
  have hge := classSize_ge index
  exact Set.Ico_subset_Ico_right (by rw [poolBlock_top]; omega)

/-- The link of a block lies in it. -/
theorem link_subset (index hdr : ℕ) :
    entryBytes (hdr + poolHeaderSize) ⊆ (poolBlock index hdr).addrs := by
  have hge := classSize_ge index
  have hsize : poolHeaderSize = 24 := rfl
  exact Set.Ico_subset_Ico (by rw [poolBlock_base]; omega) (by rw [poolBlock_top]; omega)

/-- The link of a free block is behind its header. -/
theorem poolHeader_disjoint_link (hdr : ℕ) :
    Disjoint (poolHeader hdr) (entryBytes (hdr + poolHeaderSize)) :=
  Set.disjoint_left.2 fun a ha hb => by
    have h₁ := ha.2
    have h₂ := hb.1
    unfold poolHeaderSize at h₂
    omega

/-- The memory holds the blocks at `l` as list `index`. -/
structure PoolList (g : Globals) (m : Mem) (index : ℕ) (l : List ℕ) : Prop where
  list : IsList m (poolList g index) (l.map (· + poolHeaderSize))
  header : ∀ hdr ∈ l, HeaderAt m hdr (classSize index) true
  aligned : ∀ hdr ∈ l, hdr % classSize index = 0

/-- The bytes of a list: its head, and all of its blocks. -/
def poolListBytes (g : Globals) (index : ℕ) (l : List ℕ) : Set ℕ :=
  entryBytes (poolList g index) ∪ extentAddrs (l.map (poolBlock index))

section PoolList

variable {g : Globals} {m m' : Mem} {index hdr : ℕ} {l : List ℕ}

/-- A header of the list is that of a block. -/
theorem poolBlock_mem (h : hdr ∈ l) : poolBlock index hdr ∈ l.map (poolBlock index) :=
  List.mem_map_of_mem h

/-- The links of a list are bytes of the list. -/
theorem links_subset (g : Globals) (index : ℕ) (l : List ℕ) :
    entriesBytes (poolList g index :: l.map (· + poolHeaderSize)) ⊆ poolListBytes g index l := by
  rintro a ⟨x, hx, ha⟩
  rcases List.mem_cons.1 hx with rfl | hx
  · exact .inl ha
  · obtain ⟨hdr, hhdr, rfl⟩ := List.mem_map.1 hx
    exact .inr (addrs_subset (poolBlock_mem hhdr) (link_subset index hdr ha))

/-- A list stays one where its bytes have not changed. -/
theorem PoolList.of_eqOn {S : Set ℕ} (h : PoolList g m index l) (heq : Set.EqOn m' m Sᶜ)
    (hoff : Disjoint (poolListBytes g index l) S) : PoolList g m' index l := by
  refine ⟨h.list.of_eqOn heq fun x hx => ?_, fun hdr hhdr => ?_, h.aligned⟩
  · exact hoff.mono_left fun a ha => links_subset g index l ⟨x, hx, ha⟩
  · refine (h.header hdr hhdr).of_eqOn heq (hoff.mono_left fun a ha => .inr ?_)
    exact addrs_subset (poolBlock_mem hhdr) (poolHeader_subset index hdr ha)

/-- The head of each list is in the array. -/
theorem poolList_subset_heads (g : Globals) (h : index < maxPoolIndex) :
    entryBytes (poolList g index) ⊆ Set.Ico g.mMmPoolLists (g.mMmPoolLists + 6 * 16) := by
  have hindex : index < 6 := h
  exact Set.Ico_subset_Ico (by unfold poolList; omega) (by unfold poolList; omega)

/-- It is one of the globals. -/
theorem poolList_subset (g : Globals) (h : index < maxPoolIndex) :
    entryBytes (poolList g index) ⊆ g.bytes :=
  (poolList_subset_heads g h).trans Set.subset_union_right

/-- The heads of the two allocators lie apart. -/
theorem Globals.heads_disjoint (g : Globals) : Disjoint (entryBytes g.mMmMemoryMap)
    (Set.Ico g.mMmPoolLists (g.mMmPoolLists + 6 * 16)) :=
  Set.disjoint_left.2 fun a ha hb => by
    have h₁ := ha.1
    have h₂ := ha.2
    have h₃ := hb.1
    have h₄ := hb.2
    have h₅ := g.apart
    omega

/-- The header of a block lies apart from all links of its list. -/
theorem poolHeader_disjoint_links (hindex : index < maxPoolIndex)
    (hsep : Separate (l.map (poolBlock index)))
    (hoff : Disjoint (extentAddrs (l.map (poolBlock index))) g.bytes) (hhdr : hdr ∈ l) :
    Disjoint (poolHeader hdr)
      (entriesBytes (poolList g index :: l.map (· + poolHeaderSize))) := by
  have hsub := (poolHeader_subset index hdr).trans (addrs_subset (poolBlock_mem hhdr))
  refine Set.disjoint_left.2 fun a ha => ?_
  rintro ⟨x, hx, hax⟩
  rcases List.mem_cons.1 hx with rfl | hx
  · exact Set.disjoint_left.1 hoff (hsub ha) (poolList_subset g hindex hax)
  · obtain ⟨other, hother, rfl⟩ := List.mem_map.1 hx
    by_cases hne : hdr = other
    · subst hne
      exact Set.disjoint_left.1 (poolHeader_disjoint_link hdr) ha hax
    · have hblocks : (poolBlock index hdr).Off (poolBlock index other) :=
        hsep.forall (poolBlock_mem hhdr) (poolBlock_mem hother)
          fun he => hne (congrArg Extent.base he)
      exact Set.disjoint_left.1 hblocks (poolHeader_subset index hdr ha)
        (link_subset index other hax)

/-- A block that is not on a list lies apart from its links. -/
theorem link_apart (hindex : index < maxPoolIndex)
    (hsep : Separate ((hdr :: l).map (poolBlock index)))
    (hoff : Disjoint (extentAddrs ((hdr :: l).map (poolBlock index))) g.bytes) :
    ∀ x ∈ poolList g index :: l.map (· + poolHeaderSize), Apart (hdr + poolHeaderSize) x := by
  have hsub : entryBytes (hdr + poolHeaderSize) ⊆ extentAddrs ((hdr :: l).map (poolBlock index)) :=
    (link_subset index hdr).trans (addrs_subset (poolBlock_mem List.mem_cons_self))
  intro x hx
  refine apart_of_disjoint ?_
  rcases List.mem_cons.1 hx with rfl | hx
  · exact hoff.mono hsub (poolList_subset g hindex)
  · obtain ⟨other, hother, rfl⟩ := List.mem_map.1 hx
    rw [List.map_cons] at hsep
    have hblocks : (poolBlock index hdr).Off (poolBlock index other) :=
      (List.pairwise_cons.1 hsep).1 _ (poolBlock_mem hother)
    exact hblocks.mono (link_subset index hdr) (link_subset index other)

/-- The first block leaves its list. -/
theorem PoolList.remove (lib : BaseLib) (h : PoolList g m index (hdr :: l))
    (hindex : index < maxPoolIndex) (hsep : Separate ((hdr :: l).map (poolBlock index)))
    (hoff : Disjoint (extentAddrs ((hdr :: l).map (poolBlock index))) g.bytes) :
    PoolList g (lib.removeEntryList m (hdr + poolHeaderSize)) index l ∧
      Set.EqOn (lib.removeEntryList m (hdr + poolHeaderSize)) m
        (poolListBytes g index (hdr :: l))ᶜ := by
  have hlist : IsList m (poolList g index)
      ([] ++ (hdr + poolHeaderSize) :: l.map (· + poolHeaderSize)) := h.list
  have heq := lib.removeEntryList_eqOn hlist
  refine ⟨⟨lib.removeEntryList_isList hlist, fun other hother => ?_, fun other hother =>
    h.aligned other (List.mem_cons_of_mem hdr hother)⟩,
    Mem.eqOn_mono heq (links_subset g index (hdr :: l))⟩
  have hmem : other ∈ hdr :: l := List.mem_cons_of_mem hdr hother
  exact (h.header other hmem).of_eqOn heq (poolHeader_disjoint_links hindex hsep hoff hmem)

/-- A block enters its list. -/
theorem PoolList.insert (lib : BaseLib) (h : PoolList g m index l) (hindex : index < maxPoolIndex)
    (hsep : Separate ((hdr :: l).map (poolBlock index)))
    (hoff : Disjoint (extentAddrs ((hdr :: l).map (poolBlock index))) g.bytes)
    (hheader : HeaderAt m hdr (classSize index) true) (haligned : hdr % classSize index = 0)
    (hbound : (poolBlock index hdr).top ≤ 2 ^ 64) :
    PoolList g (lib.insertHeadList m (poolList g index) (hdr + poolHeaderSize)) index (hdr :: l) ∧
      Set.EqOn (lib.insertHeadList m (poolList g index) (hdr + poolHeaderSize)) m
        (poolListBytes g index (hdr :: l))ᶜ := by
  have hapart := link_apart hindex hsep hoff
  have hlink : hdr + poolHeaderSize + 16 ≤ 2 ^ 64 := by
    have hge := classSize_ge index
    have hsize : poolHeaderSize = 24 := rfl
    rw [poolBlock_top] at hbound
    omega
  have hperm : ((hdr + poolHeaderSize) :: poolList g index :: l.map (· + poolHeaderSize)).Perm
      (poolList g index :: (hdr :: l).map (· + poolHeaderSize)) := List.Perm.swap _ _ _
  have heq := lib.insertHeadList_eqOn h.list hapart
  rw [entriesBytes_perm hperm] at heq
  have hheaders : ∀ other ∈ hdr :: l, HeaderAt m other (classSize index) true :=
    List.forall_mem_cons.2 ⟨hheader, h.header⟩
  refine ⟨⟨lib.insertHeadList_isList h.list hapart hlink, fun other hother => ?_,
    List.forall_mem_cons.2 ⟨haligned, h.aligned⟩⟩, Mem.eqOn_mono heq (links_subset g index _)⟩
  exact (hheaders other hother).of_eqOn heq (poolHeader_disjoint_links hindex hsep hoff hother)

end PoolList

/-! ### All lists -/

/-- All available blocks. -/
def poolBlocks (lists : ℕ → List ℕ) : List Extent :=
  (List.range maxPoolIndex).flatMap fun index => (lists index).map (poolBlock index)

/-- The memory holds all six lists. -/
def PoolLists (g : Globals) (m : Mem) (lists : ℕ → List ℕ) : Prop :=
  ∀ index < maxPoolIndex, PoolList g m index (lists index)

/-- The bytes of the lists: `mMmPoolLists`, and all available blocks. -/
def poolBytes (g : Globals) (lists : ℕ → List ℕ) : Set ℕ :=
  Set.Ico g.mMmPoolLists (g.mMmPoolLists + 6 * 16) ∪ extentAddrs (poolBlocks lists)

section PoolLists

variable {g : Globals} {m m' : Mem} {lists : ℕ → List ℕ} {index other hdr : ℕ} {l : List ℕ}

/-- The blocks of one list are among those of all. -/
theorem extentAddrs_subset_poolBlocks (hindex : index < maxPoolIndex) :
    extentAddrs ((lists index).map (poolBlock index)) ⊆ extentAddrs (poolBlocks lists) := by
  rintro a ⟨e, he, ha⟩
  exact ⟨e, List.mem_flatMap.2 ⟨index, List.mem_range.2 hindex, he⟩, ha⟩

/-- And so are its bytes. -/
theorem poolListBytes_subset (hindex : index < maxPoolIndex) :
    poolListBytes g index (lists index) ⊆ poolBytes g lists :=
  Set.union_subset_union (poolList_subset_heads g hindex) (extentAddrs_subset_poolBlocks hindex)

/-- The lists stay where their bytes have not changed. -/
theorem PoolLists.of_eqOn {S : Set ℕ} (h : PoolLists g m lists) (heq : Set.EqOn m' m Sᶜ)
    (hoff : Disjoint (poolBytes g lists) S) : PoolLists g m' lists := fun index hindex =>
  (h index hindex).of_eqOn heq (hoff.mono_left (poolListBytes_subset hindex))

/-- The blocks of each list are separate, and those of two lists too. -/
theorem separate_poolBlocks (h : Separate (poolBlocks lists)) :
    (∀ index < maxPoolIndex, Separate ((lists index).map (poolBlock index))) ∧
      ∀ index < maxPoolIndex, ∀ other < maxPoolIndex, index ≠ other →
        Disjoint (extentAddrs ((lists index).map (poolBlock index)))
          (extentAddrs ((lists other).map (poolBlock other))) := by
  obtain ⟨hone, htwo⟩ := List.pairwise_flatMap.1 h
  refine ⟨fun index hindex => hone index (List.mem_range.2 hindex), ?_⟩
  intro index hindex other hother hne
  rw [Set.disjoint_left]
  rintro a ⟨e, he, ha⟩ ⟨f, hf, haf⟩
  rcases lt_or_gt_of_ne hne with hlt | hlt
  · have hoff := List.pairwise_iff_getElem.1 htwo index other (by simpa using hindex)
      (by simpa using hother) hlt
    rw [List.getElem_range, List.getElem_range] at hoff
    exact Set.disjoint_left.1 (hoff e he f hf) ha haf
  · have hoff := List.pairwise_iff_getElem.1 htwo other index (by simpa using hother)
      (by simpa using hindex) hlt
    rw [List.getElem_range, List.getElem_range] at hoff
    exact Set.disjoint_left.1 (hoff f hf e he) haf ha

/-- Different lists have different bytes. -/
theorem poolListBytes_disjoint (hsep : Separate (poolBlocks lists))
    (hoff : Disjoint (extentAddrs (poolBlocks lists)) g.bytes) (hindex : index < maxPoolIndex)
    (hother : other < maxPoolIndex) (hne : index ≠ other) :
    Disjoint (poolListBytes g index (lists index)) (poolListBytes g other (lists other)) := by
  have hheads : Disjoint (entryBytes (poolList g index)) (entryBytes (poolList g other)) :=
    Set.disjoint_left.2 fun a ha hb => by
      have h₁ := ha.1
      have h₂ := ha.2
      have h₃ := hb.1
      have h₄ := hb.2
      unfold poolList at h₁ h₂ h₃ h₄
      omega
  have hblocks := (separate_poolBlocks hsep).2 index hindex other hother hne
  exact Set.disjoint_union_left.2
    ⟨Set.disjoint_union_right.2 ⟨hheads, (hoff.mono (extentAddrs_subset_poolBlocks hother)
        (poolList_subset g hindex)).symm⟩,
      Set.disjoint_union_right.2 ⟨hoff.mono (extentAddrs_subset_poolBlocks hindex)
        (poolList_subset g hother), hblocks⟩⟩

/-- A block is on one of the lists. -/
theorem poolBlocks_perm (hindex : index < maxPoolIndex) (hl : lists index = hdr :: l) :
    (poolBlocks lists).Perm
      (poolBlock index hdr :: poolBlocks (Function.update lists index l)) := by
  refine flatMap_perm_cons List.nodup_range (List.mem_range.2 hindex) (fun j hj => ?_) ?_
  · rw [Function.update_of_ne hj]
  · rw [Function.update_self, hl, List.map_cons]

/-- The lists after one of them changed. -/
theorem PoolLists.update (h : PoolLists g m lists) (hsep : Separate (poolBlocks lists))
    (hoff : Disjoint (extentAddrs (poolBlocks lists)) g.bytes) (hindex : index < maxPoolIndex)
    (heq : Set.EqOn m' m (poolListBytes g index (lists index))ᶜ) (hl : PoolList g m' index l) :
    PoolLists g m' (Function.update lists index l) := by
  intro other hother
  by_cases hne : other = index
  · subst hne
    rwa [Function.update_self]
  · rw [Function.update_of_ne hne]
    exact (h other hother).of_eqOn heq (poolListBytes_disjoint hsep hoff hother hindex hne)

/-- **A block leaves its list.** -/
theorem PoolLists.pop (lib : BaseLib) (h : PoolLists g m lists)
    (hsep : Separate (poolBlocks lists))
    (hoff : Disjoint (extentAddrs (poolBlocks lists)) g.bytes) (hindex : index < maxPoolIndex)
    (hl : lists index = hdr :: l) :
    PoolLists g (lib.removeEntryList m (hdr + poolHeaderSize)) (Function.update lists index l) ∧
      Set.EqOn (lib.removeEntryList m (hdr + poolHeaderSize)) m (poolBytes g lists)ᶜ := by
  have hone := (separate_poolBlocks hsep).1 index hindex
  have hlist := h index hindex
  have hoff_one := hoff.mono_left (extentAddrs_subset_poolBlocks hindex)
  rw [hl] at hone hlist hoff_one
  obtain ⟨hrest, heq⟩ := hlist.remove lib hindex hone hoff_one
  rw [← hl] at heq
  exact ⟨h.update hsep hoff hindex heq hrest, Mem.eqOn_mono heq (poolListBytes_subset hindex)⟩

/-- **A block enters its list.** -/
theorem PoolLists.push (lib : BaseLib) (h : PoolLists g m lists)
    (hsep : Separate (poolBlocks (Function.update lists index (hdr :: lists index))))
    (hoff : Disjoint
      (extentAddrs (poolBlocks (Function.update lists index (hdr :: lists index)))) g.bytes)
    (hindex : index < maxPoolIndex) (hheader : HeaderAt m hdr (classSize index) true)
    (haligned : hdr % classSize index = 0) (hbound : (poolBlock index hdr).top ≤ 2 ^ 64) :
    PoolLists g (lib.insertHeadList m (poolList g index) (hdr + poolHeaderSize))
        (Function.update lists index (hdr :: lists index)) ∧
      Set.EqOn (lib.insertHeadList m (poolList g index) (hdr + poolHeaderSize)) m
        (poolBytes g (Function.update lists index (hdr :: lists index)))ᶜ := by
  have hself : Function.update lists index (hdr :: lists index) index = hdr :: lists index :=
    Function.update_self ..
  have hone := (separate_poolBlocks hsep).1 index hindex
  have hoff_one := hoff.mono_left (extentAddrs_subset_poolBlocks hindex)
  rw [hself] at hone hoff_one
  obtain ⟨hlist, heq⟩ := (h index hindex).insert lib hindex hone hoff_one hheader haligned hbound
  have heq' := heq
  rw [← hself] at heq'
  refine ⟨fun other hother => ?_, Mem.eqOn_mono heq' (poolListBytes_subset hindex)⟩
  by_cases hne : other = index
  · subst hne
    rwa [hself]
  · have hdisjoint := poolListBytes_disjoint hsep hoff hother hindex hne
    rw [Function.update_of_ne hne] at hdisjoint ⊢
    exact (h other hother).of_eqOn heq' hdisjoint

end PoolLists

end Allocation
end FfaFeature
