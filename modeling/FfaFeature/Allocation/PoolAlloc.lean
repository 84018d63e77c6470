/-
# Allocating a pool buffer

`InternalAllocPoolByIndex` asks for a block of a size class and, where there is none,
for one of the next class, down to the pages.  `allocPoolLevel_spec` follows it by
induction on the classes above: it fails and changes nothing, or the block it returns is
in transit, aligned to its size and with a header that says so (`LevelResult`).

`mmInternalAllocatePool_spec` adds the choice of the class (`poolIndexOf_spec`) and the
large buffers, which get pages of their own: what is returned is a block that may become
a live buffer, with room for the size asked for (`PoolResult`).
-/

import FfaFeature.Allocation.Moves

namespace FfaFeature
namespace Allocation

open LinkedList

/-! ### Size classes -/

/-- The sizes are powers of two. -/
theorem classSize_pow (index : ℕ) : classSize index = 2 ^ (6 + index) := by
  have hpow : 2 ^ 6 = 64 := by norm_num
  rw [classSize_eq, pow_add, hpow]

/-- They are computed by a shift. -/
theorem minPoolSize_shiftLeft (index : ℕ) : minPoolSize <<< index = classSize index := by
  have hmin : minPoolSize = 64 := rfl
  rw [hmin, classSize]

/-- The blocks of the classes, and the page they are halves of. -/
theorem classSize_le_page {index : ℕ} (h : index ≤ maxPoolIndex) : classSize index ≤ 4096 := by
  have hpow : 2 ^ index ≤ 2 ^ 6 := Nat.pow_le_pow_right (by norm_num) h
  rw [classSize_eq]
  omega

/-- **The class of a size** is the first that has room for it. -/
theorem poolIndexOf_spec (lib : BaseLib) {size : ℕ} (hpos : 0 < size) (hle : size ≤ maxPoolSize) :
    poolIndexOf lib size < maxPoolIndex ∧ size ≤ classSize (poolIndexOf lib size) := by
  have hmax : maxPoolSize = 2048 := rfl
  have hindex : maxPoolIndex = 6 := rfl
  have hshift : uadd size (minPoolSize - 1) >>> minPoolShift = (size + 63) / 64 := by
    have hmin : minPoolSize - 1 = 63 := rfl
    rw [Nat.shiftRight_eq_div_pow, hmin, uadd_eq (by omega)]
    rfl
  obtain ⟨units, hunits⟩ : ∃ units, (size + 63) / 64 = units := ⟨_, rfl⟩
  have hunits_pos : units ≠ 0 := by omega
  have hlow : 2 ^ units.log2 ≤ units := Nat.log2_self_le hunits_pos
  have hhigh : units < 2 ^ (units.log2 + 1) := Nat.lt_log2_self
  have hlog : units.log2 < 6 := (Nat.log2_lt hunits_pos).2 (by omega)
  have hbit : toUintn (lib.highBitSet32 (units % 2 ^ 32)) = units.log2 := by
    rw [Nat.mod_eq_of_lt (by omega), lib.highBitSet32_eq (by omega) hlow hhigh]
    unfold toUintn
    omega
  have hcheck : units &&& usub units 1 = 0 ↔ units.isPowerOfTwo := by
    rw [usub_eq (by omega) (by omega)]
    exact Nat.and_sub_one_eq_zero_iff_isPowerOfTwo hunits_pos
  unfold poolIndexOf
  rw [hshift, hunits]
  dsimp only
  rw [hbit]
  by_cases hpower : units.isPowerOfTwo
  · rw [if_neg (not_not.2 (hcheck.2 hpower)), classSize_eq]
    obtain ⟨k, hk⟩ := hpower
    have hlog_eq : units.log2 = k := by rw [hk, Nat.log2_two_pow]
    rw [hlog_eq] at hlog ⊢
    omega
  · rw [if_pos fun he => hpower (hcheck.1 he), classSize_eq]
    have hne : units.log2 ≠ 5 := by
      intro he
      rw [he] at hlow
      exact hpower ⟨5, by omega⟩
    omega

/-- Success is no error. -/
theorem success_not_error : ¬EfiStatus.success.isError = true := by decide

/-! ### A block of a class -/

/-- **What a request for a block of a class does.** -/
inductive LevelResult (g : Globals) (arena : Set ℕ) (m : Mem) (L : Layout) (index : ℕ) :
    EfiStatus × ℕ × Mem → Prop
  | failed (status : EfiStatus) (hdr : ℕ) : status.isError = true →
      LevelResult g arena m L index (status, hdr, m)
  | claimed (hdr : ℕ) (m' : Mem) (L' : Layout) : Moves g arena m L m' L' →
      L'.transit = poolBlock index hdr :: L.transit → HeaderAt m' hdr (classSize index) false →
      hdr % classSize index = 0 → LevelResult g arena m L index (.success, hdr, m')

section Levels

variable {g : Globals} {arena : Set ℕ} {m m' : Mem} {L : Layout} {t : List Extent}
  {index hdr : ℕ}

/-- The header of a block in transit may be written. -/
theorem PoolInv.writeHeader (h : PoolInv g arena m L) {e : Extent} (ht : L.transit = e :: t)
    (hsize : 64 ≤ e.size) (heq : Set.EqOn m' m (poolHeader e.base)ᶜ) : Moves g arena m L m' L := by
  refine h.write (Mem.eqOn_mono heq ?_)
  rw [ht, extentAddrs_cons]
  refine Set.subset_union_of_subset_left ?_ _
  exact Set.Ico_subset_Ico_right (by unfold Extent.top; omega)

/-- The header of a block in transit is written. -/
theorem claimHeader_spec (h : PoolInv g arena m L) (ht : L.transit = poolBlock index hdr :: t)
    (hindex : index ≤ maxPoolIndex) :
    Moves g arena m L (claimHeader m hdr index) L ∧
      HeaderAt (claimHeader m hdr index) hdr (classSize index) false := by
  have hle := classSize_le_page hindex
  unfold claimHeader
  rw [minPoolSize_shiftLeft]
  exact ⟨h.writeHeader ht (classSize_ge index) (set_eqOn m hdr _ false),
    headerAt_set m hdr false (by omega)⟩

/-- **A block is split**: its lower half becomes available, and its upper half is the
block asked for. -/
theorem splitPool_spec (lib : BaseLib) (h : PoolInv g arena m L)
    (ht : L.transit = poolBlock (index + 1) hdr :: t) (hindex : index < maxPoolIndex)
    (hheader : HeaderAt m hdr (classSize (index + 1)) false)
    (haligned : hdr % classSize (index + 1) = 0) :
    ∃ hdr' m' L', splitPool lib g m hdr index = (hdr', m') ∧ Moves g arena m L m' L' ∧
      L'.transit = poolBlock index hdr' :: t ∧ HeaderAt m' hdr' (classSize index) false ∧
      hdr' % classSize index = 0 := by
  have hsucc := classSize_succ index
  have hle := classSize_le_page hindex.le
  have hhalf : headerSize m hdr >>> 1 = classSize index := by
    rw [hheader.size, Nat.shiftRight_one, hsucc]
    omega
  have hlower : hdr % classSize index = 0 := by
    rw [hsucc] at haligned
    exact Nat.mod_eq_zero_of_dvd ((Dvd.intro_left 2 rfl).trans (Nat.dvd_of_mod_eq_zero haligned))
  have hmem : poolBlock (index + 1) hdr ∈ L.extents := by
    unfold Layout.extents
    rw [ht]
    exact List.mem_append_left _ List.mem_cons_self
  have hge := classSize_ge index
  have hsize : (poolBlock (index + 1) hdr).size = classSize (index + 1) := rfl
  have hbound := (h.bounds hmem (by omega)).2
  rw [poolBlock_top] at hbound
  -- the lower half gets its header and goes on the list
  have hsplit := h.split ht
  have hwrite := hsplit.inv.writeHeader rfl hge (set_eqOn m hdr (classSize index) true)
  have hset : HeaderAt _ hdr (classSize index) true := headerAt_set m hdr true (by omega)
  have hpush := hwrite.inv.push lib rfl hindex hset hlower
  have hlist : PoolList g _ index
      (Function.update L.lists index (hdr :: L.lists index) index) := hpush.inv.lists index hindex
  rw [Function.update_self] at hlist
  have hread := (hlist.header hdr List.mem_cons_self).size
  -- the upper half is claimed
  obtain ⟨hclaim, hclaimed⟩ := claimHeader_spec hpush.inv rfl hindex.le
  refine ⟨hdr + classSize index, _, _, ?_, ((hsplit.trans hwrite).trans hpush).trans hclaim, rfl,
    hclaimed, ?_⟩
  · unfold splitPool
    dsimp only
    rw [hhalf, hread, uadd_eq (by omega)]
  · rw [Nat.add_mod_right]
    exact hlower

/-- The largest size is a page. -/
theorem classSize_maxPoolIndex : classSize maxPoolIndex = 4096 := by decide

/-- A page is a block of the class above the last. -/
theorem page_extent (address : ℕ) :
    (Block.mk address 1).extent = poolBlock maxPoolIndex address := by
  unfold Block.extent poolBlock
  rw [classSize_maxPoolIndex, Nat.mul_one]

/-- **`InternalAllocPoolByIndex`**, by induction on the classes above. -/
theorem allocPoolLevel_spec (lib : BaseLib) (h : PoolInv g arena m L) {levels : ℕ}
    (hlevels : levels ≤ maxPoolIndex) :
    ∃ result, allocPoolLevel lib g m levels = .ok result ∧
      LevelResult g arena m L (maxPoolIndex - levels) result := by
  induction levels with
  | zero =>
    obtain ⟨result, hcode, hresult⟩ := @mmInternalAllocatePages_spec g m L.blocks 1 lib h.freeList
      h.base_pos .allocateAnyPages (.inl rfl) .efiRuntimeServicesData le_rfl 0 (by norm_num)
    have hpages : efiSizeToPages (maxPoolSize <<< 1) = 1 := rfl
    unfold allocPoolLevel
    rw [hpages, hcode]
    rcases hresult with ⟨status, address, herror⟩ | ⟨address, m', l', hlist, htaken, heq⟩
    · exact ⟨_, if_pos herror, .failed .outOfResources 0 (by decide)⟩
    · have htake := h.takePages hlist htaken heq
      have halign := htaken.valid.aligned
      rw [page_extent] at htake
      rw [← classSize_maxPoolIndex] at halign
      obtain ⟨hclaim, hclaimed⟩ := @claimHeader_spec _ _ _ _ L.transit maxPoolIndex address
        htake.inv rfl le_rfl
      refine ⟨(.success, address, claimHeader m' address maxPoolIndex), ?_,
        .claimed address _ _ (htake.trans hclaim) rfl hclaimed halign⟩
      rfl
  | succ levels ih =>
    have hindex : maxPoolIndex - (levels + 1) < maxPoolIndex := by omega
    have hnext : maxPoolIndex - levels = maxPoolIndex - (levels + 1) + 1 := by omega
    generalize hi : maxPoolIndex - (levels + 1) = index at hindex hnext ⊢
    have hlist := h.lists index hindex
    have hempty := lib.isListEmpty_iff hlist.list
    unfold allocPoolLevel
    dsimp only
    rw [hi]
    rcases hl : L.lists index with _ | ⟨hdr, l⟩
    · rw [hl] at hempty
      rw [if_pos (hempty.2 rfl)]
      obtain ⟨result, hcode, hresult⟩ := ih (by omega)
      rw [hcode]
      rw [hnext] at hresult
      rcases hresult with ⟨status, hdr, herror⟩ | ⟨hdr, m', L', hmoves, htransit, hheader, haligned⟩
      · exact ⟨_, if_pos herror, .failed status hdr herror⟩
      · obtain ⟨hdr', m'', L'', hsplit, hmoves', htransit', hheader', haligned'⟩ :=
          splitPool_spec lib hmoves.inv htransit hindex hheader haligned
        refine ⟨(.success, splitPool lib g m' hdr index), if_neg success_not_error, ?_⟩
        rw [hsplit]
        exact .claimed hdr' m'' L'' (hmoves.trans hmoves') htransit' hheader' haligned'
    · rw [hl] at hempty hlist
      have hne : ¬lib.isListEmpty m (poolList g index) = true := fun he => by
        simpa using hempty.1 he
      have hfirst : lib.getFirstNode m (poolList g index) = hdr + poolHeaderSize :=
        lib.getFirstNode_eq hlist.list
      have hbound := hlist.list.bound (hdr + poolHeaderSize) (by simp)
      have hback : usub (hdr + poolHeaderSize) poolHeaderSize = hdr := by
        rw [usub_eq (by omega) (by omega)]
        omega
      have hpop := h.pop lib hindex hl
      obtain ⟨hclaim, hclaimed⟩ := @claimHeader_spec _ _ _ _ L.transit index hdr hpop.inv rfl
        hindex.le
      rw [if_neg hne, hfirst, hback]
      exact ⟨_, rfl, .claimed hdr _ _ (hpop.trans hclaim) rfl hclaimed
        (hlist.aligned hdr List.mem_cons_self)⟩

end Levels

/-! ### A buffer -/

/-- **What an allocation of a buffer does**: it fails and changes nothing, or it returns
a block with room for the buffer. -/
inductive PoolResult (g : Globals) (arena : Set ℕ) (m : Mem) (L : Layout) (size : ℕ) :
    EfiStatus × Option ℕ × Mem → Prop
  | failed (status : EfiStatus) : status.isError = true →
      PoolResult g arena m L size (status, none, m)
  | allocated (e : Extent) (m' : Mem) (L' : Layout) : Moves g arena m L m' L' →
      L'.transit = e :: L.transit → LiveBlock m' e → e.base + poolHeaderSize + size ≤ e.top →
      PoolResult g arena m L size (.success, some (e.base + poolHeaderSize), m')

section Buffers

variable {g : Globals} {arena : Set ℕ} {m : Mem} {L : Layout} {size : ℕ}

/-- The pages for a size have room for it. -/
theorem efiSizeToPages_spec (size : ℕ) : size ≤ 4096 * efiSizeToPages size := by
  unfold efiSizeToPages
  split_ifs <;> omega

/-- A large buffer has pages of its own. -/
theorem allocateLargePool_spec {m' : Mem} {l' : List Block} {b : Block}
    (h : PoolInv g arena m L) (hlist : FreeList g m' l') (htaken : Taken L.blocks l' b)
    (heq : Set.EqOn m' m (listArea g L.blocks)ᶜ) :
    ∃ L', Moves g arena m L
        (setHeaderAvailable (setHeaderSize m' b.base (efiPagesToSize b.pages)) b.base false) L' ∧
      L'.transit = b.extent :: L.transit ∧
      LiveBlock (setHeaderAvailable (setHeaderSize m' b.base (efiPagesToSize b.pages)) b.base false)
        b.extent := by
  have hpos := htaken.valid.pos
  have hbound := htaken.valid.bound
  have htop : b.top = b.base + 4096 * b.pages := rfl
  have hsize : efiPagesToSize b.pages = 4096 * b.pages := by
    rw [efiPagesToSize_eq (by omega), Nat.mul_comm]
  have htake := h.takePages hlist htaken heq
  have hextent : b.extent.size = 4096 * b.pages := rfl
  have hmax : maxPoolSize = 2048 := rfl
  rw [hsize]
  refine ⟨_, htake.trans (htake.inv.writeHeader rfl (by omega)
    (set_eqOn m' b.base (4096 * b.pages) false)), rfl, ?_, .inr ⟨by omega, by omega, ?_⟩⟩
  · exact headerAt_set m' b.base false (by omega)
  · exact htaken.valid.aligned

/-- **`MmInternalAllocatePool`.** -/
theorem mmInternalAllocatePool_spec (lib : BaseLib) (h : PoolInv g arena m L)
    (poolType : EfiMemoryType) (hsize : size + poolHeaderSize < 2 ^ 64) :
    ∃ result, mmInternalAllocatePool lib g m poolType size = .ok result ∧
      PoolResult g arena m L size result := by
  have hheaderSize : poolHeaderSize = 24 := rfl
  unfold mmInternalAllocatePool
  rw [uadd_eq hsize]
  split_ifs with htype hlarge
  · exact ⟨_, rfl, .failed .invalidParameter (by decide)⟩
  · have hpages := efiSizeToPages_spec (size + poolHeaderSize)
    obtain ⟨result, hcode, hresult⟩ := @mmInternalAllocatePages_spec g m L.blocks
      (efiSizeToPages (size + poolHeaderSize)) lib h.freeList h.base_pos .allocateAnyPages
      (.inl rfl) poolType (by omega) 0 (by norm_num)
    dsimp only
    rw [hcode]
    rcases hresult with ⟨status, address, herror⟩ | ⟨address, m', l', hlist, htaken, heq⟩
    · exact ⟨_, if_pos herror, .failed status herror⟩
    · obtain ⟨L', hmoves, htransit, hlive⟩ := allocateLargePool_spec h hlist htaken heq
      refine ⟨_, if_neg success_not_error, .allocated _ _ L' hmoves htransit hlive ?_⟩
      have htop : (Block.mk address (efiSizeToPages (size + poolHeaderSize))).extent.top =
          address + 4096 * efiSizeToPages (size + poolHeaderSize) := rfl
      have hbase : (Block.mk address (efiSizeToPages (size + poolHeaderSize))).extent.base =
          address := rfl
      omega
  · obtain ⟨hindex, hfits⟩ := poolIndexOf_spec lib (by omega) (not_lt.1 hlarge)
    generalize poolIndexOf lib (size + poolHeaderSize) = index at hindex hfits ⊢
    obtain ⟨result, hcode, hresult⟩ :=
      @allocPoolLevel_spec g arena m L lib h (maxPoolIndex - index) (by omega)
    have hlevel : maxPoolIndex - (maxPoolIndex - index) = index := by omega
    rw [hlevel] at hresult
    unfold internalAllocPoolByIndex
    rw [if_pos hindex.le, hcode]
    rcases hresult with ⟨status, hdr, herror⟩ | ⟨hdr, m', L', hmoves, htransit, hheader, haligned⟩
    · exact ⟨_, if_pos herror, .failed status herror⟩
    · refine ⟨_, rfl, .allocated (poolBlock index hdr) m' L' hmoves htransit
        ⟨hheader, .inl ⟨index, hindex, rfl, haligned⟩⟩ ?_⟩
      rw [poolBlock_base, poolBlock_top]
      omega

end Buffers

end Allocation
end FfaFeature
