/-
# Sizes of pool buffers

`MmInternalAllocatePool` for every size a `UINTN` has.  `Size += sizeof (POOL_HEADER)` is
computed in 64 bits: for the last 24 sizes it wraps around.  For the first of these the sum is
zero, and the class computed from it fails an `ASSERT`; for the others the request is served as
one of less than a header, and returns a block of 64 bytes, unless there is none to return.

`mmInternalAllocatePool_served_iff` says so: a request is served as it should be
(`PoolServed`) exactly when the sum does not wrap around, or the request fails anyway.  Whether
a request for the smallest class fails is decided by what is available
(`allocPoolLevel_isError_iff`).
-/

import FfaFeature.Allocation.PoolAlloc
import FfaFeature.Allocation.PageRequests

namespace FfaFeature
namespace Allocation

open LinkedList

/-- **What a request for a buffer should do**: return an address that is aligned and has room
for the size in front of the end of its block, or fail and leave the memory as it was. -/
def PoolServed (lib : BaseLib) (g : Globals) (m : Mem) (poolType : EfiMemoryType)
    (size : ℕ) : Prop :=
  ∃ status buffer m', mmInternalAllocatePool lib g m poolType size = .ok (status, buffer, m') ∧
    ((status.isError = true ∧ buffer = none ∧ m' = m) ∨
      ∃ address, status = .success ∧ buffer = some address ∧ address % 8 = 0 ∧
        poolHeaderSize ≤ address ∧ size + poolHeaderSize ≤ headerSize m' (address - poolHeaderSize))

/-- No block is available, and no page is free. -/
def NothingFree (g : Globals) (m : Mem) : Prop :=
  (∀ index < maxPoolIndex, IsList m (poolList g index) []) ∧ IsList m g.mMmMemoryMap []

section Levels

variable {g : Globals} {arena : Set ℕ} {m m' : Mem} {L : Layout} {levels hdr : ℕ}
  {status : EfiStatus}

/-- In a layout. -/
theorem PoolInv.nothingFree_iff (h : PoolInv g arena m L) :
    NothingFree g m ↔ (∀ index < maxPoolIndex, L.lists index = []) ∧ L.blocks = [] := by
  constructor
  · rintro ⟨hlists, hblocks⟩
    refine ⟨fun index hindex => ?_, h.freeList.linked.unique (freeList_nil hblocks).linked⟩
    exact List.map_eq_nil_iff.1 ((h.lists index hindex).list.unique (hlists index hindex))
  · rintro ⟨hlists, hblocks⟩
    refine ⟨fun index hindex => ?_, ?_⟩
    · have hlist := (h.lists index hindex).list
      rwa [hlists index hindex] at hlist
    · have hlist := h.freeList.linked.list
      rwa [hblocks] at hlist

/-- A page is found unless there is none. -/
theorem allocatePage_isError_iff (lib : BaseLib) (h : PoolInv g arena m L)
    {result : EfiStatus × ℕ × Mem}
    (hcode : mmInternalAllocatePages lib g m .allocateAnyPages .efiRuntimeServicesData 1 0 =
      .ok result) : result.1.isError = true ↔ L.blocks = [] := by
  obtain ⟨status, address, m', hrun, hsuccess, -⟩ := @allocatesRun_max g m L.blocks 1 0 lib
    .allocateAnyPages .efiRuntimeServicesData h.freeList h.coalesced h.base_pos rfl le_rfl
    (by norm_num) (2 ^ 64 - 1) (by norm_num) (.inl ⟨rfl, rfl⟩)
  obtain ⟨result', hspec, hresult⟩ := @mmInternalAllocatePages_spec g m L.blocks 1 lib h.freeList
    h.base_pos .allocateAnyPages (.inl rfl) .efiRuntimeServicesData le_rfl 0 (by norm_num)
  obtain rfl := Except.ok.inj (hcode.symm.trans hspec)
  obtain rfl := Except.ok.inj (hcode.symm.trans hrun)
  have hserves : (Serves L.blocks .allocateAnyPages 1 0).Nonempty ↔ L.blocks ≠ [] := by
    constructor
    · rintro ⟨a, -, hfree⟩ hnil
      obtain ⟨b, hb, -⟩ := hfree.exists_block h.coalesced le_rfl
      rw [hnil] at hb
      exact absurd hb List.not_mem_nil
    · intro hne
      obtain ⟨b, hb⟩ := List.exists_mem_of_ne_nil _ hne
      have hvalid := h.freeList.valid b hb
      have hpos := hvalid.pos
      refine ⟨b.base, trivial, freeRun_of_block hb hvalid.aligned le_rfl ?_⟩
      unfold Block.top
      omega
  have herror : status.isError = true ↔ status ≠ .success := by
    rcases hresult with ⟨status, address, herror⟩ | ⟨address, m', l'⟩
    · exact iff_of_true herror fun hs => success_not_error (hs ▸ herror)
    · exact iff_of_false success_not_error (not_not.2 rfl)
  have hruntime : EfiMemoryType.efiRuntimeServicesData.isRuntimeServices = true := rfl
  rw [herror, ne_eq, hsuccess, and_iff_right hruntime, hserves, not_not]

/-- **A request for a block of a class fails exactly when** no block of it or of a larger one is
available, and no page is free. -/
theorem allocPoolLevel_isError_iff (lib : BaseLib) (h : PoolInv g arena m L)
    (hlevels : levels ≤ maxPoolIndex)
    (hcode : allocPoolLevel lib g m levels = .ok (status, hdr, m')) :
    status.isError = true ↔
      (∀ index < maxPoolIndex, maxPoolIndex - levels ≤ index → L.lists index = []) ∧
        L.blocks = [] := by
  induction levels generalizing status hdr m' with
  | zero =>
    obtain ⟨⟨status₁, address, m₁⟩, hpages, -⟩ := @mmInternalAllocatePages_spec g m L.blocks 1 lib
      h.freeList h.base_pos .allocateAnyPages (.inl rfl) .efiRuntimeServicesData le_rfl 0
      (by norm_num)
    have hiff := allocatePage_isError_iff lib h hpages
    have hnone : ∀ index < maxPoolIndex, maxPoolIndex - 0 ≤ index → L.lists index = [] :=
      fun index hindex hle => absurd hle (by omega)
    have hsize : efiSizeToPages (maxPoolSize <<< 1) = 1 := rfl
    unfold allocPoolLevel at hcode
    rw [hsize, hpages, ok_bind] at hcode
    dsimp only at hcode hiff
    rw [and_iff_right hnone, ← hiff]
    by_cases herror : status₁.isError = true
    · rw [if_pos herror] at hcode
      obtain ⟨rfl, -⟩ := Prod.mk.inj (Except.ok.inj hcode)
      exact iff_of_true (by decide) herror
    · rw [if_neg herror] at hcode
      obtain ⟨rfl, -⟩ := Prod.mk.inj (Except.ok.inj hcode)
      exact Iff.rfl
  | succ levels ih =>
    generalize hi : maxPoolIndex - (levels + 1) = index
    have hindex : index < maxPoolIndex := by omega
    -- the classes from this one on are this one and those above it
    have hsplit : (∀ i < maxPoolIndex, index ≤ i → L.lists i = []) ↔
        L.lists index = [] ∧ ∀ i < maxPoolIndex, maxPoolIndex - levels ≤ i → L.lists i = [] := by
      constructor
      · exact fun hall => ⟨hall index hindex le_rfl, fun i hlt hle => hall i hlt (by omega)⟩
      · rintro ⟨hfirst, hrest⟩ i hlt hle
        rcases Nat.eq_or_lt_of_le hle with rfl | hgt
        · exact hfirst
        · exact hrest i hlt (by omega)
    have hempty := lib.isListEmpty_iff (h.lists index hindex).list
    rw [List.map_eq_nil_iff] at hempty
    unfold allocPoolLevel at hcode
    dsimp only at hcode
    rw [hi] at hcode
    rw [hsplit]
    by_cases hnil : L.lists index = []
    · obtain ⟨⟨status₁, hdr₁, m₁⟩, hlevel, -⟩ :=
        @allocPoolLevel_spec g arena m L lib h levels (by omega)
      rw [if_pos (hempty.2 hnil), hlevel, ok_bind] at hcode
      dsimp only at hcode
      have hstatus : status₁ = status := by
        split_ifs at hcode
        all_goals exact (Prod.mk.inj (Except.ok.inj hcode)).1
      rw [and_iff_right hnil, ← ih (by omega) hlevel, hstatus]
    · rw [if_neg (hempty.not.2 hnil)] at hcode
      obtain ⟨rfl, -⟩ := Prod.mk.inj (Except.ok.inj hcode)
      exact iff_of_false success_not_error fun hbad => hnil hbad.1.1

end Levels

section Sizes

variable {g : Globals} {arena : Set ℕ} {m m' : Mem} {L : Layout} {size index hdr : ℕ}
  {status : EfiStatus} {poolType : EfiMemoryType}

/-! ### The smallest buffers -/

/-- Up to 64 bytes are a block of the first class. -/
theorem poolIndexOf_first (lib : BaseLib) (hpos : 0 < size) (hle : size ≤ 64) :
    poolIndexOf lib size = 0 := by
  have hmin : minPoolSize - 1 = 63 := rfl
  have hshift : uadd size (minPoolSize - 1) >>> minPoolShift = 1 := by
    rw [Nat.shiftRight_eq_div_pow, hmin, uadd_eq (by omega)]
    unfold minPoolShift
    omega
  have hbit : lib.highBitSet32 1 = 0 :=
    lib.highBitSet32_eq (k := 0) (by norm_num) le_rfl (by norm_num)
  unfold poolIndexOf
  rw [hshift]
  dsimp only
  rw [if_neg (by decide), Nat.mod_eq_of_lt (by norm_num), hbit]
  rfl

/-- No bytes at all are a block of no class. -/
theorem poolIndexOf_zero (lib : BaseLib) (hzero : lib.highBitSet32 0 = -1) :
    poolIndexOf lib 0 = 2 ^ 64 - 1 := by
  have hmin : minPoolSize - 1 = 63 := rfl
  have hshift : uadd 0 (minPoolSize - 1) >>> minPoolShift = 0 := by
    rw [hmin, uadd_eq (by omega)]
    rfl
  unfold poolIndexOf
  rw [hshift]
  dsimp only
  rw [if_neg (not_not.2 (Nat.zero_and _)), Nat.zero_mod, hzero]
  rfl

/-- A class of blocks. -/
theorem internalAllocPoolByIndex_spec (lib : BaseLib) (h : PoolInv g arena m L)
    (hindex : index < maxPoolIndex) :
    ∃ result, internalAllocPoolByIndex lib g m index = .ok result ∧
      LevelResult g arena m L index result ∧
      (result.1.isError = true ↔
        (∀ i < maxPoolIndex, index ≤ i → L.lists i = []) ∧ L.blocks = []) := by
  obtain ⟨⟨status, hdr, m'⟩, hcode, hresult⟩ :=
    @allocPoolLevel_spec g arena m L lib h (maxPoolIndex - index) (by omega)
  have hiff := allocPoolLevel_isError_iff lib h (by omega) hcode
  have hlevel : maxPoolIndex - (maxPoolIndex - index) = index := by omega
  rw [hlevel] at hresult hiff
  refine ⟨_, ?_, hresult, hiff⟩
  unfold internalAllocPoolByIndex
  rw [if_pos hindex.le, hcode]

/-- A buffer that is no larger than the blocks of the classes. -/
theorem mmInternalAllocatePool_class (lib : BaseLib) (hruntime : poolType.isRuntimeServices = true)
    (hsize : uadd size poolHeaderSize ≤ maxPoolSize)
    (hcode : internalAllocPoolByIndex lib g m (poolIndexOf lib (uadd size poolHeaderSize)) =
      .ok (status, hdr, m')) :
    mmInternalAllocatePool lib g m poolType size =
      .ok (status, if status.isError then none else some (hdr + poolHeaderSize), m') := by
  unfold mmInternalAllocatePool
  rw [if_neg (by simp [hruntime]), if_neg (not_lt.2 hsize), hcode, ok_bind]
  dsimp only
  split_ifs <;> rfl

/-! ### Where the sum wraps around -/

/-- **The last sizes but the first of them** get a block of the first class. -/
theorem mmInternalAllocatePool_wrapped (lib : BaseLib) (h : PoolInv g arena m L)
    (hruntime : poolType.isRuntimeServices = true) (hlt : size < 2 ^ 64)
    (hwrap : 2 ^ 64 < size + poolHeaderSize) :
    ∃ result, mmInternalAllocatePool lib g m poolType size = .ok result ∧
      PoolResult g arena m L 0 result ∧ (result.1.isError = true ↔ NothingFree g m) ∧
      (result.1 = .success → ∀ address, result.2.1 = some address →
        headerSize result.2.2 (address - poolHeaderSize) = 64) := by
  have hheader : poolHeaderSize = 24 := rfl
  have hmax : maxPoolSize = 2048 := rfl
  have htotal : uadd size poolHeaderSize = size + poolHeaderSize - 2 ^ 64 := by
    unfold uadd
    omega
  obtain ⟨⟨status, hdr, m'⟩, hcode, hresult, hiff⟩ :=
    @internalAllocPoolByIndex_spec g arena m L 0 lib h (by decide)
  have hindex := @poolIndexOf_first (size + poolHeaderSize - 2 ^ 64) lib (by omega) (by omega)
  have hcode' := @mmInternalAllocatePool_class g m m' size hdr status poolType lib hruntime
    (by omega) (by rw [htotal, hindex, hcode])
  have hnothing : status.isError = true ↔ NothingFree g m := by
    rw [h.nothingFree_iff, hiff]
    simp
  refine ⟨_, hcode', ?_⟩
  dsimp only
  rcases hresult with ⟨status, hdr, herror⟩ | ⟨hdr, m', L', hmoves, htransit, hheader', haligned⟩
  · rw [if_pos herror]
    refine ⟨.failed status herror, hnothing, ?_⟩
    rintro rfl
    exact absurd herror success_not_error
  · rw [if_neg success_not_error]
    have hclass : classSize 0 = 64 := rfl
    refine ⟨.allocated (poolBlock 0 hdr) m' L' hmoves htransit
      ⟨hheader', .inl ⟨0, by decide, rfl, haligned⟩⟩ ?_, hnothing, ?_⟩
    · rw [poolBlock_base, poolBlock_top]
      omega
    · rintro - address hsome
      obtain rfl := Option.some.inj hsome
      rw [Nat.add_sub_cancel, hheader'.size]
      rfl

/-- **The first of them** fails an `ASSERT`. -/
theorem mmInternalAllocatePool_zero (lib : BaseLib) (hzero : lib.highBitSet32 0 = -1)
    (hruntime : poolType.isRuntimeServices = true) (hsize : size + poolHeaderSize = 2 ^ 64) :
    mmInternalAllocatePool lib g m poolType size = .error .assertion := by
  have htotal : uadd size poolHeaderSize = 0 := by
    rw [uadd, hsize, Nat.mod_self]
  have hindex : ¬ 2 ^ 64 - 1 ≤ maxPoolIndex := by decide
  unfold mmInternalAllocatePool internalAllocPoolByIndex
  rw [if_neg (by simp [hruntime]), htotal, if_neg (by decide), poolIndexOf_zero lib hzero,
    if_neg hindex]
  rfl

/-! ### Every size -/

/-- The block of a buffer is aligned. -/
theorem Placed.base_mod {e : Extent} (h : Placed e) : e.base % 8 = 0 := by
  rcases h with ⟨index, -, -, haligned⟩ | ⟨-, -, haligned⟩
  · rw [classSize_eq] at haligned
    obtain ⟨k, hk⟩ := Nat.dvd_of_mod_eq_zero haligned
    rw [hk, Nat.mul_assoc, Nat.mul_mod]
    simp
  · omega

/-- What returns a block with room for the size serves the request. -/
theorem PoolResult.served {lib : BaseLib} {result : EfiStatus × Option ℕ × Mem}
    (h : PoolResult g arena m L size result)
    (hcode : mmInternalAllocatePool lib g m poolType size = .ok result) :
    PoolServed lib g m poolType size := by
  have hheader : poolHeaderSize = 24 := rfl
  rcases h with ⟨status, herror⟩ | ⟨e, m', L', -, -, hlive, hroom⟩
  · exact ⟨status, none, m, hcode, .inl ⟨herror, rfl, rfl⟩⟩
  · have hbase := hlive.placed.base_mod
    have htop : e.top = e.base + e.size := rfl
    refine ⟨.success, _, m', hcode,
      .inr ⟨e.base + poolHeaderSize, rfl, rfl, by omega, by omega, ?_⟩⟩
    rw [Nat.add_sub_cancel, hlive.header.size]
    omega

/-- **`MmInternalAllocatePool` serves a request exactly when** the size with its header is a
`UINTN`, or the request fails: for its type, or because there is nothing to return. -/
theorem mmInternalAllocatePool_served_iff (lib : BaseLib) (hzero : lib.highBitSet32 0 = -1)
    (h : PoolInv g arena m L) (poolType : EfiMemoryType) (hlt : size < 2 ^ 64) :
    PoolServed lib g m poolType size ↔
      poolType.isRuntimeServices = false ∨ size + poolHeaderSize < 2 ^ 64 ∨
        (size + poolHeaderSize ≠ 2 ^ 64 ∧ NothingFree g m) := by
  by_cases hruntime : poolType.isRuntimeServices = true
  · have hno : poolType.isRuntimeServices ≠ false := by simp [hruntime]
    rcases lt_trichotomy (size + poolHeaderSize) (2 ^ 64) with hfits | heq | hwrap
    · obtain ⟨result, hcode, hresult⟩ := mmInternalAllocatePool_spec lib h poolType hfits
      exact iff_of_true (hresult.served hcode) (.inr (.inl hfits))
    · refine iff_of_false ?_ fun hor => ?_
      · rintro ⟨status, buffer, m', hcode, -⟩
        rw [mmInternalAllocatePool_zero lib hzero hruntime heq] at hcode
        cases hcode
      · rcases hor with hbad | hbad | hbad
        · exact hno hbad
        · omega
        · exact hbad.1 heq
    · obtain ⟨⟨status, buffer, m'⟩, hcode, hresult, hiff, hsize⟩ :=
        mmInternalAllocatePool_wrapped lib h hruntime hlt hwrap
      have hright : (poolType.isRuntimeServices = false ∨ size + poolHeaderSize < 2 ^ 64 ∨
          (size + poolHeaderSize ≠ 2 ^ 64 ∧ NothingFree g m)) ↔ NothingFree g m :=
        ⟨fun hor => ((hor.resolve_left hno).resolve_left (by omega)).2,
          fun hnothing => .inr (.inr ⟨by omega, hnothing⟩)⟩
      rw [hright, ← hiff]
      constructor
      · rintro ⟨status', buffer', m'', hcode', hcase⟩
        obtain ⟨rfl, hrest⟩ := Prod.mk.inj (Except.ok.inj (hcode.symm.trans hcode'))
        obtain ⟨rfl, rfl⟩ := Prod.mk.inj hrest
        rcases hcase with ⟨herror, -⟩ | ⟨address, hstatus, hbuffer, -, -, hroom⟩
        · exact herror
        · rw [hsize hstatus address hbuffer] at hroom
          omega
      · intro herror
        rcases hresult with ⟨status, herror⟩ | _
        · exact ⟨status, none, m, hcode, .inl ⟨herror, rfl, rfl⟩⟩
        · exact absurd herror success_not_error
  · have hno : poolType.isRuntimeServices = false := by simpa using hruntime
    refine iff_of_true ⟨.invalidParameter, none, m, if_pos hno, .inl ⟨by decide, rfl, rfl⟩⟩
      (.inl hno)

/-- Whatever the size, a buffer that is returned has a block, and a call that fails or faults
changes nothing. -/
theorem mmInternalAllocatePool_any (lib : BaseLib) (hzero : lib.highBitSet32 0 = -1)
    (h : PoolInv g arena m L) (poolType : EfiMemoryType) (hlt : size < 2 ^ 64) :
    mmInternalAllocatePool lib g m poolType size = .error .assertion ∨
      ∃ result, mmInternalAllocatePool lib g m poolType size = .ok result ∧
        PoolResult g arena m L 0 result := by
  by_cases hruntime : poolType.isRuntimeServices = true
  · rcases lt_trichotomy (size + poolHeaderSize) (2 ^ 64) with hfits | heq | hwrap
    · obtain ⟨result, hcode, hresult⟩ := mmInternalAllocatePool_spec lib h poolType hfits
      refine .inr ⟨result, hcode, ?_⟩
      rcases hresult with ⟨status, herror⟩ | ⟨e, m', L', hmoves, htransit, hlive, hroom⟩
      · exact .failed status herror
      · exact .allocated e m' L' hmoves htransit hlive (by omega)
    · exact .inl (mmInternalAllocatePool_zero lib hzero hruntime heq)
    · obtain ⟨result, hcode, hresult, -⟩ := mmInternalAllocatePool_wrapped lib h hruntime hlt hwrap
      exact .inr ⟨result, hcode, hresult⟩
  · exact .inr ⟨_, if_pos (by simpa using hruntime), .failed .invalidParameter (by decide)⟩

end Sizes

end Allocation
end FfaFeature
