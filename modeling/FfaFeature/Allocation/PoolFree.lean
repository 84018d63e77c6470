/-
# Freeing a pool buffer

`MmInternalFreePool` reads the header of a buffer's block to find out where the block
came from.  The header of a live block says so (`LiveBlock`), which is why no `ASSERT`
of `MmInternalFreePool` and `InternalFreePoolByIndex` fails: `mmInternalFreePool_spec`.
-/

import FfaFeature.Allocation.PoolAlloc

namespace FfaFeature
namespace Allocation

open LinkedList

section Free

variable {g : Globals} {arena : Set ℕ} {m : Mem} {L : Layout} {t : List Extent}
  {index hdr : ℕ} {e : Extent}

/-- The checks of `InternalFreePoolByIndex` hold of a block of a class. -/
theorem classSize_checks (haligned : hdr % classSize index = 0)
    (hindex : index < maxPoolIndex) :
    classSize index &&& usub (classSize index) 1 = 0 ∧ hdr &&& usub (classSize index) 1 = 0 := by
  have hge := classSize_ge index
  have hle := classSize_le_page hindex.le
  have hsub : usub (classSize index) 1 = classSize index - 1 := usub_eq (by omega) (by omega)
  rw [hsub, classSize_pow, Nat.and_two_pow_sub_one_eq_mod, Nat.and_two_pow_sub_one_eq_mod,
    ← classSize_pow]
  exact ⟨Nat.mod_self _, haligned⟩

/-- And its size tells the list it belongs on. -/
theorem poolIndex_classSize (lib : BaseLib) (hindex : index < maxPoolIndex) :
    toUintn (lib.highBitSet32 (classSize index % 2 ^ 32) - minPoolShift) = index := by
  have hlt : index < 6 := hindex
  have hle := classSize_le_page hindex.le
  have hbit : lib.highBitSet32 (classSize index) = (6 + index : ℕ) := by
    refine lib.highBitSet32_eq (by omega) (classSize_pow index).ge ?_
    rw [classSize_pow]
    exact Nat.pow_lt_pow_right (by norm_num) (by omega)
  have hshift : minPoolShift = 6 := rfl
  rw [Nat.mod_eq_of_lt (by omega), hbit, hshift]
  unfold toUintn
  omega

/-- **A block of a class goes back on its list.** -/
theorem internalFreePoolByIndex_spec (lib : BaseLib) (h : PoolInv g arena m L)
    (ht : L.transit = poolBlock index hdr :: t) (hindex : index < maxPoolIndex)
    (hsize : headerSize m hdr = classSize index) (haligned : hdr % classSize index = 0) :
    ∃ m' L', internalFreePoolByIndex lib g m hdr = .ok (.success, m') ∧
      Moves g arena m L m' L' ∧ L'.transit = t := by
  have hge := classSize_ge index
  have hmin : minPoolSize = 64 := rfl
  obtain ⟨hpower, haddress⟩ := classSize_checks haligned hindex
  have havailable : HeaderAt (setHeaderAvailable m hdr true) hdr (classSize index) true :=
    hsize ▸ headerAt_setHeaderAvailable m hdr true
  have hwrite : Moves g arena m L (setHeaderAvailable m hdr true) L := by
    refine h.writeHeader ht hge (Mem.eqOn_mono (setHeaderAvailable_eqOn m hdr true) ?_)
    rw [poolBlock_base]
    exact Set.singleton_subset_iff.2 ⟨by omega, by omega⟩
  have hpush := hwrite.inv.push lib ht hindex havailable haligned
  refine ⟨_, _, ?_, hwrite.trans hpush, rfl⟩
  unfold internalFreePoolByIndex
  dsimp only
  rw [hsize, poolIndex_classSize lib hindex, if_neg (not_not.2 hpower),
    if_neg (not_not.2 haddress), if_neg (by omega), if_neg (not_le.2 hindex)]

/-- **`MmInternalFreePool` of a live block**: no `ASSERT` fails, and the block goes back
to where it came from. -/
theorem mmInternalFreePool_spec (lib : BaseLib) (h : PoolInv g arena m L)
    (ht : L.transit = e :: t) (he : LiveBlock m e) :
    ∃ m' L', mmInternalFreePool lib g m (e.base + poolHeaderSize) = .ok (.success, m') ∧
      Moves g arena m L m' L' ∧ L'.transit = t := by
  have hge := he.placed.size_ge
  have hheaderSize : poolHeaderSize = 24 := rfl
  have hmax : maxPoolSize = 2048 := rfl
  have htop : e.top = e.base + e.size := rfl
  have hmem : e ∈ L.extents := by
    unfold Layout.extents
    rw [ht]
    exact List.mem_append_left _ List.mem_cons_self
  obtain ⟨-, hbound⟩ := h.bounds hmem (by omega)
  have hback : usub (e.base + poolHeaderSize) poolHeaderSize = e.base := by
    rw [usub_eq (by omega) (by omega)]
    omega
  have hlive : ¬headerAvailable m e.base = true := by
    rw [he.header.available]
    exact Bool.false_ne_true
  unfold mmInternalFreePool
  dsimp only
  rw [if_neg (by omega), hback, if_neg hlive, he.header.size]
  rcases he.placed with ⟨index, hindex, hsize, haligned⟩ | ⟨hlarge, hpages, haligned⟩
  · -- a block of a class
    have hsmall := classSize_le hindex
    have he_eq : e = poolBlock index e.base := Extent.ext rfl hsize
    rw [he_eq] at ht
    rw [if_neg (by omega)]
    exact internalFreePoolByIndex_spec lib h ht hindex (he.header.size.trans hsize) haligned
  · -- pages of its own
    have hnumber : efiSizeToPages e.size = e.size / 4096 := by
      unfold efiSizeToPages
      rw [if_pos hpages, Nat.add_zero]
    have he_eq : e = (Block.mk e.base (e.size / 4096)).extent := by
      refine Extent.ext rfl ?_
      unfold Block.extent
      dsimp only
      omega
    have hb : (Block.mk e.base (e.size / 4096)).Valid := by
      refine ⟨haligned, ?_, ?_⟩
      · dsimp only
        omega
      · unfold Block.top
        dsimp only
        omega
    rw [he_eq] at ht
    obtain ⟨m', l', hcode, hgive⟩ := h.givePages lib ht hb
    rw [if_pos hlarge, if_neg (not_not.2 haligned), if_neg (not_not.2 hpages), hnumber]
    exact ⟨m', _, hcode, hgive, rfl⟩

end Free

end Allocation
end FfaFeature
