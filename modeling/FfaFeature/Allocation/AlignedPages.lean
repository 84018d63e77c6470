/-
# Aligned pages

`InternalAllocateAlignedPages` of `SecurePartitionMemoryAllocationLib.c`.  For an alignment
above a page it allocates as many pages more as the alignment has, rounds the address up with a
mask and frees what is left in front of the aligned pages and behind them.

The rounded address is less than the alignment away (`alignUp_spec`), so the pages in front and
those behind make up the pages allocated in excess, and the two calls of `MmFreePages` give back
exactly these (`internalAllocateAlignedPages_spec`).
-/

import FfaFeature.Allocation.PageFree
import Mathlib.Order.CompletePartialOrder

namespace FfaFeature
namespace Allocation

open LinkedList

section Functions

variable (lib : BaseLib) (g : Globals)

/-- The release of unaligned pages: nothing where there are none, and an `ASSERT` on the status
of `MmFreePages`. -/
def freeUnalignedPages (m : Mem) (memory unalignedPages : ℕ) : Except Fault Mem :=
  if unalignedPages > 0 then do
    let (status, m) ← mmFreePages lib g m memory unalignedPages
    if status.isError then .error .assertion else pure m
  else .ok m

/-- `InternalAllocateAlignedPages`: the address, or `none` for the null pointer, and the memory.
`Memory` is not set before the call of `MmAllocatePages`, which does not read it for this
type. -/
def internalAllocateAlignedPages (m : Mem) (memoryType : EfiMemoryType) (pages alignment : ℕ) :
    Except Fault (Option ℕ × Mem) :=
  if alignment &&& usub alignment 1 ≠ 0 then .error .assertion
  else if pages = 0 then .ok (none, m)
  else if alignment > 4096 then
    let alignmentMask := usub alignment 1
    let realPages := uadd pages (efiSizeToPages alignment)
    if ¬ realPages > pages then .error .assertion
    else do
      let (status, memory, m) ←
        mmAllocatePages lib g m .allocateAnyPages memoryType realPages 0
      if status.isError then pure (none, m)
      else do
        let alignedMemory := uadd memory alignmentMask &&& (2 ^ 64 - 1 - alignmentMask)
        let unalignedPages := efiSizeToPages (usub alignedMemory memory)
        -- the first unaligned pages
        let m ← freeUnalignedPages lib g m memory unalignedPages
        let memory := uadd alignedMemory (efiPagesToSize pages)
        let unalignedPages := usub (usub realPages pages) unalignedPages
        -- and the last ones
        let m ← freeUnalignedPages lib g m memory unalignedPages
        pure (some alignedMemory, m)
  else do
    let (status, memory, m) ← mmAllocatePages lib g m .allocateAnyPages memoryType pages 0
    if status.isError then pure (none, m) else pure (some memory, m)

end Functions

/-! ### Alignments -/

/-- Zero, or a power of two of a `UINTN`. -/
def IsAlignment (alignment : ℕ) : Prop := alignment = 0 ∨ ∃ k < 64, alignment = 2 ^ k

/-- Such an alignment passes the first `ASSERT`. -/
theorem IsAlignment.and_eq_zero {alignment : ℕ} (h : IsAlignment alignment) :
    alignment &&& usub alignment 1 = 0 := by
  rcases h with rfl | ⟨k, hk, rfl⟩
  · exact Nat.zero_and _
  · have hpos : 1 ≤ 2 ^ k := Nat.one_le_two_pow
    have hlt : 2 ^ k < 2 ^ 64 := Nat.pow_lt_pow_right (by norm_num) hk
    rw [usub_eq hpos hlt, Nat.and_two_pow_sub_one_eq_mod, Nat.mod_self]

/-- And nothing else does. -/
theorem isAlignment_of_and_eq_zero {alignment : ℕ} (hlt : alignment < 2 ^ 64)
    (h : alignment &&& usub alignment 1 = 0) : IsAlignment alignment := by
  rcases Nat.eq_zero_or_pos alignment with rfl | hpos
  · exact .inl rfl
  · rw [usub_eq hpos hlt] at h
    obtain ⟨k, hk⟩ := (Nat.and_sub_one_eq_zero_iff_isPowerOfTwo hpos.ne').1 h
    rw [hk] at hlt
    exact .inr ⟨k, (Nat.pow_lt_pow_iff_right (by norm_num)).1 hlt, hk⟩

/-- A mask without its low bits clears these bits. -/
theorem and_two_pow_sub_two_pow {x k : ℕ} (hx : x < 2 ^ 64) (hk : k < 64) :
    x &&& (2 ^ 64 - 2 ^ k) = x / 2 ^ k * 2 ^ k := by
  have hmask : 2 ^ 64 - 2 ^ k = 2 ^ k * (2 ^ (64 - k) - 1) := by
    rw [Nat.mul_sub, ← Nat.pow_add, Nat.mul_one, Nat.add_sub_cancel' hk.le]
  refine Nat.eq_of_testBit_eq fun i => ?_
  rw [hmask, Nat.testBit_and, Nat.testBit_two_pow_mul, Nat.mul_comm (x / 2 ^ k),
    Nat.testBit_two_pow_mul, Nat.testBit_two_pow_sub_one, Nat.testBit_div_two_pow]
  by_cases hi : k ≤ i
  · rw [Nat.sub_add_cancel hi]
    by_cases h64 : i < 64
    · simp [hi, show i - k < 64 - k by omega]
    · have hbit : x.testBit i = false :=
        Nat.testBit_lt_two_pow (lt_of_lt_of_le hx (Nat.pow_le_pow_right (by norm_num) (by omega)))
      simp [hbit]
  · simp [hi]

/-- **The rounded address**: aligned, and less than the alignment above the one it was
rounded up from. -/
theorem alignUp_spec {memory k : ℕ} (hk : k < 64) (hbound : memory + 2 ^ k < 2 ^ 64) :
    ∃ offset, uadd memory (usub (2 ^ k) 1) &&& (2 ^ 64 - 1 - usub (2 ^ k) 1) = memory + offset ∧
      offset < 2 ^ k ∧ (memory + offset) % 2 ^ k = 0 := by
  have hpos : 1 ≤ 2 ^ k := Nat.one_le_two_pow
  have hmask : usub (2 ^ k) 1 = 2 ^ k - 1 := usub_eq hpos (by omega)
  have hclear : 2 ^ 64 - 1 - (2 ^ k - 1) = 2 ^ 64 - 2 ^ k := by omega
  rw [hmask, hclear, uadd_eq (by omega), and_two_pow_sub_two_pow (by omega) hk]
  have hdiv := Nat.div_add_mod (memory + (2 ^ k - 1)) (2 ^ k)
  have hmod := Nat.mod_lt (memory + (2 ^ k - 1)) hpos
  rw [Nat.mul_comm] at hdiv
  refine ⟨(memory + (2 ^ k - 1)) / 2 ^ k * 2 ^ k - memory, by omega, by omega, ?_⟩
  rw [Nat.add_sub_cancel' (by omega), Nat.mul_mod_left]

/-! ### The pages in excess -/

section Excess

variable {g : Globals} {m m' : Mem} {l l' : List Block} {x hole hole' : Block}

/-- The hole an allocation has left is `x` and `hole'`, side by side. -/
structure SplitsHole (hole x hole' : Block) : Prop where
  aligned : x.base % 4096 = 0
  valid : hole'.Valid
  addrs : hole.addrs = x.addrs ∪ hole'.addrs
  disjoint : Disjoint x.addrs hole'.addrs

/-- Pages at the front of a hole. -/
theorem splitsHole_front {base front pages : ℕ} (h : (Block.mk base (front + pages)).Valid)
    (hpages : 1 ≤ pages) :
    SplitsHole ⟨base, front + pages⟩ ⟨base, front⟩ ⟨base + 4096 * front, pages⟩ := by
  have haligned := h.aligned
  have hbound := h.bound
  simp only [Block.top] at haligned hbound
  refine ⟨haligned, ⟨?_, hpages, ?_⟩, ?_, ?_⟩
  · dsimp only
    omega
  · simp only [Block.top]
    omega
  · ext a
    simp only [Block.addrs, Block.top, Set.mem_union, Set.mem_Ico]
    omega
  · exact Set.disjoint_left.2 fun a ha hb => absurd hb.1 (not_le.2 ha.2)

/-- And at its end. -/
theorem splitsHole_back {base pages back : ℕ} (h : (Block.mk base (pages + back)).Valid)
    (hpages : 1 ≤ pages) :
    SplitsHole ⟨base, pages + back⟩ ⟨base + 4096 * pages, back⟩ ⟨base, pages⟩ := by
  have haligned := h.aligned
  have hbound := h.bound
  simp only [Block.top] at haligned hbound
  refine ⟨?_, ⟨haligned, hpages, ?_⟩, ?_, ?_⟩
  · dsimp only
    omega
  · simp only [Block.top]
    omega
  · ext a
    simp only [Block.addrs, Block.top, Set.mem_union, Set.mem_Ico]
    omega
  · exact Set.disjoint_left.2 fun a ha hb => absurd ha.1 (not_le.2 hb.2)

/-- **Part of a hole is given back**, and the call succeeds. -/
theorem freeUnalignedPages_spec (lib : BaseLib) (h : FreeList g m l) (hlist : FreeList g m' l')
    (htaken : Taken l l' hole) (hsplit : SplitsHole hole x hole') :
    ∃ m'' l'', freeUnalignedPages lib g m' x.base x.pages = .ok m'' ∧ FreeList g m'' l'' ∧
      Taken l l'' hole' ∧ Set.EqOn m'' m' (listArea g l)ᶜ := by
  have hhole : hole.addrs ⊆ blockAddrs l := htaken.addrs ▸ Set.subset_union_right
  have hsub : x.addrs ⊆ hole.addrs := hsplit.addrs ▸ Set.subset_union_left
  have hsub' : hole'.addrs ⊆ hole.addrs := hsplit.addrs ▸ Set.subset_union_right
  -- the list afterwards, whether or not there was anything to free
  have hafter : ∀ {k : List Block}, blockAddrs k = blockAddrs l' ∪ x.addrs →
      (Coalesced l' → Coalesced k) → Taken l k hole' := by
    intro k haddrs hco
    refine ⟨hsplit.valid, ?_, ?_, fun hl => hco (htaken.coalesced hl)⟩
    · rw [haddrs, Set.union_assoc, ← hsplit.addrs, htaken.addrs]
    · rw [haddrs]
      exact Set.disjoint_union_left.2 ⟨htaken.disjoint.mono_right hsub', hsplit.disjoint⟩
  unfold freeUnalignedPages
  split_ifs with hpos
  · have hx : x.Valid := by
      have hle : x.base ≤ x.top - 1 := by
        unfold Block.top
        omega
      have hlast : x.top - 1 ∈ hole.addrs := hsub ⟨hle, by unfold Block.top; omega⟩
      have hlt := hlast.2
      have hbound := htaken.valid.bound
      exact ⟨hsplit.aligned, hpos, by omega⟩
    obtain ⟨m'', l'', hcode, hlist', haddrs, hco, heq⟩ := mmInternalFreePages_spec lib hlist hx
      (h.apart.mono_left (hsub.trans hhole)) (htaken.disjoint.mono_right hsub)
    refine ⟨m'', l'', ?_, hlist', hafter haddrs hco, Mem.eqOn_mono heq ?_⟩
    · unfold mmFreePages
      rw [hcode]
      rfl
    · refine Set.union_subset_union_right _ ?_
      rw [blockAddrs_cons, ← htaken.addrs]
      exact Set.union_subset ((hsub.trans Set.subset_union_right)) Set.subset_union_left
  · have hempty : x.addrs = ∅ := by
      unfold Block.addrs Block.top
      rw [Set.Ico_eq_empty_iff]
      omega
    exact ⟨m', l', rfl, hlist, hafter (by rw [hempty, Set.union_empty]) id, Set.eqOn_refl m' _⟩

/-- **Both ends of a hole are given back**, and the pages between them stay allocated. -/
theorem freeUnalignedPages_both (lib : BaseLib) (h : FreeList g m l) (hlist : FreeList g m' l')
    {base front pages back : ℕ} (htaken : Taken l l' ⟨base, front + (pages + back)⟩)
    (hpages : 1 ≤ pages) :
    ∃ m₂ m₃ l₃, freeUnalignedPages lib g m' base front = .ok m₂ ∧
      freeUnalignedPages lib g m₂ (base + 4096 * front + 4096 * pages) back = .ok m₃ ∧
      FreeList g m₃ l₃ ∧ Taken l l₃ ⟨base + 4096 * front, pages⟩ ∧
      Set.EqOn m₃ m' (listArea g l)ᶜ := by
  have hfront := @splitsHole_front base front (pages + back) htaken.valid (by omega)
  obtain ⟨m₂, l₂, hcode₂, hlist₂, htaken₂, heq₂⟩ :=
    freeUnalignedPages_spec lib h hlist htaken hfront
  obtain ⟨m₃, l₃, hcode₃, hlist₃, htaken₃, heq₃⟩ :=
    freeUnalignedPages_spec lib h hlist₂ htaken₂ (splitsHole_back htaken₂.valid hpages)
  exact ⟨m₂, m₃, l₃, hcode₂, hcode₃, hlist₃, htaken₃, heq₃.trans heq₂⟩

end Excess

/-! ### The allocation -/

/-- **What an allocation of aligned pages does**: it returns the null pointer and changes
nothing, or takes the aligned pages it returns out of the list, and no others. -/
inductive AlignedResult (g : Globals) (m : Mem) (l : List Block) (pages alignment : ℕ) :
    Option ℕ × Mem → Prop
  | null : AlignedResult g m l pages alignment (none, m)
  | aligned (address : ℕ) (m' : Mem) (l' : List Block) : address % max alignment 4096 = 0 →
      FreeList g m' l' → Taken l l' ⟨address, pages⟩ → Set.EqOn m' m (listArea g l)ᶜ →
      AlignedResult g m l pages alignment (some address, m')

section Allocation

variable {g : Globals} {m : Mem} {l : List Block} {pages alignment : ℕ}

/-- The numbers the code computes for an alignment above a page, from the address allocated. -/
theorem alignedPages_arith {memory k : ℕ} (hk : k < 64) (hlarge : 4096 < 2 ^ k)
    (hpages : 1 ≤ pages) (hbound : pages + efiSizeToPages (2 ^ k) < 2 ^ 64)
    (hvalid : (Block.mk memory (pages + efiSizeToPages (2 ^ k))).Valid) :
    ∃ front back, front + (pages + back) = pages + efiSizeToPages (2 ^ k) ∧
      uadd memory (usub (2 ^ k) 1) &&& (2 ^ 64 - 1 - usub (2 ^ k) 1) = memory + 4096 * front ∧
      (memory + 4096 * front) % 2 ^ k = 0 ∧
      efiSizeToPages (usub (memory + 4096 * front) memory) = front ∧
      uadd (memory + 4096 * front) (efiPagesToSize pages) =
        memory + 4096 * front + 4096 * pages ∧
      usub (usub (pages + efiSizeToPages (2 ^ k)) pages) front = back := by
  obtain ⟨j, rfl⟩ : ∃ j, k = 12 + j := ⟨k - 12, by
    have hlt : 12 < k := (Nat.pow_lt_pow_iff_right (by norm_num : 1 < 2)).1 hlarge
    omega⟩
  have hpow : 2 ^ (12 + j) = 4096 * 2 ^ j := Nat.pow_add 2 12 j
  have haligned := hvalid.aligned
  have htop := hvalid.bound
  have hsize : efiSizeToPages (2 ^ (12 + j)) = 2 ^ j := by
    unfold efiSizeToPages
    rw [hpow, Nat.mul_mod_right, if_pos rfl, Nat.mul_div_cancel_left _ (by norm_num), Nat.add_zero]
  simp only [Block.top] at haligned htop
  rw [hsize] at hbound htop ⊢
  obtain ⟨offset, hup, hlt, hmod⟩ := @alignUp_spec memory (12 + j) hk (by omega)
  -- the address allocated and the rounded one are both page-aligned
  have hpage : offset % 4096 = 0 := by
    have hdvd : 4096 ∣ memory + offset :=
      (Dvd.intro _ hpow.symm).trans (Nat.dvd_of_mod_eq_zero hmod)
    omega
  obtain ⟨front, rfl⟩ := Nat.dvd_of_mod_eq_zero hpage
  refine ⟨front, 2 ^ j - front, by omega, hup, hmod, ?_, ?_, ?_⟩
  · rw [usub_eq (by omega) (by omega), Nat.add_sub_cancel_left]
    unfold efiSizeToPages
    rw [if_pos (Nat.mul_mod_right ..), Nat.mul_div_cancel_left _ (by norm_num), Nat.add_zero]
  · rw [efiPagesToSize_eq (by omega), uadd_eq (by omega), Nat.mul_comm pages]
  · have hexcess : usub (pages + 2 ^ j) pages = 2 ^ j := by
      rw [usub_eq (by omega) hbound, Nat.add_sub_cancel_left]
    rw [hexcess, usub_eq (by omega) (by omega)]

/-- **`InternalAllocateAlignedPages`.** -/
theorem internalAllocateAlignedPages_spec (lib : BaseLib) (h : FreeList g m l)
    (hlow : ∀ b ∈ l, 0 < b.base) (memoryType : EfiMemoryType) (hpages : 1 ≤ pages)
    (halignment : IsAlignment alignment)
    (hbound : 4096 < alignment → pages + efiSizeToPages alignment < 2 ^ 64) :
    ∃ result, internalAllocateAlignedPages lib g m memoryType pages alignment = .ok result ∧
      AlignedResult g m l pages alignment result := by
  unfold internalAllocateAlignedPages mmAllocatePages
  rw [if_neg (not_not.2 halignment.and_eq_zero), if_neg (by omega)]
  by_cases hlarge : alignment > 4096
  · specialize hbound hlarge
    obtain ⟨k, hk, rfl⟩ : ∃ k < 64, alignment = 2 ^ k := by
      rcases halignment with rfl | hpow
      · exact absurd hlarge (by norm_num)
      · exact hpow
    have hreal : uadd pages (efiSizeToPages (2 ^ k)) = pages + efiSizeToPages (2 ^ k) :=
      uadd_eq hbound
    have hmore : 0 < efiSizeToPages (2 ^ k) := by
      unfold efiSizeToPages
      omega
    obtain ⟨result, hcode, hresult⟩ := @mmInternalAllocatePages_spec g m l
      (pages + efiSizeToPages (2 ^ k)) lib h hlow .allocateAnyPages (.inl rfl) memoryType (by omega)
      0 (by norm_num)
    rw [if_pos hlarge]
    dsimp only
    rw [hreal, if_neg (by omega), hcode]
    rcases hresult with ⟨status, address, herror⟩ | ⟨address, m₁, l₁, hlist₁, htaken₁, heq₁⟩
    · exact ⟨_, if_pos herror, .null⟩
    · obtain ⟨front, back, hsum, hup, hmod, hfront, hmemory, hback⟩ :=
        alignedPages_arith hk hlarge hpages hbound htaken₁.valid
      rw [← hsum] at htaken₁
      obtain ⟨m₂, m₃, l₃, hcode₂, hcode₃, hlist₃, htaken₃, heq₃⟩ :=
        freeUnalignedPages_both lib h hlist₁ htaken₁ hpages
      refine ⟨(some (address + 4096 * front), m₃), ?_, .aligned _ m₃ l₃ ?_ hlist₃ htaken₃ ?_⟩
      · have hok : ¬ EfiStatus.success.isError = true := by decide
        rw [ok_bind]
        dsimp only
        rw [if_neg hok, hup, hfront, hmemory, hback, hcode₂, ok_bind, hcode₃, ok_bind]
        rfl
      · rwa [max_eq_left hlarge.le]
      · exact heq₃.trans heq₁
  · obtain ⟨result, hcode, hresult⟩ := @mmInternalAllocatePages_spec g m l pages lib h hlow
      .allocateAnyPages (.inl rfl) memoryType hpages 0 (by norm_num)
    rw [if_neg hlarge, hcode]
    rcases hresult with ⟨status, address, herror⟩ | ⟨address, m₁, l₁, hlist₁, htaken₁, heq₁⟩
    · exact ⟨_, if_pos herror, .null⟩
    · refine ⟨(some address, m₁), rfl, .aligned address m₁ l₁ ?_ hlist₁ htaken₁ heq₁⟩
      rw [max_eq_right (not_lt.1 hlarge)]
      exact htaken₁.valid.aligned

/-- **Whatever the arguments**: where an `ASSERT` does not stop it, the call allocates aligned
pages or changes nothing. -/
theorem internalAllocateAlignedPages_any (lib : BaseLib) (h : FreeList g m l)
    (hlow : ∀ b ∈ l, 0 < b.base) (memoryType : EfiMemoryType) (pages alignment : BitVec 64) :
    internalAllocateAlignedPages lib g m memoryType pages.toNat alignment.toNat =
        .error .assertion ∨
      ∃ result, internalAllocateAlignedPages lib g m memoryType pages.toNat alignment.toNat =
          .ok result ∧ AlignedResult g m l pages.toNat alignment.toNat result := by
  by_cases hmask : alignment.toNat &&& usub alignment.toNat 1 ≠ 0
  · exact .inl (if_pos hmask)
  rw [not_not] at hmask
  by_cases hzero : pages.toNat = 0
  · refine .inr ⟨(none, m), ?_, .null⟩
    unfold internalAllocateAlignedPages
    rw [if_neg (not_not.2 hmask), if_pos hzero]
  by_cases hbound : 4096 < alignment.toNat → pages.toNat + efiSizeToPages alignment.toNat < 2 ^ 64
  · exact .inr (internalAllocateAlignedPages_spec lib h hlow memoryType (by omega)
      (isAlignment_of_and_eq_zero alignment.isLt hmask) hbound)
  · -- the sum wraps around, to less than the pages asked for
    push Not at hbound
    obtain ⟨hlarge, hover⟩ := hbound
    have hpages := pages.isLt
    have hmore : ¬ uadd pages.toNat (efiSizeToPages alignment.toNat) > pages.toNat := by
      have halign := alignment.isLt
      unfold uadd efiSizeToPages at *
      split_ifs at * <;> omega
    refine .inl ?_
    unfold internalAllocateAlignedPages
    rw [if_neg (not_not.2 hmask), if_neg hzero, if_pos hlarge]
    dsimp only
    rw [if_pos hmore]

end Allocation

end Allocation
end FfaFeature
