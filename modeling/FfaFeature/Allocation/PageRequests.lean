/-
# Requests for pages

What `MmInternalAllocatePages` should do on a well-formed list: find the run of free pages
that the request asks for, the highest one where it leaves a choice, and take exactly this run
out of the free pages (`AllocatesRun`).

A coalesced list holds every run of free pages in one block (`FreeRun.exists_block`), so the
search for the last block that fits is complete and finds the highest run.  The request for
an address computes the end of the run in 64 bits.  Where it wraps around and the block below
the address reaches past the wrapped end, `InternalAllocPagesOnOneNode` works with numbers that
are none: the call succeeds without a run, or fails and has changed the list
(`mmInternalAllocatePages_run_iff`).
-/

import FfaFeature.Allocation.PageRuns
import Mathlib.Order.CompletePartialOrder

namespace FfaFeature
namespace Allocation

open LinkedList

/-- `number` free pages from an address on. -/
def FreeRun (l : List Block) (number address : ℕ) : Prop :=
  address % 4096 = 0 ∧ pageRange address number ⊆ blockAddrs l

/-- The address is one the request allows: any, one whose run ends at or below the maximum, or
the one requested. -/
def Requested (type : EfiAllocateType) (number memory address : ℕ) : Prop :=
  match type with
  | .allocateAnyPages => True
  | .allocateMaxAddress => address + 4096 * number ≤ memory + 1
  | .allocateAddress => address = memory
  | .maxAllocateType => False

/-- The addresses of the runs that serve a request. -/
def Serves (l : List Block) (type : EfiAllocateType) (number memory : ℕ) : Set ℕ :=
  {address | Requested type number memory address ∧ FreeRun l number address}

/-- The free pages are those of `l` less the run at the address. -/
def RunRemoved (g : Globals) (m' : Mem) (l : List Block) (number address : ℕ) : Prop :=
  ∃ l', FreeList g m' l' ∧ Coalesced l' ∧ blockAddrs l' = blockAddrs l \ pageRange address number

/-- **What a request for pages should do.**  It succeeds where a run serves it (and the type of
memory is one that is allocated), returns the highest such run and takes it out of the free
pages; and where it fails the list is the same. -/
def AllocatesRun (lib : BaseLib) (g : Globals) (m : Mem) (l : List Block)
    (type : EfiAllocateType) (memoryType : EfiMemoryType) (number memory : ℕ) : Prop :=
  ∃ status address m',
    mmInternalAllocatePages lib g m type memoryType number memory = .ok (status, address, m') ∧
    (status = .success ↔
      memoryType.isRuntimeServices = true ∧ (Serves l type number memory).Nonempty) ∧
    (status = .success →
      IsGreatest (Serves l type number memory) address ∧ RunRemoved g m' l number address) ∧
    (status ≠ .success → FreeList g m' l)

section Runs

variable {g : Globals} {m : Mem} {b : Block} {l l₁ l₂ : List Block} {number memory address : ℕ}

/-! ### Runs and blocks -/

/-- **A run of free pages lies in one block**: the blocks do not even touch. -/
theorem FreeRun.exists_block (hco : Coalesced l) (hnumber : 1 ≤ number)
    (h : FreeRun l number address) :
    ∃ b ∈ l, b.base ≤ address ∧ address + 4096 * number ≤ b.top := by
  obtain ⟨-, hsub⟩ := h
  obtain ⟨b, hb, hba⟩ := hsub ⟨le_rfl, by omega⟩
  refine ⟨b, hb, hba.1, ?_⟩
  by_contra hover
  -- the page behind the block belongs to the run, and so to another block
  have hbase := hba.1
  have htop := hba.2
  obtain ⟨c, hc, hcb⟩ := hsub (show b.top ∈ pageRange address number from ⟨by omega, by omega⟩)
  have hcbase := hcb.1
  have hctop := hcb.2
  have hne : b ≠ c := by
    rintro rfl
    omega
  have : Std.Symm fun a b : Block => a.top < b.base ∨ b.top < a.base := ⟨fun _ _ => Or.symm⟩
  have hapart : l.Pairwise fun a b => a.top < b.base ∨ b.top < a.base := hco.imp .inl
  rcases hapart.forall hb hc hne with h | h <;> omega

/-- Pages of a free block are a free run. -/
theorem freeRun_of_block (hb : b ∈ l) (haligned : address % 4096 = 0) (hbase : b.base ≤ address)
    (htop : address + 4096 * number ≤ b.top) : FreeRun l number address :=
  ⟨haligned, fun _ ha => ⟨b, hb, hbase.trans ha.1, lt_of_lt_of_le ha.2 htop⟩⟩

/-- What is taken out of a list is removed from its pages. -/
theorem Taken.removed {m' : Mem} {l' : List Block} (h : Taken l l' ⟨address, number⟩)
    (hlist : FreeList g m' l') (hco : Coalesced l) : RunRemoved g m' l number address := by
  refine ⟨l', hlist, h.coalesced hco, ?_⟩
  rw [← h.addrs]
  ext a
  refine ⟨fun ha => ⟨.inl ha, Set.disjoint_left.1 h.disjoint ha⟩, ?_⟩
  rintro ⟨ha | ha, hnot⟩
  · exact ha
  · exact absurd ha hnot

/-! ### Any pages, and those below an address -/

/-- The request in the form the loop of `InternalAllocMaxAddress` sees it. -/
theorem mem_serves_max_iff (h : FreeList g m l) (hco : Coalesced l) (hnumber : 1 ≤ number)
    {maxAddress : ℕ} :
    (address + 4096 * number ≤ maxAddress + 1 ∧ FreeRun l number address) ↔
      ∃ b ∈ l, Fits number maxAddress b ∧ address % 4096 = 0 ∧ b.base ≤ address ∧
        address ≤ b.base + 4096 * (pagesBelow b maxAddress - number) := by
  constructor
  · rintro ⟨hmax, hrun⟩
    obtain ⟨b, hb, hbase, htop⟩ := hrun.exists_block hco hnumber
    have haligned := (h.valid b hb).aligned
    have haligned' := hrun.1
    unfold Block.top at htop
    refine ⟨b, hb, ⟨by omega, by omega⟩, haligned', hbase, ?_⟩
    unfold pagesBelow
    omega
  · rintro ⟨b, hb, hfits, haligned, hbase, hle⟩
    have hpages := hfits.pagesBelow
    have hbelow : pagesBelow b maxAddress ≤ (maxAddress + 1 - b.base) / 4096 := min_le_left _ _
    have hfit := hfits.2
    refine ⟨by omega, freeRun_of_block hb haligned hbase ?_⟩
    unfold Block.top
    omega

/-- **The search is complete and finds the highest run.** -/
theorem SearchResult.run {lib : BaseLib} (h : FreeList g m l) (hco : Coalesced l)
    (hlow : ∀ b ∈ l, 0 < b.base) (hnumber : 1 ≤ number) {maxAddress : ℕ}
    (hmax : maxAddress < 2 ^ 64) {result : Except Fault (ℕ × Mem)}
    (hresult : SearchResult lib m number maxAddress l result) :
    ((∀ a, ¬ (a + 4096 * number ≤ maxAddress + 1 ∧ FreeRun l number a)) ∧
        result = .ok (2 ^ 64 - 1, m)) ∨
      ∃ a m', result = .ok (a, m') ∧ a ≠ 2 ^ 64 - 1 ∧
        IsGreatest {a | a + 4096 * number ≤ maxAddress + 1 ∧ FreeRun l number a} a ∧
        RunRemoved g m' l number a := by
  rcases hresult with ⟨hnone, hresult⟩ | ⟨l₁, b, l₂, rfl, hfits, hlast, hresult⟩
  · refine .inl ⟨fun a ha => ?_, hresult⟩
    obtain ⟨b, hb, hfits, -⟩ := (mem_serves_max_iff h hco hnumber).1 ha
    exact hnone b hb hfits
  · have hmem : b ∈ l₁ ++ b :: l₂ := List.mem_append_right _ List.mem_cons_self
    obtain ⟨hle, htop⟩ := hfits.pagesBelow
    have haligned := (h.valid b hmem).aligned
    obtain ⟨m', hcode, hlist, -⟩ :=
      internalAllocPagesOnOneNode_spec lib h (hlow b hmem) hnumber hfits hmax
    have htaken := h.taken (pagesBelow b maxAddress - number) (by omega) htop
    have hsize : pagesBelow b maxAddress - (pagesBelow b maxAddress - number) = number := by omega
    rw [hsize] at htaken
    refine .inr ⟨_, m', by rw [hresult, hcode], by omega, ⟨?_, fun a ha => ?_⟩,
      htaken.removed hlist hco⟩
    · exact (mem_serves_max_iff h hco hnumber).2
        ⟨b, hmem, hfits, by omega, by omega, le_rfl⟩
    · obtain ⟨c, hc, hfits', -, -, hle'⟩ := (mem_serves_max_iff h hco hnumber).1 ha
      simp only [List.mem_append, List.mem_cons] at hc
      rcases hc with hc | rfl | hc
      · -- a block before the one used ends below it
        have hbelow := h.around.1 c hc
        have hpages := hfits'.pagesBelow.2
        unfold Block.top at hbelow
        omega
      · exact hle'
      · exact absurd hfits' (hlast c hc)

/-! ### Pages at an address -/

/-- What the loop of `InternalAllocAddress` comes to: no block lies at or below the address, or
the last one that does decides. -/
def AddressResult (lib : BaseLib) (m : Mem) (number address endAddress : ℕ) (l : List Block)
    (result : Except Fault (ℕ × Mem)) : Prop :=
  ((∀ b ∈ l, address < b.base) ∧ result = .ok (2 ^ 64 - 1 - address, m)) ∨
    ∃ l₁ b l₂, l = l₁ ++ b :: l₂ ∧ b.base ≤ address ∧ (∀ c ∈ l₂, address < c.base) ∧
      result = if b.top < endAddress then .ok (2 ^ 64 - 1 - address, m)
        else .ok (internalAllocPagesOnOneNode lib m b.base number endAddress)

/-- The loop, from the last block of `l₁`, when those behind it lie above the address. -/
theorem allocAddressLoop_spec (lib : BaseLib) (h : FreeList g m (l₁ ++ l₂))
    (habove : ∀ b ∈ l₂, address < b.base) {endAddress fuel : ℕ} (hfuel : l₁.length < fuel) :
    AddressResult lib m number address endAddress (l₁ ++ l₂)
      (allocAddressLoop lib g.mMmMemoryMap number address endAddress m fuel
        ((l₁.map Block.base).getLastD g.mMmMemoryMap)) := by
  induction l₁ using List.reverseRecOn generalizing l₂ fuel with
  | nil =>
    obtain ⟨fuel, rfl⟩ := Nat.exists_eq_add_of_lt hfuel
    have hhead : (([] : List Block).map Block.base).getLastD g.mMmMemoryMap = g.mMmMemoryMap := rfl
    refine .inl ⟨habove, ?_⟩
    rw [hhead, allocAddressLoop, if_pos rfl]
  | append_singleton l₁ b ih =>
    obtain ⟨fuel, rfl⟩ : ∃ k, fuel = k + 1 := ⟨fuel - 1, by omega⟩
    rw [List.append_assoc, List.singleton_append] at h ⊢
    obtain ⟨hnode, hhead, hback⟩ := h.walk_back
    rw [hnode, allocAddressLoop, if_neg hhead]
    by_cases hbase : b.base ≤ address
    · have hread := h.linked.number b (List.mem_append_right _ List.mem_cons_self)
      rw [if_pos hbase, hread, h.mem_middle.uadd_eq]
      exact .inr ⟨l₁, b, l₂, rfl, hbase, habove, rfl⟩
    · rw [if_neg hbase, hback]
      refine ih h (fun c hc => ?_) ?_
      · rcases List.mem_cons.1 hc with rfl | hc
        · omega
        · exact habove c hc
      · rw [List.length_append, List.length_singleton] at hfuel
        omega

/-- `InternalAllocAddress`. -/
theorem internalAllocAddress_spec (lib : BaseLib) (h : FreeList g m l)
    (haligned : address % 4096 = 0) :
    AddressResult lib m number address (uadd address (efiPagesToSize number)) l
      (internalAllocAddress lib m g.mMmMemoryMap number address) := by
  have hnil : FreeList g m (l ++ []) := by rwa [List.append_nil]
  have hnone : ∀ b ∈ ([] : List Block), address < b.base := fun b hb => absurd hb List.not_mem_nil
  have hloop := @allocAddressLoop_spec g m l [] number address lib hnil hnone
    (uadd address (efiPagesToSize number)) _ h.length_lt
  rw [List.append_nil] at hloop
  rwa [internalAllocAddress, if_neg (not_not.2 haligned), h.backLink_head]

/-- The block that decides is the only one in which a run at the address can lie. -/
theorem freeRun_at_iff (h : FreeList g m (l₁ ++ b :: l₂)) (hco : Coalesced (l₁ ++ b :: l₂))
    (hnumber : 1 ≤ number) (haligned : address % 4096 = 0) (hbase : b.base ≤ address)
    (habove : ∀ c ∈ l₂, address < c.base) :
    FreeRun (l₁ ++ b :: l₂) number address ↔ address + 4096 * number ≤ b.top := by
  have hmem : b ∈ l₁ ++ b :: l₂ := List.mem_append_right _ List.mem_cons_self
  refine ⟨fun hrun => ?_, freeRun_of_block hmem haligned hbase⟩
  obtain ⟨c, hc, hcbase, hctop⟩ := hrun.exists_block hco hnumber
  simp only [List.mem_append, List.mem_cons] at hc
  rcases hc with hc | rfl | hc
  · have hbelow := h.around.1 c hc
    omega
  · exact hctop
  · have hlt := habove c hc
    omega

/-- The pages at an address, where their end does not wrap around. -/
theorem allocAddress_run (lib : BaseLib) (h : FreeList g m (l₁ ++ b :: l₂))
    (hco : Coalesced (l₁ ++ b :: l₂)) (hlow : 0 < b.base) (hnumber : 1 ≤ number)
    (haligned : address % 4096 = 0) (hbase : b.base ≤ address)
    (htop : address + 4096 * number ≤ b.top) :
    ∃ m', internalAllocPagesOnOneNode lib m b.base number (address + 4096 * number) =
        (address, m') ∧ RunRemoved g m' (l₁ ++ b :: l₂) number address := by
  have hb := h.mem_middle
  have haligned' := hb.aligned
  have hbound := hb.bound
  have hsize : b.top = b.base + 4096 * b.pages := rfl
  have hfits : Fits number (address + 4096 * number) b := ⟨by omega, by omega⟩
  obtain ⟨m', hcode, hlist, -⟩ :=
    internalAllocPagesOnOneNode_spec lib h hlow hnumber hfits (by omega)
  have hbelow : pagesBelow b (address + 4096 * number) = (address - b.base) / 4096 + number := by
    unfold pagesBelow
    omega
  have htaken := h.taken (pagesBelow b (address + 4096 * number) - number)
    (by omega) hfits.pagesBelow.2
  have hplace : b.base + 4096 * (pagesBelow b (address + 4096 * number) - number) = address := by
    omega
  have hcount : pagesBelow b (address + 4096 * number) -
      (pagesBelow b (address + 4096 * number) - number) = number := by omega
  rw [hplace, hcount] at htaken
  exact ⟨m', by rw [hcode, hplace], htaken.removed hlist hco⟩

/-! ### The end of the address space -/

/-- The request asks for pages at an aligned address, their end wraps around to `endAddress`,
and the last block at or below the address reaches as far as that. -/
def WrapsInto (l : List Block) (number address : ℕ) : Prop :=
  address % 4096 = 0 ∧ 2 ^ 64 ≤ address + 4096 * number ∧
    ∃ b ∈ l, b.base ≤ address ∧ (∀ c ∈ l, c.base ≤ address → c.base ≤ b.base) ∧
      address + 4096 * number ≤ b.top + 2 ^ 64

/-- **The pages of a block below a wrapped end.**  Either the address requested is returned, or
another one, and then the list has changed. -/
theorem internalAllocPagesOnOneNode_wrapped (lib : BaseLib) (h : FreeList g m (l₁ ++ b :: l₂))
    (hlow : 0 < b.base) (hnumber : 1 ≤ number) (hle : number ≤ 2 ^ 52)
    (haddress : address < 2 ^ 64) (haligned : address % 4096 = 0) {endAddress : ℕ}
    (hend : endAddress + 2 ^ 64 = address + 4096 * number) (htop : endAddress ≤ b.top) :
    (internalAllocPagesOnOneNode lib m b.base number endAddress).1 = address ∨
      ∃ l', Linked g (internalAllocPagesOnOneNode lib m b.base number endAddress).2 l' ∧
        l' ≠ l₁ ++ b :: l₂ := by
  have hb := h.mem_middle
  have haligned' := hb.aligned
  have hbound := hb.bound
  have hpos := hb.pos
  have hsize : b.top = b.base + 4096 * b.pages := rfl
  have hmem : b ∈ l₁ ++ b :: l₂ := List.mem_append_right _ List.mem_cons_self
  have hread : numberOfPages m b.base = b.pages := h.linked.number b hmem
  have huadd : uadd endAddress 1 = endAddress + 1 := uadd_eq (by omega)
  by_cases hbase : b.base ≤ endAddress
  · -- the pages up to the wrapped end, of which more than there are make up the run
    have htrunc : truncateToPages (usub (endAddress + 1) b.base) =
        (endAddress - b.base) / 4096 := by
      unfold truncateToPages usub
      omega
    refine .inl ?_
    unfold internalAllocPagesOnOneNode
    dsimp only
    rw [hread, huadd, htrunc, if_neg (by omega)]
    unfold uadd efiPagesToSize usub
    omega
  · -- the difference wraps around too, and the whole block is taken for the pages below
    have htrunc : truncateToPages (usub (endAddress + 1) b.base) > b.pages := by
      unfold truncateToPages usub
      omega
    refine .inr ?_
    have hbottom : usub b.pages number < 2 ^ 64 := by
      unfold usub
      omega
    obtain ⟨m', hm', hlinked, -⟩ := linked_lowerPart lib h.linked (usub b.pages number) hbottom
    have hcode : (internalAllocPagesOnOneNode lib m b.base number endAddress).2 = m' := by
      unfold internalAllocPagesOnOneNode
      dsimp only
      rw [hread, huadd, if_pos htrunc, if_neg (lt_irrefl _)]
      exact hm'
    rw [hcode]
    refine ⟨_, hlinked, fun he => ?_⟩
    have hlist := (List.append_cancel_left he : lowerPart b (usub b.pages number) ++ l₂ = b :: l₂)
    unfold lowerPart at hlist
    split_ifs at hlist with hpart
    · have hpages := congrArg Block.pages (List.cons.inj hlist).1
      simp only at hpages
      unfold usub at hpages
      omega
    · exact absurd (congrArg List.length hlist) (by simp)

/-- The block of the condition is the one the loop stops at. -/
theorem wrapsInto_iff (h : FreeList g m (l₁ ++ b :: l₂)) (haligned : address % 4096 = 0)
    (hbase : b.base ≤ address) (habove : ∀ c ∈ l₂, address < c.base) :
    WrapsInto (l₁ ++ b :: l₂) number address ↔
      2 ^ 64 ≤ address + 4096 * number ∧ address + 4096 * number ≤ b.top + 2 ^ 64 := by
  have hmem : b ∈ l₁ ++ b :: l₂ := List.mem_append_right _ List.mem_cons_self
  constructor
  · rintro ⟨-, hwrap, c, hc, hcbase, hlast, htop⟩
    simp only [List.mem_append, List.mem_cons] at hc
    rcases hc with hc | rfl | hc
    · have hle := hlast b hmem hbase
      have hbelow := h.around.1 c hc
      have hpos := (h.valid c (List.mem_append_left _ hc)).pos
      unfold Block.top at hbelow
      omega
    · exact ⟨hwrap, htop⟩
    · have hlt := habove c hc
      omega
  · rintro ⟨hwrap, htop⟩
    refine ⟨haligned, hwrap, b, hmem, hbase, fun c hc hcbase => ?_, htop⟩
    simp only [List.mem_append, List.mem_cons] at hc
    rcases hc with hc | rfl | hc
    · have hbelow := h.around.1 c hc
      have hle : c.base ≤ c.top := Nat.le_add_right ..
      omega
    · exact le_rfl
    · have hlt := habove c hc
      omega

/-! ### The request -/

section Outcome

variable {lib : BaseLib} {type : EfiAllocateType} {memoryType : EfiMemoryType} {m' : Mem}
  {status : EfiStatus} {result : ℕ}

/-- A request that fails, and should. -/
theorem allocatesRun_failed (h : FreeList g m l)
    (hcode : mmInternalAllocatePages lib g m type memoryType number memory =
      .ok (status, result, m)) (hstatus : status ≠ .success)
    (hnone : ¬ (memoryType.isRuntimeServices = true ∧
      (Serves l type number memory).Nonempty)) :
    AllocatesRun lib g m l type memoryType number memory :=
  ⟨status, result, m, hcode, iff_of_false hstatus hnone, fun hs => absurd hs hstatus, fun _ => h⟩

/-- A request that succeeds as it should. -/
theorem allocatesRun_success
    (hcode : mmInternalAllocatePages lib g m type memoryType number memory =
      .ok (.success, address, m')) (hruntime : memoryType.isRuntimeServices = true)
    (hgreatest : IsGreatest (Serves l type number memory) address)
    (hremoved : RunRemoved g m' l number address) :
    AllocatesRun lib g m l type memoryType number memory :=
  ⟨.success, address, m', hcode, iff_of_true rfl ⟨hruntime, hgreatest.nonempty⟩,
    fun _ => ⟨hgreatest, hremoved⟩, fun hs => absurd rfl hs⟩

/-- Past its checks, `MmInternalAllocatePages` searches below an address. -/
theorem mmInternalAllocatePages_max (hruntime : memoryType.isRuntimeServices = true)
    (hle : number ≤ 2 ^ 52) {maxAddress : ℕ}
    (htype : (type = .allocateAnyPages ∧ maxAddress = 2 ^ 64 - 1) ∨
      (type = .allocateMaxAddress ∧ maxAddress = memory)) {found : ℕ × Mem}
    (hsearch : internalAllocMaxAddress lib m g.mMmMemoryMap number maxAddress = .ok found) :
    mmInternalAllocatePages lib g m type memoryType number memory =
      .ok (if found.1 = 2 ^ 64 - 1 then .outOfResources else .success, found.1, found.2) := by
  unfold mmInternalAllocatePages truncateToPages
  rw [if_neg (by simp [hruntime]), if_neg (by omega)]
  rcases htype with ⟨rfl, rfl⟩ | ⟨rfl, rfl⟩
  all_goals
    dsimp only
    rw [hsearch]
    show (if _ then _ else _) = _
    split_ifs <;> rfl

/-- Or takes pages at one. -/
theorem mmInternalAllocatePages_address (hruntime : memoryType.isRuntimeServices = true)
    (hle : number ≤ 2 ^ 52) {found : ℕ × Mem}
    (hsearch : internalAllocAddress lib m g.mMmMemoryMap number memory = .ok found) :
    mmInternalAllocatePages lib g m .allocateAddress memoryType number memory =
      .ok (if found.1 ≠ memory then .notFound else .success, found.1, found.2) := by
  unfold mmInternalAllocatePages truncateToPages
  rw [if_neg (by simp [hruntime]), if_neg (by omega)]
  dsimp only
  rw [hsearch]
  show (if _ then _ else _) = _
  split_ifs <;> rfl

/-- **Any pages, and those below an address, are found.** -/
theorem allocatesRun_max (h : FreeList g m l) (hco : Coalesced l) (hlow : ∀ b ∈ l, 0 < b.base)
    (hruntime : memoryType.isRuntimeServices = true) (hnumber : 1 ≤ number)
    (hle : number ≤ 2 ^ 52) {maxAddress : ℕ} (hmax : maxAddress < 2 ^ 64)
    (htype : (type = .allocateAnyPages ∧ maxAddress = 2 ^ 64 - 1) ∨
      (type = .allocateMaxAddress ∧ maxAddress = memory)) :
    AllocatesRun lib g m l type memoryType number memory := by
  have hserves : Serves l type number memory =
      {a | a + 4096 * number ≤ maxAddress + 1 ∧ FreeRun l number a} := by
    ext a
    rcases htype with ⟨rfl, rfl⟩ | ⟨rfl, rfl⟩
    · refine ⟨fun ha => ⟨?_, ha.2⟩, fun ha => ⟨trivial, ha.2⟩⟩
      obtain ⟨b, hb, -, htop⟩ := ha.2.exists_block hco hnumber
      have hbound := (h.valid b hb).bound
      omega
    · exact Iff.rfl
  rcases (internalAllocMaxAddress_spec lib h hnumber).run h hco hlow hnumber hmax with
    ⟨hnone, hsearch⟩ | ⟨a, m', hsearch, hne, hgreatest, hremoved⟩
  · have hcode := mmInternalAllocatePages_max hruntime hle htype hsearch
    rw [if_pos rfl] at hcode
    refine allocatesRun_failed h hcode (by decide) ?_
    rintro ⟨-, a, ha⟩
    rw [hserves] at ha
    exact hnone a ha
  · have hcode := mmInternalAllocatePages_max hruntime hle htype hsearch
    rw [if_neg hne] at hcode
    exact allocatesRun_success hcode hruntime (hserves ▸ hgreatest) hremoved

/-- **Pages at an address are found, unless their end wraps around.** -/
theorem allocatesRun_address (h : FreeList g m l) (hco : Coalesced l)
    (hlow : ∀ b ∈ l, 0 < b.base) (hruntime : memoryType.isRuntimeServices = true)
    (hnumber : 1 ≤ number) (hle : number ≤ 2 ^ 52) (hmemory : memory < 2 ^ 64)
    (hwrap : ¬ WrapsInto l number memory) :
    AllocatesRun lib g m l .allocateAddress memoryType number memory := by
  have hother : 2 ^ 64 - 1 - memory ≠ memory := by omega
  -- a failed search, where there is no run at the address
  have hfailed : internalAllocAddress lib m g.mMmMemoryMap number memory =
      .ok (2 ^ 64 - 1 - memory, m) → ¬ FreeRun l number memory →
      AllocatesRun lib g m l .allocateAddress memoryType number memory := by
    intro hsearch hnone
    have hcode := mmInternalAllocatePages_address hruntime hle hsearch
    rw [if_pos hother] at hcode
    refine allocatesRun_failed h hcode (by decide) ?_
    rintro ⟨-, _, rfl, hrun⟩
    exact hnone hrun
  by_cases haligned : memory % 4096 = 0
  · rcases @internalAllocAddress_spec _ _ _ number _ lib h haligned with
      ⟨hnone, hsearch⟩ | ⟨l₁, b, l₂, rfl, hbase, habove, hsearch⟩
    · refine hfailed hsearch fun hrun => ?_
      obtain ⟨b, hb, hbase, -⟩ := hrun.exists_block hco hnumber
      have hlt := hnone b hb
      omega
    · have hat := freeRun_at_iff h hco hnumber haligned hbase habove
      have hbound := h.mem_middle.bound
      rw [wrapsInto_iff h haligned hbase habove] at hwrap
      have hend : uadd memory (efiPagesToSize number) =
          if memory + 4096 * number < 2 ^ 64 then memory + 4096 * number
          else memory + 4096 * number - 2 ^ 64 := by
        unfold uadd efiPagesToSize
        split_ifs <;> omega
      split_ifs at hsearch with htop
      · refine hfailed hsearch (hat.not.2 ?_)
        rw [hend] at htop
        split_ifs at htop <;> omega
      · rw [hend] at htop hsearch
        split_ifs at htop hsearch with hlt
        · have hrun := not_lt.1 htop
          obtain ⟨m', hnode, hremoved⟩ := allocAddress_run lib h hco
            (hlow b (List.mem_append_right _ List.mem_cons_self)) hnumber haligned hbase hrun
          rw [hnode] at hsearch
          have hcode := mmInternalAllocatePages_address hruntime hle hsearch
          rw [if_neg (not_not.2 rfl)] at hcode
          refine allocatesRun_success hcode hruntime ⟨⟨rfl, hat.2 hrun⟩, ?_⟩ hremoved
          rintro _ ⟨rfl, -⟩
          exact le_rfl
        · omega
  · exact hfailed (if_pos haligned) fun hrun => haligned hrun.1

/-- Where the end wraps around into the block below the address, the request goes wrong. -/
theorem not_allocatesRun_of_wrapsInto (h : FreeList g m l) (hco : Coalesced l)
    (hlow : ∀ b ∈ l, 0 < b.base) (hruntime : memoryType.isRuntimeServices = true)
    (hnumber : 1 ≤ number) (hle : number ≤ 2 ^ 52) (hmemory : memory < 2 ^ 64)
    (hwrap : WrapsInto l number memory) :
    ¬ AllocatesRun lib g m l .allocateAddress memoryType number memory := by
  have haligned := hwrap.1
  rcases @internalAllocAddress_spec _ _ _ number _ lib h haligned with
    ⟨hnone, -⟩ | ⟨l₁, b, l₂, rfl, hbase, habove, hsearch⟩
  · obtain ⟨-, -, b, hb, hbase, -⟩ := hwrap
    have hlt := hnone b hb
    omega
  · have hmem : b ∈ l₁ ++ b :: l₂ := List.mem_append_right _ List.mem_cons_self
    have hat := freeRun_at_iff h hco hnumber haligned hbase habove
    have hbound := h.mem_middle.bound
    obtain ⟨hover, htop⟩ := (wrapsInto_iff h haligned hbase habove).1 hwrap
    have hend : uadd memory (efiPagesToSize number) = memory + 4096 * number - 2 ^ 64 := by
      unfold uadd efiPagesToSize
      omega
    rw [hend, if_neg (by omega)] at hsearch
    have hnode := @internalAllocPagesOnOneNode_wrapped g m b l₁ l₂ number memory lib h
      (hlow b hmem) hnumber hle hmemory haligned (memory + 4096 * number - 2 ^ 64) (by omega)
      (by omega)
    generalize internalAllocPagesOnOneNode lib m b.base number
      (memory + 4096 * number - 2 ^ 64) = found at hsearch hnode
    have hcode := mmInternalAllocatePages_address hruntime hle hsearch
    rintro ⟨status, address, m', hresult, hiff, -, hfailed⟩
    obtain ⟨hstatus, hrest⟩ := Prod.mk.inj (Except.ok.inj (hcode.symm.trans hresult))
    obtain ⟨-, rfl⟩ := Prod.mk.inj hrest
    by_cases hreturned : found.1 = memory
    · -- success, where there is no run
      rw [if_neg (not_not.2 hreturned)] at hstatus
      obtain ⟨-, _, rfl, hrun⟩ := hiff.1 hstatus.symm
      have hinside := hat.1 hrun
      omega
    · -- failure, and another list
      rw [if_pos hreturned] at hstatus
      obtain ⟨l', hlinked, hne⟩ := hnode.resolve_left hreturned
      exact hne (hlinked.unique (hfailed (by rw [← hstatus]; decide)).linked)

end Outcome

/-- **`MmInternalAllocatePages` serves a request exactly when** it does not ask for pages at an
aligned address whose end wraps around into the block below it. -/
theorem mmInternalAllocatePages_run_iff (lib : BaseLib) (h : FreeList g m l)
    (hco : Coalesced l) (hlow : ∀ b ∈ l, 2 ^ 20 ≤ b.base) (type : EfiAllocateType)
    (memoryType : EfiMemoryType) (hnumber : 1 ≤ number) (hle : number ≤ 2 ^ 52)
    (hmemory : memory < 2 ^ 64) :
    AllocatesRun lib g m l type memoryType number memory ↔
      ¬ (memoryType.isRuntimeServices = true ∧ type = .allocateAddress ∧
        WrapsInto l number memory) := by
  have hlow' : ∀ b ∈ l, 0 < b.base := fun b hb => lt_of_lt_of_le (by norm_num) (hlow b hb)
  by_cases hruntime : memoryType.isRuntimeServices = true
  · cases type with
    | allocateAnyPages =>
      refine iff_of_true ?_ (by simp)
      exact allocatesRun_max h hco hlow' hruntime hnumber hle (by norm_num) (.inl ⟨rfl, rfl⟩)
    | allocateMaxAddress =>
      refine iff_of_true ?_ (by simp)
      exact allocatesRun_max h hco hlow' hruntime hnumber hle hmemory (.inr ⟨rfl, rfl⟩)
    | allocateAddress =>
      by_cases hwrap : WrapsInto l number memory
      · exact iff_of_false
          (not_allocatesRun_of_wrapsInto h hco hlow' hruntime hnumber hle hmemory hwrap)
          (not_not.2 ⟨hruntime, rfl, hwrap⟩)
      · exact iff_of_true
          (allocatesRun_address h hco hlow' hruntime hnumber hle hmemory hwrap)
          fun hbad => hwrap hbad.2.2
    | maxAllocateType =>
      have hcode : mmInternalAllocatePages lib g m .maxAllocateType memoryType number memory =
          .ok (.invalidParameter, memory, m) := by
        unfold mmInternalAllocatePages truncateToPages
        rw [if_neg (by simp [hruntime]), if_neg (by omega)]
      refine iff_of_true (allocatesRun_failed h hcode (by decide) ?_) (by simp)
      rintro ⟨-, _, hrequested, -⟩
      exact hrequested
  · have hcode : mmInternalAllocatePages lib g m type memoryType number memory =
        .ok (.invalidParameter, memory, m) := if_pos (by simpa using hruntime)
    exact iff_of_true (allocatesRun_failed h hcode (by decide) fun hbad => hruntime hbad.1)
      fun hbad => hruntime hbad.1

end Runs

/-- Three pages at 1 MB. -/
def threePages : Block := ⟨0x100000, 3⟩

/-- A heap in which they are the free ones. -/
theorem exists_freeList_threePages : ∃ m, FreeList lowGlobals m [threePages] := by
  have hvalid : threePages.Valid := ⟨by decide, by decide, by decide⟩
  have hoff : Disjoint threePages.addrs lowGlobals.bytes := lowGlobals_disjoint fun a ha => ha.1
  have hfresh : Fresh lowGlobals threePages [] :=
    ⟨by decide, by decide, by decide, hoff.mono_left hvalid.header_subset,
      fun b hb => absurd hb List.not_mem_nil⟩
  obtain ⟨m, -, hlinked⟩ := mmInternalFreePages_nil .standard bootMem_isList hfresh
  exact ⟨m, freeList_singleton hlinked hvalid hoff⟩

/-- One page of the three. -/
theorem mmInternalAllocatePages_run_threePages :
    ∃ m, FreeList lowGlobals m [threePages] ∧
      AllocatesRun .standard lowGlobals m [threePages] .allocateAnyPages
        .efiRuntimeServicesData 1 0 := by
  obtain ⟨m, hlist⟩ := exists_freeList_threePages
  refine ⟨m, hlist, (mmInternalAllocatePages_run_iff .standard hlist (List.pairwise_singleton _ _)
    (fun b hb => ?_) .allocateAnyPages .efiRuntimeServicesData le_rfl (by norm_num)
    (by norm_num)).2 (by simp)⟩
  rw [List.mem_singleton.1 hb]
  decide

/-- **`2^52` pages at the second one**: their end wraps around to their beginning, and the
request goes through. -/
theorem mmInternalAllocatePages_wraps :
    ∃ m, FreeList lowGlobals m [threePages] ∧
      ¬ AllocatesRun .standard lowGlobals m [threePages] .allocateAddress
        .efiRuntimeServicesData (2 ^ 52) 0x101000 := by
  obtain ⟨m, hlist⟩ := exists_freeList_threePages
  have hmem : ∀ b ∈ [threePages], b = threePages := fun b hb => List.mem_singleton.1 hb
  have hwrap : WrapsInto [threePages] (2 ^ 52) 0x101000 :=
    ⟨by decide, by decide, threePages, List.mem_cons_self, by decide,
      fun c hc _ => (hmem c hc).symm ▸ le_rfl, by decide⟩
  refine ⟨m, hlist, not_allocatesRun_of_wrapsInto hlist (List.pairwise_singleton _ _)
    (fun b hb => ?_) rfl (by norm_num) le_rfl (by decide) hwrap⟩
  rw [hmem b hb]
  decide

end Allocation
end FfaFeature
