/-
# Allocating pages

`InternalAllocPagesOnOneNode` takes the highest pages of a block below an address.
What is left of the block is `carve`: a lower part, an upper part, both or none
(`internalAllocPagesOnOneNode_spec`).  `InternalAllocMaxAddress` does so with the highest
block where the pages fit (`internalAllocMaxAddress_spec`), and `MmInternalAllocatePages`
therefore either changes nothing or takes the pages it returns out of the free ones
(`mmInternalAllocatePages_spec`).
-/

import FfaFeature.Allocation.FreeList

namespace FfaFeature
namespace Allocation

open LinkedList

/-- How many pages of a block lie below an address. -/
def pagesBelow (b : Block) (maxAddress : ℕ) : ℕ := min ((maxAddress + 1 - b.base) / 4096) b.pages

/-- What is left above the pages taken. -/
def upperPart (b : Block) (top : ℕ) : List Block :=
  if top < b.pages then [⟨b.base + 4096 * top, b.pages - top⟩] else []

/-- What is left below them. -/
def lowerPart (b : Block) (bottom : ℕ) : List Block :=
  if 0 < bottom then [⟨b.base, bottom⟩] else []

/-- What is left of a block when the pages between `bottom` and `top` are taken. -/
def carve (b : Block) (bottom top : ℕ) : List Block := lowerPart b bottom ++ upperPart b top

/-- `number` pages of the block end at or below the address. -/
def Fits (number maxAddress : ℕ) (b : Block) : Prop :=
  number ≤ b.pages ∧ b.base + 4096 * number ≤ maxAddress + 1

instance (number maxAddress : ℕ) (b : Block) : Decidable (Fits number maxAddress b) :=
  inferInstanceAs (Decidable (_ ∧ _))

section Parts

variable {b : Block} {number maxAddress bottom top : ℕ}

/-- A block that fits has the pages below the limit. -/
theorem Fits.pagesBelow (h : Fits number maxAddress b) :
    number ≤ pagesBelow b maxAddress ∧ pagesBelow b maxAddress ≤ b.pages := by
  obtain ⟨hpages, hbelow⟩ := h
  unfold Allocation.pagesBelow
  omega

/-- The upper part, if there is one. -/
theorem mem_upperPart {c : Block} (h : c ∈ upperPart b top) :
    top < b.pages ∧ c = ⟨b.base + 4096 * top, b.pages - top⟩ := by
  unfold upperPart at h
  split_ifs at h with hlt
  · exact ⟨hlt, List.mem_singleton.1 h⟩
  · exact absurd h List.not_mem_nil

/-- The lower part, if there is one. -/
theorem mem_lowerPart {c : Block} (h : c ∈ lowerPart b bottom) :
    0 < bottom ∧ c = ⟨b.base, bottom⟩ := by
  unfold lowerPart at h
  split_ifs at h with hlt
  · exact ⟨hlt, List.mem_singleton.1 h⟩
  · exact absurd h List.not_mem_nil

/-- The parts lie in the block, on either side of the pages taken. -/
theorem mem_carve {c : Block} (hb : b.Valid) (hbottom : bottom < top) (htop : top ≤ b.pages)
    (h : c ∈ carve b bottom top) :
    c.Valid ∧ b.base ≤ c.base ∧ c.top ≤ b.top ∧
      (c.top = b.base + 4096 * bottom ∨ c.base = b.base + 4096 * top) := by
  have halign := hb.aligned
  have hbound := hb.bound
  unfold Block.top at hbound
  rcases List.mem_append.1 h with h | h
  · obtain ⟨hlt, rfl⟩ := mem_lowerPart h
    refine ⟨⟨halign, hlt, ?_⟩, le_rfl, ?_, .inl rfl⟩ <;> simp only [Block.top] <;> omega
  · obtain ⟨hlt, rfl⟩ := mem_upperPart h
    refine ⟨⟨?_, ?_, ?_⟩, ?_, ?_, .inr rfl⟩ <;> simp only [Block.top] <;> omega

/-- The addresses of the lower part. -/
theorem lowerPart_addrs :
    blockAddrs (lowerPart b bottom) = Set.Ico b.base (b.base + 4096 * bottom) := by
  unfold lowerPart
  split_ifs with hlt
  · simp [Block.addrs, Block.top]
  · have hzero : bottom = 0 := by omega
    simp [hzero]

/-- The addresses of the upper part. -/
theorem upperPart_addrs (htop : top ≤ b.pages) :
    blockAddrs (upperPart b top) = Set.Ico (b.base + 4096 * top) b.top := by
  unfold upperPart
  split_ifs with hlt
  · have hend : b.base + 4096 * top + 4096 * (b.pages - top) = b.base + 4096 * b.pages := by omega
    simp [Block.addrs, Block.top, hend]
  · have hend : top = b.pages := by omega
    simp [Block.top, hend]

/-- The parts and the pages taken make up the block, and do not overlap. -/
theorem carve_addrs (hbottom : bottom < top) (htop : top ≤ b.pages) :
    blockAddrs (carve b bottom top) ∪ (Block.mk (b.base + 4096 * bottom) (top - bottom)).addrs =
        b.addrs ∧
      Disjoint (blockAddrs (carve b bottom top))
        (Block.mk (b.base + 4096 * bottom) (top - bottom)).addrs := by
  have hend : b.base + 4096 * bottom + 4096 * (top - bottom) = b.base + 4096 * top := by omega
  rw [carve, blockAddrs_append, lowerPart_addrs, upperPart_addrs htop, Block.addrs, Block.addrs]
  unfold Block.top
  rw [hend, Set.disjoint_left]
  constructor
  · ext a
    simp only [Set.mem_union, Set.mem_Ico]
    omega
  · intro a ha hmem
    simp only [Set.mem_union, Set.mem_Ico] at ha hmem
    omega

/-- What is left of a block has a gap where pages were taken. -/
theorem carve_coalesced (hbottom : bottom < top) : Coalesced (carve b bottom top) := by
  refine List.pairwise_append.2 ⟨?_, ?_, fun c hc d hd => ?_⟩
  · unfold lowerPart
    split_ifs <;> simp
  · unfold upperPart
    split_ifs <;> simp
  · obtain ⟨-, rfl⟩ := mem_lowerPart hc
    obtain ⟨-, rfl⟩ := mem_upperPart hd
    simp only [Block.top]
    omega

/-- Parts of a block may take its place. -/
theorem pairwise_replace {R : Block → Block → Prop} {l₁ l₂ parts : List Block}
    (hR : ∀ {a a' c c' : Block}, R a c → a'.top ≤ a.top → c.base ≤ c'.base → R a' c')
    (h : (l₁ ++ b :: l₂).Pairwise R) (hin : ∀ c ∈ parts, b.base ≤ c.base ∧ c.top ≤ b.top)
    (hparts : parts.Pairwise R) : (l₁ ++ (parts ++ l₂)).Pairwise R := by
  obtain ⟨h₁, h₂, h₁₂⟩ := List.pairwise_append.1 h
  obtain ⟨hb, h₂⟩ := List.pairwise_cons.1 h₂
  refine List.pairwise_append.2 ⟨h₁, List.pairwise_append.2 ⟨hparts, h₂, ?_⟩, fun a ha c hc => ?_⟩
  · exact fun c hc d hd => hR (hb d hd) (hin c hc).2 le_rfl
  · rcases List.mem_append.1 hc with hc | hc
    · exact hR (h₁₂ a ha b List.mem_cons_self) le_rfl (hin c hc).1
    · exact h₁₂ a ha c (List.mem_cons_of_mem _ hc)

end Parts

/-! ### One block -/

section OneBlock

variable {g : Globals} {m : Mem} {b : Block} {l₁ l₂ : List Block} {number maxAddress : ℕ}

/-- A list of free pages with parts of a block in its place. -/
theorem FreeList.replace {m' : Mem} {parts : List Block} (h : FreeList g m (l₁ ++ b :: l₂))
    (hlinked : Linked g m' (l₁ ++ (parts ++ l₂)))
    (hin : ∀ c ∈ parts, c.Valid ∧ b.base ≤ c.base ∧ c.top ≤ b.top) (hparts : Ascending parts) :
    FreeList g m' (l₁ ++ (parts ++ l₂)) := by
  have hmem : b ∈ l₁ ++ b :: l₂ := List.mem_append_right _ List.mem_cons_self
  have hsub : ∀ {c : Block}, c ∈ l₁ ++ (parts ++ l₂) → c ∈ parts ∨ c ∈ l₁ ++ b :: l₂ := by
    intro c hc
    rcases List.mem_append.1 hc with hc | hc
    · exact .inr (List.mem_append_left _ hc)
    · rcases List.mem_append.1 hc with hc | hc
      · exact .inl hc
      · exact .inr (List.mem_append_right _ (List.mem_cons_of_mem _ hc))
  refine ⟨hlinked, fun c hc => ?_, ?_, ?_⟩
  · rcases hsub hc with hc | hc
    · exact (hin c hc).1
    · exact h.valid c hc
  · refine pairwise_replace (fun hac ha hc => ?_) h.ascending (fun c hc => (hin c hc).2) hparts
    exact (ha.trans hac).trans hc
  · refine h.apart.mono_left ?_
    rintro a ⟨c, hc, ha⟩
    rcases hsub hc with hc | hc
    · obtain ⟨-, hbase, htop⟩ := hin c hc
      exact ⟨b, hmem, hbase.trans ha.1, lt_of_lt_of_le ha.2 htop⟩
    · exact ⟨c, hc, ha⟩

/-- `Top`, as the code computes it: the sum wraps when all addresses are allowed. -/
theorem top_eq (hbase : 0 < b.base) (hle : b.base ≤ maxAddress + 1) (hmax : maxAddress < 2 ^ 64) :
    truncateToPages (usub (uadd maxAddress 1) b.base) = (maxAddress + 1 - b.base) / 4096 := by
  unfold truncateToPages usub uadd
  congr 1
  omega

/-- The upper part is linked in behind the block. -/
theorem linked_upperPart (lib : BaseLib) (h : FreeList g m (l₁ ++ b :: l₂)) (top : ℕ)
    (hpos : 1 ≤ top) :
    ∃ m', (if top < b.pages then
          lib.insertHeadList
            (setNumberOfPages m (uadd b.base (efiPagesToSize top)) (usub b.pages top)) b.base
            (uadd b.base (efiPagesToSize top))
        else m) = m' ∧
      Linked g m' (l₁ ++ b :: (upperPart b top ++ l₂)) ∧
      Set.EqOn m' m (listBytes g (l₁ ++ b :: (upperPart b top ++ l₂)))ᶜ := by
  have hb := h.mem_middle
  have hbound := hb.bound
  have halign := hb.aligned
  unfold Block.top at hbound
  unfold upperPart
  split_ifs with hlt
  · have hsize : efiPagesToSize top = top * 4096 := efiPagesToSize_eq (by omega)
    have hnode : uadd b.base (efiPagesToSize top) = b.base + 4096 * top := by
      rw [hsize, uadd_eq (by omega), Nat.mul_comm]
    have hsub : usub b.pages top = b.pages - top := usub_eq hlt.le (by omega)
    have haround := h.around
    have hfresh : Fresh g ⟨b.base + 4096 * top, b.pages - top⟩ (l₁ ++ b :: l₂) := by
      refine ⟨?_, ?_, ?_, ?_, fun a ha => ?_⟩
      · dsimp only
        omega
      · dsimp only
        omega
      · dsimp only
        omega
      · have hmem : b ∈ l₁ ++ b :: l₂ := List.mem_append_right _ List.mem_cons_self
        refine (h.apart.mono_left (addrs_subset_blockAddrs hmem)).mono_left ?_
        refine Set.Ico_subset_Ico ?_ ?_
        · dsimp only
          omega
        · simp only [Block.top]
          omega
      · dsimp only
        rcases List.mem_append.1 ha with ha | ha
        · have h₁ := haround.1 a ha
          have h₂ := (h.valid a (List.mem_append_left _ ha)).pos
          unfold Block.top at h₁
          omega
        · rcases List.mem_cons.1 ha with rfl | ha
          · omega
          · have h₁ := haround.2 a ha
            unfold Block.top at h₁
            omega
    obtain ⟨hlinked, heq⟩ := h.linked.insertAfter lib hfresh
    rw [hnode, hsub]
    exact ⟨_, rfl, hlinked, heq⟩
  · exact ⟨m, rfl, h.linked, Set.eqOn_refl m _⟩

/-- The lower part takes the place of the block. -/
theorem linked_lowerPart (lib : BaseLib) (h : Linked g m (l₁ ++ b :: l₂)) (bottom : ℕ)
    (hbottom : bottom < 2 ^ 64) :
    ∃ m', (if bottom > 0 then setNumberOfPages m b.base bottom
        else lib.removeEntryList m b.base) = m' ∧
      Linked g m' (l₁ ++ (lowerPart b bottom ++ l₂)) ∧
      Set.EqOn m' m (listBytes g (l₁ ++ b :: l₂))ᶜ := by
  have hmem : b ∈ l₁ ++ b :: l₂ := List.mem_append_right _ List.mem_cons_self
  unfold lowerPart
  split_ifs with hpos
  · exact ⟨_, rfl, h.setNumberOfPages hbottom,
      Mem.eqOn_mono (setNumberOfPages_eqOn m b bottom) fun a ha => .inr ⟨b, hmem, ha⟩⟩
  · obtain ⟨hlinked, heq⟩ := h.remove lib
    exact ⟨_, rfl, hlinked, heq⟩

/-- **The highest pages of a block below an address are taken out of the list.** -/
theorem internalAllocPagesOnOneNode_spec (lib : BaseLib) (h : FreeList g m (l₁ ++ b :: l₂))
    (hbase : 0 < b.base) (hnumber : 1 ≤ number) (hfits : Fits number maxAddress b)
    (hmax : maxAddress < 2 ^ 64) :
    ∃ m', internalAllocPagesOnOneNode lib m b.base number maxAddress =
        (b.base + 4096 * (pagesBelow b maxAddress - number), m') ∧
      FreeList g m' (l₁ ++ (carve b (pagesBelow b maxAddress - number) (pagesBelow b maxAddress) ++
        l₂)) ∧
      Set.EqOn m' m (listArea g (l₁ ++ b :: l₂))ᶜ := by
  have hb := h.mem_middle
  have hbound := hb.bound
  unfold Block.top at hbound
  have hmem : b ∈ l₁ ++ b :: l₂ := List.mem_append_right _ List.mem_cons_self
  obtain ⟨htop, htop_le⟩ := hfits.pagesBelow
  generalize htop_eq : pagesBelow b maxAddress = top at *
  have hread : numberOfPages m b.base = b.pages := h.linked.number b hmem
  have hcode : (if truncateToPages (usub (uadd maxAddress 1) b.base) > b.pages then b.pages
      else truncateToPages (usub (uadd maxAddress 1) b.base)) = top := by
    rw [top_eq hbase (by have := hfits.2; omega) hmax, ← htop_eq]
    unfold pagesBelow
    split_ifs <;> omega
  have hbottom : usub top number = top - number := usub_eq htop (by omega)
  have haddress : uadd b.base (efiPagesToSize (top - number)) =
      b.base + 4096 * (top - number) := by
    rw [efiPagesToSize_eq (by omega), uadd_eq (by omega), Nat.mul_comm]
  obtain ⟨m₁, hm₁, hlinked₁, heq₁⟩ := linked_upperPart lib h top (by omega)
  obtain ⟨m₂, hm₂, hlinked₂, heq₂⟩ := linked_lowerPart lib hlinked₁ (top - number) (by omega)
  have hparts : ∀ c ∈ carve b (top - number) top, _ := fun c hc =>
    mem_carve hb (by omega) htop_le hc
  have hlist : l₁ ++ (lowerPart b (top - number) ++ (upperPart b top ++ l₂)) =
      l₁ ++ (carve b (top - number) top ++ l₂) := by
    rw [carve, List.append_assoc]
  refine ⟨m₂, ?_, h.replace (hlist ▸ hlinked₂)
    (fun c hc => ⟨(hparts c hc).1, (hparts c hc).2.1, (hparts c hc).2.2.1⟩)
    (carve_coalesced (by omega)).ascending, ?_⟩
  · simp only [internalAllocPagesOnOneNode, hread, hcode, hbottom, haddress, hm₁, hm₂]
  · refine Mem.eqOn_mono (heq₂.trans heq₁) (Set.union_subset_union_right _ ?_)
    rintro a ⟨c, hc, ha⟩
    have hc : c ∈ l₁ ++ b :: l₂ ∨ c ∈ upperPart b top := by
      simp only [List.mem_append, List.mem_cons] at hc ⊢
      rcases hc with hc | rfl | hc | hc
      · exact .inl (.inl hc)
      · exact .inl (.inr (.inl rfl))
      · exact .inr hc
      · exact .inl (.inr (.inr hc))
    rcases hc with hc | hc
    · exact ⟨c, hc, (h.valid c hc).header_subset ha⟩
    · obtain ⟨hvalid, hge, hle, -⟩ := hparts c (List.mem_append_right _ hc)
      have ha := hvalid.header_subset ha
      exact ⟨b, hmem, hge.trans ha.1, lt_of_lt_of_le ha.2 hle⟩

end OneBlock

/-! ### The search -/

section Search

variable {g : Globals} {m : Mem} {l l₁ l₂ : List Block} {number maxAddress : ℕ}

/-- The condition of the loop says that the pages fit. -/
theorem fits_iff {b : Block} (hb : b.Valid) (hread : numberOfPages m b.base = b.pages)
    (hnumber : 1 ≤ number) :
    (numberOfPages m b.base ≥ number ∧
      usub (uadd b.base (efiPagesToSize number)) 1 ≤ maxAddress) ↔ Fits number maxAddress b := by
  have hbound := hb.bound
  unfold Block.top at hbound
  unfold Fits
  rw [hread]
  refine and_congr_right fun hle => ?_
  rw [efiPagesToSize_eq (by omega), uadd_eq (by omega), usub_eq (by omega) (by omega)]
  omega

/-- The back link of the head, or of a block, is the block before. -/
theorem Linked.backLink_eq (h : Linked g m (l₁ ++ l₂)) :
    backLink m ((l₂.map Block.base).headD g.mMmMemoryMap) =
      (l₁.map Block.base).getLastD g.mMmMemoryMap := by
  have hchain := h.list.chain
  rw [List.map_append] at hchain
  rcases l₂ with _ | ⟨b, l₂⟩
  · rw [List.map_nil, List.append_nil] at hchain
    exact hchain.backLink_eq
  · exact (chain_append.1 hchain).1.backLink_eq

/-- The forward link of the head, or of a block, is the block behind. -/
theorem Linked.forwardLink_eq (h : Linked g m (l₁ ++ l₂)) :
    forwardLink m ((l₁.map Block.base).getLastD g.mMmMemoryMap) =
      (l₂.map Block.base).headD g.mMmMemoryMap := by
  have hchain := h.list.chain
  rw [List.map_append] at hchain
  rcases List.eq_nil_or_concat l₁ with rfl | ⟨l₁, b, rfl⟩
  · exact hchain.forwardLink_eq
  · rw [List.concat_eq_append, List.map_append, List.append_assoc] at hchain
    simpa using (chain_append.1 hchain).2.forwardLink_eq

/-- A walk from the end starts at the last block. -/
theorem FreeList.backLink_head (h : FreeList g m l) :
    backLink m g.mMmMemoryMap = (l.map Block.base).getLastD g.mMmMemoryMap := by
  have hnil : FreeList g m (l ++ []) := by rwa [List.append_nil]
  exact hnil.linked.backLink_eq

/-- A walk from the end, at a block: the node is the block, not the head, and its back link is
the block before. -/
theorem FreeList.walk_back {b : Block} (h : FreeList g m (l₁ ++ b :: l₂)) :
    ((l₁ ++ [b]).map Block.base).getLastD g.mMmMemoryMap = b.base ∧
      b.base ≠ g.mMmMemoryMap ∧
      backLink m b.base = (l₁.map Block.base).getLastD g.mMmMemoryMap := by
  have hmem : b ∈ l₁ ++ b :: l₂ := List.mem_append_right _ List.mem_cons_self
  exact ⟨by simp, h.linked.ne_head hmem, h.linked.backLink_eq⟩

/-- What the search comes to: no block fits, or the last one that does is used. -/
def SearchResult (lib : BaseLib) (m : Mem) (number maxAddress : ℕ) (l : List Block)
    (result : Except Fault (ℕ × Mem)) : Prop :=
  ((∀ b ∈ l, ¬ Fits number maxAddress b) ∧ result = .ok (2 ^ 64 - 1, m)) ∨
    ∃ l₁ b l₂, l = l₁ ++ b :: l₂ ∧ Fits number maxAddress b ∧
      (∀ c ∈ l₂, ¬ Fits number maxAddress c) ∧
      result = .ok (internalAllocPagesOnOneNode lib m b.base number maxAddress)

/-- The loop, from the last block of `l₁`, when none behind it fits. -/
theorem allocMaxAddressLoop_spec (lib : BaseLib) (h : FreeList g m (l₁ ++ l₂))
    (hnumber : 1 ≤ number) (hnone : ∀ b ∈ l₂, ¬ Fits number maxAddress b) {fuel : ℕ}
    (hfuel : l₁.length < fuel) :
    SearchResult lib m number maxAddress (l₁ ++ l₂)
      (allocMaxAddressLoop lib g.mMmMemoryMap number maxAddress m fuel
        ((l₁.map Block.base).getLastD g.mMmMemoryMap)) := by
  induction l₁ using List.reverseRecOn generalizing l₂ fuel with
  | nil =>
    obtain ⟨fuel, rfl⟩ := Nat.exists_eq_add_of_lt hfuel
    have hhead : (([] : List Block).map Block.base).getLastD g.mMmMemoryMap = g.mMmMemoryMap := rfl
    refine .inl ⟨hnone, ?_⟩
    rw [hhead, allocMaxAddressLoop, if_pos rfl]
  | append_singleton l₁ b ih =>
    obtain ⟨fuel, rfl⟩ : ∃ k, fuel = k + 1 := ⟨fuel - 1, by omega⟩
    rw [List.append_assoc, List.singleton_append] at h ⊢
    obtain ⟨hnode, hhead, hback⟩ := h.walk_back
    rw [hnode, allocMaxAddressLoop, if_neg hhead]
    have hread := h.linked.number b (List.mem_append_right _ List.mem_cons_self)
    by_cases hfits : Fits number maxAddress b
    · rw [if_pos ((fits_iff h.mem_middle hread hnumber).2 hfits)]
      exact .inr ⟨l₁, b, l₂, rfl, hfits, hnone, rfl⟩
    · rw [if_neg fun hcode => hfits ((fits_iff h.mem_middle hread hnumber).1 hcode), hback]
      refine ih h (fun c hc => ?_) ?_
      · rcases List.mem_cons.1 hc with rfl | hc
        · exact hfits
        · exact hnone c hc
      · rw [List.length_append, List.length_singleton] at hfuel
        omega

/-- `InternalAllocMaxAddress`. -/
theorem internalAllocMaxAddress_spec (lib : BaseLib) (h : FreeList g m l) (hnumber : 1 ≤ number) :
    SearchResult lib m number maxAddress l
      (internalAllocMaxAddress lib m g.mMmMemoryMap number maxAddress) := by
  have hnil : FreeList g m (l ++ []) := by rwa [List.append_nil]
  have hnone : ∀ b ∈ ([] : List Block), ¬ Fits number maxAddress b := fun b hb =>
    absurd hb List.not_mem_nil
  have hloop := allocMaxAddressLoop_spec lib hnil hnumber hnone h.length_lt
  rw [List.append_nil] at hloop
  rwa [internalAllocMaxAddress, h.backLink_head]

end Search

/-! ### The allocation -/

/-- The pages of a block are taken out of a list. -/
structure Taken (l l' : List Block) (hole : Block) : Prop where
  valid : hole.Valid
  addrs : blockAddrs l' ∪ hole.addrs = blockAddrs l
  disjoint : Disjoint (blockAddrs l') hole.addrs
  coalesced : Coalesced l → Coalesced l'

section Taken

variable {g : Globals} {m : Mem} {b : Block} {l l₁ l₂ : List Block} {number maxAddress : ℕ}

/-- A block of an ascending list does not meet the others. -/
theorem FreeList.addrs_disjoint (h : FreeList g m (l₁ ++ b :: l₂)) :
    Disjoint b.addrs (blockAddrs l₁) ∧ Disjoint b.addrs (blockAddrs l₂) := by
  obtain ⟨hbelow, habove⟩ := h.around
  constructor
  · rw [Set.disjoint_left]
    rintro a ha ⟨c, hc, hac⟩
    have h₁ := hbelow c hc
    have h₂ := ha.1
    have h₃ := hac.2
    omega
  · rw [Set.disjoint_left]
    rintro a ha ⟨c, hc, hac⟩
    have h₁ := habove c hc
    have h₂ := ha.2
    have h₃ := hac.1
    omega

/-- Carving a block takes pages out of the list. -/
theorem FreeList.taken (h : FreeList g m (l₁ ++ b :: l₂)) (bottom : ℕ) {top : ℕ}
    (hbottom : bottom < top) (htop : top ≤ b.pages) :
    Taken (l₁ ++ b :: l₂) (l₁ ++ (carve b bottom top ++ l₂))
      ⟨b.base + 4096 * bottom, top - bottom⟩ := by
  have hb := h.mem_middle
  have halign := hb.aligned
  have hbound := hb.bound
  unfold Block.top at hbound
  obtain ⟨hunion, hdisjoint⟩ := carve_addrs hbottom htop
  obtain ⟨h₁, h₂⟩ := h.addrs_disjoint
  have hhole : (Block.mk (b.base + 4096 * bottom) (top - bottom)).addrs ⊆ b.addrs :=
    hunion ▸ Set.subset_union_right
  refine ⟨⟨?_, ?_, ?_⟩, ?_, ?_, fun hcoalesced => ?_⟩
  · dsimp only
    omega
  · dsimp only
    omega
  · simp only [Block.top]
    omega
  · rw [blockAddrs_append, blockAddrs_append, blockAddrs_append, blockAddrs_cons, ← hunion]
    ext a
    simp only [Set.mem_union]
    tauto
  · rw [blockAddrs_append, blockAddrs_append]
    exact Set.disjoint_union_left.2 ⟨(h₁.mono_left hhole).symm,
      Set.disjoint_union_left.2 ⟨hdisjoint, (h₂.mono_left hhole).symm⟩⟩
  · refine pairwise_replace (fun hac ha hc => ?_) hcoalesced (fun c hc => ?_)
      (carve_coalesced hbottom)
    · exact lt_of_le_of_lt ha (lt_of_lt_of_le hac hc)
    · obtain ⟨-, hge, hle, -⟩ := mem_carve hb hbottom htop hc
      exact ⟨hge, hle⟩

/-- **What an allocation of pages does**: it fails and changes nothing, or takes the
pages it returns out of the list. -/
inductive AllocResult (g : Globals) (m : Mem) (l : List Block) (number : ℕ) :
    EfiStatus × ℕ × Mem → Prop
  | failed (status : EfiStatus) (memory : ℕ) : status.isError = true →
      AllocResult g m l number (status, memory, m)
  | taken (address : ℕ) (m' : Mem) (l' : List Block) : FreeList g m' l' →
      Taken l l' ⟨address, number⟩ → Set.EqOn m' m (listArea g l)ᶜ →
      AllocResult g m l number (.success, address, m')

/-- The pages found are taken out of the list. -/
theorem SearchResult.alloc {lib : BaseLib} (h : FreeList g m l) (hlow : ∀ b ∈ l, 0 < b.base)
    (hnumber : 1 ≤ number) (hmax : maxAddress < 2 ^ 64) {result : Except Fault (ℕ × Mem)}
    (hresult : SearchResult lib m number maxAddress l result) :
    result = .ok (2 ^ 64 - 1, m) ∨ ∃ address m' l', result = .ok (address, m') ∧
      address ≠ 2 ^ 64 - 1 ∧ FreeList g m' l' ∧ Taken l l' ⟨address, number⟩ ∧
      Set.EqOn m' m (listArea g l)ᶜ := by
  rcases hresult with ⟨-, hresult⟩ | ⟨l₁, b, l₂, rfl, hfits, -, hresult⟩
  · exact .inl hresult
  · have hmem : b ∈ l₁ ++ b :: l₂ := List.mem_append_right _ List.mem_cons_self
    obtain ⟨hle, htop⟩ := hfits.pagesBelow
    obtain ⟨m', hcode, hlist, heq⟩ :=
      internalAllocPagesOnOneNode_spec lib h (hlow b hmem) hnumber hfits hmax
    have htaken := h.taken (pagesBelow b maxAddress - number) (by omega) htop
    have hsize : pagesBelow b maxAddress - (pagesBelow b maxAddress - number) = number := by omega
    rw [hsize] at htaken
    refine .inr ⟨_, m', _, by rw [hresult, hcode], ?_, hlist, htaken, heq⟩
    have halign := htaken.valid.aligned
    dsimp only at halign
    omega

/-- **`MmInternalAllocatePages`**, for any pages or those below an address. -/
theorem mmInternalAllocatePages_spec (lib : BaseLib) (h : FreeList g m l)
    (hlow : ∀ b ∈ l, 0 < b.base) {type : EfiAllocateType}
    (htype : type = .allocateAnyPages ∨ type = .allocateMaxAddress) (memoryType : EfiMemoryType)
    (hnumber : 1 ≤ number) {memory : ℕ} (hmemory : memory < 2 ^ 64) :
    ∃ result, mmInternalAllocatePages lib g m type memoryType number memory = .ok result ∧
      AllocResult g m l number result := by
  have hsearch : ∀ {maxAddress : ℕ}, maxAddress < 2 ^ 64 → ∃ result : EfiStatus × ℕ × Mem,
      (internalAllocMaxAddress lib m g.mMmMemoryMap number maxAddress >>= fun found =>
        if found.1 = 2 ^ 64 - 1 then pure (.outOfResources, found.1, found.2)
        else pure (.success, found.1, found.2)) = Except.ok result ∧
      AllocResult g m l number result := by
    intro maxAddress hmax
    rcases (internalAllocMaxAddress_spec lib h hnumber).alloc h hlow hnumber hmax with
      hnone | ⟨address, m', l', hresult, hne, hlist, htaken, heq⟩
    · exact ⟨_, by rw [hnone]; rfl, .failed .outOfResources _ (by decide)⟩
    · refine ⟨_, ?_, .taken address m' l' hlist htaken heq⟩
      rw [hresult]
      exact if_neg hne
  unfold mmInternalAllocatePages
  split_ifs
  · exact ⟨_, rfl, .failed .invalidParameter _ (by decide)⟩
  · exact ⟨_, rfl, .failed .outOfResources _ (by decide)⟩
  · rcases htype with rfl | rfl
    · exact hsearch (by norm_num)
    · exact hsearch hmemory

end Taken

end Allocation
end FfaFeature
