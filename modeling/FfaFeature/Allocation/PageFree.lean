/-
# Freeing pages

`MmInternalFreePages` finds the place of the freed block in the list, refuses it where it
meets one of its neighbours, links it in and merges it with the neighbours it touches.
The neighbours are enough because the list ascends (`checks_iff`); after the merges no
two blocks touch again (`mmInternalFreePages_spec`), and the `ASSERT` of
`InternalMergeNodes` holds both times it is called (`internalMergeNodes_spec`).
-/

import FfaFeature.Allocation.PageAlloc

namespace FfaFeature
namespace Allocation

open LinkedList

/-- Two blocks that touch, as one. -/
def joined (a b : Block) : Block := ⟨a.base, a.pages + b.pages⟩

/-- Two neighbours, merged if they touch. -/
def merged (a b : Block) : List Block := if a.top = b.base then [joined a b] else [a, b]

section Joined

variable {a b : Block}

/-- Joined blocks end where the second does. -/
theorem joined_top (h : a.top = b.base) : (joined a b).top = b.top := by
  unfold joined Block.top at *
  dsimp only
  omega

/-- They are a valid block. -/
theorem joined_valid (h : a.top = b.base) (ha : a.Valid) (hb : b.Valid) : (joined a b).Valid :=
  ⟨ha.aligned, by have := ha.pos; unfold joined; dsimp only; omega, joined_top h ▸ hb.bound⟩

/-- The base of a block is an address. -/
theorem Block.Valid.base_lt (h : a.Valid) : a.base < 2 ^ 64 := by
  have hbound := h.bound
  unfold Block.top at hbound
  omega

/-- The pages of two blocks can be added. -/
theorem Block.Valid.pages_add_lt (ha : a.Valid) (hb : b.Valid) : a.pages + b.pages < 2 ^ 64 := by
  have h₁ := ha.bound
  have h₂ := hb.bound
  unfold Block.top at h₁ h₂
  omega

/-- Joined blocks have the addresses of both. -/
theorem joined_addrs (h : a.top = b.base) : (joined a b).addrs = a.addrs ∪ b.addrs := by
  have htop := joined_top h
  have ha : a.base ≤ a.top := Nat.le_add_right ..
  have hb : b.base ≤ b.top := Nat.le_add_right ..
  unfold Block.addrs
  rw [htop]
  ext x
  simp only [Set.mem_union, Set.mem_Ico, joined]
  omega

end Joined

section Merge

variable {g : Globals} {m : Mem} {a b : Block} {l l₁ l₂ : List Block}

/-- **Two neighbours are merged if they touch**, and the `ASSERT` holds. -/
theorem internalMergeNodes_spec (lib : BaseLib) (h : Linked g m (l₁ ++ a :: b :: l₂))
    (hb : b.base < 2 ^ 64) (hpages : a.pages + b.pages < 2 ^ 64) (hab : a.top ≤ b.base) :
    ∃ m', internalMergeNodes lib m a.base =
        .ok (if a.top = b.base then a.base else b.base, m') ∧
      Linked g m' (l₁ ++ (merged a b ++ l₂)) ∧
      Set.EqOn m' m (listBytes g (l₁ ++ a :: b :: l₂))ᶜ := by
  have hmem : a ∈ l₁ ++ a :: b :: l₂ := List.mem_append_right _ List.mem_cons_self
  have hmem' : b ∈ l₁ ++ a :: b :: l₂ :=
    List.mem_append_right _ (List.mem_cons_of_mem _ List.mem_cons_self)
  have hnext : forwardLink m a.base = b.base := by
    have h' : Linked g m ((l₁ ++ [a]) ++ b :: l₂) := by simpa using h
    simpa using h'.forwardLink_eq
  have hread := h.number a hmem
  have hread' := h.number b hmem'
  have h₁ := h.aligned a hmem
  have h₂ := h.aligned b hmem'
  have htop : a.top = a.base + 4096 * a.pages := rfl
  have hsub : usub b.base a.base = b.base - a.base := usub_eq (by omega) (by omega)
  have hassert : ¬ (b.base - a.base) / 4096 < a.pages := by omega
  unfold internalMergeNodes merged truncateToPages
  dsimp only
  rw [hnext, hsub, hread, if_neg hassert]
  by_cases htouch : a.top = b.base
  · have hequal : (b.base - a.base) / 4096 = a.pages := by omega
    have hsum : uadd a.pages b.pages = a.pages + b.pages := uadd_eq hpages
    rw [if_pos hequal, if_pos htouch, if_pos htouch, hread', hsum]
    have hset : Linked g (setNumberOfPages m a.base (a.pages + b.pages))
        (l₁ ++ ⟨a.base, a.pages + b.pages⟩ :: b :: l₂) := h.setNumberOfPages hpages
    have happend : l₁ ++ ⟨a.base, a.pages + b.pages⟩ :: b :: l₂ =
        (l₁ ++ [joined a b]) ++ b :: l₂ := by simp [joined]
    rw [happend] at hset
    obtain ⟨hremove, heq⟩ := hset.remove lib
    refine ⟨_, rfl, by simpa using hremove, Mem.eqOn_mono
      (Mem.eqOn_trans (setNumberOfPages_eqOn m a (a.pages + b.pages)) heq) ?_⟩
    refine Set.union_subset (fun x hx => .inr ⟨a, hmem, hx⟩) ?_
    refine Set.union_subset_union_right _ ?_
    rintro x ⟨c, hc, hx⟩
    simp only [List.mem_append, List.mem_cons, List.not_mem_nil, or_false] at hc
    rcases hc with (hc | rfl) | rfl | hc
    · exact ⟨c, List.mem_append_left _ hc, hx⟩
    · exact ⟨a, hmem, hx⟩
    · exact ⟨c, hmem', hx⟩
    · exact ⟨c, by simp [hc], hx⟩
  · have hequal : (b.base - a.base) / 4096 ≠ a.pages := by omega
    rw [if_neg hequal, if_neg htouch, if_neg htouch]
    exact ⟨m, rfl, by simpa using h, Set.eqOn_refl m _⟩

end Merge

/-! ### The place of the block -/

section Place

variable {g : Globals} {m : Mem} {l l₁ l₂ : List Block} {memory : ℕ}

/-- The blocks of `l₁` lie at or below the address, those of `l₂` above it. -/
structure SplitAt (memory : ℕ) (l₁ l₂ : List Block) : Prop where
  below : ∀ b ∈ l₁, b.base ≤ memory
  above : ∀ b ∈ l₂, memory < b.base

/-- The loop, from the first block of `l₂`. -/
theorem freePagesLoop_spec (h : FreeList g m (l₁ ++ l₂)) (hbelow : ∀ b ∈ l₁, b.base ≤ memory)
    {fuel : ℕ} (hfuel : l₂.length < fuel) :
    ∃ k₁ k₂, l₁ ++ l₂ = k₁ ++ k₂ ∧ SplitAt memory k₁ k₂ ∧
      freePagesLoop g.mMmMemoryMap memory m fuel ((l₂.map Block.base).headD g.mMmMemoryMap) =
        .ok ((k₂.map Block.base).headD g.mMmMemoryMap) := by
  induction l₂ generalizing l₁ fuel with
  | nil =>
    obtain ⟨fuel, rfl⟩ : ∃ k, fuel = k + 1 := ⟨fuel - 1, by omega⟩
    refine ⟨l₁, [], rfl, ⟨hbelow, fun b hb => absurd hb List.not_mem_nil⟩, ?_⟩
    have hhead : (([] : List Block).map Block.base).headD g.mMmMemoryMap = g.mMmMemoryMap := rfl
    rw [hhead, freePagesLoop, if_pos rfl]
  | cons b l₂ ih =>
    obtain ⟨fuel, rfl⟩ : ∃ k, fuel = k + 1 := ⟨fuel - 1, by omega⟩
    have hmem : b ∈ l₁ ++ b :: l₂ := List.mem_append_right _ List.mem_cons_self
    have hnode : ((b :: l₂).map Block.base).headD g.mMmMemoryMap = b.base := rfl
    have hhead : b.base ≠ g.mMmMemoryMap := h.linked.ne_head hmem
    rw [hnode, freePagesLoop, if_neg hhead]
    have happend : l₁ ++ b :: l₂ = (l₁ ++ [b]) ++ l₂ := by simp
    by_cases hlt : memory < b.base
    · rw [if_pos hlt]
      refine ⟨l₁, b :: l₂, rfl, ⟨hbelow, fun c hc => ?_⟩, rfl⟩
      rcases List.mem_cons.1 hc with rfl | hc
      · exact hlt
      · have hbase := h.around.2 c hc
        unfold Block.top at hbase
        omega
    · have h' : FreeList g m ((l₁ ++ [b]) ++ l₂) := by rwa [← happend]
      have hforward : forwardLink m b.base = (l₂.map Block.base).headD g.mMmMemoryMap := by
        simpa using h'.linked.forwardLink_eq
      rw [if_neg hlt, hforward, happend]
      refine ih h' (fun c hc => ?_) ?_
      · rcases List.mem_append.1 hc with hc | hc
        · exact hbelow c hc
        · rw [List.mem_singleton.1 hc]
          omega
      · rw [List.length_cons] at hfuel
        omega

/-- The block does not meet those around its place. -/
structure Clear (x : Block) (l₁ l₂ : List Block) : Prop where
  below : ∀ b ∈ l₁, b.top ≤ x.base
  above : ∀ b ∈ l₂, x.top ≤ b.base

/-- The end of a block is computed without wrapping. -/
theorem Block.Valid.uadd_eq {b : Block} (hb : b.Valid) :
    uadd b.base (efiPagesToSize b.pages) = b.top := by
  have hbound := hb.bound
  unfold Block.top at *
  rw [efiPagesToSize_eq (by omega), Allocation.uadd_eq (by omega), Nat.mul_comm]

/-- The test against the block before: none of those before reaches past the address. -/
theorem previousCheck_iff (h : FreeList g m (l₁ ++ l₂)) :
    ¬ ((l₁.map Block.base).getLastD g.mMmMemoryMap ≠ g.mMmMemoryMap ∧
      uadd ((l₁.map Block.base).getLastD g.mMmMemoryMap)
        (efiPagesToSize (numberOfPages m ((l₁.map Block.base).getLastD g.mMmMemoryMap))) >
          memory) ↔ ∀ b ∈ l₁, b.top ≤ memory := by
  rcases List.eq_nil_or_concat l₁ with rfl | ⟨l₁, p, rfl⟩
  · simp
  · rw [List.concat_eq_append] at *
    have hmem : p ∈ (l₁ ++ [p]) ++ l₂ := by simp
    have hlast : ((l₁ ++ [p]).map Block.base).getLastD g.mMmMemoryMap = p.base := by simp
    have hhead : p.base ≠ g.mMmMemoryMap := h.linked.ne_head hmem
    rw [hlast, h.linked.number p hmem, (h.valid p hmem).uadd_eq, not_and, not_lt]
    rw [List.append_assoc, List.singleton_append] at h
    have hbelow := h.around.1
    refine ⟨fun hp b hb => ?_, fun hp _ => hp p (by simp)⟩
    have h₁ := hp hhead
    rcases List.mem_append.1 hb with hb | hb
    · have h₂ := hbelow b hb
      have h₃ : p.base ≤ p.top := Nat.le_add_right ..
      omega
    · rwa [List.mem_singleton.1 hb]

/-- The tests of `MmInternalFreePages` look at the two neighbours only, and that is
enough. -/
theorem checks_iff (h : FreeList g m (l₁ ++ l₂)) {x : Block} (hx : x.Valid) :
    (¬ ((l₂.map Block.base).headD g.mMmMemoryMap ≠ g.mMmMemoryMap ∧
        uadd x.base (efiPagesToSize x.pages) > (l₂.map Block.base).headD g.mMmMemoryMap) ∧
      ¬ ((l₁.map Block.base).getLastD g.mMmMemoryMap ≠ g.mMmMemoryMap ∧
        uadd ((l₁.map Block.base).getLastD g.mMmMemoryMap)
          (efiPagesToSize (numberOfPages m ((l₁.map Block.base).getLastD g.mMmMemoryMap))) >
            x.base)) ↔ Clear x l₁ l₂ := by
  have hhead : ∀ {b : Block}, b ∈ l₁ ++ l₂ → b.base ≠ g.mMmMemoryMap := fun hb =>
    h.linked.ne_head hb
  have hle : ∀ b : Block, b.base ≤ b.top := fun b => Nat.le_add_right ..
  rw [hx.uadd_eq]
  have hnext : ¬ ((l₂.map Block.base).headD g.mMmMemoryMap ≠ g.mMmMemoryMap ∧
      x.top > (l₂.map Block.base).headD g.mMmMemoryMap) ↔ ∀ b ∈ l₂, x.top ≤ b.base := by
    rcases l₂ with _ | ⟨c, l₂⟩
    · simp
    · have hne := hhead (b := c) (by simp)
      have habove := h.around.2
      show ¬ (c.base ≠ g.mMmMemoryMap ∧ x.top > c.base) ↔ _
      rw [List.forall_mem_cons, not_and, not_lt]
      refine ⟨fun hc => ⟨hc hne, fun b hb => ?_⟩, fun hc _ => hc.1⟩
      have h₁ := hc hne
      have h₂ := habove b hb
      have h₃ := hle c
      omega
  rw [hnext, previousCheck_iff h]
  exact ⟨fun hc => ⟨hc.2, hc.1⟩, fun hc => ⟨hc.above, hc.below⟩⟩

/-- A block that meets none of the free ones has a clear place, and the other way
round. -/
theorem clear_iff {x : Block} (hx : x.Valid) (hvalid : ∀ b ∈ l₁ ++ l₂, b.Valid)
    (hsplit : SplitAt x.base l₁ l₂) :
    Clear x l₁ l₂ ↔ Disjoint (blockAddrs (l₁ ++ l₂)) x.addrs := by
  constructor
  · intro hclear
    rw [Set.disjoint_left]
    rintro a ⟨b, hb, ha⟩ hax
    have h₁ := ha.1
    have h₂ := ha.2
    have h₃ := hax.1
    have h₄ := hax.2
    rcases List.mem_append.1 hb with hb | hb
    · have := hclear.below b hb
      omega
    · have := hclear.above b hb
      omega
  · intro hdisjoint
    have hmeet : ∀ b ∈ l₁ ++ l₂, ∀ a ∈ b.addrs, a ∉ x.addrs := fun b hb a ha =>
      Set.disjoint_left.1 hdisjoint ⟨b, hb, ha⟩
    refine ⟨fun b hb => ?_, fun b hb => ?_⟩
    · by_contra hlt
      have hbase := hsplit.below b hb
      exact hmeet b (List.mem_append_left _ hb) x.base ⟨hbase, by omega⟩ hx.base_mem
    · by_contra hlt
      have hbase := hsplit.above b hb
      exact hmeet b (List.mem_append_right _ hb) b.base
        (hvalid b (List.mem_append_right _ hb)).base_mem ⟨hbase.le, by omega⟩

end Place

/-! ### Linking and merging -/

/-- Valid blocks in ascending order. -/
structure Proper (l : List Block) : Prop where
  valid : ∀ b ∈ l, b.Valid
  ascending : Ascending l

section Linking

variable {g : Globals} {m : Mem} {a b x y : Block} {l l₁ l₂ k : List Block} {memory number : ℕ}

/-- Two blocks that touch may be one. -/
theorem Proper.joined (h : Proper (l₁ ++ a :: b :: l₂)) (htouch : a.top = b.base) :
    Proper (l₁ ++ joined a b :: l₂) ∧
      blockAddrs (l₁ ++ joined a b :: l₂) = blockAddrs (l₁ ++ a :: b :: l₂) := by
  obtain ⟨h₁, hab, h₁₂⟩ := List.pairwise_append.1 h.ascending
  obtain ⟨ha, hb⟩ := List.pairwise_cons.1 hab
  obtain ⟨hb, h₂⟩ := List.pairwise_cons.1 hb
  have hmem_a : a ∈ l₁ ++ a :: b :: l₂ := by simp
  have hmem_b : b ∈ l₁ ++ a :: b :: l₂ := by simp
  refine ⟨⟨fun c hc => ?_, ?_⟩, ?_⟩
  · simp only [List.mem_append, List.mem_cons] at hc
    rcases hc with hc | rfl | hc
    · exact h.valid c (List.mem_append_left _ hc)
    · exact joined_valid htouch (h.valid a hmem_a) (h.valid b hmem_b)
    · exact h.valid c (by simp [hc])
  · refine List.pairwise_append.2 ⟨h₁, List.pairwise_cons.2 ⟨fun c hc => ?_, h₂⟩,
      fun c hc d hd => ?_⟩
    · rw [joined_top htouch]
      exact hb c hc
    · rcases List.mem_cons.1 hd with rfl | hd
      · exact h₁₂ c hc a List.mem_cons_self
      · exact h₁₂ c hc d (by simp [hd])
  · simp only [blockAddrs_append, blockAddrs_cons, joined_addrs htouch, Set.union_assoc]

/-- A block put in its place. -/
theorem Proper.insert (h : Proper (l₁ ++ l₂)) (hx : x.Valid) (hclear : Clear x l₁ l₂) :
    Proper (l₁ ++ x :: l₂) ∧ blockAddrs (l₁ ++ x :: l₂) = blockAddrs (l₁ ++ l₂) ∪ x.addrs := by
  obtain ⟨h₁, h₂, h₁₂⟩ := List.pairwise_append.1 h.ascending
  refine ⟨⟨fun c hc => ?_, ?_⟩, ?_⟩
  · simp only [List.mem_append, List.mem_cons] at hc
    rcases hc with hc | rfl | hc
    · exact h.valid c (List.mem_append_left _ hc)
    · exact hx
    · exact h.valid c (List.mem_append_right _ hc)
  · refine List.pairwise_append.2 ⟨h₁, List.pairwise_cons.2 ⟨hclear.above, h₂⟩, fun c hc d hd => ?_⟩
    rcases List.mem_cons.1 hd with rfl | hd
    · exact hclear.below c hc
    · exact h₁₂ c hc d hd
  · rw [blockAddrs_append, blockAddrs_cons, blockAddrs_append, Set.union_left_comm,
      Set.union_comm x.addrs, Set.union_assoc]

/-- Blocks on either side of a block do not touch each other. -/
theorem Proper.across (h : Proper (l₁ ++ y :: l₂)) (hc : a ∈ l₁) (hd : b ∈ l₂) :
    a.top < b.base := by
  obtain ⟨-, hy, h₁₂⟩ := List.pairwise_append.1 h.ascending
  have h₁ := h₁₂ a hc y List.mem_cons_self
  have h₂ := (List.pairwise_cons.1 hy).1 b hd
  have h₃ := (h.valid y (by simp)).pos
  unfold Block.top at *
  omega

/-- What linking a block to the one before it makes of the blocks `l₁` before it, and of the
block. -/
inductive LinkedBack (x : Block) : List Block → List Block → Block → Prop
  | none : LinkedBack x [] [] x
  | apart (k : List Block) (p : Block) : p.top ≠ x.base → LinkedBack x (k ++ [p]) (k ++ [p]) x
  | joined (k : List Block) (p : Block) : p.top = x.base → LinkedBack x (k ++ [p]) k (joined p x)

/-- Linking a block to the one before it, whatever its number of pages. -/
theorem mergePrevious_linked (lib : BaseLib) (h : Linked g m (l₁ ++ x :: l₂))
    (hx : x.base < 2 ^ 64) (hbelow : ∀ b ∈ l₁, b.top ≤ x.base)
    (hpages : ∀ b ∈ l₁, b.pages + x.pages < 2 ^ 64) :
    ∃ k y m', mergePrevious lib g m x.base = .ok (y.base, m') ∧ Linked g m' (k ++ y :: l₂) ∧
      LinkedBack x l₁ k y ∧ Set.EqOn m' m (listBytes g (l₁ ++ x :: l₂))ᶜ := by
  have hback : backLink m x.base = (l₁.map Block.base).getLastD g.mMmMemoryMap := h.backLink_eq
  unfold mergePrevious
  rw [hback]
  rcases List.eq_nil_or_concat l₁ with rfl | ⟨k, p, rfl⟩
  · have hhead : (([] : List Block).map Block.base).getLastD g.mMmMemoryMap = g.mMmMemoryMap := rfl
    rw [hhead, if_neg (not_not.2 rfl)]
    exact ⟨[], x, m, rfl, h, .none, Set.eqOn_refl m _⟩
  · rw [List.concat_eq_append] at *
    have hlast : ((k ++ [p]).map Block.base).getLastD g.mMmMemoryMap = p.base := by simp
    have happend : (k ++ [p]) ++ x :: l₂ = k ++ p :: x :: l₂ := by simp
    have hmem : p ∈ (k ++ [p]) ++ x :: l₂ := by simp
    have hne : p.base ≠ g.mMmMemoryMap := h.ne_head hmem
    rw [hlast, if_pos hne]
    rw [happend] at h ⊢
    obtain ⟨m', hcode, hlinked, heq⟩ := internalMergeNodes_spec lib h hx
      (hpages p (by simp)) (hbelow p (by simp))
    rw [hcode]
    unfold merged at hlinked
    split_ifs at hlinked ⊢ with htouch
    · exact ⟨k, joined p x, m', rfl, by simpa using hlinked, .joined k p htouch, heq⟩
    · exact ⟨k ++ [p], x, m', rfl, by simpa using hlinked, .apart k p htouch, heq⟩

/-- Linking a valid block to the one before it. -/
theorem mergePrevious_spec (lib : BaseLib) (h : Linked g m (l₁ ++ x :: l₂))
    (hproper : Proper (l₁ ++ x :: l₂)) :
    ∃ k y m', mergePrevious lib g m x.base = .ok (y.base, m') ∧
      Linked g m' (k ++ y :: l₂) ∧ Proper (k ++ y :: l₂) ∧
      blockAddrs (k ++ y :: l₂) = blockAddrs (l₁ ++ x :: l₂) ∧
      (Coalesced l₁ → Coalesced (k ++ [y])) ∧
      Set.EqOn m' m (listBytes g (l₁ ++ x :: l₂))ᶜ := by
  have hx := hproper.valid x (by simp)
  have hbelow : ∀ b ∈ l₁, b.top ≤ x.base := fun b hb =>
    (List.pairwise_append.1 hproper.ascending).2.2 b hb x List.mem_cons_self
  obtain ⟨k, y, m', hcode, hlinked, hback, heq⟩ := mergePrevious_linked lib h hx.base_lt hbelow
    fun b hb => (hproper.valid b (List.mem_append_left _ hb)).pages_add_lt hx
  refine ⟨k, y, m', hcode, hlinked, ?_⟩
  cases hback with
  | none => exact ⟨hproper, rfl, fun _ => List.pairwise_singleton .., heq⟩
  | apart k p hapart =>
    refine ⟨hproper, rfl, fun hco => ?_, heq⟩
    refine List.pairwise_append.2 ⟨hco, List.pairwise_singleton .., fun c hc d hd => ?_⟩
    rw [List.mem_singleton.1 hd]
    have hpx := hbelow p (by simp)
    rcases List.mem_append.1 hc with hc | hc
    · have hproper' : Proper (k ++ p :: x :: l₂) := by simpa using hproper
      exact hproper'.across hc List.mem_cons_self
    · rw [List.mem_singleton.1 hc]
      omega
  | joined k p htouch =>
    have happend : (k ++ [p]) ++ x :: l₂ = k ++ p :: x :: l₂ := by simp
    rw [happend] at hproper heq ⊢
    obtain ⟨hjoined, haddrs⟩ := hproper.joined htouch
    refine ⟨hjoined, haddrs, fun hco => ?_, heq⟩
    obtain ⟨h₁, -, h₁₂⟩ := List.pairwise_append.1 hco
    exact List.pairwise_append.2 ⟨h₁, List.pairwise_singleton .., fun c hc d hd => by
      rw [List.mem_singleton.1 hd]
      exact h₁₂ c hc p List.mem_cons_self⟩

/-- And to the one behind it. -/
theorem mergeNext_spec (lib : BaseLib) (h : Linked g m (k ++ y :: l₂))
    (hproper : Proper (k ++ y :: l₂)) :
    ∃ node l' m', mergeNext lib g m ((l₂.map Block.base).headD g.mMmMemoryMap) y.base =
        .ok (node, m') ∧
      Linked g m' l' ∧ Proper l' ∧ blockAddrs l' = blockAddrs (k ++ y :: l₂) ∧
      (Coalesced (k ++ [y]) → Coalesced l₂ → Coalesced l') ∧
      Set.EqOn m' m (listBytes g (k ++ y :: l₂))ᶜ := by
  unfold mergeNext
  rcases l₂ with _ | ⟨n, l₂⟩
  · have hhead : (([] : List Block).map Block.base).headD g.mMmMemoryMap = g.mMmMemoryMap := rfl
    rw [hhead, if_neg (not_not.2 rfl)]
    exact ⟨_, _, m, rfl, h, hproper, rfl, fun hco _ => hco, Set.eqOn_refl m _⟩
  · have hhead : ((n :: l₂).map Block.base).headD g.mMmMemoryMap = n.base := rfl
    have hmem : n ∈ k ++ y :: n :: l₂ := by simp
    have hne : n.base ≠ g.mMmMemoryMap := h.ne_head hmem
    rw [hhead, if_pos hne]
    obtain ⟨-, hpair, -⟩ := List.pairwise_append.1 hproper.ascending
    have hyn : y.top ≤ n.base := (List.pairwise_cons.1 hpair).1 n List.mem_cons_self
    have hy := hproper.valid y (by simp)
    have hn := hproper.valid n (by simp)
    obtain ⟨m', hcode, hlinked, heq⟩ := internalMergeNodes_spec lib h hn.base_lt
      (hy.pages_add_lt hn) hyn
    rw [hcode]
    unfold merged at hlinked
    split_ifs at hlinked ⊢ with htouch
    · obtain ⟨hjoined, haddrs⟩ := hproper.joined htouch
      refine ⟨_, _, m', rfl, by simpa using hlinked, hjoined, haddrs, fun hco hco₂ => ?_, heq⟩
      obtain ⟨h₁, -, h₁₂⟩ := List.pairwise_append.1 hco
      obtain ⟨hn, h₂⟩ := List.pairwise_cons.1 hco₂
      refine List.pairwise_append.2 ⟨h₁, List.pairwise_cons.2 ⟨fun c hc => ?_, h₂⟩,
        fun c hc d hd => ?_⟩
      · rw [joined_top htouch]
        exact hn c hc
      · rcases List.mem_cons.1 hd with rfl | hd
        · exact h₁₂ c hc y List.mem_cons_self
        · exact hproper.across hc (by simp [hd])
    · refine ⟨_, _, m', rfl, by simpa using hlinked, hproper, rfl, fun hco hco₂ => ?_, heq⟩
      have h₁ := (List.pairwise_append.1 hco).1
      refine List.pairwise_append.2 ⟨h₁, List.pairwise_cons.2 ⟨fun c hc => ?_, hco₂⟩,
        fun c hc d hd => ?_⟩
      · rcases List.mem_cons.1 hc with rfl | hc
        · omega
        · have hnc := (List.pairwise_cons.1 hco₂).1 c hc
          have hn := (hproper.valid n hmem).pos
          unfold Block.top at *
          omega
      · rcases List.mem_cons.1 hd with rfl | hd
        · exact (List.pairwise_append.1 hco).2.2 c hc d List.mem_cons_self
        · exact hproper.across hc hd

/-- A block between two parts of the list may be put on it there. -/
theorem FreeList.fresh (h : FreeList g m (l₁ ++ l₂)) (haligned : x.base % 4096 = 0)
    (hlt : x.base < 2 ^ 64) (hpages : x.pages < 2 ^ 64) (hoff : Disjoint x.header g.bytes)
    (hbelow : ∀ b ∈ l₁, b.top ≤ x.base) (habove : ∀ b ∈ l₂, x.base < b.base) :
    Fresh g x (l₁ ++ l₂) := by
  refine ⟨haligned, hpages, by omega, hoff, fun b hb => ?_⟩
  rcases List.mem_append.1 hb with hb | hb
  · have hpos := (h.valid b (List.mem_append_left _ hb)).pos
    have hle := hbelow b hb
    unfold Block.top at hle
    omega
  · exact (habove b hb).ne

/-- The links of a freed block after the merge with the block before. -/
theorem linkFreedPages_eq (lib : BaseLib) {node pages : ℕ} {m₂ : Mem}
    (hprevious : mergePrevious lib g
      (lib.insertTailList (setNumberOfPages m memory number) node memory) memory =
        .ok (pages, m₂)) :
    linkFreedPages lib g m node memory number =
      (mergeNext lib g m₂ node pages).map Prod.snd := by
  unfold linkFreedPages
  dsimp only
  rw [hprevious]
  change (mergeNext lib g m₂ node pages >>= fun result => pure result.2) = _
  cases mergeNext lib g m₂ node pages <;> rfl

/-- The block is linked in where it is clear, and merged with its neighbours. -/
theorem linkFreedPages_spec (lib : BaseLib) (h : FreeList g m (l₁ ++ l₂)) (hx : x.Valid)
    (hoff : Disjoint x.addrs g.bytes) (hclear : Clear x l₁ l₂) :
    ∃ m' l', linkFreedPages lib g m ((l₂.map Block.base).headD g.mMmMemoryMap) x.base x.pages =
        .ok m' ∧
      FreeList g m' l' ∧ blockAddrs l' = blockAddrs (l₁ ++ l₂) ∪ x.addrs ∧
      (Coalesced (l₁ ++ l₂) → Coalesced l') ∧
      Set.EqOn m' m (listArea g (l₁ ++ x :: l₂))ᶜ := by
  have hbound := hx.bound
  have hpos := hx.pos
  have htop : x.top = x.base + 4096 * x.pages := rfl
  have hfresh : Fresh g x (l₁ ++ l₂) := h.fresh hx.aligned hx.base_lt (by omega)
    (hoff.mono_left hx.header_subset) hclear.below fun b hb => by
      have habove := hclear.above b hb
      omega
  obtain ⟨hproper, haddrs⟩ := Proper.insert ⟨h.valid, h.ascending⟩ hx hclear
  obtain ⟨hlinked₁, heq₁⟩ := h.linked.insertBefore lib hfresh
  obtain ⟨k, y, m₂, hcode₂, hlinked₂, hproper₂, haddrs₂, hco₂, heq₂⟩ :=
    mergePrevious_spec lib hlinked₁ hproper
  obtain ⟨node, l', m₃, hcode₃, hlinked₃, hproper₃, haddrs₃, hco₃, heq₃⟩ :=
    mergeNext_spec lib hlinked₂ hproper₂
  have hunion : blockAddrs l' = blockAddrs (l₁ ++ l₂) ∪ x.addrs :=
    haddrs₃.trans (haddrs₂.trans haddrs)
  have hsub : ∀ {l : List Block}, (∀ b ∈ l, b.Valid) → blockAddrs l = blockAddrs (l₁ ++ x :: l₂) →
      listBytes g l ⊆ listArea g (l₁ ++ x :: l₂) := fun hvalid he =>
    Set.union_subset_union_right _ fun a ⟨b, hb, ha⟩ =>
      he ▸ addrs_subset_blockAddrs hb ((hvalid b hb).header_subset ha)
  refine ⟨m₃, l', ?_, ⟨hlinked₃, hproper₃.valid, hproper₃.ascending, ?_⟩, hunion, fun hco => ?_, ?_⟩
  · rw [linkFreedPages_eq lib hcode₂, hcode₃]
    rfl
  · rw [hunion]
    exact Set.disjoint_union_left.2 ⟨h.apart, hoff⟩
  · obtain ⟨hco₁, hco₁₂, -⟩ := List.pairwise_append.1 hco
    exact hco₃ (hco₂ hco₁) hco₁₂
  · refine (Mem.eqOn_mono heq₃ (hsub hproper₂.valid haddrs₂)).trans ?_
    exact (Mem.eqOn_mono heq₂ (hsub hproper.valid rfl)).trans
      (Mem.eqOn_mono heq₁ (hsub hproper.valid rfl))

/-- What `MmInternalFreePages` does, by the place its loop finds. -/
theorem mmInternalFreePages_eq (lib : BaseLib) (h : FreeList g m l)
    (haligned : memory % 4096 = 0) :
    ∃ l₁ l₂, l = l₁ ++ l₂ ∧ SplitAt memory l₁ l₂ ∧
      mmInternalFreePages lib g m memory number =
        if (l₂.map Block.base).headD g.mMmMemoryMap ≠ g.mMmMemoryMap ∧
            uadd memory (efiPagesToSize number) > (l₂.map Block.base).headD g.mMmMemoryMap then
          .ok (.invalidParameter, m)
        else if (l₁.map Block.base).getLastD g.mMmMemoryMap ≠ g.mMmMemoryMap ∧
            uadd ((l₁.map Block.base).getLastD g.mMmMemoryMap)
              (efiPagesToSize
                (numberOfPages m ((l₁.map Block.base).getLastD g.mMmMemoryMap))) > memory then
          .ok (.invalidParameter, m)
        else linkFreedPages lib g m ((l₂.map Block.base).headD g.mMmMemoryMap) memory number >>=
          fun m => pure (.success, m) := by
  have hfirst : forwardLink m g.mMmMemoryMap = (l.map Block.base).headD g.mMmMemoryMap :=
    h.linked.list.chain.forwardLink_eq
  have hnone : ∀ b ∈ ([] : List Block), b.base ≤ memory := fun b hb => absurd hb List.not_mem_nil
  obtain ⟨l₁, l₂, hl, hsplit, hloop⟩ := freePagesLoop_spec h hnone h.length_lt
  rw [List.nil_append] at hl
  subst hl
  refine ⟨l₁, l₂, rfl, hsplit, ?_⟩
  have hback := h.linked.backLink_eq
  unfold mmInternalFreePages
  rw [if_neg (not_not.2 haligned), hfirst, hloop]
  show (if _ then _ else _) = _
  rw [hback]
  rfl

/-- **`MmInternalFreePages`** of a block that meets neither the free pages nor the
globals. -/
theorem mmInternalFreePages_spec (lib : BaseLib) (h : FreeList g m l) (hx : x.Valid)
    (hoff : Disjoint x.addrs g.bytes) (hclear : Disjoint (blockAddrs l) x.addrs) :
    ∃ m' l', mmInternalFreePages lib g m x.base x.pages = .ok (.success, m') ∧
      FreeList g m' l' ∧ blockAddrs l' = blockAddrs l ∪ x.addrs ∧
      (Coalesced l → Coalesced l') ∧ Set.EqOn m' m (listArea g (x :: l))ᶜ := by
  obtain ⟨l₁, l₂, rfl, hsplit, heq_code⟩ :=
    @mmInternalFreePages_eq _ _ _ _ x.pages lib h hx.aligned
  have hclear' := (clear_iff hx h.valid hsplit).2 hclear
  obtain ⟨hnext, hprevious⟩ := (checks_iff h hx).2 hclear'
  obtain ⟨m', l', hcode, hlist, haddrs, hco, heq⟩ := linkFreedPages_spec lib h hx hoff hclear'
  refine ⟨m', l', ?_, hlist, haddrs, hco, ?_⟩
  · rw [heq_code, if_neg hnext, if_neg hprevious, hcode]
    rfl
  · have hsame : listArea g (l₁ ++ x :: l₂) = listArea g (x :: (l₁ ++ l₂)) := by
      simp only [listArea, blockAddrs_append, blockAddrs_cons, Set.union_left_comm]
    rwa [← hsame]

/-- A region is given to `MmInternalFreePages`, from the first page boundary in it on. -/
theorem mmAddMemoryRegion_frees (lib : BaseLib) {memBase memLength base : ℕ}
    {attributes : BitVec 64} (hattributes : attributes &&& excludedAttributes = 0)
    (hbase : uadd memBase 4095 / 4096 * 4096 = base) :
    mmAddMemoryRegion lib g m memBase memLength attributes =
      (mmInternalFreePages lib g m base
        (truncateToPages (usub memLength (usub base memBase)))).map Prod.snd := by
  unfold mmAddMemoryRegion mmFreePages
  rw [if_neg (not_not.2 hattributes)]
  dsimp only
  rw [hbase]
  cases mmInternalFreePages lib g m base (truncateToPages (usub memLength (usub base memBase))) <;>
    rfl

/-- A list of one block. -/
theorem freeList_singleton (h : Linked g m [x]) (hx : x.Valid) (hoff : Disjoint x.addrs g.bytes) :
    FreeList g m [x] := by
  refine ⟨h, fun b hb => ?_, List.pairwise_singleton _ _, ?_⟩
  · rwa [List.mem_singleton.1 hb]
  · rwa [blockAddrs_cons, blockAddrs_nil, Set.union_empty]

/-- A block that is freed into an empty list is put on it as it is, whatever its size. -/
theorem mmInternalFreePages_nil (lib : BaseLib) (h : IsList m g.mMmMemoryMap [])
    (hx : Fresh g x []) :
    ∃ m', mmInternalFreePages lib g m x.base x.pages = .ok (.success, m') ∧ Linked g m' [x] := by
  have hlist := (freeList_nil h).linked
  have hforward : forwardLink m g.mMmMemoryMap = g.mMmMemoryMap := h.chain.1
  have hback : backLink m g.mMmMemoryMap = g.mMmMemoryMap := h.chain.2
  obtain ⟨hlinked, -⟩ := @Linked.insertBefore g m x [] [] lib hlist hx
  set m₁ := lib.insertTailList (setNumberOfPages m x.base x.pages) g.mMmMemoryMap x.base
  refine ⟨m₁, ?_, hlinked⟩
  have hloop : freePagesLoop g.mMmMemoryMap x.base m listFuel g.mMmMemoryMap =
      .ok g.mMmMemoryMap := by
    obtain ⟨fuel, hfuel⟩ : ∃ k, listFuel = k + 1 := ⟨2 ^ 52 - 1, rfl⟩
    rw [hfuel, freePagesLoop, if_pos rfl]
  have hlast : backLink m₁ x.base = g.mMmMemoryMap := hlinked.list.chain.2.1
  have hprevious : mergePrevious lib g m₁ x.base = .ok (x.base, m₁) := if_neg (not_not.2 hlast)
  have hnext : mergeNext lib g m₁ g.mMmMemoryMap x.base = .ok (x.base, m₁) :=
    if_neg (not_not.2 rfl)
  have hlink : linkFreedPages lib g m g.mMmMemoryMap x.base x.pages = .ok m₁ := by
    rw [linkFreedPages_eq lib hprevious, hnext]
    rfl
  unfold mmInternalFreePages
  rw [if_neg (not_not.2 hx.aligned), hforward, hloop]
  show (if _ then _ else _) = _
  rw [if_neg (fun h => h.1 rfl), if_neg (fun h => h.1 hback), hlink]
  rfl

end Linking

end Allocation
end FfaFeature
