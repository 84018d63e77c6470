/-
# The free list in memory

The list `mMmMemoryMap` describes a list of blocks: `Linked g m l` says that the memory
`m` holds the blocks `l`, linked in this order and each with its number of pages.  The
edits `Page.c` makes of the list are one lemma each, by the blocks before and after and
by the bytes they may change: `Linked.setNumberOfPages`, `Linked.insertAfter`,
`Linked.insertBefore` and `Linked.remove`.

`FreeList g m l` adds what makes the blocks a description of free memory: every block
is page-aligned, not empty and below the end of the address space, no two overlap, they
ascend, and none meets the globals.
-/

import FfaFeature.Allocation.Page

namespace FfaFeature
namespace Allocation

open LinkedList

/-! ### Blocks -/

/-- A block of pages. -/
@[ext] structure Block where
  base : ℕ
  pages : ℕ
  deriving DecidableEq, Repr

namespace Block

/-- The first address behind the block. -/
def top (b : Block) : ℕ := b.base + 4096 * b.pages

/-- The addresses of the block. -/
def addrs (b : Block) : Set ℕ := Set.Ico b.base b.top

/-- The bytes of the `FREE_PAGE_LIST` at its base. -/
def header (b : Block) : Set ℕ := Set.Ico b.base (b.base + 24)

/-- A page-aligned block of at least one page, below the end of the address space. -/
structure Valid (b : Block) : Prop where
  aligned : b.base % 4096 = 0
  pos : 1 ≤ b.pages
  bound : b.top < 2 ^ 64

/-- The header of a block lies in the block. -/
theorem Valid.header_subset {b : Block} (h : b.Valid) : b.header ⊆ b.addrs :=
  Set.Ico_subset_Ico_right (by have := h.pos; unfold top; omega)

/-- A block has its base. -/
theorem Valid.base_mem {b : Block} (h : b.Valid) : b.base ∈ b.addrs :=
  ⟨le_rfl, by have := h.pos; unfold top; omega⟩

/-- A page-aligned region of whole pages is a block. -/
theorem exists_of_region {base size : ℕ} (hbase : base % 4096 = 0) (hsize : size % 4096 = 0)
    (hpos : 4096 ≤ size) (hbound : base + size < 2 ^ 64) :
    ∃ x : Block, x.Valid ∧ x.base = base ∧ 4096 * x.pages = size ∧
      x.addrs = Set.Ico base (base + size) := by
  obtain ⟨pages, rfl⟩ := Nat.dvd_of_mod_eq_zero hsize
  have hpages : 1 ≤ pages := by omega
  exact ⟨⟨base, pages⟩, ⟨hbase, hpages, hbound⟩, rfl, rfl, rfl⟩

end Block

/-- The addresses of several blocks. -/
def blockAddrs (l : List Block) : Set ℕ := { a | ∃ b ∈ l, a ∈ b.addrs }

/-- No blocks have no addresses. -/
@[simp] theorem blockAddrs_nil : blockAddrs [] = ∅ := by
  ext a
  simp [blockAddrs]

/-- The addresses of the first block and of the rest. -/
@[simp] theorem blockAddrs_cons (b : Block) (l : List Block) :
    blockAddrs (b :: l) = b.addrs ∪ blockAddrs l := by
  ext a
  simp [blockAddrs]

/-- The addresses of both parts. -/
@[simp] theorem blockAddrs_append (l₁ l₂ : List Block) :
    blockAddrs (l₁ ++ l₂) = blockAddrs l₁ ∪ blockAddrs l₂ := by
  ext a
  simp [blockAddrs, or_and_right, exists_or]

/-- Ascending blocks that do not overlap. -/
def Ascending (l : List Block) : Prop := l.Pairwise fun a b => a.top ≤ b.base

/-- Ascending blocks that do not even touch. -/
def Coalesced (l : List Block) : Prop := l.Pairwise fun a b => a.top < b.base

/-- Blocks with gaps between them ascend. -/
theorem Coalesced.ascending {l : List Block} (h : Coalesced l) : Ascending l :=
  h.imp fun hab => hab.le

/-! ### The blocks of the list -/

/-- The bytes an edit of the list may change: its head and the headers of its
blocks. -/
def listBytes (g : Globals) (l : List Block) : Set ℕ :=
  entryBytes g.mMmMemoryMap ∪ { a | ∃ b ∈ l, a ∈ b.header }

/-- The head of the list is one of the globals. -/
theorem memoryMap_subset (g : Globals) : entryBytes g.mMmMemoryMap ⊆ g.bytes :=
  Set.subset_union_left

/-- The memory holds the blocks, linked in this order. -/
structure Linked (g : Globals) (m : Mem) (l : List Block) : Prop where
  list : IsList m g.mMmMemoryMap (l.map Block.base)
  number : ∀ b ∈ l, numberOfPages m b.base = b.pages
  aligned : ∀ b ∈ l, b.base % 4096 = 0
  off : ∀ b ∈ l, Disjoint b.header g.bytes

section Linked

variable {g : Globals} {m m' : Mem} {b c : Block} {l l₁ l₂ : List Block}

/-- The headers of page-aligned blocks do not overlap. -/
theorem header_disjoint (hb : b.base % 4096 = 0) (hc : c.base % 4096 = 0)
    (hne : b.base ≠ c.base) : Disjoint b.header c.header :=
  Set.disjoint_left.2 fun x hx hy => by
    have h₁ := hx.1
    have h₂ := hx.2
    have h₃ := hy.1
    have h₄ := hy.2
    omega

/-- The links of a block lie in its header. -/
theorem entryBytes_subset_header (b : Block) : entryBytes b.base ⊆ b.header :=
  Set.Ico_subset_Ico_right (by omega)

/-- The links of the list are bytes of the list. -/
theorem entriesBytes_subset (g : Globals) (l : List Block) :
    entriesBytes (g.mMmMemoryMap :: l.map Block.base) ⊆ listBytes g l := by
  rintro a ⟨x, hx, ha⟩
  rcases List.mem_cons.1 hx with rfl | hx
  · exact .inl ha
  · obtain ⟨b, hb, rfl⟩ := List.mem_map.1 hx
    exact .inr ⟨b, hb, entryBytes_subset_header b ha⟩

/-- A number of pages lies apart from all links. -/
theorem numberBytes_disjoint (hb : b.base % 4096 = 0) (hoff : Disjoint b.header g.bytes)
    (hl : ∀ c ∈ l, c.base % 4096 = 0) :
    Disjoint (Set.Ico (b.base + 16) (b.base + 16 + 8))
      (entriesBytes (g.mMmMemoryMap :: l.map Block.base)) := by
  refine Set.disjoint_left.2 fun a ha => ?_
  rintro ⟨x, hx, hax⟩
  have h₁ := ha.1
  have h₂ := ha.2
  rcases List.mem_cons.1 hx with rfl | hx
  · have hmem : a ∈ b.header := ⟨by omega, by omega⟩
    exact Set.disjoint_left.1 hoff hmem (memoryMap_subset g hax)
  · obtain ⟨c, hc, rfl⟩ := List.mem_map.1 hx
    have h₃ := hax.1
    have h₄ := hax.2
    have h₅ := hl c hc
    omega

/-- The frame rule for the list. -/
theorem Linked.of_eqOn {S : Set ℕ} (h : Linked g m l) (heq : Set.EqOn m' m Sᶜ)
    (hoff : Disjoint (listBytes g l) S) : Linked g m' l := by
  have hmap := hoff.mono_left Set.subset_union_left
  have hheader : ∀ b ∈ l, Disjoint b.header S := fun b hb =>
    hoff.mono_left fun a ha => .inr ⟨b, hb, ha⟩
  refine ⟨h.list.of_eqOn heq fun x hx => ?_, fun b hb => ?_, h.aligned, h.off⟩
  · rcases List.mem_cons.1 hx with rfl | hx
    · exact hmap
    · obtain ⟨b, hb, rfl⟩ := List.mem_map.1 hx
      exact (hheader b hb).mono_left (entryBytes_subset_header b)
  · rw [← h.number b hb]
    exact Mem.load64_of_eqOn heq
      ((hheader b hb).mono_left (Set.Ico_subset_Ico (by omega) (by omega)))

/-- A page-aligned block that is not on the list lies apart from it. -/
theorem Linked.header_disjoint (h : Linked g m l) (hc : c.base % 4096 = 0)
    (hoff : Disjoint c.header g.bytes) (hnew : ∀ b ∈ l, c.base ≠ b.base) :
    Disjoint (listBytes g l) c.header := by
  refine Set.disjoint_left.2 fun a ha hac => ?_
  rcases ha with ha | ⟨b, hb, ha⟩
  · exact Set.disjoint_left.1 hoff hac (memoryMap_subset g ha)
  · exact Set.disjoint_left.1
      (Allocation.header_disjoint (h.aligned b hb) hc (hnew b hb).symm) ha hac

/-- A new block is apart from the entries of the list. -/
theorem Linked.apart (h : Linked g m l) (hc : c.base % 4096 = 0)
    (hoff : Disjoint c.header g.bytes) (hnew : ∀ b ∈ l, c.base ≠ b.base) :
    ∀ x ∈ g.mMmMemoryMap :: l.map Block.base, Apart c.base x := by
  intro x hx
  rcases List.mem_cons.1 hx with rfl | hx
  · exact apart_of_disjoint (hoff.mono (entryBytes_subset_header c) (memoryMap_subset g))
  · obtain ⟨b, hb, rfl⟩ := List.mem_map.1 hx
    have h₁ := h.aligned b hb
    have h₂ := hnew b hb
    unfold Apart
    omega

/-! ### The edits -/

/-- The count of a block lies in its header. -/
theorem setNumberOfPages_eqOn (m : Mem) (b : Block) (number : ℕ) :
    Set.EqOn (setNumberOfPages m b.base number) m b.headerᶜ :=
  Mem.eqOn_mono (m.store64_eqOn _ _) (Set.Ico_subset_Ico (by omega) (by omega))

/-- No block is the head. -/
theorem Linked.ne_head (h : Linked g m l) (hb : b ∈ l) : b.base ≠ g.mMmMemoryMap := fun he =>
  (List.nodup_cons.1 h.list.nodup).1 (he ▸ List.mem_map_of_mem hb)

/-- The blocks around one of the list have another base. -/
theorem Linked.base_ne (h : Linked g m (l₁ ++ b :: l₂)) {c : Block} (hc : c ∈ l₁ ++ l₂) :
    b.base ≠ c.base := by
  have hnodup := (List.nodup_cons.1 h.list.nodup).2
  rw [List.map_append, List.map_cons, List.nodup_middle, ← List.map_append,
    List.nodup_cons] at hnodup
  rintro he
  exact hnodup.1 (he ▸ List.mem_map_of_mem hc)

/-- Another number of pages for a block. -/
theorem Linked.setNumberOfPages (h : Linked g m (l₁ ++ b :: l₂)) {number : ℕ}
    (hnumber : number < 2 ^ 64) :
    Linked g (setNumberOfPages m b.base number) (l₁ ++ ⟨b.base, number⟩ :: l₂) := by
  have hmem : ∀ {x : Block}, x ∈ l₁ ++ ⟨b.base, number⟩ :: l₂ →
      x = ⟨b.base, number⟩ ∨ x ∈ l₁ ++ l₂ := by
    intro x hx
    rcases List.mem_append.1 hx with hx | hx
    · exact .inr (List.mem_append_left _ hx)
    · rcases List.mem_cons.1 hx with rfl | hx
      · exact .inl rfl
      · exact .inr (List.mem_append_right _ hx)
  have hsub : ∀ {x : Block}, x ∈ l₁ ++ l₂ → x ∈ l₁ ++ b :: l₂ := fun hx =>
    ((List.sublist_cons_self b l₂).append_left l₁).subset hx
  have hb : b ∈ l₁ ++ b :: l₂ := List.mem_append_right _ List.mem_cons_self
  have hbases : (l₁ ++ ⟨b.base, number⟩ :: l₂).map Block.base =
      (l₁ ++ b :: l₂).map Block.base := by
    simp
  refine ⟨?_, fun x hx => ?_, fun x hx => ?_, fun x hx => ?_⟩
  · rw [hbases]
    refine h.list.of_eqOn (m.store64_eqOn (b.base + 16) number) fun x hx => ?_
    refine (numberBytes_disjoint (h.aligned b hb) (h.off b hb) h.aligned).symm.mono_left ?_
    exact fun a ha => ⟨x, hx, ha⟩
  · rcases hmem hx with rfl | hx
    · exact Mem.load64_store64 m _ hnumber
    · rw [← h.number x (hsub hx)]
      have h₁ := h.aligned x (hsub hx)
      have h₂ := h.aligned b hb
      have h₃ := h.base_ne hx
      exact Mem.load64_store64_ne m number (by omega)
  · rcases hmem hx with rfl | hx
    · exact h.aligned b hb
    · exact h.aligned x (hsub hx)
  · rcases hmem hx with rfl | hx
    · exact h.off b hb
    · exact h.off x (hsub hx)

/-- What the lists of the two edits that link a block have in common. -/
theorem Linked.of_insert (h : Linked g m (l₁ ++ l₂)) (hc : c.base % 4096 = 0)
    (hoff : Disjoint c.header g.bytes) (hnumber : numberOfPages m c.base = c.pages)
    (hlist : IsList m' g.mMmMemoryMap ((l₁ ++ c :: l₂).map Block.base))
    (heq : Set.EqOn m' m (entriesBytes (g.mMmMemoryMap :: (l₁ ++ c :: l₂).map Block.base))ᶜ) :
    Linked g m' (l₁ ++ c :: l₂) := by
  have hcases : ∀ {P : Block → Prop}, P c → (∀ x ∈ l₁ ++ l₂, P x) → ∀ x ∈ l₁ ++ c :: l₂, P x := by
    intro P hPc hP x hx
    simp only [List.mem_append, List.mem_cons] at hx
    rcases hx with hx | rfl | hx
    · exact hP x (List.mem_append_left _ hx)
    · exact hPc
    · exact hP x (List.mem_append_right _ hx)
  have haligned := hcases hc h.aligned
  have hoff' := hcases hoff h.off
  have hnumber' : ∀ x ∈ l₁ ++ c :: l₂, numberOfPages m x.base = x.pages := hcases hnumber h.number
  refine ⟨hlist, fun x hx => ?_, haligned, hoff'⟩
  rw [← hnumber' x hx]
  exact Mem.load64_of_eqOn heq (numberBytes_disjoint (haligned x hx) (hoff' x hx) haligned)

/-- What is needed of a block that is put on the list. -/
structure Fresh (g : Globals) (c : Block) (l : List Block) : Prop where
  aligned : c.base % 4096 = 0
  pages_lt : c.pages < 2 ^ 64
  bound : c.base + 16 ≤ 2 ^ 64
  off : Disjoint c.header g.bytes
  new : ∀ b ∈ l, c.base ≠ b.base

/-- A block that is about to be linked has its number of pages. -/
theorem Linked.prepare (h : Linked g m l) (hc : Fresh g c l) :
    Linked g (Allocation.setNumberOfPages m c.base c.pages) l ∧
      numberOfPages (Allocation.setNumberOfPages m c.base c.pages) c.base = c.pages :=
  ⟨h.of_eqOn (setNumberOfPages_eqOn m c _) (h.header_disjoint hc.aligned hc.off hc.new),
    Mem.load64_store64 m _ hc.pages_lt⟩

/-- The bytes of a list with a block more have its links and its header. -/
theorem listBytes_insert (g : Globals) (c : Block) (l₁ l₂ : List Block) :
    entriesBytes (g.mMmMemoryMap :: (l₁ ++ c :: l₂).map Block.base) ∪ c.header ⊆
      listBytes g (l₁ ++ c :: l₂) :=
  Set.union_subset (entriesBytes_subset g _) fun _ ha =>
    .inr ⟨c, List.mem_append_right _ List.mem_cons_self, ha⟩

/-- **A block is linked in behind another.** -/
theorem Linked.insertAfter (lib : BaseLib) (h : Linked g m (l₁ ++ b :: l₂))
    (hc : Fresh g c (l₁ ++ b :: l₂)) :
    Linked g (lib.insertHeadList (Allocation.setNumberOfPages m c.base c.pages) b.base c.base)
        (l₁ ++ b :: c :: l₂) ∧
      Set.EqOn (lib.insertHeadList (Allocation.setNumberOfPages m c.base c.pages) b.base c.base) m
        (listBytes g (l₁ ++ b :: c :: l₂))ᶜ := by
  obtain ⟨h₁, hnumber⟩ := h.prepare hc
  have hlist := h₁.list
  have hapart := h.apart hc.aligned hc.off hc.new
  rw [List.map_append, List.map_cons] at hlist hapart
  obtain ⟨hins, heq⟩ := lib.insertHeadList_at hlist hapart hc.bound
  have happend : l₁ ++ b :: c :: l₂ = (l₁ ++ [b]) ++ c :: l₂ := by simp
  rw [happend]
  refine ⟨Linked.of_insert (by simpa using h₁) hc.aligned hc.off hnumber ?_ ?_, ?_⟩
  · simpa using hins
  · simpa using heq
  · refine Mem.eqOn_mono (Mem.eqOn_trans (setNumberOfPages_eqOn m c c.pages) heq) ?_
    rw [Set.union_comm]
    simpa using listBytes_insert g c (l₁ ++ [b]) l₂

/-- **A block is linked in before the rest of the list.** -/
theorem Linked.insertBefore (lib : BaseLib) (h : Linked g m (l₁ ++ l₂))
    (hc : Fresh g c (l₁ ++ l₂)) :
    Linked g (lib.insertTailList (Allocation.setNumberOfPages m c.base c.pages)
        ((l₂.map Block.base).headD g.mMmMemoryMap) c.base) (l₁ ++ c :: l₂) ∧
      Set.EqOn (lib.insertTailList (Allocation.setNumberOfPages m c.base c.pages)
        ((l₂.map Block.base).headD g.mMmMemoryMap) c.base) m (listBytes g (l₁ ++ c :: l₂))ᶜ := by
  obtain ⟨h₁, hnumber⟩ := h.prepare hc
  have hlist := h₁.list
  have hapart := h.apart hc.aligned hc.off hc.new
  rw [List.map_append] at hlist hapart
  obtain ⟨hins, heq⟩ := lib.insertTailList_at hlist hapart hc.bound
  refine ⟨h₁.of_insert hc.aligned hc.off hnumber ?_ ?_, ?_⟩
  · simpa using hins
  · simpa using heq
  · refine Mem.eqOn_mono (Mem.eqOn_trans (setNumberOfPages_eqOn m c c.pages) heq) ?_
    rw [Set.union_comm]
    simpa using listBytes_insert g c l₁ l₂

/-- The memory determines the blocks. -/
theorem Linked.unique {l' : List Block} (h : Linked g m l) (h' : Linked g m l') : l = l' := by
  have hread : ∀ {l : List Block}, Linked g m l →
      ((l.map Block.base).map fun base => Block.mk base (numberOfPages m base)) = l := by
    intro l h
    calc ((l.map Block.base).map fun base => Block.mk base (numberOfPages m base))
        = l.map fun b => Block.mk b.base (numberOfPages m b.base) := List.map_map
      _ = l.map id := List.map_congr_left fun b hb => by rw [h.number b hb, id]
      _ = l := List.map_id l
  rw [← hread h, ← hread h', h.list.unique h'.list]

/-- **A block is unlinked.** -/
theorem Linked.remove (lib : BaseLib) (h : Linked g m (l₁ ++ b :: l₂)) :
    Linked g (lib.removeEntryList m b.base) (l₁ ++ l₂) ∧
      Set.EqOn (lib.removeEntryList m b.base) m (listBytes g (l₁ ++ b :: l₂))ᶜ := by
  have hlist := h.list
  rw [List.map_append, List.map_cons] at hlist
  have hrem := lib.removeEntryList_isList hlist
  have heq := lib.removeEntryList_eqOn hlist
  rw [← List.map_cons, ← List.map_append] at heq
  have hsub : ∀ x ∈ l₁ ++ l₂, x ∈ l₁ ++ b :: l₂ :=
    ((List.sublist_cons_self b l₂).append_left l₁).subset
  refine ⟨⟨by simpa using hrem, fun x hx => ?_, fun x hx => h.aligned x (hsub x hx),
    fun x hx => h.off x (hsub x hx)⟩, Mem.eqOn_mono heq (entriesBytes_subset g _)⟩
  rw [← h.number x (hsub x hx)]
  exact Mem.load64_of_eqOn heq
    (numberBytes_disjoint (h.aligned x (hsub x hx)) (h.off x (hsub x hx)) h.aligned)

end Linked

/-! ### Lists of free pages -/

/-- **The memory describes the blocks, and the blocks describe free memory.** -/
structure FreeList (g : Globals) (m : Mem) (l : List Block) : Prop where
  linked : Linked g m l
  valid : ∀ b ∈ l, b.Valid
  ascending : Ascending l
  apart : Disjoint (blockAddrs l) g.bytes

/-- The bytes an operation on the list may change: its head, and all of its blocks. -/
def listArea (g : Globals) (l : List Block) : Set ℕ :=
  entryBytes g.mMmMemoryMap ∪ blockAddrs l

section FreeList

variable {g : Globals} {m : Mem} {b : Block} {l l₁ l₂ : List Block}

/-- An empty list. -/
theorem freeList_nil (h : IsList m g.mMmMemoryMap []) : FreeList g m [] := by
  have hnone : ∀ {P : Block → Prop}, ∀ b ∈ ([] : List Block), P b := fun b hb =>
    absurd hb List.not_mem_nil
  refine ⟨⟨h, hnone, hnone, hnone⟩, hnone, List.Pairwise.nil, ?_⟩
  rw [blockAddrs_nil]
  exact Set.empty_disjoint _

/-- Each block lies in the addresses of all. -/
theorem addrs_subset_blockAddrs (h : b ∈ l) : b.addrs ⊆ blockAddrs l :=
  fun _ ha => ⟨b, h, ha⟩

/-- Ascending blocks take up their pages. -/
theorem ascending_length {lo : ℕ} (hl : Ascending l) (hvalid : ∀ b ∈ l, b.Valid)
    (hlo : ∀ b ∈ l, lo ≤ b.base) (hlt : lo < 2 ^ 64) : lo + 4096 * l.length < 2 ^ 64 := by
  induction l generalizing lo with
  | nil => exact hlt
  | cons b l ih =>
    obtain ⟨hb, hl⟩ := List.pairwise_cons.1 hl
    have hvalid_b := hvalid b List.mem_cons_self
    have hpos := hvalid_b.pos
    have hlo_b := hlo b List.mem_cons_self
    have hrest := ih hl (fun c hc => hvalid c (List.mem_cons_of_mem _ hc)) hb hvalid_b.bound
    have htop : b.top = b.base + 4096 * b.pages := rfl
    rw [List.length_cons]
    omega

/-- A loop over the list ends. -/
theorem FreeList.length_lt (h : FreeList g m l) : l.length < listFuel := by
  have hlength : 0 + 4096 * l.length < 2 ^ 64 :=
    ascending_length h.ascending h.valid (fun b _ => Nat.zero_le _) (by norm_num)
  unfold listFuel
  omega

/-- Each block of the free list is valid. -/
theorem FreeList.mem_middle (h : FreeList g m (l₁ ++ b :: l₂)) : b.Valid :=
  h.valid b (List.mem_append_right _ List.mem_cons_self)

/-- The blocks around one of the list lie below or above it. -/
theorem FreeList.around (h : FreeList g m (l₁ ++ b :: l₂)) :
    (∀ a ∈ l₁, a.top ≤ b.base) ∧ ∀ a ∈ l₂, b.top ≤ a.base := by
  have hpair := List.pairwise_append.1 h.ascending
  exact ⟨fun a ha => hpair.2.2 a ha b List.mem_cons_self,
    (List.pairwise_cons.1 hpair.2.1).1⟩

/-- The bytes of the free list lie in its area. -/
theorem FreeList.headers_subset (h : FreeList g m l) : listBytes g l ⊆ listArea g l :=
  Set.union_subset_union_right _ fun _ ⟨b, hb, ha⟩ => ⟨b, hb, (h.valid b hb).header_subset ha⟩

end FreeList

end Allocation
end FfaFeature
