/-
# Requests to free pages

`MmInternalFreePages` on a well-formed list, for any range of whole pages below the end of
the address space: what is free already is refused, be it a part of the range only, and
anything else becomes free (`mmInternalFreePages_decides`).

`MmAddMemoryRegion` frees the whole pages of a region.  A region without one it does not
turn down: it asks for no pages to be freed, or for `2^52 - 1` where the length wraps around.
`freePages_improper` follows such a request through the list.  It is refused inside a free
block, it disappears where it touches the end of one, and otherwise the list is spoilt or the
`ASSERT` of `InternalMergeNodes` fails.
-/

import FfaFeature.Allocation.HeapPages
import FfaFeature.Allocation.PageRuns
import Mathlib.Order.CompletePartialOrder

namespace FfaFeature
namespace Allocation

open LinkedList

section Requests

variable {g : Globals} {m : Mem} {x y : Block} {l l₁ l₂ : List Block} {memory number : ℕ}

/-! ### Refusals -/

/-- **A range that meets a free block is refused**, and the list is left alone. -/
theorem mmInternalFreePages_refuses (lib : BaseLib) (h : FreeList g m l) (hx : x.Valid)
    (hmeet : ¬ Disjoint (blockAddrs l) x.addrs) :
    mmInternalFreePages lib g m x.base x.pages = .ok (.invalidParameter, m) := by
  obtain ⟨l₁, l₂, rfl, hsplit, hcode⟩ :=
    @mmInternalFreePages_eq _ _ _ _ x.pages lib h hx.aligned
  have hchecks := (not_congr (checks_iff h hx)).2 (mt (clear_iff hx h.valid hsplit).1 hmeet)
  rw [hcode]
  split_ifs with hnext hprevious
  · rfl
  · rfl
  · exact absurd ⟨hnext, hprevious⟩ hchecks

/-- **`MmInternalFreePages` detects every full or partial double free**, and frees
everything else: a range that is not aligned or meets a free block is refused, another one
becomes free, and the list stays ascending and coalesced.  The call returns, so the `ASSERT`
of `InternalMergeNodes` holds. -/
theorem mmInternalFreePages_decides (lib : BaseLib) (h : FreeList g m l) (hco : Coalesced l)
    (hnumber : 1 ≤ number) (hbound : memory + 4096 * number < 2 ^ 64) :
    ((memory % 4096 ≠ 0 ∨ ¬ Disjoint (blockAddrs l) (pageRange memory number)) →
      mmInternalFreePages lib g m memory number = .ok (.invalidParameter, m)) ∧
    (memory % 4096 = 0 → Disjoint (blockAddrs l) (pageRange memory number) →
      Disjoint (pageRange memory number) g.bytes →
      ∃ m' l', mmInternalFreePages lib g m memory number = .ok (.success, m') ∧
        FreeList g m' l' ∧ Coalesced l' ∧
        blockAddrs l' = blockAddrs l ∪ pageRange memory number) := by
  constructor
  · intro hbad
    by_cases haligned : memory % 4096 = 0
    · have hx : (Block.mk memory number).Valid := ⟨haligned, hnumber, hbound⟩
      have hmeet := hbad.resolve_left (not_not.2 haligned)
      exact mmInternalFreePages_refuses lib h hx hmeet
    · unfold mmInternalFreePages
      rw [if_pos haligned]
  · intro haligned hclear hoff
    have hx : (Block.mk memory number).Valid := ⟨haligned, hnumber, hbound⟩
    obtain ⟨m', l', hcode, hlist, haddrs, hco', -⟩ := mmInternalFreePages_spec lib h hx hoff hclear
    exact ⟨m', l', hcode, hlist, hco' hco, haddrs⟩

/-- Three pages freed into an empty list, and the second of them freed once more. -/
theorem mmInternalFreePages_decides_twice :
    ∃ m', mmInternalFreePages .standard lowGlobals bootMem 0x100000 3 = .ok (.success, m') ∧
      mmInternalFreePages .standard lowGlobals m' 0x101000 1 = .ok (.invalidParameter, m') := by
  have hoff : Disjoint (pageRange 0x100000 3) lowGlobals.bytes :=
    lowGlobals_disjoint fun a ha => ha.1
  obtain ⟨m', l', hcode, hlist, hco, haddrs⟩ :=
    (mmInternalFreePages_decides .standard (freeList_nil bootMem_isList) List.Pairwise.nil
      (by decide : 1 ≤ 3) (by decide : 0x100000 + 4096 * 3 < 2 ^ 64)).2 (by decide)
      (by rw [blockAddrs_nil]; exact Set.empty_disjoint _) hoff
  refine ⟨m', hcode, (mmInternalFreePages_decides .standard hlist hco (by decide) (by decide)).1
    (.inr fun hdisjoint => ?_)⟩
  rw [haddrs] at hdisjoint
  have hfree : 0x101000 ∈ pageRange 0x100000 3 := ⟨by decide, by decide⟩
  exact Set.disjoint_left.1 hdisjoint (.inr hfree) ⟨le_rfl, by decide⟩

/-! ### Requests that free no page -/

/-- What `MmAddMemoryRegion` asks to free where there is no whole page: nothing, or so many
pages that the end wraps around to below the address. -/
structure Improper (x : Block) : Prop where
  aligned : x.base % 4096 = 0
  base_lt : x.base < 2 ^ 64
  pages : x.pages = 0 ∨ (x.pages = 2 ^ 52 - 1 ∧ 4096 ≤ x.base)

/-- A block without pages, or that wraps, is not valid. -/
theorem Improper.not_valid (h : Improper x) : ¬ x.Valid := by
  intro hx
  have hpos := hx.pos
  have hbound := hx.bound
  have hpages := h.pages
  unfold Block.top at hbound
  omega

/-- The end of such a block never lies above its base. -/
theorem Improper.uadd_le (h : Improper x) : uadd x.base (efiPagesToSize x.pages) ≤ x.base := by
  have hlt := h.base_lt
  unfold uadd efiPagesToSize
  rcases h.pages with hzero | ⟨hpages, hbase⟩
  · rw [hzero]
    omega
  · rw [hpages]
    omega

/-- `InternalMergeNodes` where the number of pages reaches past the next block. -/
theorem internalMergeNodes_fault (lib : BaseLib) (h : Linked g m (l₁ ++ x :: y :: l₂))
    (hxy : x.base ≤ y.base) (hy : y.base < 2 ^ 64) (hover : y.base < x.top) :
    internalMergeNodes lib m x.base = .error .assertion := by
  have hnext : forwardLink m x.base = y.base := by
    have h' : Linked g m ((l₁ ++ [x]) ++ y :: l₂) := by simpa using h
    simpa using h'.forwardLink_eq
  have hread := h.number x (List.mem_append_right _ List.mem_cons_self)
  have hsub : usub y.base x.base = y.base - x.base := usub_eq hxy hy
  have hassert : (y.base - x.base) / 4096 < x.pages := by
    have htop : x.top = x.base + 4096 * x.pages := rfl
    omega
  unfold internalMergeNodes truncateToPages
  dsimp only
  rw [hnext, hsub, hread, if_pos hassert]

/-- The merge with the block behind, when the block may be none: it leaves the list as it is,
or its `ASSERT` fails. -/
theorem mergeNext_improper (lib : BaseLib) (h : Linked g m (l₁ ++ y :: l₂))
    (habove : ∀ b ∈ l₂, y.base < b.base ∧ y.top ≠ b.base) (hlt : ∀ b ∈ l₂, b.base < 2 ^ 64)
    (hpages : ∀ b ∈ l₂, y.pages + b.pages < 2 ^ 64) :
    ((∃ b ∈ l₂, b.base < y.top) ∧
      mergeNext lib g m ((l₂.map Block.base).headD g.mMmMemoryMap) y.base = .error .assertion) ∨
    ∃ node m', mergeNext lib g m ((l₂.map Block.base).headD g.mMmMemoryMap) y.base =
        .ok (node, m') ∧ Linked g m' (l₁ ++ y :: l₂) := by
  unfold mergeNext
  rcases l₂ with _ | ⟨n, l₂⟩
  · have hhead : (([] : List Block).map Block.base).headD g.mMmMemoryMap = g.mMmMemoryMap := rfl
    rw [hhead, if_neg (not_not.2 rfl)]
    exact .inr ⟨_, m, rfl, h⟩
  · have hhead : ((n :: l₂).map Block.base).headD g.mMmMemoryMap = n.base := rfl
    have hmem : n ∈ n :: l₂ := List.mem_cons_self
    have hne : n.base ≠ g.mMmMemoryMap := h.ne_head (by simp)
    obtain ⟨hyn, hapart⟩ := habove n hmem
    rw [hhead, if_pos hne]
    by_cases hover : n.base < y.top
    · exact .inl ⟨⟨n, hmem, hover⟩, internalMergeNodes_fault lib h hyn.le (hlt n hmem) hover⟩
    · obtain ⟨m', hcode, hlinked, -⟩ :=
        internalMergeNodes_spec lib h (hlt n hmem) (hpages n hmem) (not_lt.1 hover)
      unfold merged at hlinked
      rw [if_neg hapart] at hlinked
      exact .inr ⟨_, m', hcode, hlinked⟩

/-- **A request that frees no page**, past the tests: it disappears at the end of a free
block, and otherwise leaves an entry that is no block, unless the `ASSERT` fails. -/
theorem linkFreedPages_improper (lib : BaseLib) (h : FreeList g m (l₁ ++ l₂))
    (hx : Improper x) (hoff : Disjoint x.header g.bytes) (hbelow : ∀ b ∈ l₁, b.top ≤ x.base)
    (habove : ∀ b ∈ l₂, x.base < b.base) :
    ((x.pages = 0 ∧ ∃ b ∈ l₁, b.top = x.base) ∧
      ∃ m', linkFreedPages lib g m ((l₂.map Block.base).headD g.mMmMemoryMap) x.base x.pages =
        .ok m' ∧ Linked g m' (l₁ ++ l₂)) ∨
    (¬ (x.pages = 0 ∧ ∃ b ∈ l₁, b.top = x.base) ∧
      ∀ m', linkFreedPages lib g m ((l₂.map Block.base).headD g.mMmMemoryMap) x.base x.pages =
        .ok m' → ∃ l' y, Linked g m' l' ∧ y ∈ l' ∧ ¬ y.Valid) := by
  have hlt := hx.base_lt
  have hpages := hx.pages
  have hx_top : x.top = x.base + 4096 * x.pages := rfl
  have hvalid₁ : ∀ b ∈ l₁, b.Valid := fun b hb => h.valid b (List.mem_append_left _ hb)
  have hvalid₂ : ∀ b ∈ l₂, b.Valid := fun b hb => h.valid b (List.mem_append_right _ hb)
  obtain ⟨hlinked₁, -⟩ := h.linked.insertBefore lib
    (h.fresh hx.aligned hlt (by omega) hoff hbelow habove)
  obtain ⟨k, y, m₂, hcode₂, hlinked₂, hback, -⟩ := mergePrevious_linked lib hlinked₁ hlt hbelow
    fun b hb => by
      have hbound := (hvalid₁ b hb).bound
      unfold Block.top at hbound
      omega
  -- the block at hand begins at or below the freed one and ends with it
  have hy : y.base ≤ x.base ∧ y.top = x.top := by
    cases hback with
    | none => exact ⟨le_rfl, rfl⟩
    | apart => exact ⟨le_rfl, rfl⟩
    | joined k p htouch => exact ⟨le_trans (Nat.le_add_right ..) htouch.le, joined_top htouch⟩
  have hy_top : y.top = y.base + 4096 * y.pages := rfl
  have hnext := mergeNext_improper lib hlinked₂
    (fun b hb => by
      have hbase := habove b hb
      have hb_lt := (hvalid₂ b hb).base_lt
      omega)
    (fun b hb => (hvalid₂ b hb).base_lt)
    (fun b hb => by
      have hbound := (hvalid₂ b hb).bound
      unfold Block.top at hbound
      omega)
  rw [linkFreedPages_eq lib hcode₂]
  rcases hnext with ⟨⟨b, hb, hover⟩, hcode⟩ | ⟨node, m₃, hcode, hlinked₃⟩
  · rw [hcode]
    refine .inr ⟨fun hzero => ?_, fun m' hm => ?_⟩
    · have hbase := habove b hb
      omega
    · cases hm
  · rw [hcode]
    -- an entry that is no block stays, but for one of no pages that joins the block before
    have hstays : ¬ y.Valid → ∀ m', Except.map Prod.snd (.ok (node, m₃) : Except Fault (ℕ × Mem)) =
        .ok m' → ∃ l' y, Linked g m' l' ∧ y ∈ l' ∧ ¬ y.Valid := by
      intro hvalid m' hm
      obtain rfl := Except.ok.inj hm
      exact ⟨_, y, hlinked₃, by simp, hvalid⟩
    cases hback with
    | none => exact .inr ⟨fun ⟨_, b, hb, _⟩ => absurd hb List.not_mem_nil, hstays hx.not_valid⟩
    | apart k p hapart =>
      refine .inr ⟨fun ⟨_, b, hb, he⟩ => ?_, hstays hx.not_valid⟩
      rcases List.mem_append.1 hb with hb | hb
      · -- below the last block, and so below the freed one
        have hasc := (List.pairwise_append.1 h.ascending).1
        have hbp := (List.pairwise_append.1 hasc).2.2 b hb p (List.mem_singleton_self p)
        have hpx := hbelow p (by simp)
        have hpos := (hvalid₁ p (by simp)).pos
        have htop : p.top = p.base + 4096 * p.pages := rfl
        omega
      · exact hapart (List.mem_singleton.1 hb ▸ he)
    | joined k p htouch =>
      rcases hpages with hzero | ⟨hmany, hbase⟩
      · refine .inl ⟨⟨hzero, p, by simp, htouch⟩, m₃, rfl, ?_⟩
        have hsame : joined p x = p := by
          unfold joined
          rw [hzero, Nat.add_zero]
        rw [hsame] at hlinked₃
        simpa using hlinked₃
      · refine .inr ⟨by omega, hstays fun hvalid => ?_⟩
        have hbound := hvalid.bound
        omega

/-- **Such a request as a whole.**  It leaves the list as it is where it lies inside a free
block, or frees nothing at the end of one. -/
theorem freePages_improper (lib : BaseLib) (h : FreeList g m l) (hx : Improper x)
    (hoff : Disjoint x.header g.bytes) :
    ((∃ b ∈ l, b.base ≤ x.base ∧ (x.base < b.top ∨ (x.base = b.top ∧ x.pages = 0))) ∧
      ∃ status m', mmInternalFreePages lib g m x.base x.pages = .ok (status, m') ∧
        Linked g m' l) ∨
    ((¬ ∃ b ∈ l, b.base ≤ x.base ∧ (x.base < b.top ∨ (x.base = b.top ∧ x.pages = 0))) ∧
      ∀ status m', mmInternalFreePages lib g m x.base x.pages = .ok (status, m') →
        ∃ l' y, Linked g m' l' ∧ y ∈ l' ∧ ¬ y.Valid) := by
  obtain ⟨l₁, l₂, rfl, hsplit, hcode⟩ :=
    @mmInternalFreePages_eq _ _ _ _ x.pages lib h hx.aligned
  have hle := hx.uadd_le
  have hnext : ¬ ((l₂.map Block.base).headD g.mMmMemoryMap ≠ g.mMmMemoryMap ∧
      uadd x.base (efiPagesToSize x.pages) > (l₂.map Block.base).headD g.mMmMemoryMap) := by
    rcases l₂ with _ | ⟨c, l₂⟩
    · exact fun hc => hc.1 rfl
    · rintro ⟨-, hover⟩
      have habove := hsplit.above c List.mem_cons_self
      have hhead : ((c :: l₂).map Block.base).headD g.mMmMemoryMap = c.base := rfl
      rw [hhead] at hover
      omega
  rw [hcode, if_neg hnext]
  split_ifs with hprevious
  · have hover := (not_congr (previousCheck_iff h)).1 (not_not.2 hprevious)
    push Not at hover
    obtain ⟨b, hb, hlt⟩ := hover
    refine .inl ⟨⟨b, List.mem_append_left _ hb, hsplit.below b hb, .inl hlt⟩, _, m, rfl, h.linked⟩
  · have hbelow := (previousCheck_iff h).1 hprevious
    -- no block above the address, and none before it that reaches past it
    have hcond : (∃ b ∈ l₁ ++ l₂, b.base ≤ x.base ∧
        (x.base < b.top ∨ (x.base = b.top ∧ x.pages = 0))) ↔
          x.pages = 0 ∧ ∃ b ∈ l₁, b.top = x.base := by
      constructor
      · rintro ⟨b, hb, hbase, hcase⟩
        rcases List.mem_append.1 hb with hb | hb
        · have hle := hbelow b hb
          rcases hcase with hlt | ⟨he, hzero⟩
          · omega
          · exact ⟨hzero, b, hb, he.symm⟩
        · have habove := hsplit.above b hb
          omega
      · rintro ⟨hzero, b, hb, he⟩
        exact ⟨b, List.mem_append_left _ hb, hsplit.below b hb, .inr ⟨he.symm, hzero⟩⟩
    rw [hcond]
    rcases linkFreedPages_improper lib h hx hoff hbelow hsplit.above with
      ⟨hyes, m', hcode, hlinked⟩ | ⟨hno, hall⟩
    · rw [hcode]
      exact .inl ⟨hyes, _, m', rfl, hlinked⟩
    · refine .inr ⟨hno, fun status m' hm => ?_⟩
      cases hlink : linkFreedPages lib g m ((l₂.map Block.base).headD g.mMmMemoryMap) x.base
          x.pages with
      | error fault =>
        rw [hlink] at hm
        cases hm
      | ok m'' =>
        rw [hlink] at hm
        obtain ⟨-, rfl⟩ := Prod.mk.inj (Except.ok.inj hm)
        exact hall m'' hlink

/-! ### Regions -/

/-- The pages `MmAddMemoryRegion` comes to where the region holds a whole one. -/
theorem addedPages_eq {base size : ℕ} (hbound : base + size ≤ 2 ^ 64 - 4096)
    (hcount : 0 < wholePageCount base size) :
    addedPages base size = wholePageCount base size := by
  have hoffset : usub (pageUp base) base = pageUp base - base :=
    usub_eq (by unfold pageUp; omega) (by unfold pageUp; omega)
  have hsize : usub size (pageUp base - base) = size - (pageUp base - base) := by
    unfold wholePageCount at hcount
    exact usub_eq (by unfold pageUp; omega) (by omega)
  unfold addedPages truncateToPages
  rw [hoffset, hsize]
  unfold wholePageCount pageUp at *
  omega

/-- And where it holds none: nothing, or all but one of the pages there are. -/
theorem addedPages_improper {base size : ℕ} (hbound : base + size ≤ 2 ^ 64 - 4096)
    (hcount : wholePageCount base size = 0) :
    Improper ⟨pageUp base, addedPages base size⟩ ∧
      (addedPages base size = 0 ↔ pageUp base ≤ base + size) := by
  have hoffset : usub (pageUp base) base = pageUp base - base :=
    usub_eq (by unfold pageUp; omega) (by unfold pageUp; omega)
  have hpages : (addedPages base size = 0 ∧ pageUp base ≤ base + size) ∨
      (addedPages base size = 2 ^ 52 - 1 ∧ 4096 ≤ pageUp base ∧ base + size < pageUp base) := by
    unfold addedPages truncateToPages
    rw [hoffset]
    unfold wholePageCount at hcount
    unfold usub pageUp
    omega
  refine ⟨⟨?_, ?_, ?_⟩, ?_⟩
  · simp only [pageUp]
    omega
  · simp only [pageUp]
    omega
  · dsimp only
    omega
  · omega

/-- What `MmAddMemoryRegion` asks to be freed. -/
theorem mmAddMemoryRegion_eq (lib : BaseLib) {memBase memLength : ℕ} {attributes : BitVec 64}
    (hbound : memBase + memLength ≤ 2 ^ 64 - 4096)
    (hattributes : attributes &&& excludedAttributes = 0) :
    mmAddMemoryRegion lib g m memBase memLength attributes =
      (mmInternalFreePages lib g m (pageUp memBase) (addedPages memBase memLength)).map
        Prod.snd := by
  have haligned : uadd memBase 4095 / 4096 * 4096 = pageUp memBase := by
    rw [uadd_eq (by omega)]
    rfl
  exact mmAddMemoryRegion_frees lib hattributes haligned

/-- **The region becomes free**: the list stays well-formed, and the whole pages of the
region are what is added to it. -/
def AddsWholePages (lib : BaseLib) (g : Globals) (m : Mem) (l : List Block)
    (memBase memLength : ℕ) (attributes : BitVec 64) : Prop :=
  ∃ m' l', mmAddMemoryRegion lib g m memBase memLength attributes = .ok m' ∧
    FreeList g m' l' ∧ Coalesced l' ∧
    blockAddrs l' = blockAddrs l ∪ wholePages memBase memLength

/-- A region without a whole page, at the list it leaves. -/
theorem addsWholePages_improper (lib : BaseLib) (h : FreeList g m l) (hco : Coalesced l)
    {memBase memLength : ℕ} {attributes : BitVec 64}
    (hbound : memBase + memLength ≤ 2 ^ 64 - 4096)
    (hheader : Disjoint (Set.Ico (pageUp memBase) (pageUp memBase + 24)) g.bytes)
    (hattributes : attributes &&& excludedAttributes = 0)
    (hcount : wholePageCount memBase memLength = 0) :
    AddsWholePages lib g m l memBase memLength attributes ↔
      ∃ b ∈ l, b.base ≤ pageUp memBase ∧ (pageUp memBase < b.top ∨
        (pageUp memBase = b.top ∧ pageUp memBase ≤ memBase + memLength)) := by
  obtain ⟨himproper, hzero⟩ := addedPages_improper hbound hcount
  unfold AddsWholePages
  rw [mmAddMemoryRegion_eq lib hbound hattributes, (wholePages_eq_empty_iff _ _).2 hcount,
    Set.union_empty, ← hzero]
  rcases freePages_improper lib h himproper hheader with
    ⟨hyes, status, m', hcode, hlinked⟩ | ⟨hno, hall⟩
  · refine iff_of_true ⟨m', l, ?_, ⟨hlinked, h.valid, h.ascending, h.apart⟩, hco, rfl⟩ hyes
    rw [hcode]
    rfl
  · refine iff_of_false ?_ hno
    rintro ⟨m', l', hm, hlist, -⟩
    cases hfree : mmInternalFreePages lib g m (pageUp memBase) (addedPages memBase memLength) with
    | error fault =>
      rw [hfree] at hm
      cases hm
    | ok result =>
      rw [hfree] at hm
      obtain rfl := Except.ok.inj hm
      obtain ⟨l'', y, hlinked, hmem, hvalid⟩ := hall result.1 result.2 hfree
      rw [hlist.linked.unique hlinked] at hlist
      exact hvalid (hlist.valid y hmem)

/-- The whole pages of a region, as a block. -/
theorem wholePages_valid {base size : ℕ} (hbound : base + size ≤ 2 ^ 64 - 4096)
    (hcount : 0 < wholePageCount base size) :
    (Block.mk (pageUp base) (wholePageCount base size)).Valid := by
  refine ⟨?_, hcount, ?_⟩
  · simp only [pageUp]
    omega
  · simp only [Block.top, pageUp, wholePageCount]
    omega

/-- A region with a whole page. -/
theorem mmAddMemoryRegion_whole (lib : BaseLib) (h : FreeList g m l) {memBase memLength : ℕ}
    {attributes : BitVec 64} (hbound : memBase + memLength ≤ 2 ^ 64 - 4096)
    (hcount : 0 < wholePageCount memBase memLength)
    (hoff : Disjoint (wholePages memBase memLength) g.bytes)
    (hclear : Disjoint (blockAddrs l) (wholePages memBase memLength))
    (hattributes : attributes &&& excludedAttributes = 0) :
    ∃ m' l', mmAddMemoryRegion lib g m memBase memLength attributes = .ok m' ∧
      FreeList g m' l' ∧ blockAddrs l' = blockAddrs l ∪ wholePages memBase memLength ∧
      (Coalesced l → Coalesced l') ∧ Set.EqOn m' m (listArea g l')ᶜ := by
  rw [wholePages_eq] at hoff hclear ⊢
  obtain ⟨m', l', hcode, hlist, haddrs, hco, heq⟩ :=
    mmInternalFreePages_spec lib h (wholePages_valid hbound hcount) hoff hclear
  refine ⟨m', l', ?_, hlist, haddrs, hco, Mem.eqOn_mono heq ?_⟩
  · rw [mmAddMemoryRegion_eq lib hbound hattributes, addedPages_eq hbound hcount, hcode]
    rfl
  · unfold listArea
    rw [haddrs, blockAddrs_cons, Set.union_comm (Block.addrs _)]

/-- **`MmAddMemoryRegion` adds the whole pages of the region exactly when** there is one, or the
request that frees none lies inside a free block, or touches the end of one without wrapping
around. -/
theorem mmAddMemoryRegion_wholePages_iff (lib : BaseLib) (h : FreeList g m l)
    (hco : Coalesced l) {memBase memLength : ℕ} {attributes : BitVec 64}
    (hbound : memBase + memLength ≤ 2 ^ 64 - 4096)
    (hclear : Disjoint (blockAddrs l) (Set.Ico memBase (memBase + memLength)))
    (hoff : Disjoint (Set.Ico memBase (memBase + memLength)) g.bytes)
    (hheader : Disjoint (Set.Ico (pageUp memBase) (pageUp memBase + 24)) g.bytes)
    (hattributes : attributes &&& excludedAttributes = 0) :
    AddsWholePages lib g m l memBase memLength attributes ↔
      0 < wholePageCount memBase memLength ∨
        ∃ b ∈ l, b.base ≤ pageUp memBase ∧ (pageUp memBase < b.top ∨
          (pageUp memBase = b.top ∧ pageUp memBase ≤ memBase + memLength)) := by
  rcases Nat.eq_zero_or_pos (wholePageCount memBase memLength) with hcount | hcount
  · rw [addsWholePages_improper lib h hco hbound hheader hattributes hcount]
    exact ⟨.inr, fun hor => hor.resolve_left (by omega)⟩
  · have hsub := wholePages_subset memBase memLength
    obtain ⟨m', l', hcode, hlist, haddrs, hco', -⟩ := mmAddMemoryRegion_whole lib h hbound hcount
      (hoff.mono_left hsub) (hclear.mono_right hsub) hattributes
    exact iff_of_true ⟨m', l', hcode, hlist, hco' hco, haddrs⟩ (.inl hcount)

/-- Two pages and a bit, from an address that is not aligned: the two pages become free. -/
theorem mmAddMemoryRegion_wholePages_two :
    AddsWholePages .standard lowGlobals bootMem [] 0x100800 0x2c00 0 := by
  have hoff : ∀ lo hi, 2 ^ 20 ≤ lo → Disjoint (Set.Ico lo hi) lowGlobals.bytes := fun lo hi hlo =>
    lowGlobals_disjoint fun a ha => hlo.trans ha.1
  exact (mmAddMemoryRegion_wholePages_iff .standard (freeList_nil bootMem_isList)
    List.Pairwise.nil (by decide) (by rw [blockAddrs_nil]; exact Set.empty_disjoint _)
    (hoff _ _ (by decide)) (hoff _ _ (by decide)) (by decide)).2 (.inl (by decide))

/-- **A region of less than a page puts a block of no pages on the list.** -/
theorem mmAddMemoryRegion_short :
    ¬ AddsWholePages .standard lowGlobals bootMem [] 0x100000 0x800 0 := by
  have hheader : Disjoint (Set.Ico (pageUp 0x100000) (pageUp 0x100000 + 24)) lowGlobals.bytes :=
    lowGlobals_disjoint fun a ha => le_trans (by decide) ha.1
  rw [addsWholePages_improper .standard (freeList_nil bootMem_isList) List.Pairwise.nil
    (by decide) hheader (by decide) (by decide)]
  rintro ⟨b, hb, -⟩
  exact absurd hb List.not_mem_nil

end Requests

end Allocation
end FfaFeature
