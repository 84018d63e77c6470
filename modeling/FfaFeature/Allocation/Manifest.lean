/-
# The heap in the manifest

`MemoryAllocationLibConstructor` looks for the heap among the subnodes of the
`memory-regions` node of the manifest and initialises the allocators with it.

The loop over the subnodes leaves on its first round, with `EFI_UNSUPPORTED` where the first
subnode is no heap.  The description is compared over the length of the shorter string, so
that `"heapX"` and an empty property pass for `"heap"`; without subnodes the constructor
succeeds with nothing initialised; a heap below 1 MB is passed on as any other, of which the
allocator takes nothing; and the size of the heap is a product of 32 bits.
`heapFound_iff` says for which manifests none of this shows.
-/

import FfaFeature.Fdt
import FfaFeature.Allocation.Pool

namespace FfaFeature
namespace Allocation

/-- `CompareMem (Destination, Source, Length) == 0`. -/
def compareMem (destination source : ℕ → BitVec 8) (length : ℕ) : Bool :=
  decide (∀ k < length, destination k = source k)

/-- `CheckDescription`: `Description` has `size` characters. -/
def checkDescription (node : FdtNode) (description : String) (size : BitVec 32) : Bool :=
  match node.getProperty "description" with
  | none => false
  | some p =>
    compareMem (fun k => (stringBytes description).getD k 0) p.data (min size.toNat p.len.toNat)

/-- `ReadRegionInfo`: `*Address` and `*Size` where it returns `TRUE`. -/
def readRegionInfo (node : FdtNode) (region : String) (regionStrSize pageSize : BitVec 32) :
    Option (BitVec 64 × BitVec 64) :=
  if checkDescription node region regionStrSize then
    match node.readProperty64 "base-address" with
    | .error _ => none
    | .ok address =>
      match node.readProperty32 "pages-count" with
      | .error _ => none
      -- The product of two `UINT32`s is one.
      | .ok localSize => some (address, (localSize * pageSize).setWidth 64)
  else none

/-- The `memory-regions` node of the manifest. -/
def memoryRegions (manifest : FdtNode) : Option FdtNode :=
  (manifest.nodeOffsetByCompatible "arm,ffa-manifest-1.0").bind
    (·.subnodeOffsetNameLen "memory-regions")

/-- The loop over the subnodes: the status the constructor returns, and the subnode taken as
the heap with its region.  Both ways through the body leave the loop. -/
def heapLoop : List FdtNode → EfiStatus × Option (FdtNode × BitVec 64 × BitVec 64)
  | [] => (.success, none)
  | node :: _ =>
    match readRegionInfo node "heap" 4 4096 with
    | none => (.unsupported, none)
    | some region => (.success, some (node, region))

/-- `MemoryAllocationLibConstructor` up to the call of `MmInitializeMemoryServices`. -/
def findHeap (manifest : FdtNode) : EfiStatus × Option (FdtNode × BitVec 64 × BitVec 64) :=
  match memoryRegions manifest with
  | none => (.invalidParameter, none)
  | some regions => heapLoop regions.subnodes

/-- `MemoryAllocationLibConstructor`: the status and the memory.  `MmramRange` lies on the
stack, and its `RegionState` is what the stack held there. -/
def memoryAllocationLibConstructor (lib : BaseLib) (g : Globals) (m : Mem)
    (regionState : BitVec 64) (manifest : FdtNode) : Except Fault (EfiStatus × Mem) :=
  match findHeap manifest with
  | (status, none) => .ok (status, m)
  | (status, some (_, cpuStart, physicalSize)) => do
    let m ← mmInitializeMemoryServices lib g m [⟨cpuStart, physicalSize, regionState⟩]
    pure (status, m)

/-! ### What the constructor should find -/

/-- The description of the node is `"heap"`. -/
def DescribesHeap (node : FdtNode) : Prop :=
  ∃ p, node.getProperty "description" = some p ∧ p.string = stringBytes "heap"

/-- The node has a `base-address` and a `pages-count`, of these values. -/
def HasRegion (node : FdtNode) (base : BitVec 64) (pages : BitVec 32) : Prop :=
  node.readProperty64 "base-address" = .ok base ∧ node.readProperty32 "pages-count" = .ok pages

/-- The node is a heap from 1 MB on. -/
def IsHeap (node : FdtNode) : Prop :=
  DescribesHeap node ∧ ∃ base pages, HasRegion node base pages ∧ 2 ^ 20 ≤ base.toNat

/-- The region is that of the node: `pages-count` pages from `base-address`. -/
def IsRegionOf (node : FdtNode) (region : BitVec 64 × BitVec 64) : Prop :=
  ∃ pages, HasRegion node region.1 pages ∧ region.2.toNat = 4096 * pages.toNat

/-- The subnodes the heap is looked for in. -/
def regionNodes (manifest : FdtNode) : List FdtNode :=
  ((memoryRegions manifest).map FdtNode.subnodes).getD []

/-- **What the constructor is for.**  It passes on the region of the first heap, wherever it
stands; it takes no other subnode for a heap; and without a heap it fails with nothing
initialised. -/
structure HeapFound (manifest : FdtNode) : Prop where
  first : ∀ before node after, regionNodes manifest = before ++ node :: after →
    (∀ x ∈ before, ¬ IsHeap x) → IsHeap node →
      ∃ taken region, findHeap manifest = (.success, some (taken, region)) ∧
        IsRegionOf node region
  described : ∀ taken region, (findHeap manifest).2 = some (taken, region) → DescribesHeap taken
  none : (∀ node ∈ regionNodes manifest, ¬ IsHeap node) →
    (findHeap manifest).1.isError ∧ (findHeap manifest).2 = none

/-- The description begins as `"heap"` does, as far as both go. -/
def PassesForHeap (node : FdtNode) : Prop :=
  ∃ p, node.getProperty "description" = some p ∧ p.bytes.take 4 <+: stringBytes "heap"

/-- The first subnode decides rightly: it is a heap of less than 2^20 pages, or there is no
heap and it does not pass for one or has no region. -/
def FirstDecides (node : FdtNode) (rest : List FdtNode) : Prop :=
  (IsHeap node ∧ ∀ base pages, HasRegion node base pages → pages.toNat < 2 ^ 20) ∨
    (∀ x ∈ node :: rest, ¬ IsHeap x) ∧
      ¬ (PassesForHeap node ∧ ∃ base pages, HasRegion node base pages)

/-! ### Reading one subnode -/

section Reading

variable {manifest node : FdtNode} {base : BitVec 64} {pages : BitVec 32}

/-- A node has one region at most. -/
theorem HasRegion.unique {base' : BitVec 64} {pages' : BitVec 32} (h : HasRegion node base pages)
    (h' : HasRegion node base' pages') : base = base' ∧ pages = pages' :=
  ⟨Except.ok.inj (h.1.symm.trans h'.1), Except.ok.inj (h.2.symm.trans h'.2)⟩

/-- What `ReadRegionInfo` reads. -/
theorem readRegionInfo_eq_some_iff {region : BitVec 64 × BitVec 64} :
    readRegionInfo node "heap" 4 4096 = some region ↔
      checkDescription node "heap" 4 = true ∧
        ∃ pages, HasRegion node region.1 pages ∧ region.2 = (pages * 4096).setWidth 64 := by
  unfold readRegionInfo HasRegion
  by_cases hcheck : checkDescription node "heap" 4 = true
  · rw [if_pos hcheck]
    rcases node.readProperty64 "base-address" with error | address
    · simp
    · rcases node.readProperty32 "pages-count" with error | localSize
      · simp
      · simp only [Option.some.injEq, hcheck, true_and, Except.ok.injEq, and_assoc]
        constructor
        · rintro rfl
          exact ⟨localSize, rfl, rfl, rfl⟩
        · rintro ⟨pages, rfl, rfl, hsize⟩
          rw [← hsize]
  · rw [if_neg hcheck]
    exact iff_of_false (fun h => by cases h) fun h => hcheck h.1

/-- The size `ReadRegionInfo` gives is that of the pages below 2^20 of them. -/
theorem size_toNat (pages : BitVec 32) :
    ((pages * 4096).setWidth 64).toNat = 4096 * (pages.toNat % 2 ^ 20) := by
  have hsize : (4096 : BitVec 32).toNat = 4096 := rfl
  rw [BitVec.toNat_setWidth, BitVec.toNat_mul, hsize]
  omega

/-- The size of a region is exact exactly below 2^20 pages. -/
theorem size_eq_iff (pages : BitVec 32) :
    ((pages * 4096).setWidth 64).toNat = 4096 * pages.toNat ↔ pages.toNat < 2 ^ 20 := by
  rw [size_toNat]
  omega

/-- `CheckDescription` compares the first four bytes, or all of them where they are fewer. -/
theorem checkDescription_iff : checkDescription node "heap" 4 = true ↔ PassesForHeap node := by
  have hheap : (stringBytes "heap").length = 4 := by decide
  unfold checkDescription PassesForHeap
  rcases node.getProperty "description" with _ | p
  · simp
  · have hlength : (p.bytes.take 4).length = min 4 p.len.toNat := by simp [FdtProperty.bytes]
    simp only [Option.some.injEq, exists_eq_left', compareMem, decide_eq_true_eq]
    have hbyte : ∀ k (hk : k < (p.bytes.take 4).length),
        (stringBytes "heap")[k]? = some (p.bytes.take 4)[k] ↔
          (stringBytes "heap").getD k 0 = p.data k := by
      intro k hk
      have hk4 : k < (stringBytes "heap").length := by
        rw [hlength] at hk
        rw [hheap]
        exact lt_of_lt_of_le hk (Nat.min_le_left _ _)
      rw [List.getD_eq_getElem?_getD, List.getElem?_eq_getElem hk4]
      simp [FdtProperty.bytes]
    rw [List.prefix_iff_getElem?]
    constructor
    · intro h k hk
      exact (hbyte k hk).2 (h k (hlength ▸ hk))
    · intro h k hk
      have hk' : k < (p.bytes.take 4).length := by
        rw [hlength]
        exact hk
      exact (hbyte k hk').1 (h k hk')

/-- A heap passes for one. -/
theorem DescribesHeap.passes (h : DescribesHeap node) : PassesForHeap node := by
  obtain ⟨p, hp, hstring⟩ := h
  have hstart : stringBytes "heap" <+: p.bytes := by
    rw [← hstring]
    exact List.takeWhile_prefix _
  have htake : stringBytes "heap" = p.bytes.take 4 := List.prefix_iff_eq_take.1 hstart
  exact ⟨p, hp, htake ▸ List.prefix_rfl⟩

/-- Which subnodes `ReadRegionInfo` accepts. -/
theorem exists_readRegionInfo_iff :
    (∃ region, readRegionInfo node "heap" 4 4096 = some region) ↔
      PassesForHeap node ∧ ∃ base pages, HasRegion node base pages := by
  rw [← checkDescription_iff]
  constructor
  · rintro ⟨region, hread⟩
    obtain ⟨hcheck, pages, hregion, -⟩ := readRegionInfo_eq_some_iff.1 hread
    exact ⟨hcheck, region.1, pages, hregion⟩
  · rintro ⟨hcheck, base, pages, hregion⟩
    exact ⟨(base, (pages * 4096).setWidth 64),
      readRegionInfo_eq_some_iff.2 ⟨hcheck, pages, hregion, rfl⟩⟩

end Reading

/-! ### The first subnode decides -/

/-- What occurs in a list occurs somewhere first. -/
theorem exists_first {α : Type*} {P : α → Prop} {l : List α} {x : α} (hx : x ∈ l) (hP : P x) :
    ∃ before y after, l = before ++ y :: after ∧ (∀ z ∈ before, ¬ P z) ∧ P y := by
  classical
  have hsome : (l.find? fun y => decide (P y)).isSome :=
    List.find?_isSome.2 ⟨x, hx, decide_eq_true hP⟩
  obtain ⟨y, hy⟩ := Option.isSome_iff_exists.1 hsome
  obtain ⟨hPy, before, after, hsplit, hbefore⟩ := List.find?_eq_some_iff_append.1 hy
  exact ⟨before, y, after, hsplit, fun z hz => by simpa using hbefore z hz, by simpa using hPy⟩

section First

variable {manifest regions node : FdtNode} {rest : List FdtNode}

/-- The nodes of the regions, where there are regions. -/
theorem regionNodes_eq (hregions : memoryRegions manifest = some regions) :
    regionNodes manifest = regions.subnodes := by
  rw [regionNodes, hregions]
  rfl

/-- And the heap is looked for among them. -/
theorem findHeap_eq (hregions : memoryRegions manifest = some regions) :
    findHeap manifest = heapLoop regions.subnodes := by
  rw [findHeap, hregions]

/-- A heap that comes first is taken. -/
theorem readRegionInfo_of_isHeap (h : IsHeap node) :
    ∃ region pages, readRegionInfo node "heap" 4 4096 = some region ∧
      HasRegion node region.1 pages ∧ region.2 = (pages * 4096).setWidth 64 ∧
      2 ^ 20 ≤ region.1.toNat := by
  obtain ⟨hdescribes, base, pages, hregion, hlow⟩ := h
  refine ⟨(base, (pages * 4096).setWidth 64), pages, ?_, hregion, rfl, hlow⟩
  exact readRegionInfo_eq_some_iff.2
    ⟨checkDescription_iff.2 hdescribes.passes, pages, hregion, rfl⟩

/-- Without a `memory-regions` node there is no heap, and the constructor fails. -/
theorem heapFound_of_none (hregions : memoryRegions manifest = none) : HeapFound manifest := by
  have hnodes : regionNodes manifest = [] := by
    rw [regionNodes, hregions]
    rfl
  have hfind : findHeap manifest = (.invalidParameter, none) := by rw [findHeap, hregions]
  refine ⟨fun before node after hsplit => ?_, fun taken region h => ?_, fun _ => ?_⟩
  · rw [hnodes] at hsplit
    exact absurd hsplit (by simp)
  · rw [hfind] at h
    cases h
  · rw [hfind]
    exact ⟨rfl, rfl⟩

/-- Without a subnode there is no heap, and the constructor succeeds. -/
theorem not_heapFound_of_nil (hregions : memoryRegions manifest = some regions)
    (hnil : regions.subnodes = []) : ¬ HeapFound manifest := by
  intro h
  have hnodes : regionNodes manifest = [] := (regionNodes_eq hregions).trans hnil
  have hfind : findHeap manifest = (.success, none) := by
    rw [findHeap_eq hregions, hnil]
    rfl
  have herror := (h.none fun node hnode => by
    rw [hnodes] at hnode
    exact absurd hnode List.not_mem_nil).1
  rw [hfind] at herror
  cases herror

/-- The subnode taken is the first one. -/
theorem findHeap_cons (hregions : memoryRegions manifest = some regions)
    (hcons : regions.subnodes = node :: rest) :
    findHeap manifest = match readRegionInfo node "heap" 4 4096 with
      | none => (.unsupported, none)
      | some region => (.success, some (node, region)) := by
  rw [findHeap_eq hregions, hcons]
  rfl

/-- What is taken for the heap is what `ReadRegionInfo` has read. -/
theorem readRegionInfo_of_findHeap {status : EfiStatus} {region : BitVec 64 × BitVec 64}
    (h : findHeap manifest = (status, some (node, region))) :
    readRegionInfo node "heap" 4 4096 = some region := by
  unfold findHeap at h
  split at h
  · cases h
  · unfold heapLoop at h
    split at h
    · cases h
    · split at h
      · cases h
      · rename_i read hread
        simp only [Prod.mk.injEq, Option.some.injEq] at h
        obtain ⟨-, rfl, rfl⟩ := h
        exact hread

/-- Where the heap is found the first subnode decides. -/
theorem firstDecides_of_heapFound (hregions : memoryRegions manifest = some regions)
    (hcons : regions.subnodes = node :: rest) (h : HeapFound manifest) :
    FirstDecides node rest := by
  have hnodes : regionNodes manifest = node :: rest := (regionNodes_eq hregions).trans hcons
  have hfind := findHeap_cons hregions hcons
  by_cases hheap : IsHeap node
  · refine .inl ⟨hheap, fun base pages hregion => ?_⟩
    obtain ⟨taken, region, htaken, pages', hregion', hsize⟩ :=
      h.first [] node rest hnodes (fun x hx => absurd hx List.not_mem_nil) hheap
    obtain ⟨read, pages'', hread, hregion'', hreadSize, -⟩ := readRegionInfo_of_isHeap hheap
    rw [hfind, hread] at htaken
    obtain rfl : read = region := (Prod.ext_iff.1 (Option.some.inj (Prod.ext_iff.1 htaken).2)).2
    obtain ⟨-, rfl⟩ := hregion''.unique hregion
    obtain ⟨-, rfl⟩ := hregion'.unique hregion
    rw [hreadSize] at hsize
    exact (size_eq_iff pages').1 hsize
  · have hno : ∀ x ∈ node :: rest, ¬ IsHeap x := by
      intro x hx hxheap
      obtain ⟨before, first, after, hsplit, hbefore, hfirst⟩ := exists_first hx hxheap
      obtain ⟨taken, region, htaken, pages, hregion, -⟩ :=
        h.first before first after (hnodes.trans hsplit) hbefore hfirst
      -- What was passed on is the region of `node`, and starts where that of `first` does.
      obtain ⟨-, base, pages', hregion', hlow⟩ := hfirst
      obtain ⟨rfl, -⟩ := hregion.unique hregion'
      rw [hfind] at htaken
      rcases hread : readRegionInfo node "heap" 4 4096 with _ | read
      · rw [hread] at htaken
        cases htaken
      · rw [hread] at hfind htaken
        obtain rfl : read = region :=
          (Prod.ext_iff.1 (Option.some.inj (Prod.ext_iff.1 htaken).2)).2
        obtain ⟨-, pages'', hregion'', -⟩ := readRegionInfo_eq_some_iff.1 hread
        have hdescribes : DescribesHeap node := h.described node read (by rw [hfind])
        exact hheap ⟨hdescribes, read.1, pages'', hregion'', hlow⟩
    refine .inr ⟨hno, fun hread => ?_⟩
    obtain ⟨region, hread⟩ := exists_readRegionInfo_iff.2 hread
    have hnone := (h.none fun x hx => hno x (hnodes ▸ hx)).2
    rw [hfind, hread] at hnone
    cases hnone

/-- And where the first subnode decides the heap is found. -/
theorem heapFound_of_firstDecides (hregions : memoryRegions manifest = some regions)
    (hcons : regions.subnodes = node :: rest) (h : FirstDecides node rest) :
    HeapFound manifest := by
  have hnodes : regionNodes manifest = node :: rest := (regionNodes_eq hregions).trans hcons
  have hfind := findHeap_cons hregions hcons
  rcases h with ⟨hheap, hpages⟩ | ⟨hnone, hpasses⟩
  · obtain ⟨region, pages, hread, hregion, hsize, -⟩ := readRegionInfo_of_isHeap hheap
    rw [hread] at hfind
    refine ⟨fun before first after hsplit hbefore hfirst => ?_, fun taken region' htaken => ?_,
      fun hno => ?_⟩
    · cases before with
      | nil =>
        obtain ⟨rfl, -⟩ := List.cons.inj (hnodes.symm.trans hsplit)
        refine ⟨node, region, hfind, pages, hregion, ?_⟩
        rw [hsize]
        exact (size_eq_iff pages).2 (hpages _ _ hregion)
      | cons y before =>
        obtain ⟨rfl, -⟩ := List.cons.inj (hnodes.symm.trans hsplit)
        exact absurd hheap (hbefore node List.mem_cons_self)
    · rw [hfind] at htaken
      obtain ⟨rfl, -⟩ := Prod.ext_iff.1 (Option.some.inj htaken)
      exact hheap.1
    · exact absurd hheap (hno node (hnodes ▸ List.mem_cons_self))
  · have hread : readRegionInfo node "heap" 4 4096 = none :=
      Option.eq_none_iff_forall_ne_some.2 fun region hread =>
        hpasses (exists_readRegionInfo_iff.1 ⟨region, hread⟩)
    have hfail : findHeap manifest = (.unsupported, none) := by rw [hfind, hread]
    refine ⟨fun before first after hsplit hbefore hfirst => ?_, fun taken region htaken => ?_,
      fun _ => ?_⟩
    · refine absurd hfirst (hnone first ?_)
      rw [← hnodes, hsplit]
      exact List.mem_append_right _ List.mem_cons_self
    · rw [hfail] at htaken
      cases htaken
    · rw [hfail]
      exact ⟨rfl, rfl⟩

end First

/-- **The constructor finds the heap exactly when the first subnode decides.**  Of all manifests
it does what it is for with those that have no `memory-regions` node, and with those whose
first subnode is the heap, of less than 2^20 pages, or is not read as one where there is
none. -/
theorem heapFound_iff (manifest : FdtNode) :
    HeapFound manifest ↔ memoryRegions manifest = none ∨
      ∃ regions node rest, memoryRegions manifest = some regions ∧
        regions.subnodes = node :: rest ∧ FirstDecides node rest := by
  constructor
  · intro h
    rcases hregions : memoryRegions manifest with _ | regions
    · exact .inl rfl
    · rcases hnodes : regions.subnodes with _ | ⟨node, rest⟩
      · exact absurd h (not_heapFound_of_nil hregions hnodes)
      · exact .inr ⟨regions, node, rest, rfl, hnodes, firstDecides_of_heapFound hregions hnodes h⟩
  · rintro (hregions | ⟨regions, node, rest, hregions, hnodes, hfirst⟩)
    · exact heapFound_of_none hregions
    · exact heapFound_of_firstDecides hregions hnodes hfirst

/-! ### Manifests -/

/-- A region of the manifest. -/
def regionNode (description : List (BitVec 8)) (base pages : List (BitVec 8)) : FdtNode :=
  .mk "region" [("description", .ofBytes description), ("base-address", .ofBytes base),
    ("pages-count", .ofBytes pages)] []

/-- A manifest with these regions. -/
def manifestOf (regions : List FdtNode) : FdtNode :=
  .mk "" [("compatible", .ofBytes (stringBytes "arm,ffa-manifest-1.0" ++ [0]))]
    [.mk "memory-regions" [] regions]

/-- A heap of 16 pages at 0x80000000. -/
def heapNode : FdtNode :=
  regionNode (stringBytes "heap" ++ [0]) [0, 0, 0, 0, 0x80, 0, 0, 0] [0, 0, 0, 16]

/-- A region with another description, of 16 pages at 0x90000000. -/
def otherNode (description : String) : FdtNode :=
  regionNode (stringBytes description ++ [0]) [0, 0, 0, 0, 0x90, 0, 0, 0] [0, 0, 0, 16]

/-- It is a heap. -/
theorem heapNode_isHeap : IsHeap heapNode :=
  ⟨⟨_, rfl, by decide⟩, 0x80000000, 16, ⟨rfl, rfl⟩, by decide⟩

/-- The regions of such a manifest. -/
theorem memoryRegions_manifestOf (regions : List FdtNode) :
    memoryRegions (manifestOf regions) = some (.mk "memory-regions" [] regions) := by
  rfl

/-- A heap behind a region that is none is not found. -/
theorem not_heapFound_behind {node : FdtNode} (h : ¬ DescribesHeap node) :
    ¬ HeapFound (manifestOf [node, heapNode]) := by
  intro hfound
  rcases firstDecides_of_heapFound (memoryRegions_manifestOf _) rfl hfound with
    ⟨hheap, -⟩ | ⟨hnone, -⟩
  · exact h hheap.1
  · exact hnone heapNode (List.mem_cons_of_mem _ List.mem_cons_self) heapNode_isHeap

/-- The description of a region is the one it was given. -/
theorem describesHeap_regionNode {description base pages : List (BitVec 8)}
    (h : DescribesHeap (regionNode description base pages)) :
    (FdtProperty.ofBytes description).string = stringBytes "heap" := by
  obtain ⟨p, hp, hstring⟩ := h
  obtain rfl : FdtProperty.ofBytes description = p := Option.some.inj hp
  exact hstring

/-- A region called a heap, of 16 pages below 1 MB. -/
def lowNode : FdtNode :=
  regionNode (stringBytes "heap" ++ [0]) [0, 0, 0, 0, 0, 0, 0x10, 0] [0, 0, 0, 16]

/-- It is no heap. -/
theorem not_isHeap_lowNode : ¬ IsHeap lowNode := by
  rintro ⟨-, base, pages, ⟨hbase, -⟩, hlow⟩
  obtain rfl : (0x1000 : BitVec 64) = base := Except.ok.inj hbase
  exact absurd hlow (by decide)

/-- **Five manifests the constructor gets wrong**: a heap that does not come first, a region
called `"heap2"` or nothing at all, no region, and a region below 1 MB. -/
theorem heapFound_fails :
    (findHeap (manifestOf [otherNode "stack", heapNode]) = (.unsupported, none) ∧
        ¬ HeapFound (manifestOf [otherNode "stack", heapNode])) ∧
      (findHeap (manifestOf [otherNode "heap2", heapNode]) =
          (.success, some (otherNode "heap2", 0x90000000, 0x10000)) ∧
        ¬ HeapFound (manifestOf [otherNode "heap2", heapNode])) ∧
      ((findHeap (manifestOf
          [regionNode [] [0, 0, 0, 0, 0x90, 0, 0, 0] [0, 0, 0, 16], heapNode])).2.isSome ∧
        ¬ HeapFound (manifestOf
          [regionNode [] [0, 0, 0, 0, 0x90, 0, 0, 0] [0, 0, 0, 16], heapNode])) ∧
      (findHeap (manifestOf []) = (.success, none) ∧ ¬ HeapFound (manifestOf [])) ∧
      findHeap (manifestOf [lowNode]) = (.success, some (lowNode, 0x1000, 0x10000)) ∧
        ¬ HeapFound (manifestOf [lowNode]) := by
  refine ⟨⟨rfl, ?_⟩, ⟨rfl, ?_⟩, ⟨rfl, ?_⟩, ⟨rfl, ?_⟩, rfl, fun h => ?_⟩
  · exact not_heapFound_behind fun h => absurd (describesHeap_regionNode h) (by decide)
  · exact not_heapFound_behind fun h => absurd (describesHeap_regionNode h) (by decide)
  · exact not_heapFound_behind fun h => absurd (describesHeap_regionNode h) (by decide)
  · exact not_heapFound_of_nil (memoryRegions_manifestOf []) rfl
  · have hno : ∀ node ∈ regionNodes (manifestOf [lowNode]), ¬ IsHeap node := fun node hnode => by
      rw [regionNodes_eq (memoryRegions_manifestOf _)] at hnode
      rw [List.mem_singleton.1 hnode]
      exact not_isHeap_lowNode
    exact absurd (h.none hno).1 (by decide)

end Allocation
end FfaFeature
