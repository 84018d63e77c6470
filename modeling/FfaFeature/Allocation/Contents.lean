/-
# What the clients of the library keep

The clients of the memory allocation library know which pages and buffers they hold, and of
some bytes what they are: those they have written, those of a buffer filled with zeros, and
those copied from bytes they know.  A `View` is that knowledge, and `View.next` what a call
adds to it: `AllocateZeroPool` adds zeros, `AllocateCopyPool` the bytes copied, and
`ReallocatePool` the bytes of the old buffer and zeros behind them, while the old buffer and
its bytes are given up.  Where a call returns `NULL` the view stays as it was.

`Represents g arena m L v` says that the memory has what the view has.  The parts the calls
consist of are one lemma each: the allocator may work (`moves`), a block becomes a buffer and
is written (`toBuffer`), a buffer is given up (`fromBuffer`), and the same for pages.
-/

import FfaFeature.Allocation.Library
import FfaFeature.Allocation.PoolRuns

namespace FfaFeature
namespace Allocation

open LinkedList

/-! ### The view of the clients -/

/-- What the clients know: the pages and the buffers they hold, each buffer with the size asked
for, and the bytes whose values they rely on. -/
structure View where
  pages : List Block
  buffers : List Extent
  known : ℕ → Option (BitVec 8)

namespace View

/-- Before the first call. -/
def start : View := ⟨[], [], fun _ => none⟩

/-- What is held, as extents. -/
def regions (v : View) : List Extent := v.pages.map Block.extent ++ v.buffers

/-- The addresses held. -/
def held (v : View) : Set ℕ := extentAddrs v.regions

/-- One more buffer, the `i`-th byte of which is known to be `f i`. -/
def addBuffer (v : View) (address size : ℕ) (f : ℕ → Option (BitVec 8)) : View :=
  { v with buffers := ⟨address, size⟩ :: v.buffers, known := overwrite v.known address size f }

/-- A buffer less. -/
def dropBuffer (v : View) (address : ℕ) : View :=
  match v.buffers.find? (·.base = address) with
  | none => v
  | some b => { v with
      buffers := v.buffers.erase b, known := overwrite v.known b.base b.size fun _ => none }

/-- More pages, with unknown contents. -/
def addPages (v : View) (address pages : ℕ) : View :=
  { v with
    pages := ⟨address, pages⟩ :: v.pages
    known := overwrite v.known address (4096 * pages) fun _ => none }

/-- Some pages less. -/
def dropPages (v : View) (address pages : ℕ) : View :=
  { v with
    pages := v.pages.erase ⟨address, pages⟩
    known := overwrite v.known address (4096 * pages) fun _ => none }

/-- A byte that was written. -/
def write (v : View) (address : ℕ) (byte : BitVec 8) : View :=
  { v with known := Function.update v.known address (some byte) }

end View

/-- A call of the library, or the write of a byte. -/
inductive LibraryInput
  | allocatePages (pages : BitVec 64)
  | freePages (buffer pages : BitVec 64)
  | allocateAlignedPages (pages alignment : BitVec 64)
  | freeAlignedPages (buffer pages : BitVec 64)
  | allocatePool (allocationSize : BitVec 64)
  | allocateZeroPool (allocationSize : BitVec 64)
  | allocateCopyPool (allocationSize buffer : BitVec 64)
  | reallocatePool (oldSize newSize oldBuffer : BitVec 64)
  | freePool (buffer : BitVec 64)
  | write (address : ℕ) (byte : BitVec 8)

/-- What a call that returns `r` adds to the view. -/
def View.next (v : View) (r : ℕ) : LibraryInput → View
  | .allocatePages pages => if r = 0 then v else v.addPages r pages.toNat
  | .freePages buffer pages => v.dropPages buffer.toNat pages.toNat
  | .allocateAlignedPages pages _ => if r = 0 then v else v.addPages r pages.toNat
  | .freeAlignedPages buffer pages => v.dropPages buffer.toNat pages.toNat
  | .allocatePool size => if r = 0 then v else v.addBuffer r size.toNat fun _ => none
  | .allocateZeroPool size => if r = 0 then v else v.addBuffer r size.toNat fun _ => some 0
  | .allocateCopyPool size buffer =>
    if r = 0 then v else v.addBuffer r size.toNat fun i => v.known (buffer.toNat + i)
  | .reallocatePool oldSize newSize oldBuffer =>
    if r = 0 then v
    else if oldBuffer = 0 then v.addBuffer r newSize.toNat fun _ => some 0
    else
      (v.addBuffer r newSize.toNat fun i =>
        if i < oldSize.toNat then v.known (oldBuffer.toNat + i) else some 0).dropBuffer
          oldBuffer.toNat
  | .freePool buffer => v.dropBuffer buffer.toNat
  | .write address byte => v.write address byte

/-- What the clients promise, for the memory `arena`: what is freed is held, a size leaves room
for the header, an alignment is a power of two, a copy ends within the address space, and the
bytes written are held, or not the allocator's at all. -/
def LibraryInput.Valid (g : Globals) (arena : Set ℕ) (v : View) : LibraryInput → Prop
  | .allocatePages _ => True
  | .freePages buffer pages => Block.mk buffer.toNat pages.toNat ∈ v.pages
  | .allocateAlignedPages pages alignment => IsAlignment alignment.toNat ∧
      (4096 < alignment.toNat → pages.toNat + efiSizeToPages alignment.toNat < 2 ^ 64)
  | .freeAlignedPages buffer pages => Block.mk buffer.toNat pages.toNat ∈ v.pages
  | .allocatePool size => size.toNat + poolHeaderSize < 2 ^ 64
  | .allocateZeroPool size => size.toNat + poolHeaderSize < 2 ^ 64
  | .allocateCopyPool size buffer => size.toNat + poolHeaderSize < 2 ^ 64 ∧ buffer ≠ 0 ∧
      buffer.toNat + size.toNat ≤ 2 ^ 64
  | .reallocatePool oldSize newSize oldBuffer => newSize.toNat + poolHeaderSize < 2 ^ 64 ∧
      (oldBuffer ≠ 0 → ∃ b ∈ v.buffers, b.base = oldBuffer.toNat ∧ oldSize.toNat ≤ b.size)
  | .freePool buffer => ∃ b ∈ v.buffers, b.base = buffer.toNat
  | .write address _ => address ∈ v.held ∨ address ∉ arena ∪ g.bytes

/-! ### The invariant -/

/-- A buffer lies behind the header of its block. -/
structure Backs (e b : Extent) : Prop where
  base : b.base = e.base + poolHeaderSize
  room : b.top ≤ e.top

/-- **The memory represents a view**: the layout is in order and has what the clients hold, and
every byte known is in memory, at an address that is held or not the allocator's. -/
structure Represents (g : Globals) (arena : Set ℕ) (m : Mem) (L : Layout) (v : View) : Prop where
  inv : PoolInv g arena m L
  pages : L.pages = v.pages
  buffers : List.Forall₂ Backs L.buffers v.buffers
  known : ∀ a byte, v.known a = some byte → m a = byte
  mine : ∀ a byte, v.known a = some byte → a ∈ v.held ∨ a ∉ arena ∪ g.bytes

/-! ### Buffers and blocks -/

section Backed

variable {e b : Extent} {l k : List Extent}

/-- The buffer is none of the header. -/
theorem Backs.subset (h : Backs e b) : b.addrs ⊆ payload e := by
  intro a ha
  exact ⟨h.base ▸ ha.1, ha.2.trans_le h.room⟩

/-- The payload of a block lies in the block. -/
theorem payload_subset (e : Extent) : payload e ⊆ e.addrs := fun _ ha =>
  ⟨(Nat.le_add_right _ _).trans ha.1, ha.2⟩

/-- Buffers lie in the blocks behind them. -/
theorem backed_subset (h : List.Forall₂ Backs l k) : extentAddrs k ⊆ extentAddrs l := by
  induction h with
  | nil => exact Set.Subset.rfl
  | cons hbacks _ ih =>
    rw [extentAddrs_cons, extentAddrs_cons]
    exact Set.union_subset_union (hbacks.subset.trans (payload_subset _)) ih

/-- A buffer that is held has a block. -/
theorem exists_backs (h : List.Forall₂ Backs l k) (hb : b ∈ k) : ∃ e ∈ l, Backs e b := by
  induction h with
  | nil => exact absurd hb List.not_mem_nil
  | cons hbacks _ ih =>
    rcases List.mem_cons.1 hb with rfl | hb
    · exact ⟨_, List.mem_cons_self, hbacks⟩
    · obtain ⟨e, he, hbacks'⟩ := ih hb
      exact ⟨e, List.mem_cons_of_mem _ he, hbacks'⟩

/-- Buffers in separate blocks are separate. -/
theorem separate_backed (h : List.Forall₂ Backs l k) (hsep : Separate l) : Separate k := by
  induction h with
  | nil => exact hsep
  | cons hbacks hrest ih =>
    obtain ⟨hdisjoint, hsep⟩ := separate_cons.1 hsep
    exact separate_cons.2 ⟨hdisjoint.mono (hbacks.subset.trans (payload_subset _))
      (backed_subset hrest), ih hsep⟩

/-- The buffer found at an address, and its block, leave the lists together. -/
theorem backed_find {address : ℕ} (h : List.Forall₂ Backs l k)
    (hfind : ∃ b ∈ k, b.base = address) :
    ∃ e b, e ∈ l ∧ b ∈ k ∧ k.find? (·.base = address) = some b ∧ Backs e b ∧
      b.base = address ∧ List.Forall₂ Backs (l.erase e) (k.erase b) := by
  induction h with
  | nil =>
    obtain ⟨b, hb, -⟩ := hfind
    exact absurd hb List.not_mem_nil
  | @cons e b l k hbacks hrest ih =>
    by_cases hbase : b.base = address
    · refine ⟨e, b, List.mem_cons_self, List.mem_cons_self, ?_, hbacks, hbase, ?_⟩
      · rw [List.find?_cons_of_pos (by simpa using hbase)]
      · rwa [List.erase_cons_head, List.erase_cons_head]
    · obtain ⟨b', hb', hbase'⟩ := hfind
      have hmem : b' ∈ k := (List.mem_cons.1 hb').resolve_left (by rintro rfl; exact hbase hbase')
      obtain ⟨e', b'', he', hb'', hcode, hbacks', hbase'', herase⟩ := ih ⟨b', hmem, hbase'⟩
      have hne : b ≠ b'' := by
        rintro rfl
        exact hbase hbase''
      have hne' : e ≠ e' := by
        rintro rfl
        exact hbase (hbacks.base.trans (hbacks'.base.symm.trans hbase''))
      refine ⟨e', b'', List.mem_cons_of_mem _ he', List.mem_cons_of_mem _ hb'', ?_, hbacks',
        hbase'', ?_⟩
      · rw [List.find?_cons_of_neg (by simpa using hbase), hcode]
      · rw [List.erase_cons_tail (by simpa using hne'), List.erase_cons_tail (by simpa using hne)]
        exact .cons hbacks herase

end Backed

/-! ### What the allocator does not touch -/

/-- The bytes a client may write: its pages and its buffers, without their headers. -/
def Layout.writable (L : Layout) : Set ℕ :=
  blockAddrs L.pages ∪ { a | ∃ e ∈ L.buffers, a ∈ payload e }

section Frame

variable {g : Globals} {arena : Set ℕ} {m m' : Mem} {L L' : Layout}

/-- What clients may write is held. -/
theorem Layout.writable_subset (L : Layout) : L.writable ⊆ L.held := by
  refine Set.union_subset_union_right _ ?_
  rintro a ⟨e, he, ha⟩
  exact ⟨e, he, payload_subset e ha⟩

/-- **The clients may write** what they hold and what is not the allocator's. -/
theorem PoolInv.clientWrite {S : Set ℕ} (h : PoolInv g arena m L) (heq : Set.EqOn m' m Sᶜ)
    (hS : S ⊆ L.writable ∪ (arena ∪ g.bytes)ᶜ) : PoolInv g arena m' L := by
  obtain ⟨-, hblocks, -, hlists, hbuffers⟩ := h.parts_subset
  have hown := h.own_subset
  simp only [Set.union_subset_iff] at hown
  -- what the allocator has is disjoint from both parts of `S`
  have hoff : ∀ {T : Set ℕ}, T ⊆ L.own g arena → T ⊆ arena ∪ g.bytes → Disjoint T S := by
    intro T hT harena
    refine Set.disjoint_left.2 fun a ha haS => ?_
    rcases hS haS with hwritable | houtside
    · rcases hT ha with hglobal | ⟨-, hfree⟩
      · have hheld := L.writable_subset hwritable
        exact Set.disjoint_left.1 h.managed.off
          (Set.union_subset h.parts_subset.2.2.1 hbuffers hheld) hglobal
      · exact hfree (L.writable_subset hwritable)
    · exact houtside (harena ha)
  have hglobals : L.own g arena ⊆ arena ∪ g.bytes :=
    Set.union_subset Set.subset_union_right (Set.sdiff_subset.trans Set.subset_union_left)
  refine { h with
    freeList := h.freeList.of_eqOn heq (hoff hown.2.1 (hown.2.1.trans hglobals))
    lists := h.lists.of_eqOn heq (hoff hown.2.2 (hown.2.2.trans hglobals))
    buffers := fun e he => (h.buffers e he).of_eqOn heq ?_ }
  have hheader := (h.buffers e he).placed.header_subset
  refine Set.disjoint_left.2 fun a ha haS => ?_
  rcases hS haS with (hpages | hpayload) | houtside
  · exact Set.disjoint_left.1 h.apart.pages_buffers hpages (addrs_subset he (hheader ha))
  · exact Set.disjoint_left.1 (h.header_payload he) ha hpayload
  · exact houtside (.inl (hbuffers (addrs_subset he (hheader ha))))

end Frame

/-! ### How the view changes -/

section Represents

variable {g : Globals} {arena : Set ℕ} {m m' : Mem} {L L' : Layout} {v : View} {t : List Extent}

/-- What a view holds are its pages and its buffers. -/
theorem View.held_eq (v : View) : v.held = blockAddrs v.pages ∪ extentAddrs v.buffers := by
  unfold View.held View.regions
  rw [extentAddrs_append, extentAddrs_blocks]

/-- What clients hold they may write. -/
theorem Represents.held_subset (h : Represents g arena m L v) : v.held ⊆ L.writable := by
  rw [v.held_eq, ← h.pages]
  refine Set.union_subset_union_right _ ?_
  rintro a ⟨b, hb, ha⟩
  obtain ⟨e, he, hbacks⟩ := exists_backs h.buffers hb
  exact ⟨e, he, hbacks.subset ha⟩

/-- **What the clients hold does not overlap.** -/
theorem Represents.separate (h : Represents g arena m L v) : Separate v.regions := by
  have hbuffers := separate_backed h.buffers (Layout.separate_buffers h.inv.separate)
  have hapart := h.inv.apart.pages_buffers
  obtain ⟨-, h₁, -⟩ := separate_append.1 h.inv.separate
  obtain ⟨-, h₂, -⟩ := separate_append.1 h₁
  obtain ⟨hpages, -, -⟩ := separate_append.1 h₂
  rw [h.pages] at hpages hapart
  refine separate_append.2 ⟨hpages, hbuffers, ?_⟩
  rw [extentAddrs_blocks]
  exact hapart.mono_right (backed_subset h.buffers)

/-- And it lies in the memory managed. -/
theorem Represents.held_arena (h : Represents g arena m L v) : v.held ⊆ arena := by
  obtain ⟨-, -, hpages, -, hbuffers⟩ := h.inv.parts_subset
  exact (h.held_subset.trans L.writable_subset).trans (Set.union_subset hpages hbuffers)

/-- **The allocator may work**: a byte that is known is not its to change. -/
theorem Represents.moves (h : Represents g arena m L v) (hmoves : Moves g arena m L m' L') :
    Represents g arena m' L' v := by
  refine ⟨hmoves.inv, hmoves.pages.trans h.pages, hmoves.buffers ▸ h.buffers, ?_, h.mine⟩
  intro a byte hknown
  have hoff : a ∉ L.own g arena := by
    rintro (hglobal | ⟨hmem, hfree⟩)
    · rcases h.mine a byte hknown with hheld | hout
      · exact Set.disjoint_left.1 h.inv.managed.off (h.held_arena hheld) hglobal
      · exact hout (.inr hglobal)
    · rcases h.mine a byte hknown with hheld | hout
      · exact hfree (L.writable_subset (h.held_subset hheld))
      · exact hout (.inl hmem)
  exact (hmoves.frame hoff).trans (h.known a byte hknown)

/-- A block becomes a buffer, and the library writes it. -/
theorem Represents.toBuffer (h : Represents g arena m L v) {e : Extent} {size : ℕ}
    {f : ℕ → Option (BitVec 8)} (ht : L.transit = e :: t) (hlive : LiveBlock m e)
    (hroom : e.base + poolHeaderSize + size ≤ e.top)
    (heq : Set.EqOn m' m
      (Set.Ico (e.base + poolHeaderSize) (e.base + poolHeaderSize + size))ᶜ)
    (hf : ∀ i < size, ∀ byte, f i = some byte → m' (e.base + poolHeaderSize + i) = byte) :
    Represents g arena m' { L with transit := t, buffers := e :: L.buffers }
      (v.addBuffer (e.base + poolHeaderSize) size f) := by
  have hbacks : Backs e ⟨e.base + poolHeaderSize, size⟩ := ⟨rfl, hroom⟩
  have hheld : (v.addBuffer (e.base + poolHeaderSize) size f).held =
      Set.Ico (e.base + poolHeaderSize) (e.base + poolHeaderSize + size) ∪ v.held := by
    rw [View.held_eq, View.held_eq, View.addBuffer, extentAddrs_cons]
    exact Set.union_left_comm _ _ _
  refine ⟨(h.inv.toBuffer ht hlive).clientWrite heq ?_, h.pages, .cons hbacks h.buffers, ?_, ?_⟩
  · exact fun a ha => .inl (.inr ⟨e, List.mem_cons_self, hbacks.subset ha⟩)
  · intro a byte hknown
    by_cases ha : a ∈ Set.Ico (e.base + poolHeaderSize) (e.base + poolHeaderSize + size)
    · obtain ⟨i, rfl⟩ := Nat.exists_eq_add_of_le ha.1
      have hi : i < size := Nat.lt_of_add_lt_add_left ha.2
      exact hf i hi byte ((overwrite_add hi).symm.trans hknown)
    · exact (heq ha).trans (h.known a byte ((overwrite_of_notMem ha).symm.trans hknown))
  · intro a byte hknown
    rw [hheld]
    by_cases ha : a ∈ Set.Ico (e.base + poolHeaderSize) (e.base + poolHeaderSize + size)
    · exact .inl (.inl ha)
    · exact (h.mine a byte ((overwrite_of_notMem ha).symm.trans hknown)).imp_left .inr

/-- What is known after a region was forgotten was known before, and lies elsewhere. -/
theorem overwrite_none {known : ℕ → Option (BitVec 8)} {base size a : ℕ} {byte : BitVec 8}
    (h : overwrite known base size (fun _ => none) a = some byte) :
    a ∉ Set.Ico base (base + size) ∧ known a = some byte := by
  by_cases ha : a ∈ Set.Ico base (base + size)
  · rw [overwrite_of_mem ha] at h
    cases h
  · rw [overwrite_of_notMem ha] at h
    exact ⟨ha, h⟩

/-- A buffer is given up. -/
theorem Represents.fromBuffer (h : Represents g arena m L v) {address : ℕ}
    (hheld : ∃ b ∈ v.buffers, b.base = address) :
    ∃ e ∈ L.buffers, address = e.base + poolHeaderSize ∧
      Represents g arena m { L with transit := e :: L.transit, buffers := L.buffers.erase e }
        (v.dropBuffer address) := by
  obtain ⟨e, b, he, hb, hfind, hbacks, hbase, hrest⟩ := backed_find h.buffers hheld
  have hdrop : v.dropBuffer address = { v with
      buffers := v.buffers.erase b, known := overwrite v.known b.base b.size fun _ => none } := by
    rw [View.dropBuffer, hfind]
  refine ⟨e, he, hbase.symm.trans hbacks.base, ?_⟩
  rw [hdrop]
  refine ⟨h.inv.fromBuffer he, h.pages, hrest, ?_, ?_⟩
  · exact fun a byte hknown => h.known a byte (overwrite_none hknown).2
  · intro a byte hknown
    obtain ⟨ha, hold⟩ := overwrite_none hknown
    refine (h.mine a byte hold).imp_left fun hmem => ?_
    rw [View.held_eq] at hmem ⊢
    refine hmem.imp_right ?_
    rintro ⟨b', hb', ha'⟩
    have hne : b' ≠ b := by
      rintro rfl
      exact ha ha'
    exact ⟨b', (List.mem_erase_of_ne hne).2 hb', ha'⟩

/-- Pages become a client's. -/
theorem Represents.toPages (h : Represents g arena m L v) {b : Block}
    (ht : L.transit = b.extent :: t) (hb : b.Valid) :
    Represents g arena m { L with transit := t, pages := b :: L.pages }
      (v.addPages b.base b.pages) := by
  refine ⟨h.inv.toPages ht hb, congrArg (b :: ·) h.pages, h.buffers, ?_, ?_⟩
  · exact fun a byte hknown => h.known a byte (overwrite_none hknown).2
  · intro a byte hknown
    refine (h.mine a byte (overwrite_none hknown).2).imp_left fun hmem => ?_
    rw [View.held_eq, View.addPages, blockAddrs_cons, Set.union_assoc, ← View.held_eq]
    exact .inr hmem

/-- Pages are given up. -/
theorem Represents.fromPages (h : Represents g arena m L v) {b : Block} (hb : b ∈ v.pages) :
    Represents g arena m
      { L with transit := b.extent :: L.transit, pages := L.pages.erase b }
      (v.dropPages b.base b.pages) := by
  refine ⟨h.inv.fromPages (h.pages ▸ hb), congrArg (List.erase · b) h.pages, h.buffers, ?_, ?_⟩
  · exact fun a byte hknown => h.known a byte (overwrite_none hknown).2
  · intro a byte hknown
    obtain ⟨ha, hold⟩ := overwrite_none hknown
    refine (h.mine a byte hold).imp_left fun hmem => ?_
    rw [View.held_eq] at hmem ⊢
    refine hmem.imp_left ?_
    rintro ⟨b', hb', ha'⟩
    have hne : b' ≠ b := by
      rintro rfl
      exact ha ha'
    exact ⟨b', (List.mem_erase_of_ne hne).2 hb', ha'⟩

/-- A byte is written. -/
theorem Represents.write (h : Represents g arena m L v) {address : ℕ} {byte : BitVec 8}
    (haddress : address ∈ v.held ∨ address ∉ arena ∪ g.bytes) :
    Represents g arena (Function.update m address byte) L (v.write address byte) := by
  have heq : Set.EqOn (Function.update m address byte) m ({address} : Set ℕ)ᶜ := fun a ha =>
    Function.update_of_ne ha _ _
  have hknown : ∀ a b, (v.write address byte).known a = some b →
      (a = address ∧ b = byte) ∨ (a ≠ address ∧ v.known a = some b) := by
    intro a b hb
    by_cases ha : a = address
    · subst ha
      have hself : (v.write a byte).known a = some byte := Function.update_self ..
      exact .inl ⟨rfl, (Option.some.inj (hself.symm.trans hb)).symm⟩
    · exact .inr ⟨ha, (Function.update_of_ne ha _ _).symm.trans hb⟩
  refine ⟨h.inv.clientWrite heq ?_, h.pages, h.buffers, ?_, ?_⟩
  · exact Set.singleton_subset_iff.2 (haddress.imp_left fun hheld => h.held_subset hheld)
  · intro a b hb
    rcases hknown a b hb with ⟨rfl, rfl⟩ | ⟨hne, hold⟩
    · exact Function.update_self ..
    · exact (Function.update_of_ne hne _ _).trans (h.known a b hold)
  · intro a b hb
    rcases hknown a b hb with ⟨rfl, rfl⟩ | ⟨-, hold⟩
    · exact haddress
    · exact h.mine a b hold

end Represents

end Allocation
end FfaFeature
