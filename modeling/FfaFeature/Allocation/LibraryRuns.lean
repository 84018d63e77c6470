/-
# Runs of the library

The memory allocation library as a machine.  Its clients call it in any order and write what
they hold in between, and what they promise is stated on their `View` alone.

Where the promises are kept, no call fails an `ASSERT`, what is held does not overlap, aligned
pages are aligned, and **every byte known is in memory**: `library_contents`.  So a buffer
filled with zeros holds zeros until it is written, a copy holds what was copied, and a buffer
reallocated holds what the old one did, whatever is allocated and freed in between.
-/

import FfaFeature.Allocation.Contents

namespace FfaFeature
namespace Allocation

open LinkedList

/-! ### The machine -/

/-- The memory, with what the clients know of it. -/
structure ClientHeap where
  mem : Mem
  view : View

section Machine

variable (lib : BaseLib) (bml : BaseMemoryLib) (g : Globals)

/-- The call an input stands for: the pointer it returns, 0 where it returns none. -/
def libraryCall (m : Mem) : LibraryInput → Except Fault (ℕ × Mem)
  | .allocatePages pages => allocatePages lib g m pages.toNat
  | .freePages buffer pages => (freePages lib g m buffer.toNat pages.toNat).map (0, ·)
  | .allocateAlignedPages pages alignment =>
    allocateAlignedPages lib g m pages.toNat alignment.toNat
  | .freeAlignedPages buffer pages => (freeAlignedPages lib g m buffer.toNat pages.toNat).map (0, ·)
  | .allocatePool size => allocatePool lib g m size.toNat
  | .allocateZeroPool size => allocateZeroPool lib bml g m size.toNat
  | .allocateCopyPool size buffer => allocateCopyPool lib bml g m size.toNat buffer.toNat
  | .reallocatePool oldSize newSize oldBuffer =>
    reallocatePool lib bml g m oldSize.toNat newSize.toNat oldBuffer.toNat
  | .freePool buffer => (freePool lib g m buffer.toNat).map (0, ·)
  | .write address byte => .ok (0, Function.update m address byte)

/-- The heap after a call. -/
def ClientHeap.after (s : ClientHeap) (input : LibraryInput) :
    Except Fault (ℕ × Mem) → ClientHeap × Except Fault ℕ
  | .error fault => (s, .error fault)
  | .ok (r, m) => (⟨m, s.view.next r input⟩, .ok r)

/-- The machine. -/
def libraryMachine : Machine ClientHeap LibraryInput (Except Fault ℕ) where
  step s input := s.after input (libraryCall lib bml g s.mem input)

end Machine

/-! ### Pool buffers -/

/-- A block with room for a buffer of `size` bytes is taken from what is free. -/
structure Obtains (g : Globals) (arena : Set ℕ) (m : Mem) (L : Layout) (size : ℕ) (e : Extent)
    (m' : Mem) (L' : Layout) : Prop where
  moves : Moves g arena m L m' L'
  transit : L'.transit = e :: L.transit
  live : LiveBlock m' e
  room : e.base + poolHeaderSize + size ≤ e.top

section Calls

variable {lib : BaseLib} {bml : BaseMemoryLib} {g : Globals} {arena : Set ℕ} {m m' m₁ : Mem}
  {L L' : Layout} {v : View} {size : ℕ} {e : Extent}

/-- The block obtained is one of the layout. -/
theorem Obtains.mem_extents (h : Obtains g arena m L size e m' L') : e ∈ L'.extents := by
  unfold Layout.extents
  rw [h.transit]
  exact List.mem_append_left _ List.mem_cons_self

/-- The buffer does not wrap around. -/
theorem Obtains.bound (h : Obtains g arena m L size e m' L') :
    e.base + poolHeaderSize + size ≤ 2 ^ 64 := by
  have hsize := h.live.placed.size_ge
  have hbound := (h.moves.inv.bounds h.mem_extents (by omega)).2
  have hroom := h.room
  omega

/-- It is aligned to eight bytes, for its block is to 64. -/
theorem Obtains.aligned (h : Obtains g arena m L size e m' L') :
    (e.base + poolHeaderSize) % 8 = 0 := by
  have hheader : poolHeaderSize = 24 := rfl
  have hbase : e.base % 8 = 0 := by
    rcases h.live.placed with ⟨index, -, -, haligned⟩ | ⟨-, -, haligned⟩
    · have hclass : classSize index = 8 * (8 * 2 ^ index) := by
        rw [classSize_eq]
        ring
      exact Nat.mod_eq_zero_of_dvd
        ((Dvd.intro _ hclass.symm).trans (Nat.dvd_of_mod_eq_zero haligned))
    · omega
  omega

/-- `InternalAllocatePool`. -/
theorem internalAllocatePool_spec (lib : BaseLib) (h : PoolInv g arena m L)
    (memoryType : EfiMemoryType) (hsize : size + poolHeaderSize < 2 ^ 64) :
    internalAllocatePool lib g m memoryType size = .ok (0, m) ∨ ∃ e m' L',
      internalAllocatePool lib g m memoryType size = .ok (e.base + poolHeaderSize, m') ∧
      Obtains g arena m L size e m' L' := by
  obtain ⟨result, hcode, hresult⟩ := mmInternalAllocatePool_spec lib h memoryType hsize
  unfold internalAllocatePool mmAllocatePool
  rw [hcode, ok_bind]
  rcases hresult with ⟨status, herror⟩ | ⟨e, m', L', hmoves, htransit, hlive, hroom⟩
  · exact .inl (if_pos herror)
  · exact .inr ⟨e, m', L', if_neg success_not_error, hmoves, htransit, hlive, hroom⟩

/-- `InternalAllocateZeroPool`: the buffer is filled with zeros. -/
theorem internalAllocateZeroPool_spec (lib : BaseLib) (bml : BaseMemoryLib)
    (h : PoolInv g arena m L) (poolType : EfiMemoryType) (hsize : size + poolHeaderSize < 2 ^ 64) :
    internalAllocateZeroPool lib bml g m poolType size = .ok (0, m) ∨ ∃ e m₁ L' m',
      internalAllocateZeroPool lib bml g m poolType size = .ok (e.base + poolHeaderSize, m') ∧
      Obtains g arena m L size e m₁ L' ∧ (∀ i < size, m' (e.base + poolHeaderSize + i) = 0) ∧
      Set.EqOn m' m₁
        (Set.Ico (e.base + poolHeaderSize) (e.base + poolHeaderSize + size))ᶜ := by
  have hnull : ∀ e : Extent, e.base + poolHeaderSize ≠ 0 := fun _ => Nat.succ_ne_zero _
  unfold internalAllocateZeroPool
  rcases internalAllocatePool_spec lib h poolType hsize with hcode | ⟨e, m₁, L', hcode, hobtains⟩
  · rw [hcode, ok_bind]
    exact .inl (if_neg (not_not.2 rfl))
  · obtain ⟨m', hzero, hcontents, heq⟩ := bml.zeroMem_spec (hnull e) hobtains.bound m₁
    rw [hcode, ok_bind]
    dsimp only
    rw [if_pos (hnull e), hzero]
    exact .inr ⟨e, m₁, L', m', rfl, hobtains, hcontents, heq⟩

/-- The buffer obtained, once the library has written it. -/
theorem Represents.obtain (h : Represents g arena m L v) (ht : L.transit = [])
    (hobtains : Obtains g arena m L size e m₁ L') {f : ℕ → Option (BitVec 8)}
    (heq : Set.EqOn m' m₁
      (Set.Ico (e.base + poolHeaderSize) (e.base + poolHeaderSize + size))ᶜ)
    (hf : ∀ i < size, ∀ byte, f i = some byte → m' (e.base + poolHeaderSize + i) = byte) :
    ∃ L'', L''.transit = [] ∧
      Represents g arena m' L'' (v.addBuffer (e.base + poolHeaderSize) size f) := by
  have htransit : L'.transit = [e] := hobtains.transit.trans (congrArg (e :: ·) ht)
  exact ⟨_, rfl, (h.moves hobtains.moves).toBuffer htransit hobtains.live hobtains.room heq hf⟩

/-- No byte that is known lies in a block that was free. -/
theorem Represents.known_obtain (h : Represents g arena m L v)
    (hobtains : Obtains g arena m L size e m₁ L') {a : ℕ} {byte : BitVec 8}
    (hknown : v.known a = some byte) :
    m₁ a = byte ∧ a ∉ Set.Ico (e.base + poolHeaderSize) (e.base + poolHeaderSize + size) := by
  have h₁ := h.moves hobtains.moves
  refine ⟨h₁.known a byte hknown, fun ha => ?_⟩
  have hmem : a ∈ extentAddrs L'.transit := by
    rw [hobtains.transit, extentAddrs_cons]
    exact .inl ⟨(Nat.le_add_right _ _).trans ha.1, ha.2.trans_le hobtains.room⟩
  rcases h₁.mine a byte hknown with hheld | hout
  · rcases L'.writable_subset (h₁.held_subset hheld) with hpages | hbuffers
    · exact Set.disjoint_left.1 h₁.inv.apart.transit_pages hmem hpages
    · exact Set.disjoint_left.1 h₁.inv.apart.transit_buffers hmem hbuffers
  · exact hout (.inl (h₁.inv.parts_subset.1 hmem))

/-- `FreePool` of a buffer that is held. -/
theorem freePool_spec (lib : BaseLib) (h : Represents g arena m L v) {address : ℕ}
    (hheld : ∃ b ∈ v.buffers, b.base = address) :
    ∃ m' L', freePool lib g m address = .ok m' ∧ L'.transit = L.transit ∧
      Represents g arena m' L' (v.dropBuffer address) := by
  obtain ⟨e, he, rfl, hdrop⟩ := h.fromBuffer hheld
  obtain ⟨m', L', hcode, hmoves, htransit⟩ :=
    mmInternalFreePool_spec lib hdrop.inv rfl (h.inv.buffers e he)
  refine ⟨m', L', ?_, htransit, hdrop.moves hmoves⟩
  unfold freePool mmFreePool
  rw [hcode]
  rfl

end Calls

/-! ### One call -/

/-- How a pointer returned is aligned: pages as asked for, buffers to eight bytes. -/
def LibraryInput.Aligned (r : ℕ) : LibraryInput → Prop
  | .allocatePages _ => r % 4096 = 0
  | .allocateAlignedPages _ alignment => r % max alignment.toNat 4096 = 0
  | _ => r % 8 = 0

/-- **What a call should do**: return, and leave a memory that has what the clients then know. -/
def CallOk (lib : BaseLib) (bml : BaseMemoryLib) (g : Globals) (arena : Set ℕ) (m : Mem)
    (v : View) (input : LibraryInput) : Prop :=
  ∃ r m' L', libraryCall lib bml g m input = .ok (r, m') ∧ input.Aligned r ∧ L'.transit = [] ∧
    Represents g arena m' L' (v.next r input)

section Step

variable {lib : BaseLib} {bml : BaseMemoryLib} {g : Globals} {arena : Set ℕ} {m m' : Mem}
  {L L' : Layout} {v : View}

/-- Pages taken from the free ones. -/
theorem Represents.takePages (h : Represents g arena m L v) (ht : L.transit = [])
    {l' : List Block} {b : Block} (hlist : FreeList g m' l') (htaken : Taken L.blocks l' b)
    (heq : Set.EqOn m' m (listArea g L.blocks)ᶜ) :
    b.base ≠ 0 ∧ ∃ L', L'.transit = [] ∧ Represents g arena m' L' (v.addPages b.base b.pages) := by
  have hmoves := h.inv.takePages hlist htaken heq
  have hmem : b.extent ∈ Layout.extents { L with transit := b.extent :: L.transit, blocks := l' } :=
    List.mem_append_left _ List.mem_cons_self
  have hpos := htaken.valid.pos
  have hsize : b.extent.size = 4096 * b.pages := rfl
  have hbase : b.extent.base = b.base := rfl
  have hlow := (hmoves.inv.bounds hmem (by omega)).1
  have h' := (h.moves hmoves).toPages rfl htaken.valid
  refine ⟨by omega, _, ?_, h'⟩
  exact ht

/-- Pages given back. -/
theorem Represents.givePages (lib : BaseLib) (h : Represents g arena m L v) (ht : L.transit = [])
    {b : Block} (hb : b ∈ v.pages) :
    b.pages ≠ 0 ∧ b.base ≠ 0 ∧ ∃ m' L', mmFreePages lib g m b.base b.pages = .ok (.success, m') ∧
      L'.transit = [] ∧ Represents g arena m' L' (v.dropPages b.base b.pages) := by
  have hdrop := h.fromPages hb
  have hvalid := h.inv.pages b (h.pages ▸ hb)
  obtain ⟨m', l', hcode, hmoves⟩ := hdrop.inv.givePages lib rfl hvalid
  have hmem : b.extent ∈ L.extents := by
    simp only [Layout.extents, List.mem_append]
    exact .inr (.inr (.inl (List.mem_map_of_mem (h.pages ▸ hb))))
  have hpos := hvalid.pos
  have hsize : b.extent.size = 4096 * b.pages := rfl
  have hbase : b.extent.base = b.base := rfl
  have hlow := (h.inv.bounds hmem (by omega)).1
  have h' := hdrop.moves hmoves
  refine ⟨by omega, by omega, m', _, hcode, ?_, h'⟩
  exact ht

/-- `AllocatePages`. -/
theorem callOk_allocatePages (h : Represents g arena m L v) (ht : L.transit = [])
    (pages : BitVec 64) : CallOk lib bml g arena m v (.allocatePages pages) := by
  have hnull : libraryCall lib bml g m (.allocatePages pages) = .ok (0, m) →
      CallOk lib bml g arena m v (.allocatePages pages) := fun hcode => ⟨0, m, L, hcode, rfl, ht, h⟩
  by_cases hzero : pages.toNat = 0
  · exact hnull (if_pos hzero)
  · obtain ⟨result, hcode, hresult⟩ := @mmInternalAllocatePages_spec g m L.blocks pages.toNat lib
      h.inv.freeList h.inv.base_pos .allocateAnyPages (.inl rfl) .efiRuntimeServicesData (by omega)
      0 (by norm_num)
    have hcall : libraryCall lib bml g m (.allocatePages pages) =
        (Except.ok result >>= fun result =>
          if result.1.isError then pure (0, result.2.2) else pure (result.2.1, result.2.2)) := by
      rw [← hcode]
      exact if_neg hzero
    rcases hresult with ⟨status, address, herror⟩ | ⟨address, m', l', hlist, htaken, heq⟩
    · exact hnull (hcall.trans (if_pos herror))
    · obtain ⟨hne, L', ht', h'⟩ := h.takePages ht hlist htaken heq
      refine ⟨address, m', L', hcall.trans (if_neg success_not_error), htaken.valid.aligned, ht',
        ?_⟩
      rw [View.next, if_neg hne]
      exact h'

/-- `AllocateAlignedPages`. -/
theorem callOk_allocateAlignedPages (h : Represents g arena m L v) (ht : L.transit = [])
    {pages alignment : BitVec 64}
    (hvalid : LibraryInput.Valid g arena v (.allocateAlignedPages pages alignment)) :
    CallOk lib bml g arena m v (.allocateAlignedPages pages alignment) := by
  have hcall : libraryCall lib bml g m (.allocateAlignedPages pages alignment) =
      (internalAllocateAlignedPages lib g m .efiRuntimeServicesData pages.toNat
        alignment.toNat).map alignedPointer := rfl
  have hnull : libraryCall lib bml g m (.allocateAlignedPages pages alignment) = .ok (0, m) →
      CallOk lib bml g arena m v (.allocateAlignedPages pages alignment) := fun hcode =>
    ⟨0, m, L, hcode, Nat.zero_mod _, ht, h⟩
  by_cases hzero : pages.toNat = 0
  · refine hnull ?_
    rw [hcall, internalAllocateAlignedPages, if_neg (not_not.2 hvalid.1.and_eq_zero), if_pos hzero]
    rfl
  · obtain ⟨result, hcode, hresult⟩ := @internalAllocateAlignedPages_spec g m L.blocks pages.toNat
      alignment.toNat lib h.inv.freeList h.inv.base_pos .efiRuntimeServicesData (by omega) hvalid.1
      hvalid.2
    rw [hcode] at hcall
    rcases hresult with _ | ⟨address, m', l', haligned, hlist, htaken, heq⟩
    · exact hnull hcall
    · obtain ⟨hne, L', ht', h'⟩ := h.takePages ht hlist htaken heq
      refine ⟨address, m', L', hcall, haligned, ht', ?_⟩
      rw [View.next, if_neg hne]
      exact h'

/-- `FreePages`. -/
theorem callOk_freePages (h : Represents g arena m L v) (ht : L.transit = [])
    {buffer pages : BitVec 64}
    (hvalid : LibraryInput.Valid g arena v (.freePages buffer pages)) :
    CallOk lib bml g arena m v (.freePages buffer pages) := by
  obtain ⟨hpages, hbuffer, m', L', hcode, ht', h'⟩ := h.givePages lib ht hvalid
  refine ⟨0, m', L', ?_, rfl, ht', h'⟩
  unfold libraryCall freePages
  dsimp only
  rw [if_neg hpages, if_neg hbuffer, hcode]
  rfl

/-- `FreeAlignedPages`. -/
theorem callOk_freeAlignedPages (h : Represents g arena m L v) (ht : L.transit = [])
    {buffer pages : BitVec 64}
    (hvalid : LibraryInput.Valid g arena v (.freeAlignedPages buffer pages)) :
    CallOk lib bml g arena m v (.freeAlignedPages buffer pages) := by
  obtain ⟨hpages, hbuffer, m', L', hcode, ht', h'⟩ := h.givePages lib ht hvalid
  refine ⟨0, m', L', ?_, rfl, ht', h'⟩
  unfold libraryCall freeAlignedPages
  dsimp only
  rw [if_neg hpages, if_neg hbuffer, hcode]
  rfl

/-- A buffer is never at address 0. -/
theorem pool_ne_zero (e : Extent) : e.base + poolHeaderSize ≠ 0 := Nat.succ_ne_zero _

/-- `AllocatePool`. -/
theorem callOk_allocatePool (h : Represents g arena m L v) (ht : L.transit = [])
    {size : BitVec 64} (hvalid : LibraryInput.Valid g arena v (.allocatePool size)) :
    CallOk lib bml g arena m v (.allocatePool size) := by
  rcases internalAllocatePool_spec lib h.inv .efiRuntimeServicesData hvalid with
    hcode | ⟨e, m', L', hcode, hobtains⟩
  · exact ⟨0, m, L, hcode, rfl, ht, h⟩
  · obtain ⟨L'', ht'', h''⟩ := @Represents.obtain _ _ _ m' _ _ _ _ _ _ h ht hobtains
      (fun _ => none) (Set.eqOn_refl _ _) fun i _ byte hbyte => absurd hbyte (by simp)
    refine ⟨e.base + poolHeaderSize, m', L'', hcode, hobtains.aligned, ht'', ?_⟩
    rw [View.next, if_neg (pool_ne_zero e)]
    exact h''

/-- `AllocateZeroPool`. -/
theorem callOk_allocateZeroPool (h : Represents g arena m L v) (ht : L.transit = [])
    {size : BitVec 64} (hvalid : LibraryInput.Valid g arena v (.allocateZeroPool size)) :
    CallOk lib bml g arena m v (.allocateZeroPool size) := by
  rcases internalAllocateZeroPool_spec lib bml h.inv .efiRuntimeServicesData hvalid with
    hcode | ⟨e, m₁, L', m', hcode, hobtains, hzeros, heq⟩
  · exact ⟨0, m, L, hcode, rfl, ht, h⟩
  · obtain ⟨L'', ht'', h''⟩ := @Represents.obtain _ _ _ m' _ _ _ _ _ _ h ht hobtains
      (fun _ => some 0) heq fun i hi byte hbyte => (hzeros i hi).trans (Option.some.inj hbyte)
    refine ⟨e.base + poolHeaderSize, m', L'', hcode, hobtains.aligned, ht'', ?_⟩
    rw [View.next, if_neg (pool_ne_zero e)]
    exact h''

/-- `AllocateCopyPool`. -/
theorem callOk_allocateCopyPool (h : Represents g arena m L v) (ht : L.transit = [])
    {size buffer : BitVec 64}
    (hvalid : LibraryInput.Valid g arena v (.allocateCopyPool size buffer)) :
    CallOk lib bml g arena m v (.allocateCopyPool size buffer) := by
  obtain ⟨hsize, hbuffer, hbound⟩ := hvalid
  have hne : buffer.toNat ≠ 0 := fun hzero => hbuffer (BitVec.eq_of_toNat_eq hzero)
  have hlt := buffer.isLt
  have hroom : uadd (usub (2 ^ 64 - 1) buffer.toNat) 1 = 2 ^ 64 - buffer.toNat := by
    rw [usub_eq (by omega) (by omega), uadd_eq (by omega)]
    omega
  have hcall : libraryCall lib bml g m (.allocateCopyPool size buffer) =
      (internalAllocatePool lib g m .efiRuntimeServicesData size.toNat >>= fun result =>
        if result.1 ≠ 0 then
          bml.copyMem result.2 result.1 buffer.toNat size.toNat >>= fun m => pure (result.1, m)
        else pure (result.1, result.2)) := by
    unfold libraryCall allocateCopyPool internalAllocateCopyPool
    dsimp only
    rw [if_neg hne, hroom, if_neg (not_not.2 (by omega))]
  rcases internalAllocatePool_spec lib h.inv .efiRuntimeServicesData hsize with
    hcode | ⟨e, m₁, L', hcode, hobtains⟩
  · rw [hcode] at hcall
    exact ⟨0, m, L, hcall, rfl, ht, h⟩
  · obtain ⟨m', hcopy, hcontents, heq⟩ := bml.copyMem_spec hobtains.bound hbound m₁
    obtain ⟨L'', ht'', h''⟩ := @Represents.obtain _ _ _ m' _ _ _ _ _ _ h ht hobtains
      (fun i => v.known (buffer.toNat + i)) heq fun i hi byte hbyte =>
        (hcontents i hi).trans (h.known_obtain hobtains hbyte).1
    refine ⟨e.base + poolHeaderSize, m', L'', ?_, hobtains.aligned, ht'', ?_⟩
    · rw [hcall, hcode, ok_bind]
      dsimp only
      rw [if_pos (pool_ne_zero e), hcopy]
      rfl
    · rw [View.next, if_neg (pool_ne_zero e)]
      exact h''

/-- **`ReallocatePool`**: the new buffer holds what the old one did and zeros behind it. -/
theorem callOk_reallocatePool (h : Represents g arena m L v) (ht : L.transit = [])
    {oldSize newSize oldBuffer : BitVec 64}
    (hvalid : LibraryInput.Valid g arena v (.reallocatePool oldSize newSize oldBuffer)) :
    CallOk lib bml g arena m v (.reallocatePool oldSize newSize oldBuffer) := by
  obtain ⟨hsize, hold⟩ := hvalid
  have hcall : libraryCall lib bml g m (.reallocatePool oldSize newSize oldBuffer) =
      (internalAllocateZeroPool lib bml g m .efiRuntimeServicesData newSize.toNat >>= fun result =>
        if result.1 ≠ 0 ∧ oldBuffer.toNat ≠ 0 then
          bml.copyMem result.2 result.1 oldBuffer.toNat (min oldSize.toNat newSize.toNat) >>=
            fun m => freePool lib g m oldBuffer.toNat >>= fun m => pure (result.1, m)
        else pure (result.1, result.2)) := rfl
  rcases internalAllocateZeroPool_spec lib bml h.inv .efiRuntimeServicesData hsize with
    hcode | ⟨e, m₁, L', m₂, hcode, hobtains, hzeros, heq⟩
  · rw [hcode, ok_bind] at hcall
    exact ⟨0, m, L, hcall.trans (if_neg fun hne => hne.1 rfl), rfl, ht, h⟩
  rw [hcode, ok_bind] at hcall
  dsimp only at hcall
  by_cases hnull : oldBuffer = 0
  · -- there is no old buffer, and this is `AllocateZeroPool`
    subst hnull
    obtain ⟨L'', ht'', h''⟩ := @Represents.obtain _ _ _ m₂ _ _ _ _ _ _ h ht hobtains
      (fun _ => some 0) heq fun i hi byte hbyte => (hzeros i hi).trans (Option.some.inj hbyte)
    refine ⟨e.base + poolHeaderSize, m₂, L'', hcall.trans (if_neg fun hne => hne.2 rfl),
      hobtains.aligned, ht'', ?_⟩
    rw [View.next, if_neg (pool_ne_zero e), if_pos rfl]
    exact h''
  · obtain ⟨b, hb, hbase, hle⟩ := hold hnull
    have hne : oldBuffer.toNat ≠ 0 := fun hzero => hnull (BitVec.eq_of_toNat_eq hzero)
    obtain ⟨e', he', hbacks⟩ := exists_backs h.buffers hb
    have hsource : oldBuffer.toNat + min oldSize.toNat newSize.toNat ≤ 2 ^ 64 := by
      have hmem : e' ∈ L.extents := by
        simp only [Layout.extents, List.mem_append]
        exact .inr (.inr (.inr (.inr he')))
      have hge := (h.inv.buffers e' he').placed.size_ge
      have htop := (h.inv.bounds hmem (by omega)).2
      have hroom := hbacks.room
      have hbtop : b.top = b.base + b.size := rfl
      have hmin := Nat.min_le_left oldSize.toNat newSize.toNat
      omega
    have hmin := Nat.min_le_right oldSize.toNat newSize.toNat
    have hbound := hobtains.bound
    obtain ⟨m₃, hcopy, hcontents, heq'⟩ := @BaseMemoryLib.copyMem_spec bml
      (e.base + poolHeaderSize) oldBuffer.toNat (min oldSize.toNat newSize.toNat) (by omega)
      hsource m₂
    have hframe : Set.EqOn m₃ m₁
        (Set.Ico (e.base + poolHeaderSize) (e.base + poolHeaderSize + newSize.toNat))ᶜ :=
      (Mem.eqOn_mono heq' (Set.Ico_subset_Ico_right (by omega))).trans heq
    obtain ⟨L'', ht'', h''⟩ := @Represents.obtain _ _ _ m₃ _ _ _ _ _ _ h ht hobtains
      (fun i => if i < oldSize.toNat then v.known (oldBuffer.toNat + i) else some 0) hframe
      (fun i hi byte hbyte => by
        split_ifs at hbyte with hcopied
        · obtain ⟨hvalue, hoff⟩ := h.known_obtain hobtains hbyte
          exact (hcontents i (lt_min hcopied hi)).trans ((heq hoff).trans hvalue)
        · have hoff : e.base + poolHeaderSize + i ∉ Set.Ico (e.base + poolHeaderSize)
              (e.base + poolHeaderSize + min oldSize.toNat newSize.toNat) := fun ha =>
            hcopied ((Nat.lt_of_add_lt_add_left ha.2).trans_le (Nat.min_le_left _ _))
          exact ((heq' hoff).trans (hzeros i hi)).trans (Option.some.inj hbyte))
    obtain ⟨m₄, L₄, hfree, ht₄, h₄⟩ := @freePool_spec g arena m₃ L'' _ lib h'' oldBuffer.toNat
      ⟨b, List.mem_cons_of_mem _ hb, hbase⟩
    refine ⟨e.base + poolHeaderSize, m₄, L₄, ?_, hobtains.aligned, ht₄.trans ht'', ?_⟩
    · rw [hcall, if_pos ⟨pool_ne_zero e, hne⟩, hcopy, ok_bind, hfree]
      rfl
    · rw [View.next, if_neg (pool_ne_zero e), if_neg hnull]
      exact h₄

/-- `FreePool`. -/
theorem callOk_freePool (h : Represents g arena m L v) (ht : L.transit = [])
    {buffer : BitVec 64} (hvalid : LibraryInput.Valid g arena v (.freePool buffer)) :
    CallOk lib bml g arena m v (.freePool buffer) := by
  obtain ⟨m', L', hcode, ht', h'⟩ := freePool_spec lib h hvalid
  exact ⟨0, m', L', congrArg (Except.map fun m => (0, m)) hcode, rfl, ht'.trans ht, h'⟩

/-- **Every call of the library** does what it should, where the clients keep their promises. -/
theorem libraryCall_ok (h : Represents g arena m L v) (ht : L.transit = [])
    {input : LibraryInput} (hvalid : input.Valid g arena v) : CallOk lib bml g arena m v input := by
  cases input with
  | allocatePages pages => exact callOk_allocatePages h ht pages
  | freePages buffer pages => exact callOk_freePages h ht hvalid
  | allocateAlignedPages pages alignment => exact callOk_allocateAlignedPages h ht hvalid
  | freeAlignedPages buffer pages => exact callOk_freeAlignedPages h ht hvalid
  | allocatePool size => exact callOk_allocatePool h ht hvalid
  | allocateZeroPool size => exact callOk_allocateZeroPool h ht hvalid
  | allocateCopyPool size buffer => exact callOk_allocateCopyPool h ht hvalid
  | reallocatePool oldSize newSize oldBuffer => exact callOk_reallocatePool h ht hvalid
  | freePool buffer => exact callOk_freePool h ht hvalid
  | write address byte => exact ⟨0, _, L, rfl, rfl, ht, h.write hvalid⟩

/-- A step of the machine. -/
theorem libraryMachine_step {s : ClientHeap} (h : Represents g arena s.mem L s.view)
    (ht : L.transit = []) {input : LibraryInput} (hvalid : input.Valid g arena s.view) :
    (∃ L', L'.transit = [] ∧ Represents g arena ((libraryMachine lib bml g).step s input).1.mem L'
        ((libraryMachine lib bml g).step s input).1.view) ∧
      ∃ r, ((libraryMachine lib bml g).stepAt s input).output = .ok r ∧ input.Aligned r := by
  obtain ⟨r, m', L', hcall, haligned, ht', h'⟩ := @libraryCall_ok lib bml _ _ _ _ _ h ht _ hvalid
  have hstep : (libraryMachine lib bml g).step s input = (⟨m', s.view.next r input⟩, .ok r) := by
    show s.after input _ = _
    rw [hcall, ClientHeap.after]
  rw [Machine.stepAt_output, hstep]
  exact ⟨⟨L', ht', h'⟩, r, rfl, haligned⟩

end Step

/-! ### Whole runs -/

/-- **The library keeps what its clients keep.**  Along every run in which they keep their
promises no call fails an `ASSERT` and every pointer returned is aligned; what they hold does
not overlap and lies in the memory managed; and every byte they know is in memory. -/
theorem library_contents (lib : BaseLib) (bml : BaseMemoryLib) (g : Globals) (m : Mem)
    (mmramRanges : List MmramDescriptor) (hempty : IsList m g.mMmMemoryMap [])
    (hranges : RangesValid g mmramRanges) :
    ∃ m₀, mmInitializeMemoryServices lib g m mmramRanges = .ok m₀ ∧
      ∀ is, (∀ e ∈ (libraryMachine lib bml g).history ⟨m₀, .start⟩ is,
          e.input.Valid g (usableAddrs mmramRanges) e.pre.view) →
        (∀ e ∈ (libraryMachine lib bml g).history ⟨m₀, .start⟩ is,
          ∃ r, e.output = .ok r ∧ e.input.Aligned r) ∧
        Separate ((libraryMachine lib bml g).final ⟨m₀, .start⟩ is).view.regions ∧
        ((libraryMachine lib bml g).final ⟨m₀, .start⟩ is).view.held ⊆ usableAddrs mmramRanges ∧
        ∀ a byte, ((libraryMachine lib bml g).final ⟨m₀, .start⟩ is).view.known a = some byte →
          ((libraryMachine lib bml g).final ⟨m₀, .start⟩ is).mem a = byte := by
  obtain ⟨m₀, l, hcode, hinv⟩ := mmInitializeMemoryServices_whole lib hempty hranges.usable
  rw [hranges.addedAddrs_eq] at hinv
  have hstart : Represents g (usableAddrs mmramRanges) m₀ (freeLayout l) .start :=
    ⟨hinv, rfl, .nil, fun _ _ h => absurd h (by simp [View.start]),
      fun _ _ h => absurd h (by simp [View.start])⟩
  refine ⟨m₀, hcode, fun is his => ?_⟩
  obtain ⟨⟨L, -, hL⟩, hsteps⟩ := @Machine.final_and_steps _ _ _ (libraryMachine lib bml g)
    (fun s => ∃ L, L.transit = [] ∧ Represents g (usableAddrs mmramRanges) s.mem L s.view)
    (fun s i => i.Valid g (usableAddrs mmramRanges) s.view)
    (fun e => ∃ r, e.output = .ok r ∧ e.input.Aligned r) _ ⟨freeLayout l, rfl, hstart⟩
    (fun _ _ hi ⟨_, ht, hI⟩ => libraryMachine_step hI ht hi) is his
  exact ⟨hsteps, hL.separate, hL.held_arena, hL.known⟩

/-- A buffer is filled with zeros, its first byte written, and the buffer made larger. -/
def libraryRun : List LibraryInput :=
  [.allocateZeroPool 100, .write 0x102F98 7, .reallocatePool 100 200 0x102F98]

/-- The byte is at the start of the larger buffer. -/
theorem library_contents_libraryRun :
    ∃ m₀, mmInitializeMemoryServices .standard lowGlobals bootMem oneRange = .ok m₀ ∧
      ((libraryMachine .standard .standard lowGlobals).final ⟨m₀, .start⟩ libraryRun).mem
        0x102E18 = 7 := by
  obtain ⟨m₀, hcode, hruns⟩ := library_contents .standard .standard lowGlobals bootMem oneRange
    bootMem_isList oneRange_valid
  have hmem : m₀ = okMem (mmInitializeMemoryServices .standard lowGlobals bootMem oneRange) := by
    rw [hcode]
    rfl
  have hvalid : ∀ e ∈ (libraryMachine .standard .standard lowGlobals).history ⟨m₀, .start⟩
      libraryRun, e.input.Valid lowGlobals (usableAddrs oneRange) e.pre.view := by
    intro e he
    simp only [libraryRun, Machine.history, List.mem_cons, List.not_mem_nil, or_false] at he
    rw [hmem] at he
    rcases he with rfl | rfl | rfl
    · show 100 + poolHeaderSize < 2 ^ 64
      decide
    · have hbuffers : ((libraryMachine .standard .standard lowGlobals).step ⟨okMem
          (mmInitializeMemoryServices .standard lowGlobals bootMem oneRange), .start⟩
          (.allocateZeroPool 100)).1.view.regions = [⟨0x102F98, 100⟩] := by
        decide +kernel
      refine .inl ⟨⟨0x102F98, 100⟩, ?_, by decide, by decide⟩
      rw [Machine.stepAt_pre, hbuffers]
      exact List.mem_cons_self
    · have hbuffers : ((libraryMachine .standard .standard lowGlobals).final ⟨okMem
          (mmInitializeMemoryServices .standard lowGlobals bootMem oneRange), .start⟩
          (libraryRun.take 2)).view.buffers = [⟨0x102F98, 100⟩] := by
        decide +kernel
      refine ⟨by decide, fun _ => ⟨⟨0x102F98, 100⟩, ?_, rfl, by decide⟩⟩
      exact hbuffers ▸ List.mem_cons_self
  obtain ⟨-, -, -, hknown⟩ := hruns libraryRun hvalid
  refine ⟨m₀, hcode, hknown 0x102E18 7 ?_⟩
  rw [hmem]
  decide +kernel

end Allocation
end FfaFeature
