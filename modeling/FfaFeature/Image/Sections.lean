/-
# The permissions of the sections of an image

`UpdateMmFoundationPeCoffPermissions` of `Library/SecurePartitionEntryPoint/SetPermissions.c`.
The firmware maps a whole image read-only and executable; the function walks the
section table and has execution removed from every section that is not code, and
write access given to those of them that are data.

The walk keeps an index and the offset of the header to read.  A section of size zero
is skipped by a `continue` that advances the index and leaves the offset, so from the
first empty section on the same header is read to the end of the table, and every
section after it keeps the permissions of the firmware.  `updatePermissions_iff` says
when that does no harm.
-/

import FfaFeature.Message

namespace FfaFeature
namespace Image

/-- `EFI_IMAGE_SECTION_HEADER`, as far as the walk looks at it. -/
structure SectionHeader where
  virtualSize : BitVec 32
  virtualAddress : BitVec 32
  characteristics : BitVec 32

/-- `sizeof (EFI_IMAGE_SECTION_HEADER)`. -/
def sizeofSectionHeader : ℕ := 40

/-- `EFI_IMAGE_SCN_MEM_EXECUTE`. -/
def scnMemExecute : BitVec 32 := 0x20000000

/-- `EFI_IMAGE_SCN_MEM_WRITE`. -/
def scnMemWrite : BitVec 32 := 0x80000000

/-- What `ImageContext->ImageRead` gives back: its status, the size it read, the header. -/
structure ReadResult where
  status : EfiStatus
  size : BitVec 64
  header : SectionHeader

/-- A call of one of the three updaters. -/
inductive UpdaterCall
  | textUpdater (base size : BitVec 64)
  | readOnlyUpdater (base size : BitVec 64)
  | readWriteUpdater (base size : BitVec 64)

variable (imageRead : BitVec 64 → ReadResult) (imageBase : BitVec 64)

/-- The calls for a section that is not empty. -/
def sectionCalls (header : SectionHeader) : List UpdaterCall :=
  if header.characteristics &&& scnMemExecute = 0 then
    let base := imageBase + header.virtualAddress.setWidth 64
    let size := header.virtualSize.setWidth 64
    .textUpdater base size ::
      if header.characteristics &&& scnMemWrite ≠ 0 then [.readWriteUpdater base size] else []
  else []

/-- The loop of `UpdateMmFoundationPeCoffPermissions` with `remaining` sections to go: the
status and the calls made. -/
def updateSections : ℕ → BitVec 32 → EfiStatus × List UpdaterCall
  | 0, _ => (.success, [])
  | remaining + 1, sectionHeaderOffset =>
    let read := imageRead (sectionHeaderOffset.setWidth 64)
    if read.status.isError ∨ read.size ≠ BitVec.ofNat 64 sizeofSectionHeader then
      (read.status, [])
    else if read.header.virtualSize = 0 then
      -- `continue`: `SectionHeaderOffset` is not advanced
      updateSections remaining sectionHeaderOffset
    else
      let rest := updateSections remaining
        (sectionHeaderOffset + BitVec.ofNat 32 sizeofSectionHeader)
      (rest.1, sectionCalls imageBase read.header ++ rest.2)

/-- `UpdateMmFoundationPeCoffPermissions`. -/
def updateMmFoundationPeCoffPermissions (sectionHeaderOffset : BitVec 32)
    (numberOfSections : BitVec 16) : EfiStatus × List UpdaterCall :=
  updateSections imageRead imageBase numberOfSections.toNat sectionHeaderOffset

/-! ### What the calls should be -/

/-- The headers of a table: one every `sizeofSectionHeader` bytes, at 32-bit file offsets. -/
def sectionTable : ℕ → BitVec 32 → List SectionHeader
  | 0, _ => []
  | remaining + 1, offset =>
    (imageRead (offset.setWidth 64)).header ::
      sectionTable remaining (offset + BitVec.ofNat 32 sizeofSectionHeader)

/-- The section has contents, and they are not code. -/
def SectionHeader.NotCode (header : SectionHeader) : Prop :=
  header.virtualSize ≠ 0 ∧ header.characteristics &&& scnMemExecute = 0

/-- The section has contents, and they are writable data. -/
def SectionHeader.WritableData (header : SectionHeader) : Prop :=
  header.NotCode ∧ header.characteristics &&& scnMemWrite ≠ 0

instance (header : SectionHeader) : Decidable header.NotCode :=
  inferInstanceAs (Decidable (_ ∧ _))

instance (header : SectionHeader) : Decidable header.WritableData :=
  inferInstanceAs (Decidable (_ ∧ _))

/-- Where a section is in memory, and its size. -/
def SectionHeader.region (header : SectionHeader) : BitVec 64 × BitVec 64 :=
  (imageBase + header.virtualAddress.setWidth 64, header.virtualSize.setWidth 64)

/-- The regions `TextUpdater` is called for. -/
def textRegions (calls : List UpdaterCall) : List (BitVec 64 × BitVec 64) :=
  calls.filterMap fun
    | .textUpdater base size => some (base, size)
    | _ => none

/-- The regions `ReadWriteUpdater` is called for. -/
def readWriteRegions (calls : List UpdaterCall) : List (BitVec 64 × BitVec 64) :=
  calls.filterMap fun
    | .readWriteUpdater base size => some (base, size)
    | _ => none

/-- **The calls a table asks for**: `TextUpdater` for the sections that are not code, once each,
and `ReadWriteUpdater` for those of them that are writable. -/
structure CallsExact (table : List SectionHeader) (calls : List UpdaterCall) : Prop where
  text : textRegions calls =
    (table.filter fun header => header.NotCode).map (·.region imageBase)
  readWrite : readWriteRegions calls =
    (table.filter fun header => header.WritableData).map (·.region imageBase)

/-- No section behind an empty one needs its permissions changed. -/
def NothingBehindEmpty (table : List SectionHeader) : Prop :=
  table.Pairwise fun earlier later => earlier.virtualSize = 0 → ¬ later.NotCode

/-! ### The walk -/

variable {imageRead imageBase}

/-- The regions of both parts. -/
theorem textRegions_append (calls calls' : List UpdaterCall) :
    textRegions (calls ++ calls') = textRegions calls ++ textRegions calls' :=
  List.filterMap_append

/-- And those made writable. -/
theorem readWriteRegions_append (calls calls' : List UpdaterCall) :
    readWriteRegions (calls ++ calls') = readWriteRegions calls ++ readWriteRegions calls' :=
  List.filterMap_append

/-- The calls for one section are those it asks for. -/
theorem sectionCalls_exact {header : SectionHeader} (h : header.virtualSize ≠ 0) :
    CallsExact imageBase [header] (sectionCalls imageBase header) := by
  by_cases hexecute : header.characteristics &&& scnMemExecute = 0
  · have hnotCode : header.NotCode := ⟨h, hexecute⟩
    by_cases hwrite : header.characteristics &&& scnMemWrite ≠ 0
    · have hwritable : header.WritableData := ⟨hnotCode, hwrite⟩
      simp only [sectionCalls, if_pos hexecute, if_pos hwrite]
      constructor
      · rw [List.filter_cons_of_pos (by simpa using hnotCode)]
        rfl
      · rw [List.filter_cons_of_pos (by simpa using hwritable)]
        rfl
    · have hwritable : ¬ header.WritableData := fun h => hwrite h.2
      simp only [sectionCalls, if_pos hexecute, if_neg hwrite]
      constructor
      · rw [List.filter_cons_of_pos (by simpa using hnotCode)]
        rfl
      · rw [List.filter_cons_of_neg (by simpa using hwritable)]
        rfl
  · have hnotCode : ¬ header.NotCode := fun h => hexecute h.2
    have hwritable : ¬ header.WritableData := fun h => hnotCode h.1
    rw [sectionCalls, if_neg hexecute]
    constructor
    · rw [List.filter_cons_of_neg (by simpa using hnotCode)]
      rfl
    · rw [List.filter_cons_of_neg (by simpa using hwritable)]
      rfl

/-- The calls for a table after those for its first section. -/
theorem callsExact_cons_iff {header : SectionHeader} {table : List SectionHeader}
    {first calls : List UpdaterCall} (hfirst : CallsExact imageBase [header] first) :
    CallsExact imageBase (header :: table) (first ++ calls) ↔
      CallsExact imageBase table calls := by
  have hcons : header :: table = [header] ++ table := rfl
  constructor
  · rintro ⟨htext, hreadWrite⟩
    rw [textRegions_append, hfirst.text, hcons, List.filter_append, List.map_append] at htext
    rw [readWriteRegions_append, hfirst.readWrite, hcons, List.filter_append,
      List.map_append] at hreadWrite
    exact ⟨List.append_cancel_left htext, List.append_cancel_left hreadWrite⟩
  · rintro ⟨htext, hreadWrite⟩
    constructor
    · rw [textRegions_append, hfirst.text, htext, hcons, List.filter_append, List.map_append]
    · rw [readWriteRegions_append, hfirst.readWrite, hreadWrite, hcons, List.filter_append,
        List.map_append]

/-- No calls are right for a table that has no section to change. -/
theorem callsExact_nil_iff {table : List SectionHeader} :
    CallsExact imageBase table [] ↔ ∀ header ∈ table, ¬ header.NotCode := by
  constructor
  · intro h header hheader hnotCode
    have hempty := List.map_eq_nil_iff.1 h.text.symm
    exact List.filter_eq_nil_iff.1 hempty header hheader (by simpa using hnotCode)
  · intro h
    constructor
    · rw [List.filter_eq_nil_iff.2 fun header hheader => by simpa using h header hheader]
      rfl
    · rw [List.filter_eq_nil_iff.2 fun header hheader => by
        simpa using fun hwritable : header.WritableData => h header hheader hwritable.1]
      rfl

/-- What the walk needs of `ImageRead`: where it does not fail it reads the whole header. -/
def ReadsFullHeader (imageRead : BitVec 64 → ReadResult) : Prop :=
  ∀ offset, (imageRead offset).status.isError = false →
    (imageRead offset).size = BitVec.ofNat 64 sizeofSectionHeader

/-- A walk that succeeds has read every header it looked at. -/
theorem updateSections_read {remaining : ℕ} {offset : BitVec 32}
    (hfull : ReadsFullHeader imageRead)
    (h : (updateSections imageRead imageBase (remaining + 1) offset).1 = .success) :
    ¬ ((imageRead (offset.setWidth 64)).status.isError ∨
      (imageRead (offset.setWidth 64)).size ≠ BitVec.ofNat 64 sizeofSectionHeader) := by
  intro hfailed
  rw [updateSections, if_pos hfailed] at h
  have hok : (imageRead (offset.setWidth 64)).status.isError = false := by
    rw [show (imageRead (offset.setWidth 64)).status = .success from h]
    rfl
  rcases hfailed with herror | hsize
  · rw [hok] at herror
    cases herror
  · exact hsize (hfull _ hok)

/-- From an empty section on, no call is made. -/
theorem updateSections_empty {remaining : ℕ} {offset : BitVec 32}
    (hempty : (imageRead (offset.setWidth 64)).header.virtualSize = 0) :
    (updateSections imageRead imageBase remaining offset).2 = [] := by
  induction remaining with
  | zero => rfl
  | succ remaining ih =>
    rw [updateSections]
    dsimp only
    split
    · rfl
    · exact ih

/-- The calls of a walk that succeeds, section by section. -/
theorem updateSections_exact_iff (hfull : ReadsFullHeader imageRead) {remaining : ℕ}
    {offset : BitVec 32}
    (hsuccess : (updateSections imageRead imageBase remaining offset).1 = .success) :
    CallsExact imageBase (sectionTable imageRead remaining offset)
        (updateSections imageRead imageBase remaining offset).2 ↔
      NothingBehindEmpty (sectionTable imageRead remaining offset) := by
  induction remaining generalizing offset with
  | zero => exact iff_of_true ⟨rfl, rfl⟩ List.Pairwise.nil
  | succ remaining ih =>
    have hread := updateSections_read hfull hsuccess
    rw [sectionTable, NothingBehindEmpty, List.pairwise_cons]
    by_cases hempty : (imageRead (offset.setWidth 64)).header.virtualSize = 0
    · -- The header is read again and again; the table behind it is not.
      rw [updateSections_empty hempty, callsExact_nil_iff, List.forall_mem_cons]
      have hhead : ¬ (imageRead (offset.setWidth 64)).header.NotCode := fun h => h.1 hempty
      constructor
      · rintro ⟨-, hrest⟩
        refine ⟨fun later hlater _ => hrest later hlater, ?_⟩
        exact List.Pairwise.imp_of_mem (fun _ hlater _ _ => hrest _ hlater)
          (List.pairwise_of_forall fun _ _ => trivial)
      · rintro ⟨hrest, -⟩
        exact ⟨hhead, fun later hlater => hrest later hlater hempty⟩
    · rw [updateSections, if_neg hread, if_neg hempty] at hsuccess ⊢
      rw [callsExact_cons_iff (sectionCalls_exact hempty), ih hsuccess]
      exact (and_iff_right fun later _ h => absurd h hempty).symm

/-- **The permissions are right exactly when nothing stands behind an empty section.**  Where
the function succeeds, it has `TextUpdater` and `ReadWriteUpdater` called for exactly the
sections of the table that ask for it if and only if every section behind an empty one is
empty or code. -/
theorem updatePermissions_iff (imageRead : BitVec 64 → ReadResult) (imageBase : BitVec 64)
    (sectionHeaderOffset : BitVec 32) (numberOfSections : BitVec 16)
    (hfull : ReadsFullHeader imageRead)
    (hsuccess : (updateMmFoundationPeCoffPermissions imageRead imageBase sectionHeaderOffset
      numberOfSections).1 = .success) :
    CallsExact imageBase (sectionTable imageRead numberOfSections.toNat sectionHeaderOffset)
        (updateMmFoundationPeCoffPermissions imageRead imageBase sectionHeaderOffset
          numberOfSections).2 ↔
      NothingBehindEmpty (sectionTable imageRead numberOfSections.toNat sectionHeaderOffset) :=
  updateSections_exact_iff hfull hsuccess

/-- An image in memory whose section table is at its start. -/
def tableAtStart (table : List SectionHeader) (offset : BitVec 64) : ReadResult :=
  ⟨.success, BitVec.ofNat 64 sizeofSectionHeader,
    (table[offset.toNat / sizeofSectionHeader]?).getD ⟨0, 0, 0⟩⟩

/-- It reads whole headers. -/
theorem tableAtStart_readsFullHeader (table : List SectionHeader) :
    ReadsFullHeader (tableAtStart table) := fun _ _ => rfl

/-- A code section. -/
def codeSection : SectionHeader := ⟨0x1000, 0x1000, scnMemExecute⟩

/-- A writable data section. -/
def dataSection : SectionHeader := ⟨0x800, 0x2000, scnMemWrite⟩

/-- A section without contents. -/
def emptySection : SectionHeader := ⟨0, 0x2000, 0⟩

/-- A code and a data section get what they should. -/
theorem updatePermissions_code_data :
    CallsExact 0x80000000 (sectionTable (tableAtStart [codeSection, dataSection]) 2 0)
      (updateMmFoundationPeCoffPermissions (tableAtStart [codeSection, dataSection]) 0x80000000 0
        2).2 := by
  refine (updatePermissions_iff (tableAtStart [codeSection, dataSection]) 0x80000000 0 2
    (tableAtStart_readsFullHeader _) (by decide)).2 ?_
  refine List.pairwise_pair.2 fun h => ?_
  exact absurd h (by decide)

/-- **A data section behind an empty one stays executable and read-only**: the function succeeds
without a call. -/
theorem updatePermissions_empty_data :
    updateMmFoundationPeCoffPermissions (tableAtStart [emptySection, dataSection]) 0x80000000 0 2 =
        (.success, []) ∧
      dataSection ∈ sectionTable (tableAtStart [emptySection, dataSection]) 2 0 ∧
      dataSection.WritableData ∧
      ¬ CallsExact 0x80000000 (sectionTable (tableAtStart [emptySection, dataSection]) 2 0)
        (updateMmFoundationPeCoffPermissions (tableAtStart [emptySection, dataSection]) 0x80000000
          0 2).2 := by
  have htable : sectionTable (tableAtStart [emptySection, dataSection]) 2 0 =
      [emptySection, dataSection] := rfl
  refine ⟨rfl, ?_, by decide, fun h => ?_⟩
  · rw [htable]
    exact List.mem_cons_of_mem _ List.mem_cons_self
  · rw [htable] at h
    have hnone := callsExact_nil_iff.1 h dataSection (List.mem_cons_of_mem _ List.mem_cons_self)
    exact hnone (by decide)

/-! ### The updater that is not called -/

/-- No call is one of `ReadOnlyUpdater`. -/
def NoReadOnly (calls : List UpdaterCall) : Prop :=
  ∀ base size, UpdaterCall.readOnlyUpdater base size ∉ calls

/-- No section asks for a call of `ReadOnlyUpdater`. -/
theorem noReadOnly_sectionCalls (header : SectionHeader) :
    NoReadOnly (sectionCalls imageBase header) := by
  intro base size h
  unfold sectionCalls at h
  split at h
  · split at h <;> simp at h
  · simp at h

/-- `ReadOnlyUpdater` is never called. -/
theorem noReadOnly_updateSections (remaining : ℕ) (offset : BitVec 32) :
    NoReadOnly (updateSections imageRead imageBase remaining offset).2 := by
  induction remaining generalizing offset with
  | zero => exact fun _ _ h => absurd h List.not_mem_nil
  | succ remaining ih =>
    unfold updateSections
    dsimp only
    split
    · exact fun _ _ h => absurd h List.not_mem_nil
    split
    · exact ih offset
    · intro base size h
      rcases List.mem_append.1 h with h | h
      · exact noReadOnly_sectionCalls _ base size h
      · exact ih _ base size h

end Image
end FfaFeature
