/-
# The entry point of the partition

`ModuleEntryPoint` of `StandaloneMmCoreEntryPoint.c`, with `CheckFfaCompatibility`, `GetSpManifest`
and the functions of `SetPermissions.c` that find the image of the Standalone MM core and its
section table, from the boot information to the first instruction of the core.

The firmware maps the boot firmware volume read-only and executable, and until its permissions are
changed the image cannot write to its own data.  An address is made writable only after execution is
taken away from it, so if the calls that take execution away succeed, at no moment of the boot,
whatever the firmware passes and wherever the boot stops, is there one that can be written and
executed (`moduleEntryPoint_writeXorExecute`).  The entry point does not look at what those calls
return: where one fails, the section is made writable all the same
(`moduleEntryPoint_ignores_status`).  `moduleEntryPoint_permissions` says what the permissions are
when the core is entered.
-/

import FfaFeature.Image.BootInfo
import FfaFeature.Image.Permissions
import Mathlib.Data.BitVec
import Mathlib.Tactic.Ring

namespace FfaFeature
namespace Image

/-! ### What the partition is given -/

/-- `EFI_FFA_BOOT_INFO_DESC`, as far as it is looked at. -/
structure BootInfoDesc where
  type : BitVec 8
  content : BitVec 64

/-- `EFI_FFA_BOOT_INFO_HEADER`; `desc` is what lies so many bytes from its start. -/
structure BootInfoHeader where
  magic : BitVec 32
  offsetBootInfoDesc : BitVec 32
  desc : BitVec 32 → BootInfoDesc

/-- `PE_COFF_LOADER_IMAGE_CONTEXT`, as far as it is looked at. -/
structure ImageContext where
  imageAddress : BitVec 64
  peCoffHeaderOffset : BitVec 32
  sectionAlignment : BitVec 32
  isTeImage : Bool

/-- `EFI_IMAGE_OPTIONAL_HEADER_UNION`: the fields of a PE header, and those of a TE header. -/
structure ImageHeader where
  numberOfSections : BitVec 16
  sizeOfOptionalHeader : BitVec 16
  magic : BitVec 16
  teNumberOfSections : BitVec 8
  teStrippedSize : BitVec 16

/-- What the outputs of `GetStandaloneMmCorePeCoffSections` hold. -/
structure SectionInfo where
  imageContext : ImageContext
  imageBase : BitVec 64
  sectionHeaderOffset : BitVec 32
  numberOfSections : BitVec 16

/-- What the entry point calls: the SPMC and the libraries for firmware volumes and images, the
memory they look at, and what the stack holds where a local variable is not assigned. -/
structure EntryEnv where
  armFfaMajorVersion : BitVec 16
  armFfaMinorVersion : BitVec 16
  armFfaLibGetVersion : EfiStatus × BitVec 16 × BitVec 16
  manifestAt : BitVec 64 → FdtNode
  ffsFindNextFile : (fileType : BitVec 8) → (bfvAddress : BitVec 64) → EfiStatus × BitVec 64
  ffsFindSectionData : (sectionType : BitVec 8) → (file : BitVec 64) → EfiStatus × BitVec 64
  peCoffLoaderGetImageInfo : (teData : BitVec 64) → EfiStatus × ImageContext
  readImageHeader : (teData : BitVec 64) → (offset : BitVec 32) →
    EfiStatus × BitVec 64 × ImageHeader
  readSectionHeader : (teData : BitVec 64) → (offset : BitVec 64) → ReadResult
  unassignedOffset : BitVec 32
  unassignedInfo : SectionInfo

/-- `FFA_BOOT_INFO_SIGNATURE`. -/
def ffaBootInfoSignature : BitVec 32 := 0x0FFA

/-- `FFA_BOOT_INFO_TYPE (FFA_BOOT_INFO_TYPE_STD) |
FFA_BOOT_INFO_TYPE_ID (FFA_BOOT_INFO_TYPE_ID_FDT)`. -/
def ffaBootInfoTypeFdt : BitVec 8 := 0

/-- `EFI_FV_FILETYPE_SECURITY_CORE`. -/
def fvFiletypeSecurityCore : BitVec 8 := 0x03

/-- `EFI_SECTION_PE32`. -/
def sectionPe32 : BitVec 8 := 0x10

/-- `EFI_SECTION_TE`. -/
def sectionTe : BitVec 8 := 0x12

/-- `EFI_IMAGE_NT_OPTIONAL_HDR32_MAGIC` and `EFI_IMAGE_NT_OPTIONAL_HDR64_MAGIC`. -/
def ntOptionalHdrMagics : List (BitVec 16) := [0x10B, 0x20B]

/-- `sizeof (EFI_IMAGE_OPTIONAL_HEADER_UNION)`, the size of a PE32+ header. -/
def sizeofImageHeader : ℕ := 264

/-- `sizeof (EFI_TE_IMAGE_HEADER)`. -/
def sizeofTeHeader : ℕ := 40

/-- `sizeof (UINT32) + sizeof (EFI_IMAGE_FILE_HEADER)`. -/
def sizeofPeFileHeader : ℕ := 24

section EntryPoint

variable (env : EntryEnv)

/-- `CheckFfaCompatibility`: the status, and `UseOnlyFfaAbis`. -/
def checkFfaCompatibility : EfiStatus × Bool :=
  let (status, spmcMajorVer, spmcMinorVer) := env.armFfaLibGetVersion
  if status.isError then (status, false)
  else if spmcMajorVer ≠ env.armFfaMajorVersion then (.unsupported, false)
  else (.success, decide (env.armFfaMinorVersion ≤ spmcMinorVer))

/-- `GetSpManifest`: the address of the manifest, or the error. -/
def getSpManifest (bootInfo : Option BootInfoHeader) : Except EfiStatus (BitVec 64) :=
  match bootInfo with
  | none => .error .invalidParameter
  | some ffaBootInfo =>
    if ffaBootInfo.magic ≠ ffaBootInfoSignature then .error .invalidParameter
    else
      let ffaBootInfoDesc := ffaBootInfo.desc ffaBootInfo.offsetBootInfoDesc
      if ffaBootInfoDesc.type = ffaBootInfoTypeFdt then .ok ffaBootInfoDesc.content
      else .error .notFound

/-- `LocateStandaloneMmCorePeCoffData`: `TeData`, or the error. -/
def locateStandaloneMmCorePeCoffData (bfvAddress : BitVec 64) : Except EfiStatus (BitVec 64) :=
  let (status, fileHeader) := env.ffsFindNextFile fvFiletypeSecurityCore bfvAddress
  if status.isError then .error status
  else
    let (status, teData) := env.ffsFindSectionData sectionPe32 fileHeader
    if status.isError then
      let (status, teData) := env.ffsFindSectionData sectionTe fileHeader
      if status.isError then .error status else .ok teData
    else .ok teData

/-- `GetPeCoffSectionInformation`, from the header on.  A magic that is neither of the two is
asserted against. -/
def headerSectionInformation (imageContext : ImageContext) (hdr : ImageHeader) : SectionInfo :=
  if imageContext.isTeImage then
    { imageContext := imageContext
      imageBase := imageContext.imageAddress -
        (hdr.teStrippedSize.setWidth 64 - BitVec.ofNat 64 sizeofTeHeader)
      sectionHeaderOffset := BitVec.ofNat 32 sizeofTeHeader
      numberOfSections := hdr.teNumberOfSections.setWidth 16 }
  else
    { imageContext := imageContext
      imageBase := imageContext.imageAddress
      sectionHeaderOffset :=
        imageContext.peCoffHeaderOffset + BitVec.ofNat 32 sizeofPeFileHeader +
          if hdr.magic ∈ ntOptionalHdrMagics then hdr.sizeOfOptionalHeader.setWidth 32 else 0
      numberOfSections := hdr.numberOfSections }

/-- Permissions are changed by pages, so a TE image is taken to be aligned to them. -/
def ImageContext.alignSections (imageContext : ImageContext) : ImageContext :=
  if imageContext.sectionAlignment.toNat < efiPageSize then
    { imageContext with sectionAlignment := BitVec.ofNat 32 efiPageSize }
  else imageContext

/-- `GetStandaloneMmCorePeCoffSections`: the outputs, or the error.  A header that is not read
whole leaves the outputs unassigned, under the status of the read. -/
def getStandaloneMmCorePeCoffSections (teData : BitVec 64) : Except EfiStatus SectionInfo :=
  let (status, imageContext) := env.peCoffLoaderGetImageInfo teData
  if status.isError then .error status
  else if imageContext.sectionAlignment.toNat < efiPageSize ∧ ¬ imageContext.isTeImage then
    .error .unsupported
  else
    let imageContext := imageContext.alignSections
    let (status, readSize, hdr) :=
      env.readImageHeader teData imageContext.peCoffHeaderOffset
    if status.isError then .error status
    else if readSize ≠ BitVec.ofNat 64 sizeofImageHeader then .ok env.unassignedInfo
    else .ok (headerSectionInformation imageContext hdr)

/-- What `ModuleEntryPoint` knows before it changes a permission. -/
structure CoreImage where
  dtbAddress : BitVec 64
  teData : BitVec 64
  info : SectionInfo

/-- `ModuleEntryPoint` up to the fix of `ImageBase`: the image, or the status it finishes with. -/
def findCoreImage (bootInfo : Option BootInfoHeader) : Except EfiStatus CoreImage := do
  let (status, useOnlyFfaAbis) := checkFfaCompatibility env
  if status.isError ∨ ¬ useOnlyFfaAbis then throw status
  let dtbAddress ← getSpManifest bootInfo
  let (status, spBootInfo) :=
    populateBootinformation env.unassignedOffset (env.manifestAt dtbAddress) .zero
  if status ≠ .success then throw status
  let teData ← locateStandaloneMmCorePeCoffData env spBootInfo.spMemBase
  let info ← getStandaloneMmCorePeCoffSections env teData
  pure ⟨dtbAddress, teData, info⟩

/-- `ImageBase`, fixed up to refer to where the image is. -/
def CoreImage.imageBase (image : CoreImage) : BitVec 64 :=
  image.info.imageBase + (image.teData - image.info.imageContext.imageAddress)

/-- The image is not where it was linked to be. -/
def CoreImage.relocated (image : CoreImage) : Bool :=
  image.info.imageContext.imageAddress ≠ image.teData

/-- The calls before the image is relocated, if it is. -/
def CoreImage.relocationCalls (image : CoreImage) : List UpdaterCall :=
  if image.relocated then
    [.textUpdater image.imageBase (BitVec.ofNat 64 efiPageSize),
      .readWriteUpdater image.imageBase (BitVec.ofNat 64 efiPageSize)]
  else []

/-- What `ModuleEntryPoint` does: the status it finishes with, the permissions it has changed, and
the address in the services table of the partition, if it gets to the core. -/
structure EntryResult where
  status : EfiStatus
  calls : List UpdaterCall
  fdtAddress : Option (BitVec 64)

/-- `ModuleEntryPoint`.  The core is entered with the address of the manifest in `gSpst`.  What
the updaters return is not looked at, so the calls do not depend on it. -/
def moduleEntryPoint (bootInfo : Option BootInfoHeader) : EntryResult :=
  match findCoreImage env bootInfo with
  | .error status => ⟨status, [], none⟩
  | .ok image =>
    let (status, calls) := updateMmFoundationPeCoffPermissions (env.readSectionHeader image.teData)
      image.imageBase image.info.sectionHeaderOffset image.info.numberOfSections
    if status.isError then ⟨status, calls, none⟩
    else
      ⟨status, calls ++ image.relocationCalls, some image.dtbAddress⟩

end EntryPoint

/-! ### Writable or executable -/

section WriteXorExecute

variable {τ : Type*} (lib : ArmMmuLib τ)

/-- The calls for a section. -/
theorem keepsWriteXorExecute_sectionCalls (imageBase : BitVec 64) (header : SectionHeader) :
    lib.KeepsWriteXorExecute (sectionCalls imageBase header) := by
  unfold sectionCalls
  split
  · dsimp only
    split
    · exact lib.keepsWriteXorExecute_pair _ _
    · exact lib.keepsWriteXorExecute_text _ _
  · exact lib.keepsWriteXorExecute_nil

/-- The walk over the sections, whatever the headers say and wherever it stops. -/
theorem keepsWriteXorExecute_updateSections (imageRead : BitVec 64 → ReadResult)
    (imageBase : BitVec 64) (remaining : ℕ) (offset : BitVec 32) :
    lib.KeepsWriteXorExecute (updateSections imageRead imageBase remaining offset).2 := by
  induction remaining generalizing offset with
  | zero => exact lib.keepsWriteXorExecute_nil
  | succ remaining ih =>
    unfold updateSections
    dsimp only
    split
    · exact lib.keepsWriteXorExecute_nil
    split
    · exact ih offset
    · exact (keepsWriteXorExecute_sectionCalls lib imageBase _).append (ih _)

/-- The relocation, if the image is relocated. -/
theorem keepsWriteXorExecute_relocationCalls (image : CoreImage) :
    lib.KeepsWriteXorExecute image.relocationCalls := by
  unfold CoreImage.relocationCalls
  split
  · exact lib.keepsWriteXorExecute_pair _ _
  · exact lib.keepsWriteXorExecute_nil

/-- **At no moment of the boot can an address be written and executed.**  The firmware has mapped
what can be executed read-only; whatever it passes, and wherever the boot stops, the permissions
after each of the changes keep the two apart, if the changes that take execution away succeed.
Those that give write access may fail. -/
theorem moduleEntryPoint_writeXorExecute (env : EntryEnv) (bootInfo : Option BootInfoHeader)
    {s : τ} (hs : WriteXorExecute (lib.permissions s))
    (hsucceed : lib.Succeed ArmMmuLib.TakesExecution s (moduleEntryPoint env bootInfo).calls)
    (k : ℕ) :
    WriteXorExecute
      (lib.permissions (lib.run s ((moduleEntryPoint env bootInfo).calls.take k))) := by
  suffices h : lib.KeepsWriteXorExecute (moduleEntryPoint env bootInfo).calls from
    h s hs hsucceed k
  unfold moduleEntryPoint
  split
  · exact lib.keepsWriteXorExecute_nil
  · dsimp only
    have hwalk := keepsWriteXorExecute_updateSections lib
    split
    · exact hwalk _ _ _ _
    · exact (hwalk _ _ _ _).append (keepsWriteXorExecute_relocationCalls lib _)

end WriteXorExecute

/-! ### The permissions of the core -/

section Core

variable {env : EntryEnv} {bootInfo : Option BootInfoHeader} {image : CoreImage}

/-- The section table of the image. -/
def coreSections (env : EntryEnv) (image : CoreImage) : List SectionHeader :=
  sectionTable (env.readSectionHeader image.teData) image.info.numberOfSections.toNat
    image.info.sectionHeaderOffset

/-- The addresses on the pages of a section of the image. -/
def CoreImage.sectionPages (image : CoreImage) (header : SectionHeader) : Set (BitVec 64) :=
  pages (header.region image.imageBase).1 (header.region image.imageBase).2

/-- The pages of the headers, where the relocation of the image writes. -/
def CoreImage.relocationPages (image : CoreImage) : Set (BitVec 64) :=
  {a | image.relocated = true ∧ a ∈ pages image.imageBase (BitVec.ofNat 64 efiPageSize)}

/-- The bytes of the image before `TeData` that are not in memory: those that a TE image is
stripped of, but for the header it has instead. -/
def strippedBytes (imageContext : ImageContext) (hdr : ImageHeader) : BitVec 64 :=
  if imageContext.isTeImage then
    hdr.teStrippedSize.setWidth 64 - BitVec.ofNat 64 sizeofTeHeader
  else 0

/-- What is needed of the read of the header: where it does not fail it reads it whole. -/
def ReadsFullImageHeader (env : EntryEnv) : Prop :=
  ∀ teData offset, (env.readImageHeader teData offset).1.isError = false →
    (env.readImageHeader teData offset).2.1 = BitVec.ofNat 64 sizeofImageHeader

/-- The image lies before its header by what is stripped. -/
theorem headerSectionInformation_imageBase (imageContext : ImageContext) (hdr : ImageHeader) :
    (headerSectionInformation imageContext hdr).imageContext = imageContext ∧
      (headerSectionInformation imageContext hdr).imageBase =
        imageContext.imageAddress - strippedBytes imageContext hdr := by
  unfold headerSectionInformation strippedBytes
  split
  · exact ⟨rfl, rfl⟩
  · exact ⟨rfl, (BitVec.sub_zero _).symm⟩

/-- A sequence that succeeds, in its parts. -/
theorem bind_eq_ok {ε α β : Type} {x : Except ε α} {f : α → Except ε β} {b : β}
    (h : x >>= f = .ok b) : ∃ a, x = .ok a ∧ f a = .ok b := by
  cases x with
  | error e => cases h
  | ok a => exact ⟨a, rfl, h⟩

/-- A search that succeeds has got the section information of its image. -/
theorem findCoreImage_info (h : findCoreImage env bootInfo = .ok image) :
    getStandaloneMmCorePeCoffSections env image.teData = .ok image.info := by
  unfold findCoreImage at h
  dsimp only at h
  split at h
  · cases h
  obtain ⟨dtbAddress, -, h⟩ := bind_eq_ok h
  split at h
  · cases h
  obtain ⟨teData, -, h⟩ := bind_eq_ok h
  obtain ⟨info, hinfo, h⟩ := bind_eq_ok h
  cases h
  exact hinfo

/-- And that information is the one of a header. -/
theorem getSections_header {teData : BitVec 64} {info : SectionInfo}
    (hwhole : ReadsFullImageHeader env)
    (h : getStandaloneMmCorePeCoffSections env teData = .ok info) :
    info = headerSectionInformation info.imageContext
      (env.readImageHeader teData info.imageContext.peCoffHeaderOffset).2.2 := by
  unfold getStandaloneMmCorePeCoffSections at h
  dsimp only at h
  split at h
  · cases h
  split at h
  · cases h
  generalize ImageContext.alignSections _ = imageContext at h
  split at h
  · cases h
  rename_i hread
  rw [if_neg (not_not.2 (hwhole _ _ (by simpa using hread)))] at h
  cases h
  rw [(headerSectionInformation_imageBase _ _).1]

/-- **Where the sections are taken to be**: from `TeData` on, as the image is linked, less the
bytes it is stripped of. -/
theorem imageBase_eq (hwhole : ReadsFullImageHeader env)
    (h : findCoreImage env bootInfo = .ok image) :
    image.imageBase = image.teData - strippedBytes image.info.imageContext
      (env.readImageHeader image.teData image.info.imageContext.peCoffHeaderOffset).2.2 := by
  have hbase := congrArg SectionInfo.imageBase (getSections_header hwhole (findCoreImage_info h))
  rw [(headerSectionInformation_imageBase _ _).2] at hbase
  rw [CoreImage.imageBase, hbase]
  ring

/-- What the relocation changes. -/
theorem relocationCalls_spec (image : CoreImage) (a : BitVec 64) :
    NoReadOnly image.relocationCalls ∧
      ((∀ region ∈ textRegions image.relocationCalls, a ∉ pages region.1 region.2) ↔
        a ∉ image.relocationPages) ∧
      ((∀ region ∈ readWriteRegions image.relocationCalls, a ∉ pages region.1 region.2) ↔
        a ∉ image.relocationPages) := by
  unfold CoreImage.relocationCalls CoreImage.relocationPages NoReadOnly
  cases image.relocated <;> simp [textRegions, readWriteRegions]

/-- What the walk changes, of a table in which it changes all it should. -/
theorem forall_regions_iff {table : List SectionHeader} {imageBase : BitVec 64}
    {needs : SectionHeader → Prop} [DecidablePred needs] {a : BitVec 64} :
    (∀ region ∈ (table.filter fun header => needs header).map (·.region imageBase),
        a ∉ pages region.1 region.2) ↔
      ∀ header ∈ table, needs header →
        a ∉ pages (header.region imageBase).1 (header.region imageBase).2 := by
  rw [List.forall_mem_map]
  constructor
  · exact fun h header hheader hneeds =>
      h header (List.mem_filter.2 ⟨hheader, decide_eq_true hneeds⟩)
  · intro h header hheader
    obtain ⟨hheader, hneeds⟩ := List.mem_filter.1 hheader
    exact h header hheader (of_decide_eq_true hneeds)

/-- Where all headers are read whole, success means that all were read. -/
theorem updateSections_success {imageRead : BitVec 64 → ReadResult} {imageBase : BitVec 64}
    (hfull : ReadsFullHeader imageRead) {remaining : ℕ} {offset : BitVec 32}
    (h : (updateSections imageRead imageBase remaining offset).1.isError = false) :
    (updateSections imageRead imageBase remaining offset).1 = .success := by
  induction remaining generalizing offset with
  | zero => rfl
  | succ remaining ih =>
    unfold updateSections at h ⊢
    dsimp only at h ⊢
    split at h
    · rename_i hfailed
      refine absurd (hfull _ h) ?_
      exact hfailed.resolve_left (by simp [h])
    · rename_i hread
      rw [if_neg hread]
      split at h
      · rename_i hempty
        rw [if_pos hempty]
        exact ih h
      · rename_i hempty
        rw [if_neg hempty]
        exact ih h

/-- **The permissions with which the core is entered.**  Of an image with no section behind an empty
one, and where no change of permissions fails, exactly the pages of the sections that are not
code cannot be executed any more, and exactly those of the writable data can be written, where the
sections are in memory; with them go the pages of the headers, if the image is relocated. -/
theorem moduleEntryPoint_permissions {τ : Type*} (lib : ArmMmuLib τ)
    (hwhole : ReadsFullImageHeader env) (himage : findCoreImage env bootInfo = .ok image)
    (hentered : (moduleEntryPoint env bootInfo).fdtAddress ≠ none)
    (hfull : ReadsFullHeader (env.readSectionHeader image.teData))
    (hnothing : NothingBehindEmpty (coreSections env image)) {s : τ}
    (hsucceed : lib.Succeed (fun _ => True) s (moduleEntryPoint env bootInfo).calls)
    (a : BitVec 64) :
    let p := lib.permissions s
    let p' := lib.permissions (lib.run s (moduleEntryPoint env bootInfo).calls)
    image.imageBase = image.teData - strippedBytes image.info.imageContext
        (env.readImageHeader image.teData image.info.imageContext.peCoffHeaderOffset).2.2 ∧
      (a ∈ p'.executable ↔ a ∈ p.executable ∧ a ∉ image.relocationPages ∧
        ∀ header ∈ coreSections env image, header.NotCode → a ∉ image.sectionPages header) ∧
      (a ∈ p'.readOnly ↔ a ∈ p.readOnly ∧ a ∉ image.relocationPages ∧
        ∀ header ∈ coreSections env image, header.WritableData →
          a ∉ image.sectionPages header) := by
  intro p p'
  refine ⟨imageBase_eq hwhole himage, ?_⟩
  -- the calls are those of the walk, and those of the relocation
  have hcalls : (updateMmFoundationPeCoffPermissions (env.readSectionHeader image.teData)
        image.imageBase image.info.sectionHeaderOffset
        image.info.numberOfSections).1.isError = false ∧
      (moduleEntryPoint env bootInfo).calls =
        (updateMmFoundationPeCoffPermissions (env.readSectionHeader image.teData) image.imageBase
          image.info.sectionHeaderOffset image.info.numberOfSections).2 ++
        image.relocationCalls := by
    unfold moduleEntryPoint at hentered ⊢
    rw [himage] at hentered ⊢
    dsimp only at hentered ⊢
    split at hentered
    · exact absurd rfl hentered
    · rename_i hok
      rw [if_neg hok]
      exact ⟨by simpa using hok, rfl⟩
  obtain ⟨hok, hcalls⟩ := hcalls
  have hexact : CallsExact image.imageBase (coreSections env image)
      (updateMmFoundationPeCoffPermissions (env.readSectionHeader image.teData) image.imageBase
        image.info.sectionHeaderOffset image.info.numberOfSections).2 :=
    (updateSections_exact_iff hfull (updateSections_success hfull hok)).2 hnothing
  obtain ⟨hnone, htext, hreadWrite⟩ := relocationCalls_spec image a
  have hnoReadOnly : NoReadOnly (moduleEntryPoint env bootInfo).calls := by
    rw [hcalls]
    intro base size h
    rcases List.mem_append.1 h with h | h
    · exact noReadOnly_updateSections _ _ base size h
    · exact hnone base size h
  refine ⟨?_, ?_⟩
  · rw [lib.mem_executable_run hnoReadOnly hsucceed, hcalls, textRegions_append,
      List.forall_mem_append, hexact.text, forall_regions_iff, htext,
      and_comm (b := a ∉ image.relocationPages)]
    rfl
  · rw [lib.mem_readOnly_run hnoReadOnly hsucceed, hcalls, readWriteRegions_append,
      List.forall_mem_append, hexact.readWrite, forall_regions_iff, hreadWrite,
      and_comm (b := a ∉ image.relocationPages)]
    rfl

end Core

/-! ### A partition that boots -/

/-- A manifest that places the volume at `0x80001000`. -/
def bootManifest : FdtNode :=
  .mk "" [("compatible", .ofBytes (stringBytes "arm,ffa-manifest-1.0" ++ [0])),
    ("load-address", .ofBytes [0, 0, 0, 0, 0x80, 0, 0, 0]),
    ("entrypoint-offset", .ofBytes [0, 0, 0x10, 0]),
    ("image-size", .ofBytes [0, 0, 0, 0, 0, 0x10, 0, 0]),
    ("xlat-granule", .ofBytes [0, 0, 0, 0])] []

/-- The FF-A boot information, with the manifest at `0x90000000`. -/
def bootHeader : BootInfoHeader :=
  ⟨ffaBootInfoSignature, 0x20, fun _ => ⟨ffaBootInfoTypeFdt, 0x90000000⟩⟩

/-- A volume with a TE image of a code section and a data section, linked at address `0` and
stripped so that its sections are on page boundaries. -/
def bootEnv : EntryEnv where
  armFfaMajorVersion := 1
  armFfaMinorVersion := 1
  armFfaLibGetVersion := (.success, 1, 2)
  manifestAt _ := bootManifest
  ffsFindNextFile _ bfvAddress := (.success, bfvAddress + 0x48)
  ffsFindSectionData sectionType file :=
    if sectionType = sectionTe then (.success, file + 0x148) else (.notFound, 0)
  peCoffLoaderGetImageInfo _ := (.success, ⟨0, 0, 0x1000, true⟩)
  readImageHeader _ _ := (.success, BitVec.ofNat 64 sizeofImageHeader, ⟨0, 0, 0, 2, 0x1B8⟩)
  readSectionHeader _ := tableAtStart [⟨0, 0, 0⟩, codeSection, dataSection]
  unassignedOffset := 0
  unassignedInfo := ⟨⟨0, 0, 0, false⟩, 0, 0, 0⟩

/-- The image of that volume. -/
def bootImage : CoreImage :=
  ⟨0x90000000, 0x80001190, ⟨⟨0, 0, 0x1000, true⟩, -(0x1B8 - 40), 40, 2⟩⟩

/-- What the firmware maps: everything can be executed, and nothing written. -/
def firmwarePermissions : Permissions := ⟨Set.univ, Set.univ⟩

/-- A library that changes what it is asked to, of regions on page boundaries; `refuses` are the
regions from which it takes no execution. -/
def pageMmuLib (refuses : BitVec 64 → BitVec 64 → Bool) : ArmMmuLib Permissions where
  update p
    | .textUpdater base size =>
      if base.toNat % efiPageSize ≠ 0 ∨ refuses base size then (.invalidParameter, p)
      else (.success, { p with executable := p.executable \ pages base size })
    | .readOnlyUpdater base size =>
      if base.toNat % efiPageSize ≠ 0 then (.invalidParameter, p)
      else (.success, { p with readOnly := p.readOnly ∪ pages base size })
    | .readWriteUpdater base size =>
      if base.toNat % efiPageSize ≠ 0 then (.invalidParameter, p)
      else (.success, { p with readOnly := p.readOnly \ pages base size })
  permissions p := p
  noExec_readOnly p base size := by
    dsimp only
    split <;> rfl
  noExec_subset p base size a ha := by
    dsimp only at ha
    split at ha
    · exact ha
    · exact ha.1
  noExec_outside p base size a ha hpages := by
    dsimp only
    split
    · exact ha
    · exact ⟨ha, hpages⟩
  noExec_success p base size hsuccess a hpages ha := by
    dsimp only at hsuccess ha
    split at hsuccess
    · exact absurd hsuccess (show ¬ EfiStatus.invalidParameter.isError = false by decide)
    · rename_i hserves
      rw [if_neg hserves] at ha
      exact ha.2 hpages
  clearReadOnly_executable p base size := by
    dsimp only
    split <;> rfl
  clearReadOnly_subset p base size a ha := by
    dsimp only at ha
    split at ha
    · exact ha
    · exact ha.1
  clearReadOnly_outside p base size a ha hpages := by
    dsimp only
    split
    · exact ha
    · exact ⟨ha, hpages⟩
  clearReadOnly_success p base size hsuccess a hpages ha := by
    dsimp only at hsuccess ha
    split at hsuccess
    · exact absurd hsuccess (show ¬ EfiStatus.invalidParameter.isError = false by decide)
    · rename_i hserves
      rw [if_neg hserves] at ha
      exact ha.2 hpages

/-- A library that serves every region on page boundaries. -/
def servingMmuLib : ArmMmuLib Permissions := pageMmuLib fun _ _ => false

/-- The calls that are made for it. -/
theorem moduleEntryPoint_calls_te : (moduleEntryPoint bootEnv (some bootHeader)).calls =
    [.textUpdater 0x80003000 0x800, .readWriteUpdater 0x80003000 0x800,
      .textUpdater 0x80001000 0x1000, .readWriteUpdater 0x80001000 0x1000] := rfl

/-- No change fails. -/
theorem succeed_te (P : UpdaterCall → Prop) :
    servingMmuLib.Succeed P firmwarePermissions
      (moduleEntryPoint bootEnv (some bootHeader)).calls := by
  rw [moduleEntryPoint_calls_te]
  exact ⟨fun _ => rfl, fun _ => rfl, fun _ => rfl, fun _ => rfl, trivial⟩

/-- The two are apart once the data can be written. -/
theorem moduleEntryPoint_writeXorExecute_te :
    WriteXorExecute (servingMmuLib.permissions (servingMmuLib.run firmwarePermissions
      ((moduleEntryPoint bootEnv (some bootHeader)).calls.take 2))) :=
  moduleEntryPoint_writeXorExecute servingMmuLib bootEnv (some bootHeader)
    (Set.Subset.refl _) (succeed_te _) 2

/-- The core is found. -/
theorem findCoreImage_te : findCoreImage bootEnv (some bootHeader) = .ok bootImage := rfl

/-- It has both sections. -/
theorem coreSections_te : coreSections bootEnv bootImage = [codeSection, dataSection] := rfl

/-- The first byte of the data. -/
def dataStart : BitVec 64 := 0x80003000

/-- The data section begins in its pages. -/
theorem dataStart_mem : dataStart ∈ pages dataStart 0x800 :=
  addresses_subset_pages _ _ ⟨0, by decide, rfl⟩

/-- The first byte of the data can be written, and not executed. -/
theorem moduleEntryPoint_permissions_te :
    let p' := servingMmuLib.permissions (servingMmuLib.run firmwarePermissions
      (moduleEntryPoint bootEnv (some bootHeader)).calls)
    dataStart ∉ p'.executable ∧ dataStart ∉ p'.readOnly := by
  intro p'
  have hentered : (moduleEntryPoint bootEnv (some bootHeader)).fdtAddress = some 0x90000000 := rfl
  obtain ⟨-, hexecutable, hreadOnly⟩ := moduleEntryPoint_permissions servingMmuLib
    (fun _ _ _ => rfl) findCoreImage_te (fun h => by rw [hentered] at h; cases h)
    (tableAtStart_readsFullHeader _) (List.pairwise_pair.2 fun h => absurd h (by decide))
    (succeed_te _) dataStart
  have hdata : dataSection ∈ coreSections bootEnv bootImage := by
    rw [coreSections_te]
    exact List.mem_cons_of_mem _ List.mem_cons_self
  have haddress : dataStart ∈ bootImage.sectionPages dataSection := dataStart_mem
  exact ⟨fun h => (hexecutable.1 h).2.2 dataSection hdata (by decide) haddress,
    fun h => (hreadOnly.1 h).2.2 dataSection hdata (by decide) haddress⟩

/-- **A call that fails is not noticed.**  From the data of the same image execution is not taken
away; the core is entered all the same, and the data can be written and executed. -/
theorem moduleEntryPoint_ignores_status :
    let lib := pageMmuLib fun base _ => base = dataStart
    let result := moduleEntryPoint bootEnv (some bootHeader)
    result.fdtAddress = some 0x90000000 ∧
      ¬ WriteXorExecute (lib.permissions (lib.run firmwarePermissions (result.calls.take 2))) := by
  intro lib result
  refine ⟨rfl, fun h => ?_⟩
  have hcalls : result.calls.take 2 =
      [.textUpdater dataStart 0x800, .readWriteUpdater dataStart 0x800] := rfl
  have hreadOnly : dataStart ∈ (lib.permissions (lib.run firmwarePermissions
      (result.calls.take 2))).readOnly := h trivial
  rw [hcalls] at hreadOnly
  exact hreadOnly.2 dataStart_mem

end Image
end FfaFeature
