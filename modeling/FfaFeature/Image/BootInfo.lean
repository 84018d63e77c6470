/-
# The boot information of the partition

`PopulateBootinformation` of `Library/SecurePartitionEntryPoint/StandaloneMmCoreEntryPoint.c`.
The manifest says where the image of the partition was loaded and where in it the boot firmware
volume starts; `ModuleEntryPoint` looks for the Standalone MM core there.

Four properties are read.  The status of the second read, that of `entrypoint-offset`, is
overwritten by the third, so a manifest without it is accepted, and the offset is what the
stack held where the local variable lies.  `bootInfoExact_iff` says for which manifests none of
this shows, and `bfvAddress_places` that the core is then looked for where the manifest has it.
-/

import FfaFeature.Fdt

namespace FfaFeature
namespace Image

/-- `SP_BOOT_INFO`. -/
structure SpBootInfo where
  spMemBase : BitVec 64
  spMemSize : BitVec 64
  spHeapBase : BitVec 64
  spHeapSize : BitVec 64
  deriving DecidableEq, Repr

/-- `SP_BOOT_INFO SpBootInfo = { 0 }`. -/
def SpBootInfo.zero : SpBootInfo := ⟨0, 0, 0, 0⟩

/-- `FFA_PAGE_4K`, `FFA_PAGE_16K` and `FFA_PAGE_64K` with the page sizes they stand for. -/
def granulePageSize (pageSize : BitVec 32) : Option ℕ :=
  if pageSize = 0 then some 4096
  else if pageSize = 1 then some (4 * 4096)
  else if pageSize = 2 then some (16 * 4096)
  else none

/-- The part of `PopulateBootinformation` past the entry point, from the read of `image-size`
on. -/
def populateImageSize (node : FdtNode) (spBootInfo : SpBootInfo) : EfiStatus × SpBootInfo :=
  match node.readProperty64 "image-size" with
  | .error status => (status, spBootInfo)
  | .ok spMemSize =>
    match node.readProperty32 "xlat-granule" with
    | .error status => (status, { spBootInfo with spMemSize := spMemSize })
    | .ok pageSize =>
      match granulePageSize pageSize with
      | none => (.invalidParameter, { spBootInfo with spMemSize := spMemSize })
      | some _ => (.success, { spBootInfo with spMemSize := spMemSize })

/-- `PopulateBootinformation`.  `unassigned` is what the stack held where `EntryPointOffset`
lies. -/
def populateBootinformation (unassigned : BitVec 32) (manifest : FdtNode)
    (spBootInfo : SpBootInfo) : EfiStatus × SpBootInfo :=
  match manifest.nodeOffsetByCompatible "arm,ffa-manifest-1.0" with
  | none => (.notFound, spBootInfo)
  | some node =>
    match node.readProperty64 "load-address" with
    | .error status => (status, spBootInfo)
    | .ok memBase =>
      let entryPointOffset :=
        match node.readProperty32 "entrypoint-offset" with
        -- `Status` is not looked at, and `EntryPointOffset` not written
        | .error _ => unassigned
        | .ok entryPointOffset => entryPointOffset
      populateImageSize node
        { spBootInfo with spMemBase := memBase + entryPointOffset.setWidth 64 }

/-- `ModuleEntryPoint` from the manifest to the search for the Standalone MM core:
`BfvAddress`, if it gets there. -/
def bfvAddress (unassigned : BitVec 32) (manifest : FdtNode) : Option (BitVec 64) :=
  let result := populateBootinformation unassigned manifest .zero
  if result.1 = .success then some result.2.spMemBase else none

/-! ### What the boot information should be -/

/-- The manifest has all four properties, one of the three granules among them, and they place
the image at `base` with `size` bytes. -/
def Places (manifest : FdtNode) (base size : BitVec 64) : Prop :=
  ∃ node loadAddress entrypointOffset granule,
    manifest.nodeOffsetByCompatible "arm,ffa-manifest-1.0" = some node ∧
    node.readProperty64 "load-address" = .ok loadAddress ∧
    node.readProperty32 "entrypoint-offset" = .ok entrypointOffset ∧
    node.readProperty64 "image-size" = .ok size ∧
    node.readProperty32 "xlat-granule" = .ok granule ∧ (granulePageSize granule).isSome ∧
    base = loadAddress + entrypointOffset.setWidth 64

/-- **What `PopulateBootinformation` is for.**  It succeeds with the base and the size the
manifest gives, and only with these; it fails where the manifest leaves one of them open; and
it makes up nothing: the same manifest always gives the same result. -/
structure BootInfoExact (manifest : FdtNode) : Prop where
  success : ∀ unassigned spBootInfo,
    (populateBootinformation unassigned manifest spBootInfo).1 = .success →
      Places manifest (populateBootinformation unassigned manifest spBootInfo).2.spMemBase
        (populateBootinformation unassigned manifest spBootInfo).2.spMemSize
  missing : (∀ base size, ¬ Places manifest base size) → ∀ unassigned spBootInfo,
    (populateBootinformation unassigned manifest spBootInfo).1.isError
  determined : ∀ unassigned unassigned' spBootInfo,
    populateBootinformation unassigned manifest spBootInfo =
      populateBootinformation unassigned' manifest spBootInfo

/-- A manifest with a `load-address` has an `entrypoint-offset`. -/
def OffsetGiven (manifest : FdtNode) : Prop :=
  ∀ node, manifest.nodeOffsetByCompatible "arm,ffa-manifest-1.0" = some node →
    (node.getProperty "load-address").isSome → (node.getProperty "entrypoint-offset").isSome

/-! ### The reads -/

section Reads

variable {manifest node : FdtNode} {property : String}

/-- `EFI_INVALID_PARAMETER` is an error. -/
theorem isError_invalidParameter : EfiStatus.invalidParameter.isError = true := by decide

/-- `EFI_NOT_FOUND` is an error. -/
theorem isError_notFound : EfiStatus.notFound.isError = true := by decide

/-- A property that is there is read. -/
theorem readProperty32_isSome :
    (node.getProperty property).isSome ↔ ∃ value, node.readProperty32 property = .ok value := by
  unfold FdtNode.readProperty32
  cases node.getProperty property <;> simp

/-- And so is one of 64 bits. -/
theorem readProperty64_isSome :
    (node.getProperty property).isSome ↔ ∃ value, node.readProperty64 property = .ok value := by
  unfold FdtNode.readProperty64
  cases node.getProperty property <;> simp

/-- A property that is not there is an invalid parameter. -/
theorem readProperty32_error {status : EfiStatus}
    (h : node.readProperty32 property = .error status) : status = .invalidParameter := by
  unfold FdtNode.readProperty32 at h
  split at h <;> cases h
  rfl

/-- And so is one of 64 bits. -/
theorem readProperty64_error {status : EfiStatus}
    (h : node.readProperty64 property = .error status) : status = .invalidParameter := by
  unfold FdtNode.readProperty64 at h
  split at h <;> cases h
  rfl

end Reads

/-- The properties read after the entry point, and the size they give. -/
def Sized (node : FdtNode) (size : BitVec 64) : Prop :=
  ∃ granule, node.readProperty64 "image-size" = .ok size ∧
    node.readProperty32 "xlat-granule" = .ok granule ∧ (granulePageSize granule).isSome

/-- **The reads after the entry point** succeed with the size, or fail because there is none;
the base they leave alone. -/
theorem populateImageSize_cases (node : FdtNode) (spBootInfo : SpBootInfo) :
    (∃ size, Sized node size ∧
        populateImageSize node spBootInfo = (.success, { spBootInfo with spMemSize := size })) ∨
      ((∀ size, ¬ Sized node size) ∧ (populateImageSize node spBootInfo).1.isError ∧
        (populateImageSize node spBootInfo).2.spMemBase = spBootInfo.spMemBase) := by
  unfold populateImageSize Sized
  cases hsize : node.readProperty64 "image-size" with
  | error status =>
    obtain rfl := readProperty64_error hsize
    refine .inr ⟨?_, isError_invalidParameter, rfl⟩
    rintro size ⟨granule, hok, -⟩
    cases hok
  | ok size =>
    cases hgranule : node.readProperty32 "xlat-granule" with
    | error status =>
      obtain rfl := readProperty32_error hgranule
      refine .inr ⟨?_, isError_invalidParameter, rfl⟩
      rintro size' ⟨granule, -, hok, -⟩
      cases hok
    | ok granule =>
      dsimp only
      cases hpage : granulePageSize granule with
      | none =>
        refine .inr ⟨?_, isError_invalidParameter, rfl⟩
        rintro size' ⟨granule', -, hok, hsome⟩
        obtain rfl := Except.ok.inj hok
        rw [hpage] at hsome
        cases hsome
      | some pages => exact .inl ⟨size, ⟨granule, rfl, rfl, by rw [hpage]; rfl⟩, rfl⟩

section Reads

variable {manifest node : FdtNode} {loadAddress : BitVec 64}

/-- A manifest places the core by three properties. -/
theorem places_iff (hnode : manifest.nodeOffsetByCompatible "arm,ffa-manifest-1.0" = some node)
    {base size : BitVec 64} : Places manifest base size ↔
      ∃ loadAddress entrypointOffset, node.readProperty64 "load-address" = .ok loadAddress ∧
        node.readProperty32 "entrypoint-offset" = .ok entrypointOffset ∧ Sized node size ∧
        base = loadAddress + entrypointOffset.setWidth 64 := by
  constructor
  · rintro ⟨node', loadAddress, entrypointOffset, granule, hnode', hload, hoffset, hsize, hgranule,
      hpage, hbase⟩
    obtain rfl := Option.some.inj (hnode.symm.trans hnode')
    exact ⟨loadAddress, entrypointOffset, hload, hoffset, ⟨granule, hsize, hgranule, hpage⟩, hbase⟩
  · rintro ⟨loadAddress, entrypointOffset, hload, hoffset, ⟨granule, hsize, hgranule, hpage⟩, hbase⟩
    exact ⟨node, loadAddress, entrypointOffset, granule, hnode, hload, hoffset, hsize, hgranule,
      hpage, hbase⟩

/-- With an `entrypoint-offset`, what the stack held is not used. -/
theorem populateBootinformation_offset
    (hnode : manifest.nodeOffsetByCompatible "arm,ffa-manifest-1.0" = some node)
    (hload : node.readProperty64 "load-address" = .ok loadAddress) {entrypointOffset : BitVec 32}
    (hoffset : node.readProperty32 "entrypoint-offset" = .ok entrypointOffset)
    (unassigned : BitVec 32) (spBootInfo : SpBootInfo) :
    populateBootinformation unassigned manifest spBootInfo =
      populateImageSize node
        { spBootInfo with spMemBase := loadAddress + entrypointOffset.setWidth 64 } := by
  unfold populateBootinformation
  simp only [hnode, hload, hoffset]

/-- Without one, it is the offset. -/
theorem populateBootinformation_unassigned
    (hnode : manifest.nodeOffsetByCompatible "arm,ffa-manifest-1.0" = some node)
    (hload : node.readProperty64 "load-address" = .ok loadAddress)
    (hoffset : node.getProperty "entrypoint-offset" = none) (unassigned : BitVec 32)
    (spBootInfo : SpBootInfo) :
    populateBootinformation unassigned manifest spBootInfo =
      populateImageSize node
        { spBootInfo with spMemBase := loadAddress + unassigned.setWidth 64 } := by
  unfold populateBootinformation
  simp only [hnode, hload, FdtNode.readProperty32, hoffset]

end Reads

/-- The base depends on what the stack held, whatever the reads after it come to. -/
theorem not_bootInfoExact {manifest node : FdtNode} {loadAddress : BitVec 64}
    (hnode : manifest.nodeOffsetByCompatible "arm,ffa-manifest-1.0" = some node)
    (hload : node.readProperty64 "load-address" = .ok loadAddress)
    (hoffset : node.getProperty "entrypoint-offset" = none) : ¬ BootInfoExact manifest := by
  intro h
  have hbase (unassigned : BitVec 32) :
      (populateBootinformation unassigned manifest .zero).2.spMemBase =
        loadAddress + unassigned.setWidth 64 := by
    rw [populateBootinformation_unassigned hnode hload hoffset]
    rcases populateImageSize_cases node
      { SpBootInfo.zero with spMemBase := loadAddress + unassigned.setWidth 64 } with
      ⟨size, -, heq⟩ | ⟨-, -, heq⟩
    · rw [heq]
    · exact heq
  have hsame : (populateBootinformation 0 manifest .zero).2.spMemBase =
      (populateBootinformation 1 manifest .zero).2.spMemBase := by
    rw [h.determined 0 1]
  rw [hbase, hbase] at hsame
  exact absurd ((BitVec.add_right_inj _).1 hsame) (by decide)

/-- A manifest with an `entrypoint-offset` gives exact boot information, or none. -/
theorem bootInfoExact_of_offsetGiven {manifest : FdtNode} (h : OffsetGiven manifest) :
    BootInfoExact manifest := by
  cases hnode : manifest.nodeOffsetByCompatible "arm,ffa-manifest-1.0" with
  | none =>
    have hfail : ∀ unassigned spBootInfo,
        populateBootinformation unassigned manifest spBootInfo = (.notFound, spBootInfo) := by
      intro unassigned spBootInfo
      unfold populateBootinformation
      rw [hnode]
    refine ⟨fun unassigned spBootInfo hok => ?_, fun _ unassigned spBootInfo => ?_,
      fun unassigned unassigned' spBootInfo => ?_⟩
    · rw [hfail] at hok
      exact absurd (show EfiStatus.notFound = .success from hok) (by decide)
    · rw [hfail]
      exact isError_notFound
    · rw [hfail, hfail]
  | some node =>
    cases hload : node.readProperty64 "load-address" with
    | error status =>
      have hfail : ∀ unassigned spBootInfo,
          populateBootinformation unassigned manifest spBootInfo =
            (.invalidParameter, spBootInfo) := by
        intro unassigned spBootInfo
        unfold populateBootinformation
        simp only [hnode, hload, readProperty64_error hload]
      refine ⟨fun unassigned spBootInfo hok => ?_, fun _ unassigned spBootInfo => ?_,
        fun unassigned unassigned' spBootInfo => ?_⟩
      · rw [hfail] at hok
        exact absurd (show EfiStatus.invalidParameter = .success from hok) (by decide)
      · rw [hfail]
        exact isError_invalidParameter
      · rw [hfail, hfail]
    | ok loadAddress =>
      obtain ⟨entrypointOffset, hoffset⟩ :=
        readProperty32_isSome.1 (h node hnode (readProperty64_isSome.2 ⟨_, hload⟩))
      have hpopulate := populateBootinformation_offset hnode hload hoffset
      refine ⟨fun unassigned spBootInfo hok => ?_, fun hnone unassigned spBootInfo => ?_,
        fun unassigned unassigned' spBootInfo => by rw [hpopulate, hpopulate]⟩
      · rw [hpopulate] at hok ⊢
        rcases populateImageSize_cases node _ with ⟨size, hsized, heq⟩ | ⟨-, herror, -⟩
        · rw [heq]
          exact (places_iff hnode).2 ⟨loadAddress, entrypointOffset, hload, hoffset, hsized, rfl⟩
        · rw [hok] at herror
          cases herror
      · rw [hpopulate]
        rcases populateImageSize_cases node _ with ⟨size, hsized, -⟩ | ⟨-, herror, -⟩
        · exact absurd ((places_iff hnode).2
            ⟨loadAddress, entrypointOffset, hload, hoffset, hsized, rfl⟩) (hnone _ size)
        · exact herror

/-- **The boot information is exact exactly when no `entrypoint-offset` is missed**: where the
manifest has no node of the partition, or this has no `load-address`, or it has an
`entrypoint-offset`. -/
theorem bootInfoExact_iff (manifest : FdtNode) :
    BootInfoExact manifest ↔ OffsetGiven manifest := by
  constructor
  · intro h node hnode hload
    by_contra hoffset
    obtain ⟨loadAddress, hload⟩ := readProperty64_isSome.1 hload
    exact not_bootInfoExact hnode hload (by simpa using hoffset) h
  · exact bootInfoExact_of_offsetGiven

/-- **Then the Standalone MM core is looked for where the manifest places it**, or not at all. -/
theorem bfvAddress_places {manifest : FdtNode} (h : OffsetGiven manifest)
    {unassigned : BitVec 32} {address : BitVec 64}
    (hbfv : bfvAddress unassigned manifest = some address) :
    ∃ size, Places manifest address size := by
  unfold bfvAddress at hbfv
  dsimp only at hbfv
  split_ifs at hbfv with hok
  obtain rfl := Option.some.inj hbfv
  exact ⟨_, (bootInfoExact_of_offsetGiven h).success _ _ hok⟩

/-- A manifest that has all it should but the `entrypoint-offset`. -/
def noOffsetManifest : FdtNode :=
  .mk "" [("compatible", .ofBytes (stringBytes "arm,ffa-manifest-1.0" ++ [0])),
    ("load-address", .ofBytes [0, 0, 0, 0, 0x80, 0, 0, 0]),
    ("image-size", .ofBytes [0, 0, 0, 0, 0, 0x10, 0, 0]),
    ("xlat-granule", .ofBytes [0, 0, 0, 0])] []

/-- **The missed property.**  The manifest is accepted, and the core is looked for at whatever
address the stack held. -/
theorem bootInfoExact_fails :
    (∀ unassigned, (populateBootinformation unassigned noOffsetManifest .zero).1 = .success) ∧
      (∀ unassigned, bfvAddress unassigned noOffsetManifest =
        some (0x80000000 + unassigned.setWidth 64)) ∧
      (∀ base size, ¬ Places noOffsetManifest base size) ∧ ¬ BootInfoExact noOffsetManifest := by
  have hnode : noOffsetManifest.nodeOffsetByCompatible "arm,ffa-manifest-1.0" =
      some noOffsetManifest := rfl
  have hload : noOffsetManifest.readProperty64 "load-address" = .ok 0x80000000 := rfl
  have hoffset : noOffsetManifest.getProperty "entrypoint-offset" = none := rfl
  have hpopulate := populateBootinformation_unassigned hnode hload hoffset
  refine ⟨fun unassigned => ?_, fun unassigned => ?_, fun base size hplaces => ?_,
    not_bootInfoExact hnode hload hoffset⟩
  · rw [hpopulate]
    rfl
  · unfold bfvAddress
    rw [hpopulate]
    rfl
  · obtain ⟨-, entrypointOffset, -, hok, -⟩ := (places_iff hnode).1 hplaces
    cases hok

end Image
end FfaFeature
