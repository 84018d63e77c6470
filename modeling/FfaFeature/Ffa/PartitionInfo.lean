/-
# Partition information

`FfaPartitionInfoGetRegs` of `Library/ArmFfaLibEx/ArmFfaLibEx.c`.  The SPMC answers with up to
five descriptors of 24 bytes in `x3` to `x17`, which the loop copies to the buffer of the
caller one by one.  Behind each copy it converts a UUID with `FfaPrepareGuid`: not that of the
descriptor just copied, but every time that of the first.

So the first UUID is converted once for each descriptor, and the others never
(`copyDescs_spec`).  `ffaPartitionInfoGetRegs_iff` says for which answers the descriptors in the
buffer are right all the same.
-/

import FfaFeature.Ffa.Registers
import Mathlib.Data.List.GetD
import Mathlib.Logic.Function.Iterate

namespace FfaFeature
namespace Ffa

/-! ### Descriptors in registers -/

/-- `EFI_FFA_PART_INFO_DESC`. -/
structure EfiFfaPartInfoDesc where
  partitionId : BitVec 16
  execContextCountOrProxyPartitionId : BitVec 16
  partitionProps : BitVec 32
  partitionUuid : EfiGuid

/-- The words from `Result.Arg3` on, and those behind `Result` on the stack. -/
def descWord (result : ArmSxcArgs) (stack : ℕ → BitVec 64) (n : ℕ) : BitVec 64 :=
  [result.arg3, result.arg4, result.arg5, result.arg6, result.arg7, result.arg8, result.arg9,
    result.arg10, result.arg11, result.arg12, result.arg13, result.arg14, result.arg15,
    result.arg16, result.arg17].getD n (stack n)

/-- The descriptor a copy of the 24 bytes at `index` gives. -/
def descAt (result : ArmSxcArgs) (stack : ℕ → BitVec 64) (index : ℕ) : EfiFfaPartInfoDesc where
  partitionId := (descWord result stack (3 * index)).setWidth 16
  execContextCountOrProxyPartitionId :=
    (descWord result stack (3 * index) >>> 16).setWidth 16
  partitionProps := (descWord result stack (3 * index) >>> 32).setWidth 32
  partitionUuid := guidOfRegisters (descWord result stack (3 * index + 1))
    (descWord result stack (3 * index + 2))

/-- `FfaPrepareGuid` on the UUID of a descriptor. -/
def prepareUuid (desc : EfiFfaPartInfoDesc) : EfiFfaPartInfoDesc :=
  { desc with partitionUuid := ffaPrepareGuid desc.partitionUuid }

/-! ### The call -/

/-- The entries of the caller's buffer. -/
abbrev PartDescs := ℕ → EfiFfaPartInfoDesc

/-- One turn of the loop: `PartDesc + Index` is written, and `PartDesc->PartitionUuid` is
converted. -/
def copyDesc (result : ArmSxcArgs) (stack : ℕ → BitVec 64) (partDesc : PartDescs) (index : ℕ) :
    PartDescs :=
  let partDesc := Function.update partDesc index (descAt result stack index)
  Function.update partDesc 0 (prepareUuid (partDesc 0))

/-- The loop over the descriptors. -/
def copyDescs (result : ArmSxcArgs) (stack : ℕ → BitVec 64) (partDesc : PartDescs) (count : ℕ) :
    PartDescs :=
  (List.range count).foldl (copyDesc result stack) partDesc

/-- `CurrentIndex`, in the metadata. -/
def currentIndex (result : ArmSxcArgs) : BitVec 16 := (result.arg2 >>> 16).setWidth 16

/-- `Count`, in 32 bits. -/
def descCount (result : ArmSxcArgs) (startIndex : BitVec 16) : BitVec 32 :=
  (currentIndex result).setWidth 32 - startIndex.setWidth 32 + 1

/-- The request of `FfaPartitionInfoGetRegs`. -/
def partitionInfoRequest (serviceGuid : Option EfiGuid) (startIndex : BitVec 16)
    (tag : Option (BitVec 16)) : ArmSxcArgs :=
  let serviceGuidMangled := ffaPrepareGuid (serviceGuid.getD ⟨0, 0, 0, fun _ => 0⟩)
  { ArmSxcArgs.zero with
    arg0 := fidPartitionInfoGetRegs.setWidth 64
    arg1 := guidLow serviceGuidMangled
    arg2 := guidHigh serviceGuidMangled
    arg3 := packIds (tag.getD 0) startIndex }

/-- What a call leaves: its status, and what the pointers of the caller point to. -/
structure PartitionInfo where
  status : EfiStatus
  tag : Option (BitVec 16)
  partDescCount : BitVec 32
  partDesc : Option PartDescs

/-- `FfaPartitionInfoGetRegs`; a null pointer is `none`, and `call` answers a request. -/
def ffaPartitionInfoGetRegs (call : ArmSxcArgs → ArmSxcArgs)
    (ffaStatusToEfiStatus : BitVec 64 → EfiStatus) (stack : ℕ → BitVec 64)
    (serviceGuid : Option EfiGuid) (startIndex : BitVec 16) (tag : Option (BitVec 16))
    (partDescCount : BitVec 32) (partDesc : Option PartDescs) : PartitionInfo :=
  match partDesc with
  | none => ⟨.invalidParameter, tag, partDescCount, none⟩
  | some descs =>
    let result := call (partitionInfoRequest serviceGuid startIndex tag)
    if result.arg0 = fidError.setWidth 64 then
      ⟨ffaStatusToEfiStatus result.arg2, tag, partDescCount, some descs⟩
    else
      let count := descCount result startIndex
      if partDescCount < count then ⟨.bufferTooSmall, tag, count, some descs⟩
      else
        ⟨.success, tag.map fun _ => (result.arg2 >>> 32).setWidth 16, count,
          some (copyDescs result stack descs count.toNat)⟩

/-! ### What the loop leaves -/

variable {result : ArmSxcArgs} {stack : ℕ → BitVec 64}

/-- **The first UUID is converted once for each descriptor, and the others never.** -/
theorem copyDescs_spec (partDesc : PartDescs) (count i : ℕ) :
    copyDescs result stack partDesc count i =
      if i < count then
        if i = 0 then prepareUuid^[count] (descAt result stack 0) else descAt result stack i
      else partDesc i := by
  induction count generalizing i with
  | zero => rfl
  | succ count ih =>
    have hstep : copyDescs result stack partDesc (count + 1) =
        copyDesc result stack (copyDescs result stack partDesc count) count := by
      unfold copyDescs
      rw [List.range_succ, List.foldl_append]
      rfl
    rw [hstep]
    unfold copyDesc
    rcases Nat.eq_zero_or_pos i with rfl | hi
    · rw [Function.update_self, if_pos (Nat.succ_pos count), if_pos rfl,
        Function.iterate_succ_apply']
      -- the first turn copies the descriptor it converts
      rcases Nat.eq_zero_or_pos count with rfl | hcount
      · rw [Function.update_self]
        rfl
      · rw [Function.update_of_ne hcount.ne, ih, if_pos hcount, if_pos rfl]
    · rw [Function.update_of_ne hi.ne']
      rcases lt_trichotomy i count with hlt | rfl | hgt
      · rw [Function.update_of_ne hlt.ne, ih, if_pos hlt, if_neg hi.ne', if_pos (by omega),
          if_neg hi.ne']
      · rw [Function.update_self, if_pos (by omega), if_neg hi.ne']
      · rw [Function.update_of_ne hgt.ne', ih, if_neg (by omega), if_neg (by omega)]

/-- An even number of conversions is none. -/
theorem prepareUuid_iterate (desc : EfiFfaPartInfoDesc) (n : ℕ) :
    prepareUuid^[n] desc = if n % 2 = 1 then prepareUuid desc else desc := by
  have htwice : Function.Involutive prepareUuid := fun desc => by simp [prepareUuid]
  rcases Nat.even_or_odd n with heven | hodd
  · rw [htwice.iterate_even heven, if_neg (by rw [Nat.even_iff.1 heven]; decide)]
    rfl
  · rw [htwice.iterate_odd hodd, if_pos (Nat.odd_iff.1 hodd)]

/-! ### What the caller gets -/

/-- The number of descriptors of an answer. -/
def answerCount (result : ArmSxcArgs) (startIndex : BitVec 16) : ℕ :=
  (currentIndex result).toNat - startIndex.toNat + 1

/-- Descriptor `i` of the registers. -/
def registerDesc (result : ArmSxcArgs) (i : ℕ) : EfiFfaPartInfoDesc := descAt result (fun _ => 0) i

/-- A well-formed answer: no error, and descriptors from `StartIndex` on that fit in `x3` to
`x17`. -/
structure WellFormed (result : ArmSxcArgs) (startIndex : BitVec 16) : Prop where
  answered : result.arg0 ≠ fidError.setWidth 64
  ordered : startIndex.toNat ≤ (currentIndex result).toNat
  fits : answerCount result startIndex ≤ 5

/-- **What the caller should get**: on success the number of descriptors, and each with its
UUID converted; where the buffer is too small the number, and nothing else. -/
structure GetsPartitionInfo (result : ArmSxcArgs) (startIndex : BitVec 16)
    (tag : Option (BitVec 16)) (partDescCount : BitVec 32) (descs : PartDescs)
    (info : PartitionInfo) : Prop where
  success : info.status = .success →
    info.partDescCount.toNat = answerCount result startIndex ∧
      ∃ descs', info.partDesc = some descs' ∧
        ∀ i < answerCount result startIndex, descs' i = prepareUuid (registerDesc result i)
  tooSmall : partDescCount.toNat < answerCount result startIndex →
    info.status = .bufferTooSmall ∧ info.partDescCount.toNat = answerCount result startIndex ∧
      info.partDesc = some descs ∧ info.tag = tag

/-- The first UUID survives `n` conversions as it does one, and the others survive none. -/
def UuidsSurvive (result : ArmSxcArgs) (n : ℕ) : Prop :=
  (n % 2 = 1 ∨ prepareUuid (registerDesc result 0) = registerDesc result 0) ∧
    ∀ i, 1 ≤ i → i < n → prepareUuid (registerDesc result i) = registerDesc result i

/-- The first five descriptors lie in the registers. -/
theorem descAt_eq (stack : ℕ → BitVec 64) {i : ℕ} (hi : i < 5) :
    descAt result stack i = registerDesc result i := by
  have hword : ∀ n < 15, descWord result stack n = descWord result (fun _ => 0) n := by
    intro n hn
    have hlen : n < [result.arg3, result.arg4, result.arg5, result.arg6, result.arg7,
      result.arg8, result.arg9, result.arg10, result.arg11, result.arg12, result.arg13,
      result.arg14, result.arg15, result.arg16, result.arg17].length := hn
    unfold descWord
    rw [List.getD_eq_getElem _ _ hlen, List.getD_eq_getElem _ _ hlen]
  unfold registerDesc descAt
  rw [hword (3 * i) (by omega), hword (3 * i + 1) (by omega), hword (3 * i + 2) (by omega)]

/-- `Count` is the number of descriptors. -/
theorem descCount_toNat {startIndex : BitVec 16} (h : WellFormed result startIndex) :
    (descCount result startIndex).toNat = answerCount result startIndex := by
  have hordered := h.ordered
  have hlt := (currentIndex result).isLt
  unfold descCount answerCount
  rw [BitVec.toNat_add, BitVec.toNat_sub, BitVec.toNat_setWidth, BitVec.toNat_setWidth]
  have hone : (1 : BitVec 32).toNat = 1 := rfl
  omega

/-- What the loop leaves is right exactly where the UUIDs survive. -/
theorem copyDescs_right_iff (descs : PartDescs) {n : ℕ} (hn : n ≤ 5) (hpos : 1 ≤ n) :
    (∀ i < n, copyDescs result stack descs n i = prepareUuid (registerDesc result i)) ↔
      UuidsSurvive result n := by
  have hentry : ∀ i < n, copyDescs result stack descs n i =
      if i = 0 then prepareUuid^[n] (registerDesc result 0) else registerDesc result i := by
    intro i hi
    rw [copyDescs_spec, if_pos hi, descAt_eq stack (by omega), descAt_eq stack (by omega)]
  constructor
  · intro hright
    refine ⟨?_, fun i hi hlt => ?_⟩
    · have hfirst := hright 0 (by omega)
      rw [hentry 0 (by omega), if_pos rfl, prepareUuid_iterate] at hfirst
      split_ifs at hfirst with hodd
      · exact .inl hodd
      · exact .inr hfirst.symm
    · have hother := hright i hlt
      rw [hentry i hlt, if_neg (by omega)] at hother
      exact hother.symm
  · rintro ⟨hfirst, hothers⟩ i hlt
    rw [hentry i hlt]
    split_ifs with hi
    · subst hi
      rw [prepareUuid_iterate]
      split_ifs with hodd
      · rfl
      · exact (hfirst.resolve_left hodd).symm
    · exact (hothers i (by omega) hlt).symm

/-- **`FfaPartitionInfoGetRegs` on a well-formed answer.**  The caller gets what it should
exactly when the buffer is too small, or the UUIDs survive. -/
theorem ffaPartitionInfoGetRegs_iff (call : ArmSxcArgs → ArmSxcArgs)
    (ffaStatusToEfiStatus : BitVec 64 → EfiStatus) (stack : ℕ → BitVec 64)
    (serviceGuid : Option EfiGuid) (startIndex : BitVec 16) (tag : Option (BitVec 16))
    (partDescCount : BitVec 32) (descs : PartDescs) {result : ArmSxcArgs}
    (hcall : call (partitionInfoRequest serviceGuid startIndex tag) = result)
    (hformed : WellFormed result startIndex) :
    GetsPartitionInfo result startIndex tag partDescCount descs
        (ffaPartitionInfoGetRegs call ffaStatusToEfiStatus stack serviceGuid startIndex tag
          partDescCount (some descs)) ↔
      partDescCount.toNat < answerCount result startIndex ∨
        UuidsSurvive result (answerCount result startIndex) := by
  have hcount := descCount_toNat hformed
  have hsmall_iff : partDescCount < descCount result startIndex ↔
      partDescCount.toNat < answerCount result startIndex := by
    rw [BitVec.lt_def, hcount]
  unfold ffaPartitionInfoGetRegs
  dsimp only
  rw [hcall, if_neg hformed.answered]
  by_cases hsmall : partDescCount.toNat < answerCount result startIndex
  · rw [if_pos (hsmall_iff.2 hsmall)]
    have hstatus : EfiStatus.bufferTooSmall ≠ .success := by decide
    exact iff_of_true ⟨fun hsuccess => absurd hsuccess hstatus,
      fun _ => ⟨rfl, hcount, rfl, rfl⟩⟩ (.inl hsmall)
  · have hright := @copyDescs_right_iff result stack descs (answerCount result startIndex)
      hformed.fits (Nat.le_add_left 1 _)
    rw [if_neg (hsmall_iff.not.2 hsmall), hcount]
    constructor
    · intro hgets
      obtain ⟨-, descs', hsome, hdescs⟩ := hgets.success rfl
      rw [← Option.some.inj hsome] at hdescs
      exact .inr (hright.1 hdescs)
    · intro hor
      exact ⟨fun _ => ⟨hcount, _, rfl, hright.2 (hor.resolve_left hsmall)⟩,
        fun h => absurd h hsmall⟩

/-- An empty buffer. -/
def noDescs : PartDescs := fun _ => ⟨0, 0, 0, ⟨0, 0, 0, fun _ => 0⟩⟩

/-- An answer with three descriptors.  The UUIDs of the last two are the same in both byte
orders. -/
def threeUuidAnswer : ArmSxcArgs :=
  let first : EfiGuid := ⟨0x17B862A4, 0x1806, 0x4FAF, fun i => BitVec.ofNat 8 i⟩
  let second : EfiGuid := ⟨0x12343412, 0x4545, 0x6767, fun i => BitVec.ofNat 8 (i + 8)⟩
  let third : EfiGuid := ⟨0, 0, 0, fun i => BitVec.ofNat 8 (i + 16)⟩
  { ArmSxcArgs.zero with
    arg0 := 0xC4000061, arg2 := packIds 2 0
    arg3 := 0x8001, arg4 := guidLow first, arg5 := guidHigh first
    arg6 := 0x8002, arg7 := guidLow second, arg8 := guidHigh second
    arg9 := 0x8003, arg10 := guidLow third, arg11 := guidHigh third }

/-- The three arrive. -/
theorem ffaPartitionInfoGetRegs_three :
    GetsPartitionInfo threeUuidAnswer 0 (some 0) 3 noDescs
      (ffaPartitionInfoGetRegs (fun _ => threeUuidAnswer) (fun _ => .invalidParameter)
        (fun _ => 0) none 0 (some 0) 3 (some noDescs)) := by
  refine (ffaPartitionInfoGetRegs_iff (fun _ => threeUuidAnswer) (fun _ => .invalidParameter)
    (fun _ => 0) none 0 (some 0) 3 noDescs rfl ⟨by decide, by decide, by decide⟩).2
    (.inr ⟨.inl (by decide), fun i hi hlt => ?_⟩)
  have hthree : answerCount threeUuidAnswer 0 = 3 := by decide
  obtain rfl | rfl : i = 1 ∨ i = 2 := by omega
  · rfl
  · rfl

/-- An answer with a descriptor for each index from 0 on, all with one UUID. -/
def sameUuidAnswer (lastIndex : BitVec 16) : ArmSxcArgs :=
  let uuid : EfiGuid := ⟨0x17B862A4, 0x1806, 0x4FAF, fun i => BitVec.ofNat 8 i⟩
  { ArmSxcArgs.zero with
    arg0 := 0xC4000061, arg2 := packIds lastIndex 0
    arg3 := 0x8001, arg4 := guidLow uuid, arg5 := guidHigh uuid
    arg6 := 0x8002, arg7 := guidLow uuid, arg8 := guidHigh uuid }

/-- **Of two descriptors neither arrives**: the first UUID has been converted twice, and the
second not at all. -/
theorem ffaPartitionInfoGetRegs_two_wrong :
    let info := ffaPartitionInfoGetRegs (fun _ => sameUuidAnswer 1) (fun _ => .invalidParameter)
      (fun _ => 0) none 0 (some 0) 2 (some noDescs)
    WellFormed (sameUuidAnswer 1) 0 ∧ info.status = .success ∧
      ¬ GetsPartitionInfo (sameUuidAnswer 1) 0 (some 0) 2 noDescs info := by
  refine ⟨⟨by decide, by decide, by decide⟩, by decide, fun h => ?_⟩
  obtain ⟨-, descs', hsome, hdescs⟩ := h.success (by decide)
  have hcopied := congrArg (fun desc => desc.partitionUuid.data1) (hdescs 1 (by decide))
  rw [← Option.some.inj hsome] at hcopied
  exact absurd hcopied (by decide)

end Ffa
end FfaFeature
