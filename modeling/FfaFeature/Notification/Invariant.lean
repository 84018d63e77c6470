/-
# The representation invariant of the store

`StoreInv` holds of every reachable store (`Reachable.inv`): the in-use entries
of a slot have distinct cookies, an entry not in use is zero, in-use slots
differ in the eight bytes of the UUID that `LocateService` compares, the bitmap
is the union of the masks of the in-use entries, and no two in-use entries have
masks that meet.  The masks are the ones the code computes: `idMask` depends on
the identifier modulo 32 only (`getLsbD_idMask`), so two identifiers exclude
each other where they agree modulo 32.

`Represented` is the part of it that lookup and removal rely on, read off the structures
field by field (`store_represented`).
-/

import FfaFeature.Notification.Edit
import Mathlib.Tactic.NormNum

namespace FfaFeature
namespace Notification

/-! ### The masks of the code -/

/-- The one bit of the shift. -/
theorem getLsbD_intShift (id : BitVec 16) (b : ℕ) :
    (intShift id).getLsbD b = decide (b = id.toNat % 32) := by
  have hk : id.toNat % 32 < 32 := Nat.mod_lt _ (by norm_num)
  rw [intShift, ← BitVec.twoPow_eq, BitVec.getLsbD_twoPow]
  by_cases hb : id.toNat % 32 = b
  · subst hb
    simp [hk]
  · simp [hb, Ne.symm hb]

/-- **The bits of a mask.**  Bit `Id mod 32`, and for `Id mod 32 = 31` the sign
extension too. -/
theorem getLsbD_idMask (id : BitVec 16) (b : ℕ) :
    (idMask id).getLsbD b =
      decide (b < 64 ∧ (b = id.toNat % 32 ∨ (id.toNat % 32 = 31 ∧ 31 ≤ b))) := by
  have hk : id.toNat % 32 < 32 := Nat.mod_lt _ (by norm_num)
  rw [idMask, BitVec.getLsbD_signExtend, BitVec.msb_eq_getLsbD_last, getLsbD_intShift,
    getLsbD_intShift]
  by_cases h64 : b < 64 <;> by_cases h32 : b < 32 <;> simp only [h64, h32, decide_true,
    decide_false, Bool.true_and, Bool.false_and, if_true, if_false, true_and, false_and] <;>
    first
    | rfl
    | (congr 1; apply propext; omega)

/-- The second mask is the complement of the first. -/
theorem idMaskNot_eq (id : BitVec 16) : idMaskNot id = ~~~idMask id := by
  rw [idMaskNot, idMask, BitVec.signExtend_not (by norm_num)]

/-- Every mask has the bit `Id mod 32`. -/
theorem getLsbD_idMask_self (id : BitVec 16) : (idMask id).getLsbD (id.toNat % 32) = true := by
  have hk : id.toNat % 32 < 32 := Nat.mod_lt _ (by norm_num)
  rw [getLsbD_idMask, decide_eq_true_iff]
  omega

/-- A bit belongs to the masks of one residue only. -/
theorem residue_eq_of_getLsbD {a b : BitVec 16} {k : ℕ} (ha : (idMask a).getLsbD k = true)
    (hb : (idMask b).getLsbD k = true) : a.toNat % 32 = b.toNat % 32 := by
  rw [getLsbD_idMask, decide_eq_true_iff] at ha hb
  have hka : a.toNat % 32 < 32 := Nat.mod_lt _ (by norm_num)
  have hkb : b.toNat % 32 < 32 := Nat.mod_lt _ (by norm_num)
  omega

/-- The mask depends on the identifier modulo 32. -/
theorem idMask_congr {a b : BitVec 16} (h : a.toNat % 32 = b.toNat % 32) :
    idMask a = idMask b := by
  rw [idMask, idMask, intShift, intShift, h]

/-- A word meets a mask in a bit of both. -/
theorem and_idMask_eq_zero {x : BitVec 64} {id : BitVec 16} :
    x &&& idMask id = 0 ↔ ∀ b, (idMask id).getLsbD b = true → x.getLsbD b = false := by
  constructor
  · intro h b hb
    have := congrArg (fun y => BitVec.getLsbD y b) h
    simpa [hb] using this
  · intro h
    refine BitVec.eq_of_getLsbD_eq fun b _ => ?_
    rw [BitVec.getLsbD_and, show (0 : BitVec 64).getLsbD b = false by simp]
    cases hb : (idMask id).getLsbD b with
    | false => rw [Bool.and_false]
    | true => rw [h b hb, Bool.false_and]

/-- `MappingId` is a 9-bit number. -/
theorem NotificationMapping.mappingId_toNat (m : NotificationMapping) :
    m.mappingId.toNat = m.id.toNat := by
  have := m.id.isLt
  rw [NotificationMapping.mappingId, BitVec.toNat_setWidth]
  omega

/-! ### The invariant -/

/-- The representation invariant. -/
structure StoreInv (s : NotifStore) : Prop where
  cookies : ∀ i j k, (s.info i j).inUse → (s.info i k).inUse →
    (s.info i j).cookie = (s.info i k).cookie → j = k
  cleared : ∀ i j, (s.info i j).inUse = false → s.info i j = .zero
  uuids : ∀ i uuid k, Matches s uuid i → Matches s uuid k → i = k
  bitmask : ∀ b, s.globalBitmask.getLsbD b = true ↔
    ∃ i j, (s.info i j).inUse ∧ (idMask (s.info i j).id).getLsbD b = true
  residues : ∀ i j i' j', (s.info i j).inUse → (s.info i' j').inUse →
    (s.info i j).id.toNat % 32 = (s.info i' j').id.toNat % 32 → i = i' ∧ j = j'
  nineBits : ∀ i j, (s.info i j).id.toNat < 512

/-- The invariant holds at the start. -/
theorem storeInv_init : StoreInv notificationServiceInit where
  cookies i j k h := by
    simp [notificationServiceInit, NotifStore.info, NotifService.zero, NotifInfo.zero] at h
  cleared i j _ := rfl
  uuids i uuid k h := by
    simp [Matches, notificationServiceInit, NotifService.zero] at h
  bitmask b := by
    simp [notificationServiceInit, NotifStore.info, NotifService.zero, NotifInfo.zero]
  residues i j i' j' h := by
    simp [notificationServiceInit, NotifStore.info, NotifService.zero, NotifInfo.zero] at h
  nineBits i j := by
    simp [notificationServiceInit, NotifStore.info, NotifService.zero, NotifInfo.zero]

/-- No in-use entry has the residue of a mapping whose mask is free. -/
theorem StoreInv.residue_ne {s : NotifStore} (hs : StoreInv s) {m : NotificationMapping}
    (hm : s.globalBitmask &&& idMask m.mappingId = 0) {i : Fin maxServices}
    {j : Fin maxMappings} (hin : (s.info i j).inUse) :
    (s.info i j).id.toNat % 32 ≠ m.mappingId.toNat % 32 := by
  intro he
  have hself := getLsbD_idMask_self m.mappingId
  have hset : s.globalBitmask.getLsbD (m.mappingId.toNat % 32) = true :=
    (hs.bitmask _).2 ⟨i, j, hin, by rw [idMask_congr he]; exact hself⟩
  have := and_idMask_eq_zero.1 hm _ hself
  rw [hset] at this
  cases this

/-- A registration leaves what matches. -/
theorem matches_register {s : NotifStore} {i k : Fin maxServices} {j : Fin maxMappings}
    {m : NotificationMapping} {sourceId : BitVec 16} {uuid : Uuid} :
    Matches (s.register i j m sourceId) uuid k ↔ Matches s uuid k := by
  obtain ⟨h₁, h₂⟩ := s.register_slot i k j m sourceId
  rw [Matches, Matches, h₁, h₂]

/-- So does an unregistration. -/
theorem matches_unregister {s : NotifStore} {i k : Fin maxServices} {j : Fin maxMappings}
    {m : NotificationMapping} {uuid : Uuid} :
    Matches (s.unregister i j m) uuid k ↔ Matches s uuid k := by
  obtain ⟨h₁, h₂⟩ := s.unregister_slot i k j m
  rw [Matches, Matches, h₁, h₂]

/-- A registration keeps the invariant. -/
theorem storeInv_register {s : NotifStore} (hs : StoreInv s) {i : Fin maxServices}
    {j : Fin maxMappings} {m : NotificationMapping} (sourceId : BitVec 16)
    (hg : RegisterGuard s i j m) : StoreInv (s.register i j m sourceId) where
  cookies i' j' k' hj hk he := by
    rw [NotifStore.info_register] at hj hk he
    rw [NotifStore.info_register] at he
    split_ifs at hj hk he with h₁ h₂ h₂
    · exact h₁.2.trans h₂.2.symm
    · obtain ⟨rfl, rfl⟩ := h₁
      exact absurd he.symm (hg.cookie_new k' hk)
    · obtain ⟨rfl, rfl⟩ := h₂
      exact absurd he (hg.cookie_new j' hj)
    · exact hs.cookies i' j' k' hj hk he
  cleared i' j' h := by
    rw [NotifStore.info_register] at h ⊢
    split_ifs at h ⊢
    · simp [NotificationMapping.toInfo] at h
    · exact hs.cleared i' j' h
  uuids i' uuid k' hi hk :=
    hs.uuids i' uuid k' (matches_register.1 hi) (matches_register.1 hk)
  bitmask b := by
    have hmask : (s.register i j m sourceId).globalBitmask =
        s.globalBitmask ||| idMask m.mappingId := rfl
    rw [hmask, BitVec.getLsbD_or, Bool.or_eq_true, hs.bitmask]
    constructor
    · rintro (⟨i', j', hin, hb⟩ | hb)
      · refine ⟨i', j', ?_⟩
        have hne : ¬(i' = i ∧ j' = j) := by
          rintro ⟨rfl, rfl⟩
          rw [hg.free] at hin
          cases hin
        rw [NotifStore.info_register, if_neg hne]
        exact ⟨hin, hb⟩
      · refine ⟨i, j, ?_⟩
        rw [NotifStore.info_register, if_pos ⟨rfl, rfl⟩]
        exact ⟨rfl, hb⟩
    · rintro ⟨i', j', hin, hb⟩
      rw [NotifStore.info_register] at hin hb
      split_ifs at hin hb
      · exact .inr hb
      · exact .inl ⟨i', j', hin, hb⟩
  residues i' j' i'' j'' h' h'' he := by
    rw [NotifStore.info_register] at h' h'' he
    rw [NotifStore.info_register] at he
    split_ifs at h' h'' he with h₁ h₂ h₂
    · exact ⟨h₁.1.trans h₂.1.symm, h₁.2.trans h₂.2.symm⟩
    · exact absurd he.symm (hs.residue_ne hg.mask_free h'')
    · exact absurd he (hs.residue_ne hg.mask_free h')
    · exact hs.residues i' j' i'' j'' h' h'' he
  nineBits i' j' := by
    rw [NotifStore.info_register]
    split_ifs
    · rw [NotificationMapping.toInfo, NotificationMapping.mappingId_toNat]
      exact m.id.isLt
    · exact hs.nineBits i' j'

/-- An entry in use after an unregistration is another entry, as it was. -/
theorem inUse_unregister {s : NotifStore} {i i' : Fin maxServices} {j j' : Fin maxMappings}
    {m : NotificationMapping} (h : ((s.unregister i j m).info i' j').inUse) :
    ¬(i' = i ∧ j' = j) ∧ (s.unregister i j m).info i' j' = s.info i' j' := by
  rw [NotifStore.info_unregister] at h ⊢
  split_ifs at h ⊢ with hij
  · exact absurd h (by simp [NotifInfo.zero])
  · exact ⟨hij, rfl⟩

/-- An unregistration keeps the invariant. -/
theorem storeInv_unregister {s : NotifStore} (hs : StoreInv s) {i : Fin maxServices}
    {j : Fin maxMappings} {sourceId : BitVec 16} {m : NotificationMapping}
    (hg : UnregisterGuard s i j sourceId m) : StoreInv (s.unregister i j m) where
  cookies i' j' k' hj hk he := by
    obtain ⟨-, h₁⟩ := inUse_unregister hj
    obtain ⟨-, h₂⟩ := inUse_unregister hk
    rw [h₁] at hj he
    rw [h₂] at hk he
    exact hs.cookies i' j' k' hj hk he
  cleared i' j' h := by
    rw [NotifStore.info_unregister] at h ⊢
    split_ifs at h ⊢
    · rfl
    · exact hs.cleared i' j' h
  uuids i' uuid k' hi hk :=
    hs.uuids i' uuid k' (matches_unregister.1 hi) (matches_unregister.1 hk)
  bitmask b := by
    have hmask : (s.unregister i j m).globalBitmask =
        s.globalBitmask &&& idMaskNot m.mappingId := rfl
    rw [hmask, idMaskNot_eq, BitVec.getLsbD_and, Bool.and_eq_true, hs.bitmask,
      BitVec.getLsbD_not]
    constructor
    · rintro ⟨⟨i', j', hin, hb⟩, hnot⟩
      refine ⟨i', j', ?_⟩
      -- the cleared entry is the only one whose mask has a bit of the cleared mask
      have hne : ¬(i' = i ∧ j' = j) := by
        rintro ⟨rfl, rfl⟩
        rw [hg.id] at hb
        rw [hb] at hnot
        simp at hnot
      rw [NotifStore.info_unregister, if_neg hne]
      exact ⟨hin, hb⟩
    · rintro ⟨i', j', hin, hb⟩
      obtain ⟨h, hinfo⟩ := inUse_unregister hin
      rw [hinfo] at hin hb
      refine ⟨⟨i', j', hin, hb⟩, ?_⟩
      have hb64 : b < 64 := by
        rw [getLsbD_idMask, decide_eq_true_iff] at hb
        exact hb.1
      have hclear : (idMask m.mappingId).getLsbD b = false := by
        by_contra hc
        refine h (hs.residues i' j' i j hin hg.inUse ?_)
        rw [hg.id]
        exact residue_eq_of_getLsbD hb (by simpa using hc)
      rw [hclear]
      simpa using hb64
  residues i' j' i'' j'' h' h'' he := by
    obtain ⟨-, h₁⟩ := inUse_unregister h'
    obtain ⟨-, h₂⟩ := inUse_unregister h''
    rw [h₁] at h' he
    rw [h₂] at h'' he
    exact hs.residues i' j' i'' j'' h' h'' he
  nineBits i' j' := by
    rw [NotifStore.info_unregister]
    split_ifs
    · simp [NotifInfo.zero]
    · exact hs.nineBits i' j'

/-- A slot matches after a claim if it did before, or if it is the claimed one
and the claiming UUID agrees in the compared bytes. -/
theorem matches_claim {s : NotifStore} {i k : Fin maxServices} {uuid uuid' : Uuid} :
    Matches (s.claim i uuid) uuid' k ↔
      if k = i then equalMem uuid' uuid sizeofUuidPointer = true else Matches s uuid' k := by
  by_cases hk : k = i
  · subst hk
    simp [Matches, NotifStore.claim]
  · simp [Matches, NotifStore.claim, hk]

/-- Equal bytes are equal the other way. -/
theorem equalMem_symm {a b : Uuid} {n : ℕ} (h : equalMem a b n = true) : equalMem b a n = true := by
  simp only [equalMem, decide_eq_true_eq] at h ⊢
  exact fun k hk => (h k hk).symm

/-- And they are so from one to a third. -/
theorem equalMem_trans {a b c : Uuid} {n : ℕ} (h : equalMem a b n = true)
    (h' : equalMem b c n = true) : equalMem a c n = true := by
  simp only [equalMem, decide_eq_true_eq] at h h' ⊢
  exact fun k hk => (h k hk).trans (h' k hk)

/-- A claim keeps the invariant, where no service matches. -/
theorem storeInv_claim {s : NotifStore} (hs : StoreInv s) {i : Fin maxServices} {uuid : Uuid}
    (hnone : ∀ k, ¬ Matches s uuid k) : StoreInv (s.claim i uuid) where
  cookies i' j' k' := by
    simpa using hs.cookies i' j' k'
  cleared i' j' := by
    simpa using hs.cleared i' j'
  uuids i' uuid' k' hi hk := by
    -- a slot that matched beside the claimed one would have matched the claiming UUID
    have hother : ∀ k, equalMem uuid' uuid sizeofUuidPointer = true → ¬ Matches s uuid' k :=
      fun k he hm => hnone k ⟨hm.1, equalMem_trans (equalMem_symm he) hm.2⟩
    rw [matches_claim] at hi hk
    split_ifs at hi hk with h₁ h₂ h₂
    · exact h₁.trans h₂.symm
    · exact absurd hk (hother k' hi)
    · exact absurd hi (hother i' hk)
    · exact hs.uuids i' uuid' k' hi hk
  bitmask b := by
    have hmask : (s.claim i uuid).globalBitmask = s.globalBitmask := rfl
    simpa [hmask] using hs.bitmask b
  residues i' j' i'' j'' := by
    simpa using hs.residues i' j' i'' j''
  nineBits i' j' := by
    simpa using hs.nineBits i' j'

/-- So an edit does. -/
theorem storeInv_edit {i : Fin maxServices} {sourceId : BitVec 16} {uuid : Uuid}
    {s s' : NotifStore} (h : Edit i sourceId uuid s s') (hs : StoreInv s) : StoreInv s' := by
  cases h with
  | register j m hg => exact storeInv_register hs sourceId hg
  | unregister j m hg => exact storeInv_unregister hs hg
  | claim hin hnone => exact storeInv_claim hs hnone

/-- **The representation invariant holds in every reachable state.** -/
theorem Reachable.inv {s : NotifStore} (h : Reachable s) : StoreInv s :=
  h.of_edit storeInv_init fun _ _ _ _ _ => storeInv_edit

/-- And so does a request. -/
theorem storeInv_handleOpcode {s : NotifStore} (hs : StoreInv s) (request : DirectMsgArgsEx) :
    StoreInv (handleOpcode s request).2 := by
  obtain ⟨i, hedits⟩ := handleOpcode_edits s request
  generalize (handleOpcode s request).2 = s' at hedits
  induction hedits with
  | refl => exact hs
  | tail _ he ih => exact storeInv_edit he ih

/-- The slot that matches a UUID is the one `LocateService` finds. -/
theorem StoreInv.locateService_eq {s : NotifStore} (hs : StoreInv s) {uuid : Uuid}
    {i : Fin maxServices} (hm : Matches s uuid i) : locateService s uuid false = some i :=
  locateService_some.2 ⟨hm, fun k hk hmk => absurd (hs.uuids k uuid i hmk hm) (ne_of_lt hk)⟩

/-! ### What lookup and removal rely on -/

/-- **The table of a well-formed store**: a cookie names one entry of its slot, an entry not in
use holds nothing, and a UUID names one slot in use. -/
structure Represented (s : NotifStore) : Prop where
  cookies : ∀ i j k, (s.info i j).inUse → (s.info i k).inUse → j ≠ k →
    (s.info i j).cookie ≠ (s.info i k).cookie
  cleared : ∀ i j, (s.info i j).inUse = false →
    (s.info i j).cookie = 0 ∧ (s.info i j).id = 0 ∧ (s.info i j).perVcpu = false ∧
      (s.info i j).sourceId = 0
  uuids : ∀ i k, (s.notificationServices i).inUse → (s.notificationServices k).inUse → i ≠ k →
    (s.notificationServices i).serviceUuid ≠ (s.notificationServices k).serviceUuid

/-- A slot in use matches its own UUID. -/
theorem matches_self {s : NotifStore} {i : Fin maxServices}
    (h : (s.notificationServices i).inUse) :
    Matches s (s.notificationServices i).serviceUuid i :=
  ⟨h, by simp [equalMem]⟩

/-- The invariant gives what lookups rely on. -/
theorem StoreInv.represented {s : NotifStore} (hs : StoreInv s) : Represented s where
  cookies i j k hj hk hne he := hne (hs.cookies i j k hj hk he)
  cleared i j hfree := by
    rw [hs.cleared i j hfree]
    exact ⟨rfl, rfl, rfl, rfl⟩
  uuids i k hi hk hne he := by
    have hmatch := matches_self hk
    rw [← he] at hmatch
    exact hne (hs.uuids i _ k (matches_self hi) hmatch)

/-- **Every reachable store is well formed**, also after messages that were refused
midway. -/
theorem store_represented {s : NotifStore} (h : Reachable s) : Represented s :=
  h.inv.represented

/-- Two mappings with one cookie: the second is refused, and the entry it would have taken is
empty. -/
theorem store_represented_refused :
    let request : DirectMsgArgsEx := { DirectMsgArgsEx.zero with
      arg5 := 2, arg6 := 2, arg7 := 0x100000000, arg8 := 0x100800000 }
    ((notifMachine.final notificationServiceInit [(request, .zero)]).info 0 1).cookie = 0 :=
  ((store_represented ⟨_, rfl⟩).cleared 0 1 (by decide +kernel)).1

end Notification
end FfaFeature
