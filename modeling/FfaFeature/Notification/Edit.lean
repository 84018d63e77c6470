/-
# What a request can do to the store

Every turn of the loop of `UpdateServiceInfo` copies its temporaries back, so
at the head of a turn the temporaries are the slot and the bitmap themselves
(`updateLoop_eq`).  A turn therefore either refuses its mapping or makes one
*edit* of the store: it registers the mapping in the first free entry
(`Edit.register`) or clears the entry the cookie names (`Edit.unregister`).  The
only other edit claims a slot for a UUID (`Edit.claim`).  A request is a chain
of edits of one slot (`handleOpcode_edits`), with the guards of the code as the
hypotheses of the edits; every invariant of the store is proved edit by edit.
-/

import FfaFeature.Notification.Basic
import Mathlib.Logic.Relation

namespace FfaFeature
namespace Notification

/-! ### Updating one entry -/

/-- The entry `j` of the slot `i`. -/
def NotifStore.info (s : NotifStore) (i : Fin maxServices) (j : Fin maxMappings) : NotifInfo :=
  (s.notificationServices i).serviceInfo j

/-- The entry a mapping is registered in. -/
def NotificationMapping.toInfo (m : NotificationMapping) (sourceId : BitVec 16) : NotifInfo :=
  { cookie := m.cookie, id := m.mappingId, perVcpu := m.perVcpu != 0, sourceId := sourceId,
    inUse := true }

/-- `m` registered in the entry `j` of the slot `i`. -/
def NotifStore.register (s : NotifStore) (i : Fin maxServices) (j : Fin maxMappings)
    (m : NotificationMapping) (sourceId : BitVec 16) : NotifStore :=
  { s.setService i ((s.notificationServices i).setInfo j (m.toInfo sourceId)) with
    globalBitmask := s.globalBitmask ||| idMask m.mappingId }

/-- The entry `j` of the slot `i` cleared, and its bits with it. -/
def NotifStore.unregister (s : NotifStore) (i : Fin maxServices) (j : Fin maxMappings)
    (m : NotificationMapping) : NotifStore :=
  { s.setService i ((s.notificationServices i).setInfo j .zero) with
    globalBitmask := s.globalBitmask &&& idMaskNot m.mappingId }

/-- The slot `i` claimed for a UUID. -/
def NotifStore.claim (s : NotifStore) (i : Fin maxServices) (uuid : Uuid) : NotifStore :=
  s.setService i { s.notificationServices i with serviceUuid := uuid, inUse := true }

/-- The slot that is written. -/
@[simp] theorem NotifStore.setService_self (s : NotifStore) (i : Fin maxServices)
    (service : NotifService) : (s.setService i service).notificationServices i = service := by
  simp [NotifStore.setService]

/-- The other slots. -/
@[simp] theorem NotifStore.setService_ne {i k : Fin maxServices} (h : k ≠ i) (s : NotifStore)
    (service : NotifService) :
    (s.setService i service).notificationServices k = s.notificationServices k := by
  simp [NotifStore.setService, h]

/-- The bitmap stays. -/
@[simp] theorem NotifStore.setService_globalBitmask (s : NotifStore) (i : Fin maxServices)
    (service : NotifService) : (s.setService i service).globalBitmask = s.globalBitmask := rfl

/-- A registration leaves the other slots. -/
theorem NotifStore.register_slot_ne {i k : Fin maxServices} (h : k ≠ i) (s : NotifStore)
    (j : Fin maxMappings) (m : NotificationMapping) (sourceId : BitVec 16) :
    (s.register i j m sourceId).notificationServices k = s.notificationServices k := by
  simp [NotifStore.register, h]

/-- So does an unregistration. -/
theorem NotifStore.unregister_slot_ne {i k : Fin maxServices} (h : k ≠ i) (s : NotifStore)
    (j : Fin maxMappings) (m : NotificationMapping) :
    (s.unregister i j m).notificationServices k = s.notificationServices k := by
  simp [NotifStore.unregister, h]

/-- And so does a claim. -/
theorem NotifStore.claim_slot_ne {i k : Fin maxServices} (h : k ≠ i) (s : NotifStore)
    (uuid : Uuid) : (s.claim i uuid).notificationServices k = s.notificationServices k := by
  simp [NotifStore.claim, h]

/-- The entries after a registration. -/
theorem NotifStore.info_register (s : NotifStore) (i i' : Fin maxServices)
    (j j' : Fin maxMappings) (m : NotificationMapping) (sourceId : BitVec 16) :
    (s.register i j m sourceId).info i' j' =
      if i' = i ∧ j' = j then m.toInfo sourceId else s.info i' j' := by
  by_cases hi : i' = i
  · subst hi
    by_cases hj : j' = j <;>
      simp [NotifStore.info, NotifStore.register, NotifService.setInfo, hj]
  · simp [NotifStore.info, NotifStore.register, hi]

/-- The entries after an unregistration. -/
theorem NotifStore.info_unregister (s : NotifStore) (i i' : Fin maxServices)
    (j j' : Fin maxMappings) (m : NotificationMapping) :
    (s.unregister i j m).info i' j' = if i' = i ∧ j' = j then .zero else s.info i' j' := by
  by_cases hi : i' = i
  · subst hi
    by_cases hj : j' = j <;>
      simp [NotifStore.info, NotifStore.unregister, NotifService.setInfo, hj]
  · simp [NotifStore.info, NotifStore.unregister, hi]

/-- A claim leaves the entries. -/
@[simp] theorem NotifStore.info_claim (s : NotifStore) (i i' : Fin maxServices)
    (j' : Fin maxMappings) (uuid : Uuid) : (s.claim i uuid).info i' j' = s.info i' j' := by
  by_cases hi : i' = i
  · subst hi
    simp [NotifStore.info, NotifStore.claim]
  · simp [NotifStore.info, NotifStore.claim, hi]

/-- Registering and clearing keep the UUID and the state of every slot. -/
theorem NotifStore.register_slot (s : NotifStore) (i k : Fin maxServices) (j : Fin maxMappings)
    (m : NotificationMapping) (sourceId : BitVec 16) :
    ((s.register i j m sourceId).notificationServices k).inUse =
        (s.notificationServices k).inUse ∧
      ((s.register i j m sourceId).notificationServices k).serviceUuid =
        (s.notificationServices k).serviceUuid := by
  by_cases hk : k = i
  · subst hk
    simp [NotifStore.register, NotifService.setInfo]
  · simp [NotifStore.register, hk]

/-- An unregistration leaves the slot to its service. -/
theorem NotifStore.unregister_slot (s : NotifStore) (i k : Fin maxServices)
    (j : Fin maxMappings) (m : NotificationMapping) :
    ((s.unregister i j m).notificationServices k).inUse = (s.notificationServices k).inUse ∧
      ((s.unregister i j m).notificationServices k).serviceUuid =
        (s.notificationServices k).serviceUuid := by
  by_cases hk : k = i
  · subst hk
    simp [NotifStore.unregister, NotifService.setInfo]
  · simp [NotifStore.unregister, hk]

/-! ### One mapping -/

/-- The guards of a `REGISTER` turn, with `j` the first free entry. -/
structure RegisterGuard (s : NotifStore) (i : Fin maxServices) (j : Fin maxMappings)
    (m : NotificationMapping) : Prop where
  cookie_new : ∀ k, (s.info i k).inUse → (s.info i k).cookie ≠ m.cookie
  mask_free : s.globalBitmask &&& idMask m.mappingId = 0
  free : (s.info i j).inUse = false
  first : ∀ k, k < j → (s.info i k).inUse

/-- The guards of an `UNREGISTER` turn, with `j` the first entry of the cookie. -/
structure UnregisterGuard (s : NotifStore) (i : Fin maxServices) (j : Fin maxMappings)
    (sourceId : BitVec 16) (m : NotificationMapping) : Prop where
  inUse : (s.info i j).inUse
  cookie : (s.info i j).cookie = m.cookie
  id : (s.info i j).id = m.mappingId
  source : (s.info i j).sourceId = sourceId
  first : ∀ k, k < j → (s.info i k).inUse → (s.info i k).cookie ≠ m.cookie

/-- No entry has the cookie. -/
theorem isMatchingCookie_none {s : NotifStore} {i : Fin maxServices} {cookie : BitVec 32} :
    isMatchingCookie cookie (s.notificationServices i) = none ↔
      ∀ k, (s.info i k).inUse → (s.info i k).cookie ≠ cookie := by
  simp [isMatchingCookie, NotifStore.info]

/-- The first entry with the cookie. -/
theorem isMatchingCookie_some {s : NotifStore} {i : Fin maxServices} {cookie : BitVec 32}
    {j : Fin maxMappings} :
    isMatchingCookie cookie (s.notificationServices i) = some j ↔
      ((s.info i j).inUse ∧ (s.info i j).cookie = cookie) ∧
        ∀ k, k < j → (s.info i k).inUse → (s.info i k).cookie ≠ cookie := by
  simp [isMatchingCookie, NotifStore.info]

/-- All entries are in use. -/
theorem emptyIndex_none {s : NotifStore} {i : Fin maxServices} :
    emptyIndex (s.notificationServices i) = none ↔ ∀ k, (s.info i k).inUse := by
  simp [emptyIndex, NotifStore.info]

/-- The first entry that is free. -/
theorem emptyIndex_some {s : NotifStore} {i : Fin maxServices} {j : Fin maxMappings} :
    emptyIndex (s.notificationServices i) = some j ↔
      (s.info i j).inUse = false ∧ ∀ k, k < j → (s.info i k).inUse := by
  simp [emptyIndex, NotifStore.info]

/-- One turn of the loop on the store, the temporaries read from it and copied
back to it. -/
def applyMapping (unregister : Bool) (sourceId : BitVec 16) (i : Fin maxServices)
    (m : NotificationMapping) (s : NotifStore) : Except NotificationStatus NotifStore :=
  match updateMapping unregister sourceId m (s.notificationServices i) s.globalBitmask with
  | .error returnVal => .error returnVal
  | .ok (service, bitmask) => .ok { s.setService i service with globalBitmask := bitmask }

/-- The loop on the store. -/
def applyMappings (unregister : Bool) (sourceId : BitVec 16) (i : Fin maxServices) :
    List NotificationMapping → NotifStore → NotificationStatus × NotifStore
  | [], s => (.success, s)
  | m :: ms, s =>
    match applyMapping unregister sourceId i m s with
    | .error returnVal => (returnVal, s)
    | .ok s => applyMappings unregister sourceId i ms s

/-- **The temporaries of `UpdateServiceInfo` hold nothing the store does not.**
Each turn copies them back, so the loop is the loop on the store. -/
theorem updateLoop_eq (unregister : Bool) (sourceId : BitVec 16) (i : Fin maxServices)
    (ms : List NotificationMapping) (s : NotifStore) :
    updateLoop unregister sourceId i ms (s.notificationServices i) s.globalBitmask s =
      applyMappings unregister sourceId i ms s := by
  induction ms generalizing s with
  | nil => rfl
  | cons m ms ih =>
    rw [updateLoop, applyMappings, applyMapping]
    cases h : updateMapping unregister sourceId m (s.notificationServices i) s.globalBitmask with
    | error returnVal => rfl
    | ok r =>
      have := ih { s.setService i r.1 with globalBitmask := r.2 }
      simpa using this

/-- **A `REGISTER` turn succeeds exactly under its guards**, and then registers
the mapping in the first free entry. -/
theorem applyMapping_register {sourceId : BitVec 16} {i : Fin maxServices}
    {m : NotificationMapping} {s s' : NotifStore} :
    applyMapping false sourceId i m s = .ok s' ↔
      ∃ j, RegisterGuard s i j m ∧ s' = s.register i j m sourceId := by
  unfold applyMapping updateMapping
  cases hc : isMatchingCookie m.cookie (s.notificationServices i) with
  | some k =>
    obtain ⟨⟨hk, hck⟩, -⟩ := isMatchingCookie_some.1 hc
    simp only [Bool.false_eq_true, if_false, reduceCtorEq, false_iff, not_exists, not_and]
    exact fun j hg => absurd hck (hg.cookie_new k hk)
  | none =>
    have hnew := isMatchingCookie_none.1 hc
    by_cases hm : s.globalBitmask &&& idMask m.mappingId = 0
    · cases he : emptyIndex (s.notificationServices i) with
      | none =>
        have hfull := emptyIndex_none.1 he
        simp only [Bool.false_eq_true, if_false, hm, ne_eq, not_true_eq_false, reduceCtorEq,
          false_iff, not_exists, not_and]
        exact fun j hg => absurd (hfull j) (by simp [hg.free])
      | some j =>
        obtain ⟨hfree, hfirst⟩ := emptyIndex_some.1 he
        simp only [Bool.false_eq_true, if_false, hm, ne_eq, not_true_eq_false, Except.ok.injEq]
        constructor
        · rintro rfl
          exact ⟨j, ⟨hnew, hm, hfree, hfirst⟩, rfl⟩
        · rintro ⟨k, hg, rfl⟩
          have hjk : j = k := by
            rcases lt_trichotomy j k with h | h | h
            · exact absurd (hg.first j h) (by simp [hfree])
            · exact h
            · exact absurd (hfirst k h) (by simp [hg.free])
          subst hjk
          rfl
    · simp only [Bool.false_eq_true, if_false, ne_eq, hm, not_false_eq_true, if_true,
        reduceCtorEq, false_iff, not_exists, not_and]
      exact fun j hg => absurd hg.mask_free hm

/-- **An `UNREGISTER` turn succeeds exactly under its guards**, and then clears
the entry. -/
theorem applyMapping_unregister {sourceId : BitVec 16} {i : Fin maxServices}
    {m : NotificationMapping} {s s' : NotifStore} :
    applyMapping true sourceId i m s = .ok s' ↔
      ∃ j, UnregisterGuard s i j sourceId m ∧ s' = s.unregister i j m := by
  unfold applyMapping updateMapping
  cases hc : isMatchingCookie m.cookie (s.notificationServices i) with
  | none =>
    have hnew := isMatchingCookie_none.1 hc
    simp only [if_true, reduceCtorEq, false_iff, not_exists, not_and]
    exact fun j hg => absurd hg.cookie (hnew j hg.inUse)
  | some k =>
    obtain ⟨⟨hk, hck⟩, hfirst⟩ := isMatchingCookie_some.1 hc
    have huniq : ∀ j, UnregisterGuard s i j sourceId m → j = k := by
      intro j hg
      rcases lt_trichotomy j k with h | h | h
      · exact absurd hg.cookie (hfirst j h hg.inUse)
      · exact h
      · exact absurd hck (hg.first k h hk)
    by_cases hid : (s.info i k).id = m.mappingId
    · by_cases hsrc : (s.info i k).sourceId = sourceId
      · have hid' : ((s.notificationServices i).serviceInfo k).id = m.mappingId := hid
        have hsrc' : ((s.notificationServices i).serviceInfo k).sourceId = sourceId := hsrc
        simp only [if_true, hid', hsrc', ne_eq, not_true_eq_false, if_false, Except.ok.injEq]
        constructor
        · rintro rfl
          exact ⟨k, ⟨hk, hck, hid, hsrc, hfirst⟩, rfl⟩
        · rintro ⟨j, hg, rfl⟩
          rw [huniq j hg]
          rfl
      · have hid' : ((s.notificationServices i).serviceInfo k).id = m.mappingId := hid
        have hsrc' : ((s.notificationServices i).serviceInfo k).sourceId ≠ sourceId := hsrc
        simp only [if_true, hid', hsrc', ne_eq, not_true_eq_false, not_false_eq_true, if_false,
          reduceCtorEq, false_iff, not_exists, not_and]
        exact fun j hg => absurd (huniq j hg ▸ hg.source) hsrc
    · have hid' : ((s.notificationServices i).serviceInfo k).id ≠ m.mappingId := hid
      simp only [if_true, hid', ne_eq, not_false_eq_true, reduceCtorEq, false_iff, not_exists,
        not_and]
      exact fun j hg => absurd (huniq j hg ▸ hg.id) hid

/-! ### One request -/

/-- The slot `i` is in use and its UUID agrees with `uuid` in the bytes that
`LocateService` compares. -/
def Matches (s : NotifStore) (uuid : Uuid) (i : Fin maxServices) : Prop :=
  (s.notificationServices i).inUse ∧
    equalMem uuid (s.notificationServices i).serviceUuid sizeofUuidPointer

/-- The edits of the slot `i` that a request from `sourceId` with this UUID can
make. -/
inductive Edit (i : Fin maxServices) (sourceId : BitVec 16) (uuid : Uuid) :
    NotifStore → NotifStore → Prop
  | register {s : NotifStore} (j : Fin maxMappings) (m : NotificationMapping) :
      RegisterGuard s i j m → Edit i sourceId uuid s (s.register i j m sourceId)
  | unregister {s : NotifStore} (j : Fin maxMappings) (m : NotificationMapping) :
      UnregisterGuard s i j sourceId m → Edit i sourceId uuid s (s.unregister i j m)
  | claim {s : NotifStore} : (s.notificationServices i).inUse = false →
      (∀ k, ¬ Matches s uuid k) → Edit i sourceId uuid s (s.claim i uuid)

/-- Chains of edits of one slot by one request. -/
abbrev Edits (i : Fin maxServices) (sourceId : BitVec 16) (uuid : Uuid) :
    NotifStore → NotifStore → Prop :=
  Relation.ReflTransGen (Edit i sourceId uuid)

/-- A mapping is one edit. -/
theorem applyMapping_edit {unregister : Bool} {sourceId : BitVec 16} {i : Fin maxServices}
    {m : NotificationMapping} {s s' : NotifStore} (uuid : Uuid)
    (h : applyMapping unregister sourceId i m s = .ok s') : Edit i sourceId uuid s s' := by
  cases unregister with
  | false =>
    obtain ⟨j, hg, rfl⟩ := applyMapping_register.1 h
    exact .register j m hg
  | true =>
    obtain ⟨j, hg, rfl⟩ := applyMapping_unregister.1 h
    exact .unregister j m hg

/-- Mappings are edits, as far as they go. -/
theorem applyMappings_edits (unregister : Bool) (sourceId : BitVec 16) (i : Fin maxServices)
    (uuid : Uuid) (ms : List NotificationMapping) (s : NotifStore) :
    Edits i sourceId uuid s (applyMappings unregister sourceId i ms s).2 := by
  induction ms generalizing s with
  | nil => exact .refl
  | cons m ms ih =>
    rw [applyMappings]
    cases h : applyMapping unregister sourceId i m s with
    | error returnVal => exact .refl
    | ok s' => exact .head (applyMapping_edit uuid h) (ih s')

/-- The mappings `UpdateServiceInfo` reads from the request. -/
def requestMappings (request : DirectMsgArgsEx) : List NotificationMapping :=
  (reqMappings request).take (reqNumMappings request)

/-- An update of a slot is the loop on the store, or nothing. -/
theorem updateServiceInfo_eq (unregister : Bool) (request : DirectMsgArgsEx)
    (i : Fin maxServices) (s : NotifStore) :
    updateServiceInfo unregister request i s =
      if reqNumMappings request < 1 ∨ 7 < reqNumMappings request then (.invalidParameter, s)
      else applyMappings unregister request.sourceId i (requestMappings request) s := by
  rw [updateServiceInfo, updateLoop_eq]
  rfl

/-- So is the update of a service. -/
theorem updateServiceInfo_edits (unregister : Bool) (request : DirectMsgArgsEx)
    (i : Fin maxServices) (uuid : Uuid) (s : NotifStore) :
    Edits i request.sourceId uuid s (updateServiceInfo unregister request i s).2 := by
  rw [updateServiceInfo_eq]
  split_ifs
  · exact .refl
  · exact applyMappings_edits ..

/-- The edits before a claim keep the slots' UUIDs and states. -/
theorem applyMappings_slot (unregister : Bool) (sourceId : BitVec 16) (i k : Fin maxServices)
    (ms : List NotificationMapping) (s : NotifStore) :
    (((applyMappings unregister sourceId i ms s).2.notificationServices k).inUse =
        (s.notificationServices k).inUse) ∧
      ((applyMappings unregister sourceId i ms s).2.notificationServices k).serviceUuid =
        (s.notificationServices k).serviceUuid := by
  induction ms generalizing s with
  | nil => exact ⟨rfl, rfl⟩
  | cons m ms ih =>
    rw [applyMappings]
    cases h : applyMapping unregister sourceId i m s with
    | error returnVal => exact ⟨rfl, rfl⟩
    | ok s' =>
      obtain ⟨h₁, h₂⟩ := ih s'
      cases unregister with
      | false =>
        obtain ⟨j, -, rfl⟩ := applyMapping_register.1 h
        obtain ⟨e₁, e₂⟩ := s.register_slot i k j m sourceId
        exact ⟨h₁.trans e₁, h₂.trans e₂⟩
      | true =>
        obtain ⟨j, -, rfl⟩ := applyMapping_unregister.1 h
        obtain ⟨e₁, e₂⟩ := s.unregister_slot i k j m
        exact ⟨h₁.trans e₁, h₂.trans e₂⟩

/-- It leaves every slot to its service. -/
theorem updateServiceInfo_slot (unregister : Bool) (request : DirectMsgArgsEx)
    (i k : Fin maxServices) (s : NotifStore) :
    (((updateServiceInfo unregister request i s).2.notificationServices k).inUse =
        (s.notificationServices k).inUse) ∧
      ((updateServiceInfo unregister request i s).2.notificationServices k).serviceUuid =
        (s.notificationServices k).serviceUuid := by
  rw [updateServiceInfo_eq]
  split_ifs
  · exact ⟨rfl, rfl⟩
  · exact applyMappings_slot ..

/-- The first service that matches. -/
theorem locateService_some {s : NotifStore} {uuid : Uuid} {i : Fin maxServices} :
    locateService s uuid false = some i ↔
      Matches s uuid i ∧ ∀ k, k < i → ¬ Matches s uuid k := by
  simp only [locateService, Matches, Fin.find?_eq_some_iff]
  simp

/-- No service matches. -/
theorem locateService_none {s : NotifStore} {uuid : Uuid} :
    locateService s uuid false = none ↔ ∀ k, ¬ Matches s uuid k := by
  simp only [locateService, Matches, Fin.find?_eq_none_iff]
  simp

/-- The first slot that is free. -/
theorem locateService_empty_some {s : NotifStore} {uuid : Uuid} {i : Fin maxServices} :
    locateService s uuid true = some i ↔
      (s.notificationServices i).inUse = false ∧
        ∀ k, k < i → (s.notificationServices k).inUse := by
  simp [locateService]

/-- The slot a registration works on matches the UUID, or is not in use while
none matches. -/
theorem registerSlot_some {s : NotifStore} {uuid : Uuid} {i : Fin maxServices}
    (h : registerSlot s uuid = some i) :
    Matches s uuid i ∨ ((s.notificationServices i).inUse = false ∧ ∀ k, ¬ Matches s uuid k) := by
  unfold registerSlot at h
  cases hl : locateService s uuid false with
  | some k =>
    rw [hl] at h
    obtain rfl := Option.some.inj h
    exact .inl (locateService_some.1 hl).1
  | none =>
    rw [hl] at h
    exact .inr ⟨(locateService_empty_some.1 h).1, locateService_none.1 hl⟩

/-- A registration is edits of one slot. -/
theorem registerAt_edits {s : NotifStore} {request : DirectMsgArgsEx} {i : Fin maxServices}
    (h : registerSlot s (requestUuid request) = some i) :
    Edits i request.sourceId (requestUuid request) s (registerAt request i s).2 := by
  have hed := updateServiceInfo_edits false request i (requestUuid request) s
  have hslot := fun k => updateServiceInfo_slot false request i k s
  unfold registerAt
  split
  · next s' hs' =>
    rw [hs'] at hed hslot
    split_ifs with hin
    · exact hed
    · refine hed.tail (.claim (by simpa using hin) fun k hk => ?_)
      -- the slot was not in use before either, so no slot matched the UUID
      have hnone : ∀ k, ¬ Matches s (requestUuid request) k := by
        rcases registerSlot_some h with hm | ⟨-, hnone⟩
        · exact absurd ((hslot i).1.trans hm.1) hin
        · exact hnone
      refine hnone k ⟨(hslot k).1 ▸ hk.1, ?_⟩
      have := hk.2
      rwa [(hslot k).2] at this
  · next hr =>
    rw [hr] at hed
    exact hed

/-- **A request is a chain of edits of one slot**, by its source and with its
UUID. -/
theorem handleOpcode_edits (s : NotifStore) (request : DirectMsgArgsEx) :
    ∃ i, Edits i request.sourceId (requestUuid request) s (handleOpcode s request).2 := by
  unfold handleOpcode
  split
  iterate 4 exact ⟨0, .refl⟩
  · unfold registerHandler
    cases h : registerSlot s (requestUuid request) with
    | none => exact ⟨0, .refl⟩
    | some i => exact ⟨i, registerAt_edits h⟩
  · unfold unregisterHandler
    cases locateService s (requestUuid request) false with
    | none => exact ⟨0, .refl⟩
    | some i => exact ⟨i, updateServiceInfo_edits ..⟩
  · exact ⟨0, .refl⟩

/-- **The invariant rule of the service**: what holds of the empty store and is
preserved by every edit holds in every reachable state. -/
theorem Reachable.of_edit {I : NotifStore → Prop} {s : NotifStore} (h : Reachable s)
    (h0 : I notificationServiceInit)
    (hedit : ∀ i sourceId uuid s s', Edit i sourceId uuid s s' → I s → I s') : I s := by
  refine Machine.Reachable.of_step h h0 fun s m hs => ?_
  obtain ⟨i, hed⟩ := handleOpcode_edits s m.1
  have hstep : (notifMachine.step s m).1 = (handleOpcode s m.1).2 := rfl
  rw [hstep]
  generalize (handleOpcode s m.1).2 = s' at hed
  induction hed with
  | refl => exact hs
  | tail _ he ih => exact hedit _ _ _ _ _ he ih

end Notification
end FfaFeature
