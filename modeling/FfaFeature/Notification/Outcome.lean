/-
# The outcome of a message

What a `REGISTER` or `UNREGISTER` does to the table of its slot, as a set of
mappings.  The loop works on the entries one after another, but the mappings of
a slot have distinct cookies, so the slot is a set: an accepted `REGISTER` adds
the mappings of the message to it (`Gains`), an accepted `UNREGISTER` takes out
those the cookies of the message name (`Loses`).  Acceptance is order-free
(`RegisterAccepts`, `UnregisterAccepts`), and so is the set that results.
-/

import FfaFeature.Notification.Bitmap
import FfaFeature.Notification.Isolation
import Mathlib.Data.List.Perm.Basic

namespace FfaFeature
namespace Notification

/-- The mappings of the slot `i`: what its in-use entries hold. -/
def slotMappings (s : NotifStore) (i : Fin maxServices) : Set NotifInfo :=
  {info | ∃ j, (s.info i j).inUse ∧ s.info i j = info}

/-- From `s` to `s'` the slot `i` gains the entries `infos`, each in a place of
its own, and nothing else changes. -/
structure Gains (s s' : NotifStore) (i : Fin maxServices) (infos : List NotifInfo) : Prop where
  entries : slotMappings s' i = slotMappings s i ∪ {info | info ∈ infos}
  count : (freeEntries s' i).card + infos.length = (freeEntries s i).card
  kept : ∀ j, (s.info i j).inUse → s'.info i j = s.info i j
  others : ∀ k, k ≠ i → s'.notificationServices k = s.notificationServices k

/-- From `s` to `s'` the slot `i` loses the entries with these cookies, each of
which names one, and nothing else changes. -/
structure Loses (s s' : NotifStore) (i : Fin maxServices) (cookies : List (BitVec 32)) :
    Prop where
  entries : slotMappings s' i = {info ∈ slotMappings s i | info.cookie ∉ cookies}
  count : (freeEntries s' i).card = (freeEntries s i).card + cookies.length
  kept : ∀ j, (s'.info i j).inUse → s'.info i j = s.info i j
  others : ∀ k, k ≠ i → s'.notificationServices k = s.notificationServices k

/-! ### Registering -/

/-- Nothing is gained. -/
theorem Gains.refl (s : NotifStore) (i : Fin maxServices) : Gains s s i [] where
  entries := by simp
  count := rfl
  kept _ _ := rfl
  others _ _ := rfl

/-- Gains add up. -/
theorem Gains.trans {s s' s'' : NotifStore} {i : Fin maxServices} {l l' : List NotifInfo}
    (h : Gains s s' i l) (h' : Gains s' s'' i l') : Gains s s'' i (l ++ l') where
  entries := by
    rw [h'.entries, h.entries]
    ext info
    simp only [Set.mem_union, Set.mem_ofPred_eq, List.mem_append, or_assoc]
  count := by
    have h₁ := h.count
    have h₂ := h'.count
    rw [List.length_append]
    omega
  kept j hj := by
    have he := h.kept j hj
    exact (h'.kept j (he ▸ hj)).trans he
  others k hk := (h'.others k hk).trans (h.others k hk)

/-- One mapping registered in a free entry. -/
theorem gains_register {s : NotifStore} {i : Fin maxServices} {j : Fin maxMappings}
    {m : NotificationMapping} (sourceId : BitVec 16) (hfree : (s.info i j).inUse = false) :
    Gains s (s.register i j m sourceId) i [m.toInfo sourceId] where
  entries := by
    ext info
    simp only [slotMappings, Set.mem_union, Set.mem_ofPred_eq, List.mem_singleton]
    constructor
    · rintro ⟨k, hin, rfl⟩
      rw [NotifStore.info_register] at hin ⊢
      split_ifs at hin ⊢
      · exact .inr rfl
      · exact .inl ⟨k, hin, rfl⟩
    · rintro (⟨k, hin, rfl⟩ | rfl)
      · have hne : ¬(i = i ∧ k = j) := by
          rintro ⟨-, rfl⟩
          rw [hfree] at hin
          cases hin
        refine ⟨k, ?_⟩
        rw [NotifStore.info_register, if_neg hne]
        exact ⟨hin, rfl⟩
      · refine ⟨j, ?_⟩
        rw [NotifStore.info_register, if_pos ⟨rfl, rfl⟩]
        exact ⟨rfl, rfl⟩
  count := by
    have hmem := mem_freeEntries.2 hfree
    have hpos := Finset.card_pos.2 ⟨j, hmem⟩
    rw [freeEntries_register, Finset.card_erase_of_mem hmem, List.length_singleton]
    omega
  kept k hin := by
    have hne : ¬(i = i ∧ k = j) := by
      rintro ⟨-, rfl⟩
      rw [hfree] at hin
      cases hin
    rw [NotifStore.info_register, if_neg hne]
  others k hk := NotifStore.register_slot_ne hk s j m sourceId

/-- Accepted mappings are gained. -/
theorem applyMappings_gains {sourceId : BitVec 16} {i : Fin maxServices}
    {ms : List NotificationMapping} {s : NotifStore}
    (h : (applyMappings false sourceId i ms s).1 = .success) :
    Gains s (applyMappings false sourceId i ms s).2 i (ms.map (·.toInfo sourceId)) := by
  induction ms generalizing s with
  | nil => exact .refl s i
  | cons m ms ih =>
    rw [applyMappings] at h ⊢
    cases hok : applyMapping false sourceId i m s with
    | error returnVal =>
      rw [hok] at h
      exact absurd h (applyMapping_error hok)
    | ok s' =>
      rw [hok] at h
      obtain ⟨j, hg, rfl⟩ := applyMapping_register.1 hok
      exact (gains_register sourceId hg.free).trans (ih h)

/-! ### Unregistering -/

/-- Nothing is lost. -/
theorem Loses.refl (s : NotifStore) (i : Fin maxServices) : Loses s s i [] where
  entries := by simp
  count := rfl
  kept _ _ := rfl
  others _ _ := rfl

/-- Losses add up. -/
theorem Loses.trans {s s' s'' : NotifStore} {i : Fin maxServices} {l l' : List (BitVec 32)}
    (h : Loses s s' i l) (h' : Loses s' s'' i l') : Loses s s'' i (l ++ l') where
  entries := by
    rw [h'.entries, h.entries]
    ext info
    simp only [Set.mem_ofPred_eq, List.mem_append, not_or, and_assoc]
  count := by
    have h₁ := h.count
    have h₂ := h'.count
    rw [List.length_append]
    omega
  kept j hj := by
    have he := h'.kept j hj
    exact he.trans (h.kept j (he ▸ hj))
  others k hk := (h'.others k hk).trans (h.others k hk)

/-- An unregistration frees an entry. -/
theorem freeEntries_unregister {s : NotifStore} {i : Fin maxServices} {j : Fin maxMappings}
    (m : NotificationMapping) :
    freeEntries (s.unregister i j m) i = insert j (freeEntries s i) := by
  ext k
  rw [mem_freeEntries, NotifStore.info_unregister, Finset.mem_insert, mem_freeEntries]
  by_cases hk : k = j
  · simp [hk, NotifInfo.zero]
  · simp [hk]

/-- One entry cleared: the only one of the slot with its cookie. -/
theorem loses_unregister {s : NotifStore} (hs : StoreInv s) {i : Fin maxServices}
    {j : Fin maxMappings} {sourceId : BitVec 16} {m : NotificationMapping}
    (hg : UnregisterGuard s i j sourceId m) : Loses s (s.unregister i j m) i [m.cookie] where
  entries := by
    ext info
    simp only [slotMappings, Set.mem_ofPred_eq, List.mem_singleton]
    constructor
    · rintro ⟨k, hin, rfl⟩
      obtain ⟨hne, hinfo⟩ := inUse_unregister hin
      rw [hinfo] at hin ⊢
      exact ⟨⟨k, hin, rfl⟩, fun he =>
        hne ⟨rfl, hs.cookies i k j hin hg.inUse (he.trans hg.cookie.symm)⟩⟩
    · rintro ⟨⟨k, hin, rfl⟩, hc⟩
      have hne : ¬(i = i ∧ k = j) := by
        rintro ⟨-, rfl⟩
        exact hc hg.cookie
      refine ⟨k, ?_⟩
      rw [NotifStore.info_unregister, if_neg hne]
      exact ⟨hin, rfl⟩
  count := by
    have hmem : j ∉ freeEntries s i := fun h => by
      rw [mem_freeEntries, hg.inUse] at h
      cases h
    rw [freeEntries_unregister, Finset.card_insert_of_notMem hmem, List.length_singleton]
  kept k hin := (inUse_unregister hin).2
  others k hk := NotifStore.unregister_slot_ne hk s j m

/-- Accepted unregistrations are lost. -/
theorem applyMappings_loses {sourceId : BitVec 16} {i : Fin maxServices}
    {ms : List NotificationMapping} {s : NotifStore} (hs : StoreInv s)
    (h : (applyMappings true sourceId i ms s).1 = .success) :
    Loses s (applyMappings true sourceId i ms s).2 i (ms.map (·.cookie)) := by
  induction ms generalizing s with
  | nil => exact .refl s i
  | cons m ms ih =>
    rw [applyMappings] at h ⊢
    cases hok : applyMapping true sourceId i m s with
    | error returnVal =>
      rw [hok] at h
      exact absurd h (applyMapping_error hok)
    | ok s' =>
      rw [hok] at h
      have hs' := storeInv_edit (applyMapping_edit 0 hok) hs
      obtain ⟨j, hg, rfl⟩ := applyMapping_unregister.1 hok
      exact (loses_unregister hs hg).trans (ih hs' h)

/-! ### A request -/

/-- When the update of a service succeeds. -/
theorem updateServiceInfo_success_iff {s : NotifStore} (hs : StoreInv s) (unregister : Bool)
    (request : DirectMsgArgsEx) (i : Fin maxServices) :
    (updateServiceInfo unregister request i s).1 = .success ↔
      1 ≤ reqNumMappings request ∧ reqNumMappings request ≤ 7 ∧
        Accepts unregister s i request.sourceId (requestMappings request) := by
  rw [updateServiceInfo_eq]
  by_cases hn : reqNumMappings request < 1 ∨ 7 < reqNumMappings request
  · rw [if_pos hn]
    refine iff_of_false (by simp) ?_
    rintro ⟨h₁, h₂, -⟩
    omega
  · rw [if_neg hn, applyMappings_success_iff hs]
    have h₁ : 1 ≤ reqNumMappings request := by omega
    have h₂ : reqNumMappings request ≤ 7 := by omega
    simp only [h₁, h₂, true_and]

/-- A successful registration changes the slot as its loop does: the claim that
follows keeps the entries. -/
theorem registerAt_gains {s : NotifStore} {request : DirectMsgArgsEx} {i : Fin maxServices}
    (h : (registerAt request i s).1 = .success)
    (hslot : registerSlot s (requestUuid request) = some i) :
    Gains s (registerAt request i s).2 i
      ((requestMappings request).map (·.toInfo request.sourceId)) := by
  have hupd := (registerAt_status request i s).1
  rw [h, updateServiceInfo_eq] at hupd
  have hinfo := fun j => registerAt_info request i i j s
  rw [updateServiceInfo_eq] at hinfo
  split_ifs at hupd hinfo
  have hg := applyMappings_gains hupd.symm
  refine ⟨?_, ?_, fun j hj => (hinfo j).trans (hg.kept j hj),
    fun k hk => (registerAt_edits hslot).slot_ne hk⟩
  · rw [← hg.entries]
    simp only [slotMappings, hinfo]
  · rw [← hg.count]
    simp only [freeEntries, hinfo]

/-- **A request succeeds** when it names a slot and the slot accepts the whole
message. -/
theorem handleOpcode_success_iff {s : NotifStore} (hs : StoreInv s) (request : DirectMsgArgsEx) :
    (handleOpcode s request).1 = .success ↔
      1 ≤ reqNumMappings request ∧ reqNumMappings request ≤ 7 ∧
        ∃ unregister i, requestSlot s request = some (unregister, i) ∧
          Accepts unregister s i request.sourceId (requestMappings request) := by
  rcases handleOpcode_eq s request with ⟨hslot, hne, -⟩ | ⟨i, hslot, he⟩ | ⟨i, hslot, he⟩
  · rw [hslot]
    refine iff_of_false hne ?_
    rintro ⟨-, -, _, _, h, -⟩
    cases h
  · rw [he, (registerAt_status request i s).1, updateServiceInfo_success_iff hs, hslot]
    simp only [Option.some.injEq, Prod.mk.injEq, exists_and_left, exists_eq_left', and_assoc]
  · rw [he, updateServiceInfo_success_iff hs, hslot]
    simp only [Option.some.injEq, Prod.mk.injEq, exists_and_left, exists_eq_left', and_assoc]

/-- **What a successful request does to the store.** -/
theorem handleOpcode_success {s : NotifStore} (hs : StoreInv s) {request : DirectMsgArgsEx}
    (h : (handleOpcode s request).1 = .success) {unregister : Bool} {i : Fin maxServices}
    (hslot : requestSlot s request = some (unregister, i)) :
    match unregister with
    | false => Gains s (handleOpcode s request).2 i
        ((requestMappings request).map (·.toInfo request.sourceId))
    | true => Loses s (handleOpcode s request).2 i ((requestMappings request).map (·.cookie)) := by
  rcases handleOpcode_eq s request with ⟨hnone, -, -⟩ | ⟨k, hk, he⟩ | ⟨k, hk, he⟩
  · rw [hnone] at hslot
    cases hslot
  · obtain ⟨rfl, rfl⟩ := Prod.mk.inj (Option.some.inj (hk.symm.trans hslot))
    rw [he] at h ⊢
    exact registerAt_gains h (requestSlot_register hk)
  · obtain ⟨rfl, rfl⟩ := Prod.mk.inj (Option.some.inj (hk.symm.trans hslot))
    rw [he] at h ⊢
    rw [updateServiceInfo_eq] at h ⊢
    split_ifs at h ⊢
    exact applyMappings_loses hs h

/-! ### The order of a message -/

/-- Whether registrations are accepted does not depend on their order. -/
theorem RegisterAccepts.perm {s : NotifStore} {i : Fin maxServices}
    {ms ms' : List NotificationMapping} (h : RegisterAccepts s i ms) (hp : ms.Perm ms') :
    RegisterAccepts s i ms' where
  cookies := (hp.pairwise_iff Ne.symm).1 h.cookies
  fresh m hm := h.fresh m (hp.mem_iff.2 hm)
  masks := (hp.pairwise_iff fun hab => by rwa [BitVec.and_comm]).1 h.masks
  free m hm := h.free m (hp.mem_iff.2 hm)
  room := hp.length_eq ▸ h.room

/-- Nor does it for unregistrations. -/
theorem UnregisterAccepts.perm {s : NotifStore} {i : Fin maxServices} {sourceId : BitVec 16}
    {ms ms' : List NotificationMapping} (h : UnregisterAccepts s i sourceId ms)
    (hp : ms.Perm ms') : UnregisterAccepts s i sourceId ms' where
  cookies := (hp.pairwise_iff Ne.symm).1 h.cookies
  found m hm := h.found m (hp.mem_iff.2 hm)

/-- So it does not for either. -/
theorem Accepts.perm {unregister : Bool} {s : NotifStore} {i : Fin maxServices}
    {sourceId : BitVec 16} {ms ms' : List NotificationMapping}
    (h : Accepts unregister s i sourceId ms) (hp : ms.Perm ms') :
    Accepts unregister s i sourceId ms' := by
  cases unregister with
  | false => exact RegisterAccepts.perm h hp
  | true => exact UnregisterAccepts.perm h hp

/-- `request'` carries the mappings of `request` in another order. -/
structure Reorders (request request' : DirectMsgArgsEx) : Prop where
  sourceId : request'.sourceId = request.sourceId
  uuid : requestUuid request' = requestUuid request
  opcode : opcode request' = opcode request
  count : reqNumMappings request' = reqNumMappings request
  mappings : (requestMappings request).Perm (requestMappings request')

/-- The reordering back. -/
theorem Reorders.symm {request request' : DirectMsgArgsEx} (h : Reorders request request') :
    Reorders request' request :=
  ⟨h.sourceId.symm, h.uuid.symm, h.opcode.symm, h.count.symm, h.mappings.symm⟩

/-- Reordered requests have the same slot. -/
theorem Reorders.requestSlot {request request' : DirectMsgArgsEx} (h : Reorders request request')
    (s : NotifStore) : requestSlot s request' = requestSlot s request := by
  unfold Notification.requestSlot
  rw [h.opcode, h.uuid]

/-- They succeed together. -/
theorem Reorders.success {request request' : DirectMsgArgsEx} (h : Reorders request request')
    {s : NotifStore} (hs : StoreInv s) (hok : (handleOpcode s request).1 = .success) :
    (handleOpcode s request').1 = .success := by
  obtain ⟨h₁, h₂, unregister, i, hslot, hacc⟩ := (handleOpcode_success_iff hs request).1 hok
  refine (handleOpcode_success_iff hs request').2 ?_
  rw [h.count, h.requestSlot, h.sourceId]
  exact ⟨h₁, h₂, unregister, i, hslot, hacc.perm h.mappings⟩

/-- **The mappings a message leaves do not depend on its order.** -/
theorem Reorders.slotMappings {request request' : DirectMsgArgsEx}
    (h : Reorders request request') {s : NotifStore} (hs : StoreInv s)
    (hok : (handleOpcode s request).1 = .success) (k : Fin maxServices) :
    slotMappings (handleOpcode s request').2 k = slotMappings (handleOpcode s request).2 k := by
  have hok' := h.success hs hok
  obtain ⟨-, -, unregister, i, hslot, -⟩ := (handleOpcode_success_iff hs request).1 hok
  have hslot' := (h.requestSlot s).trans hslot
  have hout := handleOpcode_success hs hok hslot
  have hout' := handleOpcode_success hs hok' hslot'
  cases unregister with
  | false =>
    dsimp only at hout hout'
    by_cases hk : k = i
    · subst hk
      rw [hout.entries, hout'.entries, h.sourceId]
      congr 1
      ext info
      exact (h.mappings.map _).mem_iff.symm
    · simp only [Notification.slotMappings, NotifStore.info, hout.others k hk,
        hout'.others k hk]
  | true =>
    dsimp only at hout hout'
    by_cases hk : k = i
    · subst hk
      rw [hout.entries, hout'.entries]
      ext info
      exact and_congr_right fun _ => not_congr (h.mappings.map _).mem_iff.symm
    · simp only [Notification.slotMappings, NotifStore.info, hout.others k hk,
        hout'.others k hk]

/-- The outcome of a message that takes the store from `s` to `s'`, answered with
success or not: success exactly when the message is accepted as a whole, and
then its mappings, and no others, are gained or lost. -/
structure BatchOutcome (s : NotifStore) (request : DirectMsgArgsEx) (s' : NotifStore)
    (succeeds : Prop) : Prop where
  register : opcode request = opcodeRegister →
    (succeeds ↔ 1 ≤ reqNumMappings request ∧ reqNumMappings request ≤ 7 ∧
      ∃ i, registerSlot s (requestUuid request) = some i ∧
        RegisterAccepts s i (requestMappings request))
  gains : opcode request = opcodeRegister → succeeds →
    ∀ i, registerSlot s (requestUuid request) = some i →
      Gains s s' i ((requestMappings request).map (·.toInfo request.sourceId))
  unregister : opcode request = opcodeUnregister →
    (succeeds ↔ 1 ≤ reqNumMappings request ∧ reqNumMappings request ≤ 7 ∧
      ∃ i, locateService s (requestUuid request) false = some i ∧
        UnregisterAccepts s i request.sourceId (requestMappings request))
  loses : opcode request = opcodeUnregister → succeeds →
    ∀ i, locateService s (requestUuid request) false = some i →
      Loses s s' i ((requestMappings request).map (·.cookie))

/-- The slot of a `REGISTER`. -/
theorem requestSlot_of_register {request : DirectMsgArgsEx}
    (h : opcode request = opcodeRegister) (s : NotifStore) :
    requestSlot s request = (registerSlot s (requestUuid request)).map (false, ·) := by
  unfold requestSlot
  rw [if_pos h]

/-- The slot of an `UNREGISTER`. -/
theorem requestSlot_of_unregister {request : DirectMsgArgsEx}
    (h : opcode request = opcodeUnregister) (s : NotifStore) :
    requestSlot s request = (locateService s (requestUuid request) false).map (true, ·) := by
  unfold requestSlot
  rw [h, if_neg (by decide), if_pos rfl]

/-- What a request comes to as a batch. -/
theorem handleOpcode_batchOutcome {s : NotifStore} (hs : StoreInv s)
    (request : DirectMsgArgsEx) :
    BatchOutcome s request (handleOpcode s request).2
      ((handleOpcode s request).1 = .success) where
  register hop := by
    rw [handleOpcode_success_iff hs, requestSlot_of_register hop]
    refine and_congr_right fun _ => and_congr_right fun _ => ?_
    cases hslot : registerSlot s (requestUuid request) with
    | none => simp
    | some i =>
      simp only [Option.map_some, Option.some.injEq, Prod.mk.injEq, exists_and_left,
        exists_eq_left', and_assoc]
      rfl
  gains hop hok i hslot :=
    handleOpcode_success hs hok ((requestSlot_of_register hop s).trans (by rw [hslot]; rfl))
  unregister hop := by
    rw [handleOpcode_success_iff hs, requestSlot_of_unregister hop]
    refine and_congr_right fun _ => and_congr_right fun _ => ?_
    cases hslot : locateService s (requestUuid request) false with
    | none => simp
    | some i =>
      simp only [Option.map_some, Option.some.injEq, Prod.mk.injEq, exists_and_left,
        exists_eq_left', and_assoc]
      rfl
  loses hop hok i hslot :=
    handleOpcode_success hs hok ((requestSlot_of_unregister hop s).trans (by rw [hslot]; rfl))

/-- **The outcome of a message is decided by the message as a whole**, and is the
same for every order of its mappings. -/
theorem notificationServiceHandle_batch {s : NotifStore} (h : Reachable s)
    (request response : DirectMsgArgsEx) :
    BatchOutcome s request (notificationServiceHandle s request response).1
        ((notificationServiceHandle s request response).2.arg6 = 0) ∧
      ∀ request' response', Reorders request request' →
        ((notificationServiceHandle s request' response').2.arg6 = 0 ↔
          (notificationServiceHandle s request response).2.arg6 = 0) ∧
        ((notificationServiceHandle s request response).2.arg6 = 0 → ∀ k,
          slotMappings (notificationServiceHandle s request' response').1 k =
            slotMappings (notificationServiceHandle s request response).1 k) := by
  have hs := h.inv
  have hstatus : ∀ request response,
      (notificationServiceHandle s request response).2.arg6 = 0 ↔
        (handleOpcode s request).1 = .success := fun _ _ => toInt8_and_eq_zero
  simp only [hstatus]
  refine ⟨handleOpcode_batchOutcome hs request, fun request' response' hr => ?_⟩
  exact ⟨⟨hr.symm.success hs, hr.success hs⟩, hr.slotMappings hs⟩

/-- Two mappings with the cookies `1` and `2` and the identifiers `0` and `1`. -/
def twoMappings : DirectMsgArgsEx :=
  { DirectMsgArgsEx.zero with arg5 := 2, arg6 := 2, arg7 := 0x100000000, arg8 := 0x200800000 }

/-- The same two, the second one first. -/
def twoMappingsSwapped : DirectMsgArgsEx :=
  { DirectMsgArgsEx.zero with arg5 := 2, arg6 := 2, arg7 := 0x200800000, arg8 := 0x100000000 }

/-- Both orders of two mappings are accepted, and store the same. -/
theorem notificationServiceHandle_batch_two :
    (notificationServiceHandle notificationServiceInit twoMappings .zero).2.arg6 = 0 ∧
      ∀ k, slotMappings
          (notificationServiceHandle notificationServiceInit twoMappingsSwapped .zero).1 k =
        slotMappings (notificationServiceHandle notificationServiceInit twoMappings .zero).1 k := by
  have hok : (notificationServiceHandle notificationServiceInit twoMappings .zero).2.arg6 = 0 := by
    decide +kernel
  have hperm : (requestMappings twoMappings).Perm (requestMappings twoMappingsSwapped) :=
    List.Perm.swap ..
  exact ⟨hok, ((notificationServiceHandle_batch (Machine.Reachable.refl ..) twoMappings .zero).2
    twoMappingsSwapped .zero ⟨rfl, rfl, rfl, rfl, hperm⟩).2 hok⟩

end Notification
end FfaFeature
