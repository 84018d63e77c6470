/-
# A message as a batch

`UpdateServiceInfo` decides one mapping at a time, against a table that the
earlier mappings of the message have changed.  `RegisterAccepts` and
`UnregisterAccepts` are order-free conditions on the whole message and the
table before it, and the loop succeeds exactly under them
(`applyMappings_success_iff`).

The temporaries look like a transaction, and the comment before the copy says
*if everything was successful*; but the copy stands inside the loop.  A message
whose first mapping is accepted and a later one refused (`SplitsBatch`) is
answered with an error and changes the store all the same; every other message
is applied as a whole or not at all (`notificationServiceHandle_atomic_iff`).
-/

import FfaFeature.Notification.Invariant
import Mathlib.Data.Fintype.Card
import Mathlib.Tactic.IntervalCases
import Mathlib.Tactic.Tauto

namespace FfaFeature
namespace Notification

/-- The entries of the slot `i` not in use. -/
def freeEntries (s : NotifStore) (i : Fin maxServices) : Finset (Fin maxMappings) :=
  Finset.univ.filter fun j => (s.info i j).inUse = false

/-- A free entry is one not in use. -/
@[simp] theorem mem_freeEntries {s : NotifStore} {i : Fin maxServices} {j : Fin maxMappings} :
    j ∈ freeEntries s i ↔ (s.info i j).inUse = false := by
  simp [freeEntries]

/-- The messages a `REGISTER` of the slot `i` accepts as a whole: distinct
cookies, none of them registered in the slot, masks that meet neither each other
nor the bitmap, and room for all. -/
structure RegisterAccepts (s : NotifStore) (i : Fin maxServices)
    (ms : List NotificationMapping) : Prop where
  cookies : ms.Pairwise fun a b => a.cookie ≠ b.cookie
  fresh : ∀ m ∈ ms, ∀ j, (s.info i j).inUse → (s.info i j).cookie ≠ m.cookie
  masks : ms.Pairwise fun a b => idMask a.mappingId &&& idMask b.mappingId = 0
  free : ∀ m ∈ ms, s.globalBitmask &&& idMask m.mappingId = 0
  room : ms.length ≤ (freeEntries s i).card

/-- The messages an `UNREGISTER` of the slot `i` accepts as a whole: distinct
cookies, each naming an entry with the same identifier and source. -/
structure UnregisterAccepts (s : NotifStore) (i : Fin maxServices) (sourceId : BitVec 16)
    (ms : List NotificationMapping) : Prop where
  cookies : ms.Pairwise fun a b => a.cookie ≠ b.cookie
  found : ∀ m ∈ ms, ∃ j, (s.info i j).inUse ∧ (s.info i j).cookie = m.cookie ∧
    (s.info i j).id = m.mappingId ∧ (s.info i j).sourceId = sourceId

/-- The messages the slot `i` accepts as a whole. -/
def Accepts (unregister : Bool) (s : NotifStore) (i : Fin maxServices) (sourceId : BitVec 16)
    (ms : List NotificationMapping) : Prop :=
  match unregister with
  | false => RegisterAccepts s i ms
  | true => UnregisterAccepts s i sourceId ms

/-- Two masks meet a third when one of them does. -/
theorem or_and_eq_zero {x y z : BitVec 64} :
    (x ||| y) &&& z = 0 ↔ x &&& z = 0 ∧ y &&& z = 0 := by
  rw [BitVec.and_or_distrib_right]
  exact BitVec.or_eq_zero_iff

/-- A registration takes a free entry. -/
theorem freeEntries_register {s : NotifStore} {i : Fin maxServices} {j : Fin maxMappings}
    (m : NotificationMapping) (sourceId : BitVec 16) :
    freeEntries (s.register i j m sourceId) i = (freeEntries s i).erase j := by
  ext k
  rw [mem_freeEntries, NotifStore.info_register, Finset.mem_erase, mem_freeEntries]
  by_cases hk : k = j
  · simp [hk, NotificationMapping.toInfo]
  · simp [hk]

/-- The first free entry, when there is one. -/
theorem exists_first_free {s : NotifStore} {i : Fin maxServices}
    (h : 0 < (freeEntries s i).card) :
    ∃ j, (s.info i j).inUse = false ∧ ∀ k, k < j → (s.info i k).inUse := by
  obtain ⟨j, hj⟩ := Finset.card_pos.1 h
  cases he : emptyIndex (s.notificationServices i) with
  | none =>
    have := emptyIndex_none.1 he j
    rw [mem_freeEntries.1 hj] at this
    cases this
  | some k => exact ⟨k, emptyIndex_some.1 he⟩

/-- **Accepting a message mapping by mapping, registering.** -/
theorem registerAccepts_cons {s : NotifStore} {i : Fin maxServices} {m : NotificationMapping}
    {ms : List NotificationMapping} (sourceId : BitVec 16) :
    RegisterAccepts s i (m :: ms) ↔
      ∃ j, RegisterGuard s i j m ∧ RegisterAccepts (s.register i j m sourceId) i ms := by
  have hbits (j : Fin maxMappings) : (s.register i j m sourceId).globalBitmask =
      s.globalBitmask ||| idMask m.mappingId := rfl
  constructor
  · intro h
    obtain ⟨hhead, htail⟩ := List.pairwise_cons.1 h.cookies
    obtain ⟨hmhead, hmtail⟩ := List.pairwise_cons.1 h.masks
    have hroom := h.room
    rw [List.length_cons] at hroom
    obtain ⟨j, hj, hfirst⟩ := exists_first_free (s := s) (i := i) (by omega)
    refine ⟨j, ⟨h.fresh m (List.mem_cons_self ..), h.free m (List.mem_cons_self ..), hj, hfirst⟩,
      htail, ?_, hmtail, ?_, ?_⟩
    · intro m' hm' k hk
      rw [NotifStore.info_register] at hk ⊢
      split_ifs at hk ⊢
      · exact hhead m' hm'
      · exact h.fresh m' (List.mem_cons_of_mem _ hm') k hk
    · intro m' hm'
      rw [hbits, or_and_eq_zero]
      exact ⟨h.free m' (List.mem_cons_of_mem _ hm'), hmhead m' hm'⟩
    · rw [freeEntries_register, Finset.card_erase_of_mem (mem_freeEntries.2 hj)]
      omega
  · rintro ⟨j, hg, h⟩
    have hself : (s.register i j m sourceId).info i j = m.toInfo sourceId := by
      rw [NotifStore.info_register, if_pos ⟨rfl, rfl⟩]
    have hroom := h.room
    have hmem := mem_freeEntries.2 hg.free
    have hpos := Finset.card_pos.2 ⟨j, hmem⟩
    rw [freeEntries_register, Finset.card_erase_of_mem hmem] at hroom
    refine ⟨List.pairwise_cons.2 ⟨fun m' hm' => ?_, h.cookies⟩, fun m' hm' k hk => ?_,
      List.pairwise_cons.2 ⟨fun m' hm' => ?_, h.masks⟩, fun m' hm' => ?_, ?_⟩
    · have := h.fresh m' hm' j (by rw [hself]; rfl)
      rwa [hself] at this
    · rcases List.mem_cons.1 hm' with rfl | hm'
      · exact hg.cookie_new k hk
      · have hne : k ≠ j := by
          rintro rfl
          rw [hg.free] at hk
          cases hk
        have := h.fresh m' hm' k
        rw [NotifStore.info_register, if_neg (fun hc => hne hc.2)] at this
        exact this hk
    · have := h.free m' hm'
      rw [hbits, or_and_eq_zero] at this
      exact this.2
    · rcases List.mem_cons.1 hm' with rfl | hm'
      · exact hg.mask_free
      · have := h.free m' hm'
        rw [hbits, or_and_eq_zero] at this
        exact this.1
    · rw [List.length_cons]
      omega

/-- **Accepting a message mapping by mapping, unregistering.**  The cookies of
the slot are distinct, so the entry a cookie names is the only one. -/
theorem unregisterAccepts_cons {s : NotifStore} (hs : StoreInv s) {i : Fin maxServices}
    {sourceId : BitVec 16} {m : NotificationMapping} {ms : List NotificationMapping} :
    UnregisterAccepts s i sourceId (m :: ms) ↔
      ∃ j, UnregisterGuard s i j sourceId m ∧
        UnregisterAccepts (s.unregister i j m) i sourceId ms := by
  constructor
  · intro h
    obtain ⟨hhead, htail⟩ := List.pairwise_cons.1 h.cookies
    obtain ⟨j, hj, hc, hid, hsrc⟩ := h.found m (List.mem_cons_self ..)
    refine ⟨j, ⟨hj, hc, hid, hsrc, fun k hk hin he => ?_⟩, htail, fun m' hm' => ?_⟩
    · exact absurd (hs.cookies i k j hin hj (he.trans hc.symm)) (ne_of_lt hk)
    · obtain ⟨k, hk, hck, hidk, hsrck⟩ := h.found m' (List.mem_cons_of_mem _ hm')
      have hne : ¬(i = i ∧ k = j) := by
        rintro ⟨-, rfl⟩
        exact hhead m' hm' (hc.symm.trans hck)
      refine ⟨k, ?_⟩
      rw [NotifStore.info_unregister, if_neg hne]
      exact ⟨hk, hck, hidk, hsrck⟩
  · rintro ⟨j, hg, h⟩
    -- an entry still in use after the clear is another one, and was there before
    have hback : ∀ k, ((s.unregister i j m).info i k).inUse →
        k ≠ j ∧ (s.unregister i j m).info i k = s.info i k := by
      intro k hk
      rw [NotifStore.info_unregister] at hk ⊢
      split_ifs at hk ⊢ with hkj
      · simp [NotifInfo.zero] at hk
      · exact ⟨fun he => hkj ⟨rfl, he⟩, rfl⟩
    refine ⟨List.pairwise_cons.2 ⟨fun m' hm' he => ?_, h.cookies⟩, fun m' hm' => ?_⟩
    · obtain ⟨k, hk, hck, -⟩ := h.found m' hm'
      obtain ⟨hne, hinfo⟩ := hback k hk
      rw [hinfo] at hk hck
      exact hne (hs.cookies i k j hk hg.inUse ((hck.trans he.symm).trans hg.cookie.symm))
    · rcases List.mem_cons.1 hm' with rfl | hm'
      · exact ⟨j, hg.inUse, hg.cookie, hg.id, hg.source⟩
      · obtain ⟨k, hk, hrest⟩ := h.found m' hm'
        have hinfo := (hback k hk).2
        rw [hinfo] at hk hrest
        exact ⟨k, hk, hrest⟩

/-- Accepting a message mapping by mapping: the first one is applied, and the
rest is accepted by the store that leaves. -/
theorem accepts_cons {s : NotifStore} (hs : StoreInv s) {unregister : Bool}
    {sourceId : BitVec 16} {i : Fin maxServices} {m : NotificationMapping}
    {ms : List NotificationMapping} :
    Accepts unregister s i sourceId (m :: ms) ↔
      ∃ s', applyMapping unregister sourceId i m s = .ok s' ∧
        Accepts unregister s' i sourceId ms := by
  cases unregister with
  | false =>
    refine (registerAccepts_cons sourceId).trans ⟨?_, ?_⟩
    · rintro ⟨j, hg, h⟩
      exact ⟨_, applyMapping_register.2 ⟨j, hg, rfl⟩, h⟩
    · rintro ⟨s', hok, h⟩
      obtain ⟨j, hg, rfl⟩ := applyMapping_register.1 hok
      exact ⟨j, hg, h⟩
  | true =>
    refine (unregisterAccepts_cons hs).trans ⟨?_, ?_⟩
    · rintro ⟨j, hg, h⟩
      exact ⟨_, applyMapping_unregister.2 ⟨j, hg, rfl⟩, h⟩
    · rintro ⟨s', hok, h⟩
      obtain ⟨j, hg, rfl⟩ := applyMapping_unregister.1 hok
      exact ⟨j, hg, h⟩

/-- No mappings are accepted. -/
theorem accepts_nil (unregister : Bool) (s : NotifStore) (i : Fin maxServices)
    (sourceId : BitVec 16) : Accepts unregister s i sourceId [] := by
  cases unregister with
  | false =>
    exact ⟨.nil, fun _ h => absurd h List.not_mem_nil, .nil,
      fun _ h => absurd h List.not_mem_nil, Nat.zero_le _⟩
  | true => exact ⟨.nil, fun _ h => absurd h List.not_mem_nil⟩

/-- A refusal is not called success. -/
theorem updateMapping_ne_success {unregister : Bool} {sourceId : BitVec 16}
    {m : NotificationMapping} {service : NotifService} {bitmask : BitVec 64} :
    updateMapping unregister sourceId m service bitmask ≠ .error .success := by
  intro h
  unfold updateMapping at h
  repeat' split at h
  all_goals cases h

/-- Neither is that of a mapping. -/
theorem applyMapping_error {unregister : Bool} {sourceId : BitVec 16} {i : Fin maxServices}
    {m : NotificationMapping} {s : NotifStore} {returnVal : NotificationStatus}
    (h : applyMapping unregister sourceId i m s = .error returnVal) : returnVal ≠ .success := by
  rintro rfl
  unfold applyMapping at h
  split at h
  · next he =>
    cases h
    exact updateMapping_ne_success he
  · cases h

/-- **The loop succeeds exactly on the messages accepted as a whole.** -/
theorem applyMappings_success_iff {s : NotifStore} (hs : StoreInv s) (unregister : Bool)
    (sourceId : BitVec 16) (i : Fin maxServices) (ms : List NotificationMapping) :
    (applyMappings unregister sourceId i ms s).1 = .success ↔
      Accepts unregister s i sourceId ms := by
  induction ms generalizing s with
  | nil => exact ⟨fun _ => accepts_nil .., fun _ => rfl⟩
  | cons m ms ih =>
    rw [applyMappings, accepts_cons hs]
    cases h : applyMapping unregister sourceId i m s with
    | error returnVal => simp [applyMapping_error h]
    | ok s' => simpa using ih (storeInv_edit (applyMapping_edit 0 h) hs)

/-! ### What a refused message leaves behind -/

/-- Registering keeps the entries in use as they are. -/
theorem applyMappings_register_keeps (sourceId : BitVec 16) (i i' : Fin maxServices)
    (j : Fin maxMappings) (ms : List NotificationMapping) (s : NotifStore)
    (hj : (s.info i' j).inUse) :
    (applyMappings false sourceId i ms s).2.info i' j = s.info i' j := by
  induction ms generalizing s with
  | nil => rfl
  | cons m ms ih =>
    rw [applyMappings]
    cases h : applyMapping false sourceId i m s with
    | error returnVal => rfl
    | ok s' =>
      obtain ⟨k, hg, rfl⟩ := applyMapping_register.1 h
      have hne : ¬(i' = i ∧ j = k) := by
        rintro ⟨rfl, rfl⟩
        rw [hg.free] at hj
        cases hj
      have hinfo : (s.register i k m sourceId).info i' j = s.info i' j := by
        rw [NotifStore.info_register, if_neg hne]
      exact (ih _ (hinfo ▸ hj)).trans hinfo

/-- Unregistering keeps the entries not in use as they are, when they are zero. -/
theorem applyMappings_unregister_keeps (sourceId : BitVec 16) (i i' : Fin maxServices)
    (j : Fin maxMappings) (ms : List NotificationMapping) (s : NotifStore)
    (hj : s.info i' j = .zero) :
    (applyMappings true sourceId i ms s).2.info i' j = .zero := by
  induction ms generalizing s with
  | nil => exact hj
  | cons m ms ih =>
    rw [applyMappings]
    cases h : applyMapping true sourceId i m s with
    | error returnVal => exact hj
    | ok s' =>
      obtain ⟨k, -, rfl⟩ := applyMapping_unregister.1 h
      refine ih _ ?_
      rw [NotifStore.info_unregister, hj, ite_self]

/-- **An accepted first mapping leaves a trace**, whatever becomes of the rest. -/
theorem applyMappings_ne {unregister : Bool} {sourceId : BitVec 16} {i : Fin maxServices}
    {m : NotificationMapping} {s s' : NotifStore} (ms : List NotificationMapping)
    (h : applyMapping unregister sourceId i m s = .ok s') :
    (applyMappings unregister sourceId i ms s').2 ≠ s := by
  intro heq
  cases unregister with
  | false =>
    obtain ⟨j, hg, rfl⟩ := applyMapping_register.1 h
    have hself : (s.register i j m sourceId).info i j = m.toInfo sourceId := by
      rw [NotifStore.info_register, if_pos ⟨rfl, rfl⟩]
    have hkeep := applyMappings_register_keeps sourceId i i j ms _
      (show ((s.register i j m sourceId).info i j).inUse by rw [hself]; rfl)
    have hfree := hg.free
    rw [heq, hself] at hkeep
    rw [hkeep] at hfree
    cases hfree
  | true =>
    obtain ⟨j, hg, rfl⟩ := applyMapping_unregister.1 h
    have hkeep := applyMappings_unregister_keeps sourceId i i j ms (s.unregister i j m)
      (by rw [NotifStore.info_unregister, if_pos ⟨rfl, rfl⟩])
    have hin := hg.inUse
    rw [heq] at hkeep
    rw [hkeep] at hin
    cases hin

/-- The loop leaves the store alone exactly when it refuses the first mapping. -/
theorem applyMappings_unchanged_iff {s : NotifStore} (hs : StoreInv s) (unregister : Bool)
    (sourceId : BitVec 16) (i : Fin maxServices) (ms : List NotificationMapping) (hne : ms ≠ []) :
    (applyMappings unregister sourceId i ms s).2 = s ↔
      ¬ Accepts unregister s i sourceId (ms.take 1) := by
  obtain ⟨m, ms, rfl⟩ := List.exists_cons_of_ne_nil hne
  rw [List.take_succ_cons, List.take_zero, accepts_cons hs, applyMappings]
  cases h : applyMapping unregister sourceId i m s with
  | error returnVal => simp
  | ok s' => simpa [applyMappings_ne ms h] using accepts_nil ..

/-- The slot a `REGISTER` or `UNREGISTER` works on, and which of the two it is. -/
def requestSlot (s : NotifStore) (request : DirectMsgArgsEx) : Option (Bool × Fin maxServices) :=
  if opcode request = opcodeRegister then
    (registerSlot s (requestUuid request)).map (false, ·)
  else if opcode request = opcodeUnregister then
    (locateService s (requestUuid request) false).map (true, ·)
  else none

/-- The request reaches the loop with a first mapping that is accepted and the
rest of the message not. -/
def SplitsBatch (s : NotifStore) (request : DirectMsgArgsEx) : Prop :=
  ∃ unregister i, requestSlot s request = some (unregister, i) ∧
    1 ≤ reqNumMappings request ∧ reqNumMappings request ≤ 7 ∧
    Accepts unregister s i request.sourceId ((requestMappings request).take 1) ∧
    ¬ Accepts unregister s i request.sourceId (requestMappings request)

/-- There are four opcodes. -/
theorem opcode_lt (request : DirectMsgArgsEx) : opcode request < 4 := by
  rw [opcode, BitVec.toNat_and]
  exact Nat.lt_succ_of_le Nat.and_le_right

/-- **What a request does, by the slot it works on.** -/
theorem handleOpcode_eq (s : NotifStore) (request : DirectMsgArgsEx) :
    (requestSlot s request = none ∧ (handleOpcode s request).1 ≠ .success ∧
        (handleOpcode s request).2 = s) ∨
      (∃ i, requestSlot s request = some (false, i) ∧
        handleOpcode s request = registerAt request i s) ∨
      (∃ i, requestSlot s request = some (true, i) ∧
        handleOpcode s request = updateServiceInfo true request i s) := by
  have hop := opcode_lt request
  unfold requestSlot handleOpcode registerHandler unregisterHandler opcodeRegister
    opcodeUnregister
  interval_cases opcode request
  · exact .inl ⟨rfl, by simp, rfl⟩
  · exact .inl ⟨rfl, by simp, rfl⟩
  · cases registerSlot s (requestUuid request) with
    | none => exact .inl ⟨rfl, by simp, rfl⟩
    | some i => exact .inr (.inl ⟨i, rfl, rfl⟩)
  · cases locateService s (requestUuid request) false with
    | none => exact .inl ⟨rfl, by simp, rfl⟩
    | some i => exact .inr (.inr ⟨i, rfl, rfl⟩)

/-- A registration that fails leaves what the loop leaves: the claim comes with
success only. -/
theorem registerAt_status (request : DirectMsgArgsEx) (i : Fin maxServices) (s : NotifStore) :
    (registerAt request i s).1 = (updateServiceInfo false request i s).1 ∧
      ((registerAt request i s).1 ≠ .success →
        (registerAt request i s).2 = (updateServiceInfo false request i s).2) := by
  unfold registerAt
  split
  · next s' hs' => split_ifs <;> simp [hs']
  · next hr => simp [hr]

/-- A request that counts one has a mapping. -/
theorem requestMappings_ne_nil {request : DirectMsgArgsEx} (h : 1 ≤ reqNumMappings request) :
    requestMappings request ≠ [] := by
  intro hnil
  have hlength := congrArg List.length hnil
  simp only [requestMappings, reqMappings, List.length_take, List.length_map,
    List.length_cons, List.length_nil] at hlength
  omega

/-- The update of one slot is atomic exactly when the message does not split. -/
theorem updateServiceInfo_atomic_iff {s : NotifStore} (hs : StoreInv s) (unregister : Bool)
    (request : DirectMsgArgsEx) (i : Fin maxServices) :
    ((updateServiceInfo unregister request i s).1 ≠ .success →
        (updateServiceInfo unregister request i s).2 = s) ↔
      ¬(1 ≤ reqNumMappings request ∧ reqNumMappings request ≤ 7 ∧
        Accepts unregister s i request.sourceId ((requestMappings request).take 1) ∧
        ¬ Accepts unregister s i request.sourceId (requestMappings request)) := by
  rw [updateServiceInfo_eq]
  by_cases hn : reqNumMappings request < 1 ∨ 7 < reqNumMappings request
  · rw [if_pos hn]
    refine iff_of_true (fun _ => rfl) ?_
    rintro ⟨h₁, h₂, -⟩
    omega
  · have hne := @requestMappings_ne_nil request (by omega)
    rw [if_neg hn]
    rw [ne_eq, applyMappings_success_iff hs, applyMappings_unchanged_iff hs _ _ _ _ hne]
    have h₁ : 1 ≤ reqNumMappings request := by omega
    have h₂ : reqNumMappings request ≤ 7 := by omega
    simp only [h₁, h₂, true_and, not_and, not_not]
    tauto

/-- The status byte is zero on success only. -/
theorem toInt8_and_eq_zero {status : NotificationStatus} :
    status.toInt8.setWidth 64 &&& (0xFF : BitVec 64) = 0 ↔ status = .success := by
  cases status <;> decide

/-- **A refused message leaves no trace exactly when it does not split.**  The
status is in `arg6` of the response, `0` for success. -/
theorem notificationServiceHandle_atomic_iff {s : NotifStore} (h : Reachable s)
    (request response : DirectMsgArgsEx) :
    ((notificationServiceHandle s request response).2.arg6 ≠ 0 →
        (notificationServiceHandle s request response).1 = s) ↔
      ¬ SplitsBatch s request := by
  have hs := h.inv
  show (((handleOpcode s request).1.toInt8.setWidth 64 &&& (0xFF : BitVec 64)) ≠ 0 →
    (handleOpcode s request).2 = s) ↔ _
  rw [ne_eq, toInt8_and_eq_zero]
  unfold SplitsBatch
  rcases handleOpcode_eq s request with ⟨hslot, -, hst⟩ | ⟨i, hslot, he⟩ | ⟨i, hslot, he⟩
  · rw [hslot]
    exact iff_of_true (fun _ => hst) (by simp)
  · obtain ⟨hst, hpost⟩ := registerAt_status request i s
    have hiff := updateServiceInfo_atomic_iff hs false request i
    rw [hslot, he, hst]
    rw [hst] at hpost
    simp only [Option.some.injEq, Prod.mk.injEq]
    constructor
    · rintro hat ⟨_, _, ⟨rfl, rfl⟩, hrest⟩
      exact hiff.1 (fun hne => (hpost hne).symm.trans (hat hne)) hrest
    · exact fun hno hne => (hpost hne).trans
        (hiff.2 (fun hrest => hno ⟨_, _, ⟨rfl, rfl⟩, hrest⟩) hne)
  · have hiff := updateServiceInfo_atomic_iff hs true request i
    rw [hslot, he]
    simp only [Option.some.injEq, Prod.mk.injEq]
    constructor
    · rintro hat ⟨_, _, ⟨rfl, rfl⟩, hrest⟩
      exact hiff.1 hat hrest
    · exact fun hno => hiff.2 fun hrest => hno ⟨_, _, ⟨rfl, rfl⟩, hrest⟩

/-- A registration of the cookies `1` and `2` to the identifiers `0` and `1`. -/
def twoCookiesRequest : DirectMsgArgsEx :=
  { DirectMsgArgsEx.zero with arg5 := 2, arg6 := 2, arg7 := 0x100000000, arg8 := 0x200800000 }

/-- Two more mappings for the same service, of the cookies `1` and `3` to the identifiers `2`
and `3`: the first of the cookies is taken. -/
def takenCookieRequest : DirectMsgArgsEx :=
  { DirectMsgArgsEx.zero with arg5 := 2, arg6 := 2, arg7 := 0x101000000, arg8 := 0x301800000 }

/-- The store once two cookies are registered. -/
def twoCookies : NotifStore :=
  notifMachine.final notificationServiceInit [(twoCookiesRequest, .zero)]

/-- A message of two whose first mapping is refused leaves the two mappings of the store. -/
theorem notificationServiceHandle_atomic_taken :
    (twoCookies.info 0 0).inUse ∧ (twoCookies.info 0 1).inUse ∧
      (notificationServiceHandle twoCookies takenCookieRequest .zero).2.arg6 ≠ 0 ∧
      (notificationServiceHandle twoCookies takenCookieRequest .zero).1 = twoCookies := by
  have hne : (notificationServiceHandle twoCookies takenCookieRequest .zero).2.arg6 ≠ 0 := by
    decide +kernel
  refine ⟨by decide +kernel, by decide +kernel, hne,
    (notificationServiceHandle_atomic_iff ⟨_, rfl⟩ _ _).2 ?_ hne⟩
  rintro ⟨unregister, i, hslot, -, -, haccepts, -⟩
  have hfirst : requestSlot twoCookies takenCookieRequest = some (false, 0) := by decide +kernel
  obtain ⟨rfl, rfl⟩ := Prod.mk.inj (Option.some.inj (hfirst.symm.trans hslot))
  have hfresh := haccepts.fresh ⟨0, 2, 1⟩ (by decide +kernel) 0 (by decide +kernel)
  exact hfresh (by decide +kernel)

/-- Two mappings with one cookie, `1`, and the identifiers `0` and `1`. -/
def sameCookieRequest : DirectMsgArgsEx :=
  { DirectMsgArgsEx.zero with arg5 := 2, arg6 := 2, arg7 := 0x100000000, arg8 := 0x100800000 }

/-- The second mapping of this message is refused and the first one stays. -/
theorem notificationServiceHandle_splits :
    Reachable notificationServiceInit ∧ opcode sameCookieRequest = opcodeRegister ∧
      (notificationServiceHandle notificationServiceInit sameCookieRequest .zero).2.arg6 ≠ 0 ∧
      (notificationServiceHandle notificationServiceInit sameCookieRequest .zero).1 ≠
        notificationServiceInit := by
  refine ⟨Machine.Reachable.refl .., by decide, by decide +kernel, fun h => ?_⟩
  have hmask : (notificationServiceHandle notificationServiceInit sameCookieRequest
    .zero).1.globalBitmask = notificationServiceInit.globalBitmask := by rw [h]
  revert hmask
  decide +kernel

end Notification
end FfaFeature
