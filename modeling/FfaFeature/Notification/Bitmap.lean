/-
# What the global bitmap means

`GlobalBitmask` is meant to be the set of the identifiers handed out.  The code
computes an identifier's bit as `1 << MappingId`, with a 32-bit `1`: the
identifiers `32` to `511` share the bits of the first thirty-two, and `31` takes
every bit from `31` up.  So the bitmap is exact (`BitmapExact`) in a state
exactly when no identifier above `30` is in use (`bitmapExact_iff`), and exact
along a run exactly when no request of the run gets an identifier above `30`
accepted (`bitmapExact_run_iff`).
-/

import FfaFeature.Notification.Batch

namespace FfaFeature
namespace Notification

/-- The bitmap is the set of the identifiers in use, which are distinct and fit
in it. -/
structure BitmapExact (s : NotifStore) : Prop where
  bitmask : ∀ b, s.globalBitmask.getLsbD b = true ↔
    ∃ i j, (s.info i j).inUse ∧ (s.info i j).id.toNat = b
  distinct : ∀ i j i' j', (s.info i j).inUse → (s.info i' j').inUse →
    (s.info i j).id = (s.info i' j').id → i = i' ∧ j = j'
  fits : ∀ i j, (s.info i j).inUse → (s.info i j).id.toNat < 64

/-- No identifier in use is above `30`. -/
def IdsSmall (s : NotifStore) : Prop :=
  ∀ i j, (s.info i j).inUse → (s.info i j).id.toNat ≤ 30

/-- **The bitmap is exact exactly when the identifiers in use are at most `30`.**
A larger one sets a bit that only an entry with its own residue could account
for, and there is no other. -/
theorem bitmapExact_iff {s : NotifStore} (hs : StoreInv s) : BitmapExact s ↔ IdsSmall s := by
  constructor
  · intro h i j hin
    by_contra hlarge
    have hfit := h.fits i j hin
    have key : ∀ b, (idMask (s.info i j).id).getLsbD b = true →
        b % 32 = (s.info i j).id.toNat % 32 → b = (s.info i j).id.toNat := by
      intro b hb hres
      obtain ⟨i', j', hin', hid'⟩ := (h.bitmask b).1 ((hs.bitmask b).2 ⟨i, j, hin, hb⟩)
      obtain ⟨rfl, rfl⟩ := hs.residues i' j' i j hin' hin (by rw [hid', hres])
      exact hid'.symm
    simp only [getLsbD_idMask, decide_eq_true_iff] at key
    have h63 := key 63
    have hlow := key ((s.info i j).id.toNat % 32)
    omega
  · intro h
    refine ⟨fun b => ?_, fun i j i' j' hin hin' he => ?_, fun i j hin => ?_⟩
    · rw [hs.bitmask b]
      refine exists_congr fun i => exists_congr fun j => and_congr_right fun hin => ?_
      have hid := h i j hin
      rw [getLsbD_idMask, decide_eq_true_iff]
      omega
    · exact hs.residues i j i' j' hin hin' (by rw [he])
    · have := h i j hin
      omega

/-! ### Where the entries of a store come from -/

/-- **Accepted mappings are stored**: those of every accepted prefix, whatever
becomes of the rest of the message. -/
theorem applyMappings_register_stores {sourceId : BitVec 16} {i : Fin maxServices}
    {ms : List NotificationMapping} {s : NotifStore} (hs : StoreInv s) {k : ℕ}
    (hacc : Accepts false s i sourceId (ms.take k)) {m : NotificationMapping}
    (hm : m ∈ ms.take k) :
    ∃ j, (applyMappings false sourceId i ms s).2.info i j = m.toInfo sourceId := by
  induction ms generalizing s k with
  | nil => simp at hm
  | cons m' ms ih =>
    cases k with
    | zero => simp at hm
    | succ k =>
      rw [List.take_succ_cons] at hacc hm
      obtain ⟨s', hok, hacc⟩ := (accepts_cons hs).1 hacc
      rw [applyMappings, hok]
      rcases List.mem_cons.1 hm with rfl | hm
      · obtain ⟨j, -, rfl⟩ := applyMapping_register.1 hok
        have hself : (s.register i j m sourceId).info i j = m.toInfo sourceId := by
          rw [NotifStore.info_register, if_pos ⟨rfl, rfl⟩]
        refine ⟨j, (applyMappings_register_keeps sourceId i i j ms _ ?_).trans hself⟩
        rw [hself]
        rfl
      · exact ih (storeInv_edit (applyMapping_edit 0 hok) hs) hacc hm

/-- **And nothing else is**: an entry in use was in use before, or holds a
mapping of an accepted prefix. -/
theorem applyMappings_register_origin {sourceId : BitVec 16} {i i' : Fin maxServices}
    {j : Fin maxMappings} {ms : List NotificationMapping} {s : NotifStore} (hs : StoreInv s)
    (hin : ((applyMappings false sourceId i ms s).2.info i' j).inUse) :
    (applyMappings false sourceId i ms s).2.info i' j = s.info i' j ∨
      ∃ k, Accepts false s i sourceId (ms.take k) ∧ ∃ m ∈ ms.take k,
        (applyMappings false sourceId i ms s).2.info i' j = m.toInfo sourceId := by
  induction ms generalizing s with
  | nil => exact .inl rfl
  | cons m ms ih =>
    rw [applyMappings] at hin ⊢
    cases hok : applyMapping false sourceId i m s with
    | error returnVal => exact .inl rfl
    | ok s' =>
      rw [hok] at hin
      rcases ih (storeInv_edit (applyMapping_edit 0 hok) hs) hin with he | ⟨k, hacc, m', hm', he⟩
      · obtain ⟨j', -, rfl⟩ := applyMapping_register.1 hok
        have hinfo := s.info_register i i' j' j m sourceId
        split_ifs at hinfo with hself
        · refine .inr ⟨1, ?_, m, by simp, he.trans hinfo⟩
          rw [List.take_succ_cons, List.take_zero]
          exact (accepts_cons hs).2 ⟨_, hok, accepts_nil ..⟩
        · exact .inl (he.trans hinfo)
      · refine .inr ⟨k + 1, ?_, m', ?_, he⟩
        · rw [List.take_succ_cons]
          exact (accepts_cons hs).2 ⟨_, hok, hacc⟩
        · rw [List.take_succ_cons]
          exact List.mem_cons_of_mem _ hm'

/-- Unregistering stores nothing. -/
theorem applyMappings_unregister_origin {sourceId : BitVec 16} {i i' : Fin maxServices}
    {j : Fin maxMappings} {ms : List NotificationMapping} {s : NotifStore}
    (hin : ((applyMappings true sourceId i ms s).2.info i' j).inUse) :
    (applyMappings true sourceId i ms s).2.info i' j = s.info i' j := by
  induction ms generalizing s with
  | nil => rfl
  | cons m ms ih =>
    rw [applyMappings] at hin ⊢
    cases hok : applyMapping true sourceId i m s with
    | error returnVal => rfl
    | ok s' =>
      rw [hok] at hin
      obtain ⟨j', -, rfl⟩ := applyMapping_unregister.1 hok
      have he := ih hin
      have hin' : ((s.unregister i j' m).info i' j).inUse := he ▸ hin
      have hinfo := s.info_unregister i i' j' j m
      split_ifs at hinfo
      · rw [hinfo] at hin'
        cases hin'
      · exact he.trans hinfo

/-- A registration's entries are the ones its loop leaves: a claim changes none. -/
theorem registerAt_info (request : DirectMsgArgsEx) (i i' : Fin maxServices)
    (j : Fin maxMappings) (s : NotifStore) :
    (registerAt request i s).2.info i' j = (updateServiceInfo false request i s).2.info i' j := by
  unfold registerAt
  split
  · next s' hs' =>
    split_ifs
    · rw [hs']
    · rw [hs']
      exact s'.info_claim i i' j (requestUuid request)
  · next hr => rw [hr]

/-! ### Along a run -/

/-- The request gets no identifier above `30` accepted: no prefix of its message
that the slot accepts holds one. -/
def SmallIds (s : NotifStore) (request : DirectMsgArgsEx) : Prop :=
  ∀ i, requestSlot s request = some (false, i) →
    1 ≤ reqNumMappings request → reqNumMappings request ≤ 7 →
    ∀ k, Accepts false s i request.sourceId ((requestMappings request).take k) →
      ∀ m ∈ (requestMappings request).take k, m.id.toNat ≤ 30

/-- **One request keeps the identifiers small exactly when it meets
`SmallIds`.** -/
theorem handleOpcode_idsSmall_iff {s : NotifStore} (hs : StoreInv s) (hsmall : IdsSmall s)
    (request : DirectMsgArgsEx) :
    IdsSmall (handleOpcode s request).2 ↔ SmallIds s request := by
  rcases handleOpcode_eq s request with ⟨hslot, -, hst⟩ | ⟨i, hslot, he⟩ | ⟨i, hslot, he⟩
  · rw [hst]
    refine iff_of_true hsmall fun i hi => ?_
    rw [hslot] at hi
    cases hi
  · have hinfo := fun i' j => registerAt_info request i i' j s
    rw [updateServiceInfo_eq] at hinfo
    rw [he, IdsSmall, SmallIds, hslot]
    by_cases hn : reqNumMappings request < 1 ∨ 7 < reqNumMappings request
    · rw [if_pos hn] at hinfo
      simp only [hinfo]
      refine iff_of_true hsmall fun _ _ _ _ => by omega
    · rw [if_neg hn] at hinfo
      simp only [hinfo]
      constructor
      · rintro h i' hi' - - k hacc m hm
        obtain ⟨-, rfl⟩ := Prod.mk.injEq .. ▸ Option.some.inj hi'
        obtain ⟨j, hj⟩ := applyMappings_register_stores hs hacc hm
        have := h i j (by rw [hj]; rfl)
        rw [hj] at this
        rwa [← m.mappingId_toNat]
      · intro h i' j hin
        rcases applyMappings_register_origin hs hin with hold | ⟨k, hacc, m, hm, hnew⟩
        · rw [hold] at hin ⊢
          exact hsmall i' j hin
        · rw [hnew]
          have := h i rfl (by omega) (by omega) k hacc m hm
          rwa [← m.mappingId_toNat] at this
  · rw [he, updateServiceInfo_eq]
    refine iff_of_true (fun i' j hin => ?_) fun i' hi' => ?_
    · split_ifs at hin ⊢
      · exact hsmall i' j hin
      · have hold := applyMappings_unregister_origin hin
        rw [hold] at hin ⊢
        exact hsmall i' j hin
    · rw [hslot] at hi'
      cases hi'

/-- **The bitmap is exact along a run exactly when every request of the run meets
`SmallIds`.** -/
theorem bitmapExact_run_iff (is : List (DirectMsgArgsEx × DirectMsgArgsEx)) :
    (∀ k, BitmapExact (notifMachine.final notificationServiceInit (is.take k))) ↔
      ∀ e ∈ notifMachine.history notificationServiceInit is, SmallIds e.pre e.input.1 := by
  have hinv (is : List (DirectMsgArgsEx × DirectMsgArgsEx)) :
      StoreInv (notifMachine.final notificationServiceInit is) :=
    Reachable.inv ⟨is, rfl⟩
  have hstart : IdsSmall notificationServiceInit := by
    intro i j hin
    simp [notificationServiceInit, NotifStore.info, NotifService.zero, NotifInfo.zero] at hin
  simp only [fun k => bitmapExact_iff (hinv (is.take k))]
  exact @Machine.final_take_iff _ _ _ notifMachine IdsSmall (fun s m => SmallIds s m.1) _ hstart
    (fun is m hsmall => handleOpcode_idsSmall_iff (hinv is) hsmall m.1) is

/-- One mapping, of the cookie `1` to the identifier `64`. -/
def largeIdRequest : DirectMsgArgsEx :=
  { DirectMsgArgsEx.zero with arg5 := 2, arg6 := 1, arg7 := 0x120000000 }

/-- The identifier `64` is accepted, and the bit it sets is bit `0`. -/
theorem bitmapExact_large_id :
    ∃ s, Reachable s ∧ s.globalBitmask = 1 ∧ (s.info 0 0).inUse ∧
      (s.info 0 0).id.toNat = 64 ∧ ¬ BitmapExact s := by
  refine ⟨notifMachine.final notificationServiceInit [(largeIdRequest, .zero)], ⟨_, rfl⟩,
    by decide +kernel, by decide +kernel, by decide +kernel, fun h => ?_⟩
  have hfit := h.fits 0 0 (by decide +kernel)
  revert hfit
  decide +kernel

end Notification
end FfaFeature
