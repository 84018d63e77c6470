/-
# Mappings belong to who registered them

An entry carries the source of the `REGISTER` that made it.  `UNREGISTER` compares that
source with its own, `REGISTER` takes entries not in use only, and a slot in use is never
claimed again.  So an edit by one partition keeps the entries of every other
(`Edit.ownedKept`), and a run without requests from a partition leaves its mappings where
and as they were, whatever the requests ask for and however many of them are refused
(`owned_mappings_kept`).
-/

import FfaFeature.Notification.Isolation

namespace FfaFeature
namespace Notification

/-- The entries in use of `sourceId` are the same in both stores, and where their slot is
in use it stays so, under the same UUID. -/
def OwnedKept (sourceId : BitVec 16) (s s' : NotifStore) : Prop :=
  ∀ i j, (s.info i j).inUse → (s.info i j).sourceId = sourceId →
    s'.info i j = s.info i j ∧
      ((s.notificationServices i).inUse →
        (s'.notificationServices i).inUse ∧
          (s'.notificationServices i).serviceUuid = (s.notificationServices i).serviceUuid)

/-- Nothing changes. -/
theorem OwnedKept.refl (sourceId : BitVec 16) (s : NotifStore) : OwnedKept sourceId s s :=
  fun _ _ _ _ => ⟨rfl, fun hslot => ⟨hslot, rfl⟩⟩

/-- What is kept twice is kept. -/
theorem OwnedKept.trans {sourceId : BitVec 16} {s s' s'' : NotifStore}
    (h : OwnedKept sourceId s s') (h' : OwnedKept sourceId s' s'') :
    OwnedKept sourceId s s'' := by
  intro i j hin hsource
  obtain ⟨hinfo, hslot⟩ := h i j hin hsource
  obtain ⟨hinfo', hslot'⟩ := h' i j (hinfo ▸ hin) (hinfo ▸ hsource)
  refine ⟨hinfo'.trans hinfo, fun hused => ?_⟩
  obtain ⟨hused', huuid⟩ := hslot hused
  obtain ⟨hused'', huuid'⟩ := hslot' hused'
  exact ⟨hused'', huuid'.trans huuid⟩

/-- **An edit by one partition keeps the entries of every other.** -/
theorem Edit.ownedKept {i : Fin maxServices} {sourceId owner : BitVec 16} {uuid : Uuid}
    {s s' : NotifStore} (h : Edit i sourceId uuid s s') (hne : sourceId ≠ owner) :
    OwnedKept owner s s' := by
  intro i' j' hin hsource
  cases h with
  | register j m hg =>
    have hother : ¬(i' = i ∧ j' = j) := by
      rintro ⟨rfl, rfl⟩
      rw [hg.free] at hin
      cases hin
    obtain ⟨hslot, huuid⟩ := s.register_slot i i' j m sourceId
    refine ⟨?_, fun hused => ⟨hslot.trans hused, huuid⟩⟩
    rw [NotifStore.info_register, if_neg hother]
  | unregister j m hg =>
    have hother : ¬(i' = i ∧ j' = j) := by
      rintro ⟨rfl, rfl⟩
      exact hne (hg.source.symm.trans hsource)
    obtain ⟨hslot, huuid⟩ := s.unregister_slot i i' j m
    refine ⟨?_, fun hused => ⟨hslot.trans hused, huuid⟩⟩
    rw [NotifStore.info_unregister, if_neg hother]
  | claim hfree hnone =>
    refine ⟨s.info_claim i i' j' uuid, fun hused => ?_⟩
    have hother : i' ≠ i := by
      rintro rfl
      rw [hfree] at hused
      cases hused
    rw [NotifStore.claim_slot_ne hother]
    exact ⟨hused, rfl⟩

/-- Edits by others keep what is owned. -/
theorem Edits.ownedKept {i : Fin maxServices} {sourceId owner : BitVec 16} {uuid : Uuid}
    {s s' : NotifStore} (h : Edits i sourceId uuid s s') (hne : sourceId ≠ owner) :
    OwnedKept owner s s' := by
  induction h with
  | refl => exact OwnedKept.refl owner s
  | tail _ he ih => exact ih.trans (he.ownedKept hne)

/-- A request keeps the entries of all partitions but its own. -/
theorem handleOpcode_ownedKept (s : NotifStore) {request : DirectMsgArgsEx}
    {owner : BitVec 16} (hne : request.sourceId ≠ owner) :
    OwnedKept owner s (handleOpcode s request).2 := by
  obtain ⟨i, hedits⟩ := handleOpcode_edits s request
  exact hedits.ownedKept hne

/-- **Mappings belong to who registered them.**  From any store, so from every reachable
one, a run of requests none of which has the source `owner` leaves the mappings of `owner`
in their places, with their cookie, identifier, flag and source, and the slots in use that
hold them in use under their UUID. -/
theorem owned_mappings_kept (s : NotifStore) (owner : BitVec 16)
    (is : List (DirectMsgArgsEx × DirectMsgArgsEx)) (hother : ∀ m ∈ is, m.1.sourceId ≠ owner) :
    OwnedKept owner s (notifMachine.final s is) := by
  induction is using List.reverseRecOn with
  | nil => exact OwnedKept.refl owner s
  | append_singleton is m ih =>
    rw [Machine.final_concat]
    refine (ih fun m' hm' => hother m' (List.mem_append_left _ hm')).trans ?_
    exact handleOpcode_ownedKept _
      (hother m (List.mem_append_right _ (List.mem_singleton_self m)))

/-- The partition `7` tries to unregister the mapping of the partition `0`. -/
theorem owned_mappings_kept_intruder :
    ((notifMachine.final (notifMachine.final notificationServiceInit [(zeroUuidRequest, .zero)])
        [({ zeroUuidRequest with sourceId := 7, arg5 := 3 }, .zero)]).info 0 0).inUse := by
  have hkept := owned_mappings_kept
    (notifMachine.final notificationServiceInit [(zeroUuidRequest, .zero)]) 0
    [({ zeroUuidRequest with sourceId := 7, arg5 := 3 }, .zero)] (by
      intro m hm
      rw [List.mem_singleton.1 hm]
      show (7 : BitVec 16) ≠ 0
      decide)
  have hin : ((notifMachine.final notificationServiceInit [(zeroUuidRequest, .zero)]).info 0
      0).inUse := by decide +kernel
  rw [(hkept 0 0 hin (by decide +kernel)).1]
  exact hin

end Notification
end FfaFeature
