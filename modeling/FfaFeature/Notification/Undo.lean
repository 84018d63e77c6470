/-
# Unregistering undoes registering

A partition that takes back what it registered sends the message again with the opcode
`UNREGISTER`.  The second message finds the slot of the first by its UUID, and the entries by
their cookies, in whatever order it names them; what it clears are the zero entries the first
one filled (`Gains.undone`).  The bitmap is the union of the masks of the entries in use, so it
is restored with them (`StoreInv.globalBitmask_eq`).

A slot the first message claimed stays in use, under its UUID: only the entries and the bitmap
go back (`notificationServiceHandle_undo`).
-/

import FfaFeature.Notification.Outcome

namespace FfaFeature
namespace Notification

/-- `request'` is `request` sent again to unregister, its mappings in any order. -/
structure Undoes (request request' : DirectMsgArgsEx) : Prop where
  sourceId : request'.sourceId = request.sourceId
  uuid : requestUuid request' = requestUuid request
  opcode : opcode request' = opcodeUnregister
  count : reqNumMappings request' = reqNumMappings request
  mappings : (requestMappings request).Perm (requestMappings request')

/-- The same words with another opcode in `Arg5` are such a request. -/
theorem undoes_arg5 (request : DirectMsgArgsEx) {arg5 : BitVec 64} (h : arg5 &&& 3 = 3) :
    Undoes request { request with arg5 := arg5 } where
  sourceId := rfl
  uuid := rfl
  opcode := by
    unfold Notification.opcode
    dsimp only
    rw [h]
    rfl
  count := rfl
  mappings := .refl _

/-! ### The entries and the bitmap -/

/-- **The entries determine the bitmap.** -/
theorem StoreInv.globalBitmask_eq {s s' : NotifStore} (hs : StoreInv s) (hs' : StoreInv s')
    (hinfo : ∀ i j, s'.info i j = s.info i j) : s'.globalBitmask = s.globalBitmask := by
  refine BitVec.eq_of_getLsbD_eq fun b _ => Bool.eq_iff_iff.2 ?_
  rw [hs'.bitmask b, hs.bitmask b]
  simp only [hinfo]

/-- The entry of a mapping that both stores hold has one place. -/
theorem StoreInv.place_eq {s : NotifStore} (hs : StoreInv s) {i : Fin maxServices}
    {j k : Fin maxMappings} (hj : (s.info i j).inUse) (h : s.info i k = s.info i j) : k = j :=
  hs.cookies i k j (h ▸ hj) hj (by rw [h])

/-- **What was gained and lost again was never there.**  Entries are gained in places that were
not in use, so zero, and losing them leaves zero. -/
theorem Gains.undone {s s' s'' : NotifStore} (hs : StoreInv s) (hs' : StoreInv s')
    (hs'' : StoreInv s'') {i : Fin maxServices} {infos : List NotifInfo}
    {cookies : List (BitVec 32)} (hgains : Gains s s' i infos) (hloses : Loses s' s'' i cookies)
    (hcookies : ∀ info ∈ infos, info.cookie ∈ cookies)
    (hfresh : ∀ j, (s.info i j).inUse → (s.info i j).cookie ∉ cookies) (j : Fin maxMappings) :
    s''.info i j = s.info i j := by
  by_cases hin : (s.info i j).inUse
  · -- an old entry is kept by both messages
    have hkept := hgains.kept j hin
    have hmem : s'.info i j ∈ slotMappings s'' i := by
      rw [hloses.entries]
      refine ⟨⟨j, hkept ▸ hin, rfl⟩, ?_⟩
      rw [hkept]
      exact hfresh j hin
    obtain ⟨k, hk, he⟩ := hmem
    have hback := hloses.kept k hk
    obtain rfl := hs'.place_eq (hkept ▸ hin) (hback.symm.trans he)
    exact hback.trans hkept
  · -- an entry left by the second message is an old one
    have hfree : ¬ (s''.info i j).inUse := by
      intro hin''
      have hback := hloses.kept j hin''
      have hmem : s''.info i j ∈ slotMappings s'' i := ⟨j, hin'', rfl⟩
      rw [hloses.entries] at hmem
      obtain ⟨hmem', hnot⟩ := hmem
      rw [hgains.entries] at hmem'
      rcases hmem' with ⟨k, hk, he⟩ | hnew
      · have hkept := hgains.kept k hk
        obtain rfl := hs'.place_eq (hback ▸ hin'') (hkept.trans (he.trans hback))
        exact hin hk
      · exact hnot (hcookies _ hnew)
    rw [hs.cleared i j (by simpa using hin), hs''.cleared i j (by simpa using hfree)]

/-! ### The second message is accepted -/

/-- After a registration its slot matches its UUID. -/
theorem registerAt_matches {s : NotifStore} {request : DirectMsgArgsEx} {i : Fin maxServices}
    (hslot : registerSlot s (requestUuid request) = some i)
    (hok : (registerAt request i s).1 = .success) :
    Matches (registerAt request i s).2 (requestUuid request) i := by
  obtain ⟨hused, huuid⟩ := updateServiceInfo_slot false request i i s
  unfold registerAt at hok ⊢
  split at hok
  · next s' hs' =>
    rw [hs'] at hused huuid
    dsimp only at hused huuid ⊢
    split_ifs with hin
    · rcases registerSlot_some hslot with hm | ⟨hfree, -⟩
      · refine ⟨hin, ?_⟩
        rw [huuid]
        exact hm.2
      · rw [hused, hfree] at hin
        cases hin
    · refine matches_claim.2 ?_
      rw [if_pos rfl]
      simp [equalMem]
  · next hne _ => exact absurd hok hne

/-- The mappings gained are those an `UNREGISTER` of the same message looks for. -/
theorem RegisterAccepts.unregisterAccepts {s s' : NotifStore} {i : Fin maxServices}
    {sourceId : BitVec 16} {ms : List NotificationMapping} (h : RegisterAccepts s i ms)
    (hgains : Gains s s' i (ms.map (·.toInfo sourceId))) :
    UnregisterAccepts s' i sourceId ms where
  cookies := h.cookies
  found m hm := by
    have hmem : m.toInfo sourceId ∈ slotMappings s' i := by
      rw [hgains.entries]
      exact .inr (List.mem_map.2 ⟨m, hm, rfl⟩)
    obtain ⟨j, hj, he⟩ := hmem
    exact ⟨j, hj, by rw [he]; rfl, by rw [he]; rfl, by rw [he]; rfl⟩

/-- A successful `REGISTER`: its slot, what the slot gained, and what it accepted. -/
theorem handleOpcode_register_success {s : NotifStore} (hs : StoreInv s)
    {request : DirectMsgArgsEx} (hop : opcode request = opcodeRegister)
    (hok : (handleOpcode s request).1 = .success) :
    ∃ i, locateService (handleOpcode s request).2 (requestUuid request) false = some i ∧
      RegisterAccepts s i (requestMappings request) ∧
      Gains s (handleOpcode s request).2 i
        ((requestMappings request).map (·.toInfo request.sourceId)) := by
  have hout := handleOpcode_batchOutcome hs request
  obtain ⟨-, -, i, hslot, hacc⟩ := (hout.register hop).1 hok
  have hgains := hout.gains hop hok i hslot
  refine ⟨i, (storeInv_handleOpcode hs request).locateService_eq ?_, hacc, hgains⟩
  have he : handleOpcode s request = registerAt request i s := by
    unfold handleOpcode
    rw [hop]
    show registerHandler s request = _
    unfold registerHandler
    rw [hslot]
  rw [he] at hok ⊢
  exact registerAt_matches hslot hok

/-! ### The two messages -/

/-- **A `REGISTER` and its `UNREGISTER`**, on any store of the representation invariant. -/
theorem handleOpcode_undo {s : NotifStore} (hs : StoreInv s) {request request' : DirectMsgArgsEx}
    (hop : opcode request = opcodeRegister) (hok : (handleOpcode s request).1 = .success)
    (hundo : Undoes request request') :
    (handleOpcode (handleOpcode s request).2 request').1 = .success ∧
      ∀ i j, (handleOpcode (handleOpcode s request).2 request').2.info i j = s.info i j := by
  obtain ⟨i, hlocate, hacc, hgains⟩ := handleOpcode_register_success hs hop hok
  have hs' := storeInv_handleOpcode hs request
  have hs'' := storeInv_handleOpcode hs' request'
  have hout := handleOpcode_batchOutcome hs' request'
  obtain ⟨hmin, hmax, -⟩ := ((handleOpcode_batchOutcome hs request).register hop).1 hok
  rw [← hundo.uuid] at hlocate
  have hok' : (handleOpcode (handleOpcode s request).2 request').1 = .success := by
    refine (hout.unregister hundo.opcode).2 ?_
    rw [hundo.count, hundo.sourceId]
    exact ⟨hmin, hmax, i, hlocate, (hacc.unregisterAccepts hgains).perm hundo.mappings⟩
  have hloses := hout.loses hundo.opcode hok' i hlocate
  refine ⟨hok', fun k j => ?_⟩
  by_cases hk : k = i
  · subst hk
    refine hgains.undone hs hs' hs'' hloses (fun info hinfo => ?_) (fun j hj hmem => ?_) j
    · obtain ⟨m, hm, rfl⟩ := List.mem_map.1 hinfo
      exact List.mem_map.2 ⟨m, hundo.mappings.mem_iff.1 hm, rfl⟩
    · obtain ⟨m, hm, he⟩ := List.mem_map.1 hmem
      exact hacc.fresh m (hundo.mappings.mem_iff.2 hm) j hj he.symm
  · simp only [NotifStore.info, hloses.others k hk, hgains.others k hk]

/-- **Unregistering undoes registering**, whatever the state: the second message succeeds, and
the bitmap and the entries of every slot are what they were before the first. -/
theorem notificationServiceHandle_undo {s : NotifStore} (h : Reachable s)
    {request request' : DirectMsgArgsEx} (response response' : DirectMsgArgsEx)
    (hop : opcode request = opcodeRegister)
    (hok : (notificationServiceHandle s request response).2.arg6 = 0)
    (hundo : Undoes request request') :
    let s' := (notificationServiceHandle s request response).1
    let answer := notificationServiceHandle s' request' response'
    answer.2.arg6 = 0 ∧ answer.1.globalBitmask = s.globalBitmask ∧
      ∀ i, (answer.1.notificationServices i).serviceInfo =
        (s.notificationServices i).serviceInfo := by
  have hs := h.inv
  obtain ⟨hok', hinfo⟩ := handleOpcode_undo hs hop (toInt8_and_eq_zero.1 hok) hundo
  have hs'' := storeInv_handleOpcode (storeInv_handleOpcode hs request) request'
  exact ⟨toInt8_and_eq_zero.2 hok', hs.globalBitmask_eq hs'' hinfo, fun i => funext (hinfo i)⟩

/-- Two mappings registered and unregistered again, in the same order or the other one. -/
theorem notificationServiceHandle_undo_two :
    let s' := (notificationServiceHandle notificationServiceInit twoMappings .zero).1
    (notificationServiceHandle s' { twoMappings with arg5 := 3 } .zero).1.globalBitmask = 0 ∧
      (notificationServiceHandle s' { twoMappingsSwapped with arg5 := 3 } .zero).1.globalBitmask =
        0 := by
  have hok : (notificationServiceHandle notificationServiceInit twoMappings .zero).2.arg6 = 0 := by
    decide +kernel
  have hsame : Undoes twoMappings { twoMappings with arg5 := 3 } :=
    undoes_arg5 twoMappings (by decide)
  have hswapped : Undoes twoMappings { twoMappingsSwapped with arg5 := 3 } := by
    refine ⟨rfl, rfl, by decide, rfl, ?_⟩
    exact List.Perm.swap ..
  have hstart : Reachable notificationServiceInit := Machine.Reachable.refl ..
  exact ⟨(notificationServiceHandle_undo hstart .zero .zero (by decide) hok hsame).2.1,
    (notificationServiceHandle_undo hstart .zero .zero (by decide) hok hswapped).2.1⟩

end Notification
end FfaFeature
