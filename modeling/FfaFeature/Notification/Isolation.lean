/-
# Services and their UUIDs

`LocateService` compares `sizeof (Uuid)` bytes of a `UINT8 *`, so eight of the
sixteen.  Two UUIDs that agree in their first half are one service to it: the
partition that sends the second UUID registers in, unregisters from and signals
through the slot of the first.

A UUID *clashes* in a state when an in-use slot agrees with it in those eight
bytes and differs in the rest (`Clashes`).  The service keeps a UUID apart from
the slots of all others exactly when it does not clash (`isolated_iff`).
-/

import FfaFeature.Notification.Batch

namespace FfaFeature
namespace Notification

/-- The in-use slot `i` is stored under `uuid`, all sixteen bytes. -/
def StoredUnder (s : NotifStore) (uuid : Uuid) (i : Fin maxServices) : Prop :=
  (s.notificationServices i).inUse ∧ (s.notificationServices i).serviceUuid = uuid

/-- Some in-use slot agrees with `uuid` in the bytes compared and is stored under
another UUID. -/
def Clashes (s : NotifStore) (uuid : Uuid) : Prop :=
  ∃ i, Matches s uuid i ∧ (s.notificationServices i).serviceUuid ≠ uuid

/-- A service matches its own UUID. -/
theorem StoredUnder.matches {s : NotifStore} {uuid : Uuid} {i : Fin maxServices}
    (h : StoredUnder s uuid i) : Matches s uuid i := by
  have hself := matches_self h.1
  rwa [h.2] at hself

/-- **The slots are apart from the calls with `uuid`**: a request that carries it
leaves the in-use slots of other UUIDs alone, and where no in-use slot is stored
under it a `REGISTER` goes to a slot not in use or fails with `noMem`, and an
`UNREGISTER` and a signal fail with `invalidParameter`. -/
structure Isolated (s : NotifStore) (uuid : Uuid) : Prop where
  others : ∀ request response, requestUuid request = uuid →
    ∀ i, (s.notificationServices i).inUse → (s.notificationServices i).serviceUuid ≠ uuid →
      (notificationServiceHandle s request response).1.notificationServices i =
        s.notificationServices i
  register : (∀ i, ¬ StoredUnder s uuid i) → ∀ request, requestUuid request = uuid →
    opcode request = opcodeRegister →
      (∃ i, (s.notificationServices i).inUse = false ∧
        handleOpcode s request = registerAt request i s) ∨
      handleOpcode s request = (.noMem, s)
  unregister : (∀ i, ¬ StoredUnder s uuid i) → ∀ request, requestUuid request = uuid →
    opcode request = opcodeUnregister → handleOpcode s request = (.invalidParameter, s)
  signal : (∀ i, ¬ StoredUnder s uuid i) → ∀ ffaNotificationSet cookie flag,
    notificationServiceIdSet ffaNotificationSet s cookie (some uuid) flag =
      (.invalidParameter, [])

/-! ### The slots a request leaves alone -/

/-- An edit leaves the other slots. -/
theorem Edit.slot_ne {i k : Fin maxServices} {sourceId : BitVec 16} {uuid : Uuid}
    {s s' : NotifStore} (h : Edit i sourceId uuid s s') (hk : k ≠ i) :
    s'.notificationServices k = s.notificationServices k := by
  cases h with
  | register j m _ => exact NotifStore.register_slot_ne hk s j m sourceId
  | unregister j m _ => exact NotifStore.unregister_slot_ne hk s j m
  | claim _ _ => exact NotifStore.claim_slot_ne hk s uuid

/-- So do several. -/
theorem Edits.slot_ne {i k : Fin maxServices} {sourceId : BitVec 16} {uuid : Uuid}
    {s s' : NotifStore} (h : Edits i sourceId uuid s s') (hk : k ≠ i) :
    s'.notificationServices k = s.notificationServices k := by
  induction h with
  | refl => rfl
  | tail _ he ih => exact (he.slot_ne hk).trans ih

/-- The slot of a registration. -/
theorem requestSlot_register {s : NotifStore} {request : DirectMsgArgsEx} {i : Fin maxServices}
    (h : requestSlot s request = some (false, i)) :
    registerSlot s (requestUuid request) = some i := by
  unfold requestSlot at h
  split_ifs at h
  · obtain ⟨k, hk, he⟩ := Option.map_eq_some_iff.1 h
    rw [hk, (Prod.mk.inj he).2]
  · obtain ⟨k, -, he⟩ := Option.map_eq_some_iff.1 h
    cases (Prod.mk.inj he).1

/-- The slot of an unregistration. -/
theorem requestSlot_unregister {s : NotifStore} {request : DirectMsgArgsEx}
    {i : Fin maxServices} (h : requestSlot s request = some (true, i)) :
    locateService s (requestUuid request) false = some i := by
  unfold requestSlot at h
  split_ifs at h
  · obtain ⟨k, -, he⟩ := Option.map_eq_some_iff.1 h
    cases (Prod.mk.inj he).1
  · obtain ⟨k, hk, he⟩ := Option.map_eq_some_iff.1 h
    rw [hk, (Prod.mk.inj he).2]

/-- The slot of a request matches its UUID or is not in use. -/
theorem requestSlot_some {s : NotifStore} {request : DirectMsgArgsEx} {unregister : Bool}
    {i : Fin maxServices} (h : requestSlot s request = some (unregister, i)) :
    Matches s (requestUuid request) i ∨ (s.notificationServices i).inUse = false := by
  cases unregister with
  | false => exact (registerSlot_some (requestSlot_register h)).imp_right And.left
  | true => exact .inl (locateService_some.1 (requestSlot_unregister h)).1

/-- **A request changes the slot it works on and no other.** -/
theorem handleOpcode_slot_ne {s : NotifStore} {request : DirectMsgArgsEx} {k : Fin maxServices}
    (h : ∀ unregister, requestSlot s request ≠ some (unregister, k)) :
    (handleOpcode s request).2.notificationServices k = s.notificationServices k := by
  rcases handleOpcode_eq s request with ⟨-, -, hst⟩ | ⟨i, hslot, he⟩ | ⟨i, hslot, he⟩
  · rw [hst]
  · rw [he]
    refine (registerAt_edits (requestSlot_register hslot)).slot_ne ?_
    rintro rfl
    exact h _ hslot
  · rw [he]
    refine (updateServiceInfo_edits true request i (requestUuid request) s).slot_ne ?_
    rintro rfl
    exact h _ hslot

/-! ### What a signal does -/

/-- The first entry with the cookie, in use or not. -/
theorem cookieIndex_some {cookie : BitVec 32} {service : NotifService} {j : Fin maxMappings} :
    cookieIndex cookie service = some j ↔
      (service.serviceInfo j).cookie = cookie ∧
        ∀ k, k < j → (service.serviceInfo k).cookie ≠ cookie := by
  simp [cookieIndex]

/-- No entry has the cookie. -/
theorem cookieIndex_none {cookie : BitVec 32} {service : NotifService} :
    cookieIndex cookie service = none ↔ ∀ k, (service.serviceInfo k).cookie ≠ cookie := by
  simp [cookieIndex]

/-- A UUID that is not found. -/
theorem notificationServiceIdSet_unlocated {s : NotifStore} {uuid : Uuid}
    (h : locateService s uuid false = none)
    (ffaNotificationSet : NotificationSetCall → EfiStatus) (cookie flag : BitVec 32) :
    notificationServiceIdSet ffaNotificationSet s cookie (some uuid) flag =
      (.invalidParameter, []) := by
  unfold notificationServiceIdSet
  dsimp only
  rw [h]

/-- A cookie that is not found. -/
theorem notificationServiceIdSet_unmapped {s : NotifStore} {uuid : Uuid} {i : Fin maxServices}
    (h : locateService s uuid false = some i) {cookie : BitVec 32}
    (hc : cookieIndex cookie (s.notificationServices i) = none)
    (ffaNotificationSet : NotificationSetCall → EfiStatus) (flag : BitVec 32) :
    notificationServiceIdSet ffaNotificationSet s cookie (some uuid) flag =
      (.invalidParameter, []) := by
  unfold notificationServiceIdSet
  dsimp only
  rw [h]
  dsimp only
  rw [hc]

/-- A signal whose search ends at the entry `j` of the slot `i`. -/
theorem notificationServiceIdSet_mapped {s : NotifStore} {uuid : Uuid} {i : Fin maxServices}
    (h : locateService s uuid false = some i) {cookie : BitVec 32} {j : Fin maxMappings}
    (hc : cookieIndex cookie (s.notificationServices i) = some j)
    (ffaNotificationSet : NotificationSetCall → EfiStatus) (flag : BitVec 32) :
    notificationServiceIdSet ffaNotificationSet s cookie (some uuid) flag =
      (if (ffaNotificationSet (setCall (s.info i j) flag)).isError then .invalidParameter
        else .success, [setCall (s.info i j) flag]) := by
  unfold notificationServiceIdSet
  dsimp only
  rw [h]
  dsimp only
  rw [hc]
  rfl

/-! ### Isolation -/

/-- A `REGISTER` where no slot matches goes to the first slot not in use. -/
theorem handleOpcode_register_fresh {s : NotifStore} {request : DirectMsgArgsEx}
    (hop : opcode request = opcodeRegister)
    (h : locateService s (requestUuid request) false = none) :
    handleOpcode s request =
      match locateService s (requestUuid request) true with
      | some i => registerAt request i s
      | none => (.noMem, s) := by
  unfold handleOpcode
  rw [hop]
  show registerHandler s request = _
  have hslot : registerSlot s (requestUuid request) =
      locateService s (requestUuid request) true := by
    unfold registerSlot
    rw [h]
  unfold registerHandler
  cases hlocate : locateService s (requestUuid request) true with
  | none => simp only [hslot, hlocate]
  | some i => simp only [hslot, hlocate]

/-- An `UNREGISTER` where no slot matches is refused. -/
theorem handleOpcode_unregister_none {s : NotifStore} {request : DirectMsgArgsEx}
    (hop : opcode request = opcodeUnregister)
    (h : locateService s (requestUuid request) false = none) :
    handleOpcode s request = (.invalidParameter, s) := by
  unfold handleOpcode
  rw [hop]
  show unregisterHandler s request = _
  unfold unregisterHandler
  rw [h]

/-- Where a UUID does not clash, the slots that match it are those stored under
it. -/
theorem matches_iff_storedUnder {s : NotifStore} {uuid : Uuid} (h : ¬ Clashes s uuid)
    (i : Fin maxServices) : Matches s uuid i ↔ StoredUnder s uuid i := by
  refine ⟨fun hm => ⟨hm.1, ?_⟩, StoredUnder.matches⟩
  by_contra hne
  exact h ⟨i, hm, hne⟩

/-- A UUID that clashes with none and is not stored is not found. -/
theorem locateService_none_of_not_clashes {s : NotifStore} {uuid : Uuid}
    (h : ¬ Clashes s uuid) (hnone : ∀ i, ¬ StoredUnder s uuid i) :
    locateService s uuid false = none :=
  locateService_none.2 fun k hk => hnone k ((matches_iff_storedUnder h k).1 hk)

/-- A clashing slot is the only one that matches, so no slot is stored under the
UUID. -/
theorem not_storedUnder_of_clash {s : NotifStore} (hs : StoreInv s) {uuid : Uuid}
    {i : Fin maxServices} (hm : Matches s uuid i)
    (hne : (s.notificationServices i).serviceUuid ≠ uuid) (k : Fin maxServices) :
    ¬ StoredUnder s uuid k := by
  intro hk
  obtain rfl := hs.uuids k uuid i hk.matches hm
  exact hne hk.2

/-- **A UUID is kept apart from the services of all others exactly when it does
not clash.** -/
theorem isolated_iff {s : NotifStore} (h : Reachable s) (uuid : Uuid) :
    Isolated s uuid ↔ ¬ Clashes s uuid := by
  have hs := h.inv
  constructor
  · rintro hiso ⟨i, hm, hne⟩
    have hlocate : locateService s uuid false = some i := hs.locateService_eq hm
    -- signalling the cookie of the clashing slot's first entry makes a call
    have hindex : cookieIndex (s.info i 0).cookie (s.notificationServices i) = some 0 :=
      cookieIndex_some.2 ⟨rfl, fun k hk => absurd hk (Fin.not_lt_zero k)⟩
    have hsig := hiso.signal (not_storedUnder_of_clash hs hm hne) (fun _ => EfiStatus.success)
      (s.info i 0).cookie 0
    rw [notificationServiceIdSet_mapped hlocate hindex] at hsig
    exact List.cons_ne_nil _ _ (Prod.mk.inj hsig).2
  · intro hno
    refine ⟨fun request response hu i hin hne => ?_, fun hnone request hu hop => ?_,
      fun hnone request hu hop => ?_, fun hnone ffaNotificationSet cookie flag => ?_⟩
    · refine handleOpcode_slot_ne fun unregister hslot => ?_
      rcases requestSlot_some hslot with hm | hfree
      · exact hno ⟨i, hu ▸ hm, hne⟩
      · rw [hfree] at hin
        cases hin
    · subst hu
      rw [handleOpcode_register_fresh hop (locateService_none_of_not_clashes hno hnone)]
      cases hempty : locateService s (requestUuid request) true with
      | none => exact .inr rfl
      | some i => exact .inl ⟨i, (locateService_empty_some.1 hempty).1, rfl⟩
    · subst hu
      exact handleOpcode_unregister_none hop (locateService_none_of_not_clashes hno hnone)
    · exact notificationServiceIdSet_unlocated (locateService_none_of_not_clashes hno hnone) ..

/-- A registration for the UUID of zeros, of the cookie `1` to the identifier
`1`. -/
def zeroUuidRequest : DirectMsgArgsEx :=
  { DirectMsgArgsEx.zero with arg5 := 2, arg6 := 1, arg7 := 0x100800000 }

/-- A UUID that differs from the UUID of zeros in its eighth byte is kept apart from a service
stored under the latter. -/
theorem isolated_zeroUuid :
    ∃ s, Reachable s ∧ (s.notificationServices 0).inUse ∧
      (∀ i, ¬ StoredUnder s (notificationServiceExtractUuid 0 1) i) ∧
      Isolated s (notificationServiceExtractUuid 0 1) := by
  have hreach : Reachable (notifMachine.final notificationServiceInit
    [(zeroUuidRequest, .zero)]) := ⟨_, rfl⟩
  have hmatches : ∀ i, ¬ Matches (notifMachine.final notificationServiceInit
      [(zeroUuidRequest, .zero)]) (notificationServiceExtractUuid 0 1) i := by
    unfold Matches
    decide +kernel
  exact ⟨_, hreach, by decide +kernel, fun i hstored => hmatches i hstored.matches,
    (isolated_iff hreach _).2 fun ⟨i, hm, _⟩ => hmatches i hm⟩

/-- The same mapping unregistered for the UUID that ends in `1`. -/
def otherUuidRequest : DirectMsgArgsEx :=
  { DirectMsgArgsEx.zero with arg3 := 1, arg5 := 3, arg6 := 1, arg7 := 0x100800000 }

/-- **A clash.**  The second UUID is stored nowhere, and its `UNREGISTER`
succeeds on the slot of the first. -/
theorem isolated_prefix_clash :
    ∃ s, Reachable s ∧ (s.notificationServices 0).inUse ∧
      (s.notificationServices 0).serviceUuid ≠ requestUuid otherUuidRequest ∧
      (s.info 0 0).inUse ∧
      (handleOpcode s otherUuidRequest).1 = .success ∧
      ((handleOpcode s otherUuidRequest).2.info 0 0).inUse = false ∧
      ¬ Isolated s (requestUuid otherUuidRequest) := by
  refine ⟨notifMachine.final notificationServiceInit [(zeroUuidRequest, .zero)], ⟨_, rfl⟩,
    by decide +kernel, fun h => ?_, by decide +kernel, by decide +kernel, by decide +kernel,
    fun h => ?_⟩
  · have := congrFun h 15
    revert this
    decide +kernel
  · have hslot := h.others otherUuidRequest .zero rfl 0 (by decide +kernel) (fun h => ?_)
    · have hinfo := congrArg (fun service => (NotifService.serviceInfo service 0).inUse) hslot
      revert hinfo
      decide +kernel
    · have := congrFun h 15
      revert this
      decide +kernel

end Notification
end FfaFeature
