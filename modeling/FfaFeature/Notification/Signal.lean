/-
# Signalling a cookie

`NotificationServiceIdSet` searches the located slot for a cookie with a loop of
its own.  Unlike `IsMatchingCookie` it looks at every entry, in use or not, so
the cookie `0` meets the first entry never used or cleared; it locates the slot
by half of the UUID; and it computes the bitmap with the 32-bit shift.

`SignalsMapping` is what a signal is for, and `SignalsRight` the condition under
which the code does it (`notificationServiceIdSet_iff`).
-/

import FfaFeature.Notification.Isolation

namespace FfaFeature
namespace Notification

/-- The entry `j` of the slot `i` is an in-use mapping of `cookie`, and the slot
is in use and stored under `serviceUuid`. -/
def MappedUnder (s : NotifStore) (serviceUuid : Option Uuid) (cookie : BitVec 32)
    (i : Fin maxServices) (j : Fin maxMappings) : Prop :=
  (∃ uuid, serviceUuid = some uuid ∧ StoredUnder s uuid i) ∧
    (s.info i j).inUse ∧ (s.info i j).cookie = cookie

/-- **What a signal is for**: one call for the mapping of the cookie, to the
partition that registered it, with its bit alone; without such a mapping, no call. -/
structure SignalsMapping (ffaNotificationSet : NotificationSetCall → EfiStatus)
    (s : NotifStore) (cookie : BitVec 32) (serviceUuid : Option Uuid) (flag : BitVec 32) :
    Prop where
  mapped : ∀ i j, MappedUnder s serviceUuid cookie i j → ∃ call,
    (notificationServiceIdSet ffaNotificationSet s cookie serviceUuid flag).2 = [call] ∧
    call.destinationId = (s.info i j).sourceId ∧
    (∀ b, call.notificationBitmap.getLsbD b = true ↔ b = (s.info i j).id.toNat) ∧
    call.flags = (if (s.info i j).perVcpu then flag ||| 1 else flag).setWidth 64 ∧
    ((notificationServiceIdSet ffaNotificationSet s cookie serviceUuid flag).1 = .success ↔
      (ffaNotificationSet call).isError = false)
  unmapped : (∀ i j, ¬ MappedUnder s serviceUuid cookie i j) →
    notificationServiceIdSet ffaNotificationSet s cookie serviceUuid flag =
      (.invalidParameter, [])

/-- The first entry with the cookie, in the slot located for the UUID, is one a
signal may use: the slot is stored under the UUID itself, and the entry is in use
with an identifier of at most `30`, or else, the cookie being `0`, a mapping of
it exists that looks like an empty entry. -/
def SignalsRight (s : NotifStore) (cookie : BitVec 32) (serviceUuid : Option Uuid)
    (flag : BitVec 32) : Prop :=
  ∀ uuid i j, serviceUuid = some uuid → locateService s uuid false = some i →
    cookieIndex cookie (s.notificationServices i) = some j →
      (s.notificationServices i).serviceUuid = uuid ∧
        (((s.info i j).inUse ∧ (s.info i j).id.toNat ≤ 30) ∨
          ((s.info i j).inUse = false ∧ ∃ k, (s.info i k).inUse ∧
            (s.info i k).cookie = cookie ∧ (s.info i k).sourceId = 0 ∧
            (s.info i k).id = 0 ∧ ((s.info i k).perVcpu → flag ||| 1 = flag)))

/-- A mask is the bit of an identifier alone exactly when both are at most `30` and
agree modulo 32. -/
theorem idMask_eq_bit_iff {id id' : BitVec 16} :
    (∀ b, (idMask id).getLsbD b = true ↔ b = id'.toNat) ↔
      id'.toNat ≤ 30 ∧ id.toNat % 32 = id'.toNat := by
  simp only [getLsbD_idMask, decide_eq_true_iff]
  constructor
  · intro h
    have h63 := h 63
    have hself := h (id.toNat % 32)
    have hid := h id'.toNat
    have hlow : id.toNat % 32 < 32 := Nat.mod_lt _ (by norm_num)
    omega
  · intro h b
    omega

/-- Two flags with and without bit 0 forced are equal exactly when bit 0 is set
where only one of them forces it. -/
theorem flag_eq_iff {p q : Bool} {flag : BitVec 32} :
    (if p then flag ||| 1 else flag).setWidth 64 =
        (if q then flag ||| 1 else flag).setWidth 64 ↔
      (p = q ∨ flag ||| 1 = flag) := by
  have hinj : ∀ x y : BitVec 32, x.setWidth 64 = y.setWidth 64 ↔ x = y := by
    intro x y
    refine ⟨fun h => ?_, fun h => by rw [h]⟩
    have := congrArg (BitVec.setWidth 32) h
    simpa using this
  rw [hinj]
  cases p <;> cases q <;> simp [eq_comm]

/-- A slot located for a UUID holds the only entries that can be mapped under it. -/
theorem mappedUnder_located {s : NotifStore} (hs : StoreInv s) {uuid : Uuid}
    {i i' : Fin maxServices} {j' : Fin maxMappings} {cookie : BitVec 32}
    (hlocate : locateService s uuid false = some i)
    (h : MappedUnder s (some uuid) cookie i' j') :
    i' = i ∧ (s.notificationServices i).serviceUuid = uuid ∧ (s.info i j').inUse ∧
      (s.info i j').cookie = cookie := by
  obtain ⟨⟨uuid', he, hstored⟩, hin, hc⟩ := h
  obtain rfl := Option.some.inj he
  obtain rfl := hs.uuids i' uuid i hstored.matches (locateService_some.1 hlocate).1
  exact ⟨rfl, hstored.2, hin, hc⟩

/-- The call for `info` is the one for `info'`. -/
def StandsFor (info info' : NotifInfo) (flag : BitVec 32) : Prop :=
  info.sourceId = info'.sourceId ∧ (info'.id.toNat ≤ 30 ∧ info.id.toNat % 32 = info'.id.toNat) ∧
    (info.perVcpu = info'.perVcpu ∨ flag ||| 1 = flag)

/-- What it takes to stand for a mapping. -/
theorem standsFor_iff {info info' : NotifInfo} {flag : BitVec 32} :
    StandsFor info info' flag ↔
      (setCall info flag).destinationId = info'.sourceId ∧
        (∀ b, (setCall info flag).notificationBitmap.getLsbD b = true ↔ b = info'.id.toNat) ∧
        (setCall info flag).flags =
          (if info'.perVcpu then flag ||| 1 else flag).setWidth 64 := by
  rw [StandsFor, ← idMask_eq_bit_iff, ← flag_eq_iff]
  rfl

/-- A signal whose search ends at the entry `j` does what it is for exactly when
that entry stands for a mapping of the cookie under the UUID. -/
theorem signalsMapping_located {s : NotifStore} (hs : StoreInv s) {uuid : Uuid}
    {i : Fin maxServices} {j : Fin maxMappings} {cookie : BitVec 32}
    (hlocate : locateService s uuid false = some i)
    (hindex : cookieIndex cookie (s.notificationServices i) = some j)
    (ffaNotificationSet : NotificationSetCall → EfiStatus) (flag : BitVec 32) :
    SignalsMapping ffaNotificationSet s cookie (some uuid) flag ↔
      (s.notificationServices i).serviceUuid = uuid ∧
        ∃ k, (s.info i k).inUse ∧ (s.info i k).cookie = cookie ∧
          StandsFor (s.info i j) (s.info i k) flag := by
  have hcall := notificationServiceIdSet_mapped hlocate hindex ffaNotificationSet flag
  have hin := (locateService_some.1 hlocate).1.1
  constructor
  · intro h
    obtain ⟨i', k, hm⟩ : ∃ i' k, MappedUnder s (some uuid) cookie i' k := by
      by_contra hnone
      push Not at hnone
      have := h.unmapped hnone
      rw [hcall] at this
      exact List.cons_ne_nil _ _ (Prod.mk.inj this).2
    obtain ⟨call, hlist, hdest, hbits, hflags, -⟩ := h.mapped i' k hm
    obtain ⟨rfl, hu, hk, hc⟩ := mappedUnder_located hs hlocate hm
    rw [hcall] at hlist
    obtain rfl := List.singleton_inj.1 hlist
    exact ⟨hu, k, hk, hc, standsFor_iff.2 ⟨hdest, hbits, hflags⟩⟩
  · rintro ⟨hu, k, hk, hc, hstands⟩
    obtain ⟨hdest, hbits, hflags⟩ := standsFor_iff.1 hstands
    refine ⟨fun i' k' hm => ?_, fun hnone => ?_⟩
    · obtain ⟨rfl, -, hk', hc'⟩ := mappedUnder_located hs hlocate hm
      -- the cookies of a slot are distinct, so it is the mapping the entry stands for
      obtain rfl := hs.cookies i' k' k hk' hk (hc'.trans hc.symm)
      refine ⟨_, congrArg Prod.snd hcall, hdest, hbits, hflags, ?_⟩
      rw [hcall]
      cases (ffaNotificationSet (setCall (s.info i' j) flag)).isError <;> simp
    · exact absurd ⟨⟨uuid, rfl, hin, hu⟩, hk, hc⟩ (hnone i k)

/-- The first entry with a cookie stands for its mapping when it is the mapping and
has a small identifier, or is an empty entry that looks like it. -/
theorem exists_standsFor_iff {s : NotifStore} (hs : StoreInv s) {i : Fin maxServices}
    {j : Fin maxMappings} {cookie flag : BitVec 32} (hc : (s.info i j).cookie = cookie) :
    (∃ k, (s.info i k).inUse ∧ (s.info i k).cookie = cookie ∧
        StandsFor (s.info i j) (s.info i k) flag) ↔
      ((s.info i j).inUse ∧ (s.info i j).id.toNat ≤ 30) ∨
        ((s.info i j).inUse = false ∧ ∃ k, (s.info i k).inUse ∧
          (s.info i k).cookie = cookie ∧ (s.info i k).sourceId = 0 ∧
          (s.info i k).id = 0 ∧ ((s.info i k).perVcpu → flag ||| 1 = flag)) := by
  cases hin : (s.info i j).inUse with
  | true =>
    simp only [true_and, reduceCtorEq, false_and, or_false]
    constructor
    · rintro ⟨k, hk, hck, hstands⟩
      obtain rfl := hs.cookies i k j hk hin (hck.trans hc.symm)
      exact hstands.2.1.1
    · intro hid
      exact ⟨j, hin, hc, rfl, ⟨hid, Nat.mod_eq_of_lt (by omega)⟩, .inl rfl⟩
  | false =>
    simp only [Bool.false_eq_true, false_and, true_and, false_or]
    rw [hs.cleared i j hin]
    refine exists_congr fun k => and_congr_right fun _ => and_congr_right fun _ => ?_
    have hzero : (s.info i k).id = 0 ↔ (s.info i k).id.toNat = 0 := by
      rw [← BitVec.toNat_inj]
      rfl
    simp only [StandsFor, NotifInfo.zero, hzero]
    cases (s.info i k).perVcpu <;> simp [eq_comm] <;> omega

/-- **A signal does what it is for exactly under `SignalsRight`.** -/
theorem notificationServiceIdSet_iff {s : NotifStore} (h : Reachable s)
    (ffaNotificationSet : NotificationSetCall → EfiStatus) (cookie : BitVec 32)
    (serviceUuid : Option Uuid) (flag : BitVec 32) :
    SignalsMapping ffaNotificationSet s cookie serviceUuid flag ↔
      SignalsRight s cookie serviceUuid flag := by
  have hs := h.inv
  cases serviceUuid with
  | none =>
    refine iff_of_true ⟨fun i j hm => ?_, fun _ => rfl⟩ fun uuid i j hu => by cases hu
    obtain ⟨⟨uuid, hu, -⟩, -⟩ := hm
    cases hu
  | some uuid =>
    cases hlocate : locateService s uuid false with
    | none =>
      refine iff_of_true ⟨fun i j hm => ?_, fun _ =>
        notificationServiceIdSet_unlocated hlocate ..⟩ fun uuid' i j hu hl => ?_
      · obtain ⟨⟨uuid', hu, hstored⟩, -⟩ := hm
        obtain rfl := Option.some.inj hu
        exact absurd hstored.matches (locateService_none.1 hlocate i)
      · obtain rfl := Option.some.inj hu
        rw [hlocate] at hl
        cases hl
    | some i =>
      cases hindex : cookieIndex cookie (s.notificationServices i) with
      | none =>
        have hnone := cookieIndex_none.1 hindex
        refine iff_of_true ⟨fun i' j hm => ?_, fun _ =>
          notificationServiceIdSet_unmapped hlocate hindex ..⟩ fun uuid' i' j hu hl hc => ?_
        · obtain ⟨rfl, -, -, hc⟩ := mappedUnder_located hs hlocate hm
          exact absurd hc (hnone j)
        · obtain rfl := Option.some.inj hu
          obtain rfl := Option.some.inj (hlocate.symm.trans hl)
          rw [hindex] at hc
          cases hc
      | some j =>
        rw [signalsMapping_located hs hlocate hindex,
          exists_standsFor_iff hs (cookieIndex_some.1 hindex).1]
        constructor
        · intro hright uuid' i' j' hu hl hc
          obtain rfl := Option.some.inj hu
          obtain rfl := Option.some.inj (hlocate.symm.trans hl)
          obtain rfl := Option.some.inj (hindex.symm.trans hc)
          exact hright
        · exact fun hright => hright uuid i j rfl hlocate hindex

/-- The store after the one registration of `zeroUuidRequest`. -/
def oneMapping : NotifStore :=
  notifMachine.final notificationServiceInit [(zeroUuidRequest, .zero)]

/-- The mapping registered there is signalled as it should be. -/
theorem signalsMapping_oneMapping :
    SignalsMapping (fun _ => EfiStatus.success) oneMapping 1 (some (requestUuid zeroUuidRequest))
      0 := by
  refine (notificationServiceIdSet_iff ⟨_, rfl⟩ _ _ _ _).2 fun uuid i j hu hl hc => ?_
  obtain rfl := Option.some.inj hu
  have hlocate : locateService oneMapping (requestUuid zeroUuidRequest) false = some 0 := by
    decide +kernel
  obtain rfl := Option.some.inj (hlocate.symm.trans hl)
  have hindex : cookieIndex 1 (oneMapping.notificationServices 0) = some 0 := by decide +kernel
  obtain rfl := Option.some.inj (hindex.symm.trans hc)
  refine ⟨?_, .inl (by decide +kernel)⟩
  funext k
  revert k
  decide +kernel

/-- **The cookie `0`, registered by nobody, is signalled**: the search ends at the
first entry never used, and partition `0` gets bit `0`. -/
theorem signalsMapping_cookie_zero :
    Reachable oneMapping ∧ (∀ i j, ¬((oneMapping.info i j).inUse ∧
        (oneMapping.info i j).cookie = 0)) ∧
      notificationServiceIdSet (fun _ => EfiStatus.success) oneMapping 0
        (some (requestUuid zeroUuidRequest)) 0 = (.success, [⟨0, 0, 1⟩]) ∧
      ¬ SignalsMapping (fun _ => EfiStatus.success) oneMapping 0
        (some (requestUuid zeroUuidRequest)) 0 := by
  have hnone : ∀ i j, ¬((oneMapping.info i j).inUse ∧ (oneMapping.info i j).cookie = 0) := by
    decide +kernel
  have hcall : notificationServiceIdSet (fun _ => EfiStatus.success) oneMapping 0
      (some (requestUuid zeroUuidRequest)) 0 = (.success, [⟨0, 0, 1⟩]) := by
    decide +kernel
  refine ⟨⟨_, rfl⟩, hnone, hcall, fun h => ?_⟩
  have := h.unmapped fun i j hm => hnone i j hm.2
  rw [hcall] at this
  cases this

end Notification
end FfaFeature
