/-
# Slots and the mappings in them

A slot is meant to be in use exactly while it holds mappings (`SlotsLive`): then every
mapping can be found under the UUID of its slot, no bit of the bitmap belongs to nobody,
and a `REGISTER` runs out of slots only when sixteen services hold mappings
(`slotsExact_iff`).

The code misses this in two places.  A `REGISTER` of a slot not in use that splits its
message leaves the first mappings in the slot and the slot unclaimed.  `UNREGISTER` clears
entries and never the slot, so a service whose last mapping goes keeps its slot for good.
`KeepsSlots` says of a request and the store before it that neither happens; the slots are
exact along a run exactly when every request of the run meets it (`slotsExact_run_iff`).
-/

import FfaFeature.Notification.Bitmap
import FfaFeature.Notification.Isolation
import Mathlib.Data.Fintype.Pigeonhole

namespace FfaFeature
namespace Notification

/-- The slot holds a mapping. -/
def Live (s : NotifStore) (i : Fin maxServices) : Prop := ∃ j, (s.info i j).inUse

/-- The slots in use are those that hold mappings. -/
def SlotsLive (s : NotifStore) : Prop := ∀ i, (s.notificationServices i).inUse ↔ Live s i

/-- **What the slots are for.**  The slots in use are those that hold mappings; every
mapping is found under the UUID of its slot; every bit of the bitmap is one of a mapping in
a slot in use; and a `REGISTER` is refused for want of memory only where all slots hold
mappings. -/
structure SlotsExact (s : NotifStore) : Prop where
  live : SlotsLive s
  found : ∀ i j, (s.info i j).inUse →
    locateService s (s.notificationServices i).serviceUuid false = some i
  bits : ∀ b, s.globalBitmask.getLsbD b = true → ∃ i j,
    (s.notificationServices i).inUse ∧ (s.info i j).inUse ∧
      (idMask (s.info i j).id).getLsbD b = true
  noMem : ∀ request, opcode request = opcodeRegister → (handleOpcode s request).1 = .noMem →
    ∀ i, Live s i

/-! ### Running out of memory -/

/-- A slot never fills up: its entries in use have distinct residues, and there are more
entries than residues. -/
theorem StoreInv.emptyIndex_ne_none {s : NotifStore} (hs : StoreInv s) (i : Fin maxServices) :
    emptyIndex (s.notificationServices i) ≠ none := by
  intro hnone
  have hfull := emptyIndex_none.1 hnone
  have hcard : Fintype.card (Fin 32) < Fintype.card (Fin maxMappings) := by
    rw [Fintype.card_fin, Fintype.card_fin]
    decide
  obtain ⟨j, k, hne, he⟩ := Fintype.exists_ne_map_eq_of_card_lt
    (fun j => (⟨(s.info i j).id.toNat % 32, Nat.mod_lt _ (by norm_num)⟩ : Fin 32)) hcard
  exact hne (hs.residues i j i k (hfull j) (hfull k) (Fin.mk.inj he)).2

/-- Where an entry is free no mapping runs out of memory. -/
theorem updateMapping_ne_noMem {service : NotifService} (hempty : emptyIndex service ≠ none)
    (unregister : Bool) (sourceId : BitVec 16) (m : NotificationMapping)
    (bitmask : BitVec 64) :
    updateMapping unregister sourceId m service bitmask ≠ .error .noMem := by
  intro h
  unfold updateMapping at h
  split at h
  · split at h
    · cases h
    · split_ifs at h <;> cases h
  · split at h
    · cases h
    · split_ifs at h
      · cases h
      · split at h
        · next hnone => exact hempty hnone
        · cases h

/-- And where the invariant holds none ever does. -/
theorem applyMappings_ne_noMem {s : NotifStore} (hs : StoreInv s) (unregister : Bool)
    (sourceId : BitVec 16) (i : Fin maxServices) (ms : List NotificationMapping) :
    (applyMappings unregister sourceId i ms s).1 ≠ .noMem := by
  induction ms generalizing s with
  | nil => exact fun h => by cases h
  | cons m ms ih =>
    rw [applyMappings]
    cases h : applyMapping unregister sourceId i m s with
    | ok s' => exact ih (storeInv_edit (applyMapping_edit 0 h) hs)
    | error returnVal =>
      rintro rfl
      unfold applyMapping at h
      split at h
      · next he =>
        cases h
        exact updateMapping_ne_noMem (hs.emptyIndex_ne_none i) unregister sourceId m _ he
      · cases h

/-- **A `REGISTER` runs out of memory only where every slot is in use.** -/
theorem registerHandler_noMem {s : NotifStore} (hs : StoreInv s) {request : DirectMsgArgsEx}
    (h : (registerHandler s request).1 = .noMem) (i : Fin maxServices) :
    (s.notificationServices i).inUse := by
  unfold registerHandler at h
  cases hslot : registerSlot s (requestUuid request) with
  | none =>
    unfold registerSlot at hslot
    cases hlocate : locateService s (requestUuid request) false with
    | none =>
      rw [hlocate] at hslot
      by_contra hfree
      simp only [locateService, Fin.find?_eq_none_iff] at hslot
      have hi := hslot i
      simp [hfree] at hi
    | some k =>
      rw [hlocate] at hslot
      cases hslot
  | some k =>
    rw [hslot] at h
    dsimp only at h
    rw [(registerAt_status request k s).1, updateServiceInfo_eq] at h
    split_ifs at h
    exact absurd h (applyMappings_ne_noMem hs false request.sourceId k _)

/-- In a reachable store, the rest follows from the slots in use being those that hold
mappings. -/
theorem slotsExact_iff {s : NotifStore} (hs : StoreInv s) : SlotsExact s ↔ SlotsLive s := by
  refine ⟨SlotsExact.live, fun hlive => ⟨hlive, fun i j hin => ?_, fun b hb => ?_, ?_⟩⟩
  · exact hs.locateService_eq (matches_self ((hlive i).2 ⟨j, hin⟩))
  · obtain ⟨i, j, hin, hbit⟩ := (hs.bitmask b).1 hb
    exact ⟨i, j, (hlive i).2 ⟨j, hin⟩, hin, hbit⟩
  · intro request hop hst i
    unfold handleOpcode at hst
    rw [hop] at hst
    exact (hlive i).1 (registerHandler_noMem hs hst i)

/-! ### What one request does to the slots -/

/-- The mapping in the entry `j` is in use and named by no accepted prefix of the
message. -/
def Outlives (s : NotifStore) (i : Fin maxServices) (sourceId : BitVec 16)
    (ms : List NotificationMapping) (j : Fin maxMappings) : Prop :=
  (s.info i j).inUse ∧ ∀ k, Accepts true s i sourceId (ms.take k) →
    ∀ m ∈ ms.take k, (s.info i j).cookie ≠ m.cookie

/-- **The mappings an `UNREGISTER` leaves** are those that outlive its message. -/
theorem applyMappings_unregister_inUse {s : NotifStore} (hs : StoreInv s)
    {sourceId : BitVec 16} {i : Fin maxServices} {ms : List NotificationMapping}
    {j : Fin maxMappings} :
    ((applyMappings true sourceId i ms s).2.info i j).inUse ↔ Outlives s i sourceId ms j := by
  induction ms generalizing s with
  | nil =>
    refine ⟨fun hin => ⟨hin, fun k _ m hm => ?_⟩, And.left⟩
    rw [List.take_nil] at hm
    exact absurd hm List.not_mem_nil
  | cons m ms ih =>
    rw [applyMappings]
    cases h : applyMapping true sourceId i m s with
    | error returnVal =>
      -- only the empty prefix is accepted
      refine ⟨fun hin => ⟨hin, fun k hacc m' hm' => ?_⟩, And.left⟩
      cases k with
      | zero => exact absurd hm' List.not_mem_nil
      | succ k =>
        obtain ⟨s', hok, -⟩ := (accepts_cons hs).1 (List.take_succ_cons .. ▸ hacc)
        rw [h] at hok
        cases hok
    | ok s' =>
      refine (ih (storeInv_edit (applyMapping_edit 0 h) hs)).trans ?_
      obtain ⟨j', hg, rfl⟩ := applyMapping_unregister.1 h
      have hinfo := s.info_unregister i i j' j m
      by_cases hj : j = j'
      · -- the entry the first mapping clears
        subst hj
        rw [if_pos ⟨rfl, rfl⟩] at hinfo
        refine iff_of_false (fun hout => ?_) fun hout => ?_
        · have hin := hout.1
          rw [hinfo] at hin
          cases hin
        · refine hout.2 1 ?_ m (by simp) hg.cookie
          rw [List.take_succ_cons, List.take_zero]
          exact (accepts_cons hs).2 ⟨_, h, accepts_nil ..⟩
      · rw [if_neg fun he => hj he.2] at hinfo
        unfold Outlives
        rw [hinfo]
        refine and_congr_right fun hin => ⟨fun hout k hacc m' hm' => ?_,
          fun hout k hacc m' hm' => ?_⟩
        · cases k with
          | zero => exact absurd hm' List.not_mem_nil
          | succ k =>
            rw [List.take_succ_cons] at hacc hm'
            obtain ⟨s', hok, hrest⟩ := (accepts_cons hs).1 hacc
            rw [h] at hok
            obtain rfl := Except.ok.inj hok
            rcases List.mem_cons.1 hm' with rfl | hm'
            · intro he
              exact hj (hs.cookies i j j' hin hg.inUse (he.trans hg.cookie.symm))
            · exact hout k hrest m' hm'
        · refine hout (k + 1) ?_ m' ?_
          · rw [List.take_succ_cons]
            exact (accepts_cons hs).2 ⟨_, h, hacc⟩
          · rw [List.take_succ_cons]
            exact List.mem_cons_of_mem _ hm'

/-- **The request keeps the slots exact**: a `REGISTER` of a slot not in use does not split
its message, and an `UNREGISTER` does not take the last mapping of its slot. -/
structure KeepsSlots (s : NotifStore) (request : DirectMsgArgsEx) : Prop where
  register : ∀ i, requestSlot s request = some (false, i) →
    (s.notificationServices i).inUse = false →
    1 ≤ reqNumMappings request → reqNumMappings request ≤ 7 →
    Accepts false s i request.sourceId ((requestMappings request).take 1) →
    Accepts false s i request.sourceId (requestMappings request)
  unregister : ∀ i, requestSlot s request = some (true, i) →
    1 ≤ reqNumMappings request → reqNumMappings request ≤ 7 →
    ∃ j, Outlives s i request.sourceId (requestMappings request) j

/-- Where the other slots are as before, one slot decides. -/
theorem slotsLive_of_slot_ne {s s' : NotifStore} (hlive : SlotsLive s) {i : Fin maxServices}
    (hne : ∀ k, k ≠ i → s'.notificationServices k = s.notificationServices k) :
    SlotsLive s' ↔ ((s'.notificationServices i).inUse ↔ Live s' i) := by
  refine ⟨fun h => h i, fun h k => ?_⟩
  by_cases hk : k = i
  · rw [hk]
    exact h
  · unfold Live NotifStore.info
    rw [hne k hk]
    exact hlive k

/-- The slot of a registration is in use afterwards if it was before or the message
succeeds. -/
theorem registerAt_inUse (request : DirectMsgArgsEx) (i : Fin maxServices) (s : NotifStore) :
    ((registerAt request i s).2.notificationServices i).inUse ↔
      ((s.notificationServices i).inUse ∨ (updateServiceInfo false request i s).1 = .success) := by
  have hslot := (updateServiceInfo_slot false request i i s).1
  unfold registerAt
  split
  · next s' hs' =>
    rw [hs'] at hslot ⊢
    dsimp only at hslot ⊢
    rw [hslot]
    split_ifs with hin
    · rw [hslot]
      exact iff_of_true hin (.inl hin)
    · simp
  · next hst hr =>
    rw [hr] at hslot ⊢
    dsimp only at hslot ⊢
    rw [hslot]
    exact ⟨Or.inl, fun h => h.resolve_right hst⟩

/-- **A registration keeps the slots exact unless it splits on a slot not in use.** -/
theorem registerAt_slotsLive_iff {s : NotifStore} (hs : StoreInv s) (hlive : SlotsLive s)
    {request : DirectMsgArgsEx} {i : Fin maxServices}
    (hslot : registerSlot s (requestUuid request) = some i) :
    SlotsLive (registerAt request i s).2 ↔
      ((s.notificationServices i).inUse = false →
        1 ≤ reqNumMappings request → reqNumMappings request ≤ 7 →
        Accepts false s i request.sourceId ((requestMappings request).take 1) →
        Accepts false s i request.sourceId (requestMappings request)) := by
  rw [slotsLive_of_slot_ne hlive fun k hk => (registerAt_edits hslot).slot_ne hk,
    registerAt_inUse]
  unfold Live
  simp only [registerAt_info, updateServiceInfo_eq]
  by_cases hn : reqNumMappings request < 1 ∨ 7 < reqNumMappings request
  · -- nothing is registered
    simp only [if_pos hn]
    refine iff_of_true ?_ fun _ _ _ _ => by omega
    refine Iff.trans ?_ (hlive i)
    simp
  · simp only [if_neg hn]
    have hne := @requestMappings_ne_nil request (by omega)
    obtain ⟨m, ms, hms⟩ := List.exists_cons_of_ne_nil hne
    cases hin : (s.notificationServices i).inUse with
    | true =>
      refine iff_of_true (iff_of_true (.inl rfl) ?_) fun h => by cases h
      obtain ⟨j, hj⟩ := (hlive i).1 hin
      refine ⟨j, ?_⟩
      rw [applyMappings_register_keeps request.sourceId i i j _ s hj]
      exact hj
    | false =>
      have hempty : ∀ j, (s.info i j).inUse = false := by
        intro j
        by_contra hj
        have := (hlive i).2 ⟨j, by simpa using hj⟩
        rw [hin] at this
        cases this
      rw [applyMappings_success_iff hs]
      simp only [Bool.false_eq_true, false_or, forall_const]
      have h₁ : 1 ≤ reqNumMappings request := by omega
      have h₂ : reqNumMappings request ≤ 7 := by omega
      simp only [h₁, h₂, forall_const]
      -- the first mapping stays exactly when it is accepted
      have hfirst : (∃ j, ((applyMappings false request.sourceId i (requestMappings request)
          s).2.info i j).inUse) ↔
          Accepts false s i request.sourceId ((requestMappings request).take 1) := by
        constructor
        · rintro ⟨j, hj⟩
          by_contra hno
          rw [(applyMappings_unchanged_iff hs false request.sourceId i _ hne).2 hno, hempty] at hj
          cases hj
        · intro hacc
          obtain ⟨j, hj⟩ := @applyMappings_register_stores request.sourceId i
            (requestMappings request) s hs 1 hacc m (by rw [hms]; simp)
          exact ⟨j, by rw [hj]; rfl⟩
      rw [hfirst]
      refine ⟨Iff.mpr, fun h => ⟨fun hacc => ?_, h⟩⟩
      rw [hms] at hacc ⊢
      rw [List.take_succ_cons, List.take_zero]
      obtain ⟨s', hok, -⟩ := (accepts_cons hs).1 hacc
      exact (accepts_cons hs).2 ⟨s', hok, accepts_nil ..⟩

/-- **An `UNREGISTER` keeps the slots exact unless it takes the last mapping of one.** -/
theorem updateServiceInfo_unregister_slotsLive_iff {s : NotifStore} (hs : StoreInv s)
    (hlive : SlotsLive s) {request : DirectMsgArgsEx} {i : Fin maxServices}
    (hslot : locateService s (requestUuid request) false = some i) :
    SlotsLive (updateServiceInfo true request i s).2 ↔
      (1 ≤ reqNumMappings request → reqNumMappings request ≤ 7 →
        ∃ j, Outlives s i request.sourceId (requestMappings request) j) := by
  have hin := (locateService_some.1 hslot).1.1
  have hedits := updateServiceInfo_edits true request i (requestUuid request) s
  rw [slotsLive_of_slot_ne hlive fun k hk => hedits.slot_ne hk,
    (updateServiceInfo_slot true request i i s).1, iff_true_left hin, updateServiceInfo_eq]
  by_cases hn : reqNumMappings request < 1 ∨ 7 < reqNumMappings request
  · rw [if_pos hn]
    exact iff_of_true ((hlive i).1 hin) fun _ _ => by omega
  · rw [if_neg hn]
    have h₁ : 1 ≤ reqNumMappings request := by omega
    have h₂ : reqNumMappings request ≤ 7 := by omega
    simp only [h₁, h₂, forall_const]
    exact exists_congr fun j => applyMappings_unregister_inUse hs

/-- **One request keeps the slots exact exactly when it meets `KeepsSlots`.** -/
theorem handleOpcode_slotsLive_iff {s : NotifStore} (hs : StoreInv s) (hlive : SlotsLive s)
    (request : DirectMsgArgsEx) :
    SlotsLive (handleOpcode s request).2 ↔ KeepsSlots s request := by
  rcases handleOpcode_eq s request with ⟨hslot, -, hst⟩ | ⟨i, hslot, he⟩ | ⟨i, hslot, he⟩
  · rw [hst]
    refine iff_of_true hlive ⟨fun i hi => ?_, fun i hi => ?_⟩ <;> rw [hslot] at hi <;> cases hi
  · rw [he, registerAt_slotsLive_iff hs hlive (requestSlot_register hslot)]
    constructor
    · intro h
      refine ⟨fun i' hi' => ?_, fun i' hi' => ?_⟩
      · rw [hslot] at hi'
        obtain ⟨-, rfl⟩ := Prod.mk.inj (Option.some.inj hi')
        exact h
      · rw [hslot] at hi'
        cases hi'
    · exact fun h => h.register i hslot
  · rw [he, updateServiceInfo_unregister_slotsLive_iff hs hlive (requestSlot_unregister hslot)]
    constructor
    · intro h
      refine ⟨fun i' hi' => ?_, fun i' hi' => ?_⟩
      · rw [hslot] at hi'
        cases hi'
      · rw [hslot] at hi'
        obtain ⟨-, rfl⟩ := Prod.mk.inj (Option.some.inj hi')
        exact h
    · exact fun h => h.unregister i hslot

/-! ### Along a run -/

/-- **The slots are exact along a run exactly when every request of the run meets
`KeepsSlots`.** -/
theorem slotsExact_run_iff (is : List (DirectMsgArgsEx × DirectMsgArgsEx)) :
    (∀ k, SlotsExact (notifMachine.final notificationServiceInit (is.take k))) ↔
      ∀ e ∈ notifMachine.history notificationServiceInit is, KeepsSlots e.pre e.input.1 := by
  have hinv (is : List (DirectMsgArgsEx × DirectMsgArgsEx)) :
      StoreInv (notifMachine.final notificationServiceInit is) :=
    Reachable.inv ⟨is, rfl⟩
  have hstart : SlotsLive notificationServiceInit := by
    intro i
    simp [Live, notificationServiceInit, NotifStore.info, NotifService.zero, NotifInfo.zero]
  simp only [fun k => slotsExact_iff (hinv (is.take k))]
  exact @Machine.final_take_iff _ _ _ notifMachine SlotsLive (fun s m => KeepsSlots s m.1) _
    hstart (fun is m hlive => handleOpcode_slotsLive_iff (hinv is) hlive m.1) is

/-- **Two ways to lose a slot.**  A mapping registered and unregistered leaves its slot in
use with nothing in it; a split first message leaves a mapping and its bit in a slot that is
not in use, where no UUID finds it. -/
theorem slotsExact_lost :
    (∃ s, Reachable s ∧ (s.notificationServices 0).inUse ∧ (∀ i, ¬ Live s i) ∧
        ¬ SlotsExact s) ∧
      ∃ s, Reachable s ∧ (s.notificationServices 0).inUse = false ∧ (s.info 0 0).inUse ∧
        s.globalBitmask = 1 ∧ (∀ uuid, locateService s uuid false = none) ∧ ¬ SlotsExact s := by
  constructor
  · refine ⟨notifMachine.final notificationServiceInit
      [(zeroUuidRequest, .zero), ({ zeroUuidRequest with arg5 := 3 }, .zero)], ⟨_, rfl⟩, ?_⟩
    have hin : ((notifMachine.final notificationServiceInit
        [(zeroUuidRequest, .zero), ({ zeroUuidRequest with arg5 := 3 }, .zero)]
        ).notificationServices 0).inUse := by decide +kernel
    have hempty : ∀ i, ¬ Live (notifMachine.final notificationServiceInit
        [(zeroUuidRequest, .zero), ({ zeroUuidRequest with arg5 := 3 }, .zero)]) i := by
      unfold Live
      decide +kernel
    exact ⟨hin, hempty, fun h => hempty 0 ((h.live 0).1 hin)⟩
  · refine ⟨notifMachine.final notificationServiceInit [(sameCookieRequest, .zero)],
      ⟨_, rfl⟩, ?_⟩
    have hfree : ∀ i, ((notifMachine.final notificationServiceInit
        [(sameCookieRequest, .zero)]).notificationServices i).inUse = false := by decide +kernel
    have hin : ((notifMachine.final notificationServiceInit
        [(sameCookieRequest, .zero)]).info 0 0).inUse := by decide +kernel
    refine ⟨hfree 0, hin, by decide +kernel, fun uuid => ?_, fun h => ?_⟩
    · refine locateService_none.2 fun k hk => ?_
      have hused := hk.1
      rw [hfree k] at hused
      cases hused
    · have hused := (h.live 0).2 ⟨0, hin⟩
      rw [hfree 0] at hused
      cases hused

end Notification
end FfaFeature
