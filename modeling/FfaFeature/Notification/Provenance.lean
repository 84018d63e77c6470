/-
# Where the mappings of a run come from

An entry in use after a request was there before, or the request is a `REGISTER` that carries
its mapping (`handleOpcode_origin`).  So along any run **every mapping was registered by its own
source, and has been in its place since** (`RunsService.registered_since`).

The run need not be one of the service alone.  `RunsService` is a machine with a store among
its state that nothing but requests to the service change: the service itself, or a larger
system it is part of.
-/

import FfaFeature.Notification.Outcome
import FfaFeature.Notification.Ownership

namespace FfaFeature
namespace Notification

/-- The request is a `REGISTER` that carries the mapping of the entry, from its source. -/
def Registers (request : DirectMsgArgsEx) (info : NotifInfo) : Prop :=
  opcode request = opcodeRegister ∧
    ∃ m ∈ requestMappings request, m.toInfo request.sourceId = info

/-- A registration is its sender's. -/
theorem Registers.sourceId {request : DirectMsgArgsEx} {info : NotifInfo}
    (h : Registers request info) : request.sourceId = info.sourceId := by
  obtain ⟨-, m, -, rfl⟩ := h
  rfl

/-- **An entry in use after a request was there before, or the request registers it.** -/
theorem handleOpcode_origin {s : NotifStore} (hs : StoreInv s) {request : DirectMsgArgsEx}
    {i : Fin maxServices} {j : Fin maxMappings}
    (hin : ((handleOpcode s request).2.info i j).inUse) :
    (handleOpcode s request).2.info i j = s.info i j ∨
      Registers request ((handleOpcode s request).2.info i j) := by
  rcases handleOpcode_eq s request with ⟨-, -, he⟩ | ⟨k, hslot, he⟩ | ⟨k, -, he⟩
  · exact .inl (by rw [he])
  · have hop : opcode request = opcodeRegister := by
      by_contra hne
      unfold requestSlot at hslot
      rw [if_neg hne] at hslot
      split_ifs at hslot
      obtain ⟨_, -, hslot⟩ := Option.map_eq_some_iff.1 hslot
      cases hslot
    rw [he, registerAt_info, updateServiceInfo_eq] at hin ⊢
    split_ifs at hin ⊢
    · exact .inl rfl
    · rcases applyMappings_register_origin hs hin with hold | ⟨n, -, m, hm, hnew⟩
      · exact .inl hold
      · exact .inr ⟨hop, m, List.mem_of_mem_take hm, hnew.symm⟩
  · rw [he, updateServiceInfo_eq] at hin ⊢
    split_ifs at hin ⊢
    · exact .inl rfl
    · exact .inl (applyMappings_unregister_origin hin)

/-- A machine with a store that changes by requests to the service alone. -/
structure RunsService {σ ι ω : Type*} (M : Machine σ ι ω) (store : σ → NotifStore)
    (request : σ → ι → Option DirectMsgArgsEx) : Prop where
  served : ∀ s i r, request s i = some r → store (M.step s i).1 = (handleOpcode (store s) r).2
  kept : ∀ s i, request s i = none → store (M.step s i).1 = store s

namespace RunsService

variable {σ ι ω : Type*} {M : Machine σ ι ω} {store : σ → NotifStore}
  {request : σ → ι → Option DirectMsgArgsEx}

/-- The invariant holds along a run. -/
theorem storeInv (h : RunsService M store request) {s₀ : σ} (h₀ : StoreInv (store s₀))
    (is : List ι) : StoreInv (store (M.final s₀ is)) := by
  refine @Machine.final_of_step _ _ _ M (fun s => StoreInv (store s)) _ h₀ (fun s i hs => ?_) is
  cases hr : request s i with
  | none =>
    rw [h.kept s i hr]
    exact hs
  | some r =>
    rw [h.served s i r hr]
    exact storeInv_handleOpcode hs r

/-- A step at which the entry is registered, in its place. -/
def RegistersAt (store : σ → NotifStore) (request : σ → ι → Option DirectMsgArgsEx)
    (i : Fin maxServices) (j : Fin maxMappings) (info : NotifInfo) (e : Machine.Step σ ι ω) :
    Prop :=
  (store e.post).info i j = info ∧ ∃ r, request e.pre e.input = some r ∧ Registers r info

/-- **Every mapping was registered by its own source, and has been in its place since.** -/
theorem registered_since (h : RunsService M store request) {s₀ : σ}
    (h₀ : store s₀ = notificationServiceInit) (is : List ι) (i : Fin maxServices)
    (j : Fin maxMappings) (hin : ((store (M.final s₀ is)).info i j).inUse) :
    Machine.Since (RegistersAt store request i j ((store (M.final s₀ is)).info i j))
      (fun e => (store e.post).info i j = (store (M.final s₀ is)).info i j)
      (M.history s₀ is) := by
  induction is using List.reverseRecOn with
  | nil =>
    rw [Machine.final_nil, h₀] at hin
    cases hin
  | append_singleton is m ih =>
    have hinv := h.storeInv (by rw [h₀]; exact storeInv_init) is
    rw [Machine.final_concat] at hin ⊢
    rw [Machine.history_concat]
    -- an entry that the last step leaves as it was is covered by the run before
    have hsame : (store (M.step (M.final s₀ is) m).1).info i j =
        (store (M.final s₀ is)).info i j →
        Machine.Since
          (RegistersAt store request i j ((store (M.step (M.final s₀ is) m).1).info i j))
          (fun e => (store e.post).info i j = (store (M.step (M.final s₀ is) m).1).info i j)
          (M.history s₀ is ++ [M.stepAt (M.final s₀ is) m]) := by
      intro hsame
      rw [hsame] at hin ⊢
      exact (ih hin).later hsame
    cases hr : request (M.final s₀ is) m with
    | none => exact hsame (by rw [h.kept _ _ hr])
    | some r =>
      have hserved := h.served _ _ _ hr
      rw [hserved] at hin
      rcases handleOpcode_origin hinv hin with hold | hnew
      · exact hsame (by rw [hserved, hold])
      · rw [← hserved] at hnew
        exact .here ⟨rfl, r, hr, hnew⟩

/-- A run without requests of a partition keeps its mappings. -/
theorem ownedKept (h : RunsService M store request) (owner : BitVec 16) (s₀ : σ) (is : List ι)
    (hother : ∀ e ∈ M.history s₀ is, ∀ r, request e.pre e.input = some r → r.sourceId ≠ owner) :
    OwnedKept owner (store s₀) (store (M.final s₀ is)) := by
  refine @Machine.final_of_steps _ _ _ M (fun s => OwnedKept owner (store s₀) (store s))
    (fun s i => ∀ r, request s i = some r → r.sourceId ≠ owner) _ (OwnedKept.refl owner _)
    (fun s i hne hs => ?_) is hother
  cases hr : request s i with
  | none =>
    rw [h.kept s i hr]
    exact hs
  | some r =>
    rw [h.served s i r hr]
    exact hs.trans (handleOpcode_ownedKept _ (hne r hr))

end RunsService

end Notification
end FfaFeature
