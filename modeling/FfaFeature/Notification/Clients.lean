/-
# The notification service and its clients

Clients register with the notification service over the network of `Ffa.Conversation`.  The
message loop of the partition is its own; all that is asked of it is that it answers the sender
and that the store changes by `NotificationServiceHandle` alone (`Dispatches`).

A request carries the id of the client that made the call, and the clients see one sequential
run of the service.  So what `Provenance` says of a run of the service holds across any
interleaving of clients: **every mapping was registered by a call of the client it names**
(`client_mappings_registered`), and **no call of another client takes it away**
(`client_mappings_kept`).
-/

import FfaFeature.Ffa.Conversation
import FfaFeature.Notification.Provenance

namespace FfaFeature
namespace Notification

open Ffa (Network NetworkEvent NetworkStep Exchange answerOf networkMachine RepliesToSender)

section Loop

variable {σ : Type*}

/-- The message loop hands a request to the notification service as it is, or keeps the store
as it is. -/
structure Dispatches (service : Machine σ DirectMsgArgsEx DirectMsgArgsEx)
    (store : σ → NotifStore) (dispatched : σ → DirectMsgArgsEx → Option DirectMsgArgsEx) :
    Prop where
  runs : RunsService service store dispatched
  unchanged : ∀ s r r', dispatched s r = some r' → r' = r

variable (ffaStatusToEfiStatus : BitVec 64 → EfiStatus)
  {service : Machine σ DirectMsgArgsEx DirectMsgArgsEx} {store : σ → NotifStore}
  {dispatched : σ → DirectMsgArgsEx → Option DirectMsgArgsEx} (partition : BitVec 16)

/-- The requests answered in a part of a run, in the order of the answers. -/
def answered (h : List (NetworkStep σ)) : List Exchange := h.filterMap answerOf

/-- The state of the service once these requests are answered. -/
def serviceAfter (service : Machine σ DirectMsgArgsEx DirectMsgArgsEx) (partition : BitVec 16)
    (s₀ : σ) (exchanges : List Exchange) : σ :=
  service.final s₀ (exchanges.map (Exchange.request partition))

/-- **An entry in use was registered by the request of an exchange**, and no later one changed
it. -/
theorem registered_exchange (hdispatch : Dispatches service store dispatched) {s₀ : σ}
    (h₀ : store s₀ = notificationServiceInit) (exchanges : List Exchange) {i : Fin maxServices}
    {j : Fin maxMappings} {info : NotifInfo}
    (hinfo : (store (serviceAfter service partition s₀ exchanges)).info i j = info)
    (hin : info.inUse) :
    ∃ before x after, exchanges = before ++ x :: after ∧ Registers (x.request partition) info ∧
      ∀ k, (store (serviceAfter service partition s₀ (before ++ x :: after.take k))).info i j =
        info := by
  subst hinfo
  obtain ⟨steps, e, steps', hhistory, ⟨hpost, r, hr, hregisters⟩, hkept⟩ :=
    hdispatch.runs.registered_since h₀ _ i j hin
  obtain ⟨rs, r', rs', hsplit, rfl, rfl⟩ := Machine.history_split hhistory
  obtain ⟨before, rest, rfl, rfl, hrest⟩ := List.map_eq_append_iff.1 hsplit
  obtain ⟨x, after, rfl, rfl, rfl⟩ := List.map_eq_cons_iff.1 hrest
  obtain rfl := hdispatch.unchanged _ _ _ hr
  refine ⟨before, x, after, rfl, hregisters, fun k => ?_⟩
  -- the steps after the registration are those of the exchanges after it
  rw [hsplit, Machine.history_append, Machine.history] at hhistory
  obtain ⟨-, rfl⟩ := List.cons.inj (List.append_cancel_left hhistory)
  have hfinal := @Machine.final_take_of_history _ _ _ service
    (fun s => (store s).info i j = _) _ _ hpost hkept k
  rw [← List.map_take] at hfinal
  unfold serviceAfter
  rw [List.map_append, List.map_cons, Machine.final_append]
  exact hfinal

/-- **Every mapping was registered by a call of the client it names.**  Wherever a run has come
to, an entry in use was put in its place when a call of that client was answered, by a
`REGISTER` that carries it, and no later answer changed it. -/
theorem client_mappings_registered (hdispatch : Dispatches service store dispatched)
    (hreplies : RepliesToSender service) {s₀ : σ} (h₀ : store s₀ = notificationServiceInit)
    (events : List NetworkEvent) {i : Fin maxServices} {j : Fin maxMappings} {info : NotifInfo}
    (hinfo : (store ((networkMachine ffaStatusToEfiStatus service partition).final (.start s₀)
      events).service).info i j = info) (hin : info.inUse) :
    ∃ before x after,
      answered ((networkMachine ffaStatusToEfiStatus service partition).history (.start s₀)
          events) = before ++ x :: after ∧
      x.client = info.sourceId ∧ Registers (x.request partition) info ∧
        ∀ k, (store (serviceAfter service partition s₀ (before ++ x :: after.take k))).info i j =
          info := by
  have hrun := (Ffa.network_sequential ffaStatusToEfiStatus service partition hreplies s₀ events).2
  rw [hrun.state] at hinfo
  obtain ⟨before, x, after, hsplit, hregisters, hkept⟩ :=
    registered_exchange partition hdispatch h₀ _ hinfo hin
  exact ⟨before, x, after, hsplit, hregisters.sourceId, hregisters, hkept⟩

/-- **No call of another client takes a mapping away.**  Along a part of a run in which no call
of `owner` is answered, its mappings stay where and as they are. -/
theorem client_mappings_kept (hdispatch : Dispatches service store dispatched)
    (hreplies : RepliesToSender service) (s₀ : σ) (owner : BitVec 16)
    (events events' : List NetworkEvent)
    (hnone : ∀ x ∈ answered ((networkMachine ffaStatusToEfiStatus service partition).history
      ((networkMachine ffaStatusToEfiStatus service partition).final (.start s₀) events) events'),
      x.client ≠ owner) :
    OwnedKept owner
      (store ((networkMachine ffaStatusToEfiStatus service partition).final (.start s₀)
        events).service)
      (store ((networkMachine ffaStatusToEfiStatus service partition).final (.start s₀)
        (events ++ events')).service) := by
  have hrun := (Ffa.network_sequential ffaStatusToEfiStatus service partition hreplies s₀ events).2
  have hrun' :=
    (Ffa.network_sequential ffaStatusToEfiStatus service partition hreplies s₀
      (events ++ events')).2
  rw [hrun.state, hrun'.state, Machine.history_append, List.filterMap_append, List.map_append,
    Machine.final_append]
  refine hdispatch.runs.ownedKept owner _ _ fun e he r hr => ?_
  obtain ⟨before, after, hsplit⟩ := List.append_of_mem he
  obtain ⟨rs, r', rs', hmap, -, rfl⟩ := Machine.history_split hsplit
  obtain rfl := hdispatch.unchanged _ _ _ hr
  obtain ⟨x, hx, rfl⟩ := List.mem_map.1
    (hmap ▸ List.mem_append_right rs (List.mem_cons_self ..) : r ∈ _)
  exact hnone x hx

end Loop

/-! ### A run -/

/-- A message loop with the notification service alone. -/
def notificationLoop : Machine NotifStore DirectMsgArgsEx DirectMsgArgsEx where
  step s request :=
    let (s, response) := notificationServiceHandle s request .zero
    (s, { response with sourceId := request.destinationId, destinationId := request.sourceId })

/-- The loop hands every request to the service. -/
theorem dispatches_notificationLoop :
    Dispatches notificationLoop id fun _ request => some request where
  runs.served _ _ _ h := by
    obtain rfl := Option.some.inj h
    rfl
  runs.kept _ _ h := nomatch h
  unchanged _ _ _ h := (Option.some.inj h).symm

/-- It replies to the sender. -/
theorem repliesToSender_notificationLoop : RepliesToSender notificationLoop :=
  fun _ _ => ⟨rfl, rfl⟩

/-- The client `1` registers a mapping. -/
def registerCall : List NetworkEvent := [.call 1 ⟨none, zeroUuidRequest⟩, .deliver 1, .respond]

/-- The client `2` tries to take it away. -/
def unregisterCall : List NetworkEvent :=
  [.call 2 ⟨none, { zeroUuidRequest with arg5 := 3 }⟩, .deliver 2, .respond]

/-- The network of that message loop. -/
def notificationNetwork : Machine (Network NotifStore) NetworkEvent Ffa.NetworkOutput :=
  networkMachine (fun _ => .deviceError) notificationLoop 0x8002

/-- The mapping of a client that registered. -/
theorem client_mappings_registered_one :
    ∃ before x after,
      answered (notificationNetwork.history (.start notificationServiceInit) registerCall) =
        before ++ x :: after ∧
      x.client = 1 ∧ Registers (x.request 0x8002) ⟨1, 1, false, 1, true⟩ ∧
        ∀ k, (serviceAfter notificationLoop 0x8002 notificationServiceInit
          (before ++ x :: after.take k)).info 0 0 = ⟨1, 1, false, 1, true⟩ :=
  @client_mappings_registered _ (fun _ => .deviceError) notificationLoop id
    (fun _ request => some request) 0x8002 dispatches_notificationLoop
    repliesToSender_notificationLoop notificationServiceInit rfl registerCall 0 0
    ⟨1, 1, false, 1, true⟩ (by decide +kernel) rfl

/-- It stays while another client is answered. -/
theorem client_mappings_kept_two :
    OwnedKept 1
      (notificationNetwork.final (.start notificationServiceInit) registerCall).service
      (notificationNetwork.final (.start notificationServiceInit)
        (registerCall ++ unregisterCall)).service := by
  refine client_mappings_kept (fun _ => .deviceError) 0x8002 dispatches_notificationLoop
    repliesToSender_notificationLoop notificationServiceInit 1 registerCall unregisterCall ?_
  have hclients : (answered (notificationNetwork.history
      (notificationNetwork.final (.start notificationServiceInit) registerCall)
        unregisterCall)).map (·.client) = [2] := by decide +kernel
  intro x hx
  have hclient : x.client ∈ [2] := hclients ▸ List.mem_map_of_mem hx
  rw [List.mem_singleton.1 hclient]
  decide

end Notification
end FfaFeature
