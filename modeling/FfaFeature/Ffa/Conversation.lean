/-
# Clients and a partition

Any number of clients call `FfaMessageSendDirectReq2` while a partition waits for requests with
`FfaMessageWait`, and from then on with `FfaMessageSendDirectResp2`, which sends the response
to the last request and waits for the next.  In between the SPMC hands the registers over: it
delivers the request of any client that waits, delivers interrupts to whoever is blocked, and
may refuse a request instead.  What the partition makes of a request is a machine of its own,
the *service*, whose responses go back to where the request came from.

In whatever order this happens, every call returns once, and **what the clients see is one
sequential run of the service** on the requests answered: each client gets the response to its
own request, with nothing lost, repeated or changed on the way
(`direct_requests_sequential`).
-/

import FfaFeature.Ffa.DirectRequest
import FfaFeature.Lib.Machine

namespace FfaFeature
namespace Ffa

/-! ### The network -/

/-- The arguments of a call of `FfaMessageSendDirectReq2`. -/
structure DirectCall where
  serviceGuid : Option EfiGuid
  impDefArgs : DirectMsgArgsEx

/-- A call that has not returned, and the results delivered to it. -/
structure OpenCall where
  call : DirectCall
  results : List ArmSxcArgs

/-- The partition with its service and what its blocked function was called with, and the
clients with their `mPartitionId` and the calls they are in.  `current` is the request the
service works on: its sender, and the message received. -/
structure Network (σ : Type*) where
  service : σ
  receiver : Receiver
  response : DirectMsgArgsEx
  message : DirectMsgArgsEx
  results : List ArmSxcArgs
  current : Option (BitVec 16 × DirectMsgArgsEx)
  mPartitionId : BitVec 16 → BitVec 16
  calls : BitVec 16 → Option OpenCall

/-- What happens next: a client calls, the SPMC delivers an interrupt or a request or refuses
one, or the partition answers. -/
inductive NetworkEvent
  | call (client : BitVec 16) (call : DirectCall)
  | interruptClient (client : BitVec 16) (result : ArmSxcArgs)
  | interruptPartition (result : ArmSxcArgs)
  | refuse (client : BitVec 16) (result : ArmSxcArgs)
  | deliver (client : BitVec 16)
  | respond

/-- What is seen of it: nothing, a call that returns, or a function that does not. -/
inductive NetworkOutput
  | quiet
  | returned (client : BitVec 16) (call : DirectCall) (received : Received)
  | stopped (stop : Stop)

section Steps

variable {σ : Type*} (ffaStatusToEfiStatus : BitVec 64 → EfiStatus)
  (service : Machine σ DirectMsgArgsEx DirectMsgArgsEx) (partition : BitVec 16)

namespace Network

/-- The message a call sends; `ArmFfaLibPartitionIdGet` tells a client its id. -/
def request (net : Network σ) (client : BitVec 16) (call : DirectCall) : DirectMsgArgsEx :=
  directRequest (partitionId (net.mPartitionId client) client) partition call.serviceGuid
    call.impDefArgs

/-- A call is given its last result. -/
def finish (net : Network σ) (client : BitVec 16) (openCall : OpenCall) (result : ArmSxcArgs) :
    Network σ × NetworkOutput :=
  match ffaMessageSendDirectReq2 ffaStatusToEfiStatus client (net.mPartitionId client) partition
      openCall.call.serviceGuid (openCall.results ++ [result]) openCall.call.impDefArgs with
  | .error stop => (net, .stopped stop)
  | .ok (mPartitionId, received) =>
    ({ net with
        mPartitionId := Function.update net.mPartitionId client mPartitionId
        calls := Function.update net.calls client none },
      .returned client openCall.call received)

/-- The partition is given the request of a call. -/
def deliver (net : Network σ) (client : BitVec 16) (openCall : OpenCall) :
    Network σ × NetworkOutput :=
  let registers := ffaPackDirectMessage .zero (net.request partition client openCall.call)
  match net.receiver.run ffaStatusToEfiStatus (net.results ++ [registers]) net.response
      net.message with
  | .error stop => (net, .stopped stop)
  | .ok received =>
    ({ net with
        message := received.message, results := [], current := some (client, received.message) },
      .quiet)

/-- The partition answers the request of a call. -/
def respond (net : Network σ) (client : BitVec 16) (message : DirectMsgArgsEx)
    (openCall : OpenCall) : Network σ × NetworkOutput :=
  let (state, reply) := service.step net.service message
  let response := { reply with functionId := fidMsgSendDirectResp2 }
  let registers := ffaPackDirectMessage .zero response
  -- the SPMC passes a response on from the partition asked to the one that asked only
  if registers.arg1 = packIds partition client then
    finish ffaStatusToEfiStatus partition
      { net with
        service := state, receiver := .messageSendDirectResp2, response := response
        results := [], current := none }
      client openCall registers
  else (net, .quiet)

/-- The call a client is in that the partition does not work on. -/
def waiting (net : Network σ) (client : BitVec 16) : Option OpenCall :=
  match net.current with
  | some (sender, _) => if sender = client then none else net.calls client
  | none => net.calls client

end Network

/-- The network as a machine.  What cannot happen leaves it as it is. -/
def networkMachine : Machine (Network σ) NetworkEvent NetworkOutput where
  step net
    | .call client call =>
      match net.calls client with
      | some _ => (net, .quiet)
      | none => ({ net with calls := Function.update net.calls client (some ⟨call, []⟩) }, .quiet)
    | .interruptClient client result =>
      match net.calls client with
      | some openCall =>
        if result.arg0 = fidInterrupt.setWidth 64 then
          ({ net with
              calls := Function.update net.calls client
                (some { openCall with results := openCall.results ++ [result] }) }, .quiet)
        else (net, .quiet)
      | none => (net, .quiet)
    | .interruptPartition result =>
      if result.arg0 = fidInterrupt.setWidth 64 ∧ net.current = none then
        ({ net with results := net.results ++ [result] }, .quiet)
      else (net, .quiet)
    | .refuse client result =>
      match net.waiting client with
      | some openCall =>
        if result.arg0 = fidError.setWidth 64 then
          net.finish ffaStatusToEfiStatus partition client openCall result
        else (net, .quiet)
      | none => (net, .quiet)
    | .deliver client =>
      match net.current, net.calls client with
      | none, some openCall => net.deliver ffaStatusToEfiStatus partition client openCall
      | _, _ => (net, .quiet)
    | .respond =>
      match net.current with
      | some (client, message) =>
        match net.calls client with
        | some openCall =>
          net.respond ffaStatusToEfiStatus service partition client message openCall
        | none => (net, .quiet)
      | none => (net, .quiet)

/-- The network before anything was sent. -/
def Network.start (s₀ : σ) : Network σ where
  service := s₀
  receiver := .messageWait
  response := .zero
  message := .zero
  results := []
  current := none
  mPartitionId := fun _ => invalidSourceId
  calls := fun _ => none

end Steps

/-! ### The service and its clients, without the network -/

/-- The message `client` sends with a call: in its own name, whoever calls. -/
def requestOf (partition client : BitVec 16) (call : DirectCall) : DirectMsgArgsEx :=
  directRequest client partition call.serviceGuid call.impDefArgs

/-- The response as a client gets it. -/
def asResponse (reply : DirectMsgArgsEx) : DirectMsgArgsEx :=
  { reply with functionId := fidMsgSendDirectResp2 }

/-- The responses of the service go back to where the request came from. -/
def RepliesToSender {σ : Type*} (service : Machine σ DirectMsgArgsEx DirectMsgArgsEx) : Prop :=
  ∀ s request, (service.step s request).2.sourceId = request.destinationId ∧
    (service.step s request).2.destinationId = request.sourceId

/-- The state of the service, and the calls the clients are in. -/
structure Clients (σ : Type*) where
  service : σ
  calls : BitVec 16 → Option DirectCall

section Atomic

variable {σ : Type*} (ffaStatusToEfiStatus : BitVec 64 → EfiStatus)
  (service : Machine σ DirectMsgArgsEx DirectMsgArgsEx) (partition : BitVec 16)

/-- **What may happen to the clients at one event**: nothing, a call is made, one is refused, or
one is answered by the service, which takes one step on the request of that client. -/
inductive ClientsStep (s : Clients σ) : NetworkEvent → NetworkOutput → Clients σ → Prop
  | unseen (event : NetworkEvent) :
      (∀ client call, event = .call client call → s.calls client ≠ none) →
      ClientsStep s event .quiet s
  | called (client : BitVec 16) (call : DirectCall) : s.calls client = none →
      ClientsStep s (.call client call) .quiet
        { s with calls := Function.update s.calls client (some call) }
  | refused (client : BitVec 16) (result : ArmSxcArgs) (call : DirectCall)
      (actions : List Action) : s.calls client = some call →
      ClientsStep s (.refuse client result)
        (.returned client call
          ⟨ffaStatusToEfiStatus result.arg2, requestOf partition client call, actions⟩)
        { s with calls := Function.update s.calls client none }
  | answered (client : BitVec 16) (call : DirectCall) (actions : List Action) :
      s.calls client = some call →
      ClientsStep s .respond
        (.returned client call ⟨.success,
          asResponse (service.step s.service (requestOf partition client call)).2, actions⟩)
        ⟨(service.step s.service (requestOf partition client call)).1,
          Function.update s.calls client none⟩

end Atomic

/-! ### The network refines it -/

/-- What the clients are left with of the network. -/
def Network.clients {σ : Type*} (net : Network σ) : Clients σ :=
  ⟨net.service, fun client => (net.calls client).map OpenCall.call⟩

/-- **The invariant**: a client knows its id or asks for it, what was delivered before the last
result is interrupts, and the partition works on the request of a call that is open. -/
structure NetworkInv {σ : Type*} (partition : BitVec 16) (net : Network σ) : Prop where
  ids : ∀ client, partitionId (net.mPartitionId client) client = client
  results : ∀ r ∈ net.results, r.arg0 = fidInterrupt.setWidth 64
  callResults : ∀ client openCall, net.calls client = some openCall →
    ∀ r ∈ openCall.results, r.arg0 = fidInterrupt.setWidth 64
  current : ∀ client message, net.current = some (client, message) →
    ∃ openCall, net.calls client = some openCall ∧
      message = requestOf partition client openCall.call

section Refinement

variable {σ : Type*} {ffaStatusToEfiStatus : BitVec 64 → EfiStatus}
  {service : Machine σ DirectMsgArgsEx DirectMsgArgsEx} {partition : BitVec 16} {net : Network σ}
  {client : BitVec 16} {openCall : OpenCall} {result : ArmSxcArgs}

/-- The invariant holds at the start. -/
theorem networkInv_start (s₀ : σ) : NetworkInv partition (Network.start s₀) where
  ids _ := if_pos rfl
  results _ h := absurd h List.not_mem_nil
  callResults _ _ h := nomatch h
  current _ _ h := nomatch h

/-- What the partition receives is what the client asked for. -/
theorem NetworkInv.request_eq (h : NetworkInv partition net) (client : BitVec 16)
    (call : DirectCall) : net.request partition client call = requestOf partition client call := by
  unfold Network.request requestOf
  rw [h.ids]

/-- The calls of the clients, with one of them replaced. -/
theorem map_update (calls : BitVec 16 → Option OpenCall) (client : BitVec 16)
    (openCall : Option OpenCall) :
    (fun c => (Function.update calls client openCall c).map OpenCall.call) =
      Function.update (fun c => (calls c).map OpenCall.call) client
        (openCall.map OpenCall.call) := by
  funext c
  by_cases hc : c = client
  · subst hc
    rw [Function.update_self, Function.update_self]
  · rw [Function.update_of_ne hc, Function.update_of_ne hc]

/-- The network once a call has returned. -/
def Network.returned (net : Network σ) (client : BitVec 16) : Network σ :=
  { net with
    mPartitionId := Function.update net.mPartitionId client client
    calls := Function.update net.calls client none }

/-- A call that returns leaves the other clients. -/
theorem Network.returned_clients (net : Network σ) (client : BitVec 16) :
    (net.returned client).clients =
      { net.clients with calls := Function.update net.clients.calls client none } := by
  unfold Network.returned Network.clients
  rw [map_update]
  rfl

/-- A call that the partition does not work on may return. -/
theorem NetworkInv.returned (h : NetworkInv partition net) (client : BitVec 16)
    (hcurrent : ∀ sender message, net.current = some (sender, message) → sender ≠ client) :
    NetworkInv partition (net.returned client) where
  ids c := by
    unfold Network.returned
    dsimp only
    by_cases hc : c = client
    · subst hc
      rw [Function.update_self]
      exact ite_self _
    · rw [Function.update_of_ne hc]
      exact h.ids c
  results := h.results
  callResults c openCall hcall := by
    have hc : c ≠ client := by
      rintro rfl
      exact nomatch (Function.update_self ..).symm.trans hcall
    exact h.callResults c openCall ((Function.update_of_ne hc ..).symm.trans hcall)
  current sender message hsender := by
    obtain ⟨openCall, hcall, hmessage⟩ := h.current sender message hsender
    exact ⟨openCall, (Function.update_of_ne (hcurrent sender message hsender) ..).trans hcall,
      hmessage⟩

/-- A call that is given a response. -/
theorem NetworkInv.finish_response (h : NetworkInv partition net)
    (hcall : net.calls client = some openCall) (reply : DirectMsgArgsEx) :
    ∃ actions, net.finish ffaStatusToEfiStatus partition client openCall
        (ffaPackDirectMessage .zero (asResponse reply)) =
      (net.returned client,
        .returned client openCall.call ⟨.success, asResponse reply, actions⟩) := by
  obtain ⟨actions, hcode⟩ := @ffaMessageSendDirectReq2_resp ffaStatusToEfiStatus client
    (net.mPartitionId client) partition openCall.call.serviceGuid openCall.results []
    openCall.call.impDefArgs (h.callResults client openCall hcall) (asResponse reply) rfl .zero
  refine ⟨actions, ?_⟩
  unfold Network.finish
  rw [hcode, h.ids]
  rfl

/-- A call that is refused. -/
theorem NetworkInv.finish_error (h : NetworkInv partition net)
    (hcall : net.calls client = some openCall) (hresult : result.arg0 = fidError.setWidth 64) :
    ∃ actions, net.finish ffaStatusToEfiStatus partition client openCall result =
      (net.returned client, .returned client openCall.call
        ⟨ffaStatusToEfiStatus result.arg2, requestOf partition client openCall.call, actions⟩) := by
  obtain ⟨actions, hcode⟩ := @ffaMessageSendDirectReq2_error ffaStatusToEfiStatus client
    (net.mPartitionId client) partition openCall.call.serviceGuid openCall.results [] result
    openCall.call.impDefArgs (h.callResults client openCall hcall) hresult
  refine ⟨actions, ?_⟩
  unfold Network.finish
  rw [hcode, h.ids]
  rfl

/-- The network once the partition has got a request. -/
def Network.delivered (net : Network σ) (client : BitVec 16) (message : DirectMsgArgsEx) :
    Network σ :=
  { net with message := message, results := [], current := some (client, message) }

/-- **The partition gets the request as it was sent.** -/
theorem NetworkInv.deliver_eq (h : NetworkInv partition net) (client : BitVec 16)
    (openCall : OpenCall) :
    net.deliver ffaStatusToEfiStatus partition client openCall =
      (net.delivered client (requestOf partition client openCall.call), .quiet) := by
  obtain ⟨actions, hcode⟩ := @Receiver.run_request ffaStatusToEfiStatus net.results [] net.receiver
    h.results (requestOf partition client openCall.call) rfl .zero net.response net.message
  unfold Network.deliver
  dsimp only
  rw [h.request_eq, hcode]
  rfl

/-- The partition, once it has answered and waits for the next request. -/
def Network.answered (net : Network σ) (state : σ) (response : DirectMsgArgsEx) : Network σ :=
  { net with
    service := state, receiver := .messageSendDirectResp2, response := response
    results := [], current := none }

/-- An answer keeps the invariant. -/
theorem NetworkInv.answered (h : NetworkInv partition net) (state : σ)
    (response : DirectMsgArgsEx) : NetworkInv partition (net.answered state response) where
  ids := h.ids
  results _ hr := absurd hr List.not_mem_nil
  callResults := h.callResults
  current _ _ hcurrent := nomatch hcurrent

/-- **The client gets the response of the service to its own request.** -/
theorem NetworkInv.respond_eq (h : NetworkInv partition net) (hreplies : RepliesToSender service)
    (hcall : net.calls client = some openCall) :
    ∃ actions, net.respond ffaStatusToEfiStatus service partition client
        (requestOf partition client openCall.call) openCall =
      ((net.answered (service.step net.service (requestOf partition client openCall.call)).1
          (asResponse
            (service.step net.service (requestOf partition client openCall.call)).2)).returned
          client,
        .returned client openCall.call ⟨.success,
          asResponse (service.step net.service (requestOf partition client openCall.call)).2,
          actions⟩) := by
  obtain ⟨hsource, hdestination⟩ := hreplies net.service (requestOf partition client openCall.call)
  have hroute : (ffaPackDirectMessage .zero
      (asResponse (service.step net.service (requestOf partition client openCall.call)).2)).arg1 =
      packIds partition client := by
    rw [ffaPackDirectMessage_arg1]
    exact congrArg₂ packIds hsource hdestination
  obtain ⟨actions, hfinish⟩ := (h.answered
    (service.step net.service (requestOf partition client openCall.call)).1
    (asResponse
      (service.step net.service (requestOf partition client openCall.call)).2)).finish_response
      hcall (service.step net.service (requestOf partition client openCall.call)).2
  exact ⟨actions, (if_pos hroute).trans hfinish⟩

/-- An open call is one of the clients'. -/
theorem Network.clients_calls (hcall : net.calls client = some openCall) :
    net.clients.calls client = some openCall.call := by
  unfold Network.clients
  dsimp only
  rw [hcall]
  rfl

/-- What leaves the network as it is refines nothing, but for a call of a client that is free. -/
theorem networkStep_unseen (h : NetworkInv partition net) {event : NetworkEvent}
    (hevent : ∀ client call, event = .call client call → net.calls client ≠ none) :
    NetworkInv partition net ∧
      ClientsStep ffaStatusToEfiStatus service partition net.clients event .quiet net.clients := by
  refine ⟨h, .unseen event fun client call hcall => ?_⟩
  obtain ⟨openCall, hopen⟩ := Option.ne_none_iff_exists'.1 (hevent client call hcall)
  rw [Network.clients_calls hopen]
  exact Option.some_ne_none _

/-- A call that is made, or given one more result. -/
def Network.setCall (net : Network σ) (client : BitVec 16) (openCall : OpenCall) : Network σ :=
  { net with calls := Function.update net.calls client (some openCall) }

/-- A call that goes on leaves the other clients. -/
theorem Network.setCall_clients (net : Network σ) (client : BitVec 16) (openCall : OpenCall) :
    (net.setCall client openCall).clients =
      { net.clients with
        calls := Function.update net.clients.calls client (some openCall.call) } := by
  unfold Network.setCall Network.clients
  rw [map_update]
  rfl

/-- And it keeps the invariant. -/
theorem NetworkInv.setCall (h : NetworkInv partition net)
    (hresults : ∀ r ∈ openCall.results, r.arg0 = fidInterrupt.setWidth 64)
    (hcall : ∀ prior, net.calls client = some prior → prior.call = openCall.call) :
    NetworkInv partition (net.setCall client openCall) where
  ids := h.ids
  results := h.results
  callResults c openCall' hc := by
    unfold Network.setCall at hc
    dsimp only at hc
    by_cases hne : c = client
    · subst hne
      rw [Function.update_self] at hc
      obtain rfl := Option.some.inj hc
      exact hresults
    · rw [Function.update_of_ne hne] at hc
      exact h.callResults c openCall' hc
  current sender message hsender := by
    obtain ⟨prior, hprior, hmessage⟩ := h.current sender message hsender
    unfold Network.setCall
    dsimp only
    by_cases hne : sender = client
    · subst hne
      rw [Function.update_self]
      exact ⟨openCall, rfl, hcall prior hprior ▸ hmessage⟩
    · rw [Function.update_of_ne hne]
      exact ⟨prior, hprior, hmessage⟩

variable (ffaStatusToEfiStatus service)

/-- A call. -/
theorem networkStep_call (h : NetworkInv partition net) (call : DirectCall) :
    let next := (networkMachine ffaStatusToEfiStatus service partition).step net
      (.call client call)
    NetworkInv partition next.1 ∧ ClientsStep ffaStatusToEfiStatus service partition net.clients
      (.call client call) next.2 next.1.clients := by
  unfold networkMachine
  dsimp only
  cases hcall : net.calls client with
  | some openCall =>
    refine networkStep_unseen h fun c call' hevent => ?_
    obtain ⟨rfl, -⟩ := NetworkEvent.call.inj hevent
    rw [hcall]
    exact Option.some_ne_none _
  | none =>
    change NetworkInv partition (net.setCall client ⟨call, []⟩) ∧ ClientsStep _ _ _ _ _ _
      (net.setCall client ⟨call, []⟩).clients
    have hfree : net.clients.calls client = none := by
      unfold Network.clients
      dsimp only
      rw [hcall]
      rfl
    rw [Network.setCall_clients]
    refine ⟨h.setCall (fun r hr => absurd hr List.not_mem_nil) fun prior hprior => ?_,
      .called client call hfree⟩
    rw [hcall] at hprior
    cases hprior

/-- An interrupt delivered to a client. -/
theorem networkStep_interruptClient (h : NetworkInv partition net) (result : ArmSxcArgs) :
    let next := (networkMachine ffaStatusToEfiStatus service partition).step net
      (.interruptClient client result)
    NetworkInv partition next.1 ∧ ClientsStep ffaStatusToEfiStatus service partition net.clients
      (.interruptClient client result) next.2 next.1.clients := by
  unfold networkMachine
  dsimp only
  cases hcall : net.calls client with
  | none => exact networkStep_unseen h fun _ _ hevent => nomatch hevent
  | some openCall =>
    dsimp only
    split_ifs with hresult
    · change NetworkInv partition (net.setCall client
          { openCall with results := openCall.results ++ [result] }) ∧
        ClientsStep _ _ _ _ _ _ (net.setCall client
          { openCall with results := openCall.results ++ [result] }).clients
      have hsame : Function.update net.clients.calls client (some openCall.call) =
          net.clients.calls := by
        rw [← Network.clients_calls hcall, Function.update_eq_self]
      rw [Network.setCall_clients, hsame]
      refine ⟨h.setCall (fun r hr => ?_) fun prior hprior => ?_,
        .unseen _ fun _ _ hevent => nomatch hevent⟩
      · rcases List.mem_append.1 hr with hr | hr
        · exact h.callResults client openCall hcall r hr
        · rwa [List.mem_singleton.1 hr]
      · obtain rfl := Option.some.inj (hcall.symm.trans hprior)
        rfl
    · exact networkStep_unseen h fun _ _ hevent => nomatch hevent

/-- An interrupt delivered to the partition. -/
theorem networkStep_interruptPartition (h : NetworkInv partition net) (result : ArmSxcArgs) :
    let next := (networkMachine ffaStatusToEfiStatus service partition).step net
      (.interruptPartition result)
    NetworkInv partition next.1 ∧ ClientsStep ffaStatusToEfiStatus service partition net.clients
      (.interruptPartition result) next.2 next.1.clients := by
  unfold networkMachine
  dsimp only
  split_ifs with hresult
  · refine ⟨⟨h.ids, fun r hr => ?_, h.callResults, h.current⟩, .unseen _ fun _ _ hevent =>
      nomatch hevent⟩
    rcases List.mem_append.1 hr with hr | hr
    · exact h.results r hr
    · rw [List.mem_singleton.1 hr]
      exact hresult.1
  · exact networkStep_unseen h fun _ _ hevent => nomatch hevent

/-- A call that waits is open, and not the one the partition works on. -/
theorem Network.waiting_some (hwaiting : net.waiting client = some openCall) :
    net.calls client = some openCall ∧
      ∀ sender message, net.current = some (sender, message) → sender ≠ client := by
  unfold Network.waiting at hwaiting
  cases hcurrent : net.current with
  | none =>
    rw [hcurrent] at hwaiting
    exact ⟨hwaiting, fun _ _ h => nomatch h⟩
  | some current =>
    obtain ⟨sender, message⟩ := current
    rw [hcurrent] at hwaiting
    dsimp only at hwaiting
    split_ifs at hwaiting with hne
    refine ⟨hwaiting, fun sender' message' h => ?_⟩
    obtain ⟨rfl, -⟩ := Prod.mk.inj (Option.some.inj h)
    exact hne

/-- A request refused. -/
theorem networkStep_refuse (h : NetworkInv partition net) (result : ArmSxcArgs) :
    let next := (networkMachine ffaStatusToEfiStatus service partition).step net
      (.refuse client result)
    NetworkInv partition next.1 ∧ ClientsStep ffaStatusToEfiStatus service partition net.clients
      (.refuse client result) next.2 next.1.clients := by
  unfold networkMachine
  dsimp only
  cases hwaiting : net.waiting client with
  | none => exact networkStep_unseen h fun _ _ hevent => nomatch hevent
  | some openCall =>
    dsimp only
    obtain ⟨hcall, hcurrent⟩ := Network.waiting_some hwaiting
    split_ifs with hresult
    · obtain ⟨actions, hfinish⟩ :=
        @NetworkInv.finish_error σ ffaStatusToEfiStatus _ _ _ _ result h hcall hresult
      rw [hfinish]
      refine ⟨h.returned client hcurrent, ?_⟩
      rw [Network.returned_clients]
      exact .refused client result openCall.call actions (Network.clients_calls hcall)
    · exact networkStep_unseen h fun _ _ hevent => nomatch hevent

/-- A request delivered to the partition. -/
theorem networkStep_deliver (h : NetworkInv partition net) :
    let next := (networkMachine ffaStatusToEfiStatus service partition).step net (.deliver client)
    NetworkInv partition next.1 ∧ ClientsStep ffaStatusToEfiStatus service partition net.clients
      (.deliver client) next.2 next.1.clients := by
  unfold networkMachine
  dsimp only
  cases hcurrent : net.current with
  | some current => exact networkStep_unseen h fun _ _ hevent => nomatch hevent
  | none =>
    cases hcall : net.calls client with
    | none => exact networkStep_unseen h fun _ _ hevent => nomatch hevent
    | some openCall =>
      dsimp only
      rw [h.deliver_eq]
      refine ⟨⟨h.ids, fun _ hr => absurd hr List.not_mem_nil, h.callResults,
        fun sender message hsender => ?_⟩, .unseen _ fun _ _ hevent => nomatch hevent⟩
      obtain ⟨rfl, rfl⟩ := Prod.mk.inj (Option.some.inj hsender)
      exact ⟨openCall, hcall, rfl⟩

/-- A request answered. -/
theorem networkStep_respond (hreplies : RepliesToSender service) (h : NetworkInv partition net) :
    let next := (networkMachine ffaStatusToEfiStatus service partition).step net .respond
    NetworkInv partition next.1 ∧ ClientsStep ffaStatusToEfiStatus service partition net.clients
      .respond next.2 next.1.clients := by
  unfold networkMachine
  dsimp only
  cases hcurrent : net.current with
  | none => exact networkStep_unseen h fun _ _ hevent => nomatch hevent
  | some current =>
    obtain ⟨client, message⟩ := current
    obtain ⟨openCall, hcall, rfl⟩ := h.current client message hcurrent
    dsimp only
    rw [hcall]
    dsimp only
    obtain ⟨actions, hrespond⟩ :=
      @NetworkInv.respond_eq σ ffaStatusToEfiStatus _ _ _ _ _ h hreplies hcall
    rw [hrespond]
    have hinv := h.answered (service.step net.service (requestOf partition client openCall.call)).1
      (asResponse (service.step net.service (requestOf partition client openCall.call)).2)
    refine ⟨hinv.returned client (fun _ _ hnone => nomatch hnone), ?_⟩
    rw [Network.returned_clients]
    exact .answered client openCall.call actions (Network.clients_calls hcall)

/-- **Every step of the network is a step of the clients and the service.** -/
theorem network_refines (hreplies : RepliesToSender service) (h : NetworkInv partition net)
    (event : NetworkEvent) :
    let next := (networkMachine ffaStatusToEfiStatus service partition).step net event
    NetworkInv partition next.1 ∧ ClientsStep ffaStatusToEfiStatus service partition net.clients
      event next.2 next.1.clients := by
  cases event with
  | call client call => exact networkStep_call ffaStatusToEfiStatus service h call
  | interruptClient client result =>
    exact networkStep_interruptClient ffaStatusToEfiStatus service h result
  | interruptPartition result =>
    exact networkStep_interruptPartition ffaStatusToEfiStatus service h result
  | refuse client result => exact networkStep_refuse ffaStatusToEfiStatus service h result
  | deliver client => exact networkStep_deliver ffaStatusToEfiStatus service h
  | respond => exact networkStep_respond ffaStatusToEfiStatus service hreplies h

end Refinement

/-! ### Whole runs -/

/-- A request answered: who asked, with what call, and what came back. -/
structure Exchange where
  client : BitVec 16
  call : DirectCall
  received : Received

/-- The message the service was asked with. -/
def Exchange.request (partition : BitVec 16) (x : Exchange) : DirectMsgArgsEx :=
  requestOf partition x.client x.call

section Runs

variable {σ : Type*}

/-- A step of the network. -/
abbrev NetworkStep (σ : Type*) := Machine.Step (Network σ) NetworkEvent NetworkOutput

/-- The call `client` makes in a step, if it is in no other. -/
def callOf (client : BitVec 16) (e : NetworkStep σ) : Option DirectCall :=
  match e.input with
  | .call caller call =>
    if caller = client ∧ (e.pre.clients.calls caller).isNone then some call else none
  | _ => none

/-- The call of `client` that returns in a step. -/
def returnOf (client : BitVec 16) (e : NetworkStep σ) : Option DirectCall :=
  match e.output with
  | .returned caller call _ => if caller = client then some call else none
  | _ => none

/-- The request answered in a step. -/
def answerOf (e : NetworkStep σ) : Option Exchange :=
  match e.input, e.output with
  | .respond, .returned client call received => some ⟨client, call, received⟩
  | _, _ => none

variable (ffaStatusToEfiStatus : BitVec 64 → EfiStatus)
  (service : Machine σ DirectMsgArgsEx DirectMsgArgsEx) (partition : BitVec 16)

/-- **What the clients see is one sequential run of the service.** -/
structure SequentialRun (s₀ : σ) (h : List (NetworkStep σ)) (net : Network σ) : Prop where
  /-- No function of the library fails an `ASSERT`. -/
  runs : ∀ e ∈ h, ∀ stop, e.output ≠ .stopped stop
  /-- The calls of a client return once each, in order, but for one that may still be open. -/
  returns : ∀ client,
    h.filterMap (callOf client) = h.filterMap (returnOf client) ++ (net.clients.calls client).toList
  /-- The service has made one step for each request answered, in the order of the answers. -/
  state : net.service =
    service.final s₀ ((h.filterMap answerOf).map (Exchange.request partition))
  /-- And the messages received are its responses. -/
  responses : (h.filterMap answerOf).map (fun x => x.received.message) =
    (service.history s₀ ((h.filterMap answerOf).map (Exchange.request partition))).map
      (fun e => asResponse e.output)
  succeeds : ∀ x ∈ h.filterMap answerOf, x.received.status = .success
  /-- A call that is refused leaves its message as it was sent. -/
  refused : ∀ e ∈ h, ∀ client result, e.input = .refuse client result →
    ∀ caller call received, e.output = .returned caller call received → caller = client ∧
      received.status = ffaStatusToEfiStatus result.arg2 ∧
        received.message = requestOf partition client call

section Steps

variable {ffaStatusToEfiStatus : BitVec 64 → EfiStatus}
  {service : Machine σ DirectMsgArgsEx DirectMsgArgsEx} {partition : BitVec 16}
  {e : NetworkStep σ}

/-- A step, as the clients see it. -/
def SeenAs (ffaStatusToEfiStatus : BitVec 64 → EfiStatus)
    (service : Machine σ DirectMsgArgsEx DirectMsgArgsEx) (partition : BitVec 16)
    (e : NetworkStep σ) : Prop :=
  ClientsStep ffaStatusToEfiStatus service partition e.pre.clients e.input e.output e.post.clients

/-- **A call is open from when it is made until it returns.** -/
theorem SeenAs.balance (h : SeenAs ffaStatusToEfiStatus service partition e) (client : BitVec 16) :
    (e.pre.clients.calls client).toList ++ (callOf client e).toList =
      (returnOf client e).toList ++ (e.post.clients.calls client).toList := by
  obtain ⟨pre, input, output, post⟩ := e
  unfold SeenAs at h
  unfold callOf returnOf
  dsimp only at h ⊢
  generalize hpost : post.clients = after at h ⊢
  cases h with
  | unseen _ hbusy =>
    cases input with
    | call caller call =>
      have hsome : ¬ (caller = client ∧ (pre.clients.calls caller).isNone) := fun hnone =>
        hbusy caller call rfl (Option.isNone_iff_eq_none.1 hnone.2)
      dsimp only
      rw [if_neg hsome]
      exact List.append_nil _
    | _ => exact List.append_nil _
  | called caller call hfree =>
    dsimp only
    by_cases hc : caller = client
    · subst hc
      rw [if_pos ⟨rfl, by rw [hfree]; rfl⟩, hfree, Function.update_self]
    · rw [if_neg fun hboth => hc hboth.1, Function.update_of_ne (Ne.symm hc)]
      exact List.append_nil _
  | refused caller result call actions hcall =>
    dsimp only
    by_cases hc : caller = client
    · subst hc
      rw [if_pos rfl, hcall, Function.update_self]
    · rw [if_neg hc, Function.update_of_ne (Ne.symm hc)]
      exact List.append_nil _
  | answered caller call actions hcall =>
    dsimp only
    by_cases hc : caller = client
    · subst hc
      rw [if_pos rfl, hcall, Function.update_self]
    · rw [if_neg hc, Function.update_of_ne (Ne.symm hc)]
      exact List.append_nil _

/-- **The service moves exactly when it answers**, on the request answered. -/
theorem SeenAs.answer (h : SeenAs ffaStatusToEfiStatus service partition e) :
    (answerOf e = none ∧ e.post.clients.service = e.pre.clients.service) ∨
      ∃ x, answerOf e = some x ∧ x.received.status = .success ∧
        e.post.clients.service =
          (service.step e.pre.clients.service (x.request partition)).1 ∧
        x.received.message =
          asResponse (service.step e.pre.clients.service (x.request partition)).2 := by
  obtain ⟨pre, input, output, post⟩ := e
  unfold SeenAs at h
  unfold answerOf
  dsimp only at h ⊢
  generalize hpost : post.clients = after at h ⊢
  cases h with
  | unseen _ _ => exact .inl ⟨by cases input <;> rfl, rfl⟩
  | called caller call _ => exact .inl ⟨rfl, rfl⟩
  | refused caller result call actions _ => exact .inl ⟨rfl, rfl⟩
  | answered caller call actions _ => exact .inr ⟨_, rfl, rfl, rfl, rfl⟩

/-- A function of the library returns. -/
theorem SeenAs.runs (h : SeenAs ffaStatusToEfiStatus service partition e) (stop : Stop) :
    e.output ≠ .stopped stop := by
  unfold SeenAs at h
  generalize e.post.clients = after, e.input = input, e.output = output at h ⊢
  cases h <;> exact nofun

/-- A call that is refused. -/
theorem SeenAs.refused (h : SeenAs ffaStatusToEfiStatus service partition e) {client : BitVec 16}
    {result : ArmSxcArgs} (hinput : e.input = .refuse client result) {caller : BitVec 16}
    {call : DirectCall} {received : Received}
    (houtput : e.output = .returned caller call received) : caller = client ∧
      received.status = ffaStatusToEfiStatus result.arg2 ∧
        received.message = requestOf partition client call := by
  unfold SeenAs at h
  rw [hinput, houtput] at h
  generalize e.post.clients = after at h
  cases h with
  | refused _ _ _ actions _ => exact ⟨rfl, rfl, rfl⟩

/-- A run with one step more. -/
theorem SequentialRun.concat {s₀ : σ} {h : List (NetworkStep σ)}
    (hrun : SequentialRun ffaStatusToEfiStatus service partition s₀ h e.pre)
    (hseen : SeenAs ffaStatusToEfiStatus service partition e) :
    SequentialRun ffaStatusToEfiStatus service partition s₀ (h ++ [e]) e.post := by
  have hlast : ∀ {p : NetworkStep σ → Prop}, (∀ x ∈ h, p x) → p e → ∀ x ∈ h ++ [e], p x :=
    fun hall he => List.forall_mem_append.2 ⟨hall, List.forall_mem_singleton.2 he⟩
  have hreturns : ∀ client, (h ++ [e]).filterMap (callOf client) =
      (h ++ [e]).filterMap (returnOf client) ++ (e.post.clients.calls client).toList := by
    intro client
    have hbalance := hseen.balance client
    have hone : ∀ f : NetworkStep σ → Option DirectCall, [e].filterMap f = (f e).toList := by
      intro f
      cases hf : f e <;> simp [hf]
    rw [List.filterMap_append, List.filterMap_append, hone, hone, hrun.returns, List.append_assoc,
      List.append_assoc, hbalance]
  have hservice : e.pre.clients.service = e.pre.service := rfl
  rcases hseen.answer with ⟨hnone, hsame⟩ | ⟨x, hx, hstatus, hstate, hmessage⟩
  · have hanswers : (h ++ [e]).filterMap answerOf = h.filterMap answerOf := by
      rw [List.filterMap_append, List.filterMap_cons_none hnone, List.filterMap_nil,
        List.append_nil]
    refine ⟨hlast hrun.runs hseen.runs, hreturns, ?_, ?_, ?_,
      hlast hrun.refused fun _ _ hinput _ _ _ => hseen.refused hinput⟩
    · rw [hanswers, ← hrun.state]
      exact hsame
    · rw [hanswers]
      exact hrun.responses
    · rw [hanswers]
      exact hrun.succeeds
  · have hanswers : (h ++ [e]).filterMap answerOf = h.filterMap answerOf ++ [x] := by
      rw [List.filterMap_append, List.filterMap_cons_some hx, List.filterMap_nil]
    rw [hservice, hrun.state] at hstate hmessage
    refine ⟨hlast hrun.runs hseen.runs, hreturns, ?_, ?_, ?_,
      hlast hrun.refused fun _ _ hinput _ _ _ => hseen.refused hinput⟩
    · rw [hanswers, List.map_append, List.map_singleton, Machine.final_concat]
      exact hstate
    · rw [hanswers, List.map_append, List.map_append, List.map_singleton, List.map_singleton,
        Machine.history_concat, List.map_append, List.map_singleton, hrun.responses, hmessage]
      rfl
    · rw [hanswers]
      exact List.forall_mem_append.2 ⟨hrun.succeeds, List.forall_mem_singleton.2 hstatus⟩

end Steps

/-- The invariant along a run, and what the clients have seen of it. -/
theorem network_sequential (hreplies : RepliesToSender service) (s₀ : σ)
    (events : List NetworkEvent) :
    NetworkInv partition
        ((networkMachine ffaStatusToEfiStatus service partition).final (.start s₀) events) ∧
      SequentialRun ffaStatusToEfiStatus service partition s₀
        ((networkMachine ffaStatusToEfiStatus service partition).history (.start s₀) events)
        ((networkMachine ffaStatusToEfiStatus service partition).final (.start s₀) events) := by
  refine @Machine.final_of_history _ _ _ (networkMachine ffaStatusToEfiStatus service partition)
    (fun h net => NetworkInv partition net ∧
      SequentialRun ffaStatusToEfiStatus service partition s₀ h net) (fun _ _ => True) _
    ⟨networkInv_start s₀, ⟨by simp, fun client => rfl, rfl, rfl, by simp, by simp⟩⟩ ?_ events
    fun _ _ => trivial
  rintro h net event - ⟨hinv, hrun⟩
  obtain ⟨hnext, hstep⟩ := network_refines ffaStatusToEfiStatus service hreplies hinv event
  have hseen : SeenAs ffaStatusToEfiStatus service partition
      ((networkMachine ffaStatusToEfiStatus service partition).stepAt net event) := hstep
  exact ⟨hnext, hrun.concat hseen⟩

/-- **Direct requests are answered as if one after the other.**  In whatever order any number of
clients call, requests and interrupts are delivered and requests refused, every call returns at
most once, and what the clients receive is one sequential run of the service on the requests
answered, each in the name of the client that sent it. -/
theorem direct_requests_sequential (hreplies : RepliesToSender service) (s₀ : σ)
    (events : List NetworkEvent) :
    SequentialRun ffaStatusToEfiStatus service partition s₀
      ((networkMachine ffaStatusToEfiStatus service partition).history (.start s₀) events)
      ((networkMachine ffaStatusToEfiStatus service partition).final (.start s₀) events) :=
  (network_sequential ffaStatusToEfiStatus service partition hreplies s₀ events).2

/-- A service that counts its requests. -/
def counter : Machine ℕ DirectMsgArgsEx DirectMsgArgsEx where
  step n request :=
    (n + 1, { DirectMsgArgsEx.zero with
      sourceId := request.destinationId, destinationId := request.sourceId, arg0 := n })

/-- It replies to its sender. -/
theorem repliesToSender_counter : RepliesToSender counter := fun _ _ => ⟨rfl, rfl⟩

/-- Client 1 calls first and client 2 is served first, with an interrupt for either side. -/
def twoClients : List NetworkEvent :=
  [.call 1 ⟨none, .zero⟩, .call 2 ⟨none, .zero⟩,
    .interruptClient 1 { ArmSxcArgs.zero with arg0 := 0x84000062 },
    .interruptPartition { ArmSxcArgs.zero with arg0 := 0x84000062 },
    .deliver 2, .respond, .deliver 1, .respond]

/-- Both calls are answered, the second client's first. -/
theorem direct_requests_sequential_twoClients :
    (((networkMachine (fun _ => .deviceError) counter 0x8002).history (.start 0)
        twoClients).filterMap answerOf).map (fun x => (x.client, x.received.message.arg0)) =
      [(2, 0), (1, 1)] ∧
    SequentialRun (fun _ => .deviceError) counter 0x8002 0
      ((networkMachine (fun _ => .deviceError) counter 0x8002).history (.start 0) twoClients)
      ((networkMachine (fun _ => .deviceError) counter 0x8002).final (.start 0) twoClients) :=
  ⟨by decide +kernel,
    direct_requests_sequential (fun _ => .deviceError) counter 0x8002 repliesToSender_counter 0
      twoClients⟩

/-! ### Nobody waits for ever -/

section Progress

variable {net : Network σ} {client : BitVec 16}

/-- The partition answers what it works on, and is free. -/
theorem step_respond (hreplies : RepliesToSender service) (h : NetworkInv partition net) :
    ((networkMachine ffaStatusToEfiStatus service partition).step net .respond).1.current = none ∧
      ∀ message, net.current = some (client, message) →
        ((networkMachine ffaStatusToEfiStatus service partition).step net .respond).1.calls client =
          none := by
  unfold networkMachine
  dsimp only
  cases hcurrent : net.current with
  | none => exact ⟨hcurrent, fun _ hmessage => nomatch hmessage⟩
  | some current =>
    obtain ⟨sender, message⟩ := current
    obtain ⟨openCall, hcall, rfl⟩ := h.current sender message hcurrent
    dsimp only
    rw [hcall]
    dsimp only
    obtain ⟨actions, hrespond⟩ :=
      @NetworkInv.respond_eq σ ffaStatusToEfiStatus _ _ _ _ _ h hreplies hcall
    rw [hrespond]
    refine ⟨rfl, fun message' hmessage => ?_⟩
    obtain ⟨rfl, -⟩ := Prod.mk.inj (Option.some.inj hmessage)
    exact Function.update_self ..

/-- A partition that is free takes the request of any call that is open. -/
theorem step_deliver (h : NetworkInv partition net) (hfree : net.current = none)
    {openCall : OpenCall} (hcall : net.calls client = some openCall) :
    ((networkMachine ffaStatusToEfiStatus service partition).step net (.deliver client)).1.current =
      some (client, requestOf partition client openCall.call) := by
  unfold networkMachine
  dsimp only
  rw [hfree, hcall]
  dsimp only
  rw [h.deliver_eq]
  rfl

/-- A call that has returned stays so until the next. -/
theorem step_closed (hreplies : RepliesToSender service) (h : NetworkInv partition net)
    {event : NetworkEvent} (hevent : ∀ call, event ≠ .call client call)
    (hclosed : net.calls client = none) :
    ((networkMachine ffaStatusToEfiStatus service partition).step net event).1.calls client =
      none := by
  have hstep := (network_refines ffaStatusToEfiStatus service hreplies h event).2
  have hpre : net.clients.calls client = none := by
    unfold Network.clients
    dsimp only
    rw [hclosed]
    rfl
  suffices hpost : ((networkMachine ffaStatusToEfiStatus service partition).step net
      event).1.clients.calls client = none from Option.map_eq_none_iff.1 hpost
  generalize ((networkMachine ffaStatusToEfiStatus service partition).step net event).1.clients =
    after, ((networkMachine ffaStatusToEfiStatus service partition).step net event).2 = output
    at hstep
  cases hstep with
  | unseen _ _ => exact hpre
  | called caller call _ =>
    have hne : client ≠ caller := by
      rintro rfl
      exact hevent call rfl
    exact (Function.update_of_ne hne ..).trans hpre
  | refused caller _ _ _ _ =>
    by_cases hne : client = caller
    · subst hne
      exact Function.update_self ..
    · exact (Function.update_of_ne hne ..).trans hpre
  | answered caller _ _ _ =>
    by_cases hne : client = caller
    · subst hne
      exact Function.update_self ..
    · exact (Function.update_of_ne hne ..).trans hpre

end Progress

/-- **No call waits for ever**: wherever a run has come to, the partition answers what it works
on, then takes the request of the client, and answers that. -/
theorem open_call_returns (hreplies : RepliesToSender service) (s₀ : σ)
    (events : List NetworkEvent) (client : BitVec 16) :
    ((networkMachine ffaStatusToEfiStatus service partition).final (.start s₀)
      (events ++ [.respond] ++ [.deliver client] ++ [.respond])).calls client = none := by
  have hinv : ∀ events, NetworkInv partition
      ((networkMachine ffaStatusToEfiStatus service partition).final (.start s₀) events) :=
    fun events => (network_sequential ffaStatusToEfiStatus service partition hreplies s₀ events).1
  rw [Machine.final_concat]
  have hfree : ((networkMachine ffaStatusToEfiStatus service partition).final (.start s₀)
      (events ++ [.respond])).current = none := by
    rw [Machine.final_concat]
    exact (@step_respond _ ffaStatusToEfiStatus service partition _ client hreplies
      (hinv events)).1
  cases hcall : ((networkMachine ffaStatusToEfiStatus service partition).final (.start s₀)
      (events ++ [.respond])).calls client with
  | none =>
    refine step_closed ffaStatusToEfiStatus service partition hreplies (hinv _)
      (fun _ h => nomatch h) ?_
    rw [Machine.final_concat]
    exact step_closed ffaStatusToEfiStatus service partition hreplies (hinv _)
      (fun _ h => nomatch h) hcall
  | some openCall =>
    refine (step_respond ffaStatusToEfiStatus service partition hreplies (hinv _)).2
      (requestOf partition client openCall.call) ?_
    rw [Machine.final_concat]
    exact step_deliver ffaStatusToEfiStatus service partition (hinv _) hfree hcall

/-- A call made while the partition works on another. -/
theorem open_call_returns_counter :
    ((networkMachine (fun _ => .deviceError) counter 0x8002).final (.start 0)
      ([.call 2 ⟨none, .zero⟩, .deliver 2, .call 1 ⟨none, .zero⟩] ++ [.respond] ++ [.deliver 1] ++
        [.respond])).calls 1 = none :=
  open_call_returns (fun _ => .deviceError) counter 0x8002 repliesToSender_counter 0
    [.call 2 ⟨none, .zero⟩, .deliver 2, .call 1 ⟨none, .zero⟩] 1

end Runs

end Ffa
end FfaFeature
