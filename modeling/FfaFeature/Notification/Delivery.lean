/-
# A notification from its registration to its receiver

The notification service, the signalling path and the SPMC together, along any run of
`partitionMachine`.

Nobody is told of a notification out of the blue: what an endpoint receives was raised by an
endpoint itself, or by a command for a mapping that this very endpoint registered and that was
in its place since (`received_registered`).  The one exception is the cookie `0`, which meets an
empty entry and signals the bit `0` of the partition `0`.

And what was registered arrives: whatever the other partitions ask for in between, and however
much of it is refused, a mapping accepted in a `REGISTER` is found by the command that names its
cookie and its UUID.  Where the SPMC serves the signals of the command, the command succeeds;
and the next call of `FfaNotificationGet` that asks for the notification reports its bits where
the SPMC serves it and its flags name one bitmap (`registered_received`).
-/

import FfaFeature.Notification.TestService
import FfaFeature.Notification.Undo

namespace FfaFeature
namespace Notification

open Ffa (Endpoints NotificationBit Pending Raises Clears SameBit Asks Served IsErrorCode)

section Runs

variable {σ : Type*} (spmc : Ffa.Spmc σ) (ffaStatusToEfiStatus : BitVec 64 → EfiStatus)
  (partition : BitVec 16)

/-- A step of the partition. -/
abbrev PartitionStep (σ : Type*) := Machine.Step (Partition σ) PartitionEvent PartitionAnswer

/-! ### What a step leaves pending -/

/-- The notification is raised in a step: by an endpoint, or by a call that a command makes. -/
def RaisedAt (s : Partition σ) (event : PartitionEvent) (n : NotificationBit) : Prop :=
  (∃ e, event = .endpoint e ∧ Raises spmc s.endpoints e n) ∨
    ∃ request response, event = .test request response ∧
      ∃ call ∈ testCalls spmc ffaStatusToEfiStatus partition s request response,
        call.destinationId = n.receiver ∧ call.notificationBitmap.getLsbD n.bit = true

/-- What calls of `FfaNotificationSet` leave pending was so before, or is raised by one. -/
theorem pending_setEvents {endpoints : Endpoints σ} {calls : List NotificationSetCall}
    {n : NotificationBit}
    (h : Pending spmc ((Ffa.endpointsMachine spmc ffaStatusToEfiStatus).final endpoints
      (calls.map (setEvent partition))) n) :
    Pending spmc endpoints n ∨ ∃ call ∈ calls,
      call.destinationId = n.receiver ∧ call.notificationBitmap.getLsbD n.bit = true := by
  induction calls using List.reverseRecOn with
  | nil => exact .inl h
  | append_singleton calls call ih =>
    rw [List.map_append, List.map_singleton, Machine.final_concat] at h
    rcases (Ffa.pending_step spmc ffaStatusToEfiStatus _ _ n).1 h with ⟨hbefore, -⟩ | hraises
    · exact (ih hbefore).imp_right fun ⟨c, hc, hsame⟩ => ⟨c, List.mem_append_left _ hc, hsame⟩
    · exact .inr ⟨call, List.mem_append_right _ (List.mem_singleton_self _), hraises.2.1.symm,
        hraises.2.2.2.2⟩

/-- **What is pending after a step** was so before, or is raised in it. -/
theorem pending_partitionStep {s : Partition σ} {event : PartitionEvent} {n : NotificationBit}
    (h : Pending spmc
      ((partitionMachine spmc ffaStatusToEfiStatus partition).step s event).1.endpoints n) :
    Pending spmc s.endpoints n ∨ RaisedAt spmc ffaStatusToEfiStatus partition s event n := by
  cases event with
  | notify request response => exact .inl h
  | test request response =>
    exact (pending_setEvents spmc ffaStatusToEfiStatus partition h).imp_right fun hcall =>
      .inr ⟨request, response, rfl, hcall⟩
  | endpoint event =>
    rcases (Ffa.pending_step spmc ffaStatusToEfiStatus _ _ n).1 h with ⟨hbefore, -⟩ | hraises
    · exact .inl hbefore
    · exact .inr (.inl ⟨event, rfl, hraises⟩)

/-- **What is pending was raised, and has been pending since.** -/
theorem raised_since {s₀ : Partition σ} (hquiet : ∀ n, ¬ Pending spmc s₀.endpoints n)
    (is : List PartitionEvent) {n : NotificationBit}
    (h : Pending spmc
      ((partitionMachine spmc ffaStatusToEfiStatus partition).final s₀ is).endpoints n) :
    Machine.Since (fun e : PartitionStep σ =>
        RaisedAt spmc ffaStatusToEfiStatus partition e.pre e.input n)
      (fun e => Pending spmc e.post.endpoints n)
      ((partitionMachine spmc ffaStatusToEfiStatus partition).history s₀ is) := by
  induction is using List.reverseRecOn with
  | nil => exact absurd h (hquiet n)
  | append_singleton is event ih =>
    rw [Machine.final_concat] at h
    rw [Machine.history_concat]
    rcases pending_partitionStep spmc ffaStatusToEfiStatus partition h with hbefore | hraised
    · exact (ih hbefore).later h
    · exact .here hraised

/-! ### Where a notification comes from -/

/-- The step tells its caller of a notification. -/
def ReceivedAt (e : PartitionStep σ) (n : NotificationBit) : Prop :=
  ∃ event answer, e.input = .endpoint event ∧ e.output = .endpoint answer ∧
    Ffa.Reports ⟨e.pre.endpoints, event, answer, e.post.endpoints⟩ n

/-- **Why a notification may be raised** in the step `x` after the steps `before`: an endpoint
does it itself; or a command names a mapping of the receiver with this bit, registered by the
receiver and in its place since; or a command names the cookie `0`, which no mapping needs to
have. -/
inductive Cause (before : List (PartitionStep σ)) (x : PartitionStep σ) (n : NotificationBit) :
    Prop
  | endpoint (event : Ffa.Event) : x.input = .endpoint event →
      Raises spmc x.pre.endpoints event n → Cause before x n
  | mapping (request response : DirectMsgArgsEx) (i : Fin maxServices) (j : Fin maxMappings)
      (info : NotifInfo) : x.input = .test request response →
      x.pre.store.info i j = info → info.inUse → info.sourceId = n.receiver →
      info.cookie = testCookie request → Matches x.pre.store (testUuid request) i →
      (idMask info.id).getLsbD n.bit = true →
      Machine.Since
        (RunsService.RegistersAt Partition.store (fun _ event => notifyRequest event) i j info)
        (fun e => e.post.store.info i j = info) before → Cause before x n
  | cookieZero (request response : DirectMsgArgsEx) : x.input = .test request response →
      testCookie request = 0 → n.receiver = 0 → n.bit = 0 → Cause before x n

/-- What a step of a run raised has a cause. -/
theorem cause_of_raisedAt {endpoints : Endpoints σ} (is : List PartitionEvent)
    {event : PartitionEvent} {n : NotificationBit}
    (h : RaisedAt spmc ffaStatusToEfiStatus partition
      ((partitionMachine spmc ffaStatusToEfiStatus partition).final
        ⟨notificationServiceInit, endpoints⟩ is) event n) :
    Cause spmc ((partitionMachine spmc ffaStatusToEfiStatus partition).history
        ⟨notificationServiceInit, endpoints⟩ is)
      ((partitionMachine spmc ffaStatusToEfiStatus partition).stepAt
        ((partitionMachine spmc ffaStatusToEfiStatus partition).final
          ⟨notificationServiceInit, endpoints⟩ is) event) n := by
  have hruns := runsService_partitionMachine spmc ffaStatusToEfiStatus partition
  have hinv := @RunsService.storeInv _ _ _ _ _ _ hruns ⟨notificationServiceInit, endpoints⟩
    storeInv_init is
  rcases h with ⟨e, rfl, hraises⟩ | ⟨request, response, rfl, call, hcall, hdest, hbit⟩
  · exact .endpoint e rfl hraises
  · obtain ⟨i, j, hmatch, hcookie, rfl⟩ := testServiceHandle_calls hcall
    by_cases hin : (((partitionMachine spmc ffaStatusToEfiStatus partition).final
        ⟨notificationServiceInit, endpoints⟩ is).store.info i j).inUse
    · exact .mapping request response i j _ rfl rfl hin hdest hcookie hmatch hbit
        (hruns.registered_since rfl is i j hin)
    · -- an entry not in use is zero, and so is the cookie that led to it
      have hzero := hinv.cleared i j (by simpa using hin)
      rw [hzero] at hcookie hdest hbit
      refine .cookieZero request response rfl hcookie.symm hdest.symm ?_
      unfold setCall at hbit
      dsimp only at hbit
      rw [getLsbD_idMask, decide_eq_true_iff] at hbit
      have hlow : n.bit.val = 0 := by
        simpa [NotifInfo.zero] using hbit
      exact Fin.ext hlow

/-- **Nobody is told of a notification out of the blue.**  Along any run, a notification that an
endpoint receives was raised for a cause, and was pending from then on. -/
theorem received_registered
    (hstatus : ∀ code, IsErrorCode code → ffaStatusToEfiStatus code ≠ .success)
    {endpoints : Endpoints σ} (hquiet : ∀ n, ¬ Pending spmc endpoints n)
    (is : List PartitionEvent) {before after : List (PartitionStep σ)} {e : PartitionStep σ}
    (hsplit : (partitionMachine spmc ffaStatusToEfiStatus partition).history
      ⟨notificationServiceInit, endpoints⟩ is = before ++ e :: after) {n : NotificationBit}
    (hreceived : ReceivedAt e n) :
    ∃ n', SameBit n n' ∧ ∃ before₁ x before₂, before = before₁ ++ x :: before₂ ∧
      Cause spmc before₁ x n' ∧ ∀ y ∈ before₂, Pending spmc y.post.endpoints n' := by
  obtain ⟨is₁, event, is₂, rfl, rfl, rfl⟩ := Machine.history_split hsplit
  obtain ⟨event', answer, hinput, houtput, hreports⟩ := hreceived
  obtain rfl : event = .endpoint event' := hinput
  -- the step of the endpoints inside the step of the partition
  have hanswer : answer = ((Ffa.endpointsMachine spmc ffaStatusToEfiStatus).step
      ((partitionMachine spmc ffaStatusToEfiStatus partition).final
        ⟨notificationServiceInit, endpoints⟩ is₁).endpoints event').2 :=
    (PartitionAnswer.endpoint.inj houtput).symm
  subst hanswer
  obtain ⟨n', hsame, hclears⟩ :=
    Ffa.clears_of_reports spmc ffaStatusToEfiStatus hstatus hreports
  obtain ⟨before₁, x, before₂, hbefore, hraised, hkept⟩ :=
    raised_since spmc ffaStatusToEfiStatus partition hquiet is₁ hclears.1
  refine ⟨n', hsame, before₁, x, before₂, hbefore, ?_, hkept⟩
  obtain ⟨is₃, event₃, is₄, rfl, rfl, rfl⟩ := Machine.history_split hbefore
  exact cause_of_raisedAt spmc ffaStatusToEfiStatus partition is₃ hraised

/-! ### What was registered arrives -/

/-- The notification of a mapping, as the partition raises it. -/
structure StandsForMapping (s : Partition σ) (sourceId : BitVec 16) (m : NotificationMapping)
    (n : NotificationBit) : Prop where
  receiver : n.receiver = sourceId
  vCpu : n.vCpu = if m.perVcpu != 0 then some 0 else none
  bitmap : n.bitmap = spmc.senderBitmap (s.endpoints.id partition partition)
  bit : (idMask m.mappingId).getLsbD n.bit = true

/-- The flags of the call for an entry select its vCPU. -/
theorem setVCpu_setCall (mPartitionId : BitVec 16) (info : NotifInfo) :
    Ffa.setVCpu (Ffa.notificationSetRequest mPartitionId (setCall info delayedSri).destinationId
        (setCall info delayedSri).flags (setCall info delayedSri).notificationBitmap) =
      if info.perVcpu then some 0 else none := by
  cases hper : info.perVcpu <;>
    simp [Ffa.setVCpu, Ffa.notificationSetRequest, setCall, delayedSri, hper]

/-- **The entry a command finds.**  In a well-formed store the search for a cookie that is not
`0` ends at its mapping. -/
theorem cookieIndex_mapping {s : NotifStore} (hs : StoreInv s) {i : Fin maxServices}
    {j : Fin maxMappings} (hin : (s.info i j).inUse) (hne : (s.info i j).cookie ≠ 0) :
    cookieIndex (s.info i j).cookie (s.notificationServices i) = some j := by
  cases hindex : cookieIndex (s.info i j).cookie (s.notificationServices i) with
  | none => exact absurd rfl (cookieIndex_none.1 hindex j)
  | some k =>
    have hcookie : (s.info i k).cookie = (s.info i j).cookie := (cookieIndex_some.1 hindex).1
    have hused : (s.info i k).inUse := by
      by_contra hfree
      rw [hs.cleared i k (by simpa using hfree)] at hcookie
      exact hne hcookie.symm
    rw [hs.cookies i k j hused hin hcookie]

/-- **An accepted mapping is found**, whatever the other partitions ask for afterwards. -/
theorem registered_found {s : Partition σ} (hs : StoreInv s.store)
    {register response : DirectMsgArgsEx} (hop : opcode register = opcodeRegister)
    (hok : (notificationServiceHandle s.store register response).2.arg6 = 0)
    {m : NotificationMapping} (hm : m ∈ requestMappings register) (is : List PartitionEvent)
    (hother : ∀ request response, .notify request response ∈ is →
      request.sourceId ≠ register.sourceId) :
    let s' := (partitionMachine spmc ffaStatusToEfiStatus partition).final s
      (.notify register response :: is)
    StoreInv s'.store ∧ ∃ i j, locateService s'.store (requestUuid register) false = some i ∧
      s'.store.info i j = m.toInfo register.sourceId := by
  intro s'
  have hruns := runsService_partitionMachine spmc ffaStatusToEfiStatus partition
  set s₁ := ((partitionMachine spmc ffaStatusToEfiStatus partition).step s
    (.notify register response)).1 with hs₁
  have hstore : s₁.store = (handleOpcode s.store register).2 := rfl
  have hinv₁ : StoreInv s₁.store := by
    rw [hstore]
    exact storeInv_handleOpcode hs register
  have hinv : StoreInv s'.store := hruns.storeInv hinv₁ is
  obtain ⟨i, hlocate, -, hgains⟩ :=
    handleOpcode_register_success hs hop (toInt8_and_eq_zero.1 hok)
  have hmem : m.toInfo register.sourceId ∈ slotMappings s₁.store i := by
    rw [hstore, hgains.entries]
    exact .inr (List.mem_map.2 ⟨m, hm, rfl⟩)
  obtain ⟨j, hin, hinfo⟩ := hmem
  have hkept : OwnedKept register.sourceId s₁.store s'.store := by
    refine hruns.ownedKept register.sourceId s₁ is fun e he r hr => ?_
    obtain ⟨before, after, hsplit⟩ := List.append_of_mem he
    obtain ⟨is₁, event, is₂, rfl, -, rfl⟩ := Machine.history_split hsplit
    cases event with
    | notify request response' =>
      obtain rfl := Option.some.inj hr
      exact hother request response'
        (List.mem_append_right _ (List.mem_cons_self ..))
    | test => cases hr
    | endpoint => cases hr
  obtain ⟨hsame, hslot⟩ := hkept i j hin (by rw [hinfo]; rfl)
  have hmatch := (locateService_some.1 hlocate).1
  rw [← hstore] at hmatch
  obtain ⟨hused, huuid⟩ := hslot hmatch.1
  refine ⟨hinv, i, j, hinv.locateService_eq ⟨hused, ?_⟩, hsame.trans hinfo⟩
  rw [huuid]
  exact hmatch.2

/-- **A command that names the cookie and the UUID of a mapping raises its notification**, when
the SPMC serves the call. -/
theorem test_raises {s : Partition σ} (hs : StoreInv s.store) {test response : DirectMsgArgsEx}
    {i : Fin maxServices} {j : Fin maxMappings} {m : NotificationMapping} {sourceId : BitVec 16}
    (hlocate : locateService s.store (testUuid test) false = some i)
    (hinfo : s.store.info i j = m.toInfo sourceId) (hop : test.arg0 = testOpcodeTestNotification)
    (hcookie : testCookie test = m.cookie) (hne : m.cookie ≠ 0)
    (hgrants : ∀ call ∈ testCalls spmc ffaStatusToEfiStatus partition s test response,
      spmc.grants s.endpoints.spmc (Ffa.notificationSetRequest (s.endpoints.id partition partition)
        call.destinationId call.flags call.notificationBitmap) = true) :
    let next := (partitionMachine spmc ffaStatusToEfiStatus partition).step s (.test test response)
    next.2 = .response { response with arg0 := 0 } ∧
      ∀ n, StandsForMapping spmc partition s sourceId m n → Pending spmc next.1.endpoints n := by
  have hindex : cookieIndex (testCookie test) (s.store.notificationServices i) = some j := by
    have := cookieIndex_mapping hs (i := i) (j := j) (by rw [hinfo]; rfl) (by rw [hinfo]; exact hne)
    rwa [hinfo, show (m.toInfo sourceId).cookie = testCookie test from hcookie.symm] at this
  have hhandle := testServiceHandle_mapped hop hlocate hindex
    (setStatus spmc ffaStatusToEfiStatus partition s.endpoints) response
  rw [hinfo] at hhandle
  have hserved := hgrants (setCall (m.toInfo sourceId) delayedSri) (by
    unfold testCalls
    rw [hhandle]
    exact List.mem_singleton_self _)
  have hstatus : setStatus spmc ffaStatusToEfiStatus partition s.endpoints
      (setCall (m.toInfo sourceId) delayedSri) = .success := by
    unfold setStatus Ffa.ffaNotificationSet
    dsimp only
    rw [if_neg]
    rw [(spmc.set_granted _ _ rfl hserved).1]
    decide
  rw [hstatus] at hhandle
  intro next
  have hnext : next = ({ s with
      endpoints := ((Ffa.endpointsMachine spmc ffaStatusToEfiStatus).step s.endpoints
        (setEvent partition (setCall (m.toInfo sourceId) delayedSri))).1 },
      .response { response with arg0 := 0 }) := by
    show (partitionMachine spmc ffaStatusToEfiStatus partition).step s (.test test response) = _
    unfold partitionMachine
    dsimp only
    rw [hhandle]
    rfl
  rw [hnext]
  refine ⟨rfl, fun n hn => (Ffa.pending_step spmc ffaStatusToEfiStatus _ _ n).2 (.inr ?_)⟩
  refine ⟨hserved, hn.receiver, ?_, hn.bitmap, hn.bit⟩
  rw [setVCpu_setCall]
  exact hn.vCpu

/-- **A notification stays pending** as long as nobody asks for it. -/
theorem pending_kept {s : Partition σ} {n : NotificationBit} (h : Pending spmc s.endpoints n)
    (is : List PartitionEvent)
    (hunasked : ∀ e ∈ (partitionMachine spmc ffaStatusToEfiStatus partition).history s is,
      ∀ event, e.input = .endpoint event → ¬ Asks e.pre.endpoints event n) :
    Pending spmc ((partitionMachine spmc ffaStatusToEfiStatus partition).final s is).endpoints
      n := by
  refine @Machine.final_of_steps _ _ _ (partitionMachine spmc ffaStatusToEfiStatus partition)
    (fun s => Pending spmc s.endpoints n)
    (fun s event => ∀ e, event = .endpoint e → ¬ Asks s.endpoints e n) s h
    (fun s event hok hs => ?_) is hunasked
  cases event with
  | notify request response => exact hs
  | test request response =>
    refine @Machine.final_of_steps _ _ _ (Ffa.endpointsMachine spmc ffaStatusToEfiStatus)
      (fun endpoints => Pending spmc endpoints n) (fun endpoints e => ¬ Asks endpoints e n) _ hs
      (fun endpoints e hne hp => (Ffa.pending_step spmc ffaStatusToEfiStatus _ _ n).2
        (.inl ⟨hp, fun hboth => hne hboth.2⟩)) _ fun e he => ?_
    obtain ⟨before, after, hsplit⟩ := List.append_of_mem he
    obtain ⟨is₁, event, is₂, hcalls, -, rfl⟩ := Machine.history_split hsplit
    obtain ⟨call, -, rfl⟩ := List.mem_map.1
      (hcalls ▸ List.mem_append_right is₁ (List.mem_cons_self ..))
    exact id
  | endpoint event =>
    exact (Ffa.pending_step spmc ffaStatusToEfiStatus _ _ n).2
      (.inl ⟨hs, fun hboth => hok event rfl hboth.2⟩)

/-- **What was registered arrives.**  A mapping accepted in a `REGISTER` is found by a later
command with its cookie and its UUID, whatever the other partitions asked for in between; the
command, whose signals the SPMC serves, is answered with success, and the next call of
`FfaNotificationGet` that asks for the notification reports it, if the SPMC serves the call and
its flags name exactly one bitmap. -/
theorem registered_received
    (hstatus : ∀ code, IsErrorCode code → ffaStatusToEfiStatus code ≠ .success)
    {endpoints : Endpoints σ} {s s₁ s₂ : Partition σ}
    (hs : (partitionMachine spmc ffaStatusToEfiStatus partition).Reachable
      ⟨notificationServiceInit, endpoints⟩ s)
    {register response : DirectMsgArgsEx} (hop : opcode register = opcodeRegister)
    (hok : (notificationServiceHandle s.store register response).2.arg6 = 0)
    {m : NotificationMapping} (hm : m ∈ requestMappings register) (hne : m.cookie ≠ 0)
    {is₁ : List PartitionEvent}
    (hother : ∀ request response, .notify request response ∈ is₁ →
      request.sourceId ≠ register.sourceId)
    (hs₁ : (partitionMachine spmc ffaStatusToEfiStatus partition).final s
      (.notify register response :: is₁) = s₁)
    {test response' : DirectMsgArgsEx} (htest : test.arg0 = testOpcodeTestNotification)
    (huuid : testUuid test = requestUuid register) (hcookie : testCookie test = m.cookie)
    (hgrants : ∀ call ∈ testCalls spmc ffaStatusToEfiStatus partition s₁ test response',
      spmc.grants s₁.endpoints.spmc
        (Ffa.notificationSetRequest (s₁.endpoints.id partition partition) call.destinationId
          call.flags call.notificationBitmap) = true)
    {n : NotificationBit} (hn : StandsForMapping spmc partition s₁ register.sourceId m n)
    {is₂ : List PartitionEvent}
    (hunasked : ∀ e ∈ (partitionMachine spmc ffaStatusToEfiStatus partition).history
        ((partitionMachine spmc ffaStatusToEfiStatus partition).step s₁
          (.test test response')).1 is₂,
      ∀ event, e.input = .endpoint event → ¬ Asks e.pre.endpoints event n)
    (hs₂ : (partitionMachine spmc ffaStatusToEfiStatus partition).final s₁
      (.test test response' :: is₂) = s₂)
    {caller acquired vCpuId : BitVec 16} {flags prior : BitVec 64}
    (hasks : Asks s₂.endpoints (.get caller acquired vCpuId flags prior) n)
    (hserved : Served spmc s₂.endpoints (.get caller acquired vCpuId flags prior))
    (hflags : ∃ bitmap, flags = Ffa.flagOf bitmap) :
    ((partitionMachine spmc ffaStatusToEfiStatus partition).step s₁ (.test test response')).2 =
        .response { response' with arg0 := 0 } ∧
      ReceivedAt ((partitionMachine spmc ffaStatusToEfiStatus partition).stepAt s₂
        (.endpoint (.get caller acquired vCpuId flags prior))) n := by
  have hinv : StoreInv s.store := by
    obtain ⟨is, rfl⟩ := hs
    exact (runsService_partitionMachine spmc ffaStatusToEfiStatus partition).storeInv
      storeInv_init is
  obtain ⟨hinv₁, i, j, hlocate, hinfo⟩ :=
    registered_found spmc ffaStatusToEfiStatus partition hinv hop hok hm is₁ hother
  rw [hs₁] at hinv₁ hlocate hinfo
  rw [← huuid] at hlocate
  obtain ⟨hanswer, hraises⟩ := test_raises spmc ffaStatusToEfiStatus partition hinv₁ hlocate hinfo
    htest hcookie hne hgrants
  have hpending : Pending spmc s₂.endpoints n := by
    rw [← hs₂]
    exact pending_kept spmc ffaStatusToEfiStatus partition (hraises n hn) is₂ hunasked
  refine ⟨hanswer, _, _, rfl, rfl, ?_⟩
  refine (Ffa.reports_iff spmc ffaStatusToEfiStatus hstatus _ _ _ _ _ _ n).2
    ⟨hasks, hserved, hflags, ?_⟩
  rcases hasks.2.1 with hvCpu | hvCpu
  · exact .inl (hvCpu ▸ hpending)
  · exact .inr (hvCpu ▸ hpending)

end Runs

/-! ### A run -/

/-- The partition `0x8003` registers the cookie `1` with the identifier `5`. -/
def cookieRequest : DirectMsgArgsEx :=
  { DirectMsgArgsEx.zero with sourceId := 0x8003, arg5 := 2, arg6 := 1, arg7 := 0x102800000 }

/-- A command that raises the cookie `1`. -/
def cookieCommand : DirectMsgArgsEx :=
  { DirectMsgArgsEx.zero with arg0 := 0xDEF1, arg3 := 1 }

/-- The partition before any message, with an SPMC that serves every call. -/
def quietPartition : Partition Ffa.PendingBitmaps :=
  ⟨notificationServiceInit, Ffa.quietEndpoints⟩

/-- The partition `7` tries to take the mapping away before the command. -/
def intruderRun : List PartitionEvent :=
  [.notify cookieRequest .zero, .notify { cookieRequest with sourceId := 7, arg5 := 3 } .zero]

/-- The notification arrives all the same. -/
theorem registered_received_intruder :
    ReceivedAt ((partitionMachine Ffa.grantingSpmc Ffa.statusOf 0x8002).stepAt
      ((partitionMachine Ffa.grantingSpmc Ffa.statusOf 0x8002).final
        ((partitionMachine Ffa.grantingSpmc Ffa.statusOf 0x8002).final quietPartition intruderRun)
        [.test cookieCommand .zero])
      (.endpoint (.get 0x8003 0x8003 0 Ffa.flagBitmapSp 0))) ⟨0x8003, none, .sp, 5⟩ := by
  have hother : ∀ request response,
      .notify request response ∈
        [PartitionEvent.notify { cookieRequest with sourceId := 7, arg5 := 3 } .zero] →
      request.sourceId ≠ cookieRequest.sourceId := by
    intro request response hmem
    obtain ⟨rfl, -⟩ := PartitionEvent.notify.inj (List.mem_singleton.1 hmem)
    decide
  exact (@registered_received _ Ffa.grantingSpmc Ffa.statusOf 0x8002 Ffa.statusOf_isErrorCode
    Ffa.quietEndpoints quietPartition _ _ (Machine.Reachable.refl _ quietPartition)
    cookieRequest .zero (by decide) (by decide +kernel) ⟨0, 5, 1⟩ (by decide) (by decide) _ hother
    rfl cookieCommand .zero rfl rfl (by decide) (fun _ _ => rfl) ⟨0x8003, none, .sp, 5⟩
    ⟨rfl, rfl, rfl, by decide⟩ [] (fun _ he => absurd he List.not_mem_nil) rfl 0x8003 0x8003 0
    Ffa.flagBitmapSp 0 ⟨by decide +kernel, .inl rfl, by decide⟩ rfl ⟨.sp, rfl⟩).2

/-- The call of that run that reports the notification had a cause. -/
theorem received_registered_intruder :
    let run := intruderRun ++ [.test cookieCommand .zero]
    ∃ n', SameBit ⟨0x8003, none, .sp, 5⟩ n' ∧ ∃ before₁ x before₂,
      (partitionMachine Ffa.grantingSpmc Ffa.statusOf 0x8002).history quietPartition run =
        before₁ ++ x :: before₂ ∧
      Cause Ffa.grantingSpmc before₁ x n' ∧
        ∀ y ∈ before₂, Pending Ffa.grantingSpmc y.post.endpoints n' := by
  intro run
  have hquiet : ∀ n, ¬ Pending Ffa.grantingSpmc Ffa.quietEndpoints n := fun n h => by
    simp [Pending, Ffa.grantingSpmc, Ffa.quietEndpoints] at h
  refine received_registered Ffa.grantingSpmc Ffa.statusOf 0x8002 Ffa.statusOf_isErrorCode hquiet
    (run ++ [.endpoint (.get 0x8003 0x8003 0 Ffa.flagBitmapSp 0)])
    (Machine.history_concat _ _ run _) ?_
  exact ⟨.get 0x8003 0x8003 0 Ffa.flagBitmapSp 0, .get .success 0x20, rfl,
    congrArg PartitionAnswer.endpoint (by decide +kernel), ⟨by decide +kernel, .inl rfl, by decide⟩,
    0x20, rfl, by decide⟩

end Notification
end FfaFeature
