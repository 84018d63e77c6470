/-
# The test service, and the partition on the SPMC

`Library/TestServiceLib/TestServiceLib.c` and `Include/Guid/TestServiceFfa.h`: a command of the
test service raises the notification that a cookie stands for, as any service of the partition
would.  A partition that holds both services answers three kinds of events in any order
(`partitionMachine`): requests to the notification service, commands of the test service, and
what the other endpoints do at the SPMC, among it their calls of `FfaNotificationGet`.
-/

import FfaFeature.Ffa.NotificationGet
import FfaFeature.Notification.Provenance

namespace FfaFeature
namespace Notification

/-- `TEST_OPCODE_TEST_NOTIFICATION`. -/
def testOpcodeTestNotification : BitVec 64 := 0xDEF1

/-- `TestStatus`, the statuses the service returns. -/
inductive TestStatus
  | success
  | invalidParameter
  deriving DecidableEq, Repr

/-- The `INT32` values `0` and `-2` of the statuses. -/
def TestStatus.toInt32 : TestStatus → BitVec 32
  | success => 0
  | invalidParameter => -2

/-- `1 << DELAYED_SRI_BIT_POS`. -/
def delayedSri : BitVec 32 := 2

/-- The UUID a command carries in `x5` and `x6`. -/
def testUuid (request : DirectMsgArgsEx) : Uuid :=
  notificationServiceExtractUuid request.arg1 request.arg2

/-- The cookie of a command: `Arg3` in a `UINT32`. -/
def testCookie (request : DirectMsgArgsEx) : BitVec 32 := request.arg3.setWidth 32

/-- `TestNotificationHandler`: the response, and the calls of `FfaNotificationSet`. -/
def testNotificationHandler (ffaNotificationSet : NotificationSetCall → EfiStatus)
    (s : NotifStore) (request response : DirectMsgArgsEx) :
    DirectMsgArgsEx × List NotificationSetCall :=
  let (status, calls) := notificationServiceIdSet ffaNotificationSet s (testCookie request)
    (some (testUuid request)) delayedSri
  let returnVal := if status = .success then TestStatus.success else .invalidParameter
  ({ response with arg0 := returnVal.toInt32.signExtend 64 }, calls)

/-- `TestServiceHandle`. -/
def testServiceHandle (ffaNotificationSet : NotificationSetCall → EfiStatus)
    (s : NotifStore) (request response : DirectMsgArgsEx) :
    DirectMsgArgsEx × List NotificationSetCall :=
  if request.arg0 = testOpcodeTestNotification then
    testNotificationHandler ffaNotificationSet s request response
  else ({ response with arg0 := TestStatus.invalidParameter.toInt32.signExtend 64 }, [])

/-- **A command that finds an entry**: its answer, and its call. -/
theorem testServiceHandle_mapped {s : NotifStore} {request : DirectMsgArgsEx}
    (hop : request.arg0 = testOpcodeTestNotification) {i : Fin maxServices}
    (hlocate : locateService s (testUuid request) false = some i) {j : Fin maxMappings}
    (hindex : cookieIndex (testCookie request) (s.notificationServices i) = some j)
    (ffaNotificationSet : NotificationSetCall → EfiStatus) (response : DirectMsgArgsEx) :
    testServiceHandle ffaNotificationSet s request response =
      ({ response with
          arg0 := (if (ffaNotificationSet (setCall (s.info i j) delayedSri)).isError then
            TestStatus.invalidParameter else .success).toInt32.signExtend 64 },
        [setCall (s.info i j) delayedSri]) := by
  unfold testServiceHandle testNotificationHandler
  rw [if_pos hop, notificationServiceIdSet_mapped hlocate hindex]
  cases (ffaNotificationSet (setCall (s.info i j) delayedSri)).isError <;> rfl

/-- **Every call is for the entry that the cookie and the UUID of a command name.** -/
theorem testServiceHandle_calls {s : NotifStore} {request : DirectMsgArgsEx}
    {ffaNotificationSet : NotificationSetCall → EfiStatus} {response : DirectMsgArgsEx}
    {call : NotificationSetCall}
    (h : call ∈ (testServiceHandle ffaNotificationSet s request response).2) :
    ∃ i j, Matches s (testUuid request) i ∧ (s.info i j).cookie = testCookie request ∧
      call = setCall (s.info i j) delayedSri := by
  by_cases hop : request.arg0 = testOpcodeTestNotification
  case neg =>
    unfold testServiceHandle at h
    rw [if_neg hop] at h
    exact absurd h List.not_mem_nil
  have hnone : ∀ status, notificationServiceIdSet ffaNotificationSet s (testCookie request)
      (some (testUuid request)) delayedSri = (status, []) → False := by
    intro status he
    unfold testServiceHandle testNotificationHandler at h
    rw [if_pos hop, he] at h
    exact absurd h List.not_mem_nil
  cases hlocate : locateService s (testUuid request) false with
  | none => exact (hnone _ (notificationServiceIdSet_unlocated hlocate ..)).elim
  | some i =>
    cases hindex : cookieIndex (testCookie request) (s.notificationServices i) with
    | none => exact (hnone _ (notificationServiceIdSet_unmapped hlocate hindex ..)).elim
    | some j =>
      rw [testServiceHandle_mapped hop hlocate hindex] at h
      exact ⟨i, j, (locateService_some.1 hlocate).1, (cookieIndex_some.1 hindex).1,
        List.mem_singleton.1 h⟩

/-! ### The partition -/

/-- The store of the partition, and the endpoints with their SPMC. -/
structure Partition (σ : Type*) where
  store : NotifStore
  endpoints : Ffa.Endpoints σ

/-- What happens next: a message for one of the two services, with the response structure it is
answered in, or an event at the endpoints. -/
inductive PartitionEvent
  | notify (request response : DirectMsgArgsEx)
  | test (request response : DirectMsgArgsEx)
  | endpoint (event : Ffa.Event)

/-- The response, or what the caller at the endpoint sees. -/
inductive PartitionAnswer
  | response (message : DirectMsgArgsEx)
  | endpoint (answer : Ffa.Answer)

section Machine

variable {σ : Type*} (spmc : Ffa.Spmc σ) (ffaStatusToEfiStatus : BitVec 64 → EfiStatus)
  (partition : BitVec 16)

/-- A call of `FfaNotificationSet` by the partition. -/
def setEvent (call : NotificationSetCall) : Ffa.Event :=
  .set partition partition call.destinationId call.flags call.notificationBitmap

/-- What such a call returns. -/
def setStatus (endpoints : Ffa.Endpoints σ) (call : NotificationSetCall) : EfiStatus :=
  (Ffa.ffaNotificationSet spmc ffaStatusToEfiStatus endpoints.spmc
    (endpoints.id partition partition) call.destinationId call.flags call.notificationBitmap).2

/-- The calls of `FfaNotificationSet` a command makes. -/
def testCalls (s : Partition σ) (request response : DirectMsgArgsEx) : List NotificationSetCall :=
  (testServiceHandle (setStatus spmc ffaStatusToEfiStatus partition s.endpoints) s.store request
    response).2

/-- The partition as a machine. -/
def partitionMachine : Machine (Partition σ) PartitionEvent PartitionAnswer where
  step s
    | .notify request response =>
      let (store, response) := notificationServiceHandle s.store request response
      ({ s with store }, .response response)
    | .test request response =>
      let (response, calls) := testServiceHandle
        (setStatus spmc ffaStatusToEfiStatus partition s.endpoints) s.store request response
      ({ s with
          endpoints := (Ffa.endpointsMachine spmc ffaStatusToEfiStatus).final s.endpoints
            (calls.map (setEvent partition)) },
        .response response)
    | .endpoint event =>
      let (endpoints, answer) :=
        (Ffa.endpointsMachine spmc ffaStatusToEfiStatus).step s.endpoints event
      ({ s with endpoints }, .endpoint answer)

/-- The request to the notification service in an event. -/
def notifyRequest : PartitionEvent → Option DirectMsgArgsEx
  | .notify request _ => some request
  | _ => none

/-- The store changes by requests to the notification service alone. -/
theorem runsService_partitionMachine :
    RunsService (partitionMachine spmc ffaStatusToEfiStatus partition) Partition.store
      fun _ event => notifyRequest event where
  served s event r h := by
    cases event with
    | notify request response =>
      obtain rfl := Option.some.inj h
      rfl
    | test request response => cases h
    | endpoint event => cases h
  kept s event h := by
    cases event with
    | notify request response => cases h
    | test request response => rfl
    | endpoint event => rfl

end Machine

end Notification
end FfaFeature
