import AvdeccLib.Inflight
import AvdeccLib.AecpControllerStateMachine

namespace AvdeccLib
set_option autoImplicit true

namespace AcmpFrame

/-- The five message types that `proc_rcvd_acmp_resp` dispatches. -/
def isResponse (f : AcmpFrame) : Bool :=
  match f.messageType with
  | .getTxStateResponse | .getTxConnectionResponse | .connectRxResponse | .disconnectRxResponse
  | .getRxStateResponse => true
  | _ => false

def isCommand (f : AcmpFrame) : Bool :=
  match f.messageType with
  | .connectTxCommand | .disconnectTxCommand | .getTxStateCommand | .connectRxCommand
  | .disconnectRxCommand | .getRxStateCommand | .getTxConnectionCommand => true
  | _ => false

end AcmpFrame

/-- `CMD_LOOKUP`: what the ACMP message types are offset by in a notification. -/
def cmdLookup : BitVec 16 := 1024

namespace AcmpControllerStateMachine

def responseReceived (entityId : EntityId) (status : BitVec 32) (notificationId : Ptr)
    (frame : AcmpFrame) : Notification :=
  { notificationType := .responseReceived
    entityId
    cmdType := frame.messageType.code + cmdLookup
    descType := 0
    descIndex := 0
    cmdStatus := status
    notificationId }

def callback (notificationId : Ptr) (notificationFlag : AemCmdWaiting) (frame : AcmpFrame) :
    List Notification :=
  let status := frame.status.setWidth 32
  if notificationFlag = .cmdWithNotification then
    match frame.messageType with
    | .getTxStateResponse | .getTxConnectionResponse =>
      [responseReceived frame.talkerEntityId status notificationId frame]
    | .connectRxResponse | .disconnectRxResponse | .getRxStateResponse =>
      [responseReceived frame.listenerEntityId status notificationId frame]
    | _ => []
  else []

/-- The notification that `state_timeout` posts: a response with a status that no frame has. -/
def commandTimeout (frame : AcmpFrame) (notificationId : Ptr) : Notification :=
  responseReceived frame.listenerEntityId uintMax notificationId frame

theorem callback_of_response (id : Ptr) (frame : AcmpFrame) (h : frame.isResponse = true) :
    ∃ n, callback id .cmdWithNotification frame = [n] ∧ n.notificationId = id := by
  rw [AcmpFrame.isResponse] at h
  rw [callback]
  cases hm : frame.messageType <;> simp only [hm, Bool.false_eq_true] at h <;>
    exact ⟨_, rfl, rfl⟩

theorem callback_of_other (id : Ptr) (flag : AemCmdWaiting) (frame : AcmpFrame)
    (h : flag = .cmdWithoutNotification ∨ frame.isResponse = false) :
    callback id flag frame = [] := by
  rw [callback]
  cases flag with
  | cmdWithoutNotification => rfl
  | cmdWithNotification =>
    have h : frame.isResponse = false := by simpa using h
    rw [AcmpFrame.isResponse] at h
    cases hm : frame.messageType <;> simp only [hm, Bool.true_eq_false] at h <;> rfl

end AcmpControllerStateMachine

open AcmpControllerStateMachine in
def acmpSpec : EngineSpec AcmpFrame where
  getSequenceId := AcmpFrame.sequenceId
  setSequenceId seqId f := { f with sequenceId := seqId }
  timeoutMs f := acmpCmdToTimeout f.messageType
  isResponse := AcmpFrame.isResponse
  callback := callback
  timeoutNotification := commandTimeout
  get_set _ _ := rfl
  isResponse_set _ _ := rfl
  callback_response := callback_of_response
  callback_other := callback_of_other
  timeoutNotification_id _ _ := rfl

end AvdeccLib
