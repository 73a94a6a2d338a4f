import AvdeccLib.Inflight

namespace AvdeccLib
set_option autoImplicit true

namespace AecpFrame

/-- Whether `callback` and `update_inflight_for_rcvd_resp` take the message for a response. -/
def isResponse (f : AecpFrame) : Bool :=
  match f.messageType with
  | .aemResponse | .addressAccessResponse => true
  | _ => false

def isCommand (f : AecpFrame) : Bool :=
  match f.messageType with
  | .aemCommand | .addressAccessCommand => true
  | _ => false

/-- The descriptor type and index that `callback` reports: those of the command types that its
switch lists, and 0 for the others. -/
def callbackDescriptor (f : AecpFrame) : BitVec 16 × BitVec 16 :=
  match f.commandType with
  | .acquireEntity | .lockEntity | .readDescriptor | .setStreamFormat | .getStreamFormat
  | .setStreamInfo | .getStreamInfo | .setName | .getName | .setSamplingRate | .getSamplingRate
  | .setClockSource | .getClockSource | .startStreaming | .stopStreaming =>
    (f.descriptorType.code, f.descriptorIndex)
  | _ => (0, 0)

end AecpFrame

def avdeccMsgTimeoutMs : BitVec 32 := 250

/-- `UINT_MAX` as the status of a timeout. -/
def uintMax : BitVec 32 := 0xffffffff

namespace AecpControllerStateMachine

def responseReceived (notificationId : Ptr) (frame : AecpFrame) : Notification :=
  { notificationType := .responseReceived
    entityId := frame.targetEntityId
    cmdType := frame.commandType.code
    descType := frame.callbackDescriptor.1
    descIndex := frame.callbackDescriptor.2
    cmdStatus := frame.status.setWidth 32
    notificationId }

def callback (notificationId : Ptr) (notificationFlag : AemCmdWaiting) (frame : AecpFrame) :
    List Notification :=
  if notificationFlag = .cmdWithNotification ∧ frame.isResponse then
    [responseReceived notificationId frame]
  else []

/-- The notification that `state_timeout` posts. It reads the descriptor type and index where
READ_DESCRIPTOR has them, whatever the command. -/
def commandTimeout (frame : AecpFrame) (notificationId : Ptr) : Notification :=
  { notificationType := .commandTimeout
    entityId := frame.targetEntityId
    cmdType := frame.commandType.code
    descType := frame.readDescriptorType
    descIndex := frame.readDescriptorIndex
    cmdStatus := uintMax
    notificationId }

end AecpControllerStateMachine

open AecpControllerStateMachine in
def aecpSpec : EngineSpec AecpFrame where
  getSequenceId := AecpFrame.sequenceId
  setSequenceId seqId f := { f with sequenceId := seqId }
  timeoutMs _ := avdeccMsgTimeoutMs
  isResponse := AecpFrame.isResponse
  callback := callback
  timeoutNotification := commandTimeout
  get_set _ _ := rfl
  isResponse_set _ _ := rfl
  callback_response id frame h := ⟨responseReceived id frame, by simp [callback, h], rfl⟩
  callback_other id flag frame h := by
    rcases h with rfl | h
    · simp [callback]
    · simp [callback, h]
  timeoutNotification_id _ _ := rfl

/-- An entry of `active_operations`. Its frame is the START_OPERATION response. -/
structure Operation where
  cmdFrame : AecpFrame
  cmdNotificationFlag : AemCmdWaiting
  operationId : BitVec 16
  operationType : BitVec 16
  cmdNotificationId : Ptr
  deriving DecidableEq

/-- `operationPosts` is not in the source: it records what `callback` posts when
`update_operation_for_rcvd_resp` calls it. -/
structure AecpControllerStateMachine where
  engine : Engine AecpFrame
  activeOperations : List Operation
  operationPosts : List Notification
  deriving DecidableEq

namespace AecpControllerStateMachine

def new : AecpControllerStateMachine := ⟨.new, [], []⟩

def stateSendCmd (now : Timestamp) (m : AecpControllerStateMachine) (notificationId : Ptr)
    (notificationFlag : AemCmdWaiting) (cmdFrame : AecpFrame) : AecpControllerStateMachine :=
  { m with
    engine := m.engine.stateSendCmd aecpSpec now notificationId notificationFlag cmdFrame }

/-- `state_rcvd_unsolicited`: `proc_unsolicited` is not implemented. -/
def stateRcvdUnsolicited (m : AecpControllerStateMachine) (notificationId : Ptr)
    (_cmdFrame : AecpFrame) : AecpControllerStateMachine × Ptr :=
  (m, notificationId)

def stateRcvdResp (m : AecpControllerStateMachine) (notificationId : Ptr)
    (cmdFrame : AecpFrame) : AecpControllerStateMachine × Ptr :=
  let (engine, notificationId) := m.engine.procResp aecpSpec notificationId cmdFrame
  ({ m with engine }, notificationId)

def tick (now : Timestamp) (m : AecpControllerStateMachine) : AecpControllerStateMachine :=
  { m with engine := m.engine.tick aecpSpec now }

def updateInflightForRcvdResp (m : AecpControllerStateMachine) (notificationId : Ptr)
    (msgType : AecpMessageType) (uField : Bool) (cmdFrame : AecpFrame) :
    AecpControllerStateMachine × Ptr :=
  match msgType with
  | .aemResponse | .addressAccessResponse =>
    if uField then
      let (m, notificationId) := m.stateRcvdUnsolicited notificationId cmdFrame
      m.stateRcvdResp notificationId cmdFrame
    else m.stateRcvdResp notificationId cmdFrame
  | _ => (m, notificationId)

def startOperation (m : AecpControllerStateMachine) (notificationId : Ptr)
    (operationId operationType : BitVec 16) (frame : AecpFrame) : AecpControllerStateMachine :=
  { m with
    activeOperations := m.activeOperations ++
      [⟨frame, .cmdWithNotification, operationId, operationType, notificationId⟩] }

def operationIdComp (operationId : BitVec 16) (o : Operation) : Bool :=
  o.operationId == operationId

def updateOperationForRcvdResp (m : AecpControllerStateMachine) (notificationId : Ptr)
    (operationId percentComplete : BitVec 16) (cmdFrame : AecpFrame) :
    AecpControllerStateMachine × Ptr :=
  match m.activeOperations.find? (operationIdComp operationId) with
  | some j =>
    ({ m with
        operationPosts := m.operationPosts ++
          callback j.cmdNotificationId j.cmdNotificationFlag cmdFrame
        activeOperations :=
          if percentComplete = 0 ∨ percentComplete = 1000 then
            m.activeOperations.eraseP (operationIdComp operationId)
          else m.activeOperations }, j.cmdNotificationId)
  | none => (m, notificationId)

def isActiveOperationWithNotificationId (m : AecpControllerStateMachine)
    (notificationId : Ptr) : Bool :=
  m.activeOperations.any fun o => o.cmdNotificationId == notificationId

/-- The u bit makes no difference: an unsolicited response is looked up as well. -/
theorem updateInflightForRcvdResp_eq (m : AecpControllerStateMachine) (id : Ptr) (u : Bool)
    (f : AecpFrame) (h : f.isResponse = true) :
    m.updateInflightForRcvdResp id f.messageType u f = m.stateRcvdResp id f := by
  rw [AecpFrame.isResponse] at h
  simp only [updateInflightForRcvdResp]
  cases hm : f.messageType <;> simp only [hm, Bool.false_eq_true] at h <;> cases u <;> rfl

theorem updateInflightForRcvdResp_engine (m : AecpControllerStateMachine) (id : Ptr) (u : Bool)
    (t : AecpMessageType) (f : AecpFrame) :
    (m.updateInflightForRcvdResp id t u f = (m, id)) ∨
    (m.updateInflightForRcvdResp id t u f = m.stateRcvdResp id f) := by
  simp only [updateInflightForRcvdResp]
  cases t <;> cases u <;> first | exact .inr rfl | exact .inl rfl

end AecpControllerStateMachine
end AvdeccLib
