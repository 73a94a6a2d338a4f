import AvdeccLib.EndStation
import AvdeccLib.AecpControllerStateMachine
import AvdeccLib.AcmpControllerStateMachine

namespace AvdeccLib
set_option autoImplicit true

/-- The objects that the modules reach through global references: the network interface's MAC
address, the two controller state machines, what other modules post and the tx pipe. -/
structure Globals where
  macAddr : Mac
  aecp : AecpControllerStateMachine
  acmp : Engine AcmpFrame
  posts : List Notification
  txPipe : List TxData

/-- The arguments that `rx_packet_event` returns its results in, as `fn_netif` sets them. -/
structure RxOut where
  notificationId : Ptr := null
  isNotificationIdValid : Bool := false
  status : Int := -1
  operationId : BitVec 16 := 0
  isOperationIdValid : Bool := false
  deriving DecidableEq

abbrev RespHandler (φ : Type) := φ → Globals → RxOut → Except Fault (Globals × RxOut)

/-- The call of `update_inflight_for_rcvd_resp` at the end of a handler. -/
def updateInflight (msgType : AecpMessageType) (uField : Bool) (frame : AecpFrame) (g : Globals)
    (out : RxOut) : Globals × RxOut :=
  let (aecp, notificationId) :=
    g.aecp.updateInflightForRcvdResp out.notificationId msgType uField frame
  ({ g with aecp }, { out with notificationId })

/-- What the AEM response handlers share. They differ in the reader that they call and in
whether they assert its success. -/
def procAemResp (asserts : Bool) : RespHandler AecpFrame := fun frame g out =>
  if !frame.respReadOk then
    if asserts then throw .assertion else pure (g, out)
  else
    pure (updateInflight frame.messageType frame.uField frame g
      { out with status := frame.status.toNat })

/-- A handler that only the class for type `t` implements; in the others it is a stub. -/
def implementedBy (t : DescType) (handler : RespHandler AecpFrame) : RespHandler AecpFrame :=
  fun frame g out => if frame.descriptorType = t then handler frame g out else pure (g, out)

def procAcquireEntityResp : RespHandler AecpFrame := implementedBy .entity (procAemResp true)
def procLockEntityResp : RespHandler AecpFrame := implementedBy .entity (procAemResp true)
def procRebootResp : RespHandler AecpFrame := procAemResp false
def procEntityAvailResp : RespHandler AecpFrame := procAemResp false
def procControllerAvailResp : RespHandler AecpFrame := procAemResp true
def procSetStreamFormatResp : RespHandler AecpFrame := procAemResp true
def procGetStreamFormatResp : RespHandler AecpFrame := procAemResp true
def procGetStreamInfoResp : RespHandler AecpFrame := procAemResp true
def procSetSamplingRateResp : RespHandler AecpFrame := procAemResp true
def procGetSamplingRateResp : RespHandler AecpFrame := procAemResp true
def procSetClockSourceResp : RespHandler AecpFrame := procAemResp true
def procGetClockSourceResp : RespHandler AecpFrame := procAemResp true
def procStartStreamingResp : RespHandler AecpFrame := procAemResp true
def procStopStreamingResp : RespHandler AecpFrame := procAemResp true
def procSetStreamInfoResp : RespHandler AecpFrame :=
  implementedBy .streamOutput (procAemResp true)

def procSetControlResp : RespHandler AecpFrame := fun frame g out =>
  pure (updateInflight .aemResponse false frame g out)

def noMatchFound (cmdType : BitVec 16) : Notification :=
  ⟨.noMatchFound, 0, cmdType, 0, 0, 0, null⟩

def procRcvdAecpAaResp : RespHandler AecpFrame := fun frame g out =>
  let g := if frame.tlvCount ≠ 1 then { g with posts := g.posts ++ [noMatchFound 0] } else g
  pure (updateInflight .addressAccessResponse false frame g
    { out with status := frame.status.toNat })

/-- `proc_start_operation_resp` with the call of `start_operation` that follows it. -/
def procStartOperationResp : RespHandler AecpFrame := fun frame g out =>
  if !frame.respReadOk then
    pure (g, out)
  else
    let out := { out with status := frame.status.toNat, operationId := frame.operationId }
    let (g, out) := updateInflight frame.messageType frame.uField frame g out
    if out.status = 0 ∧ out.operationId ≠ 0 then
      let aecp := g.aecp.startOperation out.notificationId out.operationId frame.operationType
        frame
      pure ({ g with aecp }, { out with isOperationIdValid := true })
    else pure (g, out)

def procOperationStatusResp : RespHandler AecpFrame := fun frame g out =>
  if !frame.respReadOk then
    pure (g, out)
  else
    let out := { out with
      status := frame.status.toNat
      operationId := frame.operationId
      isOperationIdValid := out.isOperationIdValid || frame.operationId != 0 }
    let (g, out) := updateInflight frame.messageType frame.uField frame g out
    let (aecp, notificationId) := g.aecp.updateOperationForRcvdResp out.notificationId
      frame.operationId frame.percentComplete frame
    pure ({ g with aecp }, { out with notificationId })

def procAcmpResp : RespHandler AcmpFrame := fun frame g out =>
  if !frame.readOk then throw .assertion
  else
    let (acmp, notificationId) := g.acmp.procResp acmpSpec out.notificationId frame
    pure ({ g with acmp }, { out with status := frame.status.toNat, notificationId })

def procGetTxStateResp : RespHandler AcmpFrame := procAcmpResp
def procGetTxConnectionResp : RespHandler AcmpFrame := procAcmpResp
def procConnectRxResp : RespHandler AcmpFrame := procAcmpResp
def procDisconnectRxResp : RespHandler AcmpFrame := procAcmpResp
def procGetRxStateResp : RespHandler AcmpFrame := procAcmpResp

namespace EndStation

/-- The object that a response is for: `entity_desc_vec.at(current_entity_desc)` or, behind
`get_config_desc_by_index`, the position in the vector of its type. -/
def findObject (es : EndStation) (t : DescType) (index : BitVec 16) :
    Except Fault (Option AemDesc) := do
  let e ← es.currentEntity
  if t = .entity then pure (some e.desc)
  else do
    let cd ← deref (e.getConfigDescByIndex es.currentConfigDesc)
    pure (cd.getDescByIndex t index)

/-- A handler is called on its object. Without one the failed cast is logged. -/
def onObject (es : EndStation) (t : DescType) (index : BitVec 16) (handler : RespHandler φ) :
    RespHandler φ := fun frame g out => do
  match ← es.findObject t index with
  | some _ => handler frame g out
  | none => pure (g, out)

/-- `onObject` for the descriptor types that a command is implemented for. -/
def onTypes (es : EndStation) (types : List DescType) (handler : RespHandler AecpFrame) :
    RespHandler AecpFrame := fun frame g out =>
  if frame.descriptorType ∈ types then
    es.onObject frame.descriptorType frame.descriptorIndex handler frame g out
  else pure (g, out)

/-- The cases of `proc_rcvd_aem_resp` other than READ_DESCRIPTOR: none changes the station. -/
def aemRespHandler (es : EndStation) (frame : AecpFrame) : RespHandler AecpFrame :=
  match frame.commandType with
  | .acquireEntity => es.onTypes [.entity, .streamInput, .streamOutput] procAcquireEntityResp
  | .lockEntity => es.onTypes [.entity, .streamInput, .streamOutput] procLockEntityResp
  | .entityAvailable => procEntityAvailResp
  | .setStreamFormat => es.onTypes [.streamInput, .streamOutput] procSetStreamFormatResp
  | .getStreamFormat => es.onTypes [.streamInput, .streamOutput] procGetStreamFormatResp
  | .setStreamInfo => es.onTypes [.streamInput, .streamOutput] procSetStreamInfoResp
  | .getStreamInfo => es.onTypes [.streamInput, .streamOutput] procGetStreamInfoResp
  | .setName | .getName => fun _ g out => pure (g, out)
  | .setSamplingRate => es.onTypes [.audioUnit] procSetSamplingRateResp
  | .getSamplingRate => es.onTypes [.audioUnit] procGetSamplingRateResp
  -- the descriptor type of these two is not tested
  | .setClockSource => es.onObject .clockDomain frame.descriptorIndex procSetClockSourceResp
  | .getClockSource => es.onObject .clockDomain frame.descriptorIndex procGetClockSourceResp
  | .startStreaming => es.onTypes [.streamInput, .streamOutput] procStartStreamingResp
  | .stopStreaming => es.onTypes [.streamInput, .streamOutput] procStopStreamingResp
  | .reboot => es.onTypes [.entity] procRebootResp
  | .startOperation => es.onTypes [.memoryObject] procStartOperationResp
  | .operationStatus => es.onTypes [.memoryObject] procOperationStatusResp
  | .setControl => procSetControlResp
  | .readDescriptor | .controllerAvailable | .other _ => fun frame g out =>
    pure ({ g with posts := g.posts ++ [noMatchFound frame.commandType.code] }, out)

def procReadDescResp (now : Timestamp) (es : EndStation) (frame : AecpFrame) (g : Globals)
    (out : RxOut) : Except Fault (Globals × EndStation × RxOut) :=
  if !frame.respReadOk then pure (g, es, out)
  else do
    let (g, out) := updateInflight frame.messageType frame.uField frame g
      { out with status := frame.status.toNat }
    let (es, tx, posts) ← es.rcvdDescriptor g.macAddr now frame.status frame.descriptor
    pure ({ g with txPipe := g.txPipe ++ tx, posts := g.posts ++ posts }, es, out)

def procRcvdAemResp (now : Timestamp) (es : EndStation) (frame : AecpFrame) (g : Globals)
    (out : RxOut) : Except Fault (Globals × EndStation × RxOut) :=
  if frame.commandType = .readDescriptor then es.procReadDescResp now frame g out
  else do
    let (g, out) ← es.aemRespHandler frame frame g out
    pure (g, es, out)

def procRcvdAcmpResp (es : EndStation) : RespHandler AcmpFrame := fun frame g out =>
  match frame.messageType with
  | .getTxStateResponse =>
    es.onObject .streamOutput frame.talkerUniqueId procGetTxStateResp frame g out
  | .connectRxResponse =>
    es.onObject .streamInput frame.listenerUniqueId procConnectRxResp frame g out
  | .disconnectRxResponse =>
    es.onObject .streamInput frame.listenerUniqueId procDisconnectRxResp frame g out
  | .getRxStateResponse =>
    es.onObject .streamInput frame.listenerUniqueId procGetRxStateResp frame g out
  | .getTxConnectionResponse =>
    es.onObject .streamOutput frame.talkerUniqueId procGetTxConnectionResp frame g out
  | _ => pure ({ g with posts := g.posts ++ [noMatchFound frame.messageType.code] }, out)

end EndStation
end AvdeccLib
