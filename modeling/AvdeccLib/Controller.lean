import AvdeccLib.Responses

namespace AvdeccLib
set_option autoImplicit true

structure Entities where
  entityId : EntityId
  inflightTimer : Timer
  deriving DecidableEq

/-- `discovered` and `posts` are not in the source: they record the ids that ENTITY_DISCOVER was
sent for and the notifications that the state machine posts. -/
structure AdpDiscoveryStateMachine where
  firstTick : Bool
  entitiesVec : List Entities
  discovered : List EntityId
  posts : List Notification
  deriving DecidableEq

namespace AdpDiscoveryStateMachine

def new : AdpDiscoveryStateMachine := ⟨true, [], [], []⟩

/-- END_STATION_CONNECTED and END_STATION_DISCONNECTED carry nothing but the entity id. -/
def notification (t : NotificationType) (entityId : EntityId) : Notification :=
  ⟨t, entityId, 0, 0, 0, 0, null⟩

def haveEntity (m : AdpDiscoveryStateMachine) (entityId : EntityId) : Option Nat :=
  m.entitiesVec.findIdx? fun e => e.entityId == entityId

/-- Valid time period is between 2 and 62 seconds. -/
def validTimeMs (frame : AdpFrame) : BitVec 32 := frame.validTime.setWidth 32 * 2 * 1000

def stateAvail (now : Timestamp) (m : AdpDiscoveryStateMachine) (frame : AdpFrame) :
    AdpDiscoveryStateMachine :=
  let entity : Entities := ⟨frame.entityIdBytes, .start now (validTimeMs frame)⟩
  match m.haveEntity frame.entityIdBytes with
  | some i => { m with entitiesVec := m.entitiesVec.set i entity }
  | none =>
    { m with
      entitiesVec := m.entitiesVec ++ [entity]
      posts := m.posts ++ [notification .endStationConnected frame.entityIdBytes] }

/-- `tick`: at most one entity expires. The timers in front of it are not changed by being
asked. -/
def tick (now : Timestamp) (m : AdpDiscoveryStateMachine) :
    AdpDiscoveryStateMachine × Option EntityId :=
  let m := if m.firstTick then
    { m with firstTick := false, discovered := m.discovered ++ [0] } else m
  match m.entitiesVec.find? (·.inflightTimer.timeout now) with
  | some e =>
    ({ m with
        entitiesVec := m.entitiesVec.eraseP (·.inflightTimer.timeout now)
        posts := m.posts ++ [notification .endStationDisconnected e.entityId] },
      some e.entityId)
  | none => (m, none)

end AdpDiscoveryStateMachine

inductive RxFrame where
  | adp (f : AdpFrame)
  | aecp (f : AecpFrame)
  | acmp (f : AcmpFrame)
  | other (destMac : Mac)

def RxFrame.destMac : RxFrame → Mac
  | .adp f => f.destMac
  | .aecp f => f.destMac
  | .acmp f => f.destMac
  | .other destMac => destMac

def avdeccLibStatusInvalid : Int := 1023

def avdeccLibStatusTickTimeout : Int := 1024

structure Controller where
  globals : Globals
  adp : AdpDiscoveryStateMachine
  endStationVec : List EndStation

namespace Controller

def new (macAddr : Mac) : Controller :=
  { globals := ⟨macAddr, .new, .new, [], []⟩, adp := .new, endStationVec := [] }

def isEndStationFoundByEntityId (c : Controller) (entityId : EntityId) : Option Nat :=
  c.endStationVec.findIdx? fun es => es.entityId == entityId

def isInflightCmdWithNotificationId (c : Controller) (notificationId : Ptr) : Bool :=
  c.globals.aecp.engine.isInflightCmdWithNotificationId notificationId ||
    c.globals.acmp.isInflightCmdWithNotificationId notificationId

def isActiveOperationWithNotificationId (c : Controller) (notificationId : Ptr) : Bool :=
  c.globals.aecp.isActiveOperationWithNotificationId notificationId

/-- `system_queue_tx` as the lib thread calls it: nothing is waited for. -/
def systemQueueTx (c : Controller) (tx : List TxData) : Controller :=
  { c with globals := { c.globals with txPipe := c.globals.txPipe ++ tx } }

def modifyEndStation (c : Controller) (i : Nat) (f : EndStation → EndStation) : Controller :=
  { c with endStationVec := c.endStationVec.modify i f }

def adpTick (now : Timestamp) (c : Controller) : Controller :=
  let (adp, expired) := c.adp.tick now
  let c := { c with adp }
  match expired.bind c.isEndStationFoundByEntityId with
  | some i => c.modifyEndStation i fun es => { es with connectionStatus := .disconnected }
  | none => c

def timeTickEvent (now : Timestamp) (c : Controller) : Except Fault Controller := do
  let globals := { c.globals with
    aecp := c.globals.aecp.tick now
    acmp := c.globals.acmp.tick acmpSpec now }
  let c := { c with globals }.adpTick now
  let rounds ← c.endStationVec.mapM fun es => es.timeTick c.globals.macAddr now
  pure ({ c with endStationVec := rounds.map Prod.fst }.systemQueueTx (rounds.flatMap Prod.snd))

/-- `find_in_end_station`, with the end station at the index. -/
def findInEndStation (c : Controller) (otherEntityId otherControllerId : EntityId) :
    Option (EndStation × Nat) :=
  c.endStationVec.zipIdx.find? fun p =>
    p.1.adp.entityId == otherEntityId &&
      (otherControllerId == getControllerEntityId c.globals.macAddr ||
        otherControllerId == p.1.adp.entityId)

/-- What the loop over `end_station_vec` in the ADP case is left with: the last match. -/
def lastEndStation (c : Controller) (entityId : EntityId) : Option (EndStation × Nat) :=
  c.endStationVec.zipIdx.foldl
    (fun found p => if p.1.adp.entityId == entityId then some p else found) none

/-- The struct that `jdksavdecc_adpdu_read` leaves as it is when it fails. -/
def zeroAdpdu : Adpdu := ⟨0, 0, 0, false, false⟩

def reenumerates (es : EndStation) (adpdu : Adpdu) : Bool :=
  decide (adpdu.availableIndex < es.adp.availableIndex) ||
    adpdu.entityModelId != es.adp.entityModelId

def rxKnownAdp (now : Timestamp) (frame : AdpFrame) (adpdu : Adpdu) (es : EndStation) (i : Nat)
    (c : Controller) : Except Fault Controller := do
  let (es, tx) ← (if reenumerates es adpdu then es.endStationReenumerate c.globals.macAddr
    else pure (es, []))
  let es := { es with adp := procAdpdu es.adp frame }
  let es := if es.connectionStatus = .disconnected then
    { es with connectionStatus := .connected } else es
  pure ({ c with
    adp := c.adp.stateAvail now frame
    endStationVec := c.endStationVec.set i es }.systemQueueTx tx)

def rxNewAdp (now : Timestamp) (frame : AdpFrame) (c : Controller) :
    Except Fault Controller := do
  let (es, tx) ← EndStation.new c.globals.macAddr frame
  pure ({ c with
    adp := c.adp.stateAvail now frame
    endStationVec := c.endStationVec ++ [{ es with connectionStatus := .connected }]
    }.systemQueueTx tx)

def rxAdp (now : Timestamp) (frame : AdpFrame) (c : Controller) : Except Fault Controller :=
  let adpdu := frame.adpdu.getD zeroAdpdu
  if adpdu.generalControllerIgnore || adpdu.entityNotReady then pure c
  else if adpdu.entityId = 0 then pure c
  else
    match c.lastEndStation adpdu.entityId with
    | none => c.rxNewAdp now frame
    | some (es, i) => c.rxKnownAdp now frame adpdu es i

def rxAecp (now : Timestamp) (frame : AecpFrame) (c : Controller) (out : RxOut) :
    Except Fault (Controller × RxOut) :=
  let found := c.findInEndStation frame.targetEntityId frame.controllerEntityId
  match frame.destMac == c.globals.macAddr, found with
  | true, some (es, i) =>
    match frame.messageType with
    | .aemResponse =>
      if frame.commandType = .controllerAvailable then do
        let (globals, out) ← procControllerAvailResp frame c.globals out
        pure ({ c with globals }, { out with isNotificationIdValid := true })
      else do
        let (globals, es, out) ← es.procRcvdAemResp now frame c.globals out
        pure ({ c with globals, endStationVec := c.endStationVec.set i es },
          { out with isNotificationIdValid := true })
    | .addressAccessResponse => do
      let (globals, out) ← procRcvdAecpAaResp frame c.globals out
      pure ({ c with globals }, { out with isNotificationIdValid := true })
    | _ => pure (c, out)
  | _, _ => pure (c, { out with status := avdeccLibStatusInvalid })

/-- The station that an ACMP response is from. For a message type that is not one of the five
responses `entity_entity_id` is read before it is set; `uninit` is what it holds. -/
def entityEntityId (uninit : EntityId) (frame : AcmpFrame) : EntityId :=
  match frame.messageType with
  | .getTxStateResponse | .getTxConnectionResponse => frame.talkerEntityId
  | .connectRxResponse | .disconnectRxResponse | .getRxStateResponse => frame.listenerEntityId
  | _ => uninit

def rxAcmp (uninit : EntityId) (frame : AcmpFrame) (c : Controller) (out : RxOut) :
    Except Fault (Controller × RxOut) :=
  match c.findInEndStation (entityEntityId uninit frame) frame.controllerEntityId with
  | some (es, _) => do
    let (globals, out) ← es.procRcvdAcmpResp frame c.globals out
    pure ({ c with globals }, { out with isNotificationIdValid := true })
  | none => pure (c, { out with status := avdeccLibStatusInvalid })

/-- A frame is processed if it was sent to our MAC address or a multicast address. -/
def accepts (c : Controller) (destMac : Mac) : Bool :=
  destMac == c.globals.macAddr || destMac &&& 0x010000000000 != 0

def rxPacketEvent (now : Timestamp) (uninit : EntityId) (frame : RxFrame) (c : Controller)
    (out : RxOut) : Except Fault (Controller × RxOut) :=
  let out := { out with isOperationIdValid := false }
  if c.accepts frame.destMac then
    match frame with
    | .adp f => do
      let c ← c.rxAdp now f
      pure (c, { out with status := avdeccLibStatusInvalid, isNotificationIdValid := false })
    | .aecp f => c.rxAecp now f out
    | .acmp f => c.rxAcmp uninit f out
    | .other _ => pure (c, out)
  else pure (c, out)

def txPacketEvent (now : Timestamp) (d : TxData) (c : Controller) : Controller :=
  match d.frame with
  | .aecp f =>
    { c with globals := { c.globals with
        aecp := c.globals.aecp.stateSendCmd now d.notificationId d.notificationFlag f } }
  | .acmp f =>
    { c with globals := { c.globals with
        acmp := c.globals.acmp.stateSendCmd acmpSpec now d.notificationId
          d.notificationFlag f } }
  | .other => c

/-- What the lib thread handles: a received frame, a timer tick, the front of the tx pipe. -/
inductive Event where
  | rxPacket (now : Timestamp) (uninit : EntityId) (frame : RxFrame)
  | timeTick (now : Timestamp)
  | txPacket (now : Timestamp)

/-- One event, as `fn_netif`, `fn_timer` and `fn_tx` pass it to the controller. -/
def handle (c : Controller) : Event → Except Fault Controller
  | .rxPacket now uninit frame => do pure (← c.rxPacketEvent now uninit frame {}).1
  | .timeTick now => c.timeTickEvent now
  | .txPacket now =>
    match c.globals.txPipe with
    | [] => pure c
    | d :: rest =>
      pure ({ c with globals := { c.globals with txPipe := rest } }.txPacketEvent now d)

def Step (c : Controller) (e : Event) (c' : Controller) : Prop := c.handle e = .ok c'

end Controller
end AvdeccLib
