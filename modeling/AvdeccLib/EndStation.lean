import AvdeccLib.Timer
import AvdeccLib.Descriptors

namespace AvdeccLib
set_option autoImplicit true

/-- A frame as it goes through the tx pipe, by its subtype. -/
inductive TxFrame where
  | aecp (f : AecpFrame)
  | acmp (f : AcmpFrame)
  | other
  deriving DecidableEq

structure TxData where
  notificationId : Ptr
  notificationFlag : AemCmdWaiting
  frame : TxFrame
  deriving DecidableEq

/-- The values ' ', 'C' and 'D' of `end_station_connection_status`. -/
inductive ConnectionStatus where
  | unset
  | connected
  | disconnected
  deriving DecidableEq

/-- `background_read_request`. `generation` is not in the source: it is the number of the
enumeration that queued the request. -/
structure BackgroundReadRequest where
  type : DescType
  index : BitVec 16
  timer : Timer
  generation : Nat
  deriving DecidableEq

/-- `end_station_imp`. `current_entity_desc` is always 0 and has no field. `generation` and
`issued` are not in the source: they count the enumerations and record, for each request that
was submitted, the enumeration that it was submitted in. -/
structure EndStation where
  entityId : EntityId
  mac : Mac
  connectionStatus : ConnectionStatus
  currentConfigDesc : BitVec 16
  backgroundReadPending : List BackgroundReadRequest
  backgroundReadInflight : List BackgroundReadRequest
  adp : Adpdu
  entityDescVec : List EntityDescriptor
  generation : Nat
  issued : List (BackgroundReadRequest × Nat)

/-- `adp::get_controller_entity_id`, from the MAC address of the network interface. -/
def getControllerEntityId (macAddr : Mac) : EntityId :=
  ((macAddr.setWidth 64 &&& 0xFFFFFF000000) <<< 16) ||| 0x000000FFFF000000 |||
    (macAddr.setWidth 64 &&& 0xFFFFFF)

/-- `adp::proc_adpdu`: a frame that is not read leaves the ADPDU as it was. -/
def procAdpdu (adp : Adpdu) (frame : AdpFrame) : Adpdu :=
  if frame.frameReadOk then frame.adpdu.getD adp else adp

def backgroundReadTimeoutMs : BitVec 32 := 750

namespace EndStation

def currentEntity (es : EndStation) : Except Fault EntityDescriptor :=
  match es.entityDescVec with
  | e :: _ => pure e
  | [] => throw .outOfRange

/-- `get_config_desc_by_index(current_config_desc)` behind its two size checks. -/
def currentConfig (es : EndStation) : Option ConfigurationDescriptor :=
  match es.entityDescVec with
  | e :: _ =>
    if 1 ≤ e.configDescVec.length then e.getConfigDescByIndex es.currentConfigDesc else none
  | [] => none

/-- The size checks themselves: an ENTITY and a CONFIGURATION descriptor are stored. -/
def hasConfig (es : EndStation) : Bool :=
  match es.entityDescVec with
  | e :: _ => 1 ≤ e.configDescVec.length
  | [] => false

section
variable (macAddr : Mac)

def sendReadDescCmdWithFlag (es : EndStation) (notificationId : Ptr)
    (notificationFlag : AemCmdWaiting) (descType : DescType) (descIndex : BitVec 16) :
    Except Fault TxData := do
  let configurationIndex ←
    if descType = .entity ∨ descType = .configuration then pure 0
    else (do pure (← es.currentEntity).currentConfiguration)
  pure {
    notificationId
    notificationFlag
    frame := .aecp {
      destMac := es.mac
      messageType := .aemCommand
      targetEntityId := es.entityId
      controllerEntityId := getControllerEntityId macAddr
      commandType := .readDescriptor
      configurationIndex
      descriptorType := descType
      descriptorIndex := descIndex
      readDescriptorType := descType.code
      readDescriptorIndex := descIndex } }

def readDescInit (es : EndStation) (descType : DescType) (descIndex : BitVec 16) :
    Except Fault TxData :=
  es.sendReadDescCmdWithFlag macAddr null .cmdWithoutNotification descType descIndex

def endStationInit (es : EndStation) : Except Fault (EndStation × List TxData) := do
  let es := { es with currentConfigDesc := 0 }
  let tx ← es.readDescInit macAddr .entity 0
  pure (es, [tx])

/-- The constructor. The one of `adp` asserts that the frame is read. -/
def new (frame : AdpFrame) : Except Fault (EndStation × List TxData) :=
  match frame.frameReadOk, frame.adpdu with
  | true, some adpdu =>
    endStationInit macAddr
      { entityId := adpdu.entityId
        mac := frame.srcMac
        connectionStatus := .unset
        currentConfigDesc := 0
        backgroundReadPending := []
        backgroundReadInflight := []
        adp := adpdu
        entityDescVec := []
        generation := 0
        issued := [] }
  | _, _ => throw .assertion

/-- `end_station_reenumerate`: the two background read lists are left as they are. -/
def endStationReenumerate (es : EndStation) : Except Fault (EndStation × List TxData) :=
  endStationInit macAddr { es with entityDescVec := [], generation := es.generation + 1 }

end

/-- `queue_background_read_request`, as the requests that it appends. -/
def queueBackgroundReadRequest (es : EndStation) (descType : DescType)
    (descBaseIndex descCount : BitVec 16) : List BackgroundReadRequest :=
  (List.range descCount.toNat).map fun i =>
    ⟨descType, descBaseIndex + BitVec.ofNat 16 i, .new, es.generation⟩

def deref (d : Option α) : Except Fault α :=
  match d with
  | some d => pure d
  | none => throw .nullPointer

/-- The cases of `background_read_deduce_next` that look into a configuration. -/
def deduceFromConfig (es : EndStation) (cd : ConfigurationDescriptor) (d : AemDesc) :
    Except Fault (List BackgroundReadRequest) :=
  let descIndex := (descIndexFromFrame d).getD 0
  let queue t (r : DescRange) := es.queueBackgroundReadRequest t r.base r.number
  match d.descriptorType with
  | .configuration =>
    pure (cd.desc.descriptorCounts.flatMap fun c => es.queueBackgroundReadRequest c.1 0 c.2)
  | .locale => do
    let l ← deref (cd.getDescByIndex .locale 0)
    pure (es.queueBackgroundReadRequest .strings 0 l.strings.number)
  | .audioUnit => do
    let aud ← deref (cd.getDescByIndex .audioUnit descIndex)
    pure (queue .streamPortInput aud.streamInputPorts ++
      queue .streamPortOutput aud.streamOutputPorts ++
      queue .externalPortInput aud.externalInputPorts ++
      queue .externalPortOutput aud.externalOutputPorts ++ queue .control aud.controlBlocks)
  | .streamPortInput => do
    let spid ← deref (cd.getDescByIndex .streamPortInput descIndex)
    pure (queue .control spid.controls ++ queue .audioCluster spid.clusters ++
      queue .audioMap spid.maps)
  | .streamPortOutput => do
    let spod ← deref (cd.getDescByIndex .streamPortOutput descIndex)
    pure (queue .control spod.controls ++ queue .audioCluster spod.clusters ++
      queue .audioMap spod.maps)
  | _ => pure []

/-- `background_read_deduce_next`, as the requests that it queues. -/
def backgroundReadDeduceNext (es : EndStation) (cd : Option ConfigurationDescriptor)
    (d : AemDesc) : Except Fault (List BackgroundReadRequest) :=
  if d.descriptorType = .entity then pure (es.queueBackgroundReadRequest .configuration 0 1)
  else
    match cd with
    | none => pure []
    | some cd => es.deduceFromConfig cd d

/-- `background_read_update_timeouts`. A timer that has not run out is not changed by being
asked. -/
def backgroundReadUpdateTimeouts (now : Timestamp) (es : EndStation) : EndStation :=
  { es with
    backgroundReadInflight := es.backgroundReadInflight.filter fun b => !b.timer.timeout now }

def backgroundReadUpdateInflight (es : EndStation) (d : AemDesc) : EndStation :=
  { es with
    backgroundReadInflight := es.backgroundReadInflight.filter fun b =>
      !(b.type == d.descriptorType && descIndexFromFrame d == some b.index) }

/-- `background_read_submit_pending`: the requests of the first one's type in front of the
pending list are sent together. -/
def backgroundReadSubmitPending (macAddr : Mac) (now : Timestamp) (es : EndStation) :
    Except Fault (EndStation × List TxData) :=
  match es.backgroundReadInflight, es.backgroundReadPending with
  | [], bFirst :: rest => do
    let batch := bFirst :: rest.takeWhile fun bNext => bNext.type == bFirst.type
    let tx ← batch.mapM fun b => es.readDescInit macAddr b.type b.index
    pure ({ es with
      backgroundReadPending := rest.dropWhile fun bNext => bNext.type == bFirst.type
      backgroundReadInflight :=
        batch.map fun b => { b with timer := .start now backgroundReadTimeoutMs }
      issued := es.issued ++ batch.map fun b => (b, es.generation) }, tx)
  | _, _ => pure (es, [])

def storeDescriptor (es : EndStation) (status : BitVec 5) (descType : DescType) : Bool :=
  status == 0 &&
    match descType, es.entityDescVec with
    | .entity, _ => true
    | .configuration, [e] => e.configDescVec.length == 0
    | .configuration, _ => false
    | _, [e] => 1 ≤ e.configDescVec.length
    | _, _ => false

def storeEntity (es : EndStation) (d : AemDesc) : Except Fault EndStation :=
  match es.entityDescVec with
  | [] => do
    let e ← EntityDescriptor.new d
    pure { es with entityDescVec := [e], currentConfigDesc := e.currentConfiguration }
  | _ :: _ => pure es

def storeConfiguration (es : EndStation) (d : AemDesc) : Except Fault EndStation := do
  let e ← es.currentEntity
  let e ← e.storeConfigDesc d
  pure { es with entityDescVec := e :: es.entityDescVec.tail }

/-- A `store_*_desc` of the current configuration. An error of the descriptor's reader is
caught. -/
def storeInConfig (es : EndStation) (d : AemDesc) : Except Fault EndStation := do
  let cd ← deref es.currentConfig
  match ← newDesc d with
  | none => pure es
  | some d =>
    let e ← es.currentEntity
    let configs := e.configDescVec.set es.currentConfigDesc.toNat (cd.storeDesc d)
    pure
      { es with entityDescVec := { e with configDescVec := configs } :: es.entityDescVec.tail }

def storeDesc (es : EndStation) (d : AemDesc) : Except Fault EndStation :=
  match d.descriptorType with
  | .entity => es.storeEntity d
  | .configuration => es.storeConfiguration d
  | .other _ => pure es
  | _ => es.storeInConfig d

/-- The descriptor of a response is stored and the reads that it calls for are queued. -/
def storeAndDeduce (es : EndStation) (status : BitVec 5) (d : AemDesc) :
    Except Fault EndStation :=
  if es.storeDescriptor status d.descriptorType then do
    let es ← es.storeDesc d
    let next ← es.backgroundReadDeduceNext es.currentConfig d
    pure { es with backgroundReadPending := es.backgroundReadPending ++ next }
  else pure es

def endStationReadCompleted (es : EndStation) : Notification :=
  ⟨.endStationReadCompleted, es.entityId, 0, 0, 0, 0, null⟩

def readCompleted (es : EndStation) : Bool :=
  es.hasConfig && es.backgroundReadInflight.isEmpty && es.backgroundReadPending.isEmpty

/-- The part of `proc_read_desc_resp` behind `update_inflight_for_rcvd_resp`. -/
def rcvdDescriptor (macAddr : Mac) (now : Timestamp) (es : EndStation) (status : BitVec 5)
    (d : AemDesc) : Except Fault (EndStation × List TxData × List Notification) := do
  let es ← es.storeAndDeduce status d
  let (es, tx) ← (es.backgroundReadUpdateInflight d).backgroundReadSubmitPending macAddr now
  pure (es, tx, if es.readCompleted then [es.endStationReadCompleted] else [])

/-- The round of `time_tick_event` for one end station. -/
def timeTick (macAddr : Mac) (now : Timestamp) (es : EndStation) :
    Except Fault (EndStation × List TxData) :=
  (es.backgroundReadUpdateTimeouts now).backgroundReadSubmitPending macAddr now

end EndStation
end AvdeccLib
