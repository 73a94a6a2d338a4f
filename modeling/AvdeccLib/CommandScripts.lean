import AvdeccLib.Library.Script
import AvdeccLib.CliCommandFormat
import AvdeccLib.FirmwareUpgrade
import AvdeccLib.SentFrames
import AvdeccLib.ShowConnections

namespace AvdeccLib
set_option autoImplicit true

open Scripts
open EndStation (deref)

/-- `aem_descs_names` -/
def aemDescsNames : List String :=
  ["ENTITY", "CONFIGURATION", "AUDIO_UNIT", "VIDEO_UNIT", "SENSOR_UNIT", "STREAM_INPUT",
    "STREAM_OUTPUT", "JACK_INPUT", "JACK_OUTPUT", "AVB_INTERFACE", "CLOCK_SOURCE",
    "MEMORY_OBJECT", "LOCALE", "STRINGS", "STREAM_PORT_INPUT", "STREAM_PORT_OUTPUT",
    "EXTERNAL_PORT_INPUT", "EXTERNAL_PORT_OUTPUT", "INTERNAL_PORT_INPUT",
    "INTERNAL_PORT_OUTPUT", "AUDIO_CLUSTER", "VIDEO_CLUSTER", "SENSOR_CLUSTER", "AUDIO_MAP",
    "VIDEO_MAP", "SENSOR_MAP", "CONTROL", "SIGNAL_SELECTOR", "MIXER", "MATRIX",
    "MATRIX_SIGNAL", "SIGNAL_SPLITTER", "SIGNAL_COMBINER", "SIGNAL_DEMULTIPLEXER",
    "SIGNAL_MULTIPLEXER", "SIGNAL_TRANSCODER", "CLOCK_DOMAIN", "CONTROL_BLOCK"]

def totalNumOfAemDescs : BitVec 16 := 38

/-- The position in the table, or `AEM_DESC_ERROR`. -/
def aemDescNameToValue (descName : String) : BitVec 16 :=
  match aemDescsNames.findIdx? (· == descName.toUpper) with
  | some i => BitVec.ofNat 16 i
  | none => 0xffff

/-- `ieee1722_format_table` in front of its last entry. -/
def ieee1722FormatTable : List (BitVec 64 × String) :=
  [(0x00a0020140000100, "IEC...48KHZ_1CH"), (0x00a0020240000200, "IEC...48KHZ_2CH"),
    (0x00a0020440000400, "IEC...48KHZ_4CH"), (0x00a0020840000800, "IEC...48KHZ_8CH"),
    (0x00a0040140000100, "IEC...96KHZ_1CH"), (0x00a0040240000200, "IEC...96KHZ_2CH"),
    (0x00a0040440000400, "IEC...96KHZ_4CH"), (0x00a0040840000800, "IEC...96KHZ_8CH")]

def ieee1722FormatNameToValue (formatName : String) : BitVec 64 :=
  match ieee1722FormatTable.find? (·.2 == formatName) with
  | some p => p.1
  | none => 0xffff

/-- What `get_clock_source` reads of a CLOCK_DOMAIN: the sources that it lists, and the index in
the last GET_CLOCK_SOURCE response. -/
structure ClockDomainState where
  clkSrcVec : List (BitVec 16)
  clockSourceIndex : BitVec 16

/-- What the end stations and the objects hold besides the descriptors. The control index is
that of the last ADPDU, the CLOCK_DOMAINs are those of the current configuration, and the states
of the streams are those of the last responses. -/
structure ObjectData where
  identifyControlIndex : EndStation → BitVec 16
  clockDomain : BitVec 16 → ClockDomainState
  streamStates : StreamStates

/-- What a command reads of the library and of `cmd_line` at one place. -/
structure View extends ObjectData where
  cmdLine : CmdLine
  currentEndStation : BitVec 32

namespace View

/-- `get_current_end_station` -/
def getCurrentEndStation (v : View) : Option EndStation :=
  v.cmdLine.getEndStationByIndex v.currentEndStation

/-- `get_current_end_station_entity_and_descriptor` -/
def getCurrentEndStationEntityAndDescriptor (v : View) :
    Option (EndStation × EntityDescriptor × ConfigurationDescriptor) := do
  let endStation ← v.getCurrentEndStation
  let entity ← v.cmdLine.getCurrentEntityDesc v.currentEndStation
  let configuration ← v.cmdLine.getCurrentConfigDesc v.currentEndStation
  pure (endStation, entity, configuration)

def isSettingValid (v : View) (endStation : BitVec 32) (entity config : BitVec 16) : Bool :=
  match v.cmdLine.getEndStationByIndex endStation with
  | none => false
  | some es =>
    match es.entityDescVec[entity.toNat]? with
    | none => false
    | some e => config.toNat < e.configDescVec.length

def stations (v : View) : List EndStation := v.cmdLine.controller.endStationVec

/-- `end_station_vec.at` -/
def endStationAt (v : View) (endStationIndex : BitVec 32) : Except Fault EndStation :=
  match v.cmdLine.getEndStationByIndex endStationIndex with
  | some es => pure es
  | none => throw .outOfRange

end View

/-- What a command calls: the functions of the library, `get_next_notification_id` and the
assignments of `do_select`. `look` is what it reads between them. -/
inductive CommandCall where
  | look
  | getNextNotificationId
  | setWaitForNextCmd (id : Ptr)
  | send (endStation : EndStation) (cmd : NotifiedCmd) (id : Ptr)
  | sendAcmp (tx : TxData)
  | getLastRespStatus
  | select (endStation : BitVec 32) (selection : Selection)

abbrev CommandCall.Reply : CommandCall → Type
  | look => View
  | getNextNotificationId => Ptr
  | getLastRespStatus => Int
  | _ => Unit

abbrev Handler := Script CommandCall CommandCall.Reply Fault

namespace Handler

def look : Handler View := Script.perform CommandCall.look

def getNextNotificationId : Handler Ptr := Script.perform CommandCall.getNextNotificationId

def setWaitForNextCmd (id : Ptr) : Handler Unit :=
  Script.perform (CommandCall.setWaitForNextCmd id)

def send (endStation : EndStation) (cmd : NotifiedCmd) (id : Ptr) : Handler Unit :=
  Script.perform (CommandCall.send endStation cmd id)

def sendAcmp (tx : TxData) : Handler Unit := Script.perform (CommandCall.sendAcmp tx)

def getLastRespStatus : Handler Int := Script.perform CommandCall.getLastRespStatus

def select (endStation : BitVec 32) (selection : Selection) : Handler Unit :=
  Script.perform (CommandCall.select endStation selection)

/-- The calls around one AECP command. What it is sent to is looked up behind the wait. -/
def sendAndWait (target : View → Except Fault (EndStation × NotifiedCmd)) : Handler Unit := do
  let id ← getNextNotificationId
  setWaitForNextCmd id
  let v ← look
  let (endStation, cmd) ← Script.lift (target v)
  send endStation cmd id
  let _ ← getLastRespStatus
  pure ()

/-- The calls around one ACMP command. -/
def sendAcmpAndWait (tx : CmdLine → Ptr → Except Fault TxData) : Handler Unit := do
  let id ← getNextNotificationId
  setWaitForNextCmd id
  let v ← look
  let tx ← Script.lift (tx v.cmdLine id)
  sendAcmp tx
  let _ ← getLastRespStatus
  pure ()

/-- A descriptor object of the current configuration is looked up, and a sender of it called. -/
def onDescriptor (t : DescType) (descIndex : BitVec 16) (cmd : AemDesc → SendCmd) :
    Handler Unit :=
  sendAndWait fun v => do
    let (endStation, _, configuration) ← deref v.getCurrentEndStationEntityAndDescriptor
    let obj ← deref (configuration.getDescByIndex t descIndex)
    pure (endStation, .send (cmd obj))

/-- A sender of the current entity. -/
def onEntity (cmd : EntityDescriptor → SendCmd) : Handler Unit :=
  sendAndWait fun v => do
    let (endStation, entity, _) ← deref v.getCurrentEndStationEntityAndDescriptor
    pure (endStation, .send (cmd entity))

/-- The check that the commands for the current configuration make. -/
def withCurrent (command : Handler Unit) : Handler Unit := do
  let v ← look
  match v.getCurrentEndStationEntityAndDescriptor with
  | none => pure ()
  | some _ => command

/-- A command that is for a STREAM_INPUT or a STREAM_OUTPUT. -/
def onStream (descName : String) (input output : Handler Unit) : Handler Unit :=
  withCurrent
    (if aemDescNameToValue descName = DescType.streamInput.code then input
    else if aemDescNameToValue descName = DescType.streamOutput.code then output
    else pure ())

end Handler

open Handler

/-- `do_select`, which prints the name of the entity that was selected in the end station. -/
def doSelect (newEndStation : BitVec 32) (newEntity newConfig : BitVec 16) : Handler Unit := do
  let v ← look
  if v.isSettingValid newEndStation newEntity newConfig then
    let _ ← Script.lift (deref (v.cmdLine.getCurrentEntityDesc newEndStation))
    if v.currentEndStation = newEndStation ∧
        v.cmdLine.selection newEndStation.toNat = ⟨newEntity, newConfig⟩ then
      pure ()
    else do
      select newEndStation ⟨newEntity, newConfig⟩
      pure ()
  else pure ()

def cmdShowSelect : Handler Unit := do
  let v ← look
  match v.getCurrentEndStation with
  | none => pure ()
  | some _ => do
    let _ ← Script.lift (deref (v.cmdLine.getCurrentEntityDesc v.currentEndStation))
    pure ()

def cmdReadDescriptor (descName : String) (descIndex : BitVec 16) : Handler Unit := do
  let v ← look
  match v.getCurrentEndStation with
  | none => pure ()
  | some _ =>
    if aemDescNameToValue descName < totalNumOfAemDescs then
      sendAndWait fun v => do
        let endStation ← deref v.getCurrentEndStation
        pure (endStation, .send (.readDesc .cmdWithNotification
          (.ofCode (aemDescNameToValue descName)) descIndex))
    else pure ()

/-- `cmd_connect_rx`. The second look-up is for the warning about the formats. -/
def cmdConnectRx (args : RxArgs) (flags : List String) : Handler Unit := do
  let v ← look
  let c := v.cmdLine
  if c.isValid args (c.getCurrentConfigDesc args.instreamEndStationIndex)
      (c.getCurrentConfigDesc args.outstreamEndStationIndex) then
    match connectionFlags flags with
    | none => pure ()
    | some connectionFlags =>
      sendAcmpAndWait fun c id => do
        let instream ← deref (c.instream args)
        let outDescriptor ← deref (c.getCurrentConfigDesc args.outstreamEndStationIndex)
        let _ ← deref (outDescriptor.getDescByIndex .streamOutput args.outstreamDescIndex)
        c.requestRx args instream .connectRxCommand connectionFlags id
  else pure ()

def cmdDisconnectRx (args : RxArgs) : Handler Unit := do
  let v ← look
  let c := v.cmdLine
  if c.isValid args (c.getCurrentConfigDesc args.instreamEndStationIndex)
      (c.getCurrentConfigDesc args.instreamEndStationIndex) then
    sendAcmpAndWait fun c id => do
      let instream ← deref (c.instream args)
      c.requestRx args instream .disconnectRxCommand 0 id
  else pure ()

/-- A query for the state of the stream with the index. -/
def queryStream (t : DescType) (endStationIndex : BitVec 32) (descIndex : BitVec 16)
    (query : CmdLine → EndStation → AemDesc → Ptr → Except Fault TxData) : Handler Unit := do
  let v ← look
  match v.cmdLine.getCurrentConfigDesc endStationIndex with
  | none => pure ()
  | some configuration =>
    if descIndex.toNat < (configuration.descVec t).length then
      sendAcmpAndWait fun c id => do
        let endStation ← deref (c.getEndStationByIndex endStationIndex)
        let configuration ← deref (c.getCurrentConfigDesc endStationIndex)
        let stream ← deref (configuration.getDescByIndex t descIndex)
        query c endStation stream id
    else pure ()

/-- `send_get_tx_connection_cmd` of a STREAM_OUTPUT. -/
def CmdLine.sendGetTxConnectionCmd (c : CmdLine) (listenerEntityId : EntityId)
    (listenerUniqueId : BitVec 16) (endStation : EndStation) (outstream : AemDesc)
    (notificationId : Ptr) : Except Fault TxData := do
  let talker ← deref endStation.entityDescVec[0]?
  pure
    { notificationId
      notificationFlag := .cmdWithNotification
      frame := .acmp
        { messageType := .getTxConnectionCommand
          controllerEntityId := getControllerEntityId c.controller.globals.macAddr
          talkerEntityId := talker.desc.entityId
          listenerEntityId
          talkerUniqueId := outstream.descriptorIndex
          listenerUniqueId } }

def cmdGetTxState (outstreamEndStationIndex : BitVec 32) (outstreamDescIndex : BitVec 16) :
    Handler Unit :=
  queryStream .streamOutput outstreamEndStationIndex outstreamDescIndex
    CmdLine.sendGetTxStateCmd

def cmdGetRxState (instreamEndStationIndex : BitVec 32) (instreamDescIndex : BitVec 16) :
    Handler Unit :=
  queryStream .streamInput instreamEndStationIndex instreamDescIndex CmdLine.sendGetRxStateCmd

def cmdGetTxConnection (outstreamEndStationIndex : BitVec 32) (outstreamDescIndex : BitVec 16) :
    Handler Unit :=
  queryStream .streamOutput outstreamEndStationIndex outstreamDescIndex
    fun c => c.sendGetTxConnectionCmd 0 0

/-- The loops over the end stations. Their number is read again in each round, and one without
a current configuration is passed over. The index has 32 bits, and `left` of its values are
left. -/
def forEndStations (body : Nat → ConfigurationDescriptor → Handler Unit) :
    (left i : Nat) → Handler Unit
  | 0, _ => pure ()
  | left + 1, i => do
    let v ← look
    match v.stations[i]? with
    | none => pure ()
    | some endStation =>
      match v.cmdLine.getCurrentEntityAndDescriptor i endStation with
      | none => forEndStations body left (i + 1)
      | some configuration => do
        body i configuration
        forEndStations body left (i + 1)

/-- The loops over the streams of a configuration, whose number was read in front of it. -/
def forStreams (body : (left j : Nat) → Handler Unit) : (left j : Nat) → Handler Unit
  | 0, _ => pure ()
  | left + 1, j => do
    body left j
    forStreams body left (j + 1)

/-- A query that is not waited for. The last look is that of the loop behind the call. -/
def sendQuery (query : CmdLine → Except Fault TxData) : Handler Unit := do
  let v ← look
  let tx ← Script.lift (query v.cmdLine)
  sendAcmp tx
  let _ ← look
  pure ()

/-- The body of the loop over the outputs, of which `left` are left. The last command is the one
that is waited for. -/
def queryOutstream (id : Ptr) (i left j : Nat) : Handler Unit := do
  let v ← look
  if i = v.stations.length - 1 ∧ left = 0 then do
    setWaitForNextCmd id
    let v ← look
    let tx ← Script.lift (v.cmdLine.queryOutstream id i j)
    sendAcmp tx
    let _ ← getLastRespStatus
    pure ()
  else sendQuery fun c => c.queryOutstream id i j

/-- The queries of `cmd_show_connections` to an end station. -/
def queryStreams (id : Ptr) (i : Nat) (configuration : ConfigurationDescriptor) :
    Handler Unit := do
  forStreams (fun _ j => sendQuery fun c => c.queryInstream id i j)
    (configuration.descVec .streamInput).length 0
  let v ← look
  let (_, configuration) ← Script.lift (v.cmdLine.endStationAt i)
  forStreams (queryOutstream id i) (configuration.descVec .streamOutput).length 0

/-- The report looks a stream up and goes on with its state. -/
def onStreamAt (t : DescType) (i j : Nat) (report : StreamStates → Handler Unit) :
    Handler Unit := do
  let v ← look
  let (_, configuration) ← Script.lift (v.cmdLine.endStationAt i)
  let _ ← Script.lift (deref (configuration.descVec t)[j]?)
  report v.streamStates

/-- The loops over the inputs and the outputs behind the queries. What they print is
`reportConnections`. -/
def showReport : Handler Unit :=
  forEndStations (fun i configuration =>
    forStreams (fun _ j => onStreamAt .streamInput i j fun states =>
      if (states.rx i j).connectionCount = 0 then pure ()
      else forEndStations (fun i configuration =>
        forStreams (fun _ j => onStreamAt .streamOutput i j fun _ => pure ())
          (configuration.descVec .streamOutput).length 0) (2 ^ 32) 0)
      (configuration.descVec .streamInput).length 0) (2 ^ 32) 0

/-- `cmd_show_connections`. All its commands have the same id. -/
def cmdShowConnections : Handler Unit := do
  let id ← getNextNotificationId
  forEndStations (queryStreams id) (2 ^ 32) 0
  showReport

def acquireFlag (flagName : String) : Option (BitVec 32) :=
  if flagName = "acquire" then some 0
  else if flagName = "persistent" then some 0x1
  else if flagName = "release" then some 0x80000000
  else none

/-- The STREAM_INPUT case of `cmd_acquire_entity`: the sender is that of the base class, which
only logs that it is not implemented. -/
def acquireStreamInput (descIndex : BitVec 16) : Handler Unit := do
  let id ← getNextNotificationId
  setWaitForNextCmd id
  let v ← look
  let (_, _, configuration) ← Script.lift (deref v.getCurrentEndStationEntityAndDescriptor)
  let _ ← Script.lift (deref (configuration.getDescByIndex .streamInput descIndex))
  let _ ← getLastRespStatus
  pure ()

/-- `cmd_acquire_entity`. A STREAM_OUTPUT is not acquired, its format is asked for. -/
def cmdAcquireEntity (flagName descName : String) (descIndex : BitVec 16) : Handler Unit :=
  match acquireFlag flagName with
  | none => pure ()
  | some flagId =>
    withCurrent
      (if aemDescNameToValue descName = DescType.entity.code then
        onEntity (.acquireEntity · flagId)
      else if aemDescNameToValue descName = DescType.streamInput.code then
        acquireStreamInput descIndex
      else if aemDescNameToValue descName = DescType.streamOutput.code then
        onDescriptor .streamOutput descIndex .outputGetStreamFormat
      else pure ())

def lockFlag (flagName : String) : Option (BitVec 32) :=
  if flagName = "lock" then some 0 else if flagName = "unlock" then some 0x1 else none

def cmdLockEntity (flagName descName : String) : Handler Unit :=
  match lockFlag flagName with
  | none => pure ()
  | some flagId =>
    withCurrent
      (if aemDescNameToValue descName = DescType.entity.code then
        onEntity (.lockEntity · flagId)
      else pure ())

def cmdEntityAvail : Handler Unit := do
  let v ← look
  match v.getCurrentEndStation with
  | none => pure ()
  | some _ =>
    sendAndWait fun v => do
      let endStation ← deref v.getCurrentEndStation
      pure (endStation, .send .entityAvail)

def cmdReboot : Handler Unit := withCurrent (onEntity .reboot)

/-- `cmd_controller_avail`, which does not look whether there is a current end station. -/
def cmdControllerAvail : Handler Unit :=
  sendAndWait fun v => do
    let endStation ← v.endStationAt v.currentEndStation
    pure (endStation, .send
      (.controllerAvail v.cmdLine.controller.endStationVec v.currentEndStation))

/-- `cmd_set_stream_format`. `substr` throws when the name is shorter than its position. -/
def cmdSetStreamFormat (descName : String) (descIndex : BitVec 16)
    (newStreamFormatName : String) : Handler Unit :=
  if newStreamFormatName.length < 20 then .fail .outOfRange
  else
    let streamFormatValue := ieee1722FormatNameToValue
      ("IEC..." ++ String.ofList (newStreamFormatName.toList.drop 20))
    onStream descName
      (onDescriptor .streamInput descIndex (.inputSetStreamFormat · streamFormatValue))
      (onDescriptor .streamOutput descIndex (.outputSetStreamFormat · streamFormatValue))

def cmdGetStreamFormat (descName : String) (descIndex : BitVec 16) : Handler Unit :=
  onStream descName (onDescriptor .streamInput descIndex .inputGetStreamFormat)
    (onDescriptor .streamOutput descIndex .outputGetStreamFormat)

def cmdSetStreamInfo (descName : String) (descIndex : BitVec 16)
    (streamInfoField newStreamInfoFieldValue : String) : Handler Unit :=
  onStream descName (pure ())
    (if streamInfoField = "stream_vlan_id" then
      onDescriptor .streamOutput descIndex
        (.outputSetStreamInfoVlanId · ((atoi newStreamInfoFieldValue.toList).setWidth 16))
    else pure ())

def cmdGetStreamInfo (descName : String) (descIndex : BitVec 16) : Handler Unit :=
  onStream descName (onDescriptor .streamInput descIndex .inputGetStreamInfo)
    (onDescriptor .streamOutput descIndex .outputGetStreamInfo)

/-- A command for an AUDIO_UNIT. -/
def onAudioUnit (descName : String) (descIndex : BitVec 16) (cmd : AemDesc → SendCmd) :
    Handler Unit :=
  withCurrent
    (if aemDescNameToValue descName = DescType.audioUnit.code then
      onDescriptor .audioUnit descIndex cmd
    else pure ())

def cmdSetSamplingRate (descName : String) (descIndex : BitVec 16)
    (newSamplingRate : BitVec 32) : Handler Unit :=
  onAudioUnit descName descIndex (.setSamplingRate · newSamplingRate)

def cmdGetSamplingRate (descName : String) (descIndex : BitVec 16) : Handler Unit :=
  onAudioUnit descName descIndex .getSamplingRate

/-- What the two commands for a CLOCK_DOMAIN do with their id. They return when there is no such
descriptor, and the wait is set by then. -/
def onClockDomain (id : Ptr) (descIndex : BitVec 16) (cmd : AemDesc → SendCmd)
    (print : Int → Handler Unit) : Handler Unit := do
  setWaitForNextCmd id
  let v ← look
  let (endStation, _, configuration) ← Script.lift
    (deref v.getCurrentEndStationEntityAndDescriptor)
  match configuration.getDescByIndex .clockDomain descIndex with
  | none => pure ()
  | some clkDomainDescRef => do
    send endStation (.send (cmd clkDomainDescRef)) id
    let status ← getLastRespStatus
    print status

def cmdSetClockSource (descIndex newClkSrcIndex : BitVec 16) : Handler Unit :=
  withCurrent do
    let id ← getNextNotificationId
    onClockDomain id descIndex (.setClockSource · newClkSrcIndex) fun _ => pure ()

/-- `get_clock_source_by_index` of the index in the response, which `at` compares with the
number of the sources. -/
def printClockSource (descIndex : BitVec 16) (status : Int) : Handler Unit := do
  let v ← look
  let domain := v.clockDomain descIndex
  if status = 0 ∧ domain.clkSrcVec.length ≤ domain.clockSourceIndex.toNat then .fail .outOfRange
  else pure ()

def cmdGetClockSource (descIndex : BitVec 16) : Handler Unit := do
  let id ← getNextNotificationId
  withCurrent (onClockDomain id descIndex .getClockSource (printClockSource descIndex))

def cmdStartStreaming (descName : String) (descIndex : BitVec 16) : Handler Unit :=
  onStream descName (onDescriptor .streamInput descIndex .inputStartStreaming)
    (onDescriptor .streamOutput descIndex .outputStartStreaming)

def cmdStopStreaming (descName : String) (descIndex : BitVec 16) : Handler Unit :=
  onStream descName (onDescriptor .streamInput descIndex .inputStopStreaming)
    (onDescriptor .streamOutput descIndex .outputStopStreaming)

/-- The loop of `cmd_firmware_upgrade` and the question behind it. All writes have the id of the
command. -/
def writeImage (id : Ptr) (reboot : Bool) (current : BitVec 64) (is : IStream)
    (buffer : List BigEndian.Byte) : Handler Unit :=
  if is.gcount = 0 then if reboot then cmdReboot else pure ()
  else do
    setWaitForNextCmd id
    let v ← look
    let endStation ← Script.lift (deref v.getCurrentEndStation)
    send endStation (.send (headCall current is buffer).cmd) id
    let status ← getLastRespStatus
    if status ≠ 0 then pure ()
    else writeImage id reboot (current + 256) (is.read buffer 256).1 (is.read buffer 256).2
termination_by is.rest.length + (if is.gcount = 0 then 0 else 1)
decreasing_by exact is.read_lt buffer ‹_›

/-- `cmd_firmware_upgrade`. `image` is `none` if the file can not be opened, and `reboot` is the
answer to the question at the end. -/
def cmdFirmwareUpgrade (image : Option (List BigEndian.Byte))
    (buffer : Vector BigEndian.Byte 256)
    (reboot : Bool) : Handler Unit :=
  match image with
  | none => pure ()
  | some image =>
    withCurrent do
      let id ← getNextNotificationId
      setWaitForNextCmd id
      let v ← look
      let (endStation, _, configuration) ←
        Script.lift (deref v.getCurrentEndStationEntityAndDescriptor)
      let memoryObject ← Script.lift (deref (configuration.getDescByIndex .memoryObject 0))
      send endStation (.send (.startOperation memoryObject 3)) id
      let status ← getLastRespStatus
      if status ≠ 0 then pure ()
      else
        let r := IStream.read ⟨image, true, 0⟩ buffer.toList 256
        writeImage id reboot 0 r.1 r.2

/-- `do_identify`, which goes on when it has reported an invalid end station. -/
def doIdentify (endStationIndex : BitVec 32) (turnOn : Bool) : Handler Unit := do
  let v ← look
  let _ ← Script.lift (v.endStationAt endStationIndex)
  sendAndWait fun v => do
    let endStation ← v.endStationAt endStationIndex
    pure (endStation, .identify (v.identifyControlIndex endStation) turnOn)

/-- The commands that select or send, with their arguments as the command line has parsed
them. -/
inductive Command where
  | select (endStation : BitVec 32) (entity config : BitVec 16)
  | showSelect
  | readDescriptor (descName : String) (descIndex : BitVec 16)
  | connectRx (args : RxArgs) (flags : List String)
  | disconnectRx (args : RxArgs)
  | getTxState (endStation : BitVec 32) (descIndex : BitVec 16)
  | getRxState (endStation : BitVec 32) (descIndex : BitVec 16)
  | getTxConnection (endStation : BitVec 32) (descIndex : BitVec 16)
  | showConnections
  | acquireEntity (flagName descName : String) (descIndex : BitVec 16)
  | lockEntity (flagName descName : String)
  | entityAvail
  | reboot
  | controllerAvail
  | setStreamFormat (descName : String) (descIndex : BitVec 16) (newStreamFormatName : String)
  | getStreamFormat (descName : String) (descIndex : BitVec 16)
  | setStreamInfo (descName : String) (descIndex : BitVec 16) (field value : String)
  | getStreamInfo (descName : String) (descIndex : BitVec 16)
  | setSamplingRate (descName : String) (descIndex : BitVec 16) (newSamplingRate : BitVec 32)
  | getSamplingRate (descName : String) (descIndex : BitVec 16)
  | setClockSource (descIndex newClkSrcIndex : BitVec 16)
  | getClockSource (descIndex : BitVec 16)
  | startStreaming (descName : String) (descIndex : BitVec 16)
  | stopStreaming (descName : String) (descIndex : BitVec 16)
  | firmwareUpgrade (image : Option (List BigEndian.Byte)) (buffer : Vector BigEndian.Byte 256)
      (reboot : Bool)
  | identify (endStation : BitVec 32) (turnOn : Bool)

def Command.script : Command → Handler Unit
  | select endStation entity config => doSelect endStation entity config
  | showSelect => cmdShowSelect
  | readDescriptor name index => cmdReadDescriptor name index
  | connectRx args flags => cmdConnectRx args flags
  | disconnectRx args => cmdDisconnectRx args
  | getTxState endStation index => cmdGetTxState endStation index
  | getRxState endStation index => cmdGetRxState endStation index
  | getTxConnection endStation index => cmdGetTxConnection endStation index
  | showConnections => cmdShowConnections
  | acquireEntity flag name index => cmdAcquireEntity flag name index
  | lockEntity flag name => cmdLockEntity flag name
  | entityAvail => cmdEntityAvail
  | reboot => cmdReboot
  | controllerAvail => cmdControllerAvail
  | setStreamFormat name index format => cmdSetStreamFormat name index format
  | getStreamFormat name index => cmdGetStreamFormat name index
  | setStreamInfo name index field value => cmdSetStreamInfo name index field value
  | getStreamInfo name index => cmdGetStreamInfo name index
  | setSamplingRate name index rate => cmdSetSamplingRate name index rate
  | getSamplingRate name index => cmdGetSamplingRate name index
  | setClockSource index source => cmdSetClockSource index source
  | getClockSource index => cmdGetClockSource index
  | startStreaming name index => cmdStartStreaming name index
  | stopStreaming name index => cmdStopStreaming name index
  | firmwareUpgrade image buffer answer => cmdFirmwareUpgrade image buffer answer
  | identify endStation turnOn => doIdentify endStation turnOn

end AvdeccLib
