import AvdeccLib.EndStation
import AvdeccLib.Library.BigEndian

namespace AvdeccLib
set_option autoImplicit true
open BigEndian

def etherHdrSize : Nat := 14
def commonControlHeaderLen : Nat := 12
def aemHeaderLen : Nat := 24
def aecpduAaLen : Nat := 24
def aecpduAaTlvLen : Nat := 10
def avtpEthertype : BitVec 16 := 0x22f0
def subtypeAecp : BitVec 7 := 0x7b

def AecpMessageType.code : AecpMessageType → BitVec 4
  | .aemCommand => 0
  | .aemResponse => 1
  | .addressAccessCommand => 2
  | .addressAccessResponse => 3
  | .other c => c

/-- The widths of the fields behind the AEM header of a command, as IEEE 1722.1 lays them out.
Commands that no sender builds have no entry. The descriptor type and index come first, but
behind the flags and an entity id in ACQUIRE_ENTITY and LOCK_ENTITY, and behind the
configuration index and two reserved bytes in READ_DESCRIPTOR. -/
def AemCommandType.layout : AemCommandType → List Nat
  | .acquireEntity | .lockEntity => [4, 8, 2, 2]
  | .readDescriptor => [2, 2, 2, 2]
  | .setStreamFormat => [2, 2, 8]
  | .setStreamInfo => [2, 2, 4, 8, 8, 4, 6, 1, 1, 8, 2, 2]
  | .setSamplingRate => [2, 2, 4]
  | .setClockSource => [2, 2, 2, 2]
  | .startOperation => [2, 2, 2, 2]
  | .getStreamFormat | .getStreamInfo | .startStreaming | .stopStreaming | .getSamplingRate
  | .getClockSource | .reboot | .setControl => [2, 2]
  | _ => []

/-- `JDKSAVDECC_AEM_COMMAND_*_COMMAND_LEN`. -/
def AemCommandType.commandLen (c : AemCommandType) : Nat := aemHeaderLen + c.layout.sum

/-- The address, source and type of the Ethernet header. -/
structure EtherHdr where
  destAddress : Mac
  srcAddress : Mac
  ethertype : BitVec 16
  deriving DecidableEq

/-- `jdksavdecc_aecpdu_common_control_header`. -/
structure CommonControlHeader where
  cd : BitVec 1
  subtype : BitVec 7
  sv : BitVec 1
  version : BitVec 3
  messageType : BitVec 4
  status : BitVec 5
  controlDataLength : BitVec 11
  targetEntityId : EntityId
  deriving DecidableEq

/-- The start of an AECPDU and the fields behind it. `commandType` is the `tlv_count` of an
address access command. -/
structure AecpCommand where
  header : CommonControlHeader
  controllerEntityId : EntityId
  sequenceId : BitVec 16
  commandType : BitVec 16
  args : List Field
  deriving DecidableEq

def EtherHdr.fields (h : EtherHdr) : List Field :=
  [⟨6, h.destAddress⟩, ⟨6, h.srcAddress⟩, ⟨2, h.ethertype⟩]

def CommonControlHeader.fields (h : CommonControlHeader) : List Field :=
  [⟨1, h.cd ++ h.subtype⟩, ⟨1, h.sv ++ h.version ++ h.messageType⟩,
    ⟨2, h.status ++ h.controlDataLength⟩, ⟨8, h.targetEntityId⟩]

/-- The fields behind the common control header. -/
def AecpCommand.body (c : AecpCommand) : List Field :=
  ⟨8, c.controllerEntityId⟩ :: ⟨2, c.sequenceId⟩ :: ⟨2, c.commandType⟩ :: c.args

def AecpCommand.write (c : AecpCommand) : List Byte :=
  writeFields c.header.fields ++ writeFields c.body

def CommonControlHeader.zero : CommonControlHeader := ⟨0, 0, 0, 0, 0, 0, 0, 0⟩

/-- How a sender ends without a frame in the queue. `outOfBounds` is an access past the end of
an array. -/
inductive SendStop where
  | returned
  | fault (f : Fault)
  | outOfBounds
  deriving DecidableEq

/-- The arguments of `system_queue_tx`. -/
structure QueuedFrame where
  notificationId : Ptr
  notificationFlag : AemCmdWaiting
  frame : List Byte
  deriving DecidableEq

/-- What the local variables of a sender hold before they are assigned: the payload of its frame
and, in the two senders that do not clear their struct, the header and the sequence id in it. -/
structure Locals where
  payload : List Byte
  header : CommonControlHeader
  sequenceId : BitVec 16

/-- The frame under construction: `length` and `payload` of `jdksavdecc_frame`. -/
structure CmdFrame where
  length : BitVec 16
  payload : List Byte

/-- A write that its caller checks. -/
def writeOr (stop : SendStop) (pos : Nat) (bs : List Byte) (cmdFrame : CmdFrame) :
    Except SendStop CmdFrame :=
  match writeAt pos bs cmdFrame.payload with
  | some payload => pure { cmdFrame with payload }
  | none => throw stop

def systemQueueTx (notificationId : Ptr) (notificationFlag : AemCmdWaiting)
    (cmdFrame : CmdFrame) :
    Except SendStop QueuedFrame :=
  if cmdFrame.length.toNat ≤ cmdFrame.payload.length then
    pure ⟨notificationId, notificationFlag, cmdFrame.payload.take cmdFrame.length.toNat⟩
  else throw .outOfBounds

section
variable (macAddr : Mac) (locals : Locals)

def etherFrameInit (endStationMac : Mac) (len : Nat) : Except SendStop CmdFrame :=
  writeOr .outOfBounds 0 (writeFields (EtherHdr.fields ⟨endStationMac, macAddr, avtpEthertype⟩))
    ⟨len, locals.payload⟩

/-- The struct that `common_hdr_init` fills in. -/
def commonHdr (messageType : AecpMessageType) (targetEntityId : EntityId) (cdLen : Nat) :
    CommonControlHeader where
  cd := 1
  subtype := subtypeAecp
  sv := 0
  version := 0
  messageType := messageType.code
  status := 0
  controlDataLength := cdLen
  targetEntityId := targetEntityId

def commonHdrInit (messageType : AecpMessageType) (cmdFrame : CmdFrame)
    (targetEntityId : EntityId)
    (cdLen : Nat) : Except SendStop CmdFrame :=
  writeOr (.fault .assertion) etherHdrSize
    (writeFields (commonHdr messageType targetEntityId cdLen).fields) cmdFrame

/-- What the AEM senders have in common. They differ in how they treat a failed write, and each
names its command type and its two lengths itself. -/
def sendAemCmd (onWriteError : SendStop) (es : EndStation) (notificationId : Ptr)
    (notificationFlag : AemCmdWaiting) (cmd : AecpCommand) (frameLen cdLen : Nat) :
    Except SendStop QueuedFrame := do
  let cmdFrame ← etherFrameInit macAddr locals es.mac (etherHdrSize + frameLen)
  let cmdFrame ← writeOr onWriteError etherHdrSize cmd.write cmdFrame
  let cmdFrame ← commonHdrInit .aemCommand cmdFrame es.entityId (cdLen - commonControlHeaderLen)
  systemQueueTx notificationId notificationFlag cmdFrame

/-- A struct that was cleared, with its command type and arguments. -/
def aemCmd (c : AemCommandType) (args : List Field) : AecpCommand :=
  { header := .zero
    controllerEntityId := getControllerEntityId macAddr
    sequenceId := 0
    commandType := c.code
    args }

/-- A struct that was not cleared. -/
def aemCmdUncleared (c : AemCommandType) (args : List Field) : AecpCommand :=
  { aemCmd macAddr c args with header := locals.header, sequenceId := locals.sequenceId }

/-- `descriptor_type()` of an object of the class for type `t`. -/
def objDescriptorType (t : DescType) (obj : AemDesc) : Except SendStop (BitVec 16) :=
  if obj.descriptorType = t then pure obj.descriptorType.code else throw (.fault .assertion)

/-- A sender of a descriptor object whose command type and lengths are those of one command and
which stores its descriptor type and index first. -/
def sendDescCmd (onWriteError : SendStop) (c : AemCommandType) (t : DescType) (obj : AemDesc)
    (es : EndStation) (notificationId : Ptr) (args : List Field) :
    Except SendStop QueuedFrame := do
  let descriptorType ← objDescriptorType t obj
  sendAemCmd macAddr locals onWriteError es notificationId .cmdWithNotification
    (aemCmd macAddr c (⟨2, descriptorType⟩ :: ⟨2, obj.descriptorIndex⟩ :: args))
    c.commandLen c.commandLen

/-- `controller_imp::send_controller_avail_cmd`. The frame's length is computed from the number
of the command, not from its length. -/
def sendControllerAvailCmd (endStationVec : List EndStation) (notificationId : Ptr)
    (endStationIndex : BitVec 32) : Except SendStop QueuedFrame :=
  match endStationVec[endStationIndex.toNat]? with
  | some es =>
    sendAemCmd macAddr locals (.fault .assertion) es notificationId .cmdWithNotification
      (aemCmd macAddr .controllerAvailable [])
      AemCommandType.controllerAvailable.code.toNat
        AemCommandType.controllerAvailable.commandLen
  | none => throw (.fault .outOfRange)

namespace EndStation
variable (es : EndStation) (notificationId : Ptr)

/-- The configuration that `send_read_desc_cmd_with_flag` addresses. -/
def configurationIndex (descType : DescType) : Except SendStop (BitVec 16) :=
  if descType = .entity ∨ descType = .configuration then pure 0
  else
    match es.entityDescVec with
    | e :: _ => pure e.currentConfiguration
    | [] => throw (.fault .outOfRange)

/-- `send_read_desc_cmd_with_flag`, down to the bytes. -/
def queueReadDescCmdWithFlag (notificationFlag : AemCmdWaiting) (descType : DescType)
    (descIndex : BitVec 16) : Except SendStop QueuedFrame := do
  let configurationIndex ← es.configurationIndex descType
  sendAemCmd macAddr locals .returned es notificationId notificationFlag
    (aemCmd macAddr .readDescriptor
      [⟨2, configurationIndex⟩, ⟨2, 0#16⟩, ⟨2, descType.code⟩, ⟨2, descIndex⟩])
    AemCommandType.readDescriptor.commandLen AemCommandType.readDescriptor.commandLen

def sendReadDescCmd (descType : DescType) (descIndex : BitVec 16) :
    Except SendStop QueuedFrame :=
  es.queueReadDescCmdWithFlag macAddr locals notificationId .cmdWithNotification
    descType descIndex

def sendEntityAvailCmd : Except SendStop QueuedFrame :=
  sendAemCmd macAddr locals .returned es notificationId .cmdWithNotification
    (aemCmd macAddr .entityAvailable [])
    AemCommandType.entityAvailable.commandLen AemCommandType.entityAvailable.commandLen

/-- The struct `aecp_cmd_aa_header`. -/
def aaHeader : AecpCommand where
  header := .zero
  controllerEntityId := getControllerEntityId macAddr
  sequenceId := 0
  commandType := 1
  args := []

/-- The struct `aa_tlv`. `mode` and `length` are `unsigned`; `mode_length` has 16 bits. -/
def aaTlv (mode length : BitVec 32) (address : BitVec 64) : List Field :=
  [⟨2, ((mode <<< 12) ||| (length &&& 0xFFF)).setWidth 16⟩, ⟨4, (address >>> 32).setWidth 32⟩,
    ⟨4, (address &&& 0xFFFFFFFF).setWidth 32⟩]

def sendAecpAddressAccessCmd (mode length : BitVec 32) (address : BitVec 64)
    (memoryData : List Byte) : Except SendStop QueuedFrame := do
  let cmdFrame ← etherFrameInit macAddr locals es.mac
    (etherHdrSize + aecpduAaLen + aecpduAaTlvLen + length.toNat)
  let cmdFrame ← writeOr .returned etherHdrSize (aaHeader macAddr).write cmdFrame
  let cmdFrame ← writeOr .returned (etherHdrSize + aecpduAaLen)
    (writeFields (aaTlv mode length address)) cmdFrame
  if memoryData.length < length.toNat then throw .outOfBounds
  let cmdFrame ← writeOr .outOfBounds (etherHdrSize + aecpduAaLen + aecpduAaTlvLen)
    (memoryData.take length.toNat) cmdFrame
  let cmdFrame ← commonHdrInit .addressAccessCommand cmdFrame es.entityId
    (aecpduAaLen + aecpduAaTlvLen + length.toNat - commonControlHeaderLen)
  systemQueueTx notificationId .cmdWithNotification cmdFrame

/-- `send_identify`. The value of the control goes behind the command. -/
def sendIdentify (identifyControlIndex : BitVec 16) (turnOn : Bool) :
    Except SendStop QueuedFrame := do
  let cmdFrame ← etherFrameInit macAddr locals es.mac
    (etherHdrSize + AemCommandType.setControl.commandLen + 1)
  let cmdFrame ← writeOr .returned etherHdrSize
    (aemCmd macAddr .setControl
      [⟨2, DescType.control.code⟩, ⟨2, identifyControlIndex⟩]).write cmdFrame
  let cmdFrame ← writeOr .outOfBounds (etherHdrSize + AemCommandType.setControl.commandLen)
    [if turnOn then 255 else 0] cmdFrame
  let cmdFrame ← commonHdrInit .aemCommand cmdFrame es.entityId
    (AemCommandType.setControl.commandLen + 1 - commonControlHeaderLen)
  systemQueueTx notificationId .cmdWithNotification cmdFrame

end EndStation

namespace EntityDescriptor
variable (e : EntityDescriptor) (es : EndStation) (notificationId : Ptr)

def descriptorIndex : Except SendStop (BitVec 16) :=
  if e.desc.descriptorIndex = 0 then pure e.desc.descriptorIndex else throw (.fault .assertion)

/-- What `default_send_acquire_entity_cmd`, `default_send_lock_entity_cmd` and
`default_send_reboot_cmd` have in common. -/
def defaultSendCmd (c : AemCommandType) (cmd : BitVec 16 → BitVec 16 → AecpCommand) :
    Except SendStop QueuedFrame := do
  let descriptorType ← objDescriptorType .entity e.desc
  let descriptorIndex ← e.descriptorIndex
  sendAemCmd macAddr locals (.fault .assertion) es notificationId .cmdWithNotification
    (cmd descriptorType descriptorIndex) c.commandLen c.commandLen

def sendAcquireEntityCmd (acquireEntityFlag : BitVec 32) : Except SendStop QueuedFrame :=
  e.defaultSendCmd macAddr locals es notificationId .acquireEntity fun t i =>
    aemCmdUncleared macAddr locals .acquireEntity
      [⟨4, acquireEntityFlag⟩, ⟨8, 0#64⟩, ⟨2, t⟩, ⟨2, i⟩]

def sendLockEntityCmd (lockEntityFlag : BitVec 32) : Except SendStop QueuedFrame :=
  e.defaultSendCmd macAddr locals es notificationId .lockEntity fun t i =>
    aemCmdUncleared macAddr locals .lockEntity
      [⟨4, lockEntityFlag⟩, ⟨8, 0#64⟩, ⟨2, t⟩, ⟨2, i⟩]

def sendRebootCmd : Except SendStop QueuedFrame :=
  e.defaultSendCmd macAddr locals es notificationId .reboot fun t i =>
    aemCmd macAddr .reboot [⟨2, t⟩, ⟨2, i⟩]

end EntityDescriptor

namespace StreamInputDescriptor
variable (obj : AemDesc) (es : EndStation) (notificationId : Ptr)

def sendSetStreamFormatCmd (newStreamFormat : BitVec 64) : Except SendStop QueuedFrame :=
  sendDescCmd macAddr locals (.fault .assertion) .setStreamFormat .streamInput obj es
    notificationId [⟨8, newStreamFormat⟩]

def sendGetStreamFormatCmd : Except SendStop QueuedFrame :=
  sendDescCmd macAddr locals (.fault .assertion) .getStreamFormat .streamInput obj es
    notificationId []

def sendGetStreamInfoCmd : Except SendStop QueuedFrame :=
  sendDescCmd macAddr locals (.fault .assertion) .getStreamInfo .streamInput obj es
    notificationId []

def sendStartStreamingCmd : Except SendStop QueuedFrame :=
  sendDescCmd macAddr locals (.fault .assertion) .startStreaming .streamInput obj es
    notificationId []

def sendStopStreamingCmd : Except SendStop QueuedFrame :=
  sendDescCmd macAddr locals (.fault .assertion) .stopStreaming .streamInput obj es
    notificationId []

end StreamInputDescriptor

namespace StreamOutputDescriptor
variable (obj : AemDesc) (es : EndStation) (notificationId : Ptr)

/-- The struct is that of SET_STREAM_FORMAT, its command type and the frame's length are those
of GET_STREAM_FORMAT and the control data length is that of SET_STREAM_FORMAT again. -/
def sendSetStreamFormatCmd (newStreamFormat : BitVec 64) : Except SendStop QueuedFrame := do
  let descriptorType ← objDescriptorType .streamOutput obj
  sendAemCmd macAddr locals (.fault .assertion) es notificationId .cmdWithNotification
    (aemCmd macAddr .getStreamFormat
      [⟨2, descriptorType⟩, ⟨2, obj.descriptorIndex⟩, ⟨8, newStreamFormat⟩])
    AemCommandType.getStreamFormat.commandLen AemCommandType.setStreamFormat.commandLen

def sendGetStreamFormatCmd : Except SendStop QueuedFrame :=
  sendDescCmd macAddr locals (.fault .assertion) .getStreamFormat .streamOutput obj es
    notificationId []

def sendSetStreamInfoVlanIdCmd (vlanId : BitVec 16) : Except SendStop QueuedFrame :=
  sendDescCmd macAddr locals (.fault .assertion) .setStreamInfo .streamOutput obj es
    notificationId
    [⟨4, 0x02000000#32⟩, ⟨8, 0#64⟩, ⟨8, 0#64⟩, ⟨4, 0#32⟩, ⟨6, 0#48⟩, ⟨1, 0#8⟩,
      ⟨1, 0#8⟩, ⟨8, 0#64⟩,
      ⟨2, vlanId⟩, ⟨2, 0#16⟩]

def sendGetStreamInfoCmd : Except SendStop QueuedFrame :=
  sendDescCmd macAddr locals (.fault .assertion) .getStreamInfo .streamOutput obj es
    notificationId []

def sendStartStreamingCmd : Except SendStop QueuedFrame :=
  sendDescCmd macAddr locals (.fault .assertion) .startStreaming .streamOutput obj es
    notificationId []

def sendStopStreamingCmd : Except SendStop QueuedFrame :=
  sendDescCmd macAddr locals (.fault .assertion) .stopStreaming .streamOutput obj es
    notificationId []

end StreamOutputDescriptor

namespace AudioUnitDescriptor
variable (obj : AemDesc) (es : EndStation) (notificationId : Ptr)

def sendSetSamplingRateCmd (newSamplingRate : BitVec 32) : Except SendStop QueuedFrame :=
  sendDescCmd macAddr locals (.fault .assertion) .setSamplingRate .audioUnit obj es
    notificationId [⟨4, newSamplingRate⟩]

def sendGetSamplingRateCmd : Except SendStop QueuedFrame :=
  sendDescCmd macAddr locals (.fault .assertion) .getSamplingRate .audioUnit obj es
    notificationId []

end AudioUnitDescriptor

namespace ClockDomainDescriptor
variable (obj : AemDesc) (es : EndStation) (notificationId : Ptr)

def sendSetClockSourceCmd (newClkSrcIndex : BitVec 16) : Except SendStop QueuedFrame :=
  sendDescCmd macAddr locals (.fault .assertion) .setClockSource .clockDomain obj es
    notificationId [⟨2, newClkSrcIndex⟩, ⟨2, 0#16⟩]

def sendGetClockSourceCmd : Except SendStop QueuedFrame :=
  sendDescCmd macAddr locals (.fault .assertion) .getClockSource .clockDomain obj es
    notificationId []

end ClockDomainDescriptor

/-- `memory_object_descriptor_imp::start_operation_cmd`. The last operation type is UPLOAD. -/
def MemoryObjectDescriptor.startOperationCmd (obj : AemDesc) (es : EndStation)
    (notificationId : Ptr) (operationType : BitVec 16) : Except SendStop QueuedFrame :=
  if 4 < operationType then throw .returned
  else
    sendDescCmd macAddr locals .returned .startOperation .memoryObject obj es notificationId
      [⟨2, 0#16⟩, ⟨2, operationType⟩]

end

end AvdeccLib
