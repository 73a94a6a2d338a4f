import Mathlib.Data.List.Basic

namespace AvdeccLib
set_option autoImplicit true

abbrev EntityId := BitVec 64
abbrev Mac := BitVec 48

/-- A `void *` notification id. The library only compares it for equality. -/
abbrev Ptr := Nat

def null : Ptr := 0

inductive AemCmdWaiting where
  | cmdWithoutNotification
  | cmdWithNotification
  deriving DecidableEq

inductive NotificationType where
  | noMatchFound
  | endStationConnected
  | endStationDisconnected
  | commandTimeout
  | responseReceived
  | endStationReadCompleted
  deriving DecidableEq

/-- The arguments of one call of `post_notification_msg`. -/
structure Notification where
  notificationType : NotificationType
  entityId : EntityId
  cmdType : BitVec 16
  descType : BitVec 16
  descIndex : BitVec 16
  cmdStatus : BitVec 32
  notificationId : Ptr
  deriving DecidableEq

inductive AecpMessageType where
  | aemCommand
  | aemResponse
  | addressAccessCommand
  | addressAccessResponse
  | other (code : BitVec 4)
  deriving DecidableEq

/-- The AEM command types that the library names when it dispatches on one. -/
inductive AemCommandType where
  | acquireEntity
  | lockEntity
  | entityAvailable
  | controllerAvailable
  | readDescriptor
  | setStreamFormat
  | getStreamFormat
  | setStreamInfo
  | getStreamInfo
  | setName
  | getName
  | setSamplingRate
  | getSamplingRate
  | setClockSource
  | getClockSource
  | setControl
  | startStreaming
  | stopStreaming
  | reboot
  | startOperation
  | operationStatus
  | other (code : BitVec 15)
  deriving DecidableEq

def AemCommandType.code : AemCommandType → BitVec 16
  | .acquireEntity => 0
  | .lockEntity => 1
  | .entityAvailable => 2
  | .controllerAvailable => 3
  | .readDescriptor => 4
  | .setStreamFormat => 8
  | .getStreamFormat => 9
  | .setStreamInfo => 14
  | .getStreamInfo => 15
  | .setName => 16
  | .getName => 17
  | .setSamplingRate => 20
  | .getSamplingRate => 21
  | .setClockSource => 22
  | .getClockSource => 23
  | .setControl => 24
  | .startStreaming => 34
  | .stopStreaming => 35
  | .reboot => 42
  | .startOperation => 52
  | .operationStatus => 54
  | .other c => c.setWidth 16

/-- The descriptor types that the library implements; `other` is every other type. -/
inductive DescType where
  | entity
  | configuration
  | audioUnit
  | streamInput
  | streamOutput
  | jackInput
  | jackOutput
  | avbInterface
  | clockSource
  | memoryObject
  | locale
  | strings
  | streamPortInput
  | streamPortOutput
  | externalPortInput
  | externalPortOutput
  | audioCluster
  | audioMap
  | control
  | clockDomain
  | other (code : BitVec 16)
  deriving DecidableEq

def DescType.code : DescType → BitVec 16
  | .entity => 0
  | .configuration => 1
  | .audioUnit => 2
  | .streamInput => 5
  | .streamOutput => 6
  | .jackInput => 7
  | .jackOutput => 8
  | .avbInterface => 9
  | .clockSource => 10
  | .memoryObject => 11
  | .locale => 12
  | .strings => 13
  | .streamPortInput => 14
  | .streamPortOutput => 15
  | .externalPortInput => 16
  | .externalPortOutput => 17
  | .audioCluster => 20
  | .audioMap => 23
  | .control => 26
  | .clockDomain => 36
  | .other c => c

/-- A `base_*`, `number_of_*` pair of a descriptor. -/
structure DescRange where
  base : BitVec 16
  number : BitVec 16
  deriving DecidableEq

def DescRange.none : DescRange := ⟨0, 0⟩

/-- The seven strings of a STRINGS descriptor. -/
structure LocalizedStrings where
  string0 : List (BitVec 8) := []
  string1 : List (BitVec 8) := []
  string2 : List (BitVec 8) := []
  string3 : List (BitVec 8) := []
  string4 : List (BitVec 8) := []
  string5 : List (BitVec 8) := []
  string6 : List (BitVec 8) := []
  deriving DecidableEq

/-- The fields of a descriptor that the library's reads and responses depend on, as the
jdksavdecc descriptor readers return them. A type reads its own fields and no others: an ENTITY
the first two behind the index, then a CONFIGURATION, a LOCALE and a STRINGS descriptor one
each, an AUDIO_UNIT the ports and blocks, the controls and the sampling rate, a stream port the
controls, clusters and maps, a stream its format, and a CLOCK_DOMAIN the last field. `readOk`
says whether the reader of the descriptor's type accepts the frame, `layoutOk` whether the
offset and the count that the constructors of CONFIGURATION, AUDIO_MAP and CLOCK_DOMAIN assert
are right. -/
structure AemDesc where
  readOk : Bool := true
  layoutOk : Bool := true
  descriptorType : DescType
  descriptorIndex : BitVec 16
  entityId : EntityId := 0
  currentConfiguration : BitVec 16 := 0
  descriptorCounts : List (DescType × BitVec 16) := []
  strings : DescRange := .none
  localizedStrings : LocalizedStrings := {}
  streamInputPorts : DescRange := .none
  streamOutputPorts : DescRange := .none
  externalInputPorts : DescRange := .none
  externalOutputPorts : DescRange := .none
  controlBlocks : DescRange := .none
  controls : DescRange := .none
  clusters : DescRange := .none
  maps : DescRange := .none
  currentFormat : BitVec 64 := 0
  currentSamplingRate : BitVec 32 := 0
  clockSourceIndex : BitVec 16 := 0
  deriving DecidableEq

/-- An AECPDU as the jdksavdecc accessors decode it: one field for each accessor called.
`command_type` is split into its most significant bit and the other fifteen.
`readDescriptorType` and `readDescriptorIndex` are the words at the offsets that READ_DESCRIPTOR
has for them, `tlvCount` is `tlv_count` of an address access message, `respReadOk` says whether
the response reader of the command type accepts the frame, and `descriptor` is what a
READ_DESCRIPTOR response carries. -/
structure AecpFrame where
  destMac : Mac := 0
  messageType : AecpMessageType
  status : BitVec 5 := 0
  targetEntityId : EntityId
  controllerEntityId : EntityId
  sequenceId : BitVec 16 := 0
  uField : Bool := false
  commandType : AemCommandType
  configurationIndex : BitVec 16 := 0
  descriptorType : DescType := .entity
  descriptorIndex : BitVec 16 := 0
  readDescriptorType : BitVec 16 := 0
  readDescriptorIndex : BitVec 16 := 0
  operationId : BitVec 16 := 0
  operationType : BitVec 16 := 0
  percentComplete : BitVec 16 := 0
  streamFormat : BitVec 64 := 0
  samplingRate : BitVec 32 := 0
  clockSourceIndex : BitVec 16 := 0
  tlvCount : BitVec 16 := 1
  respReadOk : Bool := true
  descriptor : AemDesc := { descriptorType := .entity, descriptorIndex := 0 }
  deriving DecidableEq

inductive AcmpMessageType where
  | connectTxCommand
  | connectTxResponse
  | disconnectTxCommand
  | disconnectTxResponse
  | getTxStateCommand
  | getTxStateResponse
  | connectRxCommand
  | connectRxResponse
  | disconnectRxCommand
  | disconnectRxResponse
  | getRxStateCommand
  | getRxStateResponse
  | getTxConnectionCommand
  | getTxConnectionResponse
  | other (code : BitVec 4)
  deriving DecidableEq

def AcmpMessageType.code : AcmpMessageType → BitVec 16
  | .connectTxCommand => 0
  | .connectTxResponse => 1
  | .disconnectTxCommand => 2
  | .disconnectTxResponse => 3
  | .getTxStateCommand => 4
  | .getTxStateResponse => 5
  | .connectRxCommand => 6
  | .connectRxResponse => 7
  | .disconnectRxCommand => 8
  | .disconnectRxResponse => 9
  | .getRxStateCommand => 10
  | .getRxStateResponse => 11
  | .getTxConnectionCommand => 12
  | .getTxConnectionResponse => 13
  | .other c => c.setWidth 16

/-- `util_imp::acmp_cmd_to_timeout`: the table of command timeouts and its default. -/
def acmpCmdToTimeout : AcmpMessageType → BitVec 32
  | .connectTxCommand => 2000
  | .disconnectTxCommand => 200
  | .getTxStateCommand => 200
  | .connectRxCommand => 4500
  | .disconnectRxCommand => 500
  | .getRxStateCommand => 200
  | .getTxConnectionCommand => 200
  | _ => 0xffff

/-- An ACMPDU. `readOk` says whether `jdksavdecc_acmpdu_read` accepts the frame. -/
structure AcmpFrame where
  destMac : Mac := 0
  messageType : AcmpMessageType
  status : BitVec 5 := 0
  controllerEntityId : EntityId
  talkerEntityId : EntityId := 0
  listenerEntityId : EntityId := 0
  talkerUniqueId : BitVec 16 := 0
  listenerUniqueId : BitVec 16 := 0
  sequenceId : BitVec 16 := 0
  flags : BitVec 16 := 0
  readOk : Bool := true
  deriving DecidableEq

structure Adpdu where
  entityId : EntityId
  entityModelId : BitVec 64
  availableIndex : BitVec 32
  generalControllerIgnore : Bool
  entityNotReady : Bool
  deriving DecidableEq

inductive AdpMessageType where
  | entityAvailable
  | entityDeparting
  | entityDiscover
  | other (code : BitVec 4)
  deriving DecidableEq

/-- An ADP frame. `entityIdBytes` are the eight bytes that `state_avail` reads directly; `adpdu`
is what `jdksavdecc_adpdu_read` fills in, `none` when it fails, and `frameReadOk` says whether
`jdksavdecc_frame_read` accepts the frame. -/
structure AdpFrame where
  destMac : Mac := 0
  srcMac : Mac := 0
  messageType : AdpMessageType := .entityAvailable
  entityIdBytes : EntityId
  validTime : BitVec 5
  frameReadOk : Bool := true
  adpdu : Option Adpdu
  adpdu_entityId : ∀ a, adpdu = some a → a.entityId = entityIdBytes

end AvdeccLib
