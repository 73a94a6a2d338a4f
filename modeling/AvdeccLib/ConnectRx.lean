import AvdeccLib.Controller

namespace AvdeccLib
set_option autoImplicit true

open Outcome
open EndStation (deref)

/-- `selected_entity_index` and `selected_config_index` of an end station. -/
structure Selection where
  entityIndex : BitVec 16 := 0
  configIndex : BitVec 16 := 0
  deriving DecidableEq

/-- What the commands of `cmd_line` look at: the controller, the selection made in each of its
end stations, by the index of the end station, and `test_mode`. -/
structure CmdLine where
  controller : Controller
  selection : Nat → Selection
  testMode : Bool

/-- The four arguments of `connect` and `disconnect`, as the command line has parsed them. -/
structure RxArgs where
  outstreamEndStationIndex : BitVec 32
  outstreamDesc : BitVec 32
  instreamEndStationIndex : BitVec 32
  instreamDesc : BitVec 32

def RxArgs.outstreamDescIndex (args : RxArgs) : BitVec 16 := args.outstreamDesc.setWidth 16

def RxArgs.instreamDescIndex (args : RxArgs) : BitVec 16 := args.instreamDesc.setWidth 16

/-- The bit that a flag of `connect` sets; `none` for an invalid flag. -/
def connectionFlag (flag : String) : Option (BitVec 16) :=
  if flag = "class_b" then some 0x1
  else if flag = "fast_connect" then some 0x2
  else if flag = "saved_state" then some 0x4
  else if flag = "streaming_wait" then some 0x8
  else if flag = "supports_encrypted" then some 0x8
  else if flag = "encrypted_pdu" then some 0x10
  else if flag = "talker_failed" then some 0x10
  else if flag ≠ "" then none
  else some 0

def connectionFlags (flags : List String) : Option (BitVec 16) :=
  flags.foldlM (fun connectionFlags flag => (connectionFlag flag).map (connectionFlags ||| ·)) 0

namespace CmdLine

def getEndStationByIndex (c : CmdLine) (endStationIndex : BitVec 32) : Option EndStation :=
  c.controller.endStationVec[endStationIndex.toNat]?

/-- `get_entity_desc_by_index(get_current_entity_index())` of an end station. -/
def getCurrentEntityDesc (c : CmdLine) (endStationIndex : BitVec 32) :
    Option EntityDescriptor := do
  let endStation ← c.getEndStationByIndex endStationIndex
  endStation.entityDescVec[(c.selection endStationIndex.toNat).entityIndex.toNat]?

/-- `controller_imp::get_current_config_desc` -/
def getCurrentConfigDesc (c : CmdLine) (endStationIndex : BitVec 32) :
    Option ConfigurationDescriptor := do
  let entity ← c.getCurrentEntityDesc endStationIndex
  entity.getConfigDescByIndex (c.selection endStationIndex.toNat).configIndex

/-- The condition `is_valid` that the two commands share. -/
def isValid (c : CmdLine) (args : RxArgs)
    (inDescriptor outDescriptor : Option ConfigurationDescriptor) : Bool :=
  match inDescriptor, outDescriptor with
  | some inDescriptor, some outDescriptor =>
    (c.testMode || args.instreamEndStationIndex != args.outstreamEndStationIndex) &&
      args.instreamEndStationIndex.toNat < c.controller.endStationVec.length &&
      args.outstreamEndStationIndex.toNat < c.controller.endStationVec.length &&
      args.instreamDescIndex.toNat < (inDescriptor.descVec .streamInput).length &&
      args.outstreamDescIndex.toNat < (outDescriptor.descVec .streamOutput).length
  | _, _ => false

/-- `send_connect_rx_cmd` and `send_disconnect_rx_cmd` of a STREAM_INPUT of the end station: the
listener is the first entity of the end station. -/
def sendRxCmd (c : CmdLine) (endStation : EndStation) (instream : AemDesc)
    (messageType : AcmpMessageType) (notificationId : Ptr) (talkerEntityId : EntityId)
    (talkerUniqueId flags : BitVec 16) : Except Fault TxData := do
  let listener ← deref endStation.entityDescVec[0]?
  pure
    { notificationId
      notificationFlag := .cmdWithNotification
      frame := .acmp
        { messageType
          controllerEntityId := getControllerEntityId c.controller.globals.macAddr
          talkerEntityId
          listenerEntityId := listener.desc.entityId
          talkerUniqueId
          listenerUniqueId := instream.descriptorIndex
          flags } }

/-- What the two commands do with a valid instream: they take the entity id of the talker from
its current entity and send. -/
def requestRx (c : CmdLine) (args : RxArgs) (instream : AemDesc) (messageType : AcmpMessageType)
    (flags : BitVec 16) (notificationId : Ptr) : Except Fault TxData := do
  let talker ← deref (c.getCurrentEntityDesc args.outstreamEndStationIndex)
  let endStation ← deref (c.getEndStationByIndex args.instreamEndStationIndex)
  c.sendRxCmd endStation instream messageType notificationId talker.desc.entityId
    args.outstreamDescIndex flags

/-- `cmd_connect_rx`, which compares the formats of the two streams for a warning. -/
def cmdConnectRx (c : CmdLine) (args : RxArgs) (flags : List String) (notificationId : Ptr) :
    Except Fault (Option TxData) := do
  let inDescriptor := c.getCurrentConfigDesc args.instreamEndStationIndex
  let outDescriptor := c.getCurrentConfigDesc args.outstreamEndStationIndex
  if c.isValid args inDescriptor outDescriptor then
    match connectionFlags flags with
    | none => pure none
    | some connectionFlags =>
      let instream ← deref (inDescriptor.bind
        (·.getDescByIndex .streamInput args.instreamDescIndex))
      let _ ← deref
        (outDescriptor.bind (·.getDescByIndex .streamOutput args.outstreamDescIndex))
      some <$> c.requestRx args instream .connectRxCommand connectionFlags notificationId
  else pure none

/-- `cmd_disconnect_rx`, which looks the outstream up in the end station of the instream. -/
def cmdDisconnectRx (c : CmdLine) (args : RxArgs) (notificationId : Ptr) :
    Except Fault (Option TxData) := do
  let inDescriptor := c.getCurrentConfigDesc args.instreamEndStationIndex
  let outDescriptor := c.getCurrentConfigDesc args.instreamEndStationIndex
  if c.isValid args inDescriptor outDescriptor then
    let instream ← deref (inDescriptor.bind
      (·.getDescByIndex .streamInput args.instreamDescIndex))
    some <$> c.requestRx args instream .disconnectRxCommand 0 notificationId
  else pure none

end CmdLine

/-- What a CONNECT_RX or a DISCONNECT_RX command is about. -/
structure RxConnection where
  talkerEntityId : EntityId
  talkerUniqueId : BitVec 16
  listenerEntityId : EntityId
  listenerUniqueId : BitVec 16
  deriving DecidableEq

def AcmpFrame.connection (f : AcmpFrame) : RxConnection :=
  ⟨f.talkerEntityId, f.talkerUniqueId, f.listenerEntityId, f.listenerUniqueId⟩

/-- The command sends an ACMP frame of the type for the connection. -/
def SendsRx (result : Except Fault (Option TxData)) (messageType : AcmpMessageType)
    (x : RxConnection) : Prop :=
  ∃ tx f, result = .ok (some tx) ∧ tx.frame = .acmp f ∧ f.messageType = messageType ∧
    f.connection = x

namespace CmdLine

/-- The indexes are in range in the current configurations of the end stations they refer to. -/
def InRange (c : CmdLine) (args : RxArgs) : Prop :=
  ∃ inDescriptor outDescriptor,
    c.getCurrentConfigDesc args.instreamEndStationIndex = some inDescriptor ∧
    c.getCurrentConfigDesc args.outstreamEndStationIndex = some outDescriptor ∧
    args.instreamDescIndex.toNat < (inDescriptor.descVec .streamInput).length ∧
    args.outstreamDescIndex.toNat < (outDescriptor.descVec .streamOutput).length

/-- `disconnect` takes down what `connect` makes, and neither uses an index out of range. -/
def SameStreams (c : CmdLine) (args : RxArgs) : Prop :=
  ∀ flags id id', (connectionFlags flags).isSome →
    (∀ x, SendsRx (c.cmdDisconnectRx args id) .disconnectRxCommand x ↔
      SendsRx (c.cmdConnectRx args flags id') .connectRxCommand x) ∧
    ∀ x, SendsRx (c.cmdDisconnectRx args id) .disconnectRxCommand x ∨
      SendsRx (c.cmdConnectRx args flags id') .connectRxCommand x → c.InRange args

/-- What the two commands check besides the index of the outstream. -/
def Ready (c : CmdLine) (args : RxArgs) : Prop :=
  (c.testMode = true ∨ args.instreamEndStationIndex ≠ args.outstreamEndStationIndex) ∧
    args.instreamEndStationIndex.toNat < c.controller.endStationVec.length ∧
    args.outstreamEndStationIndex.toNat < c.controller.endStationVec.length ∧
    ∃ inDescriptor, c.getCurrentConfigDesc args.instreamEndStationIndex = some inDescriptor ∧
      args.instreamDescIndex.toNat < (inDescriptor.descVec .streamInput).length

/-- The current configuration of the end station has an outstream with the index. -/
def HasOutstream (c : CmdLine) (endStationIndex : BitVec 32) (index : BitVec 16) : Prop :=
  ∃ descriptor, c.getCurrentConfigDesc endStationIndex = some descriptor ∧
    index.toNat < (descriptor.descVec .streamOutput).length

/-- The connection that the two commands name, if what they dereference for it is there. -/
def connectionOf (c : CmdLine) (args : RxArgs) (instream : AemDesc) : Option RxConnection := do
  let talker ← c.getCurrentEntityDesc args.outstreamEndStationIndex
  let endStation ← c.getEndStationByIndex args.instreamEndStationIndex
  let listener ← endStation.entityDescVec[0]?
  pure ⟨talker.desc.entityId, args.outstreamDescIndex, listener.desc.entityId,
    instream.descriptorIndex⟩

/-- The instream that the arguments name. -/
def instream (c : CmdLine) (args : RxArgs) : Option AemDesc := do
  let inDescriptor ← c.getCurrentConfigDesc args.instreamEndStationIndex
  inDescriptor.getDescByIndex .streamInput args.instreamDescIndex

variable {c : CmdLine} {args : RxArgs}

theorem isValid_iff {inDescriptor outDescriptor : Option ConfigurationDescriptor} :
    c.isValid args inDescriptor outDescriptor = true ↔
      (c.testMode = true ∨ args.instreamEndStationIndex ≠ args.outstreamEndStationIndex) ∧
      args.instreamEndStationIndex.toNat < c.controller.endStationVec.length ∧
      args.outstreamEndStationIndex.toNat < c.controller.endStationVec.length ∧
      (∃ d, inDescriptor = some d ∧
        args.instreamDescIndex.toNat < (d.descVec .streamInput).length) ∧
      ∃ d, outDescriptor = some d ∧
        args.outstreamDescIndex.toNat < (d.descVec .streamOutput).length := by
  cases inDescriptor <;> cases outDescriptor <;> simp [isValid, and_assoc]

theorem isValid_connect : c.isValid args (c.getCurrentConfigDesc args.instreamEndStationIndex)
    (c.getCurrentConfigDesc args.outstreamEndStationIndex) = true ↔
      c.Ready args ∧ c.HasOutstream args.outstreamEndStationIndex args.outstreamDescIndex := by
  rw [isValid_iff, Ready, HasOutstream]
  tauto

theorem isValid_disconnect :
    c.isValid args (c.getCurrentConfigDesc args.instreamEndStationIndex)
    (c.getCurrentConfigDesc args.instreamEndStationIndex) = true ↔
      c.Ready args ∧ c.HasOutstream args.instreamEndStationIndex args.outstreamDescIndex := by
  rw [isValid_iff, Ready, HasOutstream]
  tauto

theorem sendsRx_request (instream : AemDesc) (t : AcmpMessageType)
    (flags : BitVec 16) (id : Ptr)
    (x : RxConnection) : SendsRx (some <$> c.requestRx args instream t flags id) t x ↔
      c.connectionOf args instream = some x := by
  have hnot : ∀ f : Fault, ¬ SendsRx (.error f) t x := by
    rintro f ⟨tx, frame, h, -⟩
    cases h
  rw [connectionOf, requestRx]
  cases c.getCurrentEntityDesc args.outstreamEndStationIndex with
  | none => exact iff_of_false (hnot _) (fun h => nomatch h)
  | some talker =>
    cases c.getEndStationByIndex args.instreamEndStationIndex with
    | none => exact iff_of_false (hnot _) (fun h => nomatch h)
    | some endStation =>
      show SendsRx (some <$> c.sendRxCmd endStation instream t id talker.desc.entityId
          args.outstreamDescIndex flags) t x ↔
        (endStation.entityDescVec[0]?).bind (fun listener =>
          some ⟨talker.desc.entityId, args.outstreamDescIndex, listener.desc.entityId,
            instream.descriptorIndex⟩) = some x
      rw [sendRxCmd]
      cases endStation.entityDescVec[0]? with
      | none => exact iff_of_false (hnot _) (fun h => nomatch h)
      | some listener =>
        constructor
        · rintro ⟨tx, f, h, hf, -, rfl⟩
          cases h
          cases hf
          rfl
        · intro h
          cases h
          exact ⟨_, _, rfl, rfl, rfl, rfl⟩

theorem Ready.instream (h : c.Ready args) : ∃ d, c.instream args = some d := by
  obtain ⟨-, -, -, inDescriptor, hin, hlt⟩ := h
  rw [CmdLine.instream, hin]
  exact ⟨_, List.getElem?_eq_getElem hlt⟩

theorem not_sendsRx_nothing (t : AcmpMessageType) (x : RxConnection) :
    ¬ SendsRx (.ok none) t x := by
  rintro ⟨tx, f, h, -⟩
  cases h

theorem sends_connect_iff {flags : List String} (hf : (connectionFlags flags).isSome) (id : Ptr)
    (x : RxConnection) :
    SendsRx (c.cmdConnectRx args flags id) .connectRxCommand x ↔ c.Ready args ∧
      c.HasOutstream args.outstreamEndStationIndex args.outstreamDescIndex ∧
      (c.instream args).bind (c.connectionOf args) = some x := by
  obtain ⟨flags', hflags⟩ := Option.isSome_iff_exists.1 hf
  rw [cmdConnectRx, ← and_assoc, ← isValid_connect]
  cases hv : c.isValid args (c.getCurrentConfigDesc args.instreamEndStationIndex)
      (c.getCurrentConfigDesc args.outstreamEndStationIndex) with
  | false => exact iff_of_false (not_sendsRx_nothing _ _) (fun h => Bool.false_ne_true h.1)
  | true =>
    obtain ⟨hready, outDescriptor, hout, hlt⟩ := isValid_connect.1 hv
    obtain ⟨d, hd⟩ := hready.instream
    have ho : outDescriptor.getDescByIndex .streamOutput args.outstreamDescIndex = some _ :=
      List.getElem?_eq_getElem hlt
    have hd' : (c.getCurrentConfigDesc args.instreamEndStationIndex).bind
      (·.getDescByIndex .streamInput args.instreamDescIndex) = some d := hd
    rw [if_pos rfl, hflags, hd', hout, hd, Option.bind_some, Option.bind_some,
      ← sendsRx_request d .connectRxCommand flags' id, ho]
    exact (and_iff_right rfl).symm

theorem sends_disconnect_iff (id : Ptr) (x : RxConnection) :
    SendsRx (c.cmdDisconnectRx args id) .disconnectRxCommand x ↔ c.Ready args ∧
      c.HasOutstream args.instreamEndStationIndex args.outstreamDescIndex ∧
      (c.instream args).bind (c.connectionOf args) = some x := by
  rw [cmdDisconnectRx, ← and_assoc, ← isValid_disconnect]
  cases hv : c.isValid args (c.getCurrentConfigDesc args.instreamEndStationIndex)
      (c.getCurrentConfigDesc args.instreamEndStationIndex) with
  | false => exact iff_of_false (not_sendsRx_nothing _ _) (fun h => Bool.false_ne_true h.1)
  | true =>
    obtain ⟨hready, -⟩ := isValid_disconnect.1 hv
    obtain ⟨d, hd⟩ := hready.instream
    have hd' : (c.getCurrentConfigDesc args.instreamEndStationIndex).bind
      (·.getDescByIndex .streamInput args.instreamDescIndex) = some d := hd
    rw [if_pos rfl, hd', hd, Option.bind_some, ← sendsRx_request d .disconnectRxCommand 0 id]
    exact (and_iff_right rfl).symm

/-- The commands name a connection exactly if the end station of the outstream has an entity. -/
theorem Ready.connection_iff (h : c.Ready args) :
    (∃ x, (c.instream args).bind (c.connectionOf args) = some x) ↔
      ∃ entity, c.getCurrentEntityDesc args.outstreamEndStationIndex = some entity := by
  obtain ⟨d, hd⟩ := h.instream
  obtain ⟨-, -, -, inDescriptor, hin, -⟩ := h
  obtain ⟨entity, hentity, -⟩ := Option.bind_eq_some_iff.1 hin
  obtain ⟨endStation, hes, hget⟩ := Option.bind_eq_some_iff.1 hentity
  have hpos : 0 < endStation.entityDescVec.length := by
    obtain ⟨hlt, -⟩ := List.getElem?_eq_some_iff.1 hget
    omega
  rw [hd, Option.bind_some, connectionOf, hes]
  constructor
  · rintro ⟨x, hx⟩
    obtain ⟨talker, ht, -⟩ := Option.bind_eq_some_iff.1 hx
    exact ⟨talker, ht⟩
  · rintro ⟨talker, ht⟩
    rw [ht]
    dsimp only [Option.bind_eq_bind, Option.bind_some]
    rw [List.getElem?_eq_getElem hpos]
    exact ⟨_, rfl⟩

theorem HasOutstream.entity {i : BitVec 32} {index : BitVec 16} (h : c.HasOutstream i index) :
    ∃ entity, c.getCurrentEntityDesc i = some entity := by
  obtain ⟨d, hd, -⟩ := h
  obtain ⟨entity, hentity, -⟩ := Option.bind_eq_some_iff.1 hd
  exact ⟨entity, hentity⟩

theorem Ready.inRange (h : c.Ready args)
    (ho : c.HasOutstream args.outstreamEndStationIndex args.outstreamDescIndex) :
    c.InRange args := by
  obtain ⟨-, -, -, inDescriptor, hin, hlt⟩ := h
  obtain ⟨outDescriptor, hout, hlt'⟩ := ho
  exact ⟨inDescriptor, outDescriptor, hin, hout, hlt, hlt'⟩

/-- The two commands agree exactly if another check fails, or the end station of the outstream
has the outstream whenever that of the instream has one with its index, and the other way
round. -/
theorem connect_disconnect_iff (c : CmdLine) (args : RxArgs) :
    c.SameStreams args ↔ (c.Ready args →
      (c.HasOutstream args.outstreamEndStationIndex args.outstreamDescIndex ↔
        c.HasOutstream args.instreamEndStationIndex args.outstreamDescIndex ∧
          ∃ entity, c.getCurrentEntityDesc args.outstreamEndStationIndex = some entity)) := by
  constructor
  · intro h hready
    have hnone : (connectionFlags []).isSome := rfl
    obtain ⟨hsame, -⟩ := h [] null null hnone
    constructor
    · intro hout
      obtain ⟨x, hx⟩ := hready.connection_iff.2 hout.entity
      have hsends := (hsame x).2 ((sends_connect_iff hnone null x).2 ⟨hready, hout, hx⟩)
      exact ⟨((sends_disconnect_iff null x).1 hsends).2.1, hout.entity⟩
    · rintro ⟨hin, hentity⟩
      obtain ⟨x, hx⟩ := hready.connection_iff.2 hentity
      have hsends := (hsame x).1 ((sends_disconnect_iff null x).2 ⟨hready, hin, hx⟩)
      exact ((sends_connect_iff hnone null x).1 hsends).2.1
  · intro h flags id id' hf
    have hto : ∀ x, SendsRx (c.cmdDisconnectRx args id) .disconnectRxCommand x ↔
        SendsRx (c.cmdConnectRx args flags id') .connectRxCommand x := by
      intro x
      rw [sends_connect_iff hf id' x, sends_disconnect_iff id x]
      constructor
      · rintro ⟨hready, hin, hx⟩
        exact ⟨hready, (h hready).2 ⟨hin, hready.connection_iff.1 ⟨x, hx⟩⟩, hx⟩
      · rintro ⟨hready, hout, hx⟩
        exact ⟨hready, ((h hready).1 hout).1, hx⟩
    refine ⟨hto, ?_⟩
    intro x hx
    have hconnect := hx.elim (hto x).1 fun h => h
    obtain ⟨hready, hout, -⟩ := (sends_connect_iff hf id' x).1 hconnect
    exact hready.inRange hout

/-- An end station with one configuration and its streams. -/
def streamStation (entityId : EntityId) (inputs outputs : List AemDesc) : EndStation where
  entityId
  mac := 0
  connectionStatus := .connected
  currentConfigDesc := 0
  backgroundReadPending := []
  backgroundReadInflight := []
  adp := ⟨entityId, 0, 0, false, false⟩
  entityDescVec :=
    [⟨{ descriptorType := .entity, descriptorIndex := 0, entityId },
      [⟨{ descriptorType := .configuration, descriptorIndex := 0 }, fun t =>
        match t with
        | .streamInput => inputs
        | .streamOutput => outputs
        | _ => []⟩]⟩]
  generation := 0
  issued := []

/-- A talker with one output and a listener with one input and no outputs. -/
def talkerAndListener : CmdLine where
  controller :=
    { Controller.new 0 with
      endStationVec :=
        [streamStation 1 [] [{ descriptorType := .streamOutput, descriptorIndex := 0 }],
          streamStation 2 [{ descriptorType := .streamInput, descriptorIndex := 0 }] []] }
  selection _ := {}
  testMode := false

/-- The connection of the two is made, and `disconnect` calls it invalid. -/
theorem connect_without_disconnect : ¬ ∀ c args, SameStreams c args := by
  intro h
  obtain ⟨hsame, -⟩ := h talkerAndListener ⟨0, 0, 1, 0⟩ [] 7 7 rfl
  have hconnect : SendsRx (talkerAndListener.cmdConnectRx ⟨0, 0, 1, 0⟩ [] 7) .connectRxCommand
      ⟨1, 0, 2, 0⟩ := ⟨_, _, rfl, rfl, rfl, rfl⟩
  obtain ⟨tx, f, hdisconnect, -⟩ := (hsame _).2 hconnect
  cases hdisconnect

end CmdLine
end AvdeccLib
