import AvdeccLib.CommandScripts

namespace AvdeccLib
set_option autoImplicit true
open BigEndian Outcome
open EndStation (deref)

def acmpFrameLen : Nat := 70
def subtypeAcmp : BitVec 7 := 0x7c

/-- `jdksavdecc_multicast_adp_acmp` -/
def multicastAdpAcmp : Mac := 0x91e0f0010000

/-- `jdksavdecc_acmpdu`. The target entity id of its header is the stream id. -/
structure Acmpdu where
  header : CommonControlHeader
  controllerEntityId : EntityId
  talkerEntityId : EntityId
  listenerEntityId : EntityId
  talkerUniqueId : BitVec 16
  listenerUniqueId : BitVec 16
  streamDestMac : Mac
  connectionCount : BitVec 16
  sequenceId : BitVec 16
  flags : BitVec 16
  streamVlanId : BitVec 16
  reserved : BitVec 16
  deriving DecidableEq

namespace Acmpdu

/-- The fields behind the header, as IEEE 1722.1 lays them out. -/
def body (p : Acmpdu) : List Field :=
  [⟨8, p.controllerEntityId⟩, ⟨8, p.talkerEntityId⟩, ⟨8, p.listenerEntityId⟩,
    ⟨2, p.talkerUniqueId⟩, ⟨2, p.listenerUniqueId⟩, ⟨6, p.streamDestMac⟩,
    ⟨2, p.connectionCount⟩, ⟨2, p.sequenceId⟩, ⟨2, p.flags⟩, ⟨2, p.streamVlanId⟩,
    ⟨2, p.reserved⟩]

def write (p : Acmpdu) : List Byte := writeFields p.header.fields ++ writeFields p.body

def setHeader (p : Acmpdu) (h : CommonControlHeader) : Acmpdu := { p with header := h }

theorem write_length (p : Acmpdu) : p.write.length = 56 := by
  rw [write, List.length_append, p.header.fields_length, writeFields_length]
  rfl

end Acmpdu

/-- What the locals of an ACMP sender hold. None of them clears its struct. -/
structure AcmpLocals extends Locals where
  reserved : BitVec 16

namespace AcmpControllerStateMachine

/-- The struct that `common_hdr_init` fills in. -/
def commonHdr (msgType : AcmpMessageType) : CommonControlHeader where
  cd := 1
  subtype := subtypeAcmp
  sv := 0
  version := 0
  messageType := msgType.code.setWidth 4
  status := 0
  controlDataLength := 44
  targetEntityId := 0

def commonHdrInit (msgType : AcmpMessageType) (cmdFrame : CmdFrame) :
    Except SendStop CmdFrame :=
  writeOr (.fault .assertion) etherHdrSize (writeFields (commonHdr msgType).fields) cmdFrame

end AcmpControllerStateMachine

section
variable (macAddr : Mac) (locals : AcmpLocals)

/-- The fields that the ACMP senders assign alike. -/
def acmpCommonData : Acmpdu where
  header := locals.header
  controllerEntityId := getControllerEntityId macAddr
  talkerEntityId := 0
  listenerEntityId := 0
  talkerUniqueId := 0
  listenerUniqueId := 0
  streamDestMac := 0
  connectionCount := 0
  sequenceId := locals.sequenceId
  flags := 0
  streamVlanId := 0
  reserved := locals.reserved

/-- What the ACMP senders do with their struct. `ether_frame_init` of the ACMP state machine
writes the same header as that of the AECP one, to the multicast address. -/
def sendAcmpCmd (notificationId : Ptr) (msgType : AcmpMessageType) (acmpdu : Acmpdu) :
    Except SendStop QueuedFrame := do
  let cmdFrame ← etherFrameInit macAddr locals.toLocals multicastAdpAcmp acmpFrameLen
  let cmdFrame ← writeOr (.fault .assertion) etherHdrSize acmpdu.write cmdFrame
  let cmdFrame ← AcmpControllerStateMachine.commonHdrInit msgType cmdFrame
  systemQueueTx notificationId .cmdWithNotification cmdFrame

/-- `get_entity_desc_by_index(0)->entity_id()` -/
def EndStation.firstEntityId (es : EndStation) : Except SendStop EntityId :=
  match es.entityDescVec[0]? with
  | some e => pure e.desc.entityId
  | none => throw (.fault .nullPointer)

namespace StreamInputDescriptor
variable (instream : AemDesc) (es : EndStation) (notificationId : Ptr)

def sendConnectRxCmd (talkerEntityId : EntityId) (talkerUniqueId flags : BitVec 16) :
    Except SendStop QueuedFrame := do
  let listenerEntityId ← es.firstEntityId
  sendAcmpCmd macAddr locals notificationId .connectRxCommand
    { acmpCommonData macAddr locals with
      talkerEntityId
      listenerEntityId
      talkerUniqueId
      listenerUniqueId := instream.descriptorIndex
      flags }

def sendDisconnectRxCmd (talkerEntityId : EntityId) (talkerUniqueId : BitVec 16) :
    Except SendStop QueuedFrame := do
  let listenerEntityId ← es.firstEntityId
  sendAcmpCmd macAddr locals notificationId .disconnectRxCommand
    { acmpCommonData macAddr locals with
      talkerEntityId
      listenerEntityId
      talkerUniqueId
      listenerUniqueId := instream.descriptorIndex }

def sendGetRxStateCmd : Except SendStop QueuedFrame := do
  let listenerEntityId ← es.firstEntityId
  sendAcmpCmd macAddr locals notificationId .getRxStateCommand
    { acmpCommonData macAddr locals with
      listenerEntityId
      listenerUniqueId := instream.descriptorIndex }

end StreamInputDescriptor

namespace StreamOutputDescriptor
variable (outstream : AemDesc) (es : EndStation) (notificationId : Ptr)

def sendGetTxStateCmd : Except SendStop QueuedFrame := do
  let talkerEntityId ← es.firstEntityId
  sendAcmpCmd macAddr locals notificationId .getTxStateCommand
    { acmpCommonData macAddr locals with
      talkerEntityId
      talkerUniqueId := outstream.descriptorIndex }

def sendGetTxConnectionCmd (listenerEntityId : EntityId) (listenerUniqueId : BitVec 16) :
    Except SendStop QueuedFrame := do
  let talkerEntityId ← es.firstEntityId
  sendAcmpCmd macAddr locals notificationId .getTxConnectionCommand
    { acmpCommonData macAddr locals with
      talkerEntityId
      listenerEntityId
      talkerUniqueId := outstream.descriptorIndex
      listenerUniqueId }

end StreamOutputDescriptor

end

/-- A call of an ACMP sender. -/
inductive AcmpCmd where
  | connectRx (instream : AemDesc) (talkerEntityId : EntityId)
      (talkerUniqueId flags : BitVec 16)
  | disconnectRx (instream : AemDesc) (talkerEntityId : EntityId) (talkerUniqueId : BitVec 16)
  | getRxState (instream : AemDesc)
  | getTxState (outstream : AemDesc)
  | getTxConnection (outstream : AemDesc) (listenerEntityId : EntityId)
      (listenerUniqueId : BitVec 16)

namespace AcmpCmd

/-- The sender down to the bytes. -/
def queue (macAddr : Mac) (locals : AcmpLocals) (es : EndStation) (nid : Ptr) :
    AcmpCmd → Except SendStop QueuedFrame
  | connectRx instream talkerEntityId talkerUniqueId flags =>
    StreamInputDescriptor.sendConnectRxCmd macAddr locals instream es nid talkerEntityId
      talkerUniqueId flags
  | disconnectRx instream talkerEntityId talkerUniqueId =>
    StreamInputDescriptor.sendDisconnectRxCmd macAddr locals instream es nid talkerEntityId
      talkerUniqueId
  | getRxState instream => StreamInputDescriptor.sendGetRxStateCmd macAddr locals
      instream es nid
  | getTxState outstream =>
    StreamOutputDescriptor.sendGetTxStateCmd macAddr locals outstream es nid
  | getTxConnection outstream listenerEntityId listenerUniqueId =>
    StreamOutputDescriptor.sendGetTxConnectionCmd macAddr locals outstream es nid
      listenerEntityId
      listenerUniqueId

/-- The sender as the command line model has it. -/
def tx (c : CmdLine) (es : EndStation) (nid : Ptr) : AcmpCmd → Except Fault TxData
  | connectRx instream talkerEntityId talkerUniqueId flags =>
    c.sendRxCmd es instream .connectRxCommand nid talkerEntityId talkerUniqueId flags
  | disconnectRx instream talkerEntityId talkerUniqueId =>
    c.sendRxCmd es instream .disconnectRxCommand nid talkerEntityId talkerUniqueId 0
  | getRxState instream => c.sendGetRxStateCmd es instream nid
  | getTxState outstream => c.sendGetTxStateCmd es outstream nid
  | getTxConnection outstream listenerEntityId listenerUniqueId =>
    c.sendGetTxConnectionCmd listenerEntityId listenerUniqueId es outstream nid

end AcmpCmd

/-- The message types that are not `other`. -/
def AcmpMessageType.named : List AcmpMessageType :=
  [.connectTxCommand, .connectTxResponse, .disconnectTxCommand, .disconnectTxResponse,
    .getTxStateCommand, .getTxStateResponse, .connectRxCommand, .connectRxResponse,
    .disconnectRxCommand, .disconnectRxResponse, .getRxStateCommand, .getRxStateResponse,
    .getTxConnectionCommand, .getTxConnectionResponse]

def AcmpMessageType.ofCode (c : BitVec 4) : AcmpMessageType :=
  (named.find? (·.code == c.setWidth 16)).getD (.other c)

/-- What the accessors that the ACMP state machine calls return for a payload. -/
def AcmpFrame.ofPayload (payload : List Byte) : AcmpFrame where
  messageType := .ofCode ((get 1 15 payload).extractLsb' 0 4)
  status := (get 2 16 payload).extractLsb' 11 5
  controllerEntityId := get 8 26 payload
  talkerEntityId := get 8 34 payload
  listenerEntityId := get 8 42 payload
  talkerUniqueId := get 2 50 payload
  listenerUniqueId := get 2 52 payload
  sequenceId := get 2 62 payload
  flags := get 2 64 payload

theorem AcmpMessageType.ofCode_code : ∀ t ∈ named, ofCode (t.code.setWidth 4) = t := by decide

section
variable {macAddr : Mac} {locals : AcmpLocals} {es : EndStation} {nid : Ptr} {q : QueuedFrame}
  {t : AcmpMessageType} {acmpdu : Acmpdu} {e : EntityDescriptor}

theorem exists_sendAcmpCmd (nid : Ptr) (t : AcmpMessageType) (acmpdu : Acmpdu)
    (hroom : acmpFrameLen ≤ locals.payload.length) :
    ∃ q, sendAcmpCmd macAddr locals nid t acmpdu = .ok q := by
  obtain ⟨f₁, h₁, hp₁, hl₁⟩ := exists_writeOr .outOfBounds
    (etherHdr macAddr multicastAdpAcmp).fields_length
    (show 0 + etherHdrSize ≤ (CmdFrame.mk acmpFrameLen locals.payload).payload.length from
      le_trans (by decide) hroom)
  obtain ⟨f₂, h₂, hp₂, hl₂⟩ := exists_writeOr (.fault .assertion) acmpdu.write_length
    (show etherHdrSize + 56 ≤ f₁.payload.length from hp₁ ▸ hroom)
  obtain ⟨f₃, h₃, hp₃, hl₃⟩ := exists_writeOr (.fault .assertion)
    (AcmpControllerStateMachine.commonHdr t).fields_length
    (show etherHdrSize + commonControlHeaderLen ≤ f₂.payload.length from
      hp₂ ▸ hp₁ ▸ le_trans (by decide) hroom)
  have hlen : f₃.length.toNat ≤ f₃.payload.length := by
    rw [hl₃, hl₂, hl₁, hp₃, hp₂, hp₁]
    exact hroom
  refine ⟨⟨nid, .cmdWithNotification, f₃.payload.take f₃.length.toNat⟩, ?_⟩
  apply bind_eq_ok.2 ⟨f₁, h₁, ?_⟩
  apply bind_eq_ok.2 ⟨f₂, h₂, ?_⟩
  apply bind_eq_ok.2 ⟨f₃, h₃, ?_⟩
  exact if_pos hlen

theorem frame_of_sendAcmpCmd (h : sendAcmpCmd macAddr locals nid t acmpdu = .ok q) :
    q = ⟨nid, .cmdWithNotification, writeFields (etherHdr macAddr multicastAdpAcmp).fields ++
      (acmpdu.setHeader (AcmpControllerStateMachine.commonHdr t)).write⟩ := by
  obtain ⟨f₁, h₁, h⟩ := bind_eq_ok.1 h
  obtain ⟨f₂, h₂, h⟩ := bind_eq_ok.1 h
  obtain ⟨f₃, h₃, h⟩ := bind_eq_ok.1 h
  obtain ⟨hs₁, hl₁⟩ := startsWith_etherFrameInit h₁
  obtain ⟨hw₂, hl₂⟩ := writeOr_eq_ok h₂
  obtain ⟨hw₃, hl₃⟩ := writeOr_eq_ok h₃
  rw [← (etherHdr macAddr multicastAdpAcmp).fields_length] at hw₂ hw₃
  have hs₂ := hs₁.writeAt_end hw₂
  rw [Acmpdu.write] at hs₂
  have hlen : (writeFields (AcmpControllerStateMachine.commonHdr t).fields).length =
      (writeFields acmpdu.header.fields).length := by
    rw [CommonControlHeader.fields_length, CommonControlHeader.fields_length]
  have hs₃ := hs₂.writeAt_over hlen hw₃
  have hframe : (writeFields (etherHdr macAddr multicastAdpAcmp).fields ++
      (acmpdu.setHeader
        (AcmpControllerStateMachine.commonHdr t)).write).length = acmpFrameLen := by
    rw [List.length_append, EtherHdr.fields_length, Acmpdu.write_length]
    rfl
  have hf₃ : f₃.length.toNat = acmpFrameLen := by
    rw [hl₃, hl₂, hl₁]
    rfl
  rw [systemQueueTx_eq_ok h, hf₃]
  congr 1
  exact (hs₃.take hframe.ge).trans (List.take_of_length_le hframe.le)

/-- A frame decodes to the fields of the struct that it was written from. -/
theorem ofPayload_acmpdu (eth : EtherHdr) (ht : t ∈ AcmpMessageType.named) (rest : List Byte) :
    AcmpFrame.ofPayload (writeFields eth.fields ++
      (acmpdu.setHeader (AcmpControllerStateMachine.commonHdr t)).write ++ rest) =
      { messageType := t
        controllerEntityId := acmpdu.controllerEntityId
        talkerEntityId := acmpdu.talkerEntityId
        listenerEntityId := acmpdu.listenerEntityId
        talkerUniqueId := acmpdu.talkerUniqueId
        listenerUniqueId := acmpdu.listenerUniqueId
        sequenceId := acmpdu.sequenceId
        flags := acmpdu.flags } := by
  let hdr := AcmpControllerStateMachine.commonHdr t
  obtain ⟨payload, hpayload⟩ : ∃ payload, payload =
      writeFields eth.fields ++ (acmpdu.setHeader hdr).write ++ rest := ⟨_, rfl⟩
  have hread : ∀ (fs : List Field) (f : Field) (gs : List Field),
      eth.fields ++ hdr.fields ++ acmpdu.body = fs ++ f :: gs →
      get f.width (fs.map Field.width).sum payload = f.val := by
    intro fs f gs h
    have hbytes : payload = writeFields (fs ++ f :: gs) ++ rest := by
      rw [hpayload, ← h, Acmpdu.write, writeFields_append, writeFields_append,
        List.append_assoc]
      rfl
    rw [hbytes]
    exact get_writeFields fs f gs rest
  have htype : get 1 15 payload = hdr.sv ++ hdr.version ++ hdr.messageType :=
    hread (eth.fields ++ hdr.fields.take 1) ⟨1, hdr.sv ++ hdr.version ++ hdr.messageType⟩
      (hdr.fields.drop 2 ++ acmpdu.body) rfl
  have hstatus : get 2 16 payload = hdr.status ++ hdr.controlDataLength :=
    hread (eth.fields ++ hdr.fields.take 2) ⟨2, hdr.status ++ hdr.controlDataLength⟩
      (hdr.fields.drop 3 ++ acmpdu.body) rfl
  have hbody : ∀ (n : Nat) (f : Field),
      acmpdu.body = acmpdu.body.take n ++ f :: acmpdu.body.drop (n + 1) →
      get f.width (26 + ((acmpdu.body.take n).map Field.width).sum) payload = f.val := by
    intro n f h
    have hpos : ((eth.fields ++ hdr.fields ++ acmpdu.body.take n).map Field.width).sum =
        26 + ((acmpdu.body.take n).map Field.width).sum := by
      rw [List.map_append, List.sum_append]
      rfl
    rw [← hpos]
    apply hread _ f (acmpdu.body.drop (n + 1))
    rw [List.append_assoc (eth.fields ++ hdr.fields), ← h]
  have hcontroller : get 8 26 payload = acmpdu.controllerEntityId :=
    hbody 0 ⟨8, acmpdu.controllerEntityId⟩ rfl
  have htalker : get 8 34 payload = acmpdu.talkerEntityId :=
    hbody 1 ⟨8, acmpdu.talkerEntityId⟩ rfl
  have hlistener : get 8 42 payload = acmpdu.listenerEntityId :=
    hbody 2 ⟨8, acmpdu.listenerEntityId⟩ rfl
  have htalkerUnique : get 2 50 payload = acmpdu.talkerUniqueId :=
    hbody 3 ⟨2, acmpdu.talkerUniqueId⟩ rfl
  have hlistenerUnique : get 2 52 payload = acmpdu.listenerUniqueId :=
    hbody 4 ⟨2, acmpdu.listenerUniqueId⟩ rfl
  have hsequence : get 2 62 payload = acmpdu.sequenceId :=
    hbody 7 ⟨2, acmpdu.sequenceId⟩ rfl
  have hflags : get 2 64 payload = acmpdu.flags :=
    hbody 8 ⟨2, acmpdu.flags⟩ rfl
  have hcode : (hdr.sv ++ hdr.version ++ hdr.messageType).extractLsb' 0 4 = hdr.messageType :=
    BitVec.extractLsb'_append_eq_right
  have hzero : (hdr.status ++ hdr.controlDataLength).extractLsb' 11 5 = hdr.status :=
    BitVec.extractLsb'_append_eq_left
  have hsent : AcmpMessageType.ofCode hdr.messageType = t :=
    AcmpMessageType.ofCode_code t ht
  rw [← hpayload, AcmpFrame.ofPayload, htype, hstatus, hcontroller, htalker, hlistener,
    htalkerUnique, hlistenerUnique, hsequence, hflags, hcode, hzero, hsent]
  rfl

theorem firstEntityId_eq_ok {entityId : EntityId} :
    es.firstEntityId = .ok entityId ↔
      ∃ e, deref es.entityDescVec[0]? = .ok e ∧ e.desc.entityId = entityId := by
  rw [EndStation.firstEntityId]
  cases es.entityDescVec[0]? with
  | none =>
    constructor
    · intro h
      cases h
    · rintro ⟨e, h, -⟩
      cases h
  | some e =>
    constructor
    · intro h
      cases h
      exact ⟨e, rfl, rfl⟩
    · rintro ⟨e', h, rfl⟩
      cases h
      rfl

end

def clearedAcmpLocals : AcmpLocals := { clearedLocals with reserved := 0 }

namespace AcmpCmd
variable {macAddr : Mac} {locals : AcmpLocals} {es : EndStation} {nid : Ptr} {q : QueuedFrame}
  {c : CmdLine} {cmd : AcmpCmd}

def msgType : AcmpCmd → AcmpMessageType
  | connectRx _ _ _ _ => .connectRxCommand
  | disconnectRx _ _ _ => .disconnectRxCommand
  | getRxState _ => .getRxStateCommand
  | getTxState _ => .getTxStateCommand
  | getTxConnection _ _ _ => .getTxConnectionCommand

theorem msgType_mem (cmd : AcmpCmd) : cmd.msgType ∈ AcmpMessageType.named := by
  simp only [AcmpMessageType.named]
  cases cmd <;> simp [msgType]

/-- The struct that a sender fills in, for the entity id of the first entity of its end
station. -/
def acmpdu (macAddr : Mac) (locals : AcmpLocals) (entityId : EntityId) : AcmpCmd → Acmpdu
  | connectRx instream talkerEntityId talkerUniqueId flags =>
    { acmpCommonData macAddr locals with
      talkerEntityId
      listenerEntityId := entityId
      talkerUniqueId
      listenerUniqueId := instream.descriptorIndex
      flags }
  | disconnectRx instream talkerEntityId talkerUniqueId =>
    { acmpCommonData macAddr locals with
      talkerEntityId
      listenerEntityId := entityId
      talkerUniqueId
      listenerUniqueId := instream.descriptorIndex }
  | getRxState instream =>
    { acmpCommonData macAddr locals with
      listenerEntityId := entityId
      listenerUniqueId := instream.descriptorIndex }
  | getTxState outstream =>
    { acmpCommonData macAddr locals with
      talkerEntityId := entityId
      talkerUniqueId := outstream.descriptorIndex }
  | getTxConnection outstream listenerEntityId listenerUniqueId =>
    { acmpCommonData macAddr locals with
      talkerEntityId := entityId
      listenerEntityId
      talkerUniqueId := outstream.descriptorIndex
      listenerUniqueId }

theorem queue_eq (cmd : AcmpCmd) : cmd.queue macAddr locals es nid = (do
    let entityId ← es.firstEntityId
    sendAcmpCmd macAddr locals nid cmd.msgType (cmd.acmpdu macAddr locals entityId)) := by
  cases cmd <;> rfl

/-- The frame that the command line model has for the struct. -/
def frame (macAddr : Mac) (locals : AcmpLocals) (entityId : EntityId) (cmd : AcmpCmd) :
    AcmpFrame :=
  let p := cmd.acmpdu macAddr locals entityId
  { messageType := cmd.msgType
    controllerEntityId := p.controllerEntityId
    talkerEntityId := p.talkerEntityId
    listenerEntityId := p.listenerEntityId
    talkerUniqueId := p.talkerUniqueId
    listenerUniqueId := p.listenerUniqueId
    flags := p.flags }

theorem tx_eq (hmac : c.controller.globals.macAddr = macAddr) (locals : AcmpLocals)
    (cmd : AcmpCmd) :
    cmd.tx c es nid = (do
      let e ← deref es.entityDescVec[0]?
      pure ⟨nid, .cmdWithNotification, .acmp (cmd.frame macAddr locals e.desc.entityId)⟩) := by
  subst hmac
  cases cmd <;> rfl

/-- A sender puts a frame of 70 bytes into the queue, in the cases in which the model of the
command line sends one, and the bytes decode to that frame, but for the sequence id, which is
what the struct held. -/
theorem queue_refines (hmac : c.controller.globals.macAddr = macAddr)
    (hroom : acmpFrameLen ≤ locals.payload.length) (cmd : AcmpCmd) :
    ((∃ q, cmd.queue macAddr locals es nid = .ok q) ↔
      ∃ d, cmd.tx c es nid = .ok d) ∧
    ∀ q d, cmd.queue macAddr locals es nid = .ok q →
      cmd.tx c es nid = .ok d →
      q.notificationId = d.notificationId ∧ q.notificationFlag = d.notificationFlag ∧
      q.frame.length = acmpFrameLen ∧
      ∃ f, d.frame = .acmp f ∧ ∀ rest, AcmpFrame.ofPayload (q.frame ++ rest) =
        { f with sequenceId := locals.sequenceId } := by
  rw [queue_eq, tx_eq hmac locals]
  constructor
  · constructor
    · rintro ⟨q, h⟩
      obtain ⟨entityId, he, h⟩ := bind_eq_ok.1 h
      obtain ⟨e, he, -⟩ := firstEntityId_eq_ok.1 he
      exact ⟨_, bind_eq_ok.2 ⟨e, he, rfl⟩⟩
    · rintro ⟨d, h⟩
      obtain ⟨e, he, h⟩ := bind_eq_ok.1 h
      obtain ⟨q, hq⟩ : ∃ q, sendAcmpCmd macAddr locals nid cmd.msgType
          (cmd.acmpdu macAddr locals e.desc.entityId) = .ok q :=
        exists_sendAcmpCmd _ _ _ hroom
      exact ⟨q, bind_eq_ok.2 ⟨e.desc.entityId, firstEntityId_eq_ok.2 ⟨e, he, rfl⟩, hq⟩⟩
  · intro q d hq hd
    obtain ⟨entityId, hid, hq⟩ := bind_eq_ok.1 hq
    obtain ⟨e, he, rfl⟩ := firstEntityId_eq_ok.1 hid
    obtain ⟨e', he', hd⟩ := bind_eq_ok.1 hd
    rw [he] at he'
    cases he'
    cases hd
    obtain rfl := frame_of_sendAcmpCmd hq
    refine ⟨rfl, rfl, ?_, _, rfl, ?_⟩
    · rw [List.length_append, EtherHdr.fields_length, Acmpdu.write_length]
      rfl
    · intro rest
      rw [ofPayload_acmpdu _ cmd.msgType_mem]
      cases cmd <;> rfl

/-- CONNECT_RX to STREAM_INPUT 3 of the listener. -/
theorem queue_refines_connectRx :
    let input : AemDesc := { descriptorType := .streamInput, descriptorIndex := 3 }
    ∃ q, (connectRx input 5 6 0x18).queue 0xa
        { clearedLocals with sequenceId := 0x102, reserved := 0xffff }
        (CmdLine.streamStation 2 [input] []) 7 = .ok q ∧
      q.notificationId = 7 ∧ q.frame.length = acmpFrameLen ∧
      AcmpFrame.ofPayload q.frame =
        { messageType := .connectRxCommand
          controllerEntityId := getControllerEntityId 0xa
          talkerEntityId := 5
          listenerEntityId := 2
          talkerUniqueId := 6
          listenerUniqueId := 3
          sequenceId := 0x102
          flags := 0x18 } := by
  intro input
  let es := CmdLine.streamStation 2 [input] []
  have hrefines :=
    @queue_refines 0xa { clearedLocals with sequenceId := 0x102, reserved := 0xffff }
    es 7 ⟨.new 0xa, fun _ => {}, false⟩ rfl (by decide) (connectRx input 5 6 0x18)
  obtain ⟨q, hq⟩ := hrefines.1.2 ⟨_, rfl⟩
  obtain ⟨hid, -, hlen, f, hf, hdecode⟩ := hrefines.2 q _ hq rfl
  refine ⟨q, hq, hid, hlen, ?_⟩
  have h := hdecode []
  rw [List.append_nil] at h
  cases hf
  exact h

end AcmpCmd

def adpFrameLen : Nat := 82
def subtypeAdp : BitVec 7 := 0x7a

namespace AdpDiscoveryStateMachine

/-- The struct that `common_hdr_init` fills in. Its status is `valid_time`, and its message type
is ENTITY_DISCOVER. -/
def commonHdr (targetEntityId : EntityId) : CommonControlHeader where
  cd := 1
  subtype := subtypeAdp
  sv := 0
  version := 0
  messageType := 2
  status := 0
  controlDataLength := 56
  targetEntityId := targetEntityId

/-- `state_discover`, as the bytes that `tx_discover` sends. The fields behind the header are
not assigned. -/
def stateDiscover (macAddr : Mac) (locals : Locals) (discoverId : EntityId) :
    Except SendStop (List Byte) := do
  let cmdFrame ← etherFrameInit macAddr locals multicastAdpAcmp adpFrameLen
  let cmdFrame ← writeOr (.fault .assertion) etherHdrSize
    (writeFields (commonHdr discoverId).fields) cmdFrame
  if cmdFrame.length.toNat ≤ cmdFrame.payload.length then
    pure (cmdFrame.payload.take cmdFrame.length.toNat)
  else throw .outOfBounds

end AdpDiscoveryStateMachine

end AvdeccLib
