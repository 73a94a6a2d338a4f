import AvdeccLib.WellFormedCommands
import AvdeccLib.AecpControllerStateMachine

namespace AvdeccLib
set_option autoImplicit true
open BigEndian

def AecpMessageType.ofCode (c : BitVec 4) : AecpMessageType :=
  ([.aemCommand, .aemResponse, .addressAccessCommand, .addressAccessResponse].find?
    (·.code == c)).getD (.other c)

/-- The command types that are not `other`. -/
def AemCommandType.named : List AemCommandType :=
  [.acquireEntity, .lockEntity, .entityAvailable, .controllerAvailable, .readDescriptor,
    .setStreamFormat, .getStreamFormat, .setStreamInfo, .getStreamInfo, .setName, .getName,
    .setSamplingRate, .getSamplingRate, .setClockSource, .getClockSource, .setControl,
    .startStreaming, .stopStreaming, .reboot, .startOperation, .operationStatus]

def AemCommandType.ofCode (c : BitVec 15) : AemCommandType :=
  (named.find? (·.code == c.setWidth 16)).getD (.other c)

/-- The descriptor types that are not `other`. -/
def DescType.named : List DescType :=
  [.entity, .configuration, .audioUnit, .streamInput, .streamOutput, .jackInput, .jackOutput,
    .avbInterface, .clockSource, .memoryObject, .locale, .strings, .streamPortInput,
    .streamPortOutput, .externalPortInput, .externalPortOutput, .audioCluster, .audioMap,
    .control, .clockDomain]

def DescType.ofCode (c : BitVec 16) : DescType := (named.find? (·.code == c)).getD (.other c)

theorem AemCommandType.code_ofCode (c : BitVec 15) : (ofCode c).code = c.setWidth 16 := by
  rw [ofCode]
  cases h : named.find? (·.code == c.setWidth 16) with
  | none => rfl
  | some t =>
    have ht := List.find?_some h
    exact eq_of_beq ht

theorem DescType.code_ofCode (c : BitVec 16) : (ofCode c).code = c := by
  rw [ofCode]
  cases h : named.find? (·.code == c) with
  | none => rfl
  | some t =>
    have ht := List.find?_some h
    exact eq_of_beq ht

/-- Where the readers of a command type find its descriptor type. The index follows it. -/
def AemCommandType.descriptorPos : AemCommandType → Nat
  | .acquireEntity | .lockEntity => etherHdrSize + aemHeaderLen + 12
  | .readDescriptor => etherHdrSize + aemHeaderLen + 4
  | _ => etherHdrSize + aemHeaderLen

/-- What the accessors that `callback` and `state_timeout` call return for a payload. -/
def AecpFrame.ofPayload (payload : List Byte) : AecpFrame :=
  let commandType := AemCommandType.ofCode ((get 2 36 payload).extractLsb' 0 15)
  { messageType := .ofCode ((get 1 15 payload).extractLsb' 0 4)
    status := (get 2 16 payload).extractLsb' 11 5
    targetEntityId := get 8 18 payload
    controllerEntityId := get 8 26 payload
    sequenceId := get 2 34 payload
    commandType
    descriptorType := .ofCode (get 2 commandType.descriptorPos payload)
    descriptorIndex := get 2 (commandType.descriptorPos + 2) payload
    readDescriptorType := get 2 AemCommandType.readDescriptor.descriptorPos payload
    readDescriptorIndex := get 2 (AemCommandType.readDescriptor.descriptorPos + 2) payload }

/-- What `state_timeout` reads of a command that is in front of other bytes. -/
structure Decodes (payload : List Byte) (target : EntityId) (commandType : BitVec 16)
    (args : List Byte) : Prop where
  target : (AecpFrame.ofPayload payload).targetEntityId = target
  commandType : (AecpFrame.ofPayload payload).commandType.code =
    (commandType.extractLsb' 0 15).setWidth 16
  readDescriptorType : (AecpFrame.ofPayload payload).readDescriptorType = get 2 4 args
  readDescriptorIndex : (AecpFrame.ofPayload payload).readDescriptorIndex = get 2 6 args

theorem decodes_command (eth : EtherHdr) (cmd : AecpCommand) (rest : List Byte) :
    Decodes (writeFields eth.fields ++ cmd.write ++ rest) cmd.header.targetEntityId
      cmd.commandType (writeFields cmd.args ++ rest) := by
  have hpayload : writeFields eth.fields ++ cmd.write ++ rest =
      writeFields (eth.fields ++ cmd.header.fields ++ cmd.body) ++ rest := by
    rw [AecpCommand.write, writeFields_append, writeFields_append, List.append_assoc _ _ rest,
      List.append_assoc, List.append_assoc, List.append_assoc]
  have hargs : writeFields (eth.fields ++ cmd.header.fields ++ cmd.body) ++ rest =
      writeFields (eth.fields ++ cmd.header.fields ++ cmd.body.take 3) ++
        (writeFields cmd.args ++ rest) := by
    rw [← List.append_assoc, ← writeFields_append]
    rfl
  have hlen : (writeFields (eth.fields ++ cmd.header.fields ++ cmd.body.take 3)).length = 38 :=
    writeFields_length _
  have hread : ∀ n, get 2 (38 + n) (writeFields eth.fields ++ cmd.write ++ rest) =
      get 2 n (writeFields cmd.args ++ rest) := by
    intro n
    rw [hpayload, hargs, ← hlen, get_append]
  refine ⟨?_, ?_, hread 4, hread 6⟩
  · rw [hpayload]
    exact get_writeFields (eth.fields ++ cmd.header.fields.take 3)
      ⟨8, cmd.header.targetEntityId⟩
      cmd.body rest
  · have hcode : get 2 36 (writeFields eth.fields ++ cmd.write ++ rest) = cmd.commandType := by
      rw [hpayload]
      exact get_writeFields (eth.fields ++ cmd.header.fields ++ cmd.body.take 2)
        ⟨2, cmd.commandType⟩ cmd.args rest
    rw [AecpFrame.ofPayload, hcode]
    exact AemCommandType.code_ofCode _

/-- The command type, the descriptor type and the descriptor index of a command. A command that
is for no descriptor has zeros, as the notifications have. -/
structure Subject where
  commandType : AemCommandType
  descriptorType : BitVec 16 := 0
  descriptorIndex : BitVec 16 := 0

/-- The notification names the station and the command. -/
structure Notification.Names (n : Notification) (es : EndStation) (s : Subject) : Prop where
  entityId : n.entityId = es.entityId
  cmdType : n.cmdType = s.commandType.code
  descType : n.descType = s.descriptorType
  descIndex : n.descIndex = s.descriptorIndex

/-- The response repeats what the command names. -/
structure Subject.EchoedBy (s : Subject) (es : EndStation) (resp : AecpFrame) : Prop where
  target : resp.targetEntityId = es.entityId
  commandType : resp.commandType = s.commandType
  descriptor : s.commandType.layout ≠ [] →
    resp.descriptorType.code = s.descriptorType ∧ resp.descriptorIndex = s.descriptorIndex

def Subject.Echo (subject : Option Subject) (es : EndStation) (resp : AecpFrame) : Prop :=
  resp.isResponse = true ∧ ∀ s, subject = some s → s.EchoedBy es resp

namespace Engine

/-- What a step of the state machine posts. -/
def posted (s s' : Engine φ) : List Notification :=
  (s'.trace.drop s.trace.length).filterMap fun
    | .posted n => some n
    | _ => none

/-- The notifications that the command of a ticket can end with: in any state of the state
machine, by a response that has its sequence id or by its second timeout. -/
inductive EndNotice (t : Ticket AecpFrame) (echo : AecpFrame → Prop) : Notification → Prop where
  | answered {s : Engine AecpFrame} {e : Inflight AecpFrame} {id : Ptr} {resp : AecpFrame}
      {n : Notification} (he : s.inflightCmds.find? (seqIdComp resp.sequenceId) = some e)
      (ht : e.ticket = t) (hr : echo resp) (hn : n ∈ s.posted (s.procResp aecpSpec id resp).1) :
      EndNotice t echo n
  | timedOut {s : Engine AecpFrame} {e : Inflight AecpFrame} {now : Timestamp} {i : Nat}
      {n : Notification} (he : s.inflightCmds[i]? = some e) (ht : e.ticket = t)
      (hto : e.timeout now = true) (hr : e.retried = true)
      (hn : n ∈ s.posted (s.tickAt aecpSpec now i)) : EndNotice t echo n

open AecpControllerStateMachine

theorem posted_answered {s : Engine AecpFrame} {e : Inflight AecpFrame} {resp : AecpFrame}
    (he : s.inflightCmds.find? (seqIdComp resp.sequenceId) = some e)
    (hflag : e.cmdNotificationFlag = .cmdWithNotification) (hr : resp.isResponse = true)
    (id : Ptr) : s.posted (s.procResp aecpSpec id resp).1 =
      [responseReceived e.cmdNotificationId resp] := by
  have hcall : callback e.cmdNotificationId e.cmdNotificationFlag resp =
      [responseReceived e.cmdNotificationId resp] := by rw [callback, if_pos ⟨hflag, hr⟩]
  have hposts : aecpSpec.posts e.cmdNotificationId e.cmdNotificationFlag resp =
      [.posted (responseReceived e.cmdNotificationId resp)] := congrArg _ hcall
  rw [procResp_of_some (p := aecpSpec) he, hposts, posted, log_trace, List.drop_left]
  rfl

theorem posted_timedOut {s : Engine AecpFrame} {e : Inflight AecpFrame}
    {now : Timestamp} {i : Nat}
    (he : s.inflightCmds[i]? = some e) (hto : e.timeout now = true) (hr : e.retried = true) :
    s.posted (s.tickAt aecpSpec now i) = [commandTimeout e.cmdFrame e.cmdNotificationId] := by
  have hv := tickAt_visit aecpSpec now s i
  generalize s.tickAt aecpSpec now i = s' at hv ⊢
  cases hv with
  | absent h =>
    rw [he] at h
    cases h
  | waits h ht =>
    rw [he] at h
    cases h
    rw [hto] at ht
    cases ht
  | resends h ht hr' =>
    rw [he] at h
    cases h
    rw [hr] at hr'
    cases hr'
  | drops h =>
    rw [he] at h
    cases h
    rw [posted, log_trace, List.drop_left]
    rfl

/-- A command that is sent with a notification ends with that of a response or that of its
timeout, and either can come. -/
theorem endNotice_iff {t : Ticket AecpFrame} {echo : AecpFrame → Prop} {P : Notification → Prop}
    (hflag : t.notificationFlag = .cmdWithNotification)
    (hresp : ∀ resp, echo resp → resp.isResponse = true)
    (hseq : ∀ resp q, echo resp → echo { resp with sequenceId := q }) :
    (∀ n, EndNotice t echo n → P n) ↔
      (∀ resp, echo resp → P (responseReceived t.notificationId resp)) ∧
        P (commandTimeout t.frame t.notificationId) := by
  let e : Inflight AecpFrame :=
    ⟨t.frame, t.notificationFlag, ⟨true, true, 0, 0⟩, 0, 2, t.seqId, t.notificationId, t.birth⟩
  let s : Engine AecpFrame := { Engine.new with inflightCmds := [e] }
  constructor
  · intro h
    refine ⟨?_, ?_⟩
    · intro resp hr
      have he : s.inflightCmds.find? (seqIdComp t.seqId) = some e := by
        show [e].find? (seqIdComp e.cmdSeqId) = some e
        rw [List.find?_singleton, seqIdComp, beq_self_eq_true]
        rfl
      have hr' := hseq resp t.seqId hr
      have hn := @posted_answered s e { resp with sequenceId := t.seqId } he hflag
        (hresp _ hr') 0
      have hmem := hn ▸ List.mem_singleton_self (responseReceived e.cmdNotificationId _)
      exact h _ (.answered he rfl hr' hmem)
    · have hn := @posted_timedOut s e 0 0 rfl rfl rfl
      have hmem := hn ▸ List.mem_singleton_self (commandTimeout e.cmdFrame e.cmdNotificationId)
      exact h _ (.timedOut (s := s) (e := e) (i := 0) rfl rfl rfl rfl hmem)
  · rintro ⟨hanswered, htimedOut⟩ n hn
    cases hn with
    | answered he ht hr hn =>
      subst ht
      rw [posted_answered he hflag (hresp _ hr), List.mem_singleton] at hn
      rw [hn]
      exact hanswered _ hr
    | timedOut he ht hto hr hn =>
      subst ht
      rw [posted_timedOut he hto hr, List.mem_singleton] at hn
      rw [hn]
      exact htimedOut

end Engine

/-- The senders that hand a command to `system_queue_tx`: those of `SendCmd` and
`send_identify`. -/
inductive NotifiedCmd where
  | send (cmd : SendCmd)
  | identify (identifyControlIndex : BitVec 16) (turnOn : Bool)

/-- A command for a descriptor object. -/
def Subject.ofObj (commandType : AemCommandType) (obj : AemDesc) : Subject :=
  ⟨commandType, obj.descriptorType.code, obj.descriptorIndex⟩

/-- What the command in the frame of a sender names. An address access has no command type. -/
def SendCmd.subject : SendCmd → Option Subject
  | controllerAvail _ _ => some { commandType := .controllerAvailable }
  | readDesc _ t i => some ⟨.readDescriptor, t.code, i⟩
  | entityAvail => some { commandType := .entityAvailable }
  | addressAccess _ _ _ _ => none
  | acquireEntity e _ => some (.ofObj .acquireEntity e.desc)
  | lockEntity e _ => some (.ofObj .lockEntity e.desc)
  | reboot e => some (.ofObj .reboot e.desc)
  | inputSetStreamFormat obj _ => some (.ofObj .setStreamFormat obj)
  | inputGetStreamFormat obj | outputGetStreamFormat obj => some (.ofObj .getStreamFormat obj)
  -- the command type that this sender puts into its frame
  | outputSetStreamFormat obj _ => some (.ofObj .getStreamFormat obj)
  | outputSetStreamInfoVlanId obj _ => some (.ofObj .setStreamInfo obj)
  | inputGetStreamInfo obj | outputGetStreamInfo obj => some (.ofObj .getStreamInfo obj)
  | inputStartStreaming obj | outputStartStreaming obj => some (.ofObj .startStreaming obj)
  | inputStopStreaming obj | outputStopStreaming obj => some (.ofObj .stopStreaming obj)
  | setSamplingRate obj _ => some (.ofObj .setSamplingRate obj)
  | getSamplingRate obj => some (.ofObj .getSamplingRate obj)
  | setClockSource obj _ => some (.ofObj .setClockSource obj)
  | getClockSource obj => some (.ofObj .getClockSource obj)
  | startOperation obj _ => some (.ofObj .startOperation obj)

namespace NotifiedCmd

def queue (macAddr : Mac) (locals : Locals) (es : EndStation) (nid : Ptr) :
    NotifiedCmd → Except SendStop QueuedFrame
  | send cmd => cmd.send macAddr locals es nid
  | identify i turnOn => es.sendIdentify macAddr locals nid i turnOn

def station (es : EndStation) : NotifiedCmd → Option EndStation
  | send cmd => cmd.station es
  | identify _ _ => some es

def subject : NotifiedCmd → Option Subject
  | send cmd => cmd.subject
  | identify i _ => some ⟨.setControl, DescType.control.code, i⟩

end NotifiedCmd

/-- The object has this type and this index. -/
def AemDesc.Has (obj : AemDesc) (t i : BitVec 16) : Prop :=
  obj.descriptorType.code = t ∧ obj.descriptorIndex = i

theorem AemDesc.has_congr (obj : AemDesc) {t t' i i' : BitVec 16} (ht : t = t') (hi : i = i') :
    obj.Has t i ↔ obj.Has t' i' := by rw [ht, hi]

/-- The commands whose notifications name them. `rest` is what the stored payload holds behind
the frame, which is in front of the entity id for CONTROLLER_AVAILABLE. A timeout reads the
descriptor where READ_DESCRIPTOR has it, and a response to a command that `callback` does not
list has none. -/
def SendCmd.Noticed (es : EndStation) (rest : List Byte) : SendCmd → Prop
  | readDesc _ _ _ | acquireEntity _ _ | lockEntity _ _ => True
  | addressAccess _ _ _ _ | startOperation _ _ | outputSetStreamInfoVlanId _ _ => False
  | controllerAvail _ _ =>
    get 8 1 rest = es.entityId ∧ (get 2 19 rest).extractLsb' 0 15 = 3 ∧
      get 2 25 rest = 0 ∧ get 2 27 rest = 0
  | entityAvail => get 2 4 rest = 0 ∧ get 2 6 rest = 0
  | reboot e => e.desc.Has (get 2 0 rest) (get 2 2 rest)
  | inputGetStreamFormat obj | outputGetStreamFormat obj | outputSetStreamFormat obj _
  | inputGetStreamInfo obj | outputGetStreamInfo obj
  | inputStartStreaming obj | outputStartStreaming obj
  | inputStopStreaming obj | outputStopStreaming obj
  | getSamplingRate obj | getClockSource obj => obj.Has (get 2 0 rest) (get 2 2 rest)
  | inputSetStreamFormat obj format => obj.Has (format.extractLsb' 48 16)
      (format.extractLsb' 32 16)
  | setSamplingRate obj rate => obj.Has (rate.extractLsb' 16 16) (rate.extractLsb' 0 16)
  | setClockSource obj i => obj.Has i 0

def NotifiedCmd.Noticed (es : EndStation) (rest : List Byte) : NotifiedCmd → Prop
  | send cmd => cmd.Noticed es rest
  | identify _ _ => False

section
open Engine AecpControllerStateMachine
variable {macAddr : Mac} {locals : Locals} {es : EndStation} {nid : Ptr} {q : QueuedFrame}
  {payload rest : List Byte} {s : Subject}

/-- The ticket of a command that `tx_packet_event` copies to the start of its `packet_frame`,
which it does not clear, and sends. `rest` is what is behind. -/
def QueuedFrame.ticket (now : Timestamp) (m : Engine AecpFrame) (q : QueuedFrame)
    (rest : List Byte) : Ticket AecpFrame :=
  (m.sentEntry aecpSpec now q.notificationId q.notificationFlag
    (.ofPayload (q.frame ++ rest))).ticket

/-- Every notification that the command can end with names its station and what it names. -/
def Named (subject : Option Subject) (es : EndStation) (t : Ticket AecpFrame) : Prop :=
  ∀ n, EndNotice t (Subject.Echo subject es) n → ∃ s, subject = some s ∧ n.Names es s

theorem Subject.echo_sequenceId {subject : Option Subject} (h : Echo subject es resp)
    (seqId : BitVec 16) : Echo subject es { resp with sequenceId := seqId } :=
  ⟨h.1, fun s hs => ⟨(h.2 s hs).target, (h.2 s hs).commandType, (h.2 s hs).descriptor⟩⟩

theorem Subject.exists_echo (s : Subject) (es : EndStation) :
    ∃ resp, Echo (some s) es resp := by
  let resp : AecpFrame := {
    messageType := .aemResponse
    targetEntityId := es.entityId
    controllerEntityId := 0
    commandType := s.commandType
    descriptorType := .ofCode s.descriptorType
    descriptorIndex := s.descriptorIndex }
  refine ⟨resp, rfl, ?_⟩
  rintro s' hs
  cases hs
  exact ⟨rfl, rfl, fun _ => ⟨DescType.code_ofCode _, rfl⟩⟩

theorem named_iff {t : Ticket AecpFrame} (hflag : t.notificationFlag = .cmdWithNotification) :
    Named (some s) es t ↔
      (∀ resp, Subject.Echo (some s) es resp →
        (responseReceived t.notificationId resp).Names es s) ∧
      (commandTimeout t.frame t.notificationId).Names es s := by
  have h : Named (some s) es t ↔
      ∀ n, EndNotice t (Subject.Echo (some s) es) n → n.Names es s := by
    constructor
    · intro h n hn
      obtain ⟨s', hs, hn⟩ := h n hn
      cases hs
      exact hn
    · intro h n hn
      exact ⟨s, rfl, h n hn⟩
  rw [h]
  exact endNotice_iff hflag (fun _ h => h.1) fun _ q h => Subject.echo_sequenceId h q

/-- The command types that the switch of `callback` lists with a descriptor. -/
def AemCommandType.listed : AemCommandType → Bool
  | .acquireEntity | .lockEntity | .readDescriptor | .setStreamFormat | .getStreamFormat
  | .setStreamInfo | .getStreamInfo | .setName | .getName | .setSamplingRate | .getSamplingRate
  | .setClockSource | .getClockSource | .startStreaming | .stopStreaming => true
  | _ => false

theorem callbackDescriptor_of_listed {f : AecpFrame} (hf : f.commandType.listed = true) :
    f.callbackDescriptor = (f.descriptorType.code, f.descriptorIndex) := by
  unfold AecpFrame.callbackDescriptor
  generalize f.commandType = c at hf ⊢
  cases c <;> first | rfl | cases hf

theorem callbackDescriptor_of_unlisted {f : AecpFrame} (hf : f.commandType.listed = false) :
    f.callbackDescriptor = (0, 0) := by
  unfold AecpFrame.callbackDescriptor
  generalize f.commandType = c at hf ⊢
  cases c <;> first | rfl | cases hf

theorem names_of_listed (hc : s.commandType.listed = true)
    (hl : s.commandType.layout ≠ []) (id : Ptr) (resp : AecpFrame)
    (h : Subject.Echo (some s) es resp) : (responseReceived id resp).Names es s := by
  have he := h.2 s rfl
  obtain ⟨htype, hindex⟩ := he.descriptor hl
  have hd := callbackDescriptor_of_listed (f := resp) (by rw [he.commandType, hc])
  refine ⟨he.target, congrArg AemCommandType.code he.commandType, ?_, ?_⟩
  · rw [responseReceived, hd]
    exact htype
  · rw [responseReceived, hd]
    exact hindex

theorem names_of_unlisted
    (hc : s.commandType.listed = false)
    (id : Ptr) :
    (∀ resp, Subject.Echo (some s) es resp → (responseReceived id resp).Names es s) ↔
      s.descriptorType = 0 ∧ s.descriptorIndex = 0 := by
  constructor
  · intro h
    obtain ⟨resp, hr⟩ := s.exists_echo es
    have hn := h resp hr
    have hd := callbackDescriptor_of_unlisted (f := resp) (by rw [(hr.2 s rfl).commandType, hc])
    have htype := hn.descType
    have hindex := hn.descIndex
    rw [responseReceived, hd] at htype hindex
    exact ⟨htype.symm, hindex.symm⟩
  · rintro ⟨htype, hindex⟩ resp hr
    have he := hr.2 s rfl
    have hd := callbackDescriptor_of_unlisted (f := resp) (by rw [he.commandType, hc])
    refine ⟨he.target, congrArg AemCommandType.code he.commandType, ?_, ?_⟩
    · rw [responseReceived, hd, htype]
    · rw [responseReceived, hd, hindex]

theorem names_commandTimeout_iff {c : BitVec 16} {args : List Byte}
    (hd : Decodes payload es.entityId c args)
    (hc : (c.extractLsb' 0 15).setWidth 16 = s.commandType.code)
    (seqId : BitVec 16) (id : Ptr) :
    (commandTimeout { AecpFrame.ofPayload payload with sequenceId := seqId } id).Names es s ↔
      s.descriptorType = get 2 4 args ∧ s.descriptorIndex = get 2 6 args := by
  constructor
  · intro h
    exact ⟨h.descType.symm.trans hd.readDescriptorType,
      h.descIndex.symm.trans hd.readDescriptorIndex⟩
  · rintro ⟨htype, hindex⟩
    exact ⟨hd.target, hd.commandType.trans hc, hd.readDescriptorType.trans htype.symm,
      hd.readDescriptorIndex.trans hindex.symm⟩

theorem decodes_of_sendAemCmd {c : AemCommandType} {cmd : AecpCommand}
    (h : sendAemCmd macAddr locals stop es nid flag cmd c.commandLen cdLen = .ok q)
    (hw : cmd.args.map Field.width = c.layout) (rest : List Byte) :
    Decodes (q.frame ++ rest) es.entityId cmd.commandType (writeFields cmd.args ++ rest) := by
  rw [full_frame_of_sendAemCmd h hw]
  exact decodes_command _ (cmd.setHeader _) rest

theorem AemCommandType.code_low (c : AemCommandType) :
    (c.code.extractLsb' 0 15).setWidth 16 = c.code := by
  cases c with
  | other c =>
    apply BitVec.eq_of_toNat_eq
    have hlt : c.toNat < 2 ^ 15 := c.isLt
    rw [code, BitVec.toNat_setWidth, BitVec.extractLsb'_toNat, BitVec.toNat_setWidth,
      Nat.shiftRight_zero]
    omega
  | _ => rfl

/-- A command that `callback` lists is named if its descriptor is also where READ_DESCRIPTOR has
it. -/
theorem named_iff_of_listed {args : List Byte} {now : Timestamp} {m : Engine AecpFrame}
    (hc : s.commandType.listed = true)
    (hl : s.commandType.layout ≠ []) (hflag : q.notificationFlag = .cmdWithNotification)
    (hd : Decodes (q.frame ++ rest) es.entityId s.commandType.code args) :
    Named (some s) es (q.ticket now m rest) ↔
      s.descriptorType = get 2 4 args ∧ s.descriptorIndex = get 2 6 args := by
  rw [named_iff hflag]
  have htimeout : (commandTimeout (q.ticket now m rest).frame
      (q.ticket now m rest).notificationId).Names es s ↔ _ :=
    names_commandTimeout_iff hd s.commandType.code_low _ _
  rw [htimeout]
  constructor
  · rintro ⟨-, h⟩
    exact h
  · intro h
    exact ⟨names_of_listed hc hl _, h⟩

theorem named_iff_of_unlisted {now : Timestamp} {m : Engine AecpFrame}
    (hc : s.commandType.listed = false)
    (hflag : q.notificationFlag = .cmdWithNotification) :
    Named (some s) es (q.ticket now m rest) ↔
      (s.descriptorType = 0 ∧ s.descriptorIndex = 0) ∧
        (commandTimeout (q.ticket now m rest).frame q.notificationId).Names es s := by
  rw [named_iff hflag, names_of_unlisted hc]
  rfl

/-- Where READ_DESCRIPTOR has the descriptor there are the four bytes behind one that is in
front. -/
theorem get_behind (t i : BitVec 16) (bs : List Byte) :
    get 2 4 (writeFields [⟨2, t⟩, ⟨2, i⟩] ++ bs) = get 2 0 bs ∧
      get 2 6 (writeFields [⟨2, t⟩, ⟨2, i⟩] ++ bs) = get 2 2 bs := by
  have h := get_append (writeFields [⟨2, t⟩, ⟨2, i⟩]) bs 2
  rw [writeFields_length] at h
  exact ⟨h 0, h 2⟩

theorem named_of_sendDescCmd {args : List Field} {now : Timestamp} {m : Engine AecpFrame}
    (h : sendDescCmd macAddr locals stop c t obj es nid args = .ok q)
    (hw : 2 :: 2 :: args.map Field.width = c.layout)
    (hc : c.listed = true)
    (hflag : q.notificationFlag = .cmdWithNotification) :
    Named (some (.ofObj c obj)) es (q.ticket now m rest) ↔
      obj.Has (get 2 0 (writeFields args ++ rest)) (get 2 2 (writeFields args ++ rest)) := by
  have hd := decodes_of_sendAemCmd (sendDescCmd_eq_ok h).2 hw rest
  have hl : c.layout ≠ [] := by
    rw [← hw]
    exact List.cons_ne_nil _ _
  have hargs : writeFields (aemCmd macAddr c (SendCmd.objFields obj ++ args)).args ++ rest =
      writeFields [⟨2, obj.descriptorType.code⟩, ⟨2, obj.descriptorIndex⟩] ++
        (writeFields args ++ rest) := by
    rw [← List.append_assoc, ← writeFields_append]
    rfl
  rw [hargs] at hd
  rw [named_iff_of_listed (s := .ofObj c obj) hc hl hflag hd, (get_behind _ _ _).1,
    (get_behind _ _ _).2]
  rfl

/-- `default_send_acquire_entity_cmd` and `default_send_lock_entity_cmd`. They put four bytes of
flags and eight of an entity id in front of the descriptor, which is where READ_DESCRIPTOR has
its own only for the entity. -/
theorem named_of_flagsCmd {flag : BitVec 32} {now : Timestamp} {m : Engine AecpFrame}
    (hcmd : ∀ t i, (cmd t i).args = [⟨4, flag⟩, ⟨8, 0#64⟩, ⟨2, t⟩, ⟨2, i⟩])
    (hcode : ∀ t i, (cmd t i).commandType = c.code) (hw : [4, 8, 2, 2] = c.layout)
    (h : EntityDescriptor.defaultSendCmd macAddr locals e es nid c cmd = .ok q)
    (hc : c.listed = true)
    (hflag : q.notificationFlag = .cmdWithNotification) :
    Named (some (.ofObj c e.desc)) es (q.ticket now m rest) := by
  obtain ⟨h, htype, hindex⟩ := defaultSendCmd_eq_ok h
  have hd := decodes_of_sendAemCmd h (by rw [hcmd, ← hw]; rfl) rest
  have hl : c.layout ≠ [] := by
    rw [← hw]
    exact List.cons_ne_nil _ _
  rw [hcode] at hd
  refine (named_iff_of_listed (s := .ofObj c e.desc) hc hl hflag hd).2 ?_
  have hread : ∀ n, get 2 (4 + n) (writeFields (cmd e.desc.descriptorType.code
      e.desc.descriptorIndex).args ++ rest) = get 2 n (writeFields
        [⟨8, 0#64⟩, ⟨2, e.desc.descriptorType.code⟩, ⟨2, e.desc.descriptorIndex⟩] ++ rest) := by
    intro n
    have h := get_append (writeFields [⟨4, flag⟩]) (writeFields
      [⟨8, 0#64⟩, ⟨2, e.desc.descriptorType.code⟩, ⟨2, e.desc.descriptorIndex⟩] ++ rest) 2 n
    rw [writeFields_length, ← List.append_assoc, ← writeFields_append] at h
    rw [hcmd]
    exact h
  constructor
  · have hzero : e.desc.descriptorType.code = 0 := congrArg DescType.code htype
    have hid := get_part 0 2 6 (0#64)
      [⟨2, e.desc.descriptorType.code⟩, ⟨2, e.desc.descriptorIndex⟩] rest
    exact hzero.trans (hid.symm.trans (hread 0).symm)
  · have hid := get_part 2 2 4 (0#64)
      [⟨2, e.desc.descriptorType.code⟩, ⟨2, e.desc.descriptorIndex⟩] rest
    exact hindex.trans (hid.symm.trans (hread 2).symm)

/-- `memory_object_descriptor_imp::start_operation_cmd` and the other senders for an object that
is not the entity, where `callback` has no descriptor. -/
theorem not_named_of_unlisted {now : Timestamp} {m : Engine AecpFrame}
    (hc : s.commandType.listed = false)
    (hs : s.descriptorType ≠ 0) (hflag : q.notificationFlag = .cmdWithNotification) :
    ¬ Named (some s) es (q.ticket now m rest) := by
  rw [named_iff_of_unlisted hc hflag]
  rintro ⟨⟨htype, -⟩, -⟩
  exact hs htype

theorem not_named_none {now : Timestamp} {m : Engine AecpFrame}
    (hflag : q.notificationFlag = .cmdWithNotification) :
    ¬ Named none es (q.ticket now m rest) := by
  intro h
  have hseq : ∀ resp q, Subject.Echo none es resp →
      Subject.Echo none es { resp with sequenceId := q } :=
        fun _ q h => Subject.echo_sequenceId h q
  have hall := (endNotice_iff (t := q.ticket now m rest) hflag (fun _ h => h.1) hseq).1 h
  obtain ⟨s, hs, -⟩ := hall.2
  cases hs

/-- `stream_output_descriptor_imp::send_set_stream_format_cmd` does not send the format. -/
theorem decodes_of_outputSetStreamFormat
    (h : StreamOutputDescriptor.sendSetStreamFormatCmd macAddr locals obj es nid format = .ok q)
    (rest : List Byte) :
    Decodes (q.frame ++ rest) es.entityId AemCommandType.getStreamFormat.code
      (writeFields (SendCmd.objFields obj) ++ rest) := by
  obtain ⟨type, ht, h⟩ := Outcome.bind_eq_ok.1 h
  unfold objDescriptorType at ht
  split at ht
  · cases ht
    let cmd := (aemCmd macAddr .getStreamFormat (SendCmd.objFields obj)).setHeader
      (commonHdr .aemCommand es.entityId
        (AemCommandType.setStreamFormat.commandLen - commonControlHeaderLen))
    have hframe : q.frame = writeFields (etherHdr macAddr es.mac).fields ++ cmd.write := by
      rw [frame_of_sendAemCmd h]
      · show (_ ++ AecpCommand.write { cmd with args := cmd.args ++ [⟨8, format⟩] }).take _ = _
        rw [AecpCommand.write_args, ← List.append_assoc]
        apply List.take_left'
        rw [List.length_append, EtherHdr.fields_length, AecpCommand.write_length]
        rfl
      · rw [AecpCommand.write_length]
        exact Nat.le_of_ble_eq_true rfl
      · decide
    rw [hframe]
    exact decodes_command _ cmd rest
  · cases ht

/-- `send_controller_avail_cmd` sends 17 bytes. What is behind them decides the entity id, the
command type and the descriptor. -/
theorem named_of_controllerAvail {vec : List EndStation} {now : Timestamp}
    {m : Engine AecpFrame}
    (h : sendControllerAvailCmd macAddr locals vec nid i = .ok q)
    (hflag : q.notificationFlag = .cmdWithNotification) :
    Named (some { commandType := .controllerAvailable }) es (q.ticket now m rest) ↔
      get 8 1 rest = es.entityId ∧ (get 2 19 rest).extractLsb' 0 15 = 3 ∧
        get 2 25 rest = 0 ∧ get 2 27 rest = 0 := by
  rw [named_iff_of_unlisted rfl hflag]
  have hread : ∀ w n, get w (17 + n) (q.frame ++ rest) = get w n rest := by
    intro w n
    rw [← length_of_sendControllerAvailCmd h, get_append]
  have htarget : (AecpFrame.ofPayload (q.frame ++ rest)).targetEntityId =
    get 8 1 rest := hread 8 1
  have hcode : (AecpFrame.ofPayload (q.frame ++ rest)).commandType.code =
      ((get 2 19 rest).extractLsb' 0 15).setWidth 16 := by
    rw [← hread 2 19]
    exact AemCommandType.code_ofCode _
  have htype : (AecpFrame.ofPayload (q.frame ++ rest)).readDescriptorType = get 2 25 rest :=
    hread 2 25
  have hindex : (AecpFrame.ofPayload (q.frame ++ rest)).readDescriptorIndex = get 2 27 rest :=
    hread 2 27
  constructor
  · rintro ⟨-, h⟩
    have hc : ((get 2 19 rest).extractLsb' 0 15).setWidth 16 = 3#16 :=
      hcode.symm.trans h.cmdType
    refine ⟨htarget.symm.trans h.entityId, ?_, htype.symm.trans h.descType,
      hindex.symm.trans h.descIndex⟩
    have hc' := congrArg (BitVec.setWidth 15) hc
    rwa [BitVec.setWidth_setWidth_of_le _ (by decide), BitVec.setWidth_eq] at hc'
  · rintro ⟨ht, hc, htype', hindex'⟩
    refine ⟨⟨rfl, rfl⟩, htarget.trans ht, ?_, htype.trans htype', hindex.trans hindex'⟩
    exact hcode.trans (congrArg (BitVec.setWidth 16) hc)

theorem named_iff_of_unlisted_decodes {args : List Byte} {now : Timestamp}
    {m : Engine AecpFrame}
    (hc : s.commandType.listed = false)
    (hs : s.descriptorType = 0 ∧ s.descriptorIndex = 0)
    (hflag : q.notificationFlag = .cmdWithNotification)
    (hd : Decodes (q.frame ++ rest) es.entityId s.commandType.code args) :
    Named (some s) es (q.ticket now m rest) ↔
      s.descriptorType = get 2 4 args ∧ s.descriptorIndex = get 2 6 args := by
  rw [named_iff_of_unlisted hc hflag]
  have htimeout :
    (commandTimeout (q.ticket now m rest).frame q.notificationId).Names es s ↔ _ :=
    names_commandTimeout_iff hd s.commandType.code_low _ _
  rw [htimeout]
  constructor
  · rintro ⟨-, h⟩
    exact h
  · intro h
    exact ⟨hs, h⟩

/-- The notifications of a command that is sent with a notification name its station, its
command type and its descriptor exactly for the commands of `Noticed`. -/
theorem notices_named_iff (cmd : NotifiedCmd) (now : Timestamp) (m : Engine AecpFrame)
    (rest : List Byte) (hs : cmd.station es = some es')
    (h : cmd.queue macAddr locals es nid = .ok q)
    (hflag : q.notificationFlag = .cmdWithNotification) :
    Named cmd.subject es' (q.ticket now m rest) ↔ cmd.Noticed es' rest := by
  cases cmd with
  | identify i turnOn =>
    have htype : DescType.control.code ≠ 0 := by decide
    exact iff_of_false (not_named_of_unlisted rfl htype hflag) id
  | send cmd =>
    cases cmd with
    | controllerAvail vec i => exact named_of_controllerAvail h hflag
    | readDesc flag t i =>
      cases hs
      have hd := decodes_of_sendAemCmd (queueReadDescCmdWithFlag_eq_ok h) rfl rest
      have htype : get 2 4 _ = t.code :=
        get_writeFields [⟨2, SendCmd.readConfiguration es t⟩, ⟨2, 0#16⟩]
          ⟨2, t.code⟩ [⟨2, i⟩] rest
      have hindex : get 2 6 _ = i :=
        get_writeFields [⟨2, SendCmd.readConfiguration es t⟩, ⟨2, 0#16⟩, ⟨2, t.code⟩]
          ⟨2, i⟩ [] rest
      exact iff_of_true ((named_iff_of_listed (s := ⟨.readDescriptor, t.code, i⟩) rfl
        (List.cons_ne_nil _ _) hflag hd).2 ⟨htype.symm, hindex.symm⟩) trivial
    | entityAvail =>
      cases hs
      have hd := decodes_of_sendAemCmd (c := .entityAvailable) h rfl rest
      exact (named_iff_of_unlisted_decodes (s := { commandType := .entityAvailable })
        rfl ⟨rfl, rfl⟩
        hflag hd).trans (and_congr eq_comm eq_comm)
    | addressAccess mode length address data => exact iff_of_false (not_named_none hflag) id
    | acquireEntity e flag =>
      cases hs
      exact iff_of_true (named_of_flagsCmd (fun _ _ => rfl) (fun _ _ => rfl) rfl h rfl
        hflag) trivial
    | lockEntity e flag =>
      cases hs
      exact iff_of_true (named_of_flagsCmd (fun _ _ => rfl) (fun _ _ => rfl) rfl h rfl
        hflag) trivial
    | reboot e =>
      cases hs
      obtain ⟨h, htype, hindex⟩ := defaultSendCmd_eq_ok h
      have hd := decodes_of_sendAemCmd h rfl rest
      have hzero : e.desc.descriptorType.code = 0 := congrArg DescType.code htype
      have hb := get_behind e.desc.descriptorType.code e.desc.descriptorIndex rest
      refine (named_iff_of_unlisted_decodes (s := .ofObj .reboot e.desc) rfl
        ⟨hzero, hindex⟩ hflag
        hd).trans ?_
      exact e.desc.has_congr hb.1 hb.2
    | inputSetStreamFormat obj format =>
      cases hs
      have hhigh : get 2 0 _ = format.extractLsb' 48 16 := get_part 0 2 6 format [] rest
      have hlow : get 2 2 _ = format.extractLsb' 32 16 := get_part 2 2 4 format [] rest
      refine (named_of_sendDescCmd h rfl rfl hflag).trans ?_
      exact obj.has_congr hhigh hlow
    | inputGetStreamFormat obj | outputGetStreamFormat obj
    | inputGetStreamInfo obj | outputGetStreamInfo obj
    | inputStartStreaming obj | outputStartStreaming obj
    | inputStopStreaming obj | outputStopStreaming obj
    | getSamplingRate obj | getClockSource obj =>
      cases hs
      exact named_of_sendDescCmd h rfl rfl hflag
    | outputSetStreamFormat obj format =>
      cases hs
      have hd := decodes_of_outputSetStreamFormat h rest
      have hb := get_behind obj.descriptorType.code obj.descriptorIndex rest
      refine (named_iff_of_listed (s := .ofObj .getStreamFormat obj) rfl
        (List.cons_ne_nil _ _) hflag
        hd).trans ?_
      exact obj.has_congr hb.1 hb.2
    | outputSetStreamInfoVlanId obj vlanId =>
      cases hs
      have hflags := fun fs => get_part 0 2 2 (0x02000000#32) fs rest
      have htype := congrArg DescType.code (sendDescCmd_eq_ok h).1
      refine (named_of_sendDescCmd h rfl rfl hflag).trans (iff_of_false ?_ id)
      rintro ⟨ht, -⟩
      exact absurd (htype.symm.trans (ht.trans (hflags _))) (by decide)
    | setSamplingRate obj rate =>
      cases hs
      have hhigh : get 2 0 _ = rate.extractLsb' 16 16 := get_part 0 2 2 rate [] rest
      have hlow : get 2 2 _ = rate.extractLsb' 0 16 := get_part 2 2 0 rate [] rest
      refine (named_of_sendDescCmd h rfl rfl hflag).trans ?_
      exact obj.has_congr hhigh hlow
    | setClockSource obj i =>
      cases hs
      have hi : get 2 0 _ = i := get_writeFields [] ⟨2, i⟩ [⟨2, 0#16⟩] rest
      have hz : get 2 2 _ = 0 := get_writeFields [⟨2, i⟩] ⟨2, 0#16⟩ [] rest
      refine (named_of_sendDescCmd h rfl rfl hflag).trans ?_
      exact obj.has_congr hi hz
    | startOperation obj type =>
      cases hs
      simp only [NotifiedCmd.queue, SendCmd.send, MemoryObjectDescriptor.startOperationCmd] at h
      split at h
      · cases h
      · have htype := congrArg DescType.code (sendDescCmd_eq_ok h).1
        have hne : obj.descriptorType.code ≠ 0 := by
          rw [htype]
          decide
        exact iff_of_false (not_named_of_unlisted rfl hne hflag) id

def clockDomain₁ : AemDesc := { descriptorType := .clockDomain, descriptorIndex := 1 }

def filledLocals : Locals := ⟨List.replicate 86 0xa5, .zero, 9⟩

/-- The state machine when another command was sent. -/
def sentBefore : Engine AecpFrame :=
  Engine.new.stateSendCmd aecpSpec 0 4 .cmdWithNotification (.ofPayload [1, 2, 3])

/-- GET_CLOCK_SOURCE of CLOCK_DOMAIN 1. Its timeout names the descriptor if the bytes behind the
frame happen to repeat it. -/
theorem notices_named_iff_getClockSource :
    ∃ q, (NotifiedCmd.send (.getClockSource clockDomain₁)).queue 7 filledLocals
        unreadStation 5 = .ok q ∧
      Named (some (.ofObj .getClockSource clockDomain₁)) unreadStation
        (q.ticket 100 sentBefore [0, 36, 0, 1, 7]) ∧
      ¬ Named (some (.ofObj .getClockSource clockDomain₁)) unreadStation
        (q.ticket 100 sentBefore [0, 36, 0, 2]) := by
  have h : (NotifiedCmd.send (.getClockSource clockDomain₁)).queue 7 filledLocals
      unreadStation 5 = .ok _ := rfl
  refine ⟨_, h, (notices_named_iff _ 100 sentBefore _ rfl h rfl).2 ⟨by decide, by decide⟩, ?_⟩
  intro hnamed
  exact absurd ((notices_named_iff _ 100 sentBefore _ rfl h rfl).1 hnamed).2 (by decide)

/-- SET_SAMPLING_RATE to 48000 on AUDIO_UNIT 0. -/
def setRate : NotifiedCmd :=
  .send (.setSamplingRate { descriptorType := .audioUnit, descriptorIndex := 0 } 48000)

/-- The state machine when the command of the frame was sent and, after 251 ms, resent. -/
def resent (q : QueuedFrame) : Engine AecpFrame :=
  (Engine.new.stateSendCmd aecpSpec 0 q.notificationId q.notificationFlag
    (.ofPayload q.frame)).tick aecpSpec 251

/-- When nobody answers it, the timeout is reported for ENTITY 48000. -/
theorem setRate_not_named :
    ∃ q, setRate.queue 7 clearedLocals unreadStation 1 = .ok q ∧
      posted (resent q) ((resent q).tick aecpSpec 502) =
        [⟨.commandTimeout, 3, AemCommandType.setSamplingRate.code, DescType.entity.code, 48000,
          uintMax, 1⟩] ∧
      ¬ Named setRate.subject unreadStation (q.ticket 0 .new []) := by
  have h : setRate.queue 7 clearedLocals unreadStation 1 = .ok _ := rfl
  refine ⟨_, h, by decide, ?_⟩
  intro hnamed
  have htimeout := ((named_iff rfl).1 hnamed).2
  exact absurd htimeout.descType (by decide)

end

end AvdeccLib
