import AvdeccLib.CommandFrames

namespace AvdeccLib
set_option autoImplicit true
open BigEndian

/-- What `mode_length` and the two halves of the address tell. -/
structure AaTlv where
  mode : BitVec 32
  length : BitVec 32
  address : BitVec 64

def AaTlv.ofFields : List Field → Option AaTlv
  | [⟨2, m⟩, ⟨4, u⟩, ⟨4, l⟩] =>
    some ⟨(m >>> 12).setWidth 32, (m &&& 0xFFF).setWidth 32, u ++ l⟩
  | _ => none

/-- What a sender is to put into its frame: the command it is named for with its arguments. -/
inductive Meaning where
  | aem (c : AemCommandType) (args : List Field)
  | addressAccess (tlv : AaTlv) (data : List Byte)

/-- The calls of the senders that can reach `system_queue_tx`, with their arguments. The other
senders of the classes only log that they are not implemented. -/
inductive SendCmd where
  | controllerAvail (endStationVec : List EndStation) (endStationIndex : BitVec 32)
  | readDesc (notificationFlag : AemCmdWaiting) (descType : DescType) (descIndex : BitVec 16)
  | entityAvail
  | addressAccess (mode length : BitVec 32) (address : BitVec 64) (memoryData : List Byte)
  | acquireEntity (e : EntityDescriptor) (flag : BitVec 32)
  | lockEntity (e : EntityDescriptor) (flag : BitVec 32)
  | reboot (e : EntityDescriptor)
  | inputSetStreamFormat (obj : AemDesc) (newStreamFormat : BitVec 64)
  | inputGetStreamFormat (obj : AemDesc)
  | inputGetStreamInfo (obj : AemDesc)
  | inputStartStreaming (obj : AemDesc)
  | inputStopStreaming (obj : AemDesc)
  | outputSetStreamFormat (obj : AemDesc) (newStreamFormat : BitVec 64)
  | outputGetStreamFormat (obj : AemDesc)
  | outputSetStreamInfoVlanId (obj : AemDesc) (vlanId : BitVec 16)
  | outputGetStreamInfo (obj : AemDesc)
  | outputStartStreaming (obj : AemDesc)
  | outputStopStreaming (obj : AemDesc)
  | setSamplingRate (obj : AemDesc) (newSamplingRate : BitVec 32)
  | getSamplingRate (obj : AemDesc)
  | setClockSource (obj : AemDesc) (newClkSrcIndex : BitVec 16)
  | getClockSource (obj : AemDesc)
  | startOperation (obj : AemDesc) (operationType : BitVec 16)

namespace SendCmd

def send (macAddr : Mac) (locals : Locals) (es : EndStation) (nid : Ptr) :
    SendCmd → Except SendStop QueuedFrame
  | controllerAvail vec i => sendControllerAvailCmd macAddr locals vec nid i
  | readDesc flag t i => es.queueReadDescCmdWithFlag macAddr locals nid flag t i
  | entityAvail => es.sendEntityAvailCmd macAddr locals nid
  | addressAccess mode length address data =>
    es.sendAecpAddressAccessCmd macAddr locals nid mode length address data
  | acquireEntity e flag => e.sendAcquireEntityCmd macAddr locals es nid flag
  | lockEntity e flag => e.sendLockEntityCmd macAddr locals es nid flag
  | reboot e => e.sendRebootCmd macAddr locals es nid
  | inputSetStreamFormat obj format =>
    StreamInputDescriptor.sendSetStreamFormatCmd macAddr locals obj es nid format
  | inputGetStreamFormat obj => StreamInputDescriptor.sendGetStreamFormatCmd macAddr
      locals obj es nid
  | inputGetStreamInfo obj => StreamInputDescriptor.sendGetStreamInfoCmd macAddr
      locals obj es nid
  | inputStartStreaming obj => StreamInputDescriptor.sendStartStreamingCmd macAddr
      locals obj es nid
  | inputStopStreaming obj => StreamInputDescriptor.sendStopStreamingCmd macAddr
      locals obj es nid
  | outputSetStreamFormat obj format =>
    StreamOutputDescriptor.sendSetStreamFormatCmd macAddr locals obj es nid format
  | outputGetStreamFormat obj =>
    StreamOutputDescriptor.sendGetStreamFormatCmd macAddr locals obj es nid
  | outputSetStreamInfoVlanId obj vlanId =>
    StreamOutputDescriptor.sendSetStreamInfoVlanIdCmd macAddr locals obj es nid vlanId
  | outputGetStreamInfo obj => StreamOutputDescriptor.sendGetStreamInfoCmd macAddr
      locals obj es nid
  | outputStartStreaming obj => StreamOutputDescriptor.sendStartStreamingCmd macAddr
      locals obj es nid
  | outputStopStreaming obj => StreamOutputDescriptor.sendStopStreamingCmd macAddr
      locals obj es nid
  | setSamplingRate obj rate => AudioUnitDescriptor.sendSetSamplingRateCmd macAddr locals
      obj es nid rate
  | getSamplingRate obj => AudioUnitDescriptor.sendGetSamplingRateCmd macAddr locals obj es nid
  | setClockSource obj i => ClockDomainDescriptor.sendSetClockSourceCmd macAddr
      locals obj es nid i
  | getClockSource obj => ClockDomainDescriptor.sendGetClockSourceCmd macAddr locals obj es nid
  | startOperation obj type => MemoryObjectDescriptor.startOperationCmd macAddr locals
      obj es nid type

/-- The station whose command it is. -/
def station (es : EndStation) : SendCmd → Option EndStation
  | controllerAvail vec i => vec[i.toNat]?
  | _ => some es

/-- The type and the index of the object that a sender is called on. -/
def objFields (obj : AemDesc) : List Field :=
  [⟨2, obj.descriptorType.code⟩, ⟨2, obj.descriptorIndex⟩]

/-- The configuration that a descriptor is read from. -/
def readConfiguration (es : EndStation) (t : DescType) : BitVec 16 :=
  if t = .entity ∨ t = .configuration then 0
  else (es.entityDescVec.head?.map EntityDescriptor.currentConfiguration).getD 0

def meaning (es : EndStation) : SendCmd → Meaning
  | controllerAvail _ _ => .aem .controllerAvailable []
  | readDesc _ t i =>
    .aem .readDescriptor [⟨2, readConfiguration es t⟩, ⟨2, 0#16⟩, ⟨2, t.code⟩, ⟨2, i⟩]
  | entityAvail => .aem .entityAvailable []
  | addressAccess mode length address data =>
    .addressAccess ⟨mode, length, address⟩ (data.take length.toNat)
  | acquireEntity e flag => .aem .acquireEntity (⟨4, flag⟩ :: ⟨8, 0#64⟩ :: objFields e.desc)
  | lockEntity e flag => .aem .lockEntity (⟨4, flag⟩ :: ⟨8, 0#64⟩ :: objFields e.desc)
  | reboot e => .aem .reboot (objFields e.desc)
  | inputSetStreamFormat obj format | outputSetStreamFormat obj format =>
    .aem .setStreamFormat (objFields obj ++ [⟨8, format⟩])
  | inputGetStreamFormat obj | outputGetStreamFormat obj =>
    .aem .getStreamFormat (objFields obj)
  | outputSetStreamInfoVlanId obj vlanId =>
    .aem .setStreamInfo (objFields obj ++ [⟨4, 0x02000000#32⟩, ⟨8, 0#64⟩, ⟨8, 0#64⟩, ⟨4, 0#32⟩,
      ⟨6, 0#48⟩, ⟨1, 0#8⟩, ⟨1, 0#8⟩, ⟨8, 0#64⟩, ⟨2, vlanId⟩, ⟨2, 0#16⟩])
  | inputGetStreamInfo obj | outputGetStreamInfo obj => .aem .getStreamInfo (objFields obj)
  | inputStartStreaming obj | outputStartStreaming obj => .aem .startStreaming (objFields obj)
  | inputStopStreaming obj | outputStopStreaming obj => .aem .stopStreaming (objFields obj)
  | setSamplingRate obj rate => .aem .setSamplingRate (objFields obj ++ [⟨4, rate⟩])
  | getSamplingRate obj => .aem .getSamplingRate (objFields obj)
  | setClockSource obj i => .aem .setClockSource (objFields obj ++ [⟨2, i⟩, ⟨2, 0#16⟩])
  | getClockSource obj => .aem .getClockSource (objFields obj)
  | startOperation obj type => .aem .startOperation (objFields obj ++ [⟨2, 0#16⟩, ⟨2, type⟩])

end SendCmd

/-- A frame, read as an Ethernet header and a command, that goes to the station and is as long
as its header tells. -/
structure Addressed (macAddr : Mac) (es : EndStation) (t : AecpMessageType) (frame : List Byte)
    (eth : EtherHdr) (cmd : AecpCommand) : Prop where
  dest : eth.destAddress = es.mac
  src : eth.srcAddress = macAddr
  ethertype : eth.ethertype = avtpEthertype
  subtype : cmd.header.subtype = subtypeAecp
  messageType : cmd.header.messageType = t.code
  target : cmd.header.targetEntityId = es.entityId
  controller : cmd.controllerEntityId = getControllerEntityId macAddr
  length : frame.length =
    etherHdrSize + commonControlHeaderLen + cmd.header.controlDataLength.toNat

/-- The frame is a well-formed command with this meaning. -/
def Meaning.Carried (macAddr : Mac) (es : EndStation) (frame : List Byte) : Meaning → Prop
  | .aem c args => ∃ eth cmd, readFrame c.layout frame = some (eth, cmd, []) ∧
      Addressed macAddr es .aemCommand frame eth cmd ∧ cmd.commandType = c.code ∧
        cmd.args = args
  | .addressAccess tlv data => ∃ eth cmd, readFrame [2, 4, 4] frame = some (eth, cmd, data) ∧
      Addressed macAddr es .addressAccessCommand frame eth cmd ∧ cmd.commandType = 1 ∧
      AaTlv.ofFields cmd.args = some tlv

/-- The calls whose frames are right. -/
def SendCmd.Sound : SendCmd → Prop
  | controllerAvail _ _ | outputSetStreamFormat _ _ => False
  | addressAccess mode length _ _ => mode.toNat < 16 ∧ length.toNat ≤ 2025
  | _ => True

section
variable {macAddr : Mac} {locals : Locals} {es : EndStation} {nid : Ptr} {q q' : QueuedFrame}
  {mode length : BitVec 32} {address : BitVec 64} {data frame : List Byte}

theorem AemCommandType.commandLen_le (c : AemCommandType) : c.commandLen ≤ 72 := by
  cases c <;> exact Nat.le_of_ble_eq_true rfl

theorem AemCommandType.aemHeaderLen_le (c : AemCommandType) : 24 ≤ c.commandLen :=
  Nat.le_add_right _ _

theorem addressed_commonHdr {cmd : AecpCommand}
    (hc : cmd.controllerEntityId = getControllerEntityId macAddr)
    (hl : frame.length = etherHdrSize + commonControlHeaderLen + cdLen) (hcd : cdLen < 2048) :
    Addressed macAddr es t frame (etherHdr macAddr es.mac)
      (cmd.setHeader (commonHdr t es.entityId cdLen)) where
  dest := rfl
  src := rfl
  ethertype := rfl
  subtype := rfl
  messageType := rfl
  target := rfl
  controller := hc
  length := by
    have h : (commonHdr t es.entityId cdLen).controlDataLength.toNat = cdLen :=
      Nat.mod_eq_of_lt hcd
    rw [hl, AecpCommand.setHeader, h]

theorem full_frame_of_sendAemCmd
    (h : sendAemCmd macAddr locals stop es nid flag cmd c.commandLen cdLen = .ok q)
    (hw : cmd.args.map Field.width = AemCommandType.layout c) :
    q.frame = writeFields (etherHdr macAddr es.mac).fields ++
      (cmd.setHeader (commonHdr .aemCommand es.entityId
        (cdLen - commonControlHeaderLen))).write := by
  have hle := c.commandLen_le
  have hlen : ∀ hdr, (cmd.setHeader hdr).write.length = c.commandLen := by
    intro hdr
    rw [AecpCommand.write_length, AecpCommand.setHeader, hw]
    rfl
  rw [frame_of_sendAemCmd h (hlen cmd.header).ge (by simp only [etherHdrSize]; omega)]
  apply List.take_of_length_le
  rw [List.length_append, EtherHdr.fields_length, hlen]

theorem carried_of_sendAemCmd (c : AemCommandType) {cmd : AecpCommand}
    (h : sendAemCmd macAddr locals stop es nid flag cmd c.commandLen c.commandLen = .ok q)
    (hw : cmd.args.map Field.width = c.layout) (hcode : cmd.commandType = c.code)
    (hctl : cmd.controllerEntityId = getControllerEntityId macAddr) :
    (Meaning.aem c cmd.args).Carried macAddr es q.frame := by
  have hle := c.commandLen_le
  have hge := c.aemHeaderLen_le
  let cmd' := cmd.setHeader (commonHdr .aemCommand es.entityId
    (c.commandLen - commonControlHeaderLen))
  have hlen' : cmd'.write.length = c.commandLen := by
    rw [AecpCommand.write_length]
    exact congrArg (fun l => aemHeaderLen + l.sum) hw
  have hframe : q.frame = writeFields (etherHdr macAddr es.mac).fields ++ cmd'.write :=
    full_frame_of_sendAemCmd h hw
  have hread : readFrame c.layout q.frame = some (etherHdr macAddr es.mac, cmd', []) := by
    rw [hframe, ← hw, ← List.append_nil cmd'.write]
    exact readFrame_write _ cmd' []
  refine ⟨_, cmd', hread, addressed_commonHdr hctl ?_ ?_, hcode, rfl⟩
  · rw [hframe, List.length_append, EtherHdr.fields_length, hlen']
    simp only [commonControlHeaderLen]
    omega
  · simp only [commonControlHeaderLen]
    omega

theorem toNat_modeLength (mode length : BitVec 32) :
    (((mode <<< 12) ||| (length &&& 0xFFF)).setWidth 16).toNat =
      mode.toNat % 16 * 4096 + length.toNat % 4096 := by
  have hand : (length &&& 0xFFF).toNat = length.toNat % 2 ^ 12 :=
    Nat.and_two_pow_sub_one_eq_mod _ 12
  have hshift : (mode <<< 12).toNat = 2 ^ 12 * (mode.toNat % 2 ^ 20) := by
    rw [BitVec.toNat_shiftLeft, Nat.shiftLeft_eq]
    omega
  have hlt : length.toNat % 2 ^ 12 < 2 ^ 12 := Nat.mod_lt _ (by decide)
  rw [BitVec.toNat_setWidth, BitVec.toNat_or, hand, hshift, ← Nat.two_pow_add_eq_or_of_lt hlt]
  omega

theorem address_halves (address : BitVec 64) :
    ((address >>> 32).setWidth 32 ++ (address &&& 0xFFFFFFFF).setWidth 32 : BitVec 64) =
      address := by
  apply BitVec.eq_of_toNat_eq
  have hand : (address &&& 0xFFFFFFFF).toNat = address.toNat % 2 ^ 32 :=
    Nat.and_two_pow_sub_one_eq_mod _ 32
  have hlt : address.toNat % 2 ^ 32 % 2 ^ 32 < 2 ^ 32 := Nat.mod_lt _ (by decide)
  have hlt' := address.isLt
  rw [BitVec.toNat_append, BitVec.toNat_setWidth, BitVec.toNat_setWidth, hand,
    BitVec.toNat_ushiftRight, Nat.shiftLeft_eq, Nat.shiftRight_eq_div_pow, Nat.mul_comm,
    ← Nat.two_pow_add_eq_or_of_lt hlt]
  omega

/-- Four bits of the mode and twelve of the length reach the frame. -/
theorem ofFields_aaTlv (mode length : BitVec 32) (address : BitVec 64) :
    AaTlv.ofFields (EndStation.aaTlv mode length address) =
      some ⟨BitVec.ofNat 32 (mode.toNat % 16), BitVec.ofNat 32 (length.toNat % 4096),
        address⟩ := by
  have hm := toNat_modeLength mode length
  unfold EndStation.aaTlv
  generalize ((mode <<< 12) ||| (length &&& 0xFFF)).setWidth 16 = m at hm
  have hand : (m &&& 0xFFF).toNat = m.toNat % 2 ^ 12 := Nat.and_two_pow_sub_one_eq_mod _ 12
  have hmode : (m >>> 12).setWidth 32 = BitVec.ofNat 32 (mode.toNat % 16) := by
    apply BitVec.eq_of_toNat_eq
    rw [BitVec.toNat_setWidth, BitVec.toNat_ushiftRight, Nat.shiftRight_eq_div_pow, hm,
      BitVec.toNat_ofNat]
    omega
  have hlength : (m &&& 0xFFF).setWidth 32 = BitVec.ofNat 32 (length.toNat % 4096) := by
    apply BitVec.eq_of_toNat_eq
    rw [BitVec.toNat_setWidth, hand, hm, BitVec.toNat_ofNat]
    omega
  change some (AaTlv.mk ((m >>> 12).setWidth 32) ((m &&& 0xFFF).setWidth 32) _) = _
  rw [address_halves, hmode, hlength]

theorem ofNat_mod_eq_iff (x : BitVec 32) (hn : n ≤ 2 ^ 32) (hpos : 0 < n) :
    BitVec.ofNat 32 (x.toNat % n) = x ↔ x.toNat < n := by
  have hlt : x.toNat % n < n := Nat.mod_lt _ hpos
  rw [← BitVec.toNat_inj, BitVec.toNat_ofNat, Nat.mod_eq_of_lt (hlt.trans_le hn)]
  constructor
  · intro h
    rwa [h] at hlt
  · exact Nat.mod_eq_of_lt

/-- The command in an address access frame. -/
def aaCmd (macAddr : Mac) (es : EndStation) (mode length : BitVec 32) (address : BitVec 64) :
    AecpCommand :=
  AecpCommand.setHeader
    { EndStation.aaHeader macAddr with args := EndStation.aaTlv mode length address }
    (commonHdr .addressAccessCommand es.entityId
      (aecpduAaLen + aecpduAaTlvLen + length.toNat - commonControlHeaderLen))

theorem aaCmd_length : (aaCmd macAddr es mode length address).write.length = 34 := by
  rw [AecpCommand.write_length]
  rfl

theorem AecpCommand.write_args (cmd : AecpCommand) (args : List Field) :
    AecpCommand.write { cmd with args := cmd.args ++ args } = cmd.write ++
      writeFields args := by
  have hbody : AecpCommand.body { cmd with args := cmd.args ++ args } = cmd.body ++ args := rfl
  rw [AecpCommand.write, AecpCommand.write, hbody, writeFields_append, List.append_assoc]

theorem aaHeader_end (macAddr : Mac) (eth : EtherHdr) :
    (writeFields eth.fields ++ (EndStation.aaHeader macAddr).write).length =
      etherHdrSize + aecpduAaLen := by
  rw [List.length_append, EtherHdr.fields_length, AecpCommand.write_length]
  rfl

theorem aaTlv_end (macAddr : Mac) (eth : EtherHdr) (mode length : BitVec 32)
    (address : BitVec 64) :
    (writeFields eth.fields ++ (EndStation.aaHeader macAddr).write ++
      writeFields (EndStation.aaTlv mode length address)).length =
        etherHdrSize + aecpduAaLen + aecpduAaTlvLen := by
  rw [List.length_append, aaHeader_end, writeFields_length]
  rfl

theorem frame_of_sendAecpAddressAccessCmd
    (h : es.sendAecpAddressAccessCmd macAddr locals nid mode length address data = .ok q) :
    length.toNat ≤ data.length ∧ q.frame = (writeFields (etherHdr macAddr es.mac).fields ++
      ((aaCmd macAddr es mode length address).write ++ data.take length.toNat)).take
        ((48 + length.toNat) % 65536) := by
  obtain ⟨f₁, h₁, h⟩ := Outcome.bind_eq_ok.1 h
  obtain ⟨f₂, h₂, h⟩ := Outcome.bind_eq_ok.1 h
  obtain ⟨f₃, h₃, h⟩ := Outcome.bind_eq_ok.1 h
  split at h
  · cases h
  next hdata =>
  refine ⟨Nat.le_of_not_lt hdata, ?_⟩
  obtain ⟨f₄, h₄, h⟩ := Outcome.bind_eq_ok.1 h
  obtain ⟨f₅, h₅, h⟩ := Outcome.bind_eq_ok.1 h
  rw [systemQueueTx_eq_ok h]
  obtain ⟨hs₁, hl₁⟩ := startsWith_etherFrameInit h₁
  obtain ⟨hw₂, hl₂⟩ := writeOr_eq_ok h₂
  obtain ⟨hw₃, hl₃⟩ := writeOr_eq_ok h₃
  obtain ⟨hw₄, hl₄⟩ := writeOr_eq_ok h₄
  have hl₅ := (writeOr_eq_ok h₅).2
  rw [← (etherHdr macAddr es.mac).fields_length] at hw₂
  have hs₂ := hs₁.writeAt_end hw₂
  rw [← aaHeader_end macAddr (etherHdr macAddr es.mac)] at hw₃
  have hs₃ := hs₂.writeAt_end hw₃
  rw [← aaTlv_end macAddr (etherHdr macAddr es.mac) mode length address] at hw₄
  have hs₄ := hs₃.writeAt_end hw₄
  rw [List.append_assoc _ _ (writeFields _), ← AecpCommand.write_args, List.append_assoc] at hs₄
  have hs₅ : StartsWith (writeFields (etherHdr macAddr es.mac).fields ++
      ((aaCmd macAddr es mode length address).write ++ data.take length.toNat)) f₅.payload :=
    startsWith_commonHdrInit h₅ _ _ _ hs₄
  have hlen : f₅.length.toNat = (48 + length.toNat) % 65536 := by
    rw [hl₅, hl₄, hl₃, hl₂, hl₁]
    rfl
  change f₅.payload.take f₅.length.toNat = _
  rw [hlen]
  apply hs₅.take
  rw [List.length_append, List.length_append, EtherHdr.fields_length, aaCmd_length,
    List.length_take, etherHdrSize]
  omega

theorem addressAccess_frame_length
    (h : es.sendAecpAddressAccessCmd macAddr locals nid mode length address data = .ok q) :
    q.frame.length = (48 + length.toNat) % 65536 := by
  obtain ⟨hdata, hframe⟩ := frame_of_sendAecpAddressAccessCmd h
  have hmod := Nat.mod_le (48 + length.toNat) 65536
  rw [hframe, List.length_take, List.length_append, List.length_append, EtherHdr.fields_length,
    aaCmd_length, List.length_take, etherHdrSize]
  omega

theorem addressAccess_read
    (h : es.sendAecpAddressAccessCmd macAddr locals nid mode length address data = .ok q)
    (hn : 48 ≤ q.frame.length) :
    readFrame [2, 4, 4] q.frame = some (etherHdr macAddr es.mac,
      aaCmd macAddr es mode length address,
      (data.take length.toNat).take (q.frame.length - 48)) := by
  have hframe : q.frame = writeFields (etherHdr macAddr es.mac).fields ++
      ((aaCmd macAddr es mode length address).write ++
        (data.take length.toNat).take (q.frame.length - 48)) := by
    rw [addressAccess_frame_length h] at hn ⊢
    rw [(frame_of_sendAecpAddressAccessCmd h).2, ← List.append_assoc, List.take_append,
      List.take_of_length_le, List.length_append, EtherHdr.fields_length, aaCmd_length,
      List.append_assoc]
    · rfl
    · rwa [List.length_append, EtherHdr.fields_length, aaCmd_length]
  generalize (data.take length.toNat).take (q.frame.length - 48) = rest at hframe ⊢
  rw [hframe]
  exact readFrame_write _ (aaCmd macAddr es mode length address) rest

theorem addressAccess_carried_iff
    (h : es.sendAecpAddressAccessCmd macAddr locals nid mode length address data = .ok q) :
    (Meaning.addressAccess ⟨mode, length, address⟩ (data.take length.toNat)).Carried macAddr es
      q.frame ↔ mode.toNat < 16 ∧ length.toNat ≤ 2025 := by
  have hlen := addressAccess_frame_length h
  have hread := addressAccess_read h
  constructor
  · rintro ⟨eth, cmd, hr, ha, -, htlv⟩
    have hlr := length_of_readFrame hr
    simp only [etherHdrSize, aemHeaderLen, List.sum_cons, List.sum_nil] at hlr
    rw [hread (by omega)] at hr
    have hcmd : aaCmd macAddr es mode length address = cmd :=
      congrArg (fun r => r.2.1) (Option.some.inj hr)
    subst hcmd
    obtain ⟨hmode, hlength, -⟩ :=
      AaTlv.mk.inj (Option.some.inj ((ofFields_aaTlv mode length address).symm.trans htlv))
    rw [ofNat_mod_eq_iff _ (by decide) (by decide)] at hmode hlength
    have hal : q.frame.length = 14 + 12 + (24 + 10 + length.toNat - 12) % 2048 := ha.length
    constructor
    · exact hmode
    · omega
  · rintro ⟨hmode, hlength⟩
    have hlen' : q.frame.length = 48 + length.toNat := by omega
    have hr := hread (by omega)
    rw [hlen', Nat.add_sub_cancel_left, List.take_take, Nat.min_self] at hr
    refine ⟨_, _, hr, ?_, rfl, ?_⟩
    · apply addressed_commonHdr rfl
      · rw [hlen']
        simp only [etherHdrSize, commonControlHeaderLen, aecpduAaLen, aecpduAaTlvLen]
        omega
      · simp only [commonControlHeaderLen, aecpduAaLen, aecpduAaTlvLen]
        omega
    · have hm := (ofNat_mod_eq_iff mode (n := 16) (by decide) (by decide)).2 hmode
      have hl := (ofNat_mod_eq_iff length (n := 4096) (by decide) (by decide)).2 (by omega)
      have hof := ofFields_aaTlv mode length address
      rwa [hm, hl] at hof

theorem sendDescCmd_eq_ok (h : sendDescCmd macAddr locals stop c t obj es nid args = .ok q) :
    obj.descriptorType = t ∧ sendAemCmd macAddr locals stop es nid .cmdWithNotification
      (aemCmd macAddr c (SendCmd.objFields obj ++ args)) c.commandLen c.commandLen = .ok q := by
  obtain ⟨type, ht, h⟩ := Outcome.bind_eq_ok.1 h
  unfold objDescriptorType at ht
  split at ht
  · next heq =>
    cases ht
    exact ⟨heq, h⟩
  · cases ht

theorem carried_of_sendDescCmd (c : AemCommandType)
    (h : sendDescCmd macAddr locals stop c t obj es nid args = .ok q)
    (hw : 2 :: 2 :: args.map Field.width = c.layout) :
    (Meaning.aem c (SendCmd.objFields obj ++ args)).Carried macAddr es q.frame :=
  carried_of_sendAemCmd c (sendDescCmd_eq_ok h).2 hw rfl rfl

theorem defaultSendCmd_eq_ok {cmd : BitVec 16 → BitVec 16 → AecpCommand}
    (h : EntityDescriptor.defaultSendCmd macAddr locals e es nid c cmd = .ok q) :
    sendAemCmd macAddr locals (.fault .assertion) es nid .cmdWithNotification
      (cmd e.desc.descriptorType.code e.desc.descriptorIndex) c.commandLen
        c.commandLen = .ok q ∧
      e.desc.descriptorType = .entity ∧ e.desc.descriptorIndex = 0 := by
  obtain ⟨type, ht, h⟩ := Outcome.bind_eq_ok.1 h
  obtain ⟨index, hi, h⟩ := Outcome.bind_eq_ok.1 h
  unfold objDescriptorType at ht
  unfold EntityDescriptor.descriptorIndex at hi
  split at ht
  · next htype =>
    split at hi
    · next hindex =>
      cases ht
      cases hi
      exact ⟨h, htype, hindex⟩
    · cases hi
  · cases ht

theorem carried_of_defaultSendCmd (c : AemCommandType)
    {cmd : BitVec 16 → BitVec 16 → AecpCommand}
    (h : EntityDescriptor.defaultSendCmd macAddr locals e es nid c cmd = .ok q)
    (hw : ∀ t i, (cmd t i).args.map Field.width = c.layout)
    (hcode : ∀ t i, (cmd t i).commandType = c.code)
    (hctl : ∀ t i, (cmd t i).controllerEntityId = getControllerEntityId macAddr) :
    (Meaning.aem c (cmd e.desc.descriptorType.code e.desc.descriptorIndex).args).Carried macAddr
      es q.frame :=
  carried_of_sendAemCmd c (defaultSendCmd_eq_ok h).1 (hw _ _) (hcode _ _) (hctl _ _)

theorem queueReadDescCmdWithFlag_eq_ok
    (h : es.queueReadDescCmdWithFlag macAddr locals nid flag t i = .ok q) :
    sendAemCmd macAddr locals .returned es nid flag
      (aemCmd macAddr .readDescriptor
        [⟨2, SendCmd.readConfiguration es t⟩, ⟨2, 0#16⟩, ⟨2, t.code⟩, ⟨2, i⟩])
      AemCommandType.readDescriptor.commandLen AemCommandType.readDescriptor.commandLen =
        .ok q := by
  obtain ⟨config, hconfig, h⟩ := Outcome.bind_eq_ok.1 h
  have hc : config = SendCmd.readConfiguration es t := by
    unfold EndStation.configurationIndex at hconfig
    unfold SendCmd.readConfiguration
    split at hconfig
    · next ht =>
      cases hconfig
      rw [if_pos ht]
    · next ht =>
      rw [if_neg ht]
      split at hconfig
      · next e _ he =>
        cases hconfig
        rw [he]
        rfl
      · cases hconfig
  subst hc
  exact h

theorem carried_of_queueReadDescCmdWithFlag
    (h : es.queueReadDescCmdWithFlag macAddr locals nid flag t i = .ok q) :
    ((SendCmd.readDesc flag t i).meaning es).Carried macAddr es q.frame :=
  carried_of_sendAemCmd .readDescriptor (queueReadDescCmdWithFlag_eq_ok h) rfl rfl rfl

theorem frame_of_sendReadDescCmdWithFlag
    (h : es.sendReadDescCmdWithFlag macAddr nid flag t i = .ok tx) :
    tx.frame = .aecp {
      destMac := es.mac
      messageType := .aemCommand
      targetEntityId := es.entityId
      controllerEntityId := getControllerEntityId macAddr
      commandType := .readDescriptor
      configurationIndex := SendCmd.readConfiguration es t
      descriptorType := t
      descriptorIndex := i
      readDescriptorType := t.code
      readDescriptorIndex := i } := by
  unfold EndStation.sendReadDescCmdWithFlag at h
  unfold SendCmd.readConfiguration
  split at h
  · next ht =>
    cases h
    rw [if_pos ht]
  · next ht =>
    rw [if_neg ht]
    cases hv : es.entityDescVec with
    | nil =>
      simp only [EndStation.currentEntity, hv] at h
      cases h
    | cons e l =>
      simp only [EndStation.currentEntity, hv] at h
      cases h
      rfl

theorem not_carried_of_length (hlen : q.frame.length < 38 + c.layout.sum) :
    ¬ (Meaning.aem c args).Carried macAddr es q.frame := by
  rintro ⟨eth, cmd, hr, -⟩
  have hlr := length_of_readFrame hr
  simp only [etherHdrSize, aemHeaderLen, List.length_nil] at hlr
  omega

theorem length_of_sendControllerAvailCmd
    (h : sendControllerAvailCmd macAddr locals vec nid i = .ok q) : q.frame.length = 17 := by
  unfold sendControllerAvailCmd at h
  split at h
  · rw [frame_of_sendAemCmd h]
    · rw [List.length_take, List.length_append, EtherHdr.fields_length,
        AecpCommand.write_length]
      rfl
    · rw [AecpCommand.write_length]
      exact Nat.le_of_ble_eq_true rfl
    · decide
  · cases h

theorem length_of_outputSetStreamFormat
    (h : StreamOutputDescriptor.sendSetStreamFormatCmd macAddr locals obj es nid
      format = .ok q) :
    q.frame.length = 42 := by
  obtain ⟨type, ht, h⟩ := Outcome.bind_eq_ok.1 h
  rw [frame_of_sendAemCmd h]
  · rw [List.length_take, List.length_append, EtherHdr.fields_length, AecpCommand.write_length]
    rfl
  · rw [AecpCommand.write_length]
    exact Nat.le_of_ble_eq_true rfl
  · decide

/-- Two frames that differ in their descriptor type and index at most. -/
def SameUpToDescriptor (a b : List Byte) : Prop := a.take 38 = b.take 38 ∧ a.drop 42 = b.drop 42

theorem length_of_inputSetStreamFormat
    (h : StreamInputDescriptor.sendSetStreamFormatCmd macAddr locals obj es nid
      format = .ok q) :
    q.frame.length = 50 := by
  obtain ⟨eth, cmd, hr, -⟩ := carried_of_sendDescCmd .setStreamFormat h rfl
  exact length_of_readFrame hr

theorem not_sameUpToDescriptor (hi : q.frame.length = 50) (ho : q'.frame.length = 42) :
    ¬ SameUpToDescriptor q.frame q'.frame := by
  rintro ⟨-, hdrop⟩
  have hl := congrArg List.length hdrop
  rw [List.length_drop, List.length_drop, hi, ho] at hl
  exact absurd hl (by decide)

/-- The frame that a sender queues is its command, with its arguments, for its station, exactly
if the sender is none of the two that name a wrong command or length and the arguments of an
address access fit in their fields. The frames of the two `send_set_stream_format_cmd` always
differ. -/
theorem send_cmds_well_formed_iff (macAddr : Mac) (es : EndStation) :
    (∀ (cmd : SendCmd) es' locals nid q,
      cmd.station es = some es' → cmd.send macAddr locals es nid = .ok q →
      ((cmd.meaning es').Carried macAddr es' q.frame ↔ cmd.Sound)) ∧
    (∀ input output format locals locals' nid nid' q q',
      StreamInputDescriptor.sendSetStreamFormatCmd macAddr locals input es nid format = .ok q →
      StreamOutputDescriptor.sendSetStreamFormatCmd macAddr locals' output es nid'
        format = .ok q' →
      ¬ SameUpToDescriptor q.frame q'.frame) := by
  constructor
  · intro cmd es' locals nid q hs h
    cases cmd with
    | controllerAvail vec i =>
      have hl := length_of_sendControllerAvailCmd h
      exact iff_of_false (not_carried_of_length (by rw [hl]; decide)) id
    | outputSetStreamFormat obj format =>
      have hl := length_of_outputSetStreamFormat h
      exact iff_of_false (not_carried_of_length (by rw [hl]; decide)) id
    | addressAccess mode length address data =>
      cases hs
      exact addressAccess_carried_iff h
    | readDesc flag t i =>
      cases hs
      exact iff_of_true (carried_of_queueReadDescCmdWithFlag h) trivial
    | entityAvail =>
      cases hs
      exact iff_of_true (carried_of_sendAemCmd .entityAvailable h rfl rfl rfl) trivial
    | acquireEntity e flag =>
      cases hs
      exact iff_of_true (carried_of_defaultSendCmd .acquireEntity h (fun _ _ => rfl)
        (fun _ _ => rfl) fun _ _ => rfl) trivial
    | lockEntity e flag =>
      cases hs
      exact iff_of_true (carried_of_defaultSendCmd .lockEntity h (fun _ _ => rfl)
        (fun _ _ => rfl) fun _ _ => rfl) trivial
    | reboot e =>
      cases hs
      exact iff_of_true (carried_of_defaultSendCmd .reboot h (fun _ _ => rfl)
        (fun _ _ => rfl) fun _ _ => rfl) trivial
    | inputSetStreamFormat obj format =>
      cases hs
      exact iff_of_true (carried_of_sendDescCmd .setStreamFormat h rfl) trivial
    | inputGetStreamFormat obj | outputGetStreamFormat obj =>
      cases hs
      exact iff_of_true (carried_of_sendDescCmd .getStreamFormat h rfl) trivial
    | inputGetStreamInfo obj | outputGetStreamInfo obj =>
      cases hs
      exact iff_of_true (carried_of_sendDescCmd .getStreamInfo h rfl) trivial
    | inputStartStreaming obj | outputStartStreaming obj =>
      cases hs
      exact iff_of_true (carried_of_sendDescCmd .startStreaming h rfl) trivial
    | inputStopStreaming obj | outputStopStreaming obj =>
      cases hs
      exact iff_of_true (carried_of_sendDescCmd .stopStreaming h rfl) trivial
    | outputSetStreamInfoVlanId obj vlanId =>
      cases hs
      exact iff_of_true (carried_of_sendDescCmd .setStreamInfo h rfl) trivial
    | setSamplingRate obj rate =>
      cases hs
      exact iff_of_true (carried_of_sendDescCmd .setSamplingRate h rfl) trivial
    | getSamplingRate obj =>
      cases hs
      exact iff_of_true (carried_of_sendDescCmd .getSamplingRate h rfl) trivial
    | setClockSource obj i =>
      cases hs
      exact iff_of_true (carried_of_sendDescCmd .setClockSource h rfl) trivial
    | getClockSource obj =>
      cases hs
      exact iff_of_true (carried_of_sendDescCmd .getClockSource h rfl) trivial
    | startOperation obj type =>
      cases hs
      simp only [SendCmd.send, MemoryObjectDescriptor.startOperationCmd] at h
      split at h
      · cases h
      · exact iff_of_true (carried_of_sendDescCmd .startOperation h rfl) trivial
  · intro input output format locals locals' nid nid' q q' h h'
    exact not_sameUpToDescriptor (length_of_inputSetStreamFormat h)
      (length_of_outputSetStreamFormat h')

/-- Station 3 with nothing read from it. -/
def unreadStation : EndStation where
  entityId := 3
  mac := 5
  connectionStatus := .connected
  currentConfigDesc := 0
  backgroundReadPending := []
  backgroundReadInflight := []
  adp := ⟨3, 0, 0, false, false⟩
  entityDescVec := []
  generation := 0
  issued := []

def clearedLocals : Locals := ⟨List.replicate 86 0, .zero, 0⟩

/-- SET_STREAM_FORMAT of STREAM_INPUT 1. -/
theorem send_cmds_well_formed_iff_input :
    ∃ q, (SendCmd.inputSetStreamFormat
        { descriptorType := .streamInput, descriptorIndex := 1 } 9).send
        7 clearedLocals unreadStation 1 = .ok q ∧
      (Meaning.aem .setStreamFormat [⟨2, 5#16⟩, ⟨2, 1#16⟩, ⟨8, 9#64⟩]).Carried 7 unreadStation
        q.frame :=
  ⟨_, rfl, ((send_cmds_well_formed_iff 7 unreadStation).1
    (.inputSetStreamFormat { descriptorType := .streamInput, descriptorIndex := 1 } 9)
    unreadStation clearedLocals 1 _ rfl rfl).2 trivial⟩

/-- The same on STREAM_OUTPUT 1 queues 42 bytes of a GET_STREAM_FORMAT. -/
theorem outputSetStreamFormat_not_carried :
    ∃ q, (SendCmd.outputSetStreamFormat
        { descriptorType := .streamOutput, descriptorIndex := 1 } 9).send
        7 clearedLocals unreadStation 1 = .ok q ∧ q.frame.length = 42 ∧
      (readFrame AemCommandType.getStreamFormat.layout q.frame).map
        (fun r => r.2.1.commandType) =
        some AemCommandType.getStreamFormat.code ∧
      ¬ (Meaning.aem .setStreamFormat [⟨2, 6#16⟩, ⟨2, 1#16⟩, ⟨8, 9#64⟩]).Carried 7 unreadStation
        q.frame :=
  ⟨_, rfl, by decide, by decide, not_carried_of_length (by decide)⟩

/-- The bytes of a READ_DESCRIPTOR command decode to the frame that the rest of the development
sends for it. -/
theorem readDesc_decodes (h : es.sendReadDescCmdWithFlag macAddr nid flag t i = .ok tx)
    (hq : es.queueReadDescCmdWithFlag macAddr locals nid flag t i = .ok q) :
    ∃ f eth cmd, tx.frame = .aecp f ∧
      readFrame AemCommandType.readDescriptor.layout q.frame = some (eth, cmd, []) ∧
      eth.destAddress = f.destMac ∧ cmd.header.messageType = f.messageType.code ∧
      cmd.header.targetEntityId = f.targetEntityId ∧
      cmd.controllerEntityId = f.controllerEntityId ∧ cmd.commandType = f.commandType.code ∧
      cmd.args = [⟨2, f.configurationIndex⟩, ⟨2, 0#16⟩, ⟨2, f.readDescriptorType⟩,
        ⟨2, f.readDescriptorIndex⟩] := by
  obtain ⟨eth, cmd, hr, ha, hcode, hargs⟩ := carried_of_queueReadDescCmdWithFlag hq
  exact ⟨_, eth, cmd, frame_of_sendReadDescCmdWithFlag h, hr, ha.dest,
    ha.messageType, ha.target,
    ha.controller, hcode, hargs⟩

end

end AvdeccLib
