import AvdeccLib.CommandNotices
import AvdeccLib.EndStation

namespace AvdeccLib
set_option autoImplicit true
open BigEndian Outcome

/-- What `system_queue_tx` writes to the pipe. `rest` is what the buffer that the frame is
copied to holds behind it. -/
def QueuedFrame.txData (q : QueuedFrame) (rest : List Byte) : TxData :=
  ⟨q.notificationId, q.notificationFlag, .aecp (.ofPayload (q.frame ++ rest))⟩

/-- The flag that a sender passes on: that of its call for READ_DESCRIPTOR and a constant for
the others. -/
def NotifiedCmd.flag : NotifiedCmd → AemCmdWaiting
  | .send (.readDesc flag _ _) => flag
  | _ => .cmdWithNotification

/-- The length of the frame does not wrap around in its 16 bits. -/
def NotifiedCmd.Fits : NotifiedCmd → Prop
  | .send (.addressAccess _ length _ _) => 48 + length.toNat < 65536
  | _ => True

/-- A frame with the id and the flag of the call and the headers of an AECP command. -/
structure QueuedFrame.Carries (q : QueuedFrame) (nid : Ptr) (flag : AemCmdWaiting) : Prop where
  notificationId : q.notificationId = nid
  notificationFlag : q.notificationFlag = flag
  length : 16 ≤ q.frame.length
  ethertype : get 2 12 q.frame = avtpEthertype
  subtype : get 1 14 q.frame = 1#1 ++ subtypeAecp
  isCommand : ∀ rest, (AecpFrame.ofPayload (q.frame ++ rest)).isCommand = true

section
variable {macAddr : Mac} {locals : Locals} {es : EndStation} {nid : Ptr} {flag : AemCmdWaiting}
  {q : QueuedFrame} {t : AecpMessageType} {f f' : CmdFrame} {target : EntityId} {cdLen : Nat}

theorem commonHdr_messageType (h : CommonControlHeader) :
    (h.sv ++ h.version ++ h.messageType).extractLsb' 0 4 = h.messageType :=
  BitVec.extractLsb'_append_eq_right

/-- A frame whose Ethernet header is written. -/
def CmdFrame.Addressed (f : CmdFrame) : Prop := get 2 12 f.payload = avtpEthertype

theorem addressed_of_etherFrameInit {mac : Mac} {len : Nat}
    (h : etherFrameInit macAddr locals mac len = .ok f) : f.Addressed := by
  obtain ⟨hw, -⟩ := writeOr_eq_ok h
  exact get_writeAt [⟨6, mac⟩, ⟨6, macAddr⟩] ⟨2, avtpEthertype⟩ hw

theorem CmdFrame.Addressed.writeOr {stop : SendStop} {pos : Nat} {bs : List Byte}
    (h : f.Addressed) (hpos : etherHdrSize ≤ pos) (hw : writeOr stop pos bs f = .ok f') :
    f'.Addressed := by
  obtain ⟨hw, -⟩ := writeOr_eq_ok hw
  exact (get_writeAt_front hw hpos).trans h

theorem carries_of_commonHdrInit (h : commonHdrInit t f target cdLen = .ok f')
    (hq : systemQueueTx nid flag f' = .ok q) (haddressed : f.Addressed)
    (hl : 16 ≤ f'.length.toNat) (ht : t = .aemCommand ∨ t = .addressAccessCommand) :
    q.Carries nid flag := by
  obtain ⟨hw, -⟩ := writeOr_eq_ok h
  let hdr := commonHdr t target cdLen
  have hsubtype : get 1 14 f'.payload = hdr.cd ++ hdr.subtype := get_writeAt [] ⟨1, _⟩ hw
  have htype : get 1 15 f'.payload = hdr.sv ++ hdr.version ++ hdr.messageType :=
    get_writeAt [⟨1, hdr.cd ++ hdr.subtype⟩] ⟨1, hdr.sv ++ hdr.version ++ hdr.messageType⟩ hw
  have hroom : f'.length.toNat ≤ f'.payload.length := by
    rw [systemQueueTx] at hq
    split at hq
    · assumption
    · cases hq
  have hread : ∀ w n rest, n + w ≤ 16 →
      get w n (f'.payload.take f'.length.toNat ++ rest) = get w n f'.payload :=
    fun w n rest hn => get_take_append (hn.trans hl) hroom rest
  have hwhole : ∀ w n, n + w ≤ 16 →
      get w n (f'.payload.take f'.length.toNat) = get w n f'.payload := by
    intro w n hn
    rw [← List.append_nil (f'.payload.take f'.length.toNat)]
    exact hread w n [] hn
  obtain rfl := systemQueueTx_eq_ok hq
  refine ⟨rfl, rfl, ?_, ?_, ?_, ?_⟩
  · rw [List.length_take_of_le hroom]
    exact hl
  · rw [hwhole 2 12 (by decide)]
    exact haddressed.writeOr le_rfl h
  · rw [hwhole 1 14 (by decide), hsubtype]
    rfl
  · intro rest
    have hcode : AecpMessageType.ofCode ((get 1 15 (f'.payload.take f'.length.toNat ++
        rest)).extractLsb' 0 4) = .ofCode t.code := by
      rw [hread 1 15 rest (by decide), htype, commonHdr_messageType]
      rfl
    rw [AecpFrame.isCommand, AecpFrame.ofPayload, hcode]
    rcases ht with rfl | rfl
    · rfl
    · rfl

theorem carries_of_sendAemCmd {cmd : AecpCommand} {frameLen : Nat}
    (h : sendAemCmd macAddr locals stop es nid flag cmd frameLen cdLen = .ok q)
    (hl : 2 ≤ frameLen) (hlt : etherHdrSize + frameLen < 65536) : q.Carries nid flag := by
  obtain ⟨f₁, h₁, h⟩ := bind_eq_ok.1 h
  obtain ⟨f₂, h₂, h⟩ := bind_eq_ok.1 h
  obtain ⟨f₃, h₃, h⟩ := bind_eq_ok.1 h
  apply carries_of_commonHdrInit h₃ h
    ((addressed_of_etherFrameInit h₁).writeOr le_rfl h₂) _ (.inl rfl)
  have hlen : f₃.length.toNat = etherHdrSize + frameLen := by
    rw [(writeOr_eq_ok h₃).2, (writeOr_eq_ok h₂).2, (startsWith_etherFrameInit h₁).2]
    exact Nat.mod_eq_of_lt hlt
  rw [hlen]
  exact Nat.add_le_add_left hl etherHdrSize

theorem carries_of_commandLen {cmd : AecpCommand} (c : AemCommandType)
    (h : sendAemCmd macAddr locals stop es nid flag cmd c.commandLen cdLen = .ok q) :
    q.Carries nid flag := by
  have hle := c.commandLen_le
  have hge := c.aemHeaderLen_le
  apply carries_of_sendAemCmd h
  · omega
  · simp only [etherHdrSize]
    omega

theorem carries_of_sendAecpAddressAccessCmd {mode length : BitVec 32} {address : BitVec 64}
    {data : List Byte}
    (h : es.sendAecpAddressAccessCmd macAddr locals nid mode length address data = .ok q)
    (hfits : 48 + length.toNat < 65536) : q.Carries nid .cmdWithNotification := by
  obtain ⟨f₁, h₁, h⟩ := bind_eq_ok.1 h
  obtain ⟨f₂, h₂, h⟩ := bind_eq_ok.1 h
  obtain ⟨f₃, h₃, h⟩ := bind_eq_ok.1 h
  split at h
  · cases h
  obtain ⟨f₄, h₄, h⟩ := bind_eq_ok.1 h
  obtain ⟨f₅, h₅, h⟩ := bind_eq_ok.1 h
  have haddressed := (addressed_of_etherFrameInit h₁).writeOr le_rfl h₂
  apply carries_of_commonHdrInit h₅ h
    ((haddressed.writeOr (by decide) h₃).writeOr (by decide) h₄) _ (.inr rfl)
  have hlen : f₅.length.toNat = (48 + length.toNat) % 65536 := by
    rw [(writeOr_eq_ok h₅).2, (writeOr_eq_ok h₄).2, (writeOr_eq_ok h₃).2, (writeOr_eq_ok h₂).2,
      (startsWith_etherFrameInit h₁).2]
    rfl
  omega

theorem carries_of_sendIdentify {i : BitVec 16} {turnOn : Bool}
    (h : es.sendIdentify macAddr locals nid i turnOn = .ok q) :
    q.Carries nid .cmdWithNotification := by
  obtain ⟨f₁, h₁, h⟩ := bind_eq_ok.1 h
  obtain ⟨f₂, h₂, h⟩ := bind_eq_ok.1 h
  obtain ⟨f₃, h₃, h⟩ := bind_eq_ok.1 h
  obtain ⟨f₄, h₄, h⟩ := bind_eq_ok.1 h
  have haddressed := (addressed_of_etherFrameInit h₁).writeOr le_rfl h₂
  apply carries_of_commonHdrInit h₄ h (haddressed.writeOr (by decide) h₃) _ (.inl rfl)
  have hlen : f₄.length = 43 := by
    rw [(writeOr_eq_ok h₄).2, (writeOr_eq_ok h₃).2, (writeOr_eq_ok h₂).2,
      (startsWith_etherFrameInit h₁).2]
    rfl
  rw [hlen]
  decide

/-- Whatever a sender hands to `system_queue_tx` is a command with the id of its caller. -/
theorem NotifiedCmd.carries {cmd : NotifiedCmd} (h : cmd.queue macAddr locals es nid = .ok q)
    (hfits : cmd.Fits) : q.Carries nid cmd.flag := by
  cases cmd with
  | identify i turnOn => exact carries_of_sendIdentify h
  | send cmd =>
    cases cmd with
    | controllerAvail vec i =>
      simp only [NotifiedCmd.queue, SendCmd.send, sendControllerAvailCmd] at h
      split at h
      · exact carries_of_sendAemCmd h (by decide) (by decide)
      · cases h
    | addressAccess mode length address data =>
      exact carries_of_sendAecpAddressAccessCmd h hfits
    | readDesc flag t i =>
      exact carries_of_commandLen .readDescriptor (queueReadDescCmdWithFlag_eq_ok h)
    | entityAvail => exact carries_of_commandLen .entityAvailable h
    | acquireEntity e flag =>
      exact carries_of_commandLen .acquireEntity (defaultSendCmd_eq_ok h).1
    | lockEntity e flag => exact carries_of_commandLen .lockEntity (defaultSendCmd_eq_ok h).1
    | reboot e => exact carries_of_commandLen .reboot (defaultSendCmd_eq_ok h).1
    | outputSetStreamFormat obj format =>
      obtain ⟨type, -, h⟩ := bind_eq_ok.1 h
      exact carries_of_commandLen .getStreamFormat h
    | startOperation obj type =>
      simp only [NotifiedCmd.queue, SendCmd.send, MemoryObjectDescriptor.startOperationCmd] at h
      split at h
      · cases h
      · exact carries_of_commandLen .startOperation (sendDescCmd_eq_ok h).2
    | inputSetStreamFormat obj format =>
      exact carries_of_commandLen .setStreamFormat (sendDescCmd_eq_ok h).2
    | inputGetStreamFormat obj | outputGetStreamFormat obj =>
      exact carries_of_commandLen .getStreamFormat (sendDescCmd_eq_ok h).2
    | outputSetStreamInfoVlanId obj vlanId =>
      exact carries_of_commandLen .setStreamInfo (sendDescCmd_eq_ok h).2
    | inputGetStreamInfo obj | outputGetStreamInfo obj =>
      exact carries_of_commandLen .getStreamInfo (sendDescCmd_eq_ok h).2
    | inputStartStreaming obj | outputStartStreaming obj =>
      exact carries_of_commandLen .startStreaming (sendDescCmd_eq_ok h).2
    | inputStopStreaming obj | outputStopStreaming obj =>
      exact carries_of_commandLen .stopStreaming (sendDescCmd_eq_ok h).2
    | setSamplingRate obj rate =>
      exact carries_of_commandLen .setSamplingRate (sendDescCmd_eq_ok h).2
    | getSamplingRate obj =>
      exact carries_of_commandLen .getSamplingRate (sendDescCmd_eq_ok h).2
    | setClockSource obj i =>
      exact carries_of_commandLen .setClockSource (sendDescCmd_eq_ok h).2
    | getClockSource obj => exact carries_of_commandLen .getClockSource (sendDescCmd_eq_ok h).2

end

end AvdeccLib
