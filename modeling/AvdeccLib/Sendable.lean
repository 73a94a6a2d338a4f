import AvdeccLib.FirmwareUpgrade
import AvdeccLib.SentFrames

namespace AvdeccLib
set_option autoImplicit true

open BigEndian Outcome

/-- What a sender checks, and that what it copies is there and fits into the `room` of its
frame. -/
def SendCmd.Supplied (room : Nat) (es : EndStation) : SendCmd → Prop
  | controllerAvail vec i => i.toNat < vec.length
  | readDesc _ t _ => t = .entity ∨ t = .configuration ∨ es.entityDescVec ≠ []
  | entityAvail => True
  | addressAccess _ length _ data => length.toNat ≤ data.length ∧ 48 + length.toNat ≤ room
  | acquireEntity e _ | lockEntity e _ | reboot e =>
    e.desc.descriptorType = .entity ∧ e.desc.descriptorIndex = 0
  | inputSetStreamFormat obj _ | inputGetStreamFormat obj | inputGetStreamInfo obj
  | inputStartStreaming obj | inputStopStreaming obj => obj.descriptorType = .streamInput
  | outputSetStreamFormat obj _ | outputGetStreamFormat obj | outputSetStreamInfoVlanId obj _
  | outputGetStreamInfo obj | outputStartStreaming obj | outputStopStreaming obj =>
    obj.descriptorType = .streamOutput
  | setSamplingRate obj _ | getSamplingRate obj => obj.descriptorType = .audioUnit
  | setClockSource obj _ | getClockSource obj => obj.descriptorType = .clockDomain
  | startOperation obj type => obj.descriptorType = .memoryObject ∧ type ≤ 4

def NotifiedCmd.Supplied (room : Nat) (es : EndStation) : NotifiedCmd → Prop
  | send cmd => cmd.Supplied room es
  | identify _ _ => True

section
variable {macAddr : Mac} {locals : Locals} {es : EndStation} {nid : Ptr} {stop : SendStop}
  {flag : AemCmdWaiting} {c : AemCommandType} {t : DescType} {obj : AemDesc} {args : List Field}
  {room : Nat} {len : BitVec 16} {pos : Nat} {bs : List Byte} {f : CmdFrame} {P : Prop}

/-- A frame with the length, in a buffer of the size. -/
structure CmdFrame.Sized (room : Nat) (len : BitVec 16) (f : CmdFrame) : Prop where
  payload : f.payload.length = room
  length : f.length = len

/-- What a sender does with a frame of the size reaches the queue exactly under the
condition. -/
def SendsIff (room : Nat) (len : BitVec 16) (send : CmdFrame → Except SendStop QueuedFrame)
    (P : Prop) : Prop :=
  ∀ f, f.Sized room len → ((∃ q, send f = .ok q) ↔ P)

theorem sendsIff_queue (nid : Ptr) (flag : AemCmdWaiting) :
    SendsIff room len (systemQueueTx nid flag) (len.toNat ≤ room) := by
  rintro f ⟨rfl, rfl⟩
  rw [systemQueueTx]
  split
  · next h => exact iff_of_true ⟨_, rfl⟩ h
  · next h =>
    apply iff_of_false _ h
    rintro ⟨q, hq⟩
    cases hq

theorem SendsIff.writeOr {send : CmdFrame → Except SendStop QueuedFrame}
    (hsend : SendsIff room len send P) (stop : SendStop) (pos : Nat) (bs : List Byte) :
    SendsIff room len (fun f => writeOr stop pos bs f >>= send)
    (pos + bs.length ≤ room ∧ P) := by
  intro f hf
  dsimp only
  by_cases hle : pos + bs.length ≤ room
  · obtain ⟨f', hw, hp, hl⟩ := exists_writeOr stop rfl (hf.payload.symm ▸ hle)
    rw [hw, and_iff_right hle]
    exact hsend f' ⟨hp.trans hf.payload, hl.trans hf.length⟩
  · apply iff_of_false
    · rintro ⟨q, hq⟩
      obtain ⟨f', hw, -⟩ := bind_eq_ok.1 hq
      exact hle (hf.payload ▸ (writeAt_eq_some (writeOr_eq_ok hw).1).1)
    · exact fun h => hle h.1

theorem sends_etherFrameInit_iff {send : CmdFrame → Except SendStop QueuedFrame} {mac : Mac}
    {n : Nat} (hsend : SendsIff locals.payload.length n send P) :
    (∃ q, (etherFrameInit macAddr locals mac n >>= send) = .ok q) ↔
      etherHdrSize ≤ locals.payload.length ∧ P := by
  have h := (hsend.writeOr .outOfBounds 0 (writeFields (etherHdr macAddr mac).fields))
    ⟨n, locals.payload⟩ ⟨rfl, rfl⟩
  rw [EtherHdr.fields_length, Nat.zero_add] at h
  exact h

theorem exists_sendAemCmd {cmd : AecpCommand} {frameLen cdLen : Nat}
    (hargs : (cmd.args.map Field.width).sum ≤ 64) (hlen : frameLen ≤ 100)
    (hroom : 128 ≤ locals.payload.length) :
    ∃ q, sendAemCmd macAddr locals stop es nid flag cmd frameLen cdLen = .ok q := by
  apply (sends_etherFrameInit_iff (((sendsIff_queue nid flag).writeOr _ _ _).writeOr _ _ _)).2
  rw [AecpCommand.write_length, CommonControlHeader.fields_length]
  have hlen' : ((etherHdrSize + frameLen : Nat) : BitVec 16).toNat ≤ etherHdrSize + frameLen :=
    Nat.mod_le _ _
  simp only [etherHdrSize, aemHeaderLen, commonControlHeaderLen] at hlen' ⊢
  omega

theorem sendDescCmd_iff (hargs : (args.map Field.width).sum ≤ 60)
    (hroom : 128 ≤ locals.payload.length) :
    (∃ q, sendDescCmd macAddr locals stop c t obj es nid args = .ok q) ↔
      obj.descriptorType = t := by
  constructor
  · rintro ⟨q, hq⟩
    exact (sendDescCmd_eq_ok hq).1
  · rintro rfl
    rw [sendDescCmd, objDescriptorType, if_pos rfl]
    refine exists_sendAemCmd ?_ (c.commandLen_le.trans (by decide)) hroom
    have hsum : (2 + (2 + (args.map Field.width).sum)) ≤ 64 := by omega
    exact hsum

theorem defaultSendCmd_iff {e : EntityDescriptor} {cmd : BitVec 16 → BitVec 16 → AecpCommand}
    (hargs : ∀ t i, ((cmd t i).args.map Field.width).sum ≤ 64)
    (hroom : 128 ≤ locals.payload.length) :
    (∃ q, e.defaultSendCmd macAddr locals es nid c cmd = .ok q) ↔
      e.desc.descriptorType = .entity ∧ e.desc.descriptorIndex = 0 := by
  constructor
  · rintro ⟨q, hq⟩
    exact (defaultSendCmd_eq_ok hq).2
  · rintro ⟨htype, hindex⟩
    rw [EntityDescriptor.defaultSendCmd, objDescriptorType, if_pos htype,
      EntityDescriptor.descriptorIndex, if_pos hindex]
    exact exists_sendAemCmd (hargs _ _) (c.commandLen_le.trans (by decide)) hroom

theorem queueReadDescCmdWithFlag_iff {descIndex : BitVec 16}
    (hroom : 128 ≤ locals.payload.length) :
    (∃ q, es.queueReadDescCmdWithFlag macAddr locals nid flag t descIndex = .ok q) ↔
      t = .entity ∨ t = .configuration ∨ es.entityDescVec ≠ [] := by
  have hsend : ∀ i : BitVec 16, ∃ q, sendAemCmd macAddr locals .returned es nid flag
      (aemCmd macAddr .readDescriptor [⟨2, i⟩, ⟨2, 0#16⟩, ⟨2, t.code⟩, ⟨2, descIndex⟩])
      AemCommandType.readDescriptor.commandLen AemCommandType.readDescriptor.commandLen =
        .ok q :=
    fun i => exists_sendAemCmd (Nat.le_of_ble_eq_true rfl) (by decide) hroom
  rw [EndStation.queueReadDescCmdWithFlag, EndStation.configurationIndex, ← or_assoc]
  split
  · next ht => exact iff_of_true (hsend 0) (.inl ht)
  · next ht =>
    cases es.entityDescVec with
    | nil =>
      apply iff_of_false
      · rintro ⟨q, hq⟩
        cases hq
      · rintro (h | h)
        · exact ht h
        · exact h rfl
    | cons e v => exact iff_of_true (hsend _) (.inr (List.cons_ne_nil e v))

theorem sendAecpAddressAccessCmd_iff {mode length : BitVec 32} {address : BitVec 64}
    {data : List Byte} (hroom : 128 ≤ locals.payload.length) :
    (∃ q, es.sendAecpAddressAccessCmd macAddr locals nid mode length address data = .ok q) ↔
      length.toNat ≤ data.length ∧ 48 + length.toNat ≤ locals.payload.length := by
  have hdata : SendsIff locals.payload.length
      ((etherHdrSize + aecpduAaLen + aecpduAaTlvLen + length.toNat : Nat) : BitVec 16)
      (fun f => do
        if data.length < length.toNat then throw .outOfBounds
        let cmdFrame ← writeOr .outOfBounds (etherHdrSize + aecpduAaLen + aecpduAaTlvLen)
          (data.take length.toNat) f
        let cmdFrame ← commonHdrInit .addressAccessCommand cmdFrame es.entityId
          (aecpduAaLen + aecpduAaTlvLen + length.toNat - commonControlHeaderLen)
        systemQueueTx nid .cmdWithNotification cmdFrame)
      (length.toNat ≤ data.length ∧ 48 + length.toNat ≤ locals.payload.length) := by
    intro f hf
    dsimp only
    split
    · next hlt =>
      apply iff_of_false
      · rintro ⟨q, hq⟩
        cases hq
      · exact fun h => Nat.not_le.2 hlt h.1
    · next hle =>
      rw [Nat.not_lt] at hle
      apply ((((sendsIff_queue nid .cmdWithNotification).writeOr _ _ _).writeOr _ _
        _) f hf).trans
      have hlen : ((etherHdrSize + aecpduAaLen + aecpduAaTlvLen + length.toNat : Nat) :
          BitVec 16).toNat ≤ 48 + length.toNat := Nat.mod_le _ _
      rw [List.length_take_of_le hle, CommonControlHeader.fields_length, and_iff_right hle]
      simp only [etherHdrSize, aecpduAaLen, aecpduAaTlvLen, commonControlHeaderLen] at hlen ⊢
      omega
  apply (sends_etherFrameInit_iff ((hdata.writeOr _ _ _).writeOr _ _ _)).trans
  have hheader : (EndStation.aaHeader macAddr).write.length = 24 := AecpCommand.write_length _
  have htlv : (writeFields (EndStation.aaTlv mode length address)).length = 10 :=
    writeFields_length _
  rw [hheader, htlv]
  simp only [etherHdrSize, aecpduAaLen]
  omega

theorem sendIdentify_ok (i : BitVec 16) (turnOn : Bool) (hroom : 128 ≤ locals.payload.length) :
    ∃ q, es.sendIdentify macAddr locals nid i turnOn = .ok q := by
  apply (sends_etherFrameInit_iff ((((sendsIff_queue nid .cmdWithNotification).writeOr
    _ _ _).writeOr _ _ _).writeOr _ _ _)).2
  have hcmd : (aemCmd macAddr .setControl
      [⟨2, DescType.control.code⟩, ⟨2, i⟩]).write.length = 28 := AecpCommand.write_length _
  have hlen : ((etherHdrSize + AemCommandType.setControl.commandLen + 1 : Nat) :
      BitVec 16).toNat = 43 := rfl
  rw [hcmd, hlen, CommonControlHeader.fields_length]
  have hcommandLen : AemCommandType.setControl.commandLen = 28 := rfl
  simp only [etherHdrSize, hcommandLen, commonControlHeaderLen, List.length_singleton]
  omega

end

/-- With the room that every command but an address access needs, a sender hands its frame over
exactly if what it checks and copies is there. -/
theorem NotifiedCmd.queue_iff {macAddr : Mac} {locals : Locals} {es : EndStation} {nid : Ptr}
    (cmd : NotifiedCmd) (hroom : 128 ≤ locals.payload.length) :
    (∃ q, cmd.queue macAddr locals es nid = .ok q) ↔ cmd.Supplied locals.payload.length es := by
  cases cmd with
  | identify i turnOn => exact iff_of_true (sendIdentify_ok i turnOn hroom) trivial
  | send cmd =>
    cases cmd with
    | controllerAvail vec i =>
      simp only [queue, SendCmd.send, sendControllerAvailCmd, Supplied, SendCmd.Supplied]
      cases hes : vec[i.toNat]? with
      | none =>
        apply iff_of_false
        · rintro ⟨q, hq⟩
          cases hq
        · exact Nat.not_lt.2 (List.getElem?_eq_none_iff.1 hes)
      | some station =>
        obtain ⟨hlt, -⟩ := List.getElem?_eq_some_iff.1 hes
        exact iff_of_true (exists_sendAemCmd (Nat.zero_le _) (by decide) hroom) hlt
    | readDesc flag t i => exact queueReadDescCmdWithFlag_iff hroom
    | entityAvail =>
      exact iff_of_true (exists_sendAemCmd (Nat.zero_le _) (by decide) hroom) trivial
    | addressAccess mode length address data => exact sendAecpAddressAccessCmd_iff hroom
    | acquireEntity e flag | lockEntity e flag | reboot e =>
      exact defaultSendCmd_iff (fun _ _ => Nat.le_of_ble_eq_true rfl) hroom
    | outputSetStreamFormat obj format =>
      constructor
      · rintro ⟨q, hq⟩
        obtain ⟨type, ht, -⟩ := bind_eq_ok.1 hq
        unfold objDescriptorType at ht
        split at ht
        · assumption
        · cases ht
      · intro ht
        simp only [queue, SendCmd.send, StreamOutputDescriptor.sendSetStreamFormatCmd,
          objDescriptorType]
        rw [if_pos (show obj.descriptorType = .streamOutput from ht)]
        exact exists_sendAemCmd (Nat.le_of_ble_eq_true rfl) (by decide) hroom
    | startOperation obj type =>
      simp only [queue, SendCmd.send, MemoryObjectDescriptor.startOperationCmd, Supplied,
        SendCmd.Supplied]
      split
      · next htype =>
        apply iff_of_false
        · rintro ⟨q, hq⟩
          cases hq
        · rintro ⟨-, hle⟩
          exact absurd htype (BitVec.not_lt.2 hle)
      · next htype =>
        rw [sendDescCmd_iff (Nat.le_of_ble_eq_true rfl) hroom]
        exact (and_iff_left (BitVec.not_lt.1 htype)).symm
    | _ => exact sendDescCmd_iff (Nat.le_of_ble_eq_true rfl) hroom

end AvdeccLib
