import AvdeccLib.SendCommands

namespace AvdeccLib
set_option autoImplicit true
open BigEndian

def EtherHdr.ofFields : List Field → Option EtherHdr
  | [⟨6, d⟩, ⟨6, s⟩, ⟨2, t⟩] => some ⟨d, s, t⟩
  | _ => none

def CommonControlHeader.ofFields : List Field → Option CommonControlHeader
  | [⟨1, a⟩, ⟨1, b⟩, ⟨2, c⟩, ⟨8, t⟩] => some {
      cd := a.extractLsb' 7 1
      subtype := a.extractLsb' 0 7
      sv := b.extractLsb' 7 1
      version := b.extractLsb' 4 3
      messageType := b.extractLsb' 0 4
      status := c.extractLsb' 11 5
      controlDataLength := c.extractLsb' 0 11
      targetEntityId := t }
  | _ => none

def AecpCommand.ofFields (header : CommonControlHeader) : List Field → Option AecpCommand
  | ⟨8, e⟩ :: ⟨2, s⟩ :: ⟨2, c⟩ :: args => some ⟨header, e, s, c, args⟩
  | _ => none

/-- Reads a frame with the fields of the layout behind its command type. -/
def readFrame (layout : List Nat) (frame : List Byte) :
    Option (EtherHdr × AecpCommand × List Byte) := do
  let r ← readFields [6, 6, 2] frame
  let eth ← EtherHdr.ofFields r.1
  let r ← readFields [1, 1, 2, 8] r.2
  let header ← CommonControlHeader.ofFields r.1
  let r ← readFields (8 :: 2 :: 2 :: layout) r.2
  let cmd ← AecpCommand.ofFields header r.1
  pure (eth, cmd, r.2)

theorem EtherHdr.ofFields_fields (h : EtherHdr) : ofFields h.fields = some h := rfl

theorem AecpCommand.ofFields_body (c : AecpCommand) : ofFields c.header c.body = some c := rfl

theorem CommonControlHeader.ofFields_fields (h : CommonControlHeader) :
    ofFields h.fields = some h := by
  have hsv : (h.sv ++ h.version ++ h.messageType).extractLsb' 7 1 = h.sv := by
    rw [BitVec.extractLsb'_append_eq_of_le (by decide)]
    exact BitVec.extractLsb'_append_eq_left
  have hversion : (h.sv ++ h.version ++ h.messageType).extractLsb' 4 3 = h.version := by
    rw [BitVec.extractLsb'_append_eq_of_le (by decide)]
    exact BitVec.extractLsb'_append_eq_right
  have hmessage : (h.sv ++ h.version ++ h.messageType).extractLsb' 0 4 = h.messageType :=
    BitVec.extractLsb'_append_eq_right
  have hcd : (h.cd ++ h.subtype).extractLsb' 7 1 = h.cd := BitVec.extractLsb'_append_eq_left
  have hsubtype : (h.cd ++ h.subtype).extractLsb' 0 7 = h.subtype :=
    BitVec.extractLsb'_append_eq_right
  have hstatus : (h.status ++ h.controlDataLength).extractLsb' 11 5 = h.status :=
    BitVec.extractLsb'_append_eq_left
  have hlength : (h.status ++ h.controlDataLength).extractLsb' 0 11 = h.controlDataLength :=
    BitVec.extractLsb'_append_eq_right
  change some (mk ((h.cd ++ h.subtype).extractLsb' 7 1) ((h.cd ++ h.subtype).extractLsb' 0 7)
    ((h.sv ++ h.version ++ h.messageType).extractLsb' 7 1)
    ((h.sv ++ h.version ++ h.messageType).extractLsb' 4 3)
    ((h.sv ++ h.version ++ h.messageType).extractLsb' 0 4)
    ((h.status ++ h.controlDataLength).extractLsb' 11 5)
    ((h.status ++ h.controlDataLength).extractLsb' 0 11) h.targetEntityId) = some h
  rw [hcd, hsubtype, hsv, hversion, hmessage, hstatus, hlength]

theorem readFrame_write (eth : EtherHdr) (cmd : AecpCommand) (rest : List Byte) :
    readFrame (cmd.args.map Field.width) (writeFields eth.fields ++ (cmd.write ++ rest)) =
      some (eth, cmd, rest) := by
  have heth : readFields [6, 6, 2] (writeFields eth.fields ++ (cmd.write ++ rest)) =
      some (eth.fields, cmd.write ++ rest) := readFields_writeFields eth.fields _
  have hhdr : readFields [1, 1, 2, 8] (cmd.write ++ rest) =
      some (cmd.header.fields, writeFields cmd.body ++ rest) := by
    rw [AecpCommand.write, List.append_assoc]
    exact readFields_writeFields cmd.header.fields _
  have hbody : readFields (8 :: 2 :: 2 :: cmd.args.map Field.width)
      (writeFields cmd.body ++ rest) = some (cmd.body, rest) :=
    readFields_writeFields cmd.body rest
  simp only [readFrame, heth, hhdr, hbody, EtherHdr.ofFields_fields,
    CommonControlHeader.ofFields_fields, AecpCommand.ofFields_body, Option.bind_eq_bind,
    Option.bind_some, Option.pure_def]

theorem length_of_readFrame (h : readFrame layout frame = some (eth, cmd, rest)) :
    frame.length = etherHdrSize + aemHeaderLen + layout.sum + rest.length := by
  obtain ⟨r₁, h₁, h⟩ := Option.bind_eq_some_iff.1 h
  obtain ⟨eth', -, h⟩ := Option.bind_eq_some_iff.1 h
  obtain ⟨r₂, h₂, h⟩ := Option.bind_eq_some_iff.1 h
  obtain ⟨header, -, h⟩ := Option.bind_eq_some_iff.1 h
  obtain ⟨r₃, h₃, h⟩ := Option.bind_eq_some_iff.1 h
  obtain ⟨cmd', -, h⟩ := Option.bind_eq_some_iff.1 h
  cases h
  have hl₁ := length_of_readFields h₁
  have hl₂ := length_of_readFields h₂
  have hl₃ := length_of_readFields h₃
  simp only [List.sum_cons, List.sum_nil] at hl₁ hl₂ hl₃
  simp only [etherHdrSize, aemHeaderLen]
  omega

theorem writeOr_eq_ok (h : writeOr stop pos bs f = .ok f') :
    writeAt pos bs f.payload = some f'.payload ∧ f'.length = f.length := by
  unfold writeOr at h
  split at h
  · next hw =>
    cases h
    exact ⟨hw, rfl⟩
  · cases h

theorem systemQueueTx_eq_ok (h : systemQueueTx nid flag f = .ok q) :
    q = ⟨nid, flag, f.payload.take f.length.toNat⟩ := by
  unfold systemQueueTx at h
  split at h
  · cases h
    rfl
  · cases h

def etherHdr (macAddr endStationMac : Mac) : EtherHdr := ⟨endStationMac, macAddr, avtpEthertype⟩

theorem EtherHdr.fields_length (h : EtherHdr) :
    (writeFields h.fields).length = etherHdrSize := writeFields_length _

theorem CommonControlHeader.fields_length (h : CommonControlHeader) :
    (writeFields h.fields).length = commonControlHeaderLen := writeFields_length _

theorem AecpCommand.write_length (c : AecpCommand) :
    c.write.length = aemHeaderLen + (c.args.map Field.width).sum := by
  have hbody : (writeFields c.body).length = 12 + (c.args.map Field.width).sum := by
    rw [writeFields_length]
    simp only [body, List.map_cons, List.sum_cons]
    omega
  rw [write, List.length_append, c.header.fields_length, hbody]
  simp only [commonControlHeaderLen, aemHeaderLen]
  omega

def AecpCommand.setHeader (c : AecpCommand) (h : CommonControlHeader) : AecpCommand :=
  { c with header := h }

theorem startsWith_etherFrameInit (h : etherFrameInit macAddr locals mac len = .ok f) :
    StartsWith (writeFields (etherHdr macAddr mac).fields) f.payload ∧ f.length = len := by
  obtain ⟨hw, hl⟩ := writeOr_eq_ok h
  exact ⟨startsWith_of_writeAt hw, hl⟩

/-- `common_hdr_init` replaces the header that the command's struct was written with. -/
theorem startsWith_commonHdrInit (h : commonHdrInit t f target cdLen = .ok f') (eth : EtherHdr)
    (cmd : AecpCommand) (bs : List Byte)
    (hs : StartsWith (writeFields eth.fields ++ (cmd.write ++ bs)) f.payload) :
    StartsWith (writeFields eth.fields ++
      ((cmd.setHeader (commonHdr t target cdLen)).write ++ bs)) f'.payload := by
  obtain ⟨hw, -⟩ := writeOr_eq_ok h
  rw [AecpCommand.write, List.append_assoc] at hs
  rw [← eth.fields_length] at hw
  have hlen : (writeFields (commonHdr t target cdLen).fields).length =
      (writeFields cmd.header.fields).length := by
    rw [CommonControlHeader.fields_length, CommonControlHeader.fields_length]
  rw [AecpCommand.write, List.append_assoc]
  exact hs.writeAt_over hlen hw

theorem frame_of_sendAemCmd
    (h : sendAemCmd macAddr locals stop es nid flag cmd frameLen cdLen = .ok q)
    (hle : frameLen ≤ cmd.write.length) (hlt : etherHdrSize + frameLen < 65536) :
    q.frame = (writeFields (etherHdr macAddr es.mac).fields ++
      (cmd.setHeader (commonHdr .aemCommand es.entityId
        (cdLen - commonControlHeaderLen))).write).take (etherHdrSize + frameLen) := by
  obtain ⟨f₁, h₁, h⟩ := Outcome.bind_eq_ok.1 h
  obtain ⟨f₂, h₂, h⟩ := Outcome.bind_eq_ok.1 h
  obtain ⟨f₃, h₃, h⟩ := Outcome.bind_eq_ok.1 h
  rw [systemQueueTx_eq_ok h]
  obtain ⟨hs₁, hl₁⟩ := startsWith_etherFrameInit h₁
  obtain ⟨hw₂, hl₂⟩ := writeOr_eq_ok h₂
  have hl₃ := (writeOr_eq_ok h₃).2
  rw [← (etherHdr macAddr es.mac).fields_length] at hw₂
  have hs₂ := hs₁.writeAt_end hw₂
  rw [← List.append_nil cmd.write] at hs₂
  have hs₃ := startsWith_commonHdrInit h₃ _ cmd [] hs₂
  rw [List.append_nil] at hs₃
  have hlen : f₃.length.toNat = etherHdrSize + frameLen := by
    rw [hl₃, hl₂, hl₁]
    exact Nat.mod_eq_of_lt hlt
  rw [hlen]
  apply hs₃.take
  rw [List.length_append, EtherHdr.fields_length, AecpCommand.write_length]
  rw [AecpCommand.write_length] at hle
  exact Nat.add_le_add_left hle _

end AvdeccLib
