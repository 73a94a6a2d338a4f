import AvdeccLib.SentFrames
import AvdeccLib.WireEngines
import AvdeccLib.AcmpFrames
import AvdeccLib.Library.Bpf

namespace AvdeccLib
set_option autoImplicit true
open BigEndian Outcome Runs Bpf

/-- `BPF_code`, for `ether proto 0x22f0 or vlan 2`. -/
def bpfCode : List SockFilter :=
  [⟨0x28, 0, 0, 0x0000000c⟩,
   ⟨0x15, 4, 0, 0x000022f0⟩,
   ⟨0x15, 0, 4, 0x00008100⟩,
   ⟨0x28, 0, 0, 0x0000000e⟩,
   ⟨0x54, 0, 0, 0x00000fff⟩,
   ⟨0x15, 0, 1, 0x00000002⟩,
   ⟨0x6, 0, 0, 0x0000ffff⟩,
   ⟨0x6, 0, 0, 0x00000000⟩]

/-- What the socket of the network interface receives. -/
def captures (frame : List Byte) : Bool := accepts frame bpfCode

/-- The subtype that `rx_packet_event` reads behind an untagged Ethernet header. -/
def rxSubtype (frame : List Byte) : BitVec 7 := (get 1 etherHdrSize frame).extractLsb' 0 7

/-- The subtypes for which `rx_packet_event` has a case. -/
def dispatchedSubtypes : List (BitVec 7) := [subtypeAdp, subtypeAecp, subtypeAcmp]

def vlanEthertype : BitVec 16 := 0x8100

def bpfProgram : List Insn :=
  [.ld 2 12, .jump (· == ·) 0x22f0 4 0, .jump (· == ·) 0x8100 0 4, .ld 2 14,
    .alu (· &&& ·) 0xfff, .jump (· == ·) 2 0 1, .ret 0xffff, .ret 0]

theorem decode_bpfCode : bpfCode.mapM SockFilter.decode = some bpfProgram := rfl

theorem checked_bpfProgram : Checked bpfProgram := by
  simp [bpfProgram, Checked, Insn.next]

section
variable {frame : List Byte}

theorem run_bpfCode (frame : List Byte) :
    run frame bpfCode = some 0xffff ∨ run frame bpfCode = some 0 := by
  obtain ⟨k, hk⟩ := exec_isSome frame checked_bpfProgram (by decide : 0 < bpfProgram.length) 0
  rw [run, decode_bpfCode, Option.bind_some, hk]
  rcases mem_of_exec hk with rfl | hmem
  · exact .inr rfl
  · simp only [bpfProgram, List.mem_cons, reduceCtorEq, Insn.ret.injEq,
      List.not_mem_nil, false_or, or_false] at hmem
    rcases hmem with rfl | rfl
    · exact .inl rfl
    · exact .inr rfl

theorem setWidth_beq {a : BitVec 16} (b : BitVec 16) :
    (a.setWidth 32 == b.setWidth 32) = decide (a = b) := by
  rw [Bool.eq_iff_iff, beq_iff_eq, decide_eq_true_iff]
  constructor
  · intro h
    have h := congrArg (BitVec.setWidth 16) h
    simpa using h
  · rintro rfl
    rfl

theorem captures_iff (frame : List Byte) : captures frame = true ↔
    14 ≤ frame.length ∧ get 2 12 frame = avtpEthertype ∨
    16 ≤ frame.length ∧ get 2 12 frame = vlanEthertype ∧ get 2 14 frame &&& 0xfff = 2 := by
  have havtp : ((get 2 12 frame).setWidth 32 == (0x22f0 : Word)) =
      decide (get 2 12 frame = avtpEthertype) :=
    setWidth_beq avtpEthertype
  have hvlan : ((get 2 12 frame).setWidth 32 == (0x8100 : Word)) =
      decide (get 2 12 frame = vlanEthertype) :=
    setWidth_beq vlanEthertype
  have htag : ((get 2 14 frame).setWidth 32 &&& (0xfff : Word) == (2 : Word)) =
      decide (get 2 14 frame &&& 0xfff = 2) := by
    have h := setWidth_beq (a := get 2 14 frame &&& 0xfff) 2
    rw [BitVec.setWidth_and] at h
    exact h
  rw [captures, accepts, run, decode_bpfCode, Option.bind_some]
  by_cases hshort : 14 ≤ frame.length
  · simp only [bpfProgram, exec, havtp, hshort, if_true]
    by_cases ha : get 2 12 frame = avtpEthertype
    · simp [exec, ha]
    · simp only [ha, decide_false, if_false, Bool.false_eq_true, exec, and_false,
        false_or, hvlan]
      by_cases hv : get 2 12 frame = vlanEthertype
      · simp only [hv, decide_true, if_true, exec, true_and, htag]
        by_cases htagged : 16 ≤ frame.length
        · by_cases ht : get 2 14 frame &&& 0xfff = 2
          · simp only [htagged, if_true, ht, decide_true, exec]
            decide
          · simp only [htagged, if_true, ht, decide_false, Bool.false_eq_true, if_false, exec]
            decide
        · simp [htagged]
      · simp [exec, hv]
  · have htagged : ¬ 16 ≤ frame.length := fun h => hshort (le_trans (by decide) h)
    simp [bpfProgram, exec, hshort, htagged]

/-- The frame of another VLAN tag that the filter lets through is not dispatched: the bits that
the dispatch reads are those of the VLAN id. -/
theorem ethertype_of_dispatched (hc : captures frame = true)
    (hs : rxSubtype frame ∈ dispatchedSubtypes) : get 2 12 frame = avtpEthertype := by
  rcases (captures_iff frame).1 hc with ⟨-, h⟩ | ⟨hlen, -, htag⟩
  · exact h
  · have hbit : (get 2 14 frame &&& 0xfff).getLsbD 11 = false := by
      rw [htag]
      rfl
    have hlow : (get 1 14 frame).getLsbD 3 = false := by
      rw [BitVec.getLsbD_and, get_two hlen, BitVec.getLsbD_append] at hbit
      exact (Bool.and_true _).symm.trans hbit
    have hread : (rxSubtype frame).getLsbD 3 = (get 1 14 frame).getLsbD 3 := by
      rw [rxSubtype, BitVec.getLsbD_extractLsb']
      rfl
    have hset : ∀ s ∈ dispatchedSubtypes, s.getLsbD 3 = true := by decide
    rw [← hread, hset _ hs] at hlow
    cases hlow

end

/-- A frame that the socket of another controller receives and dispatches by its subtype. -/
def Recognised (subtype : BitVec 7) (frame : List Byte) : Prop :=
  captures frame = true ∧ rxSubtype frame = subtype

theorem recognised_of_header {subtype : BitVec 7} {frame : List Byte} (hlen : 14 ≤ frame.length)
    (hethertype : get 2 12 frame = avtpEthertype) (hsubtype : get 1 14 frame = 1#1 ++ subtype) :
    Recognised subtype frame := by
  refine ⟨(captures_iff frame).2 (.inl ⟨hlen, hethertype⟩), ?_⟩
  rw [rxSubtype, etherHdrSize, hsubtype]
  exact BitVec.extractLsb'_append_eq_right

theorem Recognised.setSequenceId {subtype : BitVec 7} {pos : Nat} {x : Payload pos}
    (h : Recognised subtype x.1) (hpos : 16 ≤ pos) (seqId : BitVec 16) :
    Recognised subtype (x.setSequenceId seqId).1 := by
  obtain ⟨hc, hs⟩ := h
  have hlen : x.1.length ≤ (x.setSequenceId seqId).1.length := by
    have hx := x.2
    rw [Payload.setSequenceId, List.length_append, List.length_append, List.length_take,
      List.length_drop, writeFields_length]
    simp only [List.map_cons, List.map_nil, List.sum_cons, List.sum_nil]
    omega
  refine ⟨(captures_iff _).2 ?_, ?_⟩
  · rw [x.get_front seqId (by omega), x.get_front seqId (by omega)]
    rcases (captures_iff _).1 hc with ⟨h, he⟩ | ⟨h, he⟩
    · exact .inl ⟨h.trans hlen, he⟩
    · exact .inr ⟨h.trans hlen, he⟩
  · rw [rxSubtype,
      x.get_front seqId (show etherHdrSize + 1 ≤ pos from le_trans (by decide) hpos)]
    exact hs

section
variable {macAddr : Mac} {es : EndStation} {nid : Ptr} {q : QueuedFrame}

theorem NotifiedCmd.recognised {locals : Locals} {cmd : NotifiedCmd}
    (h : cmd.queue macAddr locals es nid = .ok q) (hfits : cmd.Fits) (rest : List Byte) :
    Recognised subtypeAecp (q.frame ++ rest) := by
  have hcarries := cmd.carries h hfits
  have hlen := hcarries.length
  have hroom : q.frame.length ≤ (q.frame ++ rest).length := by
    rw [List.length_append]
    exact Nat.le_add_right _ _
  apply recognised_of_header (le_trans (by omega) hroom)
  · rw [get_append_front (by omega)]
    exact hcarries.ethertype
  · rw [get_append_front (by omega)]
    exact hcarries.subtype

theorem AcmpCmd.recognised {locals : AcmpLocals} {cmd : AcmpCmd}
    (h : cmd.queue macAddr locals es nid = .ok q) (rest : List Byte) :
    Recognised subtypeAcmp (q.frame ++ rest) := by
  rw [AcmpCmd.queue_eq] at h
  obtain ⟨entityId, -, h⟩ := bind_eq_ok.1 h
  obtain rfl := frame_of_sendAcmpCmd h
  let eth := etherHdr macAddr multicastAdpAcmp
  let hdr := AcmpControllerStateMachine.commonHdr cmd.msgType
  let acmpdu := cmd.acmpdu macAddr locals entityId
  have hbytes : writeFields eth.fields ++ (acmpdu.setHeader hdr).write ++ rest =
      writeFields (eth.fields ++ (hdr.fields ++ acmpdu.body)) ++ rest := by
    rw [Acmpdu.write, writeFields_append, writeFields_append]
    rfl
  rw [hbytes]
  apply recognised_of_header
  · rw [List.length_append, writeFields_append, List.length_append, eth.fields_length]
    simp only [etherHdrSize]
    omega
  · exact get_writeFields (eth.fields.take 2) ⟨2, avtpEthertype⟩
      (hdr.fields ++ acmpdu.body) rest
  · exact get_writeFields eth.fields ⟨1, hdr.cd ++ hdr.subtype⟩
      (hdr.fields.drop 1 ++ acmpdu.body) rest

theorem recognised_of_stateDiscover {locals : Locals} {discoverId : EntityId}
    {frame : List Byte}
    (h : AdpDiscoveryStateMachine.stateDiscover macAddr locals discoverId = .ok frame) :
    Recognised subtypeAdp frame := by
  obtain ⟨f₁, h₁, h⟩ := bind_eq_ok.1 h
  obtain ⟨f₂, h₂, h⟩ := bind_eq_ok.1 h
  split at h
  · next hroom =>
    cases h
    have hlen : f₂.length.toNat = adpFrameLen := by
      rw [(writeOr_eq_ok h₂).2, (startsWith_etherFrameInit h₁).2]
      rfl
    let hdr := AdpDiscoveryStateMachine.commonHdr discoverId
    have hread : ∀ w n, n + w ≤ 16 →
        get w n (f₂.payload.take f₂.length.toNat) = get w n f₂.payload := by
      intro w n hn
      rw [← List.append_nil (f₂.payload.take f₂.length.toNat)]
      exact get_take_append (by rw [hlen]; exact hn.trans (by decide)) hroom []
    apply recognised_of_header
    · rw [List.length_take_of_le hroom, hlen]
      decide
    · rw [hread 2 12 (by decide)]
      exact (addressed_of_etherFrameInit h₁).writeOr le_rfl h₂
    · rw [hread 1 14 (by decide)]
      exact get_writeAt [] ⟨1, hdr.cd ++ hdr.subtype⟩ (writeOr_eq_ok h₂).1
  · cases h

end

section
variable {c c' : BitVec 16} {tr : List (Engine (Payload 34) × EngineOp (Payload 34))}
  {s : Engine (Payload 34)} {tr' : List (Engine (Payload 62) × EngineOp (Payload 62))}
  {s' : Engine (Payload 62)}

/-- Every frame of a run is of a sender of the class. -/
def FromSenders {pos : Nat} (sender : QueuedFrame → Prop)
    (tr : List (Engine (Payload pos) × EngineOp (Payload pos))) : Prop :=
  ∀ t now id flag x, (t, EngineOp.sendCmd now id flag x) ∈ tr →
    ∃ q rest, sender q ∧ x.1 = q.frame ++ rest

def AecpSender (q : QueuedFrame) : Prop :=
  ∃ (macAddr : Mac) (locals : Locals) (es : EndStation) (nid : Ptr) (cmd : NotifiedCmd),
    cmd.queue macAddr locals es nid = .ok q ∧ cmd.Fits

def AcmpSender (q : QueuedFrame) : Prop :=
  ∃ (macAddr : Mac) (locals : AcmpLocals) (es : EndStation) (nid : Ptr) (cmd : AcmpCmd),
    cmd.queue macAddr locals es nid = .ok q

theorem recognised_of_sentAs {pos : Nat} {subtype : BitVec 7} {sender : QueuedFrame → Prop}
    {p : EngineSpec (Payload pos)} {tr : List (Engine (Payload pos) × EngineOp (Payload pos))}
    {b : Nat} {x : Payload pos} (hset : p.setSequenceId = Payload.setSequenceId)
    (hpos : 16 ≤ pos)
    (hsender : ∀ q rest, sender q → Recognised subtype (q.frame ++ rest))
    (hfrom : FromSenders sender tr) (hx : Engine.SentAs p c tr b x) :
    Recognised subtype x.1 := by
  obtain ⟨t, now, id, flag, cmd, hmem, -, rfl⟩ := hx
  obtain ⟨q, rest, hq, hcmd⟩ := hfrom t now id flag cmd hmem
  have hrec : Recognised subtype cmd.1 := by
    rw [hcmd]
    exact hsender q rest hq
  rw [hset]
  exact hrec.setSequenceId hpos _

/-- The filter lets the packets of the protocol through, and of the other VLANs none that is
dispatched. Whatever the two state machines transmit, for the first or the second time, is
received and dispatched by the subtype of its state machine, and so is the discover message. -/
theorem packet_filter
    (h : Run (Engine.Step aecpWireSpec) { Engine.new with seqId := c } tr s)
    (h' : Run (Engine.Step acmpWireSpec) { Engine.new with seqId := c' } tr' s')
    (hfrom : FromSenders AecpSender tr) (hfrom' : FromSenders AcmpSender tr') :
    (∀ frame, captures frame = true ↔
      14 ≤ frame.length ∧ get 2 12 frame = avtpEthertype ∨
      16 ≤ frame.length ∧ get 2 12 frame = vlanEthertype ∧ get 2 14 frame &&& 0xfff = 2) ∧
    (∀ frame, captures frame = true → rxSubtype frame ∈ dispatchedSubtypes →
      get 2 12 frame = avtpEthertype) ∧
    (∀ b x, .transmitted b x ∈ s.trace → Recognised subtypeAecp x.1) ∧
    (∀ b x, .transmitted b x ∈ s'.trace → Recognised subtypeAcmp x.1) ∧
    ∀ macAddr locals discoverId frame,
      AdpDiscoveryStateMachine.stateDiscover macAddr locals discoverId = .ok frame →
      Recognised subtypeAdp frame := by
  refine ⟨captures_iff, fun _ => ethertype_of_dispatched, ?_, ?_,
    fun _ _ _ _ => recognised_of_stateDiscover⟩
  · intro b x hx
    apply recognised_of_sentAs rfl (by decide) _ hfrom (Engine.sentAs_of_transmitted h hx)
    rintro q rest ⟨macAddr, locals, es, nid, cmd, hq, hfits⟩
    exact NotifiedCmd.recognised hq hfits rest
  · intro b x hx
    apply recognised_of_sentAs rfl (by decide) _ hfrom' (Engine.sentAs_of_transmitted h' hx)
    rintro q rest ⟨macAddr, locals, es, nid, cmd, hq⟩
    exact AcmpCmd.recognised hq rest

/-- The command of a sender is sent, and what is inflight after five seconds is timed out. -/
def sentAndTicked {pos : Nat} (p : EngineSpec (Payload pos)) (q : QueuedFrame)
    (x : Payload pos) :
    Engine (Payload pos) :=
  (Engine.stateSendCmd p 0 { Engine.new with seqId := 0 } q.notificationId q.notificationFlag
    x).tick p 5000

theorem exists_sent {pos : Nat} {p : EngineSpec (Payload pos)} {sender : QueuedFrame → Prop}
    {q : QueuedFrame} (hq : sender q) (x : Payload pos) (hx : x.1 = q.frame)
    (hcommand : p.isResponse x = false) :
    ∃ tr, Run (Engine.Step p) { Engine.new with seqId := 0 } tr (sentAndTicked p q x) ∧
      FromSenders sender tr := by
  have hrun : Run (Engine.Step p) { Engine.new with seqId := 0 } _ (sentAndTicked p q x) :=
    (Run.nil.snoc (e := .sendCmd 0 q.notificationId q.notificationFlag x)
      (.sendCmd hcommand)).snoc (e := .tick 5000) .tick
  refine ⟨_, hrun, ?_⟩
  intro t now id flag cmd hcmd
  rcases List.mem_append.1 hcmd with hcmd | hcmd
  · cases List.mem_singleton.1 hcmd
    exact ⟨q, [], hq, hx.trans (List.append_nil _).symm⟩
  · cases List.mem_singleton.1 hcmd

/-- ENTITY_AVAILABLE and CONNECT_RX, both of them sent twice, and the discover message. -/
theorem packet_filter_sent :
    ∃ (tr : List (Engine (Payload 34) × EngineOp (Payload 34))) (s : Engine (Payload 34))
      (tr' : List (Engine (Payload 62) × EngineOp (Payload 62))) (s' : Engine (Payload 62)),
      Run (Engine.Step aecpWireSpec) { Engine.new with seqId := 0 } tr s ∧
      Run (Engine.Step acmpWireSpec) { Engine.new with seqId := 0 } tr' s' ∧
      s.transmissions 0 = 2 ∧ s'.transmissions 0 = 2 ∧
      (∀ b x, .transmitted b x ∈ s.trace → Recognised subtypeAecp x.1) ∧
      (∀ b x, .transmitted b x ∈ s'.trace → Recognised subtypeAcmp x.1) ∧
      ∃ frame, AdpDiscoveryStateMachine.stateDiscover 7 clearedLocals 0 = .ok frame ∧
        Recognised subtypeAdp frame := by
  obtain ⟨q, hq, hlen, hcommand, htwice⟩ : ∃ q, (NotifiedCmd.send .entityAvail).queue 7
      clearedLocals unreadStation 1 = .ok q ∧ ∃ hlen : 36 ≤ q.frame.length,
      aecpSpec.isResponse (AecpFrame.ofPayload q.frame) = false ∧
      (sentAndTicked aecpWireSpec q ⟨q.frame, hlen⟩).transmissions 0 = 2 :=
    ⟨_, rfl, by decide, by decide, by decide +kernel⟩
  obtain ⟨q', hq', hlen', hcommand', htwice'⟩ : ∃ q, (AcmpCmd.connectRx
      { descriptorType := .streamInput, descriptorIndex := 0 } 1 0 0).queue 7 clearedAcmpLocals
      (CmdLine.streamStation 2 [] []) 7 = .ok q ∧ ∃ hlen : 64 ≤ q.frame.length,
      acmpSpec.isResponse (AcmpFrame.ofPayload q.frame) = false ∧
      (sentAndTicked acmpWireSpec q ⟨q.frame, hlen⟩).transmissions 0 = 2 :=
    ⟨_, rfl, by decide, by decide, by decide +kernel⟩
  obtain ⟨frame, hframe⟩ : ∃ frame,
      AdpDiscoveryStateMachine.stateDiscover 7 clearedLocals 0 = .ok frame := ⟨_, rfl⟩
  obtain ⟨tr, hrun, hfrom⟩ := exists_sent (p := aecpWireSpec)
    (show AecpSender q from ⟨7, clearedLocals, unreadStation, 1,
      .send .entityAvail, hq, trivial⟩)
      ⟨q.frame, hlen⟩ rfl hcommand
  obtain ⟨tr', hrun', hfrom'⟩ := exists_sent (p := acmpWireSpec)
    (show AcmpSender q' from ⟨7, clearedAcmpLocals, _, 7, _, hq'⟩)
      ⟨q'.frame, hlen'⟩ rfl hcommand'
  obtain ⟨-, -, haecp, hacmp, hadp⟩ := packet_filter hrun hrun' hfrom hfrom'
  exact ⟨tr, _, tr', _, hrun, hrun', htwice, htwice', haecp, hacmp, frame, hframe,
    hadp _ _ _ _ hframe⟩

end

end AvdeccLib
