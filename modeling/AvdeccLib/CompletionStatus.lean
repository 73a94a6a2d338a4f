import AvdeccLib.Arming

namespace AvdeccLib
set_option autoImplicit true

open Runs Outcome

/-- The status field of a response. -/
def RxFrame.respStatus : RxFrame → Option (BitVec 5)
  | .aecp f => some f.status
  | .acmp f => some f.status
  | .adp _ | .other _ => none

/-- The responses that `proc_set_control_resp` handles. -/
def AecpFrame.isSetControlResp (f : AecpFrame) : Bool :=
  f.messageType == .aemResponse && f.commandType == .setControl

theorem AecpFrame.isSetControlResp_eq {f : AecpFrame} (hm : f.messageType = .aemResponse) :
    f.isSetControlResp = (f.commandType == .setControl) := by
  rw [isSetControlResp, hm, beq_self_eq_true, Bool.true_and]

/-- A handler that reports the frame's status whenever it changes the AECP state machine. -/
def Reports (frame : AecpFrame) (handler : RespHandler AecpFrame) : Prop :=
  ∀ g out g' out', handler frame g out = .ok (g', out') →
    g'.aecp = g.aecp ∨ out'.status = frame.status.toNat

theorem reports_quiet {frame : AecpFrame} {f : AecpFrame → Globals → RxOut → Globals × RxOut}
    (hf : ∀ g out, (f frame g out).1.aecp = g.aecp) :
    Reports frame fun frame g out => pure (f frame g out) := by
  intro g out g' out' h
  have haecp := hf g out
  rw [Except.ok.inj h] at haecp
  exact .inl haecp

theorem reports_procAemResp (frame : AecpFrame) (asserts : Bool) :
    Reports frame (procAemResp asserts) := by
  intro g out g' out' h
  rw [procAemResp] at h
  split at h
  · split at h
    · cases h
    · cases h
      exact .inl rfl
  · cases h
    exact .inr rfl

theorem Reports.implementedBy {frame : AecpFrame} {handler : RespHandler AecpFrame}
    (hh : Reports frame handler) (t : DescType) : Reports frame (implementedBy t handler) := by
  intro g out g' out' h
  rw [AvdeccLib.implementedBy] at h
  split at h
  · exact hh g out g' out' h
  · cases h
    exact .inl rfl

theorem reports_procStartOperationResp (frame : AecpFrame) :
    Reports frame procStartOperationResp := by
  intro g out g' out' h
  rw [procStartOperationResp] at h
  split at h
  · cases h
    exact .inl rfl
  · simp only at h
    split at h
    · cases h
      exact .inr rfl
    · cases h
      exact .inr rfl

theorem reports_procOperationStatusResp (frame : AecpFrame) :
    Reports frame procOperationStatusResp := by
  intro g out g' out' h
  rw [procOperationStatusResp] at h
  split at h
  · cases h
    exact .inl rfl
  · cases h
    exact .inr rfl

namespace EndStation

variable {es : EndStation} {frame : AecpFrame} {handler : RespHandler AecpFrame}

theorem reports_onObject (hh : Reports frame handler) (t : DescType) (i : BitVec 16) :
    Reports frame (es.onObject t i handler) := by
  intro g out g' out' h
  rcases onObject_cases h with ⟨rfl, -⟩ | ⟨-, h⟩
  · exact .inl rfl
  · exact hh g out g' out' h

theorem reports_onTypes (hh : Reports frame handler) (types : List DescType) :
    Reports frame (es.onTypes types handler) := by
  intro g out g' out' h
  rcases onTypes_cases h with ⟨rfl, -⟩ | ⟨-, -, h⟩
  · exact .inl rfl
  · exact hh g out g' out' h

/-- Of the commands SET_CONTROL alone has a handler that does not set the status. -/
theorem reports_aemRespHandler (hc : frame.commandType ≠ .setControl) :
    Reports frame (es.aemRespHandler frame) := by
  have haem := reports_procAemResp frame
  rw [aemRespHandler]
  cases ht : frame.commandType with
  | setStreamFormat | getStreamFormat | getStreamInfo | startStreaming | stopStreaming
  | setSamplingRate | getSamplingRate => exact reports_onTypes (haem true) _
  | acquireEntity | lockEntity | setStreamInfo =>
    exact reports_onTypes ((haem true).implementedBy _) _
  | reboot => exact reports_onTypes (haem false) _
  | setClockSource | getClockSource => exact reports_onObject (haem true) _ _
  | entityAvailable => exact haem false
  | startOperation => exact reports_onTypes (reports_procStartOperationResp frame) _
  | operationStatus => exact reports_onTypes (reports_procOperationStatusResp frame) _
  | setControl => exact absurd ht hc
  | setName | getName | readDescriptor | controllerAvailable | other =>
    exact reports_quiet fun _ _ => rfl

theorem procRcvdAemResp_status {now : Timestamp} {g g' : Globals} {es' : EndStation}
    {out out' : RxOut} (hc : frame.commandType ≠ .setControl)
    (h : es.procRcvdAemResp now frame g out = .ok (g', es', out')) :
    g'.aecp = g.aecp ∨ out'.status = frame.status.toNat := by
  rw [procRcvdAemResp] at h
  split at h
  · rw [procReadDescResp] at h
    split at h
    · cases h
      exact .inl rfl
    · obtain ⟨⟨es₁, tx, posts⟩, -, h⟩ := bind_eq_ok.1 h
      cases h
      exact .inr rfl
  · obtain ⟨⟨g₁, out₁⟩, hh, h⟩ := bind_eq_ok.1 h
    cases h
    exact reports_aemRespHandler hc g out _ _ hh

theorem procRcvdAemResp_setControl {now : Timestamp} {g g' : Globals} {es' : EndStation}
    {out out' : RxOut} (hc : frame.commandType = .setControl)
    (h : es.procRcvdAemResp now frame g out = .ok (g', es', out')) :
    out'.status = out.status := by
  have hread : frame.commandType ≠ .readDescriptor := by
    rw [hc]
    exact AemCommandType.noConfusion
  rw [procRcvdAemResp, if_neg hread, aemRespHandler, hc] at h
  obtain ⟨⟨g₁, out₁⟩, hh, h⟩ := bind_eq_ok.1 h
  cases hh
  cases h
  rfl

end EndStation

theorem procRcvdAcmpResp_status {es : EndStation} {frame : AcmpFrame} {g g' : Globals}
    {out out' : RxOut} (h : es.procRcvdAcmpResp frame g out = .ok (g', out')) :
    g'.acmp = g.acmp ∨ out'.status = frame.status.toNat := by
  have hobj : ∀ t i, es.onObject t i procAcmpResp frame g out = .ok (g', out') →
      g'.acmp = g.acmp ∨ out'.status = frame.status.toNat := by
    intro t i h
    rcases EndStation.onObject_cases h with ⟨rfl, -⟩ | ⟨-, h⟩
    · exact .inl rfl
    · rw [procAcmpResp] at h
      split at h
      · cases h
      · cases h
        exact .inr rfl
  rw [EndStation.procRcvdAcmpResp] at h
  split at h
  · exact hobj _ _ h
  · exact hobj _ _ h
  · exact hobj _ _ h
  · exact hobj _ _ h
  · exact hobj _ _ h
  · cases h
    exact .inl rfl

/-- What `fn_netif` gets for a response that completes a command: its status, or for SET_CONTROL
the value that the status is initialised with. -/
def RxFrame.reported (status : BitVec 5) : RxFrame → Int
  | .aecp f => if f.isSetControlResp then -1 else status.toNat
  | _ => status.toNat

namespace Controller

theorem GlobalsReceived.acmp_eq {c : Controller} {g : Globals} {f : AecpFrame} {out : RxOut}
    (h : GlobalsReceived c (.aecp f) g out) : g.acmp = c.globals.acmp := by
  cases h with
  | other => rfl
  | aecp _ _ _ hg => exact hg.acmp

theorem GlobalsReceived.aecp_eq {c : Controller} {g : Globals} {f : AcmpFrame} {out : RxOut}
    (h : GlobalsReceived c (.acmp f) g out) : g.aecp = c.globals.aecp := by
  cases h with
  | other => rfl
  | acmp hg => exact hg.aecp

theorem GlobalsReceived.txPipe {c : Controller} {g : Globals} {frame : RxFrame} {out : RxOut}
    (h : GlobalsReceived c frame g out) : ∃ tx, g.txPipe = c.globals.txPipe ++ tx := by
  cases h with
  | other => exact ⟨_, rfl⟩
  | aecp _ _ _ hg =>
    obtain ⟨tx, hpipe, -⟩ := hg.txPipe
    exact ⟨tx, hpipe⟩
  | acmp hg => exact ⟨[], by rw [hg.txPipe, List.append_nil]⟩

theorem rxAecp_status {c c' : Controller} {now : Timestamp} {frame : AecpFrame} {out : RxOut}
    (h : c.rxAecp now frame {} = .ok (c', out)) :
    c'.globals.aecp = c.globals.aecp ∨
      out.status = RxFrame.reported frame.status (.aecp frame) := by
  rw [RxFrame.reported]
  rw [rxAecp] at h
  cases hd : frame.destMac == c.globals.macAddr with
  | false =>
    rw [hd] at h
    cases h
    exact .inl rfl
  | true =>
    cases hf : c.findInEndStation frame.targetEntityId frame.controllerEntityId with
    | none =>
      rw [hd, hf] at h
      cases h
      exact .inl rfl
    | some p =>
      obtain ⟨es, i⟩ := p
      simp only [hd, hf] at h
      cases hm : frame.messageType with
      | aemResponse =>
        simp only [hm] at h
        split at h
        · next hc =>
          obtain ⟨⟨g, out₁⟩, hh, h⟩ := bind_eq_ok.1 h
          cases h
          rw [AecpFrame.isSetControlResp_eq hm, hc]
          have hstatus := reports_procAemResp frame true c.globals {} g out₁ hh
          exact hstatus
        · obtain ⟨⟨g, es', out₁⟩, hh, h⟩ := bind_eq_ok.1 h
          cases h
          by_cases hc : frame.commandType = .setControl
          · rw [AecpFrame.isSetControlResp_eq hm, beq_iff_eq.2 hc]
            right
            have hstatus := EndStation.procRcvdAemResp_setControl hc hh
            exact hstatus
          · rw [AecpFrame.isSetControlResp_eq hm, beq_eq_false_iff_ne.2 hc]
            have hstatus := EndStation.procRcvdAemResp_status hc hh
            exact hstatus
      | addressAccessResponse =>
        simp only [hm] at h
        have hno : frame.isSetControlResp = false := by rw [AecpFrame.isSetControlResp, hm]; rfl
        obtain ⟨⟨g, out₁⟩, hh, h⟩ := bind_eq_ok.1 h
        cases h
        cases hh
        rw [hno]
        exact .inr rfl
      | aemCommand =>
        simp only [hm] at h
        cases h
        exact .inl rfl
      | addressAccessCommand =>
        simp only [hm] at h
        cases h
        exact .inl rfl
      | other code =>
        simp only [hm] at h
        cases h
        exact .inl rfl

theorem rxAcmp_status {c c' : Controller} {uninit : EntityId} {frame : AcmpFrame} {out : RxOut}
    (h : c.rxAcmp uninit frame {} = .ok (c', out)) :
    c'.globals.acmp = c.globals.acmp ∨ out.status = frame.status.toNat := by
  rw [rxAcmp] at h
  split at h
  · obtain ⟨⟨g, out₁⟩, hh, h⟩ := bind_eq_ok.1 h
    cases h
    have hstatus := procRcvdAcmpResp_status hh
    exact hstatus
  · cases h
    exact .inl rfl

theorem rxPacketEvent_status {c c' : Controller} {now : Timestamp} {uninit : EntityId}
    {frame : RxFrame} {out : RxOut} {status : BitVec 5} (hst : frame.respStatus = some status)
    (h : c.rxPacketEvent now uninit frame {} = .ok (c', out)) :
    c'.globals.aecp = c.globals.aecp ∧ c'.globals.acmp = c.globals.acmp ∨
      out.status = frame.reported status := by
  have hg := rxPacketEvent_globals h
  unfold rxPacketEvent at h
  simp only at h
  split at h
  · cases frame with
    | adp f => cases hst
    | other mac => cases hst
    | aecp f =>
      cases hst
      rcases rxAecp_status h with haecp | hstatus
      · exact .inl ⟨haecp, hg.acmp_eq⟩
      · exact .inr hstatus
    | acmp f =>
      cases hst
      rcases rxAcmp_status h with hacmp | hstatus
      · exact .inl ⟨hg.aecp_eq, hacmp⟩
      · exact .inr hstatus
  · cases h
    exact .inl ⟨rfl, rfl⟩

/-- A response that completes a command is from an end station that is known. -/
theorem endStationVec_of_lost {c c' : Controller} {now : Timestamp} {uninit : EntityId}
    {frame : RxFrame} {out : RxOut} {id : Ptr}
    (h : c.rxPacketEvent now uninit frame {} = .ok (c', out))
    (hlost : c'.globals.held id < c.globals.held id) : c'.endStationVec ≠ [] := by
  have hsame : c'.globals = c.globals → c'.endStationVec ≠ [] := by
    intro he
    rw [he] at hlost
    exact absurd hlost (Nat.lt_irrefl _)
  have hmem : ∀ id cid es i, c.findInEndStation id cid = some (es, i) → es ∈ c.endStationVec :=
    fun id cid es i hf => List.mem_of_getElem? (findInEndStation_some hf).1
  cases rxPacketEvent_received h with
  | ignored => exact hsame rfl
  | adp _ hadp =>
    obtain ⟨tx, hg, -⟩ := rxAdp_globals hadp
    simp only [hg, Globals.held, List.countP_append] at hlost
    omega
  | aecp haecp =>
    cases haecp with
    | ignored => exact hsame rfl
    | handled _ _ hf =>
      intro hnil
      have hes := hmem _ _ _ _ hf
      rw [(List.set_eq_nil_iff _ _).1 hnil] at hes
      cases hes
  | acmp =>
    rename_i f _
    simp only [rxPacketEvent] at h
    split at h
    · rw [rxAcmp] at h
      split at h
      · next hf =>
        obtain ⟨⟨g, out₁⟩, -, h⟩ := bind_eq_ok.1 h
        cases h
        exact List.ne_nil_of_mem (hmem _ _ _ _ hf)
      · cases h
        exact hsame rfl
    · cases h
      exact hsame rfl

/-- The frame completes the command with the id, and an OPERATION_STATUS handler returns the id
of another command for it. -/
def Misattributes (c : Controller) (frame : RxFrame) (id : Ptr) : Prop :=
  match frame with
  | .aecp f => f.messageType = .aemResponse ∧ StealsWakeup c (.aecp f) id
  | _ => False

theorem rxAecp_addressAccess {c c' : Controller} {now : Timestamp}
    {frame : AecpFrame} {out : RxOut}
    (hm : frame.messageType = .addressAccessResponse)
    (h : c.rxAecp now frame {} = .ok (c', out)) :
    c'.globals = c.globals ∨ c'.globals.acmp = c.globals.acmp ∧
      c'.globals.txPipe = c.globals.txPipe ∧
      (c'.globals.aecp, out.notificationId) = c.globals.aecp.stateRcvdResp null frame := by
  have hf : frame.isResponse = true := by rw [AecpFrame.isResponse, hm]
  rw [rxAecp] at h
  cases hd : frame.destMac == c.globals.macAddr with
  | false =>
    rw [hd] at h
    cases h
    exact .inl rfl
  | true =>
    cases hfound : c.findInEndStation frame.targetEntityId frame.controllerEntityId with
    | none =>
      rw [hd, hfound] at h
      cases h
      exact .inl rfl
    | some p =>
      simp only [hd, hfound, hm] at h
      obtain ⟨⟨g, out₁⟩, hh, h⟩ := bind_eq_ok.1 h
      cases h
      rw [procRcvdAecpAaResp, ← hm] at hh
      simp only [updateInflight_eq hf] at hh
      cases hh
      right
      split
      · exact ⟨rfl, rfl, rfl⟩
      · exact ⟨rfl, rfl, rfl⟩

theorem aemRespHandler_operationStatus {es : EndStation} {frame : AecpFrame}
    (hr : es.ReportsOperation frame) (g : Globals) (out : RxOut) :
    es.aemRespHandler frame frame g out = procOperationStatusResp frame g out := by
  obtain ⟨hc, ht, -, d, hd⟩ := hr
  have hobj : es.onTypes [.memoryObject] procOperationStatusResp frame g out =
      procOperationStatusResp frame g out := by
    unfold EndStation.onTypes EndStation.onObject
    rw [if_pos (List.mem_singleton.2 ht), ht, hd]
    rfl
  rw [EndStation.aemRespHandler, hc]
  exact hobj

theorem rxAecp_operationStatus {c c' : Controller} {now : Timestamp} {frame : AecpFrame}
    {es : EndStation} {i : Nat} {out : RxOut} (hm : frame.messageType = .aemResponse)
    (hd : frame.destMac = c.globals.macAddr)
    (hf : c.findInEndStation frame.targetEntityId frame.controllerEntityId = some (es, i))
    (hr : es.ReportsOperation frame) (h : c.rxAecp now frame {} = .ok (c', out)) :
    out.notificationId = ((c.globals.aecp.stateRcvdResp null frame).1.updateOperationForRcvdResp
      (c.globals.aecp.stateRcvdResp null frame).2 frame.operationId frame.percentComplete
      frame).2 := by
  have hc := hr.1
  have hok := hr.2.2.1
  have hctl : frame.commandType ≠ .controllerAvailable := by
    rw [hc]
    exact AemCommandType.noConfusion
  have hread : frame.commandType ≠ .readDescriptor := by
    rw [hc]
    exact AemCommandType.noConfusion
  rw [rxAecp] at h
  simp only [hd, beq_self_eq_true, hf, hm, if_neg hctl] at h
  obtain ⟨⟨g, es', out₁⟩, hh, h⟩ := bind_eq_ok.1 h
  cases h
  rw [EndStation.procRcvdAemResp, if_neg hread, aemRespHandler_operationStatus hr,
    procOperationStatusResp] at hh
  simp only [hok, updateInflight_eq (isResponse_of_aem hm)] at hh
  cases hh
  rfl

theorem misattributed_ne {c c' : Controller} {now : Timestamp} {uninit : EntityId}
    {frame : RxFrame} {out : RxOut} {id : Ptr} (hmis : c.Misattributes frame id)
    (h : c.rxPacketEvent now uninit frame {} = .ok (c', out)) : out.notificationId ≠ id := by
  cases frame with
  | adp f => exact hmis.elim
  | acmp f => exact hmis.elim
  | other mac => exact hmis.elim
  | aecp f =>
    obtain ⟨hm, hf, hd, es, i, hfound, hr, ⟨j, hj, -⟩, o, ho, hne⟩ := hmis
    have hacc : c.accepts (RxFrame.aecp f).destMac = true := by
      rw [accepts, RxFrame.destMac, hd, beq_self_eq_true, Bool.true_or]
    simp only [rxPacketEvent, hacc, if_true] at h
    rw [rxAecp_operationStatus hm hd hfound hr h,
      AecpControllerStateMachine.updateOperationForRcvdResp]
    have hops : (c.globals.aecp.stateRcvdResp null f).1.activeOperations =
      c.globals.aecp.activeOperations := rfl
    simp only [hops, ho]
    exact hne

/-- A response that completes the last command with an id returns that id, unless it is an
OPERATION_STATUS response that names the operation of another one. -/
theorem rxPacketEvent_taken {c c' : Controller} {now : Timestamp} {uninit : EntityId}
    {frame : RxFrame} {out : RxOut} {id : Ptr}
    (h : c.rxPacketEvent now uninit frame {} = .ok (c', out))
    (hlost : c'.globals.held id < c.globals.held id) :
    out.isNotificationIdValid = true ∧
      (out.notificationId = id ∨ c.Misattributes frame id) := by
  obtain ⟨-, -, hg⟩ := (rxPacketEvent_globals h).held
  obtain ⟨hvalid, hid | ⟨hsteals, -⟩⟩ := hg id hlost
  · exact ⟨hvalid, .inl hid⟩
  · refine ⟨hvalid, ?_⟩
    cases frame with
    | adp f => exact hsteals.elim
    | acmp f => exact hsteals.elim
    | other mac => exact hsteals.elim
    | aecp f =>
      by_cases hm : f.messageType = .aemResponse
      · exact .inr ⟨hm, hsteals⟩
      · left
        have haa : f.messageType = .addressAccessResponse := by
          have hf := hsteals.1
          rw [AecpFrame.isResponse] at hf
          cases ht : f.messageType with
          | aemResponse => exact absurd ht hm
          | addressAccessResponse => rfl
          | aemCommand | addressAccessCommand | other =>
            rw [ht] at hf
            cases hf
        unfold rxPacketEvent at h
        simp only at h
        split at h
        · rcases rxAecp_addressAccess haa h with hsame | ⟨hacmp, hpipe, haecp⟩
          · rw [hsame] at hlost
            exact absurd hlost (Nat.lt_irrefl _)
          · have hm₁ : c'.globals.aecp = _ := congrArg Prod.fst haecp
            have hid : out.notificationId = _ := congrArg Prod.snd haecp
            rw [hid]
            rw [Globals.held, Globals.held, hacmp, hpipe, hm₁] at hlost
            exact ((c.globals.aecp.held_stateRcvdResp f).2.2 id (by omega)).1
        · cases h
          exact absurd hlost (Nat.lt_irrefl _)

end Controller

namespace System

/-- The app thread is in `sem_wait` and nothing has been posted to it. -/
def Blocked (s : System) : Prop := s.app = .waiting ∧ s.waitingSem = 0

/-- The last command with the id that the app thread waits for is finished. -/
def CompletesAwaited (s s' : System) : Prop :=
  0 < s.controller.globals.held s.waitMgr.notifyId ∧
    s'.controller.globals.held s.waitMgr.notifyId = 0

/-- The next status that the app thread reads for `get_last_resp_status` can be this one. -/
def Returns (s : System) (status : Int) : Prop :=
  ∃ tr s₁ s₂, Run Step s tr s₁ ∧ (∀ p ∈ tr, p.2 ≠ .getStatus) ∧ Step s₁ .getStatus s₂ ∧
    s₂.respStatusForCmd = status

/-- What holds from the end of the awaited command to the read of its status. `posts` is how
often the semaphore was posted to by then. -/
structure Over (id : Ptr) (status : Int) (posts : Nat) (s : System) : Prop where
  consistent : Consistent s
  notifyId : s.waitMgr.notifyId = id
  held : s.controller.globals.held id = 0
  status : s.waitMgr.completionStatus = status
  place : s.app = .waiting ∧ s.waitingSem = posts ∨ s.app = .woken ∧ 0 < posts

/-- The lib thread does not release the app thread for a command that is finished. -/
theorem Over.lib {id : Ptr} {status : Int} {posts : Nat} {s s' : System} {a : Action}
    (h : Over id status posts s) (hne : id ≠ null) (hc : Consistent s') (hl : LibStep s a s') :
    Over id status posts s' := by
  cases hl with
  | quiet hle =>
    have hzero := hle id hne
    rw [h.held] at hzero
    exact ⟨hc, h.notifyId, Nat.eq_zero_of_le_zero hzero, h.status, h.place⟩
  | release ha hle hdone =>
    rw [h.notifyId] at hdone
    obtain ⟨-, hf⟩ := hdone hne (by rw [h.held]; exact Nat.zero_le 1)
    have hpos := hf.held
    rw [h.held] at hpos
    cases hpos

theorem over_step {id : Ptr} {status : Int} {posts : Nat} {s s' : System} {a : Action}
    (h : Over id status posts s) (hne : id ≠ null) (ha : a ≠ .getStatus) (hs : Step s a s') :
    Over id status posts s' := by
  have hc := consistent_step h.consistent hs
  have happ : s.app = .waiting ∨ s.app = .woken := h.place.imp And.left And.left
  have hno : ∀ pc : AppPc, s.app = pc → pc ≠ .waiting → pc ≠ .woken →
      Over id status posts s' := by
    rintro pc rfl hw hk
    exact absurd happ (not_or.2 ⟨hw, hk⟩)
  have hlib := step_libStep h.consistent.pipe hs
  cases hs with
  | setWaitForNextCmd hp => exact hno _ hp AppPc.noConfusion AppPc.noConfusion
  | writePipe hp => exact hno _ hp AppPc.noConfusion AppPc.noConfusion
  | testWait hp => exact hno _ hp AppPc.noConfusion AppPc.noConfusion
  | setActive hp => exact hno _ hp AppPc.noConfusion AppPc.noConfusion
  | setIdle hp => exact hno _ hp AppPc.noConfusion AppPc.noConfusion
  | getStatus => exact absurd rfl ha
  | semWait hp hpos =>
    refine ⟨hc, h.notifyId, h.held, h.status, .inr ⟨rfl, ?_⟩⟩
    rcases h.place with ⟨-, hsem⟩ | ⟨-, hposts⟩
    · rwa [← hsem]
    · exact hposts
  | fnTx => exact h.lib hne hc (hlib rfl)
  | fnNetif => exact h.lib hne hc (hlib rfl)
  | fnTimer => exact h.lib hne hc (hlib rfl)

theorem over_run {id : Ptr} {status : Int} {posts : Nat} {s s' : System}
    {tr : List (System × Action)} (h : Over id status posts s) (hne : id ≠ null)
    (hr : Run Step s tr s') (htr : ∀ p ∈ tr, p.2 ≠ .getStatus) : Over id status posts s' := by
  have hg : Along (fun _ a => a ≠ Action.getStatus) tr := htr
  exact hr.invariant_along hg h fun _ _ _ h ha hs => over_step h hne ha hs

theorem returns_of_posted {s : System} (happ : s.app = .waiting) (hsem : 0 < s.waitingSem) :
    s.Returns s.waitMgr.completionStatus := by
  have hwoken : Run Step s _ _ := Run.nil.snoc (.semWait happ hsem)
  refine ⟨_, _, _, hwoken, ?_, .getStatus rfl, rfl⟩
  intro p hp
  cases List.mem_singleton.1 hp
  exact Action.noConfusion

/-- Once the command is finished, the app thread reads the completion status if the semaphore
was posted to, and nothing otherwise. -/
theorem Over.returns_iff {id : Ptr} {status : Int} {posts : Nat} {s : System}
    (h : Over id status posts s) (hne : id ≠ null) (happ : s.app = .waiting) (x : Int) :
    s.Returns x ↔ 0 < posts ∧ x = status := by
  have hsem : s.waitingSem = posts := by
    rcases h.place with ⟨-, hsem⟩ | ⟨hp, -⟩
    · exact hsem
    · rw [happ] at hp
      cases hp
  constructor
  · rintro ⟨tr, s₁, s₂, hr, htr, hread, rfl⟩
    have hover := over_run h hne hr htr
    cases hread with
    | getStatus hp =>
      refine ⟨?_, hover.status⟩
      rcases hover.place with ⟨hw, -⟩ | ⟨-, hposts⟩
      · rw [hp] at hw
        cases hw
      · exact hposts
  · rintro ⟨hposts, rfl⟩
    rw [← h.status]
    exact returns_of_posted happ (by rwa [hsem])

/-- The response that completes the awaited command posts to the semaphore once, with what it
reports, unless it returns the id of another command. -/
theorem over_of_completes {s s' : System} {now : Timestamp} {uninit : EntityId}
    {frame : RxFrame}
    {status : BitVec 5} (hc : Consistent s) (hb : s.Blocked)
    (hst : frame.respStatus = some status) (hs : s.fnNetif now uninit frame = .ok s')
    (hcompl : CompletesAwaited s s') :
    s'.app = .waiting ∧ ∃ posts, Over s.waitMgr.notifyId s'.waitMgr.completionStatus posts s' ∧
      (s.controller.Misattributes frame s.waitMgr.notifyId → posts = 0) ∧
      (¬ s.controller.Misattributes frame s.waitMgr.notifyId →
        posts = 1 ∧ s'.waitMgr.completionStatus = frame.reported status) := by
  obtain ⟨happ, hsem⟩ := hb
  obtain ⟨hpos, hzero⟩ := hcompl
  have hc' := consistent_step hc (.fnNetif hs)
  have hact : s.waitMgr.state = .waitActive := by
    have hagrees := hc.agrees
    rwa [Agrees, happ] at hagrees
  obtain ⟨c, out, hrx, hs⟩ := fnNetif_cases hs
  have hcontroller : s'.controller = c := by
    split at hs
    · rw [hs]
      rfl
    · rw [hs]
  rw [hcontroller] at hzero
  obtain ⟨hvalid, htaken⟩ := Controller.rxPacketEvent_taken hrx (by rw [hzero]; exact hpos)
  have hunf : c.globals.unfinished s.waitMgr.notifyId = 0 := by
    rw [Globals.held] at hzero
    rw [Globals.unfinished]
    omega
  split at hs
  · next hrel =>
    have hno : ¬ s.controller.Misattributes frame s.waitMgr.notifyId :=
      fun hmis => Controller.misattributed_ne hmis hrx hrel.2.2.1
    subst hs
    refine ⟨happ, 1, ⟨hc', rfl, hzero, rfl, .inl ⟨happ, ?_⟩⟩, fun h => absurd h hno, ?_⟩
    · show s.waitingSem + 1 = 1
      rw [hsem]
    · intro _
      refine ⟨rfl, ?_⟩
      rcases Controller.rxPacketEvent_status hst hrx with ⟨haecp, hacmp⟩ | hstatus
      · obtain ⟨tx, hpipe⟩ := (Controller.rxPacketEvent_globals hrx).txPipe
        rw [Globals.held, haecp, hacmp, hpipe, List.countP_append] at hzero
        rw [Globals.held] at hpos
        omega
      · exact hstatus
  · next hno =>
    subst hs
    have hmis : s.controller.Misattributes frame s.waitMgr.notifyId := by
      rcases htaken with hid | hmis
      · exact absurd ⟨hact, hvalid, hid, hunf⟩ hno
      · exact hmis
    exact ⟨happ, 0, ⟨hc', rfl, hzero, rfl, .inl ⟨happ, hsem⟩⟩, fun _ => rfl,
      fun h => absurd hmis h⟩

theorem returns_ignored {s : System} (hc : Consistent s) (happ : s.app = .waiting)
    (hid : s.waitMgr.notifyId = null) (hheld : s.controller.globals.held null = 0)
    (hne : s.controller.endStationVec ≠ []) : s.Returns (-1) := by
  obtain ⟨es, l, hl⟩ := List.exists_cons_of_ne_nil hne
  let frame : AecpFrame := {
    destMac := s.controller.globals.macAddr
    messageType := .aemResponse
    targetEntityId := es.adp.entityId
    controllerEntityId := getControllerEntityId s.controller.globals.macAddr
    commandType := .getName }
  have hact : s.waitMgr.state = .waitActive := by
    have hagrees := hc.agrees
    rwa [Agrees, happ] at hagrees
  have hfound : s.controller.findInEndStation frame.targetEntityId frame.controllerEntityId =
      some (es, 0) := by
    simp [Controller.findInEndStation, hl, frame]
  have hset : s.controller.endStationVec.set 0 es = s.controller.endStationVec := by
    rw [hl, List.set_cons_zero]
  have hrx : s.controller.rxPacketEvent 0 0 (.aecp frame) {} =
      .ok (s.controller, { ({} : RxOut) with isNotificationIdValid := true }) := by
    simp [Controller.rxPacketEvent, Controller.accepts, RxFrame.destMac, Controller.rxAecp,
      hfound, frame, EndStation.procRcvdAemResp, EndStation.aemRespHandler, hset, pure,
      Except.pure, bind, Except.bind]
  have hcomplete : s.isComplete s.waitMgr.notifyId = true := by
    rw [isComplete_iff, hid, Globals.unfinished]
    rw [Globals.held] at hheld
    omega
  have hnet : s.fnNetif 0 0 (.aecp frame) = .ok (s.released s.controller (-1)) := by
    have hwait : (s.waitMgr.activeState && true && s.waitMgr.matchId null &&
        s.isComplete s.waitMgr.notifyId) = true := by
      rw [hcomplete, CmdWaitMgr.activeState, hact, CmdWaitMgr.matchId, hid]
      rfl
    rw [fnNetif, hrx]
    exact (if_pos hwait).trans (congrArg Except.ok (release_eq hact))
  obtain ⟨tr, s₁, s₂, hr, htr, hread, hx⟩ :=
    returns_of_posted (s := s.released s.controller (-1))
    happ (Nat.succ_pos _)
  have hstep : Run Step s _ _ := Run.nil.snoc (.fnNetif hnet)
  refine ⟨_, s₁, s₂, hstep.append hr, ?_, hread, hx⟩
  intro p hp
  rcases List.mem_append.1 hp with hp | hp
  · cases List.mem_singleton.1 hp
    exact Action.noConfusion
  · exact htr p hp

theorem reported_eq_iff {frame : RxFrame} {status : BitVec 5} :
    frame.reported status = status.toNat ↔
      ∀ f, frame = .aecp f → f.isSetControlResp = false := by
  cases frame with
  | aecp f =>
    rw [RxFrame.reported]
    constructor
    · rintro h f' ⟨⟩
      by_contra hset
      rw [if_pos (Bool.not_eq_false _ ▸ hset)] at h
      omega
    · intro h
      rw [h f rfl]
      rfl
  | adp | acmp | other =>
    refine iff_of_true rfl ?_
    rintro f ⟨⟩

/-- The status that `get_last_resp_status` returns for a completed command is that of the
response exactly if the command has an id, the response is not one to SET_CONTROL and it is not
an OPERATION_STATUS response for the operation of another command. -/
theorem status_returned_iff {mac : Mac} {notifyId : Ptr}
    {completionStatus respStatusForCmd : Int}
    {tr : List (System × Action)} {s s' : System} {now : Timestamp} {uninit : EntityId}
    {frame : RxFrame} {status : BitVec 5}
    (h : Run Step (.new mac notifyId completionStatus respStatusForCmd) tr s) (hb : s.Blocked)
    (hst : frame.respStatus = some status) (hs : Step s (.fnNetif now uninit frame) s')
    (hcompl : CompletesAwaited s s') :
    (∀ x, s'.Returns x ↔ x = status.toNat) ↔
      s.waitMgr.notifyId ≠ null ∧ (∀ f, frame = .aecp f → f.isSetControlResp = false) ∧
        ¬ s.controller.Misattributes frame s.waitMgr.notifyId := by
  have hc := consistent_run h (consistent_new _ _ _ _)
  cases hs with
  | fnNetif hs =>
    obtain ⟨happ, posts, hover, hmis, htaken⟩ := over_of_completes hc hb hst hs hcompl
    constructor
    · intro hall
      have hne : s.waitMgr.notifyId ≠ null := by
        intro hnull
        have hstations : s'.controller.endStationVec ≠ [] := by
          obtain ⟨c, out, hrx, he⟩ := fnNetif_globals hs
          rw [he]
          refine Controller.endStationVec_of_lost hrx
            (?_ : _ < s.controller.globals.held s.waitMgr.notifyId)
          rw [← he, hcompl.2]
          exact hcompl.1
        rw [hnull] at hover
        have hneg := (hall (-1)).1
          (returns_ignored hover.consistent happ hover.notifyId hover.held hstations)
        omega
      obtain ⟨hposts, heq⟩ := (hover.returns_iff hne happ _).1 ((hall _).2 rfl)
      have hno : ¬ s.controller.Misattributes frame s.waitMgr.notifyId := by
        intro hm
        rw [hmis hm] at hposts
        cases hposts
      rw [(htaken hno).2] at heq
      exact ⟨hne, reported_eq_iff.1 heq.symm, hno⟩
    · rintro ⟨hne, hset, hno⟩ x
      obtain ⟨rfl, heq⟩ := htaken hno
      rw [hover.returns_iff hne happ, heq, reported_eq_iff.2 hset]
      exact and_iff_right Nat.one_pos

/-- Whether the frame completes the command that the app thread is blocked for, and with which
status. -/
def completesWith (frame : RxFrame) (status : Int) (s : System) : Bool :=
  match s.fnNetif 0 0 frame with
  | .ok s' =>
    s.app == .waiting && s.waitingSem == 0 &&
      decide (0 < s.controller.globals.held s.waitMgr.notifyId) &&
      s'.controller.globals.held s.waitMgr.notifyId == 0 && s'.app == .waiting &&
      decide (0 < s'.waitingSem) && s'.waitMgr.completionStatus == status &&
      s.waitMgr.notifyId != null
  | .error _ => false

theorem exists_completes_awaited {frame : RxFrame} {status : Int} {actions : List Action}
    (h : trial exec (fun _ _ => true) (completesWith frame status)
      (.new 1 0 0 7) actions = true) :
    ∃ tr s s', Run Step (.new 1 0 0 7) tr s ∧ s.Blocked ∧ Step s (.fnNetif 0 0 frame) s' ∧
      CompletesAwaited s s' ∧ s'.Returns status ∧ s.waitMgr.notifyId ≠ null := by
  obtain ⟨tr, s, hrun, -, hs⟩ := exists_run_of_trial (f := exec) (fun _ _ _ h => exec_step h) h
  rw [completesWith] at hs
  split at hs
  · next s' hnet =>
    simp only [Bool.and_eq_true, beq_iff_eq, decide_eq_true_eq, bne_iff_ne, ne_eq] at hs
    obtain ⟨⟨⟨⟨⟨⟨⟨happ, hsem⟩, hpos⟩, hzero⟩, happ'⟩, hsem'⟩, hstatus⟩, hne⟩ := hs
    refine ⟨tr, s, s', hrun, ⟨happ, hsem⟩, .fnNetif hnet, ⟨hpos, hzero⟩, ?_, hne⟩
    rw [← hstatus]
    exact returns_of_posted happ' hsem'
  · cases hs

theorem status_returned_available :
    ∃ s s', s.Blocked ∧ CompletesAwaited s s' ∧
      ∀ x, s'.Returns x ↔ x = (0 : BitVec 5).toNat := by
  have htrial : trial exec (fun _ _ => true) (completesWith entityAvailableResponse 0)
      (.new 1 0 0 7) (queueEntityAvailable ++ [.testWait, .setActive, .fnTx 0]) =
        true := by decide
  obtain ⟨tr, s, s', hrun, hb, hstep, hcompl, -, hne⟩ := exists_completes_awaited htrial
  have hmis : ¬ s.controller.Misattributes entityAvailableResponse s.waitMgr.notifyId := by
    rintro ⟨-, -, -, es, i, -, ⟨hc, -⟩, -⟩
    cases hc
  refine ⟨s, s', hb, hcompl, (status_returned_iff hrun hb rfl hstep hcompl).2 ⟨hne, ?_, hmis⟩⟩
  rintro f ⟨⟩
  rfl

def setControlCommand : AecpFrame :=
  { entityAvailableCommand with commandType := .setControl, descriptorType := .control }

/-- The success of a `send_identify` is returned as -1. -/
theorem identify_status_not_returned :
    ¬ ∀ mac notifyId completionStatus respStatusForCmd tr s s' now uninit frame status,
      Run Step (.new mac notifyId completionStatus respStatusForCmd) tr s → s.Blocked →
      frame.respStatus = some status → Step s (.fnNetif now uninit frame) s' →
      CompletesAwaited s s' → ∀ x, s'.Returns x ↔ x = status.toNat := by
  intro hall
  have htrial : trial exec (fun _ _ => true)
      (completesWith (.aecp { setControlCommand with
        destMac := 1, messageType := .aemResponse, sequenceId := 1 }) (-1)) (.new 1 0 0 7)
      (readEntity ++ [.setWaitForNextCmd 5,
        .writePipe ⟨5, .cmdWithNotification, .aecp setControlCommand⟩, .testWait, .setActive,
        .fnTx 0]) = true := by decide
  obtain ⟨tr, s, s', hrun, hb, hstep, hcompl, hreturns, -⟩ := exists_completes_awaited htrial
  have heq := (hall 1 0 0 7 tr s s' 0 0 _ 0 hrun hb rfl hstep hcompl (-1)).1 hreturns
  cases heq

end System
end AvdeccLib
