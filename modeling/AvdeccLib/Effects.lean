import AvdeccLib.Controller
import AvdeccLib.HandlerFrames
import AvdeccLib.BackgroundRead

namespace AvdeccLib
set_option autoImplicit true

open Outcome FirstMatch

def EndStation.ReportsOperation (es : EndStation) (frame : AecpFrame) : Prop :=
  frame.commandType = .operationStatus ∧ frame.descriptorType = .memoryObject ∧
    frame.respReadOk = true ∧
    ∃ d, es.findObject .memoryObject frame.descriptorIndex = .ok (some d)

/-- What a response can do to the AECP state machine, with the notification id that is returned
to `rx_packet_event`. -/
inductive Answer (es : EndStation) (frame : AecpFrame) (m : AecpControllerStateMachine) :
    AecpControllerStateMachine → Ptr → Prop where
  | ignored : Answer es frame m m null
  | answered : Answer es frame m (m.stateRcvdResp null frame).1 (m.stateRcvdResp null frame).2
  | started {operationType : BitVec 16} :
      Answer es frame m
        ((m.stateRcvdResp null frame).1.startOperation (m.stateRcvdResp null frame).2
          frame.operationId operationType frame) (m.stateRcvdResp null frame).2
  | reported {percentComplete : BitVec 16} (h : es.ReportsOperation frame) :
      Answer es frame m
        ((m.stateRcvdResp null frame).1.updateOperationForRcvdResp
          (m.stateRcvdResp null frame).2
          frame.operationId percentComplete frame).1
        ((m.stateRcvdResp null frame).1.updateOperationForRcvdResp
          (m.stateRcvdResp null frame).2
          frame.operationId percentComplete frame).2

/-- The statuses that a handler returns: the one that `fn_netif` starts with and those that a
frame can carry. -/
def FrameStatus (status : Int) : Prop := -1 ≤ status ∧ status ≤ 31

theorem frameStatus_toNat (s : BitVec 5) : FrameStatus s.toNat := by
  have := s.isLt
  rw [FrameStatus]
  omega

structure AecpHandled (es : EndStation) (frame : AecpFrame) (g g' : Globals) (out : RxOut) :
    Prop where
  answer : Answer es frame g.aecp g'.aecp out.notificationId
  acmp : g'.acmp = g.acmp
  macAddr : g'.macAddr = g.macAddr
  txPipe : ∃ tx, g'.txPipe = g.txPipe ++ tx ∧ ∀ d ∈ tx, d.BackgroundRead
  status : FrameStatus out.status

/-- A handler that does with an AEM response what a response can do. -/
def Handles (es : EndStation) (frame : AecpFrame) (handler : RespHandler AecpFrame) : Prop :=
  ∀ g out g' out', frame.messageType = .aemResponse → out.notificationId = null →
    FrameStatus out.status → handler frame g out = .ok (g', out') →
    AecpHandled es frame g g' out'

theorem isResponse_of_aem {frame : AecpFrame} (h : frame.messageType = .aemResponse) :
    frame.isResponse = true := by
  rw [AecpFrame.isResponse, h]

theorem txPipe_unchanged (l : List TxData) :
    ∃ tx, l = l ++ tx ∧ ∀ d ∈ tx, d.BackgroundRead := by
  refine ⟨[], (List.append_nil l).symm, ?_⟩
  intro d hd
  cases hd

theorem handled_ignored {es : EndStation} {frame : AecpFrame} {g : Globals} {out : RxOut}
    (posts : List Notification) (hid : out.notificationId = null)
    (hs : FrameStatus out.status) :
    AecpHandled es frame g { g with posts } out := by
  refine ⟨?_, rfl, rfl, txPipe_unchanged _, hs⟩
  rw [hid]
  exact .ignored

theorem updateInflight_eq {frame : AecpFrame} (hf : frame.isResponse = true) (u : Bool)
    (g : Globals) (out : RxOut) : updateInflight frame.messageType u frame g out =
      ({ g with aecp := (g.aecp.stateRcvdResp out.notificationId frame).1 },
        { out with notificationId := (g.aecp.stateRcvdResp out.notificationId frame).2 }) := by
  rw [updateInflight, AecpControllerStateMachine.updateInflightForRcvdResp_eq _ _ _ _ hf]

theorem handled_updateInflight {es : EndStation} {frame : AecpFrame}
    (hf : frame.isResponse = true) (u : Bool) (g : Globals) (out : RxOut)
    (posts : List Notification) (hid : out.notificationId = null)
    (hs : FrameStatus out.status) :
    AecpHandled es frame g (updateInflight frame.messageType u frame { g with posts } out).1
      (updateInflight frame.messageType u frame { g with posts } out).2 := by
  rw [updateInflight_eq hf, hid]
  exact ⟨.answered, rfl, rfl, txPipe_unchanged _, hs⟩

theorem handles_ignore (es : EndStation) (frame : AecpFrame) :
    Handles es frame fun _ g out => pure (g, out) := by
  intro g out g' out' _ hid hs h
  cases h
  exact handled_ignored g.posts hid hs

theorem handles_noMatchFound (es : EndStation) (frame : AecpFrame) :
    Handles es frame fun frame g out =>
    pure ({ g with posts := g.posts ++ [noMatchFound frame.commandType.code] }, out) := by
  intro g out g' out' _ hid hs h
  cases h
  exact handled_ignored _ hid hs

theorem handles_procAemResp (es : EndStation) (frame : AecpFrame) (asserts : Bool) :
    Handles es frame (procAemResp asserts) := by
  intro g out g' out' hm hid hs h
  rw [procAemResp] at h
  cases hr : frame.respReadOk with
  | false =>
    rw [hr] at h
    cases asserts with
    | true => cases h
    | false =>
      cases h
      exact handled_ignored g.posts hid hs
  | true =>
    rw [hr] at h
    cases h
    exact handled_updateInflight (isResponse_of_aem hm) _ g _ g.posts hid (frameStatus_toNat _)

theorem handles_implementedBy {es : EndStation} {frame : AecpFrame} (t : DescType)
    {handler : RespHandler AecpFrame} (hh : Handles es frame handler) :
    Handles es frame (implementedBy t handler) := by
  intro g out g' out' hm hid hs h
  rw [implementedBy] at h
  split at h
  · exact hh g out g' out' hm hid hs h
  · exact handles_ignore es frame g out g' out' hm hid hs h

theorem handles_procSetControlResp (es : EndStation) (frame : AecpFrame) :
    Handles es frame procSetControlResp := by
  intro g out g' out' hm hid hs h
  rw [procSetControlResp] at h
  rw [← hm] at h
  cases h
  exact handled_updateInflight (isResponse_of_aem hm) _ g _ g.posts hid hs

theorem handles_procStartOperationResp (es : EndStation) (frame : AecpFrame) :
    Handles es frame procStartOperationResp := by
  intro g out g' out' hm hid hs h
  have hf := isResponse_of_aem hm
  rw [procStartOperationResp] at h
  cases hr : frame.respReadOk with
  | false =>
    rw [hr] at h
    cases h
    exact handled_ignored g.posts hid hs
  | true =>
    simp only [hr, updateInflight_eq hf, hid] at h
    split at h
    · next hn => exact absurd hn (by decide)
    · split at h
      · cases h
        exact ⟨.started, rfl, rfl, txPipe_unchanged _, frameStatus_toNat _⟩
      · cases h
        exact ⟨.answered, rfl, rfl, txPipe_unchanged _, frameStatus_toNat _⟩

theorem handles_procOperationStatusResp {es : EndStation} {frame : AecpFrame}
    (hc : frame.respReadOk = true → es.ReportsOperation frame) :
    Handles es frame procOperationStatusResp := by
  intro g out g' out' hm hid hs h
  have hf := isResponse_of_aem hm
  rw [procOperationStatusResp] at h
  cases hr : frame.respReadOk with
  | false =>
    rw [hr] at h
    cases h
    exact handled_ignored g.posts hid hs
  | true =>
    simp only [hr, updateInflight_eq hf, hid] at h
    cases h
    exact ⟨.reported (hc hr), rfl, rfl, txPipe_unchanged _, frameStatus_toNat _⟩

theorem handled_procRcvdAecpAaResp {es : EndStation} {frame : AecpFrame} {g g' : Globals}
    {out out' : RxOut}
    (hm : frame.messageType = .addressAccessResponse) (hid : out.notificationId = null)
    (h : procRcvdAecpAaResp frame g out = .ok (g', out')) : AecpHandled es frame g g' out' := by
  have hf : frame.isResponse = true := by rw [AecpFrame.isResponse, hm]
  rw [procRcvdAecpAaResp] at h
  rw [← hm] at h
  cases h
  split
  · exact handled_updateInflight hf _ g _ _ hid (frameStatus_toNat _)
  · exact handled_updateInflight hf _ g _ g.posts hid (frameStatus_toNat _)

namespace EndStation

theorem handles_onObject (es : EndStation) (t : DescType) (i : BitVec 16)
    {frame : AecpFrame} {handler : RespHandler AecpFrame}
    (hh : (∃ d, es.findObject t i = .ok (some d)) → Handles es frame handler) :
    Handles es frame (es.onObject t i handler) := by
  intro g out g' out' hm hid hs h
  rcases onObject_cases h with ⟨rfl, rfl⟩ | ⟨hd, h⟩
  · exact handled_ignored g'.posts hid hs
  · exact hh hd g out g' out' hm hid hs h

theorem handles_onTypes (es : EndStation) (types : List DescType)
    {frame : AecpFrame} {handler : RespHandler AecpFrame}
    (hh : frame.descriptorType ∈ types →
      (∃ d, es.findObject frame.descriptorType frame.descriptorIndex = .ok (some d)) →
      Handles es frame handler) : Handles es frame (es.onTypes types handler) := by
  intro g out g' out' hm hid hs h
  rcases onTypes_cases h with ⟨rfl, rfl⟩ | ⟨ht, hd, h⟩
  · exact handled_ignored g'.posts hid hs
  · exact hh ht hd g out g' out' hm hid hs h

theorem handles_aemRespHandler (es : EndStation) (frame : AecpFrame) :
    Handles es frame (es.aemRespHandler frame) := by
  have haem := handles_procAemResp es frame
  rw [aemRespHandler]
  cases hc : frame.commandType with
  | acquireEntity => exact handles_onTypes es _ fun _ _ => handles_implementedBy _ (haem true)
  | lockEntity => exact handles_onTypes es _ fun _ _ => handles_implementedBy _ (haem true)
  | entityAvailable => exact haem false
  | setStreamFormat => exact handles_onTypes es _ fun _ _ => haem true
  | getStreamFormat => exact handles_onTypes es _ fun _ _ => haem true
  | setStreamInfo => exact handles_onTypes es _ fun _ _ => handles_implementedBy _ (haem true)
  | getStreamInfo => exact handles_onTypes es _ fun _ _ => haem true
  | setName => exact handles_ignore es frame
  | getName => exact handles_ignore es frame
  | setSamplingRate => exact handles_onTypes es _ fun _ _ => haem true
  | getSamplingRate => exact handles_onTypes es _ fun _ _ => haem true
  | setClockSource => exact handles_onObject es _ _ fun _ => haem true
  | getClockSource => exact handles_onObject es _ _ fun _ => haem true
  | startStreaming => exact handles_onTypes es _ fun _ _ => haem true
  | stopStreaming => exact handles_onTypes es _ fun _ _ => haem true
  | reboot => exact handles_onTypes es _ fun _ _ => haem false
  | startOperation =>
    exact handles_onTypes es _ fun _ _ => handles_procStartOperationResp es frame
  | operationStatus =>
    refine handles_onTypes es _ fun ht hd => ?_
    have ht : frame.descriptorType = .memoryObject := List.mem_singleton.1 ht
    rw [ht] at hd
    exact handles_procOperationStatusResp fun hr => ⟨hc, ht, hr, hd⟩
  | setControl => exact handles_procSetControlResp es frame
  | readDescriptor => exact handles_noMatchFound es frame
  | controllerAvailable => exact handles_noMatchFound es frame
  | other code => exact handles_noMatchFound es frame

/-- What an AECP response does to the station that it is from. -/
inductive Received (mac : Mac) (now : Timestamp) (frame : AecpFrame) (es : EndStation) :
    EndStation → Prop where
  | unchanged : Received mac now frame es es
  | descriptor {es' : EndStation} {tx : List TxData} {posts : List Notification}
      (h : es.rcvdDescriptor mac now frame.status frame.descriptor = .ok (es', tx, posts)) :
      Received mac now frame es es'

theorem Received.identity_eq {es es' : EndStation} {mac : Mac} {now : Timestamp}
    {frame : AecpFrame} (h : Received mac now frame es es') : es'.identity = es.identity := by
  cases h with
  | unchanged => rfl
  | descriptor h => exact rcvdDescriptor_identity h

theorem rcvdDescriptor_backgroundRead {es es' : EndStation} {mac : Mac} {now : Timestamp}
    {status : BitVec 5} {d : AemDesc} {tx : List TxData} {posts : List Notification}
    (h : es.rcvdDescriptor mac now status d = .ok (es', tx, posts)) :
    ∀ d ∈ tx, d.BackgroundRead := by
  obtain ⟨es₁, -, hs, -⟩ := rcvdDescriptor_submit h
  exact hs.backgroundRead

theorem procReadDescResp_handled {es es' : EndStation} {now : Timestamp} {frame : AecpFrame}
    {g g' : Globals} {out out' : RxOut} (hm : frame.messageType = .aemResponse)
    (hid : out.notificationId = null) (hs : FrameStatus out.status)
    (h : es.procReadDescResp now frame g out = .ok (g', es', out')) :
    AecpHandled es frame g g' out' ∧ Received g.macAddr now frame es es' := by
  rw [procReadDescResp] at h
  cases hr : frame.respReadOk with
  | false =>
    rw [hr] at h
    cases h
    exact ⟨handled_ignored g.posts hid hs, .unchanged⟩
  | true =>
    simp only [hr, updateInflight_eq (isResponse_of_aem hm), hid] at h
    obtain ⟨⟨es₁, tx, posts⟩, hrcvd, h⟩ := bind_eq_ok.1 h
    cases h
    refine ⟨⟨.answered, rfl, rfl, ⟨tx, rfl, ?_⟩, frameStatus_toNat _⟩, .descriptor hrcvd⟩
    exact rcvdDescriptor_backgroundRead hrcvd

theorem procRcvdAemResp_handled {es es' : EndStation} {now : Timestamp} {frame : AecpFrame}
    {g g' : Globals} {out out' : RxOut} (hm : frame.messageType = .aemResponse)
    (hid : out.notificationId = null) (hs : FrameStatus out.status)
    (h : es.procRcvdAemResp now frame g out = .ok (g', es', out')) :
    AecpHandled es frame g g' out' ∧ Received g.macAddr now frame es es' := by
  rw [procRcvdAemResp] at h
  split at h
  · exact procReadDescResp_handled hm hid hs h
  · obtain ⟨⟨g₁, out₁⟩, hh, h⟩ := bind_eq_ok.1 h
    cases h
    exact ⟨handles_aemRespHandler es frame g out _ _ hm hid hs hh, .unchanged⟩

end EndStation

structure AcmpHandled (frame : AcmpFrame) (g g' : Globals) (out : RxOut) : Prop where
  answer : g'.acmp = g.acmp ∧ out.notificationId = null ∨ frame.isResponse = true ∧
    (g'.acmp, out.notificationId) = g.acmp.procResp acmpSpec null frame
  aecp : g'.aecp = g.aecp
  macAddr : g'.macAddr = g.macAddr
  txPipe : g'.txPipe = g.txPipe
  status : FrameStatus out.status

theorem handled_procAcmpResp {frame : AcmpFrame} {g g' : Globals} {out out' : RxOut}
    (hf : frame.isResponse = true) (hid : out.notificationId = null)
    (h : procAcmpResp frame g out = .ok (g', out')) : AcmpHandled frame g g' out' := by
  rw [procAcmpResp] at h
  split at h
  · cases h
  · cases h
    rw [hid]
    exact ⟨.inr ⟨hf, rfl⟩, rfl, rfl, rfl, frameStatus_toNat _⟩

namespace EndStation

theorem procRcvdAcmpResp_handled {es : EndStation} {frame : AcmpFrame} {g g' : Globals}
    {out out' : RxOut} (hid : out.notificationId = null) (hs : FrameStatus out.status)
    (h : es.procRcvdAcmpResp frame g out = .ok (g', out')) : AcmpHandled frame g g' out' := by
  have hobj : ∀ t i, frame.isResponse = true →
      es.onObject t i procAcmpResp frame g out = .ok (g', out') →
      AcmpHandled frame g g' out' := by
    intro t i hf h
    obtain ⟨o, -, h⟩ := bind_eq_ok.1 h
    cases o with
    | none =>
      cases h
      exact ⟨.inl ⟨rfl, hid⟩, rfl, rfl, rfl, hs⟩
    | some d => exact handled_procAcmpResp hf hid h
  have hresp :
    ∀ t, frame.messageType = t →
      AcmpFrame.isResponse { frame with messageType := t } = true →
      frame.isResponse = true := by
    rintro t rfl hf
    exact hf
  rw [procRcvdAcmpResp] at h
  split at h
  · next hm => exact hobj _ _ (hresp _ hm rfl) h
  · next hm => exact hobj _ _ (hresp _ hm rfl) h
  · next hm => exact hobj _ _ (hresp _ hm rfl) h
  · next hm => exact hobj _ _ (hresp _ hm rfl) h
  · next hm => exact hobj _ _ (hresp _ hm rfl) h
  · cases h
    exact ⟨.inl ⟨rfl, hid⟩, rfl, rfl, rfl, hs⟩

end EndStation

namespace Controller

theorem findInEndStation_some {c : Controller} {id cid : EntityId} {es : EndStation} {i : Nat}
    (h : c.findInEndStation id cid = some (es, i)) :
    c.endStationVec[i]? = some es ∧ es.adp.entityId = id ∧
      (cid = getControllerEntityId c.globals.macAddr ∨ cid = es.adp.entityId) := by
  have hmem := List.mem_of_find?_eq_some h
  have hp := List.find?_some h
  rw [List.mem_zipIdx_iff_getElem?] at hmem
  simp only [Bool.and_eq_true, Bool.or_eq_true, beq_iff_eq] at hp
  exact ⟨hmem, hp⟩

inductive AecpReceived (now : Timestamp) (frame : AecpFrame) (c : Controller) :
    Controller → RxOut → Prop where
  | ignored {out : RxOut} (h : out.isNotificationIdValid = false) :
      AecpReceived now frame c c out
  | handled {es es' : EndStation} {i : Nat} {g : Globals} {out : RxOut}
      (hm : frame.isResponse = true) (hd : frame.destMac = c.globals.macAddr)
      (hf : c.findInEndStation frame.targetEntityId frame.controllerEntityId = some (es, i))
      (hg : AecpHandled es frame c.globals g out)
      (hr : es.Received c.globals.macAddr now frame es') :
      AecpReceived now frame c
        { c with globals := g, endStationVec := c.endStationVec.set i es' }
        { out with isNotificationIdValid := true }

theorem rxAecp_received {c c' : Controller} {now : Timestamp} {frame : AecpFrame} {out : RxOut}
    (h : c.rxAecp now frame {} = .ok (c', out)) : AecpReceived now frame c c' out := by
  have hs : FrameStatus ({} : RxOut).status := ⟨by decide, by decide⟩
  rw [rxAecp] at h
  cases hd : frame.destMac == c.globals.macAddr with
  | false =>
    rw [hd] at h
    cases h
    exact .ignored rfl
  | true =>
    cases hf : c.findInEndStation frame.targetEntityId frame.controllerEntityId with
    | none =>
      rw [hd, hf] at h
      cases h
      exact .ignored rfl
    | some p =>
      obtain ⟨es, i⟩ := p
      have hd := eq_of_beq hd
      have hset : c.endStationVec.set i es = c.endStationVec := by
        obtain ⟨hlt, hget⟩ := List.getElem?_eq_some_iff.1 (findInEndStation_some hf).1
        rw [← hget, List.set_getElem_self]
      simp only [hd, beq_self_eq_true, hf] at h
      cases hm : frame.messageType with
      | aemResponse =>
        have hresp := isResponse_of_aem hm
        simp only [hm] at h
        split at h
        · obtain ⟨⟨g, out₁⟩, hh, h⟩ := bind_eq_ok.1 h
          cases h
          have hg := handles_procAemResp es frame true c.globals {} g out₁ hm rfl hs hh
          have hsame : EndStation.Received c.globals.macAddr now frame es es := .unchanged
          have hrec := AecpReceived.handled hresp hd hf hg hsame
          rwa [hset] at hrec
        · obtain ⟨⟨g, es', out₁⟩, hh, h⟩ := bind_eq_ok.1 h
          cases h
          obtain ⟨hg, hr⟩ := EndStation.procRcvdAemResp_handled hm rfl hs hh
          exact .handled hresp hd hf hg hr
      | addressAccessResponse =>
        have hresp : frame.isResponse = true := by rw [AecpFrame.isResponse, hm]
        simp only [hm] at h
        obtain ⟨⟨g, out₁⟩, hh, h⟩ := bind_eq_ok.1 h
        cases h
        have hg : AecpHandled es frame c.globals g out₁ := handled_procRcvdAecpAaResp hm rfl hh
        have hsame : EndStation.Received c.globals.macAddr now frame es es := .unchanged
        have hrec := AecpReceived.handled hresp hd hf hg hsame
        rwa [hset] at hrec
      | aemCommand =>
        simp only [hm] at h
        cases h
        exact .ignored rfl
      | addressAccessCommand =>
        simp only [hm] at h
        cases h
        exact .ignored rfl
      | other code =>
        simp only [hm] at h
        cases h
        exact .ignored rfl

inductive AcmpReceived (frame : AcmpFrame) (c : Controller) : Controller → RxOut → Prop where
  | ignored {out : RxOut} (h : out.isNotificationIdValid = false) : AcmpReceived frame c c out
  | handled {g : Globals} {out : RxOut} (hg : AcmpHandled frame c.globals g out) :
      AcmpReceived frame c { c with globals := g } { out with isNotificationIdValid := true }

theorem rxAcmp_received {c c' : Controller} {uninit : EntityId}
    {frame : AcmpFrame} {out : RxOut}
    (h : c.rxAcmp uninit frame {} = .ok (c', out)) : AcmpReceived frame c c' out := by
  have hs : FrameStatus ({} : RxOut).status := ⟨by decide, by decide⟩
  rw [rxAcmp] at h
  split at h
  · obtain ⟨⟨g, out₁⟩, hh, h⟩ := bind_eq_ok.1 h
    cases h
    exact .handled (EndStation.procRcvdAcmpResp_handled rfl hs hh)
  · cases h
    exact .ignored rfl

inductive FrameReceived (now : Timestamp) (c : Controller) :
    RxFrame → Controller → RxOut → Prop where
  | ignored {frame : RxFrame} {out : RxOut} (h : out.isNotificationIdValid = false) :
      FrameReceived now c frame c out
  | adp {f : AdpFrame} {c' : Controller} {out : RxOut} (hd : c.accepts f.destMac = true)
      (h : c.rxAdp now f = .ok c')
      (ho : out.isNotificationIdValid = false) : FrameReceived now c (.adp f) c' out
  | aecp {f : AecpFrame} {c' : Controller} {out : RxOut} (h : AecpReceived now f c c' out) :
      FrameReceived now c (.aecp f) c' out
  | acmp {f : AcmpFrame} {c' : Controller} {out : RxOut} (h : AcmpReceived f c c' out) :
      FrameReceived now c (.acmp f) c' out

theorem rxPacketEvent_received {c c' : Controller} {now : Timestamp} {uninit : EntityId}
    {frame : RxFrame} {out : RxOut} (h : c.rxPacketEvent now uninit frame {} = .ok (c', out)) :
    FrameReceived now c frame c' out := by
  unfold rxPacketEvent at h
  simp only at h
  split at h
  · next hd =>
    cases frame with
    | adp f =>
      obtain ⟨c₁, hc, h⟩ := bind_eq_ok.1 h
      cases h
      exact .adp hd hc rfl
    | aecp f => exact .aecp (rxAecp_received h)
    | acmp f => exact .acmp (rxAcmp_received h)
    | other mac =>
      cases h
      exact .ignored rfl
  · cases h
    exact .ignored rfl

theorem lastEndStation_none {c : Controller} {id : EntityId} (h : c.lastEndStation id = none) :
    ∀ es ∈ c.endStationVec, es.adp.entityId ≠ id := by
  intro es hes heq
  obtain ⟨i, hi⟩ := List.getElem?_of_mem hes
  have hmem : (es, i) ∈ c.endStationVec.zipIdx := List.mem_zipIdx_iff_getElem?.2 hi
  have hno := (foldl_match_none h).2 (es, i) hmem
  rw [heq, beq_self_eq_true] at hno
  cases hno

theorem lastEndStation_some {c : Controller} {id : EntityId} {es : EndStation} {i : Nat}
    (h : c.lastEndStation id = some (es, i)) :
    c.endStationVec[i]? = some es ∧ es.adp.entityId = id := by
  rcases foldl_match_some h with ⟨hmem, hp⟩ | hnone
  · exact ⟨List.mem_zipIdx_iff_getElem?.1 hmem, eq_of_beq hp⟩
  · cases hnone

def ticked (now : Timestamp) (c : Controller) : Controller :=
  adpTick now { c with globals := { c.globals with
    aecp := c.globals.aecp.tick now
    acmp := c.globals.acmp.tick acmpSpec now } }

theorem timeTickEvent_ok {c c' : Controller} {now : Timestamp}
    (h : c.timeTickEvent now = .ok c') :
    ∃ rounds,
      ((c.ticked now).endStationVec.mapM fun es =>
        es.timeTick (c.ticked now).globals.macAddr now) = .ok rounds ∧
      c' = systemQueueTx { c.ticked now with endStationVec := rounds.map Prod.fst }
        (rounds.flatMap Prod.snd) := by
  obtain ⟨rounds, hr, h⟩ := bind_eq_ok.1 h
  cases h
  exact ⟨rounds, hr, rfl⟩

theorem handle_txPacket {c c' : Controller} {now : Timestamp}
    (h : c.handle (.txPacket now) = .ok c') :
    (c.globals.txPipe = [] ∧ c' = c) ∨ ∃ d rest, c.globals.txPipe = d :: rest ∧
      c' = txPacketEvent now d { c with globals := { c.globals with txPipe := rest } } := by
  rw [handle] at h
  simp only at h
  split at h
  · next hp =>
    cases h
    exact .inl ⟨hp, rfl⟩
  · next d rest hp =>
    cases h
    exact .inr ⟨d, rest, hp, rfl⟩

theorem txPacket_adp {c c' : Controller} {now : Timestamp}
    (h : c.handle (.txPacket now) = .ok c') :
    c'.adp = c.adp ∧ c'.endStationVec = c.endStationVec := by
  rcases handle_txPacket h with ⟨-, rfl⟩ | ⟨d, rest, -, rfl⟩
  · exact ⟨rfl, rfl⟩
  · rw [txPacketEvent]
    split <;> exact ⟨rfl, rfl⟩

theorem rxAdp_globals {c c' : Controller} {now : Timestamp} {frame : AdpFrame}
    (h : c.rxAdp now frame = .ok c') :
    ∃ tx, c'.globals = { c.globals with txPipe := c.globals.txPipe ++ tx } ∧
      ∀ d ∈ tx, d.BackgroundRead := by
  have hsame : ∃ tx, c.globals = { c.globals with txPipe := c.globals.txPipe ++ tx } ∧
      ∀ d ∈ tx, d.BackgroundRead := by
    refine ⟨[], by rw [List.append_nil], ?_⟩
    intro d hd
    cases hd
  unfold rxAdp at h
  simp only at h
  split at h
  · cases h
    exact hsame
  · split at h
    · cases h
      exact hsame
    · split at h
      · obtain ⟨⟨es, tx⟩, hnew, h⟩ := bind_eq_ok.1 h
        cases h
        obtain ⟨-, -, -, -, htx⟩ := EndStation.new_ok hnew
        exact ⟨tx, rfl, htx⟩
      · obtain ⟨⟨es₁, tx⟩, h₁, h⟩ := bind_eq_ok.1 h
        cases h
        refine ⟨tx, rfl, ?_⟩
        split at h₁
        · exact (EndStation.endStationReenumerate_ok h₁).2
        · cases h₁
          intro d hd
          cases hd

theorem adpTick_globals (c : Controller) (now : Timestamp) :
    (c.adpTick now).globals = c.globals := by
  rw [adpTick]
  simp only
  split <;> rfl

theorem timeTickEvent_globals {c c' : Controller} {now : Timestamp}
    (h : c.timeTickEvent now = .ok c') :
    ∃ tx, c'.globals = { c.globals with
        aecp := c.globals.aecp.tick now
        acmp := c.globals.acmp.tick acmpSpec now
        txPipe := c.globals.txPipe ++ tx } ∧ ∀ d ∈ tx, d.BackgroundRead := by
  obtain ⟨rounds, hr, rfl⟩ := timeTickEvent_ok h
  refine ⟨rounds.flatMap Prod.snd, ?_, ?_⟩
  · simp only [systemQueueTx, ticked, adpTick_globals]
  · intro d hd
    obtain ⟨p, hp, hd⟩ := List.mem_flatMap.1 hd
    obtain ⟨es, -, ht⟩ := exists_of_mem_mapM hr hp
    exact (EndStation.timeTick_submit ht).backgroundRead d hd

/-- What a received frame can do to the state machines and to the pipe. -/
inductive GlobalsReceived (c : Controller) : RxFrame → Globals → RxOut → Prop where
  | other {frame : RxFrame} {tx : List TxData} {out : RxOut} (htx : ∀ d ∈ tx, d.BackgroundRead)
      (ho : out.isNotificationIdValid = false) :
      GlobalsReceived c frame { c.globals with txPipe := c.globals.txPipe ++ tx } out
  | aecp {es : EndStation} {i : Nat} {f : AecpFrame} {g : Globals} {out : RxOut}
      (hf : f.isResponse = true) (hd : f.destMac = c.globals.macAddr)
      (hes : c.findInEndStation f.targetEntityId f.controllerEntityId = some (es, i))
      (hg : AecpHandled es f c.globals g out) :
      GlobalsReceived c (.aecp f) g { out with isNotificationIdValid := true }
  | acmp {f : AcmpFrame} {g : Globals} {out : RxOut} (hg : AcmpHandled f c.globals g out) :
      GlobalsReceived c (.acmp f) g { out with isNotificationIdValid := true }

theorem rxPacketEvent_globals {c c' : Controller} {now : Timestamp} {uninit : EntityId}
    {frame : RxFrame} {out : RxOut} (h : c.rxPacketEvent now uninit frame {} = .ok (c', out)) :
    GlobalsReceived c frame c'.globals out := by
  have hsame : ∀ {frame : RxFrame} {out : RxOut}, out.isNotificationIdValid = false →
      GlobalsReceived c frame c.globals out := by
    intro frame out ho
    have hother : GlobalsReceived c frame _ out :=
      .other (fun d hd => absurd hd List.not_mem_nil) ho
    rwa [List.append_nil] at hother
  cases rxPacketEvent_received h with
  | ignored ho => exact hsame ho
  | adp _ hadp ho =>
    obtain ⟨tx, hg, htx⟩ := rxAdp_globals hadp
    rw [hg]
    exact .other htx ho
  | aecp haecp =>
    cases haecp with
    | ignored ho => exact hsame ho
    | handled hm hd hf hg _ => exact .aecp hm hd hf hg
  | acmp hacmp =>
    cases hacmp with
    | ignored ho => exact hsame ho
    | handled hg => exact .acmp hg

end Controller
end AvdeccLib
