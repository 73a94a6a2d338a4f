import AvdeccLib.WaitSafety

namespace AvdeccLib
set_option autoImplicit true

open Runs Outcome FirstMatch

namespace Operation

/-- The end station whose response created the entry, and the id that it gave the operation. -/
def key (o : Operation) : EntityId × BitVec 16 := (o.cmdFrame.targetEntityId, o.operationId)

end Operation

def AecpFrame.operationKey (f : AecpFrame) : EntityId × BitVec 16 :=
  (f.targetEntityId, f.operationId)

/-- The command that a START_OPERATION response of the frame's station answers. -/
def Inflight.Starts (j : Inflight AecpFrame) (f : AecpFrame) : Prop :=
  j.cmdFrame.messageType = .aemCommand ∧ j.cmdFrame.commandType = .startOperation ∧
    j.cmdFrame.targetEntityId = f.targetEntityId ∧ j.cmdSeqId = f.sequenceId

/-- A START_OPERATION response that is recorded in `active_operations`. -/
def EndStation.StartsOperation (es : EndStation) (frame : AecpFrame) : Prop :=
  frame.commandType = .startOperation ∧ frame.descriptorType = .memoryObject ∧
    frame.respReadOk = true ∧ frame.status = 0 ∧ frame.operationId ≠ 0 ∧
      ∃ d, es.findObject .memoryObject frame.descriptorIndex = .ok (some d)

/-- What a response does to the operations. -/
inductive OperationEffect (es : EndStation) (f : AecpFrame)
    (m m' : AecpControllerStateMachine) : Prop where
  | kept (ho : m'.activeOperations = m.activeOperations)
      (hp : m'.operationPosts = m.operationPosts)
  | started (h : es.StartsOperation f)
      (ho : m'.activeOperations = m.activeOperations ++
        [⟨f, .cmdWithNotification, f.operationId, f.operationType, (m.stateRcvdResp null f).2⟩])
      (hp : m'.operationPosts = m.operationPosts)
      (he : m'.engine = (m.stateRcvdResp null f).1.engine)
  | reported (h : es.ReportsOperation f) {id : Ptr}
      (hm : m' = ((m.stateRcvdResp null f).1.updateOperationForRcvdResp id f.operationId
        f.percentComplete f).1)

/-- A handler that leaves the operations alone. -/
def KeepsOperations (handler : RespHandler AecpFrame) : Prop :=
  ∀ frame g out g' out', handler frame g out = .ok (g', out') →
    g'.aecp.activeOperations = g.aecp.activeOperations ∧
      g'.aecp.operationPosts = g.aecp.operationPosts

theorem updateInflight_operations (t : AecpMessageType) (u : Bool)
    (frame : AecpFrame) (g : Globals)
    (out : RxOut) :
    (updateInflight t u frame g out).1.aecp.activeOperations = g.aecp.activeOperations ∧
      (updateInflight t u frame g out).1.aecp.operationPosts = g.aecp.operationPosts := by
  simp only [updateInflight]
  rcases g.aecp.updateInflightForRcvdResp_engine out.notificationId u t frame with h | h
  · rw [h]
    exact ⟨rfl, rfl⟩
  · rw [h]
    exact ⟨rfl, rfl⟩

/-- The two parts of the AECP state machine that operations are in. -/
def Globals.operations (g : Globals) : List Operation × List Notification :=
  (g.aecp.activeOperations, g.aecp.operationPosts)

theorem aside_operations : Aside Globals.operations := by
  refine ⟨?_, fun _ _ => rfl⟩
  intro t u frame g out
  obtain ⟨hops, hposts⟩ := updateInflight_operations t u frame g out
  exact Prod.ext hops hposts

theorem Keeps.operations {handler : RespHandler AecpFrame}
    (h : Keeps Globals.operations handler) : KeepsOperations handler := by
  intro frame g out g' out' hok
  exact Prod.ext_iff.1 (h frame g out g' out' hok)

namespace EndStation

theorem keepsOperations_aemRespHandler (es : EndStation) {frame : AecpFrame}
    (hs : frame.commandType ≠ .startOperation) (ho : frame.commandType ≠ .operationStatus) :
    KeepsOperations (es.aemRespHandler frame) :=
  (keeps_aemRespHandler aside_operations (fun hc => absurd hc hs) fun hc =>
    absurd hc ho).operations

theorem startOperation_effect {es : EndStation} {frame : AecpFrame} {g g' : Globals}
    {out out' : RxOut} (hm : frame.messageType = .aemResponse) (hid : out.notificationId = null)
    (hc : frame.commandType = .startOperation)
    (h : es.onTypes [.memoryObject] procStartOperationResp frame g out = .ok (g', out')) :
    OperationEffect es frame g.aecp g'.aecp := by
  rcases onTypes_cases h with ⟨rfl, -⟩ | ⟨ht, hd, h⟩
  · exact .kept rfl rfl
  · have ht := List.mem_singleton.1 ht
    rw [ht] at hd
    rw [procStartOperationResp] at h
    cases hr : frame.respReadOk with
    | false =>
      rw [hr] at h
      cases h
      exact .kept rfl rfl
    | true =>
      simp only [hr, updateInflight_eq (isResponse_of_aem hm), hid] at h
      split at h
      · next hn => exact absurd hn (by decide)
      · split at h
        · next hst =>
          have hstatus : frame.status = 0 := by
            have hnat : frame.status.toNat = 0 := Int.ofNat_eq_zero.1 hst.1
            exact BitVec.eq_of_toNat_eq hnat
          cases h
          exact .started ⟨hc, ht, hr, hstatus, hst.2, hd⟩ rfl rfl rfl
        · cases h
          exact .kept rfl rfl

theorem operationStatus_effect {es : EndStation} {frame : AecpFrame} {g g' : Globals}
    {out out' : RxOut} (hm : frame.messageType = .aemResponse)
    (hc : frame.commandType = .operationStatus)
    (h : es.onTypes [.memoryObject] procOperationStatusResp frame g out = .ok (g', out'))
    (hid : out.notificationId = null) : OperationEffect es frame g.aecp g'.aecp := by
  rcases onTypes_cases h with ⟨rfl, -⟩ | ⟨ht, hd, h⟩
  · exact .kept rfl rfl
  · have ht := List.mem_singleton.1 ht
    rw [ht] at hd
    rw [procOperationStatusResp] at h
    cases hr : frame.respReadOk with
    | false =>
      rw [hr] at h
      cases h
      exact .kept rfl rfl
    | true =>
      simp only [hr, updateInflight_eq (isResponse_of_aem hm), hid] at h
      cases h
      exact .reported ⟨hc, ht, hr, hd⟩ rfl

theorem procRcvdAemResp_operations {es es' : EndStation} {now : Timestamp} {frame : AecpFrame}
    {g g' : Globals} {out out' : RxOut} (hm : frame.messageType = .aemResponse)
    (hid : out.notificationId = null)
    (h : es.procRcvdAemResp now frame g out = .ok (g', es', out')) :
    OperationEffect es frame g.aecp g'.aecp := by
  rw [procRcvdAemResp] at h
  split at h
  · rw [procReadDescResp] at h
    split at h
    · cases h
      exact .kept rfl rfl
    · obtain ⟨p, -, h⟩ := bind_eq_ok.1 h
      cases h
      obtain ⟨ho, hp⟩ := updateInflight_operations frame.messageType frame.uField frame g
        { out with status := frame.status.toNat }
      exact .kept ho hp
  · obtain ⟨⟨g₁, out₁⟩, hh, h⟩ := bind_eq_ok.1 h
    cases h
    by_cases hs : frame.commandType = .startOperation
    · rw [aemRespHandler, hs] at hh
      exact startOperation_effect hm hid hs hh
    · by_cases ho : frame.commandType = .operationStatus
      · rw [aemRespHandler, ho] at hh
        exact operationStatus_effect hm ho hh hid
      · obtain ⟨hops, hposts⟩ := es.keepsOperations_aemRespHandler hs ho frame g out _ _ hh
        exact .kept hops hposts

end EndStation

namespace Controller

/-- An AEM response that `rx_packet_event` passes on to the end station. -/
structure Dispatches (c : Controller) (f : AecpFrame) (es : EndStation) : Prop where
  messageType : f.messageType = .aemResponse
  destMac : f.destMac = c.globals.macAddr
  found : ∃ i, c.findInEndStation f.targetEntityId f.controllerEntityId = some (es, i)

theorem rxAecp_operations {c c' : Controller} {now : Timestamp} {f : AecpFrame} {out : RxOut}
    (h : c.rxAecp now f {} = .ok (c', out)) :
    (c'.globals.aecp.activeOperations = c.globals.aecp.activeOperations ∧
      c'.globals.aecp.operationPosts = c.globals.aecp.operationPosts) ∨
    ∃ es, c.Dispatches f es ∧ OperationEffect es f c.globals.aecp c'.globals.aecp := by
  rw [rxAecp] at h
  split at h
  · next es i hd hf =>
    cases hm : f.messageType with
    | aemResponse =>
      simp only [hm] at h
      split at h
      · obtain ⟨⟨g, out₁⟩, hh, h⟩ := bind_eq_ok.1 h
        cases h
        exact .inl ((aside_operations.procAemResp true).operations f c.globals _ g out₁ hh)
      · obtain ⟨⟨g, es', out₁⟩, hh, h⟩ := bind_eq_ok.1 h
        cases h
        exact .inr ⟨es, ⟨hm, eq_of_beq hd, i, hf⟩,
          EndStation.procRcvdAemResp_operations hm rfl hh⟩
    | addressAccessResponse =>
      simp only [hm] at h
      obtain ⟨⟨g, out₁⟩, hh, h⟩ := bind_eq_ok.1 h
      cases h
      exact .inl (aside_operations.procRcvdAecpAaResp.operations f c.globals _ g out₁ hh)
    | aemCommand | addressAccessCommand | other =>
      simp only [hm] at h
      cases h
      exact .inl ⟨rfl, rfl⟩
  · cases h
    exact .inl ⟨rfl, rfl⟩

theorem rxPacketEvent_operations {c c' : Controller} {now : Timestamp} {uninit : EntityId}
    {frame : RxFrame} {out : RxOut} (h : c.rxPacketEvent now uninit frame {} = .ok (c', out)) :
    (c'.globals.aecp.activeOperations = c.globals.aecp.activeOperations ∧
      c'.globals.aecp.operationPosts = c.globals.aecp.operationPosts) ∨
    ∃ f es, frame = .aecp f ∧ c.Dispatches f es ∧
      OperationEffect es f c.globals.aecp c'.globals.aecp := by
  cases frame with
  | aecp f =>
    simp only [rxPacketEvent] at h
    split at h
    · rcases rxAecp_operations h with hsame | ⟨es, hd, he⟩
      · exact .inl hsame
      · exact .inr ⟨f, es, rfl, hd, he⟩
    · cases h
      exact .inl ⟨rfl, rfl⟩
  | adp f =>
    left
    cases rxPacketEvent_received h with
    | ignored => exact ⟨rfl, rfl⟩
    | adp _ hadp =>
      obtain ⟨tx, hg, -⟩ := rxAdp_globals hadp
      rw [hg]
      exact ⟨rfl, rfl⟩
  | acmp f =>
    left
    cases rxPacketEvent_received h with
    | ignored => exact ⟨rfl, rfl⟩
    | acmp hacmp =>
      cases hacmp with
      | ignored => exact ⟨rfl, rfl⟩
      | handled hg =>
        simp only [hg.aecp, and_self]
  | other mac =>
    left
    cases rxPacketEvent_received h with
    | ignored => exact ⟨rfl, rfl⟩

theorem txPacket_operations {c c' : Controller} {now : Timestamp}
    (h : c.handle (.txPacket now) = .ok c') :
    c'.globals.aecp.activeOperations = c.globals.aecp.activeOperations ∧
      c'.globals.aecp.operationPosts = c.globals.aecp.operationPosts := by
  rcases handle_txPacket h with ⟨-, rfl⟩ | ⟨d, rest, -, rfl⟩
  · exact ⟨rfl, rfl⟩
  · rw [txPacketEvent]
    split <;> exact ⟨rfl, rfl⟩

end Controller

namespace System

def operations (s : System) : List Operation := s.controller.globals.aecp.activeOperations

/-- A START_OPERATION response that is recorded answers a command to its station that is
inflight, and gives an id that is not active for the station; of the operations with the id of
an OPERATION_STATUS response the first one is its station's. -/
def OperationsApart (s : System) : Action → Prop
  | .fnNetif _ _ (.aecp f) => ∀ es, s.controller.Dispatches f es →
      (es.StartsOperation f →
        (∃ j, s.controller.globals.aecp.engine.inflightCmds.find?
          (Engine.seqIdComp f.sequenceId) = some j ∧ j.Starts f) ∧
        ∀ o ∈ s.operations, o.key ≠ f.operationKey) ∧
      (es.ReportsOperation f → ∀ o, s.operations.find?
        (AecpControllerStateMachine.operationIdComp f.operationId) = some o →
          o.key = f.operationKey)
  | _ => True

/-- No two entries are for the same operation of the same station, and each has the notification
id of the START_OPERATION command that created it. -/
structure OperationTable (s : System) : Prop where
  nodup : (s.operations.map Operation.key).Nodup
  created : ∀ o ∈ s.operations, ∃ j,
    .answered j ∈ s.controller.globals.aecp.engine.trace ∧ j.Starts o.cmdFrame ∧
      o.cmdNotificationId = j.cmdNotificationId

/-- An OPERATION_STATUS response notifies of its station's operation with its id only, and
removes no other entry. -/
structure OwnStatus (f : AecpFrame) (s s' : System) : Prop where
  notifies : ∃ posts, s'.controller.globals.aecp.operationPosts =
      s.controller.globals.aecp.operationPosts ++ posts ∧
    ∀ n ∈ posts, ∃ o ∈ s.operations, o.key = f.operationKey ∧
      n.notificationId = o.cmdNotificationId
  removes : s'.operations = s.operations ∨ (f.percentComplete = 0 ∨ f.percentComplete = 1000) ∧
    ∃ o l₁ l₂, o.key = f.operationKey ∧ s.operations = l₁ ++ o :: l₂ ∧ s'.operations = l₁ ++ l₂

def StatusOwned (s : System) (a : Action) : Prop :=
  ∀ s', Step s a s' → match a with
    | .fnNetif _ _ (.aecp f) => f.commandType = .operationStatus → OwnStatus f s s'
    | _ => True

theorem fnNetif_operations {s s' : System} {now : Timestamp} {uninit : EntityId}
    {frame : RxFrame}
    (h : s.fnNetif now uninit frame = .ok s') :
    (s'.operations = s.operations ∧
      s'.controller.globals.aecp.operationPosts = s.controller.globals.aecp.operationPosts) ∨
    ∃ f es, frame = .aecp f ∧ s.controller.Dispatches f es ∧
      OperationEffect es f s.controller.globals.aecp s'.controller.globals.aecp := by
  obtain ⟨c, out, hrx, h⟩ := fnNetif_cases h
  have hc : s'.controller = c := by
    split at h
    · subst h
      rfl
    · subst h
      rfl
  rw [operations, hc]
  exact Controller.rxPacketEvent_operations hrx

/-- Only received frames change the operations. -/
theorem step_operations {s s' : System} {a : Action} (h : Step s a s') :
    s'.operations = s.operations ∨ ∃ now uninit f es, a = .fnNetif now uninit (.aecp f) ∧
      s.controller.Dispatches f es ∧
      OperationEffect es f s.controller.globals.aecp s'.controller.globals.aecp := by
  cases h with
  | fnTx h =>
    obtain ⟨c, hc, h⟩ := bind_eq_ok.1 h
    cases h
    exact .inl (Controller.txPacket_operations hc).1
  | fnNetif h =>
    rcases fnNetif_operations h with ⟨ho, -⟩ | ⟨f, es, rfl, hd, he⟩
    · exact .inl ho
    · exact .inr ⟨_, _, f, es, rfl, hd, he⟩
  | fnTimer h =>
    obtain ⟨c, hc, h⟩ := fnTimer_cases h
    have hops := (Controller.timeTickEvent_held hc null).2.2
    left
    split at h
    · subst h
      exact hops
    · subst h
      exact hops
  | _ => exact .inl rfl

theorem update_cases (m : AecpControllerStateMachine) (id : Ptr) (f : AecpFrame) :
    (m.updateOperationForRcvdResp id f.operationId f.percentComplete f).1 = m ∧
      m.activeOperations.find? (AecpControllerStateMachine.operationIdComp f.operationId) =
        none ∨
    ∃ o l₁ l₂, m.activeOperations.find?
        (AecpControllerStateMachine.operationIdComp f.operationId) = some o ∧
      m.activeOperations = l₁ ++ o :: l₂ ∧
      (m.updateOperationForRcvdResp id f.operationId f.percentComplete f).1.operationPosts =
        m.operationPosts ++
          AecpControllerStateMachine.callback o.cmdNotificationId o.cmdNotificationFlag f ∧
      (m.updateOperationForRcvdResp id f.operationId f.percentComplete f).1.activeOperations =
        if f.percentComplete = 0 ∨ f.percentComplete = 1000 then l₁ ++ l₂
        else m.activeOperations := by
  cases hf : m.activeOperations.find?
      (AecpControllerStateMachine.operationIdComp f.operationId) with
  | none =>
    left
    simp only [AecpControllerStateMachine.updateOperationForRcvdResp, hf]
    exact ⟨trivial, trivial⟩
  | some o =>
    obtain ⟨ho, l₁, l₂, hl, hno⟩ := List.find?_eq_some_iff_append.1 hf
    refine .inr ⟨o, l₁, l₂, rfl, hl, ?_, ?_⟩
    · simp only [AecpControllerStateMachine.updateOperationForRcvdResp, hf]
    · have herase : m.activeOperations.eraseP
          (AecpControllerStateMachine.operationIdComp f.operationId) = l₁ ++ l₂ := by
        rw [hl, List.eraseP_append_right, List.eraseP_cons_of_pos ho]
        intro b hb
        simpa using hno b hb
      simp only [AecpControllerStateMachine.updateOperationForRcvdResp, hf, herase]

theorem OperationTable.sublist {s s' : System} (h : OperationTable s)
    (hsub : List.Sublist s'.operations s.operations)
    (htrace : ∀ ev ∈ s.controller.globals.aecp.engine.trace,
      ev ∈ s'.controller.globals.aecp.engine.trace) : OperationTable s' := by
  refine ⟨h.nodup.sublist (hsub.map _), ?_⟩
  intro o ho
  obtain ⟨j, hj, hst, hid⟩ := h.created o (hsub.subset ho)
  exact ⟨j, htrace _ hj, hst, hid⟩

theorem operationTable_step {s s' : System} {a : Action}
    (hp : ∀ d ∈ s.controller.globals.txPipe, d.frame.isCommand = true) (h : OperationTable s)
    (hg : OperationsApart s a) (hs : Step s a s') : OperationTable s' := by
  have htrace : ∀ ev ∈ s.controller.globals.aecp.engine.trace,
      ev ∈ s'.controller.globals.aecp.engine.trace :=
    fun ev hev => (step_enginesStep hp hs).aecp.trace hev
  rcases step_operations hs with hops | ⟨now, uninit, f, es, rfl, hd, heff⟩
  · apply h.sublist _ htrace
    rw [hops]
  · obtain ⟨hstart, -⟩ := hg es hd
    cases heff with
    | kept ho =>
      apply h.sublist _ htrace
      rw [operations, ho]
      rfl
    | started hes ho _ he =>
      obtain ⟨⟨j, hj, hjs⟩, hnew⟩ := hstart hes
      have hresp : s.controller.globals.aecp.engine.procResp aecpSpec null f = _ :=
        Engine.procResp_of_some hj
      have hid : (s.controller.globals.aecp.stateRcvdResp null f).2 = j.cmdNotificationId := by
        rw [AecpControllerStateMachine.stateRcvdResp]
        rw [hresp]
      have hans : .answered j ∈ s'.controller.globals.aecp.engine.trace := by
        rw [he, AecpControllerStateMachine.stateRcvdResp]
        rw [hresp]
        apply List.mem_append_right
        exact List.mem_append_right _ List.mem_cons_self
      have hops : s'.operations = s.operations ++ [⟨f, .cmdWithNotification, f.operationId,
          f.operationType, (s.controller.globals.aecp.stateRcvdResp null f).2⟩] := ho
      constructor
      · rw [hops, List.map_append]
        apply List.Nodup.append h.nodup (List.nodup_singleton _)
        intro k hk hk'
        obtain ⟨o, hmem, rfl⟩ := List.mem_map.1 hk
        exact hnew o hmem (List.mem_singleton.1 hk')
      · intro o hmem
        rw [hops] at hmem
        rcases List.mem_append.1 hmem with hmem | hmem
        · obtain ⟨j', hj', hst, hid'⟩ := h.created o hmem
          exact ⟨j', htrace _ hj', hst, hid'⟩
        · cases List.mem_singleton.1 hmem
          exact ⟨j, hans, hjs, hid⟩
    | reported _ hm =>
      rename_i id
      apply h.sublist _ htrace
      rw [operations, hm]
      rcases update_cases (s.controller.globals.aecp.stateRcvdResp null f).1 id f with
        ⟨hsame, -⟩ | ⟨o, l₁, l₂, -, hl, -, hops⟩
      · rw [hsame]
        exact List.Sublist.refl _
      · rw [hops]
        split
        · have hl : s.operations = l₁ ++ o :: l₂ := hl
          rw [hl]
          exact (List.Sublist.refl l₁).append (List.sublist_cons_self o l₂)
        · exact List.Sublist.refl _

theorem statusOwned_of_apart {s : System} {a : Action} (hg : OperationsApart s a) :
    StatusOwned s a := by
  intro s' hs
  split
  · next now uninit f =>
    intro hc
    have hsame : s'.operations = s.operations →
        s'.controller.globals.aecp.operationPosts = s.controller.globals.aecp.operationPosts →
        OwnStatus f s s' := by
      intro ho hp
      refine ⟨⟨[], ?_, fun n hn => absurd hn List.not_mem_nil⟩, .inl ho⟩
      rw [hp, List.append_nil]
    cases hs with
    | fnNetif h =>
      rcases fnNetif_operations h with ⟨ho, hp⟩ | ⟨f', es, heq, hd, heff⟩
      · exact hsame ho hp
      · cases heq
        obtain ⟨-, hown⟩ := hg es hd
        cases heff with
        | kept ho hp => exact hsame ho hp
        | started hst =>
          rw [hst.1] at hc
          cases hc
        | reported hrep hm =>
          rename_i id
          rcases update_cases (s.controller.globals.aecp.stateRcvdResp null f).1 id f with
            ⟨hnone, -⟩ | ⟨o, l₁, l₂, hf, hl, hposts, hops⟩
          · rw [hnone] at hm
            apply hsame
            · rw [operations, hm]
              rfl
            · rw [hm]
              rfl
          · have hkey := hown hrep o hf
            have hl : s.operations = l₁ ++ o :: l₂ := hl
            have hmem : o ∈ s.operations := List.mem_of_find?_eq_some hf
            constructor
            · refine ⟨_, by rw [hm, hposts]; rfl, ?_⟩
              intro n hn
              refine ⟨o, hmem, hkey, ?_⟩
              rw [AecpControllerStateMachine.callback] at hn
              split at hn
              · rw [List.mem_singleton.1 hn]
                rfl
              · cases hn
            · rw [operations, hm, hops]
              split
              · next hpc => exact .inr ⟨hpc, o, l₁, l₂, hkey, hl, rfl⟩
              · exact .inl rfl
  · trivial

/-- In a run in which stations answer each START_OPERATION command once, give ids that are not
in use for it and report no id that another station has in front, the operation table is right
and OPERATION_STATUS responses reach their own operations only. -/
theorem operation_table {mac : Mac} {notifyId : Ptr} {completionStatus respStatusForCmd : Int}
    {tr : List (System × Action)} {s : System}
    (h : Run Step (.new mac notifyId completionStatus respStatusForCmd) tr s)
    (hg : Along OperationsApart tr) : OperationTable s ∧ Along StatusOwned tr := by
  constructor
  · have hinv : (∀ d ∈ s.controller.globals.txPipe, d.frame.isCommand = true) ∧
        OperationTable s := by
      apply h.invariant_along (I := fun s => (∀ d ∈ s.controller.globals.txPipe,
        d.frame.isCommand = true) ∧ OperationTable s) hg
      · refine ⟨?_, List.nodup_nil, ?_⟩
        · intro d hd
          cases hd
        · intro o ho
          cases ho
      · intro s a s' ⟨hp, ht⟩ hga hst
        exact ⟨(step_enginesStep hp hst).pipe, operationTable_step hp ht hga hst⟩
    exact hinv.2
  · intro p hp
    exact statusOwned_of_apart (hg p hp)

/-- The condition as a test, which looks at the frame and not at the station. -/
def apart (s : System) : Action → Bool
  | .fnNetif _ _ (.aecp f) =>
    (f.commandType != .startOperation ||
      (s.controller.globals.aecp.engine.inflightCmds.find? (Engine.seqIdComp f.sequenceId)).any
        (fun j => j.cmdFrame.messageType == .aemCommand &&
          j.cmdFrame.commandType == .startOperation &&
          j.cmdFrame.targetEntityId == f.targetEntityId && j.cmdSeqId == f.sequenceId) &&
        s.operations.all (fun o => o.key != f.operationKey)) &&
    (f.commandType != .operationStatus || (s.operations.find?
      (AecpControllerStateMachine.operationIdComp f.operationId)).all
        (fun o => o.key == f.operationKey))
  | _ => true

theorem operationsApart_of_apart {s : System} {a : Action} (h : apart s a = true) :
    OperationsApart s a := by
  simp only [OperationsApart]
  split
  · next now uninit f =>
    simp only [apart, Bool.and_eq_true, Bool.or_eq_true, bne_iff_ne] at h
    obtain ⟨hs, ho⟩ := h
    intro es _
    constructor
    · intro hst
      obtain ⟨hj, hall⟩ := hs.resolve_left fun hne => hne hst.1
      obtain ⟨j, hj, hjs⟩ := (Option.any_eq_true _ _).1 hj
      simp only [Bool.and_eq_true, beq_iff_eq, and_assoc] at hjs
      refine ⟨⟨j, hj, hjs⟩, ?_⟩
      intro o hmem
      exact bne_iff_ne.1 (List.all_eq_true.1 hall o hmem)
    · intro hrep o hf
      have hall := ho.resolve_left fun hne => hne hrep.1
      rw [hf] at hall
      exact eq_of_beq hall
  · trivial

def startOperationCommand : AecpFrame :=
  { messageType := .aemCommand
    targetEntityId := 3
    controllerEntityId := getControllerEntityId 1
    commandType := .startOperation
    descriptorType := .memoryObject }

/-- The answer to the fourth command. -/
def startOperationResponse : AecpFrame :=
  { startOperationCommand with
    destMac := 1, messageType := .aemResponse, sequenceId := 3, operationId := 7 }

def readResponse (sequenceId : BitVec 16) (descriptor : AemDesc) : Action :=
  .fnNetif 0 0
    (.aecp { entityResponse 3 with sequenceId := sequenceId, descriptor := descriptor })

def memoryObjectConfiguration : AemDesc :=
  { descriptorType := .configuration
    descriptorIndex := 0
    descriptorCounts := [(.memoryObject, 1)] }

/-- An end station with one MEMORY_OBJECT is read and an operation is started on it. -/
def startedOperation : List Action :=
  readEntity ++ [
    readResponse 0 { descriptorType := .entity, descriptorIndex := 0 }, .fnTx 0,
    readResponse 1 memoryObjectConfiguration, .fnTx 0,
    readResponse 2 { descriptorType := .memoryObject, descriptorIndex := 0 },
    .writePipe ⟨5, .cmdWithNotification, .aecp startOperationCommand⟩, .testWait, .fnTx 0,
    .fnNetif 0 0 (.aecp startOperationResponse)]

def statusResponse (operationId percentComplete : BitVec 16) : AecpFrame :=
  { startOperationResponse with
    commandType := .operationStatus, sequenceId := 0, operationId, percentComplete }

/-- A second operation is started beside the first, which reports its progress and its end. -/
def endedOperation : List Action :=
  startedOperation ++ [
    .writePipe ⟨6, .cmdWithNotification, .aecp startOperationCommand⟩, .testWait, .fnTx 0,
    .fnNetif 0 0 (.aecp { startOperationResponse with sequenceId := 4, operationId := 8 }),
    .fnNetif 0 0 (.aecp (statusResponse 7 500)), .fnNetif 0 0 (.aecp (statusResponse 7 1000))]

theorem operation_table_started :
    ∃ tr s, Run Step (.new 1 0 0 0) tr s ∧ s.operations.map Operation.key = [(3, 8)] ∧
      s.controller.globals.aecp.operationPosts.map Notification.notificationId = [5, 5] ∧
      OperationTable s ∧ Along StatusOwned tr := by
  have htrial : trial exec apart (fun s => s.operations.map Operation.key == [(3, 8)] &&
      s.controller.globals.aecp.operationPosts.map Notification.notificationId == [5, 5])
      (.new 1 0 0 0) endedOperation = true := by decide +kernel
  obtain ⟨tr, s, h, hg, hs⟩ :=
    exists_run_of_trial (f := exec) (fun _ _ _ h => exec_step h) htrial
  obtain ⟨hkeys, hposts⟩ := Bool.and_eq_true_iff.1 hs
  have ht := operation_table h fun p hp => operationsApart_of_apart (hg p hp)
  exact ⟨tr, s, h, eq_of_beq hkeys, eq_of_beq hposts, ht⟩

/-- The response comes in twice, as it does when the command was sent again. -/
theorem operation_started_twice :
    ¬ ∀ mac notifyId completionStatus respStatusForCmd tr s,
      Run Step (.new mac notifyId completionStatus respStatusForCmd) tr s →
        OperationTable s ∧ Along StatusOwned tr := by
  intro hall
  have htrial : trial exec (fun _ _ => true)
      (fun s => s.operations.map Operation.key == [(3, 7), (3, 7)]) (.new 1 0 0 0)
      (startedOperation ++ [.fnNetif 0 0 (.aecp startOperationResponse)]) = true := by decide
  obtain ⟨tr, s, h, -, hs⟩ :=
    exists_run_of_trial (f := exec) (fun _ _ _ h => exec_step h) htrial
  have hnodup := (hall 1 0 0 0 tr s h).1.nodup
  rw [eq_of_beq hs] at hnodup
  exact absurd hnodup (by decide)

end System
end AvdeccLib
