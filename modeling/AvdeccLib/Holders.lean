import AvdeccLib.SystemSteps

namespace AvdeccLib
set_option autoImplicit true

open Outcome FirstMatch

def Engine.held (s : Engine φ) (id : Ptr) : Nat :=
  s.inflightCmds.countP fun e => e.cmdNotificationId == id

def AecpControllerStateMachine.operationsHeld (m : AecpControllerStateMachine) (id : Ptr) :
    Nat :=
  m.activeOperations.countP fun o => o.cmdNotificationId == id

def AecpControllerStateMachine.held (m : AecpControllerStateMachine) (id : Ptr) : Nat :=
  m.engine.held id + m.operationsHeld id

def same (i j : Ptr) : Nat := if i = j then 1 else 0

@[simp] theorem same_self (i : Ptr) : same i i = 1 := if_pos rfl

theorem same_of_ne {i j : Ptr} (h : i ≠ j) : same i j = 0 := if_neg h

theorem eq_of_same {i j : Ptr} (h : 0 < same i j) : i = j := by
  by_contra hne
  rw [same_of_ne hne] at h
  cases h

namespace Engine

theorem isInflight_iff (s : Engine φ) (id : Ptr) :
    s.isInflightCmdWithNotificationId id = true ↔ 0 < s.held id := by
  rw [isInflightCmdWithNotificationId, held, List.any_eq_true, List.countP_pos_iff]

theorem held_stateSendCmd (p : EngineSpec φ) (now : Timestamp) (s : Engine φ) (i : Ptr)
    (flag : AemCmdWaiting) (frame : φ) (id : Ptr) :
    (s.stateSendCmd p now i flag frame).held id = s.held id + same i id := by
  rw [stateSendCmd_eq, held, held, List.countP_append, List.countP_singleton, same]
  congr 1
  have hid : (sentEntry p now s i flag frame).cmdNotificationId = i := rfl
  rw [hid]
  simp only [beq_iff_eq]

theorem held_procResp (p : EngineSpec φ) (s : Engine φ) (i : Ptr) (frame : φ) :
    (∃ j, s.inflightCmds.find? (seqIdComp (p.getSequenceId frame)) = some j ∧
      (s.procResp p i frame).2 = j.cmdNotificationId ∧
      ∀ id, s.held id = (s.procResp p i frame).1.held id + same j.cmdNotificationId id) ∨
    (s.inflightCmds.find? (seqIdComp (p.getSequenceId frame)) = none ∧
      s.procResp p i frame = (s, i)) := by
  cases hf : s.inflightCmds.find? (seqIdComp (p.getSequenceId frame)) with
  | none => exact .inr ⟨rfl, procResp_of_none hf⟩
  | some j =>
    refine .inl ⟨j, rfl, ?_, ?_⟩
    · rw [procResp_of_some hf]
    · intro id
      rw [procResp_of_some hf, held, (perm_eraseP hf).countP_eq, List.countP_cons, held, same]
      simp only [log_inflightCmds, beq_iff_eq]

theorem held_eq_tickets (s : Engine φ) (id : Ptr) :
    s.held id = s.tickets.countP fun t => t.notificationId == id := by
  rw [held, tickets, List.countP_map]
  rfl

theorem Visit.trace {p : EngineSpec φ} {now : Timestamp} {s s' : Engine φ} {i : Nat}
    (h : Visit p now s i s') : ∃ evs, s'.trace = s.trace ++ evs := by
  cases h with
  | absent => exact ⟨[], (List.append_nil _).symm⟩
  | waits => exact ⟨[], (List.append_nil _).symm⟩
  | drops => exact ⟨_, rfl⟩
  | resends => exact ⟨_, rfl⟩

theorem held_visit {p : EngineSpec φ} {now : Timestamp} {s s' : Engine φ} {i : Nat}
    (h : Visit p now s i s') (id : Ptr) :
    s'.held id = s.held id ∨
    ∃ e, .dropped e ∈ s'.trace ∧ s.held id = s'.held id + same e.cmdNotificationId id := by
  cases h with
  | absent => exact .inl rfl
  | waits h =>
    left
    rw [held_eq_tickets, held_eq_tickets]
    exact congrArg _ (tickets_set_poll now h)
  | drops h =>
    rename_i e _ _
    refine .inr ⟨e.poll now, ?_, ?_⟩
    · rw [log_trace]
      apply List.mem_append_right
      exact List.mem_cons_of_mem _ List.mem_cons_self
    · rw [held, (perm_eraseIdx h).countP_eq, List.countP_cons, held, same]
      simp only [log_inflightCmds, beq_iff_eq]
      rfl
  | resends h =>
    rename_i e _ _
    left
    rw [held_eq_tickets, held_eq_tickets]
    have ht := tickets_restart now (s.inflightCmds.set i (e.poll now))
      (seqIdComp (p.getSequenceId e.cmdFrame))
    exact congrArg _ (ht.trans (tickets_set_poll now h))

theorem held_tick (p : EngineSpec φ) (now : Timestamp) (s : Engine φ) (id : Ptr) :
    (s.tick p now).held id ≤ s.held id ∧
      ((s.tick p now).held id < s.held id →
        ∃ e, .dropped e ∈ (s.tick p now).trace ∧ e.cmdNotificationId = id) := by
  apply tick_induction (P := fun s' => s'.held id ≤ s.held id ∧ (s'.held id < s.held id →
    ∃ e, .dropped e ∈ s'.trace ∧ e.cmdNotificationId = id))
  · exact ⟨Nat.le_refl _, fun h => absurd h (Nat.lt_irrefl _)⟩
  · intro s₁ i s₂ ⟨hle, hdrop⟩ hv
    obtain ⟨evs, hevs⟩ := hv.trace
    rcases held_visit hv id with he | ⟨e, hmem, he⟩
    · refine ⟨by omega, ?_⟩
      intro hlt
      obtain ⟨e, hmem, hid⟩ := hdrop (by omega)
      refine ⟨e, ?_, hid⟩
      rw [hevs]
      exact List.mem_append_left _ hmem
    · refine ⟨by omega, ?_⟩
      intro hlt
      by_cases hs : e.cmdNotificationId = id
      · exact ⟨e, hmem, hs⟩
      · rw [same_of_ne hs] at he
        obtain ⟨e', hmem', hid⟩ := hdrop (by omega)
        refine ⟨e', ?_, hid⟩
        rw [hevs]
        exact List.mem_append_left _ hmem'

end Engine

namespace AecpControllerStateMachine

theorem isActive_iff (m : AecpControllerStateMachine) (id : Ptr) :
    m.isActiveOperationWithNotificationId id = true ↔ 0 < m.operationsHeld id := by
  rw [isActiveOperationWithNotificationId, operationsHeld, List.any_eq_true,
    List.countP_pos_iff]

theorem held_startOperation (m : AecpControllerStateMachine) (i : Ptr) (oid ot : BitVec 16)
    (frame : AecpFrame) (id : Ptr) :
    (m.startOperation i oid ot frame).held id = m.held id + same i id := by
  rw [held, held, operationsHeld, startOperation]
  simp only [List.countP_append, List.countP_singleton, beq_iff_eq]
  rw [operationsHeld, same, Nat.add_assoc]

theorem held_updateOperation (m : AecpControllerStateMachine) (i : Ptr) (oid pc : BitVec 16)
    (frame : AecpFrame) :
    (∃ o, m.activeOperations.find? (operationIdComp oid) = some o ∧
      (m.updateOperationForRcvdResp i oid pc frame).2 = o.cmdNotificationId ∧
      ∀ id, (m.updateOperationForRcvdResp i oid pc frame).1.held id ≤ m.held id ∧
        m.held id ≤ (m.updateOperationForRcvdResp i oid pc frame).1.held id +
          same o.cmdNotificationId id) ∨
    m.updateOperationForRcvdResp i oid pc frame = (m, i) := by
  cases hf : m.activeOperations.find? (operationIdComp oid) with
  | none =>
    right
    simp only [updateOperationForRcvdResp, hf]
  | some o =>
    refine .inl ⟨o, rfl, ?_, ?_⟩
    · simp only [updateOperationForRcvdResp, hf]
    · intro id
      simp only [updateOperationForRcvdResp, hf, held, operationsHeld]
      have hperm := (perm_eraseP hf).countP_eq fun o : Operation => o.cmdNotificationId == id
      rw [List.countP_cons] at hperm
      simp only [beq_iff_eq] at hperm
      split
      · rw [hperm, same]
        omega
      · omega

theorem held_stateRcvdResp (m : AecpControllerStateMachine) (frame : AecpFrame) :
    (∀ id, (m.stateRcvdResp null frame).1.held id ≤ m.held id) ∧
      ((m.stateRcvdResp null frame).2 ≠ null →
        m.held (m.stateRcvdResp null frame).2 =
          (m.stateRcvdResp null frame).1.held (m.stateRcvdResp null frame).2 + 1) ∧
      ∀ id, (m.stateRcvdResp null frame).1.held id < m.held id →
        (m.stateRcvdResp null frame).2 = id ∧
          m.held id = (m.stateRcvdResp null frame).1.held id + 1 ∧
          ∃ j, m.engine.inflightCmds.find? (Engine.seqIdComp frame.sequenceId) = some j ∧
            j.cmdNotificationId = id := by
  rcases Engine.held_procResp aecpSpec m.engine null frame with ⟨j, hj, hid, hheld⟩ | ⟨-, he⟩
  · have hid : (m.stateRcvdResp null frame).2 = j.cmdNotificationId := hid
    have hsum : ∀ id, m.held id =
        (m.stateRcvdResp null frame).1.held id + same j.cmdNotificationId id := by
      intro id
      have hops : (m.stateRcvdResp null frame).1.operationsHeld id = m.operationsHeld id := rfl
      have heng : (m.stateRcvdResp null frame).1.engine =
        (m.engine.procResp aecpSpec null frame).1 := rfl
      rw [held, held, hops, heng, hheld id]
      omega
    rw [hid]
    refine ⟨?_, ?_, ?_⟩
    · intro id
      have := hsum id
      omega
    · intro _
      rw [hsum, same_self]
    · intro id hlt
      have hs := hsum id
      have hjd : j.cmdNotificationId = id := eq_of_same (by omega)
      rw [hjd, same_self] at hs
      exact ⟨hjd, hs, j, hj, hjd⟩
  · have he : m.stateRcvdResp null frame = (m, null) := by
      rw [stateRcvdResp]
      rw [he]
    rw [he]
    refine ⟨fun _ => Nat.le_refl _, fun h => absurd rfl h, ?_⟩
    intro id hlt
    exact absurd hlt (Nat.lt_irrefl _)

end AecpControllerStateMachine

/-- The command with the sequence id of the frame has the id, and the operation with the
operation id of the frame has another one. -/
def Steals (frame : AecpFrame) (m : AecpControllerStateMachine) (id : Ptr) : Prop :=
  (∃ j, m.engine.inflightCmds.find? (Engine.seqIdComp frame.sequenceId) = some j ∧
    j.cmdNotificationId = id) ∧
  ∃ o, m.activeOperations.find?
      (AecpControllerStateMachine.operationIdComp frame.operationId) = some o ∧
    o.cmdNotificationId ≠ id

theorem Answer.held {es : EndStation} {frame : AecpFrame} {m m' : AecpControllerStateMachine}
    {nid : Ptr} (h : Answer es frame m m' nid) :
    (∀ id, id ≠ null → m'.held id ≤ m.held id) ∧ (nid ≠ null → 0 < m.held nid) ∧
      ∀ id, m'.held id < m.held id →
        nid = id ∨
          es.ReportsOperation frame ∧ Steals frame m id ∧ m.held id ≤ m'.held id + 1 := by
  obtain ⟨hle, hfound, hlost⟩ := m.held_stateRcvdResp frame
  have hanswered : ∀ id, (m.stateRcvdResp null frame).1.held id < m.held id →
      (m.stateRcvdResp null frame).2 = id := fun id hlt => (hlost id hlt).1
  cases h with
  | ignored =>
    refine ⟨fun _ _ => Nat.le_refl _, fun h => absurd rfl h, ?_⟩
    intro id hlt
    exact absurd hlt (Nat.lt_irrefl _)
  | answered =>
    refine ⟨fun id _ => hle id, ?_, fun id hlt => .inl (hanswered id hlt)⟩
    intro hne
    have := hfound hne
    omega
  | started =>
    rename_i operationType
    have hstart := (m.stateRcvdResp null frame).1.held_startOperation
      (m.stateRcvdResp null frame).2 frame.operationId operationType frame
    refine ⟨?_, ?_, ?_⟩
    · intro id hne
      rw [hstart]
      by_cases hid : (m.stateRcvdResp null frame).2 = id
      · subst hid
        rw [same_self, hfound hne]
      · rw [same_of_ne hid]
        exact hle id
    · intro hne
      have := hfound hne
      omega
    · intro id hlt
      rw [hstart] at hlt
      exact .inl (hanswered id (by omega))
  | reported hc =>
    rename_i percentComplete
    rcases (m.stateRcvdResp null frame).1.held_updateOperation (m.stateRcvdResp null frame).2
      frame.operationId percentComplete frame with ⟨o, ho, hoid, hoheld⟩ | hu
    · rw [hoid]
      refine ⟨?_, ?_, ?_⟩
      · intro id _
        exact Nat.le_trans (hoheld id).1 (hle id)
      · intro _
        have hmem : o ∈ m.activeOperations := List.mem_of_find?_eq_some ho
        have hpos : 0 < m.operationsHeld o.cmdNotificationId :=
          List.countP_pos_iff.2 ⟨o, hmem, beq_self_eq_true _⟩
        exact Nat.lt_of_lt_of_le hpos (Nat.le_add_left _ _)
      · intro id hlt
        by_cases hid : o.cmdNotificationId = id
        · exact .inl hid
        · have hkeep := (hoheld id).2
          rw [same_of_ne hid] at hkeep
          obtain ⟨-, hone, hj⟩ := hlost id (by omega)
          exact .inr ⟨hc, ⟨hj, o, ho, hid⟩, by omega⟩
    · rw [hu]
      refine ⟨fun id _ => hle id, ?_, fun id hlt => .inl (hanswered id hlt)⟩
      intro hne
      have hone := hfound hne
      show 0 < m.held (m.stateRcvdResp null frame).2
      omega

def Globals.held (g : Globals) (id : Ptr) : Nat :=
  (g.txPipe.countP fun d => d.notificationId == id) + g.aecp.held id + g.acmp.held id

theorem AcmpHandled.held {frame : AcmpFrame} {g g' : Globals} {out : RxOut}
    (h : AcmpHandled frame g g' out) :
    (∀ id, g'.acmp.held id ≤ g.acmp.held id) ∧
      (out.notificationId ≠ null → 0 < g.acmp.held out.notificationId) ∧
      ∀ id, g'.acmp.held id < g.acmp.held id → out.notificationId = id := by
  have hkeep : g'.acmp = g.acmp → out.notificationId = null →
      (∀ id, g'.acmp.held id ≤ g.acmp.held id) ∧
        (out.notificationId ≠ null → 0 < g.acmp.held out.notificationId) ∧
        ∀ id, g'.acmp.held id < g.acmp.held id → out.notificationId = id := by
    intro hacmp hid
    rw [hacmp]
    exact ⟨fun _ => Nat.le_refl _, fun hne => absurd hid hne,
      fun id hlt => absurd hlt (Nat.lt_irrefl _)⟩
  rcases h.answer with ⟨hacmp, hid⟩ | ⟨-, hacmp⟩
  · exact hkeep hacmp hid
  · have hnid : out.notificationId = (g.acmp.procResp acmpSpec null frame).2 :=
      congrArg Prod.snd hacmp
    have hacmp : g'.acmp = (g.acmp.procResp acmpSpec null frame).1 := congrArg Prod.fst hacmp
    rcases Engine.held_procResp acmpSpec g.acmp null frame with ⟨j, -, hid, hheld⟩ | ⟨-, he⟩
    · rw [← hacmp] at hheld
      rw [hnid, hid]
      refine ⟨?_, ?_, ?_⟩
      · intro id
        have := hheld id
        omega
      · intro _
        rw [hheld, same_self]
        omega
      · intro id hlt
        have := hheld id
        exact eq_of_same (by omega)
    · rw [he] at hacmp hnid
      exact hkeep hacmp hnid

theorem countP_backgroundRead {tx : List TxData} {id : Ptr} (h : ∀ d ∈ tx, d.BackgroundRead)
    (hne : id ≠ null) : (tx.countP fun d => d.notificationId == id) = 0 := by
  apply List.countP_eq_zero.2
  intro d hd
  rw [(h d hd).1, beq_iff_eq]
  exact Ne.symm hne

namespace Controller

/-- The frame is an OPERATION_STATUS response that is handled and completes the command with the
id, and the id of another command is returned for it. -/
def StealsWakeup (c : Controller) (frame : RxFrame) (id : Ptr) : Prop :=
  match frame with
  | .aecp f => f.isResponse = true ∧ f.destMac = c.globals.macAddr ∧
      ∃ es i, c.findInEndStation f.targetEntityId f.controllerEntityId = some (es, i) ∧
        es.ReportsOperation f ∧ Steals f c.globals.aecp id
  | _ => False

theorem GlobalsReceived.held {c : Controller} {g : Globals} {frame : RxFrame} {out : RxOut}
    (h : GlobalsReceived c frame g out) :
    (∀ id, id ≠ null → g.held id ≤ c.globals.held id) ∧
      (out.isNotificationIdValid = true → out.notificationId ≠ null →
        0 < c.globals.aecp.held out.notificationId + c.globals.acmp.held out.notificationId) ∧
      ∀ id, g.held id < c.globals.held id → out.isNotificationIdValid = true ∧
        (out.notificationId = id ∨
          StealsWakeup c frame id ∧ c.globals.held id ≤ g.held id + 1) := by
  have hpipe : ∀ id tx, ((c.globals.txPipe ++ tx).countP fun d => d.notificationId == id) =
      (c.globals.txPipe.countP fun d => d.notificationId == id) +
        tx.countP fun d => d.notificationId == id := fun _ _ => List.countP_append
  cases h with
  | other htx ho =>
    refine ⟨?_, ?_, ?_⟩
    · intro id hne
      simp only [Globals.held, hpipe, countP_backgroundRead htx hne]
      omega
    · intro hv
      rw [ho] at hv
      cases hv
    · intro id hlt
      simp only [Globals.held, hpipe] at hlt
      omega
  | aecp hf hd hes hg =>
    rename_i es i f out
    obtain ⟨tx, htxPipe, htx⟩ := hg.txPipe
    obtain ⟨hle, hfound, hlost⟩ := hg.answer.held
    have hacmp := hg.acmp
    refine ⟨?_, ?_, ?_⟩
    · intro id hne
      have := hle id hne
      simp only [Globals.held, htxPipe, hpipe, countP_backgroundRead htx hne, hacmp]
      omega
    · intro _ hne
      have := hfound hne
      show 0 < c.globals.aecp.held out.notificationId + _
      omega
    · intro id hlt
      refine ⟨rfl, ?_⟩
      simp only [Globals.held, htxPipe, hpipe, hacmp] at hlt ⊢
      rcases hlost id (by omega) with heq | ⟨hrep, hst, hone⟩
      · exact .inl heq
      · exact .inr ⟨⟨hf, hd, es, i, hes, hrep, hst⟩, by omega⟩
  | acmp hg =>
    rename_i f out
    obtain ⟨hle, hfound, hlost⟩ := hg.held
    have haecp := hg.aecp
    have htxPipe := hg.txPipe
    refine ⟨?_, ?_, ?_⟩
    · intro id _
      have := hle id
      simp only [Globals.held, haecp, htxPipe]
      omega
    · intro _ hne
      have := hfound hne
      show 0 < _ + c.globals.acmp.held out.notificationId
      omega
    · intro id hlt
      simp only [Globals.held, haecp, htxPipe] at hlt
      exact ⟨rfl, .inl (hlost id (by omega))⟩

/-- A tick takes holders of an id away only by dropping an entry with the id. -/
theorem timeTickEvent_held {c c' : Controller} {now : Timestamp}
    (h : c.timeTickEvent now = .ok c') (id : Ptr) :
    (id ≠ null → c'.globals.held id ≤ c.globals.held id) ∧
      (c'.globals.held id < c.globals.held id →
        (∃ e, .dropped e ∈ c'.globals.aecp.engine.trace ∧ e.cmdNotificationId = id) ∨
        ∃ e, .dropped e ∈ c'.globals.acmp.trace ∧ e.cmdNotificationId = id) ∧
      c'.globals.aecp.activeOperations = c.globals.aecp.activeOperations := by
  obtain ⟨tx, hg, htx⟩ := timeTickEvent_globals h
  have hpipe : ((c.globals.txPipe ++ tx).countP fun d => d.notificationId == id) =
      (c.globals.txPipe.countP fun d => d.notificationId == id) +
        tx.countP fun d => d.notificationId == id := List.countP_append
  obtain ⟨hle, hdrop⟩ := Engine.held_tick aecpSpec now c.globals.aecp.engine id
  obtain ⟨hle', hdrop'⟩ := Engine.held_tick acmpSpec now c.globals.acmp id
  have hops : (c.globals.aecp.tick now).operationsHeld id = c.globals.aecp.operationsHeld id :=
    rfl
  have heng : (c.globals.aecp.tick now).engine = c.globals.aecp.engine.tick aecpSpec now := rfl
  rw [hg]
  refine ⟨?_, ?_, rfl⟩
  · intro hne
    simp only [Globals.held, hpipe, countP_backgroundRead htx hne,
      AecpControllerStateMachine.held, hops, heng]
    omega
  · intro hlt
    simp only [Globals.held, hpipe, AecpControllerStateMachine.held, hops, heng] at hlt
    by_cases hacmp : (c.globals.acmp.tick acmpSpec now).held id < c.globals.acmp.held id
    · exact .inr (hdrop' hacmp)
    · exact .inl (hdrop (by omega))

theorem txPacket_held {c c' : Controller} {now : Timestamp}
    (hp : ∀ d ∈ c.globals.txPipe, d.frame.isCommand = true)
    (h : c.handle (.txPacket now) = .ok c') (id : Ptr) :
    c'.globals.held id = c.globals.held id ∧
      c'.globals.aecp.operationsHeld id = c.globals.aecp.operationsHeld id := by
  rcases handle_txPacket h with ⟨-, rfl⟩ | ⟨d, rest, hpipe, rfl⟩
  · exact ⟨rfl, rfl⟩
  · have hd := hp d (by rw [hpipe]; exact List.mem_cons_self)
    have hcons := List.countP_cons (p := fun d : TxData => d.notificationId == id) (a := d)
      (l := rest)
    simp only [beq_iff_eq] at hcons
    rw [txPacketEvent]
    split
    · next f hf =>
      have hsend := Engine.held_stateSendCmd aecpSpec now c.globals.aecp.engine d.notificationId
        d.notificationFlag f id
      refine ⟨?_, rfl⟩
      simp only [Globals.held, hpipe, hcons, AecpControllerStateMachine.held,
        AecpControllerStateMachine.stateSendCmd, hsend, same,
        AecpControllerStateMachine.operationsHeld]
      omega
    · next f hf =>
      have hsend := Engine.held_stateSendCmd acmpSpec now c.globals.acmp d.notificationId
        d.notificationFlag f id
      refine ⟨?_, rfl⟩
      simp only [Globals.held, hpipe, hcons, hsend, same]
      omega
    · next hf =>
      rw [hf] at hd
      cases hd

theorem held_writePipe (c : Controller) (d : TxData) (id : Ptr) :
    (c.systemQueueTx [d]).globals.held id = c.globals.held id + same d.notificationId id := by
  have hpipe : ((c.globals.txPipe ++ [d]).countP fun d => d.notificationId == id) =
      (c.globals.txPipe.countP fun d => d.notificationId == id) + same d.notificationId id := by
    rw [List.countP_append, List.countP_singleton, same]
    simp only [beq_iff_eq]
  have hq : (c.systemQueueTx [d]).globals =
    { c.globals with txPipe := c.globals.txPipe ++ [d] } := rfl
  simp only [hq, Globals.held, hpipe]
  omega

end Controller
def Globals.unfinished (g : Globals) (id : Ptr) : Nat := g.aecp.held id + g.acmp.held id

namespace System

theorem isComplete_iff (s : System) (id : Ptr) :
    s.isComplete id = true ↔ s.controller.globals.unfinished id = 0 := by
  have haecp := Engine.isInflight_iff s.controller.globals.aecp.engine id
  have hacmp := Engine.isInflight_iff s.controller.globals.acmp id
  have hops := AecpControllerStateMachine.isActive_iff s.controller.globals.aecp id
  rw [isComplete, Controller.isInflightCmdWithNotificationId,
    Controller.isActiveOperationWithNotificationId, Bool.and_eq_true, Bool.not_eq_true',
    Bool.not_eq_true', Bool.or_eq_false_iff, ← Bool.not_eq_true, ← Bool.not_eq_true,
    ← Bool.not_eq_true, haecp, hacmp, hops, Globals.unfinished, AecpControllerStateMachine.held]
  omega

def released (s : System) (c : Controller) (status : Int) : System :=
  { s with
    controller := c
    waitMgr := { s.waitMgr with completionStatus := status }
    waitingSem := s.waitingSem + 1 }

theorem release_eq {s : System} {c : Controller} {status : Int}
    (h : s.waitMgr.state = .waitActive) :
    release { s with controller := c } status = s.released c status := by
  unfold release asserting CmdWaitMgr.setCompletionStatus released
  simp [h]

/-- What a received frame does: when its response completes the command that is waited for, the
app thread is released. -/
theorem fnNetif_cases {s s' : System} {now : Timestamp} {uninit : EntityId} {frame : RxFrame}
    (h : s.fnNetif now uninit frame = .ok s') :
    ∃ c out, s.controller.rxPacketEvent now uninit frame {} = .ok (c, out) ∧
      if s.waitMgr.state = .waitActive ∧ out.isNotificationIdValid = true ∧
          out.notificationId = s.waitMgr.notifyId ∧ c.globals.unfinished s.waitMgr.notifyId = 0
        then s' = s.released c out.status
        else s' = { s with controller := c } := by
  obtain ⟨⟨c, out⟩, hrx, h⟩ := bind_eq_ok.1 h
  refine ⟨c, out, hrx, ?_⟩
  have hcomplete := isComplete_iff { s with controller := c } s.waitMgr.notifyId
  simp only [Bool.and_eq_true, CmdWaitMgr.activeState, CmdWaitMgr.matchId,
    beq_iff_eq, hcomplete, and_assoc] at h
  split at h
  · next hc =>
    cases h
    rw [if_pos hc, release_eq hc.1]
  · next hc =>
    cases h
    rw [if_neg hc]

/-- What a tick does: when it takes the command that is waited for out of its table, the app
thread is released. -/
theorem fnTimer_cases {s s' : System} {now : Timestamp} (h : s.fnTimer now = .ok s') :
    ∃ c, s.controller.timeTickEvent now = .ok c ∧
      if s.waitMgr.state = .waitActive ∧
          0 < s.controller.globals.unfinished s.waitMgr.notifyId ∧
          c.globals.unfinished s.waitMgr.notifyId = 0
        then s' = s.released c avdeccLibStatusTickTimeout
        else s' = { s with controller := c } := by
  obtain ⟨c, hc, h⟩ := bind_eq_ok.1 h
  refine ⟨c, hc, ?_⟩
  have hbefore := isComplete_iff s s.waitMgr.notifyId
  have hafter := isComplete_iff { s with controller := c } s.waitMgr.notifyId
  simp only [Bool.and_eq_true, CmdWaitMgr.activeState, beq_iff_eq, hafter, Bool.not_eq_true',
    ← Bool.not_eq_true, hbefore] at h
  split at h
  · next hcond =>
    cases h
    rw [if_pos ⟨hcond.1.1, by omega, hcond.2⟩, release_eq hcond.1.1]
  · next hcond =>
    cases h
    rw [if_neg]
    rintro ⟨ha, hb, hd⟩
    exact hcond ⟨⟨ha, ha, by omega⟩, hd⟩

end System
end AvdeccLib
