import AvdeccLib.Wakeup
import AvdeccLib.Retransmission

namespace AvdeccLib
set_option autoImplicit true

open Runs Outcome

def Globals.Dropped (g : Globals) (id : Ptr) : Prop :=
  (∃ e, .dropped e ∈ g.aecp.engine.trace ∧ e.cmdNotificationId = id) ∨
  ∃ e, .dropped e ∈ g.acmp.trace ∧ e.cmdNotificationId = id

/-- A tick gave up a command with the id that was put on the wire twice. -/
def Globals.TimedOut (g : Globals) (id : Ptr) : Prop :=
  (∃ e, .dropped e ∈ g.aecp.engine.trace ∧ e.cmdNotificationId = id ∧
    g.aecp.engine.transmissions e.birth = 2) ∨
  ∃ e, .dropped e ∈ g.acmp.trace ∧ e.cmdNotificationId = id ∧ g.acmp.transmissions e.birth = 2

theorem Engine.Step.trace {p : EngineSpec φ} {s s' : Engine φ} {op : EngineOp φ}
    (h : Engine.Step p s op s') {ev : EngineEvent φ} (hev : ev ∈ s.trace) : ev ∈ s'.trace := by
  cases h with
  | sendCmd _ => exact List.mem_append_left _ hev
  | rcvdResp _ =>
    rename_i id frame _
    cases hf : s.inflightCmds.find? (seqIdComp (p.getSequenceId frame)) with
    | none =>
      rw [procResp_of_none hf]
      exact hev
    | some j =>
      rw [procResp_of_some hf]
      exact List.mem_append_left _ hev
  | tick =>
    apply tick_induction (P := fun s' => ev ∈ s'.trace) hev
    intro s₁ i s₂ hmem hv
    obtain ⟨evs, hevs⟩ := hv.trace
    rw [hevs]
    exact List.mem_append_left _ hmem

theorem EngineStep.trace {p : EngineSpec φ} {s s' : Engine φ} (h : EngineStep p s s')
    {ev : EngineEvent φ} (hev : ev ∈ s.trace) : ev ∈ s'.trace := by
  rcases h with rfl | ⟨op, h⟩
  · exact hev
  · exact h.trace hev

theorem EnginesStep.dropped {g g' : Globals} {id : Ptr} (h : EnginesStep g g')
    (hd : g.Dropped id) : g'.Dropped id := by
  rcases hd with ⟨e, he, hid⟩ | ⟨e, he, hid⟩
  · exact .inl ⟨e, h.aecp.trace he, hid⟩
  · exact .inr ⟨e, h.acmp.trace he, hid⟩

theorem countP_append_backgroundRead {l tx : List TxData} {id : Ptr}
    (htx : ∀ d ∈ tx, d.BackgroundRead) (hne : id ≠ null) :
    ((l ++ tx).countP fun d => d.notificationId == id) =
      l.countP fun d => d.notificationId == id := by
  rw [List.countP_append, countP_backgroundRead htx hne, Nat.add_zero]

namespace Controller

theorem GlobalsReceived.queued {c : Controller} {g : Globals} {frame : RxFrame} {out : RxOut}
    (h : GlobalsReceived c frame g out) {id : Ptr} (hne : id ≠ null) :
    (g.txPipe.countP fun d => d.notificationId == id) =
      c.globals.txPipe.countP fun d => d.notificationId == id := by
  cases h with
  | other htx _ => exact countP_append_backgroundRead htx hne
  | aecp _ _ _ hg =>
    obtain ⟨tx, hpipe, htx⟩ := hg.txPipe
    simp only [hpipe]
    exact countP_append_backgroundRead htx hne
  | acmp hg => simp only [hg.txPipe]

theorem GlobalsReceived.status {c : Controller} {g : Globals} {frame : RxFrame} {out : RxOut}
    (h : GlobalsReceived c frame g out) (hv : out.isNotificationIdValid = true) :
    out.status ≠ avdeccLibStatusTickTimeout := by
  have hframe : ∀ status, FrameStatus status → status ≠ avdeccLibStatusTickTimeout := by
    intro status hs
    unfold FrameStatus at hs
    unfold avdeccLibStatusTickTimeout
    omega
  cases h with
  | other _ ho =>
    rw [ho] at hv
    cases hv
  | aecp _ _ _ hg => exact hframe _ hg.status
  | acmp hg => exact hframe _ hg.status

end Controller

namespace System

def Fresh (s : System) : Action → Prop
  | .writePipe d => d.notificationId ≠ null ∧ d.notificationId ∉ s.usedIds
  | _ => True

/-- Fewer than 65536 commands were issued since any of the inflight ones was. -/
def Window (s : System) : Prop :=
  s.controller.globals.aecp.engine.Window ∧ s.controller.globals.acmp.Window

/-- The semaphore and the asserts, and what is left of a command behind its wait. -/
structure WaitSafe (s : System) : Prop where
  waitingSem : s.waitingSem ≤ 1
  asserts : s.assertFailed = false
  completed : s.app = .woken ∨ s.app = .gotStatus →
    ¬ s.controller.globals.Holds s.waitMgr.notifyId

structure Released (s : System) (status : Int) : Prop where
  held : s.controller.globals.held s.waitMgr.notifyId = 0
  dropped : status = avdeccLibStatusTickTimeout →
    s.controller.globals.Dropped s.waitMgr.notifyId

/-- Where the wait manager and the semaphore are, by where the app thread is. -/
def Phase (s : System) : AppPc → Prop
  | .outside => s.waitMgr.state ≠ .waitActive ∧ s.waitingSem = 0
  | .written d => s.waitMgr.state ≠ .waitActive ∧ s.waitingSem = 0 ∧ d.notificationId ≠ null
  | .tested => s.waitMgr.state = .waitPrimed ∧ s.waitingSem = 0 ∧ s.waitMgr.notifyId ≠ null
  | .waiting => s.waitMgr.state = .waitActive ∧ s.waitMgr.notifyId ≠ null ∧
      (s.waitingSem = 0 ∨ s.waitingSem = 1 ∧ Released s s.waitMgr.completionStatus)
  | .woken => s.waitMgr.state = .waitActive ∧ s.waitMgr.notifyId ≠ null ∧ s.waitingSem = 0 ∧
      Released s s.waitMgr.completionStatus
  | .gotStatus => s.waitMgr.state = .waitActive ∧ s.waitMgr.notifyId ≠ null ∧ s.waitingSem = 0 ∧
      Released s s.respStatusForCmd

/-- The invariant over both threads: an id that was used is held once at most. -/
structure Disciplined (s : System) : Prop where
  pipe : ∀ d ∈ s.controller.globals.txPipe, d.frame.isCommand = true
  held : ∀ id, id ≠ null → s.controller.globals.held id ≤ 1
  used : ∀ id, id ≠ null → 0 < s.controller.globals.held id → id ∈ s.usedIds
  asserts : s.assertFailed = false
  phase : Phase s s.app

theorem disciplined_new (mac : Mac) (notifyId : Ptr) (completionStatus respStatusForCmd : Int) :
    Disciplined (.new mac notifyId completionStatus respStatusForCmd) := by
  have hheld :
    ∀ id, (new mac notifyId completionStatus respStatusForCmd).controller.globals.held
      id = 0 := fun _ => rfl
  refine ⟨?_, ?_, ?_, rfl, WaitState.noConfusion, rfl⟩
  · intro d hd
    cases hd
  · intro id _
    rw [hheld]
    exact Nat.zero_le 1
  · intro id _ hpos
    rw [hheld] at hpos
    cases hpos

theorem Phase.active {s : System} (h : Phase s s.app) (ha : s.waitMgr.state = .waitActive) :
    s.waitMgr.notifyId ≠ null ∧ (s.app = .waiting ∧ s.waitingSem = 0 ∨
      s.controller.globals.held s.waitMgr.notifyId = 0) := by
  cases happ : s.app with
  | outside =>
    rw [happ] at h
    exact absurd ha h.1
  | written d =>
    rw [happ] at h
    exact absurd ha h.1
  | tested =>
    rw [happ] at h
    have hp : s.waitMgr.state = .waitPrimed := h.1
    rw [hp] at ha
    cases ha
  | waiting =>
    rw [happ] at h
    obtain ⟨-, hne, hsem | ⟨-, hr⟩⟩ := h
    · exact ⟨hne, .inl ⟨rfl, hsem⟩⟩
    · exact ⟨hne, .inr hr.held⟩
  | woken =>
    rw [happ] at h
    obtain ⟨-, hne, -, hr⟩ := h
    exact ⟨hne, .inr hr.held⟩
  | gotStatus =>
    rw [happ] at h
    obtain ⟨-, hne, -, hr⟩ := h
    exact ⟨hne, .inr hr.held⟩

theorem Phase.mono {s : System} {c : Controller} {pc : AppPc} (h : Phase s pc)
    (hle : ∀ id, id ≠ null → c.globals.held id ≤ s.controller.globals.held id)
    (hd : ∀ id, s.controller.globals.Dropped id → c.globals.Dropped id) :
    Phase { s with controller := c } pc := by
  have hr : ∀ status, s.waitMgr.notifyId ≠ null → Released s status →
      Released { s with controller := c } status := by
    intro status hne hr
    have hzero := hle s.waitMgr.notifyId hne
    rw [hr.held] at hzero
    exact ⟨Nat.eq_zero_of_le_zero hzero, fun hst => hd _ (hr.dropped hst)⟩
  cases pc with
  | outside => exact h
  | written d => exact h
  | tested => exact h
  | waiting =>
    obtain ⟨ha, hne, hsem | ⟨hsem, hrel⟩⟩ := h
    · exact ⟨ha, hne, .inl hsem⟩
    · exact ⟨ha, hne, .inr ⟨hsem, hr _ hne hrel⟩⟩
  | woken =>
    obtain ⟨ha, hne, hsem, hrel⟩ := h
    exact ⟨ha, hne, hsem, hr _ hne hrel⟩
  | gotStatus =>
    obtain ⟨ha, hne, hsem, hrel⟩ := h
    exact ⟨ha, hne, hsem, hr _ hne hrel⟩

theorem Disciplined.mono {s : System} {c : Controller} (h : Disciplined s)
    (hst : EnginesStep s.controller.globals c.globals)
    (hle : ∀ id, id ≠ null → c.globals.held id ≤ s.controller.globals.held id) :
    Disciplined { s with controller := c } := by
  refine ⟨hst.pipe, ?_, ?_, h.asserts, h.phase.mono hle fun _ => hst.dropped⟩
  · intro id hne
    exact Nat.le_trans (hle id hne) (h.held id hne)
  · intro id hne hpos
    exact h.used id hne (Nat.lt_of_lt_of_le hpos (hle id hne))

theorem Disciplined.released {s : System} {c : Controller} {status : Int} (h : Disciplined s)
    (hst : EnginesStep s.controller.globals c.globals)
    (hle : ∀ id, id ≠ null → c.globals.held id ≤ s.controller.globals.held id)
    (hqueued : (c.globals.txPipe.countP fun d => d.notificationId == s.waitMgr.notifyId) =
      s.controller.globals.txPipe.countP fun d => d.notificationId == s.waitMgr.notifyId)
    (ha : s.waitMgr.state = .waitActive)
    (hbefore : 0 < s.controller.globals.unfinished s.waitMgr.notifyId)
    (hafter : c.globals.unfinished s.waitMgr.notifyId = 0)
    (hdrop : c.globals.held s.waitMgr.notifyId < s.controller.globals.held s.waitMgr.notifyId →
      status = avdeccLibStatusTickTimeout → c.globals.Dropped s.waitMgr.notifyId) :
    Disciplined (s.released c status) := by
  obtain ⟨hne, hwhere⟩ := h.phase.active ha
  have hone := h.held s.waitMgr.notifyId hne
  have hheld : c.globals.held s.waitMgr.notifyId = 0 ∧
      0 < s.controller.globals.held s.waitMgr.notifyId := by
    rw [Globals.unfinished] at hbefore hafter
    rw [Globals.held] at hone
    rw [Globals.held, Globals.held, hqueued]
    omega
  obtain ⟨hzero, hpos⟩ := hheld
  rcases hwhere with ⟨happ, hsem⟩ | hgone
  · have hm := h.mono hst hle
    refine ⟨hm.pipe, hm.held, hm.used, hm.asserts, ?_⟩
    show Phase _ s.app
    rw [happ]
    refine ⟨ha, hne, .inr ⟨?_, hzero, ?_⟩⟩
    · show s.waitingSem + 1 = 1
      rw [hsem]
    · intro hstatus
      exact hdrop (by rw [hzero]; exact hpos) hstatus
  · rw [hgone] at hpos
    cases hpos

theorem disciplined_fnNetif {s s' : System} {now : Timestamp} {uninit : EntityId}
    {frame : RxFrame} (h : Disciplined s) (hs : s.fnNetif now uninit frame = .ok s') :
    Disciplined s' := by
  obtain ⟨c, out, hrx, hs⟩ := fnNetif_cases hs
  have hg := Controller.rxPacketEvent_globals hrx
  have hst := hg.enginesStep h.pipe
  obtain ⟨hle, hfound, -⟩ := hg.held
  split at hs
  · next hc =>
    obtain ⟨ha, hvalid, hid, hafter⟩ := hc
    obtain ⟨hne, -⟩ := h.phase.active ha
    rw [← hid] at hne
    have hbefore := hfound hvalid hne
    rw [hid] at hbefore hne
    subst hs
    apply h.released hst hle (hg.queued hne) ha hbefore hafter
    intro _ hstatus
    exact absurd hstatus (hg.status hvalid)
  · subst hs
    exact h.mono hst hle

theorem disciplined_fnTimer {s s' : System} {now : Timestamp} (h : Disciplined s)
    (hs : s.fnTimer now = .ok s') : Disciplined s' := by
  obtain ⟨c, hc, hs⟩ := fnTimer_cases hs
  have hst := Controller.timeTickEvent_enginesStep h.pipe hc
  have hle : ∀ id, id ≠ null → c.globals.held id ≤ s.controller.globals.held id :=
    fun id => (Controller.timeTickEvent_held hc id).1
  split at hs
  · next hcond =>
    obtain ⟨ha, hbefore, hafter⟩ := hcond
    obtain ⟨hne, -⟩ := h.phase.active ha
    obtain ⟨tx, hglobals, htx⟩ := Controller.timeTickEvent_globals hc
    have hpipe : c.globals.txPipe = s.controller.globals.txPipe ++ tx := by rw [hglobals]
    subst hs
    apply h.released hst hle _ ha hbefore hafter
    · intro hlt _
      exact (Controller.timeTickEvent_held hc s.waitMgr.notifyId).2.1 hlt
    · rw [hpipe]
      exact countP_append_backgroundRead htx hne
  · subst hs
    exact h.mono hst hle

theorem disciplined_writePipe {s : System} {d : TxData} (h : Disciplined s)
    (happ : s.app = .outside) (hd : d.frame.isCommand = true) (hne : d.notificationId ≠ null)
    (hnew : d.notificationId ∉ s.usedIds) :
    Disciplined { s with
      controller := s.controller.systemQueueTx [d]
      app := .written d
      usedIds := s.usedIds ++ [d.notificationId] } := by
  have hheld := s.controller.held_writePipe d
  have hphase := h.phase
  rw [happ] at hphase
  refine ⟨(step_enginesStep h.pipe (.writePipe happ hd)).pipe, ?_, ?_, h.asserts, ?_⟩
  · intro id hid
    rw [hheld]
    by_cases hsame : d.notificationId = id
    · subst hsame
      have hfree : ¬ 0 < s.controller.globals.held d.notificationId :=
        fun hpos => hnew (h.used _ hne hpos)
      rw [same_self]
      omega
    · rw [same_of_ne hsame]
      exact h.held id hid
  · intro id hid hpos
    rw [hheld] at hpos
    by_cases hsame : d.notificationId = id
    · subst hsame
      exact List.mem_append_right _ List.mem_cons_self
    · rw [same_of_ne hsame] at hpos
      exact List.mem_append_left _ (h.used id hid hpos)
  · exact ⟨hphase.1, hphase.2, hne⟩

theorem disciplined_step {s s' : System} {a : Action} (h : Disciplined s) (hf : Fresh s a)
    (hs : Step s a s') : Disciplined s' := by
  have hphase := h.phase
  cases hs with
  | setWaitForNextCmd happ =>
    rename_i id
    rw [happ] at hphase
    obtain ⟨hstate, hsem⟩ := hphase
    refine ⟨h.pipe, h.held, h.used, h.asserts, ?_⟩
    show Phase _ s.app
    rw [happ]
    refine ⟨?_, hsem⟩
    show (s.waitMgr.setPrimedState id).1.state ≠ .waitActive
    unfold CmdWaitMgr.setPrimedState
    split
    · exact hstate
    · exact WaitState.noConfusion
  | writePipe happ hd => exact disciplined_writePipe h happ hd hf.1 hf.2
  | testWait happ =>
    rename_i d
    rw [happ] at hphase
    obtain ⟨hstate, hsem, hne⟩ := hphase
    refine ⟨h.pipe, h.held, h.used, h.asserts, ?_⟩
    cases hw : s.waits d with
    | false => exact ⟨hstate, hsem⟩
    | true =>
      rw [waits, Bool.and_eq_true, Bool.and_eq_true, CmdWaitMgr.primedState,
        CmdWaitMgr.matchId] at hw
      refine ⟨eq_of_beq hw.1.1, hsem, ?_⟩
      show s.waitMgr.notifyId ≠ null
      rw [← eq_of_beq hw.1.2]
      exact hne
  | setActive happ =>
    rw [happ] at hphase
    obtain ⟨hstate, hsem, hne⟩ := hphase
    have hact : s.waitMgr.setActiveState = ({ s.waitMgr with state := .waitActive }, 0) := by
      rw [CmdWaitMgr.setActiveState, hstate]
      rfl
    simp only [asserting, hact]
    refine ⟨h.pipe, h.held, h.used, ?_, rfl, hne, .inl hsem⟩
    show (s.assertFailed || false) = false
    rw [h.asserts]
    rfl
  | semWait happ hpos =>
    rw [happ] at hphase
    obtain ⟨hstate, hne, hsem | ⟨hsem, hr⟩⟩ := hphase
    · rw [hsem] at hpos
      cases hpos
    · refine ⟨h.pipe, h.held, h.used, h.asserts, hstate, hne, ?_, hr.held, hr.dropped⟩
      show s.waitingSem - 1 = 0
      rw [hsem]
  | getStatus happ =>
    rw [happ] at hphase
    obtain ⟨hstate, hne, hsem, hr⟩ := hphase
    exact ⟨h.pipe, h.held, h.used, h.asserts, hstate, hne, hsem, hr.held, hr.dropped⟩
  | setIdle happ =>
    rw [happ] at hphase
    obtain ⟨hstate, hne, hsem, -⟩ := hphase
    have hidle : s.waitMgr.setIdleState = ({ s.waitMgr with state := .waitIdle }, 0) := by
      rw [CmdWaitMgr.setIdleState, hstate]
      rfl
    simp only [asserting, hidle]
    refine ⟨h.pipe, h.held, h.used, ?_, WaitState.noConfusion, hsem⟩
    show (s.assertFailed || false) = false
    rw [h.asserts]
    rfl
  | fnTx hs =>
    obtain ⟨c, hc, hs⟩ := bind_eq_ok.1 hs
    cases hs
    apply h.mono (Controller.txPacket_enginesStep h.pipe hc)
    intro id _
    exact Nat.le_of_eq (Controller.txPacket_held h.pipe hc id).1
  | fnNetif hs => exact disciplined_fnNetif h hs
  | fnTimer hs => exact disciplined_fnTimer h hs

theorem Disciplined.waitSafe {s : System} (h : Disciplined s) : WaitSafe s := by
  have hphase := h.phase
  refine ⟨?_, h.asserts, ?_⟩
  · cases happ : s.app with
    | outside =>
      rw [happ] at hphase
      exact Nat.le_trans (Nat.le_of_eq hphase.2) (Nat.zero_le 1)
    | written d =>
      rw [happ] at hphase
      exact Nat.le_trans (Nat.le_of_eq hphase.2.1) (Nat.zero_le 1)
    | tested =>
      rw [happ] at hphase
      exact Nat.le_trans (Nat.le_of_eq hphase.2.1) (Nat.zero_le 1)
    | waiting =>
      rw [happ] at hphase
      obtain ⟨-, -, hsem | ⟨hsem, -⟩⟩ := hphase
      · exact Nat.le_trans (Nat.le_of_eq hsem) (Nat.zero_le 1)
      · exact Nat.le_of_eq hsem
    | woken =>
      rw [happ] at hphase
      exact Nat.le_trans (Nat.le_of_eq hphase.2.2.1) (Nat.zero_le 1)
    | gotStatus =>
      rw [happ] at hphase
      exact Nat.le_trans (Nat.le_of_eq hphase.2.2.1) (Nat.zero_le 1)
  · intro happ hholds
    have hpos := Globals.holds_iff.1 hholds
    have hzero : s.controller.globals.held s.waitMgr.notifyId = 0 := by
      rcases happ with happ | happ
      · rw [happ] at hphase
        exact hphase.2.2.2.held
      · rw [happ] at hphase
        exact hphase.2.2.2.held
    omega

/-- Within the window what a tick gave up was put on the wire twice. -/
theorem timedOut_of_dropped {g : Globals} {id : Ptr}
    (haecp : Engine.Counted aecpSpec g.aecp.engine)
    (hacmp : Engine.Counted acmpSpec g.acmp) (h : g.Dropped id) : g.TimedOut id := by
  rcases h with ⟨e, he, hid⟩ | ⟨e, he, hid⟩
  · exact .inl ⟨e, he, hid, (haecp.dropped e he).1⟩
  · exact .inr ⟨e, he, hid, (hacmp.dropped e he).1⟩

/-- Waits are safe in every run of an app thread that uses fresh notification ids, and within
the window the status of a timeout is returned only for a command that timed out. -/
theorem wait_safe {mac : Mac} {notifyId : Ptr} {completionStatus respStatusForCmd : Int}
    {tr : List (System × Action)} {s : System}
    (h : Run Step (.new mac notifyId completionStatus respStatusForCmd) tr s)
    (hf : Along Fresh tr) :
    WaitSafe s ∧ (Always Window tr s → s.app = .gotStatus →
      s.respStatusForCmd = avdeccLibStatusTickTimeout →
      s.controller.globals.TimedOut s.waitMgr.notifyId) := by
  have hd : Disciplined s :=
    h.invariant_along hf (disciplined_new _ _ _ _) fun _ _ _ => disciplined_step
  refine ⟨hd.waitSafe, ?_⟩
  intro hw happ hstatus
  have hphase := hd.phase
  rw [happ] at hphase
  obtain ⟨haecp, hacmp⟩ := engines_invariant h (fun p hp => hw.1 p hp)
    (Engine.Counted.new aecpSpec) (Engine.Counted.new acmpSpec)
    (fun _ _ _ hc hw hst => hc.step hw hst) (fun _ _ _ hc hw hst => hc.step hw hst)
  exact timedOut_of_dropped haecp hacmp (hphase.2.2.2.dropped hstatus)

instance (s : System) : Decidable (Window s) :=
  inferInstanceAs (Decidable ((∀ e ∈ s.controller.globals.aecp.engine.inflightCmds,
    s.controller.globals.aecp.engine.issued ≤ e.birth + 65536) ∧
    ∀ e ∈ s.controller.globals.acmp.inflightCmds,
      s.controller.globals.acmp.issued ≤ e.birth + 65536))

instance (s : System) (a : Action) : Decidable (Fresh s a) :=
  match a with
  | .writePipe d => inferInstanceAs (Decidable (d.notificationId ≠ null ∧
      d.notificationId ∉ s.usedIds))
  | .setWaitForNextCmd _ | .testWait | .setActive | .semWait | .getStatus | .setIdle | .fnTx _
  | .fnNetif _ _ _ | .fnTimer _ => inferInstanceAs (Decidable True)

theorem wait_safe_timed_out :
    ∃ tr s, Run Step (.new 1 0 0 0) tr s ∧ s.app = .gotStatus ∧ WaitSafe s ∧
      s.controller.globals.TimedOut s.waitMgr.notifyId := by
  have htrial : trial exec (fun s a => decide (Fresh s a) && decide (Window s))
      (fun s => decide (Window s) && s.app == .gotStatus &&
        s.respStatusForCmd == avdeccLibStatusTickTimeout) (.new 1 0 0 0)
      (queueEntityAvailable ++ [.testWait, .setActive, .fnTx 0, .fnTimer 251, .fnTimer 502,
        .fnTimer 503, .semWait, .getStatus]) = true := by decide
  obtain ⟨tr, s, hrun, hg, hs⟩ :=
    exists_run_of_trial (f := exec) (fun _ _ _ h => exec_step h) htrial
  simp only [Bool.and_eq_true, decide_eq_true_eq, beq_iff_eq] at hs
  have hboth : ∀ p ∈ tr, Fresh p.1 p.2 ∧ Window p.1 := by
    intro p hp
    have := hg p hp
    simpa only [Bool.and_eq_true, decide_eq_true_eq] using this
  have hsafe := wait_safe hrun fun p hp => (hboth p hp).1
  have hw : Always Window tr s := ⟨fun p hp => (hboth p hp).2, hs.1.1⟩
  exact ⟨tr, s, hrun, hs.1.2, hsafe.1, hsafe.2 hw hs.1.2 hs.2⟩

end System
end AvdeccLib
