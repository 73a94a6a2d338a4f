import AvdeccLib.Holders
import AvdeccLib.Correlation

namespace AvdeccLib
set_option autoImplicit true

open Runs Outcome

def Globals.Holds (g : Globals) (id : Ptr) : Prop :=
  (∃ d ∈ g.txPipe, d.notificationId = id) ∨
  (∃ e ∈ g.aecp.engine.inflightCmds, e.cmdNotificationId = id) ∨
  (∃ e ∈ g.acmp.inflightCmds, e.cmdNotificationId = id) ∨
  ∃ o ∈ g.aecp.activeOperations, o.cmdNotificationId = id

theorem Globals.holds_iff {g : Globals} {id : Ptr} : g.Holds id ↔ 0 < g.held id := by
  have hpipe := List.countP_pos_iff (p := fun d : TxData => d.notificationId == id)
    (l := g.txPipe)
  have haecp :=
    List.countP_pos_iff (p := fun e : Inflight AecpFrame => e.cmdNotificationId == id)
    (l := g.aecp.engine.inflightCmds)
  have hacmp :=
    List.countP_pos_iff (p := fun e : Inflight AcmpFrame => e.cmdNotificationId == id)
    (l := g.acmp.inflightCmds)
  have hops := List.countP_pos_iff (p := fun o : Operation => o.cmdNotificationId == id)
    (l := g.aecp.activeOperations)
  simp only [beq_iff_eq] at hpipe haecp hacmp hops
  rw [Holds, ← hpipe, ← haecp, ← hacmp, ← hops, held, AecpControllerStateMachine.held,
    AecpControllerStateMachine.operationsHeld, Engine.held, Engine.held]
  omega

namespace System

/-- While the app thread is blocked, the command that it waits for can still be completed. -/
def NoLostWakeup (s : System) : Prop :=
  s.app = .waiting → s.waitMgr.state = .waitActive → s.waitingSem = 0 →
    s.controller.globals.Holds s.waitMgr.notifyId

/-- The app thread goes to sleep only while its command can still be completed, and no
OPERATION_STATUS response returns the id of another command for the last one with its id. -/
def Undisturbed (s : System) : Action → Prop
  | .setActive => s.waitingSem = 0 → s.controller.globals.Holds s.waitMgr.notifyId
  | .fnNetif _ _ frame => s.app = .waiting → s.waitingSem = 0 →
      ¬ (Controller.StealsWakeup s.controller frame s.waitMgr.notifyId ∧
        s.controller.globals.held s.waitMgr.notifyId = 1)
  | _ => True

/-- What holds in front of `sem_wait`, next to the property itself. -/
structure Awake (s : System) : Prop where
  pipe : ∀ d ∈ s.controller.globals.txPipe, d.frame.isCommand = true
  tested : s.app = .tested → s.waitMgr.state = .waitPrimed
  waiting : s.app = .waiting → s.waitMgr.state = .waitActive
  held : s.app = .waiting → s.waitingSem = 0 →
    0 < s.controller.globals.held s.waitMgr.notifyId

theorem awake_new (mac : Mac) (notifyId : Ptr) (completionStatus respStatusForCmd : Int) :
    Awake (.new mac notifyId completionStatus respStatusForCmd) := by
  refine ⟨?_, ?_, ?_, ?_⟩
  · intro d hd
    cases hd
  · intro h
    cases h
  · intro h
    cases h
  · intro h
    cases h

theorem awake_of_app {s : System}
    (hp : ∀ d ∈ s.controller.globals.txPipe, d.frame.isCommand = true)
    (ht : s.app ≠ .tested) (hw : s.app ≠ .waiting) : Awake s :=
  ⟨hp, fun h => absurd h ht, fun h => absurd h hw, fun h => absurd h hw⟩

theorem Awake.quiet {s : System} {c : Controller} (h : Awake s)
    (hp : ∀ d ∈ c.globals.txPipe, d.frame.isCommand = true)
    (hlost : s.app = .waiting → s.waitingSem = 0 →
      0 < s.controller.globals.held s.waitMgr.notifyId →
      c.globals.held s.waitMgr.notifyId ≠ 0) : Awake { s with controller := c } := by
  refine ⟨hp, h.tested, h.waiting, ?_⟩
  intro hw h0
  exact Nat.pos_of_ne_zero (hlost hw h0 (h.held hw h0))

theorem Awake.released {s : System} {c : Controller} {status : Int} (h : Awake s)
    (hp : ∀ d ∈ c.globals.txPipe, d.frame.isCommand = true) : Awake (s.released c status) :=
  ⟨hp, h.tested, h.waiting, fun _ h0 => absurd h0 (Nat.succ_ne_zero _)⟩

theorem awake_fnNetif {s s' : System} {now : Timestamp} {uninit : EntityId} {frame : RxFrame}
    (h : Awake s) (hg : Undisturbed s (.fnNetif now uninit frame))
    (hp : ∀ d ∈ s'.controller.globals.txPipe, d.frame.isCommand = true)
    (hs : s.fnNetif now uninit frame = .ok s') : Awake s' := by
  obtain ⟨c, out, hrx, hs⟩ := fnNetif_cases hs
  obtain ⟨-, -, hlost⟩ := (Controller.rxPacketEvent_globals hrx).held
  split at hs
  · subst hs
    exact h.released hp
  · next hno =>
    subst hs
    apply h.quiet (c := c) hp
    intro hw h0 hbefore hzero
    obtain ⟨hvalid, hid | ⟨hsteals, hone⟩⟩ := hlost s.waitMgr.notifyId (by omega)
    · apply hno ⟨h.waiting hw, hvalid, hid, ?_⟩
      rw [Globals.held] at hzero
      rw [Globals.unfinished]
      omega
    · exact hg hw h0 ⟨hsteals, by omega⟩

theorem awake_fnTimer {s s' : System} {now : Timestamp} (h : Awake s)
    (hp : ∀ d ∈ s'.controller.globals.txPipe, d.frame.isCommand = true)
    (hs : s.fnTimer now = .ok s') : Awake s' := by
  obtain ⟨c, hc, hs⟩ := fnTimer_cases hs
  split at hs
  · subst hs
    exact h.released hp
  · next hno =>
    subst hs
    apply h.quiet (c := c) hp
    intro hw h0 hbefore hzero
    obtain ⟨tx, hglobals, -⟩ := Controller.timeTickEvent_globals hc
    have hpipe : c.globals.txPipe = s.controller.globals.txPipe ++ tx := by rw [hglobals]
    rw [Globals.held, hpipe, List.countP_append] at hzero
    rw [Globals.held] at hbefore
    apply hno ⟨h.waiting hw, ?_, ?_⟩
    · rw [Globals.unfinished]
      omega
    · rw [Globals.unfinished]
      omega

theorem awake_step {s s' : System} {a : Action} (h : Awake s) (hg : Undisturbed s a)
    (hs : Step s a s') : Awake s' := by
  have hp := (step_enginesStep h.pipe hs).pipe
  cases hs with
  | setWaitForNextCmd ha =>
    apply awake_of_app hp
    · rw [ha]
      exact AppPc.noConfusion
    · rw [ha]
      exact AppPc.noConfusion
  | writePipe ha hd => exact awake_of_app hp AppPc.noConfusion AppPc.noConfusion
  | testWait ha =>
    rename_i d
    refine ⟨hp, ?_, ?_, ?_⟩
    · intro happ
      simp only [ite_eq_left_iff, reduceCtorEq, imp_false, Bool.not_eq_true,
        Bool.not_eq_false] at happ
      rw [waits, Bool.and_eq_true, Bool.and_eq_true, CmdWaitMgr.primedState] at happ
      exact eq_of_beq happ.1.1
    · intro happ
      simp only at happ
      split at happ <;> cases happ
    · intro happ
      simp only at happ
      split at happ <;> cases happ
  | setActive ha =>
    have hprimed := h.tested ha
    have hact : s.waitMgr.setActiveState = ({ s.waitMgr with state := .waitActive }, 0) := by
      rw [CmdWaitMgr.setActiveState, hprimed]
      rfl
    simp only [asserting, hact] at hp ⊢
    refine ⟨hp, AppPc.noConfusion, fun _ => rfl, ?_⟩
    intro _ h0
    exact Globals.holds_iff.1 (hg h0)
  | semWait ha hsem => exact awake_of_app hp AppPc.noConfusion AppPc.noConfusion
  | getStatus ha => exact awake_of_app hp AppPc.noConfusion AppPc.noConfusion
  | setIdle ha => exact awake_of_app hp AppPc.noConfusion AppPc.noConfusion
  | fnTx hs =>
    obtain ⟨c, hc, hs⟩ := bind_eq_ok.1 hs
    cases hs
    refine ⟨hp, h.tested, h.waiting, ?_⟩
    intro hw h0
    rw [(Controller.txPacket_held h.pipe hc s.waitMgr.notifyId).1]
    exact h.held hw h0
  | fnNetif hs => exact awake_fnNetif h hg hp hs
  | fnTimer hs => exact awake_fnTimer h hp hs

/-- No wakeup is lost in a run whose steps are undisturbed. -/
theorem no_lost_wakeup {mac : Mac} {notifyId : Ptr} {completionStatus respStatusForCmd : Int}
    {tr : List (System × Action)} {s : System}
    (h : Run Step (.new mac notifyId completionStatus respStatusForCmd) tr s)
    (hg : Along Undisturbed tr) : NoLostWakeup s := by
  have hawake : Awake s := h.invariant_along hg (awake_new _ _ _ _) fun _ _ _ => awake_step
  intro hw _ h0
  exact Globals.holds_iff.2 (hawake.held hw h0)

def entityAvailableCommand : AecpFrame :=
  { messageType := .aemCommand
    targetEntityId := 3
    controllerEntityId := getControllerEntityId 1
    commandType := .entityAvailable }

/-- The response to it, as the second command that is sent. -/
def entityAvailableResponse : RxFrame :=
  .aecp { entityAvailableCommand with
    destMac := 1, messageType := .aemResponse, sequenceId := 1 }

/-- The application waits for the command behind the ENTITY read of a new station. -/
def queueEntityAvailable : List Action :=
  readEntity ++ [.setWaitForNextCmd 5,
    .writePipe ⟨5, .cmdWithNotification, .aecp entityAvailableCommand⟩]

/-- A run in which nothing is received behind the start of the wait. -/
def quiet (s : System) : Action → Bool
  | .setActive => 0 < s.controller.globals.held s.waitMgr.notifyId
  | .fnNetif _ _ _ => s.app != .waiting
  | _ => true

theorem undisturbed_of_quiet {s : System} {a : Action} (h : quiet s a = true) :
    Undisturbed s a := by
  cases a with
  | setActive => exact fun _ => Globals.holds_iff.2 (of_decide_eq_true h)
  | fnNetif now uninit frame => exact fun hw _ => absurd hw (bne_iff_ne.1 h)
  | _ => trivial

theorem no_lost_wakeup_sent :
    ∃ tr s, Run Step (.new 1 0 0 0) tr s ∧ s.app = .waiting ∧ s.waitingSem = 0 ∧
      NoLostWakeup s := by
  have htrial : trial exec quiet (fun s => s.app == .waiting && s.waitingSem == 0)
    (.new 1 0 0 0)
      (queueEntityAvailable ++ [.testWait, .setActive, .fnTx 0]) = true := by decide
  obtain ⟨tr, s, hrun, hq, hs⟩ :=
    exists_run_of_trial (f := exec) (fun _ _ _ h => exec_step h) htrial
  rw [Bool.and_eq_true] at hs
  have hg : Along Undisturbed tr := fun p hp => undisturbed_of_quiet (hq p hp)
  exact ⟨tr, s, hrun, eq_of_beq hs.1, eq_of_beq hs.2, no_lost_wakeup hrun hg⟩

/-- The response comes in before the wait manager is active: the app thread blocks on a command
that is gone. -/
theorem lost_wakeup :
    ¬ ∀ mac notifyId completionStatus respStatusForCmd tr s,
      Run Step (.new mac notifyId completionStatus respStatusForCmd) tr s → NoLostWakeup s := by
  intro h
  have htrial : trial exec (fun _ _ => true)
      (fun s => s.app == .waiting && s.waitMgr.state == .waitActive && s.waitingSem == 0 &&
        s.controller.globals.held s.waitMgr.notifyId == 0) (.new 1 0 0 0)
      (queueEntityAvailable ++
        [.fnTx 0, .fnNetif 0 0 entityAvailableResponse, .testWait, .setActive]) = true := by
    decide
  obtain ⟨tr, s, hrun, -, hs⟩ :=
    exists_run_of_trial (f := exec) (fun _ _ _ h => exec_step h) htrial
  simp only [Bool.and_eq_true, beq_iff_eq] at hs
  obtain ⟨⟨⟨happ, hstate⟩, hsem⟩, hheld⟩ := hs
  have hpos := Globals.holds_iff.1 (h 1 0 0 0 tr s hrun happ hstate hsem)
  omega

end System
end AvdeccLib
