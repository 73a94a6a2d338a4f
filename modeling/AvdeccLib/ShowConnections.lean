import AvdeccLib.ConnectionReport
import AvdeccLib.AdpTracking
import AvdeccLib.Arming
import AvdeccLib.OperationTable
import AvdeccLib.StoredObjects

namespace AvdeccLib
set_option autoImplicit true

open Runs Outcome
open EndStation (deref)

/-- Where the app thread is in `cmd_show_connections`: at the head of the loop over the end
stations, at that of the loop over the inputs or the outputs of one, behind
`set_wait_for_next_cmd`, or at the report. -/
inductive ShowPc where
  | endStation (i : Nat)
  | instream (i streamInputDescCount j : Nat)
  | outstream (i streamOutputDescCount j : Nat)
  | lastOutstream (i streamOutputDescCount j : Nat)
  | report
  deriving DecidableEq

def ShowPc.isLast : ShowPc → Bool
  | .lastOutstream _ _ _ => true
  | _ => false

namespace CmdLine

/-- `send_get_rx_state_cmd` of a STREAM_INPUT. The frame is that of the two commands that name a
talker as well, with zeros for it. -/
def sendGetRxStateCmd (c : CmdLine) (endStation : EndStation) (instream : AemDesc)
    (notificationId : Ptr) : Except Fault TxData :=
  c.sendRxCmd endStation instream .getRxStateCommand notificationId 0 0 0

/-- `send_get_tx_state_cmd` of a STREAM_OUTPUT. -/
def sendGetTxStateCmd (c : CmdLine) (endStation : EndStation) (outstream : AemDesc)
    (notificationId : Ptr) : Except Fault TxData := do
  let talker ← deref endStation.entityDescVec[0]?
  pure
    { notificationId
      notificationFlag := .cmdWithNotification
      frame := .acmp
        { messageType := .getTxStateCommand
          controllerEntityId := getControllerEntityId c.controller.globals.macAddr
          talkerEntityId := talker.desc.entityId
          talkerUniqueId := outstream.descriptorIndex } }

/-- The end station of the outer loop with its current configuration. -/
def endStationAt (c : CmdLine) (i : Nat) :
    Except Fault (EndStation × ConfigurationDescriptor) := do
  let endStation ← deref c.controller.endStationVec[i]?
  let configuration ← deref (c.getCurrentEntityAndDescriptor i endStation)
  pure (endStation, configuration)

/-- The body of the loop over the inputs. -/
def queryInstream (c : CmdLine) (id : Ptr) (i j : Nat) : Except Fault TxData := do
  let (endStation, configuration) ← c.endStationAt i
  let instream ← deref (configuration.descVec .streamInput)[j]?
  c.sendGetRxStateCmd endStation instream id

/-- The send in the body of the loop over the outputs. -/
def queryOutstream (c : CmdLine) (id : Ptr) (i j : Nat) : Except Fault TxData := do
  let (endStation, configuration) ← c.endStationAt i
  let outstream ← deref (configuration.descVec .streamOutput)[j]?
  c.sendGetTxStateCmd endStation outstream id

/-- The query part of `cmd_show_connections`, one step: the function of the library that is
called, if any, and where the thread is behind it. -/
def showNext (c : CmdLine) (id : Ptr) : ShowPc → Except Fault (Option System.Action × ShowPc)
  | .endStation i =>
    match c.controller.endStationVec[i]? with
    | none => pure (none, .report)
    | some endStation =>
      match c.getCurrentEntityAndDescriptor i endStation with
      | none => pure (none, .endStation (i + 1))
      | some configuration =>
        pure (none, .instream i (configuration.descVec .streamInput).length 0)
  | .instream i n j =>
    if j < n then do
      let tx ← c.queryInstream id i j
      pure (some (.writePipe tx), .instream i n (j + 1))
    else do
      let (_, configuration) ← c.endStationAt i
      pure (none, .outstream i (configuration.descVec .streamOutput).length 0)
  | .outstream i n j =>
    if j < n then
      if i = c.controller.endStationVec.length - 1 ∧ j = n - 1 then
        pure (some (.setWaitForNextCmd id), .lastOutstream i n j)
      else do
        let tx ← c.queryOutstream id i j
        pure (some (.writePipe tx), .outstream i n (j + 1))
    else pure (none, .endStation (i + 1))
  | .lastOutstream i n j => do
    let tx ← c.queryOutstream id i j
    pure (some (.writePipe tx), .outstream i n (j + 1))
  | .report => pure (none, .report)

end CmdLine

/-- The system while the app thread runs `cmd_show_connections`. `waited` is not in the
source: it tells that no command was issued, or that the last one issued is the one that is
waited for. -/
structure ShowConnections where
  system : System
  pc : ShowPc
  waited : Bool

namespace ShowConnections

/-- The call of the command. -/
def start (system : System) : ShowConnections := ⟨system, .endStation 0, true⟩

/-- The selection is made by other commands, and `test_mode` is not looked at. -/
def cmdLine (selection : Nat → Selection) (s : ShowConnections) : CmdLine :=
  ⟨s.system.controller, selection, false⟩

inductive Action where
  | next
  | background (a : System.Action)

/-- `waited` behind a call. -/
def waitedBehind (s : ShowConnections) : System.Action → Bool
  | .setWaitForNextCmd _ => s.waited
  | _ => s.pc.isLast

/-- The command makes its next step when the app thread is not in `queue_tx_frame`. All other
steps of the two threads go on. -/
inductive Step (selection : Nat → Selection) (id : Ptr) (s : ShowConnections) :
    Action → ShowConnections → Prop where
  | next {pc' : ShowPc} (happ : s.system.app = .outside)
      (h : (s.cmdLine selection).showNext id s.pc = .ok (none, pc')) :
      Step selection id s .next { s with pc := pc' }
  | call {a : System.Action} {pc' : ShowPc} {system' : System}
      (h : (s.cmdLine selection).showNext id s.pc = .ok (some a, pc'))
      (hs : s.system.Step a system') :
      Step selection id s .next { system := system', pc := pc', waited := s.waitedBehind a }
  | background {a : System.Action} {system' : System} (ha : a.isCall = false)
      (hs : s.system.Step a system') :
      Step selection id s (.background a) { s with system := system' }

/-- The steps as a function of the action. -/
def exec (selection : Nat → Selection) (id : Ptr) (s : ShowConnections) :
    Action → Except Fault ShowConnections
  | .next =>
    match (s.cmdLine selection).showNext id s.pc with
    | .ok (none, pc) => if s.system.app = .outside then pure { s with pc } else throw .assertion
    | .ok (some a, pc) =>
      (s.system.exec a).map fun system => { system, pc, waited := s.waitedBehind a }
    | .error f => throw f
  | .background a =>
    if a.isCall then throw .assertion else (s.system.exec a).map fun system => { s with system }

end ShowConnections

/-- How many commands with the id are in the transmit queue. -/
def Globals.queued (g : Globals) (id : Ptr) : Nat :=
  g.txPipe.countP fun d => d.notificationId == id

/-- The step of the lib thread wakes the app thread up. -/
def System.releases (s : System) (a : System.Action) : Bool :=
  match s.exec a with
  | .ok s' => s.waitingSem < s'.waitingSem
  | .error _ => false

namespace ShowConnections

/-- The wait manager is idle when the wait is set, the loops end behind the command that is
waited for, no release is left over from before, and the app thread is not released while a
command with the id is in the transmit queue. -/
def good (selection : Nat → Selection) (id : Ptr) (s : ShowConnections) : Action → Bool
  | .next =>
    match (s.cmdLine selection).showNext id s.pc with
    | .ok (some (.setWaitForNextCmd _), _) => s.system.waitMgr.state == .waitIdle
    | .ok (none, .report) => s.waited
    | _ => true
  | .background .setActive => s.system.waitingSem == 0
  | .background a =>
    !s.system.releases a ||
      s.system.controller.globals.queued s.system.waitMgr.notifyId == 0

def Good (selection : Nat → Selection) (id : Ptr) (s : ShowConnections) (a : Action) : Prop :=
  s.good selection id a = true

/-- None of the commands with the id is still in the transmit queue or in the ACMP inflight
table. -/
def Drained (id : Ptr) (s : ShowConnections) : Prop :=
  (∀ d ∈ s.system.controller.globals.txPipe, d.notificationId ≠ id) ∧
    ∀ e ∈ s.system.controller.globals.acmp.inflightCmds, e.cmdNotificationId ≠ id

variable {selection : Nat → Selection} {id : Ptr} {s s' : ShowConnections}

theorem exec_step {a : Action} (h : s.exec selection id a = .ok s') :
    Step selection id s a s' := by
  cases a with
  | next =>
    rw [exec] at h
    split at h
    · next pc hnext =>
      split at h
      · next happ =>
        cases h
        exact .next happ hnext
      · cases h
    · next a pc hnext =>
      cases hs : s.system.exec a with
      | error f =>
        rw [hs] at h
        cases h
      | ok system =>
        rw [hs] at h
        cases h
        exact .call hnext (System.exec_step hs)
    · cases h
  | background a =>
    rw [exec] at h
    split at h
    · cases h
    · next ha =>
      cases hs : s.system.exec a with
      | error f =>
        rw [hs] at h
        cases h
      | ok system =>
        rw [hs] at h
        cases h
        exact .background (Bool.eq_false_iff.2 ha) (System.exec_step hs)

end ShowConnections

namespace CmdLine
variable {c : CmdLine} {id : Ptr} {d : TxData}

theorem sendGetRxStateCmd_eq {es : EndStation} {instream : AemDesc}
    (h : c.sendGetRxStateCmd es instream id = .ok d) :
    d.notificationId = id ∧ d.notificationFlag = .cmdWithNotification := by
  obtain ⟨listener, -, h⟩ := bind_eq_ok.1 h
  cases h
  exact ⟨rfl, rfl⟩

theorem sendGetTxStateCmd_eq {es : EndStation} {outstream : AemDesc}
    (h : c.sendGetTxStateCmd es outstream id = .ok d) :
    d.notificationId = id ∧ d.notificationFlag = .cmdWithNotification := by
  obtain ⟨talker, -, h⟩ := bind_eq_ok.1 h
  cases h
  exact ⟨rfl, rfl⟩

theorem queryInstream_eq {i j : Nat} (h : c.queryInstream id i j = .ok d) :
    d.notificationId = id ∧ d.notificationFlag = .cmdWithNotification := by
  obtain ⟨⟨es, configuration⟩, -, h⟩ := bind_eq_ok.1 h
  obtain ⟨instream, -, h⟩ := bind_eq_ok.1 h
  exact sendGetRxStateCmd_eq h

theorem queryOutstream_eq {i j : Nat} (h : c.queryOutstream id i j = .ok d) :
    d.notificationId = id ∧ d.notificationFlag = .cmdWithNotification := by
  obtain ⟨⟨es, configuration⟩, -, h⟩ := bind_eq_ok.1 h
  obtain ⟨outstream, -, h⟩ := bind_eq_ok.1 h
  exact sendGetTxStateCmd_eq h

/-- What one step of the command does: it moves on, it sets the wait, or it sends a command. -/
inductive ShowStep (id : Ptr) : Option System.Action → ShowPc → Prop where
  | moved {pc' : ShowPc} (hlast : pc'.isLast = false) : ShowStep id none pc'
  | setWait {pc' : ShowPc} (hlast : pc'.isLast = true) :
      ShowStep id (some (.setWaitForNextCmd id)) pc'
  | sent {d : TxData} {pc' : ShowPc} (hid : d.notificationId = id)
      (hflag : d.notificationFlag = .cmdWithNotification) (hlast : pc'.isLast = false)
      (hreport : pc' ≠ .report) : ShowStep id (some (.writePipe d)) pc'

theorem showNext_cases {pc pc' : ShowPc} {a : Option System.Action}
    (h : c.showNext id pc = .ok (a, pc')) : ShowStep id a pc' := by
  cases pc with
  | endStation i =>
    rw [showNext] at h
    split at h
    · cases h
      exact .moved rfl
    · split at h
      · cases h
        exact .moved rfl
      · cases h
        exact .moved rfl
  | instream i n j =>
    rw [showNext] at h
    split at h
    · obtain ⟨tx, htx, h⟩ := bind_eq_ok.1 h
      obtain ⟨hid, hflag⟩ := queryInstream_eq htx
      cases h
      exact .sent hid hflag rfl ShowPc.noConfusion
    · obtain ⟨⟨es, configuration⟩, -, h⟩ := bind_eq_ok.1 h
      cases h
      exact .moved rfl
  | outstream i n j =>
    rw [showNext] at h
    split at h
    · split at h
      · cases h
        exact .setWait rfl
      · obtain ⟨tx, htx, h⟩ := bind_eq_ok.1 h
        obtain ⟨hid, hflag⟩ := queryOutstream_eq htx
        cases h
        exact .sent hid hflag rfl ShowPc.noConfusion
    · cases h
      exact .moved rfl
  | lastOutstream i n j =>
    obtain ⟨tx, htx, h⟩ := bind_eq_ok.1 h
    obtain ⟨hid, hflag⟩ := queryOutstream_eq htx
    cases h
    exact .sent hid hflag rfl ShowPc.noConfusion
  | report =>
    cases h
    exact .moved rfl

end CmdLine

namespace System
variable {id : Ptr} {s s' : System} {a : Action}

/-- A step of the lib thread changes the controller, and of the wait the status and the
semaphore. -/
structure LibFrame (s s' : System) : Prop where
  app : s'.app = s.app
  state : s'.waitMgr.state = s.waitMgr.state
  notifyId : s'.waitMgr.notifyId = s.waitMgr.notifyId
  usedIds : s'.usedIds = s.usedIds
  held : ∀ id, id ≠ null → s'.controller.globals.held id ≤ s.controller.globals.held id

theorem LibStep.frame (h : LibStep s a s') : LibFrame s s' := by
  cases h with
  | quiet hle => exact ⟨rfl, rfl, rfl, rfl, hle⟩
  | release _ hle _ => exact ⟨rfl, rfl, rfl, rfl, hle⟩

theorem held_eq_queued {g g' : Globals}
    (hqueued : (g'.txPipe.countP fun d => d.notificationId == id) =
      g.txPipe.countP fun d => d.notificationId == id)
    (hafter : g'.unfinished id = 0) : g'.held id = g.queued id := by
  rw [Globals.unfinished] at hafter
  rw [Globals.held, Globals.queued, hqueued]
  omega

theorem held_of_fnNetif {now : Timestamp} {uninit : EntityId} {frame : RxFrame}
    (h : s.fnNetif now uninit frame = .ok s') (hsem : s.waitingSem < s'.waitingSem)
    (hne : s.waitMgr.notifyId ≠ null) :
    s'.controller.globals.held s.waitMgr.notifyId =
      s.controller.globals.queued s.waitMgr.notifyId := by
  obtain ⟨c, out, hrx, h⟩ := fnNetif_cases h
  split at h
  · next hc =>
    obtain ⟨-, -, -, hafter⟩ := hc
    subst h
    exact held_eq_queued ((Controller.rxPacketEvent_globals hrx).queued hne) hafter
  · subst h
    exact absurd hsem (Nat.lt_irrefl _)

theorem held_of_fnTimer {now : Timestamp} (h : s.fnTimer now = .ok s')
    (hsem : s.waitingSem < s'.waitingSem) (hne : s.waitMgr.notifyId ≠ null) :
    s'.controller.globals.held s.waitMgr.notifyId =
      s.controller.globals.queued s.waitMgr.notifyId := by
  obtain ⟨c, hc, h⟩ := fnTimer_cases h
  split at h
  · next hcond =>
    obtain ⟨-, -, hafter⟩ := hcond
    obtain ⟨tx, hglobals, htx⟩ := Controller.timeTickEvent_globals hc
    have hpipe : c.globals.txPipe = s.controller.globals.txPipe ++ tx := by rw [hglobals]
    subst h
    apply held_eq_queued _ hafter
    show (c.globals.txPipe.countP _) = _
    rw [hpipe]
    exact countP_append_backgroundRead htx hne
  · subst h
    exact absurd hsem (Nat.lt_irrefl _)

/-- The app thread is released when nothing with the id that it waits for is inflight any
more. -/
theorem held_of_releases (h : Step s a s') (ha : a.isLib = true)
    (hsem : s.waitingSem < s'.waitingSem) (hne : s.waitMgr.notifyId ≠ null) :
    s.releases a = true ∧
      s'.controller.globals.held s.waitMgr.notifyId =
        s.controller.globals.queued s.waitMgr.notifyId := by
  cases h with
  | fnTx h =>
    obtain ⟨c, -, hs⟩ := bind_eq_ok.1 h
    cases hs
    exact absurd hsem (Nat.lt_irrefl _)
  | fnNetif h =>
    refine ⟨?_, held_of_fnNetif h hsem hne⟩
    rw [releases, exec, h]
    exact decide_eq_true hsem
  | fnTimer h =>
    refine ⟨?_, held_of_fnTimer h hsem hne⟩
    rw [releases, exec, h]
    exact decide_eq_true hsem
  | _ => cases ha

/-- The command with the id that is waited for, by where the app thread is: behind the wait
nothing has the id any more. -/
def WaitedFor (id : Ptr) (s : System) : AppPc → Prop
  | .written d => s.waits d = true ∧ s.waitMgr.notifyId = id
  | .tested => s.waitMgr.state = .waitPrimed ∧ s.waitMgr.notifyId = id
  | .waiting => s.waitMgr.notifyId = id ∧
      (s.waitingSem = 0 ∨ s.controller.globals.held id = 0)
  | .outside | .woken | .gotStatus => s.controller.globals.held id = 0

theorem LibFrame.waits (hf : LibFrame s s') (d : TxData) : s'.waits d = s.waits d := by
  rw [System.waits, System.waits, CmdWaitMgr.primedState, CmdWaitMgr.primedState,
    CmdWaitMgr.matchId, CmdWaitMgr.matchId, hf.state, hf.notifyId]

theorem WaitedFor.libStep {pc : AppPc} (h : WaitedFor id s pc) (hne : id ≠ null)
    (hf : LibFrame s s') (hrel : s.waitMgr.notifyId = id → s.waitingSem = 0 →
      s'.waitingSem = 0 ∨ s'.controller.globals.held id = 0) : WaitedFor id s' pc := by
  have hgone : s.controller.globals.held id = 0 → s'.controller.globals.held id = 0 :=
    fun hz => Nat.eq_zero_of_le_zero ((hf.held id hne).trans hz.le)
  cases pc with
  | written d =>
    rw [WaitedFor, hf.waits, hf.notifyId]
    exact h
  | tested =>
    rw [WaitedFor, hf.state, hf.notifyId]
    exact h
  | waiting =>
    obtain ⟨hid, hsem⟩ := h
    refine ⟨hf.notifyId.trans hid, ?_⟩
    rcases hsem with hsem | hz
    · exact hrel hid hsem
    · exact .inr (hgone hz)
  | outside => exact hgone h
  | woken => exact hgone h
  | gotStatus => exact hgone h

theorem app_ne_outside (hs : Step s a s') (hc : a.isCall = false) (hl : a.isLib = false) :
    s.app ≠ .outside := by
  intro hout
  cases hs with
  | testWait happ => cases happ.symm.trans hout
  | setActive happ => cases happ.symm.trans hout
  | semWait happ => cases happ.symm.trans hout
  | getStatus happ => cases happ.symm.trans hout
  | setIdle happ => cases happ.symm.trans hout
  | setWaitForNextCmd => cases hc
  | writePipe => cases hc
  | fnTx => cases hl
  | fnNetif => cases hl
  | fnTimer => cases hl

theorem WaitedFor.appStep (h : WaitedFor id s s.app) (hs : Step s a s') (hc : a.isCall = false)
    (hl : a.isLib = false) (hsem : a = .setActive → s.waitingSem = 0) :
    WaitedFor id s' s'.app := by
  cases hs with
  | testWait happ =>
    rename_i d
    rw [happ] at h
    obtain ⟨hw, hid⟩ := h
    show WaitedFor id _ (if s.waits d then .tested else .outside)
    rw [if_pos hw]
    rw [waits, Bool.and_eq_true, Bool.and_eq_true, CmdWaitMgr.primedState] at hw
    exact ⟨eq_of_beq hw.1.1, hid⟩
  | setActive happ =>
    rw [happ] at h
    obtain ⟨hstate, hid⟩ := h
    have hact : s.waitMgr.setActiveState = ({ s.waitMgr with state := .waitActive }, 0) := by
      rw [CmdWaitMgr.setActiveState, hstate]
      rfl
    rw [hact]
    exact ⟨hid, .inl (hsem rfl)⟩
  | semWait happ hpos =>
    rw [happ] at h
    obtain ⟨-, hz⟩ := h
    exact hz.resolve_left hpos.ne'
  | getStatus happ =>
    rw [happ] at h
    exact h
  | setIdle happ =>
    rw [happ] at h
    exact h
  | setWaitForNextCmd => cases hc
  | writePipe => cases hc
  | fnTx => cases hl
  | fnNetif => cases hl
  | fnTimer => cases hl

end System
namespace ShowConnections
variable {selection : Nat → Selection} {id : Ptr} {s s' : ShowConnections} {a : Action}

/-- What a run whose steps are all good keeps. -/
structure Invariant (id : Ptr) (s : ShowConnections) : Prop where
  pipe : ∀ d ∈ s.system.controller.globals.txPipe, d.frame.isCommand = true
  waited : s.waited = true → s.system.WaitedFor id s.system.app
  last : s.pc.isLast = true → s.system.app = .outside ∧ s.system.waitMgr.state = .waitPrimed ∧
    s.system.waitMgr.notifyId = id
  report : s.pc = .report → s.waited = true ∧ s.system.app = .outside

theorem Invariant.moved {pc' : ShowPc} (h : Invariant id s) (happ : s.system.app = .outside)
    (hlast : pc'.isLast = false) (hreport : pc' = .report → s.waited = true) :
    Invariant id { s with pc := pc' } where
  pipe := h.pipe
  waited := h.waited
  last hl := by
    rw [hlast] at hl
    cases hl
  report hr := ⟨hreport hr, happ⟩

theorem Invariant.setWait {pc' : ShowPc} {system' : System} (h : Invariant id s)
    (hidle : s.system.waitMgr.state = .waitIdle) (hlast : pc'.isLast = true)
    (hs : s.system.Step (.setWaitForNextCmd id) system') :
    Invariant id { s with system := system', pc := pc' } := by
  cases hs with
  | setWaitForNextCmd happ =>
    have hprimed : (s.system.waitMgr.setPrimedState id).1 =
        { s.system.waitMgr with notifyId := id, state := .waitPrimed } := by
      rw [CmdWaitMgr.setPrimedState, hidle]
      rfl
    refine ⟨h.pipe, ?_, ?_, ?_⟩
    · intro hw
      have hheld := h.waited hw
      rw [happ] at hheld
      show System.WaitedFor id _ s.system.app
      rw [happ]
      exact hheld
    · intro _
      rw [hprimed]
      exact ⟨happ, rfl, rfl⟩
    · intro hr
      change pc' = .report at hr
      rw [hr] at hlast
      cases hlast

theorem Invariant.sent {pc' : ShowPc} {d : TxData} {system' : System} (h : Invariant id s)
    (hid : d.notificationId = id) (hflag : d.notificationFlag = .cmdWithNotification)
    (hlast : pc'.isLast = false) (hreport : pc' ≠ .report)
    (hs : s.system.Step (.writePipe d) system') :
    Invariant id { system := system', pc := pc', waited := s.pc.isLast } := by
  refine ⟨(System.step_enginesStep h.pipe hs).pipe, ?_, ?_, fun hr => absurd hr hreport⟩
  · intro hl
    obtain ⟨-, hstate, hnid⟩ := h.last hl
    cases hs with
    | writePipe =>
      refine ⟨?_, hnid⟩
      show (s.system.waitMgr.primedState && s.system.waitMgr.matchId d.notificationId &&
        d.notificationFlag == .cmdWithNotification) = true
      rw [CmdWaitMgr.primedState, CmdWaitMgr.matchId, hstate, hnid, hid, hflag]
      simp only [beq_self_eq_true, Bool.and_self]
  · intro hl
    change pc'.isLast = true at hl
    rw [hlast] at hl
    cases hl

theorem Invariant.lib {b : System.Action} {system' : System} (h : Invariant id s)
    (hne : id ≠ null)
    (hl : b.isLib = true) (hs : s.system.Step b system')
    (hg : s.system.releases b = true →
      s.system.controller.globals.queued s.system.waitMgr.notifyId = 0) :
    Invariant id { s with system := system' } := by
  have hf := (System.step_libStep h.pipe hs hl).frame
  refine ⟨(System.step_enginesStep h.pipe hs).pipe, ?_, ?_, ?_⟩
  · intro hw
    show system'.WaitedFor id system'.app
    rw [hf.app]
    apply (h.waited hw).libStep hne hf
    intro hid hsem
    rcases Nat.eq_zero_or_pos system'.waitingSem with hz | hpos
    · exact .inl hz
    · rw [← hid] at hne
      obtain ⟨hrel, hheld⟩ := System.held_of_releases hs hl (by omega) hne
      rw [hg hrel, hid] at hheld
      exact .inr hheld
  · intro hlast
    rw [hf.app, hf.state, hf.notifyId]
    exact h.last hlast
  · intro hr
    rw [hf.app]
    exact h.report hr

theorem Invariant.app {b : System.Action} {system' : System} (h : Invariant id s)
    (hc : b.isCall = false) (hl : b.isLib = false) (hs : s.system.Step b system')
    (hg : b = .setActive → s.system.waitingSem = 0) :
    Invariant id { s with system := system' } := by
  have hin := System.app_ne_outside hs hc hl
  refine ⟨(System.step_enginesStep h.pipe hs).pipe, ?_, ?_, ?_⟩
  · intro hw
    exact (h.waited hw).appStep hs hc hl hg
  · intro hlast
    exact absurd (h.last hlast).1 hin
  · intro hr
    exact absurd (h.report hr).2 hin

theorem Invariant.step (h : Invariant id s) (hne : id ≠ null) (hg : Good selection id s a)
    (hs : Step selection id s a s') : Invariant id s' := by
  cases hs with
  | @next pc' happ hnext =>
    rw [Good, good, hnext] at hg
    cases CmdLine.showNext_cases hnext with
    | moved hlast =>
      apply h.moved happ hlast
      rintro rfl
      exact hg
  | @call b pc' system' hnext hs =>
    rw [Good, good, hnext] at hg
    cases CmdLine.showNext_cases hnext with
    | setWait hlast => exact h.setWait (eq_of_beq hg) hlast hs
    | sent hid hflag hlast hreport => exact h.sent hid hflag hlast hreport hs
  | @background b system' hc hs =>
    cases hl : b.isLib with
    | true =>
      apply h.lib hne hl hs
      intro hrel
      have hg : (!s.system.releases b ||
          s.system.controller.globals.queued s.system.waitMgr.notifyId == 0) = true := by
        cases b with
        | setActive => cases hl
        | _ => exact hg
      rw [hrel] at hg
      exact eq_of_beq hg
    | false =>
      apply h.app hc hl hs
      rintro rfl
      exact eq_of_beq hg

theorem Invariant.drained (h : Invariant id s) (hr : s.pc = .report) : Drained id s := by
  obtain ⟨hw, happ⟩ := h.report hr
  have hheld := h.waited hw
  rw [happ] at hheld
  have hnot : ¬ s.system.controller.globals.Holds id := by
    rw [Globals.holds_iff]
    exact fun hpos => hpos.ne' hheld
  constructor
  · intro d hd hid
    exact hnot (.inl ⟨d, hd, hid⟩)
  · intro e he hid
    exact hnot (.inr (.inr (.inl ⟨e, he, hid⟩)))

end ShowConnections

/-- The numbers of inputs and outputs of the end stations. One without a current configuration
is passed over, as one with no streams. -/
def CmdLine.streamCounts (c : CmdLine) : List (Nat × Nat) :=
  c.controller.endStationVec.mapIdx fun i endStation =>
    ((c.endStationStreams .streamInput endStation i).length,
      (c.endStationStreams .streamOutput endStation i).length)

/-- The first end stations have no streams. -/
def NoStreams (counts : List (Nat × Nat)) (i : Nat) : Prop := ∀ x ∈ counts.take i, x = (0, 0)

/-- The last end station has an output. -/
def LastOutput (counts : List (Nat × Nat)) : Prop := ∃ x, counts.getLast? = some x ∧ 0 < x.2

section
variable {counts : List (Nat × Nat)} {i : Nat} {x : Nat × Nat}

theorem noStreams_succ (h : counts[i]? = some x) :
    NoStreams counts (i + 1) ↔ NoStreams counts i ∧ x = (0, 0) := by
  rw [NoStreams, List.take_add_one, h]
  show (∀ y ∈ counts.take i ++ [x], y = (0, 0)) ↔ _
  rw [List.forall_mem_append, List.forall_mem_singleton]
  rfl

theorem lastOutput_iff (h : counts[i]? = some x) (hi : i + 1 = counts.length) :
    LastOutput counts ↔ 0 < x.2 := by
  have hlast : counts.getLast? = some x := by
    rw [List.getLast?_eq_getElem?, ← hi]
    exact h
  rw [LastOutput, hlast]
  constructor
  · rintro ⟨y, hy, hpos⟩
    cases hy
    exact hpos
  · intro hpos
    exact ⟨x, rfl, hpos⟩

end

namespace CmdLine
variable {c : CmdLine} {i : Nat} {es : EndStation}

@[simp] theorem length_streamCounts :
    c.streamCounts.length = c.controller.endStationVec.length :=
  List.length_mapIdx

theorem length_endStationStreams {t : DescType} {descriptor : ConfigurationDescriptor}
    (h : c.getCurrentEntityAndDescriptor i es = some descriptor) :
    (c.endStationStreams t es i).length = (descriptor.descVec t).length := by
  rw [endStationStreams, h]
  show (List.map _ _).length = _
  rw [List.length_map, List.length_range]

theorem streamCounts_some {descriptor : ConfigurationDescriptor}
    (hes : c.controller.endStationVec[i]? = some es)
    (h : c.getCurrentEntityAndDescriptor i es = some descriptor) :
    c.streamCounts[i]? = some
      ((descriptor.descVec .streamInput).length,
        (descriptor.descVec .streamOutput).length) := by
  rw [streamCounts, List.getElem?_mapIdx, hes, Option.map_some, length_endStationStreams h,
    length_endStationStreams h]

theorem streamCounts_none (hes : c.controller.endStationVec[i]? = some es)
    (h : c.getCurrentEntityAndDescriptor i es = none) : c.streamCounts[i]? = some (0, 0) := by
  rw [streamCounts, List.getElem?_mapIdx, hes, Option.map_some, endStationStreams,
    endStationStreams, h]
  rfl

theorem endStationAt_streamCounts {descriptor : ConfigurationDescriptor}
    (h : c.endStationAt i = .ok (es, descriptor)) :
    c.streamCounts[i]? = some
      ((descriptor.descVec .streamInput).length,
        (descriptor.descVec .streamOutput).length) := by
  obtain ⟨es', hes, h⟩ := bind_eq_ok.1 h
  obtain ⟨descriptor', hd, h⟩ := bind_eq_ok.1 h
  cases h
  exact streamCounts_some (EndStation.deref_ok hes) (EndStation.deref_ok hd)

end CmdLine

/-- What `waited` is at each place of the command, by the numbers of streams. -/
def ShowPc.Waited (counts : List (Nat × Nat)) (waited : Prop) : ShowPc → Prop
  | .endStation i =>
    i ≤ counts.length ∧ (waited ↔ NoStreams counts i ∨ i = counts.length ∧ LastOutput counts)
  | .instream i n j =>
    ∃ m, counts[i]? = some (n, m) ∧ j ≤ n ∧ (waited ↔ NoStreams counts i ∧ j = 0)
  | .outstream i m j =>
    ∃ n, counts[i]? = some (n, m) ∧ j ≤ m ∧
      (waited ↔ NoStreams counts i ∧ n = 0 ∧ j = 0 ∨ i + 1 = counts.length ∧ j = m ∧ 0 < m)
  | .lastOutstream i m j =>
    ∃ n, counts[i]? = some (n, m) ∧ i + 1 = counts.length ∧ j + 1 = m
  | .report => waited ↔ NoStreams counts counts.length ∨ LastOutput counts

namespace ShowPc
variable {c : CmdLine} {id : Ptr} {waited : Prop} {pc' : ShowPc} {a : Option System.Action}
  {i n j : Nat}

theorem Waited.endStation (h : (endStation i).Waited c.streamCounts waited)
    (hn : c.showNext id (endStation i) = .ok (a, pc')) :
    a = none ∧ pc'.Waited c.streamCounts waited := by
  obtain ⟨hi, hw⟩ := h
  rw [CmdLine.showNext] at hn
  split at hn
  · next hes =>
    cases hn
    have hlen : i = c.streamCounts.length := by
      rw [CmdLine.length_streamCounts] at hi ⊢
      exact Nat.le_antisymm hi (List.getElem?_eq_none_iff.1 hes)
    subst hlen
    refine ⟨rfl, hw.trans ?_⟩
    rw [eq_self, true_and]
  · next es hes =>
    split at hn
    · next hd =>
      cases hn
      have hcounts := CmdLine.streamCounts_none hes hd
      have hlt := (List.getElem?_eq_some_iff.1 hcounts).1
      refine ⟨rfl, hlt, hw.trans ?_⟩
      rw [noStreams_succ hcounts, eq_self, and_true]
      apply or_congr_right
      constructor
      · rintro ⟨rfl, -⟩
        exact absurd hlt (Nat.lt_irrefl _)
      · rintro ⟨hlast, hout⟩
        exact absurd ((lastOutput_iff hcounts hlast).1 hout) (Nat.lt_irrefl 0)
    · next descriptor hd =>
      cases hn
      have hcounts := CmdLine.streamCounts_some hes hd
      have hlt := (List.getElem?_eq_some_iff.1 hcounts).1
      refine ⟨rfl, _, hcounts, Nat.zero_le _, hw.trans ?_⟩
      rw [eq_self, and_true, or_iff_left_iff_imp]
      rintro ⟨rfl, -⟩
      exact absurd hlt (Nat.lt_irrefl _)

theorem Waited.instream (h : (instream i n j).Waited c.streamCounts waited)
    (hn : c.showNext id (instream i n j) = .ok (a, pc')) :
    a = none ∧ pc'.Waited c.streamCounts waited ∨
      ∃ d, a = some (.writePipe d) ∧ pc'.Waited c.streamCounts False := by
  obtain ⟨m, hcounts, hj, hw⟩ := h
  rw [CmdLine.showNext] at hn
  split at hn
  · next hlt =>
    obtain ⟨tx, -, hn⟩ := bind_eq_ok.1 hn
    cases hn
    refine .inr ⟨tx, rfl, m, hcounts, hlt, ?_⟩
    rw [false_iff]
    rintro ⟨-, hzero⟩
    exact absurd hzero (Nat.succ_ne_zero j)
  · next hge =>
    obtain ⟨⟨es, descriptor⟩, hes, hn⟩ := bind_eq_ok.1 hn
    cases hn
    have hcounts' := CmdLine.endStationAt_streamCounts hes
    rw [hcounts] at hcounts'
    cases hcounts'
    have hend : j = (descriptor.descVec .streamInput).length :=
      Nat.le_antisymm hj (Nat.not_lt.1 hge)
    subst hend
    refine .inl ⟨rfl, _, hcounts, Nat.zero_le _, hw.trans ?_⟩
    rw [eq_self, and_true, iff_self_or]
    rintro ⟨-, hzero, hpos⟩
    exact absurd hzero hpos.ne

theorem Waited.outstream (h : (outstream i n j).Waited c.streamCounts waited)
    (hn : c.showNext id (outstream i n j) = .ok (a, pc')) :
    a = none ∧ pc'.Waited c.streamCounts waited ∨
      (∃ d, a = some (.writePipe d) ∧ pc'.Waited c.streamCounts False) ∨
      a = some (.setWaitForNextCmd id) ∧ pc'.Waited c.streamCounts waited := by
  obtain ⟨k, hcounts, hj, hw⟩ := h
  have hlt := (List.getElem?_eq_some_iff.1 hcounts).1
  rw [CmdLine.showNext, ← CmdLine.length_streamCounts] at hn
  split at hn
  · next hjn =>
    split at hn
    · next hlast =>
      cases hn
      exact .inr (.inr ⟨rfl, k, hcounts, by omega, by omega⟩)
    · next hlast =>
      obtain ⟨tx, -, hn⟩ := bind_eq_ok.1 hn
      cases hn
      refine .inr (.inl ⟨tx, rfl, k, hcounts, hjn, ?_⟩)
      rw [false_iff]
      rintro (⟨-, -, hzero⟩ | ⟨hi, hjn, -⟩)
      · exact absurd hzero (Nat.succ_ne_zero j)
      · exact hlast ⟨by omega, by omega⟩
  · next hge =>
    cases hn
    have hend : j = n := Nat.le_antisymm hj (Nat.not_lt.1 hge)
    subst hend
    refine .inl ⟨rfl, hlt, hw.trans ?_⟩
    rw [noStreams_succ hcounts, Prod.mk.injEq]
    apply or_congr_right
    rw [eq_self, true_and]
    apply and_congr_right
    intro hi
    exact (lastOutput_iff hcounts hi).symm

theorem Waited.lastOutstream (h : (lastOutstream i n j).Waited c.streamCounts waited)
    (hn : c.showNext id (lastOutstream i n j) = .ok (a, pc')) :
    ∃ d, a = some (.writePipe d) ∧ pc'.Waited c.streamCounts True := by
  obtain ⟨k, hcounts, hi, hj⟩ := h
  obtain ⟨tx, -, hn⟩ := bind_eq_ok.1 hn
  cases hn
  refine ⟨tx, rfl, k, hcounts, hj.le, ?_⟩
  rw [true_iff]
  exact .inr ⟨hi, hj, hj ▸ Nat.succ_pos j⟩

theorem Waited.showNext {pc : ShowPc} (h : pc.Waited c.streamCounts waited)
    (hn : c.showNext id pc = .ok (a, pc')) :
    a = none ∧ pc'.Waited c.streamCounts waited ∨
      (∃ d, a = some (.writePipe d) ∧ pc'.Waited c.streamCounts (pc.isLast = true)) ∨
      a = some (.setWaitForNextCmd id) ∧ pc'.Waited c.streamCounts waited := by
  cases pc with
  | endStation i => exact .inl (h.endStation hn)
  | instream i n j =>
    rcases h.instream hn with hmoved | ⟨d, ha, hw⟩
    · exact .inl hmoved
    · refine .inr (.inl ⟨d, ha, ?_⟩)
      simpa only [isLast, Bool.false_eq_true] using hw
  | outstream i n j =>
    rcases h.outstream hn with hmoved | ⟨d, ha, hw⟩ | hset
    · exact .inl hmoved
    · refine .inr (.inl ⟨d, ha, ?_⟩)
      simpa only [isLast, Bool.false_eq_true] using hw
    · exact .inr (.inr hset)
  | lastOutstream i n j =>
    obtain ⟨d, ha, hw⟩ := h.lastOutstream hn
    refine .inr (.inl ⟨d, ha, ?_⟩)
    simpa only [isLast] using hw
  | report =>
    cases hn
    exact .inl ⟨rfl, h⟩

end ShowPc

namespace ShowConnections
variable {selection : Nat → Selection} {id : Ptr} {s s' : ShowConnections} {a : Action}

theorem Step.waited (h : Step selection id s a s')
    (hw : s.pc.Waited (s.cmdLine selection).streamCounts (s.waited = true)) :
    s'.pc.Waited (s.cmdLine selection).streamCounts (s'.waited = true) := by
  cases h with
  | next happ hn =>
    rcases hw.showNext hn with ⟨-, hw⟩ | ⟨d, ha, -⟩ | ⟨ha, -⟩
    · exact hw
    · cases ha
    · cases ha
  | call hn hs =>
    rcases hw.showNext hn with ⟨ha, -⟩ | ⟨d, ha, hw⟩ | ⟨ha, hw⟩
    · cases ha
    · cases ha
      exact hw
    · cases ha
      exact hw
  | background ha hs => exact hw

/-- With the same streams throughout, the command has waited for the last command it issued, or
issued none, exactly if the last end station has an output or no end station has streams. -/
theorem waited_iff {s₀ : System} {tr : List (ShowConnections × Action)}
    {counts : List (Nat × Nat)} (h : Run (Step selection id) (start s₀) tr s)
    (hcounts : Along (fun s _ => (s.cmdLine selection).streamCounts = counts) tr)
    (hreport : s.pc = .report) :
    s.waited = true ↔ (∀ x ∈ counts, x = (0, 0)) ∨ LastOutput counts := by
  have hw : s.pc.Waited counts (s.waited = true) := by
    apply h.invariant_along (I := fun s => s.pc.Waited counts (s.waited = true)) hcounts
    · refine ⟨Nat.zero_le _, iff_of_true rfl (.inl ?_)⟩
      intro x hx
      cases hx
    · rintro s a s' hw rfl hst
      exact hst.waited hw
  rw [hreport] at hw
  have hlen : NoStreams counts counts.length ↔ ∀ x ∈ counts, x = (0, 0) := by
    rw [NoStreams, List.take_length]
  exact hw.trans (or_congr_left hlen)

end ShowConnections

namespace System
variable {mac : Mac} {notifyId : Ptr} {completionStatus respStatusForCmd : Int} {id : Ptr}
  {tr : List (System × Action)} {s : System}

/-- Only the app thread brings in ids that are not NULL. -/
structure Accounted (s : System) : Prop where
  pipe : ∀ d ∈ s.controller.globals.txPipe, d.frame.isCommand = true
  used : ∀ id, id ≠ null → 0 < s.controller.globals.held id → id ∈ s.usedIds
  coupled : ∃ p, Controller.Coupled s.controller p

theorem Accounted.step {s' : System} {a : Action} (h : Accounted s) (hs : Step s a s') :
    Accounted s' := by
  refine ⟨(step_enginesStep h.pipe hs).pipe, ?_, ?_⟩
  · intro id hne hpos
    cases hl : a.isLib with
    | true =>
      have hf := (step_libStep h.pipe hs hl).frame
      rw [hf.usedIds]
      exact h.used id hne (hpos.trans_le (hf.held id hne))
    | false =>
      cases hs with
      | @writePipe d happ hd =>
        have hpos : 0 < (s.controller.systemQueueTx [d]).globals.held id := hpos
        rw [Controller.held_writePipe] at hpos
        show id ∈ s.usedIds ++ [d.notificationId]
        by_cases hid : d.notificationId = id
        · rw [hid]
          exact List.mem_append_right _ List.mem_cons_self
        · rw [same_of_ne hid] at hpos
          exact List.mem_append_left _ (h.used id hne hpos)
      | fnTx => cases hl
      | fnNetif => cases hl
      | fnTimer => cases hl
      | _ => exact h.used id hne hpos
  · obtain ⟨p, hp⟩ := h.coupled
    rcases step_controller hs with ⟨txPipe, hc⟩ | ⟨e, he⟩
    · rw [hc]
      exact ⟨p, hp.nodup, hp.stations, hp.tracked_nodup, hp.tracked_known, hp.present, hp.posts,
        hp.recorded⟩
    · obtain ⟨ch, t, -, ht⟩ := Controller.handle_coupled hp he
      exact ⟨t, ht⟩

theorem accounted (h : Run Step (.new mac notifyId completionStatus respStatusForCmd) tr s) :
    Accounted s := by
  apply h.invariant
  · refine ⟨?_, ?_, _, Controller.coupled_new mac⟩
    · intro d hd
      cases hd
    · intro id _ hpos
      exact absurd hpos (Nat.lt_irrefl 0)
  · intro s a s' hs hst
    exact hs.step hst

end System
namespace ShowConnections
variable {selection : Nat → Selection} {id : Ptr} {s : ShowConnections} {s₀ : System}
  {tr : List (ShowConnections × Action)}

theorem system_accounted (h : Run (Step selection id) (start s₀) tr s) (h₀ : s₀.Accounted) :
    s.system.Accounted := by
  apply h.invariant (I := fun s => s.system.Accounted) h₀
  intro s a s' hs hst
  cases hst with
  | next => exact hs
  | call _ hst => exact hs.step hst
  | background _ hst => exact hs.step hst

theorem invariant_start (h₀ : s₀.Accounted) (happ : s₀.app = .outside) (hne : id ≠ null)
    (hnew : id ∉ s₀.usedIds) : Invariant id (start s₀) := by
  have hheld : s₀.controller.globals.held id = 0 :=
    Nat.eq_zero_of_not_pos fun hpos => hnew (h₀.used id hne hpos)
  refine ⟨h₀.pipe, ?_, Bool.noConfusion, ShowPc.noConfusion⟩
  intro _
  show s₀.WaitedFor id s₀.app
  rw [happ]
  exact hheld

/-- In a run whose steps are all good none of the commands is left when the report begins, and
the report is right exactly if exchanging the two stream indexes of a connection gives a
connection. -/
theorem show_connections {mac : Mac} {notifyId : Ptr} {completionStatus respStatusForCmd : Int}
    {tr₀ : List (System × System.Action)}
    (h₀ : Run System.Step (.new mac notifyId completionStatus respStatusForCmd) tr₀ s₀)
    (happ : s₀.app = .outside) (hne : id ≠ null) (hnew : id ∉ s₀.usedIds)
    (h : Run (Step selection id) (start s₀) tr s) (hreport : s.pc = .report) :
    (Along (Good selection id) tr → Drained id s) ∧
      ∀ states, (s.cmdLine selection).ReportsConnections states ↔
        ∀ x, (s.cmdLine selection).IsConnection states x →
          (s.cmdLine selection).IsConnection states x.swapIndexes := by
  have hacc := System.accounted h₀
  constructor
  · intro hgood
    have hinv : Invariant id s := by
      apply h.invariant_along hgood (invariant_start hacc happ hne hnew)
      intro s a s' hs hg hst
      exact hs.step hne hg hst
    exact hinv.drained hreport
  · intro states
    obtain ⟨p, hp⟩ := (system_accounted h hacc).coupled
    have hids : ((s.cmdLine selection).controller.endStationVec.map
      EndStation.entityId).Nodup :=
      hp.nodup
    exact CmdLine.reportsConnections_iff hids states

/-- End station 3 is read: it has one input and two outputs. -/
def readStreams : List System.Action :=
  System.readEntity ++ [
    System.readResponse 0 { descriptorType := .entity, descriptorIndex := 0, entityId := 3 },
    .fnTx 0,
    System.readResponse 1
      { descriptorType := .configuration
        descriptorIndex := 0
        descriptorCounts := [(.streamInput, 1), (.streamOutput, 2)] },
    .fnTx 0, .fnTx 0, .fnTx 0,
    System.readResponse 2 { descriptorType := .streamInput, descriptorIndex := 0 },
    System.readResponse 3 { descriptorType := .streamOutput, descriptorIndex := 0 },
    System.readResponse 4 { descriptorType := .streamOutput, descriptorIndex := 1 },
    .fnTx 0, .fnTx 0]

/-- The response to a command about the stream with the index. -/
def stateResponse (messageType : AcmpMessageType) (uniqueId sequenceId : BitVec 16) : Action :=
  .background (.fnNetif 0 0 (.acmp
    { destMac := 1
      messageType
      controllerEntityId := getControllerEntityId 1
      talkerEntityId := 3
      listenerEntityId := 3
      talkerUniqueId := uniqueId
      listenerUniqueId := uniqueId
      sequenceId }))

/-- The three commands are issued, and the lib thread does this until the app thread wakes
up. -/
def showStreams (lib : List Action) : List Action :=
  [.next, .next, .background .testWait, .next, .next, .background .testWait, .next, .next,
    .background .testWait, .background .setActive] ++ lib ++
    [.background .semWait, .background .getStatus, .background .setIdle, .next, .next]

/-- The input and the second output have a connection with each other. -/
def crossConnection : StreamStates := ⟨fun _ _ => ⟨1, 9⟩, fun _ j => ⟨BitVec.ofNat 16 j, 9⟩⟩

/-- The command is run in the state with the id 9, which is not in use. -/
def showTrial (guard : ShowConnections → Action → Bool) (P : ShowConnections → Bool)
    (lib : List Action) (s₀ : System) : Bool :=
  s₀.app == .outside && !s₀.usedIds.contains 9 &&
    trial (exec (fun _ => {}) 9) guard (fun s => s.pc == .report && P s) (start s₀)
      (showStreams lib)

theorem exists_show {guard : ShowConnections → Action → Bool} {P : ShowConnections → Bool}
    {lib : List Action}
    (h : trial System.exec (fun _ _ => true) (showTrial guard P lib)
      (.new 1 0 0 0) readStreams =
      true) :
    ∃ tr₀ s₀ tr s, Run System.Step (.new 1 0 0 0) tr₀ s₀ ∧ s₀.app = .outside ∧ 9 ∉ s₀.usedIds ∧
      Run (Step (fun _ => {}) 9) (start s₀) tr s ∧ s.pc = .report ∧
      Along (fun s a => guard s a = true) tr ∧ P s = true := by
  obtain ⟨tr₀, s₀, hrun₀, -, h⟩ := exists_run_of_trial (f := System.exec)
    (fun _ _ _ h => System.exec_step h) h
  rw [showTrial, Bool.and_eq_true, Bool.and_eq_true] at h
  obtain ⟨⟨happ, hnew⟩, h⟩ := h
  obtain ⟨tr, s, hrun, hg, hs⟩ := exists_run_of_trial (f := exec (fun _ => {}) 9)
    (fun _ _ _ h => exec_step h) h
  rw [Bool.and_eq_true] at hs
  refine ⟨tr₀, s₀, tr, s, hrun₀, eq_of_beq happ, ?_, hrun, eq_of_beq hs.1, hg, hs.2⟩
  intro hmem
  rw [List.contains_iff_mem.2 hmem] at hnew
  cases hnew

/-- All three commands are sent and answered. -/
theorem show_connections_drained :
    ∃ tr s, Along (Good (fun _ => {}) 9) tr ∧ s.pc = .report ∧ Drained 9 s := by
  have htrial : trial System.exec (fun _ _ => true)
      (showTrial (good (fun _ => {}) 9) (fun _ => true)
        (List.replicate 3 (.background (.fnTx 0)) ++
          [stateResponse .getRxStateResponse 0 0, stateResponse .getTxStateResponse 0 1,
            stateResponse .getTxStateResponse 1 2])) (.new 1 0 0 0) readStreams = true := by
    decide
  obtain ⟨tr₀, s₀, tr, s, hrun₀, happ, hnew, hrun, hreport, hg, -⟩ := exists_show htrial
  exact ⟨tr, s, hg, hreport, (show_connections hrun₀ happ (by decide) hnew hrun hreport).1 hg⟩

/-- Whatever happens before the command and while it runs, this holds when the report begins. -/
def AtReport (P : (Nat → Selection) → Ptr → ShowConnections → Prop) : Prop :=
  ∀ mac notifyId completionStatus respStatusForCmd tr₀ s₀ selection id tr s,
    Run System.Step (.new mac notifyId completionStatus respStatusForCmd) tr₀ s₀ →
      s₀.app = .outside → id ≠ null → id ∉ s₀.usedIds →
        Run (Step selection id) (start s₀) tr s → s.pc = .report → P selection id s

/-- The first command is answered while the others are in the transmit queue, and the app thread
takes it for the last one. The connection is printed as one of output 0 with input 1. -/
theorem show_connections_early :
    ¬ AtReport (fun _ id s => Drained id s) ∧
      ¬ AtReport fun selection _ s =>
        ∀ states, (s.cmdLine selection).ReportsConnections states := by
  have htrial : trial System.exec (fun _ _ => true)
      (showTrial (fun _ _ => true)
        (fun s => s.system.controller.globals.txPipe.any (fun d => d.notificationId == 9) &&
          (s.cmdLine fun _ => {}).reportConnections crossConnection == [⟨3, 0, 3, 1⟩])
        [.background (.fnTx 0), stateResponse .getRxStateResponse 0 0])
      (.new 1 0 0 0) readStreams = true := by
    decide
  obtain ⟨tr₀, s₀, tr, s, hrun₀, happ, hnew, hrun, hreport, -, hs⟩ := exists_show htrial
  rw [Bool.and_eq_true, List.any_eq_true] at hs
  obtain ⟨⟨d, hd, hid⟩, hlines⟩ := hs
  constructor
  · intro h
    obtain ⟨hpipe, -⟩ := h 1 0 0 0 tr₀ s₀ _ 9 tr s hrun₀ happ (by decide) hnew hrun hreport
    exact hpipe d hd (eq_of_beq hid)
  · intro h
    obtain ⟨hlines', -⟩ := h 1 0 0 0 tr₀ s₀ _ 9 tr s hrun₀ happ (by decide) hnew hrun hreport
      crossConnection
    have hconn := (hlines' ⟨3, 0, 3, 1⟩).1 (by rw [eq_of_beq hlines]; exact List.mem_cons_self)
    have hmem : ⟨3, 1, 3, 0⟩ ∈ (s.cmdLine fun _ => {}).reportConnections crossConnection :=
      CmdLine.mem_reportConnections.2 hconn
    rw [eq_of_beq hlines] at hmem
    exact absurd hmem (by decide)

end ShowConnections
end AvdeccLib
