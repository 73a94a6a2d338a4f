import AvdeccLib.Controller

namespace AvdeccLib
set_option autoImplicit true

inductive WaitState where
  | waitIdle
  | waitPrimed
  | waitActive
  deriving DecidableEq

structure CmdWaitMgr where
  notifyId : Ptr
  completionStatus : Int
  state : WaitState
  deriving DecidableEq

namespace CmdWaitMgr

/-- The constructor, which sets the state only. -/
def new (notifyId : Ptr) (completionStatus : Int) : CmdWaitMgr :=
  ⟨notifyId, completionStatus, .waitIdle⟩

def setPrimedState (id : Ptr) (m : CmdWaitMgr) : CmdWaitMgr × Int :=
  if m.state ≠ .waitIdle then (m, -1) else ({ m with notifyId := id, state := .waitPrimed }, 0)

def setActiveState (m : CmdWaitMgr) : CmdWaitMgr × Int :=
  if m.state ≠ .waitPrimed then (m, -1) else ({ m with state := .waitActive }, 0)

def setIdleState (m : CmdWaitMgr) : CmdWaitMgr × Int :=
  if m.state ≠ .waitActive then (m, -1) else ({ m with state := .waitIdle }, 0)

def matchId (id : Ptr) (m : CmdWaitMgr) : Bool := id == m.notifyId

def activeState (m : CmdWaitMgr) : Bool := m.state == .waitActive

def primedState (m : CmdWaitMgr) : Bool := m.state == .waitPrimed

def setCompletionStatus (status : Int) (m : CmdWaitMgr) : CmdWaitMgr × Int :=
  if m.state ≠ .waitActive then (m, -1) else ({ m with completionStatus := status }, 0)

end CmdWaitMgr

/-- Where the app thread is: outside of `queue_tx_frame`, or in it behind the write to the pipe,
behind the test for a wait, in `sem_wait`, behind it, or behind `get_completion_status`. -/
inductive AppPc where
  | outside
  | written (d : TxData)
  | tested
  | waiting
  | woken
  | gotStatus
  deriving DecidableEq

/-- `system_layer2_multithreaded_callback` with the controller that its lib thread runs.
`assertFailed` and `usedIds` are not in the source: they record whether one of the asserts on
the wait manager failed and the notification ids that the app thread has sent. -/
structure System where
  controller : Controller
  waitMgr : CmdWaitMgr
  waitingSem : Nat
  app : AppPc
  respStatusForCmd : Int
  assertFailed : Bool
  usedIds : List Ptr

/-- The promise of the send functions: what the application sends are commands. -/
def TxFrame.isCommand : TxFrame → Bool
  | .aecp f => f.isCommand
  | .acmp f => f.isCommand
  | .other => false

namespace System

/-- The constructor. The members that it does not set have some value. -/
def new (macAddr : Mac) (notifyId : Ptr) (completionStatus respStatusForCmd : Int) : System :=
  { controller := .new macAddr
    waitMgr := .new notifyId completionStatus
    waitingSem := 0
    app := .outside
    respStatusForCmd
    assertFailed := false
    usedIds := [] }

def waits (s : System) (d : TxData) : Bool :=
  s.waitMgr.primedState && s.waitMgr.matchId d.notificationId &&
    d.notificationFlag == .cmdWithNotification

def asserting (s : System) (r : CmdWaitMgr × Int) : System :=
  { s with waitMgr := r.1, assertFailed := s.assertFailed || r.2 != 0 }

def release (s : System) (status : Int) : System :=
  let s := s.asserting (s.waitMgr.setCompletionStatus status)
  { s with waitingSem := s.waitingSem + 1 }

def isComplete (s : System) (id : Ptr) : Bool :=
  !s.controller.isInflightCmdWithNotificationId id &&
    !s.controller.isActiveOperationWithNotificationId id

def fnTimer (now : Timestamp) (s : System) : Except Fault System := do
  let notificationIdIncomplete := s.waitMgr.activeState && !s.isComplete s.waitMgr.notifyId
  let controller ← s.controller.timeTickEvent now
  let s := { s with controller }
  if s.waitMgr.activeState && notificationIdIncomplete && s.isComplete s.waitMgr.notifyId then
    pure (s.release avdeccLibStatusTickTimeout)
  else pure s

def fnTx (now : Timestamp) (s : System) : Except Fault System := do
  let controller ← s.controller.handle (.txPacket now)
  pure { s with controller }

def fnNetif (now : Timestamp) (uninit : EntityId) (frame : RxFrame) (s : System) :
    Except Fault System := do
  let (controller, out) ← s.controller.rxPacketEvent now uninit frame {}
  let s := { s with controller }
  if s.waitMgr.activeState && out.isNotificationIdValid &&
    s.waitMgr.matchId out.notificationId &&
      s.isComplete s.waitMgr.notifyId then
    pure (s.release out.status)
  else pure s

inductive Action where
  | setWaitForNextCmd (id : Ptr)
  | writePipe (d : TxData)
  | testWait
  | setActive
  | semWait
  | getStatus
  | setIdle
  | fnTx (now : Timestamp)
  | fnNetif (now : Timestamp) (uninit : EntityId) (frame : RxFrame)
  | fnTimer (now : Timestamp)

inductive Step (s : System) : Action → System → Prop where
  | setWaitForNextCmd {id : Ptr} (h : s.app = .outside) :
      Step s (.setWaitForNextCmd id) { s with waitMgr := (s.waitMgr.setPrimedState id).1 }
  | writePipe (h : s.app = .outside) (hd : d.frame.isCommand = true) :
      Step s (.writePipe d)
        { s with
          controller := s.controller.systemQueueTx [d]
          app := .written d
          usedIds := s.usedIds ++ [d.notificationId] }
  | testWait (h : s.app = .written d) :
      Step s .testWait { s with app := if s.waits d then .tested else .outside }
  | setActive (h : s.app = .tested) :
      Step s .setActive { s.asserting s.waitMgr.setActiveState with app := .waiting }
  | semWait (h : s.app = .waiting) (hs : 0 < s.waitingSem) :
      Step s .semWait { s with waitingSem := s.waitingSem - 1, app := .woken }
  | getStatus (h : s.app = .woken) :
      Step s .getStatus
        { s with respStatusForCmd := s.waitMgr.completionStatus, app := .gotStatus }
  | setIdle (h : s.app = .gotStatus) :
      Step s .setIdle { s.asserting s.waitMgr.setIdleState with app := .outside }
  | fnTx (h : s.fnTx now = .ok s') : Step s (.fnTx now) s'
  | fnNetif (h : s.fnNetif now uninit frame = .ok s') : Step s (.fnNetif now uninit frame) s'
  | fnTimer (h : s.fnTimer now = .ok s') : Step s (.fnTimer now) s'

/-- The steps as a function of the action. One that is not enabled is an error as well. -/
def exec (s : System) : Action → Except Fault System
  | .setWaitForNextCmd id =>
    if s.app = .outside then pure { s with waitMgr := (s.waitMgr.setPrimedState id).1 }
    else throw .assertion
  | .writePipe d =>
    if s.app = .outside ∧ d.frame.isCommand = true then
      pure { s with
        controller := s.controller.systemQueueTx [d]
        app := .written d
        usedIds := s.usedIds ++ [d.notificationId] }
    else throw .assertion
  | .testWait =>
    match s.app with
    | .written d => pure { s with app := if s.waits d then .tested else .outside }
    | _ => throw .assertion
  | .setActive =>
    if s.app = .tested then
      pure { s.asserting s.waitMgr.setActiveState with app := .waiting }
    else throw .assertion
  | .semWait =>
    if s.app = .waiting ∧ 0 < s.waitingSem then
      pure { s with waitingSem := s.waitingSem - 1, app := .woken }
    else throw .assertion
  | .getStatus =>
    if s.app = .woken then
      pure { s with respStatusForCmd := s.waitMgr.completionStatus, app := .gotStatus }
    else throw .assertion
  | .setIdle =>
    if s.app = .gotStatus then pure { s.asserting s.waitMgr.setIdleState with app := .outside }
    else throw .assertion
  | .fnTx now => s.fnTx now
  | .fnNetif now uninit frame => s.fnNetif now uninit frame
  | .fnTimer now => s.fnTimer now

theorem exec_step {s s' : System} {a : Action} (h : s.exec a = .ok s') : Step s a s' := by
  cases a with
  | setWaitForNextCmd id =>
    simp only [exec] at h
    split at h
    · next ha =>
      cases h
      exact .setWaitForNextCmd ha
    · cases h
  | writePipe d =>
    simp only [exec] at h
    split at h
    · next ha =>
      cases h
      exact .writePipe ha.1 ha.2
    · cases h
  | testWait =>
    simp only [exec] at h
    split at h
    · next d ha =>
      cases h
      exact .testWait ha
    · cases h
  | setActive =>
    simp only [exec] at h
    split at h
    · next ha =>
      cases h
      exact .setActive ha
    · cases h
  | semWait =>
    simp only [exec] at h
    split at h
    · next ha =>
      cases h
      exact .semWait ha.1 ha.2
    · cases h
  | getStatus =>
    simp only [exec] at h
    split at h
    · next ha =>
      cases h
      exact .getStatus ha
    · cases h
  | setIdle =>
    simp only [exec] at h
    split at h
    · next ha =>
      cases h
      exact .setIdle ha
    · cases h
  | fnTx now => exact .fnTx h
  | fnNetif now uninit frame => exact .fnNetif h
  | fnTimer now => exact .fnTimer h

end System
end AvdeccLib
