import AvdeccLib.Timer
import AvdeccLib.Pdu
import AvdeccLib.Library.FirstMatch
import Mathlib.Data.List.InsertIdx

namespace AvdeccLib
set_option autoImplicit true

open FirstMatch

/-- An entry of `inflight_cmds`. The source has no `birth`: it numbers the entries of a state
machine in the order in which they are pushed, so that two entries can be told apart. -/
structure Inflight (φ : Type) where
  cmdFrame : φ
  cmdNotificationFlag : AemCmdWaiting
  cmdTimer : Timer
  cmdTimeoutMs : BitVec 32
  startTimerCnt : BitVec 32
  cmdSeqId : BitVec 16
  cmdNotificationId : Ptr
  birth : Nat
  deriving DecidableEq

def Inflight.new (birth : Nat) (frame : φ) (seqId : BitVec 16) (notificationId : Ptr)
    (notificationFlag : AemCmdWaiting) (timeoutMs : BitVec 32) : Inflight φ :=
  ⟨frame, notificationFlag, .new, timeoutMs, 0, seqId, notificationId, birth⟩

def Inflight.startTimer (now : Timestamp) (e : Inflight φ) : Inflight φ :=
  { e with startTimerCnt := e.startTimerCnt + 1, cmdTimer := .start now e.cmdTimeoutMs }

/-- `inflight::timeout` as it changes the entry. -/
def Inflight.poll (now : Timestamp) (e : Inflight φ) : Inflight φ :=
  { e with cmdTimer := e.cmdTimer.poll now }

def Inflight.timeout (now : Timestamp) (e : Inflight φ) : Bool := e.cmdTimer.timeout now

/-- The command can be resent once. -/
def Inflight.retried (e : Inflight φ) : Bool := 2 ≤ e.startTimerCnt

/-- What stays the same in an entry for as long as it is in the table. -/
structure Ticket (φ : Type) where
  birth : Nat
  seqId : BitVec 16
  notificationId : Ptr
  notificationFlag : AemCmdWaiting
  frame : φ
  deriving DecidableEq

def Inflight.ticket (e : Inflight φ) : Ticket φ :=
  ⟨e.birth, e.cmdSeqId, e.cmdNotificationId, e.cmdNotificationFlag, e.cmdFrame⟩

@[simp] theorem Inflight.startTimer_ticket (now : Timestamp) (e : Inflight φ) :
    (e.startTimer now).ticket = e.ticket := rfl

@[simp] theorem Inflight.poll_ticket (now : Timestamp) (e : Inflight φ) :
    (e.poll now).ticket = e.ticket := rfl

@[simp] theorem Inflight.poll_startTimerCnt (now : Timestamp) (e : Inflight φ) :
    (e.poll now).startTimerCnt = e.startTimerCnt := rfl

/-- What the AECP and the ACMP controller state machines do differently around the code that
they share: how a frame carries its sequence id, how long a command may take, which frames
`callback` answers with a notification and what a timeout posts. -/
structure EngineSpec (φ : Type) where
  getSequenceId : φ → BitVec 16
  setSequenceId : BitVec 16 → φ → φ
  timeoutMs : φ → BitVec 32
  isResponse : φ → Bool
  callback : Ptr → AemCmdWaiting → φ → List Notification
  timeoutNotification : φ → Ptr → Notification
  get_set : ∀ seqId frame, getSequenceId (setSequenceId seqId frame) = seqId
  isResponse_set : ∀ seqId frame, isResponse (setSequenceId seqId frame) = isResponse frame
  callback_response : ∀ id frame, isResponse frame = true →
    ∃ n, callback id .cmdWithNotification frame = [n] ∧ n.notificationId = id
  callback_other : ∀ id flag frame, flag = .cmdWithoutNotification ∨ isResponse frame = false →
    callback id flag frame = []
  timeoutNotification_id : ∀ frame id, (timeoutNotification frame id).notificationId = id

inductive EngineEvent (φ : Type) where
  | pushed (e : Inflight φ)
  | transmitted (birth : Nat) (frame : φ)
  | posted (n : Notification)
  | answered (e : Inflight φ)
  | dropped (e : Inflight φ)
  deriving DecidableEq

def EngineSpec.posts (p : EngineSpec φ) (notificationId : Ptr)
    (notificationFlag : AemCmdWaiting)
    (frame : φ) : List (EngineEvent φ) :=
  (p.callback notificationId notificationFlag frame).map .posted

/-- The part of the state that the AECP and the ACMP controller state machines have in common.
`issued` and `trace` are not in the source: they count the entries and record what happened. -/
structure Engine (φ : Type) where
  seqId : BitVec 16
  inflightCmds : List (Inflight φ)
  issued : Nat
  trace : List (EngineEvent φ)
  deriving DecidableEq

namespace Engine

/-- The constructors `aecp_controller_state_machine` and `acmp_controller_state_machine`. -/
def new : Engine φ := ⟨0, [], 0, []⟩

def log (s : Engine φ) (evs : List (EngineEvent φ)) : Engine φ :=
  { s with trace := s.trace ++ evs }

def seqIdComp (seqId : BitVec 16) (e : Inflight φ) : Bool := e.cmdSeqId == seqId

section
variable (p : EngineSpec φ) (now : Timestamp)

/-- `tx_cmd`. The entry that the frame belongs to is numbered by `birth`. -/
def txCmd (s : Engine φ) (birth : Nat) (notificationId : Ptr) (notificationFlag : AemCmdWaiting)
    (cmdFrame : φ) (resend : Bool) : Engine φ :=
  if !resend then
    let frame := p.setSequenceId s.seqId cmdFrame
    let inFlight := (Inflight.new birth frame s.seqId notificationId notificationFlag
      (p.timeoutMs cmdFrame)).startTimer now
    { s with
      seqId := s.seqId + 1
      inflightCmds := s.inflightCmds ++ [inFlight]
      issued := s.issued + 1
    }.log (.pushed inFlight :: .transmitted birth frame ::
      p.posts notificationId notificationFlag frame)
  else
    let resendWithSeqId := p.getSequenceId cmdFrame
    { s with
      inflightCmds := modifyFirst (seqIdComp resendWithSeqId) (·.startTimer now) s.inflightCmds
    }.log (.transmitted birth cmdFrame :: p.posts notificationId notificationFlag cmdFrame)

/-- `state_send_cmd` of the AECP and `state_command` of the ACMP state machine. -/
def stateSendCmd (s : Engine φ) (notificationId : Ptr) (notificationFlag : AemCmdWaiting)
    (cmdFrame : φ) : Engine φ :=
  txCmd p now s s.issued notificationId notificationFlag cmdFrame false

/-- `proc_resp`. The second component is the notification id that it leaves to its caller. -/
def procResp (s : Engine φ) (notificationId : Ptr) (cmdFrame : φ) : Engine φ × Ptr :=
  let seqId := p.getSequenceId cmdFrame
  match s.inflightCmds.find? (seqIdComp seqId) with
  | some j =>
    ({ s with inflightCmds := s.inflightCmds.eraseP (seqIdComp seqId) }.log
      (p.posts j.cmdNotificationId j.cmdNotificationFlag cmdFrame ++ [EngineEvent.answered j]),
      j.cmdNotificationId)
  | none => (s, notificationId)

/-- `state_timeout` of the entry `e` at the position `i`. The notification flag of a dropped
entry is not looked at. -/
def stateTimeout (s : Engine φ) (i : Nat) (e : Inflight φ) : Engine φ :=
  if e.retried then
    { s with inflightCmds := s.inflightCmds.eraseIdx i }.log
      [.posted (p.timeoutNotification e.cmdFrame e.cmdNotificationId), .dropped e]
  else
    txCmd p now s e.birth e.cmdNotificationId e.cmdNotificationFlag e.cmdFrame true

/-- The body of the loop of `tick`. -/
def tickAt (s : Engine φ) (i : Nat) : Engine φ :=
  match s.inflightCmds[i]? with
  | none => s
  | some e =>
    let s := { s with inflightCmds := s.inflightCmds.set i (e.poll now) }
    if e.timeout now then stateTimeout p now s i (e.poll now) else s

/-- `tick`. The table never grows in it, so its initial size bounds the loop. After an entry
is dropped the next one has its position, and the loop goes on behind that one. -/
def tick (s : Engine φ) : Engine φ :=
  (List.range s.inflightCmds.length).foldl (tickAt p now) s

end

def isInflightCmdWithNotificationId (s : Engine φ) (notificationId : Ptr) : Bool :=
  s.inflightCmds.any fun e => e.cmdNotificationId == notificationId

def tickets (s : Engine φ) : List (Ticket φ) := s.inflightCmds.map Inflight.ticket

@[simp] theorem log_seqId (s : Engine φ) (evs : List (EngineEvent φ)) :
    (s.log evs).seqId = s.seqId := rfl

@[simp] theorem log_inflightCmds (s : Engine φ) (evs : List (EngineEvent φ)) :
    (s.log evs).inflightCmds = s.inflightCmds := rfl

@[simp] theorem log_issued (s : Engine φ) (evs : List (EngineEvent φ)) :
    (s.log evs).issued = s.issued := rfl

@[simp] theorem log_trace (s : Engine φ) (evs : List (EngineEvent φ)) :
    (s.log evs).trace = s.trace ++ evs := rfl

section
variable (p : EngineSpec φ) (now : Timestamp)

def sentEntry (s : Engine φ) (notificationId : Ptr) (notificationFlag : AemCmdWaiting)
    (cmdFrame : φ) : Inflight φ :=
  (Inflight.new s.issued (p.setSequenceId s.seqId cmdFrame) s.seqId notificationId
    notificationFlag (p.timeoutMs cmdFrame)).startTimer now

theorem stateSendCmd_eq (s : Engine φ) (id : Ptr) (flag : AemCmdWaiting) (frame : φ) :
    stateSendCmd p now s id flag frame =
      { seqId := s.seqId + 1
        inflightCmds := s.inflightCmds ++ [sentEntry p now s id flag frame]
        issued := s.issued + 1
        trace := s.trace ++ .pushed (sentEntry p now s id flag frame) ::
          .transmitted s.issued (p.setSequenceId s.seqId frame) ::
          p.posts id flag (p.setSequenceId s.seqId frame) } := rfl

variable {p now}

theorem procResp_of_some {s : Engine φ} {id : Ptr} {frame : φ} {j : Inflight φ}
    (h : s.inflightCmds.find? (seqIdComp (p.getSequenceId frame)) = some j) :
    procResp p s id frame =
      ({ s with
          inflightCmds := s.inflightCmds.eraseP (seqIdComp (p.getSequenceId frame)) }.log
        (p.posts j.cmdNotificationId j.cmdNotificationFlag frame ++ [EngineEvent.answered j]),
        j.cmdNotificationId) := by
  simp only [procResp, h]

theorem procResp_of_none {s : Engine φ} {id : Ptr} {frame : φ}
    (h : s.inflightCmds.find? (seqIdComp (p.getSequenceId frame)) = none) :
    procResp p s id frame = (s, id) := by
  simp only [procResp, h]

variable (p now)

/-- What the visit of one position by the loop of `tick` can do. -/
inductive Visit (s : Engine φ) (i : Nat) : Engine φ → Prop where
  | absent (h : s.inflightCmds[i]? = none) : Visit s i s
  | waits {e : Inflight φ} (h : s.inflightCmds[i]? = some e) (ht : e.timeout now = false) :
      Visit s i { s with inflightCmds := s.inflightCmds.set i (e.poll now) }
  | drops {e : Inflight φ} (h : s.inflightCmds[i]? = some e) (ht : e.timeout now = true)
      (hr : e.retried = true) :
      Visit s i ({ s with inflightCmds := s.inflightCmds.eraseIdx i }.log
        [.posted (p.timeoutNotification e.cmdFrame e.cmdNotificationId), .dropped (e.poll now)])
  | resends {e : Inflight φ} (h : s.inflightCmds[i]? = some e) (ht : e.timeout now = true)
      (hr : e.retried = false) :
      Visit s i ({ s with
        inflightCmds := modifyFirst (seqIdComp (p.getSequenceId e.cmdFrame)) (·.startTimer now)
          (s.inflightCmds.set i (e.poll now)) }.log
        (.transmitted e.birth e.cmdFrame ::
          p.posts e.cmdNotificationId e.cmdNotificationFlag e.cmdFrame))

theorem tickAt_visit (s : Engine φ) (i : Nat) : Visit p now s i (tickAt p now s i) := by
  rw [tickAt]
  cases h : s.inflightCmds[i]? with
  | none => exact .absent h
  | some e =>
    cases ht : e.timeout now with
    | false =>
      simp only [ht, Bool.false_eq_true, if_false]
      exact .waits h ht
    | true =>
      cases hr : e.retried with
      | true =>
        have hr' : (e.poll now).retried = true := hr
        simp only [ht, if_true, stateTimeout, hr', List.eraseIdx_set_eq]
        exact .drops h ht hr
      | false =>
        have hr' : (e.poll now).retried = false := hr
        simp only [ht, if_true, stateTimeout, hr', Bool.false_eq_true, if_false]
        exact .resends h ht hr

variable {p now}

/-- What every visit keeps, `tick` keeps. -/
theorem tick_induction {P : Engine φ → Prop} {s : Engine φ} (h : P s)
    (hv : ∀ s i s', P s → Visit p now s i s' → P s') : P (tick p now s) := by
  rw [tick]
  generalize List.range s.inflightCmds.length = is
  induction is generalizing s with
  | nil => exact h
  | cons i is ih => exact ih (hv s i _ h (tickAt_visit p now s i))

theorem Visit.seqId {s s' : Engine φ} {i : Nat} (h : Visit p now s i s') :
    s'.seqId = s.seqId := by
  cases h <;> rfl

theorem Visit.issued {s s' : Engine φ} {i : Nat} (h : Visit p now s i s') :
    s'.issued = s.issued := by
  cases h <;> rfl

theorem tickets_set_poll (now : Timestamp) {s : Engine φ} {i : Nat} {e : Inflight φ}
    (h : s.inflightCmds[i]? = some e) :
    (s.inflightCmds.set i (e.poll now)).map Inflight.ticket = s.tickets :=
  map_set h (Inflight.poll_ticket now e)

theorem tickets_restart (now : Timestamp) (l : List (Inflight φ)) (q : Inflight φ → Bool) :
    (modifyFirst q (·.startTimer now) l).map Inflight.ticket = l.map Inflight.ticket :=
  modifyFirst_map (Inflight.startTimer_ticket now) q l

theorem Visit.tickets {s s' : Engine φ} {i : Nat} (h : Visit p now s i s') :
    s'.tickets = s.tickets ∨ s'.tickets = s.tickets.eraseIdx i := by
  cases h with
  | absent => exact .inl rfl
  | waits h => exact .inl (tickets_set_poll now h)
  | drops h => exact .inr (List.eraseIdx_map ..).symm
  | resends h => exact .inl ((tickets_restart now _ _).trans (tickets_set_poll now h))

end
end Engine
end AvdeccLib
