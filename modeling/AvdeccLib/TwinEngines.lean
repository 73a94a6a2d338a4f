import AvdeccLib.AecpControllerStateMachine
import AvdeccLib.AcmpControllerStateMachine

/-! The functions of the inflight table are written twice in the source. They are translated
here from each of the two files, with the timeout of a command left open, and each copy is the
engine with its frames. -/

namespace AvdeccLib
set_option autoImplicit true

open FirstMatch Engine

namespace AecpEngine

variable (avdeccMsgTimeoutMs : BitVec 32) (now : Timestamp)

/-- `send_frame` and `callback` at the end of `tx_cmd`. -/
def sendFrame (s : Engine AecpFrame) (birth : Nat) (notificationId : Ptr)
    (notificationFlag : AemCmdWaiting) (cmdFrame : AecpFrame) : Engine AecpFrame :=
  s.log (.transmitted birth cmdFrame ::
    (AecpControllerStateMachine.callback notificationId notificationFlag cmdFrame).map .posted)

def txCmd (s : Engine AecpFrame) (birth : Nat) (notificationId : Ptr)
    (notificationFlag : AemCmdWaiting) (cmdFrame : AecpFrame) (resend : Bool) :
    Engine AecpFrame :=
  if !resend then
    let currentSeqId := s.seqId
    let cmdFrame := { cmdFrame with sequenceId := s.seqId }
    let inFlight := Inflight.new birth cmdFrame currentSeqId notificationId notificationFlag
      avdeccMsgTimeoutMs
    let inFlight := inFlight.startTimer now
    let s := { s with
      seqId := s.seqId + 1
      inflightCmds := s.inflightCmds ++ [inFlight]
      issued := s.issued + 1 }
    sendFrame (s.log [.pushed inFlight]) birth notificationId notificationFlag cmdFrame
  else
    let resendWithSeqId := cmdFrame.sequenceId
    let s := { s with
      inflightCmds :=
        modifyFirst (seqIdComp resendWithSeqId) (·.startTimer now) s.inflightCmds }
    sendFrame s birth notificationId notificationFlag cmdFrame

/-- What it returns, and the notification id that it leaves to its caller. -/
def procResp (s : Engine AecpFrame) (notificationId : Ptr) (cmdFrame : AecpFrame) :
    Engine AecpFrame × Int × Ptr :=
  let seqId := cmdFrame.sequenceId
  match s.inflightCmds.find? (seqIdComp seqId) with
  | some j =>
    let notificationId := j.cmdNotificationId
    let notificationFlag := j.cmdNotificationFlag
    let s := s.log
      ((AecpControllerStateMachine.callback notificationId notificationFlag cmdFrame).map
        .posted)
    (({ s with inflightCmds := s.inflightCmds.eraseP (seqIdComp seqId) }.log [.answered j]), 1,
      notificationId)
  | none => (s, -1, notificationId)

def stateTimeout (s : Engine AecpFrame) (inflightCmdIndex : Nat) (e : Inflight AecpFrame) :
    Engine AecpFrame :=
  let frame := e.cmdFrame
  let isRetried := e.retried
  let notificationFlag := e.cmdNotificationFlag
  if isRetried then
    let s := s.log
      [.posted (AecpControllerStateMachine.commandTimeout frame e.cmdNotificationId)]
    { s with inflightCmds := s.inflightCmds.eraseIdx inflightCmdIndex }.log [.dropped e]
  else txCmd avdeccMsgTimeoutMs now s e.birth e.cmdNotificationId notificationFlag frame true

/-- The body of the loop of `tick`. -/
def tickAt (s : Engine AecpFrame) (i : Nat) : Engine AecpFrame :=
  match s.inflightCmds[i]? with
  | none => s
  | some e =>
    let s := { s with inflightCmds := s.inflightCmds.set i (e.poll now) }
    if e.timeout now then stateTimeout avdeccMsgTimeoutMs now s i (e.poll now) else s

def tick (s : Engine AecpFrame) : Engine AecpFrame :=
  (List.range s.inflightCmds.length).foldl (tickAt avdeccMsgTimeoutMs now) s

/-- The engine of the AECP state machine, whatever a command's timeout. -/
def spec : EngineSpec AecpFrame := { aecpSpec with timeoutMs := fun _ => avdeccMsgTimeoutMs }

theorem spec_source : spec AvdeccLib.avdeccMsgTimeoutMs = aecpSpec := rfl

theorem txCmd_eq (s : Engine AecpFrame) (birth : Nat) (id : Ptr) (flag : AemCmdWaiting)
    (f : AecpFrame) (resend : Bool) :
    txCmd avdeccMsgTimeoutMs now s birth id flag f resend =
      s.txCmd (spec avdeccMsgTimeoutMs) now birth id flag f resend := by
  cases resend with
  | false =>
    simp only [txCmd, Engine.txCmd, sendFrame, log, List.append_assoc]
    rfl
  | true => rfl

theorem procResp_eq (s : Engine AecpFrame) (id : Ptr) (f : AecpFrame) :
    ((procResp s id f).1, (procResp s id f).2.2) =
      s.procResp (spec avdeccMsgTimeoutMs) id f := by
  have hget : (spec avdeccMsgTimeoutMs).getSequenceId f = f.sequenceId := rfl
  cases h : s.inflightCmds.find? (seqIdComp f.sequenceId) with
  | none =>
    rw [procResp_of_none (hget ▸ h)]
    simp only [procResp, h]
  | some j =>
    rw [procResp_of_some (hget ▸ h)]
    simp only [procResp, h, log, List.append_assoc]
    rfl

theorem stateTimeout_eq (s : Engine AecpFrame) (i : Nat) (e : Inflight AecpFrame) :
    stateTimeout avdeccMsgTimeoutMs now s i e =
      s.stateTimeout (spec avdeccMsgTimeoutMs) now i e := by
  cases hr : e.retried with
  | true =>
    simp only [stateTimeout, Engine.stateTimeout, hr, if_true, log, List.append_assoc]
    rfl
  | false =>
    simp only [stateTimeout, Engine.stateTimeout, hr, Bool.false_eq_true, if_false]
    exact txCmd_eq ..

theorem tickAt_eq (s : Engine AecpFrame) (i : Nat) :
    tickAt avdeccMsgTimeoutMs now s i = s.tickAt (spec avdeccMsgTimeoutMs) now i := by
  rw [tickAt, Engine.tickAt]
  cases s.inflightCmds[i]? with
  | none => rfl
  | some e => simp only [stateTimeout_eq]

theorem tick_eq (s : Engine AecpFrame) :
    tick avdeccMsgTimeoutMs now s = s.tick (spec avdeccMsgTimeoutMs) now := by
  rw [tick, Engine.tick]
  congr 1
  funext s i
  exact tickAt_eq avdeccMsgTimeoutMs now s i

end AecpEngine

namespace AcmpEngine

variable (acmpCmdToTimeout : AcmpMessageType → BitVec 32) (now : Timestamp)

/-- `send_frame` and `callback` at the end of `tx_cmd`. -/
def sendFrame (s : Engine AcmpFrame) (birth : Nat) (notificationId : Ptr)
    (notificationFlag : AemCmdWaiting) (cmdFrame : AcmpFrame) : Engine AcmpFrame :=
  s.log (.transmitted birth cmdFrame ::
    (AcmpControllerStateMachine.callback notificationId notificationFlag cmdFrame).map .posted)

def txCmd (s : Engine AcmpFrame) (birth : Nat) (notificationId : Ptr)
    (notificationFlag : AemCmdWaiting) (cmdFrame : AcmpFrame) (resend : Bool) :
    Engine AcmpFrame :=
  if !resend then
    let thisSeqId := s.seqId
    let timeoutMs := acmpCmdToTimeout cmdFrame.messageType
    let cmdFrame := { cmdFrame with sequenceId := s.seqId }
    let inFlight :=
      Inflight.new birth cmdFrame thisSeqId notificationId notificationFlag timeoutMs
    let inFlight := inFlight.startTimer now
    let s := { s with
      seqId := s.seqId + 1
      inflightCmds := s.inflightCmds ++ [inFlight]
      issued := s.issued + 1 }
    sendFrame (s.log [.pushed inFlight]) birth notificationId notificationFlag cmdFrame
  else
    let resendWithSeqId := cmdFrame.sequenceId
    let s := { s with
      inflightCmds :=
        modifyFirst (seqIdComp resendWithSeqId) (·.startTimer now) s.inflightCmds }
    sendFrame s birth notificationId notificationFlag cmdFrame

/-- What it returns, and the notification id that it leaves to its caller. -/
def procResp (s : Engine AcmpFrame) (notificationId : Ptr) (cmdFrame : AcmpFrame) :
    Engine AcmpFrame × Int × Ptr :=
  let seqId := cmdFrame.sequenceId
  match s.inflightCmds.find? (seqIdComp seqId) with
  | some j =>
    let notificationId := j.cmdNotificationId
    let notificationFlag := j.cmdNotificationFlag
    let s := s.log
      ((AcmpControllerStateMachine.callback notificationId notificationFlag cmdFrame).map
        .posted)
    (({ s with inflightCmds := s.inflightCmds.eraseP (seqIdComp seqId) }.log [.answered j]), 1,
      notificationId)
  | none => (s, -1, notificationId)

def stateTimeout (s : Engine AcmpFrame) (inflightCmdIndex : Nat) (e : Inflight AcmpFrame) :
    Engine AcmpFrame :=
  let frame := e.cmdFrame
  let isRetried := e.retried
  if isRetried then
    let s := s.log
      [.posted (AcmpControllerStateMachine.commandTimeout frame e.cmdNotificationId)]
    { s with inflightCmds := s.inflightCmds.eraseIdx inflightCmdIndex }.log [.dropped e]
  else
    txCmd acmpCmdToTimeout now s e.birth e.cmdNotificationId e.cmdNotificationFlag frame true

/-- The body of the loop of `tick`. -/
def tickAt (s : Engine AcmpFrame) (i : Nat) : Engine AcmpFrame :=
  match s.inflightCmds[i]? with
  | none => s
  | some e =>
    let s := { s with inflightCmds := s.inflightCmds.set i (e.poll now) }
    if e.timeout now then stateTimeout acmpCmdToTimeout now s i (e.poll now) else s

def tick (s : Engine AcmpFrame) : Engine AcmpFrame :=
  (List.range s.inflightCmds.length).foldl (tickAt acmpCmdToTimeout now) s

/-- The engine of the ACMP state machine, whatever the commands' timeouts. -/
def spec : EngineSpec AcmpFrame :=
  { acmpSpec with timeoutMs := fun f => acmpCmdToTimeout f.messageType }

theorem spec_source : spec AvdeccLib.acmpCmdToTimeout = acmpSpec := rfl

theorem txCmd_eq (s : Engine AcmpFrame) (birth : Nat) (id : Ptr) (flag : AemCmdWaiting)
    (f : AcmpFrame) (resend : Bool) :
    txCmd acmpCmdToTimeout now s birth id flag f resend =
      s.txCmd (spec acmpCmdToTimeout) now birth id flag f resend := by
  cases resend with
  | false =>
    simp only [txCmd, Engine.txCmd, sendFrame, log, List.append_assoc]
    rfl
  | true => rfl

theorem procResp_eq (s : Engine AcmpFrame) (id : Ptr) (f : AcmpFrame) :
    ((procResp s id f).1, (procResp s id f).2.2) = s.procResp (spec acmpCmdToTimeout) id f := by
  have hget : (spec acmpCmdToTimeout).getSequenceId f = f.sequenceId := rfl
  cases h : s.inflightCmds.find? (seqIdComp f.sequenceId) with
  | none =>
    rw [procResp_of_none (hget ▸ h)]
    simp only [procResp, h]
  | some j =>
    rw [procResp_of_some (hget ▸ h)]
    simp only [procResp, h, log, List.append_assoc]
    rfl

theorem stateTimeout_eq (s : Engine AcmpFrame) (i : Nat) (e : Inflight AcmpFrame) :
    stateTimeout acmpCmdToTimeout now s i e =
      s.stateTimeout (spec acmpCmdToTimeout) now i e := by
  cases hr : e.retried with
  | true =>
    simp only [stateTimeout, Engine.stateTimeout, hr, if_true, log, List.append_assoc]
    rfl
  | false =>
    simp only [stateTimeout, Engine.stateTimeout, hr, Bool.false_eq_true, if_false]
    exact txCmd_eq ..

theorem tickAt_eq (s : Engine AcmpFrame) (i : Nat) :
    tickAt acmpCmdToTimeout now s i = s.tickAt (spec acmpCmdToTimeout) now i := by
  rw [tickAt, Engine.tickAt]
  cases s.inflightCmds[i]? with
  | none => rfl
  | some e => simp only [stateTimeout_eq]

theorem tick_eq (s : Engine AcmpFrame) :
    tick acmpCmdToTimeout now s = s.tick (spec acmpCmdToTimeout) now := by
  rw [tick, Engine.tick]
  congr 1
  funext s i
  exact tickAt_eq acmpCmdToTimeout now s i

end AcmpEngine

/-- What a frame is to the table: its payload is left out. -/
structure Outline where
  sequenceId : BitVec 16
  isResponse : Bool
  timeoutMs : BitVec 32
  deriving DecidableEq

/-- A notification without its kind and its payload. -/
def bareNotification (notificationId : Ptr) : Notification :=
  ⟨.responseReceived, 0, 0, 0, 0, 0, notificationId⟩

def outlineCallback (notificationId : Ptr) (notificationFlag : AemCmdWaiting) (f : Outline) :
    List Notification :=
  if notificationFlag = .cmdWithNotification ∧ f.isResponse then
    [bareNotification notificationId]
  else []

def outlineSpec : EngineSpec Outline where
  getSequenceId := Outline.sequenceId
  setSequenceId sequenceId f := { f with sequenceId }
  timeoutMs := Outline.timeoutMs
  isResponse := Outline.isResponse
  callback := outlineCallback
  timeoutNotification _ := bareNotification
  get_set _ _ := rfl
  isResponse_set _ _ := rfl
  callback_response id f h := ⟨bareNotification id, if_pos ⟨rfl, h⟩, rfl⟩
  callback_other id flag f h := by
    apply if_neg
    rintro ⟨rfl, hf⟩
    rcases h with h | h
    · cases h
    · exact Bool.false_ne_true (h.symm.trans hf)
  timeoutNotification_id _ _ := rfl

section
variable (p : EngineSpec φ)

def EngineSpec.outline (f : φ) : Outline := ⟨p.getSequenceId f, p.isResponse f, p.timeoutMs f⟩

def Inflight.outline (e : Inflight φ) : Inflight Outline :=
  { cmdFrame := p.outline e.cmdFrame
    cmdNotificationFlag := e.cmdNotificationFlag
    cmdTimer := e.cmdTimer
    cmdTimeoutMs := e.cmdTimeoutMs
    startTimerCnt := e.startTimerCnt
    cmdSeqId := e.cmdSeqId
    cmdNotificationId := e.cmdNotificationId
    birth := e.birth }

def EngineEvent.outline : EngineEvent φ → EngineEvent Outline
  | pushed e => .pushed (e.outline p)
  | transmitted birth frame => .transmitted birth (p.outline frame)
  | posted n => .posted (bareNotification n.notificationId)
  | answered e => .answered (e.outline p)
  | dropped e => .dropped (e.outline p)

namespace Engine

def outline (s : Engine φ) : Engine Outline :=
  { seqId := s.seqId
    inflightCmds := s.inflightCmds.map (Inflight.outline p)
    issued := s.issued
    trace := s.trace.map (EngineEvent.outline p) }

theorem outline_posts (id : Ptr) (flag : AemCmdWaiting) (f : φ) :
    (p.posts id flag f).map (EngineEvent.outline p) =
      outlineSpec.posts id flag (p.outline f) := by
  have hnone : ∀ h : flag = .cmdWithoutNotification ∨ p.isResponse f = false,
      (p.posts id flag f).map (EngineEvent.outline p) =
        outlineSpec.posts id flag (p.outline f) := by
    intro h
    rw [EngineSpec.posts, EngineSpec.posts, p.callback_other id flag f h,
      outlineSpec.callback_other id flag (p.outline f) h]
    rfl
  cases flag with
  | cmdWithoutNotification => exact hnone (.inl rfl)
  | cmdWithNotification =>
    cases hr : p.isResponse f with
    | false => exact hnone (.inr hr)
    | true =>
      obtain ⟨n, hn, rfl⟩ := p.callback_response id f hr
      have houtline : outlineCallback n.notificationId .cmdWithNotification (p.outline f) =
          [bareNotification n.notificationId] := if_pos ⟨rfl, hr⟩
      rw [EngineSpec.posts, EngineSpec.posts, hn]
      show _ = (outlineCallback _ _ _).map _
      rw [houtline]
      rfl

variable {p} {now : Timestamp}

theorem outline_restart (seqId : BitVec 16) (l : List (Inflight φ)) :
    (modifyFirst (seqIdComp seqId) (·.startTimer now) l).map (Inflight.outline p) =
      modifyFirst (seqIdComp seqId) (·.startTimer now) (l.map (Inflight.outline p)) := by
  symm
  apply modifyFirst_map_map
  · intro e
    rfl
  · intro e
    rfl

theorem outline_txCmd (hp : ∀ n f, p.timeoutMs (p.setSequenceId n f) = p.timeoutMs f)
    (s : Engine φ) (birth : Nat) (id : Ptr) (flag : AemCmdWaiting) (f : φ) (resend : Bool) :
    (s.txCmd p now birth id flag f resend).outline p =
      (s.outline p).txCmd outlineSpec now birth id flag (p.outline f) resend := by
  cases resend with
  | true =>
    simp only [txCmd, Bool.not_true, Bool.false_eq_true, if_false, outline, log,
      List.map_append,
      List.map_cons, outline_restart, outline_posts]
    rfl
  | false =>
    have hset : p.outline (p.setSequenceId s.seqId f) =
        outlineSpec.setSequenceId s.seqId (p.outline f) := by
      rw [EngineSpec.outline, p.get_set, p.isResponse_set, hp]
      rfl
    simp only [txCmd, Bool.not_false, if_true, outline, log, List.map_append, List.map_cons,
      List.map_nil, outline_posts, EngineEvent.outline, hset]
    simp only [Inflight.outline, Inflight.startTimer, Inflight.new, hset]
    rfl

theorem outline_find? (s : Engine φ) (seqId : BitVec 16) :
    (s.outline p).inflightCmds.find? (seqIdComp seqId) =
      (s.inflightCmds.find? (seqIdComp seqId)).map (Inflight.outline p) := by
  rw [outline, List.find?_map]
  rfl

theorem outline_procResp (s : Engine φ) (id : Ptr) (f : φ) :
    ((s.procResp p id f).1.outline p, (s.procResp p id f).2) =
      (s.outline p).procResp outlineSpec id (p.outline f) := by
  have hfind : (s.outline p).inflightCmds.find?
      (seqIdComp (outlineSpec.getSequenceId (p.outline f))) = _ :=
    outline_find? s (p.getSequenceId f)
  cases h : s.inflightCmds.find? (seqIdComp (p.getSequenceId f)) with
  | none =>
    rw [h, Option.map_none] at hfind
    rw [procResp_of_none h, procResp_of_none hfind]
  | some j =>
    rw [h, Option.map_some] at hfind
    rw [procResp_of_some h, procResp_of_some hfind]
    simp only [outline, log, List.map_append, outline_posts, List.eraseP_map]
    rfl

theorem outline_stateTimeout (hp : ∀ n f, p.timeoutMs (p.setSequenceId n f) = p.timeoutMs f)
    (s : Engine φ) (i : Nat) (e : Inflight φ) :
    (s.stateTimeout p now i e).outline p =
      (s.outline p).stateTimeout outlineSpec now i (e.outline p) := by
  have hretried : (e.outline p).retried = e.retried := rfl
  rw [stateTimeout, stateTimeout, hretried]
  cases e.retried with
  | true =>
    simp only [if_true, outline, log, List.map_append, List.eraseIdx_map]
    simp only [List.map_cons, List.map_nil, EngineEvent.outline, p.timeoutNotification_id]
    rfl
  | false =>
    simp only [Bool.false_eq_true, if_false]
    exact outline_txCmd hp s e.birth e.cmdNotificationId e.cmdNotificationFlag e.cmdFrame true

theorem outline_tickAt (hp : ∀ n f, p.timeoutMs (p.setSequenceId n f) = p.timeoutMs f)
    (s : Engine φ) (i : Nat) :
    (s.tickAt p now i).outline p = (s.outline p).tickAt outlineSpec now i := by
  have hget : (s.outline p).inflightCmds[i]? = s.inflightCmds[i]?.map (Inflight.outline p) :=
    List.getElem?_map
  rw [tickAt, tickAt]
  cases h : s.inflightCmds[i]? with
  | none =>
    rw [h] at hget
    simp only [hget, Option.map_none]
  | some e =>
    rw [h] at hget
    have hset :
        ({ s with inflightCmds := s.inflightCmds.set i (e.poll now) } : Engine φ).outline p =
          { s.outline p with
            inflightCmds := (s.outline p).inflightCmds.set i ((e.outline p).poll now) } := by
      simp only [outline, List.map_set]
      rfl
    have htimeout : (e.outline p).timeout now = e.timeout now := rfl
    simp only [hget, Option.map_some, htimeout]
    cases e.timeout now with
    | false => exact hset
    | true =>
      simp only [if_true]
      rw [outline_stateTimeout hp, hset]
      rfl

theorem outline_tick (hp : ∀ n f, p.timeoutMs (p.setSequenceId n f) = p.timeoutMs f)
    (s : Engine φ) : (s.tick p now).outline p = (s.outline p).tick outlineSpec now := by
  have hlength : (s.outline p).inflightCmds.length = s.inflightCmds.length := List.length_map _
  rw [tick, tick, hlength]
  clear hlength
  generalize List.range s.inflightCmds.length = is
  induction is generalizing s with
  | nil => rfl
  | cons i is ih =>
    rw [List.foldl_cons, List.foldl_cons, ih, outline_tickAt hp]

end Engine
end

/-- A call of both state machines at one instant. A send hands over a command of each kind, a
response is given by a frame of each kind. -/
inductive TwinCall where
  | send (now : Timestamp) (notificationId : Ptr) (notificationFlag : AemCmdWaiting)
      (aecp : AecpFrame) (acmp : AcmpFrame)
  | resp (notificationId : Ptr) (aecp : AecpFrame) (acmp : AcmpFrame)
  | tick (now : Timestamp)

/-- The two commands may take as long as each other, the two responses have one sequence id, and
`callback` takes both frames of a call for responses or neither. -/
def TwinCall.Paired (avdeccMsgTimeoutMs : BitVec 32)
    (acmpCmdToTimeout : AcmpMessageType → BitVec 32) : TwinCall → Prop
  | send _ _ _ f g => acmpCmdToTimeout g.messageType = avdeccMsgTimeoutMs ∧
      f.isResponse = g.isResponse
  | resp _ f g => f.sequenceId = g.sequenceId ∧ f.isResponse = g.isResponse
  | tick _ => True

instance {t : BitVec 32} {cmdToTimeout : AcmpMessageType → BitVec 32} :
    DecidablePred (TwinCall.Paired t cmdToTimeout)
  | .send .. => inferInstanceAs (Decidable (_ ∧ _))
  | .resp .. => inferInstanceAs (Decidable (_ ∧ _))
  | .tick _ => inferInstanceAs (Decidable True)

/-- The state after the call, and what `proc_resp` returned with the notification id it left. -/
def AecpEngine.call (avdeccMsgTimeoutMs : BitVec 32) (s : Engine AecpFrame) :
    TwinCall → Engine AecpFrame × Option (Int × Ptr)
  | .send now id flag f _ => (txCmd avdeccMsgTimeoutMs now s s.issued id flag f false, none)
  | .resp id f _ => ((procResp s id f).1, some (procResp s id f).2)
  | .tick now => (tick avdeccMsgTimeoutMs now s, none)

def AcmpEngine.call (acmpCmdToTimeout : AcmpMessageType → BitVec 32) (s : Engine AcmpFrame) :
    TwinCall → Engine AcmpFrame × Option (Int × Ptr)
  | .send now id flag _ g => (txCmd acmpCmdToTimeout now s s.issued id flag g false, none)
  | .resp id _ g => ((procResp s id g).1, some (procResp s id g).2)
  | .tick now => (tick acmpCmdToTimeout now s, none)

/-- What each call in turn makes of the state, with what it returns. -/
def callStates (call : σ → ε → σ × ρ) : σ → List ε → List (σ × ρ)
  | _, [] => []
  | s, e :: es => call s e :: callStates call (call s e).1 es

theorem callStates_agree {call : σ → ε → σ × ρ} {call' : τ → ε → τ × ρ} {view : σ → υ}
    {view' : τ → υ} {P : ε → Prop}
    (hstep : ∀ s t e, P e → view s = view' t →
      view (call s e).1 = view' (call' t e).1 ∧ (call s e).2 = (call' t e).2)
    {es : List ε} (hP : ∀ e ∈ es, P e) {s : σ} {t : τ} (h : view s = view' t) :
    (callStates call s es).map (Prod.map view id) =
      (callStates call' t es).map (Prod.map view' id) := by
  induction es generalizing s t with
  | nil => rfl
  | cons e es ih =>
    obtain ⟨hview, hret⟩ := hstep s t e (hP e List.mem_cons_self) h
    have htail := ih (fun e he => hP e (List.mem_cons_of_mem _ he)) hview
    rw [callStates, callStates, List.map_cons, List.map_cons, htail]
    exact congrArg (· :: _) (Prod.ext hview hret)

/-- What `proc_resp` returns for a sequence id. -/
def returned (l : List (Inflight Outline)) (seqId : BitVec 16) : Int :=
  if (l.find? (seqIdComp seqId)).isSome then 1 else -1

section
variable {avdeccMsgTimeoutMs : BitVec 32} {acmpCmdToTimeout : AcmpMessageType → BitVec 32}

theorem AecpEngine.procResp_returned (s : Engine AecpFrame) (id : Ptr) (f : AecpFrame) :
    (procResp s id f).2.1 =
      returned (s.outline (spec avdeccMsgTimeoutMs)).inflightCmds f.sequenceId := by
  rw [returned, outline_find?, Option.isSome_map, procResp]
  cases s.inflightCmds.find? (seqIdComp f.sequenceId) <;> rfl

theorem AcmpEngine.procResp_returned (s : Engine AcmpFrame) (id : Ptr) (f : AcmpFrame) :
    (procResp s id f).2.1 =
      returned (s.outline (spec acmpCmdToTimeout)).inflightCmds f.sequenceId := by
  rw [returned, outline_find?, Option.isSome_map, procResp]
  cases s.inflightCmds.find? (seqIdComp f.sequenceId) <;> rfl

theorem Engine.txCmd_outline {now : Timestamp} {o o' : Outline}
    (ht : o.timeoutMs = o'.timeoutMs) (hr : o.isResponse = o'.isResponse) (s : Engine Outline)
    (birth : Nat) (id : Ptr) (flag : AemCmdWaiting) :
    s.txCmd outlineSpec now birth id flag o false =
      s.txCmd outlineSpec now birth id flag o' false := by
  have hset : outlineSpec.setSequenceId s.seqId o = outlineSpec.setSequenceId s.seqId o' := by
    show Outline.mk _ _ _ = Outline.mk _ _ _
    rw [ht, hr]
  have htimeout : outlineSpec.timeoutMs o = outlineSpec.timeoutMs o' := ht
  simp only [txCmd, Bool.not_false, if_true, hset, htimeout]

theorem Engine.procResp_outline {o o' : Outline} (hs : o.sequenceId = o'.sequenceId)
    (hr : o.isResponse = o'.isResponse) (s : Engine Outline) (id : Ptr) :
    s.procResp outlineSpec id o = s.procResp outlineSpec id o' := by
  have hget : outlineSpec.getSequenceId o = outlineSpec.getSequenceId o' := hs
  have hposts : ∀ id flag, outlineSpec.posts id flag o = outlineSpec.posts id flag o' := by
    intro id flag
    show (outlineCallback _ _ _).map _ = (outlineCallback _ _ _).map _
    rw [outlineCallback, outlineCallback, hr]
  simp only [procResp, hget, hposts]

/-- One call keeps the two tables alike. -/
theorem call_agree {s : Engine AecpFrame} {t : Engine AcmpFrame} {c : TwinCall}
    (hc : c.Paired avdeccMsgTimeoutMs acmpCmdToTimeout)
    (h : s.outline (AecpEngine.spec avdeccMsgTimeoutMs) =
      t.outline (AcmpEngine.spec acmpCmdToTimeout)) :
    (AecpEngine.call avdeccMsgTimeoutMs s c).1.outline (AecpEngine.spec avdeccMsgTimeoutMs) =
      (AcmpEngine.call acmpCmdToTimeout t c).1.outline (AcmpEngine.spec acmpCmdToTimeout) ∧
    (AecpEngine.call avdeccMsgTimeoutMs s c).2 = (AcmpEngine.call acmpCmdToTimeout t c).2 := by
  cases c with
  | send now id flag f g =>
    obtain ⟨htimeout, hkind⟩ := hc
    have hissued : s.issued = t.issued := congrArg Engine.issued h
    constructor
    · simp only [AecpEngine.call, AcmpEngine.call, AecpEngine.txCmd_eq, AcmpEngine.txCmd_eq]
      rw [outline_txCmd fun _ _ => rfl, outline_txCmd fun _ _ => rfl, h, hissued]
      apply txCmd_outline
      · exact htimeout.symm
      · exact hkind
    · rfl
  | resp id f g =>
    obtain ⟨hseq, hkind⟩ := hc
    have hf := AecpEngine.procResp_eq avdeccMsgTimeoutMs s id f
    have hg := AcmpEngine.procResp_eq acmpCmdToTimeout t id g
    have hf' := outline_procResp (p := AecpEngine.spec avdeccMsgTimeoutMs) s id f
    have hg' := outline_procResp (p := AcmpEngine.spec acmpCmdToTimeout) t id g
    have hsame : (s.outline (AecpEngine.spec avdeccMsgTimeoutMs)).procResp outlineSpec id
          ((AecpEngine.spec avdeccMsgTimeoutMs).outline f) =
        (t.outline (AcmpEngine.spec acmpCmdToTimeout)).procResp outlineSpec id
          ((AcmpEngine.spec acmpCmdToTimeout).outline g) := by
      rw [h]
      apply procResp_outline
      · exact hseq
      · exact hkind
    have hboth := hf'.trans (hsame.trans hg'.symm)
    rw [← hf, ← hg, Prod.mk.injEq] at hboth
    have hret : (AecpEngine.procResp s id f).2.1 = (AcmpEngine.procResp t id g).2.1 := by
      rw [AecpEngine.procResp_returned, AcmpEngine.procResp_returned, h, hseq]
    exact ⟨hboth.1, congrArg some (Prod.ext hret hboth.2)⟩
  | tick now =>
    constructor
    · simp only [AecpEngine.call, AcmpEngine.call, AecpEngine.tick_eq, AcmpEngine.tick_eq]
      rw [outline_tick fun _ _ => rfl, outline_tick fun _ _ => rfl, h]
    · rfl

/-- From empty tables and equal counters on, after every call the two tables, what was sent and
whose notifications were posted are the same but for the payloads, and `proc_resp` returned the
same. -/
theorem engines_agree (seqId : BitVec 16) {calls : List TwinCall}
    (h : ∀ c ∈ calls, c.Paired avdeccMsgTimeoutMs acmpCmdToTimeout) :
    (callStates (AecpEngine.call avdeccMsgTimeoutMs) ⟨seqId, [], 0, []⟩ calls).map
        (Prod.map (outline (AecpEngine.spec avdeccMsgTimeoutMs)) id) =
      (callStates (AcmpEngine.call acmpCmdToTimeout) ⟨seqId, [], 0, []⟩ calls).map
        (Prod.map (outline (AcmpEngine.spec acmpCmdToTimeout)) id) := by
  apply callStates_agree _ h
  · rfl
  · intro s t c hc hst
    exact call_agree hc hst

end

def twinSend (now : Timestamp) (notificationId : Ptr) : TwinCall :=
  .send now notificationId .cmdWithNotification
    { messageType := .aemCommand
      targetEntityId := 3
      controllerEntityId := 1
      commandType := .readDescriptor }
    { messageType := .getTxStateCommand
      controllerEntityId := 1 }

def twinResponse (sequenceId : BitVec 16) : TwinCall :=
  .resp null
    { messageType := .aemResponse
      targetEntityId := 3
      controllerEntityId := 1
      sequenceId
      commandType := .readDescriptor }
    { messageType := .getTxStateResponse
      controllerEntityId := 1
      sequenceId }

/-- The first command is sent again and the second answered; then the first is dropped. -/
def twinCalls : List TwinCall :=
  [twinSend 0 5, twinSend 100 6, .tick 201, twinResponse 8, .tick 402, twinResponse 7]

/-- The timeout of GET_TX_STATE is taken for the one of AECP. -/
theorem engines_agree_dropped :
    (callStates (AecpEngine.call 200) ⟨7, [], 0, []⟩ twinCalls).map
        (Prod.map (outline (AecpEngine.spec 200)) id) =
      (callStates (AcmpEngine.call acmpCmdToTimeout) ⟨7, [], 0, []⟩ twinCalls).map
        (Prod.map (outline (AcmpEngine.spec acmpCmdToTimeout)) id) ∧
    (callStates (AecpEngine.call 200) ⟨7, [], 0, []⟩ twinCalls).map
        (fun r => (r.1.inflightCmds.map Inflight.cmdSeqId, r.2)) =
      [([7], none), ([7, 8], none), ([7, 8], none), ([7], some (1, 6)), ([], none),
        ([], some (-1, null))] :=
  ⟨engines_agree 7 (by decide), by decide⟩

end AvdeccLib
