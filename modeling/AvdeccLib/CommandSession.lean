import AvdeccLib.CommandScripts

namespace AvdeccLib
set_option autoImplicit true

open Runs Outcome Scripts
open EndStation (deref)

/-- `cmd_line` with the library that it runs. -/
structure Console where
  system : System
  notificationId : Nat
  currentEndStation : BitVec 32
  selection : Nat → Selection
  testMode : Bool

namespace Console

/-- The constructor, with the system that it creates. -/
def new (system : System) (testMode : Bool) : Console where
  system
  notificationId := 1
  currentEndStation := 0
  selection _ := {}
  testMode

def cmdLine (c : Console) : CmdLine := ⟨c.system.controller, c.selection, c.testMode⟩

def view (c : Console) (data : ObjectData) : View :=
  ⟨data, c.cmdLine, c.currentEndStation⟩

/-- What is selected in the end stations behind a step of the library: `end_station_init`
selects the first entity and the first configuration. -/
def selectionBehind (c : Console) (system : System) (i : Nat) : Selection :=
  if (system.controller.endStationVec[i]?).map EndStation.generation =
      (c.system.controller.endStationVec[i]?).map EndStation.generation then c.selection i
  else {}

/-- The calls of a command. It makes them when the app thread is not in `queue_tx_frame`. What
the buffers of a sender hold before they are assigned is arbitrary, and so are the data that the
objects hold besides the descriptors. -/
inductive Serve (c : Console) : (call : CommandCall) → call.Reply → Console → Prop where
  | look {data : ObjectData} (happ : c.system.app = .outside) : Serve c .look (c.view data) c
  | getNextNotificationId (happ : c.system.app = .outside) :
      Serve c .getNextNotificationId (c.notificationId % 2 ^ 32)
        { c with notificationId := c.notificationId + 1 }
  | setWaitForNextCmd {id : Ptr} {system : System}
      (hs : c.system.Step (.setWaitForNextCmd id) system) :
      Serve c (.setWaitForNextCmd id) () { c with system }
  | send {endStation : EndStation} {cmd : NotifiedCmd} {id : Ptr} {locals : Locals}
      {rest : List BigEndian.Byte} {q : QueuedFrame} {system : System}
      (hq : cmd.queue c.system.controller.globals.macAddr locals endStation id = .ok q)
      (hs : c.system.Step (.writePipe (q.txData rest)) system) :
      Serve c (.send endStation cmd id) () { c with system }
  | sendAcmp {tx : TxData} {system : System} (hs : c.system.Step (.writePipe tx) system) :
      Serve c (.sendAcmp tx) () { c with system }
  | getLastRespStatus (happ : c.system.app = .outside) :
      Serve c .getLastRespStatus c.system.respStatusForCmd c
  | select {endStation : BitVec 32} {selection : Selection} (happ : c.system.app = .outside) :
      Serve c (.select endStation selection) ()
        { c with
          currentEndStation := endStation
          selection := Function.update c.selection endStation.toNat selection }

/-- The steps of the lib thread, and those of the app thread in `queue_tx_frame`. -/
inductive Own (c : Console) (a : System.Action) : Console → Prop where
  | step {system : System} (ha : a.isCall = false) (hs : c.system.Step a system) :
      Own c a { c with system, selection := c.selectionBehind system }

/-- Objects that no response has been received for. -/
def clearedData : ObjectData :=
  ⟨fun _ => 0, fun _ => ⟨[], 0⟩, ⟨fun _ _ => ⟨0, 0⟩, fun _ _ => ⟨0, 0⟩⟩⟩

/-- A call as a function, with what the buffers of a sender hold. -/
def serve (c : Console) (locals : Locals) (rest : List BigEndian.Byte) :
    (call : CommandCall) → Except Fault (call.Reply × Console)
  | .look => if c.system.app = .outside then pure (c.view clearedData, c) else throw .assertion
  | .getNextNotificationId =>
    if c.system.app = .outside then
      pure (c.notificationId % 2 ^ 32, { c with notificationId := c.notificationId + 1 })
    else throw .assertion
  | .setWaitForNextCmd id => do
    let system ← c.system.exec (.setWaitForNextCmd id)
    pure ((), { c with system })
  | .send endStation cmd id =>
    match cmd.queue c.system.controller.globals.macAddr locals endStation id with
    | .ok q => do
      let system ← c.system.exec (.writePipe (q.txData rest))
      pure ((), { c with system })
    | .error _ => throw .assertion
  | .sendAcmp tx => do
    let system ← c.system.exec (.writePipe tx)
    pure ((), { c with system })
  | .getLastRespStatus =>
    if c.system.app = .outside then pure (c.system.respStatusForCmd, c) else throw .assertion
  | .select endStation selection =>
    if c.system.app = .outside then
      pure ((), { c with
        currentEndStation := endStation
        selection := Function.update c.selection endStation.toNat selection })
    else throw .assertion

theorem serve_serve {c c' : Console} {locals : Locals} {rest : List BigEndian.Byte}
    {call : CommandCall} {r : call.Reply} (h : c.serve locals rest call = .ok (r, c')) :
    c.Serve call r c' := by
  cases call with
  | look =>
    simp only [serve] at h
    split at h
    · next happ =>
      cases h
      exact .look happ
    · cases h
  | getNextNotificationId =>
    simp only [serve] at h
    split at h
    · next happ =>
      cases h
      exact .getNextNotificationId happ
    · cases h
  | setWaitForNextCmd id =>
    obtain ⟨system, hs, h⟩ := bind_eq_ok.1 h
    cases h
    exact .setWaitForNextCmd (System.exec_step hs)
  | send endStation cmd id =>
    simp only [serve] at h
    split at h
    · next q hq =>
      obtain ⟨system, hs, h⟩ := bind_eq_ok.1 h
      cases h
      exact .send hq (System.exec_step hs)
    · cases h
  | sendAcmp tx =>
    obtain ⟨system, hs, h⟩ := bind_eq_ok.1 h
    cases h
    exact .sendAcmp (System.exec_step hs)
  | getLastRespStatus =>
    simp only [serve] at h
    split at h
    · next happ =>
      cases h
      exact .getLastRespStatus happ
    · cases h
  | select endStation selection =>
    simp only [serve] at h
    split at h
    · next happ =>
      cases h
      exact .select happ
    · cases h

end Console

abbrev Session := Client Console CommandCall CommandCall.Reply Fault Unit

namespace Session

abbrev Event := Client.Event CommandCall CommandCall.Reply System.Action Command

abbrev Step : Session → Event → Session → Prop :=
  Client.Step Console.Serve Console.Own Command.script

/-- The prompt, before the first command. -/
def new (mac : Mac) (notifyId : Ptr) (completionStatus respStatusForCmd : Int)
    (testMode : Bool) : Session :=
  ⟨.new (.new mac notifyId completionStatus respStatusForCmd) testMode, .done ()⟩

/-- A step without its reply. -/
inductive Move where
  | call
  | own (a : System.Action)
  | start (command : Command)

/-- The steps as a function of the move, with cleared buffers. -/
def exec (s : Session) : Move → Except Fault Session
  | .call =>
    match s.script with
    | .call call next => do
      let (r, server) ← s.server.serve ⟨List.replicate 86 0, .zero, 0⟩ [] call
      pure ⟨server, next r⟩
    | _ => throw .assertion
  | .own a =>
    if a.isCall then throw .assertion
    else do
      let system ← s.server.system.exec a
      pure ⟨{ s.server with system, selection := s.server.selectionBehind system }, s.script⟩
  | .start command =>
    match s.script with
    | .done _ => pure ⟨s.server, command.script⟩
    | _ => throw .assertion

/-- Fewer than 2^32 ids have been drawn when one is drawn. -/
def Counted (s : Session) : Event → Prop
  | .call .getNextNotificationId _ => s.server.notificationId < 2 ^ 32
  | _ => True

/-- No wait is left behind when a command starts. -/
def Clean (s : Session) : Event → Prop
  | .start _ => s.server.system.waitMgr.state = .waitIdle
  | _ => True

/-- The command that was started last. -/
def lastStarted (tr : List (Session × Event)) : Option Command :=
  (tr.filterMap fun p =>
    match p.2 with
    | .start command => some command
    | _ => none).getLast?

/-- The command that runs or ran last. Before the first one it is one that calls nothing. -/
def running (tr : List (Session × Event)) : Command := (lastStarted tr).getD .showSelect

/-- Each step meets a condition on the command that runs, the session and the event. -/
def AlongCommands (guard : Command → Session → Event → Prop) (tr : List (Session × Event)) :
    Prop :=
  ∀ tr₁ s e tr₂, tr = tr₁ ++ (s, e) :: tr₂ → guard (running tr₁) s e

/-- `show connections` sets its wait when none of its queries is queued or inflight any more. -/
def Alone (command : Command) (s : Session) : Event → Prop
  | .call (.setWaitForNextCmd id) _ =>
    command = .showConnections → s.server.system.controller.globals.held id = 0
  | _ => True

/-- The three conditions on a step, tested in front of it; that on the start only on demand. -/
def regular (clean : Bool) (s : Session) : Move → Bool
  | .call => s.server.notificationId < 2 ^ 32 &&
    match s.script with
    | .call (.setWaitForNextCmd id) _ => s.server.system.controller.globals.held id == 0
    | _ => true
  | .own _ => true
  | .start _ => !clean || s.server.system.waitMgr.state == .waitIdle

theorem exec_step {clean : Bool} {s s' : Session} {m : Move} (h : s.exec m = .ok s')
    (hm : s.regular clean m = true) :
    ∃ e, Step s e s' ∧
      (Counted s e ∧ (clean = true → Clean s e) ∧ ∀ command, Alone command s e) ∧
      ∀ command, e = .start command → m = .start command := by
  cases m with
  | call =>
    simp only [exec] at h
    split at h
    · next call next hc =>
      obtain ⟨⟨r, server⟩, hs, h⟩ := bind_eq_ok.1 h
      cases h
      obtain ⟨hlt, hheld⟩ := Bool.and_eq_true_iff.1 hm
      refine ⟨_, .call hc (Console.serve_serve hs), ⟨?_, fun _ => trivial, ?_⟩, nofun⟩
      · cases call with
        | getNextNotificationId =>
          have hlt : s.server.notificationId < 2 ^ 32 := of_decide_eq_true hlt
          exact hlt
        | _ => trivial
      · intro command
        cases call with
        | setWaitForNextCmd id =>
          rw [hc] at hheld
          exact fun _ => eq_of_beq hheld
        | _ => trivial
    · cases h
  | own a =>
    simp only [exec] at h
    split at h
    · cases h
    · next ha =>
      obtain ⟨system, hs, h⟩ := bind_eq_ok.1 h
      cases h
      exact ⟨_, .own (.step (Bool.eq_false_iff.2 ha) (System.exec_step hs)),
        ⟨trivial, fun _ => trivial, fun _ => trivial⟩, nofun⟩
  | start command =>
    simp only [exec] at h
    split at h
    · next a hc =>
      cases h
      refine ⟨_, .start hc, ⟨trivial, ?_, fun _ => trivial⟩, ?_⟩
      · rintro rfl
        exact eq_of_beq hm
      · rintro _ ⟨⟩
        rfl
    · cases h

theorem exists_run {clean : Bool} {s : Session} {P : Session → Bool} {moves : List Move}
    (h : trial exec (regular clean) P s moves = true) :
    ∃ tr s', Run Step s tr s' ∧ Along Counted tr ∧ (clean = true → Along Clean tr) ∧
      AlongCommands Alone tr ∧ P s' = true := by
  have hexec : ∀ s m t, exec s m = .ok t → Succeeds exec s m t := fun _ _ _ h => h
  obtain ⟨tr, s', hrun, hg, hP⟩ := exists_run_of_trial hexec h
  have hstep : ∀ s m t, Succeeds exec s m t → regular clean s m = true →
      ∃ e, Step s e t ∧ Counted s e ∧ (clean = true → Clean s e) ∧
        ∀ command, Alone command s e := by
    intro s m t hs hm
    obtain ⟨e, he, hregular, -⟩ := exec_step hs hm
    exact ⟨e, he, hregular⟩
  obtain ⟨tr', hrun', hg'⟩ := hrun.relabel hg hstep
  refine ⟨tr', s', hrun', fun p hp => (hg' p hp).1, fun hc p hp => (hg' p hp).2.1 hc, ?_, hP⟩
  rintro tr₁ s e tr₂ rfl
  exact (hg' (s, e) (List.mem_append_right _ List.mem_cons_self)).2.2 _

/-- The command has returned. -/
def hasEnded (s : Session) : Bool :=
  match s.script with
  | .done _ => true
  | _ => false

theorem script_of_hasEnded {s : Session} (h : s.hasEnded = true) : s.script = .done () := by
  rw [hasEnded] at h
  split at h
  · next ha => exact ha
  · cases h

end Session

end AvdeccLib
