import AvdeccLib.SessionWaits

namespace AvdeccLib
set_option autoImplicit true

open Runs Outcome Scripts

namespace WaitPhase

/-- The id of a command. -/
def Has (id : Ptr) : WaitPhase → Prop
  | idle => False
  | free i | used i | passing i | armed i | sent i => i = id

/-- The last call has sent. -/
def Sending : WaitPhase → Prop
  | passing _ | sent _ => True
  | idle | free _ | used _ | armed _ => False

end WaitPhase

theorem Command.Ends.not_sending {command : Command} {k : WaitPhase} (h : command.Ends k) :
    ¬ k.Sending := by
  rcases h with hready | ⟨-, id, rfl⟩
  · cases k with
    | passing id | sent id => exact absurd hready fun hready => hready
    | idle | free | used | armed => exact fun hk => hk
  · exact fun hk => hk

/-- The app thread is outside of the library when the last call of the command has not sent. -/
structure Console.Returned (c : Console) (k : WaitPhase) : Prop where
  consistent : System.Consistent c.system
  app : ¬ k.Sending → c.system.app = .outside

/-- A wait is set for an id that no command sends with any more. The app thread never waits. -/
structure Console.Stuck (m : CmdWaitMgr) (status : Int) (c : Console) (k : WaitPhase) :
    Prop where
  consistent : System.Consistent c.system
  waitMgr : c.system.waitMgr = m
  primed : m.state = .waitPrimed
  status : c.system.respStatusForCmd = status
  app : c.system.app = .outside ∨
    ∃ d, c.system.app = .written d ∧ d.notificationId ≠ m.notifyId
  other : ¬ k.Has m.notifyId

namespace Console
variable {m : CmdWaitMgr} {status : Int} {c c' : Console} {k : WaitPhase} {id : Ptr}
  {command : Command}

theorem app_of_serve {call : CommandCall} {r : call.Reply} (hs : c.Serve call r c') :
    c.system.app = .outside := by
  cases hs with
  | look happ => exact happ
  | getNextNotificationId happ => exact happ
  | setWaitForNextCmd hs =>
    cases hs with
    | setWaitForNextCmd happ => exact happ
  | send hq hs =>
    cases hs with
    | writePipe happ => exact happ
  | sendAcmp hs =>
    cases hs with
    | writePipe happ => exact happ
  | getLastRespStatus happ => exact happ
  | select happ => exact happ

theorem Returned.own {a : System.Action} (h : c.Returned k) (hs : c.Own a c') :
    c'.Returned k := by
  obtain ⟨ha, hs⟩ := hs
  refine ⟨System.consistent_step h.consistent hs, fun hk => ?_⟩
  have happ := h.app hk
  have hl := System.isLib_of_outside happ ha hs
  exact (System.step_libStep h.consistent.pipe hs hl).frame.app.trans happ

theorem Returned.call {call : CommandCall} {r : call.Reply} (h : c.Returned k)
    (ha : (waitProtocol command).allows k call) (hs : c.Serve call r c') :
    c'.Returned ((waitProtocol command).next k call r) := by
  have happ := app_of_serve hs
  cases hs with
  | look => exact ⟨h.consistent, fun _ => happ⟩
  | getNextNotificationId => exact ⟨h.consistent, fun _ => happ⟩
  | setWaitForNextCmd hs =>
    refine ⟨System.consistent_step h.consistent hs, fun _ => ?_⟩
    cases hs with
    | setWaitForNextCmd => exact happ
  | send hq hs => exact ⟨System.consistent_step h.consistent hs, fun hk => absurd trivial hk⟩
  | sendAcmp hs =>
    refine ⟨System.consistent_step h.consistent hs, fun hk => absurd ?_ hk⟩
    obtain ⟨rfl | rfl | rfl, -⟩ := ha <;> trivial
  | getLastRespStatus => exact ⟨h.consistent, fun _ => happ⟩
  | select => exact ⟨h.consistent, fun _ => happ⟩

theorem Stuck.restart (h : c.Stuck m status k) : c.Stuck m status .idle :=
  ⟨h.consistent, h.waitMgr, h.primed, h.status, h.app, id⟩

theorem Stuck.own {a : System.Action} (h : c.Stuck m status k) (hs : c.Own a c') :
    c'.Stuck m status k := by
  obtain ⟨ha, hs⟩ := hs
  have hcons := System.consistent_step h.consistent hs
  have hunwaited : ∀ pc, c.system.app = pc → pc = .outside ∨ ∃ d, pc = .written d ∧
      c.system.waits d = false := by
    rintro pc rfl
    refine h.app.imp_right fun ⟨d, hd, hne⟩ => ⟨d, hd, Bool.eq_false_iff.2 fun hw => ?_⟩
    have hid := (System.waits_iff.1 hw).2.1
    rw [h.waitMgr] at hid
    exact hne hid
  rcases System.unwaited_step hunwaited ha hs with hl | ⟨-, rfl⟩
  · cases System.step_libStep h.consistent.pipe hs hl with
    | quiet => exact ⟨hcons, h.waitMgr, h.primed, h.status, h.app, h.other⟩
    | release hactive =>
      rw [h.waitMgr, h.primed] at hactive
      cases hactive
  · exact ⟨hcons, h.waitMgr, h.primed, h.status, .inl rfl, h.other⟩

theorem Stuck.writePipe {d : TxData} {system : System} {k' : WaitPhase} (h : c.Stuck m status k)
    (hs : c.system.Step (.writePipe d) system) (hne : d.notificationId ≠ m.notifyId)
    (hother : ¬ k'.Has m.notifyId) : Stuck m status { c with system } k' := by
  have hcons := System.consistent_step h.consistent hs
  cases hs with
  | writePipe =>
    exact ⟨hcons, h.waitMgr, h.primed, h.status, .inr ⟨d, rfl, hne⟩, hother⟩

/-- The wait that is set keeps the next one from being set. -/
theorem Stuck.setWait {system : System} (h : c.Stuck m status k) (hne : id ≠ m.notifyId)
    (hs : c.system.Step (.setWaitForNextCmd id) system) :
    Stuck m status { c with system } (.armed id) := by
  have hcons := System.consistent_step h.consistent hs
  cases hs with
  | setWaitForNextCmd =>
    have hstate : c.system.waitMgr.state ≠ .waitIdle := by
      rw [h.waitMgr, h.primed]
      exact WaitState.noConfusion
    have hsame : c.system.waitMgr.setPrimedState id = (c.system.waitMgr, -1) := by
      rw [CmdWaitMgr.setPrimedState, if_pos hstate]
    refine ⟨hcons, ?_, h.primed, h.status, h.app, hne⟩
    simp only [hsame]
    exact h.waitMgr

theorem Stuck.phase {k' : WaitPhase} (h : c.Stuck m status k)
    (hother : ¬ k'.Has m.notifyId) : c.Stuck m status k' :=
  ⟨h.consistent, h.waitMgr, h.primed, h.status, h.app, hother⟩

theorem Stuck.call {call : CommandCall} {r : call.Reply} (h : c.Stuck m status k)
    (ha : (waitProtocol command).allows k call)
    (hdraw : ∀ id, (⟨call, r⟩ : (call : CommandCall) × call.Reply) =
      ⟨.getNextNotificationId, id⟩ →
      id ≠ m.notifyId)
    (hs : c.Serve call r c') : c'.Stuck m status ((waitProtocol command).next k call r) := by
  have hother := h.other
  cases hs with
  | look =>
    cases k with
    | passing id => exact h.phase hother
    | _ => exact h
  | getNextNotificationId =>
    exact ⟨h.consistent, h.waitMgr, h.primed, h.status, h.app, hdraw _ rfl⟩
  | setWaitForNextCmd hs =>
    rcases ha with rfl | ⟨-, rfl⟩
    · exact h.setWait hother hs
    · exact h.setWait hother hs
  | send hq hs =>
    obtain ⟨rfl, hproper⟩ := ha
    obtain rfl : _ = _ := (NotifiedCmd.carries hq hproper.fits).notificationId
    exact h.writePipe hs hother hother
  | sendAcmp hs =>
    obtain ⟨rfl | rfl | rfl, -⟩ := ha
    · exact h.writePipe hs hother hother
    · exact h.writePipe hs hother hother
    · exact h.writePipe hs hother hother
  | getLastRespStatus =>
    cases k with
    | sent id => exact h.phase hother
    | _ => exact h
  | select =>
    cases k <;> exact ⟨h.consistent, h.waitMgr, h.primed, h.status, h.app, hother⟩

theorem Returned.stuck (h : c.Returned k) (hk : ¬ k.Sending)
    (hleft : c.system.waitMgr.state ≠ .waitIdle) :
    c.Stuck c.system.waitMgr c.system.respStatusForCmd .idle := by
  have happ := h.app hk
  have hactive := h.consistent.agrees
  rw [System.Agrees, happ] at hactive
  refine ⟨h.consistent, rfl, ?_, rfl, .inl happ, fun hhas => hhas⟩
  cases hstate : c.system.waitMgr.state with
  | waitIdle => exact absurd hstate hleft
  | waitPrimed => rfl
  | waitActive => exact absurd hstate hactive

/-- The app thread waits, and the command that it waits for is gone. -/
structure Blocked (c : Console) : Prop where
  consistent : System.Consistent c.system
  app : c.system.app = .waiting
  waitingSem : c.system.waitingSem = 0
  ne_null : c.system.waitMgr.notifyId ≠ null
  gone : c.system.controller.globals.held c.system.waitMgr.notifyId = 0

theorem Blocked.lib {system : System} {selection : Nat → Selection} {a : System.Action}
    (h : c.Blocked) (ha : a.isLib = true) (hs : c.system.Step a system) :
    Blocked { c with system, selection } := by
  have hcons := System.consistent_step h.consistent hs
  have hl := System.step_libStep h.consistent.pipe hs ha
  have hheld := hl.frame.held _ h.ne_null
  rw [h.gone] at hheld
  have hgone := Nat.eq_zero_of_le_zero hheld
  cases hl with
  | quiet => exact ⟨hcons, h.app, h.waitingSem, h.ne_null, hgone⟩
  | release hactive hle hdone =>
    have hone : c.system.controller.globals.held c.system.waitMgr.notifyId ≤ 1 := by
      rw [h.gone]
      exact Nat.zero_le 1
    have hpos := (hdone h.ne_null hone).2.held
    rw [h.gone] at hpos
    cases hpos

theorem Blocked.own {a : System.Action} (h : c.Blocked) (hs : c.Own a c') :
    c'.Blocked ∧ c'.system.respStatusForCmd = c.system.respStatusForCmd := by
  obtain ⟨ha, hs⟩ := hs
  have hlib : ∀ {system}, a.isLib = true → c.system.Step a system →
      Blocked { c with system, selection := c.selectionBehind system } ∧
        system.respStatusForCmd = c.system.respStatusForCmd := by
    intro system hl hs
    refine ⟨h.lib hl hs, ?_⟩
    cases System.step_libStep h.consistent.pipe hs hl with
    | quiet => rfl
    | release => rfl
  cases hs with
  | setWaitForNextCmd => cases ha
  | writePipe => cases ha
  | testWait happ =>
    rw [h.app] at happ
    cases happ
  | setActive happ =>
    rw [h.app] at happ
    cases happ
  | semWait happ hsem =>
    rw [h.waitingSem] at hsem
    cases hsem
  | getStatus happ =>
    rw [h.app] at happ
    cases happ
  | setIdle happ =>
    rw [h.app] at happ
    cases happ
  | fnTx hs => exact hlib rfl (.fnTx hs)
  | fnNetif hs => exact hlib rfl (.fnNetif hs)
  | fnTimer hs => exact hlib rfl (.fnTimer hs)

end Console

namespace Session
variable {mac : Mac} {notifyId : Ptr} {completionStatus respStatusForCmd : Int}
  {testMode : Bool} {s₀ s : Session} {tr₀ tr : List (Session × Event)}

/-- Whatever is done, the app thread is outside of the library when a command has returned, and
what the calls show of its wait is so. -/
theorem returned_run
    (h : Run Step (.new mac notifyId completionStatus respStatusForCmd testMode) tr s) :
    ∃ k, (s.server.Returned k ∧ Tracks tr k) ∧ s.script.Follows (waitProtocol (running tr))
      (fun k _ => (running tr).Ends k) k := by
  have hguard : AlongCommands (fun _ _ _ => True) tr := fun _ _ _ _ _ => trivial
  have hnew : System.Consistent (.new mac notifyId completionStatus respStatusForCmd) :=
    System.consistent_new mac notifyId completionStatus respStatusForCmd
  refine follows_run (I := fun tr c k => c.Returned k ∧ Tracks tr k) ?_ ?_ ?_ h hguard rfl
    ⟨⟨hnew, fun _ => rfl⟩, tracks_idle rfl⟩
  · rintro tr s k call r c ⟨hk, htracks⟩ hallow - hs
    exact ⟨hk.call hallow hs, htracks.call hallow⟩
  · rintro tr s k a c ⟨hk, htracks⟩ hs
    exact ⟨hk.own hs, htracks.own⟩
  · rintro tr s k command ⟨hk, -⟩ hends -
    exact ⟨⟨hk.consistent, fun _ => hk.app (hends.not_sending)⟩, tracks_start⟩

/-- The id is not drawn. -/
def NotDrawn (id : Ptr) (_ : Session) : Event → Prop
  | .call .getNextNotificationId r => r ≠ id
  | _ => True

/-- While fewer than 2^32 ids are drawn, none is drawn twice. -/
theorem notDrawn_of_counted {id : Ptr} (h : Run Step s₀ tr s) (hids : Along Counted tr)
    (hid : id < s₀.server.notificationId) :
    Along (NotDrawn id) tr ∧ id < s.server.notificationId := by
  induction h with
  | nil => exact ⟨along_nil _, hid⟩
  | snoc hr hst ih =>
    obtain ⟨hids, hcounted⟩ := along_snoc.1 hids
    obtain ⟨hdraw, hlt⟩ := ih hids
    cases hst with
    | own hs =>
      cases hs with
      | step => exact ⟨along_snoc.2 ⟨hdraw, trivial⟩, hlt⟩
    | start => exact ⟨along_snoc.2 ⟨hdraw, trivial⟩, hlt⟩
    | call hc hs =>
      cases hs with
      | getNextNotificationId =>
        refine ⟨along_snoc.2 ⟨hdraw, ?_⟩, hlt.trans (Nat.lt_succ_self _)⟩
        rw [NotDrawn, Nat.mod_eq_of_lt hcounted]
        exact hlt.ne'
      | _ => exact ⟨along_snoc.2 ⟨hdraw, trivial⟩, hlt⟩

theorem stuck_run {m : CmdWaitMgr} {status : Int} (h : Run Step s₀ tr s)
    (hdraw : Along (NotDrawn m.notifyId) tr) (hk : s₀.server.Stuck m status .idle)
    (hdone : s₀.script = .done ()) : ∃ k, s.server.Stuck m status k := by
  have hrun := follows_run (I := fun _ c k => c.Stuck m status k) ?_ ?_ ?_ h
    (alongCommands_of_along hdraw) hdone hk
  · obtain ⟨k, hk, -⟩ := hrun
    exact ⟨k, hk⟩
  · intro tr s k call r c hk hallow hg hs
    apply hk.call hallow _ hs
    rintro id ⟨⟩
    exact hg
  · intro tr s k a c hk hs
    exact hk.own hs
  · intro tr s k command hk _ _
    exact hk.restart

/-- When a command has returned and its wait is still set, no command waits from there on until
the id of the wait is drawn again, whatever is sent and answered, and `get_last_resp_status` is
the same status all the time. -/
theorem abandoned_wait
    (h₀ : Run Step (.new mac notifyId completionStatus respStatusForCmd testMode) tr₀ s₀)
    (hdone : s₀.script = .done ()) (hleft : s₀.server.system.waitMgr.state ≠ .waitIdle)
    (h : Run Step s₀ tr s) (hdraw : Along (NotDrawn s₀.server.system.waitMgr.notifyId) tr) :
    s.server.system.waitMgr = s₀.server.system.waitMgr ∧
    s.server.system.respStatusForCmd = s₀.server.system.respStatusForCmd ∧
    (s.server.system.app = .outside ∨
      ∃ d, s.server.system.app = .written d ∧ s.server.system.waits d = false) := by
  obtain ⟨k, ⟨hk, -⟩, hf⟩ := returned_run h₀
  rw [hdone] at hf
  have hends : (running tr₀).Ends k := hf
  obtain ⟨k', hend⟩ := stuck_run h hdraw (hk.stuck hends.not_sending hleft) hdone
  refine ⟨hend.waitMgr, hend.status, ?_⟩
  rcases hend.app with happ | ⟨d, happ, hne⟩
  · exact .inl happ
  · refine .inr ⟨d, happ, ?_⟩
    rw [Bool.eq_false_iff]
    intro hw
    have hid := (System.waits_iff.1 hw).2.1
    rw [hend.waitMgr] at hid
    exact hne hid

/-- End station 3 is read. It has no CLOCK_DOMAIN, and the clock source of one is set. -/
def abandonMoves : List Move :=
  (System.readEntity ++ [
    System.readResponse 0 { descriptorType := .entity, descriptorIndex := 0, entityId := 3 },
    .fnTx 0,
    System.readResponse 1
      { descriptorType := .configuration, descriptorIndex := 0 }]).map .own ++
    [.start (.setClockSource 0 1), .call, .call, .call, .call]

/-- ENTITY_AVAILABLE is sent behind it and answered with success. -/
def behindMoves : List Move :=
  [.start .entityAvail, .call, .call, .call, .call, .call, .own .testWait, .own (.fnTx 0),
    .own (.fnNetif 0 0 (.aecp { System.entityAvailableCommand with
      destMac := 1, messageType := .aemResponse, sequenceId := 2 })), .call]

/-- The status is the one that was there before the session. -/
theorem abandoned_wait_answered :
    ∃ tr₀ s₀ tr s, Run Step (.new 1 0 0 7 false) tr₀ s₀ ∧ Run Step s₀ tr s ∧
      s.script = .done () ∧ s.server.system.controller.globals.held 2 = 0 ∧
      s.server.system.respStatusForCmd = 7 := by
  have htrial : trial exec (regular false)
      (fun s => s.hasEnded && s.server.system.waitMgr.state == .waitPrimed &&
        s.server.system.respStatusForCmd == 7 &&
        decide (s.server.system.waitMgr.notifyId < s.server.notificationId) &&
        trial exec (regular false)
          (fun s => s.hasEnded && s.server.system.controller.globals.held 2 == 0) s behindMoves)
      (.new 1 0 0 7 false) abandonMoves = true := by decide +kernel
  obtain ⟨tr₀, s₀, hrun₀, -, -, -, hs⟩ := exists_run htrial
  simp only [Bool.and_eq_true, beq_iff_eq, decide_eq_true_eq] at hs
  obtain ⟨⟨⟨⟨hended₀, hprimed⟩, hstatus⟩, hlt⟩, hs⟩ := hs
  obtain ⟨tr, s, hrun, hids, -, -, hs⟩ := exists_run hs
  rw [Bool.and_eq_true, beq_iff_eq] at hs
  have hleft : s₀.server.system.waitMgr.state ≠ .waitIdle := by
    rw [hprimed]
    exact WaitState.noConfusion
  have hdraw := (notDrawn_of_counted hrun hids hlt).1
  have habandoned := abandoned_wait hrun₀ (script_of_hasEnded hended₀) hleft hrun hdraw
  exact ⟨tr₀, s₀, tr, s, hrun₀, hrun, script_of_hasEnded hs.1, hs.2,
    habandoned.2.1.trans hstatus⟩

/-- A command that returns when it has set its wait and sent nothing behind it is one of
three. -/
theorem wait_left_by
    (h : Run Step (.new mac notifyId completionStatus respStatusForCmd testMode) tr s)
    (hdone : s.script = .done ()) (hopen : waitOpen tr = true) :
    ∃ command, lastStarted tr = some command ∧ command.MayLeaveWait := by
  obtain ⟨k, ⟨-, htracks⟩, hf⟩ := returned_run h
  rw [hdone] at hf
  obtain ⟨id, rfl⟩ := htracks.1 hopen
  have hends : (running tr).Ends (.armed id) := hf
  obtain ⟨hmay, -⟩ := hends.resolve_left fun hready => hready
  rw [running] at hmay
  cases hlast : lastStarted tr with
  | none =>
    rw [hlast] at hmay
    cases hmay
  | some command =>
    rw [hlast] at hmay
    exact ⟨command, rfl, hmay⟩

theorem wait_left_by_setClockSource :
    ∃ (tr : List (Session × Event)) (s : Session), Run Step (.new 1 0 0 7 false) tr s ∧
      s.script = .done () ∧ waitOpen tr = true ∧
      ∃ command, lastStarted tr = some command ∧ command.MayLeaveWait := by
  have htrial : trial exec (regular true)
      (fun s => s.hasEnded && s.server.system.waitMgr.state == .waitPrimed)
      (.new 1 0 0 7 false) abandonMoves = true := by decide +kernel
  obtain ⟨tr, s, hrun, hids, hclean, halone, hs⟩ := exists_run htrial
  rw [Bool.and_eq_true, beq_iff_eq] at hs
  have hdone := script_of_hasEnded hs.1
  obtain ⟨k, ⟨hk, htracks⟩, hf⟩ := kept_run hrun hids (hclean rfl) halone
  rw [hdone] at hf
  have hopen : waitOpen tr = true := by
    rw [← Bool.not_eq_false]
    intro hclosed
    have hidle := (htracks.idle_iff hk hf).2 hclosed
    rw [hs.2] at hidle
    cases hidle
  exact ⟨tr, s, hrun, hdone, hopen, wait_left_by hrun hdone hopen⟩

/-- When the app thread waits for a command that the library has finished with already, it waits
for the rest of the session, whatever is received and however much time passes. -/
theorem blocked_wait
    (h₀ : Run Step (.new mac notifyId completionStatus respStatusForCmd testMode) tr₀ s₀)
    (happ : s₀.server.system.app = .waiting) (hsem : s₀.server.system.waitingSem = 0)
    (hne : s₀.server.system.waitMgr.notifyId ≠ null)
    (hgone : s₀.server.system.controller.globals.held s₀.server.system.waitMgr.notifyId = 0)
    (h : Run Step s₀ tr s) :
    s.server.system.app = .waiting ∧ s.server.system.waitingSem = 0 ∧ s.script = s₀.script ∧
    s.server.system.respStatusForCmd = s₀.server.system.respStatusForCmd := by
  obtain ⟨k, ⟨hk, -⟩, hf⟩ := returned_run h₀
  have hrunning : ∀ a, s₀.script ≠ .done a := by
    intro a ha
    rw [ha] at hf
    have hends : (running tr₀).Ends k := hf
    have houtside := hk.app hends.not_sending
    rw [happ] at houtside
    cases houtside
  have hblocked : s.server.Blocked ∧ s.script = s₀.script ∧
      s.server.system.respStatusForCmd = s₀.server.system.respStatusForCmd := by
    apply h.invariant (I := fun s : Session => s.server.Blocked ∧ s.script = s₀.script ∧
      s.server.system.respStatusForCmd = s₀.server.system.respStatusForCmd)
      ⟨⟨hk.consistent, happ, hsem, hne, hgone⟩, rfl, rfl⟩
    rintro s e s' ⟨hb, hscript, hstatus⟩ hst
    cases hst with
    | call hc hs =>
      have houtside := Console.app_of_serve hs
      rw [hb.app] at houtside
      cases houtside
    | own hs =>
      obtain ⟨hb', hstatus'⟩ := hb.own hs
      exact ⟨hb', hscript, hstatus'.trans hstatus⟩
    | start hc => exact absurd (hscript.symm.trans hc) (hrunning _)
  exact ⟨hblocked.1.app, hblocked.1.waitingSem, hblocked.2⟩

/-- The response comes in while the app thread is in front of `set_active_state`. -/
theorem blocked_wait_answered :
    ∃ (tr₀ tr : List (Session × Event)) (s₀ s : Session),
      Run Step (.new 1 0 0 7 false) tr₀ s₀ ∧ Run Step s₀ tr s ∧
      s₀.server.system.app = .waiting ∧ s.server.system.app = .waiting ∧
      s.server.system.waitingSem = 0 ∧ s.server.system.respStatusForCmd = 7 := by
  have htrial : trial exec (regular false)
      (fun s => s.server.system.app == .waiting && s.server.system.waitingSem == 0 &&
        s.server.system.waitMgr.notifyId != null &&
        s.server.system.controller.globals.held s.server.system.waitMgr.notifyId == 0 &&
        s.server.system.respStatusForCmd == 7 &&
        trial exec (regular false) (fun _ => true) s
          [.own (.fnTimer 1000), .own (.fnNetif 0 0 System.entityAvailableResponse)])
      (.new 1 0 0 7 false)
      (System.readEntity.map .own ++ [.start .entityAvail, .call, .call, .call, .call, .call,
        .own (.fnTx 0), .own (.fnNetif 0 0 System.entityAvailableResponse), .own .testWait,
        .own .setActive]) = true := by decide +kernel
  obtain ⟨tr₀, s₀, hrun₀, -, -, -, hs⟩ := exists_run htrial
  simp only [Bool.and_eq_true, beq_iff_eq, bne_iff_ne] at hs
  obtain ⟨⟨⟨⟨⟨happ, hsem⟩, hne⟩, hgone⟩, hstatus⟩, hs⟩ := hs
  obtain ⟨tr, s, hrun, -, -, -, -⟩ := exists_run hs
  obtain ⟨happ', hsem', -, hstatus'⟩ := blocked_wait hrun₀ happ hsem hne hgone hrun
  exact ⟨tr₀, tr, s₀, s, hrun₀, hrun, happ, happ', hsem', hstatus'.trans hstatus⟩

end Session
end AvdeccLib
