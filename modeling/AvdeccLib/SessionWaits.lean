import AvdeccLib.CommandSession
import AvdeccLib.WaitProtocol

namespace AvdeccLib
set_option autoImplicit true

open Runs Outcome Scripts

namespace System
variable {id : Ptr} {s s' : System} {a : Action}

/-- In the call that sends the command with the id, by where the app thread is, and behind
it. -/
def InWait (id : Ptr) (s : System) : AppPc → Prop
  | .outside => s.waitMgr.state = .waitIdle ∧ s.controller.globals.held id = 0
  | .written d => s.waits d = true ∧ d.notificationId = id
  | .tested | .waiting | .woken | .gotStatus => s.waitMgr.notifyId = id

theorem InWait.frame {pc : AppPc} (h : InWait id s pc) (hne : id ≠ null) (hf : LibFrame s s') :
    InWait id s' pc := by
  cases pc with
  | outside =>
    refine ⟨hf.state.trans h.1, ?_⟩
    have hle := hf.held id hne
    rw [h.2] at hle
    exact Nat.eq_zero_of_le_zero hle
  | written d =>
    rw [InWait, hf.waits]
    exact h
  | tested => exact hf.notifyId.trans h
  | waiting => exact hf.notifyId.trans h
  | woken => exact hf.notifyId.trans h
  | gotStatus => exact hf.notifyId.trans h

theorem unwaited_step (happ : ∀ pc, s.app = pc → pc = .outside ∨ ∃ d, pc = .written d ∧
      s.waits d = false) (ha : a.isCall = false) (hs : Step s a s') :
    a.isLib = true ∨ (∃ d, s.app = .written d) ∧ s' = { s with app := .outside } := by
  have hnot : ∀ pc, s.app = pc → pc ≠ .outside → ∃ d, pc = .written d ∧ s.waits d = false :=
    fun pc hpc hne => (happ pc hpc).resolve_left hne
  cases hs with
  | setWaitForNextCmd => cases ha
  | writePipe => cases ha
  | testWait h =>
    obtain ⟨d, hd, hwaits⟩ := hnot _ h AppPc.noConfusion
    cases hd
    refine .inr ⟨⟨_, h⟩, ?_⟩
    simp only [hwaits, Bool.false_eq_true, if_false]
  | setActive h =>
    obtain ⟨d, hd, -⟩ := hnot _ h AppPc.noConfusion
    cases hd
  | semWait h =>
    obtain ⟨d, hd, -⟩ := hnot _ h AppPc.noConfusion
    cases hd
  | getStatus h =>
    obtain ⟨d, hd, -⟩ := hnot _ h AppPc.noConfusion
    cases hd
  | setIdle h =>
    obtain ⟨d, hd, -⟩ := hnot _ h AppPc.noConfusion
    cases hd
  | fnTx => exact .inl rfl
  | fnNetif => exact .inl rfl
  | fnTimer => exact .inl rfl

theorem isLib_of_outside (happ : s.app = .outside) (ha : a.isCall = false) (hs : Step s a s') :
    a.isLib = true := by
  rcases unwaited_step (fun pc hpc => .inl (hpc.symm.trans happ)) ha hs with hl | ⟨⟨d, hd⟩, -⟩
  · exact hl
  · rw [happ] at hd
    cases hd

theorem inWait_step (hc : Consistent s) (hserved : Served s s.app) (hne : id ≠ null)
    (h : InWait id s s.app) (ha : a.isCall = false) (hs : Step s a s') :
    InWait id s' s'.app := by
  have hlib : a.isLib = true → InWait id s' s'.app := by
    intro hl
    have hf := (step_libStep hc.pipe hs hl).frame
    rw [hf.app]
    exact h.frame hne hf
  have hagrees := hc.agrees
  rw [Agrees] at hagrees
  cases hs with
  | setWaitForNextCmd => cases ha
  | writePipe => cases ha
  | testWait happ =>
    rw [happ] at h
    obtain ⟨hw, hid⟩ := h
    simp only [hw, if_true]
    exact (waits_iff.1 hw).2.1.symm.trans hid
  | setActive happ =>
    rw [happ] at h hagrees
    simp only [asserting, setActiveState_eq hagrees]
    exact h
  | semWait happ =>
    rw [happ] at h
    exact h
  | getStatus happ =>
    rw [happ] at h
    exact h
  | setIdle happ =>
    rw [happ] at h hagrees hserved
    have hid : s.waitMgr.notifyId = id := h
    simp only [asserting, setIdleState_eq hagrees]
    refine ⟨rfl, ?_⟩
    rw [← hid]
    exact hserved.2.2
  | fnTx => exact hlib rfl
  | fnNetif => exact hlib rfl
  | fnTimer => exact hlib rfl

/-- The asserts on the wait manager hold in every run. -/
theorem asserts_step (hc : Consistent s) (h : s.assertFailed = false) (hs : Step s a s') :
    s'.assertFailed = false := by
  have hlib : LibStep s a s' → s'.assertFailed = false := by
    intro hl
    cases hl with
    | quiet => exact h
    | release => exact h
  have hagrees := hc.agrees
  rw [Agrees] at hagrees
  cases hs with
  | setWaitForNextCmd => exact h
  | writePipe => exact h
  | testWait => exact h
  | setActive happ =>
    rw [happ] at hagrees
    simp only [asserting, setActiveState_eq hagrees, h]
    rfl
  | semWait => exact h
  | getStatus => exact h
  | setIdle happ =>
    rw [happ] at hagrees
    simp only [asserting, setIdleState_eq hagrees, h]
    rfl
  | fnTx hs => exact hlib (step_libStep hc.pipe (.fnTx hs) rfl)
  | fnNetif hs => exact hlib (step_libStep hc.pipe (.fnNetif hs) rfl)
  | fnTimer hs => exact hlib (step_libStep hc.pipe (.fnTimer hs) rfl)

end System

/-- The id is not null and in front of the one that is drawn next. -/
structure Drawn (notificationId : Nat) (id : Ptr) : Prop where
  ne_null : id ≠ null
  drawn : id < notificationId

/-- The id was drawn, and no command has it. -/
structure Console.Unused (c : Console) (id : Ptr) : Prop extends Drawn c.notificationId id where
  held : c.system.controller.globals.held id = 0

/-- Where the app thread and the wait manager are, by the phase of the command. -/
def Console.InPhase (c : Console) : WaitPhase → Prop
  | .idle => c.system.app = .outside ∧ c.system.waitMgr.state = .waitIdle
  | .free id => c.system.app = .outside ∧ c.system.waitMgr.state = .waitIdle ∧ c.Unused id
  | .used id => c.system.app = .outside ∧ c.system.waitMgr.state = .waitIdle ∧
      Drawn c.notificationId id
  | .passing id => (c.system.app = .outside ∨ ∃ d, c.system.app = .written d) ∧
      c.system.waitMgr.state = .waitIdle ∧ Drawn c.notificationId id
  | .armed id => c.system.app = .outside ∧ c.system.waitMgr.state = .waitPrimed ∧
      c.system.waitMgr.notifyId = id ∧ c.Unused id
  | .sent id => Drawn c.notificationId id ∧ c.system.InWait id c.system.app

/-- What the calls of the commands and the steps of the library keep, as long as no command
leaves its wait behind. -/
structure Console.Kept (c : Console) (k : WaitPhase) : Prop where
  consistent : System.Consistent c.system
  served : System.Served c.system c.system.app
  positive : 0 < c.notificationId
  drawn : ∀ id, id ≠ null → 0 < c.system.controller.globals.held id → id < c.notificationId
  phase : c.InPhase k

namespace Console
variable {c c' : Console} {k : WaitPhase} {id : Ptr}

theorem Unused.frame {system : System} {selection : Nat → Selection} (h : c.Unused id)
    (hf : System.LibFrame c.system system) : Unused { c with system, selection } id := by
  refine ⟨⟨h.ne_null, h.drawn⟩, ?_⟩
  have hle := hf.held id h.ne_null
  rw [h.held] at hle
  exact Nat.eq_zero_of_le_zero hle

theorem not_waits (hidle : c.system.waitMgr.state = .waitIdle) (d : TxData) :
    c.system.waits d = false := by
  rw [Bool.eq_false_iff]
  intro hw
  have hprimed := (System.waits_iff.1 hw).1
  rw [hidle] at hprimed
  cases hprimed

theorem InPhase.own {system : System} {selection : Nat → Selection} {a : System.Action}
    (hc : System.Consistent c.system) (hserved : System.Served c.system c.system.app)
    (h : c.InPhase k) (ha : a.isCall = false) (hs : c.system.Step a system) :
    InPhase { c with system, selection } k := by
  have hframe : c.system.app = .outside → System.LibFrame c.system system := fun happ =>
    (System.step_libStep hc.pipe hs (System.isLib_of_outside happ ha hs)).frame
  cases k with
  | idle =>
    have hf := hframe h.1
    exact ⟨hf.app.trans h.1, hf.state.trans h.2⟩
  | free id =>
    have hf := hframe h.1
    exact ⟨hf.app.trans h.1, hf.state.trans h.2.1, h.2.2.frame hf⟩
  | used id =>
    have hf := hframe h.1
    exact ⟨hf.app.trans h.1, hf.state.trans h.2.1, h.2.2⟩
  | passing id =>
    obtain ⟨happ, hidle, hdrawn⟩ := h
    have hunwaited : ∀ pc, c.system.app = pc → pc = .outside ∨ ∃ d, pc = .written d ∧
        c.system.waits d = false := by
      rintro pc rfl
      exact happ.imp_right fun ⟨d, hd⟩ => ⟨d, hd, not_waits hidle d⟩
    rcases System.unwaited_step hunwaited ha hs with hl | ⟨-, rfl⟩
    · have hf := (System.step_libStep hc.pipe hs hl).frame
      refine ⟨?_, hf.state.trans hidle, hdrawn⟩
      dsimp only
      rw [hf.app]
      exact happ
    · exact ⟨.inl rfl, hidle, hdrawn⟩
  | armed id =>
    have hf := hframe h.1
    exact ⟨hf.app.trans h.1, hf.state.trans h.2.1, hf.notifyId.trans h.2.2.1, h.2.2.2.frame hf⟩
  | sent id => exact ⟨h.1, System.inWait_step hc hserved h.1.ne_null h.2 ha hs⟩

theorem held_le_of_own {s s' : System} {a : System.Action} (hc : System.Consistent s)
    (ha : a.isCall = false) (hs : s.Step a s') (hne : id ≠ null) :
    s'.controller.globals.held id ≤ s.controller.globals.held id := by
  by_cases hl : a.isLib = true
  · exact (System.step_libStep hc.pipe hs hl).frame.held id hne
  · cases hs with
    | setWaitForNextCmd => cases ha
    | writePipe => cases ha
    | testWait => exact le_rfl
    | setActive => exact le_rfl
    | semWait => exact le_rfl
    | getStatus => exact le_rfl
    | setIdle => exact le_rfl
    | fnTx => exact absurd rfl hl
    | fnNetif => exact absurd rfl hl
    | fnTimer => exact absurd rfl hl

theorem Kept.own {a : System.Action} (h : c.Kept k) (hs : c.Own a c') : c'.Kept k := by
  cases hs with
  | step ha hs =>
    refine ⟨System.consistent_step h.consistent hs, ?_, h.positive, ?_,
      h.phase.own h.consistent h.served ha hs⟩
    · exact System.served_step h.consistent h.served (System.arming_of_lib ha) hs
    · intro id hne hpos
      exact h.drawn id hne (hpos.trans_le (held_le_of_own h.consistent ha hs hne))

theorem Kept.write {d : TxData} {system : System} {k' : WaitPhase} (h : c.Kept k)
    (hdrawn : Drawn c.notificationId d.notificationId)
    (harming : System.Arming c.system (.writePipe d))
    (hs : c.system.Step (.writePipe d) system) (hphase : InPhase { c with system } k') :
    Kept { c with system } k' := by
  refine ⟨System.consistent_step h.consistent hs,
    System.served_step h.consistent h.served harming hs, h.positive, ?_, hphase⟩
  cases hs with
  | writePipe happ hd =>
    intro id hne hpos
    change 0 < (c.system.controller.systemQueueTx [d]).globals.held id at hpos
    rw [Controller.held_writePipe] at hpos
    by_cases hid : d.notificationId = id
    · rw [← hid]
      exact hdrawn.drawn
    · rw [same_of_ne hid] at hpos
      exact h.drawn id hne hpos

theorem Kept.writePipe {d : TxData} {system : System} (h : c.Kept (.armed d.notificationId))
    (hflag : d.notificationFlag = .cmdWithNotification)
    (hs : c.system.Step (.writePipe d) system) :
    Kept { c with system } (.sent d.notificationId) := by
  obtain ⟨-, hstate, hid, hunused⟩ := h.phase
  apply h.write hunused.toDrawn (fun _ => ⟨hunused.ne_null, hunused.held⟩) hs
  cases hs with
  | writePipe happ hd =>
    exact ⟨⟨hunused.ne_null, hunused.drawn⟩, System.waits_iff.2 ⟨hstate, hid.symm, hflag⟩, rfl⟩

theorem Kept.setWait {system : System} (h : c.Kept k) (happ : c.system.app = .outside)
    (hstate : c.system.waitMgr.state = .waitIdle) (hunused : c.Unused id)
    (hs : c.system.Step (.setWaitForNextCmd id) system) :
    Kept { c with system } (.armed id) := by
  have harming : System.Arming c.system (.setWaitForNextCmd id) := .inl hstate
  have hserved := System.served_step h.consistent h.served harming hs
  have hcons := System.consistent_step h.consistent hs
  cases hs with
  | setWaitForNextCmd =>
    have hprimed : c.system.waitMgr.setPrimedState id =
        ({ c.system.waitMgr with notifyId := id, state := .waitPrimed }, 0) := by
      rw [CmdWaitMgr.setPrimedState, if_neg (not_not.2 hstate)]
    refine ⟨hcons, hserved, h.positive, h.drawn, happ, ?_, ?_,
      ⟨⟨hunused.ne_null, hunused.drawn⟩, hunused.held⟩⟩
    · simp only [hprimed]
    · simp only [hprimed]

theorem Kept.app (h : c.Kept k) (hk : k.Ready) :
    c.system.app = .outside ∧ c.system.waitMgr.state = .waitIdle := by
  cases k with
  | idle => exact h.phase
  | free id => exact ⟨h.phase.1, h.phase.2.1⟩
  | used id => exact ⟨h.phase.1, h.phase.2.1⟩
  | passing id => cases hk
  | armed id => cases hk
  | sent id => cases hk

theorem Kept.drawn_of_asks (h : c.Kept k) (hk : k.Asks id) : Drawn c.notificationId id := by
  rcases hk with rfl | rfl
  · exact h.phase.2.2.toDrawn
  · exact h.phase.2.2

theorem Kept.query {d : TxData} {system : System} (h : c.Kept k) (hk : k.Asks d.notificationId)
    (hs : c.system.Step (.writePipe d) system) :
    Kept { c with system } (.passing d.notificationId) := by
  have hdrawn := h.drawn_of_asks hk
  obtain ⟨-, hidle⟩ := h.app hk.ready
  apply h.write hdrawn _ hs
  · cases hs with
    | writePipe happ hd => exact ⟨.inr ⟨d, rfl⟩, hidle, hdrawn.ne_null, hdrawn.drawn⟩
  · intro hw
    rw [not_waits hidle] at hw
    cases hw

/-- An id that is drawn while fewer than 2^32 were is new. -/
theorem Kept.draw (h : c.Kept k) (hk : k.Ready) (hlt : c.notificationId < 2 ^ 32) :
    Kept { c with notificationId := c.notificationId + 1 }
      (.free (c.notificationId % 2 ^ 32)) := by
  obtain ⟨happ, hstate⟩ := h.app hk
  have hdrawn : ∀ id, id ≠ null → 0 < c.system.controller.globals.held id →
      id < c.notificationId + 1 :=
    fun id hne hpos => (h.drawn id hne hpos).trans (Nat.lt_succ_self _)
  refine ⟨h.consistent, h.served, Nat.succ_pos _, hdrawn, happ, hstate, ?_⟩
  rw [Nat.mod_eq_of_lt hlt]
  have hne : c.notificationId ≠ null := h.positive.ne'
  refine ⟨⟨hne, Nat.lt_succ_self _⟩, Nat.eq_zero_of_not_pos ?_⟩
  intro hpos
  exact absurd (h.drawn _ hne hpos) (Nat.lt_irrefl _)

theorem Kept.select (h : c.Kept k) (endStation : BitVec 32) (selection : Nat → Selection) :
    Kept { c with currentEndStation := endStation, selection } k := by
  refine ⟨h.consistent, h.served, h.positive, h.drawn, ?_⟩
  have hp := h.phase
  cases k with
  | idle => exact hp
  | free id => exact ⟨hp.1, hp.2.1, ⟨hp.2.2.1.1, hp.2.2.1.2⟩, hp.2.2.2⟩
  | used id => exact ⟨hp.1, hp.2.1, hp.2.2.1, hp.2.2.2⟩
  | passing id => exact ⟨hp.1, hp.2.1, hp.2.2.1, hp.2.2.2⟩
  | armed id => exact ⟨hp.1, hp.2.1, hp.2.2.1, ⟨hp.2.2.2.1.1, hp.2.2.2.1.2⟩, hp.2.2.2.2⟩
  | sent id => exact ⟨⟨hp.1.1, hp.1.2⟩, hp.2⟩

/-- Behind the call that sent, the command is gone. -/
theorem Kept.returned (h : c.Kept (.sent id)) (happ : c.system.app = .outside) :
    c.Kept (.free id) := by
  obtain ⟨hdrawn, hwait⟩ := h.phase
  rw [happ] at hwait
  exact ⟨h.consistent, h.served, h.positive, h.drawn, happ, hwait.1, hdrawn, hwait.2⟩

theorem Kept.passed (h : c.Kept (.passing id)) (happ : c.system.app = .outside) :
    c.Kept (.used id) :=
  ⟨h.consistent, h.served, h.positive, h.drawn, happ, h.phase.2⟩

theorem Kept.call {call : CommandCall} {r : call.Reply} {command : Command} (h : c.Kept k)
    (ha : (waitProtocol command).allows k call)
    (hcount : call = .getNextNotificationId → c.notificationId < 2 ^ 32)
    (halone : ∀ id, call = .setWaitForNextCmd id → command = .showConnections →
      c.system.controller.globals.held id = 0)
    (hs : c.Serve call r c') : c'.Kept ((waitProtocol command).next k call r) := by
  cases hs with
  | look happ =>
    cases k with
    | passing id => exact h.passed happ
    | _ => exact h
  | getNextNotificationId => exact h.draw ha (hcount rfl)
  | @setWaitForNextCmd id system hs =>
    rcases ha with rfl | ⟨hshow, rfl⟩
    · exact h.setWait h.phase.1 h.phase.2.1 h.phase.2.2 hs
    · exact h.setWait h.phase.1 h.phase.2.1 ⟨h.phase.2.2, halone id rfl hshow⟩ hs
  | send hq hs =>
    obtain ⟨rfl, hproper⟩ := ha
    have hcarries := NotifiedCmd.carries hq hproper.fits
    obtain rfl : _ = _ := hcarries.notificationId
    exact h.writePipe (hcarries.notificationFlag.trans hproper.flag) hs
  | sendAcmp hs =>
    obtain ⟨rfl | hk, hproper⟩ := ha
    · exact h.writePipe hproper.flag hs
    · rcases hk with rfl | rfl
      · exact h.query (.inl rfl) hs
      · exact h.query (.inr rfl) hs
  | getLastRespStatus happ =>
    cases k with
    | sent id => exact h.returned happ
    | _ => exact h
  | select happ => cases k <;> exact h.select _ _

theorem kept_new (mac : Mac) (notifyId : Ptr) (completionStatus respStatusForCmd : Int)
    (testMode : Bool) :
    Kept (.new (.new mac notifyId completionStatus respStatusForCmd) testMode) .idle := by
  refine ⟨System.consistent_new _ _ _ _, rfl, Nat.zero_lt_one, ?_, rfl, rfl⟩
  intro id hne hpos
  cases hpos

end Console

namespace Session
variable {mac : Mac} {notifyId : Ptr} {completionStatus respStatusForCmd : Int}
  {testMode : Bool} {s s' : Session} {tr : List (Session × Event)}

/-- The event sends a command with the id. -/
def Sends (id : Ptr) : Event → Prop
  | .call (.send _ _ id') _ => id' = id
  | .call (.sendAcmp tx) _ => tx.notificationId = id
  | _ => False

/-- The steps of the library in a session. -/
def libTrace (tr : List (Session × Event)) : List (System × System.Action) :=
  tr.filterMap fun p =>
    match p.2 with
    | .own a => some (p.1.server.system, a)
    | _ => none

def OwnSteps (tr : List (Session × Event)) : Prop := ∀ p ∈ tr, ∃ a, p.2 = .own a

theorem lastStarted_call {call : CommandCall} {r : call.Reply} :
    lastStarted (tr ++ [(s, .call call r)]) = lastStarted tr := by
  rw [lastStarted, List.filterMap_append, List.filterMap_cons_none rfl, List.filterMap_nil,
    List.append_nil]
  rfl

theorem lastStarted_own {a : System.Action} :
    lastStarted (tr ++ [(s, .own a)]) = lastStarted tr := by
  rw [lastStarted, List.filterMap_append, List.filterMap_cons_none rfl, List.filterMap_nil,
    List.append_nil]
  rfl

theorem lastStarted_start {command : Command} :
    lastStarted (tr ++ [(s, .start command)]) = some command := by
  rw [lastStarted, List.filterMap_append]
  exact List.getLast?_concat

theorem AlongCommands.left {guard : Command → Session → Event → Prop}
    {tr' : List (Session × Event)} (h : AlongCommands guard (tr ++ tr')) :
    AlongCommands guard tr := by
  rintro tr₁ s e tr₂ rfl
  apply h tr₁ s e (tr₂ ++ tr')
  rw [List.append_assoc, List.cons_append]

theorem AlongCommands.last {guard : Command → Session → Event → Prop} {e : Event}
    (h : AlongCommands guard (tr ++ [(s, e)])) : guard (running tr) s e := h tr s e [] rfl

theorem alongCommands_of_along {guard : Session → Event → Prop} (h : Along guard tr) :
    AlongCommands (fun _ => guard) tr := by
  rintro tr₁ s e tr₂ rfl
  exact h (s, e) (List.mem_append_right _ List.mem_cons_self)

/-- A relation between what happened, the server and the phase of the command that runs, along a
session that goes on behind a command. -/
theorem follows_run {I : List (Session × Event) → Console → WaitPhase → Prop}
    {guard : Command → Session → Event → Prop} {s₀ : Session}
    (hcall : ∀ tr (s : Session) k call (r : call.Reply) c, I tr s.server k →
      (waitProtocol (running tr)).allows k call → guard (running tr) s (.call call r) →
      s.server.Serve call r c →
      I (tr ++ [(s, .call call r)]) c ((waitProtocol (running tr)).next k call r))
    (hown : ∀ tr (s : Session) k a c, I tr s.server k → s.server.Own a c →
      I (tr ++ [(s, .own a)]) c k)
    (hstart : ∀ tr (s : Session) k command, I tr s.server k → (running tr).Ends k →
      guard (running tr) s (.start command) → I (tr ++ [(s, .start command)]) s.server .idle)
    (h : Run Step s₀ tr s) (hg : AlongCommands guard tr) (hdone : s₀.script = .done ())
    (hI : I [] s₀.server .idle) :
    ∃ k, I tr s.server k ∧ s.script.Follows (waitProtocol (running tr))
      (fun k _ => (running tr).Ends k) k := by
  let R : List (Session × Event) → Console → Command × WaitPhase → Prop := fun tr c k =>
    AlongCommands guard tr → I tr c k.2 ∧ running tr = k.1
  have hscript : ∀ command : Command, command.script.Follows (.tagged waitProtocol)
      (fun k _ => k.1.Ends k.2) (command, .idle) :=
    fun command => Script.follows_tagged.2 command.follows
  have hfirst : s₀.script.Follows (.tagged waitProtocol) (fun k _ => k.1.Ends k.2)
      (.showSelect, .idle) := by
    rw [hdone]
    exact .inl trivial
  have htrue : Along (fun _ _ => True) tr := fun _ _ => trivial
  have hrun := Client.follows_run (R := R) (k := (.showSelect, .idle)) hscript ?_ ?_ ?_ h htrue
    (fun _ => ⟨hI, rfl⟩) hfirst
  · obtain ⟨⟨command, k⟩, hR, hf⟩ := hrun
    obtain ⟨hk, hlast⟩ := hR hg
    refine ⟨k, hk, ?_⟩
    rw [hlast]
    exact Script.follows_tagged.1 hf
  · rintro tr s ⟨command, k⟩ call r c hR hallow - hs
    refine ⟨trivial, fun hg => ?_⟩
    obtain ⟨hk, rfl⟩ := hR hg.left
    refine ⟨hcall tr s k call r c hk hallow hg.last hs, ?_⟩
    rw [running, lastStarted_call]
    rfl
  · rintro tr s ⟨command, k⟩ a c hR hf - hs
    refine ⟨(command, k), fun hg => ?_, hf⟩
    obtain ⟨hk, rfl⟩ := hR hg.left
    refine ⟨hown tr s k a c hk hs, ?_⟩
    rw [running, lastStarted_own]
    rfl
  · rintro tr s ⟨command, k⟩ a command' hR - hends - hg
    obtain ⟨hk, rfl⟩ := hR hg.left
    refine ⟨hstart tr s k command' hk hends hg.last, ?_⟩
    rw [running, lastStarted_start]
    rfl

/-- The command that runs has set the wait and has sent nothing behind it. -/
def waitOpen (tr : List (Session × Event)) : Bool :=
  tr.foldl (fun isOpen p =>
    match p.2 with
    | .call (.setWaitForNextCmd _) _ => true
    | .call (.send _ _ _) _ | .call (.sendAcmp _) _ | .start _ => false
    | _ => isOpen) false

/-- Between the wait and the send the wait is open. -/
def Tracks (tr : List (Session × Event)) (k : WaitPhase) : Prop :=
  waitOpen tr = true ↔ ∃ id, k = .armed id

theorem waitOpen_snoc {e : Event} : waitOpen (tr ++ [(s, e)]) = match e with
    | .call (.setWaitForNextCmd _) _ => true
    | .call (.send _ _ _) _ | .call (.sendAcmp _) _ | .start _ => false
    | _ => waitOpen tr := by
  rw [waitOpen, List.foldl_append]
  rfl

theorem tracks_idle (h : waitOpen tr = false) : Tracks tr .idle :=
  iff_of_false (Bool.eq_false_iff.1 h) fun ⟨_, hk⟩ => WaitPhase.noConfusion hk

theorem Tracks.call {k : WaitPhase} {command : Command} {call : CommandCall} {r : call.Reply}
    (h : Tracks tr k) (ha : (waitProtocol command).allows k call) :
    Tracks (tr ++ [(s, .call call r)]) ((waitProtocol command).next k call r) := by
  rw [Tracks, waitOpen_snoc]
  cases call with
  | setWaitForNextCmd id => exact iff_of_true rfl ⟨id, rfl⟩
  | send endStation cmd id => exact iff_of_false Bool.false_ne_true (fun ⟨_, h⟩ => nomatch h)
  | sendAcmp tx =>
    apply iff_of_false Bool.false_ne_true
    obtain ⟨rfl | rfl | rfl, -⟩ := ha
    · exact fun ⟨_, h⟩ => nomatch h
    · exact fun ⟨_, h⟩ => nomatch h
    · exact fun ⟨_, h⟩ => nomatch h
  | getNextNotificationId =>
    apply iff_of_false
    · intro hopen
      obtain ⟨id, rfl⟩ := h.1 hopen
      cases ha
    · exact fun ⟨_, h⟩ => nomatch h
  | look =>
    cases k with
    | passing id =>
      exact h.trans (iff_of_false (fun ⟨_, h⟩ => nomatch h) fun ⟨_, h⟩ => nomatch h)
    | _ => exact h
  | getLastRespStatus =>
    cases k with
    | sent id => exact h.trans (iff_of_false (fun ⟨_, h⟩ => nomatch h) fun ⟨_, h⟩ => nomatch h)
    | _ => exact h
  | select => cases k <;> exact h

theorem Tracks.own {k : WaitPhase} {a : System.Action} (h : Tracks tr k) :
    Tracks (tr ++ [(s, .own a)]) k := by
  rw [Tracks, waitOpen_snoc]
  exact h

theorem tracks_start {command : Command} : Tracks (tr ++ [(s, .start command)]) .idle :=
  tracks_idle waitOpen_snoc

theorem kept_run (h : Run Step (.new mac notifyId completionStatus respStatusForCmd
      testMode) tr s) (hids : Along Counted tr) (hclean : Along Clean tr)
    (halone : AlongCommands Alone tr) :
    ∃ k, (s.server.Kept k ∧ Tracks tr k) ∧ s.script.Follows (waitProtocol (running tr))
      (fun k _ => (running tr).Ends k) k := by
  have hguard :
    AlongCommands (fun command s e => Counted s e ∧ Clean s e ∧ Alone command s e) tr :=
    fun tr₁ s e tr₂ htr =>
      ⟨alongCommands_of_along hids tr₁ s e tr₂ htr,
        alongCommands_of_along hclean tr₁ s e tr₂ htr,
      halone tr₁ s e tr₂ htr⟩
  refine follows_run (I := fun tr c k => c.Kept k ∧ Tracks tr k) ?_ ?_ ?_ h hguard rfl
    ⟨Console.kept_new _ _ _ _ _, tracks_idle rfl⟩
  · rintro tr s k call r c ⟨hk, htracks⟩ hallow ⟨hcounted, -, halone⟩ hs
    refine ⟨hk.call hallow ?_ ?_ hs, htracks.call hallow⟩
    · rintro rfl
      exact hcounted
    · rintro id rfl
      exact halone
  · rintro tr s k a c ⟨hk, htracks⟩ hs
    exact ⟨hk.own hs, htracks.own⟩
  · rintro tr s k command ⟨hk, -⟩ hends ⟨-, hclean, -⟩
    refine ⟨?_, tracks_start⟩
    rcases hends with hready | ⟨-, id, rfl⟩
    · exact ⟨hk.consistent, hk.served, hk.positive, hk.drawn, hk.app hready⟩
    · exact ⟨hk.consistent, hk.served, hk.positive, hk.drawn, hk.phase.1, hclean⟩

theorem own_run (h : Run Step s tr s') (hown : OwnSteps tr) :
    Run System.Step s.server.system (libTrace tr) s'.server.system ∧
      ∀ p ∈ libTrace tr, p.2.isCall = false := by
  induction h with
  | nil => exact ⟨.nil, fun p hp => absurd hp List.not_mem_nil⟩
  | @snoc tr t e u hr hst ih =>
    obtain ⟨hown, he⟩ := List.forall_mem_append.1 hown
    obtain ⟨hrun, hcalls⟩ := ih hown
    obtain ⟨a, rfl⟩ := he _ List.mem_cons_self
    have htrace : libTrace (tr ++ [(t, .own a)]) = libTrace tr ++ [(t.server.system, a)] :=
      List.filterMap_append
    rw [htrace]
    cases hst with
    | own hst =>
      cases hst with
      | step ha hs =>
        refine ⟨hrun.snoc hs, ?_⟩
        intro p hp
        rcases List.mem_append.1 hp with hp | hp
        · exact hcalls p hp
        · rw [List.mem_singleton.1 hp]
          exact ha

theorem asserts_run
    (h : Run Step (.new mac notifyId completionStatus respStatusForCmd testMode) tr s) :
    System.Consistent s.server.system ∧ s.server.system.assertFailed = false := by
  apply h.invariant (I := fun s => System.Consistent s.server.system ∧
    s.server.system.assertFailed = false) ⟨System.consistent_new _ _ _ _, rfl⟩
  have hstep : ∀ {s s' : System} {a : System.Action},
      System.Consistent s ∧ s.assertFailed = false → s.Step a s' →
      System.Consistent s' ∧ s'.assertFailed = false :=
    fun h hs => ⟨System.consistent_step h.1 hs, System.asserts_step h.1 h.2 hs⟩
  intro t e u ht hst
  cases hst with
  | start => exact ht
  | own hs =>
    cases hs with
    | step _ hs => exact hstep ht hs
  | call _ hs =>
    cases hs with
    | look => exact ht
    | getNextNotificationId => exact ht
    | setWaitForNextCmd hs => exact hstep ht hs
    | send _ hs => exact hstep ht hs
    | sendAcmp hs => exact hstep ht hs
    | getLastRespStatus => exact ht
    | select => exact ht

/-- A command that has returned has left its wait exactly if it is open. -/
theorem Tracks.idle_iff {k : WaitPhase} {command : Command} (h : Tracks tr k)
    (hk : s.server.Kept k) (hends : command.Ends k) :
    s.server.system.waitMgr.state = .waitIdle ↔ waitOpen tr = false := by
  rcases hends with hready | ⟨-, id, rfl⟩
  · refine iff_of_true (hk.app hready).2 (Bool.eq_false_iff.2 fun hopen => ?_)
    obtain ⟨id, rfl⟩ := h.1 hopen
    cases hready
  · have hopen := h.2 ⟨id, rfl⟩
    have hprimed := hk.phase.2.1
    rw [hopen, hprimed]
    exact iff_of_false WaitState.noConfusion Bool.noConfusion

theorem awaited_of_sends {id : Ptr} {e : Event} {k : WaitPhase} {command : Command}
    {E : WaitPhase → Unit → Prop} (hk : s.server.Kept k)
    (hf : s.script.Follows (waitProtocol command) E k) (he : Sends id e)
    (hprimed : s.server.system.waitMgr.state = .waitPrimed) (hst : Step s e s') :
    s'.server.Kept (.sent id) ∧ System.Awaited [] id s'.server.system s'.server.system.app := by
  have hwritten : ∀ {d : TxData} {system : System},
      Console.Kept { s.server with system } (.sent id) →
      s.server.system.Step (.writePipe d) system → System.Awaited [] id system system.app := by
    intro d system hkept hs
    have hwait := hkept.phase.2
    cases hs with
    | writePipe => exact hwait
  cases hst with
  | start => cases he
  | own => cases he
  | @call call next r c' hc hs =>
    rw [hc] at hf
    have hallow := hf.1
    have hkept := hk.call hallow (by rintro rfl; cases he) (by rintro id rfl; cases he) hs
    cases hs with
    | look => cases he
    | getNextNotificationId => cases he
    | setWaitForNextCmd => cases he
    | getLastRespStatus => cases he
    | select => cases he
    | send hq hs =>
      cases he
      exact ⟨hkept, hwritten hkept hs⟩
    | sendAcmp hs =>
      cases he
      rcases hallow.1 with rfl | hasks
      · exact ⟨hkept, hwritten hkept hs⟩
      · have hidle := (hk.app hasks.ready).2
        rw [hprimed] at hidle
        cases hidle

/-- In a session of any commands with any arguments the asserts on the wait manager hold. While
fewer than 2^32 ids are drawn, no command starts behind a wait that was left and `show
connections` sets its wait when its queries are gone: no release is left over outside of the
library, a command that has returned has left the wait that it set exactly if it has sent
nothing behind it, and when the call of a sender that waits has returned, `get_last_resp_status`
is a status that the command sent was finished with during the call. -/
theorem session_waits
    (h : Run Step (.new mac notifyId completionStatus respStatusForCmd testMode) tr s) :
    s.server.system.assertFailed = false ∧
    (Along Counted tr → Along Clean tr → AlongCommands Alone tr →
      (s.server.system.app = .outside → s.server.system.waitingSem = 0) ∧
      (∀ a, s.script = .done a →
        (s.server.system.waitMgr.state = .waitIdle ↔ waitOpen tr = false)) ∧
      ∀ tr₁ s₁ e tr₂ id, tr = tr₁ ++ (s₁, e) :: tr₂ → Sends id e →
        s₁.server.system.waitMgr.state = .waitPrimed → OwnSteps tr₂ →
        s.server.system.app = .outside →
        System.Finished (libTrace tr₂) id s.server.system.respStatusForCmd) := by
  refine ⟨(asserts_run h).2, ?_⟩
  intro hids hclean halone
  obtain ⟨k, ⟨hk, htracks⟩, hf⟩ := kept_run h hids hclean halone
  refine ⟨?_, ?_, ?_⟩
  · intro happ
    have hserved := hk.served
    rw [happ] at hserved
    exact hserved
  · intro a ha
    rw [ha] at hf
    exact htracks.idle_iff hk hf
  · rintro tr₁ s₁ e tr₂ id rfl he hprimed hown happ
    obtain ⟨h₁, s₂, hst, h₂⟩ := h.split
    obtain ⟨k₁, ⟨hk₁, -⟩, hf₁⟩ := kept_run h₁ (along_append.1 hids).1 (along_append.1 hclean).1
      halone.left
    obtain ⟨hk₂, hawaited⟩ := awaited_of_sends hk₁ hf₁ he hprimed hst
    obtain ⟨hrun, hcalls⟩ := own_run h₂ hown
    have hdone := System.awaited_run hrun hcalls hk₂.consistent hk₂.served hawaited
    rw [happ] at hdone
    exact hdone

/-- ENTITY_AVAILABLE is sent to a new station and answered while the app thread waits for it. -/
def entityAvailMoves : List Move :=
  [.start .entityAvail, .call, .call, .call, .call, .call, .own .testWait, .own .setActive,
    .own (.fnTx 0), .own (.fnNetif 0 0 System.entityAvailableResponse), .own .semWait,
    .own .getStatus, .own .setIdle, .call]

/-- The response to a query about the stream with the index. -/
def queryResponse (messageType : AcmpMessageType) (uniqueId sequenceId : BitVec 16) : Move :=
  .own (.fnNetif 0 0 (.acmp
    { destMac := 1
      messageType
      controllerEntityId := getControllerEntityId 1
      talkerEntityId := 3
      listenerEntityId := 3
      talkerUniqueId := uniqueId
      listenerUniqueId := uniqueId
      sequenceId }))

/-- The queries for an input and an output are answered, and the one for the last output is
waited for. -/
def showConnectionsMoves : List Move :=
  [.start .showConnections, .call, .call, .call, .call, .own .testWait, .call,
    .call, .call, .call,
    .call, .own .testWait, .call, .own (.fnTx 0), .own (.fnTx 0),
    queryResponse .getRxStateResponse 0 0, queryResponse .getTxStateResponse 0 1, .call, .call,
    .call, .call, .own .testWait, .own .setActive, .own (.fnTx 0),
    queryResponse .getTxStateResponse 1 2, .own .semWait, .own .getStatus, .own .setIdle, .call,
    .call, .call, .call, .call]

/-- The command has returned with the status of the last response, and its wait is not left
behind. -/
theorem session_waits_answered :
    ∃ tr s, Run Step (.new 1 0 0 7 false) tr s ∧ s.script = .done () ∧
      s.server.system.respStatusForCmd = 0 ∧ waitOpen tr = false ∧
      s.server.system.waitingSem = 0 := by
  have htrial : trial exec (regular true)
      (fun s => s.hasEnded && s.server.system.respStatusForCmd == 0 &&
        s.server.system.waitMgr.state == .waitIdle && s.server.system.app == .outside)
      (.new 1 0 0 7 false) (ShowConnections.readStreams.map .own ++ showConnectionsMoves) =
        true := by
    decide +kernel
  obtain ⟨tr, s, hrun, hids, hclean, halone, hs⟩ := exists_run htrial
  simp only [Bool.and_eq_true, beq_iff_eq] at hs
  obtain ⟨⟨⟨hended, hstatus⟩, hidle⟩, happ⟩ := hs
  have hdone := script_of_hasEnded hended
  obtain ⟨hsem, hwait, -⟩ := (session_waits hrun).2 hids (hclean rfl) halone
  exact ⟨tr, s, hrun, hdone, hstatus, (hwait _ hdone).1 hidle, hsem happ⟩

end Session
end AvdeccLib
