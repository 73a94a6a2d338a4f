import AvdeccLib.WaitSafety

namespace AvdeccLib
set_option autoImplicit true

open Runs Outcome

namespace System

def Action.isLib : Action → Bool
  | .fnTx _ | .fnNetif _ _ _ | .fnTimer _ => true
  | _ => false

/-- The two functions that the application calls. -/
def Action.isCall : Action → Bool
  | .setWaitForNextCmd _ | .writePipe _ => true
  | _ => false

/-- The lib thread is done with the last command that has the id, and with which status. -/
inductive Finishes (id : Ptr) (s : System) : Action → Int → Prop where
  | responded {now : Timestamp} {uninit : EntityId} {frame : RxFrame}
      {c : Controller} {out : RxOut}
      (hrx : s.controller.rxPacketEvent now uninit frame {} = .ok (c, out))
      (hid : out.notificationId = id) (hbefore : 0 < s.controller.globals.held id)
      (hafter : c.globals.held id = 0) : Finishes id s (.fnNetif now uninit frame) out.status
  | timedOut {now : Timestamp} {c : Controller} (hc : s.controller.timeTickEvent now = .ok c)
      (hbefore : 0 < s.controller.globals.held id) (hafter : c.globals.held id = 0) :
      Finishes id s (.fnTimer now) avdeccLibStatusTickTimeout

def Finished (tr : List (System × Action)) (id : Ptr) (status : Int) : Prop :=
  ∃ p ∈ tr, Finishes id p.1 p.2 status

theorem Finishes.held {id : Ptr} {s : System} {a : Action} {status : Int}
    (h : Finishes id s a status) : 0 < s.controller.globals.held id := by
  cases h with
  | responded _ _ hbefore _ => exact hbefore
  | timedOut _ hbefore _ => exact hbefore

/-- A wait is armed while none is pending, other than one for the same id, and a command that is
waited for has an id that no unfinished command has. -/
def Arming (s : System) : Action → Prop
  | .setWaitForNextCmd id => s.waitMgr.state = .waitIdle ∨ s.waitMgr.notifyId = id
  | .writePipe d => s.waits d = true →
      d.notificationId ≠ null ∧ s.controller.globals.held d.notificationId = 0
  | _ => True

/-- What a step of the lib thread does to the wait: nothing, or it releases the app thread. -/
inductive LibStep (s : System) (a : Action) : System → Prop where
  | quiet {c : Controller}
      (hle : ∀ id, id ≠ null → c.globals.held id ≤ s.controller.globals.held id) :
      LibStep s a { s with controller := c }
  | release {c : Controller} {status : Int} (ha : s.waitMgr.state = .waitActive)
      (hle : ∀ id, id ≠ null → c.globals.held id ≤ s.controller.globals.held id)
      (hdone : s.waitMgr.notifyId ≠ null →
        s.controller.globals.held s.waitMgr.notifyId ≤ 1 →
        c.globals.held s.waitMgr.notifyId = 0 ∧ Finishes s.waitMgr.notifyId s a status) :
      LibStep s a (s.released c status)

/-- One command has the id, and it is not in the pipe any more when it is finished. -/
theorem held_of_unfinished {g g' : Globals} {id : Ptr}
    (hqueued : (g'.txPipe.countP fun d => d.notificationId == id) =
      g.txPipe.countP fun d => d.notificationId == id)
    (hone : g.held id ≤ 1) (hbefore : 0 < g.unfinished id) (hafter : g'.unfinished id = 0) :
    0 < g.held id ∧ g'.held id = 0 := by
  rw [Globals.unfinished] at hbefore hafter
  rw [Globals.held] at hone
  rw [Globals.held, Globals.held, hqueued]
  omega

theorem fnNetif_libStep {s s' : System} {now : Timestamp} {uninit : EntityId} {frame : RxFrame}
    (h : s.fnNetif now uninit frame = .ok s') : LibStep s (.fnNetif now uninit frame) s' := by
  obtain ⟨c, out, hrx, h⟩ := fnNetif_cases h
  have hg := Controller.rxPacketEvent_globals hrx
  obtain ⟨hle, hfound, -⟩ := hg.held
  split at h
  · next hc =>
    obtain ⟨ha, hvalid, hid, hafter⟩ := hc
    subst h
    apply LibStep.release ha hle
    intro hne hone
    have hbefore := hfound hvalid (by rw [hid]; exact hne)
    rw [hid] at hbefore
    obtain ⟨hpos, hzero⟩ := held_of_unfinished (hg.queued hne) hone hbefore hafter
    exact ⟨hzero, .responded hrx hid hpos hzero⟩
  · subst h
    exact .quiet hle

theorem fnTimer_libStep {s s' : System} {now : Timestamp} (h : s.fnTimer now = .ok s') :
    LibStep s (.fnTimer now) s' := by
  obtain ⟨c, hc, h⟩ := fnTimer_cases h
  have hle : ∀ id, id ≠ null → c.globals.held id ≤ s.controller.globals.held id :=
    fun id => (Controller.timeTickEvent_held hc id).1
  split at h
  · next hcond =>
    obtain ⟨ha, hbefore, hafter⟩ := hcond
    obtain ⟨tx, hglobals, htx⟩ := Controller.timeTickEvent_globals hc
    have hpipe : c.globals.txPipe = s.controller.globals.txPipe ++ tx := by rw [hglobals]
    subst h
    apply LibStep.release ha hle
    intro hne hone
    have hqueued : (c.globals.txPipe.countP fun d => d.notificationId == s.waitMgr.notifyId) =
        s.controller.globals.txPipe.countP fun d => d.notificationId == s.waitMgr.notifyId := by
      rw [hpipe]
      exact countP_append_backgroundRead htx hne
    obtain ⟨hpos, hzero⟩ := held_of_unfinished hqueued hone hbefore hafter
    exact ⟨hzero, .timedOut hc hpos hzero⟩
  · subst h
    exact .quiet hle

theorem step_libStep {s s' : System} {a : Action}
    (hp : ∀ d ∈ s.controller.globals.txPipe, d.frame.isCommand = true) (h : Step s a s')
    (ha : a.isLib = true) : LibStep s a s' := by
  cases h with
  | setWaitForNextCmd => cases ha
  | writePipe => cases ha
  | testWait => cases ha
  | setActive => cases ha
  | semWait => cases ha
  | getStatus => cases ha
  | setIdle => cases ha
  | fnTx h =>
    obtain ⟨c, hc, h⟩ := bind_eq_ok.1 h
    cases h
    exact .quiet fun id _ => Nat.le_of_eq (Controller.txPacket_held hp hc id).1
  | fnNetif h => exact fnNetif_libStep h
  | fnTimer h => exact fnTimer_libStep h

/-- The state of the wait manager, by where the app thread is. Only the app thread sets it. -/
def Agrees (s : System) : Prop :=
  match s.app with
  | .outside | .written _ => s.waitMgr.state ≠ .waitActive
  | .tested => s.waitMgr.state = .waitPrimed
  | .waiting | .woken | .gotStatus => s.waitMgr.state = .waitActive

/-- The semaphore and the command that is waited for, by where the app thread is. -/
def Served (s : System) : AppPc → Prop
  | .outside => s.waitingSem = 0
  | .written d => s.waitingSem = 0 ∧ (s.waits d = true →
      d.notificationId ≠ null ∧ s.controller.globals.held d.notificationId ≤ 1)
  | .tested => s.waitingSem = 0 ∧ s.waitMgr.notifyId ≠ null ∧
      s.controller.globals.held s.waitMgr.notifyId ≤ 1
  | .waiting => s.waitMgr.notifyId ≠ null ∧
      (s.waitingSem = 0 ∧ s.controller.globals.held s.waitMgr.notifyId ≤ 1 ∨
        s.waitingSem = 1 ∧ s.controller.globals.held s.waitMgr.notifyId = 0)
  | .woken | .gotStatus => s.waitingSem = 0 ∧ s.waitMgr.notifyId ≠ null ∧
      s.controller.globals.held s.waitMgr.notifyId = 0

/-- What every run keeps. -/
structure Consistent (s : System) : Prop where
  pipe : ∀ d ∈ s.controller.globals.txPipe, d.frame.isCommand = true
  agrees : Agrees s

theorem consistent_new (mac : Mac) (notifyId : Ptr) (completionStatus respStatusForCmd : Int) :
    Consistent (.new mac notifyId completionStatus respStatusForCmd) := by
  constructor
  · intro d hd
    cases hd
  · exact WaitState.noConfusion

theorem Agrees.setPrimedState {m : CmdWaitMgr} (h : m.state ≠ .waitActive) (id : Ptr) :
    (m.setPrimedState id).1.state ≠ .waitActive := by
  rw [CmdWaitMgr.setPrimedState]
  split
  · exact h
  · exact WaitState.noConfusion

theorem waits_iff {s : System} {d : TxData} : s.waits d = true ↔
    s.waitMgr.state = .waitPrimed ∧ d.notificationId = s.waitMgr.notifyId ∧
      d.notificationFlag = .cmdWithNotification := by
  simp only [waits, Bool.and_eq_true, CmdWaitMgr.primedState, CmdWaitMgr.matchId, beq_iff_eq,
    and_assoc]

theorem setActiveState_eq {m : CmdWaitMgr} (h : m.state = .waitPrimed) :
    m.setActiveState = ({ m with state := .waitActive }, 0) := by
  rw [CmdWaitMgr.setActiveState, h]
  rfl

theorem setIdleState_eq {m : CmdWaitMgr} (h : m.state = .waitActive) :
    m.setIdleState = ({ m with state := .waitIdle }, 0) := by
  rw [CmdWaitMgr.setIdleState, h]
  rfl

theorem LibStep.agrees {s s' : System} {a : Action} (h : LibStep s a s') :
    s'.app = s.app ∧ s'.waitMgr.state = s.waitMgr.state ∧
      s'.waitMgr.notifyId = s.waitMgr.notifyId := by
  cases h with
  | quiet => exact ⟨rfl, rfl, rfl⟩
  | release => exact ⟨rfl, rfl, rfl⟩

theorem agrees_step {s s' : System} {a : Action} (h : Consistent s) (hs : Step s a s') :
    Agrees s' := by
  have hagrees := h.agrees
  rw [Agrees] at hagrees
  have hlib : ∀ {s'}, LibStep s a s' → Agrees s' := by
    intro s' hl
    obtain ⟨happ, hstate, -⟩ := hl.agrees
    rw [Agrees, happ, hstate]
    exact hagrees
  cases hs with
  | setWaitForNextCmd happ =>
    rw [happ] at hagrees
    simp only [Agrees, happ]
    exact Agrees.setPrimedState hagrees _
  | writePipe happ =>
    rw [happ] at hagrees
    exact hagrees
  | testWait happ =>
    rw [happ] at hagrees
    cases hw : s.waits _ with
    | false => exact hagrees
    | true => exact (waits_iff.1 hw).1
  | setActive happ =>
    rw [happ] at hagrees
    simp only [Agrees, asserting, setActiveState_eq hagrees]
  | semWait happ =>
    rw [happ] at hagrees
    exact hagrees
  | getStatus happ =>
    rw [happ] at hagrees
    exact hagrees
  | setIdle happ =>
    rw [happ] at hagrees
    simp only [Agrees, asserting, setIdleState_eq hagrees]
    exact WaitState.noConfusion
  | fnTx hs => exact hlib (step_libStep h.pipe (.fnTx hs) rfl)
  | fnNetif hs => exact hlib (step_libStep h.pipe (.fnNetif hs) rfl)
  | fnTimer hs => exact hlib (step_libStep h.pipe (.fnTimer hs) rfl)

theorem consistent_step {s s' : System} {a : Action} (h : Consistent s) (hs : Step s a s') :
    Consistent s' :=
  ⟨(step_enginesStep h.pipe hs).pipe, agrees_step h hs⟩

theorem Served.quiet {s : System} {c : Controller} {pc : AppPc} (h : Served s pc)
    (hle : ∀ id, id ≠ null → c.globals.held id ≤ s.controller.globals.held id) :
    Served { s with controller := c } pc := by
  cases pc with
  | outside => exact h
  | written d =>
    refine ⟨h.1, fun hw => ?_⟩
    obtain ⟨hne, hone⟩ := h.2 hw
    exact ⟨hne, Nat.le_trans (hle _ hne) hone⟩
  | tested => exact ⟨h.1, h.2.1, Nat.le_trans (hle _ h.2.1) h.2.2⟩
  | waiting =>
    obtain ⟨hne, ⟨hsem, hone⟩ | ⟨hsem, hzero⟩⟩ := h
    · exact ⟨hne, .inl ⟨hsem, Nat.le_trans (hle _ hne) hone⟩⟩
    · exact ⟨hne, .inr ⟨hsem, Nat.le_zero.1 (Nat.le_trans (hle _ hne) (Nat.le_of_eq hzero))⟩⟩
  | woken =>
    exact ⟨h.1, h.2.1, Nat.le_zero.1 (Nat.le_trans (hle _ h.2.1) (Nat.le_of_eq h.2.2))⟩
  | gotStatus =>
    exact ⟨h.1, h.2.1, Nat.le_zero.1 (Nat.le_trans (hle _ h.2.1) (Nat.le_of_eq h.2.2))⟩

theorem Served.released {s : System} {c : Controller} {a : Action} {status : Int}
    (hagrees : Agrees s) (h : Served s s.app) (ha : s.waitMgr.state = .waitActive)
    (hdone : s.waitMgr.notifyId ≠ null → s.controller.globals.held s.waitMgr.notifyId ≤ 1 →
      c.globals.held s.waitMgr.notifyId = 0 ∧ Finishes s.waitMgr.notifyId s a status) :
    s.app = .waiting ∧ Served (s.released c status) .waiting ∧
      Finishes s.waitMgr.notifyId s a status := by
  rw [Agrees] at hagrees
  have hpos : ∀ status, Finishes s.waitMgr.notifyId s a status →
      s.controller.globals.held s.waitMgr.notifyId ≠ 0 :=
    fun _ hf => Nat.pos_iff_ne_zero.1 hf.held
  cases happ : s.app with
  | outside =>
    rw [happ] at hagrees
    exact absurd ha hagrees
  | written d =>
    rw [happ] at hagrees
    exact absurd ha hagrees
  | tested =>
    rw [happ] at hagrees
    rw [hagrees] at ha
    cases ha
  | waiting =>
    rw [happ] at h
    obtain ⟨hne, ⟨hsem, hone⟩ | ⟨hsem, hzero⟩⟩ := h
    · obtain ⟨hgone, hf⟩ := hdone hne hone
      refine ⟨rfl, ⟨hne, .inr ⟨?_, hgone⟩⟩, hf⟩
      show s.waitingSem + 1 = 1
      rw [hsem]
    · obtain ⟨-, hf⟩ := hdone hne (Nat.le_trans (Nat.le_of_eq hzero) (Nat.zero_le 1))
      exact absurd hzero (hpos _ hf)
  | woken =>
    rw [happ] at h
    obtain ⟨-, hne, hzero⟩ := h
    obtain ⟨-, hf⟩ := hdone hne (Nat.le_trans (Nat.le_of_eq hzero) (Nat.zero_le 1))
    exact absurd hzero (hpos _ hf)
  | gotStatus =>
    rw [happ] at h
    obtain ⟨-, hne, hzero⟩ := h
    obtain ⟨-, hf⟩ := hdone hne (Nat.le_trans (Nat.le_of_eq hzero) (Nat.zero_le 1))
    exact absurd hzero (hpos _ hf)

theorem served_step {s s' : System} {a : Action} (hc : Consistent s) (h : Served s s.app)
    (hg : Arming s a) (hs : Step s a s') : Served s' s'.app := by
  have hagrees := hc.agrees
  have hlib : ∀ {s'}, LibStep s a s' → Served s' s'.app := by
    intro s' hl
    cases hl with
    | quiet hle => exact h.quiet hle
    | release ha hle hdone =>
      obtain ⟨happ, hserved, -⟩ := h.released hagrees ha hdone
      show Served _ s.app
      rw [happ]
      exact hserved
  rw [Agrees] at hagrees
  cases hs with
  | setWaitForNextCmd happ =>
    rw [happ] at h
    simp only [happ]
    exact h
  | writePipe happ =>
    rw [happ] at h
    refine ⟨h, fun hw => ?_⟩
    obtain ⟨hne, hzero⟩ := hg hw
    refine ⟨hne, ?_⟩
    rw [Controller.held_writePipe, hzero, same_self]
  | testWait happ =>
    rw [happ] at h
    cases hw : s.waits _ with
    | false => exact h.1
    | true =>
      obtain ⟨hne, hone⟩ := h.2 hw
      rw [(waits_iff.1 hw).2.1] at hne hone
      exact ⟨h.1, hne, hone⟩
  | setActive happ =>
    rw [happ] at h hagrees
    simp only [asserting, setActiveState_eq hagrees]
    exact ⟨h.2.1, .inl ⟨h.1, h.2.2⟩⟩
  | semWait happ hpos =>
    rw [happ] at h
    obtain ⟨hne, ⟨hsem, -⟩ | ⟨hsem, hzero⟩⟩ := h
    · rw [hsem] at hpos
      cases hpos
    · refine ⟨?_, hne, hzero⟩
      show s.waitingSem - 1 = 0
      rw [hsem]
  | getStatus happ =>
    rw [happ] at h
    exact h
  | setIdle happ =>
    rw [happ] at h
    exact h.1
  | fnTx hs => exact hlib (step_libStep hc.pipe (.fnTx hs) rfl)
  | fnNetif hs => exact hlib (step_libStep hc.pipe (.fnNetif hs) rfl)
  | fnTimer hs => exact hlib (step_libStep hc.pipe (.fnTimer hs) rfl)

theorem Finished.snoc {tr : List (System × Action)} {id : Ptr} {status : Int}
    (h : Finished tr id status) (p : System × Action) : Finished (tr ++ [p]) id status := by
  obtain ⟨q, hq, hf⟩ := h
  exact ⟨q, List.mem_append_left _ hq, hf⟩

/-- Behind the write of a command that is waited for, with the trace since then. -/
def Awaited (tr : List (System × Action)) (id : Ptr) (s : System) : AppPc → Prop
  | .outside => Finished tr id s.respStatusForCmd
  | .written d => s.waits d = true ∧ d.notificationId = id
  | .tested => s.waitMgr.notifyId = id
  | .waiting => s.waitMgr.notifyId = id ∧
      (s.waitingSem = 0 ∨ Finished tr id s.waitMgr.completionStatus)
  | .woken => Finished tr id s.waitMgr.completionStatus
  | .gotStatus => Finished tr id s.respStatusForCmd

theorem Awaited.quiet {tr : List (System × Action)} {id : Ptr} {s : System} {pc : AppPc}
    (h : Awaited tr id s pc) (c : Controller) (p : System × Action) :
    Awaited (tr ++ [p]) id { s with controller := c } pc := by
  cases pc with
  | outside => exact Finished.snoc h p
  | written d => exact h
  | tested => exact h
  | waiting => exact ⟨h.1, h.2.imp_right fun hf => hf.snoc p⟩
  | woken => exact Finished.snoc h p
  | gotStatus => exact Finished.snoc h p

theorem awaited_step {tr : List (System × Action)} {id : Ptr} {s s' : System} {a : Action}
    (hc : Consistent s) (hserved : Served s s.app) (h : Awaited tr id s s.app)
    (ha : a.isCall = false) (hs : Step s a s') : Awaited (tr ++ [(s, a)]) id s' s'.app := by
  have hlib : ∀ {s'}, LibStep s a s' → Awaited (tr ++ [(s, a)]) id s' s'.app := by
    intro s' hl
    cases hl with
    | quiet => exact h.quiet _ _
    | release hact hle hdone =>
      obtain ⟨happ, -, hf⟩ := hserved.released hc.agrees hact hdone
      show Awaited _ _ _ s.app
      rw [happ] at h ⊢
      refine ⟨h.1, .inr ⟨(s, a), List.mem_append_right _ List.mem_cons_self, ?_⟩⟩
      rw [← h.1]
      exact hf
  cases hs with
  | setWaitForNextCmd => cases ha
  | writePipe => cases ha
  | testWait happ =>
    rw [happ] at h
    obtain ⟨hw, hid⟩ := h
    simp only [hw, if_true]
    exact (waits_iff.1 hw).2.1.symm.trans hid
  | setActive happ =>
    rw [happ] at h hserved
    have hprimed := hc.agrees
    rw [Agrees, happ] at hprimed
    simp only [asserting, setActiveState_eq hprimed]
    exact ⟨h, .inl hserved.1⟩
  | semWait happ hpos =>
    rw [happ] at h
    obtain ⟨-, hsem | hf⟩ := h
    · rw [hsem] at hpos
      cases hpos
    · exact hf.snoc _
  | getStatus happ =>
    rw [happ] at h
    exact Finished.snoc h _
  | setIdle happ =>
    rw [happ] at h
    exact Finished.snoc h _
  | fnTx hs => exact hlib (step_libStep hc.pipe (.fnTx hs) rfl)
  | fnNetif hs => exact hlib (step_libStep hc.pipe (.fnNetif hs) rfl)
  | fnTimer hs => exact hlib (step_libStep hc.pipe (.fnTimer hs) rfl)

theorem arming_of_lib {s : System} {a : Action} (h : a.isCall = false) : Arming s a := by
  cases a with
  | setWaitForNextCmd => cases h
  | writePipe => cases h
  | testWait => trivial
  | setActive => trivial
  | semWait => trivial
  | getStatus => trivial
  | setIdle => trivial
  | fnTx => trivial
  | fnNetif => trivial
  | fnTimer => trivial

theorem isCall_of_isLib {a : Action} (h : a.isLib = true) : a.isCall = false := by
  cases a with
  | setWaitForNextCmd => cases h
  | writePipe => cases h
  | testWait => rfl
  | setActive => rfl
  | semWait => rfl
  | getStatus => rfl
  | setIdle => rfl
  | fnTx => rfl
  | fnNetif => rfl
  | fnTimer => rfl

theorem consistent_run {s s' : System} {tr : List (System × Action)} (h : Run Step s tr s')
    (hc : Consistent s) : Consistent s' :=
  h.invariant hc fun _ _ _ hc hst => consistent_step hc hst

theorem served_run {s s' : System} {tr : List (System × Action)} (h : Run Step s tr s')
    (hg : Along Arming tr) (hc : Consistent s) (hs : Served s s.app) : Served s' s'.app := by
  have hboth : Consistent s' ∧ Served s' s'.app := by
    apply h.invariant_along (I := fun s => Consistent s ∧ Served s s.app) hg ⟨hc, hs⟩
    intro s a s' ⟨hc, hs⟩ hga hst
    exact ⟨consistent_step hc hst, served_step hc hs hga hst⟩
  exact hboth.2

theorem awaited_run {s s' : System} {tr : List (System × Action)} {id : Ptr}
    (h : Run Step s tr s') (hin : ∀ p ∈ tr, p.2.isCall = false) (hc : Consistent s)
    (hs : Served s s.app) (ha : Awaited [] id s s.app) : Awaited tr id s' s'.app := by
  induction h with
  | nil => exact ha
  | snoc hr hst ih =>
    obtain ⟨hin, he⟩ := List.forall_mem_append.1 hin
    have hg : Along Arming _ := fun p hp => arming_of_lib (hin p hp)
    exact awaited_step (consistent_run hr hc) (served_run hr hg hc hs) (ih hin)
      (he _ List.mem_cons_self) hst

theorem lib_run_waitMgr {s s' : System} {tr : List (System × Action)} (h : Run Step s tr s')
    (hlib : ∀ p ∈ tr, p.2.isLib = true) (hc : Consistent s) :
    s'.app = s.app ∧ s'.waitMgr.state = s.waitMgr.state ∧
      s'.waitMgr.notifyId = s.waitMgr.notifyId := by
  induction h with
  | nil => exact ⟨rfl, rfl, rfl⟩
  | snoc hr hst ih =>
    obtain ⟨hlib, he⟩ := List.forall_mem_append.1 hlib
    obtain ⟨happ, hstate, hid⟩ := ih hlib
    have hl := step_libStep (consistent_run hr hc).pipe hst (he _ List.mem_cons_self)
    obtain ⟨happ', hstate', hid'⟩ := hl.agrees
    exact ⟨happ'.trans happ, hstate'.trans hstate, hid'.trans hid⟩

/-- The calls of an application that waits for one command: the wait is armed and, with nothing
but steps of the lib thread in between, the command is queued. -/
structure Sent (s₀ s₂ s₃ : System) (d : TxData) : Prop where
  armed : ∃ s₁ tr, Step s₀ (.setWaitForNextCmd d.notificationId) s₁ ∧ Run Step s₁ tr s₂ ∧
    ∀ p ∈ tr, p.2.isLib = true
  written : Step s₂ (.writePipe d) s₃
  notificationFlag : d.notificationFlag = .cmdWithNotification

theorem Sent.waitMgr {s₀ s₂ s₃ : System} {d : TxData} (h : Sent s₀ s₂ s₃ d)
    (hc : Consistent s₀) : s₃.app = .written d ∧
      s₃.waitMgr.state = (s₀.waitMgr.setPrimedState d.notificationId).1.state ∧
      s₃.waitMgr.notifyId = (s₀.waitMgr.setPrimedState d.notificationId).1.notifyId := by
  obtain ⟨s₁, tr, harm, hr, hlib⟩ := h.armed
  obtain ⟨-, hstate, hid⟩ := lib_run_waitMgr hr hlib (consistent_step hc harm)
  cases harm
  cases h.written
  exact ⟨rfl, hstate, hid⟩

/-- Whatever was called before: a command is waited for exactly if its wait is armed while none
is pending, other than one for the same id. -/
theorem sent_waits_iff {mac : Mac} {notifyId : Ptr} {completionStatus respStatusForCmd : Int}
    {tr : List (System × Action)} {s₀ s₂ s₃ : System} {d : TxData}
    (h : Run Step (.new mac notifyId completionStatus respStatusForCmd) tr s₀)
    (hsent : Sent s₀ s₂ s₃ d) :
    s₃.waits d = true ↔
      s₀.waitMgr.state = .waitIdle ∨ s₀.waitMgr.notifyId = d.notificationId := by
  have hc := consistent_run h (consistent_new _ _ _ _)
  obtain ⟨-, hstate, hid⟩ := hsent.waitMgr hc
  obtain ⟨s₁, -, harm, -⟩ := hsent.armed
  have hagrees := hc.agrees
  cases harm with
  | setWaitForNextCmd happ =>
    rw [Agrees, happ] at hagrees
    rw [waits_iff, hstate, hid, CmdWaitMgr.setPrimedState]
    cases hs : s₀.waitMgr.state with
    | waitIdle => simp [hsent.notificationFlag]
    | waitPrimed => simp [hs, hsent.notificationFlag, eq_comm]
    | waitActive => exact absurd hs hagrees

/-- In a run that arms its waits, a command that is sent for a wait is waited for, and what its
call of `queue_tx_frame` leaves for `get_last_resp_status` is the status that it was finished
with. -/
theorem armed_wait_kept {mac : Mac} {notifyId : Ptr} {completionStatus respStatusForCmd : Int}
    {tr₀ tr : List (System × Action)} {s₀ s₂ s₃ s : System} {d : TxData}
    (h₀ : Run Step (.new mac notifyId completionStatus respStatusForCmd) tr₀ s₀)
    (hg : Along Arming tr₀) (hsent : Sent s₀ s₂ s₃ d)
    (harm : Arming s₀ (.setWaitForNextCmd d.notificationId)) (hwrite : Arming s₂ (.writePipe d))
    (h : Run Step s₃ tr s) (hin : ∀ p ∈ tr, p.2.isCall = false) :
    (s.app = .written d → s.waits d = true) ∧
      (s.app = .outside → Finished tr d.notificationId s.respStatusForCmd) := by
  have hwaits := (sent_waits_iff h₀ hsent).2 harm
  have hc := consistent_run h₀ (consistent_new _ _ _ _)
  have hs := served_run h₀ hg (consistent_new _ _ _ _) rfl
  obtain ⟨s₁, tr₁, hst, hr, hlib⟩ := hsent.armed
  have hg₁ : Along Arming tr₁ := fun p hp => arming_of_lib (isCall_of_isLib (hlib p hp))
  have hc₁ := consistent_step hc hst
  have hc₂ := consistent_run hr hc₁
  have hs₂ := served_run hr hg₁ hc₁ (served_step hc hs harm hst)
  have ha : Awaited [] d.notificationId s₃ s₃.app := by
    rw [(hsent.waitMgr hc).1]
    exact ⟨hwaits, rfl⟩
  have haw := awaited_run h hin (consistent_step hc₂ hsent.written)
    (served_step hc₂ hs₂ hwrite hsent.written) ha
  constructor
  · intro happ
    rw [happ] at haw
    exact haw.1
  · intro happ
    rw [happ] at haw
    exact haw

/-- ENTITY_AVAILABLE as it is sent for a wait. -/
def awaitedCommand (id : Ptr) : TxData :=
  ⟨id, .cmdWithNotification, .aecp entityAvailableCommand⟩

/-- The two calls in one state, and a test of the state behind them. -/
def sentTrial (s₀ : System) (d : TxData) (P : System → System → Bool) : Bool :=
  match s₀.exec (.setWaitForNextCmd d.notificationId) with
  | .ok s₁ =>
    match s₁.exec (.writePipe d) with
    | .ok s₃ => P s₁ s₃
    | .error _ => false
  | .error _ => false

theorem sent_of_trial {s₀ : System} {d : TxData} {P : System → System → Bool}
    (hflag : d.notificationFlag = .cmdWithNotification) (h : sentTrial s₀ d P = true) :
    ∃ s₂ s₃, Sent s₀ s₂ s₃ d ∧ P s₂ s₃ = true := by
  rw [sentTrial] at h
  split at h
  · next s₁ h₁ =>
    split at h
    · next s₃ h₃ =>
      refine ⟨s₁, s₃, ⟨⟨s₁, [], exec_step h₁, .nil, ?_⟩, exec_step h₃, hflag⟩, h⟩
      intro p hp
      cases hp
    · cases h
  · cases h

theorem armed_wait_kept_answered :
    ∃ tr₀ s₀ s₂ s₃ tr s, Run Step (.new 1 0 0 7) tr₀ s₀ ∧ Sent s₀ s₂ s₃ (awaitedCommand 5) ∧
      Run Step s₃ tr s ∧ s.app = .outside ∧ s.respStatusForCmd = 0 ∧
      Finished tr 5 s.respStatusForCmd := by
  have htrial : trial exec (fun _ a => !a.isCall)
      (fun s₀ => s₀.waitMgr.state == .waitIdle && sentTrial s₀ (awaitedCommand 5) fun s₂ s₃ =>
        s₂.controller.globals.held 5 == 0 &&
          trial exec (fun _ a => !a.isCall)
            (fun s => s.app == .outside && s.respStatusForCmd == 0) s₃
            [.testWait, .setActive, .fnTx 0, .fnNetif 0 0 entityAvailableResponse, .semWait,
              .getStatus, .setIdle]) (.new 1 0 0 7) readEntity = true := by decide
  obtain ⟨tr₀, s₀, h₀, hg, hp⟩ :=
    exists_run_of_trial (f := exec) (fun _ _ _ h => exec_step h) htrial
  simp only [Bool.and_eq_true, beq_iff_eq] at hp
  obtain ⟨hidle, hp⟩ := hp
  obtain ⟨s₂, s₃, hsent, hp⟩ := sent_of_trial rfl hp
  simp only [Bool.and_eq_true, beq_iff_eq] at hp
  obtain ⟨hheld, hp⟩ := hp
  obtain ⟨tr, s, h, hin, hs⟩ := exists_run_of_trial (f := exec) (fun _ _ _ h => exec_step h) hp
  simp only [Bool.and_eq_true, beq_iff_eq] at hs
  have hcall : ∀ a : Action, (!a.isCall) = true → a.isCall = false := by simp
  have harm : Along Arming tr₀ := fun p hp => arming_of_lib (hcall _ (hg p hp))
  have hwrite : Arming s₂ (.writePipe (awaitedCommand 5)) := fun _ => ⟨by decide, hheld⟩
  have hkept := armed_wait_kept h₀ harm hsent (.inl hidle) hwrite h fun p hp =>
    hcall _ (hin p hp)
  exact ⟨tr₀, s₀, s₂, s₃, tr, s, h₀, hsent, h, hs.1, hs.2, hkept.2 hs.1⟩

/-- A wait that was armed and given up keeps the next one from being armed: the call returns
without having waited, with the status of an earlier command. -/
theorem armed_wait_ignored :
    ¬ ∀ mac notifyId completionStatus respStatusForCmd tr₀ tr s₀ s₂ s₃ s d,
      Run Step (.new mac notifyId completionStatus respStatusForCmd) tr₀ s₀ → Sent s₀ s₂ s₃ d →
      Run Step s₃ tr s → (∀ p ∈ tr, p.2.isCall = false) →
      (s.app = .written d → s.waits d = true) ∧
        (s.app = .outside → Finished tr d.notificationId s.respStatusForCmd) := by
  intro hall
  have htrial : trial exec (fun _ _ => true)
      (fun s₀ => sentTrial s₀ (awaitedCommand 6) fun _ s₃ => !s₃.waits (awaitedCommand 6))
      (.new 1 0 0 7) [.setWaitForNextCmd 5] = true := by decide
  obtain ⟨tr₀, s₀, h₀, -, hp⟩ :=
    exists_run_of_trial (f := exec) (fun _ _ _ h => exec_step h) htrial
  obtain ⟨s₂, s₃, hsent, hp⟩ := sent_of_trial rfl hp
  have hkept := hall 1 0 0 7 tr₀ [] s₀ s₂ s₃ s₃ _ h₀ hsent .nil fun p hp =>
    absurd hp List.not_mem_nil
  have hwritten := (hsent.waitMgr (consistent_run h₀ (consistent_new _ _ _ _))).1
  rw [hkept.1 hwritten] at hp
  cases hp

end System
end AvdeccLib
