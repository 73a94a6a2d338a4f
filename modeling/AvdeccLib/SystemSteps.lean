import AvdeccLib.System
import AvdeccLib.Effects
import AvdeccLib.Conservation

namespace AvdeccLib
set_option autoImplicit true

open Outcome Runs

def EngineStep (p : EngineSpec φ) (s s' : Engine φ) : Prop :=
  s' = s ∨ ∃ op, Engine.Step p s op s'

/-- Both state machines make steps of their own and the pipe gets commands only. -/
structure EnginesStep (g g' : Globals) : Prop where
  aecp : EngineStep aecpSpec g.aecp.engine g'.aecp.engine
  acmp : EngineStep acmpSpec g.acmp g'.acmp
  pipe : ∀ d ∈ g'.txPipe, d.frame.isCommand = true

theorem AecpFrame.isResponse_of_isCommand {f : AecpFrame} (h : f.isCommand = true) :
    f.isResponse = false := by
  unfold isCommand at h
  unfold isResponse
  cases hm : f.messageType <;> simp only [hm, Bool.false_eq_true] at h <;> rfl

theorem AcmpFrame.isResponse_of_isCommand {f : AcmpFrame} (h : f.isCommand = true) :
    f.isResponse = false := by
  unfold isCommand at h
  unfold isResponse
  cases hm : f.messageType <;> simp only [hm, Bool.false_eq_true] at h <;> rfl

theorem TxData.BackgroundRead.isCommand {d : TxData} (h : d.BackgroundRead) :
    d.frame.isCommand = true := by
  obtain ⟨-, -, f, hf, hm⟩ := h
  rw [hf]
  simp only [TxFrame.isCommand, AecpFrame.isCommand, hm]

theorem Answer.engine {es : EndStation} {frame : AecpFrame} {m m' : AecpControllerStateMachine}
    {id : Ptr} (h : Answer es frame m m' id) :
    m'.engine = m.engine ∨ m'.engine = (m.engine.procResp aecpSpec null frame).1 := by
  cases h with
  | ignored => exact .inl rfl
  | answered => exact .inr rfl
  | started => exact .inr rfl
  | reported =>
    right
    unfold AecpControllerStateMachine.updateOperationForRcvdResp
    split <;> rfl

theorem AecpHandled.engineStep {es : EndStation} {frame : AecpFrame} {g g' : Globals}
    {out : RxOut} (hf : frame.isResponse = true) (h : AecpHandled es frame g g' out) :
    EngineStep aecpSpec g.aecp.engine g'.aecp.engine := by
  rcases h.answer.engine with he | he
  · exact .inl he
  · rw [he]
    exact .inr ⟨_, .rcvdResp hf⟩

theorem AcmpHandled.engineStep {frame : AcmpFrame} {g g' : Globals} {out : RxOut}
    (h : AcmpHandled frame g g' out) : EngineStep acmpSpec g.acmp g'.acmp := by
  rcases h.answer with ⟨he, -⟩ | ⟨hf, he⟩
  · exact .inl he
  · have he : g'.acmp = (g.acmp.procResp acmpSpec null frame).1 := congrArg Prod.fst he
    rw [he]
    exact .inr ⟨_, .rcvdResp hf⟩

theorem pipe_append {l tx : List TxData} (hl : ∀ d ∈ l, d.frame.isCommand = true)
    (htx : ∀ d ∈ tx, d.BackgroundRead) : ∀ d ∈ l ++ tx, d.frame.isCommand = true := by
  intro d hd
  rcases List.mem_append.1 hd with hd | hd
  · exact hl d hd
  · exact (htx d hd).isCommand

namespace Controller

theorem GlobalsReceived.enginesStep {c : Controller} {g : Globals}
    {frame : RxFrame} {out : RxOut}
    (h : GlobalsReceived c frame g out)
    (hp : ∀ d ∈ c.globals.txPipe, d.frame.isCommand = true) : EnginesStep c.globals g := by
  cases h with
  | other htx => exact ⟨.inl rfl, .inl rfl, pipe_append hp htx⟩
  | aecp hf _ _ hg =>
    obtain ⟨tx, hpipe, htx⟩ := hg.txPipe
    refine ⟨hg.engineStep hf, .inl hg.acmp, ?_⟩
    rw [hpipe]
    exact pipe_append hp htx
  | acmp hg =>
    refine ⟨.inl (by rw [hg.aecp]), hg.engineStep, ?_⟩
    rw [hg.txPipe]
    exact hp

theorem timeTickEvent_enginesStep {c c' : Controller} {now : Timestamp}
    (hp : ∀ d ∈ c.globals.txPipe, d.frame.isCommand = true) (h : c.timeTickEvent now = .ok c') :
    EnginesStep c.globals c'.globals := by
  obtain ⟨tx, hg, htx⟩ := timeTickEvent_globals h
  rw [hg]
  exact ⟨.inr ⟨_, .tick⟩, .inr ⟨_, .tick⟩, pipe_append hp htx⟩

theorem txPacket_enginesStep {c c' : Controller} {now : Timestamp}
    (hp : ∀ d ∈ c.globals.txPipe, d.frame.isCommand = true)
    (h : c.handle (.txPacket now) = .ok c') : EnginesStep c.globals c'.globals := by
  rcases handle_txPacket h with ⟨-, rfl⟩ | ⟨d, rest, hpipe, rfl⟩
  · exact ⟨.inl rfl, .inl rfl, hp⟩
  · rw [hpipe] at hp
    have hd := hp d List.mem_cons_self
    have hrest : ∀ d ∈ rest, d.frame.isCommand = true :=
      fun d' hd' => hp d' (List.mem_cons_of_mem d hd')
    unfold txPacketEvent
    split
    · next f hf =>
      rw [hf] at hd
      exact ⟨.inr ⟨_, .sendCmd (AecpFrame.isResponse_of_isCommand hd)⟩, .inl rfl, hrest⟩
    · next f hf =>
      rw [hf] at hd
      exact ⟨.inl rfl, .inr ⟨_, .sendCmd (AcmpFrame.isResponse_of_isCommand hd)⟩, hrest⟩
    · exact ⟨.inl rfl, .inl rfl, hrest⟩

end Controller

namespace System

theorem step_enginesStep {s s' : System} {a : Action}
    (hp : ∀ d ∈ s.controller.globals.txPipe, d.frame.isCommand = true) (h : Step s a s') :
    EnginesStep s.controller.globals s'.controller.globals := by
  have hsame : EnginesStep s.controller.globals s.controller.globals := ⟨.inl rfl, .inl rfl, hp⟩
  cases h with
  | setWaitForNextCmd => exact hsame
  | writePipe _ hd =>
    refine ⟨.inl rfl, .inl rfl, ?_⟩
    intro d' hd'
    rcases List.mem_append.1 hd' with hd' | hd'
    · exact hp d' hd'
    · rw [List.mem_singleton.1 hd']
      exact hd
  | testWait => exact hsame
  | setActive => exact hsame
  | semWait => exact hsame
  | getStatus => exact hsame
  | setIdle => exact hsame
  | fnTx h =>
    obtain ⟨c, hc, h⟩ := bind_eq_ok.1 h
    cases h
    exact Controller.txPacket_enginesStep hp hc
  | fnNetif h =>
    obtain ⟨⟨c, out⟩, hrx, h⟩ := bind_eq_ok.1 h
    have hst := (Controller.rxPacketEvent_globals hrx).enginesStep hp
    simp only at h
    split at h
    · cases h
      exact hst
    · cases h
      exact hst
  | fnTimer h =>
    obtain ⟨c, hc, h⟩ := bind_eq_ok.1 h
    have hst := Controller.timeTickEvent_enginesStep hp hc
    simp only at h
    split at h
    · cases h
      exact hst
    · cases h
      exact hst

/-- What the steps of the state machines keep in states that meet a condition, a run through
such states keeps. -/
theorem engines_invariant {I G : Engine AecpFrame → Prop} {J H : Engine AcmpFrame → Prop}
    {mac : Mac} {notifyId : Ptr} {completionStatus respStatusForCmd : Int}
    {tr : List (System × Action)} {s : System}
    (h : Run Step (.new mac notifyId completionStatus respStatusForCmd) tr s)
    (hg : Along (fun s _ => G s.controller.globals.aecp.engine ∧
      H s.controller.globals.acmp) tr)
    (hI : I .new) (hJ : J .new)
    (hstepI : ∀ e op e', I e → G e → Engine.Step aecpSpec e op e' → I e')
    (hstepJ : ∀ e op e', J e → H e → Engine.Step acmpSpec e op e' → J e') :
    I s.controller.globals.aecp.engine ∧ J s.controller.globals.acmp := by
  have hinv : (∀ d ∈ s.controller.globals.txPipe, d.frame.isCommand = true) ∧
      I s.controller.globals.aecp.engine ∧ J s.controller.globals.acmp := by
    apply h.invariant_along
      (I := fun s => (∀ d ∈ s.controller.globals.txPipe, d.frame.isCommand = true) ∧
        I s.controller.globals.aecp.engine ∧ J s.controller.globals.acmp)
      hg
    · refine ⟨?_, hI, hJ⟩
      intro d hd
      cases hd
    · intro s a s' ⟨hp, hi, hj⟩ ⟨hgi, hgj⟩ hst
      obtain ⟨haecp, hacmp, hpipe⟩ := step_enginesStep hp hst
      refine ⟨hpipe, ?_, ?_⟩
      · rcases haecp with he | ⟨op, he⟩
        · rw [he]
          exact hi
        · exact hstepI _ op _ hi hgi he
      · rcases hacmp with he | ⟨op, he⟩
        · rw [he]
          exact hj
        · exact hstepJ _ op _ hj hgj he
  exact hinv.2

end System
end AvdeccLib
