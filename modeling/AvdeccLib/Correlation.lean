import AvdeccLib.SystemSteps
import AvdeccLib.AdpTracking

namespace AvdeccLib
set_option autoImplicit true

open Runs Outcome FirstMatch

namespace Engine

/-- Every entry keeps the sequence id that its frame was sent with. -/
def Numbered (p : EngineSpec φ) (s : Engine φ) : Prop :=
  ∀ t ∈ s.tickets, p.getSequenceId t.frame = t.seqId

theorem step_tickets {p : EngineSpec φ} {s s' : Engine φ} {op : EngineOp φ}
    (h : Step p s op s') :
    ∀ t ∈ s'.tickets, t ∈ s.tickets ∨
      ∃ now id flag frame, t = (sentEntry p now s id flag frame).ticket := by
  cases h with
  | sendCmd _ =>
    rename_i now id flag frame _
    intro t ht
    rw [stateSendCmd_eq] at ht
    simp only [tickets, List.map_append, List.map_cons, List.map_nil] at ht
    rcases List.mem_append.1 ht with ht | ht
    · exact .inl ht
    · exact .inr ⟨now, id, flag, frame, List.mem_singleton.1 ht⟩
  | rcvdResp _ =>
    rename_i id frame _
    intro t ht
    left
    cases hf : s.inflightCmds.find? (seqIdComp (p.getSequenceId frame)) with
    | none =>
      rw [procResp_of_none hf] at ht
      exact ht
    | some j =>
      rw [procResp_of_some hf] at ht
      obtain ⟨e, he, rfl⟩ := List.mem_map.1 ht
      exact List.mem_map_of_mem (List.mem_of_mem_eraseP he)
  | tick =>
    rename_i now
    have htick : ∀ t ∈ (tick p now s).tickets, t ∈ s.tickets := by
      apply tick_induction (P := fun s' => ∀ t ∈ s'.tickets, t ∈ s.tickets)
      · exact fun t ht => ht
      · intro s₁ i s₂ ih hv t ht
        rcases hv.tickets with he | he
        · rw [he] at ht
          exact ih t ht
        · rw [he] at ht
          exact ih t (List.mem_of_mem_eraseIdx ht)
    exact fun t ht => .inl (htick t ht)

theorem Numbered.step {p : EngineSpec φ} {s s' : Engine φ} {op : EngineOp φ} (hn : Numbered p s)
    (h : Step p s op s') : Numbered p s' := by
  intro t ht
  rcases step_tickets h t ht with ht | ⟨now, id, flag, frame, rfl⟩
  · exact hn t ht
  · exact p.get_set s.seqId frame

end Engine

/-- A response reports on an operation in progress by the post of `callback` for the first entry
with its operation id. -/
theorem Answer.operationPosts {es : EndStation} {frame : AecpFrame}
    {m m' : AecpControllerStateMachine} {id : Ptr} (h : Answer es frame m m' id) :
    m'.operationPosts = m.operationPosts ∨
    frame.commandType = .operationStatus ∧ frame.descriptorType = .memoryObject ∧
      ∃ o, m.activeOperations.find?
          (AecpControllerStateMachine.operationIdComp frame.operationId) = some o ∧
        m'.operationPosts = m.operationPosts ++
          AecpControllerStateMachine.callback o.cmdNotificationId
            o.cmdNotificationFlag frame := by
  cases h with
  | ignored => exact .inl rfl
  | answered => exact .inl rfl
  | started => exact .inl rfl
  | reported hrep =>
    have hops : (m.stateRcvdResp null frame).1.activeOperations = m.activeOperations := rfl
    unfold AecpControllerStateMachine.updateOperationForRcvdResp
    split
    · next o ho =>
      rw [hops] at ho
      exact .inr ⟨hrep.1, hrep.2.1, o, ho, rfl⟩
    · exact .inl rfl

namespace System

def aecpInflight (s : System) : List (Inflight AecpFrame) :=
  s.controller.globals.aecp.engine.inflightCmds

/-- The message and the command type of a response to a command. -/
def Responds (frame cmdFrame : AecpFrame) : Prop :=
  match cmdFrame.messageType with
  | .aemCommand => frame.messageType = .aemResponse ∧ frame.commandType = cmdFrame.commandType
  | .addressAccessCommand => frame.messageType = .addressAccessResponse
  | _ => False

def Solicited (frame cmdFrame : AecpFrame) : Prop :=
  frame.uField = false ∧ frame.sequenceId = cmdFrame.sequenceId ∧
    frame.targetEntityId = cmdFrame.targetEntityId ∧ Responds frame cmdFrame

theorem fnNetif_globals {s s' : System} {now : Timestamp} {uninit : EntityId} {frame : RxFrame}
    (h : s.fnNetif now uninit frame = .ok s') :
    ∃ c out, s.controller.rxPacketEvent now uninit frame {} = .ok (c, out) ∧
      s'.controller = c := by
  obtain ⟨⟨c, out⟩, hrx, h⟩ := bind_eq_ok.1 h
  refine ⟨c, out, hrx, ?_⟩
  simp only at h
  split at h
  · cases h
    rfl
  · cases h
    rfl

theorem numbered {mac : Mac} {notifyId : Ptr} {completionStatus respStatusForCmd : Int}
    {tr : List (System × Action)} {s : System}
    (h : Run Step (.new mac notifyId completionStatus respStatusForCmd) tr s) :
    Engine.Numbered aecpSpec s.controller.globals.aecp.engine := by
  have hnew : ∀ {φ : Type} (p : EngineSpec φ), Engine.Numbered p .new := by
    intro φ p t ht
    cases ht
  have hinv := engines_invariant (G := fun _ => True) (H := fun _ => True) h
    (fun _ _ => ⟨trivial, trivial⟩) (hnew aecpSpec) (hnew acmpSpec)
    (fun _ _ _ hn _ hst => hn.step hst) fun _ _ _ hn _ hst => hn.step hst
  exact hinv.1

def readEntity : List Action :=
  [.fnNetif 0 0 (.adp (Controller.advertisement 3 0)), .fnTx 0]

def entityResponse (targetEntityId : EntityId) : AecpFrame :=
  { destMac := 1
    messageType := .aemResponse
    targetEntityId
    controllerEntityId := getControllerEntityId 1
    commandType := .readDescriptor }

end System
end AvdeccLib
