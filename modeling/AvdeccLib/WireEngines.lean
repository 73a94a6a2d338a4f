import AvdeccLib.AcmpFrames
import AvdeccLib.SequenceIds

namespace AvdeccLib
set_option autoImplicit true
open BigEndian Runs FirstMatch

/-- A state machine for frames that are decoded by `read`, where `set` stores a sequence id. -/
def EngineSpec.decoded (q : EngineSpec ψ) (read : φ → ψ) (set : BitVec 16 → φ → φ)
    (h : ∀ seqId x, read (set seqId x) = q.setSequenceId seqId (read x)) : EngineSpec φ where
  getSequenceId x := q.getSequenceId (read x)
  setSequenceId := set
  timeoutMs x := q.timeoutMs (read x)
  isResponse x := q.isResponse (read x)
  callback id flag x := q.callback id flag (read x)
  timeoutNotification x id := q.timeoutNotification (read x) id
  get_set seqId x := by rw [h, q.get_set]
  isResponse_set seqId x := by rw [h, q.isResponse_set]
  callback_response id x := q.callback_response id (read x)
  callback_other id flag x := q.callback_other id flag (read x)
  timeoutNotification_id x id := q.timeoutNotification_id (read x) id

section
variable (read : φ → ψ)

def Inflight.map (e : Inflight φ) : Inflight ψ :=
  ⟨read e.cmdFrame, e.cmdNotificationFlag, e.cmdTimer, e.cmdTimeoutMs,
    e.startTimerCnt, e.cmdSeqId,
    e.cmdNotificationId, e.birth⟩

def EngineEvent.map : EngineEvent φ → EngineEvent ψ
  | .pushed e => .pushed (e.map read)
  | .transmitted birth frame => .transmitted birth (read frame)
  | .posted n => .posted n
  | .answered e => .answered (e.map read)
  | .dropped e => .dropped (e.map read)

def EngineOp.map : EngineOp φ → EngineOp ψ
  | .sendCmd now id flag frame => .sendCmd now id flag (read frame)
  | .rcvdResp id frame => .rcvdResp id (read frame)
  | .tick now => .tick now

def Engine.map (s : Engine φ) : Engine ψ :=
  ⟨s.seqId, s.inflightCmds.map (·.map read), s.issued, s.trace.map (·.map read)⟩

end

namespace Engine
variable {q : EngineSpec ψ} {read : φ → ψ} {set : BitVec 16 → φ → φ}
  {h : ∀ seqId x, read (set seqId x) = q.setSequenceId seqId (read x)}

theorem map_log (s : Engine φ) (evs : List (EngineEvent φ)) :
    (s.log evs).map read = (s.map read).log (evs.map (·.map read)) := by
  rw [log, log, map, map, List.map_append]

theorem map_posts (id : Ptr) (flag : AemCmdWaiting) (frame : φ) :
    ((q.decoded read set h).posts id flag frame).map (·.map read) =
      q.posts id flag (read frame) := by
  rw [EngineSpec.posts, EngineSpec.posts, List.map_map]
  rfl

theorem map_modifyFirst (now : Timestamp) (seqId : BitVec 16) (l : List (Inflight φ)) :
    (modifyFirst (seqIdComp seqId) (·.startTimer now) l).map (·.map read) =
      modifyFirst (seqIdComp seqId) (·.startTimer now) (l.map (·.map read)) := by
  symm
  apply modifyFirst_map_map
  · intro e
    rfl
  · intro e
    rfl

theorem map_txCmd (now : Timestamp) (s : Engine φ) (birth : Nat) (id : Ptr)
    (flag : AemCmdWaiting)
    (frame : φ) (resend : Bool) :
    (s.txCmd (q.decoded read set h) now birth id flag frame resend).map read =
      (s.map read).txCmd q now birth id flag (read frame) resend := by
  cases resend with
  | false =>
    have hseqId : (s.map read).seqId = s.seqId := rfl
    have hpushed : ∀ e : Inflight φ, Engine.map read { s with
        seqId := s.seqId + 1
        inflightCmds := s.inflightCmds ++ [e]
        issued := s.issued + 1 } = { s.map read with
        seqId := s.seqId + 1
        inflightCmds := (s.map read).inflightCmds ++ [e.map read]
        issued := s.issued + 1 } := by
      intro e
      rw [map, List.map_append]
      rfl
    simp only [txCmd, Bool.not_false, if_true]
    rw [map_log, hpushed, hseqId, ← h, List.map_cons, List.map_cons, map_posts]
    rfl
  | true =>
    have hrestarted : Engine.map read { s with
        inflightCmds := modifyFirst (seqIdComp (q.getSequenceId (read frame)))
          (·.startTimer now)
          s.inflightCmds } = { s.map read with
        inflightCmds := modifyFirst (seqIdComp (q.getSequenceId (read frame)))
          (·.startTimer now)
          (s.map read).inflightCmds } := by
      rw [map, map_modifyFirst]
      rfl
    have hget : (q.decoded read set h).getSequenceId frame = q.getSequenceId (read frame) := rfl
    simp only [txCmd, Bool.not_true, Bool.false_eq_true, if_false]
    rw [map_log, hget, hrestarted, List.map_cons, map_posts]
    rfl

theorem map_stateSendCmd (now : Timestamp) (s : Engine φ) (id : Ptr) (flag : AemCmdWaiting)
    (frame : φ) :
    (s.stateSendCmd (q.decoded read set h) now id flag frame).map read =
      (s.map read).stateSendCmd q now id flag (read frame) := map_txCmd ..

theorem map_find? (seqId : BitVec 16) (l : List (Inflight φ)) :
    (l.map (·.map read)).find? (seqIdComp seqId) =
      (l.find? (seqIdComp seqId)).map (·.map read) :=
  List.find?_map ..

theorem map_procResp (s : Engine φ) (id : Ptr) (frame : φ) :
    ((s.procResp (q.decoded read set h) id frame).1.map read,
      (s.procResp (q.decoded read set h) id frame).2) =
      (s.map read).procResp q id (read frame) := by
  have hfind : (s.map read).inflightCmds.find? (seqIdComp (q.getSequenceId (read frame))) =
      (s.inflightCmds.find? (seqIdComp (q.getSequenceId (read frame)))).map (·.map read) :=
    map_find? ..
  cases hj : s.inflightCmds.find? (seqIdComp (q.getSequenceId (read frame))) with
  | none =>
    rw [hj] at hfind
    rw [procResp_of_none (p := q.decoded read set h) hj, procResp_of_none hfind]
  | some j =>
    rw [hj] at hfind
    rw [procResp_of_some (p := q.decoded read set h) hj, procResp_of_some hfind]
    have herased : Engine.map read { s with
        inflightCmds := s.inflightCmds.eraseP (seqIdComp (q.getSequenceId (read frame))) } =
        { s.map read with
          inflightCmds := (s.map read).inflightCmds.eraseP
            (seqIdComp (q.getSequenceId (read frame))) } := by
      have hcomp := List.eraseP_map (f := fun e => e.map read)
        (p := seqIdComp (q.getSequenceId (read frame))) (l := s.inflightCmds)
      exact congrArg (Engine.mk _ · _ _) hcomp.symm
    have hget : (q.decoded read set h).getSequenceId frame = q.getSequenceId (read frame) := rfl
    rw [hget, map_log, List.map_append, map_posts, herased]
    rfl

theorem map_stateTimeout (now : Timestamp) (s : Engine φ) (i : Nat) (e : Inflight φ) :
    (s.stateTimeout (q.decoded read set h) now i e).map read =
      (s.map read).stateTimeout q now i (e.map read) := by
  have hretried : (e.map read).retried = e.retried := rfl
  rw [stateTimeout, stateTimeout, hretried]
  split
  · have herased : Engine.map read { s with inflightCmds := s.inflightCmds.eraseIdx i } =
        { s.map read with inflightCmds := (s.map read).inflightCmds.eraseIdx i } :=
      congrArg (Engine.mk _ · _ _) (List.eraseIdx_map ..).symm
    rw [map_log, herased]
    rfl
  · exact map_txCmd ..

theorem map_tickAt (now : Timestamp) (s : Engine φ) (i : Nat) :
    (s.tickAt (q.decoded read set h) now i).map read = (s.map read).tickAt q now i := by
  have hget : (s.map read).inflightCmds[i]? = s.inflightCmds[i]?.map (·.map read) :=
    List.getElem?_map ..
  rw [tickAt, tickAt, hget]
  cases s.inflightCmds[i]? with
  | none => rfl
  | some e =>
    have hset : Engine.map read { s with inflightCmds := s.inflightCmds.set i (e.poll now) } =
        { s.map read with
          inflightCmds := (s.map read).inflightCmds.set i ((e.map read).poll now) } := by
      rw [map, map, List.map_set]
      rfl
    have htimeout : (e.map read).timeout now = e.timeout now := rfl
    dsimp only [Option.map_some]
    rw [htimeout, ← hset]
    split
    · exact map_stateTimeout ..
    · rfl

theorem map_tick (now : Timestamp) (s : Engine φ) :
    (s.tick (q.decoded read set h) now).map read = (s.map read).tick q now := by
  have hlen : (s.map read).inflightCmds.length = s.inflightCmds.length := List.length_map ..
  rw [tick, tick, hlen]
  clear hlen
  generalize List.range s.inflightCmds.length = is
  induction is generalizing s with
  | nil => rfl
  | cons i is ih => rw [List.foldl_cons, List.foldl_cons, ih, map_tickAt]

theorem map_step {s s' : Engine φ} {op : EngineOp φ}
    (hs : Step (q.decoded read set h) s op s') :
    Step q (s.map read) (op.map read) (s'.map read) := by
  cases hs with
  | sendCmd hf =>
    rw [map_stateSendCmd]
    exact .sendCmd hf
  | @rcvdResp id frame hf =>
    have hresp := congrArg Prod.fst (map_procResp (h := h) s id frame)
    dsimp only at hresp
    rw [hresp]
    exact .rcvdResp hf
  | tick =>
    rw [map_tick]
    exact .tick

/-- A run on frames that are decoded on demand is a run on the decoded frames. -/
theorem map_run {s s' : Engine φ} {tr : List (Engine φ × EngineOp φ)}
    (hr : Run (Step (q.decoded read set h)) s tr s') :
    Run (Step q) (s.map read) (tr.map fun p => (p.1.map read, p.2.map read)) (s'.map read) := by
  induction hr with
  | nil => exact .nil
  | snoc _ hs ih =>
    rw [List.map_append]
    exact ih.snoc (map_step hs)

section
variable {p : EngineSpec φ} {c : BitVec 16} {sent : List φ} {s s' : Engine φ}

/-- What is put on the wire for an entry is the frame of the list that has its number. -/
def Resends (sent : List φ) (s : Engine φ) : Prop :=
  ∀ b x, EngineEvent.transmitted b x ∈ s.trace → sent[b]? = some x

theorem Resends.quiet {evs : List (EngineEvent φ)} (hr : Resends sent s)
    (htrace : s'.trace = s.trace ++ evs) (hevs : ∀ b x, EngineEvent.transmitted b x ∉ evs) :
    Resends sent s' := by
  intro b x hx
  rw [htrace] at hx
  rcases List.mem_append.1 hx with hx | hx
  · exact hr b x hx
  · exact absurd hx (hevs b x)

theorem transmitted_notMem_posts (id : Ptr) (flag : AemCmdWaiting) (frame : φ)
    (b : Nat) (x : φ) :
    EngineEvent.transmitted b x ∉ p.posts id flag frame := by
  intro hx
  obtain ⟨n, -, h⟩ := List.mem_map.1 hx
  cases h

theorem Resends.stateSendCmd (hs : Sequenced p c sent s) (hr : Resends sent s) (now : Timestamp)
    (id : Ptr) (flag : AemCmdWaiting) (frame : φ) :
    Resends (sent ++ [p.setSequenceId s.seqId frame]) (s.stateSendCmd p now id flag frame) := by
  intro b x hx
  rw [stateSendCmd_eq] at hx
  rcases List.mem_append.1 hx with hx | hx
  · have hb := hr b x hx
    rw [List.getElem?_append_left (List.getElem?_eq_some_iff.1 hb).1]
    exact hb
  · rcases List.mem_cons.1 hx with hx | hx
    · cases hx
    · rcases List.mem_cons.1 hx with hx | hx
      · cases hx
        rw [hs.issued]
        exact List.getElem?_concat_length
      · exact absurd hx (transmitted_notMem_posts _ _ _ _ _)

theorem Resends.procResp (hr : Resends sent s) (id : Ptr) (frame : φ) :
    Resends sent (s.procResp p id frame).1 := by
  cases hj : s.inflightCmds.find? (seqIdComp (p.getSequenceId frame)) with
  | none =>
    rw [procResp_of_none hj]
    exact hr
  | some j =>
    rw [procResp_of_some hj]
    apply hr.quiet (log_trace _ _)
    intro b x hx
    rcases List.mem_append.1 hx with hx | hx
    · exact transmitted_notMem_posts _ _ _ _ _ hx
    · cases List.mem_singleton.1 hx

theorem Resends.visit {now : Timestamp} {i : Nat} (hs : Sequenced p c sent s)
    (hr : Resends sent s) (hv : Visit p now s i s') : Resends sent s' := by
  cases hv with
  | absent => exact hr
  | waits h ht => exact hr
  | drops h ht hretried =>
    apply hr.quiet (log_trace _ _)
    intro b x hx
    rcases List.mem_cons.1 hx with hx | hx
    · cases hx
    · cases List.mem_singleton.1 hx
  | @resends e h ht hretried =>
    intro b x hx
    rw [log_trace] at hx
    rcases List.mem_append.1 hx with hx | hx
    · exact hr b x hx
    · rcases List.mem_cons.1 hx with hx | hx
      · cases hx
        exact hs.sent_at (List.mem_of_getElem? h)
      · exact absurd hx (transmitted_notMem_posts _ _ _ _ _)

theorem Resends.tick (hs : Sequenced p c sent s) (hr : Resends sent s) (now : Timestamp) :
    Resends sent (s.tick p now) := by
  have hboth : Sequenced p c sent (s.tick p now) ∧ Resends sent (s.tick p now) := by
    apply tick_induction (P := fun s => Sequenced p c sent s ∧ Resends sent s) ⟨hs, hr⟩
    rintro s i s' ⟨hs, hr⟩ hv
    exact ⟨hs.of_sublist hv.tickets_sublist hv.seqId hv.issued, hr.visit hs hv⟩
  exact hboth.2

/-- All transmissions of a command are of one frame: that of its first. -/
theorem resends_run {tr : List (Engine φ × EngineOp φ)}
    (h : Run (Step p) { new with seqId := c } tr s) : Resends (firstTransmissions p tr) s := by
  induction h with
  | nil =>
    intro b x hx
    cases hx
  | @snoc tr t op u hrun hst ih =>
    have hs := sequenced hrun
    cases hst with
    | sendCmd hf =>
      rw [firstTransmissions_sendCmd]
      exact ih.stateSendCmd hs _ _ _ _
    | rcvdResp hf =>
      rw [firstTransmissions, List.flatMap_append, List.flatMap_singleton, List.append_nil]
      exact ih.procResp _ _
    | tick =>
      rw [firstTransmissions, List.flatMap_append, List.flatMap_singleton, List.append_nil]
      exact ih.tick hs _

/-- A frame on the wire is one that was passed to the state machine, with the sequence id of its
number. -/
def SentAs (p : EngineSpec φ) (c : BitVec 16) (tr : List (Engine φ × EngineOp φ)) (b : Nat)
    (x : φ) : Prop :=
  ∃ t now id flag cmd, (t, EngineOp.sendCmd now id flag cmd) ∈ tr ∧ t.issued = b ∧
    x = p.setSequenceId (c + BitVec.ofNat 16 b) cmd

theorem SentAs.snoc {tr : List (Engine φ × EngineOp φ)} {b : Nat} {x : φ} {op : EngineOp φ}
    (h : SentAs p c tr b x) : SentAs p c (tr ++ [(s, op)]) b x := by
  obtain ⟨t, now, id, flag, cmd, hmem, hx⟩ := h
  exact ⟨t, now, id, flag, cmd, List.mem_append_left _ hmem, hx⟩

theorem sentAs_of_run {tr : List (Engine φ × EngineOp φ)}
    (h : Run (Step p) { new with seqId := c } tr s) :
    ∀ b x, (firstTransmissions p tr)[b]? = some x → SentAs p c tr b x := by
  induction h with
  | nil =>
    intro b x hx
    cases hx
  | @snoc tr t op u hrun hst ih =>
    have hs := sequenced hrun
    have hquiet : firstTransmissions p (tr ++ [(t, op)]) = firstTransmissions p tr →
        ∀ b x, (firstTransmissions p (tr ++ [(t, op)]))[b]? = some x →
          SentAs p c (tr ++ [(t, op)]) b x := by
      intro heq b x hx
      rw [heq] at hx
      exact (ih b x hx).snoc
    cases hst with
    | @sendCmd now id flag frame hf =>
      intro b x hx
      rw [firstTransmissions_sendCmd] at hx
      rcases Nat.lt_or_ge b (firstTransmissions p tr).length with hlt | hge
      · rw [List.getElem?_append_left hlt] at hx
        exact (ih b x hx).snoc
      · rw [List.getElem?_append_right hge, List.getElem?_singleton] at hx
        split at hx
        · next hzero =>
          cases hx
          have hb : b = (firstTransmissions p tr).length := by omega
          refine ⟨t, now, id, flag, frame, List.mem_append_right _ (List.mem_singleton_self _),
            hs.issued.trans hb.symm, ?_⟩
          rw [hs.counter, hb]
        · cases hx
    | rcvdResp hf =>
      apply hquiet
      rw [firstTransmissions, List.flatMap_append, List.flatMap_singleton, List.append_nil]
      rfl
    | tick =>
      apply hquiet
      rw [firstTransmissions, List.flatMap_append, List.flatMap_singleton, List.append_nil]
      rfl

theorem sentAs_of_transmitted {tr : List (Engine φ × EngineOp φ)} {b : Nat} {x : φ}
    (h : Run (Step p) { new with seqId := c } tr s) (hx : .transmitted b x ∈ s.trace) :
    SentAs p c tr b x :=
  sentAs_of_run h b x (resends_run h b x hx)

end
end Engine

/-- The payload of a `jdksavdecc_frame`, which has the two bytes of a sequence id at a
position. -/
def Payload (pos : Nat) : Type := { bytes : List Byte // pos + 2 ≤ bytes.length }

namespace Payload
variable {pos : Nat}

/-- `jdksavdecc_acmpdu_set_sequence_id` and its counterpart for AECP. -/
def setSequenceId (seqId : BitVec 16) (x : Payload pos) : Payload pos :=
  ⟨x.1.take pos ++ writeFields [⟨2, seqId⟩] ++ x.1.drop (pos + 2), by
    have hlen := x.2
    have hfield : (writeFields [⟨2, seqId⟩]).length = 2 := writeFields_length _
    rw [List.length_append, List.length_append, List.length_take, List.length_drop, hfield]
    omega⟩

theorem writeAt_setSequenceId (seqId : BitVec 16) (x : Payload pos) :
    writeAt pos (writeFields [⟨2, seqId⟩]) x.1 = some (x.setSequenceId seqId).1 := by
  have hfield : (writeFields [⟨2, seqId⟩]).length = 2 := writeFields_length _
  rw [writeAt, hfield, if_pos x.2]
  rfl

theorem get_front {w n : Nat} (seqId : BitVec 16) (x : Payload pos) (h : n + w ≤ pos) :
    get w n (x.setSequenceId seqId).1 = get w n x.1 :=
  get_writeAt_front (x.writeAt_setSequenceId seqId) h

theorem get_behind {w n : Nat} (seqId : BitVec 16) (x : Payload pos) (h : pos + 2 ≤ n) :
    get w n (x.setSequenceId seqId).1 = get w n x.1 := by
  apply get_writeAt_behind (x.writeAt_setSequenceId seqId)
  rw [writeFields_length]
  exact h

theorem get_setSequenceId (seqId : BitVec 16) (x : Payload pos) :
    get 2 pos (x.setSequenceId seqId).1 = seqId :=
  get_writeAt [] ⟨2, seqId⟩ (x.writeAt_setSequenceId seqId)

end Payload

theorem AemCommandType.le_descriptorPos (c : AemCommandType) : 38 ≤ c.descriptorPos := by
  cases c with
  | acquireEntity | lockEntity | readDescriptor => decide
  | _ => exact Nat.le_refl 38

theorem AecpFrame.ofPayload_setSequenceId (seqId : BitVec 16) (x : Payload 34) :
    AecpFrame.ofPayload (x.setSequenceId seqId).1 =
      { AecpFrame.ofPayload x.1 with sequenceId := seqId } := by
  have hfront : ∀ w n, n + w ≤ 34 → get w n (x.setSequenceId seqId).1 = get w n x.1 :=
    fun w n h => x.get_front seqId h
  have hbehind : ∀ w n, 36 ≤ n → get w n (x.setSequenceId seqId).1 = get w n x.1 :=
    fun w n h => x.get_behind seqId h
  have hcommand := AemCommandType.le_descriptorPos
    (.ofCode ((get 2 36 x.1).extractLsb' 0 15))
  have hread := AemCommandType.le_descriptorPos .readDescriptor
  simp only [AecpFrame.ofPayload]
  rw [hfront 1 15 (by decide), hfront 2 16 (by decide), hfront 8 18 (by decide),
    hfront 8 26 (by decide), x.get_setSequenceId, hbehind 2 36 (by decide),
    hbehind 2 _ (by omega), hbehind 2 _ (by omega), hbehind 2 _ (by omega),
    hbehind 2 _ (by omega)]

theorem AcmpFrame.ofPayload_setSequenceId (seqId : BitVec 16) (x : Payload 62) :
    AcmpFrame.ofPayload (x.setSequenceId seqId).1 =
      { AcmpFrame.ofPayload x.1 with sequenceId := seqId } := by
  have hfront : ∀ w n, n + w ≤ 62 → get w n (x.setSequenceId seqId).1 = get w n x.1 :=
    fun w n h => x.get_front seqId h
  simp only [AcmpFrame.ofPayload]
  rw [hfront 1 15 (by decide), hfront 2 16 (by decide), hfront 8 26 (by decide),
    hfront 8 34 (by decide), hfront 8 42 (by decide), hfront 2 50 (by decide),
    hfront 2 52 (by decide), x.get_setSequenceId, x.get_behind seqId (by decide)]

/-- The two state machines on payloads. -/
def aecpWireSpec : EngineSpec (Payload 34) :=
  aecpSpec.decoded (fun x => AecpFrame.ofPayload x.1) Payload.setSequenceId
    AecpFrame.ofPayload_setSequenceId

def acmpWireSpec : EngineSpec (Payload 62) :=
  acmpSpec.decoded (fun x => AcmpFrame.ofPayload x.1) Payload.setSequenceId
    AcmpFrame.ofPayload_setSequenceId

/-- The state machines on the bytes of their frames do what they do on the decoded frames. What
they put on the wire is what was queued, but for the two bytes of the sequence id, in both
transmissions of a command. -/
theorem wire_engines {c c' : BitVec 16}
    {tr : List (Engine (Payload 34) × EngineOp (Payload 34))} {s : Engine (Payload 34)}
    {tr' : List (Engine (Payload 62) × EngineOp (Payload 62))} {s' : Engine (Payload 62)}
    (h : Run (Engine.Step aecpWireSpec) { Engine.new with seqId := c } tr s)
    (h' : Run (Engine.Step acmpWireSpec) { Engine.new with seqId := c' } tr' s') :
    let aecp := fun x : Payload 34 => AecpFrame.ofPayload x.1
    let acmp := fun x : Payload 62 => AcmpFrame.ofPayload x.1
    (Run (Engine.Step aecpSpec) { Engine.new with seqId := c }
        (tr.map fun p => (p.1.map aecp, p.2.map aecp)) (s.map aecp) ∧
      ∀ b x, .transmitted b x ∈ s.trace → Engine.SentAs aecpWireSpec c tr b x) ∧
    (Run (Engine.Step acmpSpec) { Engine.new with seqId := c' }
        (tr'.map fun p => (p.1.map acmp, p.2.map acmp)) (s'.map acmp) ∧
      ∀ b x, .transmitted b x ∈ s'.trace → Engine.SentAs acmpWireSpec c' tr' b x) :=
  ⟨⟨Engine.map_run h, fun _ _ hx => Engine.sentAs_of_transmitted h hx⟩,
    ⟨Engine.map_run h', fun _ _ hx => Engine.sentAs_of_transmitted h' hx⟩⟩

/-- Two AECP commands of which the first is sent again, and an ACMP command that is answered.
Every byte of the payloads but that of the message type is filled. -/
theorem wire_engines_resent :
    ∃ (tr : List (Engine (Payload 34) × EngineOp (Payload 34))) (s : Engine (Payload 34))
      (tr' : List (Engine (Payload 62) × EngineOp (Payload 62))) (s' : Engine (Payload 62)),
      Run (Engine.Step aecpWireSpec) { Engine.new with seqId := 0xffff } tr s ∧
      s.trace.length = 5 ∧ s.inflightCmds.length = 2 ∧
      Run (Engine.Step acmpWireSpec) .new tr' s' ∧ s'.inflightCmds = [] ∧
      (∀ b x, .transmitted b x ∈ s.trace → Engine.SentAs aecpWireSpec 0xffff tr b x) ∧
      ∀ b x, .transmitted b x ∈ s'.trace → Engine.SentAs acmpWireSpec 0 tr' b x := by
  let aecp : Payload 34 := ⟨List.replicate 15 0xa5 ++ 0 :: List.replicate 70 0x5a, by decide⟩
  let acmp : Payload 62 := ⟨List.replicate 15 0xa5 ++ 6 :: List.replicate 60 0x5a, by decide⟩
  let response : Payload 62 := ⟨List.replicate 15 0xa5 ++ 7 :: List.replicate 60 0, by decide⟩
  have hrun : Run (Engine.Step aecpWireSpec) { Engine.new with seqId := 0xffff } _ _ :=
    ((Run.nil.snoc (e := .sendCmd 0 1 .cmdWithNotification aecp) (.sendCmd rfl)).snoc
      (e := .sendCmd 800 2 .cmdWithNotification aecp) (.sendCmd rfl)).snoc
      (e := .tick 1000) .tick
  have hrun' : Run (Engine.Step acmpWireSpec) { Engine.new with seqId := 0 } _ _ :=
    (Run.nil.snoc (e := .sendCmd 0 3 .cmdWithNotification acmp) (.sendCmd rfl)).snoc
      (e := .rcvdResp 3 response) (.rcvdResp rfl)
  obtain ⟨⟨-, haecp⟩, -, hacmp⟩ := wire_engines hrun hrun'
  exact ⟨_, _, _, _, hrun, by decide, by decide, hrun', by decide, haecp, hacmp⟩

end AvdeccLib
