import AvdeccLib.Retransmission

namespace AvdeccLib
set_option autoImplicit true

open Runs FirstMatch

namespace EngineOp

/-- What the clock reads in a call that looks at it. -/
def now : EngineOp φ → Option Timestamp
  | .sendCmd now _ _ _ | .tick now => some now
  | .rcvdResp _ _ => none

/-- The frame that is handed over to be sent. -/
def command : EngineOp φ → Option φ
  | .sendCmd _ _ _ frame => some frame
  | .rcvdResp _ _ | .tick _ => none

end EngineOp

inductive Call where
  | sendCmd
  | rcvdResp
  | tick
  deriving DecidableEq

def EngineOp.call : EngineOp φ → Call
  | .sendCmd _ _ _ _ => .sendCmd
  | .rcvdResp _ _ => .rcvdResp
  | .tick _ => .tick

/-- Something that happened, the call it happened in and when that was. -/
structure Record (φ : Type) where
  call : Call
  time : Nat
  event : EngineEvent φ

/-- The frame of the entry is put on the wire or the entry is removed. -/
def EngineEvent.concerns (birth : Nat) : EngineEvent φ → Bool
  | .transmitted b _ => b == birth
  | .answered e | .dropped e => e.birth == birth
  | _ => false

def about (birth : Nat) (rs : List (Record φ)) : List (Record φ) :=
  rs.filter fun r => r.event.concerns birth

/-- A state machine, a clock that counts milliseconds without wrapping around, and the record of
what happened so far. -/
structure Watched (φ : Type) where
  engine : Engine φ
  clock : Nat
  records : List (Record φ)

namespace Watched

def new : Watched φ := ⟨.new, 0, []⟩

/-- One call of the state machine. Time has gone on before it, and the code sees 32 bits of
it. -/
structure Step (p : EngineSpec φ) (s : Watched φ) (op : EngineOp φ) (s' : Watched φ) :
    Prop where
  clock : s.clock ≤ s'.clock
  now : ∀ now ∈ op.now, now = BitVec.ofNat 32 s'.clock
  engine : Engine.Step p s.engine op s'.engine
  records : s'.records = s.records ++
    (s'.engine.trace.drop s.engine.trace.length).map (Record.mk op.call s'.clock)

end Watched

/-- The commands that are handed over in a run, in their order. -/
def commands (tr : List (Watched φ × EngineOp φ)) : List φ :=
  tr.filterMap fun st => st.2.command

/-- The frame of the command with the number, as it is put on the wire. -/
def EngineSpec.wireFrame (p : EngineSpec φ) (birth : Nat) (cmd : φ) : φ :=
  p.setSequenceId (.ofNat 16 birth) cmd

/-- What the records say about one command, with the timer count of its entry while it is
inflight. -/
inductive Course (p : EngineSpec φ) (birth : Nat) (cmd : φ) :
    List (Record φ) → Option (BitVec 32) → Prop where
  | sent : Course p birth cmd [⟨.sendCmd, t, .transmitted birth (p.wireFrame birth cmd)⟩]
      (some 1)
  | resent (h : t + (p.timeoutMs cmd).toNat < t') :
      Course p birth cmd [⟨.sendCmd, t, .transmitted birth (p.wireFrame birth cmd)⟩,
        ⟨.tick, t', .transmitted birth (p.wireFrame birth cmd)⟩] (some 2)
  | answered (h : Course p birth cmd rs (some n)) :
      Course p birth cmd (rs ++ [⟨.rcvdResp, t, .answered e⟩]) none
  | dropped (h : t + (p.timeoutMs cmd).toNat < t') (h' : t' + (p.timeoutMs cmd).toNat < t'') :
      Course p birth cmd [⟨.sendCmd, t, .transmitted birth (p.wireFrame birth cmd)⟩,
        ⟨.tick, t', .transmitted birth (p.wireFrame birth cmd)⟩, ⟨.tick, t'', .dropped e⟩] none

/-- Nothing is recorded about a command before it is handed over, every one that was runs its
course, and the entries of the table are those of commands that are inflight. -/
structure Lifecycle (p : EngineSpec φ) (cmds : List φ) (s : Watched φ) : Prop where
  unsent : ∀ b, cmds.length ≤ b → about b s.records = []
  course : ∀ b cmd, cmds[b]? = some cmd → Course p b cmd (about b s.records)
    ((s.engine.inflightCmds.find? fun e => e.birth == b).map (·.startTimerCnt))
  entries : ∀ e ∈ s.engine.inflightCmds, e.birth < cmds.length ∧
    (e.startTimerCnt = 1 ∨ e.startTimerCnt = 2) ∧ p.getSequenceId e.cmdFrame = e.cmdSeqId

theorem commands_snoc (tr : List (Watched φ × EngineOp φ)) (s : Watched φ) (op : EngineOp φ) :
    commands (tr ++ [(s, op)]) = commands tr ++ op.command.toList := by
  rw [commands, List.filterMap_append, List.filterMap_cons]
  cases op.command <;> rfl

theorem about_append (b : Nat) (rs rs' : List (Record φ)) :
    about b (rs ++ rs') = about b rs ++ about b rs' := List.filter_append rs rs'

theorem about_map (b : Nat) (c : Call) (t : Nat) (evs : List (EngineEvent φ)) :
    about b (evs.map (Record.mk c t)) =
      (evs.filter (EngineEvent.concerns b)).map (Record.mk c t) := by
  rw [about, List.filter_map]
  rfl

theorem filter_posts (p : EngineSpec φ) (id : Ptr) (flag : AemCmdWaiting)
    (frame : φ) (b : Nat) :
    (p.posts id flag frame).filter (EngineEvent.concerns b) = [] := by
  apply List.filter_eq_nil_iff.2
  intro ev hev
  obtain ⟨n, -, rfl⟩ := List.mem_map.1 hev
  exact Bool.false_ne_true

/-- An entry of the table: the frame that was put on the wire, and a timer that runs since it
was the last time. -/
structure Waits (p : EngineSpec φ) (cmd : φ) (clock : Nat) (e : Inflight φ)
    (rs : List (Record φ)) : Prop where
  course : Course p e.birth cmd rs (some e.startTimerCnt)
  frame : e.cmdFrame = p.wireFrame e.birth cmd
  timeoutMs : e.cmdTimeoutMs = p.timeoutMs cmd
  timer : ∃ r, rs.getLast? = some r ∧ e.cmdTimer.Since r.time clock (p.timeoutMs cmd)

theorem Waits.mono {p : EngineSpec φ} {cmd : φ} {clock clock' : Nat} {e : Inflight φ}
    {rs : List (Record φ)} (h : Waits p cmd clock e rs) (hc : clock ≤ clock') :
    Waits p cmd clock' e rs := by
  obtain ⟨r, hr, ht⟩ := h.timer
  exact ⟨h.course, h.frame, h.timeoutMs, r, hr, ht.mono hc⟩

theorem Waits.poll {p : EngineSpec φ} {cmd : φ} {clock : Nat} {e : Inflight φ}
    {rs : List (Record φ)} (h : Waits p cmd clock e rs) :
    Waits p cmd clock (e.poll (.ofNat 32 clock)) rs := by
  obtain ⟨r, hr, ht⟩ := h.timer
  exact ⟨h.course, h.frame, h.timeoutMs, r, hr, ht.poll⟩

/-- An entry whose timer is found elapsed waits for more than its timeout. -/
theorem Waits.overdue {p : EngineSpec φ} {cmd : φ} {clock : Nat} {e : Inflight φ}
    {rs : List (Record φ)} (h : Waits p cmd clock e rs)
    (ht : e.timeout (.ofNat 32 clock) = true) :
    ∃ r, rs.getLast? = some r ∧ r.time + (p.timeoutMs cmd).toNat < clock := by
  obtain ⟨r, hr, hs⟩ := h.timer
  exact ⟨r, hr, hs.poll.latched ht⟩

theorem Course.of_one {p : EngineSpec φ} {b : Nat} {cmd : φ} {rs : List (Record φ)}
    (h : Course p b cmd rs (some 1)) :
    ∃ t, rs = [⟨.sendCmd, t, .transmitted b (p.wireFrame b cmd)⟩] := by
  generalize hn : (some 1 : Option (BitVec 32)) = n at h
  cases h with
  | sent => exact ⟨_, rfl⟩
  | resent => cases hn
  | answered => cases hn
  | dropped => cases hn

theorem Course.of_two {p : EngineSpec φ} {b : Nat} {cmd : φ} {rs : List (Record φ)}
    (h : Course p b cmd rs (some 2)) :
    ∃ t t', t + (p.timeoutMs cmd).toNat < t' ∧
      rs = [⟨.sendCmd, t, .transmitted b (p.wireFrame b cmd)⟩,
        ⟨.tick, t', .transmitted b (p.wireFrame b cmd)⟩] := by
  generalize hn : (some 2 : Option (BitVec 32)) = n at h
  cases h with
  | sent => cases hn
  | resent ht => exact ⟨_, _, ht, rfl⟩
  | answered => cases hn
  | dropped => cases hn

/-- What a state machine and the records of what it did have to do with the commands that were
handed over to it. -/
structure Kept (p : EngineSpec φ) (cmds : List φ) (clock : Nat) (s : Engine φ)
    (rs : List (Record φ)) : Prop where
  issued : s.issued = cmds.length
  unsent : ∀ b, cmds.length ≤ b → about b rs = []
  inflight : ∀ e ∈ s.inflightCmds, ∃ cmd, cmds[e.birth]? = some cmd ∧
    Waits p cmd clock e (about e.birth rs)
  removed : ∀ b cmd, cmds[b]? = some cmd → (∀ e ∈ s.inflightCmds, e.birth ≠ b) →
    Course p b cmd (about b rs) none

namespace Kept

theorem new (p : EngineSpec φ) : Kept p [] 0 (.new : Engine φ) [] := by
  refine ⟨rfl, fun _ _ => rfl, ?_, ?_⟩
  · intro e he
    cases he
  · intro b cmd hb
    cases hb

theorem mono {p : EngineSpec φ} {cmds : List φ} {clock clock' : Nat} {s : Engine φ}
    {rs : List (Record φ)} (h : Kept p cmds clock s rs) (hc : clock ≤ clock') :
    Kept p cmds clock' s rs := by
  refine ⟨h.issued, h.unsent, ?_, h.removed⟩
  intro e he
  obtain ⟨cmd, hcmd, hw⟩ := h.inflight e he
  exact ⟨cmd, hcmd, hw.mono hc⟩

theorem stateSendCmd {p : EngineSpec φ} {cmds : List φ} {clock : Nat} {s : Engine φ}
    {rs : List (Record φ)} (h : Kept p cmds clock s rs) (hc : s.Counted p) (id : Ptr)
    (flag : AemCmdWaiting) (frame : φ) :
    ∃ evs, (s.stateSendCmd p (.ofNat 32 clock) id flag frame).trace = s.trace ++ evs ∧
      Kept p (cmds ++ [frame]) clock (s.stateSendCmd p (.ofNat 32 clock) id flag frame)
        (rs ++ evs.map (Record.mk .sendCmd clock)) := by
  obtain ⟨evs, hevs⟩ : ∃ evs, EngineEvent.pushed
      (Engine.sentEntry p (.ofNat 32 clock) s id flag frame) ::
      .transmitted s.issued (p.setSequenceId s.seqId frame) ::
      p.posts id flag (p.setSequenceId s.seqId frame) = evs := ⟨_, rfl⟩
  refine ⟨evs, hevs ▸ rfl, ?_⟩
  have hseq : p.setSequenceId s.seqId frame = p.wireFrame s.issued frame := by
    rw [EngineSpec.wireFrame, hc.seqId]
  have hwire : ∀ b, about b (rs ++ evs.map (Record.mk .sendCmd clock)) =
      about b rs ++ if s.issued = b then
        [⟨.sendCmd, clock, .transmitted s.issued (p.wireFrame s.issued frame)⟩] else [] := by
    intro b
    rw [about_append, about_map, ← hevs, hseq, List.filter_cons, List.filter_cons, filter_posts]
    simp only [EngineEvent.concerns, Bool.false_eq_true, if_false, beq_iff_eq]
    split <;> rfl
  have hin : (s.stateSendCmd p (.ofNat 32 clock) id flag frame).inflightCmds =
      s.inflightCmds ++ [Engine.sentEntry p (.ofNat 32 clock) s id flag frame] := rfl
  have hold : ∀ b, b < s.issued →
      about b (rs ++ evs.map (Record.mk .sendCmd clock)) = about b rs := by
    intro b hb
    rw [hwire, if_neg (Nat.ne_of_gt hb), List.append_nil]
  refine ⟨?_, ?_, ?_, ?_⟩
  · show s.issued + 1 = _
    rw [h.issued, List.length_append, List.length_singleton]
  · intro b hb
    rw [List.length_append, List.length_singleton, ← h.issued] at hb
    rw [hwire, if_neg (by omega), List.append_nil]
    exact h.unsent b (by rw [← h.issued]; omega)
  · intro e he
    rw [hin] at he
    rcases List.mem_append.1 he with he | he
    · obtain ⟨cmd, hcmd, hw⟩ := h.inflight e he
      refine ⟨cmd, ?_, ?_⟩
      · rw [List.getElem?_append_left (List.getElem?_eq_some_iff.1 hcmd).1]
        exact hcmd
      · rw [hold _ (hc.entries e he).birth]
        exact hw
    · rw [List.mem_singleton.1 he]
      have hbirth : (Engine.sentEntry p (.ofNat 32 clock) s id flag frame).birth =
        s.issued := rfl
      rw [hbirth, hwire, if_pos rfl, h.unsent _ (Nat.le_of_eq h.issued.symm), List.nil_append]
      refine ⟨frame, ?_, .sent, hseq, rfl, _, rfl, Timer.Since.start _ _⟩
      rw [h.issued]
      exact List.getElem?_concat_length
  · intro b cmd hb hne
    have hbne : b ≠ s.issued := by
      intro hb
      apply hne (Engine.sentEntry p (.ofNat 32 clock) s id flag frame)
      · rw [hin]
        exact List.mem_append_right _ (List.mem_singleton.2 rfl)
      · exact hb.symm
    have hlt := (List.getElem?_eq_some_iff.1 hb).1
    rw [List.length_append, List.length_singleton, ← h.issued] at hlt
    have hbs : b < s.issued := by omega
    rw [hold b hbs]
    rw [List.getElem?_append_left (by rw [← h.issued]; exact hbs)] at hb
    apply h.removed b cmd hb
    intro e he
    apply hne e
    rw [hin]
    exact List.mem_append_left _ he

theorem remove {p : EngineSpec φ} {cmds : List φ} {clock : Nat} {s : Engine φ}
    {rs : List (Record φ)} (h : Kept p cmds clock s rs)
    (hnodup : (s.inflightCmds.map (·.birth)).Nodup) {e : Inflight φ} {l : List (Inflight φ)}
    (hperm : s.inflightCmds.Perm (e :: l)) {c : Call} (ev : EngineEvent φ)
    {evs : List (EngineEvent φ)}
    (hevs : ∀ b, evs.filter (EngineEvent.concerns b) = if e.birth = b then [ev] else [])
    (hcourse : ∀ cmd, Waits p cmd clock e (about e.birth rs) →
      Course p e.birth cmd (about e.birth rs ++ [⟨c, clock, ev⟩]) none) :
    Kept p cmds clock ({ s with inflightCmds := l }.log evs)
      (rs ++ evs.map (Record.mk c clock)) := by
  have hwire : ∀ b, about b (rs ++ evs.map (Record.mk c clock)) =
      about b rs ++ if e.birth = b then [⟨c, clock, ev⟩] else [] := by
    intro b
    rw [about_append, about_map, hevs]
    split <;> rfl
  have hbirths := (hperm.map (·.birth)).nodup_iff.1 hnodup
  rw [List.map_cons, List.nodup_cons] at hbirths
  have he := hperm.mem_iff.2 List.mem_cons_self
  obtain ⟨cmd, hcmd, hw⟩ := h.inflight e he
  refine ⟨h.issued, ?_, ?_, ?_⟩
  · intro b hb
    have hlt := (List.getElem?_eq_some_iff.1 hcmd).1
    rw [hwire, if_neg (by omega), List.append_nil]
    exact h.unsent b hb
  · intro e' he'
    have hne : e.birth ≠ e'.birth := by
      intro hb
      exact hbirths.1 (List.mem_map.2 ⟨e', he', hb.symm⟩)
    rw [hwire, if_neg hne, List.append_nil]
    exact h.inflight e' (hperm.mem_iff.2 (List.mem_cons_of_mem _ he'))
  · intro b cmd' hb hne
    rw [hwire]
    by_cases hbe : e.birth = b
    · subst hbe
      obtain rfl := Option.some.inj (hcmd.symm.trans hb)
      rw [if_pos rfl]
      exact hcourse cmd hw
    · rw [if_neg hbe, List.append_nil]
      apply h.removed b cmd' hb
      intro e' he'
      rcases List.mem_cons.1 (hperm.mem_iff.1 he') with rfl | he'
      · exact hbe
      · exact hne e' he'

theorem set {p : EngineSpec φ} {cmds : List φ} {clock : Nat} {s : Engine φ}
    {rs : List (Record φ)} (h : Kept p cmds clock s rs)
    (hnodup : (s.inflightCmds.map (·.birth)).Nodup) {i : Nat} {e : Inflight φ}
    (e' : Inflight φ) (hi : s.inflightCmds[i]? = some e) (hb : e'.birth = e.birth) {c : Call}
    {evs : List (EngineEvent φ)}
    (hevs : ∀ b, b ≠ e.birth → evs.filter (EngineEvent.concerns b) = [])
    (hwaits : ∀ cmd, Waits p cmd clock e (about e.birth rs) → Waits p cmd clock e'
      (about e.birth rs ++ (evs.filter (EngineEvent.concerns e.birth)).map
        (Record.mk c clock))) :
    Kept p cmds clock ({ s with inflightCmds := s.inflightCmds.set i e' }.log evs)
      (rs ++ evs.map (Record.mk c clock)) := by
  have hold : ∀ b, b ≠ e.birth → about b (rs ++ evs.map (Record.mk c clock)) = about b rs := by
    intro b hne
    rw [about_append, about_map, hevs b hne, List.map_nil, List.append_nil]
  obtain ⟨cmd, hcmd, hw⟩ := h.inflight e (List.mem_of_getElem? hi)
  have hmem : ∀ x ∈ s.inflightCmds.set i e', x = e' ∨ x ∈ s.inflightCmds ∧ x.birth ≠ e.birth :=
    fun x hx => mem_set_of_nodup hnodup hi hx
  refine ⟨h.issued, ?_, ?_, ?_⟩
  · intro b hle
    have hlt := (List.getElem?_eq_some_iff.1 hcmd).1
    rw [hold b (by omega)]
    exact h.unsent b hle
  · intro x hx
    rcases hmem x hx with rfl | ⟨hx, hne⟩
    · rw [hb, about_append, about_map]
      exact ⟨cmd, hcmd, hwaits cmd hw⟩
    · rw [hold _ hne]
      exact h.inflight x hx
  · intro b cmd' hcmd' hne
    have hbirths : ∀ x ∈ s.inflightCmds, x.birth ≠ b := by
      intro x hx hxb
      have hm : x.birth ∈ (s.inflightCmds.set i e').map (·.birth) := by
        rw [map_set hi hb]
        exact List.mem_map_of_mem hx
      obtain ⟨y, hy, hyx⟩ := List.mem_map.1 hm
      exact hne y hy (hyx.trans hxb)
    rw [hold b (hbirths e (List.mem_of_getElem? hi)).symm]
    exact h.removed b cmd' hcmd' hbirths

theorem procResp {p : EngineSpec φ} {cmds : List φ} {clock : Nat} {s : Engine φ}
    {rs : List (Record φ)} (h : Kept p cmds clock s rs) (hc : s.Counted p) (id : Ptr)
    (frame : φ) :
    ∃ evs, (s.procResp p id frame).1.trace = s.trace ++ evs ∧
      Kept p cmds clock (s.procResp p id frame).1
        (rs ++ evs.map (Record.mk .rcvdResp clock)) := by
  cases hf : s.inflightCmds.find? (Engine.seqIdComp (p.getSequenceId frame)) with
  | none =>
    rw [Engine.procResp_of_none hf]
    refine ⟨[], (List.append_nil _).symm, ?_⟩
    rw [List.map_nil, List.append_nil]
    exact h
  | some j =>
    rw [Engine.procResp_of_some hf]
    refine ⟨_, rfl, ?_⟩
    apply h.remove hc.births (perm_eraseP hf) (.answered j)
    · intro b
      rw [List.filter_append, filter_posts, List.nil_append, List.filter_cons]
      simp only [EngineEvent.concerns, beq_iff_eq, List.filter_nil]
    · intro cmd hw
      exact .answered hw.course

theorem visit {p : EngineSpec φ} {cmds : List φ} {clock : Nat} {s s' : Engine φ} {i : Nat}
    {rs : List (Record φ)} (h : Kept p cmds clock s rs) (hc : s.Counted p) (hwin : s.Window)
    (hv : Engine.Visit p (.ofNat 32 clock) s i s') :
    ∃ evs, s'.trace = s.trace ++ evs ∧
      Kept p cmds clock s' (rs ++ evs.map (Record.mk .tick clock)) := by
  cases hv with
  | absent =>
    refine ⟨[], (List.append_nil _).symm, ?_⟩
    rw [List.map_nil, List.append_nil]
    exact h
  | waits hi =>
    rename_i e _
    have hset : Kept p cmds clock
        ({ s with inflightCmds := s.inflightCmds.set i (e.poll (.ofNat 32 clock)) }.log [])
        (rs ++ [].map (Record.mk .tick clock)) :=
      h.set hc.births (e.poll (.ofNat 32 clock)) hi rfl (fun _ _ => rfl) ?_
    · refine ⟨[], (List.append_nil _).symm, ?_⟩
      rw [Engine.log, List.append_nil] at hset
      exact hset
    · intro cmd hw
      rw [List.filter_nil, List.map_nil, List.append_nil]
      exact hw.poll
  | drops hi ht hr =>
    rename_i e
    refine ⟨_, rfl, ?_⟩
    apply h.remove hc.births (perm_eraseIdx hi) (.dropped (e.poll (.ofNat 32 clock)))
    · intro b
      rw [List.filter_cons, List.filter_cons]
      simp only [EngineEvent.concerns, Bool.false_eq_true, if_false, beq_iff_eq,
        List.filter_nil]
      rfl
    · intro cmd hw
      obtain ⟨r, hlast, hlate⟩ := hw.overdue ht
      have hcourse := hw.course
      rw [(hc.entries e (List.mem_of_getElem? hi)).sent_twice hr] at hcourse
      obtain ⟨t, t', hresent, hrs⟩ := hcourse.of_two
      rw [hrs] at hlast ⊢
      cases hlast
      exact .dropped hresent hlate
  | resends hi ht hr =>
    rename_i e
    rw [hc.restart_eq hwin _ hi]
    refine ⟨_, rfl, ?_⟩
    apply h.set hc.births ((e.poll (.ofNat 32 clock)).startTimer (.ofNat 32 clock)) hi rfl
    · intro b hne
      rw [List.filter_cons, filter_posts, if_neg]
      rw [EngineEvent.concerns, beq_iff_eq]
      exact hne.symm
    · intro cmd hw
      have he := hc.entries e (List.mem_of_getElem? hi)
      obtain ⟨r, hlast, hlate⟩ := hw.overdue ht
      have hcourse := hw.course
      rw [he.sent_once hr] at hcourse
      obtain ⟨t, hrs⟩ := hcourse.of_one
      have hconcerns : EngineEvent.concerns e.birth (.transmitted e.birth e.cmdFrame) = true :=
        beq_self_eq_true _
      rw [List.filter_cons, if_pos hconcerns, filter_posts, hrs, hw.frame]
      rw [hrs] at hlast
      cases hlast
      refine ⟨?_, hw.frame, hw.timeoutMs, _, rfl, ?_⟩
      · rw [he.restarted hr]
        exact .resent hlate
      · rw [← hw.timeoutMs]
        exact Timer.Since.start _ _

theorem tick {p : EngineSpec φ} {cmds : List φ} {clock : Nat} {s : Engine φ}
    {rs : List (Record φ)} (h : Kept p cmds clock s rs) (hc : s.Counted p) (hwin : s.Window) :
    ∃ evs, (s.tick p (.ofNat 32 clock)).trace = s.trace ++ evs ∧
      Kept p cmds clock (s.tick p (.ofNat 32 clock))
        (rs ++ evs.map (Record.mk .tick clock)) := by
  let P (s' : Engine φ) : Prop := ∃ evs, s'.trace = s.trace ++ evs ∧
    Kept p cmds clock s' (rs ++ evs.map (Record.mk .tick clock)) ∧ s'.Counted p ∧ s'.Window
  have hnew : P s := by
    refine ⟨[], (List.append_nil _).symm, ?_, hc, hwin⟩
    rw [List.map_nil, List.append_nil]
    exact h
  have hvisit : ∀ s₁ i s₂, P s₁ → Engine.Visit p (.ofNat 32 clock) s₁ i s₂ → P s₂ := by
    intro s₁ i s₂ ⟨evs, htrace, hk, hc, hwin⟩ hv
    obtain ⟨evs', htrace', hk'⟩ := hk.visit hc hwin hv
    refine ⟨evs ++ evs', ?_, ?_, hc.visit hwin hv, hwin.visit hv⟩
    · rw [htrace', htrace, List.append_assoc]
    · rw [List.map_append, ← List.append_assoc]
      exact hk'
  obtain ⟨evs, htrace, hk, -, -⟩ : P (s.tick p (.ofNat 32 clock)) :=
    Engine.tick_induction hnew hvisit
  exact ⟨evs, htrace, hk⟩

theorem call {p : EngineSpec φ} {cmds : List φ} {clock : Nat} {s s' : Engine φ}
    {rs : List (Record φ)} {op : EngineOp φ} (h : Kept p cmds clock s rs) (hc : s.Counted p)
    (hwin : s.Window) (hnow : ∀ now ∈ op.now, now = .ofNat 32 clock)
    (hs : Engine.Step p s op s') :
    ∃ evs, s'.trace = s.trace ++ evs ∧
      Kept p (cmds ++ op.command.toList) clock s'
        (rs ++ evs.map (Record.mk op.call clock)) := by
  cases hs with
  | sendCmd =>
    rw [hnow _ rfl]
    exact h.stateSendCmd hc _ _ _
  | rcvdResp =>
    rw [EngineOp.command, Option.toList_none, List.append_nil]
    exact h.procResp hc _ _
  | tick =>
    rw [EngineOp.command, Option.toList_none, List.append_nil, hnow _ rfl]
    exact h.tick hc hwin

/-- A call of the state machine keeps the records in step with its table. -/
theorem step {p : EngineSpec φ} {cmds : List φ} {s s' : Watched φ} {op : EngineOp φ}
    (h : Kept p cmds s.clock s.engine s.records) (hc : s.engine.Counted p)
    (hwin : s.engine.Window) (hs : Watched.Step p s op s') :
    Kept p (cmds ++ op.command.toList) s'.clock s'.engine s'.records := by
  obtain ⟨evs, htrace, hk⟩ := (h.mono hs.clock).call hc hwin hs.now hs.engine
  rw [hs.records, htrace, List.drop_left]
  exact hk

theorem lifecycle {p : EngineSpec φ} {cmds : List φ} {s : Watched φ}
    (h : Kept p cmds s.clock s.engine s.records) (hc : s.engine.Counted p) :
    Lifecycle p cmds s := by
  refine ⟨h.unsent, ?_, ?_⟩
  · intro b cmd hb
    cases hf : s.engine.inflightCmds.find? fun e => e.birth == b with
    | none =>
      apply h.removed b cmd hb
      intro e he hbe
      exact List.find?_eq_none.1 hf e he (beq_iff_eq.2 hbe)
    | some e =>
      obtain rfl := eq_of_beq (List.find?_some hf :)
      obtain ⟨cmd', hcmd, hw⟩ := h.inflight e (List.mem_of_find?_eq_some hf)
      obtain rfl := Option.some.inj (hcmd.symm.trans hb)
      exact hw.course
  · intro e he
    obtain ⟨cmd, hcmd, -⟩ := h.inflight e he
    exact ⟨(List.getElem?_eq_some_iff.1 hcmd).1, (hc.entries e he).range,
      (hc.entries e he).frame⟩

theorem run {p : EngineSpec φ} {tr : List (Watched φ × EngineOp φ)} {s : Watched φ}
    (hr : Run (Watched.Step p) .new tr s) (hw : Along (fun s _ => s.engine.Window) tr) :
    Kept p (commands tr) s.clock s.engine s.records ∧ s.engine.Counted p := by
  induction hr with
  | nil => exact ⟨.new p, .new p⟩
  | snoc hr hst ih =>
    obtain ⟨hw, hwin⟩ := along_snoc.1 hw
    obtain ⟨hk, hc⟩ := ih hw
    rw [commands_snoc]
    exact ⟨hk.step hc hwin hst, hc.step hwin hst.engine⟩

end Kept

/-- Every command that is handed over to one of the two state machines runs its course: it is
put on the wire once, at most once more after its timeout, unchanged, and dropped only after the
timeout of that. -/
theorem command_lifecycle :
    (∀ tr s, Run (Watched.Step aecpSpec) .new tr s → Along (fun s _ => s.engine.Window) tr →
      Lifecycle aecpSpec (commands tr) s) ∧
    (∀ tr s, Run (Watched.Step acmpSpec) .new tr s → Along (fun s _ => s.engine.Window) tr →
      Lifecycle acmpSpec (commands tr) s) := by
  constructor
  · intro tr s hr hw
    obtain ⟨hk, hc⟩ := Kept.run hr hw
    exact hk.lifecycle hc
  · intro tr s hr hw
    obtain ⟨hk, hc⟩ := Kept.run hr hw
    exact hk.lifecycle hc

namespace Watched

def after (s : Watched φ) (clock : Nat) (op : EngineOp φ) (engine : Engine φ) : Watched φ :=
  ⟨engine, clock, s.records ++
    (engine.trace.drop s.engine.trace.length).map (Record.mk op.call clock)⟩

theorem step_after {p : EngineSpec φ} {s : Watched φ} {clock : Nat} {op : EngineOp φ}
    {engine : Engine φ} (hc : s.clock ≤ clock) (hn : ∀ now ∈ op.now, now = .ofNat 32 clock)
    (hs : Engine.Step p s.engine op engine) : Step p s op (s.after clock op engine) :=
  ⟨hc, hn, hs, rfl⟩

/-- A command is sent, resent and dropped when nothing answers it. -/
def unanswered (p : EngineSpec φ) (frame : φ) (t : Nat) :
    List (Watched φ × EngineOp φ) × Watched φ :=
  let send := .sendCmd 0 1 .cmdWithNotification frame
  let sent := new.after 0 send (Engine.new.stateSendCmd p 0 1 .cmdWithNotification frame)
  let resent := sent.after t (.tick (.ofNat 32 t)) (sent.engine.tick p (.ofNat 32 t))
  let dropped := resent.after (2 * t) (.tick (.ofNat 32 (2 * t)))
    (resent.engine.tick p (.ofNat 32 (2 * t)))
  ([(new, send), (sent, .tick (.ofNat 32 t)), (resent, .tick (.ofNat 32 (2 * t)))], dropped)

theorem run_unanswered (p : EngineSpec φ) {frame : φ}
    (h : p.isResponse frame = false) (t : Nat) :
    Run (Step p) .new (unanswered p frame t).1 (unanswered p frame t).2 := by
  have hnow : ∀ clock, ∀ now ∈ (EngineOp.tick (φ := φ) (.ofNat 32 clock)).now,
      now = .ofNat 32 clock := by
    intro clock now hn
    exact (Option.some.inj hn).symm
  have hsend :
    ∀ id frame, ∀ now ∈ (EngineOp.sendCmd (φ := φ) 0 id .cmdWithNotification frame).now,
      now = .ofNat 32 0 := by
    intro id frame now hn
    exact (Option.some.inj hn).symm
  have hnew : Run (Step p) .new [] .new := .nil
  have hsent := hnew.snoc (step_after (Nat.le_refl 0)
    (hsend 1 frame) (.sendCmd h))
  have hresent := hsent.snoc (step_after (Nat.zero_le t) (hnow t) .tick)
  exact hresent.snoc (step_after (Nat.le_mul_of_pos_left t Nat.two_pos) (hnow (2 * t)) .tick)

end Watched

theorem command_lifecycle_unanswered :
    let read : AecpFrame := { messageType := .aemCommand, targetEntityId := 3
                              controllerEntityId := 1, commandType := .readDescriptor }
    let getRxState : AcmpFrame := { messageType := .getRxStateCommand, controllerEntityId := 1 }
    (Watched.unanswered aecpSpec read 300).2.records.length = 5 ∧
    Lifecycle aecpSpec [read] (Watched.unanswered aecpSpec read 300).2 ∧
    (Watched.unanswered acmpSpec getRxState 300).2.records.length = 5 ∧
    Lifecycle acmpSpec [getRxState] (Watched.unanswered acmpSpec getRxState 300).2 := by
  refine ⟨by decide, ?_, by decide, ?_⟩
  · exact command_lifecycle.1 _ _ (Watched.run_unanswered aecpSpec rfl 300)
      (by unfold Along Engine.Window; decide)
  · exact command_lifecycle.2 _ _ (Watched.run_unanswered acmpSpec rfl 300)
      (by unfold Along Engine.Window; decide)

end AvdeccLib
