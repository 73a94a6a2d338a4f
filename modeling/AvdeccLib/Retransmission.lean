import AvdeccLib.Conservation

namespace AvdeccLib
set_option autoImplicit true

open FirstMatch

def EngineEvent.transmits (birth : Nat) : EngineEvent φ → Bool
  | .transmitted b _ => b == birth
  | _ => false

namespace Engine

/-- How often the frame of the entry with the number was put on the wire. -/
def transmissions (s : Engine φ) (birth : Nat) : Nat :=
  s.trace.countP (EngineEvent.transmits birth)

/-- Fewer than 65536 commands were issued since any of the inflight ones was. -/
def Window (s : Engine φ) : Prop := ∀ e ∈ s.inflightCmds, s.issued ≤ e.birth + 65536

/-- An entry has the sequence id of its number and counts its own transmissions. -/
structure Entry (p : EngineSpec φ) (s : Engine φ) (e : Inflight φ) : Prop where
  birth : e.birth < s.issued
  seqId : e.cmdSeqId = BitVec.ofNat 16 e.birth
  frame : p.getSequenceId e.cmdFrame = e.cmdSeqId
  count : s.transmissions e.birth = e.startTimerCnt.toNat
  range : e.startTimerCnt = 1 ∨ e.startTimerCnt = 2

theorem Entry.sent_twice {p : EngineSpec φ} {s : Engine φ} {e : Inflight φ} (h : Entry p s e)
    (hr : e.retried = true) : e.startTimerCnt = 2 := by
  rcases h.range with hone | htwo
  · rw [Inflight.retried, hone] at hr
    cases hr
  · exact htwo

theorem Entry.sent_once {p : EngineSpec φ} {s : Engine φ} {e : Inflight φ} (h : Entry p s e)
    (hr : e.retried = false) : e.startTimerCnt = 1 := by
  rcases h.range with hone | htwo
  · exact hone
  · rw [Inflight.retried, htwo] at hr
    cases hr

theorem Entry.restarted {p : EngineSpec φ} {s : Engine φ} {e : Inflight φ} (h : Entry p s e)
    (hr : e.retried = false) (now : Timestamp) :
    ((e.poll now).startTimer now).startTimerCnt = 2 := by
  show e.startTimerCnt + 1 = 2
  rw [h.sent_once hr]
  rfl

structure Counted (p : EngineSpec φ) (s : Engine φ) : Prop where
  seqId : s.seqId = BitVec.ofNat 16 s.issued
  births : (s.inflightCmds.map (·.birth)).Nodup
  entries : ∀ e ∈ s.inflightCmds, Entry p s e
  fresh : ∀ b, s.issued ≤ b → s.transmissions b = 0
  dropped : ∀ e, .dropped e ∈ s.trace → s.transmissions e.birth = 2 ∧ e.birth < s.issued ∧
    ∀ e' ∈ s.inflightCmds, e'.birth ≠ e.birth

theorem Counted.new (p : EngineSpec φ) : Counted p (.new : Engine φ) := by
  refine ⟨rfl, List.nodup_nil, ?_, fun _ _ => rfl, ?_⟩
  · intro e he
    cases he
  · intro e he
    cases he

theorem transmissions_log (s : Engine φ) (evs : List (EngineEvent φ)) (b : Nat) :
    (s.log evs).transmissions b = s.transmissions b + evs.countP (EngineEvent.transmits b) :=
  List.countP_append

theorem countP_posts (p : EngineSpec φ) (id : Ptr) (flag : AemCmdWaiting)
    (frame : φ) (b : Nat) :
    (p.posts id flag frame).countP (EngineEvent.transmits b) = 0 := by
  apply List.countP_eq_zero.2
  intro ev hev
  obtain ⟨n, -, rfl⟩ := List.mem_map.1 hev
  exact Bool.false_ne_true

theorem dropped_not_mem_posts {p : EngineSpec φ} {id : Ptr} {flag : AemCmdWaiting} {frame : φ}
    {e : Inflight φ} : EngineEvent.dropped e ∉ p.posts id flag frame := by
  intro h
  obtain ⟨n, -, hn⟩ := List.mem_map.1 h
  cases hn

theorem Entry.mono {p : EngineSpec φ} {s s' : Engine φ} {e : Inflight φ} (h : Entry p s e)
    (hi : s.issued ≤ s'.issued) (ht : s'.transmissions e.birth = s.transmissions e.birth) :
    Entry p s' e :=
  ⟨Nat.lt_of_lt_of_le h.birth hi, h.seqId, h.frame, ht.trans h.count, h.range⟩

theorem Counted.stateSendCmd {p : EngineSpec φ} {s : Engine φ} (h : Counted p s)
    (now : Timestamp)
    (id : Ptr) (flag : AemCmdWaiting) (frame : φ) :
    Counted p (s.stateSendCmd p now id flag frame) := by
  have htrans : ∀ b, (s.stateSendCmd p now id flag frame).transmissions b =
      s.transmissions b + if s.issued = b then 1 else 0 := by
    intro b
    rw [stateSendCmd_eq, transmissions, List.countP_append, List.countP_cons, List.countP_cons,
      countP_posts]
    simp only [EngineEvent.transmits, transmissions, Bool.false_eq_true, if_false, beq_iff_eq,
      Nat.zero_add, Nat.add_zero]
  have hissued : (s.stateSendCmd p now id flag frame).issued = s.issued + 1 := rfl
  have hin : (s.stateSendCmd p now id flag frame).inflightCmds =
      s.inflightCmds ++ [sentEntry p now s id flag frame] := rfl
  have hbirth : (sentEntry p now s id flag frame).birth = s.issued := rfl
  refine ⟨?_, ?_, ?_, ?_, ?_⟩
  · have hseq : (s.stateSendCmd p now id flag frame).seqId = s.seqId + 1 := rfl
    rw [hseq, hissued, h.seqId, BitVec.ofNat_add]
    rfl
  · rw [hin, List.map_append]
    apply List.Nodup.append h.births (List.nodup_singleton _)
    apply List.disjoint_singleton.2
    intro hm
    obtain ⟨e, he, hb⟩ := List.mem_map.1 hm
    have hlt := (h.entries e he).birth
    exact absurd (hb.trans hbirth) (Nat.ne_of_lt hlt)
  · intro e he
    rw [hin] at he
    rcases List.mem_append.1 he with he | he
    · have hlt := (h.entries e he).birth
      apply (h.entries e he).mono (by omega)
      rw [htrans, if_neg (by omega), Nat.add_zero]
    · rw [List.mem_singleton.1 he]
      refine ⟨by omega, h.seqId, p.get_set _ _, ?_, .inl rfl⟩
      rw [htrans, hbirth, h.fresh s.issued (Nat.le_refl _), if_pos rfl]
      rfl
  · intro b hb
    rw [htrans, h.fresh b (by omega), if_neg (by omega)]
  · intro e he
    have hold : .dropped e ∈ s.trace := by
      rw [stateSendCmd_eq] at he
      rcases List.mem_append.1 he with he | he
      · exact he
      · simp only [List.mem_cons, reduceCtorEq, false_or] at he
        exact absurd he dropped_not_mem_posts
    obtain ⟨htwo, hlt, hne⟩ := h.dropped e hold
    refine ⟨?_, by omega, ?_⟩
    · rw [htrans, htwo, if_neg (by omega)]
    · intro e' he'
      rw [hin] at he'
      rcases List.mem_append.1 he' with he' | he'
      · exact hne e' he'
      · rw [List.mem_singleton.1 he']
        omega

theorem Counted.sublist {p : EngineSpec φ} {s : Engine φ} (h : Counted p s)
    {l : List (Inflight φ)} {evs : List (EngineEvent φ)} (hl : l.Sublist s.inflightCmds)
    (hevs : ∀ b, evs.countP (EngineEvent.transmits b) = 0)
    (hdrop : ∀ e, .dropped e ∈ evs → s.transmissions e.birth = 2 ∧ e.birth < s.issued ∧
      ∀ e' ∈ l, e'.birth ≠ e.birth) :
    Counted p ({ s with inflightCmds := l }.log evs) := by
  have htrans : ∀ b, ({ s with inflightCmds := l }.log evs).transmissions b =
      s.transmissions b := by
    intro b
    rw [transmissions_log, hevs]
    rfl
  refine ⟨h.seqId, h.births.sublist (hl.map _), ?_, ?_, ?_⟩
  · intro e he
    exact (h.entries e (hl.subset he)).mono (Nat.le_refl _) (htrans _)
  · intro b hb
    rw [htrans]
    exact h.fresh b hb
  · intro e he
    rw [htrans]
    rcases List.mem_append.1 he with he | he
    · obtain ⟨htwo, hlt, hne⟩ := h.dropped e he
      exact ⟨htwo, hlt, fun e' he' => hne e' (hl.subset he')⟩
    · exact hdrop e he

theorem Counted.procResp {p : EngineSpec φ} {s : Engine φ} (h : Counted p s) (id : Ptr)
    (frame : φ) : Counted p (s.procResp p id frame).1 := by
  cases hf : s.inflightCmds.find? (seqIdComp (p.getSequenceId frame)) with
  | none =>
    rw [procResp_of_none hf]
    exact h
  | some j =>
    rw [procResp_of_some hf]
    apply h.sublist List.eraseP_sublist
    · intro b
      rw [List.countP_append, countP_posts]
      rfl
    · intro e he
      rcases List.mem_append.1 he with he | he
      · exact absurd he dropped_not_mem_posts
      · cases List.mem_singleton.1 he

theorem Counted.birth_of_seqId {p : EngineSpec φ} {s : Engine φ} (h : Counted p s)
    (hw : s.Window) {e e' : Inflight φ} (he : e ∈ s.inflightCmds) (he' : e' ∈ s.inflightCmds)
    (hs : e.cmdSeqId = e'.cmdSeqId) : e.birth = e'.birth := by
  have hlt := (h.entries e he).birth
  have hlt' := (h.entries e' he').birth
  have hb := hw e he
  have hb' := hw e' he'
  rw [(h.entries e he).seqId, (h.entries e' he').seqId] at hs
  have hmod := congrArg BitVec.toNat hs
  rw [BitVec.toNat_ofNat, BitVec.toNat_ofNat] at hmod
  omega

theorem Counted.restart_eq {p : EngineSpec φ} {s : Engine φ} (h : Counted p s) (hw : s.Window)
    {i : Nat} {e : Inflight φ} (now : Timestamp) (hi : s.inflightCmds[i]? = some e) :
    modifyFirst (seqIdComp (p.getSequenceId e.cmdFrame)) (·.startTimer now)
      (s.inflightCmds.set i (e.poll now)) =
        s.inflightCmds.set i ((e.poll now).startTimer now) := by
  have he := List.mem_of_getElem? hi
  obtain ⟨hlt, -⟩ := List.getElem?_eq_some_iff.1 hi
  rw [modifyFirst_eq_set (a := e.poll now), List.set_set]
  · exact List.getElem?_set_self hlt
  · rw [(h.entries e he).frame]
    exact beq_self_eq_true _
  · intro j b hj hb
    rw [List.getElem?_set_ne (Nat.ne_of_gt hj)] at hb
    by_contra hs
    have hs : b.cmdSeqId = p.getSequenceId e.cmdFrame := eq_of_beq (Bool.not_eq_false _ ▸ hs)
    rw [(h.entries e he).frame] at hs
    have hbirth := h.birth_of_seqId hw (List.mem_of_getElem? hb) he hs
    have hjlt : j < (s.inflightCmds.map (·.birth)).length := by
      rw [List.length_map]
      omega
    have hji := (List.getElem?_inj hjlt h.births (j := i)).1 (by
      rw [List.getElem?_map, List.getElem?_map, hb, hi]
      exact congrArg some hbirth)
    omega

theorem Counted.set {p : EngineSpec φ} {s : Engine φ} (h : Counted p s) {i : Nat}
    {e : Inflight φ} (e' : Inflight φ) (evs : List (EngineEvent φ))
    (hi : s.inflightCmds[i]? = some e) (hb : e'.birth = e.birth)
    (hevs : ∀ b, b ≠ e.birth → evs.countP (EngineEvent.transmits b) = 0)
    (hdrop : ∀ d, .dropped d ∉ evs)
    (he' : Entry p ({ s with inflightCmds := s.inflightCmds.set i e' }.log evs) e') :
    Counted p ({ s with inflightCmds := s.inflightCmds.set i e' }.log evs) := by
  have he := List.mem_of_getElem? hi
  have htrans : ∀ b, b ≠ e.birth →
      ({ s with inflightCmds := s.inflightCmds.set i e' }.log evs).transmissions b =
        s.transmissions b := by
    intro b hne
    rw [transmissions_log, hevs b hne]
    rfl
  have hmem : ∀ c ∈ s.inflightCmds.set i e', c = e' ∨ c ∈ s.inflightCmds ∧ c.birth ≠ e.birth :=
    fun c hc => mem_set_of_nodup h.births hi hc
  refine ⟨h.seqId, ?_, ?_, ?_, ?_⟩
  · show ((s.inflightCmds.set i e').map (·.birth)).Nodup
    rw [map_set hi hb]
    exact h.births
  · intro c hc
    rcases hmem c hc with rfl | ⟨hc, hne⟩
    · exact he'
    · exact (h.entries c hc).mono (Nat.le_refl _) (htrans _ hne)
  · intro b hle
    have hle : s.issued ≤ b := hle
    have hlt := (h.entries e he).birth
    rw [htrans b (by omega)]
    exact h.fresh b hle
  · intro d hd
    have hd : .dropped d ∈ s.trace := by
      rcases List.mem_append.1 hd with hd | hd
      · exact hd
      · exact absurd hd (hdrop d)
    obtain ⟨htwo, hlt, hne⟩ := h.dropped d hd
    rw [htrans _ (hne e he).symm]
    refine ⟨htwo, hlt, ?_⟩
    intro c hc
    rcases hmem c hc with rfl | ⟨hc, -⟩
    · rw [hb]
      exact hne e he
    · exact hne c hc

theorem Counted.visit {p : EngineSpec φ} {now : Timestamp} {s s' : Engine φ} {i : Nat}
    (h : Counted p s) (hw : s.Window) (hv : Visit p now s i s') : Counted p s' := by
  cases hv with
  | absent => exact h
  | waits hi =>
    rename_i e _
    have he := h.entries e (List.mem_of_getElem? hi)
    have hlog := h.set (e.poll now) [] hi rfl (fun _ _ => rfl) (fun _ => List.not_mem_nil)
      ⟨he.birth, he.seqId, he.frame, ?_, he.range⟩
    · rw [log, List.append_nil] at hlog
      exact hlog
    · rw [transmissions_log]
      exact he.count
  | drops hi ht hr =>
    rename_i e
    have he := h.entries e (List.mem_of_getElem? hi)
    apply h.sublist (List.eraseIdx_sublist _ _) (fun _ => rfl)
    intro d hd
    simp only [List.mem_cons, reduceCtorEq, EngineEvent.dropped.injEq,
      List.not_mem_nil, or_false, false_or] at hd
    subst hd
    refine ⟨?_, he.birth, ?_⟩
    · have hcount := he.count
      rw [he.sent_twice hr] at hcount
      exact hcount
    · intro e' he' hb
      have hperm := (perm_eraseIdx hi).map (·.birth)
      have hnodup := hperm.nodup_iff.1 h.births
      exact (List.nodup_cons.1 hnodup).1 (List.mem_map.2 ⟨e', he', hb⟩)
  | resends hi ht hr =>
    rename_i e
    have he := h.entries e (List.mem_of_getElem? hi)
    rw [h.restart_eq hw now hi]
    apply h.set ((e.poll now).startTimer now) _ hi rfl
    · intro b hne
      rw [List.countP_cons, countP_posts, if_neg]
      rw [EngineEvent.transmits, beq_iff_eq]
      exact hne.symm
    · intro d hd
      simp only [List.mem_cons, reduceCtorEq, false_or] at hd
      exact dropped_not_mem_posts hd
    · have hcnt := he.restarted hr now
      refine ⟨he.birth, he.seqId, he.frame, ?_, .inr hcnt⟩
      have hcount := he.count
      rw [he.sent_once hr] at hcount
      have hsent : EngineEvent.transmits ((e.poll now).startTimer now).birth
          (.transmitted e.birth e.cmdFrame) = true := beq_self_eq_true _
      rw [hcnt, transmissions_log, List.countP_cons, countP_posts, if_pos hsent]
      show s.transmissions e.birth + _ = _
      rw [hcount]
      rfl

theorem Window.visit {p : EngineSpec φ} {now : Timestamp} {s s' : Engine φ} {i : Nat}
    (hw : s.Window) (hv : Visit p now s i s') : s'.Window := by
  intro e he
  have ht : e.ticket ∈ s.tickets := by
    have hmem : e.ticket ∈ s'.tickets := List.mem_map_of_mem he
    rcases hv.tickets with htick | htick
    · rwa [htick] at hmem
    · rw [htick] at hmem
      exact List.mem_of_mem_eraseIdx hmem
  obtain ⟨e₀, he₀, hte⟩ := List.mem_map.1 ht
  have hb : e₀.birth = e.birth := congrArg Ticket.birth hte
  rw [hv.issued, ← hb]
  exact hw e₀ he₀

/-- Within the window the state machine keeps count of the transmissions. -/
theorem Counted.step {p : EngineSpec φ} {s s' : Engine φ} {op : EngineOp φ} (h : Counted p s)
    (hw : s.Window) (hs : Step p s op s') : Counted p s' := by
  cases hs with
  | sendCmd _ => exact h.stateSendCmd _ _ _ _
  | rcvdResp _ => exact h.procResp _ _
  | tick =>
    have htick : ∀ now, Counted p (s.tick p now) ∧ (s.tick p now).Window := by
      intro now
      apply tick_induction (P := fun s => Counted p s ∧ s.Window) ⟨h, hw⟩
      intro s i s' ⟨hc, hw⟩ hv
      exact ⟨hc.visit hw hv, hw.visit hv⟩
    exact (htick _).1

end Engine
end AvdeccLib
