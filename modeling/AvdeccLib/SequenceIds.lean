import AvdeccLib.Retransmission
import AvdeccLib.Library.Ring

namespace AvdeccLib
set_option autoImplicit true

open Runs FirstMatch

def EngineEvent.wireFrame : EngineEvent φ → Option φ
  | .transmitted _ frame => some frame
  | _ => none

namespace Engine

/-- The frames that `tx_cmd` has put on the wire in the calls that send a new command. -/
def firstTransmissions (p : EngineSpec φ) (tr : List (Engine φ × EngineOp φ)) : List φ :=
  tr.flatMap fun st => match st.2 with
    | .sendCmd now id flag frame =>
      ((st.1.stateSendCmd p now id flag frame).trace.drop st.1.trace.length).filterMap
        EngineEvent.wireFrame
    | _ => []

/-- A sequence id finds one entry at most: what `find_if` returns is what it is asked for. -/
structure Unambiguous (l : List (Inflight φ)) : Prop where
  distinct : (l.map (·.cmdSeqId)).Nodup
  find : ∀ seqId e, l.find? (seqIdComp seqId) = some e ↔ e ∈ l ∧ e.cmdSeqId = seqId
  modify : ∀ f i e, l[i]? = some e → modifyFirst (seqIdComp e.cmdSeqId) f l = l.set i (f e)

/-- The counter of a state machine that began with `c` and has put the frames `sent` on the wire
as first transmissions, and its table. -/
structure Sequenced (p : EngineSpec φ) (c : BitVec 16) (sent : List φ) (s : Engine φ) :
    Prop where
  ids : ∀ k frame, sent[k]? = some frame → p.getSequenceId frame = c + BitVec.ofNat 16 k
  counter : s.seqId = c + BitVec.ofNat 16 sent.length
  issued : s.issued = sent.length
  inOrder : (s.inflightCmds.map fun e => (e.cmdFrame, e.birth)).Sublist sent.zipIdx
  seqIds : ∀ e ∈ s.inflightCmds, e.cmdSeqId = p.getSequenceId e.cmdFrame

/-- The oldest inflight entry is among the last 65536 first transmissions. -/
def Recent (sent : List φ) (s : Engine φ) : Prop :=
  ∀ e, s.inflightCmds.head? = some e → sent.length ≤ e.birth + 65536

section
variable {p : EngineSpec φ} {c : BitVec 16} {sent : List φ} {s s' : Engine φ}

theorem Unambiguous.of_nodup {l : List (Inflight φ)} (h : (l.map (·.cmdSeqId)).Nodup) :
    Unambiguous l := by
  have hinj : ∀ e ∈ l, ∀ e' ∈ l, e.cmdSeqId = e'.cmdSeqId → e = e' :=
    fun e he e' he' heq => List.inj_on_of_nodup_map h he he' heq
  refine ⟨h, ?_, ?_⟩
  · intro seqId e
    constructor
    · intro hf
      have hid : seqIdComp seqId e = true := List.find?_some hf
      exact ⟨List.mem_of_find?_eq_some hf, eq_of_beq hid⟩
    · rintro ⟨he, hid⟩
      cases hf : l.find? (seqIdComp seqId) with
      | none =>
        have hnot := List.find?_eq_none.1 hf e he
        exact absurd (beq_iff_eq.2 hid) hnot
      | some e' =>
        have hid' : seqIdComp seqId e' = true := List.find?_some hf
        rw [hinj e he e' (List.mem_of_find?_eq_some hf) (hid.trans (eq_of_beq hid').symm)]
  · intro f i e hi
    have hself : seqIdComp e.cmdSeqId e = true := beq_self_eq_true e.cmdSeqId
    apply modifyFirst_eq_set f hi hself
    intro j b hj hb
    apply beq_eq_false_iff_ne.2
    intro heq
    obtain ⟨hlt, -⟩ := List.getElem?_eq_some_iff.1 hb
    have hlt' : j < (l.map (·.cmdSeqId)).length := by rwa [List.length_map]
    have hji := (List.getElem?_inj hlt' h (j := i)).1 (by
      rw [List.getElem?_map, List.getElem?_map, hb, hi]
      exact congrArg some heq)
    omega

theorem Sequenced.new (p : EngineSpec φ) (c : BitVec 16) :
    Sequenced p c [] { new with seqId := c } := by
  refine ⟨?_, (BitVec.add_zero c).symm, rfl, .slnil, ?_⟩
  · intro k frame h
    cases h
  · intro e he
    cases he

theorem Sequenced.of_sublist (h : Sequenced p c sent s) (ht : s'.tickets.Sublist s.tickets)
    (hseq : s'.seqId = s.seqId) (hissued : s'.issued = s.issued) : Sequenced p c sent s' := by
  have hpairs : ∀ t : Engine φ, (t.inflightCmds.map fun e => (e.cmdFrame, e.birth)) =
      t.tickets.map fun t => (t.frame, t.birth) := by
    intro t
    rw [tickets, List.map_map]
    rfl
  refine ⟨h.ids, hseq.trans h.counter, hissued.trans h.issued, ?_, ?_⟩
  · have hin := h.inOrder
    rw [hpairs] at hin ⊢
    exact (ht.map _).trans hin
  · intro e he
    obtain ⟨e₀, he₀, hte⟩ := List.mem_map.1 (ht.subset (List.mem_map_of_mem he))
    have hseqId : e₀.cmdSeqId = e.cmdSeqId := congrArg Ticket.seqId hte
    have hframe : e₀.cmdFrame = e.cmdFrame := congrArg Ticket.frame hte
    rw [← hseqId, ← hframe]
    exact h.seqIds e₀ he₀

theorem Sequenced.stateSendCmd (h : Sequenced p c sent s) (now : Timestamp) (id : Ptr)
    (flag : AemCmdWaiting) (frame : φ) :
    Sequenced p c (sent ++ [p.setSequenceId s.seqId frame])
      (s.stateSendCmd p now id flag frame) := by
  rw [stateSendCmd_eq]
  refine ⟨?_, ?_, ?_, ?_, ?_⟩
  · intro k f hk
    rcases Nat.lt_or_ge k sent.length with hlt | hge
    · rw [List.getElem?_append_left hlt] at hk
      exact h.ids k f hk
    · rw [List.getElem?_append_right hge, List.getElem?_singleton] at hk
      split at hk
      · cases hk
        rw [p.get_set, h.counter]
        congr 2
        omega
      · cases hk
  · rw [List.length_append, h.counter, BitVec.add_assoc, BitVec.ofNat_add]
    rfl
  · rw [List.length_append, h.issued]
    rfl
  · rw [List.map_append, List.zipIdx_append]
    apply h.inOrder.append
    rw [Nat.zero_add, ← h.issued]
    exact .refl _
  · intro e he
    rcases List.mem_append.1 he with he | he
    · exact h.seqIds e he
    · rw [List.mem_singleton.1 he]
      exact (p.get_set _ _).symm

theorem Sequenced.procResp (h : Sequenced p c sent s) (id : Ptr) (frame : φ) :
    Sequenced p c sent (s.procResp p id frame).1 := by
  cases hj : s.inflightCmds.find? (seqIdComp (p.getSequenceId frame)) with
  | none =>
    rw [procResp_of_none hj]
    exact h
  | some j =>
    rw [procResp_of_some hj]
    exact h.of_sublist (List.eraseP_sublist.map _) rfl rfl

theorem Visit.tickets_sublist {now : Timestamp} {i : Nat} (hv : Visit p now s i s') :
    s'.tickets.Sublist s.tickets := by
  rcases hv.tickets with ht | ht
  · rw [ht]
  · rw [ht]
    exact List.eraseIdx_sublist _ _

/-- The table in the middle of a `tick`: entries may have left it, and nothing else has changed
that the sequence ids depend on. -/
theorem tickUpTo_frame (p : EngineSpec φ) (now : Timestamp) (s : Engine φ) (k : Nat) :
    (tickUpTo p now s k).tickets.Sublist s.tickets ∧ (tickUpTo p now s k).seqId = s.seqId ∧
      (tickUpTo p now s k).issued = s.issued := by
  induction k with
  | zero => exact ⟨.refl _, rfl, rfl⟩
  | succ k ih =>
    obtain ⟨ht, hseq, hissued⟩ := ih
    have hv := tickAt_visit p now (tickUpTo p now s k) k
    rw [tickUpTo_succ]
    exact ⟨hv.tickets_sublist.trans ht, hv.seqId.trans hseq, hv.issued.trans hissued⟩

theorem Sequenced.tick (h : Sequenced p c sent s) (now : Timestamp) :
    Sequenced p c sent (s.tick p now) := by
  obtain ⟨ht, hseq, hissued⟩ := tickUpTo_frame p now s s.inflightCmds.length
  exact h.of_sublist ht hseq hissued

theorem Sequenced.births (h : Sequenced p c sent s) :
    s.inflightCmds.Pairwise fun e e' => e.birth < e'.birth := by
  have hsnd := h.inOrder.map Prod.snd
  rw [List.map_map, List.zipIdx_map_snd] at hsnd
  exact List.pairwise_map.1 (List.Pairwise.sublist hsnd List.pairwise_lt_range')

theorem Sequenced.sent_at (h : Sequenced p c sent s) {e : Inflight φ}
    (he : e ∈ s.inflightCmds) :
    sent[e.birth]? = some e.cmdFrame :=
  List.mem_zipIdx_iff_getElem?.1 (h.inOrder.subset (List.mem_map_of_mem he))

theorem Sequenced.seqId_eq (h : Sequenced p c sent s) {e : Inflight φ}
    (he : e ∈ s.inflightCmds) : e.cmdSeqId = c + BitVec.ofNat 16 e.birth := by
  rw [h.seqIds e he]
  exact h.ids _ _ (h.sent_at he)

/-- Two first transmissions among 65536 successive ones have different ids. -/
theorem ids_ne {m n : Nat} (hlt : m < n) (hwin : n < m + 65536) :
    c + BitVec.ofNat 16 m ≠ c + BitVec.ofNat 16 n := by
  intro heq
  have hmod := congrArg BitVec.toNat ((BitVec.add_right_inj c).1 heq)
  rw [BitVec.toNat_ofNat, BitVec.toNat_ofNat] at hmod
  have hmn := Ring.slot_injective m (Nat.le_refl m) (by omega) (Nat.le_of_lt hlt) hwin hmod
  omega

theorem Recent.all (hr : Recent sent s) (h : Sequenced p c sent s) {e : Inflight φ}
    (he : e ∈ s.inflightCmds) : sent.length ≤ e.birth + 65536 := by
  have hb := h.births
  cases hl : s.inflightCmds with
  | nil =>
    rw [hl] at he
    cases he
  | cons e₀ l =>
    rw [hl] at he hb
    have hhead := hr e₀ (by rw [hl, List.head?_cons])
    rcases List.mem_cons.1 he with rfl | he
    · exact hhead
    · have hlt := (List.pairwise_cons.1 hb).1 e he
      omega

theorem Recent.of_sublist (hr : Recent sent s) (h : Sequenced p c sent s)
    (ht : s'.tickets.Sublist s.tickets) : Recent sent s' := by
  intro e he
  have hmem : e.ticket ∈ s'.tickets := List.mem_map_of_mem (List.mem_of_mem_head? he)
  obtain ⟨e₀, he₀, hte⟩ := List.mem_map.1 (ht.subset hmem)
  have hbirth : e₀.birth = e.birth := congrArg Ticket.birth hte
  rw [← hbirth]
  exact hr.all h he₀

theorem Sequenced.unambiguous (h : Sequenced p c sent s) (hr : Recent sent s) :
    Unambiguous s.inflightCmds := by
  apply Unambiguous.of_nodup
  refine List.pairwise_map.2 (h.births.imp_of_mem ?_)
  intro e e' he he' hlt
  obtain ⟨hlen, -⟩ := List.getElem?_eq_some_iff.1 (h.sent_at he')
  have hwin := hr.all h he
  rw [h.seqId_eq he, h.seqId_eq he']
  exact ids_ne hlt (by omega)

theorem Sequenced.unambiguous_resend (h : Sequenced p c sent s) (hr : Recent sent s)
    {now : Timestamp} {i : Nat} {e : Inflight φ}
    (hi : (tickUpTo p now s i).inflightCmds[i]? = some e) :
    Unambiguous ((tickUpTo p now s i).inflightCmds.set i (e.poll now)) := by
  obtain ⟨ht, hseq, hissued⟩ := tickUpTo_frame p now s i
  have hpoll := tickets_set_poll now hi
  have hsub : ({ tickUpTo p now s i with
      inflightCmds := (tickUpTo p now s i).inflightCmds.set i (e.poll now) } :
        Engine φ).tickets.Sublist s.tickets := by
    rw [tickets, hpoll]
    exact ht
  exact (h.of_sublist hsub hseq hissued).unambiguous (hr.of_sublist h hsub)

theorem wireFrame_posts (id : Ptr) (flag : AemCmdWaiting) (frame : φ) :
    (p.posts id flag frame).filterMap EngineEvent.wireFrame = [] := by
  apply List.filterMap_eq_nil_iff.2
  intro ev hev
  obtain ⟨n, -, rfl⟩ := List.mem_map.1 hev
  rfl

theorem firstTransmissions_sendCmd (tr : List (Engine φ × EngineOp φ))
    (now : Timestamp) (id : Ptr)
    (flag : AemCmdWaiting) (frame : φ) :
    firstTransmissions p (tr ++ [(s, .sendCmd now id flag frame)]) =
      firstTransmissions p tr ++ [p.setSequenceId s.seqId frame] := by
  rw [firstTransmissions, List.flatMap_append, List.flatMap_singleton]
  dsimp only
  rw [stateSendCmd_eq, List.drop_left, List.filterMap_cons, List.filterMap_cons,
    wireFrame_posts]
  rfl

/-- What the counter and the table are after any run. -/
theorem sequenced {tr : List (Engine φ × EngineOp φ)}
    (h : Run (Step p) { new with seqId := c } tr s) :
    Sequenced p c (firstTransmissions p tr) s := by
  induction h with
  | nil => exact .new p c
  | @snoc tr t op u _ hs ih =>
    cases hs with
    | sendCmd hf =>
      rw [firstTransmissions_sendCmd]
      exact ih.stateSendCmd _ _ _ _
    | rcvdResp hf =>
      rw [firstTransmissions, List.flatMap_append, List.flatMap_singleton, List.append_nil]
      exact ih.procResp _ _
    | tick =>
      rw [firstTransmissions, List.flatMap_append, List.flatMap_singleton, List.append_nil]
      exact ih.tick _

end

/-- The lookups of a state machine by sequence id: in `proc_resp`, and in `tx_cmd` when the
`i`-th round of `tick` resends. -/
structure Selective (p : EngineSpec φ) (s : Engine φ) : Prop where
  resp : Unambiguous s.inflightCmds
  resend : ∀ now i e, (tickUpTo p now s i).inflightCmds[i]? = some e →
    Unambiguous ((tickUpTo p now s i).inflightCmds.set i (e.poll now))

end Engine

/-- The sequence ids of the two state machines, across any number of wraps of their counters. -/
theorem sequence_ids {c c' : BitVec 16} {tr : List (Engine AecpFrame × EngineOp AecpFrame)}
    {tr' : List (Engine AcmpFrame × EngineOp AcmpFrame)} {s : Engine AecpFrame}
    {s' : Engine AcmpFrame}
    (h : Run (Engine.Step aecpSpec) { Engine.new with seqId := c } tr s)
    (h' : Run (Engine.Step acmpSpec) { Engine.new with seqId := c' } tr' s') :
    (Engine.Sequenced aecpSpec c (Engine.firstTransmissions aecpSpec tr) s ∧
      (Engine.Recent (Engine.firstTransmissions aecpSpec tr) s → Engine.Selective aecpSpec s)) ∧
    (Engine.Sequenced acmpSpec c' (Engine.firstTransmissions acmpSpec tr') s' ∧
      (Engine.Recent (Engine.firstTransmissions acmpSpec tr') s' →
        Engine.Selective acmpSpec s')) := by
  have hs := Engine.sequenced h
  have hs' := Engine.sequenced h'
  constructor
  · refine ⟨hs, ?_⟩
    intro hr
    exact ⟨hs.unambiguous hr, fun now i e hi => hs.unambiguous_resend hr hi⟩
  · refine ⟨hs', ?_⟩
    intro hr
    exact ⟨hs'.unambiguous hr, fun now i e hi => hs'.unambiguous_resend hr hi⟩

/-- The counter wraps around between the two commands. -/
theorem sequence_ids_wrapped :
    Engine.Selective aecpSpec
      ((({ Engine.new with seqId := 0xffff } : Engine AecpFrame).stateSendCmd
      aecpSpec 0 7 .cmdWithNotification readEntityCommand).stateSendCmd aecpSpec 1 8
        .cmdWithNotification readEntityCommand) := by
  have hsend id now s : Engine.Step aecpSpec s
      (.sendCmd now id .cmdWithNotification readEntityCommand) _ := .sendCmd rfl
  have hrun := (Run.nil.snoc (hsend 7 0 { Engine.new with seqId := 0xffff })).snoc (hsend 8 1 _)
  have hnil : Run (Engine.Step acmpSpec) { Engine.new with seqId := 0 } [] _ := .nil
  apply (sequence_ids hrun hnil).1.2
  intro e he
  have hlen : 2 ≤ e.birth + 65536 := by omega
  exact hlen

end AvdeccLib
