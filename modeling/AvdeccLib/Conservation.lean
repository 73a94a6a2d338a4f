import AvdeccLib.Library.Runs
import AvdeccLib.AecpControllerStateMachine
import AvdeccLib.AcmpControllerStateMachine

namespace AvdeccLib
set_option autoImplicit true

open Runs FirstMatch

inductive EngineOp (φ : Type) where
  | sendCmd (now : Timestamp) (id : Ptr) (flag : AemCmdWaiting) (frame : φ)
  | rcvdResp (id : Ptr) (frame : φ)
  | tick (now : Timestamp)

namespace EngineEvent

def pushedEntry : EngineEvent φ → Option (Inflight φ)
  | .pushed e => some e
  | _ => none

def removedEntry : EngineEvent φ → Option (Inflight φ)
  | .answered e | .dropped e => some e
  | _ => none

def postedId : EngineEvent φ → Option Ptr
  | .posted n => some n.notificationId
  | _ => none

def quiet : EngineEvent φ → Bool
  | .pushed _ | .transmitted _ _ => true
  | _ => false

end EngineEvent

def Ticket.notifiedId (t : Ticket φ) : Option Ptr :=
  if t.notificationFlag = .cmdWithNotification then some t.notificationId else none

/-- One call of a state machine: commands are sent and responses come in as such. -/
inductive Engine.Step (p : EngineSpec φ) (s : Engine φ) : EngineOp φ → Engine φ → Prop where
  | sendCmd {now : Timestamp} {id : Ptr} {flag : AemCmdWaiting} {frame : φ}
      (h : p.isResponse frame = false) :
      Step p s (.sendCmd now id flag frame) (s.stateSendCmd p now id flag frame)
  | rcvdResp {id : Ptr} {frame : φ} (h : p.isResponse frame = true) :
      Step p s (.rcvdResp id frame) (s.procResp p id frame).1
  | tick {now : Timestamp} : Step p s (.tick now) (s.tick p now)

def pushedTickets (tr : List (EngineEvent φ)) : List (Ticket φ) :=
  (tr.filterMap EngineEvent.pushedEntry).map Inflight.ticket

def removedTickets (tr : List (EngineEvent φ)) : List (Ticket φ) :=
  (tr.filterMap EngineEvent.removedEntry).map Inflight.ticket

def notifiedIds (ts : List (Ticket φ)) : List Ptr := ts.filterMap Ticket.notifiedId

def postedIds (tr : List (EngineEvent φ)) : List Ptr := tr.filterMap EngineEvent.postedId

/-- A trace in which each entry sent with notification is removed together with one post of its
id, and nothing else is posted. -/
inductive Paired : List (EngineEvent φ) → Prop where
  | nil : Paired []
  | quiet (h : Paired tr) (hq : ev.quiet = true) : Paired (tr ++ [ev])
  | notified (h : Paired tr) (hr : ev.removedEntry = some e)
      (hf : e.cmdNotificationFlag = .cmdWithNotification)
      (hn : n.notificationId = e.cmdNotificationId) : Paired (tr ++ [.posted n] ++ [ev])
  | unnotified (h : Paired tr) (hr : ev.removedEntry = some e)
      (hf : e.cmdNotificationFlag = .cmdWithoutNotification) : Paired (tr ++ [ev])

/-- The commands are conserved: an entry has a number of its own and is either in the table or
was removed once, a notified one with one post of its id, and the ids balance. -/
structure Engine.Conserved (s : Engine φ) : Prop where
  numbered : (pushedTickets s.trace).map Ticket.birth = List.range s.issued
  removedOnce : (pushedTickets s.trace).Perm (removedTickets s.trace ++ s.tickets)
  paired : Paired s.trace
  balance : (↑(notifiedIds (pushedTickets s.trace)) : Multiset Ptr) =
    ↑(postedIds s.trace) + ↑(notifiedIds s.tickets)

theorem removedEntry_of_quiet {ev : EngineEvent φ} (h : ev.quiet = true) :
    ev.removedEntry = none := by
  cases ev <;> first | rfl | cases h

theorem removedTickets_of_quiet {ev : EngineEvent φ} (h : ev.quiet = true) :
    removedTickets [ev] = [] := by
  cases ev <;> first | rfl | cases h

theorem postedIds_of_quiet {ev : EngineEvent φ} (h : ev.quiet = true) :
    postedIds [ev] = [] := by
  cases ev <;> first | rfl | cases h

theorem removedTickets_of_removed {ev : EngineEvent φ} {e : Inflight φ}
    (h : ev.removedEntry = some e) : removedTickets [ev] = [e.ticket] := by
  cases ev <;> cases h <;> rfl

theorem postedIds_of_removed {ev : EngineEvent φ} {e : Inflight φ}
    (h : ev.removedEntry = some e) : postedIds [ev] = [] := by
  cases ev <;> cases h <;> rfl

theorem notifiedIds_of_with {e : Inflight φ}
    (h : e.cmdNotificationFlag = .cmdWithNotification) :
    notifiedIds [e.ticket] = [e.cmdNotificationId] := by
  simp [notifiedIds, Ticket.notifiedId, Inflight.ticket, h]

theorem notifiedIds_of_without {e : Inflight φ}
    (h : e.cmdNotificationFlag = .cmdWithoutNotification) : notifiedIds [e.ticket] = [] := by
  simp [notifiedIds, Ticket.notifiedId, Inflight.ticket, h]

@[simp] theorem pushedTickets_append (tr tr' : List (EngineEvent φ)) :
    pushedTickets (tr ++ tr') = pushedTickets tr ++ pushedTickets tr' := by
  simp only [pushedTickets, List.filterMap_append, List.map_append]

@[simp] theorem removedTickets_append (tr tr' : List (EngineEvent φ)) :
    removedTickets (tr ++ tr') = removedTickets tr ++ removedTickets tr' := by
  simp only [removedTickets, List.filterMap_append, List.map_append]

@[simp] theorem notifiedIds_append (ts ts' : List (Ticket φ)) :
    notifiedIds (ts ++ ts') = notifiedIds ts ++ notifiedIds ts' := List.filterMap_append

@[simp] theorem postedIds_append (tr tr' : List (EngineEvent φ)) :
    postedIds (tr ++ tr') = postedIds tr ++ postedIds tr' := List.filterMap_append

theorem Paired.not_posted {n : Notification} {tr : List (EngineEvent φ)} :
    ¬ Paired (tr ++ [.posted n]) := by
  intro h
  generalize hl : tr ++ [EngineEvent.posted n] = l at h
  cases h with
  | nil => simp at hl
  | quiet _ hq =>
    obtain ⟨-, rfl⟩ := List.append_singleton_inj.1 hl
    cases hq
  | notified _ hr _ _ =>
    obtain ⟨-, rfl⟩ := List.append_singleton_inj.1 hl
    cases hr
  | unnotified _ hr _ =>
    obtain ⟨-, rfl⟩ := List.append_singleton_inj.1 hl
    cases hr

theorem Paired.of_quiet {ev : EngineEvent φ} {tr : List (EngineEvent φ)} (hq : ev.quiet = true)
    (h : Paired (tr ++ [ev])) : Paired tr := by
  have hev := removedEntry_of_quiet hq
  generalize hl : tr ++ [ev] = l at h
  cases h with
  | nil => simp at hl
  | quiet h _ =>
    obtain ⟨rfl, -⟩ := List.append_singleton_inj.1 hl
    exact h
  | notified _ hr _ _ =>
    obtain ⟨-, rfl⟩ := List.append_singleton_inj.1 hl
    rw [hev] at hr
    cases hr
  | unnotified _ hr _ =>
    obtain ⟨-, rfl⟩ := List.append_singleton_inj.1 hl
    rw [hev] at hr
    cases hr

theorem Paired.of_dropped {n : Notification} {e : Inflight φ} {tr : List (EngineEvent φ)}
    (h : Paired (tr ++ [.posted n] ++ [.dropped e])) :
    Paired tr ∧ e.cmdNotificationFlag = .cmdWithNotification := by
  generalize hl : tr ++ [EngineEvent.posted n] ++ [EngineEvent.dropped e] = l at h
  cases h with
  | nil => simp at hl
  | quiet _ hq =>
    obtain ⟨-, rfl⟩ := List.append_singleton_inj.1 hl
    cases hq
  | notified h hr hf _ =>
    obtain ⟨hl', -⟩ := List.append_singleton_inj.1 hl
    obtain ⟨rfl, -⟩ := List.append_singleton_inj.1 hl'
    obtain ⟨-, rfl⟩ := List.append_singleton_inj.1 hl
    cases hr
    exact ⟨h, hf⟩
  | unnotified h _ _ =>
    obtain ⟨rfl, -⟩ := List.append_singleton_inj.1 hl
    exact absurd h Paired.not_posted

theorem Paired.postedIds_eq {tr : List (EngineEvent φ)} (h : Paired tr) :
    postedIds tr = notifiedIds (removedTickets tr) := by
  induction h with
  | nil => rfl
  | quiet _ hq ih =>
    rw [postedIds_append, removedTickets_append, postedIds_of_quiet hq,
      removedTickets_of_quiet hq, ih, List.append_nil, List.append_nil]
  | @notified _ _ _ n _ hr hf hn ih =>
    have hp : postedIds [EngineEvent.posted (φ := φ) n] = [n.notificationId] := rfl
    have hn' : removedTickets [EngineEvent.posted (φ := φ) n] = [] := rfl
    rw [postedIds_append, postedIds_append, removedTickets_append, removedTickets_append,
      postedIds_of_removed hr, removedTickets_of_removed hr, hp, hn', ih, hn, List.append_nil,
      List.append_nil, notifiedIds_append, notifiedIds_of_with hf]
  | unnotified _ hr hf ih =>
    rw [postedIds_append, removedTickets_append, postedIds_of_removed hr,
      removedTickets_of_removed hr, notifiedIds_append, notifiedIds_of_without hf, ih]

/-- What holds of every state machine, whatever is dropped. -/
structure Engine.Ledger (p : EngineSpec φ) (s : Engine φ) : Prop where
  numbered : (pushedTickets s.trace).map Ticket.birth = List.range s.issued
  removedOnce : (pushedTickets s.trace).Perm (removedTickets s.trace ++ s.tickets)
  commands : ∀ t ∈ s.tickets, p.isResponse t.frame = false

theorem EngineSpec.posts_command {p : EngineSpec φ} {frame : φ}
    (h : p.isResponse frame = false) (id : Ptr) (flag : AemCmdWaiting) :
    p.posts id flag frame = [] := by
  rw [EngineSpec.posts, p.callback_other id flag frame (.inr h)]
  rfl

theorem removedTickets_posts (p : EngineSpec φ) (id : Ptr) (flag : AemCmdWaiting) (frame : φ) :
    removedTickets (p.posts id flag frame) = [] := by
  unfold EngineSpec.posts removedTickets
  induction p.callback id flag frame with
  | nil => rfl
  | cons n ns ih => exact ih

theorem pushedTickets_posts (p : EngineSpec φ) (id : Ptr) (flag : AemCmdWaiting) (frame : φ) :
    pushedTickets (p.posts id flag frame) = [] := by
  unfold EngineSpec.posts pushedTickets
  induction p.callback id flag frame with
  | nil => rfl
  | cons n ns ih => exact ih

namespace Engine

theorem Ledger.new (p : EngineSpec φ) : Ledger p Engine.new := by
  refine ⟨rfl, .refl _, ?_⟩
  intro t ht
  cases ht

theorem Ledger.frame {p : EngineSpec φ} {s : Engine φ} (h : Ledger p s) {i : Nat}
    {e : Inflight φ} (he : s.inflightCmds[i]? = some e) : p.isResponse e.cmdFrame = false :=
  h.commands e.ticket (List.mem_map_of_mem (List.mem_of_getElem? he))

theorem Ledger.stateSendCmd {p : EngineSpec φ} {s : Engine φ} (h : Ledger p s)
    (now : Timestamp) (id : Ptr) (flag : AemCmdWaiting) {frame : φ}
    (hf : p.isResponse frame = false) : Ledger p (s.stateSendCmd p now id flag frame) := by
  have hset : p.isResponse (p.setSequenceId s.seqId frame) = false := by
    rw [p.isResponse_set, hf]
  rw [stateSendCmd_eq, p.posts_command hset]
  constructor
  · show (pushedTickets (s.trace ++ [.pushed (sentEntry p now s id flag frame), _])).map _ = _
    rw [pushedTickets_append, List.map_append, h.numbered, List.range_succ]
    rfl
  · show (pushedTickets (s.trace ++ [.pushed (sentEntry p now s id flag frame), _])).Perm
      (removedTickets (s.trace ++ [_, _]) ++ (s.inflightCmds ++ [_]).map Inflight.ticket)
    rw [pushedTickets_append, removedTickets_append, List.map_append]
    have hr : removedTickets [EngineEvent.pushed (sentEntry p now s id flag frame),
      .transmitted s.issued (p.setSequenceId s.seqId frame)] = [] := rfl
    rw [hr, List.append_nil, ← List.append_assoc]
    exact h.removedOnce.append_right _
  · intro t ht
    have ht : t ∈ (s.inflightCmds ++ [sentEntry p now s id flag frame]).map Inflight.ticket :=
      ht
    rw [List.map_append, List.mem_append] at ht
    rcases ht with ht | ht
    · exact h.commands t ht
    · rw [List.map_singleton, List.mem_singleton] at ht
      subst ht
      exact hset

theorem Ledger.procResp {p : EngineSpec φ} {s : Engine φ} (h : Ledger p s) (id : Ptr)
    (frame : φ) : Ledger p (s.procResp p id frame).1 := by
  cases hf : s.inflightCmds.find? (seqIdComp (p.getSequenceId frame)) with
  | none =>
    rw [procResp_of_none hf]
    exact h
  | some j =>
    rw [procResp_of_some hf]
    have hperm := (perm_eraseP hf).map Inflight.ticket
    constructor
    · rw [log_trace, pushedTickets_append, pushedTickets_append, pushedTickets_posts,
        List.map_append]
      exact (List.append_nil _).trans h.numbered
    · rw [log_trace, pushedTickets_append, pushedTickets_append, pushedTickets_posts,
        removedTickets_append, removedTickets_append, removedTickets_posts,
        removedTickets_of_removed rfl]
      apply (h.removedOnce.append_right []).trans
      rw [List.append_nil, List.nil_append, List.append_assoc]
      exact hperm.append_left _
    · intro t ht
      obtain ⟨e, he, rfl⟩ := List.mem_map.1 ht
      exact h.commands _ (List.mem_map_of_mem (List.mem_of_mem_eraseP he))

theorem Ledger.visit {p : EngineSpec φ} {now : Timestamp} {s s' : Engine φ} {i : Nat}
    (h : Ledger p s) (hv : Visit p now s i s') : Ledger p s' := by
  cases hv with
  | absent => exact h
  | waits he =>
    have ht := tickets_set_poll now he
    refine ⟨h.numbered, ?_, ?_⟩
    · rw [tickets, ht]
      exact h.removedOnce
    · rw [tickets, ht]
      exact h.commands
  | drops he =>
    rename_i e _ _
    have hperm := (perm_eraseIdx he).map Inflight.ticket
    constructor
    · rw [log_trace, pushedTickets_append, List.map_append]
      exact (List.append_nil _).trans h.numbered
    · rw [log_trace, pushedTickets_append, removedTickets_append]
      apply (h.removedOnce.append_right []).trans
      rw [List.append_nil, List.append_assoc]
      exact hperm.append_left _
    · intro t ht
      obtain ⟨e, he, rfl⟩ := List.mem_map.1 ht
      exact h.commands _ (List.mem_map_of_mem (List.mem_of_mem_eraseIdx he))
  | resends he =>
    rename_i e _ _
    have ht := (tickets_restart now _ (seqIdComp (p.getSequenceId e.cmdFrame))).trans
      (tickets_set_poll now he)
    rw [p.posts_command (h.frame he)]
    constructor
    · rw [log_trace, pushedTickets_append, List.map_append]
      exact (List.append_nil _).trans h.numbered
    · rw [log_trace, pushedTickets_append, removedTickets_append, tickets, log_inflightCmds, ht]
      apply (h.removedOnce.append_right []).trans
      rw [List.append_nil, List.append_assoc]
      exact .refl _
    · rw [tickets, log_inflightCmds, ht]
      exact h.commands

theorem Ledger.step {p : EngineSpec φ} {s s' : Engine φ} {op : EngineOp φ} (h : Ledger p s)
    (hs : Step p s op s') : Ledger p s' := by
  cases hs with
  | sendCmd hf => exact h.stateSendCmd _ _ _ hf
  | rcvdResp => exact h.procResp _ _
  | tick => exact tick_induction h fun _ _ _ h hv => h.visit hv

theorem Ledger.conserved_iff {p : EngineSpec φ} {s : Engine φ} (h : Ledger p s) :
    s.Conserved ↔ Paired s.trace := by
  refine ⟨fun hc => hc.paired, fun hp => ⟨h.numbered, h.removedOnce, hp, ?_⟩⟩
  have hperm := h.removedOnce.filterMap Ticket.notifiedId
  rw [hp.postedIds_eq, Multiset.coe_add, Multiset.coe_eq_coe]
  rw [List.filterMap_append] at hperm
  exact hperm

/-- The table and the timers in front of the `k`-th round of the loop of `tick`. -/
def tickUpTo (p : EngineSpec φ) (now : Timestamp) (s : Engine φ) (k : Nat) : Engine φ :=
  (List.range k).foldl (tickAt p now) s

/-- `tick` gives up no entry that was sent without notification. -/
def TickNotified (p : EngineSpec φ) (now : Timestamp) (s : Engine φ) : Prop :=
  ∀ k < s.inflightCmds.length, ∀ e, (tickUpTo p now s k).inflightCmds[k]? = some e →
    e.timeout now = true → e.retried = true → e.cmdNotificationFlag = .cmdWithNotification

def Notified (p : EngineSpec φ) (s : Engine φ) : EngineOp φ → Prop
  | .tick now => TickNotified p now s
  | _ => True

theorem tickUpTo_succ (p : EngineSpec φ) (now : Timestamp) (s : Engine φ) (k : Nat) :
    tickUpTo p now s (k + 1) = tickAt p now (tickUpTo p now s k) k := by
  rw [tickUpTo, List.range_succ, List.foldl_append]
  rfl

theorem Ledger.paired_visit {p : EngineSpec φ} {now : Timestamp} {s s' : Engine φ} {i : Nat}
    (h : Ledger p s) (hv : Visit p now s i s') :
    Paired s'.trace ↔ Paired s.trace ∧ ∀ e, s.inflightCmds[i]? = some e → e.timeout now = true →
      e.retried = true → e.cmdNotificationFlag = .cmdWithNotification := by
  cases hv with
  | absent hi =>
    refine ⟨fun hp => ⟨hp, ?_⟩, fun hp => hp.1⟩
    intro e he
    rw [hi] at he
    cases he
  | waits hi ht =>
    refine ⟨fun hp => ⟨hp, ?_⟩, fun hp => hp.1⟩
    intro e he ht'
    rw [hi] at he
    cases he
    rw [ht] at ht'
    cases ht'
  | drops hi ht hr =>
    rename_i e
    have hl : ∀ a b : EngineEvent φ, s.trace ++ [a, b] = s.trace ++ [a] ++ [b] := by
      intro a b
      rw [List.append_assoc]
      rfl
    rw [log_trace, hl]
    constructor
    · intro hp
      obtain ⟨hp, hf⟩ := hp.of_dropped
      refine ⟨hp, ?_⟩
      intro e' he' _ _
      rw [hi] at he'
      cases he'
      exact hf
    · rintro ⟨hp, hf⟩
      exact .notified hp rfl (hf e hi ht hr) (p.timeoutNotification_id _ _)
  | resends hi ht hr =>
    rw [p.posts_command (h.frame hi), log_trace]
    constructor
    · intro hp
      refine ⟨hp.of_quiet rfl, ?_⟩
      intro e' he' _ hr'
      rw [hi] at he'
      cases he'
      rw [hr] at hr'
      cases hr'
    · rintro ⟨hp, -⟩
      exact .quiet hp rfl

theorem Ledger.tickUpTo {p : EngineSpec φ} {s : Engine φ} (h : Ledger p s) (now : Timestamp)
    (k : Nat) : Ledger p (tickUpTo p now s k) := by
  induction k with
  | zero => exact h
  | succ k ih =>
    rw [tickUpTo_succ]
    exact ih.visit (tickAt_visit p now _ k)

theorem Ledger.paired_tickUpTo {p : EngineSpec φ} {s : Engine φ} (h : Ledger p s)
    (hp : Paired s.trace) (now : Timestamp) (n : Nat) :
    Paired (Engine.tickUpTo p now s n).trace ↔ ∀ k < n, ∀ e,
      (Engine.tickUpTo p now s k).inflightCmds[k]? = some e → e.timeout now = true →
      e.retried = true → e.cmdNotificationFlag = .cmdWithNotification := by
  induction n with
  | zero => exact ⟨fun _ k hk => absurd hk (Nat.not_lt_zero k), fun _ => hp⟩
  | succ n ih =>
    rw [tickUpTo_succ, (h.tickUpTo now n).paired_visit (tickAt_visit p now _ n), ih]
    constructor
    · rintro ⟨hk, hn⟩ k hlt
      rcases Nat.lt_succ_iff_lt_or_eq.1 hlt with hlt | rfl
      · exact hk k hlt
      · exact hn
    · intro hk
      exact ⟨fun k hlt => hk k (Nat.lt_succ_of_lt hlt), hk n (Nat.lt_succ_self n)⟩

theorem paired_procResp {p : EngineSpec φ} {s : Engine φ} (hp : Paired s.trace) (id : Ptr)
    {frame : φ} (hf : p.isResponse frame = true) : Paired (s.procResp p id frame).1.trace := by
  cases hj : s.inflightCmds.find? (seqIdComp (p.getSequenceId frame)) with
  | none =>
    rw [procResp_of_none hj]
    exact hp
  | some j =>
    rw [procResp_of_some hj, log_trace, EngineSpec.posts, ← List.append_assoc]
    cases hflag : j.cmdNotificationFlag with
    | cmdWithNotification =>
      obtain ⟨n, hn, hid⟩ := p.callback_response j.cmdNotificationId frame hf
      rw [hn]
      exact .notified hp rfl hflag hid
    | cmdWithoutNotification =>
      rw [p.callback_other _ _ _ (.inl rfl), List.map_nil, List.append_nil]
      exact .unnotified hp rfl hflag

theorem paired_stateSendCmd {p : EngineSpec φ} {s : Engine φ} (hp : Paired s.trace)
    (now : Timestamp) (id : Ptr) (flag : AemCmdWaiting) {frame : φ}
    (hf : p.isResponse frame = false) : Paired (s.stateSendCmd p now id flag frame).trace := by
  have hset : p.isResponse (p.setSequenceId s.seqId frame) = false := by
    rw [p.isResponse_set, hf]
  rw [stateSendCmd_eq, p.posts_command hset]
  have hpush : Paired (s.trace ++ [.pushed (sentEntry p now s id flag frame)]) := .quiet hp rfl
  have hsent : Paired (s.trace ++ [.pushed (sentEntry p now s id flag frame)] ++
      [.transmitted s.issued (p.setSequenceId s.seqId frame)]) := .quiet hpush rfl
  rwa [List.append_assoc] at hsent

/-- One call conserves the commands exactly if it gives up no unnotified entry. -/
theorem Ledger.conserved_step {p : EngineSpec φ} {s s' : Engine φ} {op : EngineOp φ}
    (h : Ledger p s) (hc : s.Conserved) (hs : Step p s op s') :
    s'.Conserved ↔ Notified p s op := by
  rw [(h.step hs).conserved_iff]
  cases hs with
  | sendCmd hf => exact iff_of_true (paired_stateSendCmd hc.paired _ _ _ hf) trivial
  | rcvdResp hf => exact iff_of_true (paired_procResp hc.paired _ hf) trivial
  | tick => exact h.paired_tickUpTo hc.paired _ _

/-- A run conserves the commands in all its states exactly if no `tick` of it gives up an entry
that was sent without notification. -/
theorem always_conserved_iff {p : EngineSpec φ} {tr : List (Engine φ × EngineOp φ)}
    {s : Engine φ} (h : Run (Step p) Engine.new tr s) :
    Always Conserved tr s ↔ Along (Notified p) tr := by
  have hnew := Ledger.new p
  apply h.always_iff_along (I := Ledger p) hnew (hnew.conserved_iff.2 .nil)
  · exact fun t e u ht hst => ht.step hst
  · exact fun t e u ht hc hst => ht.conserved_step hc hst

end Engine
/-- Over whole runs of the two state machines, commands are conserved exactly as long as no
timeout gives up a command that was sent without notification. -/
theorem commands_conserved_iff {tr : List (Engine AecpFrame × EngineOp AecpFrame)}
    {tr' : List (Engine AcmpFrame × EngineOp AcmpFrame)} {s : Engine AecpFrame}
    {s' : Engine AcmpFrame} (h : Run (Engine.Step aecpSpec) Engine.new tr s)
    (h' : Run (Engine.Step acmpSpec) Engine.new tr' s') :
    (Always Engine.Conserved tr s ↔ Along (Engine.Notified aecpSpec) tr) ∧
      (Always Engine.Conserved tr' s' ↔ Along (Engine.Notified acmpSpec) tr') := by
  constructor
  · exact Engine.always_conserved_iff h
  · exact Engine.always_conserved_iff h'

def readEntityCommand : AecpFrame :=
  { messageType := .aemCommand, targetEntityId := 1, controllerEntityId := 2
    commandType := .readDescriptor }

def readEntityResponse : AecpFrame := { readEntityCommand with messageType := .aemResponse }

theorem commands_conserved_answered :
    (((Engine.new.stateSendCmd aecpSpec 0 7 .cmdWithNotification readEntityCommand).procResp
      aecpSpec null readEntityResponse).1).Conserved := by
  have hsend : Engine.Step aecpSpec Engine.new
      (.sendCmd 0 7 .cmdWithNotification readEntityCommand) _ := .sendCmd rfl
  have hresp s : Engine.Step aecpSpec s (.rcvdResp null readEntityResponse) _ := .rcvdResp rfl
  have hrun := (Run.nil.snoc hsend).snoc (hresp _)
  have hiff := (commands_conserved_iff hrun .nil).1
  apply And.right
  rw [← Always, hiff, along_snoc, along_snoc]
  exact ⟨⟨along_nil _, trivial⟩, trivial⟩

/-- A background read that stays unanswered: its second timeout posts the NULL id, which was
never sent with notification. -/
theorem commands_not_conserved :
    ¬ ∀ tr s, Run (Engine.Step aecpSpec) Engine.new tr s → Always Engine.Conserved tr s := by
  intro h
  have hsend : Engine.Step aecpSpec Engine.new
      (.sendCmd 0 null .cmdWithoutNotification readEntityCommand) _ := .sendCmd rfl
  have htick now s : Engine.Step aecpSpec s (.tick now) _ := .tick
  have hrun := ((Run.nil.snoc hsend).snoc (htick 251 _)).snoc (htick 502 _)
  have hbal := (h _ _ hrun).2.balance
  revert hbal
  decide

end AvdeccLib
