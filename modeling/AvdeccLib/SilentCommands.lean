import AvdeccLib.Conservation

namespace AvdeccLib
set_option autoImplicit true

open Runs FirstMatch

def EngineEvent.notification : EngineEvent φ → Option Notification
  | .posted n => some n
  | _ => none

def postedNotifications (tr : List (EngineEvent φ)) : List Notification :=
  tr.filterMap EngineEvent.notification

@[simp] theorem postedNotifications_append (tr tr' : List (EngineEvent φ)) :
    postedNotifications (tr ++ tr') = postedNotifications tr ++ postedNotifications tr' :=
  List.filterMap_append

theorem postedNotifications_posts (p : EngineSpec φ) (id : Ptr)
    (flag : AemCmdWaiting) (frame : φ) :
    postedNotifications (p.posts id flag frame) = p.callback id flag frame := by
  rw [EngineSpec.posts, postedNotifications, List.filterMap_map]
  exact List.filterMap_some

theorem EngineSpec.callback_flag {p : EngineSpec φ} {id : Ptr}
    {flag : AemCmdWaiting} {frame : φ}
    {n : Notification} (h : n ∈ p.callback id flag frame) :
    flag = .cmdWithNotification ∧ n.notificationId = id := by
  cases flag with
  | cmdWithoutNotification =>
    rw [p.callback_other id _ frame (.inl rfl)] at h
    cases h
  | cmdWithNotification =>
    cases hr : p.isResponse frame with
    | false =>
      rw [p.callback_other id _ frame (.inr hr)] at h
      cases h
    | true =>
      obtain ⟨m, hm, hid⟩ := p.callback_response id frame hr
      rw [hm, List.mem_singleton] at h
      subst h
      exact ⟨rfl, hid⟩

namespace Engine

/-- The notification is posted on behalf of an entry: what a call posts, with the entry. -/
def onBehalfOf (e : Inflight φ) (ns : List Notification) : List (Inflight φ × Notification) :=
  ns.map fun n => (e, n)

/-- What the visit of the position `i` by the loop of `tick` posts. -/
def visitNotices (p : EngineSpec φ) (now : Timestamp) (s : Engine φ) (i : Nat) :
    List (Inflight φ × Notification) :=
  match s.inflightCmds[i]? with
  | none => []
  | some e =>
    if e.timeout now then
      if e.retried then onBehalfOf e [p.timeoutNotification e.cmdFrame e.cmdNotificationId]
      else onBehalfOf e (p.callback e.cmdNotificationId e.cmdNotificationFlag e.cmdFrame)
    else []

/-- What a call of the state machine posts, each notification with its entry. -/
def notices (p : EngineSpec φ) (s : Engine φ) : EngineOp φ → List (Inflight φ × Notification)
  | .sendCmd now id flag frame =>
    onBehalfOf (sentEntry p now s id flag frame)
    (p.callback id flag (p.setSequenceId s.seqId frame))
  | .rcvdResp _ frame =>
    match s.inflightCmds.find? (seqIdComp (p.getSequenceId frame)) with
    | some j => onBehalfOf j (p.callback j.cmdNotificationId j.cmdNotificationFlag frame)
    | none => []
  | .tick now =>
    (List.range s.inflightCmds.length).flatMap fun k =>
      visitNotices p now (tickUpTo p now s k) k

def Silent (p : EngineSpec φ) (s : Engine φ) (op : EngineOp φ) : Prop :=
  ∀ x ∈ notices p s op, x.1.cmdNotificationFlag = .cmdWithNotification

@[simp] theorem onBehalfOf_notices (e : Inflight φ) (ns : List Notification) :
    (onBehalfOf e ns).map Prod.snd = ns := by
  rw [onBehalfOf, List.map_map]
  exact List.map_id ns

theorem onBehalfOf_callback {p : EngineSpec φ} {e : Inflight φ} {id : Ptr}
    {flag : AemCmdWaiting} {frame : φ} {x : Inflight φ × Notification}
    (hx : x ∈ onBehalfOf e (p.callback id flag frame)) :
    x.1 = e ∧ flag = .cmdWithNotification ∧ x.2.notificationId = id := by
  obtain ⟨n, hn, rfl⟩ := List.mem_map.1 hx
  exact ⟨rfl, EngineSpec.callback_flag hn⟩

theorem mem_notices_tick {p : EngineSpec φ} {s : Engine φ} {now : Timestamp}
    {x : Inflight φ × Notification} :
    x ∈ notices p s (.tick now) ↔
      ∃ k < s.inflightCmds.length, x ∈ visitNotices p now (tickUpTo p now s k) k := by
  simp only [notices, List.mem_flatMap, List.mem_range]

theorem Visit.notices {p : EngineSpec φ} {now : Timestamp} {s s' : Engine φ} {i : Nat}
    (hv : Visit p now s i s') :
    postedNotifications s'.trace =
      postedNotifications s.trace ++ (visitNotices p now s i).map Prod.snd := by
  rw [visitNotices]
  cases hv with
  | absent hi =>
    rw [hi]
    exact (List.append_nil _).symm
  | waits hi ht =>
    simp only [hi, ht]
    exact (List.append_nil _).symm
  | drops hi ht hr =>
    simp only [hi, ht, hr, if_true, onBehalfOf_notices]
    rw [log_trace, postedNotifications_append]
    rfl
  | resends hi ht hr =>
    simp only [hi, ht, hr, if_true, onBehalfOf_notices, Bool.false_eq_true, if_false]
    rw [log_trace, postedNotifications_append, ← postedNotifications_posts]
    rfl

theorem tickUpTo_notices (p : EngineSpec φ) (now : Timestamp) (s : Engine φ) (n : Nat) :
    postedNotifications (tickUpTo p now s n).trace = postedNotifications s.trace ++
      ((List.range n).flatMap fun k => visitNotices p now (tickUpTo p now s k) k).map
        Prod.snd := by
  induction n with
  | zero => exact (List.append_nil _).symm
  | succ n ih =>
    rw [tickUpTo_succ, (tickAt_visit p now _ n).notices, ih, List.range_succ,
      List.flatMap_append,
      List.map_append, List.append_assoc, List.flatMap_singleton]

theorem Step.notices {p : EngineSpec φ} {s s' : Engine φ} {op : EngineOp φ}
    (hs : Step p s op s') :
    postedNotifications s'.trace = postedNotifications s.trace ++
      (notices p s op).map Prod.snd := by
  cases hs with
  | @sendCmd now id flag frame hf =>
    rw [stateSendCmd_eq, Engine.notices, onBehalfOf_notices, ← postedNotifications_posts]
    exact List.filterMap_append
  | @rcvdResp id frame hf =>
    rw [Engine.notices]
    cases hj : s.inflightCmds.find? (seqIdComp (p.getSequenceId frame)) with
    | none =>
      rw [procResp_of_none hj]
      exact (List.append_nil _).symm
    | some j =>
      rw [procResp_of_some hj, log_trace, postedNotifications_append,
        postedNotifications_append,
        postedNotifications_posts, onBehalfOf_notices]
      exact congrArg _ (List.append_nil _)
  | @tick now => exact tickUpTo_notices p now s _

theorem posted_run {p : EngineSpec φ} {s t : Engine φ} {tr : List (Engine φ × EngineOp φ)}
    (h : Run (Step p) s tr t) :
    postedNotifications t.trace = postedNotifications s.trace ++
      (tr.flatMap fun st => notices p st.1 st.2).map Prod.snd := by
  induction h with
  | nil => exact (List.append_nil _).symm
  | snoc _ hs ih =>
    rw [hs.notices, ih, List.flatMap_append, List.map_append, List.append_assoc,
      List.flatMap_singleton]

theorem visit_silent_iff {p : EngineSpec φ} {now : Timestamp} {s : Engine φ} {i : Nat} :
    (∀ x ∈ visitNotices p now s i, x.1.cmdNotificationFlag = .cmdWithNotification) ↔
      ∀ e, s.inflightCmds[i]? = some e → e.timeout now = true → e.retried = true →
        e.cmdNotificationFlag = .cmdWithNotification := by
  rw [visitNotices]
  cases hi : s.inflightCmds[i]? with
  | none => exact iff_of_true (fun x hx => absurd hx List.not_mem_nil) (fun e he => nomatch he)
  | some e =>
    constructor
    · intro h e' he' ht hr
      cases he'
      simp only [ht, hr, if_true] at h
      exact h _ (List.mem_singleton.2 rfl)
    · intro h x hx
      cases ht : e.timeout now with
      | false =>
        simp only [ht] at hx
        cases hx
      | true =>
        cases hr : e.retried with
        | true =>
          simp only [ht, hr, if_true] at hx
          rw [List.mem_singleton.1 hx]
          exact h e rfl ht hr
        | false =>
          simp only [ht, hr, if_true] at hx
          obtain ⟨rfl, hflag, -⟩ := onBehalfOf_callback hx
          exact hflag

/-- A call is silent about the entries sent without notification exactly if it gives up none. -/
theorem silent_iff (p : EngineSpec φ) (s : Engine φ) (op : EngineOp φ) :
    Silent p s op ↔ Notified p s op := by
  cases op with
  | sendCmd now id flag frame =>
    refine iff_of_true ?_ trivial
    intro x hx
    obtain ⟨he, hflag, -⟩ := onBehalfOf_callback hx
    rw [he]
    exact hflag
  | rcvdResp id frame =>
    refine iff_of_true ?_ trivial
    intro x hx
    rw [notices] at hx
    cases hj : s.inflightCmds.find? (seqIdComp (p.getSequenceId frame)) with
    | none =>
      rw [hj] at hx
      cases hx
    | some j =>
      rw [hj] at hx
      obtain ⟨rfl, hflag, -⟩ := onBehalfOf_callback hx
      exact hflag
  | tick now =>
    constructor
    · intro h k hk
      exact visit_silent_iff.1 fun x hx => h x (mem_notices_tick.2 ⟨k, hk, hx⟩)
    · intro h x hx
      obtain ⟨k, hk, hx⟩ := mem_notices_tick.1 hx
      exact visit_silent_iff.2 (h k hk) x hx

theorem Visit.pushed {p : EngineSpec φ} {now : Timestamp} {s s' : Engine φ} {i : Nat}
    (hv : Visit p now s i s') : pushedTickets s'.trace = pushedTickets s.trace := by
  cases hv with
  | absent => rfl
  | waits => rfl
  | drops =>
    rw [log_trace, pushedTickets_append]
    exact List.append_nil _
  | resends =>
    rename_i e _ _ _
    have hp := pushedTickets_posts p e.cmdNotificationId e.cmdNotificationFlag e.cmdFrame
    rw [log_trace, pushedTickets_append]
    exact (congrArg _ hp).trans (List.append_nil _)

theorem tickUpTo_pushed (p : EngineSpec φ) (now : Timestamp) (s : Engine φ) (k : Nat) :
    pushedTickets (tickUpTo p now s k).trace = pushedTickets s.trace := by
  induction k with
  | zero => rfl
  | succ k ih =>
    rw [tickUpTo_succ, (tickAt_visit p now _ k).pushed, ih]

theorem Ledger.ticket_pushed {p : EngineSpec φ} {s : Engine φ} (h : Ledger p s) {e : Inflight φ}
    (he : e ∈ s.inflightCmds) : e.ticket ∈ pushedTickets s.trace :=
  h.removedOnce.mem_iff.2 (List.mem_append_right _ (List.mem_map_of_mem he))

theorem Ledger.notice_pushed {p : EngineSpec φ} {s s' : Engine φ} {op : EngineOp φ}
    (h : Ledger p s) (hs : Step p s op s') {x : Inflight φ × Notification}
    (hx : x ∈ notices p s op) :
    x.2.notificationId = x.1.cmdNotificationId ∧ x.1.ticket ∈ pushedTickets s'.trace := by
  cases hs with
  | @sendCmd now id flag frame hf =>
    obtain ⟨he, -, hid⟩ := onBehalfOf_callback hx
    rw [he]
    refine ⟨hid, (h.stateSendCmd now id flag hf).ticket_pushed ?_⟩
    exact List.mem_append_right _ (List.mem_singleton.2 rfl)
  | @rcvdResp id frame hf =>
    rw [Engine.notices] at hx
    cases hj : s.inflightCmds.find? (seqIdComp (p.getSequenceId frame)) with
    | none =>
      rw [hj] at hx
      cases hx
    | some j =>
      rw [hj] at hx
      obtain ⟨he, -, hid⟩ := onBehalfOf_callback hx
      rw [he, procResp_of_some hj, log_trace, pushedTickets_append]
      exact ⟨hid, List.mem_append_left _ (h.ticket_pushed (List.mem_of_find?_eq_some hj))⟩
  | @tick now =>
    obtain ⟨k, hk, hx⟩ := mem_notices_tick.1 hx
    have htick := tickUpTo_pushed p now s s.inflightCmds.length
    rw [visitNotices] at hx
    cases hi : (Engine.tickUpTo p now s k).inflightCmds[k]? with
    | none =>
      rw [hi] at hx
      cases hx
    | some e =>
      have hpush := (h.tickUpTo now k).ticket_pushed (List.mem_of_getElem? hi)
      rw [tickUpTo_pushed, ← htick] at hpush
      cases ht : e.timeout now with
      | false =>
        simp only [hi, ht] at hx
        cases hx
      | true =>
        cases hr : e.retried with
        | true =>
          simp only [hi, ht, hr, if_true] at hx
          rw [List.mem_singleton.1 hx]
          exact ⟨p.timeoutNotification_id _ _, hpush⟩
        | false =>
          simp only [hi, ht, hr, if_true] at hx
          obtain ⟨he, -, hid⟩ := onBehalfOf_callback hx
          rw [he]
          exact ⟨hid, hpush⟩

theorem Step.pushed {p : EngineSpec φ} {s s' : Engine φ} {op : EngineOp φ} (hs : Step p s op s')
    {t : Ticket φ} (ht : t ∈ pushedTickets s.trace) : t ∈ pushedTickets s'.trace := by
  cases hs with
  | @sendCmd now id flag frame hf =>
    rw [stateSendCmd_eq, pushedTickets_append]
    exact List.mem_append_left _ ht
  | @rcvdResp id frame hf =>
    cases hj : s.inflightCmds.find? (seqIdComp (p.getSequenceId frame)) with
    | none =>
      rw [procResp_of_none hj]
      exact ht
    | some j =>
      rw [procResp_of_some hj, log_trace, pushedTickets_append]
      exact List.mem_append_left _ ht
  | @tick now =>
    have htick := tickUpTo_pushed p now s s.inflightCmds.length
    rw [← htick] at ht
    exact ht

/-- As long as nothing unnotified is given up, only ids that were sent with notification are
posted. -/
theorem posted_sent {p : EngineSpec φ} {s : Engine φ} {tr : List (Engine φ × EngineOp φ)}
    (h : Run (Step p) new tr s) (hn : Along (Notified p) tr) {n : Notification}
    (hp : n ∈ postedNotifications s.trace) :
    n.notificationId ∈ notifiedIds (pushedTickets s.trace) := by
  suffices hi : Ledger p s ∧ ∀ n ∈ postedNotifications s.trace,
      n.notificationId ∈ notifiedIds (pushedTickets s.trace) from hi.2 n hp
  clear hp
  apply h.invariant_along hn (I := fun s => Ledger p s ∧ ∀ n ∈ postedNotifications s.trace,
    n.notificationId ∈ notifiedIds (pushedTickets s.trace))
  · exact ⟨Ledger.new p, fun n hn => absurd hn List.not_mem_nil⟩
  · intro s op s' ⟨hl, hi⟩ hg hs
    refine ⟨hl.step hs, ?_⟩
    intro n hn
    rw [hs.notices, List.mem_append] at hn
    rcases hn with hn | hn
    · obtain ⟨t, ht, hid⟩ := List.mem_filterMap.1 (hi n hn)
      exact List.mem_filterMap.2 ⟨t, hs.pushed ht, hid⟩
    · obtain ⟨x, hx, rfl⟩ := List.mem_map.1 hn
      obtain ⟨hid, hpush⟩ := hl.notice_pushed hs hx
      have hflag := (silent_iff p s op).2 hg x hx
      refine List.mem_filterMap.2 ⟨x.1.ticket, hpush, ?_⟩
      rw [hid]
      exact if_pos hflag

/-- The notifications of a run, accounted for: each is posted by a call on behalf of an entry,
and if no unnotified entry is given up, its id was sent with notification. -/
structure Attributed (p : EngineSpec φ) (tr : List (Engine φ × EngineOp φ)) (s : Engine φ) :
    Prop where
  posts : postedNotifications s.trace = (tr.flatMap fun st => notices p st.1 st.2).map Prod.snd
  sent : Along (Notified p) tr → ∀ n ∈ postedNotifications s.trace,
    n.notificationId ∈ notifiedIds (pushedTickets s.trace)

theorem attributed {p : EngineSpec φ} {s : Engine φ} {tr : List (Engine φ × EngineOp φ)}
    (h : Run (Step p) new tr s) : Attributed p tr s := by
  refine ⟨posted_run h, ?_⟩
  intro hn n hp
  exact posted_sent h hn hp

theorem along_silent_iff (p : EngineSpec φ) (tr : List (Engine φ × EngineOp φ)) :
    Along (Silent p) tr ↔ Along (Notified p) tr := by
  constructor
  · intro h st hst
    exact (silent_iff p st.1 st.2).1 (h st hst)
  · intro h st hst
    exact (silent_iff p st.1 st.2).2 (h st hst)

end Engine

/-- The two state machines are silent about commands sent without notification exactly as long
as no timeout gives up such a command. -/
theorem unnotified_silent_iff {tr : List (Engine AecpFrame × EngineOp AecpFrame)}
    {tr' : List (Engine AcmpFrame × EngineOp AcmpFrame)} {s : Engine AecpFrame}
    {s' : Engine AcmpFrame} (h : Run (Engine.Step aecpSpec) Engine.new tr s)
    (h' : Run (Engine.Step acmpSpec) Engine.new tr' s') :
    (Along (Engine.Silent aecpSpec) tr ↔ Along (Engine.Notified aecpSpec) tr) ∧
      (Along (Engine.Silent acmpSpec) tr' ↔ Along (Engine.Notified acmpSpec) tr') ∧
      Engine.Attributed aecpSpec tr s ∧ Engine.Attributed acmpSpec tr' s' := by
  refine ⟨Engine.along_silent_iff _ _, Engine.along_silent_iff _ _, ?_, ?_⟩
  · exact Engine.attributed h
  · exact Engine.attributed h'

theorem unnotified_silent_answered :
    Along (Engine.Silent aecpSpec)
      [(Engine.new, .sendCmd 0 null .cmdWithoutNotification readEntityCommand),
        (Engine.new.stateSendCmd aecpSpec 0 null .cmdWithoutNotification readEntityCommand,
          .rcvdResp null readEntityResponse)] := by
  have hsend : Engine.Step aecpSpec Engine.new
      (.sendCmd 0 null .cmdWithoutNotification readEntityCommand) _ := .sendCmd rfl
  have hresp s : Engine.Step aecpSpec s (.rcvdResp null readEntityResponse) _ := .rcvdResp rfl
  have hrun := (Run.nil.snoc hsend).snoc (hresp _)
  apply (unnotified_silent_iff hrun .nil).1.2
  intro st hst
  rcases List.mem_cons.1 hst with rfl | hst
  · trivial
  · rw [List.mem_singleton.1 hst]
    trivial

/-- A background read that a device loses twice is reported, with the NULL id. -/
theorem unnotified_reported :
    ¬ ∀ tr s, Run (Engine.Step aecpSpec) Engine.new tr s →
      Along (Engine.Silent aecpSpec) tr := by
  intro h
  have hsend : Engine.Step aecpSpec Engine.new
      (.sendCmd 0 null .cmdWithoutNotification readEntityCommand) _ := .sendCmd rfl
  have htick now s : Engine.Step aecpSpec s (.tick now) _ := .tick
  have hrun := ((Run.nil.snoc hsend).snoc (htick 251 _)).snoc (htick 502 _)
  have hlast := (along_snoc.1 (h _ _ hrun)).2
  revert hlast
  unfold Engine.Silent
  decide

end AvdeccLib
