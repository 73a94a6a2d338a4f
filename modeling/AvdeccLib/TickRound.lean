import AvdeccLib.Correlation
import Mathlib.Data.List.Chain

namespace AvdeccLib
set_option autoImplicit true
open FirstMatch Runs

namespace Inflight

/-- The entry has been sent twice and has run out again. -/
def spent (now : Timestamp) (e : Inflight φ) : Bool := e.timeout now && e.retried

/-- What one tick is to make of an entry. -/
def handled (now : Timestamp) (e : Inflight φ) : Option (Inflight φ) :=
  if e.timeout now then if e.retried then none else some (e.startTimer now) else some e

/-- What it is to do about it. -/
def handling (p : EngineSpec φ) (now : Timestamp) (e : Inflight φ) : List (EngineEvent φ) :=
  if e.timeout now then
    if e.retried then
      [.posted (p.timeoutNotification e.cmdFrame e.cmdNotificationId), .dropped (e.poll now)]
    else
      .transmitted e.birth e.cmdFrame ::
        p.posts e.cmdNotificationId e.cmdNotificationFlag e.cmdFrame
  else []

theorem poll_of_waiting {e : Inflight φ} (h : e.timeout now = false) : e.poll now = e := by
  have ht : e.cmdTimer.poll now = e.cmdTimer := by
    have h' : (e.cmdTimer.poll now).elapsed = false := h
    simp only [Timer.poll] at h' ⊢
    split
    · next hrun =>
      rw [if_pos hrun] at h'
      split at h'
      · cases h'
      · next hle => exact if_neg hle
    · rfl
  rw [poll, ht]

theorem handled_of_waiting {e : Inflight φ} (h : e.timeout now = false) (p : EngineSpec φ) :
    e.handled now = some e ∧ e.handling p now = [] := by
  rw [handled, handling, h]
  exact ⟨rfl, rfl⟩

theorem handled_of_spent {e : Inflight φ} (h : e.timeout now = true) (hr : e.retried = true)
    (p : EngineSpec φ) :
    e.handled now = none ∧
      e.handling p now = [.posted (p.timeoutNotification e.cmdFrame e.cmdNotificationId),
        .dropped (e.poll now)] := by
  rw [handled, handling, h, hr]
  exact ⟨rfl, rfl⟩

theorem handled_of_unretried {e : Inflight φ} (h : e.timeout now = true)
    (hr : e.retried = false) (p : EngineSpec φ) :
    e.handled now = some (e.startTimer now) ∧
      e.handling p now = .transmitted e.birth e.cmdFrame ::
        p.posts e.cmdNotificationId e.cmdNotificationFlag e.cmdFrame := by
  rw [handled, handling, h, hr]
  exact ⟨rfl, rfl⟩

theorem timeout_startTimer (now : Timestamp) (e : Inflight φ) :
    (e.startTimer now).timeout now = false := Timer.start_timeout_self now e.cmdTimeoutMs

theorem handled_cases (now : Timestamp) (e : Inflight φ) :
    e.spent now = true ∧ e.handled now = none ∨
      e.spent now = false ∧ ∃ b, e.handled now = some b ∧ b.cmdSeqId = e.cmdSeqId := by
  unfold spent handled
  cases e.timeout now with
  | false => exact .inr ⟨rfl, _, rfl, rfl⟩
  | true =>
    cases e.retried with
    | false => exact .inr ⟨rfl, _, rfl, rfl⟩
    | true => exact .inl ⟨rfl, rfl⟩

theorem timeout_of_handled {e e' : Inflight φ} (h : e.handled now = some e') :
    e'.timeout now = false := by
  unfold handled at h
  split at h
  · split at h
    · cases h
    · cases h
      exact e.timeout_startTimer now
  · next ht =>
    cases h
    exact Bool.not_eq_true _ ▸ ht

end Inflight

namespace Engine

/-- Every entry that has run out is handled once, the others are left alone, and no two entries
change places. -/
structure Ticked (p : EngineSpec φ) (now : Timestamp) (s s' : Engine φ) : Prop where
  inflightCmds : s'.inflightCmds = s.inflightCmds.filterMap (·.handled now)
  trace : s'.trace = s.trace ++ s.inflightCmds.flatMap (·.handling p now)

/-- No entry that has run out stands behind one that is dropped. -/
def Spaced (now : Timestamp) (l : List (Inflight φ)) : Prop :=
  l.IsChain fun a b => a.spent now = true → b.timeout now = false

instance (now : Timestamp) (l : List (Inflight φ)) : Decidable (Spaced now l) :=
  inferInstanceAs (Decidable (List.IsChain _ l))

/-- The entries with whether the loop of `tick` visits them, when it visits the first or not.
The entry that moves to the place of a dropped one is passed over. -/
def visits (now : Timestamp) : Bool → List (Inflight φ) → List (Inflight φ × Bool)
  | _, [] => []
  | v, a :: l => (a, v) :: visits now (!(v && a.spent now)) l

def Visited.handled (now : Timestamp) (x : Inflight φ × Bool) : Option (Inflight φ) :=
  if x.2 then x.1.handled now else some x.1

def Visited.handling (p : EngineSpec φ) (now : Timestamp) (x : Inflight φ × Bool) :
    List (EngineEvent φ) :=
  if x.2 then x.1.handling p now else []

/-- The state when the loop has gone through the entries that follow `done`. -/
def afterVisits (p : EngineSpec φ) (now : Timestamp) (s : Engine φ) (done : List (Inflight φ))
    (xs : List (Inflight φ × Bool)) : Engine φ :=
  { s with
    inflightCmds := done ++ xs.filterMap (Visited.handled now)
    trace := s.trace ++ xs.flatMap (Visited.handling p now) }

section
variable {p : EngineSpec φ} {now : Timestamp} {s : Engine φ} {a : Inflight φ}
  {done l : List (Inflight φ)}

theorem tickAt_length (hs : s.inflightCmds = done ++ a :: l)
    (hn : p.getSequenceId a.cmdFrame = a.cmdSeqId) (hd : ∀ b ∈ done, b.cmdSeqId ≠ a.cmdSeqId) :
    tickAt p now s done.length = { s with
      inflightCmds := done ++ (a.handled now).toList ++ l
      trace := s.trace ++ a.handling p now } := by
  have hat : s.inflightCmds[done.length]? = some a := by
    rw [hs, List.getElem?_append_right (Nat.le_refl _), Nat.sub_self]
    rfl
  have hset : ∀ b, s.inflightCmds.set done.length b = done ++ b :: l := by
    intro b
    rw [hs, List.set_append_right _ _ (Nat.le_refl _), Nat.sub_self]
    rfl
  have hv := tickAt_visit p now s done.length
  generalize tickAt p now s done.length = s' at hv ⊢
  cases hv with
  | absent h =>
    rw [hat] at h
    cases h
  | waits h ht =>
    rw [hat] at h
    cases h
    obtain ⟨hh, he⟩ := Inflight.handled_of_waiting ht p
    rw [hset, Inflight.poll_of_waiting ht, hh, he, List.append_nil, List.append_assoc]
    rfl
  | drops h ht hr =>
    rw [hat] at h
    cases h
    obtain ⟨hh, he⟩ := Inflight.handled_of_spent ht hr p
    have herase : s.inflightCmds.eraseIdx done.length = done ++ l := by
      rw [hs, List.eraseIdx_append_of_length_le (Nat.le_refl _), Nat.sub_self]
      rfl
    rw [herase, hh, he, Option.toList_none, List.append_nil]
    rfl
  | resends h ht hr =>
    rw [hat] at h
    cases h
    obtain ⟨hh, he⟩ := Inflight.handled_of_unretried ht hr p
    have hrestart : modifyFirst (seqIdComp (p.getSequenceId a.cmdFrame)) (·.startTimer now)
        (done ++ a.poll now :: l) = done ++ a.startTimer now :: l := by
      rw [hn]
      apply modifyFirst_append_cons
      · intro b hb
        exact beq_eq_false_iff_ne.2 (hd b hb)
      · exact beq_self_eq_true a.cmdSeqId
    rw [hset, hrestart, hh, he, Option.toList_some, List.append_assoc]
    rfl

theorem tickAt_absent {i : Nat} (h : s.inflightCmds.length ≤ i) : tickAt p now s i = s := by
  rw [tickAt, List.getElem?_eq_none h]

theorem foldl_tickAt_absent {is : List Nat} (h : ∀ i ∈ is, s.inflightCmds.length ≤ i) :
    is.foldl (tickAt p now) s = s := by
  induction is with
  | nil => rfl
  | cons i is ih =>
    rw [List.foldl_cons, tickAt_absent (h i List.mem_cons_self)]
    exact ih fun j hj => h j (List.mem_cons_of_mem i hj)

theorem afterVisits_nil (hs : s.inflightCmds = done) : afterVisits p now s done [] = s := by
  rw [afterVisits, List.filterMap_nil, List.flatMap_nil, List.append_nil, List.append_nil, ← hs]

theorem afterVisits_cons (x : Inflight φ × Bool) (xs : List (Inflight φ × Bool)) :
    afterVisits p now s done (x :: xs) =
      afterVisits p now { s with trace := s.trace ++ Visited.handling p now x }
        (done ++ (Visited.handled now x).toList) xs := by
  rw [afterVisits, afterVisits, List.flatMap_cons, List.append_assoc, List.append_assoc]
  cases h : Visited.handled now x with
  | none => rw [List.filterMap_cons_none h, Option.toList_none, List.nil_append]
  | some b => rw [List.filterMap_cons_some h, Option.toList_some, List.singleton_append]

theorem foldl_tickAt (v : Bool) (n : Nat) (hs : s.inflightCmds = done ++ l)
    (hn : ∀ e ∈ l, p.getSequenceId e.cmdFrame = e.cmdSeqId)
    (hd : ((done ++ l).map Inflight.cmdSeqId).Nodup) (hlen : l.length ≤ n + (!v).toNat) :
    (List.range' (done.length + (!v).toNat) n).foldl (tickAt p now) s =
      afterVisits p now s done (visits now v l) := by
  induction l generalizing s done v n with
  | nil =>
    rw [List.append_nil] at hs
    rw [visits, afterVisits_nil hs]
    apply foldl_tickAt_absent
    intro i hi
    rw [hs]
    exact (Nat.le_add_right _ _).trans (List.mem_range'_1.1 hi).1
  | cons a l ih =>
    have hn' : ∀ e ∈ l, p.getSequenceId e.cmdFrame = e.cmdSeqId :=
      fun e he => hn e (List.mem_cons_of_mem a he)
    rw [visits, afterVisits_cons]
    cases v with
    | false =>
      rw [List.append_cons done a l] at hs hd
      have hrest := ih true n hs hn' hd (Nat.le_of_succ_le_succ hlen)
      rw [List.length_append] at hrest
      have hnone : Visited.handling p now (a, false) = [] := rfl
      rw [hnone, List.append_nil]
      exact hrest
    | true =>
      have hpos : n ≠ 0 := by
        rintro rfl
        exact Nat.not_succ_le_zero _ hlen
      obtain ⟨m, rfl⟩ := Nat.exists_eq_succ_of_ne_zero hpos
      have hnotin : ∀ b ∈ done, b.cmdSeqId ≠ a.cmdSeqId := by
        intro b hb
        rw [List.map_append, List.map_cons] at hd
        exact (List.nodup_append.1 hd).2.2 _ (List.mem_map_of_mem hb) _ List.mem_cons_self
      have hlen' : l.length ≤ m := Nat.le_of_succ_le_succ hlen
      show (List.range' (done.length + 1) m).foldl (tickAt p now) (tickAt p now s done.length) =
        afterVisits p now { s with trace := s.trace ++ a.handling p now }
          (done ++ (a.handled now).toList) (visits now (!(true && a.spent now)) l)
      rw [tickAt_length hs (hn a List.mem_cons_self) hnotin]
      rcases a.handled_cases now with ⟨hspent, hnone⟩ | ⟨hspent, b, hb, hseq⟩
      · -- the next entry is now at this place
        rw [hspent, hnone, Option.toList_none, List.append_nil]
        have hd' : ((done ++ l).map Inflight.cmdSeqId).Nodup :=
          hd.sublist (((List.sublist_cons_self a l).append_left done).map _)
        exact ih (s := ⟨s.seqId, done ++ l, s.issued, _⟩) false m rfl hn' hd'
          (Nat.le_succ_of_le hlen')
      · rw [hspent, hb, Option.toList_some]
        have hd' : ((done ++ [b] ++ l).map Inflight.cmdSeqId).Nodup := by
          rw [← List.append_cons]
          rw [List.map_append, List.map_cons, hseq, ← List.map_cons, ← List.map_append]
          exact hd
        have hrest :=
          ih (s := ⟨s.seqId, done ++ [b] ++ l, s.issued, s.trace ++ a.handling p now⟩)
          true m rfl hn' hd' hlen'
        rw [List.length_append] at hrest
        exact hrest

theorem tick_eq_afterVisits (hn : Numbered p s)
    (hd : (s.inflightCmds.map Inflight.cmdSeqId).Nodup) :
    tick p now s = afterVisits p now s [] (visits now true s.inflightCmds) := by
  rw [tick, List.range_eq_range']
  have hn' : ∀ e ∈ s.inflightCmds, p.getSequenceId e.cmdFrame = e.cmdSeqId :=
    fun e he => hn e.ticket (List.mem_map_of_mem he)
  have hs : s.inflightCmds = [] ++ s.inflightCmds := rfl
  exact foldl_tickAt true s.inflightCmds.length hs hn' hd (Nat.le_refl _)

theorem visits_map_fst (now : Timestamp) (v : Bool) (l : List (Inflight φ)) :
    (visits now v l).map Prod.fst = l := by
  induction l generalizing v with
  | nil => rfl
  | cons a l ih => rw [visits, List.map_cons, ih]

/-- Passing over an entry is no different from visiting it if it has not run out. -/
theorem handled_of_unvisited {x : Inflight φ × Bool} (h : x.2 = false → x.1.timeout now = false)
    (p : EngineSpec φ) : Visited.handled now x = x.1.handled now ∧
      Visited.handling p now x = x.1.handling p now := by
  obtain ⟨e, v⟩ := x
  cases v with
  | true => exact ⟨rfl, rfl⟩
  | false =>
    obtain ⟨hh, he⟩ := Inflight.handled_of_waiting (h rfl) p
    exact ⟨hh.symm, he.symm⟩

theorem ticked_iff_unvisited (hn : Numbered p s)
    (hd : (s.inflightCmds.map Inflight.cmdSeqId).Nodup) :
    Ticked p now s (tick p now s) ↔
      ∀ x ∈ visits now true s.inflightCmds, x.2 = false → x.1.timeout now = false := by
  have hfst := visits_map_fst now true s.inflightCmds
  rw [tick_eq_afterVisits hn hd]
  constructor
  · intro h x hx hv
    have hmem : x.1 ∈ (visits now true s.inflightCmds).filterMap (Visited.handled now) := by
      apply List.mem_filterMap.2
      refine ⟨x, hx, ?_⟩
      rw [Visited.handled, hv]
      rfl
    have hall : x.1 ∈ s.inflightCmds.filterMap (·.handled now) := by
      rw [← h.inflightCmds]
      exact hmem
    obtain ⟨e, -, he⟩ := List.mem_filterMap.1 hall
    exact Inflight.timeout_of_handled he
  · intro h
    constructor
    · show (visits now true s.inflightCmds).filterMap (Visited.handled now) = _
      conv_rhs => rw [← hfst, List.filterMap_map]
      apply List.filterMap_congr
      exact fun x hx => (handled_of_unvisited (h x hx) p).1
    · show s.trace ++ (visits now true s.inflightCmds).flatMap (Visited.handling p now) = _
      conv_rhs => rw [← hfst, List.flatMap_map]
      congr 1
      apply List.flatMap_congr
      exact fun x hx => (handled_of_unvisited (h x hx) p).2

theorem unvisited_iff_spaced (v : Bool) (l : List (Inflight φ)) :
    (∀ x ∈ visits now v l, x.2 = false → x.1.timeout now = false) ↔
      (v = false → ∀ a ∈ l.head?, a.timeout now = false) ∧ Spaced now l := by
  induction l generalizing v with
  | nil =>
    constructor
    · intro _
      exact ⟨fun _ _ h => (Option.not_mem_none _ h).elim, .nil⟩
    · intro _ x hx
      exact (List.not_mem_nil hx).elim
  | cons a l ih =>
    rw [visits, List.forall_mem_cons, ih, Spaced, Spaced, List.isChain_cons]
    constructor
    · rintro ⟨ha, hb, hl⟩
      refine ⟨?_, ?_, hl⟩
      · rintro hv _ ⟨⟩
        exact ha hv
      · intro b hmem hspent
        cases v with
        | true => exact hb (by rw [hspent]; rfl) b hmem
        | false =>
          rw [Inflight.spent, ha rfl] at hspent
          cases hspent
    · rintro ⟨ha, hb, hl⟩
      refine ⟨fun hv => ha hv a rfl, ?_, hl⟩
      intro hv b hmem
      cases v with
      | true => exact hb b hmem (by simpa using hv)
      | false => cases hv

theorem all_visited_iff {l : List (Inflight φ)} :
    (∀ x ∈ visits now true l, x.2 = false → x.1.timeout now = false) ↔ Spaced now l := by
  rw [unvisited_iff_spaced]
  constructor
  · rintro ⟨-, h⟩
    exact h
  · intro h
    exact ⟨nofun, h⟩

/-- A tick handles every entry that has run out, once, if and only if none of them stands behind
one that is dropped. -/
theorem ticked_iff (hn : Numbered p s) (hd : (s.inflightCmds.map Inflight.cmdSeqId).Nodup) :
    Ticked p now s (tick p now s) ↔ Spaced now s.inflightCmds :=
  (ticked_iff_unvisited hn hd).trans all_visited_iff

theorem numbered_run {c : BitVec 16} {tr : List (Engine φ × EngineOp φ)}
    (h : Run (Step p) { new with seqId := c } tr s) : Numbered p s :=
  h.invariant (fun _ he => absurd he List.not_mem_nil) fun _ _ _ hn hst => hn.step hst

/-- It is so in every state that the state machine reaches with distinct sequence ids. -/
theorem ticked_iff_of_run {c : BitVec 16} {tr : List (Engine φ × EngineOp φ)}
    (h : Run (Step p) { new with seqId := c } tr s)
    (hd : (s.inflightCmds.map Inflight.cmdSeqId).Nodup) :
    Ticked p now s (tick p now s) ↔ Spaced now s.inflightCmds :=
  (ticked_iff_unvisited (numbered_run h) hd).trans all_visited_iff

/-- Two commands that nobody answers, after `n` ticks 251 ms apart. -/
def unanswered (p : EngineSpec φ) (frame : φ) (n : Nat) : Engine φ :=
  (List.range n).foldl (fun s k => s.tick p (.ofNat 32 (251 * (k + 1))))
    ((Engine.new.stateSendCmd p 0 1 .cmdWithNotification frame).stateSendCmd p 0 2
      .cmdWithNotification frame)

end

/-- READ_DESCRIPTOR of the entity to station 3. -/
def readEntity : AecpFrame where
  messageType := .aemCommand
  targetEntityId := 3
  controllerEntityId := 1
  commandType := .readDescriptor

/-- The first tick resends both. -/
theorem ticked_iff_resent : Ticked aecpSpec 251 (unanswered aecpSpec readEntity 0)
    ((unanswered aecpSpec readEntity 0).tick aecpSpec 251) := by
  have hn : Numbered aecpSpec (unanswered aecpSpec readEntity 0) := by
    unfold Numbered
    decide
  exact (ticked_iff hn (by decide)).2 (by decide)

/-- The second drops the first command and passes over the second one, which it should drop as
well. -/
theorem unanswered_not_ticked :
    ((unanswered aecpSpec readEntity 1).inflightCmds.map Inflight.cmdSeqId).Nodup ∧
      ¬ Ticked aecpSpec 502 (unanswered aecpSpec readEntity 1)
        ((unanswered aecpSpec readEntity 1).tick aecpSpec 502) := by
  refine ⟨by decide, ?_⟩
  intro h
  exact absurd h.inflightCmds (by decide)

end Engine

end AvdeccLib
