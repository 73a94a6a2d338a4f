import AvdeccLib.AdpTracking

namespace AvdeccLib
set_option autoImplicit true

open Runs FirstMatch

theorem AdpFrame.toNat_validTimeMs (frame : AdpFrame) :
    (AdpDiscoveryStateMachine.validTimeMs frame).toNat = 2000 * frame.validTime.toNat := by
  have hlt := frame.validTime.isLt
  have h2 : (2 : BitVec 32).toNat = 2 := rfl
  have h1000 : (1000 : BitVec 32).toNat = 1000 := rfl
  rw [AdpDiscoveryStateMachine.validTimeMs, BitVec.toNat_mul, BitVec.toNat_mul,
    BitVec.toNat_setWidth, h2, h1000]
  omega

namespace AdpDiscoveryStateMachine

inductive Op where
  | stateAvail (frame : AdpFrame)
  | tick

def apply (now : Timestamp) (m : AdpDiscoveryStateMachine) : Op → AdpDiscoveryStateMachine
  | .stateAvail frame => m.stateAvail now frame
  | .tick => (m.tick now).1

/-- An accepted frame of the entity. -/
def Op.names (id : EntityId) : Op → Prop
  | .stateAvail frame => frame.entityIdBytes = id
  | .tick => False

def Op.isTick : Op → Bool
  | .stateAvail _ => false
  | .tick => true

/-- The state machine, a clock that counts milliseconds without wrapping around, and when the
last frame of each entity was accepted and which one it was. -/
structure Observed where
  machine : AdpDiscoveryStateMachine
  clock : Nat
  heard : EntityId → Option (Nat × AdpFrame)

namespace Observed

def new (clock : Nat) : Observed := ⟨.new, clock, fun _ => none⟩

def listen (s : Observed) (clock : Nat) : Op → EntityId → Option (Nat × AdpFrame)
  | .stateAvail frame => Function.update s.heard frame.entityIdBytes (some (clock, frame))
  | .tick => s.heard

/-- One call of the state machine. Time has gone on before it, and the code sees 32 bits of
it. -/
structure Step (s : Observed) (op : Op) (s' : Observed) : Prop where
  clock : s.clock ≤ s'.clock
  machine : s'.machine = s.machine.apply (.ofNat 32 s'.clock) op
  heard : s'.heard = s.listen s'.clock op

/-- More than two seconds for each unit of its valid time have passed since the last frame of
the entity that was accepted. -/
def Overdue (s : Observed) (id : EntityId) (clock : Nat) : Prop :=
  ∃ t frame, s.heard id = some (t, frame) ∧ t + 2000 * frame.validTime.toNat < clock

/-- The clock has not come around to the time of the last frame yet. -/
def Recent (s : Observed) (id : EntityId) (clock : Nat) : Prop :=
  ∀ t frame, s.heard id = some (t, frame) → clock < t + 2 ^ 32

/-- Each entity is tracked once, with a timer that its last frame started. -/
structure Timed (s : Observed) : Prop where
  nodup : s.machine.ids.Nodup
  timers : ∀ e ∈ s.machine.entitiesVec, ∃ t frame, s.heard e.entityId = some (t, frame) ∧
    t ≤ s.clock ∧ e.inflightTimer = .start (.ofNat 32 t) (validTimeMs frame)

section
variable {m : AdpDiscoveryStateMachine} {s s' : Observed} {op : Op} {e : Entities}
  {id : EntityId} {now : Timestamp} {frame : AdpFrame}

theorem mem_stateAvail (hn : m.ids.Nodup) (h : e ∈ (m.stateAvail now frame).entitiesVec) :
    e = ⟨frame.entityIdBytes, .start now (validTimeMs frame)⟩ ∨
      e ∈ m.entitiesVec ∧ e.entityId ≠ frame.entityIdBytes := by
  cases hf : m.haveEntity frame.entityIdBytes with
  | none =>
    simp only [stateAvail, hf, List.mem_append, List.mem_singleton] at h
    rcases h with h | rfl
    · refine .inr ⟨h, ?_⟩
      exact beq_eq_false_iff_ne.1 (List.findIdx?_eq_none_iff.1 hf e h)
    · exact .inl rfl
  | some i =>
    obtain ⟨hlt, hi, -⟩ := List.findIdx?_eq_some_iff_getElem.1 hf
    simp only [stateAvail, hf] at h
    rcases mem_set_of_nodup hn (List.getElem?_eq_getElem hlt) h with rfl | ⟨h, hne⟩
    · exact .inl rfl
    · rw [eq_of_beq hi] at hne
      exact .inr ⟨h, hne⟩

theorem getElem?_stateAvail {k : Nat} (h : m.entitiesVec[k]? = some e)
    (hne : e.entityId ≠ frame.entityIdBytes) :
    (m.stateAvail now frame).entitiesVec[k]? = some e := by
  cases hf : m.haveEntity frame.entityIdBytes with
  | none =>
    simp only [stateAvail, hf]
    exact (getElem?_append_singleton_iff_of_ne (g := Entities.entityId) rfl hne).2 h
  | some i =>
    obtain ⟨hlt, hi, -⟩ := List.findIdx?_eq_some_iff_getElem.1 hf
    simp only [stateAvail, hf]
    exact (getElem?_set_iff_of_ne (g := Entities.entityId) (List.getElem?_eq_getElem hlt)
      (eq_of_beq hi) rfl hne).2 h

theorem stateAvail_nodup (hn : m.ids.Nodup) (now : Timestamp) (frame : AdpFrame) :
    (m.stateAvail now frame).ids.Nodup := by
  by_cases h : frame.entityIdBytes ∈ m.ids
  · rw [(stateAvail_of_mem h now).1]
    exact hn
  · rw [(stateAvail_of_not_mem h now).1]
    apply hn.append (List.nodup_singleton _)
    simpa using h

/-- A tick takes the first entity out whose timer has run out. -/
theorem tick_entitiesVec (m : AdpDiscoveryStateMachine) (now : Timestamp) :
    (m.tick now).1.entitiesVec = m.entitiesVec.eraseP (·.inflightTimer.timeout now) := by
  have hvec :
    (if m.firstTick then { m with firstTick := false, discovered := m.discovered ++ [0] }
      else m).entitiesVec = m.entitiesVec := by split <;> rfl
  simp only [tick, hvec]
  cases hf : m.entitiesVec.find? (·.inflightTimer.timeout now) with
  | none =>
    rw [eraseP_of_find?_none hf]
    exact hvec
  | some e => rfl

theorem tick_find? (m : AdpDiscoveryStateMachine) (now : Timestamp) :
    (m.entitiesVec.find? (·.inflightTimer.timeout now) = none ∧
      (m.tick now).1.posts = m.posts) ∨
    ∃ e, m.entitiesVec.find? (·.inflightTimer.timeout now) = some e ∧
      (m.tick now).1.posts = m.posts ++ [post (e.entityId, false)] := by
  have hvec :
    (if m.firstTick then { m with firstTick := false, discovered := m.discovered ++ [0] }
      else m).entitiesVec = m.entitiesVec := by split <;> rfl
  have hposts :
    (if m.firstTick then { m with firstTick := false, discovered := m.discovered ++ [0] }
      else m).posts = m.posts := by split <;> rfl
  simp only [tick, hvec]
  cases hf : m.entitiesVec.find? (·.inflightTimer.timeout now) with
  | none => exact .inl ⟨rfl, hposts⟩
  | some e => exact .inr ⟨e, rfl, by simp only [hposts]; rfl⟩

theorem Timed.step (hs : s.Timed) (h : s.Step op s') : s'.Timed := by
  cases op with
  | stateAvail frame =>
    have hm : s'.machine = s.machine.stateAvail (.ofNat 32 s'.clock) frame := h.machine
    have hh : s'.heard = Function.update s.heard frame.entityIdBytes (some (s'.clock, frame)) :=
      h.heard
    refine ⟨?_, ?_⟩
    · rw [hm]
      exact stateAvail_nodup hs.nodup _ _
    · intro e he
      rw [hm] at he
      rcases mem_stateAvail hs.nodup he with rfl | ⟨he, hne⟩
      · exact ⟨s'.clock, frame, by rw [hh, Function.update_self], Nat.le_refl _, rfl⟩
      · obtain ⟨t, f, ht, hle, htimer⟩ := hs.timers e he
        exact ⟨t, f, by rw [hh, Function.update_of_ne hne, ht], hle.trans h.clock, htimer⟩
  | tick =>
    have hm : s'.machine = (s.machine.tick (.ofNat 32 s'.clock)).1 := h.machine
    have hh : s'.heard = s.heard := h.heard
    have hsub : s'.machine.entitiesVec.Sublist s.machine.entitiesVec := by
      rw [hm, tick_entitiesVec]
      exact List.eraseP_sublist
    refine ⟨hs.nodup.sublist (hsub.map _), ?_⟩
    intro e he
    obtain ⟨t, f, ht, hle, htimer⟩ := hs.timers e (hsub.subset he)
    exact ⟨t, f, by rw [hh, ht], hle.trans h.clock, htimer⟩

theorem timed_of_run {tr : List (Observed × Op)} {clock : Nat} (h : Run Step (new clock) tr s) :
    s.Timed := by
  apply h.invariant
  · refine ⟨List.nodup_nil, ?_⟩
    intro e he
    cases he
  · intro t op u ht hst
    exact ht.step hst

theorem Timed.overdue {clock : Nat} (hs : s.Timed) (he : e ∈ s.machine.entitiesVec)
    (hle : s.clock ≤ clock) (hto : e.inflightTimer.timeout (.ofNat 32 clock) = true) :
    s.Overdue e.entityId clock := by
  obtain ⟨t, f, ht, htle, htimer⟩ := hs.timers e he
  rw [htimer, Timer.start_timeout_iff, BitVec.lt_def, AdpFrame.toNat_validTimeMs] at hto
  have hpast := Timer.elapsedMs_le (htle.trans hle)
  refine ⟨t, f, ht, ?_⟩
  omega

theorem Timed.timeout {clock : Nat} (hs : s.Timed) (he : e ∈ s.machine.entitiesVec)
    (hle : s.clock ≤ clock) (hover : s.Overdue e.entityId clock)
    (hrecent : s.Recent e.entityId clock) :
    e.inflightTimer.timeout (.ofNat 32 clock) = true := by
  obtain ⟨t, f, ht, htle, htimer⟩ := hs.timers e he
  obtain ⟨t', f', ht', hover⟩ := hover
  rw [ht] at ht'
  cases ht'
  have heq := Timer.elapsedMs_eq (htle.trans hle) (hrecent t f ht)
  rw [htimer, Timer.start_timeout_iff, BitVec.lt_def, AdpFrame.toNat_validTimeMs, heq]
  omega

/-- The entity is no longer tracked, or END_STATION_DISCONNECTED was posted for it. -/
def Drops (s s' : Observed) (id : EntityId) : Prop :=
  (id ∈ s.machine.ids ∧ id ∉ s'.machine.ids) ∨
    post (id, false) ∈ s'.machine.posts.drop s.machine.posts.length

theorem Timed.drops (hs : s.Timed) (h : s.Step op s') (hd : s.Drops s' id) :
    s.Overdue id s'.clock := by
  cases op with
  | stateAvail frame =>
    have hm : s'.machine = s.machine.stateAvail (.ofNat 32 s'.clock) frame := h.machine
    rw [Drops, hm] at hd
    by_cases hin : frame.entityIdBytes ∈ s.machine.ids
    · obtain ⟨hids, hposts⟩ := stateAvail_of_mem hin (.ofNat 32 s'.clock)
      rw [hids, hposts, List.drop_length] at hd
      rcases hd with ⟨hmem, hnot⟩ | hpost
      · exact absurd hmem hnot
      · cases hpost
    · obtain ⟨hids, hposts⟩ := stateAvail_of_not_mem hin (.ofNat 32 s'.clock)
      rw [hids, hposts, List.drop_left, List.mem_singleton] at hd
      rcases hd with ⟨hmem, hnot⟩ | hpost
      · exact absurd (List.mem_append_left _ hmem) hnot
      · cases congrArg Notification.notificationType hpost
  | tick =>
    have hm : s'.machine = (s.machine.tick (.ofNat 32 s'.clock)).1 := h.machine
    rw [Drops, hm, ids, ids, tick_entitiesVec] at hd
    rcases tick_find? s.machine (.ofNat 32 s'.clock) with ⟨hf, hposts⟩ | ⟨e, hf, hposts⟩
    · rw [eraseP_of_find?_none hf, hposts, List.drop_length] at hd
      rcases hd with ⟨hmem, hnot⟩ | hpost
      · exact absurd hmem hnot
      · cases hpost
    · have hid : id = e.entityId := by
        rw [hposts, List.drop_left, List.mem_singleton] at hd
        rcases hd with ⟨hmem, hnot⟩ | hpost
        · rcases List.mem_cons.1 (((perm_eraseP hf).map _).mem_iff.1 hmem) with rfl | hrest
          · rfl
          · exact absurd hrest hnot
        · exact congrArg Notification.entityId hpost
      have hto := List.find?_some hf
      rw [hid]
      exact hs.overdue (List.mem_of_find?_eq_some hf) h.clock hto

def ticks (tr : List (Observed × Op)) : Nat := tr.countP (·.2.isTick)

theorem ticks_snoc (tr : List (Observed × Op)) (p : Observed × Op) :
    ticks (tr ++ [p]) = ticks tr + ticks [p] := List.countP_append

theorem Step.heard_eq (h : s.Step op s') (hop : ¬ op.names id) : s'.heard id = s.heard id := by
  rw [h.heard]
  cases op with
  | stateAvail frame => exact Function.update_of_ne (fun heq => hop heq.symm) _ _
  | tick => rfl

theorem Step.gone (h : s.Step op s') (hop : ¬ op.names id) (hgone : id ∉ s.machine.ids) :
    id ∉ s'.machine.ids := by
  rw [h.machine]
  cases op with
  | stateAvail frame =>
    show id ∉ (s.machine.stateAvail (.ofNat 32 s'.clock) frame).ids
    by_cases hin : frame.entityIdBytes ∈ s.machine.ids
    · rw [(stateAvail_of_mem hin _).1]
      exact hgone
    · rw [(stateAvail_of_not_mem hin _).1, List.mem_append, List.mem_singleton]
      rintro (hmem | rfl)
      · exact hgone hmem
      · exact hop rfl
  | tick =>
    show id ∉ (s.machine.tick (.ofNat 32 s'.clock)).1.ids
    rw [ids, tick_entitiesVec]
    intro hmem
    exact hgone (((List.eraseP_sublist).map _).subset hmem)

/-- A call takes an overdue entity away or leaves it where it is, and a tick moves it
forward. -/
theorem Timed.forward {j : Nat} (hs : s.Timed) (h : s.Step op s') (hop : ¬ op.names e.entityId)
    (hget : s.machine.entitiesVec[j]? = some e) (hover : s.Overdue e.entityId s'.clock)
    (hrecent : s.Recent e.entityId s'.clock) :
    e.entityId ∉ s'.machine.ids ∨
      ∃ i, i + ticks [(s, op)] ≤ j ∧ s'.machine.entitiesVec[i]? = some e := by
  rw [h.machine]
  cases op with
  | stateAvail frame =>
    exact .inr ⟨j, Nat.le_refl j, getElem?_stateAvail hget fun heq => hop heq.symm⟩
  | tick =>
    show e.entityId ∉ (s.machine.tick (.ofNat 32 s'.clock)).1.ids ∨ ∃ i, i + 1 ≤ j ∧
      (s.machine.tick (.ofNat 32 s'.clock)).1.entitiesVec[i]? = some e
    rw [ids, tick_entitiesVec]
    have hto := hs.timeout (List.mem_of_getElem? hget) h.clock hover hrecent
    rcases find?_or_eraseP (p := fun e : Entities =>
      e.inflightTimer.timeout (.ofNat 32 s'.clock))
      hget hto with hf | ⟨i, rfl, hi⟩
    · left
      have hperm := (perm_eraseP hf).map Entities.entityId
      exact (List.nodup_cons.1 (hperm.nodup_iff.1 hs.nodup)).1
    · exact .inr ⟨i, Nat.le_refl _, hi⟩

/-- What a silent entity comes to: it is removed, or it moves forward with each tick. -/
theorem gone_or_forward {k : Nat} {tr : List (Observed × Op)} (hs : s.Timed)
    (he : s.machine.entitiesVec[k]? = some e) (hover : s.Overdue e.entityId s.clock)
    (h : Run Step s tr s') (hsilent : Along (fun _ op => ¬ op.names e.entityId) tr)
    (hrecent : s.Recent e.entityId s'.clock) :
    s'.Timed ∧ s.clock ≤ s'.clock ∧ s'.heard e.entityId = s.heard e.entityId ∧
      (e.entityId ∉ s'.machine.ids ∨
        ∃ j, j + ticks tr ≤ k ∧ s'.machine.entitiesVec[j]? = some e) := by
  induction h with
  | nil => exact ⟨hs, Nat.le_refl _, rfl, .inr ⟨k, Nat.le_refl _, he⟩⟩
  | @snoc tr t op u hr hst ih =>
    obtain ⟨hsilent, hop⟩ := along_snoc.1 hsilent
    have hrecent' : s.Recent e.entityId t.clock :=
      fun t₀ f hf => hst.clock.trans_lt (hrecent t₀ f hf)
    obtain ⟨ht, hle, hheard, hor⟩ := ih hsilent hrecent'
    have hle' : s.clock ≤ u.clock := hle.trans hst.clock
    refine ⟨ht.step hst, hle', (hst.heard_eq hop).trans hheard, ?_⟩
    rcases hor with hgone | ⟨j, hj, hget⟩
    · exact .inl (hst.gone hop hgone)
    · have hover' : t.Overdue e.entityId u.clock := by
        obtain ⟨t₀, f, hf, hlt⟩ := hover
        exact ⟨t₀, f, hheard.trans hf, hlt.trans_le hle'⟩
      have hrecent'' : t.Recent e.entityId u.clock :=
        fun t₀ f hf => hrecent t₀ f (hheard.symm.trans hf)
      rcases ht.forward hst hop hget hover' hrecent'' with hgone | ⟨i, hi, hget⟩
      · exact .inl hgone
      · refine .inr ⟨i, ?_, hget⟩
        rw [ticks_snoc]
        omega

/-- An entity is dropped only when it is overdue, and one that is overdue is gone after as many
ticks as its place is from the front, whatever happens to the other entities. -/
theorem adp_expiry {clock : Nat} {tr : List (Observed × Op)} (h : Run Step (new clock) tr s) :
    (∀ op s' id, s.Step op s' → s.Drops s' id → s.Overdue id s'.clock) ∧
    (∀ k e tr' s', s.machine.entitiesVec[k]? = some e → s.Overdue e.entityId s.clock →
      Run Step s tr' s' → Along (fun _ op => ¬ op.names e.entityId) tr' →
      s.Recent e.entityId s'.clock → k + 1 ≤ ticks tr' → e.entityId ∉ s'.machine.ids) := by
  have hs := timed_of_run h
  constructor
  · intro op s' id hst hd
    exact hs.drops hst hd
  · intro k e tr' s' he hover hrun hsilent hrecent hticks
    obtain ⟨-, -, -, hgone | ⟨j, hj, -⟩⟩ := gone_or_forward hs he hover hrun hsilent hrecent
    · exact hgone
    · omega

/-- The call at a given time. -/
def next (s : Observed) (clock : Nat) (op : Op) : Observed :=
  ⟨s.machine.apply (.ofNat 32 clock) op, clock, s.listen clock op⟩

theorem step_next {clock : Nat} (h : s.clock ≤ clock) (op : Op) : s.Step op (s.next clock op) :=
  ⟨h, rfl, rfl⟩

/-- Station 3 is heard at 0 ms and station 4 at 2001 ms. -/
def twoHeard : Observed :=
  ((new 0).next 0 (.stateAvail (Controller.advertisement 3 0))).next 2001
    (.stateAvail (Controller.advertisement 4 0))

/-- One tick later station 3 is gone. -/
theorem adp_expiry_two :
    ∃ tr, Run Step (new 0) tr twoHeard ∧ twoHeard.machine.ids = [3, 4] ∧
      3 ∉ (twoHeard.next 2002 .tick).machine.ids := by
  have hrun : Run Step (new 0) _ twoHeard :=
    (Run.nil.snoc (step_next (Nat.le_refl 0) _)).snoc (step_next (Nat.zero_le 2001) _)
  have hheard : twoHeard.heard 3 = some (0, Controller.advertisement 3 0) := rfl
  have hover : twoHeard.Overdue 3 2001 := ⟨_, _, hheard, Nat.lt_succ_self 2000⟩
  refine ⟨_, hrun, rfl, ?_⟩
  apply (adp_expiry hrun).2 0 _ _ (twoHeard.next 2002 .tick) rfl hover
    (Run.nil.snoc (step_next (Nat.le_succ 2001) .tick))
  · exact along_snoc.2 ⟨along_nil _, fun h => h⟩
  · intro t f hf
    cases hheard.symm.trans hf
    show 2002 < 0 + 2 ^ 32
    decide
  · decide

end

end Observed

end AdpDiscoveryStateMachine

/-- Every event of the lib thread is at most one call of the state machine. -/
theorem Controller.step_adp {c c' : Controller} {e : Controller.Event} (h : c.Step e c') :
    c'.adp = c.adp ∨ ∃ now op, c'.adp = c.adp.apply now op := by
  cases e with
  | rxPacket now uninit frame =>
    obtain ⟨⟨c₁, out⟩, hrx, h⟩ := Outcome.bind_eq_ok.1 h
    cases h
    cases rxPacketEvent_received hrx with
    | ignored => exact .inl rfl
    | @adp f c₁ _ _ hadp =>
      unfold rxAdp at hadp
      simp only at hadp
      split at hadp
      · cases hadp
        exact .inl rfl
      · split at hadp
        · cases hadp
          exact .inl rfl
        · have hs : c₁.adp = c.adp.stateAvail now f := by
            split at hadp
            · obtain ⟨p, -, hadp⟩ := Outcome.bind_eq_ok.1 hadp
              cases hadp
              rfl
            · obtain ⟨p, -, hadp⟩ := Outcome.bind_eq_ok.1 hadp
              cases hadp
              rfl
          exact .inr ⟨now, .stateAvail f, hs⟩
    | aecp haecp =>
      cases haecp with
      | ignored => exact .inl rfl
      | handled => exact .inl rfl
    | acmp hacmp =>
      cases hacmp with
      | ignored => exact .inl rfl
      | handled => exact .inl rfl
  | timeTick now =>
    obtain ⟨rounds, -, rfl⟩ := timeTickEvent_ok h
    refine .inr ⟨now, .tick, ?_⟩
    simp only [systemQueueTx, ticked, adpTick]
    split <;> rfl
  | txPacket now => exact .inl (txPacket_adp h).1

end AvdeccLib
