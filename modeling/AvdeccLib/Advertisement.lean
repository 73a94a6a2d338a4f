import AvdeccLib.AdpTracking

namespace AvdeccLib
set_option autoImplicit true

open Runs Outcome FirstMatch

namespace AdpFrame

def named (f : AdpFrame) : EntityId := (f.adpdu.getD Controller.zeroAdpdu).entityId

/-- One of the two capabilities that keep an entity from being enumerated. -/
def hidden (f : AdpFrame) : Bool :=
  (f.adpdu.getD Controller.zeroAdpdu).generalControllerIgnore ||
    (f.adpdu.getD Controller.zeroAdpdu).entityNotReady

/-- The frames that may advertise an end station. -/
structure Advertises (f : AdpFrame) : Prop where
  messageType : f.messageType = .entityAvailable
  named : f.named ≠ 0
  hidden : f.hidden = false

end AdpFrame

namespace Controller

/-- What only an advertisement should do: an end station is created, set connected or enumerated
again, or an entity has its timer restarted. -/
inductive Advertised (c c' : Controller) : Prop where
  | created (h : c.endStationVec.length < c'.endStationVec.length)
  | connected {i : Nat} {es es' : EndStation} (h : c.endStationVec[i]? = some es)
      (h' : c'.endStationVec[i]? = some es') (hs : es.connectionStatus ≠ .connected)
      (hs' : es'.connectionStatus = .connected)
  | reenumerated {i : Nat} {es es' : EndStation} (h : c.endStationVec[i]? = some es)
      (h' : c'.endStationVec[i]? = some es') (hg : es.generation < es'.generation)
  | restarted {e : Entities} (h : e ∉ c.adp.entitiesVec) (h' : e ∈ c'.adp.entitiesVec)

theorem not_advertised_self (c : Controller) : ¬ Advertised c c := by
  intro h
  cases h with
  | created h => exact Nat.lt_irrefl _ h
  | connected h h' hs hs' =>
    rw [h] at h'
    cases h'
    exact hs hs'
  | reenumerated h h' hg =>
    rw [h] at h'
    cases h'
    exact Nat.lt_irrefl _ hg
  | restarted h h' => exact h h'

/-- The ADP frames that nothing is done for, whatever their message type is. The last kind makes
the constructor of the new end station fail its assertion. -/
inductive Disregards (c : Controller) (f : AdpFrame) : Prop where
  | address (h : c.accepts f.destMac = false)
  | hidden (h : f.hidden = true)
  | unnamed (h : f.named = 0)
  | unread (h : f.frameReadOk = false) (hn : ∀ es ∈ c.endStationVec, es.adp.entityId ≠ f.named)

section
variable {c c' : Controller} {now : Timestamp} {uninit : EntityId} {f : AdpFrame}

theorem handle_adp (hd : c.accepts f.destMac = true) :
    c.handle (.rxPacket now uninit (.adp f)) = c.rxAdp now f := by
  simp only [handle, rxPacketEvent, RxFrame.destMac, hd, if_true]
  cases c.rxAdp now f <;> rfl

theorem rxAdp_eq (hh : f.hidden = false) (hn : f.named ≠ 0) :
    c.rxAdp now f = match c.lastEndStation f.named with
      | none => c.rxNewAdp now f
      | some (es, i) => c.rxKnownAdp now f (f.adpdu.getD zeroAdpdu) es i := by
  rw [AdpFrame.hidden] at hh
  rw [AdpFrame.named] at hn
  simp only [rxAdp, hh, Bool.false_eq_true, if_false, hn]
  rfl

theorem lastEndStation_eq_none {id : EntityId}
    (h : ∀ es ∈ c.endStationVec, es.adp.entityId ≠ id) : c.lastEndStation id = none := by
  cases hl : c.lastEndStation id with
  | none => rfl
  | some p =>
    obtain ⟨es, i⟩ := p
    obtain ⟨hi, hid⟩ := lastEndStation_some hl
    exact absurd hid (h _ (List.mem_of_getElem? hi))

theorem step_disregarded (hd : c.Disregards f)
    (h : c.Step (.rxPacket now uninit (.adp f)) c') : c' = c := by
  rw [Step] at h
  cases ha : c.accepts f.destMac with
  | false =>
    simp only [handle, rxPacketEvent, RxFrame.destMac, ha, Bool.false_eq_true, if_false] at h
    cases h
    rfl
  | true =>
    rw [handle_adp ha] at h
    by_cases hh : f.hidden = true
    · rw [AdpFrame.hidden] at hh
      simp only [rxAdp, hh, if_true] at h
      cases h
      rfl
    · by_cases hn : f.named = 0
      · rw [AdpFrame.hidden] at hh
        rw [AdpFrame.named] at hn
        simp only [rxAdp, hh, hn, if_true] at h
        cases h
        rfl
      · have hh' : f.hidden = false := by simpa using hh
        rw [rxAdp_eq hh' hn] at h
        cases hd with
        | address hd =>
          rw [ha] at hd
          cases hd
        | hidden hd => exact absurd hd hh
        | unnamed hd => exact absurd hd hn
        | unread hr hk =>
          rw [lastEndStation_eq_none hk] at h
          obtain ⟨⟨es, tx⟩, hnew, -⟩ := bind_eq_ok.1 h
          rw [EndStation.new, hr] at hnew
          cases hnew

theorem exists_rxNewAdp (now : Timestamp) (hr : f.frameReadOk = true) (hn : f.named ≠ 0) :
    ∃ c', c.rxNewAdp now f = .ok c' ∧ c.endStationVec.length < c'.endStationVec.length := by
  cases ha : f.adpdu with
  | none =>
    rw [AdpFrame.named, ha] at hn
    exact absurd rfl hn
  | some adpdu =>
    rw [rxNewAdp, EndStation.new, hr, ha]
    refine ⟨_, rfl, ?_⟩
    simp only [systemQueueTx, List.length_append, List.length_cons, List.length_nil]
    omega

theorem exists_rxKnownAdp (now : Timestamp) (adpdu : Adpdu) (es : EndStation) (i : Nat) :
    ∃ c', c.rxKnownAdp now f adpdu es i = .ok c' ∧ c'.adp = c.adp.stateAvail now f := by
  rw [rxKnownAdp]
  split
  · exact ⟨_, rfl, rfl⟩
  · exact ⟨_, rfl, rfl⟩

end

theorem stateAvail_mem (m : AdpDiscoveryStateMachine) (now : Timestamp) (f : AdpFrame) :
    ⟨f.entityIdBytes, .start now (AdpDiscoveryStateMachine.validTimeMs f)⟩ ∈
      (m.stateAvail now f).entitiesVec := by
  simp only [AdpDiscoveryStateMachine.stateAvail]
  cases hf : m.haveEntity f.entityIdBytes with
  | none => exact List.mem_append_right _ List.mem_cons_self
  | some i =>
    obtain ⟨hlt, -⟩ := List.findIdx?_eq_some_iff_getElem.1 hf
    exact List.mem_set hlt _

theorem exists_restart_time {l : List Entities} (hn : (l.map (·.entityId)).Nodup)
    (id : EntityId) (d : BitVec 32) : ∃ now, (⟨id, .start now d⟩ : Entities) ∉ l := by
  by_cases hin : ∃ e ∈ l, e.entityId = id
  · obtain ⟨e, he, hid⟩ := hin
    refine ⟨e.inflightTimer.startTime + 1, ?_⟩
    intro hmem
    have heq := List.inj_on_of_nodup_map hn hmem he hid.symm
    have ht : e.inflightTimer.startTime + 1 = e.inflightTimer.startTime :=
      congrArg (fun e : Entities => e.inflightTimer.startTime) heq
    simp at ht
  · exact ⟨0, fun hmem => hin ⟨_, hmem, rfl⟩⟩

theorem exists_advertised {c : Controller} {f : AdpFrame}
    (hn : (c.adp.entitiesVec.map (·.entityId)).Nodup) (hd : ¬ c.Disregards f) :
    ∃ now c', c.Step (.rxPacket now 0 (.adp f)) c' ∧ Advertised c c' := by
  have ha : c.accepts f.destMac = true := by
    cases ha : c.accepts f.destMac with
    | true => rfl
    | false => exact absurd (.address ha) hd
  have hh : f.hidden = false := by
    cases hh : f.hidden with
    | false => rfl
    | true => exact absurd (.hidden hh) hd
  have hne : f.named ≠ 0 := fun h => hd (.unnamed h)
  simp only [Step, handle_adp ha, rxAdp_eq hh hne]
  cases hl : c.lastEndStation f.named with
  | none =>
    have hr : f.frameReadOk = true := by
      cases hr : f.frameReadOk with
      | true => rfl
      | false => exact absurd (.unread hr (lastEndStation_none hl)) hd
    obtain ⟨c', hok, hlt⟩ := exists_rxNewAdp (c := c) 0 hr hne
    exact ⟨0, c', hok, .created hlt⟩
  | some p =>
    obtain ⟨now, hnot⟩ := exists_restart_time hn f.entityIdBytes
      (AdpDiscoveryStateMachine.validTimeMs f)
    obtain ⟨c', hok, hadp⟩ := exists_rxKnownAdp (c := c) (f := f) now
      (f.adpdu.getD zeroAdpdu) p.1 p.2
    refine ⟨now, c', hok, .restarted hnot ?_⟩
    rw [hadp]
    exact stateAvail_mem _ _ _

/-- The message type is not looked at: in a reachable state only advertisements advertise
exactly if the frame is an ENTITY_AVAILABLE or is disregarded for another reason. -/
theorem only_advertisements_advertise_iff {mac : Mac} {tr : List (Controller × Event)}
    {c : Controller} (h : Run Step (.new mac) tr c) (f : AdpFrame) :
    (∀ now uninit c', c.Step (.rxPacket now uninit (.adp f)) c' → Advertised c c' →
      f.Advertises) ↔ f.messageType = .entityAvailable ∨ c.Disregards f := by
  constructor
  · intro hall
    by_cases hd : c.Disregards f
    · exact .inr hd
    · obtain ⟨s, -, hc⟩ := exists_coupled h
      obtain ⟨now, c', hs, hadv⟩ := exists_advertised hc.tracked_nodup hd
      exact .inl (hall now 0 c' hs hadv).messageType
  · intro hor now uninit c' hs hadv
    have hd : ¬ c.Disregards f := by
      intro hd
      rw [step_disregarded hd hs] at hadv
      exact not_advertised_self c hadv
    refine ⟨hor.resolve_right hd, fun hn => hd (.unnamed hn), ?_⟩
    cases hh : f.hidden with
    | false => rfl
    | true => exact absurd (.hidden hh) hd

theorem only_advertisements_advertise_iff_known :
    ∃ tr c, Run Step (.new 1) tr c ∧ c.endStationVec ≠ [] ∧
      ((∀ now uninit c', c.Step (.rxPacket now uninit (.adp (advertisement 3 0))) c' →
        Advertised c c' → (advertisement 3 0).Advertises) ↔
      (advertisement 3 0).messageType = .entityAvailable ∨
        c.Disregards (advertisement 3 0)) := by
  have htrial : trial handle (fun _ _ => true) (fun c => !c.endStationVec.isEmpty) (.new 1)
      [.rxPacket 0 0 (.adp (advertisement 3 0))] = true := by decide
  obtain ⟨tr, c, hrun, -, hc⟩ := exists_run_of_trial (fun _ _ _ h => h) htrial
  refine ⟨tr, c, hrun, ?_, only_advertisements_advertise_iff hrun _⟩
  intro hnil
  rw [hnil] at hc
  cases hc

/-- The ENTITY_DISCOVER for one entity that a controller sends, as another one receives it. -/
def targetedDiscover (entityId : EntityId) : AdpFrame :=
  { destMac := 0x91e0f0010000
    srcMac := 4
    messageType := .entityDiscover
    entityIdBytes := entityId
    validTime := 0
    adpdu := some ⟨entityId, 0, 0, false, false⟩
    adpdu_entityId := by
      intro a h
      cases h
      rfl }

/-- A targeted discover creates an end station. -/
theorem discover_advertises :
    ¬ ∀ (mac : Mac) (tr : List (Controller × Event)) (c : Controller),
      Run Step (.new mac) tr c → ∀ (f : AdpFrame) (now : Timestamp) (uninit : EntityId)
        (c' : Controller), c.Step (.rxPacket now uninit (.adp f)) c' → Advertised c c' →
          f.Advertises := by
  intro hall
  have hd : (Controller.new 1).Disregards (targetedDiscover 3) → False := by
    intro hd
    cases hd with
    | address h => exact absurd h (by decide)
    | hidden h => exact absurd h (by decide)
    | unnamed h => exact absurd h (by decide)
    | unread h => exact absurd h (by decide)
  obtain ⟨now, c', hs, hadv⟩ := exists_advertised (c := .new 1) List.nodup_nil hd
  have hadvertises := hall 1 [] _ .nil _ _ _ _ hs hadv
  exact absurd hadvertises.messageType (by decide)

end Controller
end AvdeccLib
