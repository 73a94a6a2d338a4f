import AvdeccLib.Effects
import AvdeccLib.Library.Presence
import AvdeccLib.Library.Runs

namespace AvdeccLib
set_option autoImplicit true

open Runs Outcome FirstMatch

namespace AdpDiscoveryStateMachine

def ids (m : AdpDiscoveryStateMachine) : List EntityId := m.entitiesVec.map (·.entityId)

def post (p : EntityId × Bool) : Notification :=
  notification (if p.2 then .endStationConnected else .endStationDisconnected) p.1

theorem stateAvail_of_mem {m : AdpDiscoveryStateMachine} {frame : AdpFrame}
    (h : frame.entityIdBytes ∈ m.ids) (now : Timestamp) :
    (m.stateAvail now frame).ids = m.ids ∧ (m.stateAvail now frame).posts = m.posts := by
  obtain ⟨e, he, hid⟩ := List.mem_map.1 h
  cases hf : m.haveEntity frame.entityIdBytes with
  | none =>
    have hnone := List.findIdx?_eq_none_iff.1 hf e he
    rw [hid, beq_self_eq_true] at hnone
    cases hnone
  | some i =>
    obtain ⟨hlt, hi, -⟩ := List.findIdx?_eq_some_iff_getElem.1 hf
    have hget : m.entitiesVec[i]? = some m.entitiesVec[i] := List.getElem?_eq_getElem hlt
    simp only [stateAvail, hf, ids]
    exact ⟨map_set hget (eq_of_beq hi).symm, trivial⟩

theorem stateAvail_of_not_mem {m : AdpDiscoveryStateMachine} {frame : AdpFrame}
    (h : frame.entityIdBytes ∉ m.ids) (now : Timestamp) :
    (m.stateAvail now frame).ids = m.ids ++ [frame.entityIdBytes] ∧
      (m.stateAvail now frame).posts = m.posts ++ [post (frame.entityIdBytes, true)] := by
  have hf : m.haveEntity frame.entityIdBytes = none := by
    apply List.findIdx?_eq_none_iff.2
    intro e he
    apply beq_eq_false_iff_ne.2
    intro hid
    exact h (List.mem_map.2 ⟨e, he, hid⟩)
  simp only [stateAvail, hf, ids, List.map_append, List.map_cons, List.map_nil]
  exact ⟨trivial, rfl⟩

theorem tick_cases (m : AdpDiscoveryStateMachine) (now : Timestamp) :
    ((m.tick now).2 = none ∧ (m.tick now).1.ids = m.ids ∧ (m.tick now).1.posts = m.posts) ∨
    ∃ id, (m.tick now).2 = some id ∧ m.ids.Perm (id :: (m.tick now).1.ids) ∧
      (m.tick now).1.posts = m.posts ++ [post (id, false)] := by
  have hvec :
    (if m.firstTick then { m with firstTick := false, discovered := m.discovered ++ [0] }
      else m).entitiesVec = m.entitiesVec := by split <;> rfl
  have hposts :
    (if m.firstTick then { m with firstTick := false, discovered := m.discovered ++ [0] }
      else m).posts = m.posts := by split <;> rfl
  rw [tick]
  simp only [hvec]
  cases hf : m.entitiesVec.find? (·.inflightTimer.timeout now) with
  | none =>
    refine .inl ⟨rfl, ?_, hposts⟩
    rw [ids, hvec]
    rfl
  | some e =>
    refine .inr ⟨e.entityId, rfl, ?_, ?_⟩
    · exact (perm_eraseP hf).map (·.entityId)
    · simp only [hposts]
      rfl

end AdpDiscoveryStateMachine

/-- An end station agrees with the entities that are being tracked. -/
structure EndStation.Tracked (es : EndStation) (tracked : List EntityId) : Prop where
  ne_zero : es.entityId ≠ 0
  adp : es.adp.entityId = es.entityId
  status : es.connectionStatus = if es.entityId ∈ tracked then .connected else .disconnected

theorem EndStation.Tracked.congr {es es' : EndStation} {l l' : List EntityId}
    (h : es.Tracked l) (heq : es'.identity = es.identity)
    (hl : es.entityId ∈ l' ↔ es.entityId ∈ l) : es'.Tracked l' := by
  obtain ⟨hne, hadp, hstatus⟩ := h
  simp only [identity, Prod.mk.injEq] at heq
  obtain ⟨hid, ha, hc⟩ := heq
  constructor
  · rw [hid]
    exact hne
  · rw [ha, hid]
    exact hadp
  · rw [hc, hid, hstatus]
    simp only [hl]

theorem EndStation.Tracked.connected_iff {es : EndStation} {l : List EntityId}
    (h : es.Tracked l) : es.connectionStatus = .connected ↔ es.entityId ∈ l := by
  rw [h.status]
  by_cases hm : es.entityId ∈ l
  · simp only [hm, if_true]
  · simp only [hm, if_false, reduceCtorEq]

theorem EndStation.Tracked.disconnected_iff {es : EndStation} {l : List EntityId}
    (h : es.Tracked l) : es.connectionStatus = .disconnected ↔ es.entityId ∉ l := by
  rw [h.status]
  by_cases hm : es.entityId ∈ l
  · simp only [hm, if_true, reduceCtorEq, not_true]
  · simp only [hm, if_false, not_false_eq_true]

namespace Controller

def ids (c : Controller) : List EntityId := c.endStationVec.map (·.entityId)

/-- The state of the controller agrees with that of a presence tracker. -/
structure Coupled (c : Controller) (s : Presence.State EntityId) : Prop where
  nodup : c.ids.Nodup
  stations : ∀ es ∈ c.endStationVec, es.Tracked c.adp.ids
  tracked_nodup : c.adp.ids.Nodup
  tracked_known : ∀ id ∈ c.adp.ids, id ∈ c.ids
  present : ∀ id, id ∈ s.present ↔ id ∈ c.adp.ids
  posts : c.adp.posts = s.record.map AdpDiscoveryStateMachine.post
  recorded : ∀ id ∈ c.ids, ∃ b, (id, b) ∈ s.record

theorem coupled_new (mac : Mac) : Coupled (.new mac) Presence.empty := by
  refine ⟨List.nodup_nil, ?_, List.nodup_nil, ?_, ?_, rfl, ?_⟩
  · intro es hes
    cases hes
  · intro id hid
    cases hid
  · intro id
    exact ⟨fun h => h.elim, fun h => absurd h List.not_mem_nil⟩
  · intro id hid
    cases hid

theorem exists_of_mem_ids {c : Controller} {id : EntityId} (h : id ∈ c.ids) :
    ∃ es ∈ c.endStationVec, es.entityId = id := List.mem_map.1 h

theorem Coupled.of_identity {c c' : Controller} {s : Presence.State EntityId} (h : Coupled c s)
    (hadp : c'.adp = c.adp)
    (hids : c'.endStationVec.map EndStation.identity =
      c.endStationVec.map EndStation.identity) :
    Coupled c' s := by
  have hc : c'.ids = c.ids := by
    have hfst := congrArg (List.map Prod.fst) hids
    simpa only [ids, List.map_map, Function.comp_def, EndStation.identity] using hfst
  refine ⟨?_, ?_, ?_, ?_, ?_, ?_, ?_⟩
  · rw [hc]
    exact h.nodup
  · intro es' hes'
    have hmem := List.mem_map_of_mem (f := EndStation.identity) hes'
    rw [hids] at hmem
    obtain ⟨es, hes, heq⟩ := List.mem_map.1 hmem
    exact (h.stations es hes).congr heq.symm (by rw [hadp])
  · rw [hadp]
    exact h.tracked_nodup
  · rw [hadp, hc]
    exact h.tracked_known
  · rw [hadp]
    exact h.present
  · rw [hadp]
    exact h.posts
  · rw [hc]
    exact h.recorded

theorem entityIdBytes_eq {frame : AdpFrame} (h : (frame.adpdu.getD zeroAdpdu).entityId ≠ 0) :
    frame.entityIdBytes = (frame.adpdu.getD zeroAdpdu).entityId := by
  cases ha : frame.adpdu with
  | none =>
    rw [ha] at h
    exact absurd rfl h
  | some a => exact (frame.adpdu_entityId a ha).symm

section
variable {c c' : Controller} {s : Presence.State EntityId} {id : EntityId}

theorem Coupled.arrive (h : Coupled c s) (hid : id ∉ c.adp.ids)
    (hids : c'.adp.ids = c.adp.ids ++ [id])
    (hposts : c'.adp.posts = c.adp.posts ++ [AdpDiscoveryStateMachine.post (id, true)])
    (hnodup : c'.ids.Nodup) (hstations : ∀ es ∈ c'.endStationVec, es.Tracked c'.adp.ids)
    (hold : ∀ i ∈ c.ids, i ∈ c'.ids) (hnew : ∀ i ∈ c'.ids, i ∈ c.ids ∨ i = id)
    (hmem : id ∈ c'.ids) : ∃ ch t, Presence.Step s ch t ∧ Coupled c' t := by
  have hpresent : id ∉ s.present := fun hp => hid ((h.present id).1 hp)
  refine ⟨_, _, .arrive hpresent, ?_⟩
  refine ⟨hnodup, hstations, ?_, ?_, ?_, ?_, ?_⟩
  · rw [hids]
    apply List.Nodup.append h.tracked_nodup (List.nodup_singleton id)
    simpa using hid
  · intro i hi
    rw [hids, List.mem_append, List.mem_singleton] at hi
    rcases hi with hi | rfl
    · exact hold i (h.tracked_known i hi)
    · exact hmem
  · intro i
    rw [hids, List.mem_append, List.mem_singleton, Set.mem_insert_iff, h.present i, or_comm]
  · rw [hposts, h.posts, List.map_append]
    rfl
  · intro i hi
    rcases hnew i hi with hi | rfl
    · obtain ⟨b, hb⟩ := h.recorded i hi
      exact ⟨b, List.mem_append_left _ hb⟩
    · exact ⟨true, List.mem_append_right _ List.mem_cons_self⟩

theorem Coupled.depart {es : EndStation} {i : Nat} (h : Coupled c s)
    (hids : c.adp.ids.Perm (id :: c'.adp.ids))
    (hposts : c'.adp.posts = c.adp.posts ++ [AdpDiscoveryStateMachine.post (id, false)])
    (hi : c.endStationVec[i]? = some es) (hes : es.entityId = id)
    (hvec : c'.endStationVec =
      c.endStationVec.set i { es with connectionStatus := .disconnected }) :
    ∃ ch t, Presence.Step s ch t ∧ Coupled c' t := by
  have hid : id ∈ c.adp.ids := hids.mem_iff.2 List.mem_cons_self
  have hcons : (id :: c'.adp.ids).Nodup := hids.nodup_iff.1 h.tracked_nodup
  obtain ⟨hnot, hnodup⟩ := List.nodup_cons.1 hcons
  have hmem : ∀ j, j ∈ c.adp.ids ↔ j = id ∨ j ∈ c'.adp.ids := by
    intro j
    rw [hids.mem_iff, List.mem_cons]
  have hc : c'.ids = c.ids := by
    rw [ids, hvec]
    exact map_set hi rfl
  refine ⟨_, _, .depart ((h.present id).2 hid), ?_⟩
  refine ⟨?_, ?_, hnodup, ?_, ?_, ?_, ?_⟩
  · rw [hc]
    exact h.nodup
  · intro es' hes'
    rw [hvec] at hes'
    rcases mem_set_of_nodup (g := fun es : EndStation => es.entityId) h.nodup hi hes' with
      rfl | ⟨hold, hne⟩
    · obtain ⟨hne, hadp, -⟩ := h.stations es (List.mem_of_getElem? hi)
      refine ⟨hne, hadp, ?_⟩
      rw [hes, if_neg hnot]
    · apply (h.stations es' hold).congr rfl
      rw [hmem]
      rw [hes] at hne
      exact ⟨.inr, fun hor => hor.resolve_left hne⟩
  · intro j hj
    rw [hc]
    exact h.tracked_known j ((hmem j).2 (.inr hj))
  · intro j
    rw [Set.mem_sdiff, Set.mem_singleton_iff, h.present j, hmem]
    constructor
    · rintro ⟨hor, hne⟩
      exact hor.resolve_left hne
    · intro hj
      refine ⟨.inr hj, ?_⟩
      rintro rfl
      exact hnot hj
  · rw [hposts, h.posts, List.map_append]
    rfl
  · intro j hj
    rw [hc] at hj
    obtain ⟨b, hb⟩ := h.recorded j hj
    exact ⟨b, List.mem_append_left _ hb⟩

theorem rxNewAdp_coupled {now : Timestamp} {frame : AdpFrame} (h : Coupled c s)
    (hne : (frame.adpdu.getD zeroAdpdu).entityId ≠ 0)
    (hnone : c.lastEndStation (frame.adpdu.getD zeroAdpdu).entityId = none)
    (hs : c.rxNewAdp now frame = .ok c') : ∃ ch t, Presence.Step s ch t ∧ Coupled c' t := by
  obtain ⟨⟨es, tx⟩, hnew, hs⟩ := bind_eq_ok.1 hs
  obtain ⟨⟨adpdu, ha, hident⟩, -⟩ := EndStation.new_ok hnew
  simp only [EndStation.identity, Prod.mk.injEq] at hident
  obtain ⟨heid, hadp, -⟩ := hident
  have hid := entityIdBytes_eq hne
  rw [ha, Option.getD_some] at hne hid hnone
  rw [← hid] at hne hnone heid
  have hunknown : frame.entityIdBytes ∉ c.ids := by
    intro hm
    obtain ⟨es₁, hes₁, heq⟩ := exists_of_mem_ids hm
    exact lastEndStation_none hnone es₁ hes₁ ((h.stations es₁ hes₁).adp.trans heq)
  have huntracked : frame.entityIdBytes ∉ c.adp.ids := fun hm => hunknown (h.tracked_known _ hm)
  obtain ⟨hids, hposts⟩ := AdpDiscoveryStateMachine.stateAvail_of_not_mem huntracked now
  have hvec : c'.endStationVec = c.endStationVec ++
    [{ es with connectionStatus := .connected }] := by
    cases hs
    rfl
  have hadp' : c'.adp = c.adp.stateAvail now frame := by
    cases hs
    rfl
  have hc : c'.ids = c.ids ++ [frame.entityIdBytes] := by
    simp only [ids, hvec, List.map_append, List.map_cons, List.map_nil, heid]
  rw [← hadp'] at hids hposts
  apply h.arrive huntracked hids hposts
  · rw [hc]
    apply List.Nodup.append h.nodup (List.nodup_singleton _)
    simpa using hunknown
  · intro es' hes'
    rw [hvec, List.mem_append, List.mem_singleton] at hes'
    rcases hes' with hes' | rfl
    · apply (h.stations es' hes').congr rfl
      have hne' : es'.entityId ≠ frame.entityIdBytes := by
        intro heq
        exact hunknown (List.mem_map.2 ⟨es', hes', heq⟩)
      simp only [hids, List.mem_append, List.mem_singleton, hne', or_false]
    · constructor
      · rw [heid]
        exact hne
      · rw [hadp, heid]
        exact hid.symm
      · rw [heid, hids, if_pos (List.mem_append_right _ List.mem_cons_self)]
  · intro i hi
    rw [hc]
    exact List.mem_append_left _ hi
  · intro i hi
    rw [hc, List.mem_append, List.mem_singleton] at hi
    exact hi
  · rw [hc]
    exact List.mem_append_right _ List.mem_cons_self

theorem procAdpdu_entityId {adp : Adpdu} {frame : AdpFrame}
    (h : adp.entityId = frame.entityIdBytes) :
    (procAdpdu adp frame).entityId = frame.entityIdBytes := by
  rw [procAdpdu]
  split
  · cases ha : frame.adpdu with
    | none => exact h
    | some a => exact frame.adpdu_entityId a ha
  · exact h

theorem rxKnownAdp_station {now : Timestamp} {frame : AdpFrame} {adpdu : Adpdu}
    {es : EndStation}
    {i : Nat} (hs : c.rxKnownAdp now frame adpdu es i = .ok c')
    (hstatus : es.connectionStatus = .connected ∨ es.connectionStatus = .disconnected) :
    c'.adp = c.adp.stateAvail now frame ∧ ∃ es', c'.endStationVec = c.endStationVec.set i es' ∧
      es'.identity = (es.entityId, procAdpdu es.adp frame, .connected) := by
  obtain ⟨⟨es₁, tx⟩, hre, hs⟩ := bind_eq_ok.1 hs
  have hes₁ : es₁.identity = es.identity := by
    split at hre
    · rw [(EndStation.endStationReenumerate_ok hre).1]
      rfl
    · cases hre
      rfl
  simp only [EndStation.identity, Prod.mk.injEq] at hes₁
  obtain ⟨hid, hadp, hst⟩ := hes₁
  cases hs
  refine ⟨rfl, _, rfl, ?_⟩
  rw [← hid, ← hadp]
  rw [← hst] at hstatus
  rcases hstatus with hc | hd
  · simp only [hc, reduceCtorEq, if_false, EndStation.identity]
  · simp only [hd, if_true, EndStation.identity]

theorem rxKnownAdp_coupled {now : Timestamp} {frame : AdpFrame} {es : EndStation} {i : Nat}
    (h : Coupled c s) (hne : (frame.adpdu.getD zeroAdpdu).entityId ≠ 0)
    (hsome : c.lastEndStation (frame.adpdu.getD zeroAdpdu).entityId = some (es, i))
    (hs : c.rxKnownAdp now frame (frame.adpdu.getD zeroAdpdu) es i = .ok c') :
    ∃ ch t, Presence.Step s ch t ∧ Coupled c' t := by
  obtain ⟨hi, hes⟩ := lastEndStation_some hsome
  have hmem := List.mem_of_getElem? hi
  obtain ⟨hne', hadp, hstatus⟩ := h.stations es hmem
  have hesid : es.entityId = frame.entityIdBytes := by
    rw [← hadp, hes, entityIdBytes_eq hne]
  have hor : es.connectionStatus = .connected ∨ es.connectionStatus = .disconnected := by
    rw [hstatus]
    split
    · exact .inl rfl
    · exact .inr rfl
  obtain ⟨hadp', es', hvec, hident⟩ := rxKnownAdp_station hs hor
  simp only [EndStation.identity, Prod.mk.injEq] at hident
  obtain ⟨hid', ha', hc'⟩ := hident
  have hids : c'.ids = c.ids := by
    rw [ids, hvec]
    exact map_set hi hid'
  have hnodup : c'.ids.Nodup := by
    rw [hids]
    exact h.nodup
  have htracked : frame.entityIdBytes ∈ c'.adp.ids → es'.Tracked c'.adp.ids := by
    intro hin
    constructor
    · rw [hid']
      exact hne'
    · rw [ha', hid', hesid]
      exact procAdpdu_entityId (hadp.trans hesid)
    · rw [hc', hid', hesid, if_pos hin]
  by_cases hin : frame.entityIdBytes ∈ c.adp.ids
  · obtain ⟨haids, hposts⟩ := AdpDiscoveryStateMachine.stateAvail_of_mem hin now
    rw [← hadp'] at haids hposts
    refine ⟨_, s, .keep, hnodup, ?_, ?_, ?_, ?_, ?_, ?_⟩
    · intro es₂ hes₂
      rw [hvec] at hes₂
      rcases List.mem_or_eq_of_mem_set hes₂ with hes₂ | rfl
      · exact (h.stations es₂ hes₂).congr rfl (by rw [haids])
      · exact htracked (by rw [haids]; exact hin)
    · rw [haids]
      exact h.tracked_nodup
    · rw [haids, hids]
      exact h.tracked_known
    · rw [haids]
      exact h.present
    · rw [hposts]
      exact h.posts
    · rw [hids]
      exact h.recorded
  · obtain ⟨haids, hposts⟩ := AdpDiscoveryStateMachine.stateAvail_of_not_mem hin now
    rw [← hadp'] at haids hposts
    apply h.arrive hin haids hposts hnodup
    · intro es₂ hes₂
      rw [hvec] at hes₂
      rcases mem_set_of_nodup (g := fun es : EndStation => es.entityId) h.nodup hi hes₂ with
        rfl | ⟨hold, hne₂⟩
      · exact htracked (by rw [haids]; exact List.mem_append_right _ List.mem_cons_self)
      · rw [hesid] at hne₂
        apply (h.stations es₂ hold).congr rfl
        simp only [haids, List.mem_append, List.mem_singleton, hne₂, or_false]
    · rw [hids]
      exact fun _ hi => hi
    · rw [hids]
      exact fun _ hi => .inl hi
    · rw [hids, ← hesid]
      exact List.mem_map_of_mem hmem

theorem rxAdp_coupled {now : Timestamp} {frame : AdpFrame} (h : Coupled c s)
    (hs : c.rxAdp now frame = .ok c') : ∃ ch t, Presence.Step s ch t ∧ Coupled c' t := by
  unfold rxAdp at hs
  simp only at hs
  split at hs
  · cases hs
    exact ⟨_, s, .keep, h⟩
  · split at hs
    · cases hs
      exact ⟨_, s, .keep, h⟩
    · next hne =>
      split at hs
      · next hnone => exact rxNewAdp_coupled h hne hnone hs
      · next es i hsome => exact rxKnownAdp_coupled h hne hsome hs

theorem adpTick_coupled {now : Timestamp} (h : Coupled c s) :
    ∃ ch t, Presence.Step s ch t ∧ Coupled (c.adpTick now) t := by
  rw [adpTick]
  rcases AdpDiscoveryStateMachine.tick_cases c.adp now with ⟨hnone, hids, hposts⟩ |
    ⟨id, hsome, hids, hposts⟩
  · simp only [hnone, Option.bind_none]
    refine ⟨_, s, .keep, h.nodup, ?_, ?_, ?_, ?_, ?_, h.recorded⟩
    · intro es hes
      exact (h.stations es hes).congr rfl (by rw [hids])
    · rw [hids]
      exact h.tracked_nodup
    · rw [hids]
      exact h.tracked_known
    · rw [hids]
      exact h.present
    · rw [hposts]
      exact h.posts
  · have hid : id ∈ c.ids := h.tracked_known id (hids.mem_iff.2 List.mem_cons_self)
    obtain ⟨es₁, hes₁, heq₁⟩ := exists_of_mem_ids hid
    cases hf : c.isEndStationFoundByEntityId id with
    | none =>
      have hno := List.findIdx?_eq_none_iff.1 hf es₁ hes₁
      rw [heq₁, beq_self_eq_true] at hno
      cases hno
    | some i =>
      obtain ⟨hlt, hi, -⟩ := List.findIdx?_eq_some_iff_getElem.1 hf
      have hget : c.endStationVec[i]? = some c.endStationVec[i] := List.getElem?_eq_getElem hlt
      have hf' : isEndStationFoundByEntityId { c with adp := (c.adp.tick now).1 } id = some i :=
        hf
      simp only [hsome, Option.bind_some, hf']
      apply h.depart hids hposts hget (eq_of_beq hi)
      exact modify_eq_set _ hget

end

theorem ticked_coupled {c : Controller} {s : Presence.State EntityId} (h : Coupled c s)
    (now : Timestamp) : ∃ ch t, Presence.Step s ch t ∧ Coupled (c.ticked now) t := by
  have hg : ∀ g, Coupled { c with globals := g } s := fun g => h.of_identity rfl rfl
  exact adpTick_coupled (hg _)

theorem handle_coupled {c c' : Controller} {s : Presence.State EntityId} {e : Event}
    (h : Coupled c s) (hs : c.Step e c') : ∃ ch t, Presence.Step s ch t ∧ Coupled c' t := by
  cases e with
  | rxPacket now uninit frame =>
    obtain ⟨⟨c₁, out⟩, hrx, hs⟩ := bind_eq_ok.1 hs
    cases hs
    cases rxPacketEvent_received hrx with
    | ignored => exact ⟨_, s, .keep, h⟩
    | adp _ hadp => exact rxAdp_coupled h hadp
    | aecp haecp =>
      refine ⟨_, s, .keep, ?_⟩
      cases haecp with
      | ignored => exact h
      | handled _ _ hf _ hr =>
        exact h.of_identity rfl (map_set (findInEndStation_some hf).1 hr.identity_eq)
    | acmp hacmp =>
      refine ⟨_, s, .keep, ?_⟩
      cases hacmp with
      | ignored => exact h
      | handled => exact h.of_identity rfl rfl
  | timeTick now =>
    obtain ⟨rounds, hr, rfl⟩ := timeTickEvent_ok hs
    obtain ⟨ch, t, hst, ht⟩ := ticked_coupled h now
    refine ⟨ch, t, hst, ht.of_identity rfl ?_⟩
    have hmap := mapM_map hr (g := EndStation.identity) (k := fun p => p.1.identity)
      fun es p hp => EndStation.timeTick_identity hp
    simpa only [systemQueueTx, List.map_map, Function.comp_def] using hmap
  | txPacket now =>
    refine ⟨_, s, .keep, ?_⟩
    obtain ⟨hadp, hvec⟩ := txPacket_adp hs
    exact h.of_identity hadp (by rw [hvec])

/-- What the notifications of the state machine say about one entity, oldest first. -/
def connections (c : Controller) (id : EntityId) : List NotificationType :=
  (c.adp.posts.filter fun n => n.entityId == id).map (·.notificationType)

/-- What the controller guarantees about the end stations that it has seen. -/
structure AdpTracked (c : Controller) : Prop where
  endStations_nodup : (c.endStationVec.map (·.entityId)).Nodup
  endStations_ne_zero : ∀ es ∈ c.endStationVec, es.entityId ≠ 0
  entities_nodup : (c.adp.entitiesVec.map (·.entityId)).Nodup
  entities_known : ∀ e ∈ c.adp.entitiesVec, ∃ es ∈ c.endStationVec, es.entityId = e.entityId
  connected : ∀ es ∈ c.endStationVec, es.connectionStatus = .connected ↔
    ∃ e ∈ c.adp.entitiesVec, e.entityId = es.entityId
  disconnected : ∀ es ∈ c.endStationVec, es.connectionStatus = .disconnected ↔
    ¬ ∃ e ∈ c.adp.entitiesVec, e.entityId = es.entityId
  alternate : ∀ id k t, (c.connections id)[k]? = some t →
    t = if k % 2 = 0 then .endStationConnected else .endStationDisconnected
  agree : ∀ es ∈ c.endStationVec, (c.connections es.entityId).getLast? =
    some (if es.connectionStatus = .connected then .endStationConnected
      else .endStationDisconnected)

theorem Coupled.connections_eq {c : Controller} {s : Presence.State EntityId} (h : Coupled c s)
    (id : EntityId) : c.connections id = (Presence.history s id).map fun b =>
      if b then .endStationConnected else .endStationDisconnected := by
  rw [connections, h.posts, Presence.history, List.filter_map, List.map_map, List.map_map]
  rfl

theorem Coupled.tracked {c : Controller} {s : Presence.State EntityId} (h : Coupled c s)
    (hs : Presence.Consistent s) : AdpTracked c := by
  have hids : ∀ id, id ∈ c.adp.ids ↔ ∃ e ∈ c.adp.entitiesVec, e.entityId = id := by
    intro id
    exact List.mem_map
  refine ⟨h.nodup, ?_, h.tracked_nodup, ?_, ?_, ?_, ?_, ?_⟩
  · intro es hes
    exact (h.stations es hes).ne_zero
  · intro e he
    exact exists_of_mem_ids (h.tracked_known _ (List.mem_map_of_mem he))
  · intro es hes
    rw [(h.stations es hes).connected_iff, hids]
  · intro es hes
    rw [(h.stations es hes).disconnected_iff, hids]
  · intro id k t ht
    rw [h.connections_eq, List.getElem?_map, Option.map_eq_some_iff] at ht
    obtain ⟨b, hb, rfl⟩ := ht
    rw [(hs id).1 k b hb]
    simp only [decide_eq_true_eq]
  · intro es hes
    obtain ⟨halt, hpresent⟩ := hs es.entityId
    have hne : Presence.history s es.entityId ≠ [] := by
      obtain ⟨b, hb⟩ := h.recorded es.entityId (List.mem_map_of_mem hes)
      exact Presence.history_ne_nil hb
    have hc : es.connectionStatus = .connected ↔
        (Presence.history s es.entityId).length % 2 = 1 := by
      rw [(h.stations es hes).connected_iff, ← h.present, hpresent]
    rw [h.connections_eq, List.getLast?_map, halt.getLast? hne, Option.map_some]
    simp only [hc, decide_eq_true_eq]

theorem exists_coupled {mac : Mac} {tr : List (Controller × Event)} {c : Controller}
    (h : Run Step (.new mac) tr c) :
    ∃ s, Reachable Presence.Step (Presence.empty : Presence.State EntityId) s ∧
      Coupled c s := by
  apply h.invariant (I := fun c => ∃ s, Reachable Presence.Step Presence.empty s ∧ Coupled c s)
  · exact ⟨_, .refl, coupled_new mac⟩
  · intro c e c' ⟨s, hs, hc⟩ hst
    obtain ⟨ch, t, hstep, ht⟩ := handle_coupled hc hst
    exact ⟨t, hs.snoc hstep, ht⟩

/-- In every state that the controller reaches, whatever frames and ticks come in. -/
theorem adp_tracked {mac : Mac} {tr : List (Controller × Event)} {c : Controller}
    (h : Run Step (.new mac) tr c) : AdpTracked c := by
  obtain ⟨s, hs, hc⟩ := exists_coupled h
  exact hc.tracked (Presence.reachable_consistent hs)

/-- An ENTITY_AVAILABLE that is valid for two seconds. -/
def advertisement (entityId : EntityId) (availableIndex : BitVec 32) : AdpFrame :=
  { destMac := 0x91e0f0010000
    srcMac := 2
    entityIdBytes := entityId
    validTime := 1
    adpdu := some ⟨entityId, 7, availableIndex, false, false⟩
    adpdu_entityId := by
      intro a h
      cases h
      rfl }

theorem adp_tracked_expired :
    ∃ tr c, Run Step (.new 1) tr c ∧ AdpTracked c ∧
      (c.endStationVec.any fun es => es.connectionStatus == .disconnected) = true := by
  have htrial : trial handle (fun _ _ => true)
      (fun c => c.endStationVec.any fun es => es.connectionStatus == .disconnected) (.new 1)
      [.rxPacket 0 0 (.adp (advertisement 3 0)), .timeTick 2001] = true := by decide
  obtain ⟨tr, c, hrun, -, hc⟩ := exists_run_of_trial (fun _ _ _ h => h) htrial
  exact ⟨tr, c, hrun, adp_tracked hrun, hc⟩

end Controller
end AvdeccLib
