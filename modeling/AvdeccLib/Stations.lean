import AvdeccLib.Effects

namespace AvdeccLib
set_option autoImplicit true

open Outcome FirstMatch

namespace Controller

/-- The end station that an event enumerates again, if any. -/
def reenumerated (c : Controller) : Event → Option EndStation
  | .rxPacket _ _ (.adp frame) =>
    let adpdu := frame.adpdu.getD zeroAdpdu
    if !c.accepts frame.destMac then none
    else if adpdu.generalControllerIgnore || adpdu.entityNotReady then none
    else if adpdu.entityId = 0 then none
    else ((c.lastEndStation adpdu.entityId).map Prod.fst).filter fun es => reenumerates es adpdu
  | _ => none

inductive StationStep (c : Controller) (e : Event) (es : EndStation) : EndStation → Prop where
  | unchanged : StationStep c e es es
  | rcvdDescriptor {es' : EndStation} {mac : Mac} {now : Timestamp} {status : BitVec 5}
      {d : AemDesc} {tx : List TxData} {posts : List Notification}
      (h : es.rcvdDescriptor mac now status d = .ok (es', tx, posts)) : StationStep c e es es'
  | timeTick {connectionStatus : ConnectionStatus} {es' : EndStation} {mac : Mac}
      {now : Timestamp} {tx : List TxData}
      (h : { es with connectionStatus }.timeTick mac now = .ok (es', tx)) :
        StationStep c e es es'
  | refreshed {adp : Adpdu} {connectionStatus : ConnectionStatus} :
      StationStep c e es { es with adp, connectionStatus }
  | reenumerated {adp : Adpdu} {connectionStatus : ConnectionStatus}
      (h : c.reenumerated e = some es) :
      StationStep c e es { es with
        adp
        connectionStatus
        entityDescVec := []
        generation := es.generation + 1
        currentConfigDesc := 0 }

theorem adpTick_station {c : Controller} {now : Timestamp} {es' : EndStation}
    (h : es' ∈ (c.adpTick now).endStationVec) :
    ∃ es ∈ c.endStationVec, ∃ connectionStatus, es' = { es with connectionStatus } := by
  unfold adpTick at h
  simp only at h
  split at h
  · next i _ =>
    have hmod : es' ∈ c.endStationVec.modify i fun es =>
        { es with connectionStatus := .disconnected } := h
    obtain ⟨j, hj⟩ := List.getElem?_of_mem hmod
    rw [List.getElem?_modify] at hj
    split at hj
    · obtain ⟨es, hes, rfl⟩ := Option.map_eq_some_iff.1 hj
      exact ⟨es, List.mem_of_getElem? hes, _, rfl⟩
    · obtain ⟨es, hes, rfl⟩ := Option.map_eq_some_iff.1 hj
      exact ⟨es, List.mem_of_getElem? hes, es.connectionStatus, rfl⟩
  · exact ⟨es', h, es'.connectionStatus, rfl⟩

theorem rxKnownAdp_step {c c' : Controller} {e : Event} {now : Timestamp} {frame : AdpFrame}
    {adpdu : Adpdu} {es : EndStation} {i : Nat}
    (hre : reenumerates es adpdu = true → c.reenumerated e = some es)
    (h : c.rxKnownAdp now frame adpdu es i = .ok c') :
    ∃ es', c'.endStationVec = c.endStationVec.set i es' ∧ StationStep c e es es' := by
  obtain ⟨⟨es₁, tx⟩, h₁, h⟩ := bind_eq_ok.1 h
  cases h
  refine ⟨_, rfl, ?_⟩
  split at h₁
  · next hr =>
    rw [(EndStation.endStationReenumerate_ok h₁).1]
    simp only
    split
    · exact .reenumerated (hre hr)
    · exact .reenumerated (hre hr)
  · cases h₁
    simp only
    split
    · exact .refreshed
    · exact .refreshed

theorem rxAdp_station {c c' : Controller} {now : Timestamp} {uninit : EntityId}
    {frame : AdpFrame}
    {es' : EndStation} (hd : c.accepts frame.destMac = true) (h : c.rxAdp now frame = .ok c')
    (hm : es' ∈ c'.endStationVec) :
    (∃ es ∈ c.endStationVec, StationStep c (.rxPacket now uninit (.adp frame)) es es') ∨
    ∃ mac frame es tx, EndStation.new mac frame = .ok (es, tx) ∧
      es' = { es with connectionStatus := .connected } := by
  unfold rxAdp at h
  simp only at h
  split at h
  · cases h
    exact .inl ⟨es', hm, .unchanged⟩
  · next hflags =>
    split at h
    · cases h
      exact .inl ⟨es', hm, .unchanged⟩
    · next hid =>
      split at h
      · obtain ⟨⟨es, tx⟩, hnew, h⟩ := bind_eq_ok.1 h
        cases h
        rcases List.mem_append.1 hm with hm | hm
        · exact .inl ⟨es', hm, .unchanged⟩
        · exact .inr ⟨_, _, es, tx, hnew, List.mem_singleton.1 hm⟩
      · next es i hlast =>
        have hre : reenumerates es (frame.adpdu.getD zeroAdpdu) = true →
            c.reenumerated (.rxPacket now uninit (.adp frame)) = some es := by
          intro hr
          simp only [reenumerated]
          rw [hd, if_neg (by decide), if_neg hflags, if_neg hid, hlast]
          simp only [Option.map_some, Option.filter_some, hr, if_true]
        obtain ⟨es₁, hvec, hst⟩ := rxKnownAdp_step hre h
        rw [hvec] at hm
        left
        rcases List.mem_or_eq_of_mem_set hm with hm | rfl
        · exact ⟨es', hm, .unchanged⟩
        · exact ⟨es, List.mem_of_getElem? (lastEndStation_some hlast).1, hst⟩

theorem step_station {c c' : Controller} {e : Event} {es' : EndStation} (h : c.Step e c')
    (hm : es' ∈ c'.endStationVec) :
    (∃ es ∈ c.endStationVec, StationStep c e es es') ∨
    ∃ mac frame es tx, EndStation.new mac frame = .ok (es, tx) ∧
      es' = { es with connectionStatus := .connected } := by
  cases e with
  | rxPacket now uninit frame =>
    obtain ⟨⟨c₁, out⟩, hrx, h⟩ := bind_eq_ok.1 h
    cases h
    cases rxPacketEvent_received hrx with
    | ignored => exact .inl ⟨es', hm, .unchanged⟩
    | adp hd hadp => exact rxAdp_station hd hadp hm
    | aecp haecp =>
      left
      cases haecp with
      | ignored => exact ⟨es', hm, .unchanged⟩
      | handled _ _ hf _ hr =>
        rcases List.mem_or_eq_of_mem_set hm with hm | rfl
        · exact ⟨es', hm, .unchanged⟩
        · refine ⟨_, List.mem_of_getElem? (findInEndStation_some hf).1, ?_⟩
          cases hr with
          | unchanged => exact .unchanged
          | descriptor hr => exact .rcvdDescriptor hr
    | acmp hacmp =>
      left
      cases hacmp with
      | ignored => exact ⟨es', hm, .unchanged⟩
      | handled => exact ⟨es', hm, .unchanged⟩
  | timeTick now =>
    obtain ⟨rounds, hr, rfl⟩ := timeTickEvent_ok h
    obtain ⟨p, hp, rfl⟩ := List.mem_map.1 hm
    obtain ⟨es₁, hes₁, ht⟩ := exists_of_mem_mapM hr hp
    obtain ⟨es, hes, status, rfl⟩ := adpTick_station hes₁
    exact .inl ⟨es, hes, .timeTick ht⟩
  | txPacket now =>
    rw [(txPacket_adp h).2] at hm
    exact .inl ⟨es', hm, .unchanged⟩

end Controller
end AvdeccLib
