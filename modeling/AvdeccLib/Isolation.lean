import AvdeccLib.AdpTracking

namespace AvdeccLib
set_option autoImplicit true

open Runs Outcome FirstMatch

/-- The entity id that a frame names: that of the ADPDU, the target of an AECPDU, the talker or
the listener of an ACMP response. -/
def RxFrame.named (uninit : EntityId) : RxFrame → Option EntityId
  | .adp f => some (f.adpdu.getD Controller.zeroAdpdu).entityId
  | .aecp f => some f.targetEntityId
  | .acmp f => some (Controller.entityEntityId uninit f)
  | .other _ => none

namespace Controller

/-- An AECPDU or ACMPDU from a controller other than this one and the named station itself, or
an AECPDU that was sent to another MAC address. -/
def Foreign (c : Controller) (uninit : EntityId) : RxFrame → Prop
  | .aecp f => f.destMac ≠ c.globals.macAddr ∨
    f.controllerEntityId ≠ getControllerEntityId c.globals.macAddr ∧
      f.controllerEntityId ≠ f.targetEntityId
  | .acmp f => f.controllerEntityId ≠ getControllerEntityId c.globals.macAddr ∧
      f.controllerEntityId ≠ entityEntityId uninit f
  | _ => False

/-- Two states show every end station with another id at the same place. -/
def AgreeExcept (id : Option EntityId) (c c' : Controller) : Prop :=
  ∀ (i : Nat) (es : EndStation), id ≠ some es.entityId →
    (c'.endStationVec[i]? = some es ↔ c.endStationVec[i]? = some es)

theorem AgreeExcept.refl (id : Option EntityId) (c : Controller) : AgreeExcept id c c := by
  intro i es _
  rfl

section
variable {c c' : Controller} {id : EntityId} {es es' : EndStation} {i : Nat}

theorem AgreeExcept.of_set (hvec : c'.endStationVec = c.endStationVec.set i es')
    (hi : c.endStationVec[i]? = some es) (hid : es.entityId = id) (hid' : es'.entityId = id) :
    AgreeExcept (some id) c c' := by
  intro j x hx
  rw [hvec]
  have hx : x.entityId ≠ id := by
    rintro rfl
    exact hx rfl
  exact getElem?_set_iff_of_ne (g := EndStation.entityId) hi hid hid' hx

theorem AgreeExcept.of_append (hvec : c'.endStationVec = c.endStationVec ++ [es'])
    (hid' : es'.entityId = id) : AgreeExcept (some id) c c' := by
  intro j x hx
  rw [hvec]
  have hx : x.entityId ≠ id := by
    rintro rfl
    exact hx rfl
  exact getElem?_append_singleton_iff_of_ne (g := EndStation.entityId) hid' hx

theorem entityId_eq_of_identity (h : es'.identity = es.identity) : es'.entityId = es.entityId :=
  congrArg Prod.fst h

theorem rxKnownAdp_entityId {now : Timestamp} {frame : AdpFrame} {adpdu : Adpdu}
    (h : c.rxKnownAdp now frame adpdu es i = .ok c') :
    ∃ es', c'.endStationVec = c.endStationVec.set i es' ∧ es'.entityId = es.entityId := by
  obtain ⟨⟨es₁, tx⟩, hre, h⟩ := bind_eq_ok.1 h
  cases h
  refine ⟨_, rfl, ?_⟩
  split at hre
  · rw [(EndStation.endStationReenumerate_ok hre).1]
    simp only
    split <;> rfl
  · cases hre
    simp only
    split <;> rfl

theorem rxAdp_agree {now : Timestamp} {frame : AdpFrame}
    (hadp : ∀ es ∈ c.endStationVec, es.adp.entityId = es.entityId)
    (h : c.rxAdp now frame = .ok c') :
    AgreeExcept (some (frame.adpdu.getD zeroAdpdu).entityId) c c' := by
  unfold rxAdp at h
  simp only at h
  split at h
  · cases h
    exact .refl _ c
  · split at h
    · cases h
      exact .refl _ c
    · split at h
      · obtain ⟨⟨es, tx⟩, hnew, h⟩ := bind_eq_ok.1 h
        cases h
        obtain ⟨⟨adpdu, ha, hident⟩, -⟩ := EndStation.new_ok hnew
        rw [ha, Option.getD_some]
        exact .of_append rfl (congrArg Prod.fst hident)
      · next es i hlast =>
        obtain ⟨hi, hes⟩ := lastEndStation_some hlast
        obtain ⟨es', hvec, hid'⟩ := rxKnownAdp_entityId h
        have hid := (hadp es (List.mem_of_getElem? hi)).symm.trans hes
        exact .of_set hvec hi hid (hid'.trans hid)

/-- Whatever the frame is: only the end station that it names can change. -/
theorem rxPacket_agree {now : Timestamp} {uninit : EntityId} {frame : RxFrame}
    (hadp : ∀ es ∈ c.endStationVec, es.adp.entityId = es.entityId)
    (h : c.Step (.rxPacket now uninit frame) c') : AgreeExcept (frame.named uninit) c c' := by
  obtain ⟨⟨c₁, out⟩, hrx, h⟩ := bind_eq_ok.1 h
  cases h
  cases rxPacketEvent_received hrx with
  | ignored => exact .refl _ c
  | adp _ h => exact rxAdp_agree hadp h
  | aecp haecp =>
    cases haecp with
    | ignored => exact .refl _ c
    | handled _ _ hf _ hr =>
      obtain ⟨hi, hes, -⟩ := findInEndStation_some hf
      have hid := (hadp _ (List.mem_of_getElem? hi)).symm.trans hes
      exact .of_set rfl hi hid ((entityId_eq_of_identity hr.identity_eq).trans hid)
  | acmp hacmp =>
    cases hacmp with
    | ignored => exact .refl _ c
    | handled => exact .refl _ c

end

theorem findInEndStation_foreign {c : Controller} {id cid : EntityId}
    (hours : cid ≠ getControllerEntityId c.globals.macAddr) (hown : cid ≠ id) :
    c.findInEndStation id cid = none := by
  cases hf : c.findInEndStation id cid with
  | none => rfl
  | some p =>
    obtain ⟨es, i⟩ := p
    obtain ⟨-, hes, hcid⟩ := findInEndStation_some hf
    rcases hcid with hcid | hcid
    · exact absurd hcid hours
    · exact absurd (hcid.trans hes) hown

theorem rxAecp_foreign {c : Controller} {now : Timestamp} {f : AecpFrame}
    (h : f.destMac ≠ c.globals.macAddr ∨
      c.findInEndStation f.targetEntityId f.controllerEntityId = none) (out : RxOut) :
    c.rxAecp now f out = .ok (c, { out with status := avdeccLibStatusInvalid }) := by
  rw [rxAecp]
  rcases h with hd | hf
  · rw [beq_eq_false_iff_ne.2 hd]
    rfl
  · rw [hf]
    cases f.destMac == c.globals.macAddr <;> rfl

theorem rxAcmp_foreign {c : Controller} {uninit : EntityId} {f : AcmpFrame}
    (h : c.findInEndStation (entityEntityId uninit f) f.controllerEntityId = none)
    (out : RxOut) :
    c.rxAcmp uninit f out = .ok (c, { out with status := avdeccLibStatusInvalid }) := by
  rw [rxAcmp, h]
  rfl

theorem rxPacketEvent_foreign {c : Controller} {uninit : EntityId} {frame : RxFrame}
    (h : c.Foreign uninit frame) (now : Timestamp) (out : RxOut) :
    ∃ out', c.rxPacketEvent now uninit frame out = .ok (c, out') := by
  unfold rxPacketEvent
  simp only
  split
  · cases frame with
    | adp f => exact h.elim
    | aecp f =>
      apply Exists.intro
      apply rxAecp_foreign
      exact h.imp_right fun hc => findInEndStation_foreign hc.1 hc.2
    | acmp f => exact ⟨_, rxAcmp_foreign (findInEndStation_foreign h.1 h.2) _⟩
    | other mac => exact h.elim
  · exact ⟨_, rfl⟩

theorem rxPacket_foreign {c c' : Controller} {now : Timestamp} {uninit : EntityId}
    {frame : RxFrame} (hf : c.Foreign uninit frame)
    (h : c.Step (.rxPacket now uninit frame) c') : c' = c := by
  obtain ⟨⟨c₁, out⟩, hrx, h⟩ := bind_eq_ok.1 h
  cases h
  obtain ⟨out', hok⟩ := rxPacketEvent_foreign hf now {}
  rw [hok] at hrx
  cases hrx
  rfl

theorem reachable_adp {mac : Mac} {tr : List (Controller × Event)} {c : Controller}
    (h : Run Step (.new mac) tr c) : ∀ es ∈ c.endStationVec, es.adp.entityId = es.entityId := by
  have hinv : ∃ s, Coupled c s := by
    apply h.invariant (I := fun c => ∃ s, Coupled c s)
    · exact ⟨_, coupled_new mac⟩
    · intro c e c' ⟨s, hc⟩ hst
      obtain ⟨ch, t, -, ht⟩ := handle_coupled hc hst
      exact ⟨t, ht⟩
  obtain ⟨s, hc⟩ := hinv
  intro es hes
  exact (hc.stations es hes).adp

/-- The receive path does not interfere with the stations that a frame does not name, and a
frame that is foreign to this controller changes nothing. -/
theorem end_stations_isolated {mac : Mac} {tr : List (Controller × Event)} {c c' : Controller}
    (h : Run Step (.new mac) tr c) {now : Timestamp} {uninit : EntityId} {frame : RxFrame}
    (hs : c.Step (.rxPacket now uninit frame) c') :
    (∀ (i : Nat) (es : EndStation), frame.named uninit ≠ some es.entityId →
      (c'.endStationVec[i]? = some es ↔ c.endStationVec[i]? = some es)) ∧
    (c.Foreign uninit frame → c' = c) :=
  ⟨rxPacket_agree (reachable_adp h) hs, fun hf => rxPacket_foreign hf hs⟩

/-- An AEM response of a station to a controller that is not this one. -/
def foreignResponse (entityId : EntityId) : AecpFrame :=
  { destMac := 1
    messageType := .aemResponse
    targetEntityId := entityId
    controllerEntityId := 9
    commandType := .entityAvailable }

theorem end_stations_isolated_foreign :
    ∃ tr c c', Run Step (.new 1) tr c ∧
      c.Step (.rxPacket 0 0 (.aecp (foreignResponse 3))) c' ∧
      c.endStationVec ≠ [] ∧ c' = c := by
  have htrial : trial handle (fun _ _ => true)
      (fun c => c.globals.macAddr == 1 && !c.endStationVec.isEmpty) (.new 1)
      [.rxPacket 0 0 (.adp (advertisement 3 0))] = true := by decide
  obtain ⟨tr, c, hrun, -, hc⟩ := exists_run_of_trial (fun _ _ _ h => h) htrial
  obtain ⟨hmac, hc⟩ := Bool.and_eq_true_iff.1 hc
  have hmac : c.globals.macAddr = 1 := eq_of_beq hmac
  have hf : c.Foreign 0 (.aecp (foreignResponse 3)) := by
    right
    rw [hmac]
    decide
  obtain ⟨out, hok⟩ := rxPacketEvent_foreign hf 0 {}
  have hs : c.Step (.rxPacket 0 0 (.aecp (foreignResponse 3))) c := by
    rw [Step, handle, hok]
    rfl
  refine ⟨tr, c, c, hrun, hs, ?_, (end_stations_isolated hrun hs).2 hf⟩
  intro hnil
  rw [hnil] at hc
  cases hc

theorem untouched_of_run {mac : Mac} {tr tr' : List (Controller × Event)} {c c' : Controller}
    {i : Nat} {es : EndStation} (h : Run Step (.new mac) tr c) (h' : Run Step c tr' c')
    (hn : ∀ p ∈ tr', ∃ now uninit frame, p.2 = .rxPacket now uninit frame ∧
      frame.named uninit ≠ some es.entityId) :
    c'.endStationVec[i]? = some es ↔ c.endStationVec[i]? = some es := by
  induction h' with
  | nil => rfl
  | snoc hr hst ih =>
    have hn := List.forall_mem_append.1 hn
    obtain ⟨now, uninit, frame, rfl, hne⟩ := hn.2 _ List.mem_cons_self
    rw [rxPacket_agree (reachable_adp (h.append hr)) hst i es hne]
    exact ih hn.1

end Controller
end AvdeccLib
