import AvdeccLib.Library.Growth
import AvdeccLib.StoredObjects

namespace AvdeccLib
set_option autoImplicit true

open Outcome Growth

def ConfigurationDescriptor.Grown (cd cd' : ConfigurationDescriptor) : Prop :=
  ∀ t, (cd.descVec t).length ≤ (cd'.descVec t).length

structure EntityDescriptor.Grown (e e' : EntityDescriptor) : Prop where
  desc : e'.desc = e.desc
  configs : Grows ConfigurationDescriptor.Grown e.configDescVec e'.configDescVec

/-- An end station in which nothing that was at an index is gone. -/
def EndStation.Grown (es es' : EndStation) : Prop :=
  Grows EntityDescriptor.Grown es.entityDescVec es'.entityDescVec

/-- At most one ENTITY with at most one CONFIGURATION. -/
structure EndStation.Single (es : EndStation) : Prop where
  entity : es.entityDescVec.length ≤ 1
  configuration : ∀ e ∈ es.entityDescVec, e.configDescVec.length ≤ 1

theorem ConfigurationDescriptor.Grown.refl (cd : ConfigurationDescriptor) : cd.Grown cd :=
  fun _ => le_rfl

theorem EntityDescriptor.Grown.refl (e : EntityDescriptor) : e.Grown e :=
  ⟨rfl, grows_refl ConfigurationDescriptor.Grown.refl⟩

theorem EntityDescriptor.Grown.trans {e₁ e₂ e₃ : EntityDescriptor} (h : e₁.Grown e₂)
    (h' : e₂.Grown e₃) : e₁.Grown e₃ := by
  refine ⟨h'.desc.trans h.desc, h.configs.trans ?_ h'.configs⟩
  intro cd₁ cd₂ cd₃ h h' t
  exact (h t).trans (h' t)

theorem EndStation.Grown.refl (es : EndStation) : es.Grown es :=
  grows_refl EntityDescriptor.Grown.refl

theorem EndStation.Grown.trans {es₁ es₂ es₃ : EndStation} (h : es₁.Grown es₂)
    (h' : es₂.Grown es₃) : es₁.Grown es₃ :=
  Grows.trans (fun _ _ _ h h' => h.trans h') h h'

theorem ConfigurationDescriptor.grown_storeDesc (cd : ConfigurationDescriptor) (d : AemDesc) :
    cd.Grown (cd.storeDesc d) := by
  intro t
  by_cases ht : t = d.descriptorType
  · subst ht
    simp only [storeDesc, if_true]
    have hlen := addOrReplace_length d (cd.descVec d.descriptorType)
    split
    · rw [List.length_append]
      exact Nat.le_add_right _ _
    · rw [List.length_append]
      exact Nat.le_add_right _ _
    · rw [hlen]
      split
      · exact le_rfl
      · exact Nat.le_succ _
  · rw [storeDesc_descVec_of_ne cd ht]

theorem Storing.grows {d : AemDesc} {v v' : List EntityDescriptor} (h : Storing d v v') :
    Grows EntityDescriptor.Grown v v' := by
  have hv : ∀ v : List EntityDescriptor, Grows EntityDescriptor.Grown v v :=
    fun v => grows_refl EntityDescriptor.Grown.refl
  cases h with
  | unchanged => exact hv _
  | entity ht => exact grows_nil
  | configuration ht =>
    exact (hv _).cons ⟨rfl, grows_append ConfigurationDescriptor.Grown.refl⟩
  | object hcd =>
    exact (hv _).cons ⟨rfl, grows_set ConfigurationDescriptor.Grown.refl hcd
      (ConfigurationDescriptor.grown_storeDesc _ d)⟩

namespace EndStation
variable {es es' : EndStation}

theorem Single.of_eq (h : es.Single) (hv : es'.entityDescVec = es.entityDescVec) :
    es'.Single := by
  refine ⟨?_, ?_⟩
  · rw [hv]
    exact h.entity
  · rw [hv]
    exact h.configuration

theorem Single.storeDesc {d : AemDesc} {status : BitVec 5} (h : es.Single)
    (hd : es.storeDescriptor status d.descriptorType = true) (hs : es.storeDesc d = .ok es') :
    es'.Single := by
  have hst := storeDesc_storing hs
  have hempty : d.descriptorType = .configuration →
      ∀ e ∈ es.entityDescVec, e.configDescVec.length = 0 := by
    intro ht
    rw [ht] at hd
    obtain ⟨e, hv, he⟩ := storeDescriptor_configuration hd
    rw [hv]
    exact List.forall_mem_singleton.2 (congrArg List.length he)
  obtain ⟨hentity, hconfigs⟩ := h
  revert hentity hconfigs hempty
  cases es
  cases es'
  cases hst with
  | unchanged =>
    intro _ hentity hconfigs
    exact ⟨hentity, hconfigs⟩
  | entity ht =>
    intro _ _ _
    refine ⟨le_rfl, ?_⟩
    intro e he
    cases List.mem_singleton.1 he
    exact Nat.zero_le 1
  | configuration ht =>
    intro hempty hentity hconfigs
    refine ⟨hentity, ?_⟩
    intro e he
    rcases List.mem_cons.1 he with rfl | he
    · rw [List.length_append, hempty ht _ (List.mem_cons_self ..)]
      exact le_rfl
    · exact hconfigs e (List.mem_cons_of_mem _ he)
  | object hcd =>
    intro _ hentity hconfigs
    refine ⟨hentity, ?_⟩
    intro e he
    rcases List.mem_cons.1 he with rfl | he
    · rw [List.length_set]
      exact hconfigs _ (List.mem_cons_self ..)
    · exact hconfigs e (List.mem_cons_of_mem _ he)

theorem Single.rcvdDescriptor {mac : Mac} {now : Timestamp} {status : BitVec 5} {d : AemDesc}
    {tx : List TxData} {posts : List Notification} (hsingle : es.Single)
    (h : es.rcvdDescriptor mac now status d = .ok (es', tx, posts)) : es'.Single := by
  obtain ⟨es₁, h₁, hs, -⟩ := rcvdDescriptor_submit h
  have hv : es'.entityDescVec = es₁.entityDescVec := hs.sameConfig.1
  rcases storeAndDeduce_cases h₁ with ⟨-, rfl⟩ | ⟨es₂, next, hd, h₂, -, rfl⟩
  · exact hsingle.of_eq hv
  · exact (hsingle.storeDesc hd h₂).of_eq hv

end EndStation

namespace Controller
variable {c c' : Controller} {e : Event} {es es' : EndStation}

theorem StationStep.grown (h : StationStep c e es es') (hre : c.reenumerated e = none) :
    es.Grown es' := by
  cases h with
  | unchanged => exact .refl es
  | rcvdDescriptor hr => exact (EndStation.rcvdDescriptor_storing hr).grows
  | timeTick ht =>
    have hv : es'.entityDescVec = es.entityDescVec :=
      (EndStation.timeTick_submit ht).sameConfig.1
    rw [EndStation.Grown, hv]
    exact grows_refl EntityDescriptor.Grown.refl
  | refreshed => exact .refl es
  | reenumerated h =>
    rw [hre] at h
    cases h

theorem StationStep.single (h : StationStep c e es es') (hs : es.Single) : es'.Single := by
  cases h with
  | unchanged => exact hs
  | rcvdDescriptor hr => exact hs.rcvdDescriptor hr
  | timeTick ht => exact hs.of_eq (EndStation.timeTick_submit ht).sameConfig.1
  | refreshed => exact hs.of_eq rfl
  | reenumerated h => exact ⟨Nat.zero_le 1, fun e he => absurd he List.not_mem_nil⟩

theorem rxAdp_stations {now : Timestamp} {uninit : EntityId} {frame : AdpFrame}
    (hd : c.accepts frame.destMac = true) (h : c.rxAdp now frame = .ok c') :
    Grows (StationStep c (.rxPacket now uninit (.adp frame))) c.endStationVec
      c'.endStationVec := by
  have hsame : ∀ es, StationStep c (.rxPacket now uninit (.adp frame)) es es :=
    fun _ => .unchanged
  unfold rxAdp at h
  dsimp only at h
  split at h
  · cases h
    exact grows_refl hsame
  · next hflags =>
    split at h
    · cases h
      exact grows_refl hsame
    · next hid =>
      split at h
      · obtain ⟨⟨es, tx⟩, hnew, h⟩ := bind_eq_ok.1 h
        cases h
        exact grows_append hsame
      · next es i hlast =>
        have hre : reenumerates es (frame.adpdu.getD zeroAdpdu) = true →
            c.reenumerated (.rxPacket now uninit (.adp frame)) = some es := by
          intro hr
          simp only [reenumerated]
          rw [hd, if_neg (by decide), if_neg hflags, if_neg hid, hlast]
          simp only [Option.map_some, Option.filter_some, hr, if_true]
        obtain ⟨es₁, hvec, hst⟩ := rxKnownAdp_step hre h
        rw [hvec]
        exact grows_set hsame (lastEndStation_some hlast).1 hst

theorem adpTick_stations (now : Timestamp) :
    Grows (fun es es' => ∃ connectionStatus, es' = { es with connectionStatus }) c.endStationVec
      (c.adpTick now).endStationVec := by
  have hsame : ∀ es : EndStation, ∃ connectionStatus, es = { es with connectionStatus } :=
    fun es => ⟨es.connectionStatus, rfl⟩
  unfold adpTick
  dsimp only
  split
  · exact grows_modify hsame fun es => ⟨_, rfl⟩
  · exact grows_refl hsame

/-- Behind an event every end station that was known is at its place. -/
theorem step_stations (h : c.Step e c') :
    Grows (StationStep c e) c.endStationVec c'.endStationVec := by
  have hsame : Grows (StationStep c e) c.endStationVec c.endStationVec :=
    grows_refl fun _ => .unchanged
  cases e with
  | rxPacket now uninit frame =>
    obtain ⟨⟨c₁, out⟩, hrx, h⟩ := bind_eq_ok.1 h
    cases h
    cases rxPacketEvent_received hrx with
    | ignored => exact hsame
    | adp hd hadp => exact rxAdp_stations hd hadp
    | aecp haecp =>
      cases haecp with
      | ignored => exact hsame
      | handled _ _ hf _ hr =>
        apply grows_set (fun _ => .unchanged) (findInEndStation_some hf).1
        cases hr with
        | unchanged => exact .unchanged
        | descriptor hr => exact .rcvdDescriptor hr
    | acmp hacmp =>
      cases hacmp with
      | ignored => exact hsame
      | handled => exact hsame
  | timeTick now =>
    obtain ⟨rounds, hr, rfl⟩ := timeTickEvent_ok h
    refine ((adpTick_stations now).comp ((grows_mapM hr).comp (grows_map Prod.fst))).mono ?_
    rintro es es' ⟨_, ⟨connectionStatus, rfl⟩, ⟨es', tx⟩, ht, rfl⟩
    exact .timeTick ht
  | txPacket now =>
    rw [(txPacket_adp h).2]
    exact hsame

def Single (c : Controller) : Prop := ∀ es ∈ c.endStationVec, es.Single

theorem Single.step (hs : c.Single) (h : c.Step e c') : c'.Single := by
  intro es' hes'
  rcases step_station h hes' with ⟨es, hes, hst⟩ | ⟨mac, frame, es, tx, hnew, rfl⟩
  · exact hst.single (hs es hes)
  · have hempty : es.entityDescVec = [] := by
      rw [EndStation.new] at hnew
      split at hnew
      · obtain ⟨d, -, hnew⟩ := bind_eq_ok.1 hnew
        cases hnew
        rfl
      · cases hnew
    refine ⟨?_, ?_⟩
    · rw [hempty]
      exact Nat.zero_le 1
    · rw [hempty]
      exact fun e he => absurd he List.not_mem_nil

end Controller

namespace System
variable {s s' : System} {a : Action}

/-- The action enumerates no end station again. -/
def Steady (s : System) : Action → Prop
  | .fnNetif now uninit frame => s.controller.reenumerated (.rxPacket now uninit frame) = none
  | _ => True

theorem step_event (h : Step s a s') : (∃ txPipe, s'.controller =
      { s.controller with globals := { s.controller.globals with txPipe } }) ∨
    ∃ e, s.controller.Step e s'.controller ∧
      (s.Steady a → s.controller.reenumerated e = none) := by
  cases h with
  | fnTx h =>
    obtain ⟨c, hc, h⟩ := bind_eq_ok.1 h
    cases h
    exact .inr ⟨_, hc, fun _ => rfl⟩
  | @fnNetif now uninit frame _ h =>
    obtain ⟨c, out, hrx, hc⟩ := fnNetif_globals h
    refine .inr ⟨.rxPacket now uninit frame, ?_, fun hsteady => hsteady⟩
    rw [Controller.Step, Controller.handle, hrx, hc]
    rfl
  | @fnTimer now _ h =>
    obtain ⟨c, hc, h⟩ := bind_eq_ok.1 h
    refine .inr ⟨.timeTick now, ?_, fun _ => rfl⟩
    dsimp only at h
    split at h
    · cases h
      exact hc
    · cases h
      exact hc
  | _ => exact .inl ⟨_, rfl⟩

theorem step_grows (h : Step s a s') (hsteady : s.Steady a) :
    Grows EndStation.Grown s.controller.endStationVec s'.controller.endStationVec := by
  rcases step_event h with ⟨txPipe, hc⟩ | ⟨e, he, hre⟩
  · rw [hc]
    exact grows_refl EndStation.Grown.refl
  · exact (Controller.step_stations he).mono fun es es' hst => hst.grown (hre hsteady)

end System
end AvdeccLib
