import AvdeccLib.Deduction
import AvdeccLib.Correlation
import AvdeccLib.Stations
import AvdeccLib.ObjectState

namespace AvdeccLib
set_option autoImplicit true

open Runs Keyed Outcome

namespace ConfigurationDescriptor

/-- Each vector holds objects of its type, and all but the ones of the stream ports are
sorted. -/
structure Tidy (cd : ConfigurationDescriptor) : Prop where
  desc : cd.desc.descriptorType = .configuration
  type : ∀ t, ∀ d ∈ cd.descVec t, d.descriptorType = t
  sorted : ∀ t, t ≠ .streamPortInput → t ≠ .streamPortOutput →
    Ascending AemDesc.descriptorIndex (cd.descVec t)

def Has (cd : ConfigurationDescriptor) (x : AemDesc) : Prop :=
  cd.desc = x ∨ ∃ t, x ∈ cd.descVec t

variable {cd : ConfigurationDescriptor} {d x : AemDesc} {t : DescType}

theorem mem_storeDesc (h : x ∈ (cd.storeDesc d).descVec d.descriptorType) :
    x = d ∨ x ∈ cd.descVec d.descriptorType := by
  by_cases ht : d.descriptorType = .streamPortInput ∨ d.descriptorType = .streamPortOutput
  · rw [(storeDesc_port ht).2, List.mem_append, List.mem_singleton] at h
    exact h.symm
  · rw [not_or] at ht
    rw [(storeDesc_sorted ht.1 ht.2).2] at h
    exact mem_of_mem_upsert h

theorem mem_storeDesc_of_ne (hx : x.descriptorIndex ≠ d.descriptorIndex) :
    x ∈ (cd.storeDesc d).descVec d.descriptorType ↔ x ∈ cd.descVec d.descriptorType := by
  by_cases ht : d.descriptorType = .streamPortInput ∨ d.descriptorType = .streamPortOutput
  · have hne : x ≠ d := fun h => hx (congrArg AemDesc.descriptorIndex h)
    rw [(storeDesc_port ht).2, List.mem_append, List.mem_singleton, or_iff_left hne]
  · rw [not_or] at ht
    rw [(storeDesc_sorted ht.1 ht.2).2]
    exact mem_upsert_of_ne hx

theorem Tidy.storeDesc (h : cd.Tidy) (d : AemDesc) : (cd.storeDesc d).Tidy := by
  refine ⟨h.desc, ?_, ?_⟩
  · intro t x hx
    by_cases ht : t = d.descriptorType
    · subst ht
      rcases mem_storeDesc hx with rfl | hx
      · rfl
      · exact h.type _ x hx
    · rw [storeDesc_descVec_of_ne cd ht] at hx
      exact h.type t x hx
  · intro t hi ho
    by_cases ht : t = d.descriptorType
    · subst ht
      rw [(storeDesc_sorted hi ho).2]
      exact ascending_upsert d (h.sorted _ hi ho)
    · rw [storeDesc_descVec_of_ne cd ht]
      exact h.sorted t hi ho

theorem Tidy.mem_storeDesc (h : cd.Tidy) (hx : x.key ≠ d.key) :
    x ∈ (cd.storeDesc d).descVec t ↔ x ∈ cd.descVec t := by
  by_cases ht : t = d.descriptorType
  · subst ht
    by_cases hi : x.descriptorIndex = d.descriptorIndex
    · have htype : x.descriptorType ≠ d.descriptorType := fun ht => hx (Prod.ext ht hi)
      constructor
      · intro hm
        exact absurd ((h.storeDesc d).type _ x hm) htype
      · intro hm
        exact absurd (h.type _ x hm) htype
    · exact mem_storeDesc_of_ne hi
  · rw [storeDesc_descVec_of_ne cd ht]

theorem Tidy.has_storeDesc (h : cd.Tidy) (hx : x.key ≠ d.key) :
    (cd.storeDesc d).Has x ↔ cd.Has x := by
  apply or_congr Iff.rfl
  apply exists_congr
  intro t
  exact h.mem_storeDesc hx

end ConfigurationDescriptor

/-- The ways in which a descriptor is stored. -/
inductive Storing (d : AemDesc) : List EntityDescriptor → List EntityDescriptor → Prop where
  | unchanged : Storing d v v
  | entity (ht : d.descriptorType = .entity) : Storing d [] [⟨d, []⟩]
  | configuration (ht : d.descriptorType = .configuration) {e : EntityDescriptor} :
      Storing d (e :: v)
        ({ e with configDescVec := e.configDescVec ++ [⟨d, fun _ => []⟩] } :: v)
  | object {e : EntityDescriptor} (hcd : e.configDescVec[i]? = some cd) :
      Storing d (e :: v)
        ({ e with configDescVec := e.configDescVec.set i (cd.storeDesc d) } :: v)

def EntityDescriptor.Tidy (e : EntityDescriptor) : Prop :=
  e.desc.descriptorType = .entity ∧ ∀ cd ∈ e.configDescVec, cd.Tidy

def EntityDescriptor.Has (e : EntityDescriptor) (x : AemDesc) : Prop :=
  e.desc = x ∨ ∃ cd ∈ e.configDescVec, cd.Has x

namespace Storing

variable {d x : AemDesc} {v v' : List EntityDescriptor}

theorem tidy (h : Storing d v v') (hv : ∀ e ∈ v, e.Tidy) : ∀ e ∈ v', e.Tidy := by
  have hcons : ∀ {e : EntityDescriptor} {v : List EntityDescriptor} {configs},
      (∀ e' ∈ e :: v, e'.Tidy) → (∀ cd ∈ configs, cd.Tidy) →
      ∀ e' ∈ { e with configDescVec := configs } :: v, e'.Tidy := by
    intro e v configs hv hconfigs e' he'
    rcases List.mem_cons.1 he' with rfl | he'
    · exact ⟨(hv e List.mem_cons_self).1, hconfigs⟩
    · exact hv e' (List.mem_cons_of_mem e he')
  cases h with
  | unchanged => exact hv
  | entity ht =>
    intro e he
    rw [List.mem_singleton.1 he]
    refine ⟨ht, ?_⟩
    intro cd hcd
    cases hcd
  | @configuration v ht e =>
    apply hcons hv
    intro cd hcd
    rcases List.mem_append.1 hcd with hcd | hcd
    · exact (hv e List.mem_cons_self).2 cd hcd
    · rw [List.mem_singleton.1 hcd]
      refine ⟨ht, ?_, fun _ _ _ => .nil⟩
      intro t x hx
      cases hx
  | @object i cd v e hcd =>
    apply hcons hv
    intro cd' hcd'
    rcases List.mem_or_eq_of_mem_set hcd' with hcd' | rfl
    · exact (hv e List.mem_cons_self).2 cd' hcd'
    · exact ((hv e List.mem_cons_self).2 cd (List.mem_of_getElem? hcd)).storeDesc d

theorem has_iff (h : Storing d v v') (hv : ∀ e ∈ v, e.Tidy) (hx : x.key ≠ d.key) :
    (∃ e ∈ v', e.Has x) ↔ ∃ e ∈ v, e.Has x := by
  have hne : d ≠ x := fun h => hx (congrArg AemDesc.key h.symm)
  cases h with
  | unchanged => rfl
  | entity =>
    simp only [List.mem_singleton, exists_eq_left, EntityDescriptor.Has, hne, List.not_mem_nil,
      false_and, exists_false, or_false]
  | @configuration v ht e =>
    simp only [List.exists_mem_cons_iff, EntityDescriptor.Has]
    have happend : (∃ cd ∈ e.configDescVec ++ [⟨d, fun _ => []⟩], cd.Has x) ↔
        ∃ cd ∈ e.configDescVec, cd.Has x := by
      have hnew : ¬ ConfigurationDescriptor.Has ⟨d, fun _ => []⟩ x := by
        rintro (h | ⟨t, h⟩)
        · exact hne h
        · cases h
      simp only [List.mem_append, List.mem_singleton, or_and_right, exists_or,
        exists_eq_left, hnew, or_false]
    rw [happend]
  | @object i cd v e hcd =>
    simp only [List.exists_mem_cons_iff, EntityDescriptor.Has]
    have hcdmem := List.mem_of_getElem? hcd
    have htidy := (hv e List.mem_cons_self).2 cd hcdmem
    have hset : (∃ cd' ∈ e.configDescVec.set i (cd.storeDesc d), cd'.Has x) ↔
        ∃ cd' ∈ e.configDescVec, cd'.Has x := by
      obtain ⟨hi, rfl⟩ := List.getElem?_eq_some_iff.1 hcd
      constructor
      · rintro ⟨cd', hcd', hhas⟩
        rcases List.mem_or_eq_of_mem_set hcd' with hcd' | rfl
        · exact ⟨cd', hcd', hhas⟩
        · exact ⟨_, hcdmem, (htidy.has_storeDesc hx).1 hhas⟩
      · rintro ⟨cd', hcd', hhas⟩
        obtain ⟨j, hj⟩ := List.getElem?_of_mem hcd'
        by_cases hij : i = j
        · subst hij
          rw [List.getElem?_eq_getElem hi, Option.some.injEq] at hj
          subst hj
          exact ⟨_, List.mem_set hi _, (htidy.has_storeDesc hx).2 hhas⟩
        · refine ⟨cd', List.mem_of_getElem? (i := j) ?_, hhas⟩
          rw [List.getElem?_set_ne hij]
          exact hj
    rw [hset]

end Storing

namespace EndStation

def Tidy (es : EndStation) : Prop := ∀ e ∈ es.entityDescVec, e.Tidy

def Stores (es : EndStation) (x : AemDesc) : Prop := ∃ e ∈ es.entityDescVec, e.Has x

theorem storeInConfig_storing {es es' : EndStation} {d : AemDesc}
    (h : es.storeInConfig d = .ok es') : Storing d es.entityDescVec es'.entityDescVec := by
  obtain ⟨cd, hcd, h⟩ := bind_eq_ok.1 h
  have hcd := deref_ok hcd
  obtain ⟨o, ho, h⟩ := bind_eq_ok.1 h
  cases o with
  | none =>
    cases h
    exact .unchanged
  | some d' =>
    have hd : d' = d := by
      rcases newDesc_cases d with hn | hn
      · rw [hn] at ho
        cases ho
      · rw [hn] at ho
        split at ho
        · cases ho
          rfl
        · cases ho
    rw [hd] at h
    obtain ⟨e, he, h⟩ := bind_eq_ok.1 h
    cases h
    obtain ⟨v, hv⟩ := currentEntity_ok he
    rw [currentConfig, hv] at hcd
    rw [hv]
    dsimp only at hcd
    split at hcd
    · exact .object hcd
    · cases hcd

theorem storeDesc_storing {es es' : EndStation} {d : AemDesc} (h : es.storeDesc d = .ok es') :
    Storing d es.entityDescVec es'.entityDescVec := by
  rw [storeDesc] at h
  split at h
  · next ht =>
    rw [storeEntity] at h
    split at h
    · next hv =>
      obtain ⟨e, he, h⟩ := bind_eq_ok.1 h
      cases h
      rw [EntityDescriptor.new] at he
      split at he
      · cases he
      · cases he
        rw [hv]
        exact .entity ht
    · cases h
      exact .unchanged
  · next ht =>
    obtain ⟨e, he, h⟩ := bind_eq_ok.1 h
    obtain ⟨e', he', h⟩ := bind_eq_ok.1 h
    cases h
    obtain ⟨cd, hcd, he'⟩ := bind_eq_ok.1 he'
    cases he'
    rw [ConfigurationDescriptor.new] at hcd
    split at hcd
    · cases hcd
    · cases hcd
      obtain ⟨v, hv⟩ := currentEntity_ok he
      rw [hv]
      exact .configuration ht
  · cases h
    exact .unchanged
  · exact storeInConfig_storing h

theorem rcvdDescriptor_storing {es es' : EndStation} {mac : Mac} {now : Timestamp}
    {status : BitVec 5} {d : AemDesc} {tx : List TxData} {posts : List Notification}
    (h : es.rcvdDescriptor mac now status d = .ok (es', tx, posts)) :
    Storing d es.entityDescVec es'.entityDescVec := by
  obtain ⟨es₁, h₁, hs, -⟩ := rcvdDescriptor_submit h
  have hv : es'.entityDescVec = es₁.entityDescVec := hs.sameConfig.1
  rw [hv]
  rcases storeAndDeduce_cases h₁ with ⟨-, rfl⟩ | ⟨es₂, next, -, h₂, -, rfl⟩
  · exact .unchanged
  · exact (storeDesc_storing h₂ : Storing d es.entityDescVec es₂.entityDescVec)

theorem tidy_of_empty {es : EndStation} (h : es.entityDescVec = []) : es.Tidy := by
  intro e he
  rw [h] at he
  cases he

theorem new_tidy {mac : Mac} {frame : AdpFrame} {es : EndStation} {tx : List TxData}
    (h : EndStation.new mac frame = .ok (es, tx)) : es.Tidy := by
  rw [EndStation.new] at h
  split at h
  · obtain ⟨d, -, h⟩ := bind_eq_ok.1 h
    cases h
    exact tidy_of_empty rfl
  · cases h

theorem Tidy.rcvdDescriptor {es es' : EndStation} {mac : Mac} {now : Timestamp}
    {status : BitVec 5} {d : AemDesc} {tx : List TxData} {posts : List Notification}
    (ht : es.Tidy) (h : es.rcvdDescriptor mac now status d = .ok (es', tx, posts)) : es'.Tidy :=
  (rcvdDescriptor_storing h).tidy ht

theorem Tidy.stores_iff {es es' : EndStation} {mac : Mac} {now : Timestamp}
    {status : BitVec 5} {d x : AemDesc} {tx : List TxData} {posts : List Notification}
    (ht : es.Tidy) (h : es.rcvdDescriptor mac now status d = .ok (es', tx, posts))
    (hx : x.key ≠ d.key) : es'.Stores x ↔ es.Stores x :=
  (rcvdDescriptor_storing h).has_iff ht hx

/-- No descriptor of the type is missing from the current configuration up to the index. -/
def InPlace (es : EndStation) (t : DescType) (i : BitVec 16) : Prop :=
  ∀ j ≤ i, ∃ d ∈ es.objects t, d.descriptorIndex = j

theorem findObject_some_iff {es : EndStation} {t : DescType} (ht : t ≠ .entity) (i : BitVec 16)
    (d : AemDesc) : es.findObject t i = .ok (some d) ↔ (es.objects t)[i.toNat]? = some d := by
  rw [findObject, currentEntity, objects, currentConfig]
  cases hv : es.entityDescVec with
  | nil =>
    constructor
    · intro h
      cases h
    · intro h
      cases h
  | cons e v =>
    simp only [pure_bind, if_neg ht]
    cases hc : e.getConfigDescByIndex es.currentConfigDesc with
    | none =>
      constructor
      · intro h
        cases h
      · intro h
        split at h
        · next hcd =>
          split at hcd <;> cases hcd
        · cases h
    | some cd =>
      have hlen : 1 ≤ e.configDescVec.length := by
        obtain ⟨hlt, -⟩ := List.getElem?_eq_some_iff.1 hc
        omega
      simp only [deref, pure_bind, if_pos hlen]
      constructor
      · exact Except.ok.inj
      · exact congrArg Except.ok

theorem findObject_entity_iff {es : EndStation} (i : BitVec 16) (d : AemDesc) :
    es.findObject .entity i = .ok (some d) ↔ ∃ e ∈ es.entityDescVec.head?, e.desc = d := by
  rw [findObject, currentEntity]
  cases hv : es.entityDescVec with
  | nil =>
    constructor
    · intro h
      cases h
    · rintro ⟨e, he, -⟩
      cases he
  | cons e v =>
    constructor
    · intro h
      cases h
      exact ⟨e, rfl, rfl⟩
    · rintro ⟨e', he', rfl⟩
      cases he'
      rfl

theorem Tidy.objects {es : EndStation} (h : es.Tidy) (t : DescType) :
    (∀ d ∈ es.objects t, d.descriptorType = t) ∧
      (t ≠ .streamPortInput → t ≠ .streamPortOutput →
        Ascending AemDesc.descriptorIndex (es.objects t)) := by
  rw [EndStation.objects]
  cases hcd : es.currentConfig with
  | none =>
    refine ⟨?_, fun _ _ => .nil⟩
    intro d hd
    cases hd
  | some cd =>
    have htidy : cd.Tidy := by
      rw [currentConfig] at hcd
      split at hcd
      · next e v hv =>
        split at hcd
        · apply (h e (by rw [hv]; exact List.mem_cons_self)).2
          exact List.mem_of_getElem? hcd
        · cases hcd
      · cases hcd
    exact ⟨htidy.type t, htidy.sorted t⟩

/-- A lookup by position finds the object with the index exactly if it is in place. -/
theorem Tidy.inPlace_iff {es : EndStation} (h : es.Tidy) {t : DescType} (ht : t ≠ .entity)
    (hi : t ≠ .streamPortInput) (ho : t ≠ .streamPortOutput) (i : BitVec 16) :
    (∃ d, es.findObject t i = .ok (some d) ∧ d.key = (t, i)) ↔ es.InPlace t i := by
  have hasc : Ascending (fun d : AemDesc => d.descriptorIndex.toNat) (es.objects t) :=
    ((h.objects t).2 hi ho).imp fun hlt => BitVec.lt_def.1 hlt
  have hgap := hasc.gapless_iff (n := i.toNat)
  have hleft : (∃ d, es.findObject t i = .ok (some d) ∧ d.key = (t, i)) ↔
      ∃ d, (es.objects t)[i.toNat]? = some d ∧ d.descriptorIndex.toNat = i.toNat := by
    apply exists_congr
    intro d
    rw [findObject_some_iff ht]
    apply and_congr_right
    intro hd
    have htype := (h.objects t).1 d (List.mem_of_getElem? hd)
    rw [AemDesc.key, htype, Prod.mk.injEq, BitVec.toNat_inj]
    exact and_iff_right rfl
  rw [hleft, hgap, InPlace]
  constructor
  · intro hall j hj
    obtain ⟨d, hd, hk⟩ := hall j.toNat (BitVec.le_def.1 hj)
    exact ⟨d, hd, BitVec.eq_of_toNat_eq hk⟩
  · intro hall m hm
    have hlt : m < 2 ^ 16 := by
      have := i.isLt
      omega
    have htoNat : (BitVec.ofNat 16 m).toNat = m := by
      rw [BitVec.toNat_ofNat, Nat.mod_eq_of_lt hlt]
    obtain ⟨d, hd, hk⟩ := hall (BitVec.ofNat 16 m) (by rwa [BitVec.le_def, htoNat])
    exact ⟨d, hd, by rw [hk, htoNat]⟩

end EndStation

def Controller.Tidy (c : Controller) : Prop := ∀ es ∈ c.endStationVec, es.Tidy

theorem Controller.Tidy.step {c c' : Controller} {e : Event} (ht : c.Tidy) (h : c.Step e c') :
    c'.Tidy := by
  intro es' hes'
  rcases Controller.step_station h hes' with ⟨es, hes, hst⟩ | ⟨mac, frame, es, tx, hnew, rfl⟩
  · have htidy := ht es hes
    cases hst with
    | unchanged => exact htidy
    | rcvdDescriptor hr => exact htidy.rcvdDescriptor hr
    | @timeTick connectionStatus _ _ _ _ htick =>
      have hv : es'.entityDescVec = es.entityDescVec :=
        (EndStation.timeTick_submit htick).sameConfig.1
      intro e he
      rw [hv] at he
      exact htidy e he
    | refreshed => exact htidy
    | reenumerated => exact EndStation.tidy_of_empty rfl
  · have htidy : es.Tidy := EndStation.new_tidy hnew
    exact htidy

namespace System

theorem step_controller {s s' : System} {a : Action} (h : Step s a s') :
    (∃ txPipe, s'.controller =
      { s.controller with globals := { s.controller.globals with txPipe } }) ∨
      ∃ e, s.controller.Step e s'.controller := by
  cases h with
  | fnTx h =>
    obtain ⟨c, hc, h⟩ := bind_eq_ok.1 h
    cases h
    exact .inr ⟨_, hc⟩
  | @fnNetif now uninit frame _ h =>
    obtain ⟨c, out, hrx, hc⟩ := fnNetif_globals h
    right
    refine ⟨.rxPacket now uninit frame, ?_⟩
    rw [Controller.Step, Controller.handle, hrx, hc]
    rfl
  | @fnTimer now _ h =>
    obtain ⟨c, hc, h⟩ := bind_eq_ok.1 h
    right
    refine ⟨.timeTick now, ?_⟩
    dsimp only at h
    split at h
    · cases h
      exact hc
    · cases h
      exact hc
  | _ => exact .inl ⟨_, rfl⟩

theorem tidy {mac : Mac} {notifyId : Ptr} {completionStatus respStatusForCmd : Int}
    {tr : List (System × Action)} {s : System}
    (h : Run Step (.new mac notifyId completionStatus respStatusForCmd) tr s) :
    s.controller.Tidy := by
  apply h.invariant (I := fun s => s.controller.Tidy)
  · intro es hes
    cases hes
  · intro s a s' ht hst
    rcases step_controller hst with ⟨txPipe, hc⟩ | ⟨e, he⟩
    · rw [hc]
      exact ht
    · exact ht.step he

theorem aecpInflight_nodup {mac : Mac} {notifyId : Ptr}
    {completionStatus respStatusForCmd : Int} {tr : List (System × Action)} {s : System}
    (h : Run Step (.new mac notifyId completionStatus respStatusForCmd) tr s) :
    s.aecpInflight.Nodup := by
  have hinv := engines_invariant (I := Engine.Ledger aecpSpec) (J := Engine.Ledger acmpSpec)
    (G := fun _ => True) (H := fun _ => True) h (fun _ _ => ⟨trivial, trivial⟩)
    (.new _) (.new _)
    (fun _ _ _ hl _ hst => hl.step hst) fun _ _ _ hl _ hst => hl.step hst
  have hall := List.nodup_range (n := s.controller.globals.aecp.engine.issued)
  rw [← hinv.1.numbered, (hinv.1.removedOnce.map Ticket.birth).nodup_iff,
    List.map_append] at hall
  have hbirths := (List.nodup_append.1 hall).2.1
  exact (hbirths.of_map _).of_map _

end System
end AvdeccLib
