import AvdeccLib.Dispatch
import AvdeccLib.EnumerationComplete

namespace AvdeccLib
set_option autoImplicit true

open Runs Keyed Outcome

/-- The types whose objects `background_read_deduce_next` looks up. -/
def DescType.lookedUp : DescType → Bool
  | .audioUnit | .streamPortInput | .streamPortOutput | .locale => true
  | _ => false

theorem AemDesc.deducedFrom_ne_none {d : AemDesc} :
    d.deducedFrom ≠ none ↔ d.descriptorType.lookedUp = true := by
  rw [deducedFrom]
  cases hd : d.descriptorType <;> simp [DescType.lookedUp]

theorem DescType.stored_of_lookedUp {t : DescType} (h : t.lookedUp = true) :
    t.stored = true := by
  cases t <;> first | rfl | cases h

namespace ConfigurationDescriptor

/-- Where `store_*_desc` puts a descriptor whose index is not there yet. -/
def placeOf (cd : ConfigurationDescriptor) (d : AemDesc) : Nat :=
  match d.descriptorType with
  | .streamPortInput | .streamPortOutput => (cd.descVec d.descriptorType).length
  | _ => rank AemDesc.descriptorIndex d (cd.descVec d.descriptorType)

/-- The pointer that `background_read_deduce_next` dereferences for the response, where it looks
one up. -/
def dereferenced (cd : ConfigurationDescriptor) (d : AemDesc) : Option (Option AemDesc) :=
  d.deducedFrom.map fun i => (cd.descVec d.descriptorType)[i]?

/-- None of the stored descriptors of its type has the index of the descriptor. -/
def New (cd : ConfigurationDescriptor) (d : AemDesc) : Prop :=
  ∀ n ∈ cd.descVec d.descriptorType, n.descriptorIndex ≠ d.descriptorIndex

/-- The vectors that are kept sorted and that the deduction looks into. -/
def Sorted (cd : ConfigurationDescriptor) : Prop :=
  ∀ t, t = .audioUnit ∨ t = .locale → Ascending AemDesc.descriptorIndex (cd.descVec t)

variable {cd : ConfigurationDescriptor} {d n : AemDesc}

theorem storeDesc_descVec_of_ne (cd : ConfigurationDescriptor) {t : DescType}
    (h : t ≠ d.descriptorType) : (cd.storeDesc d).descVec t = cd.descVec t := if_neg h

theorem storeDesc_port (ht : d.descriptorType = .streamPortInput ∨
    d.descriptorType = .streamPortOutput) :
    cd.placeOf d = (cd.descVec d.descriptorType).length ∧
      (cd.storeDesc d).descVec d.descriptorType = cd.descVec d.descriptorType ++ [d] := by
  simp only [storeDesc, if_true, placeOf]
  rcases ht with ht | ht <;> rw [ht] <;> exact ⟨rfl, rfl⟩

theorem storeDesc_sorted (hi : d.descriptorType ≠ .streamPortInput)
    (ho : d.descriptorType ≠ .streamPortOutput) :
    cd.placeOf d = rank AemDesc.descriptorIndex d (cd.descVec d.descriptorType) ∧
      (cd.storeDesc d).descVec d.descriptorType =
        upsert AemDesc.descriptorIndex d (cd.descVec d.descriptorType) := by
  constructor
  · rw [placeOf]
    split
    · next hd => exact absurd hd hi
    · next hd => exact absurd hd ho
    · rfl
  · simp only [storeDesc, if_true]
    rfl

theorem dereferenced_eq {i : Nat} (hi : d.deducedFrom = some i) (cd : ConfigurationDescriptor) :
    cd.dereferenced d = some (cd.descVec d.descriptorType)[i]? := by
  rw [dereferenced, hi]
  rfl

theorem New.only (hn : cd.New d) :
    Only AemDesc.descriptorIndex d (cd.descVec d.descriptorType) := by
  intro x hx hk
  exact absurd hk (hn x hx)

theorem New.mem_storeDesc (hn : cd.New d) :
    n ∈ (cd.storeDesc d).descVec d.descriptorType ↔
      n = d ∨ n ∈ cd.descVec d.descriptorType := by
  by_cases ht : d.descriptorType = .streamPortInput ∨ d.descriptorType = .streamPortOutput
  · rw [(storeDesc_port ht).2, List.mem_append, List.mem_singleton, or_comm]
  · rw [not_or] at ht
    rw [(storeDesc_sorted ht.1 ht.2).2]
    exact mem_upsert hn.only

theorem lookedUp_cases {t : DescType} (h : t.lookedUp = true) :
    (t = .streamPortInput ∨ t = .streamPortOutput) ∨
      (t = .audioUnit ∨ t = .locale) ∧ t ≠ .streamPortInput ∧ t ≠ .streamPortOutput := by
  cases t with
  | audioUnit => exact .inr ⟨.inl rfl, by simp, by simp⟩
  | locale => exact .inr ⟨.inr rfl, by simp, by simp⟩
  | streamPortInput => exact .inl (.inl rfl)
  | streamPortOutput => exact .inl (.inr rfl)
  | _ => cases h

theorem New.lookup_iff (hn : cd.New d) (hs : cd.Sorted)
    (hd : d.descriptorType.lookedUp = true) {i : Nat} :
    ((cd.storeDesc d).descVec d.descriptorType)[i]? = some d ↔ i = cd.placeOf d := by
  rcases lookedUp_cases hd with ht | ⟨ht, hi, ho⟩
  · rw [(storeDesc_port ht).1, (storeDesc_port ht).2]
    constructor
    · intro h
      by_contra hne
      rcases Nat.lt_or_ge i (cd.descVec d.descriptorType).length with hlt | hge
      · rw [List.getElem?_append_left hlt] at h
        exact hn d (List.mem_of_getElem? h) rfl
      · rw [List.getElem?_append_right hge, List.getElem?_singleton, if_neg (by omega)] at h
        cases h
    · rintro rfl
      exact List.getElem?_concat_length
  · have hasc := ascending_upsert d (hs _ ht)
    have hmem := (mem_upsert hn.only).2 (.inl (rfl : d = d))
    have hplace := hasc.getElem?_rank hmem
    rw [rank_upsert_of_new hn] at hplace
    rw [(storeDesc_sorted hi ho).1, (storeDesc_sorted hi ho).2]
    constructor
    · intro h
      have hnodup := hasc.nodup
      obtain ⟨hlt, -⟩ := List.getElem?_eq_some_iff.1 h
      apply (List.getElem?_inj (by rwa [List.length_map]) hnodup).1
      rw [List.getElem?_map, List.getElem?_map, h, hplace]
    · rintro rfl
      exact hplace

end ConfigurationDescriptor

namespace EndStation

theorem deduceFromConfig_of_dereferenced {es : EndStation} {cd : ConfigurationDescriptor}
    {d : AemDesc} (h : cd.dereferenced d = some (some d)) :
    es.deduceFromConfig cd d = .ok (d.readRanges.flatMap es.queueRange) := by
  rw [ConfigurationDescriptor.dereferenced] at h
  obtain ⟨i, hi, hd⟩ := Option.map_eq_some_iff.1 h
  rw [deduceFromConfig]
  cases ht : d.descriptorType with
  | audioUnit | streamPortInput | streamPortOutput =>
    rw [AemDesc.deducedFrom, ht] at hi
    cases hi
    rw [ht] at hd
    simp only [descIndexFromFrame, ht, Option.getD_some,
      ConfigurationDescriptor.getDescByIndex, hd,
      AemDesc.readRanges, AemDesc.ports, AemDesc.portRanges, queueRange, List.flatMap_append,
      List.flatMap_cons, List.flatMap_nil, List.append_nil, List.append_assoc]
    rfl
  | locale =>
    rw [AemDesc.deducedFrom, ht] at hi
    cases hi
    rw [ht] at hd
    have hl : cd.getDescByIndex .locale 0 = some d := hd
    simp only [hl, AemDesc.readRanges, ht, queueRange, List.flatMap_cons, List.flatMap_nil,
      List.append_nil]
    rfl
  | _ =>
    rw [AemDesc.deducedFrom, ht] at hi
    cases hi

/-- The descriptors of the type in the current configuration. -/
def objects (es : EndStation) (t : DescType) : List AemDesc :=
  match es.currentConfig with
  | some cd => cd.descVec t
  | none => []

end EndStation

namespace EndStation

theorem objects_eq {es : EndStation} {cd : ConfigurationDescriptor}
    (h : es.currentConfig = some cd) (t : DescType) : es.objects t = cd.descVec t := by
  rw [objects, h]

theorem objects_of_sameConfig {es es' : EndStation}
    (h : es'.entityDescVec = es.entityDescVec ∧ es'.currentConfigDesc = es.currentConfigDesc)
    (t : DescType) : es'.objects t = es.objects t := by
  rw [objects, objects, currentConfig, currentConfig, h.1, h.2]

theorem objects_of_empty {es : EndStation} (h : es.entityDescVec = []) (t : DescType) :
    es.objects t = [] := by
  rw [objects, currentConfig, h]

theorem objects_of_none_stored {es : EndStation} {e : EntityDescriptor}
    {rest : List EntityDescriptor} {t : DescType} (h : es.entityDescVec = e :: rest)
    (hc : ∀ cd ∈ e.configDescVec, cd.descVec t = []) : es.objects t = [] := by
  rw [objects]
  cases hcd : es.currentConfig with
  | none => rfl
  | some cd =>
    rw [currentConfig, h] at hcd
    dsimp only at hcd
    split at hcd
    · exact hc cd (List.mem_of_getElem? hcd)
    · cases hcd

/-- A response changes the objects only by being stored into the current configuration. -/
theorem storeAndDeduce_objects {es es' : EndStation} {status : BitVec 5} {d : AemDesc}
    (h : es.storeAndDeduce status d = .ok es') :
    (∃ cd, es.storeDescriptor status d.descriptorType = true ∧
      es.currentConfig = some cd ∧ es'.currentConfig = some (cd.received d)) ∨
    (d.deducedFrom = none ∨ es.storeDescriptor status d.descriptorType = false) ∧
      ∀ t, es'.objects t = es.objects t := by
  rcases storeAndDeduce_cases h with ⟨hs, rfl⟩ | ⟨es₁, next, hs, h₁, -, rfl⟩
  · exact .inr ⟨.inr hs, fun t => rfl⟩
  · rw [storeDesc] at h₁
    split at h₁
    · next hd =>
      refine .inr ⟨.inl (by rw [AemDesc.deducedFrom, hd]), ?_⟩
      intro t
      rw [storeEntity] at h₁
      split at h₁
      · next he =>
        obtain ⟨e, hnew, h₁⟩ := bind_eq_ok.1 h₁
        cases h₁
        rw [objects_of_empty he]
        apply objects_of_none_stored rfl
        rw [EntityDescriptor.new] at hnew
        split at hnew
        · cases hnew
        · cases hnew
          intro cd hcd
          cases hcd
      · cases h₁
        rfl
    · next hd =>
      refine .inr ⟨.inl (by rw [AemDesc.deducedFrom, hd]), ?_⟩
      intro t
      rw [hd] at hs
      obtain ⟨e, he, hc⟩ := storeDescriptor_configuration hs
      obtain ⟨-, rfl⟩ := storeConfiguration_of_nil he hc h₁
      have hnone : ∀ cd ∈ e.configDescVec, cd.descVec t = [] := by
        rw [hc]
        intro cd hcd
        cases hcd
      rw [objects_of_none_stored he hnone]
      apply objects_of_none_stored rfl
      intro cd hcd
      rw [List.mem_singleton.1 hcd]
    · next hd =>
      cases h₁
      exact .inr ⟨.inl (by rw [AemDesc.deducedFrom, hd]), fun t => rfl⟩
    · obtain ⟨cd, hcd, -⟩ := bind_eq_ok.1 h₁
      have hcd := deref_ok hcd
      exact .inl ⟨cd, hs, hcd, (storeInConfig_ok hcd h₁).1⟩

end EndStation

namespace Enumeration
open EndStation

/-- The descriptor of the response for which `proc_read_desc_resp` calls
`background_read_deduce_next` with an AUDIO_UNIT, a stream port or a LOCALE. -/
def deducedBy (s : Enumeration) : StationEvent → Option AemDesc
  | .rcvdDescriptor _ status d =>
    if s.station.storeDescriptor status d.descriptorType && d.deducedFrom.isSome &&
      s.station.currentConfig.isSome then some d else none
  | .timeTick _ => none

/-- The object that is dereferenced is the one of the response, and its ranges are queued; for a
response that was not read none is dereferenced. -/
def DeducesRight (s : Enumeration) (e : StationEvent) : Prop :=
  ∀ d ∈ s.deducedBy e, ∀ es cd, s.station.storeDesc d = .ok es → es.currentConfig = some cd →
    if d.readOk then
      (∃ n, cd.dereferenced d = some (some n) ∧ n.descriptorIndex = d.descriptorIndex) ∧
        es.backgroundReadDeduceNext (some cd) d = .ok (d.readRanges.flatMap es.queueRange)
    else cd.dereferenced d = none

/-- The types and indexes whose ranges were queued, as often as they were. -/
def deduced (tr : List (Enumeration × StationEvent)) : List Node :=
  (tr.filterMap fun p => p.1.deducedBy p.2).map fun d => (d.descriptorType, d.descriptorIndex)

/-- The response is read, it is the first of its descriptor that is, and it is stored where it
is looked for: behind as many stream ports as its index says, behind the AUDIO_UNITs of all
lower indexes, or in front of all LOCALEs. -/
def ComesInPlace (s : Enumeration) (e : StationEvent) : Prop :=
  ∀ d ∈ s.deducedBy e, ∀ cd, s.station.currentConfig = some cd →
    d.readOk = true ∧ cd.New d ∧ d.deducedFrom = some (cd.placeOf d)

theorem deducedBy_eq_some {s : Enumeration} {e : StationEvent} {d : AemDesc}
    (h : s.deducedBy e = some d) :
    ∃ now status, e = .rcvdDescriptor now status d ∧
      s.station.storeDescriptor status d.descriptorType = true ∧
      d.descriptorType.lookedUp = true ∧ ∃ cd, s.station.currentConfig = some cd := by
  cases e with
  | timeTick now => cases h
  | rcvdDescriptor now status d' =>
    rw [deducedBy] at h
    split at h
    · next hc =>
      cases h
      simp only [Bool.and_eq_true, Option.isSome_iff_ne_none] at hc
      have hup := AemDesc.deducedFrom_ne_none.1 hc.1.2
      exact ⟨now, status, rfl, hc.1.1, hup, Option.ne_none_iff_exists'.1 hc.2⟩
    · cases h

/-- A step stores the descriptor that it deduces from, if it is read, and leaves the other
objects that are looked up as they are. -/
theorem step_objects {s s' : Enumeration} {e : StationEvent} {mac : Mac} (h : Step mac s e s') :
    (∃ d cd, s.deducedBy e = some d ∧ s.station.currentConfig = some cd ∧
      s'.station.currentConfig = some (cd.received d)) ∨
    (s.deducedBy e = none ∧ ∀ t, t.lookedUp = true →
      s'.station.objects t = s.station.objects t) := by
  cases e with
  | timeTick now =>
    obtain ⟨⟨es, tx⟩, hes, h⟩ := bind_eq_ok.1 h
    cases h
    refine .inr ⟨rfl, fun t _ => ?_⟩
    exact objects_of_sameConfig (timeTick_submit hes).sameConfig _
  | rcvdDescriptor now status d =>
    obtain ⟨⟨es, tx, posts⟩, hes, h⟩ := bind_eq_ok.1 h
    cases h
    obtain ⟨es₁, hstore, hsub, -⟩ := rcvdDescriptor_submit hes
    have hconf : es.currentConfig = es₁.currentConfig := by
      rw [currentConfig, currentConfig, hsub.sameConfig.1, hsub.sameConfig.2]
      rfl
    have hobj : ∀ t, es.objects t = es₁.objects t := objects_of_sameConfig hsub.sameConfig
    rcases storeAndDeduce_objects hstore with ⟨cd, hs, hcd, hcd'⟩ | ⟨hno, hsame⟩
    · cases hd : d.deducedFrom with
      | some i =>
        refine .inl ⟨d, cd, ?_, hcd, hconf.trans hcd'⟩
        rw [deducedBy, hs, hd, hcd]
        rfl
      | none =>
        refine .inr ⟨?_, fun t ht => ?_⟩
        · rw [deducedBy, hd, Option.isSome_none, Bool.and_false, Bool.false_and, if_neg]
          exact Bool.false_ne_true
        · have hne : t ≠ d.descriptorType := by
            rintro rfl
            exact AemDesc.deducedFrom_ne_none.2 ht hd
          rw [hobj, objects_eq hcd', objects_eq hcd, ConfigurationDescriptor.received]
          split
          · exact ConfigurationDescriptor.storeDesc_descVec_of_ne cd hne
          · rfl
    · refine .inr ⟨?_, fun t _ => (hobj t).trans (hsame t)⟩
      rw [deducedBy]
      rcases hno with hno | hno
      · rw [hno, Option.isSome_none, Bool.and_false, Bool.false_and, if_neg Bool.false_ne_true]
      · rw [hno, Bool.false_and, Bool.false_and, if_neg Bool.false_ne_true]

/-- What the objects that are looked up have to do with the responses that were deduced from. -/
structure Ledger (tr : List (Enumeration × StationEvent)) (es : EndStation) : Prop where
  sorted : ∀ t, t = .audioUnit ∨ t = .locale → Ascending AemDesc.descriptorIndex (es.objects t)
  came : ∀ t, t.lookedUp = true → ∀ n ∈ es.objects t, (t, n.descriptorIndex) ∈ deduced tr
  kept : ∀ x ∈ deduced tr, ∃ n ∈ es.objects x.1, n.descriptorIndex = x.2

theorem deduced_snoc (tr : List (Enumeration × StationEvent)) (s : Enumeration)
    (e : StationEvent) : deduced (tr ++ [(s, e)]) =
      deduced tr ++
        ((s.deducedBy e).map fun d => (d.descriptorType, d.descriptorIndex)).toList := by
  rw [deduced, List.filterMap_append, List.map_append, List.filterMap_cons]
  cases s.deducedBy e <;> rfl

theorem Ledger.start (es : EndStation) : Ledger [] (start es).station := by
  have hnil : ∀ t, (Enumeration.start es).station.objects t = [] := objects_of_empty rfl
  refine ⟨?_, ?_, ?_⟩
  · intro t _
    rw [hnil]
    exact List.Pairwise.nil
  · intro t _ n hn
    rw [hnil] at hn
    cases hn
  · intro x hx
    cases hx

theorem Ledger.cd_sorted {tr : List (Enumeration × StationEvent)} {es : EndStation}
    {cd : ConfigurationDescriptor} (h : Ledger tr es) (hcd : es.currentConfig = some cd) :
    cd.Sorted := by
  intro t ht
  rw [← objects_eq hcd]
  exact h.sorted t ht

theorem Ledger.unchanged {tr : List (Enumeration × StationEvent)} {s s' : Enumeration}
    {e : StationEvent} (h : Ledger tr s.station) (hno : s.deducedBy e = none)
    (hsame : ∀ t, t.lookedUp = true → s'.station.objects t = s.station.objects t) :
    Ledger (tr ++ [(s, e)]) s'.station := by
  have htr : deduced (tr ++ [(s, e)]) = deduced tr := by
    rw [deduced_snoc, hno]
    exact List.append_nil _
  refine ⟨?_, ?_, ?_⟩
  · intro t ht
    have hup : t.lookedUp = true := by rcases ht with rfl | rfl <;> rfl
    rw [hsame t hup]
    exact h.sorted t ht
  · intro t ht
    rw [hsame t ht, htr]
    exact h.came t ht
  · intro x hx
    rw [htr] at hx
    obtain ⟨n, hn, hi⟩ := h.kept x hx
    have hup : x.1.lookedUp = true := by
      obtain ⟨d, hd, rfl⟩ := List.mem_map.1 hx
      obtain ⟨p, -, hp⟩ := List.mem_filterMap.1 hd
      obtain ⟨-, -, -, -, hup, -⟩ := deducedBy_eq_some hp
      exact hup
    rw [hsame _ hup]
    exact ⟨n, hn, hi⟩

theorem Ledger.step {tr : List (Enumeration × StationEvent)} {s s' : Enumeration}
    {e : StationEvent} {mac : Mac} (h : Ledger tr s.station) (hp : ComesInPlace s e)
    (hs : Step mac s e s') : Ledger (tr ++ [(s, e)]) s'.station := by
  rcases step_objects hs with ⟨d, cd, hd, hcd, hcd'⟩ | ⟨hno, hsame⟩
  · obtain ⟨hread, hnew, -⟩ := hp d hd cd hcd
    obtain ⟨-, -, -, -, hup, -⟩ := deducedBy_eq_some hd
    have hreceived : cd.received d = cd.storeDesc d := if_pos hread
    rw [hreceived] at hcd'
    have hother : ∀ t, t ≠ d.descriptorType → s'.station.objects t = s.station.objects t := by
      intro t ht
      rw [objects_eq hcd', objects_eq hcd,
        ConfigurationDescriptor.storeDesc_descVec_of_ne cd ht]
    have hmem : ∀ n, n ∈ s'.station.objects d.descriptorType ↔
        n = d ∨ n ∈ s.station.objects d.descriptorType := by
      intro n
      rw [objects_eq hcd', objects_eq hcd]
      exact hnew.mem_storeDesc
    refine ⟨?_, ?_, ?_⟩
    · intro t ht
      by_cases htd : t = d.descriptorType
      · subst htd
        have hport : d.descriptorType ≠ .streamPortInput ∧
            d.descriptorType ≠ .streamPortOutput := by
          rcases ht with ht | ht <;> rw [ht] <;> simp
        rw [objects_eq hcd', (ConfigurationDescriptor.storeDesc_sorted hport.1 hport.2).2]
        exact ascending_upsert d (h.cd_sorted hcd _ ht)
      · rw [hother t htd]
        exact h.sorted t ht
    · intro t ht n hn
      rw [deduced_snoc, hd]
      by_cases htd : t = d.descriptorType
      · subst htd
        rcases (hmem n).1 hn with rfl | hn
        · exact List.mem_append_right _ (List.mem_singleton.2 rfl)
        · exact List.mem_append_left _ (h.came _ ht n hn)
      · rw [hother t htd] at hn
        exact List.mem_append_left _ (h.came t ht n hn)
    · intro x hx
      rw [deduced_snoc, hd] at hx
      rcases List.mem_append.1 hx with hx | hx
      · obtain ⟨n, hn, hi⟩ := h.kept x hx
        refine ⟨n, ?_, hi⟩
        by_cases hxd : x.1 = d.descriptorType
        · rw [hxd] at hn ⊢
          exact (hmem n).2 (.inr hn)
        · rw [hother _ hxd]
          exact hn
      · rw [List.mem_singleton.1 hx]
        exact ⟨d, (hmem d).2 (.inl rfl), rfl⟩
  · exact h.unchanged hno hsame

theorem Ledger.nodup_snoc_iff {tr : List (Enumeration × StationEvent)} {s : Enumeration}
    {e : StationEvent} {d : AemDesc} {cd : ConfigurationDescriptor} (h : Ledger tr s.station)
    (honce : (deduced tr).Nodup) (hd : s.deducedBy e = some d)
    (hcd : s.station.currentConfig = some cd) :
    (deduced (tr ++ [(s, e)])).Nodup ↔ cd.New d := by
  obtain ⟨-, -, -, -, hup, -⟩ := deducedBy_eq_some hd
  rw [deduced_snoc, hd, Option.map_some, Option.toList_some, List.nodup_append_comm,
    List.singleton_append, List.nodup_cons]
  constructor
  · rintro ⟨hnot, -⟩ n hn hk
    rw [← objects_eq hcd] at hn
    have hcame := h.came _ hup n hn
    rw [hk] at hcame
    exact hnot hcame
  · intro hnew
    refine ⟨fun hmem => ?_, honce⟩
    obtain ⟨n, hn, hk⟩ := h.kept _ hmem
    rw [objects_eq hcd] at hn
    exact hnew n hn hk

/-- In a state that the ledger is kept up to, the next response is deduced from rightly and for
the first time exactly if it comes in its place. -/
theorem Ledger.comesInPlace_iff {tr : List (Enumeration × StationEvent)} {s : Enumeration}
    (h : Ledger tr s.station) (honce : (deduced tr).Nodup) (e : StationEvent) :
    DeducesRight s e ∧ (deduced (tr ++ [(s, e)])).Nodup ↔ ComesInPlace s e := by
  cases hd : s.deducedBy e with
  | none =>
    have htr : deduced (tr ++ [(s, e)]) = deduced tr := by
      rw [deduced_snoc, hd]
      exact List.append_nil _
    have hno : ∀ d, d ∉ s.deducedBy e := by
      intro d hm
      rw [hd] at hm
      cases hm
    rw [htr]
    constructor
    · intro _ d hm
      exact absurd hm (hno d)
    · intro _
      exact ⟨fun d hm => absurd hm (hno d), honce⟩
  | some d =>
    obtain ⟨now, status, rfl, hstore, hup, cd, hcd⟩ := deducedBy_eq_some hd
    have hst := DescType.stored_of_lookedUp hup
    obtain ⟨es, hes⟩ := storeInConfig_of_deduced hcd (AemDesc.deducedFrom_ne_none.2 hup)
    have hcd' := (storeInConfig_ok hcd hes).1
    rw [← storeDesc_of_stored hst] at hes
    have hne : d.descriptorType ≠ .entity := by
      intro he
      rw [he] at hup
      cases hup
    obtain ⟨i, hi⟩ := Option.ne_none_iff_exists'.1 (AemDesc.deducedFrom_ne_none.2 hup)
    have hderef := ConfigurationDescriptor.dereferenced_eq hi
    have hnodup := h.nodup_snoc_iff honce hd hcd
    have hlookup : ∀ hnew : cd.New d, ((cd.storeDesc d).descVec d.descriptorType)[i]? = some d ↔
        i = cd.placeOf d := fun hnew => hnew.lookup_iff (h.cd_sorted hcd) hup
    constructor
    · rintro ⟨hright, hnd⟩ d' hd' cd' hcd''
      obtain rfl := Option.some.inj (hd.symm.trans hd')
      obtain rfl := Option.some.inj (hcd.symm.trans hcd'')
      have hnew := hnodup.1 hnd
      have hr := hright d hd es _ hes hcd'
      cases hread : d.readOk with
      | false =>
        rw [hread, if_neg Bool.false_ne_true, hderef] at hr
        cases hr
      | true =>
        rw [hread, if_pos rfl, hderef, ConfigurationDescriptor.received, hread,
          if_pos rfl] at hr
        obtain ⟨⟨n, hn, hk⟩, -⟩ := hr
        have hn := Option.some.inj hn
        refine ⟨rfl, hnew, ?_⟩
        rcases hnew.mem_storeDesc.1 (List.mem_of_getElem? hn) with rfl | hold
        · rw [hi, (hlookup hnew).1 hn]
        · exact absurd hk (hnew n hold)
    · intro hplace
      obtain ⟨hread, hnew, hpos⟩ := hplace d hd cd hcd
      refine ⟨?_, hnodup.2 hnew⟩
      intro d' hd' es' cd' hes' hcd''
      obtain rfl := Option.some.inj (hd.symm.trans hd')
      obtain rfl := Except.ok.inj (hes.symm.trans hes')
      obtain rfl := Option.some.inj (hcd'.symm.trans hcd'')
      have hfound : (cd.received d).dereferenced d = some (some d) := by
        rw [hderef, ConfigurationDescriptor.received, hread, if_pos rfl]
        rw [hi] at hpos
        rw [(hlookup hnew).2 (Option.some.inj hpos)]
      rw [hread, if_pos rfl]
      refine ⟨⟨d, hfound, rfl⟩, ?_⟩
      simp only [backgroundReadDeduceNext, hne, if_false]
      exact deduceFromConfig_of_dereferenced hfound

theorem Ledger.along_iff {tr : List (Enumeration × StationEvent)} {s : Enumeration}
    (hledger : Along ComesInPlace tr → Ledger tr s.station)
    (ih : Along DeducesRight tr ∧ (deduced tr).Nodup ↔ Along ComesInPlace tr)
    (e : StationEvent) :
    Along DeducesRight (tr ++ [(s, e)]) ∧ (deduced (tr ++ [(s, e)])).Nodup ↔
      Along ComesInPlace (tr ++ [(s, e)]) := by
  rw [along_snoc, along_snoc]
  constructor
  · rintro ⟨⟨hright, hr⟩, hnd⟩
    have honce : (deduced tr).Nodup := by
      rw [deduced_snoc] at hnd
      exact hnd.of_append_left
    have hplace := ih.1 ⟨hright, honce⟩
    exact ⟨hplace, ((hledger hplace).comesInPlace_iff honce e).1 ⟨hr, hnd⟩⟩
  · rintro ⟨hplace, hp⟩
    obtain ⟨hright, honce⟩ := ih.2 hplace
    obtain ⟨hr, hnd⟩ := ((hledger hplace).comesInPlace_iff honce e).2 hp
    exact ⟨⟨hright, hr⟩, hnd⟩

theorem run_comesInPlace {mac : Mac} {es : EndStation} {tr : List (Enumeration × StationEvent)}
    {s : Enumeration} (h : Run (Step mac) (start es) tr s) :
    (Along ComesInPlace tr → Ledger tr s.station) ∧
      (Along DeducesRight tr ∧ (deduced tr).Nodup ↔ Along ComesInPlace tr) := by
  induction h with
  | nil =>
    refine ⟨fun _ => Ledger.start es, fun _ => along_nil _, fun _ => ⟨along_nil _, ?_⟩⟩
    exact List.nodup_nil
  | snoc _ hst ih =>
    obtain ⟨hledger, ih⟩ := ih
    refine ⟨fun ha => ?_, Ledger.along_iff hledger ih _⟩
    obtain ⟨hplace, hp⟩ := along_snoc.1 ha
    exact (hledger hplace).step hp hst

/-- In an enumeration, with a response that comes in at its end, each response that is deduced
from is found again, and the ranges of each descriptor are queued once, exactly if all these
responses come in their places. -/
theorem deduction_robust_iff {mac : Mac} {es : EndStation}
    {tr : List (Enumeration × StationEvent)} {s : Enumeration}
    (h : Run (Step mac) (start es) tr s) (e : StationEvent) :
    Along DeducesRight (tr ++ [(s, e)]) ∧ (deduced (tr ++ [(s, e)])).Nodup ↔
      Along ComesInPlace (tr ++ [(s, e)]) := by
  obtain ⟨hledger, ih⟩ := run_comesInPlace h
  exact Ledger.along_iff hledger ih e

def audioUnitResponse (descriptorIndex : BitVec 16) : StationEvent :=
  .rcvdDescriptor 0 0 { descriptorType := .audioUnit, descriptorIndex
                        streamInputPorts := ⟨descriptorIndex, 1⟩ }

def twoAudioUnits : List StationEvent :=
  [entityResponse, .rcvdDescriptor 0 0
    { descriptorType := .configuration, descriptorIndex := 0
      descriptorCounts := [(.audioUnit, 2)] }]

/-- Whether `ComesInPlace` holds, computed. -/
def comesInPlace (s : Enumeration) (e : StationEvent) : Bool :=
  match s.deducedBy e, s.station.currentConfig with
  | some d, some cd =>
    d.readOk && (cd.descVec d.descriptorType).all
      (fun n => n.descriptorIndex != d.descriptorIndex) &&
      d.deducedFrom == some (cd.placeOf d)
  | _, _ => true

theorem comesInPlace_iff {s : Enumeration} {e : StationEvent} :
    comesInPlace s e = true ↔ ComesInPlace s e := by
  rw [comesInPlace, ComesInPlace]
  cases s.deducedBy e with
  | none => simp
  | some d =>
    cases s.station.currentConfig with
    | none => simp
    | some cd => simp [ConfigurationDescriptor.New, and_assoc]

theorem deduction_robust_iff_in_order : ∃ tr s,
    Run (Step 0) (start newStation) tr s ∧ (s.deducedBy (audioUnitResponse 1)).isSome ∧
      Along DeducesRight (tr ++ [(s, audioUnitResponse 1)]) ∧
      (deduced (tr ++ [(s, audioUnitResponse 1)])).Nodup := by
  have htrial : trial (handle 0) comesInPlace
      (fun s => comesInPlace s (audioUnitResponse 1) &&
        (s.deducedBy (audioUnitResponse 1)).isSome)
      (start newStation) (twoAudioUnits ++ [audioUnitResponse 0]) = true := by decide
  obtain ⟨tr, s, hrun, ha, hend⟩ := exists_run_of_trial (fun _ _ _ h => h) htrial
  rw [Bool.and_eq_true] at hend
  have hplace : Along ComesInPlace tr := fun p hp => comesInPlace_iff.1 (ha p hp)
  have hall := along_snoc.2 ⟨hplace, comesInPlace_iff.1 hend.1⟩
  exact ⟨tr, s, hrun, hend.2, (deduction_robust_iff hrun (audioUnitResponse 1)).2 hall⟩

/-- Whether a NULL pointer is dereferenced for the response. -/
def dereferencesNull (s : Enumeration) (e : StationEvent) : Bool :=
  match s.deducedBy e with
  | some d =>
    match s.station.storeDesc d with
    | .ok es => es.currentConfig.any fun cd => d.readOk && cd.dereferenced d == some none
    | .error _ => false
  | none => false

theorem not_deducesRight_of_null {s : Enumeration} {e : StationEvent}
    (h : dereferencesNull s e = true) : ¬ DeducesRight s e := by
  intro hr
  rw [dereferencesNull] at h
  split at h
  · next d hd =>
    split at h
    · next es hes =>
      obtain ⟨cd, hcd, h⟩ := (Option.any_eq_true _ _).1 h
      rw [Bool.and_eq_true, beq_iff_eq] at h
      have hright := hr d hd es cd hes hcd
      rw [h.1, if_pos rfl, h.2] at hright
      obtain ⟨⟨n, hn, -⟩, -⟩ := hright
      cases hn
    · cases h
  · cases h

/-- The response for AUDIO_UNIT 1 comes in before the one for AUDIO_UNIT 0: the pointer that is
dereferenced is NULL. -/
theorem deduction_not_robust :
    ¬ ∀ mac es tr s, Run (Step mac) (start es) tr s → ∀ e,
      Along DeducesRight (tr ++ [(s, e)]) ∧ (deduced (tr ++ [(s, e)])).Nodup := by
  intro h
  have htrial : trial (handle 0) (fun _ _ => true)
      (fun s => dereferencesNull s (audioUnitResponse 1)) (start newStation) twoAudioUnits =
      true := by decide
  obtain ⟨tr, s, hrun, -, hend⟩ := exists_run_of_trial (fun _ _ _ h => h) htrial
  obtain ⟨hright, -⟩ := h 0 newStation tr s hrun (audioUnitResponse 1)
  exact not_deducesRight_of_null hend (along_snoc.1 hright).2

end Enumeration
end AvdeccLib
