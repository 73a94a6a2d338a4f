import AvdeccLib.Stations
import AvdeccLib.AdpTracking

namespace AvdeccLib
set_option autoImplicit true

open Runs Outcome

namespace EndStation

def TopLevel (t : DescType) : Prop := t = .entity ∨ t = .configuration

instance : DecidablePred TopLevel :=
  fun t => inferInstanceAs (Decidable (t = .entity ∨ t = .configuration))

/-- `background_read_submit_pending` does not read from an empty `entity_desc_vec`. -/
def SubmitsSafely (es : EndStation) : Prop :=
  ∀ mac now, es.backgroundReadSubmitPending mac now ≠ .error .outOfRange

/-- What re-enumeration must not break: a background read of a type below CONFIGURATION is
queued or inflight only with an ENTITY stored, no later submission reads from an empty vector,
and no read was issued for another enumeration than the one that queued it. -/
structure ReadsSafe (es : EndStation) : Prop where
  described : ∀ b ∈ es.backgroundReadPending ++ es.backgroundReadInflight,
    ¬ TopLevel b.type → es.entityDescVec ≠ []
  tick : ∀ now, (es.backgroundReadUpdateTimeouts now).SubmitsSafely
  response : ∀ status d es', es.storeAndDeduce status d = .ok es' →
    (es'.backgroundReadUpdateInflight d).SubmitsSafely
  issued : ∀ p ∈ es.issued, p.1.generation = p.2

structure ReadsCurrent (es : EndStation) : Prop where
  pending : ∀ b ∈ es.backgroundReadPending, es.Readable b.type ∧ b.generation = es.generation
  inflight : ∀ b ∈ es.backgroundReadInflight, es.Readable b.type
  issued : ∀ p ∈ es.issued, p.1.generation = p.2

theorem submitsSafely_of_readable {es : EndStation}
    (h : ∀ b ∈ es.backgroundReadPending, es.Readable b.type) : es.SubmitsSafely := by
  intro mac now he
  unfold backgroundReadSubmitPending at he
  split at he
  · next bFirst rest _ hp =>
    have hok : ∃ tx, (bFirst :: rest.takeWhile fun bNext => bNext.type == bFirst.type).mapM
        (fun b => es.readDescInit mac b.type b.index) = .ok tx := by
      apply exists_mapM_ok
      intro b hb
      have hmem : b ∈ es.backgroundReadPending := by
        rw [hp]
        exact List.Sublist.mem hb (List.takeWhile_sublist _ |>.cons_cons bFirst)
      obtain ⟨d, hd, -⟩ := readDescInit_of_readable (h b hmem) mac b.index
      exact ⟨d, hd⟩
    obtain ⟨tx, htx⟩ := hok
    simp only [htx] at he
    cases he
  · cases he

theorem mem_queue {es : EndStation} {t : DescType} {base count : BitVec 16}
    {b : BackgroundReadRequest} (h : b ∈ es.queueBackgroundReadRequest t base count) :
    b.type = t ∧ b.generation = es.generation := by
  obtain ⟨i, -, rfl⟩ := List.mem_map.1 h
  exact ⟨rfl, rfl⟩

theorem deduceFromConfig_generation {es : EndStation} {cd : ConfigurationDescriptor}
    {d : AemDesc} {next : List BackgroundReadRequest}
    (h : es.deduceFromConfig cd d = .ok next) :
    ∀ b ∈ next, b.generation = es.generation := by
  intro b hb
  unfold deduceFromConfig at h
  cases ht : d.descriptorType with
  | configuration =>
    simp only [ht] at h
    cases h
    obtain ⟨c, -, hc⟩ := List.mem_flatMap.1 hb
    exact (mem_queue hc).2
  | locale =>
    simp only [ht] at h
    obtain ⟨l, -, h⟩ := bind_eq_ok.1 h
    cases h
    exact (mem_queue hb).2
  | audioUnit =>
    simp only [ht] at h
    obtain ⟨l, -, h⟩ := bind_eq_ok.1 h
    cases h
    simp only [List.mem_append] at hb
    rcases hb with (((hb | hb) | hb) | hb) | hb <;> exact (mem_queue hb).2
  | streamPortInput =>
    simp only [ht] at h
    obtain ⟨l, -, h⟩ := bind_eq_ok.1 h
    cases h
    simp only [List.mem_append] at hb
    rcases hb with (hb | hb) | hb <;> exact (mem_queue hb).2
  | streamPortOutput =>
    simp only [ht] at h
    obtain ⟨l, -, h⟩ := bind_eq_ok.1 h
    cases h
    simp only [List.mem_append] at hb
    rcases hb with (hb | hb) | hb <;> exact (mem_queue hb).2
  | _ =>
    simp only [ht] at h
    cases h
    cases hb

theorem readable_of_currentConfig {es : EndStation} {cd : ConfigurationDescriptor}
    (h : es.currentConfig = some cd) (t : DescType) : es.Readable t := by
  right
  right
  intro hv
  unfold currentConfig at h
  rw [hv] at h
  cases h

theorem deduceNext_current {es : EndStation} {d : AemDesc} {next : List BackgroundReadRequest}
    (h : es.backgroundReadDeduceNext es.currentConfig d = .ok next) :
    ∀ b ∈ next, es.Readable b.type ∧ b.generation = es.generation := by
  intro b hb
  unfold backgroundReadDeduceNext at h
  split at h
  · cases h
    obtain ⟨ht, hg⟩ := mem_queue hb
    exact ⟨.inr (.inl ht), hg⟩
  · split at h
    · cases h
      cases hb
    · next cd hcd =>
      exact ⟨readable_of_currentConfig hcd _, deduceFromConfig_generation h b hb⟩

theorem storeDesc_entityDescVec {es es' : EndStation} {d : AemDesc}
    (h : es.storeDesc d = .ok es') (hne : es.entityDescVec ≠ []) : es'.entityDescVec ≠ [] := by
  unfold storeDesc at h
  split at h
  · unfold storeEntity at h
    split at h
    · next hv => exact absurd hv hne
    · cases h
      exact hne
  · obtain ⟨e, -, h⟩ := bind_eq_ok.1 h
    obtain ⟨e', -, h⟩ := bind_eq_ok.1 h
    cases h
    exact List.cons_ne_nil _ _
  · cases h
    exact hne
  · obtain ⟨cd, -, h⟩ := bind_eq_ok.1 h
    obtain ⟨o, -, h⟩ := bind_eq_ok.1 h
    cases o with
    | none =>
      cases h
      exact hne
    | some d' =>
      obtain ⟨e, -, h⟩ := bind_eq_ok.1 h
      cases h
      exact List.cons_ne_nil _ _

theorem Readable.mono {es es' : EndStation} {t : DescType} (h : es.Readable t)
    (hv : es.entityDescVec ≠ [] → es'.entityDescVec ≠ []) : es'.Readable t := by
  rcases h with h | h | h
  · exact .inl h
  · exact .inr (.inl h)
  · exact .inr (.inr (hv h))

theorem storeAndDeduce_current {es es' : EndStation} {status : BitVec 5} {d : AemDesc}
    (hr : es.ReadsCurrent) (h : es.storeAndDeduce status d = .ok es') : es'.ReadsCurrent := by
  rcases storeAndDeduce_cases h with ⟨-, rfl⟩ | ⟨es₁, next, -, h₁, hn, rfl⟩
  · exact hr
  · have hw := storeDesc_sameWork h₁
    have hmono := storeDesc_entityDescVec h₁
    refine ⟨?_, ?_, ?_⟩
    · intro b hb
      rcases List.mem_append.1 hb with hb | hb
      · rw [hw.pending] at hb
        obtain ⟨hread, hgen⟩ := hr.pending b hb
        exact ⟨hread.mono hmono, hgen.trans hw.generation.symm⟩
      · exact deduceNext_current hn b hb
    · intro b hb
      have hb : b ∈ es.backgroundReadInflight := by
        rw [← hw.inflight]
        exact hb
      exact (hr.inflight b hb).mono hmono
    · intro p hp
      have hp : p ∈ es.issued := by
        rw [← hw.issued]
        exact hp
      exact hr.issued p hp

theorem updateInflight_current {es : EndStation} (hr : es.ReadsCurrent) (d : AemDesc) :
    (es.backgroundReadUpdateInflight d).ReadsCurrent :=
  ⟨hr.pending, fun b hb => hr.inflight b (List.mem_of_mem_filter hb), hr.issued⟩

theorem updateTimeouts_current {es : EndStation} (hr : es.ReadsCurrent) (now : Timestamp) :
    (es.backgroundReadUpdateTimeouts now).ReadsCurrent :=
  ⟨hr.pending, fun b hb => hr.inflight b (List.mem_of_mem_filter hb), hr.issued⟩

theorem Submit.current {es es' : EndStation} {now : Timestamp} {tx : List TxData}
    (h : Submit now es es' tx) (hr : es.ReadsCurrent) : es'.ReadsCurrent := by
  cases h with
  | idle => exact hr
  | sent hi hp =>
    rename_i b rest _ _
    have hpending : ∀ b' ∈ b :: rest, es.Readable b'.type ∧ b'.generation = es.generation := by
      rw [← hp]
      exact hr.pending
    have hbatch : ∀ b' ∈ batch b rest, b' ∈ b :: rest := by
      intro b' hb'
      rw [← batch_append]
      exact List.mem_append_left _ hb'
    refine ⟨?_, ?_, ?_⟩
    · intro b' hb'
      exact hpending b' (List.mem_cons_of_mem b ((List.dropWhile_sublist _).mem hb'))
    · intro b' hb'
      obtain ⟨r, hrmem, rfl⟩ := List.mem_map.1 hb'
      exact (hpending r (hbatch r hrmem)).1
    · intro p hpm
      rcases List.mem_append.1 hpm with hpm | hpm
      · exact hr.issued p hpm
      · obtain ⟨r, hrmem, rfl⟩ := List.mem_map.1 hpm
        exact (hpending r (hbatch r hrmem)).2

theorem ReadsCurrent.safe {es : EndStation} (hr : es.ReadsCurrent) : es.ReadsSafe := by
  refine ⟨?_, ?_, ?_, hr.issued⟩
  · intro b hb ht
    have hread : es.Readable b.type := by
      rcases List.mem_append.1 hb with hb | hb
      · exact (hr.pending b hb).1
      · exact hr.inflight b hb
    rcases hread with h | h | h
    · exact absurd (.inl h) ht
    · exact absurd (.inr h) ht
    · exact h
  · intro now
    exact submitsSafely_of_readable fun b hb => (hr.pending b hb).1
  · intro status d es' h
    have hr' := storeAndDeduce_current hr h
    exact submitsSafely_of_readable fun b hb => (hr'.pending b hb).1

end EndStation
namespace Controller
open EndStation

/-- An event that enumerates an end station again finds nothing pending and only reads of
ENTITY and CONFIGURATION inflight. -/
def ReenumeratesAtRest (c : Controller) (e : Event) : Prop :=
  ∀ es ∈ c.reenumerated e,
    es.backgroundReadPending = [] ∧ ∀ b ∈ es.backgroundReadInflight, TopLevel b.type

instance (c : Controller) (e : Event) : Decidable (ReenumeratesAtRest c e) :=
  inferInstanceAs (Decidable (∀ es ∈ c.reenumerated e, _))

theorem stationStep_current {c : Controller} {e : Event} {es es' : EndStation}
    (hr : es.ReadsCurrent) (hg : ReenumeratesAtRest c e) (h : StationStep c e es es') :
    es'.ReadsCurrent := by
  cases h with
  | unchanged => exact hr
  | rcvdDescriptor h =>
    obtain ⟨es₁, h₁, hs, -⟩ := rcvdDescriptor_submit h
    exact hs.current (updateInflight_current (storeAndDeduce_current hr h₁) _)
  | timeTick h =>
    refine (timeTick_submit h).current (updateTimeouts_current ?_ _)
    exact ⟨hr.pending, hr.inflight, hr.issued⟩
  | refreshed => exact ⟨hr.pending, hr.inflight, hr.issued⟩
  | reenumerated h =>
    obtain ⟨hp, hi⟩ := hg es h
    refine ⟨?_, ?_, hr.issued⟩
    · intro b hb
      simp only [hp] at hb
      cases hb
    · intro b hb
      rcases hi b hb with ht | ht
      · exact .inl ht
      · exact .inr (.inl ht)

theorem new_current {mac : Mac} {frame : AdpFrame} {es : EndStation} {tx : List TxData}
    (h : EndStation.new mac frame = .ok (es, tx)) : es.ReadsCurrent := by
  obtain ⟨-, hp, hi, hiss, -⟩ := new_ok h
  refine ⟨?_, ?_, ?_⟩
  · rw [hp]
    intro b hb
    cases hb
  · rw [hi]
    intro b hb
    cases hb
  · rw [hiss]
    intro b hb
    cases hb

theorem step_current {c c' : Controller} {e : Event}
    (hr : ∀ es ∈ c.endStationVec, es.ReadsCurrent) (hg : ReenumeratesAtRest c e)
    (h : c.Step e c') : ∀ es ∈ c'.endStationVec, es.ReadsCurrent := by
  intro es' hes'
  rcases step_station h hes' with ⟨es, hes, hst⟩ | ⟨mac, frame, es, tx, hnew, rfl⟩
  · exact stationStep_current (hr es hes) hg hst
  · obtain ⟨hp, hi, hiss⟩ := new_current hnew
    exact ⟨hp, hi, hiss⟩

/-- Re-enumeration is safe in every run in which it happens at rest. -/
theorem reenumeration_safe {mac : Mac} {tr : List (Controller × Event)} {c : Controller}
    (h : Run Step (.new mac) tr c) (hg : Along ReenumeratesAtRest tr) :
    ∀ es ∈ c.endStationVec, es.ReadsSafe := by
  have hcurrent : ∀ es ∈ c.endStationVec, es.ReadsCurrent := by
    apply h.invariant_along (I := fun c => ∀ es ∈ c.endStationVec, es.ReadsCurrent) hg
    · intro es hes
      cases hes
    · intro c e c' hr hg hst
      exact step_current hr hg hst
  intro es hes
  exact (hcurrent es hes).safe

def readDescriptorResponse (d : AemDesc) : Event :=
  .rxPacket 0 0 (.aecp
    { destMac := 1
      messageType := .aemResponse
      targetEntityId := 3
      controllerEntityId := getControllerEntityId 1
      commandType := .readDescriptor
      descriptor := d })

/-- A station is found and its descriptors down to the CONFIGURATION are read. -/
def enumerateConfiguration (descriptorCounts : List (DescType × BitVec 16)) : List Event :=
  [.rxPacket 0 0 (.adp (advertisement 3 5)),
    readDescriptorResponse { descriptorType := .entity, descriptorIndex := 0 },
    readDescriptorResponse
      { descriptorType := .configuration, descriptorIndex := 0, descriptorCounts }]

theorem reenumeration_safe_completed :
    ∃ tr c, Run Step (.new 1) tr c ∧ (∀ es ∈ c.endStationVec, es.ReadsSafe) ∧
      (c.endStationVec.any fun es => es.generation == 1) = true := by
  have htrial : trial handle (fun c e => decide (ReenumeratesAtRest c e))
      (fun c => c.endStationVec.any fun es => es.generation == 1) (.new 1)
      (enumerateConfiguration [(.jackInput, 1)] ++
        [readDescriptorResponse { descriptorType := .jackInput, descriptorIndex := 0 },
          .rxPacket 0 0 (.adp (advertisement 3 4))]) = true := by decide
  obtain ⟨tr, c, hrun, hg, hc⟩ := exists_run_of_trial (fun _ _ _ h => h) htrial
  have hrest : Along ReenumeratesAtRest tr := fun p hp => of_decide_eq_true (hg p hp)
  exact ⟨tr, c, hrun, reenumeration_safe hrun hrest, hc⟩

/-- An advertisement in the middle of an enumeration leaves a read inflight whose descriptor
tree is deleted. -/
theorem reenumeration_not_safe :
    ¬ ∀ mac tr c, Run Step (.new mac) tr c → ∀ es ∈ c.endStationVec, es.ReadsSafe := by
  intro h
  have htrial : trial handle (fun _ _ => true)
      (fun c => c.endStationVec.any fun es => es.entityDescVec.isEmpty &&
        es.backgroundReadInflight.any fun b => decide (¬ TopLevel b.type)) (.new 1)
      (enumerateConfiguration [(.jackInput, 1)] ++
        [.rxPacket 0 0 (.adp (advertisement 3 4))]) = true := by decide
  obtain ⟨tr, c, hrun, -, hc⟩ := exists_run_of_trial (fun _ _ _ h => h) htrial
  obtain ⟨es, hes, hc⟩ := List.any_eq_true.1 hc
  rw [Bool.and_eq_true, List.isEmpty_iff] at hc
  obtain ⟨b, hb, ht⟩ := List.any_eq_true.1 hc.2
  exact (h 1 tr c hrun es hes).described b (List.mem_append_right _ hb)
    (of_decide_eq_true ht) hc.1

end Controller
end AvdeccLib
