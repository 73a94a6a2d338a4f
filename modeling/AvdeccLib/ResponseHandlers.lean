import AvdeccLib.StoredObjects

namespace AvdeccLib
set_option autoImplicit true

open Runs Outcome Engine

/-- The object that a response names: READ_DESCRIPTOR names it in the descriptor that it
carries. -/
def AecpFrame.named (f : AecpFrame) : ObjectKey :=
  if f.commandType = .readDescriptor then f.descriptor.key
  else (f.descriptorType, f.descriptorIndex)

namespace EndStation

/-- The constructor that the descriptor is passed to makes no assertion that fails. -/
def Constructible (es : EndStation) (d : AemDesc) : Prop :=
  match d.descriptorType with
  | .entity => es.entityDescVec = [] → d.readOk = true
  | .configuration =>
    d.readOk = true ∧ d.descriptorCounts.length ≤ 108 ∧ d.layoutOk = true
  | .audioMap | .clockDomain => d.readOk = true → d.layoutOk = true
  | _ => True

def ServesEntity (es : EndStation) (f : AecpFrame) : Prop :=
  f.respReadOk = true ∧ f.descriptorType = .entity ∧
    ∃ e ∈ es.entityDescVec.head?, e.desc.descriptorIndex = f.descriptorIndex

/-- The object is of one of the types, and it is at the position that its index is taken for. -/
def ServesInPlace (es : EndStation) (types : List DescType) (f : AecpFrame) : Prop :=
  f.respReadOk = true ∧ f.descriptorType ∈ types ∧ es.InPlace f.descriptorType f.descriptorIndex

/-- A response that changes no object needs any one at the position. -/
def ServesPresent (es : EndStation) (types : List DescType) (f : AecpFrame) : Prop :=
  f.respReadOk = true ∧ f.descriptorType ∈ types ∧
    f.descriptorIndex.toNat < (es.objects f.descriptorType).length

/-- The responses that complete a command and are stored in the object that they name. -/
def Serves (es : EndStation) (f : AecpFrame) : Prop :=
  match f.commandType with
  | .readDescriptor =>
    f.respReadOk = true ∧ es.ReadSafe f.status f.descriptor ∧
      (es.storeDescriptor f.status f.descriptor.descriptorType = true →
        es.Constructible f.descriptor)
  | .acquireEntity | .lockEntity | .reboot => es.ServesEntity f
  | .setStreamFormat | .getStreamFormat | .getStreamInfo =>
    es.ServesInPlace [.streamInput, .streamOutput] f
  | .setStreamInfo => es.ServesInPlace [.streamOutput] f
  | .setSamplingRate | .getSamplingRate => es.ServesInPlace [.audioUnit] f
  | .setClockSource | .getClockSource => es.ServesInPlace [.clockDomain] f
  | .startStreaming | .stopStreaming => es.ServesPresent [.streamInput, .streamOutput] f
  | .startOperation | .operationStatus => es.ServesPresent [.memoryObject] f
  | .entityAvailable | .controllerAvailable => f.respReadOk = true
  | .setControl => True
  | .setName | .getName | .other _ => False

end EndStation

def Globals.inflight (g : Globals) : List (Inflight AecpFrame) := g.aecp.engine.inflightCmds

/-- The command that a response answers is taken out of the table. -/
def Globals.completed (g : Globals) (f : AecpFrame) : List (Inflight AecpFrame) :=
  g.inflight.eraseP (seqIdComp f.sequenceId)

/-- A handler that completes the command of the frames that it reads, and does nothing with
others unless it aborts. -/
structure Answering (reads : AecpFrame → Prop) (handler : RespHandler AecpFrame) : Prop where
  completes : ∀ f g out, f.messageType = .aemResponse → reads f →
    ∃ g' out', handler f g out = .ok (g', out') ∧ g'.inflight = g.completed f
  ignores : ∀ f g out g' out', ¬ reads f → handler f g out = .ok (g', out') → g' = g

theorem updateInflight_completed {f : AecpFrame} (hf : f.messageType = .aemResponse) (u : Bool)
    (g : Globals) (out : RxOut) :
    (updateInflight f.messageType u f g out).1.inflight = g.completed f := by
  rw [updateInflight_eq (isResponse_of_aem hf)]
  have hseq : aecpSpec.getSequenceId f = f.sequenceId := rfl
  simp only [Globals.inflight, Globals.completed, AecpControllerStateMachine.stateRcvdResp]
  cases hfind : g.aecp.engine.inflightCmds.find? (seqIdComp f.sequenceId) with
  | none =>
    rw [procResp_of_none (by rw [hseq]; exact hfind), FirstMatch.eraseP_of_find?_none hfind]
  | some j =>
    rw [procResp_of_some (by rw [hseq]; exact hfind)]
    rfl

theorem answering_procAemResp (asserts : Bool) :
    Answering (fun f => f.respReadOk = true) (procAemResp asserts) := by
  constructor
  · intro f g out hf hr
    simp only [procAemResp, hr, Bool.not_true, Bool.false_eq_true, if_false]
    exact ⟨_, _, rfl, updateInflight_completed hf _ g _⟩
  · intro f g out g' out' hr h
    rw [procAemResp, Bool.eq_false_of_not_eq_true hr] at h
    cases asserts with
    | true => cases h
    | false =>
      cases h
      rfl

theorem Answering.implementedBy {reads : AecpFrame → Prop} {handler : RespHandler AecpFrame}
    (h : Answering reads handler) (t : DescType) :
    Answering (fun f => f.descriptorType = t ∧ reads f) (implementedBy t handler) := by
  constructor
  · intro f g out hf hr
    rw [AvdeccLib.implementedBy, if_pos hr.1]
    exact h.completes f g out hf hr.2
  · intro f g out g' out' hr hok
    rw [AvdeccLib.implementedBy] at hok
    split at hok
    · next ht => exact h.ignores f g out g' out' (fun h => hr ⟨ht, h⟩) hok
    · cases hok
      rfl

theorem answering_procStartOperationResp :
    Answering (fun f => f.respReadOk = true) procStartOperationResp := by
  constructor
  · intro f g out hf hr
    simp only [procStartOperationResp, hr, Bool.not_true, Bool.false_eq_true, if_false]
    split
    · exact ⟨_, _, rfl, updateInflight_completed hf _ g _⟩
    · exact ⟨_, _, rfl, updateInflight_completed hf _ g _⟩
  · intro f g out g' out' hr h
    rw [procStartOperationResp, Bool.eq_false_of_not_eq_true hr] at h
    cases h
    rfl

theorem answering_procOperationStatusResp :
    Answering (fun f => f.respReadOk = true) procOperationStatusResp := by
  have hengine :
    ∀ (m : AecpControllerStateMachine) (id : Ptr) (o p : BitVec 16) (f : AecpFrame),
      (m.updateOperationForRcvdResp id o p f).1.engine = m.engine := by
    intro m id o p f
    unfold AecpControllerStateMachine.updateOperationForRcvdResp
    split <;> rfl
  constructor
  · intro f g out hf hr
    simp only [procOperationStatusResp, hr, Bool.not_true, Bool.false_eq_true, if_false]
    refine ⟨_, _, rfl, ?_⟩
    rw [Globals.inflight, hengine]
    exact updateInflight_completed hf _ g _
  · intro f g out g' out' hr h
    rw [procOperationStatusResp, Bool.eq_false_of_not_eq_true hr] at h
    cases h
    rfl

/-- What is demanded of a response to a command: the command is completed, and of the objects
none but the named one changes. -/
def Fulfils (handler : StatesHandler) (f : AecpFrame) (key : ObjectKey) : Prop :=
  ∀ g out states, ∃ g' out' states', handler f g out states = .ok (g', out', states') ∧
    g'.inflight = g.completed f ∧ ∀ k, k ≠ key → states' k = states k

/-- A response that fails this for some states of the objects, whatever command it is for. -/
def Misses (handler : StatesHandler) (f : AecpFrame) (key : ObjectKey) : Prop :=
  ∀ g out, ∃ states, ∀ g' out' states', handler f g out states = .ok (g', out', states') →
    g'.inflight = g.inflight ∨ ∃ k, k ≠ key ∧ states' k ≠ states k

/-- The condition decides between the two. -/
structure Settles (handler : StatesHandler) (f : AecpFrame) (key : ObjectKey) (P : Prop) :
    Prop where
  fulfils : P → Fulfils handler f key
  misses : ¬ P → Misses handler f key

theorem Settles.congr {handler : StatesHandler} {f : AecpFrame} {key : ObjectKey} {P Q : Prop}
    (h : Settles handler f key P) (hpq : P ↔ Q) : Settles handler f key Q :=
  ⟨fun hq => h.fulfils (hpq.2 hq), fun hq => h.misses fun hp => hq (hpq.1 hp)⟩

namespace EndStation

variable {es : EndStation} {t : DescType} {f : AecpFrame} {key : ObjectKey}
  {handler : RespHandler AecpFrame} {reads : AecpFrame → Prop}

theorem settles_onStation (hf : f.messageType = .aemResponse) (h : Answering reads handler) :
    Settles (onStation handler) f key (reads f) := by
  constructor
  · intro hr g out states
    obtain ⟨g', out', hok, hg⟩ := h.completes f g out hf hr
    refine ⟨g', out', states, ?_, hg, fun _ _ => rfl⟩
    rw [onStation, hok]
    rfl
  · intro hr g out
    refine ⟨fun _ => .new f.descriptor, ?_⟩
    intro g' out' states' hok
    obtain ⟨⟨g₁, out₁⟩, h₁, hok⟩ := bind_eq_ok.1 hok
    cases hok
    left
    rw [h.ignores f g out _ _ hr h₁]

theorem onObjectStates_of_some {index : BitVec 16} {d : AemDesc} {update : ObjectUpdate}
    {g g' : Globals} {out out' : RxOut} (hd : es.findObject t index = .ok (some d))
    (hr : f.respReadOk = true) (hok : handler f g out = .ok (g', out'))
    (states : ObjectStates) :
    es.onObjectStates t index (withObject handler update) f g out states =
      .ok (g', out', Function.update states d.key (update f (states d.key))) := by
  rw [onObjectStates, hd]
  have hw : withObject handler update f g out (states d.key) =
      .ok (g', out', update f (states d.key)) := by
    rw [withObject, hok, hr]
    rfl
  simp only [bind, Except.bind, hw]
  rfl

theorem onObjectStates_misses {index : BitVec 16} {update : ObjectUpdate}
    (h : Answering reads handler)
    (hno : ¬ (reads f ∧ ∃ d, es.findObject t index = .ok (some d))) :
    Misses (es.onObjectStates t index (withObject handler update)) f key := by
  intro g out
  refine ⟨fun _ => .new f.descriptor, ?_⟩
  intro g' out' states' hok
  left
  obtain ⟨o, ho, hok⟩ := bind_eq_ok.1 hok
  cases o with
  | none =>
    cases hok
    rfl
  | some d =>
    have hr : ¬ reads f := fun hr => hno ⟨hr, d, ho⟩
    obtain ⟨⟨g₁, out₁, s⟩, hw, hok⟩ := bind_eq_ok.1 hok
    cases hok
    obtain ⟨⟨g₂, out₂⟩, h₁, hw⟩ := bind_eq_ok.1 hw
    cases hw
    rw [h.ignores f g out _ _ hr h₁]

theorem settles_changing {index : BitVec 16} {update : ObjectUpdate}
    (hf : f.messageType = .aemResponse) (h : Answering reads handler)
    (hread : reads f → f.respReadOk = true) (hupd : reads f → ∃ s, update f s ≠ s) :
    Settles (es.onObjectStates t index (withObject handler update)) f key
      (reads f ∧ ∃ d, es.findObject t index = .ok (some d) ∧ d.key = key) := by
  constructor
  · rintro ⟨hr, d, hd, rfl⟩ g out states
    obtain ⟨g', out', hok, hg⟩ := h.completes f g out hf hr
    refine ⟨g', out', _, onObjectStates_of_some hd (hread hr) hok states, hg, ?_⟩
    intro k hk
    exact Function.update_of_ne hk _ _
  · intro hno
    by_cases hfound : reads f ∧ ∃ d, es.findObject t index = .ok (some d)
    · obtain ⟨hr, d, hd⟩ := hfound
      have hne : d.key ≠ key := fun hk => hno ⟨hr, d, hd, hk⟩
      obtain ⟨s, hs⟩ := hupd hr
      intro g out
      obtain ⟨g₁, out₁, hok₁, -⟩ := h.completes f g out hf hr
      refine ⟨fun _ => s, ?_⟩
      intro g' out' states' hok
      rw [onObjectStates_of_some hd (hread hr) hok₁] at hok
      cases hok
      refine .inr ⟨d.key, hne, ?_⟩
      rw [Function.update_self]
      exact hs
    · exact onObjectStates_misses h hfound

theorem settles_unchanging {index : BitVec 16} (hf : f.messageType = .aemResponse)
    (h : Answering reads handler) (hread : reads f → f.respReadOk = true) :
    Settles (es.onObjectStates t index (withObject handler noUpdate)) f key
      (reads f ∧ ∃ d, es.findObject t index = .ok (some d)) := by
  constructor
  · rintro ⟨hr, d, hd⟩ g out states
    obtain ⟨g', out', hok, hg⟩ := h.completes f g out hf hr
    refine ⟨g', out', _, onObjectStates_of_some hd (hread hr) hok states, hg, ?_⟩
    intro k _
    rw [noUpdate, Function.update_eq_self]
  · exact onObjectStates_misses h

theorem settles_onTypesStates {types : List DescType} {handler : ObjectHandler} {P : Prop}
    (h : f.descriptorType ∈ types →
      Settles (es.onObjectStates f.descriptorType f.descriptorIndex handler) f key P) :
    Settles (es.onTypesStates types handler) f key (f.descriptorType ∈ types ∧ P) := by
  constructor
  · rintro ⟨ht, hp⟩ g out states
    rw [onTypesStates, if_pos ht]
    exact (h ht).fulfils hp g out states
  · intro hno g out
    by_cases ht : f.descriptorType ∈ types
    · obtain ⟨states, hs⟩ := (h ht).misses (fun hp => hno ⟨ht, hp⟩) g out
      refine ⟨states, ?_⟩
      rw [onTypesStates, if_pos ht]
      exact hs
    · refine ⟨fun _ => .new f.descriptor, ?_⟩
      intro g' out' states' hok
      rw [onTypesStates, if_neg ht] at hok
      cases hok
      exact .inl rfl

theorem storeAndUpdate_changes {update : ObjectUpdate} (h : ∀ s, (update f s).resp = s.resp) :
    ∃ s, storeAndUpdate update f s ≠ s := by
  refine ⟨.new f.descriptor, ?_⟩
  intro he
  have hresp : (storeAndUpdate update f (.new f.descriptor)).resp f.commandType = some f := by
    rw [storeAndUpdate]
    split
    · rw [h]
      exact Function.update_self _ _ _
    · exact Function.update_self _ _ _
  rw [he] at hresp
  cases hresp

theorem settles_inPlace {types : List DescType} {update : ObjectUpdate} (htidy : es.Tidy)
    (hs : ∀ t ∈ types, t ≠ .entity ∧ t ≠ .streamPortInput ∧ t ≠ .streamPortOutput)
    (hf : f.messageType = .aemResponse) (hu : ∀ s, (update f s).resp = s.resp) :
    Settles (es.onTypesStates types (withObject (procAemResp true) (storeAndUpdate update))) f
      (f.descriptorType, f.descriptorIndex) (es.ServesInPlace types f) := by
  refine Settles.congr (settles_onTypesStates fun _ =>
    settles_changing hf (answering_procAemResp true) id fun _ => storeAndUpdate_changes hu) ?_
  rw [ServesInPlace, and_left_comm]
  apply and_congr_right
  intro _
  apply and_congr_right
  intro ht
  obtain ⟨he, hi, ho⟩ := hs _ ht
  exact htidy.inPlace_iff he hi ho f.descriptorIndex

theorem settles_present {types : List DescType} {handler : RespHandler AecpFrame}
    (hs : ∀ t ∈ types, t ≠ .entity) (hf : f.messageType = .aemResponse)
    (h : Answering (fun f => f.respReadOk = true) handler) :
    Settles (es.onTypesStates types (withObject handler noUpdate)) f
      (f.descriptorType, f.descriptorIndex) (es.ServesPresent types f) := by
  refine Settles.congr (settles_onTypesStates fun _ => settles_unchanging hf h id) ?_
  rw [ServesPresent, and_left_comm]
  apply and_congr_right
  intro _
  apply and_congr_right
  intro ht
  simp only [findObject_some_iff (hs _ ht)]
  constructor
  · rintro ⟨d, hd⟩
    exact (List.getElem?_eq_some_iff.1 hd).1
  · intro hlt
    exact ⟨_, List.getElem?_eq_getElem hlt⟩

theorem Tidy.entity_iff (htidy : es.Tidy) (i : BitVec 16) :
    (∃ d, es.findObject .entity i = .ok (some d) ∧ d.key = (.entity, i)) ↔
      ∃ e ∈ es.entityDescVec.head?, e.desc.descriptorIndex = i := by
  simp only [findObject_entity_iff]
  constructor
  · rintro ⟨d, ⟨e, he, rfl⟩, hk⟩
    exact ⟨e, he, congrArg Prod.snd hk⟩
  · rintro ⟨e, he, rfl⟩
    refine ⟨e.desc, ⟨e, he, rfl⟩, ?_⟩
    rw [AemDesc.key, (htidy e (List.mem_of_mem_head? he)).1]

/-- Of the objects that a command is dispatched to those of one type handle it. -/
theorem settles_implementedBy {types : List DescType} (ht : t ∈ types)
    (hf : f.messageType = .aemResponse) :
    Settles (es.onTypesStates types (withObject (implementedBy t (procAemResp true))
      (updateOf t (storeAndUpdate noUpdate)))) f (f.descriptorType, f.descriptorIndex)
      (f.respReadOk = true ∧ f.descriptorType = t ∧
        ∃ d, es.findObject t f.descriptorIndex = .ok (some d) ∧
          d.key = (t, f.descriptorIndex)) := by
  have hupd : f.descriptorType = t ∧ f.respReadOk = true →
      ∃ s, updateOf t (storeAndUpdate noUpdate) f s ≠ s := by
    rintro ⟨he, -⟩
    have hs : ∃ s, storeAndUpdate noUpdate f s ≠ s := storeAndUpdate_changes fun _ => rfl
    obtain ⟨s, hs⟩ := hs
    exact ⟨s, by rwa [updateOf, if_pos he]⟩
  refine Settles.congr (settles_onTypesStates fun _ =>
    settles_changing hf ((answering_procAemResp true).implementedBy t) And.right hupd) ?_
  constructor
  · rintro ⟨-, ⟨rfl, hr⟩, hd⟩
    exact ⟨hr, rfl, hd⟩
  · rintro ⟨hr, rfl, hd⟩
    exact ⟨ht, ⟨rfl, hr⟩, hd⟩

theorem settles_acquireEntity (htidy : es.Tidy) (hf : f.messageType = .aemResponse) :
    Settles (es.onTypesStates [.entity, .streamInput, .streamOutput] acquireEntityObject) f
      (f.descriptorType, f.descriptorIndex) (es.ServesEntity f) := by
  refine Settles.congr (settles_implementedBy List.mem_cons_self hf) ?_
  rw [htidy.entity_iff]
  rfl

theorem settles_setStreamInfo (htidy : es.Tidy) (hf : f.messageType = .aemResponse) :
    Settles (es.onTypesStates [.streamInput, .streamOutput] setStreamInfoObject) f
      (f.descriptorType, f.descriptorIndex) (es.ServesInPlace [.streamOutput] f) := by
  refine Settles.congr (settles_implementedBy (by decide) hf) ?_
  rw [htidy.inPlace_iff (by decide) (by decide) (by decide), ServesInPlace, List.mem_singleton]
  apply and_congr_right
  intro _
  apply and_congr_right
  intro ht
  rw [ht]

theorem settles_reboot (htidy : es.Tidy) (hf : f.messageType = .aemResponse) :
    Settles (es.onTypesStates [.entity] rebootObject) f (f.descriptorType, f.descriptorIndex)
      (es.ServesEntity f) := by
  refine Settles.congr (settles_onTypesStates fun _ =>
    settles_changing hf (answering_procAemResp false) id fun _ =>
      storeAndUpdate_changes fun _ => rfl)
    ?_
  rw [ServesEntity, and_left_comm, List.mem_singleton]
  apply and_congr_right
  intro _
  apply and_congr_right
  intro ht
  rw [ht]
  exact htidy.entity_iff f.descriptorIndex

/-- The descriptor type of the response is not looked at, so it has to be right by itself. -/
theorem settles_clockSource {update : ObjectUpdate} (htidy : es.Tidy)
    (hf : f.messageType = .aemResponse) (hu : ∀ s, (update f s).resp = s.resp) :
    Settles (es.onObjectStates .clockDomain f.descriptorIndex
      (withObject (procAemResp true) (storeAndUpdate update))) f
      (f.descriptorType, f.descriptorIndex) (es.ServesInPlace [.clockDomain] f) := by
  refine Settles.congr
    (settles_changing hf (answering_procAemResp true) id fun _ => storeAndUpdate_changes hu) ?_
  rw [ServesInPlace, List.mem_singleton]
  apply and_congr_right
  intro _
  constructor
  · rintro ⟨d, hd, hk⟩
    have hmem := List.mem_of_getElem? ((findObject_some_iff (by decide) _ d).1 hd)
    have ht : f.descriptorType = .clockDomain :=
      (congrArg Prod.fst hk).symm.trans ((htidy.objects _).1 d hmem)
    rw [ht] at hk ⊢
    exact ⟨rfl, (htidy.inPlace_iff (by decide) (by decide) (by decide) _).1 ⟨d, hd, hk⟩⟩
  · rintro ⟨ht, hp⟩
    rw [ht] at hp ⊢
    exact (htidy.inPlace_iff (by decide) (by decide) (by decide) _).2 hp

theorem settles_none {handler : RespHandler AecpFrame}
    (h : ∀ g out g' out', handler f g out = .ok (g', out') → g'.inflight = g.inflight) :
    Settles (onStation handler) f key False := by
  refine ⟨False.elim, ?_⟩
  intro _ g out
  refine ⟨fun _ => .new f.descriptor, ?_⟩
  intro g' out' states' hok
  obtain ⟨⟨g₁, out₁⟩, h₁, hok⟩ := bind_eq_ok.1 hok
  cases hok
  exact .inl (h g out _ _ h₁)

theorem settles_aemRespStates (htidy : es.Tidy) (hf : f.messageType = .aemResponse)
    (hread : f.commandType ≠ .readDescriptor) (havail : f.commandType ≠ .controllerAvailable) :
    Settles (es.aemRespStates f) f (f.descriptorType, f.descriptorIndex) (es.Serves f) := by
  have haem := answering_procAemResp true
  rw [aemRespStates, Serves]
  cases hc : f.commandType with
  | acquireEntity => exact settles_acquireEntity htidy hf
  | lockEntity => exact settles_acquireEntity htidy hf
  | entityAvailable =>
    rw [aemRespHandler, hc]
    exact settles_onStation hf (answering_procAemResp false)
  | setStreamFormat => exact settles_inPlace htidy (by decide) hf fun _ => rfl
  | getStreamFormat => exact settles_inPlace htidy (by decide) hf fun _ => rfl
  | setStreamInfo => exact settles_setStreamInfo htidy hf
  | getStreamInfo => exact settles_inPlace htidy (by decide) hf fun _ => rfl
  | setSamplingRate => exact settles_inPlace htidy (by decide) hf fun _ => rfl
  | getSamplingRate => exact settles_inPlace htidy (by decide) hf fun _ => rfl
  | setClockSource => exact settles_clockSource htidy hf fun _ => rfl
  | getClockSource => exact settles_clockSource htidy hf fun _ => rfl
  | startStreaming => exact settles_present (by decide) hf haem
  | stopStreaming => exact settles_present (by decide) hf haem
  | reboot => exact settles_reboot htidy hf
  | startOperation => exact settles_present (by decide) hf answering_procStartOperationResp
  | operationStatus => exact settles_present (by decide) hf answering_procOperationStatusResp
  | setControl =>
    rw [aemRespHandler, hc]
    refine ⟨fun _ g out states => ?_, fun h => absurd trivial h⟩
    have hcompleted := updateInflight_completed hf false g out
    rw [hf] at hcompleted
    exact ⟨_, _, states, rfl, hcompleted, fun _ _ => rfl⟩
  | setName | getName =>
    rw [aemRespHandler, hc]
    apply settles_none
    intro g out g' out' h
    cases h
    rfl
  | other =>
    rw [aemRespHandler, hc]
    apply settles_none
    intro g out g' out' h
    cases h
    rfl
  | readDescriptor => exact absurd hc hread
  | controllerAvailable => exact absurd hc havail

end EndStation
end AvdeccLib
