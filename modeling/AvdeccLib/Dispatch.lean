import AvdeccLib.AdpTracking

namespace AvdeccLib
set_option autoImplicit true

open Runs Outcome

/-- The faults of a missing object: an access to an empty vector and a call on a NULL
pointer. -/
def Fault.Dangling (f : Fault) : Prop := f = .outOfRange ∨ f = .nullPointer

theorem not_dangling_assertion : ¬ Fault.Dangling .assertion := by
  rintro (h | h) <;> cases h

/-- The type of the object that the response of a command type is dispatched to, for the types
that the command is implemented for. -/
def AecpFrame.objectType (f : AecpFrame) : Option DescType :=
  let oneOf (types : List DescType) :=
    if f.descriptorType ∈ types then some f.descriptorType else none
  match f.commandType with
  | .acquireEntity | .lockEntity => oneOf [.entity, .streamInput, .streamOutput]
  | .setStreamFormat | .getStreamFormat | .setStreamInfo | .getStreamInfo | .startStreaming
  | .stopStreaming => oneOf [.streamInput, .streamOutput]
  | .setSamplingRate | .getSamplingRate => oneOf [.audioUnit]
  | .setClockSource | .getClockSource => some .clockDomain
  | .reboot => oneOf [.entity]
  | .startOperation | .operationStatus => oneOf [.memoryObject]
  | _ => none

def AcmpFrame.objectType (f : AcmpFrame) : Option DescType :=
  match f.messageType with
  | .getTxStateResponse | .getTxConnectionResponse => some .streamOutput
  | .connectRxResponse | .disconnectRxResponse | .getRxStateResponse => some .streamInput
  | _ => none

namespace ConfigurationDescriptor

/-- How many descriptors of the type are stored behind a response: one that is read and has a
new index, or is a stream port, is one more. -/
def countWith (cd : ConfigurationDescriptor) (d : AemDesc) : Nat :=
  let vec := cd.descVec d.descriptorType
  if d.readOk then
    match d.descriptorType with
    | .streamPortInput | .streamPortOutput => vec.length + 1
    | _ =>
      if vec.any (·.descriptorIndex == d.descriptorIndex) then vec.length
      else vec.length + 1
  else vec.length

end ConfigurationDescriptor

/-- Where `background_read_deduce_next` looks for the descriptor of a response. -/
def AemDesc.deducedFrom (d : AemDesc) : Option Nat :=
  match d.descriptorType with
  | .locale => some 0
  | .audioUnit | .streamPortInput | .streamPortOutput => some d.descriptorIndex.toNat
  | _ => none

namespace EndStation

/-- An object of the type can be asked for: the ENTITY descriptor is stored and, for any other
type, the current configuration is one of the stored ones. -/
def Reaches (es : EndStation) (t : DescType) : Prop :=
  ∃ e rest, es.entityDescVec = e :: rest ∧
    (t = .entity ∨ ∃ cd, e.getConfigDescByIndex es.currentConfigDesc = some cd)

/-- What a response that is not stored leaves to be sent can be sent: there is an ENTITY,
another read is inflight, or what is pending comes before it. -/
def CanSubmit (es : EndStation) (d : AemDesc) : Prop :=
  es.entityDescVec ≠ [] ∨
    (∃ b ∈ es.backgroundReadInflight,
      ¬ (b.type = d.descriptorType ∧ descIndexFromFrame d = some b.index)) ∨
    ∀ b rest, es.backgroundReadPending = b :: rest → b.type = .entity ∨ b.type = .configuration

/-- The current configuration is there for a descriptor that goes into it, and behind that the
descriptor is where it is looked for. -/
def CanStore (es : EndStation) (d : AemDesc) : Prop :=
  d.descriptorType.stored = true → ∃ cd, es.currentConfig = some cd ∧
    ∀ i, d.deducedFrom = some i → i < cd.countWith d

/-- A READ_DESCRIPTOR response that is handled without touching a missing object. -/
def ReadSafe (es : EndStation) (status : BitVec 5) (d : AemDesc) : Prop :=
  if es.storeDescriptor status d.descriptorType = true then es.CanStore d else es.CanSubmit d

def AemSafe (es : EndStation) (f : AecpFrame) : Prop :=
  if f.commandType = .readDescriptor then f.respReadOk = true →
    es.ReadSafe f.status f.descriptor
  else ∀ t, f.objectType = some t → es.Reaches t

def AcmpSafe (es : EndStation) (f : AcmpFrame) : Prop :=
  ∀ t, f.objectType = some t → es.Reaches t

theorem dangles_findObject_iff (es : EndStation) (t : DescType) (i : BitVec 16) :
    Fails Fault.Dangling (es.findObject t i) ↔ ¬ es.Reaches t := by
  rw [findObject, currentEntity]
  cases he : es.entityDescVec with
  | nil =>
    simp only [Reaches, he, reduceCtorEq, false_and, exists_false, not_false_eq_true, iff_true]
    exact ⟨_, rfl, .inl rfl⟩
  | cons e rest =>
    have hreach : es.Reaches t ↔
        t = .entity ∨ ∃ cd, e.getConfigDescByIndex es.currentConfigDesc = some cd := by
      rw [Reaches, he]
      constructor
      · rintro ⟨e', rest', h, hr⟩
        cases h
        exact hr
      · intro hr
        exact ⟨e, rest, rfl, hr⟩
    rw [hreach]
    simp only [pure_bind]
    split
    · next ht =>
      simp only [ht, true_or, not_true, iff_false]
      exact not_fails_pure _
    · next ht =>
      cases hc : e.getConfigDescByIndex es.currentConfigDesc with
      | none =>
        simp only [ht, reduceCtorEq, exists_false, or_false, not_false_eq_true, iff_true]
        exact ⟨.nullPointer, rfl, .inr rfl⟩
      | some cd =>
        simp only [Option.some.injEq, exists_eq', or_true, not_true, iff_false]
        exact not_fails_pure _

/-- A handler that fails by assertion at most. -/
def Solid (handler : RespHandler φ) : Prop :=
  ∀ frame g out, ¬ Fails Fault.Dangling (handler frame g out)

theorem dangles_onObject_iff {es : EndStation} {t : DescType} {i : BitVec 16}
    {handler : RespHandler φ} (h : Solid handler) (frame : φ) (g : Globals) (out : RxOut) :
    Fails Fault.Dangling (es.onObject t i handler frame g out) ↔ ¬ es.Reaches t := by
  rw [onObject, fails_bind, dangles_findObject_iff]
  constructor
  · rintro (hn | ⟨o, ho, hf⟩)
    · exact hn
    · cases o with
      | none => exact absurd hf (not_fails_pure _)
      | some d => exact absurd hf (h frame g out)
  · exact .inl

theorem dangles_onTypes_iff {es : EndStation} {types : List DescType}
    {handler : RespHandler AecpFrame} (h : Solid handler) (frame : AecpFrame) (g : Globals)
    (out : RxOut) : Fails Fault.Dangling (es.onTypes types handler frame g out) ↔
      frame.descriptorType ∈ types ∧ ¬ es.Reaches frame.descriptorType := by
  rw [onTypes]
  split
  · next ht => rw [dangles_onObject_iff h, and_iff_right ht]
  · next ht =>
    constructor
    · intro hf
      exact absurd hf (not_fails_pure _)
    · rintro ⟨hm, -⟩
      exact absurd hm ht

end EndStation

open EndStation

theorem solid_procAemResp (asserts : Bool) : Solid (procAemResp asserts) := by
  intro frame g out
  rw [procAemResp]
  split
  · split
    · rw [fails_throw]
      exact not_dangling_assertion
    · exact not_fails_pure _
  · exact not_fails_pure _

theorem solid_implementedBy (t : DescType) {handler : RespHandler AecpFrame}
    (hh : Solid handler) :
    Solid (implementedBy t handler) := by
  intro frame g out
  rw [implementedBy]
  split
  · exact hh frame g out
  · exact not_fails_pure _

theorem solid_procStartOperationResp : Solid procStartOperationResp := by
  intro frame g out
  simp only [procStartOperationResp]
  split
  · exact not_fails_pure _
  · split <;> exact not_fails_pure _

theorem solid_procOperationStatusResp : Solid procOperationStatusResp := by
  intro frame g out
  simp only [procOperationStatusResp]
  split <;> exact not_fails_pure _

theorem solid_procAcmpResp : Solid procAcmpResp := by
  intro frame g out
  rw [procAcmpResp]
  split
  · rw [fails_throw]
    exact not_dangling_assertion
  · exact not_fails_pure _

namespace EndStation

theorem dangles_typed_iff {es : EndStation} {types : List DescType} {frame : AecpFrame}
    {handler : RespHandler AecpFrame} (h : Solid handler) (g : Globals) (out : RxOut)
    (ht : frame.objectType =
      if frame.descriptorType ∈ types then some frame.descriptorType else none) :
    Fails Fault.Dangling (es.onTypes types handler frame g out) ↔
      ¬ ∀ t, frame.objectType = some t → es.Reaches t := by
  rw [dangles_onTypes_iff h, ht]
  split
  · next hm => simp only [hm, true_and, Option.some.injEq, forall_eq']
  · next hm => simp only [hm, false_and, reduceCtorEq, false_imp_iff, implies_true, not_true]

theorem dangles_untyped_iff {es : EndStation} {frame : AecpFrame}
    {x : Except Fault (Globals × RxOut)} (h : ¬ Fails Fault.Dangling x)
    (ht : frame.objectType = none) :
    Fails Fault.Dangling x ↔ ¬ ∀ t, frame.objectType = some t → es.Reaches t := by
  simp only [h, ht, reduceCtorEq, false_imp_iff, implies_true, not_true]

/-- Of the commands other than READ_DESCRIPTOR those dangle whose object cannot be reached. -/
theorem dangles_aemRespHandler_iff (es : EndStation) (frame : AecpFrame) (g : Globals)
    (out : RxOut) : Fails Fault.Dangling (es.aemRespHandler frame frame g out) ↔
      ¬ ∀ t, frame.objectType = some t → es.Reaches t := by
  have haem := solid_procAemResp
  rw [aemRespHandler]
  cases hc : frame.commandType with
  | setStreamFormat | getStreamFormat | getStreamInfo | startStreaming | stopStreaming =>
    exact dangles_typed_iff (haem true) g out (by simp only [AecpFrame.objectType, hc])
  | acquireEntity | lockEntity | setStreamInfo =>
    exact dangles_typed_iff (solid_implementedBy _ (haem true)) g out
      (by simp only [AecpFrame.objectType, hc])
  | setSamplingRate | getSamplingRate =>
    exact dangles_typed_iff (haem true) g out (by simp only [AecpFrame.objectType, hc])
  | reboot =>
    exact dangles_typed_iff (haem false) g out (by simp only [AecpFrame.objectType, hc])
  | startOperation =>
    exact dangles_typed_iff solid_procStartOperationResp g out
      (by simp only [AecpFrame.objectType, hc])
  | operationStatus =>
    exact dangles_typed_iff solid_procOperationStatusResp g out
      (by simp only [AecpFrame.objectType, hc])
  | setClockSource | getClockSource =>
    have ht : frame.objectType = some .clockDomain := by simp only [AecpFrame.objectType, hc]
    simp only [ht, Option.some.injEq, forall_eq']
    exact dangles_onObject_iff (haem true) frame g out
  | entityAvailable =>
    exact dangles_untyped_iff (haem false frame g out) (by simp only [AecpFrame.objectType, hc])
  | setName | getName | setControl | readDescriptor | controllerAvailable | other =>
    exact dangles_untyped_iff (not_fails_pure _) (by simp only [AecpFrame.objectType, hc])

theorem dangles_procRcvdAcmpResp_iff (es : EndStation) (frame : AcmpFrame) (g : Globals)
    (out : RxOut) : Fails Fault.Dangling (es.procRcvdAcmpResp frame g out) ↔
      ¬ es.AcmpSafe frame := by
  have hobj : ∀ t i, frame.objectType = some t →
      (Fails Fault.Dangling (es.onObject t i procAcmpResp frame g out) ↔
        ¬ es.AcmpSafe frame) := by
    intro t i ht
    rw [dangles_onObject_iff solid_procAcmpResp, AcmpSafe, ht]
    simp only [Option.some.injEq, forall_eq']
  rw [procRcvdAcmpResp]
  split
  · next hm => exact hobj _ _ (by rw [AcmpFrame.objectType, hm])
  · next hm => exact hobj _ _ (by rw [AcmpFrame.objectType, hm])
  · next hm => exact hobj _ _ (by rw [AcmpFrame.objectType, hm])
  · next hm => exact hobj _ _ (by rw [AcmpFrame.objectType, hm])
  · next hm => exact hobj _ _ (by rw [AcmpFrame.objectType, hm])
  · next h₁ h₂ h₃ h₄ h₅ =>
    have ht : frame.objectType = none := by
      rw [AcmpFrame.objectType]
      cases hm : frame.messageType with
      | getTxStateResponse => exact absurd hm h₁
      | connectRxResponse => exact absurd hm h₂
      | disconnectRxResponse => exact absurd hm h₃
      | getRxStateResponse => exact absurd hm h₄
      | getTxConnectionResponse => exact absurd hm h₅
      | _ => rfl
    simp only [AcmpSafe, ht, reduceCtorEq, false_imp_iff, implies_true, not_true, iff_false]
    exact not_fails_pure _

end EndStation

namespace ConfigurationDescriptor

/-- The configuration behind a response for one of its objects. -/
def received (cd : ConfigurationDescriptor) (d : AemDesc) : ConfigurationDescriptor :=
  if d.readOk then cd.storeDesc d else cd

theorem addOrReplace_length (d : AemDesc) (vec : List AemDesc) :
    (addOrReplaceDescriptorAndSort d vec).length =
      if vec.any (·.descriptorIndex == d.descriptorIndex) then vec.length
      else vec.length + 1 := by
  rw [addOrReplaceDescriptorAndSort]
  cases hf : vec.findIdx? fun n => n.descriptorIndex == d.descriptorIndex with
  | some i =>
    have hany : vec.any (·.descriptorIndex == d.descriptorIndex) = true := by
      rw [← List.findIdx?_isSome, hf]
      rfl
    rw [hany, if_pos rfl, List.length_set]
  | none =>
    have hany : vec.any (·.descriptorIndex == d.descriptorIndex) = false := by
      rw [← List.findIdx?_isSome, hf]
      rfl
    rw [hany, if_neg Bool.false_ne_true, List.length_insertionSort, List.length_append,
      List.length_singleton]

theorem received_length (cd : ConfigurationDescriptor) (d : AemDesc) :
    ((cd.received d).descVec d.descriptorType).length = cd.countWith d := by
  rw [received, countWith]
  split
  · simp only [storeDesc, if_true]
    cases hd : d.descriptorType with
    | streamPortInput | streamPortOutput =>
      simp only [List.length_append, List.length_singleton]
    | _ => exact addOrReplace_length d _
  · rfl

end ConfigurationDescriptor

theorem newDesc_cases (d : AemDesc) :
    newDesc d = .error .assertion ∨ newDesc d = .ok (if d.readOk then some d else none) := by
  rw [newDesc]
  cases d.readOk with
  | false => exact .inr rfl
  | true =>
    simp only [Bool.not_true, Bool.false_eq_true, if_false, if_true]
    split
    · split
      · exact .inr rfl
      · exact .inl rfl
    · split
      · exact .inr rfl
      · exact .inl rfl
    · exact .inr rfl

namespace EndStation

theorem currentConfig_set {es : EndStation} {e : EntityDescriptor}
    {rest : List EntityDescriptor}
    {cd cd' : ConfigurationDescriptor} (he : es.entityDescVec = e :: rest)
    (hcd : es.currentConfig = some cd) :
    currentConfig { es with entityDescVec :=
      { e with configDescVec := e.configDescVec.set es.currentConfigDesc.toNat cd' } :: rest } =
      some cd' := by
  rw [currentConfig, he] at hcd
  simp only [EntityDescriptor.getConfigDescByIndex] at hcd
  split at hcd
  · next hlen =>
    obtain ⟨hlt, -⟩ := List.getElem?_eq_some_iff.1 hcd
    simp only [currentConfig, List.length_set, hlen, if_true,
      EntityDescriptor.getConfigDescByIndex]
    exact List.getElem?_set_self hlt
  · cases hcd

theorem storeInConfig_ok {es es' : EndStation} {cd : ConfigurationDescriptor} {d : AemDesc}
    (hcd : es.currentConfig = some cd) (h : es.storeInConfig d = .ok es') :
    es'.currentConfig = some (cd.received d) ∧ es'.entityDescVec ≠ [] := by
  rw [storeInConfig, hcd] at h
  cases he : es.entityDescVec with
  | nil =>
    rw [currentConfig, he] at hcd
    cases hcd
  | cons e rest =>
    rcases newDesc_cases d with hn | hn
    · rw [hn] at h
      cases h
    · rw [hn, currentEntity, he] at h
      cases hr : d.readOk with
      | false =>
        rw [hr] at h
        cases h
        rw [ConfigurationDescriptor.received, hr, he]
        exact ⟨hcd, List.cons_ne_nil e rest⟩
      | true =>
        rw [hr] at h
        cases h
        rw [ConfigurationDescriptor.received, hr]
        exact ⟨currentConfig_set he hcd, List.cons_ne_nil _ _⟩

theorem dangles_storeInConfig_iff (es : EndStation) (d : AemDesc) :
    Fails Fault.Dangling (es.storeInConfig d) ↔ es.currentConfig = none := by
  rw [storeInConfig]
  cases hcd : es.currentConfig with
  | none =>
    simp only [iff_true]
    exact ⟨.nullPointer, rfl, .inr rfl⟩
  | some cd =>
    simp only [reduceCtorEq, iff_false]
    cases he : es.entityDescVec with
    | nil =>
      rw [currentConfig, he] at hcd
      cases hcd
    | cons e rest =>
      rw [currentEntity, he]
      rcases newDesc_cases d with hn | hn
      · rw [hn]
        rintro ⟨f, hf, hd⟩
        cases hf
        exact not_dangling_assertion hd
      · rw [hn]
        cases d.readOk <;> exact not_fails_pure _

theorem storeInConfig_of_deduced {es : EndStation} {cd : ConfigurationDescriptor} {d : AemDesc}
    (hcd : es.currentConfig = some cd) (hd : d.deducedFrom ≠ none) :
    ∃ es', es.storeInConfig d = .ok es' := by
  have hn : newDesc d = .ok (if d.readOk then some d else none) := by
    rw [newDesc]
    cases d.readOk with
    | false => rfl
    | true =>
      cases ht : d.descriptorType with
      | audioMap | clockDomain =>
        rw [AemDesc.deducedFrom, ht] at hd
        exact absurd rfl hd
      | _ => rfl
  rw [storeInConfig, hcd, hn]
  cases he : es.entityDescVec with
  | nil =>
    rw [currentConfig, he] at hcd
    cases hcd
  | cons e rest =>
    rw [currentEntity, he]
    cases d.readOk <;> exact ⟨_, rfl⟩

theorem dangles_deref_iff {o : Option α} : Fails Fault.Dangling (deref o) ↔ o = none := by
  cases o with
  | none =>
    simp only [iff_true]
    exact ⟨.nullPointer, rfl, .inr rfl⟩
  | some a =>
    simp only [reduceCtorEq, iff_false]
    exact not_fails_pure a

theorem dangles_lookup_iff {cd : ConfigurationDescriptor} {t : DescType} {i : BitVec 16}
    {f : AemDesc → List BackgroundReadRequest} :
    Fails Fault.Dangling (do let o ← deref (cd.getDescByIndex t i); pure (f o)) ↔
      (cd.descVec t).length ≤ i.toNat := by
  rw [fails_bind, dangles_deref_iff, ConfigurationDescriptor.getDescByIndex,
    List.getElem?_eq_none_iff]
  constructor
  · rintro (h | ⟨o, -, h⟩)
    · exact h
    · exact absurd h (not_fails_pure _)
  · exact .inl

theorem dangles_deduceFromConfig_iff (es : EndStation) (cd : ConfigurationDescriptor)
    (d : AemDesc) :
    Fails Fault.Dangling (es.deduceFromConfig cd d) ↔
      ¬ ∀ i, d.deducedFrom = some i → i < (cd.descVec d.descriptorType).length := by
  rw [deduceFromConfig]
  cases hd : d.descriptorType with
  | locale =>
    have hi : d.deducedFrom = some 0 := by rw [AemDesc.deducedFrom, hd]
    simp only [hi, Option.some.injEq, forall_eq', Nat.not_lt]
    exact dangles_lookup_iff
  | audioUnit | streamPortInput | streamPortOutput =>
    have hi : d.deducedFrom = some d.descriptorIndex.toNat := by rw [AemDesc.deducedFrom, hd]
    simp only [hi, Option.some.injEq, forall_eq', Nat.not_lt, descIndexFromFrame, hd,
      Option.getD_some]
    exact dangles_lookup_iff
  | _ =>
    have hi : d.deducedFrom = none := by rw [AemDesc.deducedFrom, hd]
    simp only [hi, reduceCtorEq, false_imp_iff, implies_true, not_true, iff_false]
    exact not_fails_pure _

end EndStation

namespace EndStation

theorem not_dangles_readDescInit {es : EndStation} {t : DescType}
    (h : es.Readable t) (mac : Mac)
    (i : BitVec 16) : ¬ Fails Fault.Dangling (es.readDescInit mac t i) := by
  obtain ⟨d, hd, -⟩ := readDescInit_of_readable h mac i
  rw [hd]
  exact not_fails_ok d

theorem dangles_submitPending_iff (es : EndStation) (mac : Mac) (now : Timestamp) :
    Fails Fault.Dangling (es.backgroundReadSubmitPending mac now) ↔
      es.backgroundReadInflight = [] ∧
        ∃ b rest, es.backgroundReadPending = b :: rest ∧ ¬ es.Readable b.type := by
  rw [backgroundReadSubmitPending]
  cases es.backgroundReadInflight with
  | cons r l =>
    simp only [reduceCtorEq, false_and, iff_false]
    exact not_fails_pure _
  | nil =>
    cases es.backgroundReadPending with
    | nil =>
      simp only [reduceCtorEq, false_and, exists_false, and_false, iff_false]
      exact not_fails_pure _
    | cons b rest =>
      simp only [List.cons.injEq, true_and, ↓existsAndEq]
      rw [fails_bind]
      by_cases hr : es.Readable b.type
      · simp only [hr, not_true, iff_false, not_or, not_exists, not_and]
        constructor
        · apply not_fails_mapM
          intro r hmem
          have ht : r.type = b.type := batch_type hmem
          rw [ht]
          exact not_dangles_readDescInit hr mac r.index
        · intro tx _
          exact not_fails_pure _
      · simp only [hr, not_false_eq_true, iff_true]
        left
        apply fails_mapM_cons
        simp only [Readable, not_or, not_not] at hr
        rw [readDescInit, sendReadDescCmdWithFlag_of_empty hr.2.2 fun h => h.elim hr.1 hr.2.1]
        exact ⟨.outOfRange, rfl, .inl rfl⟩

theorem storeEntity_entity {es es' : EndStation} {d : AemDesc}
    (h : es.storeEntity d = .ok es') :
    es'.entityDescVec ≠ [] := by
  rw [storeEntity] at h
  split at h
  · obtain ⟨e, -, h⟩ := bind_eq_ok.1 h
    cases h
    exact List.cons_ne_nil e []
  · next e rest he =>
    cases h
    rw [he]
    exact List.cons_ne_nil e rest

theorem storeDesc_entity {es es' : EndStation} {status : BitVec 5} {d : AemDesc}
    (hs : es.storeDescriptor status d.descriptorType = true) (h : es.storeDesc d = .ok es') :
    es'.entityDescVec ≠ [] := by
  rw [storeDesc] at h
  split at h
  · exact storeEntity_entity h
  · obtain ⟨e, -, h⟩ := bind_eq_ok.1 h
    obtain ⟨e', -, h⟩ := bind_eq_ok.1 h
    cases h
    exact List.cons_ne_nil _ _
  · next hd =>
    cases h
    intro hnil
    simp [storeDescriptor, hd, hnil] at hs
  · obtain ⟨cd, hcd, -⟩ := bind_eq_ok.1 h
    exact (storeInConfig_ok (deref_ok hcd) h).2

theorem storeDescriptor_entity {es : EndStation} {status : BitVec 5} {t : DescType}
    (hs : es.storeDescriptor status t = true) (ht : t ≠ .entity) :
    ∃ e, es.entityDescVec = [e] := by
  cases he : es.entityDescVec with
  | nil =>
    simp only [storeDescriptor, he] at hs
    cases t <;> first | exact absurd rfl ht | simp at hs
  | cons e rest =>
    cases rest with
    | nil => exact ⟨e, rfl⟩
    | cons e' rest =>
      simp only [storeDescriptor, he] at hs
      cases t <;> first | exact absurd rfl ht | simp at hs

theorem not_dangles_storeEntity (es : EndStation) (d : AemDesc) :
    ¬ Fails Fault.Dangling (es.storeEntity d) := by
  rw [storeEntity]
  split
  · intro hf
    rw [fails_bind, EntityDescriptor.new] at hf
    rcases hf with hf | ⟨e, -, hf⟩
    · split at hf
      · rw [fails_throw] at hf
        exact not_dangling_assertion hf
      · exact not_fails_pure _ hf
    · exact not_fails_pure _ hf
  · exact not_fails_pure _

theorem not_dangles_storeConfiguration {es : EndStation} {e : EntityDescriptor}
    (he : es.entityDescVec = [e]) (d : AemDesc) :
    ¬ Fails Fault.Dangling (es.storeConfiguration d) := by
  have hnew : ¬ Fails Fault.Dangling (ConfigurationDescriptor.new d) := by
    rw [ConfigurationDescriptor.new]
    split
    · rw [fails_throw]
      exact not_dangling_assertion
    · exact not_fails_pure _
  intro hf
  rw [storeConfiguration, fails_bind, currentEntity, he] at hf
  rcases hf with hf | ⟨e₁, -, hf⟩
  · exact not_fails_pure _ hf
  · rw [fails_bind, EntityDescriptor.storeConfigDesc, fails_bind] at hf
    rcases hf with (hf | ⟨cd, -, hf⟩) | ⟨e₂, -, hf⟩
    · exact hnew hf
    · exact not_fails_pure _ hf
    · exact not_fails_pure _ hf

theorem storeDesc_of_stored {es : EndStation} {d : AemDesc}
    (ht : d.descriptorType.stored = true) :
    es.storeDesc d = es.storeInConfig d := by
  rw [storeDesc]
  cases hd : d.descriptorType <;> first | rfl | (rw [hd] at ht; cases ht)

theorem deducedFrom_of_not_stored {d : AemDesc} (ht : d.descriptorType.stored = false) :
    d.deducedFrom = none := by
  rw [AemDesc.deducedFrom]
  cases hd : d.descriptorType <;> first | rfl | (rw [hd] at ht; cases ht)

theorem dangles_deduceNext {es : EndStation} {cd : Option ConfigurationDescriptor} {d : AemDesc}
    (h : Fails Fault.Dangling (es.backgroundReadDeduceNext cd d)) :
    ∃ c, cd = some c ∧ Fails Fault.Dangling (es.deduceFromConfig c d) := by
  simp only [backgroundReadDeduceNext] at h
  split at h
  · exact absurd h (not_fails_pure _)
  · cases cd with
    | none => exact absurd h (not_fails_pure _)
    | some c => exact ⟨c, rfl, h⟩

theorem dangles_storeAndDeduce_iff {es : EndStation} {status : BitVec 5} {d : AemDesc}
    (hs : es.storeDescriptor status d.descriptorType = true) :
    Fails Fault.Dangling (es.storeAndDeduce status d) ↔ ¬ es.CanStore d := by
  rw [storeAndDeduce, if_pos hs, fails_bind]
  cases ht : d.descriptorType.stored with
  | false =>
    have hcan : es.CanStore d := by
      intro hst
      rw [ht] at hst
      cases hst
    simp only [hcan, not_true, iff_false, not_or, not_exists, not_and]
    constructor
    · rw [storeDesc]
      split
      · exact not_dangles_storeEntity es d
      · next hd =>
        obtain ⟨e, he⟩ := storeDescriptor_entity hs (by rw [hd]; exact DescType.noConfusion)
        exact not_dangles_storeConfiguration he d
      · exact not_fails_pure es
      · next h₁ h₂ h₃ => cases hd : d.descriptorType <;> simp_all [DescType.stored]
    · intro es₁ _ hf
      rw [fails_bind] at hf
      rcases hf with hf | ⟨next, -, hf⟩
      · obtain ⟨c, -, hf⟩ := dangles_deduceNext hf
        rw [dangles_deduceFromConfig_iff, deducedFrom_of_not_stored ht] at hf
        exact hf fun i hi => absurd hi (by simp)
      · exact absurd hf (not_fails_pure _)
  | true =>
    rw [storeDesc_of_stored ht, dangles_storeInConfig_iff]
    have hne : d.descriptorType ≠ .entity := by
      intro hd
      rw [hd] at ht
      cases ht
    cases hcd : es.currentConfig with
    | none =>
      simp only [true_or, true_iff]
      intro hcan
      obtain ⟨cd, h, -⟩ := hcan ht
      rw [hcd] at h
      cases h
    | some cd =>
      have hcan : es.CanStore d ↔ ∀ i, d.deducedFrom = some i → i < cd.countWith d := by
        simp only [CanStore, ht, true_imp_iff, hcd, Option.some.injEq, exists_eq_left']
      rw [hcan]
      simp only [reduceCtorEq, false_or]
      constructor
      · rintro ⟨es₁, h₁, hf⟩
        rw [fails_bind] at hf
        rcases hf with hf | ⟨next, -, hf⟩
        · obtain ⟨c, hc, hf⟩ := dangles_deduceNext hf
          rw [(storeInConfig_ok hcd h₁).1] at hc
          cases hc
          rw [dangles_deduceFromConfig_iff, cd.received_length] at hf
          exact hf
        · exact absurd hf (not_fails_pure _)
      · intro hn
        have hdeduced : d.deducedFrom ≠ none := by
          intro hnone
          rw [hnone] at hn
          exact hn fun i hi => absurd hi (by simp)
        obtain ⟨es₁, h₁⟩ := storeInConfig_of_deduced hcd hdeduced
        refine ⟨es₁, h₁, ?_⟩
        rw [fails_bind]
        left
        rw [(storeInConfig_ok hcd h₁).1, backgroundReadDeduceNext, if_neg hne]
        rw [dangles_deduceFromConfig_iff, cd.received_length]
        exact hn

theorem dangles_rcvdDescriptor_iff (es : EndStation) (mac : Mac) (now : Timestamp)
    (status : BitVec 5) (d : AemDesc) :
    Fails Fault.Dangling (es.rcvdDescriptor mac now status d) ↔ ¬ es.ReadSafe status d := by
  rw [rcvdDescriptor, fails_bind, ReadSafe]
  split
  · next hs =>
    rw [dangles_storeAndDeduce_iff hs]
    constructor
    · rintro (hn | ⟨es₁, h₁, hf⟩)
      · exact hn
      · rw [fails_bind] at hf
        rcases hf with hf | ⟨p, -, hf⟩
        · obtain ⟨-, b, rest, -, hr⟩ := (dangles_submitPending_iff _ mac now).1 hf
          obtain ⟨es₂, next, -, h₂, -, rfl⟩ := (storeAndDeduce_cases h₁).resolve_left
            fun h => by rw [hs] at h; exact absurd h.1 (by decide)
          have hv : es₂.entityDescVec ≠ [] := storeDesc_entity hs h₂
          exact absurd (.inr (.inr hv)) hr
        · exact absurd hf (not_fails_pure _)
    · exact .inl
  · next hs =>
    have hs : es.storeDescriptor status d.descriptorType = false := by simpa using hs
    have h₁ : es.storeAndDeduce status d = .ok es := by
      rw [storeAndDeduce, hs]
      rfl
    have hiff : ¬ es.CanSubmit d ↔
        (es.backgroundReadUpdateInflight d).backgroundReadInflight = [] ∧ ∃ b rest,
          (es.backgroundReadUpdateInflight d).backgroundReadPending = b :: rest ∧
            ¬ (es.backgroundReadUpdateInflight d).Readable b.type := by
      have hp : (es.backgroundReadUpdateInflight d).backgroundReadPending =
        es.backgroundReadPending := rfl
      have he : (es.backgroundReadUpdateInflight d).entityDescVec = es.entityDescVec := rfl
      have hinf : (es.backgroundReadUpdateInflight d).backgroundReadInflight = [] ↔
          ¬ ∃ b ∈ es.backgroundReadInflight,
            ¬ (b.type = d.descriptorType ∧ descIndexFromFrame d = some b.index) := by
        simp only [backgroundReadUpdateInflight, List.filter_eq_nil_iff, Bool.not_eq_true',
          Bool.not_eq_false, Bool.and_eq_true, beq_iff_eq]
        push Not
        rfl
      simp only [CanSubmit, Readable, hp, he, hinf, not_or, not_not, not_forall]
      constructor
      · rintro ⟨hv, hi, b, rest, hb, ht⟩
        exact ⟨hi, b, rest, hb, ht.1, ht.2, hv⟩
      · rintro ⟨hi, b, rest, hb, ht₁, ht₂, hv⟩
        exact ⟨hv, hi, b, rest, hb, ht₁, ht₂⟩
    rw [hiff, h₁]
    simp only [not_fails_ok, Except.ok.injEq, false_or, exists_eq_left', fails_bind,
      dangles_submitPending_iff]
    constructor
    · rintro (hf | ⟨p, -, hf⟩)
      · exact hf
      · exact absurd hf (not_fails_pure _)
    · exact .inl

theorem dangles_procRcvdAemResp_iff (es : EndStation) (now : Timestamp) (frame : AecpFrame)
    (g : Globals) (out : RxOut) :
    Fails Fault.Dangling (es.procRcvdAemResp now frame g out) ↔ ¬ es.AemSafe frame := by
  rw [procRcvdAemResp, AemSafe]
  split
  · rw [procReadDescResp]
    cases hr : frame.respReadOk with
    | false =>
      simp only [Bool.not_false, if_true, Bool.false_eq_true, false_imp_iff,
        not_true, iff_false]
      exact not_fails_pure _
    | true =>
      simp only [Bool.not_true, Bool.false_eq_true, if_false, true_imp_iff]
      rw [fails_bind, dangles_rcvdDescriptor_iff]
      constructor
      · rintro (hn | ⟨p, -, hf⟩)
        · exact hn
        · exact absurd hf (not_fails_pure _)
      · exact .inl
  · rw [fails_bind, dangles_aemRespHandler_iff]
    constructor
    · rintro (hn | ⟨p, -, hf⟩)
      · exact hn
      · exact absurd hf (not_fails_pure _)
    · exact .inl

end EndStation

theorem not_dangles_endStationInit (es : EndStation) (mac : Mac) :
    ¬ Fails Fault.Dangling (es.endStationInit mac) := by
  intro hf
  rw [endStationInit, fails_bind] at hf
  rcases hf with hf | ⟨tx, -, hf⟩
  · exact not_dangles_readDescInit (.inl rfl) mac 0 hf
  · exact not_fails_pure _ hf

theorem not_dangles_new (mac : Mac) (frame : AdpFrame) :
    ¬ Fails Fault.Dangling (EndStation.new mac frame) := by
  rw [EndStation.new]
  split
  · exact not_dangles_endStationInit _ mac
  · rw [fails_throw]
    exact not_dangling_assertion

namespace Controller

theorem not_dangles_rxAdp (c : Controller) (now : Timestamp) (frame : AdpFrame) :
    ¬ Fails Fault.Dangling (c.rxAdp now frame) := by
  rw [rxAdp]
  split
  · exact not_fails_pure c
  · split
    · exact not_fails_pure c
    · split
      · intro hf
        rw [rxNewAdp, fails_bind] at hf
        rcases hf with hf | ⟨p, -, hf⟩
        · exact not_dangles_new _ _ hf
        · exact not_fails_pure _ hf
      · intro hf
        rw [rxKnownAdp, fails_bind] at hf
        rcases hf with hf | ⟨p, -, hf⟩
        · split at hf
          · exact not_dangles_endStationInit _ _ hf
          · exact not_fails_pure _ hf
        · exact not_fails_pure _ hf

/-- A response that passes the address and controller id checks is for a station that has what
the response asks for. -/
def DispatchSafe (c : Controller) (uninit : EntityId) : RxFrame → Prop
  | .aecp f => f.destMac = c.globals.macAddr → f.messageType = .aemResponse →
      f.commandType ≠ .controllerAvailable →
      ∀ es i, c.findInEndStation f.targetEntityId f.controllerEntityId =
        some (es, i) → es.AemSafe f
  | .acmp f => ∀ es i,
      c.findInEndStation (entityEntityId uninit f) f.controllerEntityId = some (es, i) →
        es.AcmpSafe f
  | .adp _ | .other _ => True

theorem fails_map_iff {x : Except Fault α} {f : α → β} :
    Fails Fault.Dangling (do let a ← x; pure (f a)) ↔ Fails Fault.Dangling x := by
  rw [fails_bind]
  constructor
  · rintro (hf | ⟨a, -, hf⟩)
    · exact hf
    · exact absurd hf (not_fails_pure _)
  · exact .inl

theorem dangles_rxAecp_iff (c : Controller) (now : Timestamp) (f : AecpFrame) (out : RxOut) :
    Fails Fault.Dangling (c.rxAecp now f out) ↔ ¬ c.DispatchSafe 0 (.aecp f) := by
  have hsafe : ∀ {x : Except Fault (Controller × RxOut)}, ¬ Fails Fault.Dangling x →
      c.DispatchSafe 0 (.aecp f) → (Fails Fault.Dangling x ↔ ¬ c.DispatchSafe 0 (.aecp f)) := by
    intro x hx hs
    exact ⟨fun h => absurd h hx, fun h => absurd hs h⟩
  rw [rxAecp]
  cases hd : f.destMac == c.globals.macAddr with
  | false =>
    exact hsafe (not_fails_pure _) fun h => absurd h (beq_eq_false_iff_ne.1 hd)
  | true =>
    have hd := eq_of_beq hd
    cases hf : c.findInEndStation f.targetEntityId f.controllerEntityId with
    | none =>
      apply hsafe (not_fails_pure _)
      intro _ _ _ es i h
      rw [hf] at h
      cases h
    | some p =>
      obtain ⟨es, i⟩ := p
      simp only
      cases hm : f.messageType with
      | aemResponse =>
        simp only
        split
        · next hc =>
          apply hsafe
          · rw [fails_map_iff]
            exact solid_procAemResp true f _ out
          · intro _ _ hne
            exact absurd hc hne
        · next hc =>
          have hiff : c.DispatchSafe 0 (.aecp f) ↔ es.AemSafe f := by
            constructor
            · intro h
              exact h hd hm hc es i hf
            · intro h _ _ _ es' i' hf'
              rw [hf] at hf'
              cases hf'
              exact h
          rw [fails_map_iff, dangles_procRcvdAemResp_iff, hiff]
      | addressAccessResponse =>
        apply hsafe
        · rw [fails_map_iff, procRcvdAecpAaResp]
          exact not_fails_pure _
        · intro _ h
          rw [hm] at h
          cases h
      | aemCommand | addressAccessCommand | other =>
        apply hsafe (not_fails_pure _)
        intro _ h
        rw [hm] at h
        cases h

theorem dangles_rxAcmp_iff (c : Controller) (uninit : EntityId) (f : AcmpFrame) (out : RxOut) :
    Fails Fault.Dangling (c.rxAcmp uninit f out) ↔ ¬ c.DispatchSafe uninit (.acmp f) := by
  rw [rxAcmp]
  cases hf : c.findInEndStation (entityEntityId uninit f) f.controllerEntityId with
  | none =>
    have hs : c.DispatchSafe uninit (.acmp f) := by
      intro es i h
      rw [hf] at h
      cases h
    exact ⟨fun h => absurd h (not_fails_pure _), fun h => absurd hs h⟩
  | some p =>
    obtain ⟨es, i⟩ := p
    have hiff : c.DispatchSafe uninit (.acmp f) ↔ es.AcmpSafe f := by
      constructor
      · intro h
        exact h es i hf
      · intro h es' i' hf'
        rw [hf] at hf'
        cases hf'
        exact h
    rw [hiff, ← dangles_procRcvdAcmpResp_iff es f c.globals out]
    exact fails_map_iff

/-- In whatever state a frame is received: no missing object is touched exactly if the station
has what the response asks for. -/
theorem dispatch_safe_iff (c : Controller) (now : Timestamp) (uninit : EntityId)
    (frame : RxFrame)
    (out : RxOut) :
    ¬ Fails Fault.Dangling (c.rxPacketEvent now uninit frame out) ↔
      (c.accepts frame.destMac = true → c.DispatchSafe uninit frame) := by
  simp only [rxPacketEvent]
  cases hd : c.accepts frame.destMac with
  | false =>
    simp only [Bool.false_eq_true, if_false, false_imp_iff, iff_true]
    exact not_fails_pure _
  | true =>
    simp only [if_true, true_imp_iff]
    cases frame with
    | adp f =>
      simp only [fails_map_iff, DispatchSafe, iff_true]
      exact not_dangles_rxAdp c now f
    | aecp f =>
      simp only
      rw [dangles_rxAecp_iff, not_not]
      rfl
    | acmp f =>
      simp only
      rw [dangles_rxAcmp_iff, not_not]
    | other mac =>
      simp only [DispatchSafe, iff_true]
      exact not_fails_pure _

/-- An ACQUIRE_ENTITY response for the entity. -/
def acquireResponse (entityId : EntityId) : AecpFrame :=
  { destMac := 1
    messageType := .aemResponse
    targetEntityId := entityId
    controllerEntityId := getControllerEntityId 1
    commandType := .acquireEntity }

/-- A response that comes in before the ENTITY descriptor was read. -/
theorem dispatch_out_of_range :
    ¬ ∀ (mac : Mac) (tr : List (Controller × Event)) (c : Controller),
      Run Step (.new mac) tr c →
      ∀ (now : Timestamp) (uninit : EntityId) (frame : RxFrame),
        ¬ Fails Fault.Dangling (c.rxPacketEvent now uninit frame {}) := by
  intro hall
  have htrial : trial handle (fun _ _ => true)
      (fun c => match c.rxPacketEvent 0 0 (.aecp (acquireResponse 3)) {} with
        | .error f => f == .outOfRange
        | .ok _ => false) (.new 1) [.rxPacket 0 0
            (.adp (advertisement 3 0))] = true := by decide
  obtain ⟨tr, c, hrun, -, hc⟩ := exists_run_of_trial (fun _ _ _ h => h) htrial
  split at hc
  · next f hf => exact hall 1 tr c hrun 0 0 _ ⟨f, hf, .inl (eq_of_beq hc)⟩
  · cases hc

end Controller
end AvdeccLib
