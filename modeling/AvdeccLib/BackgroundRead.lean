import AvdeccLib.EndStation
import Mathlib.Data.List.TakeWhile

namespace AvdeccLib
set_option autoImplicit true

open Outcome

/-- A READ_DESCRIPTOR command that the library sends for itself. -/
def TxData.BackgroundRead (d : TxData) : Prop :=
  d.notificationId = null ∧ d.notificationFlag = .cmdWithoutNotification ∧
    ∃ f, d.frame = .aecp f ∧ f.messageType = .aemCommand

namespace EndStation

theorem sendReadDescCmdWithFlag_of_top {es : EndStation} {mac : Mac} {id : Ptr}
    {flag : AemCmdWaiting} {t : DescType} {i : BitVec 16}
    (ht : t = .entity ∨ t = .configuration) :
    ∃ d, es.sendReadDescCmdWithFlag mac id flag t i = .ok d ∧ d.notificationId = id ∧
      d.notificationFlag = flag ∧ ∃ f, d.frame = .aecp f ∧ f.messageType = .aemCommand := by
  rw [sendReadDescCmdWithFlag, if_pos ht]
  exact ⟨_, rfl, rfl, rfl, _, rfl, rfl⟩

theorem sendReadDescCmdWithFlag_of_entity {es : EndStation} {mac : Mac} {id : Ptr}
    {flag : AemCmdWaiting} {t : DescType} {i : BitVec 16} (he : es.entityDescVec ≠ []) :
    ∃ d, es.sendReadDescCmdWithFlag mac id flag t i = .ok d ∧ d.notificationId = id ∧
      d.notificationFlag = flag ∧ ∃ f, d.frame = .aecp f ∧ f.messageType = .aemCommand := by
  by_cases ht : t = .entity ∨ t = .configuration
  · exact sendReadDescCmdWithFlag_of_top ht
  · obtain ⟨e, l, hl⟩ := List.exists_cons_of_ne_nil he
    have hc : es.currentEntity = .ok e := by
      rw [currentEntity, hl]
      rfl
    rw [sendReadDescCmdWithFlag, if_neg ht, hc]
    exact ⟨_, rfl, rfl, rfl, _, rfl, rfl⟩

theorem sendReadDescCmdWithFlag_of_empty {es : EndStation} {mac : Mac} {id : Ptr}
    {flag : AemCmdWaiting} {t : DescType} {i : BitVec 16} (he : es.entityDescVec = [])
    (ht : ¬ (t = .entity ∨ t = .configuration)) :
    es.sendReadDescCmdWithFlag mac id flag t i = .error .outOfRange := by
  have hc : es.currentEntity = .error .outOfRange := by
    rw [currentEntity, he]
    rfl
  rw [sendReadDescCmdWithFlag, if_neg ht, hc]
  rfl

/-- A read of the type can be sent: its configuration index is known. -/
def Readable (es : EndStation) (t : DescType) : Prop :=
  t = .entity ∨ t = .configuration ∨ es.entityDescVec ≠ []

theorem readDescInit_of_readable {es : EndStation} {t : DescType}
    (h : es.Readable t) (mac : Mac)
    (i : BitVec 16) :
    ∃ d, es.readDescInit mac t i = .ok d ∧ d.BackgroundRead := by
  have hd : ∃ d, es.sendReadDescCmdWithFlag mac null .cmdWithoutNotification t i = .ok d ∧
      d.notificationId = null ∧ d.notificationFlag = .cmdWithoutNotification ∧
      ∃ f, d.frame = .aecp f ∧ f.messageType = .aemCommand := by
    rcases h with h | h | h
    · exact sendReadDescCmdWithFlag_of_top (.inl h)
    · exact sendReadDescCmdWithFlag_of_top (.inr h)
    · exact sendReadDescCmdWithFlag_of_entity h
  obtain ⟨d, hd, hid, hflag, hf⟩ := hd
  exact ⟨d, hd, hid, hflag, hf⟩

theorem readable_of_readDescInit {es : EndStation} {mac : Mac} {t : DescType} {i : BitVec 16}
    {d : TxData} (h : es.readDescInit mac t i = .ok d) : es.Readable t := by
  by_cases ht : t = .entity ∨ t = .configuration
  · rcases ht with ht | ht
    · exact .inl ht
    · exact .inr (.inl ht)
  · refine .inr (.inr fun he => ?_)
    rw [readDescInit, sendReadDescCmdWithFlag_of_empty he ht] at h
    cases h

theorem readDescInit_backgroundRead {es : EndStation} {mac : Mac} {t : DescType} {i : BitVec 16}
    {d : TxData} (h : es.readDescInit mac t i = .ok d) : d.BackgroundRead := by
  obtain ⟨d', hd', hb⟩ := readDescInit_of_readable (readable_of_readDescInit h) mac i
  rw [h] at hd'
  cases hd'
  exact hb

def batch (b : BackgroundReadRequest) (rest : List BackgroundReadRequest) :
    List BackgroundReadRequest :=
  b :: rest.takeWhile fun r => r.type == b.type

def submitted (now : Timestamp) (es : EndStation) (b : BackgroundReadRequest)
    (rest : List BackgroundReadRequest) : EndStation :=
  { es with
    backgroundReadPending := rest.dropWhile fun r => r.type == b.type
    backgroundReadInflight :=
      (batch b rest).map fun r => { r with timer := .start now backgroundReadTimeoutMs }
    issued := es.issued ++ (batch b rest).map fun r => (r, es.generation) }

/-- What one call of `background_read_submit_pending` can do. -/
inductive Submit (now : Timestamp) (es : EndStation) : EndStation → List TxData → Prop where
  | idle (h : es.backgroundReadInflight ≠ [] ∨ es.backgroundReadPending = []) :
      Submit now es es []
  | sent {b : BackgroundReadRequest} {rest : List BackgroundReadRequest} {tx : List TxData}
      (hi : es.backgroundReadInflight = []) (hp : es.backgroundReadPending = b :: rest)
      (hr : es.Readable b.type) (ht : ∀ d ∈ tx, d.BackgroundRead) :
      Submit now es (submitted now es b rest) tx

theorem batch_type {b r : BackgroundReadRequest} {rest : List BackgroundReadRequest}
    (h : r ∈ batch b rest) : r.type = b.type := by
  rcases List.mem_cons.1 h with rfl | h
  · rfl
  · have hb := List.mem_takeWhile_imp (p := fun r : BackgroundReadRequest => r.type == b.type) h
    exact eq_of_beq hb

theorem batch_append (b : BackgroundReadRequest) (rest : List BackgroundReadRequest) :
    batch b rest ++ (rest.dropWhile fun r => r.type == b.type) = b :: rest := by
  rw [batch, List.cons_append, List.takeWhile_append_dropWhile]

theorem backgroundReadSubmitPending_submit {es es' : EndStation} {mac : Mac} {now : Timestamp}
    {tx : List TxData} (h : es.backgroundReadSubmitPending mac now = .ok (es', tx)) :
    Submit now es es' tx := by
  cases hi : es.backgroundReadInflight with
  | cons r l =>
    simp only [backgroundReadSubmitPending, hi] at h
    cases h
    exact .idle (.inl (by rw [hi]; exact List.cons_ne_nil r l))
  | nil =>
    cases hp : es.backgroundReadPending with
    | nil =>
      simp only [backgroundReadSubmitPending, hi, hp] at h
      cases h
      exact .idle (.inr hp)
    | cons b rest =>
      simp only [backgroundReadSubmitPending, hi, hp] at h
      obtain ⟨tx', htx, h⟩ := bind_eq_ok.1 h
      cases h
      obtain ⟨d, hd⟩ := mapM_cons_ok htx
      refine .sent hi hp (readable_of_readDescInit hd) ?_
      intro d hd
      obtain ⟨r, -, hr⟩ := exists_of_mem_mapM htx hd
      exact readDescInit_backgroundRead hr

theorem timeTick_submit {es es' : EndStation} {mac : Mac} {now : Timestamp} {tx : List TxData}
    (h : es.timeTick mac now = .ok (es', tx)) :
    Submit now (es.backgroundReadUpdateTimeouts now) es' tx :=
  backgroundReadSubmitPending_submit h

theorem rcvdDescriptor_submit {es es' : EndStation} {mac : Mac} {now : Timestamp}
    {status : BitVec 5} {d : AemDesc} {tx : List TxData} {posts : List Notification}
    (h : es.rcvdDescriptor mac now status d = .ok (es', tx, posts)) :
    ∃ es₁, es.storeAndDeduce status d = .ok es₁ ∧
      Submit now (es₁.backgroundReadUpdateInflight d) es' tx ∧
      posts = if es'.readCompleted then [es'.endStationReadCompleted] else [] := by
  obtain ⟨es₁, h₁, h⟩ := bind_eq_ok.1 h
  obtain ⟨⟨es₂, tx₂⟩, h₂, h⟩ := bind_eq_ok.1 h
  cases h
  exact ⟨es₁, h₁, backgroundReadSubmitPending_submit h₂, rfl⟩

theorem Submit.backgroundRead {es es' : EndStation} {now : Timestamp} {tx : List TxData}
    (h : Submit now es es' tx) : ∀ d ∈ tx, d.BackgroundRead := by
  cases h with
  | idle =>
    intro d hd
    cases hd
  | sent _ _ _ ht => exact ht

theorem Submit.readCompleted_iff {es es' : EndStation} {now : Timestamp} {tx : List TxData}
    (h : Submit now es es' tx) : es'.readCompleted = true ↔
      es.hasConfig = true ∧ es.backgroundReadInflight = [] ∧ es.backgroundReadPending = [] := by
  cases h with
  | idle =>
    simp only [readCompleted, Bool.and_eq_true, List.isEmpty_iff, and_assoc]
  | sent hi hp =>
    rename_i b rest _ _
    have hne : (submitted now es b rest).backgroundReadInflight ≠ [] := List.cons_ne_nil _ _
    constructor
    · intro hc
      simp only [readCompleted, Bool.and_eq_true, List.isEmpty_iff] at hc
      exact absurd hc.1.2 hne
    · rintro ⟨-, -, hp'⟩
      rw [hp] at hp'
      cases hp'

/-- `es'` differs from `es` in its descriptors only. -/
structure SameWork (es es' : EndStation) : Prop where
  entityId : es'.entityId = es.entityId
  mac : es'.mac = es.mac
  connectionStatus : es'.connectionStatus = es.connectionStatus
  adp : es'.adp = es.adp
  pending : es'.backgroundReadPending = es.backgroundReadPending
  inflight : es'.backgroundReadInflight = es.backgroundReadInflight
  generation : es'.generation = es.generation
  issued : es'.issued = es.issued

theorem SameWork.refl (es : EndStation) : SameWork es es :=
  ⟨rfl, rfl, rfl, rfl, rfl, rfl, rfl, rfl⟩

theorem storeEntity_sameWork {es es' : EndStation} {d : AemDesc}
    (h : es.storeEntity d = .ok es') : SameWork es es' := by
  rw [storeEntity] at h
  split at h
  · obtain ⟨e, -, h⟩ := bind_eq_ok.1 h
    cases h
    exact ⟨rfl, rfl, rfl, rfl, rfl, rfl, rfl, rfl⟩
  · cases h
    exact .refl es

theorem storeConfiguration_sameWork {es es' : EndStation} {d : AemDesc}
    (h : es.storeConfiguration d = .ok es') : SameWork es es' := by
  obtain ⟨e, -, h⟩ := bind_eq_ok.1 h
  obtain ⟨e', -, h⟩ := bind_eq_ok.1 h
  cases h
  exact ⟨rfl, rfl, rfl, rfl, rfl, rfl, rfl, rfl⟩

theorem storeInConfig_sameWork {es es' : EndStation} {d : AemDesc}
    (h : es.storeInConfig d = .ok es') : SameWork es es' := by
  obtain ⟨cd, -, h⟩ := bind_eq_ok.1 h
  obtain ⟨o, -, h⟩ := bind_eq_ok.1 h
  cases o with
  | none =>
    cases h
    exact .refl es
  | some d' =>
    obtain ⟨e, -, h⟩ := bind_eq_ok.1 h
    cases h
    exact ⟨rfl, rfl, rfl, rfl, rfl, rfl, rfl, rfl⟩

theorem storeDesc_sameWork {es es' : EndStation} {d : AemDesc} (h : es.storeDesc d = .ok es') :
    SameWork es es' := by
  rw [storeDesc] at h
  split at h
  · exact storeEntity_sameWork h
  · exact storeConfiguration_sameWork h
  · cases h
    exact .refl es
  · exact storeInConfig_sameWork h

theorem deref_ok {o : Option α} {a : α} (h : deref o = .ok a) : o = some a := by
  cases o with
  | none => cases h
  | some b =>
    cases h
    rfl

theorem currentEntity_ok {es : EndStation} {e : EntityDescriptor}
    (h : es.currentEntity = .ok e) : ∃ l, es.entityDescVec = e :: l := by
  rw [currentEntity] at h
  cases hv : es.entityDescVec with
  | nil =>
    rw [hv] at h
    cases h
  | cons e' l =>
    rw [hv] at h
    cases h
    exact ⟨l, rfl⟩

theorem storeConfiguration_of_nil {es es' : EndStation} {e : EntityDescriptor} {d : AemDesc}
    (hv : es.entityDescVec = [e]) (hc : e.configDescVec = [])
    (h : es.storeConfiguration d = .ok es') :
    d.descriptorCounts.length ≤ 108 ∧
      es' = { es with entityDescVec := [{ e with configDescVec := [⟨d, fun _ => []⟩] }] } := by
  obtain ⟨e₁, h₁, h⟩ := bind_eq_ok.1 h
  obtain ⟨l, hl⟩ := currentEntity_ok h₁
  rw [hv] at hl
  cases hl
  obtain ⟨e₂, h₂, h⟩ := bind_eq_ok.1 h
  obtain ⟨cd, hcd, h₂⟩ := bind_eq_ok.1 h₂
  cases h₂
  cases h
  rw [ConfigurationDescriptor.new] at hcd
  split at hcd
  · cases hcd
  · next hn =>
    cases hcd
    simp only [Bool.or_eq_true, decide_eq_true_eq, not_or, Nat.not_lt] at hn
    refine ⟨hn.1.2, ?_⟩
    rw [hc, hv]
    rfl

theorem hasConfig_iff {es : EndStation} :
    es.hasConfig = true ↔ ∃ e l, es.entityDescVec = e :: l ∧ e.configDescVec ≠ [] := by
  rw [hasConfig]
  cases es.entityDescVec with
  | nil => simp
  | cons e l => simp [Nat.one_le_iff_ne_zero]

theorem storeEntity_hasConfig {es es' : EndStation} {d : AemDesc}
    (h : es.storeEntity d = .ok es') (hc : es.hasConfig = true) : es'.hasConfig = true := by
  obtain ⟨e, l, hv, hne⟩ := hasConfig_iff.1 hc
  simp only [storeEntity, hv] at h
  cases h
  exact hc

theorem storeConfiguration_hasConfig {es es' : EndStation} {d : AemDesc}
    (h : es.storeConfiguration d = .ok es') : es'.hasConfig = true := by
  obtain ⟨e, -, h⟩ := bind_eq_ok.1 h
  obtain ⟨e', h', h⟩ := bind_eq_ok.1 h
  obtain ⟨cd, -, h'⟩ := bind_eq_ok.1 h'
  cases h'
  cases h
  exact hasConfig_iff.2 ⟨_, _, rfl, List.append_ne_nil_of_right_ne_nil _ (List.cons_ne_nil _ _)⟩

theorem storeInConfig_hasConfig {es es' : EndStation} {d : AemDesc}
    (h : es.storeInConfig d = .ok es') (hc : es.hasConfig = true) : es'.hasConfig = true := by
  obtain ⟨cd, -, h⟩ := bind_eq_ok.1 h
  obtain ⟨o, -, h⟩ := bind_eq_ok.1 h
  cases o with
  | none =>
    cases h
    exact hc
  | some d' =>
    obtain ⟨e, he, h⟩ := bind_eq_ok.1 h
    cases h
    obtain ⟨l, hl⟩ := currentEntity_ok he
    obtain ⟨e', l', hv, hne⟩ := hasConfig_iff.1 hc
    rw [hl] at hv
    cases hv
    refine hasConfig_iff.2 ⟨_, _, rfl, ?_⟩
    intro hnil
    exact hne ((List.set_eq_nil_iff _ _).1 hnil)

theorem storeDesc_hasConfig {es es' : EndStation} {d : AemDesc} (h : es.storeDesc d = .ok es')
    (hc : es.hasConfig = true) : es'.hasConfig = true := by
  rw [storeDesc] at h
  split at h
  · exact storeEntity_hasConfig h hc
  · exact storeConfiguration_hasConfig h
  · cases h
    exact hc
  · exact storeInConfig_hasConfig h hc

theorem storeDescriptor_configuration {es : EndStation} {status : BitVec 5}
    (h : es.storeDescriptor status .configuration = true) :
    ∃ e, es.entityDescVec = [e] ∧ e.configDescVec = [] := by
  simp only [storeDescriptor, Bool.and_eq_true] at h
  obtain ⟨-, h⟩ := h
  split at h
  · next hd => cases hd
  · next e hd hv =>
    exact ⟨e, hv, List.length_eq_zero_iff.1 (eq_of_beq h)⟩
  · cases h
  · next hd => exact absurd rfl hd
  · cases h

/-- A response either is not stored, or it is stored and the reads it calls for are queued. -/
theorem storeAndDeduce_cases {es es' : EndStation} {status : BitVec 5} {d : AemDesc}
    (h : es.storeAndDeduce status d = .ok es') :
    (es.storeDescriptor status d.descriptorType = false ∧ es' = es) ∨
    ∃ es₁ next, es.storeDescriptor status d.descriptorType = true ∧ es.storeDesc d = .ok es₁ ∧
      es₁.backgroundReadDeduceNext es₁.currentConfig d = .ok next ∧
      es' = { es₁ with backgroundReadPending := es₁.backgroundReadPending ++ next } := by
  rw [storeAndDeduce] at h
  cases hs : es.storeDescriptor status d.descriptorType with
  | false =>
    simp only [hs, Bool.false_eq_true, if_false] at h
    cases h
    exact .inl ⟨rfl, rfl⟩
  | true =>
    simp only [hs, if_true] at h
    obtain ⟨es₁, h₁, h⟩ := bind_eq_ok.1 h
    obtain ⟨next, h₂, h⟩ := bind_eq_ok.1 h
    cases h
    exact .inr ⟨es₁, next, rfl, h₁, h₂, rfl⟩

theorem storeAndDeduce_inflight {es es' : EndStation} {status : BitVec 5} {d : AemDesc}
    (h : es.storeAndDeduce status d = .ok es') :
    es'.backgroundReadInflight = es.backgroundReadInflight := by
  rcases storeAndDeduce_cases h with ⟨-, rfl⟩ | ⟨es₁, next, -, h₁, -, rfl⟩
  · rfl
  · exact (storeDesc_sameWork h₁).inflight

def identity (es : EndStation) : EntityId × Adpdu × ConnectionStatus :=
  (es.entityId, es.adp, es.connectionStatus)

theorem new_ok {mac : Mac} {frame : AdpFrame} {es : EndStation} {tx : List TxData}
    (h : EndStation.new mac frame = .ok (es, tx)) :
    (∃ adpdu, frame.adpdu = some adpdu ∧ es.identity = (adpdu.entityId, adpdu, .unset)) ∧
      es.backgroundReadPending = [] ∧ es.backgroundReadInflight = [] ∧ es.issued = [] ∧
      ∀ d ∈ tx, d.BackgroundRead := by
  rw [EndStation.new] at h
  split at h
  · next adpdu _ ha =>
    obtain ⟨d, hd, h⟩ := bind_eq_ok.1 h
    cases h
    refine ⟨⟨adpdu, ha, rfl⟩, rfl, rfl, rfl, ?_⟩
    intro d' hd'
    cases List.mem_singleton.1 hd'
    exact readDescInit_backgroundRead hd
  · cases h

theorem endStationReenumerate_ok {es es' : EndStation} {mac : Mac} {tx : List TxData}
    (h : es.endStationReenumerate mac = .ok (es', tx)) :
    es' = { es with
      entityDescVec := [], generation := es.generation + 1, currentConfigDesc := 0 } ∧
      ∀ d ∈ tx, d.BackgroundRead := by
  obtain ⟨d, hd, h⟩ := bind_eq_ok.1 h
  cases h
  refine ⟨rfl, ?_⟩
  intro d' hd'
  cases List.mem_singleton.1 hd'
  exact readDescInit_backgroundRead hd

theorem Submit.identity_eq {es es' : EndStation} {now : Timestamp} {tx : List TxData}
    (h : Submit now es es' tx) : es'.identity = es.identity := by
  cases h <;> rfl

theorem timeTick_identity {es es' : EndStation} {mac : Mac} {now : Timestamp} {tx : List TxData}
    (h : es.timeTick mac now = .ok (es', tx)) : es'.identity = es.identity :=
  (timeTick_submit h).identity_eq

theorem storeAndDeduce_identity {es es' : EndStation} {status : BitVec 5} {d : AemDesc}
    (h : es.storeAndDeduce status d = .ok es') : es'.identity = es.identity := by
  rcases storeAndDeduce_cases h with ⟨-, rfl⟩ | ⟨es₁, next, -, h₁, -, rfl⟩
  · rfl
  · have hw := storeDesc_sameWork h₁
    simp only [identity, hw.entityId, hw.adp, hw.connectionStatus]

theorem rcvdDescriptor_identity {es es' : EndStation} {mac : Mac} {now : Timestamp}
    {status : BitVec 5} {d : AemDesc} {tx : List TxData} {posts : List Notification}
    (h : es.rcvdDescriptor mac now status d = .ok (es', tx, posts)) :
    es'.identity = es.identity := by
  obtain ⟨es₁, h₁, hs, -⟩ := rcvdDescriptor_submit h
  have hid := storeAndDeduce_identity h₁
  exact hs.identity_eq.trans hid

end EndStation
end AvdeccLib
