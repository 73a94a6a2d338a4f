import AvdeccLib.ResponseHandlers
import AvdeccLib.OperationTable

namespace AvdeccLib
set_option autoImplicit true

open Runs Outcome Engine

namespace EndStation

variable {es : EndStation} {f : AecpFrame}

theorem newDesc_ok_iff (es : EndStation) {d : AemDesc} (ht : d.descriptorType.stored = true) :
    (∃ o, newDesc d = .ok o) ↔ es.Constructible d := by
  have hok : ∀ o : Option AemDesc, ∃ o', (pure o : Except Fault (Option AemDesc)) = .ok o' :=
    fun o => ⟨o, rfl⟩
  rw [newDesc, Constructible]
  cases hr : d.readOk with
  | false =>
    have hleft : ∃ o, (pure none : Except Fault (Option AemDesc)) = .ok o := hok none
    cases hd : d.descriptorType with
    | entity | configuration | other =>
      rw [hd] at ht
      cases ht
    | audioMap | clockDomain => exact iff_of_true hleft fun h => by cases h
    | _ => exact iff_of_true hleft trivial
  | true =>
    cases hd : d.descriptorType with
    | entity | configuration | other =>
      rw [hd] at ht
      cases ht
    | audioMap | clockDomain =>
      cases d.layoutOk with
      | false =>
        refine iff_of_false ?_ fun h => by cases h rfl
        rintro ⟨o, h⟩
        cases h
      | true => exact iff_of_true (hok (some d)) fun _ => rfl
    | _ => exact iff_of_true (hok (some d)) trivial

theorem storeInConfig_ok_iff {cd : ConfigurationDescriptor} {d : AemDesc}
    (hcd : es.currentConfig = some cd) :
    (∃ es', es.storeInConfig d = .ok es') ↔ ∃ o, newDesc d = .ok o := by
  rw [storeInConfig, hcd]
  constructor
  · rintro ⟨es', h⟩
    obtain ⟨cd', -, h⟩ := bind_eq_ok.1 h
    obtain ⟨o, ho, -⟩ := bind_eq_ok.1 h
    exact ⟨o, ho⟩
  · rintro ⟨o, ho⟩
    cases hv : es.entityDescVec with
    | nil =>
      rw [currentConfig, hv] at hcd
      cases hcd
    | cons e v =>
      rw [ho, currentEntity, hv]
      cases o with
      | none => exact ⟨_, rfl⟩
      | some d => exact ⟨_, rfl⟩

theorem configuration_new_ok_iff (d : AemDesc) :
    (∃ cd, ConfigurationDescriptor.new d = .ok cd) ↔
      d.readOk = true ∧ d.descriptorCounts.length ≤ 108 ∧ d.layoutOk = true := by
  rw [ConfigurationDescriptor.new]
  split
  · next hbad =>
    refine iff_of_false ?_ ?_
    · rintro ⟨cd, h⟩
      cases h
    · rintro ⟨hr, hlen, hl⟩
      simp [hr, hl, Nat.not_lt.2 hlen] at hbad
  · next hgood =>
    refine iff_of_true ⟨_, rfl⟩ ?_
    simpa [and_assoc] using hgood

theorem storeDesc_ok_iff {status : BitVec 5} {d : AemDesc}
    (hs : es.storeDescriptor status d.descriptorType = true) (hcan : es.CanStore d) :
    (∃ es', es.storeDesc d = .ok es') ↔ es.Constructible d := by
  cases hd : d.descriptorType.stored with
  | true =>
    obtain ⟨cd, hcd, -⟩ := hcan hd
    rw [storeDesc_of_stored hd, storeInConfig_ok_iff hcd, newDesc_ok_iff es hd]
  | false =>
    rw [storeDesc, Constructible]
    cases ht : d.descriptorType with
    | entity =>
      simp only [storeEntity, EntityDescriptor.new]
      cases hv : es.entityDescVec with
      | nil =>
        cases hr : d.readOk with
        | false =>
          refine iff_of_false ?_ fun h => by cases h rfl
          rintro ⟨es', h⟩
          cases h
        | true => exact iff_of_true ⟨_, rfl⟩ fun _ => rfl
      | cons e v => exact iff_of_true ⟨_, rfl⟩ fun h => by cases h
    | configuration =>
      obtain ⟨e, hv⟩ := storeDescriptor_entity hs (by rw [ht]; decide)
      dsimp only
      rw [← configuration_new_ok_iff, storeConfiguration, currentEntity, hv]
      constructor
      · rintro ⟨es', h⟩
        obtain ⟨e₁, -, h⟩ := bind_eq_ok.1 h
        obtain ⟨e₂, he₂, -⟩ := bind_eq_ok.1 h
        obtain ⟨cd, hcd, -⟩ := bind_eq_ok.1 he₂
        exact ⟨cd, hcd⟩
      · rintro ⟨cd, hcd⟩
        rw [pure_bind, EntityDescriptor.storeConfigDesc, hcd]
        exact ⟨_, rfl⟩
    | other => exact iff_of_true ⟨es, rfl⟩ trivial
    | _ =>
      rw [ht] at hd
      cases hd

theorem not_fails_currentEntity (es : EndStation) :
    ¬ Fails (fun f => ¬ f.Dangling) es.currentEntity := by
  rintro ⟨f, h, hf⟩
  rw [currentEntity] at h
  split at h
  · cases h
  · cases h
    exact hf (.inl rfl)

theorem not_fails_deref (o : Option α) : ¬ Fails (fun f => ¬ f.Dangling) (deref o) := by
  rintro ⟨f, h, hf⟩
  cases o with
  | none =>
    cases h
    exact hf (.inr rfl)
  | some a => cases h

theorem not_fails_submitPending (es : EndStation) (mac : Mac) (now : Timestamp) :
    ¬ Fails (fun f => ¬ f.Dangling) (es.backgroundReadSubmitPending mac now) := by
  rw [backgroundReadSubmitPending]
  split
  · rw [fails_bind]
    rintro (hf | ⟨tx, -, hf⟩)
    · refine not_fails_mapM ?_ hf
      intro b _ hf
      rw [readDescInit, sendReadDescCmdWithFlag] at hf
      split at hf
      · exact not_fails_pure _ hf
      · rw [fails_bind, fails_bind] at hf
        rcases hf with (hf | ⟨e, -, hf⟩) | ⟨c, -, hf⟩
        · exact es.not_fails_currentEntity hf
        · exact not_fails_pure _ hf
        · exact not_fails_pure _ hf
    · exact not_fails_pure _ hf
  · exact not_fails_pure _

theorem not_fails_deduceNext (es : EndStation) (cd : Option ConfigurationDescriptor)
    (d : AemDesc) :
    ¬ Fails (fun f => ¬ f.Dangling) (es.backgroundReadDeduceNext cd d) := by
  have hlookup : ∀ (o : Option AemDesc) (f : AemDesc → List BackgroundReadRequest),
      ¬ Fails (fun f => ¬ f.Dangling) (do let o ← deref o; pure (f o)) := by
    intro o f hf
    rw [fails_bind] at hf
    rcases hf with hf | ⟨a, -, hf⟩
    · exact not_fails_deref o hf
    · exact not_fails_pure _ hf
  unfold backgroundReadDeduceNext
  split
  · exact not_fails_pure _
  · cases cd with
    | none => exact not_fails_pure _
    | some cd =>
      dsimp only
      rw [deduceFromConfig]
      cases d.descriptorType with
      | locale | audioUnit | streamPortInput | streamPortOutput => exact hlookup _ _
      | _ => exact not_fails_pure _

theorem rcvdDescriptor_fails {mac : Mac} {now : Timestamp} {status : BitVec 5} {d : AemDesc}
    (h : Fails (fun f => ¬ f.Dangling) (es.rcvdDescriptor mac now status d)) :
    es.storeDescriptor status d.descriptorType = true ∧ ∃ f, es.storeDesc d = .error f := by
  rw [rcvdDescriptor, fails_bind] at h
  rcases h with h | ⟨es₁, -, h⟩
  · rw [storeAndDeduce] at h
    split at h
    · next hs =>
      refine ⟨hs, ?_⟩
      rw [fails_bind] at h
      rcases h with ⟨f, hf, -⟩ | ⟨es₂, -, h⟩
      · exact ⟨f, hf⟩
      · rw [fails_bind] at h
        rcases h with h | ⟨next, -, h⟩
        · exact absurd h (not_fails_deduceNext es₂ _ d)
        · exact absurd h (not_fails_pure _)
    · exact absurd h (not_fails_pure _)
  · rw [fails_bind] at h
    rcases h with h | ⟨p, -, h⟩
    · exact absurd h (not_fails_submitPending _ mac now)
    · exact absurd h (not_fails_pure _)

theorem rcvdDescriptor_ok_iff (es : EndStation) (mac : Mac) (now : Timestamp)
    (status : BitVec 5)
    (d : AemDesc) : (∃ r, es.rcvdDescriptor mac now status d = .ok r) ↔ es.ReadSafe status d ∧
      (es.storeDescriptor status d.descriptorType = true → es.Constructible d) := by
  have hdangles := dangles_rcvdDescriptor_iff es mac now status d
  have hstore : es.ReadSafe status d → es.storeDescriptor status d.descriptorType = true →
      es.CanStore d := by
    intro hsafe hs
    rwa [ReadSafe, if_pos hs] at hsafe
  constructor
  · rintro ⟨r, hr⟩
    have hsafe : es.ReadSafe status d := by
      by_contra hno
      obtain ⟨f, hf, -⟩ := hdangles.2 hno
      rw [hr] at hf
      cases hf
    refine ⟨hsafe, ?_⟩
    intro hs
    obtain ⟨es₁, h₁, -⟩ := bind_eq_ok.1 hr
    rw [storeAndDeduce, if_pos hs] at h₁
    obtain ⟨es₂, h₂, -⟩ := bind_eq_ok.1 h₁
    exact (storeDesc_ok_iff hs (hstore hsafe hs)).1 ⟨es₂, h₂⟩
  · rintro ⟨hsafe, hcon⟩
    cases hr : es.rcvdDescriptor mac now status d with
    | ok r => exact ⟨r, rfl⟩
    | error f =>
      exfalso
      by_cases hf : f.Dangling
      · exact hdangles.1 ⟨f, hr, hf⟩ hsafe
      · obtain ⟨hs, f', hf'⟩ := rcvdDescriptor_fails ⟨f, hr, hf⟩
        obtain ⟨es', hes'⟩ := (storeDesc_ok_iff hs (hstore hsafe hs)).2 (hcon hs)
        rw [hes'] at hf'
        cases hf'

theorem procRcvdAemRespStates_fulfils (now : Timestamp) (htidy : es.Tidy)
    (hf : f.messageType = .aemResponse) (havail : f.commandType ≠ .controllerAvailable)
    (hs : es.Serves f) (g : Globals) (out : RxOut) (states : ObjectStates) :
    ∃ g' es' out' states',
      es.procRcvdAemRespStates now f g out states = .ok (g', es', out', states') ∧
      g'.inflight = g.completed f ∧ (∀ k, k ≠ f.named → states' k = states k) ∧
      ∀ x, x.key ≠ f.named → (es'.Stores x ↔ es.Stores x) := by
  rw [AecpFrame.named]
  by_cases hread : f.commandType = .readDescriptor
  · rw [Serves, hread] at hs
    obtain ⟨hr, hok⟩ := hs
    have hinflight :=
      updateInflight_completed hf f.uField g { out with status := f.status.toNat }
    obtain ⟨⟨es', tx, posts⟩, hrcvd⟩ :=
      (es.rcvdDescriptor_ok_iff (updateInflight f.messageType f.uField f g
        { out with status := f.status.toNat }).1.macAddr now f.status f.descriptor).2 hok
    rw [procRcvdAemRespStates, if_pos hread, procReadDescResp, hr]
    simp only [Bool.not_true, Bool.false_eq_true, if_false, hrcvd]
    refine ⟨_, es', _, _, rfl, hinflight, ?_, ?_⟩
    · intro k hk
      rw [if_pos hread] at hk
      split
      · exact Function.update_of_ne hk _ _
      · rfl
    · intro x hx
      rw [if_pos hread] at hx
      exact htidy.stores_iff hrcvd hx
  · rw [procRcvdAemRespStates, if_neg hread, if_neg hread]
    obtain ⟨g', out', states', hok, hg, hst⟩ :=
      (settles_aemRespStates htidy hf hread havail).fulfils hs g out states
    refine ⟨g', es, out', states', ?_, hg, hst, fun _ _ => Iff.rfl⟩
    rw [hok]
    rfl

theorem procRcvdAemRespStates_misses (now : Timestamp) (htidy : es.Tidy)
    (hf : f.messageType = .aemResponse) (havail : f.commandType ≠ .controllerAvailable)
    (hs : ¬ es.Serves f) (g : Globals) (out : RxOut) :
    ∃ states, ∀ g' es' out' states',
      es.procRcvdAemRespStates now f g out states = .ok (g', es', out', states') →
      g'.inflight = g.inflight ∨ ∃ k, k ≠ f.named ∧ states' k ≠ states k := by
  by_cases hread : f.commandType = .readDescriptor
  · refine ⟨fun _ => .new f.descriptor, ?_⟩
    intro g' es' out' states' hok
    rw [procRcvdAemRespStates, if_pos hread] at hok
    obtain ⟨⟨g₁, es₁, out₁⟩, h₁, hok⟩ := bind_eq_ok.1 hok
    cases hok
    rw [procReadDescResp] at h₁
    cases hr : f.respReadOk with
    | false =>
      rw [hr] at h₁
      cases h₁
      exact .inl rfl
    | true =>
      simp only [hr, Bool.not_true, Bool.false_eq_true, if_false] at h₁
      obtain ⟨r, hrcvd, -⟩ := bind_eq_ok.1 h₁
      rw [Serves, hread] at hs
      exact absurd ⟨hr, (es.rcvdDescriptor_ok_iff _ now f.status f.descriptor).1 ⟨r, hrcvd⟩⟩ hs
  · obtain ⟨states, hmiss⟩ := (settles_aemRespStates htidy hf hread havail).misses hs g out
    refine ⟨states, ?_⟩
    intro g' es' out' states' hok
    rw [procRcvdAemRespStates, if_neg hread] at hok
    obtain ⟨⟨g₁, out₁, s⟩, h₁, hok⟩ := bind_eq_ok.1 hok
    cases hok
    rw [AecpFrame.named, if_neg hread]
    exact hmiss _ _ _ h₁

end EndStation

namespace Controller

/-- An object as it is stored for the end station at the position. -/
def Stores (c : Controller) (i : Nat) (x : AemDesc) : Prop :=
  ∃ es, c.endStationVec[i]? = some es ∧ es.Stores x

/-- The response takes the command out of the table, and of the objects of all end stations none
changes or is replaced but the one that it names. -/
def Fulfils (now : Timestamp) (c : Controller) (f : AecpFrame) (i : Nat)
    (e : Inflight AecpFrame) : Prop :=
  ∀ states, ∃ c' out states', c.rxAecpStates now f {} states = .ok (c', out, states') ∧
    e ∉ c'.globals.inflight ∧ ∀ j k, (j, k) ≠ (i, f.named) →
      states' j k = states j k ∧ ∀ x, x.key = k → (c'.Stores j x ↔ c.Stores j x)

variable {c : Controller} {f : AecpFrame} {es : EndStation} {i : Nat} {now : Timestamp}
  {states : Nat → ObjectStates}

theorem rxAecpStates_eq (hd : f.destMac = c.globals.macAddr)
    (hfind : c.findInEndStation f.targetEntityId f.controllerEntityId = some (es, i))
    (hf : f.messageType = .aemResponse) (havail : f.commandType ≠ .controllerAvailable) :
    c.rxAecpStates now f {} states = (do
      let (globals, es, out, s) ← es.procRcvdAemRespStates now f c.globals {} (states i)
      pure ({ c with globals, endStationVec := c.endStationVec.set i es },
        { out with isNotificationIdValid := true }, Function.update states i s)) := by
  have hdest : (f.destMac == c.globals.macAddr) = true := beq_iff_eq.2 hd
  rw [rxAecpStates, hdest, hfind]
  exact if_pos ⟨hf, havail⟩

theorem rxAecpStates_controllerAvailable (hd : f.destMac = c.globals.macAddr)
    (hfind : c.findInEndStation f.targetEntityId f.controllerEntityId = some (es, i))
    (hf : f.messageType = .aemResponse) (havail : f.commandType = .controllerAvailable) :
    c.rxAecpStates now f {} states = (do
      let (globals, out) ← procControllerAvailResp f c.globals {}
      pure ({ c with globals }, { out with isNotificationIdValid := true }, states)) := by
  have hdest : (f.destMac == c.globals.macAddr) = true := beq_iff_eq.2 hd
  have hnot : ¬ (f.messageType = .aemResponse ∧ f.commandType ≠ .controllerAvailable) :=
    fun h => h.2 havail
  have hrx : c.rxAecp now f {} = (do
      let (globals, out) ← procControllerAvailResp f c.globals {}
      pure ({ c with globals }, { out with isNotificationIdValid := true })) := by
    rw [rxAecp, hdest, hfind]
    simp only [hf, if_pos havail]
  rw [rxAecpStates, hdest, hfind]
  dsimp only
  rw [if_neg hnot, hrx]
  cases procControllerAvailResp f c.globals {} with
  | error => rfl
  | ok => rfl

theorem stores_set {es' : EndStation} {globals : Globals} (hi : c.endStationVec[i]? = some es)
    {j : Nat} {x : AemDesc} (hx : j = i → (es'.Stores x ↔ es.Stores x)) :
    Stores { c with globals, endStationVec := c.endStationVec.set i es' } j x ↔
      c.Stores j x := by
  obtain ⟨hlt, -⟩ := List.getElem?_eq_some_iff.1 hi
  by_cases hj : j = i
  · subst hj
    simp only [Stores, List.getElem?_set_self hlt, hi, Option.some.injEq, exists_eq_left']
    exact hx rfl
  · simp only [Stores, List.getElem?_set_ne (Ne.symm hj)]

theorem fulfils_controllerAvailable_iff (hd : f.destMac = c.globals.macAddr)
    (hfind : c.findInEndStation f.targetEntityId f.controllerEntityId = some (es, i))
    (hf : f.messageType = .aemResponse) (havail : f.commandType = .controllerAvailable)
    {e : Inflight AecpFrame} (he : e ∈ c.globals.inflight) :
    c.Fulfils now f i e ↔ f.respReadOk = true ∧ e ∉ c.globals.completed f := by
  have hans := answering_procAemResp true
  constructor
  · intro h
    obtain ⟨c', out', states', hok, hout, -⟩ := h fun _ _ => .new f.descriptor
    rw [rxAecpStates_controllerAvailable hd hfind hf havail] at hok
    obtain ⟨⟨g, out⟩, hg, hok⟩ := bind_eq_ok.1 hok
    cases hok
    by_cases hr : f.respReadOk = true
    · obtain ⟨g', out'', hg', hcompleted⟩ := hans.completes f c.globals {} hf hr
      have heq : (g, out) = (g', out'') := Except.ok.inj (hg.symm.trans hg')
      cases heq
      refine ⟨hr, ?_⟩
      rw [← hcompleted]
      exact hout
    · rw [hans.ignores f c.globals {} g out hr hg] at hout
      exact absurd he hout
  · rintro ⟨hr, hout⟩ states
    obtain ⟨g', out', hg', hcompleted⟩ := hans.completes f c.globals {} hf hr
    refine ⟨{ c with globals := g' }, { out' with isNotificationIdValid := true },
      states, ?_, ?_,
      fun _ _ _ => ⟨rfl, fun _ _ => Iff.rfl⟩⟩
    · rw [rxAecpStates_controllerAvailable hd hfind hf havail, procControllerAvailResp, hg']
      rfl
    · rw [← hcompleted] at hout
      exact hout

theorem Fulfils.serves (hes : es.Tidy) (hd : f.destMac = c.globals.macAddr)
    (hfind : c.findInEndStation f.targetEntityId f.controllerEntityId = some (es, i))
    (hf : f.messageType = .aemResponse) (havail : f.commandType ≠ .controllerAvailable)
    {e : Inflight AecpFrame} (he : e ∈ c.globals.inflight) (h : c.Fulfils now f i e) :
    es.Serves f := by
  by_contra hs
  obtain ⟨states, hmiss⟩ := es.procRcvdAemRespStates_misses now hes hf havail hs c.globals {}
  obtain ⟨c', out', states', hok, hout, hother⟩ := h fun _ => states
  rw [rxAecpStates_eq hd hfind hf havail] at hok
  obtain ⟨⟨g', es', out'', s⟩, hok', hok⟩ := bind_eq_ok.1 hok
  cases hok
  rcases hmiss g' es' out'' s hok' with hg | ⟨k, hk, hne⟩
  · apply hout
    show e ∈ g'.inflight
    rw [hg]
    exact he
  · have hsame := (hother i k fun h => hk (Prod.ext_iff.1 h).2).1
    rw [Function.update_self] at hsame
    exact hne hsame

theorem fulfils_iff_of_serves (hes : es.Tidy) (hd : f.destMac = c.globals.macAddr)
    (hfind : c.findInEndStation f.targetEntityId f.controllerEntityId = some (es, i))
    (hf : f.messageType = .aemResponse) (havail : f.commandType ≠ .controllerAvailable)
    (hs : es.Serves f) {e : Inflight AecpFrame} :
    c.Fulfils now f i e ↔ e ∉ c.globals.completed f := by
  have hfulfils := es.procRcvdAemRespStates_fulfils now hes hf havail hs c.globals {}
  constructor
  · intro h
    obtain ⟨c', out', states', hok, hout, -⟩ := h fun _ _ => .new f.descriptor
    obtain ⟨g', es', out'', s, hok', hg, -⟩ := hfulfils fun _ => .new f.descriptor
    rw [rxAecpStates_eq hd hfind hf havail, hok'] at hok
    cases hok
    rw [← hg]
    exact hout
  · intro hout states
    obtain ⟨g', es', out', s, hok, hg, hst, hstores⟩ := hfulfils (states i)
    refine ⟨_, _, _, by rw [rxAecpStates_eq hd hfind hf havail, hok]; rfl, ?_, ?_⟩
    · rw [← hg] at hout
      exact hout
    · intro j k hjk
      have hk : j = i → k ≠ f.named := fun hj hk => hjk (Prod.ext hj hk)
      constructor
      · by_cases hj : j = i
        · subst hj
          rw [Function.update_self]
          exact hst k (hk rfl)
        · rw [Function.update_of_ne hj]
      · intro x hx
        apply stores_set (findInEndStation_some hfind).1
        intro hj
        apply hstores
        rw [hx]
        exact hk hj

theorem fulfils_iff (htidy : c.Tidy) (hnodup : c.globals.inflight.Nodup)
    (hd : f.destMac = c.globals.macAddr)
    (hfind : c.findInEndStation f.targetEntityId f.controllerEntityId = some (es, i))
    (hf : f.messageType = .aemResponse) {e : Inflight AecpFrame} (he : e ∈ c.globals.inflight) :
    c.Fulfils now f i e ↔ es.Serves f ∧
      c.globals.inflight.find? (seqIdComp f.sequenceId) = some e := by
  have hes := htidy es (List.mem_of_getElem? (findInEndStation_some hfind).1)
  rw [← FirstMatch.not_mem_eraseP_iff hnodup he]
  by_cases havail : f.commandType = .controllerAvailable
  · have hserves : es.Serves f ↔ f.respReadOk = true := by rw [EndStation.Serves, havail]
    rw [hserves]
    exact fulfils_controllerAvailable_iff hd hfind hf havail he
  · constructor
    · intro h
      have hs := h.serves hes hd hfind hf havail he
      exact ⟨hs, (fulfils_iff_of_serves hes hd hfind hf havail hs).1 h⟩
    · rintro ⟨hs, hout⟩
      exact (fulfils_iff_of_serves hes hd hfind hf havail hs).2 hout

end Controller

namespace System

/-- A response completes its command and changes the object that it names and no other exactly
if it is one that the station serves and no earlier command has its sequence id. -/
theorem response_fulfils_iff {mac : Mac} {notifyId : Ptr}
    {completionStatus respStatusForCmd : Int} {tr : List (System × Action)} {s : System}
    {now : Timestamp} {f : AecpFrame} {es : EndStation} {i : Nat} {e : Inflight AecpFrame}
    (h : Run Step (.new mac notifyId completionStatus respStatusForCmd) tr s)
    (hd : f.destMac = s.controller.globals.macAddr)
    (hfind : s.controller.findInEndStation f.targetEntityId f.controllerEntityId = some (es, i))
    (hf : f.messageType = .aemResponse) (he : e ∈ s.aecpInflight) :
    s.controller.Fulfils now f i e ↔ es.Serves f ∧
      s.aecpInflight.find? (fun j => j.cmdSeqId == f.sequenceId) = some e :=
  Controller.fulfils_iff (tidy h) (aecpInflight_nodup h) hd hfind hf he

def streamInputConfiguration : AemDesc :=
  { descriptorType := .configuration
    descriptorIndex := 0
    descriptorCounts := [(.streamInput, 3)] }

def streamInput (descriptorIndex : BitVec 16) : AemDesc :=
  { descriptorType := .streamInput, descriptorIndex }

def setStreamFormatCommand : AecpFrame :=
  { messageType := .aemCommand
    targetEntityId := 3
    controllerEntityId := getControllerEntityId 1
    commandType := .setStreamFormat
    descriptorType := .streamInput
    descriptorIndex := 1
    streamFormat := 7 }

/-- The answer to the sixth command. -/
def setStreamFormatResponse : AecpFrame :=
  { setStreamFormatCommand with destMac := 1, messageType := .aemResponse, sequenceId := 5 }

/-- An end station with three STREAM_INPUT descriptors is read, as far as the responses come in,
and SET_STREAM_FORMAT is sent to the second. -/
def setStreamFormat (responses : List Action) : List Action :=
  readEntity ++ [
    readResponse 0 { descriptorType := .entity, descriptorIndex := 0 }, .fnTx 0,
    readResponse 1 streamInputConfiguration, .fnTx 0, .fnTx 0, .fnTx 0] ++ responses ++
    [.writePipe ⟨5, .cmdWithNotification, .aecp setStreamFormatCommand⟩, .testWait, .fnTx 0]

/-- The station and the command that the response is for, with a test on them. -/
def answering (p : EndStation → System → Bool) (s : System) : Bool :=
  match s.controller.findInEndStation 3 (getControllerEntityId 1),
      s.aecpInflight.find? (fun j => j.cmdSeqId == 5) with
  | some (es, 0), some e =>
    e.cmdFrame == { setStreamFormatCommand with sequenceId := 5 } &&
      s.controller.globals.macAddr == 1 && p es s
  | _, _ => false

theorem exists_answering {p : EndStation → System → Bool} {responses : List Action}
    (h : trial exec (fun _ _ => true) (answering p) (.new 1 0 0 0) (setStreamFormat responses) =
      true) :
    ∃ tr s es e, Run Step (.new 1 0 0 0) tr s ∧
      setStreamFormatResponse.destMac = s.controller.globals.macAddr ∧
      s.controller.findInEndStation setStreamFormatResponse.targetEntityId
        setStreamFormatResponse.controllerEntityId = some (es, 0) ∧
      s.aecpInflight.find? (fun j => j.cmdSeqId == setStreamFormatResponse.sequenceId) =
        some e ∧
      e.cmdFrame = { setStreamFormatCommand with sequenceId := 5 } ∧ p es s = true := by
  obtain ⟨tr, s, hrun, -, hs⟩ := exists_run_of_trial (f := exec) (fun _ _ _ h => exec_step h) h
  rw [answering] at hs
  split at hs
  · next es e hfind hfirst =>
    simp only [Bool.and_eq_true, beq_iff_eq, and_assoc] at hs
    exact ⟨tr, s, es, e, hrun, hs.2.1.symm, hfind, hfirst, hs.1, hs.2.2⟩
  · cases hs

/-- The first two are read, so that the second is in place. -/
theorem response_fulfils_in_place :
    ∃ (s : System) (e : Inflight AecpFrame), e ∈ s.aecpInflight ∧
      s.controller.Fulfils 0 setStreamFormatResponse 0 e := by
  have htrial : trial exec (fun _ _ => true)
      (answering fun es _ => (es.objects .streamInput) == [streamInput 0, streamInput 1])
      (.new 1 0 0 0)
      (setStreamFormat [readResponse 2 (streamInput 0), readResponse 3 (streamInput 1)]) =
        true := by
    decide
  obtain ⟨tr, s, es, e, hrun, hd, hfind, hfirst, -, hobjects⟩ := exists_answering htrial
  have he := List.mem_of_find?_eq_some hfirst
  have hserves : es.Serves setStreamFormatResponse := by
    refine ⟨rfl, by decide, ?_⟩
    intro j hj
    rw [show es.objects setStreamFormatResponse.descriptorType = _ from eq_of_beq hobjects]
    have hj : j ≤ 1#16 := hj
    have hj : j = 0 ∨ j = 1 := by bv_omega
    rcases hj with rfl | rfl
    · exact ⟨streamInput 0, List.mem_cons_self, rfl⟩
    · exact ⟨streamInput 1, List.mem_cons_of_mem _ List.mem_cons_self, rfl⟩
  exact ⟨s, e, he, (response_fulfils_iff hrun hd hfind rfl he).2 ⟨hserves, hfirst⟩⟩

/-- The first is never read. The second is at its position, and the third changes. -/
theorem setStreamFormat_other_object :
    ¬ ∀ mac notifyId completionStatus respStatusForCmd tr s now f es i e,
      Run Step (.new mac notifyId completionStatus respStatusForCmd) tr s →
        f.destMac = s.controller.globals.macAddr →
        s.controller.findInEndStation f.targetEntityId f.controllerEntityId = some (es, i) →
        Solicited f e.cmdFrame → f.descriptorType = e.cmdFrame.descriptorType →
        f.descriptorIndex = e.cmdFrame.descriptorIndex → e ∈ s.aecpInflight →
        s.controller.Fulfils now f i e := by
  intro hall
  have htrial : trial exec (fun _ _ => true)
      (answering fun _ s =>
        match s.controller.rxAecpStates 0 setStreamFormatResponse {} fun _ _ =>
          .new (streamInput 0) with
        | .ok (_, _, states) => (states 0 (.streamInput, 2)).currentFormat == 7
        | .error _ => false)
      (.new 1 0 0 0)
      (setStreamFormat [readResponse 3 (streamInput 1), readResponse 4 (streamInput 2)]) =
        true := by
    decide
  obtain ⟨tr, s, es, e, hrun, hd, hfind, hfirst, hcmd, hstates⟩ := exists_answering htrial
  have he := List.mem_of_find?_eq_some hfirst
  have hsolicited : Solicited setStreamFormatResponse e.cmdFrame := by
    rw [hcmd]
    exact ⟨rfl, rfl, rfl, rfl, rfl⟩
  have htype : setStreamFormatResponse.descriptorType =
    e.cmdFrame.descriptorType := by rw [hcmd]; rfl
  have hindex : setStreamFormatResponse.descriptorIndex = e.cmdFrame.descriptorIndex := by
    rw [hcmd]; rfl
  obtain ⟨c', out, states', hok, -, hother⟩ :=
    hall 1 0 0 0 tr s 0 _ es 0 e hrun hd hfind hsolicited htype hindex he
      fun _ _ => .new (streamInput 0)
  rw [hok] at hstates
  have hsame := (hother 0 (.streamInput, 2) (by decide)).1
  simp only [hsame] at hstates
  exact absurd hstates (by decide)

end System
end AvdeccLib
