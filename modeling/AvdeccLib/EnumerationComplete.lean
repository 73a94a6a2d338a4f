import AvdeccLib.Library.Keyed
import AvdeccLib.AemTree

namespace AvdeccLib
set_option autoImplicit true

open Worklist Keyed Runs Outcome

namespace EndStation

def keys (l : List BackgroundReadRequest) : Set Node := { x | ∃ b ∈ l, (b.type, b.index) = x }

def todo (es : EndStation) : Set Node :=
  keys es.backgroundReadPending ∪ keys es.backgroundReadInflight

def queueRange (es : EndStation) (p : DescType × DescRange) : List BackgroundReadRequest :=
  es.queueBackgroundReadRequest p.1 p.2.base p.2.number

@[simp] theorem keys_nil : keys [] = ∅ := by
  ext x
  simp only [keys, List.not_mem_nil, false_and, exists_false, Set.mem_ofPred_eq,
    Set.mem_empty_iff_false]

@[simp] theorem keys_append (l l' : List BackgroundReadRequest) :
    keys (l ++ l') = keys l ∪ keys l' := by
  ext x
  simp only [keys, List.mem_append, or_and_right, exists_or, Set.mem_union, Set.mem_ofPred_eq]

theorem keys_singleton (b : BackgroundReadRequest) : keys [b] = {(b.type, b.index)} := by
  ext x
  simp only [keys, List.mem_singleton, exists_eq_left, Set.mem_ofPred_eq, Set.mem_singleton_iff]
  exact eq_comm

theorem keys_started (t : Timer) (l : List BackgroundReadRequest) :
    keys (l.map fun r => { r with timer := t }) = keys l := by
  ext x
  simp only [keys, List.mem_map, exists_exists_and_eq_and, Set.mem_ofPred_eq]

theorem keys_queue (es : EndStation) (l : List (DescType × DescRange)) :
    keys (l.flatMap es.queueRange) = nodesOf l := by
  ext x
  simp only [keys, nodesOf, Set.mem_ofPred_eq, List.mem_flatMap, queueRange,
    queueBackgroundReadRequest, List.mem_map, List.mem_range, DescRange.indexes]
  constructor
  · rintro ⟨b, ⟨p, hp, k, hk, rfl⟩, rfl⟩
    exact ⟨p, hp, rfl, k, hk, rfl⟩
  · rintro ⟨p, hp, ht, k, hk, hi⟩
    exact ⟨_, ⟨p, hp, k, hk, rfl⟩, Prod.ext ht hi.symm⟩

theorem Submit.todo_eq {es es' : EndStation} {now : Timestamp} {tx : List TxData}
    (h : Submit now es es' tx) : es'.todo = es.todo := by
  cases h with
  | idle => rfl
  | @sent b rest _ hi hp _ _ =>
    have hbatch : keys es.backgroundReadPending = keys (batch b rest) ∪
        keys (rest.dropWhile fun r => r.type == b.type) := by
      rw [← keys_append, batch_append, hp]
    have hsent : keys (submitted now es b rest).backgroundReadInflight = keys (batch b rest) :=
      keys_started _ _
    rw [todo, todo, hbatch, hi, keys_nil, Set.union_empty, hsent, Set.union_comm]
    rfl

theorem Submit.of_pending_nil {es es' : EndStation} {now : Timestamp} {tx : List TxData}
    (h : Submit now es es' tx) (hp : es.backgroundReadPending = []) : es' = es := by
  cases h with
  | idle => rfl
  | sent _ hpend =>
    rw [hp] at hpend
    cases hpend

theorem Submit.sameConfig {es es' : EndStation} {now : Timestamp} {tx : List TxData}
    (h : Submit now es es' tx) : es'.entityDescVec = es.entityDescVec ∧
      es'.currentConfigDesc = es.currentConfigDesc := by
  cases h <;> exact ⟨rfl, rfl⟩

theorem Submit.issued_todo {es es' : EndStation} {now : Timestamp} {tx : List TxData}
    (h : Submit now es es' tx) {p : BackgroundReadRequest × Nat} (hp : p ∈ es'.issued) :
    p ∈ es.issued ∨ (p.1.type, p.1.index) ∈ es.todo := by
  cases h with
  | idle => exact .inl hp
  | @sent b rest _ _ hpend _ _ =>
    rcases List.mem_append.1 hp with hp | hp
    · exact .inl hp
    · obtain ⟨r, hr, rfl⟩ := List.mem_map.1 hp
      have hmem : r ∈ es.backgroundReadPending := by
        rw [hpend, ← batch_append]
        exact List.mem_append_left _ hr
      exact .inr (.inl ⟨r, hmem, rfl⟩)

/-- A response takes nothing off the reads but the one that it answers. -/
theorem updateInflight_todo (es : EndStation) {d : AemDesc} {i : BitVec 16}
    (hi : descIndexFromFrame d = some i) :
    es.todo ⊆ insert (d.descriptorType, i) (es.backgroundReadUpdateInflight d).todo ∧
      (es.backgroundReadUpdateInflight d).todo ⊆ es.todo := by
  constructor
  · rintro x (hx | ⟨b, hb, rfl⟩)
    · exact .inr (.inl hx)
    · by_cases hk : (b.type, b.index) = (d.descriptorType, i)
      · exact .inl hk
      · refine .inr (.inr ⟨b, ?_, rfl⟩)
        apply List.mem_filter.2 ⟨hb, ?_⟩
        rw [hi, Bool.not_eq_true', Bool.and_eq_false_iff, beq_eq_false_iff_ne,
          beq_eq_false_iff_ne]
        by_contra hn
        simp only [not_or, ne_eq, not_not, Option.some.injEq] at hn
        exact hk (Prod.ext hn.1 hn.2.symm)
  · rintro x (hx | ⟨b, hb, rfl⟩)
    · exact .inl hx
    · exact .inr ⟨b, List.mem_of_mem_filter hb, rfl⟩

/-- Behind a response the reads that it calls for are queued. -/
structure Queued (es es' : EndStation) (next : List BackgroundReadRequest) : Prop where
  pending : es'.backgroundReadPending = es.backgroundReadPending ++ next
  inflight : es'.backgroundReadInflight = es.backgroundReadInflight
  issued : es'.issued = es.issued

theorem storeAndDeduce_queued {es es' : EndStation} {status : BitVec 5} {d : AemDesc}
    (hs : es.storeDescriptor status d.descriptorType = true)
    (h : es.storeAndDeduce status d = .ok es') :
    ∃ es₁ next, es.storeDesc d = .ok es₁ ∧
      es₁.backgroundReadDeduceNext es₁.currentConfig d = .ok next ∧ Queued es es' next ∧
      es'.entityDescVec = es₁.entityDescVec ∧
      es'.currentConfigDesc = es₁.currentConfigDesc := by
  rcases storeAndDeduce_cases h with ⟨hno, -⟩ | ⟨es₁, next, -, h₁, hn, rfl⟩
  · rw [hs] at hno
    cases hno
  · have hw := storeDesc_sameWork h₁
    refine ⟨es₁, next, h₁, hn, ⟨?_, hw.inflight, hw.issued⟩, rfl, rfl⟩
    rw [hw.pending]

theorem Queued.todo {es es' : EndStation} {next : List BackgroundReadRequest}
    (h : Queued es es' next) {d : AemDesc} {i : BitVec 16}
    (hi : descIndexFromFrame d = some i) :
    es.todo ⊆ insert (d.descriptorType, i) (es'.backgroundReadUpdateInflight d).todo ∧
      keys next ⊆ (es'.backgroundReadUpdateInflight d).todo ∧
      (es'.backgroundReadUpdateInflight d).todo ⊆ es.todo ∪ keys next := by
  have hall : es'.todo = es.todo ∪ keys next := by
    rw [EndStation.todo, EndStation.todo, h.pending, h.inflight, keys_append,
      Set.union_right_comm]
  obtain ⟨hkeep, hsub⟩ := updateInflight_todo es' hi
  rw [hall] at hkeep hsub
  refine ⟨Set.subset_union_left.trans hkeep, fun y hy => ?_, hsub⟩
  apply Or.inl
  have hpend : (es'.backgroundReadUpdateInflight d).backgroundReadPending =
      es.backgroundReadPending ++ next := h.pending
  rw [hpend, keys_append]
  exact .inr hy

theorem updateTimeouts_of_intime {es : EndStation} {now : Timestamp}
    (h : ∀ b ∈ es.backgroundReadInflight, b.timer.timeout now = false) :
    es.backgroundReadUpdateTimeouts now = es := by
  have hf : (es.backgroundReadInflight.filter fun b => !b.timer.timeout now) =
      es.backgroundReadInflight := by
    apply List.filter_eq_self.2
    intro b hb
    rw [h b hb]
    rfl
  rw [backgroundReadUpdateTimeouts, hf]

theorem currentConfig_of_single {es : EndStation} {e : AemDesc} {cd : ConfigurationDescriptor}
    (hv : es.entityDescVec = [⟨e, [cd]⟩]) (hc : es.currentConfigDesc = 0) :
    es.currentConfig = some cd := by
  rw [currentConfig, hv, hc]
  rfl

theorem newDesc_of_ok {d : AemDesc} (hr : d.readOk = true) (hl : d.layoutOk = true) :
    newDesc d = .ok (some d) := by
  rw [newDesc]
  rw [hr, hl]
  cases d.descriptorType <;> rfl

theorem storeInConfig_of_single {es : EndStation} {e d : AemDesc} {cd : ConfigurationDescriptor}
    (hv : es.entityDescVec = [⟨e, [cd]⟩]) (hc : es.currentConfigDesc = 0)
    (hr : d.readOk = true) (hl : d.layoutOk = true) :
    es.storeInConfig d = .ok { es with entityDescVec := [⟨e, [cd.storeDesc d]⟩] } := by
  have he : es.currentEntity = .ok ⟨e, [cd]⟩ := by
    rw [currentEntity, hv]
    rfl
  rw [storeInConfig]
  rw [currentConfig_of_single hv hc, newDesc_of_ok hr hl, he, hc, hv]
  rfl

theorem storeDesc_of_single {es es' : EndStation} {e d : AemDesc} {cd : ConfigurationDescriptor}
    (hv : es.entityDescVec = [⟨e, [cd]⟩]) (hc : es.currentConfigDesc = 0)
    (ht : d.descriptorType.stored = true) (hr : d.readOk = true) (hl : d.layoutOk = true)
    (h : es.storeDesc d = .ok es') :
    es'.entityDescVec = [⟨e, [cd.storeDesc d]⟩] ∧ es'.currentConfigDesc = 0 := by
  have hs : es.storeDesc d = es.storeInConfig d := by
    rw [storeDesc]
    cases hd : d.descriptorType <;> first | rfl | (rw [hd] at ht; cases ht)
  rw [hs, storeInConfig_of_single hv hc hr hl] at h
  cases h
  exact ⟨rfl, hc⟩

theorem storeDesc_of_empty {es es' : EndStation} {d : AemDesc} (hv : es.entityDescVec = [])
    (hd : d.descriptorType = .entity) (hr : d.readOk = true) (h : es.storeDesc d = .ok es') :
    es'.entityDescVec = [⟨d, []⟩] ∧ es'.currentConfigDesc = d.currentConfiguration := by
  have he : EntityDescriptor.new d = .ok ⟨d, []⟩ := by
    rw [EntityDescriptor.new, hr]
    rfl
  simp only [storeDesc, hd, storeEntity, hv, he] at h
  cases h
  exact ⟨rfl, rfl⟩

theorem deduceNext_of_entity {es : EndStation}
    {cd : Option ConfigurationDescriptor} {d : AemDesc}
    (hd : d.descriptorType = .entity) :
    es.backgroundReadDeduceNext cd d = .ok [⟨.configuration, 0, .new, es.generation⟩] := by
  simp only [backgroundReadDeduceNext]
  rw [if_pos hd]
  rfl

theorem deduceNext_of_single {es : EndStation} {e d : AemDesc} {cd : ConfigurationDescriptor}
    (hv : es.entityDescVec = [⟨e, [cd]⟩]) (hc : es.currentConfigDesc = 0)
    (hd : d.descriptorType ≠ .entity) :
    es.backgroundReadDeduceNext es.currentConfig d = es.deduceFromConfig cd d := by
  simp only [backgroundReadDeduceNext]
  rw [if_neg hd, currentConfig_of_single hv hc]

theorem descIndexFromFrame_of_stored {d : AemDesc} (ht : d.descriptorType.stored = true) :
    descIndexFromFrame d = some d.descriptorIndex := by
  rw [descIndexFromFrame]
  cases hd : d.descriptorType <;> first | rfl | (rw [hd] at ht; cases ht)

end EndStation

/-- The types whose objects `background_read_deduce_next` looks up by the index of the
response. -/
def DescType.byPosition : DescType → Bool
  | .audioUnit | .streamPortInput | .streamPortOutput => true
  | _ => false

def Positioned (vec : List AemDesc) : Prop :=
  ∀ (k : Nat) (n : AemDesc), vec[k]? = some n → n.descriptorIndex.toNat = k

theorem upsert_position {vec : List AemDesc} {d : AemDesc}
    (ho : Only AemDesc.descriptorIndex d vec) (ha : Ascending AemDesc.descriptorIndex vec)
    (hp : Positioned vec) (hle : d.descriptorIndex.toNat ≤ vec.length) :
    Positioned (upsert AemDesc.descriptorIndex d vec) := by
  rcases Nat.lt_or_eq_of_le hle with hlt | hlast
  · have hget := hp _ _ (List.getElem?_eq_getElem hlt)
    have heq := ho _ (List.getElem_mem hlt) (BitVec.eq_of_toNat_eq hget)
    rw [upsert_of_mem ho (heq ▸ List.getElem_mem hlt)]
    exact hp
  · have hall : ∀ n ∈ vec, n.descriptorIndex < d.descriptorIndex := by
      intro n hn
      obtain ⟨k, hk⟩ := List.mem_iff_getElem?.1 hn
      obtain ⟨hlt, -⟩ := List.getElem?_eq_some_iff.1 hk
      rw [BitVec.lt_def, hp k n hk, hlast]
      exact hlt
    rw [upsert_of_last hall ha]
    intro k n hk
    rcases Nat.lt_or_ge k vec.length with hlt | hge
    · rw [List.getElem?_append_left hlt] at hk
      exact hp k n hk
    · rw [List.getElem?_append_right hge, List.getElem?_singleton] at hk
      split at hk
      · next hz =>
        cases hk
        omega
      · cases hk

theorem ConfigurationDescriptor.storeDesc_length (cd : ConfigurationDescriptor) (d : AemDesc) :
    ((cd.storeDesc d).descVec d.descriptorType).length ≤
      (cd.descVec d.descriptorType).length + 1 := by
  simp only [storeDesc, if_true]
  split
  · rw [List.length_append, List.length_singleton]
  · rw [List.length_append, List.length_singleton]
  · exact length_upsert_le

namespace AemTree

/-- The objects of a configuration are descriptors of the tree, in the order of their indexes.
Of the types that are looked up by position none is left out. -/
structure Stored (tree : AemTree) (cd : ConfigurationDescriptor) : Prop where
  objects : ∀ t, ∀ d ∈ cd.descVec t, t.stored = true ∧ ∃ i, d = tree.object t i
  ascending : ∀ t, Ascending AemDesc.descriptorIndex (cd.descVec t)
  position : ∀ t, t.byPosition = true → Positioned (cd.descVec t)

def held (tree : AemTree) (cd : ConfigurationDescriptor) : Set Node :=
  { x | tree.object x.1 x.2 ∈ cd.descVec x.1 }

variable {tree : AemTree} {cd : ConfigurationDescriptor} {t : DescType} {i : BitVec 16}

theorem held_nil (d : AemDesc) : tree.held ⟨d, fun _ => []⟩ = ∅ := by
  ext x
  simp only [held, List.not_mem_nil, Set.mem_ofPred_eq, Set.mem_empty_iff_false]

theorem Stored.only (h : tree.Stored cd) (ht : t.stored = true) :
    Only AemDesc.descriptorIndex (tree.object t i) (cd.descVec t) := by
  intro n hn hk
  obtain ⟨-, j, rfl⟩ := h.objects t n hn
  rw [(tree.object_ok t j ht).2.1, (tree.object_ok t i ht).2.1] at hk
  rw [hk]

theorem Stored.port_upsert (h : tree.Stored cd) (ht : t.stored = true)
    (hp : t.byPosition = true)
    (hnew : ∀ p ∈ cd.descVec t, p.descriptorIndex ≠ i) :
    cd.descVec t ++ [tree.object t i] =
      upsert AemDesc.descriptorIndex (tree.object t i) (cd.descVec t) := by
  have hi := (tree.object_ok t i ht).2.1
  have hge : (cd.descVec t).length ≤ i.toNat := by
    by_contra hlt
    have hlt := Nat.lt_of_not_le hlt
    have hget := h.position t hp _ _ (List.getElem?_eq_getElem hlt)
    exact hnew _ (List.getElem_mem hlt) (BitVec.eq_of_toNat_eq hget)
  symm
  refine upsert_of_last ?_ (h.ascending t)
  intro n hn
  obtain ⟨k, hk⟩ := List.mem_iff_getElem?.1 hn
  obtain ⟨hlt, -⟩ := List.getElem?_eq_some_iff.1 hk
  rw [hi, BitVec.lt_def, h.position t hp k n hk]
  exact Nat.lt_of_lt_of_le hlt hge

theorem Stored.storeDesc_descVec (h : tree.Stored cd) (ht : t.stored = true)
    (hport : t = .streamPortInput ∨ t = .streamPortOutput →
      ∀ p ∈ cd.descVec t, p.descriptorIndex ≠ i) (t' : DescType) :
    (cd.storeDesc (tree.object t i)).descVec t' = if t' = t then
      upsert AemDesc.descriptorIndex (tree.object t i) (cd.descVec t) else cd.descVec t' := by
  have hd := (tree.object_ok t i ht).1
  simp only [ConfigurationDescriptor.storeDesc, hd]
  split
  · split
    · exact h.port_upsert ht rfl (hport (.inl rfl))
    · exact h.port_upsert ht rfl (hport (.inr rfl))
    · rfl
  · rfl

theorem Stored.storeDesc (h : tree.Stored cd) (ht : t.stored = true)
    (hport : t = .streamPortInput ∨ t = .streamPortOutput →
      ∀ p ∈ cd.descVec t, p.descriptorIndex ≠ i)
    (hle : t.byPosition = true → i.toNat ≤ (cd.descVec t).length) :
    tree.Stored (cd.storeDesc (tree.object t i)) ∧
      tree.held (cd.storeDesc (tree.object t i)) = insert (t, i) (tree.held cd) := by
  have hvec := h.storeDesc_descVec ht hport
  have ho : Only AemDesc.descriptorIndex (tree.object t i) (cd.descVec t) := h.only ht
  have hi := (tree.object_ok t i ht).2.1
  refine ⟨⟨?_, ?_, ?_⟩, ?_⟩
  · intro t' d hd
    rw [hvec] at hd
    split at hd
    · next heq =>
      subst heq
      rcases (mem_upsert ho).1 hd with rfl | hd
      · exact ⟨ht, i, rfl⟩
      · exact h.objects _ d hd
    · exact h.objects t' d hd
  · intro t'
    rw [hvec]
    split
    · exact ascending_upsert _ (h.ascending t)
    · exact h.ascending t'
  · intro t' hp
    rw [hvec]
    split
    · next heq =>
      subst heq
      apply upsert_position ho (h.ascending _) (h.position _ hp)
      rw [hi]
      exact hle hp
    · exact h.position t' hp
  · ext ⟨t', j⟩
    simp only [held, Set.mem_ofPred_eq, Set.mem_insert_iff, hvec, Prod.mk.injEq]
    split
    · next heq =>
      subst heq
      rw [mem_upsert ho]
      constructor
      · rintro (hj | hj)
        · have hidx := congrArg AemDesc.descriptorIndex hj
          rw [(tree.object_ok _ j ht).2.1, hi] at hidx
          exact .inl ⟨rfl, hidx⟩
        · exact .inr hj
      · rintro (⟨-, rfl⟩ | hj)
        · exact .inl rfl
        · exact .inr hj
    · next hne =>
      constructor
      · exact .inr
      · rintro (⟨rfl, -⟩ | hj)
        · exact absurd rfl hne
        · exact hj

end AemTree

namespace EndStation

variable {es : EndStation} {cd : ConfigurationDescriptor} {d : AemDesc}
  {next : List BackgroundReadRequest}

theorem deduceFromConfig_byPosition (h : es.deduceFromConfig cd d = .ok next)
    (ht : d.descriptorType.byPosition = true) :
    ∃ z, (cd.descVec d.descriptorType)[d.descriptorIndex.toNat]? = some z ∧
      (z.descriptorType = d.descriptorType → next = z.readRanges.flatMap es.queueRange) := by
  rw [deduceFromConfig] at h
  cases hd : d.descriptorType with
  | audioUnit =>
    simp only [hd, descIndexFromFrame, Option.getD_some] at h
    obtain ⟨aud, haud, h⟩ := bind_eq_ok.1 h
    cases h
    refine ⟨aud, deref_ok haud, fun hz => ?_⟩
    simp only [AemDesc.readRanges, hz, AemDesc.ports, queueRange, List.flatMap_append,
      List.flatMap_cons, List.flatMap_nil, List.append_nil, List.append_assoc]
  | streamPortInput =>
    simp only [hd, descIndexFromFrame, Option.getD_some] at h
    obtain ⟨spid, hspid, h⟩ := bind_eq_ok.1 h
    cases h
    refine ⟨spid, deref_ok hspid, fun hz => ?_⟩
    simp only [AemDesc.readRanges, hz, AemDesc.portRanges, queueRange,
      List.flatMap_cons, List.flatMap_nil, List.append_nil, List.append_assoc]
  | streamPortOutput =>
    simp only [hd, descIndexFromFrame, Option.getD_some] at h
    obtain ⟨spod, hspod, h⟩ := bind_eq_ok.1 h
    cases h
    refine ⟨spod, deref_ok hspod, fun hz => ?_⟩
    simp only [AemDesc.readRanges, hz, AemDesc.portRanges, queueRange,
      List.flatMap_cons, List.flatMap_nil, List.append_nil, List.append_assoc]
  | _ =>
    rw [hd] at ht
    cases ht

theorem deduceFromConfig_locale (h : es.deduceFromConfig cd d = .ok next)
    (ht : d.descriptorType = .locale) :
    ∃ z, (cd.descVec .locale)[0]? = some z ∧
      (z.descriptorType = .locale → next = z.readRanges.flatMap es.queueRange) := by
  simp only [deduceFromConfig, ht] at h
  obtain ⟨l, hl, h⟩ := bind_eq_ok.1 h
  cases h
  refine ⟨l, deref_ok hl, fun hz => ?_⟩
  simp only [AemDesc.readRanges, hz, queueRange, List.flatMap_cons, List.flatMap_nil,
    List.append_nil]

theorem deduceFromConfig_leaf (h : es.deduceFromConfig cd d = .ok next)
    (hs : d.descriptorType.stored = true) (hp : d.descriptorType.byPosition = false)
    (hl : d.descriptorType ≠ .locale) : next = d.readRanges.flatMap es.queueRange := by
  rw [deduceFromConfig] at h
  cases hd : d.descriptorType with
  | configuration | entity | other =>
    rw [hd] at hs
    cases hs
  | audioUnit | streamPortInput | streamPortOutput =>
    rw [hd] at hp
    cases hp
  | locale => exact absurd hd hl
  | _ =>
    simp only [hd] at h
    cases h
    simp only [AemDesc.readRanges, hd, List.flatMap_nil]

theorem deduceFromConfig_counts (h : es.deduceFromConfig cd d = .ok next)
    (hd : d.descriptorType = .configuration) :
    keys next = nodesOf (cd.desc.descriptorCounts.map fun c => (c.1, ⟨0, c.2⟩)) := by
  simp only [deduceFromConfig, hd] at h
  cases h
  rw [← keys_queue es, List.flatMap_map]
  rfl

end EndStation

namespace AemTree
open EndStation

variable {tree : AemTree} {cd : ConfigurationDescriptor} {t : DescType} {i : BitVec 16}

theorem mustRead_subset (tree : AemTree) (x : Node) : tree.mustRead x ⊆ tree.mayRead x := by
  rw [mustRead]
  split
  · exact Set.empty_subset _
  · exact Set.Subset.rfl

/-- Behind the store of a descriptor the library queues what some stored descriptor has it read,
and that is all it must read for the one that came in. -/
theorem Stored.deduced (h : tree.Stored cd) (hmem : (t, i) ∈ tree.held cd) {es : EndStation}
    {next : List BackgroundReadRequest}
    (hn : es.deduceFromConfig cd (tree.object t i) = .ok next) :
    ∃ z ∈ tree.held cd, keys next = tree.mayRead z ∧ tree.mustRead (t, i) ⊆ tree.mayRead z := by
  have ht := (h.objects t _ hmem).1
  obtain ⟨hd, hi, -, -⟩ := tree.object_ok t i ht
  cases hp : t.byPosition with
  | true =>
    obtain ⟨z, hz, hnext⟩ := deduceFromConfig_byPosition hn (by rw [hd]; exact hp)
    rw [hd, hi] at hz
    have hidx := BitVec.eq_of_toNat_eq (h.position t hp _ _ hz)
    obtain ⟨-, j, rfl⟩ := h.objects t z (List.mem_of_getElem? hz)
    obtain ⟨hdj, hij, -, -⟩ := tree.object_ok t j ht
    rw [hij] at hidx
    subst hidx
    rw [hnext (hdj.trans hd.symm), keys_queue]
    exact ⟨(t, j), hmem, rfl, mustRead_subset tree _⟩
  | false =>
    by_cases hl : t = .locale
    · subst hl
      obtain ⟨z, hz, hnext⟩ := deduceFromConfig_locale hn hd
      have hzmem := List.mem_of_getElem? hz
      obtain ⟨-, j, rfl⟩ := h.objects .locale z hzmem
      obtain ⟨hdj, hij, -, -⟩ := tree.object_ok .locale j ht
      rw [hnext hdj, keys_queue]
      refine ⟨(.locale, j), hzmem, rfl, ?_⟩
      by_cases hi0 : i = 0
      · subst hi0
        have hfirst : (cd.descVec .locale)[0]? = some (tree.object .locale 0) := by
          refine (h.ascending .locale).head_of_least hmem fun x _ => ?_
          rw [hi, BitVec.le_def]
          exact Nat.zero_le _
        rw [hfirst, Option.some.injEq] at hz
        have hidx := congrArg AemDesc.descriptorIndex hz
        rw [hi, hij] at hidx
        subst hidx
        exact mustRead_subset tree _
      · rw [mustRead, if_pos ⟨rfl, hi0⟩]
        exact Set.empty_subset _
    · have hnext := deduceFromConfig_leaf hn (by rw [hd]; exact ht) (by rw [hd]; exact hp)
        (by rw [hd]; exact hl)
      rw [hnext, keys_queue]
      exact ⟨(t, i), hmem, rfl, mustRead_subset tree _⟩

theorem ranges_stored (d : AemDesc) :
    (∀ p ∈ d.ranges, p.1.stored = true) ∧ ∀ p ∈ d.readRanges, p.1.stored = true := by
  unfold AemDesc.ranges AemDesc.readRanges
  cases d.descriptorType <;> simp [AemDesc.ports, AemDesc.portRanges, DescType.stored]

theorem reach_stored {next : Node → Set Node} {x : Node}
    (hnext : ∀ x, ∀ y ∈ next x, y.1.stored = true) (hx : Reach tree.roots next x) :
    x.1.stored = true := by
  cases hx with
  | root hr =>
    obtain ⟨p, hp, hx, -⟩ := hr
    obtain ⟨c, hc, rfl⟩ := List.mem_map.1 hp
    rw [← hx]
    exact tree.counts_stored _ c hc
  | next _ hy => exact hnext _ _ hy

theorem mayRead_stored {x y : Node} (hy : y ∈ tree.mayRead x) : y.1.stored = true := by
  obtain ⟨p, hp, hy, -⟩ := hy
  rw [← hy]
  exact (ranges_stored _).2 p hp

theorem names_stored {x y : Node} (hy : y ∈ tree.names x) : y.1.stored = true := by
  obtain ⟨p, hp, hy, -⟩ := hy
  rw [← hy]
  exact (ranges_stored _).1 p hp

structure Fresh (es : EndStation) : Prop where
  entity : es.entityDescVec = []
  pending : es.backgroundReadPending = []
  inflight : es.backgroundReadInflight = []
  issued : es.issued = []

/-- The ENTITY is stored and CONFIGURATION 0 is to be read. -/
structure ConfigurationAsked (tree : AemTree) (es : EndStation) : Prop where
  entity : es.entityDescVec = [⟨tree.entity, []⟩]
  current : es.currentConfigDesc = 0
  pending : es.backgroundReadPending = []
  todo : keys es.backgroundReadInflight = {(.configuration, 0)}
  issued : ∀ p ∈ es.issued, (p.1.type, p.1.index) = (.configuration, 0)

/-- The configuration is stored: what it holds and what is still to be read are a search of the
tree. -/
structure Reading (tree : AemTree) (es : EndStation) (cd : ConfigurationDescriptor) : Prop where
  entity : es.entityDescVec = [⟨tree.entity, [cd]⟩]
  current : es.currentConfigDesc = 0
  desc : cd.desc = tree.configuration 0
  stored : tree.Stored cd
  search : Search tree.roots tree.mustRead tree.mayRead (tree.held cd) es.todo
  issued : ∀ p ∈ es.issued, (p.1.type, p.1.index) = (.configuration, 0) ∨
    (p.1.type, p.1.index) ∈ tree.held cd ∪ es.todo

theorem Reading.submit {es es' : EndStation} {now : Timestamp} {tx : List TxData}
    (h : Reading tree es cd) (hs : Submit now es es' tx) : Reading tree es' cd := by
  obtain ⟨hv, hc⟩ := hs.sameConfig
  have ht := hs.todo_eq
  refine ⟨hv.trans h.entity, hc.trans h.current, h.desc, h.stored, ?_, ?_⟩
  · rw [ht]
    exact h.search
  · intro p hp
    rw [ht]
    rcases hs.issued_todo hp with hp | hp
    · exact h.issued p hp
    · exact .inr (.inr hp)

theorem storeDescriptor_of_stored {es : EndStation} {e : EntityDescriptor}
    (hv : es.entityDescVec = [e]) (he : e.configDescVec ≠ []) (ht : t.stored = true) :
    es.storeDescriptor 0 t = true := by
  have hlen : 1 ≤ e.configDescVec.length := List.length_pos_iff.2 he
  simp only [storeDescriptor]
  rw [hv]
  cases t with
  | entity | configuration | other => cases ht
  | _ => simpa using hlen

theorem Reading.rcvdObject {es es₁ : EndStation} (h : Reading tree es cd)
    (hx : (t, i) ∈ tree.held cd ∪ es.todo)
    (hport : t = .streamPortInput ∨ t = .streamPortOutput →
      ∀ p ∈ cd.descVec t, p.descriptorIndex ≠ i)
    (h₁ : es.storeAndDeduce 0 (tree.object t i) = .ok es₁) :
    Reading tree (es₁.backgroundReadUpdateInflight (tree.object t i))
      (cd.storeDesc (tree.object t i)) := by
  have ht : t.stored = true := reach_stored (fun _ _ => mayRead_stored) (h.search.sound hx)
  obtain ⟨hd, hi, hr, hl⟩ := tree.object_ok t i ht
  have hdt : (tree.object t i).descriptorType.stored = true := by rw [hd]; exact ht
  have hstore := storeDescriptor_of_stored h.entity (List.cons_ne_nil _ _) hdt
  obtain ⟨es₂, next, h₂, hn, hq, hv, hc⟩ := storeAndDeduce_queued hstore h₁
  obtain ⟨hv₂, hc₂⟩ := storeDesc_of_single h.entity h.current hdt hr hl h₂
  have hne : (tree.object t i).descriptorType ≠ .entity := by
    intro he
    rw [he] at hdt
    cases hdt
  rw [deduceNext_of_single hv₂ hc₂ hne] at hn
  have hle : t.byPosition = true → i.toNat ≤ (cd.descVec t).length := by
    intro hp
    obtain ⟨z, hz, -⟩ := deduceFromConfig_byPosition hn (by rw [hd]; exact hp)
    have hlen := cd.storeDesc_length (tree.object t i)
    rw [hd, hi] at hz
    rw [hd] at hlen
    obtain ⟨hlt, -⟩ := List.getElem?_eq_some_iff.1 hz
    omega
  obtain ⟨hstored, hheld⟩ := h.stored.storeDesc ht hport hle
  have hmem : (t, i) ∈ tree.held (cd.storeDesc (tree.object t i)) := by
    rw [hheld]
    exact Set.mem_insert _ _
  obtain ⟨z, hz, hkeys, hmust⟩ := hstored.deduced hmem hn
  rw [← hkeys] at hmust
  rw [hheld] at hz
  obtain ⟨hkeep, hnew, hadd⟩ := hq.todo (descIndexFromFrame_of_stored hdt)
  rw [hd, hi] at hkeep
  have hsearch := h.search.step hx hmust (fun y hy => ⟨z, hz, hkeys ▸ hy⟩)
    (hkeep.trans (Set.insert_subset_insert Set.subset_union_right)) hnew hadd
  rw [← hheld] at hsearch
  refine ⟨hv.trans hv₂, hc.trans hc₂, h.desc, hstored, hsearch, ?_⟩
  intro p hp
  have hp : p ∈ es.issued := hq.issued ▸ hp
  rcases h.issued p hp with hp | hp | hp
  · exact .inl hp
  · rw [hheld]
    exact .inr (.inl (.inr hp))
  · rw [hheld]
    rcases hkeep hp with hp | hp
    · exact .inr (.inl (.inl hp))
    · exact .inr (.inr hp)

theorem Reading.rcvdConfiguration {es es₁ : EndStation} (h : Reading tree es cd)
    (h₁ : es.storeAndDeduce 0 (tree.configuration 0) = .ok es₁) :
    Reading tree (es₁.backgroundReadUpdateInflight (tree.configuration 0)) cd := by
  obtain ⟨hd, hi, -, -, -⟩ := tree.configuration_ok 0
  have hno : es.storeDescriptor 0 (tree.configuration 0).descriptorType = false := by
    simp only [storeDescriptor, hd, h.entity, List.length_singleton]
    rfl
  rcases storeAndDeduce_cases h₁ with ⟨-, heq⟩ | ⟨_, _, hyes, -⟩
  · rw [heq]
    have hidx : descIndexFromFrame (tree.configuration 0) = some 0 := by
      rw [descIndexFromFrame, hd, hi]
    obtain ⟨hkeep, hsub⟩ := updateInflight_todo es hidx
    have htodo : (es.backgroundReadUpdateInflight (tree.configuration 0)).todo = es.todo := by
      refine hsub.antisymm fun x hx => ?_
      rcases hkeep hx with rfl | hx'
      · have hstored := reach_stored (fun _ _ => mayRead_stored) (h.search.sound (.inr hx))
        rw [hd] at hstored
        cases hstored
      · exact hx'
    refine ⟨h.entity, h.current, h.desc, h.stored, ?_, ?_⟩
    · rw [htodo]
      exact h.search
    · rw [htodo]
      exact h.issued
  · rw [hno] at hyes
    cases hyes

theorem Fresh.rcvdEntity {es es₁ es' : EndStation} {now : Timestamp} {tx : List TxData}
    (h : Fresh es) (hcur : tree.entity.currentConfiguration = 0)
    (h₁ : es.storeAndDeduce 0 tree.entity = .ok es₁)
    (hs : Submit now (es₁.backgroundReadUpdateInflight tree.entity) es' tx) :
    ConfigurationAsked tree es' := by
  obtain ⟨hd, hr⟩ := tree.entity_ok
  have hstore : es.storeDescriptor 0 tree.entity.descriptorType = true := by
    rw [hd]
    rfl
  obtain ⟨es₂, next, h₂, hn, hq, hv, hc⟩ := storeAndDeduce_queued hstore h₁
  obtain ⟨hv₂, hc₂⟩ := storeDesc_of_empty h.entity hd hr h₂
  rw [deduceNext_of_entity hd] at hn
  cases hn
  have hp : (es₁.backgroundReadUpdateInflight tree.entity).backgroundReadPending =
      [⟨.configuration, 0, .new, es₂.generation⟩] := by
    have hpend := hq.pending
    rwa [h.pending, List.nil_append] at hpend
  cases hs with
  | idle hor =>
    rw [hp] at hor
    rcases hor with hi | hnil
    · have hnone : es₁.backgroundReadInflight = [] := hq.inflight.trans h.inflight
      rw [backgroundReadUpdateInflight, hnone] at hi
      exact absurd rfl hi
    · cases hnil
  | @sent b rest _ _ hpend _ _ =>
    rw [hp] at hpend
    cases hpend
    refine ⟨hv.trans hv₂, ?_, rfl, ?_, ?_⟩
    · exact (hc.trans hc₂).trans hcur
    · exact (keys_started _ _).trans (keys_singleton _)
    · have hnone : es₁.issued = [] := hq.issued.trans h.issued
      intro p hp
      rcases List.mem_append.1 hp with hp | hp
      · rw [backgroundReadUpdateInflight, hnone] at hp
        cases hp
      · cases List.mem_singleton.1 hp
        rfl

theorem ConfigurationAsked.rcvdConfiguration {es es₁ : EndStation}
    (h : ConfigurationAsked tree es) (hcur : tree.entity.currentConfiguration = 0)
    (h₁ : es.storeAndDeduce 0 (tree.configuration 0) = .ok es₁) :
    Reading tree (es₁.backgroundReadUpdateInflight (tree.configuration 0))
      ⟨tree.configuration 0, fun _ => []⟩ := by
  obtain ⟨hd, hi, -, -, -⟩ := tree.configuration_ok 0
  have hstore : es.storeDescriptor 0 (tree.configuration 0).descriptorType = true := by
    simp only [storeDescriptor, hd, h.entity, List.length_nil]
    rfl
  obtain ⟨es₂, next, h₂, hn, hq, hv, hc⟩ := storeAndDeduce_queued hstore h₁
  have h₂ : es.storeConfiguration (tree.configuration 0) = .ok es₂ := by
    simpa only [storeDesc, hd] using h₂
  obtain ⟨-, heq⟩ := storeConfiguration_of_nil h.entity rfl h₂
  have hv₂ : es₂.entityDescVec = [⟨tree.entity, [⟨tree.configuration 0, fun _ => []⟩]⟩] := by
    rw [heq]
  have hc₂ : es₂.currentConfigDesc = 0 := by
    rw [heq]
    exact h.current
  have hne : (tree.configuration 0).descriptorType ≠ .entity := by
    rw [hd]
    exact DescType.noConfusion
  rw [deduceNext_of_single hv₂ hc₂ hne] at hn
  have hkeys := deduceFromConfig_counts hn hd
  have hnone :
    (es₁.backgroundReadUpdateInflight (tree.configuration 0)).backgroundReadInflight =
      [] := by
    rw [updateInflight_eq_nil, hq.inflight]
    intro b hb
    have hmem : (b.type, b.index) ∈ keys es.backgroundReadInflight := ⟨b, hb, rfl⟩
    rw [h.todo, Set.mem_singleton_iff, Prod.mk.injEq] at hmem
    rw [descIndexFromFrame, hd, hi, hmem.1, hmem.2]
    exact ⟨rfl, rfl⟩
  have hpend : (es₁.backgroundReadUpdateInflight (tree.configuration 0)).backgroundReadPending =
      next := by
    have hpend := hq.pending
    rwa [h.pending, List.nil_append] at hpend
  have htodo : (es₁.backgroundReadUpdateInflight (tree.configuration 0)).todo = tree.roots := by
    rw [EndStation.todo, hnone, hpend, hkeys, keys_nil, Set.union_empty, roots, hcur]
  refine ⟨hv.trans hv₂, hc.trans hc₂, rfl, ⟨?_, ?_, ?_⟩, ?_, ?_⟩
  · intro t d hmem
    cases hmem
  · intro t
    exact List.Pairwise.nil
  · intro t _ k d hk
    cases hk
  · rw [htodo, held_nil]
    exact Search.start
  · intro p hp
    exact .inl (h.issued p (hq.issued ▸ hp))

inductive Phase (tree : AemTree) (es : EndStation) : Prop where
  | fresh (h : Fresh es)
  | configurationAsked (h : ConfigurationAsked tree es)
  | reading (cd : ConfigurationDescriptor) (h : Reading tree es cd)

theorem read_of_stored (tree : AemTree) (i : BitVec 16) (ht : t.stored = true) :
    tree.read t i = tree.object t i := by
  cases t with
  | entity | configuration => cases ht
  | _ => rfl

end AemTree

namespace Enumeration
open EndStation AemTree

variable {tree : AemTree} {mac : Mac}

theorem phase_rcvdDescriptor {s : Enumeration} {now : Timestamp}
    {status : BitVec 5} {d : AemDesc}
    {es' : EndStation} {tx : List TxData} {posts : List Notification}
    (hcur : tree.entity.currentConfiguration = 0) (hp : Phase tree s.station)
    (ha : Answered tree s (.rcvdDescriptor now status d))
    (hport : StreamPortsOnce s (.rcvdDescriptor now status d))
    (h : s.station.rcvdDescriptor mac now status d = .ok (es', tx, posts)) :
    Phase tree es' := by
  obtain ⟨es₁, h₁, hsub, -⟩ := rcvdDescriptor_submit h
  obtain ⟨rfl, t, i, hask, rfl⟩ := ha
  cases hp with
  | fresh hf =>
    rcases hask with ⟨rfl, rfl, -⟩ | ⟨p, hp, -⟩
    · exact .configurationAsked (hf.rcvdEntity hcur h₁ hsub)
    · rw [hf.issued] at hp
      cases hp
  | configurationAsked hc =>
    rcases hask with ⟨-, -, hv⟩ | ⟨p, hp, rfl, rfl⟩
    · rw [hc.entity] at hv
      cases hv
    · have hkey := hc.issued p hp
      rw [Prod.mk.injEq] at hkey
      rw [hkey.1, hkey.2] at h₁ hsub
      exact .reading _ ((hc.rcvdConfiguration hcur h₁).submit hsub)
  | reading cd hr =>
    rcases hask with ⟨-, -, hv⟩ | ⟨p, hp, rfl, rfl⟩
    · rw [hr.entity] at hv
      cases hv
    · rcases hr.issued p hp with hkey | hx
      · rw [Prod.mk.injEq] at hkey
        rw [hkey.1, hkey.2] at h₁ hsub
        exact .reading _ ((hr.rcvdConfiguration h₁).submit hsub)
      · have ht : p.1.type.stored = true :=
          reach_stored (fun _ _ => mayRead_stored) (hr.search.sound hx)
        obtain ⟨hd, hi, -, -⟩ := tree.object_ok p.1.type p.1.index ht
        rw [read_of_stored tree _ ht] at h₁ hsub hport
        refine .reading _ ((hr.rcvdObject hx ?_ h₁).submit hsub)
        intro hty
        have honce :=
          hport (by rw [hd]; exact hty) cd (currentConfig_of_single hr.entity hr.current)
        rwa [hd, hi] at honce

theorem phase_timeTick {s : Enumeration} {now : Timestamp} {es' : EndStation} {tx : List TxData}
    (hp : Phase tree s.station) (ha : Answered tree s (.timeTick now))
    (h : s.station.timeTick mac now = .ok (es', tx)) : Phase tree es' := by
  have hs := timeTick_submit h
  rw [updateTimeouts_of_intime ha] at hs
  cases hp with
  | fresh hf =>
    rw [hs.of_pending_nil hf.pending]
    exact .fresh hf
  | configurationAsked hc =>
    rw [hs.of_pending_nil hc.pending]
    exact .configurationAsked hc
  | reading cd hr => exact .reading cd (hr.submit hs)

theorem phase_step {s s' : Enumeration} {e : StationEvent}
    (hcur : tree.entity.currentConfiguration = 0) (hp : Phase tree s.station)
    (ha : Answered tree s e) (hport : StreamPortsOnce s e) (h : Step mac s e s') :
    Phase tree s'.station := by
  cases e with
  | rcvdDescriptor now status d =>
    obtain ⟨⟨es, tx, posts⟩, hr, hs⟩ := bind_eq_ok.1 h
    cases hs
    exact phase_rcvdDescriptor hcur hp ha hport hr
  | timeTick now =>
    obtain ⟨⟨es, tx⟩, ht, hs⟩ := bind_eq_ok.1 h
    cases hs
    exact phase_timeTick hp ha ht

/-- The enumeration of a new end station has come to its end: its reads were answered, that of
ENTITY as well, and no other is left. -/
structure Enumerated (tree : AemTree) (mac : Mac) (tr : List (Enumeration × StationEvent))
    (s : Enumeration) : Prop where
  run : ∃ frame es tx, EndStation.new mac frame = .ok (es, tx) ∧ Run (Step mac) (start es) tr s
  answered : Along (Answered tree) tr
  entity : s.station.entityDescVec ≠ []
  pending : s.station.backgroundReadPending = []
  inflight : s.station.backgroundReadInflight = []

/-- With CONFIGURATION 0 as the current one and ranges that the library reads as they are named,
the configuration is complete whenever nothing is left to be read. -/
theorem enumeration_complete {tr : List (Enumeration × StationEvent)} {s : Enumeration}
    (h : Enumerated tree mac tr s) (hcur : tree.entity.currentConfiguration = 0)
    (hnamed : tree.ReadsNamed) (hport : Along StreamPortsOnce tr) : tree.HeldBy s.station := by
  obtain ⟨frame, es, tx, hnew, hrun⟩ := h.run
  obtain ⟨-, hp, hi, hiss, -⟩ := new_ok hnew
  have hphase : Phase tree s.station := by
    have hboth : Along (fun s e => Answered tree s e ∧ StreamPortsOnce s e) tr :=
      fun p hp => ⟨h.answered p hp, hport p hp⟩
    apply hrun.invariant_along (I := fun s => Phase tree s.station) hboth
    · exact .fresh ⟨rfl, hp, hi, hiss⟩
    · rintro t e u ht ⟨ha, ho⟩ hst
      exact phase_step hcur ht ha ho hst
  cases hphase with
  | fresh hf => exact absurd hf.entity h.entity
  | configurationAsked hc =>
    have htodo := hc.todo
    rw [h.inflight, keys_nil] at htodo
    exact absurd htodo.symm (Set.singleton_ne_empty _)
  | reading cd hr =>
    have hnone : s.station.todo = ∅ := by
      rw [EndStation.todo, h.pending, h.inflight, keys_nil, Set.union_empty]
    have hsearch := hr.search
    rw [hnone] at hsearch
    obtain ⟨hmust, hmay⟩ := hsearch.finished
    have hheld : tree.held cd = tree.Named :=
      (hmay.trans hnamed.1).antisymm (hnamed.2.trans hmust)
    refine ⟨_, cd, hr.entity, rfl, currentConfig_of_single hr.entity hr.current, ?_, ?_⟩
    · rw [hcur]
      exact hr.desc
    · intro t
      refine ⟨(hr.stored.ascending t).nodup, fun d => ⟨fun hd => ?_, ?_⟩⟩
      · obtain ⟨-, i, rfl⟩ := hr.stored.objects t d hd
        refine ⟨i, ?_, rfl⟩
        rw [← hheld]
        exact hd
      · rintro ⟨i, hi, rfl⟩
        rw [← hheld] at hi
        exact hi

/-- The condition holds of a tree whose AUDIO_UNITs have the same control blocks as controls and
whose STRINGS are those of LOCALE 0, from 0 on. -/
theorem readsNamed_of_same
    (hblocks : ∀ i, (tree.object .audioUnit i).controlBlocks =
      (tree.object .audioUnit i).controls)
    (hbase : (tree.object .locale 0).strings.base = 0)
    (hothers : ∀ i, i ≠ 0 → (tree.object .locale i).strings.number = 0) : tree.ReadsNamed := by
  have hnone : ∀ r : DescRange, r.number = 0 → nodesOf [(.strings, r)] = ∅ := by
    rintro ⟨base, number⟩ rfl
    ext x
    simp [nodesOf, DescRange.indexes]
  have hzero : ∀ r : DescRange, r.base = 0 → (⟨0, r.number⟩ : DescRange) = r := by
    rintro ⟨base, number⟩ rfl
    rfl
  have hsame : ∀ x : Node, x.1.stored = true →
      tree.mayRead x = tree.names x ∧ tree.names x ⊆ tree.mustRead x := by
    rintro ⟨t, i⟩ ht
    have hd := (tree.object_ok t i ht).1
    by_cases hl : t = .locale
    · subst hl
      have hmay : tree.mayRead (.locale, i) =
          nodesOf [(.strings, ⟨0, (tree.object .locale i).strings.number⟩)] := by
        simp only [mayRead, AemDesc.readRanges, hd]
      have hnames : tree.names (.locale, i) =
          nodesOf [(.strings, (tree.object .locale i).strings)] := by
        simp only [names, AemDesc.ranges, hd]
      by_cases hi : i = 0
      · subst hi
        rw [mustRead, if_neg fun h => h.2 rfl, hmay, hnames, hzero _ hbase]
        exact ⟨rfl, Set.Subset.rfl⟩
      · rw [hmay, hnames, hnone ⟨0, _⟩ (hothers i hi), hnone _ (hothers i hi)]
        exact ⟨rfl, Set.empty_subset _⟩
    · have hr : (tree.object t i).readRanges = (tree.object t i).ranges := by
        unfold AemDesc.readRanges AemDesc.ranges
        rw [hd]
        cases t with
        | locale => exact absurd rfl hl
        | audioUnit => rw [hblocks]
        | _ => rfl
      have hmay : tree.mayRead (t, i) = tree.names (t, i) := congrArg nodesOf hr
      rw [mustRead, if_neg fun h => hl h.1, hmay]
      exact ⟨rfl, Set.Subset.rfl⟩
  constructor
  · exact Reach.mono fun x hx =>
      (hsame x (reach_stored (fun _ _ => mayRead_stored) hx)).1.subset
  · exact Reach.mono fun x hx => (hsame x (reach_stored (fun _ _ => names_stored) hx)).2

/-- An AUDIO_UNIT with a stream port of two clusters, a LOCALE with two STRINGS and a
JACK_INPUT, in each of two configurations. -/
def twoConfigurations (current : BitVec 16) (h : current < 2) : AemTree where
  entity := { descriptorType := .entity, descriptorIndex := 0, currentConfiguration := current }
  configurationsCount := 2
  configuration i :=
    { descriptorType := .configuration, descriptorIndex := i
      descriptorCounts := [(.audioUnit, 1), (.locale, 1), (.jackInput, 1)] }
  object t i :=
    { descriptorType := t, descriptorIndex := i
      strings := if t = .locale ∧ i = 0 then ⟨0, 2⟩ else .none
      streamInputPorts := if t = .audioUnit then ⟨0, 1⟩ else .none
      clusters := if t = .streamPortInput then ⟨0, 2⟩ else .none }
  entity_ok := ⟨rfl, rfl⟩
  current_lt := h
  configuration_ok i := ⟨rfl, rfl, rfl, rfl, Nat.le_of_ble_eq_true rfl⟩
  object_ok t i _ := ⟨rfl, rfl, rfl, rfl⟩
  counts_stored i := by simp [DescType.stored]

def advertisement : AdpFrame where
  entityIdBytes := 1
  validTime := 31
  adpdu := some ⟨1, 0, 0, false, false⟩
  adpdu_entityId := by
    intro a h
    cases h
    rfl

/-- The answer is that of the tree, to a read that was sent; an object that is stored is not
answered again. -/
def answersOnce (tree : AemTree) (s : Enumeration) : StationEvent → Bool
  | .rcvdDescriptor _ status d =>
    status == 0 &&
      (s.station.entityDescVec.isEmpty && d == tree.read .entity 0 ||
        s.station.issued.any fun p => d == tree.read p.1.type p.1.index) &&
      match s.station.currentConfig with
      | some cd => (cd.descVec d.descriptorType).all fun p =>
        p.descriptorIndex != d.descriptorIndex
      | none => true
  | .timeTick _ => false

theorem answered_of_answersOnce {s : Enumeration} {e : StationEvent}
    (h : answersOnce tree s e = true) : Answered tree s e ∧ StreamPortsOnce s e := by
  cases e with
  | timeTick now => cases h
  | rcvdDescriptor now status d =>
    simp only [answersOnce, Bool.and_eq_true, Bool.or_eq_true, beq_iff_eq, List.any_eq_true,
      List.isEmpty_iff] at h
    obtain ⟨⟨hs, hask⟩, honce⟩ := h
    refine ⟨⟨hs, ?_⟩, fun _ cd hcd => ?_⟩
    · rcases hask with ⟨hv, hd⟩ | ⟨p, hp, hd⟩
      · exact ⟨.entity, 0, .inl ⟨rfl, rfl, hv⟩, hd⟩
      · exact ⟨p.1.type, p.1.index, .inr ⟨p, hp, rfl, rfl⟩, hd⟩
    · rw [hcd] at honce
      simpa only [List.all_eq_true, bne_iff_ne] using honce

def enumerated (s : Enumeration) : Bool :=
  !s.station.entityDescVec.isEmpty && s.station.backgroundReadPending.isEmpty &&
    s.station.backgroundReadInflight.isEmpty

def answers (tree : AemTree) (l : List Node) : List StationEvent :=
  l.map fun x => .rcvdDescriptor 0 0 (tree.read x.1 x.2)

theorem exists_enumerated {P : Enumeration → Bool} {l : List Node} {es : EndStation}
    {tx : List TxData} (hnew : EndStation.new 0 advertisement = .ok (es, tx))
    (h : trial (handle 0) (answersOnce tree) (fun s => enumerated s && P s) (start es)
      (answers tree l) = true) :
    ∃ tr s, Enumerated tree 0 tr s ∧ Along StreamPortsOnce tr ∧ P s = true := by
  obtain ⟨tr, s, hrun, ha, hend⟩ := exists_run_of_trial (fun _ _ _ h => h) h
  simp only [enumerated, Bool.and_eq_true, Bool.not_eq_true', List.isEmpty_iff,
    List.isEmpty_eq_false_iff] at hend
  obtain ⟨⟨⟨hv, hp⟩, hi⟩, hP⟩ := hend
  refine ⟨tr, s, ⟨⟨_, es, tx, hnew, hrun⟩, ?_, hv, hp, hi⟩, ?_, hP⟩
  · exact fun p hp => (answered_of_answersOnce (ha p hp)).1
  · exact fun p hp => (answered_of_answersOnce (ha p hp)).2

def advertised : EndStation where
  entityId := 1
  mac := 0
  connectionStatus := .unset
  currentConfigDesc := 0
  backgroundReadPending := []
  backgroundReadInflight := []
  adp := ⟨1, 0, 0, false, false⟩
  entityDescVec := []
  generation := 0
  issued := []

theorem enumeration_complete_first : ∃ tr s,
    Enumerated (twoConfigurations 0 (by decide)) 0 tr s ∧
      (twoConfigurations 0 (by decide)).HeldBy s.station := by
  have htrial : trial (handle 0) (answersOnce (twoConfigurations 0 (by decide)))
      (fun s => enumerated s && true) (start advertised)
      (answers (twoConfigurations 0 (by decide)) [(.entity, 0), (.configuration, 0),
        (.audioUnit, 0), (.locale, 0), (.jackInput, 0), (.streamPortInput, 0), (.strings, 1),
        (.strings, 0), (.audioCluster, 1), (.audioCluster, 0)]) = true := by decide
  obtain ⟨tr, s, h, hport, -⟩ := exists_enumerated rfl htrial
  have hnamed : (twoConfigurations 0 (by decide)).ReadsNamed := by
    apply readsNamed_of_same
    · intro i
      rfl
    · rfl
    · intro i hi
      show (if DescType.locale = .locale ∧ i = 0 then (⟨0, 2⟩ : DescRange)
        else .none).number = 0
      rw [if_neg fun h => hi h.2]
      rfl
  exact ⟨tr, s, h, enumeration_complete h rfl hnamed hport⟩

/-- With CONFIGURATION 1 as the current one nothing of it is read. -/
theorem enumeration_not_complete :
    ¬ ∀ tree mac tr s, Enumerated tree mac tr s → tree.HeldBy s.station := by
  intro h
  have htrial : trial (handle 0) (answersOnce (twoConfigurations 1 (by decide)))
      (fun s => enumerated s && s.station.currentConfig.isNone) (start advertised)
      (answers (twoConfigurations 1 (by decide)) [(.entity, 0), (.configuration, 0)]) =
        true := by
    decide
  obtain ⟨tr, s, hend, -, hnone⟩ := exists_enumerated rfl htrial
  obtain ⟨e, cd, -, -, hcd, -⟩ := h _ _ tr s hend
  rw [hcd] at hnone
  cases hnone

end Enumeration
end AvdeccLib
