import AvdeccLib.StoredObjects
import Mathlib.Data.List.Induction

namespace AvdeccLib
set_option autoImplicit true

open Keyed Outcome

/-- The types whose vectors are kept by `add_or_replace_descriptor_and_sort`. -/
def DescType.sorted (t : DescType) : Prop :=
  t.stored = true ∧ t ≠ .streamPortInput ∧ t ≠ .streamPortOutput

instance (t : DescType) : Decidable t.sorted := inferInstanceAs (Decidable (_ ∧ _ ∧ _))

/-- What the call adds to the descriptors of a type: nothing if the constructor throws. -/
def insertStored (t : DescType) (m : BitVec 16 → Option AemDesc) (d : AemDesc) :
    BitVec 16 → Option AemDesc :=
  match newDesc d with
  | .ok (some d) =>
    if d.descriptorType = t then Function.update m d.descriptorIndex (some d) else m
  | _ => m

/-- The descriptors of a type by their indexes, each as the last call stored it. -/
def lastStored (t : DescType) (calls : List AemDesc) : BitVec 16 → Option AemDesc :=
  calls.foldl (insertStored t) fun _ => none

namespace ConfigurationDescriptor

/-- A `store_*_desc`: a constructor that throws leaves the vector as it is. -/
def storeNew (cd : ConfigurationDescriptor) (d : AemDesc) :
    Except Fault ConfigurationDescriptor := do
  match ← newDesc d with
  | none => pure cd
  | some d => pure (cd.storeDesc d)

/-- A `get_*_desc_by_index`, for the `size_t` that it takes. -/
def getDescBySizeT (cd : ConfigurationDescriptor) (t : DescType) (index : BitVec 64) :
    Option AemDesc :=
  if index.toNat < (cd.descVec t).length then (cd.descVec t)[index.toNat]? else none

variable {cd cd₀ : ConfigurationDescriptor} {c d : AemDesc} {t : DescType}
  {calls : List AemDesc}

theorem getDescBySizeT_eq (cd : ConfigurationDescriptor) (t : DescType) (index : BitVec 64) :
    cd.getDescBySizeT t index = (cd.descVec t)[index.toNat]? := by
  rw [getDescBySizeT, ite_eq_left_iff]
  intro h
  exact (List.getElem?_eq_none (Nat.le_of_not_lt h)).symm

theorem getDescByIndex_eq (cd : ConfigurationDescriptor) (t : DescType) (index : BitVec 16) :
    cd.getDescByIndex t index = cd.getDescBySizeT t (index.setWidth 64) := by
  rw [getDescBySizeT_eq, getDescByIndex, BitVec.toNat_setWidth_of_le (by decide)]

theorem represents_storeDesc {m : BitVec 16 → Option AemDesc} (ht : t.sorted)
    (h : Represents AemDesc.descriptorIndex m (cd.descVec t)) :
    Represents AemDesc.descriptorIndex
      (if d.descriptorType = t then Function.update m d.descriptorIndex (some d) else m)
      ((cd.storeDesc d).descVec t) := by
  by_cases hd : d.descriptorType = t
  · subst hd
    rw [if_pos rfl, (storeDesc_sorted ht.2.1 ht.2.2).2]
    exact h.upsert d
  · rw [if_neg hd, storeDesc_descVec_of_ne cd fun ht => hd ht.symm]
    exact h

theorem represents_lastStored (ht : t.sorted) (hnew : new c = .ok cd₀)
    (h : calls.foldlM storeNew cd₀ = .ok cd) :
    Represents AemDesc.descriptorIndex (lastStored t calls) (cd.descVec t) := by
  induction calls using List.reverseRecOn generalizing cd with
  | nil =>
    cases h
    rw [new] at hnew
    split at hnew
    · cases hnew
    · cases hnew
      exact .nil
  | append_singleton calls d ih =>
    rw [List.foldlM_append] at h
    obtain ⟨cd₁, h₁, h⟩ := bind_eq_ok.1 h
    rw [List.foldlM_cons] at h
    obtain ⟨cd₂, h₂, h⟩ := bind_eq_ok.1 h
    cases h
    obtain ⟨o, hd, h₂⟩ := bind_eq_ok.1 h₂
    rw [lastStored, List.foldl_append, List.foldl_cons, List.foldl_nil, insertStored, hd]
    cases o with
    | none =>
      cases h₂
      exact ih h₁
    | some d' =>
      cases h₂
      exact represents_storeDesc ht (ih h₁)

theorem getDescBySizeT_of_gapless {m : BitVec 16 → Option AemDesc} {n : Nat}
    (h : Represents AemDesc.descriptorIndex m (cd.descVec t))
    (hset : ∀ i, (∃ k : BitVec 16, k.toNat = i ∧ (m k).isSome) ↔ i < n) (index : BitVec 64) :
    (index.toNat < n → ∃ d, cd.getDescBySizeT t index = some d ∧
      d.descriptorIndex.toNat = index.toNat) ∧
    (n ≤ index.toNat → cd.getDescBySizeT t index = none) := by
  obtain ⟨hat, hlen⟩ := h.getElem?_of_gapless (fun _ _ => BitVec.lt_def.1)
    (fun _ _ => BitVec.eq_of_toNat_eq) hset
  rw [getDescBySizeT_eq]
  constructor
  · intro hlt
    obtain ⟨k, hk, hm⟩ := (hset index.toNat).2 hlt
    obtain ⟨d, hd⟩ := Option.isSome_iff_exists.1 hm
    rw [← hk, hat k (by omega), hd]
    exact ⟨d, rfl, congrArg BitVec.toNat ((h.mem k d).1 hd).2⟩
  · intro hle
    exact List.getElem?_eq_none (hlen ▸ hle)

/-- A vector that `add_or_replace_descriptor_and_sort` keeps is the map of the calls that stored
something, in the order of the indexes, and looks a descriptor up by its index if no lower one
is missing. -/
theorem descriptor_store (ht : t.sorted) (hnew : new c = .ok cd₀)
    (h : calls.foldlM storeNew cd₀ = .ok cd) :
    Represents AemDesc.descriptorIndex (lastStored t calls) (cd.descVec t) ∧
    (∀ d, newDesc d = .ok none → cd.storeNew d = .ok cd) ∧
    ∀ n, (∀ i, (∃ k : BitVec 16, k.toNat = i ∧ (lastStored t calls k).isSome) ↔ i < n) →
      ∀ index : BitVec 64,
        (index.toNat < n → ∃ d, cd.getDescBySizeT t index = some d ∧
          d.descriptorIndex.toNat = index.toNat) ∧
        (n ≤ index.toNat → cd.getDescBySizeT t index = none) := by
  have hrep := represents_lastStored ht hnew h
  constructor
  · exact hrep
  · constructor
    · intro d hd
      rw [storeNew, hd]
      rfl
    · intro n hset
      exact getDescBySizeT_of_gapless hrep hset

def streamInput (descriptorIndex : BitVec 16) (readOk : Bool) (currentFormat : BitVec 64) :
    AemDesc :=
  { readOk, descriptorType := .streamInput, descriptorIndex, currentFormat }

/-- STREAM_INPUT 1 is stored twice and once before STREAM_INPUT 0, and 7 is not read. -/
def outOfOrder : List AemDesc :=
  [streamInput 1 true 5, streamInput 7 false 5, streamInput 0 true 5, streamInput 1 true 6]

theorem lastStored_outOfOrder : lastStored .streamInput outOfOrder =
    Function.update (Function.update (Function.update (fun _ => none)
      1 (some (streamInput 1 true 5))) 0 (some (streamInput 0 true 5)))
      1 (some (streamInput 1 true 6)) := rfl

def firstConfiguration : ConfigurationDescriptor :=
  ⟨{ descriptorType := .configuration, descriptorIndex := 0 }, fun _ => []⟩

theorem descriptor_store_out_of_order :
    ∃ cd, outOfOrder.foldlM storeNew firstConfiguration = .ok cd ∧
      streamInput 1 true 6 ∈ cd.descVec .streamInput ∧
      (∃ d, cd.getDescBySizeT .streamInput 1 = some d ∧ d.descriptorIndex.toNat = 1) ∧
      cd.getDescBySizeT .streamInput 2 = none := by
  have hset : ∀ i, (∃ k : BitVec 16, k.toNat = i ∧
      (lastStored .streamInput outOfOrder k).isSome) ↔ i < 2 := by
    intro i
    have hk : ∀ k, (lastStored .streamInput outOfOrder k).isSome ↔ k = 1 ∨ k = 0 := by
      intro k
      rw [lastStored_outOfOrder]
      simp only [Function.update_apply]
      split_ifs <;> simp_all
    simp only [hk]
    constructor
    · rintro ⟨k, rfl, rfl | rfl⟩ <;> decide
    · intro hi
      have h01 : i = 1 ∨ i = 0 := by omega
      rcases h01 with rfl | rfl
      · exact ⟨1, rfl, .inl rfl⟩
      · exact ⟨0, rfl, .inr rfl⟩
  have hnew : new firstConfiguration.desc = .ok firstConfiguration := rfl
  have hcalls : outOfOrder.foldlM storeNew firstConfiguration = .ok _ := rfl
  have ht : DescType.streamInput.sorted := by decide
  obtain ⟨hrep, -, hget⟩ := descriptor_store ht hnew hcalls
  obtain ⟨hlt, -⟩ := hget 2 hset 1
  obtain ⟨-, hge⟩ := hget 2 hset 2
  exact ⟨_, hcalls, ((hrep.mem 1 _).1 rfl).1, hlt (by decide), hge (by decide)⟩

end ConfigurationDescriptor

theorem EndStation.storeInConfig_storeNew {es es' : EndStation} {cd : ConfigurationDescriptor}
    {d : AemDesc} (hcd : es.currentConfig = some cd) (h : es.storeInConfig d = .ok es') :
    ∃ cd', cd.storeNew d = .ok cd' ∧ es'.currentConfig = some cd' := by
  have hreceived := (storeInConfig_ok hcd h).1
  refine ⟨cd.received d, ?_, hreceived⟩
  rw [ConfigurationDescriptor.storeNew, ConfigurationDescriptor.received]
  rcases newDesc_cases d with hn | hn
  · rw [storeInConfig, hcd, hn] at h
    cases h
  · rw [hn]
    cases d.readOk <;> rfl

end AvdeccLib
