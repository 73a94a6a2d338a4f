import AvdeccLib.DescriptorStore

namespace AvdeccLib
set_option autoImplicit true

open Keyed Outcome

inductive StringField where
  | string0
  | string1
  | string2
  | string3
  | string4
  | string5
  | string6
  deriving DecidableEq

def StringField.all : List StringField :=
  [.string0, .string1, .string2, .string3, .string4, .string5, .string6]

/-- Where a `uint8_t *` that is returned points to: one of the seven strings of a descriptor. -/
structure StringSlot where
  desc : AemDesc
  field : StringField
  deriving DecidableEq

def StringSlot.value (s : StringSlot) : List (BitVec 8) :=
  match s.field with
  | .string0 => s.desc.localizedStrings.string0
  | .string1 => s.desc.localizedStrings.string1
  | .string2 => s.desc.localizedStrings.string2
  | .string3 => s.desc.localizedStrings.string3
  | .string4 => s.desc.localizedStrings.string4
  | .string5 => s.desc.localizedStrings.string5
  | .string6 => s.desc.localizedStrings.string6

/-- `strings_descriptor_imp::get_string_by_index` -/
def AemDesc.getStringByIndex (d : AemDesc) (stringIndex : BitVec 64) : Option StringSlot :=
  match stringIndex.toNat with
  | 0 => some ⟨d, .string0⟩
  | 1 => some ⟨d, .string1⟩
  | 2 => some ⟨d, .string2⟩
  | 3 => some ⟨d, .string3⟩
  | 4 => some ⟨d, .string4⟩
  | 5 => some ⟨d, .string5⟩
  | 6 => some ⟨d, .string6⟩
  | _ => none

/-- The reference to a string: the index of a STRINGS descriptor and the number of the string in
it. -/
def stringsReference (offset k : Nat) : BitVec 64 :=
  BitVec.ofNat 64 offset <<< 3 ||| BitVec.ofNat 64 k

namespace ConfigurationDescriptor

def getStringsDescByIndex (cd : ConfigurationDescriptor) (stringsDescIndex : BitVec 64) :
    Option AemDesc :=
  cd.getDescBySizeT .strings stringsDescIndex

def getStringsDescStringByReference (cd : ConfigurationDescriptor) (reference : BitVec 64) :
    Option StringSlot :=
  if reference = 0xffff then none
  else
    match cd.getStringsDescByIndex (reference >>> 3) with
    | some desc => desc.getStringByIndex (reference &&& 0x3)
    | none => none

/-- The reference leads to the string that it names, in the descriptor that was stored last
under its index. -/
def Resolves (cd : ConfigurationDescriptor) (calls : List AemDesc) (offset k : Nat) : Prop :=
  ∃ d f, lastStored .strings calls (.ofNat 16 offset) = some d ∧
    d.descriptorIndex.toNat = offset ∧
    StringField.all[k]? = some f ∧
    cd.getStringsDescStringByReference (stringsReference offset k) = some ⟨d, f⟩

end ConfigurationDescriptor

theorem AemDesc.getStringByIndex_eq (d : AemDesc) (i : BitVec 64) :
    d.getStringByIndex i = (StringField.all[i.toNat]?).map fun f => ⟨d, f⟩ := by
  rw [getStringByIndex]
  generalize i.toNat = n
  match n with
  | 0 | 1 | 2 | 3 | 4 | 5 | 6 => rfl
  | n + 7 => rfl

theorem toNat_stringsReference {offset k : Nat} (ho : offset < 65536) (hk : k < 8) :
    (stringsReference offset k).toNat = 8 * offset + k := by
  have hor := Nat.two_pow_add_eq_or_of_lt (i := 3) hk offset
  rw [stringsReference, BitVec.toNat_or, BitVec.toNat_shiftLeft, BitVec.toNat_ofNat,
    BitVec.toNat_ofNat, Nat.shiftLeft_eq, Nat.mod_eq_of_lt (a := offset) (by omega),
    Nat.mod_eq_of_lt (a := k) (by omega), Nat.mod_eq_of_lt (by omega), Nat.mul_comm, ← hor]

theorem stringsReference_ne {offset k : Nat} (ho : offset < 65536) (hk : k ≤ 6) :
    stringsReference offset k ≠ 0xffff := by
  intro h
  have hnat := congrArg BitVec.toNat h
  rw [toNat_stringsReference ho (by omega)] at hnat
  have hffff : (0xffff : BitVec 64).toNat = 65535 := rfl
  omega

theorem stringsReference_shift {offset k : Nat} (ho : offset < 65536) (hk : k < 8) :
    (stringsReference offset k >>> 3).toNat = offset := by
  rw [BitVec.toNat_ushiftRight, toNat_stringsReference ho hk, Nat.shiftRight_eq_div_pow]
  omega

/-- The mask keeps two of the three bits of the number. -/
theorem stringsReference_mask {offset k : Nat} (ho : offset < 65536) (hk : k < 8) :
    (stringsReference offset k &&& 0x3).toNat = k % 4 := by
  have hmask : (0x3 : BitVec 64).toNat = 2 ^ 2 - 1 := rfl
  rw [BitVec.toNat_and, toNat_stringsReference ho hk, hmask, Nat.and_two_pow_sub_one_eq_mod]
  omega

theorem StringField.all_inj {i j : Nat} (hi : i < 7) : all[i]? = all[j]? ↔ i = j :=
  List.getElem?_inj hi (by decide)

namespace ConfigurationDescriptor
variable {c : AemDesc} {cd₀ cd : ConfigurationDescriptor} {calls : List AemDesc} {n : Nat}

theorem getStringsDescByIndex_stored (hnew : new c = .ok cd₀)
    (h : calls.foldlM storeNew cd₀ = .ok cd)
    (hset : ∀ i, (∃ k : BitVec 16, k.toNat = i ∧ (lastStored .strings calls k).isSome) ↔ i < n)
    {offset : Nat} (ho : offset < n) :
    offset < 65536 ∧ ∃ d, lastStored .strings calls (.ofNat 16 offset) = some d ∧
      d.descriptorIndex.toNat = offset ∧
      ∀ index, index.toNat = offset → cd.getStringsDescByIndex index = some d := by
  have hrep := represents_lastStored (t := .strings) (by decide) hnew h
  obtain ⟨hat, -⟩ := hrep.getElem?_of_gapless (fun _ _ => BitVec.lt_def.1)
    (fun _ _ => BitVec.eq_of_toNat_eq) hset
  obtain ⟨k, rfl, hk⟩ := (hset offset).2 ho
  obtain ⟨d, hd⟩ := Option.isSome_iff_exists.1 hk
  refine ⟨k.isLt, d, ?_, congrArg BitVec.toNat ((hrep.mem k d).1 hd).2, ?_⟩
  · rw [BitVec.ofNat_toNat, BitVec.setWidth_eq]
    exact hd
  · intro index hi
    rw [getStringsDescByIndex, getDescBySizeT_eq, hi, hat k ho, hd]

theorem getStringsDescStringByReference_stored (hnew : new c = .ok cd₀)
    (h : calls.foldlM storeNew cd₀ = .ok cd)
    (hset : ∀ i, (∃ k : BitVec 16, k.toNat = i ∧ (lastStored .strings calls k).isSome) ↔ i < n)
    {offset k : Nat} (ho : offset < n) (hk : k ≤ 6) :
    ∃ d, lastStored .strings calls (.ofNat 16 offset) = some d ∧
      d.descriptorIndex.toNat = offset ∧
      cd.getStringsDescStringByReference (stringsReference offset k) =
        (StringField.all[k % 4]?).map fun f => ⟨d, f⟩ := by
  obtain ⟨hlt, d, hd, hidx, hget⟩ := getStringsDescByIndex_stored hnew h hset ho
  refine ⟨d, hd, hidx, ?_⟩
  have hdesc := hget _ (stringsReference_shift hlt (by omega : k < 8))
  rw [getStringsDescStringByReference, if_neg (stringsReference_ne hlt hk), hdesc]
  dsimp only
  rw [d.getStringByIndex_eq, stringsReference_mask hlt (by omega)]

theorem field_mod (k : Nat) : ∃ f, StringField.all[k % 4]? = some f := by
  have hlen : k % 4 < StringField.all.length :=
    Nat.lt_of_lt_of_le (Nat.mod_lt k (by decide)) (by decide)
  exact ⟨_, List.getElem?_eq_getElem hlen⟩

theorem resolves_iff (hnew : new c = .ok cd₀) (h : calls.foldlM storeNew cd₀ = .ok cd)
    (hset : ∀ i, (∃ k : BitVec 16, k.toNat = i ∧ (lastStored .strings calls k).isSome) ↔ i < n)
    {offset k : Nat} (ho : offset < n) (hk : k ≤ 6) :
    cd.Resolves calls offset k ↔ k ≤ 3 := by
  obtain ⟨d, hd, hidx, hget⟩ := getStringsDescStringByReference_stored hnew h hset ho hk
  obtain ⟨f, hf⟩ := field_mod k
  rw [hf] at hget
  constructor
  · rintro ⟨d', f', -, -, hf', hget'⟩
    rw [hget] at hget'
    cases hget'
    have hmod := (StringField.all_inj (Nat.lt_succ_of_le hk)).1 (hf'.trans hf.symm)
    omega
  · intro hle
    rw [Nat.mod_eq_of_lt (Nat.lt_succ_of_le hle)] at hf
    exact ⟨d, f, hd, hidx, hf, hget⟩

theorem alias_iff (hnew : new c = .ok cd₀) (h : calls.foldlM storeNew cd₀ = .ok cd)
    (hset : ∀ i, (∃ k : BitVec 16, k.toNat = i ∧ (lastStored .strings calls k).isSome) ↔ i < n)
    {offset k offset' k' : Nat} (ho : offset < n) (hk : k ≤ 6) (ho' : offset' < n)
    (hk' : k' ≤ 6) :
    cd.getStringsDescStringByReference (stringsReference offset k) =
        cd.getStringsDescStringByReference (stringsReference offset' k') ↔
      offset = offset' ∧ k % 4 = k' % 4 := by
  obtain ⟨d, hd, hidx, hget⟩ := getStringsDescStringByReference_stored hnew h hset ho hk
  obtain ⟨d', hd', hidx', hget'⟩ := getStringsDescStringByReference_stored hnew h hset ho' hk'
  obtain ⟨f, hf⟩ := field_mod k
  obtain ⟨f', hf'⟩ := field_mod k'
  rw [hget, hget', hf, hf']
  constructor
  · intro heq
    cases heq
    have hlt : k % 4 < 7 := by omega
    exact ⟨hidx.symm.trans hidx', (StringField.all_inj hlt).1 (hf.trans hf'.symm)⟩
  · rintro ⟨rfl, hmod⟩
    rw [hmod, hf'] at hf
    cases hf
    rw [hd] at hd'
    cases hd'
    rfl

/-- A reference leads to the string it names exactly if that is one of the first four of its
descriptor; two references lead to the same string exactly if they differ by 4 in the number. -/
theorem strings_reference_iff (hnew : new c = .ok cd₀) (h : calls.foldlM storeNew cd₀ = .ok cd)
    (hset : ∀ i, (∃ k : BitVec 16, k.toNat = i ∧ (lastStored .strings calls k).isSome) ↔
      i < n) :
    (∀ offset k, offset < n → k ≤ 6 → (cd.Resolves calls offset k ↔ k ≤ 3)) ∧
    ∀ offset k offset' k', offset < n → k ≤ 6 → offset' < n → k' ≤ 6 →
      (cd.getStringsDescStringByReference (stringsReference offset k) =
          cd.getStringsDescStringByReference (stringsReference offset' k') ↔
        offset = offset' ∧ k % 4 = k' % 4) := by
  constructor
  · intro offset k ho hk
    exact resolves_iff hnew h hset ho hk
  · intro offset k offset' k' ho hk ho' hk'
    exact alias_iff hnew h hset ho hk ho' hk'

/-- STRINGS 0 with seven different strings. -/
def sevenStrings : AemDesc :=
  { descriptorType := .strings, descriptorIndex := 0
    localizedStrings := ⟨[48], [49], [50], [51], [52], [53], [54]⟩ }

theorem lastStored_sevenStrings (i : Nat) :
    (∃ k : BitVec 16, k.toNat = i ∧ (lastStored .strings [sevenStrings] k).isSome) ↔ i < 1 := by
  have hlast : lastStored .strings [sevenStrings] =
      Function.update (fun _ => none) 0 (some sevenStrings) := rfl
  rw [hlast]
  constructor
  · rintro ⟨k, rfl, hk⟩
    by_cases hk0 : k = 0
    · subst hk0
      exact Nat.zero_lt_one
    · rw [Function.update_of_ne hk0] at hk
      cases hk
  · intro hi
    obtain rfl := Nat.lt_one_iff.1 hi
    exact ⟨0, rfl, by rw [Function.update_self]; rfl⟩

theorem stored_sevenStrings : [sevenStrings].foldlM storeNew firstConfiguration =
    .ok (firstConfiguration.storeDesc sevenStrings) := rfl

theorem strings_reference_third :
    (firstConfiguration.storeDesc sevenStrings).Resolves [sevenStrings] 0 3 := by
  have hnew : new firstConfiguration.desc = .ok firstConfiguration := rfl
  have h := strings_reference_iff hnew stored_sevenStrings lastStored_sevenStrings
  exact (h.1 0 3 (by decide) (by decide)).2 (by decide)

/-- The reference to string 4 leads to string 0. -/
theorem strings_reference_fourth :
    (((firstConfiguration.storeDesc sevenStrings).getStringsDescStringByReference
        (stringsReference 0 4)).map StringSlot.value = some [48]) ∧
      ¬ ∀ c cd₀ cd calls n, new c = .ok cd₀ → calls.foldlM storeNew cd₀ = .ok cd →
        (∀ i, (∃ k : BitVec 16, k.toNat = i ∧ (lastStored .strings calls k).isSome) ↔ i < n) →
        ∀ offset k, offset < n → k ≤ 6 → cd.Resolves calls offset k := by
  have hgot : (firstConfiguration.storeDesc sevenStrings).getStringsDescStringByReference
      (stringsReference 0 4) = some ⟨sevenStrings, .string0⟩ := by decide
  rw [hgot]
  refine ⟨rfl, ?_⟩
  intro h
  obtain ⟨d, f, -, -, hf, hget⟩ := h firstConfiguration.desc _ _ _ 1 rfl stored_sevenStrings
    lastStored_sevenStrings 0 4 (by decide) (by decide)
  rw [hgot] at hget
  cases hget
  cases hf

end ConfigurationDescriptor
end AvdeccLib
