import Mathlib.Data.List.Sort
import Mathlib.Logic.Function.Basic

namespace Keyed
set_option autoImplicit true

/-- The element takes the place of one with its key, or the list with it at the back is
sorted. -/
def upsert [LE κ] [BEq κ] [DecidableLE κ] (key : α → κ) (a : α) (l : List α) : List α :=
  match l.findIdx? fun n => key n == key a with
  | some it => l.set it a
  | none => (l ++ [a]).insertionSort fun x y => key x ≤ key y

/-- The keys go up: no two are the same. -/
def Ascending [LT κ] (key : α → κ) (l : List α) : Prop := l.Pairwise fun x y => key x < key y

/-- An element that no other can be told from by its key. -/
def Only (key : α → κ) (a : α) (l : List α) : Prop := ∀ n ∈ l, key n = key a → n = a

section
variable [LE κ] [LT κ] [Std.LawfulOrderLT κ] {key : α → κ} {a : α} {l : List α}

theorem Ascending.head_of_least (h : Ascending key l) (ha : a ∈ l)
    (hleast : ∀ x ∈ l, key a ≤ key x) : l[0]? = some a := by
  cases h with
  | nil => cases ha
  | @cons x l hlt _ =>
    rcases List.mem_cons.1 ha with rfl | ha
    · rfl
    · have hle := hleast x List.mem_cons_self
      exact absurd (hlt a ha) (Std.not_lt_of_ge hle)

theorem Ascending.nodup [Std.IsPreorder κ] (h : Ascending key l) : (l.map key).Nodup := by
  rw [List.Nodup, List.pairwise_map]
  exact h.imp fun hlt => Std.ne_of_lt hlt

end

section
variable {key : α → κ} {a : α} {l : List α}

theorem Only.mem_or_new (ho : Only key a l) : a ∈ l ∨ ∀ n ∈ l, key n ≠ key a := by
  by_cases ha : a ∈ l
  · exact .inl ha
  · right
    intro n hn hk
    exact ha (ho n hn hk ▸ hn)

variable [LE κ] [BEq κ] [DecidableLE κ] [LawfulBEq κ]

theorem upsert_of_mem (ho : Only key a l) (ha : a ∈ l) : upsert key a l = l := by
  unfold upsert
  cases hf : l.findIdx? fun n => key n == key a with
  | none =>
    have hn := List.findIdx?_eq_none_iff.1 hf a ha
    rw [beq_self_eq_true] at hn
    cases hn
  | some it =>
    obtain ⟨hit, hk, -⟩ := List.findIdx?_eq_some_iff_getElem.1 hf
    have heq := ho _ (List.getElem_mem hit) (eq_of_beq hk)
    simp only [← heq, List.set_getElem_self]

theorem upsert_of_new (hn : ∀ n ∈ l, key n ≠ key a) :
    upsert key a l = (l ++ [a]).insertionSort fun x y => key x ≤ key y := by
  have hf : (l.findIdx? fun n => key n == key a) = none := by
    rw [List.findIdx?_eq_none_iff]
    intro n hm
    exact beq_eq_false_iff_ne.2 (hn n hm)
  simp only [upsert, hf]

theorem mem_upsert (ho : Only key a l) {x : α} : x ∈ upsert key a l ↔ x = a ∨ x ∈ l := by
  rcases ho.mem_or_new with ha | hn
  · rw [upsert_of_mem ho ha]
    constructor
    · exact .inr
    · rintro (rfl | hx)
      · exact ha
      · exact hx
  · rw [upsert_of_new hn, List.mem_insertionSort, List.mem_append, List.mem_singleton, or_comm]

omit [LawfulBEq κ] in
theorem mem_of_mem_upsert {x : α} (h : x ∈ upsert key a l) : x = a ∨ x ∈ l := by
  unfold upsert at h
  split at h
  · exact (List.mem_or_eq_of_mem_set h).symm
  · rw [List.mem_insertionSort, List.mem_append, List.mem_singleton] at h
    exact h.symm

theorem mem_upsert_of_ne {x : α} (hx : key x ≠ key a) : x ∈ upsert key a l ↔ x ∈ l := by
  unfold upsert
  cases hf : l.findIdx? fun n => key n == key a with
  | some it =>
    obtain ⟨hit, hk, -⟩ := List.findIdx?_eq_some_iff_getElem.1 hf
    constructor
    · intro h
      rcases List.mem_or_eq_of_mem_set h with h | rfl
      · exact h
      · exact absurd rfl hx
    · intro h
      obtain ⟨j, hj⟩ := List.getElem?_of_mem h
      have hne : it ≠ j := by
        rintro rfl
        rw [List.getElem?_eq_getElem hit, Option.some.injEq] at hj
        exact hx (hj ▸ eq_of_beq hk)
      apply List.mem_of_getElem? (i := j)
      rw [List.getElem?_set_ne hne]
      exact hj
  | none =>
    have hxa : x ≠ a := fun h => hx (congrArg key h)
    rw [List.mem_insertionSort, List.mem_append, List.mem_singleton, or_iff_left hxa]

omit [LawfulBEq κ] in
theorem length_upsert_le : (upsert key a l).length ≤ l.length + 1 := by
  unfold upsert
  split
  · rw [List.length_set]
    exact Nat.le_succ _
  · rw [List.length_insertionSort, List.length_append, List.length_singleton]

variable [LT κ] [Std.LawfulOrderLT κ]

theorem ascending_upsert [Std.IsLinearOrder κ] (a : α) (h : Ascending key l) :
    Ascending key (upsert key a l) := by
  unfold upsert
  cases hf : l.findIdx? fun n => key n == key a with
  | some it =>
    obtain ⟨hit, hk, -⟩ := List.findIdx?_eq_some_iff_getElem.1 hf
    have hkeys : (l.set it a).map key = l.map key := by
      rw [List.map_set, ← eq_of_beq hk, ← List.getElem_map key (h := by rwa [List.length_map]),
        List.set_getElem_self]
    have hpair := List.pairwise_map.2 h
    rw [← hkeys] at hpair
    exact List.pairwise_map.1 hpair
  | none =>
    have hn : ∀ n ∈ l, key n ≠ key a := fun n hm =>
      beq_eq_false_iff_ne.1 (List.findIdx?_eq_none_iff.1 hf n hm)
    have htotal : Std.Total fun x y : α => key x ≤ key y := ⟨fun x y => Std.le_total⟩
    have htrans : IsTrans α fun x y : α => key x ≤ key y := ⟨fun x y z => Std.le_trans⟩
    have hsorted := List.pairwise_insertionSort (fun x y => key x ≤ key y) (l ++ [a])
    have hdistinct : (l ++ [a]).Pairwise fun x y => key x ≠ key y := by
      rw [List.pairwise_append]
      refine ⟨h.imp fun hlt => Std.ne_of_lt hlt, List.pairwise_singleton _ a, ?_⟩
      intro x hx y hy
      rw [List.mem_singleton.1 hy]
      exact hn x hx
    have hperm := List.perm_insertionSort (fun x y => key x ≤ key y) (l ++ [a])
    have hdistinct' := (hperm.pairwise_iff fun hne => Ne.symm hne).2 hdistinct
    exact hsorted.imp₂ (fun _ _ hle hne => Std.lt_of_le_of_ne hle hne) hdistinct'

theorem upsert_of_last [Std.IsPreorder κ] (hlast : ∀ n ∈ l, key n < key a)
    (h : Ascending key l) :
    upsert key a l = l ++ [a] := by
  rw [upsert_of_new fun n hn => Std.ne_of_lt (hlast n hn)]
  apply List.Pairwise.insertionSort_eq
  rw [List.pairwise_append]
  refine ⟨h.imp fun hlt => Std.le_of_lt hlt, List.pairwise_singleton _ a, ?_⟩
  intro x hx y hy
  rw [List.mem_singleton.1 hy]
  exact Std.le_of_lt (hlast x hx)

end

section
variable {key : α → κ} {a : α} {l : List α}

/-- How many elements have a key that is less than that of the element. -/
def rank [LT κ] [DecidableLT κ] (key : α → κ) (a : α) (l : List α) : Nat :=
  l.countP fun x => key x < key a

theorem Ascending.getElem?_rank [LE κ] [LT κ] [Std.LawfulOrderLT κ] [Std.IsPreorder κ]
    [DecidableLT κ] (h : Ascending key l) (ha : a ∈ l) : l[rank key a l]? = some a := by
  induction h with
  | nil => cases ha
  | @cons x l hlt _ ih =>
    rw [rank, List.countP_cons]
    rcases List.mem_cons.1 ha with rfl | ha
    · have hself : ¬ key a < key a := Std.lt_irrefl
      have hzero : l.countP (fun x => decide (key x < key a)) = 0 := by
        apply List.countP_eq_zero.2
        intro x hx
        rw [decide_eq_true_iff]
        exact Std.not_lt_of_ge (Std.le_of_lt (hlt x hx))
      rw [hzero, if_neg (by rwa [decide_eq_true_iff])]
      rfl
    · rw [if_pos (decide_eq_true (hlt a ha))]
      exact ih ha

theorem rank_upsert_of_new [LE κ] [BEq κ] [DecidableLE κ] [LawfulBEq κ] [LT κ]
    [Std.LawfulOrderLT κ] [Std.IsPreorder κ] [DecidableLT κ] (hn : ∀ n ∈ l, key n ≠ key a) :
    rank key a (upsert key a l) = rank key a l := by
  have hperm := List.perm_insertionSort (fun x y => key x ≤ key y) (l ++ [a])
  rw [upsert_of_new hn, rank, hperm.countP_eq, List.countP_append,
    List.countP_singleton, if_neg]
  · rfl
  · rw [decide_eq_true_iff]
    exact Std.lt_irrefl

end

/-! Keys that are the positions of the elements. -/

section
variable {key : α → Nat} {a b : α} {l : List α} {m n : Nat}

theorem Ascending.add_le (h : Ascending key l) (hb : l[m]? = some b) (k : Nat)
    (ha : l[m + k]? = some a) : key b + k ≤ key a := by
  induction k generalizing a with
  | zero =>
    rw [Nat.add_zero, hb, Option.some.injEq] at ha
    rw [ha, Nat.add_zero]
  | succ k ih =>
    obtain ⟨hlt, ha⟩ := List.getElem?_eq_some_iff.1 ha
    have hk : m + k < l.length := by omega
    have hle := ih (List.getElem?_eq_getElem hk)
    have hstep := List.pairwise_iff_getElem.1 h (m + k) (m + (k + 1)) hk hlt (by omega)
    rw [ha] at hstep
    omega

theorem Ascending.le_key (h : Ascending key l) (ha : l[n]? = some a) : n ≤ key a := by
  obtain ⟨hlt, -⟩ := List.getElem?_eq_some_iff.1 ha
  have hle := h.add_le (List.getElem?_eq_getElem (by omega : 0 < l.length)) n
    (by rwa [Nat.zero_add])
  omega

/-- A key is its element's position exactly if no lower key is missing. -/
theorem Ascending.gapless_iff (h : Ascending key l) :
    (∃ a, l[n]? = some a ∧ key a = n) ↔ ∀ m ≤ n, ∃ a ∈ l, key a = m := by
  constructor
  · rintro ⟨a, ha, hk⟩ m hm
    obtain ⟨hlt, -⟩ := List.getElem?_eq_some_iff.1 ha
    have hml : m < l.length := by omega
    have hb := List.getElem?_eq_getElem hml
    have hle := h.le_key hb
    have hup := h.add_le hb (n - m) (by rwa [Nat.add_sub_cancel' hm])
    exact ⟨l[m], List.getElem_mem hml, by omega⟩
  · intro hall
    induction n using Nat.strong_induction_on with
    | h n ih =>
      obtain ⟨a, ha, hk⟩ := hall n (Nat.le_refl n)
      obtain ⟨p, hp⟩ := List.getElem?_of_mem ha
      have hle := h.le_key hp
      rw [hk] at hle
      rcases Nat.lt_or_eq_of_le hle with hlt | rfl
      · obtain ⟨b, hb, hkb⟩ := ih p hlt fun m hm => hall m (by omega)
        rw [hp, Option.some.injEq] at hb
        rw [← hb, hk] at hkb
        omega
      · exact ⟨a, hp, hk⟩

end

/-- The list is the map: its keys go up, and under each key it holds the element of the map. -/
structure Represents [LT κ] (key : α → κ) (m : κ → Option α) (l : List α) : Prop where
  ascending : Ascending key l
  mem : ∀ k a, m k = some a ↔ a ∈ l ∧ key a = k

section
variable [LE κ] [LT κ] [Std.LawfulOrderLT κ] {key : α → κ} {a : α} {l : List α}

theorem Ascending.only (h : Ascending key l) (ha : a ∈ l) : Only key a l := by
  induction h with
  | nil => cases ha
  | @cons x l hlt _ ih =>
    intro n hn hk
    rcases List.mem_cons.1 ha with rfl | hal
    · rcases List.mem_cons.1 hn with rfl | hnl
      · rfl
      · exact absurd hk.symm (Std.ne_of_lt (hlt n hnl))
    · rcases List.mem_cons.1 hn with rfl | hnl
      · exact absurd hk (Std.ne_of_lt (hlt a hal))
      · exact ih hal n hnl hk

omit [LE κ] [Std.LawfulOrderLT κ] in
theorem Represents.nil : Represents key (fun _ => none) [] := by
  constructor
  · exact .nil
  · intro k a
    constructor
    · intro h
      cases h
    · rintro ⟨h, -⟩
      cases h

end

section
variable [LE κ] [BEq κ] [DecidableLE κ] [LawfulBEq κ] {key : α → κ} {m : κ → Option α} {a : α}
  {l : List α}

omit [LawfulBEq κ] in
theorem mem_upsert_self : a ∈ upsert key a l := by
  unfold upsert
  cases hf : l.findIdx? fun n => key n == key a with
  | some it =>
    obtain ⟨hit, -⟩ := List.findIdx?_eq_some_iff_getElem.1 hf
    exact List.mem_set hit a
  | none =>
    rw [List.mem_insertionSort]
    exact List.mem_append_right l List.mem_cons_self

/-- To insert in the list is to insert in the map. -/
theorem Represents.upsert [DecidableEq κ] [LT κ] [Std.LawfulOrderLT κ] [Std.IsLinearOrder κ]
    (h : Represents key m l) (a : α) :
    Represents key (Function.update m (key a) (some a)) (upsert key a l) := by
  have hasc := ascending_upsert a h.ascending
  constructor
  · exact hasc
  · intro k b
    by_cases hk : k = key a
    · subst hk
      rw [Function.update_self, Option.some.injEq]
      constructor
      · rintro rfl
        exact ⟨mem_upsert_self, rfl⟩
      · rintro ⟨hb, hkey⟩
        exact (hasc.only mem_upsert_self b hb hkey).symm
    · rw [Function.update_of_ne hk, h.mem]
      constructor
      · rintro ⟨hb, rfl⟩
        exact ⟨(mem_upsert_of_ne hk).2 hb, rfl⟩
      · rintro ⟨hb, rfl⟩
        exact ⟨(mem_upsert_of_ne hk).1 hb, rfl⟩

omit [LE κ] [BEq κ] [DecidableLE κ] [LawfulBEq κ] in
theorem Represents.getElem?_of_gapless [LT κ] {pos : κ → Nat} {n : Nat}
    (h : Represents key m l) (hpos : ∀ x y, x < y → pos x < pos y)
    (hinj : ∀ x y, pos x = pos y → x = y)
    (hset : ∀ i, (∃ k, pos k = i ∧ (m k).isSome) ↔ i < n) :
    (∀ k, pos k < n → l[pos k]? = m k) ∧ l.length = n := by
  have hasc : Ascending (fun a => pos (key a)) l := h.ascending.imp fun hlt => hpos _ _ hlt
  have hat : ∀ i < n, ∃ a, l[i]? = some a ∧ pos (key a) = i := by
    intro i hi
    apply hasc.gapless_iff.2
    intro j hj
    obtain ⟨k, rfl, hk⟩ := (hset j).2 (by omega)
    obtain ⟨a, ha⟩ := Option.isSome_iff_exists.1 hk
    obtain ⟨hmem, rfl⟩ := (h.mem k a).1 ha
    exact ⟨a, hmem, rfl⟩
  constructor
  · intro k hk
    obtain ⟨a, ha, hka⟩ := hat (pos k) hk
    rw [ha]
    exact ((h.mem k a).2 ⟨List.mem_of_getElem? ha, hinj _ _ hka⟩).symm
  · apply Nat.le_antisymm
    · by_contra hlt
      have hget := List.getElem?_eq_getElem (Nat.lt_of_not_le hlt)
      have hle := hasc.le_key hget
      have hkey : m (key l[n]) = some l[n] := (h.mem _ _).2 ⟨List.mem_of_getElem? hget, rfl⟩
      have hn := (hset _).1 ⟨key l[n], rfl, by rw [hkey]; rfl⟩
      omega
    · by_contra hlt
      obtain ⟨a, ha, -⟩ := hat l.length (Nat.lt_of_not_le hlt)
      rw [List.getElem?_eq_none (Nat.le_refl _)] at ha
      cases ha

end
theorem nodup_flatMap {key : α → κ} (key' : β → κ) {f : α → List β} {l : List α}
    (h : (l.map key).Nodup) (hf : ∀ a ∈ l, (f a).Nodup)
    (hkey : ∀ a ∈ l, ∀ b ∈ f a, key' b = key a) : (l.flatMap f).Nodup := by
  rw [List.nodup_flatMap]
  rw [List.Nodup, List.pairwise_map] at h
  refine ⟨hf, h.imp_of_mem ?_⟩
  intro a a' ha ha' hne b hb hb'
  exact hne ((hkey a ha b hb).symm.trans (hkey a' ha' b hb'))

end Keyed
