import Mathlib.Data.List.Basic
import Mathlib.Data.Multiset.AddSub

namespace FirstMatch
set_option autoImplicit true

/-- Replace the first element that satisfies `p` by its image under `f`. -/
def modifyFirst (p : α → Bool) (f : α → α) : List α → List α
  | [] => []
  | a :: l => if p a then f a :: l else a :: modifyFirst p f l

@[simp] theorem modifyFirst_length (p : α → Bool) (f : α → α) (l : List α) :
    (modifyFirst p f l).length = l.length := by
  induction l with
  | nil => rfl
  | cons a l ih =>
    simp only [modifyFirst]
    split
    · rfl
    · simp only [List.length_cons, ih]

theorem modifyFirst_map {g : α → β} {f : α → α} (hf : ∀ a, g (f a) = g a)
    (p : α → Bool) (l : List α) : (modifyFirst p f l).map g = l.map g := by
  induction l with
  | nil => rfl
  | cons a l ih =>
    simp only [modifyFirst]
    split
    · simp only [List.map_cons, hf]
    · simp only [List.map_cons, ih]

theorem modifyFirst_map_map {g : α → β} {p : α → Bool} {q : β → Bool} {f : α → α} {f' : β → β}
    (hp : ∀ a, q (g a) = p a) (hf : ∀ a, f' (g a) = g (f a)) (l : List α) :
    modifyFirst q f' (l.map g) = (modifyFirst p f l).map g := by
  induction l with
  | nil => rfl
  | cons a l ih =>
    simp only [List.map_cons, modifyFirst, hp]
    split
    · rw [hf, List.map_cons]
    · rw [ih, List.map_cons]

theorem modifyFirst_append_cons {p : α → Bool} {as l : List α} {a : α} (f : α → α)
    (hd : ∀ b ∈ as, p b = false) (ha : p a = true) :
    modifyFirst p f (as ++ a :: l) = as ++ f a :: l := by
  induction as with
  | nil => rw [List.nil_append, modifyFirst, if_pos ha, List.nil_append]
  | cons b as ih =>
    have hb : ¬ p b = true := Bool.eq_false_iff.1 (hd b List.mem_cons_self)
    rw [List.cons_append, modifyFirst, if_neg hb,
      ih fun c hc => hd c (List.mem_cons_of_mem b hc), List.cons_append]

theorem modifyFirst_eq_set {p : α → Bool} {l : List α} {i : Nat} {a : α} (f : α → α)
    (hi : l[i]? = some a) (ha : p a = true)
    (hbefore : ∀ j b, j < i → l[j]? = some b → p b = false) :
    modifyFirst p f l = l.set i (f a) := by
  induction l generalizing i with
  | nil => simp at hi
  | cons b l ih =>
    cases i with
    | zero =>
      simp only [List.getElem?_cons_zero, Option.some.injEq] at hi
      subst b
      simp only [modifyFirst, ha, if_true, List.set_cons_zero]
    | succ i =>
      have hb : p b = false := hbefore 0 b (Nat.succ_pos i) rfl
      simp only [List.getElem?_cons_succ] at hi
      have hl := ih hi fun j c hj hc => hbefore (j + 1) c (Nat.succ_lt_succ hj)
        (by simpa using hc)
      simp only [modifyFirst, hb, Bool.false_eq_true, if_false, List.set_cons_succ, hl]

theorem perm_eraseP {p : α → Bool} {l : List α} {a : α} (h : l.find? p = some a) :
    l.Perm (a :: l.eraseP p) := by
  induction l with
  | nil => simp at h
  | cons b l ih =>
    by_cases hb : p b = true
    · rw [List.find?_cons_of_pos hb] at h
      cases h
      rw [List.eraseP_cons_of_pos hb]
    · rw [List.find?_cons_of_neg hb] at h
      rw [List.eraseP_cons_of_neg hb]
      exact ((ih h).cons b).trans (.swap a b _)

theorem perm_eraseIdx {l : List α} {i : Nat} {a : α} (h : l[i]? = some a) :
    l.Perm (a :: l.eraseIdx i) := by
  induction l generalizing i with
  | nil => simp at h
  | cons b l ih =>
    cases i with
    | zero =>
      simp only [List.getElem?_cons_zero, Option.some.injEq] at h
      subst b
      rfl
    | succ i =>
      simp only [List.getElem?_cons_succ] at h
      exact ((ih h).cons b).trans (.swap a b _)

theorem find?_or_eraseP {p : α → Bool} {l : List α} {k : Nat} {a : α} (h : l[k]? = some a)
    (ha : p a = true) : l.find? p = some a ∨ ∃ j, k = j + 1 ∧ (l.eraseP p)[j]? = some a := by
  induction l generalizing k with
  | nil => cases h
  | cons b l ih =>
    by_cases hb : p b = true
    · cases k with
      | zero =>
        cases h
        exact .inl (List.find?_cons_of_pos hb)
      | succ k =>
        rw [List.eraseP_cons_of_pos hb]
        exact .inr ⟨k, rfl, h⟩
    · rw [List.find?_cons_of_neg hb, List.eraseP_cons_of_neg hb]
      cases k with
      | zero =>
        cases h
        exact absurd ha hb
      | succ k =>
        rcases ih h with hf | ⟨j, rfl, hj⟩
        · exact .inl hf
        · exact .inr ⟨j + 1, rfl, hj⟩

theorem eraseP_of_find?_none {p : α → Bool} {l : List α} (h : l.find? p = none) :
    l.eraseP p = l := by
  apply List.eraseP_of_forall_not
  simpa using h

theorem not_mem_eraseP_iff {p : α → Bool} {l : List α} {a : α} (hn : l.Nodup) (ha : a ∈ l) :
    a ∉ l.eraseP p ↔ l.find? p = some a := by
  constructor
  · intro h
    cases hf : l.find? p with
    | none =>
      rw [eraseP_of_find?_none hf] at h
      exact absurd ha h
    | some b =>
      rcases List.mem_cons.1 ((perm_eraseP hf).mem_iff.1 ha) with rfl | hmem
      · rfl
      · exact absurd hmem h
  · intro hf
    exact (List.nodup_cons.1 ((perm_eraseP hf).nodup_iff.1 hn)).1

theorem map_set {g : α → β} {l : List α} {i : Nat} {a b : α} (h : l[i]? = some a)
    (hg : g b = g a) : (l.set i b).map g = l.map g := by
  obtain ⟨hlt, _⟩ := List.getElem?_eq_some_iff.1 h
  apply List.ext_getElem?
  intro j
  rw [List.map_set, hg, List.getElem?_set]
  split
  · next hj =>
    subst j
    simp only [List.length_map, hlt, if_true, List.getElem?_map, h, Option.map_some]
  · rfl

theorem countP_set_add {l : List α} {i : Nat} {a : α} (h : l[i]? = some a) (b : α)
    (p : α → Bool) : (l.set i b).countP p + (p a).toNat = l.countP p + (p b).toNat := by
  induction l generalizing i with
  | nil => cases h
  | cons x l ih =>
    cases i with
    | zero =>
      cases h
      rw [List.set_cons_zero, List.countP_cons, List.countP_cons]
      cases p a <;> cases p b <;> rfl
    | succ i =>
      rw [List.getElem?_cons_succ] at h
      rw [List.set_cons_succ, List.countP_cons, List.countP_cons, Nat.add_right_comm, ih h,
        Nat.add_right_comm]

theorem modify_eq_set {l : List α} {i : Nat} {a : α} (f : α → α) (h : l[i]? = some a) :
    l.modify i f = l.set i (f a) := by
  apply List.ext_getElem?
  intro j
  rw [List.getElem?_modify, List.getElem?_set]
  split
  · next hij =>
    subst j
    have hlt := (List.getElem?_eq_some_iff.1 h).1
    rw [h, if_pos hlt]
    rfl
  · exact Option.map_id'

/-- When the images under `g` are distinct, those of all other elements differ from that of the
one that is replaced. -/
theorem mem_set_of_nodup {g : α → β} {l : List α} {i : Nat} {a b c : α} (hn : (l.map g).Nodup)
    (hi : l[i]? = some a) (h : c ∈ l.set i b) : c = b ∨ c ∈ l ∧ g c ≠ g a := by
  obtain ⟨j, hj⟩ := List.getElem?_of_mem h
  rw [List.getElem?_set] at hj
  split at hj
  · split at hj
    · cases hj
      exact .inl rfl
    · cases hj
  · next hij =>
    refine .inr ⟨List.mem_of_getElem? hj, ?_⟩
    intro hg
    have hlt : i < (l.map g).length := by
      rw [List.length_map]
      exact (List.getElem?_eq_some_iff.1 hi).1
    apply hij
    apply (List.getElem?_inj hlt hn).1
    rw [List.getElem?_map, List.getElem?_map, hi, hj]
    exact congrArg some hg.symm

section
variable {p : α → Bool} {l : List α} {o : Option α}

theorem foldl_match_some {a : α}
    (h : l.foldl (fun found a => if p a then some a else found) o = some a) :
    a ∈ l ∧ p a = true ∨ o = some a := by
  induction l generalizing o with
  | nil => exact .inr h
  | cons b l ih =>
    rw [List.foldl_cons] at h
    rcases ih h with ⟨hm, hp⟩ | hb
    · exact .inl ⟨List.mem_cons_of_mem b hm, hp⟩
    · split at hb
      · next hp =>
        cases hb
        exact .inl ⟨List.mem_cons_self, hp⟩
      · exact .inr hb

theorem foldl_match_none
    (h : l.foldl (fun found a => if p a then some a else found) o = none) :
    o = none ∧ ∀ a ∈ l, p a = false := by
  induction l generalizing o with
  | nil =>
    refine ⟨h, ?_⟩
    intro a ha
    cases ha
  | cons b l ih =>
    rw [List.foldl_cons] at h
    obtain ⟨hb, hl⟩ := ih h
    split at hb
    · cases hb
    · next hp =>
      refine ⟨hb, ?_⟩
      intro a ha
      rcases List.mem_cons.1 ha with rfl | ha
      · simpa using hp
      · exact hl a ha

end
section
variable {g : α → β} {n : β} {l : List α} {i j : Nat} {a b x : α}

theorem getElem?_set_iff_of_ne (h : l[i]? = some a) (ha : g a = n) (hb : g b = n)
    (hx : g x ≠ n) :
    (l.set i b)[j]? = some x ↔ l[j]? = some x := by
  by_cases hij : i = j
  · subst hij
    obtain ⟨hlt, -⟩ := List.getElem?_eq_some_iff.1 h
    rw [List.getElem?_set_self hlt, h, Option.some_inj, Option.some_inj]
    constructor
    · rintro rfl
      exact absurd hb hx
    · rintro rfl
      exact absurd ha hx
  · rw [List.getElem?_set_ne hij]

theorem getElem?_append_singleton_iff_of_ne (hb : g b = n) (hx : g x ≠ n) :
    (l ++ [b])[j]? = some x ↔ l[j]? = some x := by
  rw [List.getElem?_append]
  split
  · rfl
  · next hlt =>
    rw [List.getElem?_singleton, List.getElem?_eq_none (Nat.le_of_not_lt hlt)]
    constructor
    · intro h
      split at h
      · cases h
        exact absurd hb hx
      · cases h
    · intro h
      cases h

end

end FirstMatch
