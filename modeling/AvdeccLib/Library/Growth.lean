import AvdeccLib.Library.Outcome

namespace Growth
set_option autoImplicit true
open Outcome

/-- Every element of the first list is at its place in the second one, up to the relation. -/
def Grows (R : α → β → Prop) (xs : List α) (ys : List β) : Prop :=
  ∀ (i : Nat) x, xs[i]? = some x → ∃ y, ys[i]? = some y ∧ R x y

section
variable {R : α → β → Prop} {xs : List α} {ys : List β}

theorem grows_nil : Grows R [] ys := by
  intro i x h
  cases h

theorem Grows.mono {R' : α → β → Prop} (h : Grows R xs ys) (hR : ∀ x y, R x y → R' x y) :
    Grows R' xs ys := by
  intro i x hx
  obtain ⟨y, hy, hxy⟩ := h i x hx
  exact ⟨y, hy, hR x y hxy⟩

theorem Grows.cons (hxy : R x y) (h : Grows R xs ys) : Grows R (x :: xs) (y :: ys) := by
  intro i x' hx
  cases i with
  | zero =>
    cases hx
    exact ⟨y, rfl, hxy⟩
  | succ i => exact h i x' hx

theorem Grows.comp {S : β → γ → Prop} {zs : List γ} (h : Grows R xs ys) (h' : Grows S ys zs) :
    Grows (fun x z => ∃ y, R x y ∧ S y z) xs zs := by
  intro i x hx
  obtain ⟨y, hy, hxy⟩ := h i x hx
  obtain ⟨z, hz, hyz⟩ := h' i y hy
  exact ⟨z, hz, y, hxy, hyz⟩

theorem Grows.length_le (h : Grows R xs ys) : xs.length ≤ ys.length := by
  by_contra hlt
  rw [Nat.not_le] at hlt
  obtain ⟨y, hy, -⟩ := h ys.length xs[ys.length] (List.getElem?_eq_getElem hlt)
  obtain ⟨hlen, -⟩ := List.getElem?_eq_some_iff.1 hy
  exact Nat.lt_irrefl _ hlen

theorem grows_mapM {ε : Type} {f : α → Except ε β} (h : xs.mapM f = .ok ys) :
    Grows (fun x y => f x = .ok y) xs ys := by
  induction xs generalizing ys with
  | nil => exact grows_nil
  | cons x xs ih =>
    rw [List.mapM_cons] at h
    obtain ⟨y, hy, h⟩ := bind_eq_ok.1 h
    obtain ⟨ys', hys, h⟩ := bind_eq_ok.1 h
    cases h
    exact (ih hys).cons hy

theorem grows_map (f : α → β) : Grows (fun x y => f x = y) xs (xs.map f) := by
  intro i x hx
  refine ⟨f x, ?_, rfl⟩
  rw [List.getElem?_map, hx]
  rfl

end

section
variable {R : α → α → Prop} {xs ys zs : List α} (hrefl : ∀ x, R x x)
include hrefl

theorem grows_refl : Grows R xs xs := fun _ x hx => ⟨x, hx, hrefl x⟩

theorem grows_append : Grows R xs (xs ++ ys) := by
  intro i x hx
  refine ⟨x, ?_, hrefl x⟩
  rw [List.getElem?_append_left (List.getElem?_eq_some_iff.1 hx).1]
  exact hx

theorem grows_set {i : Nat} (hx : xs[i]? = some x) (hxy : R x y) : Grows R xs (xs.set i y) := by
  intro j x' hx'
  by_cases hij : i = j
  · subst hij
    cases hx.symm.trans hx'
    exact ⟨y, List.getElem?_set_self (List.getElem?_eq_some_iff.1 hx).1, hxy⟩
  · exact ⟨x', (List.getElem?_set_ne hij).trans hx', hrefl x'⟩

theorem grows_modify {f : α → α} {i : Nat} (hf : ∀ x, R x (f x)) :
    Grows R xs (xs.modify i f) := by
  intro j x hx
  rw [List.getElem?_modify, hx]
  split
  · exact ⟨f x, rfl, hf x⟩
  · exact ⟨x, rfl, hrefl x⟩

end

theorem Grows.trans {R : α → α → Prop} (hR : ∀ x y z, R x y → R y z → R x z)
    (h : Grows R xs ys) (h' : Grows R ys zs) : Grows R xs zs :=
  (h.comp h').mono fun x z ⟨y, hxy, hyz⟩ => hR x y z hxy hyz

end Growth
