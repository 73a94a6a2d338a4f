import Mathlib.Data.Set.Lattice

namespace Worklist
set_option autoImplicit true

inductive Reach (roots : Set ν) (next : ν → Set ν) : Set ν where
  | root (h : x ∈ roots) : Reach roots next x
  | next (hx : Reach roots next x) (hy : y ∈ next x) : Reach roots next y

theorem Reach.mono {roots : Set ν} {next next' : ν → Set ν}
    (h : ∀ x, Reach roots next x → next x ⊆ next' x) :
    Reach roots next ⊆ Reach roots next' := by
  intro x hx
  induction hx with
  | root hr => exact .root hr
  | next hx hy ih => exact .next ih (h _ hx hy)

/-- A search that has done some nodes and has others to do. What a node makes it look at lies
between two relations: all that `must` names, and nothing but what `may` names. -/
structure Search (roots : Set ν) (must may : ν → Set ν) (done todo : Set ν) : Prop where
  started : roots ⊆ done ∪ todo
  closed : ∀ x ∈ done, must x ⊆ done ∪ todo
  sound : done ∪ todo ⊆ Reach roots may

section
variable {roots : Set ν} {must may : ν → Set ν} {done todo : Set ν}

theorem Search.start : Search roots must may ∅ roots := by
  refine ⟨Set.subset_union_right, ?_, ?_⟩
  · intro x hx
    cases hx
  · intro x hx
    rcases hx with hx | hx
    · cases hx
    · exact .root hx

theorem Search.step (h : Search roots must may done todo) {x : ν} {new todo' : Set ν}
    (hx : x ∈ done ∪ todo) (hmust : must x ⊆ new)
    (hmay : ∀ y ∈ new, ∃ z ∈ insert x done, y ∈ may z)
    (hkeep : todo ⊆ insert x (done ∪ todo')) (hnew : new ⊆ todo') (hadd : todo' ⊆ todo ∪ new) :
    Search roots must may (insert x done) todo' := by
  have hcover : done ∪ todo ⊆ insert x done ∪ todo' := by
    rintro y (hy | hy)
    · exact .inl (.inr hy)
    · rw [Set.insert_union]
      exact hkeep hy
  have hdone : ∀ z ∈ insert x done, Reach roots may z := by
    rintro z (rfl | hz)
    · exact h.sound hx
    · exact h.sound (.inl hz)
  refine ⟨fun y hy => hcover (h.started hy), ?_, ?_⟩
  · rintro y (rfl | hy) z hz
    · exact .inr (hnew (hmust hz))
    · exact hcover (h.closed y hy hz)
  · rintro y (hy | hy)
    · exact hdone y hy
    · rcases hadd hy with hy | hy
      · exact h.sound (.inr hy)
      · obtain ⟨z, hz, hyz⟩ := hmay y hy
        exact .next (hdone z hz) hyz

/-- A search with nothing to do has done what it must and nothing that it may not. -/
theorem Search.finished (h : Search roots must may done ∅) :
    Reach roots must ⊆ done ∧ done ⊆ Reach roots may := by
  constructor
  · intro x hx
    induction hx with
    | root hr =>
      have hdone := h.started hr
      rwa [Set.union_empty] at hdone
    | next _ hy ih =>
      have hdone := h.closed _ ih hy
      rwa [Set.union_empty] at hdone
  · intro x hx
    exact h.sound (.inl hx)

end
end Worklist
