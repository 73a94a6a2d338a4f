import Mathlib.Data.List.Basic

namespace Outcome
set_option autoImplicit true

theorem bind_eq_ok {x : Except ε α} {f : α → Except ε β} {b : β} :
    (x >>= f) = .ok b ↔ ∃ a, x = .ok a ∧ f a = .ok b := by
  cases x with
  | error e =>
    constructor
    · intro h
      cases h
    · rintro ⟨_, h, _⟩
      cases h
  | ok a =>
    constructor
    · intro h
      exact ⟨a, rfl, h⟩
    · rintro ⟨_, h, h'⟩
      cases h
      exact h'

theorem exists_mapM_ok {f : α → Except ε β} {l : List α} (h : ∀ a ∈ l, ∃ b, f a = .ok b) :
    ∃ bs, l.mapM f = .ok bs := by
  induction l with
  | nil => exact ⟨[], rfl⟩
  | cons a l ih =>
    obtain ⟨b, hb⟩ := h a List.mem_cons_self
    obtain ⟨bs, hbs⟩ := ih fun a' ha' => h a' (List.mem_cons_of_mem a ha')
    refine ⟨b :: bs, ?_⟩
    rw [List.mapM_cons, hb, hbs]
    rfl

theorem mapM_cons_ok {f : α → Except ε β} {a : α} {l : List α} {bs : List β}
    (h : (a :: l).mapM f = .ok bs) : ∃ b, f a = .ok b := by
  rw [List.mapM_cons] at h
  obtain ⟨b, hb, _⟩ := bind_eq_ok.1 h
  exact ⟨b, hb⟩

theorem exists_of_mem_mapM {f : α → Except ε β} {l : List α} {bs : List β} {b : β}
    (h : l.mapM f = .ok bs) (hb : b ∈ bs) : ∃ a ∈ l, f a = .ok b := by
  induction l generalizing bs with
  | nil =>
    cases h
    cases hb
  | cons a l ih =>
    rw [List.mapM_cons] at h
    obtain ⟨b', hb', h⟩ := bind_eq_ok.1 h
    obtain ⟨bs', hbs', h⟩ := bind_eq_ok.1 h
    cases h
    rcases List.mem_cons.1 hb with rfl | hb
    · exact ⟨a, List.mem_cons_self, hb'⟩
    · obtain ⟨a', ha', hf⟩ := ih hbs' hb
      exact ⟨a', List.mem_cons_of_mem a ha', hf⟩

theorem mapM_map {f : α → Except ε β} {g : α → γ} {k : β → γ} {l : List α} {bs : List β}
    (h : l.mapM f = .ok bs) (hf : ∀ a b, f a = .ok b → k b = g a) : bs.map k = l.map g := by
  induction l generalizing bs with
  | nil =>
    cases h
    rfl
  | cons a l ih =>
    rw [List.mapM_cons] at h
    obtain ⟨b, hb, h⟩ := bind_eq_ok.1 h
    obtain ⟨bs', hbs', h⟩ := bind_eq_ok.1 h
    cases h
    rw [List.map_cons, List.map_cons, hf a b hb, ih hbs']

/-- A computation ends in an error that has the property. -/
def Fails (P : ε → Prop) (x : Except ε α) : Prop := ∃ e, x = .error e ∧ P e

section
variable {P : ε → Prop}

@[simp] theorem not_fails_ok (a : α) : ¬ Fails P (.ok a : Except ε α) := by
  rintro ⟨e, h, -⟩
  cases h

@[simp] theorem not_fails_pure (a : α) : ¬ Fails P (pure a : Except ε α) := not_fails_ok a

@[simp] theorem fails_throw {e : ε} : Fails P (throw e : Except ε α) ↔ P e := by
  constructor
  · rintro ⟨e', h, hp⟩
    cases h
    exact hp
  · intro hp
    exact ⟨e, rfl, hp⟩

theorem fails_bind {x : Except ε α} {f : α → Except ε β} :
    Fails P (x >>= f) ↔ Fails P x ∨ ∃ a, x = .ok a ∧ Fails P (f a) := by
  cases x with
  | error e =>
    constructor
    · rintro ⟨e', h, hp⟩
      cases h
      exact .inl ⟨e, rfl, hp⟩
    · rintro (⟨e', h, hp⟩ | ⟨a, h, -⟩)
      · cases h
        exact ⟨e, rfl, hp⟩
      · cases h
  | ok a =>
    constructor
    · rintro ⟨e, h, hp⟩
      exact .inr ⟨a, rfl, e, h, hp⟩
    · rintro (⟨e, h, -⟩ | ⟨a', h, hf⟩)
      · cases h
      · cases h
        exact hf

theorem fails_mapM_cons {f : α → Except ε β} {a : α} {l : List α} (h : Fails P (f a)) :
    Fails P ((a :: l).mapM f) := by
  rw [List.mapM_cons, fails_bind]
  exact .inl h

theorem not_fails_mapM {f : α → Except ε β} {l : List α} (h : ∀ a ∈ l, ¬ Fails P (f a)) :
    ¬ Fails P (l.mapM f) := by
  induction l with
  | nil => exact not_fails_pure []
  | cons a l ih =>
    rw [List.mapM_cons, fails_bind]
    rintro (hf | ⟨b, -, hf⟩)
    · exact h a List.mem_cons_self hf
    · rw [fails_bind] at hf
      rcases hf with hf | ⟨bs, -, hf⟩
      · exact ih (fun a' ha' => h a' (List.mem_cons_of_mem a ha')) hf
      · exact not_fails_pure _ hf

end

end Outcome
