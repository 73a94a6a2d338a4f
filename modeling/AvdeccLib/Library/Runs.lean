import Mathlib.Algebra.BigOperators.Group.List.Basic
import Mathlib.Algebra.GroupWithZero.Nat
import Mathlib.Order.Monotone.Basic

namespace Runs
set_option autoImplicit true

/-- A finite run of a labelled step relation. The trace keeps, for every step taken, the
state it was taken in and its label; the last step is at the end. -/
inductive Run (step : σ → ε → σ → Prop) (s : σ) : List (σ × ε) → σ → Prop where
  | nil : Run step s [] s
  | snoc : Run step s tr t → step t e u → Run step s (tr ++ [(t, e)]) u

def Reachable (step : σ → ε → σ → Prop) (s t : σ) : Prop := ∃ tr, Run step s tr t

/-- Every step of the trace was taken in a state and with a label that satisfy `guard`. -/
def Along (guard : σ → ε → Prop) (tr : List (σ × ε)) : Prop := ∀ p ∈ tr, guard p.1 p.2

/-- Every state of the run satisfies `P`, the last one included. -/
def Always (P : σ → Prop) (tr : List (σ × ε)) (t : σ) : Prop := (∀ p ∈ tr, P p.1) ∧ P t

@[simp] theorem along_nil (guard : σ → ε → Prop) : Along guard [] := by
  intro p hp
  cases hp

@[simp] theorem along_snoc {guard : σ → ε → Prop} :
    Along guard (tr ++ [(t, e)]) ↔ Along guard tr ∧ guard t e := by
  simp only [Along, List.mem_append, List.mem_singleton]
  constructor
  · intro h
    exact ⟨fun p hp => h p (.inl hp), h (t, e) (.inr rfl)⟩
  · rintro ⟨h, ht⟩ p (hp | rfl)
    · exact h p hp
    · exact ht

theorem along_append {guard : σ → ε → Prop} :
    Along guard (tr ++ tr') ↔ Along guard tr ∧ Along guard tr' := List.forall_mem_append

theorem always_snoc {P : σ → Prop} {e : ε} :
    Always P (tr ++ [(t, e)]) u ↔ Always P tr t ∧ P u := by
  simp only [Always, List.mem_append, List.mem_singleton]
  constructor
  · rintro ⟨h, hu⟩
    exact ⟨⟨fun p hp => h p (.inl hp), h (t, e) (.inr rfl)⟩, hu⟩
  · rintro ⟨⟨h, ht⟩, hu⟩
    refine ⟨?_, hu⟩
    rintro p (hp | rfl)
    · exact h p hp
    · exact ht

section
variable {step : σ → ε → σ → Prop} {s t u : σ}

theorem Reachable.refl : Reachable step s s := ⟨[], .nil⟩

theorem Reachable.snoc (h : Reachable step s t) (hs : step t e u) : Reachable step s u := by
  obtain ⟨tr, hr⟩ := h
  exact ⟨_, hr.snoc hs⟩

theorem Run.append (h : Run step s tr t) (h' : Run step t tr' u) :
    Run step s (tr ++ tr') u := by
  induction h' with
  | nil => simpa using h
  | snoc _ hs ih => simpa only [List.append_assoc] using ih.snoc hs

theorem Run.split (h : Run step s (tr ++ (t, e) :: tr') u) :
    Run step s tr t ∧ ∃ t', step t e t' ∧ Run step t' tr' u := by
  generalize htr : tr ++ (t, e) :: tr' = tr₀ at h
  induction h generalizing tr' with
  | nil => exact absurd htr (List.append_ne_nil_of_right_ne_nil _ (List.cons_ne_nil _ _))
  | @snoc tr₁ t₁ e₁ u₁ hr hst ih =>
    rcases List.eq_nil_or_concat tr' with rfl | ⟨tr₂, p, rfl⟩
    · obtain ⟨rfl, hp⟩ := List.append_inj' htr rfl
      cases hp
      exact ⟨hr, u₁, hst, .nil⟩
    · rw [List.concat_eq_append, ← List.cons_append, ← List.append_assoc] at htr
      obtain ⟨hfront, hp⟩ := List.append_inj' htr rfl
      cases hp
      obtain ⟨hleft, t', hmid, hright⟩ := ih hfront
      rw [List.concat_eq_append]
      exact ⟨hleft, t', hmid, hright.snoc hst⟩

theorem Run.invariant_along {I : σ → Prop} {guard : σ → ε → Prop} (h : Run step s tr t)
    (hg : Along guard tr) (hs : I s)
    (hstep : ∀ t e u, I t → guard t e → step t e u → I u) : I t := by
  induction h with
  | nil => exact hs
  | snoc _ hst ih =>
    obtain ⟨hg, he⟩ := along_snoc.1 hg
    exact hstep _ _ _ (ih hg) he hst

theorem Run.invariant {I : σ → Prop} (h : Run step s tr t) (hs : I s)
    (hstep : ∀ t e u, I t → step t e u → I u) : I t := by
  have hg : Along (fun _ _ => True) tr := fun _ _ => trivial
  exact h.invariant_along hg hs fun t e u ht _ hst => hstep t e u ht hst

theorem Reachable.invariant {I : σ → Prop} (h : Reachable step s t) (hs : I s)
    (hstep : ∀ t e u, I t → step t e u → I u) : I t := by
  obtain ⟨tr, hr⟩ := h
  exact hr.invariant hs hstep

/-- A run of a relation whose steps are steps of another. -/
theorem Run.relabel {step' : σ → δ → σ → Prop} {guard : σ → ε → Prop} {guard' : σ → δ → Prop}
    {tr : List (σ × δ)} (h : Run step' s tr t) (hg : Along guard' tr)
    (hstep : ∀ t d u, step' t d u → guard' t d → ∃ e, step t e u ∧ guard t e) :
    ∃ tr', Run step s tr' t ∧ Along guard tr' := by
  induction h with
  | nil => exact ⟨[], .nil, along_nil _⟩
  | snoc _ hst ih =>
    obtain ⟨hg, hd⟩ := along_snoc.1 hg
    obtain ⟨tr', hr, hg'⟩ := ih hg
    obtain ⟨e, he, hge⟩ := hstep _ _ _ hst hd
    exact ⟨_, hr.snoc he, along_snoc.2 ⟨hg', hge⟩⟩

/-- When, below an invariant, a step keeps `P` exactly if it meets the condition, a run stays
in `P` exactly if all its steps meet it. -/
theorem Run.always_iff_along {I P : σ → Prop} {guard : σ → ε → Prop} (h : Run step s tr t)
    (hI : I s) (hP : P s) (hinv : ∀ t e u, I t → step t e u → I u)
    (hstep : ∀ t e u, I t → P t → step t e u → (P u ↔ guard t e)) :
    Always P tr t ↔ Along guard tr := by
  induction h with
  | nil =>
    exact ⟨fun _ => along_nil guard, fun _ => ⟨fun _ hp => absurd hp List.not_mem_nil, hP⟩⟩
  | snoc hr hst ih =>
    have hIt := hr.invariant hI hinv
    rw [always_snoc, along_snoc, ih]
    constructor
    · rintro ⟨ha, hu⟩
      exact ⟨ha, (hstep _ _ _ hIt (ih.2 ha).2 hst).1 hu⟩
    · rintro ⟨ha, hg⟩
      exact ⟨ha, (hstep _ _ _ hIt (ih.2 ha).2 hst).2 hg⟩

/-- A potential that pays for every step bounds what a whole run can spend. -/
theorem Run.cost_le {I : σ → Prop} {μ : σ → Nat} {cost : σ → ε → Nat}
    (h : Run step s tr t) (hI : I s) (hinv : ∀ t e u, I t → step t e u → I u)
    (hpay : ∀ t e u, I t → step t e u → cost t e + μ u ≤ μ t) :
    (tr.map (fun p => cost p.1 p.2)).sum + μ t ≤ μ s := by
  induction h with
  | nil => simp
  | snoc hr hst ih =>
    have := hpay _ _ _ (hr.invariant hI hinv) hst
    simp only [List.map_append, List.sum_append, List.map_cons, List.map_nil, List.sum_cons,
      List.sum_nil]
    omega

end

def Succeeds (f : σ → ε → Except φ σ) (s : σ) (e : ε) (t : σ) : Prop := f s e = .ok t

/-- The function is run on the labels: `guard` is tested in front of every step and `P` behind
the last. -/
def trial (f : σ → ε → Except φ σ) (guard : σ → ε → Bool) (P : σ → Bool) : σ → List ε → Bool
  | s, [] => P s
  | s, e :: es =>
    guard s e && match f s e with
      | .ok t => trial f guard P t es
      | .error _ => false

theorem exists_run_of_trial {step : σ → ε → σ → Prop} {f : σ → ε → Except φ σ}
    {guard : σ → ε → Bool} {P : σ → Bool} (hf : ∀ s e t, f s e = .ok t → step s e t)
    {es : List ε} {s : σ} (h : trial f guard P s es = true) :
    ∃ tr t, Run step s tr t ∧ Along (fun s e => guard s e = true) tr ∧ P t = true := by
  suffices hs : ∀ tr₀ s₀, Run step s₀ tr₀ s → Along (fun s e => guard s e = true) tr₀ →
      ∃ tr t, Run step s₀ tr t ∧ Along (fun s e => guard s e = true) tr ∧ P t = true from
    hs [] s .nil (along_nil _)
  induction es generalizing s with
  | nil =>
    intro tr₀ s₀ h₀ ha
    exact ⟨tr₀, s, h₀, ha, h⟩
  | cons e es ih =>
    intro tr₀ s₀ h₀ ha
    rw [trial, Bool.and_eq_true] at h
    obtain ⟨hg, h⟩ := h
    cases hfs : f s e with
    | error x =>
      rw [hfs] at h
      cases h
    | ok t =>
      rw [hfs] at h
      exact ih h _ s₀ (h₀.snoc (hf s e t hfs)) (along_snoc.2 ⟨ha, hg⟩)

/-- A potential that never grows along an infinite run is constant from some point on. -/
theorem eventually_constant (μ : Nat → Nat) (h : ∀ n, μ (n + 1) ≤ μ n) :
    ∃ k, ∀ n, k ≤ n → μ n = μ k := by
  have hanti : Antitone μ := antitone_nat_of_succ_le h
  suffices hm : ∀ m k, μ k ≤ m → ∃ k, ∀ n, k ≤ n → μ n = μ k from hm _ 0 (Nat.le_refl _)
  intro m
  induction m with
  | zero =>
    intro k hk
    refine ⟨k, fun n hn => ?_⟩
    have := hanti hn
    omega
  | succ m ih =>
    intro k hk
    by_cases hc : ∀ n, k ≤ n → μ n = μ k
    · exact ⟨k, hc⟩
    · simp only [not_forall] at hc
      obtain ⟨n, hn, hne⟩ := hc
      have := hanti hn
      exact ih n (by omega)

end Runs
