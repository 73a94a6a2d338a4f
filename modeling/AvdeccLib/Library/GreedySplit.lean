import Mathlib.Data.List.Forall2
import Mathlib.Data.List.TakeWhile

namespace GreedySplit
set_option autoImplicit true

/-- A place for between `min` and `max` tokens that it accepts. -/
structure Slot (τ : Type) where
  accepts : τ → Bool
  min : Nat
  max : Nat

namespace Slot

structure Holds (s : Slot τ) (g : List τ) : Prop where
  accepts : ∀ t ∈ g, s.accepts t = true
  min : s.min ≤ g.length
  max : g.length ≤ s.max

/-- As many tokens from the front as the slot takes. -/
def take (s : Slot τ) (ts : List τ) : List τ := (ts.take s.max).takeWhile s.accepts

/-- The slot with one token in it. -/
def rest (s : Slot τ) : Slot τ := ⟨s.accepts, s.min - 1, s.max - 1⟩

end Slot

/-- One group of tokens for each slot, in order. -/
structure Splits (slots : List (Slot τ)) (groups : List (List τ)) (ts : List τ) : Prop where
  holds : List.Forall₂ Slot.Holds slots groups
  flatten : groups.flatten = ts

/-- Each slot takes all it can before the next one has its turn. -/
def greedy : List (Slot τ) → List τ → Option (List (List τ))
  | [], [] => some []
  | [], _ :: _ => none
  | s :: slots, ts =>
    if s.min ≤ (s.take ts).length then
      (greedy slots (ts.drop (s.take ts).length)).map (s.take ts :: ·)
    else none

section
variable {s : Slot τ} {slots : List (Slot τ)} {groups : List (List τ)} {g ts : List τ} {t : τ}

theorem Slot.take_prefix (s : Slot τ) (ts : List τ) : s.take ts <+: ts :=
  (List.takeWhile_prefix _).trans (List.take_prefix _ _)

theorem Slot.take_append_drop (s : Slot τ) (ts : List τ) :
    s.take ts ++ ts.drop (s.take ts).length = ts :=
  List.prefix_iff_eq_append.1 (s.take_prefix ts)

theorem Slot.length_take_le (s : Slot τ) (ts : List τ) : (s.take ts).length ≤ s.max :=
  (List.takeWhile_prefix _).length_le.trans (List.length_take_le _ _)

theorem Slot.accepts_of_mem_take (h : t ∈ s.take ts) : s.accepts t = true :=
  List.mem_takeWhile_imp h

theorem Slot.take_of_not_accepts (h : s.accepts t = false) : s.take (t :: ts) = [] := by
  rw [take]
  cases s.max with
  | zero => rfl
  | succ n => rw [List.take_succ_cons, List.takeWhile_cons_of_neg (Bool.eq_false_iff.1 h)]

theorem Slot.take_nil (s : Slot τ) : s.take [] = [] := by
  rw [take, List.take_nil, List.takeWhile_nil]

theorem Slot.take_of_max (h : s.max = 0) : s.take ts = [] := by
  rw [take, h]
  rfl

theorem Slot.take_cons (h : s.accepts t = true) (hmax : 0 < s.max) :
    s.take (t :: ts) = t :: s.rest.take ts := by
  obtain ⟨n, hn⟩ := Nat.exists_eq_succ_of_ne_zero (Nat.ne_of_gt hmax)
  rw [take, take, rest, hn, List.take_succ_cons, List.takeWhile_cons_of_pos h]
  rfl

theorem Slot.Holds.take (h : s.Holds g) (hts : ts = [] ∨ g.length = s.max) :
    s.take (g ++ ts) = g := by
  have hall : g.takeWhile s.accepts = g := List.takeWhile_eq_self_iff.2 h.accepts
  rcases hts with rfl | hfull
  · rw [List.append_nil, Slot.take, List.take_of_length_le h.max, hall]
  · rw [Slot.take, ← hfull, List.take_left, hall]

theorem Slot.Holds.length_eq_one (h : s.Holds g) (hone : s.min = 1 ∧ s.max = 1) :
    g.length = 1 :=
  Nat.le_antisymm (hone.2 ▸ h.max) (hone.1 ▸ h.min)

theorem splits_of_greedy (h : greedy slots ts = some groups) : Splits slots groups ts := by
  induction slots generalizing ts groups with
  | nil =>
    cases ts with
    | nil =>
      cases h
      exact ⟨.nil, rfl⟩
    | cons t ts => cases h
  | cons s slots ih =>
    rw [greedy] at h
    split at h
    · next hmin =>
      obtain ⟨gs, hgs, rfl⟩ := Option.map_eq_some_iff.1 h
      have htail := ih hgs
      constructor
      · exact .cons ⟨fun t => Slot.accepts_of_mem_take, hmin, s.length_take_le ts⟩ htail.holds
      · rw [List.flatten_cons, htail.flatten, s.take_append_drop]
    · cases h

/-- Where all slots but the last leave no choice, a split is found whenever there is one. -/
theorem greedy_of_splits (hfixed : ∀ s ∈ slots.dropLast, s.min = s.max)
    (h : Splits slots groups ts) : greedy slots ts = some groups := by
  obtain ⟨hholds, rfl⟩ := h
  induction hholds with
  | nil => rfl
  | @cons s g slots gs hs hgs ih =>
    have hrest : ∀ s' ∈ slots.dropLast, s'.min = s'.max := by
      intro s' hs'
      apply hfixed
      cases slots with
      | nil => cases hs'
      | cons s₁ slots => exact List.mem_cons_of_mem s hs'
    have hfull : gs.flatten = [] ∨ g.length = s.max := by
      cases slots with
      | nil =>
        cases hgs
        exact .inl rfl
      | cons s₁ slots =>
        have heq := hfixed s List.mem_cons_self
        have hmin := hs.min
        have hmax := hs.max
        omega
    have htake : s.take (g :: gs).flatten = g := hs.take hfull
    rw [greedy, htake, if_pos hs.min, List.flatten_cons, List.drop_left, ih hrest]
    rfl

/-- The split is then the only one. -/
theorem splits_unique (hfixed : ∀ s ∈ slots.dropLast, s.min = s.max) {groups' : List (List τ)}
    (h : Splits slots groups ts) (h' : Splits slots groups' ts) : groups' = groups :=
  Option.some.inj ((greedy_of_splits hfixed h').symm.trans (greedy_of_splits hfixed h))

theorem Splits.getElem?_single {us : List τ} (h : Splits slots groups (ts ++ t :: us))
    (hone : ∀ s ∈ slots.take (ts.length + 1), s.min = 1 ∧ s.max = 1) :
    groups[ts.length]? = some [t] := by
  induction ts generalizing slots groups with
  | nil =>
    obtain ⟨hholds, hflat⟩ := h
    cases hholds with
    | nil => cases hflat
    | @cons s g slots gs hs hgs =>
      obtain ⟨t', rfl⟩ :=
        List.length_eq_one_iff.1 (hs.length_eq_one (hone s List.mem_cons_self))
      cases hflat
      rfl
  | cons t₀ ts ih =>
    obtain ⟨hholds, hflat⟩ := h
    cases hholds with
    | nil => cases hflat
    | @cons s g slots gs hs hgs =>
      obtain ⟨t', rfl⟩ :=
        List.length_eq_one_iff.1 (hs.length_eq_one (hone s List.mem_cons_self))
      rw [List.flatten_cons, List.singleton_append, List.cons_append] at hflat
      refine ih ⟨hgs, (List.cons.inj hflat).2⟩ ?_
      intro s' hs'
      exact hone s' (List.mem_cons_of_mem s hs')

/-! One token at a time. -/

theorem greedy_pass (slots : List (Slot τ)) (h : s.take ts = []) :
    greedy (s :: slots) ts = if s.min = 0 then (greedy slots ts).map ([] :: ·) else none := by
  rw [greedy, h]
  simp only [List.length_nil, Nat.le_zero, List.drop_zero]

def consHead (t : τ) : List (List τ) → List (List τ)
  | [] => []
  | g :: gs => (t :: g) :: gs

theorem greedy_accept (slots : List (Slot τ)) (ts : List τ) (h : s.accepts t = true)
    (hmax : 0 < s.max) :
    greedy (s :: slots) (t :: ts) = (greedy (s.rest :: slots) ts).map (consHead t) := by
  rw [greedy, greedy, Slot.take_cons h hmax, List.length_cons, List.drop_succ_cons]
  by_cases hmin : s.min ≤ (s.rest.take ts).length + 1
  · have hmin' : s.rest.min ≤ (s.rest.take ts).length := Nat.sub_le_of_le_add hmin
    rw [if_pos hmin, if_pos hmin', Option.map_map]
    rfl
  · have hmin' : ¬ s.rest.min ≤ (s.rest.take ts).length :=
      fun h => hmin (Nat.le_add_of_sub_le h)
    rw [if_neg hmin, if_neg hmin']
    rfl

end
end GreedySplit
