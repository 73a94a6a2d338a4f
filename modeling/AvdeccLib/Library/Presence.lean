import AvdeccLib.Library.Runs
import Mathlib.Data.Set.Insert

namespace Presence
set_option autoImplicit true

/-- Who is present, with a record of every arrival (`true`) and departure (`false`). -/
structure State (ι : Type) where
  present : Set ι
  record : List (ι × Bool)

def empty : State ι := ⟨∅, []⟩

inductive Change (ι : Type) where
  | keep
  | arrive (i : ι)
  | depart (i : ι)

inductive Step (s : State ι) : Change ι → State ι → Prop where
  | keep : Step s .keep s
  | arrive (h : i ∉ s.present) :
      Step s (.arrive i) ⟨insert i s.present, s.record ++ [(i, true)]⟩
  | depart (h : i ∈ s.present) :
      Step s (.depart i) ⟨s.present \ {i}, s.record ++ [(i, false)]⟩

section
variable [DecidableEq ι]

def history (s : State ι) (i : ι) : List Bool :=
  (s.record.filter fun p => p.1 = i).map Prod.snd

/-- An arrival comes first, and from then on departures and arrivals take turns. -/
def Alternates (l : List Bool) : Prop := ∀ k b, l[k]? = some b → b = decide (k % 2 = 0)

theorem Alternates.snoc {l : List Bool} (h : Alternates l) :
    Alternates (l ++ [decide (l.length % 2 = 0)]) := by
  intro k b hb
  rcases Nat.lt_trichotomy k l.length with hk | rfl | hk
  · rw [List.getElem?_append_left hk] at hb
    exact h k b hb
  · rw [List.getElem?_concat_length] at hb
    exact (Option.some.inj hb).symm
  · have hlen : (l ++ [decide (l.length % 2 = 0)]).length ≤ k := by
      rw [List.length_append]
      exact hk
    rw [List.getElem?_eq_none hlen] at hb
    cases hb

theorem Alternates.getLast? {l : List Bool} (h : Alternates l) (hne : l ≠ []) :
    l.getLast? = some (decide (l.length % 2 = 1)) := by
  have hpos := List.length_pos_iff.2 hne
  rw [List.getLast?_eq_getElem?]
  have hlt : l.length - 1 < l.length := by omega
  have hlast : l[l.length - 1]? = some l[l.length - 1] := List.getElem?_eq_getElem hlt
  have hb := h _ _ hlast
  rw [hlast, hb]
  congr 2
  apply propext
  omega

theorem history_ne_nil {s : State ι} {i : ι} {b : Bool} (h : (i, b) ∈ s.record) :
    history s i ≠ [] := by
  have hm : b ∈ history s i := List.mem_map.2 ⟨(i, b), List.mem_filter.2 ⟨h, by simp⟩, rfl⟩
  exact List.ne_nil_of_mem hm

theorem history_snoc (s : State ι) (t : Set ι) (i j : ι) (b : Bool) :
    history ⟨t, s.record ++ [(i, b)]⟩ j = history s j ++ if i = j then [b] else [] := by
  simp only [history, List.filter_append, List.map_append]
  by_cases h : i = j
  · simp [h]
  · simp [h]

/-- The history of one alternates, and its length says whether the one is present. -/
def Consistent (s : State ι) : Prop :=
  ∀ i, Alternates (history s i) ∧ (i ∈ s.present ↔ (history s i).length % 2 = 1)

theorem empty_consistent : Consistent (empty : State ι) := by
  intro i
  refine ⟨?_, ?_⟩
  · intro k b hb
    cases hb
  · simp [empty, history]

theorem step_consistent {s t : State ι} {c : Change ι} (h : Consistent s) (hs : Step s c t) :
    Consistent t := by
  intro j
  obtain ⟨ha, hp⟩ := h j
  cases hs with
  | keep => exact ⟨ha, hp⟩
  | arrive hi =>
    rename_i i
    rw [history_snoc]
    by_cases hij : i = j
    · subst hij
      have heven : (history s i).length % 2 = 0 := by
        have := mt hp.2 hi
        omega
      have hsnoc := ha.snoc
      rw [heven] at hsnoc
      refine ⟨by simpa using hsnoc, ?_⟩
      simp only [Set.mem_insert_iff, true_or, if_true, List.length_append,
        List.length_singleton, true_iff]
      omega
    · simpa [hij, Ne.symm hij] using ⟨ha, hp⟩
  | depart hi =>
    rename_i i
    rw [history_snoc]
    by_cases hij : i = j
    · subst hij
      have hodd := hp.1 hi
      have hsnoc := ha.snoc
      rw [hodd] at hsnoc
      refine ⟨by simpa using hsnoc, ?_⟩
      simp only [Set.mem_sdiff, Set.mem_singleton_iff, not_true, and_false, if_true,
        List.length_append, List.length_singleton, false_iff]
      omega
    · simpa [hij, Ne.symm hij] using ⟨ha, hp⟩

theorem reachable_consistent {s : State ι} (h : Runs.Reachable Step (empty : State ι) s) :
    Consistent s :=
  h.invariant empty_consistent fun _ _ _ ht hst => step_consistent ht hst

end
end Presence
