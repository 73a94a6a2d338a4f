import Mathlib.Data.List.Basic
import Mathlib.Algebra.Order.Group.Nat

namespace Chunks
set_option autoImplicit true

/-- A list in consecutive pieces of one to `n` elements, each with its position. The first one
is at `a`. -/
inductive Chunked (n : Nat) : Nat → List α → List (Nat × List α) → Prop where
  | nil : Chunked n a [] []
  | cons : c ≠ [] → c.length ≤ n → Chunked n (a + c.length) l chunks →
      Chunked n a (c ++ l) ((a, c) :: chunks)

/-- The pieces cover each position of the list once, and each holds what the list has there. -/
structure Partition (n : Nat) (l : List α) (chunks : List (Nat × List α)) : Prop where
  size : ∀ p ∈ chunks, 1 ≤ p.2.length ∧ p.2.length ≤ n
  consecutive : chunks.IsChain fun p q => q.1 = p.1 + p.2.length
  once : ∀ x, chunks.countP (fun p => p.1 ≤ x ∧ x < p.1 + p.2.length) =
    if x < l.length then 1 else 0
  data : ∀ p ∈ chunks, p.2 = (l.drop p.1).take p.2.length

/-- The elements up to the first whose index has the property; the first of the list has the
index `k`. -/
def upToFirst (p : Nat → Bool) (k : Nat) : List α → List α
  | [] => []
  | x :: l => x :: if p k then [] else upToFirst p (k + 1) l

section
variable {n a : Nat} {l : List α} {chunks : List (Nat × List α)}

theorem Chunked.eq_nil (h : Chunked n a l chunks) (hl : l = []) : chunks = [] := by
  cases h with
  | nil => rfl
  | cons hc => exact absurd (List.append_eq_nil_iff.1 hl).1 hc

theorem Chunked.cons_take (h : Chunked n (a + n) (l.drop n) chunks) (hl : l ≠ []) (hn : 0 < n) :
    Chunked n a l ((a, l.take n) :: chunks) := by
  have hrest : Chunked n (a + (l.take n).length) (l.drop n) chunks := by
    by_cases hle : n ≤ l.length
    · rwa [List.length_take_of_le hle]
    · have hdrop : l.drop n = [] := List.drop_of_length_le (Nat.le_of_not_le hle)
      rw [h.eq_nil hdrop, hdrop]
      exact .nil
  have hne : l.take n ≠ [] := by
    rw [Ne, List.take_eq_nil_iff, not_or]
    exact ⟨hn.ne', hl⟩
  have hcons := hrest.cons hne (List.length_take_le _ _)
  rwa [List.take_append_drop] at hcons

theorem Chunked.size (h : Chunked n a l chunks) :
    ∀ p ∈ chunks, 1 ≤ p.2.length ∧ p.2.length ≤ n := by
  induction h with
  | nil => exact List.forall_mem_nil _
  | cons hc hn _ ih => exact List.forall_mem_cons.2 ⟨⟨List.length_pos_iff.2 hc, hn⟩, ih⟩

theorem Chunked.consecutive (h : Chunked n a l chunks) :
    chunks.IsChain fun p q => q.1 = p.1 + p.2.length := by
  induction h with
  | nil => exact .nil
  | cons _ _ h ih =>
    cases h with
    | nil => exact .singleton _
    | cons => exact .cons_cons rfl ih

theorem Chunked.once (h : Chunked n a l chunks) (x : Nat) :
    chunks.countP (fun p => p.1 ≤ x ∧ x < p.1 + p.2.length) =
      if a ≤ x ∧ x < a + l.length then 1 else 0 := by
  induction h with
  | nil =>
    rw [if_neg]
    · rfl
    · exact fun h => Nat.not_le_of_lt h.2 h.1
  | cons _ _ _ ih =>
    rw [List.countP_cons, ih, List.length_append]
    simp only [decide_eq_true_eq]
    split <;> split <;> split <;> omega

theorem Chunked.data (h : Chunked n a l chunks) :
    ∀ p ∈ chunks, a ≤ p.1 ∧ p.2 = (l.drop (p.1 - a)).take p.2.length := by
  induction h with
  | nil => exact List.forall_mem_nil _
  | @cons c a l _ _ _ _ ih =>
    rw [List.forall_mem_cons]
    constructor
    · refine ⟨Nat.le_refl a, ?_⟩
      rw [Nat.sub_self, List.drop_zero, List.take_left]
    · intro p hp
      obtain ⟨ha, hd⟩ := ih p hp
      refine ⟨(Nat.le_add_right a c.length).trans ha, ?_⟩
      have hsub : p.1 - a = c.length + (p.1 - (a + c.length)) := by omega
      rwa [hsub, List.drop_append, List.drop_of_length_le (Nat.le_add_right _ _),
        List.nil_append, Nat.add_sub_cancel_left]

theorem Chunked.partition (h : Chunked n 0 l chunks) : Partition n l chunks where
  size := h.size
  consecutive := h.consecutive
  once x := by
    rw [h.once x]
    simp only [Nat.zero_le, true_and, Nat.zero_add]
  data p hp := (h.data p hp).2

end

section
variable {p : Nat → Bool} {k i : Nat} {l : List α}

theorem upToFirst_eq_self (h : ∀ i < l.length, p (k + i) = false) : upToFirst p k l = l := by
  induction l generalizing k with
  | nil => rfl
  | cons x l ih =>
    have hk : p k = false := h 0 (Nat.zero_lt_succ _)
    rw [upToFirst, hk, ih]
    · rfl
    · intro i hi
      rw [Nat.add_assoc, Nat.add_comm 1]
      exact h (i + 1) (Nat.succ_lt_succ hi)

theorem upToFirst_eq_take (h : ∀ j < i, p (k + j) = false) (hi : p (k + i) = true) :
    upToFirst p k l = l.take (i + 1) := by
  induction l generalizing k i with
  | nil => rfl
  | cons x l ih =>
    cases i with
    | zero =>
      have hk : p k = true := hi
      rw [upToFirst, if_pos hk]
      rfl
    | succ i =>
      have hk : p k = false := h 0 (Nat.zero_lt_succ _)
      rw [upToFirst, hk, List.take_succ_cons, ← ih (k := k + 1) (i := i)]
      · rfl
      · intro j hj
        rw [Nat.add_assoc, Nat.add_comm 1]
        exact h (j + 1) (Nat.succ_lt_succ hj)
      · rwa [Nat.add_assoc, Nat.add_comm 1]

end

end Chunks
