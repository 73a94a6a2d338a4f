import Mathlib.Dynamics.PeriodicPts.Defs

namespace Fetch
set_option autoImplicit true

abbrev Byte := BitVec 8

/-- A buffer and what is behind it in memory. -/
abbrev Memory := Nat → Byte

/-- A value that was read, and the positions of the bytes that were read for it. -/
abbrev Fetched (α : Type) := α × List Nat

def uint16Get (frame : Memory) (pos : Nat) : Fetched (BitVec 16) :=
  (frame pos ++ frame (pos + 1), [pos, pos + 1])

def uint32Get (frame : Memory) (pos : Nat) : Fetched (BitVec 32) :=
  (frame pos ++ frame (pos + 1) ++ frame (pos + 2) ++ frame (pos + 3),
    [pos, pos + 1, pos + 2, pos + 3])

/-- A loop that fetches one element in each turn and moves its offset on. -/
def fetchLoop (fetch : σ → Fetched α) (next : σ → σ) : Nat → σ → Fetched (List α)
  | 0, _ => ([], [])
  | n + 1, offset =>
    let rest := fetchLoop fetch next n (next offset)
    ((fetch offset).1 :: rest.1, (fetch offset).2 ++ rest.2)

section
variable {fetch fetch' : σ → Fetched α} {next : σ → σ} {n k len : Nat} {offset : σ}

theorem mem_fetchLoop {p : Nat} : p ∈ (fetchLoop fetch next n offset).2 ↔
    ∃ i < n, p ∈ (fetch (next^[i] offset)).2 := by
  induction n generalizing offset with
  | zero =>
    constructor
    · intro h
      cases h
    · rintro ⟨i, hi, -⟩
      exact absurd hi (Nat.not_lt_zero i)
  | succ n ih =>
    rw [fetchLoop, List.mem_append, ih]
    constructor
    · rintro (h | ⟨i, hi, h⟩)
      · exact ⟨0, Nat.succ_pos n, h⟩
      · exact ⟨i + 1, Nat.succ_lt_succ hi, h⟩
    · rintro ⟨i, hi, h⟩
      cases i with
      | zero => exact .inl h
      | succ i => exact .inr ⟨i, Nat.lt_of_succ_lt_succ hi, h⟩

/-- Where the elements lie one stride behind each other, the loop stays in front of a position
exactly if the last element ends there at the latest. -/
theorem fetchLoop_within_iff (start stride size : Nat) (hsize : 0 < size)
    (hat : ∀ i < n, ∀ p, p ∈ (fetch (next^[i] offset)).2 ↔
      start + stride * i ≤ p ∧ p < start + stride * i + size) :
    (∀ p ∈ (fetchLoop fetch next n offset).2, p < len) ↔
      n = 0 ∨ start + stride * (n - 1) + size ≤ len := by
  cases n with
  | zero =>
    simp only [true_or, iff_true]
    intro p hp
    cases hp
  | succ k =>
    rw [or_iff_right (Nat.succ_ne_zero k), Nat.add_sub_cancel]
    constructor
    · intro h
      have hlast : start + stride * k + size - 1 ∈ (fetch (next^[k] offset)).2 := by
        rw [hat k (Nat.lt_succ_self k)]
        omega
      have hlt := h _ (mem_fetchLoop.2 ⟨k, Nat.lt_succ_self k, hlast⟩)
      omega
    · intro h p hp
      obtain ⟨i, hi, hp⟩ := mem_fetchLoop.1 hp
      have hend := ((hat i hi p).1 hp).2
      have hle : stride * i ≤ stride * k := Nat.mul_le_mul_left stride (Nat.le_of_lt_succ hi)
      omega

/-- Once the offset is back where it started, nothing new is read. -/
theorem fetchLoop_within_min (hk : 0 < k) (hback : Function.IsPeriodicPt next k offset) :
    (∀ p ∈ (fetchLoop fetch next n offset).2, p < len) ↔
      ∀ p ∈ (fetchLoop fetch next (min n k) offset).2, p < len := by
  apply forall_congr'
  intro p
  apply imp_congr_left
  rw [mem_fetchLoop, mem_fetchLoop]
  constructor
  · rintro ⟨i, hi, hp⟩
    have hle := Nat.mod_le i k
    have hlt := Nat.mod_lt i hk
    refine ⟨i % k, by omega, ?_⟩
    rwa [hback.iterate_mod_apply]
  · rintro ⟨i, hi, hp⟩
    exact ⟨i, by omega, hp⟩

theorem iterate_add (step start i : Nat) :
    (fun x => x + step)^[i] start = start + step * i := by
  induction i with
  | zero => rfl
  | succ i ih => rw [Function.iterate_succ_apply', ih, Nat.mul_succ, Nat.add_assoc]

theorem iterate_add_toNat {w : Nat} (step start : BitVec w) (i : Nat) :
    ((fun x => x + step)^[i] start).toNat = (start.toNat + step.toNat * i) % 2 ^ w := by
  induction i with
  | zero => exact (Nat.mod_eq_of_lt start.isLt).symm
  | succ i ih =>
    rw [Function.iterate_succ_apply', BitVec.toNat_add, ih, Nat.mod_add_mod, Nat.mul_succ,
      Nat.add_assoc]

end
end Fetch
