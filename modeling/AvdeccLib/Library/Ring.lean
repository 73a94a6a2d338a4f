import AvdeccLib.Library.Runs
import Mathlib.Data.List.Basic
import Mathlib.Data.Nat.ModEq

namespace Ring
set_option autoImplicit true

/-- How a value is copied field by field: when all fields of a value that fits are copied,
nothing is left of the destination. -/
structure Fields (α : Type) where
  count : Nat
  copy : Nat → α → α → α
  fits : α → Prop
  copy_all : ∀ src dest, fits src →
    (List.range count).foldl (fun d i => copy i src d) dest = src

namespace Fields
variable (f : Fields α)

def copied (k : Nat) (src dest : α) : α := (List.range k).foldl (fun d i => f.copy i src d) dest

@[simp] theorem copied_zero (src dest : α) : f.copied 0 src dest = dest := rfl

theorem copied_succ (k : Nat) (src dest : α) :
    f.copied (k + 1) src dest = f.copy k src (f.copied k src dest) := by
  rw [copied, List.range_succ, List.foldl_append]
  rfl

theorem copied_count {src : α} (h : f.fits src) (dest : α) : f.copied f.count src dest = src :=
  f.copy_all src dest h

end Fields

theorem slot_injective (start : Nat) {capacity i j : Nat} (hi : start ≤ i)
    (hi' : i < start + capacity)
    (hj : start ≤ j) (hj' : j < start + capacity) (h : i % capacity = j % capacity) :
    i = j := by
  rcases Nat.le_total i j with hij | hij
  · have hd : capacity ∣ j - i := (Nat.modEq_iff_dvd' hij).1 h
    have hz := Nat.eq_zero_of_dvd_of_lt hd (by omega)
    omega
  · have hd : capacity ∣ i - j := (Nat.modEq_iff_dvd' hij).1 h.symm
    have hz := Nat.eq_zero_of_dvd_of_lt hd (by omega)
    omega

theorem slot_of_wrapped {capacity w : Nat} (h : capacity ∣ 2 ^ w) (n : Nat) :
    (BitVec.ofNat w n).toNat % capacity = n % capacity := by
  rw [BitVec.toNat_ofNat, Nat.mod_mod_of_dvd _ h]

theorem distance_of_wrapped {w m n : Nat} (hle : m ≤ n) (hlt : n - m < 2 ^ w) :
    (BitVec.ofNat w n - BitVec.ofNat w m).toNat = n - m := by
  have hsub : BitVec.ofNat w n = BitVec.ofNat w m + BitVec.ofNat w (n - m) := by
    rw [← BitVec.ofNat_add, Nat.add_sub_cancel' hle]
  rw [hsub, BitVec.add_comm, BitVec.add_sub_cancel, BitVec.toNat_ofNat, Nat.mod_eq_of_lt hlt]

/-- A queue, as what was put in and what was taken out of it. -/
structure Queue (α : Type) where
  accepted : List α
  delivered : List α

def Queue.empty : Queue α := ⟨[], []⟩

inductive Change (α : Type) where
  | keep
  | accept (x : α)
  | deliver (x : α)

inductive Queue.Step (q : Queue α) : Change α → Queue α → Prop where
  | keep : Step q .keep q
  | accept : Step q (.accept x) { q with accepted := q.accepted ++ [x] }
  | deliver (h : q.accepted[q.delivered.length]? = some x) :
      Step q (.deliver x) { q with delivered := q.delivered ++ [x] }

theorem prefix_snoc {l l' : List α} {x : α} (h : l <+: l') (hx : l'[l.length]? = some x) :
    l ++ [x] <+: l' := by
  obtain ⟨r, rfl⟩ := h
  cases r with
  | nil =>
    rw [List.append_nil, List.getElem?_eq_none (Nat.le_refl _)] at hx
    cases hx
  | cons y r =>
    rw [List.getElem?_append_right (Nat.le_refl _), Nat.sub_self] at hx
    cases hx
    exact ⟨r, List.append_assoc l [x] r⟩

/-- Whatever the order of the steps, what is delivered is a prefix of what was accepted. -/
theorem Queue.delivered_prefix {q : Queue α} (h : Runs.Reachable Queue.Step Queue.empty q) :
    q.delivered <+: q.accepted := by
  apply h.invariant (I := fun q => q.delivered <+: q.accepted)
  · exact List.prefix_refl _
  · intro q c q' hq hs
    cases hs with
    | keep => exact hq
    | accept => exact hq.trans (List.prefix_append _ _)
    | deliver hx => exact prefix_snoc hq hx

end Ring
