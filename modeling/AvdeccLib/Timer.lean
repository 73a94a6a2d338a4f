import Mathlib.Algebra.GroupWithZero.Nat
import Mathlib.Algebra.Ring.Int.Defs
import Mathlib.Data.List.Basic

namespace AvdeccLib
set_option autoImplicit true

/-- `avdecc_lib_os::aTimestamp` on Linux: the monotonic clock in milliseconds, in 32 bits. -/
abbrev Timestamp := BitVec 32

structure Timer where
  running : Bool
  elapsed : Bool
  count : BitVec 32
  startTime : Timestamp
  deriving DecidableEq

def Timer.new : Timer := ⟨false, false, 0, 0⟩

/-- `timer::start` sets every field, so the timer it is called on does not matter. -/
def Timer.start (now : Timestamp) (durationMs : BitVec 32) : Timer :=
  ⟨true, false, durationMs, now⟩

/-- `timer::timeout` as it changes the timer: the elapsed flag is latched. -/
def Timer.poll (now : Timestamp) (t : Timer) : Timer :=
  if t.running && !t.elapsed then
    let elapsedMs := now - t.startTime
    if t.count < elapsedMs then { t with elapsed := true } else t
  else t

def Timer.timeout (now : Timestamp) (t : Timer) : Bool := (t.poll now).elapsed

/-- `struct timespec` of the monotonic clock. -/
structure Timespec where
  tvSec : Nat
  tvNsec : Nat
  nsec_lt : tvNsec < 1000000000

def Timespec.ns (tp : Timespec) : Nat := tp.tvSec * 1000000000 + tp.tvNsec

/-- The clock in milliseconds, rounded down. -/
def Timespec.ms (tp : Timespec) : Nat := tp.ns / 1000000

/-- `clk_monotonic` on Linux: each of the two summands is cast to 32 bits. -/
def Timer.clkMonotonic (tp : Timespec) : Timestamp :=
  BitVec.ofNat 32 (tp.tvSec * 1000) + BitVec.ofNat 32 (tp.tvNsec / 1000000)

def Timer.stop (t : Timer) : Timer := { t with running := false, elapsed := false }

/-- What the calls of `timeout` at these instants return. -/
def Timer.polls (t : Timer) : List Timespec → List Bool
  | [] => []
  | tp :: tps =>
    t.timeout (clkMonotonic tp) :: (t.poll (clkMonotonic tp)).polls tps

@[simp] theorem Timer.start_timeout_self (now : Timestamp) (d : BitVec 32) :
    (Timer.start now d).timeout now = false := by
  have h : ¬ d < now - now := by rw [BitVec.sub_self]; exact BitVec.not_lt_zero
  simp only [Timer.timeout, Timer.poll, Timer.start, Bool.not_false, Bool.and_self, if_true, h,
    if_false]

theorem Timer.elapsedMs_le {t clock : Nat} (h : t ≤ clock) :
    (BitVec.ofNat 32 clock - BitVec.ofNat 32 t).toNat ≤ clock - t := by
  rw [BitVec.toNat_sub, BitVec.toNat_ofNat, BitVec.toNat_ofNat]
  omega

theorem Timer.start_timeout_iff (now t : Timestamp) (d : BitVec 32) :
    (Timer.start t d).timeout now = true ↔ d < now - t := by
  change (if d < now - t then { start t d with elapsed := true } else start t d).elapsed =
    true ↔ _
  by_cases h : d < now - t
  · rw [if_pos h]
    exact iff_of_true rfl h
  · rw [if_neg h]
    exact iff_of_false Bool.false_ne_true h

/-- The timer was started at the time `t` for `d` milliseconds and was last looked at when the
clock was at `clock` or before. -/
structure Timer.Since (t clock : Nat) (d : BitVec 32) (timer : Timer) : Prop where
  past : t ≤ clock
  running : timer.running = true
  count : timer.count = d
  startTime : timer.startTime = BitVec.ofNat 32 t
  latched : timer.elapsed = true → t + d.toNat < clock

theorem Timer.Since.start (t : Nat) (d : BitVec 32) : Since t t d (.start (.ofNat 32 t) d) := by
  refine ⟨Nat.le_refl t, rfl, rfl, rfl, ?_⟩
  intro h
  cases h

theorem Timer.Since.mono {t clock clock' : Nat} {d : BitVec 32} {timer : Timer}
    (h : timer.Since t clock d) (hc : clock ≤ clock') : timer.Since t clock' d :=
  ⟨Nat.le_trans h.past hc, h.running, h.count, h.startTime,
    fun he => Nat.lt_of_lt_of_le (h.latched he) hc⟩

theorem Timer.Since.poll {t clock : Nat} {d : BitVec 32} {timer : Timer}
    (h : timer.Since t clock d) : (timer.poll (.ofNat 32 clock)).Since t clock d := by
  rw [Timer.poll]
  split
  · dsimp only
    split
    · rename_i hlt
      refine ⟨h.past, h.running, h.count, h.startTime, ?_⟩
      intro
      have hle := elapsedMs_le h.past
      rw [h.count, h.startTime, BitVec.lt_def] at hlt
      have hpast := h.past
      omega
    · exact h
  · exact h

/-- The elapsed time is what passed for as long as that fits in 32 bits. -/
theorem Timer.elapsedMs_eq {t clock : Nat} (h : t ≤ clock) (hlt : clock < t + 2 ^ 32) :
    (BitVec.ofNat 32 clock - BitVec.ofNat 32 t).toNat = clock - t := by
  rw [BitVec.toNat_sub, BitVec.toNat_ofNat, BitVec.toNat_ofNat]
  omega

theorem Timer.clkMonotonic_eq (tp : Timespec) : clkMonotonic tp = BitVec.ofNat 32 tp.ms := by
  have hms : tp.ms = tp.tvSec * 1000 + tp.tvNsec / 1000000 := by
    rw [Timespec.ms, Timespec.ns]
    omega
  rw [clkMonotonic, hms, BitVec.ofNat_add]

theorem Timespec.ms_mono {tp tp' : Timespec} (h : tp.ns ≤ tp'.ns) : tp.ms ≤ tp'.ms :=
  Nat.div_le_div_right h

theorem Timer.poll_elapsed (now : Timestamp) {t : Timer} (h : t.elapsed = true) :
    t.poll now = t := by
  rw [poll, h, Bool.not_true, Bool.and_false, if_neg Bool.false_ne_true]

/-- As long as the time since the start fits in 32 bits, the timer has expired exactly if more
than its duration has passed. -/
theorem Timer.Since.timeout_iff {t clock now : Nat} {d : BitVec 32} {timer : Timer}
    (h : timer.Since t clock d) (hc : clock ≤ now) (hlt : now < t + 2 ^ 32) :
    timer.timeout (.ofNat 32 now) = true ↔ t + d.toNat < now := by
  have hle := Nat.le_trans h.past hc
  have helapsed := elapsedMs_eq hle hlt
  cases he : timer.elapsed with
  | true =>
    rw [Timer.timeout, poll_elapsed _ he]
    exact iff_of_true he (Nat.lt_of_lt_of_le (h.latched he) hc)
  | false =>
    rw [Timer.timeout, Timer.poll, he, h.running, h.count, h.startTime, Bool.not_false,
      Bool.and_self, if_pos rfl]
    dsimp only
    by_cases hd : d < BitVec.ofNat 32 now - BitVec.ofNat 32 t
    · rw [if_pos hd]
      rw [BitVec.lt_def, helapsed] at hd
      exact iff_of_true rfl (by omega)
    · rw [if_neg hd, he]
      rw [BitVec.lt_def, helapsed] at hd
      exact iff_of_false Bool.false_ne_true (by omega)

theorem Timer.Since.polls {t clock : Nat} {d : BitVec 32} {timer : Timer}
    (h : timer.Since t clock d) {tps : List Timespec} (hc : ∀ tp ∈ tps, clock ≤ tp.ms)
    (hmono : tps.Pairwise fun tp tp' => tp.ms ≤ tp'.ms) {i : Nat} {tp : Timespec}
    (hi : tps[i]? = some tp) (hlt : tp.ms < t + 2 ^ 32) :
    (timer.polls tps)[i]? = some (decide (t + d.toNat < tp.ms)) := by
  induction tps generalizing timer clock i with
  | nil => cases hi
  | cons q tps ih =>
    obtain ⟨hq, hmono⟩ := List.pairwise_cons.1 hmono
    have hcq := hc q (List.mem_cons_self ..)
    cases i with
    | zero =>
      cases hi
      rw [Timer.polls, List.getElem?_cons_zero, clkMonotonic_eq]
      exact congrArg some
        (Bool.eq_iff_iff.2 ((h.timeout_iff hcq hlt).trans decide_eq_true_iff.symm))
    | succ i =>
      have hpoll := (h.mono hcq).poll
      rw [← clkMonotonic_eq] at hpoll
      exact ih hpoll hq hmono hi

theorem Timer.polls_of_elapsed {t : Timer} (h : t.elapsed = true) (tps : List Timespec) :
    t.polls tps = List.replicate tps.length true := by
  induction tps with
  | nil => rfl
  | cons tp tps ih =>
    rw [polls, timeout, poll_elapsed _ h, h, ih]
    rfl

theorem Timer.polls_latched (t : Timer) (tps : List Timespec) :
    (t.polls tps).Pairwise fun r r' => r = true → r' = true := by
  induction tps generalizing t with
  | nil => exact .nil
  | cons tp tps ih =>
    refine .cons ?_ (ih _)
    intro r hr he
    rw [polls_of_elapsed he] at hr
    exact List.eq_of_mem_replicate hr

theorem Timer.polls_stop (t : Timer) (tps : List Timespec) :
    t.stop.polls tps = List.replicate tps.length false := by
  induction tps with
  | nil => rfl
  | cons tp tps ih =>
    have hpoll : t.stop.poll (clkMonotonic tp) = t.stop := rfl
    rw [polls, timeout, hpoll, ih]
    rfl

/-- The timer is right across the wrap of the clock, and what it has latched stays. -/
theorem Timer.polls_after_start (s : Timespec) (d : Int) (hd : 0 ≤ d) (hlt : d < 2 ^ 31)
    (tps : List Timespec) (hmono : (s :: tps).Pairwise fun tp tp' => tp.ns ≤ tp'.ns) :
    (∀ (i : Nat) (tp : Timespec), tps[i]? = some tp → tp.ms < s.ms + 2 ^ 32 →
      ((start (clkMonotonic s) (.ofInt 32 d)).polls tps)[i]? =
        some (decide (d < (tp.ms : Int) - s.ms))) ∧
      ((start (clkMonotonic s) (.ofInt 32 d)).polls tps).Pairwise
        fun r r' => r = true → r' = true := by
  refine ⟨?_, polls_latched _ _⟩
  intro i tp hi hwin
  have hmono := hmono.imp (S := fun tp tp' => tp.ms ≤ tp'.ms) Timespec.ms_mono
  obtain ⟨hs, hmono⟩ := List.pairwise_cons.1 hmono
  have hsince := Since.start s.ms (.ofInt 32 d)
  have hd' : (BitVec.ofInt 32 d).toNat = d.toNat := by
    rw [BitVec.toNat_ofInt]
    omega
  rw [← clkMonotonic_eq] at hsince
  rw [hsince.polls hs hmono hi hwin, hd']
  exact congrArg some (decide_eq_decide.2 (by omega))

/-- The clock wraps between the start and the first poll; the last poll is made when the clock
reads again what it read at the start. -/
theorem Timer.polls_after_start_wrap :
    ((start (clkMonotonic ⟨4294967, 295000000, by decide⟩) (.ofInt 32 5)).polls
        [⟨4294967, 300999999, by decide⟩, ⟨4294967, 301000000, by decide⟩,
          ⟨8589934, 591000000, by decide⟩])[1]? = some true ∧
      ((start (clkMonotonic ⟨4294967, 295000000, by decide⟩) (.ofInt 32 5)).polls
        [⟨4294967, 300999999, by decide⟩, ⟨4294967, 301000000, by decide⟩,
          ⟨8589934, 591000000, by decide⟩]).Pairwise fun r r' => r = true → r' = true := by
  have h := polls_after_start ⟨4294967, 295000000, by decide⟩ 5 (by decide) (by decide)
    [⟨4294967, 300999999, by decide⟩, ⟨4294967, 301000000, by decide⟩,
      ⟨8589934, 591000000, by decide⟩] (by decide)
  exact ⟨h.1 1 _ rfl (by decide), h.2⟩

end AvdeccLib
