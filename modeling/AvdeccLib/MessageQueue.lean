import AvdeccLib.Library.Ring
import AvdeccLib.MsvcPoll
import Mathlib.Logic.Function.Basic

namespace AvdeccLib
set_option autoImplicit true

open Runs Ring FirstMatch

/-- Where a thread is in its calls of `system_message_queue`: outside of them, behind the wait
of `queue_push`, in front of its post, behind the wait for `data_avail`, or in front of the post
of `queue_pop_nowait`, with the message that it has copied out. -/
inductive QueuePc (α : Type) where
  | idle
  | pushing (m : α)
  | pushed
  | popping
  | popped (m : α)

namespace QueuePc

@[simp] def isPushing : QueuePc α → Bool
  | .pushing _ => true
  | _ => false

@[simp] def isPushed : QueuePc α → Bool
  | .pushed => true
  | _ => false

@[simp] def isPopping : QueuePc α → Bool
  | .popping => true
  | _ => false

@[simp] def isPopped : QueuePc α → Bool
  | .popped _ => true
  | _ => false

end QueuePc

/-- The fields of `system_message_queue`, and the threads that call it. `pushes` and `pops` are
not in the source: they record the messages in the order of the critical sections. -/
structure MessageQueue (α : Type) where
  inPos : Nat
  outPos : Nat
  buf : Nat → α
  spaceAvail : Nat
  dataAvail : Nat
  threads : List (QueuePc α)
  pushes : List α
  pops : List α

/-- A thread begins `queue_push`, or it acquires `data_avail` (in `queue_pop_wait`, or in the
wait of `poll_single`), or it goes on in the call that it is in. -/
inductive QueueAction (α : Type) where
  | queuePush (i : Nat) (m : α)
  | acquireData (i : Nat)
  | advance (i : Nat)

/-- The post of a semaphore: `sem_post`, or `ReleaseSemaphore`, which fails at the maximum count
that the semaphore was created with. -/
def releaseSemaphore (maximumCount : Option Nat) (n : Nat) : Nat :=
  match maximumCount with
  | some maximumCount => if n < maximumCount then n + 1 else n
  | none => n + 1

namespace MessageQueue

/-- The constructor, with any number of threads outside of the queue. -/
def new (entryCount threadCount : Nat) (zero : α) : MessageQueue α where
  inPos := 0
  outPos := 0
  buf _ := zero
  spaceAvail := entryCount
  dataAvail := 0
  threads := List.replicate threadCount .idle
  pushes := []
  pops := []

/-- One step of one thread: a wait that is over, a critical section, or a post. -/
inductive Step (entryCount : Nat) (maximumCount : Option Nat) (s : MessageQueue α) :
    QueueAction α → MessageQueue α → Prop where
  | waitSpace (h : s.threads[i]? = some .idle) (hs : 0 < s.spaceAvail) :
      Step entryCount maximumCount s (.queuePush i m)
        { s with spaceAvail := s.spaceAvail - 1, threads := s.threads.set i (.pushing m) }
  | copyIn (h : s.threads[i]? = some (.pushing m)) :
      Step entryCount maximumCount s (.advance i)
        { s with
          buf := Function.update s.buf s.inPos m
          inPos := (s.inPos + 1) % entryCount
          threads := s.threads.set i .pushed
          pushes := s.pushes ++ [m] }
  | postData (h : s.threads[i]? = some .pushed) :
      Step entryCount maximumCount s (.advance i)
        { s with
          dataAvail := releaseSemaphore maximumCount s.dataAvail
          threads := s.threads.set i .idle }
  | waitData (h : s.threads[i]? = some .idle) (hs : 0 < s.dataAvail) :
      Step entryCount maximumCount s (.acquireData i)
        { s with dataAvail := s.dataAvail - 1, threads := s.threads.set i .popping }
  | copyOut (h : s.threads[i]? = some .popping) :
      Step entryCount maximumCount s (.advance i)
        { s with
          outPos := (s.outPos + 1) % entryCount
          threads := s.threads.set i (.popped (s.buf s.outPos))
          pops := s.pops ++ [s.buf s.outPos] }
  | postSpace (h : s.threads[i]? = some (.popped m)) :
      Step entryCount maximumCount s (.advance i)
        { s with
          spaceAvail := releaseSemaphore maximumCount s.spaceAvail
          threads := s.threads.set i .idle }

/-- The queue as what went into it and what came out. -/
def queue (s : MessageQueue α) : Queue α := ⟨s.pushes, s.pops⟩

/-- Every place of the buffer is accounted for: by the semaphore that counts it, by the thread
that has acquired it, or by the message that is stored in it. -/
structure Accounted (entryCount : Nat) (s : MessageQueue α) : Prop where
  space : s.spaceAvail + s.threads.countP QueuePc.isPushing + s.pushes.length +
    s.threads.countP QueuePc.isPopped = entryCount + s.pops.length
  data : s.dataAvail + s.threads.countP QueuePc.isPushed + s.threads.countP QueuePc.isPopping +
    s.pops.length = s.pushes.length
  inPos : s.inPos = s.pushes.length % entryCount
  outPos : s.outPos = s.pops.length % entryCount
  kept : ∀ k m, s.pops.length ≤ k → s.pushes[k]? = some m → s.buf (k % entryCount) = m

/-- What the queue is for: the messages come out as they went in, and a stored message is not
overwritten. -/
structure Bounded (entryCount : Nat) (s : MessageQueue α) : Prop where
  inOrder : s.pops <+: s.pushes
  stored : s.pushes.length ≤ s.pops.length + entryCount
  inPos : s.inPos = s.pushes.length % entryCount
  outPos : s.outPos = s.pops.length % entryCount
  kept : ∀ k m, s.pops.length ≤ k → s.pushes[k]? = some m → s.buf (k % entryCount) = m
  room : ∀ (i : Nat) (m : α), s.threads[i]? = some (.pushing m) →
    ∀ k, s.pops.length ≤ k → k < s.pushes.length → k % entryCount ≠ s.inPos

theorem releaseSemaphore_of_lt {maximumCount : Option Nat} {n : Nat}
    (h : ∀ l, maximumCount = some l → n < l) : releaseSemaphore maximumCount n = n + 1 := by
  cases maximumCount with
  | none => rfl
  | some l => exact if_pos (h l rfl)

theorem counts_move {threads : List (QueuePc α)} {i : Nat} {a : QueuePc α}
    (h : threads[i]? = some a) (b : QueuePc α) :
    ((threads.set i b).countP QueuePc.isPushing + a.isPushing.toNat =
        threads.countP QueuePc.isPushing + b.isPushing.toNat ∧
      (threads.set i b).countP QueuePc.isPushed + a.isPushed.toNat =
        threads.countP QueuePc.isPushed + b.isPushed.toNat) ∧
      (threads.set i b).countP QueuePc.isPopping + a.isPopping.toNat =
        threads.countP QueuePc.isPopping + b.isPopping.toNat ∧
      (threads.set i b).countP QueuePc.isPopped + a.isPopped.toNat =
        threads.countP QueuePc.isPopped + b.isPopped.toNat := by
  refine ⟨⟨?_, ?_⟩, ?_, ?_⟩ <;> exact countP_set_add h b _

theorem Accounted.new (entryCount threadCount : Nat) (zero : α) :
    Accounted entryCount (new entryCount threadCount zero) := by
  have hzero : ∀ p : QueuePc α → Bool, p .idle = false →
      (List.replicate threadCount QueuePc.idle).countP p = 0 := by
    intro p hp
    rw [List.countP_replicate, hp]
    rfl
  refine ⟨?_, ?_, (Nat.zero_mod _).symm, (Nat.zero_mod _).symm, ?_⟩
  · show entryCount + (List.replicate threadCount QueuePc.idle).countP _ + 0 +
      (List.replicate threadCount QueuePc.idle).countP _ = entryCount + 0
    rw [hzero _ rfl, hzero _ rfl]
  · show 0 + (List.replicate threadCount QueuePc.idle).countP _ +
      (List.replicate threadCount QueuePc.idle).countP _ + 0 = 0
    rw [hzero _ rfl, hzero _ rfl]
  · intro k m _ hk
    cases hk

section
variable {entryCount : Nat} {maximumCount : Option Nat} {s s' : MessageQueue α}
  {action : QueueAction α}

theorem Accounted.room (h : Accounted entryCount s) {i : Nat} {m : α}
    (hi : s.threads[i]? = some (.pushing m)) :
    s.pushes.length < s.pops.length + entryCount := by
  have hpos : 0 < s.threads.countP QueuePc.isPushing :=
    List.countP_pos_iff.2 ⟨_, List.mem_of_getElem? hi, rfl⟩
  have hspace := h.space
  omega

theorem Accounted.ready (h : Accounted entryCount s) {i : Nat}
    (hi : s.threads[i]? = some .popping) :
    s.pushes[s.pops.length]? = some (s.buf s.outPos) := by
  have hpos : 0 < s.threads.countP QueuePc.isPopping :=
    List.countP_pos_iff.2 ⟨_, List.mem_of_getElem? hi, rfl⟩
  have hdata := h.data
  have hlt : s.pops.length < s.pushes.length := by omega
  have hget := List.getElem?_eq_getElem hlt
  rw [hget, h.outPos, h.kept _ _ (Nat.le_refl _) hget]

theorem Accounted.slot_ne (h : Accounted entryCount s) {i : Nat} {m : α}
    (hi : s.threads[i]? = some (.pushing m)) {k : Nat} (hle : s.pops.length ≤ k)
    (hlt : k < s.pushes.length) : k % entryCount ≠ s.inPos := by
  intro heq
  have hroom := h.room hi
  rw [h.inPos] at heq
  have hk := slot_injective s.pops.length hle (by omega) (by omega) hroom heq
  omega

theorem Accounted.step (h : Accounted entryCount s)
    (hmax : ∀ l, maximumCount = some l → l = entryCount)
    (hs : Step entryCount maximumCount s action s') : Accounted entryCount s' := by
  have hspace := h.space
  have hdata := h.data
  cases hs with
  | @waitSpace i m hi hpos =>
    obtain ⟨⟨h₁, h₂⟩, h₃, h₄⟩ := counts_move hi (.pushing m)
    dsimp at h₁ h₂ h₃ h₄
    refine ⟨?_, ?_, h.inPos, h.outPos, h.kept⟩
    · dsimp only
      omega
    · dsimp only
      omega
  | @copyIn i m hi =>
    obtain ⟨⟨h₁, h₂⟩, h₃, h₄⟩ := counts_move hi .pushed
    dsimp at h₁ h₂ h₃ h₄
    have hlen : (s.pushes ++ [m]).length = s.pushes.length + 1 := List.length_append
    refine ⟨?_, ?_, ?_, h.outPos, ?_⟩
    · dsimp only
      omega
    · dsimp only
      omega
    · dsimp only
      rw [hlen, h.inPos, Nat.mod_add_mod]
    · intro k m' hle hk
      dsimp only at hle hk ⊢
      rcases Nat.lt_or_ge k s.pushes.length with hlt | hge
      · rw [List.getElem?_append_left hlt] at hk
        rw [Function.update_of_ne (h.slot_ne hi hle hlt)]
        exact h.kept k m' hle hk
      · obtain ⟨hlt, -⟩ := List.getElem?_eq_some_iff.1 hk
        obtain rfl : k = s.pushes.length := by omega
        rw [List.getElem?_concat_length, Option.some.injEq] at hk
        rw [← h.inPos, Function.update_self, hk]
  | @postData i hi =>
    obtain ⟨⟨h₁, h₂⟩, h₃, h₄⟩ := counts_move hi .idle
    dsimp at h₁ h₂ h₃ h₄
    have hlt : ∀ l, maximumCount = some l → s.dataAvail < l := by
      intro l hl
      obtain rfl := hmax l hl
      omega
    refine ⟨?_, ?_, h.inPos, h.outPos, h.kept⟩
    · dsimp only
      omega
    · dsimp only
      rw [releaseSemaphore_of_lt hlt]
      omega
  | @waitData i hi hpos =>
    obtain ⟨⟨h₁, h₂⟩, h₃, h₄⟩ := counts_move hi .popping
    dsimp at h₁ h₂ h₃ h₄
    refine ⟨?_, ?_, h.inPos, h.outPos, h.kept⟩
    · dsimp only
      omega
    · dsimp only
      omega
  | @copyOut i hi =>
    obtain ⟨⟨h₁, h₂⟩, h₃, h₄⟩ := counts_move hi (.popped (s.buf s.outPos))
    dsimp at h₁ h₂ h₃ h₄
    have hlen : (s.pops ++ [s.buf s.outPos]).length = s.pops.length + 1 := List.length_append
    refine ⟨?_, ?_, h.inPos, ?_, ?_⟩
    · dsimp only
      omega
    · dsimp only
      omega
    · dsimp only
      rw [hlen, h.outPos, Nat.mod_add_mod]
    · intro k m hle hk
      exact h.kept k m (by dsimp only at hle; omega) hk
  | @postSpace i m hi =>
    obtain ⟨⟨h₁, h₂⟩, h₃, h₄⟩ := counts_move hi .idle
    dsimp at h₁ h₂ h₃ h₄
    have hlt : ∀ l, maximumCount = some l → s.spaceAvail < l := by
      intro l hl
      obtain rfl := hmax l hl
      omega
    refine ⟨?_, ?_, h.inPos, h.outPos, h.kept⟩
    · dsimp only
      rw [releaseSemaphore_of_lt hlt]
      omega
    · dsimp only
      omega

/-- A step of a thread is a step of the queue. -/
theorem Accounted.refines (h : Accounted entryCount s)
    (hs : Step entryCount maximumCount s action s') :
    ∃ change, Queue.Step s.queue change s'.queue := by
  cases hs with
  | waitSpace => exact ⟨_, .keep⟩
  | copyIn => exact ⟨_, .accept⟩
  | postData => exact ⟨_, .keep⟩
  | waitData => exact ⟨_, .keep⟩
  | copyOut hi => exact ⟨_, .deliver (h.ready hi)⟩
  | postSpace => exact ⟨_, .keep⟩

end

variable {entryCount threadCount : Nat} {zero : α} {maximumCount : Option Nat}
  {s : MessageQueue α}

theorem accounted_reachable
    (h : Reachable (Step entryCount maximumCount) (new entryCount threadCount zero) s)
    (hmax : ∀ l, maximumCount = some l → l = entryCount) :
    Accounted entryCount s ∧ Reachable Queue.Step Queue.empty s.queue := by
  apply h.invariant (I := fun s => Accounted entryCount s ∧
    Reachable Queue.Step Queue.empty s.queue)
  · exact ⟨Accounted.new _ _ _, .refl⟩
  · intro s action s' ⟨ha, hr⟩ hs
    obtain ⟨change, hq⟩ := ha.refines hs
    exact ⟨ha.step hmax hs, hr.snoc hq⟩

/-- Whatever the interleaving of the threads, on Linux (`none`) and on Windows, where the
semaphores cannot count more than the entries. -/
theorem message_queue
    (h : Reachable (Step entryCount maximumCount) (new entryCount threadCount zero) s)
    (hmax : maximumCount = none ∨ maximumCount = some entryCount) : Bounded entryCount s := by
  have hlimit : ∀ l, maximumCount = some l → l = entryCount := by
    rintro l rfl
    rcases hmax with hnone | hsome
    · cases hnone
    · exact Option.some.inj hsome
  obtain ⟨ha, hq⟩ := accounted_reachable h hlimit
  have hspace := ha.space
  refine ⟨Queue.delivered_prefix hq, by omega, ha.inPos, ha.outPos, ha.kept, ?_⟩
  intro i m hi k hle hlt
  exact ha.slot_ne hi hle hlt

/-- Two producers and a consumer share a queue of two, whose first place is used again. -/
theorem message_queue_two : ∃ s : MessageQueue Char,
    s.threads = [.pushed, .idle, .popped 'b'] ∧ s.pushes = ['a', 'b', 'c'] ∧
      s.pops = ['a', 'b'] ∧ Bounded 2 s := by
  have h₀ : Reachable (Step 2 (some 2)) (new 2 3 'z') (new 2 3 'z') := .refl
  have h₁ := h₀.snoc (.waitSpace (i := 0) (m := 'a') rfl (by decide))
  have h₂ := h₁.snoc (.waitSpace (i := 1) (m := 'b') rfl (by decide))
  have h₃ := (h₂.snoc (.copyIn (i := 0) rfl)).snoc (.postData (i := 0) rfl)
  have h₄ := (h₃.snoc (.waitData (i := 2) rfl (by decide))).snoc (.copyOut (i := 2) rfl)
  have h₅ := (h₄.snoc (.copyIn (i := 1) rfl)).snoc (.postSpace (i := 2) rfl)
  have h₆ := h₅.snoc (.postData (i := 1) rfl)
  have h₇ := h₆.snoc (.waitSpace (i := 0) (m := 'c') rfl (by decide))
  have h₈ := (h₇.snoc (.waitData (i := 2) rfl (by decide))).snoc (.copyIn (i := 0) rfl)
  have h₉ := h₈.snoc (.copyOut (i := 2) rfl)
  exact ⟨_, rfl, rfl, rfl, message_queue h₉ (.inr rfl)⟩

/-- The queue as it is taken in the Windows system, where a call that does not have to wait is
one step. -/
def coarse (s : MessageQueue α) : SystemMessageQueue α :=
  ⟨s.pushes.drop s.pops.length, s.spaceAvail, s.dataAvail⟩

theorem coarse_takeSpace {i : Nat} (hi : s.threads[i]? = some .idle) (hs : 0 < s.spaceAvail)
    (m : α) : ∃ s', Step entryCount maximumCount s (.queuePush i m) s' ∧
      s'.coarse = s.coarse.takeSpace ∧ s'.threads[i]? = some (.pushing m) := by
  refine ⟨_, .waitSpace hi hs, rfl, ?_⟩
  obtain ⟨hlt, -⟩ := List.getElem?_eq_some_iff.1 hi
  exact List.getElem?_set_self hlt

theorem Accounted.coarse_store (h : Accounted entryCount s)
    (hmax : ∀ l, maximumCount = some l → l = entryCount) {i : Nat} {m : α}
    (hi : s.threads[i]? = some (.pushing m)) :
    ∃ s', Reachable (Step entryCount maximumCount) s s' ∧ s'.coarse = s.coarse.store m := by
  obtain ⟨hlt, -⟩ := List.getElem?_eq_some_iff.1 hi
  have hroom := h.room hi
  have hspace := h.space
  have hdata := h.data
  have hrelease : releaseSemaphore maximumCount s.dataAvail = s.dataAvail + 1 := by
    apply releaseSemaphore_of_lt
    intro l hl
    obtain rfl := hmax l hl
    omega
  refine ⟨_, (Reachable.refl.snoc (.copyIn hi)).snoc (.postData (List.getElem?_set_self hlt)),
    ?_⟩
  have hle : s.pops.length ≤ s.pushes.length := by omega
  show (⟨(s.pushes ++ [m]).drop s.pops.length, s.spaceAvail,
    releaseSemaphore maximumCount s.dataAvail⟩ : SystemMessageQueue α) = _
  rw [List.drop_append_of_le_length hle, hrelease]
  rfl

theorem Accounted.coarse_pop (h : Accounted entryCount s)
    (hmax : ∀ l, maximumCount = some l → l = entryCount) {i : Nat} {m : α} {rest : List α}
    (hi : s.threads[i]? = some .idle) (hs : 0 < s.dataAvail)
    (he : s.coarse.entries = m :: rest) :
    ∃ s', Reachable (Step entryCount maximumCount) s s' ∧ s'.coarse = s.coarse.pop rest ∧
      s'.pops = s.pops ++ [m] := by
  obtain ⟨hlt, -⟩ := List.getElem?_eq_some_iff.1 hi
  have hspace := h.space
  have hdata := h.data
  have hrelease : releaseSemaphore maximumCount s.spaceAvail = s.spaceAvail + 1 := by
    apply releaseSemaphore_of_lt
    intro l hl
    obtain rfl := hmax l hl
    omega
  have hwait : Step entryCount maximumCount s (.acquireData i) _ := .waitData hi hs
  have hpopping : (s.threads.set i QueuePc.popping)[i]? = some .popping :=
    List.getElem?_set_self hlt
  have he : s.pushes.drop s.pops.length = m :: rest := he
  have hrest : s.pushes.drop (s.pops.length + 1) = rest := by
    rw [← List.drop_drop, he]
    rfl
  have hm : s.buf s.outPos = m := by
    have hget : s.pushes[s.pops.length]? = some (s.buf s.outPos) :=
      (h.step hmax hwait).ready hpopping
    have hhead : s.pushes[s.pops.length]? = some m := by
      rw [← Nat.add_zero s.pops.length, ← List.getElem?_drop, he]
      rfl
    rw [hget] at hhead
    exact Option.some.inj hhead
  refine ⟨_, ((Reachable.refl.snoc hwait).snoc (.copyOut hpopping)).snoc
    (.postSpace (List.getElem?_set_self ?_)), ?_, ?_⟩
  · rw [List.length_set]
    exact hlt
  · show (⟨s.pushes.drop (s.pops ++ [s.buf s.outPos]).length,
      releaseSemaphore maximumCount s.spaceAvail, s.dataAvail - 1⟩ : SystemMessageQueue α) = _
    rw [List.length_append, List.length_singleton, hrest, hrelease]
    rfl
  · exact congrArg (fun x => s.pops ++ [x]) hm

end MessageQueue
end AvdeccLib
