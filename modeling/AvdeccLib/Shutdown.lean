import AvdeccLib.Library.Runs

namespace AvdeccLib
set_option autoImplicit true
open Runs

/-- The file descriptors of `fd_fns`. -/
inductive PollSource where
  | timer
  | netif
  | tx
  deriving DecidableEq

/-- What the handler of a descriptor returns, on all of its paths. -/
def PollSource.fn : PollSource → Int
  | timer | netif | tx => 0

theorem PollSource.fn_nonneg (source : PollSource) : ¬ source.fn < 0 := by
  cases source with
  | timer | netif | tx => decide

def pollCount : Nat := 3

/-- Where the poll thread is: in `proc_poll_loop`, in `thread_fn` behind it, or at its end.
`epoll_wait` has returned with what is ready, or with the number of its error. -/
inductive PollLoopPc where
  | notStarted
  | prepare
  | epollWait
  | returned (res : Except Nat (List PollSource))
  | handling (ready : List PollSource)
  | posting
  | returning (result : Int)
  | threadFn
  | ended

def PollLoopPc.HasLeft : PollLoopPc → Prop
  | .returning _ | .threadFn | .ended => True
  | .notStarted | .prepare | .epollWait | .returned _ | .handling _ | .posting => False

def PollLoopPc.stepsLeft : PollLoopPc → Nat
  | .handling ready => ready.length + 6
  | .prepare => 6
  | .epollWait => 5
  | .returned _ => 4
  | .posting => 3
  | .returning _ => 2
  | .threadFn => 1
  | .notStarted | .ended => 0

/-- Where the app thread is in `destroy`. -/
inductive DestroyPc where
  | outside
  | semWait
  | perror
  | deleting
  | deleted

def DestroyPc.stepsLeft : DestroyPc → Nat
  | .outside => 4
  | .semWait => 3
  | .perror => 2
  | .deleting => 1
  | .deleted => 0

/-- The system object, as `destroy` and the poll thread share it. `localSystem` tells whether
`local_system` is this object; when it is not, it is null. -/
structure SystemLayer where
  localSystem : Bool
  shutdownSem : Nat
  poll : PollLoopPc
  app : DestroyPc

namespace SystemLayer

/-- What `create_system` returns. -/
def create : SystemLayer := ⟨true, 0, .notStarted, .outside⟩

inductive Action where
  | processStart
  | prepare
  | epollReturns (res : Except Nat (List PollSource))
  | testLocalSystem
  | callFn
  | nextPoll
  | semPost
  | leaveLoop
  | leaveThread
  | destroy
  | semWait
  | semWaitFails
  | perror
  | delete
  deriving DecidableEq

/-- Where the test of `local_system` leads to. -/
def afterTest (localSystem : Bool) (res : Except Nat (List PollSource)) : PollLoopPc :=
  if localSystem then
    match res with
    | .error errno => .returning (-errno)
    | .ok ready => .handling ready
  else .posting

/-- The test in `destroy`. -/
def startDestroy (s : SystemLayer) : SystemLayer :=
  if s.localSystem then { s with localSystem := false, app := .semWait }
  else { s with app := .deleting }

/-- One step of a thread. `process_start` is called at most once and in front of `destroy`, and
`sem_wait` may fail at any time. -/
inductive Step : SystemLayer → Action → SystemLayer → Prop where
  | processStart (hpoll : s.poll = .notStarted) (happ : s.app = .outside) :
    Step s .processStart { s with poll := .prepare }
  | prepare (hpoll : s.poll = .prepare) : Step s .prepare { s with poll := .epollWait }
  | epollReturns {ready : List PollSource} (hpoll : s.poll = .epollWait)
      (hready : ready.length ≤ pollCount) :
    Step s (.epollReturns (.ok ready)) { s with poll := .returned (.ok ready) }
  | epollFails {errno : Nat} (hpoll : s.poll = .epollWait) :
    Step s (.epollReturns (.error errno)) { s with poll := .returned (.error errno) }
  | testLocalSystem (hpoll : s.poll = .returned res) :
    Step s .testLocalSystem { s with poll := afterTest s.localSystem res }
  | callFn {source : PollSource} (hpoll : s.poll = .handling (source :: ready)) :
    Step s .callFn { s with poll := if source.fn < 0 then .returning (-1) else .handling ready }
  | nextPoll (hpoll : s.poll = .handling []) : Step s .nextPoll { s with poll := .epollWait }
  | semPost (hpoll : s.poll = .posting) :
    Step s .semPost { s with shutdownSem := s.shutdownSem + 1, poll := .returning 0 }
  | leaveLoop (hpoll : s.poll = .returning result) :
      Step s .leaveLoop { s with poll := .threadFn }
  | leaveThread (hpoll : s.poll = .threadFn) : Step s .leaveThread { s with poll := .ended }
  | destroy (happ : s.app = .outside) : Step s .destroy s.startDestroy
  | semWait (happ : s.app = .semWait) (hsem : s.shutdownSem = n + 1) :
    Step s .semWait { s with shutdownSem := n, app := .deleting }
  | semWaitFails (happ : s.app = .semWait) : Step s .semWaitFails { s with app := .perror }
  | perror (happ : s.app = .perror) : Step s .perror { s with app := .deleting }
  | delete (happ : s.app = .deleting) : Step s .delete { s with app := .deleted }

/-- How often a step was taken. -/
def count (a : Action) (tr : List (SystemLayer × Action)) : Nat := (tr.map Prod.snd).count a

/-- The poll thread was not started, or it has left its loop without a post. -/
def Lost (tr : List (SystemLayer × Action)) (s : SystemLayer) : Prop :=
  s.poll = .notStarted ∨ s.poll.HasLeft ∧ count .semPost tr = 0

/-- No thread can go on, but for a failure of `sem_wait`. -/
def AtRest (s : SystemLayer) : Prop := ∀ a s', Step s a s' → a = .semWaitFails

/-- An upper bound of what the two threads still do when `destroy` has been called. -/
def stepsLeft (s : SystemLayer) : Nat := s.poll.stepsLeft + s.app.stepsLeft

/-- What is known at each place of the poll thread, when it has posted so often. -/
def PollAt (localSystem : Bool) (posts : Nat) : PollLoopPc → Prop
  | .posting => localSystem = false ∧ posts = 0
  | .returning _ | .threadFn | .ended => posts ≤ 1
  | .notStarted | .prepare | .epollWait | .returned _ | .handling _ => posts = 0

/-- What is known at each place of `destroy`, when so many waits have been left and have
failed. -/
def DestroyAt (localSystem : Bool) (taken failed : Nat) : DestroyPc → Prop
  | .outside => localSystem = true ∧ taken = 0 ∧ failed = 0
  | .semWait => localSystem = false ∧ taken = 0 ∧ failed = 0
  | .perror => localSystem = false ∧ taken = 0 ∧ failed = 1
  | .deleting | .deleted => localSystem = false ∧ taken + failed = 1

structure Inv (tr : List (SystemLayer × Action)) (s : SystemLayer) : Prop where
  poll : PollAt s.localSystem (count .semPost tr) s.poll
  app : DestroyAt s.localSystem (count .semWait tr) (count .semWaitFails tr) s.app
  sem : s.shutdownSem + count .semWait tr = count .semPost tr

section
variable {s s' t : SystemLayer} {a b : Action} {tr tr' : List (SystemLayer × Action)}

theorem count_snoc : count a (tr ++ [(s, b)]) = count a tr + if b = a then 1 else 0 := by
  rw [count, count, List.map_append, List.count_append, List.map_singleton,
    List.count_singleton]
  simp only [beq_iff_eq]

theorem count_snoc_self : count a (tr ++ [(s, a)]) = count a tr + 1 := by
  rw [count_snoc, if_pos rfl]

theorem count_snoc_ne (h : b ≠ a) : count a (tr ++ [(s, b)]) = count a tr := by
  rw [count_snoc, if_neg h, Nat.add_zero]

theorem pollAt_afterTest {localSystem : Bool} {posts : Nat}
    {res : Except Nat (List PollSource)} (h : posts = 0) :
    PollAt localSystem posts (afterTest localSystem res) := by
  cases localSystem with
  | false => exact ⟨rfl, h⟩
  | true =>
    cases res with
    | ok ready => exact h
    | error errno => exact h.le.trans (Nat.zero_le 1)

theorem pollAt_false {localSystem : Bool} {posts : Nat} {pc : PollLoopPc}
    (h : PollAt localSystem posts pc) : PollAt false posts pc := by
  cases pc with
  | posting => exact ⟨rfl, h.2⟩
  | _ => exact h

theorem PollAt.le_one {localSystem : Bool} {posts : Nat} {pc : PollLoopPc}
    (h : PollAt localSystem posts pc) : posts ≤ 1 := by
  cases pc with
  | returning result | threadFn | ended => exact h
  | posting => exact h.2.le.trans (Nat.zero_le 1)
  | notStarted | prepare | epollWait | returned res | handling ready =>
    exact (show posts = 0 from h).le.trans (Nat.zero_le 1)

theorem PollAt.hasLeft {localSystem : Bool} {posts : Nat} {pc : PollLoopPc}
    (h : PollAt localSystem posts pc) (hposts : 0 < posts) : pc.HasLeft := by
  cases pc with
  | returning result | threadFn | ended => trivial
  | posting => exact absurd h.2 hposts.ne'
  | notStarted | prepare | epollWait | returned res | handling ready =>
    exact absurd h hposts.ne'

theorem Inv.localSystem (h : Inv tr s) (happ : s.app ≠ .outside) : s.localSystem = false := by
  have hat := h.app
  cases hpc : s.app with
  | outside => exact absurd hpc happ
  | semWait | perror | deleting | deleted =>
    rw [hpc] at hat
    exact hat.1

theorem Inv.pollStep (h : Inv tr s) (ha : a ≠ .semPost ∧ a ≠ .semWait ∧ a ≠ .semWaitFails)
    {pc : PollLoopPc} (hpc : PollAt s.localSystem (count .semPost tr) pc) :
    Inv (tr ++ [(s, a)]) { s with poll := pc } := by
  obtain ⟨hpost, hwait, hfails⟩ := ha
  constructor
  · rw [count_snoc_ne hpost]
    exact hpc
  · rw [count_snoc_ne hwait, count_snoc_ne hfails]
    exact h.app
  · rw [count_snoc_ne hwait, count_snoc_ne hpost]
    exact h.sem

theorem Inv.destroyStep (h : Inv tr s) (ha : a ≠ .semPost ∧ a ≠ .semWait) {pc : DestroyPc}
    (hpc : DestroyAt s.localSystem (count .semWait tr)
      (count .semWaitFails (tr ++ [(s, a)])) pc) :
    Inv (tr ++ [(s, a)]) { s with app := pc } := by
  obtain ⟨hpost, hwait⟩ := ha
  constructor
  · rw [count_snoc_ne hpost]
    exact h.poll
  · rw [count_snoc_ne hwait]
    exact hpc
  · rw [count_snoc_ne hwait, count_snoc_ne hpost]
    exact h.sem

theorem Inv.step (h : Inv tr s) (hst : Step s a s') : Inv (tr ++ [(s, a)]) s' := by
  obtain ⟨hpollAt, happAt, hsem⟩ := id h
  cases hst with
  | processStart hpoll happ =>
    rw [hpoll] at hpollAt
    exact h.pollStep (by decide) hpollAt
  | prepare hpoll =>
    rw [hpoll] at hpollAt
    exact h.pollStep (by decide) hpollAt
  | epollReturns hpoll hready =>
    rw [hpoll] at hpollAt
    exact h.pollStep ⟨Action.noConfusion, Action.noConfusion, Action.noConfusion⟩ hpollAt
  | epollFails hpoll =>
    rw [hpoll] at hpollAt
    exact h.pollStep ⟨Action.noConfusion, Action.noConfusion, Action.noConfusion⟩ hpollAt
  | testLocalSystem hpoll =>
    rw [hpoll] at hpollAt
    exact h.pollStep (by decide) (pollAt_afterTest hpollAt)
  | callFn hpoll =>
    rw [hpoll] at hpollAt
    rw [if_neg (PollSource.fn_nonneg _)]
    exact h.pollStep (by decide) hpollAt
  | nextPoll hpoll =>
    rw [hpoll] at hpollAt
    exact h.pollStep (by decide) hpollAt
  | leaveLoop hpoll =>
    rw [hpoll] at hpollAt
    exact h.pollStep (by decide) hpollAt
  | leaveThread hpoll =>
    rw [hpoll] at hpollAt
    exact h.pollStep (by decide) hpollAt
  | semPost hpoll =>
    rw [hpoll] at hpollAt
    constructor
    · rw [count_snoc_self, hpollAt.2]
      exact le_rfl
    · rw [count_snoc_ne (by decide), count_snoc_ne (by decide)]
      exact happAt
    · rw [count_snoc_ne (by decide), count_snoc_self]
      dsimp only
      omega
  | destroy happ =>
    rw [happ] at happAt
    rw [startDestroy, if_pos happAt.1]
    constructor
    · rw [count_snoc_ne (by decide)]
      exact pollAt_false hpollAt
    · rw [count_snoc_ne (by decide), count_snoc_ne (by decide)]
      exact ⟨rfl, happAt.2⟩
    · rw [count_snoc_ne (by decide), count_snoc_ne (by decide)]
      exact hsem
  | semWait happ hn =>
    rw [happ] at happAt
    obtain ⟨hlocal, htaken, hfailed⟩ := happAt
    constructor
    · rw [count_snoc_ne (by decide)]
      exact hpollAt
    · rw [count_snoc_self, count_snoc_ne (by decide), htaken, hfailed]
      exact ⟨hlocal, rfl⟩
    · rw [count_snoc_self, count_snoc_ne (by decide)]
      dsimp only
      omega
  | semWaitFails happ =>
    rw [happ] at happAt
    obtain ⟨hlocal, htaken, hfailed⟩ := happAt
    apply h.destroyStep (by decide)
    rw [count_snoc_self, hfailed]
    exact ⟨hlocal, htaken, rfl⟩
  | perror happ =>
    rw [happ] at happAt
    obtain ⟨hlocal, htaken, hfailed⟩ := happAt
    apply h.destroyStep (by decide)
    rw [count_snoc_ne (by decide), htaken, hfailed]
    exact ⟨hlocal, rfl⟩
  | delete happ =>
    rw [happ] at happAt
    apply h.destroyStep (by decide)
    rw [count_snoc_ne (by decide)]
    exact happAt

theorem inv_run (h : Run Step create tr s) : Inv tr s := by
  induction h with
  | nil => exact ⟨rfl, ⟨rfl, rfl, rfl⟩, rfl⟩
  | snoc _ hst ih => exact ih.step hst

theorem Inv.posted (h : Inv tr s) (happ : s.app = .deleting ∨ s.app = .deleted) :
    0 < count .semPost tr ∨ 0 < count .semWaitFails tr := by
  obtain ⟨-, hat, hsem⟩ := h
  rcases happ with happ | happ
  all_goals
    rw [happ] at hat
    have hone := hat.2
    omega

/-- When no wait has failed, the poll thread only returns behind the deletion. -/
theorem Inv.leaves (h : Inv tr s) (hfails : count .semWaitFails tr = 0)
    (happ : s.app = .deleted)
    (hst : Step s a s') : a = .leaveLoop ∨ a = .leaveThread := by
  have hleft : s.poll.HasLeft :=
    h.poll.hasLeft ((h.posted (.inr happ)).resolve_right (by omega))
  cases hst with
  | leaveLoop hpoll => exact .inl rfl
  | leaveThread hpoll => exact .inr rfl
  | processStart hpoll _ | prepare hpoll | epollReturns hpoll _ | epollFails hpoll
  | testLocalSystem hpoll | callFn hpoll | nextPoll hpoll | semPost hpoll =>
    rw [hpoll] at hleft
    exact hleft.elim
  | destroy ha | semWait ha _ | semWaitFails ha | perror ha | delete ha =>
    rw [happ] at ha
    cases ha

theorem leaves_run (h : Run Step create tr s) (hfails : count .semWaitFails tr = 0) :
    Along (fun s a => s.app = .deleted → a = .leaveLoop ∨ a = .leaveThread) tr := by
  induction h with
  | nil => exact along_nil _
  | snoc hr hst ih =>
    rw [count_snoc] at hfails
    have hzero := Nat.eq_zero_of_add_eq_zero_right hfails
    exact along_snoc.2 ⟨ih hzero, fun happ => (inv_run hr).leaves hzero happ hst⟩

/-- Once `destroy` has been called, every step is one less to do. -/
theorem Inv.stepsLeft_lt (h : Inv tr s) (happ : s.app ≠ .outside) (hst : Step s a s') :
    s'.app ≠ .outside ∧ s'.stepsLeft < s.stepsLeft := by
  have hlocal := h.localSystem happ
  cases hst with
  | processStart hpoll ha => exact absurd ha happ
  | destroy ha => exact absurd ha happ
  | testLocalSystem hpoll =>
    refine ⟨happ, ?_⟩
    rw [stepsLeft, stepsLeft, hpoll, hlocal]
    exact Nat.add_lt_add_right (by decide : 3 < 4) _
  | callFn hpoll =>
    refine ⟨happ, ?_⟩
    rw [if_neg (PollSource.fn_nonneg _), stepsLeft, stepsLeft, hpoll]
    exact Nat.add_lt_add_right (Nat.add_lt_add_right (Nat.lt_succ_self _) 6) _
  | prepare hpoll | epollReturns hpoll _ | epollFails hpoll | nextPoll hpoll | semPost hpoll
  | leaveLoop hpoll | leaveThread hpoll =>
    refine ⟨happ, ?_⟩
    rw [stepsLeft, stepsLeft, hpoll]
    exact Nat.add_lt_add_right (Nat.lt_succ_self _) _
  | semWait ha hn =>
    refine ⟨DestroyPc.noConfusion, ?_⟩
    rw [stepsLeft, stepsLeft, ha]
    exact Nat.add_lt_add_left (by decide : 1 < 3) _
  | semWaitFails ha | perror ha | delete ha =>
    refine ⟨DestroyPc.noConfusion, ?_⟩
    rw [stepsLeft, stepsLeft, ha]
    exact Nat.lt_succ_self _

theorem not_lost {pc : PollLoopPc} (hpoll : s.poll = pc)
    (hpc : pc ≠ .notStarted ∧ ¬ pc.HasLeft) : ¬ Lost tr s := by
  subst hpoll
  rintro (h | ⟨h, -⟩)
  · exact hpc.1 h
  · exact hpc.2 h

/-- Once `destroy` has been called, it is settled whether the poll thread posts. -/
theorem Inv.lost_iff (h : Inv tr s) (happ : s.app ≠ .outside) (hst : Step s a s') :
    Lost (tr ++ [(s, a)]) s' ↔ Lost tr s := by
  have hlocal := h.localSystem happ
  cases hst with
  | processStart hpoll ha => exact absurd ha happ
  | destroy ha => exact absurd ha happ
  | testLocalSystem hpoll =>
    rw [hlocal]
    exact iff_of_false (not_lost rfl ⟨PollLoopPc.noConfusion, id⟩)
      (not_lost hpoll ⟨PollLoopPc.noConfusion, id⟩)
  | callFn hpoll =>
    rw [if_neg (PollSource.fn_nonneg _)]
    exact iff_of_false (not_lost rfl ⟨PollLoopPc.noConfusion, id⟩)
      (not_lost hpoll ⟨PollLoopPc.noConfusion, id⟩)
  | prepare hpoll | epollReturns hpoll _ | epollFails hpoll | nextPoll hpoll =>
    exact iff_of_false (not_lost rfl ⟨PollLoopPc.noConfusion, id⟩)
      (not_lost hpoll ⟨PollLoopPc.noConfusion, id⟩)
  | semPost hpoll =>
    apply iff_of_false _ (not_lost hpoll ⟨PollLoopPc.noConfusion, id⟩)
    rintro (h | ⟨-, h⟩)
    · cases h
    · rw [count_snoc_self] at h
      cases h
  | leaveLoop hpoll | leaveThread hpoll =>
    rw [Lost, Lost, hpoll, count_snoc_ne Action.noConfusion]
    exact or_congr (iff_of_false PollLoopPc.noConfusion PollLoopPc.noConfusion) Iff.rfl
  | semWait ha hn | semWaitFails ha | perror ha | delete ha =>
    rw [Lost, Lost, count_snoc_ne Action.noConfusion]

theorem run_from_destroy (h : Inv tr s) (happ : s.app ≠ .outside) (hr : Run Step s tr' t) :
    Inv (tr ++ tr') t ∧ t.app ≠ .outside ∧ tr'.length + t.stepsLeft ≤ s.stepsLeft ∧
      (Lost (tr ++ tr') t ↔ Lost tr s) := by
  induction hr with
  | nil =>
    rw [List.append_nil]
    exact ⟨h, happ, (Nat.zero_add _).le, Iff.rfl⟩
  | snoc _ hst ih =>
    obtain ⟨hinv, hout, hlen, hlost⟩ := ih
    obtain ⟨hout', hlt⟩ := hinv.stepsLeft_lt hout hst
    rw [← List.append_assoc]
    refine ⟨hinv.step hst, hout', ?_, (hinv.lost_iff hout hst).trans hlost⟩
    rw [List.length_append, List.length_singleton]
    omega

theorem AtRest.poll (h : s.AtRest) :
    s.poll = .notStarted ∨ s.poll = .ended := by
  cases hpoll : s.poll with
  | notStarted => exact .inl rfl
  | ended => exact .inr rfl
  | prepare => cases h _ _ (.prepare hpoll)
  | epollWait => cases h _ _ (.epollReturns hpoll (show [].length ≤ pollCount by decide))
  | returned res => cases h _ _ (.testLocalSystem hpoll)
  | posting => cases h _ _ (.semPost hpoll)
  | returning result => cases h _ _ (.leaveLoop hpoll)
  | threadFn => cases h _ _ (.leaveThread hpoll)
  | handling ready =>
    cases ready with
    | nil => cases h _ _ (.nextPoll hpoll)
    | cons source ready => cases h _ _ (.callFn hpoll)

/-- At rest `destroy` has returned, or it waits for a post that does not come. -/
theorem Inv.deleted_iff (h : Inv tr s) (happ : s.app ≠ .outside) (hrest : s.AtRest) :
    s.app = .deleted ↔ ¬ Lost tr s ∨ 0 < count .semWaitFails tr := by
  constructor
  · intro hdeleted
    apply (h.posted (.inr hdeleted)).imp_left
    rintro hposts (hpoll | ⟨-, hzero⟩)
    · have hleft := h.poll.hasLeft hposts
      rw [hpoll] at hleft
      exact hleft
    · omega
  · intro hends
    cases hpc : s.app with
    | outside => exact absurd hpc happ
    | deleted => rfl
    | perror => cases hrest _ _ (.perror hpc)
    | deleting => cases hrest _ _ (.delete hpc)
    | semWait =>
      obtain ⟨-, hat, hsem⟩ := h
      rw [hpc] at hat
      obtain ⟨-, htaken, hfailed⟩ := hat
      have hlost := hends.resolve_right (by omega)
      rcases hrest.poll with hpoll | hpoll
      · exact absurd (.inl hpoll) hlost
      · have hposts : count .semPost tr ≠ 0 := by
          intro hzero
          apply hlost
          rw [Lost, hpoll]
          exact .inr ⟨trivial, hzero⟩
        have hn : s.shutdownSem = s.shutdownSem - 1 + 1 := by omega
        cases hrest _ _ (.semWait hpc hn)

/-- `shutdown_sem` is posted at most once, and the object is deleted only behind the post or a
failure of `sem_wait`. Unless it fails, the poll thread only returns behind the deletion. From
the call of `destroy` on, the two threads do no more than a bounded number of steps. When they
are at rest, `destroy` has returned exactly if `sem_wait` failed, or the poll thread had been
started when `destroy` was called and had not left its loop without a post. -/
theorem destroy_returns_iff (h : Run Step create tr s) :
    count .semPost tr ≤ 1 ∧
    (s.app = .deleting ∨ s.app = .deleted →
      0 < count .semPost tr ∨ 0 < count .semWaitFails tr) ∧
    (count .semWaitFails tr = 0 →
      Along (fun s a => s.app = .deleted → a = .leaveLoop ∨ a = .leaveThread) tr) ∧
    (s.app ≠ .outside →
      (∀ tr' t, Run Step s tr' t → tr'.length + t.stepsLeft ≤ s.stepsLeft) ∧
      ∀ tr' t, Run Step s tr' t → t.AtRest →
        (t.app = .deleted ↔ ¬ Lost tr s ∨ 0 < count .semWaitFails (tr ++ tr'))) := by
  have hinv := inv_run h
  refine ⟨hinv.poll.le_one, hinv.posted, leaves_run h, fun happ => ⟨?_, ?_⟩⟩
  · exact fun tr' t hr => (run_from_destroy hinv happ hr).2.2.1
  · intro tr' t hr hrest
    obtain ⟨hinv', happ', -, hlost⟩ := run_from_destroy hinv happ hr
    rw [hinv'.deleted_iff happ' hrest, hlost]

/-- `destroy` while a frame is handled, with the timer still to come. It returns, and once the
poll thread is at rest nothing is left of the two. -/
theorem destroy_returns_iff_handling : ∃ tr s, Run Step create tr s ∧ s.app = .semWait ∧
    s.poll = .handling [.netif, .timer] ∧
    (∀ tr' t, Run Step s tr' t → t.AtRest → t.app = .deleted) ∧
    ∃ tr' t u, Run Step create (tr ++ tr') t ∧ t.app = .deleted ∧ t.poll = .returning 0 ∧
      count .semPost (tr ++ tr') = 1 ∧ Run Step create (tr ++ tr' ++ [(t, .leaveLoop)]) u ∧
      Along (fun s a => s.app = .deleted → a = .leaveLoop ∨ a = .leaveThread)
        (tr ++ tr' ++ [(t, .leaveLoop)]) := by
  have hrun : Run Step create _ _ :=
    (((((Run.nil.snoc (.processStart rfl rfl)).snoc (.prepare rfl)).snoc
      (.epollReturns rfl (show [PollSource.netif, .timer].length ≤ pollCount by decide))).snoc
      (.testLocalSystem rfl)).snoc (.destroy rfl))
  have hdown : Run Step ⟨false, 0, .handling [.netif, .timer], .semWait⟩ _ _ :=
    ((((((((Run.nil.snoc (.callFn rfl)).snoc (.callFn rfl)).snoc (.nextPoll rfl)).snoc
      (.epollReturns rfl (show [PollSource.tx].length ≤ pollCount by decide))).snoc
      (.testLocalSystem rfl)).snoc (.semPost rfl)).snoc (.semWait rfl rfl)).snoc (.delete rfl))
  have hdeleted := hrun.append hdown
  have hleft := hdeleted.snoc (.leaveLoop rfl)
  refine ⟨_, _, hrun, rfl, rfl, ?_, _, _, _, hdeleted, rfl, rfl, ?_, hleft, ?_⟩
  · intro tr' t hr hrest
    have hends := ((destroy_returns_iff hrun).2.2.2 DestroyPc.noConfusion).2 tr' t hr hrest
    apply hends.2
    left
    rintro (h | ⟨h, -⟩) <;> cases h
  · rfl
  · exact (destroy_returns_iff hleft).2.2.1 rfl

end
end SystemLayer
end AvdeccLib
