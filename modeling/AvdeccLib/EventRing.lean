import AvdeccLib.Library.Ring
import AvdeccLib.Library.FirstMatch
import Mathlib.Logic.Function.Basic

namespace AvdeccLib
set_option autoImplicit true

open Ring FirstMatch

/-- What `notification` and `log` do differently around the ring that they share: how long it
is, the assignments to one of its elements and which posts pass the test behind the one for
room. -/
structure RingSpec (α : Type) where
  bufCount : Nat
  fields : Fields α
  known : α → Bool
  bufCount_dvd : bufCount ∣ 2 ^ 32
  bufCount_lt : bufCount + 1 < 2 ^ 32

/-- A post that is under way: behind the test for room, behind the load of the counter of missed
events, or behind `InterlockedExchangeAdd`, with some of the fields written. The source has no
`number`: it numbers the accepted posts. -/
inductive Posting (α : Type) where
  | tested (x : α)
  | missed (x : α) (count : BitVec 32)
  | claimed (x : α) (number : Nat) (index : BitVec 32) (written : Nat)

namespace Posting

def undecided : Posting α → Option α
  | .tested x | .missed x _ => some x
  | .claimed _ _ _ _ => none

def number : Posting α → Option Nat
  | .claimed _ n _ _ => some n
  | _ => none

end Posting

/-- Where `dispatch_callbacks` is: in front of `sem_wait`, behind it, behind the loads of some
of the arguments, in the callback, or behind the loop. -/
inductive Dispatch (α : Type) where
  | waiting
  | woken
  | reading (read : Nat) (args : α)
  | calling
  | stopped

/-- The members of `notification` and `log` that make up the ring, with the semaphore and the
threads that are in their functions. `posts`, `accepted`, `missed` and `called` are not in the
source: they record what was posted, which of it got an index and which was counted as missed,
and what the callback was called with. -/
structure EventRing (α : Type) where
  readIndex : BitVec 32
  writeIndex : BitVec 32
  buf : Nat → α
  missedEventCnt : BitVec 32
  sem : Nat
  postings : List (Posting α)
  dispatch : Dispatch α
  posts : List α
  accepted : List α
  missed : List α
  called : List α

inductive RingAction (α : Type) where
  | post (x : α)
  | advance (i : Nat)
  | semWait
  | test (uninit : α)
  | read
  | call
  | next

namespace EventRing

def new (buf : Nat → α) : EventRing α :=
  { readIndex := 0
    writeIndex := 0
    buf
    missedEventCnt := 0
    sem := 0
    postings := []
    dispatch := .waiting
    posts := []
    accepted := []
    missed := []
    called := [] }

def goOn (s : EventRing α) (i : Nat) (q : Posting α) : List (Posting α) :=
  q :: s.postings.eraseIdx i

section
variable (p : RingSpec α)

/-- The ring is taken to be full when more than its length is outstanding. -/
def full (s : EventRing α) : Prop := p.bufCount < (s.writeIndex - s.readIndex).toNat

instance (s : EventRing α) : Decidable (s.full p) := inferInstanceAs (Decidable (_ < _))

def slot (index : BitVec 32) : Nat := index.toNat % p.bufCount

inductive Step (s : EventRing α) : RingAction α → EventRing α → Prop where
  | full (h : s.full p) :
      Step s (.post x)
        { s with posts := s.posts ++ [x], postings := .missed x s.missedEventCnt :: s.postings }
  | pass (h : ¬ s.full p) (hk : p.known x = true) :
      Step s (.post x) { s with posts := s.posts ++ [x], postings := .tested x :: s.postings }
  | ignore (h : ¬ s.full p) (hk : p.known x = false) :
      Step s (.post x) { s with posts := s.posts ++ [x] }
  | count (h : s.postings[i]? = some (.missed x count)) :
      Step s (.advance i)
        { s with
          missedEventCnt := count + 1
          postings := s.postings.eraseIdx i
          missed := s.missed ++ [x] }
  | claim (h : s.postings[i]? = some (.tested x)) :
      Step s (.advance i)
        { s with
          writeIndex := s.writeIndex + 1
          postings := s.goOn i (.claimed x s.accepted.length s.writeIndex 0)
          accepted := s.accepted ++ [x] }
  | write (h : s.postings[i]? = some (.claimed x n index k)) (hk : k < p.fields.count) :
      Step s (.advance i)
        { s with
          buf := Function.update s.buf (slot p index) (p.fields.copy k x (s.buf (slot p index)))
          postings := s.goOn i (.claimed x n index (k + 1)) }
  | signal (h : s.postings[i]? = some (.claimed x n index p.fields.count)) :
      Step s (.advance i) { s with sem := s.sem + 1, postings := s.postings.eraseIdx i }
  | semWait (h : s.dispatch = .waiting) (hs : 0 < s.sem) :
      Step s .semWait { s with sem := s.sem - 1, dispatch := .woken }
  | take (h : s.dispatch = .woken) (ht : s.writeIndex - s.readIndex ≠ 0) :
      Step s (.test uninit) { s with dispatch := .reading 0 uninit }
  | stop (h : s.dispatch = .woken) (ht : s.writeIndex - s.readIndex = 0) :
      Step s (.test uninit) { s with dispatch := .stopped }
  | read (h : s.dispatch = .reading k args) (hk : k < p.fields.count) :
      Step s .read
        { s with
          dispatch := .reading (k + 1) (p.fields.copy k (s.buf (slot p s.readIndex)) args) }
  | call (h : s.dispatch = .reading p.fields.count args) :
      Step s .call { s with dispatch := .calling, called := s.called ++ [args] }
  | next (h : s.dispatch = .calling) :
      Step s .next { s with readIndex := s.readIndex + 1, dispatch := .waiting }

end

def claims (s : EventRing α) : List Nat := s.postings.filterMap Posting.number

def undecided (s : EventRing α) : List α := s.postings.filterMap Posting.undecided

/-- One while the callback runs: its entry still counts as outstanding. -/
def inCallback : Dispatch α → Nat
  | .calling => 1
  | _ => 0

/-- What the ring is for: every post is accepted or counted as missed, the callback is called
with the accepted posts in their order, and an accepted post is kept until its callback has
returned. -/
structure Delivers (p : RingSpec α) (s : EventRing α) : Prop where
  decided : s.posts.Perm (s.missed ++ s.accepted ++ s.undecided)
  missedEventCnt : s.missedEventCnt = BitVec.ofNat 32 s.missed.length
  inOrder : s.called <+: s.accepted
  drained : s.dispatch = .waiting → s.sem = 0 → s.claims = [] → s.called = s.accepted
  kept : ∀ n x, s.called.length ≤ n + inCallback s.dispatch → n ∉ s.claims →
    s.accepted[n]? = some x → s.buf (n % p.bufCount) = x
  serving : s.dispatch ≠ .stopped

/-- No post gets an index while as many as the ring is long are outstanding, none is counted by
a counter that another one changed since, and nothing is dispatched that is not written. -/
def Orderly (p : RingSpec α) (s : EventRing α) : RingAction α → Prop
  | .post x => p.fields.fits x
  | .advance i =>
    match s.postings[i]? with
    | some (.tested _) => (s.writeIndex - s.readIndex).toNat < p.bufCount
    | some (.missed _ count) => count = s.missedEventCnt
    | _ => True
  | .test _ => s.called.length ∉ s.claims
  | _ => True

end EventRing
end AvdeccLib
