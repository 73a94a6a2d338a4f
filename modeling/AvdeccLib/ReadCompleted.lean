import AvdeccLib.Library.Runs
import AvdeccLib.BackgroundRead

namespace AvdeccLib
set_option autoImplicit true

open Runs Outcome

/-- What happens to an end station between two enumerations: READ_DESCRIPTOR responses come in,
in any order and more than once, and the timer ticks. -/
inductive StationEvent where
  | rcvdDescriptor (now : Timestamp) (status : BitVec 5) (d : AemDesc)
  | timeTick (now : Timestamp)

/-- An end station with the END_STATION_READ_COMPLETED notifications posted for it since its
enumeration began. -/
structure Enumeration where
  station : EndStation
  completed : List Notification

namespace Enumeration

def handle (mac : Mac) (s : Enumeration) : StationEvent → Except Fault Enumeration
  | .rcvdDescriptor now status d => do
    let (station, _, posts) ← s.station.rcvdDescriptor mac now status d
    pure ⟨station, s.completed ++ posts⟩
  | .timeTick now => do
    let (station, _) ← s.station.timeTick mac now
    pure ⟨station, s.completed⟩

abbrev Step (mac : Mac) : Enumeration → StationEvent → Enumeration → Prop :=
  Succeeds (handle mac)

/-- An enumeration begins without descriptors, at the construction or at a re-enumeration. -/
def start (es : EndStation) : Enumeration := ⟨{ es with entityDescVec := [] }, []⟩

/-- Once a configuration is stored and both lists are empty, the completion has been posted, and
it is never posted twice. -/
def PostedOnce (s : Enumeration) : Prop :=
  (s.station.readCompleted = true → s.completed.length = 1) ∧ s.completed.length ≤ 1

/-- With the configuration stored and nothing posted yet, a tick at which every inflight read
has run out and none is pending drains the lists. -/
def DrainedByTick (s : Enumeration) (now : Timestamp) : Prop :=
  s.station.hasConfig = true ∧ s.completed = [] ∧ s.station.backgroundReadPending = [] ∧
    ∀ b ∈ s.station.backgroundReadInflight, b.timer.timeout now = true

/-- A response behind which nothing is left to be read: none is pending, none is inflight but
the one that it answers, and its descriptor calls for no further reads. -/
def DrainedByResponse (s : Enumeration) (status : BitVec 5) (d : AemDesc) : Prop :=
  (∃ es, s.station.storeAndDeduce status d = .ok es ∧ es.hasConfig = true ∧
    es.backgroundReadPending = []) ∧
  ∀ b ∈ s.station.backgroundReadInflight,
    b.type = d.descriptorType ∧ descIndexFromFrame d = some b.index

/-- The last read of an enumeration is answered, and nothing is received later that leaves
nothing to be read. -/
def CompletedByResponse (s : Enumeration) : StationEvent → Prop
  | .rcvdDescriptor _ status d => DrainedByResponse s status d → s.completed = []
  | .timeTick now => ¬ DrainedByTick s now

end Enumeration

theorem EndStation.updateInflight_eq_nil {es : EndStation} {d : AemDesc} :
    (es.backgroundReadUpdateInflight d).backgroundReadInflight = [] ↔
      ∀ b ∈ es.backgroundReadInflight,
        b.type = d.descriptorType ∧ descIndexFromFrame d = some b.index := by
  simp only [EndStation.backgroundReadUpdateInflight, List.filter_eq_nil_iff, Bool.not_eq_true',
    Bool.and_eq_false_iff, not_or, beq_eq_false_iff_ne, ne_eq, not_not]

theorem EndStation.updateTimeouts_eq_nil {es : EndStation} {now : Timestamp} :
    (es.backgroundReadUpdateTimeouts now).backgroundReadInflight = [] ↔
      ∀ b ∈ es.backgroundReadInflight, b.timer.timeout now = true := by
  simp only [EndStation.backgroundReadUpdateTimeouts, List.filter_eq_nil_iff, Bool.not_eq_true',
    Bool.not_eq_false]

namespace Enumeration

theorem rcvdDescriptor_readCompleted {s : Enumeration} {mac : Mac} {now : Timestamp}
    {status : BitVec 5} {d : AemDesc} {es : EndStation} {tx : List TxData}
    {posts : List Notification}
    (h : s.station.rcvdDescriptor mac now status d = .ok (es, tx, posts)) :
    es.readCompleted = true ↔ DrainedByResponse s status d := by
  obtain ⟨es₁, h₁, hs, -⟩ := EndStation.rcvdDescriptor_submit h
  have hi := EndStation.storeAndDeduce_inflight h₁
  rw [hs.readCompleted_iff, EndStation.updateInflight_eq_nil, hi]
  constructor
  · rintro ⟨hc, hi, hp⟩
    exact ⟨⟨es₁, h₁, hc, hp⟩, hi⟩
  · rintro ⟨⟨es₂, h₂, hc, hp⟩, hi⟩
    rw [h₁] at h₂
    cases h₂
    exact ⟨hc, hi, hp⟩

theorem timeTick_readCompleted {s : Enumeration} {mac : Mac} {now : Timestamp} {es : EndStation}
    {tx : List TxData} (h : s.station.timeTick mac now = .ok (es, tx)) :
    es.readCompleted = true ↔ s.station.hasConfig = true ∧
      s.station.backgroundReadPending = [] ∧
      ∀ b ∈ s.station.backgroundReadInflight, b.timer.timeout now = true := by
  have hs := EndStation.timeTick_submit h
  rw [hs.readCompleted_iff, EndStation.updateTimeouts_eq_nil]
  constructor
  · rintro ⟨hc, hi, hp⟩
    exact ⟨hc, hp, hi⟩
  · rintro ⟨hc, hp, hi⟩
    exact ⟨hc, hi, hp⟩

theorem start_postedOnce (es : EndStation) : PostedOnce (start es) :=
  ⟨fun h => Bool.noConfusion h, Nat.zero_le 1⟩

/-- A step keeps the completion posted once exactly if it meets the condition. -/
theorem postedOnce_step {s s' : Enumeration} {mac : Mac} {e : StationEvent}
    (hp : PostedOnce s) (h : Step mac s e s') : PostedOnce s' ↔ CompletedByResponse s e := by
  obtain ⟨-, hle⟩ := hp
  cases e with
  | rcvdDescriptor now status d =>
    obtain ⟨⟨es, tx, posts⟩, hr, hs⟩ := bind_eq_ok.1 h
    cases hs
    obtain ⟨es₁, -, -, hposts⟩ := EndStation.rcvdDescriptor_submit hr
    rw [CompletedByResponse, ← rcvdDescriptor_readCompleted hr, hposts, PostedOnce]
    cases hc : es.readCompleted with
    | true =>
      simp only [if_true, List.length_append, List.length_singleton, forall_const,
        ← List.length_eq_zero_iff]
      omega
    | false =>
      simp only [Bool.false_eq_true, if_false, List.append_nil, false_implies, true_and, hle]
  | timeTick now =>
    obtain ⟨⟨es, tx⟩, ht, hs⟩ := bind_eq_ok.1 h
    cases hs
    have hc := timeTick_readCompleted ht
    rw [CompletedByResponse, PostedOnce, DrainedByTick, hc]
    constructor
    · rintro ⟨hpost, -⟩ ⟨hcfg, hnil, hpend, hall⟩
      have := hpost ⟨hcfg, hpend, hall⟩
      rw [hnil] at this
      cases this
    · intro hn
      refine ⟨?_, hle⟩
      rintro ⟨hcfg, hpend, hall⟩
      have hne : s.completed ≠ [] := fun hnil => hn ⟨hcfg, hnil, hpend, hall⟩
      have hpos := List.length_pos_iff.2 hne
      exact Nat.le_antisymm hle hpos

/-- In a run of an enumeration the completion is posted exactly once, in all states in which it
is due, exactly if no tick drains the lists before it is posted and no response drains them
after it. -/
theorem posted_once_iff {mac : Mac} {es : EndStation} {tr : List (Enumeration × StationEvent)}
    {s : Enumeration} (h : Run (Step mac) (start es) tr s) :
    Always PostedOnce tr s ↔ Along CompletedByResponse tr :=
  h.always_iff_along (I := fun _ => True) trivial (start_postedOnce es)
    (fun _ _ _ _ _ => trivial) fun _ _ _ _ hp hst => postedOnce_step hp hst

def newStation : EndStation :=
  { entityId := 1
    mac := 2
    connectionStatus := .connected
    currentConfigDesc := 0
    backgroundReadPending := []
    backgroundReadInflight := []
    adp := ⟨1, 0, 0, false, false⟩
    entityDescVec := []
    generation := 0
    issued := [] }

def entityResponse : StationEvent :=
  .rcvdDescriptor 0 0 { descriptorType := .entity, descriptorIndex := 0 }

def configurationResponse : StationEvent :=
  .rcvdDescriptor 0 0
    { descriptorType := .configuration, descriptorIndex := 0
      descriptorCounts := [(.jackInput, 1)] }

def jackInputResponse : StationEvent :=
  .rcvdDescriptor 0 0 { descriptorType := .jackInput, descriptorIndex := 0 }

def earlyResponse (s : Enumeration) : StationEvent → Bool
  | .rcvdDescriptor _ _ _ => s.completed.isEmpty
  | .timeTick _ => false

theorem completedByResponse_of_early {s : Enumeration} {e : StationEvent}
    (h : earlyResponse s e = true) : CompletedByResponse s e := by
  cases e with
  | rcvdDescriptor now status d => exact fun _ => List.isEmpty_iff.1 h
  | timeTick now => cases h

theorem posted_once_answered :
    ∃ tr s, Run (Step 0) (start newStation) tr s ∧ s.station.readCompleted = true ∧
      Always PostedOnce tr s := by
  have htrial : trial (handle 0) earlyResponse (fun s => s.station.readCompleted)
      (start newStation) [entityResponse, configurationResponse, jackInputResponse] =
        true := by decide
  obtain ⟨tr, s, hrun, ha, hc⟩ := exists_run_of_trial (fun _ _ _ h => h) htrial
  have hearly : Along CompletedByResponse tr :=
    fun p hp => completedByResponse_of_early (ha p hp)
  exact ⟨tr, s, hrun, hc, (posted_once_iff hrun).2 hearly⟩

/-- When the last read runs out instead, nothing is posted for the drained lists. -/
theorem not_posted_once :
    ¬ ∀ mac es tr s, Run (Step mac) (start es) tr s → Always PostedOnce tr s := by
  intro h
  have htrial : trial (handle 0) (fun _ _ => true)
      (fun s => s.station.readCompleted && s.completed.isEmpty) (start newStation)
      [entityResponse, configurationResponse, .timeTick 751] = true := by decide
  obtain ⟨tr, s, hrun, -, hc⟩ := exists_run_of_trial (fun _ _ _ h => h) htrial
  rw [Bool.and_eq_true, List.isEmpty_iff] at hc
  have hone := (h _ _ tr s hrun).2.1 hc.1
  rw [hc.2] at hone
  cases hone

end Enumeration
end AvdeccLib
