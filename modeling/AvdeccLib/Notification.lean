import AvdeccLib.EventDelivery
import AvdeccLib.Pdu

namespace AvdeccLib
set_option autoImplicit true

open Ring Runs

/-- The assignments of `post_notification_msg` to an element of `notification_buf`. -/
def Notification.copy : Nat → Notification → Notification → Notification
  | 0, src, dest => { dest with notificationType := src.notificationType }
  | 1, src, dest => { dest with entityId := src.entityId }
  | 2, src, dest => { dest with cmdType := src.cmdType }
  | 3, src, dest => { dest with descType := src.descType }
  | 4, src, dest => { dest with descIndex := src.descIndex }
  | 5, src, dest => { dest with cmdStatus := src.cmdStatus }
  | 6, src, dest => { dest with notificationId := src.notificationId }
  | _, _, dest => dest

theorem Notification.copy_all (src dest : Notification) (_ : True) :
    (List.range 7).foldl (fun d i => Notification.copy i src d) dest = src := by
  have hrange : List.range 7 = [0, 1, 2, 3, 4, 5, 6] := rfl
  simp only [hrange, List.foldl_cons, List.foldl_nil, Notification.copy]

/-- The test of `post_notification_msg` for a notification type. -/
def NotificationType.known (t : NotificationType) : Bool :=
  t == .noMatchFound || t == .endStationConnected || t == .endStationDisconnected ||
    t == .commandTimeout || t == .responseReceived || t == .endStationReadCompleted

theorem NotificationType.known_eq (t : NotificationType) : t.known = true := by
  cases t <;> rfl

/-- `notification`, with `NOTIFICATION_BUF_COUNT`. -/
def notificationSpec : RingSpec Notification where
  bufCount := 32
  fields := {
    count := 7
    copy := Notification.copy
    fits _ := True
    copy_all := Notification.copy_all }
  known n := n.notificationType.known
  bufCount_dvd := by decide
  bufCount_lt := by decide

structure LogData where
  level : Int
  msg : List Char
  timeStampMs : Int
  deriving DecidableEq

/-- The assignments of `post_log_msg` to an element of `log_buf`, whose `msg` has room for 255
characters and a NUL. -/
def LogData.copy : Nat → LogData → LogData → LogData
  | 0, src, dest => { dest with msg := src.msg.take 255 }
  | 1, src, dest => { dest with level := src.level }
  | 2, src, dest => { dest with timeStampMs := src.timeStampMs }
  | _, _, dest => dest

theorem LogData.copy_all (src dest : LogData) (h : src.msg.length ≤ 255) :
    (List.range 3).foldl (fun d i => LogData.copy i src d) dest = src := by
  have hrange : List.range 3 = [0, 1, 2] := rfl
  simp only [hrange, List.foldl_cons, List.foldl_nil, LogData.copy, List.take_of_length_le h]

/-- The ring of `log`, with `LOG_BUF_COUNT`. -/
def logSpec : RingSpec LogData where
  bufCount := 32
  fields := {
    count := 3
    copy := LogData.copy
    fits d := d.msg.length ≤ 255
    copy_all := LogData.copy_all }
  known _ := true
  bufCount_dvd := by decide
  bufCount_lt := by decide

def RingAction.isPost : RingAction α → Bool
  | .post _ => true
  | _ => false

/-- `log`: the ring behind the test for the log level. -/
structure Log where
  logLevel : Int
  ring : EventRing LogData

namespace Log

def loggingLevelError : Int := 0

def new (buf : Nat → LogData) : Log := ⟨loggingLevelError, .new buf⟩

inductive Action where
  | setLogLevel (newLogLevel : Int)
  | postLogMsg (level : Int) (msg : List Char)
  | ring (a : RingAction LogData)

inductive Step (s : Log) : Action → Log → Prop where
  | setLogLevel : Step s (.setLogLevel newLogLevel) { s with logLevel := newLogLevel }
  | enabled (h : level ≤ s.logLevel)
      (hr : EventRing.Step logSpec s.ring (.post ⟨level, msg, 0⟩) r) :
      Step s (.postLogMsg level msg) { s with ring := r }
  | disabled (h : ¬ level ≤ s.logLevel) : Step s (.postLogMsg level msg) s
  | ring (ha : a.isPost = false) (hr : EventRing.Step logSpec s.ring a r) :
      Step s (.ring a) { s with ring := r }

/-- The condition on the ring; an enabled message fits into an element of it. -/
def Orderly (s : Log) : Action → Prop
  | .postLogMsg level msg => level ≤ s.logLevel → msg.length ≤ 255
  | .ring a => EventRing.Orderly logSpec s.ring a
  | .setLogLevel _ => True

theorem ring_run {buf : Nat → LogData} {tr : List (Log × Action)} {s : Log}
    (h : Run Step (.new buf) tr s) (hg : Along Orderly tr) :
    ∃ tr', Run (EventRing.Step logSpec) (.new buf) tr' s.ring ∧
      Along (EventRing.Orderly logSpec) tr' := by
  induction h with
  | nil => exact ⟨[], .nil, along_nil _⟩
  | snoc hr hs ih =>
    rw [along_snoc] at hg
    obtain ⟨tr', hrun, hord⟩ := ih hg.1
    cases hs with
    | setLogLevel => exact ⟨tr', hrun, hord⟩
    | disabled _ => exact ⟨tr', hrun, hord⟩
    | enabled hl hstep => exact ⟨_, hrun.snoc hstep, along_snoc.2 ⟨hord, hg.2 hl⟩⟩
    | ring _ hstep => exact ⟨_, hrun.snoc hstep, along_snoc.2 ⟨hord, hg.2⟩⟩

theorem posts_of_step {r r' : EventRing LogData} {a : RingAction LogData}
    (h : EventRing.Step logSpec r a r') :
    r.posts ⊆ r'.posts ∧ ∀ x, a = .post x → x ∈ r'.posts := by
  cases h with
  | full | pass | ignore =>
    refine ⟨List.subset_append_left _ _, ?_⟩
    rintro x ⟨⟩
    exact List.mem_append_right _ (List.mem_singleton_self _)
  | _ => exact ⟨List.Subset.refl _, (fun x hx => nomatch hx)⟩

theorem lift_run (level : Int) {buf : Nat → LogData} {r : EventRing LogData}
    {tr : List (EventRing LogData × RingAction LogData)}
    (h : Run (EventRing.Step logSpec) (.new buf) tr r)
    (hord : Along (EventRing.Orderly logSpec) tr)
    (hposts : ∀ x ∈ r.posts, x.level ≤ level ∧ x.timeStampMs = 0) :
    ∃ tr', Run Step ⟨level, .new buf⟩ tr' ⟨level, r⟩ ∧ Along Orderly tr' := by
  induction h with
  | nil => exact ⟨[], .nil, along_nil _⟩
  | @snoc _ r a _ _ hst ih =>
    obtain ⟨hsub, hpost⟩ := posts_of_step hst
    obtain ⟨hord, hlast⟩ := along_snoc.1 hord
    obtain ⟨tr', hrun, hlog⟩ := ih hord fun x hx => hposts x (hsub hx)
    cases a with
    | post x =>
      obtain ⟨level, msg, timeStampMs⟩ := x
      obtain ⟨hlevel, htime⟩ := hposts _ (hpost _ rfl)
      dsimp only at htime
      subst htime
      exact ⟨_, hrun.snoc (.enabled hlevel hst), along_snoc.2 ⟨hlog, fun _ => hlast⟩⟩
    | _ => exact ⟨_, hrun.snoc (.ring rfl hst), along_snoc.2 ⟨hlog, hlast⟩⟩

end Log

/-- The notification ring and the log ring deliver in every run whose steps are orderly. -/
theorem events_delivered {buf : Nat → Notification} {logBuf : Nat → LogData}
    {tr : List (EventRing Notification × RingAction Notification)}
    {logTr : List (Log × Log.Action)} {s : EventRing Notification} {l : Log}
    (h : Run (EventRing.Step notificationSpec) (.new buf) tr s)
    (hord : Along (EventRing.Orderly notificationSpec) tr)
    (hlog : Run Log.Step (.new logBuf) logTr l) (hlogord : Along Log.Orderly logTr) :
    EventRing.Delivers notificationSpec s ∧ EventRing.Delivers logSpec l.ring := by
  constructor
  · exact EventRing.delivers (fun n => n.notificationType.known_eq) h hord
  · obtain ⟨tr', hrun, hord'⟩ := Log.ring_run hlog hlogord
    exact EventRing.delivers (fun _ => rfl) hrun hord'

def responseTo (cmdType : BitVec 16) : Notification :=
  ⟨.responseReceived, 1, cmdType, 0, 0, 0, null⟩

/-- Two notifications are posted and dispatched, and a third one behind them. Of two messages
for the log, the level lets one pass. -/
theorem events_delivered_once :
    ∃ s, ∃ l : Log, s.called = [responseTo 1, responseTo 2, responseTo 3] ∧
      EventRing.Delivers notificationSpec s ∧
      l.ring.called = [⟨0, ['r', 'x'], 0⟩] ∧ EventRing.Delivers logSpec l.ring := by
  let start := EventRing.new fun _ => responseTo 0
  let posted₁ := start.posted notificationSpec (responseTo 1)
  let posted₂ := posted₁.posted notificationSpec (responseTo 2)
  let dispatched₁ := posted₂.dispatched notificationSpec
  let dispatched₂ := dispatched₁.dispatched notificationSpec
  let posted₃ := dispatched₂.posted notificationSpec (responseTo 3)
  obtain ⟨tr₁, hpost₁, hord₁⟩ := EventRing.post_run (p := notificationSpec) (s := start)
    (x := responseTo 1) (by decide) (by decide) trivial
  obtain ⟨tr₂, hpost₂, hord₂⟩ := EventRing.post_run (p := notificationSpec) (s := posted₁)
    (x := responseTo 2) (by decide) (by decide) trivial
  obtain ⟨tr₃, hdispatch₁, hord₃⟩ := EventRing.dispatch_run (p := notificationSpec)
    (s := posted₂) rfl (by decide) (by decide) trivial
  obtain ⟨tr₄, hdispatch₂, hord₄⟩ := EventRing.dispatch_run (p := notificationSpec)
    (s := dispatched₁) rfl (by decide) (by decide) trivial
  obtain ⟨tr₅, hpost₃, hord₅⟩ := EventRing.post_run (p := notificationSpec) (s := dispatched₂)
    (x := responseTo 3) (by decide) (by decide) trivial
  obtain ⟨tr₆, hdispatch₃, hord₆⟩ := EventRing.dispatch_run (p := notificationSpec)
    (s := posted₃) rfl (by decide) (by decide) trivial
  have hrun := ((((hpost₁.append hpost₂).append hdispatch₁).append hdispatch₂).append
    hpost₃).append hdispatch₃
  have hord := along_append.2 ⟨along_append.2 ⟨along_append.2 ⟨along_append.2 ⟨along_append.2
    ⟨hord₁ (by decide), hord₂ (by decide)⟩, hord₃ (by decide)⟩, hord₄ (by decide)⟩,
    hord₅ (by decide)⟩, hord₆ (by decide)⟩
  let ring := EventRing.new fun _ => (⟨0, [], 0⟩ : LogData)
  let msg : LogData := ⟨Log.loggingLevelError, ['r', 'x'], 0⟩
  obtain ⟨tr₇, hpost, hord₇⟩ := EventRing.post_run (p := logSpec) (s := ring) (x := msg)
    (by decide) rfl (show 2 ≤ 255 by decide)
  obtain ⟨tr₈, hdispatch, hord₈⟩ := EventRing.dispatch_run (p := logSpec)
    (s := ring.posted logSpec msg) rfl (by decide) (by decide) (show 2 ≤ 255 by decide)
  obtain ⟨logTr, hlog, hlogord⟩ := Log.lift_run Log.loggingLevelError
    (hpost.append hdispatch) (along_append.2 ⟨hord₇ (by decide), hord₈ (by decide)⟩) (by decide)
  have hdisabled := hlog.snoc (e := .postLogMsg 3 ['t', 'x']) (.disabled (by decide))
  obtain ⟨hdelivers, hlogdelivers⟩ := events_delivered hrun hord hdisabled
    (along_snoc.2 ⟨hlogord, fun h => absurd h (by decide)⟩)
  exact ⟨_, _, by decide, hdelivers, by decide, hlogdelivers⟩

/-- As many posts as the ring is long, and one. -/
def fillingPosts : List Notification :=
  (List.range 33).map fun k => responseTo (BitVec.ofNat 16 k)

/-- While the callback is not called, the last of the posts overwrites the first. -/
theorem events_not_delivered :
    ¬ ∀ buf tr s, Run (EventRing.Step notificationSpec) (.new buf) tr s →
      EventRing.Delivers notificationSpec s := by
  intro h
  obtain ⟨tr, hposts⟩ := EventRing.posts_run (p := notificationSpec)
    (s := .new fun _ => responseTo 0) fillingPosts (fun n => n.notificationType.known_eq)
    (fun _ _ => trivial) rfl (n := 0) rfl (by decide)
  obtain ⟨tr', hdispatch, -⟩ := EventRing.dispatch_run (p := notificationSpec)
    (s := fillingPosts.foldl (EventRing.posted notificationSpec) (.new fun _ => responseTo 0))
    rfl (by decide) (by decide) trivial
  have hprefix := (h _ _ _ (hposts.append hdispatch)).inOrder
  revert hprefix
  decide

end AvdeccLib
