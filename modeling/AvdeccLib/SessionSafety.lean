import AvdeccLib.CommandSafety
import AvdeccLib.SessionWaits

namespace AvdeccLib
set_option autoImplicit true

open Runs Scripts Growth

namespace Console
variable {c c' : Console} {system : System} {a : System.Action} {v : View}

/-- The first entity and the first configuration are selected in every end station, and the
current end station is one that is there, except for the first one. -/
structure Settled (c : Console) : Prop where
  tidy : c.system.controller.Tidy
  single : c.system.controller.Single
  selection : ∀ i, c.selection i = {}
  current : c.currentEndStation = 0 ∨
    c.currentEndStation.toNat < c.system.controller.endStationVec.length

/-- What the thread saw is still there. -/
def Keeps (c : Console) (v : View) : Prop := v.Grown (c.view clearedData)

theorem Settled.plain (h : c.Settled) (data : ObjectData) : (c.view data).Plain :=
  ⟨h.tidy, h.single, h.selection⟩

theorem Settled.step {selection : Nat → Selection} (h : c.Settled) (hs : c.system.Step a system)
    (hsel : ∀ i, selection i = {}) : Settled { c with system, selection } := by
  rcases System.step_event hs with ⟨txPipe, hc⟩ | ⟨e, he, -⟩
  · have hvec :
      system.controller.endStationVec = c.system.controller.endStationVec := by rw [hc]
    refine ⟨?_, ?_, hsel, ?_⟩
    · intro es hes
      exact h.tidy es (hvec ▸ hes)
    · intro es hes
      exact h.single es (hvec ▸ hes)
    · dsimp only
      rw [hvec]
      exact h.current
  · have hlen := (Controller.step_stations he).length_le
    exact ⟨h.tidy.step he, h.single.step he, hsel, h.current.imp_right fun hlt =>
      hlt.trans_le hlen⟩

theorem Settled.own (h : c.Settled) (hs : c.Own a c') : c'.Settled := by
  cases hs with
  | step ha hs =>
    apply h.step hs
    intro i
    rw [selectionBehind]
    split
    · exact h.selection i
    · rfl

theorem Keeps.step {selection : Nat → Selection} (h : c.Keeps v) (hs : c.system.Step a system)
    (hsteady : c.system.Steady a) : Keeps { c with system, selection } v :=
  ⟨h.current, h.testMode, h.stations.trans (fun _ _ _ h h' => h.trans h')
    (System.step_grows hs hsteady)⟩

theorem settled_new (mac : Mac) (notifyId : Ptr) (completionStatus respStatusForCmd : Int)
    (testMode : Bool) :
    Settled (.new (.new mac notifyId completionStatus respStatusForCmd) testMode) :=
  ⟨(fun _ hes => absurd hes List.not_mem_nil), (fun _ hes => absurd hes List.not_mem_nil),
    fun _ => rfl, .inl rfl⟩

end Console

namespace Session
variable {mac : Mac} {notifyId : Ptr} {completionStatus respStatusForCmd : Int}
  {testMode : Bool} {s s' : Session} {tr : List (Session × Event)}

/-- While a command runs no end station is enumerated again. -/
def Calm (s : Session) : Event → Prop
  | .own a => (∃ e, s.script = .done e) ∨ s.server.system.Steady a
  | _ => True

/-- The command that runs has thrown, dereferenced null or failed an assertion, by itself or in
a sender that it calls. -/
def Crashed (s : Session) : Prop :=
  match s.script with
  | .fail _ => True
  | .call (.send endStation cmd _) _ => ¬ cmd.Sendable endStation
  | _ => False

/-- What a command saw last. -/
def lastLook (tr : List (Session × Event)) : Option View :=
  (tr.filterMap fun p =>
    match p.2 with
    | .call .look v => some v
    | _ => none).getLast?

theorem lastLook_look {v : View} : lastLook (tr ++ [(s, .call .look v)]) = some v := by
  rw [lastLook, List.filterMap_append]
  exact List.getLast?_concat

theorem lastLook_snoc {e : Event} (he : ∀ v, e ≠ .call .look v) :
    lastLook (tr ++ [(s, e)]) = lastLook tr := by
  rw [lastLook, List.filterMap_append, List.filterMap_cons_none, List.filterMap_nil,
    List.append_nil]
  · rfl
  · dsimp only
    split
    · next v => exact absurd rfl (he v)
    · rfl

theorem lastLook_own {a : System.Action} : lastLook (tr ++ [(s, .own a)]) = lastLook tr :=
  lastLook_snoc (by rintro v ⟨⟩)

theorem done_of_not_started
    (h : Run Step (.new mac notifyId completionStatus respStatusForCmd testMode) tr s)
    (hlast : lastStarted tr = none) : ∃ a, s.script = .done a := by
  induction h with
  | nil => exact ⟨_, rfl⟩
  | snoc hr hst ih =>
    cases hst with
    | call hc _ =>
      rw [lastStarted_call] at hlast
      obtain ⟨a, ha⟩ := ih hlast
      rw [hc] at ha
      cases ha
    | own _ =>
      rw [lastStarted_own] at hlast
      exact ih hlast
    | start _ =>
      rw [lastStarted_start] at hlast
      cases hlast

/-- The command that runs and what it saw last, along a session. -/
theorem safe_run
    (h : Run Step (.new mac notifyId completionStatus respStatusForCmd testMode) tr s)
    (hcalm : Along Calm tr) :
    ∃ o, s.server.Settled ∧ (∀ v ∈ o, lastLook tr = some v) ∧
      s.script.Follows viewProtocol (fun _ _ => True)
        (running tr, o) := by
  have hnone : ∀ P : View → Prop, ∀ v ∈ (none : Option View), P v :=
    fun _ v hv => (Option.not_mem_none v hv).elim
  let R : List (Session × Event) → Console → Command × Option View → Prop := fun tr c k =>
    c.Settled ∧ running tr = k.1 ∧ ∀ v ∈ k.2, lastLook tr = some v ∧ c.Keeps v
  have hscript : ∀ command : Command,
      command.script.Follows viewProtocol (fun _ _ => True) (command, none) :=
    fun command => command.safe.mono fun _ _ _ => trivial
  have hrun := Client.follows_run (R := R) (k := (.showSelect, none)) hscript ?_ ?_ ?_ h hcalm
    ⟨Console.settled_new _ _ _ _ _, rfl, hnone _⟩ trivial
  · obtain ⟨⟨command, o⟩, ⟨hsettled, hlast, hlook⟩, hf⟩ := hrun
    refine ⟨o, hsettled, fun v hv => (hlook v hv).1, ?_⟩
    rw [hlast]
    exact hf
  · rintro tr s ⟨command, o⟩ call r c ⟨hsettled, hlast, hlook⟩ hallow - hs
    have hlast' : running (tr ++ [(s, .call call r)]) = command := by
      rw [running, lastStarted_call]
      exact hlast
    have hlook' : ∀ v ∈ o, (∀ v, Client.Event.call call r ≠ (.call .look v : Event)) →
        lastLook (tr ++ [(s, .call call r)]) = some v := by
      intro v hv hne
      rw [lastLook_snoc hne]
      exact (hlook v hv).1
    cases hs with
    | look happ =>
      refine ⟨⟨hsettled.plain _, ?_⟩, hsettled, hlast', ?_⟩
      · intro v hv
        obtain ⟨hcurrent, htest, hstations⟩ := (hlook v hv).2
        exact ⟨hcurrent, htest, hstations⟩
      · rintro v hv
        cases hv
        exact ⟨lastLook_look, rfl, rfl, grows_refl EndStation.Grown.refl⟩
    | getNextNotificationId happ =>
      refine ⟨trivial, ⟨hsettled.tidy, hsettled.single, hsettled.selection, hsettled.current⟩,
        hlast', ?_⟩
      intro v hv
      obtain ⟨hcurrent, htest, hstations⟩ := (hlook v hv).2
      exact ⟨hlook' v hv (by rintro v ⟨⟩), hcurrent, htest, hstations⟩
    | setWaitForNextCmd hs =>
      refine ⟨trivial, hsettled.step hs hsettled.selection, hlast', ?_⟩
      exact fun v hv => ⟨hlook' v hv (by rintro v ⟨⟩), (hlook v hv).2.step hs trivial⟩
    | send hq hs =>
      refine ⟨trivial, hsettled.step hs hsettled.selection, hlast', ?_⟩
      exact fun v hv => ⟨hlook' v hv (by rintro v ⟨⟩), (hlook v hv).2.step hs trivial⟩
    | sendAcmp hs =>
      refine ⟨trivial, hsettled.step hs hsettled.selection, hlast', ?_⟩
      exact fun v hv => ⟨hlook' v hv (by rintro v ⟨⟩), (hlook v hv).2.step hs trivial⟩
    | getLastRespStatus happ =>
      refine ⟨trivial, hsettled, hlast', ?_⟩
      exact fun v hv => ⟨hlook' v hv (by rintro v ⟨⟩), (hlook v hv).2⟩
    | select happ =>
      obtain ⟨rfl, v, hv, hlt⟩ := hallow
      have hlen := (hlook v hv).2.stations.length_le
      refine ⟨trivial, ⟨hsettled.tidy, hsettled.single, ?_, .inr (hlt.trans_le hlen)⟩, hlast',
        hnone _⟩
      intro i
      change Function.update s.server.selection _ {} i = {}
      rw [Function.update_apply]
      split
      · rfl
      · exact hsettled.selection i
  · rintro tr s ⟨command, o⟩ a c ⟨hsettled, hlast, hlook⟩ hf hcalm hs
    have hlast' : running (tr ++ [(s, .own a)]) = command := by
      rw [running, lastStarted_own]
      exact hlast
    rcases hcalm with ⟨e, he⟩ | hsteady
    · refine ⟨(command, none), ⟨hsettled.own hs, hlast', hnone _⟩, ?_⟩
      rw [he]
      trivial
    · refine ⟨(command, o), ⟨hsettled.own hs, hlast', ?_⟩, hf⟩
      intro v hv
      rw [lastLook_own]
      cases hs with
      | step ha hs => exact ⟨(hlook v hv).1, (hlook v hv).2.step hs hsteady⟩
  · rintro tr s ⟨command, o⟩ a command' ⟨hsettled, hlast, hlook⟩ - - -
    refine ⟨hsettled, ?_, hnone _⟩
    rw [running, lastStarted_start]
    rfl

/-- In a session in which no end station is enumerated again while a command runs: every
selection is that of the first entity and its first configuration, the current end station is
one that was found, and a command that crashes is malformed or lacks something where it looked
last. -/
theorem crash_lacks
    (h : Run Step (.new mac notifyId completionStatus respStatusForCmd testMode) tr s)
    (hcalm : Along Calm tr) :
    (∀ i, s.server.selection i = {}) ∧
    (s.server.currentEndStation = 0 ∨
      s.server.currentEndStation.toNat < s.server.system.controller.endStationVec.length) ∧
    (s.Crashed → ∃ command, lastStarted tr = some command ∧
      (command.Malformed ∨ ∃ v, lastLook tr = some v ∧ command.Lacks v)) := by
  obtain ⟨o, hsettled, hlook, hf⟩ := safe_run h hcalm
  refine ⟨hsettled.selection, hsettled.current, ?_⟩
  intro hcrash
  cases hlast : lastStarted tr with
  | none =>
    obtain ⟨a, ha⟩ := done_of_not_started h hlast
    rw [Crashed, ha] at hcrash
    cases hcrash
  | some command =>
    rw [running, hlast, Option.getD_some] at hf
    refine ⟨command, rfl, ?_⟩
    rw [Crashed] at hcrash
    split at hcrash
    · next e hfail =>
      rw [hfail] at hf
      apply hf.imp_right
      rintro ⟨v, hv, hl⟩
      exact ⟨v, hlook v hv, hl⟩
    · next endStation cmd id next hcall =>
      rw [hcall] at hf
      rcases hf.1 with hs | ⟨v, hv, hl⟩
      · exact absurd hs hcrash
      · exact .inr ⟨v, hlook v hv, hl⟩
    · cases hcrash

/-- CONTROLLER_AVAILABLE is to be sent when no end station has been found. -/
theorem crash_lacks_controllerAvail :
    ∃ tr s, Run Step (.new 1 0 0 7 false) tr s ∧ s.Crashed ∧ ∃ command,
      lastStarted tr = some command ∧
      (command.Malformed ∨ ∃ v, lastLook tr = some v ∧ command.Lacks v) := by
  have hrun : Run Step (.new 1 0 0 7 false) _ _ :=
    (((Run.nil.snoc (.start (g := .controllerAvail) rfl)).snoc
      (.call rfl (.getNextNotificationId rfl))).snoc
      (.call rfl (.setWaitForNextCmd (.setWaitForNextCmd rfl)))).snoc
      (.call rfl (@Console.Serve.look _ Console.clearedData rfl))
  refine ⟨_, _, hrun, trivial, (crash_lacks hrun ?_).2.2 trivial⟩
  simp only [along_snoc]
  exact ⟨⟨⟨⟨along_nil Calm, trivial⟩, trivial⟩, trivial⟩, trivial⟩

end Session
end AvdeccLib
