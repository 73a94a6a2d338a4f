import AvdeccLib.CommandScripts
import AvdeccLib.Sendable
import AvdeccLib.StationGrowth

namespace AvdeccLib
set_option autoImplicit true

open Outcome Scripts Growth
open EndStation (deref)

/-- The buffers of a sender do not matter: it hands its frame over. -/
def NotifiedCmd.Sendable (es : EndStation) (cmd : NotifiedCmd) : Prop :=
  ∀ macAddr locals nid, 304 ≤ locals.payload.length →
    ∃ q, cmd.queue macAddr locals es nid = .ok q

theorem NotifiedCmd.Supplied.sendable {es : EndStation} {cmd : NotifiedCmd}
    (h : cmd.Supplied 304 es) : cmd.Sendable es := by
  intro macAddr locals nid hroom
  rw [cmd.queue_iff (le_trans (by decide) hroom)]
  cases cmd with
  | identify i turnOn => trivial
  | send cmd =>
    cases cmd with
    | addressAccess mode length address data => exact ⟨h.1, h.2.trans hroom⟩
    | _ => exact h

namespace View

/-- The first entity and the first configuration are selected everywhere, and the objects have
the types that they are stored under. -/
structure Plain (v : View) : Prop where
  tidy : v.cmdLine.controller.Tidy
  single : v.cmdLine.controller.Single
  selection : ∀ i, v.cmdLine.selection i = {}

/-- The same end station is current, and what was there before is there. -/
structure Grown (v v' : View) : Prop where
  current : v'.currentEndStation = v.currentEndStation
  testMode : v'.cmdLine.testMode = v.cmdLine.testMode
  stations : Grows EndStation.Grown v.stations v'.stations

/-- The current end station has no ENTITY yet. -/
def LacksEntity (v : View) : Prop :=
  ∃ es, v.getCurrentEndStation = some es ∧ es.entityDescVec = []

/-- The current entity has an index that the sender's assertion rejects. -/
def OddEntity (v : View) : Prop :=
  ∃ x, v.getCurrentEndStationEntityAndDescriptor = some x ∧ x.2.1.desc.descriptorIndex ≠ 0

/-- The current configuration has no object at the index. -/
def LacksObject (v : View) (t : DescType) (descIndex : BitVec 16) : Prop :=
  ∃ x, v.getCurrentEndStationEntityAndDescriptor = some x ∧
    x.2.2.getDescByIndex t descIndex = none

/-- One of the types is named, and there is no object of it at the index. -/
def LacksNamed (v : View) (types : List DescType) (descName : String) (descIndex : BitVec 16) :
    Prop :=
  ∃ t ∈ types, aemDescNameToValue descName = t.code ∧ v.LacksObject t descIndex

end View

namespace Command

/-- The position in the text that the command throws at is behind its end. -/
def Malformed : Command → Prop
  | setStreamFormat _ _ newStreamFormatName => newStreamFormatName.length < 20
  | _ => False

/-- What the command uses without looking whether it is there is missing. `disconnect` uses the
talker's entity, since it looks the outstream up in the end station of the instream, and
`get clock_source` the source at the index in the response. -/
def Lacks (v : View) : Command → Prop
  | showSelect => v.LacksEntity
  | readDescriptor descName _ =>
    v.LacksEntity ∧ DescType.ofCode (aemDescNameToValue descName) ≠ .entity ∧
      DescType.ofCode (aemDescNameToValue descName) ≠ .configuration
  | disconnectRx args =>
    ∃ es, v.cmdLine.getEndStationByIndex args.outstreamEndStationIndex = some es ∧
      es.entityDescVec = []
  | acquireEntity _ descName descIndex =>
    aemDescNameToValue descName = DescType.entity.code ∧ v.OddEntity ∨
      v.LacksNamed [.streamInput, .streamOutput] descName descIndex
  | lockEntity _ descName => aemDescNameToValue descName = DescType.entity.code ∧ v.OddEntity
  | reboot => v.OddEntity
  | controllerAvail => v.getCurrentEndStation = none
  | setStreamFormat descName descIndex _ | getStreamFormat descName descIndex
  | getStreamInfo descName descIndex | startStreaming descName descIndex
  | stopStreaming descName descIndex =>
    v.LacksNamed [.streamInput, .streamOutput] descName descIndex
  | setStreamInfo descName descIndex _ _ => v.LacksNamed [.streamOutput] descName descIndex
  | setSamplingRate descName descIndex _ | getSamplingRate descName descIndex =>
    v.LacksNamed [.audioUnit] descName descIndex
  | firmwareUpgrade _ _ answer => v.LacksObject .memoryObject 0 ∨ answer = true ∧ v.OddEntity
  | identify endStation _ => v.cmdLine.getEndStationByIndex endStation = none
  | getClockSource descIndex =>
    (v.clockDomain descIndex).clkSrcVec.length ≤
      (v.clockDomain descIndex).clockSourceIndex.toNat
  | select _ _ _ | connectRx _ _ | getTxState _ _ | getRxState _ _ | getTxConnection _ _
  | showConnections | entityAvail | setClockSource _ _ => False

end Command

/-- What a command may rely on between two of its looks, and what may be missing where it fails.
It is about the command and what it saw last. -/
def viewProtocol : Protocol CommandCall CommandCall.Reply Fault (Command × Option View) where
  allows
    | k, .select endStation selection =>
      selection = {} ∧ ∃ v ∈ k.2, endStation.toNat < v.stations.length
    | k, .send endStation cmd _ => cmd.Sendable endStation ∨ ∃ v ∈ k.2, k.1.Lacks v
    | _, _ => True
  next
    | k, .look, v => (k.1, some v)
    | k, .select _ _, _ => (k.1, none)
    | k, _, _ => k
  replies
    | k, .look, v => v.Plain ∧ ∀ v₀ ∈ k.2, v₀.Grown v
    | _, _, _ => True
  fails k _ := k.1.Malformed ∨ ∃ v ∈ k.2, k.1.Lacks v

/-- The handler keeps to the protocol when the command saw this last, and what it saw last at
its end satisfies `Q`. -/
def Handler.SafeTo (Q : Option View → Prop) (command : Command) (o : Option View)
    (h : Handler Unit) : Prop :=
  h.Follows viewProtocol (fun k _ => k.1 = command ∧ Q k.2) (command, o)

abbrev Handler.Safe (command : Command) (o : Option View) (h : Handler Unit) : Prop :=
  h.SafeTo (fun _ => True) command o

namespace View
variable {v v' : View} {i : BitVec 32} {es : EndStation} {e : EntityDescriptor}
  {cd : ConfigurationDescriptor}

theorem Plain.getCurrentEntityDesc (hv : v.Plain) (i : BitVec 32) :
    v.cmdLine.getCurrentEntityDesc i =
      (v.cmdLine.getEndStationByIndex i).bind fun es => es.entityDescVec[0]? := by
  rw [CmdLine.getCurrentEntityDesc, hv.selection]
  rfl

theorem Plain.getCurrentConfigDesc (hv : v.Plain) (i : BitVec 32) :
    v.cmdLine.getCurrentConfigDesc i =
      (v.cmdLine.getCurrentEntityDesc i).bind fun e => e.configDescVec[0]? := by
  rw [CmdLine.getCurrentConfigDesc, hv.selection]
  rfl

theorem Plain.entity_tidy (hv : v.Plain) (he : v.cmdLine.getCurrentEntityDesc i = some e) :
    e.Tidy := by
  obtain ⟨es, hes, he⟩ := Option.bind_eq_some_iff.1 he
  exact hv.tidy es (List.mem_of_getElem? hes) e (List.mem_of_getElem? he)

theorem Plain.config_tidy (hv : v.Plain) (hcd : v.cmdLine.getCurrentConfigDesc i = some cd) :
    cd.Tidy := by
  obtain ⟨e, he, hcd⟩ := Option.bind_eq_some_iff.1 hcd
  exact (hv.entity_tidy he).2 cd (List.mem_of_getElem? hcd)

theorem Grown.getEndStationByIndex (h : v.Grown v')
    (hes : v.cmdLine.getEndStationByIndex i = some es) :
    ∃ es', v'.cmdLine.getEndStationByIndex i = some es' ∧ es.Grown es' :=
  h.stations _ _ hes

theorem Grown.getCurrentEntityDesc (h : v.Grown v') (hv : v.Plain) (hv' : v'.Plain)
    (he : v.cmdLine.getCurrentEntityDesc i = some e) :
    ∃ e', v'.cmdLine.getCurrentEntityDesc i = some e' ∧ e.Grown e' := by
  rw [hv.getCurrentEntityDesc] at he
  obtain ⟨es, hes, he⟩ := Option.bind_eq_some_iff.1 he
  obtain ⟨es', hes', hgrown⟩ := h.getEndStationByIndex hes
  obtain ⟨e', he', hge⟩ := hgrown _ _ he
  rw [hv'.getCurrentEntityDesc, hes']
  exact ⟨e', he', hge⟩

theorem Grown.getCurrentConfigDesc (h : v.Grown v') (hv : v.Plain) (hv' : v'.Plain)
    (hcd : v.cmdLine.getCurrentConfigDesc i = some cd) :
    ∃ cd', v'.cmdLine.getCurrentConfigDesc i = some cd' ∧ cd.Grown cd' := by
  rw [hv.getCurrentConfigDesc] at hcd
  obtain ⟨e, he, hcd⟩ := Option.bind_eq_some_iff.1 hcd
  obtain ⟨e', he', hgrown⟩ := h.getCurrentEntityDesc hv hv' he
  obtain ⟨cd', hcd', hgcd⟩ := hgrown.configs _ _ hcd
  rw [hv'.getCurrentConfigDesc, he']
  exact ⟨cd', hcd', hgcd⟩

theorem Grown.getCurrentEndStation (h : v.Grown v') (hes : v.getCurrentEndStation = some es) :
    ∃ es', v'.getCurrentEndStation = some es' ∧ es.Grown es' := by
  rw [View.getCurrentEndStation, h.current]
  exact h.getEndStationByIndex hes

theorem current_eq_some_iff {x : EndStation × EntityDescriptor × ConfigurationDescriptor} :
    v.getCurrentEndStationEntityAndDescriptor = some x ↔
      v.getCurrentEndStation = some x.1 ∧
        v.cmdLine.getCurrentEntityDesc v.currentEndStation = some x.2.1 ∧
        v.cmdLine.getCurrentConfigDesc v.currentEndStation = some x.2.2 := by
  obtain ⟨es, e, cd⟩ := x
  simp only [getCurrentEndStationEntityAndDescriptor, Option.bind_eq_bind,
    Option.bind_eq_some_iff, Option.pure_def, Option.some.injEq, Prod.mk.injEq]
  constructor
  · rintro ⟨es', hes, e', he, cd', hcd, rfl, rfl, rfl⟩
    exact ⟨hes, he, hcd⟩
  · rintro ⟨hes, he, hcd⟩
    exact ⟨es, hes, e, he, cd, hcd, rfl, rfl, rfl⟩

theorem Grown.current_some (h : v.Grown v') (hv : v.Plain) (hv' : v'.Plain)
    {x : EndStation × EntityDescriptor × ConfigurationDescriptor}
    (hx : v.getCurrentEndStationEntityAndDescriptor = some x) :
    ∃ x', v'.getCurrentEndStationEntityAndDescriptor = some x' := by
  obtain ⟨hes, he, hcd⟩ := current_eq_some_iff.1 hx
  obtain ⟨es', hes', -⟩ := h.getCurrentEndStation hes
  obtain ⟨e', he', -⟩ := h.getCurrentEntityDesc hv hv' he
  obtain ⟨cd', hcd', -⟩ := h.getCurrentConfigDesc hv hv' hcd
  rw [← h.current] at he' hcd'
  exact ⟨(es', e', cd'), current_eq_some_iff.2 ⟨hes', he', hcd'⟩⟩

end View

namespace Handler
variable {command : Command} {o : Option View} {v : View} {Q : Option View → Prop}
  {x : EndStation × EntityDescriptor × ConfigurationDescriptor}

theorem ended_safe : (pure () : Handler Unit).Safe command o := ⟨rfl, trivial⟩

theorem look_safe {f : View → Handler Unit}
    (h : ∀ v, v.Plain → (∀ v₀ ∈ o, v₀.Grown v) → (f v).SafeTo Q command (some v)) :
    (look >>= f).SafeTo Q command o :=
  (Script.follows_perform_bind CommandCall.look).2 ⟨trivial, fun v hv => h v hv.1 hv.2⟩

theorem getNextNotificationId_safe {f : Ptr → Handler Unit}
    (h : ∀ id, (f id).SafeTo Q command o) : (getNextNotificationId >>= f).SafeTo Q command o :=
  (Script.follows_perform_bind CommandCall.getNextNotificationId).2 ⟨trivial, fun id _ => h id⟩

theorem setWaitForNextCmd_safe {id : Ptr} {f : Unit → Handler Unit}
    (h : (f ()).SafeTo Q command o) : (setWaitForNextCmd id >>= f).SafeTo Q command o :=
  (Script.follows_perform_bind (CommandCall.setWaitForNextCmd id)).2 ⟨trivial, fun _ _ => h⟩

theorem getLastRespStatus_safe {f : Int → Handler Unit}
    (h : ∀ status, (f status).SafeTo Q command o) :
    (getLastRespStatus >>= f).SafeTo Q command o :=
  (Script.follows_perform_bind CommandCall.getLastRespStatus).2 ⟨trivial, fun s _ => h s⟩

theorem sendAcmp_safe {tx : TxData} {f : Unit → Handler Unit} (h : (f ()).SafeTo Q command o) :
    (sendAcmp tx >>= f).SafeTo Q command o :=
  (Script.follows_perform_bind (CommandCall.sendAcmp tx)).2 ⟨trivial, fun _ _ => h⟩

theorem send_safe {endStation : EndStation} {cmd : NotifiedCmd} {id : Ptr}
    {f : Unit → Handler Unit} (hs : ¬ command.Lacks v → cmd.Sendable endStation)
    (h : (f ()).SafeTo Q command (some v)) :
    (send endStation cmd id >>= f).SafeTo Q command (some v) := by
  refine (Script.follows_perform_bind (CommandCall.send endStation cmd id)).2 ⟨?_, fun _ _ => h⟩
  by_cases hl : command.Lacks v
  · exact .inr ⟨v, rfl, hl⟩
  · exact .inl (hs hl)

theorem lift_safe {x : Except Fault α} {f : α → Handler Unit}
    (hx : ¬ command.Lacks v → ∃ a, x = .ok a)
    (h : ∀ a, x = .ok a → (f a).SafeTo Q command (some v)) :
    (Script.lift x >>= f : Handler Unit).SafeTo Q command (some v) := by
  rw [SafeTo, Script.follows_bind, Script.follows_lift]
  refine ⟨h, ?_⟩
  intro e he
  refine .inr ⟨v, rfl, ?_⟩
  by_contra hl
  obtain ⟨a, ha⟩ := hx hl
  rw [ha] at he
  cases he

theorem sendAndWait_safe {target : View → Except Fault (EndStation × NotifiedCmd)}
    (h : ∀ v, v.Plain → (∀ v₀ ∈ o, v₀.Grown v) → ¬ command.Lacks v →
      ∃ p, target v = .ok p ∧ p.2.Sendable p.1) : (sendAndWait target).Safe command o := by
  apply getNextNotificationId_safe
  intro id
  apply setWaitForNextCmd_safe
  apply look_safe
  intro v hv hgrown
  have hfound := h v hv hgrown
  apply lift_safe
  · intro hl
    obtain ⟨p, hp, -⟩ := hfound hl
    exact ⟨p, hp⟩
  · rintro ⟨endStation, cmd⟩ hp
    apply send_safe
    · intro hl
      obtain ⟨p, hp', hs⟩ := hfound hl
      cases hp.symm.trans hp'
      exact hs
    · exact getLastRespStatus_safe fun _ => ended_safe

theorem sendAcmpAndWait_safe {tx : CmdLine → Ptr → Except Fault TxData}
    (h : ∀ v id, v.Plain → (∀ v₀ ∈ o, v₀.Grown v) → ¬ command.Lacks v →
      ∃ d, tx v.cmdLine id = .ok d) : (sendAcmpAndWait tx).Safe command o := by
  apply getNextNotificationId_safe
  intro id
  apply setWaitForNextCmd_safe
  apply look_safe
  intro v hv hgrown
  apply lift_safe (h v id hv hgrown)
  intro d hd
  apply sendAcmp_safe
  exact getLastRespStatus_safe fun _ => ended_safe

theorem withCurrent_safe {handler : Handler Unit}
    (h : ∀ v x, v.Plain → v.getCurrentEndStationEntityAndDescriptor = some x →
      handler.Safe command (some v)) : (withCurrent handler).Safe command o := by
  apply look_safe
  intro v hv hgrown
  cases hx : v.getCurrentEndStationEntityAndDescriptor with
  | none => exact ended_safe
  | some x => exact h v x hv hx

theorem lookCurrent_safe
    {f : EndStation × EntityDescriptor × ConfigurationDescriptor → Handler Unit}
    (hv : v.Plain) (hx : v.getCurrentEndStationEntityAndDescriptor = some x)
    (h : ∀ v x, v.Plain → v.getCurrentEndStationEntityAndDescriptor = some x →
      (f x).Safe command (some v)) :
    (do
      let v ← look
      let x ← Script.lift (deref v.getCurrentEndStationEntityAndDescriptor)
      f x : Handler Unit).Safe command (some v) := by
  apply look_safe
  intro v' hv' hgrown
  obtain ⟨x', hx'⟩ := (hgrown v rfl).current_some hv hv' hx
  apply lift_safe
  · exact fun _ => ⟨x', congrArg deref hx'⟩
  · exact fun y hy => h v' y hv' (EndStation.deref_ok hy)

theorem onDescriptor_safe {t : DescType} {descIndex : BitVec 16} {cmd : AemDesc → SendCmd}
    (hv : v.Plain) (hx : v.getCurrentEndStationEntityAndDescriptor = some x)
    (hlacks : ∀ v, View.LacksObject v t descIndex → command.Lacks v)
    (hcmd : ∀ es obj, obj.descriptorType = t → (NotifiedCmd.send (cmd obj)).Supplied 304 es) :
    (onDescriptor t descIndex cmd).Safe command (some v) := by
  apply sendAndWait_safe
  intro v' hv' hgrown hl
  obtain ⟨x', hx'⟩ := (hgrown v rfl).current_some hv hv' hx
  obtain ⟨hes, he, hcd⟩ := View.current_eq_some_iff.1 hx'
  cases hobj : x'.2.2.getDescByIndex t descIndex with
  | none => exact absurd (hlacks v' ⟨x', hx', hobj⟩) hl
  | some obj =>
    have htype := (hv'.config_tidy hcd).type t obj (List.mem_of_getElem? hobj)
    refine ⟨(x'.1, .send (cmd obj)), ?_, (hcmd _ obj htype).sendable⟩
    exact bind_eq_ok.2 ⟨x', congrArg deref hx', bind_eq_ok.2 ⟨obj, congrArg deref hobj, rfl⟩⟩

theorem onEntity_safe {cmd : EntityDescriptor → SendCmd} (hv : v.Plain)
    (hx : v.getCurrentEndStationEntityAndDescriptor = some x)
    (hlacks : ∀ v, View.OddEntity v → command.Lacks v)
    (hcmd : ∀ es e, e.desc.descriptorType = .entity ∧ e.desc.descriptorIndex = 0 →
      (NotifiedCmd.send (cmd e)).Supplied 304 es) :
    (onEntity cmd).Safe command (some v) := by
  apply sendAndWait_safe
  intro v' hv' hgrown hl
  obtain ⟨x', hx'⟩ := (hgrown v rfl).current_some hv hv' hx
  obtain ⟨hes, he, hcd⟩ := View.current_eq_some_iff.1 hx'
  have hindex : x'.2.1.desc.descriptorIndex = 0 := by
    by_contra hne
    exact hl (hlacks v' ⟨x', hx', hne⟩)
  refine ⟨(x'.1, .send (cmd x'.2.1)), ?_, ?_⟩
  · exact bind_eq_ok.2 ⟨x', congrArg deref hx', rfl⟩
  · exact (hcmd _ _ ⟨(hv'.entity_tidy he).1, hindex⟩).sendable

end Handler

end AvdeccLib
