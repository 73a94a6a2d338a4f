import AvdeccLib.ViewProtocol

namespace AvdeccLib
set_option autoImplicit true

open Outcome Scripts Handler
open EndStation (deref)
variable {command : Command} {o : Option View} {v : View}

/-- The end station has a current configuration with as many streams of the type. -/
def View.HasStreams (t : DescType) (i n : Nat) (v : View) : Prop :=
  ∃ x, v.cmdLine.endStationAt i = .ok x ∧ n ≤ (x.2.descVec t).length

namespace View
variable {v v' : View} {es : EndStation} {cd : ConfigurationDescriptor}

theorem endStationAt_eq_ok_iff {c : CmdLine} {i : Nat} :
    c.endStationAt i = .ok (es, cd) ↔ c.controller.endStationVec[i]? = some es ∧
      c.getCurrentEntityAndDescriptor i es = some cd := by
  rw [CmdLine.endStationAt]
  constructor
  · intro h
    obtain ⟨es', hes, h⟩ := bind_eq_ok.1 h
    obtain ⟨cd', hcd, h⟩ := bind_eq_ok.1 h
    cases h
    exact ⟨EndStation.deref_ok hes, EndStation.deref_ok hcd⟩
  · rintro ⟨hes, hcd⟩
    exact bind_eq_ok.2 ⟨es, congrArg deref hes, bind_eq_ok.2 ⟨cd, congrArg deref hcd, rfl⟩⟩

theorem Plain.getCurrentEntityAndDescriptor_iff (hv : v.Plain) {i : Nat} :
    v.cmdLine.getCurrentEntityAndDescriptor i es = some cd ↔
      ∃ e, es.entityDescVec[0]? = some e ∧ e.configDescVec[0]? = some cd := by
  rw [CmdLine.getCurrentEntityAndDescriptor, hv.selection]
  exact Option.bind_eq_some_iff

/-- What a view shows and every one that grows out of it. -/
def Stable (P : View → Prop) : Prop := ∀ v v' : View, v.Plain → v'.Plain →
    v.Grown v' → P v → P v'

theorem stable_hasStreams (t : DescType) (i n : Nat) : Stable (HasStreams t i n) := by
  rintro v v' hv hv' hgrown ⟨⟨es, cd⟩, hx, hn⟩
  obtain ⟨hes, hcd⟩ := endStationAt_eq_ok_iff.1 hx
  obtain ⟨e, he, hc⟩ := hv.getCurrentEntityAndDescriptor_iff.1 hcd
  obtain ⟨es', hes', hges⟩ := hgrown.stations _ _ hes
  obtain ⟨e', he', hge⟩ := hges _ _ he
  obtain ⟨cd', hc', hgc⟩ := hge.configs _ _ hc
  have hx' := endStationAt_eq_ok_iff.2
    ⟨hes', hv'.getCurrentEntityAndDescriptor_iff.2 ⟨e', he', hc'⟩⟩
  exact ⟨(es', cd'), hx', hn.trans (hgc t)⟩

theorem Stable.and {P P' : View → Prop} (h : Stable P) (h' : Stable P') :
    Stable fun v => P v ∧ P' v :=
  fun v v' hv hv' hgrown hP => ⟨h v v' hv hv' hgrown hP.1, h' v v' hv hv' hgrown hP.2⟩

end View

/-- Where the command looks next it finds `P`. -/
def Ahead (P : View → Prop) (o : Option View) : Prop :=
  ∀ v : View, v.Plain → (∀ v₀ ∈ o, v₀.Grown v) → P v

section
variable {P : View → Prop} {i : Nat} {t : DescType} {id : Ptr} {cd : ConfigurationDescriptor}

theorem View.Stable.ahead (hP : View.Stable P) (hv : v.Plain) (h : P v) : Ahead P (some v) :=
  fun v' hv' hgrown => hP v v' hv hv' (hgrown v rfl) h

namespace Handler
variable {Q Q' : Option View → Prop} {handler : Handler Unit}

theorem seq_safe {f : Unit → Handler Unit} (h : handler.SafeTo Q' command o)
    (hf : ∀ o, Q' o → (f ()).SafeTo Q command o) : (handler >>= f).SafeTo Q command o := by
  apply Script.follows_bind.2
  apply h.mono
  rintro ⟨command', o⟩ ⟨⟩ ⟨rfl, ho⟩
  exact hf o ho

theorem SafeTo.weaken (h : handler.SafeTo Q command o) : handler.Safe command o :=
  h.mono fun _ _ hk => ⟨hk.1, trivial⟩

theorem forEndStations_safe {body : Nat → ConfigurationDescriptor → Handler Unit}
    (hP : View.Stable P)
    (hbody : ∀ v i es cd, v.Plain → P v → v.cmdLine.endStationAt i = .ok (es, cd) →
      (body i cd).SafeTo (Ahead P) command (some v)) (left i : Nat) (ho : Ahead P o) :
    (forEndStations body left i).SafeTo (Ahead P) command o := by
  induction left generalizing i o with
  | zero => exact ⟨rfl, ho⟩
  | succ left ih =>
    apply look_safe
    intro v hv hgrown
    have hPv := ho v hv hgrown
    have hahead := hP.ahead hv hPv
    cases hes : v.stations[i]? with
    | none => exact ⟨rfl, hahead⟩
    | some es =>
      dsimp only
      cases hcd : v.cmdLine.getCurrentEntityAndDescriptor i es with
      | none => exact ih (i + 1) hahead
      | some cd =>
        have hx := View.endStationAt_eq_ok_iff.2 ⟨hes, hcd⟩
        exact seq_safe (hbody v i es cd hv hPv hx) fun o ho => ih (i + 1) ho

theorem forStreams_safe {body : Nat → Nat → Handler Unit} {n : Nat}
    (hbody : ∀ o left j, Ahead P o → j < n → (body left j).SafeTo (Ahead P) command o)
    (left j : Nat) (hn : j + left ≤ n) (ho : Ahead P o) :
    (forStreams body left j).SafeTo (Ahead P) command o := by
  induction left generalizing j o with
  | zero => exact ⟨rfl, ho⟩
  | succ left ih =>
    apply seq_safe (hbody o left j ho (by omega))
    intro o ho
    exact ih (j + 1) (by omega) ho

theorem sendQuery_safe {query : CmdLine → Except Fault TxData} (hP : View.Stable P)
    (hquery : ∀ v, v.Plain → P v → ∃ d, query v.cmdLine = .ok d) (ho : Ahead P o) :
    (sendQuery query).SafeTo (Ahead P) command o := by
  apply look_safe
  intro v hv hgrown
  have hPv := ho v hv hgrown
  apply lift_safe fun _ => hquery v hv hPv
  intro d hd
  apply sendAcmp_safe
  apply look_safe
  intro v' hv' hgrown'
  exact ⟨rfl, hP.ahead hv' (hP v v' hv hv' (hgrown' v rfl) hPv)⟩

end Handler

theorem View.HasStreams.query {n j : Nat} (hv : v.Plain) (h : v.HasStreams t i n) (hj : j < n) :
    ∃ es cd stream e, v.cmdLine.endStationAt i = .ok (es, cd) ∧
      deref (cd.descVec t)[j]? = .ok stream ∧ es.entityDescVec[0]? = some e := by
  obtain ⟨⟨es, cd⟩, hx, hn⟩ := h
  obtain ⟨-, hcd⟩ := endStationAt_eq_ok_iff.1 hx
  obtain ⟨e, he, -⟩ := hv.getCurrentEntityAndDescriptor_iff.1 hcd
  exact ⟨es, cd, _, e, hx, congrArg deref (List.getElem?_eq_getElem (hj.trans_le hn)), he⟩

theorem queryInstream_ok {n j : Nat} (hv : v.Plain) (h : v.HasStreams .streamInput i n)
    (hj : j < n) : ∃ d, v.cmdLine.queryInstream id i j = .ok d := by
  obtain ⟨es, cd, instream, e, hx, hstream, he⟩ := h.query hv hj
  exact ⟨_, bind_eq_ok.2 ⟨(es, cd), hx, bind_eq_ok.2 ⟨instream, hstream,
    bind_eq_ok.2 ⟨e, congrArg deref he, rfl⟩⟩⟩⟩

theorem queryOutstream_ok {n j : Nat} (hv : v.Plain) (h : v.HasStreams .streamOutput i n)
    (hj : j < n) : ∃ d, v.cmdLine.queryOutstream id i j = .ok d := by
  obtain ⟨es, cd, outstream, e, hx, hstream, he⟩ := h.query hv hj
  exact ⟨_, bind_eq_ok.2 ⟨(es, cd), hx, bind_eq_ok.2 ⟨outstream, hstream,
    bind_eq_ok.2 ⟨e, congrArg deref he, rfl⟩⟩⟩⟩

theorem queryOutstream_safe {n left j : Nat} (hj : j < n)
    (ho : Ahead (View.HasStreams .streamOutput i n) o) :
    (queryOutstream id i left j).SafeTo (Ahead (View.HasStreams .streamOutput i n))
      command o := by
  have hstable := View.stable_hasStreams .streamOutput i n
  apply look_safe
  intro v hv hgrown
  have hahead := hstable.ahead hv (ho v hv hgrown)
  split
  · apply setWaitForNextCmd_safe
    apply look_safe
    intro v' hv' hgrown'
    have hstreams := hahead v' hv' hgrown'
    apply lift_safe fun _ => queryOutstream_ok hv' hstreams hj
    intro d hd
    apply sendAcmp_safe
    apply getLastRespStatus_safe
    exact fun _ => ⟨rfl, hstable.ahead hv' hstreams⟩
  · exact sendQuery_safe hstable (fun v hv h => queryOutstream_ok hv h hj) hahead

theorem queryStreams_safe {es : EndStation} (hv : v.Plain)
    (hx : v.cmdLine.endStationAt i = .ok (es, cd)) :
    (queryStreams id i cd).Safe command (some v) := by
  have hstable := View.stable_hasStreams .streamInput i (cd.descVec .streamInput).length
  have hahead := hstable.ahead hv ⟨(es, cd), hx, le_rfl⟩
  refine seq_safe (forStreams_safe ?_ _ 0 (Nat.zero_add _).le hahead) ?_
  · intro o left j ho hj
    exact sendQuery_safe hstable (fun v hv h => queryInstream_ok hv h hj) ho
  · intro o ho
    apply look_safe
    intro v' hv' hgrown
    obtain ⟨x, hx', -⟩ := ho v' hv' hgrown
    apply lift_safe fun _ => ⟨x, hx'⟩
    rintro ⟨es', cd'⟩ hcd'
    have hahead' :=
      (View.stable_hasStreams .streamOutput i (cd'.descVec .streamOutput).length).ahead
      hv' ⟨(es', cd'), hcd', le_rfl⟩
    refine SafeTo.weaken (forStreams_safe ?_ _ 0 (Nat.zero_add _).le hahead')
    exact fun o left j ho hj => queryOutstream_safe hj ho

theorem onStreamAt_safe {n j : Nat} {report : StreamStates → Handler Unit} (hP : View.Stable P)
    (hj : j < n) (ho : Ahead (fun v => v.HasStreams t i n ∧ P v) o)
    (h : ∀ v states, Ahead (fun v => v.HasStreams t i n ∧ P v) (some v) →
      (report states).SafeTo (Ahead fun v => v.HasStreams t i n ∧ P v) command (some v)) :
    (onStreamAt t i j report).SafeTo (Ahead fun v => v.HasStreams t i n ∧ P v) command o := by
  apply look_safe
  intro v hv hgrown
  have hboth := ho v hv hgrown
  obtain ⟨es, cd, stream, e, hx, hstream, -⟩ := hboth.1.query hv hj
  apply lift_safe fun _ => ⟨(es, cd), hx⟩
  rintro ⟨es', cd'⟩ hx'
  cases hx.symm.trans hx'
  apply lift_safe fun _ => ⟨stream, hstream⟩
  intro _ _
  exact h v _ (((View.stable_hasStreams t i n).and hP).ahead hv hboth)

theorem forAllStreams_safe {report : Nat → Nat → StreamStates → Handler Unit}
    (hP : View.Stable P) (ho : Ahead P o)
    (h : ∀ P' v i j states, View.Stable P' → Ahead P' (some v) →
      (report i j states).SafeTo (Ahead P') command (some v)) :
    (forEndStations (fun i configuration =>
      forStreams (fun _ j => onStreamAt t i j (report i j))
        (configuration.descVec t).length 0) (2 ^ 32) 0).SafeTo (Ahead P) command o := by
  refine forEndStations_safe hP ?_ _ 0 ho
  intro v i es cd hv hPv hx
  let n := (cd.descVec t).length
  have hboth := (View.stable_hasStreams t i n).and hP
  have hahead := hboth.ahead hv ⟨⟨(es, cd), hx, le_rfl⟩, hPv⟩
  have hstream :
    ∀ (o : Option View) (left j : Nat), Ahead (fun v => v.HasStreams t i n ∧ P v) o →
      j < n → (onStreamAt t i j (report i j)).SafeTo (Ahead fun v => v.HasStreams t i n ∧ P v)
        command o :=
    fun o left j ho hj => onStreamAt_safe hP hj ho fun v states hv => h _ v i j states hboth hv
  apply (forStreams_safe hstream n 0 (Nat.zero_add n).le hahead).mono
  exact fun _ _ hk => ⟨hk.1, fun v hv hgrown => (hk.2 v hv hgrown).2⟩

theorem showReport_safe : showReport.Safe command o := by
  have htrue : View.Stable fun _ => True := fun _ _ _ _ _ _ => trivial
  refine SafeTo.weaken (forAllStreams_safe htrue (fun _ _ _ => trivial) ?_)
  intro P v i j states hP hahead
  split
  · exact ⟨rfl, hahead⟩
  · exact forAllStreams_safe hP hahead fun P' v i j states hP' hahead' => ⟨rfl, hahead'⟩

theorem cmdShowConnections_safe : cmdShowConnections.Safe command o := by
  have htrue : View.Stable fun _ => True := fun _ _ _ _ _ _ => trivial
  apply getNextNotificationId_safe
  intro id
  refine seq_safe (forEndStations_safe htrue ?_ _ 0 fun _ _ _ => trivial) fun o _ =>
    showReport_safe
  intro v i es cd hv _ hx
  exact (queryStreams_safe hv hx).mono fun _ _ hk => ⟨hk.1, fun _ _ _ => trivial⟩

end

end AvdeccLib
