import AvdeccLib.ShowConnectionsSafety

namespace AvdeccLib
set_option autoImplicit true

open Outcome Scripts
open EndStation (deref)

section
variable {args : RxArgs} {i : BitVec 32} {descIndex : BitVec 16}

namespace View
variable {v v' : View} {e : EntityDescriptor} {es : EndStation} {cd : ConfigurationDescriptor}

theorem Grown.hasOutstream (h : v.Grown v') (hv : v.Plain) (hv' : v'.Plain)
    (ho : v.cmdLine.HasOutstream i descIndex) : v'.cmdLine.HasOutstream i descIndex := by
  obtain ⟨cd, hcd, hlt⟩ := ho
  obtain ⟨cd', hcd', hgrown⟩ := h.getCurrentConfigDesc hv hv' hcd
  exact ⟨cd', hcd', hlt.trans_le (hgrown .streamOutput)⟩

theorem Grown.ready (h : v.Grown v') (hv : v.Plain) (hv' : v'.Plain)
    (hr : v.cmdLine.Ready args) : v'.cmdLine.Ready args := by
  obtain ⟨htest, hin, hout, cd, hcd, hlt⟩ := hr
  obtain ⟨cd', hcd', hgrown⟩ := h.getCurrentConfigDesc hv hv' hcd
  have hlen := h.stations.length_le
  refine ⟨?_, hin.trans_le hlen, hout.trans_le hlen, cd', hcd',
    hlt.trans_le (hgrown .streamInput)⟩
  rw [h.testMode]
  exact htest

theorem Plain.first_entity (hv : v.Plain) (hcd : v.cmdLine.getCurrentConfigDesc i = some cd) :
    ∃ es e, v.cmdLine.getEndStationByIndex i = some es ∧ es.entityDescVec[0]? = some e ∧
      v.cmdLine.getCurrentEntityDesc i = some e := by
  obtain ⟨e, he, -⟩ := Option.bind_eq_some_iff.1 hcd
  have hfirst := he
  rw [hv.getCurrentEntityDesc] at hfirst
  obtain ⟨es, hes, hfirst⟩ := Option.bind_eq_some_iff.1 hfirst
  exact ⟨es, e, hes, hfirst, he⟩

theorem isSettingValid_iff {entity config : BitVec 16} :
    v.isSettingValid i entity config = true ↔ ∃ es e,
      v.cmdLine.getEndStationByIndex i = some es ∧ es.entityDescVec[entity.toNat]? = some e ∧
        config.toNat < e.configDescVec.length := by
  rw [isSettingValid]
  cases hes : v.cmdLine.getEndStationByIndex i with
  | none => exact iff_of_false Bool.false_ne_true (fun ⟨_, _, h, _⟩ => nomatch h)
  | some es =>
    dsimp only
    cases he : es.entityDescVec[entity.toNat]? with
    | none =>
      apply iff_of_false Bool.false_ne_true
      rintro ⟨es', e, h, he', -⟩
      cases h
      rw [he] at he'
      cases he'
    | some e =>
      rw [decide_eq_true_eq]
      constructor
      · intro h
        exact ⟨es, e, rfl, he, h⟩
      · rintro ⟨es', e', h, he', hlt⟩
        cases h
        cases he.symm.trans he'
        exact hlt

/-- An end station has one entity with one configuration at most, so only these can be
selected. -/
theorem Plain.selection_of_valid (hv : v.Plain) {entity config : BitVec 16}
    (h : v.isSettingValid i entity config = true) :
    (⟨entity, config⟩ : Selection) = {} ∧ i.toNat < v.stations.length ∧
      ∃ e, v.cmdLine.getCurrentEntityDesc i = some e := by
  obtain ⟨es, e, hes, he, hlt⟩ := isSettingValid_iff.1 h
  obtain ⟨hlen, -⟩ := List.getElem?_eq_some_iff.1 hes
  obtain ⟨hentity, -⟩ := List.getElem?_eq_some_iff.1 he
  have hsingle := hv.single es (List.mem_of_getElem? hes)
  have hconfig := hsingle.configuration e (List.mem_of_getElem? he)
  have hone := hsingle.entity
  obtain rfl : entity = 0 := BitVec.eq_of_toNat_eq (Nat.lt_one_iff.1 (hentity.trans_le hone))
  obtain rfl : config = 0 := BitVec.eq_of_toNat_eq (Nat.lt_one_iff.1 (hlt.trans_le hconfig))
  refine ⟨rfl, hlen, e, ?_⟩
  rw [hv.getCurrentEntityDesc, hes]
  exact he

theorem endStationAt_eq_ok (hes : v.cmdLine.getEndStationByIndex i = some es) :
    v.endStationAt i = .ok es := by
  rw [endStationAt, hes]
  rfl

end View

theorem CmdLine.exists_requestRx {c : CmdLine} {instream : AemDesc} {t : AcmpMessageType}
    {flags : BitVec 16} {id : Ptr} {es : EndStation} {talker e : EntityDescriptor}
    (htalker : c.getCurrentEntityDesc args.outstreamEndStationIndex = some talker)
    (hes : c.getEndStationByIndex args.instreamEndStationIndex = some es)
    (he : es.entityDescVec[0]? = some e) :
    ∃ d, c.requestRx args instream t flags id = .ok d :=
  ⟨_, bind_eq_ok.2 ⟨talker, congrArg deref htalker, bind_eq_ok.2 ⟨es, congrArg deref hes,
    bind_eq_ok.2 ⟨e, congrArg deref he, rfl⟩⟩⟩⟩

open Handler
variable {command : Command} {o : Option View} {v : View}

theorem doSelect_safe {entity config : BitVec 16} :
    (doSelect i entity config).Safe command o := by
  apply look_safe
  intro v hv hgrown
  split
  · next hvalid =>
    obtain ⟨hselection, hlt, e, he⟩ := hv.selection_of_valid hvalid
    apply lift_safe
    · exact fun _ => ⟨e, congrArg deref he⟩
    · intro e he
      split
      · exact ended_safe
      · refine (Script.follows_perform_bind (CommandCall.select _ _)).2
          ⟨?_, fun _ _ => ended_safe⟩
        exact ⟨hselection, v, rfl, hlt⟩
  · exact ended_safe

theorem cmdShowSelect_safe : cmdShowSelect.Safe .showSelect o := by
  apply look_safe
  intro v hv hgrown
  cases hes : v.getCurrentEndStation with
  | none => exact ended_safe
  | some es =>
    apply lift_safe
    · intro hl
      rw [hv.getCurrentEntityDesc, show v.cmdLine.getEndStationByIndex _ = some es from hes]
      cases hempty : es.entityDescVec with
      | nil => exact absurd ⟨es, hes, hempty⟩ hl
      | cons e rest => exact ⟨e, by rw [Option.bind_some, hempty]; rfl⟩
    · exact fun _ _ => ended_safe

theorem cmdReadDescriptor_safe {descName : String} :
    (cmdReadDescriptor descName descIndex).Safe (.readDescriptor descName descIndex) o := by
  apply look_safe
  intro v hv hgrown
  cases hes : v.getCurrentEndStation with
  | none => exact ended_safe
  | some es =>
    dsimp only
    split
    · apply sendAndWait_safe
      intro v' hv' hgrown hl
      obtain ⟨es', hes', -⟩ := (hgrown v rfl).getCurrentEndStation hes
      refine ⟨_, bind_eq_ok.2 ⟨es', congrArg deref hes', rfl⟩, ?_⟩
      apply NotifiedCmd.Supplied.sendable
      by_contra hnot
      rw [NotifiedCmd.Supplied, SendCmd.Supplied, not_or, not_or, not_not] at hnot
      exact hl ⟨⟨es', hes', hnot.2.2⟩, hnot.1, hnot.2.1⟩
    · exact ended_safe

theorem cmdConnectRx_safe {flags : List String} :
    (cmdConnectRx args flags).Safe command o := by
  apply look_safe
  intro v hv hgrown
  dsimp only
  split
  · next hvalid =>
    obtain ⟨hready, hout⟩ := CmdLine.isValid_connect.1 hvalid
    split
    · exact ended_safe
    · apply sendAcmpAndWait_safe
      intro v' id hv' hgrown hl
      have hready' := (hgrown v rfl).ready hv hv' hready
      obtain ⟨cd, hcd, hlt⟩ := (hgrown v rfl).hasOutstream hv hv' hout
      obtain ⟨instream, hinstream⟩ := hready'.instream
      obtain ⟨-, -, -, cd', hcd', -⟩ := hready'
      obtain ⟨es, e, hes, he, -⟩ := hv'.first_entity hcd'
      obtain ⟨-, talker, -, -, htalker⟩ := hv'.first_entity hcd
      have houtstream := congrArg deref (List.getElem?_eq_getElem hlt)
      obtain ⟨d, hd⟩ := CmdLine.exists_requestRx htalker hes he
      exact ⟨d, bind_eq_ok.2 ⟨instream, congrArg deref hinstream, bind_eq_ok.2
        ⟨cd, congrArg deref hcd, bind_eq_ok.2 ⟨_, houtstream, hd⟩⟩⟩⟩
  · exact ended_safe

/-- `disconnect` has not checked that the end station of the outstream has an entity. -/
theorem cmdDisconnectRx_safe : (cmdDisconnectRx args).Safe (.disconnectRx args) o := by
  apply look_safe
  intro v hv hgrown
  dsimp only
  split
  · next hvalid =>
    obtain ⟨hready, -⟩ := CmdLine.isValid_disconnect.1 hvalid
    apply sendAcmpAndWait_safe
    intro v' id hv' hgrown hl
    have hready' := (hgrown v rfl).ready hv hv' hready
    obtain ⟨instream, hinstream⟩ := hready'.instream
    obtain ⟨-, -, hout, cd, hcd, -⟩ := hready'
    obtain ⟨es, e, hes, he, -⟩ := hv'.first_entity hcd
    obtain ⟨station, hstation⟩ : ∃ station,
        v'.cmdLine.getEndStationByIndex args.outstreamEndStationIndex = some station :=
      ⟨_, List.getElem?_eq_getElem hout⟩
    obtain ⟨talker, htalker⟩ : ∃ talker,
        v'.cmdLine.getCurrentEntityDesc args.outstreamEndStationIndex = some talker := by
      rw [hv'.getCurrentEntityDesc, hstation]
      cases hvec : station.entityDescVec with
      | nil => exact absurd ⟨station, hstation, hvec⟩ hl
      | cons talker rest => exact ⟨talker, by rw [Option.bind_some, hvec]; rfl⟩
    obtain ⟨d, hd⟩ := CmdLine.exists_requestRx htalker hes he
    exact ⟨d, bind_eq_ok.2 ⟨instream, congrArg deref hinstream, hd⟩⟩
  · exact ended_safe

theorem queryStream_safe {t : DescType}
    {query : CmdLine → EndStation → AemDesc → Ptr → Except Fault TxData}
    (hquery : ∀ c es stream id e, es.entityDescVec[0]? = some e →
      ∃ d, query c es stream id = .ok d) :
    (queryStream t i descIndex query).Safe command o := by
  apply look_safe
  intro v hv hgrown
  cases hcd : v.cmdLine.getCurrentConfigDesc i with
  | none => exact ended_safe
  | some cd =>
    dsimp only
    split
    · next hlt =>
      apply sendAcmpAndWait_safe
      intro v' id hv' hgrown hl
      obtain ⟨cd', hcd', hg⟩ := (hgrown v rfl).getCurrentConfigDesc hv hv' hcd
      obtain ⟨es, e, hes, he, -⟩ := hv'.first_entity hcd'
      have hstream := congrArg deref (List.getElem?_eq_getElem (hlt.trans_le (hg t)))
      obtain ⟨d, hd⟩ := hquery v'.cmdLine es _ id e he
      exact ⟨d, bind_eq_ok.2 ⟨es, congrArg deref hes, bind_eq_ok.2 ⟨cd', congrArg deref hcd',
        bind_eq_ok.2 ⟨_, hstream, hd⟩⟩⟩⟩
    · exact ended_safe

theorem cmdEntityAvail_safe : cmdEntityAvail.Safe command o := by
  apply look_safe
  intro v hv hgrown
  cases hes : v.getCurrentEndStation with
  | none => exact ended_safe
  | some es =>
    apply sendAndWait_safe
    intro v' hv' hgrown hl
    obtain ⟨es', hes', -⟩ := (hgrown v rfl).getCurrentEndStation hes
    exact ⟨(es', .send .entityAvail), bind_eq_ok.2 ⟨es', congrArg deref hes', rfl⟩,
      NotifiedCmd.Supplied.sendable trivial⟩

theorem cmdControllerAvail_safe : cmdControllerAvail.Safe .controllerAvail o := by
  apply sendAndWait_safe
  intro v hv hgrown hl
  obtain ⟨es, hes⟩ := Option.ne_none_iff_exists'.1 hl
  refine ⟨_, bind_eq_ok.2 ⟨es, View.endStationAt_eq_ok hes, rfl⟩, ?_⟩
  apply NotifiedCmd.Supplied.sendable
  exact (List.getElem?_eq_some_iff.1 hes).1

theorem doIdentify_safe {turnOn : Bool} :
    (doIdentify i turnOn).Safe (.identify i turnOn) o := by
  have hfound : ∀ v : View, ¬ Command.Lacks v (.identify i turnOn) →
      ∃ es, v.endStationAt i = .ok es := by
    intro v hl
    obtain ⟨es, hes⟩ := Option.ne_none_iff_exists'.1 hl
    exact ⟨es, View.endStationAt_eq_ok hes⟩
  apply look_safe
  intro v hv hgrown
  apply lift_safe (hfound v)
  intro es hes
  apply sendAndWait_safe
  intro v' hv' hgrown hl
  obtain ⟨es', hes'⟩ := hfound v' hl
  exact ⟨_, bind_eq_ok.2 ⟨es', hes', rfl⟩, NotifiedCmd.Supplied.sendable trivial⟩

theorem cmdReboot_safe (hlacks : ∀ v, View.OddEntity v → command.Lacks v) :
    cmdReboot.Safe command o := by
  apply withCurrent_safe
  intro v x hv hx
  exact onEntity_safe hv hx hlacks fun _ _ h => h

theorem cmdLockEntity_safe {flagName descName : String} :
    (cmdLockEntity flagName descName).Safe (.lockEntity flagName descName) o := by
  rw [cmdLockEntity]
  split
  · exact ended_safe
  · apply withCurrent_safe
    intro v x hv hx
    split
    · next hentity => exact onEntity_safe hv hx (fun _ h => ⟨hentity, h⟩) fun _ _ h => h
    · exact ended_safe

theorem onNamed_safe {t : DescType} {types : List DescType} {descName : String}
    {cmd : AemDesc → SendCmd} {x : EndStation × EntityDescriptor × ConfigurationDescriptor}
    (hv : v.Plain) (hx : v.getCurrentEndStationEntityAndDescriptor = some x) (ht : t ∈ types)
    (hname : aemDescNameToValue descName = t.code)
    (hlacks : ∀ v, View.LacksNamed v types descName descIndex → command.Lacks v)
    (hcmd : ∀ es obj, obj.descriptorType = t → (NotifiedCmd.send (cmd obj)).Supplied 304 es) :
    (onDescriptor t descIndex cmd).Safe command (some v) :=
  onDescriptor_safe hv hx (fun v h => hlacks v ⟨t, ht, hname, h⟩) hcmd

theorem onStream_safe {descName : String} {input output : AemDesc → SendCmd}
    (hlacks : ∀ v, View.LacksNamed v [.streamInput, .streamOutput] descName descIndex →
      command.Lacks v)
    (hin : ∀ es obj, obj.descriptorType = .streamInput →
      (NotifiedCmd.send (input obj)).Supplied 304 es)
    (hout : ∀ es obj, obj.descriptorType = .streamOutput →
      (NotifiedCmd.send (output obj)).Supplied 304 es) :
    (onStream descName (onDescriptor .streamInput descIndex input)
      (onDescriptor .streamOutput descIndex output)).Safe command o := by
  apply withCurrent_safe
  intro v x hv hx
  split
  · next hname => exact onNamed_safe hv hx (by decide) hname hlacks hin
  · split
    · next hname => exact onNamed_safe hv hx (by decide) hname hlacks hout
    · exact ended_safe

theorem onAudioUnit_safe {descName : String} {cmd : AemDesc → SendCmd}
    (hlacks : ∀ v, View.LacksNamed v [.audioUnit] descName descIndex → command.Lacks v)
    (hcmd : ∀ es obj, obj.descriptorType = .audioUnit →
      (NotifiedCmd.send (cmd obj)).Supplied 304 es) :
    (onAudioUnit descName descIndex cmd).Safe command o := by
  apply withCurrent_safe
  intro v x hv hx
  split
  · next hname => exact onNamed_safe hv hx (by decide) hname hlacks hcmd
  · exact ended_safe

theorem cmdSetStreamInfo_safe {descName field value : String} :
    (cmdSetStreamInfo descName descIndex field value).Safe
      (.setStreamInfo descName descIndex field value) o := by
  apply withCurrent_safe
  intro v x hv hx
  split
  · exact ended_safe
  · split
    · next hname =>
      split
      · have hlacks : ∀ v, View.LacksNamed v [.streamOutput] descName descIndex →
            Command.Lacks v (.setStreamInfo descName descIndex field value) := fun _ h => h
        exact onNamed_safe hv hx (List.mem_singleton_self _) hname hlacks fun _ _ h => h
      · exact ended_safe
    · exact ended_safe

theorem acquireStreamInput_safe {x : EndStation × EntityDescriptor × ConfigurationDescriptor}
    (hv : v.Plain) (hx : v.getCurrentEndStationEntityAndDescriptor = some x)
    (hlacks : ∀ v, View.LacksObject v .streamInput descIndex → command.Lacks v) :
    (acquireStreamInput descIndex).Safe command (some v) := by
  apply getNextNotificationId_safe
  intro id
  apply setWaitForNextCmd_safe
  apply lookCurrent_safe hv hx
  intro v y hv hy
  apply lift_safe
  · intro hl
    cases hobj : y.2.2.getDescByIndex .streamInput descIndex with
    | none => exact absurd (hlacks v ⟨y, hy, hobj⟩) hl
    | some obj => exact ⟨obj, rfl⟩
  · intro obj hobj
    exact getLastRespStatus_safe fun _ => ended_safe

theorem cmdAcquireEntity_safe {flagName descName : String} :
    (cmdAcquireEntity flagName descName descIndex).Safe
      (.acquireEntity flagName descName descIndex) o := by
  rw [cmdAcquireEntity]
  split
  · exact ended_safe
  · apply withCurrent_safe
    intro v x hv hx
    split
    · next hname => exact onEntity_safe hv hx (fun _ h => .inl ⟨hname, h⟩) fun _ _ h => h
    · split
      · next hname =>
        apply acquireStreamInput_safe hv hx
        exact fun v h => .inr ⟨.streamInput, by decide, hname, h⟩
      · split
        · next hname =>
          have hlacks :
            ∀ v, View.LacksNamed v [.streamInput, .streamOutput] descName descIndex →
              Command.Lacks v (.acquireEntity flagName descName descIndex) := fun _ h => .inr h
          exact onNamed_safe hv hx (by decide) hname hlacks fun _ _ h => h
        · exact ended_safe

theorem onClockDomain_safe {id : Ptr} {cmd : AemDesc → SendCmd} {print : Int → Handler Unit}
    {x : EndStation × EntityDescriptor × ConfigurationDescriptor}
    (hv : v.Plain) (hx : v.getCurrentEndStationEntityAndDescriptor = some x)
    (hcmd : ∀ es obj, obj.descriptorType = .clockDomain →
      (NotifiedCmd.send (cmd obj)).Supplied 304 es)
    (hprint : ∀ v status, (print status).Safe command (some v)) :
    (onClockDomain id descIndex cmd print).Safe command (some v) := by
  apply setWaitForNextCmd_safe
  apply lookCurrent_safe hv hx
  intro v y hv hy
  obtain ⟨-, -, hcd⟩ := View.current_eq_some_iff.1 hy
  dsimp only
  cases hobj : y.2.2.getDescByIndex .clockDomain descIndex with
  | none => exact ended_safe
  | some obj =>
    have htype := (hv.config_tidy hcd).type _ obj (List.mem_of_getElem? hobj)
    apply send_safe
    · exact fun _ => (hcmd _ obj htype).sendable
    · exact getLastRespStatus_safe (hprint v)

theorem cmdSetClockSource_safe {newClkSrcIndex : BitVec 16} :
    (cmdSetClockSource descIndex newClkSrcIndex).Safe command o := by
  apply withCurrent_safe
  intro v x hv hx
  apply getNextNotificationId_safe
  intro id
  exact onClockDomain_safe hv hx (fun _ _ h => h) fun _ _ => ended_safe

theorem printClockSource_safe {status : Int} :
    (printClockSource descIndex status).Safe (.getClockSource descIndex) o := by
  apply look_safe
  intro v hv hgrown
  dsimp only
  split
  · next h => exact .inr ⟨v, rfl, h.2⟩
  · exact ended_safe

theorem cmdGetClockSource_safe :
    (cmdGetClockSource descIndex).Safe (.getClockSource descIndex) o := by
  apply getNextNotificationId_safe
  intro id
  apply withCurrent_safe
  intro v x hv hx
  exact onClockDomain_safe hv hx (fun _ _ h => h) fun _ _ => printClockSource_safe

theorem headCall_supplied {current : BitVec 64} {is : IStream} {buffer : List BigEndian.Byte}
    {es : EndStation} (h : is.gcount ≤ 256) (hb : buffer.length = 256) :
    (NotifiedCmd.send (headCall current is buffer).cmd).Supplied 304 es := by
  have hlen : (BitVec.ofNat 32 is.gcount).toNat ≤ 256 := by
    rw [BitVec.toNat_ofNat]
    exact (Nat.mod_le _ _).trans h
  exact ⟨hlen.trans hb.ge, Nat.add_le_add_left hlen 48⟩

theorem writeImage_safe {id : Ptr} {reboot : Bool} {current : BitVec 64} {is : IStream}
    {buffer : List BigEndian.Byte} {es : EndStation} (hv : v.Plain)
    (hes : v.getCurrentEndStation = some es)
    (hlacks : reboot = true → ∀ v, View.OddEntity v → command.Lacks v)
    (h : is.gcount ≤ 256) (hb : buffer.length = 256) :
    (writeImage id reboot current is buffer).Safe command (some v) := by
  fun_induction writeImage id reboot current is buffer generalizing v es with
  | case1 current is buffer hzero hreboot => exact cmdReboot_safe (hlacks hreboot)
  | case2 current is buffer hzero hreboot => exact ended_safe
  | case3 current is buffer hzero ih =>
    apply setWaitForNextCmd_safe
    apply look_safe
    intro v' hv' hgrown
    obtain ⟨es', hes', -⟩ := (hgrown v rfl).getCurrentEndStation hes
    apply lift_safe
    · exact fun _ => ⟨es', congrArg deref hes'⟩
    · intro station hstation
      apply send_safe
      · exact fun _ => (headCall_supplied h hb).sendable
      · apply getLastRespStatus_safe
        intro status
        split
        · exact ended_safe
        · exact ih hv' hes' (is.gcount_read_le buffer) (is.length_read hb)

theorem cmdFirmwareUpgrade_safe {image : Option (List BigEndian.Byte)}
    {buffer : Vector BigEndian.Byte 256} {reboot : Bool} :
    (cmdFirmwareUpgrade image buffer reboot).Safe (.firmwareUpgrade image buffer reboot) o := by
  cases image with
  | none => exact ended_safe
  | some image =>
    apply withCurrent_safe
    intro v x hv hx
    apply getNextNotificationId_safe
    intro id
    apply setWaitForNextCmd_safe
    apply lookCurrent_safe hv hx
    intro v y hv hy
    obtain ⟨hes, -, hcd⟩ := View.current_eq_some_iff.1 hy
    apply lift_safe
    · intro hl
      cases hobj : y.2.2.getDescByIndex .memoryObject 0 with
      | none => exact absurd (.inl ⟨y, hy, hobj⟩) hl
      | some obj => exact ⟨obj, rfl⟩
    · intro obj hobj
      have htype := (hv.config_tidy hcd).type .memoryObject obj
        (List.mem_of_getElem? (EndStation.deref_ok hobj))
      apply send_safe
      · have hcmd : (NotifiedCmd.send (.startOperation obj 3)).Supplied 304 y.1 :=
          ⟨htype, by decide⟩
        exact fun _ => hcmd.sendable
      · apply getLastRespStatus_safe
        intro status
        split
        · exact ended_safe
        · exact writeImage_safe hv hes (fun hreboot v h => .inr ⟨hreboot, h⟩)
            (IStream.gcount_read_le _ _) (IStream.length_read _ buffer.length_toList)

end

/-- A command fails only where it is malformed or lacks something at its last look. -/
theorem Command.safe (command : Command) : command.script.Safe command none := by
  cases command with
  | select endStation entity config => exact doSelect_safe
  | showSelect => exact cmdShowSelect_safe
  | readDescriptor name index => exact cmdReadDescriptor_safe
  | connectRx args flags => exact cmdConnectRx_safe
  | disconnectRx args => exact cmdDisconnectRx_safe
  | getTxState endStation index | getRxState endStation index
  | getTxConnection endStation index =>
    exact queryStream_safe fun _ _ _ _ e he => ⟨_, bind_eq_ok.2 ⟨e, congrArg deref he, rfl⟩⟩
  | showConnections => exact cmdShowConnections_safe
  | acquireEntity flag name index => exact cmdAcquireEntity_safe
  | lockEntity flag name => exact cmdLockEntity_safe
  | entityAvail => exact cmdEntityAvail_safe
  | reboot => exact cmdReboot_safe fun _ h => h
  | controllerAvail => exact cmdControllerAvail_safe
  | setStreamFormat name index format =>
    rw [script, cmdSetStreamFormat]
    split
    · next hshort => exact .inl hshort
    · exact onStream_safe (fun _ h => h) (fun _ _ h => h) fun _ _ h => h
  | setStreamInfo name index field value => exact cmdSetStreamInfo_safe
  | getStreamFormat name index | getStreamInfo name index
  | startStreaming name index | stopStreaming name index =>
    exact onStream_safe (fun _ h => h) (fun _ _ h => h) fun _ _ h => h
  | setSamplingRate name index rate | getSamplingRate name index =>
    exact onAudioUnit_safe (fun _ h => h) fun _ _ h => h
  | setClockSource index source => exact cmdSetClockSource_safe
  | getClockSource index => exact cmdGetClockSource_safe
  | firmwareUpgrade image buffer answer => exact cmdFirmwareUpgrade_safe
  | identify endStation turnOn => exact doIdentify_safe

end AvdeccLib
