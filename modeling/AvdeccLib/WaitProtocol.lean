import AvdeccLib.CommandScripts

namespace AvdeccLib
set_option autoImplicit true

open Outcome Scripts
open EndStation (deref)

/-- Where a command is between its calls: it has no id, or one that no command has, or one that
it has queried with, or it has just sent a query, or it has set the wait for its id, or it has
sent the command that is waited for. -/
inductive WaitPhase where
  | idle
  | free (id : Ptr)
  | used (id : Ptr)
  | passing (id : Ptr)
  | armed (id : Ptr)
  | sent (id : Ptr)

namespace WaitPhase

/-- A new id may be drawn, and a command may end. -/
def Ready : WaitPhase → Prop
  | idle | free _ | used _ => True
  | passing _ | armed _ | sent _ => False

/-- A query may be sent with the id. -/
def Asks (id : Ptr) (k : WaitPhase) : Prop := k = free id ∨ k = used id

end WaitPhase

/-- What is sent is a command that is waited for. -/
structure NotifiedCmd.Proper (cmd : NotifiedCmd) : Prop where
  fits : cmd.Fits
  flag : cmd.flag = .cmdWithNotification

structure TxData.Proper (tx : TxData) : Prop where
  flag : tx.notificationFlag = .cmdWithNotification
  isCommand : tx.frame.isCommand = true

/-- A wait is set for an id that no command has, and only one command is sent for it. Only
`show connections` sets one for the id of its queries. -/
def waitProtocol (command : Command) :
    Protocol CommandCall CommandCall.Reply Fault WaitPhase where
  allows
    | k, .getNextNotificationId => k.Ready
    | k, .setWaitForNextCmd id => k = .free id ∨ command = .showConnections ∧ k = .used id
    | k, .send _ cmd id => k = .armed id ∧ cmd.Proper
    | k, .sendAcmp tx => (k = .armed tx.notificationId ∨ k.Asks tx.notificationId) ∧ tx.Proper
    | _, _ => True
  next
    | _, .getNextNotificationId, r => .free r
    | _, .setWaitForNextCmd id, _ => .armed id
    | _, .send _ _ id, _ => .sent id
    | .armed _, .sendAcmp tx, _ => .sent tx.notificationId
    | _, .sendAcmp tx, _ => .passing tx.notificationId
    | .sent id, .getLastRespStatus, _ => .free id
    | .passing id, .look, _ => .used id
    | k, _, _ => k

/-- The commands that can return between the wait and the send: they look a CLOCK_DOMAIN up
behind the wait, or have a sender that sends nothing. -/
def Command.MayLeaveWait : Command → Prop
  | .acquireEntity _ descName _ => aemDescNameToValue descName = DescType.streamInput.code
  | .setClockSource _ _ | .getClockSource _ => True
  | _ => False

/-- A command ends where a new id may be drawn, or with a wait that is set. -/
def Command.Ends (command : Command) (k : WaitPhase) : Prop :=
  k.Ready ∨ command.MayLeaveWait ∧ ∃ id, k = .armed id

/-- The handler of the command keeps to the protocol from the phase on, and ends in one of
`E`. -/
def Handler.Waits (command : Command) (E : WaitPhase → Prop) (k : WaitPhase)
    (h : Handler Unit) : Prop :=
  h.Follows (waitProtocol command) (fun k _ => E k) k

section
open Handler
variable {command : Command} {E : WaitPhase → Prop} {k : WaitPhase} {handler : Handler Unit}
  {c : CmdLine} {id : Ptr} {d : TxData}

namespace Handler

theorem look_bind {f : View → Handler Unit} :
    (look >>= f).Waits command E k ↔
      ∀ v, (f v).Waits command E ((waitProtocol command).next k .look v) :=
  (Script.follows_perform_bind CommandCall.look).trans
    ((and_iff_right (by cases k <;> trivial)).trans (forall_congr' fun v => true_imp_iff))

theorem look_ready {f : View → Handler Unit} (hk : k.Ready) :
    (look >>= f).Waits command E k ↔ ∀ v, (f v).Waits command E k := by
  rw [look_bind]
  cases k with
  | idle | free | used => exact Iff.rfl
  | passing | armed | sent => cases hk

theorem look_armed {f : View → Handler Unit} :
    (look >>= f).Waits command E (.armed id) ↔ ∀ v, (f v).Waits command E (.armed id) :=
  look_bind

theorem getNextNotificationId_bind {f : Ptr → Handler Unit} :
    (getNextNotificationId >>= f).Waits command E k ↔
      k.Ready ∧ ∀ id, (f id).Waits command E (.free id) :=
  (Script.follows_perform_bind CommandCall.getNextNotificationId).trans
    (and_congr_right fun _ => forall_congr' fun _ => true_imp_iff)

theorem setWaitForNextCmd_bind {f : Unit → Handler Unit} :
    (setWaitForNextCmd id >>= f).Waits command E (.free id) ↔
      (f ()).Waits command E (.armed id) := by
  apply (Script.follows_perform_bind (CommandCall.setWaitForNextCmd id)).trans
  exact ⟨fun h => h.2 () trivial, fun h => ⟨.inl rfl, fun _ _ => h⟩⟩

theorem setWaitForNextCmd_asks {f : Unit → Handler Unit} (hk : k.Asks id) :
    (setWaitForNextCmd id >>= f).Waits .showConnections E k ↔
      (f ()).Waits .showConnections E (.armed id) := by
  apply (Script.follows_perform_bind (CommandCall.setWaitForNextCmd id)).trans
  exact ⟨fun h => h.2 () trivial, fun h => ⟨hk.imp_right fun hk => ⟨rfl, hk⟩, fun _ _ => h⟩⟩

theorem send_bind {endStation : EndStation} {cmd : NotifiedCmd} {f : Unit → Handler Unit}
    (hcmd : cmd.Proper) :
    (send endStation cmd id >>= f).Waits command E (.armed id) ↔
      (f ()).Waits command E (.sent id) := by
  apply (Script.follows_perform_bind (CommandCall.send endStation cmd id)).trans
  exact ⟨fun h => h.2 () trivial, fun h => ⟨⟨rfl, hcmd⟩, fun _ _ => h⟩⟩

theorem sendAcmp_bind {tx : TxData} {f : Unit → Handler Unit} (htx : tx.Proper) :
    (sendAcmp tx >>= f).Waits command E (.armed tx.notificationId) ↔
      (f ()).Waits command E (.sent tx.notificationId) := by
  apply (Script.follows_perform_bind (CommandCall.sendAcmp tx)).trans
  exact ⟨fun h => h.2 () trivial, fun h => ⟨⟨.inl rfl, htx⟩, fun _ _ => h⟩⟩

theorem sendAcmp_asks {tx : TxData} {f : Unit → Handler Unit} (htx : tx.Proper)
    (hk : k.Asks tx.notificationId) :
    (sendAcmp tx >>= f).Waits command E k ↔
      (f ()).Waits command E (.passing tx.notificationId) := by
  apply (Script.follows_perform_bind (CommandCall.sendAcmp tx)).trans
  rcases hk with rfl | rfl
  · exact ⟨fun h => h.2 () trivial, fun h => ⟨⟨.inr (.inl rfl), htx⟩, fun _ _ => h⟩⟩
  · exact ⟨fun h => h.2 () trivial, fun h => ⟨⟨.inr (.inr rfl), htx⟩, fun _ _ => h⟩⟩

theorem getLastRespStatus_bind {f : Int → Handler Unit} :
    (getLastRespStatus >>= f).Waits command E (.sent id) ↔
      ∀ status, (f status).Waits command E (.free id) :=
  (Script.follows_perform_bind CommandCall.getLastRespStatus).trans
    ((and_iff_right trivial).trans (forall_congr' fun _ => true_imp_iff))

theorem getLastRespStatus_bind_armed {f : Int → Handler Unit} :
    (getLastRespStatus >>= f).Waits command E (.armed id) ↔
      ∀ status, (f status).Waits command E (.armed id) :=
  (Script.follows_perform_bind CommandCall.getLastRespStatus).trans
    ((and_iff_right trivial).trans (forall_congr' fun _ => true_imp_iff))

theorem lift_bind {x : Except Fault α} {f : α → Handler Unit} :
    (Script.lift x >>= f : Handler Unit).Waits command E k ↔
      ∀ a, x = .ok a → (f a).Waits command E k := by
  rw [Waits, Script.follows_bind, Script.follows_lift]
  exact and_iff_left fun _ _ => trivial

/-- The wait is set, and what is sent is looked up behind it. -/
theorem setWait_target {target : View → Except Fault α} {f : α → Handler Unit} :
    (setWaitForNextCmd id >>= fun _ => look >>= fun v =>
      Script.lift (target v) >>= f).Waits command E (.free id) ↔
      ∀ v a, target v = .ok a → (f a).Waits command E (.armed id) :=
  setWaitForNextCmd_bind.trans (look_armed.trans (forall_congr' fun _ => lift_bind))

theorem seq_waits {f : Unit → Handler Unit} {E' : WaitPhase → Prop}
    (h : handler.Waits command E' k) (hf : ∀ k, E' k → (f ()).Waits command E k) :
    (handler >>= f).Waits command E k :=
  Script.follows_bind.2 (h.mono fun k _ hk => hf k hk)

end Handler

theorem sendRxCmd_proper {es : EndStation} {instream : AemDesc} {t : AcmpMessageType}
    {talkerEntityId : EntityId} {talkerUniqueId flags : BitVec 16}
    (ht : t = .connectRxCommand ∨ t = .disconnectRxCommand ∨ t = .getRxStateCommand)
    (h : c.sendRxCmd es instream t id talkerEntityId talkerUniqueId flags = .ok d) :
    d.notificationId = id ∧ d.Proper := by
  obtain ⟨listener, -, h⟩ := bind_eq_ok.1 h
  cases h
  refine ⟨rfl, rfl, ?_⟩
  rcases ht with rfl | rfl | rfl
  · rfl
  · rfl
  · rfl

theorem requestRx_proper {args : RxArgs} {instream : AemDesc} {t : AcmpMessageType}
    {flags : BitVec 16}
    (ht : t = .connectRxCommand ∨ t = .disconnectRxCommand ∨ t = .getRxStateCommand)
    (h : c.requestRx args instream t flags id = .ok d) : d.notificationId = id ∧ d.Proper := by
  obtain ⟨talker, -, h⟩ := bind_eq_ok.1 h
  obtain ⟨endStation, -, h⟩ := bind_eq_ok.1 h
  exact sendRxCmd_proper ht h

theorem sendGetTxStateCmd_proper {es : EndStation} {outstream : AemDesc}
    (h : c.sendGetTxStateCmd es outstream id = .ok d) : d.notificationId = id ∧ d.Proper := by
  obtain ⟨talker, -, h⟩ := bind_eq_ok.1 h
  cases h
  exact ⟨rfl, rfl, rfl⟩

theorem sendGetTxConnectionCmd_proper {listenerEntityId : EntityId}
    {listenerUniqueId : BitVec 16} {es : EndStation} {outstream : AemDesc}
    (h : c.sendGetTxConnectionCmd listenerEntityId listenerUniqueId es outstream id = .ok d) :
    d.notificationId = id ∧ d.Proper := by
  obtain ⟨talker, -, h⟩ := bind_eq_ok.1 h
  cases h
  exact ⟨rfl, rfl, rfl⟩

theorem queryInstream_proper {i j : Nat} (h : c.queryInstream id i j = .ok d) :
    d.notificationId = id ∧ d.Proper := by
  obtain ⟨⟨es, configuration⟩, -, h⟩ := bind_eq_ok.1 h
  obtain ⟨instream, -, h⟩ := bind_eq_ok.1 h
  exact sendRxCmd_proper (.inr (.inr rfl)) h

theorem queryOutstream_proper {i j : Nat} (h : c.queryOutstream id i j = .ok d) :
    d.notificationId = id ∧ d.Proper := by
  obtain ⟨⟨es, configuration⟩, -, h⟩ := bind_eq_ok.1 h
  obtain ⟨outstream, -, h⟩ := bind_eq_ok.1 h
  exact sendGetTxStateCmd_proper h

theorem headCall_proper {current : BitVec 64} {is : IStream} {buffer : List BigEndian.Byte}
    (h : is.gcount ≤ 256) : (NotifiedCmd.send (headCall current is buffer).cmd).Proper := by
  have hlen : (headCall current is buffer).length.toNat ≤ 256 := by
    rw [headCall, BitVec.toNat_ofNat]
    exact (Nat.mod_le _ _).trans h
  exact ⟨show 48 + _ < 65536 by omega, rfl⟩

theorem acquireStreamInput_follows (hleft : ∀ id, E (.armed id))
    (descIndex : BitVec 16) (hk : k.Ready) :
    (acquireStreamInput descIndex).Waits command E k := by
  refine getNextNotificationId_bind.2 ⟨hk, fun id => ?_⟩
  apply setWait_target.2
  rintro v ⟨es, entity, configuration⟩ -
  apply lift_bind.2
  intro obj hobj
  apply getLastRespStatus_bind_armed.2
  intro status
  exact hleft id

theorem onClockDomain_follows (hleft : ∀ id, E (.armed id)) {descIndex : BitVec 16}
    {cmd : AemDesc → SendCmd} {print : Int → Handler Unit}
    (hcmd : ∀ obj, (NotifiedCmd.send (cmd obj)).Proper)
    (hprint : ∀ status, (print status).Waits command E (.free id)) :
    (onClockDomain id descIndex cmd print).Waits command E (.free id) := by
  apply setWait_target.2
  rintro v ⟨es, entity, configuration⟩ -
  dsimp only
  cases configuration.getDescByIndex .clockDomain descIndex with
  | none => exact hleft id
  | some obj =>
    apply (send_bind (hcmd obj)).2
    exact getLastRespStatus_bind.2 hprint

namespace WaitPhase

theorem Asks.ready (hk : k.Asks id) : k.Ready := by
  rcases hk with rfl | rfl
  · trivial
  · trivial

end WaitPhase

namespace Handler

theorem forEndStations_follows {body : Nat → ConfigurationDescriptor → Handler Unit}
    (hE : ∀ k, E k → k.Ready) (hbody : ∀ k i cd, E k → (body i cd).Waits command E k)
    (left i : Nat) (hk : E k) : (forEndStations body left i).Waits command E k := by
  induction left generalizing i k with
  | zero => exact hk
  | succ left ih =>
    apply (look_ready (hE k hk)).2
    intro v
    cases v.stations[i]? with
    | none => exact hk
    | some es =>
      dsimp only
      cases v.cmdLine.getCurrentEntityAndDescriptor i es with
      | none => exact ih (i + 1) hk
      | some cd => exact seq_waits (hbody k i cd hk) fun k hk => ih (i + 1) hk

theorem forStreams_follows {body : Nat → Nat → Handler Unit}
    (hbody : ∀ k left j, E k → (body left j).Waits command E k) (left j : Nat) (hk : E k) :
    (forStreams body left j).Waits command E k := by
  induction left generalizing j k with
  | zero => exact hk
  | succ left ih => exact seq_waits (hbody k left j hk) fun k hk => ih (j + 1) hk

end Handler

section
variable (hk : k.Asks id)
include hk

theorem sendQuery_follows {query : CmdLine → Except Fault TxData}
    (hquery : ∀ c d, query c = .ok d → d.notificationId = id ∧ d.Proper) :
    (sendQuery query).Waits command (·.Asks id) k := by
  apply (look_ready hk.ready).2
  intro v
  apply lift_bind.2
  intro d hd
  obtain ⟨rfl, hproper⟩ := hquery _ _ hd
  apply (sendAcmp_asks hproper hk).2
  apply look_bind.2
  intro v
  exact .inr rfl

theorem queryOutstream_follows (i left j : Nat) :
    (queryOutstream id i left j).Waits .showConnections (·.Asks id) k := by
  apply (look_ready hk.ready).2
  intro v
  split
  · apply (setWaitForNextCmd_asks hk).2
    apply look_armed.2
    intro v
    apply lift_bind.2
    intro d hd
    obtain ⟨rfl, hproper⟩ := queryOutstream_proper hd
    apply (sendAcmp_bind hproper).2
    apply getLastRespStatus_bind.2
    exact fun _ => .inl rfl
  · exact sendQuery_follows hk fun _ _ => queryOutstream_proper

theorem queryStreams_follows (i : Nat) (cd : ConfigurationDescriptor) :
    (queryStreams id i cd).Waits .showConnections (·.Asks id) k := by
  apply seq_waits
  · exact forStreams_follows (fun k _ _ hk => sendQuery_follows hk fun _ _ =>
      queryInstream_proper)
      _ _ hk
  · intro k hk
    apply (look_ready hk.ready).2
    intro v
    apply lift_bind.2
    rintro ⟨es, cd⟩ -
    exact forStreams_follows (fun k left j hk => queryOutstream_follows hk i left j) _ _ hk

end

theorem showReport_follows (hk : k.Ready) : showReport.Waits command WaitPhase.Ready k := by
  have hstream :
    ∀ {k : WaitPhase} {t : DescType} {i j : Nat} {report : StreamStates → Handler Unit},
      k.Ready → (∀ states, (report states).Waits command WaitPhase.Ready k) →
      (onStreamAt t i j report).Waits command WaitPhase.Ready k := by
    intro k t i j report hk h
    apply (look_ready hk).2
    intro v
    apply lift_bind.2
    rintro ⟨es, cd⟩ -
    apply lift_bind.2
    exact fun _ _ => h _
  apply forEndStations_follows (fun _ hk => hk) _ _ _ hk
  intro k i cd hk
  apply forStreams_follows _ _ _ hk
  intro k left j hk
  apply hstream hk
  intro states
  split
  · exact hk
  · apply forEndStations_follows (fun _ hk => hk) _ _ _ hk
    intro k i cd hk
    apply forStreams_follows _ _ _ hk
    exact fun k left j hk => hstream hk fun _ => hk

variable (hended : ∀ k : WaitPhase, k.Ready → E k)
include hended

theorem cmdShowConnections_follows (hk : k.Ready) :
    cmdShowConnections.Waits .showConnections E k := by
  refine getNextNotificationId_bind.2 ⟨hk, fun id => ?_⟩
  have hfree : (WaitPhase.free id).Asks id := .inl rfl
  apply seq_waits (forEndStations_follows (fun _ hk => hk.ready)
    (fun k i cd hk => queryStreams_follows hk i cd) _ _ hfree)
  intro k hk
  exact (showReport_follows hk.ready).mono fun k _ hk => hended k hk

namespace Handler

theorem ended_follows (hk : k.Ready) :
    (pure () : Handler Unit).Waits command E k := hended k hk

theorem sendAndWait_follows {target : View → Except Fault (EndStation × NotifiedCmd)}
    (ht : ∀ v endStation cmd, target v = .ok (endStation, cmd) → cmd.Proper) (hk : k.Ready) :
    (sendAndWait target).Waits command E k := by
  refine getNextNotificationId_bind.2 ⟨hk, fun id => ?_⟩
  apply setWait_target.2
  rintro v ⟨endStation, cmd⟩ hv
  apply (send_bind (ht v endStation cmd hv)).2
  apply getLastRespStatus_bind.2
  intro status
  exact ended_follows hended trivial

theorem sendAcmpAndWait_follows {tx : CmdLine → Ptr → Except Fault TxData}
    (htx : ∀ c id d, tx c id = .ok d → d.notificationId = id ∧ d.Proper) (hk : k.Ready) :
    (sendAcmpAndWait tx).Waits command E k := by
  refine getNextNotificationId_bind.2 ⟨hk, fun id => ?_⟩
  apply setWait_target.2
  intro v d hd
  obtain ⟨rfl, hproper⟩ := htx _ _ _ hd
  apply (sendAcmp_bind hproper).2
  apply getLastRespStatus_bind.2
  intro status
  exact ended_follows hended trivial

theorem onDescriptor_follows {t : DescType} {descIndex : BitVec 16} {cmd : AemDesc → SendCmd}
    (hcmd : ∀ obj, (NotifiedCmd.send (cmd obj)).Proper) (hk : k.Ready) :
    (onDescriptor t descIndex cmd).Waits command E k := by
  apply sendAndWait_follows hended _ hk
  intro v endStation c h
  obtain ⟨⟨es, entity, configuration⟩, -, h⟩ := bind_eq_ok.1 h
  obtain ⟨obj, -, h⟩ := bind_eq_ok.1 h
  cases h
  exact hcmd obj

theorem onEntity_follows {cmd : EntityDescriptor → SendCmd}
    (hcmd : ∀ e, (NotifiedCmd.send (cmd e)).Proper) (hk : k.Ready) :
    (onEntity cmd).Waits command E k := by
  apply sendAndWait_follows hended _ hk
  intro v endStation c h
  obtain ⟨⟨es, entity, configuration⟩, -, h⟩ := bind_eq_ok.1 h
  cases h
  exact hcmd entity

theorem withCurrent_follows (h : handler.Waits command E k) (hk : k.Ready) :
    (withCurrent handler).Waits command E k := by
  apply (look_ready hk).2
  intro v
  cases v.getCurrentEndStationEntityAndDescriptor with
  | none => exact ended_follows hended hk
  | some x => exact h

theorem onStream_follows {descName : String} {input output : Handler Unit}
    (hin : input.Waits command E k) (hout : output.Waits command E k)
    (hk : k.Ready) : (onStream descName input output).Waits command E k := by
  apply withCurrent_follows hended _ hk
  split
  · exact hin
  · split
    · exact hout
    · exact ended_follows hended hk

end Handler

theorem cmdConnectRx_follows (args : RxArgs) (flags : List String) (hk : k.Ready) :
    (cmdConnectRx args flags).Waits command E k := by
  apply (look_ready hk).2
  intro v
  dsimp only
  split
  · split
    · exact ended_follows hended hk
    · apply sendAcmpAndWait_follows hended _ hk
      intro c id d h
      obtain ⟨instream, -, h⟩ := bind_eq_ok.1 h
      obtain ⟨outDescriptor, -, h⟩ := bind_eq_ok.1 h
      obtain ⟨outstream, -, h⟩ := bind_eq_ok.1 h
      exact requestRx_proper (.inl rfl) h
  · exact ended_follows hended hk

theorem cmdDisconnectRx_follows (args : RxArgs) (hk : k.Ready) :
    (cmdDisconnectRx args).Waits command E k := by
  apply (look_ready hk).2
  intro v
  dsimp only
  split
  · apply sendAcmpAndWait_follows hended _ hk
    intro c id d h
    obtain ⟨instream, -, h⟩ := bind_eq_ok.1 h
    exact requestRx_proper (.inr (.inl rfl)) h
  · exact ended_follows hended hk

theorem queryStream_follows {t : DescType} {endStationIndex : BitVec 32} {descIndex : BitVec 16}
    {query : CmdLine → EndStation → AemDesc → Ptr → Except Fault TxData}
    (hquery : ∀ c es stream id d, query c es stream id = .ok d →
      d.notificationId = id ∧ d.Proper)
    (hk : k.Ready) :
    (queryStream t endStationIndex descIndex query).Waits command E k := by
  apply (look_ready hk).2
  intro v
  cases v.cmdLine.getCurrentConfigDesc endStationIndex with
  | none => exact ended_follows hended hk
  | some configuration =>
    dsimp only
    split
    · apply sendAcmpAndWait_follows hended _ hk
      intro c id d h
      obtain ⟨endStation, -, h⟩ := bind_eq_ok.1 h
      obtain ⟨configuration, -, h⟩ := bind_eq_ok.1 h
      obtain ⟨stream, -, h⟩ := bind_eq_ok.1 h
      exact hquery _ _ _ _ _ h
    · exact ended_follows hended hk

theorem doSelect_follows (newEndStation : BitVec 32) (newEntity newConfig : BitVec 16)
    (hk : k.Ready) : (doSelect newEndStation newEntity newConfig).Waits command E k := by
  apply (look_ready hk).2
  intro v
  split
  · apply lift_bind.2
    intro e he
    split
    · exact ended_follows hended hk
    · apply (Script.follows_perform_bind (CommandCall.select _ _)).2
      refine ⟨?_, fun _ _ => ?_⟩
      · cases k <;> trivial
      · cases k <;> exact ended_follows hended hk
  · exact ended_follows hended hk

theorem cmdShowSelect_follows (hk : k.Ready) : cmdShowSelect.Waits command E k := by
  apply (look_ready hk).2
  intro v
  cases v.getCurrentEndStation with
  | none => exact ended_follows hended hk
  | some es =>
    apply lift_bind.2
    intro e he
    exact ended_follows hended hk

theorem cmdReadDescriptor_follows (descName : String) (descIndex : BitVec 16) (hk : k.Ready) :
    (cmdReadDescriptor descName descIndex).Waits command E k := by
  apply (look_ready hk).2
  intro v
  cases v.getCurrentEndStation with
  | none => exact ended_follows hended hk
  | some es =>
    dsimp only
    split
    · apply sendAndWait_follows hended _ hk
      intro v endStation cmd h
      obtain ⟨es, -, h⟩ := bind_eq_ok.1 h
      cases h
      exact ⟨trivial, rfl⟩
    · exact ended_follows hended hk

theorem cmdEntityAvail_follows (hk : k.Ready) : cmdEntityAvail.Waits command E k := by
  apply (look_ready hk).2
  intro v
  cases v.getCurrentEndStation with
  | none => exact ended_follows hended hk
  | some es =>
    apply sendAndWait_follows hended _ hk
    intro v endStation cmd h
    obtain ⟨es, -, h⟩ := bind_eq_ok.1 h
    cases h
    exact ⟨trivial, rfl⟩

theorem cmdReboot_follows (hk : k.Ready) : cmdReboot.Waits command E k :=
  withCurrent_follows hended (onEntity_follows hended (fun _ => ⟨trivial, rfl⟩) hk) hk

theorem cmdControllerAvail_follows (hk : k.Ready) :
    cmdControllerAvail.Waits command E k := by
  apply sendAndWait_follows hended _ hk
  intro v endStation cmd h
  obtain ⟨es, -, h⟩ := bind_eq_ok.1 h
  cases h
  exact ⟨trivial, rfl⟩

theorem cmdAcquireEntity_follows {flagName descName : String} {descIndex : BitVec 16}
    (hleft : aemDescNameToValue descName = DescType.streamInput.code →
      ∀ id, E (.armed id)) (hk : k.Ready) :
    (cmdAcquireEntity flagName descName descIndex).Waits command E k := by
  rw [cmdAcquireEntity]
  split
  · exact ended_follows hended hk
  · apply withCurrent_follows hended _ hk
    split
    · exact onEntity_follows hended (fun _ => ⟨trivial, rfl⟩) hk
    · split
      · next htype => exact acquireStreamInput_follows (hleft htype) descIndex hk
      · split
        · exact onDescriptor_follows hended (fun _ => ⟨trivial, rfl⟩) hk
        · exact ended_follows hended hk

theorem cmdLockEntity_follows (flagName descName : String) (hk : k.Ready) :
    (cmdLockEntity flagName descName).Waits command E k := by
  rw [cmdLockEntity]
  split
  · exact ended_follows hended hk
  · apply withCurrent_follows hended _ hk
    split
    · exact onEntity_follows hended (fun _ => ⟨trivial, rfl⟩) hk
    · exact ended_follows hended hk

theorem cmdSetStreamFormat_follows (descName : String) (descIndex : BitVec 16) (format : String)
    (hk : k.Ready) : (cmdSetStreamFormat descName descIndex format).Waits command E k := by
  rw [cmdSetStreamFormat]
  split
  · trivial
  · exact onStream_follows hended (onDescriptor_follows hended (fun _ => ⟨trivial, rfl⟩) hk)
      (onDescriptor_follows hended (fun _ => ⟨trivial, rfl⟩) hk) hk

theorem cmdSetStreamInfo_follows (descName : String) (descIndex : BitVec 16)
    (field value : String) (hk : k.Ready) :
    (cmdSetStreamInfo descName descIndex field value).Waits command E k := by
  apply onStream_follows hended (ended_follows hended hk) _ hk
  split
  · exact onDescriptor_follows hended (fun _ => ⟨trivial, rfl⟩) hk
  · exact ended_follows hended hk

theorem onAudioUnit_follows {descName : String} {descIndex : BitVec 16}
    {cmd : AemDesc → SendCmd}
    (hcmd : ∀ obj, (NotifiedCmd.send (cmd obj)).Proper) (hk : k.Ready) :
    (onAudioUnit descName descIndex cmd).Waits command E k := by
  apply withCurrent_follows hended _ hk
  split
  · exact onDescriptor_follows hended hcmd hk
  · exact ended_follows hended hk

theorem cmdSetClockSource_follows (hleft : ∀ id, E (.armed id))
    (descIndex newClkSrcIndex : BitVec 16) (hk : k.Ready) :
    (cmdSetClockSource descIndex newClkSrcIndex).Waits command E k := by
  apply withCurrent_follows hended _ hk
  refine getNextNotificationId_bind.2 ⟨hk, fun id => ?_⟩
  exact onClockDomain_follows hleft (fun _ => ⟨trivial, rfl⟩) fun _ =>
    ended_follows hended trivial

theorem printClockSource_follows (descIndex : BitVec 16) (status : Int) (hk : k.Ready) :
    (printClockSource descIndex status).Waits command E k := by
  apply (look_ready hk).2
  intro v
  dsimp only
  split
  · trivial
  · exact ended_follows hended hk

theorem cmdGetClockSource_follows (hleft : ∀ id, E (.armed id))
    (descIndex : BitVec 16) (hk : k.Ready) :
    (cmdGetClockSource descIndex).Waits command E k := by
  refine getNextNotificationId_bind.2 ⟨hk, fun id => ?_⟩
  apply withCurrent_follows hended (onClockDomain_follows hleft _ _)
  · trivial
  · exact fun _ => ⟨trivial, rfl⟩
  · exact fun status => printClockSource_follows hended descIndex status trivial

theorem writeImage_follows {reboot : Bool} {current : BitVec 64} {is : IStream}
    {buffer : List BigEndian.Byte} (h : is.gcount ≤ 256) :
    (writeImage id reboot current is buffer).Waits command E (.free id) := by
  fun_induction writeImage id reboot current is buffer with
  | case1 current is buffer hzero hreboot => exact cmdReboot_follows hended trivial
  | case2 current is buffer hzero hreboot => exact ended_follows hended trivial
  | case3 current is buffer hzero ih =>
    apply setWait_target.2
    intro v es hes
    apply (send_bind (headCall_proper h)).2
    apply getLastRespStatus_bind.2
    intro status
    split
    · exact ended_follows hended trivial
    · exact ih (is.gcount_read_le buffer)

theorem cmdFirmwareUpgrade_follows (image : Option (List BigEndian.Byte))
    (buffer : Vector BigEndian.Byte 256) (reboot : Bool) (hk : k.Ready) :
    (cmdFirmwareUpgrade image buffer reboot).Waits command E k := by
  cases image with
  | none => exact ended_follows hended hk
  | some image =>
    apply withCurrent_follows hended _ hk
    refine getNextNotificationId_bind.2 ⟨hk, fun id => ?_⟩
    apply setWait_target.2
    rintro v ⟨es, entity, configuration⟩ -
    apply lift_bind.2
    intro memoryObject hobj
    have hcmd : (NotifiedCmd.send (.startOperation memoryObject 3)).Proper := ⟨trivial, rfl⟩
    apply (send_bind hcmd).2
    apply getLastRespStatus_bind.2
    intro status
    split
    · exact ended_follows hended trivial
    · exact writeImage_follows hended (IStream.gcount_read_le _ _)

theorem doIdentify_follows (endStationIndex : BitVec 32) (turnOn : Bool) (hk : k.Ready) :
    (doIdentify endStationIndex turnOn).Waits command E k := by
  apply (look_ready hk).2
  intro v
  apply lift_bind.2
  intro es hes
  apply sendAndWait_follows hended _ hk
  intro v endStation cmd h
  obtain ⟨es, -, h⟩ := bind_eq_ok.1 h
  cases h
  exact ⟨trivial, rfl⟩

end

/-- Whatever the library answers, a command keeps to the protocol. -/
theorem Command.follows (command : Command) :
    command.script.Waits command command.Ends .idle := by
  have hended : ∀ k, k.Ready → command.Ends k := fun _ hk => .inl hk
  have hk : WaitPhase.idle.Ready := trivial
  cases command with
  | select endStation entity config => exact doSelect_follows hended _ _ _ hk
  | showSelect => exact cmdShowSelect_follows hended hk
  | readDescriptor name index => exact cmdReadDescriptor_follows hended name index hk
  | connectRx args flags => exact cmdConnectRx_follows hended args flags hk
  | disconnectRx args => exact cmdDisconnectRx_follows hended args hk
  | getTxState endStation index =>
    exact queryStream_follows hended (fun _ _ _ _ _ h => sendGetTxStateCmd_proper h) hk
  | getRxState endStation index =>
    exact queryStream_follows hended (fun _ _ _ _ _ h =>
      sendRxCmd_proper (.inr (.inr rfl)) h) hk
  | getTxConnection endStation index =>
    exact queryStream_follows hended (fun _ _ _ _ _ h => sendGetTxConnectionCmd_proper h) hk
  | showConnections => exact cmdShowConnections_follows hended hk
  | acquireEntity flag name index =>
    exact cmdAcquireEntity_follows hended (fun htype id => .inr ⟨htype, id, rfl⟩) hk
  | lockEntity flag name => exact cmdLockEntity_follows hended flag name hk
  | entityAvail => exact cmdEntityAvail_follows hended hk
  | reboot => exact cmdReboot_follows hended hk
  | controllerAvail => exact cmdControllerAvail_follows hended hk
  | setStreamFormat name index format =>
    exact cmdSetStreamFormat_follows hended name index format hk
  | setStreamInfo name index field value =>
    exact cmdSetStreamInfo_follows hended name index field value hk
  | getStreamFormat name index | getStreamInfo name index
  | startStreaming name index | stopStreaming name index =>
    exact Handler.onStream_follows hended
      (Handler.onDescriptor_follows hended (fun _ => ⟨trivial, rfl⟩) hk)
      (Handler.onDescriptor_follows hended (fun _ => ⟨trivial, rfl⟩) hk) hk
  | setSamplingRate name index rate =>
    exact onAudioUnit_follows hended (fun _ => ⟨trivial, rfl⟩) hk
  | getSamplingRate name index => exact onAudioUnit_follows hended (fun _ => ⟨trivial, rfl⟩) hk
  | setClockSource index source =>
    exact cmdSetClockSource_follows hended (fun id => .inr ⟨trivial, id, rfl⟩) index source hk
  | getClockSource index =>
    exact cmdGetClockSource_follows hended (fun id => .inr ⟨trivial, id, rfl⟩) index hk
  | firmwareUpgrade image buffer answer =>
    exact cmdFirmwareUpgrade_follows hended image buffer answer hk
  | identify endStation turnOn => exact doIdentify_follows hended endStation turnOn hk

end AvdeccLib
