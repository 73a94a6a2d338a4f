import AvdeccLib.SessionWaits
import AvdeccLib.TypedLines

namespace AvdeccLib
set_option autoImplicit true

open EndStation (deref)
open Outcome Runs Scripts

/-- What a frame of the command line is: an AEM command of a type, an address access, or an ACMP
message of a type. -/
inductive Message where
  | aem (commandType : AemCommandType)
  | addressAccess
  | acmp (messageType : AcmpMessageType)
  deriving DecidableEq

/-- By the command type that the sender puts into its frame. -/
def NotifiedCmd.message (cmd : NotifiedCmd) : Message :=
  match cmd.subject with
  | some subject => .aem subject.commandType
  | none => .addressAccess

def TxFrame.message : TxFrame → Option Message
  | .aecp frame => some (.aem frame.commandType)
  | .acmp frame => some (.acmp frame.messageType)
  | .other => none

/-- What a call sends. -/
def CommandCall.message : CommandCall → Option Message
  | .send _ cmd _ => some cmd.message
  | .sendAcmp tx => tx.frame.message
  | _ => none

/-- The messages that a command has senders for. A STREAM_OUTPUT that is to be acquired, or to
get a format, is asked for its format. -/
def Command.messages : Command → List Message
  | select _ _ _ | showSelect => []
  | readDescriptor _ _ => [.aem .readDescriptor]
  | connectRx _ _ => [.acmp .connectRxCommand]
  | disconnectRx _ => [.acmp .disconnectRxCommand]
  | getTxState _ _ => [.acmp .getTxStateCommand]
  | getRxState _ _ => [.acmp .getRxStateCommand]
  | getTxConnection _ _ => [.acmp .getTxConnectionCommand]
  | showConnections => [.acmp .getRxStateCommand, .acmp .getTxStateCommand]
  | acquireEntity _ _ _ => [.aem .acquireEntity, .aem .getStreamFormat]
  | lockEntity _ _ => [.aem .lockEntity]
  | entityAvail => [.aem .entityAvailable]
  | reboot => [.aem .reboot]
  | controllerAvail => [.aem .controllerAvailable]
  | setStreamFormat _ _ _ => [.aem .setStreamFormat, .aem .getStreamFormat]
  | getStreamFormat _ _ => [.aem .getStreamFormat]
  | setStreamInfo _ _ _ _ => [.aem .setStreamInfo]
  | getStreamInfo _ _ => [.aem .getStreamInfo]
  | setSamplingRate _ _ _ => [.aem .setSamplingRate]
  | getSamplingRate _ _ => [.aem .getSamplingRate]
  | setClockSource _ _ => [.aem .setClockSource]
  | getClockSource _ => [.aem .getClockSource]
  | startStreaming _ _ => [.aem .startStreaming]
  | stopStreaming _ _ => [.aem .stopStreaming]
  | firmwareUpgrade _ _ _ => [.aem .startOperation, .addressAccess, .aem .reboot]
  | identify _ _ => [.aem .setControl]

/-- Only messages of the list are sent. -/
def messageProtocol : Protocol CommandCall CommandCall.Reply Fault (List Message) where
  allows ms call := ∀ m, call.message = some m → m ∈ ms
  next ms _ _ := ms

def Handler.Sends (ms : List Message) (h : Handler Unit) : Prop :=
  h.Follows messageProtocol (fun ms' _ => ms' = ms) ms

section
open Handler
variable {ms : List Message} {handler : Handler Unit}

namespace Handler

theorem ended_sends : (pure () : Handler Unit).Sends ms := rfl

theorem call_sends {call : CommandCall} {f : call.Reply → Handler Unit}
    (hcall : ∀ m, call.message = some m → m ∈ ms) (h : ∀ r, (f r).Sends ms) :
    Sends ms (Script.perform call >>= f) :=
  (Script.follows_perform_bind call).2 ⟨hcall, fun r _ => h r⟩

theorem look_sends {f : View → Handler Unit} (h : ∀ v, (f v).Sends ms) :
    (look >>= f).Sends ms := call_sends nofun h

theorem getNextNotificationId_sends {f : Ptr → Handler Unit} (h : ∀ id, (f id).Sends ms) :
    (getNextNotificationId >>= f).Sends ms := call_sends nofun h

theorem setWaitForNextCmd_sends {id : Ptr} {f : Unit → Handler Unit}
    (h : (f ()).Sends ms) : (setWaitForNextCmd id >>= f).Sends ms := call_sends nofun fun _ => h

theorem getLastRespStatus_sends {f : Int → Handler Unit} (h : ∀ status, (f status).Sends ms) :
    (getLastRespStatus >>= f).Sends ms := call_sends nofun h

theorem send_sends {endStation : EndStation} {cmd : NotifiedCmd} {id : Ptr}
    {f : Unit → Handler Unit} (hcmd : cmd.message ∈ ms) (h : (f ()).Sends ms) :
    (send endStation cmd id >>= f).Sends ms := by
  apply call_sends _ fun _ => h
  intro m hm
  cases hm
  exact hcmd

theorem sendAcmp_sends {tx : TxData} {f : Unit → Handler Unit}
    (htx : ∀ m, tx.frame.message = some m → m ∈ ms) (h : (f ()).Sends ms) :
    (sendAcmp tx >>= f).Sends ms := call_sends htx fun _ => h

theorem lift_sends {x : Except Fault α} {f : α → Handler Unit}
    (h : ∀ a, x = .ok a → (f a).Sends ms) : Sends ms (Script.lift x >>= f) := by
  rw [Sends, Script.follows_bind, Script.follows_lift]
  exact ⟨h, fun _ _ => trivial⟩

theorem seq_sends {f : Unit → Handler Unit} (h : handler.Sends ms) (hf : (f ()).Sends ms) :
    Sends ms (handler >>= f) := by
  apply Script.follows_bind.2
  apply h.mono
  rintro ms' ⟨⟩ rfl
  exact hf

theorem forEndStations_sends {body : Nat → ConfigurationDescriptor → Handler Unit}
    (hbody : ∀ i configuration, (body i configuration).Sends ms) (left i : Nat) :
    (forEndStations body left i).Sends ms := by
  induction left generalizing i with
  | zero => exact ended_sends
  | succ left ih =>
    apply look_sends
    intro v
    cases v.stations[i]? with
    | none => exact ended_sends
    | some es =>
      dsimp only
      cases v.cmdLine.getCurrentEntityAndDescriptor i es with
      | none => exact ih (i + 1)
      | some configuration => exact seq_sends (hbody i configuration) (ih (i + 1))

theorem forStreams_sends {body : Nat → Nat → Handler Unit}
    (hbody : ∀ left j, (body left j).Sends ms) (left j : Nat) :
    (forStreams body left j).Sends ms := by
  induction left generalizing j with
  | zero => exact ended_sends
  | succ left ih => exact seq_sends (hbody left j) (ih (j + 1))

theorem sendAndWait_sends {target : View → Except Fault (EndStation × NotifiedCmd)}
    (ht : ∀ v endStation cmd, target v = .ok (endStation, cmd) → cmd.message ∈ ms) :
    (sendAndWait target).Sends ms := by
  apply getNextNotificationId_sends
  intro id
  apply setWaitForNextCmd_sends
  apply look_sends
  intro v
  apply lift_sends
  rintro ⟨endStation, cmd⟩ hv
  apply send_sends (ht v endStation cmd hv)
  apply getLastRespStatus_sends
  exact fun _ => ended_sends

theorem sendAcmpAndWait_sends {tx : CmdLine → Ptr → Except Fault TxData}
    (htx : ∀ c id d, tx c id = .ok d → ∀ m, d.frame.message = some m → m ∈ ms) :
    (sendAcmpAndWait tx).Sends ms := by
  apply getNextNotificationId_sends
  intro id
  apply setWaitForNextCmd_sends
  apply look_sends
  intro v
  apply lift_sends
  intro d hd
  apply sendAcmp_sends (htx _ _ d hd)
  apply getLastRespStatus_sends
  exact fun _ => ended_sends

theorem onDescriptor_sends {t : DescType} {descIndex : BitVec 16} {cmd : AemDesc → SendCmd}
    (hcmd : ∀ obj, (NotifiedCmd.send (cmd obj)).message ∈ ms) :
    (onDescriptor t descIndex cmd).Sends ms := by
  apply sendAndWait_sends
  intro v endStation c h
  obtain ⟨⟨es, entity, configuration⟩, -, h⟩ := bind_eq_ok.1 h
  obtain ⟨obj, -, h⟩ := bind_eq_ok.1 h
  cases h
  exact hcmd obj

theorem onEntity_sends {cmd : EntityDescriptor → SendCmd}
    (hcmd : ∀ e, (NotifiedCmd.send (cmd e)).message ∈ ms) : (onEntity cmd).Sends ms := by
  apply sendAndWait_sends
  intro v endStation c h
  obtain ⟨⟨es, entity, configuration⟩, -, h⟩ := bind_eq_ok.1 h
  cases h
  exact hcmd entity

theorem withCurrent_sends (h : handler.Sends ms) : (withCurrent handler).Sends ms := by
  apply look_sends
  intro v
  cases v.getCurrentEndStationEntityAndDescriptor with
  | none => exact ended_sends
  | some x => exact h

theorem ite_sends {p : Prop} [Decidable p] {other : Handler Unit} (h : handler.Sends ms)
    (hother : other.Sends ms) : (if p then handler else other).Sends ms := by
  split
  · exact h
  · exact hother

theorem onStream_sends {descName : String} {input output : Handler Unit}
    (hin : input.Sends ms) (hout : output.Sends ms) :
    (onStream descName input output).Sends ms :=
  withCurrent_sends (ite_sends hin (ite_sends hout ended_sends))

end Handler

theorem sendRxCmd_message {c : CmdLine} {es : EndStation} {instream : AemDesc}
    {t : AcmpMessageType} {id : Ptr} {talkerEntityId : EntityId}
    {talkerUniqueId flags : BitVec 16} {d : TxData}
    (h : c.sendRxCmd es instream t id talkerEntityId talkerUniqueId flags = .ok d) :
    d.frame.message = some (.acmp t) := by
  obtain ⟨listener, -, h⟩ := bind_eq_ok.1 h
  cases h
  rfl

theorem requestRx_message {c : CmdLine} {args : RxArgs} {instream : AemDesc}
    {t : AcmpMessageType} {flags : BitVec 16} {id : Ptr} {d : TxData}
    (h : c.requestRx args instream t flags id = .ok d) :
    d.frame.message = some (.acmp t) := by
  obtain ⟨talker, -, h⟩ := bind_eq_ok.1 h
  obtain ⟨endStation, -, h⟩ := bind_eq_ok.1 h
  exact sendRxCmd_message h

theorem doSelect_sends (newEndStation : BitVec 32) (newEntity newConfig : BitVec 16) :
    (doSelect newEndStation newEntity newConfig).Sends ms := by
  apply look_sends
  intro v
  apply ite_sends _ ended_sends
  apply lift_sends
  intro e he
  apply ite_sends ended_sends
  exact call_sends nofun fun _ => ended_sends

theorem cmdShowSelect_sends : cmdShowSelect.Sends ms := by
  apply look_sends
  intro v
  cases v.getCurrentEndStation with
  | none => exact ended_sends
  | some es => exact lift_sends fun _ _ => ended_sends

theorem cmdReadDescriptor_sends (descName : String) (descIndex : BitVec 16) :
    (cmdReadDescriptor descName descIndex).Sends [.aem .readDescriptor] := by
  apply look_sends
  intro v
  cases v.getCurrentEndStation with
  | none => exact ended_sends
  | some es =>
    refine ite_sends (sendAndWait_sends ?_) ended_sends
    intro v endStation cmd h
    obtain ⟨es, -, h⟩ := bind_eq_ok.1 h
    cases h
    exact List.mem_singleton_self _

theorem cmdConnectRx_sends (args : RxArgs) (flags : List String) :
    (cmdConnectRx args flags).Sends [.acmp .connectRxCommand] := by
  apply look_sends
  intro v
  apply ite_sends _ ended_sends
  cases connectionFlags flags with
  | none => exact ended_sends
  | some connectionFlags =>
    apply sendAcmpAndWait_sends
    intro c id d h m hm
    obtain ⟨instream, -, h⟩ := bind_eq_ok.1 h
    obtain ⟨outDescriptor, -, h⟩ := bind_eq_ok.1 h
    obtain ⟨outstream, -, h⟩ := bind_eq_ok.1 h
    rw [requestRx_message h] at hm
    cases hm
    exact List.mem_singleton_self _

theorem cmdDisconnectRx_sends (args : RxArgs) :
    (cmdDisconnectRx args).Sends [.acmp .disconnectRxCommand] := by
  apply look_sends
  intro v
  refine ite_sends (sendAcmpAndWait_sends ?_) ended_sends
  intro c id d h m hm
  obtain ⟨instream, -, h⟩ := bind_eq_ok.1 h
  rw [requestRx_message h] at hm
  cases hm
  exact List.mem_singleton_self _

theorem queryStream_sends {t : DescType} {endStationIndex : BitVec 32} {descIndex : BitVec 16}
    {query : CmdLine → EndStation → AemDesc → Ptr → Except Fault TxData} {m : AcmpMessageType}
    (hquery : ∀ c es stream id d, query c es stream id = .ok d →
      d.frame.message = some (.acmp m)) :
    (queryStream t endStationIndex descIndex query).Sends [.acmp m] := by
  apply look_sends
  intro v
  cases v.cmdLine.getCurrentConfigDesc endStationIndex with
  | none => exact ended_sends
  | some configuration =>
    refine ite_sends (sendAcmpAndWait_sends ?_) ended_sends
    intro c id d h m' hm
    obtain ⟨endStation, -, h⟩ := bind_eq_ok.1 h
    obtain ⟨configuration, -, h⟩ := bind_eq_ok.1 h
    obtain ⟨stream, -, h⟩ := bind_eq_ok.1 h
    rw [hquery _ _ _ _ _ h] at hm
    cases hm
    exact List.mem_singleton_self _

theorem queryInstream_message {c : CmdLine} {id : Ptr} {i j : Nat} {d : TxData}
    (h : c.queryInstream id i j = .ok d) :
    d.frame.message = some (.acmp .getRxStateCommand) := by
  obtain ⟨⟨es, configuration⟩, -, h⟩ := bind_eq_ok.1 h
  obtain ⟨instream, -, h⟩ := bind_eq_ok.1 h
  exact sendRxCmd_message h

theorem queryOutstream_message {c : CmdLine} {id : Ptr} {i j : Nat} {d : TxData}
    (h : c.queryOutstream id i j = .ok d) :
    d.frame.message = some (.acmp .getTxStateCommand) := by
  obtain ⟨⟨es, configuration⟩, -, h⟩ := bind_eq_ok.1 h
  obtain ⟨outstream, -, h⟩ := bind_eq_ok.1 h
  obtain ⟨talker, -, h⟩ := bind_eq_ok.1 h
  cases h
  rfl

theorem sendQuery_sends {query : CmdLine → Except Fault TxData}
    (hquery : ∀ c d, query c = .ok d → ∀ m, d.frame.message = some m → m ∈ ms) :
    (sendQuery query).Sends ms := by
  apply look_sends
  intro v
  apply lift_sends
  intro d hd
  apply sendAcmp_sends (hquery _ d hd)
  apply look_sends
  exact fun _ => ended_sends

theorem queryOutstream_sends (id : Ptr) (i left j : Nat) (hms : .acmp .getTxStateCommand ∈ ms) :
    (queryOutstream id i left j).Sends ms := by
  have hquery : ∀ c d, CmdLine.queryOutstream c id i j = .ok d →
      ∀ m, d.frame.message = some m → m ∈ ms := by
    intro c d hd m hm
    rw [queryOutstream_message hd] at hm
    cases hm
    exact hms
  apply look_sends
  intro v
  apply ite_sends _ (sendQuery_sends hquery)
  apply setWaitForNextCmd_sends
  apply look_sends
  intro v
  apply lift_sends
  intro d hd
  apply sendAcmp_sends (hquery _ d hd)
  apply getLastRespStatus_sends
  exact fun _ => ended_sends

theorem onStreamAt_sends {t : DescType} {i j : Nat} {report : StreamStates → Handler Unit}
    (hreport : ∀ states, (report states).Sends ms) : (onStreamAt t i j report).Sends ms := by
  apply look_sends
  intro v
  apply lift_sends
  rintro ⟨es, configuration⟩ -
  apply lift_sends
  exact fun _ _ => hreport v.streamStates

theorem showReport_sends : showReport.Sends ms := by
  apply forEndStations_sends
  intro i configuration
  apply forStreams_sends
  intro left j
  apply onStreamAt_sends
  intro states
  apply ite_sends ended_sends
  apply forEndStations_sends
  intro i configuration
  apply forStreams_sends
  exact fun _ _ => onStreamAt_sends fun _ => ended_sends

theorem cmdShowConnections_sends :
    cmdShowConnections.Sends [.acmp .getRxStateCommand, .acmp .getTxStateCommand] := by
  apply getNextNotificationId_sends
  intro id
  refine seq_sends (forEndStations_sends ?_ _ _) showReport_sends
  intro i configuration
  apply seq_sends
  · apply forStreams_sends
    intro left j
    apply sendQuery_sends
    intro c d hd m hm
    rw [queryInstream_message hd] at hm
    cases hm
    exact List.mem_cons_self
  · apply look_sends
    intro v
    apply lift_sends
    rintro ⟨es, configuration⟩ -
    apply forStreams_sends
    exact fun left j =>
      queryOutstream_sends id i left j (List.mem_cons_of_mem _ List.mem_cons_self)

theorem acquireStreamInput_sends (descIndex : BitVec 16) :
    (acquireStreamInput descIndex).Sends ms := by
  apply getNextNotificationId_sends
  intro id
  apply setWaitForNextCmd_sends
  apply look_sends
  intro v
  apply lift_sends
  rintro ⟨es, entity, configuration⟩ -
  apply lift_sends
  intro obj hobj
  apply getLastRespStatus_sends
  exact fun _ => ended_sends

theorem cmdAcquireEntity_sends (flagName descName : String) (descIndex : BitVec 16) :
    (cmdAcquireEntity flagName descName descIndex).Sends
      [.aem .acquireEntity, .aem .getStreamFormat] := by
  rw [cmdAcquireEntity]
  split
  · exact ended_sends
  · apply withCurrent_sends
    refine ite_sends (onEntity_sends ?_) (ite_sends (acquireStreamInput_sends descIndex)
      (ite_sends (onDescriptor_sends ?_) ended_sends))
    · exact fun _ => List.mem_cons_self
    · exact fun _ => List.mem_cons_of_mem _ List.mem_cons_self

theorem cmdLockEntity_sends (flagName descName : String) :
    (cmdLockEntity flagName descName).Sends [.aem .lockEntity] := by
  rw [cmdLockEntity]
  split
  · exact ended_sends
  · apply withCurrent_sends
    exact ite_sends (onEntity_sends fun _ => List.mem_cons_self) ended_sends

theorem cmdEntityAvail_sends : cmdEntityAvail.Sends [.aem .entityAvailable] := by
  apply look_sends
  intro v
  cases v.getCurrentEndStation with
  | none => exact ended_sends
  | some es =>
    apply sendAndWait_sends
    intro v endStation cmd h
    obtain ⟨es, -, h⟩ := bind_eq_ok.1 h
    cases h
    exact List.mem_singleton_self _

theorem cmdReboot_sends (hms : .aem .reboot ∈ ms) : cmdReboot.Sends ms :=
  withCurrent_sends (onEntity_sends fun _ => hms)

theorem cmdControllerAvail_sends : cmdControllerAvail.Sends [.aem .controllerAvailable] := by
  apply sendAndWait_sends
  intro v endStation cmd h
  obtain ⟨es, -, h⟩ := bind_eq_ok.1 h
  cases h
  exact List.mem_singleton_self _

theorem cmdSetStreamFormat_sends (descName : String) (descIndex : BitVec 16) (format : String) :
    (cmdSetStreamFormat descName descIndex format).Sends
      [.aem .setStreamFormat, .aem .getStreamFormat] := by
  rw [cmdSetStreamFormat]
  split
  · trivial
  · exact onStream_sends (onDescriptor_sends fun _ => List.mem_cons_self)
      (onDescriptor_sends fun _ => List.mem_cons_of_mem _ List.mem_cons_self)

theorem onAudioUnit_sends {descName : String} {descIndex : BitVec 16} {cmd : AemDesc → SendCmd}
    (hcmd : ∀ obj, (NotifiedCmd.send (cmd obj)).message ∈ ms) :
    (onAudioUnit descName descIndex cmd).Sends ms :=
  withCurrent_sends (ite_sends (onDescriptor_sends hcmd) ended_sends)

theorem onClockDomain_sends {id : Ptr} {descIndex : BitVec 16} {cmd : AemDesc → SendCmd}
    {print : Int → Handler Unit} (hcmd : ∀ obj, (NotifiedCmd.send (cmd obj)).message ∈ ms)
    (hprint : ∀ status, (print status).Sends ms) :
    (onClockDomain id descIndex cmd print).Sends ms := by
  apply setWaitForNextCmd_sends
  apply look_sends
  intro v
  apply lift_sends
  rintro ⟨es, entity, configuration⟩ -
  dsimp only
  cases configuration.getDescByIndex .clockDomain descIndex with
  | none => exact ended_sends
  | some obj =>
    apply send_sends (hcmd obj)
    exact getLastRespStatus_sends hprint

theorem printClockSource_sends (descIndex : BitVec 16) (status : Int) :
    (printClockSource descIndex status).Sends ms := by
  apply look_sends
  intro v
  dsimp only
  split
  · trivial
  · exact ended_sends

theorem writeImage_sends {id : Ptr} {reboot : Bool} {current : BitVec 64} {is : IStream}
    {buffer : List BigEndian.Byte} (haccess : .addressAccess ∈ ms)
    (hreboot : .aem .reboot ∈ ms) :
    (writeImage id reboot current is buffer).Sends ms := by
  fun_induction writeImage id reboot current is buffer with
  | case1 current is buffer hzero h => exact cmdReboot_sends hreboot
  | case2 current is buffer hzero h => exact ended_sends
  | case3 current is buffer hzero ih =>
    apply setWaitForNextCmd_sends
    apply look_sends
    intro v
    apply lift_sends
    intro es hes
    apply send_sends haccess
    apply getLastRespStatus_sends
    intro status
    exact ite_sends ended_sends ih

theorem cmdFirmwareUpgrade_sends (image : Option (List BigEndian.Byte))
    (buffer : Vector BigEndian.Byte 256) (reboot : Bool) :
    (cmdFirmwareUpgrade image buffer reboot).Sends
      [.aem .startOperation, .addressAccess, .aem .reboot] := by
  cases image with
  | none => exact ended_sends
  | some image =>
    apply withCurrent_sends
    apply getNextNotificationId_sends
    intro id
    apply setWaitForNextCmd_sends
    apply look_sends
    intro v
    apply lift_sends
    rintro ⟨es, entity, configuration⟩ -
    apply lift_sends
    intro memoryObject hobj
    have hstart : (NotifiedCmd.send (.startOperation memoryObject 3)).message ∈
        [.aem .startOperation, .addressAccess, .aem .reboot] := List.mem_cons_self
    apply send_sends hstart
    apply getLastRespStatus_sends
    intro status
    apply ite_sends ended_sends
    exact writeImage_sends (by decide) (by decide)

theorem doIdentify_sends (endStationIndex : BitVec 32) (turnOn : Bool) :
    (doIdentify endStationIndex turnOn).Sends [.aem .setControl] := by
  apply look_sends
  intro v
  apply lift_sends
  intro es hes
  apply sendAndWait_sends
  intro v endStation cmd h
  obtain ⟨es, -, h⟩ := bind_eq_ok.1 h
  cases h
  exact List.mem_singleton_self _

/-- A command sends only what it has senders for. -/
theorem Command.sends (command : Command) : command.script.Sends command.messages := by
  cases command with
  | select endStation entity config => exact doSelect_sends endStation entity config
  | showSelect => exact cmdShowSelect_sends
  | readDescriptor name index => exact cmdReadDescriptor_sends name index
  | connectRx args flags => exact cmdConnectRx_sends args flags
  | disconnectRx args => exact cmdDisconnectRx_sends args
  | getTxState endStation index =>
    apply queryStream_sends
    intro c es stream id d h
    obtain ⟨talker, -, h⟩ := bind_eq_ok.1 h
    cases h
    rfl
  | getRxState endStation index =>
    exact queryStream_sends fun _ _ _ _ _ h => sendRxCmd_message h
  | getTxConnection endStation index =>
    apply queryStream_sends
    intro c es stream id d h
    obtain ⟨talker, -, h⟩ := bind_eq_ok.1 h
    cases h
    rfl
  | showConnections => exact cmdShowConnections_sends
  | acquireEntity flag name index => exact cmdAcquireEntity_sends flag name index
  | lockEntity flag name => exact cmdLockEntity_sends flag name
  | entityAvail => exact cmdEntityAvail_sends
  | reboot => exact cmdReboot_sends List.mem_cons_self
  | controllerAvail => exact cmdControllerAvail_sends
  | setStreamFormat name index format => exact cmdSetStreamFormat_sends name index format
  | setStreamInfo name index field value =>
    apply onStream_sends ended_sends
    exact ite_sends (onDescriptor_sends fun _ => List.mem_cons_self) ended_sends
  | getStreamFormat name index | getStreamInfo name index
  | startStreaming name index | stopStreaming name index =>
    exact onStream_sends (onDescriptor_sends fun _ => List.mem_cons_self)
      (onDescriptor_sends fun _ => List.mem_cons_self)
  | setSamplingRate name index rate => exact onAudioUnit_sends fun _ => List.mem_cons_self
  | getSamplingRate name index => exact onAudioUnit_sends fun _ => List.mem_cons_self
  | setClockSource index source =>
    apply withCurrent_sends
    apply getNextNotificationId_sends
    exact fun id => onClockDomain_sends (fun _ => List.mem_cons_self) fun _ => ended_sends
  | getClockSource index =>
    apply getNextNotificationId_sends
    intro id
    apply withCurrent_sends
    exact onClockDomain_sends (fun _ => List.mem_cons_self) (printClockSource_sends index)
  | firmwareUpgrade image buffer answer => exact cmdFirmwareUpgrade_sends image buffer answer
  | identify endStation turnOn => exact doIdentify_sends endStation turnOn

end

/-- The command is what a line asks for, when it is typed while the library is as given. -/
def Command.Typed (command : Command) (controller : Controller) : Prop :=
  ∃ s tokens call, lineCall controller tokens = some call ∧
    call.function.read s call.args = .ok (.command command)

theorem function_of_stopStreaming {s : Surroundings} {f : CmdFunction}
    {values : Getter.Values f.getters} {descName : String} {descIndex : BitVec 16}
    (h : f.request s values = .command (.stopStreaming descName descIndex)) :
    f = .cmdStopStreaming := by
  cases f with
  | cmdStopStreaming => rfl
  | cmdHelpOne =>
    rw [CmdFunction.request] at h
    split at h <;> cases h
  | _ => cases h

theorem function_of_getTxConnection {s : Surroundings} {f : CmdFunction}
    {values : Getter.Values f.getters} {endStation : BitVec 32} {descIndex : BitVec 16}
    (h : f.request s values = .command (.getTxConnection endStation descIndex)) :
    f = .cmdGetTxConnection := by
  cases f with
  | cmdGetTxConnection => rfl
  | cmdHelpOne =>
    rw [CmdFunction.request] at h
    split at h <;> cases h
  | _ => cases h

theorem Command.Typed.messages {command : Command} {controller : Controller}
    (h : command.Typed controller) :
    .aem .stopStreaming ∉ command.messages ∧
      .acmp .getTxConnectionCommand ∉ command.messages := by
  obtain ⟨s, tokens, call, hline, hread⟩ := h
  obtain ⟨-, hstop, hconnection⟩ := function_of_line hline
  obtain ⟨values, -, hrequest⟩ := bind_eq_ok.1 hread
  have hrequest := Except.ok.inj hrequest
  cases command with
  | stopStreaming name index => exact absurd (function_of_stopStreaming hrequest) hstop
  | getTxConnection endStation index =>
    exact absurd (function_of_getTxConnection hrequest) hconnection
  | _ => constructor <;> dsimp only [Command.messages] <;> decide

namespace Session
variable {mac : Mac} {notifyId : Ptr} {completionStatus respStatusForCmd : Int}
  {testMode : Bool} {s s' : Session} {tr : List (Session × Event)}

/-- The commands are those of typed lines. -/
def FromLines (s : Session) : Event → Prop
  | .start command => command.Typed s.server.system.controller
  | _ => True

theorem typed_run
    (h : Run Step (.new mac notifyId completionStatus respStatusForCmd testMode) tr s)
    (htyped : Along FromLines tr) :
    (∀ command, lastStarted tr = some command → ∃ controller, command.Typed controller) ∧
      s.script.Follows messageProtocol (fun _ _ => True) (running tr).messages := by
  let R : List (Session × Event) → Console → List Message → Prop := fun tr _ ms =>
    (∀ command, lastStarted tr = some command → ∃ controller, command.Typed controller) ∧
      (running tr).messages = ms
  have hscript : ∀ command : Command, command.script.Follows messageProtocol (fun _ _ => True)
      command.messages := fun command => command.sends.mono fun _ _ _ => trivial
  have hrun := Client.follows_run (R := R) (k := []) hscript ?_ ?_ ?_ h htyped
    ⟨(fun _ h => nomatch h), rfl⟩ trivial
  · obtain ⟨ms, ⟨htyped, hms⟩, hf⟩ := hrun
    refine ⟨htyped, ?_⟩
    rw [hms]
    exact hf
  · rintro tr s ms call r c hR - - -
    refine ⟨trivial, ?_⟩
    dsimp only [R]
    rw [running, lastStarted_call]
    exact hR
  · rintro tr s ms a c hR hf - -
    refine ⟨ms, ?_, hf⟩
    dsimp only [R]
    rw [running, lastStarted_own]
    exact hR
  · rintro tr s ms a command hR - - htyped
    dsimp only [R]
    rw [running, lastStarted_start]
    refine ⟨?_, rfl⟩
    rintro _ ⟨⟩
    exact ⟨_, htyped⟩

/-- In a session whose commands were typed, whatever is called next sends only what the command
that was typed last has senders for. It is never STOP_STREAMING or GET_TX_CONNECTION. -/
theorem typed_session
    (h : Run Step (.new mac notifyId completionStatus respStatusForCmd testMode) tr s)
    (htyped : Along FromLines tr) {call : CommandCall} {r : call.Reply}
    (hstep : Step s (.call call r) s') {m : Message} (hm : call.message = some m) :
    ∃ command, lastStarted tr = some command ∧ m ∈ command.messages ∧
      m ≠ .aem .stopStreaming ∧ m ≠ .acmp .getTxConnectionCommand := by
  obtain ⟨hlast, hsends⟩ := typed_run h htyped
  cases hstep with
  | call hc hs =>
    rw [hc] at hsends
    have hmem := hsends.1 m hm
    rw [running] at hmem
    cases hstarted : lastStarted tr with
    | none =>
      rw [hstarted] at hmem
      cases hmem
    | some command =>
      rw [hstarted] at hmem
      obtain ⟨controller, htyped⟩ := hlast command hstarted
      obtain ⟨hstop, hconnection⟩ := htyped.messages
      exact ⟨command, rfl, hmem, ne_of_mem_of_not_mem hmem hstop,
        ne_of_mem_of_not_mem hmem hconnection⟩

theorem typed_entityAvail (controller : Controller) :
    Command.entityAvail.Typed controller := by
  let format : CliCommandFormat := TableFormat.toFormat ⟨.cmdEntityAvail, []⟩
  let call : Called := ⟨["entity".toList, "available".toList], [], format, ⟨0, [], false⟩⟩
  have hformat : format.runCommand controller [] = some ⟨0, [], false⟩ := by
    rw [CliCommandFormat.runCommand]
    dsimp only [format, TableFormat.toFormat, List.map_nil]
    rw [CliCommandFormat.matchArgs]
    rfl
  have hentity : cmdLineCommands.findSubCommand "entity".toList =
      some (CommandVar.entityCmd.command 2) := rfl
  have havailable : (CommandVar.entityCmd.command 2).findSubCommand "available".toList =
      some (CommandVar.entityAvailableCmd.command 1) := rfl
  have hformats : (CommandVar.entityAvailableCmd.command 1).formats = [format] := rfl
  have hcalled : call ∈ (cmdLineCommands.runCommand controller call.path []).called := by
    dsimp only [call]
    simp only [CliCommand.runCommand, hentity, havailable, CliCommand.runFormats, hformats,
      CliCommand.firstCall, hformat]
    exact List.mem_singleton_self _
  obtain ⟨v, f, hlisted, hmem, -, -, -, hline⟩ := lineCall_of_called hcalled
  have havail : ∀ p ∈ CommandVar.listing 3 .commands, p.1 = call.path →
      ∀ f ∈ p.2.formats, f.function = .cmdEntityAvail := by decide +kernel
  have hfunction := havail _ hlisted rfl f hmem
  rw [hfunction] at hline
  exact ⟨⟨fun _ => none, Vector.replicate 256 0, false⟩, _, _, hline, rfl⟩

/-- No other command is started. -/
def Move.onlyEntityAvail : Move → Bool
  | .start .entityAvail => true
  | .start _ => false
  | _ => true

/-- The command is about to be sent. -/
def aboutToSend (s : Session) : Bool :=
  match s.script with
  | .call (.send endStation (.send .entityAvail) id) _ =>
    match s.server.serve ⟨List.replicate 86 0, .zero, 0⟩ []
      (.send endStation (.send .entityAvail) id) with
    | .ok _ => true
    | .error _ => false
  | _ => false

theorem exists_step_of_aboutToSend (h : s.aboutToSend = true) :
    ∃ s' endStation id, Step s (.call (.send endStation (.send .entityAvail) id) ()) s' := by
  rw [aboutToSend] at h
  split at h
  · next endStation id next hscript =>
    split at h
    · next r hserve => exact ⟨_, endStation, id, .call hscript (Console.serve_serve hserve)⟩
    · cases h
  · cases h

theorem fromLines_of_onlyEntityAvail {e : Event} {m : Move} (h : m.onlyEntityAvail = true)
    (hstart : ∀ command, e = .start command → m = .start command) : FromLines s e := by
  cases e with
  | start command =>
    rw [hstart command rfl] at h
    cases command with
    | entityAvail => exact typed_entityAvail _
    | _ => cases h
  | _ => trivial

theorem typed_session_entityAvail :
    ∃ tr s s' endStation id, Run Step (.new 1 0 0 7 false) tr s ∧ Along FromLines tr ∧
      Step s (.call (.send endStation (.send .entityAvail) id) ()) s' ∧
      ∃ command, lastStarted tr = some command ∧ .aem .entityAvailable ∈ command.messages ∧
        (.aem .entityAvailable : Message) ≠ .aem .stopStreaming ∧
        (.aem .entityAvailable : Message) ≠ .acmp .getTxConnectionCommand := by
  have htrial : trial exec (fun s m => regular true s m && m.onlyEntityAvail) aboutToSend
      (.new 1 0 0 7 false) (System.readEntity.map .own ++ entityAvailMoves.take 5) = true := by
    decide +kernel
  have hexec : ∀ s m t, exec s m = .ok t → Succeeds exec s m t := fun _ _ _ h => h
  obtain ⟨tr, s, hrun, hg, hs⟩ := exists_run_of_trial hexec htrial
  have hstep : ∀ s m t, Succeeds exec s m t → (regular true s m && m.onlyEntityAvail) = true →
      ∃ e, Step s e t ∧ FromLines s e := by
    intro s m t hs hm
    obtain ⟨hregular, honly⟩ := Bool.and_eq_true_iff.1 hm
    obtain ⟨e, he, -, hstart⟩ := exec_step hs hregular
    exact ⟨e, he, fromLines_of_onlyEntityAvail honly hstart⟩
  obtain ⟨tr', hrun', htyped⟩ := hrun.relabel hg hstep
  obtain ⟨s', endStation, id, hsend⟩ := exists_step_of_aboutToSend hs
  exact ⟨tr', s, s', endStation, id, hrun', htyped, hsend,
    typed_session hrun' htyped hsend rfl⟩

end Session

end AvdeccLib
