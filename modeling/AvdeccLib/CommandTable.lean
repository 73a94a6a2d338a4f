import AvdeccLib.CliCommand
import Mathlib.Data.List.Induction

namespace AvdeccLib
set_option autoImplicit true

/-- The member functions of `cmd_line` that the formats are built with. -/
inductive CmdFunction where
  | cmdHelpOne | cmdHelpAll | cmdVersion | cmdList | cmdSelect | cmdShowSelect | cmdLog
  | cmdLogLevel | cmdUnlog | cmdViewAll | cmdViewMediaClock | cmdViewDetails | cmdViewDescriptor
  | cmdShowConnections | cmdConnectRx | cmdConnectDst | cmdConnect | cmdDisconnectRx
  | cmdGetRxState | cmdGetTxState | cmdGetTxConnection | cmdAcquireEntity | cmdLockEntity
  | cmdEntityAvail | cmdReboot | cmdControllerAvail | cmdReadDescriptor | cmdSetStreamFormat
  | cmdGetStreamFormat | cmdSetStreamInfo | cmdGetStreamInfo | cmdSetSamplingRate
  | cmdGetSamplingRate | cmdSetClockSource | cmdGetClockSource | cmdStartStreaming
  | cmdStopStreaming | cmdIdentifyOn | cmdIdentifyOff | cmdSetPath | cmdShowPath | cmdClr
  | cmdQuit | cmdFirmwareUpgrade
  deriving DecidableEq

/-- What the function returns, if it returns. -/
def CmdFunction.result (f : CmdFunction) : Int := if f = .cmdQuit then 1 else 0

/-- A `cli_command_format` with the name of its function. -/
structure TableFormat where
  function : CmdFunction
  args : List CliArgument
  deriving DecidableEq

def TableFormat.toFormat (f : TableFormat) : CliCommandFormat :=
  ⟨f.args, some fun _ _ => f.function.result⟩

/-- The `cli_command` objects of `cmd_line_commands_init`, by the names that they have there. -/
inductive CommandVar where
  | commands | helpCmd | versionCmd | listCmd | selectCmd | logCmd | logLevelCmd | unlogCmd
  | viewCmd | viewAllCmd | viewMediaCmd | viewMediaClockCmd | viewDetailsCmd | viewDescriptorCmd
  | showCmd | showConnectionsCmd | connectCmd | disconnectCmd | getCmd
  | getRxCmd | getRxStateCmd
  | getTxCmd | getTxStateCmd | getTxConnectionCmd | entityCmd | entityAcquireCmd | acquireCmd
  | acquireEntityCmd | entityLockCmd | lockCmd | lockEntityCmd | entityAvailableCmd
  | entityRebootCmd | rebootCmd | rebootEntityCmd | controllerCmd | controllerAvailableCmd
  | readCmd | readDescriptorCmd | setCmd | setStreamFormatCmd | getStreamFormatCmd
  | setStreamInfoCmd | getStreamInfoCmd | setSamplingRateCmd | getSamplingRateCmd
  | setClockSourceCmd | getClockSourceCmd | startCmd | startStreamingCmd | stopCmd
  | stopStreamingCmd | identifyCmd | identifyOnCmd | identifyOffCmd | pathCmd | clrCmd | quitCmd
  | paramCmd | upgradeCmd
  deriving DecidableEq

/-- The calls that put the commands together. -/
inductive InitCall where
  | addSubCommand (cmd : CommandVar) (name : String) (sub : CommandVar)
  | addFormat (cmd : CommandVar) (format : TableFormat)

namespace CommandTable

def endStation : CliArgument := CliCommandFormat.argument .endStation 1 1

def int : CliArgument := CliCommandFormat.argument .int 1 1

def string : CliArgument := CliCommandFormat.argument .string 1 1

/-- From `match_min` on as many strings as there are. -/
def strings (matchMin : BitVec 64) : CliArgument :=
  CliCommandFormat.argument .string matchMin 0xffffffff

def entityAcquireFmt : TableFormat := ⟨.cmdAcquireEntity, [string, string, int]⟩

def entityLockFmt : TableFormat := ⟨.cmdLockEntity, [string, string, int]⟩

def rebootFmt : TableFormat := ⟨.cmdReboot, []⟩

/-- `cmd_line_commands_init`, call by call. -/
def cmdLineCommandsInit : List InitCall :=
  [.addSubCommand .commands "help" .helpCmd,
    .addFormat .helpCmd ⟨.cmdHelpOne, [strings 1]⟩,
    .addFormat .helpCmd ⟨.cmdHelpAll, []⟩,
    .addSubCommand .commands "version" .versionCmd,
    .addFormat .versionCmd ⟨.cmdVersion, []⟩,
    .addSubCommand .commands "list" .listCmd,
    .addFormat .listCmd ⟨.cmdList, []⟩,
    .addSubCommand .commands "select" .selectCmd,
    .addFormat .selectCmd ⟨.cmdSelect, [endStation, int, int]⟩,
    .addFormat .selectCmd ⟨.cmdShowSelect, []⟩,
    .addSubCommand .commands "log" .logCmd,
    .addFormat .logCmd ⟨.cmdLog, [string]⟩,
    .addSubCommand .logCmd "level" .logLevelCmd,
    .addFormat .logLevelCmd ⟨.cmdLogLevel, [int]⟩,
    .addSubCommand .commands "unlog" .unlogCmd,
    .addFormat .unlogCmd ⟨.cmdUnlog, []⟩,
    .addSubCommand .commands "view" .viewCmd,
    .addSubCommand .viewCmd "all" .viewAllCmd,
    .addFormat .viewAllCmd ⟨.cmdViewAll, []⟩,
    .addSubCommand .viewCmd "media" .viewMediaCmd,
    .addSubCommand .viewMediaCmd "clock" .viewMediaClockCmd,
    .addFormat .viewMediaClockCmd ⟨.cmdViewMediaClock, []⟩,
    .addSubCommand .viewCmd "details" .viewDetailsCmd,
    .addFormat .viewDetailsCmd ⟨.cmdViewDetails, [endStation]⟩,
    .addSubCommand .viewCmd "descriptor" .viewDescriptorCmd,
    .addFormat .viewDescriptorCmd ⟨.cmdViewDescriptor, [string, int]⟩,
    .addSubCommand .commands "show" .showCmd,
    .addSubCommand .showCmd "connections" .showConnectionsCmd,
    .addFormat .showConnectionsCmd ⟨.cmdShowConnections, []⟩,
    .addSubCommand .commands "connect" .connectCmd,
    .addFormat .connectCmd ⟨.cmdConnectRx, [endStation, int, endStation, int, strings 0]⟩,
    .addFormat .connectCmd ⟨.cmdConnectDst, [endStation, int]⟩,
    .addFormat .connectCmd ⟨.cmdConnect, []⟩,
    .addSubCommand .commands "disconnect" .disconnectCmd,
    .addFormat .disconnectCmd ⟨.cmdDisconnectRx, [endStation, int, endStation, int]⟩,
    .addSubCommand .commands "get" .getCmd,
    .addSubCommand .getCmd "rx" .getRxCmd,
    .addSubCommand .getRxCmd "state" .getRxStateCmd,
    .addFormat .getRxStateCmd ⟨.cmdGetRxState, [endStation, int]⟩,
    .addSubCommand .getCmd "tx" .getTxCmd,
    .addSubCommand .getTxCmd "state" .getTxStateCmd,
    .addFormat .getTxStateCmd ⟨.cmdGetTxState, [endStation, int]⟩,
    .addSubCommand .getTxCmd "connection" .getTxConnectionCmd,
    .addFormat .getTxStateCmd ⟨.cmdGetTxConnection, [endStation, int]⟩,
    .addSubCommand .commands "entity" .entityCmd,
    .addSubCommand .entityCmd "acquire" .entityAcquireCmd,
    .addFormat .entityAcquireCmd entityAcquireFmt,
    .addSubCommand .commands "acquire" .acquireCmd,
    .addSubCommand .acquireCmd "entity" .acquireEntityCmd,
    .addFormat .acquireEntityCmd entityAcquireFmt,
    .addSubCommand .entityCmd "lock" .entityLockCmd,
    .addFormat .entityLockCmd entityLockFmt,
    .addSubCommand .commands "lock" .lockCmd,
    .addSubCommand .lockCmd "entity" .entityLockCmd,
    .addFormat .lockEntityCmd entityLockFmt,
    .addSubCommand .entityCmd "available" .entityAvailableCmd,
    .addFormat .entityAvailableCmd ⟨.cmdEntityAvail, []⟩,
    .addSubCommand .entityCmd "reboot" .entityRebootCmd,
    .addFormat .entityRebootCmd rebootFmt,
    .addSubCommand .commands "reboot" .rebootCmd,
    .addSubCommand .rebootCmd "entity" .rebootEntityCmd,
    .addFormat .rebootEntityCmd rebootFmt,
    .addSubCommand .commands "controller" .controllerCmd,
    .addSubCommand .controllerCmd "available" .controllerAvailableCmd,
    .addFormat .controllerAvailableCmd ⟨.cmdControllerAvail, []⟩,
    .addSubCommand .commands "read" .readCmd,
    .addSubCommand .readCmd "descriptor" .readDescriptorCmd,
    .addFormat .readDescriptorCmd ⟨.cmdReadDescriptor, [string, int]⟩,
    .addSubCommand .commands "set" .setCmd,
    .addSubCommand .setCmd "stream_format" .setStreamFormatCmd,
    .addFormat .setStreamFormatCmd ⟨.cmdSetStreamFormat, [string, int, string]⟩,
    .addSubCommand .getCmd "stream_format" .getStreamFormatCmd,
    .addFormat .getStreamFormatCmd ⟨.cmdGetStreamFormat, [string, int]⟩,
    .addSubCommand .setCmd "stream_info" .setStreamInfoCmd,
    .addFormat .setStreamInfoCmd ⟨.cmdSetStreamInfo, [string, int, string, string]⟩,
    .addSubCommand .getCmd "stream_info" .getStreamInfoCmd,
    .addFormat .getStreamInfoCmd ⟨.cmdGetStreamInfo, [string, int]⟩,
    .addSubCommand .setCmd "sampling_rate" .setSamplingRateCmd,
    .addFormat .setSamplingRateCmd ⟨.cmdSetSamplingRate, [string, int, int]⟩,
    .addSubCommand .getCmd "sampling_rate" .getSamplingRateCmd,
    .addFormat .getSamplingRateCmd ⟨.cmdGetSamplingRate, [string, int]⟩,
    .addSubCommand .setCmd "clock_source" .setClockSourceCmd,
    .addFormat .setClockSourceCmd ⟨.cmdSetClockSource, [string, int, int]⟩,
    .addSubCommand .getCmd "clock_source" .getClockSourceCmd,
    .addFormat .getClockSourceCmd ⟨.cmdGetClockSource, [string, int]⟩,
    .addSubCommand .commands "start" .startCmd,
    .addSubCommand .startCmd "streaming" .startStreamingCmd,
    .addFormat .startStreamingCmd ⟨.cmdStartStreaming, [string, int]⟩,
    .addSubCommand .commands "stop" .startCmd,
    .addSubCommand .stopCmd "streaming" .stopStreamingCmd,
    .addFormat .stopStreamingCmd ⟨.cmdStopStreaming, [string, int]⟩,
    .addSubCommand .commands "identify" .identifyCmd,
    .addSubCommand .identifyCmd "on" .identifyOnCmd,
    .addFormat .identifyOnCmd ⟨.cmdIdentifyOn, [endStation]⟩,
    .addSubCommand .identifyCmd "off" .identifyOffCmd,
    .addFormat .identifyOffCmd ⟨.cmdIdentifyOff, [endStation]⟩,
    .addSubCommand .commands "path" .pathCmd,
    .addFormat .pathCmd ⟨.cmdSetPath, [string]⟩,
    .addFormat .pathCmd ⟨.cmdShowPath, []⟩,
    .addSubCommand .commands "clr" .clrCmd,
    .addFormat .clrCmd ⟨.cmdClr, []⟩,
    .addSubCommand .commands "quit" .quitCmd,
    .addSubCommand .commands "q" .quitCmd,
    .addFormat .quitCmd ⟨.cmdQuit, []⟩,
    .addSubCommand .commands "param" .paramCmd,
    .addFormat .paramCmd ⟨.cmdConnectRx, [endStation, int, int, string, int]⟩,
    .addSubCommand .commands "upgrade" .upgradeCmd,
    .addFormat .upgradeCmd ⟨.cmdFirmwareUpgrade, [string]⟩]

end CommandTable

open CommandTable

namespace CommandVar

/-- `m_sub_commands` behind the calls. -/
def subCommands (v : CommandVar) : List (Token × CommandVar) :=
  cmdLineCommandsInit.filterMap fun
    | .addSubCommand cmd name sub => if cmd = v then some (name.toList, sub) else none
    | .addFormat _ _ => none

/-- `m_formats` behind the calls. -/
def formats (v : CommandVar) : List TableFormat :=
  cmdLineCommandsInit.filterMap fun
    | .addSubCommand _ _ _ => none
    | .addFormat cmd format => if cmd = v then some format else none

/-- The command with the commands below it, down to a depth. -/
def command : Nat → CommandVar → CliCommand
  | 0, v => .mk [] (v.formats.map TableFormat.toFormat)
  | n + 1, v =>
    .mk (v.subCommands.map fun p => (p.1, command n p.2)) (v.formats.map TableFormat.toFormat)

/-- The object that the names lead to. -/
def reach (v : CommandVar) : List Token → Option CommandVar
  | [] => some v
  | name :: path =>
    match v.subCommands.lookup name with
    | some sub => sub.reach path
    | none => none

/-- Nothing is deeper below the object. -/
def within : Nat → CommandVar → Bool
  | 0, v => v.subCommands.isEmpty
  | n + 1, v => v.subCommands.all fun p => within n p.2

/-- Where the names lead, down to a depth. -/
def listing : Nat → CommandVar → List (List Token × CommandVar)
  | 0, v => [([], v)]
  | n + 1, v =>
    ([], v) :: v.subCommands.flatMap fun p => (listing n p.2).map fun q => (p.1 :: q.1, q.2)

/-- The format of the command that takes the tokens. -/
def formatFor (controller : Controller) (v : CommandVar) (tokens : List Token) :
    Option TableFormat :=
  v.formats.find? fun f => (f.toFormat.runCommand controller tokens).isSome

end CommandVar

/-- `commands` behind `cmd_line_commands_init`. -/
def cmdLineCommands : CliCommand := CommandVar.commands.command 3

section
variable {controller : Controller} {v w : CommandVar} {name : Token}
  {path args tokens : List Token}
  {call : Called} {f : TableFormat} {fs : List TableFormat} {n : Nat} {node sub : CliCommand}

namespace CliCommand

theorem mem_called_runFormats {cmd : CliCommand} {names : List Token} :
    call ∈ (cmd.runFormats controller args path names).called ↔
      firstCall controller args path cmd.formats = some call := by
  rw [runFormats]
  split
  · next c hc => rw [hc, List.mem_singleton, Option.some_inj, eq_comm]
  · next hnone =>
    have hcall : ¬ none = some call := (Option.some_ne_none call).symm
    rw [hnone]
    split <;> exact iff_of_false List.not_mem_nil hcall

/-- The call is that of the first format, of the command that the path leads to, that takes what
is in the queue: all tokens behind the path, or those behind the name of a sub-command in which
there is no format on the way. -/
def FirstMade (controller : Controller) (cmd : CliCommand) (path tokens : List Token)
    (call : Called) : Prop :=
  ∃ p node, call.path = path ++ p ∧ cmd.nodeAt p = some node ∧
    firstCall controller call.args call.path node.formats = some call ∧
    (tokens = p ++ call.args ∨ ∃ name sub, tokens = p ++ name :: call.args ∧
      node.findSubCommand name = some sub ∧ sub.formats = [])

theorem firstMade_here {cmd : CliCommand} {names : List Token}
    (h : call ∈ (cmd.runFormats controller args path names).called)
    (htokens : tokens = args ∨ ∃ name sub, tokens = name :: args ∧
      cmd.findSubCommand name = some sub ∧ sub.formats = []) :
    cmd.FirstMade controller path tokens call := by
  have hfirst := mem_called_runFormats.1 h
  obtain ⟨hpath, hargs, -⟩ := firstCall_some hfirst
  subst hpath hargs
  exact ⟨[], cmd, (List.append_nil _).symm, rfl, hfirst, htokens⟩

theorem FirstMade.up {cmd sub : CliCommand} (hfind : cmd.findSubCommand name = some sub)
    (h : sub.FirstMade controller (path ++ [name]) tokens call) :
    cmd.FirstMade controller path (name :: tokens) call := by
  obtain ⟨p, node, hpath, hnode, hfirst, htokens⟩ := h
  refine ⟨name :: p, node, ?_, ?_, hfirst, ?_⟩
  · rw [hpath, List.append_assoc, List.singleton_append]
  · rw [nodeAt, hfind]
    exact hnode
  · rcases htokens with htokens | ⟨name', sub', htokens, hsub'⟩
    · exact .inl (congrArg (name :: ·) htokens)
    · exact .inr ⟨name', sub', congrArg (name :: ·) htokens, hsub'⟩

theorem firstMade_of_mem {cmd : CliCommand}
    (h : call ∈ (cmd.runCommand controller tokens path).called) :
    cmd.FirstMade controller path tokens call := by
  induction tokens generalizing cmd path with
  | nil =>
    rw [runCommand_nil] at h
    exact firstMade_here h (.inl rfl)
  | cons name tokens ih =>
    cases hfind : cmd.findSubCommand name with
    | none =>
      rw [runCommand_cons_none hfind] at h
      exact firstMade_here h (.inl rfl)
    | some sub =>
      rcases runCommand_cons_some controller tokens path hfind with ⟨-, hrun⟩ | ⟨hsilent, hrun⟩
      · rw [hrun] at h
        exact (ih h).up hfind
      · rw [hrun] at h
        exact firstMade_here h (.inr ⟨name, sub, rfl, hfind, hsilent [] tokens sub rfl rfl⟩)

end CliCommand

theorem find_of_firstCall
    (h : CliCommand.firstCall controller args path (fs.map TableFormat.toFormat) = some call) :
    ∃ f, fs.find? (fun f => (f.toFormat.runCommand controller args).isSome) = some f ∧
      f.toFormat.runCommand controller args = some call.invocation := by
  induction fs with
  | nil => cases h
  | cons g fs ih =>
    rw [List.map_cons, CliCommand.firstCall] at h
    rw [List.find?_cons]
    cases hrun : g.toFormat.runCommand controller args with
    | some inv =>
      rw [hrun] at h
      cases h
      exact ⟨g, rfl, hrun⟩
    | none =>
      rw [hrun] at h
      exact ih h

namespace CommandVar

theorem formats_command : (v.command n).formats = v.formats.map TableFormat.toFormat := by
  cases n <;> rfl

theorem lookup_map {α β γ : Type} [BEq α] (g : β → γ) (l : List (α × β)) (a : α) :
    (l.map fun p => (p.1, g p.2)).lookup a = (l.lookup a).map g := by
  induction l with
  | nil => rfl
  | cons p l ih =>
    rw [List.map_cons, List.lookup_cons, List.lookup_cons]
    split
    · rfl
    · exact ih

theorem findSubCommand_command (h : v.within n = true)
    (hsub : (v.command n).findSubCommand name = some sub) :
    ∃ w m, v.subCommands.lookup name = some w ∧ w.within m = true ∧ m < n ∧
      sub = w.command m := by
  cases n with
  | zero => cases hsub
  | succ n =>
    change (v.subCommands.map fun p => (p.1, command n p.2)).lookup name = some sub at hsub
    rw [lookup_map, Option.map_eq_some_iff] at hsub
    obtain ⟨w, hw, rfl⟩ := hsub
    refine ⟨w, n, hw, ?_, Nat.lt_succ_self n, rfl⟩
    obtain ⟨l₁, l₂, hl, -⟩ := List.lookup_eq_some_iff.1 hw
    exact List.all_eq_true.1 h (name, w) (hl ▸ List.mem_append_right l₁ List.mem_cons_self)

/-- The tree is cut nowhere: what a path leads to in it is what it leads to among the
objects. -/
theorem nodeAt_command (h : v.within n = true) (hnode : (v.command n).nodeAt path = some node) :
    ∃ w m, v.reach path = some w ∧ w.within m = true ∧ node = w.command m := by
  induction path generalizing v n with
  | nil =>
    cases hnode
    exact ⟨v, n, rfl, h, rfl⟩
  | cons name path ih =>
    rw [CliCommand.nodeAt] at hnode
    split at hnode
    · next sub hsub =>
      obtain ⟨w, m, hw, hm, -, rfl⟩ := findSubCommand_command h hsub
      rw [reach, hw]
      exact ih hm hnode
    · cases hnode

theorem mem_listing (h : v.within n = true) (hreach : v.reach path = some w) :
    (path, w) ∈ v.listing n := by
  induction path generalizing v n with
  | nil =>
    cases hreach
    cases n <;> exact List.mem_cons_self
  | cons name path ih =>
    rw [reach] at hreach
    split at hreach
    · next sub hsub =>
      obtain ⟨l₁, l₂, hl, -⟩ := List.lookup_eq_some_iff.1 hsub
      have hmem : (name, sub) ∈ v.subCommands :=
        hl ▸ List.mem_append_right l₁ List.mem_cons_self
      cases n with
      | zero =>
        rw [List.isEmpty_iff.1 h] at hmem
        cases hmem
      | succ n =>
        refine List.mem_cons_of_mem _ (List.mem_flatMap.2 ⟨(name, sub), hmem, ?_⟩)
        exact List.mem_map_of_mem (ih (List.all_eq_true.1 h _ hmem) hreach)
    · cases hreach

theorem within_commands : within 3 .commands = true := by decide

/-- Below a command that has formats every command has some. -/
theorem formats_below :
    ∀ p ∈ listing 3 .commands, p.2.formats ≠ [] → ∀ q ∈ p.2.subCommands, q.2.formats ≠ [] := by
  decide +kernel

/-- The names under which commands are added. -/
def names : List (CommandVar × Token) :=
  cmdLineCommandsInit.filterMap fun
    | .addSubCommand cmd name _ => some (cmd, name.toList)
    | .addFormat _ _ => none

theorem names_nodup : names.Nodup := by decide +kernel

theorem subCommands_names (v : CommandVar) :
    v.subCommands.map Prod.fst =
      names.filterMap fun p => if p.1 = v then some p.2 else none := by
  rw [subCommands, names, List.map_filterMap, List.filterMap_filterMap]
  congr 1
  funext c
  cases c with
  | addSubCommand cmd name sub =>
    dsimp only [Option.bind_some]
    split <;> rfl
  | addFormat cmd format => rfl

theorem subCommands_nodup (v : CommandVar) : (v.subCommands.map Prod.fst).Nodup := by
  rw [subCommands_names]
  refine names_nodup.filterMap ?_
  rintro ⟨cmd, name⟩ ⟨cmd', name'⟩ b hb hb'
  dsimp only at hb hb'
  split at hb
  · next hcmd =>
    split at hb'
    · next hcmd' =>
      cases hb
      cases hb'
      rw [hcmd, hcmd']
    · cases hb'
  · cases hb

end CommandVar

theorem CliCommand.built_mk {subs : List (Token × CliCommand)} {formats : List CliCommandFormat}
    (hnodup : (subs.map Prod.fst).Nodup) (hsubs : ∀ p ∈ subs, Built p.2) :
    Built (.mk subs formats) := by
  induction formats using List.reverseRecOn with
  | nil =>
    induction subs using List.reverseRecOn with
    | nil => exact .new
    | append_singleton subs p ih =>
      rw [List.map_append, List.nodup_append] at hnodup
      refine .addSubCommand (ih hnodup.1 fun q hq => hsubs q (List.mem_append_left _ hq))
        (hsubs p (List.mem_append_right _ List.mem_cons_self)) (if_neg ?_)
      rw [Bool.not_eq_true, Option.isSome_eq_false_iff, Option.isNone_iff_eq_none]
      apply List.lookup_eq_none_iff.2
      intro q hq
      have hne := hnodup.2.2 q.1 (List.mem_map_of_mem hq) p.1 (List.mem_singleton_self _)
      exact bne_iff_ne.2 hne.symm
  | append_singleton formats f ih => exact .addFormat ih

theorem cmdLineCommands_built : cmdLineCommands.Built := by
  have h : ∀ n v, (CommandVar.command n v).Built := by
    intro n
    induction n with
    | zero =>
      intro v
      exact CliCommand.built_mk List.nodup_nil (fun _ hp => nomatch hp)
    | succ n ih =>
      intro v
      apply CliCommand.built_mk
      · rw [List.map_map]
        exact v.subCommands_nodup
      · intro p hp
        obtain ⟨q, -, rfl⟩ := List.mem_map.1 hp
        exact ih q.2
  exact h 3 .commands

/-- An action that a line has called is that of the first format, of the command at the end of
the names, that takes the rest of the line, and no token is left out. -/
theorem called_of_line (h : call ∈ (cmdLineCommands.runCommand controller tokens []).called) :
    ∃ v f, CommandVar.commands.reach call.path = some v ∧
      v.formatFor controller call.args = some f ∧
      f.toFormat.runCommand controller call.args = some call.invocation ∧
      tokens = call.path ++ call.args := by
  obtain ⟨p, node, hpath, hnode, hfirst, htokens⟩ := CliCommand.firstMade_of_mem h
  rw [List.nil_append] at hpath
  subst hpath
  obtain ⟨v, m, hreach, hm, rfl⟩ := CommandVar.nodeAt_command CommandVar.within_commands hnode
  rw [CommandVar.formats_command] at hfirst
  obtain ⟨f, hfind, hrun⟩ := find_of_firstCall hfirst
  refine ⟨v, f, hreach, hfind, hrun, ?_⟩
  rcases htokens with htokens | ⟨name, sub, -, hsub, hempty⟩
  · exact htokens
  · obtain ⟨w, k, hw, -, -, rfl⟩ := CommandVar.findSubCommand_command hm hsub
    rw [CommandVar.formats_command, List.map_eq_nil_iff] at hempty
    have hformats : v.formats ≠ [] := List.ne_nil_of_mem (List.mem_of_find?_eq_some hfind)
    obtain ⟨l₁, l₂, hl, -⟩ := List.lookup_eq_some_iff.1 hw
    have hmem : (name, w) ∈ v.subCommands := hl ▸ List.mem_append_right l₁ List.mem_cons_self
    have hlisted := CommandVar.mem_listing CommandVar.within_commands hreach
    exact absurd hempty (CommandVar.formats_below _ hlisted hformats _ hmem)

end

end AvdeccLib
