import AvdeccLib.CommandScripts
import AvdeccLib.CommandTable

namespace AvdeccLib
set_option autoImplicit true

open EndStation (deref)
open GreedySplit Outcome

namespace CliArgument

/-- `get_value_int`. That of the base class only fails an assertion, as the ones below do. -/
def getValueInt (a : CliArgument) : Except Fault (BitVec 32) :=
  match a.type, a.isValid, a.values with
  | .int, true, [.int value] => pure value
  | _, _, _ => throw .assertion

def getValueUint (a : CliArgument) : Except Fault (BitVec 32) :=
  match a.type, a.isValid, a.values with
  | .endStation, true, [.uint value] => pure value
  | _, _, _ => throw .assertion

def getValueStr (a : CliArgument) : Except Fault Token :=
  match a.type, a.isValid, a.values with
  | .string, true, [.str value] => pure value
  | _, _, _ => throw .assertion

def getAllValueStr (a : CliArgument) : Except Fault (List Token) :=
  match a.type with
  | .string => pure (a.values.filterMap fun
      | .str value => some value
      | _ => none)
  | _ => throw .assertion

end CliArgument

/-- The getters that the functions call; `someStr` is `get_all_value_str` with the first element
of what it returns. -/
inductive Getter where
  | int
  | uint
  | str
  | allStr
  | someStr

namespace Getter

abbrev Value : Getter → Type
  | int | uint => BitVec 32
  | str => Token
  | allStr => List Token
  | someStr => Token × List Token

def get : (g : Getter) → CliArgument → Except Fault g.Value
  | int, a => a.getValueInt
  | uint, a => a.getValueUint
  | str, a => a.getValueStr
  | allStr, a => a.getAllValueStr
  | someStr, a => do
    let tmp ← a.getAllValueStr
    let first ← deref tmp[0]?
    pure (first, tmp)

abbrev Values : List Getter → Type
  | [] => Unit
  | g :: gs => g.Value × Values gs

/-- The getters called on `args[0]`, `args[1]` and so on. -/
def getAll : (gs : List Getter) → List CliArgument → Except Fault (Values gs)
  | [], _ => pure ()
  | _ :: _, [] => throw .nullPointer
  | g :: gs, a :: args => do
    let value ← g.get a
    let values ← getAll gs args
    pure (value, values)

end Getter

/-- The type of the arguments that have the getter. -/
def Getter.type : Getter → ArgumentType
  | int => .int
  | uint => .endStation
  | str | allStr | someStr => .string

/-- The argument is one that the getter can be called on, whatever has been matched with it. -/
def Getter.suits : Getter → CliArgument → Bool
  | int, a => a.type = .int ∧ a.matchMin = 1 ∧ a.matchMax = 1
  | uint, a => a.type = .endStation ∧ a.matchMin = 1 ∧ a.matchMax = 1
  | str, a => a.type = .string ∧ a.matchMin = 1 ∧ a.matchMax = 1
  | allStr, a => a.type = .string
  | someStr, a => a.type = .string ∧ 1 ≤ a.matchMin

/-- There is an argument that suits it for each of the getters. -/
def Getter.suitAll : List Getter → List CliArgument → Bool
  | [], _ => true
  | _ :: _, [] => false
  | g :: gs, a :: args => g.suits a && suitAll gs args

namespace CmdFunction

/-- The getters that a function calls at its start. -/
abbrev getters : CmdFunction → List Getter
  | cmdHelpOne => [.someStr]
  | cmdSelect => [.uint, .int, .int]
  | cmdLog | cmdSetPath | cmdFirmwareUpgrade => [.str]
  | cmdLogLevel => [.int]
  | cmdViewDetails | cmdIdentifyOn | cmdIdentifyOff => [.uint]
  | cmdViewDescriptor | cmdReadDescriptor | cmdGetStreamFormat | cmdGetStreamInfo
  | cmdGetSamplingRate | cmdGetClockSource | cmdStartStreaming
  | cmdStopStreaming => [.str, .int]
  | cmdConnectDst | cmdGetRxState | cmdGetTxState | cmdGetTxConnection => [.uint, .int]
  | cmdConnectRx => [.uint, .int, .uint, .int, .allStr]
  | cmdDisconnectRx => [.uint, .int, .uint, .int]
  | cmdAcquireEntity => [.str, .str, .int]
  | cmdLockEntity => [.str, .str]
  | cmdSetStreamFormat => [.str, .int, .str]
  | cmdSetStreamInfo => [.str, .int, .str, .str]
  | cmdSetSamplingRate | cmdSetClockSource => [.str, .int, .int]
  | cmdHelpAll | cmdVersion | cmdList | cmdShowSelect | cmdUnlog | cmdViewAll
  | cmdViewMediaClock
  | cmdShowConnections | cmdConnect | cmdEntityAvail | cmdReboot | cmdControllerAvail
  | cmdShowPath | cmdClr | cmdQuit => []

end CmdFunction

/-- What the functions take from outside of the command line: the files, a buffer that they do
not initialize, and the answer to a question. -/
structure Surroundings where
  file : Token → Option (List BigEndian.Byte)
  buffer : Vector BigEndian.Byte 256
  reboot : Bool

/-- What a function goes on with when it has read its arguments. Those that only print are left
as they are. -/
inductive Request where
  | helpAll (depth : BitVec 64)
  | helpOne (cmdPath : List Token)
  | quit
  | log (file : Token)
  | logLevel (newLogLevel : BitVec 32)
  | setPath (newLogPath : Token)
  | viewDetails (endStationIndex : BitVec 32)
  | viewDescriptor (descName : Token) (descIndex : BitVec 16)
  | connectDst (instreamEndStationIndex : BitVec 32) (instreamDescIndex : BitVec 16)
  | print (function : CmdFunction)
  | command (command : Command)

/-- The arguments as the functions hold them: a `get_value_int` goes into 16 bits but for the
sampling rate and the log level. The two functions for a CLOCK_DOMAIN do not look at the name of
the descriptor type. -/
def CmdFunction.request (s : Surroundings) :
    (f : CmdFunction) → Getter.Values f.getters → Request
  | .cmdHelpOne, ((first, tmp), ()) =>
    if first = "-a".toList then .helpAll 0xffffffff else .helpOne tmp
  | .cmdHelpAll, () => .helpAll 1
  | .cmdSelect, (newEndStation, newEntity, newConfig, ()) =>
    .command (.select newEndStation (newEntity.setWidth 16) (newConfig.setWidth 16))
  | .cmdShowSelect, () => .command .showSelect
  | .cmdLog, (file, ()) => .log file
  | .cmdLogLevel, (newLogLevel, ()) => .logLevel newLogLevel
  | .cmdViewDetails, (endStationIndex, ()) => .viewDetails endStationIndex
  | .cmdViewDescriptor, (descName, descIndex, ()) =>
    .viewDescriptor descName (descIndex.setWidth 16)
  | .cmdShowConnections, () => .command .showConnections
  | .cmdConnectRx, (outEndStation, outDesc, inEndStation, inDesc, flags, ()) =>
    .command (.connectRx ⟨outEndStation, outDesc, inEndStation, inDesc⟩
      (flags.map String.ofList))
  | .cmdConnectDst, (inEndStation, inDesc, ()) =>
    .connectDst inEndStation (inDesc.setWidth 16)
  | .cmdDisconnectRx, (outEndStation, outDesc, inEndStation, inDesc, ()) =>
    .command (.disconnectRx ⟨outEndStation, outDesc, inEndStation, inDesc⟩)
  | .cmdGetRxState, (inEndStation, inDesc, ()) =>
    .command (.getRxState inEndStation (inDesc.setWidth 16))
  | .cmdGetTxState, (outEndStation, outDesc, ()) =>
    .command (.getTxState outEndStation (outDesc.setWidth 16))
  | .cmdGetTxConnection, (outEndStation, outDesc, ()) =>
    .command (.getTxConnection outEndStation (outDesc.setWidth 16))
  | .cmdAcquireEntity, (flagName, descName, descIndex, ()) =>
    .command (.acquireEntity (.ofList flagName) (.ofList descName) (descIndex.setWidth 16))
  | .cmdLockEntity, (flagName, descName, ()) =>
    .command (.lockEntity (.ofList flagName) (.ofList descName))
  | .cmdEntityAvail, () => .command .entityAvail
  | .cmdReboot, () => .command .reboot
  | .cmdControllerAvail, () => .command .controllerAvail
  | .cmdReadDescriptor, (descName, descIndex, ()) =>
    .command (.readDescriptor (.ofList descName) (descIndex.setWidth 16))
  | .cmdSetStreamFormat, (descName, descIndex, newStreamFormatName, ()) =>
    .command (.setStreamFormat (.ofList descName) (descIndex.setWidth 16)
      (.ofList newStreamFormatName))
  | .cmdGetStreamFormat, (descName, descIndex, ()) =>
    .command (.getStreamFormat (.ofList descName) (descIndex.setWidth 16))
  | .cmdSetStreamInfo, (descName, descIndex, streamInfoField, newStreamInfoFieldValue, ()) =>
    .command (.setStreamInfo (.ofList descName) (descIndex.setWidth 16)
      (.ofList streamInfoField) (.ofList newStreamInfoFieldValue))
  | .cmdGetStreamInfo, (descName, descIndex, ()) =>
    .command (.getStreamInfo (.ofList descName) (descIndex.setWidth 16))
  | .cmdSetSamplingRate, (descName, descIndex, newSamplingRate, ()) =>
    .command (.setSamplingRate (.ofList descName) (descIndex.setWidth 16) newSamplingRate)
  | .cmdGetSamplingRate, (descName, descIndex, ()) =>
    .command (.getSamplingRate (.ofList descName) (descIndex.setWidth 16))
  | .cmdSetClockSource, (_, descIndex, newClkSrcIndex, ()) =>
    .command (.setClockSource (descIndex.setWidth 16) (newClkSrcIndex.setWidth 16))
  | .cmdGetClockSource, (_, descIndex, ()) =>
    .command (.getClockSource (descIndex.setWidth 16))
  | .cmdStartStreaming, (descName, descIndex, ()) =>
    .command (.startStreaming (.ofList descName) (descIndex.setWidth 16))
  | .cmdStopStreaming, (descName, descIndex, ()) =>
    .command (.stopStreaming (.ofList descName) (descIndex.setWidth 16))
  | .cmdIdentifyOn, (endStationIndex, ()) => .command (.identify endStationIndex true)
  | .cmdIdentifyOff, (endStationIndex, ()) => .command (.identify endStationIndex false)
  | .cmdSetPath, (newLogPath, ()) => .setPath newLogPath
  | .cmdQuit, () => .quit
  | .cmdFirmwareUpgrade, (imageFilePath, ()) =>
    .command (.firmwareUpgrade (s.file imageFilePath) s.buffer s.reboot)
  | .cmdVersion, () => .print .cmdVersion
  | .cmdList, () => .print .cmdList
  | .cmdUnlog, () => .print .cmdUnlog
  | .cmdViewAll, () => .print .cmdViewAll
  | .cmdViewMediaClock, () => .print .cmdViewMediaClock
  | .cmdConnect, () => .print .cmdConnect
  | .cmdShowPath, () => .print .cmdShowPath
  | .cmdClr, () => .print .cmdClr

/-- A function up to where it has its arguments. -/
def CmdFunction.read (s : Surroundings) (f : CmdFunction) (args : List CliArgument) :
    Except Fault Request := do
  let values ← Getter.getAll f.getters args
  pure (f.request s values)

/-- A function that a line has called, the names in front of its arguments, and whether the loop
over the lines is done behind it. -/
structure LineCall where
  path : List Token
  function : CmdFunction
  args : List CliArgument
  done : Bool

/-- What `cmd_line::handle` calls for the tokens of a line. -/
def lineCall (controller : Controller) (tokens : List Token) : Option LineCall := do
  let call ← (cmdLineCommands.runCommand controller tokens []).called.head?
  let cmd ← CommandVar.commands.reach call.path
  let format ← cmd.formatFor controller call.args
  pure ⟨call.path, format.function, call.invocation.args, call.invocation.done⟩

section
variable {controller : Controller} {a : CliArgument} {args : List CliArgument} {g : Getter}
  {gs : List Getter} {group tokens : List Token} {groups : List (List Token)}
  {f : TableFormat} {inv : Invocation} {v : CommandVar} {path : List Token}

namespace CliArgument

theorem hold_single (hmin : a.matchMin = 1) (hmax : a.matchMax = 1)
    (h : (a.clear.slot controller).Holds group) :
    ∃ t value, a.parse controller t = some value ∧
      a.clear.hold controller group = { a with values := [value], isValid := true } := by
  have hle : a.matchMin.toNat ≤ group.length := h.min
  have hge : group.length ≤ a.matchMax.toNat := h.max
  rw [hmin] at hle
  rw [hmax] at hge
  have hlen : group.length = 1 := Nat.le_antisymm hge hle
  obtain ⟨t, rfl⟩ := List.length_eq_one_iff.1 hlen
  have hparse : (a.parse controller t).isSome = true := h.accepts t List.mem_cons_self
  obtain ⟨value, hvalue⟩ := Option.isSome_iff_exists.1 hparse
  have hclear : a.clear.parse controller t = some value := hvalue
  exact ⟨t, value, hvalue, (hold_cons hclear).trans (hold_nil controller _)⟩

theorem parse_string (htype : a.type = .string) {t : Token} {value : ArgumentValue}
    (h : a.parse controller t = some value) : value = .str t := by
  rw [parse, htype] at h
  dsimp only [stringValue] at h
  split at h
  · exact (Option.some_inj.1 h).symm
  · cases h

theorem getAllValueStr_hold (htype : a.type = .string)
    (h : (a.clear.slot controller).Holds group) :
    (a.clear.hold controller group).getAllValueStr = .ok group := by
  have htype' : (a.clear.hold controller group).type = .string := htype
  rw [getAllValueStr, htype']
  refine congrArg Except.ok ?_
  change (([] : List ArgumentValue) ++ group.filterMap (a.parse controller)).filterMap _ = group
  rw [List.nil_append, List.filterMap_filterMap]
  have haccepts : ∀ t ∈ group, (a.parse controller t).isSome = true := h.accepts
  refine (List.filterMap_congr ?_).trans List.filterMap_some
  intro t ht
  obtain ⟨value, hvalue⟩ := Option.isSome_iff_exists.1 (haccepts t ht)
  rw [hvalue, parse_string htype hvalue]
  rfl

end CliArgument

namespace Getter

theorem exists_get (hg : g.suits a = true) (h : (a.clear.slot controller).Holds group) :
    ∃ value, g.get (a.clear.hold controller group) = .ok value := by
  cases g with
  | int =>
    obtain ⟨htype, hmin, hmax⟩ := of_decide_eq_true hg
    obtain ⟨t, value, hvalue, hhold⟩ := CliArgument.hold_single hmin hmax h
    rw [CliArgument.parse, htype] at hvalue
    dsimp only [CliArgument.intValue] at hvalue
    split at hvalue
    · cases hvalue
      refine ⟨atoi t, ?_⟩
      rw [hhold, get, CliArgument.getValueInt, htype]
      rfl
    · cases hvalue
  | uint =>
    obtain ⟨htype, hmin, hmax⟩ := of_decide_eq_true hg
    obtain ⟨t, value, hvalue, hhold⟩ := CliArgument.hold_single hmin hmax h
    rw [CliArgument.parse, htype] at hvalue
    obtain ⟨i, -, rfl⟩ := Option.map_eq_some_iff.1 hvalue
    refine ⟨i, ?_⟩
    rw [hhold, get, CliArgument.getValueUint, htype]
    rfl
  | str =>
    obtain ⟨htype, hmin, hmax⟩ := of_decide_eq_true hg
    obtain ⟨t, value, hvalue, hhold⟩ := CliArgument.hold_single hmin hmax h
    rw [CliArgument.parse_string htype hvalue] at hhold
    refine ⟨t, ?_⟩
    rw [hhold, get, CliArgument.getValueStr, htype]
    rfl
  | allStr => exact ⟨group, CliArgument.getAllValueStr_hold (of_decide_eq_true hg) h⟩
  | someStr =>
    obtain ⟨htype, hmin⟩ := of_decide_eq_true hg
    have hle : a.matchMin.toNat ≤ group.length := h.min
    obtain ⟨t, group, rfl⟩ : ∃ t ts, group = t :: ts := by
      cases group with
      | nil => exact absurd (hle.antisymm (Nat.zero_le _)) (Nat.ne_of_gt hmin)
      | cons t ts => exact ⟨t, ts, rfl⟩
    refine ⟨(t, t :: group), ?_⟩
    rw [get, CliArgument.getAllValueStr_hold htype h]
    rfl

theorem exists_getAll (hgs : suitAll gs args = true)
    (h : List.Forall₂ Slot.Holds
      ((args.map CliArgument.clear).map (CliArgument.slot controller))
      groups) :
    ∃ values, getAll gs
      (List.zipWith (CliArgument.hold controller) (args.map CliArgument.clear) groups) =
        .ok values := by
  induction gs generalizing args groups with
  | nil => exact ⟨(), rfl⟩
  | cons g gs ih =>
    cases args with
    | nil => cases hgs
    | cons a args =>
      rw [suitAll, Bool.and_eq_true] at hgs
      cases h with
      | cons ha hargs =>
        obtain ⟨value, hvalue⟩ := exists_get hgs.1 ha
        obtain ⟨values, hvalues⟩ := ih hgs.2 hargs
        refine ⟨(value, values), ?_⟩
        rw [List.map_cons, List.zipWith_cons_cons, getAll]
        exact bind_eq_ok.2 ⟨value, hvalue, bind_eq_ok.2 ⟨values, hvalues, rfl⟩⟩

theorem type_of_get {value : g.Value} (h : g.get a = .ok value) : a.type = g.type := by
  have hall : ∀ {strs : List Token}, a.getAllValueStr = .ok strs → a.type = .string := by
    intro strs h
    rw [CliArgument.getAllValueStr] at h
    split at h
    · next htype => exact htype
    · cases h
  cases g with
  | int =>
    rw [get, CliArgument.getValueInt] at h
    split at h
    · next htype _ _ => exact htype
    · cases h
  | uint =>
    rw [get, CliArgument.getValueUint] at h
    split at h
    · next htype _ _ => exact htype
    · cases h
  | str =>
    rw [get, CliArgument.getValueStr] at h
    split at h
    · next htype _ _ => exact htype
    · cases h
  | allStr => exact hall h
  | someStr =>
    obtain ⟨strs, hstrs, -⟩ := bind_eq_ok.1 h
    exact hall hstrs

theorem types_of_getAll {values : Values gs} (h : getAll gs args = .ok values) :
    gs.map type <+: args.map CliArgument.type := by
  induction gs generalizing args with
  | nil => exact List.nil_prefix
  | cons g gs ih =>
    cases args with
    | nil => cases h
    | cons a args =>
      obtain ⟨value, hvalue, h⟩ := bind_eq_ok.1 h
      obtain ⟨values, hvalues, -⟩ := bind_eq_ok.1 h
      rw [List.map_cons, List.map_cons, type_of_get hvalue]
      exact List.cons_prefix_cons.2 ⟨rfl, ih hvalues⟩

end Getter

namespace CommandTable

theorem bounded : ∀ p ∈ CommandVar.listing 3 .commands, ∀ f ∈ p.2.formats, ∀ a ∈ f.args,
    a.matchMin ≤ a.matchMax ∧ a.matchMin.toNat < 2 ^ 31 ∧
      (a.matchMax.toNat < 2 ^ 31 ∨ a.matchMax.toNat = 2 ^ 32 - 1) := by
  decide +kernel

theorem path_of_param :
    ∀ p ∈ CommandVar.listing 3 .commands, p.2 = .paramCmd ↔ p.1 = ["param".toList] := by
  decide +kernel

theorem suited : ∀ p ∈ CommandVar.listing 3 .commands, ∀ f ∈ p.2.formats,
    p.2 ≠ .paramCmd → Getter.suitAll f.function.getters f.args = true := by
  decide +kernel

theorem not_suited : ∀ f ∈ CommandVar.paramCmd.formats,
    ¬ f.function.getters.map Getter.type <+: f.args.map CliArgument.type := by
  decide +kernel

theorem function_of_stop : ∀ p ∈ CommandVar.listing 3 .commands, ∀ f ∈ p.2.formats,
    f.function ≠ .cmdStopStreaming ∧
      (p.1 = ["stop".toList, "streaming".toList] → f.function = .cmdStartStreaming) := by
  decide +kernel

theorem shadowed :
    ∀ p ∈ CommandVar.listing 3 .commands, ∀ f ∈ p.2.formats,
      f.function = .cmdGetTxConnection →
      p.2.formats.find? (fun g => g.args = f.args) ≠ some f := by
  decide +kernel

end CommandTable

namespace TableFormat

theorem isSome_runCommand :
    (f.toFormat.runCommand controller tokens).isSome =
      (CliCommandFormat.matchArgs controller [] (f.args.map CliArgument.clear) tokens 0
        0).accepted := by
  rw [CliCommandFormat.runCommand]
  dsimp only [toFormat]
  cases (CliCommandFormat.matchArgs controller [] (f.args.map CliArgument.clear) tokens 0
    0).accepted <;> rfl

theorem first_of_formatFor (h : v.formatFor controller tokens = some f) :
    v.formats.find? (fun g => g.args = f.args) = some f := by
  rw [CommandVar.formatFor, List.find?_eq_some_iff_append] at h
  obtain ⟨htakes, before, rest, hformats, hbefore⟩ := h
  rw [List.find?_eq_some_iff_append]
  refine ⟨decide_eq_true rfl, before, rest, hformats, ?_⟩
  intro g hg
  have hnot := hbefore g hg
  rw [Bool.not_eq_true'] at hnot ⊢
  apply decide_eq_false
  intro hargs
  rw [isSome_runCommand, hargs, ← isSome_runCommand, htakes] at hnot
  cases hnot

theorem done_of_runCommand (h : f.toFormat.runCommand controller tokens = some inv) :
    inv.done = true ↔ f.function = .cmdQuit := by
  rw [CliCommandFormat.runCommand] at h
  split at h
  · next action hacc haction =>
    cases h
    cases haction
    dsimp only [CmdFunction.result]
    split
    · next hquit => exact iff_of_true rfl hquit
    · next hquit => exact iff_of_false Bool.false_ne_true hquit
  · cases h

theorem types_hold (h : CliCommandFormat.Groups controller args groups) :
    (List.zipWith (CliArgument.hold controller) args groups).map CliArgument.type =
      args.map CliArgument.type := by
  induction h with
  | nil => rfl
  | cons _ _ ih => exact congrArg (_ :: ·) ih

theorem types_of_runCommand (h : f.toFormat.runCommand controller tokens = some inv) :
    inv.args.map CliArgument.type = f.args.map CliArgument.type := by
  obtain ⟨groups, hgroups, hargs, -⟩ := CliCommandFormat.runCommand_matches h
  rw [hargs, CliCommandFormat.filled, types_hold hgroups, List.map_map]
  rfl

theorem exists_getAll (hbounded : ∀ a ∈ f.args, a.matchMin ≤ a.matchMax ∧
      a.matchMin.toNat < 2 ^ 31 ∧ (a.matchMax.toNat < 2 ^ 31 ∨ a.matchMax.toNat = 2 ^ 32 - 1))
    (hsuited : Getter.suitAll f.function.getters f.args = true)
    (h : f.toFormat.runCommand controller tokens = some inv) :
    ∃ values, Getter.getAll f.function.getters inv.args = .ok values := by
  have hargs : ∀ a ∈ f.toFormat.args, a.Bounded := by
    intro a ha
    obtain ⟨hle, hmin, hmax⟩ := hbounded a ha
    exact ⟨hle, hmin, hmax⟩
  obtain ⟨groups, hsplits, hfilled, -⟩ := CliCommandFormat.runCommand_sound hargs h
  rw [hfilled]
  exact Getter.exists_getAll hsuited hsplits.holds

/-- The getters of the function fail on what a format of the table has matched only for
`param`. -/
theorem not_read_iff {s : Surroundings} (hlisted : (path, v) ∈ CommandVar.listing 3 .commands)
    (hmem : f ∈ v.formats) (h : f.toFormat.runCommand controller tokens = some inv) :
    (¬ ∃ request, f.function.read s inv.args = .ok request) ↔ path = ["param".toList] := by
  have hparam := CommandTable.path_of_param _ hlisted
  constructor
  · intro hnot
    by_contra hpath
    have hsuited := CommandTable.suited _ hlisted f hmem (mt hparam.1 hpath)
    obtain ⟨values, hvalues⟩ := exists_getAll (CommandTable.bounded _ hlisted f hmem) hsuited h
    exact hnot ⟨_, bind_eq_ok.2 ⟨values, hvalues, rfl⟩⟩
  · rintro hpath ⟨request, hrequest⟩
    have hv : v = .paramCmd := hparam.2 hpath
    subst hv
    obtain ⟨values, hvalues, -⟩ := bind_eq_ok.1 hrequest
    have htypes := Getter.types_of_getAll hvalues
    rw [types_of_runCommand h] at htypes
    exact CommandTable.not_suited f hmem htypes

end TableFormat

theorem lineCall_of_called {call : Called}
    (h : call ∈ (cmdLineCommands.runCommand controller tokens []).called) :
    ∃ v f, (call.path, v) ∈ CommandVar.listing 3 .commands ∧ f ∈ v.formats ∧
      v.formatFor controller call.args = some f ∧
      f.toFormat.runCommand controller call.args = some call.invocation ∧
      tokens = call.path ++ call.args ∧
      lineCall controller tokens =
        some ⟨call.path, f.function, call.invocation.args, call.invocation.done⟩ := by
  obtain ⟨v, f, hreach, hformat, hrun, htokens⟩ := called_of_line h
  refine ⟨v, f, CommandVar.mem_listing CommandVar.within_commands hreach,
    List.mem_of_find?_eq_some hformat, hformat, hrun, htokens, ?_⟩
  have honce : (cmdLineCommands.runCommand controller tokens []).called.length ≤ 1 :=
    CliCommand.runCommand_once
  obtain ⟨call', hcall'⟩ := List.length_eq_one_iff.1
    (Nat.le_antisymm honce (List.length_pos_of_mem h))
  rw [hcall', List.mem_singleton] at h
  subst h
  rw [lineCall, hcall']
  simp only [List.head?_cons, Option.bind_eq_bind, Option.bind_some, hreach, hformat]
  rfl

theorem exists_called {call : LineCall} (h : lineCall controller tokens = some call) :
    ∃ c ∈ (cmdLineCommands.runCommand controller tokens []).called, ∃ v f,
      (c.path, v) ∈ CommandVar.listing 3 .commands ∧ f ∈ v.formats ∧
      v.formatFor controller c.args = some f ∧
      f.toFormat.runCommand controller c.args = some c.invocation ∧
      tokens = c.path ++ c.args ∧
      call = ⟨c.path, f.function, c.invocation.args, c.invocation.done⟩ := by
  obtain ⟨c, hc, -⟩ := Option.bind_eq_some_iff.1 h
  have hmem := List.mem_of_head? hc
  obtain ⟨v, f, hlisted, hf, hfor, hrun, htokens, hline⟩ := lineCall_of_called hmem
  rw [hline] at h
  exact ⟨c, hmem, v, f, hlisted, hf, hfor, hrun, htokens, (Option.some_inj.1 h).symm⟩

/-- Two of the functions are called by no line, and `stop streaming` calls the one that
starts. -/
theorem function_of_line {call : LineCall} (h : lineCall controller tokens = some call) :
    (call.path = ["stop".toList, "streaming".toList] → call.function = .cmdStartStreaming) ∧
      call.function ≠ .cmdStopStreaming ∧ call.function ≠ .cmdGetTxConnection := by
  obtain ⟨c, -, v, f, hlisted, hf, hfor, hrun, htokens, rfl⟩ := exists_called h
  obtain ⟨hstop, hstart⟩ := CommandTable.function_of_stop _ hlisted f hf
  refine ⟨hstart, hstop, ?_⟩
  intro hfunction
  exact CommandTable.shadowed _ hlisted f hf hfunction (TableFormat.first_of_formatFor hfor)

example : CommandVar.commands.reach ["stop".toList, "streaming".toList] =
    some .startStreamingCmd := by decide

/-- Whatever is typed: a line calls one function or none, all its tokens are the names and the
arguments, and the loop is done exactly behind `cmd_quit`. The function has arguments of the
classes whose getters it calls, with the values that they need, unless the line begins with
`param`. And no line calls `cmd_stop_streaming` or `cmd_get_tx_connection`: `stop streaming`
starts. -/
theorem typed_line (s : Surroundings) (controller : Controller) (tokens : List Token) :
    (cmdLineCommands.runCommand controller tokens []).called.map
      (fun call => (call.path, call.invocation.args, call.invocation.done)) =
        (lineCall controller tokens).toList.map (fun call =>
          (call.path, call.args, call.done)) ∧
    ∀ call, lineCall controller tokens = some call →
      (∃ args, tokens = call.path ++ args) ∧
      (call.done = true ↔ call.function = .cmdQuit) ∧
      ((∃ request, call.function.read s call.args = .ok request) ↔
        call.path ≠ ["param".toList]) ∧
      (call.path = ["stop".toList, "streaming".toList] → call.function = .cmdStartStreaming) ∧
      call.function ≠ .cmdStopStreaming ∧ call.function ≠ .cmdGetTxConnection := by
  constructor
  · have honce : (cmdLineCommands.runCommand controller tokens []).called.length ≤ 1 :=
      CliCommand.runCommand_once
    cases hcalled : (cmdLineCommands.runCommand controller tokens []).called with
    | nil =>
      rw [lineCall, hcalled]
      rfl
    | cons call calls =>
      rw [hcalled, List.length_cons] at honce
      obtain rfl : calls = [] :=
        List.eq_nil_of_length_eq_zero (Nat.le_zero.1 (Nat.le_of_lt_succ honce))
      obtain ⟨v, f, -, -, -, -, -, hline⟩ :=
        @lineCall_of_called controller tokens call (hcalled ▸ List.mem_cons_self)
      rw [hline]
      rfl
  · intro call h
    have hfunction := function_of_line h
    obtain ⟨c, -, v, f, hlisted, hf, hfor, hrun, htokens, rfl⟩ := exists_called h
    refine ⟨⟨c.args, htokens⟩, TableFormat.done_of_runCommand hrun, ?_, hfunction⟩
    rw [← not_iff_not, not_not]
    exact TableFormat.not_read_iff hlisted hf hrun

end

end AvdeccLib
