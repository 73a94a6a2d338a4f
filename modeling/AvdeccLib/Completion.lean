import AvdeccLib.AdpTracking
import AvdeccLib.Isolation
import AvdeccLib.StationGrowth
import AvdeccLib.TypedLines
import Mathlib.Data.List.Dedup
import Mathlib.Data.List.Sort
import Mathlib.Data.Nat.Digits.Defs

namespace AvdeccLib
set_option autoImplicit true

open Controller GreedySplit Growth Outcome Runs

theorem length_drop_of_idxOf {s : Token} {c : Char} {pos : Nat} (h : s.idxOf? c = some pos) :
    (s.drop (pos + 1)).length < s.length := by
  have hlt := (List.findIdx?_eq_some_iff_getElem.1 h).1
  rw [List.length_drop]
  omega

/-- The loop of `main` over the blanks of a line. -/
def inputArgv (cmdInput : Token) : List Token :=
  match _h : cmdInput.idxOf? ' ' with
  | some pos =>
    (if pos ≠ 0 then [cmdInput.take pos] else []) ++ inputArgv (cmdInput.drop (pos + 1))
  | none => if cmdInput.length ≠ 0 ∧ cmdInput ≠ [' '] then [cmdInput] else []
termination_by cmdInput.length
decreasing_by exact length_drop_of_idxOf _h

/-- `split`, by `std::getline`. There is no item behind a delimiter at the end. -/
def split (s : Token) (delim : Char) : List Token :=
  if s = [] then []
  else
    match _h : s.idxOf? delim with
    | some pos => s.take pos :: split (s.drop (pos + 1)) delim
    | none => [s]
termination_by s.length
decreasing_by exact length_drop_of_idxOf _h

/-- What `sprintf` with "0x%" PRIx64 writes. -/
def entityIdStr (entityId : EntityId) : Token := '0' :: 'x' :: Nat.toDigits 16 entityId.toNat

/-- The order of `std::string`. -/
def Token.notAfter (a b : Token) : Bool := !List.lex b a fun x y => x.toNat < y.toNat

/-- A `std::set` from its elements, in order. -/
def inOrder (options : List Token) : List Token := options.dedup.mergeSort Token.notAfter

/-- The elements that `get_completion_options` inserts. -/
def CliArgument.getCompletionOptions (controller : Controller) (a : CliArgument) : List Token :=
  match a.type with
  | .endStation => controller.endStationVec.map fun es => entityIdStr es.entityId
  | _ => []

namespace CliCommand

/-- `get_sub_command`, with what is left in the queue. -/
def getSubCommand (cmd : CliCommand) : List Token → Option CliCommand × List Token
  | [] => (some cmd, [])
  | name :: cmdPath =>
    if name.length = 0 then cmd.getSubCommand cmdPath
    else if cmd.subCommands.length = 0 then (some cmd, name :: cmdPath)
    else
      match cmd.findSubCommand name with
      | some sub => sub.getSubCommand cmdPath
      | none => (none, name :: cmdPath)

/-- `get_sub_command_names`, a list that is sorted. -/
def getSubCommandNames (cmd : CliCommand) : List Token :=
  (cmd.subCommands.map Prod.fst).mergeSort Token.notAfter

/-- `get_args` -/
def getArgs (cmd : CliCommand) (index : Nat) : List CliArgument :=
  cmd.formats.filterMap fun f => f.args[index]?

/-- The options of a new word. -/
def completionOptions (controller : Controller) (cmd : CliCommand) (argIndex : Nat) :
    List Token :=
  if cmd.getSubCommandNames.length ≠ 0 then cmd.getSubCommandNames
  else inOrder ((cmd.getArgs argIndex).flatMap (CliArgument.getCompletionOptions controller))

end CliCommand

/-- What `command_completer` sets: `current_command` and `complettion_arg_index`, which keeps
its value in a new line. -/
def commandCompleter (topLevelCommand : CliCommand) (argIndex : Nat) (rlLineBuffer : Token)
    (start : Nat) : Option CliCommand × Nat :=
  if start = 0 then (some topLevelCommand, argIndex)
  else
    let (currentCommand, cmdPath) :=
      topLevelCommand.getSubCommand (split (rlLineBuffer.take start) ' ')
    (currentCommand, cmdPath.length)

/-- The matches that `rl_completion_matches` takes from `command_generator` for the text of the
line from `start` on. -/
def completions (controller : Controller) (topLevelCommand : CliCommand) (argIndex : Nat)
    (rlLineBuffer : Token) (start : Nat) (text : Token) : List Token :=
  match commandCompleter topLevelCommand argIndex rlLineBuffer start with
  | (some currentCommand, argIndex) =>
    (currentCommand.completionOptions controller argIndex).filter (text.isPrefixOf ·)
  | (none, _) => []

section
variable {s line text option : Token} {delim : Char} {items rest tokens : List Token}
  {cmd node : CliCommand} {controller c c' : Controller} {n start : Nat}

theorem take_of_idxOf (h : s.idxOf? delim = some n) : (s.take n).length ≠ 0 ↔ n ≠ 0 := by
  have hlt := (List.findIdx?_eq_some_iff_getElem.1 h).1
  rw [List.length_take]
  omega

theorem split_of_none (hne : s ≠ []) (h : s.idxOf? delim = none) : split s delim = [s] := by
  rw [split, if_neg hne]
  split
  · next h' =>
    rw [h] at h'
    cases h'
  · rfl

theorem split_of_some (h : s.idxOf? delim = some n) :
    split s delim = s.take n :: split (s.drop (n + 1)) delim := by
  have hne : s ≠ [] := by
    rintro rfl
    cases h
  rw [split, if_neg hne]
  split
  · next h' =>
    rw [h] at h'
    cases h'
    rfl
  · next h' =>
    rw [h] at h'
    cases h'

theorem inputArgv_eq_filter (line : Token) :
    inputArgv line = (split line ' ').filter (·.length ≠ 0) := by
  fun_induction inputArgv line with
  | case1 line pos h ih =>
    rw [split_of_some h, List.filter_cons, ih]
    by_cases hpos : pos = 0
    · rw [if_neg (not_not.2 hpos), List.nil_append, if_neg]
      rw [decide_eq_true_iff, take_of_idxOf h]
      exact not_not.2 hpos
    · rw [if_pos hpos, if_pos (decide_eq_true ((take_of_idxOf h).2 hpos)),
        List.singleton_append]
  | case2 line h hline =>
    have hne : line ≠ [] := fun hnil => hline.1 (congrArg List.length hnil)
    rw [split_of_none hne h, List.filter_cons, if_pos (decide_eq_true hline.1), List.filter_nil]
  | case3 line h hline =>
    rw [not_and_or, not_not, not_not, List.length_eq_zero_iff] at hline
    rcases hline with rfl | rfl
    · rw [split, if_pos rfl, List.filter_nil]
    · cases h

namespace CliCommand

/-- What is found is where the words in front lead, and what is left of the items is behind a
command without sub-commands. -/
theorem getSubCommand_some (h : cmd.getSubCommand items = (some node, rest)) :
    ∃ pre, items = pre ++ rest ∧ cmd.nodeAt (pre.filter (·.length ≠ 0)) = some node ∧
      (rest = [] ∨ node.subCommands = [] ∧ rest.head? ≠ some []) := by
  induction items generalizing cmd with
  | nil =>
    cases h
    exact ⟨[], rfl, rfl, .inl rfl⟩
  | cons name items ih =>
    rw [getSubCommand] at h
    split at h
    · next hblank =>
      obtain ⟨pre, rfl, hnode, hrest⟩ := ih h
      refine ⟨name :: pre, rfl, ?_, hrest⟩
      rw [List.filter_cons_of_neg (by simpa using hblank)]
      exact hnode
    · next hname =>
      split at h
      · next hleaf =>
        cases h
        refine ⟨[], rfl, rfl, .inr ⟨List.length_eq_zero_iff.1 hleaf, ?_⟩⟩
        rintro hhead
        cases hhead
        exact hname rfl
      · split at h
        · next sub hsub =>
          obtain ⟨pre, rfl, hnode, hrest⟩ := ih h
          refine ⟨name :: pre, rfl, ?_, hrest⟩
          rw [List.filter_cons_of_pos (by simpa using hname), nodeAt, hsub]
          exact hnode
        · cases h

theorem subCommands_ne_nil {name : Token} {sub : CliCommand}
    (h : cmd.findSubCommand name = some sub) : cmd.subCommands ≠ [] := by
  intro hnil
  rw [findSubCommand, hnil] at h
  cases h

theorem getSubCommand_blank {name : Token} (hname : name.length = 0) :
    cmd.getSubCommand (name :: items) = cmd.getSubCommand items := by
  rw [getSubCommand, if_pos hname]

theorem getSubCommand_cons {name : Token} {sub : CliCommand} (hname : name.length ≠ 0)
    (h : cmd.findSubCommand name = some sub) :
    cmd.getSubCommand (name :: items) = sub.getSubCommand items := by
  have hne : cmd.subCommands.length ≠ 0 := mt List.length_eq_zero_iff.1 (subCommands_ne_nil h)
  rw [getSubCommand, if_neg hname, if_neg hne, h]

theorem nodeAt_cons {name : Token} {path : List Token}
    (h : cmd.nodeAt (name :: path) = some node) :
    ∃ sub, cmd.findSubCommand name = some sub ∧ sub.nodeAt path = some node := by
  rw [nodeAt] at h
  split at h
  · next sub hsub => exact ⟨sub, hsub, h⟩
  · cases h

theorem getSubCommand_of_nodeAt {name : Token} {last : CliCommand}
    (h : cmd.nodeAt (items.filter (·.length ≠ 0) ++ [name]) = some last) :
    ∃ node, cmd.getSubCommand items = (some node, []) ∧
      (node.findSubCommand name).isSome = true := by
  induction items generalizing cmd with
  | nil =>
    obtain ⟨sub, hsub, -⟩ := nodeAt_cons h
    exact ⟨cmd, rfl, Option.isSome_iff_exists.2 ⟨sub, hsub⟩⟩
  | cons t items ih =>
    by_cases hblank : t.length = 0
    · rw [List.filter_cons_of_neg (by simpa using hblank)] at h
      rw [getSubCommand_blank hblank]
      exact ih h
    · rw [List.filter_cons_of_pos (by simpa using hblank), List.cons_append] at h
      obtain ⟨sub, hsub, h⟩ := nodeAt_cons h
      rw [getSubCommand_cons hblank hsub]
      exact ih h

theorem mem_getSubCommandNames {name : Token} :
    name ∈ cmd.getSubCommandNames ↔ (cmd.findSubCommand name).isSome = true := by
  rw [getSubCommandNames, List.mem_mergeSort, findSubCommand,
    List.lookup_isSome_iff, List.mem_map]
  constructor
  · rintro ⟨p, hp, rfl⟩
    exact ⟨p, hp, beq_self_eq_true p.1⟩
  · rintro ⟨p, hp, hname⟩
    exact ⟨p, hp, (beq_iff_eq.1 hname).symm⟩

theorem getSubCommand_of_leaf {pre : List Token}
    (h : cmd.nodeAt (pre.filter (·.length ≠ 0)) = some node) (hleaf : node.subCommands = [])
    (hrest : rest.head? ≠ some []) : cmd.getSubCommand (pre ++ rest) = (some node, rest) := by
  induction pre generalizing cmd with
  | nil =>
    cases h
    cases rest with
    | nil => rfl
    | cons t rest =>
      have hblank : t.length ≠ 0 := by
        intro hlen
        apply hrest
        rw [List.head?_cons, List.length_eq_zero_iff.1 hlen]
      rw [List.nil_append, getSubCommand, if_neg hblank, if_pos (by rw [hleaf]; rfl)]
  | cons t pre ih =>
    rw [List.cons_append]
    by_cases hblank : t.length = 0
    · rw [List.filter_cons_of_neg (by simpa using hblank)] at h
      rw [getSubCommand_blank hblank]
      exact ih h
    · rw [List.filter_cons_of_pos (by simpa using hblank)] at h
      obtain ⟨sub, hsub, h⟩ := nodeAt_cons h
      rw [getSubCommand_cons hblank hsub]
      exact ih h

theorem getSubCommandNames_eq_nil : cmd.getSubCommandNames.length = 0 ↔
    cmd.subCommands = [] := by
  rw [getSubCommandNames, List.length_mergeSort, List.length_map, List.length_eq_zero_iff]

theorem mem_getArgs {a : CliArgument} :
    a ∈ cmd.getArgs n ↔ ∃ f ∈ cmd.formats, f.args[n]? = some a := List.mem_filterMap

/-- A word behind the items is one for an end station: they lead to a command without
sub-commands, and a format of it has such an argument at the index. -/
def StationWord (cmd : CliCommand) (items : List Token) (index : Nat) : Prop :=
  ∃ pre rest node, items = pre ++ rest ∧ rest.head? ≠ some [] ∧ rest.length = index ∧
    cmd.nodeAt (pre.filter (·.length ≠ 0)) = some node ∧ node.subCommands = [] ∧
    ∃ f ∈ node.formats, ∃ a, f.args[index]? = some a ∧ a.type = .endStation

theorem nodeAt_append {path path' : List Token} (h : cmd.nodeAt path = some node) :
    cmd.nodeAt (path ++ path') = node.nodeAt path' := by
  induction path generalizing cmd with
  | nil =>
    cases h
    rfl
  | cons name path ih =>
    obtain ⟨sub, hsub, h⟩ := nodeAt_cons h
    rw [List.cons_append, nodeAt, hsub]
    exact ih h

theorem isSome_nodeAt_singleton {name : Token} :
    (cmd.nodeAt [name]).isSome = (cmd.findSubCommand name).isSome := by
  rw [nodeAt]
  cases cmd.findSubCommand name <;> rfl

theorem mem_inOrder {options : List Token} : option ∈ inOrder options ↔ option ∈ options := by
  rw [inOrder, List.mem_mergeSort, List.mem_dedup]

theorem mem_getCompletionOptions {a : CliArgument} :
    option ∈ a.getCompletionOptions controller ↔
      a.type = .endStation ∧ ∃ es ∈ controller.endStationVec,
        entityIdStr es.entityId = option := by
  rw [CliArgument.getCompletionOptions]
  split
  · next htype =>
    rw [List.mem_map]
    exact ⟨fun h => ⟨htype, h⟩, And.right⟩
  · next htype => exact iff_of_false List.not_mem_nil fun h => htype h.1

/-- The options are the names of the sub-commands, or else those of the arguments. -/
theorem mem_completionOptions :
    option ∈ cmd.completionOptions controller n ↔
      (cmd.findSubCommand option).isSome = true ∨
        cmd.subCommands = [] ∧ ∃ f ∈ cmd.formats, ∃ a, f.args[n]? = some a ∧
          a.type = .endStation ∧
          ∃ es ∈ controller.endStationVec, entityIdStr es.entityId = option := by
  rw [completionOptions]
  by_cases hleaf : cmd.subCommands = []
  · have hfind : ¬ (cmd.findSubCommand option).isSome = true := by
      rw [findSubCommand, hleaf]
      exact Bool.false_ne_true
    rw [if_neg (not_not.2 (getSubCommandNames_eq_nil.2 hleaf)), mem_inOrder, List.mem_flatMap]
    constructor
    · rintro ⟨a, ha, hoption⟩
      obtain ⟨f, hf, hfa⟩ := mem_getArgs.1 ha
      exact .inr ⟨hleaf, f, hf, a, hfa, mem_getCompletionOptions.1 hoption⟩
    · rintro (hsub | ⟨-, f, hf, a, hfa, hoption⟩)
      · exact absurd hsub hfind
      · exact ⟨a, mem_getArgs.2 ⟨f, hf, hfa⟩, mem_getCompletionOptions.2 hoption⟩
  · rw [if_pos (mt getSubCommandNames_eq_nil.1 hleaf), mem_getSubCommandNames]
    constructor
    · exact .inl
    · rintro (hsub | ⟨hnil, -⟩)
      · exact hsub
      · exact absurd hnil hleaf

theorem mem_completionOptions_of_some (hfound : cmd.getSubCommand items = (some node, rest)) :
    option ∈ node.completionOptions controller rest.length ↔
      (cmd.nodeAt (items.filter (·.length ≠ 0) ++ [option])).isSome = true ∨
        cmd.StationWord items rest.length ∧
          ∃ es ∈ controller.endStationVec, entityIdStr es.entityId = option := by
  rw [mem_completionOptions]
  constructor
  · rintro (hsub | ⟨hleaf, f, hf, a, hfa, htype, hes⟩)
    · obtain ⟨pre, rfl, hnode, hrest⟩ := getSubCommand_some hfound
      have hnil : rest = [] := by
        rcases hrest with hnil | ⟨hleaf, -⟩
        · exact hnil
        · obtain ⟨sub, hsub⟩ := Option.isSome_iff_exists.1 hsub
          exact absurd hleaf (subCommands_ne_nil hsub)
      subst hnil
      left
      rw [List.append_nil, nodeAt_append hnode, isSome_nodeAt_singleton]
      exact hsub
    · obtain ⟨pre, rfl, hnode, hrest⟩ := getSubCommand_some hfound
      have hhead : rest.head? ≠ some [] := by
        rcases hrest with rfl | ⟨-, hhead⟩
        · exact (nomatch ·)
        · exact hhead
      exact .inr ⟨⟨pre, rest, node, rfl, hhead, rfl, hnode, hleaf, f, hf, a, hfa, htype⟩, hes⟩
  · rintro (hpath | ⟨⟨pre, rest', node', rfl, hhead, -, hnode, hleaf, f, hf, a, hfa, htype⟩,
      hes⟩)
    · obtain ⟨last, hlast⟩ := Option.isSome_iff_exists.1 hpath
      obtain ⟨node', hnode, hsub⟩ := getSubCommand_of_nodeAt hlast
      cases hfound.symm.trans hnode
      exact .inl hsub
    · cases hfound.symm.trans (getSubCommand_of_leaf hnode hleaf hhead)
      exact .inr ⟨hleaf, f, hf, a, hfa, htype, hes⟩

theorem no_options_of_none (hfound : cmd.getSubCommand items = (none, rest)) :
    ¬ ((cmd.nodeAt (items.filter (·.length ≠ 0) ++ [option])).isSome = true ∨
      cmd.StationWord items n) := by
  rintro (hpath | ⟨pre, rest', node, rfl, hhead, -, hnode, hleaf, -⟩)
  · obtain ⟨last, hlast⟩ := Option.isSome_iff_exists.1 hpath
    obtain ⟨node, hnode, -⟩ := getSubCommand_of_nodeAt hlast
    cases hfound.symm.trans hnode
  · cases hfound.symm.trans (getSubCommand_of_leaf hnode hleaf hhead)

theorem not_stationWord_nil (hcmd : cmd.subCommands ≠ []) : ¬ cmd.StationWord [] n := by
  rintro ⟨pre, rest, node, hitems, -, -, hnode, hleaf, -⟩
  obtain ⟨rfl, rfl⟩ := List.append_eq_nil_iff.1 hitems.symm
  cases hnode
  exact hcmd hleaf

end CliCommand

theorem mem_completions_of_some {argIndex : Nat}
    (h : commandCompleter cmd argIndex line start = (some node, n)) :
    option ∈ completions controller cmd argIndex line start text ↔
      text <+: option ∧ option ∈ node.completionOptions controller n := by
  rw [completions, h]
  simp only [List.mem_filter, List.isPrefixOf_iff_prefix, and_comm]

theorem mem_completions {argIndex : Nat} (hcmd : cmd.subCommands ≠ []) :
    option ∈ completions controller cmd argIndex line start text ↔ text <+: option ∧
      ((cmd.nodeAt (inputArgv (line.take start) ++ [option])).isSome = true ∨
        cmd.StationWord (split (line.take start) ' ')
            (commandCompleter cmd argIndex line start).2 ∧
          ∃ es ∈ controller.endStationVec, entityIdStr es.entityId = option) := by
  rw [inputArgv_eq_filter]
  by_cases hstart : start = 0
  · have hcompleter : commandCompleter cmd argIndex line start = (some cmd, argIndex) := by
      rw [commandCompleter, if_pos hstart]
    have hsplit : split (line.take start) ' ' = [] := by
      rw [hstart, List.take_zero, split, if_pos rfl]
    rw [mem_completions_of_some hcompleter, hcompleter, hsplit, List.filter_nil,
      List.nil_append,
      CliCommand.mem_completionOptions, CliCommand.isSome_nodeAt_singleton]
    refine and_congr_right fun _ => or_congr_right ?_
    exact iff_of_false (fun h => hcmd h.1) fun h => CliCommand.not_stationWord_nil hcmd h.1
  · generalize hitems : split (line.take start) ' ' = items
    have hcompleter : commandCompleter cmd argIndex line start =
        ((cmd.getSubCommand items).1, (cmd.getSubCommand items).2.length) := by
      rw [commandCompleter, if_neg hstart, hitems]
    cases hfound : cmd.getSubCommand items with
    | mk found rest =>
      rw [hfound] at hcompleter
      cases found with
      | none =>
        rw [completions, hcompleter]
        refine iff_of_false List.not_mem_nil ?_
        rintro ⟨-, h⟩
        exact CliCommand.no_options_of_none hfound (h.imp_right And.left)
      | some node =>
        rw [mem_completions_of_some hcompleter, hcompleter]
        exact and_congr_right fun _ => CliCommand.mem_completionOptions_of_some hfound

theorem subCommands_cmdLineCommands : cmdLineCommands.subCommands ≠ [] := List.cons_ne_nil _ _

/-- For every line and every place in it the completion offers the words that begin with the
text and are either a name that leads on from where the words in front lead, or the identifier
of an end station at the place of an argument for one. -/
theorem completions_iff {argIndex : Nat} :
    option ∈ completions controller cmdLineCommands argIndex line start text ↔
      text <+: option ∧
        ((cmdLineCommands.nodeAt (inputArgv (line.take start) ++ [option])).isSome = true ∨
          cmdLineCommands.StationWord (split (line.take start) ' ')
              (commandCompleter cmdLineCommands argIndex line start).2 ∧
            ∃ es ∈ controller.endStationVec, entityIdStr es.entityId = option) :=
  mem_completions subCommands_cmdLineCommands

theorem digitValue_digitChar :
    ∀ d < 16, digitValue 16 (Nat.digitChar d) = some d := by
  decide

theorem digits_toDigits (n : Nat) (s : Token) :
    digits 16 (Nat.toDigits 16 n ++ s) none = digits 16 s (some n) := by
  induction n using Nat.strong_induction_on generalizing s with
  | h n ih =>
    rcases Nat.lt_or_ge n 16 with hlt | hle
    · rw [Nat.toDigits_of_lt_base hlt, List.singleton_append, digits,
        digitValue_digitChar n hlt]
      dsimp only [Option.getD_none]
      rw [Nat.zero_mul, Nat.zero_add]
    · have hdiv : n / 16 < n := Nat.div_lt_self (by omega) (by decide)
      rw [Nat.toDigits_of_base_le (by decide) hle, List.append_assoc, ih _ hdiv,
        List.singleton_append, digits, digitValue_digitChar _ (Nat.mod_lt n (by decide))]
      dsimp only [Option.getD_some]
      rw [Nat.div_add_mod']

theorem strtoull_entityIdStr (entityId : EntityId) :
    strtoull 16 (entityIdStr entityId) = some entityId := by
  have hdigits : digits 16 (Nat.toDigits 16 entityId.toNat) none = some entityId.toNat := by
    have hall := digits_toDigits entityId.toNat []
    rw [List.append_nil] at hall
    exact hall
  have hstrto : strto 16 (entityIdStr entityId) = some (false, entityId.toNat) := by
    rw [entityIdStr]
    cases hs : Nat.toDigits 16 entityId.toNat with
    | nil =>
      rw [hs] at hdigits
      cases hdigits
    | cons d s =>
      rw [hs] at hdigits
      have hd : (digitValue 16 d).isSome = true := by
        rw [digits] at hdigits
        split at hdigits
        · next hd =>
          rw [hd]
          rfl
        · cases hdigits
      change (if 16 = 16 ∧ ('x' = 'x' ∨ 'x' = 'X') ∧ (digitValue 16 d).isSome = true then
        (digits 16 (d :: s) none).map (false, ·) else _) = _
      rw [if_pos ⟨rfl, .inl rfl, hd⟩, hdigits]
      rfl
  rw [strtoull, hstrto, Option.map_some]
  dsimp only
  rw [if_neg (Nat.not_le.2 entityId.isLt), if_neg Bool.false_ne_true, BitVec.ofNat_toNat,
    BitVec.setWidth_eq]

theorem length_entityIdStr (entityId : EntityId) : (entityIdStr entityId).length < 20 := by
  have hlen : (Nat.toDigits 16 entityId.toNat).length ≤ 16 :=
    (Nat.length_toDigits_le_iff (by decide) (by decide)).2 entityId.isLt
  rw [entityIdStr, List.length_cons, List.length_cons]
  omega

namespace Controller
variable {mac : Mac} {tr tr' : List (Controller × Event)} {es es' : EndStation}
  {e : Event} {i : Nat}

theorem StationStep.entityId (h : StationStep c e es es') : es'.entityId = es.entityId := by
  cases h with
  | unchanged => rfl
  | rcvdDescriptor hr => exact entityId_eq_of_identity (EndStation.rcvdDescriptor_identity hr)
  | timeTick ht =>
    have hid := entityId_eq_of_identity (EndStation.timeTick_identity ht)
    exact hid
  | refreshed => rfl
  | reenumerated => rfl

/-- An end station keeps its place and its identifier in a run. -/
theorem run_entityId (h : Run Step c tr c') :
    Grows (fun es es' => es'.entityId = es.entityId) c.endStationVec c'.endStationVec := by
  have hrefl : Grows (fun es es' : EndStation => es'.entityId = es.entityId) c.endStationVec
      c.endStationVec := grows_refl fun _ => rfl
  induction h with
  | nil => exact hrefl
  | snoc _ hst ih =>
    exact ih.trans (fun _ _ _ h h' => h'.trans h)
      ((step_stations hst).mono fun _ _ hes => hes.entityId)

theorem isEndStationFoundByEntityId_of_run (h : Run Step (.new mac) tr c)
    (hes : c.endStationVec[i]? = some es) :
    c.isEndStationFoundByEntityId es.entityId = some i := by
  obtain ⟨s, -, hc⟩ := exists_coupled h
  obtain ⟨hi, rfl⟩ := List.getElem?_eq_some_iff.1 hes
  rw [isEndStationFoundByEntityId, List.findIdx?_eq_some_iff_getElem]
  refine ⟨hi, beq_self_eq_true _, ?_⟩
  intro j hj heq
  have hlen : i < c.ids.length := by
    rw [ids, List.length_map]
    exact hi
  apply List.nodup_iff_getElem?_ne_getElem?.1 hc.nodup j i hj hlen
  rw [ids, List.getElem?_map, List.getElem?_map, List.getElem?_eq_getElem (hj.trans hi),
    List.getElem?_eq_getElem hi]
  exact congrArg some (beq_iff_eq.1 heq)

/-- The identifier that is printed for an end station names it at any later time. -/
theorem getEndStationIndex_of_run (h : Run Step (.new mac) tr c) (h' : Run Step c tr' c')
    (hes : c.endStationVec[i]? = some es) :
    getEndStationIndex c' (entityIdStr es.entityId) = some (BitVec.ofNat 32 i) := by
  obtain ⟨es', hes', hid⟩ := run_entityId h' i es hes
  have hfound := isEndStationFoundByEntityId_of_run (h.append h') hes'
  rw [hid] at hfound
  simp only [getEndStationIndex, strtoull_entityIdStr, hfound]

end Controller

namespace CommandTable

def single (a : CliArgument) : Bool := a.matchMin = 1 ∧ a.matchMax = 1

/-- No other command with formats is on the way to one with an argument for an end station, or
behind it. -/
theorem stations_apart : ∀ p ∈ CommandVar.listing 3 .commands,
    (p.2.formats.any fun f => f.args.any fun a => a.type = .endStation) = true →
      ∀ q ∈ CommandVar.listing 3 .commands, q.2.formats ≠ [] →
        p.1 <+: q.1 ∨ q.1 <+: p.1 → q = p := by
  decide +kernel

/-- All formats of the command have such an argument at the place, if they have one there,
behind arguments for one word each. -/
theorem stations_aligned : ∀ p ∈ CommandVar.listing 3 .commands, ∀ f ∈ p.2.formats,
    ∀ k < f.args.length, (f.args[k]?.map CliArgument.type) = some .endStation →
      ∀ g ∈ p.2.formats, (g.args.take (k + 1)).all single = true ∧
        (k < g.args.length → (g.args[k]?.map CliArgument.type) = some .endStation) := by
  decide +kernel

end CommandTable

/-- Where a format of the table has arguments for one word each up to the place of a word, it
has one there, and that holds the word. -/
theorem holds_at {v : CommandVar} {f : TableFormat} {path ts us : List Token} {t : Token}
    {inv : Invocation} (hlisted : (path, v) ∈ CommandVar.listing 3 .commands)
    (hf : f ∈ v.formats)
    (hone : (f.args.take (ts.length + 1)).all CommandTable.single = true)
    (hrun : f.toFormat.runCommand controller (ts ++ t :: us) = some inv) :
    ∃ a value, f.args[ts.length]? = some a ∧ a.parse controller t = some value ∧
      inv.args[ts.length]? = some { a with values := [value], isValid := true } := by
  have hbounded : ∀ a ∈ f.toFormat.args, a.Bounded := by
    intro a ha
    obtain ⟨hle, hmin, hmax⟩ := CommandTable.bounded _ hlisted f hf a ha
    exact ⟨hle, hmin, hmax⟩
  obtain ⟨groups, hsplits, hfilled, -⟩ := CliCommandFormat.runCommand_sound hbounded hrun
  have hsingle : groups[ts.length]? = some [t] := by
    apply hsplits.getElem?_single
    intro s hs
    rw [CliCommandFormat.slots, ← List.map_take, ← List.map_take, List.map_map] at hs
    obtain ⟨b, hb, rfl⟩ := List.mem_map.1 hs
    obtain ⟨hmin, hmax⟩ := of_decide_eq_true (List.all_eq_true.1 hone b hb)
    constructor
    · show b.matchMin.toNat - 0 = 1
      rw [hmin]
      rfl
    · show b.matchMax.toNat - 0 = 1
      rw [hmax]
      rfl
  obtain ⟨hgroups, hget⟩ := List.forall₂_iff_get.1 hsplits.holds
  obtain ⟨hlt, hgroup⟩ := List.getElem?_eq_some_iff.1 hsingle
  have hslot : ts.length < (f.toFormat.slots controller).length := hgroups ▸ hlt
  have hlen : ts.length < f.args.length := by
    rw [CliCommandFormat.slots, List.length_map, List.length_map] at hslot
    exact hslot
  have hholds : (f.args[ts.length].clear.slot controller).Holds [t] := by
    have hat := hget ts.length hslot hlt
    simp only [List.get_eq_getElem, hgroup, CliCommandFormat.slots, List.getElem_map] at hat
    exact hat
  have haccepts : (f.args[ts.length].parse controller t).isSome = true :=
    hholds.accepts t List.mem_cons_self
  obtain ⟨value, hvalue⟩ := Option.isSome_iff_exists.1 haccepts
  refine ⟨f.args[ts.length], value, List.getElem?_eq_getElem hlen, hvalue, ?_⟩
  have hclear : (f.toFormat.args.map CliArgument.clear)[ts.length]? =
      some f.args[ts.length].clear := by
    rw [List.getElem?_map]
    exact congrArg (Option.map CliArgument.clear) (List.getElem?_eq_getElem hlen)
  have hhold : f.args[ts.length].clear.hold controller [t] =
      { f.args[ts.length] with values := [value], isValid := true } :=
    (CliArgument.hold_cons (a := f.args[ts.length].clear) hvalue).trans
      (CliArgument.hold_nil controller _)
  rw [hfilled, CliCommandFormat.filled, List.getElem?_zipWith, hclear, hsingle]
  exact congrArg some hhold

/-- A line with a word at the place of an argument for an end station calls its function with
the index that the word stands for. -/
theorem argument_of_stationWord {call : LineCall} {us : List Token} {index : BitVec 32}
    (hword : cmdLineCommands.StationWord items n)
    (hcall : lineCall controller (items.filter (·.length ≠ 0) ++ option :: us) = some call)
    (hplace : (items.filter (·.length ≠ 0)).length = call.path.length + n)
    (hindex : getEndStationIndex controller option = some index) :
    ∃ a, call.args[n]? = some a ∧ a.getValueUint = .ok index := by
  obtain ⟨pre, rest, node, rfl, -, -, hnode, -, f', hf', b, hb, htype⟩ := hword
  obtain ⟨w, m, hreach, -, rfl⟩ := CommandVar.nodeAt_command CommandVar.within_commands hnode
  have hw := CommandVar.mem_listing CommandVar.within_commands hreach
  rw [CommandVar.formats_command] at hf'
  obtain ⟨f, hf, rfl⟩ := List.mem_map.1 hf'
  obtain ⟨c, -, v, g, hv, hg, -, hrun, htokens, rfl⟩ := exists_called hcall
  rw [List.filter_append, List.append_assoc] at htokens
  have hfront : c.path <+: pre.filter (·.length ≠ 0) ++
      (rest.filter (·.length ≠ 0) ++ option :: us) := by
    rw [htokens]
    exact List.prefix_append _ _
  have hcomparable := List.prefix_or_prefix_of_prefix (List.prefix_append _ _) hfront
  have hstation : (w.formats.any fun f => f.args.any fun a => a.type = .endStation) = true := by
    rw [List.any_eq_true]
    refine ⟨f, hf, List.any_eq_true.2 ⟨b, List.mem_of_getElem? hb, decide_eq_true htype⟩⟩
  have heq := CommandTable.stations_apart _ hw hstation _ hv (List.ne_nil_of_mem hg) hcomparable
  obtain ⟨hpath, rfl⟩ := Prod.mk.inj heq
  rw [hpath] at htokens hplace
  have hargs := List.append_cancel_left htokens
  have hlen : (rest.filter (·.length ≠ 0)).length = n := by
    rw [List.filter_append, List.length_append] at hplace
    exact Nat.add_left_cancel hplace
  rw [← hargs] at hrun
  have hk : n < f.args.length := (List.getElem?_eq_some_iff.1 hb).1
  have hkind : f.args[n]?.map CliArgument.type = some .endStation := by
    change f.args[n]? = some b at hb
    rw [hb, Option.map_some, htype]
  obtain ⟨hone, hsame⟩ := CommandTable.stations_aligned _ hw f hf n hk hkind g hg
  subst hlen
  obtain ⟨a, value, ha, hvalue, hheld⟩ := holds_at hw hg hone hrun
  have hatype := hsame (List.getElem?_eq_some_iff.1 ha).1
  rw [ha, Option.map_some, Option.some_inj] at hatype
  refine ⟨_, hheld, ?_⟩
  rw [CliArgument.parse, hatype] at hvalue
  dsimp only [CliArgument.endStationValue] at hvalue
  rw [hindex, Option.map_some, Option.some_inj] at hvalue
  rw [CliArgument.getValueUint, hatype, ← hvalue]
  rfl

namespace Controller

/-- What the completion offers for an argument stays the name of an end station: in every later
state that station is at its place, a line with the word calls its function with the index of
the place, and the word is in the buffer that it is printed to. -/
theorem completed_station {mac : Mac} {tr tr' : List (Controller × Event)} {argIndex : Nat}
    (h : Run Step (.new mac) tr c) (h' : Run Step c tr' c')
    (hoption : option ∈ completions c cmdLineCommands argIndex line start text)
    (hname : (cmdLineCommands.nodeAt (inputArgv (line.take start) ++ [option])).isSome =
      false) :
    ∃ i es es', c.endStationVec[i]? = some es ∧ option = entityIdStr es.entityId ∧
      option.length < 20 ∧ c'.endStationVec[i]? = some es' ∧ es'.entityId = es.entityId ∧
      ∀ us call, lineCall c' (inputArgv (line.take start) ++ option :: us) = some call →
        (inputArgv (line.take start)).length =
          call.path.length + (commandCompleter cmdLineCommands argIndex line start).2 →
        ∃ a, call.args[(commandCompleter cmdLineCommands argIndex line start).2]? = some a ∧
          a.getValueUint = .ok (BitVec.ofNat 32 i) := by
  obtain ⟨-, hpath | ⟨hword, es, hmem, rfl⟩⟩ :=
    (mem_completions subCommands_cmdLineCommands).1 hoption
  · rw [hname] at hpath
    cases hpath
  obtain ⟨i, hes⟩ := List.mem_iff_getElem?.1 hmem
  obtain ⟨es', hes', hid⟩ := run_entityId h' i es hes
  refine ⟨i, es, es', hes, rfl, length_entityIdStr _, hes', hid, ?_⟩
  intro us call hcall hplace
  rw [inputArgv_eq_filter] at hcall hplace
  exact argument_of_stationWord hword hcall hplace (getEndStationIndex_of_run h h' hes)

def selectLine : List Token := ["select".toList, "0x3".toList, "0".toList, "0".toList]

/-- The first of two end stations is completed. It is selected when the second one has come and
the first one is gone. -/
theorem completed_station_select :
    ∃ tr c tr' c', Run Step (.new 1) tr c ∧ Run Step c tr' c' ∧
      "0x3".toList ∈ completions c cmdLineCommands 0 "select ".toList 7 "0x".toList ∧
      c.endStationVec.length = 1 ∧ c'.endStationVec.length = 2 ∧
      ∃ (i : Nat) (es : EndStation), c.endStationVec[i]? = some es ∧
        "0x3".toList = entityIdStr es.entityId ∧
        ∃ call a, lineCall c' selectLine = some call ∧ call.args[0]? = some a ∧
          a.getValueUint = .ok (BitVec.ofNat 32 i) := by
  have htrial : trial handle (fun _ _ => true)
      (fun c => (c.endStationVec.any fun es => es.entityId == 3) &&
        c.endStationVec.length == 1 &&
        trial handle (fun _ _ => true)
          (fun c' => (lineCall c' selectLine).any (fun call =>
            call.path == ["select".toList]) &&
            c'.endStationVec.length == 2)
          c [.rxPacket 0 0 (.adp (advertisement 4 0)), .timeTick 2001])
      (.new 1) [.rxPacket 0 0 (.adp (advertisement 3 0))] = true := by decide +kernel
  obtain ⟨tr, c, hrun, -, hc⟩ := exists_run_of_trial (fun _ _ _ h => h) htrial
  obtain ⟨hc, htrial'⟩ := Bool.and_eq_true_iff.1 hc
  obtain ⟨hc, hone⟩ := Bool.and_eq_true_iff.1 hc
  obtain ⟨tr', c', hrun', -, hc'⟩ := exists_run_of_trial (fun _ _ _ h => h) htrial'
  obtain ⟨hc', htwo⟩ := Bool.and_eq_true_iff.1 hc'
  obtain ⟨call, hcall, hpath⟩ := (Option.any_eq_true _ _).1 hc'
  obtain ⟨es, hes, hid⟩ := List.any_eq_true.1 hc
  have hsplit : split ("select ".toList.take 7) ' ' = ["select".toList] := by
    rw [split_of_some (n := 6) (by decide)]
    refine congrArg _ ?_
    rw [split, if_pos (by decide)]
  have hcompleter : commandCompleter cmdLineCommands 0 "select ".toList 7 =
      ((cmdLineCommands.getSubCommand ["select".toList]).1,
        (cmdLineCommands.getSubCommand ["select".toList]).2.length) := by
    rw [commandCompleter, if_neg (by decide), hsplit]
  have hoption :
    "0x3".toList ∈ completions c cmdLineCommands 0 "select ".toList 7 "0x".toList := by
    rw [mem_completions subCommands_cmdLineCommands, hsplit, hcompleter]
    refine ⟨by decide, .inr ⟨?_, es, hes, ?_⟩⟩
    · exact ⟨["select".toList], [], _, rfl, (nomatch ·), rfl, rfl, rfl, _,
        List.mem_cons_self, _,
        rfl, rfl⟩
    · rw [beq_iff_eq.1 hid]
      decide
  have hargv : inputArgv ("select ".toList.take 7) = ["select".toList] := by
    rw [inputArgv_eq_filter, hsplit]
    rfl
  have hname : (cmdLineCommands.nodeAt
      (inputArgv ("select ".toList.take 7) ++ ["0x3".toList])).isSome = false := by
    rw [hargv]
    rfl
  obtain ⟨i, es, es', hi, hes', -, -, -, hline⟩ :=
    completed_station hrun hrun' hoption hname
  have hplace : (inputArgv ("select ".toList.take 7)).length = call.path.length +
      (commandCompleter cmdLineCommands 0 "select ".toList 7).2 := by
    rw [hargv, hcompleter, beq_iff_eq.1 hpath]
    rfl
  rw [hargv] at hline
  obtain ⟨a, ha, hvalue⟩ := hline ["0".toList, "0".toList] call hcall (hargv ▸ hplace)
  rw [hcompleter] at ha
  exact ⟨tr, c, tr', c', hrun, hrun', hoption, beq_iff_eq.1 hone, beq_iff_eq.1 htwo, i, es, hi,
    hes', call, a, hcall, ha, hvalue⟩

end Controller

end

end AvdeccLib
