import AvdeccLib.CliCommandFormat

namespace AvdeccLib
set_option autoImplicit true

/-- A command of the tree: `m_sub_commands` by name and `m_formats` in order. -/
inductive CliCommand where
  | mk (subCommands : List (Token × CliCommand)) (formats : List CliCommandFormat)

/-- The call of an action: the names that lead to the command, what is in the queue then, and
the format that the action is of. -/
structure Called where
  path : List Token
  args : List Token
  format : CliCommandFormat
  invocation : Invocation

/-- What `run_command` returns, the actions called on the way, and the names in the prefix that
help was printed with. -/
structure CommandResult where
  handled : Bool
  called : List Called
  help : Option (List Token)

namespace CliCommand

def subCommands : CliCommand → List (Token × CliCommand)
  | mk subCommands _ => subCommands

def formats : CliCommand → List CliCommandFormat
  | mk _ formats => formats

def new : CliCommand := mk [] []

/-- `m_sub_commands.find`. -/
def findSubCommand (cmd : CliCommand) (name : Token) : Option CliCommand :=
  cmd.subCommands.lookup name

/-- `none` is the assertion that the name is a new one. -/
def addSubCommand (cmd : CliCommand) (name : Token) (sub : CliCommand) : Option CliCommand :=
  if (cmd.findSubCommand name).isSome then none
  else some (mk (cmd.subCommands ++ [(name, sub)]) cmd.formats)

def addFormat (cmd : CliCommand) (format : CliCommandFormat) : CliCommand :=
  mk cmd.subCommands (cmd.formats ++ [format])

/-- The trees that the two members build. -/
inductive Built : CliCommand → Prop where
  | new : Built new
  | addSubCommand (hcmd : Built cmd) (hsub : Built sub)
      (h : cmd.addSubCommand name sub = some cmd') : Built cmd'
  | addFormat (h : Built cmd) : Built (cmd.addFormat format)

theorem Built.nodup {cmd : CliCommand} (h : Built cmd) :
    (cmd.subCommands.map Prod.fst).Nodup := by
  induction h with
  | new => exact List.nodup_nil
  | @addSubCommand cmd sub name cmd' hcmd hsub h ihcmd ihsub =>
    rw [CliCommand.addSubCommand] at h
    split at h
    · cases h
    · next hnew =>
      cases h
      show ((cmd.subCommands ++ [(name, sub)]).map Prod.fst).Nodup
      rw [List.map_append, List.nodup_append]
      refine ⟨ihcmd, List.nodup_singleton name, ?_⟩
      intro n hn n' hn' heq
      obtain ⟨entry, hentry, hname⟩ := List.mem_map.1 hn
      rw [heq, List.mem_singleton.1 hn'] at hname
      exact hnew (List.lookup_isSome_iff.2 ⟨entry, hentry, beq_iff_eq.2 hname.symm⟩)
  | addFormat h ih => exact ih

/-- The first format that takes the queue. -/
def firstCall (controller : Controller) (args path : List Token) :
    List CliCommandFormat → Option Called
  | [] => none
  | f :: fs =>
    match f.runCommand controller args with
    | some inv => some ⟨path, args, f, inv⟩
    | none => firstCall controller args path fs

/-- The part of `run_command` behind the sub-commands. -/
def runFormats (controller : Controller) (cmd : CliCommand) (args path names : List Token) :
    CommandResult :=
  match firstCall controller args path cmd.formats with
  | some call => ⟨true, [call], none⟩
  | none =>
    if cmd.formats ≠ [] then ⟨true, [], some names⟩ else ⟨false, [], none⟩

/-- The queue is passed by value, but this command has taken the name of the sub-command from
its own copy by then, and has it in its own prefix. -/
def runCommand (controller : Controller) (cmd : CliCommand) (args path : List Token) :
    CommandResult :=
  match args with
  | [] => cmd.runFormats controller [] path path
  | name :: args =>
    match cmd.findSubCommand name with
    | some sub =>
      let r := runCommand controller sub args (path ++ [name])
      if r.handled then r
      else
        let own := cmd.runFormats controller args path (path ++ [name])
        { own with called := r.called ++ own.called }
    | none => cmd.runFormats controller (name :: args) path path

/-- The command that the names lead to. -/
def nodeAt (cmd : CliCommand) : List Token → Option CliCommand
  | [] => some cmd
  | name :: path =>
    match cmd.findSubCommand name with
    | some sub => nodeAt sub path
    | none => none

/-- No command that a part of the tokens leads to has formats. -/
def Silent (cmd : CliCommand) (tokens : List Token) : Prop :=
  ∀ path rest node, tokens = path ++ rest → cmd.nodeAt path = some node → node.formats = []

/-- One of the formats takes the tokens. -/
def Takes (controller : Controller) (cmd : CliCommand) (tokens : List Token) : Prop :=
  ∃ f ∈ cmd.formats, (f.runCommand controller tokens).isSome = true

/-- The tokens lead into a sub-command where no format is on the way, and the command they come
from takes what is behind the name of the sub-command. -/
def DropsName (controller : Controller) (cmd : CliCommand) (tokens : List Token) : Prop :=
  ∃ path name rest node sub, tokens = path ++ name :: rest ∧ cmd.nodeAt path = some node ∧
    node.findSubCommand name = some sub ∧ sub.Silent rest ∧ node.Takes controller rest

/-- At most one action is called, of a format of the command that the path leads to, and the
tokens are the path and those that the format has matched. -/
structure Exact (controller : Controller) (cmd : CliCommand) (tokens : List Token)
    (r : CommandResult) : Prop where
  once : r.called.length ≤ 1
  tokens : ∀ call ∈ r.called, ∃ node, cmd.nodeAt call.path = some node ∧
    call.format ∈ node.formats ∧ call.format.Matches controller call.args call.invocation ∧
    tokens = call.path ++ call.args

section
variable {controller : Controller} {cmd sub node : CliCommand} {name : Token}
  {args path names tokens rest : List Token} {call : Called} {fs : List CliCommandFormat}

theorem firstCall_some (h : firstCall controller args path fs = some call) :
    call.path = path ∧ call.args = args ∧ call.format ∈ fs ∧
      call.format.runCommand controller args = some call.invocation := by
  induction fs with
  | nil => cases h
  | cons f fs ih =>
    rw [firstCall] at h
    cases hrun : f.runCommand controller args with
    | some inv =>
      rw [hrun] at h
      cases h
      exact ⟨rfl, rfl, List.mem_cons_self, hrun⟩
    | none =>
      rw [hrun] at h
      obtain ⟨hpath, hargs, hmem, hinv⟩ := ih h
      exact ⟨hpath, hargs, List.mem_cons_of_mem f hmem, hinv⟩

theorem firstCall_none (h : firstCall controller args path fs = none) :
    ∀ f ∈ fs, f.runCommand controller args = none := by
  induction fs with
  | nil =>
    intro f hf
    cases hf
  | cons g fs ih =>
    rw [firstCall] at h
    cases hrun : g.runCommand controller args with
    | some inv =>
      rw [hrun] at h
      cases h
    | none =>
      rw [hrun] at h
      intro f hf
      rcases List.mem_cons.1 hf with rfl | hf
      · exact hrun
      · exact ih h f hf

theorem runFormats_handled :
    (cmd.runFormats controller args path names).handled = false ↔ cmd.formats = [] := by
  rw [runFormats]
  split
  · next hcall =>
    constructor
    · intro h
      cases h
    · intro h
      rw [h] at hcall
      cases hcall
  · split
    · next hne => exact ⟨(nomatch ·), (absurd · hne)⟩
    · next hempty => exact ⟨fun _ => not_not.1 hempty, fun _ => rfl⟩

theorem runFormats_once : (cmd.runFormats controller args path names).called.length ≤ 1 := by
  rw [runFormats]
  split
  · exact Nat.le_refl 1
  · split <;> exact Nat.zero_le 1

theorem mem_runFormats (h : call ∈ (cmd.runFormats controller args path names).called) :
    call.path = path ∧ call.args = args ∧ call.format ∈ cmd.formats ∧
      call.format.runCommand controller args = some call.invocation := by
  rw [runFormats] at h
  split at h
  · next hcall =>
    rw [List.mem_singleton.1 h]
    exact firstCall_some hcall
  · split at h <;> cases h

theorem exists_mem_runFormats (h : cmd.Takes controller args) :
    ∃ call ∈ (cmd.runFormats controller args path names).called,
      call.path = path ∧ call.args = args := by
  obtain ⟨f, hf, hsome⟩ := h
  rw [runFormats]
  split
  · next call hcall =>
    obtain ⟨hpath, hargs, -⟩ := firstCall_some hcall
    exact ⟨call, List.mem_singleton_self call, hpath, hargs⟩
  · next hcall =>
    rw [firstCall_none hcall f hf] at hsome
    cases hsome

theorem silent_nil : cmd.Silent [] ↔ cmd.formats = [] := by
  constructor
  · intro h
    exact h [] [] cmd rfl rfl
  · intro h path rest node htokens hnode
    obtain ⟨rfl, -⟩ := List.append_eq_nil_iff.1 htokens.symm
    cases hnode
    exact h

theorem silent_cons_none (hfind : cmd.findSubCommand name = none) :
    cmd.Silent (name :: tokens) ↔ cmd.formats = [] := by
  constructor
  · intro h
    exact h [] (name :: tokens) cmd rfl rfl
  · intro h path rest node htokens hnode
    cases path with
    | nil =>
      cases hnode
      exact h
    | cons n path =>
      cases htokens
      rw [nodeAt, hfind] at hnode
      cases hnode

theorem silent_cons_some (hfind : cmd.findSubCommand name = some sub) :
    cmd.Silent (name :: tokens) ↔ cmd.formats = [] ∧ sub.Silent tokens := by
  constructor
  · intro h
    refine ⟨h [] (name :: tokens) cmd rfl rfl, ?_⟩
    intro path rest node htokens hnode
    apply h (name :: path) rest node (congrArg (name :: ·) htokens)
    rw [nodeAt, hfind]
    exact hnode
  · rintro ⟨hcmd, hsub⟩ path rest node htokens hnode
    cases path with
    | nil =>
      cases hnode
      exact hcmd
    | cons n path =>
      cases htokens
      rw [nodeAt, hfind] at hnode
      exact hsub path rest node rfl hnode

theorem runCommand_nil (controller : Controller) (cmd : CliCommand) (path : List Token) :
    cmd.runCommand controller [] path = cmd.runFormats controller [] path path := by
  rw [runCommand]

theorem runCommand_cons_none (hfind : cmd.findSubCommand name = none) :
    cmd.runCommand controller (name :: tokens) path =
      cmd.runFormats controller (name :: tokens) path path := by
  rw [runCommand, hfind]

theorem runCommand_handled : (cmd.runCommand controller tokens path).handled = false ↔
    cmd.Silent tokens := by
  induction tokens generalizing cmd path with
  | nil => rw [runCommand_nil, runFormats_handled, silent_nil]
  | cons name tokens ih =>
    cases hfind : cmd.findSubCommand name with
    | none => rw [runCommand_cons_none hfind, runFormats_handled, silent_cons_none hfind]
    | some sub =>
      rw [runCommand, hfind, silent_cons_some hfind]
      have ihsub := @ih sub (path ++ [name])
      cases hrun : (sub.runCommand controller tokens (path ++ [name])).handled with
      | true =>
        have hsilent : ¬ sub.Silent tokens := by
          intro h
          rw [ihsub.2 h] at hrun
          cases hrun
        simp only [hrun, if_true]
        exact ⟨(nomatch ·), fun h => absurd h.2 hsilent⟩
      | false =>
        simp only [hrun, Bool.false_eq_true, if_false]
        rw [runFormats_handled]
        exact ⟨fun h => ⟨h, ihsub.1 hrun⟩, And.left⟩

theorem called_of_silent (h : cmd.Silent tokens) :
    (cmd.runCommand controller tokens path).called = [] := by
  induction tokens generalizing cmd path with
  | nil =>
    rw [runCommand_nil, runFormats, silent_nil.1 h]
    rfl
  | cons name tokens ih =>
    cases hfind : cmd.findSubCommand name with
    | none =>
      rw [runCommand_cons_none hfind, runFormats, (silent_cons_none hfind).1 h]
      rfl
    | some sub =>
      obtain ⟨hcmd, hsub⟩ := (silent_cons_some hfind).1 h
      rw [runCommand, hfind]
      simp only [runCommand_handled.2 hsub, ih hsub, Bool.false_eq_true, if_false,
        List.nil_append]
      rw [runFormats, hcmd]
      rfl

/-- Where the name leads to a sub-command, either that one handles the rest, or there is nothing
on the way from it and the formats of this command have the rest without the name. -/
theorem runCommand_cons_some (controller : Controller) (tokens path : List Token)
    (hfind : cmd.findSubCommand name = some sub) :
    (¬ sub.Silent tokens ∧ cmd.runCommand controller (name :: tokens) path =
      sub.runCommand controller tokens (path ++ [name])) ∨
    (sub.Silent tokens ∧ cmd.runCommand controller (name :: tokens) path =
      cmd.runFormats controller tokens path (path ++ [name])) := by
  rw [runCommand, hfind]
  by_cases h : sub.Silent tokens
  · right
    refine ⟨h, ?_⟩
    simp only [runCommand_handled.2 h, called_of_silent h, Bool.false_eq_true, if_false,
      List.nil_append]
  · left
    refine ⟨h, if_pos ?_⟩
    rw [← Bool.not_eq_false]
    exact mt runCommand_handled.1 h

theorem runCommand_once : (cmd.runCommand controller tokens path).called.length ≤ 1 := by
  induction tokens generalizing cmd path with
  | nil =>
    rw [runCommand_nil]
    exact runFormats_once
  | cons name tokens ih =>
    cases hfind : cmd.findSubCommand name with
    | none =>
      rw [runCommand_cons_none hfind]
      exact runFormats_once
    | some sub =>
      rcases runCommand_cons_some controller tokens path hfind with ⟨-, h⟩ | ⟨-, h⟩
      · rw [h]
        exact ih
      · rw [h]
        exact runFormats_once

/-- A call made on the way from the command, `path` being the names that lead to it: it is made
with all the tokens behind the path, or without the name that leads on from there. -/
def Made (controller : Controller) (cmd : CliCommand) (path tokens : List Token)
    (call : Called) : Prop :=
  ∃ p node, call.path = path ++ p ∧ cmd.nodeAt p = some node ∧ call.format ∈ node.formats ∧
    call.format.runCommand controller call.args = some call.invocation ∧
    (tokens = p ++ call.args ∨ ∃ name sub, tokens = p ++ name :: call.args ∧
      node.findSubCommand name = some sub ∧ sub.Silent call.args)

theorem made_here (h : call ∈ (cmd.runFormats controller args path names).called)
    (htokens : tokens = args ∨ ∃ name sub, tokens = name :: args ∧
      cmd.findSubCommand name = some sub ∧ sub.Silent args) :
    cmd.Made controller path tokens call := by
  obtain ⟨hpath, hargs, hmem, hinv⟩ := mem_runFormats h
  subst hargs
  exact ⟨[], cmd, by rw [hpath, List.append_nil], rfl, hmem, hinv, htokens⟩

theorem Made.up (hfind : cmd.findSubCommand name = some sub)
    (h : sub.Made controller (path ++ [name]) tokens call) :
    cmd.Made controller path (name :: tokens) call := by
  obtain ⟨p, node, hpath, hnode, hmem, hinv, htokens⟩ := h
  refine ⟨name :: p, node, ?_, ?_, hmem, hinv, ?_⟩
  · rw [hpath, List.append_assoc, List.singleton_append]
  · rw [nodeAt, hfind]
    exact hnode
  · rcases htokens with htokens | ⟨name', sub', htokens, hsub'⟩
    · exact .inl (congrArg (name :: ·) htokens)
    · exact .inr ⟨name', sub', congrArg (name :: ·) htokens, hsub'⟩

theorem made_of_mem (h : call ∈ (cmd.runCommand controller tokens path).called) :
    cmd.Made controller path tokens call := by
  induction tokens generalizing cmd path with
  | nil =>
    rw [runCommand_nil] at h
    exact made_here h (.inl rfl)
  | cons name tokens ih =>
    cases hfind : cmd.findSubCommand name with
    | none =>
      rw [runCommand_cons_none hfind] at h
      exact made_here h (.inl rfl)
    | some sub =>
      rcases runCommand_cons_some controller tokens path hfind with ⟨-, hrun⟩ | ⟨hsilent, hrun⟩
      · rw [hrun] at h
        exact (ih h).up hfind
      · rw [hrun] at h
        exact made_here h (.inr ⟨name, sub, rfl, hfind, hsilent⟩)

theorem exists_mem_of_dropsName {sub' : CliCommand} (hnode : cmd.nodeAt names = some node)
    (hfind : node.findSubCommand name = some sub') (hsilent : sub'.Silent rest)
    (htakes : node.Takes controller rest) :
    ∃ call ∈ (cmd.runCommand controller (names ++ name :: rest) path).called,
      call.path = path ++ names ∧ call.args = rest := by
  induction names generalizing cmd path with
  | nil =>
    cases hnode
    rcases runCommand_cons_some controller rest path hfind with ⟨h, -⟩ | ⟨-, h⟩
    · exact absurd hsilent h
    · rw [List.nil_append, List.append_nil, h]
      exact exists_mem_runFormats htakes
  | cons n names ih =>
    rw [nodeAt] at hnode
    cases hn : cmd.findSubCommand n with
    | none =>
      rw [hn] at hnode
      cases hnode
    | some sub =>
      rw [hn] at hnode
      rcases runCommand_cons_some controller (names ++ name :: rest) path
        hn with ⟨-, h⟩ | ⟨h, -⟩
      · rw [List.cons_append, h]
        obtain ⟨call, hmem, hpath, hargs⟩ := ih hnode
        refine ⟨call, hmem, ?_, hargs⟩
        rw [hpath, List.append_assoc, List.singleton_append]
      · have hempty := h names (name :: rest) node rfl hnode
        obtain ⟨f, hf, -⟩ := htakes
        rw [hempty] at hf
        cases hf

theorem not_exact_of_dropsName (h : cmd.DropsName controller tokens) :
    ¬ cmd.Exact controller tokens (cmd.runCommand controller tokens []) := by
  rintro ⟨-, hexact⟩
  obtain ⟨path, name, rest, node, sub, rfl, hnode, hfind, hsilent, htakes⟩ := h
  obtain ⟨call, hmem, hpath, hargs⟩ := exists_mem_of_dropsName hnode hfind hsilent htakes
  obtain ⟨_, -, -, -, htokens⟩ := hexact call hmem
  rw [hpath, hargs, List.nil_append] at htokens
  have hcons : name :: rest = rest := List.append_cancel_left htokens
  exact List.cons_ne_self name rest hcons

end

/-- Whatever the tree and the tokens: no token is lost unless a name leads to where no format is
and the formats of the command in front of it take what is behind the name. -/
theorem run_command_exact_iff (controller : Controller) (cmd : CliCommand)
    (tokens : List Token) :
    cmd.Exact controller tokens (cmd.runCommand controller tokens []) ↔
      ¬ cmd.DropsName controller tokens := by
  constructor
  · intro hexact hdrops
    exact not_exact_of_dropsName hdrops hexact
  · intro hdrops
    constructor
    · exact runCommand_once
    · intro call hmem
      obtain ⟨p, node, hpath, hnode, hformat, hinv, htokens⟩ := made_of_mem hmem
      rw [List.nil_append] at hpath
      rcases htokens with htokens | ⟨name, sub, htokens, hfind, hsilent⟩
      · exact ⟨node, hpath ▸ hnode, hformat, CliCommandFormat.runCommand_matches hinv,
          hpath ▸ htokens⟩
      · have htakes : node.Takes controller call.args :=
          ⟨call.format, hformat, Option.isSome_of_eq_some hinv⟩
        exact absurd ⟨p, name, call.args, node, sub, htokens, hnode, hfind, hsilent,
          htakes⟩ hdrops

/-- A command with a format that takes any strings, and a sub-command that has nothing in it. -/
def withEmptySub : CliCommand := mk [(['a'], new)] [CliCommandFormat.strings]

theorem withEmptySub_built : Built withEmptySub := by
  have hformat : Built (new.addFormat CliCommandFormat.strings) := .addFormat .new
  have hadd : (new.addFormat CliCommandFormat.strings).addSubCommand ['a'] new =
    some withEmptySub :=
    rfl
  exact .addSubCommand hformat .new hadd

/-- The format takes the second token, and the first one is lost. -/
theorem name_dropped :
    ¬ ∀ (controller : Controller) (cmd : CliCommand) (tokens : List Token), Built cmd →
      cmd.Exact controller tokens (cmd.runCommand controller tokens []) := by
  intro h
  obtain ⟨inv, hinv, -⟩ := CliCommandFormat.runCommand_strings (n := 1) (by decide)
  have htakes : withEmptySub.Takes (.new 0) [['a']] :=
    ⟨CliCommandFormat.strings, List.mem_singleton_self _, Option.isSome_of_eq_some hinv⟩
  apply not_exact_of_dropsName _ (h (.new 0) withEmptySub [['a'], ['a']] withEmptySub_built)
  exact ⟨[], ['a'], [['a']], withEmptySub, new, rfl, rfl, rfl,
    (silent_cons_none rfl).2 rfl, htakes⟩

end CliCommand
end AvdeccLib
