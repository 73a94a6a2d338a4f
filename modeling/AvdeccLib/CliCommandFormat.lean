import AvdeccLib.Controller
import AvdeccLib.Library.GreedySplit
import Mathlib.Algebra.GroupWithZero.Nat

namespace AvdeccLib
set_option autoImplicit true

open GreedySplit

/-- A `std::string`. -/
abbrev Token := List Char

def isSpace (c : Char) : Bool := c == ' ' || 9 ≤ c.toNat && c.toNat ≤ 13

def digitValue (base : Nat) (c : Char) : Option Nat :=
  let value :=
    if '0' ≤ c ∧ c ≤ '9' then some (c.toNat - '0'.toNat)
    else if 'a' ≤ c ∧ c ≤ 'z' then some (c.toNat - 'a'.toNat + 10)
    else if 'A' ≤ c ∧ c ≤ 'Z' then some (c.toNat - 'A'.toNat + 10)
    else none
  value.filter (· < base)

/-- The value of the digits at the front of the string. -/
def digits (base : Nat) : Token → Option Nat → Option Nat
  | [], acc => acc
  | c :: s, acc =>
    match digitValue base c with
    | some d => digits base s (some (acc.getD 0 * base + d))
    | none => acc

/-- What the `strto` functions convert: whitespace, a sign, the prefix of base 16, digits.
`none` is that nothing was converted. -/
def strto (base : Nat) (s : Token) : Option (Bool × Nat) :=
  let unsigned (negative : Bool) (s : Token) :=
    match s with
    | '0' :: x :: d :: s =>
      if base = 16 ∧ (x = 'x' ∨ x = 'X') ∧ (digitValue base d).isSome then
        (digits base (d :: s) none).map (negative, ·)
      else (digits base ('0' :: x :: d :: s) none).map (negative, ·)
    | s => (digits base s none).map (negative, ·)
  match s.dropWhile isSpace with
  | '-' :: s => unsigned true s
  | '+' :: s => unsigned false s
  | s => unsigned false s

/-- `strtoull`, and `strtoul` where it has 64 bits. -/
def strtoull (base : Nat) (s : Token) : Option (BitVec 64) :=
  (strto base s).map fun (negative, n) =>
    if 2 ^ 64 ≤ n then BitVec.allOnes 64
    else if negative then -BitVec.ofNat 64 n else BitVec.ofNat 64 n

/-- `atoi`, as the low half of what `strtol` returns. -/
def atoi (s : Token) : BitVec 32 :=
  match strto 10 s with
  | some (true, n) => -BitVec.ofNat 32 (min n (2 ^ 63))
  | some (false, n) => BitVec.ofNat 32 (min n (2 ^ 63 - 1))
  | none => 0

/-- `cmd_line::get_end_station_index`. -/
def getEndStationIndex (controller : Controller) (arg : Token) : Option (BitVec 32) :=
  let index := (strtoull 10 arg).map (·.setWidth 32)
  match strtoull 16 arg with
  | some entityId =>
    match controller.isEndStationFoundByEntityId entityId with
    | some i => some (BitVec.ofNat 32 i)
    | none => index
  | none => index

inductive ArgumentType where
  | int
  | endStation
  | string
  deriving DecidableEq

inductive ArgumentValue where
  | int (value : BitVec 32)
  | uint (value : BitVec 32)
  | str (value : Token)
  deriving DecidableEq

/-- `cli_argument` with the members of its three subclasses. -/
structure CliArgument where
  type : ArgumentType
  matchMin : BitVec 64
  matchMax : BitVec 64
  values : List ArgumentValue
  isValid : Bool
  deriving DecidableEq

namespace CliArgument

def clear (a : CliArgument) : CliArgument := { a with values := [], isValid := false }

def getAllValueCount (a : CliArgument) : Nat := a.values.length

def pushBack (a : CliArgument) (v : ArgumentValue) : CliArgument :=
  { a with values := a.values ++ [v], isValid := true }

/-- What the three `set_value` functions have in common. `none` is the result false. -/
def setWith (a : CliArgument) (value : Option ArgumentValue) : Option CliArgument :=
  if a.values.length < a.matchMax.toNat then value.map a.pushBack else none

def intValue (s : Token) : Option ArgumentValue :=
  let value := atoi s
  if s = ['0'] ∨ value ≠ 0 then some (.int value) else none

def endStationValue (controller : Controller) (s : Token) : Option ArgumentValue :=
  (getEndStationIndex controller s).map .uint

def stringValue (s : Token) : Option ArgumentValue :=
  if 0 < s.length then some (.str s) else none

/-- What the argument makes of a token that it accepts. -/
def parse (controller : Controller) (a : CliArgument) : Token → Option ArgumentValue :=
  match a.type with
  | .int => intValue
  | .endStation => endStationValue controller
  | .string => stringValue

def setValue (controller : Controller) (a : CliArgument) (s : Token) : Option CliArgument :=
  match a.type with
  | .int => a.setWith (intValue s)
  | .endStation => a.setWith (endStationValue controller s)
  | .string => a.setWith (stringValue s)

theorem setValue_eq (controller : Controller) (a : CliArgument) (s : Token) :
    a.setValue controller s = a.setWith (a.parse controller s) := by
  rw [setValue, parse]
  cases a.type <;> rfl

end CliArgument

/-- A member function of `cmd_line`, as what it returns. -/
abbrev CliFptr := BitVec 32 → List CliArgument → Int

structure CliCommandFormat where
  args : List CliArgument
  action : Option CliFptr

/-- A call of the action: its two arguments, and whether it returned something other than 0. -/
structure Invocation where
  totalMatched : BitVec 32
  args : List CliArgument
  done : Bool
  deriving DecidableEq

/-- Where the loop over the tokens ends: the arguments in front of `m_i` and from it on, and the
tokens that are left. -/
structure MatchEnd where
  before : List CliArgument
  rest : List CliArgument
  tokens : List Token
  argsOk : Bool
  totalMatched : BitVec 32

/-- Nothing is left over but arguments that are optional. -/
def MatchEnd.accepted (e : MatchEnd) : Bool :=
  e.argsOk && e.tokens.isEmpty && e.rest.all fun a => a.matchMin.toNat ≤ a.getAllValueCount

namespace CliCommandFormat

/-- The loop over the tokens. The counters are `int` and go through the bounds of an argument as
`int` as well, where `UINT_MAX` is -1. -/
def matchArgs (controller : Controller) (before rest : List CliArgument) (tokens : List Token)
    (matchCount totalMatched : BitVec 32) : MatchEnd :=
  match tokens, rest with
  | [], rest => ⟨before, rest, [], true, totalMatched⟩
  | tokens, [] => ⟨before, [], tokens, true, totalMatched⟩
  | t :: ts, a :: as =>
    let matchMax := a.matchMax.setWidth 32
    let matchMin := a.matchMin.setWidth 32
    match a.setValue controller t with
    | some a' =>
      if matchMax ≠ uintMax ∧ matchMax.sle (matchCount + 1) then
        matchArgs controller (before ++ [a']) as ts 0 (totalMatched + 1)
      else matchArgs controller before (a' :: as) ts (matchCount + 1) (totalMatched + 1)
    | none =>
      if matchMin.sle matchCount then
        matchArgs controller (before ++ [a]) as (t :: ts) 0 totalMatched
      else ⟨before, a :: as, t :: ts, false, totalMatched⟩
termination_by tokens.length + rest.length

/-- `none` is the result false, where no action was called. -/
def runCommand (controller : Controller) (f : CliCommandFormat) (tokens : List Token) :
    Option Invocation :=
  let e := matchArgs controller [] (f.args.map CliArgument.clear) tokens 0 0
  match e.accepted, f.action with
  | true, some action =>
    let args := e.before ++ e.rest
    some ⟨e.totalMatched, args, action e.totalMatched args != 0⟩
  | _, _ => none

end CliCommandFormat

namespace CliArgument

/-- The bounds that a format may be built with: `UINT_MAX` stands for no upper bound. -/
structure Bounded (a : CliArgument) : Prop where
  le : a.matchMin ≤ a.matchMax
  min : a.matchMin.toNat < 2 ^ 31
  max : a.matchMax.toNat < 2 ^ 31 ∨ a.matchMax.toNat = 2 ^ 32 - 1

/-- The place for tokens that is left in the argument. -/
def slot (controller : Controller) (a : CliArgument) : Slot Token where
  accepts t := (a.parse controller t).isSome
  min := a.matchMin.toNat - a.values.length
  max := a.matchMax.toNat - a.values.length

/-- The argument with the values of the tokens. -/
def hold (controller : Controller) (a : CliArgument) (g : List Token) : CliArgument :=
  { a with
    values := a.values ++ g.filterMap (a.parse controller)
    isValid := a.isValid || !g.isEmpty }

section
variable {controller : Controller} {a a' : CliArgument} {t : Token} {g : List Token} {n : Nat}
  {v : ArgumentValue}

theorem setValue_some (h : a.setValue controller t = some a') :
    a.values.length < a.matchMax.toNat ∧
      ∃ v, a.parse controller t = some v ∧ a' = a.pushBack v := by
  rw [setValue_eq, setWith] at h
  split at h
  · next hlt =>
    obtain ⟨v, hv, rfl⟩ := Option.map_eq_some_iff.1 h
    exact ⟨hlt, v, hv, rfl⟩
  · cases h

theorem setValue_none (h : a.setValue controller t = none) :
    (a.slot controller).take (t :: ts) = [] := by
  rw [setValue_eq, setWith] at h
  split at h
  · have hparse := Option.map_eq_none_iff.1 h
    apply Slot.take_of_not_accepts
    show (a.parse controller t).isSome = false
    rw [hparse]
    rfl
  · next hlt =>
    apply Slot.take_of_max
    show a.matchMax.toNat - a.values.length = 0
    omega

theorem slot_pushBack (v : ArgumentValue) :
    (a.pushBack v).slot controller = (a.slot controller).rest := by
  simp only [slot, Slot.rest, pushBack, List.length_append, List.length_singleton, Nat.sub_sub]
  rfl

theorem slot_min_eq_zero : (a.slot controller).min = 0 ↔ a.matchMin.toNat ≤ a.values.length :=
  Nat.sub_eq_zero_iff_le

theorem hold_nil (controller : Controller) (a : CliArgument) : a.hold controller [] = a := by
  simp only [hold, List.filterMap_nil, List.append_nil, List.isEmpty_nil, Bool.not_true,
    Bool.or_false]

theorem hold_cons (h : a.parse controller t = some v) :
    a.hold controller (t :: g) = (a.pushBack v).hold controller g := by
  have hparse : (a.pushBack v).parse controller = a.parse controller := rfl
  simp only [hold, List.filterMap_cons, h, hparse]
  simp [pushBack]

/-- A bound as an `int` against a count as an `int`, which wraps around. -/
theorem le_of_sle {m : BitVec 64} (hm : m.toNat < 2 ^ 31)
    (h : (m.setWidth 32).sle (BitVec.ofNat 32 n) = true) : m.toNat ≤ n := by
  rw [BitVec.sle_eq_decide, decide_eq_true_iff, BitVec.toInt_eq_toNat_cond,
    BitVec.toInt_eq_toNat_cond, BitVec.toNat_setWidth, BitVec.toNat_ofNat] at h
  split at h <;> split at h <;> omega

theorem sle_of_le {m : BitVec 64} (hn : n < 2 ^ 31) (h : m.toNat ≤ n) :
    (m.setWidth 32).sle (BitVec.ofNat 32 n) = true := by
  rw [BitVec.sle_eq_decide, decide_eq_true_iff, BitVec.toInt_eq_toNat_cond,
    BitVec.toInt_eq_toNat_cond, BitVec.toNat_setWidth, BitVec.toNat_ofNat]
  split <;> split <;> omega

end
end CliArgument

namespace CliCommandFormat

/-- The counter is that of the first argument, and the ones behind it are empty. -/
structure Filling (rest : List CliArgument) (matchCount : BitVec 32) : Prop where
  bounded : ∀ a ∈ rest, a.Bounded
  room : ∀ a ∈ rest, a.values.length ≤ a.matchMax.toNat
  head : ∀ a as, rest = a :: as → matchCount = BitVec.ofNat 32 a.values.length ∧
    ∀ b ∈ as, b.values = []

section
variable {controller : Controller} {a : CliArgument} {as rest before : List CliArgument}
  {tokens : List Token} {matchCount totalMatched : BitVec 32}

theorem Filling.tail (h : Filling (a :: as) matchCount) : Filling as 0 := by
  constructor
  · intro b hb
    exact h.bounded b (List.mem_cons_of_mem a hb)
  · intro b hb
    exact h.room b (List.mem_cons_of_mem a hb)
  · rintro b bs rfl
    obtain ⟨-, hempty⟩ := h.head a _ rfl
    constructor
    · rw [hempty b List.mem_cons_self]
      rfl
    · intro b' hb'
      exact hempty b' (List.mem_cons_of_mem b hb')

/-- The end of the loop and the split that takes all it can: an accepted end is that split, and
the split is accepted if no counter on the way wraps around. -/
structure Finds (controller : Controller) (before rest : List CliArgument) (tokens : List Token)
    (totalMatched : BitVec 32) (e : MatchEnd) : Prop where
  sound : e.accepted = true → ∃ gs,
    greedy (rest.map (CliArgument.slot controller)) tokens = some gs ∧
      e.before ++ e.rest = before ++ List.zipWith (CliArgument.hold controller) rest gs ∧
      e.totalMatched = totalMatched + BitVec.ofNat 32 tokens.length
  complete : (∀ a ∈ rest.dropLast, a.matchMax.toNat < 2 ^ 31) →
    (greedy (rest.map (CliArgument.slot controller)) tokens).isSome = true → e.accepted = true

theorem mem_dropLast_cons {b : CliArgument} (h : b ∈ as.dropLast) : b ∈ (a :: as).dropLast := by
  cases as with
  | nil => cases h
  | cons c as => exact List.mem_cons_of_mem a h

theorem Finds.push {v : ArgumentValue} {e : MatchEnd} {t : Token} {ts : List Token}
    (hparse : a.parse controller t = some v) (hlt : a.values.length < a.matchMax.toNat)
    (h : Finds controller before (a.pushBack v :: as) ts (totalMatched + 1) e) :
    Finds controller before (a :: as) (t :: ts) totalMatched e := by
  have haccepts : (a.slot controller).accepts t = true := by
    show (a.parse controller t).isSome = true
    rw [hparse]
    rfl
  have hgreedy := greedy_accept (as.map (CliArgument.slot controller)) ts haccepts
    (Nat.sub_pos_of_lt hlt)
  rw [← CliArgument.slot_pushBack v] at hgreedy
  constructor
  · intro hacc
    obtain ⟨gs, hgs, hargs, htotal⟩ := h.sound hacc
    rw [List.map_cons] at hgs
    refine ⟨consHead t gs, ?_, ?_, ?_⟩
    · rw [List.map_cons, hgreedy, hgs]
      rfl
    · have hlen := (splits_of_greedy hgs).holds
      cases hlen with
      | cons => rw [hargs, consHead, List.zipWith_cons_cons, List.zipWith_cons_cons,
          CliArgument.hold_cons hparse]
    · rw [htotal, List.length_cons, BitVec.add_assoc, BitVec.ofNat_add, BitVec.add_comm 1]
      rfl
  · intro hmax hsome
    apply h.complete
    · intro b hb
      cases as with
      | nil => cases hb
      | cons c as =>
        rcases List.mem_cons.1 hb with rfl | hb
        · exact hmax a List.mem_cons_self
        · exact hmax b (List.mem_cons_of_mem a hb)
    · rw [List.map_cons, hgreedy, Option.isSome_map] at hsome
      exact hsome

theorem Finds.pass {e : MatchEnd} (htake : (a.slot controller).take tokens = [])
    (hmin : a.matchMin.toNat ≤ a.values.length)
    (h : Finds controller (before ++ [a]) as tokens totalMatched e) :
    Finds controller before (a :: as) tokens totalMatched e := by
  have hgreedy := greedy_pass (as.map (CliArgument.slot controller)) htake
  rw [if_pos (CliArgument.slot_min_eq_zero.2 hmin)] at hgreedy
  constructor
  · intro hacc
    obtain ⟨gs, hgs, hargs, htotal⟩ := h.sound hacc
    refine ⟨[] :: gs, ?_, ?_, htotal⟩
    · rw [List.map_cons, hgreedy, hgs]
      rfl
    · rw [hargs, List.zipWith_cons_cons, CliArgument.hold_nil, List.append_assoc]
      rfl
  · intro hmax hsome
    apply h.complete
    · intro b hb
      exact hmax b (mem_dropLast_cons hb)
    · rw [List.map_cons, hgreedy, Option.isSome_map] at hsome
      exact hsome

theorem greedy_of_no_tokens (controller : Controller) (rest : List CliArgument) :
    greedy (rest.map (CliArgument.slot controller)) [] =
      if rest.all fun a => a.matchMin.toNat ≤ a.getAllValueCount then
        some (rest.map fun _ => [])
      else none := by
  induction rest with
  | nil => rfl
  | cons a as ih =>
    rw [List.map_cons, greedy_pass _ (Slot.take_nil _), ih, List.all_cons]
    by_cases hmin : a.matchMin.toNat ≤ a.values.length
    · rw [if_pos (CliArgument.slot_min_eq_zero.2 hmin), CliArgument.getAllValueCount,
        decide_eq_true hmin, Bool.true_and]
      split <;> rfl
    · rw [if_neg fun h => hmin (CliArgument.slot_min_eq_zero.1 h), CliArgument.getAllValueCount,
        decide_eq_false hmin, Bool.false_and, if_neg Bool.false_ne_true]

theorem zipWith_hold_nil (controller : Controller) (rest : List CliArgument) :
    List.zipWith (CliArgument.hold controller) rest (rest.map fun _ => []) = rest := by
  induction rest with
  | nil => rfl
  | cons a as ih => rw [List.map_cons, List.zipWith_cons_cons, CliArgument.hold_nil, ih]

theorem ofNat_succ (n : Nat) : BitVec.ofNat 32 n + 1 = BitVec.ofNat 32 (n + 1) := by
  rw [BitVec.ofNat_add]
  rfl

theorem Filling.push (h : Filling (a :: as) matchCount) (v : ArgumentValue)
    (hlt : a.values.length < a.matchMax.toNat) :
    Filling (a.pushBack v :: as) (matchCount + 1) := by
  have hlength : (a.pushBack v).values.length = a.values.length + 1 := List.length_append
  constructor
  · intro b hb
    rcases List.mem_cons.1 hb with rfl | hb
    · have ha := h.bounded a List.mem_cons_self
      exact ⟨ha.le, ha.min, ha.max⟩
    · exact h.bounded b (List.mem_cons_of_mem a hb)
  · intro b hb
    rcases List.mem_cons.1 hb with rfl | hb
    · rw [hlength]
      exact hlt
    · exact h.room b (List.mem_cons_of_mem a hb)
  · intro b bs hb
    cases hb
    obtain ⟨hcount, hempty⟩ := h.head a as rfl
    rw [hlength, hcount, ofNat_succ]
    exact ⟨rfl, hempty⟩

theorem Filling.full (h : Filling (a :: as) matchCount)
    (hfull : a.matchMax.setWidth 32 ≠ uintMax ∧
      (a.matchMax.setWidth 32).sle (matchCount + 1) = true) :
    a.matchMax.toNat ≤ a.values.length + 1 := by
  rcases (h.bounded a List.mem_cons_self).max with hmax | hmax
  · obtain ⟨hcount, -⟩ := h.head a as rfl
    rw [hcount, ofNat_succ] at hfull
    exact CliArgument.le_of_sle hmax hfull.2
  · have huint : a.matchMax.setWidth 32 = uintMax := by
      apply BitVec.eq_of_toNat_eq
      rw [BitVec.toNat_setWidth, hmax]
      rfl
    exact absurd huint hfull.1

theorem finds_no_tokens (controller : Controller) (before rest : List CliArgument)
    (totalMatched : BitVec 32) :
    Finds controller before rest [] totalMatched ⟨before, rest, [], true, totalMatched⟩ := by
  have hgreedy := greedy_of_no_tokens controller rest
  constructor
  · intro hacc
    have hall : (rest.all fun a => a.matchMin.toNat ≤ a.getAllValueCount) = true := hacc
    rw [if_pos hall] at hgreedy
    refine ⟨_, hgreedy, ?_, (BitVec.add_zero _).symm⟩
    rw [zipWith_hold_nil]
  · intro _ hsome
    rw [hgreedy] at hsome
    split at hsome
    · next hall => exact hall
    · cases hsome

theorem Filling.stuck {t : Token} {ts : List Token} (h : Filling (a :: as) matchCount)
    (hset : a.setValue controller t = none)
    (hmin : ¬ (a.matchMin.setWidth 32).sle matchCount = true) :
    Finds controller before (a :: as) (t :: ts) totalMatched
      ⟨before, a :: as, t :: ts, false, totalMatched⟩ := by
  constructor
  · intro hacc
    cases hacc
  · intro hmax hsome
    rw [List.map_cons, greedy_pass _ (CliArgument.setValue_none hset)] at hsome
    split at hsome
    · next hzero =>
      cases as with
      | nil => cases hsome
      | cons b as =>
        obtain ⟨hcount, -⟩ := h.head a _ rfl
        have hroom := h.room a List.mem_cons_self
        have hlt := hmax a List.mem_cons_self
        rw [hcount] at hmin
        exact absurd (CliArgument.sle_of_le (hroom.trans_lt hlt)
          (CliArgument.slot_min_eq_zero.1 hzero)) hmin
    · cases hsome

theorem matchArgs_finds (h : Filling rest matchCount) :
    Finds controller before rest tokens totalMatched
      (matchArgs controller before rest tokens matchCount totalMatched) := by
  fun_induction matchArgs controller before rest tokens matchCount totalMatched with
  | case1 before matchCount totalMatched rest =>
    exact finds_no_tokens controller before rest totalMatched
  | case2 before matchCount totalMatched tokens hne =>
    cases tokens with
    | nil => exact absurd rfl hne
    | cons t ts =>
      constructor
      · intro hacc
        cases hacc
      · intro _ hsome
        cases hsome
  | case3 before matchCount totalMatched t ts a as matchMax a' hset hfull ih =>
    obtain ⟨hlt, v, hparse, rfl⟩ := CliArgument.setValue_some hset
    apply Finds.push hparse hlt
    have hmax := h.full hfull
    apply Finds.pass _ _ (ih h.tail)
    · apply Slot.take_of_max
      show a.matchMax.toNat - (a.values ++ [v]).length = 0
      rw [List.length_append, List.length_singleton]
      omega
    · have hle : a.matchMin.toNat ≤ a.matchMax.toNat := (h.bounded a List.mem_cons_self).le
      show a.matchMin.toNat ≤ (a.values ++ [v]).length
      rw [List.length_append, List.length_singleton]
      omega
  | case4 before matchCount totalMatched t ts a as matchMax a' hset hfull ih =>
    obtain ⟨hlt, v, hparse, rfl⟩ := CliArgument.setValue_some hset
    apply Finds.push hparse hlt
    exact ih (h.push v hlt)
  | case5 before matchCount totalMatched t ts a as matchMin hset hmin ih =>
    apply Finds.pass (CliArgument.setValue_none hset) _ (ih h.tail)
    obtain ⟨hcount, -⟩ := h.head a as rfl
    rw [hcount] at hmin
    exact CliArgument.le_of_sle (h.bounded a List.mem_cons_self).min hmin
  | case6 before matchCount totalMatched t ts a as matchMin hset hmin => exact h.stuck hset hmin

/-- The tokens in groups of one for each argument, every token in the group of an argument that
accepts it. -/
def Groups (controller : Controller) (args : List CliArgument) (gs : List (List Token)) :
    Prop :=
  List.Forall₂ (fun a g => ∀ t ∈ g, (a.parse controller t).isSome = true) args gs

theorem groups_nil (controller : Controller) (args : List CliArgument) :
    Groups controller args (args.map fun _ => []) := by
  induction args with
  | nil => exact .nil
  | cons a as ih =>
    apply List.Forall₂.cons _ ih
    intro t ht
    cases ht

theorem Groups.push {v : ArgumentValue} {t : Token} {g : List Token} {gs : List (List Token)}
    (hparse : a.parse controller t = some v)
    (h : Groups controller (a.pushBack v :: as) (g :: gs)) :
    Groups controller (a :: as) ((t :: g) :: gs) := by
  cases h with
  | cons hg hgs =>
    apply List.Forall₂.cons _ hgs
    intro t' ht'
    rcases List.mem_cons.1 ht' with rfl | ht'
    · exact Option.isSome_of_eq_some hparse
    · exact hg t' ht'

/-- The tokens that the loop has passed are in the arguments, in order, each token once. -/
theorem matchArgs_groups (controller : Controller) (before rest : List CliArgument)
    (tokens : List Token) (matchCount totalMatched : BitVec 32) :
    let e := matchArgs controller before rest tokens matchCount totalMatched
    ∃ gs, Groups controller rest gs ∧
      e.before ++ e.rest = before ++ List.zipWith (CliArgument.hold controller) rest gs ∧
      gs.flatten ++ e.tokens = tokens := by
  fun_induction matchArgs controller before rest tokens matchCount totalMatched with
  | case1 before matchCount totalMatched rest =>
    refine ⟨rest.map fun _ => [], groups_nil controller rest, ?_, ?_⟩
    · rw [zipWith_hold_nil]
    · rw [List.append_nil, List.map_const', List.flatten_replicate_nil]
  | case2 before matchCount totalMatched tokens hne => exact ⟨[], .nil, rfl, rfl⟩
  | case3 before matchCount totalMatched t ts a as matchMax a' hset hfull ih =>
    obtain ⟨-, v, hparse, rfl⟩ := CliArgument.setValue_some hset
    obtain ⟨gs, hgs, hargs, htokens⟩ := ih
    refine ⟨[t] :: gs, Groups.push hparse (.cons (fun _ ht => nomatch ht) hgs), ?_, ?_⟩
    · rw [hargs, List.zipWith_cons_cons, CliArgument.hold_cons hparse, CliArgument.hold_nil,
        List.append_assoc, List.singleton_append]
    · rw [List.flatten_cons, List.append_assoc, htokens, List.singleton_append]
  | case4 before matchCount totalMatched t ts a as matchMax a' hset hfull ih =>
    obtain ⟨-, v, hparse, rfl⟩ := CliArgument.setValue_some hset
    obtain ⟨_ | ⟨g, gs⟩, hgs, hargs, htokens⟩ := ih
    · cases hgs
    · refine ⟨(t :: g) :: gs, Groups.push hparse hgs, ?_, ?_⟩
      · rw [hargs, List.zipWith_cons_cons, List.zipWith_cons_cons, CliArgument.hold_cons hparse]
      · exact congrArg (t :: ·) htokens
  | case5 before matchCount totalMatched t ts a as matchMin hset hmin ih =>
    obtain ⟨gs, hgs, hargs, htokens⟩ := ih
    refine ⟨[] :: gs, .cons (fun t ht => nomatch ht) hgs, ?_, htokens⟩
    rw [hargs, List.zipWith_cons_cons, CliArgument.hold_nil, List.append_assoc,
      List.singleton_append]
  | case6 before matchCount totalMatched t ts a as matchMin hset hmin =>
    refine ⟨(a :: as).map fun _ => [], groups_nil controller _, ?_, ?_⟩
    · rw [zipWith_hold_nil]
    · rw [List.map_const', List.flatten_replicate_nil, List.nil_append]

variable {f : CliCommandFormat}

/-- What each argument of the format takes. -/
def slots (controller : Controller) (f : CliCommandFormat) : List (Slot Token) :=
  (f.args.map CliArgument.clear).map (CliArgument.slot controller)

/-- The arguments with the values of a group of tokens each. -/
def filled (controller : Controller) (f : CliCommandFormat) (groups : List (List Token)) :
    List CliArgument :=
  List.zipWith (CliArgument.hold controller) (f.args.map CliArgument.clear) groups

/-- The arguments of the call hold exactly the tokens. -/
def Matches (controller : Controller) (f : CliCommandFormat) (tokens : List Token)
    (inv : Invocation) : Prop :=
  ∃ groups, Groups controller (f.args.map CliArgument.clear) groups ∧
    inv.args = f.filled controller groups ∧ groups.flatten = tokens

theorem runCommand_matches {inv : Invocation} (h : f.runCommand controller tokens = some inv) :
    f.Matches controller tokens inv := by
  rw [runCommand] at h
  split at h
  · next action hacc haction =>
    cases h
    obtain ⟨gs, hgs, hargs, htokens⟩ :=
      matchArgs_groups controller [] (f.args.map CliArgument.clear) tokens 0 0
    rw [MatchEnd.accepted, Bool.and_eq_true, Bool.and_eq_true, List.isEmpty_iff] at hacc
    rw [hacc.1.2, List.append_nil] at htokens
    exact ⟨gs, hgs, hargs, htokens⟩
  · cases h

theorem runCommand_finds (controller : Controller) (hargs : ∀ a ∈ f.args, a.Bounded)
    (tokens : List Token) :
    Finds controller [] (f.args.map CliArgument.clear) tokens 0
      (matchArgs controller [] (f.args.map CliArgument.clear) tokens 0 0) := by
  apply matchArgs_finds
  constructor
  · intro b hb
    obtain ⟨a, ha, rfl⟩ := List.mem_map.1 hb
    have hbounded := hargs a ha
    exact ⟨hbounded.le, hbounded.min, hbounded.max⟩
  · intro b hb
    obtain ⟨a, ha, rfl⟩ := List.mem_map.1 hb
    exact Nat.zero_le _
  · intro b bs hb
    have hempty : ∀ b' ∈ f.args.map CliArgument.clear, b'.values = [] := by
      intro b' hb'
      obtain ⟨a, -, rfl⟩ := List.mem_map.1 hb'
      rfl
    rw [hb] at hempty
    rw [hempty b List.mem_cons_self]
    exact ⟨rfl, fun b' hb' => hempty b' (List.mem_cons_of_mem b hb')⟩

theorem runCommand_sound (hargs : ∀ a ∈ f.args, a.Bounded) {inv : Invocation}
    (h : f.runCommand controller tokens = some inv) :
    ∃ groups, Splits (f.slots controller) groups tokens ∧
      inv.args = f.filled controller groups ∧
      inv.totalMatched = BitVec.ofNat 32 tokens.length := by
  rw [runCommand] at h
  split at h
  · next action hacc haction =>
    cases h
    obtain ⟨gs, hgs, hfilled, htotal⟩ := (runCommand_finds controller hargs tokens).sound hacc
    exact ⟨gs, splits_of_greedy hgs, hfilled, htotal.trans (BitVec.zero_add _)⟩
  · cases h

theorem slots_dropLast {P : Slot Token → Prop}
    (h : ∀ a ∈ f.args.dropLast, P (a.clear.slot controller)) :
    ∀ s ∈ (f.slots controller).dropLast, P s := by
  intro s hs
  rw [slots, List.map_map, ← List.map_dropLast] at hs
  obtain ⟨a, ha, rfl⟩ := List.mem_map.1 hs
  exact h a ha

theorem runCommand_complete (hargs : ∀ a ∈ f.args, a.Bounded) (haction : f.action.isSome)
    (hfixed : ∀ a ∈ f.args.dropLast, a.matchMin = a.matchMax) {groups : List (List Token)}
    (h : Splits (f.slots controller) groups tokens) :
    (f.runCommand controller tokens).isSome ∧
      ∀ groups', Splits (f.slots controller) groups' tokens → groups' = groups := by
  have hslots : ∀ s ∈ (f.slots controller).dropLast, s.min = s.max := by
    apply slots_dropLast
    intro a ha
    show a.matchMin.toNat - 0 = a.matchMax.toNat - 0
    rw [hfixed a ha]
  constructor
  · have hmax : ∀ b ∈ (f.args.map CliArgument.clear).dropLast, b.matchMax.toNat < 2 ^ 31 := by
      intro b hb
      rw [← List.map_dropLast] at hb
      obtain ⟨a, ha, rfl⟩ := List.mem_map.1 hb
      show a.matchMax.toNat < 2 ^ 31
      rw [← hfixed a ha]
      exact (hargs a (List.dropLast_subset _ ha)).min
    have hgreedy := greedy_of_splits hslots h
    have hacc := (runCommand_finds controller hargs tokens).complete hmax
      (Option.isSome_of_eq_some hgreedy)
    obtain ⟨action, haction⟩ := Option.isSome_iff_exists.1 haction
    rw [runCommand, hacc, haction]
    rfl
  · intro groups' h'
    exact splits_unique hslots h h'

/-- Whatever the tokens, an action is called only with a split of all of them over the
arguments, and where no argument but the last has a choice, it is called if there is a split,
and that is the only one. `total_matched` is the number of tokens, as an `int`. -/
theorem run_command_splits (hargs : ∀ a ∈ f.args, a.Bounded) (haction : f.action.isSome)
    (tokens : List Token) :
    (∀ inv, f.runCommand controller tokens = some inv → ∃ groups,
      Splits (f.slots controller) groups tokens ∧ inv.args = f.filled controller groups ∧
        inv.totalMatched = BitVec.ofNat 32 tokens.length ∧
        (tokens.length < 2 ^ 31 → inv.totalMatched.toInt = tokens.length)) ∧
    ((∀ a ∈ f.args.dropLast, a.matchMin = a.matchMax) →
      ∀ groups, Splits (f.slots controller) groups tokens →
        (f.runCommand controller tokens).isSome ∧
          ∀ groups', Splits (f.slots controller) groups' tokens → groups' = groups) ∧
    ((¬ ∃ groups, Splits (f.slots controller) groups tokens) →
      f.runCommand controller tokens = none) := by
  refine ⟨?_, ?_, ?_⟩
  · intro inv hinv
    obtain ⟨groups, hsplits, hfilled, htotal⟩ := runCommand_sound hargs hinv
    refine ⟨groups, hsplits, hfilled, htotal, fun hlt => ?_⟩
    rw [htotal, BitVec.toInt_eq_toNat_of_lt, BitVec.toNat_ofNat, Nat.mod_eq_of_lt (by omega)]
    rw [BitVec.toNat_ofNat]
    omega
  · intro hfixed groups hsplits
    exact runCommand_complete hargs haction hfixed hsplits
  · intro hnone
    cases h : f.runCommand controller tokens with
    | none => rfl
    | some inv =>
      obtain ⟨groups, hsplits, -⟩ := runCommand_sound hargs h
      exact absurd ⟨groups, hsplits⟩ hnone

end

def argument (type : ArgumentType) (matchMin matchMax : BitVec 64) : CliArgument :=
  ⟨type, matchMin, matchMax, [], false⟩

/-- An index and any number of flags. -/
def indexAndFlags : CliCommandFormat :=
  { args := [argument .int 1 1, argument .string 0 0xffffffff]
    action := some fun _ _ => 0 }

theorem run_command_splits_flags :
    (indexAndFlags.runCommand (.new 0) [['7'], ['a'], ['b', '0']]).isSome ∧
      ∀ groups', Splits (indexAndFlags.slots (.new 0)) groups' [['7'], ['a'], ['b', '0']] →
        groups' = [[['7']], [['a'], ['b', '0']]] := by
  have hargs : ∀ a ∈ indexAndFlags.args, a.Bounded := by
    intro a ha
    rcases List.mem_cons.1 ha with rfl | ha
    · exact ⟨by decide, by decide, .inl (by decide)⟩
    · rw [List.mem_singleton.1 ha]
      exact ⟨by decide, by decide, .inr rfl⟩
  have hfixed : ∀ a ∈ indexAndFlags.args.dropLast, a.matchMin = a.matchMax := by decide
  have hsplits : Splits (indexAndFlags.slots (.new 0)) [[['7']], [['a'], ['b', '0']]]
      [['7'], ['a'], ['b', '0']] := by
    constructor
    · apply List.Forall₂.cons ⟨by decide, by decide, by decide⟩
      exact .cons ⟨by decide, by decide, by decide⟩ .nil
    · rfl
  obtain ⟨-, hcomplete, -⟩ := run_command_splits hargs rfl [['7'], ['a'], ['b', '0']]
  exact hcomplete hfixed _ hsplits

/-- One argument that takes any number of strings. -/
def strings : CliCommandFormat :=
  { args := [argument .string 0 0xffffffff]
    action := some fun _ _ => 0 }

theorem strings_bounded : ∀ a ∈ strings.args, a.Bounded := by
  intro a ha
  rw [List.mem_singleton.1 ha]
  exact ⟨by decide, by decide, .inr rfl⟩

theorem runCommand_strings {n : Nat} (hn : n < 2 ^ 32) :
    ∃ inv, strings.runCommand (.new 0) (List.replicate n ['a']) = some inv ∧
      inv.totalMatched = BitVec.ofNat 32 n := by
  have hsplits : Splits (strings.slots (.new 0)) [List.replicate n ['a']]
      (List.replicate n ['a']) := by
    constructor
    · apply List.Forall₂.cons _ .nil
      constructor
      · intro t ht
        rw [List.eq_of_mem_replicate ht]
        rfl
      · exact Nat.zero_le _
      · rw [List.length_replicate]
        exact Nat.le_of_lt_succ hn
    · exact List.append_nil _
  have hfixed : ∀ a ∈ strings.args.dropLast, a.matchMin = a.matchMax := by
    intro a ha
    cases ha
  obtain ⟨hsome, -⟩ := runCommand_complete strings_bounded rfl hfixed hsplits
  obtain ⟨inv, hinv⟩ := Option.isSome_iff_exists.1 hsome
  obtain ⟨_, -, -, htotal⟩ := runCommand_sound strings_bounded hinv
  rw [List.length_replicate] at htotal
  exact ⟨inv, hinv, htotal⟩

/-- `total_matched` is an `int`: with 2147483648 tokens it is not their number. -/
theorem total_not_count :
    ¬ ∀ (controller : Controller) (f : CliCommandFormat) (tokens : List Token)
        (inv : Invocation),
      (∀ a ∈ f.args, a.Bounded) → f.runCommand controller tokens = some inv →
      inv.totalMatched.toInt = tokens.length := by
  intro h
  obtain ⟨inv, hinv, htotal⟩ := runCommand_strings (n := 2 ^ 31) (by decide)
  have hcount := h _ _ _ inv strings_bounded hinv
  rw [htotal, List.length_replicate] at hcount
  exact absurd hcount (by decide)

end CliCommandFormat
end AvdeccLib
