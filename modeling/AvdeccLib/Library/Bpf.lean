import AvdeccLib.Library.BigEndian

namespace Bpf
set_option autoImplicit true
open BigEndian

abbrev Word := BitVec 32

/-- `struct sock_filter` -/
structure SockFilter where
  code : BitVec 16
  jt : BitVec 8
  jf : BitVec 8
  k : Word
  deriving DecidableEq

/-- A jump counts the instructions that it leaves out. -/
inductive Insn where
  | ld (width pos : Nat)
  | alu (f : Word → Word → Word) (k : Word)
  | jump (test : Word → Word → Bool) (k : Word) (jt jf : Nat)
  | ret (k : Word)

/-- The instructions without an index register: loads from a fixed position, and operations,
tests and results with a constant. -/
def SockFilter.decode (i : SockFilter) : Option Insn :=
  if i.code = 0x20 then some (.ld 4 i.k.toNat)
  else if i.code = 0x28 then some (.ld 2 i.k.toNat)
  else if i.code = 0x30 then some (.ld 1 i.k.toNat)
  else if i.code = 0x44 then some (.alu (· ||| ·) i.k)
  else if i.code = 0x54 then some (.alu (· &&& ·) i.k)
  else if i.code = 0x15 then some (.jump (· == ·) i.k i.jt.toNat i.jf.toNat)
  else if i.code = 0x25 then some (.jump (fun a k => k < a) i.k i.jt.toNat i.jf.toNat)
  else if i.code = 0x35 then some (.jump (fun a k => k ≤ a) i.k i.jt.toNat i.jf.toNat)
  else if i.code = 0x45 then some (.jump (fun a k => a &&& k != 0) i.k i.jt.toNat i.jf.toNat)
  else if i.code = 0x06 then some (.ret i.k)
  else none

section
variable (packet : List Byte)

/-- The program behind `skip` more instructions, with the accumulator. A load from outside of
the packet ends the program with 0. Without a return there is no result. -/
def exec : List Insn → Nat → Word → Option Word
  | [], _, _ => none
  | _ :: rest, skip + 1, a => exec rest skip a
  | .ld width pos :: rest, 0, _ =>
    if pos + width ≤ packet.length then exec rest 0 ((get width pos packet).setWidth 32)
    else some 0
  | .alu f k :: rest, 0, a => exec rest 0 (f a k)
  | .jump test k jt jf :: rest, 0, a => exec rest (if test a k then jt else jf) a
  | .ret k :: _, 0, _ => some k

/-- A program from its start. -/
def run (code : List SockFilter) : Option Word :=
  (code.mapM SockFilter.decode).bind fun program => exec packet program 0 0

/-- A socket gets the packets for which its program returns a length other than 0. -/
def accepts (code : List SockFilter) : Bool :=
  match run packet code with
  | some length => length != 0
  | none => false

end

/-- The instructions that may follow, by how many are left out. -/
def Insn.next : Insn → List Nat
  | ld _ _ | alu _ _ => [0]
  | jump _ _ jt jf => [jt, jf]
  | ret _ => []

/-- No instruction leads behind the end of the program. -/
def Checked : List Insn → Prop
  | [] => True
  | i :: rest => (∀ n ∈ i.next, n < rest.length) ∧ Checked rest

/-- A checked program returns on every packet. -/
theorem exec_isSome (packet : List Byte) {program : List Insn}
    (h : Checked program) {skip : Nat}
    (hskip : skip < program.length) (a : Word) : ∃ k, exec packet program skip a = some k := by
  induction program generalizing skip a with
  | nil => cases hskip
  | cons i rest ih =>
    obtain ⟨hnext, hrest⟩ := h
    cases skip with
    | succ skip => exact ih hrest (Nat.lt_of_succ_lt_succ hskip) a
    | zero =>
      cases i with
      | ld width pos =>
        rw [exec]
        split
        · exact ih hrest (hnext 0 List.mem_cons_self) _
        · exact ⟨0, rfl⟩
      | alu f k => exact ih hrest (hnext 0 List.mem_cons_self) _
      | jump test k jt jf =>
        rw [exec]
        split
        · exact ih hrest (hnext jt List.mem_cons_self) a
        · exact ih hrest (hnext jf (List.mem_cons_of_mem jt List.mem_cons_self)) a
      | ret k => exact ⟨k, rfl⟩

/-- What a program returns is a constant of one of its returns, or 0. -/
theorem mem_of_exec {packet : List Byte} {program : List Insn} {skip : Nat} {a k : Word}
    (h : exec packet program skip a = some k) : k = 0 ∨ Insn.ret k ∈ program := by
  induction program generalizing skip a with
  | nil => cases h
  | cons i rest ih =>
    have hrest : ∀ {skip : Nat} {a : Word}, exec packet rest skip a = some k →
        k = 0 ∨ Insn.ret k ∈ i :: rest :=
      fun h => (ih h).imp_right (List.mem_cons_of_mem i)
    cases skip with
    | succ skip => exact hrest h
    | zero =>
      cases i with
      | ld width pos =>
        rw [exec] at h
        split at h
        · exact hrest h
        · cases h
          exact .inl rfl
      | alu f c => exact hrest h
      | jump test c jt jf => exact hrest h
      | ret c =>
        cases h
        exact .inr List.mem_cons_self

end Bpf
