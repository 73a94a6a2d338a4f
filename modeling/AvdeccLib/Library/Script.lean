import AvdeccLib.Library.Runs

namespace Scripts
set_option autoImplicit true

/-- The program of a client: a call of an operation with the rest of the program for each reply,
the end with a result, or an error. -/
inductive Script (Op : Type) (Reply : Op → Type) (ε α : Type) where
  | done (a : α)
  | fail (e : ε)
  | call (op : Op) (next : Reply op → Script Op Reply ε α)

/-- When an operation may be called, what it may reply and where the reply leads, and with which
errors a program may fail. -/
structure Protocol (Op : Type) (Reply : Op → Type) (ε κ : Type) where
  allows : κ → Op → Prop
  next : κ → (op : Op) → Reply op → κ
  replies : κ → (op : Op) → Reply op → Prop := fun _ _ _ => True
  fails : κ → ε → Prop := fun _ _ => True

/-- The protocols of several programs, with a tag for each. -/
def Protocol.tagged {Op : Type} {Reply : Op → Type} {ε κ τ : Type}
    (p : τ → Protocol Op Reply ε κ) : Protocol Op Reply ε (τ × κ) where
  allows k op := (p k.1).allows k.2 op
  next k op r := (k.1, (p k.1).next k.2 op r)
  replies k op r := (p k.1).replies k.2 op r
  fails k e := (p k.1).fails k.2 e

namespace Script
variable {Op : Type} {Reply : Op → Type} {ε α β κ : Type}

def bind : Script Op Reply ε α → (α → Script Op Reply ε β) → Script Op Reply ε β
  | .done a, f => f a
  | .fail e, _ => .fail e
  | .call op next, f => .call op fun r => (next r).bind f

instance : Monad (Script Op Reply ε) where
  pure := .done
  bind := bind

def perform (op : Op) : Script Op Reply ε (Reply op) := .call op .done

/-- A computation of the client's own. -/
def lift : Except ε α → Script Op Reply ε α
  | .ok a => .done a
  | .error e => .fail e

/-- Whatever may be replied, the script calls and fails as the protocol allows it, and where it
ends `Q` holds. -/
def Follows (p : Protocol Op Reply ε κ) (Q : κ → α → Prop) : κ → Script Op Reply ε α → Prop
  | k, .done a => Q k a
  | k, .fail e => p.fails k e
  | k, .call op next =>
    p.allows k op ∧ ∀ r, p.replies k op r → (next r).Follows p Q (p.next k op r)

section
variable {p : Protocol Op Reply ε κ} {Q : κ → α → Prop} {k : κ}

@[simp] theorem follows_done {a : α} :
    (done a : Script Op Reply ε α).Follows p Q k ↔ Q k a := Iff.rfl

@[simp] theorem follows_pure {a : α} :
    (pure a : Script Op Reply ε α).Follows p Q k ↔ Q k a := Iff.rfl

@[simp] theorem follows_fail {e : ε} :
    (fail e : Script Op Reply ε α).Follows p Q k ↔ p.fails k e := Iff.rfl

@[simp] theorem follows_lift {x : Except ε α} :
    (lift x : Script Op Reply ε α).Follows p Q k ↔
      (∀ a, x = .ok a → Q k a) ∧ ∀ e, x = .error e → p.fails k e := by
  cases x with
  | error e =>
    constructor
    · intro h
      refine ⟨(fun a ha => nomatch ha), ?_⟩
      intro e' he
      cases he
      exact h
    · rintro ⟨-, h⟩
      exact h e rfl
  | ok a =>
    constructor
    · intro h
      refine ⟨?_, (fun e he => nomatch he)⟩
      intro a' ha
      cases ha
      exact h
    · rintro ⟨h, -⟩
      exact h a rfl

theorem Follows.mono {Q' : κ → α → Prop} (hQ : ∀ k a, Q k a → Q' k a)
    {s : Script Op Reply ε α} (h : s.Follows p Q k) : s.Follows p Q' k := by
  induction s generalizing k with
  | done a => exact hQ k a h
  | fail e => exact h
  | call op next ih => exact ⟨h.1, fun r hr => ih r (h.2 r hr)⟩

/-- What follows the protocol up to a place in the middle goes on there. -/
theorem follows_bind {Q : κ → β → Prop} {s : Script Op Reply ε α}
    {f : α → Script Op Reply ε β} :
    (s >>= f).Follows p Q k ↔ s.Follows p (fun k a => (f a).Follows p Q k) k := by
  induction s generalizing k with
  | done a => exact Iff.rfl
  | fail e => exact Iff.rfl
  | call op next ih => exact and_congr_right fun _ => forall₂_congr fun r _ => ih r

theorem follows_tagged {p : τ → Protocol Op Reply ε κ} {t : τ} {Q : τ × κ → α → Prop}
    {s : Script Op Reply ε α} :
    s.Follows (.tagged p) Q (t, k) ↔ s.Follows (p t) (fun k => Q (t, k)) k := by
  induction s generalizing k with
  | done a => exact Iff.rfl
  | fail e => exact Iff.rfl
  | call op next ih => exact and_congr_right fun _ => forall₂_congr fun r _ => ih r

theorem follows_perform_bind (op : Op) {Q : κ → β → Prop} {f : Reply op → Script Op Reply ε β} :
    (perform op >>= f).Follows p Q k ↔
      p.allows k op ∧ ∀ r, p.replies k op r → (f r).Follows p Q (p.next k op r) := Iff.rfl

end
end Script

/-- A server, and a client that calls it. -/
structure Client (σ Op : Type) (Reply : Op → Type) (ε α : Type) where
  server : σ
  script : Script Op Reply ε α

/-- The label of a step: a call with its reply, a step that the server makes by itself, or the
client, behind the end of a script, taking up the next one. -/
inductive Client.Event (Op : Type) (Reply : Op → Type) (β γ : Type) where
  | call (op : Op) (r : Reply op)
  | own (b : β)
  | start (c : γ)

namespace Client
variable {σ Op : Type} {Reply : Op → Type} {ε α β γ κ : Type}

inductive Step (serve : σ → (op : Op) → Reply op → σ → Prop) (own : σ → β → σ → Prop)
    (script : γ → Script Op Reply ε α) (c : Client σ Op Reply ε α) :
    Event Op Reply β γ → Client σ Op Reply ε α → Prop where
  | call {op : Op} {next : Reply op → Script Op Reply ε α} {r : Reply op} {s : σ}
      (hc : c.script = .call op next) (h : serve c.server op r s) :
      Step serve own script c (.call op r) ⟨s, next r⟩
  | own {b : β} {s : σ} (h : own c.server b s) : Step serve own script c (.own b) ⟨s, c.script⟩
  | start {a : α} {g : γ} (hc : c.script = .done a) :
      Step serve own script c (.start g) ⟨c.server, script g⟩

open Runs

/-- A relation between what happened, the server and the place in the protocol, which calls
that the protocol allows, steps of the server and the start of a script keep, holds along every
run. -/
theorem follows_run {serve : σ → (op : Op) → Reply op → σ → Prop} {own : σ → β → σ → Prop}
    {script : γ → Script Op Reply ε α} {p : Protocol Op Reply ε κ}
    {Q : κ → α → Prop} {k₀ : γ → κ} {guard : Client σ Op Reply ε α → Event Op Reply β γ → Prop}
    {R : List (Client σ Op Reply ε α × Event Op Reply β γ) → σ → κ → Prop}
    (hscript : ∀ g, (script g).Follows p Q (k₀ g))
    (hcall : ∀ tr c k op r s, R tr c.server k → p.allows k op → guard c (.call op r) →
      serve c.server op r s → p.replies k op r ∧ R (tr ++ [(c, .call op r)]) s (p.next k op r))
    (hown : ∀ tr c k b s, R tr c.server k → c.script.Follows p Q k → guard c (.own b) →
      own c.server b s → ∃ k', R (tr ++ [(c, .own b)]) s k' ∧ c.script.Follows p Q k')
    (hstart : ∀ tr c k a g, R tr c.server k → c.script = .done a → Q k a → guard c (.start g) →
      R (tr ++ [(c, .start g)]) c.server (k₀ g))
    {c c' : Client σ Op Reply ε α} {tr : List (Client σ Op Reply ε α × Event Op Reply β γ)}
    (h : Run (Step serve own script) c tr c') (hg : Along guard tr) {k : κ}
    (hR : R [] c.server k) (hf : c.script.Follows p Q k) :
    ∃ k, R tr c'.server k ∧ c'.script.Follows p Q k := by
  induction h with
  | nil => exact ⟨k, hR, hf⟩
  | snoc hr hst ih =>
    obtain ⟨hg, he⟩ := along_snoc.1 hg
    obtain ⟨k, hR, hf⟩ := ih hg
    cases hst with
    | call hc h =>
      rw [hc] at hf
      obtain ⟨hr, hR⟩ := hcall _ _ _ _ _ _ hR hf.1 he h
      exact ⟨_, hR, hf.2 _ hr⟩
    | own h => exact hown _ _ _ _ _ hR hf he h
    | start hc =>
      rw [hc] at hf
      exact ⟨_, hstart _ _ _ _ _ hR hc hf he, hscript _⟩

end Client
end Scripts
