import Mathlib.Data.List.Basic

/-!
# Scripts of operations

A program that does nothing but call the operations of a system, one after another, is a tree: what
it does next depends on the results it has got. Such a script can be executed as a whole, or in
turns with others, one operation at a time.

## Main results

* `Script.All.invariant`: what all operations keep is kept.
-/

universe u

/-- A script: it is done, or it calls an operation and goes on with the result. -/
inductive Script (Op : Type) (Result : Op → Type) (α : Type) where
  | done (a : α)
  | call (op : Op) (next : Result op → Script Op Result α)

namespace Script

variable {Op : Type} {Result : Op → Type} {α β : Type}

def bind : Script Op Result α → (α → Script Op Result β) → Script Op Result β
  | done a, f => f a
  | call op next, f => call op fun r => (next r).bind f

instance : Monad (Script Op Result) where
  pure := done
  bind := bind

def perform (op : Op) : Script Op Result (Result op) := call op done

@[simp] lemma pure_eq (a : α) : (pure a : Script Op Result α) = done a := rfl

@[simp] lemma done_bind (a : α) (f : α → Script Op Result β) : done a >>= f = f a := rfl

@[simp] lemma call_bind (op : Op) (next : Result op → Script Op Result α)
    (f : α → Script Op Result β) : call op next >>= f = call op fun r => next r >>= f := rfl

@[simp] lemma perform_bind (op : Op) (f : Result op → Script Op Result β) :
    perform op >>= f = call op f := rfl

/-- Every operation that the script may call meets `P`, whatever the results are. -/
def All (P : Op → Prop) : Script Op Result α → Prop
  | done _ => True
  | call op next => P op ∧ ∀ r, All P (next r)

@[simp] lemma all_done (P : Op → Prop) (a : α) : All P (done a : Script Op Result α) := trivial

@[simp] lemma all_call (P : Op → Prop) (op : Op) (next : Result op → Script Op Result α) :
    All P (call op next) ↔ P op ∧ ∀ r, All P (next r) := Iff.rfl

lemma All.bind {P : Op → Prop} {f : α → Script Op Result β} (hf : ∀ a, All P (f a)) :
    ∀ {p : Script Op Result α}, All P p → All P (p >>= f)
  | done a, _ => hf a
  | call _ _, hp => ⟨hp.1, fun r => All.bind hf (hp.2 r)⟩

section Execution

variable {σ : Type u} (run : (op : Op) → σ → Result op × σ)

def exec : Script Op Result α → σ → α × σ
  | done a, s => (a, s)
  | call op next, s => exec (next (run op s).1) (run op s).2

@[simp] lemma exec_done (a : α) (s : σ) : exec run (done a : Script Op Result α) s = (a, s) := rfl

@[simp] lemma exec_call (op : Op) (next : Result op → Script Op Result α) (s : σ) :
    exec run (call op next) s = exec run (next (run op s).1) (run op s).2 := rfl

lemma exec_bind (f : α → Script Op Result β) : ∀ (p : Script Op Result α) (s : σ),
    exec run (p >>= f) s = exec run (f (exec run p s).1) (exec run p s).2
  | done _, _ => rfl
  | call op next, s => exec_bind f (next (run op s).1) (run op s).2

/-- Every operation of the execution meets `P` in the system before it. -/
def Along (P : Op → σ → Prop) : Script Op Result α → σ → Prop
  | done _, _ => True
  | call op next, s => P op s ∧ Along P (next (run op s).1) (run op s).2

variable {run} {P : Op → σ → Prop}

/-- The condition along an execution is decidable when it is decidable at each operation. -/
instance Along.decide [∀ op s, Decidable (P op s)] :
    ∀ (p : Script Op Result α) (s : σ), Decidable (Along run P p s)
  | done _, _ => isTrue trivial
  | call op next, s =>
    have := Along.decide (next (run op s).1) (run op s).2
    inferInstanceAs (Decidable (_ ∧ _))

@[simp] lemma along_done (a : α) (s : σ) : Along run P (done a : Script Op Result α) s := trivial

@[simp] lemma along_call (op : Op) (next : Result op → Script Op Result α) (s : σ) :
    Along run P (call op next) s ↔ P op s ∧ Along run P (next (run op s).1) (run op s).2 := Iff.rfl

lemma along_bind {f : α → Script Op Result β} : ∀ (p : Script Op Result α) (s : σ),
    Along run P (p >>= f) s ↔
      Along run P p s ∧ Along run P (f (exec run p s).1) (exec run p s).2
  | done _, _ => by simp
  | call op next, s => by
    rw [call_bind, along_call, along_call, along_bind (next (run op s).1) (run op s).2, and_assoc]
    rfl

lemma exec_bind_pure (f : α → β) (p : Script Op Result α) (s : σ) :
    exec run (p >>= fun a => pure (f a)) s = (f (exec run p s).1, (exec run p s).2) :=
  exec_bind run _ p s

lemma along_bind_pure (f : α → β) (p : Script Op Result α) (s : σ) :
    Along run P (p >>= fun a => pure (f a)) s ↔ Along run P p s := by
  rw [along_bind]
  exact and_iff_left trivial

/-- **The invariant rule for scripts**: what the operations of a script keep, it keeps. -/
theorem All.invariant {I : σ → Prop} {Q : Op → Prop} (hstep : ∀ op s, I s → Q op → I (run op s).2) :
    ∀ (p : Script Op Result α) (s : σ), I s → All Q p → I (exec run p s).2
  | done _, _, hI, _ => hI
  | call op next, s, hI, hp =>
    All.invariant hstep (next (run op s).1) (run op s).2 (hstep op s hI hp.1) (hp.2 _)

end Execution

/-! ### Scripts in turns -/

/-- Several scripts on one system, with what they have done, newest first: the number of the script,
the operation and its result. -/
structure Threads (Op : Type) (Result : Op → Type) (α : Type) (σ : Type u) where
  scripts : List (Script Op Result α)
  system : σ
  trace : List (Nat × Σ op : Op, Result op)

namespace Threads

variable {σ : Type u} (run : (op : Op) → σ → Result op × σ)

/-- Several scripts that have done nothing yet. -/
def start (scripts : List (Script Op Result α)) (s : σ) : Threads Op Result α σ := ⟨scripts, s, []⟩

def step (t : Threads Op Result α σ) (i : Nat) : Option (Threads Op Result α σ) :=
  match t.scripts[i]? with
  | some (call op next) =>
    some ⟨t.scripts.set i (next (run op t.system).1), (run op t.system).2,
      (i, ⟨op, (run op t.system).1⟩) :: t.trace⟩
  | _ => none

lemma step_eq_some_iff {t t' : Threads Op Result α σ} {i : Nat} : step run t i = some t' ↔
    ∃ op next, t.scripts[i]? = some (call op next) ∧
      t' = ⟨t.scripts.set i (next (run op t.system).1), (run op t.system).2,
        (i, ⟨op, (run op t.system).1⟩) :: t.trace⟩ := by
  unfold step
  split
  · rename_i op next hscript
    rw [hscript]
    constructor
    · intro h
      exact ⟨op, next, rfl, (Option.some.inj h).symm⟩
    · rintro ⟨op', next', heq, rfl⟩
      cases heq
      rfl
  · rename_i hother
    constructor
    · intro h
      cases h
    · rintro ⟨op, next, hscript, -⟩
      exact absurd hscript (hother op next)

end Threads

end Script
