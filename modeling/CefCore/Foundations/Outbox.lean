import Mathlib.Data.List.Basic

/-!
# Outboxes of a connection that comes and goes

A component sends actions over a connection. While the connection is up an action is executed at
once; while it is down the actions wait, and the next connection executes them in front of
everything else. What waits can be thrown away, and an action can be refused when it is sent.

The history of such a component is the list of what has happened to it, oldest first.

## Main results

* `kept_foldl`: whatever happens to the component, its history is as it has to be (`Kept`).
-/

namespace Outbox

open List

variable {A : Type*}

/-- What can happen to a component that sends actions over a connection. -/
inductive Event (A : Type*) where
  /-- The action was dropped when it was sent. -/
  | refused (a : A)
  /-- The action was accepted. -/
  | sent (a : A)
  /-- The action was executed. -/
  | executed (a : A)
  /-- A connection was made. -/
  | attached
  /-- The connection was lost. -/
  | lost
  /-- Everything that was waiting was thrown away. -/
  | discarded

def Event.sent? : Event A → Option A
  | .sent a => some a
  | _ => none

def Event.executed? : Event A → Option A
  | .executed a => some a
  | _ => none

/-- The event leaves the connection down and the waiting actions where they are. -/
def Event.Idle : Event A → Prop
  | .refused _ | .sent _ | .lost => True
  | .executed _ | .attached | .discarded => False

/-- The actions accepted in a history, oldest first. -/
def accepted (history : List (Event A)) : List A :=
  history.filterMap Event.sent?

/-- The actions executed in a history, oldest first. -/
def executions (history : List (Event A)) : List A :=
  history.filterMap Event.executed?

def Event.connects (connected : Bool) : Event A → Bool
  | .attached => true
  | .lost => false
  | _ => connected

def connectedAt (history : List (Event A)) : Bool :=
  history.foldl Event.connects false

/-- What has become of an accepted action, where `waiting` is what waits at the end of the
history and `later` what came behind it in the history.

An action accepted over a connection is executed next. One accepted without a connection waits;
if the next thing to happen that concerns it is a connection, then this connection first executes
what waited, up to the action and what was accepted behind it. -/
def Fate (connected : Bool) (waiting : List A) (a : A) (later : List (Event A)) : Prop :=
  if connected then ∃ rest, later = .executed a :: rest
  else ∃ idle rest, later = idle ++ rest ∧ (∀ e ∈ idle, e.Idle) ∧
    (rest = [] ∧ (∃ front, waiting = front ++ a :: accepted idle) ∨
      (∃ rest', rest = .discarded :: rest') ∨
      ∃ front rest', rest = .attached :: (front ++ a :: accepted idle).map .executed ++ rest')

/-- A history in which no action is lost, repeated or reordered. -/
structure Kept (connected : Bool) (waiting : List A) (history : List (Event A)) : Prop where
  connected_eq : connectedAt history = connected
  waiting_eq_nil : connected = true → waiting = []
  sublist : (executions history ++ waiting).Sublist (accepted history)
  fate : ∀ earlier a later, history = earlier ++ .sent a :: later →
    Fate (connectedAt earlier) waiting a later

@[simp] lemma accepted_append (h k : List (Event A)) :
    accepted (h ++ k) = accepted h ++ accepted k := filterMap_append

@[simp] lemma executions_append (h k : List (Event A)) :
    executions (h ++ k) = executions h ++ executions k := filterMap_append

@[simp] lemma executions_map_executed (as : List A) : executions (as.map Event.executed) = as := by
  rw [executions, filterMap_map]
  exact filterMap_some

@[simp] lemma accepted_map_executed (as : List A) : accepted (as.map Event.executed) = [] := by
  rw [accepted, filterMap_map]
  exact filterMap_eq_nil_iff.mpr fun a _ => rfl

@[simp] lemma executions_refused (a : A) : executions [Event.refused a] = [] := rfl

@[simp] lemma accepted_refused (a : A) : accepted [Event.refused a] = [] := rfl

lemma connectedAt_append (h k : List (Event A)) :
    connectedAt (h ++ k) = k.foldl Event.connects (connectedAt h) := foldl_append

lemma foldl_connects_map_executed (connected : Bool) (as : List A) :
    (as.map Event.executed).foldl Event.connects connected = connected := by
  induction as with
  | nil => rfl
  | cons a as ih => exact ih

lemma eq_or_eq_of_append_eq {h k earlier later : List (Event A)} {e : Event A}
    (heq : h ++ k = earlier ++ e :: later) :
    (∃ l, h = earlier ++ e :: l ∧ later = l ++ k) ∨
      ∃ l, k = l ++ e :: later ∧ earlier = h ++ l := by
  rcases append_eq_append_iff.mp heq with ⟨l, hl, hk⟩ | ⟨l, hh, hl⟩
  · exact .inr ⟨l, hk, hl⟩
  · cases l with
    | nil => exact .inr ⟨[], by simpa using hl.symm, by simpa using hh.symm⟩
    | cons x l =>
      rw [cons_append, cons.injEq] at hl
      exact .inl ⟨l, by rw [hh, hl.1], hl.2⟩

lemma Kept.executed_sublist {connected : Bool} {waiting : List A} {history : List (Event A)}
    (h : Kept connected waiting history) : (executions history).Sublist (accepted history) :=
  (sublist_append_left _ _).trans h.sublist

lemma Kept.nil : Kept false ([] : List A) [] where
  connected_eq := rfl
  waiting_eq_nil := nofun
  sublist := List.Sublist.refl _
  fate := by
    intro earlier a later h
    simp at h

section Rules

variable {connected : Bool} {waiting waiting' : List A} {history more : List (Event A)}

lemma Fate.append {a : A} {later : List (Event A)} (h : Fate connected waiting a later)
    (hopen : ∀ front, connected = false → waiting = front ++ a :: accepted later →
      (∀ e ∈ later, e.Idle) → Fate false waiting' a (later ++ more)) :
    Fate connected waiting' a (later ++ more) := by
  cases connected with
  | true =>
    obtain ⟨rest, rfl⟩ := h
    exact ⟨rest ++ more, rfl⟩
  | false =>
    obtain ⟨idle, rest, rfl, hidle, ⟨rfl, front, hwait⟩ | ⟨rest', rfl⟩ | ⟨front, rest', rfl⟩⟩ := h
    · rw [append_nil] at hopen ⊢
      exact hopen front rfl hwait hidle
    · exact ⟨idle, _, append_assoc .., hidle, .inr (.inl ⟨rest' ++ more, rfl⟩)⟩
    · exact ⟨idle, _, append_assoc .., hidle, .inr (.inr ⟨front, rest' ++ more, append_assoc ..⟩)⟩

lemma Kept.fate_append (h : Kept connected waiting history)
    (hopen : ∀ front a later, connected = false → waiting = front ++ a :: accepted later →
      (∀ e ∈ later, e.Idle) → Fate false waiting' a (later ++ more))
    (hnew : ∀ l a later, more = l ++ .sent a :: later →
      Fate (connectedAt (history ++ l)) waiting' a later)
    {earlier later : List (Event A)} {a : A} (heq : history ++ more = earlier ++ .sent a :: later) :
    Fate (connectedAt earlier) waiting' a later := by
  rcases eq_or_eq_of_append_eq heq with ⟨l, hh, rfl⟩ | ⟨l, hmore, rfl⟩
  · refine (h.fate earlier a l hh).append fun front _ hwait hidle => ?_
    have hdown : connected = false := by
      by_contra hup
      rw [h.waiting_eq_nil (Bool.not_eq_false _ ▸ hup)] at hwait
      exact absurd hwait.symm (by simp)
    exact hopen front a l hdown hwait hidle
  · exact hnew l a later hmore

lemma Fate.wait {idle : List (Event A)} (before : List A) {a : A}
    (hidle : ∀ e ∈ idle, e.Idle) (hmore : ∀ e ∈ more, e.Idle)
    (hwait : waiting' = before ++ a :: accepted (idle ++ more)) :
    Fate false waiting' a (idle ++ more) :=
  ⟨idle ++ more, [], (append_nil _).symm,
    fun e he => (mem_append.mp he).elim (hidle e) (hmore e), .inl ⟨rfl, before, hwait⟩⟩

lemma Kept.refuse (h : Kept connected waiting history) (a : A) :
    Kept connected waiting (history ++ [.refused a]) where
  connected_eq := by rw [connectedAt_append]; exact h.connected_eq
  waiting_eq_nil := h.waiting_eq_nil
  sublist := by
    rw [executions_append, accepted_append, executions_refused, accepted_refused, append_nil,
      append_nil]
    exact h.sublist
  fate := by
    intro earlier b later heq
    refine h.fate_append (fun front c idle _ hwait hidle => ?_) (fun l c k hl => ?_) heq
    · refine Fate.wait front hidle (by simp [Event.Idle]) ?_
      rw [accepted_append, accepted_refused, append_nil]
      exact hwait
    · simp [cons_eq_append_iff] at hl

lemma Kept.run (h : Kept true waiting history) (a : A) :
    Kept true waiting (history ++ [.sent a, .executed a]) where
  connected_eq := by rw [connectedAt_append]; exact h.connected_eq
  waiting_eq_nil := h.waiting_eq_nil
  sublist := by
    have hexec : executions [Event.sent a, .executed a] = [a] := rfl
    have hacc : accepted [Event.sent a, .executed a] = [a] := rfl
    rw [executions_append, accepted_append, hexec, hacc, h.waiting_eq_nil rfl, append_nil]
    exact h.executed_sublist.append (List.Sublist.refl _)
  fate := by
    intro earlier b later heq
    refine h.fate_append nofun (fun l c k hl => ?_) heq
    obtain ⟨rfl, rfl, rfl⟩ : l = [] ∧ c = a ∧ k = [.executed a] := by
      simp only [cons_eq_append_iff] at hl
      aesop
    rw [append_nil, h.connected_eq]
    exact ⟨[], rfl⟩

lemma Kept.wait (h : Kept false waiting history) (a : A) :
    Kept false (waiting ++ [a]) (history ++ [.sent a]) where
  connected_eq := by rw [connectedAt_append]; exact h.connected_eq
  waiting_eq_nil := nofun
  sublist := by
    have hexec : executions [Event.sent a] = [] := rfl
    have hacc : accepted [Event.sent a] = [a] := rfl
    rw [executions_append, accepted_append, hexec, hacc, append_nil, ← append_assoc]
    exact h.sublist.append (List.Sublist.refl _)
  fate := by
    intro earlier b later heq
    refine h.fate_append (fun front c idle _ hwait hidle => ?_) (fun l c k hl => ?_) heq
    · refine Fate.wait front hidle (by simp [Event.Idle]) ?_
      rw [accepted_append, hwait, append_assoc, cons_append]
      rfl
    · obtain ⟨rfl, rfl, rfl⟩ : l = [] ∧ c = a ∧ k = [] := by
        simp only [cons_eq_append_iff] at hl
        aesop
      rw [append_nil, h.connected_eq]
      exact ⟨[], [], rfl, nofun, .inl ⟨rfl, waiting, rfl⟩⟩

section

variable (h : Kept connected waiting history)
include h

lemma Kept.attach :
    Kept true [] (history ++ .attached :: waiting.map .executed) where
  connected_eq := by
    rw [connectedAt_append, foldl_cons]
    exact foldl_connects_map_executed true waiting
  waiting_eq_nil _ := rfl
  sublist := by
    have hexec : executions (.attached :: waiting.map .executed) = waiting :=
      executions_map_executed waiting
    have hacc : accepted (.attached :: waiting.map Event.executed) = [] :=
      accepted_map_executed waiting
    rw [executions_append, accepted_append, hexec, hacc, append_nil, append_nil]
    exact h.sublist
  fate := by
    intro earlier b later heq
    refine h.fate_append (fun front c idle _ hwait hidle => ?_) (fun l c k hl => ?_) heq
    · exact ⟨idle, _, rfl, hidle, .inr (.inr ⟨front, [], by rw [hwait, append_nil]⟩)⟩
    · have hmem : Event.sent c ∈ Event.attached :: waiting.map Event.executed :=
        hl ▸ mem_append_right l mem_cons_self
      simp at hmem

lemma Kept.lose :
    Kept false waiting (history ++ [.lost]) where
  connected_eq := by rw [connectedAt_append]; rfl
  waiting_eq_nil := nofun
  sublist := by
    have hexec : executions [(Event.lost : Event A)] = [] := rfl
    have hacc : accepted [(Event.lost : Event A)] = [] := rfl
    rw [executions_append, accepted_append, hexec, hacc, append_nil, append_nil]
    exact h.sublist
  fate := by
    intro earlier b later heq
    refine h.fate_append (fun front c idle _ hwait hidle => ?_) (fun l c k hl => ?_) heq
    · refine Fate.wait front hidle (by simp [Event.Idle]) ?_
      rw [accepted_append, hwait]
      exact congrArg (fun l => front ++ c :: l) (append_nil _).symm
    · simp [cons_eq_append_iff] at hl

lemma Kept.discard :
    Kept connected [] (history ++ [.discarded]) where
  connected_eq := by rw [connectedAt_append]; exact h.connected_eq
  waiting_eq_nil _ := rfl
  sublist := by
    have hexec : executions [(Event.discarded : Event A)] = [] := rfl
    have hacc : accepted [(Event.discarded : Event A)] = [] := rfl
    rw [executions_append, accepted_append, hexec, hacc, append_nil, append_nil, append_nil]
    exact h.executed_sublist
  fate := by
    intro earlier b later heq
    refine h.fate_append (fun front c idle _ hwait hidle => ?_) (fun l c k hl => ?_) heq
    · exact ⟨idle, _, rfl, hidle, .inr (.inl ⟨[], rfl⟩)⟩
    · simp [cons_eq_append_iff] at hl

end

end Rules

end Outbox

/-- A component that sends actions over a connection. -/
structure Outbox (A : Type*) where
  connected : Bool := false
  waiting : List A := []
  history : List (Outbox.Event A) := []

namespace Outbox

variable {A : Type*}

inductive Action (A : Type*) where
  | refuse (a : A)
  | send (a : A)
  | attach
  | lose
  | discard

def act (b : Outbox A) : Action A → Outbox A
  | .refuse a => { b with history := b.history ++ [.refused a] }
  | .send a =>
    if b.connected then { b with history := b.history ++ [.sent a, .executed a] }
    else { b with waiting := b.waiting ++ [a], history := b.history ++ [.sent a] }
  | .attach =>
    { connected := true
      waiting := []
      history := b.history ++ .attached :: b.waiting.map .executed }
  | .lose => { b with connected := false, history := b.history ++ [.lost] }
  | .discard => { b with waiting := [], history := b.history ++ [.discarded] }

def Sound (b : Outbox A) : Prop :=
  Kept b.connected b.waiting b.history

lemma Sound.act {b : Outbox A} (h : b.Sound) (x : Action A) : (b.act x).Sound := by
  cases x with
  | refuse a => exact Kept.refuse h a
  | send a =>
    obtain ⟨connected, waiting, history⟩ := b
    cases connected with
    | true => exact Kept.run h a
    | false => exact Kept.wait h a
  | attach => exact Kept.attach h
  | lose => exact Kept.lose h
  | discard => exact Kept.discard h

theorem kept_foldl {b : Outbox A} (h : b.Sound) (xs : List (Action A)) :
    (xs.foldl Outbox.act b).Sound := by
  induction xs generalizing b with
  | nil => exact h
  | cons x xs ih => exact ih (h.act x)

end Outbox
