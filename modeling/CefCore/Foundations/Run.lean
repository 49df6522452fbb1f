import Mathlib.Data.List.Basic

/-!
# Runs of a partial step function and finality in event logs

A component is modelled as a step function `step : σ → α → Option σ` on an explicit state: `none`
means that the call does not come back (it hangs, panics or aborts), so that nothing follows it. A
run is the monadic fold `as.foldlM step s`. Tables of a state that only grow, one element at a time,
are lists with the new element at the end.

A component that reports what it does keeps its reports in a log, newest first. The last section
says when the log treats some events as final.

## Main results

* `run_invariant`: an invariant kept by the steps of a run holds at its end.
* `Along.invariant`: a condition on the steps of a run can be carried along it.
-/

lemma List.getElem?_concat_eq_some {α : Type*} {l : List α} {x y : α} {i : Nat} :
    (l ++ [x])[i]? = some y ↔ l[i]? = some y ∨ i = l.length ∧ y = x := by
  rw [List.getElem?_append]
  split
  · rename_i hlt
    simp [Nat.ne_of_lt hlt]
  · rename_i hge
    rw [List.getElem?_eq_none_iff.mpr (Nat.not_lt.mp hge), List.getElem?_singleton]
    split
    · rename_i hzero
      have : i = l.length := Nat.le_antisymm (Nat.sub_eq_zero_iff_le.mp hzero) (Nat.not_lt.mp hge)
      simp [this, eq_comm]
    · rename_i hpos
      have : i ≠ l.length := fun h => hpos (by omega)
      simp [this]

open List Option Except

namespace Transition

variable {σ α : Type*} {step : σ → α → Option σ} {P : σ → α → Prop}

/-- Every step of the run of `as` from `s` meets `P` in the state before it. The run stops
where a step does not come back. -/
def Along (step : σ → α → Option σ) (P : σ → α → Prop) : σ → List α → Prop
  | _, [] => True
  | s, a :: as => P s a ∧ match step s a with
    | none => True
    | some s' => Along step P s' as

def Along.decide [∀ s a, Decidable (P s a)] :
    (s : σ) → (as : List α) → Decidable (Along step P s as)
  | _, [] => isTrue trivial
  | s, a :: as =>
    have : Decidable (match step s a with
        | none => True
        | some s' => Along step P s' as) :=
      match step s a with
      | none => isTrue trivial
      | some s' => Along.decide s' as
    inferInstanceAs (Decidable (_ ∧ _))

instance [∀ s a, Decidable (P s a)] (s : σ) (as : List α) : Decidable (Along step P s as) :=
  Along.decide s as

variable {I O : σ → Prop} {Q : σ → α → Prop} {as : List α} {s s' : σ}

lemma Along.cons {a : α} (h : Along step P s (a :: as))
    (hs : step s a = some s') : P s a ∧ Along step P s' as := by
  simp only [Along, hs] at h
  exact h

lemma Along.left : ∀ {as bs : List α} {s : σ}, Along step P s (as ++ bs) → Along step P s as
  | [], _, _, _ => trivial
  | a :: as, bs, s, h => by
    simp only [cons_append, Along] at h ⊢
    refine ⟨h.1, ?_⟩
    cases hs : step s a with
    | none => trivial
    | some s' =>
      rw [hs] at h
      exact Along.left h.2

lemma Along.imp (h : ∀ s a, P s a → Q s a) :
    ∀ {as : List α} {s : σ}, Along step P s as → Along step Q s as
  | [], _, _ => True.intro
  | a :: as, s, hP => by
    refine ⟨h s a hP.1, ?_⟩
    cases hs : step s a with
    | none => exact True.intro
    | some s' => exact Along.imp h (hP.cons hs).2

lemma Along.and : ∀ {as : List α} {s : σ}, Along step P s as →
    Along step Q s as → Along step (fun s a => P s a ∧ Q s a) s as
  | [], _, _, _ => True.intro
  | a :: as, s, hP, hQ => by
    refine ⟨⟨hP.1, hQ.1⟩, ?_⟩
    cases hs : step s a with
    | none => exact True.intro
    | some s' => exact Along.and (hP.cons hs).2 (hQ.cons hs).2

/-- **The invariant rule for conditional runs**: what every step meeting `P` keeps holds at
the end of every run whose steps all meet `P`.

**Proof sketch.** Induction on the run, from the state after its first step. -/
theorem Along.invariant (hstep : ∀ s a s', I s → P s a → step s a = some s' → I s') :
    ∀ (as : List α) (s s' : σ), I s → Along step P s as → as.foldlM step s = some s' → I s'
  | [], s, s', hI, _, h => by
    simp only [List.foldlM_nil, Option.pure_def, Option.some.injEq] at h
    exact h ▸ hI
  | a :: as, s, s', hI, hP, h => by
    rw [List.foldlM_cons, Option.bind_eq_bind, Option.bind_eq_some_iff] at h
    obtain ⟨t, ht, h⟩ := h
    obtain ⟨hPa, hP⟩ := hP.cons ht
    exact Along.invariant hstep as t s' (hstep s a t hI hPa ht) hP h

lemma Along.trivial : ∀ (s : σ) (as : List α), Along step (fun _ _ => True) s as
  | _, [] => True.intro
  | s, a :: as => by
    refine ⟨True.intro, ?_⟩
    cases step s a with
    | none => exact True.intro
    | some s' => exact Along.trivial s' as

/-- **The invariant rule**: what every step keeps holds at the end of every run. -/
theorem run_invariant (hstep : ∀ s a s', I s → step s a = some s' → I s')
    (hI : I s) (h : as.foldlM step s = some s') : I s' :=
  Along.invariant (P := fun _ _ => True) (fun s a s' hI _ => hstep s a s' hI) as s s' hI
    (Along.trivial s as) h

/-- **The rule for broken conditions**: if a step that misses `P` does lasting damage, then every
run with such a step ends damaged.

**Proof sketch.** Induction on the run. At its first step that misses `P` the damage is done, and
the invariant rule carries it to the end; before that step nothing is to be shown. -/
theorem Along.damage {B : σ → Prop} (hI : ∀ s a s', I s → step s a = some s' → I s')
    (hbreak : ∀ s a s', I s → ¬ P s a → step s a = some s' → B s')
    (hkeep : ∀ s a s', I s → B s → step s a = some s' → B s') :
    ∀ (as : List α) (s s' : σ), I s → ¬ Along step P s as → as.foldlM step s = some s' → B s'
  | [], s, s', _, hnot, _ => absurd True.intro hnot
  | a :: as, s, s', hs, hnot, h => by
    rw [foldlM_cons, bind_eq_bind, bind_eq_some_iff] at h
    obtain ⟨t, ht, h⟩ := h
    have hIt := hI s a t hs ht
    by_cases hP : P s a
    · refine Along.damage hI hbreak hkeep as t s' hIt (fun hrest => hnot ?_) h
      simp only [Along, ht]
      exact ⟨hP, hrest⟩
    · have hboth := run_invariant (I := fun s => I s ∧ B s)
        (fun s a s' hIB h => ⟨hI s a s' hIB.1 h, hkeep s a s' hIB.1 hIB.2 h⟩)
        ⟨hIt, hbreak s a t hs hP ht⟩ h
      exact hboth.2

/-- **The rule for runs that come back**: if every step that meets `P` comes back and keeps the
invariant, then so does every run whose steps all meet `P`. -/
theorem Along.exists_run (hstep : ∀ s a, I s → P s a → ∃ s', step s a = some s' ∧ I s') :
    ∀ (as : List α) (s : σ), I s → Along step P s as → ∃ s', as.foldlM step s = some s' ∧ I s'
  | [], s, hI, _ => ⟨s, rfl, hI⟩
  | a :: as, s, hI, hP => by
    obtain ⟨t, ht, hIt⟩ := hstep s a hI hP.1
    obtain ⟨s', h, hI'⟩ := Along.exists_run hstep as t hIt (hP.cons ht).2
    exact ⟨s', by rw [foldlM_cons, ht]; exact h, hI'⟩

/-- **The rule for two conditions**: if one of two conditions keeps an invariant under which they
agree, then they hold along the same runs.

**Proof sketch.** Induction on the run. The first step meets both conditions or none, and in the
first case the invariant holds again behind it. -/
theorem Along.congr (hstep : ∀ s a s', I s → Q s a → step s a = some s' → I s')
    (hiff : ∀ s a, I s → (P s a ↔ Q s a)) :
    ∀ (as : List α) (s : σ), I s → (Along step P s as ↔ Along step Q s as)
  | [], _, _ => Iff.rfl
  | a :: as, s, hI => by
    simp only [Along]
    rw [hiff s a hI]
    refine and_congr_right fun hQ => ?_
    cases ht : step s a with
    | none => exact Iff.rfl
    | some t => exact Along.congr hstep hiff as t (hstep s a t hI hQ ht)

/-- Every state that the run of `as` from `s` reaches meets `O`. -/
def Always (step : σ → α → Option σ) (O : σ → Prop) (s : σ) (as : List α) : Prop :=
  ∀ n s', (as.take n).foldlM step s = some s' → O s'

lemma not_always_of_any (n : Nat) {p : σ → Bool}
    (hrun : ((as.take n).foldlM step s).any p = true) (hp : ∀ s', p s' = true → ¬ O s') :
    ¬ Always step O s as := by
  intro h
  cases hend : (as.take n).foldlM step s with
  | none =>
    rw [hend] at hrun
    cases hrun
  | some s' =>
    rw [hend] at hrun
    exact hp s' hrun (h n s' hend)

lemma Always.cons {a : α} (h : Always step O s (a :: as))
    (hs : step s a = some s') : Always step O s' as := by
  intro n t ht
  refine h (n + 1) t ?_
  rw [take_succ_cons, foldlM_cons, hs]
  exact ht

/-- What every step meeting `P` keeps holds in every state that a run whose steps all meet `P`
reaches. -/
theorem Along.always (hstep : ∀ s a s', I s → P s a → step s a = some s' → I s')
    (hI : I s) (hP : Along step P s as) : Always step I s as := by
  intro n s' h
  refine Along.invariant hstep (as.take n) s s' hI ?_ h
  rw [← take_append_drop n as] at hP
  exact hP.left

/-- **The rule for states that are right exactly along the runs that meet a condition**: the steps
that meet `P` lead from right states to right ones, and the others do not.

**Proof sketch.** Induction on the run. If all its states are right, then its first step meets `P`,
since the state behind it is right. -/
theorem Along.iff_always (hkeep : ∀ s a s', I s → O s → P s a → step s a = some s' → I s' ∧ O s')
    (hbreak : ∀ s a, I s → O s → ¬ P s a → ∃ s', step s a = some s' ∧ ¬ O s') :
    ∀ (as : List α) (s : σ), I s → O s → (Always step O s as ↔ Along step P s as)
  | [], s, _, hO => by
    refine iff_of_true (fun n s' h => ?_) True.intro
    rw [take_nil, foldlM_nil] at h
    exact some.inj h ▸ hO
  | a :: as, s, hI, hO => by
    constructor
    · intro h
      have hP : P s a := by
        by_contra hP
        obtain ⟨s', hs, hwrong⟩ := hbreak s a hI hO hP
        refine hwrong (h 1 s' ?_)
        rw [take_succ_cons, take_zero, foldlM_cons, hs]
        rfl
      refine ⟨hP, ?_⟩
      cases hs : step s a with
      | none => exact True.intro
      | some s' =>
        obtain ⟨hI', hO'⟩ := hkeep s a s' hI hO hP hs
        exact (Along.iff_always hkeep hbreak as s' hI' hO').mp (h.cons hs)
    · intro h n t ht
      have hright : Always step (fun s => I s ∧ O s) s (a :: as) :=
        Along.always (fun s a s' hIO hP hs => hkeep s a s' hIO.1 hIO.2 hP hs) ⟨hI, hO⟩ h
      exact (hright n t ht).2

/-- **The rule for runs that come back and reach right states only**: the steps that meet `P` come
back to right states, and no other step does.

**Proof sketch.** Induction on the run. If it comes back, then its first step does, and to a right
state; so that step meets `P`. -/
theorem Along.iff_isSome_and_always
    (hkeep : ∀ s a, I s → O s → P s a → ∃ s', step s a = some s' ∧ I s' ∧ O s')
    (hbreak : ∀ s a s', I s → O s → ¬ P s a → step s a = some s' → ¬ O s') :
    ∀ (as : List α) (s : σ), I s → O s →
      ((as.foldlM step s).isSome = true ∧ Always step O s as ↔ Along step P s as)
  | [], s, _, hO => by
    refine iff_of_true ⟨rfl, fun n s' h => ?_⟩ True.intro
    rw [take_nil, foldlM_nil] at h
    exact some.inj h ▸ hO
  | a :: as, s, hI, hO => by
    constructor
    · rintro ⟨hreturns, halways⟩
      obtain ⟨t, ht⟩ : ∃ t, step s a = some t := by
        rw [foldlM_cons] at hreturns
        cases ht : step s a with
        | none =>
          rw [ht] at hreturns
          cases hreturns
        | some t => exact ⟨t, rfl⟩
      have hOt : O t := by
        refine halways 1 t ?_
        rw [take_succ_cons, take_zero, foldlM_cons, ht]
        rfl
      have hP : P s a := by
        by_contra hP
        exact hbreak s a t hI hO hP ht hOt
      obtain ⟨t', ht', hIt, -⟩ := hkeep s a hI hO hP
      obtain rfl := some.inj (ht'.symm.trans ht)
      rw [foldlM_cons, ht] at hreturns
      have hrest := (Along.iff_isSome_and_always hkeep hbreak as t' hIt hOt).mp
        ⟨hreturns, halways.cons ht⟩
      simp only [Along, ht]
      exact ⟨hP, hrest⟩
    · intro h
      obtain ⟨s', hs', -⟩ := Along.exists_run (I := fun s => I s ∧ O s)
        (fun s a hIO hP => hkeep s a hIO.1 hIO.2 hP) (a :: as) s ⟨hI, hO⟩ h
      refine ⟨by rw [hs']; rfl, fun n t ht => ?_⟩
      refine (Along.always (I := fun s => I s ∧ O s) ?_ ⟨hI, hO⟩ h n t ht).2
      intro s a t hIO hP ht
      obtain ⟨t', ht', hIt⟩ := hkeep s a hIO.1 hIO.2 hP
      exact some.inj (ht'.symm.trans ht) ▸ hIt

/-- The invariant rule for conditional runs of a step function that always comes back. -/
theorem Along.foldl_invariant {next : σ → α → σ} (hstep : ∀ s a, I s → P s a → I (next s a)) :
    ∀ (as : List α) (s : σ), I s → Along (fun s a => some (next s a)) P s as →
      I (as.foldl next s)
  | [], _, hI, _ => hI
  | a :: as, s, hI, hP =>
    Along.foldl_invariant hstep as (next s a) (hstep s a hI hP.1) hP.2

lemma Along.iff_forall_append {next : σ → α → σ} :
    ∀ {as : List α} {s : σ}, Along (fun s a => some (next s a)) P s as ↔
      ∀ before a after, as = before ++ a :: after → P (before.foldl next s) a
  | [], s => iff_of_true True.intro fun before a after h => by simp at h
  | a :: as, s => by
    refine (and_congr_right fun _ => Along.iff_forall_append).trans ⟨?_, ?_⟩
    · rintro ⟨hP, hrest⟩ before b after h
      cases before with
      | nil =>
        obtain ⟨rfl, -⟩ := cons.inj h
        exact hP
      | cons c before =>
        obtain ⟨rfl, has⟩ := cons.inj h
        exact hrest before b after has
    · intro h
      refine ⟨h [] a as rfl, fun before b after has => ?_⟩
      exact h (a :: before) b after (by rw [has]; rfl)

lemma isSome_bind {β γ : Type*} {x : Option β} {f : β → Option γ} (hx : x.isSome = true)
    (hf : ∀ b, (f b).isSome = true) : (x.bind f).isSome = true := by
  obtain ⟨b, rfl⟩ := isSome_iff_exists.mp hx
  exact hf b

lemma isSome_foldlM (hstep : ∀ s a, (step s a).isSome = true) :
    ∀ (as : List α) (s : σ), (as.foldlM step s).isSome = true
  | [], _ => rfl
  | a :: as, s => by
    rw [foldlM_cons]
    exact isSome_bind (hstep s a) fun s' => isSome_foldlM hstep as s'

end Transition

namespace Fallible

variable {ε α β : Type} {x : Except ε α} {f : α → Except ε β}

lemma bind_eq_ok_iff {b : β} : x >>= f = .ok b ↔ ∃ a, x = .ok a ∧ f a = .ok b := by
  cases x with
  | error e => simp [bind, Except.bind]
  | ok a => simp [bind, Except.bind]

lemma bind_eq_error_iff {e : ε} :
    x >>= f = .error e ↔ x = .error e ∨ ∃ a, x = .ok a ∧ f a = .error e := by
  cases x with
  | error e => simp [bind, Except.bind]
  | ok a => simp [bind, Except.bind]

lemma map_eq_ok_iff {g : α → β} {b : β} : x.map g = .ok b ↔ ∃ a, x = .ok a ∧ g a = b := by
  cases x with
  | error e => simp [Except.map]
  | ok a => simp [Except.map]

lemma toOption_eq_some_iff {a : α} : x.toOption = some a ↔ x = .ok a := by
  cases x with
  | error e => simp [Except.toOption]
  | ok a => simp [Except.toOption]

/-- **The invariant rule for steps that may fail**: what every step keeps holds at the end of every
run that returns. -/
theorem run_invariant {γ : Type} {step : α → γ → Except ε α} {I : α → Prop}
    (hstep : ∀ s c s', I s → step s c = .ok s' → I s') :
    ∀ {cs : List γ} {s s' : α}, I s → cs.foldlM step s = .ok s' → I s'
  | [], _, _, hI, h => ok.inj h ▸ hI
  | c :: _, s, _, hI, h => by
    rw [foldlM_cons, bind_eq_ok_iff] at h
    obtain ⟨t, ht, h⟩ := h
    exact run_invariant hstep (hstep s c t hI ht) h

/-- The computation fails for a reason that meets `P`. -/
def Fails (P : ε → Prop) (x : Except ε α) : Prop := ∃ e, x = .error e ∧ P e

section Fails

variable {P : ε → Prop}

@[simp] lemma Fails.ok (a : α) : ¬ Fails P (.ok a : Except ε α) := by
  rintro ⟨e, h, _⟩
  cases h

@[simp] lemma fails_error (e : ε) : Fails P (.error e : Except ε α) ↔ P e := by
  constructor
  · rintro ⟨e', h, hP⟩
    exact error.inj h ▸ hP
  · exact fun hP => ⟨e, rfl, hP⟩

lemma fails_bind_iff : Fails P (x >>= f) ↔ Fails P x ∨ ∃ a, x = .ok a ∧ Fails P (f a) := by
  cases x with
  | error e => simp [bind, Except.bind]
  | ok a => simp [bind, Except.bind]

lemma fails_map_iff {g : α → β} : Fails P (x.map g) ↔ Fails P x := by
  cases x with
  | error e => simp [Except.map]
  | ok a => simp [Except.map]

lemma not_fails_bind (hx : ¬ Fails P x) (hf : ∀ a, x = .ok a → ¬ Fails P (f a)) :
    ¬ Fails P (x >>= f) := by
  rw [fails_bind_iff, not_or, not_exists]
  exact ⟨hx, fun a ha => hf a ha.1 ha.2⟩

lemma fails_bind_iff_left (hf : ∀ a, ¬ Fails P (f a)) : Fails P (x >>= f) ↔ Fails P x := by
  rw [fails_bind_iff]
  exact or_iff_left fun ⟨a, _, ha⟩ => hf a ha

lemma not_fails_foldlM_iff {γ : Type} {step : α → γ → Except ε α} : ∀ (as : List γ) (s : α),
    ¬ Fails P (as.foldlM step s) ↔
      Transition.Along (fun s a => (step s a).toOption) (fun s a => ¬ Fails P (step s a)) s as
  | [], s => iff_of_true (Fails.ok s) True.intro
  | a :: as, s => by
    rw [foldlM_cons, fails_bind_iff, not_or, not_exists]
    refine and_congr_right fun _ => ?_
    dsimp only
    cases hs : step s a with
    | error e => exact iff_of_true nofun True.intro
    | ok s' =>
      rw [Except.toOption]
      refine Iff.trans ?_ (not_fails_foldlM_iff as s')
      exact ⟨fun h => not_and.mp (h s') rfl, fun h t ht => h (ok.inj ht.1 ▸ ht.2)⟩

end Fails

@[simp] lemma throw_eq (e : ε) : (throw e : Except ε α) = .error e := rfl

@[simp] lemma pure_eq (a : α) : (pure a : Except ε α) = .ok a := rfl

@[simp] lemma ok_bind (a : α) : (.ok a : Except ε α) >>= f = f a := rfl

@[simp] lemma error_bind (e : ε) : (.error e : Except ε α) >>= f = .error e := rfl

end Fallible

namespace EventLog

variable {ε ι : Type*} {ends touches : ι → ε → Prop}

/-- An event that ends `i` has been logged. -/
def Settled (ends : ι → ε → Prop) (i : ι) (log : List ε) : Prop :=
  ∃ e ∈ log, ends i e

/-- In a log with the newest event first, no event touching `i` comes after one ending `i`. -/
def Final (ends touches : ι → ε → Prop) (log : List ε) : Prop :=
  log.Pairwise fun later earlier => ∀ i, ends i earlier → ¬ touches i later

/-- Every event of a log with the newest event first meets `P` with what came before it. -/
def Each (P : ε → List ε → Prop) : List ε → Prop
  | [] => True
  | e :: log => P e log ∧ Each P log

variable {e : ε} {log : List ε}

lemma Each.getElem? {P : ε → List ε → Prop} : ∀ {log : List ε} {k : Nat}, Each P log →
    log[k]? = some e → P e (log.drop (k + 1))
  | [], k, _, he => by simp at he
  | e' :: log, 0, h, he => by
    cases he
    exact h.1
  | e' :: log, k + 1, h, he => h.2.getElem? he

section Monitor

variable {σ : Type*} {next : σ → ε → Option σ} {s s' : σ}

/-- The state of a monitor that has read a log, if it has accepted every event. -/
def monitored (next : σ → ε → Option σ) (s : σ) : List ε → Option σ
  | [] => some s
  | e :: log => (monitored next s log).bind (next · e)

lemma monitored_append {later earlier : List ε} (h : monitored next s earlier = some s') :
    monitored next s (later ++ earlier) = monitored next s' later := by
  induction later with
  | nil => exact h
  | cons e later ih => simp [monitored, ih]

lemma monitored_eq_self {log : List ε} (h : ∀ e ∈ log, next s e = some s) :
    monitored next s log = some s := by
  induction log with
  | nil => rfl
  | cons e log ih =>
    rw [monitored, ih fun e' he' => h e' (mem_cons_of_mem e he')]
    exact h e mem_cons_self

/-- **The rule for monitors**: if the state of the monitor says enough about the log to show that an
event is in order when the monitor accepts it, then every event of an accepted log is. -/
theorem each_of_monitored {P : ε → List ε → Prop} {R : σ → List ε → Prop} (hnil : R s [])
    (hcons : ∀ t log e t', R t log → next t e = some t' → P e log ∧ R t' (e :: log)) :
    ∀ {log : List ε} {s' : σ}, monitored next s log = some s' → Each P log ∧ R s' log
  | [], s', h => ⟨True.intro, some.inj h ▸ hnil⟩
  | e :: log, s', h => by
    obtain ⟨t, ht, hnext⟩ := bind_eq_some_iff.mp h
    obtain ⟨heach, hR⟩ := each_of_monitored hnil hcons ht
    obtain ⟨hP, hR'⟩ := hcons t log e s' hR hnext
    exact ⟨⟨hP, heach⟩, hR'⟩

end Monitor

instance [∀ i e, Decidable (ends i e)] (i : ι) (log : List ε) : Decidable (Settled ends i log) :=
  inferInstanceAs (Decidable (∃ e ∈ log, ends i e))

@[simp] lemma settled_nil (i : ι) : ¬ Settled ends i ([] : List ε) := by simp [Settled]

@[simp] lemma settled_cons {i : ι} : Settled ends i (e :: log) ↔ ends i e ∨ Settled ends i log := by
  simp [Settled]

@[simp] lemma final_nil : Final ends touches ([] : List ε) := List.Pairwise.nil

lemma final_cons_iff : Final ends touches (e :: log) ↔
    (∀ i, touches i e → ¬ Settled ends i log) ∧ Final ends touches log := by
  simp only [Final, pairwise_cons, Settled, not_exists, not_and]
  exact ⟨fun h => ⟨fun i ht e' he' hend => h.1 e' he' i hend ht, h.2⟩,
    fun h => ⟨fun e' he' i hend ht => h.1 i ht e' he' hend, h.2⟩⟩

lemma Final.length_filter_le_one (h : Final ends touches log) {i : ι}
    {p : ε → Bool} (hp : ∀ e ∈ log, p e → ends i e ∧ touches i e) :
    (log.filter p).length ≤ 1 := by
  induction log with
  | nil => simp
  | cons e log ih =>
    obtain ⟨hhead, htail⟩ := final_cons_iff.mp h
    by_cases hpe : p e
    · have hnil : log.filter p = [] := by
        refine filter_eq_nil_iff.mpr fun e' he' hpe' => ?_
        have hends := (hp e' (mem_cons_of_mem e he') hpe').1
        exact hhead i (hp e mem_cons_self hpe).2 ⟨e', he', hends⟩
      simp [hpe, hnil]
    · rw [filter_cons_of_neg hpe]
      exact ih htail fun e' he' => hp e' (mem_cons_of_mem e he')

end EventLog
