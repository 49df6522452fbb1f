import Mathlib.Data.List.Nodup

/-!
# Blocks of `let` statements

The names of a block of statements `let (p₁, …, pₙ) = e;`. A pattern may not bind a name twice, an
expression may read what is bound at its place, and a name that is bound once more hides the one that
was bound before.

## Main results

* `exists_execAll`: a block that is well scoped can be executed.
-/

namespace LetBlock

open List Option

variable {ν ι : Type*}

/-- The names of a pattern, and the names that the expression reads. -/
structure Binding (ν : Type*) where
  pattern : List ν
  reads : List ν

variable [DecidableEq ν] {params locals locals' avail : List ν} {b : Binding ν}
  {bs cs : List (Binding ν)}

/-- The names that are bound after a statement; the names of the parameters may be read as well. -/
def exec (params locals : List ν) (b : Binding ν) : Option (List ν) :=
  if b.pattern.Nodup ∧ ∀ x ∈ b.reads, x ∈ locals ∨ x ∈ params then
    some (b.pattern ++ locals.filter (· ∉ b.pattern))
  else
    none

def execAll (params : List ν) : List ν → List (Binding ν) → Option (List ν)
  | locals, [] => some locals
  | locals, b :: bs => (exec params locals b).bind fun locals => execAll params locals bs

/-- Every pattern binds its names once, and every statement reads what is bound at its place. -/
def WellScoped (params : List ν) : List ν → List (Binding ν) → Prop
  | _, [] => True
  | avail, b :: bs => b.pattern.Nodup ∧ (∀ x ∈ b.reads, x ∈ avail ∨ x ∈ params) ∧
      WellScoped params (b.pattern ++ avail) bs

omit [DecidableEq ν] in
@[simp] lemma wellScoped_nil : WellScoped params avail [] := trivial

omit [DecidableEq ν] in
@[simp] lemma wellScoped_cons : WellScoped params avail (b :: bs) ↔
    b.pattern.Nodup ∧ (∀ x ∈ b.reads, x ∈ avail ∨ x ∈ params) ∧
      WellScoped params (b.pattern ++ avail) bs := Iff.rfl

omit [DecidableEq ν] in
lemma WellScoped.mono {avail' : List ν} (h : WellScoped params avail bs) (hsub : avail ⊆ avail') :
    WellScoped params avail' bs := by
  induction bs generalizing avail avail' with
  | nil => trivial
  | cons b bs ih =>
    obtain ⟨hnodup, hreads, hrest⟩ := h
    refine ⟨hnodup, fun x hx => (hreads x hx).imp_left (hsub ·), ?_⟩
    exact ih hrest (append_subset.mpr
      ⟨subset_append_left .., List.Subset.trans hsub (subset_append_right ..)⟩)

omit [DecidableEq ν] in
lemma WellScoped.append (h : WellScoped params avail bs)
    (h' : WellScoped params (bs.flatMap (·.pattern) ++ avail) cs) :
    WellScoped params avail (bs ++ cs) := by
  induction bs generalizing avail with
  | nil => exact h'
  | cons b bs ih =>
    obtain ⟨hnodup, hreads, hrest⟩ := h
    refine ⟨hnodup, hreads, ih hrest (h'.mono ?_)⟩
    intro x hx
    rw [flatMap_cons, append_assoc, mem_append, mem_append] at hx
    rw [mem_append, mem_append]
    tauto

omit [DecidableEq ν] in
lemma wellScoped_flatMap {f : ι → List (Binding ν)} : ∀ {is : List ι},
    (∀ i ∈ is, WellScoped params avail (f i)) → WellScoped params avail (is.flatMap f)
  | [], _ => trivial
  | i :: is, h => by
    rw [flatMap_cons]
    refine (h i mem_cons_self).append (WellScoped.mono ?_ (subset_append_right ..))
    exact wellScoped_flatMap fun j hj => h j (mem_cons_of_mem i hj)

/-! ### What is bound -/

lemma exec_eq_some_iff : exec params locals b = some locals' ↔
    (b.pattern.Nodup ∧ ∀ x ∈ b.reads, x ∈ locals ∨ x ∈ params) ∧
      locals' = b.pattern ++ locals.filter (· ∉ b.pattern) := by
  unfold exec
  split
  · rename_i hok
    exact ⟨fun h => ⟨hok, (some.inj h).symm⟩, fun h => congrArg some h.2.symm⟩
  · rename_i hnot
    exact ⟨fun h => absurd h.symm (some_ne_none _), fun h => absurd h.1 hnot⟩

lemma execAll_cons_eq_some_iff : execAll params locals (b :: bs) = some locals' ↔
    ∃ mid, exec params locals b = some mid ∧ execAll params mid bs = some locals' :=
  bind_eq_some_iff

lemma mem_of_exec (h : exec params locals b = some locals') (x : ν) :
    x ∈ locals' ↔ x ∈ b.pattern ∨ x ∈ locals := by
  obtain ⟨-, rfl⟩ := exec_eq_some_iff.mp h
  rw [mem_append, mem_filter]
  by_cases hx : x ∈ b.pattern
  · simp [hx]
  · simp [hx]

lemma nodup_of_exec (h : exec params locals b = some locals') (hlocals : locals.Nodup) :
    locals'.Nodup := by
  obtain ⟨⟨hpattern, -⟩, rfl⟩ := exec_eq_some_iff.mp h
  refine hpattern.append (hlocals.filter _) ?_
  intro x hx hfilter
  have hnot := (mem_filter.mp hfilter).2
  exact (of_decide_eq_true hnot) hx

/-- **The names that are bound after a block** are those of its patterns, and those from before. -/
lemma mem_of_execAll (h : execAll params locals bs = some locals') (x : ν) :
    x ∈ locals' ↔ x ∈ bs.flatMap (·.pattern) ∨ x ∈ locals := by
  induction bs generalizing locals with
  | nil =>
    cases h
    simp
  | cons b bs ih =>
    obtain ⟨mid, hexec, hrest⟩ := execAll_cons_eq_some_iff.mp h
    rw [ih hrest, mem_of_exec hexec, flatMap_cons, mem_append]
    tauto

lemma nodup_of_execAll (h : execAll params locals bs = some locals') (hlocals : locals.Nodup) :
    locals'.Nodup := by
  induction bs generalizing locals with
  | nil =>
    cases h
    exact hlocals
  | cons b bs ih =>
    obtain ⟨mid, hexec, hrest⟩ := execAll_cons_eq_some_iff.mp h
    exact ih hrest (nodup_of_exec hexec hlocals)

lemma exists_execAll (h : WellScoped params avail bs) (hsub : avail ⊆ locals) :
    ∃ locals', execAll params locals bs = some locals' := by
  induction bs generalizing avail locals with
  | nil => exact ⟨locals, rfl⟩
  | cons b bs ih =>
    obtain ⟨hnodup, hreads, hrest⟩ := h
    have hexec := exec_eq_some_iff.mpr
      ⟨⟨hnodup, fun x hx => (hreads x hx).imp_left (hsub ·)⟩, rfl⟩
    have hmid : b.pattern ++ avail ⊆ b.pattern ++ locals.filter (· ∉ b.pattern) := by
      intro x hx
      rw [mem_of_exec hexec]
      exact (mem_append.mp hx).imp_right (hsub ·)
    obtain ⟨locals', hlocals'⟩ := ih hrest hmid
    exact ⟨locals', execAll_cons_eq_some_iff.mpr ⟨_, hexec, hlocals'⟩⟩

end LetBlock
