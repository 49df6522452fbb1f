import CefCore.Foundations.Run
import CefCore.Wrapper.XmlObject
import Mathlib.Data.List.Nodup
import Mathlib.Logic.Relation

/-!
# Trees of XML objects

The parent of an object and the children of an object are kept in two places, and a value excludes
children.

## Main results

* `always_consistent_iff`: the calls of the methods that change objects and keep this so.
-/

lemma Relation.not_transGen_self_of_edge {α : Type} {r : α → α → Prop} {a b : α}
    (hr : ∀ x, ¬ TransGen r x x) (hab : ¬ ReflTransGen r b a) (x : α) :
    ¬ TransGen (fun x y => r x y ∨ x = a ∧ y = b) x x := by
  have hpaths : ∀ {x y}, TransGen (fun x y => r x y ∨ x = a ∧ y = b) x y →
      TransGen r x y ∨ ReflTransGen r x a ∧ ReflTransGen r b y := by
    intro x y hxy
    induction hxy with
    | single hstep =>
      rcases hstep with hold | ⟨rfl, rfl⟩
      · exact .inl (.single hold)
      · exact .inr ⟨.refl, .refl⟩
    | tail _ hstep ih =>
      rcases ih with hold | ⟨hxa, hby⟩ <;> rcases hstep with hstep | ⟨rfl, rfl⟩
      · exact .inl (hold.tail hstep)
      · exact .inr ⟨hold.to_reflTransGen, .refl⟩
      · exact .inr ⟨hxa, hby.tail hstep⟩
      · exact .inr ⟨hxa, .refl⟩
  intro hx
  rcases hpaths hx with hold | ⟨hxa, hbx⟩
  · exact hr x hold
  · exact hab (hbx.trans hxa)

namespace CefCore.Wrapper

open List Heap Transition

/-- `c` is a child of `p`, as `c` has it. -/
def ChildOf (h : Heap) (c p : Nat) : Prop := (h.object c).parent = some p

/-- An object is the parent of those objects that are its children, each of them once, and no object
is below itself. -/
structure TreeShaped (h : Heap) : Prop where
  parent_iff : ∀ p c, (h.object c).parent = some p ↔ c ∈ (h.object p).children
  nodup : ∀ p, (h.object p).children.Nodup
  acyclic : ∀ i, ¬ Relation.TransGen (ChildOf h) i i

/-- Besides, no object has both a value and children. -/
structure Consistent (h : Heap) : Prop extends TreeShaped h where
  exclusive : ∀ i, (h.object i).value = "" ∨ (h.object i).children = []

def start (names : Nat → String) (count : Nat) : Heap :=
  { object := fun i => { name := names i }, next := count }

/-! ### Calls -/

inductive Call where
  | setValue (this : Nat) (value : String)
  | addChild (this child : Nat)
  | removeChild (this child : Nat)
  | clearChildren (this : Nat)
  | clear (this : Nat)
  | set (this object : Nat)

/-- One call. `Set` does not get deeper than to the third level, see `set_eq`. -/
def step (h : Heap) : Call → Option Heap
  | .setValue this value => (setValue [] h this value).toOption.map (·.2)
  | .addChild this child => (addChild [] h this child).toOption.map (·.2)
  | .removeChild this child => (removeChild [] h this child).toOption.map (·.2)
  | .clearChildren this => (clearChildren [] h this).toOption
  | .clear this => (clear [] h this).toOption
  | .set this object => (set 3 [] h this object).toOption

/-- If `AddChild` adds the child, then the object has no value and is not below the child. -/
def Careful (h : Heap) : Call → Prop
  | .addChild this child => (h.object child).parent = none → child ≠ this →
      (h.object this).value = "" ∧ ¬ Relation.TransGen (ChildOf h) this child
  | _ => True

/-! ### Heaps with the same links -/

section Links

variable {h h' : Heap}

lemma consistent_start (names : Nat → String) (count : Nat) : Consistent (start names count) where
  parent_iff p c := ⟨nofun, nofun⟩
  nodup p := nodup_nil
  acyclic i hi := by
    obtain ⟨_, hstep, _⟩ := Relation.TransGen.head'_iff.mp hi
    cases hstep
  exclusive i := .inl rfl

lemma TreeShaped.not_mem_self (hs : TreeShaped h) (i : Nat) : i ∉ (h.object i).children := fun hi =>
  hs.acyclic i (.single ((hs.parent_iff i i).mpr hi))

lemma TreeShaped.of_links (hs : TreeShaped h)
    (hparent : ∀ j, (h'.object j).parent = (h.object j).parent)
    (hchildren : ∀ j, (h'.object j).children = (h.object j).children) : TreeShaped h' where
  parent_iff p c := by
    rw [hparent, hchildren]
    exact hs.parent_iff p c
  nodup p := by
    rw [hchildren]
    exact hs.nodup p
  acyclic i hi := by
    refine hs.acyclic i (Relation.TransGen.mono (fun c p hcp => ?_) i i hi)
    unfold ChildOf at hcp ⊢
    rwa [hparent] at hcp

lemma TreeShaped.detach (hs : TreeShaped h) (this : Nat) (D : Nat → Bool)
    (hparent : ∀ j, (h'.object j).parent =
      if D j = true ∧ j ∈ (h.object this).children then none else (h.object j).parent)
    (hchildren : ∀ i, (h'.object i).children =
      if i = this then (h.object this).children.filter (fun j => !D j)
      else (h.object i).children) : TreeShaped h' where
  parent_iff p c := by
    have hc := hs.parent_iff p c
    have hthis := hs.parent_iff this c
    rw [hparent, hchildren]
    by_cases hp : p = this
    · subst hp
      rw [if_pos rfl, mem_filter, Bool.not_eq_true']
      by_cases hmem : c ∈ (h.object p).children
      · cases hD : D c <;> simp [hmem, hc]
      · simp [hmem, hc]
    · rw [if_neg hp, ← hc]
      split
      · rename_i hdetached
        have hother := hthis.mpr hdetached.2
        simp [hother, Ne.symm hp]
      · exact Iff.rfl
  nodup p := by
    rw [hchildren]
    split
    · exact (hs.nodup this).filter _
    · exact hs.nodup p
  acyclic i hi := by
    refine hs.acyclic i (Relation.TransGen.mono (fun c p hcp => ?_) i i hi)
    unfold ChildOf at hcp ⊢
    rw [hparent] at hcp
    split at hcp
    · cases hcp
    · exact hcp

lemma Consistent.detach_all (hs : Consistent h) (this : Nat)
    (hparent : ∀ j, (h'.object j).parent =
      if j ∈ (h.object this).children then none else (h.object j).parent)
    (hchildren : ∀ i, (h'.object i).children = if i = this then [] else (h.object i).children)
    (hvalue : ∀ i, (h'.object i).value = (h.object i).value) : Consistent h' where
  toTreeShaped := by
    refine hs.toTreeShaped.detach this (fun _ => true) (fun j => ?_) fun i => ?_
    · rw [hparent]
      simp
    · rw [hchildren]
      simp
  exclusive i := by
    rw [hvalue, hchildren]
    split
    · exact .inr rfl
    · exact hs.exclusive i

end Links

/-! ### What one call does to the links -/

section Steps

variable {h h' : Heap}

variable {child this : Nat}

lemma step_setValue (hs : Consistent h) {value : String}
    (hstep : step h (.setValue this value) = some h') : Consistent h' := by
  rw [step, setValue_eq] at hstep
  split at hstep
  · rename_i hnone
    cases hstep
    have hparent := get_modify XmlObject.parent (f := fun o => { o with value := value })
      (fun _ => rfl) h this
    have hchildren := get_modify XmlObject.children (f := fun o => { o with value := value })
      (fun _ => rfl) h this
    refine ⟨hs.toTreeShaped.of_links hparent hchildren, fun i => ?_⟩
    by_cases hi : i = this
    · rw [hchildren, hi]
      exact .inr hnone
    · rw [object_modify_of_ne hi]
      exact hs.exclusive i
  · cases hstep
    exact hs

/-- The heap behind `AddChild`. -/
def childAdded (h : Heap) (this child : Nat) : Heap :=
  (h.modify this fun o => { o with children := o.children ++ [child] }).modify child
    fun o => { o with parent := some this }

lemma object_childAdded (h : Heap) (hne : child ≠ this) (j : Nat) :
    ((childAdded h this child).object j).parent =
        (if j = child then some this else (h.object j).parent) ∧
      ((childAdded h this child).object j).children =
        (if j = this then (h.object this).children ++ [child] else (h.object j).children) ∧
      ((childAdded h this child).object j).value = (h.object j).value := by
  unfold childAdded
  rw [object_modify, object_modify, object_modify]
  by_cases hj : j = child
  · simp [hj, hne]
  · by_cases hthis : j = this
    · simp [hthis, Ne.symm hne]
    · simp [hj, hthis]

lemma childOf_childAdded (hne : child ≠ this)
    (hnone : (h.object child).parent = none) (c p : Nat) : ChildOf (childAdded h this child) c p ↔
      ChildOf h c p ∨ c = child ∧ p = this := by
  unfold ChildOf
  rw [(object_childAdded h hne c).1]
  by_cases hc : c = child
  · subst hc
    simp [hnone, eq_comm]
  · simp [hc]

lemma consistent_childAdded (hs : Consistent h) (hne : child ≠ this)
    (hnone : (h.object child).parent = none) (hvalue : (h.object this).value = "")
    (hbelow : ¬ Relation.TransGen (ChildOf h) this child) :
    Consistent (childAdded h this child) where
  parent_iff p c := by
    have hc := hs.parent_iff p c
    rw [(object_childAdded h hne c).1, (object_childAdded h hne p).2.1]
    by_cases hchild : c = child
    · subst hchild
      rw [hnone] at hc
      by_cases hp : p = this
      · simp [hp]
      · simp [hp, Ne.symm hp, ← hc]
    · by_cases hp : p = this
      · subst hp
        simp [hchild, hc]
      · simp [hchild, hp, hc]
  nodup p := by
    rw [(object_childAdded h hne p).2.1]
    split
    · have hnew : child ∉ (h.object this).children := by
        rw [← hs.parent_iff, hnone]
        exact nofun
      exact nodup_append.mpr ⟨hs.nodup this, nodup_singleton child, by
        rintro a ha b hb rfl
        exact hnew (mem_singleton.mp hb ▸ ha)⟩
    · exact hs.nodup p
  acyclic i hi := by
    have hedge : ¬ Relation.ReflTransGen (ChildOf h) this child := by
      rw [Relation.reflTransGen_iff_eq_or_transGen, not_or]
      exact ⟨hne, hbelow⟩
    refine Relation.not_transGen_self_of_edge hs.acyclic hedge i ?_
    exact Relation.TransGen.mono (fun c p hcp => (childOf_childAdded hne hnone c p).mp hcp) i i hi
  exclusive i := by
    rw [(object_childAdded h hne i).2.1, (object_childAdded h hne i).2.2]
    split
    · rename_i hi
      rw [hi]
      exact .inl hvalue
    · exact hs.exclusive i

/-- **A call of `AddChild` that is not careful** adds the child to an object with a value, or makes a
cycle. -/
lemma not_consistent_childAdded (hne : child ≠ this) (hnone : (h.object child).parent = none)
    (hbad : ¬ ((h.object this).value = "" ∧ ¬ Relation.TransGen (ChildOf h) this child)) :
    ¬ Consistent (childAdded h this child) := by
  intro hs
  rw [not_and_or, not_not] at hbad
  rcases hbad with hvalue | hbelow
  · rcases hs.exclusive this with hempty | hchildren
    · rw [(object_childAdded h hne this).2.2] at hempty
      exact hvalue hempty
    · rw [(object_childAdded h hne this).2.1, if_pos rfl] at hchildren
      simp at hchildren
  · have hold : Relation.TransGen (ChildOf (childAdded h this child)) this child :=
      Relation.TransGen.mono
        (fun c p hcp => (childOf_childAdded hne hnone c p).mpr (.inl hcp)) this child hbelow
    have hnew : ChildOf (childAdded h this child) child this :=
      (childOf_childAdded hne hnone child this).mpr (.inr ⟨rfl, rfl⟩)
    exact hs.acyclic this (hold.tail hnew)

lemma step_addChild (h : Heap) (this child : Nat) : step h (.addChild this child) =
    if (h.object child).parent.isSome then some h
    else if child = this then none
    else some (childAdded h this child) := by
  rw [step, addChild_eq]
  split
  · rfl
  · split <;> rfl

section

variable (hs : Consistent h)
include hs

lemma step_removeChild (hstep : step h (.removeChild this child) = some h') : Consistent h' := by
  rw [step, removeChild_eq] at hstep
  split at hstep
  · rename_i hmem
    split at hstep
    · cases hstep
    · rename_i hne
      cases hstep
      have hlinks : ∀ j, (((h.modify this fun o =>
            { o with children := o.children.erase child }).modify child
            fun o => { o with parent := none }).object j).parent =
          (if j = child then none else (h.object j).parent) ∧
          (((h.modify this fun o => { o with children := o.children.erase child }).modify child
            fun o => { o with parent := none }).object j).children =
          (if j = this then (h.object this).children.erase child else (h.object j).children) ∧
          (((h.modify this fun o => { o with children := o.children.erase child }).modify child
            fun o => { o with parent := none }).object j).value = (h.object j).value := by
        intro j
        rw [object_modify, object_modify, object_modify]
        by_cases hj : j = child
        · simp [hj, hne]
        · by_cases hthis : j = this
          · simp [hthis, Ne.symm hne]
          · simp [hj, hthis]
      refine ⟨hs.toTreeShaped.detach this (fun j => j = child) (fun j => ?_)
        fun i => ?_, fun i => ?_⟩
      · rw [(hlinks j).1]
        by_cases hj : j = child
        · simp [hj, hmem]
        · simp [hj]
      · have hne_eq : (fun j => j != child) = fun j => !decide (j = child) := by
          funext j
          by_cases hj : j = child <;> simp [hj]
        rw [(hlinks i).2.1, (hs.nodup this).erase_eq_filter, hne_eq]
      · rw [(hlinks i).2.2, (hlinks i).2.1]
        split
        · rename_i hi
          rw [hi]
          rcases hs.exclusive this with hvalue | hchildren
          · exact .inl hvalue
          · rw [hchildren] at hmem
            cases hmem
        · exact hs.exclusive i
  · cases hstep
    exact hs

lemma step_clearChildren (hstep : step h (.clearChildren this) = some h') : Consistent h' := by
  have hself := hs.not_mem_self this
  rw [step, clearChildren_eq, if_neg hself] at hstep
  cases hstep
  have hobject : ∀ j, ((h.orphan (h.object this).children).modify this fun o =>
      { o with children := [] }).object j =
        if j = this then { h.object this with children := [] }
        else if j ∈ (h.object this).children then { h.object j with parent := none }
        else h.object j := by
    intro j
    rw [object_modify, object_orphan, object_orphan, if_neg hself]
  refine hs.detach_all this (fun j => ?_) (fun i => ?_) fun i => ?_
  all_goals
    rw [hobject]
    split
    · simp_all
    · split <;> rfl

lemma consistent_cleared (this : Nat) : Consistent (cleared h this) := by
  have hself := hs.not_mem_self this
  refine hs.detach_all this (fun j => ?_) (fun i => ?_) fun i => ?_
  all_goals
    rw [object_cleared h this hself]
    split
    · simp_all
    · split <;> rfl

lemma step_set {object : Nat}
    (hstep : step h (.set this object) = some h') : Consistent h' := by
  rw [step, set_eq 0 h this object (hs.not_mem_self this)] at hstep
  split at hstep
  · cases hstep
    have hcleared := consistent_cleared hs this
    -- the name and the attributes are not among the links
    have hlinks : ∀ {β : Type} (get : XmlObject → β),
        (∀ o name, get { o with name := name } = get o) →
        (∀ o attributes, get { o with attributes := attributes } = get o) →
        ∀ j, get ((setHeap h this object).object j) = get ((cleared h this).object j) := by
      intro β get hname hattributes j
      unfold setHeap
      rw [get_modify get (fun o => hattributes o _), get_modify get (fun o => hname o _)]
    refine ⟨hcleared.toTreeShaped.of_links (hlinks _ (fun _ _ => rfl) fun _ _ => rfl)
      (hlinks _ (fun _ _ => rfl) fun _ _ => rfl), fun i => ?_⟩
    rw [hlinks XmlObject.value (fun _ _ => rfl) fun _ _ => rfl,
      hlinks XmlObject.children (fun _ _ => rfl) fun _ _ => rfl]
    exact hcleared.exclusive i
  · cases hstep

end

lemma step_consistent (h : Heap) (call : Call) (h' : Heap) (hs : Consistent h)
    (hcareful : Careful h call) (hstep : step h call = some h') : Consistent h' := by
  cases call with
  | setValue this value => exact step_setValue hs hstep
  | addChild this child =>
    rw [step_addChild] at hstep
    split at hstep
    · cases hstep
      exact hs
    · rename_i hparent
      split at hstep
      · cases hstep
      · rename_i hne
        cases hstep
        have hnone : (h.object child).parent = none := by simpa using hparent
        obtain ⟨hvalue, hbelow⟩ := hcareful hnone hne
        exact consistent_childAdded hs hne hnone hvalue hbelow
  | removeChild this child => exact step_removeChild hs hstep
  | clearChildren this => exact step_clearChildren hs hstep
  | clear this =>
    rw [step, clear_eq, if_neg (hs.not_mem_self this)] at hstep
    cases hstep
    exact consistent_cleared hs this
  | set this object => exact step_set hs hstep

lemma not_consistent_of_not_careful {call : Call} (hcareless : ¬ Careful h call) :
    ∃ h', step h call = some h' ∧ ¬ Consistent h' := by
  cases call with
  | addChild this child =>
    simp only [Careful, not_forall] at hcareless
    obtain ⟨hnone, hne, hbad⟩ := hcareless
    refine ⟨childAdded h this child, ?_, not_consistent_childAdded hne hnone hbad⟩
    rw [step_addChild, hnone, if_neg (by simp), if_neg hne]
  | setValue | removeChild | clearChildren | clear | set => exact absurd True.intro hcareless

end Steps

/-- **Consistent runs.** Starting from new objects, all states of a run are consistent if and only if
whenever a child without a parent is added to another object, this object has no value and is not
below the child.

**Proof sketch.** A careful call keeps the objects consistent, one that is not careful leads to an
object with a value and a child, or to a cycle. -/
theorem always_consistent_iff (names : Nat → String) (count : Nat) (calls : List Call) :
    Always step Consistent (start names count) calls ↔
      Along step Careful (start names count) calls :=
  Along.iff_always (I := fun _ => True)
    (fun h call h' _ hs hcareful hstep => ⟨True.intro, step_consistent h call h' hs hcareful hstep⟩)
    (fun _ _ _ _ hcareless => not_consistent_of_not_careful hcareless)
    calls _ True.intro (consistent_start names count)

/-- An object with a value gets a child, and two objects become children of each other. -/
theorem not_always_consistent :
    ¬ Always step Consistent (start (fun _ => "a") 2) [.setValue 0 "v", .addChild 0 1] ∧
      ¬ Always step Consistent (start (fun _ => "a") 2)
        [.addChild 0 1, .addChild 1 0] := by
  constructor
  · refine not_always_of_any 2
      (p := fun h => (h.object 0).value = "v" && (h.object 0).children = [1]) (by decide) ?_
    intro h hboth hs
    simp only [Bool.and_eq_true, decide_eq_true_eq] at hboth
    rcases hs.exclusive 0 with hvalue | hchildren
    · simp [hboth.1] at hvalue
    · simp [hboth.2] at hchildren
  · refine not_always_of_any 2
      (p := fun h => (h.object 0).parent = some 1 && (h.object 1).parent = some 0) (by decide) ?_
    intro h hboth hs
    simp only [Bool.and_eq_true, decide_eq_true_eq] at hboth
    exact hs.acyclic 0 (.tail (.single hboth.1) hboth.2)

end CefCore.Wrapper
