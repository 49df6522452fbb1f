import CefCore.Foundations.JsonValue
import CefCore.Foundations.Run
import Mathlib.Algebra.Group.Int.Defs

/-!
# The action trace

`CefActionTrace` of `libcef/browser/action_trace.cc`: the actions of an agent, each with a number.
An action that takes time is begun by one call and ended by another one, which gives the number that
the first one returned. More data can be attached to it in the same way. `Clear` drops all actions
and starts the numbers again.

## Main results

* `changesOnly_iff`: when a call changes only the action that it is for.

## Implementation notes

* Between two calls of `Clear` the vector of actions only grows at its end, so that the place of an
  action tells which one it is.
* `next_id_` is an `int`. Adding one to the greatest `int` has no defined result: there the run ends.
* The functions that only read the trace are left out.
-/

namespace CefCore.Browser.ActionTrace

open List Option

/-- The bytes of a `std::string`. -/
abbrev Bytes := List UInt8

inductive Level where
  | summary
  | detail
  | full
  deriving DecidableEq

/-- `CefActionTrace::Action`. Times are in microseconds. -/
structure Action where
  id : Int := 0
  type : Bytes := []
  target : Bytes := []
  success : Bool := true
  error : Bytes := []
  resultSummary : Bytes := []
  startedAt : Int := 0
  completedAt : Int := 0
  duration : Int := 0
  snapshotBefore : Bytes := []
  snapshotAfter : Bytes := []
  screenshotPath : Bytes := []
  metadata : JsonDict := []
  deriving DecidableEq

structure CefActionTrace where
  level : Level := .detail
  actions : List Action := []
  nextId : Int := 1

def truncate (s : Bytes) (maxLen : Nat) : Bytes :=
  if s.length ≤ maxLen then s
  else if maxLen ≤ 3 then s.take maxLen
  else s.take (maxLen - 3) ++ [46, 46, 46]

def timeSub (a b : Int) : Int := max (-2 ^ 63) (min (2 ^ 63 - 1) (a - b))

/-- The greatest `int`. -/
def intMax : Int := 2 ^ 31 - 1

/-- An `int` and one, if there is a greater one. -/
def increment (i : Int) : Option Int := if i < intMax then some (i + 1) else none

/-- `FindAction`, as a place in the vector. -/
def findAction (actions : List Action) (actionId : Int) : Option Nat :=
  actions.findIdx? fun action => action.id = actionId

section Functions

variable (t : CefActionTrace)

def setLevel (level : Level) : CefActionTrace := { t with level := level }

/-- An action with the next number is put at the end. -/
def pushAction (action : Action) : Option (Int × CefActionTrace) :=
  (increment t.nextId).map fun nextId =>
    (t.nextId, { t with actions := t.actions ++ [{ action with id := t.nextId }], nextId := nextId })

def recordAction (type target : Bytes) (success : Bool) (error resultSummary : Bytes) (now : Int) :
    Option (Int × CefActionTrace) :=
  pushAction t
    { type := type, target := target, success := success, error := error,
      resultSummary := truncate resultSummary 200, startedAt := now, completedAt := now }

def beginAction (type target : Bytes) (now : Int) : Option (Int × CefActionTrace) :=
  pushAction t { type := type, target := target, startedAt := now }

section

variable (actionId : Int)

def changeAction (change : Action → Action) : CefActionTrace :=
  match findAction t.actions actionId with
  | none => t
  | some i => { t with actions := t.actions.modify i change }

def endAction (success : Bool) (error resultSummary : Bytes) (now : Int) : CefActionTrace :=
  changeAction t actionId fun action =>
    { action with
      completedAt := now
      duration := timeSub now action.startedAt
      success := success
      error := error
      resultSummary := truncate resultSummary 200 }

/-- Data is attached to the action with a number at the third level only. -/
def attach (change : Action → Action) : CefActionTrace :=
  if t.level ≠ .full then t else changeAction t actionId change

def attachSnapshot (snapshotBefore snapshotAfter : Bytes) : CefActionTrace :=
  attach t actionId fun action =>
    { action with snapshotBefore := snapshotBefore, snapshotAfter := snapshotAfter }

def attachScreenshot (screenshotPath : Bytes) : CefActionTrace :=
  attach t actionId fun action => { action with screenshotPath := screenshotPath }

def attachMetadata (metadata : JsonDict) : CefActionTrace :=
  attach t actionId fun action => { action with metadata := metadata }

end

def clear : CefActionTrace := { t with actions := [], nextId := 1 }

end Functions

/-! ### Runs -/

inductive Creation where
  | recordAction (type target : Bytes) (success : Bool) (error resultSummary : Bytes) (now : Int)
  | beginAction (type target : Bytes) (now : Int)

inductive Edit where
  | endAction (success : Bool) (error resultSummary : Bytes) (now : Int)
  | attachSnapshot (snapshotBefore snapshotAfter : Bytes)
  | attachScreenshot (screenshotPath : Bytes)
  | attachMetadata (metadata : JsonDict)

inductive Call where
  | create (creation : Creation)
  | edit (actionId : Int) (edit : Edit)
  | setLevel (level : Level)
  | clear

/-- The number that a call returns, and the trace behind it. -/
def Creation.run (t : CefActionTrace) : Creation → Option (Int × CefActionTrace)
  | .recordAction type target success error resultSummary now =>
    ActionTrace.recordAction t type target success error resultSummary now
  | .beginAction type target now => ActionTrace.beginAction t type target now

def Edit.run (t : CefActionTrace) (actionId : Int) : Edit → CefActionTrace
  | .endAction success error resultSummary now =>
    ActionTrace.endAction t actionId success error resultSummary now
  | .attachSnapshot snapshotBefore snapshotAfter =>
    ActionTrace.attachSnapshot t actionId snapshotBefore snapshotAfter
  | .attachScreenshot screenshotPath => ActionTrace.attachScreenshot t actionId screenshotPath
  | .attachMetadata metadata => ActionTrace.attachMetadata t actionId metadata

def step (t : CefActionTrace) : Call → Option CefActionTrace
  | .create creation => (creation.run t).map (·.2)
  | .edit actionId edit => some (edit.run t actionId)
  | .setLevel level => some (ActionTrace.setLevel t level)
  | .clear => some (ActionTrace.clear t)

def Edit.attaches : Edit → Bool
  | .endAction .. => false
  | .attachSnapshot .. | .attachScreenshot _ | .attachMetadata _ => true

/-- The call is `Clear`. -/
def Call.isClear : Call → Bool
  | .clear => true
  | _ => false

/-! ### What one call does -/

variable {i : Nat} {t t' : CefActionTrace}

lemma Creation.run_eq_some {creation : Creation} {actionId : Int}
    (h : creation.run t = some (actionId, t')) :
    actionId = t.nextId ∧ ∃ action, action.id = t.nextId ∧
      t' = { t with actions := t.actions ++ [action], nextId := t.nextId + 1 } := by
  have hpush : ∀ action, pushAction t action = some (actionId, t') →
      actionId = t.nextId ∧ ∃ action, action.id = t.nextId ∧
        t' = { t with actions := t.actions ++ [action], nextId := t.nextId + 1 } := by
    intro action hrun
    obtain ⟨nextId, hnext, heq⟩ := map_eq_some_iff.mp hrun
    cases heq
    unfold increment at hnext
    split at hnext
    · cases hnext
      exact ⟨rfl, _, rfl, rfl⟩
    · cases hnext
  cases creation with
  | recordAction => exact hpush _ h
  | beginAction => exact hpush _ h

structure SameAction (action action' : Action) : Prop where
  id_eq : action'.id = action.id
  type_eq : action'.type = action.type
  target_eq : action'.target = action.target
  startedAt_eq : action'.startedAt = action.startedAt

lemma Edit.exists_change (edit : Edit) : ∃ change : Action → Action,
    (∀ action, SameAction action (change action)) ∧ ∀ t actionId, edit.run t actionId =
      if edit.attaches = true ∧ t.level ≠ .full then t else changeAction t actionId change := by
  have hattach : ∀ (change : Action → Action) t actionId, attach t actionId change =
      if true = true ∧ t.level ≠ .full then t else changeAction t actionId change := by
    intro change t actionId
    unfold attach
    by_cases hfull : t.level = .full <;> simp [hfull]
  cases edit with
  | endAction success error resultSummary now =>
    refine ⟨fun action =>
      { action with
        completedAt := now
        duration := timeSub now action.startedAt
        success := success
        error := error
        resultSummary := truncate resultSummary 200 },
      fun _ => ⟨rfl, rfl, rfl, rfl⟩, fun t actionId => ?_⟩
    rw [if_neg (fun h => Bool.false_ne_true h.1)]
    rfl
  | attachSnapshot snapshotBefore snapshotAfter =>
    exact ⟨fun action =>
      { action with snapshotBefore := snapshotBefore, snapshotAfter := snapshotAfter },
      fun _ => ⟨rfl, rfl, rfl, rfl⟩, hattach _⟩
  | attachScreenshot screenshotPath =>
    exact ⟨fun action => { action with screenshotPath := screenshotPath },
      fun _ => ⟨rfl, rfl, rfl, rfl⟩, hattach _⟩
  | attachMetadata metadata =>
    exact ⟨fun action => { action with metadata := metadata },
      fun _ => ⟨rfl, rfl, rfl, rfl⟩, hattach _⟩

/-! ### Numbers -/

structure Numbered (t : CefActionTrace) : Prop where
  id_eq : ∀ (i : Nat) action, t.actions[i]? = some action → action.id = i + 1
  nextId_eq : t.nextId = t.actions.length + 1

lemma numbered_init : Numbered {} := ⟨nofun, rfl⟩

lemma Numbered.modify (h : Numbered t) {change : Action → Action}
    (hchange : ∀ action, SameAction action (change action)) (i : Nat) :
    Numbered { t with actions := t.actions.modify i change } where
  id_eq j action haction := by
    rw [getElem?_modify] at haction
    obtain ⟨old, hold, rfl⟩ := map_eq_some_iff.mp haction
    have hid := h.id_eq j old hold
    split <;> simp [(hchange old).id_eq, hid]
  nextId_eq := by
    rw [length_modify]
    exact h.nextId_eq

lemma Numbered.findAction_eq_some_iff (h : Numbered t) {actionId : Int} :
    findAction t.actions actionId = some i ↔ i < t.actions.length ∧ actionId = i + 1 := by
  have hid : ∀ (j : Nat) (hj : j < t.actions.length), t.actions[j].id = j + 1 := fun j hj =>
    h.id_eq j _ (getElem?_eq_getElem hj)
  unfold findAction
  rw [findIdx?_eq_some_iff_getElem]
  simp only [decide_eq_true_eq]
  constructor
  · rintro ⟨hi, hfound, -⟩
    exact ⟨hi, hfound.symm.trans (hid i hi)⟩
  · rintro ⟨hi, rfl⟩
    refine ⟨hi, hid i hi, fun j hj heq => ?_⟩
    rw [hid j (Nat.lt_trans hj hi)] at heq
    omega

lemma Numbered.edit (h : Numbered t) (actionId : Int) (edit : Edit) :
    Numbered (edit.run t actionId) := by
  obtain ⟨change, hchange, hrun⟩ := edit.exists_change
  rw [hrun]
  split
  · exact h
  · unfold changeAction
    split
    · exact h
    · exact h.modify hchange _

lemma step_numbered (t : CefActionTrace) (call : Call) (t' : CefActionTrace) (h : Numbered t)
    (hstep : step t call = some t') : Numbered t' := by
  cases call with
  | create creation =>
    obtain ⟨⟨actionId, t₁⟩, hrun, rfl⟩ := map_eq_some_iff.mp hstep
    obtain ⟨-, action, haction, rfl⟩ := Creation.run_eq_some hrun
    refine ⟨fun i other hother => ?_, ?_⟩
    · rcases getElem?_concat_eq_some.mp hother with hold | ⟨rfl, rfl⟩
      · exact h.id_eq i other hold
      · rw [haction, h.nextId_eq]
    · rw [length_append, length_singleton, h.nextId_eq]
      push_cast
      rfl
  | edit actionId edit =>
    cases hstep
    exact h.edit actionId edit
  | setLevel level =>
    cases hstep
    exact ⟨h.id_eq, h.nextId_eq⟩
  | clear =>
    cases hstep
    exact ⟨nofun, rfl⟩

theorem run_numbered {calls : List Call} (h : Numbered t)
    (hrun : calls.foldlM step t = some t') : Numbered t' :=
  Transition.run_invariant step_numbered h hrun

/-! ### Places -/

lemma Numbered.getElem?_edit (h : Numbered t) (actionId : Int) (edit : Edit)
    (hi : actionId ≠ i + 1) : (edit.run t actionId).actions[i]? = t.actions[i]? := by
  obtain ⟨change, -, hrun⟩ := edit.exists_change
  rw [hrun]
  split
  · rfl
  · unfold changeAction
    split
    · rfl
    · rename_i j hj
      have hne : j ≠ i := by
        rintro rfl
        exact hi (h.findAction_eq_some_iff.mp hj).2
      exact getElem?_modify_ne change _ hne

lemma step_getElem? {call : Call} (hcall : call.isClear = false)
    (hstep : step t call = some t') {action : Action} (haction : t.actions[i]? = some action) :
    ∃ action', t'.actions[i]? = some action' ∧ SameAction action action' := by
  have hsame : ∀ action, SameAction action action := fun _ => ⟨rfl, rfl, rfl, rfl⟩
  cases call with
  | create creation =>
    obtain ⟨⟨actionId, t₁⟩, hrun, rfl⟩ := map_eq_some_iff.mp hstep
    obtain ⟨-, last, -, rfl⟩ := Creation.run_eq_some hrun
    exact ⟨action, getElem?_concat_eq_some.mpr (.inl haction), hsame action⟩
  | edit actionId edit =>
    cases hstep
    obtain ⟨change, hchange, hrun⟩ := edit.exists_change
    rw [hrun]
    split
    · exact ⟨action, haction, hsame action⟩
    · unfold changeAction
      split
      · exact ⟨action, haction, hsame action⟩
      · rename_i j _
        by_cases hj : j = i
        · refine ⟨change action, ?_, hchange action⟩
          rw [hj, getElem?_modify_eq, haction]
          rfl
        · exact ⟨action, (getElem?_modify_ne change _ hj).trans haction, hsame action⟩
  | setLevel level =>
    cases hstep
    exact ⟨action, haction, hsame action⟩
  | clear => exact absurd hcall.symm Bool.false_ne_true

/-- **Until the trace is cleared**, an action keeps its place. -/
theorem run_getElem? : ∀ {calls : List Call} {t t' : CefActionTrace} {action : Action},
    calls.any Call.isClear = false → calls.foldlM step t = some t' →
    t.actions[i]? = some action →
    ∃ action', t'.actions[i]? = some action' ∧ SameAction action action'
  | [], t, t', action, _, hrun, haction => by
    cases hrun
    exact ⟨action, haction, rfl, rfl, rfl, rfl⟩
  | call :: calls, t, t', action, hcalls, hrun, haction => by
    rw [any_cons, Bool.or_eq_false_iff] at hcalls
    rw [foldlM_cons, bind_eq_bind, bind_eq_some_iff] at hrun
    obtain ⟨t₁, hstep, hrun⟩ := hrun
    obtain ⟨action₁, haction₁, hsame₁⟩ := step_getElem? hcalls.1 hstep haction
    obtain ⟨action', haction', hsame⟩ := run_getElem? hcalls.2 hrun haction₁
    exact ⟨action', haction', hsame.1.trans hsame₁.1, hsame.2.trans hsame₁.2,
      hsame.3.trans hsame₁.3, hsame.4.trans hsame₁.4⟩

theorem run_getElem?_begun : ∃ t' action', [Call.create (.beginAction [116] [] 2)].foldlM step
    { actions := [{ id := 1 }], nextId := 2 } = some t' ∧ t'.actions[0]? = some action' ∧
      SameAction { id := 1 } action' := by
  have haction : ([{ id := 1 }] : List Action)[0]? = some { id := 1 } := rfl
  obtain ⟨action', haction', hsame⟩ := @run_getElem? 0 [Call.create (.beginAction [116] [] 2)]
    { actions := [{ id := 1 }], nextId := 2 } _ _ rfl rfl haction
  exact ⟨_, action', rfl, haction', hsame⟩

/-! ### Calls that change one action -/

/-- Nothing is changed but the action at `place`, if there is one. -/
structure ChangesOnly (place : Option Nat) (t t' : CefActionTrace) : Prop where
  level_eq : t'.level = t.level
  nextId_eq : t'.nextId = t.nextId
  length_eq : t'.actions.length = t.actions.length
  getElem?_eq : ∀ i, place ≠ some i → t'.actions[i]? = t.actions[i]?

/-- The place of an action that was put at place `i` before some calls. It is dropped by `Clear`. -/
def placeAfter (i : Nat) (calls : List Call) : Option Nat :=
  if calls.any Call.isClear then none else some i

lemma Edit.run_frame (edit : Edit) (t : CefActionTrace) (actionId : Int) :
    (edit.run t actionId).level = t.level ∧ (edit.run t actionId).nextId = t.nextId ∧
      (edit.run t actionId).actions.length = t.actions.length := by
  obtain ⟨change, -, hrun⟩ := edit.exists_change
  rw [hrun]
  split
  · exact ⟨rfl, rfl, rfl⟩
  · unfold changeAction
    split
    · exact ⟨rfl, rfl, rfl⟩
    · exact ⟨rfl, rfl, length_modify ..⟩

/-- **Some call of each kind** makes a change, if the number is found and the level is high enough. -/
lemma exists_edit_ne (h : Numbered t) (hi : i < t.actions.length)
    (attaches : Bool) (hlevel : attaches = true → t.level = .full) : ∃ edit : Edit,
      edit.attaches = attaches ∧ (edit.run t (i + 1)).actions[i]? ≠ t.actions[i]? := by
  have hfind : findAction t.actions (i + 1) = some i := h.findAction_eq_some_iff.mpr ⟨hi, rfl⟩
  have hmodify : ∀ change : Action → Action, change t.actions[i] ≠ t.actions[i] →
      (changeAction t (i + 1) change).actions[i]? ≠ t.actions[i]? := by
    intro change hne heq
    unfold changeAction at heq
    rw [hfind] at heq
    rw [getElem?_modify_eq, getElem?_eq_getElem hi] at heq
    exact hne (some.inj heq)
  cases attaches with
  | false =>
    -- the result is turned over
    refine ⟨.endAction (!t.actions[i].success) [] [] 0, rfl, hmodify _ fun heq => ?_⟩
    have hsuccess := congrArg Action.success heq
    simp at hsuccess
  | true =>
    -- the path is made longer
    refine ⟨.attachScreenshot (0 :: t.actions[i].screenshotPath), rfl, ?_⟩
    show (attach t (i + 1) _).actions[i]? ≠ t.actions[i]?
    unfold attach
    rw [if_neg (not_not.mpr (hlevel rfl))]
    refine hmodify _ fun heq => ?_
    have hpath := congrArg (fun action => action.screenshotPath.length) heq
    simp at hpath

/-- **The number of an action** names no other action, in any run: the calls of a kind that are
given the number which a call has returned change nothing but the action made by that call, and
nothing if it has been dropped. This holds if and only if there was no call of `Clear` since, or the
number has not been given again since then, or the kind is to attach data and the level is not the
third one.

**Proof sketch.** The numbers in a run are the places and one. After a call of `Clear` the number
says nothing about the old action, and an action is found if and only if there are so many new ones.
-/
theorem changesOnly_iff {before between : List Call} {creation : Creation} {actionId : Int}
    {t₀ t₁ t : CefActionTrace} (hbefore : before.foldlM step {} = some t₀)
    (hcreate : creation.run t₀ = some (actionId, t₁)) (hbetween : between.foldlM step t₁ = some t)
    (attaches : Bool) :
    (∀ edit : Edit, edit.attaches = attaches →
      ChangesOnly (placeAfter t₀.actions.length between) t (edit.run t actionId)) ↔
      (between.any Call.isClear = true →
        (t.actions.length : Int) < actionId ∨ attaches = true ∧ t.level ≠ .full) := by
  have hnumbered₀ := run_numbered numbered_init hbefore
  have hnumbered : Numbered t := by
    have hstep : step t₀ (.create creation) = some t₁ := by
      show (creation.run t₀).map (·.2) = some t₁
      rw [hcreate, map_some]
    exact run_numbered (step_numbered _ _ _ hnumbered₀ hstep) hbetween
  have hid : actionId = t₀.actions.length + 1 := by
    rw [(Creation.run_eq_some hcreate).1, hnumbered₀.nextId_eq]
  subst hid
  constructor
  · intro hchanges hclear
    by_contra hreissued
    rw [not_or, not_lt, not_and, not_not] at hreissued
    obtain ⟨edit, hattaches, hne⟩ :=
      exists_edit_ne hnumbered (i := t₀.actions.length) (by omega) attaches hreissued.2
    refine hne ((hchanges edit hattaches).getElem?_eq _ ?_)
    unfold placeAfter
    rw [if_pos hclear]
    exact nofun
  · intro hkept edit hattaches
    obtain ⟨hlevel, hnext, hlength⟩ := edit.run_frame t (t₀.actions.length + 1)
    refine ⟨hlevel, hnext, hlength, fun i hi => ?_⟩
    by_cases hplace : i = t₀.actions.length
    · subst hplace
      have hclear : between.any Call.isClear = true := by
        by_contra hnone
        exact hi (if_neg hnone)
      rcases hkept hclear with hlt | ⟨rfl, hlow⟩
      · -- there is no action with the number
        rw [getElem?_eq_none_iff.mpr (by omega), getElem?_eq_none_iff.mpr (by omega)]
      · obtain ⟨change, -, hrun⟩ := edit.exists_change
        rw [hrun, if_pos ⟨hattaches, hlow⟩]
    · exact hnumbered.getElem?_edit _ edit (by omega)

/-! ### A number that is given twice -/

/-- `click`, then the trace is cleared, and `type` gets the number of the first action. -/
def clickThenType : List Call := [.clear, .create (.beginAction [116] [] 2)]

/-- The end of the first action is noted in the second one. -/
theorem not_changesOnly_clickThenType :
    ¬ ∀ (before between : List Call) (creation : Creation) (actionId : Int)
      (t₀ t₁ t : CefActionTrace) (edit : Edit), before.foldlM step {} = some t₀ →
      creation.run t₀ = some (actionId, t₁) → between.foldlM step t₁ = some t →
      ChangesOnly (placeAfter t₀.actions.length between) t (edit.run t actionId) := by
  intro h
  have hchanges := h [] clickThenType (.beginAction [99] [] 1) 1 {} _ _ (.endAction false [] [] 3)
    rfl rfl rfl
  have heq := hchanges.getElem?_eq 0 (by decide)
  revert heq
  decide

/-- The second of two actions, and the trace with both. -/
def clickTrace : CefActionTrace :=
  { actions := [{ id := 1, type := [116], startedAt := 1 }, { id := 2, type := [99], startedAt := 2 }]
    nextId := 3 }

/-- `click` is ended after a third action has been begun. Its number says nothing once the trace has
been cleared and one action has been begun. -/
theorem changesOnly_iff_click :
    (∃ t, [Call.create (.beginAction [107] [] 3)].foldlM step clickTrace = some t ∧
      t.actions.length = 3 ∧ ChangesOnly (some 1) t (endAction t 2 true [] [] 4)) ∧
    ∃ t, clickThenType.foldlM step clickTrace = some t ∧ t.actions.length = 1 ∧
      ChangesOnly none t (endAction t 2 true [] [] 4) := by
  have hbefore : [Call.create (.beginAction [116] [] 1)].foldlM step {} =
      some { actions := [{ id := 1, type := [116], startedAt := 1 }], nextId := 2 } := rfl
  have hcreate : (Creation.beginAction [99] [] 2).run
      { actions := [{ id := 1, type := [116], startedAt := 1 }], nextId := 2 } =
        some (2, clickTrace) := rfl
  have hthird : [Call.create (.beginAction [107] [] 3)].foldlM step clickTrace =
      some { clickTrace with
        actions := clickTrace.actions ++ [{ id := 3, type := [107], startedAt := 3 }]
        nextId := 4 } := rfl
  have hclear : clickThenType.foldlM step clickTrace =
      some { actions := [{ id := 1, type := [116], startedAt := 2 }], nextId := 2 } := rfl
  refine ⟨⟨_, hthird, rfl, ?_⟩, ⟨_, hclear, rfl, ?_⟩⟩
  · exact (changesOnly_iff hbefore hcreate hthird false).mpr nofun (.endAction true [] [] 4) rfl
  · exact (changesOnly_iff hbefore hcreate hclear false).mpr (fun _ => .inl (by decide))
      (.endAction true [] [] 4) rfl

end CefCore.Browser.ActionTrace
