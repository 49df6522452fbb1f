import CefCore.Foundations.Run
import CefCore.Foundations.TaskPool

/-!
# The opening of a stream

`OpenInputStreamWrapper` opens an `InputStream` on a work thread, through a delegate, and gives the
result to a callback on the job thread. The delegate says at once that it fails, or runs a callback,
which it may do on either thread and also when it has failed. The opening can be canceled on the job
thread at any time. Tasks may run in any order.

## Main results

* `openedOnce_of_run`: the callback gets one result.
-/

namespace CefCore.NetService.StreamOpening

open TaskPool List EventLog

/-- Why a step does not return: it cannot happen now, or a null pointer is followed. -/
inductive OpenStop where
  | impossible
  | nullDelegate

/-- The tasks that have been posted and the callbacks that have been given away: `openCallback` to the
delegate, `cancelCallback` to who opens the stream. -/
inductive OpenTask where
  | openOnWorkThread
  | cancelOnWorkThread
  | onCallback (inputStream : Bool)
  | openCallback
  | cancelCallback
  deriving DecidableEq

/-- What happens on the job thread: the callback is run, with a delegate and a stream or without, or
the opening is canceled. -/
inductive OpenEvent where
  | opened (delegate inputStream : Bool)
  | canceled

/-- What others do in one step: the result of `OpenInputStream`, the stream with which the delegate
runs its callback, and whether it does so on the job thread. -/
structure OpenTurn where
  opens : Bool := true
  inputStream : Bool := true
  onJobThread : Bool := false

/-- The members of `OpenInputStreamWrapper`, of which it is said whether they are there; then the tasks
and callbacks that are about, and what has happened on the job thread, newest first. -/
structure OpenInputStreamWrapper where
  delegate : Bool
  callback : Bool
  isCanceled : Bool
  tasks : List OpenTask
  events : List OpenEvent

namespace OpenInputStreamWrapper

/-- A task is posted, or a callback is given away. -/
def post (t : OpenTask) (w : OpenInputStreamWrapper) : OpenInputStreamWrapper :=
  { w with tasks := w.tasks ++ [t] }

/-- `OpenInputStreamWrapper::Open`: the constructor, `Start` and `GetCancelCallback`. -/
def openStream : OpenInputStreamWrapper where
  delegate := true
  callback := true
  isCanceled := false
  tasks := [.openOnWorkThread, .cancelCallback]
  events := []

def onCallback (onJobThread inputStream : Bool) (w : OpenInputStreamWrapper) : OpenInputStreamWrapper :=
  if !onJobThread then
    w.post (.onCallback inputStream)
  else if !w.callback then
    -- `CancelOnJobThread` has been called.
    { w with delegate := false }
  else
    { w with
      callback := false
      delegate := false
      events := .opened w.delegate inputStream :: w.events }

def openOnWorkThread (opens : Bool) (w : OpenInputStreamWrapper) :
    Except OpenStop OpenInputStreamWrapper :=
  if w.isCanceled then
    .ok w
  else if !w.delegate then
    .error .nullDelegate
  else
    let w := w.post .openCallback
    if !opens then
      .ok ({ w with isCanceled := true }.onCallback false false)
    else
      .ok w

def cancelOnWorkThread (w : OpenInputStreamWrapper) : OpenInputStreamWrapper :=
  if w.isCanceled then w
  else { w with isCanceled := true }.onCallback false false

def cancelOnJobThread (w : OpenInputStreamWrapper) : OpenInputStreamWrapper :=
  let w := { w with events := .canceled :: w.events }
  if !w.callback then w
  else { w with callback := false }.post .cancelOnWorkThread

def execute (t : OpenTask) (turn : OpenTurn) (w : OpenInputStreamWrapper) :
    Except OpenStop OpenInputStreamWrapper :=
  match t with
  | .openOnWorkThread => w.openOnWorkThread turn.opens
  | .cancelOnWorkThread => .ok w.cancelOnWorkThread
  | .onCallback inputStream => .ok (w.onCallback true inputStream)
  | .openCallback => .ok (w.onCallback turn.onJobThread turn.inputStream)
  | .cancelCallback => .ok w.cancelOnJobThread

/-- The task or callback at a place of the pool is run. -/
def run (w : OpenInputStreamWrapper) (a : Nat × OpenTurn) : Except OpenStop OpenInputStreamWrapper :=
  match pick w.tasks a.1 with
  | none => .error .impossible
  | some (t, rest) => execute t a.2 { w with tasks := rest }

end OpenInputStreamWrapper

/-- The callback has been run at most once, and not after a cancellation: nothing has happened before
it is run. -/
def OpenedOnce (events : List OpenEvent) : Prop :=
  EventLog.Final (fun (_ : Unit) _ => True) (fun _ e => e ≠ .canceled) events

def OpenTask.opens? : OpenTask → Option Unit
  | .openOnWorkThread => some ()
  | _ => none

def OpenTask.reports : OpenTask → Bool
  | .onCallback _ | .openCallback => true
  | _ => false

namespace OpenInputStreamWrapper

/-- The invariant. As long as the callback is there nothing has happened, and as long as the stream is
to be opened the delegate is there and nobody reports. -/
structure Inv (w : OpenInputStreamWrapper) : Prop where
  fresh : w.callback = true → w.events = []
  once : OpenedOnce w.events
  opens : (w.tasks.filterMap OpenTask.opens?).length ≤ 1
  unopened : .openOnWorkThread ∈ w.tasks → w.isCanceled = false →
    w.delegate = true ∧ ∀ t ∈ w.tasks, t.reports = false

variable {w : OpenInputStreamWrapper}

lemma openStream_inv : openStream.Inv where
  fresh := fun _ => rfl
  once := final_nil
  opens := Nat.le_refl 1
  unopened := fun _ _ => ⟨rfl, by decide⟩

lemma Inv.post {t : OpenTask} (h : w.Inv) (hopens : t.opens? = none)
    (hreports : t.reports = true → .openOnWorkThread ∉ w.tasks ∨ w.isCanceled = true) :
    (w.post t).Inv where
  fresh := h.fresh
  once := h.once
  opens := by
    have htasks : (w.post t).tasks = w.tasks ++ [t] := rfl
    rw [htasks, filterMap_append, filterMap_cons_none hopens]
    simpa using h.opens
  unopened := by
    intro hmem hcanceled
    have hold : .openOnWorkThread ∈ w.tasks := by
      rcases mem_append.mp hmem with hmem | hmem
      · exact hmem
      · rw [← mem_singleton.mp hmem] at hopens
        exact nomatch hopens
    obtain ⟨hdelegate, hnone⟩ := h.unopened hold hcanceled
    refine ⟨hdelegate, fun u hu => ?_⟩
    rcases mem_append.mp hu with hu | hu
    · exact hnone u hu
    · rw [mem_singleton.mp hu]
      by_contra hreport
      rcases hreports ((Bool.not_eq_false _).mp hreport) with hnot | hdone
      · exact hnot hold
      · exact absurd (hcanceled.symm.trans hdone) (by decide)

lemma Inv.cancel (h : w.Inv) : Inv { w with isCanceled := true } where
  fresh := h.fresh
  once := h.once
  opens := h.opens
  unopened := fun _ hcanceled => nomatch hcanceled

lemma Inv.of_pick (h : w.Inv) {i : Nat} {t : OpenTask} {rest : List OpenTask}
    (hpick : pick w.tasks i = some (t, rest)) : Inv { w with tasks := rest } where
  fresh := h.fresh
  once := h.once
  opens := Nat.le_trans (carried_rest_length_le hpick) h.opens
  unopened := fun hmem hcanceled => by
    obtain ⟨hdelegate, hnone⟩ := h.unopened (subset_of_pick hpick hmem) hcanceled
    exact ⟨hdelegate, fun u hu => hnone u (subset_of_pick hpick hu)⟩

lemma Inv.report (h : w.Inv) (hdone : .openOnWorkThread ∉ w.tasks ∨ w.isCanceled = true)
    (inputStream : Bool) : (w.onCallback true inputStream).Inv := by
  have hunopened : .openOnWorkThread ∈ w.tasks → w.isCanceled = false → False := fun hmem hcanceled => by
    rcases hdone with hnot | hdone
    · exact hnot hmem
    · exact absurd (hcanceled.symm.trans hdone) (by decide)
  rw [onCallback, if_neg (by decide)]
  split
  · exact {
      fresh := h.fresh
      once := h.once
      opens := h.opens
      unopened := fun hmem hcanceled => (hunopened hmem hcanceled).elim }
  · rename_i hcallback
    rw [Bool.not_eq_true, Bool.not_eq_false'] at hcallback
    exact {
      fresh := fun hnot => nomatch hnot
      once := by
        rw [h.fresh hcallback]
        exact final_cons_iff.mpr ⟨fun _ _ => settled_nil (), final_nil⟩
      opens := h.opens
      unopened := fun hmem hcanceled => (hunopened hmem hcanceled).elim }

/-- **A task or callback** keeps the invariant, and the delegate that it follows is there. -/
theorem run_spec (h : w.Inv) (a : Nat × OpenTurn) :
    w.run a = .error .impossible ∨ ∃ w', w.run a = .ok w' ∧ w'.Inv := by
  rw [run]
  cases hpick : pick w.tasks a.1 with
  | none => exact .inl rfl
  | some picked =>
    obtain ⟨t, rest⟩ := picked
    right
    have hrest := h.of_pick hpick
    -- whoever reports does so when the stream is not to be opened anymore
    have hdone : t.reports = true → .openOnWorkThread ∉ rest ∨ w.isCanceled = true := by
      intro hreports
      by_contra hnot
      rw [not_or, not_not, Bool.not_eq_true] at hnot
      have hnone := (h.unopened (subset_of_pick hpick hnot.1) hnot.2).2 t (mem_of_pick hpick)
      exact absurd (hreports.symm.trans hnone) (by decide)
    cases t with
    | openOnWorkThread =>
      have hopened : .openOnWorkThread ∉ rest := fun hmem => by
        have hone : w.tasks.filterMap OpenTask.opens? = [()] ∧
            rest.filterMap OpenTask.opens? = [] := carried_of_pick hpick rfl h.opens
        exact nomatch filterMap_eq_nil_iff.mp hone.2 _ hmem
      dsimp only [execute]
      unfold openOnWorkThread
      by_cases hcanceled : w.isCanceled = true
      · rw [if_pos hcanceled]
        exact ⟨_, rfl, hrest⟩
      · have hdelegate := (h.unopened (mem_of_pick hpick) ((Bool.not_eq_true _).mp hcanceled)).1
        have hposted := hrest.post (t := .openCallback) rfl fun _ => .inl hopened
        rw [if_neg hcanceled, if_neg (by simpa using hdelegate)]
        cases a.2.opens with
        | true => exact ⟨_, rfl, hposted⟩
        | false => exact ⟨_, rfl, hposted.cancel.post rfl fun _ => .inr rfl⟩
    | cancelOnWorkThread =>
      refine ⟨_, rfl, ?_⟩
      unfold cancelOnWorkThread
      split
      · exact hrest
      · exact hrest.cancel.post rfl fun _ => .inr rfl
    | onCallback inputStream => exact ⟨_, rfl, hrest.report (hdone rfl) inputStream⟩
    | openCallback =>
      refine ⟨_, rfl, ?_⟩
      cases a.2.onJobThread with
      | true => exact hrest.report (hdone rfl) a.2.inputStream
      | false => exact hrest.post rfl fun _ => hdone rfl
    | cancelCallback =>
      refine ⟨_, rfl, ?_⟩
      have honce : OpenedOnce (.canceled :: w.events) :=
        final_cons_iff.mpr ⟨fun _ hnot => absurd rfl hnot, h.once⟩
      unfold cancelOnJobThread
      dsimp only
      split
      · rename_i hcallback
        rw [Bool.not_eq_true'] at hcallback
        exact {
          fresh := fun hnot => absurd (hnot.symm.trans hcallback) (by decide)
          once := honce
          opens := hrest.opens
          unopened := hrest.unopened }
      · have hcanceled : Inv { w with
            tasks := rest, events := .canceled :: w.events, callback := false } := {
          fresh := fun hnot => nomatch hnot
          once := honce
          opens := hrest.opens
          unopened := hrest.unopened }
        exact hcanceled.post rfl nofun

theorem openedOnce_of_run {as : List (Nat × OpenTurn)} {w' : OpenInputStreamWrapper}
    (h : as.foldlM run openStream = .ok w') : OpenedOnce w'.events := by
  refine (Fallible.run_invariant (I := Inv) (fun w a w' hw hrun => ?_) openStream_inv h).once
  rcases run_spec hw a with herror | ⟨v, hv, hinv⟩
  · exact nomatch herror.symm.trans hrun
  · obtain rfl := Except.ok.inj (hv.symm.trans hrun)
    exact hinv

end OpenInputStreamWrapper

end CefCore.NetService.StreamOpening
