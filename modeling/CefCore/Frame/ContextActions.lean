import CefCore.Foundations.Run

/-!
# The context actions of a frame

`CefFrameImpl::ExecuteOnLocalFrame` queues an action as long as the frame has no script context, and
runs it at once later. `OnContextCreated` runs what has been queued. An action may run any script, and
that may detach the frame, submit actions, or have another script context created for the frame.

## Main results

* `drainsInOrder_iff`: the runs in which the actions run in order.

## Implementation notes

* `MaybeInitializeScriptContext` may create the script context, which calls `OnContextCreated`. It is the
  last thing that `ExecuteOnLocalFrame` does, so that this is the next call here.
* The observer of the frame forgets it in `WillDetach`, so that it is detached once.
* An action that runs has been moved from the queue, where an empty one is left in its place.
* Calls of `OnContextCreated` may be nested up to some depth. What is shown does not depend on it, since
  a nested call fails at once.
* Of `OnDetached` there is what becomes of the frame and of the context actions.
-/

namespace CefCore.Frame.ContextActions

open List Fallible

inductive Script where
  | done
  | detach (rest : Script)
  | execute (functionName : String) (action rest : Script)
  | createContext (rest : Script)

/-- Why a call does not return: a check fails, an action is run without a frame or has been moved away,
or an empty queue is popped. -/
inductive Stop where
  | checkFailed
  | nullFrame
  | nullCallback
  | emptyQueue
  | tooDeep

inductive Report where
  | ranQueued (functionName : String) (action : Script)
  | ranAtOnce (functionName : String) (action : Script)
  | ignored (functionName : String)

/-- The members of `CefFrameImpl` that have to do with context actions, with the reports so far. -/
structure CefFrameImpl where
  frame : Bool := true
  contextCreated : Bool := false
  didCommitProvisionalLoad : Bool
  didInitializeScriptContext : Bool := false
  queuedContextActions : List (String × Option Script) := []
  lifecycleStateObserver : Bool := false
  log : List Report := []

namespace CefFrameImpl

def report (r : Report) (f : CefFrameImpl) : CefFrameImpl := { f with log := f.log ++ [r] }

def onDetached (f : CefFrameImpl) : CefFrameImpl :=
  { f with
    frame := false
    log := f.log ++ f.queuedContextActions.map fun action => .ignored action.1
    -- In case we're destroyed without the context being created.
    queuedContextActions := [] }

def willDetach (f : CefFrameImpl) : CefFrameImpl := if f.frame then f.onDetached else f

def maybeInitializeScriptContext (f : CefFrameImpl) : Except Stop CefFrameImpl :=
  if f.didInitializeScriptContext then .ok f
  -- Too soon for context initialization.
  else if !f.didCommitProvisionalLoad then .ok f
  -- Don't need early context initialization.
  else if f.queuedContextActions.isEmpty then .ok f
  else if !f.frame then .error .nullFrame
  else .ok { f with didInitializeScriptContext := true }

/-- `CefFrameImpl::ExecuteOnLocalFrame`, where `run` runs the action. -/
def executeOnLocalFrame (functionName : String) (action : Script)
    (run : CefFrameImpl → Except Stop CefFrameImpl) (f : CefFrameImpl) : Except Stop CefFrameImpl :=
  if !f.contextCreated then
    maybeInitializeScriptContext { f with
      queuedContextActions := f.queuedContextActions ++ [(functionName, some action)] }
  else if f.frame then
    run (f.report (.ranAtOnce functionName action))
  else
    .ok (f.report (.ignored functionName))

/-- A script is run, where `nested` is a call of `OnContextCreated` from it. -/
def runScript (nested : CefFrameImpl → Except Stop CefFrameImpl) :
    Script → CefFrameImpl → Except Stop CefFrameImpl
  | .done, f => .ok f
  | .detach rest, f => runScript nested rest f.willDetach
  | .execute functionName action rest, f => do
    let f ← f.executeOnLocalFrame functionName action fun f => runScript nested action f
    runScript nested rest f
  | .createContext rest, f => do
    let f ← nested f
    runScript nested rest f

def moveFront (functionName : String) (action : Script) (rest : List (String × Option Script))
    (f : CefFrameImpl) : CefFrameImpl :=
  { f with
    queuedContextActions := (functionName, none) :: rest
    log := f.log ++ [.ranQueued functionName action] }

/-- The loop of `OnContextCreated`, for a number of rounds. -/
def drain (nested : CefFrameImpl → Except Stop CefFrameImpl) :
    Nat → CefFrameImpl → Except Stop CefFrameImpl
  | 0, f => if f.queuedContextActions.isEmpty then .ok f else .error .tooDeep
  | n + 1, f =>
    match f.queuedContextActions with
    | [] => .ok f
    | (_, none) :: _ => .error .nullCallback
    | (functionName, some action) :: rest =>
      if !f.frame then .error .nullFrame
      else do
        let f ← runScript nested action (f.moveFront functionName action rest)
        match f.queuedContextActions with
        | [] => .error .emptyQueue
        | _ :: rest => drain nested n { f with queuedContextActions := rest }

/-- `CefFrameImpl::OnContextCreated`, where `nested` is a call of it from an action. -/
def onContextCreatedWith (nested : CefFrameImpl → Except Stop CefFrameImpl) (f : CefFrameImpl) :
    Except Stop CefFrameImpl := do
  let f : CefFrameImpl := { f with contextCreated := true }
  if !f.frame then .error .checkFailed
  else
    let f ← drain nested f.queuedContextActions.length f
    pure { f with lifecycleStateObserver := true }

/-- `CefFrameImpl::OnContextCreated`, with calls of it in each other up to some depth. -/
def onContextCreated : Nat → CefFrameImpl → Except Stop CefFrameImpl
  | 0, _ => .error .tooDeep
  | depth + 1, f => onContextCreatedWith (onContextCreated depth) f

def submit (depth : Nat) (requests : List (String × Script)) (f : CefFrameImpl) :
    Except Stop CefFrameImpl :=
  requests.foldlM (fun f r => f.executeOnLocalFrame r.1 r.2 (runScript (onContextCreated depth) r.2)) f

end CefFrameImpl

/-! ### What should happen -/

def Report.queued? : Report → Option (String × Script)
  | .ranQueued functionName action => some (functionName, action)
  | _ => none

def Report.isAtOnce : Report → Bool
  | .ranAtOnce _ _ => true
  | _ => false

/-- The actions of the queue have been run at most once and in their order, and before those that have
been run at once. -/
structure InOrder (requests : List (String × Script)) (log : List Report) : Prop where
  once : log.filterMap Report.queued? <+: requests
  before : log.Pairwise fun earlier later => earlier.isAtOnce = true → later.queued? = none

/-- Actions that are submitted to a new frame are run in order by `OnContextCreated`, which returns. -/
def DrainsInOrder (depth : Nat) (didCommit : Bool) (requests : List (String × Script)) : Prop :=
  ∃ f f', CefFrameImpl.submit depth requests { didCommitProvisionalLoad := didCommit } = .ok f ∧
    f.onContextCreated (depth + 1) = .ok f' ∧ InOrder requests f'.log

/-- The script, with all that it submits in turn, neither detaches the frame nor has a script context
created. -/
def Script.Stays : Script → Prop
  | .done => True
  | .detach _ => False
  | .execute _ action rest => action.Stays ∧ rest.Stays
  | .createContext _ => False

instance Script.decidableStays : DecidablePred Script.Stays
  | .done => isTrue True.intro
  | .detach _ => isFalse id
  | .execute _ action rest =>
    have := Script.decidableStays action
    have := Script.decidableStays rest
    inferInstanceAs (Decidable (_ ∧ _))
  | .createContext _ => isFalse id

def Script.submitted : Script → List (String × Script)
  | .done => []
  | .detach rest => rest.submitted
  | .execute functionName action rest =>
    (functionName, action) :: action.submitted ++ rest.submitted
  | .createContext rest => rest.submitted

namespace CefFrameImpl

variable {f : CefFrameImpl} {nested : CefFrameImpl → Except Stop CefFrameImpl} {s : Script}

/-! ### Submitting -/

lemma executeOnLocalFrame_eq (hframe : f.frame = true) (hcontext : f.contextCreated = false)
    (functionName : String) (action : Script) (run : CefFrameImpl → Except Stop CefFrameImpl) :
    f.executeOnLocalFrame functionName action run = .ok { f with
      didInitializeScriptContext := f.didInitializeScriptContext || f.didCommitProvisionalLoad
      queuedContextActions := f.queuedContextActions ++ [(functionName, some action)] } := by
  rw [executeOnLocalFrame, hcontext, maybeInitializeScriptContext]
  cases hdid : f.didInitializeScriptContext with
  | true => simp
  | false =>
    cases hcommit : f.didCommitProvisionalLoad with
    | false => simp
    | true => simp [hframe]

lemma submit_eq (depth : Nat) (requests : List (String × Script)) (hframe : f.frame = true)
    (hcontext : f.contextCreated = false) : ∃ didInitialize, f.submit depth requests = .ok { f with
      didInitializeScriptContext := didInitialize
      queuedContextActions :=
        f.queuedContextActions ++ requests.map fun r => (r.1, some r.2) } := by
  induction requests generalizing f with
  | nil => exact ⟨f.didInitializeScriptContext, by simp [submit]⟩
  | cons r requests ih =>
    rw [submit, foldlM_cons, executeOnLocalFrame_eq hframe hcontext, ok_bind, ← submit]
    obtain ⟨didInitialize, heq⟩ := ih (f := { f with
      didInitializeScriptContext := f.didInitializeScriptContext || f.didCommitProvisionalLoad
      queuedContextActions := f.queuedContextActions ++ [(r.1, some r.2)] }) hframe hcontext
    refine ⟨didInitialize, heq.trans ?_⟩
    simp

/-! ### Running scripts -/

lemma runScript_detach (rest : Script) (f : CefFrameImpl) :
    runScript nested (.detach rest) f = runScript nested rest f.willDetach := rfl

lemma runScript_execute (functionName : String) (action rest : Script) (f : CefFrameImpl) :
    runScript nested (.execute functionName action rest) f =
      f.executeOnLocalFrame functionName action (runScript nested action) >>= runScript nested rest :=
  rfl

structure Attached (f : CefFrameImpl) : Prop where
  contextCreated : f.contextCreated = true
  frame : f.frame = true

structure Detached (f : CefFrameImpl) : Prop where
  contextCreated : f.contextCreated = true
  frame : f.frame = false
  queue : f.queuedContextActions = []

structure Draining (f : CefFrameImpl) : Prop extends Attached f where
  queue : ∃ functionName rest, f.queuedContextActions = (functionName, none) :: rest

def Breaks (x : Except Stop CefFrameImpl) : Prop := ∀ f, x = .ok f → f.Detached

lemma Breaks.bind {x : Except Stop CefFrameImpl} {next : CefFrameImpl → Except Stop CefFrameImpl}
    (h : Breaks x) (hnext : ∀ f, f.Detached → Breaks (next f)) : Breaks (x >>= next) := by
  intro f hf
  obtain ⟨f₁, hf₁, hok⟩ := bind_eq_ok_iff.mp hf
  exact hnext f₁ (h f₁ hf₁) f hok

lemma Attached.report (h : f.Attached) (r : Report) : (f.report r).Attached := ⟨h.1, h.2⟩

lemma Draining.report (h : f.Draining) (r : Report) : (f.report r).Draining :=
  ⟨h.toAttached.report r, h.queue⟩

lemma Detached.report (h : f.Detached) (r : Report) : (f.report r).Detached := ⟨h.1, h.2, h.3⟩

lemma Draining.willDetach (h : f.Draining) : f.willDetach.Detached := by
  rw [CefFrameImpl.willDetach, if_pos h.frame]
  exact ⟨h.contextCreated, rfl, rfl⟩

lemma Detached.willDetach (h : f.Detached) : f.willDetach.Detached := by
  rw [CefFrameImpl.willDetach, if_neg (by rw [h.frame]; decide)]
  exact h

lemma Attached.executeOnLocalFrame (h : f.Attached) (functionName : String) (action : Script)
    (run : CefFrameImpl → Except Stop CefFrameImpl) : f.executeOnLocalFrame functionName action run =
      run (f.report (.ranAtOnce functionName action)) := by
  rw [CefFrameImpl.executeOnLocalFrame, h.contextCreated, if_neg (by decide), if_pos h.frame]

lemma Detached.executeOnLocalFrame (h : f.Detached) (functionName : String) (action : Script)
    (run : CefFrameImpl → Except Stop CefFrameImpl) : f.executeOnLocalFrame functionName action run =
      .ok (f.report (.ignored functionName)) := by
  rw [CefFrameImpl.executeOnLocalFrame, h.contextCreated, if_neg (by decide),
    if_neg (by rw [h.frame]; decide)]

lemma runScript_of_stays (hs : s.Stays) (hf : f.Attached) : runScript nested s f =
    .ok { f with log := f.log ++ s.submitted.map fun r => .ranAtOnce r.1 r.2 } := by
  induction s generalizing f with
  | done =>
    rw [Script.submitted, map_nil, append_nil]
    rfl
  | detach rest ih => exact hs.elim
  | createContext rest ih => exact hs.elim
  | execute functionName action rest ihaction ihrest =>
    rw [runScript_execute, hf.executeOnLocalFrame, ihaction hs.1 (hf.report _), ok_bind]
    refine (ihrest hs.2 ?_).trans ?_
    · exact ⟨hf.1, hf.2⟩
    · simp [CefFrameImpl.report, Script.submitted]

lemma runScript_of_detached (hnested : ∀ f, f.Detached → Breaks (nested f)) (hf : f.Detached) :
    Breaks (runScript nested s f) := by
  induction s generalizing f with
  | done =>
    intro f' hf'
    cases hf'
    exact hf
  | detach rest ih => exact ih hf.willDetach
  | createContext rest ih => exact (hnested f hf).bind fun _ h => ih h
  | execute functionName action rest ihaction ihrest =>
    rw [runScript_execute, hf.executeOnLocalFrame, ok_bind]
    exact ihrest (hf.report _)

lemma runScript_of_not_stays (hdetached : ∀ f, f.Detached → Breaks (nested f))
    (hdraining : ∀ f, f.Draining → Breaks (nested f)) (hs : ¬ s.Stays) (hf : f.Draining) :
    Breaks (runScript nested s f) := by
  induction s generalizing f with
  | done => exact absurd True.intro hs
  | detach rest ih =>
    rw [runScript_detach]
    exact runScript_of_detached hdetached hf.willDetach
  | createContext rest ih =>
    exact (hdraining f hf).bind fun _ h => runScript_of_detached hdetached h
  | execute functionName action rest ihaction ihrest =>
    rw [runScript_execute, hf.executeOnLocalFrame]
    by_cases haction : action.Stays
    · rw [runScript_of_stays haction (hf.report _).toAttached, ok_bind]
      exact ihrest (fun hrest => hs ⟨haction, hrest⟩) ⟨⟨hf.1.1, hf.1.2⟩, hf.queue⟩
    · exact (ihaction haction (hf.report _)).bind fun _ h => runScript_of_detached hdetached h

/-! ### Running the queue -/

/-- **A call of `OnContextCreated` from an action** fails: the action that is running has been moved away
from the front of the queue, and a frame that has been detached does not pass the check. -/
lemma onContextCreated_breaks (depth : Nat) (hf : f.Draining ∨ f.Detached) :
    Breaks (f.onContextCreated depth) := by
  intro f' hf'
  cases depth with
  | zero => exact nomatch hf'
  | succ depth =>
    rw [onContextCreated, onContextCreatedWith] at hf'
    rcases hf with hdraining | hdetached
    · obtain ⟨functionName, rest, hqueue⟩ := hdraining.queue
      rw [if_neg (by simp [hdraining.frame]), hqueue, length_cons, drain] at hf'
      exact nomatch hf'
    · rw [if_pos (by simp [hdetached.frame])] at hf'
      exact nomatch hf'

def reports (r : String × Script) : List Report :=
  .ranQueued r.1 r.2 :: r.2.submitted.map fun r => .ranAtOnce r.1 r.2

lemma Attached.moveFront (h : f.Attached) (r : String × Script)
    (rest : List (String × Option Script)) : (f.moveFront r.1 r.2 rest).Draining :=
  ⟨⟨h.1, h.2⟩, ⟨r.1, rest, rfl⟩⟩

lemma drain_cons {r : String × Script} {rest : List (String × Option Script)} {n : Nat}
    (hf : f.Attached) (hqueue : f.queuedContextActions = (r.1, some r.2) :: rest) :
    f.drain nested (n + 1) = (do
      let f ← runScript nested r.2 (f.moveFront r.1 r.2 rest)
      match f.queuedContextActions with
      | [] => .error .emptyQueue
      | _ :: rest => drain nested n { f with queuedContextActions := rest }) := by
  rw [drain, hqueue]
  dsimp only
  rw [if_neg (by simp [hf.frame])]

lemma drain_of_stays {requests : List (String × Script)} (hs : ∀ r ∈ requests, r.2.Stays)
    (hf : f.Attached) (hqueue : f.queuedContextActions = requests.map fun r => (r.1, some r.2)) :
    f.drain nested requests.length = .ok { f with
      queuedContextActions := [], log := f.log ++ requests.flatMap reports } := by
  induction requests generalizing f with
  | nil =>
    rw [map_nil] at hqueue
    rw [length_nil, drain, hqueue]
    simp [← hqueue]
  | cons r requests ih =>
    have hmoved := hf.moveFront r (requests.map fun r => (r.1, some r.2))
    rw [length_cons, drain_cons hf hqueue,
      runScript_of_stays (hs r mem_cons_self) hmoved.toAttached, ok_bind]
    refine (ih (fun r' hr' => hs r' (mem_cons_of_mem r hr')) ?_ rfl).trans ?_
    · exact ⟨hf.1, hf.2⟩
    · simp [CefFrameImpl.moveFront, reports]

lemma drain_of_not_stays (hdetached : ∀ f, f.Detached → Breaks (nested f))
    (hdraining : ∀ f, f.Draining → Breaks (nested f)) {requests : List (String × Script)}
    (hs : ∃ r ∈ requests, ¬ r.2.Stays) (hf : f.Attached)
    (hqueue : f.queuedContextActions = requests.map fun r => (r.1, some r.2)) :
    ∃ e, f.drain nested requests.length = .error e := by
  induction requests generalizing f with
  | nil => exact nomatch hs
  | cons r requests ih =>
    have hmoved := hf.moveFront r (requests.map fun r => (r.1, some r.2))
    rw [length_cons, drain_cons hf hqueue]
    by_cases hr : r.2.Stays
    · rw [runScript_of_stays hr hmoved.toAttached, ok_bind]
      have hrest : ∃ r' ∈ requests, ¬ r'.2.Stays := by
        obtain ⟨r', hr', hnot⟩ := hs
        rcases mem_cons.mp hr' with rfl | hr'
        · exact absurd hr hnot
        · exact ⟨r', hr', hnot⟩
      refine ih hrest ?_ rfl
      exact ⟨hf.1, hf.2⟩
    · have hbreaks := runScript_of_not_stays hdetached hdraining hr hmoved
      cases hrun : runScript nested r.2
          (f.moveFront r.1 r.2 (requests.map fun r => (r.1, some r.2))) with
      | error e => exact ⟨e, rfl⟩
      | ok f' =>
        refine ⟨.emptyQueue, ?_⟩
        rw [ok_bind, (hbreaks f' hrun).queue]

end CefFrameImpl

lemma filterMap_reports (requests : List (String × Script)) :
    (requests.flatMap CefFrameImpl.reports).filterMap Report.queued? = requests := by
  induction requests with
  | nil => rfl
  | cons r requests ih =>
    have hsubmitted : (r.2.submitted.map fun r => Report.ranAtOnce r.1 r.2).filterMap
        Report.queued? = [] :=
      filterMap_eq_nil_iff.mpr fun report hmem => by
        obtain ⟨r', -, rfl⟩ := mem_map.mp hmem
        rfl
    have hrun : (CefFrameImpl.reports r).filterMap Report.queued? = [r] := by
      rw [CefFrameImpl.reports, filterMap_cons, hsubmitted]
      rfl
    rw [flatMap_cons, filterMap_append, ih, hrun]
    rfl

/-- **What a loop with actions that stay reports** is in order exactly if none but the last action
submits another one. -/
lemma inOrder_reports_iff {requests : List (String × Script)} :
    InOrder requests (requests.flatMap CefFrameImpl.reports) ↔
      ∀ r ∈ requests.dropLast, r.2.submitted = [] := by
  have honce : (requests.flatMap CefFrameImpl.reports).filterMap Report.queued? <+: requests :=
    ⟨[], by rw [append_nil, filterMap_reports]⟩
  refine ⟨fun h => ?_, fun h => ⟨honce, ?_⟩⟩
  · have hbefore := h.before
    clear honce h
    induction requests with
    | nil => exact fun _ hmem => nomatch hmem
    | cons r requests ih =>
      rw [flatMap_cons, CefFrameImpl.reports, cons_append, pairwise_cons,
        pairwise_append] at hbefore
      obtain ⟨-, -, hrest, hcross⟩ := hbefore
      cases requests with
      | nil => exact fun _ hmem => nomatch hmem
      | cons r' requests =>
        rw [dropLast_cons_of_ne_nil (cons_ne_nil r' requests)]
        refine forall_mem_cons.mpr ⟨?_, ih hrest⟩
        rw [eq_nil_iff_forall_not_mem]
        intro submitted hmem
        exact nomatch hcross _ (mem_map_of_mem hmem) (.ranQueued r'.1 r'.2)
          mem_cons_self rfl
  · clear honce
    induction requests with
    | nil => exact List.Pairwise.nil
    | cons r requests ih =>
      have hsubmitted : (r.2.submitted.map fun r => Report.ranAtOnce r.1 r.2).Pairwise
          fun earlier later => earlier.isAtOnce = true → later.queued? = none :=
        pairwise_map.mpr (pairwise_of_forall fun _ _ _ => rfl)
      rw [flatMap_cons, CefFrameImpl.reports, cons_append, pairwise_cons, pairwise_append]
      cases requests with
      | nil =>
        exact ⟨fun _ _ hnot => (nomatch hnot), hsubmitted, List.Pairwise.nil,
          fun _ _ _ hnot => (nomatch hnot)⟩
      | cons r' requests =>
        rw [dropLast_cons_of_ne_nil (cons_ne_nil r' requests)] at h
        obtain ⟨hnone, hrest⟩ := forall_mem_cons.mp h
        rw [hnone]
        exact ⟨fun _ _ hnot => (nomatch hnot), List.Pairwise.nil, ih hrest,
          fun _ hnot => (nomatch hnot)⟩

namespace CefFrameImpl

/-- The frame with actions in its queue, when `OnContextCreated` is called. -/
def queuing (didCommit didInitialize : Bool) (requests : List (String × Script)) : CefFrameImpl where
  didCommitProvisionalLoad := didCommit
  didInitializeScriptContext := didInitialize
  queuedContextActions := requests.map fun r => (r.1, some r.2)

lemma onContextCreated_queuing (depth : Nat) (didCommit didInitialize : Bool)
    (requests : List (String × Script)) :
    (queuing didCommit didInitialize requests).onContextCreated (depth + 1) =
      (drain (onContextCreated depth) requests.length
        { queuing didCommit didInitialize requests with contextCreated := true }).map
          fun f => { f with lifecycleStateObserver := true } := by
  have hlength : (queuing didCommit didInitialize requests).queuedContextActions.length =
      requests.length := length_map _
  have hframe : (queuing didCommit didInitialize requests).frame = true := rfl
  rw [onContextCreated, onContextCreatedWith]
  rw [if_neg (by rw [hframe]; decide), hlength]
  rfl

lemma queuing_attached (didCommit didInitialize : Bool) (requests : List (String × Script)) :
    Attached { queuing didCommit didInitialize requests with contextCreated := true } := ⟨rfl, rfl⟩

lemma onContextCreated_of_stays {requests : List (String × Script)}
    (hs : ∀ r ∈ requests, r.2.Stays) (depth : Nat) (didCommit didInitialize : Bool) :
    ∃ f, (queuing didCommit didInitialize requests).onContextCreated (depth + 1) = .ok f ∧
      f.log = requests.flatMap reports := by
  rw [onContextCreated_queuing,
    drain_of_stays hs (queuing_attached didCommit didInitialize requests) rfl]
  exact ⟨_, rfl, rfl⟩

lemma onContextCreated_of_not_stays {requests : List (String × Script)}
    (hs : ∃ r ∈ requests, ¬ r.2.Stays) (depth : Nat) (didCommit didInitialize : Bool) :
    ∃ e, (queuing didCommit didInitialize requests).onContextCreated (depth + 1) = .error e := by
  obtain ⟨e, hdrain⟩ := drain_of_not_stays (fun _ h => onContextCreated_breaks depth (.inr h))
    (fun _ h => onContextCreated_breaks depth (.inl h)) hs
    (queuing_attached didCommit didInitialize requests) rfl
  rw [onContextCreated_queuing, hdrain]
  exact ⟨e, rfl⟩

end CefFrameImpl

lemma drainsInOrder_iff_stays (depth : Nat) (didCommit : Bool) (requests : List (String × Script)) :
    DrainsInOrder depth didCommit requests ↔
      (∀ r ∈ requests, r.2.Stays) ∧ InOrder requests (requests.flatMap CefFrameImpl.reports) := by
  obtain ⟨didInitialize, hsubmit⟩ := CefFrameImpl.submit_eq depth requests
    (f := { didCommitProvisionalLoad := didCommit }) rfl rfl
  replace hsubmit : CefFrameImpl.submit depth requests { didCommitProvisionalLoad := didCommit } =
      .ok (CefFrameImpl.queuing didCommit didInitialize requests) := hsubmit
  constructor
  · rintro ⟨f, f', hf, hf', hinOrder⟩
    obtain rfl := Except.ok.inj (hsubmit.symm.trans hf)
    by_cases hs : ∀ r ∈ requests, r.2.Stays
    · obtain ⟨f'', hcall, hlog⟩ :=
        CefFrameImpl.onContextCreated_of_stays hs depth didCommit didInitialize
      obtain rfl := Except.ok.inj (hcall.symm.trans hf')
      exact ⟨hs, hlog ▸ hinOrder⟩
    · push Not at hs
      obtain ⟨e, hcall⟩ :=
        CefFrameImpl.onContextCreated_of_not_stays hs depth didCommit didInitialize
      exact nomatch hcall.symm.trans hf'
  · rintro ⟨hs, hinOrder⟩
    obtain ⟨f, hcall, hlog⟩ :=
      CefFrameImpl.onContextCreated_of_stays hs depth didCommit didInitialize
    exact ⟨_, f, hsubmit, hcall, hlog ▸ hinOrder⟩

/-- **When the actions are run in order**: exactly if no action, with all that it submits in turn,
detaches the frame or has a script context created, and none but the last one submits an action.

**Proof sketch.** An action that detaches the frame clears the queue, and the loop pops it
nevertheless. A script context makes the loop run the action again that is still at the front. An
action that is submitted is run in front of those that wait. -/
theorem drainsInOrder_iff (depth : Nat) (didCommit : Bool) (requests : List (String × Script)) :
    DrainsInOrder depth didCommit requests ↔
      (∀ r ∈ requests, r.2.Stays) ∧ ∀ r ∈ requests.dropLast, r.2.submitted = [] := by
  rw [drainsInOrder_iff_stays, inOrder_reports_iff]

/-- A script that removes its own frame makes the loop pop an empty queue, and an action that is submitted
by the first of two actions is run between them. -/
theorem not_drainsInOrder :
    (CefFrameImpl.submit 1 [("SendJavaScript", .detach .done)] { didCommitProvisionalLoad := true }
        >>= CefFrameImpl.onContextCreated 2) = .error .emptyQueue ∧
      ¬ DrainsInOrder 1 true [("SendJavaScript", .detach .done)] ∧
      ¬ DrainsInOrder 1 true
        [("SendJavaScript", .execute "SendJavaScript" .done .done), ("LoadRequest", .done)] := by
  refine ⟨rfl, ?_, ?_⟩
  · rw [drainsInOrder_iff_stays]
    exact fun h => h.1 _ mem_cons_self
  · rw [drainsInOrder_iff_stays, inOrder_reports_iff]
    exact fun h => nomatch h.2 _ mem_cons_self

end CefCore.Frame.ContextActions
