import CefCore.Foundations.AssocList
import CefCore.Foundations.Run

/-!
# The evaluation loop

`RunEvaluationLoop` of `libcef/browser/agent_scheduler.cc` runs the same tasks again and again, and
some of them at the same time. `EvalLoopRunner` posts them to the thread pool, counts the replies and
sums up each iteration.

## Main results

* `loop_accounted`: each task is counted once, and a loop that is not stopped ends.

## Implementation notes

* The callbacks of the caller are run at most once; in later iterations a task fails. What a
  callback returns, and how long it takes, is part of the step.
* `active_count_` and `pending_count_` are unsigned: `decrement` goes from `0` to the largest number.
* The rates of success are left out; nothing reads them. So are the fields of `EvalConfig` that the
  loop does not read.
-/

namespace CefCore.Browser

open List Option Nat

structure EvalConfig where
  iterations : Nat := 1
  maxConcurrent : Nat := 4

structure EvalResult where
  taskId : String := ""
  tag : String := ""
  success : Bool := false
  error : String := ""
  duration : Int := 0
  metadataJson : String := ""

structure TagSummary where
  total : Nat := 0
  succeeded : Nat := 0

structure IterationSummary where
  iteration : Nat := 0
  totalTasks : Nat := 0
  succeeded : Nat := 0
  failed : Nat := 0
  totalDuration : Int := 0
  byTag : AList (fun _ : String => TagSummary) := ∅
  results : List EvalResult := []

/-- A task with its tag. The callback of the caller is gone once it has been run. -/
structure EvalTaskFactory where
  tag : String
  consumed : Bool := false

/-- A task that has been posted. It has a result when its work is done and its reply is not. -/
structure EvalTask where
  iteration : Nat
  index : Nat
  result : Option EvalResult := none

inductive EvalEvent where
  /-- `DispatchTask` has posted a task. -/
  | dispatched (iteration index : Nat)
  /-- `OnTaskComplete` has been called for a task. -/
  | replied (iteration index : Nat)
  /-- `on_iteration_` has been run. -/
  | iterated (summary : IterationSummary)
  /-- `on_complete_` has been run. -/
  | completed (summaries : List IterationSummary)

/-- `EvalLoopRunner`, with the history of the scheduler, the posted tasks and the events, newest
first. -/
structure EvalLoopRunner where
  taskFactories : List EvalTaskFactory
  config : EvalConfig
  /-- There are callbacks `on_iteration_` and `on_complete_`. -/
  onIteration : Bool
  onComplete : Bool
  currentIteration : Nat := 0
  pendingCount : Nat := 0
  activeCount : Nat := 0
  nextTaskIndex : Nat := 0
  iterationStart : Int := 0
  currentResults : List EvalResult := []
  allSummaries : List IterationSummary := []
  evalHistory : List (List IterationSummary) := []
  outstanding : List EvalTask := []
  log : List EvalEvent := []

namespace EvalLoopRunner

/-- `--` on a `size_t`. -/
def decrement : Nat → Nat
  | 0 => 2 ^ 64 - 1
  | n + 1 => n

lemma decrement_add_one : ∀ {k : Nat}, 0 < k → decrement k + 1 = k
  | _ + 1, _ => rfl

def dispatchTask (s : EvalLoopRunner) (index : Nat) : EvalLoopRunner :=
  { s with
    outstanding := s.outstanding ++ [{ iteration := s.currentIteration, index }]
    log := .dispatched s.currentIteration index :: s.log }

/-- The loop of `DispatchNextBatch`. -/
def dispatchLoop : Nat → EvalLoopRunner → EvalLoopRunner
  | 0, s => s
  | fuel + 1, s =>
    if s.nextTaskIndex < s.taskFactories.length ∧ s.activeCount < s.config.maxConcurrent then
      dispatchLoop fuel { s.dispatchTask s.nextTaskIndex with
        nextTaskIndex := s.nextTaskIndex + 1
        activeCount := s.activeCount + 1 }
    else s

/-- `DispatchNextBatch`. Every iteration of its loop goes on to the next task. -/
def dispatchNextBatch (s : EvalLoopRunner) : EvalLoopRunner :=
  s.dispatchLoop (s.taskFactories.length - s.nextTaskIndex)

/-- `FinishLoop`, with `StoreEvalResults`. -/
def finishLoop (s : EvalLoopRunner) : EvalLoopRunner :=
  let s := { s with evalHistory := s.evalHistory ++ [s.allSummaries] }
  if s.onComplete then
    { s with onComplete := false, allSummaries := [], log := .completed s.allSummaries :: s.log }
  else s

def runNextIteration (s : EvalLoopRunner) (now : Int) : EvalLoopRunner :=
  if s.currentIteration ≥ s.config.iterations then s.finishLoop
  else { s with
    currentResults := []
    pendingCount := s.taskFactories.length
    activeCount := 0
    nextTaskIndex := 0
    iterationStart := now }.dispatchNextBatch

def addResult (summary : IterationSummary) (result : EvalResult) : IterationSummary :=
  let tagSummary := (summary.byTag.lookup result.tag).getD {}
  if result.success then
    { summary with
      succeeded := summary.succeeded + 1
      byTag := summary.byTag.insert result.tag
        { total := tagSummary.total + 1, succeeded := tagSummary.succeeded + 1 } }
  else
    { summary with
      failed := summary.failed + 1
      byTag := summary.byTag.insert result.tag { tagSummary with total := tagSummary.total + 1 } }

def summarize (iteration : Nat) (duration : Int) (results : List EvalResult) : IterationSummary :=
  { results.foldl addResult
      { iteration, totalTasks := results.length, totalDuration := duration } with results }

def onIterationComplete (s : EvalLoopRunner) (now : Int) : EvalLoopRunner :=
  let summary := summarize s.currentIteration (now - s.iterationStart) s.currentResults
  { s with
    currentResults := []
    allSummaries := s.allSummaries ++ [summary]
    log := if s.onIteration then .iterated summary :: s.log else s.log
    currentIteration := s.currentIteration + 1 }.runNextIteration now

def onTaskComplete (s : EvalLoopRunner) (result : EvalResult) (now : Int) : EvalLoopRunner :=
  let s := { s with
    currentResults := s.currentResults ++ [result]
    activeCount := decrement s.activeCount
    pendingCount := decrement s.pendingCount }
  if s.pendingCount > 0 then s.dispatchNextBatch else s.onIterationComplete now

/-- `RunEvaluationLoop` for tasks with the given tags. -/
def runEvaluationLoop (tags : List String) (config : EvalConfig) (onIteration onComplete : Bool)
    (now : Int) : EvalLoopRunner :=
  let s : EvalLoopRunner := {
    taskFactories := tags.map fun tag => { tag : EvalTaskFactory }
    config
    onIteration
    onComplete }
  s.runNextIteration now

/-- The factory of a task, with what the callback of the caller would return: a callback runs once
only. -/
def callFactory (factory : EvalTaskFactory) (own : EvalResult) : EvalResult :=
  if factory.consumed then
    { success := false, error := "Task callback already consumed in prior iteration" }
  else own

def evalTaskId (iteration index : Nat) : String :=
  "eval_iter" ++ toString iteration ++ "_task" ++ toString index

/-- What happens next: a posted task runs, or its reply is delivered. -/
inductive Operation where
  | taskRuns (posted : Nat) (own : EvalResult) (duration : Int)
  | taskReplies (posted : Nat) (now : Int)

/-- The work of a posted task on the thread pool. -/
def taskRuns (s : EvalLoopRunner) (posted : Nat) (own : EvalResult) (duration : Int) :
    Option EvalLoopRunner :=
  match s.outstanding[posted]? with
  | some ⟨iteration, index, none⟩ =>
    match s.taskFactories[index]? with
    | some factory =>
      let result := { callFactory factory own with
        taskId := evalTaskId iteration index, tag := factory.tag, duration }
      some { s with
        taskFactories := s.taskFactories.set index { factory with consumed := true }
        outstanding := s.outstanding.set posted ⟨iteration, index, some result⟩ }
    | none => none
  | _ => none

def taskReplies (s : EvalLoopRunner) (posted : Nat) (now : Int) : Option EvalLoopRunner :=
  match s.outstanding[posted]? with
  | some ⟨iteration, index, some result⟩ =>
    some ({ s with
      outstanding := s.outstanding.eraseIdx posted
      log := .replied iteration index :: s.log }.onTaskComplete result now)
  | _ => none

def step (s : EvalLoopRunner) : Operation → Option EvalLoopRunner
  | .taskRuns posted own duration => s.taskRuns posted own duration
  | .taskReplies posted now => s.taskReplies posted now

/-! ### The books -/

/-- The tasks that an iteration has dispatched, newest first. -/
def dispatches (iteration : Nat) (log : List EvalEvent) : List Nat :=
  log.filterMap fun
    | .dispatched i index => if i = iteration then some index else none
    | _ => none

def replies (log : List EvalEvent) : Nat :=
  log.countP fun | .replied _ _ => true | _ => false

/-- The calls of `on_complete_`, newest first. -/
def completions (log : List EvalEvent) : List (List IterationSummary) :=
  log.filterMap fun | .completed summaries => some summaries | _ => none

/-- The calls of `on_iteration_`, newest first. -/
def iterations (log : List EvalEvent) : List IterationSummary :=
  log.filterMap fun | .iterated summary => some summary | _ => none

/-- The sums of a summary of `n` tasks. -/
structure Balanced (n : Nat) (summary : IterationSummary) : Prop where
  total : summary.totalTasks = n
  results : summary.results.length = n
  outcomes : summary.succeeded + summary.failed = n
  tagTotals : (summary.byTag.entries.map fun e => e.2.total).sum = n
  tagSuccesses : (summary.byTag.entries.map fun e => e.2.succeeded).sum = summary.succeeded

/-- **What the loop promises** for `n` tasks: an iteration that is over has dispatched each task once
and no others, the one that is going on the first few of them; the posted tasks are counted and not
too many; the counters are positive whenever a reply is still to come; there is a balanced summary
for each iteration that is over, in order; and when no reply is to come any more, all iterations are
over and `on_complete_` has been run once, with all the summaries, and not before. -/
structure Accounted (n : Nat) (config : EvalConfig) (onIteration onComplete : Bool)
    (s : EvalLoopRunner) : Prop where
  dispatched : ∀ i < s.currentIteration, (dispatches i s.log).reverse = List.range n
  dispatching : ∀ i, ∃ m ≤ n, (dispatches i s.log).reverse = List.range m
  undispatched : ∀ i ≥ config.iterations, dispatches i s.log = []
  concurrent : s.outstanding.length ≤ config.maxConcurrent
  counted : s.outstanding ≠ [] → s.activeCount = s.outstanding.length
  no_underflow : s.outstanding ≠ [] → 0 < s.activeCount ∧ 0 < s.pendingCount
  completed : ∃ summaries : List IterationSummary,
    summaries.map IterationSummary.iteration = List.range s.currentIteration ∧
    (∀ summary ∈ summaries, Balanced n summary) ∧
    ((iterations s.log).reverse = if onIteration then summaries else []) ∧
    (s.outstanding ≠ [] → s.evalHistory = [] ∧ completions s.log = []) ∧
    (s.outstanding = [] → s.currentIteration = config.iterations ∧ s.evalHistory = [summaries] ∧
      completions s.log = if onComplete then [summaries] else [])

/-! ### Summaries -/

structure Summed (k : Nat) (summary : IterationSummary) : Prop where
  outcomes : summary.succeeded + summary.failed = k
  tagTotals : (summary.byTag.entries.map fun e => e.2.total).sum = k
  tagSuccesses : (summary.byTag.entries.map fun e => e.2.succeeded).sum = summary.succeeded

lemma Summed.addResult {k : Nat} {summary : IterationSummary} (h : Summed k summary)
    (result : EvalResult) : Summed (k + 1) (addResult summary result) := by
  have houtcomes := h.outcomes
  have htotals := h.tagTotals
  have hsuccesses := h.tagSuccesses
  unfold EvalLoopRunner.addResult
  set old := (summary.byTag.lookup result.tag).getD {} with hold
  split
  · have hinsertTotal := AList.sum_entries_insert TagSummary.total (d := {}) rfl summary.byTag result.tag
      { total := old.total + 1, succeeded := old.succeeded + 1 }
    have hinsertSucceeded := AList.sum_entries_insert TagSummary.succeeded (d := {}) rfl summary.byTag result.tag
      { total := old.total + 1, succeeded := old.succeeded + 1 }
    rw [← hold] at hinsertTotal hinsertSucceeded
    constructor
    · show summary.succeeded + 1 + summary.failed = k + 1
      omega
    · dsimp only at hinsertTotal ⊢
      omega
    · dsimp only at hinsertSucceeded ⊢
      omega
  · have hinsertTotal := AList.sum_entries_insert TagSummary.total (d := {}) rfl summary.byTag result.tag
      { old with total := old.total + 1 }
    have hinsertSucceeded := AList.sum_entries_insert TagSummary.succeeded (d := {}) rfl summary.byTag result.tag
      { old with total := old.total + 1 }
    rw [← hold] at hinsertTotal hinsertSucceeded
    constructor
    · show summary.succeeded + (summary.failed + 1) = k + 1
      omega
    · dsimp only at hinsertTotal ⊢
      omega
    · dsimp only at hinsertSucceeded ⊢
      omega

lemma foldl_addResult (results : List EvalResult) : ∀ {k : Nat} {summary : IterationSummary},
    Summed k summary → Summed (k + results.length) (results.foldl addResult summary) ∧
      (results.foldl addResult summary).totalTasks = summary.totalTasks ∧
      (results.foldl addResult summary).iteration = summary.iteration := by
  induction results with
  | nil => exact fun h => ⟨h, rfl, rfl⟩
  | cons result results ih =>
    intro k summary h
    obtain ⟨hsummed, htotal, hiteration⟩ := ih (h.addResult result)
    rw [foldl_cons, length_cons]
    refine ⟨?_, htotal.trans ?_, hiteration.trans ?_⟩
    · rwa [add_right_comm, add_assoc] at hsummed
    · unfold EvalLoopRunner.addResult
      split <;> rfl
    · unfold EvalLoopRunner.addResult
      split <;> rfl

lemma summarize_balanced (iteration : Nat) (duration : Int) (results : List EvalResult) :
    Balanced results.length (summarize iteration duration results) ∧
      (summarize iteration duration results).iteration = iteration := by
  have hempty : Summed 0
      { iteration, totalTasks := results.length, totalDuration := duration } := ⟨rfl, rfl, rfl⟩
  obtain ⟨hsummed, htotal, hiteration⟩ := foldl_addResult results hempty
  rw [zero_add] at hsummed
  exact ⟨⟨htotal, rfl, hsummed.outcomes, hsummed.tagTotals, hsummed.tagSuccesses⟩, hiteration⟩

/-! ### The events -/

section Events

variable {log : List EvalEvent} {i j index : Nat} {summary : IterationSummary}
  {summaries : List IterationSummary}

@[simp] lemma dispatches_dispatched : dispatches i (.dispatched j index :: log) =
    if j = i then index :: dispatches i log else dispatches i log := by
  unfold dispatches
  rw [filterMap_cons]
  split <;> rename_i h <;> split at h <;> simp_all

@[simp] lemma iterations_dispatched : iterations (.dispatched j index :: log) = iterations log := rfl

@[simp] lemma iterations_iterated :
    iterations (.iterated summary :: log) = summary :: iterations log := rfl

@[simp] lemma completions_dispatched : completions (.dispatched j index :: log) = completions log :=
  rfl

@[simp] lemma completions_completed :
    completions (.completed summaries :: log) = summaries :: completions log := rfl

@[simp] lemma replies_dispatched : replies (.dispatched j index :: log) = replies log := by
  simp [replies]

@[simp] lemma replies_replied : replies (.replied j index :: log) = replies log + 1 := by
  simp [replies]

@[simp] lemma replies_iterated : replies (.iterated summary :: log) = replies log := by
  simp [replies]

@[simp] lemma replies_completed : replies (.completed summaries :: log) = replies log := by
  simp [replies]

end Events

/-! ### The invariant -/

section Invariant

variable (n : Nat) (config : EvalConfig) (onIteration onComplete : Bool)

/-- The loop has finished the iterations before the current one, and `on_complete_` has not been
run. -/
structure Going (s : EvalLoopRunner) : Prop where
  factories : s.taskFactories.length = n
  config_eq : s.config = config
  onIteration_eq : s.onIteration = onIteration
  onComplete_eq : s.onComplete = onComplete
  earlier : ∀ i < s.currentIteration, (dispatches i s.log).reverse = List.range n
  later : ∀ i > s.currentIteration, dispatches i s.log = []
  ordered : s.allSummaries.map IterationSummary.iteration = List.range s.currentIteration
  balanced : ∀ summary ∈ s.allSummaries, Balanced n summary
  iterated : (iterations s.log).reverse = if onIteration then s.allSummaries else []
  history : s.evalHistory = []
  uncompleted : completions s.log = []

structure Between (s : EvalLoopRunner) : Prop extends Going n config onIteration onComplete s where
  current : s.currentIteration ≤ config.iterations
  idle : s.outstanding = []
  undispatched : dispatches s.currentIteration s.log = []
  replied : replies s.log = s.currentIteration * n

structure Running (s : EvalLoopRunner) : Prop extends Going n config onIteration onComplete s where
  current : s.currentIteration < config.iterations
  indices : ∀ task ∈ s.outstanding, task.index < n
  next : s.nextTaskIndex ≤ n
  active : s.activeCount = s.outstanding.length
  dispatched : s.currentResults.length + s.activeCount = s.nextTaskIndex
  pending : s.currentResults.length + s.pendingCount = n
  concurrent : s.activeCount ≤ config.maxConcurrent
  dispatches_eq : (dispatches s.currentIteration s.log).reverse = List.range s.nextTaskIndex
  replied : replies s.log = s.currentIteration * n + s.currentResults.length

structure Busy (s : EvalLoopRunner) : Prop extends Running n config onIteration onComplete s where
  unfinished : 0 < s.pendingCount
  full : s.activeCount = config.maxConcurrent ∨ s.nextTaskIndex = n

structure Over (s : EvalLoopRunner) : Prop where
  current : s.currentIteration = config.iterations
  idle : s.outstanding = []
  earlier : ∀ i < s.currentIteration, (dispatches i s.log).reverse = List.range n
  later : ∀ i ≥ s.currentIteration, dispatches i s.log = []
  replied : replies s.log = s.currentIteration * n
  completed : ∃ summaries : List IterationSummary,
    summaries.map IterationSummary.iteration = List.range s.currentIteration ∧
    (∀ summary ∈ summaries, Balanced n summary) ∧
    ((iterations s.log).reverse = if onIteration then summaries else []) ∧
    s.evalHistory = [summaries] ∧ completions s.log = if onComplete then [summaries] else []

variable {n config onIteration onComplete} {s : EvalLoopRunner}

lemma Running.dispatch (h : Running n config onIteration onComplete s)
    (hnext : s.nextTaskIndex < n) (hactive : s.activeCount < config.maxConcurrent) :
    Running n config onIteration onComplete { s.dispatchTask s.nextTaskIndex with
      nextTaskIndex := s.nextTaskIndex + 1
      activeCount := s.activeCount + 1 } := by
  have hdispatched := h.dispatched
  have hactiveCount := h.active
  exact {
    factories := h.factories
    config_eq := h.config_eq
    onIteration_eq := h.onIteration_eq
    onComplete_eq := h.onComplete_eq
    earlier := fun i hi => by
      have hne : s.currentIteration ≠ i := fun heq => Nat.ne_of_lt hi heq.symm
      simpa [dispatchTask, hne] using h.earlier i hi
    later := fun i hi => by
      have hne : s.currentIteration ≠ i := Nat.ne_of_lt hi
      simpa [dispatchTask, hne] using h.later i hi
    ordered := h.ordered
    balanced := h.balanced
    iterated := by simpa [dispatchTask] using h.iterated
    history := h.history
    uncompleted := by simpa [dispatchTask] using h.uncompleted
    current := h.current
    indices := fun task htask => by
      rcases mem_append.mp htask with htask | htask
      · exact h.indices task htask
      · rw [mem_singleton.mp htask]
        exact hnext
    next := hnext
    active := by simp [dispatchTask, hactiveCount]
    dispatched := by
      show s.currentResults.length + (s.activeCount + 1) = s.nextTaskIndex + 1
      omega
    pending := h.pending
    concurrent := hactive
    dispatches_eq := by simp [dispatchTask, h.dispatches_eq, range_succ]
    replied := by simpa [dispatchTask] using h.replied }

/-- `DispatchNextBatch` posts tasks until there are enough or none is left.

**Proof sketch.** Induction on the iterations of its loop: each one goes on to the next task. -/
lemma Running.dispatchLoop : ∀ (fuel : Nat) {s : EvalLoopRunner},
    Running n config onIteration onComplete s → 0 < s.pendingCount → n - s.nextTaskIndex ≤ fuel →
      Busy n config onIteration onComplete (s.dispatchLoop fuel)
  | 0, s, h, hpending, hfuel =>
    ⟨h, hpending, .inr (Nat.le_antisymm h.next (Nat.sub_eq_zero_iff_le.mp (Nat.le_zero.mp hfuel)))⟩
  | fuel + 1, s, h, hpending, hfuel => by
    simp only [EvalLoopRunner.dispatchLoop, h.factories, h.config_eq]
    split
    · rename_i hmore
      refine Running.dispatchLoop fuel (h.dispatch hmore.1 hmore.2) hpending ?_
      show n - (s.nextTaskIndex + 1) ≤ fuel
      omega
    · rename_i hstop
      refine ⟨h, hpending, ?_⟩
      have hnext := h.next
      have hconcurrent := h.concurrent
      omega

lemma Running.dispatchNextBatch (h : Running n config onIteration onComplete s)
    (hpending : 0 < s.pendingCount) :
    Busy n config onIteration onComplete s.dispatchNextBatch :=
  h.dispatchLoop _ hpending (by rw [h.factories])

lemma Between.finishLoop (h : Between n config onIteration onComplete s)
    (hover : s.currentIteration = config.iterations) :
    Over n config onIteration onComplete s.finishLoop := by
  have hlater : ∀ i ≥ s.currentIteration, dispatches i s.log = [] := by
    intro i hi
    rcases eq_or_lt_of_le hi with rfl | hlt
    · exact h.undispatched
    · exact h.later i hlt
  unfold EvalLoopRunner.finishLoop
  rw [h.onComplete_eq, h.history]
  cases onComplete with
  | false =>
    exact ⟨hover, h.idle, h.earlier, hlater, h.replied, s.allSummaries, h.ordered, h.balanced,
      h.iterated, rfl, h.uncompleted⟩
  | true =>
    refine ⟨hover, h.idle, h.earlier, hlater, by simpa using h.replied, s.allSummaries, h.ordered,
      h.balanced, h.iterated, rfl, ?_⟩
    simp [h.uncompleted]

lemma Between.runNextIteration (h : Between n config onIteration onComplete s) (hn : 0 < n)
    (now : Int) : Busy n config onIteration onComplete (s.runNextIteration now) ∨
      Over n config onIteration onComplete (s.runNextIteration now) := by
  unfold EvalLoopRunner.runNextIteration
  rw [h.config_eq]
  split
  · rename_i hover
    exact .inr (h.finishLoop (le_antisymm h.current hover))
  · rename_i hmore
    refine .inl (Running.dispatchNextBatch ?_ (by rw [h.factories]; exact hn))
    exact { h.toGoing with
      config_eq := rfl
      current := not_le.mp hmore
      indices := fun task htask => by
        rw [h.idle] at htask
        cases htask
      next := zero_le n
      active := by rw [h.idle]; rfl
      dispatched := rfl
      pending := by simp [h.factories]
      concurrent := zero_le _
      dispatches_eq := by simp [h.undispatched]
      replied := by simp [h.replied] }

lemma Running.onIterationComplete (h : Running n config onIteration onComplete s) (hn : 0 < n)
    (hpending : s.pendingCount = 0) (now : Int) :
    Busy n config onIteration onComplete (s.onIterationComplete now) ∨
      Over n config onIteration onComplete (s.onIterationComplete now) := by
  have hresults : s.currentResults.length = n := by
    have := h.pending
    omega
  have hnext := h.next
  have hdispatched := h.dispatched
  have hactive := h.active
  obtain ⟨hbalanced, hiteration⟩ := summarize_balanced s.currentIteration (now - s.iterationStart)
    s.currentResults
  rw [hresults] at hbalanced
  have hdispatches : ∀ i, dispatches i (if s.onIteration then
      .iterated (summarize s.currentIteration (now - s.iterationStart) s.currentResults) :: s.log
      else s.log) = dispatches i s.log := by
    intro i
    split <;> rfl
  refine Between.runNextIteration ?_ hn now
  exact {
    factories := h.factories
    config_eq := h.config_eq
    onIteration_eq := h.onIteration_eq
    onComplete_eq := h.onComplete_eq
    earlier := fun i hi => by
      rw [hdispatches]
      rcases Nat.lt_succ_iff_lt_or_eq.mp hi with hlt | rfl
      · exact h.earlier i hlt
      · rw [h.dispatches_eq]
        congr 1
        omega
    later := fun i hi => by
      rw [hdispatches]
      exact h.later i (lt_of_succ_lt hi)
    ordered := by simp [h.ordered, hiteration, range_succ]
    balanced := fun summary hsummary => by
      rcases mem_append.mp hsummary with hsummary | hsummary
      · exact h.balanced summary hsummary
      · rw [mem_singleton.mp hsummary]
        exact hbalanced
    iterated := by
      have hiterated := h.iterated
      rw [h.onIteration_eq]
      cases onIteration with
      | false => exact hiterated
      | true =>
        simp only [if_true, iterations_iterated, reverse_cons] at hiterated ⊢
        rw [hiterated]
    history := h.history
    uncompleted := by
      refine Eq.trans ?_ h.uncompleted
      split <;> rfl
    current := h.current
    idle := eq_nil_iff_length_eq_zero.mpr (show s.outstanding.length = 0 by omega)
    undispatched := (hdispatches _).trans (h.later _ (lt_succ_self _))
    replied := by
      have hreplied := h.replied
      rw [hresults] at hreplied
      refine Eq.trans ?_ (hreplied.trans (succ_mul _ _).symm)
      split <;> simp }

/-- **The invariant**: an iteration is going on, or the loop is over. -/
def Inv (n : Nat) (config : EvalConfig) (onIteration onComplete : Bool) (s : EvalLoopRunner) : Prop :=
  Busy n config onIteration onComplete s ∨ Over n config onIteration onComplete s

variable {s' : EvalLoopRunner}

lemma Busy.taskRuns {posted : Nat} {own : EvalResult} {duration : Int}
    (h : Busy n config onIteration onComplete s) (hs : s.taskRuns posted own duration = some s') :
    Busy n config onIteration onComplete s' := by
  unfold EvalLoopRunner.taskRuns at hs
  split at hs
  · rename_i iteration index hposted
    split at hs
    · rename_i factory hfactory
      cases hs
      exact { h with
        factories := by simp [h.factories]
        indices := fun task htask => by
          rcases mem_or_eq_of_mem_set htask with htask | rfl
          · exact h.indices task htask
          · exact h.indices ⟨iteration, index, none⟩ (mem_of_getElem? hposted)
        active := by simp [h.active] }
    · cases hs
  · cases hs

/-- **A reply** moves a task from the posted ones to the results; then the next tasks are posted, or
the iteration is over. -/
lemma Busy.taskReplies {posted : Nat} {now : Int}
    (h : Busy n config onIteration onComplete s) (hs : s.taskReplies posted now = some s') :
    Inv n config onIteration onComplete s' := by
  unfold EvalLoopRunner.taskReplies at hs
  split at hs
  · rename_i iteration index result hposted
    cases hs
    have hlt : posted < s.outstanding.length := (List.getElem?_eq_some_iff.mp hposted).1
    have hlength := length_eraseIdx_of_lt hlt
    have hactive := h.active
    have hpending := h.pending
    have hdispatched := h.dispatched
    have hunfinished := h.unfinished
    have hconcurrent := h.concurrent
    have hactiveCount := decrement_add_one (show 0 < s.activeCount by omega)
    have hpendingCount := decrement_add_one hunfinished
    have hrunning : Running n config onIteration onComplete { s with
        outstanding := s.outstanding.eraseIdx posted
        log := .replied iteration index :: s.log
        currentResults := s.currentResults ++ [result]
        activeCount := decrement s.activeCount
        pendingCount := decrement s.pendingCount } := { h.toRunning with
      indices := fun task htask => h.indices task (mem_of_mem_eraseIdx htask)
      active := by
        show decrement s.activeCount = (s.outstanding.eraseIdx posted).length
        omega
      dispatched := by
        show (s.currentResults ++ [result]).length + decrement s.activeCount = s.nextTaskIndex
        rw [length_append, length_singleton]
        omega
      pending := by
        show (s.currentResults ++ [result]).length + decrement s.pendingCount = n
        rw [length_append, length_singleton]
        omega
      concurrent := by
        show decrement s.activeCount ≤ config.maxConcurrent
        omega
      replied := by
        simp only [replies_replied, h.replied, length_append, length_singleton]
        omega }
    unfold EvalLoopRunner.onTaskComplete
    dsimp only
    split
    · rename_i hmore
      exact .inl (hrunning.dispatchNextBatch hmore)
    · rename_i hzero
      have hn : 0 < n := by omega
      exact hrunning.onIterationComplete hn (le_zero.mp (not_lt.mp hzero)) now
  · cases hs

lemma Inv.step {operation : Operation}
    (h : Inv n config onIteration onComplete s) (hs : s.step operation = some s') :
    Inv n config onIteration onComplete s' := by
  rcases h with h | h
  · cases operation with
    | taskRuns posted own duration => exact .inl (h.taskRuns hs)
    | taskReplies posted now => exact h.taskReplies hs
  · cases operation with
    | taskRuns posted own duration => simp [EvalLoopRunner.step, EvalLoopRunner.taskRuns, h.idle] at hs
    | taskReplies posted now => simp [EvalLoopRunner.step, EvalLoopRunner.taskReplies, h.idle] at hs

lemma Busy.outstanding_ne_nil (h : Busy n config onIteration onComplete s)
    (hmax : 0 < config.maxConcurrent) : s.outstanding ≠ [] := by
  intro hnil
  have hactive := h.active
  rw [hnil, length_nil] at hactive
  have hdispatched := h.dispatched
  have hpending := h.pending
  have hunfinished := h.unfinished
  rcases h.full with hfull | hfull <;> omega

lemma Inv.accounted (h : Inv n config onIteration onComplete s) (hmax : 0 < config.maxConcurrent) :
    Accounted n config onIteration onComplete s := by
  rcases h with h | h
  · have hposted := h.outstanding_ne_nil hmax
    refine ⟨h.earlier, fun i => ?_, fun i hi => h.later i (lt_of_lt_of_le h.current hi),
      h.active ▸ h.concurrent, fun _ => h.active, fun _ => ⟨?_, h.unfinished⟩, s.allSummaries,
      h.ordered, h.balanced, h.iterated, fun _ => ⟨h.history, h.uncompleted⟩,
      fun hnil => absurd hnil hposted⟩
    · rcases lt_trichotomy i s.currentIteration with hlt | rfl | hgt
      · exact ⟨n, le_refl n, h.earlier i hlt⟩
      · exact ⟨s.nextTaskIndex, h.next, h.dispatches_eq⟩
      · exact ⟨0, zero_le n, by simp [h.later i hgt]⟩
    · rw [h.active]
      exact length_pos_iff.mpr hposted
  · obtain ⟨summaries, hordered, hbalanced, hiterated, hhistory, hcompleted⟩ := h.completed
    refine ⟨h.earlier, fun i => ?_, fun i hi => h.later i (h.current ▸ hi), ?_,
      absurd h.idle, absurd h.idle, summaries, hordered, hbalanced,
      hiterated, absurd h.idle, fun _ => ⟨h.current, hhistory, hcompleted⟩⟩
    · rcases lt_or_ge i s.currentIteration with hlt | hge
      · exact ⟨n, le_refl n, h.earlier i hlt⟩
      · exact ⟨0, zero_le n, by simp [h.later i hge]⟩
    · simp [h.idle]

def work (s : EvalLoopRunner) : Nat :=
  2 * replies s.log + s.outstanding.countP fun task => task.result.isSome

end Invariant

/-! ### Runs -/

variable {config : EvalConfig} {s : EvalLoopRunner}

lemma inv_runEvaluationLoop {tags : List String} (htags : tags ≠ [])
    (onIteration onComplete : Bool) (now : Int) :
    Inv tags.length config onIteration onComplete
      (runEvaluationLoop tags config onIteration onComplete now) := by
  refine Between.runNextIteration ?_ (length_pos_iff.mpr htags) now
  exact {
    factories := length_map ..
    config_eq := rfl
    onIteration_eq := rfl
    onComplete_eq := rfl
    earlier := fun i hi => absurd hi (not_lt_zero i)
    later := fun _ _ => rfl
    ordered := rfl
    balanced := fun _ hsummary => nomatch hsummary
    iterated := by cases onIteration <;> rfl
    history := rfl
    uncompleted := rfl
    current := zero_le _
    idle := rfl
    undispatched := rfl
    replied := (zero_mul _).symm }

lemma work_dispatchLoop : ∀ (fuel : Nat) (s : EvalLoopRunner), (s.dispatchLoop fuel).work = s.work
  | 0, _ => rfl
  | fuel + 1, s => by
    simp only [dispatchLoop]
    split
    · rw [work_dispatchLoop fuel]
      simp [work, dispatchTask]
    · rfl

lemma work_runNextIteration (s : EvalLoopRunner) (now : Int) :
    (s.runNextIteration now).work = s.work := by
  unfold runNextIteration
  split
  · unfold finishLoop
    dsimp only
    split
    · simp [work]
    · rfl
  · exact work_dispatchLoop _ _

lemma work_onTaskComplete (s : EvalLoopRunner) (result : EvalResult) (now : Int) :
    (s.onTaskComplete result now).work = s.work := by
  unfold onTaskComplete
  dsimp only
  split
  · exact work_dispatchLoop _ _
  · unfold onIterationComplete
    rw [work_runNextIteration]
    unfold work
    split
    · rw [replies_iterated]
    · rfl

lemma work_step {s' : EvalLoopRunner} {operation : Operation} (hs : s.step operation = some s') :
    s'.work = s.work + 1 := by
  cases operation with
  | taskRuns posted own duration =>
    simp only [step, taskRuns] at hs
    split at hs
    · rename_i iteration index hposted
      split at hs
      · obtain ⟨hlt, hget⟩ := List.getElem?_eq_some_iff.mp hposted
        cases hs
        simp only [work, countP_set hlt, hget]
        simp
        omega
      · cases hs
    · cases hs
  | taskReplies posted now =>
    simp only [step, taskReplies] at hs
    split at hs
    · rename_i iteration index result hposted
      obtain ⟨hlt, hget⟩ := List.getElem?_eq_some_iff.mp hposted
      cases hs
      rw [work_onTaskComplete]
      have hcount := (getElem_cons_eraseIdx_perm hlt).countP_eq fun task => task.result.isSome
      simp only [hget, countP_cons, isSome_some, if_true] at hcount
      simp only [work, replies_replied]
      omega
    · cases hs

lemma work_foldlM : ∀ {operations : List Operation} {s s' : EvalLoopRunner},
    operations.foldlM step s = some s' → s'.work = s.work + operations.length
  | [], s, s', h => by
    cases h
    rfl
  | operation :: operations, s, s', h => by
    rw [foldlM_cons, bind_eq_bind, bind_eq_some_iff] at h
    obtain ⟨t, ht, h⟩ := h
    rw [work_foldlM h, work_step ht, length_cons]
    omega

lemma Inv.work_le {n : Nat} {onIteration onComplete : Bool}
    (h : Inv n config onIteration onComplete s) : s.work ≤ 2 * (config.iterations * n) := by
  unfold work
  rcases h with h | h
  · have hcount := countP_le_length (l := s.outstanding)
      (p := fun task => task.result.isSome)
    have hdispatched := h.dispatched
    have hactive := h.active
    have hnext := h.next
    have hiterations := mul_le_mul_right n (succ_le_of_lt h.current)
    rw [succ_mul] at hiterations
    rw [h.replied]
    omega
  · rw [h.idle, h.replied, h.current]
    exact le_refl _

lemma Inv.exists_step {n : Nat} {onIteration onComplete : Bool}
    (h : Inv n config onIteration onComplete s) (hposted : s.outstanding ≠ []) :
    ∃ operation, (s.step operation).isSome = true := by
  rcases h with h | h
  · obtain ⟨⟨iteration, index, result⟩, rest, hcons⟩ := exists_cons_of_ne_nil hposted
    cases result with
    | none =>
      have hindex : index < s.taskFactories.length := by
        rw [h.factories]
        exact h.indices ⟨iteration, index, none⟩ (hcons ▸ mem_cons_self)
      exact ⟨.taskRuns 0 {} 0, by
        simp [EvalLoopRunner.step, EvalLoopRunner.taskRuns, hcons, getElem?_eq_getElem hindex]⟩
    | some result =>
      exact ⟨.taskReplies 0 0, by simp [EvalLoopRunner.step, EvalLoopRunner.taskReplies, hcons]⟩
  · exact absurd h.idle hposted

/-- **The evaluation loop** keeps its books, whatever the tasks are and in whatever order they run
and reply; as long as a task is posted some step is possible, and no run has more steps than two for
each task and iteration.

**Proof sketch.** Each task of the iteration that is going on is still to be dispatched, or posted,
or has a result, and `next_task_index_`, `active_count_` and `pending_count_` count these. The last
reply leaves none posted, and the summary is made from as many results as there are tasks. -/
theorem loop_accounted {tags : List String} {config : EvalConfig} (htags : tags ≠ [])
    (hmax : 0 < config.maxConcurrent) (onIteration onComplete : Bool) (now : Int)
    {operations : List Operation} {s : EvalLoopRunner}
    (hrun : operations.foldlM step (runEvaluationLoop tags config onIteration onComplete now) =
      some s) :
    Accounted tags.length config onIteration onComplete s ∧
      (s.outstanding ≠ [] → ∃ operation, (s.step operation).isSome = true) ∧
      operations.length ≤ 2 * (config.iterations * tags.length) := by
  have hinv := Transition.run_invariant (fun _ _ _ h hs => Inv.step h hs)
    (inv_runEvaluationLoop htags onIteration onComplete now) hrun
  refine ⟨hinv.accounted hmax, hinv.exists_step, ?_⟩
  have hwork := work_foldlM hrun
  have hle := hinv.work_le
  omega

/-- Two tasks, one at a time, twice. -/
def sampleLoop : Option EvalLoopRunner :=
  [.taskRuns 0 { success := true } 5, .taskReplies 0 10, .taskRuns 0 { success := true } 5,
    .taskReplies 0 20, .taskRuns 0 { success := true } 5, .taskReplies 0 30,
    .taskRuns 0 { success := true } 5, .taskReplies 0 40].foldlM step
      (runEvaluationLoop ["train", "validation"] { iterations := 2, maxConcurrent := 1 } true true 0)

lemma sampleLoop_isSome : sampleLoop.isSome = true := by decide +kernel

/-- The sample loop is over, and has kept its books. -/
theorem loop_accounted_sample :
    Accounted 2 { iterations := 2, maxConcurrent := 1 } true true
        (sampleLoop.get sampleLoop_isSome) ∧
      (sampleLoop.get sampleLoop_isSome).outstanding = [] :=
  ⟨(loop_accounted (cons_ne_nil "train" ["validation"]) Nat.zero_lt_one true true
    0 (some_get sampleLoop_isSome).symm).1, by decide +kernel⟩

end EvalLoopRunner

end CefCore.Browser
