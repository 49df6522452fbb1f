import CefCore.Foundations.PriorityQueue
import Mathlib.Data.List.AList
import Mathlib.Data.Multiset.Filter

/-!
# The agent scheduler

`CefAgentScheduler` of `libcef/browser/agent_scheduler.cc`: tasks wait in a priority queue until
they are posted to the thread pool, at most so many at a time and so many for each agent. A pending
task can be cancelled; a posted one calls back when its work is done.

## Main definitions

* `CefAgentScheduler.step`: a call, or what a posted task does next.

## Implementation notes

* The results hold for every `PriorityQueue`, as `std::priority_queue` says nothing about the order
  of equivalent elements.
* A call holds `lock_` from its beginning to its end, so that a call is one step. The reply of a
  posted task first runs `on_complete`, which may call the scheduler, and then `OnTaskComplete`;
  these are two steps.
* `base::TimeTicks::Now()` is an argument of `scheduleTask`. Nothing reads `started_at`, which is
  left out.
* `next_task_id_` is a `Nat`; the model does not wrap it after `2 ^ 64` tasks.
* The maps are `AList`s, whose keys are distinct by construction. Closures are of a type `ω`.
-/

namespace CefCore.Browser

open Multiset

inductive Priority where
  | low
  | normal
  | high
  | critical
  deriving DecidableEq

/-- `static_cast<int>` of a priority. -/
def Priority.toInt : Priority → Int
  | .low => 0
  | .normal => 1
  | .high => 2
  | .critical => 3

lemma Priority.toInt_injective : Function.Injective Priority.toInt := by
  intro p q h
  cases p <;> cases q <;> first | rfl | exact absurd h (by decide)

/-- `CefAgentScheduler::Task`, with times in microseconds. -/
structure SchedulerTask (ω : Type) where
  id : String
  agentId : String
  priority : Priority
  work : ω
  onComplete : Option ω
  queuedAt : Int
  timeout : Int
  deriving DecidableEq

/-- `CefAgentScheduler::Config`. -/
structure SchedulerConfig where
  maxConcurrentTasks : Nat := 8
  maxPerAgentTasks : Nat := 4
  defaultTimeout : Int := 60 * 1000000

/-- `TaskComparator`: `a` has a lower priority, or the same and was queued after `b`. -/
def TaskComparator {ω : Type} (a b : SchedulerTask ω) : Bool :=
  if a.priority ≠ b.priority then a.priority.toInt < b.priority.toInt
  else a.queuedAt > b.queuedAt

lemma TaskComparator_eq_true_iff {ω : Type} {a b : SchedulerTask ω} : TaskComparator a b = true ↔
    a.priority.toInt < b.priority.toInt ∨
      a.priority.toInt = b.priority.toInt ∧ b.queuedAt < a.queuedAt := by
  unfold TaskComparator
  split
  · rename_i hne
    have hint := mt (@Priority.toInt_injective a.priority b.priority) hne
    simp [hint]
  · rename_i heq
    simp [not_not.mp heq]

lemma TaskComparator_total {ω : Type} (a b : SchedulerTask ω) :
    TaskComparator a b = false ∨ TaskComparator b a = false := by
  simp only [← Bool.not_eq_true, TaskComparator_eq_true_iff]
  omega

lemma TaskComparator_trans {ω : Type} (a b c : SchedulerTask ω) :
    TaskComparator a b = false → TaskComparator b c = false → TaskComparator a c = false := by
  simp only [← Bool.not_eq_true, TaskComparator_eq_true_iff]
  omega

def taskQueue (ω : Type) : PriorityQueue (TaskComparator (ω := ω))
    { l : List (SchedulerTask ω) // l.Pairwise fun a b => TaskComparator a b = false } :=
  PriorityQueue.ofSorted TaskComparator_total TaskComparator_trans

/-- `running_tasks_`: the agent of each running task. -/
abbrev RunningTasks := AList fun _ : String => String

def agentRunning (running : RunningTasks) (agent : String) : Nat :=
  running.entries.countP fun e => e.2 = agent

structure SchedulerStart where
  running : RunningTasks
  config : SchedulerConfig
  paused : Bool

inductive SchedulerEvent (ω : Type) where
  /-- `ScheduleTask` has queued a task. -/
  | scheduled (id : String) (work : ω)
  /-- `DispatchPending` has posted the work of a task. -/
  | posted (id : String) (agent : String) (work : ω) (start : SchedulerStart)
  /-- The reply of a task has run `on_complete`. -/
  | completed (id : String) (onComplete : ω)
  /-- `OnTaskComplete` has been called for a task. -/
  | finished (id : String)
  /-- `CancelTask` has returned `true` for a task. -/
  | cancelled (id : String)

inductive SchedulerEventKind where
  | scheduled
  | posted
  | completed
  | finished
  | cancelled
  deriving DecidableEq

namespace SchedulerEvent

variable {ω : Type}

def kind : SchedulerEvent ω → SchedulerEventKind
  | scheduled .. => .scheduled
  | posted .. => .posted
  | completed .. => .completed
  | finished _ => .finished
  | cancelled _ => .cancelled

def id : SchedulerEvent ω → String
  | scheduled id _ => id
  | posted id .. => id
  | completed id _ => id
  | finished id => id
  | cancelled id => id

end SchedulerEvent

/-- The tasks with an event of the given kind, newest first. -/
def idsOf {ω : Type} (kind : SchedulerEventKind) (log : List (SchedulerEvent ω)) : List String :=
  (log.filter fun e => e.kind = kind).map SchedulerEvent.id

structure TaskReply (ω : Type) where
  id : String
  agentId : String
  onComplete : Option ω

/-- `CefAgentScheduler`, with the replies that the thread pool still has to run and what has
happened so far. -/
structure CefAgentScheduler (ω Q : Type) where
  config : SchedulerConfig
  paused : Bool
  nextTaskId : Nat
  pendingTasks : Q
  runningTasks : RunningTasks
  agentTaskCounts : AList fun _ : String => Nat
  replies : List (TaskReply ω)
  log : List (SchedulerEvent ω)

namespace CefAgentScheduler

variable {ω Q : Type} (pq : PriorityQueue (TaskComparator (ω := ω)) Q)

def new (config : SchedulerConfig) : CefAgentScheduler ω Q :=
  ⟨config, false, 1, pq.empty, ∅, ∅, [], []⟩

/-- `GenerateTaskId`, for the given value of `next_task_id_`. -/
def generateTaskId (n : Nat) : String := "task_" ++ toString n

section

variable (s : CefAgentScheduler ω Q)

def getQueuedTaskCount : Nat := pq.size s.pendingTasks

def getRunningTaskCount : Nat := s.runningTasks.entries.length

/-- `GetAgentTaskCount`; `DispatchPending` looks the number up in the same way. -/
def getAgentTaskCount (agentId : String) : Nat :=
  (s.agentTaskCounts.lookup agentId).getD 0

/-- The body of the loop of `DispatchPending` for the top task, with the queue without it. -/
def startTask (task : SchedulerTask ω) (rest : Q) : CefAgentScheduler ω Q :=
  { s with
    pendingTasks := rest
    runningTasks := s.runningTasks.insert task.id task.agentId
    agentTaskCounts := s.agentTaskCounts.insert task.agentId (s.getAgentTaskCount task.agentId + 1)
    replies := s.replies ++ [⟨task.id, task.agentId, task.onComplete⟩]
    log := .posted task.id task.agentId task.work ⟨s.runningTasks, s.config, s.paused⟩ :: s.log }

end

/-- The loop of `DispatchPending`. -/
def dispatchLoop : Nat → CefAgentScheduler ω Q → CefAgentScheduler ω Q
  | 0, s => s
  | fuel + 1, s =>
    match pq.pop? s.pendingTasks with
    | none => s
    | some (task, rest) =>
      if s.runningTasks.entries.length < s.config.maxConcurrentTasks then
        if s.config.maxPerAgentTasks ≤ s.getAgentTaskCount task.agentId then s
        else dispatchLoop fuel (s.startTask task rest)
      else s

/-- `DispatchPending`. Every iteration of the loop takes a task out of the queue. -/
def dispatchPending (s : CefAgentScheduler ω Q) : CefAgentScheduler ω Q :=
  if s.paused then s else s.dispatchLoop pq (pq.size s.pendingTasks)

/-- `ScheduleTask`, with the id it returns. -/
def scheduleTask (s : CefAgentScheduler ω Q) (agentId : String) (priority : Priority) (work : ω)
    (onComplete : Option ω) (now : Int) : String × CefAgentScheduler ω Q :=
  let id := generateTaskId s.nextTaskId
  let task : SchedulerTask ω :=
    ⟨id, agentId, priority, work, onComplete, now, s.config.defaultTimeout⟩
  (id, { s with
    nextTaskId := s.nextTaskId + 1
    pendingTasks := pq.push s.pendingTasks task
    log := .scheduled id work :: s.log }.dispatchPending pq)

/-- The first loop of `CancelTask`: what remains, whether the task was found, and the queue. -/
def cancelLoop (taskId : String) : Nat → Q → List (SchedulerTask ω) → Bool →
    List (SchedulerTask ω) × Bool × Q
  | 0, q, remaining, found => (remaining, found, q)
  | fuel + 1, q, remaining, found =>
    match pq.pop? q with
    | none => (remaining, found, q)
    | some (top, q) =>
      if top.id = taskId then cancelLoop taskId fuel q remaining true
      else cancelLoop taskId fuel q (remaining ++ [top]) found

section

variable (s : CefAgentScheduler ω Q)

/-- `CancelTask`, with what it returns. -/
def cancelTask (taskId : String) : Bool × CefAgentScheduler ω Q :=
  let (remaining, found, q) :=
    cancelLoop pq taskId (pq.size s.pendingTasks) s.pendingTasks [] false
  (found, { s with
    pendingTasks := pq.pushAll q remaining
    log := if found then .cancelled taskId :: s.log else s.log })

def pause : CefAgentScheduler ω Q := { s with paused := true }

def resume : CefAgentScheduler ω Q :=
  { s with paused := false }.dispatchPending pq

def setConfig (config : SchedulerConfig) : CefAgentScheduler ω Q :=
  { s with config := config }.dispatchPending pq

end

/-- `agent_task_counts_` after a task of the agent is complete. -/
def countDown (counts : AList fun _ : String => Nat) (agentId : String) :
    AList fun _ : String => Nat :=
  match counts.lookup agentId with
  | none => counts
  | some n => if n ≤ 1 then counts.erase agentId else counts.insert agentId (n - 1)

def onTaskComplete (s : CefAgentScheduler ω Q) (taskId agentId : String) : CefAgentScheduler ω Q :=
  { s with
    runningTasks := s.runningTasks.erase taskId
    agentTaskCounts := countDown s.agentTaskCounts agentId
    log := .finished taskId :: s.log }.dispatchPending pq

/-- A reply begins to run: it runs `on_complete`, if there is one. -/
def replyCompletes (s : CefAgentScheduler ω Q) (index : Nat) : CefAgentScheduler ω Q :=
  match s.replies[index]? with
  | some ⟨id, agentId, some onComplete⟩ => { s with
      replies := s.replies.set index ⟨id, agentId, none⟩
      log := .completed id onComplete :: s.log }
  | _ => s

/-- A reply goes on, after `on_complete`, and calls `OnTaskComplete`. -/
def replyFinishes (s : CefAgentScheduler ω Q) (index : Nat) : CefAgentScheduler ω Q :=
  match s.replies[index]? with
  | some ⟨id, agentId, none⟩ =>
    { s with replies := s.replies.eraseIdx index }.onTaskComplete pq id agentId
  | _ => s

inductive Operation (ω : Type) where
  | scheduleTask (agentId : String) (priority : Priority) (work : ω) (onComplete : Option ω)
    (now : Int)
  | cancelTask (taskId : String)
  | pause
  | resume
  | setConfig (config : SchedulerConfig)
  | replyCompletes (index : Nat)
  | replyFinishes (index : Nat)

def step (s : CefAgentScheduler ω Q) : Operation ω → CefAgentScheduler ω Q
  | .scheduleTask agentId priority work onComplete now =>
    (s.scheduleTask pq agentId priority work onComplete now).2
  | .cancelTask taskId => (s.cancelTask pq taskId).2
  | .pause => s.pause
  | .resume => s.resume pq
  | .setConfig config => s.setConfig pq config
  | .replyCompletes index => s.replyCompletes index
  | .replyFinishes index => s.replyFinishes pq index

def run (s : CefAgentScheduler ω Q) (operations : List (Operation ω)) : CefAgentScheduler ω Q :=
  operations.foldl (step pq) s

/-- One task at a time: the one with the high priority is next, and the cancelled one is not. -/
example : ((new (taskQueue Nat) { maxConcurrentTasks := 1 }).run (taskQueue Nat)
    [.scheduleTask "a" .low 0 none 5, .scheduleTask "a" .low 1 none 6,
      .scheduleTask "b" .high 2 none 7, .cancelTask "task_2",
      .replyFinishes 0]).getAgentTaskCount "b" = 1 := by decide

/-! ### The loops -/

variable {pq}

/-- **The first loop of `CancelTask`** empties the queue. All other tasks remain, and the task is
found if it was pending. -/
lemma cancelLoop_spec (taskId : String) : ∀ (fuel : Nat) (q : Q) (remaining : List (SchedulerTask ω))
    (found : Bool), pq.size q ≤ fuel → ∃ remaining' found' q',
      cancelLoop pq taskId fuel q remaining found = (remaining', found', q') ∧
      (remaining' : Multiset (SchedulerTask ω)) =
        remaining + (pq.elems q).filter (fun task => task.id ≠ taskId) ∧
      (found' = true ↔ found = true ∨ ∃ task ∈ pq.elems q, task.id = taskId) ∧
      pq.elems q' = 0 := by
  intro fuel
  induction fuel with
  | zero =>
    intro q remaining found h
    have hempty : pq.elems q = 0 := card_eq_zero.mp (Nat.le_zero.mp h)
    exact ⟨remaining, found, q, rfl, by simp [hempty], by simp [hempty], hempty⟩
  | succ fuel ih =>
    intro q remaining found h
    simp only [cancelLoop]
    cases hpop : pq.pop? q with
    | none =>
      have hempty := pq.elems_of_pop?_none q hpop
      exact ⟨remaining, found, q, rfl, by simp [hempty], by simp [hempty], hempty⟩
    | some p =>
      obtain ⟨top, rest⟩ := p
      have helems := pq.elems_of_pop?_some q top rest hpop
      have hsize := pq.size_of_pop? hpop
      by_cases htop : top.id = taskId
      · obtain ⟨remaining', found', q', hloop, hremaining, hfound, hempty⟩ :=
          ih rest remaining true (by omega)
        refine ⟨remaining', found', q', by simp [htop, hloop], ?_, ?_, hempty⟩
        · rw [hremaining, helems, filter_cons_of_neg _ (by simp [htop])]
        · simp [hfound, helems, htop]
      · obtain ⟨remaining', found', q', hloop, hremaining, hfound, hempty⟩ :=
          ih rest (remaining ++ [top]) found (by omega)
        refine ⟨remaining', found', q', by simp [htop, hloop], ?_, ?_, hempty⟩
        · have hne : top.id ≠ taskId := htop
          rw [hremaining, helems,
            filter_cons_of_pos (p := fun task : SchedulerTask ω => task.id ≠ taskId) _ hne, ← coe_add,
            Multiset.coe_singleton, Multiset.add_assoc, Multiset.singleton_add]
        · simp [hfound, helems, htop]

end CefAgentScheduler

end CefCore.Browser
