import CefCore.Browser.AgentSchedulerAccounting

/-!
# Work conservation of the agent scheduler

The scheduler is meant to start a task as soon as the task is the next one and the limits allow it.
All operations that queue a task or free a place end with `DispatchPending`, which does not stop
before the next task is held back. `CancelTask` takes a task out of the queue as well, but does not
look at the one behind it.

## Main results

* `run_conserving`: the next task is held back by a limit, as long as none that was is cancelled.
-/

namespace CefCore.Browser.CefAgentScheduler

open Transition

variable {ω Q : Type} (pq : PriorityQueue (TaskComparator (ω := ω)) Q)

/-- **Work conservation**: the scheduler is paused, or nothing is pending, or as many tasks are
running as may be, or the agent of the next task runs as many tasks as it may. -/
def WorkConserving (s : CefAgentScheduler ω Q) : Prop :=
  s.paused = true ∨ pq.elems s.pendingTasks = 0 ∨
    s.config.maxConcurrentTasks ≤ s.runningTasks.entries.length ∨
    ∃ task rest, pq.pop? s.pendingTasks = some (task, rest) ∧
      s.config.maxPerAgentTasks ≤ agentRunning s.runningTasks task.agentId

def Remaining (s : CefAgentScheduler ω Q) (taskId : String) : Multiset (SchedulerTask ω) :=
  (pq.elems s.pendingTasks).filter fun task => task.id ≠ taskId

/-- The step cancels no task, or cancels one while nothing can be started: the scheduler is paused,
or as many tasks are running as may be, or each remaining task that no other one beats has an agent
without a place. -/
def CancelsBlocked (s : CefAgentScheduler ω Q) : Operation ω → Prop
  | .cancelTask taskId =>
    s.paused = true ∨ s.config.maxConcurrentTasks ≤ s.runningTasks.entries.length ∨
      ∀ task ∈ s.Remaining pq taskId, (∀ other ∈ s.Remaining pq taskId,
        TaskComparator task other = false) →
        s.config.maxPerAgentTasks ≤ agentRunning s.runningTasks task.agentId
  | _ => True

instance (s : CefAgentScheduler ω Q) :
    (operation : Operation ω) → Decidable (s.CancelsBlocked pq operation)
  | .cancelTask taskId =>
    inferInstanceAs (Decidable (_ ∨ _ ∨ ∀ task ∈ s.Remaining pq taskId,
      (∀ other ∈ s.Remaining pq taskId, _) → _))
  | .scheduleTask .. | .pause | .resume | .setConfig _ | .replyCompletes _ | .replyFinishes _ =>
    .isTrue trivial

/-! ### Dispatching -/

variable {pq} {s : CefAgentScheduler ω Q}

/-- The loop of `DispatchPending` goes on until the queue is empty, the running tasks are too many
or the counter of the agent is at its limit.

**Proof sketch.** Induction on the iterations; each one makes the queue shorter. -/
lemma dispatchLoop_stops : ∀ (fuel : Nat) {s : CefAgentScheduler ω Q}, pq.size s.pendingTasks ≤ fuel →
    let t := s.dispatchLoop pq fuel
    pq.elems t.pendingTasks = 0 ∨ t.config.maxConcurrentTasks ≤ t.runningTasks.entries.length ∨
      ∃ task rest, pq.pop? t.pendingTasks = some (task, rest) ∧
        t.config.maxPerAgentTasks ≤ t.getAgentTaskCount task.agentId
  | 0, _, h => .inl (Multiset.card_eq_zero.mp (Nat.le_zero.mp h))
  | fuel + 1, s, h => by
    simp only [dispatchLoop]
    cases hpop : pq.pop? s.pendingTasks with
    | none => exact .inl (pq.elems_of_pop?_none _ hpop)
    | some p =>
      obtain ⟨task, rest⟩ := p
      dsimp only
      split
      · split
        · rename_i hagent
          exact .inr (.inr ⟨task, rest, hpop, hagent⟩)
        · have hsize := pq.size_of_pop? hpop
          exact dispatchLoop_stops fuel (s := s.startTask task rest)
            (show pq.size rest ≤ fuel by omega)
      · rename_i hfull
        exact .inr (.inl (Nat.not_lt.mp hfull))

lemma dispatchPending_conserving (h : Ledger pq s) : (s.dispatchPending pq).WorkConserving pq := by
  have hledger := h.dispatchPending
  revert hledger
  unfold dispatchPending
  split
  · rename_i hpaused
    exact fun _ => .inl hpaused
  · intro hledger
    rcases dispatchLoop_stops (pq.size s.pendingTasks) (Nat.le_refl _) with
      hempty | hfull | ⟨task, rest, hpop, hagent⟩
    · exact .inr (.inl hempty)
    · exact .inr (.inr (.inl hfull))
    · rw [hledger.getAgentTaskCount_eq] at hagent
      exact .inr (.inr (.inr ⟨task, rest, hpop, hagent⟩))

/-! ### Cancelling -/

variable (pq) in
lemma elems_cancelTask (s : CefAgentScheduler ω Q) (taskId : String) :
    pq.elems (s.cancelTask pq taskId).2.pendingTasks = s.Remaining pq taskId := by
  obtain ⟨remaining, found, q, hloop, hremaining, -, hempty⟩ :=
    cancelLoop_spec taskId _ s.pendingTasks [] false (Nat.le_refl _)
  unfold cancelTask
  rw [hloop]
  rw [pq.elems_pushAll, hremaining, hempty, Multiset.add_zero]
  exact Multiset.zero_add _

lemma cancelTask_conserving {taskId : String} (h : s.CancelsBlocked pq (.cancelTask taskId)) :
    (s.cancelTask pq taskId).2.WorkConserving pq := by
  rcases h with hpaused | hfull | hblocked
  · exact .inl hpaused
  · exact .inr (.inr (.inl hfull))
  · have helems := elems_cancelTask pq s taskId
    cases hpop : pq.pop? (s.cancelTask pq taskId).2.pendingTasks with
    | none => exact .inr (.inl (pq.elems_of_pop?_none _ hpop))
    | some p =>
      obtain ⟨task, rest⟩ := p
      have hcons := helems.symm.trans (pq.elems_of_pop?_some _ _ _ hpop)
      have htop : ∀ other ∈ s.Remaining pq taskId, TaskComparator task other = false := by
        intro other hother
        rw [hcons] at hother
        rcases Multiset.mem_cons.mp hother with rfl | hother
        · exact Bool.eq_false_iff.mpr fun hself => by
            rw [TaskComparator_eq_true_iff] at hself
            omega
        · exact pq.top_not_less _ _ _ hpop other hother
      have hmem : task ∈ s.Remaining pq taskId := hcons ▸ Multiset.mem_cons_self task _
      exact .inr (.inr (.inr ⟨task, rest, hpop, hblocked task hmem htop⟩))

/-! ### Runs -/

/-- **The step lemma**: every operation leads to a state that conserves work, if no cancellation
uncovers a task that could be started. -/
lemma WorkConserving.step {operation : Operation ω} (hledger : Ledger pq s)
    (h : s.WorkConserving pq) (hblocked : s.CancelsBlocked pq operation) :
    (s.step pq operation).WorkConserving pq := by
  cases operation with
  | scheduleTask agentId priority work onComplete now =>
    exact dispatchPending_conserving (hledger.enqueued rfl)
  | cancelTask taskId => exact cancelTask_conserving hblocked
  | pause => exact .inl rfl
  | resume => exact dispatchPending_conserving (hledger.reconfigured s.config false)
  | setConfig config => exact dispatchPending_conserving (hledger.reconfigured config s.paused)
  | replyCompletes index =>
    simp only [CefAgentScheduler.step, replyCompletes]
    split
    · exact h
    · exact h
  | replyFinishes index =>
    simp only [CefAgentScheduler.step, replyFinishes]
    split
    · rename_i id agentId hreply
      exact dispatchPending_conserving (hledger.completed hreply)
    · exact h

/-- **Work conservation over whole runs.** Whatever the limits at the beginning and the priority
queue, if no cancellation of a run uncovers a task that could be started, then every state of the run
conserves work.

**Proof sketch.** All other operations that take a task out of the queue, put one in, free a place
or change the limits end with `DispatchPending`. -/
theorem run_conserving (pq : PriorityQueue (TaskComparator (ω := ω)) Q) (config : SchedulerConfig)
    (operations : List (Operation ω))
    (h : Along (fun s operation => some (step pq s operation)) (CancelsBlocked pq)
      (new pq config) operations) :
    Always (fun s operation => some (step pq s operation)) (WorkConserving pq)
      (new pq config) operations := by
  have hboth := Along.always (I := fun s => Ledger pq s ∧ s.WorkConserving pq)
    ?_ ⟨ledger_new pq config, .inr (.inl pq.elems_empty)⟩ h
  · exact fun n s hs => (hboth n s hs).2
  · rintro s operation s' ⟨hledger, hconserving⟩ hblocked hs
    cases hs
    exact ⟨hledger.step operation, hconserving.step hledger hblocked⟩

/-- One place for each agent: agent `a` runs a task and has another one pending, agent `b` has one
behind it. -/
def crowdedAgent : List (Operation Nat) :=
  [.scheduleTask "a" .normal 0 none 1, .scheduleTask "a" .normal 1 none 2,
    .scheduleTask "a" .normal 2 none 3, .scheduleTask "b" .normal 3 none 4]

/-- A cancellation behind which the next task still has to wait. -/
theorem run_conserving_crowded :
    Always (fun s operation => some (step (taskQueue Nat) s operation))
      (WorkConserving (taskQueue Nat)) (new (taskQueue Nat) { maxPerAgentTasks := 1 })
      (crowdedAgent ++ [.cancelTask "task_2"]) :=
  run_conserving (taskQueue Nat) { maxPerAgentTasks := 1 } (crowdedAgent ++ [.cancelTask "task_2"])
    (by decide +kernel)

/-- The two cancellations that leave the task of agent `b` alone. -/
def uncovered : List (Operation Nat) :=
  crowdedAgent ++ [.cancelTask "task_2", .cancelTask "task_3"]

/-- **The tasks that hold the other one up are cancelled**: the agent of the next task has no running
task, and the task is not started. -/
theorem cancelled_head_frees_next :
    ¬ ∀ (config : SchedulerConfig) (operations : List (Operation Nat)),
      Always (fun s operation => some (step (taskQueue Nat) s operation))
        (WorkConserving (taskQueue Nat)) (new (taskQueue Nat) config) operations := by
  intro h
  have hconserving := h { maxPerAgentTasks := 1 } uncovered 6
    ((new (taskQueue Nat) { maxPerAgentTasks := 1 }).run (taskQueue Nat) uncovered) rfl
  rcases hconserving with hpaused | hempty | hfull | ⟨task, rest, hpop, hagent⟩
  · exact absurd hpaused (by decide +kernel)
  · exact absurd hempty (by decide +kernel)
  · exact absurd hfull (by decide +kernel)
  · have hb : some task.agentId = some "b" := by
      refine (congrArg (Option.map fun p => p.1.agentId) hpop).symm.trans ?_
      decide +kernel
    rw [Option.some.inj hb] at hagent
    revert hagent
    decide +kernel

end CefCore.Browser.CefAgentScheduler
