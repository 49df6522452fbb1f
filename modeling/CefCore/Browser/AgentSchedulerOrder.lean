import CefCore.Browser.AgentSchedulerConservation
import CefCore.Foundations.BinaryHeap

/-!
# The order in which tasks are started

`TaskComparator` puts a higher priority first, and among tasks of one priority the one that was
queued at the earlier time. Tasks of the same priority that were queued at the same time are
equivalent to the queue, and `std::priority_queue` says nothing about their order: a binary heap
starts some of them out of turn.

## Main results

* `run_starts_by_time`: no task is started before a pending one of a higher priority, or of the same
  priority with an earlier time, whatever the implementation of the queue is and however often
  `CancelTask` rebuilds it.
-/

namespace CefCore.Browser

open List Option Multiset EventLog

def taskHeap (ω : Type) : PriorityQueue (TaskComparator (ω := ω))
    { a : Array (SchedulerTask ω) // BinaryHeap.IsHeap TaskComparator a } :=
  PriorityQueue.ofHeap TaskComparator_total TaskComparator_trans

namespace CefAgentScheduler

variable {ω Q : Type} (pq : PriorityQueue (TaskComparator (ω := ω)) Q)

/-- The priorities and the times of the calls of `ScheduleTask`, in their order. The call with the
index `i` makes the task with the id `generateTaskId (i + 1)`. -/
def submitted : List (Operation ω) → List (Priority × Int)
  | [] => []
  | .scheduleTask _ priority _ _ now :: operations => (priority, now) :: submitted operations
  | _ :: operations => submitted operations

/-- When a task is started, each scheduled task that goes first has been started or cancelled. -/
def StartsInOrder (first : Nat → Nat → Prop) (e : SchedulerEvent ω)
    (earlier : List (SchedulerEvent ω)) : Prop :=
  e.kind = .posted → ∀ i j, e.id = generateTaskId (j + 1) → first i j →
    generateTaskId (i + 1) ∈ idsOf .scheduled earlier →
      generateTaskId (i + 1) ∈ idsOf .posted earlier ∨
        generateTaskId (i + 1) ∈ idsOf .cancelled earlier

/-- The task of the call `i` has a higher priority than that of `j`, or the same and an earlier
time. -/
def ByTime (calls : List (Priority × Int)) (i j : Nat) : Prop :=
  ∃ x y, calls[i]? = some x ∧ calls[j]? = some y ∧
    (y.1.toInt < x.1.toInt ∨ y.1 = x.1 ∧ x.2 < y.2)

/-- The task of the call `i` has a higher priority than that of `j`, or the same and was scheduled
before it. -/
def ByCall (calls : List (Priority × Int)) (i j : Nat) : Prop :=
  ∃ x y, calls[i]? = some x ∧ calls[j]? = some y ∧
    (y.1.toInt < x.1.toInt ∨ y.1 = x.1 ∧ i < j)

/-- A task is not scheduled at the time of a pending one of the same priority. -/
def Untied (s : CefAgentScheduler ω Q) : Operation ω → Prop
  | .scheduleTask _ priority _ _ now =>
    ∀ task ∈ pq.elems s.pendingTasks, task.priority = priority → task.queuedAt ≠ now
  | _ => True

instance (s : CefAgentScheduler ω Q) :
    (operation : Operation ω) → Decidable (s.Untied pq operation)
  | .scheduleTask .. => inferInstanceAs (Decidable (∀ task ∈ pq.elems s.pendingTasks, _ → _))
  | .cancelTask _ | .pause | .resume | .setConfig _ | .replyCompletes _ | .replyFinishes _ =>
    .isTrue trivial

def Sorted (first : Nat → Nat → Prop) (q : Q) : Prop :=
  ∀ a ∈ pq.elems q, ∀ b ∈ pq.elems q, ∀ i j, a.id = generateTaskId (i + 1) →
    b.id = generateTaskId (j + 1) → first i j → TaskComparator b a = true

/-- The invariant: the pending tasks are those of calls, the queue has them in order, and all starts
were in order. -/
structure Ordered (calls : List (Priority × Int)) (first : Nat → Nat → Prop)
    (s : CefAgentScheduler ω Q) : Prop where
  ledger : Ledger pq s
  next_pos : 0 < s.nextTaskId
  called : ∀ task ∈ pq.elems s.pendingTasks, ∃ i, task.id = generateTaskId (i + 1) ∧
    i + 1 < s.nextTaskId ∧ calls[i]? = some (task.priority, task.queuedAt)
  sorted : Sorted pq first s.pendingTasks
  starts : Each (StartsInOrder first) s.log

variable {pq} {s : CefAgentScheduler ω Q} {calls : List (Priority × Int)} {first : Nat → Nat → Prop}

/-! ### The calls -/

lemma Sorted.of_subset {q q' : Q} (h : Sorted pq first q)
    (hsub : ∀ task ∈ pq.elems q', task ∈ pq.elems q) : Sorted pq first q' :=
  fun a ha b hb => h a (hsub a ha) b (hsub b hb)

lemma Ordered.log_cons (h : Ordered pq calls first s) {e : SchedulerEvent ω}
    (he : e.kind ≠ .posted) : Each (StartsInOrder first) (e :: s.log) :=
  ⟨fun hposted => absurd hposted he, h.starts⟩

lemma Ordered.reconfigured (h : Ordered pq calls first s) (config : SchedulerConfig)
    (paused : Bool) : Ordered pq calls first { s with config := config, paused := paused } :=
  ⟨h.ledger.reconfigured config paused, h.next_pos, h.called, h.sorted, h.starts⟩

/-! ### Starting tasks -/

variable {task : SchedulerTask ω}

/-- **The task that is taken out of the queue** is started in order: a scheduled task that goes first
is not pending any more, for the queue would have had it in front. -/
lemma Ordered.startsInOrder (h : Ordered pq calls first s) {rest : Q}
    (hpop : pq.pop? s.pendingTasks = some (task, rest)) (start : SchedulerStart) :
    StartsInOrder first (.posted task.id task.agentId task.work start) s.log := by
  intro _ i j hj hfirst hscheduled
  have helems := pq.elems_of_pop?_some _ _ _ hpop
  have htask : task ∈ pq.elems s.pendingTasks := by
    rw [helems]
    exact mem_cons_self task _
  obtain ⟨place, hat, -⟩ := h.ledger.placed hscheduled
  have hposted : ∀ id, id ∈ s.runningTasks ∨ id ∈ idsOf .finished s.log → id ∈ idsOf .posted s.log := by
    intro id hid
    rw [← mem_coe, h.ledger.posted, mem_add, mem_coe, mem_coe]
    exact hid.imp_left AList.mem_keys.mp
  cases place with
  | pending =>
    obtain ⟨other, hother, hid⟩ := hat
    have hless := h.sorted other hother task htask i j hid hj hfirst
    rw [helems] at hother
    rcases mem_cons.mp hother with rfl | hother
    · rw [TaskComparator_eq_true_iff] at hless
      omega
    · rw [pq.top_not_less _ _ _ hpop other hother] at hless
      cases hless
  | running => exact .inl (hposted _ (.inl hat))
  | finished => exact .inl (hposted _ (.inr hat))
  | cancelled => exact .inr hat

lemma Ordered.startTask (h : Ordered pq calls first s) {rest : Q}
    (hpop : pq.pop? s.pendingTasks = some (task, rest)) (hpaused : s.paused = false)
    (hconcurrent : s.runningTasks.entries.length < s.config.maxConcurrentTasks)
    (hagent : s.getAgentTaskCount task.agentId < s.config.maxPerAgentTasks) :
    Ordered pq calls first (s.startTask task rest) := by
  have hsub : ∀ t ∈ pq.elems rest, t ∈ pq.elems s.pendingTasks := by
    intro t ht
    rw [pq.elems_of_pop?_some _ _ _ hpop]
    exact mem_cons_of_mem ht
  exact ⟨h.ledger.startTask hpop hpaused hconcurrent hagent, h.next_pos,
    fun t ht => h.called t (hsub t ht), h.sorted.of_subset hsub,
    ⟨h.startsInOrder hpop _, h.starts⟩⟩

lemma Ordered.dispatchLoop : ∀ (fuel : Nat) {s : CefAgentScheduler ω Q}, Ordered pq calls first s →
    s.paused = false → Ordered pq calls first (s.dispatchLoop pq fuel)
  | 0, _, h, _ => h
  | fuel + 1, s, h, hpaused => by
    simp only [CefAgentScheduler.dispatchLoop]
    cases hpop : pq.pop? s.pendingTasks with
    | none => exact h
    | some p =>
      dsimp only
      split
      · rename_i hconcurrent
        split
        · exact h
        · rename_i hagent
          exact Ordered.dispatchLoop fuel
            (h.startTask hpop hpaused hconcurrent (Nat.not_le.mp hagent)) hpaused
      · exact h

section

variable (h : Ordered pq calls first s)
include h

lemma Ordered.dispatchPending : Ordered pq calls first (s.dispatchPending pq) := by
  unfold CefAgentScheduler.dispatchPending
  split
  · exact h
  · rename_i hpaused
    exact h.dispatchLoop _ (Bool.eq_false_iff.mpr hpaused)

/-! ### The operations -/

lemma Ordered.called_push (hid : task.id = generateTaskId s.nextTaskId)
    (hcall : calls[s.nextTaskId - 1]? = some (task.priority, task.queuedAt)) :
    ∀ t ∈ pq.elems (pq.push s.pendingTasks task), ∃ i, t.id = generateTaskId (i + 1) ∧
      i + 1 < s.nextTaskId + 1 ∧ calls[i]? = some (t.priority, t.queuedAt) := by
  intro t ht
  rw [pq.elems_push] at ht
  rcases mem_cons.mp ht with rfl | ht
  · refine ⟨s.nextTaskId - 1, ?_, ?_, hcall⟩
    · rw [Nat.sub_add_cancel h.next_pos, hid]
    · rw [Nat.sub_add_cancel h.next_pos]
      exact Nat.lt_succ_self _
  · obtain ⟨i, hi, hlt, hcalls⟩ := h.called t ht
    exact ⟨i, hi, Nat.lt_succ_of_lt hlt, hcalls⟩

lemma Ordered.enqueued (hid : task.id = generateTaskId s.nextTaskId)
    (hcall : calls[s.nextTaskId - 1]? = some (task.priority, task.queuedAt))
    (hsorted : Sorted pq first (pq.push s.pendingTasks task)) :
    Ordered pq calls first { s with
      nextTaskId := s.nextTaskId + 1
      pendingTasks := pq.push s.pendingTasks task
      log := .scheduled task.id task.work :: s.log } := by
  exact ⟨h.ledger.enqueued hid, Nat.succ_pos _, h.called_push hid hcall, hsorted, h.log_cons nofun⟩

lemma Ordered.cancelTask (taskId : String) : Ordered pq calls first (s.cancelTask pq taskId).2 := by
  have hsub : ∀ t ∈ pq.elems (s.cancelTask pq taskId).2.pendingTasks,
      t ∈ pq.elems s.pendingTasks := by
    intro t ht
    rw [elems_cancelTask] at ht
    exact mem_of_mem_filter ht
  refine ⟨h.ledger.cancelTask taskId, h.next_pos, fun t ht => h.called t (hsub t ht),
    h.sorted.of_subset hsub, ?_⟩
  have hlog : (s.cancelTask pq taskId).2.log =
      if (s.cancelTask pq taskId).1 then .cancelled taskId :: s.log else s.log := rfl
  rw [hlog]
  split
  · exact h.log_cons nofun
  · exact h.starts

end

lemma nextTaskId_step (s : CefAgentScheduler ω Q) (operation : Operation ω) :
    (s.step pq operation).nextTaskId = s.nextTaskId + (submitted [operation]).length := by
  have hloop : ∀ (fuel : Nat) (s : CefAgentScheduler ω Q),
      (s.dispatchLoop pq fuel).nextTaskId = s.nextTaskId := by
    intro fuel
    induction fuel with
    | zero => exact fun _ => rfl
    | succ fuel ih =>
      intro s
      simp only [CefAgentScheduler.dispatchLoop]
      split
      · rfl
      · split
        · split
          · rfl
          · exact ih _
        · rfl
  have hdispatch : ∀ s : CefAgentScheduler ω Q,
      (s.dispatchPending pq).nextTaskId = s.nextTaskId := by
    intro s
    unfold CefAgentScheduler.dispatchPending
    split
    · rfl
    · exact hloop _ s
  cases operation with
  | scheduleTask agentId priority work onComplete now => exact hdispatch _
  | cancelTask taskId => rfl
  | pause => rfl
  | resume => exact hdispatch _
  | setConfig config => exact hdispatch _
  | replyCompletes index =>
    simp only [CefAgentScheduler.step, CefAgentScheduler.replyCompletes]
    split <;> rfl
  | replyFinishes index =>
    simp only [CefAgentScheduler.step, CefAgentScheduler.replyFinishes]
    split
    · exact hdispatch _
    · rfl

/-- **The step lemma**: every operation keeps the order, if a task is queued where it belongs. -/
lemma Ordered.step (h : Ordered pq calls first s) {operation : Operation ω}
    (hcalls : submitted [operation] <+: calls.drop (s.nextTaskId - 1))
    (hsorted : ∀ agentId priority work onComplete now,
      operation = .scheduleTask agentId priority work onComplete now →
      calls[s.nextTaskId - 1]? = some (priority, now) →
        Sorted pq first (pq.push s.pendingTasks ⟨generateTaskId s.nextTaskId, agentId, priority, work,
          onComplete, now, s.config.defaultTimeout⟩)) :
    Ordered pq calls first (s.step pq operation) := by
  cases operation with
  | scheduleTask agentId priority work onComplete now =>
    have hcall : calls[s.nextTaskId - 1]? = some (priority, now) := by
      obtain ⟨rest, hrest⟩ := hcalls
      rw [← head?_drop, ← hrest]
      rfl
    exact Ordered.dispatchPending (h.enqueued rfl hcall (hsorted _ _ _ _ _ rfl hcall))
  | cancelTask taskId => exact h.cancelTask taskId
  | pause => exact h.reconfigured s.config true
  | resume => exact (h.reconfigured s.config false).dispatchPending
  | setConfig config => exact (h.reconfigured config s.paused).dispatchPending
  | replyCompletes index =>
    have hledger := h.ledger.replyCompletes index
    revert hledger
    simp only [CefAgentScheduler.step, CefAgentScheduler.replyCompletes]
    split
    · exact fun hledger => ⟨hledger, h.next_pos, h.called, h.sorted, h.log_cons (by rintro ⟨⟩)⟩
    · exact fun _ => h
  | replyFinishes index =>
    simp only [CefAgentScheduler.step, CefAgentScheduler.replyFinishes]
    split
    · rename_i id agentId hreply
      refine Ordered.dispatchPending ⟨h.ledger.completed hreply, h.next_pos, h.called, h.sorted, ?_⟩
      exact h.log_cons (by rintro ⟨⟩)
    · exact h

/-! ### Runs -/

lemma submitted_cons (operation : Operation ω) (operations : List (Operation ω)) :
    submitted (operation :: operations) = submitted [operation] ++ submitted operations := by
  cases operation <;> rfl

lemma Ordered.run {P : CefAgentScheduler ω Q → Operation ω → Prop}
    (hsorted : ∀ s agentId priority work onComplete now, Ordered pq calls first s →
      P s (.scheduleTask agentId priority work onComplete now) →
      calls[s.nextTaskId - 1]? = some (priority, now) →
        Sorted pq first (pq.push s.pendingTasks ⟨generateTaskId s.nextTaskId, agentId, priority, work,
          onComplete, now, s.config.defaultTimeout⟩)) :
    ∀ (operations : List (Operation ω)) {s : CefAgentScheduler ω Q}, Ordered pq calls first s →
      calls.drop (s.nextTaskId - 1) = submitted operations →
      Transition.Along (fun s operation => some (s.step pq operation)) P s operations →
      Ordered pq calls first (s.run pq operations)
  | [], s, h, _, _ => h
  | operation :: operations, s, h, hcalls, halong => by
    rw [submitted_cons] at hcalls
    have hstep : Ordered pq calls first (s.step pq operation) := by
      refine h.step ⟨_, hcalls.symm⟩ fun agentId priority work onComplete now heq hcall => ?_
      subst heq
      exact hsorted s agentId priority work onComplete now h halong.1 hcall
    refine Ordered.run hsorted operations hstep ?_ halong.2
    have hpos := h.next_pos
    rw [nextTaskId_step, show s.nextTaskId + (submitted [operation]).length - 1 =
      s.nextTaskId - 1 + (submitted [operation]).length by omega, ← drop_drop, hcalls,
      drop_left]

variable (pq) in
lemma ordered_new (config : SchedulerConfig) : Ordered pq calls first (new pq config) where
  ledger := ledger_new pq config
  next_pos := Nat.one_pos
  called := by simp [new, pq.elems_empty]
  sorted := by simp [Sorted, new, pq.elems_empty]
  starts := True.intro

lemma sorted_byTime {q : Q} (h : ∀ task ∈ pq.elems q, ∃ i, task.id = generateTaskId (i + 1) ∧
    calls[i]? = some (task.priority, task.queuedAt)) : Sorted pq (ByTime calls) q := by
  rintro a ha b hb i j hi hj ⟨x, y, hx, hy, hfirst⟩
  obtain ⟨i', hi', ha'⟩ := h a ha
  obtain ⟨j', hj', hb'⟩ := h b hb
  obtain rfl : i' = i := Nat.succ.inj (generateTaskId_injective (hi'.symm.trans hi))
  obtain rfl : j' = j := Nat.succ.inj (generateTaskId_injective (hj'.symm.trans hj))
  obtain rfl := some.inj (ha'.symm.trans hx)
  obtain rfl := some.inj (hb'.symm.trans hy)
  rw [TaskComparator_eq_true_iff]
  exact hfirst.imp_right fun hsame => ⟨congrArg Priority.toInt hsame.1, hsame.2⟩

/-- **Tasks are started by time.** Whatever the limits, the priority queue and the sequence of
operations, when a task is started then every scheduled task of a higher priority, and every one of
the same priority that was queued at an earlier time, has been started or cancelled. -/
theorem run_starts_by_time (pq : PriorityQueue (TaskComparator (ω := ω)) Q) (config : SchedulerConfig)
    (operations : List (Operation ω)) :
    Each (StartsInOrder (ByTime (submitted operations)))
      ((new pq config).run pq operations).log := by
  refine (Ordered.run (P := fun _ _ => True)
    (fun s agentId priority work onComplete now h _ hcall => ?_)
    operations (ordered_new pq config) rfl (Transition.Along.trivial _ _)).starts
  refine sorted_byTime fun task htask => ?_
  obtain ⟨i, hi, -, hcalls⟩ := h.called_push (by rfl) hcall task htask
  exact ⟨i, hi, hcalls⟩

lemma Ordered.sorted_push (h : Ordered pq calls (ByCall calls) s)
    (hmono : (calls.map (·.2)).Pairwise (· ≤ ·)) (hid : task.id = generateTaskId s.nextTaskId)
    (hcall : calls[s.nextTaskId - 1]? = some (task.priority, task.queuedAt))
    (huntied : ∀ t ∈ pq.elems s.pendingTasks, t.priority = task.priority →
      t.queuedAt ≠ task.queuedAt) :
    Sorted pq (ByCall calls) (pq.push s.pendingTasks task) := by
  rintro a ha b hb i j hi hj ⟨x, y, hx, hy, hfirst⟩
  have hfound := h.called_push hid hcall
  have hmem := pq.elems_push s.pendingTasks task
  obtain ⟨i', hi', hlti, ha'⟩ := hfound a ha
  obtain ⟨j', hj', hltj, hb'⟩ := hfound b hb
  obtain rfl : i' = i := Nat.succ.inj (generateTaskId_injective (hi'.symm.trans hi))
  obtain rfl : j' = j := Nat.succ.inj (generateTaskId_injective (hj'.symm.trans hj))
  rcases hfirst with hhigher | ⟨hsame, hlt⟩
  · exact sorted_byTime (fun t ht => (hfound t ht).imp fun k hk => ⟨hk.1, hk.2.2⟩) a ha b hb _ _ hi hj
      ⟨x, y, hx, hy, .inl hhigher⟩
  obtain rfl := some.inj (ha'.symm.trans hx)
  obtain rfl := some.inj (hb'.symm.trans hy)
  rw [hmem] at ha hb
  have hlast : ∀ k, task.id = generateTaskId (k + 1) → k + 1 = s.nextTaskId := fun k hk =>
    generateTaskId_injective (hk.symm.trans hid)
  have htask : a ∈ pq.elems s.pendingTasks := by
    rcases mem_cons.mp ha with rfl | ha
    · have := hlast i' hi
      omega
    · exact ha
  rcases mem_cons.mp hb with rfl | hb
  · have htimes : a.queuedAt ≤ b.queuedAt := by
      obtain ⟨hi'', hx'⟩ := List.getElem?_eq_some_iff.mp hx
      obtain ⟨hj'', hy'⟩ := List.getElem?_eq_some_iff.mp hy
      have := pairwise_iff_getElem.mp (pairwise_map.mp hmono) i' j' hi'' hj'' hlt
      rwa [hx', hy'] at this
    have hne := huntied a htask hsame.symm
    have hpriority : b.priority.toInt = a.priority.toInt := congrArg Priority.toInt hsame
    rw [TaskComparator_eq_true_iff]
    omega
  · exact h.sorted a htask b hb _ _ hi hj ⟨_, _, hx, hy, .inr ⟨hsame, hlt⟩⟩

/-- **Tasks are started in their turn** where no call is tied: if the times of the calls do not
decrease, and no task is scheduled at the time of a pending one of the same priority, then when a
task is started every scheduled task of a higher priority, and every one of the same priority that
was scheduled before it, has been started or cancelled.

**Proof sketch.** Of two pending tasks of a priority the one of the earlier call has the earlier
time. So the queue has it in front, also after `CancelTask` has rebuilt it. -/
theorem run_starts_by_call (pq : PriorityQueue (TaskComparator (ω := ω)) Q) (config : SchedulerConfig)
    (operations : List (Operation ω))
    (hmono : ((submitted operations).map (·.2)).Pairwise (· ≤ ·))
    (huntied : Transition.Along (fun s operation => some (step pq s operation)) (Untied pq)
      (new pq config) operations) :
    Each (StartsInOrder (ByCall (submitted operations)))
      ((new pq config).run pq operations).log :=
  (Ordered.run (fun _ _ _ _ _ _ h hstep hcall => h.sorted_push hmono rfl hcall hstep)
    operations (ordered_new pq config) rfl huntied).starts

/-- Three tasks are scheduled during a pause, the first one is cancelled, and the others are started. -/
def cancelledTask : List (Operation Nat) :=
  [.pause, .scheduleTask "a" .normal 0 none 5, .scheduleTask "a" .normal 1 none 6,
    .scheduleTask "a" .high 2 none 6, .cancelTask "task_1", .resume]

theorem run_starts_by_call_cancelled :
    Each (StartsInOrder (ByCall [(.normal, 5), (.normal, 6), (.high, 6)]))
      ((new (taskHeap Nat) {}).run (taskHeap Nat) cancelledTask).log :=
  run_starts_by_call (taskHeap Nat) {} cancelledTask (by decide) (by decide +kernel)

def tiedTasks : List (Operation Nat) :=
  [.pause, .scheduleTask "a" .normal 0 none 5, .scheduleTask "a" .normal 1 none 5,
    .scheduleTask "a" .normal 2 none 5, .scheduleTask "a" .normal 3 none 5, .resume]

/-- **Ties are started out of turn**: a binary heap starts the fourth of them before the third. -/
theorem tied_starts_out_of_turn : ¬ ∀ (config : SchedulerConfig) (operations : List (Operation Nat)),
    ((submitted operations).map (·.2)).Pairwise (· ≤ ·) →
      Each (StartsInOrder (ByCall (submitted operations)))
        ((new (taskHeap Nat) config).run (taskHeap Nat) operations).log := by
  intro hall
  have hstarts := hall {} tiedTasks (by decide)
  generalize hs : (new (taskHeap Nat) {}).run (taskHeap Nat) tiedTasks = s at hstarts
  have hevent : s.log[1]?.map (fun e => (e.kind, e.id)) = some (.posted, generateTaskId 4) := by
    subst hs
    decide +kernel
  obtain ⟨e, he, heq⟩ := map_eq_some_iff.mp hevent
  obtain ⟨hkind, hid⟩ := Prod.mk.inj heq
  have hfirst : ByCall (submitted tiedTasks) 2 3 :=
    ⟨(.normal, 5), (.normal, 5), rfl, rfl, .inr ⟨rfl, by decide⟩⟩
  have hstarted := hstarts.getElem? he hkind 2 3 hid hfirst
  subst hs
  exact absurd (hstarted (by decide +kernel)) (by decide +kernel)

end CefAgentScheduler

end CefCore.Browser
