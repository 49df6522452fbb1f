import CefCore.Browser.AgentScheduler
import CefCore.Foundations.AssocList
import CefCore.Foundations.Run
import Mathlib.Data.Multiset.UnionInter

/-!
# The books of the agent scheduler

The scheduler keeps a task in the queue, in the map of running tasks, or nowhere, and a counter for
each agent.

## Main results

* `run_accounted`: these agree after every sequence of operations, in whatever order the posted
  tasks come back and however the limits change in between.
-/

namespace CefCore.Browser

open List AList Nat

/-! ### Counters -/

/-- The map has the counter `n a` for each `a` for which it is not zero. -/
def Tally (counts : AList fun _ : String => Nat) (n : String → Nat) : Prop :=
  ∀ a, counts.lookup a = if n a = 0 then none else some (n a)

variable {counts : AList fun _ : String => Nat} {n : String → Nat}

lemma Tally.getD (h : Tally counts n) (a : String) : (counts.lookup a).getD 0 = n a := by
  rw [h a]
  split
  · rename_i hzero
    exact hzero.symm
  · rfl

lemma Tally.up {n' : String → Nat} (h : Tally counts n)
    {a : String} (hn : ∀ b, n' b = n b + if a = b then 1 else 0) :
    Tally (counts.insert a ((counts.lookup a).getD 0 + 1)) n' := by
  intro b
  rw [hn b, h.getD a]
  by_cases hab : a = b
  · subst hab
    rw [lookup_insert, if_pos rfl, if_neg (succ_ne_zero _)]
  · rw [lookup_insert_ne (Ne.symm hab), if_neg hab, add_zero]
    exact h b

lemma Tally.down {n' : String → Nat} (h : Tally counts n)
    {a : String} (hn : ∀ b, n b = n' b + if a = b then 1 else 0) :
    Tally (CefAgentScheduler.countDown counts a) n' := by
  have hlookup : counts.lookup a = some (n' a + 1) := by
    rw [h a, hn a, if_pos rfl, if_neg (succ_ne_zero _)]
  intro b
  unfold CefAgentScheduler.countDown
  rw [hlookup]
  by_cases hab : a = b
  · subst hab
    by_cases hzero : n' a = 0
    · simp [hzero]
    · have hpos : ¬ n' a + 1 ≤ 1 := by omega
      simp [hpos, hzero]
  · have hb : n' b = n b := by rw [hn b, if_neg hab, add_zero]
    rw [hb, ← h b]
    dsimp only
    split
    · rw [lookup_erase_ne (Ne.symm hab)]
    · rw [lookup_insert_ne (Ne.symm hab)]

/-! ### Running tasks -/

lemma agentRunning_insert {running : RunningTasks} {id agent : String} (h : id ∉ running)
    (a : String) : agentRunning (running.insert id agent) a =
      agentRunning running a + if agent = a then 1 else 0 := by
  unfold agentRunning
  rw [entries_insert_of_notMem h, countP_cons]
  simp

lemma agentRunning_erase {running : RunningTasks} {id agent : String}
    (h : ⟨id, agent⟩ ∈ running.entries) (a : String) :
    agentRunning running a =
      agentRunning (running.erase id) a + if agent = a then 1 else 0 := by
  unfold agentRunning
  rw [(entries_perm_erase (mem_lookup_iff.mpr h)).countP_eq, countP_cons]
  simp

/-! ### Task ids -/

lemma generateTaskId_injective : Function.Injective CefAgentScheduler.generateTaskId := by
  intro m n h
  have hdigits : Nat.toDigits 10 m = Nat.toDigits 10 n := by
    have hlist := congrArg String.toList h
    simp only [CefAgentScheduler.generateTaskId, String.toList_append] at hlist
    simpa [toString_eq_ofList_toDigits] using append_cancel_left hlist
  rw [← ofDigitChars_ten_toDigits (n := m), hdigits, ofDigitChars_ten_toDigits]

@[simp] lemma idsOf_cons {ω : Type} (kind : SchedulerEventKind) (e : SchedulerEvent ω)
    (log : List (SchedulerEvent ω)) : idsOf kind (e :: log) =
      if e.kind = kind then e.id :: idsOf kind log else idsOf kind log := by
  unfold idsOf
  rw [filter_cons]
  by_cases hkind : e.kind = kind
  · rw [if_pos (by simp [hkind]), if_pos hkind, map_cons]
  · rw [if_neg (by simp [hkind]), if_neg hkind]

@[simp] lemma idsOf_nil {ω : Type} (kind : SchedulerEventKind) :
    idsOf kind ([] : List (SchedulerEvent ω)) = [] := rfl

namespace CefAgentScheduler

variable {ω Q : Type} (pq : PriorityQueue (TaskComparator (ω := ω)) Q)

inductive TaskPlace where
  | pending
  | running
  | finished
  | cancelled

def At (s : CefAgentScheduler ω Q) (id : String) : TaskPlace → Prop
  | .pending => ∃ task ∈ pq.elems s.pendingTasks, task.id = id
  | .running => id ∈ s.runningTasks
  | .finished => id ∈ idsOf .finished s.log
  | .cancelled => id ∈ idsOf .cancelled s.log

/-- The limits and the pause allow a task of the agent to be started. -/
structure Allowed (start : SchedulerStart) (agent : String) : Prop where
  concurrent : start.running.entries.length < start.config.maxConcurrentTasks
  perAgent : agentRunning start.running agent < start.config.maxPerAgentTasks
  unpaused : start.paused = false

/-- **The books of the scheduler**: the counters count the running tasks, a scheduled task is in
exactly one place, its own work is posted at most once and never if it was cancelled, and every
start was allowed at the time. -/
structure Accounted (s : CefAgentScheduler ω Q) : Prop where
  counts : ∀ agent, s.agentTaskCounts.lookup agent =
    if agentRunning s.runningTasks agent = 0 then none else some (agentRunning s.runningTasks agent)
  placed : ∀ id ∈ idsOf .scheduled s.log, ∃! place, s.At pq id place
  posted_once : (idsOf .posted s.log).Nodup
  posted_own : ∀ id agent work start, .posted id agent work start ∈ s.log →
    .scheduled id work ∈ s.log
  cancelled_unposted : ∀ id ∈ idsOf .cancelled s.log, id ∉ idsOf .posted s.log
  allowed : ∀ id agent work start, .posted id agent work start ∈ s.log → Allowed start agent

structure Ledger (s : CefAgentScheduler ω Q) : Prop where
  balance : (pq.elems s.pendingTasks).map SchedulerTask.id + (s.runningTasks.keys : Multiset String) +
    (idsOf .finished s.log : Multiset String) + (idsOf .cancelled s.log : Multiset String) =
      (idsOf .scheduled s.log : Multiset String)
  distinct : (idsOf .scheduled s.log).Nodup
  below : ∀ id ∈ idsOf .scheduled s.log, ∃ n < s.nextTaskId, id = generateTaskId n
  posted : (idsOf .posted s.log : Multiset String) =
    (s.runningTasks.keys : Multiset String) + (idsOf .finished s.log : Multiset String)
  replies : (s.replies.map fun r => (⟨r.id, r.agentId⟩ : Σ _ : String, String)).Perm
    s.runningTasks.entries
  own : ∀ task ∈ pq.elems s.pendingTasks, .scheduled task.id task.work ∈ s.log
  posted_own : ∀ id agent work start, .posted id agent work start ∈ s.log →
    .scheduled id work ∈ s.log
  counts : Tally s.agentTaskCounts (agentRunning s.runningTasks)
  allowed : ∀ id agent work start, .posted id agent work start ∈ s.log → Allowed start agent

lemma ledger_new (config : SchedulerConfig) : Ledger pq (new pq config) where
  balance := by simp [new, pq.elems_empty]
  distinct := nodup_nil
  below := by simp [new]
  posted := by simp [new]
  replies := List.Perm.nil
  own := by simp [new, pq.elems_empty]
  posted_own := by simp [new]
  counts a := by simp [new, agentRunning]
  allowed := by simp [new]

variable {pq} {s : CefAgentScheduler ω Q}

lemma Ledger.nodup (h : Ledger pq s) :
    ((pq.elems s.pendingTasks).map SchedulerTask.id + (s.runningTasks.keys : Multiset String) +
      (idsOf .finished s.log : Multiset String) +
        (idsOf .cancelled s.log : Multiset String)).Nodup := by
  rw [h.balance]
  exact Multiset.coe_nodup.mpr h.distinct

variable {task : SchedulerTask ω}

lemma Ledger.not_running (h : Ledger pq s)
    (htask : task ∈ pq.elems s.pendingTasks) : task.id ∉ s.runningTasks := by
  intro hrunning
  have hdisjoint := Multiset.disjoint_of_nodup_add
    (Multiset.nodup_add.mp (Multiset.nodup_add.mp h.nodup).1).1
  exact Multiset.disjoint_left.mp hdisjoint (Multiset.mem_map_of_mem _ htask)
    (Multiset.mem_coe.mpr (mem_keys.mp hrunning))

lemma Ledger.getAgentTaskCount_eq (h : Ledger pq s) (agent : String) :
    s.getAgentTaskCount agent = agentRunning s.runningTasks agent :=
  h.counts.getD agent

lemma Ledger.reconfigured (h : Ledger pq s) (config : SchedulerConfig) (paused : Bool) :
    Ledger pq { s with config := config, paused := paused } :=
  ⟨h.balance, h.distinct, h.below, h.posted, h.replies, h.own, h.posted_own, h.counts, h.allowed⟩

lemma Ledger.posted_own_cons (h : Ledger pq s) {e : SchedulerEvent ω}
    (he : ∀ id agent work start, .posted id agent work start ≠ e) :
    ∀ id agent work start, .posted id agent work start ∈ e :: s.log →
      .scheduled id work ∈ e :: s.log := by
  intro id agent work start hmem
  have hold := (mem_cons.mp hmem).resolve_left (he id agent work start)
  exact mem_cons_of_mem _ (h.posted_own id agent work start hold)

lemma Ledger.allowed_cons (h : Ledger pq s) {e : SchedulerEvent ω}
    (he : ∀ id agent work start, .posted id agent work start ≠ e) :
    ∀ id agent work start, .posted id agent work start ∈ e :: s.log → Allowed start agent := by
  intro id agent work start hmem
  exact h.allowed id agent work start ((mem_cons.mp hmem).resolve_left (he id agent work start))

lemma Ledger.startTask (h : Ledger pq s) {rest : Q}
    (hpop : pq.pop? s.pendingTasks = some (task, rest)) (hpaused : s.paused = false)
    (hconcurrent : s.runningTasks.entries.length < s.config.maxConcurrentTasks)
    (hagent : s.getAgentTaskCount task.agentId < s.config.maxPerAgentTasks) :
    Ledger pq (s.startTask task rest) := by
  have helems := pq.elems_of_pop?_some _ _ _ hpop
  have htask : task ∈ pq.elems s.pendingTasks := by
    rw [helems]
    exact Multiset.mem_cons_self task _
  have hnew := h.not_running htask
  have hkeys : (s.runningTasks.insert task.id task.agentId).keys = task.id :: s.runningTasks.keys := by
    rw [keys_insert, erase_of_not_mem (mt mem_keys.mpr hnew)]
  refine {
    balance := ?balance
    distinct := ?distinct
    below := ?below
    posted := ?posted
    replies := ?replies
    own := ?own
    posted_own := ?posted_own
    counts := ?counts
    allowed := ?allowed }
  case balance =>
    have hbalance := h.balance
    rw [helems, Multiset.map_cons] at hbalance
    simp only [CefAgentScheduler.startTask, hkeys, idsOf_cons, SchedulerEvent.kind, reduceCtorEq,
      if_false, ← Multiset.cons_coe, Multiset.add_cons, Multiset.cons_add] at hbalance ⊢
    exact hbalance
  case distinct => simpa [CefAgentScheduler.startTask, SchedulerEvent.kind] using h.distinct
  case below => simpa [CefAgentScheduler.startTask, SchedulerEvent.kind] using h.below
  case posted =>
    simp [CefAgentScheduler.startTask, hkeys, idsOf_cons, SchedulerEvent.kind, reduceCtorEq,
      SchedulerEvent.id, ← Multiset.cons_coe, h.posted]
  case replies =>
    simp only [CefAgentScheduler.startTask, entries_insert_of_notMem hnew, map_append,
      map_cons, map_nil]
    exact perm_append_singleton _ _ |>.trans (h.replies.cons _)
  case own =>
    intro t ht
    refine mem_cons_of_mem _ (h.own t ?_)
    rw [helems]
    exact Multiset.mem_cons_of_mem ht
  case posted_own =>
    intro id agent work start hmem
    rcases mem_cons.mp hmem with heq | hmem
    · obtain ⟨rfl, rfl, rfl, rfl⟩ := SchedulerEvent.posted.inj heq
      exact mem_cons_of_mem _ (h.own task htask)
    · exact mem_cons_of_mem _ (h.posted_own id agent work start hmem)
  case counts => exact h.counts.up (agentRunning_insert hnew)
  case allowed =>
    intro id agent work start hmem
    rcases mem_cons.mp hmem with heq | hmem
    · obtain ⟨rfl, rfl, rfl, rfl⟩ := SchedulerEvent.posted.inj heq
      exact ⟨hconcurrent, by rw [← h.getAgentTaskCount_eq]; exact hagent, hpaused⟩
    · exact h.allowed id agent work start hmem

lemma Ledger.dispatchLoop : ∀ (fuel : Nat) {s : CefAgentScheduler ω Q}, Ledger pq s →
    s.paused = false → Ledger pq (s.dispatchLoop pq fuel)
  | 0, _, h, _ => h
  | fuel + 1, s, h, hpaused => by
    simp only [CefAgentScheduler.dispatchLoop]
    cases hpop : pq.pop? s.pendingTasks with
    | none => exact h
    | some p =>
      dsimp only
      split
      · rename_i hconcurrent
        split
        · exact h
        · rename_i hagent
          exact Ledger.dispatchLoop fuel
            (h.startTask hpop hpaused hconcurrent (not_le.mp hagent)) hpaused
      · exact h

lemma Ledger.dispatchPending (h : Ledger pq s) : Ledger pq (s.dispatchPending pq) := by
  unfold CefAgentScheduler.dispatchPending
  split
  · exact h
  · rename_i hpaused
    exact h.dispatchLoop _ (Bool.eq_false_iff.mpr hpaused)

lemma Ledger.enqueued (h : Ledger pq s) (hid : task.id = generateTaskId s.nextTaskId) :
    Ledger pq { s with
      nextTaskId := s.nextTaskId + 1
      pendingTasks := pq.push s.pendingTasks task
      log := .scheduled task.id task.work :: s.log } := by
  refine {
    balance := ?balance
    distinct := ?distinct
    below := ?below
    posted := ?posted
    replies := h.replies
    own := ?own
    posted_own := ?posted_own
    counts := h.counts
    allowed := ?allowed }
  case balance =>
    have hbalance := h.balance
    simp [pq.elems_push, idsOf_cons, SchedulerEvent.kind, SchedulerEvent.id, reduceCtorEq,
      ← Multiset.cons_coe, hbalance]
  case distinct =>
    simp only [idsOf_cons, SchedulerEvent.kind, SchedulerEvent.id, if_true]
    refine nodup_cons.mpr ⟨fun hold => ?_, h.distinct⟩
    obtain ⟨n, hlt, hn⟩ := h.below _ hold
    rw [hid] at hn
    exact ne_of_gt hlt (generateTaskId_injective hn)
  case below =>
    simp only [idsOf_cons, SchedulerEvent.kind, SchedulerEvent.id, if_true]
    intro id hmem
    rcases mem_cons.mp hmem with rfl | hmem
    · exact ⟨s.nextTaskId, lt_succ_self _, hid⟩
    · obtain ⟨n, hlt, hn⟩ := h.below id hmem
      exact ⟨n, lt_succ_of_lt hlt, hn⟩
  case posted => simpa [SchedulerEvent.kind] using h.posted
  case own =>
    intro t ht
    rw [pq.elems_push] at ht
    rcases Multiset.mem_cons.mp ht with rfl | ht
    · exact mem_cons_self
    · exact mem_cons_of_mem _ (h.own t ht)
  case posted_own => exact h.posted_own_cons nofun
  case allowed => exact h.allowed_cons nofun

lemma map_id_filter {tasks : Multiset (SchedulerTask ω)}
    (hnodup : (tasks.map SchedulerTask.id).Nodup) {taskId : String}
    (hfound : ∃ task ∈ tasks, task.id = taskId) :
    tasks.map SchedulerTask.id =
      taskId ::ₘ (tasks.filter fun task => task.id ≠ taskId).map SchedulerTask.id := by
  obtain ⟨task, htask, rfl⟩ := hfound
  obtain ⟨rest, rfl⟩ := Multiset.exists_cons_of_mem htask
  rw [Multiset.map_cons] at hnodup
  have hothers : ∀ t ∈ rest, t.id ≠ task.id := by
    intro t ht heq
    refine (Multiset.nodup_cons.mp hnodup).1 ?_
    rw [← heq]
    exact Multiset.mem_map_of_mem _ ht
  rw [Multiset.filter_cons_of_neg _ (by simp), Multiset.filter_eq_self.mpr hothers,
    Multiset.map_cons]

lemma Ledger.cancelTask (h : Ledger pq s) (taskId : String) :
    Ledger pq (s.cancelTask pq taskId).2 := by
  obtain ⟨remaining, found, q, hloop, hremaining, hfound, hempty⟩ :=
    cancelLoop_spec taskId _ s.pendingTasks [] false (le_refl _)
  have helems : pq.elems (pq.pushAll q remaining) =
      (pq.elems s.pendingTasks).filter fun task => task.id ≠ taskId := by
    rw [pq.elems_pushAll, hremaining, hempty, Multiset.add_zero]
    exact Multiset.zero_add _
  have hown : ∀ task ∈ pq.elems (pq.pushAll q remaining), .scheduled task.id task.work ∈ s.log := by
    intro task htask
    rw [helems] at htask
    exact h.own task (Multiset.mem_of_mem_filter htask)
  unfold CefAgentScheduler.cancelTask
  rw [hloop]
  cases found with
  | false =>
    have hnone : ∀ task ∈ pq.elems s.pendingTasks, task.id ≠ taskId := by
      simpa using hfound
    rw [Multiset.filter_eq_self.mpr hnone] at helems
    refine ⟨?_, h.distinct, h.below, h.posted, h.replies, hown, h.posted_own, h.counts, h.allowed⟩
    simp only [helems, Bool.false_eq_true, if_false]
    exact h.balance
  | true =>
    have hsome : ∃ task ∈ pq.elems s.pendingTasks, task.id = taskId := by
      simpa using hfound
    have hpending : ((pq.elems s.pendingTasks).map SchedulerTask.id).Nodup :=
      (Multiset.nodup_add.mp (Multiset.nodup_add.mp (Multiset.nodup_add.mp h.nodup).1).1).1
    have hids := map_id_filter hpending hsome
    refine {
      balance := ?balance
      distinct := ?distinct
      below := ?below
      posted := ?posted
      replies := h.replies
      own := fun task ht => mem_cons_of_mem _ (hown task ht)
      posted_own := ?posted_own
      counts := h.counts
      allowed := ?allowed }
    case balance =>
      have hbalance := h.balance
      rw [hids] at hbalance
      simp only [helems, if_true, idsOf_cons, SchedulerEvent.kind, SchedulerEvent.id, reduceCtorEq,
        if_false, ← Multiset.cons_coe, Multiset.add_cons, Multiset.cons_add] at hbalance ⊢
      exact hbalance
    case distinct => simpa [SchedulerEvent.kind] using h.distinct
    case below => simpa [SchedulerEvent.kind] using h.below
    case posted => simpa [SchedulerEvent.kind] using h.posted
    case posted_own => exact h.posted_own_cons nofun
    case allowed => exact h.allowed_cons nofun

lemma Ledger.replyCompletes (h : Ledger pq s) (index : Nat) : Ledger pq (s.replyCompletes index) := by
  unfold CefAgentScheduler.replyCompletes
  split
  · rename_i id agentId onComplete hreply
    refine {
      balance := ?balance
      distinct := ?distinct
      below := ?below
      posted := ?posted
      replies := ?replies
      own := fun task ht => mem_cons_of_mem _ (h.own task ht)
      posted_own := ?posted_own
      counts := h.counts
      allowed := ?allowed }
    case balance => simpa [SchedulerEvent.kind] using h.balance
    case distinct => simpa [SchedulerEvent.kind] using h.distinct
    case below => simpa [SchedulerEvent.kind] using h.below
    case posted => simpa [SchedulerEvent.kind] using h.posted
    case replies =>
      obtain ⟨hlt, hget⟩ := List.getElem?_eq_some_iff.mp hreply
      have hsame : (s.replies.set index ⟨id, agentId, none⟩).map
          (fun r => (⟨r.id, r.agentId⟩ : Σ _ : String, String)) =
            s.replies.map fun r => ⟨r.id, r.agentId⟩ := by
        refine ext_getElem (by simp) fun i hi hi' => ?_
        by_cases hindex : index = i
        · subst hindex
          simp [hget]
        · simp [hindex]
      rw [hsame]
      exact h.replies
    case posted_own => exact h.posted_own_cons nofun
    case allowed => exact h.allowed_cons nofun
  · exact h

lemma Ledger.completed (h : Ledger pq s) {index : Nat} {id agentId : String}
    {onComplete : Option ω} (hreply : s.replies[index]? = some ⟨id, agentId, onComplete⟩) :
    Ledger pq { s with
      replies := s.replies.eraseIdx index
      runningTasks := s.runningTasks.erase id
      agentTaskCounts := countDown s.agentTaskCounts agentId
      log := .finished id :: s.log } := by
  obtain ⟨hlt, hget⟩ := List.getElem?_eq_some_iff.mp hreply
  have hreplies : (s.replies.map fun r => (⟨r.id, r.agentId⟩ : Σ _ : String, String)).Perm
      (⟨id, agentId⟩ :: (s.replies.eraseIdx index).map fun r => ⟨r.id, r.agentId⟩) := by
    have hperm := (getElem_cons_eraseIdx_perm hlt).map
      fun r => (⟨r.id, r.agentId⟩ : Σ _ : String, String)
    rw [hget] at hperm
    exact hperm.symm
  have hmem : ⟨id, agentId⟩ ∈ s.runningTasks.entries :=
    (hreplies.symm.trans h.replies).mem_iff.mp mem_cons_self
  have hentries := entries_perm_erase (mem_lookup_iff.mpr hmem)
  have hkeys : (s.runningTasks.keys : Multiset String) =
      id ::ₘ ((s.runningTasks.erase id).keys : Multiset String) := by
    rw [Multiset.cons_coe]
    exact Multiset.coe_eq_coe.mpr (hentries.map Sigma.fst)
  refine {
    balance := ?balance
    distinct := ?distinct
    below := ?below
    posted := ?posted
    replies := ?replies
    own := fun task ht => mem_cons_of_mem _ (h.own task ht)
    posted_own := ?posted_own
    counts := ?counts
    allowed := ?allowed }
  case balance =>
    have hbalance := h.balance
    rw [hkeys] at hbalance
    simp only [idsOf_cons, SchedulerEvent.kind, SchedulerEvent.id, reduceCtorEq, if_false, if_true,
      ← Multiset.cons_coe, Multiset.add_cons, Multiset.cons_add] at hbalance ⊢
    exact hbalance
  case distinct => simpa [SchedulerEvent.kind] using h.distinct
  case below => simpa [SchedulerEvent.kind] using h.below
  case posted =>
    have hposted := h.posted
    rw [hkeys] at hposted
    simp only [idsOf_cons, SchedulerEvent.kind, SchedulerEvent.id, reduceCtorEq, if_false, if_true,
      ← Multiset.cons_coe, Multiset.add_cons, Multiset.cons_add] at hposted ⊢
    exact hposted
  case replies => exact ((hreplies.symm.trans h.replies).trans hentries).cons_inv
  case posted_own => exact h.posted_own_cons nofun
  case counts => exact h.counts.down (agentRunning_erase hmem)
  case allowed => exact h.allowed_cons nofun

lemma Ledger.step (h : Ledger pq s) (operation : Operation ω) :
    Ledger pq (s.step pq operation) := by
  cases operation with
  | scheduleTask agentId priority work onComplete now =>
    exact Ledger.dispatchPending (h.enqueued rfl)
  | cancelTask taskId => exact h.cancelTask taskId
  | pause => exact h.reconfigured s.config true
  | resume => exact (h.reconfigured s.config false).dispatchPending
  | setConfig config => exact (h.reconfigured config s.paused).dispatchPending
  | replyCompletes index => exact h.replyCompletes index
  | replyFinishes index =>
    simp only [CefAgentScheduler.step, replyFinishes]
    split
    · rename_i id agentId hreply
      exact (h.completed hreply).dispatchPending
    · exact h

lemma Ledger.run (h : Ledger pq s) (operations : List (Operation ω)) :
    Ledger pq (s.run pq operations) := by
  induction operations generalizing s with
  | nil => exact h
  | cons operation operations ih => exact ih (h.step operation)

lemma Ledger.placed (h : Ledger pq s) {id : String} (hid : id ∈ idsOf .scheduled s.log) :
    ∃! place, s.At pq id place := by
  obtain ⟨hpending_running_finished, -, hcancelled⟩ := Multiset.nodup_add.mp h.nodup
  obtain ⟨hpending_running, -, hfinished⟩ := Multiset.nodup_add.mp hpending_running_finished
  obtain ⟨-, -, hrunning⟩ := Multiset.nodup_add.mp hpending_running
  simp only [Multiset.disjoint_left, Multiset.mem_add, Multiset.mem_coe, Multiset.mem_map]
    at hcancelled hfinished hrunning
  have hsome : id ∈ (idsOf .scheduled s.log : Multiset String) := Multiset.mem_coe.mpr hid
  rw [← h.balance] at hsome
  simp only [Multiset.mem_add, Multiset.mem_coe, Multiset.mem_map] at hsome
  rcases hsome with ((hat | hat) | hat) | hat
  · refine ⟨.pending, hat, fun place hplace => ?_⟩
    cases place with
    | pending => rfl
    | running => exact (hrunning hat (mem_keys.mp hplace)).elim
    | finished => exact (hfinished (.inl hat) hplace).elim
    | cancelled => exact (hcancelled (.inl (.inl hat)) hplace).elim
  · refine ⟨.running, mem_keys.mpr hat, fun place hplace => ?_⟩
    cases place with
    | pending => exact (hrunning hplace hat).elim
    | running => rfl
    | finished => exact (hfinished (.inr hat) hplace).elim
    | cancelled => exact (hcancelled (.inl (.inr hat)) hplace).elim
  · refine ⟨.finished, hat, fun place hplace => ?_⟩
    cases place with
    | pending => exact (hfinished (.inl hplace) hat).elim
    | running => exact (hfinished (.inr (mem_keys.mp hplace)) hat).elim
    | finished => rfl
    | cancelled => exact (hcancelled (.inr hat) hplace).elim
  · refine ⟨.cancelled, hat, fun place hplace => ?_⟩
    cases place with
    | pending => exact (hcancelled (.inl (.inl hplace)) hat).elim
    | running => exact (hcancelled (.inl (.inr (mem_keys.mp hplace))) hat).elim
    | finished => exact (hcancelled (.inr hplace) hat).elim
    | cancelled => rfl

lemma Ledger.accounted (h : Ledger pq s) : Accounted pq s where
  counts := h.counts
  placed _ hid := h.placed hid
  posted_once := by
    obtain ⟨hplaces, -, -⟩ := Multiset.nodup_add.mp h.nodup
    rw [Multiset.add_assoc, ← h.posted] at hplaces
    exact Multiset.coe_nodup.mp (Multiset.nodup_add.mp hplaces).2.1
  posted_own := h.posted_own
  cancelled_unposted id hcancelled hposted := by
    obtain ⟨-, -, hdisjoint⟩ := Multiset.nodup_add.mp h.nodup
    rw [Multiset.add_assoc, ← h.posted] at hdisjoint
    exact Multiset.disjoint_right.mp hdisjoint (Multiset.mem_coe.mpr hcancelled)
      (Multiset.mem_add.mpr (.inr (Multiset.mem_coe.mpr hposted)))
  allowed := h.allowed

/-- **Accounting over whole runs.** Whatever the limits at the beginning, the priority queue and the
sequence of operations, the books are right in the state that is reached.

**Proof sketch.** As multisets, the ids in the queue, in the map of running tasks, of the finished
and of the cancelled tasks together are the scheduled ids, which are all different. A start, a
completion or a cancellation moves an id from one of them to another. -/
theorem run_accounted (pq : PriorityQueue (TaskComparator (ω := ω)) Q) (config : SchedulerConfig)
    (operations : List (Operation ω)) : Accounted pq ((new pq config).run pq operations) :=
  ((ledger_new pq config).run operations).accounted

end CefAgentScheduler

end CefCore.Browser
