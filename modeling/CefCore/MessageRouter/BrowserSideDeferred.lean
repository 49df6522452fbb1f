import CefCore.MessageRouter.BrowserSideFilters

/-!
# Cancellations posted to the UI thread

Off the UI thread `cancel_pending` looks the handler up at once and posts a task
`BrowserSideRouterCancelPendingFor` with what it has found. Until the task runs the UI thread may
remove the handler and register another one. Ids are places in the deque of handlers and are given
again, while the task compares nothing but the id; and a task without a handler cancels whatever
passes its browser filter.

## Main results

* `deferred_cancellation_iff`: when a task cancels what was asked for.

## Implementation notes

The lookup and the posting are one step. This loses nothing, since a task may run at any time after
its posting and the tasks may run in any order.
-/

namespace CefCore.MessageRouter

open Std List Option Transition

namespace BrowserSideRouter

variable {s : BrowserSideRouter}

/-! ### Pending queries and the registry -/

def Handled (s : BrowserSideRouter) : Prop :=
  ∀ b k info, s.browserQueryInfoMap.get? b k = some info →
    ∃ e, info.handler = some e ∧ e ∈ s.handlers.registered

lemma new_handled : new.Handled := by
  intro b k info h
  simp [new] at h

variable {b k : Int} {info : BrowserSideQueryInfo} {s' : BrowserSideRouter}

lemma Handled.mono (h : s.Handled)
    (hpending : ∀ b k info, s'.browserQueryInfoMap.get? b k = some info →
      s.browserQueryInfoMap.get? b k = some info)
    (hhandlers : s.handlers.registered ⊆ s'.handlers.registered) : s'.Handled := by
  intro b k info hget
  obtain ⟨e, he, hmem⟩ := h b k info (hpending b k info hget)
  exact ⟨e, he, hhandlers hmem⟩

lemma CancelsExactly.get?_of {targets : List PendingEntry} {notify : Bool}
    (h : s.CancelsExactly s' targets notify) (hget : s'.browserQueryInfoMap.get? b k = some info) :
    (b, k) ∉ targets.map (fun e => (e.1, e.2.1)) ∧
      s.browserQueryInfoMap.get? b k = some info := by
  rw [h.removed] at hget
  split at hget
  · exact nomatch hget
  · exact ⟨‹_›, hget⟩

lemma CancelsExactly.handled {targets : List PendingEntry} {notify : Bool}
    (h : s.CancelsExactly s' targets notify) (hs : s.Handled) : s'.Handled :=
  hs.mono (fun _ _ _ hget => (h.get?_of hget).2) (by rw [h.handlers]; exact List.Subset.refl _)

lemma getQueryInfo_get?_of {b' k' : Int}
    (h : (s.getQueryInfo b k false).2.browserQueryInfoMap.get? b' k' = some info) :
    s.browserQueryInfoMap.get? b' k' = some info := by
  obtain ⟨m, heq, hm⟩ := s.getQueryInfo_eq b k
  rw [heq] at h
  rw [hm] at h
  cases hb : s.browserQueryInfoMap.get? b k with
  | none => simpa [lookupAfter, hb] using h
  | some found =>
    simp only [lookupAfter, hb] at h
    split at h
    · exact h
    · exact (Lookup.remove_eq_some.mp h).2

section

variable (h : s.Handled)
include h

lemma getQueryInfo_handled (b k : Int) : (s.getQueryInfo b k false).2.Handled :=
  h.mono (fun _ _ _ => getQueryInfo_get?_of) (List.Subset.refl _)

lemma Handled.withEffects (e : Effects) :
    BrowserSideRouter.Handled { s with effects := e } := h

lemma onCallbackSuccess_handled (b k : Int) (builds : Bool) :
    (s.onCallbackSuccess b k builds).Handled := by
  have hget := getQueryInfo_handled h b k
  unfold onCallbackSuccess
  split
  · rename_i heq
    rwa [heq] at hget
  · rename_i heq
    rw [heq] at hget
    exact hget.withEffects _

lemma onCallbackFailure_handled (b k errorCode : Int) (errorMessage : String) :
    (s.onCallbackFailure b k errorCode errorMessage).Handled := by
  have hget := getQueryInfo_handled h b k
  unfold onCallbackFailure
  split
  · rename_i heq
    rwa [heq] at hget
  · rename_i heq
    rw [heq] at hget
    exact hget.withEffects _

lemma executeSuccess_handled (q : Query) (held builds : Bool) :
    (s.executeSuccess q held builds).Handled := by
  unfold executeSuccess
  split
  · exact h
  · dsimp only
    split
    · split <;> split
      · exact onCallbackSuccess_handled h _ _ _
      · exact onCallbackSuccess_handled (h.withEffects _) _ _ _
      · exact h
      · exact h.withEffects _
    · exact h

lemma executeFailure_handled (q : Query) (held : Bool) (errorCode : Int)
    (errorMessage : String) : (s.executeFailure q held errorCode errorMessage).Handled := by
  unfold executeFailure
  split
  · exact h
  · split
    · split
      · exact onCallbackFailure_handled (h.withEffects _) _ _ _ _
      · exact h.withEffects _
    · exact h

end

lemma offerQuery_mem (answers : Nat → Bool) (offset queryId : Int) {e : Int × Handler}
    (slots : List (Option Handler)) : ∀ (index : Nat) (log : List RouterEvent),
      (offerQuery answers offset queryId index slots log).1 = some e →
        e ∈ Slots.numbered (index - offset) slots := by
  induction slots with
  | nil => exact fun _ _ h => nomatch h
  | cons slot slots ih =>
    intro index log h
    have hnext : ((index : Int) - offset + 1) = ((index + 1 : Nat) : Int) - offset := by omega
    cases slot with
    | none =>
      rw [Slots.numbered_none, hnext]
      exact ih (index + 1) log h
    | some handler =>
      rw [Slots.numbered_some, hnext]
      simp only [offerQuery] at h
      split at h
      · split at h
        · cases h
          exact mem_cons_self
        · exact mem_cons_of_mem _ (ih (index + 1) _ h)
      · exact mem_cons_of_mem _ (ih (index + 1) log h)

lemma onQueryMessage_handled (h : s.Handled) (browser : Option Int) (frame : Option Frame)
    (contextId requestId : Int) (isPersistent : Bool) (answers : Nat → Bool) :
    (s.onQueryMessage browser frame contextId requestId isPersistent answers).Handled := by
  have hfirst : ((0 : Nat) : Int) - s.handlers.offset = -s.handlers.offset := by omega
  unfold onQueryMessage
  split
  · dsimp only
    split
    · rename_i entry heq
      intro b k info hget
      rw [BrowserInfoMap.get?_insert] at hget
      split at hget
      · cases hget
        have hmem := offerQuery_mem _ _ _ _ _ _ heq
        rw [hfirst] at hmem
        exact ⟨entry, rfl, hmem⟩
      · exact h b k info hget
    · exact h
  · exact h

lemma removeHandler_get?_of {handlerId : Int}
    (hget : (s.removeHandler handlerId).2.browserQueryInfoMap.get? b k = some info) :
    s.browserQueryInfoMap.get? b k = some info ∧
      ∀ e, info.handler = some e → e ∈ s.handlers.registered → e.1 ≠ handlerId := by
  by_cases hreg : ∃ h, (handlerId, h) ∈ s.handlers.registered
  · have hremoved : ∃ d, (s.removeHandler handlerId).2 =
        BrowserSideRouter.cancelPendingFor { s with handlers := d } none (some handlerId) true := by
      have htrue := removeHandler_fst.mpr hreg
      unfold removeHandler at htrue ⊢
      split at htrue
      · exact nomatch htrue
      · split at htrue
        · exact nomatch htrue
        · split at htrue
          · exact ⟨_, rfl⟩
          · exact nomatch htrue
    obtain ⟨d, hd⟩ := hremoved
    rw [hd] at hget
    obtain ⟨hnot, hget⟩ := (cancelPendingFor_cancels _ none (some handlerId) true).get?_of hget
    refine ⟨hget, fun e he _ heq => hnot ?_⟩
    refine mem_map.mpr ⟨(b, k, info), mem_filter.mpr ⟨?_, ?_⟩, rfl⟩
    · exact BrowserInfoMap.mem_entries.mpr hget
    · simp [selectedBy, he, heq]
  · have hsame : (s.removeHandler handlerId).2.browserQueryInfoMap = s.browserQueryInfoMap := by
      have hfalse := removeHandler_fst.not.mpr hreg
      unfold removeHandler at hfalse ⊢
      split at hfalse
      · rfl
      · split at hfalse
        · rfl
        · split at hfalse
          · exact absurd rfl hfalse
          · rfl
    rw [hsame] at hget
    exact ⟨hget, fun e _ hmem heq => hreg ⟨e.2, heq ▸ hmem⟩⟩

theorem handled_step (h : s.Handled) (a : Action) : (s.step a).Handled := by
  cases a with
  | addHandler handler first =>
    refine h.mono (fun b k info hget => ?_) ?_
    · simp only [step, addHandler] at hget
      split at hget
      · exact hget
      · split at hget <;> exact hget
    · rw [registered_step]
      simp only [Registry.after]
      split
      · split
        · exact subset_cons_self _ _
        · exact subset_append_left _ _
      · exact List.Subset.refl _
  | removeHandler handlerId =>
    intro b k info hget
    obtain ⟨hget, hother⟩ := removeHandler_get?_of hget
    obtain ⟨e, he, hmem⟩ := h b k info hget
    refine ⟨e, he, ?_⟩
    rw [registered_step]
    exact mem_filter.mpr ⟨hmem, by simpa using hother e he hmem⟩
  | successTask q held builds =>
    simp only [step]
    split
    · exact h
    · exact (executeSuccess_handled h q held builds).withEffects _
  | failureTask q held errorCode errorMessage =>
    simp only [step]
    split
    · exact h
    · exact (executeFailure_handled h q held errorCode errorMessage).withEffects _
  | queryMessage browser frame contextId requestId isPersistent answers =>
    exact onQueryMessage_handled h browser frame contextId requestId isPersistent answers
  | cancelPending browser handlerId => exact (cancelPendingFor_cancels ..).handled h
  | cancelPendingForTask browser handlerId notify => exact (cancelPendingFor_cancels ..).handled h
  | onBeforeClose browser => exact (cancelPendingFor_cancels ..).handled h
  | onRenderProcessTerminated browser => exact (cancelPendingFor_cancels ..).handled h
  | onBeforeBrowse browser frame =>
    simp only [step, onBeforeBrowse]
    split
    · exact (cancelPendingFor_cancels ..).handled h
    · exact h
  | cancelMessage browser contextId requestId =>
    simp only [step, onCancelMessage]
    split
    · exact (cancelPendingRequest_cancels ..).handled h
    · exact h

end BrowserSideRouter

/-! ### Posted tasks -/

/-- A task `BrowserSideRouterCancelPendingFor` that `cancel_pending` has posted: the browser and
the handler that it carries, and the handler id that its caller has given. -/
structure CancelTask where
  browser : Option Int
  handlerId : Option Int
  handler : Option (Int × Handler)
  deriving DecidableEq

/-- The router with the tasks that wait for the UI thread. -/
structure DeferredRouter where
  router : BrowserSideRouter
  posted : List CancelTask

namespace DeferredRouter

open BrowserSideRouter

/-- An entry point or task on the UI thread, a call of `cancel_pending` on another thread, and the
run of a task that such a call has posted. -/
inductive DeferredAction where
  | ui (action : Action)
  | cancelPending (browser handlerId : Option Int)
  | execute (task : Nat)

/-- `BrowserSideRouter::new`, with nothing posted. -/
def new : DeferredRouter := ⟨BrowserSideRouter.new, []⟩

/-- One step. A task that has not been posted cannot run. -/
def step (s : DeferredRouter) : DeferredAction → Option DeferredRouter
  | .ui action => some { s with router := s.router.step action }
  | .cancelPending browser handlerId =>
    let handler := handlerId.bind s.router.handlers.lookup
    some { s with posted := s.posted ++ [⟨browser, handlerId, handler⟩] }
  | .execute task =>
    s.posted[task]?.map fun t =>
      ⟨s.router.cancelPendingFor t.browser (t.handler.map (·.1)) true, s.posted.eraseIdx task⟩

/-- A task posted for a handler id cancels only queries that have been accepted by the handler
object that the task carries, and none if it carries no handler. -/
def TaskHits (s : DeferredRouter) : DeferredAction → Prop
  | .execute task =>
    ∀ t ∈ s.posted[task]?, t.handlerId.isSome → ∀ s' ∈ s.step (.execute task),
      ∀ e ∈ s.router.pendingEntries none,
        s'.router.browserQueryInfoMap.get? e.1 e.2.1 = none →
          ∃ handler, t.handler.map (·.2) = some handler ∧
            e.2.2.handler.map (·.2) = some handler
  | _ => True

/-- When a task runs, its id is registered for the handler that the task carries, or no query that
passes the browser filter is pending under it. A task whose id was not registered finds no query
that passes the browser filter. -/
def IdStillDenotes (s : DeferredRouter) : DeferredAction → Prop
  | .execute task =>
    ∀ t ∈ s.posted[task]?, t.handlerId.isSome →
      match t.handler with
      | some (handlerId, handler) =>
        s.router.handlers.lookup handlerId = some (handlerId, handler) ∨
          ∀ e ∈ s.router.pendingEntries t.browser, e.2.2.handler.map (·.1) ≠ some handlerId
      | none => s.router.pendingEntries t.browser = []
  | _ => True

variable {s : DeferredRouter}

lemma pendingEntries_subset (r : BrowserSideRouter) (browser : Option Int) :
    r.pendingEntries browser ⊆ r.pendingEntries none := by
  rintro ⟨b, k, info⟩ he
  exact BrowserInfoMap.mem_entries.mpr (get?_of_mem_pendingEntries he)

variable {e : PendingEntry}

lemma gone_iff {r : BrowserSideRouter} {browser handlerId : Option Int}
    (he : e ∈ r.pendingEntries none) :
    (r.cancelPendingFor browser handlerId true).browserQueryInfoMap.get? e.1 e.2.1 = none ↔
      e ∈ r.pendingEntries browser ∧ selectedBy handlerId e.2.2 := by
  obtain ⟨b, k, info⟩ := e
  have hget := get?_of_mem_pendingEntries he
  have hsub : (r.pendingEntries browser).filter (fun e => selectedBy handlerId e.2.2) ⊆
      r.pendingEntries browser := filter_subset_self _
  rw [(r.cancelPendingFor_cancels browser handlerId true).removed]
  constructor
  · intro hgone
    split at hgone
    · rename_i hmem
      obtain ⟨⟨b', k', info'⟩, he', heq⟩ := mem_map.mp hmem
      cases heq
      have hget' := get?_of_mem_pendingEntries (hsub he')
      obtain rfl := some.inj (hget.symm.trans hget')
      exact mem_filter.mp he'
    · exact absurd (hgone.symm.trans hget) nofun
  · intro hsel
    rw [if_pos (List.mem_map.mpr ⟨_, mem_filter.mpr hsel, rfl⟩)]

section

variable (h : s.router.Handled)
include h

lemma handler_of_lookup (he : e ∈ s.router.pendingEntries none) {handlerId : Int}
    (hid : e.2.2.handler.map (·.1) = some handlerId) :
    e.2.2.handler = s.router.handlers.lookup handlerId := by
  obtain ⟨entry, hentry, hmem⟩ := h e.1 e.2.1 e.2.2 (get?_of_mem_pendingEntries he)
  rw [hentry, map_some, some.injEq] at hid
  rw [hentry, eq_comm, HandlersDeque.lookup_eq_some]
  exact ⟨hid, hmem⟩

lemma selectedBy_iff (he : e ∈ s.router.pendingEntries none) (handlerId : Int) :
    selectedBy (some handlerId) e.2.2 = true ↔ e.2.2.handler.map (·.1) = some handlerId := by
  obtain ⟨entry, hentry, -⟩ := h e.1 e.2.1 e.2.2 (get?_of_mem_pendingEntries he)
  simp [selectedBy, hentry, eq_comm]

/-- **When a task hits the right queries.**

**Proof sketch.** A query that the task cancels is pending under the task's id, and so belongs to
the handler that is registered under this id when the task runs. -/
lemma taskHits_iff (a : DeferredAction) : s.TaskHits a ↔ s.IdStillDenotes a := by
  cases a with
  | ui action => exact Iff.rfl
  | cancelPending browser handlerId => exact Iff.rfl
  | execute task =>
    refine forall₂_congr fun t ht => imp_congr_right fun _ => ?_
    have hstep : s.step (.execute task) = some ⟨s.router.cancelPendingFor t.browser
        (t.handler.map (·.1)) true, s.posted.eraseIdx task⟩ := by
      rw [mem_def] at ht
      rw [step, ht, map_some]
    simp only [hstep, mem_some_iff, forall_eq']
    cases hhandler : t.handler with
    | none =>
      constructor
      · intro hhits
        refine eq_nil_iff_forall_not_mem.mpr fun e he => ?_
        have hgone := (gone_iff (pendingEntries_subset _ _ he)).mpr
          ⟨he, (rfl : selectedBy none e.2.2 = true)⟩
        obtain ⟨handler, hno, -⟩ := hhits e (pendingEntries_subset _ _ he) hgone
        exact nomatch hno
      · intro hnil e he hgone
        have hmem := ((gone_iff he).mp hgone).1
        rw [hnil] at hmem
        exact absurd hmem not_mem_nil
    | some entry =>
      obtain ⟨handlerId, handler⟩ := entry
      constructor
      · intro hhits
        refine or_iff_not_imp_right.mpr fun hpending => ?_
        simp only [not_forall, not_not] at hpending
        obtain ⟨e, he, hid⟩ := hpending
        have hall := pendingEntries_subset _ _ he
        have hgone := (gone_iff hall).mpr ⟨he, (selectedBy_iff h hall handlerId).mpr hid⟩
        obtain ⟨handler', hsome, hobject⟩ := hhits e hall hgone
        cases hsome
        rw [← handler_of_lookup h hall hid]
        obtain ⟨⟨i, h'⟩, hentry, rfl⟩ := map_eq_some_iff.mp hid
        rw [hentry, map_some, some.injEq] at hobject
        rw [hentry]
        exact congrArg some (Prod.ext rfl hobject)
      · intro hdenotes e he hgone
        obtain ⟨hmem, hsel⟩ := (gone_iff he).mp hgone
        have hid := (selectedBy_iff h he handlerId).mp hsel
        refine ⟨handler, rfl, ?_⟩
        rcases hdenotes with hlookup | hnone
        · rw [handler_of_lookup h he hid, hlookup]
          rfl
        · exact absurd hid (hnone e hmem)

lemma handled_step {s' : DeferredRouter} {a : DeferredAction}
    (hs : s.step a = some s') : s'.router.Handled := by
  cases a with
  | ui action =>
    cases hs
    exact BrowserSideRouter.handled_step h action
  | cancelPending browser handlerId =>
    cases hs
    exact h
  | execute task =>
    obtain ⟨t, -, rfl⟩ := map_eq_some_iff.mp hs
    exact (cancelPendingFor_cancels ..).handled h

end

/-- **Deferred cancellations** hit only queries of the handlers that their ids denoted along
exactly the runs in which no id has passed to another handler with pending queries, and no id
that denoted nothing finds pending queries. -/
theorem deferred_cancellation_iff (acts : List DeferredAction) :
    Along step TaskHits new acts ↔ Along step IdStillDenotes new acts :=
  Along.congr (fun _ _ _ h _ hs => handled_step h hs) (fun _ a h => taskHits_iff h a)
    acts new new_handled

/-- The handler that `cancel_pending` means is removed, and its id is given to another handler,
which accepts a query before the task runs. -/
def reusedId : List DeferredAction :=
  [.ui (.addHandler 7 true), .cancelPending none (some (-1)), .ui (.removeHandler (-1)),
    .ui (.addHandler 8 true), .ui (.queryMessage (some 1) none 1 1 false fun _ => true),
    .execute 0]

/-- The task cancels the query that the handler added later has accepted. -/
theorem reused_id_cancels_later_handler : ¬ Along step TaskHits new reusedId := by
  intro h
  obtain ⟨-, -, -, -, -, hhits, -⟩ := h
  obtain ⟨handler, hcarried, haccepted⟩ := hhits ⟨none, some (-1), some (-1, 7)⟩ (by decide)
    (by decide) _ rfl (1, 1, ⟨some 1, none, 1, 1, false, some 0, some (-1, 8)⟩) (by decide)
    (by decide)
  rw [← hcarried] at haccepted
  exact absurd haccepted (by decide)

end DeferredRouter

end CefCore.MessageRouter
