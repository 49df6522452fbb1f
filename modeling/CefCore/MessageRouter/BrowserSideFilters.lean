import CefCore.MessageRouter.BrowserSideCompletion
import CefCore.MessageRouter.HandlersDeque

/-!
# Which queries a cancellation of the Rust router hits

`cancel_pending_request` cancels on behalf of the renderer, by browser, context id and request id,
and `cancel_pending` on behalf of the client, by browser and handler id. Both walk over the pending
queries with a visitor that selects entries, so that what they do is known once the selected
entries are: each is removed, and each is reported as canceled, in the order of the walk.

Neither visitor selects quite what it is asked for. In `cancel_pending_request` the comparison of
the context ids is bound to the reserved request id only, since `&&` binds before `||`; the C++
router has the parentheses the other way. In `cancel_pending` and `pending_count` an id under which
no handler is registered becomes `None` in the lookup, which is also how no id at all is passed on.

## Main results

* `cancelPendingRequest_exact_iff`, `filters_obeyed_iff`: when they do.
-/

namespace CefCore.MessageRouter.BrowserSideRouter

open Std List Option BrowserInfoMap

variable {s s' : BrowserSideRouter}

/-! ### Cancellations -/

abbrev PendingEntry := Int × Int × BrowserSideQueryInfo

def pendingEntries (s : BrowserSideRouter) : Option Int → List PendingEntry
  | some browser => (s.browserQueryInfoMap.browserEntries browser).map fun e => (browser, e)
  | none => s.browserQueryInfoMap.entries

/-- The state `s'` is `s` after the queries in `targets` have been canceled one after another:
their entries are gone, `cancel_query` has run for each of them, and nothing else is changed. -/
structure CancelsExactly (s s' : BrowserSideRouter) (targets : List PendingEntry)
    (notifyRenderer : Bool) : Prop where
  removed : ∀ b k, s'.browserQueryInfoMap.get? b k =
    if (b, k) ∈ targets.map (fun e => (e.1, e.2.1)) then none else s.browserQueryInfoMap.get? b k
  canceled : s'.effects =
    targets.foldl (fun e t => e.cancelQuery t.2.1 t.2.2 notifyRenderer) s.effects
  handlers : s'.handlers = s.handlers
  queryIdGenerator : s'.queryIdGenerator = s.queryIdGenerator

lemma get?_of_mem_pendingEntries {browser : Option Int} {b k : Int} {info : BrowserSideQueryInfo}
    (h : (b, k, info) ∈ s.pendingEntries browser) : s.browserQueryInfoMap.get? b k = some info := by
  cases browser with
  | none => exact mem_entries.mp h
  | some browser =>
    obtain ⟨⟨k', info'⟩, he, heq⟩ := mem_map.mp h
    simp only [Prod.mk.injEq] at heq
    obtain ⟨rfl, rfl, rfl⟩ := heq
    exact mem_browserEntries.mp he

lemma CancelsExactly.subset {targets targets' : List PendingEntry} {browser browser' : Option Int}
    {notify notify' : Bool} (h : s.CancelsExactly s' targets notify)
    (h' : s.CancelsExactly s' targets' notify') (hsub : targets ⊆ s.pendingEntries browser)
    (hsub' : targets' ⊆ s.pendingEntries browser') : targets ⊆ targets' := by
  rintro ⟨b, k, info⟩ he
  have hget := get?_of_mem_pendingEntries (hsub he)
  have hgone := h'.removed b k
  rw [h.removed, if_pos (mem_map.mpr ⟨_, he, rfl⟩)] at hgone
  split at hgone
  · rename_i hmem
    obtain ⟨⟨b', k', info'⟩, he', heq⟩ := mem_map.mp hmem
    cases heq
    have hget' := get?_of_mem_pendingEntries (hsub' he')
    obtain rfl := some.inj (hget.symm.trans hget')
    exact he'
  · exact absurd (hgone.trans hget) nofun

/-! ### Cancellations by the renderer -/

/-- The pending queries that a cancel message means: those of the browser and the context, all of
them for the reserved request id, and otherwise the first that has the request id. -/
def cancelTargets (s : BrowserSideRouter) (browserId contextId requestId : Int) :
    List PendingEntry :=
  if requestId = reservedId then
    (s.pendingEntries (some browserId)).filter fun e => e.2.2.contextId = contextId
  else
    ((s.pendingEntries (some browserId)).find? fun e =>
      e.2.2.contextId = contextId ∧ e.2.2.requestId = requestId).toList

/-- The pending queries that the visitor of `cancel_pending_request` selects. -/
def selectedByRequest (s : BrowserSideRouter) (browserId contextId requestId : Int) :
    List PendingEntry :=
  if requestId = reservedId then
    (s.pendingEntries (some browserId)).filter fun e =>
      e.2.2.contextId = contextId ∨ e.2.2.requestId = reservedId
  else
    ((s.pendingEntries (some browserId)).find? fun e => e.2.2.requestId = requestId).toList

private lemma cancelsExactly_of_browser {browserId : Int} {l : List (Int × BrowserSideQueryInfo)}
    {notify : Bool} {m : BrowserInfoMap Int BrowserSideQueryInfo compare} {e : Effects}
    (he : e = l.foldl (fun e t => e.cancelQuery t.1 t.2 notify) s.effects)
    (hm : ∀ b k, m.get? b k = if b = browserId ∧ k ∈ l.map Prod.fst then none
      else s.browserQueryInfoMap.get? b k) :
    s.CancelsExactly { s with browserQueryInfoMap := m, effects := e }
      (l.map fun t => (browserId, t)) notify where
  removed b k := by
    rw [hm]
    refine if_congr ?_ rfl rfl
    simp only [List.map_map, List.mem_map, Function.comp_apply, Prod.mk.injEq, Prod.exists]
    constructor
    · rintro ⟨rfl, k', info, hmem, rfl⟩
      exact ⟨k', info, hmem, rfl, rfl⟩
    · rintro ⟨k', info, hmem, rfl, rfl⟩
      exact ⟨rfl, k', info, hmem, rfl⟩
  canceled := by rw [List.foldl_map, he]
  handlers := rfl
  queryIdGenerator := rfl

section

variable (s : BrowserSideRouter) (browserId contextId requestId : Int)

lemma cancelPendingRequest_cancels :
    s.CancelsExactly (s.cancelPendingRequest browserId contextId requestId)
      (s.selectedByRequest browserId contextId requestId) false := by
  unfold selectedByRequest pendingEntries
  by_cases hr : requestId = reservedId
  · have hsel : BrowserInfoMap.Selects (cancelRequestVisitor contextId requestId)
        (fun _ info => decide (info.contextId = contextId ∨ info.requestId = reservedId))
        fun k info e => e.cancelQuery k info false := by
      intro b k info e
      simp [cancelRequestVisitor, hr]
    obtain ⟨he, hm⟩ := hsel.findBrowserAll s.browserQueryInfoMap browserId s.effects
    rw [if_pos hr, List.filter_map]
    exact cancelsExactly_of_browser he hm
  · have hsel : BrowserInfoMap.SelectsFirst (cancelRequestVisitor contextId requestId)
        (fun _ info => decide (info.requestId = requestId))
        fun k info e => e.cancelQuery k info false := by
      intro b k info e
      simp [cancelRequestVisitor, hr]
    obtain ⟨he, hm⟩ := hsel.findBrowserAll s.browserQueryInfoMap browserId s.effects
    rw [if_neg hr, find?_map, toList_map]
    exact cancelsExactly_of_browser he hm

/-- The request id of a cancel message singles out queries of the message's context: a query of
the browser that it would hit whatever its context is belongs to that context. -/
def ContextDecides : Prop :=
  if requestId = reservedId then
    ∀ e ∈ s.pendingEntries (some browserId), e.2.2.requestId = reservedId →
      e.2.2.contextId = contextId
  else
    ∀ e ∈ (s.pendingEntries (some browserId)).find? fun e => e.2.2.requestId = requestId,
      e.2.2.contextId = contextId

lemma cancelTargets_subset :
    s.cancelTargets browserId contextId requestId ⊆ s.pendingEntries (some browserId) := by
  unfold cancelTargets
  split
  · exact filter_subset_self _
  · intro e he
    exact mem_of_find?_eq_some (mem_toList.mp he)

lemma selectedByRequest_subset :
    s.selectedByRequest browserId contextId requestId ⊆ s.pendingEntries (some browserId) := by
  unfold selectedByRequest
  split
  · exact filter_subset_self _
  · intro e he
    exact mem_of_find?_eq_some (mem_toList.mp he)

end

lemma contextId_of_mem_cancelTargets {browserId contextId requestId : Int} {e : PendingEntry}
    (h : e ∈ s.cancelTargets browserId contextId requestId) : e.2.2.contextId = contextId := by
  unfold cancelTargets at h
  split at h
  · simpa using (mem_filter.mp h).2
  · have := find?_some (mem_toList.mp h)
    simp only [decide_eq_true_eq] at this
    exact this.1

private lemma find?_and {α : Type} {p q : α → Prop} [DecidablePred p] [DecidablePred q] :
    ∀ {l : List α}, (∀ x ∈ l.find? q, p x) → (l.find? fun x => p x ∧ q x) = l.find? q
  | [], _ => rfl
  | x :: l, h => by
    by_cases hq : q x
    · have hp : p x := h x (by simp [hq])
      simp [hp, hq]
    · have hrest : ∀ x ∈ l.find? q, p x := by simpa [hq] using h
      simpa [hq] using find?_and hrest

lemma selectedByRequest_eq {browserId contextId requestId : Int}
    (h : s.ContextDecides browserId contextId requestId) :
    s.selectedByRequest browserId contextId requestId =
      s.cancelTargets browserId contextId requestId := by
  unfold selectedByRequest cancelTargets
  unfold ContextDecides at h
  split
  · rename_i hr
    rw [if_pos hr] at h
    refine filter_congr fun e he => decide_eq_decide.mpr ?_
    exact or_iff_left_of_imp (h e he)
  · rename_i hr
    rw [if_neg hr] at h
    rw [find?_and h]

/-- **A cancel message of the renderer** cancels exactly the queries that it means if and only if no
query of another context is hit for its request id.

**Proof sketch.** If the request id singles out queries of the context, the visitor selects what is
meant. -/
theorem cancelPendingRequest_exact_iff (s : BrowserSideRouter)
    (browserId contextId requestId : Int) :
    s.CancelsExactly (s.cancelPendingRequest browserId contextId requestId)
        (s.cancelTargets browserId contextId requestId) false ↔
      s.ContextDecides browserId contextId requestId := by
  have hselected := s.cancelPendingRequest_cancels browserId contextId requestId
  constructor
  · intro h
    have hsub := hselected.subset h (s.selectedByRequest_subset browserId contextId requestId)
      (s.cancelTargets_subset browserId contextId requestId)
    unfold ContextDecides
    split
    · rename_i hr
      intro e he hreserved
      refine contextId_of_mem_cancelTargets (hsub ?_)
      rw [selectedByRequest, if_pos hr]
      exact mem_filter.mpr ⟨he, by simp [hreserved]⟩
    · rename_i hr
      intro e he
      refine contextId_of_mem_cancelTargets (hsub ?_)
      rw [selectedByRequest, if_neg hr]
      exact mem_toList.mpr he
  · intro h
    rw [← selectedByRequest_eq h]
    exact hselected

/-- Two contexts of one browser each have a query with their first request id pending. -/
def twoContexts : List Action :=
  [.addHandler 7 false, .queryMessage (some 1) none 1 1 false (fun _ => true),
    .queryMessage (some 1) none 2 1 false (fun _ => true)]

/-- A cancel message for the second context's query hits the first context's. -/
theorem cancelPendingRequest_hits_other_context :
    let s := twoContexts.foldl step new
    ¬ s.CancelsExactly (s.cancelPendingRequest 1 2 1) (s.cancelTargets 1 2 1) false := by
  intro s h
  have hgone : (s.cancelPendingRequest 1 2 1).browserQueryInfoMap.get? 1 1 = none := by decide
  have hother : (1, 1) ∉ (s.cancelTargets 1 2 1).map fun e => (e.1, e.2.1) := by decide
  have hpending : s.browserQueryInfoMap.get? 1 1 ≠ none := by decide
  rw [h.removed, if_neg hother] at hgone
  exact hpending hgone

/-! ### Cancellations by the client -/

/-- The pending queries that match both filters; none is handled by a handler that is not
registered. -/
def matching (s : BrowserSideRouter) (browser handlerId : Option Int) : List PendingEntry :=
  match handlerId with
  | none => s.pendingEntries browser
  | some handlerId =>
    if (s.handlers.lookup handlerId).isSome then
      (s.pendingEntries browser).filter fun e => e.2.2.handler.map (·.1) = some handlerId
    else []

/-- The visitor of `cancel_pending_for` passes over the queries of other handlers only. -/
def selectedBy (handlerId : Option Int) (info : BrowserSideQueryInfo) : Bool :=
  match handlerId, info.handler with
  | some handlerId, some entry => handlerId = entry.1
  | _, _ => true

lemma cancelPendingFor_cancels (s : BrowserSideRouter) (browser handlerId : Option Int)
    (notify : Bool) : s.CancelsExactly (s.cancelPendingFor browser handlerId notify)
      ((s.pendingEntries browser).filter fun e => selectedBy handlerId e.2.2) notify := by
  have hsel : BrowserInfoMap.Selects (cancelPendingVisitor handlerId notify)
      (fun _ info => selectedBy handlerId info) fun k info e => e.cancelQuery k info notify := by
    intro b k info e
    cases handlerId with
    | none => simp [cancelPendingVisitor, selectedBy]
    | some handlerId =>
      cases hh : info.handler with
      | none => simp [cancelPendingVisitor, selectedBy, hh]
      | some entry =>
        by_cases heq : handlerId = entry.1 <;>
          simp [cancelPendingVisitor, selectedBy, hh, heq]
  unfold cancelPendingFor
  split
  · rename_i hempty
    have hnil : s.pendingEntries browser = [] := by
      cases browser <;>
        simp [pendingEntries, entries_of_isEmpty hempty, browserEntries_of_isEmpty hempty]
    rw [hnil]
    exact ⟨fun _ _ => rfl, rfl, rfl, rfl⟩
  · cases browser with
    | some browser =>
      obtain ⟨he, hm⟩ := hsel.findBrowserAll s.browserQueryInfoMap browser s.effects
      rw [pendingEntries, List.filter_map]
      exact cancelsExactly_of_browser he hm
    | none =>
      obtain ⟨he, hm⟩ := hsel.findAll s.browserQueryInfoMap s.effects
      refine ⟨fun b k => (hm b k).trans ?_, he, rfl, rfl⟩
      cases hget : s.browserQueryInfoMap.get? b k with
      | none => simp
      | some info =>
        have hmem : (b, k) ∈ ((s.pendingEntries none).filter fun e =>
            selectedBy handlerId e.2.2).map (fun e => (e.1, e.2.1)) ↔
              selectedBy handlerId info = true := by
          simp only [List.mem_map, mem_filter, Prod.exists, Prod.mk.injEq]
          constructor
          · rintro ⟨b', k', info', ⟨hmem, hp⟩, rfl, rfl⟩
            obtain rfl := some.inj (hget.symm.trans (get?_of_mem_pendingEntries hmem))
            exact hp
          · exact fun hp => ⟨b, k, info, ⟨mem_entries.mpr hget, hp⟩, rfl, rfl⟩
        cases hp : selectedBy handlerId info <;> simp [hmem, hp, Option.filter]

/-- `cancel_pending` cancels the queries that match both filters, and `pending_count` is their
number. -/
structure ObeysFilters (s : BrowserSideRouter) (browser handlerId : Option Int) : Prop where
  cancels : s.CancelsExactly (s.cancelPending browser handlerId) (s.matching browser handlerId) true
  counts : s.pendingCount browser handlerId = (s.matching browser handlerId).length

/-- No handler id is given, or no query passes the browser filter, or the id is registered and
every query that passes the browser filter has a handler. -/
def FilterResolves (s : BrowserSideRouter) (browser handlerId : Option Int) : Prop :=
  handlerId = none ∨ s.pendingEntries browser = [] ∨
    ∃ i, handlerId = some i ∧ (s.handlers.lookup i).isSome ∧
      ∀ e ∈ s.pendingEntries browser, e.2.2.handler.isSome

lemma pendingQueries_eq (s : BrowserSideRouter) (browser : Option Int) :
    s.pendingQueries browser = (s.pendingEntries browser).map fun e => e.2.2 := by
  cases browser with
  | none => rfl
  | some browser => simp [pendingQueries, pendingEntries]

lemma map_lookup {i : Int} (h : (s.handlers.lookup i).isSome) :
    (s.handlers.lookup i).map (·.1) = some i := by
  obtain ⟨e, he⟩ := isSome_iff_exists.mp h
  rw [he, map_some, (HandlersDeque.lookup_eq_some.mp he).1]

/-- The handler id that `cancel_pending` and `pending_count` go on with. -/
def resolved (s : BrowserSideRouter) (handlerId : Option Int) : Option Int :=
  (handlerId.bind s.handlers.lookup).map (·.1)

lemma filter_selectedBy_eq {browser handlerId : Option Int}
    (h : s.FilterResolves browser handlerId) :
    (s.pendingEntries browser).filter (fun e => selectedBy (s.resolved handlerId) e.2.2) =
      s.matching browser handlerId := by
  rcases h with rfl | hnil | ⟨i, rfl, hsome, hhandlers⟩
  · simp [resolved, matching, selectedBy]
  · cases handlerId <;> simp [hnil, matching]
  · rw [resolved, bind_some, map_lookup hsome, matching, if_pos hsome]
    refine filter_congr fun e he => ?_
    obtain ⟨entry, hentry⟩ := isSome_iff_exists.mp (hhandlers e he)
    simp [selectedBy, hentry, eq_comm]

lemma length_counted {browser handlerId : Option Int} (h : s.FilterResolves browser handlerId) :
    (s.counted browser handlerId).length = (s.matching browser handlerId).length := by
  have hcounted : s.counted browser handlerId = match s.resolved handlerId with
      | some i => ((s.pendingEntries browser).filter fun e =>
          e.2.2.handler.map (·.1) = some i).map fun e => e.2.2
      | none => (s.pendingEntries browser).map fun e => e.2.2 := by
    unfold counted
    rw [pendingQueries_eq]
    show (match s.resolved handlerId with | some _ => _ | none => _) = _
    split
    · rw [List.filter_map]
      rfl
    · rfl
  rw [hcounted]
  rcases h with rfl | hnil | ⟨i, rfl, hsome, -⟩
  · simp [resolved, matching]
  · have hmatching : s.matching browser handlerId = [] := by
      cases handlerId <;> simp [hnil, matching]
    rw [hmatching, hnil]
    split <;> rfl
  · rw [resolved, bind_some, map_lookup hsome, matching, if_pos hsome]
    exact length_map ..

/-- **The filters of `cancel_pending` and `pending_count`** are obeyed if and only if the handler
id is given and registered, or is not given, or makes no difference.

**Proof sketch.** If the id is not registered, the walk takes every query that passes the browser
filter, where none is meant. -/
theorem filters_obeyed_iff (s : BrowserSideRouter) (browser handlerId : Option Int) :
    s.ObeysFilters browser handlerId ↔ s.FilterResolves browser handlerId := by
  have hselected : s.CancelsExactly (s.cancelPending browser handlerId)
      ((s.pendingEntries browser).filter fun e => selectedBy (s.resolved handlerId) e.2.2) true :=
    s.cancelPendingFor_cancels browser (s.resolved handlerId) true
  have hmatching : s.matching browser handlerId ⊆ s.pendingEntries browser := by
    unfold matching
    split
    · exact List.Subset.refl _
    · split
      · exact filter_subset_self _
      · exact nil_subset _
  constructor
  · intro h
    have hsub := hselected.subset h.cancels (filter_subset_self _) hmatching
    cases handlerId with
    | none => exact .inl rfl
    | some i =>
      right
      by_cases hsome : (s.handlers.lookup i).isSome
      · refine .inr ⟨i, rfl, hsome, fun e he => ?_⟩
        by_contra hno
        rw [not_isSome_iff_eq_none] at hno
        have hmem : e ∈ s.matching browser (some i) :=
          hsub (mem_filter.mpr ⟨he, by simp [selectedBy, hno]⟩)
        rw [matching, if_pos hsome, mem_filter] at hmem
        simp [hno] at hmem
      · left
        have hresolved : s.resolved (some i) = none := by
          rw [not_isSome_iff_eq_none] at hsome
          simp [resolved, hsome]
        simp only [hresolved, selectedBy, filter_true, matching, if_neg hsome] at hsub
        exact subset_nil.mp hsub
  · intro h
    refine ⟨?_, ?_⟩
    · rw [← filter_selectedBy_eq h]
      exact hselected
    · rw [pendingCount_eq, length_counted h]

/-- One query is pending, of the only handler, whose id is 0. -/
def onePending : List Action :=
  [.addHandler 7 false, .queryMessage (some 1) none 1 1 false (fun _ => true)]

/-- An id that was never registered cancels and counts the query of the handler. -/
theorem unknown_handler_id_matches :
    let s := onePending.foldl step new
    ¬ s.ObeysFilters none (some 5) := by
  intro s h
  have hcount : s.pendingCount none (some 5) = 1 := by decide
  have hnone : (s.matching none (some 5)).length = 0 := by decide
  exact absurd (hcount.symm.trans (h.counts.trans hnone)) (by decide)

end CefCore.MessageRouter.BrowserSideRouter
