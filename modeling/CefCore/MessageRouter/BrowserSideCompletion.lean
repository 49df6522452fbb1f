import CefCore.MessageRouter.BrowserSide

/-!
# Completion of queries in the Rust browser-side router

A query is complete when its failure task has run, when the success task of a query that is not
persistent has run, or when its handler has been told that it is canceled. From then on it should be
gone from the pending map, and nothing more should be sent or reported for it. `on_callback_failure`
retrieves a persistent query with `always_remove = false`, so that such a query stays in the map.

## Main results

* `completion_discipline_iff`: the router keeps to this in exactly the runs in which no failure task
  runs for a *persistent* query that is still pending.
-/

namespace CefCore.MessageRouter

open Std List Option BrowserInfoMap EventLog

/-! ### The invariant -/

def Open (g : Int → Int → Option BrowserSideQueryInfo) (q : Query) : Prop :=
  ∃ b k info, g b k = some info ∧ info.callback = some q

/-- Pending entries and callback objects agree: an entry belongs to a callback that still has
its router and carries the entry's ids, its query is not complete, and the log keeps to the
discipline. -/
structure Coherent (g : Int → Int → Option BrowserSideQueryInfo) (e : Effects) : Prop where
  entry : ∀ b k info, g b k = some info → ∃ q, info.callback = some q ∧
    e.callbacks[q]? = some ⟨true, b, k, info.isPersistent⟩
  incomplete : ∀ q, Open g q → ¬ Completed q e.log
  once : CompletedOnce e.log
  known : ∀ q, Completed q e.log → q < e.callbacks.length

section Coherent

variable {g : Int → Int → Option BrowserSideQueryInfo} {e : Effects} {q : Query}
  {b k : Int} {info : BrowserSideQueryInfo}

lemma Coherent.key_of_callback (h : Coherent g e) {c : BrowserSideRouterCallback}
    (hg : g b k = some info) (hq : info.callback = some q) (hc : e.callbacks[q]? = some c) :
    c = ⟨true, b, k, info.isPersistent⟩ := by
  obtain ⟨q', hq', hc'⟩ := h.entry b k info hg
  obtain rfl : q' = q := some.inj (hq'.symm.trans hq)
  exact some.inj (hc.symm.trans hc')

lemma Coherent.lookup_of_open (h : Coherent g e) {c : BrowserSideRouterCallback}
    (ho : Open g q) (hc : e.callbacks[q]? = some c) :
    c.router = true ∧ ∃ info, g c.browserId c.queryId = some info ∧ info.callback = some q ∧
      info.isPersistent = c.persistent := by
  obtain ⟨b, k, info, hg, hq⟩ := ho
  obtain rfl := h.key_of_callback hg hq hc
  exact ⟨rfl, info, hg, hq, rfl⟩

lemma Coherent.key_unique (h : Coherent g e) {b' k' : Int} {info' : BrowserSideQueryInfo}
    (hg : g b k = some info) (hq : info.callback = some q) (hg' : g b' k' = some info')
    (hq' : info'.callback = some q) : b' = b ∧ k' = k := by
  obtain ⟨r, hr, hc⟩ := h.entry b k info hg
  obtain rfl : r = q := some.inj (hr.symm.trans hq)
  have := h.key_of_callback hg' hq' hc
  simp only [BrowserSideRouterCallback.mk.injEq] at this
  exact ⟨this.2.1.symm, this.2.2.1.symm⟩

lemma Open.of_remove (ho : Open (Lookup.remove g b k) q) : Open g q := by
  obtain ⟨b', k', info, hg, hq⟩ := ho
  exact ⟨b', k', info, (Lookup.remove_eq_some.mp hg).2, hq⟩

section

variable (h : Coherent g e)
include h

lemma Coherent.not_open_remove (hg : g b k = some info)
    (hq : info.callback = some q) : ¬ Open (Lookup.remove g b k) q := by
  rintro ⟨b', k', info', hg', hq'⟩
  obtain ⟨hne, hg'⟩ := Lookup.remove_eq_some.mp hg'
  exact hne (h.key_unique hg hq hg' hq')

lemma Coherent.remove (b k : Int) : Coherent (Lookup.remove g b k) e where
  entry b' k' info hg := h.entry b' k' info (Lookup.remove_eq_some.mp hg).2
  incomplete q ho := h.incomplete q ho.of_remove
  once := h.once
  known := h.known

lemma Coherent.report {event : RouterEvent} (ht : ∀ q, event.Touches q → ¬ Completed q e.log)
    (hends : ∀ q, event.Ends q → ¬ Open g q ∧ q < e.callbacks.length) :
    Coherent g (e.report event) where
  entry := h.entry
  incomplete q ho hc := by
    rcases settled_cons.mp hc with hq | hc
    · exact (hends q hq).1 ho
    · exact h.incomplete q ho hc
  once := final_cons_iff.mpr ⟨ht, h.once⟩
  known q hc := by
    rcases settled_cons.mp hc with hq | hc
    · exact (hends q hq).2
    · exact h.known q hc

lemma Coherent.detach (hq : ¬ Open g q) : Coherent g (e.detach q) where
  entry b k info hg := by
    obtain ⟨q', hq', hc⟩ := h.entry b k info hg
    refine ⟨q', hq', ?_⟩
    have hne : q ≠ q' := by
      rintro rfl
      exact hq ⟨b, k, info, hg, hq'⟩
    simp [Effects.detach, hc, hne]
  incomplete := h.incomplete
  once := h.once
  known q hc := by simpa [Effects.detach] using h.known q hc

lemma Coherent.sendQueryFailure (hg : g b k = some info)
    (frame : Option Frame) (contextId requestId errorCode : Int) (errorMessage : String) :
    Coherent g (e.sendQueryFailure info.callback frame contextId requestId errorCode
      errorMessage) := by
  cases frame with
  | none => exact h
  | some frame =>
    refine h.report (fun q hq => h.incomplete q ⟨b, k, info, hg, hq⟩) ?_
    intro q hq
    exact hq.elim

lemma Coherent.sendQuerySuccess (hg : g b k = some info)
    (frame : Option Frame) (contextId requestId : Int) (builds : Bool) :
    Coherent g (e.sendQuerySuccess info.callback frame contextId requestId builds) := by
  cases frame with
  | none => exact h
  | some frame =>
    cases builds with
    | false => exact h
    | true =>
      refine h.report (fun q hq => h.incomplete q ⟨b, k, info, hg, hq⟩) ?_
      intro q hq
      exact hq.elim

lemma Coherent.cancelUnhandledQuery (frame : Option Frame)
    (contextId requestId : Int) : Coherent g (e.cancelUnhandledQuery frame contextId requestId) := by
  cases frame with
  | none => exact h
  | some frame =>
    refine h.report (fun q hq => ?_) fun q hq => hq.elim
    simp [RouterEvent.Touches] at hq

/-- Canceling an entry's query and taking the entry out keeps the invariant.

**Proof sketch.** The response touches a query that is still open. The cancellation touches it
as well and completes it, which is allowed once its entry is gone; the callback loses its router
after that. -/
lemma Coherent.cancelQuery (hg : g b k = some info) (notify : Bool) :
    Coherent (Lookup.remove g b k) (e.cancelQuery k info notify) := by
  obtain ⟨q, hq, hc⟩ := h.entry b k info hg
  have hopen : Open g q := ⟨b, k, info, hg, hq⟩
  have hgone := h.not_open_remove hg hq
  set e₁ := if notify then e.sendQueryFailure info.callback info.frame info.contextId
    info.requestId canceledErrorCode canceledErrorMessage else e with he₁
  have h₁ : Coherent g e₁ ∧ q < e₁.callbacks.length := by
    have hlt : q < e.callbacks.length := (List.getElem?_eq_some_iff.mp hc).1
    cases notify with
    | false => exact ⟨h, hlt⟩
    | true =>
      refine ⟨h.sendQueryFailure hg _ _ _ _ _, ?_⟩
      cases hf : info.frame <;> simpa [he₁, hf, Effects.sendQueryFailure, Effects.report] using hlt
  obtain ⟨h₁, hlt⟩ := h₁
  have h₂ : Coherent (Lookup.remove g b k) (info.handler.elim e₁ fun entry =>
      e₁.report (.onQueryCanceled info.callback entry.2 info.browser info.frame k)) := by
    cases info.handler with
    | none => exact h₁.remove b k
    | some entry =>
      refine (h₁.remove b k).report (fun q' hq' => ?_) fun q' hq' => ?_
      · obtain rfl : q = q' := some.inj (hq.symm.trans hq')
        exact h₁.incomplete q hopen
      · obtain rfl : q = q' := some.inj (hq.symm.trans hq')
        exact ⟨hgone, hlt⟩
  have h₃ := h₂.detach hgone
  simp only [he₁, hq] at h₃
  simp only [Effects.cancelQuery, hq]
  revert h₃
  cases info.handler <;> exact id

end

end Coherent

namespace BrowserSideRouter

/-! ### What each entry point keeps -/

def Inv (s : BrowserSideRouter) : Prop := Coherent s.browserQueryInfoMap.get? s.effects

variable {s : BrowserSideRouter}

variable {c : BrowserSideRouterCallback} {e : Effects} {g : Int → Int → Option BrowserSideQueryInfo}
  {q : Query}

lemma pending_iff_open : s.Pending q ↔ Open s.browserQueryInfoMap.get? q := by
  constructor
  · rintro ⟨⟨b, k, info⟩, he, hq⟩
    exact ⟨b, k, info, mem_entries.mp he, hq⟩
  · rintro ⟨b, k, info, hg, hq⟩
    exact ⟨(b, k, info), mem_entries.mpr hg, hq⟩

lemma new_inv : new.Inv where
  entry b k info h := by simp [new] at h
  incomplete q h := by
    obtain ⟨b, k, info, h, -⟩ := h
    simp [new] at h
  once := final_nil
  known q h := (settled_nil q h).elim

lemma cancelPendingVisitor_keeps (handlerId : Option Int) (notify : Bool)
    (g : Int → Int → Option BrowserSideQueryInfo) (e : Effects) (b k : Int)
    (info : BrowserSideQueryInfo) (h : Coherent g e) (hg : g b k = some info) :
    Coherent (if (cancelPendingVisitor handlerId notify b k info e).1.result = .removeEntry
        then Lookup.remove g b k else g) (cancelPendingVisitor handlerId notify b k info e).2 := by
  simp only [cancelPendingVisitor]
  split
  · exact h
  · exact h.cancelQuery hg notify

lemma cancelRequestVisitor_keeps (contextId requestId : Int)
    (g : Int → Int → Option BrowserSideQueryInfo) (e : Effects) (b k : Int)
    (info : BrowserSideQueryInfo) (h : Coherent g e) (hg : g b k = some info) :
    Coherent (if (cancelRequestVisitor contextId requestId b k info e).1.result = .removeEntry
        then Lookup.remove g b k else g)
      (cancelRequestVisitor contextId requestId b k info e).2 := by
  by_cases hm : info.contextId = contextId ∧ requestId = reservedId ∨ info.requestId = requestId
  · have hv : cancelRequestVisitor contextId requestId b k info e =
        (if requestId = reservedId then .cont .removeEntry else .brk .removeEntry,
          e.cancelQuery k info false) := if_pos hm
    have hres : (if requestId = reservedId then ControlFlow.cont .removeEntry
        else .brk .removeEntry).result = .removeEntry := by
      split <;> rfl
    simp only [hv, hres, if_true]
    exact h.cancelQuery hg false
  · have hv : cancelRequestVisitor contextId requestId b k info e = (.cont .keepEntry, e) :=
      if_neg hm
    simp only [hv]
    exact h

lemma cancelPendingFor_inv (h : s.Inv) (browser handlerId : Option Int) (notify : Bool) :
    (s.cancelPendingFor browser handlerId notify).Inv := by
  unfold cancelPendingFor
  split
  · exact h
  · cases browser with
    | some b =>
      exact findBrowserAll_rule h fun g e k info =>
        cancelPendingVisitor_keeps handlerId notify g e b k info
    | none => exact findAll_rule h (cancelPendingVisitor_keeps handlerId notify)

lemma cancelPendingRequest_inv (h : s.Inv) (browserId contextId requestId : Int) :
    (s.cancelPendingRequest browserId contextId requestId).Inv :=
  findBrowserAll_rule h fun g e k info =>
    cancelRequestVisitor_keeps contextId requestId g e browserId k info

lemma addHandler_inv (h : s.Inv) (handler : Handler) (first : Bool) :
    (s.addHandler handler first).2.Inv := by
  unfold addHandler
  split
  · exact h
  · split <;> exact h

lemma removeHandler_inv (h : s.Inv) (handlerId : Int) : (s.removeHandler handlerId).2.Inv := by
  unfold removeHandler
  split
  · exact h
  · split
    · exact h
    · split
      · rename_i index _ _ _ _ _
        have ht : BrowserSideRouter.Inv { s with handlers := trim { s.handlers with
            handlers := s.handlers.handlers.set index none } } := h
        exact cancelPendingFor_inv ht none (some handlerId) true
      · exact h

lemma offerQuery_coherent (answers : Nat → Bool) (offset queryId : Int) :
    ∀ (handlers : List (Option Handler)) (index : Nat) (e : Effects), Coherent g e →
      Coherent g { e with log := (offerQuery answers offset queryId index handlers e.log).2 }
  | [], _, _, h => h
  | none :: rest, index, e, h => offerQuery_coherent answers offset queryId rest (index + 1) e h
  | some handler :: rest, index, e, h => by
    have h' : Coherent g (e.report (.onQuery handler queryId)) :=
      h.report (fun q hq => hq.elim) fun q hq => hq.elim
    unfold offerQuery
    split
    · split
      · exact h'
      · exact offerQuery_coherent answers offset queryId rest (index + 1) _ h'
    · exact offerQuery_coherent answers offset queryId rest (index + 1) e h

lemma offerQuery_completed (answers : Nat → Bool) (offset queryId : Int) :
    ∀ (handlers : List (Option Handler)) (index : Nat) (log : List RouterEvent),
      Completed q (offerQuery answers offset queryId index handlers log).2 → Completed q log
  | [], _, _, h => h
  | none :: rest, index, log, h => offerQuery_completed answers offset queryId rest _ log h
  | some handler :: rest, index, log, h => by
    have hon : Completed q (.onQuery handler queryId :: log) → Completed q log := fun h =>
      (settled_cons.mp h).resolve_left id
    unfold offerQuery at h
    split at h
    · split at h
      · exact hon h
      · exact hon (offerQuery_completed answers offset queryId rest _ _ h)
    · exact offerQuery_completed answers offset queryId rest _ log h

lemma Coherent.newCallback (h : Coherent g e) (c : BrowserSideRouterCallback) :
    Coherent g { e with callbacks := e.callbacks ++ [c] } where
  entry b k info hg := by
    obtain ⟨q, hq, hc⟩ := h.entry b k info hg
    refine ⟨q, hq, ?_⟩
    rw [List.getElem?_append_left (List.getElem?_eq_some_iff.mp hc).1]
    exact hc
  incomplete := h.incomplete
  once := h.once
  known q hc := by
    have := h.known q hc
    rw [length_append]
    exact Nat.lt_succ_of_lt this

lemma Coherent.not_open_length (h : Coherent g e) : ¬ Open g e.callbacks.length := by
  rintro ⟨b, k, info, hg, hq⟩
  obtain ⟨q, hq', hc⟩ := h.entry b k info hg
  obtain rfl : q = e.callbacks.length := some.inj (hq'.symm.trans hq)
  exact absurd (List.getElem?_eq_some_iff.mp hc).1 (Nat.lt_irrefl _)

/-- **A query message** keeps the invariant.

**Proof sketch.** The new callback object is unknown to all entries and to the log. If a handler
accepts, the new entry belongs to it; otherwise the callback loses its router and the query is
answered without ever being accepted. -/
lemma onQueryMessage_inv (h : s.Inv) (browser : Option Int) (frame : Option Frame)
    (contextId requestId : Int) (isPersistent : Bool) (answers : Nat → Bool) :
    (s.onQueryMessage browser frame contextId requestId isPersistent answers).Inv := by
  unfold onQueryMessage
  split
  · rename_i browserId _
    set queryId := s.queryIdGenerator.next.1
    have h₁ := Coherent.newCallback h ⟨true, browserId, queryId, isPersistent⟩
    have h₂ := offerQuery_coherent answers s.handlers.offset queryId s.handlers.handlers 0 _ h₁
    have hfresh : ¬ Open s.browserQueryInfoMap.get? s.effects.callbacks.length :=
      Coherent.not_open_length h
    dsimp only
    split
    · rename_i handler _
      refine ⟨fun b k info hg => ?_, fun q ho => ?_, h₂.once, h₂.known⟩
      · rw [BrowserInfoMap.get?_insert] at hg
        split at hg
        · rename_i hbk
          obtain ⟨rfl, rfl⟩ := hbk
          cases hg
          exact ⟨_, rfl, by simp⟩
        · exact h₂.entry b k info hg
      · obtain ⟨b, k, info, hg, hq⟩ := ho
        rw [BrowserInfoMap.get?_insert] at hg
        split at hg
        · cases hg
          cases hq
          intro hc
          have hlog := offerQuery_completed answers s.handlers.offset queryId
            s.handlers.handlers 0 s.effects.log hc
          exact absurd (h.known _ hlog) (Nat.lt_irrefl _)
        · exact h₂.incomplete q ⟨b, k, info, hg, hq⟩
    · exact (h₂.detach hfresh).cancelUnhandledQuery frame contextId requestId
  · exact h.cancelUnhandledQuery frame contextId requestId

/-! ### The success and failure tasks -/

/-- The lookup after `get_query_info` without `always_remove`. -/
def lookupAfter (s : BrowserSideRouter) (b k : Int) : Int → Int → Option BrowserSideQueryInfo :=
  match s.browserQueryInfoMap.get? b k with
  | none => s.browserQueryInfoMap.get?
  | some info => if info.isPersistent then s.browserQueryInfoMap.get?
    else Lookup.remove s.browserQueryInfoMap.get? b k

lemma getQueryInfo_eq (s : BrowserSideRouter) (b k : Int) : ∃ m,
    s.getQueryInfo b k false = (s.browserQueryInfoMap.get? b k, { s with browserQueryInfoMap := m }) ∧
      m.get? = s.lookupAfter b k := by
  have h₁ := find_fst s.browserQueryInfoMap b k (some (queryInfoVisitor false)) ()
  have h₂ := BrowserInfoMap.get?_find s.browserQueryInfoMap b k (queryInfoVisitor false) ()
  unfold getQueryInfo
  rcases hfind : s.browserQueryInfoMap.find b k (some (queryInfoVisitor false)) () with
    ⟨found, m, u⟩
  rw [hfind] at h₁ h₂
  dsimp only at h₁ h₂ ⊢
  refine ⟨m, by rw [h₁], h₂.trans ?_⟩
  unfold lookupAfter
  cases s.browserQueryInfoMap.get? b k with
  | none => rfl
  | some info => cases hp : info.isPersistent <;> simp [queryInfoVisitor, hp, ControlFlow.result]

lemma Coherent.lookupAfter (h : Coherent s.browserQueryInfoMap.get? e) (b k : Int) :
    Coherent (s.lookupAfter b k) e := by
  unfold BrowserSideRouter.lookupAfter
  split
  · exact h
  · split
    · exact h
    · exact h.remove b k

lemma not_open_lookupAfter (h : s.Inv) (hc : s.effects.callbacks[q]? = some c)
    (hp : ∀ b k info, s.browserQueryInfoMap.get? b k = some info → info.callback = some q →
      info.isPersistent = false) : ¬ Open (s.lookupAfter c.browserId c.queryId) q := by
  intro ho
  have hopen : Open s.browserQueryInfoMap.get? q := by
    unfold lookupAfter at ho
    split at ho
    · exact ho
    · split at ho
      · exact ho
      · exact ho.of_remove
  obtain ⟨-, info, hg, hq, -⟩ := h.lookup_of_open hopen hc
  simp only [lookupAfter, hg, hp _ _ info hg hq] at ho
  exact h.not_open_remove hg hq ho

lemma onCallbackSuccess_inv (h : s.Inv) (b k : Int) (builds : Bool) :
    (s.onCallbackSuccess b k builds).Inv ∧
      (s.onCallbackSuccess b k builds).browserQueryInfoMap.get? = s.lookupAfter b k := by
  obtain ⟨m, hs, hm⟩ := s.getQueryInfo_eq b k
  unfold onCallbackSuccess
  rw [hs]
  cases hg : s.browserQueryInfoMap.get? b k with
  | none =>
    refine ⟨?_, hm⟩
    rw [Inv, hm]
    exact Coherent.lookupAfter h b k
  | some info =>
    refine ⟨?_, hm⟩
    rw [Inv, hm]
    exact Coherent.lookupAfter (h.sendQuerySuccess hg _ _ _ _) b k

lemma onCallbackFailure_inv (h : s.Inv) (b k errorCode : Int) (errorMessage : String) :
    (s.onCallbackFailure b k errorCode errorMessage).Inv ∧
      (s.onCallbackFailure b k errorCode errorMessage).browserQueryInfoMap.get? =
        s.lookupAfter b k := by
  obtain ⟨m, hs, hm⟩ := s.getQueryInfo_eq b k
  unfold onCallbackFailure
  rw [hs]
  cases hg : s.browserQueryInfoMap.get? b k with
  | none =>
    refine ⟨?_, hm⟩
    rw [Inv, hm]
    exact Coherent.lookupAfter h b k
  | some info =>
    refine ⟨?_, hm⟩
    rw [Inv, hm]
    exact Coherent.lookupAfter (h.sendQueryFailure hg _ _ _ _ _) b k

section

variable (s : BrowserSideRouter)

def detach (q : Query) : BrowserSideRouter :=
  { s with effects := s.effects.detach q }

lemma onCallbackSuccess_detach (q : Query) (b k : Int) (builds : Bool) :
    (s.detach q).onCallbackSuccess b k builds = (s.onCallbackSuccess b k builds).detach q := by
  unfold onCallbackSuccess getQueryInfo detach
  rcases s.browserQueryInfoMap.find b k (some (queryInfoVisitor false)) () with ⟨found, m, u⟩
  cases found with
  | none => rfl
  | some info =>
    cases hf : info.frame with
    | none => simp [Effects.sendQuerySuccess, hf]
    | some frame => cases builds <;> simp [Effects.sendQuerySuccess, hf, Effects.report,
        Effects.detach]

lemma onCallbackFailure_detach (q : Query) (b k errorCode : Int)
    (errorMessage : String) : (s.detach q).onCallbackFailure b k errorCode errorMessage =
      (s.onCallbackFailure b k errorCode errorMessage).detach q := by
  unfold onCallbackFailure getQueryInfo detach
  rcases s.browserQueryInfoMap.find b k (some (queryInfoVisitor false)) () with ⟨found, m, u⟩
  cases found with
  | none => rfl
  | some info =>
    cases hf : info.frame <;> simp [Effects.sendQueryFailure, hf, Effects.report, Effects.detach]

lemma onCallbackSuccess_length (b k : Int) (builds : Bool) :
    (s.onCallbackSuccess b k builds).effects.callbacks.length = s.effects.callbacks.length := by
  obtain ⟨m, hs, -⟩ := s.getQueryInfo_eq b k
  unfold onCallbackSuccess
  rw [hs]
  cases s.browserQueryInfoMap.get? b k with
  | none => rfl
  | some info =>
    cases hf : info.frame with
    | none => simp [Effects.sendQuerySuccess, hf]
    | some frame => cases builds <;> simp [Effects.sendQuerySuccess, hf, Effects.report]

lemma onCallbackFailure_length (b k errorCode : Int) (errorMessage : String) :
    (s.onCallbackFailure b k errorCode errorMessage).effects.callbacks.length =
      s.effects.callbacks.length := by
  obtain ⟨m, hs, -⟩ := s.getQueryInfo_eq b k
  unfold onCallbackFailure
  rw [hs]
  cases s.browserQueryInfoMap.get? b k with
  | none => rfl
  | some info => cases hf : info.frame <;> simp [Effects.sendQueryFailure, hf, Effects.report]

/-- The invariant together with the fact that a query has no entry any more: what the tasks
establish before they are noted as run. -/
def Closed (q : Query) : Prop :=
  s.Inv ∧ ¬ Open s.browserQueryInfoMap.get? q ∧ q < s.effects.callbacks.length

end

lemma Closed.report (h : s.Closed q) {event : RouterEvent}
    (ht : ∀ q', ¬ event.Touches q') (hends : ∀ q', event.Ends q' → q' = q) :
    (s.report event).Inv := by
  obtain ⟨h, hq, hlt⟩ := h
  refine Coherent.report h (fun q' hq' => (ht q' hq').elim) fun q' hq' => ?_
  obtain rfl := hends q' hq'
  exact ⟨hq, hlt⟩

lemma Closed.detach (h : s.Closed q) : (s.detach q).Closed q := by
  obtain ⟨h, hq, hlt⟩ := h
  refine ⟨Coherent.detach h hq, hq, ?_⟩
  simpa [BrowserSideRouter.detach, Effects.detach] using hlt

/-- **The success task** closes a query that is not persistent.

**Proof sketch.** If the callback still has its router, an entry of the query is at the callback's
ids and is not persistent, so that `on_callback_success` takes it out; otherwise the query has no
entry. -/
lemma executeSuccess_inv (h : s.Inv) (hc : s.effects.callbacks[q]? = some c) (held builds : Bool) :
    (s.executeSuccess q held builds).Inv ∧
      (c.persistent = false → (s.executeSuccess q held builds).Closed q) := by
  have hlt : q < s.effects.callbacks.length := (List.getElem?_eq_some_iff.mp hc).1
  have hlen := s.onCallbackSuccess_length c.browserId c.queryId builds
  have hpers : c.persistent = false → ∀ b k info, s.browserQueryInfoMap.get? b k = some info →
      info.callback = some q → info.isPersistent = false := by
    intro hp b k info hg hq
    rw [h.key_of_callback hg hq hc] at hp
    exact hp
  have hrouter : c.router = false → ¬ Open s.browserQueryInfoMap.get? q := by
    intro hr ho
    rw [(h.lookup_of_open ho hc).1] at hr
    exact Bool.noConfusion hr
  obtain ⟨hinv, hmap⟩ := onCallbackSuccess_inv h c.browserId c.queryId builds
  simp only [executeSuccess, hc]
  split
  · cases hp : c.persistent with
    | true =>
      refine ⟨?_, Bool.noConfusion⟩
      cases c.router with
      | true => exact hinv
      | false => exact h
    | false =>
      have hcl : (if c.router then (s.detach q).onCallbackSuccess c.browserId c.queryId builds
          else s.detach q).Closed q := by
        cases hr : c.router with
        | true =>
          have hno := not_open_lookupAfter h hc (hpers hp)
          rw [if_pos rfl, onCallbackSuccess_detach]
          exact Closed.detach ⟨hinv, hmap ▸ hno, hlen ▸ hlt⟩
        | false => exact Closed.detach ⟨h, hrouter hr, hlt⟩
      exact ⟨hcl.1, fun _ => hcl⟩
  · rename_i hheld
    refine ⟨h, fun _ => ⟨h, fun ho => ?_, hlt⟩⟩
    exact hheld (.inr (pending_iff_open.mpr ho))

lemma executeFailure_closed (h : s.Inv)
    (hc : s.effects.callbacks[q]? = some c) (held : Bool) (errorCode : Int) (errorMessage : String)
    (hpers : ∀ b k info, s.browserQueryInfoMap.get? b k = some info →
      info.callback = some q → info.isPersistent = false) :
    (s.executeFailure q held errorCode errorMessage).Closed q := by
  have hlt : q < s.effects.callbacks.length := (List.getElem?_eq_some_iff.mp hc).1
  have hlen := s.onCallbackFailure_length c.browserId c.queryId errorCode errorMessage
  obtain ⟨hinv, hmap⟩ := onCallbackFailure_inv h c.browserId c.queryId errorCode errorMessage
  simp only [executeFailure, hc]
  split
  · cases hr : c.router with
    | true =>
      have hno := not_open_lookupAfter h hc hpers
      have := onCallbackFailure_detach s q c.browserId c.queryId errorCode errorMessage
      rw [detach] at this
      rw [if_pos rfl, this]
      exact Closed.detach ⟨hinv, hmap ▸ hno, hlen ▸ hlt⟩
    | false =>
      refine Closed.detach ⟨h, fun ho => ?_, hlt⟩
      rw [(h.lookup_of_open ho hc).1] at hr
      exact Bool.noConfusion hr
  · rename_i hheld
    exact ⟨h, fun ho => hheld (.inr (pending_iff_open.mpr ho)), hlt⟩

/-! ### Runs -/

/-- The condition on a step: a failure task runs for no persistent query that is pending. -/
def FailureRemoves (s : BrowserSideRouter) : Action → Prop
  | .failureTask q _ _ _ =>
    ∀ e ∈ s.browserQueryInfoMap.entries, e.2.2.callback = some q → e.2.2.isPersistent = false
  | _ => True

instance (s : BrowserSideRouter) (a : Action) : Decidable (s.FailureRemoves a) :=
  match a with
  | .failureTask q _ _ _ => inferInstanceAs (Decidable (∀ e ∈ s.browserQueryInfoMap.entries,
      e.2.2.callback = some q → e.2.2.isPersistent = false))
  | .addHandler .. | .removeHandler .. | .cancelPending .. | .cancelPendingForTask ..
  | .onBeforeClose .. | .onRenderProcessTerminated .. | .onBeforeBrowse .. | .queryMessage ..
  | .cancelMessage .. | .successTask .. => isTrue trivial

/-- **One step**: the invariant survives every entry point and task that meets the condition. -/
theorem step_inv (h : s.Inv) (a : Action) (ha : s.FailureRemoves a) : (s.step a).Inv := by
  cases a with
  | addHandler handler first => exact addHandler_inv h handler first
  | removeHandler handlerId => exact removeHandler_inv h handlerId
  | cancelPending browser handlerId => exact cancelPendingFor_inv h _ _ _
  | cancelPendingForTask browser handlerId notify => exact cancelPendingFor_inv h _ _ _
  | onBeforeClose browser => exact cancelPendingFor_inv h _ _ _
  | onRenderProcessTerminated browser => exact cancelPendingFor_inv h _ _ _
  | onBeforeBrowse browser frame =>
    simp only [step, onBeforeBrowse]
    split
    · exact cancelPendingFor_inv h _ _ _
    · exact h
  | queryMessage browser frame contextId requestId isPersistent answers =>
    exact onQueryMessage_inv h browser frame contextId requestId isPersistent answers
  | cancelMessage browser contextId requestId =>
    cases browser with
    | none => exact h
    | some browser => exact cancelPendingRequest_inv h browser contextId requestId
  | successTask q held builds =>
    cases hc : s.effects.callbacks[q]? with
    | none => simpa [step, hc] using h
    | some c =>
      obtain ⟨hinv, hclosed⟩ := executeSuccess_inv h hc held builds
      simp only [step, hc]
      cases hp : c.persistent with
      | true =>
        refine Coherent.report hinv (fun q' hq' => hq'.elim) fun q' hq' => ?_
        exact Bool.noConfusion hq'.2
      | false => exact (hclosed hp).report (fun _ => id) fun q' hq' => hq'.1.symm
  | failureTask q held errorCode errorMessage =>
    cases hc : s.effects.callbacks[q]? with
    | none => simpa [step, hc] using h
    | some c =>
      simp only [step, hc]
      have hclosed := executeFailure_closed h hc held errorCode errorMessage fun b k info hg =>
        ha (b, k, info) (mem_entries.mpr hg)
      exact hclosed.report (fun _ => id) fun q' hq' => hq'.symm

def pendingQueries (s : BrowserSideRouter) : Option Int → List BrowserSideQueryInfo
  | some browser => (s.browserQueryInfoMap.browserEntries browser).map fun e => e.2
  | none => s.browserQueryInfoMap.entries.map fun e => e.2.2

/-- The pending queries that `pending_count` counts. -/
def counted (s : BrowserSideRouter) (browser handlerId : Option Int) : List BrowserSideQueryInfo :=
  match (handlerId.bind s.handlers.lookup).map (·.1) with
  | some handlerId =>
    (s.pendingQueries browser).filter fun info => info.handler.map (·.1) = some handlerId
  | none => s.pendingQueries browser

private lemma foldl_count {α : Type} (info : α → BrowserSideQueryInfo) (handlerId : Int) :
    ∀ (l : List α) (n : Nat), l.foldl (fun n a =>
        if (info a).handler.map (·.1) = some handlerId then n + 1 else n) n =
      n + ((l.map info).filter fun i => i.handler.map (·.1) = some handlerId).length
  | [], n => rfl
  | a :: l, n => by
    rw [foldl_cons, foldl_count info handlerId l]
    by_cases hp : (info a).handler.map (·.1) = some handlerId
    · simp [hp, Nat.add_assoc, Nat.add_comm]
    · simp [hp]

lemma pendingCount_eq (s : BrowserSideRouter) (browser handlerId : Option Int) :
    s.pendingCount browser handlerId = (s.counted browser handlerId).length := by
  have hkeep : ∀ i b k v n, (countVisitor i b k v n).1 = .cont .keepEntry :=
    fun _ _ _ _ _ => rfl
  unfold pendingCount counted
  split
  · rename_i hempty
    have hnil : s.pendingQueries browser = [] := by
      cases browser <;>
        simp [pendingQueries, entries_of_isEmpty hempty, browserEntries_of_isEmpty hempty]
    rw [hnil]
    split <;> rfl
  · cases (handlerId.bind s.handlers.lookup).map (·.1) with
    | none =>
      cases browser with
      | none => simp [pendingQueries, length_entries]
      | some b => simp [pendingQueries, length_browserEntries]
    | some i =>
      cases browser with
      | none =>
        dsimp only
        rw [findAll_watch (hkeep i)]
        exact (foldl_count (fun e : Int × Int × BrowserSideQueryInfo => e.2.2) i _ 0).trans
          (Nat.zero_add _)
      | some b =>
        dsimp only
        rw [findBrowserAll_watch (hkeep i)]
        exact (foldl_count (fun e : Int × BrowserSideQueryInfo => e.2) i _ 0).trans
          (Nat.zero_add _)

lemma pending_of_counted {browser handlerId : Option Int} {info : BrowserSideQueryInfo}
    (h : info ∈ s.counted browser handlerId) (hq : info.callback = some q) : s.Pending q := by
  have hmem : info ∈ s.pendingQueries browser := by
    unfold counted at h
    split at h
    · exact mem_of_mem_filter h
    · exact h
  cases browser with
  | none =>
    obtain ⟨e, he, rfl⟩ := mem_map.mp hmem
    exact ⟨e, he, hq⟩
  | some b =>
    obtain ⟨⟨k, i⟩, he, rfl⟩ := mem_map.mp hmem
    have hg := mem_browserEntries.mp he
    exact ⟨(b, k, i), mem_entries.mpr hg, hq⟩

/-- A query that has been completed is no longer in the map, it is not among the queries that
`pending_count` counts, and nothing has been sent or reported for it after its completion. -/
structure CompletionDiscipline (s : BrowserSideRouter) : Prop where
  once : CompletedOnce s.effects.log
  removed : ∀ q, Completed q s.effects.log → ¬ s.Pending q
  count : ∀ browser handlerId,
    s.pendingCount browser handlerId = (s.counted browser handlerId).length
  uncounted : ∀ q, Completed q s.effects.log → ∀ browser handlerId,
    ∀ info ∈ s.counted browser handlerId, info.callback ≠ some q

lemma Inv.completionDiscipline (h : s.Inv) : s.CompletionDiscipline where
  once := h.once
  removed q hc hp := h.incomplete q (pending_iff_open.mp hp) hc
  count := s.pendingCount_eq
  uncounted q hc _ _ _ hi hq :=
    h.incomplete q (pending_iff_open.mp (pending_of_counted hi hq)) hc

/-- A failure task for a persistent query that is pending breaks the discipline.

**Proof sketch.** The task does find the query. The entry is persistent, so that it stays in the
map, while the task is noted as run. -/
lemma not_discipline_of_failure (h : s.Inv) {a : Action} (ha : ¬ s.FailureRemoves a) :
    ¬ (s.step a).CompletionDiscipline := by
  cases a with
  | failureTask q held errorCode errorMessage =>
    simp only [FailureRemoves, not_forall] at ha
    obtain ⟨⟨b, k, info⟩, he, hq, hp⟩ := ha
    have hg := mem_entries.mp he
    obtain ⟨q', hq', hc⟩ := h.entry b k info hg
    obtain rfl : q' = q := some.inj (hq'.symm.trans hq)
    obtain ⟨-, hmap⟩ := onCallbackFailure_inv h b k errorCode errorMessage
    have hafter : s.lookupAfter b k = s.browserQueryInfoMap.get? := by
      simp only [lookupAfter, hg]
      rw [if_pos (by simpa using hp)]
    have hstep : s.step (.failureTask q' held errorCode errorMessage) =
        ((s.onCallbackFailure b k errorCode errorMessage).detach q').report (.failureRan q') := by
      have hpend : s.Pending q' := ⟨(b, k, info), he, hq⟩
      simp only [step, hc, executeFailure, hpend, or_true, if_true]
      rw [← onCallbackFailure_detach]
      rfl
    intro hd
    rw [hstep] at hd
    refine hd.removed q' (settled_cons.mpr (.inl rfl)) (pending_iff_open.mpr ?_)
    refine ⟨b, k, info, ?_, hq⟩
    show (s.onCallbackFailure b k errorCode errorMessage).browserQueryInfoMap.get? b k = some info
    rw [hmap, hafter, hg]
  | _ => exact absurd trivial ha

/-- **Completion discipline of the router**: it holds in every state of a run exactly when no
failure task of the run is for a persistent query that is pending at that point.

**Proof sketch.** Induction on the run. A step that meets the condition keeps the invariant, which
implies the discipline; a step that does not breaks the discipline at once. -/
theorem completion_discipline_iff (acts : List Action) :
    (∀ done, done <+: acts → (done.foldl step new).CompletionDiscipline) ↔
      Transition.Along (fun s a => some (s.step a)) FailureRemoves new acts := by
  suffices ∀ acts s, s.Inv →
      ((∀ done, done <+: acts → (done.foldl step s).CompletionDiscipline) ↔
        Transition.Along (fun s a => some (s.step a)) FailureRemoves s acts) from
    this acts new new_inv
  intro acts
  induction acts with
  | nil =>
    intro s h
    refine ⟨fun _ => trivial, fun _ done hd => ?_⟩
    obtain rfl := prefix_nil.mp hd
    exact h.completionDiscipline
  | cons a acts ih =>
    intro s h
    constructor
    · intro hall
      by_cases ha : s.FailureRemoves a
      · refine ⟨ha, (ih _ (step_inv h a ha)).mp fun done hd => ?_⟩
        exact hall (a :: done) (cons_prefix_cons.mpr ⟨rfl, hd⟩)
      · have := hall [a] (cons_prefix_cons.mpr ⟨rfl, nil_prefix⟩)
        exact absurd this (not_discipline_of_failure h ha)
    · rintro ⟨ha, hrest⟩ done hd
      cases done with
      | nil => exact h.completionDiscipline
      | cons a' done =>
        obtain ⟨rfl, hdone⟩ := cons_prefix_cons.mp hd
        exact (ih _ (step_inv h a' ha)).mpr hrest done hdone

def persistentFailure : List Action :=
  [.addHandler 7 false, .queryMessage (some 1) (some ⟨1, true⟩) 1 1 true (fun _ => true),
    .failureTask 0 false 5 "no"]

/-- A persistent query that its handler has failed is still pending and still counted, and
`remove_handler` answers and cancels it a second time. -/
theorem persistent_failure_stays_pending :
    ¬ (persistentFailure.foldl step new).CompletionDiscipline ∧
      Completed 0 (persistentFailure.foldl step new).effects.log ∧
      (persistentFailure.foldl step new).Pending 0 ∧
      (persistentFailure.foldl step new).pendingCount none none = 1 ∧
      ((persistentFailure ++ [Action.removeHandler 0]).foldl step new).effects.log =
        [.onQueryCanceled (some 0) 7 (some 1) (some ⟨1, true⟩) 1,
          .queryFailure (some 0) ⟨1, true⟩ 1 1 (-1) "The query has been canceled",
          .failureRan 0, .queryFailure (some 0) ⟨1, true⟩ 1 1 5 "no", .onQuery 7 1] := by
  have hc : Completed 0 (persistentFailure.foldl step new).effects.log := by decide
  have hp : (persistentFailure.foldl step new).Pending 0 := by decide
  exact ⟨fun h => h.removed 0 hc hp, hc, hp, by decide, by decide⟩

end BrowserSideRouter

end CefCore.MessageRouter
