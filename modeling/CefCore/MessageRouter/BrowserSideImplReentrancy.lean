import CefCore.MessageRouter.BrowserSideImpl

/-!
# Handlers that call back into the C++ browser-side router

`CefMessageRouterBrowserSideImpl` of `libcef_dll/wrapper/cef_message_router.cc` with handlers that
call the router again, on the UI thread, while it waits for their `OnQuery` or `OnQueryCanceled` to
return. The router takes no lock. A cancellation walks the pending queries with iterators, and is in
the middle of its walk while a handler runs; a query message asks a copy of the handler list.

## Main definitions

* `ReentrantRouter.step`: a call of a handler, or its return.

## Implementation notes

The handlers are not modelled: the innermost handler that is running may make any call, and return
at any time. So a run of `step` is one order of calls and returns on the UI thread, and a theorem
about all runs is about all handlers.

The iterators of a walk are kept as the two ids they point to. Nothing is added to the map while a
walk is going on, so that the iterators are valid as long as there is an entry with these ids, and
the next entry is the one with the next ids. A run ends when an object or an entry is used that is
gone, as nothing is known about what C++ does then.
-/

namespace CefCore.MessageRouter

open Std List Option CefBrowserInfoMap BrowserInfoMap

namespace CefBrowserInfoMap

variable {K V : Type} {cmp : K → K → Ordering}

/-- `erase` through the iterators of a walk, with the inner map if it gets empty: `none` if the entry
they point to is gone. -/
def eraseAt (m : BrowserInfoMap K V cmp) (browserId : Int) (infoId : K) :
    Option (BrowserInfoMap K V cmp) :=
  match m.map[browserId]? with
  | none => none
  | some infoMap =>
    match infoMap[infoId]? with
    | none => none
    | some _ => some ⟨BrowserInfoMap.putBack m.map browserId (infoMap.erase infoId)⟩

/-- The entry with these ids comes after the position of a walk. -/
def IsAhead (position : Option (Int × Int)) (browserId infoId : Int) : Prop :=
  ∀ p ∈ position, p.1 < browserId ∨ p.1 = browserId ∧ p.2 < infoId

instance (position : Option (Int × Int)) (browserId infoId : Int) :
    Decidable (IsAhead position browserId infoId) :=
  inferInstanceAs (Decidable (∀ p ∈ position, p.1 < browserId ∨ p.1 = browserId ∧ p.2 < infoId))

/-- The entries that a walk has still to visit: those of its browser, or of all browsers, that come
after its position. -/
def ahead (m : BrowserInfoMap Int V compare) (browser : Option Int) (position : Option (Int × Int)) :
    List (Int × Int × V) :=
  m.entries.filter fun e => (browser = none ∨ browser = some e.1) ∧ IsAhead position e.1 e.2.1

lemma mem_ahead {m : BrowserInfoMap Int V compare} {browser : Option Int}
    {position : Option (Int × Int)} {e : Int × Int × V} : e ∈ ahead m browser position ↔
      m.get? e.1 e.2.1 = some e.2.2 ∧ (browser = none ∨ browser = some e.1) ∧
        IsAhead position e.1 e.2.1 := by
  rw [ahead, mem_filter, decide_eq_true_eq]
  exact and_congr_left fun _ => mem_entries

lemma pairwise_ahead (m : BrowserInfoMap Int V compare) (browser : Option Int)
    (position : Option (Int × Int)) :
    (ahead m browser position).Pairwise fun e e' => e.1 < e'.1 ∨ e.1 = e'.1 ∧ e.2.1 < e'.2.1 := by
  refine List.Pairwise.filter _ (pairwise_flatMap.mpr ⟨fun e _ => ?_, ?_⟩)
  · rw [pairwise_map]
    exact e.2.ordered_keys_toList.imp fun h => .inr ⟨rfl, Int.compare_eq_lt.mp h⟩
  · refine m.map.ordered_keys_toList.imp fun {e e'} h x hx y hy => .inl ?_
    obtain ⟨_, _, rfl⟩ := mem_map.mp hx
    obtain ⟨_, _, rfl⟩ := mem_map.mp hy
    exact Int.compare_eq_lt.mp h

section EraseAt

variable [TransCmp cmp] [LawfulEqCmp cmp] [DecidableEq K] {m m' : BrowserInfoMap K V cmp} {b : Int}
  {k : K}

lemma get?_eraseAt (h : eraseAt m b k = some m') : m'.get? = Lookup.remove m.get? b k := by
  unfold eraseAt at h
  split at h
  · simp at h
  · rename_i im him
    split at h
    · simp at h
    · cases h
      exact BrowserInfoMap.get?_putBack_foldl_erase him [k]

omit [TransCmp cmp] [LawfulEqCmp cmp] [DecidableEq K] in
lemma exists_eraseAt {v : V} (h : m.get? b k = some v) : ∃ m', eraseAt m b k = some m' := by
  unfold eraseAt
  obtain ⟨im, him, hk⟩ := bind_eq_some_iff.mp h
  rw [him]
  dsimp only
  rw [hk]
  exact ⟨_, rfl⟩

end EraseAt

end CefBrowserInfoMap

/-! ### The calls that wait for a handler -/

/-- The visitors of `CancelPendingFor` and `CancelPendingRequest`. -/
inductive CancelVisitor where
  | pendingFor (handler : Option Handler) (notifyRenderer : Bool)
  | request (contextId requestId : Int)

namespace CancelVisitor

def Wants : CancelVisitor → QueryInfo → Prop
  | .pendingFor handler _, i => handler = none ∨ handler = some i.handler
  | .request contextId requestId, i =>
    i.contextId = contextId ∧ (requestId = reservedId ∨ i.requestId = requestId)

instance (visitor : CancelVisitor) (i : QueryInfo) : Decidable (visitor.Wants i) :=
  match visitor with
  | .pendingFor _ _ => inferInstanceAs (Decidable (_ ∨ _))
  | .request _ _ => inferInstanceAs (Decidable (_ ∧ _))

def notifyRenderer : CancelVisitor → Bool
  | .pendingFor _ notifyRenderer => notifyRenderer
  | .request _ _ => false

/-- What `OnNextInfo` returns after a cancellation. -/
def keepGoing : CancelVisitor → Bool
  | .pendingFor _ _ => true
  -- stop iterating if only canceling a single request
  | .request _ requestId => requestId = reservedId

end CancelVisitor

/-- A call of `CancelPendingFor` or `CancelPendingRequest`: the browser that `FindAll` is restricted
to, the visitor, and the handler to be removed if `RemoveHandler` has made the call. -/
structure Cancellation where
  browser : Option Int
  visitor : CancelVisitor
  removing : Option Handler

/-- The walk cancels a query of the browser when it comes to it. -/
def Cancellation.Covers (c : Cancellation) (browserId : Int) (i : QueryInfo) : Prop :=
  (c.browser = none ∨ c.browser = some browserId) ∧ c.visitor.Wants i

instance (c : Cancellation) (browserId : Int) (i : QueryInfo) : Decidable (c.Covers browserId i) :=
  inferInstanceAs (Decidable (_ ∧ _))

/-- A cancellation that waits for `OnQueryCanceled`: the ids that `it_browser` and `it_info` point to,
and `info`. -/
structure CancelWalk extends Cancellation where
  browserId : Int
  queryId : Int
  info : QueryInfoPtr

/-- A query message that waits for `OnQuery`: the query, the handler that is asked, and the rest of
the copy of the handler list. Its callback object is not seen by anyone else yet. -/
structure Offer where
  browser : Int
  frame : Frame
  contextId : Int
  requestId : Int
  persistent : Bool
  queryId : Int
  handler : Handler
  rest : List Handler

inductive HandlerEvent where
  /-- `AddHandler` has added the handler. -/
  | added (handler : Handler)
  /-- `RemoveHandler` has returned true, and the handler has not been added again meanwhile. -/
  | removed (handler : Handler)
  /-- `OnQuery` or `OnQueryCanceled` is called. -/
  | called (handler : Handler)
  deriving DecidableEq

/-- What a visitor comes to among the entries ahead of it: a query to cancel, an entry whose object
is gone, or nothing. -/
inductive Visited where
  | query (browserId queryId : Int) (info : QueryInfoPtr) (value : QueryInfo)
  | stale
  | nothing

def CancelVisitor.seek (visitor : CancelVisitor) (infos : ObjectStore QueryInfo) :
    List (Int × Int × QueryInfoPtr) → Visited
  | [] => .nothing
  | (browserId, queryId, info) :: rest =>
    match infos.read info with
    | none => .stale
    | some i => if visitor.Wants i then .query browserId queryId info i else visitor.seek infos rest

section Seek

variable {visitor : CancelVisitor} {infos : ObjectStore QueryInfo}
  {entries : List (Int × Int × QueryInfoPtr)}

lemma CancelVisitor.seek_eq_query {b k : Int} {p : QueryInfoPtr} {i : QueryInfo}
    (h : visitor.seek infos entries = .query b k p i) :
    ∃ before after, entries = before ++ (b, k, p) :: after ∧ infos.read p = some i ∧
      visitor.Wants i ∧ ∀ e ∈ before, ∃ j, infos.read e.2.2 = some j ∧ ¬ visitor.Wants j := by
  induction entries with
  | nil => simp [seek] at h
  | cons e rest ih =>
    obtain ⟨b', k', p'⟩ := e
    unfold seek at h
    split at h
    · simp at h
    · rename_i j hj
      split at h
      · rename_i hwants
        simp only [Visited.query.injEq] at h
        obtain ⟨rfl, rfl, rfl, rfl⟩ := h
        exact ⟨[], rest, rfl, hj, hwants, by simp⟩
      · rename_i hwants
        obtain ⟨before, after, rfl, hread, hi, hbefore⟩ := ih h
        refine ⟨_ :: before, after, rfl, hread, hi, fun e he => ?_⟩
        rcases mem_cons.mp he with rfl | he
        · exact ⟨j, hj, hwants⟩
        · exact hbefore e he

/-- What a walk knows of the query it comes to and of the entries before it.

**Proof sketch.** The entries ahead are in the order of their ids, so that the entries with smaller
ids are among those that the visitor has passed. -/
lemma CancelVisitor.seek_ahead {m : BrowserInfoMap Int QueryInfoPtr compare} {browser : Option Int}
    {position : Option (Int × Int)} {b k : Int} {p : QueryInfoPtr} {i : QueryInfo}
    (h : visitor.seek infos (CefBrowserInfoMap.ahead m browser position) = .query b k p i) :
    (m.get? b k = some p ∧ infos.read p = some i ∧ (browser = none ∨ browser = some b) ∧
      visitor.Wants i) ∧
    ∀ b' k' p', m.get? b' k' = some p' → (browser = none ∨ browser = some b') →
      CefBrowserInfoMap.IsAhead position b' k' → ¬ CefBrowserInfoMap.IsAhead (some (b, k)) b' k' →
      (b, k) ≠ (b', k') → ∃ j, infos.read p' = some j ∧ ¬ visitor.Wants j := by
  obtain ⟨before, after, heq, hr, hwants, hbefore⟩ := seek_eq_query h
  have hsorted := pairwise_ahead m browser position
  rw [heq, pairwise_append, pairwise_cons] at hsorted
  have hmem : (b, k, p) ∈ CefBrowserInfoMap.ahead m browser position := by simp [heq]
  obtain ⟨hg, hbrowser, -⟩ := mem_ahead.mp hmem
  refine ⟨⟨hg, hr, hbrowser, hwants⟩, fun b' k' p' hg' hbrowser' hahead hbehind hne => ?_⟩
  have hmem' : (b', k', p') ∈ before ++ (b, k, p) :: after := by
    rw [← heq]
    exact mem_ahead.mpr ⟨hg', hbrowser', hahead⟩
  rcases mem_append.mp hmem' with hmem' | hmem'
  · exact hbefore _ hmem'
  · rcases mem_cons.mp hmem' with heq' | hmem'
    · simp only [Prod.mk.injEq] at heq'
      exact (hne (by rw [heq'.1, heq'.2.1])).elim
    · refine (hbehind fun q hq => ?_).elim
      cases hq
      exact hsorted.2.1.1 _ hmem'

lemma CancelVisitor.seek_eq_nothing (h : visitor.seek infos entries = .nothing) :
    ∀ e ∈ entries, ∃ j, infos.read e.2.2 = some j ∧ ¬ visitor.Wants j := by
  induction entries with
  | nil => simp
  | cons e rest ih =>
    unfold seek at h
    split at h
    · simp at h
    · rename_i j hj
      split at h
      · simp at h
      · rename_i hwants
        intro e' he'
        rcases mem_cons.mp he' with rfl | he'
        · exact ⟨j, hj, hwants⟩
        · exact ih h e' he'

lemma CancelVisitor.seek_ne_stale (hlive : ∀ e ∈ entries, ∃ i, infos.read e.2.2 = some i) :
    visitor.seek infos entries ≠ .stale := by
  induction entries with
  | nil => simp [seek]
  | cons e rest ih =>
    obtain ⟨i, hi⟩ := hlive e mem_cons_self
    unfold seek
    rw [hi]
    dsimp only
    split
    · simp
    · exact ih fun e he => hlive e (mem_cons_of_mem _ he)

end Seek

namespace BrowserSideImpl

variable {α : Type}

/-- The visitor of `GetPendingCount`, with `count_`. -/
def pendingCountVisitor (handler : Handler) : Visitor (Memory × Nat) Int QueryInfoPtr :=
  fun _ _ info (mem, count) =>
    match mem.infos.read info with
    | some i => (.cont .keepEntry, mem, if i.handler = handler then count + 1 else count)
    | none => (.cont .keepEntry, { mem with infos := mem.infos.fail }, count)

def getPendingCount (s : BrowserSideImpl) (browser : Option Int) (handler : Option Handler) :
    Nat × BrowserSideImpl :=
  if s.browserQueryInfoMap.isEmpty then (0, s)
  else match handler, browser with
    | some handler, some browser =>
      let (_, mem, count) := CefBrowserInfoMap.findAllIn s.browserQueryInfoMap browser
        (pendingCountVisitor handler) (s.memory, 0)
      (count, { s with memory := mem })
    | some handler, none =>
      let (_, mem, count) := CefBrowserInfoMap.findAll s.browserQueryInfoMap
        (pendingCountVisitor handler) (s.memory, 0)
      (count, { s with memory := mem })
    | none, some browser => (s.browserQueryInfoMap.browserLen browser, s)
    | none, none => (CefBrowserInfoMap.size s.browserQueryInfoMap, s)

lemma foldl_pendingCountVisitor (handler : Handler) (b : α → Int) (k : α → Int)
    (p : α → QueryInfoPtr) : ∀ (l : List α) (mem : Memory) (count : Nat),
      (l.foldl (fun t e => (pendingCountVisitor handler (b e) (k e) (p e) t).2) (mem, count)).1 =
        if ∀ e ∈ l, (mem.infos.read (p e)).isSome then mem
        else { mem with infos := mem.infos.fail }
  | [], mem, count => by simp
  | e :: l, mem, count => by
    rw [foldl_cons]
    cases h : mem.infos.read (p e) with
    | some i =>
      have hv : pendingCountVisitor handler (b e) (k e) (p e) (mem, count) =
          (.cont .keepEntry, mem, if i.handler = handler then count + 1 else count) := by
        simp [pendingCountVisitor, h]
      rw [hv, foldl_pendingCountVisitor handler b k p l]
      simp [h]
    | none =>
      have hv : pendingCountVisitor handler (b e) (k e) (p e) (mem, count) =
          (.cont .keepEntry, { mem with infos := mem.infos.fail }, count) := by
        simp [pendingCountVisitor, h]
      have hdead : ¬ ∀ e' ∈ e :: l, (mem.infos.read (p e')).isSome := by
        intro hall
        simpa [h] using hall e mem_cons_self
      rw [hv, foldl_pendingCountVisitor handler b k p l, if_neg hdead]
      exact ite_self _

variable {s : BrowserSideImpl}

lemma getPendingCount_snd (browser : Option Int) (handler : Option Handler) :
    (s.getPendingCount browser handler).2 = s ∨
      (∃ b k p, s.browserQueryInfoMap.get? b k = some p ∧ s.memory.infos.read p = none) ∧
      (s.getPendingCount browser handler).2 =
        { s with memory := { s.memory with infos := s.memory.infos.fail } } := by
  have hkeep : ∀ handler b k p (t : Memory × Nat),
      (pendingCountVisitor handler b k p t).1 = .cont .keepEntry := by
    rintro handler b k p ⟨mem, count⟩
    unfold pendingCountVisitor
    dsimp only
    split <;> rfl
  unfold getPendingCount
  split
  · exact .inl rfl
  · split
    · rename_i handler browser
      have hfold := foldl_pendingCountVisitor handler (fun _ => browser) Prod.fst Prod.snd
        (s.browserQueryInfoMap.browserEntries browser) s.memory 0
      rw [← findBrowserAll_watch (hkeep handler), ← findAllIn_eq]
        at hfold
      dsimp only
      rw [hfold]
      split
      · exact .inl rfl
      · rename_i hdead
        simp only [not_forall, isSome_iff_ne_none, not_not] at hdead
        obtain ⟨⟨k, p⟩, he, hp⟩ := hdead
        exact .inr ⟨⟨browser, k, p, mem_browserEntries.mp he, hp⟩, rfl⟩
    · rename_i handler
      have hfold := foldl_pendingCountVisitor handler Prod.fst (fun e => e.2.1) (fun e => e.2.2)
        s.browserQueryInfoMap.entries s.memory 0
      rw [← findAll_watch (hkeep handler), ← findAll_eq] at hfold
      dsimp only
      rw [hfold]
      split
      · exact .inl rfl
      · rename_i hdead
        simp only [not_forall, isSome_iff_ne_none, not_not] at hdead
        obtain ⟨⟨b, k, p⟩, he, hp⟩ := hdead
        exact .inr ⟨⟨b, k, p, mem_entries.mp he, hp⟩, rfl⟩
    · exact .inl rfl
    · exact .inl rfl

end BrowserSideImpl

/-- The router, the query message and the cancellations that wait for a handler, the innermost
cancellation first, whether an entry that was gone has been used, and what happened to the handlers,
newest first. A query message comes from outside, so that the cancellations are inside it. -/
structure ReentrantRouter where
  router : BrowserSideImpl
  offer : Option Offer
  walks : List CancelWalk
  dangling : Bool
  history : List HandlerEvent

namespace ReentrantRouter

def new : ReentrantRouter := ⟨.new, none, [], false, []⟩

section

variable (s : ReentrantRouter)

/-- An object or an entry has been used that was gone. -/
def broken : Bool := s.router.memory.infos.fault || s.dangling

def idle : Bool := s.walks.isEmpty && s.offer.isNone

/-- The query message whose `OnQuery` is the handler that is running. -/
def asking : Option Offer := if s.walks.isEmpty then s.offer else none

def withMemory (mem : Memory) : ReentrantRouter :=
  { s with router := { s.router with memory := mem } }

def callHandler (handler : Handler) (event : RouterEvent) : ReentrantRouter :=
  { s.withMemory (s.router.memory.report event) with history := .called handler :: s.history }

/-! ### Cancellations -/

/-- A cancellation returns, and `RemoveHandler` with it if that has made the call. -/
def canceled (c : Cancellation) : ReentrantRouter :=
  match c.removing with
  | some handler =>
    if handler ∈ s.router.handlers then s else { s with history := .removed handler :: s.history }
  | none => s

/-- `FindAll` from some entries on, up to the `OnQueryCanceled` of `CancelQuery`. -/
def cancelFrom (c : Cancellation) (entries : List (Int × Int × QueryInfoPtr)) : ReentrantRouter :=
  match c.visitor.seek s.router.memory.infos entries with
  | .nothing => s.canceled c
  | .stale => s.withMemory { s.router.memory with infos := s.router.memory.infos.fail }
  | .query browserId queryId info i =>
    let mem := if c.visitor.notifyRenderer then
        s.router.memory.sendQueryFailure (some i.callback) i.frame i.contextId i.requestId
          canceledErrorCode canceledErrorMessage
      else s.router.memory
    callHandler { s.withMemory mem with walks := ⟨c, browserId, queryId, info⟩ :: s.walks } i.handler
      (.onQueryCanceled (some i.callback) i.handler (some i.browser) (some i.frame) queryId)

/-- `CancelPendingFor` on the UI thread. -/
def cancelPendingFor (browser : Option Int) (handler : Option Handler)
    (notifyRenderer : Bool) (removing : Option Handler) : ReentrantRouter :=
  let c : Cancellation := ⟨browser, .pendingFor handler notifyRenderer, removing⟩
  if s.router.browserQueryInfoMap.isEmpty then s.canceled c
  else s.cancelFrom c (CefBrowserInfoMap.ahead s.router.browserQueryInfoMap browser none)

def cancelPendingRequest (browserId contextId requestId : Int) : ReentrantRouter :=
  s.cancelFrom ⟨some browserId, .request contextId requestId, none⟩
    (CefBrowserInfoMap.ahead s.router.browserQueryInfoMap (some browserId) none)

/-- `OnQueryCanceled` returns to a cancellation: the rest of `CancelQuery`, of `OnNextInfo` and of the
walk. -/
def onQueryCanceledReturns (w : CancelWalk) : ReentrantRouter :=
  -- invalidate the callback
  let mem := s.router.memory.withInfo w.info fun i => s.router.memory.detach i.callback
  let s := s.withMemory (mem.delete w.info)
  match CefBrowserInfoMap.eraseAt s.router.browserQueryInfoMap w.browserId w.queryId with
  | none => { s with dangling := true }
  | some m =>
    let s := { s with router := { s.router with browserQueryInfoMap := m } }
    if w.visitor.keepGoing then
      s.cancelFrom w.toCancellation
        (CefBrowserInfoMap.ahead m w.browser (some (w.browserId, w.queryId)))
    else s.canceled w.toCancellation

/-! ### Handlers and queries -/

def addHandler (handler : Handler) (first : Bool) : ReentrantRouter :=
  let (added, router) := s.router.addHandler handler first
  { s with
    router := router
    history := if added then .added handler :: s.history else s.history }

def removeHandler (handler : Handler) : ReentrantRouter :=
  if handler ∈ s.router.handlers then
    cancelPendingFor { s with router := { s.router with
      handlers := s.router.handlers.erase handler } } none (some handler) true (some handler)
  else s

/-- `OnProcessMessageReceived` for a query message, up to the first `OnQuery`. -/
def onQueryMessage (browser : Int) (frame : Frame) (contextId requestId : Int)
    (persistent : Bool) : ReentrantRouter :=
  match s.router.handlers with
  | [] =>
    -- no handlers so cancel the query
    s.withMemory (s.router.memory.cancelUnhandledQuery frame contextId requestId)
  | handler :: rest =>
    let (queryId, generator) := s.router.queryIdGenerator.getNextId
    callHandler { s with
      router := { s.router with queryIdGenerator := generator }
      offer := some ⟨browser, frame, contextId, requestId, persistent, queryId, handler, rest⟩ }
      handler (.onQuery handler queryId)

/-- `OnQuery` returns: the next handler of the copy is asked, or the query message is done. -/
def onQueryReturns (o : Offer) (handled : Bool) : Option ReentrantRouter :=
  let callback := s.router.memory.callbacks.length
  if handled then do
    -- persist the query information until the callback executes
    let (info, infos) := s.router.memory.infos.alloc
      ⟨o.browser, o.frame, o.contextId, o.requestId, o.persistent, callback, o.handler⟩
    let m ← CefBrowserInfoMap.add s.router.browserQueryInfoMap o.browser o.queryId info
    return { s with
      router := { s.router with
        browserQueryInfoMap := m
        memory := { s.router.memory with
          infos := infos
          callbacks := s.router.memory.callbacks ++ [⟨true, o.browser, o.queryId, o.persistent⟩] } }
      offer := none }
  else match o.rest with
    | handler :: rest =>
      some (callHandler { s with offer := some { o with handler := handler, rest := rest } } handler
        (.onQuery handler o.queryId))
    | [] =>
      -- invalidate the callback; no one chose to handle the query so cancel it
      let mem : Memory := { s.router.memory with
        callbacks := s.router.memory.callbacks ++ [⟨false, o.browser, o.queryId, o.persistent⟩] }
      some { s.withMemory (mem.cancelUnhandledQuery o.frame o.contextId o.requestId) with
        offer := none }

/-! ### Steps -/

end

/-- The entry points that are called from outside only, and the tasks posted to the UI thread. -/
inductive Entry where
  | onBeforeClose (browser : Option Int)
  | onRenderProcessTerminated (browser : Option Int)
  | onBeforeBrowse (browser : Option Int) (frame : Frame)
  | queryMessage (browser : Int) (frame : Frame) (contextId requestId : Int) (persistent : Bool)
  | cancelMessage (browser : Int) (contextId requestId : Int)
  | successTask (query : Query) (builds : Bool)
  | failureTask (query : Query) (errorCode : Int) (errorMessage : String)

/-- A call from outside, a call from outside or by the handler that is running, or the return of the
handler that is running. -/
inductive Action where
  | enter (entry : Entry)
  | addHandler (handler : Handler) (first : Bool)
  | removeHandler (handler : Handler)
  | cancelPending (browser : Option Int) (handler : Option Handler)
  | getPendingCount (browser : Option Int) (handler : Option Handler)
  | onQueryReturns (handled : Bool)
  | onQueryCanceledReturns

def enter (s : ReentrantRouter) : Entry → ReentrantRouter
  | .onBeforeClose browser => s.cancelPendingFor browser none false none
  | .onRenderProcessTerminated browser => s.cancelPendingFor browser none false none
  | .onBeforeBrowse browser frame =>
    if frame.isMain then s.cancelPendingFor browser none false none else s
  | .queryMessage browser frame contextId requestId persistent =>
    s.onQueryMessage browser frame contextId requestId persistent
  | .cancelMessage browser contextId requestId => s.cancelPendingRequest browser contextId requestId
  | .successTask q builds => { s with router := s.router.successImpl q builds }
  | .failureTask q errorCode errorMessage =>
    { s with router := s.router.failureImpl q errorCode errorMessage }

/-- One call or return on the UI thread. -/
def step (s : ReentrantRouter) (a : Action) : Option ReentrantRouter :=
  if s.broken then none
  else match a with
    | .enter entry => if s.idle then some (s.enter entry) else none
    | .addHandler handler first => some (s.addHandler handler first)
    | .removeHandler handler => some (s.removeHandler handler)
    | .cancelPending browser handler => some (s.cancelPendingFor browser handler true none)
    | .getPendingCount browser handler =>
      some { s with router := (s.router.getPendingCount browser handler).2 }
    | .onQueryReturns handled => s.asking.bind fun o => s.onQueryReturns o handled
    | .onQueryCanceledReturns =>
      match s.walks with
      | [] => none
      | w :: rest => some (onQueryCanceledReturns { s with walks := rest } w)

end ReentrantRouter

end CefCore.MessageRouter
