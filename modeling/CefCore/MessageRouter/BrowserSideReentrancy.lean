import CefCore.MessageRouter.BrowserSide

/-!
# Handlers that call back into the Rust browser-side router

A handler of the `BrowserSideRouter` is called while the router works on a query message or on a
cancellation, and the map of the pending queries is locked all that time. What the handler calls in
the router takes the router's mutexes again.

## Main results

* `callback_returns_iff`, `reentrant_returns`: which calls come back.

## Implementation notes

As in the renderer-side router, a function gets the mutexes that its callers hold, and taking one of
them again does not come back (`none`). The router functions get the effect of calling a handler as a
parameter; handlers that are called from the calls of handlers, and so on, are counted by `depth`, and
at depth zero a handler makes no calls. While the map of the pending queries is being walked, the
walk works on the map that the guard has locked, and the other fields of the router are the state of
the visitor.
-/

namespace CefCore.MessageRouter

open Std List Option Transition BrowserInfoMap

inductive BrowserMutex where
  | queryIdGenerator
  | handlers
  | browserQueryInfoMap
  deriving DecidableEq

/-- `Mutex::lock` by a thread that holds some of the mutexes. -/
def BrowserMutex.lock (m : BrowserMutex) (held : List BrowserMutex) : Option (List BrowserMutex) :=
  if m ∈ held then none else some (m :: held)

/-- What a handler may call in the router on the UI thread. -/
inductive RouterCall where
  | addHandler (handler : Handler) (first : Bool)
  | removeHandler (handlerId : Int)
  | cancelPending (browser : Option Int) (handlerId : Option Int)
  | pendingCount (browser : Option Int) (handlerId : Option Int)

inductive HandlerNotice where
  /-- `on_query_str` or `on_query_binary`. -/
  | onQuery (queryId : Int)
  | onQueryCanceled (queryId : Int)

/-- The code of the handlers: the calls that a handler makes when it is called. They may depend on
the whole state and on the mutexes that are held. -/
abbrev HandlerCode : Type :=
  Handler → HandlerNotice → List BrowserMutex → BrowserSideRouter → List RouterCall

namespace BrowserSideRouter

/-- The effect of calling a handler while some mutexes are held. -/
abbrev Notify : Type :=
  List BrowserMutex → Handler → HandlerNotice → BrowserSideRouter → Option BrowserSideRouter

/-! ### The router, with handlers that call back -/

section Router

variable (notify : Notify) (held : List BrowserMutex) (s : BrowserSideRouter)

def notifyCanceled (queryId : Int) (info : BrowserSideQueryInfo) : Option BrowserSideRouter :=
  match info.handler with
  | some (_, handler) =>
    notify held handler (.onQueryCanceled queryId)
      (s.report (.onQueryCanceled info.callback handler info.browser info.frame queryId))
  | none => some s

/-- `cancel_query`. -/
def cancelQueryWith (queryId : Int) (info : BrowserSideQueryInfo) (notifyRenderer : Bool) :
    Option BrowserSideRouter := do
  let e := if notifyRenderer then
      s.effects.sendQueryFailure info.callback info.frame info.contextId info.requestId
        canceledErrorCode canceledErrorMessage
    else s.effects
  let s ← notifyCanceled notify held { s with effects := e } queryId info
  -- invalidate the callback
  match info.callback with
  | some callback => return { s with effects := s.effects.detach callback }
  | none => return s

/-- The visitor of `cancel_pending_for`. A walk that does not come back is over. -/
def cancelPendingVisitorWith (handlerId : Option Int) (notifyRenderer : Bool) :
    Visitor (Option BrowserSideRouter) Int BrowserSideQueryInfo :=
  fun _ key value s =>
    let keep : Bool := match handlerId, value.handler with
      | some handlerId, some entry => handlerId != entry.1
      | _, _ => false
    if keep then (.cont .keepEntry, s)
    else (.cont .removeEntry, s.bind fun s => cancelQueryWith notify held s key value notifyRenderer)

/-- `cancel_pending_for` on the UI thread. -/
def cancelPendingForWith (browser : Option Int) (handlerId : Option Int) (notifyRenderer : Bool) :
    Option BrowserSideRouter := do
  let held ← BrowserMutex.browserQueryInfoMap.lock held
  if s.browserQueryInfoMap.isEmpty then return s
  else
    let visitor := cancelPendingVisitorWith notify held handlerId notifyRenderer
    let (m, s) := match browser with
      | some browser => s.browserQueryInfoMap.findBrowserAll browser visitor (some s)
      | none => s.browserQueryInfoMap.findAll visitor (some s)
    let s ← s
    return { s with browserQueryInfoMap := m }

/-- The visitor of `cancel_pending_request`. -/
def cancelRequestVisitorWith (contextId requestId : Int) :
    Visitor (Option BrowserSideRouter) Int BrowserSideQueryInfo :=
  fun _ key value s =>
    if value.contextId = contextId ∧ requestId = reservedId ∨ value.requestId = requestId then
      (if requestId = reservedId then .cont .removeEntry else .brk .removeEntry,
        s.bind fun s => cancelQueryWith notify held s key value false)
    else (.cont .keepEntry, s)

/-- `cancel_pending_request`. -/
def cancelPendingRequestWith (browserId contextId requestId : Int) : Option BrowserSideRouter := do
  let held ← BrowserMutex.browserQueryInfoMap.lock held
  let (m, s) := s.browserQueryInfoMap.findBrowserAll browserId
    (cancelRequestVisitorWith notify held contextId requestId) (some s)
  let s ← s
  return { s with browserQueryInfoMap := m }

/-- `add_handler`. -/
def addHandlerWith (handler : Handler) (first : Bool) : Option BrowserSideRouter := do
  let _ ← BrowserMutex.handlers.lock held
  return (s.addHandler handler first).2

/-- `remove_handler`. The guard of the handlers lives until the pending queries are canceled. -/
def removeHandlerWith (handlerId : Int) : Option BrowserSideRouter := do
  let held ← BrowserMutex.handlers.lock held
  match s.handlers.index handlerId with
  | none => return s
  | some index =>
    match s.handlers.handlers[index]? with
    | none => return s
    | some entry =>
      let s := { s with handlers := trim { s.handlers with
        handlers := s.handlers.handlers.set index none } }
      match entry with
      | some _ => cancelPendingForWith notify held s none (some handlerId) true
      | none => return s

/-- `cancel_pending` on the UI thread. The guard of the handlers is gone when the pending queries are
canceled. -/
def cancelPendingWith (browser : Option Int) (handlerId : Option Int) : Option BrowserSideRouter :=
  match handlerId with
  | some handlerId => do
    let _ ← BrowserMutex.handlers.lock held
    cancelPendingForWith notify held s browser ((s.handlers.lookup handlerId).map (·.1)) true
  | none => cancelPendingForWith notify held s browser none true

/-- `pending_count`. -/
def pendingCountWith (browser : Option Int) (handlerId : Option Int) : Option Nat := do
  let held ← BrowserMutex.browserQueryInfoMap.lock held
  if s.browserQueryInfoMap.isEmpty then return 0
  else match handlerId with
    | some _ => (BrowserMutex.handlers.lock held).map fun _ => s.pendingCount browser handlerId
    | none => return s.pendingCount browser none

def routerCall : RouterCall → Option BrowserSideRouter
  | .addHandler handler first => addHandlerWith held s handler first
  | .removeHandler handlerId => removeHandlerWith notify held s handlerId
  | .cancelPending browser handlerId => cancelPendingWith notify held s browser handlerId
  | .pendingCount browser handlerId => (pendingCountWith held s browser handlerId).map fun _ => s

/-- The `find_map` over the handlers in `on_process_message_received`. -/
def offerQueryWith (answers : Nat → Bool) (offset queryId : Int) :
    Nat → List (Option Handler) → BrowserSideRouter → Option (Option (Int × Handler) × BrowserSideRouter)
  | _, [], s => some (none, s)
  | index, none :: rest, s => offerQueryWith answers offset queryId (index + 1) rest s
  | index, some handler :: rest, s =>
    if (index : Int) ≤ i32Max then do
      let s ← notify held handler (.onQuery queryId) (s.report (.onQuery handler queryId))
      if answers index then return (some (index - offset, handler), s)
      else offerQueryWith answers offset queryId (index + 1) rest s
    else offerQueryWith answers offset queryId (index + 1) rest s

/-- `on_process_message_received` for a query message. The guards of the id generator and of the
handlers are gone when the handlers are called, and the guard of the pending queries is not. -/
def onQueryMessageWith (browser : Option Int) (frame : Option Frame) (contextId requestId : Int)
    (isPersistent : Bool) (answers : Nat → Bool) : Option BrowserSideRouter := do
  let generatorHeld ← BrowserMutex.queryIdGenerator.lock held
  let handlersHeld ← BrowserMutex.handlers.lock generatorHeld
  let _ ← BrowserMutex.browserQueryInfoMap.lock handlersHeld
  match browser, s.handlers.handlers.isEmpty with
  | some browserId, false =>
    let held := .browserQueryInfoMap :: held
    let (queryId, generator) := s.queryIdGenerator.next
    let callback := s.effects.callbacks.length
    let e : Effects := { s.effects with
      callbacks := s.effects.callbacks ++ [⟨true, browserId, queryId, isPersistent⟩] }
    let (handler, s) ← offerQueryWith notify held answers s.handlers.offset queryId 0
      s.handlers.handlers { s with queryIdGenerator := generator, effects := e }
    match handler with
    | some handler => return { s with
        browserQueryInfoMap := s.browserQueryInfoMap.insert browserId queryId
          ⟨browser, frame, contextId, requestId, isPersistent, some callback, some handler⟩ }
    | none => return { s with
        effects := (s.effects.detach callback).cancelUnhandledQuery frame contextId requestId }
  | _, _ => return { s with effects := s.effects.cancelUnhandledQuery frame contextId requestId }

end Router

/-- What the handlers do when they are called: they make their calls, one after another. -/
def notify (code : HandlerCode) : Nat → Notify
  | 0 => fun _ _ _ s => some s
  | depth + 1 => fun held handler notice s =>
    (code handler notice held s).foldlM (routerCall (notify code depth) held) s

/-- One entry point or task on the UI thread, which holds no mutex before. -/
def reentrantStep (code : HandlerCode) (depth : Nat) (s : BrowserSideRouter) :
    Action → Option BrowserSideRouter
  | .addHandler handler first => addHandlerWith [] s handler first
  | .removeHandler handlerId => removeHandlerWith (notify code depth) [] s handlerId
  | .cancelPending browser handlerId => cancelPendingWith (notify code depth) [] s browser handlerId
  | .cancelPendingForTask browser handlerId notifyRenderer =>
    cancelPendingForWith (notify code depth) [] s browser handlerId notifyRenderer
  | .onBeforeClose browser => cancelPendingForWith (notify code depth) [] s browser none false
  | .onRenderProcessTerminated browser =>
    cancelPendingForWith (notify code depth) [] s browser none false
  | .onBeforeBrowse browser frame =>
    if (frame.map (·.isMain)).getD false then
      cancelPendingForWith (notify code depth) [] s browser none false
    else some s
  | .queryMessage browser frame contextId requestId isPersistent answers =>
    onQueryMessageWith (notify code depth) [] s browser frame contextId requestId isPersistent answers
  | .cancelMessage browser contextId requestId =>
    match browser with
    | some browser => cancelPendingRequestWith (notify code depth) [] s browser contextId requestId
    | none => some s
  -- the tasks lock the pending queries in `get_query_info` only, and call no handler
  | .successTask q held builds =>
    (BrowserMutex.browserQueryInfoMap.lock []).map fun _ => s.step (.successTask q held builds)
  | .failureTask q held errorCode errorMessage =>
    (BrowserMutex.browserQueryInfoMap.lock []).map fun _ =>
      s.step (.failureTask q held errorCode errorMessage)

/-! ### What a handler may call -/

/-- The calls that a handler may make while the pending queries are locked: those that stay away from
the pending queries, and from the handlers if these are locked too. -/
def Harmless (held : List BrowserMutex) (s : BrowserSideRouter) : RouterCall → Prop
  | .addHandler _ _ => .handlers ∉ held
  | .removeHandler handlerId => .handlers ∉ held ∧ s.handlers.lookup handlerId = none
  | .cancelPending _ _ => False
  | .pendingCount _ _ => False

def harmlessEffect (s : BrowserSideRouter) : RouterCall → BrowserSideRouter
  | .addHandler handler first => (s.addHandler handler first).2
  | .removeHandler handlerId => (s.removeHandler handlerId).2
  | .cancelPending _ _ => s
  | .pendingCount _ _ => s

section Calls

variable {notify : Notify} {held : List BrowserMutex} {s : BrowserSideRouter}

lemma browserLock_eq_none {m : BrowserMutex} (h : m ∈ held) : m.lock held = none := by
  rw [BrowserMutex.lock, if_pos h]

lemma browserLock_eq_some {m : BrowserMutex} (h : m ∉ held) : m.lock held = some (m :: held) := by
  rw [BrowserMutex.lock, if_neg h]

section

variable (hheld : .browserQueryInfoMap ∈ held)
include hheld

lemma cancelPendingForWith_locked (browser : Option Int)
    (handlerId : Option Int) (notifyRenderer : Bool) :
    cancelPendingForWith notify held s browser handlerId notifyRenderer = none := by
  unfold cancelPendingForWith
  rw [browserLock_eq_none hheld]
  rfl

lemma removeHandlerWith_locked (handlerId : Int) :
    removeHandlerWith notify held s handlerId =
      if .handlers ∉ held ∧ s.handlers.lookup handlerId = none then
        some (s.removeHandler handlerId).2 else none := by
  by_cases hlock : BrowserMutex.handlers ∈ held
  · rw [if_neg fun h => h.1 hlock]
    unfold removeHandlerWith
    rw [browserLock_eq_none hlock]
    rfl
  · have hcancel : ∀ s, cancelPendingForWith notify (.handlers :: held) s none (some handlerId) true =
        none := fun s => cancelPendingForWith_locked (mem_cons_of_mem _ hheld) _ _ _
    unfold removeHandlerWith removeHandler HandlersDeque.lookup
    rw [browserLock_eq_some hlock]
    simp only [bind_eq_bind, bind_some, hcancel, hlock, not_false_eq_true, true_and]
    cases s.handlers.index handlerId with
    | none => rfl
    | some index =>
      cases hentry : s.handlers.handlers[index]? with
      | none => simp [hentry]
      | some entry =>
        cases entry with
        | none => simp [hentry]
        | some handler => simp [hentry]

lemma routerCall_of_harmless {call : RouterCall}
    (hcall : s.Harmless held call) : routerCall notify held s call = some (s.harmlessEffect call) := by
  cases call with
  | addHandler handler first =>
    have hlock : BrowserMutex.handlers ∉ held := hcall
    simp only [routerCall, addHandlerWith, browserLock_eq_some hlock]
    rfl
  | removeHandler handlerId => exact (removeHandlerWith_locked hheld handlerId).trans (if_pos hcall)
  | cancelPending browser handlerId => exact hcall.elim
  | pendingCount browser handlerId => exact hcall.elim

/-- **A call by a handler**, made while the pending queries are locked, comes back if and only if it
is harmless. -/
theorem callback_returns_iff (call : RouterCall) :
    (routerCall notify held s call).isSome = true ↔ s.Harmless held call := by
  refine ⟨fun h => ?_, fun h => by rw [routerCall_of_harmless hheld h]; rfl⟩
  cases call with
  | addHandler handler first =>
    intro hlock
    simp [routerCall, addHandlerWith, browserLock_eq_none hlock] at h
  | removeHandler handlerId =>
    rw [routerCall, removeHandlerWith_locked hheld] at h
    split at h
    · assumption
    · cases h
  | cancelPending browser handlerId =>
    have hcancel : ∀ handlerId, cancelPendingForWith notify held s browser handlerId true = none :=
      fun _ => cancelPendingForWith_locked hheld _ _ _
    cases handlerId <;> simp [routerCall, cancelPendingWith, hcancel] at h
  | pendingCount browser handlerId =>
    simp [routerCall, pendingCountWith, browserLock_eq_none hheld] at h

end

/-- A handler that is told of its cancellation may add another one, but not count the queries. -/
theorem callback_returns_iff_canceled :
    ((routerCall (fun _ _ _ => some) [.browserQueryInfoMap] new (.addHandler 7 true)).isSome = true ↔
      new.Harmless [.browserQueryInfoMap] (.addHandler 7 true)) ∧
    ((routerCall (fun _ _ _ => some) [.browserQueryInfoMap] new (.pendingCount none none)).isSome =
      true ↔ False) :=
  ⟨callback_returns_iff mem_cons_self _, callback_returns_iff mem_cons_self _⟩

end Calls

end BrowserSideRouter

open BrowserSideRouter in
/-- Whenever a handler is called, each of its calls is harmless when its turn comes. -/
def HandlerCode.Considerate (code : HandlerCode) : Prop :=
  ∀ handler notice held s, .browserQueryInfoMap ∈ held →
    Transition.Along (fun s call => some (harmlessEffect s call)) (Harmless held) s
      (code handler notice held s)

namespace BrowserSideRouter

/-! ### Runs with considerate handlers -/

section Runs

variable {code : HandlerCode} {held : List BrowserMutex} {s : BrowserSideRouter}

lemma foldlM_routerCall {notify : Notify} (hheld : .browserQueryInfoMap ∈ held) :
    ∀ (calls : List RouterCall) (s : BrowserSideRouter),
      Transition.Along (fun s call => some (harmlessEffect s call)) (Harmless held) s calls →
      (calls.foldlM (routerCall notify held) s).isSome = true
  | [], _, _ => rfl
  | call :: calls, s, h => by
    obtain ⟨hcall, hcalls⟩ := h.cons rfl
    rw [foldlM_cons, routerCall_of_harmless hheld hcall]
    exact foldlM_routerCall hheld calls _ hcalls

lemma notify_isSome (hcode : code.Considerate) (hheld : .browserQueryInfoMap ∈ held) (depth : Nat)
    (handler : Handler) (notice : HandlerNotice) (s : BrowserSideRouter) :
    (notify code depth held handler notice s).isSome = true := by
  cases depth with
  | zero => rfl
  | succ depth => exact foldlM_routerCall hheld _ s (hcode handler notice held s hheld)

variable {depth : Nat} (hcode : code.Considerate)

include hcode in
lemma cancelQueryWith_isSome (hheld : .browserQueryInfoMap ∈ held) (s : BrowserSideRouter)
    (queryId : Int) (info : BrowserSideQueryInfo) (notifyRenderer : Bool) :
    (cancelQueryWith (notify code depth) held s queryId info notifyRenderer).isSome = true := by
  unfold cancelQueryWith notifyCanceled
  refine isSome_bind ?_ fun s => ?_
  · cases info.handler with
    | none => rfl
    | some entry => exact notify_isSome hcode hheld depth entry.2 _ _
  · cases info.callback <;> rfl

include hcode in
lemma cancelPendingForWith_isSome (depth : Nat) (hheld : .browserQueryInfoMap ∉ held)
    (s : BrowserSideRouter)
    (browser : Option Int) (handlerId : Option Int) (notifyRenderer : Bool) :
    (cancelPendingForWith (notify code depth) held s browser handlerId notifyRenderer).isSome =
      true := by
  have hvisit : ∀ b k value s,
      s.isSome = true → (cancelPendingVisitorWith (notify code depth) (.browserQueryInfoMap :: held)
        handlerId notifyRenderer b k value s).2.isSome = true := by
    intro b k value s hs
    unfold cancelPendingVisitorWith
    generalize (match handlerId, value.handler with
      | some handlerId, some entry => handlerId != entry.1
      | _, _ => false) = keep
    cases keep with
    | true => exact hs
    | false => exact isSome_bind hs fun s =>
        cancelQueryWith_isSome hcode mem_cons_self s k value notifyRenderer
  unfold cancelPendingForWith
  rw [browserLock_eq_some hheld]
  simp only [bind_eq_bind, bind_some]
  split
  · rfl
  · refine isSome_bind ?_ fun _ => rfl
    cases browser with
    | some browser =>
      exact findBrowserAll_rule (J := fun _ s => Option.isSome s = true)
        (isSome_some) fun _ s k v hs _ => hvisit browser k v s hs
    | none =>
      exact findAll_rule (J := fun _ s => Option.isSome s = true)
        (isSome_some) fun _ s b k v hs _ => hvisit b k v s hs

include hcode in
lemma cancelPendingRequestWith_isSome (hheld : .browserQueryInfoMap ∉ held) (s : BrowserSideRouter)
    (browserId contextId requestId : Int) :
    (cancelPendingRequestWith (notify code depth) held s browserId contextId requestId).isSome =
      true := by
  unfold cancelPendingRequestWith
  rw [browserLock_eq_some hheld]
  simp only [bind_eq_bind, bind_some]
  refine isSome_bind ?_ fun _ => rfl
  refine findBrowserAll_rule (J := fun _ s => Option.isSome s = true)
    (isSome_some) fun _ s k v hs _ => ?_
  unfold cancelRequestVisitorWith
  split
  · exact isSome_bind hs fun s =>
      cancelQueryWith_isSome hcode mem_cons_self s k v false
  · exact hs

include hcode in
lemma removeHandlerWith_isSome (s : BrowserSideRouter) (handlerId : Int) :
    (removeHandlerWith (notify code depth) [] s handlerId).isSome = true := by
  have hcancel := cancelPendingForWith_isSome hcode depth
    (by decide : BrowserMutex.browserQueryInfoMap ∉ [.handlers])
  unfold removeHandlerWith
  rw [browserLock_eq_some not_mem_nil]
  simp only [bind_eq_bind, bind_some]
  split
  · rfl
  · split
    · rfl
    · split
      · exact hcancel _ none _ true
      · rfl

include hcode in
lemma cancelPendingWith_isSome (s : BrowserSideRouter) (browser : Option Int)
    (handlerId : Option Int) :
    (cancelPendingWith (notify code depth) [] s browser handlerId).isSome = true := by
  have hcancel := cancelPendingForWith_isSome hcode depth not_mem_nil s browser
  unfold cancelPendingWith
  split
  · rw [browserLock_eq_some not_mem_nil, bind_eq_bind, bind_some]
    exact hcancel _ true
  · exact hcancel none true

include hcode in
lemma offerQueryWith_isSome (hheld : .browserQueryInfoMap ∈ held) (answers : Nat → Bool)
    (offset queryId : Int) : ∀ (index : Nat) (handlers : List (Option Handler)) (s : BrowserSideRouter),
      (offerQueryWith (notify code depth) held answers offset queryId index handlers s).isSome = true
  | _, [], _ => rfl
  | index, none :: rest, s => offerQueryWith_isSome hheld answers offset queryId (index + 1) rest s
  | index, some handler :: rest, s => by
    unfold offerQueryWith
    split
    · refine isSome_bind (notify_isSome hcode hheld depth handler _ _) fun s => ?_
      split
      · rfl
      · exact offerQueryWith_isSome hheld answers offset queryId (index + 1) rest s
    · exact offerQueryWith_isSome hheld answers offset queryId (index + 1) rest s

include hcode in
lemma onQueryMessageWith_isSome (s : BrowserSideRouter) (browser : Option Int) (frame : Option Frame)
    (contextId requestId : Int) (isPersistent : Bool) (answers : Nat → Bool) :
    (onQueryMessageWith (notify code depth) [] s browser frame contextId requestId isPersistent
      answers).isSome = true := by
  have hlock₁ : BrowserMutex.queryIdGenerator.lock [] = some [.queryIdGenerator] := rfl
  have hlock₂ : BrowserMutex.handlers.lock [.queryIdGenerator] =
    some [.handlers, .queryIdGenerator] := rfl
  have hlock₃ : BrowserMutex.browserQueryInfoMap.lock [.handlers, .queryIdGenerator] =
    some [.browserQueryInfoMap, .handlers, .queryIdGenerator] := rfl
  unfold onQueryMessageWith
  simp only [hlock₁, hlock₂, hlock₃, bind_eq_bind, bind_some]
  split
  · refine isSome_bind
      (offerQueryWith_isSome hcode mem_cons_self answers _ _ 0 _ _) fun r => ?_
    obtain ⟨handler, s⟩ := r
    cases handler <;> rfl
  · rfl

include hcode in
lemma reentrantStep_isSome (s : BrowserSideRouter) (a : Action) :
    (reentrantStep code depth s a).isSome = true := by
  have hcancel := cancelPendingForWith_isSome hcode depth not_mem_nil s
  cases a with
  | addHandler handler first => rfl
  | removeHandler handlerId => exact removeHandlerWith_isSome hcode s handlerId
  | cancelPending browser handlerId => exact cancelPendingWith_isSome hcode s browser handlerId
  | cancelPendingForTask browser handlerId notifyRenderer =>
    exact hcancel browser handlerId notifyRenderer
  | onBeforeClose browser => exact hcancel browser none false
  | onRenderProcessTerminated browser => exact hcancel browser none false
  | onBeforeBrowse browser frame =>
    simp only [reentrantStep]
    split
    · exact hcancel browser none false
    · rfl
  | queryMessage browser frame contextId requestId isPersistent answers =>
    exact onQueryMessageWith_isSome hcode s browser frame contextId requestId isPersistent answers
  | cancelMessage browser contextId requestId =>
    cases browser with
    | some browser =>
      exact cancelPendingRequestWith_isSome hcode not_mem_nil s browser contextId requestId
    | none => rfl
  | successTask q held builds => rfl
  | failureTask q held errorCode errorMessage => rfl

end Runs

/-- **Handlers that call back**: if the handlers make harmless calls only, then no run of entry points,
from any state and however deep handlers are called from the calls of handlers, locks a mutex that its
thread holds. -/
theorem reentrant_returns (code : HandlerCode) (hcode : code.Considerate) (depth : Nat)
    (acts : List Action) (s : BrowserSideRouter) :
    (acts.foldlM (reentrantStep code depth) s).isSome = true :=
  isSome_foldlM (reentrantStep_isSome hcode) acts s

/-- Every handler adds another one at the end when it is asked, and makes no calls otherwise. -/
def growingCode : HandlerCode := fun handler notice held _ =>
  match notice with
  | .onQuery _ => if .handlers ∈ held then [] else [.addHandler (handler + 1) false]
  | .onQueryCanceled _ => []

def acceptedAndRemoved : List Action :=
  [.addHandler 5 false, .queryMessage (some 1) (some ⟨3, true⟩) 1 1 false fun _ => true,
    .removeHandler 0]

lemma growingCode_considerate : growingCode.Considerate := by
  intro handler notice held s _
  cases notice with
  | onQueryCanceled queryId => trivial
  | onQuery queryId =>
    unfold growingCode
    dsimp only
    split
    · trivial
    · rename_i hlock
      exact ⟨hlock, trivial⟩

theorem reentrant_returns_growing :
    (acceptedAndRemoved.foldlM (reentrantStep growingCode 2) new).isSome = true :=
  reentrant_returns growingCode growingCode_considerate 2 acceptedAndRemoved new

/-- A handler that asks for the number of pending queries when it is told that its query is canceled:
the router has the pending queries locked and does not come back. -/
theorem counting_handler_relocks : ¬ ∀ (code : HandlerCode) (depth : Nat) (acts : List Action),
    (acts.foldlM (reentrantStep code depth) new).isSome = true := by
  intro h
  have hreturns := h (fun _ notice _ _ => match notice with
    | .onQuery _ => []
    | .onQueryCanceled _ => [.pendingCount none none]) 1 acceptedAndRemoved
  revert hreturns
  decide +kernel

end BrowserSideRouter

end CefCore.MessageRouter
