import CefCore.MessageRouter.Basic
import CefCore.MessageRouter.BrowserInfoMap

/-!
# The Rust browser-side message router

`BrowserSideRouter` of `rust/cef-rs/cef/src/wrapper/message_router.rs`: query and cancel messages
from the renderer, the success and failure tasks that a query's callback posts to the UI thread,
handler registration and the cancellations that a browser's life brings. Everything runs on the
UI thread and the handlers do not call back into the router, so that each entry point is one
step on the router's state.

## Main definitions

* `BrowserSideRouter.step`: an entry point of the router.

## Implementation notes

The tasks `BrowserSideRouterCallbackSuccess` and `BrowserSideRouterCallbackFailure` hold a weak
reference to the callback. Besides the pending query itself only client code can keep the
callback alive, so a task is given the flag `held`. What a handler answers to `on_query` is part
of the query message's action, one answer for each place in the handler list.

Values that a modelled function only passes on (the query's payload, the message names, the
size threshold) are left out; a response builder is kept as the fact that it builds a message.
-/

namespace CefCore.MessageRouter

open Std

/-- `BrowserSideRouterCallback`; `router` tells whether the callback still has its router. -/
structure BrowserSideRouterCallback where
  router : Bool
  browserId : Int
  queryId : Int
  persistent : Bool

/-- `BrowserSideQueryInfo`, a pending query. -/
structure BrowserSideQueryInfo where
  browser : Option Int
  frame : Option Frame
  contextId : Int
  requestId : Int
  isPersistent : Bool
  callback : Option Query
  handler : Option (Int × Handler)
  deriving DecidableEq

/-- `HandlersDeque`: the handler with id `i` is at index `i + offset`. -/
structure HandlersDeque where
  offset : Int
  handlers : List (Option Handler)

/-- The index of a handler id, `usize::try_from(handler_id + handlers.offset)`. -/
def HandlersDeque.index (d : HandlersDeque) (handlerId : Int) : Option Nat :=
  if handlerId + d.offset < 0 then none else some (handlerId + d.offset).toNat

def HandlersDeque.lookup (d : HandlersDeque) (handlerId : Int) : Option (Int × Handler) :=
  (d.index handlerId).bind fun index => d.handlers[index]?.join.map fun h => (handlerId, h)

/-- The callback objects made so far and what the router has done: the part of the state that a
cancellation works on while the map is being walked. -/
structure Effects where
  callbacks : List BrowserSideRouterCallback
  log : List RouterEvent

section

variable (e : Effects)

def Effects.report (event : RouterEvent) : Effects :=
  { e with log := event :: e.log }

/-- `BrowserSideRouterCallback::detach`, also `router.take()` of the tasks. -/
def Effects.detach (q : Query) : Effects :=
  { e with callbacks := e.callbacks.modify q fun c => { c with router := false } }

def Effects.sendQuerySuccess (query : Option Query) (frame : Option Frame)
    (contextId requestId : Int) (builds : Bool) : Effects :=
  match frame with
  | some frame => if builds then e.report (.querySuccess query frame contextId requestId) else e
  | none => e

def Effects.sendQueryFailure (query : Option Query) (frame : Option Frame)
    (contextId requestId errorCode : Int) (errorMessage : String) : Effects :=
  match frame with
  | some frame =>
    e.report (.queryFailure query frame contextId requestId errorCode errorMessage)
  | none => e

/-- `cancel_unhandled_query`: cancel a query that has not been sent to a handler. -/
def Effects.cancelUnhandledQuery (frame : Option Frame) (contextId requestId : Int) : Effects :=
  e.sendQueryFailure none frame contextId requestId canceledErrorCode canceledErrorMessage

/-- `cancel_query`: cancel a query that has already been sent to a handler. -/
def Effects.cancelQuery (queryId : Int) (info : BrowserSideQueryInfo)
    (notifyRenderer : Bool) : Effects :=
  let e := if notifyRenderer then
      e.sendQueryFailure info.callback info.frame info.contextId info.requestId
        canceledErrorCode canceledErrorMessage
    else e
  let e := match info.handler with
    | some (_, handler) =>
      e.report (.onQueryCanceled info.callback handler info.browser info.frame queryId)
    | none => e
  -- invalidate the callback
  match info.callback with
  | some callback => e.detach callback
  | none => e

end

structure BrowserSideRouter where
  queryIdGenerator : IdGenerator
  handlers : HandlersDeque
  browserQueryInfoMap : BrowserInfoMap Int BrowserSideQueryInfo compare
  effects : Effects

namespace BrowserSideRouter

def new : BrowserSideRouter :=
  ⟨.new i64Max, ⟨0, []⟩, ∅, ⟨[], []⟩⟩

/-- The visitor of `get_query_info`. -/
def queryInfoVisitor (alwaysRemove : Bool) : Visitor Unit Int BrowserSideQueryInfo :=
  fun _ _ value s =>
    (.cont (if alwaysRemove || !value.isPersistent then .removeEntry else .keepEntry), s)

/-- `get_query_info`: retrieve a query from the map, removing it if `alwaysRemove` or if it is
not persistent. -/
def getQueryInfo (s : BrowserSideRouter) (browserId queryId : Int) (alwaysRemove : Bool) :
    Option BrowserSideQueryInfo × BrowserSideRouter :=
  let (info, m, _) :=
    s.browserQueryInfoMap.find browserId queryId (some (queryInfoVisitor alwaysRemove)) ()
  (info, { s with browserQueryInfoMap := m })

def onCallbackSuccess (s : BrowserSideRouter) (browserId queryId : Int) (builds : Bool) :
    BrowserSideRouter :=
  match s.getQueryInfo browserId queryId false with
  | (none, s) => s
  | (some info, s) =>
    { s with
      effects := s.effects.sendQuerySuccess info.callback info.frame info.contextId
        info.requestId builds }

def onCallbackFailure (s : BrowserSideRouter) (browserId queryId errorCode : Int)
    (errorMessage : String) : BrowserSideRouter :=
  -- the flag is `false` here, where the C++ router passes `true`
  match s.getQueryInfo browserId queryId false with
  | (none, s) => s
  | (some info, s) =>
    { s with
      effects := s.effects.sendQueryFailure info.callback info.frame info.contextId
        info.requestId errorCode errorMessage }

/-- The visitor of `cancel_pending_for`. -/
def cancelPendingVisitor (handlerId : Option Int) (notifyRenderer : Bool) :
    Visitor Effects Int BrowserSideQueryInfo :=
  fun _ key value e =>
    let keep : Bool := match handlerId, value.handler with
      | some handlerId, some entry => handlerId != entry.1
      | _, _ => false
    if keep then (.cont .keepEntry, e)
    else (.cont .removeEntry, e.cancelQuery key value notifyRenderer)

/-- `cancel_pending_for` on the UI thread: cancel all pending queries associated with either the
browser or the handler. -/
def cancelPendingFor (s : BrowserSideRouter) (browser : Option Int) (handlerId : Option Int)
    (notifyRenderer : Bool) : BrowserSideRouter :=
  if s.browserQueryInfoMap.isEmpty then s
  else
    let visitor := cancelPendingVisitor handlerId notifyRenderer
    let (m, e) := match browser with
      | some browser => s.browserQueryInfoMap.findBrowserAll browser visitor s.effects
      | none => s.browserQueryInfoMap.findAll visitor s.effects
    { s with browserQueryInfoMap := m, effects := e }

/-- The visitor of `cancel_pending_request`. -/
def cancelRequestVisitor (contextId requestId : Int) : Visitor Effects Int BrowserSideQueryInfo :=
  fun _ key value e =>
    -- `&&` binds before `||` in the source
    if value.contextId = contextId ∧ requestId = reservedId ∨ value.requestId = requestId then
      (if requestId = reservedId then .cont .removeEntry else .brk .removeEntry,
        e.cancelQuery key value false)
    else (.cont .keepEntry, e)

/-- `cancel_pending_request`: cancel a query based on the renderer-side ids. -/
def cancelPendingRequest (s : BrowserSideRouter) (browserId contextId requestId : Int) :
    BrowserSideRouter :=
  let (m, e) := s.browserQueryInfoMap.findBrowserAll browserId
    (cancelRequestVisitor contextId requestId) s.effects
  { s with browserQueryInfoMap := m, effects := e }

/-- `add_handler`, with the id it returns. -/
def addHandler (s : BrowserSideRouter) (handler : Handler) (first : Bool) :
    Option Int × BrowserSideRouter :=
  if first then
    let offset := s.handlers.offset + 1
    (some (-offset), { s with handlers := ⟨offset, some handler :: s.handlers.handlers⟩ })
  else if (s.handlers.handlers.length : Int) ≤ i32Max then
    (some (s.handlers.handlers.length - s.handlers.offset),
      { s with handlers := { s.handlers with
        handlers := s.handlers.handlers ++ [some handler] } })
  else (none, s)

/-- The trimming of `remove_handler`: empty places at both ends go. -/
def trim (d : HandlersDeque) : HandlersDeque :=
  let trimStart := (d.handlers.takeWhile (·.isNone)).length
  let handlers := d.handlers.drop trimStart
  ⟨d.offset - trimStart, (handlers.reverse.dropWhile (·.isNone)).reverse⟩

def removeHandler (s : BrowserSideRouter) (handlerId : Int) : Bool × BrowserSideRouter :=
  match s.handlers.index handlerId with
  | none => (false, s)
  | some index =>
    match s.handlers.handlers[index]? with
    | none => (false, s)
    | some entry =>
      let s := { s with handlers := trim { s.handlers with
        handlers := s.handlers.handlers.set index none } }
      match entry with
      | some _ => (true, s.cancelPendingFor none (some handlerId) true)
      | none => (false, s)

/-- `cancel_pending` on the UI thread. -/
def cancelPending (s : BrowserSideRouter) (browser : Option Int) (handlerId : Option Int) :
    BrowserSideRouter :=
  s.cancelPendingFor browser ((handlerId.bind s.handlers.lookup).map (·.1)) true

/-- The counting visitor of `pending_count`. -/
def countVisitor (handlerId : Int) : Visitor Nat Int BrowserSideQueryInfo :=
  fun _ _ value count =>
    (.cont .keepEntry, if value.handler.map (·.1) = some handlerId then count + 1 else count)

def pendingCount (s : BrowserSideRouter) (browser : Option Int) (handlerId : Option Int) : Nat :=
  if s.browserQueryInfoMap.isEmpty then 0
  else match (handlerId.bind s.handlers.lookup).map (·.1), browser with
    | some handlerId, some browser =>
      (s.browserQueryInfoMap.findBrowserAll browser (countVisitor handlerId) 0).2
    | some handlerId, none => (s.browserQueryInfoMap.findAll (countVisitor handlerId) 0).2
    | none, some browser => s.browserQueryInfoMap.browserLen browser
    | none, none => s.browserQueryInfoMap.len

def onBeforeBrowse (s : BrowserSideRouter) (browser : Option Int) (frame : Option Frame) :
    BrowserSideRouter :=
  if (frame.map (·.isMain)).getD false then s.cancelPendingFor browser none false else s

/-- The `find_map` over the handlers in `on_process_message_received`: the first handler that
accepts the query, with its id. -/
def offerQuery (answers : Nat → Bool) (offset queryId : Int) :
    Nat → List (Option Handler) → List RouterEvent → Option (Int × Handler) × List RouterEvent
  | _, [], log => (none, log)
  | index, none :: rest, log => offerQuery answers offset queryId (index + 1) rest log
  | index, some handler :: rest, log =>
    if (index : Int) ≤ i32Max then
      let log := .onQuery handler queryId :: log
      if answers index then (some (index - offset, handler), log)
      else offerQuery answers offset queryId (index + 1) rest log
    else offerQuery answers offset queryId (index + 1) rest log

/-- `on_process_message_received` for a query message. -/
def onQueryMessage (s : BrowserSideRouter) (browser : Option Int) (frame : Option Frame)
    (contextId requestId : Int) (isPersistent : Bool) (answers : Nat → Bool) :
    BrowserSideRouter :=
  match browser, s.handlers.handlers.isEmpty with
  | some browserId, false =>
    let (queryId, generator) := s.queryIdGenerator.next
    let callback := s.effects.callbacks.length
    let e : Effects := { s.effects with
      callbacks := s.effects.callbacks ++ [⟨true, browserId, queryId, isPersistent⟩] }
    let (handler, log) := offerQuery answers s.handlers.offset queryId 0 s.handlers.handlers e.log
    let e := { e with log := log }
    let s := { s with queryIdGenerator := generator, effects := e }
    match handler with
    | some handler =>
      -- persist the query information until the callback executes
      { s with
        browserQueryInfoMap := s.browserQueryInfoMap.insert browserId queryId
          ⟨browser, frame, contextId, requestId, isPersistent, some callback, some handler⟩ }
    | none =>
      -- no one chose to handle the query so cancel it
      { s with effects := (e.detach callback).cancelUnhandledQuery frame contextId requestId }
  | _, _ => { s with effects := s.effects.cancelUnhandledQuery frame contextId requestId }

/-- `on_process_message_received` for a cancel message. -/
def onCancelMessage (s : BrowserSideRouter) (browser : Option Int) (contextId requestId : Int) :
    BrowserSideRouter :=
  match browser with
  | some browser => s.cancelPendingRequest browser contextId requestId
  | none => s

/-- The query is pending: the map has an entry with its callback. -/
def Pending (s : BrowserSideRouter) (q : Query) : Prop :=
  ∃ e ∈ s.browserQueryInfoMap.entries, e.2.2.callback = some q

instance (s : BrowserSideRouter) (q : Query) : Decidable (s.Pending q) :=
  inferInstanceAs (Decidable (∃ e ∈ _, _))

/-- `BrowserSideRouterCallbackSuccess::execute`, without the note that it has run. -/
def executeSuccess (s : BrowserSideRouter) (q : Query) (held builds : Bool) : BrowserSideRouter :=
  match s.effects.callbacks[q]? with
  | none => s
  | some callback =>
    -- the weak reference upgrades while the pending query or client code holds the callback
    if held ∨ s.Pending q then
      -- non-persistent callbacks are only good for a single use
      let s' := if callback.persistent then s else { s with effects := s.effects.detach q }
      if callback.router then s'.onCallbackSuccess callback.browserId callback.queryId builds
      else s'
    else s

/-- `BrowserSideRouterCallbackFailure::execute`, without the note that it has run. -/
def executeFailure (s : BrowserSideRouter) (q : Query) (held : Bool) (errorCode : Int)
    (errorMessage : String) : BrowserSideRouter :=
  match s.effects.callbacks[q]? with
  | none => s
  | some callback =>
    if held ∨ s.Pending q then
      -- failure always invalidates the callback
      let s' := { s with effects := s.effects.detach q }
      if callback.router then
        s'.onCallbackFailure callback.browserId callback.queryId errorCode errorMessage
      else s'
    else s

/-- The entry points of the router and the tasks posted to the UI thread. `cancelPendingForTask`
is `BrowserSideRouterCancelPendingFor`, which a cancellation from another thread posts. -/
inductive Action where
  | addHandler (handler : Handler) (first : Bool)
  | removeHandler (handlerId : Int)
  | cancelPending (browser : Option Int) (handlerId : Option Int)
  | cancelPendingForTask (browser : Option Int) (handlerId : Option Int) (notifyRenderer : Bool)
  | onBeforeClose (browser : Option Int)
  | onRenderProcessTerminated (browser : Option Int)
  | onBeforeBrowse (browser : Option Int) (frame : Option Frame)
  | queryMessage (browser : Option Int) (frame : Option Frame) (contextId requestId : Int)
      (isPersistent : Bool) (answers : Nat → Bool)
  | cancelMessage (browser : Option Int) (contextId requestId : Int)
  | successTask (query : Query) (held builds : Bool)
  | failureTask (query : Query) (held : Bool) (errorCode : Int) (errorMessage : String)

/-- One more event in the router's log. -/
def report (s : BrowserSideRouter) (event : RouterEvent) : BrowserSideRouter :=
  { s with effects := s.effects.report event }

/-- One entry point or task. The note that a task has run follows what the task does. -/
def step (s : BrowserSideRouter) : Action → BrowserSideRouter
  | .addHandler handler first => (s.addHandler handler first).2
  | .removeHandler handlerId => (s.removeHandler handlerId).2
  | .cancelPending browser handlerId => s.cancelPending browser handlerId
  | .cancelPendingForTask browser handlerId notifyRenderer =>
    s.cancelPendingFor browser handlerId notifyRenderer
  | .onBeforeClose browser => s.cancelPendingFor browser none false
  | .onRenderProcessTerminated browser => s.cancelPendingFor browser none false
  | .onBeforeBrowse browser frame => s.onBeforeBrowse browser frame
  | .queryMessage browser frame contextId requestId isPersistent answers =>
    s.onQueryMessage browser frame contextId requestId isPersistent answers
  | .cancelMessage browser contextId requestId => s.onCancelMessage browser contextId requestId
  | .successTask q held builds =>
    match s.effects.callbacks[q]? with
    | none => s
    | some callback =>
      (s.executeSuccess q held builds).report (.successRan q callback.persistent)
  | .failureTask q held errorCode errorMessage =>
    match s.effects.callbacks[q]? with
    | none => s
    | some _ => (s.executeFailure q held errorCode errorMessage).report (.failureRan q)

end BrowserSideRouter

end CefCore.MessageRouter
