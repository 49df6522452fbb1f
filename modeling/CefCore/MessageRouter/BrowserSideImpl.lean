import CefCore.Foundations.ObjectStore
import CefCore.MessageRouter.Basic
import CefCore.MessageRouter.CefBrowserInfoMap

/-!
# The C++ browser-side message router

`CefMessageRouterBrowserSideImpl` of `libcef_dll/wrapper/cef_message_router.cc`. The router
allocates a `QueryInfo` for each query that a handler accepts, keeps raw pointers to them in its
map and deletes them by hand. Everything runs on the UI thread and the handlers do not call back
into the router.

## Main definitions

* `BrowserSideImpl.step`: an entry point of the router.

## Implementation notes

A task posted by `Success` or `Failure` holds a reference to its callback object, so that it
always finds it. What a handler answers to `OnQuery` is part of the query message's action, one
answer for each place in the handler list. Payloads and message names are left out; a response
builder is kept as the fact that it builds a message.
-/

namespace CefCore.MessageRouter

open Std

/-- `CallbackImpl`; `router` tells whether `router_` is set. -/
structure CallbackImpl where
  router : Bool
  browserId : Int
  queryId : Int
  persistent : Bool

/-- `QueryInfo`, a pending query. -/
structure QueryInfo where
  browser : Int
  frame : Frame
  contextId : Int
  requestId : Int
  persistent : Bool
  callback : Query
  handler : Handler

/-- A `QueryInfo*`. -/
abbrev QueryInfoPtr := Nat

/-- The objects of the router and its log: what the visitors work on. -/
structure Memory where
  infos : ObjectStore QueryInfo
  callbacks : List CallbackImpl
  log : List RouterEvent

namespace Memory

section

variable (mem : Memory)

def report (event : RouterEvent) : Memory := { mem with log := event :: mem.log }

/-- `CallbackImpl::Detach`, also `router_ = nullptr`. -/
def detach (q : Query) : Memory :=
  { mem with callbacks := mem.callbacks.modify q fun c => { c with router := false } }

/-- `delete info`. -/
def delete (info : QueryInfoPtr) : Memory :=
  { mem with infos := mem.infos.delete info }

/-- Use the object behind a pointer. -/
def withInfo (info : QueryInfoPtr) (f : QueryInfo → Memory) : Memory :=
  match mem.infos.read info with
  | some i => f i
  | none => { mem with infos := mem.infos.fail }

def sendQuerySuccess (query : Option Query) (frame : Frame)
    (contextId requestId : Int) (builds : Bool) : Memory :=
  if builds then mem.report (.querySuccess query frame contextId requestId) else mem

def sendQueryFailure (query : Option Query) (frame : Frame)
    (contextId requestId errorCode : Int) (errorMessage : String) : Memory :=
  mem.report (.queryFailure query frame contextId requestId errorCode errorMessage)

def cancelUnhandledQuery (frame : Frame) (contextId requestId : Int) : Memory :=
  mem.sendQueryFailure none frame contextId requestId canceledErrorCode canceledErrorMessage

def cancelQuery (queryId : Int) (info : QueryInfoPtr) (notifyRenderer : Bool) : Memory :=
  mem.withInfo info fun i =>
    let mem := if notifyRenderer then
        mem.sendQueryFailure (some i.callback) i.frame i.contextId i.requestId canceledErrorCode
          canceledErrorMessage
      else mem
    let mem := mem.report
      (.onQueryCanceled (some i.callback) i.handler (some i.browser) (some i.frame) queryId)
    -- invalidate the callback
    mem.detach i.callback

end

end Memory

/-- `CefMessageRouterBrowserSideImpl`. -/
structure BrowserSideImpl where
  queryIdGenerator : IdGenerator
  handlers : List Handler
  browserQueryInfoMap : BrowserInfoMap Int QueryInfoPtr compare
  memory : Memory

namespace BrowserSideImpl

def new : BrowserSideImpl := ⟨.new i64Max, [], ∅, ⟨.empty, [], []⟩⟩

/-- The visitor of `GetQueryInfo`, with `removed_`. -/
def queryInfoVisitor (alwaysRemove : Bool) : Visitor (Memory × Bool) Int QueryInfoPtr :=
  fun _ _ info (mem, removed) =>
    match mem.infos.read info with
    | some i =>
      if alwaysRemove || !i.persistent then (.cont .removeEntry, mem, true)
      else (.cont .keepEntry, mem, false)
    | none => (.cont .keepEntry, { mem with infos := mem.infos.fail }, removed)

/-- `GetQueryInfo`, with `*removed`. -/
def getQueryInfo (s : BrowserSideImpl) (browserId queryId : Int) (alwaysRemove : Bool) :
    Option QueryInfoPtr × Bool × BrowserSideImpl :=
  let (info, m, mem, removed) := CefBrowserInfoMap.find s.browserQueryInfoMap browserId queryId
    (queryInfoVisitor alwaysRemove) (s.memory, false)
  (info, removed, { s with browserQueryInfoMap := m, memory := mem })

def onCallbackSuccess (s : BrowserSideImpl) (browserId queryId : Int) (builds : Bool) :
    BrowserSideImpl :=
  match s.getQueryInfo browserId queryId false with
  | (none, _, s) => s
  | (some info, removed, s) =>
    let mem := s.memory.withInfo info fun i =>
      s.memory.sendQuerySuccess (some i.callback) i.frame i.contextId i.requestId builds
    { s with memory := if removed then mem.delete info else mem }

def onCallbackFailure (s : BrowserSideImpl) (browserId queryId errorCode : Int)
    (errorMessage : String) : BrowserSideImpl :=
  match s.getQueryInfo browserId queryId true with
  | (none, _, s) => s
  | (some info, _, s) =>
    let mem := s.memory.withInfo info fun i =>
      s.memory.sendQueryFailure (some i.callback) i.frame i.contextId i.requestId errorCode
        errorMessage
    { s with memory := mem.delete info }

/-- The visitor of `CancelPendingFor`. -/
def cancelPendingVisitor (handler : Option Handler) (notifyRenderer : Bool) :
    Visitor Memory Int QueryInfoPtr :=
  fun _ infoId info mem =>
    match mem.infos.read info with
    | some i =>
      if handler = none ∨ handler = some i.handler then
        (.cont .removeEntry, (mem.cancelQuery infoId info notifyRenderer).delete info)
      else (.cont .keepEntry, mem)
    | none => (.cont .keepEntry, { mem with infos := mem.infos.fail })

/-- `CancelPendingFor` on the UI thread. -/
def cancelPendingFor (s : BrowserSideImpl) (browser : Option Int) (handler : Option Handler)
    (notifyRenderer : Bool) : BrowserSideImpl :=
  if s.browserQueryInfoMap.isEmpty then s
  else
    let visitor := cancelPendingVisitor handler notifyRenderer
    let (m, mem) := match browser with
      | some browser =>
        CefBrowserInfoMap.findAllIn s.browserQueryInfoMap browser visitor s.memory
      | none => CefBrowserInfoMap.findAll s.browserQueryInfoMap visitor s.memory
    { s with browserQueryInfoMap := m, memory := mem }

/-- The visitor of `CancelPendingRequest`. -/
def cancelRequestVisitor (contextId requestId : Int) : Visitor Memory Int QueryInfoPtr :=
  fun _ infoId info mem =>
    match mem.infos.read info with
    | some i =>
      if i.contextId = contextId ∧ (requestId = reservedId ∨ i.requestId = requestId) then
        -- stop iterating if only canceling a single request
        (if requestId = reservedId then .cont .removeEntry else .brk .removeEntry,
          (mem.cancelQuery infoId info false).delete info)
      else (.cont .keepEntry, mem)
    | none => (.cont .keepEntry, { mem with infos := mem.infos.fail })

section

variable (s : BrowserSideImpl)

def cancelPendingRequest (browserId contextId requestId : Int) : BrowserSideImpl :=
  let (m, mem) := CefBrowserInfoMap.findAllIn s.browserQueryInfoMap browserId
    (cancelRequestVisitor contextId requestId) s.memory
  { s with browserQueryInfoMap := m, memory := mem }

/-- `AddHandler`, with what it returns. -/
def addHandler (handler : Handler) (first : Bool) : Bool × BrowserSideImpl :=
  if handler ∈ s.handlers then (false, s)
  else (true, { s with
    handlers := if first then handler :: s.handlers else s.handlers ++ [handler] })

/-- `RemoveHandler`, with what it returns. -/
def removeHandler (handler : Handler) : Bool × BrowserSideImpl :=
  if handler ∈ s.handlers then
    (true, ({ s with handlers := s.handlers.erase handler }).cancelPendingFor none (some handler)
      true)
  else (false, s)

def onBeforeBrowse (browser : Option Int) (frame : Frame) : BrowserSideImpl :=
  if frame.isMain then s.cancelPendingFor browser none false else s

end

/-- The loop over the copy of the handler list in `OnProcessMessageReceived`: the first handler
that accepts the query. -/
def offerQuery (answers : Nat → Bool) (queryId : Int) :
    Nat → List Handler → List RouterEvent → Option Handler × List RouterEvent
  | _, [], log => (none, log)
  | index, handler :: rest, log =>
    let log := .onQuery handler queryId :: log
    if answers index then (some handler, log)
    else offerQuery answers queryId (index + 1) rest log

/-- `OnProcessMessageReceived` for a query message. -/
def onQueryMessage (s : BrowserSideImpl) (browser : Int) (frame : Frame)
    (contextId requestId : Int) (persistent : Bool) (answers : Nat → Bool) :
    Option BrowserSideImpl :=
  if s.handlers.isEmpty then
    -- no handlers so cancel the query
    some { s with memory := s.memory.cancelUnhandledQuery frame contextId requestId }
  else
    let (queryId, generator) := s.queryIdGenerator.getNextId
    let callback := s.memory.callbacks.length
    let mem : Memory := { s.memory with
      callbacks := s.memory.callbacks ++ [⟨true, browser, queryId, persistent⟩] }
    let (handler, log) := offerQuery answers queryId 0 s.handlers mem.log
    let mem := { mem with log := log }
    match handler with
    | some handler => do
      -- persist the query information until the callback executes
      let (info, infos) := mem.infos.alloc
        ⟨browser, frame, contextId, requestId, persistent, callback, handler⟩
      let m ← CefBrowserInfoMap.add s.browserQueryInfoMap browser queryId info
      return { s with
        queryIdGenerator := generator
        browserQueryInfoMap := m
        memory := { mem with infos := infos } }
    | none =>
      -- no one chose to handle the query so cancel it
      some { s with
        queryIdGenerator := generator
        memory := (mem.detach callback).cancelUnhandledQuery frame contextId requestId }

/-- `SuccessImpl` of a callback. The log notes that it has run. -/
def successImpl (s : BrowserSideImpl) (q : Query) (builds : Bool) : BrowserSideImpl :=
  match s.memory.callbacks[q]? with
  | none => s
  | some callback =>
    if callback.router then
      let s := s.onCallbackSuccess callback.browserId callback.queryId builds
      -- non-persistent callbacks are only good for a single use
      let s := if callback.persistent then s else { s with memory := s.memory.detach q }
      { s with memory := s.memory.report (.successRan q callback.persistent) }
    else s

/-- `FailureImpl` of a callback. The log notes that it has run. -/
def failureImpl (s : BrowserSideImpl) (q : Query) (errorCode : Int) (errorMessage : String) :
    BrowserSideImpl :=
  match s.memory.callbacks[q]? with
  | none => s
  | some callback =>
    if callback.router then
      let s := s.onCallbackFailure callback.browserId callback.queryId errorCode errorMessage
      -- failure always invalidates the callback
      { s with memory := (s.memory.detach q).report (.failureRan q) }
    else s

/-- The entry points of the router and the tasks posted to the UI thread. `cancelPending` is also
the task that a cancellation from another thread posts. -/
inductive Action where
  | addHandler (handler : Handler) (first : Bool)
  | removeHandler (handler : Handler)
  | cancelPending (browser : Option Int) (handler : Option Handler)
  | onBeforeClose (browser : Option Int)
  | onRenderProcessTerminated (browser : Option Int)
  | onBeforeBrowse (browser : Option Int) (frame : Frame)
  | queryMessage (browser : Int) (frame : Frame) (contextId requestId : Int) (persistent : Bool)
      (answers : Nat → Bool)
  | cancelMessage (browser : Int) (contextId requestId : Int)
  | successTask (query : Query) (builds : Bool)
  | failureTask (query : Query) (errorCode : Int) (errorMessage : String)

def step (s : BrowserSideImpl) : Action → Option BrowserSideImpl
  | .addHandler handler first => some (s.addHandler handler first).2
  | .removeHandler handler => some (s.removeHandler handler).2
  | .cancelPending browser handler => some (s.cancelPendingFor browser handler true)
  | .onBeforeClose browser => some (s.cancelPendingFor browser none false)
  | .onRenderProcessTerminated browser => some (s.cancelPendingFor browser none false)
  | .onBeforeBrowse browser frame => some (s.onBeforeBrowse browser frame)
  | .queryMessage browser frame contextId requestId persistent answers =>
    s.onQueryMessage browser frame contextId requestId persistent answers
  | .cancelMessage browser contextId requestId =>
    some (s.cancelPendingRequest browser contextId requestId)
  | .successTask q builds => some (s.successImpl q builds)
  | .failureTask q errorCode errorMessage => some (s.failureImpl q errorCode errorMessage)

end BrowserSideImpl

end CefCore.MessageRouter
