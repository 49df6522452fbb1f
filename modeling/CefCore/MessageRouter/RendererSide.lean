import CefCore.MessageRouter.Basic
import CefCore.MessageRouter.BrowserInfoMap

/-!
# The Rust renderer-side message router

`RendererSideRouter` of `rust/cef-rs/cef/src/wrapper/message_router.rs`: requests that JavaScript
sends and cancels, the contexts they come from, and the responses of the browser process. The
browser process is any sender of responses: a response may carry any ids, and any number of
responses may come in any order.

## Main definitions

* `RendererSideRouter.step`: an entry point of the router.

## Implementation notes

The router has four mutexes of `std`. A function gets the ones that its callers hold, and taking
one of them again does not come back (`none`). A guard lives to the end of the function that
takes it.

Each call of `send_query` that stores a request gets the next number; the request keeps it, so
that the log can say whose callback is executed. The code does not look at it. A JavaScript
callback is the last thing that the functions executing one do, and no mutex is held there: what
it calls in the router is a later step.
-/

namespace CefCore.MessageRouter

open Std

/-- A `V8Value`, known by its identity. -/
abbrev V8Value := Nat

/-- A `V8Context`, known by its identity, which is what `is_same` compares. -/
abbrev V8Context := Nat

inductive RendererMutex where
  | contextIdGenerator
  | requestIdGenerator
  | browserRequestInfoMap
  | contextMap
  deriving DecidableEq

/-- `Mutex::lock` by a thread that holds some of the mutexes. -/
def RendererMutex.lock (m : RendererMutex) (held : List RendererMutex) :
    Option (List RendererMutex) :=
  if m ∈ held then none else some (m :: held)

/-- `RendererSideRequestInfo`, a pending request, with the number of the `send_query` that has
stored it. -/
structure RendererSideRequestInfo where
  isPersistent : Bool
  successCallback : Option V8Value
  failureCallback : Option V8Value
  request : Nat

/-- What `send_query` has stored and where. -/
structure SentRequest where
  browserId : Int
  contextId : Int
  requestId : Int
  isPersistent : Bool

/-- The two kinds of JavaScript callbacks. -/
inductive Outcome where
  | success
  | failure
  deriving DecidableEq

/-- What the router does that can be seen from outside. -/
inductive RendererEvent where
  /-- A request's callback is executed because of a response with these ids. -/
  | executed (request : Nat) (persistent : Bool) (outcome : Outcome) (callback : V8Value)
      (context : V8Context) (browserId contextId requestId : Int)
  /-- A request is canceled. -/
  | canceled (request : Nat)
  /-- A query message is sent to the browser process. -/
  | queryMessage (contextId requestId : Int) (persistent : Bool)
  /-- A cancel message is sent to the browser process. -/
  | cancelMessage (contextId requestId : Int)

/-- The order of the request keys `(context_id, request_id)`. -/
abbrev requestKeyCmp : Int × Int → Int × Int → Ordering := lexOrd.compare

structure RendererSideRouter where
  contextIdGenerator : IdGenerator
  requestIdGenerator : IdGenerator
  browserRequestInfoMap : BrowserInfoMap (Int × Int) RendererSideRequestInfo requestKeyCmp
  contextMap : TreeMap Int (Option V8Context)
  sent : List SentRequest
  log : List RendererEvent

/-- `BrowserMessage`, a response. A payload that is not a string needs the context to be entered
before the callback is executed, which may fail. -/
structure BrowserMessage where
  contextId : Int
  requestId : Int
  isSuccess : Bool
  payloadIsString : Bool
  enters : Bool

namespace RendererSideRouter

def new : RendererSideRouter :=
  ⟨.new i32Max, .new i32Max, ∅, ∅, [], []⟩

/-- The visitor of `get_request_info`. -/
def requestInfoVisitor (alwaysRemove : Bool) : Visitor Unit (Int × Int) RendererSideRequestInfo :=
  fun _ _ value s =>
    (.cont (if alwaysRemove || !value.isPersistent then .removeEntry else .keepEntry), s)

/-- `get_request_info`: retrieve a request from the map, removing it if `alwaysRemove` or if it
is not persistent. -/
def getRequestInfo (s : RendererSideRouter) (held : List RendererMutex)
    (browserId contextId requestId : Int) (alwaysRemove : Bool) :
    Option (Option RendererSideRequestInfo × RendererSideRouter) := do
  let _ ← RendererMutex.browserRequestInfoMap.lock held
  let (info, m, _) := s.browserRequestInfoMap.find browserId (contextId, requestId)
    (some (requestInfoVisitor alwaysRemove)) ()
  return (info, { s with browserRequestInfoMap := m })

/-- `send_query`, with the request id it returns. The request comes with its persistence and its
callbacks. -/
def sendQuery (s : RendererSideRouter) (held : List RendererMutex) (browser : Option Int)
    (frame : Option Frame) (contextId : Int) (isPersistent : Bool)
    (successCallback failureCallback : Option V8Value) : Option (Int × RendererSideRouter) := do
  let held ← RendererMutex.requestIdGenerator.lock held
  let _ ← RendererMutex.browserRequestInfoMap.lock held
  match browser, frame with
  | some browserId, some _ =>
    let (requestId, generator) := s.requestIdGenerator.next
    return (requestId, { s with
      requestIdGenerator := generator
      browserRequestInfoMap := s.browserRequestInfoMap.insert browserId (contextId, requestId)
        ⟨isPersistent, successCallback, failureCallback, s.sent.length⟩
      sent := s.sent ++ [⟨browserId, contextId, requestId, isPersistent⟩]
      log := .queryMessage contextId requestId isPersistent :: s.log })
  | _, _ => return (reservedId, s)

/-- The visitor of `send_cancel` for a whole context: it counts the requests it cancels. -/
def cancelVisitor (contextId : Int) :
    Visitor (Nat × List RendererEvent) (Int × Int) RendererSideRequestInfo :=
  fun _ key value (cancelCount, log) =>
    if contextId = key.1 then
      (.cont .removeEntry, cancelCount + 1, .canceled value.request :: log)
    else (.cont .keepEntry, cancelCount, log)

section

variable (s : RendererSideRouter) (held : List RendererMutex)
include held

/-- The part of `send_cancel` that cancels, with the number of requests it has canceled. The
guard of the request map is in `held`. -/
def cancelRequests (browserId contextId requestId : Int) : Option (Nat × RendererSideRouter) :=
  if requestId ≠ reservedId then do
    -- cancel a single request
    let (info, s) ← s.getRequestInfo held browserId contextId requestId true
    match info with
    | some info => return (1, { s with log := .canceled info.request :: s.log })
    | none => return (0, s)
  else
    -- cancel all requests with the specified context id
    let (m, cancelCount, log) := s.browserRequestInfoMap.findBrowserAll browserId
      (cancelVisitor contextId) (0, s.log)
    some (cancelCount, { s with browserRequestInfoMap := m, log := log })

/-- `send_cancel`: cancel one request, or all requests of the context if the request id is the
reserved one. -/
def sendCancel (browser : Option Int)
    (frame : Option Frame) (contextId requestId : Int) : Option (Bool × RendererSideRouter) := do
  let held ← RendererMutex.browserRequestInfoMap.lock held
  match browser, frame with
  | some browserId, some _ =>
    let (cancelCount, s) ← s.cancelRequests held browserId contextId requestId
    if cancelCount > 0 then
      return (true, { s with log := .cancelMessage contextId requestId :: s.log })
    else return (false, s)
  | _, _ => return (false, s)

def getContextById (contextId : Int) :
    Option (Option V8Context) := do
  let _ ← RendererMutex.contextMap.lock held
  return s.contextMap[contextId]?.join

def executeSuccessCallback (browserId contextId requestId : Int) (payloadIsString enters : Bool) :
    Option RendererSideRouter := do
  let (info, s) ← s.getRequestInfo held browserId contextId requestId false
  match info with
  | none => return s
  | some info =>
    match info.successCallback with
    | none => return s
    | some callback =>
      match ← s.getContextById held contextId with
      | none => return s
      | some context =>
        if payloadIsString || enters then
          return { s with
            log := .executed info.request info.isPersistent .success callback context browserId
              contextId requestId :: s.log }
        else return s

def executeFailureCallback (browserId contextId requestId : Int) : Option RendererSideRouter := do
  let (info, s) ← s.getRequestInfo held browserId contextId requestId true
  match info with
  | none => return s
  | some info =>
    match info.failureCallback with
    | none => return s
    | some callback =>
      match ← s.getContextById held contextId with
      | none => return s
      | some context =>
        return { s with
          log := .executed info.request info.isPersistent .failure callback context browserId
            contextId requestId :: s.log }

/-- `create_id_for_context`, with the id it returns. -/
def createIdForContext (context : V8Context) : Option (Int × RendererSideRouter) := do
  let held ← RendererMutex.contextIdGenerator.lock held
  let _ ← RendererMutex.contextMap.lock held
  let (contextId, generator) := s.contextIdGenerator.next
  return (contextId, { s with
    contextIdGenerator := generator
    contextMap := s.contextMap.insert contextId (some context) })

def getIdForContext (context : V8Context) (remove : Bool) : Option (Int × RendererSideRouter) := do
  let _ ← RendererMutex.contextMap.lock held
  match s.contextMap.toList.find? fun e => e.2 = some context with
  | some (contextId, _) =>
    if remove then return (contextId, { s with contextMap := s.contextMap.erase contextId })
    else return (contextId, s)
  | none => return (reservedId, s)

def onContextReleased (browser : Option Int)
    (frame : Option Frame) (context : Option V8Context) : Option RendererSideRouter := do
  match context with
  | none => return s
  | some context =>
    let (contextId, s) ← s.getIdForContext held context true
    if contextId ≠ reservedId then
      -- cancel all pending requests for the context
      let (_, s) ← s.sendCancel held browser frame contextId reservedId
      return s
    else return s

/-- `on_process_message_received` for a response. -/
def onProcessMessageReceived
    (browser : Option Int) (message : BrowserMessage) : Option RendererSideRouter :=
  match browser with
  | none => some s
  | some browserId =>
    if message.isSuccess then
      s.executeSuccessCallback held browserId message.contextId message.requestId
        message.payloadIsString message.enters
    else s.executeFailureCallback held browserId message.contextId message.requestId

end

inductive Action where
  | createIdForContext (context : V8Context)
  | sendQuery (browser : Option Int) (frame : Option Frame) (contextId : Int)
      (isPersistent : Bool) (successCallback failureCallback : Option V8Value)
  | sendCancel (browser : Option Int) (frame : Option Frame) (contextId requestId : Int)
  | contextReleased (browser : Option Int) (frame : Option Frame) (context : Option V8Context)
  | response (browser : Option Int) (message : BrowserMessage)

/-- One entry point, called while no mutex is held. -/
def step (s : RendererSideRouter) : Action → Option RendererSideRouter
  | .createIdForContext context => (s.createIdForContext [] context).map (·.2)
  | .sendQuery browser frame contextId isPersistent successCallback failureCallback =>
    (s.sendQuery [] browser frame contextId isPersistent successCallback failureCallback).map (·.2)
  | .sendCancel browser frame contextId requestId =>
    (s.sendCancel [] browser frame contextId requestId).map (·.2)
  | .contextReleased browser frame context => s.onContextReleased [] browser frame context
  | .response browser message => s.onProcessMessageReceived [] browser message

end RendererSideRouter

end CefCore.MessageRouter
