import CefCore.ResourceManager.RequestProtocol
import Mathlib.Order.Basic

/-!
# The C++ resource manager

`CefResourceManager` of `libcef_dll/wrapper/cef_resource_manager.cc`: providers in a list sorted
by `order`, and requests that walk along it. A `RequestState` is moved between the `Request`
object that is offered to a provider, the task that a `Continue` or `Stop` posts, and the
manager; it holds an iterator into the provider list and one into that entry's list of pending
requests.

## Main definitions

* `CefResourceManager.step`: a call or a task.

## Implementation notes

* Everything runs on the IO thread; a call from another thread is the posted call. While a
  provider's `OnRequest` is running, the provider may call the manager and the requests, so each
  of these calls is a step of its own and `OnRequest` ends with the step `onRequestReturns`. In
  the meantime no posted task runs and no other load begins.
* Entries, requests and request states are numbered in the order in which they are made. The
  number of an entry stands for its list node, so that an iterator is such a number, or `none`
  for `end()`. An iterator to a node that is gone raises the flag `fault`.
* A step is `none` when the call does not come back (`DeleteProvider` does not advance past an
  entry whose deletion is already pending, and its callers loop) or when the step is not possible
  in this state.
* `OnRequestCanceled` only tells the provider. The values in `RequestParams` that the manager
  only passes on are left out, and the manager itself is alive.
-/

namespace CefCore.ResourceManager

/-- The number of a `Request` object. -/
abbrev RequestId := Nat

structure ProviderEntry where
  id : Nat
  order : Int
  identifier : String
  pendingRequests : List RequestId
  deletionPending : Bool

/-- `RequestState`, with `params_.request_->GetIdentifier()`. -/
structure RequestState where
  id : Nat
  identifier : Nat
  currentEntryPos : Option EntryId
  currentRequestPos : RequestId

/-- A task that owns a request state, posted to the IO thread. -/
inductive Task where
  | continueOnIOThread (state : RequestState) (handler : Option ResourceHandler)
  | stopOnIOThread (state : RequestState)

def Task.state : Task → RequestState
  | .continueOnIOThread state _ => state
  | .stopOnIOThread state => state

def ProviderEntry.place (e : ProviderEntry) : Place := ⟨e.order, e.id⟩

/-- `cef_return_value_t`, as far as `OnBeforeResourceLoad` returns it. -/
inductive ReturnValue where
  | continue_
  | continueAsync

/-- `CefResourceManager`, with the `Request` objects made so far (each with the state it owns),
the posted tasks, the request whose `OnRequest` is running and whether this is in a call of
`OnBeforeResourceLoad`, what these calls have returned, and the counters and notes. -/
structure CefResourceManager where
  providers : List ProviderEntry
  pendingHandlers : List (Nat × ResourceHandler)
  requests : List (Option RequestState)
  tasks : List Task
  active : Option RequestId
  loading : Bool
  returned : List ReturnValue
  nextEntry : Nat
  nextState : Nat
  log : List ResourceEvent
  fault : Bool

namespace CefResourceManager

def new : CefResourceManager := ⟨[], [], [], [], none, false, [], 0, 0, [], false⟩

def report (m : CefResourceManager) (e : ResourceEvent) : CefResourceManager :=
  { m with log := e :: m.log }

/-- The places of the entries whose deletion is not pending. -/
def validPlaces (m : CefResourceManager) : List Place :=
  (m.providers.filter fun e => !e.deletionPending).map ProviderEntry.place

def entryAt (m : CefResourceManager) (pos : EntryId) : Option ProviderEntry :=
  m.providers.find? fun e => e.id = pos

/-- The list from the node after `pos` on. -/
def after (pos : EntryId) (providers : List ProviderEntry) : List ProviderEntry :=
  (providers.dropWhile fun e => e.id ≠ pos).drop 1

/-- `GetNextValidProvider`, from the beginning of a list: the first entry that is not pending
deletion. -/
def getNextValidProvider (providers : List ProviderEntry) : Option ProviderEntry :=
  providers.find? fun e => !e.deletionPending

def updateEntry (providers : List ProviderEntry) (pos : EntryId)
    (f : ProviderEntry → ProviderEntry) : List ProviderEntry :=
  providers.map fun e => if e.id = pos then f e else e

/-- The loop of `AddProvider`: insert before the first entry with a higher order. -/
def insertEntry (entry : ProviderEntry) : List ProviderEntry → List ProviderEntry
  | [] => [entry]
  | e :: rest => if e.order > entry.order then entry :: e :: rest
    else e :: insertEntry entry rest

def addProvider (m : CefResourceManager) (order : Int) (identifier : String) : CefResourceManager :=
  { m with
    providers := insertEntry ⟨m.nextEntry, order, identifier, [], false⟩ m.providers
    nextEntry := m.nextEntry + 1 }

/-- `Request::Continue` on the IO thread. -/
def requestContinue (m : CefResourceManager) (r : RequestId) (handler : Option ResourceHandler) :
    CefResourceManager :=
  match m.requests[r]? with
  | some (some state) =>
    { m with
      requests := m.requests.set r none
      tasks := m.tasks ++ [.continueOnIOThread state handler]
      log := .continued state.id handler :: m.log }
  | _ => m

/-- `Request::Stop` on the IO thread. -/
def requestStop (m : CefResourceManager) (r : RequestId) : CefResourceManager :=
  match m.requests[r]? with
  | some (some state) =>
    { m with
      requests := m.requests.set r none
      tasks := m.tasks ++ [.stopOnIOThread state]
      log := .stopped state.id :: m.log }
  | _ => m

/-- The body of the loop over the pending requests in `DeleteProvider`. -/
def cancelPending (stop : Bool) (m : CefResourceManager) (r : RequestId) : CefResourceManager :=
  if stop then m.requestStop r else m.requestContinue r none

/-- The loop of `RemoveProviders` and `RemoveAllProviders` over the provider list, with
`DeleteProvider` at each entry that is wanted: the list that it leaves, and the manager with the
canceled requests. -/
def deleteProviders (wanted : ProviderEntry → Bool) (stop : Bool) :
    List ProviderEntry → CefResourceManager → Option (List ProviderEntry × CefResourceManager)
  | [], m => some ([], m)
  | e :: rest, m =>
    if wanted e then
      -- `DeleteProvider` returns at once and the iterator stays here for ever
      if e.deletionPending then none
      else if e.pendingRequests.isEmpty then deleteProviders wanted stop rest m
      else do
        let m := e.pendingRequests.foldl (cancelPending stop) m
        let (rest, m) ← deleteProviders wanted stop rest m
        return ({ e with deletionPending := true } :: rest, m)
    else do
      let (rest, m) ← deleteProviders wanted stop rest m
      return (e :: rest, m)

section

variable (m : CefResourceManager)

def removeProviders (identifier : String) : Option CefResourceManager := do
  let (providers, m) ← deleteProviders (fun e => e.identifier = identifier) false m.providers m
  return { m with providers := providers }

def removeAllProviders : Option CefResourceManager := do
  let (providers, m) ← deleteProviders (fun _ => true) true m.providers m
  return { m with providers := providers }

section

variable (state : RequestState)

def detachRequestFromProvider : CefResourceManager × RequestState :=
  match state.currentEntryPos with
  | none => (m, state)
  | some pos =>
    match m.entryAt pos with
    | none => ({ m with fault := true }, { state with currentEntryPos := none })
    | some entry =>
      let pending := entry.pendingRequests.erase state.currentRequestPos
      let providers :=
        if entry.deletionPending && pending.isEmpty then m.providers.filter fun e => e.id ≠ pos
        else updateEntry m.providers pos fun e => { e with pendingRequests := pending }
      ({ m with
          providers := providers
          fault := m.fault || !entry.pendingRequests.contains state.currentRequestPos },
        { state with currentEntryPos := none })

/-- `StopRequest`: the state is destroyed, and its destructor continues the callback. -/
def stopRequest : CefResourceManager :=
  (m.detachRequestFromProvider state).1.report (.ended state.id)

/-- `IncrementProvider`, with the entry to move to. -/
def incrementProvider : Option ProviderEntry × CefResourceManager × RequestState :=
  let next := match state.currentEntryPos with
    | some pos => getNextValidProvider (after pos m.providers)
    | none => none
  -- `end()` must not be incremented
  let m := { m with fault := m.fault || state.currentEntryPos.isNone }
  let (m, state) := m.detachRequestFromProvider state
  match next with
  | some entry => (some entry, m, { state with currentEntryPos := some entry.id })
  | none => (none, m.report (.exhausted state.id m.validPlaces), state)

/-- The beginning of an iteration of `SendRequest`: make the `Request` object and call `OnRequest`
of the entry that the state points to. -/
def offer (entry : ProviderEntry) : CefResourceManager :=
  let r := m.requests.length
  { m with
    requests := m.requests ++ [some { state with currentRequestPos := r }]
    providers := updateEntry m.providers entry.id fun e =>
      { e with pendingRequests := e.pendingRequests ++ [r] }
    active := some r
    log := .offered state.id entry.place m.validPlaces :: m.log }

/-- Move to the next provider if any, or stop: the rest of an iteration of `SendRequest`, and
`ContinueRequest` without a handler. -/
def sendToNextProvider : CefResourceManager :=
  match m.incrementProvider state with
  | (some entry, m, state) => m.offer state entry
  | (none, m, state) => m.stopRequest state

end

/-- The end of `SendRequest`; `OnBeforeResourceLoad` returns if it was the caller. -/
def finishSending (potentiallyHandled : Bool) : CefResourceManager :=
  if m.loading then
    { m with
      loading := false
      returned := (if potentiallyHandled then .continueAsync else .continue_) :: m.returned }
  else m

/-- `OnRequest` of the active request returns. -/
def onRequestReturns (handled : Bool) : Option CefResourceManager :=
  match m.active with
  | none => none
  | some r =>
    let m := { m with active := none }
    match handled, m.requests[r]? with
    | false, some (some state) =>
      let m := ({ m with requests := m.requests.set r none }.report
        (.declined state.id)).sendToNextProvider state
      some (if m.active.isNone then m.finishSending false else m)
    -- the provider will handle the request, or has disposed of it already
    | _, _ => some (m.finishSending true)

def onBeforeResourceLoad (identifier : Nat) : Option CefResourceManager :=
  if m.active.isSome then none
  else match getNextValidProvider m.providers with
    | none => some { m with returned := .continue_ :: m.returned }
    | some entry =>
      -- the request position is set when the `Request` object is made
      let state : RequestState := ⟨m.nextState, identifier, some entry.id, 0⟩
      some ({ m with nextState := m.nextState + 1, loading := true }.offer state entry)

/-- `GetResourceHandler`, with the handler it returns. -/
def getResourceHandler (identifier : Nat) : Option ResourceHandler × CefResourceManager :=
  ((m.pendingHandlers.find? fun e => e.1 = identifier).map (·.2),
    { m with pendingHandlers := m.pendingHandlers.filter fun e => e.1 ≠ identifier })

def continueRequest (state : RequestState)
    (handler : Option ResourceHandler) : CefResourceManager :=
  match handler with
  | some handler =>
    -- `std::map::insert` keeps an entry that is there already
    let known := m.pendingHandlers.any fun e => e.1 = state.identifier
    { m with
      pendingHandlers := if known then m.pendingHandlers
        else m.pendingHandlers ++ [(state.identifier, handler)] }.stopRequest state
  | none => m.sendToNextProvider state

def runTask (index : Nat) : Option CefResourceManager :=
  if m.active.isSome then none
  else match m.tasks[index]? with
    | none => none
    | some task =>
      let m := { m with tasks := m.tasks.eraseIdx index }
      match task with
      | .continueOnIOThread state handler => some (m.continueRequest state handler)
      | .stopOnIOThread state => some (m.stopRequest state)

end

inductive Action where
  | addProvider (order : Int) (identifier : String)
  | removeProviders (identifier : String)
  | removeAllProviders
  | requestContinue (request : RequestId) (handler : Option ResourceHandler)
  | requestStop (request : RequestId)
  | onBeforeResourceLoad (identifier : Nat)
  | getResourceHandler (identifier : Nat)
  | onRequestReturns (handled : Bool)
  | runTask (index : Nat)

def step (m : CefResourceManager) : Action → Option CefResourceManager
  | .addProvider order identifier => some (m.addProvider order identifier)
  | .removeProviders identifier => m.removeProviders identifier
  | .removeAllProviders => m.removeAllProviders
  | .requestContinue r handler => some (m.requestContinue r handler)
  | .requestStop r => some (m.requestStop r)
  | .onBeforeResourceLoad identifier => m.onBeforeResourceLoad identifier
  | .getResourceHandler identifier => some (m.getResourceHandler identifier).2
  | .onRequestReturns handled => m.onRequestReturns handled
  | .runTask index => m.runTask index

end CefResourceManager

end CefCore.ResourceManager
