import CefCore.Foundations.Run
import CefCore.Foundations.JsonValue
import Mathlib.Data.List.AList

/-!
# The requests for new browser infos

A renderer process asks `CefBrowserInfoManager` of `libcef/browser/browser_info_manager.cc` which
browser a new frame belongs to. If the answer is not known yet, the request waits in
`pending_new_browser_info_map_` until the browser is created, or a timeout, or the end of the
renderer process.

## Main definitions

* `CefBrowserInfoManager.step`: a call, or a task that a call has posted.

## Implementation notes

* A call holds `browser_info_lock_` from its beginning to its end, so that a call is one step.
* The task sequences are numbers. A response runs the callback on the sequence of the request: at
  once if that is the current one, else by a task. Posted tasks run in any order and may be late.
* Callbacks are known by the number of the request.
* The counters `next_timeout_id_` and `next_browser_id_` are `int`s. They have no bound here, so that the
  model speaks of runs with fewer than 2^31 requests and browsers.
* The other maps and lists of the manager are about popups, and no request depends on them.
-/

namespace CefCore.Browser

/-- `content::GlobalRenderFrameHostToken`. -/
structure GlobalToken where
  childId : Int
  frameToken : String
  deriving DecidableEq

/-- `frame_util::IsValidGlobalToken`; `content::ChildProcessHost::kInvalidUniqueID` is `-1`. -/
def GlobalToken.isValid (token : GlobalToken) : Bool :=
  token.childId != -1 && token.childId != 0 && token.frameToken != ""

structure BrowserConfig where
  isWindowless : Bool := false
  printPreviewEnabled : Bool := false
  movePipEnabled : Bool := false
  allowPipWithoutUserActivation : Bool := false
  deriving DecidableEq

/-- What a `CefBrowserInfo` says about its browser. -/
structure CefBrowserInfo.Identity where
  browserId : Int
  isPopup : Bool
  config : BrowserConfig
  extraInfo : Option JsonDict
  deriving DecidableEq

/-- `cef::mojom::NewBrowserInfo`, with its `NewBrowserConfig`. -/
structure NewBrowserInfo where
  isExcluded : Bool
  browserId : Int
  isPopup : Bool := false
  config : Option BrowserConfig := none
  extraInfo : Option JsonDict := none

structure PendingNewBrowserInfo where
  globalToken : GlobalToken
  timeoutId : Nat
  callback : Nat
  callbackRunner : Nat

/-- The response for the given browser info; without one it has timed out or been canceled. -/
def NewBrowserInfo.make (browserInfo : Option CefBrowserInfo.Identity) (isExcluded : Bool) :
    NewBrowserInfo :=
  match browserInfo with
  | some info => ⟨isExcluded, info.browserId, info.isPopup, some info.config, info.extraInfo⟩
  | none => { isExcluded, browserId := -1 }

inductive ResponseCause where
  /-- `GetBrowserInfoInternal` has found the browser info at the time of the request. -/
  | known (info : CefBrowserInfo.Identity)
  | continued (info : CefBrowserInfo.Identity) (isExcluded : Bool)
  | timedOut (timeoutId : Nat)
  | processDestroyed (childId : Int)

namespace ResponseCause

/-- The browser info that is passed to `SendNewBrowserInfoResponse`. -/
def browserInfo : ResponseCause → Option CefBrowserInfo.Identity
  | known info => some info
  | continued info _ => some info
  | timedOut _ => none
  | processDestroyed _ => none

/-- The `is_excluded` that is passed to `SendNewBrowserInfoResponse`. -/
def isExcluded : ResponseCause → Bool
  | continued _ isExcluded => isExcluded
  | _ => false

end ResponseCause

/-- A posted `SendNewBrowserInfoResponse`. -/
structure NewBrowserInfoResponse where
  browserInfo : Option CefBrowserInfo.Identity
  isExcluded : Bool
  callback : Nat
  callbackRunner : Nat

inductive ManagerEvent where
  /-- `OnGetNewBrowserInfo` has been called. -/
  | requested (callback : Nat) (token : GlobalToken)
  /-- `GetBrowserInfoInternal` has returned a browser info for the token. -/
  | found (token : GlobalToken) (info : CefBrowserInfo.Identity)
  /-- The request has been put into the map, and its timeout has been started. -/
  | queued (callback : Nat) (timeoutId : Nat)
  /-- `ContinueNewBrowserInfo` has been called. -/
  | continued (token : GlobalToken) (info : CefBrowserInfo.Identity) (isExcluded : Bool)
  /-- The callback has been given to `SendNewBrowserInfoResponse`. -/
  | dispatched (callback : Nat) (cause : ResponseCause)
  /-- The callback has been run. -/
  | answered (callback : Nat) (params : NewBrowserInfo)

/-- `CefBrowserInfoManager`, with the posted tasks and what has happened, newest first. -/
structure CefBrowserInfoManager where
  /-- There is no switch `kDisableNewBrowserInfoTimeout`. -/
  timeoutEnabled : Bool := true
  browserInfoList : List CefBrowserInfo.Identity := []
  nextBrowserId : Int := 0
  pendingNewBrowserInfoMap : AList (fun _ : GlobalToken => PendingNewBrowserInfo) := ∅
  nextTimeoutId : Nat := 0
  /-- The posted `TimeoutNewBrowserInfoResponse`. -/
  timeoutTasks : List (GlobalToken × Nat) := []
  /-- The posted `CheckExcludedNewBrowserInfoOnUIThread`. -/
  excludedTasks : List GlobalToken := []
  responses : List NewBrowserInfoResponse := []
  /-- The number of requests. -/
  requests : Nat := 0
  log : List ManagerEvent := []

namespace CefBrowserInfoManager

variable (s : CefBrowserInfoManager) (current : Nat)

/-- `CreateBrowserInfo`, and the first half of `CreatePopupBrowserInfo`. -/
def createBrowserInfo (isPopup : Bool) (config : BrowserConfig) (extraInfo : Option JsonDict) :
    CefBrowserInfo.Identity × CefBrowserInfoManager :=
  let info : CefBrowserInfo.Identity := ⟨s.nextBrowserId + 1, isPopup, config, extraInfo⟩
  (info, { s with
    nextBrowserId := s.nextBrowserId + 1
    browserInfoList := s.browserInfoList ++ [info] })

def removeBrowserInfo (info : CefBrowserInfo.Identity) : CefBrowserInfoManager :=
  { s with browserInfoList := s.browserInfoList.erase info }

/-- `GetBrowserInfoInternal`, for the browser infos that have a frame with the token. -/
def getBrowserInfoInternal (token : GlobalToken) (hasFrame : CefBrowserInfo.Identity → Bool) :
    Option CefBrowserInfo.Identity :=
  if !token.isValid then none else s.browserInfoList.find? hasFrame

/-- `SendNewBrowserInfoResponse` on the sequence `current`. -/
def sendNewBrowserInfoResponse (browserInfo : Option CefBrowserInfo.Identity) (isExcluded : Bool)
    (callback callbackRunner : Nat) : CefBrowserInfoManager :=
  if callbackRunner ≠ current then
    { s with responses := s.responses ++ [⟨browserInfo, isExcluded, callback, callbackRunner⟩] }
  else { s with log := .answered callback (NewBrowserInfo.make browserInfo isExcluded) :: s.log }

/-- A callback is given to `SendNewBrowserInfoResponse`. -/
def dispatch (cause : ResponseCause) (callback callbackRunner : Nat) : CefBrowserInfoManager :=
  { s with log := .dispatched callback cause :: s.log }.sendNewBrowserInfoResponse current
    cause.browserInfo cause.isExcluded callback callbackRunner

/-- `std::map::insert`, which keeps an entry that is there. -/
def insertNew (m : AList fun _ : GlobalToken => PendingNewBrowserInfo) (token : GlobalToken)
    (pending : PendingNewBrowserInfo) : AList fun _ : GlobalToken => PendingNewBrowserInfo :=
  if token ∈ m then m else m.insert token pending

/-- `OnGetNewBrowserInfo` on the sequence `current`. -/
def onGetNewBrowserInfo (token : GlobalToken) (hasFrame : CefBrowserInfo.Identity → Bool) :
    CefBrowserInfoManager :=
  let callback := s.requests
  let s := { s with requests := s.requests + 1, log := .requested callback token :: s.log }
  match s.getBrowserInfoInternal token hasFrame with
  | some info =>
    -- send the response immediately
    { s with log := .found token info :: s.log }.dispatch current (.known info) callback current
  | none =>
    let timeoutId := s.nextTimeoutId + 1
    { s with
      nextTimeoutId := timeoutId
      pendingNewBrowserInfoMap := insertNew s.pendingNewBrowserInfoMap token
        ⟨token, timeoutId, callback, current⟩
      timeoutTasks := if s.timeoutEnabled then s.timeoutTasks ++ [(token, timeoutId)]
        else s.timeoutTasks
      excludedTasks := s.excludedTasks ++ [token]
      log := .queued callback timeoutId :: s.log }

def respond (cause : ResponseCause) (token : GlobalToken) (pending : PendingNewBrowserInfo) :
    CefBrowserInfoManager :=
  let s := s.dispatch current cause pending.callback pending.callbackRunner
  { s with pendingNewBrowserInfoMap := s.pendingNewBrowserInfoMap.erase token }

def continueNewBrowserInfo (token : GlobalToken) (info : CefBrowserInfo.Identity)
    (isExcluded : Bool) : CefBrowserInfoManager :=
  let s := { s with log := .continued token info isExcluded :: s.log }
  match s.pendingNewBrowserInfoMap.lookup token with
  | some pending => s.respond current (.continued info isExcluded) token pending
  | none => s

def createPopupBrowserInfo (token : GlobalToken) (config : BrowserConfig)
    (extraInfo : Option JsonDict) : CefBrowserInfoManager :=
  let (info, s) := s.createBrowserInfo true config extraInfo
  s.continueNewBrowserInfo current token info false

def timeoutNewBrowserInfoResponse (token : GlobalToken) (timeoutId : Nat) : CefBrowserInfoManager :=
  match s.pendingNewBrowserInfoMap.lookup token with
  | some pending =>
    -- not for a new request of the same frame
    if pending.timeoutId ≠ timeoutId then s
    else s.respond current (.timedOut timeoutId) token pending
  | none => s

/-- The loop of `RenderProcessHostDestroyed` over the pending requests. -/
def cancelRequests (childId : Int) : List GlobalToken → CefBrowserInfoManager → CefBrowserInfoManager
  | [], s => s
  | token :: tokens, s =>
    match s.pendingNewBrowserInfoMap.lookup token with
    | some pending =>
      if pending.globalToken.childId = childId then
        cancelRequests childId tokens (s.respond current (.processDestroyed childId) token pending)
      else cancelRequests childId tokens s
    | none => cancelRequests childId tokens s

def renderProcessHostDestroyed (childId : Int) : CefBrowserInfoManager :=
  cancelRequests current childId s.pendingNewBrowserInfoMap.keys s

inductive Operation where
  | createBrowserInfo (isDevtoolsPopup : Bool) (config : BrowserConfig)
    (extraInfo : Option JsonDict)
  | createPopupBrowserInfo (current : Nat) (token : GlobalToken) (config : BrowserConfig)
    (extraInfo : Option JsonDict)
  | removeBrowserInfo (info : CefBrowserInfo.Identity)
  | onGetNewBrowserInfo (current : Nat) (token : GlobalToken)
    (hasFrame : CefBrowserInfo.Identity → Bool)
  | onMainFrameCreated (current : Nat) (token : GlobalToken) (info : CefBrowserInfo.Identity)
  /-- A posted `CheckExcludedNewBrowserInfoOnUIThread` runs; the frame belongs to an excluded type if
  there is a browser info. -/
  | checkExcluded (current : Nat) (task : Nat) (excludedFor : Option CefBrowserInfo.Identity)
  /-- A posted `TimeoutNewBrowserInfoResponse` runs. -/
  | timeout (current : Nat) (task : Nat)
  | renderProcessHostDestroyed (current : Nat) (childId : Int)
  /-- A posted `SendNewBrowserInfoResponse` runs, on its own sequence. -/
  | runResponse (task : Nat)

/-- One step. A task that has not been posted cannot run. -/
def step : Operation → Option CefBrowserInfoManager
  | .createBrowserInfo isDevtoolsPopup config extraInfo =>
    some (s.createBrowserInfo isDevtoolsPopup config extraInfo).2
  | .createPopupBrowserInfo current token config extraInfo =>
    some (s.createPopupBrowserInfo current token config extraInfo)
  | .removeBrowserInfo info => some (s.removeBrowserInfo info)
  | .onGetNewBrowserInfo current token hasFrame => some (s.onGetNewBrowserInfo current token hasFrame)
  | .onMainFrameCreated current token info =>
    some (s.continueNewBrowserInfo current token info false)
  | .checkExcluded current task excludedFor => do
      let token ← s.excludedTasks[task]?
      let s := { s with excludedTasks := s.excludedTasks.eraseIdx task }
      match excludedFor with
      | some info => return s.continueNewBrowserInfo current token info true
      | none => return s
  | .timeout current task => do
      let (token, timeoutId) ← s.timeoutTasks[task]?
      let s := { s with timeoutTasks := s.timeoutTasks.eraseIdx task }
      return s.timeoutNewBrowserInfoResponse current token timeoutId
  | .renderProcessHostDestroyed current childId => some (s.renderProcessHostDestroyed current childId)
  | .runResponse task => do
      let response ← s.responses[task]?
      let s := { s with responses := s.responses.eraseIdx task }
      return s.sendNewBrowserInfoResponse response.callbackRunner response.browserInfo
        response.isExcluded response.callback response.callbackRunner

end CefBrowserInfoManager

end CefCore.Browser
