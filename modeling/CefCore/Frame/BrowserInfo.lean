import CefCore.Frame.FrameHostImpl
import Mathlib.Logic.Function.Basic

/-!
# The frames of a browser

`CefBrowserInfo` of `libcef/browser/browser_info.cc` owns the frame objects of a browser, knows the
main frame among them, and tells the client's frame handler what happens to them. It queues its
notifications while its lock is held, and delivers them when the lock has been released.

## Main definitions

* `CefBrowserInfo.perform`, `CefBrowserInfo.conclude`: the two parts of an operation.

## Implementation notes

* A frame object is a number. `frame_info_set_` is a list, and `frame_id_map_` is its index by global
  ID: the two are filled and emptied together. `frame_token_to_id_map_` is not asked by anything
  here.
* A function gets the locks that its callers hold. Taking one of them again does not come back, except
  when `reentrantLocks` is set: `base::Lock` is not re-entrant, and the field is there to say what
  would happen if it were.
* `CHECK` and a null pointer end the process. `DCHECK` does nothing.
* What the client does when it is told something is left to the developments on top: `perform` ends
  where the notifications are delivered, and `conclude` is the rest of the operation.
* `CefRequestContext`, `CefBrowserInfoManager` and the page model cache are told about frames, too.
  That is left out here, but not the locks that are taken for it.
-/

namespace CefCore.Frame

open CefCore.Browser (GlobalToken)

abbrev FrameId := Nat

/-- The locks of the frame objects and of `CefBrowserInfo`. -/
inductive FrameLock where
  /-- `CefFrameHostImpl::state_lock_`. -/
  | stateLock (frame : FrameId)
  /-- `CefBrowserInfo::lock_`. -/
  | browserInfoLock
  /-- `CefBrowserInfo::notification_lock_`. -/
  | notificationLock
  deriving DecidableEq

/-- Why a call does not come back. -/
inductive BrowserCrash where
  /-- The thread waits for a lock that it holds. -/
  | deadlock (lock : FrameLock)
  /-- A `CHECK` fails, or a null pointer is dereferenced. -/
  | check (condition : String)

/-- A call of `CefFrameHandler`. -/
inductive FrameNotification where
  /-- `OnFrameCreated`. -/
  | created (frame : FrameId)
  /-- `OnFrameAttached`. -/
  | attached (frame : FrameId) (reattached : Bool)
  /-- `OnFrameDetached`. -/
  | detached (frame : FrameId)
  /-- `OnFrameDestroyed`. -/
  | destroyed (frame : FrameId)
  /-- `OnMainFrameChanged`. -/
  | mainFrameChanged (oldFrame newFrame : Option FrameId)

structure FrameInfo where
  globalId : GlobalRenderFrameHostId
  isMainFrame : Bool
  isSpeculative : Bool
  isInBfcache : Bool := false
  frame : FrameId

def FrameInfo.isCurrentMainFrame (info : FrameInfo) : Bool :=
  info.isMainFrame && !info.isSpeculative && !info.isInBfcache

/-- `CefBrowserInfo`, with all frame objects there have been and what the client was told, newest
first. -/
structure CefBrowserInfo (A : Type) where
  frame : FrameId → CefFrameHostImpl A := fun _ => {}
  frameCount : Nat := 0
  browser : Bool := true
  frameHandler : Bool := true
  frameInfoSet : List FrameInfo := []
  mainFrame : Option FrameId := none
  isClosing : Bool := false
  /-- The queue of the `NotificationStateLock` that is held. -/
  notificationStateLock : Option (List FrameNotification) := none
  delivered : List FrameNotification := []
  reentrantLocks : Bool := false

namespace CefBrowserInfo

variable {A : Type}

/-- A browser whose frame objects have not been created yet. -/
def create (A : Type) (frameHandler reentrantLocks : Bool) : CefBrowserInfo A :=
  { frameHandler, reentrantLocks }

/-- `base::AutoLock`, by a thread that holds some locks. -/
def lock (held : List FrameLock) (l : FrameLock) (w : CefBrowserInfo A) :
    Except BrowserCrash (List FrameLock) :=
  if l ∈ held ∧ w.reentrantLocks = false then .error (.deadlock l) else .ok (l :: held)

def setFrame (id : FrameId) (f : CefFrameHostImpl A) (w : CefBrowserInfo A) : CefBrowserInfo A :=
  { w with frame := Function.update w.frame id f }

/-! ## Methods of the frame objects -/

section

variable (held : List FrameLock)
include held

/-- `CefBrowserInfo::browser`. -/
def getBrowser (w : CefBrowserInfo A) : Except BrowserCrash Bool := do
  let _ ← w.lock held .browserInfoLock
  .ok w.browser

def getBrowserInfo (id : FrameId) (w : CefBrowserInfo A) :
    Except BrowserCrash Bool := do
  let _ ← w.lock held (.stateLock id)
  .ok (w.frame id).browserInfo

def getBrowserHostBase (id : FrameId) (w : CefBrowserInfo A) :
    Except BrowserCrash Bool := do
  if ← w.getBrowserInfo held id then w.getBrowser held else .ok false

/-- Some notifications look for the browser before they call the handler. -/
def findsBrowser (n : FrameNotification) (w : CefBrowserInfo A) : Except BrowserCrash Bool :=
  match n with
  | .created _ => w.getBrowser held
  | .attached id _ => w.getBrowserHostBase held id
  | .detached _ | .destroyed _ | .mainFrameChanged _ _ => .ok true

def execute (n : FrameNotification) (w : CefBrowserInfo A) :
    Except BrowserCrash (CefBrowserInfo A) := do
  if ← w.findsBrowser held n then .ok { w with delivered := n :: w.delivered } else .ok w

def maybeExecuteFrameNotification (n : FrameNotification)
    (w : CefBrowserInfo A) : Except BrowserCrash (CefBrowserInfo A) := do
  let _ ← w.lock held .notificationLock
  if !w.frameHandler then .ok w
  else
    match w.notificationStateLock with
    | some queue => .ok { w with notificationStateLock := some (queue ++ [n]) }
    | none => w.execute held n

def notifyIf (b : Bool) (n : FrameNotification) (w : CefBrowserInfo A) :
    Except BrowserCrash (CefBrowserInfo A) :=
  if b then w.maybeExecuteFrameNotification held n else .ok w

def detach (isCurrentMainFrame : Bool) (id : FrameId)
    (w : CefBrowserInfo A) : Except BrowserCrash (CefBrowserInfo A × Bool × Bool) :=
  let f := w.frame id
  if f.isTemporary then .error (.check "!is_temporary()")
  else if isCurrentMainFrame && !f.isMainFrame then
    .error (.check "!is_current_main_frame || is_main_frame_")
  else
    let isBound := f.renderFrame.isSome
    if isCurrentMainFrame then .ok (w.setFrame id f.released, isBound, false)
    else do
      let _ ← w.lock held (.stateLock id)
      .ok (w.setFrame id f.released.invalidated, isBound, f.browserInfo)

def refreshAttributes (attributes : HostAttributes) (id : FrameId)
    (w : CefBrowserInfo A) : Except BrowserCrash (CefBrowserInfo A) := do
  let held ← w.lock held (.stateLock id)
  match (w.frame id).renderFrameHost with
  | none => .ok w
  | some host =>
    -- The browser is asked for its page model cache, under the lock of the frame object.
    let _ ← w.getBrowserHostBase held id
    .ok (w.setFrame id ((w.frame id).refreshed host attributes))

def maybeAttach (host : RenderFrameHost) (id : FrameId)
    (w : CefBrowserInfo A) : Except BrowserCrash (CefBrowserInfo A) :=
  let f := w.frame id
  if f.hasHost host then .ok w
  else if f.isTemporary then .error (.check "!is_temporary()")
  else if f.renderFrame.isSome then .error (.check "!render_frame_.is_bound()")
  else if f.frameToken ≠ some host.globalFrameToken then
    .error (.check "*frame_token_ == render_frame_host->GetGlobalFrameToken()")
  else do
    let _ ← w.lock held (.stateLock id)
    (w.setFrame id (f.rehosted host)).refreshAttributes held host.attributes id

/-- The browser is asked for its page model cache, which holds a model of the frame's host. -/
def bumpGeneration (id : FrameId) (w : CefBrowserInfo A) : Except BrowserCrash Bool :=
  if (w.frame id).renderFrameHost.isSome then w.getBrowser held else .ok false

def frameAttached (attempt : Attempt) (reattached : Bool) (id : FrameId)
    (w : CefBrowserInfo A) : Except BrowserCrash (CefBrowserInfo A) := do
  if !(← w.getBrowserInfo held id) then .ok w
  else
    let w := w.setFrame id ((w.frame id).bound attempt)
    let _ ← w.bumpGeneration held id
    w.maybeExecuteFrameNotification held (.attached id reattached)

/-- `CefFrameHostImpl::OnRenderFrameDisconnect`, up to the reset of the remote. -/
def onRenderFrameDisconnect (id : FrameId) (w : CefBrowserInfo A) :
    Except BrowserCrash (CefBrowserInfo A) := do
  w.notifyIf held (← w.getBrowserHostBase held id) (.detached id)

end

def sendToRenderFrame (functionName : String) (action : RenderFrameAction A) (id : FrameId)
    (w : CefBrowserInfo A) : CefBrowserInfo A :=
  w.setFrame id ((w.frame id).sendToRenderFrame functionName action)

/-- `CefFrameHostImpl::LoadURLWithExtras`. A main frame is loaded by the browser, and a sub-frame by
`LoadRequest`, if the URL can be fixed up. -/
def loadURLWithExtras (held : List FrameLock) (params : A) (fixup : Bool) (id : FrameId)
    (w : CefBrowserInfo A) : Except BrowserCrash (CefBrowserInfo A) := do
  if (w.frame id).isMainFrame then
    let _ ← w.getBrowserHostBase held id
    .ok w
  else if !fixup then .ok w
  else
    let w := w.sendToRenderFrame "LoadRequest" (.call params) id
    let _ ← w.getBrowserHostBase held id
    .ok w

/-! ## Methods of `CefBrowserInfo` -/

/-- A frame object is detached, and the client is told what came of it. -/
def detachNotifying (held : List FrameLock) (isCurrentMainFrame : Bool) (id : FrameId)
    (w : CefBrowserInfo A) : Except BrowserCrash (CefBrowserInfo A) := do
  let (w, frameDetached, frameDestroyed) ← w.detach held isCurrentMainFrame id
  let w ← w.notifyIf held frameDetached (.detached id)
  w.notifyIf held frameDestroyed (.destroyed id)

/-- `frame && main_frame_ && frame->GetIdentifier() == main_frame_->GetIdentifier()`. -/
def isMainFrame (frame : Option FrameId) (w : CefBrowserInfo A) : Bool :=
  match frame, w.mainFrame with
  | some id, some main => (w.frame id).getIdentifier == (w.frame main).getIdentifier
  | _, _ => false

def detachMainFrame (held : List FrameLock) (w : CefBrowserInfo A) :
    Except BrowserCrash (CefBrowserInfo A) :=
  match w.mainFrame with
  | none => .ok w
  | some old => w.detachNotifying held false old

def setMainFrame (frame : Option FrameId) (held : List FrameLock) (w : CefBrowserInfo A) :
    Except BrowserCrash (CefBrowserInfo A) :=
  if w.isMainFrame frame then .ok w
  else do
    let oldFrame := w.mainFrame
    let w ← w.detachMainFrame held
    { w with mainFrame := frame }.maybeExecuteFrameNotification held
      (.mainFrameChanged oldFrame frame)

/-- `SetMainFrame` under a condition. -/
def setMainFrameIf (held : List FrameLock) (b : Bool) (frame : Option FrameId)
    (w : CefBrowserInfo A) : Except BrowserCrash (CefBrowserInfo A) :=
  if b then w.setMainFrame frame held else .ok w

def getMainFrame (held : List FrameLock) (w : CefBrowserInfo A) :
    Except BrowserCrash (Option FrameId) := do
  let _ ← w.lock held .browserInfoLock
  if !w.browser || w.isClosing then .ok none
  else if w.mainFrame.isNone then .error (.check "main_frame_")
  else .ok w.mainFrame

/-- The `FrameInfo` for a global ID. -/
def findInfo (id : GlobalRenderFrameHostId) (w : CefBrowserInfo A) : Option FrameInfo :=
  w.frameInfoSet.find? (·.globalId == id)

/-- The `FrameInfo` for a global ID changes. -/
def updateInfo (id : GlobalRenderFrameHostId) (update : FrameInfo → FrameInfo)
    (w : CefBrowserInfo A) : CefBrowserInfo A :=
  { w with
    frameInfoSet := w.frameInfoSet.map fun info =>
      if info.globalId = id then update info else info }

section

variable (held : List FrameLock)
include held

def getFrameForGlobalId (id : GlobalRenderFrameHostId)
    (preferSpeculative : Bool) (w : CefBrowserInfo A) : Except BrowserCrash (Option FrameId) :=
  if !id.isValid then .ok none
  else do
    let _ ← w.lock held .browserInfoLock
    match w.findInfo id with
    | none => .ok none
    | some info =>
      if info.isSpeculative && !preferSpeculative && info.isMainFrame && w.mainFrame.isSome then
        .ok w.mainFrame
      else .ok (some info.frame)

/-- The constructor of `NotificationStateLock`. -/
def lockNotificationState (w : CefBrowserInfo A) :
    Except BrowserCrash (List FrameLock × CefBrowserInfo A) := do
  let _ ← w.lock held .notificationLock
  if w.notificationStateLock.isSome then
    .error (.check "!browser_info_->notification_state_lock_")
  else
    let held ← w.lock held .browserInfoLock
    .ok (held, { w with notificationStateLock := some [] })

/-- The destructor of `NotificationStateLock`, up to the delivery of the queue. -/
def unlockNotificationState (w : CefBrowserInfo A) :
    Except BrowserCrash (List FrameNotification × CefBrowserInfo A) := do
  let _ ← w.lock held .notificationLock
  .ok (w.notificationStateLock.getD [], { w with notificationStateLock := none })

/-- What is done while a `NotificationStateLock` is held, with the queue that it leaves. -/
def underNotificationState (w : CefBrowserInfo A)
    (body : List FrameLock → CefBrowserInfo A → Except BrowserCrash (CefBrowserInfo A)) :
    Except BrowserCrash (List FrameNotification × CefBrowserInfo A) := do
  let (held', w) ← w.lockNotificationState held
  let w ← body held' w
  w.unlockNotificationState held

/-- A frame object is created for a host, and a `FrameInfo` for it. -/
def createFrame (host : RenderFrameHost) (isSpeculative : Bool)
    (w : CefBrowserInfo A) : Except BrowserCrash (CefBrowserInfo A) := do
  let id := w.frameCount
  let isMainFrame := host.parent.isNone
  let w := { w.setFrame id (.ofHost A host) with frameCount := id + 1 }
  let w ← w.maybeExecuteFrameNotification held (.created id)
  let w ← w.setMainFrameIf held (isMainFrame && !isSpeculative) (some id)
  if !w.browser then .error (.check "browser_")
  else
    .ok { w with
      frameInfoSet := { globalId := host.globalId, isMainFrame, isSpeculative, frame := id } ::
        w.frameInfoSet }

/-- `CefBrowserInfo::MaybeCreateFrame`, for a host that has a frame object. -/
def reuseFrame (host : RenderFrameHost) (isSpeculative : Bool)
    (info : FrameInfo) (w : CefBrowserInfo A) : Except BrowserCrash (CefBrowserInfo A) := do
  let w ← w.maybeAttach held host info.frame
  if info.isSpeculative && !isSpeculative then
    let w ← w.setMainFrameIf held info.isMainFrame (some info.frame)
    .ok (w.updateInfo host.globalId fun info => { info with isSpeculative := false })
  else .ok w

end

/-- `CefBrowserInfo::MaybeCreateFrame`, under its lock. -/
def createOrReuseFrame (host : RenderFrameHost) (isSpeculative : Bool) (held : List FrameLock)
    (w : CefBrowserInfo A) : Except BrowserCrash (CefBrowserInfo A) :=
  match w.findInfo host.globalId with
  | some info => w.reuseFrame held host isSpeculative info
  | none => w.createFrame held host isSpeculative

/-- `CefBrowserInfo::MaybeCreateFrame`, for a host that is not excluded. -/
def maybeCreateFrame (held : List FrameLock) (host : RenderFrameHost) (isSpeculative : Bool)
    (w : CefBrowserInfo A) : Except BrowserCrash (List FrameNotification × CefBrowserInfo A) :=
  w.underNotificationState held (createOrReuseFrame host isSpeculative)

def becomesActive (oldState newState : LifecycleState) : Bool :=
  (oldState == .kPrerendering || oldState == .kInBackForwardCache) && newState == .kActive

/-- `CefBrowserInfo::FrameHostStateChanged`, up to the delivery of the notifications, with the frame
object that has become active. -/
def frameHostStateChanged (held : List FrameLock) (host : RenderFrameHost)
    (oldState newState : LifecycleState) (w : CefBrowserInfo A) :
    Except BrowserCrash (Option FrameId × List FrameNotification × CefBrowserInfo A) :=
  if !becomesActive oldState newState then .ok (none, [], w)
  else do
    match ← w.getFrameForGlobalId held host.globalId false with
    | none => .ok (none, [], w)
    | some id =>
      let w ← w.maybeAttach held host id
      if (w.frame id).isMainFrame then
        let (queue, w) ← w.underNotificationState held (setMainFrame (some id))
        .ok (some id, queue, w)
      else .ok (some id, [], w)

/-- The rest of `CefBrowserInfo::FrameHostStateChanged`. -/
def updateBackForwardCache (held : List FrameLock) (host : RenderFrameHost)
    (oldState newState : LifecycleState) (active : Option FrameId) (w : CefBrowserInfo A) :
    Except BrowserCrash (CefBrowserInfo A) := do
  let w := match active with
    | none => w
    | some id => w.setFrame id (w.frame id).maybeSendDidStopLoading
  let addedToBfcache := newState == .kInBackForwardCache
  let removedFromBfcache := oldState == .kInBackForwardCache
  if !addedToBfcache && !removedFromBfcache then .ok w
  else
    let _ ← w.lock held .browserInfoLock
    .ok (w.updateInfo host.globalId fun info => { info with isInBfcache := addedToBfcache })

/-- `CefBrowserInfo::RemoveFrame`, under its lock. -/
def removeInfo (host : RenderFrameHost) (held : List FrameLock) (w : CefBrowserInfo A) :
    Except BrowserCrash (CefBrowserInfo A) :=
  match w.findInfo host.globalId with
  | none => .ok w
  | some info =>
    if !w.browser then .error (.check "browser_")
    else
      { w with frameInfoSet := w.frameInfoSet.filter (·.globalId ≠ host.globalId) }.detachNotifying
        held info.isCurrentMainFrame info.frame

def removeFrame (held : List FrameLock) (host : RenderFrameHost) (w : CefBrowserInfo A) :
    Except BrowserCrash (List FrameNotification × CefBrowserInfo A) :=
  w.underNotificationState held (removeInfo host)

/-- The frame objects of the given infos are detached, and nobody is told. -/
def detachAll (held : List FrameLock) : List FrameInfo → CefBrowserInfo A →
    Except BrowserCrash (CefBrowserInfo A)
  | [], w => .ok w
  | info :: infos, w => do
    let (w, _) ← w.detach held info.isCurrentMainFrame info.frame
    detachAll held infos w

def removeAllFrames (held : List FrameLock) (w : CefBrowserInfo A) :
    Except BrowserCrash (CefBrowserInfo A) := do
  let w ← detachAll held w.frameInfoSet w
  let w ← w.setMainFrameIf held w.mainFrame.isSome none
  .ok { w with frameInfoSet := [] }

/-- `CefBrowserInfo::WebContentsDestroyed`, under its lock. -/
def closeFrames (held : List FrameLock) (w : CefBrowserInfo A) :
    Except BrowserCrash (CefBrowserInfo A) := do
  let w ← { w with isClosing := true }.removeAllFrames held
  .ok { w with frameHandler := false }

def webContentsDestroyed (held : List FrameLock) (w : CefBrowserInfo A) :
    Except BrowserCrash (List FrameNotification × CefBrowserInfo A) :=
  w.underNotificationState held closeFrames

def createTemporary (parent : FrameId) (w : CefBrowserInfo A) : CefBrowserInfo A :=
  { w.setFrame w.frameCount (.temporary A (w.frame parent).frameToken) with
    frameCount := w.frameCount + 1 }

def createTempSubFrame (held : List FrameLock) (parentGlobalId : GlobalRenderFrameHostId)
    (w : CefBrowserInfo A) : Except BrowserCrash (CefBrowserInfo A) := do
  match ← w.getFrameForGlobalId held parentGlobalId false with
  | some parent => .ok (w.createTemporary parent)
  | none =>
    match ← w.getMainFrame held with
    | some parent => .ok (w.createTemporary parent)
    | none => .error (.check "parent")

/-! ## Operations -/

/-- What can happen to the frames of a browser on the UI thread. -/
inductive FrameOperation (A : Type) where
  /-- The host is of an excluded type, or is not the current one of its `FrameTreeNode`. -/
  | maybeCreateFrame (host : RenderFrameHost) (isExcluded isSpeculative : Bool)
  | frameHostStateChanged (host : RenderFrameHost) (oldState newState : LifecycleState)
  | removeFrame (host : RenderFrameHost)
  | webContentsDestroyed
  | setClosing
  | browserDestroyed
  | createTempSubFrame (parentGlobalId : GlobalRenderFrameHostId)
  | refreshAttributes (frame : FrameId) (attributes : HostAttributes)
  /-- `CefBrowserFrame` forwards `FrameAttached` to the frame object of its host. -/
  | frameAttached (globalId : GlobalRenderFrameHostId) (attempt : Attempt) (reattached : Bool)
  /-- The disconnect handler of the remote runs, if the remote is bound. -/
  | renderFrameDisconnect (frame : FrameId)
  | sendToRenderFrame (frame : FrameId) (functionName : String) (action : A)
  | loadURLWithExtras (frame : FrameId) (params : A) (fixup : Bool)

/-- What an operation leaves when it delivers its notifications: the queue, and the frame object
that the rest of the operation is about. -/
structure Performed (A : Type) where
  queue : List FrameNotification := []
  frame : Option FrameId := none
  info : CefBrowserInfo A

/-- An operation up to the delivery of the notifications that it has queued. -/
def perform (w : CefBrowserInfo A) : FrameOperation A → Except BrowserCrash (Performed A)
  | .maybeCreateFrame host isExcluded isSpeculative =>
    if isExcluded then .ok { info := w }
    else do
      let (queue, info) ← w.maybeCreateFrame [] host isSpeculative
      .ok { queue, info }
  | .frameHostStateChanged host oldState newState => do
    let (frame, queue, info) ← w.frameHostStateChanged [] host oldState newState
    .ok { queue, frame, info }
  | .removeFrame host => do
    let (queue, info) ← w.removeFrame [] host
    .ok { queue, info }
  | .webContentsDestroyed => do
    let (queue, info) ← w.webContentsDestroyed []
    .ok { queue, info }
  | .setClosing => do
    let _ ← w.lock [] .browserInfoLock
    .ok { info := { w with isClosing := true } }
  | .browserDestroyed => do
    let _ ← w.lock [] .browserInfoLock
    .ok { info := { w with browser := false } }
  | .createTempSubFrame parentGlobalId => do
    .ok { info := ← w.createTempSubFrame [] parentGlobalId }
  | .refreshAttributes frame attributes => do
    .ok { info := ← w.refreshAttributes [] attributes frame }
  | .frameAttached globalId attempt reattached => do
    match ← w.getFrameForGlobalId [] globalId true with
    | none => .ok { info := w }
    | some id => .ok { info := ← w.frameAttached [] attempt reattached id }
  | .renderFrameDisconnect frame => do
    if (w.frame frame).renderFrame.isSome then
      .ok { info := ← w.onRenderFrameDisconnect [] frame, frame := some frame }
    else .ok { info := w }
  | .sendToRenderFrame frame functionName action =>
    .ok { info := w.sendToRenderFrame functionName (.call action) frame }
  | .loadURLWithExtras frame params fixup => do
    .ok { info := ← w.loadURLWithExtras [] params fixup frame }

/-- The rest of an operation, when its notifications have been delivered. -/
def conclude (frame : Option FrameId) (w : CefBrowserInfo A) :
    FrameOperation A → Except BrowserCrash (CefBrowserInfo A)
  | .frameHostStateChanged host oldState newState =>
    w.updateBackForwardCache [] host oldState newState frame
  | .renderFrameDisconnect _ =>
    match frame with
    | none => .ok w
    | some id => .ok (w.setFrame id (w.frame id).unbound)
  | _ => .ok w

/-- An operation of a browser whose client does not call back. -/
def step (w : CefBrowserInfo A) (op : FrameOperation A) :
    Except BrowserCrash (CefBrowserInfo A) := do
  let performed ← w.perform op
  let w ← performed.queue.foldlM (fun w n => w.execute [] n) performed.info
  w.conclude performed.frame op

end CefBrowserInfo

end CefCore.Frame
