import CefCore.Browser.BrowserInfoManager
import CefCore.Frame.FrameImpl

/-!
# The browser's side of a frame

`CefFrameHostImpl` of `libcef/browser/frame_host_impl.cc` is the frame object that the client sees.
It outlives the `content::RenderFrameHost` it stands for, and the connection to the renderer process.

## Main definitions

* `CefFrameHostImpl.step`: what a method does to its object.

## Implementation notes

* What the methods do with the locks, and with their `CefBrowserInfo`, is with the latter in
  `CefCore.Frame.BrowserInfo`.
* The reason of `Detach` goes to the log only and is left out. So is `is_focused_`.
-/

namespace CefCore.Frame

open CefCore.Browser (GlobalToken)

structure GlobalRenderFrameHostId where
  childId : Int
  frameRoutingId : Int
  deriving DecidableEq

/-- `frame_util::IsValidGlobalId`; `IPC::mojom::kRoutingIdNone` is `-2`. -/
def GlobalRenderFrameHostId.isValid (id : GlobalRenderFrameHostId) : Bool :=
  id.childId != -1 && id.childId != 0 && id.frameRoutingId != -2

/-- `frame_util::MakeFrameIdentifier`. An invalid token has no identifier. -/
def makeFrameIdentifier (token : GlobalToken) : Option GlobalToken :=
  if token.isValid then some token else none

/-- What a `content::RenderFrameHost` says about its document. -/
structure HostAttributes where
  lastCommittedURL : String := ""
  frameName : String := ""
  /-- The unique name of the `content::FrameTreeNode`, if there is one. -/
  uniqueName : Option String := none

/-- What is asked of a `content::RenderFrameHost`. `object` is its address. -/
structure RenderFrameHost where
  object : Nat
  globalId : GlobalRenderFrameHostId
  globalFrameToken : GlobalToken
  /-- The token of `GetParent`, which a main frame does not have. -/
  parent : Option GlobalToken := none
  /-- There is a parent, and it is in the same process. -/
  sharesParentProcess : Bool := false
  attributes : HostAttributes := {}

inductive LifecycleState where
  | kPendingCommit
  | kPrerendering
  | kActive
  | kInBackForwardCache
  | kPendingDeletion
  deriving DecidableEq

inductive RenderFrameAction (A : Type) where
  /-- `cef::mojom::RenderFrame::DidStopLoading`. -/
  | didStopLoading
  /-- Any other call of `cef::mojom::RenderFrame`. -/
  | call (action : A)

/-- `CefFrameHostImpl`. There is one `CefBrowserInfo`, so that its pointer is null or not. -/
structure CefFrameHostImpl (A : Type) where
  isMainFrame : Bool := false
  frameToken : Option GlobalToken := none
  browserInfo : Bool := true
  url : String := ""
  name : String := ""
  parentFrameToken : Option GlobalToken := none
  renderFrameHost : Option RenderFrameHost := none
  queuedRendererActions : List (String × RenderFrameAction A) := []
  renderFrame : Option Attempt := none
  /-- What has happened to the actions, oldest first. -/
  history : List (Outbox.Event (String × RenderFrameAction A)) := []

namespace CefFrameHostImpl

variable {A : Type}

def temporary (A : Type) (parentFrameToken : Option GlobalToken) : CefFrameHostImpl A :=
  { parentFrameToken }

def ofHost (A : Type) (host : RenderFrameHost) : CefFrameHostImpl A :=
  { isMainFrame := host.parent.isNone
    frameToken := some host.globalFrameToken
    url := host.attributes.lastCommittedURL
    name := host.attributes.frameName
    parentFrameToken := host.parent
    renderFrameHost := some host }

section

variable (f : CefFrameHostImpl A)

def isTemporary : Bool :=
  f.frameToken.isNone

def getIdentifier : Option GlobalToken :=
  f.frameToken.bind makeFrameIdentifier

/-- `render_frame_host_ == host`. -/
def hasHost (host : RenderFrameHost) : Bool :=
  f.renderFrameHost.any (·.object == host.object)

/-- The checks of `MaybeAttach` hold: the frame object is not temporary, not bound, and has the
token of the host. -/
def mayAttach (host : RenderFrameHost) : Bool :=
  !f.isTemporary && f.renderFrame.isNone && f.frameToken == some host.globalFrameToken

end

/-- `CefFrameHostImpl::SendToRenderFrame`, on the UI thread. -/
def sendToRenderFrame (functionName : String) (action : RenderFrameAction A)
    (f : CefFrameHostImpl A) : CefFrameHostImpl A :=
  if f.isTemporary || f.renderFrameHost.isNone then
    { f with history := f.history ++ [.refused (functionName, action)] }
  else if f.renderFrame.isNone then
    { f with
      queuedRendererActions := f.queuedRendererActions ++ [(functionName, action)]
      history := f.history ++ [.sent (functionName, action)] }
  else
    { f with
      history := f.history ++ [.sent (functionName, action), .executed (functionName, action)] }

section

variable (f : CefFrameHostImpl A)

def maybeSendDidStopLoading : CefFrameHostImpl A :=
  match f.renderFrameHost with
  | none => f
  | some host =>
    if host.sharesParentProcess then f
    else f.sendToRenderFrame "MaybeSendDidStopLoading" .didStopLoading

def unbound : CefFrameHostImpl A :=
  { f with
    renderFrame := none
    history := if f.renderFrame.isSome then f.history ++ [.lost] else f.history }

/-- `Detach`: the frame object lets go of the host. -/
def released : CefFrameHostImpl A :=
  { f.unbound with renderFrameHost := none }

/-- `Detach`, when it is complete: the frame object becomes invalid, and nothing waits any more. -/
def invalidated : CefFrameHostImpl A :=
  { f with
    browserInfo := false
    queuedRendererActions := []
    history := f.history ++ [.discarded] }

end

/-- `Detach`. It is complete for all but the current main frame. -/
def detached (isCurrentMainFrame : Bool) (f : CefFrameHostImpl A) : CefFrameHostImpl A :=
  if isCurrentMainFrame then f.released else f.released.invalidated

/-- `FrameAttached`: the remote is bound and gets everything that waits. -/
def bound (attempt : Attempt) (f : CefFrameHostImpl A) : CefFrameHostImpl A :=
  { f with
    renderFrame := some attempt
    queuedRendererActions := []
    history := f.history ++ .attached :: f.queuedRendererActions.map .executed }

/-- `MaybeAttach`: the frame object gets another host. -/
def rehosted (host : RenderFrameHost) (f : CefFrameHostImpl A) : CefFrameHostImpl A :=
  { f with browserInfo := true, renderFrameHost := some host }

/-- `RefreshAttributes`, of a frame object with a host. -/
def refreshed (host : RenderFrameHost) (attributes : HostAttributes) (f : CefFrameHostImpl A) :
    CefFrameHostImpl A :=
  { f with
    url := attributes.lastCommittedURL
    name := if attributes.frameName = "" then attributes.uniqueName.getD "" else attributes.frameName
    parentFrameToken := if f.isMainFrame then f.parentFrameToken else host.parent }

/-! ## Events -/

/-- What can happen to a frame object on the UI thread. -/
inductive Event (A : Type) where
  | sendToRenderFrame (functionName : String) (action : RenderFrameAction A)
  | maybeSendDidStopLoading
  | frameAttached (attempt : Attempt)
  /-- The disconnect handler of the remote runs, if the remote is bound. -/
  | renderFrameDisconnect
  | maybeAttach (host : RenderFrameHost)
  | refreshAttributes (attributes : HostAttributes)
  | detach (isCurrentMainFrame : Bool)

/-- The checks of `Detach` hold. -/
def mayDetach (f : CefFrameHostImpl A) (isCurrentMainFrame : Bool) : Bool :=
  !f.isTemporary && (!isCurrentMainFrame || f.isMainFrame)

/-- What becomes of the members of a frame object. A check that fails ends the process. -/
def step (f : CefFrameHostImpl A) : Event A → Option (CefFrameHostImpl A)
  | .sendToRenderFrame functionName action => some (f.sendToRenderFrame functionName action)
  | .maybeSendDidStopLoading => some f.maybeSendDidStopLoading
  | .frameAttached attempt => some (if f.browserInfo then f.bound attempt else f)
  | .renderFrameDisconnect => some f.unbound
  | .maybeAttach host =>
    if f.hasHost host then some f
    else if f.mayAttach host then some (f.rehosted host)
    else none
  | .refreshAttributes attributes =>
    match f.renderFrameHost with
    | none => some f
    | some host => some (f.refreshed host attributes)
  | .detach isCurrentMainFrame =>
    if f.mayDetach isCurrentMainFrame then some (f.detached isCurrentMainFrame) else none

lemma send_cases (f : CefFrameHostImpl A) (functionName : String) (action : RenderFrameAction A) :
    (f.isTemporary = true ∨ f.renderFrameHost = none) ∧
      f.sendToRenderFrame functionName action =
        { f with history := f.history ++ [.refused (functionName, action)] } ∨
    f.renderFrame = none ∧ f.sendToRenderFrame functionName action =
      { f with
        queuedRendererActions := f.queuedRendererActions ++ [(functionName, action)]
        history := f.history ++ [.sent (functionName, action)] } ∨
    f.renderFrame.isSome ∧ f.sendToRenderFrame functionName action =
      { f with
        history := f.history ++
          [.sent (functionName, action), .executed (functionName, action)] } := by
  unfold sendToRenderFrame
  split
  · rename_i hrefused
    exact .inl ⟨by simpa using hrefused, rfl⟩
  · split
    · rename_i hunbound
      exact .inr (.inl ⟨Option.isNone_iff_eq_none.mp hunbound, rfl⟩)
    · rename_i hbound
      exact .inr (.inr ⟨by simpa [Option.isSome_iff_ne_none] using hbound, rfl⟩)

end CefFrameHostImpl

end CefCore.Frame
