import CefCore.Foundations.Outbox
import CefCore.Foundations.Run

/-!
# The renderer's side of a frame

`CefFrameImpl` of `libcef/renderer/frame_impl.cc` keeps the connection of a frame to the browser
process. It asks for a connection when a navigation commits or the frame is shown, tries again some
time after the connection was lost, and keeps what is sent meanwhile.

## Main definitions

* `CefFrameImpl`: a frame with its pipes, its timer and its queue.

## Implementation notes

* A pipe is named by the number of connection attempts made before it. Disconnect handlers belong
  to a binding and are gone when it is reset; whether a handler or a message arrives is up to the
  run, see `CefFrameImpl.step`.
* The timer is the delay it was started with. `browser_connect_retry_log_` and the other texts that
  go to the log only are left out, and so is the script context, which the connection does not
  depend on.
* `CHECK` and `LOG(FATAL)` end the process.
-/

namespace CefCore.Frame

open Option Except

inductive ConnectionState where
  | disconnected
  | connectionPending
  | connectionAcked
  | reconnectPending
  deriving DecidableEq

inductive ConnectReason where
  | didCommit
  | wasShown
  | retry
  deriving DecidableEq

inductive DisconnectReason where
  | detached
  | renderFrameDisconnect
  | browserFrameDisconnect
  deriving DecidableEq

inductive ResetReason where
  | kNoReason
  | kDeleted
  | kDetached
  | kExcluded

def ResetReason.toUInt32 : ResetReason → UInt32
  | .kNoReason => 0
  | .kDeleted => 1
  | .kDetached => 2
  | .kExcluded => 3

abbrev MojoResult := UInt32

def MOJO_RESULT_OK : MojoResult := 0

def MOJO_RESULT_FAILED_PRECONDITION : MojoResult := 9

def kConnectionRetryMaxCt : Nat := 3

/-- `kConnectionRetryDelayShort`, in milliseconds. -/
def kConnectionRetryDelayShort : Nat := 25

/-- `kConnectionRetryDelayLong`, in milliseconds. -/
def kConnectionRetryDelayLong : Nat := 3000

/-- What the frame asks its `blink::WebLocalFrame`. -/
structure WebLocalFrame where
  isOutermostMainFrame : Bool := true
  /-- `blink_glue::IsInBackForwardCache`. -/
  isInBackForwardCache : Bool := false
  /-- `content::RenderFrameImpl::FromWebFrame` is not null. -/
  hasRenderFrameImpl : Bool := true

abbrev Attempt := Nat

inductive FrameImplCrash where
  /-- `browser_` is dereferenced and null. -/
  | nullBrowser
  /-- `CHECK(browser_frame)`. -/
  | checkBrowserFrame
  /-- `CHECK_EQ(ConnectionState::CONNECTION_PENDING, browser_connection_state_)`. -/
  | checkConnectionPending (state : ConnectionState)
  /-- `LOG(FATAL)` when the retries are used up. -/
  | retryFailed

inductive ConnectionEvent where
  /-- `OnDidCommitProvisionalLoad`. -/
  | committed
  /-- `OnWasShown`. -/
  | shown
  /-- `OnDetached`. -/
  | detached
  /-- `ConnectBrowserFrame` was entered. -/
  | connectEntered (state : ConnectionState) (reason : ConnectReason)
  /-- `FrameAttached` was sent. -/
  | attempted (reattached : Bool)
  /-- `FrameAttachedAck` was entered. -/
  | acked (allow : Bool)
  /-- The browser process has closed a connection on purpose. -/
  | intentionallyDetached
  /-- `browser_connect_timer_` was started. -/
  | retryScheduled
  deriving DecidableEq

/-- `CefFrameImpl`. An action is sent with the name of the function that sends it. -/
structure CefFrameImpl (A : Type) where
  /-- `browser_` is not null. -/
  browser : Bool := true
  frame : Option WebLocalFrame
  didCommitProvisionalLoad : Bool := false
  attachDenied : Bool := false
  browserConnectRetryCt : Nat := 0
  everConnected : Bool := false
  browserConnectionState : ConnectionState := .disconnected
  browserConnectTimer : Option Nat := none
  queuedBrowserActions : List (String × A) := []
  receiver : Option Attempt := none
  browserFrame : Option Attempt := none
  /-- The number of attempts made so far. -/
  attempts : Nat := 0
  /-- What has happened to the connection, newest first. -/
  trace : List ConnectionEvent := []
  /-- What has happened to the actions, oldest first. -/
  history : List (Outbox.Event (String × A)) := []

namespace CefFrameImpl

variable {A : Type}

/-- A frame as it is created for a `blink::WebLocalFrame`. -/
def create (A : Type) (frame : WebLocalFrame) : CefFrameImpl A := { frame := some frame }

def connected (s : CefFrameImpl A) : Bool :=
  s.browserConnectionState == .connectionAcked && !s.attachDenied

/-- `frame_ && !attach_denied_ && !IsInBackForwardCache(frame_)`. -/
def mayConnect (s : CefFrameImpl A) : Bool :=
  match s.frame with
  | none => false
  | some frame => !s.attachDenied && !frame.isInBackForwardCache

/-- `CefFrameImpl::GetBrowserFrame`. The remote stays unbound when there is no `RenderFrameImpl`. -/
def getBrowserFrame (s : CefFrameImpl A) : CefFrameImpl A :=
  if s.browserFrame.isSome then s
  else if (s.frame.map WebLocalFrame.hasRenderFrameImpl).getD false then
    { s with browserFrame := some s.attempts }
  else s

def connectBrowserFrame (reason : ConnectReason) (s : CefFrameImpl A) :
    Except FrameImplCrash (CefFrameImpl A) :=
  let entered : CefFrameImpl A :=
    { s with
      browserConnectTimer := none
      trace := .connectEntered s.browserConnectionState reason :: s.trace }
  if !entered.mayConnect then
    .ok { entered with browserConnectionState := .disconnected }
  else
    let pending := getBrowserFrame { entered with browserConnectionState := .connectionPending }
    if pending.browserFrame.isNone then .error .checkBrowserFrame
    else
      let reattached := 0 < s.browserConnectRetryCt || reason == .wasShown
      .ok { pending with
        receiver := some s.attempts
        attempts := s.attempts + 1
        trace := .attempted reattached :: pending.trace }

def closePipes (s : CefFrameImpl A) : CefFrameImpl A :=
  { s with
    browserFrame := none
    receiver := none
    browserConnectionState := .disconnected
    history := if s.connected then s.history ++ [.lost] else s.history }

/-- The frame was connected, and the browser process has closed the connection for a reason. -/
def intentionallyDetached (reason : DisconnectReason) (customReason : UInt32) : Bool :=
  (reason == .browserFrameDisconnect || reason == .renderFrameDisconnect) &&
    customReason != ResetReason.kNoReason.toUInt32

def onDisconnect (reason : DisconnectReason) (customReason : UInt32) (errorResult : MojoResult)
    (s : CefFrameImpl A) : Except FrameImplCrash (CefFrameImpl A) :=
  if s.frame.isSome && s.browserConnectionState == .reconnectPending then .ok s
  else if s.browserConnectionState = .disconnected then .ok s
  else
    let frameIsMain := (s.frame.map WebLocalFrame.isOutermostMainFrame).getD false
    let closed := closePipes s
    if intentionallyDetached reason customReason then
      .ok { closed with trace := .intentionallyDetached :: closed.trace }
    else if s.frame.isNone || s.attachDenied then .ok closed
    else
      let connectionBindingDeclined :=
        (reason == .browserFrameDisconnect || reason == .renderFrameDisconnect) &&
          errorResult == MOJO_RESULT_FAILED_PRECONDITION
      let counted : CefFrameImpl A :=
        { closed with browserConnectRetryCt := s.browserConnectRetryCt + 1 }
      if s.browserConnectRetryCt < kConnectionRetryMaxCt then
        let retryDelay :=
          if connectionBindingDeclined && counted.browserConnectRetryCt == 1 then
            kConnectionRetryDelayShort
          else kConnectionRetryDelayLong
        .ok { counted with
          browserConnectionState := .reconnectPending
          browserConnectTimer := some retryDelay
          trace := .retryScheduled :: counted.trace }
      else
        let ignoreRetryFailure := connectionBindingDeclined && !s.everConnected || !frameIsMain
        if ignoreRetryFailure then .ok counted else .error .retryFailed

def onBrowserFrameDisconnect (customReason : UInt32) (s : CefFrameImpl A) :
    Except FrameImplCrash (CefFrameImpl A) :=
  onDisconnect .browserFrameDisconnect customReason MOJO_RESULT_OK s

def onRenderFrameDisconnect (customReason : UInt32) (s : CefFrameImpl A) :
    Except FrameImplCrash (CefFrameImpl A) :=
  onDisconnect .renderFrameDisconnect customReason MOJO_RESULT_OK s

def frameAttachedAck (allow : Bool) (s : CefFrameImpl A) : Except FrameImplCrash (CefFrameImpl A) :=
  if s.browserConnectionState ≠ .connectionPending then
    .error (.checkConnectionPending s.browserConnectionState)
  else
    let acked : CefFrameImpl A :=
      { s with
        browserConnectionState := .connectionAcked
        browserConnectRetryCt := 0
        trace := .acked allow :: s.trace }
    if !allow then
      .ok { acked with
        attachDenied := true
        queuedBrowserActions := []
        history := acked.history ++ [.discarded] }
    else
      let acked := getBrowserFrame { acked with everConnected := true }
      if acked.browserFrame.isNone then .error .checkBrowserFrame
      else
        .ok { acked with
          queuedBrowserActions := []
          history := acked.history ++ .attached :: acked.queuedBrowserActions.map .executed }

def sendToBrowserFrame (functionName : String) (action : A) (s : CefFrameImpl A) :
    Except FrameImplCrash (CefFrameImpl A) :=
  if s.frame.isNone || s.attachDenied then
    .ok { s with history := s.history ++ [.refused (functionName, action)] }
  else if s.browserConnectionState ≠ .connectionAcked then
    .ok { s with
      queuedBrowserActions := s.queuedBrowserActions ++ [(functionName, action)]
      history := s.history ++ [.sent (functionName, action)] }
  else
    let s := getBrowserFrame s
    if s.browserFrame.isNone then .error .checkBrowserFrame
    else
      .ok { s with
        history := s.history ++ [.sent (functionName, action), .executed (functionName, action)] }

def onDidCommitProvisionalLoad (s : CefFrameImpl A) : Except FrameImplCrash (CefFrameImpl A) :=
  let s : CefFrameImpl A :=
    { s with didCommitProvisionalLoad := true, trace := .committed :: s.trace }
  if s.browserConnectionState = .disconnected then connectBrowserFrame .didCommit s else .ok s

def onWasShown (s : CefFrameImpl A) : Except FrameImplCrash (CefFrameImpl A) :=
  let s : CefFrameImpl A := { s with trace := .shown :: s.trace }
  if s.browserConnectionState = .disconnected ∧ s.didCommitProvisionalLoad then
    connectBrowserFrame .wasShown s
  else .ok s

def onDetached (s : CefFrameImpl A) : Except FrameImplCrash (CefFrameImpl A) :=
  if !s.browser then .error .nullBrowser
  else do
    let s ← onDisconnect .detached 0 MOJO_RESULT_OK
      { s with frame := none, trace := .detached :: s.trace }
    .ok { s with
      browser := false
      queuedBrowserActions := []
      history := s.history ++ [.discarded] }

/-- `browser_connect_timer_` fires. -/
def onRetryTimer (s : CefFrameImpl A) : Except FrameImplCrash (CefFrameImpl A) :=
  connectBrowserFrame .retry { s with browserConnectTimer := none }

def setInBackForwardCache (inCache : Bool) (s : CefFrameImpl A) : CefFrameImpl A :=
  { s with frame := s.frame.map fun frame => { frame with isInBackForwardCache := inCache } }

section Cases

variable {s s' : CefFrameImpl A}

@[simp] lemma getBrowserFrame_eq_self (h : s.browserFrame.isSome) : getBrowserFrame s = s := by
  rw [getBrowserFrame, if_pos h]

lemma getBrowserFrame_eq (s : CefFrameImpl A) :
    getBrowserFrame s = { s with browserFrame := (getBrowserFrame s).browserFrame } := by
  unfold getBrowserFrame
  split
  · rfl
  · split <;> rfl

lemma getBrowserFrame_browserFrame (h : (getBrowserFrame s).browserFrame.isNone = false) :
    (getBrowserFrame s).browserFrame = some (s.browserFrame.getD s.attempts) := by
  unfold getBrowserFrame at h ⊢
  split at h
  · rename_i hbound
    rw [if_pos hbound]
    obtain ⟨b, hb⟩ := isSome_iff_exists.mp hbound
    simp [hb]
  · rename_i hunbound
    rw [if_neg hunbound]
    rw [not_isSome_iff_eq_none] at hunbound
    split
    · simp [hunbound]
    · rename_i hnone
      rw [if_neg hnone] at h
      simp [hunbound] at h

lemma connectBrowserFrame_cases {reason : ConnectReason}
    (h : connectBrowserFrame reason s = .ok s') :
    s.mayConnect = false ∧ s' =
      { s with
        browserConnectTimer := none
        browserConnectionState := .disconnected
        trace := .connectEntered s.browserConnectionState reason :: s.trace } ∨
    s.mayConnect = true ∧ ∃ reattached, s' =
      { s with
        browserConnectTimer := none
        browserConnectionState := .connectionPending
        browserFrame := some (s.browserFrame.getD s.attempts)
        receiver := some s.attempts
        attempts := s.attempts + 1
        trace := .attempted reattached :: .connectEntered s.browserConnectionState reason ::
          s.trace } := by
  unfold connectBrowserFrame at h
  dsimp only at h
  split at h
  · rename_i hmay
    refine .inl ⟨by simpa [mayConnect] using hmay, ?_⟩
    exact (ok.inj h).symm
  · rename_i hmay
    refine .inr ⟨by simpa [mayConnect] using hmay,
      0 < s.browserConnectRetryCt || reason == .wasShown, ?_⟩
    split at h
    · exact nomatch h
    · rename_i hbound
      have hframe := getBrowserFrame_browserFrame (Bool.not_eq_true _ ▸ hbound)
      rw [getBrowserFrame_eq, hframe] at h
      exact (ok.inj h).symm

lemma onDisconnect_cases {reason : DisconnectReason} {customReason : UInt32}
    {errorResult : MojoResult} (h : onDisconnect reason customReason errorResult s = .ok s') :
    (s.frame.isSome ∧ s.browserConnectionState = .reconnectPending ∨
        s.browserConnectionState = .disconnected) ∧ s' = s ∨
    s.browserConnectionState ≠ .disconnected ∧
        intentionallyDetached reason customReason = true ∧
        s' = { closePipes s with trace := .intentionallyDetached :: s.trace } ∨
    s.browserConnectionState ≠ .disconnected ∧ (s.frame = none ∨ s.attachDenied = true) ∧
        s' = closePipes s ∨
    s.browserConnectionState ≠ .disconnected ∧ s.frame.isSome ∧ s.attachDenied = false ∧
        s.browserConnectRetryCt < kConnectionRetryMaxCt ∧ (∃ retryDelay, s' =
          { closePipes s with
            browserConnectRetryCt := s.browserConnectRetryCt + 1
            browserConnectionState := .reconnectPending
            browserConnectTimer := some retryDelay
            trace := .retryScheduled :: s.trace }) ∨
    s.browserConnectionState ≠ .disconnected ∧ s.frame.isSome ∧ s.attachDenied = false ∧
        s' = { closePipes s with browserConnectRetryCt := s.browserConnectRetryCt + 1 } := by
  unfold onDisconnect at h
  dsimp only at h
  split at h
  · rename_i hpending
    exact .inl ⟨.inl (by simpa using hpending), (ok.inj h).symm⟩
  · split at h
    · rename_i hdisconnected
      exact .inl ⟨.inr hdisconnected, (ok.inj h).symm⟩
    · rename_i hconnected
      refine .inr ?_
      split at h
      · rename_i hintended
        exact .inl ⟨hconnected, hintended, (ok.inj h).symm⟩
      · refine .inr ?_
        split at h
        · rename_i hgone
          refine .inl ⟨hconnected, ?_, (ok.inj h).symm⟩
          simpa using hgone
        · rename_i hhere
          refine .inr ?_
          simp only [Bool.or_eq_true, not_or, Bool.not_eq_true, isNone_eq_false_iff] at hhere
          split at h
          · rename_i hleft
            exact .inl ⟨hconnected, hhere.1, hhere.2, hleft, _, (ok.inj h).symm⟩
          · split at h
            · exact .inr ⟨hconnected, hhere.1, hhere.2, (ok.inj h).symm⟩
            · exact nomatch h

lemma frameAttachedAck_cases {allow : Bool} (h : frameAttachedAck allow s = .ok s') :
    s.browserConnectionState = .connectionPending ∧
    (allow = false ∧ s' =
      { s with
        browserConnectionState := .connectionAcked
        browserConnectRetryCt := 0
        attachDenied := true
        queuedBrowserActions := []
        trace := .acked false :: s.trace
        history := s.history ++ [.discarded] } ∨
    allow = true ∧ s' =
      { s with
        browserConnectionState := .connectionAcked
        browserConnectRetryCt := 0
        everConnected := true
        browserFrame := some (s.browserFrame.getD s.attempts)
        queuedBrowserActions := []
        trace := .acked true :: s.trace
        history := s.history ++ .attached :: s.queuedBrowserActions.map .executed }) := by
  unfold frameAttachedAck at h
  split at h
  · exact nomatch h
  · rename_i hpending
    refine ⟨Decidable.not_not.mp hpending, ?_⟩
    cases allow with
    | false => exact .inl ⟨rfl, (ok.inj h).symm⟩
    | true =>
      refine .inr ⟨rfl, ?_⟩
      simp only [Bool.not_true, Bool.false_eq_true, if_false] at h
      split at h
      · exact nomatch h
      · rename_i hbound
        have hframe := getBrowserFrame_browserFrame (Bool.not_eq_true _ ▸ hbound)
        rw [getBrowserFrame_eq, hframe] at h
        exact (ok.inj h).symm

end Cases

end CefFrameImpl

end CefCore.Frame
