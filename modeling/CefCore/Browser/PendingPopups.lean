import CefCore.Foundations.FirstMatch
import CefCore.Frame.FrameHostImpl

/-!
# Pending popups

A popup is created in several calls of `CefBrowserInfoManager` of
`libcef/browser/browser_info_manager.cc`. In between the popup is in a list, and each call takes it out
again: the first entry in the right step that has the right opener and URL, or the right `WebContents`.
Behind the call it goes to the end of the list, or it is complete.

## Main definitions

* `PopupManager.step`: a call finds its popup and moves it on.

## Implementation notes

* Popups are numbered in the order of their `CanCreateWindow` calls. The number stands for the address.
* What `CanCreateWindow` asks of the browser, of its client and of the renderer process are parameters of
  the call. What the popup hands on to the new browser is of any type.
* A call that does not find a popup, but has to, does not come back: the pointer is null.
* What the client does in `OnBeforePopupAborted` comes behind the operation.
-/

namespace CefCore.Browser

open Option

open CefCore.Frame (GlobalRenderFrameHostId)

/-- `PendingPopup::Step`. -/
inductive PopupStep where
  | canCreateWindow
  | getCustomWebContentsView
  | webContentsCreated
  | creationComplete
  deriving DecidableEq

/-- `PendingPopup`. `creation` is what is handed on to the new browser: settings, client, platform
delegate and extra info. -/
structure PendingPopup (δ : Type) where
  number : Nat
  /-- `aborted_callback` is set. -/
  abortedCallback : Bool
  step : PopupStep
  alloyStyle : Bool
  openerGlobalId : GlobalRenderFrameHostId
  targetUrl : String
  creation : δ
  useDefaultBrowserCreation : Bool
  newContents : Option Nat := none
  deriving DecidableEq

/-- A call of `CanCreateWindow`, with what it finds out. -/
structure CanCreateWindowCall (δ : Type) where
  opener : GlobalRenderFrameHostId
  /-- The URL behind `FilterURL`. -/
  filteredUrl : String
  /-- The navigation is allowed, and there is a browser. -/
  mayNavigate : Bool
  pictureInPicture : Bool
  /-- What `OnBeforePopup` returns, if there is a handler: `true` cancels the popup. -/
  onBeforePopup : Option Bool
  alloyStyle : Bool
  creation : δ

inductive PopupCall where
  | getCustomWebContentsView (targetUrl : String) (openerGlobalId : GlobalRenderFrameHostId)
  | webContentsCreated (targetUrl : String) (openerGlobalId : GlobalRenderFrameHostId)
    (newContents : Nat)
  | addWebContents (newContents : Nat)
  deriving DecidableEq

inductive PopupReport (δ : Type) where
  | created (popup : PendingPopup δ)
  | handedOut (call : PopupCall) (popup : PendingPopup δ)
  | aborted (number : Nat)
  deriving DecidableEq

/-- The members of `CefBrowserInfoManager` that have to do with popups, and what has happened. -/
structure PopupManager (δ : Type) where
  pendingPopupList : List (PendingPopup δ) := []
  /-- `pending_create_popup_`. The popup may be gone. -/
  pendingCreatePopup : Option Nat := none
  nextNumber : Nat := 0
  log : List (PopupReport δ) := []

variable {δ : Type}

namespace PendingPopup

variable (p : PendingPopup δ)

/-- The step of a popup is the one that comes before, for its style. -/
def isAt (previousStepAlloy previousStepChrome : PopupStep) : Bool :=
  p.step = if p.alloyStyle then previousStepAlloy else previousStepChrome

def destroyed : List (PopupReport δ) :=
  if p.step ≠ .creationComplete ∧ p.abortedCallback then [.aborted p.number] else []

end PendingPopup

namespace PopupCall

/-- The condition of `PopPendingPopup`, as the call uses it. -/
def finds : PopupCall → PendingPopup δ → Bool
  | getCustomWebContentsView targetUrl opener, p =>
    p.isAt .canCreateWindow .canCreateWindow && (p.openerGlobalId = opener && p.targetUrl = targetUrl)
  | webContentsCreated targetUrl opener _, p =>
    -- `GET_CUSTOM_WEB_CONTENTS_VIEW` is only used with Alloy style.
    p.isAt .getCustomWebContentsView .canCreateWindow &&
      (p.openerGlobalId = opener && p.targetUrl = targetUrl)
  | addWebContents newContents, p =>
    p.isAt .webContentsCreated .webContentsCreated && p.newContents = some newContents

def update : PopupCall → PendingPopup δ → PendingPopup δ
  | getCustomWebContentsView _ _, p => { p with step := .getCustomWebContentsView }
  | webContentsCreated _ _ newContents, p =>
    -- `AddWebContents` is only used with Chrome style.
    if p.alloyStyle then { p with step := .creationComplete }
    else { p with step := .webContentsCreated, newContents := some newContents }
  | addWebContents _, p => { p with step := .creationComplete }

end PopupCall

namespace PopupManager

variable (m : PopupManager δ)

def pushPendingPopup (popup : PendingPopup δ) : PopupManager δ :=
  { m with pendingPopupList := m.pendingPopupList ++ [popup] }

/-- `std::erase_if` for the list of popups. -/
def eraseIf (condition : PendingPopup δ → Bool) : PopupManager δ :=
  { m with
    pendingPopupList := m.pendingPopupList.filter fun p => !condition p
    log := m.log ++ (m.pendingPopupList.filter condition).flatMap PendingPopup.destroyed }

def canCreateWindow (call : CanCreateWindowCall δ) : Bool × PopupManager δ :=
  if !call.mayNavigate then (false, m)
  else
    let allow := !(call.onBeforePopup.getD false)
    let handled := call.onBeforePopup.isSome
    if allow then
      let popup : PendingPopup δ :=
        { number := m.nextNumber
          abortedCallback := handled
          step := .canCreateWindow
          alloyStyle := call.alloyStyle
          openerGlobalId := call.opener
          targetUrl := call.filteredUrl
          creation := call.creation
          useDefaultBrowserCreation := call.pictureInPicture || !handled }
      let m := { m with
        pendingCreatePopup := some m.nextNumber
        nextNumber := m.nextNumber + 1
        log := m.log ++ [PopupReport.created popup] }
      (true, m.pushPendingPopup popup)
    else (false, m)

def createWindowResult (success : Bool) : PopupManager δ :=
  match success, m.pendingCreatePopup with
  | false, some popup =>
    { m with pendingCreatePopup := none }.eraseIf fun p => p.number = popup
  | _, _ => m

/-- A call takes the popup that it finds out of the list, and puts it back behind the last one if it is
not complete. The popup that is handed out is the one before the call. -/
def receive (call : PopupCall) : Option (PendingPopup δ × PopupManager δ) :=
  (m.pendingPopupList.find? call.finds).map fun p =>
    let m := { m with
      pendingPopupList := m.pendingPopupList.eraseP call.finds
      log := m.log ++ [.handedOut call p] }
    (p, if (call.update p).step = .creationComplete then m else m.pushPendingPopup (call.update p))

def getCustomWebContentsView (targetUrl : String) (opener : GlobalRenderFrameHostId) :
    Option (PopupManager δ) :=
  (m.receive (.getCustomWebContentsView targetUrl opener)).map (·.2)

/-- `WebContentsCreated`, with what it hands on. -/
def webContentsCreated (targetUrl : String) (opener : GlobalRenderFrameHostId) (newContents : Nat) :
    Option (δ × PopupManager δ) :=
  match { m with pendingCreatePopup := none }.receive
    (.webContentsCreated targetUrl opener newContents) with
  | some (p, m) => some (p.creation, m)
  | none => none

def addWebContents (newContents : Nat) : Bool × PopupManager δ :=
  match m.receive (.addWebContents newContents) with
  | some (p, m) => (!p.useDefaultBrowserCreation, m)
  -- Proceed with default handling.
  | none => (false, m)

/-- `RenderProcessHostDestroyed`, as far as popups are concerned. -/
def renderProcessHostDestroyed (renderProcessId : Int) : PopupManager δ :=
  m.eraseIf fun p => p.openerGlobalId.childId = renderProcessId

end PopupManager

inductive PopupOp (δ : Type) where
  | canCreateWindow (call : CanCreateWindowCall δ)
  | createWindowResult (opener : GlobalRenderFrameHostId) (success : Bool)
  | call (call : PopupCall)
  | renderProcessHostDestroyed (renderProcessId : Int)

def PopupManager.step (m : PopupManager δ) : PopupOp δ → Option (PopupManager δ)
  | .canCreateWindow call => some (m.canCreateWindow call).2
  | .createWindowResult _ success => some (m.createWindowResult success)
  | .call (.getCustomWebContentsView targetUrl opener) => m.getCustomWebContentsView targetUrl opener
  | .call (.webContentsCreated targetUrl opener newContents) =>
    (m.webContentsCreated targetUrl opener newContents).map (·.2)
  | .call (.addWebContents newContents) => some (m.addWebContents newContents).2
  | .renderProcessHostDestroyed renderProcessId => some (m.renderProcessHostDestroyed renderProcessId)

/-! ### What a step does -/

/-- **What a step does**, apart from `pending_create_popup_`. -/
inductive PopupManager.Change (m : PopupManager δ) : PopupManager δ → Prop
  | none (pendingCreatePopup : Option Nat) : Change m { m with pendingCreatePopup }
  | created (popup : PendingPopup δ) (hnumber : popup.number = m.nextNumber)
      (hstep : popup.step = .canCreateWindow) (hcontents : popup.newContents = Option.none) :
      Change m
        { pendingPopupList := m.pendingPopupList ++ [popup]
          pendingCreatePopup := some m.nextNumber
          nextNumber := m.nextNumber + 1
          log := m.log ++ [.created popup] }
  | received (pendingCreatePopup : Option Nat) (call : PopupCall) (popup : PendingPopup δ)
      (hfind : m.pendingPopupList.find? call.finds = some popup) :
      Change m
        { m with
          pendingCreatePopup
          pendingPopupList := m.pendingPopupList.eraseP call.finds ++
            [call.update popup].filter fun p => p.step ≠ .creationComplete
          log := m.log ++ [.handedOut call popup] }
  | erased (pendingCreatePopup : Option Nat) (condition : PendingPopup δ → Bool) :
      Change m ({ m with pendingCreatePopup }.eraseIf condition)

namespace PopupManager

variable {m m' : PopupManager δ}

lemma change_of_receive {call : PopupCall} {r : PendingPopup δ × PopupManager δ}
    (pendingCreatePopup : Option Nat)
    (h : ({ m with pendingCreatePopup }.receive call) = some r) : m.Change r.2 := by
  obtain ⟨p, hfind, rfl⟩ := map_eq_some_iff.mp h
  have hchange := Change.received (m := m) pendingCreatePopup call p hfind
  by_cases hcomplete : (call.update p).step = .creationComplete
  · simpa [hcomplete] using hchange
  · simpa [hcomplete, pushPendingPopup] using hchange

lemma change_of_step {op : PopupOp δ} (h : m.step op = some m') : m.Change m' := by
  cases op with
  | canCreateWindow call =>
    cases h
    simp only [canCreateWindow]
    split
    · exact .none m.pendingCreatePopup
    · split
      · exact .created _ rfl rfl rfl
      · exact .none m.pendingCreatePopup
  | createWindowResult opener success =>
    cases h
    unfold createWindowResult
    split
    · exact .erased .none _
    · exact .none m.pendingCreatePopup
  | renderProcessHostDestroyed renderProcessId =>
    cases h
    exact .erased m.pendingCreatePopup _
  | call call =>
    cases call with
    | getCustomWebContentsView targetUrl opener =>
      obtain ⟨r, hr, rfl⟩ := map_eq_some_iff.mp h
      exact change_of_receive m.pendingCreatePopup hr
    | webContentsCreated targetUrl opener newContents =>
      obtain ⟨r, hr, rfl⟩ := map_eq_some_iff.mp h
      unfold webContentsCreated at hr
      split at hr
      · rename_i hreceive
        cases hr
        exact change_of_receive none hreceive
      · cases hr
    | addWebContents newContents =>
      cases h
      unfold addWebContents
      split
      · rename_i r hr
        exact change_of_receive m.pendingCreatePopup hr
      · exact .none m.pendingCreatePopup

end PopupManager

end CefCore.Browser
