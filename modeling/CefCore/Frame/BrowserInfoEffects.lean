import CefCore.Frame.BrowserInfo

/-!
# What the operations on the frames of a browser do

The functions of `CefCore.Frame.BrowserInfo` take locks, check conditions and queue notifications.

## Main definitions

* `Performs`: what has become of the browser when an operation comes back.
-/

namespace CefCore.Frame.CefBrowserInfo

open List Option Fallible Except Bool

variable {A : Type} {w w' : CefBrowserInfo A} {held held' : List FrameLock}

/-! ## Effects -/

/-- Whether the notification is delivered when it is run. -/
def wants (n : FrameNotification) (w : CefBrowserInfo A) : Bool :=
  match n with
  | .created _ => w.browser
  | .attached id _ => (w.frame id).browserInfo && w.browser
  | _ => true

/-- The notification is run. -/
def executed (n : FrameNotification) (w : CefBrowserInfo A) : CefBrowserInfo A :=
  if w.wants n then { w with delivered := n :: w.delivered } else w

/-- The notification is run, or queued while the lock is held. -/
def notified (n : FrameNotification) (w : CefBrowserInfo A) : CefBrowserInfo A :=
  if w.frameHandler then
    match w.notificationStateLock with
    | some queue => { w with notificationStateLock := some (queue ++ [n]) }
    | none => w.executed n
  else w

def notifiedIf (b : Bool) (n : FrameNotification) (w : CefBrowserInfo A) : CefBrowserInfo A :=
  if b then w.notified n else w

/-- `DetachFromFrame` with its notifications. -/
def detachedNotifying (isCurrentMainFrame : Bool) (id : FrameId) (w : CefBrowserInfo A) :
    CefBrowserInfo A :=
  ((w.setFrame id ((w.frame id).detached isCurrentMainFrame)).notifiedIf
      (w.frame id).renderFrame.isSome (.detached id)).notifiedIf
    (!isCurrentMainFrame && (w.frame id).browserInfo) (.destroyed id)

/-- `SetMainFrame` detaches the old main frame. -/
def mainFrameDetached (w : CefBrowserInfo A) : CefBrowserInfo A :=
  match w.mainFrame with
  | none => w
  | some old => w.detachedNotifying false old

/-- `SetMainFrame` as a whole. -/
def mainFrameSet (frame : Option FrameId) (w : CefBrowserInfo A) : CefBrowserInfo A :=
  if w.isMainFrame frame then w
  else { w.mainFrameDetached with mainFrame := frame }.notified (.mainFrameChanged w.mainFrame frame)

def mainFrameSetIf (b : Bool) (frame : Option FrameId) (w : CefBrowserInfo A) : CefBrowserInfo A :=
  if b then w.mainFrameSet frame else w

/-- A host that the frame object does not have arrives, and the checks hold. -/
def Arrives (host : RenderFrameHost) (id : FrameId) (w : CefBrowserInfo A) : Prop :=
  (w.frame id).hasHost host = false ∧ (w.frame id).mayAttach host = true

instance (host : RenderFrameHost) (id : FrameId) (w : CefBrowserInfo A) :
    Decidable (w.Arrives host id) :=
  inferInstanceAs (Decidable (_ ∧ _))

/-! ## Fields -/

section Fields

@[simp] lemma setFrame_frame_self (id : FrameId) (f : CefFrameHostImpl A) :
    (w.setFrame id f).frame id = f := by
  unfold setFrame
  exact Function.update_self ..

lemma setFrame_frame_of_ne {id i : FrameId} (h : i ≠ id) (f : CefFrameHostImpl A) :
    (w.setFrame id f).frame i = w.frame i := by
  unfold setFrame
  exact Function.update_of_ne h ..

@[simp] lemma setFrame_setFrame (id : FrameId) (f f' : CefFrameHostImpl A) :
    (w.setFrame id f).setFrame id f' = w.setFrame id f' := by
  unfold setFrame
  rw [Function.update_idem]

variable (b : Bool) (n : FrameNotification) (id : FrameId) (f : CefFrameHostImpl A)

@[simp] lemma setFrame_notificationStateLock :
    (w.setFrame id f).notificationStateLock = w.notificationStateLock := rfl
@[simp] lemma setFrame_frameCount : (w.setFrame id f).frameCount = w.frameCount := rfl
@[simp] lemma setFrame_browser : (w.setFrame id f).browser = w.browser := rfl
@[simp] lemma setFrame_frameHandler : (w.setFrame id f).frameHandler = w.frameHandler := rfl
@[simp] lemma setFrame_frameInfoSet : (w.setFrame id f).frameInfoSet = w.frameInfoSet := rfl
@[simp] lemma setFrame_mainFrame : (w.setFrame id f).mainFrame = w.mainFrame := rfl
@[simp] lemma setFrame_delivered : (w.setFrame id f).delivered = w.delivered := rfl
@[simp] lemma setFrame_reentrantLocks : (w.setFrame id f).reentrantLocks = w.reentrantLocks := rfl

lemma executed_eq : w.executed n = { w with delivered := (w.executed n).delivered } := by
  unfold executed
  split <;> rfl

lemma notified_eq : w.notified n = { w with
    delivered := (w.notified n).delivered
    notificationStateLock := (w.notified n).notificationStateLock } := by
  unfold notified
  split
  · split
    · rfl
    · unfold executed
      split <;> rfl
  · rfl

@[simp] lemma notified_frame : (w.notified n).frame = w.frame := by rw [notified_eq]
@[simp] lemma notified_frameCount : (w.notified n).frameCount = w.frameCount := by rw [notified_eq]
@[simp] lemma notified_browser : (w.notified n).browser = w.browser := by rw [notified_eq]
@[simp] lemma notified_frameHandler : (w.notified n).frameHandler = w.frameHandler := by
  rw [notified_eq]
@[simp] lemma notified_frameInfoSet : (w.notified n).frameInfoSet = w.frameInfoSet := by
  rw [notified_eq]
@[simp] lemma notified_mainFrame : (w.notified n).mainFrame = w.mainFrame := by rw [notified_eq]
@[simp] lemma notified_reentrantLocks : (w.notified n).reentrantLocks = w.reentrantLocks := by
  rw [notified_eq]

@[simp] lemma notifiedIf_frame : (w.notifiedIf b n).frame = w.frame := by
  unfold notifiedIf; split <;> simp
@[simp] lemma notifiedIf_frameCount : (w.notifiedIf b n).frameCount = w.frameCount := by
  unfold notifiedIf; split <;> simp
@[simp] lemma notifiedIf_browser : (w.notifiedIf b n).browser = w.browser := by
  unfold notifiedIf; split <;> simp
@[simp] lemma notifiedIf_frameHandler : (w.notifiedIf b n).frameHandler = w.frameHandler := by
  unfold notifiedIf; split <;> simp
@[simp] lemma notifiedIf_frameInfoSet : (w.notifiedIf b n).frameInfoSet = w.frameInfoSet := by
  unfold notifiedIf; split <;> simp
@[simp] lemma notifiedIf_mainFrame : (w.notifiedIf b n).mainFrame = w.mainFrame := by
  unfold notifiedIf; split <;> simp
@[simp] lemma notifiedIf_reentrantLocks : (w.notifiedIf b n).reentrantLocks = w.reentrantLocks := by
  unfold notifiedIf; split <;> simp

@[simp] lemma notified_isSome :
    (w.notified n).notificationStateLock.isSome = w.notificationStateLock.isSome := by
  unfold notified
  split
  · split
    · rename_i hqueue
      simp [hqueue]
    · rename_i hnone
      rw [executed_eq]
  · rfl

@[simp] lemma notifiedIf_isSome :
    (w.notifiedIf b n).notificationStateLock.isSome = w.notificationStateLock.isSome := by
  unfold notifiedIf; split <;> simp

lemma detachedNotifying_eq : w.detachedNotifying b id = { w with
    frame := Function.update w.frame id ((w.frame id).detached b)
    delivered := (w.detachedNotifying b id).delivered
    notificationStateLock := (w.detachedNotifying b id).notificationStateLock } := by
  unfold detachedNotifying notifiedIf
  split <;> split <;> first | rfl | (rw [notified_eq]; first | rfl | (rw [notified_eq]; rfl))

variable (frame : Option FrameId)

lemma mainFrameSet_eq : w.mainFrameSet frame = { w with
    frame := (w.mainFrameSet frame).frame
    mainFrame := (w.mainFrameSet frame).mainFrame
    delivered := (w.mainFrameSet frame).delivered
    notificationStateLock := (w.mainFrameSet frame).notificationStateLock } := by
  unfold mainFrameSet mainFrameDetached
  split
  · rfl
  · rw [notified_eq]
    split
    · rfl
    · rw [detachedNotifying_eq]

lemma mainFrameSetIf_eq : w.mainFrameSetIf b frame = { w with
    frame := (w.mainFrameSetIf b frame).frame
    mainFrame := (w.mainFrameSetIf b frame).mainFrame
    delivered := (w.mainFrameSetIf b frame).delivered
    notificationStateLock := (w.mainFrameSetIf b frame).notificationStateLock } := by
  unfold mainFrameSetIf
  split
  · rw [mainFrameSet_eq]
  · rfl

@[simp] lemma mainFrameSetIf_frameCount : (w.mainFrameSetIf b frame).frameCount = w.frameCount := by
  rw [mainFrameSetIf_eq]
@[simp] lemma mainFrameSetIf_browser : (w.mainFrameSetIf b frame).browser = w.browser := by
  rw [mainFrameSetIf_eq]
@[simp] lemma mainFrameSetIf_frameHandler :
    (w.mainFrameSetIf b frame).frameHandler = w.frameHandler := by
  rw [mainFrameSetIf_eq]
@[simp] lemma mainFrameSetIf_frameInfoSet :
    (w.mainFrameSetIf b frame).frameInfoSet = w.frameInfoSet := by
  rw [mainFrameSetIf_eq]
@[simp] lemma mainFrameSetIf_reentrantLocks :
    (w.mainFrameSetIf b frame).reentrantLocks = w.reentrantLocks := by
  rw [mainFrameSetIf_eq]

end Fields

/-! ## Locks and accessors -/

lemma lock_eq_ok {l : FrameLock} (h : w.lock held l = .ok held') :
    held' = l :: held ∧ (l ∈ held → w.reentrantLocks = true) := by
  unfold lock at h
  split at h
  · exact nomatch h
  · rename_i hfree
    refine ⟨(ok.inj h).symm, fun hmem => ?_⟩
    simpa [hmem] using hfree

variable {b isSpeculative : Bool} {frame : Option FrameId} {host : RenderFrameHost} {id : FrameId}
  {n : FrameNotification} {op : FrameOperation A} {queue : List FrameNotification}

lemma getBrowser_eq_ok (h : w.getBrowser held = .ok b) : b = w.browser := by
  obtain ⟨_, _, h⟩ := bind_eq_ok_iff.mp h
  exact (ok.inj h).symm

lemma getBrowserInfo_eq_ok (h : w.getBrowserInfo held id = .ok b) :
    b = (w.frame id).browserInfo ∧ (.stateLock id ∈ held → w.reentrantLocks = true) := by
  obtain ⟨_, hlock, h⟩ := bind_eq_ok_iff.mp h
  exact ⟨(ok.inj h).symm, (lock_eq_ok hlock).2⟩

lemma getBrowserHostBase_eq_ok (h : w.getBrowserHostBase held id = .ok b) :
    b = ((w.frame id).browserInfo && w.browser) ∧
      (.stateLock id ∈ held → w.reentrantLocks = true) := by
  obtain ⟨info, hinfo, h⟩ := bind_eq_ok_iff.mp h
  obtain ⟨rfl, hlock⟩ := getBrowserInfo_eq_ok hinfo
  refine ⟨?_, hlock⟩
  split at h
  · rename_i htrue
    rw [htrue, getBrowser_eq_ok h, Bool.true_and]
  · rename_i hfalse
    have hnone : (w.frame id).browserInfo = false := by simpa using hfalse
    rw [hnone, Bool.false_and]
    exact (ok.inj h).symm

lemma execute_eq_ok (h : w.execute held n = .ok w') : w' = w.executed n := by
  obtain ⟨wanted, hwanted, h⟩ := bind_eq_ok_iff.mp h
  have hwants : wanted = w.wants n := by
    cases n with
    | created id => exact getBrowser_eq_ok hwanted
    | attached id reattached => exact (getBrowserHostBase_eq_ok hwanted).1
    | _ => exact (ok.inj hwanted).symm
  subst hwants
  unfold executed
  split at h
  · rename_i hwants
    rw [if_pos hwants]
    exact (ok.inj h).symm
  · rename_i hwants
    rw [if_neg hwants]
    exact (ok.inj h).symm

lemma maybeExecuteFrameNotification_eq_ok (h : w.maybeExecuteFrameNotification held n = .ok w') :
    w' = w.notified n := by
  obtain ⟨_, _, h⟩ := bind_eq_ok_iff.mp h
  unfold notified
  split at h
  · rename_i hnobody
    rw [if_neg (by simpa using hnobody)]
    exact (ok.inj h).symm
  · rename_i hsomebody
    rw [if_pos (by simpa using hsomebody)]
    cases hqueue : w.notificationStateLock with
    | none =>
      rw [hqueue] at h
      exact execute_eq_ok h
    | some queue =>
      rw [hqueue] at h
      exact (ok.inj h).symm

lemma notifyIf_eq_ok (h : w.notifyIf held b n = .ok w') : w' = w.notifiedIf b n := by
  unfold notifyIf at h
  unfold notifiedIf
  split at h
  · rename_i hb
    rw [if_pos hb]
    exact maybeExecuteFrameNotification_eq_ok h
  · rename_i hb
    rw [if_neg hb]
    exact (ok.inj h).symm

/-! ## Frame objects -/

lemma detach_eq_ok {isCurrentMainFrame frameDetached frameDestroyed : Bool}
    (h : w.detach held isCurrentMainFrame id = .ok (w', frameDetached, frameDestroyed)) :
    (w.frame id).mayDetach isCurrentMainFrame = true ∧
      w' = w.setFrame id ((w.frame id).detached isCurrentMainFrame) ∧
      frameDetached = (w.frame id).renderFrame.isSome ∧
      frameDestroyed = (!isCurrentMainFrame && (w.frame id).browserInfo) := by
  unfold detach at h
  dsimp only at h
  split at h
  · exact nomatch h
  · rename_i htemporary
    split at h
    · exact nomatch h
    · rename_i hmain
      have hmay : (w.frame id).mayDetach isCurrentMainFrame = true := by
        cases isCurrentMainFrame
        · simp [CefFrameHostImpl.mayDetach, htemporary]
        · simpa [CefFrameHostImpl.mayDetach, htemporary] using hmain
      refine ⟨hmay, ?_⟩
      unfold CefFrameHostImpl.detached
      split at h
      · rename_i hcurrent
        simp only [ok.injEq, Prod.mk.injEq] at h
        simp [hcurrent, ← h]
      · rename_i hcomplete
        obtain ⟨_, _, h⟩ := bind_eq_ok_iff.mp h
        simp only [ok.injEq, Prod.mk.injEq] at h
        simp [not_eq_true _ ▸ hcomplete, ← h]

lemma detachNotifying_eq_ok {isCurrentMainFrame : Bool}
    (h : w.detachNotifying held isCurrentMainFrame id = .ok w') :
    (w.frame id).mayDetach isCurrentMainFrame = true ∧
      w' = w.detachedNotifying isCurrentMainFrame id := by
  obtain ⟨⟨w₁, frameDetached, frameDestroyed⟩, hdetach, h⟩ := bind_eq_ok_iff.mp h
  obtain ⟨hmay, rfl, rfl, rfl⟩ := detach_eq_ok hdetach
  obtain ⟨w₂, hdetached, h⟩ := bind_eq_ok_iff.mp h
  refine ⟨hmay, ?_⟩
  rw [notifyIf_eq_ok h, notifyIf_eq_ok hdetached]
  rfl

lemma refreshAttributes_eq_ok {attributes : HostAttributes}
    (h : w.refreshAttributes held attributes id = .ok w') :
    (w.frame id).renderFrameHost = none ∧ w' = w ∨
      ∃ host, (w.frame id).renderFrameHost = some host ∧ w.reentrantLocks = true ∧
        w' = w.setFrame id ((w.frame id).refreshed host attributes) := by
  obtain ⟨held₁, hlock, h⟩ := bind_eq_ok_iff.mp h
  obtain ⟨rfl, _⟩ := lock_eq_ok hlock
  cases hhost : (w.frame id).renderFrameHost with
  | none =>
    rw [hhost] at h
    exact .inl ⟨rfl, (ok.inj h).symm⟩
  | some host =>
    rw [hhost] at h
    obtain ⟨_, hbrowser, h⟩ := bind_eq_ok_iff.mp h
    exact .inr ⟨host, rfl, (getBrowserHostBase_eq_ok hbrowser).2 mem_cons_self, (ok.inj h).symm⟩

lemma maybeAttach_eq_ok (h : w.maybeAttach held host id = .ok w') :
    (w.frame id).hasHost host = true ∧ w' = w ∨
      w.Arrives host id ∧ w.reentrantLocks = true ∧
        w' = w.setFrame id (((w.frame id).rehosted host).refreshed host host.attributes) := by
  unfold maybeAttach at h
  dsimp only at h
  split at h
  · rename_i hhas
    exact .inl ⟨hhas, (ok.inj h).symm⟩
  · rename_i hnew
    split at h
    · exact nomatch h
    · rename_i htemporary
      split at h
      · exact nomatch h
      · rename_i hbound
        split at h
        · exact nomatch h
        · rename_i htoken
          obtain ⟨_, _, h⟩ := bind_eq_ok_iff.mp h
          refine .inr ⟨⟨not_eq_true _ ▸ hnew, ?_⟩, ?_⟩
          · rw [Decidable.not_not] at htoken
            simp only [CefFrameHostImpl.mayAttach, htoken]
            simpa [isSome_iff_ne_none, htemporary] using hbound
          · rcases refreshAttributes_eq_ok h with ⟨hnone, _⟩ | ⟨host', hhost, hlocks, rfl⟩
            · simp [CefFrameHostImpl.rehosted] at hnone
            · obtain rfl : host = host' := by
                simpa [CefFrameHostImpl.rehosted] using hhost
              exact ⟨hlocks, by simp⟩

lemma frameAttached_eq_ok {attempt : Attempt} {reattached : Bool}
    (h : w.frameAttached held attempt reattached id = .ok w') :
    (w.frame id).browserInfo = false ∧ w' = w ∨
      (w.frame id).browserInfo = true ∧
        w' = (w.setFrame id ((w.frame id).bound attempt)).notified (.attached id reattached) := by
  obtain ⟨info, hinfo, h⟩ := bind_eq_ok_iff.mp h
  obtain ⟨rfl, _⟩ := getBrowserInfo_eq_ok hinfo
  split at h
  · rename_i hnone
    exact .inl ⟨by simpa using hnone, (ok.inj h).symm⟩
  · rename_i hsome
    obtain ⟨_, _, h⟩ := bind_eq_ok_iff.mp h
    exact .inr ⟨by simpa using hsome, maybeExecuteFrameNotification_eq_ok h⟩

lemma onRenderFrameDisconnect_eq_ok (h : w.onRenderFrameDisconnect held id = .ok w') :
    w' = w.notifiedIf ((w.frame id).browserInfo && w.browser) (.detached id) := by
  obtain ⟨b, hb, h⟩ := bind_eq_ok_iff.mp h
  obtain ⟨rfl, _⟩ := getBrowserHostBase_eq_ok hb
  exact notifyIf_eq_ok h

lemma loadURLWithExtras_eq_ok {params : A} {fixup : Bool}
    (h : w.loadURLWithExtras held params fixup id = .ok w') :
    w' = w ∨ w' = w.sendToRenderFrame "LoadRequest" (.call params) id := by
  unfold loadURLWithExtras at h
  split at h
  · obtain ⟨_, _, h⟩ := bind_eq_ok_iff.mp h
    exact .inl (ok.inj h).symm
  · split at h
    · exact .inl (ok.inj h).symm
    · obtain ⟨_, _, h⟩ := bind_eq_ok_iff.mp h
      exact .inr (ok.inj h).symm

/-! ## The main frame -/

lemma detachMainFrame_eq_ok (h : w.detachMainFrame held = .ok w') :
    w' = w.mainFrameDetached ∧
      ∀ old, w.mainFrame = some old → (w.frame old).mayDetach false = true := by
  unfold detachMainFrame at h
  unfold mainFrameDetached
  cases hmain : w.mainFrame with
  | none =>
    rw [hmain] at h
    exact ⟨(ok.inj h).symm, nofun⟩
  | some old =>
    rw [hmain] at h
    obtain ⟨hmay, rfl⟩ := detachNotifying_eq_ok h
    refine ⟨rfl, fun id hid => ?_⟩
    rw [← some.inj hid]
    exact hmay

lemma setMainFrame_eq_ok (h : w.setMainFrame frame held = .ok w') :
    w' = w.mainFrameSet frame ∧
      (w.isMainFrame frame = false → ∀ old, w.mainFrame = some old →
        (w.frame old).mayDetach false = true) := by
  unfold setMainFrame at h
  unfold mainFrameSet
  split at h
  · rename_i hsame
    rw [if_pos hsame]
    exact ⟨(ok.inj h).symm, fun hfalse => absurd hsame (by simp [hfalse])⟩
  · rename_i hchanges
    rw [if_neg hchanges]
    obtain ⟨w₁, hold, h⟩ := bind_eq_ok_iff.mp h
    obtain ⟨rfl, hmay⟩ := detachMainFrame_eq_ok hold
    exact ⟨maybeExecuteFrameNotification_eq_ok h, fun _ => hmay⟩

lemma setMainFrameIf_eq_ok (h : w.setMainFrameIf held b frame = .ok w') :
    w' = w.mainFrameSetIf b frame ∧
      (b = true → w.isMainFrame frame = false → ∀ old, w.mainFrame = some old →
        (w.frame old).mayDetach false = true) := by
  unfold setMainFrameIf at h
  unfold mainFrameSetIf
  split at h
  · rename_i hb
    rw [if_pos hb]
    obtain ⟨hset, hmay⟩ := setMainFrame_eq_ok h
    exact ⟨hset, fun _ => hmay⟩
  · rename_i hb
    rw [if_neg hb]
    exact ⟨(ok.inj h).symm, fun htrue => absurd htrue hb⟩

/-- The frame object that `GetFrameForGlobalId` finds. -/
def lookup (id : GlobalRenderFrameHostId) (preferSpeculative : Bool) (w : CefBrowserInfo A) :
    Option FrameId :=
  if !id.isValid then none
  else
    (w.findInfo id).bind fun info =>
      if info.isSpeculative && !preferSpeculative && info.isMainFrame && w.mainFrame.isSome then
        w.mainFrame
      else some info.frame

lemma getFrameForGlobalId_eq_ok {id : GlobalRenderFrameHostId} {preferSpeculative : Bool}
    (h : w.getFrameForGlobalId held id preferSpeculative = .ok frame) :
    frame = w.lookup id preferSpeculative := by
  unfold getFrameForGlobalId at h
  unfold lookup
  split at h
  · rename_i hinvalid
    rw [if_pos hinvalid]
    exact (ok.inj h).symm
  · rename_i hvalid
    rw [if_neg hvalid]
    obtain ⟨_, _, h⟩ := bind_eq_ok_iff.mp h
    cases hinfo : w.findInfo id with
    | none =>
      rw [hinfo] at h
      exact (ok.inj h).symm
    | some info =>
      rw [hinfo] at h
      dsimp only at h
      rw [bind_some]
      split at h
      · rename_i hmain
        rw [if_pos hmain]
        exact (ok.inj h).symm
      · rename_i hframe
        rw [if_neg hframe]
        exact (ok.inj h).symm

lemma findInfo_mem {id : GlobalRenderFrameHostId} {info : FrameInfo}
    (h : w.findInfo id = some info) : info ∈ w.frameInfoSet :=
  mem_of_find?_eq_some h

lemma lookup_cases {id : GlobalRenderFrameHostId} {preferSpeculative : Bool} {f : FrameId}
    (h : w.lookup id preferSpeculative = some f) :
    w.mainFrame = some f ∨ ∃ info ∈ w.frameInfoSet, info.frame = f := by
  unfold lookup at h
  split at h
  · exact nomatch h
  · obtain ⟨info, hinfo, h⟩ := bind_eq_some_iff.mp h
    split at h
    · exact .inl h
    · exact .inr ⟨info, findInfo_mem hinfo, some.inj h⟩

lemma updateInfo_frames {id : GlobalRenderFrameHostId} {update : FrameInfo → FrameInfo}
    (hupdate : ∀ info, (update info).frame = info.frame) :
    ∀ info ∈ (w.updateInfo id update).frameInfoSet, ∃ info' ∈ w.frameInfoSet,
      info'.frame = info.frame := by
  intro info hinfo
  obtain ⟨info', hinfo', rfl⟩ := mem_map.mp hinfo
  refine ⟨info', hinfo', ?_⟩
  split
  · exact (hupdate info').symm
  · rfl

/-- The notifications of the queue are run. -/
def drained (queue : List FrameNotification) (w : CefBrowserInfo A) : CefBrowserInfo A :=
  queue.foldl (fun w n => w.executed n) w

lemma foldlM_execute_eq_ok (h : queue.foldlM (fun w n => w.execute held n) w = .ok w') :
    w' = w.drained queue := by
  induction queue generalizing w with
  | nil => exact (ok.inj h).symm
  | cons n queue ih =>
    rw [foldlM_cons] at h
    obtain ⟨w₁, hexecute, h⟩ := bind_eq_ok_iff.mp h
    obtain rfl := execute_eq_ok hexecute
    exact ih h

lemma drained_eq : ∀ (queue : List FrameNotification) (w : CefBrowserInfo A),
    w.drained queue = { w with delivered := (w.drained queue).delivered }
  | [], _ => rfl
  | n :: queue, w => by
    obtain ⟨delivered, hexecuted⟩ : ∃ delivered, w.executed n = { w with delivered } :=
      ⟨_, executed_eq n⟩
    have hcons : w.drained (n :: queue) = (w.executed n).drained queue := rfl
    rw [hcons, hexecuted, drained_eq queue]

/-! ## Operations -/

lemma underNotificationState_eq_ok
    {body : List FrameLock → CefBrowserInfo A → Except BrowserCrash (CefBrowserInfo A)}
    (h : w.underNotificationState held body = .ok (queue, w')) :
    w.notificationStateLock = none ∧ ∃ held' w₁,
      body held' { w with notificationStateLock := some [] } = .ok w₁ ∧
        queue = w₁.notificationStateLock.getD [] ∧
        w' = { w₁ with notificationStateLock := none } := by
  obtain ⟨⟨held₁, w₀⟩, hlocked, h⟩ := bind_eq_ok_iff.mp h
  obtain ⟨w₁, hbody, h⟩ := bind_eq_ok_iff.mp h
  obtain ⟨_, _, h⟩ := bind_eq_ok_iff.mp h
  cases h
  obtain ⟨_, _, hlocked⟩ := bind_eq_ok_iff.mp hlocked
  split at hlocked
  · exact nomatch hlocked
  · rename_i hfree
    obtain ⟨held₂, _, hlocked⟩ := bind_eq_ok_iff.mp hlocked
    obtain ⟨rfl, rfl⟩ := Prod.mk.inj (ok.inj hlocked)
    exact ⟨by simpa using hfree, held₂, w₁, hbody, rfl, rfl⟩

/-- A frame object for the host. -/
def frameCreated (host : RenderFrameHost) (w : CefBrowserInfo A) : CefBrowserInfo A :=
  { w.setFrame w.frameCount (.ofHost A host) with
    frameCount := w.frameCount + 1 }.notified (.created w.frameCount)

lemma createFrame_eq_ok (h : w.createFrame held host isSpeculative = .ok w') :
    w.browser = true ∧
      w' = { (w.frameCreated host).mainFrameSetIf (host.parent.isNone && !isSpeculative)
          (some w.frameCount) with
        frameInfoSet :=
          { globalId := host.globalId, isMainFrame := host.parent.isNone, isSpeculative,
            frame := w.frameCount } :: w.frameInfoSet } := by
  obtain ⟨w₀, hcreated, h⟩ := bind_eq_ok_iff.mp h
  obtain rfl := maybeExecuteFrameNotification_eq_ok hcreated
  obtain ⟨w₁, hmain, h⟩ := bind_eq_ok_iff.mp h
  obtain rfl := (setMainFrameIf_eq_ok hmain).1
  split at h
  · exact nomatch h
  · rename_i hbrowser
    cases h
    refine ⟨by simpa using hbrowser, ?_⟩
    simp [frameCreated]

/-- The speculative frame is one no more. -/
def upgraded (id : GlobalRenderFrameHostId) (w : CefBrowserInfo A) : CefBrowserInfo A :=
  w.updateInfo id fun info => { info with isSpeculative := false }

lemma reuseFrame_eq_ok {info : FrameInfo} (h : w.reuseFrame held host isSpeculative info = .ok w') :
    ∃ w₁, w.maybeAttach held host info.frame = .ok w₁ ∧
      (info.isSpeculative = true ∧ isSpeculative = false ∧
          w' = (w₁.mainFrameSetIf info.isMainFrame (some info.frame)).upgraded host.globalId ∨
        (info.isSpeculative = true → isSpeculative = true) ∧ w' = w₁) := by
  obtain ⟨w₁, hattach, h⟩ := bind_eq_ok_iff.mp h
  refine ⟨w₁, hattach, ?_⟩
  split at h
  · rename_i hupgrade
    obtain ⟨w₂, hmain, h⟩ := bind_eq_ok_iff.mp h
    obtain rfl := (setMainFrameIf_eq_ok hmain).1
    simp only [and_eq_true, not_eq_true'] at hupgrade
    exact .inl ⟨hupgrade.1, hupgrade.2, (ok.inj h).symm⟩
  · rename_i hkeep
    refine .inr ⟨fun hspeculative => ?_, (ok.inj h).symm⟩
    simpa [hspeculative] using hkeep

lemma frameHostStateChanged_eq_ok {oldState newState : LifecycleState}
    (h : w.frameHostStateChanged held host oldState newState = .ok (frame, queue, w')) :
    (becomesActive oldState newState = true → w.lookup host.globalId false = none) ∧
        queue = [] ∧ frame = none ∧ w' = w ∨
      ∃ id w₁, becomesActive oldState newState = true ∧
        w.lookup host.globalId false = some id ∧ frame = some id ∧
        w.maybeAttach held host id = .ok w₁ ∧
        ((w₁.frame id).isMainFrame = false ∧ queue = [] ∧ w' = w₁ ∨
          (w₁.frame id).isMainFrame = true ∧
            w₁.underNotificationState held (setMainFrame (some id)) = .ok (queue, w')) := by
  unfold frameHostStateChanged at h
  split at h
  · rename_i hinactive
    simp only [ok.injEq, Prod.mk.injEq] at h
    refine .inl ⟨fun hactive => ?_, h.2.1.symm, h.1.symm, h.2.2.symm⟩
    simp [hactive] at hinactive
  · rename_i hactive
    obtain ⟨found, hfound, h⟩ := bind_eq_ok_iff.mp h
    have hlookup := getFrameForGlobalId_eq_ok hfound
    cases found with
    | none =>
      simp only [ok.injEq, Prod.mk.injEq] at h
      exact .inl ⟨fun _ => hlookup.symm, h.2.1.symm, h.1.symm, h.2.2.symm⟩
    | some id =>
      obtain ⟨w₁, hattach, h⟩ := bind_eq_ok_iff.mp h
      split at h
      · rename_i hmain
        obtain ⟨⟨queue', w₂⟩, hset, h⟩ := bind_eq_ok_iff.mp h
        simp only [ok.injEq, Prod.mk.injEq] at h
        obtain ⟨rfl, rfl, rfl⟩ := h
        exact .inr ⟨id, w₁, by simpa using hactive, hlookup.symm, rfl, hattach,
          .inr ⟨hmain, hset⟩⟩
      · rename_i hsub
        simp only [ok.injEq, Prod.mk.injEq] at h
        obtain ⟨rfl, rfl, rfl⟩ := h
        exact .inr ⟨id, w₁, by simpa using hactive, hlookup.symm, rfl, hattach,
          .inl ⟨not_eq_true _ ▸ hsub, rfl, rfl⟩⟩

lemma createOrReuseFrame_eq_ok (h : w.createOrReuseFrame host isSpeculative held = .ok w') :
    (∃ info, w.findInfo host.globalId = some info ∧
        w.reuseFrame held host isSpeculative info = .ok w') ∨
      w.findInfo host.globalId = none ∧ w.createFrame held host isSpeculative = .ok w' := by
  unfold createOrReuseFrame at h
  cases hinfo : w.findInfo host.globalId with
  | some info =>
    rw [hinfo] at h
    exact .inl ⟨info, rfl, h⟩
  | none =>
    rw [hinfo] at h
    exact .inr ⟨rfl, h⟩

/-- The frame, if there is one, may send that it has stopped loading. -/
def stoppedLoading (frame : Option FrameId) (w : CefBrowserInfo A) : CefBrowserInfo A :=
  match frame with
  | none => w
  | some id => w.setFrame id (w.frame id).maybeSendDidStopLoading

lemma updateBackForwardCache_eq_ok {oldState newState : LifecycleState}
    (h : w.updateBackForwardCache held host oldState newState frame = .ok w') :
    w' = w.stoppedLoading frame ∨
      w' = (w.stoppedLoading frame).updateInfo host.globalId fun info =>
        { info with isInBfcache := newState == .kInBackForwardCache } := by
  unfold updateBackForwardCache at h
  dsimp only at h
  split at h
  · exact .inl (ok.inj h).symm
  · obtain ⟨_, _, h⟩ := bind_eq_ok_iff.mp h
    exact .inr (ok.inj h).symm

/-- The entry of the host is removed. -/
def infoRemoved (id : GlobalRenderFrameHostId) (w : CefBrowserInfo A) : CefBrowserInfo A :=
  { w with frameInfoSet := w.frameInfoSet.filter (·.globalId ≠ id) }

lemma removeInfo_eq_ok (h : w.removeInfo host held = .ok w') :
    w.findInfo host.globalId = none ∧ w' = w ∨
      ∃ info, w.findInfo host.globalId = some info ∧ w.browser = true ∧
        ((w.infoRemoved host.globalId).frame info.frame).mayDetach info.isCurrentMainFrame = true ∧
        w' = (w.infoRemoved host.globalId).detachedNotifying info.isCurrentMainFrame info.frame := by
  unfold removeInfo at h
  cases hinfo : w.findInfo host.globalId with
  | none =>
    rw [hinfo] at h
    exact .inl ⟨rfl, (ok.inj h).symm⟩
  | some info =>
    rw [hinfo] at h
    dsimp only at h
    split at h
    · exact nomatch h
    · rename_i hbrowser
      obtain ⟨hmay, hw'⟩ := detachNotifying_eq_ok h
      exact .inr ⟨info, rfl, by simpa using hbrowser, hmay, hw'⟩

/-- All frames are detached. -/
def allDetached : List FrameInfo → CefBrowserInfo A → CefBrowserInfo A
  | [], w => w
  | info :: infos, w =>
    (w.setFrame info.frame ((w.frame info.frame).detached info.isCurrentMainFrame)).allDetached infos

lemma detachAll_eq_ok {infos : List FrameInfo} (h : detachAll held infos w = .ok w') :
    w' = w.allDetached infos := by
  induction infos generalizing w with
  | nil => exact (ok.inj h).symm
  | cons info infos ih =>
    obtain ⟨⟨w₁, _, _⟩, hdetach, h⟩ := bind_eq_ok_iff.mp h
    obtain ⟨_, rfl, _⟩ := detach_eq_ok hdetach
    exact ih h

lemma removeAllFrames_eq_ok (h : w.removeAllFrames held = .ok w') :
    w' = { (w.allDetached w.frameInfoSet).mainFrameSetIf
        (w.allDetached w.frameInfoSet).mainFrame.isSome none with frameInfoSet := [] } := by
  obtain ⟨w₁, hdetach, h⟩ := bind_eq_ok_iff.mp h
  obtain rfl := detachAll_eq_ok hdetach
  obtain ⟨w₂, hmain, h⟩ := bind_eq_ok_iff.mp h
  obtain rfl := (setMainFrameIf_eq_ok hmain).1
  exact (ok.inj h).symm

lemma closeFrames_eq_ok (h : w.closeFrames held = .ok w') :
    ∃ w₁, { w with isClosing := true }.removeAllFrames held = .ok w₁ ∧
      w' = { w₁ with frameHandler := false } := by
  obtain ⟨w₁, hremove, h⟩ := bind_eq_ok_iff.mp h
  exact ⟨w₁, hremove, (ok.inj h).symm⟩

lemma createTempSubFrame_eq_ok {parentGlobalId : GlobalRenderFrameHostId}
    (h : w.createTempSubFrame held parentGlobalId = .ok w') :
    ∃ parent, w' = w.createTemporary parent := by
  obtain ⟨found, _, h⟩ := bind_eq_ok_iff.mp h
  cases found with
  | some parent => exact ⟨parent, (ok.inj h).symm⟩
  | none =>
    obtain ⟨found, _, h⟩ := bind_eq_ok_iff.mp h
    cases found with
    | some parent => exact ⟨parent, (ok.inj h).symm⟩
    | none => exact nomatch h

/-- What an operation has done when it delivers its notifications: one case for each way on which
`perform` comes back. -/
inductive Performs (w : CefBrowserInfo A) : FrameOperation A → Performed A → Prop
  | excluded {host : RenderFrameHost} {isSpeculative : Bool} :
    w.Performs (.maybeCreateFrame host true isSpeculative) { info := w }
  | created {host : RenderFrameHost} {isSpeculative : Bool} {queue : List FrameNotification}
      {info : CefBrowserInfo A} (hcreate : w.maybeCreateFrame [] host isSpeculative = .ok (queue, info)) :
    w.Performs (.maybeCreateFrame host false isSpeculative) { queue, info }
  | stateChanged {host : RenderFrameHost} {oldState newState : LifecycleState}
      {frame : Option FrameId} {queue : List FrameNotification} {info : CefBrowserInfo A}
      (hchange : w.frameHostStateChanged [] host oldState newState = .ok (frame, queue, info)) :
    w.Performs (.frameHostStateChanged host oldState newState) { queue, frame, info }
  | removed {host : RenderFrameHost} {queue : List FrameNotification} {info : CefBrowserInfo A}
      (hremove : w.removeFrame [] host = .ok (queue, info)) :
    w.Performs (.removeFrame host) { queue, info }
  | closed {queue : List FrameNotification} {info : CefBrowserInfo A}
      (hclose : w.webContentsDestroyed [] = .ok (queue, info)) :
    w.Performs .webContentsDestroyed { queue, info }
  | closing : w.Performs .setClosing { info := { w with isClosing := true } }
  | destroyed : w.Performs .browserDestroyed { info := { w with browser := false } }
  | temporary {parentGlobalId : GlobalRenderFrameHostId} (parent : FrameId) :
    w.Performs (.createTempSubFrame parentGlobalId) { info := w.createTemporary parent }
  | unhosted {frame : FrameId} {attributes : HostAttributes} :
    w.Performs (.refreshAttributes frame attributes) { info := w }
  | refreshed {frame : FrameId} {attributes : HostAttributes} {host : RenderFrameHost}
      (hhost : (w.frame frame).renderFrameHost = some host) :
    w.Performs (.refreshAttributes frame attributes)
      { info := w.setFrame frame ((w.frame frame).refreshed host attributes) }
  | unknown {globalId : GlobalRenderFrameHostId} {attempt : Attempt} {reattached : Bool} :
    w.Performs (.frameAttached globalId attempt reattached) { info := w }
  | attached {globalId : GlobalRenderFrameHostId} {attempt : Attempt} {reattached : Bool}
      {id : FrameId} {info : CefBrowserInfo A} (hlookup : w.lookup globalId true = some id)
      (hattached : w.frameAttached [] attempt reattached id = .ok info) :
    w.Performs (.frameAttached globalId attempt reattached) { info }
  | unbound {frame : FrameId} : w.Performs (.renderFrameDisconnect frame) { info := w }
  | disconnected {frame : FrameId} :
    w.Performs (.renderFrameDisconnect frame)
      { frame := some frame
        info := w.notifiedIf ((w.frame frame).browserInfo && w.browser) (.detached frame) }
  | sent {frame : FrameId} {functionName : String} {action : A} :
    w.Performs (.sendToRenderFrame frame functionName action)
      { info := w.sendToRenderFrame functionName (.call action) frame }
  | unloaded {frame : FrameId} {params : A} {fixup : Bool} :
    w.Performs (.loadURLWithExtras frame params fixup) { info := w }
  | loaded {frame : FrameId} {params : A} {fixup : Bool} :
    w.Performs (.loadURLWithExtras frame params fixup)
      { info := w.sendToRenderFrame "LoadRequest" (.call params) frame }

lemma performs_of_ok {performed : Performed A}
    (h : w.perform op = .ok performed) : w.Performs op performed := by
  cases op with
  | maybeCreateFrame host isExcluded isSpeculative =>
    cases isExcluded with
    | true => exact ok.inj h ▸ .excluded
    | false =>
      obtain ⟨⟨queue, info⟩, hcreate, h⟩ := bind_eq_ok_iff.mp h
      exact ok.inj h ▸ .created hcreate
  | frameHostStateChanged host oldState newState =>
    obtain ⟨⟨frame, queue, info⟩, hchange, h⟩ := bind_eq_ok_iff.mp h
    exact ok.inj h ▸ .stateChanged hchange
  | removeFrame host =>
    obtain ⟨⟨queue, info⟩, hremove, h⟩ := bind_eq_ok_iff.mp h
    exact ok.inj h ▸ .removed hremove
  | webContentsDestroyed =>
    obtain ⟨⟨queue, info⟩, hclose, h⟩ := bind_eq_ok_iff.mp h
    exact ok.inj h ▸ .closed hclose
  | setClosing =>
    obtain ⟨_, _, h⟩ := bind_eq_ok_iff.mp h
    exact ok.inj h ▸ .closing
  | browserDestroyed =>
    obtain ⟨_, _, h⟩ := bind_eq_ok_iff.mp h
    exact ok.inj h ▸ .destroyed
  | createTempSubFrame parentGlobalId =>
    obtain ⟨info, hcreate, h⟩ := bind_eq_ok_iff.mp h
    obtain ⟨parent, rfl⟩ := createTempSubFrame_eq_ok hcreate
    exact ok.inj h ▸ .temporary parent
  | refreshAttributes frame attributes =>
    obtain ⟨info, hrefresh, h⟩ := bind_eq_ok_iff.mp h
    cases h
    rcases refreshAttributes_eq_ok hrefresh with ⟨_, rfl⟩ | ⟨host, hhost, _, rfl⟩
    · exact .unhosted
    · exact .refreshed hhost
  | frameAttached globalId attempt reattached =>
    obtain ⟨found, hfound, h⟩ := bind_eq_ok_iff.mp h
    have hlookup := getFrameForGlobalId_eq_ok hfound
    cases found with
    | none => exact ok.inj h ▸ .unknown
    | some id =>
      obtain ⟨info, hattached, h⟩ := bind_eq_ok_iff.mp h
      exact ok.inj h ▸ .attached hlookup.symm hattached
  | renderFrameDisconnect frame =>
    simp only [perform] at h
    split at h
    · obtain ⟨info, hdisconnect, h⟩ := bind_eq_ok_iff.mp h
      obtain rfl := onRenderFrameDisconnect_eq_ok hdisconnect
      exact ok.inj h ▸ .disconnected
    · exact ok.inj h ▸ .unbound
  | sendToRenderFrame frame functionName action => exact ok.inj h ▸ .sent
  | loadURLWithExtras frame params fixup =>
    obtain ⟨info, hload, h⟩ := bind_eq_ok_iff.mp h
    cases h
    rcases loadURLWithExtras_eq_ok hload with rfl | rfl
    · exact .unloaded
    · exact .loaded

lemma step_eq_ok (h : w.step op = .ok w') :
    ∃ performed, w.perform op = .ok performed ∧
      (performed.info.drained performed.queue).conclude performed.frame op = .ok w' := by
  obtain ⟨performed, hperform, h⟩ := bind_eq_ok_iff.mp h
  obtain ⟨w₁, hdrained, h⟩ := bind_eq_ok_iff.mp h
  obtain rfl := foldlM_execute_eq_ok hdrained
  exact ⟨performed, hperform, h⟩

lemma conclude_eq_ok (h : w.conclude frame op = .ok w') :
    (∃ host oldState newState, op = .frameHostStateChanged host oldState newState ∧
        w.updateBackForwardCache [] host oldState newState frame = .ok w') ∨
      (∃ lost id, op = .renderFrameDisconnect lost ∧ frame = some id ∧
        w' = w.setFrame id (w.frame id).unbound) ∨ w' = w := by
  cases op with
  | frameHostStateChanged host oldState newState =>
    exact .inl ⟨host, oldState, newState, rfl, h⟩
  | renderFrameDisconnect id =>
    cases frame with
    | none => exact .inr (.inr (ok.inj h).symm)
    | some active => exact .inr (.inl ⟨id, active, rfl, rfl, (ok.inj h).symm⟩)
  | _ => exact .inr (.inr (ok.inj h).symm)

end CefCore.Frame.CefBrowserInfo
