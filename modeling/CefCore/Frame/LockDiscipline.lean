import CefCore.Frame.BrowserInfoEffects

/-!
# The locks of the frame objects

`CefFrameHostImpl` and `CefBrowserInfo` have three locks, and small accessors take them.
`RefreshAttributes` asks for the browser while it holds the lock of the frame object, and
`GetBrowserInfo` takes that lock again.

## Main results

* `run_deadlocks_iff`: the calls that run into that.
-/

namespace CefCore.Frame

open List Option Fallible

/-- The thread waits for a lock that it holds. -/
def BrowserCrash.IsDeadlock : BrowserCrash → Prop
  | .deadlock _ => True
  | .check _ => False

open Fallible (Fails)
open BrowserCrash (IsDeadlock)

@[simp] lemma not_isDeadlock_check (condition : String) : ¬ IsDeadlock (.check condition) := id

namespace CefBrowserInfo

inductive FrameCall (A : Type) where
  | operation (op : FrameOperation A)
  | maybeAttach (host : RenderFrameHost) (frame : FrameId)
  | detach (isCurrentMainFrame : Bool) (frame : FrameId)

variable {A : Type}

def call (w : CefBrowserInfo A) : FrameCall A → Except BrowserCrash (CefBrowserInfo A)
  | .operation op => w.step op
  | .maybeAttach host frame => w.maybeAttach [] host frame
  | .detach isCurrentMainFrame frame => (w.detach [] isCurrentMainFrame frame).map (·.1)

/-- A frame object with a host is refreshed, or a frame object gets a host that it does not have. -/
def Contends (w : CefBrowserInfo A) : FrameCall A → Prop
  | .operation (.refreshAttributes frame _) => (w.frame frame).renderFrameHost.isSome
  | .operation (.maybeCreateFrame host isExcluded _) => isExcluded = false ∧
      ∃ info, w.findInfo host.globalId = some info ∧ w.Arrives host info.frame
  | .operation (.frameHostStateChanged host oldState newState) =>
      becomesActive oldState newState = true ∧
        ∃ id, w.lookup host.globalId false = some id ∧ w.Arrives host id
  | .operation _ => False
  | .maybeAttach host frame => w.Arrives host frame
  | .detach _ _ => False

section Locks

variable {w : CefBrowserInfo A} {held : List FrameLock}

lemma lock_deadlocks_iff (hw : w.reentrantLocks = false) {l : FrameLock} :
    Fails IsDeadlock (w.lock held l) ↔ l ∈ held := by
  unfold lock
  split
  · rename_i hheld
    rw [fails_error]
    exact iff_of_true trivial hheld.1
  · rename_i hfree
    exact iff_of_false (Fails.ok _) fun hmem => hfree ⟨hmem, hw⟩

lemma getBrowser_quiet (hw : w.reentrantLocks = false) (h : .browserInfoLock ∉ held) :
    ¬ Fails IsDeadlock (w.getBrowser held) :=
  not_fails_bind (mt (lock_deadlocks_iff hw).mp h) fun _ _ => Fails.ok _

variable {id : FrameId}

section

variable (hw : w.reentrantLocks = false)
include hw

lemma getBrowserInfo_deadlocks_iff :
    Fails IsDeadlock (w.getBrowserInfo held id) ↔ .stateLock id ∈ held := by
  unfold getBrowserInfo
  rw [fails_bind_iff, lock_deadlocks_iff hw]
  simp

lemma getBrowserHostBase_deadlocks (h : .stateLock id ∈ held) :
    Fails IsDeadlock (w.getBrowserHostBase held id) := by
  unfold getBrowserHostBase
  rw [fails_bind_iff]
  exact .inl ((getBrowserInfo_deadlocks_iff hw).mpr h)

lemma getBrowserHostBase_quiet (id : FrameId) :
    ¬ Fails IsDeadlock (w.getBrowserHostBase [] id) := by
  refine not_fails_bind (mt (getBrowserInfo_deadlocks_iff hw).mp not_mem_nil) ?_
  intro b _
  split
  · exact getBrowser_quiet hw not_mem_nil
  · exact Fails.ok _

lemma execute_quiet (n : FrameNotification) : ¬ Fails IsDeadlock (w.execute [] n) := by
  refine not_fails_bind ?_ fun b _ => ?_
  · cases n with
    | created id => exact getBrowser_quiet hw nofun
    | attached id reattached => exact getBrowserHostBase_quiet hw _
    | _ => exact Fails.ok _
  · split <;> exact Fails.ok _

end

/-- The locks that a thread holds while it works on the frames: it may take the lock of every frame
object and the one of the notifications, and a notification that it does not queue may ask for the
browser. -/
structure Quiet (held : List FrameLock) (w : CefBrowserInfo A) : Prop where
  reentrantLocks : w.reentrantLocks = false
  stateLock : ∀ id, .stateLock id ∉ held
  notificationLock : .notificationLock ∉ held
  queued : w.notificationStateLock.isSome ∨ held = []

lemma Quiet.nil (hw : w.reentrantLocks = false) : Quiet [] w where
  reentrantLocks := hw
  stateLock _ := not_mem_nil
  notificationLock := not_mem_nil
  queued := .inr rfl

lemma Quiet.notificationState (hw : w.reentrantLocks = false)
    (hqueue : w.notificationStateLock.isSome) : Quiet [.browserInfoLock] w where
  reentrantLocks := hw
  stateLock _ := by simp
  notificationLock := by simp
  queued := .inl hqueue

lemma Quiet.of_same (h : Quiet held w) {w' : CefBrowserInfo A}
    (hlocks : w'.reentrantLocks = w.reentrantLocks)
    (hqueue : w'.notificationStateLock.isSome = w.notificationStateLock.isSome) : Quiet held w' where
  reentrantLocks := hlocks.trans h.reentrantLocks
  stateLock := h.stateLock
  notificationLock := h.notificationLock
  queued := h.queued.imp_left hqueue.trans

lemma Quiet.maybeExecuteFrameNotification (h : Quiet held w) (n : FrameNotification) :
    ¬ Fails IsDeadlock (w.maybeExecuteFrameNotification held n) := by
  refine not_fails_bind
    (mt (lock_deadlocks_iff h.reentrantLocks).mp h.notificationLock) fun _ _ => ?_
  split
  · exact Fails.ok _
  · cases hqueue : w.notificationStateLock with
    | some queue => exact Fails.ok _
    | none =>
      rcases h.queued with hsome | rfl
      · exact nomatch hqueue ▸ hsome
      · exact execute_quiet h.reentrantLocks n

lemma Quiet.notifyIf (h : Quiet held w) (b : Bool) (n : FrameNotification) :
    ¬ Fails IsDeadlock (w.notifyIf held b n) := by
  unfold CefBrowserInfo.notifyIf
  split
  · exact h.maybeExecuteFrameNotification n
  · exact Fails.ok _

lemma detach_quiet (hw : w.reentrantLocks = false) (isCurrentMainFrame : Bool)
    (hs : .stateLock id ∉ held) : ¬ Fails IsDeadlock (w.detach held isCurrentMainFrame id) := by
  unfold detach
  dsimp only
  split
  · simp
  · split
    · simp
    · split
      · exact Fails.ok _
      · exact not_fails_bind (mt (lock_deadlocks_iff hw).mp hs) fun _ _ =>
          Fails.ok _

lemma Quiet.detachNotifying (h : Quiet held w) (isCurrentMainFrame : Bool) (id : FrameId) :
    ¬ Fails IsDeadlock (w.detachNotifying held isCurrentMainFrame id) := by
  refine not_fails_bind (detach_quiet h.reentrantLocks _ (h.stateLock id)) ?_
  rintro ⟨w₁, frameDetached, frameDestroyed⟩ hdetach
  obtain ⟨_, rfl, _⟩ := detach_eq_ok hdetach
  have hdetached : Quiet held (w.setFrame id ((w.frame id).detached isCurrentMainFrame)) :=
    h.of_same rfl rfl
  refine not_fails_bind (hdetached.notifyIf _ _) fun w₂ hnotify => ?_
  obtain rfl := notifyIf_eq_ok hnotify
  exact (hdetached.of_same (by simp) (by simp)).notifyIf _ _

lemma Quiet.setMainFrame (h : Quiet held w) (frame : Option FrameId) :
    ¬ Fails IsDeadlock (w.setMainFrame frame held) := by
  unfold CefBrowserInfo.setMainFrame
  split
  · exact Fails.ok _
  · refine not_fails_bind ?_ fun w₁ hold => ?_
    · unfold detachMainFrame
      split
      · exact Fails.ok _
      · exact h.detachNotifying _ _
    · obtain ⟨rfl, _⟩ := detachMainFrame_eq_ok hold
      refine (h.of_same ?_ ?_).maybeExecuteFrameNotification _
      all_goals
        unfold mainFrameDetached
        split <;> simp [CefBrowserInfo.detachedNotifying]

lemma Quiet.setMainFrameIf (h : Quiet held w) (b : Bool) (frame : Option FrameId) :
    ¬ Fails IsDeadlock (w.setMainFrameIf held b frame) := by
  unfold CefBrowserInfo.setMainFrameIf
  split
  · exact h.setMainFrame frame
  · exact Fails.ok _

lemma detachAll_quiet (hs : ∀ id, .stateLock id ∉ held) : ∀ {infos : List FrameInfo}
    {w : CefBrowserInfo A}, w.reentrantLocks = false → ¬ Fails IsDeadlock (detachAll held infos w)
  | [], _, _ => Fails.ok _
  | info :: infos, w, hw => by
    refine not_fails_bind (detach_quiet hw _ (hs info.frame)) ?_
    rintro ⟨w₁, _, _⟩ hdetach
    obtain ⟨_, rfl, _⟩ := detach_eq_ok hdetach
    exact detachAll_quiet hs hw

section

variable (hw : w.reentrantLocks = false)
include hw

lemma refreshAttributes_deadlocks_iff (hs : .stateLock id ∉ held) {attributes : HostAttributes} :
    Fails IsDeadlock (w.refreshAttributes held attributes id) ↔
      (w.frame id).renderFrameHost.isSome := by
  unfold refreshAttributes
  rw [fails_bind_iff, lock_deadlocks_iff hw]
  have hlock : w.lock held (.stateLock id) = .ok (.stateLock id :: held) :=
    if_neg fun hboth => hs hboth.1
  cases hhost : (w.frame id).renderFrameHost with
  | none => simp [hs]
  | some host =>
    refine iff_of_true (.inr ⟨_, hlock, ?_⟩) rfl
    rw [fails_bind_iff]
    exact .inl (getBrowserHostBase_deadlocks hw mem_cons_self)

lemma maybeAttach_deadlocks_iff (hs : .stateLock id ∉ held) {host : RenderFrameHost} :
    Fails IsDeadlock (w.maybeAttach held host id) ↔ w.Arrives host id := by
  unfold maybeAttach Arrives CefFrameHostImpl.mayAttach
  dsimp only
  split
  · rename_i hhas
    simp [hhas]
  · rename_i hnew
    split
    · rename_i htemporary
      simp [htemporary]
    · rename_i htemporary
      split
      · rename_i hbound
        simp [isSome_iff_ne_none.mp hbound]
      · rename_i hbound
        split
        · rename_i htoken
          simp [htoken]
        · rename_i htoken
          rw [Decidable.not_not] at htoken
          have hfree : w.lock held (.stateLock id) = .ok (.stateLock id :: held) :=
            if_neg fun hboth => hs hboth.1
          have hrefresh : Fails IsDeadlock ((w.setFrame id ((w.frame id).rehosted host)).refreshAttributes
              held host.attributes id) := by
            refine (refreshAttributes_deadlocks_iff ?_ hs).mpr ?_
            · exact hw
            · simp [CefFrameHostImpl.rehosted]
          refine iff_of_true (fails_bind_iff.mpr (.inr ⟨_, hfree, hrefresh⟩)) ?_
          refine ⟨Bool.not_eq_true _ ▸ hnew, ?_⟩
          simp [htemporary, htoken, not_isSome_iff_eq_none.mp hbound]

lemma underNotificationState_deadlocks_iff (hqueue : w.notificationStateLock = none)
    {body : List FrameLock → CefBrowserInfo A → Except BrowserCrash (CefBrowserInfo A)}
    (hbody : ∀ held w w', body held w = .ok w' → w'.reentrantLocks = w.reentrantLocks) :
    Fails IsDeadlock (w.underNotificationState [] body) ↔
      Fails IsDeadlock (body [.browserInfoLock] { w with notificationStateLock := some [] }) := by
  have hlocked : w.lockNotificationState [] =
      .ok ([.browserInfoLock], { w with notificationStateLock := some [] }) := by
    simp [lockNotificationState, lock, hqueue]
  unfold underNotificationState
  rw [hlocked, ok_bind]
  rw [fails_bind_iff]
  refine or_iff_left ?_
  rintro ⟨w₁, hw₁, hunlock⟩
  refine not_fails_bind ?_ (fun _ _ => Fails.ok _) hunlock
  rw [lock_deadlocks_iff ((hbody _ _ _ hw₁).trans hw)]
  exact nofun

end

end Locks

/-! ## What stays the same -/

section Same

variable {w w' : CefBrowserInfo A} {held : List FrameLock}

variable {host : RenderFrameHost} {isSpeculative : Bool}

lemma maybeAttach_same {id : FrameId} (h : w.maybeAttach held host id = .ok w') :
    w'.reentrantLocks = w.reentrantLocks ∧ w'.notificationStateLock = w.notificationStateLock := by
  rcases maybeAttach_eq_ok h with ⟨_, rfl⟩ | ⟨_, _, rfl⟩ <;> exact ⟨rfl, rfl⟩

lemma reuseFrame_reentrantLocks {info : FrameInfo}
    (h : w.reuseFrame held host isSpeculative info = .ok w') :
    w'.reentrantLocks = w.reentrantLocks := by
  obtain ⟨w₁, hattach, hcases⟩ := reuseFrame_eq_ok h
  have hsame := (maybeAttach_same hattach).1
  rcases hcases with ⟨_, _, rfl⟩ | ⟨_, rfl⟩
  · simp [upgraded, updateInfo, hsame]
  · exact hsame

lemma createFrame_reentrantLocks (h : w.createFrame held host isSpeculative = .ok w') :
    w'.reentrantLocks = w.reentrantLocks := by
  obtain ⟨_, rfl⟩ := createFrame_eq_ok h
  simp [frameCreated]

lemma createOrReuseFrame_reentrantLocks
    (h : w.createOrReuseFrame host isSpeculative held = .ok w') :
    w'.reentrantLocks = w.reentrantLocks := by
  rcases createOrReuseFrame_eq_ok h with ⟨info, _, hreuse⟩ | ⟨_, hcreate⟩
  · exact reuseFrame_reentrantLocks hreuse
  · exact createFrame_reentrantLocks hcreate

lemma setMainFrame_reentrantLocks {frame : Option FrameId}
    (h : w.setMainFrame frame held = .ok w') : w'.reentrantLocks = w.reentrantLocks := by
  obtain ⟨rfl, _⟩ := setMainFrame_eq_ok h
  rw [mainFrameSet_eq]

lemma removeInfo_reentrantLocks (h : w.removeInfo host held = .ok w') :
    w'.reentrantLocks = w.reentrantLocks := by
  rcases removeInfo_eq_ok h with ⟨_, rfl⟩ | ⟨info, _, _, _, rfl⟩
  · rfl
  · rw [detachedNotifying_eq]
    rfl

lemma allDetached_same : ∀ (infos : List FrameInfo) (w : CefBrowserInfo A),
    w.allDetached infos = { w with frame := (w.allDetached infos).frame }
  | [], _ => rfl
  | info :: infos, w => by
    rw [allDetached, allDetached_same infos]
    rfl

lemma closeFrames_reentrantLocks (h : w.closeFrames held = .ok w') :
    w'.reentrantLocks = w.reentrantLocks := by
  obtain ⟨w₁, hremove, rfl⟩ := closeFrames_eq_ok h
  obtain rfl := removeAllFrames_eq_ok hremove
  rw [mainFrameSetIf_reentrantLocks, allDetached_same]

lemma underNotificationState_same {queue : List FrameNotification}
    {body : List FrameLock → CefBrowserInfo A → Except BrowserCrash (CefBrowserInfo A)}
    (hbody : ∀ held w w', body held w = .ok w' → w'.reentrantLocks = w.reentrantLocks)
    (h : w.underNotificationState held body = .ok (queue, w')) :
    w'.reentrantLocks = w.reentrantLocks ∧ w'.notificationStateLock = none := by
  obtain ⟨_, held', w₁, hw₁, _, rfl⟩ := underNotificationState_eq_ok h
  have hsame := hbody _ _ _ hw₁
  exact ⟨hsame, rfl⟩

end Same

/-! ## Operations -/

section Operations

variable {w w' : CefBrowserInfo A} {held : List FrameLock}

lemma Quiet.createFrame (h : Quiet held w) (host : RenderFrameHost) (isSpeculative : Bool) :
    ¬ Fails IsDeadlock (w.createFrame held host isSpeculative) := by
  refine not_fails_bind ?_ fun w₁ hcreated => ?_
  · refine Quiet.maybeExecuteFrameNotification ?_ _
    exact h.of_same rfl rfl
  · obtain rfl := maybeExecuteFrameNotification_eq_ok hcreated
    refine not_fails_bind ?_ fun w₂ _ => ?_
    · refine Quiet.setMainFrameIf ?_ _ _
      exact h.of_same (by simp) (by simp)
    · split <;> simp

variable {host : RenderFrameHost}

lemma Quiet.reuseFrame_deadlocks_iff (h : Quiet held w) {isSpeculative : Bool} {info : FrameInfo} :
    Fails IsDeadlock (w.reuseFrame held host isSpeculative info) ↔ w.Arrives host info.frame := by
  unfold reuseFrame
  rw [fails_bind_iff, maybeAttach_deadlocks_iff h.reentrantLocks (h.stateLock info.frame)]
  refine or_iff_left ?_
  rintro ⟨w₁, hattach, hrest⟩
  obtain ⟨hsame, hsameQueue⟩ := maybeAttach_same hattach
  split at hrest
  · refine not_fails_bind ?_ (fun _ _ => Fails.ok _) hrest
    exact (h.of_same hsame (by rw [hsameQueue])).setMainFrameIf _ _
  · exact Fails.ok _ hrest

variable (hw : w.reentrantLocks = false)

include hw

lemma frameAttached_quiet (attempt : Attempt) (reattached : Bool) (id : FrameId) :
    ¬ Fails IsDeadlock (w.frameAttached [] attempt reattached id) := by
  refine not_fails_bind (mt (getBrowserInfo_deadlocks_iff hw).mp not_mem_nil) ?_
  intro _ _
  split
  · exact Fails.ok _
  · refine not_fails_bind ?_ fun _ _ => ?_
    · unfold bumpGeneration
      split
      · refine getBrowser_quiet ?_ not_mem_nil
        exact hw
      · exact Fails.ok _
    · refine Quiet.maybeExecuteFrameNotification ?_ _
      exact .nil hw

lemma onRenderFrameDisconnect_quiet (id : FrameId) :
    ¬ Fails IsDeadlock (w.onRenderFrameDisconnect [] id) :=
  not_fails_bind (getBrowserHostBase_quiet hw _) fun _ _ => (Quiet.nil hw).notifyIf _ _

lemma loadURLWithExtras_quiet (params : A) (fixup : Bool) (id : FrameId) :
    ¬ Fails IsDeadlock (w.loadURLWithExtras [] params fixup id) := by
  unfold loadURLWithExtras
  split
  · exact not_fails_bind (getBrowserHostBase_quiet hw _) fun _ _ => Fails.ok _
  · split
    · exact Fails.ok _
    · refine not_fails_bind ?_ fun _ _ => Fails.ok _
      refine getBrowserHostBase_quiet ?_ id
      exact hw

omit hw in
lemma getFrameForGlobalId_eq (id : GlobalRenderFrameHostId) (preferSpeculative : Bool) :
    w.getFrameForGlobalId [] id preferSpeculative = .ok (w.lookup id preferSpeculative) := by
  cases hfound : w.getFrameForGlobalId [] id preferSpeculative with
  | ok frame => rw [getFrameForGlobalId_eq_ok hfound]
  | error crash =>
    unfold getFrameForGlobalId at hfound
    split at hfound
    · exact nomatch hfound
    · have hlock : w.lock [] .browserInfoLock = .ok [.browserInfoLock] :=
        if_neg fun hboth => nomatch hboth.1
      rw [hlock, ok_bind] at hfound
      split at hfound
      · exact nomatch hfound
      · split at hfound <;> exact nomatch hfound

lemma createTempSubFrame_quiet (parentGlobalId : GlobalRenderFrameHostId) :
    ¬ Fails IsDeadlock (w.createTempSubFrame [] parentGlobalId) := by
  unfold createTempSubFrame
  rw [getFrameForGlobalId_eq, ok_bind]
  split
  · exact Fails.ok _
  · refine not_fails_bind ?_ fun found _ => ?_
    · refine not_fails_bind (mt (lock_deadlocks_iff hw).mp not_mem_nil) fun _ _ => ?_
      split
      · exact Fails.ok _
      · split <;> simp
    · split <;> simp

variable (hqueue : w.notificationStateLock = none)

include hqueue

lemma maybeCreateFrame_deadlocks_iff {isSpeculative : Bool} :
    Fails IsDeadlock (w.maybeCreateFrame [] host isSpeculative) ↔
      ∃ info, w.findInfo host.globalId = some info ∧ w.Arrives host info.frame := by
  unfold maybeCreateFrame
  rw [underNotificationState_deadlocks_iff hw hqueue fun _ _ _ => createOrReuseFrame_reentrantLocks]
  have hquiet : Quiet [.browserInfoLock] { w with notificationStateLock := some [] } :=
    .notificationState hw rfl
  have hfind : { w with notificationStateLock := some [] }.findInfo host.globalId =
      w.findInfo host.globalId := rfl
  unfold createOrReuseFrame
  rw [hfind]
  cases hinfo : w.findInfo host.globalId with
  | none => exact iff_of_false (hquiet.createFrame host isSpeculative) (by simp)
  | some info =>
    refine hquiet.reuseFrame_deadlocks_iff.trans ?_
    simp only [some.injEq, exists_eq_left']
    exact Iff.rfl

lemma frameHostStateChanged_deadlocks_iff {oldState newState : LifecycleState} :
    Fails IsDeadlock (w.frameHostStateChanged [] host oldState newState) ↔
      becomesActive oldState newState = true ∧
        ∃ id, w.lookup host.globalId false = some id ∧ w.Arrives host id := by
  unfold frameHostStateChanged
  split
  · rename_i hinactive
    simp [Bool.not_eq_true' _ ▸ hinactive]
  · rename_i hactive
    rw [getFrameForGlobalId_eq, ok_bind]
    cases hlookup : w.lookup host.globalId false with
    | none => simp
    | some id =>
      have htrue : becomesActive oldState newState = true := by simpa using hactive
      rw [fails_bind_iff, maybeAttach_deadlocks_iff hw not_mem_nil]
      simp only [some.injEq, exists_eq_left', htrue, true_and]
      refine or_iff_left ?_
      rintro ⟨w₁, hattach, hrest⟩
      obtain ⟨hsame, hsameQueue⟩ := maybeAttach_same hattach
      split at hrest
      · refine not_fails_bind ?_ (fun _ _ => Fails.ok _) hrest
        rw [underNotificationState_deadlocks_iff (hsame.trans hw) (hsameQueue.trans hqueue)
          fun _ _ _ => setMainFrame_reentrantLocks]
        refine Quiet.setMainFrame ?_ _
        exact .notificationState (hsame.trans hw) rfl
      · exact Fails.ok _ hrest

lemma removeFrame_quiet (host : RenderFrameHost) : ¬ Fails IsDeadlock (w.removeFrame [] host) := by
  unfold removeFrame
  rw [underNotificationState_deadlocks_iff hw hqueue fun _ _ _ => removeInfo_reentrantLocks]
  unfold removeInfo
  split
  · exact Fails.ok _
  · split
    · simp
    · refine Quiet.detachNotifying ?_ _ _
      exact .notificationState hw rfl

lemma webContentsDestroyed_quiet : ¬ Fails IsDeadlock (w.webContentsDestroyed []) := by
  unfold webContentsDestroyed
  rw [underNotificationState_deadlocks_iff hw hqueue fun _ _ _ => closeFrames_reentrantLocks]
  have hquiet : Quiet [.browserInfoLock] { w with notificationStateLock := some [] } :=
    .notificationState hw rfl
  refine not_fails_bind ?_ fun _ _ => Fails.ok _
  refine not_fails_bind (detachAll_quiet hquiet.stateLock hw) fun w₁ hdetached => ?_
  obtain rfl := detachAll_eq_ok hdetached
  refine not_fails_bind ?_ fun _ _ => Fails.ok _
  refine (hquiet.of_same ?_ ?_).setMainFrameIf _ _
  all_goals
    rw [allDetached_same]

lemma perform_deadlocks_iff (op : FrameOperation A) :
    Fails IsDeadlock (w.perform op) ↔ w.Contends (.operation op) := by
  cases op with
  | maybeCreateFrame host isExcluded isSpeculative =>
    cases isExcluded with
    | true => simp [perform, Contends]
    | false =>
      refine (fails_bind_iff_left fun _ => Fails.ok _).trans ?_
      simp only [Contends, true_and]
      exact maybeCreateFrame_deadlocks_iff hw hqueue
  | frameHostStateChanged host oldState newState =>
    refine (fails_bind_iff_left fun _ => Fails.ok _).trans ?_
    exact frameHostStateChanged_deadlocks_iff hw hqueue
  | removeFrame host =>
    refine (fails_bind_iff_left fun _ => Fails.ok _).trans ?_
    exact iff_of_false (removeFrame_quiet hw hqueue host) id
  | webContentsDestroyed =>
    refine (fails_bind_iff_left fun _ => Fails.ok _).trans ?_
    exact iff_of_false (webContentsDestroyed_quiet hw hqueue) id
  | setClosing | browserDestroyed =>
    refine (fails_bind_iff_left fun _ => Fails.ok _).trans ?_
    exact iff_of_false (mt (lock_deadlocks_iff hw).mp not_mem_nil) id
  | createTempSubFrame parentGlobalId =>
    refine (fails_bind_iff_left fun _ => Fails.ok _).trans ?_
    exact iff_of_false (createTempSubFrame_quiet hw parentGlobalId) id
  | refreshAttributes frame attributes =>
    refine (fails_bind_iff_left fun _ => Fails.ok _).trans ?_
    exact refreshAttributes_deadlocks_iff hw not_mem_nil
  | frameAttached globalId attempt reattached =>
    refine iff_of_false ?_ id
    simp only [perform]
    rw [getFrameForGlobalId_eq, ok_bind]
    split
    · exact Fails.ok _
    · exact not_fails_bind (frameAttached_quiet hw _ _ _) fun _ _ => Fails.ok _
  | renderFrameDisconnect frame =>
    refine iff_of_false ?_ id
    simp only [perform]
    split
    · exact not_fails_bind (onRenderFrameDisconnect_quiet hw _) fun _ _ => Fails.ok _
    · exact Fails.ok _
  | sendToRenderFrame frame functionName action => exact iff_of_false (Fails.ok _) id
  | loadURLWithExtras frame params fixup =>
    refine (fails_bind_iff_left fun _ => Fails.ok _).trans ?_
    exact iff_of_false (loadURLWithExtras_quiet hw params fixup frame) id

omit hw in
lemma perform_same {op : FrameOperation A} {performed : Performed A}
    (h : w.perform op = .ok performed) :
    performed.info.reentrantLocks = w.reentrantLocks ∧
      performed.info.notificationStateLock = none := by
  cases performs_of_ok h with
  | excluded => exact ⟨rfl, hqueue⟩
  | created hcreate =>
    exact underNotificationState_same (fun _ _ _ => createOrReuseFrame_reentrantLocks) hcreate
  | stateChanged hchange =>
    rcases frameHostStateChanged_eq_ok hchange with
      ⟨_, _, _, rfl⟩ | ⟨id, w₁, _, _, _, hattach, hcases⟩
    · exact ⟨rfl, hqueue⟩
    · obtain ⟨hsame, hsameQueue⟩ := maybeAttach_same hattach
      rcases hcases with ⟨_, _, rfl⟩ | ⟨_, hset⟩
      · exact ⟨hsame, hsameQueue.trans hqueue⟩
      · obtain ⟨hlocks, hnone⟩ :=
          underNotificationState_same (fun _ _ _ => setMainFrame_reentrantLocks) hset
        exact ⟨hlocks.trans hsame, hnone⟩
  | removed hremove =>
    exact underNotificationState_same (fun _ _ _ => removeInfo_reentrantLocks) hremove
  | closed hclose =>
    exact underNotificationState_same (fun _ _ _ => closeFrames_reentrantLocks) hclose
  | closing => exact ⟨rfl, hqueue⟩
  | destroyed => exact ⟨rfl, hqueue⟩
  | temporary parent => exact ⟨rfl, hqueue⟩
  | unhosted => exact ⟨rfl, hqueue⟩
  | refreshed hhost => exact ⟨rfl, hqueue⟩
  | unknown => exact ⟨rfl, hqueue⟩
  | attached hlookup hattached =>
    rcases frameAttached_eq_ok hattached with ⟨_, rfl⟩ | ⟨_, rfl⟩
    · exact ⟨rfl, hqueue⟩
    · refine ⟨by simp, not_isSome_iff_eq_none.mp ?_⟩
      simp [hqueue]
  | unbound => exact ⟨rfl, hqueue⟩
  | disconnected =>
    refine ⟨by simp, not_isSome_iff_eq_none.mp ?_⟩
    simp [hqueue]
  | sent => exact ⟨rfl, hqueue⟩
  | unloaded => exact ⟨rfl, hqueue⟩
  | loaded => exact ⟨rfl, hqueue⟩

omit hw in
lemma step_same {op : FrameOperation A} (h : w.step op = .ok w') :
    w'.reentrantLocks = w.reentrantLocks ∧ w'.notificationStateLock = none := by
  obtain ⟨performed, hperform, h⟩ := step_eq_ok h
  have hsame := perform_same hqueue hperform
  have hdrained : (performed.info.drained performed.queue).reentrantLocks = w.reentrantLocks ∧
      (performed.info.drained performed.queue).notificationStateLock = none := by
    rw [drained_eq]
    exact hsame
  rcases conclude_eq_ok h with
    ⟨host, oldState, newState, _, hupdate⟩ | ⟨lost, id, _, _, rfl⟩ | rfl
  · rcases updateBackForwardCache_eq_ok hupdate with rfl | rfl
    all_goals
      unfold stoppedLoading
      split <;> exact hdrained
  · exact hdrained
  · exact hdrained

end Operations

/-! ## Runs -/

section Runs

variable {w w' : CefBrowserInfo A}

lemma foldlM_execute_quiet : ∀ (queue : List FrameNotification) {w : CefBrowserInfo A},
    w.reentrantLocks = false → ¬ Fails IsDeadlock (queue.foldlM (fun w n => w.execute [] n) w)
  | [], _, _ => Fails.ok _
  | n :: queue, w, hw => by
    rw [foldlM_cons]
    refine not_fails_bind (execute_quiet hw n) fun w₁ hexecute => ?_
    obtain rfl := execute_eq_ok hexecute
    refine foldlM_execute_quiet queue ?_
    rw [executed_eq]
    exact hw

lemma conclude_quiet (hw : w.reentrantLocks = false) (frame : Option FrameId)
    (op : FrameOperation A) : ¬ Fails IsDeadlock (w.conclude frame op) := by
  unfold conclude
  split
  · unfold updateBackForwardCache
    dsimp only
    split
    · exact Fails.ok _
    · refine not_fails_bind (mt (lock_deadlocks_iff ?_).mp not_mem_nil) fun _ _ =>
        Fails.ok _
      split <;> exact hw
  · split <;> exact Fails.ok _
  · exact Fails.ok _

/-- **A call takes a lock that it holds if and only if it contends**: it refreshes a frame object with
a host, or a frame object gets a host that it does not have. -/
theorem call_deadlocks_iff (hw : w.reentrantLocks = false)
    (hqueue : w.notificationStateLock = none) (c : FrameCall A) :
    Fails IsDeadlock (w.call c) ↔ w.Contends c := by
  cases c with
  | operation op =>
    refine Iff.trans ?_ (perform_deadlocks_iff hw hqueue op)
    simp only [call, step]
    rw [fails_bind_iff]
    refine or_iff_left ?_
    rintro ⟨performed, hperform, hrest⟩
    have hlocks := (perform_same hqueue hperform).1.trans hw
    refine not_fails_bind (foldlM_execute_quiet _ hlocks) ?_ hrest
    intro w₁ hdrained
    obtain rfl := foldlM_execute_eq_ok hdrained
    refine conclude_quiet ?_ _ _
    rw [drained_eq]
    exact hlocks
  | maybeAttach host frame => exact maybeAttach_deadlocks_iff hw not_mem_nil
  | detach isCurrentMainFrame frame =>
    simp only [call, fails_map_iff]
    exact iff_of_false (detach_quiet hw _ not_mem_nil) id

lemma call_same (hqueue : w.notificationStateLock = none) {c : FrameCall A}
    (h : w.call c = .ok w') :
    w'.reentrantLocks = w.reentrantLocks ∧ w'.notificationStateLock = none := by
  cases c with
  | operation op => exact step_same hqueue h
  | maybeAttach host frame =>
    obtain ⟨hsame, hsameQueue⟩ := maybeAttach_same h
    exact ⟨hsame, hsameQueue.trans hqueue⟩
  | detach isCurrentMainFrame frame =>
    obtain ⟨⟨w₁, _, _⟩, hdetach, rfl⟩ := map_eq_ok_iff.mp h
    obtain ⟨_, rfl, _⟩ := detach_eq_ok hdetach
    exact ⟨rfl, hqueue⟩

/-- **A run never takes a lock that it holds if and only if none of its calls contends.**

**Proof sketch.** No `NotificationStateLock` is held between two calls. There a call deadlocks
exactly when it contends (`call_deadlocks_iff`): every other path takes the lock of the
notifications and those of the frame objects under the lock of the browser info, and nothing under
those. -/
theorem run_deadlocks_iff (frameHandler : Bool) (calls : List (FrameCall A)) :
    ¬ Fails IsDeadlock (calls.foldlM call (create A frameHandler false)) ↔
      Transition.Along (fun w c => (call w c).toOption) (fun w c => ¬ w.Contends c)
        (create A frameHandler false) calls := by
  rw [not_fails_foldlM_iff]
  refine Transition.Along.congr
    (I := fun w => w.reentrantLocks = false ∧ w.notificationStateLock = none) ?_ ?_ calls _ ⟨rfl, rfl⟩
  · intro w c w' ⟨hw, hqueue⟩ _ h
    obtain ⟨hlocks, hnone⟩ := call_same hqueue (toOption_eq_some_iff.mp h)
    exact ⟨hlocks.trans hw, hnone⟩
  · intro w c ⟨hw, hqueue⟩
    exact not_congr (call_deadlocks_iff hw hqueue c)

def mainHost (n : Nat) : RenderFrameHost where
  object := n
  globalId := ⟨n + 1, 1⟩
  globalFrameToken := ⟨n + 1, "token"⟩

/-- A navigation refreshes the main frame; another one replaces it, and the old one returns from the
BackForwardCache. Both wait for ever for the lock of the frame object. -/
theorem navigation_deadlocks :
    [FrameCall.operation (.maybeCreateFrame (mainHost 0) false false),
      .operation (.refreshAttributes 0 {})].foldlM call (create Nat true false) =
        .error (.deadlock (.stateLock 0)) ∧
    [FrameCall.operation (.maybeCreateFrame (mainHost 0) false false),
      .operation (.frameHostStateChanged (mainHost 0) .kActive .kInBackForwardCache),
      .operation (.maybeCreateFrame (mainHost 1) false false),
      .operation (.frameHostStateChanged (mainHost 0) .kInBackForwardCache .kActive)].foldlM call
        (create Nat true false) = .error (.deadlock (.stateLock 0)) :=
  ⟨rfl, rfl⟩

end Runs

end CefBrowserInfo

end CefCore.Frame
