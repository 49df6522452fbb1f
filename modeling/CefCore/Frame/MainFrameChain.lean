import CefCore.Frame.LockDiscipline

/-!
# The main frame as a client that calls back knows it

A frame handler may call the browser again. The operation that it begins has a queue of its own,
which is delivered before the rest of the queue that is being delivered.

## Main results

* `mainFrame_chained`: a client learns of the main frames in the order in which they have followed
  each other, if no operation changes the main frame while the client has not heard of an earlier
  change.

## Implementation notes

* An operation may begin at any time here. In the code it begins in a callback, or when nothing else is
  running.
-/

namespace CefCore.Frame

open List Option Fallible CefBrowserInfo Nat Transition

/-- The old and the new main frame of the calls of `OnMainFrameChanged`. -/
def mainFrameChanges (log : List FrameNotification) : List (Option FrameId × Option FrameId) :=
  log.filterMap fun
    | .mainFrameChanged oldFrame newFrame => some (oldFrame, newFrame)
    | _ => none

/-- The main frame that a client knows, with the newest change first. -/
def knownMainFrame (changes : List (Option FrameId × Option FrameId)) : Option FrameId :=
  changes.head?.bind (·.2)

def Chained (changes : List (Option FrameId × Option FrameId)) : Prop :=
  EventLog.Each (fun change earlier => change.1 = knownMainFrame earlier) changes

@[simp] lemma mainFrameChanges_append (l l' : List FrameNotification) :
    mainFrameChanges (l ++ l') = mainFrameChanges l ++ mainFrameChanges l' :=
  filterMap_append

lemma mainFrameChanges_singleton (n : FrameNotification) :
    (∃ oldFrame newFrame, n = .mainFrameChanged oldFrame newFrame) ∨ mainFrameChanges [n] = [] := by
  cases n with
  | mainFrameChanged oldFrame newFrame => exact .inl ⟨oldFrame, newFrame, rfl⟩
  | _ => exact .inr rfl

namespace CefBrowserInfo

variable {A : Type} {w w' : CefBrowserInfo A} {held : List FrameLock}

def hasMainFrame (host : RenderFrameHost) (w : CefBrowserInfo A) : Bool :=
  w.mainFrame.any fun main =>
    makeFrameIdentifier host.globalFrameToken == (w.frame main).getIdentifier

def ChangesMainFrame (w : CefBrowserInfo A) : FrameOperation A → Bool
  | .maybeCreateFrame host isExcluded isSpeculative =>
    !isExcluded && !isSpeculative &&
      match w.findInfo host.globalId with
      | some info => info.isSpeculative && info.isMainFrame && !w.isMainFrame (some info.frame)
      | none => host.parent.isNone && !w.hasMainFrame host
  | .frameHostStateChanged host oldState newState =>
    becomesActive oldState newState && (w.lookup host.globalId false).any fun id =>
      (w.frame id).isMainFrame && !w.isMainFrame (some id)
  | .webContentsDestroyed => w.mainFrame.isSome
  | _ => false

/-! ## What is queued -/

structure Queues (w : CefBrowserInfo A) (changes : List (Option FrameId × Option FrameId))
    (w' : CefBrowserInfo A) : Prop where
  delivered : w'.delivered = w.delivered
  locked : w'.notificationStateLock.isSome = true
  changes : mainFrameChanges (w'.notificationStateLock.getD []) =
    mainFrameChanges (w.notificationStateLock.getD []) ++ changes

lemma Queues.refl (hlocked : w.notificationStateLock.isSome = true) : w.Queues [] w :=
  ⟨rfl, hlocked, (append_nil _).symm⟩

lemma Queues.trans {w'' : CefBrowserInfo A} {changes changes' : List (Option FrameId × Option FrameId)}
    (h : w.Queues changes w') (h' : w'.Queues changes' w'') : w.Queues (changes ++ changes') w'' where
  delivered := h'.delivered.trans h.delivered
  locked := h'.locked
  changes := by rw [h'.changes, h.changes, append_assoc]

section

variable (hlocked : w.notificationStateLock.isSome = true)
include hlocked

lemma queues_notified (n : FrameNotification) :
    w.Queues (if w.frameHandler then mainFrameChanges [n] else []) (w.notified n) := by
  obtain ⟨queue, hqueue⟩ := isSome_iff_exists.mp hlocked
  unfold notified
  split
  · rename_i hhandler
    rw [hqueue]
    exact ⟨rfl, rfl, by simp [hqueue]⟩
  · exact Queues.refl hlocked

lemma queues_notifiedIf (b : Bool)
    {n : FrameNotification} (hn : mainFrameChanges [n] = []) : w.Queues [] (w.notifiedIf b n) := by
  unfold notifiedIf
  split
  · have hqueues := queues_notified hlocked n
    rwa [hn, ite_self] at hqueues
  · exact Queues.refl hlocked

lemma queues_detachedNotifying (b : Bool)
    (id : FrameId) : w.Queues [] (w.detachedNotifying b id) := by
  have hset : w.Queues [] (w.setFrame id ((w.frame id).detached b)) :=
    ⟨rfl, hlocked, (append_nil _).symm⟩
  have hdetached := hset.trans (queues_notifiedIf hset.locked (w.frame id).renderFrame.isSome
    (n := .detached id) rfl)
  exact hdetached.trans (queues_notifiedIf hdetached.locked (!b && (w.frame id).browserInfo)
    (n := .destroyed id) rfl)

end

variable {b : Bool} {frame : Option FrameId} {host : RenderFrameHost}

lemma queues_mainFrameSet (hlocked : w.notificationStateLock.isSome = true)
    (hchanges : w.isMainFrame frame = false) :
    w.Queues (if w.frameHandler then [(w.mainFrame, frame)] else []) (w.mainFrameSet frame) ∧
      (w.mainFrameSet frame).mainFrame = frame := by
  have hdetached : w.Queues [] w.mainFrameDetached := by
    unfold mainFrameDetached
    split
    · exact Queues.refl hlocked
    · exact queues_detachedNotifying hlocked false _
  have hmainFrameSet : w.mainFrameSet frame = { w.mainFrameDetached with
      mainFrame := frame }.notified (.mainFrameChanged w.mainFrame frame) :=
    if_neg (by simp [hchanges])
  rw [hmainFrameSet]
  refine ⟨?_, notified_mainFrame _⟩
  have hset : w.Queues [] { w.mainFrameDetached with mainFrame := frame } :=
    ⟨hdetached.delivered, hdetached.locked, hdetached.changes⟩
  have hhandler : w.mainFrameDetached.frameHandler = w.frameHandler := by
    unfold mainFrameDetached
    split
    · rfl
    · rw [detachedNotifying_eq]
  have hnotified := hset.trans (queues_notified hset.locked (.mainFrameChanged w.mainFrame frame))
  rw [← hhandler]
  exact hnotified

structure Announces (w : CefBrowserInfo A) (b : Bool) (w' : CefBrowserInfo A) : Prop where
  queues : w.Queues (if b then [(w.mainFrame, w'.mainFrame)] else []) w'
  mainFrame : b = false → w'.mainFrame = w.mainFrame

lemma announces_mainFrameSetIf (hlocked : w.notificationStateLock.isSome = true) (b : Bool)
    (frame : Option FrameId) (hhandler : (b && !w.isMainFrame frame) = true → w.frameHandler = true) :
    w.Announces (b && !w.isMainFrame frame) (w.mainFrameSetIf b frame) := by
  unfold mainFrameSetIf
  cases b with
  | false => exact ⟨Queues.refl hlocked, fun _ => rfl⟩
  | true =>
    cases hmain : w.isMainFrame frame with
    | true =>
      have hsame : w.mainFrameSet frame = w := if_pos hmain
      rw [if_pos rfl, hsame]
      exact ⟨Queues.refl hlocked, fun _ => rfl⟩
    | false =>
      obtain ⟨hqueues, hset⟩ := queues_mainFrameSet hlocked hmain
      rw [hhandler (by simp [hmain])] at hqueues
      exact ⟨by rw [if_pos rfl, hset]; exact hqueues, nofun⟩

lemma Announces.of_queues {w₁ w₂ : CefBrowserInfo A} (h : w₁.Announces b w₂)
    (hbefore : w.Queues [] w₁) (hmain : w₁.mainFrame = w.mainFrame)
    (hbehind : w'.delivered = w₂.delivered ∧ w'.notificationStateLock = w₂.notificationStateLock ∧
      w'.mainFrame = w₂.mainFrame) : w.Announces b w' := by
  obtain ⟨hdelivered, hqueue, hmain'⟩ := hbehind
  refine ⟨?_, fun hb => ?_⟩
  · have hqueues := hbefore.trans h.queues
    rw [hmain', ← hmain]
    exact ⟨hdelivered.trans hqueues.delivered, by rw [hqueue]; exact hqueues.locked,
      by rw [hqueue]; exact hqueues.changes⟩
  · rw [hmain', h.mainFrame hb, hmain]

/-! ## Frame objects have numbers -/

structure Numbered (w : CefBrowserInfo A) : Prop where
  info_frame : ∀ info ∈ w.frameInfoSet, info.frame < w.frameCount
  main_frame : ∀ id, w.mainFrame = some id → id < w.frameCount

lemma mainFrameSetIf_mainFrame (b : Bool) (frame : Option FrameId) :
    (w.mainFrameSetIf b frame).mainFrame = frame ∨
      (w.mainFrameSetIf b frame).mainFrame = w.mainFrame := by
  unfold mainFrameSetIf mainFrameSet
  split
  · split
    · exact .inr rfl
    · exact .inl (notified_mainFrame _)
  · exact .inr rfl

lemma Numbered.mainFrameSetIf (h : w.Numbered)
    (hframe : ∀ id, frame = some id → id < w.frameCount) : (w.mainFrameSetIf b frame).Numbered := by
  refine ⟨?_, fun id hid => ?_⟩
  · simpa using h.info_frame
  · rw [mainFrameSetIf_frameCount]
    rcases mainFrameSetIf_mainFrame (w := w) b frame with hnew | hold
    · exact hframe id (hnew ▸ hid)
    · exact h.main_frame id (hold ▸ hid)

lemma Numbered.updateInfo (h : w.Numbered) (id : GlobalRenderFrameHostId)
    {update : FrameInfo → FrameInfo} (hupdate : ∀ info, (update info).frame = info.frame) :
    (w.updateInfo id update).Numbered := by
  refine ⟨fun info hinfo => ?_, h.main_frame⟩
  obtain ⟨info', hinfo', hframe⟩ := updateInfo_frames hupdate info hinfo
  exact hframe ▸ h.info_frame info' hinfo'

lemma Numbered.lookup (h : w.Numbered) {id : GlobalRenderFrameHostId} {preferSpeculative : Bool}
    {f : FrameId} (hf : w.lookup id preferSpeculative = some f) : f < w.frameCount := by
  rcases lookup_cases hf with hmain | ⟨info, hinfo, rfl⟩
  · exact h.main_frame f hmain
  · exact h.info_frame info hinfo

/-! ## The operations -/

lemma maybeAttach_eq_setFrame {id : FrameId}
    (h : w.maybeAttach held host id = .ok w') : ∃ f : CefFrameHostImpl A,
      f.frameToken = (w.frame id).frameToken ∧ f.isMainFrame = (w.frame id).isMainFrame ∧
        w' = w.setFrame id f := by
  rcases maybeAttach_eq_ok h with ⟨_, rfl⟩ | ⟨_, _, rfl⟩
  · refine ⟨w'.frame id, rfl, rfl, ?_⟩
    unfold setFrame
    rw [Function.update_eq_self]
  · exact ⟨((w.frame id).rehosted host).refreshed host host.attributes, rfl, rfl, rfl⟩

lemma isMainFrame_setFrame {id : FrameId} {f : CefFrameHostImpl A}
    (hf : f.frameToken = (w.frame id).frameToken) (frame : Option FrameId) :
    (w.setFrame id f).isMainFrame frame = w.isMainFrame frame := by
  have hidentifier : ∀ i, ((w.setFrame id f).frame i).getIdentifier = (w.frame i).getIdentifier := by
    intro i
    by_cases hi : i = id
    · rw [hi, setFrame_frame_self]
      exact congrArg (·.bind makeFrameIdentifier) hf
    · rw [setFrame_frame_of_ne hi]
  unfold isMainFrame
  rw [setFrame_mainFrame]
  cases frame with
  | none => rfl
  | some i =>
    cases w.mainFrame with
    | none => rfl
    | some main =>
      dsimp only
      rw [hidentifier, hidentifier]

lemma isMainFrame_frameCreated (h : w.Numbered) (host : RenderFrameHost) :
    (w.frameCreated host).isMainFrame (some w.frameCount) = w.hasMainFrame host := by
  unfold isMainFrame hasMainFrame frameCreated
  rw [notified_mainFrame, notified_frame]
  cases hmain : w.mainFrame with
  | none => simp [hmain]
  | some main =>
    have hne : main ≠ w.frameCount := Nat.ne_of_lt (h.main_frame main hmain)
    simp only [setFrame_mainFrame, hmain, setFrame_frame_self, setFrame_frame_of_ne hne]
    rfl

lemma Numbered.frameCreated (h : w.Numbered) (host : RenderFrameHost) :
    (w.frameCreated host).Numbered := by
  have hcount : (w.frameCreated host).frameCount = w.frameCount + 1 := by
    simp [CefBrowserInfo.frameCreated]
  refine ⟨fun info hinfo => ?_, fun id hid => ?_⟩
  · rw [hcount]
    refine lt_succ_of_lt (h.info_frame info ?_)
    simpa [CefBrowserInfo.frameCreated] using hinfo
  · rw [hcount]
    refine lt_succ_of_lt (h.main_frame id ?_)
    simpa [CefBrowserInfo.frameCreated] using hid

section

variable (hlocked : w.notificationStateLock.isSome = true)
include hlocked

lemma announces_createOrReuseFrame (h : w.Numbered) {isSpeculative : Bool}
    (hhandler : w.ChangesMainFrame (.maybeCreateFrame host false isSpeculative) = true →
      w.frameHandler = true) (hcreate : w.createOrReuseFrame host isSpeculative held = .ok w') :
    w.Announces (w.ChangesMainFrame (.maybeCreateFrame host false isSpeculative)) w' ∧
      w'.Numbered := by
  rcases createOrReuseFrame_eq_ok hcreate with ⟨info, hinfo, hreuse⟩ | ⟨hinfo, hcreate⟩
  · have hlt := h.info_frame info (findInfo_mem hinfo)
    obtain ⟨w₁, hattach, hcases⟩ := reuseFrame_eq_ok hreuse
    obtain ⟨f, hf, _, rfl⟩ := maybeAttach_eq_setFrame hattach
    have hnumbered : (w.setFrame info.frame f).Numbered := ⟨h.info_frame, h.main_frame⟩
    have hbefore : w.Queues [] (w.setFrame info.frame f) :=
      ⟨rfl, hlocked, (append_nil _).symm⟩
    simp only [ChangesMainFrame, hinfo] at hhandler ⊢
    rcases hcases with ⟨hold, hnew, rfl⟩ | ⟨hkeep, rfl⟩
    · rw [hold, hnew, ← isMainFrame_setFrame hf] at hhandler ⊢
      simp only [Bool.not_false, Bool.true_and] at hhandler ⊢
      have hset := announces_mainFrameSetIf (w := w.setFrame info.frame f) hlocked _ _ hhandler
      refine ⟨hset.of_queues hbefore rfl ⟨rfl, rfl, rfl⟩, ?_⟩
      refine (hnumbered.mainFrameSetIf fun id hid => ?_).updateInfo _ fun _ => rfl
      exact some.inj hid ▸ hlt
    · have hstays : (!false && !isSpeculative && (info.isSpeculative && info.isMainFrame &&
          !w.isMainFrame (some info.frame))) = false := by
        cases hold : info.isSpeculative with
        | false => simp
        | true => simp [hkeep hold]
      rw [hstays]
      exact ⟨⟨hbefore, fun _ => rfl⟩, hnumbered⟩
  · obtain ⟨_, rfl⟩ := createFrame_eq_ok hcreate
    have hnumbered := h.frameCreated host
    have hbefore : w.Queues [] (w.frameCreated host) := by
      have hqueues := queues_notified (n := .created w.frameCount)
        (w := { w.setFrame w.frameCount (.ofHost A host) with frameCount := w.frameCount + 1 }) hlocked
      have hnone : mainFrameChanges [.created w.frameCount] = [] := rfl
      rw [hnone, ite_self] at hqueues
      exact ⟨hqueues.delivered, hqueues.locked, hqueues.changes⟩
    have hchanges : w.ChangesMainFrame (.maybeCreateFrame host false isSpeculative) =
        (host.parent.isNone && !isSpeculative &&
          !(w.frameCreated host).isMainFrame (some w.frameCount)) := by
      simp only [ChangesMainFrame, hinfo, isMainFrame_frameCreated h, Bool.not_false, Bool.true_and]
      cases isSpeculative <;> simp
    rw [hchanges] at hhandler ⊢
    have hset := announces_mainFrameSetIf (w := w.frameCreated host) hbefore.locked
      (host.parent.isNone && !isSpeculative) (some w.frameCount) ?_
    · refine ⟨hset.of_queues hbefore ?_ ⟨rfl, rfl, rfl⟩, ?_⟩
      · simp [CefBrowserInfo.frameCreated]
      · have hcount : (w.frameCreated host).frameCount = w.frameCount + 1 := by
          simp [CefBrowserInfo.frameCreated]
        have hset : ((w.frameCreated host).mainFrameSetIf (host.parent.isNone && !isSpeculative)
            (some w.frameCount)).Numbered := by
          refine hnumbered.mainFrameSetIf fun id hid => ?_
          rw [← some.inj hid, hcount]
          exact lt_succ_self _
        refine ⟨fun info hinfo => ?_, hset.main_frame⟩
        rw [mainFrameSetIf_frameCount, hcount]
        rcases mem_cons.mp hinfo with rfl | hold
        · exact lt_succ_self _
        · exact lt_succ_of_lt (h.info_frame info hold)
    · simpa [frameCreated] using hhandler

lemma announces_closeFrames (h : w.Numbered)
    (hhandler : w.mainFrame.isSome = true → w.frameHandler = true)
    (hclose : w.closeFrames held = .ok w') : w.Announces w.mainFrame.isSome w' ∧ w'.Numbered := by
  obtain ⟨w₁, hremove, rfl⟩ := closeFrames_eq_ok hclose
  obtain rfl := removeAllFrames_eq_ok hremove
  obtain ⟨w₂, hw₂⟩ : ∃ w₂, w₂ = { w with isClosing := true }.allDetached w.frameInfoSet := ⟨_, rfl⟩
  have hsame := allDetached_same w.frameInfoSet { w with isClosing := true }
  rw [← hw₂] at hsame ⊢
  have hmain : w₂.mainFrame = w.mainFrame := by rw [hsame]
  have hbefore : w.Queues [] w₂ := by
    rw [hsame]
    exact ⟨rfl, hlocked, (append_nil _).symm⟩
  have hset := announces_mainFrameSetIf hbefore.locked w₂.mainFrame.isSome none
    fun hsome => by
      rw [hsame]
      rw [hmain, Bool.and_eq_true] at hsome
      exact hhandler hsome.1
  have hchanges : (w₂.mainFrame.isSome && !w₂.isMainFrame none) = w.mainFrame.isSome := by
    rw [hmain]
    exact Bool.and_true _
  rw [hchanges] at hset
  refine ⟨hset.of_queues hbefore hmain ⟨rfl, rfl, rfl⟩, nofun, fun id hid => ?_⟩
  have hcount : (w₂.mainFrameSetIf w₂.mainFrame.isSome none).frameCount = w.frameCount := by
    rw [mainFrameSetIf_frameCount, hsame]
  rcases mainFrameSetIf_mainFrame (w := w₂) w₂.mainFrame.isSome none with hnone | hold
  · exact nomatch hnone ▸ hid
  · refine hcount ▸ h.main_frame id ?_
    rw [← hmain, ← hold]
    exact hid

lemma announces_removeInfo (h : w.Numbered) (hremove : w.removeInfo host held = .ok w') :
    w.Announces false w' ∧ w'.Numbered := by
  rcases removeInfo_eq_ok hremove with ⟨_, rfl⟩ | ⟨info, _, _, _, rfl⟩
  · exact ⟨⟨Queues.refl hlocked, fun _ => rfl⟩, h⟩
  · have hbefore : w.Queues [] (w.infoRemoved host.globalId) :=
      ⟨rfl, hlocked, (append_nil _).symm⟩
    have hdetached := queues_detachedNotifying hbefore.locked info.isCurrentMainFrame info.frame
    rw [detachedNotifying_eq] at hdetached ⊢
    exact ⟨⟨hbefore.trans hdetached, fun _ => rfl⟩,
      fun info' hinfo' => h.info_frame info' (mem_of_mem_filter hinfo'), h.main_frame⟩

end

/-- What is left by an operation, and by one under a `NotificationStateLock`. -/
structure Leaves (w : CefBrowserInfo A) (b : Bool) (queue : List FrameNotification)
    (w' : CefBrowserInfo A) : Prop where
  delivered : mainFrameChanges w'.delivered = mainFrameChanges w.delivered
  changes : mainFrameChanges queue = if b then [(w.mainFrame, w'.mainFrame)] else []
  mainFrame : b = false → w'.mainFrame = w.mainFrame
  numbered : w'.Numbered

lemma leaves_underNotificationState {queue : List FrameNotification}
    {body : List FrameLock → CefBrowserInfo A → Except BrowserCrash (CefBrowserInfo A)}
    (hbody : ∀ held' w₁, body held' { w with notificationStateLock := some [] } = .ok w₁ →
      { w with notificationStateLock := some [] }.Announces b w₁ ∧ w₁.Numbered)
    (hrun : w.underNotificationState held body = .ok (queue, w')) : w.Leaves b queue w' := by
  obtain ⟨_, held', w₁, hbodyRun, rfl, rfl⟩ := underNotificationState_eq_ok hrun
  obtain ⟨hannounces, hnumbered⟩ := hbody held' w₁ hbodyRun
  refine ⟨?_, hannounces.queues.changes, hannounces.mainFrame, hnumbered.info_frame,
    hnumbered.main_frame⟩
  exact congrArg mainFrameChanges hannounces.queues.delivered

lemma leaves_of_same (h : w'.Numbered) (hmain : w'.mainFrame = w.mainFrame)
    (hdelivered : mainFrameChanges w'.delivered = mainFrameChanges w.delivered) :
    w.Leaves false [] w' :=
  ⟨hdelivered, rfl, fun _ => hmain, h⟩

lemma mainFrameChanges_notified (hqueue : w.notificationStateLock = none) {n : FrameNotification}
    (hn : mainFrameChanges [n] = []) :
    mainFrameChanges (w.notified n).delivered = mainFrameChanges w.delivered := by
  unfold notified
  rw [hqueue]
  split
  · dsimp only
    unfold executed
    split
    · exact (mainFrameChanges_append [n] w.delivered).trans (by rw [hn, nil_append])
    · rfl
  · rfl

lemma Numbered.notified (h : w.Numbered) (n : FrameNotification) : (w.notified n).Numbered := by
  rw [notified_eq]
  exact ⟨h.info_frame, h.main_frame⟩

lemma leaves_frameHostStateChanged (h : w.Numbered)
    {oldState newState : LifecycleState} {queue : List FrameNotification}
    (hhandler : w.ChangesMainFrame (.frameHostStateChanged host oldState newState) = true →
      w.frameHandler = true)
    (hchange : w.frameHostStateChanged held host oldState newState = .ok (frame, queue, w')) :
    w.Leaves (w.ChangesMainFrame (.frameHostStateChanged host oldState newState)) queue w' := by
  rcases frameHostStateChanged_eq_ok hchange with
    ⟨hnone, rfl, _, rfl⟩ | ⟨id, w₁, hactive, hlookup, _, hattach, hcases⟩
  · have hstays : w'.ChangesMainFrame (.frameHostStateChanged host oldState newState) = false := by
      cases hactive : becomesActive oldState newState with
      | false => simp [ChangesMainFrame, hactive]
      | true => simp [ChangesMainFrame, hnone hactive]
    rw [hstays]
    exact leaves_of_same h rfl rfl
  · obtain ⟨f, hf, hmainFrame, rfl⟩ := maybeAttach_eq_setFrame hattach
    have hnumbered : (w.setFrame id f).Numbered := ⟨h.info_frame, h.main_frame⟩
    have hchanges : w.ChangesMainFrame (.frameHostStateChanged host oldState newState) =
        (((w.setFrame id f).frame id).isMainFrame && !(w.setFrame id f).isMainFrame (some id)) := by
      simp [ChangesMainFrame, hactive, hlookup, isMainFrame_setFrame hf, hmainFrame]
    rw [hchanges] at hhandler ⊢
    rcases hcases with ⟨hsub, rfl, rfl⟩ | ⟨hmain, hset⟩
    · rw [hsub, Bool.false_and]
      exact leaves_of_same hnumbered rfl rfl
    · rw [hmain, Bool.true_and] at hhandler ⊢
      have hleaves : (w.setFrame id f).Leaves (!(w.setFrame id f).isMainFrame (some id)) queue w' := by
        refine leaves_underNotificationState (fun held' w₁ hbody => ?_) hset
        obtain ⟨rfl, _⟩ := setMainFrame_eq_ok hbody
        have hannounces := announces_mainFrameSetIf
          (w := { w.setFrame id f with notificationStateLock := some [] }) rfl true (some id) hhandler
        refine ⟨hannounces, ?_⟩
        have hlocked : { w.setFrame id f with notificationStateLock := some [] }.Numbered :=
          ⟨h.info_frame, h.main_frame⟩
        exact hlocked.mainFrameSetIf (b := true) fun i hi => some.inj hi ▸ h.lookup hlookup
      exact ⟨hleaves.delivered, hleaves.changes, hleaves.mainFrame, hleaves.numbered⟩

lemma perform_changes (hqueue : w.notificationStateLock = none) (h : w.Numbered)
    {op : FrameOperation A} {performed : Performed A}
    (hhandler : w.ChangesMainFrame op = true → w.frameHandler = true)
    (hperform : w.perform op = .ok performed) :
    w.Leaves (w.ChangesMainFrame op) performed.queue performed.info := by
  cases performs_of_ok hperform with
  | @excluded host isSpeculative =>
    have hstays : w.ChangesMainFrame (.maybeCreateFrame host true isSpeculative) = false := rfl
    rw [hstays]
    exact leaves_of_same h rfl rfl
  | created hcreate =>
    refine leaves_underNotificationState (fun held' w₁ hbody => ?_) hcreate
    exact announces_createOrReuseFrame (w := { w with notificationStateLock := some [] }) rfl
      ⟨h.info_frame, h.main_frame⟩ hhandler hbody
  | stateChanged hchange => exact leaves_frameHostStateChanged h hhandler hchange
  | removed hremove =>
    refine leaves_underNotificationState (fun held' w₁ hbody => ?_) hremove
    exact announces_removeInfo (w := { w with notificationStateLock := some [] }) rfl
      ⟨h.info_frame, h.main_frame⟩ hbody
  | closed hclose =>
    refine leaves_underNotificationState (fun held' w₁ hbody => ?_) hclose
    exact announces_closeFrames (w := { w with notificationStateLock := some [] }) rfl
      ⟨h.info_frame, h.main_frame⟩ hhandler hbody
  | closing => exact leaves_of_same ⟨h.info_frame, h.main_frame⟩ rfl rfl
  | destroyed => exact leaves_of_same ⟨h.info_frame, h.main_frame⟩ rfl rfl
  | temporary parent =>
    exact leaves_of_same ⟨fun info hinfo => lt_succ_of_lt (h.info_frame info hinfo),
      fun id hid => lt_succ_of_lt (h.main_frame id hid)⟩ rfl rfl
  | unhosted => exact leaves_of_same h rfl rfl
  | refreshed hhost => exact leaves_of_same ⟨h.info_frame, h.main_frame⟩ rfl rfl
  | unknown => exact leaves_of_same h rfl rfl
  | @attached globalId attempt reattached id info hlookup hattached =>
    rcases frameAttached_eq_ok hattached with ⟨_, rfl⟩ | ⟨_, rfl⟩
    · exact leaves_of_same h rfl rfl
    · have hnumbered : (w.setFrame id ((w.frame id).bound attempt)).Numbered :=
        ⟨h.info_frame, h.main_frame⟩
      refine leaves_of_same (hnumbered.notified _) (notified_mainFrame _) ?_
      exact mainFrameChanges_notified (n := .attached id reattached)
        (w := w.setFrame id ((w.frame id).bound attempt)) hqueue rfl
  | unbound => exact leaves_of_same h rfl rfl
  | @disconnected frame =>
    unfold notifiedIf
    split
    · exact leaves_of_same (h.notified _) (notified_mainFrame _)
        (mainFrameChanges_notified (n := .detached frame) hqueue rfl)
    · exact leaves_of_same h rfl rfl
  | sent => exact leaves_of_same ⟨h.info_frame, h.main_frame⟩ rfl rfl
  | unloaded => exact leaves_of_same h rfl rfl
  | loaded => exact leaves_of_same ⟨h.info_frame, h.main_frame⟩ rfl rfl

end CefBrowserInfo

/-! ## A client that calls back -/

structure Activation (A : Type) where
  operation : CefBrowserInfo.FrameOperation A
  /-- The frame object that the rest of the operation is about. -/
  frame : Option FrameId
  /-- What is still to be delivered. -/
  queue : List FrameNotification

/-- A browser and the operations that are running, the innermost first. -/
structure ReentrantBrowser (A : Type) where
  info : CefBrowserInfo A
  running : List (Activation A) := []

/-- The steps of a browser whose client calls back. -/
inductive ReentrantStep (A : Type) where
  /-- An operation begins, and runs up to the delivery of its notifications. -/
  | begins (op : CefBrowserInfo.FrameOperation A)
  /-- The innermost operation delivers its next notification. -/
  | delivers
  /-- The innermost operation has delivered everything and comes to its end. -/
  | ends

namespace ReentrantBrowser

variable {A : Type}

/-- A browser whose frame objects have not been created yet. -/
def create (A : Type) (frameHandler reentrantLocks : Bool) : ReentrantBrowser A :=
  { info := CefBrowserInfo.create A frameHandler reentrantLocks }

section

variable (s : ReentrantBrowser A)

def step : ReentrantStep A → Option (ReentrantBrowser A)
  | .begins op => do
    let performed ← (s.info.perform op).toOption
    some
      { info := performed.info
        running := ⟨op, performed.frame, performed.queue⟩ :: s.running }
  | .delivers =>
    match s.running with
    | ⟨operation, frame, n :: queue⟩ :: running => do
      let info ← (s.info.execute [] n).toOption
      some { info, running := ⟨operation, frame, queue⟩ :: running }
    | _ => none
  | .ends =>
    match s.running with
    | ⟨operation, frame, []⟩ :: running => do
      let info ← (s.info.conclude frame operation).toOption
      some { info, running }
    | _ => none

/-- The changes of the main frame that the client has not heard of. -/
def pending : List (Option FrameId × Option FrameId) :=
  s.running.flatMap fun a => mainFrameChanges a.queue

/-- The main frame that the client knows. -/
def known : Option FrameId :=
  knownMainFrame (mainFrameChanges s.info.delivered)

/-- If the main frame is changed, then the client has heard of all earlier changes, and will hear of
this one. -/
def Timely : ReentrantStep A → Bool
  | .begins op => !s.info.ChangesMainFrame op || s.info.frameHandler && s.pending.isEmpty
  | _ => true

end

structure Sound (s : ReentrantBrowser A) : Prop where
  unlocked : s.info.notificationStateLock = none
  numbered : s.info.Numbered
  chained : Chained (mainFrameChanges s.info.delivered)
  pending : s.pending = [] ∧ s.known = s.info.mainFrame ∨ s.pending = [(s.known, s.info.mainFrame)]

variable {s s' : ReentrantBrowser A}

lemma Sound.begins (h : s.Sound) {op : CefBrowserInfo.FrameOperation A}
    (htimely : s.Timely (.begins op) = true) (hstep : s.step (.begins op) = some s') : s'.Sound := by
  obtain ⟨performed, hperform, hs'⟩ := bind_eq_some_iff.mp hstep
  cases hs'
  rw [toOption_eq_some_iff] at hperform
  have htimely' : s.info.ChangesMainFrame op = true →
      s.info.frameHandler = true ∧ s.pending = [] := by
    intro hchanges
    simpa [Timely, hchanges] using htimely
  have hleaves := perform_changes h.unlocked h.numbered
    (fun hchanges => (htimely' hchanges).1) hperform
  have hknown : knownMainFrame (mainFrameChanges performed.info.delivered) = s.known := by
    rw [hleaves.delivered]
    rfl
  refine ⟨(perform_same h.unlocked hperform).2, hleaves.numbered, ?_, ?_⟩
  · exact hleaves.delivered ▸ h.chained
  · unfold ReentrantBrowser.pending ReentrantBrowser.known
    rw [flatMap_cons, hknown, hleaves.changes]
    cases hchanges : s.info.ChangesMainFrame op with
    | false =>
      rw [hleaves.mainFrame hchanges]
      exact h.pending
    | true =>
      have hnone := (htimely' hchanges).2
      rcases h.pending with ⟨_, hmain⟩ | hsome
      · refine .inr ?_
        rw [if_pos rfl, hmain]
        exact congrArg (_ :: ·) hnone
      · exact absurd (hnone.symm.trans hsome) nofun

lemma mainFrameChanges_executed (w : CefBrowserInfo A) (n : FrameNotification) :
    mainFrameChanges (w.executed n).delivered =
      mainFrameChanges [n] ++ mainFrameChanges w.delivered := by
  unfold CefBrowserInfo.executed
  cases n with
  | mainFrameChanged oldFrame newFrame => rfl
  | _ => split <;> rfl

lemma Sound.delivers (h : s.Sound) (hstep : s.step .delivers = some s') : s'.Sound := by
  simp only [step] at hstep
  split at hstep
  · rename_i operation frame n queue running hrunning
    obtain ⟨info, hexecute, hs'⟩ := bind_eq_some_iff.mp hstep
    cases hs'
    obtain rfl := execute_eq_ok (toOption_eq_some_iff.mp hexecute)
    have hsame := executed_eq (w := s.info) n
    have hunlocked : (s.info.executed n).notificationStateLock = none := by
      rw [hsame]
      exact h.unlocked
    have hnumbered : (s.info.executed n).Numbered := by
      rw [hsame]
      exact ⟨h.numbered.info_frame, h.numbered.main_frame⟩
    have hmain : (s.info.executed n).mainFrame = s.info.mainFrame := by rw [hsame]
    have hpending : s.pending = mainFrameChanges [n] ++
        (mainFrameChanges queue ++ running.flatMap fun a => mainFrameChanges a.queue) := by
      unfold ReentrantBrowser.pending
      rw [hrunning, flatMap_cons, ← append_assoc, ← mainFrameChanges_append]
      rfl
    have hold := h.pending
    rw [hpending] at hold
    rcases mainFrameChanges_singleton n with ⟨oldFrame, newFrame, rfl⟩ | hother
    · -- What is delivered is the only change that the client has not heard of.
      have hdelivered : mainFrameChanges (s.info.executed (.mainFrameChanged oldFrame
          newFrame)).delivered = (oldFrame, newFrame) :: mainFrameChanges s.info.delivered :=
        mainFrameChanges_executed _ _
      rcases hold with ⟨hnone, _⟩ | hsome
      · exact nomatch hnone
      · obtain ⟨hchange, hrest⟩ := cons.inj hsome
        obtain ⟨hknown, hnew⟩ := Prod.mk.inj hchange
        refine ⟨hunlocked, hnumbered, ?_, .inl ⟨hrest, ?_⟩⟩
        · rw [hdelivered]
          exact ⟨hknown, h.chained⟩
        · unfold known
          rw [hdelivered, hmain]
          exact hnew
    · have hdelivered := mainFrameChanges_executed s.info n
      rw [hother, nil_append] at hdelivered hold
      refine ⟨hunlocked, hnumbered, ?_, ?_⟩
      · rw [hdelivered]
        exact h.chained
      · unfold known
        rw [hdelivered, hmain]
        exact hold
  · exact nomatch hstep

lemma Sound.ends (h : s.Sound) (hstep : s.step .ends = some s') : s'.Sound := by
  simp only [step] at hstep
  split at hstep
  · rename_i operation frame running hrunning
    obtain ⟨info, hconclude, hs'⟩ := bind_eq_some_iff.mp hstep
    cases hs'
    have hok := toOption_eq_some_iff.mp hconclude
    have hpending : s.pending = running.flatMap fun a => mainFrameChanges a.queue := by
      unfold ReentrantBrowser.pending
      rw [hrunning]
      rfl
    have hsame : info.mainFrame = s.info.mainFrame ∧ info.delivered = s.info.delivered ∧
        info.notificationStateLock = none ∧ info.Numbered := by
      have hunlocked := h.unlocked
      rcases conclude_eq_ok hok with
        ⟨host, oldState, newState, _, hupdate⟩ | ⟨lost, id, _, _, rfl⟩ | rfl
      · have hstopped : (s.info.stoppedLoading frame).Numbered ∧
            (s.info.stoppedLoading frame).mainFrame = s.info.mainFrame ∧
            (s.info.stoppedLoading frame).delivered = s.info.delivered ∧
            (s.info.stoppedLoading frame).notificationStateLock = none := by
          unfold CefBrowserInfo.stoppedLoading
          split
          · exact ⟨h.numbered, rfl, rfl, hunlocked⟩
          · exact ⟨⟨h.numbered.info_frame, h.numbered.main_frame⟩, rfl, rfl, hunlocked⟩
        obtain ⟨hnumbered, hmain, hdelivered, hqueue⟩ := hstopped
        rcases updateBackForwardCache_eq_ok hupdate with rfl | rfl
        · exact ⟨hmain, hdelivered, hqueue, hnumbered⟩
        · exact ⟨hmain, hdelivered, hqueue, hnumbered.updateInfo _ fun _ => rfl⟩
      · exact ⟨rfl, rfl, hunlocked, h.numbered.info_frame, h.numbered.main_frame⟩
      · exact ⟨rfl, rfl, hunlocked, h.numbered⟩
    obtain ⟨hmain, hdelivered, hunlocked, hnumbered⟩ := hsame
    refine ⟨hunlocked, hnumbered, ?_, ?_⟩
    · rw [hdelivered]
      exact h.chained
    · have hold := h.pending
      rw [hpending] at hold
      unfold known
      rw [hmain, hdelivered]
      exact hold
  · exact nomatch hstep

lemma Sound.create (frameHandler reentrantLocks : Bool) :
    (create A frameHandler reentrantLocks).Sound where
  unlocked := rfl
  numbered := ⟨nofun, nofun⟩
  chained := True.intro
  pending := .inl ⟨rfl, rfl⟩

/-- **In a timely run the changes of the main frame form a chain**, and a client that has heard of
all of them knows the main frame.

**Proof sketch.** An operation queues its own change only, and begins when there is no other. So a
change is delivered as the next one behind those that are known, whatever is delivered in between.
-/
theorem mainFrame_chained (frameHandler reentrantLocks : Bool) (steps : List (ReentrantStep A))
    (h : Along step (fun s a => s.Timely a = true)
      (create A frameHandler reentrantLocks) steps) :
    Always step
      (fun s => Chained (mainFrameChanges s.info.delivered) ∧
        (s.pending = [] → s.known = s.info.mainFrame))
      (create A frameHandler reentrantLocks) steps := by
  have hsound := Along.always (I := Sound)
    (fun s a s' hs htimely hstep => by
      cases a with
      | begins op => exact hs.begins htimely hstep
      | delivers => exact hs.delivers hstep
      | ends => exact hs.ends hstep)
    (Sound.create frameHandler reentrantLocks) h
  intro n s hn
  have hs := hsound n s hn
  refine ⟨hs.chained, fun hnone => ?_⟩
  rcases hs.pending with ⟨_, hknown⟩ | hsome
  · exact hknown
  · exact absurd (hnone.symm.trans hsome) nofun

open CefBrowserInfo (mainHost)

/-- The client closes the browser when it hears of its second main frame. -/
theorem mainFrame_chained_navigation :
    Always step (fun s => Chained (mainFrameChanges s.info.delivered) ∧
        (s.pending = [] → s.known = s.info.mainFrame)) (create Nat true false)
      [.begins (.maybeCreateFrame (mainHost 0) false false), .delivers, .delivers, .ends,
        .begins (.maybeCreateFrame (mainHost 1) false false), .delivers, .delivers, .delivers,
        .begins .webContentsDestroyed, .delivers, .delivers, .ends, .ends] :=
  mainFrame_chained true false _ (by decide)

/-- The client closes the browser when its main frame has been created, and hears that the main frame
is gone before it hears of it. In the end it knows a main frame that the browser does not have. -/
theorem closing_breaks_chain :
    ∃ s, [ReentrantStep.begins (.maybeCreateFrame (mainHost 0) false false), .delivers,
        .begins .webContentsDestroyed, .delivers, .delivers, .ends, .delivers, .ends].foldlM step
          (create Nat true false) = some s ∧
      s.info.delivered = [.mainFrameChanged none (some 0), .mainFrameChanged (some 0) none,
        .destroyed 0, .created 0] ∧
      ¬ Chained (mainFrameChanges s.info.delivered) ∧ s.pending = [] ∧ s.known = some 0 ∧
      s.info.mainFrame = none :=
  ⟨_, rfl, rfl, fun h => absurd h.2.1 nofun, rfl, rfl, rfl⟩

end ReentrantBrowser

end CefCore.Frame
