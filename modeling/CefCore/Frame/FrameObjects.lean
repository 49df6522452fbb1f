import CefCore.Frame.CommandQueues
import CefCore.Frame.MainFrameChain
import Mathlib.Logic.Relation

/-!
# The frame objects in the runs of a browser

`CefFrameHostImpl.step` says what the methods of a frame object do to its own members, and the
command queues are kept along its runs. This file shows that nothing else happens to the frame
objects of a browser: in every run of a `CefBrowserInfo` whose client calls back, each frame object
is a newly created one to which some of its methods have happened.

## Main results

* `frame_queues_kept`: the queues of all frame objects are kept.
-/

namespace CefCore.Frame

open Option Fallible CefFrameHostImpl CefBrowserInfo Nat

variable {A : Type}

namespace CefFrameHostImpl

def Becomes : CefFrameHostImpl A → CefFrameHostImpl A → Prop :=
  Relation.ReflTransGen fun f f' => ∃ e, f.step e = some f'

def IsNew (f : CefFrameHostImpl A) : Prop :=
  (∃ host, f = .ofHost A host) ∨ ∃ parentFrameToken, f = .temporary A parentFrameToken

def Lives (f : CefFrameHostImpl A) : Prop :=
  ∃ f₀ : CefFrameHostImpl A, f₀.IsNew ∧ f₀.Becomes f

variable {f f' : CefFrameHostImpl A}

lemma Becomes.refl (f : CefFrameHostImpl A) : f.Becomes f :=
  Relation.ReflTransGen.refl

lemma Becomes.method (e : Event A) (h : f.step e = some f') : f.Becomes f' :=
  Relation.ReflTransGen.single ⟨e, h⟩

lemma Lives.becomes (h : f.Lives) (h' : f.Becomes f') : f'.Lives :=
  h.imp fun _ ⟨hnew, hbecomes⟩ => ⟨hnew, hbecomes.trans h'⟩

lemma lives_ofHost (host : RenderFrameHost) : (ofHost A host).Lives :=
  ⟨_, .inl ⟨host, rfl⟩, Becomes.refl _⟩

lemma lives_temporary (parentFrameToken : Option Browser.GlobalToken) :
    (temporary A parentFrameToken).Lives :=
  ⟨_, .inr ⟨parentFrameToken, rfl⟩, Becomes.refl _⟩

lemma becomes_detached {isCurrentMainFrame : Bool} (h : f.mayDetach isCurrentMainFrame = true) :
    f.Becomes (f.detached isCurrentMainFrame) :=
  Becomes.method (.detach isCurrentMainFrame) (if_pos h)

lemma becomes_rehosted {host : RenderFrameHost} (hnew : f.hasHost host = false)
    (hmay : f.mayAttach host = true) (attributes : HostAttributes) :
    f.Becomes ((f.rehosted host).refreshed host attributes) := by
  have htaken : f.Becomes (f.rehosted host) := by
    refine Becomes.method (.maybeAttach host) ?_
    simp [step, hnew, hmay]
  have hrefreshed : (f.rehosted host).Becomes ((f.rehosted host).refreshed host attributes) :=
    Becomes.method (.refreshAttributes attributes) rfl
  exact htaken.trans hrefreshed

lemma Lives.queueKept (h : f.Lives) : f.QueueKept := by
  obtain ⟨f₀, hnew, hbecomes⟩ := h
  refine ⟨?_, fun e f' hstep => step_outbox hstep⟩
  induction hbecomes with
  | refl =>
    rcases hnew with ⟨host, rfl⟩ | ⟨parentFrameToken, rfl⟩
    · exact fresh_sound rfl rfl rfl
    · exact fresh_sound rfl rfl rfl
  | tail _ hmethod ih =>
    obtain ⟨e, hstep⟩ := hmethod
    rw [step_outbox hstep]
    exact Outbox.kept_foldl ih _

end CefFrameHostImpl

namespace CefBrowserInfo

open CefFrameHostImpl (Becomes Lives)

variable {w w' w'' : CefBrowserInfo A} {held : List FrameLock}

structure Grows (w w' : CefBrowserInfo A) : Prop where
  count : w.frameCount ≤ w'.frameCount
  becomes : ∀ id < w.frameCount, (w.frame id).Becomes (w'.frame id)
  lives : ∀ id, w.frameCount ≤ id → id < w'.frameCount → (w'.frame id).Lives

lemma Grows.of_eq (hcount : w'.frameCount = w.frameCount) (hframe : w'.frame = w.frame) :
    w.Grows w' where
  count := hcount.ge
  becomes id _ := by
    rw [hframe]
    exact Becomes.refl _
  lives id hge hlt := absurd (hcount ▸ hlt) (not_lt.mpr hge)

lemma Grows.trans (h : w.Grows w') (h' : w'.Grows w'') : w.Grows w'' where
  count := h.count.trans h'.count
  becomes id hid := (h.becomes id hid).trans (h'.becomes id (hid.trans_le h.count))
  lives id hge hlt := by
    by_cases hid : id < w'.frameCount
    · exact (h.lives id hge hid).becomes (h'.becomes id hid)
    · exact h'.lives id (not_lt.mp hid) hlt

variable {frame : Option FrameId} {host : RenderFrameHost} {id : FrameId} {op : FrameOperation A}

lemma grows_setFrame {f : CefFrameHostImpl A} (h : (w.frame id).Becomes f) :
    w.Grows (w.setFrame id f) where
  count := le_refl _
  becomes i _ := by
    by_cases hi : i = id
    · rw [hi, setFrame_frame_self]
      exact h
    · rw [setFrame_frame_of_ne hi]
      exact Becomes.refl _
  lives i hge hlt := absurd hlt (not_lt.mpr hge)

lemma grows_created {f : CefFrameHostImpl A} (h : f.Lives) :
    w.Grows { w.setFrame w.frameCount f with frameCount := w.frameCount + 1 } where
  count := le_succ _
  becomes i hi := by
    have hframe := setFrame_frame_of_ne (w := w) (Nat.ne_of_lt hi) f
    exact hframe.symm ▸ Becomes.refl _
  lives i hge hlt := by
    obtain rfl : i = w.frameCount := le_antisymm (le_of_lt_succ hlt) hge
    have hframe := setFrame_frame_self (w := w) w.frameCount f
    exact hframe.symm ▸ h

lemma grows_notified (n : FrameNotification) : w.Grows (w.notified n) :=
  Grows.of_eq (notified_frameCount n) (notified_frame n)

/-! ## Methods -/

lemma grows_detachNotifying {isCurrentMainFrame : Bool}
    (h : w.detachNotifying held isCurrentMainFrame id = .ok w') : w.Grows w' := by
  obtain ⟨hmay, rfl⟩ := detachNotifying_eq_ok h
  rw [detachedNotifying_eq]
  have hset := grows_setFrame (becomes_detached hmay)
  exact ⟨hset.count, hset.becomes, hset.lives⟩

lemma grows_setMainFrame (h : w.setMainFrame frame held = .ok w') : w.Grows w' := by
  unfold setMainFrame at h
  split at h
  · cases h
    exact Grows.of_eq rfl rfl
  · obtain ⟨w₁, hold, h⟩ := bind_eq_ok_iff.mp h
    obtain rfl := maybeExecuteFrameNotification_eq_ok h
    have hdetached : w.Grows w₁ := by
      unfold detachMainFrame at hold
      split at hold
      · cases hold
        exact Grows.of_eq rfl rfl
      · exact grows_detachNotifying hold
    have hset : w₁.Grows { w₁ with mainFrame := frame } := Grows.of_eq rfl rfl
    exact (hdetached.trans hset).trans (grows_notified _)

lemma grows_setMainFrameIf {b : Bool}
    (h : w.setMainFrameIf held b frame = .ok w') : w.Grows w' := by
  unfold setMainFrameIf at h
  split at h
  · exact grows_setMainFrame h
  · cases h
    exact Grows.of_eq rfl rfl

lemma grows_maybeAttach (h : w.maybeAttach held host id = .ok w') : w.Grows w' := by
  rcases maybeAttach_eq_ok h with ⟨_, rfl⟩ | ⟨⟨hnew, hmay⟩, _, rfl⟩
  · exact Grows.of_eq rfl rfl
  · exact grows_setFrame (becomes_rehosted hnew hmay _)

lemma grows_createOrReuseFrame {isSpeculative : Bool}
    (h : w.createOrReuseFrame host isSpeculative held = .ok w') : w.Grows w' := by
  rcases createOrReuseFrame_eq_ok h with ⟨info, _, hreuse⟩ | ⟨_, hcreate⟩
  · obtain ⟨w₁, hattach, hreuse⟩ := bind_eq_ok_iff.mp hreuse
    have hattached := grows_maybeAttach hattach
    split at hreuse
    · obtain ⟨w₂, hmain, hreuse⟩ := bind_eq_ok_iff.mp hreuse
      cases hreuse
      exact hattached.trans ((grows_setMainFrameIf hmain).trans (Grows.of_eq rfl rfl))
    · cases hreuse
      exact hattached
  · obtain ⟨w₁, hnotified, hcreate⟩ := bind_eq_ok_iff.mp hcreate
    obtain rfl := maybeExecuteFrameNotification_eq_ok hnotified
    obtain ⟨w₂, hmain, hcreate⟩ := bind_eq_ok_iff.mp hcreate
    split at hcreate
    · exact nomatch hcreate
    · cases hcreate
      have hcreated := (grows_created (w := w) (lives_ofHost host)).trans
        (grows_notified (.created w.frameCount))
      exact hcreated.trans ((grows_setMainFrameIf hmain).trans (Grows.of_eq rfl rfl))

lemma grows_detachAll : ∀ {infos : List FrameInfo} {w : CefBrowserInfo A},
    detachAll held infos w = .ok w' → w.Grows w'
  | [], _, h => Except.ok.inj h ▸ Grows.of_eq rfl rfl
  | info :: infos, w, h => by
    obtain ⟨⟨w₁, _, _⟩, hdetach, h⟩ := bind_eq_ok_iff.mp h
    obtain ⟨hmay, rfl, _⟩ := detach_eq_ok hdetach
    exact (grows_setFrame (becomes_detached hmay)).trans (grows_detachAll h)

lemma grows_closeFrames (h : w.closeFrames held = .ok w') : w.Grows w' := by
  obtain ⟨w₁, hremove, rfl⟩ := closeFrames_eq_ok h
  obtain ⟨w₂, hdetach, hremove⟩ := bind_eq_ok_iff.mp hremove
  obtain ⟨w₃, hmain, hremove⟩ := bind_eq_ok_iff.mp hremove
  cases hremove
  have hclosing : w.Grows { w with isClosing := true } := Grows.of_eq rfl rfl
  have hset := (grows_detachAll hdetach).trans (grows_setMainFrameIf hmain)
  exact hclosing.trans (hset.trans (Grows.of_eq rfl rfl))

lemma grows_removeInfo (h : w.removeInfo host held = .ok w') : w.Grows w' := by
  unfold removeInfo at h
  split at h
  · cases h
    exact Grows.of_eq rfl rfl
  · split at h
    · exact nomatch h
    · have hremoved := grows_detachNotifying h
      exact ⟨hremoved.count, hremoved.becomes, hremoved.lives⟩

lemma grows_underNotificationState {queue : List FrameNotification}
    {body : List FrameLock → CefBrowserInfo A → Except BrowserCrash (CefBrowserInfo A)}
    (hbody : ∀ held' w₀ w₁, body held' w₀ = .ok w₁ → w₀.Grows w₁)
    (h : w.underNotificationState held body = .ok (queue, w')) : w.Grows w' := by
  obtain ⟨_, held', w₁, hrun, rfl, rfl⟩ := underNotificationState_eq_ok h
  have hgrows := hbody _ _ _ hrun
  exact ⟨hgrows.count, hgrows.becomes, hgrows.lives⟩

lemma grows_sendToRenderFrame (functionName : String) (action : RenderFrameAction A)
    (id : FrameId) : w.Grows (w.sendToRenderFrame functionName action id) :=
  grows_setFrame (Becomes.method (.sendToRenderFrame functionName action) rfl)

/-! ## Operations -/

/-- **Up to the delivery of its notifications an operation does nothing to a frame object but what
the methods of the frame object do.** -/
theorem perform_grows {performed : Performed A}
    (h : w.perform op = .ok performed) : w.Grows performed.info := by
  cases performs_of_ok h with
  | excluded => exact Grows.of_eq rfl rfl
  | created hcreate =>
    exact grows_underNotificationState (fun _ _ _ => grows_createOrReuseFrame) hcreate
  | stateChanged hchanged =>
    rcases frameHostStateChanged_eq_ok hchanged with
      ⟨_, _, _, rfl⟩ | ⟨id, w₁, _, _, _, hattach, ⟨_, _, rfl⟩ | ⟨_, hset⟩⟩
    · exact Grows.of_eq rfl rfl
    · exact grows_maybeAttach hattach
    · exact (grows_maybeAttach hattach).trans
        (grows_underNotificationState (fun _ _ _ => grows_setMainFrame) hset)
  | removed hremove =>
    exact grows_underNotificationState (fun _ _ _ => grows_removeInfo) hremove
  | closed hclose =>
    exact grows_underNotificationState (fun _ _ _ => grows_closeFrames) hclose
  | closing => exact Grows.of_eq rfl rfl
  | destroyed => exact Grows.of_eq rfl rfl
  | temporary parent => exact grows_created (lives_temporary _)
  | unhosted => exact Grows.of_eq rfl rfl
  | @refreshed frame attributes host hhost =>
    refine grows_setFrame (Becomes.method (.refreshAttributes attributes) ?_)
    simp [CefFrameHostImpl.step, hhost]
  | unknown => exact Grows.of_eq rfl rfl
  | @attached globalId attempt reattached id info hlookup hattached =>
    rcases frameAttached_eq_ok hattached with ⟨_, rfl⟩ | ⟨hvalid, rfl⟩
    · exact Grows.of_eq rfl rfl
    · have hbound : (w.frame id).step (.frameAttached attempt) =
          some ((w.frame id).bound attempt) := congrArg some (if_pos hvalid)
      exact (grows_setFrame (Becomes.method _ hbound)).trans (grows_notified _)
  | unbound => exact Grows.of_eq rfl rfl
  | disconnected => exact Grows.of_eq (notifiedIf_frameCount _ _) (notifiedIf_frame _ _)
  | sent => exact grows_sendToRenderFrame _ _ _
  | unloaded => exact Grows.of_eq rfl rfl
  | loaded => exact grows_sendToRenderFrame _ _ _

theorem conclude_grows (h : w.conclude frame op = .ok w') : w.Grows w' := by
  rcases conclude_eq_ok h with
    ⟨host, oldState, newState, _, hupdate⟩ | ⟨_, id, _, _, rfl⟩ | rfl
  · have hstopped : w.Grows (w.stoppedLoading frame) := by
      cases frame with
      | none => exact Grows.of_eq rfl rfl
      | some id => exact grows_setFrame (Becomes.method .maybeSendDidStopLoading rfl)
    rcases updateBackForwardCache_eq_ok hupdate with rfl | rfl
    · exact hstopped
    · exact hstopped.trans (Grows.of_eq rfl rfl)
  · exact grows_setFrame (Becomes.method .renderFrameDisconnect rfl)
  · exact Grows.of_eq rfl rfl

end CefBrowserInfo

namespace ReentrantBrowser

theorem step_grows {s s' : ReentrantBrowser A} {a : ReentrantStep A} (h : s.step a = some s') :
    s.info.Grows s'.info := by
  cases a with
  | begins op =>
    obtain ⟨performed, hperform, h⟩ := bind_eq_some_iff.mp h
    cases h
    exact perform_grows (toOption_eq_some_iff.mp hperform)
  | delivers =>
    simp only [step] at h
    split at h
    · obtain ⟨info, hexecute, h⟩ := bind_eq_some_iff.mp h
      cases h
      obtain rfl := execute_eq_ok (toOption_eq_some_iff.mp hexecute)
      rw [executed_eq]
      exact CefBrowserInfo.Grows.of_eq rfl rfl
    · cases h
  | ends =>
    simp only [step] at h
    split at h
    · obtain ⟨info, hconclude, h⟩ := bind_eq_some_iff.mp h
      cases h
      exact conclude_grows (toOption_eq_some_iff.mp hconclude)
    · cases h

/-- **The command queues of all frame objects are kept** in every run of a browser, whatever its
client does when it is called.

**Proof sketch.** A frame object is created, and then only its own methods happen to it
(`step_grows`); along those its queue is kept. -/
theorem frame_queues_kept (frameHandler reentrantLocks : Bool) (steps : List (ReentrantStep A)) :
    Transition.Always step
      (fun s => ∀ id < s.info.frameCount, (s.info.frame id).QueueKept)
      (create A frameHandler reentrantLocks) steps := by
  intro n s hrun
  have hlives := Transition.run_invariant
    (I := fun s => ∀ id < s.info.frameCount, (s.info.frame id).Lives)
    (fun s a s' h hstep id hid => by
      have hgrows := step_grows hstep
      by_cases hold : id < s.info.frameCount
      · exact (h id hold).becomes (hgrows.becomes id hold)
      · exact hgrows.lives id (not_lt.mp hold) hid)
    (fun id hid => absurd hid (not_lt_zero id)) hrun
  exact fun id hid => (hlives id hid).queueKept

end ReentrantBrowser

end CefCore.Frame
