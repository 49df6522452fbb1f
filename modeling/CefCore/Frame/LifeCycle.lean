import CefCore.Frame.FramePhase
import CefCore.Frame.LockDiscipline

/-!
# The notifications about the frames of a browser

`FrameAttached` binds the remote and tells the client so, whether the remote was bound or not.

## Main results

* `lifecycle_ordered`: a client whose frame handler does not call back hears about each frame object
  in the documented order, if the frame objects are attached one connection at a time.
-/

namespace CefCore.Frame

open List Option Fallible CefFrameHostImpl FramePhase EventLog Transition

namespace CefFrameHostImpl

variable {A : Type} {f g : CefFrameHostImpl A}

def phase (f : CefFrameHostImpl A) : FramePhase :=
  if f.isTemporary then .unborn
  else if !f.browserInfo then .dead
  else if f.renderFrame.isSome then .live else .idle

structure Valid (f : CefFrameHostImpl A) : Prop where
  temporary : f.isTemporary = true → f.renderFrame = none
  unbound : f.browserInfo = false → f.renderFrame = none
  released : f.browserInfo = false → f.renderFrameHost = none

structure Detachment (f g : CefFrameHostImpl A) : Prop where
  isTemporary : g.isTemporary = f.isTemporary
  bound : g.renderFrame.isSome = true → f.renderFrame.isSome = true
  browserInfo : g.browserInfo = true → f.browserInfo = true

lemma phase_eq_unborn_iff : f.phase = .unborn ↔ f.isTemporary = true := by
  unfold phase
  split
  · simp_all
  · split
    · simp_all
    · split <;> simp_all

lemma phase_eq (htemporary : f.isTemporary = false) (hinfo : f.browserInfo = true) :
    f.phase = if f.renderFrame.isSome then .live else .idle := by
  simp [phase, htemporary, hinfo]

lemma isTemporary_eq_of_phase_eq (h : g.phase = f.phase) : g.isTemporary = f.isTemporary := by
  rw [Bool.eq_iff_iff, ← phase_eq_unborn_iff, ← phase_eq_unborn_iff, h]

@[simp] lemma detached_isTemporary (b : Bool) : (f.detached b).isTemporary = f.isTemporary := by
  cases b <;> rfl
@[simp] lemma detached_renderFrame (b : Bool) : (f.detached b).renderFrame = none := by
  cases b <;> rfl
@[simp] lemma detached_renderFrameHost (b : Bool) : (f.detached b).renderFrameHost = none := by
  cases b <;> rfl
@[simp] lemma detached_browserInfo (b : Bool) :
    (f.detached b).browserInfo = (b && f.browserInfo) := by
  cases b <;> rfl

lemma Valid.detached (b : Bool) : (f.detached b).Valid :=
  ⟨fun _ => detached_renderFrame b, fun _ => detached_renderFrame b,
    fun _ => detached_renderFrameHost b⟩

lemma Detachment.refl (f : CefFrameHostImpl A) : f.Detachment f := ⟨rfl, id, id⟩

lemma Detachment.trans {e : CefFrameHostImpl A} (h : e.Detachment f) (h' : f.Detachment g) :
    e.Detachment g :=
  ⟨h'.isTemporary.trans h.isTemporary, h.bound ∘ h'.bound, h.browserInfo ∘ h'.browserInfo⟩

lemma detachment_detached (f : CefFrameHostImpl A) (b : Bool) : f.Detachment (f.detached b) where
  isTemporary := detached_isTemporary b
  bound := by simp
  browserInfo := by
    intro hinfo
    rw [detached_browserInfo, Bool.and_eq_true] at hinfo
    exact hinfo.2

/-- Two frame objects are the same but for what the renderer process and the client's commands see. -/
structure Alike (f g : CefFrameHostImpl A) : Prop where
  frameToken : g.frameToken = f.frameToken
  browserInfo : g.browserInfo = f.browserInfo
  renderFrame : g.renderFrame = f.renderFrame
  renderFrameHost : g.renderFrameHost = f.renderFrameHost

lemma Alike.phase (h : f.Alike g) : g.phase = f.phase := by
  unfold CefFrameHostImpl.phase isTemporary
  rw [h.frameToken, h.browserInfo, h.renderFrame]

lemma Alike.valid (h : f.Alike g) (hf : f.Valid) : g.Valid where
  temporary ht := h.renderFrame.trans (hf.temporary (by rwa [isTemporary, ← h.frameToken]))
  unbound hi := h.renderFrame.trans (hf.unbound (h.browserInfo ▸ hi))
  released hi := h.renderFrameHost.trans (hf.released (h.browserInfo ▸ hi))

lemma alike_sendToRenderFrame (f : CefFrameHostImpl A) (functionName : String)
    (action : RenderFrameAction A) : f.Alike (f.sendToRenderFrame functionName action) := by
  unfold sendToRenderFrame
  split
  · exact ⟨rfl, rfl, rfl, rfl⟩
  · split <;> exact ⟨rfl, rfl, rfl, rfl⟩

lemma alike_maybeSendDidStopLoading (f : CefFrameHostImpl A) :
    f.Alike f.maybeSendDidStopLoading := by
  unfold maybeSendDidStopLoading
  split
  · exact ⟨rfl, rfl, rfl, rfl⟩
  · split
    · exact ⟨rfl, rfl, rfl, rfl⟩
    · exact alike_sendToRenderFrame f _ _

lemma alike_refreshed (f : CefFrameHostImpl A) (host : RenderFrameHost)
    (attributes : HostAttributes) : f.Alike (f.refreshed host attributes) :=
  ⟨rfl, rfl, rfl, rfl⟩

end CefFrameHostImpl

namespace CefBrowserInfo

variable {A : Type} {w w' : CefBrowserInfo A} {held : List FrameLock}

/-! ## What the client is told -/

def told (w : CefBrowserInfo A) : List FrameNotification :=
  (w.notificationStateLock.getD []).reverse ++ w.delivered

def knownPhase (id : FrameId) (w : CefBrowserInfo A) : Option FramePhase :=
  monitored (FramePhase.next id) .unborn w.told

/-- The client has been told about a frame object in order, and as long as it is told anything, it
knows the phase. -/
def Knows (id : FrameId) (w : CefBrowserInfo A) : Prop :=
  ∃ p, w.knownPhase id = some p ∧ (w.frameHandler = true → p = (w.frame id).phase)

structure Tells (w : CefBrowserInfo A) (notes : List FrameNotification) (w' : CefBrowserInfo A) :
    Prop where
  frameHandler : w'.frameHandler = w.frameHandler
  told : w'.told = if w.frameHandler then notes ++ w.told else w.told

lemma Tells.refl (htold : w'.told = w.told) (hhandler : w'.frameHandler = w.frameHandler) :
    w.Tells [] w' :=
  ⟨hhandler, by rw [htold, nil_append, ite_self]⟩

variable {b : Bool} {f : CefFrameHostImpl A} {frame newFrame : Option FrameId}
  {host : RenderFrameHost} {i id : FrameId} {n : FrameNotification} {notes : List FrameNotification}

lemma Tells.trans {w'' : CefBrowserInfo A} {notes' : List FrameNotification}
    (h : w.Tells notes w') (h' : w'.Tells notes' w'') : w.Tells (notes' ++ notes) w'' := by
  refine ⟨h'.frameHandler.trans h.frameHandler, ?_⟩
  rw [h'.told, h.told, h.frameHandler]
  split
  · rw [append_assoc]
  · rfl

lemma tells_notified (hwants : w.frameHandler = true → w.wants n = true) :
    w.Tells [n] (w.notified n) := by
  refine ⟨notified_frameHandler n, ?_⟩
  unfold notified
  split
  · rename_i hhandler
    cases hqueue : w.notificationStateLock with
    | some queue => simp [told, hqueue]
    | none => simp [told, hqueue, executed, hwants hhandler]
  · rfl

lemma tells_notifiedIf (hwants : w.frameHandler = true → w.wants n = true) :
    w.Tells (if b then [n] else []) (w.notifiedIf b n) := by
  unfold notifiedIf
  split
  · exact tells_notified hwants
  · exact Tells.refl rfl rfl

/-- **The client knows a frame object** if the notes lead from its old phase to its new one. -/
lemma Knows.of_tells (h : w.Knows id) (htells : w.Tells notes w')
    (hnotes : w.frameHandler = true →
      monitored (FramePhase.next id) (w.frame id).phase notes = some (w'.frame id).phase) :
    w'.Knows id := by
  obtain ⟨p, hp, hphase⟩ := h
  unfold Knows knownPhase
  rw [htells.told, htells.frameHandler]
  cases hhandler : w.frameHandler with
  | false => exact ⟨p, hp, nofun⟩
  | true =>
    obtain rfl := hphase hhandler
    exact ⟨_, (monitored_append hp).trans (hnotes hhandler), fun _ => rfl⟩

/-! ## The invariant -/

structure Coherent (w : CefBrowserInfo A) : Prop where
  valid : ∀ id, (w.frame id).Valid
  uncreated : ∀ id, w.frameCount ≤ id → (w.frame id).isTemporary = true
  info_frame : ∀ info ∈ w.frameInfoSet, (w.frame info.frame).isTemporary = false
  main_frame : ∀ id, w.mainFrame = some id → (w.frame id).isTemporary = false

def Queued (w : CefBrowserInfo A) : Prop :=
  ∀ n ∈ w.notificationStateLock.getD [], w.browser = true ∧ ∀ id reattached, n ≠ .attached id reattached

structure Ordered (w : CefBrowserInfo A) : Prop where
  coherent : w.Coherent
  queued : w.Queued
  browser : w.frameHandler = true → w.browser = true
  knows : ∀ id, w.Knows id

def Presentable (id : FrameId) (w : CefBrowserInfo A) : Prop :=
  (w.frame id).isTemporary = false ∧ (w.frame id).browserInfo = true

lemma Coherent.of_frames (h : w.Coherent) (hvalid : ∀ id, (w'.frame id).Valid)
    (htemporary : ∀ id, (w'.frame id).isTemporary = (w.frame id).isTemporary)
    (hcount : w'.frameCount = w.frameCount)
    (hinfos : ∀ info ∈ w'.frameInfoSet, ∃ info' ∈ w.frameInfoSet, info'.frame = info.frame)
    (hmain : ∀ id, w'.mainFrame = some id → (w.frame id).isTemporary = false) : w'.Coherent where
  valid := hvalid
  uncreated id hid := (htemporary id).trans (h.uncreated id (hcount ▸ hid))
  info_frame info hinfo := by
    obtain ⟨info', hinfo', hframe⟩ := hinfos info hinfo
    rw [htemporary, ← hframe]
    exact h.info_frame info' hinfo'
  main_frame id hid := (htemporary id).trans (hmain id hid)

lemma Queued.notified (h : w.Queued) (hbrowser : w.frameHandler = true → w.browser = true)
    (hn : ∀ id reattached, n ≠ .attached id reattached) : (w.notified n).Queued := by
  intro n' hn'
  rw [notified_browser]
  unfold CefBrowserInfo.notified at hn'
  split at hn'
  · rename_i hhandler
    split at hn'
    · rename_i queue hqueue
      rcases mem_append.mp hn' with hold | hnew
      · exact h n' (by simpa [hqueue] using hold)
      · obtain rfl := mem_singleton.mp hnew
        exact ⟨hbrowser hhandler, hn⟩
    · rename_i hnone
      rw [executed_eq] at hn'
      exact h n' hn'
  · exact h n' hn'

lemma Queued.notifiedIf (h : w.Queued) (hbrowser : w.frameHandler = true → w.browser = true)
    (hn : ∀ id reattached, n ≠ .attached id reattached) : (w.notifiedIf b n).Queued := by
  unfold CefBrowserInfo.notifiedIf
  split
  · exact h.notified hbrowser hn
  · exact h

lemma Ordered.setFrame (h : w.Ordered) (hvalid : f.Valid)
    (hphase : f.phase = (w.frame id).phase) : (w.setFrame id f).Ordered := by
  have hframe : ∀ i, ((w.setFrame id f).frame i).Valid ∧
      ((w.setFrame id f).frame i).phase = (w.frame i).phase := by
    intro i
    by_cases hi : i = id
    · subst hi
      rw [setFrame_frame_self]
      exact ⟨hvalid, hphase⟩
    · rw [setFrame_frame_of_ne hi]
      exact ⟨h.coherent.valid i, rfl⟩
  refine ⟨?_, h.queued, h.browser, fun i => ?_⟩
  · exact h.coherent.of_frames (fun i => (hframe i).1)
      (fun i => isTemporary_eq_of_phase_eq (hframe i).2) rfl
      (fun info hinfo => ⟨info, hinfo, rfl⟩) h.coherent.main_frame
  · refine (h.knows i).of_tells (Tells.refl rfl rfl) fun _ => ?_
    rw [(hframe i).2]
    rfl

/-! ## Detaching, and the main frame -/

def detachNotes (isCurrentMainFrame : Bool) (id : FrameId) (f : CefFrameHostImpl A) :
    List FrameNotification :=
  (if !isCurrentMainFrame && f.browserInfo then [.destroyed id] else []) ++
    if f.renderFrame.isSome then [.detached id] else []

lemma tells_detachedNotifying (b : Bool) (id : FrameId) :
    w.Tells (detachNotes b id (w.frame id)) (w.detachedNotifying b id) := by
  have hset : w.Tells [] (w.setFrame id ((w.frame id).detached b)) := Tells.refl rfl rfl
  have hdetached := hset.trans (tells_notifiedIf (b := (w.frame id).renderFrame.isSome)
    (n := .detached id) fun _ => rfl)
  have hdestroyed := hdetached.trans (tells_notifiedIf
    (b := !b && (w.frame id).browserInfo) (n := .destroyed id) fun _ => rfl)
  rw [append_nil] at hdestroyed
  exact hdestroyed

lemma detachNotes_mentions (hi : i ≠ id) : ∀ n ∈ detachNotes b id f, ¬ n.Mentions i := by
  intro n hn
  have hcases : n = .destroyed id ∨ n = .detached id := by
    rcases mem_append.mp hn with hn | hn
    · split at hn
      · exact .inl (mem_singleton.mp hn)
      · exact absurd hn not_mem_nil
    · split at hn
      · exact .inr (mem_singleton.mp hn)
      · exact absurd hn not_mem_nil
  rcases hcases with rfl | rfl <;> exact Ne.symm hi

lemma monitored_detachNotes (hf : f.Valid) (htemporary : f.isTemporary = false) :
    monitored (FramePhase.next id) f.phase (detachNotes b id f) =
      some (f.detached b).phase := by
  have hunbound := hf.unbound
  unfold detachNotes CefFrameHostImpl.phase
  cases hinfo : f.browserInfo <;> cases hbound : f.renderFrame <;> cases b <;>
    simp_all [monitored, FramePhase.next, FramePhase.after, FrameNotification.Mentions]

lemma detachedNotifying_frame_self (b : Bool) (id : FrameId) :
    (w.detachedNotifying b id).frame id = (w.frame id).detached b := by
  rw [detachedNotifying_eq]
  exact Function.update_self ..

lemma detachedNotifying_frame_of_ne (b : Bool) (hi : i ≠ id) :
    (w.detachedNotifying b id).frame i = w.frame i := by
  rw [detachedNotifying_eq]
  exact Function.update_of_ne hi ..

lemma Coherent.detachedNotifying (h : w.Coherent) (b : Bool) (id : FrameId) :
    (w.detachedNotifying b id).Coherent := by
  refine h.of_frames (fun i => ?_) (fun i => ?_) ?_ ?_ ?_
  · by_cases hi : i = id
    · rw [hi, detachedNotifying_frame_self]
      exact CefFrameHostImpl.Valid.detached b
    · rw [detachedNotifying_frame_of_ne b hi]
      exact h.valid i
  · by_cases hi : i = id
    · rw [hi, detachedNotifying_frame_self, detached_isTemporary]
    · rw [detachedNotifying_frame_of_ne b hi]
  · rw [detachedNotifying_eq]
  · rw [detachedNotifying_eq]
    exact fun info hinfo => ⟨info, hinfo, rfl⟩
  · rw [detachedNotifying_eq]
    exact h.main_frame

lemma Queued.detachedNotifying (h : w.Queued) (hbrowser : w.frameHandler = true → w.browser = true)
    (b : Bool) (id : FrameId) : (w.detachedNotifying b id).Queued := by
  have hset : (w.setFrame id ((w.frame id).detached b)).Queued := h
  refine Queued.notifiedIf (hset.notifiedIf hbrowser ?_) ?_ ?_
  · exact nofun
  · simpa using hbrowser
  · exact nofun

lemma Ordered.detachedNotifying (h : w.Ordered) (b : Bool)
    (htemporary : (w.frame id).isTemporary = false) : (w.detachedNotifying b id).Ordered := by
  refine ⟨h.coherent.detachedNotifying b id, h.queued.detachedNotifying h.browser b id, ?_,
    fun i => ?_⟩
  · rw [detachedNotifying_eq]
    exact h.browser
  · refine (h.knows i).of_tells (tells_detachedNotifying b id) fun _ => ?_
    by_cases hi : i = id
    · rw [hi, detachedNotifying_frame_self]
      exact monitored_detachNotes (h.coherent.valid id) htemporary
    · rw [detachedNotifying_frame_of_ne b hi]
      exact monitored_of_not_mentions _ (detachNotes_mentions hi)

lemma monitored_mainFrameChanged {oldFrame : Option FrameId}
    (hold : oldFrame = some i → f.isTemporary = false)
    (hnew : newFrame = some i → f.isTemporary = false ∧ f.browserInfo = true) :
    monitored (FramePhase.next i) f.phase [.mainFrameChanged oldFrame newFrame] =
      some f.phase := by
  by_cases hi : newFrame = some i
  · obtain ⟨htemporary, hinfo⟩ := hnew hi
    unfold CefFrameHostImpl.phase
    cases f.renderFrame <;>
      simp [monitored, FramePhase.next, FramePhase.after, FrameNotification.Mentions, *]
  · by_cases hi' : oldFrame = some i
    · have htemporary := hold hi'
      unfold CefFrameHostImpl.phase
      cases f.renderFrame <;> cases f.browserInfo <;>
        simp [monitored, FramePhase.next, FramePhase.after, FrameNotification.Mentions, *]
    · refine monitored_of_not_mentions _ fun n hn => ?_
      rw [mem_singleton.mp hn]
      exact not_or.mpr ⟨hi', hi⟩

lemma Coherent.mainFrameChanged (h : w.Coherent)
    (hnew : ∀ id, newFrame = some id → (w.frame id).isTemporary = false) (n : FrameNotification) :
    ({ w with mainFrame := newFrame }.notified n).Coherent := by
  refine h.of_frames ?_ ?_ ?_ ?_ ?_
  · simpa using h.valid
  · simp
  · simp
  · simpa using fun info hinfo => ⟨info, hinfo, rfl⟩
  · simpa using hnew

lemma Ordered.mainFrameChanged (h : w.Ordered) {oldFrame : Option FrameId}
    (hold : ∀ id, oldFrame = some id → (w.frame id).isTemporary = false)
    (hnew : ∀ id, newFrame = some id → w.Presentable id) :
    ({ w with mainFrame := newFrame }.notified (.mainFrameChanged oldFrame newFrame)).Ordered := by
  have hqueued : { w with mainFrame := newFrame }.Queued := h.queued
  refine ⟨h.coherent.mainFrameChanged (fun id hid => (hnew id hid).1) _,
    hqueued.notified h.browser nofun, ?_, fun i => ?_⟩
  · simpa using h.browser
  · have htells := tells_notified (w := { w with mainFrame := newFrame })
      (n := .mainFrameChanged oldFrame newFrame) fun _ => rfl
    refine (h.knows i).of_tells ⟨htells.frameHandler, htells.told⟩ fun _ => ?_
    rw [notified_frame]
    exact monitored_mainFrameChanged (hold i) (hnew i)

lemma ne_of_not_isMainFrame {main : FrameId} (h : w.isMainFrame (some id) = false)
    (hmain : w.mainFrame = some main) : id ≠ main := by
  rintro rfl
  simp [isMainFrame, hmain] at h

lemma Ordered.mainFrameSet (h : w.Ordered)
    (hframe : ∀ id, frame = some id → w.Presentable id) : (w.mainFrameSet frame).Ordered := by
  unfold CefBrowserInfo.mainFrameSet
  split
  · exact h
  · rename_i hchanges
    have hother : w.isMainFrame frame = false := by simpa using hchanges
    unfold mainFrameDetached
    cases hmain : w.mainFrame with
    | none => exact h.mainFrameChanged nofun hframe
    | some old =>
      have hold := h.coherent.main_frame old hmain
      refine (h.detachedNotifying false hold).mainFrameChanged (fun id hid => ?_) fun id hid => ?_
      · rw [← some.inj hid, detachedNotifying_frame_self, detached_isTemporary]
        exact hold
      · subst hid
        have hne : id ≠ old := ne_of_not_isMainFrame hother hmain
        unfold Presentable
        rw [detachedNotifying_frame_of_ne false hne]
        exact hframe id rfl

lemma mainFrameSetIf_isTemporary (b : Bool) (frame : Option FrameId) (i : FrameId) :
    ((w.mainFrameSetIf b frame).frame i).isTemporary = (w.frame i).isTemporary := by
  unfold mainFrameSetIf mainFrameSet mainFrameDetached
  split
  · split
    · rfl
    · rw [notified_frame]
      split
      · rfl
      · rename_i old _
        by_cases hi : i = old
        · rw [hi, detachedNotifying_frame_self, detached_isTemporary]
        · rw [detachedNotifying_frame_of_ne false hi]
  · rfl

lemma Ordered.mainFrameSetIf (h : w.Ordered)
    (hframe : b = true → ∀ id, frame = some id → w.Presentable id) :
    (w.mainFrameSetIf b frame).Ordered := by
  unfold CefBrowserInfo.mainFrameSetIf
  split
  · rename_i hb
    exact h.mainFrameSet (hframe hb)
  · exact h

/-! ## The frame objects of a browser -/

lemma Ordered.withInfos (h : w.Ordered) {infos : List FrameInfo}
    (hinfos : ∀ info ∈ infos, (w.frame info.frame).isTemporary = false) :
    { w with frameInfoSet := infos }.Ordered where
  coherent :=
    { valid := h.coherent.valid
      uncreated := h.coherent.uncreated
      info_frame := hinfos
      main_frame := h.coherent.main_frame }
  queued := h.queued
  browser := h.browser
  knows := h.knows

lemma Ordered.updateInfo (h : w.Ordered) (id : GlobalRenderFrameHostId)
    {update : FrameInfo → FrameInfo} (hupdate : ∀ info, (update info).frame = info.frame) :
    (w.updateInfo id update).Ordered := by
  refine h.withInfos fun info hinfo => ?_
  obtain ⟨info', hinfo', hframe⟩ := updateInfo_frames hupdate info hinfo
  exact hframe ▸ h.coherent.info_frame info' hinfo'

lemma Coherent.lookup (h : w.Coherent) {id : GlobalRenderFrameHostId} {preferSpeculative : Bool}
    {f : FrameId} (hf : w.lookup id preferSpeculative = some f) :
    (w.frame f).isTemporary = false := by
  rcases lookup_cases hf with hmain | ⟨info, hinfo, rfl⟩
  · exact h.main_frame f hmain
  · exact h.info_frame info hinfo

lemma Ordered.frameCreated (h : w.Ordered) (host : RenderFrameHost) :
    (w.frameCreated host).Ordered ∧ (w.frameCreated host).Presentable w.frameCount := by
  have htemporary := h.coherent.uncreated w.frameCount le_rfl
  have hself : (w.frameCreated host).frame w.frameCount = .ofHost A host := by
    unfold CefBrowserInfo.frameCreated
    rw [notified_frame]
    exact setFrame_frame_self ..
  have hother : ∀ i, i ≠ w.frameCount → (w.frameCreated host).frame i = w.frame i := by
    intro i hi
    unfold CefBrowserInfo.frameCreated
    rw [notified_frame]
    exact setFrame_frame_of_ne hi _
  have hcount : (w.frameCreated host).frameCount = w.frameCount + 1 := by
    simp [CefBrowserInfo.frameCreated]
  have hpermanent : ∀ i, (w.frame i).isTemporary = false →
      ((w.frameCreated host).frame i).isTemporary = false := by
    intro i hi
    rw [hother i (by rintro rfl; simp [htemporary] at hi)]
    exact hi
  refine ⟨⟨⟨fun i => ?_, fun i hi => ?_, fun info hinfo => ?_, fun i hi => ?_⟩, ?_, ?_, fun i => ?_⟩, ?_⟩
  · by_cases hi : i = w.frameCount
    · rw [hi, hself]
      exact ⟨fun _ => rfl, by rintro ⟨⟩, by rintro ⟨⟩⟩
    · rw [hother i hi]
      exact h.coherent.valid i
  · rw [hcount] at hi
    rw [hother i (by omega)]
    exact h.coherent.uncreated i (by omega)
  · refine hpermanent _ (h.coherent.info_frame info ?_)
    simpa [CefBrowserInfo.frameCreated] using hinfo
  · refine hpermanent _ (h.coherent.main_frame i ?_)
    simpa [CefBrowserInfo.frameCreated] using hi
  · have hqueued : { w.setFrame w.frameCount (.ofHost A host) with
        frameCount := w.frameCount + 1 }.Queued := h.queued
    exact hqueued.notified h.browser (by rintro _ _ ⟨⟩)
  · simpa [CefBrowserInfo.frameCreated] using h.browser
  · have htells := tells_notified (n := .created w.frameCount)
      (w := { w.setFrame w.frameCount (.ofHost A host) with frameCount := w.frameCount + 1 })
      h.browser
    refine (h.knows i).of_tells ⟨htells.frameHandler, htells.told⟩ fun _ => ?_
    by_cases hi : i = w.frameCount
    · rw [hi, hself, phase_eq_unborn_iff.mpr htemporary]
      simp [monitored, FramePhase.next, FramePhase.after, FrameNotification.Mentions,
        CefFrameHostImpl.phase, CefFrameHostImpl.ofHost, CefFrameHostImpl.isTemporary]
    · rw [hother i hi]
      refine monitored_of_not_mentions _ fun n hn => ?_
      rw [mem_singleton.mp hn]
      exact Ne.symm hi
  · unfold Presentable
    rw [hself]
    exact ⟨rfl, rfl⟩

/-- The frame object is valid, or the locks keep it from being revived. -/
def Keeps (id : FrameId) (w : CefBrowserInfo A) : Bool :=
  (w.frame id).browserInfo || !w.reentrantLocks

lemma Ordered.maybeAttach (h : w.Ordered)
    (hkeeps : w.Keeps id = true) (htemporary : (w.frame id).isTemporary = false)
    (hattach : w.maybeAttach held host id = .ok w') : w'.Ordered ∧ w'.Presentable id := by
  rcases maybeAttach_eq_ok hattach with ⟨hhas, rfl⟩ | ⟨⟨_, hmay⟩, hlocks, rfl⟩
  · refine ⟨h, htemporary, ?_⟩
    by_contra hinfo
    have hnone := (h.coherent.valid id).released (by simpa using hinfo)
    simp [CefFrameHostImpl.hasHost, hnone] at hhas
  · have hinfo : (w.frame id).browserInfo = true := by
      simpa [Keeps, hlocks] using hkeeps
    have hunbound : (w.frame id).renderFrame = none := by
      simp only [CefFrameHostImpl.mayAttach, Bool.and_eq_true, isNone_iff_eq_none] at hmay
      exact hmay.1.2
    refine ⟨h.setFrame ⟨fun _ => hunbound, fun _ => hunbound, by rintro ⟨⟩⟩ ?_, ?_⟩
    · unfold CefFrameHostImpl.phase
      rw [hinfo]
      rfl
    · unfold Presentable
      rw [setFrame_frame_self]
      exact ⟨htemporary, rfl⟩

lemma Ordered.createOrReuseFrame (h : w.Ordered) {isSpeculative : Bool}
    (hkeeps : ∀ info, w.findInfo host.globalId = some info → w.Keeps info.frame = true)
    (hcreate : w.createOrReuseFrame host isSpeculative held = .ok w') : w'.Ordered := by
  rcases createOrReuseFrame_eq_ok hcreate with ⟨info, hinfo, hreuse⟩ | ⟨_, hcreate⟩
  · have htemporary := h.coherent.info_frame info (findInfo_mem hinfo)
    obtain ⟨w₁, hattach, hcases⟩ := reuseFrame_eq_ok hreuse
    obtain ⟨h₁, hpresentable⟩ := h.maybeAttach (hkeeps info hinfo) htemporary hattach
    rcases hcases with ⟨_, _, rfl⟩ | ⟨_, rfl⟩
    · refine (h₁.mainFrameSetIf fun _ id hid => ?_).updateInfo _ fun _ => rfl
      exact some.inj hid ▸ hpresentable
    · exact h₁
  · obtain ⟨_, rfl⟩ := createFrame_eq_ok hcreate
    obtain ⟨h₁, hpresentable⟩ := h.frameCreated host
    have h₂ : ((w.frameCreated host).mainFrameSetIf (host.parent.isNone && !isSpeculative)
        (some w.frameCount)).Ordered :=
      h₁.mainFrameSetIf fun _ id hid => some.inj hid ▸ hpresentable
    refine h₂.withInfos fun info hinfo => ?_
    rw [mainFrameSetIf_isTemporary]
    rcases mem_cons.mp hinfo with rfl | hold
    · exact hpresentable.1
    · refine h₁.coherent.info_frame info ?_
      simpa [CefBrowserInfo.frameCreated] using hold

lemma Ordered.removeInfo (h : w.Ordered)
    (hremove : w.removeInfo host held = .ok w') : w'.Ordered := by
  rcases removeInfo_eq_ok hremove with ⟨_, rfl⟩ | ⟨info, hinfo, _, _, rfl⟩
  · exact h
  · have hremoved : (w.infoRemoved host.globalId).Ordered :=
      h.withInfos fun info hinfo => h.coherent.info_frame info (mem_of_mem_filter hinfo)
    exact hremoved.detachedNotifying _ (h.coherent.info_frame info (findInfo_mem hinfo))

/-! ## Closing -/

lemma allDetached_frame : ∀ (infos : List FrameInfo) {w : CefBrowserInfo A},
    (∀ i, (w.frame i).Valid) → ∀ i, ((w.allDetached infos).frame i).Valid ∧
      (w.frame i).Detachment ((w.allDetached infos).frame i)
  | [], _, hvalid, i => ⟨hvalid i, .refl _⟩
  | info :: infos, w, hvalid, i => by
    have hframe : ∀ i, ((w.setFrame info.frame
        ((w.frame info.frame).detached info.isCurrentMainFrame)).frame i).Valid ∧
        (w.frame i).Detachment ((w.setFrame info.frame
          ((w.frame info.frame).detached info.isCurrentMainFrame)).frame i) := by
      intro i
      by_cases hi : i = info.frame
      · rw [hi, setFrame_frame_self]
        exact ⟨CefFrameHostImpl.Valid.detached _, detachment_detached _ _⟩
      · rw [setFrame_frame_of_ne hi]
        exact ⟨hvalid i, .refl _⟩
    obtain ⟨hvalid', hdetachment⟩ := allDetached_frame infos (fun i => (hframe i).1) i
    exact ⟨hvalid', (hframe i).2.trans hdetachment⟩

lemma monitored_closing {g : CefFrameHostImpl A} (hg : g.Valid)
    (htemporary : f.isTemporary = false) (h : f.Detachment g) :
    ∃ p, monitored (FramePhase.next id) f.phase
      (.mainFrameChanged (some id) none :: detachNotes false id g) = some p := by
  obtain ⟨_, hbound, hinfo⟩ := h
  have hunbound := hg.unbound
  unfold detachNotes CefFrameHostImpl.phase
  cases hf : f.browserInfo <;> cases hg : g.browserInfo <;> cases hfb : f.renderFrame <;>
    cases hgb : g.renderFrame <;>
    simp_all [monitored, FramePhase.next, FramePhase.after, FrameNotification.Mentions]

lemma mainFrameSetIf_none (w : CefBrowserInfo A) :
    (w.mainFrame = none ∧ w.mainFrameSetIf w.mainFrame.isSome none = w) ∨
      ∃ old, w.mainFrame = some old ∧ w.mainFrameSetIf w.mainFrame.isSome none =
        { w.detachedNotifying false old with mainFrame := none }.notified
          (.mainFrameChanged (some old) none) := by
  cases hmain : w.mainFrame with
  | none => exact .inl ⟨rfl, rfl⟩
  | some old =>
    refine .inr ⟨old, rfl, ?_⟩
    simp [mainFrameSetIf, mainFrameSet, mainFrameDetached, isMainFrame, hmain]

lemma Coherent.silenced (h : w.Coherent) (hqueued : w.Queued) (hmain : w.mainFrame = none)
    (hknown : ∀ id, ∃ p, w.knownPhase id = some p) :
    { w with frameInfoSet := [], frameHandler := false }.Ordered where
  coherent :=
    { valid := h.valid
      uncreated := h.uncreated
      info_frame := nofun
      main_frame := fun id hid => nomatch hmain ▸ hid }
  queued := hqueued
  browser := nofun
  knows id := by
    obtain ⟨p, hp⟩ := hknown id
    exact ⟨p, hp, nofun⟩

lemma Ordered.known_of_tells (h : w.Ordered) (htells : w.Tells notes w')
    (hnotes : ∃ p, monitored (FramePhase.next id) (w.frame id).phase notes = some p) :
    ∃ p, w'.knownPhase id = some p := by
  obtain ⟨p, hp, hphase⟩ := h.knows id
  obtain ⟨p', hp'⟩ := hnotes
  unfold knownPhase
  rw [htells.told]
  split
  · rename_i hhandler
    obtain rfl := hphase hhandler
    exact ⟨p', (monitored_append hp).trans hp'⟩
  · exact ⟨p, hp⟩

lemma Ordered.closeFrames (h : w.Ordered) (hclose : w.closeFrames held = .ok w') : w'.Ordered := by
  obtain ⟨w₁, hremove, rfl⟩ := closeFrames_eq_ok hclose
  obtain rfl := removeAllFrames_eq_ok hremove
  have hframe := allDetached_frame w.frameInfoSet (w := { w with isClosing := true })
    h.coherent.valid
  obtain ⟨w₂, hw₂⟩ : ∃ w₂, w₂ = { w with isClosing := true }.allDetached w.frameInfoSet := ⟨_, rfl⟩
  have hsame := allDetached_same w.frameInfoSet { w with isClosing := true }
  rw [← hw₂] at hframe hsame ⊢
  have hcoherent : w₂.Coherent := by
    refine h.coherent.of_frames (fun i => (hframe i).1) (fun i => (hframe i).2.isTemporary) ?_ ?_ ?_
    · rw [hsame]
    · rw [hsame]
      exact fun info hinfo => ⟨info, hinfo, rfl⟩
    · rw [hsame]
      exact h.coherent.main_frame
  have hqueued : w₂.Queued := by
    rw [hsame]
    exact h.queued
  have htells : w.Tells [] w₂ := by
    rw [hsame]
    exact Tells.refl rfl rfl
  have hbrowser : w₂.frameHandler = true → w₂.browser = true := by
    rw [hsame]
    exact h.browser
  rcases mainFrameSetIf_none w₂ with ⟨hnone, hset⟩ | ⟨old, hold, hset⟩
  · rw [hset]
    exact hcoherent.silenced hqueued hnone fun i => h.known_of_tells htells ⟨_, rfl⟩
  · rw [hset]
    have hdetached : { w₂.detachedNotifying false old with mainFrame := none }.Queued :=
      hqueued.detachedNotifying hbrowser false old
    have hdetachedBrowser : { w₂.detachedNotifying false old with mainFrame := none }.frameHandler =
        true → { w₂.detachedNotifying false old with mainFrame := none }.browser = true := by
      rw [detachedNotifying_eq]
      exact hbrowser
    have hremoved : ({ w₂.detachedNotifying false old with mainFrame := none }.notified
        (.mainFrameChanged (some old) none)).Coherent := by
      refine (hcoherent.detachedNotifying false old).mainFrameChanged ?_ _
      exact nofun
    refine hremoved.silenced (hdetached.notified hdetachedBrowser ?_) ?_ fun i => ?_
    · exact nofun
    · rw [notified_mainFrame]
    · have hchanged := tells_notified (n := .mainFrameChanged (some old) none)
        (w := { w₂.detachedNotifying false old with mainFrame := none }) fun _ => rfl
      have htold := (htells.trans (tells_detachedNotifying false old)).trans
        ⟨hchanged.frameHandler, hchanged.told⟩
      rw [append_nil] at htold
      refine h.known_of_tells htold ?_
      by_cases hi : i = old
      · subst hi
        refine monitored_closing (hframe i).1 ?_ (hframe i).2
        rw [← (hframe i).2.isTemporary]
        exact hcoherent.main_frame i hold
      · refine ⟨_, monitored_of_not_mentions _ fun n hn => ?_⟩
        rcases mem_append.mp hn with hn | hn
        · rw [mem_singleton.mp hn]
          exact not_or.mpr ⟨fun h => hi (some.inj h).symm, nofun⟩
        · exact detachNotes_mentions hi n hn

lemma drained_delivered : ∀ (queue : List FrameNotification) {w : CefBrowserInfo A},
    (∀ n ∈ queue, w.browser = true ∧ ∀ id reattached, n ≠ .attached id reattached) →
      (w.drained queue).delivered = queue.reverse ++ w.delivered
  | [], _, _ => rfl
  | n :: queue, w, hqueue => by
    have hwants : w.wants n = true := by
      obtain ⟨hbrowser, hattached⟩ := hqueue n mem_cons_self
      cases n with
      | created id => exact hbrowser
      | attached id reattached => exact absurd rfl (hattached id reattached)
      | _ => rfl
    have hexecuted : w.executed n = { w with delivered := n :: w.delivered } := if_pos hwants
    have hcons : w.drained (n :: queue) = (w.executed n).drained queue := rfl
    have hrest := drained_delivered queue (w := { w with delivered := n :: w.delivered })
      fun n' hn' => hqueue n' (mem_cons_of_mem n hn')
    rw [hcons, hexecuted, hrest]
    simp

section

variable (h : w.Ordered)
include h

lemma Ordered.unlocked :
    ({ w with notificationStateLock := none }.drained
      (w.notificationStateLock.getD [])).Ordered := by
  have hdelivered : ({ w with notificationStateLock := none }.drained
      (w.notificationStateLock.getD [])).delivered = w.told := drained_delivered _ h.queued
  rw [drained_eq, hdelivered]
  exact ⟨⟨h.coherent.valid, h.coherent.uncreated, h.coherent.info_frame, h.coherent.main_frame⟩,
    nofun, h.browser, h.knows⟩

lemma Ordered.underNotificationState {queue : List FrameNotification}
    {body : List FrameLock → CefBrowserInfo A → Except BrowserCrash (CefBrowserInfo A)}
    (hbody : ∀ held' w₁, { w with notificationStateLock := some [] }.Ordered →
      body held' { w with notificationStateLock := some [] } = .ok w₁ → w₁.Ordered)
    (hrun : w.underNotificationState held body = .ok (queue, w')) : (w'.drained queue).Ordered := by
  obtain ⟨hnone, held', w₁, hbodyRun, rfl, rfl⟩ := underNotificationState_eq_ok hrun
  refine Ordered.unlocked (hbody held' w₁ ⟨?_, nofun, h.browser, fun i => ?_⟩ hbodyRun)
  · exact ⟨h.coherent.valid, h.coherent.uncreated, h.coherent.info_frame, h.coherent.main_frame⟩
  · refine (h.knows i).of_tells (Tells.refl ?_ rfl) fun _ => rfl
    simp [told, hnone]

/-! ## Connections -/

lemma Ordered.of_change (hvalid : f.Valid)
    (htemporary : f.isTemporary = (w.frame id).isTemporary) (hmentions : ∀ i, n.Mentions i → i = id)
    (hnext : (w.frame id).phase.next id n = some f.phase)
    (hw' : w' = { w.setFrame id f with
      delivered := w'.delivered, notificationStateLock := w'.notificationStateLock })
    (hqueued : w'.Queued) (htells : w.Tells [n] w') : w'.Ordered := by
  have hself : w'.frame id = f := by
    rw [hw']
    exact setFrame_frame_self ..
  have hother : ∀ i, i ≠ id → w'.frame i = w.frame i := by
    intro i hi
    rw [hw']
    exact setFrame_frame_of_ne hi _
  refine ⟨?_, hqueued, ?_, fun i => ?_⟩
  · refine h.coherent.of_frames (fun i => ?_) (fun i => ?_) ?_ ?_ ?_
    · by_cases hi : i = id
      · rw [hi, hself]
        exact hvalid
      · rw [hother i hi]
        exact h.coherent.valid i
    · by_cases hi : i = id
      · rw [hi, hself]
        exact htemporary
      · rw [hother i hi]
    · rw [hw']
      rfl
    · rw [hw']
      exact fun info hinfo => ⟨info, hinfo, rfl⟩
    · rw [hw']
      exact h.coherent.main_frame
  · rw [hw']
    exact h.browser
  · refine (h.knows i).of_tells htells fun _ => ?_
    by_cases hi : i = id
    · rw [hi, hself]
      exact hnext
    · rw [hother i hi]
      refine monitored_of_not_mentions _ fun n' hn' => ?_
      rw [mem_singleton.mp hn']
      exact mt (hmentions i) hi

lemma Ordered.frameAttached (hnone : w.notificationStateLock = none)
    {attempt : Attempt} {reattached : Bool}
    (htemporary : (w.frame id).isTemporary = false) (hunbound : (w.frame id).renderFrame = none)
    (hattached : w.frameAttached held attempt reattached id = .ok w') : w'.Ordered := by
  rcases frameAttached_eq_ok hattached with ⟨_, rfl⟩ | ⟨hinfo, rfl⟩
  · exact h
  · have hwants : w.frameHandler = true →
        (w.setFrame id ((w.frame id).bound attempt)).wants (.attached id reattached) = true := by
      intro hhandler
      simp [wants, h.browser hhandler, CefFrameHostImpl.bound, hinfo]
    have htells := tells_notified (w := w.setFrame id ((w.frame id).bound attempt)) hwants
    have hqueue : ((w.setFrame id ((w.frame id).bound attempt)).notified
        (.attached id reattached)).notificationStateLock = none := by
      rw [← not_isSome_iff_eq_none, notified_isSome]
      simp [hnone]
    have hidle : (w.frame id).phase = .idle := by
      rw [phase_eq htemporary hinfo, hunbound]
      rfl
    have hlive : ((w.frame id).bound attempt).phase = .live :=
      phase_eq (f := (w.frame id).bound attempt) htemporary hinfo
    refine h.of_change (f := (w.frame id).bound attempt) (n := .attached id reattached) ?_ rfl ?_ ?_
      (notified_eq _) ?_ ⟨htells.frameHandler, htells.told⟩
    · exact ⟨fun ht => absurd (htemporary.symm.trans ht) nofun,
        fun hi => absurd (hinfo.symm.trans hi) nofun, fun hi => absurd (hinfo.symm.trans hi) nofun⟩
    · exact fun i hi => hi.symm
    · rw [hidle, hlive]
      simp [FramePhase.next, FramePhase.after, FrameNotification.Mentions]
    · intro n' hn'
      rw [hqueue] at hn'
      exact absurd hn' not_mem_nil

lemma Ordered.renderFrameDisconnect (hnone : w.notificationStateLock = none)
    (hbound : (w.frame id).renderFrame.isSome = true)
    (hdisconnect : w.onRenderFrameDisconnect held id = .ok w') :
    (w'.setFrame id (w'.frame id).unbound).Ordered := by
  obtain rfl := onRenderFrameDisconnect_eq_ok hdisconnect
  have hvalid := h.coherent.valid id
  have htemporary : (w.frame id).isTemporary = false := by
    by_contra ht
    simp [hvalid.temporary (by simpa using ht)] at hbound
  have hinfo : (w.frame id).browserInfo = true := by
    by_contra hi
    simp [hvalid.unbound (by simpa using hi)] at hbound
  rw [notifiedIf_frame, hinfo, Bool.true_and]
  have hlive : (w.frame id).phase = .live := by
    rw [phase_eq htemporary hinfo, if_pos hbound]
  have hidle : (w.frame id).unbound.phase = .idle :=
    phase_eq (f := (w.frame id).unbound) htemporary hinfo
  have htells : w.Tells [.detached id] (w.notifiedIf w.browser (.detached id)) := by
    cases hbrowser : w.browser with
    | true => exact tells_notified fun _ => rfl
    | false =>
      have hhandler : w.frameHandler = false := by
        by_contra hhandler
        simp [h.browser (by simpa using hhandler)] at hbrowser
      exact ⟨rfl, by simp [hhandler, notifiedIf]⟩
  have hqueue : (w.notifiedIf w.browser (.detached id)).notificationStateLock = none := by
    rw [← not_isSome_iff_eq_none, notifiedIf_isSome]
    simp [hnone]
  refine h.of_change (f := (w.frame id).unbound) (n := .detached id) ?_ rfl ?_ ?_ ?_ ?_
    ⟨htells.frameHandler, htells.told⟩
  · exact ⟨fun _ => rfl, fun _ => rfl, hvalid.released⟩
  · exact fun i hi => hi.symm
  · rw [hlive, hidle]
    simp [FramePhase.next, FramePhase.after, FrameNotification.Mentions]
  · unfold notifiedIf
    split
    · rw [notified_eq]
      rfl
    · rfl
  · intro n' hn'
    rw [setFrame_notificationStateLock, hqueue] at hn'
    exact absurd hn' not_mem_nil

/-! ## Runs -/

end

/-- The operation attaches unbound frame objects only. No frame object that has been destroyed gets a
host again, and the browser goes when nobody listens any more. -/
def Orderly (w : CefBrowserInfo A) : FrameOperation A → Bool
  | .maybeCreateFrame host isExcluded _ =>
    isExcluded || (w.findInfo host.globalId).all fun info => w.Keeps info.frame
  | .frameHostStateChanged host oldState newState =>
    !becomesActive oldState newState || (w.lookup host.globalId false).all w.Keeps
  | .frameAttached globalId _ _ =>
    (w.lookup globalId true).all fun id => (w.frame id).renderFrame.isNone
  | .browserDestroyed => !w.frameHandler
  | _ => true

section

variable (h : w.Ordered)
include h

lemma Ordered.setAlike (halike : (w.frame id).Alike f) : (w.setFrame id f).Ordered :=
  h.setFrame (halike.valid (h.coherent.valid id)) halike.phase

lemma Ordered.createTemporary (parent : FrameId) : (w.createTemporary parent).Ordered := by
  have htemporary := h.coherent.uncreated w.frameCount le_rfl
  have hset : (w.setFrame w.frameCount (.temporary A (w.frame parent).frameToken)).Ordered := by
    refine h.setFrame ⟨fun _ => rfl, nofun, nofun⟩ ?_
    rw [phase_eq_unborn_iff.mpr htemporary]
    rfl
  refine ⟨⟨hset.coherent.valid, fun i hi => ?_, hset.coherent.info_frame, hset.coherent.main_frame⟩,
    hset.queued, hset.browser, hset.knows⟩
  exact hset.coherent.uncreated i (Nat.le_of_succ_le hi)

lemma Ordered.frameHostStateChanged
    {oldState newState : LifecycleState} {queue : List FrameNotification}
    (horderly : w.Orderly (.frameHostStateChanged host oldState newState) = true)
    (hchange : w.frameHostStateChanged held host oldState newState = .ok (frame, queue, w')) :
    (w'.drained queue).Ordered := by
  rcases frameHostStateChanged_eq_ok hchange with
    ⟨_, rfl, _, rfl⟩ | ⟨id, w₁, hactive, hlookup, _, hattach, hcases⟩
  · exact h
  · have hkeeps : w.Keeps id = true := by
      simpa [Orderly, hactive, hlookup] using horderly
    obtain ⟨h₁, hpresentable⟩ := h.maybeAttach hkeeps (h.coherent.lookup hlookup) hattach
    rcases hcases with ⟨_, rfl, rfl⟩ | ⟨_, hset⟩
    · exact h₁
    · refine h₁.underNotificationState (fun held' w₂ h₀ hbody => ?_) hset
      obtain ⟨rfl, _⟩ := setMainFrame_eq_ok hbody
      exact h₀.mainFrameSet fun i hi => some.inj hi ▸ hpresentable

lemma Ordered.perform (hnone : w.notificationStateLock = none)
    {op : FrameOperation A} {performed : Performed A} (horderly : w.Orderly op = true)
    (hop : ∀ id, op ≠ .renderFrameDisconnect id) (hperform : w.perform op = .ok performed) :
    (performed.info.drained performed.queue).Ordered := by
  cases performs_of_ok hperform with
  | excluded => exact h
  | @created host isSpeculative queue info₀ hcreate =>
    refine h.underNotificationState (fun held' w₁ h₀ hbody => ?_) hcreate
    refine h₀.createOrReuseFrame (fun info hinfo => ?_) hbody
    have hfind : w.findInfo host.globalId = some info := hinfo
    have hkeeps : w.Keeps info.frame = true := by simpa [Orderly, hfind] using horderly
    exact hkeeps
  | stateChanged hchange => exact h.frameHostStateChanged horderly hchange
  | removed hremove =>
    exact h.underNotificationState (fun held' w₁ h₀ hbody => h₀.removeInfo hbody) hremove
  | closed hclose =>
    exact h.underNotificationState (fun held' w₁ h₀ hbody => h₀.closeFrames hbody) hclose
  | closing =>
    exact ⟨⟨h.coherent.valid, h.coherent.uncreated, h.coherent.info_frame, h.coherent.main_frame⟩,
      h.queued, h.browser, h.knows⟩
  | destroyed =>
    have hsilent : w.frameHandler = false := by simpa [Orderly] using horderly
    refine ⟨⟨h.coherent.valid, h.coherent.uncreated, h.coherent.info_frame, h.coherent.main_frame⟩,
      ?_, fun hhandler => absurd (hsilent.symm.trans hhandler) nofun, h.knows⟩
    intro n hn
    simp [CefBrowserInfo.drained, hnone] at hn
  | temporary parent => exact h.createTemporary parent
  | unhosted => exact h
  | refreshed hhost => exact h.setAlike (alike_refreshed _ _ _)
  | unknown => exact h
  | attached hlookup hattached =>
    refine h.frameAttached hnone (h.coherent.lookup hlookup) ?_ hattached
    simpa [Orderly, hlookup] using horderly
  | unbound => exact h
  | disconnected => exact absurd rfl (hop _)
  | sent => exact h.setAlike (alike_sendToRenderFrame _ _ _)
  | unloaded => exact h
  | loaded => exact h.setAlike (alike_sendToRenderFrame _ _ _)

lemma Ordered.step (hnone : w.notificationStateLock = none) {op : FrameOperation A}
    (horderly : w.Orderly op = true) (hstep : w.step op = .ok w') : w'.Ordered := by
  obtain ⟨performed, hperform, hconclude⟩ := step_eq_ok hstep
  by_cases hop : ∃ id, op = .renderFrameDisconnect id
  · obtain ⟨id, rfl⟩ := hop
    simp only [CefBrowserInfo.perform] at hperform
    split at hperform
    · rename_i hbound
      obtain ⟨info, hdisconnect, hperform⟩ := bind_eq_ok_iff.mp hperform
      cases hperform
      cases hconclude
      exact h.renderFrameDisconnect hnone hbound hdisconnect
    · cases hperform
      exact Except.ok.inj hconclude ▸ h
  · have h₁ := h.perform hnone horderly (fun id hid => hop ⟨id, hid⟩) hperform
    rcases conclude_eq_ok hconclude with
      ⟨host, oldState, newState, _, hupdate⟩ | ⟨lost, id, hlost, _, rfl⟩ | rfl
    · have hstopped : ((performed.info.drained performed.queue).stoppedLoading
          performed.frame).Ordered := by
        unfold stoppedLoading
        split
        · exact h₁
        · exact h₁.setAlike (alike_maybeSendDidStopLoading _)
      rcases updateBackForwardCache_eq_ok hupdate with rfl | rfl
      · exact hstopped
      · exact hstopped.updateInfo _ fun _ => rfl
    · exact absurd ⟨lost, hlost⟩ hop
    · exact h₁

end

lemma Ordered.create (frameHandler reentrantLocks : Bool) :
    (create A frameHandler reentrantLocks).Ordered where
  coherent := ⟨fun _ => ⟨fun _ => rfl, nofun, nofun⟩, fun _ _ => rfl, nofun, nofun⟩
  queued := nofun
  browser _ := rfl
  knows _ := ⟨.unborn, rfl, fun _ => rfl⟩

/-- **In an orderly run the client hears about every frame object in the documented order.**

**Proof sketch.** The notifications of every operation lead from the phases before it to those
behind it (`Ordered.step`), which can be read off the members of the frame objects.
`WebContentsDestroyed` detaches these in silence, but nothing is told any more behind it. -/
theorem lifecycle_ordered (frameHandler reentrantLocks : Bool) (ops : List (FrameOperation A))
    (h : Along (fun w op => (step w op).toOption) (fun w op => w.Orderly op = true)
      (create A frameHandler reentrantLocks) ops) :
    Always (fun w op => (step w op).toOption) (fun w => ∀ f, LifeCycle f w.delivered)
      (create A frameHandler reentrantLocks) ops := by
  have hordered := Along.always
    (I := fun w => w.Ordered ∧ w.notificationStateLock = none)
    (fun w op w' hw horderly hstep => by
      have hok := toOption_eq_some_iff.mp hstep
      exact ⟨hw.1.step hw.2 horderly hok, (step_same hw.2 hok).2⟩)
    ⟨Ordered.create frameHandler reentrantLocks, rfl⟩ h
  intro n w hw f
  obtain ⟨hw, hnone⟩ := hordered n w hw
  obtain ⟨p, hp, _⟩ := hw.knows f
  refine lifeCycle_of_monitored (p := p) ?_
  simpa [knownPhase, told, hnone] using hp

/-- The renderer process connects a main frame and a frame that replaces it, and the main frame loses
its connection in between. -/
theorem lifecycle_ordered_navigation :
    Always (fun w op => (step w op).toOption) (fun w => ∀ f, LifeCycle f w.delivered)
      (create Nat true false)
      [.maybeCreateFrame (mainHost 0) false false, .frameAttached (mainHost 0).globalId 0 false,
        .renderFrameDisconnect 0, .frameAttached (mainHost 0).globalId 1 true,
        .maybeCreateFrame (mainHost 1) false true, .maybeCreateFrame (mainHost 1) false false,
        .removeFrame (mainHost 0), .webContentsDestroyed, .browserDestroyed] :=
  lifecycle_ordered true false _ (by decide)

/-- A connection arrives before the old one is known to be lost, and the frame object is attached
twice. -/
theorem attached_twice :
    ∃ w, [FrameOperation.maybeCreateFrame (mainHost 0) false false,
        .frameAttached (mainHost 0).globalId 0 false, .frameAttached (mainHost 0).globalId 1 true,
        .renderFrameDisconnect 0].foldlM step (create Nat true false) = .ok w ∧
      w.delivered = [.detached 0, .attached 0 true, .attached 0 false, .mainFrameChanged none (some 0),
        .created 0] ∧
      ¬ LifeCycle 0 w.delivered := by
  refine ⟨_, rfl, rfl, fun h => ?_⟩
  have hattached : InOrder 0 (.attached 0 true) _ := h.2.1
  exact absurd (hattached.attached true rfl) nofun

end CefBrowserInfo

end CefCore.Frame
