import CefCore.Frame.FrameHostImpl
import CefCore.Frame.FrameImplConnection

/-!
# The command queues of a frame

`CefFrameHostImpl::SendToRenderFrame` and `CefFrameImpl::SendToBrowserFrame` execute an action when
the frame is connected, and queue it when it is not.

## Main results

* `command_queues_kept`: both sides do with their queues what an outbox does.
-/

namespace CefCore.Frame

open List Option Fallible Except CefFrameImpl CefFrameHostImpl RendererFrame Outbox Transition

open Outbox (Action)

variable {A : Type}

/-! ## The browser's side -/

namespace CefFrameHostImpl

section

variable (f : CefFrameHostImpl A)

def outbox : Outbox (String × RenderFrameAction A) where
  connected := f.renderFrame.isSome
  waiting := f.queuedRendererActions
  history := f.history

/-- An action is refused by a temporary frame object and by one without a host. -/
def send (functionName : String) (action : RenderFrameAction A) :
    Action (String × RenderFrameAction A) :=
  if f.isTemporary || f.renderFrameHost.isNone then .refuse (functionName, action)
  else .send (functionName, action)

/-- What an event means for the queue of a frame object. What waits is discarded by a complete
`Detach` and by nothing else. -/
def commands : Event A → List (Action (String × RenderFrameAction A))
  | .sendToRenderFrame functionName action => [f.send functionName action]
  | .maybeSendDidStopLoading =>
    if f.renderFrameHost.any (!·.sharesParentProcess) then
      [f.send "MaybeSendDidStopLoading" .didStopLoading]
    else []
  | .frameAttached _ => if f.browserInfo then [.attach] else []
  | .renderFrameDisconnect => if f.renderFrame.isSome then [.lose] else []
  | .maybeAttach _ => []
  | .refreshAttributes _ => []
  | .detach isCurrentMainFrame =>
    (if f.renderFrame.isSome then [.lose] else []) ++
      if isCurrentMainFrame then [] else [.discard]

lemma sendToRenderFrame_outbox (functionName : String) (action : RenderFrameAction A) :
    (f.sendToRenderFrame functionName action).outbox =
      f.outbox.act (f.send functionName action) := by
  unfold sendToRenderFrame send
  split
  · rfl
  · split
    · rename_i hunbound
      simp [outbox, act, isNone_iff_eq_none.mp hunbound]
    · rename_i hbound
      have hconnected : f.renderFrame.isSome = true := by
        simpa [isSome_iff_ne_none] using hbound
      simp [outbox, act, hconnected]

lemma unbound_outbox :
    f.unbound.outbox = (if f.renderFrame.isSome then [.lose] else []).foldl act f.outbox := by
  unfold unbound outbox
  cases hbound : f.renderFrame <;> simp [act]

end

theorem step_outbox {f f' : CefFrameHostImpl A} {e : Event A} (h : f.step e = some f') :
    f'.outbox = (f.commands e).foldl act f.outbox := by
  cases e with
  | sendToRenderFrame functionName action =>
    cases h
    exact sendToRenderFrame_outbox f functionName action
  | maybeSendDidStopLoading =>
    cases h
    unfold maybeSendDidStopLoading commands
    cases hhost : f.renderFrameHost with
    | none => rfl
    | some host =>
      cases hprocess : host.sharesParentProcess with
      | true => simp [hprocess]
      | false =>
        simp only [any_some, hprocess, Bool.not_false, Bool.false_eq_true, if_true, if_false,
          foldl_cons, foldl_nil]
        exact sendToRenderFrame_outbox f _ _
  | frameAttached attempt =>
    cases h
    unfold commands
    split <;> rfl
  | renderFrameDisconnect =>
    cases h
    exact unbound_outbox f
  | maybeAttach host =>
    simp only [step] at h
    split at h
    · cases h
      rfl
    · split at h
      · cases h
        rfl
      · exact nomatch h
  | refreshAttributes attributes =>
    simp only [step] at h
    split at h
    all_goals
      cases h
      rfl
  | detach isCurrentMainFrame =>
    simp only [step] at h
    split at h
    · cases h
      have hreleased : f.released.outbox = f.unbound.outbox := rfl
      simp only [commands, foldl_append, ← unbound_outbox, ← hreleased]
      cases isCurrentMainFrame <;> rfl
    · exact nomatch h

end CefFrameHostImpl

/-! ## The renderer's side -/

namespace CefFrameImpl

def outbox (s : CefFrameImpl A) : Outbox (String × A) where
  connected := s.connected
  waiting := s.queuedBrowserActions
  history := s.history

lemma connected_eq_false {s : CefFrameImpl A} (h : s.browserConnectionState ≠ .connectionAcked) :
    s.connected = false := by
  unfold connected
  rw [beq_false_of_ne h]
  rfl

lemma closePipes_outbox (s : CefFrameImpl A) :
    s.closePipes.outbox = (if s.connected then [.lose] else []).foldl act s.outbox := by
  unfold closePipes outbox
  cases hconnected : s.connected with
  | true => rfl
  | false => simp [connected]

lemma connectBrowserFrame_outbox {s s' : CefFrameImpl A} {reason : ConnectReason}
    (hstate : s.browserConnectionState ≠ .connectionAcked)
    (hrun : connectBrowserFrame reason s = .ok s') : s'.outbox = s.outbox := by
  have hdown := connected_eq_false hstate
  unfold outbox
  rw [hdown]
  rcases connectBrowserFrame_cases hrun with ⟨_, rfl⟩ | ⟨_, _, rfl⟩ <;> rfl

end CefFrameImpl

namespace RendererFrame

/-- What an event means for the queue of a frame in the renderer process. What waits is discarded
when the frame is denied or detached, and by nothing else. -/
def commands (w : RendererFrame A) : FrameImplEvent A → List (Action (String × A))
  | .sendToBrowserFrame functionName action =>
    if w.impl.frame.isNone || w.impl.attachDenied then [.refuse (functionName, action)]
    else [.send (functionName, action)]
  | .frameAttachedAck allow =>
    if w.unanswered.isNone then [] else if allow then [.attach] else [.discard]
  | .browserFrameDisconnect _ =>
    if w.impl.browserFrame.isSome && w.impl.connected then [.lose] else []
  | .renderFrameDisconnect _ =>
    if w.impl.receiver.isSome && w.impl.connected then [.lose] else []
  | .detached => (if w.impl.connected then [.lose] else []) ++ [.discard]
  | .didCommitProvisionalLoad | .wasShown | .retryTimer | .backForwardCache _ => []

section Methods

variable {w : RendererFrame A} {impl : CefFrameImpl A}

lemma Sound.disconnect_outbox (h : Sound w) {reason : DisconnectReason} {customReason : UInt32}
    {errorResult : MojoResult} (hbound : w.impl.browserFrame.isSome ∨ w.impl.receiver.isSome)
    (hrun : CefFrameImpl.onDisconnect reason customReason errorResult w.impl = .ok impl) :
    impl.outbox = (if w.impl.connected then [.lose] else []).foldl act w.impl.outbox := by
  rw [← closePipes_outbox]
  rcases onDisconnect_cases hrun with ⟨hstate, rfl⟩ | ⟨_, _, rfl⟩ | ⟨_, _, rfl⟩ |
      ⟨_, _, _, _, _, rfl⟩ | ⟨_, _, _, rfl⟩
  · rcases h.bound_state hbound with hpending | hacked
    · simp [hpending] at hstate
    · simp [hacked] at hstate
  all_goals rfl

lemma Sound.ack_outbox (h : Sound w) {allow : Bool}
    (hrun : CefFrameImpl.frameAttachedAck allow w.impl = .ok impl) :
    impl.outbox = w.impl.outbox.act (if allow then .attach else .discard) := by
  obtain ⟨hpending, ⟨rfl, rfl⟩ | ⟨rfl, rfl⟩⟩ := frameAttachedAck_cases hrun
  · have hdown : w.impl.connected = false :=
      connected_eq_false (by rw [hpending]; exact nofun)
    simp only [CefFrameImpl.outbox, act, hdown, Bool.false_eq_true, if_false]
    rfl
  · simp [CefFrameImpl.outbox, act, CefFrameImpl.connected, h.allowed hpending]

lemma Sound.detach_outbox (_ : Sound w) (hrun : CefFrameImpl.onDetached w.impl = .ok impl) :
    impl.outbox = (w.commands .detached).foldl act w.impl.outbox := by
  rw [commands, foldl_append, ← closePipes_outbox]
  unfold CefFrameImpl.onDetached at hrun
  split at hrun
  · cases hrun
  · obtain ⟨closed, hclosed, hrun⟩ := bind_eq_ok_iff.mp hrun
    cases hrun
    rcases onDisconnect_cases hclosed with ⟨hstate, rfl⟩ | ⟨_, hintended, _⟩ |
        ⟨_, _, rfl⟩ | ⟨_, hframe, _⟩ | ⟨_, hframe, _⟩
    · have hdown : w.impl.browserConnectionState = .disconnected := by simpa using hstate
      simp [CefFrameImpl.outbox, CefFrameImpl.closePipes, act, CefFrameImpl.connected, hdown]
    · cases hintended
    · rfl
    · cases hframe
    · cases hframe

lemma Sound.send_outbox (h : Sound w) {functionName : String} {action : A}
    (hrun : CefFrameImpl.sendToBrowserFrame functionName action w.impl = .ok impl) :
    impl.outbox = (w.commands (.sendToBrowserFrame functionName action)).foldl act
      w.impl.outbox := by
  unfold CefFrameImpl.sendToBrowserFrame at hrun
  split at hrun
  · rename_i hrefused
    have hcommands : w.commands (.sendToBrowserFrame functionName action) =
      [.refuse (functionName, action)] := if_pos hrefused
    cases hrun
    rw [hcommands]
    rfl
  · rename_i haccepted
    have hcommands : w.commands (.sendToBrowserFrame functionName action) =
      [.send (functionName, action)] := if_neg haccepted
    rw [hcommands, foldl_cons, foldl_nil]
    have hallowed : w.impl.attachDenied = false := by
      simp only [Bool.or_eq_true, not_or, Bool.not_eq_true] at haccepted
      exact haccepted.2
    split at hrun
    · rename_i hunacked
      cases hrun
      have hdown := connected_eq_false hunacked
      exact (if_neg (show ¬ w.impl.connected = true by simp [hdown])).symm
    · rename_i hacked
      rw [Decidable.not_not] at hacked
      have hbound := h.bound_iff.1.mpr (.inr hacked)
      rw [getBrowserFrame_eq_self hbound] at hrun
      dsimp only at hrun
      split at hrun
      · exact nomatch hrun
      · cases hrun
        have hup : w.impl.connected = true := by simp [CefFrameImpl.connected, hacked, hallowed]
        exact (if_pos hup).symm

end Methods

/-- **The code does with the queue of a frame what the event means for it.** -/
theorem deliver_outbox {w w' : RendererFrame A} {e : FrameImplEvent A} (h : Sound w)
    (hrun : w.deliver e = .ok w') :
    w'.impl.outbox = (w.commands e).foldl act w.impl.outbox := by
  cases e with
  | didCommitProvisionalLoad =>
    obtain ⟨impl, hmethod, rfl⟩ := run_eq_ok_iff.mp hrun
    unfold CefFrameImpl.onDidCommitProvisionalLoad at hmethod
    dsimp only at hmethod
    split at hmethod
    · rename_i hstate
      have hsame := connectBrowserFrame_outbox (by rw [hstate]; rintro ⟨⟩) hmethod
      exact hsame
    · exact ok.inj hmethod ▸ rfl
  | wasShown =>
    obtain ⟨impl, hmethod, rfl⟩ := run_eq_ok_iff.mp hrun
    unfold CefFrameImpl.onWasShown at hmethod
    dsimp only at hmethod
    split at hmethod
    · rename_i hstate
      have hsame := connectBrowserFrame_outbox (by rw [hstate.1]; rintro ⟨⟩) hmethod
      exact hsame
    · exact ok.inj hmethod ▸ rfl
  | retryTimer =>
    simp only [deliver] at hrun
    split at hrun
    · rename_i htimer
      obtain ⟨impl, hmethod, rfl⟩ := run_eq_ok_iff.mp hrun
      have hstate : w.impl.browserConnectionState ≠ .connectionAcked := by
        rcases h.timer_state htimer with hstate | hstate <;> rw [hstate] <;> rintro ⟨⟩
      have hsame := connectBrowserFrame_outbox hstate hmethod
      exact hsame
    · exact ok.inj hrun ▸ rfl
  | frameAttachedAck allow =>
    simp only [deliver] at hrun
    split at hrun
    · rename_i hnone
      cases hrun
      simp [commands, hnone]
    · rename_i attempt hanswers
      obtain ⟨impl, hmethod, rfl⟩ := run_eq_ok_iff.mp hrun
      have hack := h.ack_outbox hmethod
      cases allow <;> simpa [commands, hanswers] using hack
  | browserFrameDisconnect customReason =>
    simp only [deliver] at hrun
    split at hrun
    · rename_i hbound
      obtain ⟨impl, hmethod, rfl⟩ := run_eq_ok_iff.mp hrun
      simpa [commands, hbound] using h.disconnect_outbox (.inl hbound) hmethod
    · rename_i hunbound
      cases hrun
      simp [commands, hunbound]
  | renderFrameDisconnect customReason =>
    simp only [deliver] at hrun
    split at hrun
    · rename_i hbound
      obtain ⟨impl, hmethod, rfl⟩ := run_eq_ok_iff.mp hrun
      simpa [commands, hbound] using h.disconnect_outbox (.inr hbound) hmethod
    · rename_i hunbound
      cases hrun
      simp [commands, hunbound]
  | backForwardCache inCache =>
    exact ok.inj hrun ▸ rfl
  | detached =>
    obtain ⟨impl, hmethod, rfl⟩ := run_eq_ok_iff.mp hrun
    exact h.detach_outbox hmethod
  | sendToBrowserFrame functionName action =>
    obtain ⟨impl, hmethod, rfl⟩ := run_eq_ok_iff.mp hrun
    exact h.send_outbox hmethod

end RendererFrame

/-! ## Both sides -/

/-- The queue of a frame object has a kept history, and the next event does with it what it means. -/
structure CefFrameHostImpl.QueueKept (f : CefFrameHostImpl A) : Prop where
  kept : f.outbox.Sound
  next : ∀ e f', f.step e = some f' → f'.outbox = (f.commands e).foldl act f.outbox

/-- The queue of a frame in the renderer process has a kept history, and the next event does with it
what it means. -/
structure RendererFrame.QueueKept (w : RendererFrame A) : Prop where
  kept : w.impl.outbox.Sound
  next : ∀ e w', w.step e = some w' →
    w'.impl.outbox = (w.commands e).foldl act w.impl.outbox

lemma CefFrameHostImpl.fresh_sound {f : CefFrameHostImpl A} (hunbound : f.renderFrame = none)
    (hwaiting : f.queuedRendererActions = []) (hhistory : f.history = []) : f.outbox.Sound := by
  unfold outbox
  rw [hunbound, hwaiting, hhistory]
  exact Kept.nil

/-- **The command queues of a frame are kept on both sides**, in every run of a frame object and of
a frame in the renderer process. An action is refused, or what waits is discarded, only as
`commands` says.

**Proof sketch.** The history of an outbox is kept whatever happens to it (`Outbox.kept_foldl`), and
the code does to the queue what happens to an outbox. On the renderer's side this uses that the
frame is sound: a disconnect finds the state that belongs to a bound pipe. -/
theorem command_queues_kept (A : Type) :
    (∀ (host : RenderFrameHost) (es : List (CefFrameHostImpl.Event A)),
      Always CefFrameHostImpl.step CefFrameHostImpl.QueueKept (.ofHost A host) es) ∧
    (∀ (parent : Option Browser.GlobalToken) (es : List (CefFrameHostImpl.Event A)),
      Always CefFrameHostImpl.step CefFrameHostImpl.QueueKept (.temporary A parent) es) ∧
    ∀ (frame : WebLocalFrame) (es : List (FrameImplEvent A)),
      Always RendererFrame.step RendererFrame.QueueKept (.create A frame) es := by
  have hhost : ∀ (f : CefFrameHostImpl A) (es : List (CefFrameHostImpl.Event A)),
      f.outbox.Sound → Always CefFrameHostImpl.step CefFrameHostImpl.QueueKept f es := by
    intro f es hf n f' hrun
    have hkept := run_invariant (I := fun f => f.outbox.Sound)
      (fun f e f' h hstep => by
        rw [step_outbox hstep]
        exact kept_foldl h _) hf hrun
    exact ⟨hkept, fun e f'' hstep => step_outbox hstep⟩
  refine ⟨fun host es => hhost _ es (fresh_sound rfl rfl rfl),
    fun parent es => hhost _ es (fresh_sound rfl rfl rfl),
    fun frame es n w hrun => ?_⟩
  have hboth := run_invariant
    (I := fun w : RendererFrame A => w.Sound ∧ w.impl.outbox.Sound)
    (fun w e w' h hstep => by
      have hdeliver := toOption_eq_some_iff.mp hstep
      refine ⟨deliver_sound h.1 hdeliver, ?_⟩
      rw [deliver_outbox h.1 hdeliver]
      exact kept_foldl h.2 _)
    ⟨create_sound frame, Kept.nil⟩ hrun
  exact ⟨hboth.2, fun e w' hstep =>
    deliver_outbox hboth.1 (toOption_eq_some_iff.mp hstep)⟩

end CefCore.Frame
