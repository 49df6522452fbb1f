import CefCore.Frame.FrameHostImpl
import CefCore.Frame.FrameImplConnection

/-!
# The connection between a frame and its frame object

A `CefFrameImpl` connects to a `CefFrameHostImpl` in the browser process. Each attempt has two
pipes. The one to the browser process carries `FrameAttached`, and with it the other pipe, over
which the browser process answers. A pipe delivers its messages in order and the end of the
connection behind them; different pipes have nothing to do with each other.

## Main results

* `attachment_agreed`: the two processes agree on the connection if `FrameAttached` does not
  overtake what is left of the earlier attempts.

## Implementation notes

* A message to a pipe that the other side has closed is dropped when it arrives. A disconnect handler
  belongs to the binding of a pipe and goes with it.
* `mojo::Remote::Bind` expects a remote that is not bound. Here it closes the pipe that is bound.
* Whether `FrameAttached` finds the frame object is up to the run. So is when the browser process
  closes a pipe.
-/

namespace CefCore.Frame

open List Option Fallible Except RendererFrame CefFrameImpl Transition

/-- What `CefBrowserFrame::GetFrameHost` finds. -/
inductive FrameHostLookup where
  | found
  | notFound
  | excluded

/-- What is on its way to the renderer process, over a pipe of an attempt. -/
inductive RendererMessage where
  | frameAttachedAck (attempt : Attempt) (allow : Bool)
  /-- The end of the pipe that `FrameAttached` came over. -/
  | browserFrameClosed (attempt : Attempt) (customReason : UInt32)
  /-- The end of the pipe of the acknowledgement. -/
  | renderFrameClosed (attempt : Attempt) (customReason : UInt32)
  deriving DecidableEq

/-- A frame in the renderer process, its frame object in the browser process, and what is on its way
between them. -/
structure FrameAttachment (A : Type) where
  renderer : RendererFrame A
  host : CefFrameHostImpl A
  /-- The attempts whose `FrameAttached` has not arrived. -/
  requests : List Attempt := []
  inbox : List RendererMessage := []
  /-- The attempts that were bound, with what was bound before, newest first. -/
  bindings : List (Attempt × Option Attempt) := []

def FrameImplEvent.isLocal {A : Type} : FrameImplEvent A → Bool
  | .frameAttachedAck _ | .browserFrameDisconnect _ | .renderFrameDisconnect _ => false
  | _ => true

/-- Something happens to the frame object in the browser process. -/
def CefFrameHostImpl.Event.isLocal {A : Type} : CefFrameHostImpl.Event A → Bool
  | .frameAttached _ | .renderFrameDisconnect => false
  | _ => true

inductive AttachmentEvent (A : Type) where
  | renderer (e : FrameImplEvent A)
  | host (e : CefFrameHostImpl.Event A)
  /-- `FrameAttached` of an attempt arrives in the browser process. -/
  | frameAttached (attempt : Attempt) (lookup : FrameHostLookup)
  /-- The browser process closes the pipe that `FrameAttached` comes over. -/
  | closeBrowserFrame (attempt : Attempt) (customReason : UInt32)
  /-- A message arrives in the renderer process. -/
  | deliver (m : RendererMessage)
  /-- The end of the pipe of the acknowledgement arrives in the browser process. -/
  | renderFrameDisconnect (attempt : Attempt)

namespace RendererFrame

variable {A : Type} {w w' : RendererFrame A}

def Moves (w w' : RendererFrame A) : Prop :=
  w'.answered = w.answered ∧
    (w'.impl.attempts = w.impl.attempts ∧
        (w'.impl.receiver = w.impl.receiver ∨ w'.impl.receiver = none) ∨
      w'.impl.attempts = w.impl.attempts + 1 ∧ w'.impl.receiver = some w.impl.attempts)

lemma moves_connect {reason : ConnectReason} {impl impl' : CefFrameImpl A}
    (h : CefFrameImpl.connectBrowserFrame reason impl = .ok impl')
    (hattempts : impl.attempts = w.impl.attempts) (hreceiver : impl.receiver = w.impl.receiver) :
    w.Moves { w with impl := impl' } := by
  rcases connectBrowserFrame_cases h with ⟨_, rfl⟩ | ⟨_, _, rfl⟩
  · exact ⟨rfl, .inl ⟨hattempts, .inl hreceiver⟩⟩
  · exact ⟨rfl, .inr ⟨congrArg (· + 1) hattempts, congrArg some hattempts⟩⟩

lemma onDisconnect_pipes {reason : DisconnectReason} {customReason : UInt32} {result : MojoResult}
    {impl impl' : CefFrameImpl A}
    (h : CefFrameImpl.onDisconnect reason customReason result impl = .ok impl') :
    impl'.attempts = impl.attempts ∧
      ((impl.browserConnectionState = .reconnectPending ∨
          impl.browserConnectionState = .disconnected) ∧ impl' = impl ∨
        impl'.receiver = none) := by
  rcases onDisconnect_cases h with
    ⟨hstate, rfl⟩ | ⟨_, _, rfl⟩ | ⟨_, _, rfl⟩ | ⟨_, _, _, _, _, rfl⟩ | ⟨_, _, _, rfl⟩
  · exact ⟨rfl, .inl ⟨hstate.imp_left (·.2), rfl⟩⟩
  all_goals exact ⟨rfl, .inr rfl⟩

lemma deliver_moves {e : FrameImplEvent A} (hlocal : e.isLocal = true)
    (h : w.deliver e = .ok w') : w.Moves w' := by
  cases e with
  | didCommitProvisionalLoad =>
    obtain ⟨impl, hmethod, rfl⟩ := run_eq_ok_iff.mp h
    unfold CefFrameImpl.onDidCommitProvisionalLoad at hmethod
    dsimp only at hmethod
    split at hmethod
    · exact moves_connect hmethod rfl rfl
    · exact ok.inj hmethod ▸ ⟨rfl, .inl ⟨rfl, .inl rfl⟩⟩
  | wasShown =>
    obtain ⟨impl, hmethod, rfl⟩ := run_eq_ok_iff.mp h
    unfold CefFrameImpl.onWasShown at hmethod
    dsimp only at hmethod
    split at hmethod
    · exact moves_connect hmethod rfl rfl
    · exact ok.inj hmethod ▸ ⟨rfl, .inl ⟨rfl, .inl rfl⟩⟩
  | retryTimer =>
    simp only [deliver] at h
    split at h
    · obtain ⟨impl, hmethod, rfl⟩ := run_eq_ok_iff.mp h
      exact moves_connect hmethod rfl rfl
    · exact ok.inj h ▸ ⟨rfl, .inl ⟨rfl, .inl rfl⟩⟩
  | backForwardCache inCache => exact ok.inj h ▸ ⟨rfl, .inl ⟨rfl, .inl rfl⟩⟩
  | detached =>
    obtain ⟨impl, hmethod, rfl⟩ := run_eq_ok_iff.mp h
    unfold CefFrameImpl.onDetached at hmethod
    split at hmethod
    · cases hmethod
    · obtain ⟨closed, hclosed, hmethod⟩ := bind_eq_ok_iff.mp hmethod
      cases hmethod
      obtain ⟨hattempts, ⟨_, rfl⟩ | hnone⟩ := onDisconnect_pipes hclosed
      · exact ⟨rfl, .inl ⟨rfl, .inl rfl⟩⟩
      · exact ⟨rfl, .inl ⟨hattempts, .inr hnone⟩⟩
  | sendToBrowserFrame functionName action =>
    obtain ⟨impl, hmethod, rfl⟩ := run_eq_ok_iff.mp h
    unfold CefFrameImpl.sendToBrowserFrame at hmethod
    split at hmethod
    · exact ok.inj hmethod ▸ ⟨rfl, .inl ⟨rfl, .inl rfl⟩⟩
    · split at hmethod
      · exact ok.inj hmethod ▸ ⟨rfl, .inl ⟨rfl, .inl rfl⟩⟩
      · rw [getBrowserFrame_eq] at hmethod
        dsimp only at hmethod
        split at hmethod
        · cases hmethod
        · exact ok.inj hmethod ▸ ⟨rfl, .inl ⟨rfl, .inl rfl⟩⟩
  | frameAttachedAck allow | browserFrameDisconnect customReason
  | renderFrameDisconnect customReason => cases hlocal

lemma deliver_disconnect (h : w.Sound) {customReason : UInt32}
    (hbound : w.impl.browserFrame.isSome ∨ w.impl.receiver.isSome)
    (hrun : w.deliver (.browserFrameDisconnect customReason) = .ok w' ∧ w.impl.browserFrame.isSome ∨
      w.deliver (.renderFrameDisconnect customReason) = .ok w' ∧ w.impl.receiver.isSome) :
    w'.answered = w.answered ∧ w'.impl.attempts = w.impl.attempts ∧ w'.impl.receiver = none := by
  have hmethod : ∃ reason, w.run (CefFrameImpl.onDisconnect reason customReason MOJO_RESULT_OK) =
      .ok w' := by
    rcases hrun with ⟨hrun, hsome⟩ | ⟨hrun, hsome⟩
    · simp only [deliver] at hrun
      rw [if_pos hsome] at hrun
      exact ⟨_, hrun⟩
    · simp only [deliver] at hrun
      rw [if_pos hsome] at hrun
      exact ⟨_, hrun⟩
  obtain ⟨reason, hmethod⟩ := hmethod
  obtain ⟨impl, hdisconnect, rfl⟩ := run_eq_ok_iff.mp hmethod
  obtain ⟨hattempts, ⟨hstate, _⟩ | hnone⟩ := onDisconnect_pipes hdisconnect
  · rcases h.bound_state hbound with hpending | hacked
    · simp [hpending] at hstate
    · simp [hacked] at hstate
  · exact ⟨rfl, hattempts, hnone⟩

lemma Sound.receiver_last (h : w.Sound) {n : Attempt} (hreceiver : w.impl.receiver = some n) :
    w.impl.browserFrame = some n ∧ n + 1 = w.impl.attempts ∧
      (w.impl.browserConnectionState = .connectionAcked ↔ n ∈ w.answered) := by
  have hpipes := h.pipes
  unfold Pipes at hpipes
  rcases h.bound_state (.inr (by rw [hreceiver]; rfl)) with hpending | hacked
  · rw [hpending] at hpipes ⊢
    obtain ⟨m, hframe, hm, hnew, hlast⟩ := hpipes
    obtain rfl := some.inj (hreceiver.symm.trans hm)
    exact ⟨hframe, hlast, iff_of_false nofun hnew⟩
  · rw [hacked] at hpipes ⊢
    obtain ⟨m, hframe, hm, hold, hlast⟩ := hpipes
    obtain rfl := some.inj (hreceiver.symm.trans hm)
    exact ⟨hframe, hlast, iff_of_true rfl hold⟩

lemma deliver_ack {allow : Bool} {n : Attempt} (hreceiver : w.impl.receiver = some n)
    (h : w.deliver (.frameAttachedAck allow) = .ok w') :
    w'.impl.attempts = w.impl.attempts ∧ w'.impl.receiver = some n ∧ n ∈ w'.answered := by
  simp only [deliver] at h
  split at h
  · rename_i hnone
    cases h
    refine ⟨rfl, hreceiver, ?_⟩
    by_contra hnew
    simp [unanswered, hreceiver, Option.filter, hnew] at hnone
  · rename_i attempt hanswers
    have hattempt : n = attempt := by
      rw [unanswered, filter_eq_some_iff, hreceiver] at hanswers
      exact some.inj hanswers.1
    subst hattempt
    obtain ⟨impl, hmethod, rfl⟩ := run_eq_ok_iff.mp h
    obtain ⟨_, ⟨_, rfl⟩ | ⟨_, rfl⟩⟩ := frameAttachedAck_cases hmethod <;>
      exact ⟨rfl, hreceiver, mem_cons_self⟩

end RendererFrame

lemma CefFrameHostImpl.step_renderFrame {A : Type} {f f' : CefFrameHostImpl A}
    {e : CefFrameHostImpl.Event A} (hlocal : e.isLocal = true) (h : f.step e = some f') :
    f'.renderFrame = f.renderFrame ∨ f'.renderFrame = none := by
  have hsend : ∀ functionName action,
      (f.sendToRenderFrame functionName action).renderFrame = f.renderFrame := by
    intro functionName action
    rcases f.send_cases functionName action with ⟨_, heq⟩ | ⟨_, heq⟩ | ⟨_, heq⟩ <;> rw [heq]
  cases e with
  | sendToRenderFrame functionName action => exact some.inj h ▸ .inl (hsend _ _)
  | maybeSendDidStopLoading =>
    refine some.inj h ▸ .inl ?_
    unfold maybeSendDidStopLoading
    split
    · rfl
    · split
      · rfl
      · exact hsend _ _
  | maybeAttach host =>
    simp only [step] at h
    split at h
    · exact some.inj h ▸ .inl rfl
    · split at h
      · exact some.inj h ▸ .inl rfl
      · exact nomatch h
  | refreshAttributes attributes =>
    simp only [step] at h
    split at h <;> exact some.inj h ▸ .inl rfl
  | detach isCurrentMainFrame =>
    simp only [step] at h
    split at h
    · refine some.inj h ▸ .inr ?_
      cases isCurrentMainFrame <;> rfl
    · exact nomatch h
  | frameAttached attempt | renderFrameDisconnect => exact nomatch hlocal

namespace FrameAttachment

variable {A : Type}

/-- A frame and a frame object before anything has happened to them. -/
def create (A : Type) (frame : WebLocalFrame) (host : RenderFrameHost) : FrameAttachment A :=
  { renderer := RendererFrame.create A frame, host := .ofHost A host }

/-- The browser process lets go of the pipe of an attempt. -/
def dropped (attempt : Attempt) (reason : ResetReason) (s : FrameAttachment A) :
    FrameAttachment A :=
  { s with inbox := .renderFrameClosed attempt reason.toUInt32 :: s.inbox }

/-- The remote of the frame object is bound to an attempt, which is acknowledged. -/
def bound (attempt : Attempt) (s : FrameAttachment A) : FrameAttachment A :=
  { s with
    host := s.host.bound attempt
    inbox := .frameAttachedAck attempt true ::
      (s.host.renderFrame.toList.map fun old =>
        .renderFrameClosed old ResetReason.kNoReason.toUInt32) ++ s.inbox
    bindings := (attempt, s.host.renderFrame) :: s.bindings }

def receive (s : FrameAttachment A) : RendererMessage → Except FrameImplCrash (RendererFrame A)
  | .frameAttachedAck attempt allow =>
    if s.renderer.impl.receiver = some attempt then
      s.renderer.deliver (.frameAttachedAck allow)
    else .ok s.renderer
  | .browserFrameClosed attempt customReason =>
    if s.renderer.impl.browserFrame = some attempt then
      s.renderer.deliver (.browserFrameDisconnect customReason)
    else .ok s.renderer
  | .renderFrameClosed attempt customReason =>
    if s.renderer.impl.receiver = some attempt then
      s.renderer.deliver (.renderFrameDisconnect customReason)
    else .ok s.renderer

/-- Nothing is in front of the message in its pipe. -/
def isNext (m : RendererMessage) (s : FrameAttachment A) : Bool :=
  match m with
  | .renderFrameClosed attempt _ =>
    s.inbox.all fun m' => m' != .frameAttachedAck attempt true && m' != .frameAttachedAck attempt false
  | _ => true

def step (s : FrameAttachment A) : AttachmentEvent A → Option (FrameAttachment A)
  | .renderer e =>
    if !e.isLocal then none
    else do
      let renderer ← (s.renderer.deliver e).toOption
      some { s with
        renderer
        requests :=
          if renderer.impl.attempts = s.renderer.impl.attempts then s.requests
          else s.renderer.impl.attempts :: s.requests }
  | .host e =>
    if !e.isLocal then none
    else do
      let host ← s.host.step e
      some { s with
        host
        inbox :=
          match s.host.renderFrame, host.renderFrame with
          | some old, none => .renderFrameClosed old ResetReason.kDetached.toUInt32 :: s.inbox
          | _, _ => s.inbox }
  | .frameAttached attempt lookup =>
    if attempt ∉ s.requests then none
    else
      let s := { s with requests := s.requests.erase attempt }
      match lookup with
      | .found => some (if s.host.browserInfo then s.bound attempt else s.dropped attempt .kNoReason)
      | .notFound => some (s.dropped attempt .kNoReason)
      | .excluded =>
        let s := s.dropped attempt .kExcluded
        some { s with inbox := .frameAttachedAck attempt false :: s.inbox }
  | .closeBrowserFrame attempt customReason =>
    if s.renderer.impl.attempts ≤ attempt then none
    else
      -- A message that has not been read is gone, and the pipe in it.
      let s' := if attempt ∈ s.requests then s.dropped attempt .kNoReason else s
      some { s' with
        requests := s.requests.erase attempt
        inbox := .browserFrameClosed attempt customReason :: s'.inbox }
  | .deliver m =>
    if m ∉ s.inbox || !s.isNext m then none
    else do
      let renderer ← (s.receive m).toOption
      some { s with renderer, inbox := s.inbox.erase m }
  | .renderFrameDisconnect attempt =>
    if s.renderer.impl.receiver = some attempt then none
    else if s.host.renderFrame = some attempt then some { s with host := s.host.unbound }
    else some s

/-! ## The promise -/

/-- `FrameAttached` of an attempt, or the end of its connection, is on its way to the browser
process. -/
def Travels (s : FrameAttachment A) (attempt : Attempt) : Prop :=
  attempt ∈ s.requests ∨
    s.host.renderFrame = some attempt ∧ s.renderer.impl.receiver ≠ some attempt

instance (s : FrameAttachment A) (attempt : Attempt) : Decidable (s.Travels attempt) :=
  inferInstanceAs (Decidable (_ ∨ _))

/-- When a frame object is attached, then nothing of an earlier attempt is on its way. -/
def InTurn (s : FrameAttachment A) : AttachmentEvent A → Prop
  | .frameAttached attempt .found =>
    s.host.browserInfo = true → ∀ earlier < attempt, ¬ s.Travels earlier
  | _ => True

instance (s : FrameAttachment A) (e : AttachmentEvent A) : Decidable (s.InTurn e) := by
  unfold InTurn
  split <;> infer_instance

def Quiescent (s : FrameAttachment A) : Prop :=
  s.inbox = [] ∧ ∀ attempt, ¬ s.Travels attempt

structure Agreed (s : FrameAttachment A) : Prop where
  /-- The remote was never bound when it was bound. -/
  bound_once : ∀ b ∈ s.bindings, b.2 = none
  /-- The end of an old connection leaves a newer one as it is, in either process. -/
  late_browserSide : ∀ old new s', s.step (.renderFrameDisconnect old) = some s' → new ≠ old →
    s.host.renderFrame = some new → s'.host.renderFrame = some new
  late_rendererSide : ∀ m old new customReason s',
    m = .browserFrameClosed old customReason ∨ m = .renderFrameClosed old customReason →
    s.step (.deliver m) = some s' → new ≠ old → s.renderer.impl.receiver = some new →
    s'.renderer = s.renderer
  /-- When nothing is on its way, then the two processes agree. -/
  quiescent : s.Quiescent → ∀ attempt, s.host.renderFrame = some attempt ↔
    s.renderer.impl.browserConnectionState = .connectionAcked ∧
      s.renderer.impl.receiver = some attempt

structure Sound (s : FrameAttachment A) : Prop where
  renderer : s.renderer.Sound
  nodup : s.requests.Nodup
  requests_lt : ∀ n ∈ s.requests, n < s.renderer.impl.attempts
  bound_lt : ∀ n, s.host.renderFrame = some n → n < s.renderer.impl.attempts
  /-- The attempts that have not arrived are newer than the one that is bound. -/
  behind : ∀ m, s.host.renderFrame = some m → ∀ n ∈ s.requests, m < n
  bindings : ∀ b ∈ s.bindings, b.2 = none
  /-- The browser process has the other end of the pipe, or has let it go. -/
  live : ∀ n, s.renderer.impl.receiver = some n → n ∈ s.requests ∨ s.host.renderFrame = some n ∨
    ∃ customReason, .renderFrameClosed n customReason ∈ s.inbox
  pending : ∀ n, s.renderer.impl.receiver = some n → n ∉ s.renderer.answered →
    n ∈ s.requests ∨ (∃ allow, .frameAttachedAck n allow ∈ s.inbox) ∨
      ∃ customReason, .renderFrameClosed n customReason ∈ s.inbox

section Steps

variable {s s' : FrameAttachment A}

lemma create_sound (frame : WebLocalFrame) (host : RenderFrameHost) :
    (create A frame host).Sound where
  renderer := RendererFrame.create_sound frame
  nodup := nodup_nil
  requests_lt := nofun
  bound_lt := nofun
  behind := nofun
  bindings := nofun
  live := nofun
  pending := nofun

lemma Sound.renderer_step (h : s.Sound) {e : FrameImplEvent A}
    (hstep : s.step (.renderer e) = some s') : s'.Sound := by
  simp only [step] at hstep
  split at hstep
  · exact nomatch hstep
  · rename_i hlocal
    obtain ⟨renderer, hdeliver, hs'⟩ := bind_eq_some_iff.mp hstep
    cases hs'
    rw [toOption_eq_some_iff] at hdeliver
    have hsound := deliver_sound h.renderer hdeliver
    obtain ⟨hanswered, ⟨hsame, hreceiver⟩ | ⟨hnext, hreceiver⟩⟩ :=
      deliver_moves (by simpa using hlocal) hdeliver
    · rw [if_pos hsame]
      have hold : ∀ n, renderer.impl.receiver = some n → s.renderer.impl.receiver = some n := by
        intro n hn
        rcases hreceiver with heq | hnone
        · exact heq ▸ hn
        · exact nomatch hnone ▸ hn
      exact { h with
        renderer := hsound
        requests_lt := hsame ▸ h.requests_lt
        bound_lt := hsame ▸ h.bound_lt
        live := fun n hn => h.live n (hold n hn)
        pending := fun n hn hnew => h.pending n (hold n hn) (hanswered ▸ hnew) }
    · have hne : renderer.impl.attempts ≠ s.renderer.impl.attempts := by omega
      rw [if_neg hne]
      have hn : ∀ n, renderer.impl.receiver = some n → n = s.renderer.impl.attempts := by
        intro n hn
        rw [hreceiver] at hn
        exact (some.inj hn).symm
      exact {
        renderer := hsound
        nodup := nodup_cons.mpr
          ⟨fun hmem => Nat.lt_irrefl _ (h.requests_lt _ hmem), h.nodup⟩
        requests_lt := by
          intro n hmem
          rw [hnext]
          rcases mem_cons.mp hmem with rfl | hmem
          · exact Nat.lt_succ_self _
          · exact Nat.lt_succ_of_lt (h.requests_lt n hmem)
        bound_lt := by
          intro n hbound
          rw [hnext]
          exact Nat.lt_succ_of_lt (h.bound_lt n hbound)
        behind := by
          intro m hbound n hmem
          rcases mem_cons.mp hmem with rfl | hmem
          · exact h.bound_lt m hbound
          · exact h.behind m hbound n hmem
        bindings := h.bindings
        live := fun n hreceived => .inl (hn n hreceived ▸ mem_cons_self)
        pending := fun n hreceived _ => .inl (hn n hreceived ▸ mem_cons_self) }

lemma Sound.host_step (h : s.Sound) {e : CefFrameHostImpl.Event A}
    (hstep : s.step (.host e) = some s') : s'.Sound := by
  simp only [step] at hstep
  split at hstep
  · exact nomatch hstep
  · rename_i hlocal
    obtain ⟨host, hhost, hs'⟩ := bind_eq_some_iff.mp hstep
    cases hs'
    have hcases := CefFrameHostImpl.step_renderFrame (by simpa using hlocal) hhost
    have hbound : ∀ n, host.renderFrame = some n → s.host.renderFrame = some n := by
      intro n hn
      rcases hcases with heq | hnone
      · exact heq ▸ hn
      · exact nomatch hnone ▸ hn
    -- A connection that is given up is closed.
    have hinbox : ∀ m ∈ s.inbox, m ∈ (match s.host.renderFrame, host.renderFrame with
        | some old, none =>
          RendererMessage.renderFrameClosed old ResetReason.kDetached.toUInt32 :: s.inbox
        | _, _ => s.inbox) := by
      intro m hm
      split
      · exact mem_cons_of_mem _ hm
      · exact hm
    exact { h with
      bound_lt := fun n hn => h.bound_lt n (hbound n hn)
      behind := fun m hm => h.behind m (hbound m hm)
      live := by
        intro n hn
        rcases h.live n hn with hrequest | hold | ⟨customReason, hclosed⟩
        · exact .inl hrequest
        · rcases hcases with heq | hnone
          · exact .inr (.inl (heq ▸ hold))
          · refine .inr (.inr ⟨ResetReason.kDetached.toUInt32, ?_⟩)
            rw [hold, hnone]
            exact mem_cons_self
        · exact .inr (.inr ⟨customReason, hinbox _ hclosed⟩)
      pending := by
        intro n hn hnew
        rcases h.pending n hn hnew with hrequest | ⟨allow, hack⟩ | ⟨customReason, hclosed⟩
        · exact .inl hrequest
        · exact .inr (.inl ⟨allow, hinbox _ hack⟩)
        · exact .inr (.inr ⟨customReason, hinbox _ hclosed⟩) }

lemma mem_erase_or_eq {requests : List Attempt} (n : Attempt) {k : Attempt} (hk : k ∈ requests) :
    k ∈ requests.erase n ∨ k = n := by
  by_cases hkn : k = n
  · exact .inr hkn
  · exact .inl ((mem_erase_of_ne hkn).mpr hk)

variable {m : RendererMessage} {n : Attempt}

section

variable (h : s.Sound)
include h

lemma Sound.dropped {reason : ResetReason} :
    ({ s with requests := s.requests.erase n }.dropped n reason).Sound := by
  exact { h with
    nodup := h.nodup.erase n
    requests_lt := fun k hk => h.requests_lt k (mem_of_mem_erase hk)
    behind := fun m hm k hk => h.behind m hm k (mem_of_mem_erase hk)
    live := by
      intro k hk
      rcases h.live k hk with hold | hbound | ⟨customReason, hclosed⟩
      · rcases mem_erase_or_eq n hold with hkept | rfl
        · exact .inl hkept
        · exact .inr (.inr ⟨_, mem_cons_self⟩)
      · exact .inr (.inl hbound)
      · exact .inr (.inr ⟨customReason, mem_cons_of_mem _ hclosed⟩)
    pending := by
      intro k hk hnew
      rcases h.pending k hk hnew with hold | ⟨allow, hack⟩ | ⟨customReason, hclosed⟩
      · rcases mem_erase_or_eq n hold with hkept | rfl
        · exact .inl hkept
        · exact .inr (.inr ⟨_, mem_cons_self⟩)
      · exact .inr (.inl ⟨allow, mem_cons_of_mem _ hack⟩)
      · exact .inr (.inr ⟨customReason, mem_cons_of_mem _ hclosed⟩) }

lemma Sound.cons_inbox (m : RendererMessage) : { s with inbox := m :: s.inbox }.Sound :=
  { h with
    live := fun n hn => (h.live n hn).imp_right (Or.imp_right fun ⟨customReason, hclosed⟩ =>
      ⟨customReason, mem_cons_of_mem m hclosed⟩)
    pending := fun n hn hnew => (h.pending n hn hnew).imp_right (Or.imp
      (fun ⟨allow, hack⟩ => ⟨allow, mem_cons_of_mem m hack⟩)
      fun ⟨customReason, hclosed⟩ => ⟨customReason, mem_cons_of_mem m hclosed⟩) }

/-- **A frame object that is attached in turn was not bound.** What it was bound to would be of an
earlier attempt, which the frame has given up: the end of that connection would be on its way. -/
lemma Sound.unbound_of_inTurn (hrequest : n ∈ s.requests)
    (hturn : ∀ earlier < n, ¬ s.Travels earlier) : s.host.renderFrame = none := by
  by_contra hbound
  obtain ⟨m, hm⟩ := ne_none_iff_exists'.mp hbound
  have hlt : m < n := h.behind m hm n hrequest
  refine hturn m hlt (.inr ⟨hm, fun hreceiver => ?_⟩)
  have hlast := (h.renderer.receiver_last hreceiver).2.1
  exact absurd (h.requests_lt n hrequest) (by rw [← hlast]; exact Nat.not_lt.mpr hlt)

lemma Sound.bound (hrequest : n ∈ s.requests) (hturn : ∀ earlier < n, ¬ s.Travels earlier) :
    ({ s with requests := s.requests.erase n }.bound n).Sound := by
  have hunbound := h.unbound_of_inTurn hrequest hturn
  unfold FrameAttachment.bound
  rw [hunbound]
  exact {
    renderer := h.renderer
    nodup := h.nodup.erase n
    requests_lt := fun k hk => h.requests_lt k (mem_of_mem_erase hk)
    bound_lt := fun k hk => some.inj hk ▸ h.requests_lt n hrequest
    behind := by
      intro m hm k hk
      cases hm
      have hne : k ≠ n := (h.nodup.mem_erase_iff.mp hk).1
      have hge : ¬ k < n := fun hlt => hturn k hlt (.inl (mem_of_mem_erase hk))
      exact Nat.lt_of_le_of_ne (Nat.not_lt.mp hge) (Ne.symm hne)
    bindings := by
      intro b hb
      rcases mem_cons.mp hb with rfl | hb
      · rfl
      · exact h.bindings b hb
    live := by
      intro k hk
      rcases h.live k hk with hold | hbound | ⟨customReason, hclosed⟩
      · rcases mem_erase_or_eq n hold with hkept | rfl
        · exact .inl hkept
        · exact .inr (.inl rfl)
      · exact nomatch hunbound.symm.trans hbound
      · exact .inr (.inr ⟨customReason, mem_cons_of_mem _ hclosed⟩)
    pending := by
      intro k hk hnew
      rcases h.pending k hk hnew with hold | ⟨allow, hack⟩ | ⟨customReason, hclosed⟩
      · rcases mem_erase_or_eq n hold with hkept | rfl
        · exact .inl hkept
        · exact .inr (.inl ⟨true, mem_cons_self⟩)
      · exact .inr (.inl ⟨allow, mem_cons_of_mem _ hack⟩)
      · exact .inr (.inr ⟨customReason, mem_cons_of_mem _ hclosed⟩) }

lemma Sound.frameAttached_step {lookup : FrameHostLookup}
    (hturn : s.InTurn (.frameAttached n lookup)) (hstep : s.step (.frameAttached n lookup) = some s') :
    s'.Sound := by
  simp only [step] at hstep
  split at hstep
  · exact nomatch hstep
  · rename_i hrequest
    rw [Decidable.not_not] at hrequest
    cases lookup with
    | notFound => exact some.inj hstep ▸ h.dropped
    | excluded => exact some.inj hstep ▸ h.dropped.cons_inbox _
    | found =>
      dsimp only at hstep
      split at hstep
      · rename_i hinfo
        exact some.inj hstep ▸ h.bound hrequest (hturn hinfo)
      · exact some.inj hstep ▸ h.dropped

lemma Sound.closeBrowserFrame_step {customReason : UInt32}
    (hstep : s.step (.closeBrowserFrame n customReason) = some s') : s'.Sound := by
  simp only [step] at hstep
  split at hstep
  · exact nomatch hstep
  · cases hstep
    split
    · have hdropped : ({ s with requests := s.requests.erase n }.dropped n .kNoReason).Sound :=
        h.dropped
      exact hdropped.cons_inbox _
    · rename_i hread
      rw [erase_of_not_mem hread]
      exact h.cons_inbox _

lemma Sound.renderFrameDisconnect_step (hstep : s.step (.renderFrameDisconnect n) = some s') :
    s'.Sound := by
  simp only [step] at hstep
  split at hstep
  · exact nomatch hstep
  · rename_i hclosed
    split at hstep
    · rename_i hbound
      cases hstep
      exact { h with
        bound_lt := nofun
        behind := nofun
        live := by
          intro k hk
          rcases h.live k hk with hold | hold | hgone
          · exact .inl hold
          · obtain rfl := some.inj (hbound.symm.trans hold)
            exact absurd hk hclosed
          · exact .inr (.inr hgone) }
    · exact some.inj hstep ▸ h

lemma Sound.receive {renderer : RendererFrame A} (hreceive : s.receive m = .ok renderer) :
    renderer.Sound ∧ renderer.impl.attempts = s.renderer.impl.attempts ∧
      ∀ n, renderer.impl.receiver = some n → s.renderer.impl.receiver = some n ∧
        (∀ customReason, m ≠ .renderFrameClosed n customReason) ∧
        (n ∉ renderer.answered → n ∉ s.renderer.answered ∧ ∀ allow, m ≠ .frameAttachedAck n allow) := by
  cases m with
  | frameAttachedAck attempt allow =>
    simp only [FrameAttachment.receive] at hreceive
    split at hreceive
    · rename_i hcurrent
      obtain ⟨hattempts, hreceiver, hanswered⟩ := deliver_ack hcurrent hreceive
      refine ⟨deliver_sound h.renderer hreceive, hattempts, fun n hn => ?_⟩
      obtain rfl := some.inj (hreceiver.symm.trans hn)
      exact ⟨hcurrent, nofun, absurd hanswered⟩
    · rename_i hother
      cases hreceive
      refine ⟨h.renderer, rfl, fun n hn => ⟨hn, nofun, fun hnew => ⟨hnew, ?_⟩⟩⟩
      rintro allow' ⟨⟩
      exact hother hn
  | browserFrameClosed attempt customReason =>
    simp only [FrameAttachment.receive] at hreceive
    split at hreceive
    · rename_i hcurrent
      have hsome : s.renderer.impl.browserFrame.isSome := by rw [hcurrent]; rfl
      obtain ⟨_, hattempts, hnone⟩ := deliver_disconnect h.renderer (.inl hsome)
        (.inl ⟨hreceive, hsome⟩)
      exact ⟨deliver_sound h.renderer hreceive, hattempts,
        fun n hn => nomatch hnone.symm.trans hn⟩
    · cases hreceive
      exact ⟨h.renderer, rfl, fun n hn => ⟨hn, nofun, fun hnew => ⟨hnew, nofun⟩⟩⟩
  | renderFrameClosed attempt customReason =>
    simp only [FrameAttachment.receive] at hreceive
    split at hreceive
    · rename_i hcurrent
      have hsome : s.renderer.impl.receiver.isSome := by rw [hcurrent]; rfl
      obtain ⟨_, hattempts, hnone⟩ := deliver_disconnect h.renderer (.inr hsome)
        (.inr ⟨hreceive, hsome⟩)
      exact ⟨deliver_sound h.renderer hreceive, hattempts,
        fun n hn => nomatch hnone.symm.trans hn⟩
    · rename_i hother
      cases hreceive
      refine ⟨h.renderer, rfl, fun n hn => ⟨hn, ?_, fun hnew => ⟨hnew, nofun⟩⟩⟩
      rintro customReason' ⟨⟩
      exact hother hn

lemma Sound.deliver_step (hstep : s.step (.deliver m) = some s') : s'.Sound := by
  simp only [step] at hstep
  split at hstep
  · exact nomatch hstep
  · obtain ⟨renderer, hreceive, hs'⟩ := bind_eq_some_iff.mp hstep
    cases hs'
    obtain ⟨hsound, hattempts, hkept⟩ := h.receive (toOption_eq_some_iff.mp hreceive)
    exact { h with
      renderer := hsound
      requests_lt := hattempts ▸ h.requests_lt
      bound_lt := hattempts ▸ h.bound_lt
      live := by
        intro n hn
        obtain ⟨hold, hclose, _⟩ := hkept n hn
        refine (h.live n hold).imp_right (Or.imp_right ?_)
        rintro ⟨customReason, hclosed⟩
        exact ⟨customReason, (mem_erase_of_ne (hclose customReason).symm).mpr hclosed⟩
      pending := by
        intro n hn hnew
        obtain ⟨hold, hclose, hanswer⟩ := hkept n hn
        obtain ⟨hnew, hack⟩ := hanswer hnew
        rcases h.pending n hold hnew with hrequest | ⟨allow, hmem⟩ | ⟨customReason, hclosed⟩
        · exact .inl hrequest
        · exact .inr (.inl ⟨allow, (mem_erase_of_ne (hack allow).symm).mpr hmem⟩)
        · exact .inr (.inr
            ⟨customReason, (mem_erase_of_ne (hclose customReason).symm).mpr hclosed⟩) }

lemma Sound.step {e : AttachmentEvent A} (hturn : s.InTurn e)
    (hstep : s.step e = some s') : s'.Sound := by
  cases e with
  | renderer e => exact h.renderer_step hstep
  | host e => exact h.host_step hstep
  | frameAttached attempt lookup => exact h.frameAttached_step hturn hstep
  | closeBrowserFrame attempt customReason => exact h.closeBrowserFrame_step hstep
  | deliver m => exact h.deliver_step hstep
  | renderFrameDisconnect attempt => exact h.renderFrameDisconnect_step hstep

lemma Sound.late_rendererSide {old new : Attempt} {customReason : UInt32}
    (hm : m = .browserFrameClosed old customReason ∨ m = .renderFrameClosed old customReason)
    (hstep : s.step (.deliver m) = some s') (hne : new ≠ old)
    (hnew : s.renderer.impl.receiver = some new) : s'.renderer = s.renderer := by
  have hframe := (h.renderer.receiver_last hnew).1
  have hdropped : s.receive m = .ok s.renderer := by
    rcases hm with rfl | rfl <;> simp [FrameAttachment.receive, hframe, hnew, hne]
  simp only [FrameAttachment.step] at hstep
  split at hstep
  · exact nomatch hstep
  · obtain ⟨renderer, hreceive, hs'⟩ := bind_eq_some_iff.mp hstep
    cases hs'
    rw [toOption_eq_some_iff, hdropped] at hreceive
    exact (ok.inj hreceive).symm

lemma Sound.quiescent (hquiet : s.Quiescent) (attempt : Attempt) :
    s.host.renderFrame = some attempt ↔
      s.renderer.impl.browserConnectionState = .connectionAcked ∧
        s.renderer.impl.receiver = some attempt := by
  obtain ⟨hinbox, htravels⟩ := hquiet
  have hrequests : ∀ n, n ∉ s.requests := fun n hn => htravels n (.inl hn)
  have hempty : ∀ m, m ∉ s.inbox := fun m hm => by simp [hinbox] at hm
  constructor
  · intro hbound
    have hreceiver : s.renderer.impl.receiver = some attempt := by
      by_contra hclosed
      exact htravels attempt (.inr ⟨hbound, hclosed⟩)
    refine ⟨(h.renderer.receiver_last hreceiver).2.2.mpr ?_, hreceiver⟩
    by_contra hnew
    rcases h.pending attempt hreceiver hnew with hrequest | ⟨allow, hack⟩ | ⟨customReason, hclosed⟩
    · exact hrequests _ hrequest
    · exact hempty _ hack
    · exact hempty _ hclosed
  · rintro ⟨_, hreceiver⟩
    rcases h.live attempt hreceiver with hrequest | hbound | ⟨customReason, hclosed⟩
    · exact absurd hrequest (hrequests _)
    · exact hbound
    · exact absurd hclosed (hempty _)

lemma Sound.agreed : s.Agreed where
  bound_once := h.bindings
  late_browserSide old new s' hstep hne hbound := by
    simp only [FrameAttachment.step] at hstep
    split at hstep
    · exact nomatch hstep
    · split at hstep
      · rename_i hold
        exact absurd (some.inj (hbound.symm.trans hold)) hne
      · exact some.inj hstep ▸ hbound
  late_rendererSide m old new customReason s' hm hstep hne hnew :=
    h.late_rendererSide hm hstep hne hnew
  quiescent := h.quiescent

end

end Steps

/-- **The two processes agree on the connection** in every run whose attempts arrive in turn.

**Proof sketch.** Every step keeps the state sound. If a frame object were attached that is bound,
the end of the earlier attempt would be on its way (`Sound.unbound_of_inTurn`). -/
theorem attachment_agreed (frame : WebLocalFrame) (host : RenderFrameHost)
    (es : List (AttachmentEvent A))
    (h : Along step InTurn (create A frame host) es) :
    Always step Agreed (create A frame host) es := by
  have hsound := Along.always (I := Sound)
    (fun s e s' hs hturn hstep => hs.step hturn hstep) (create_sound frame host) h
  exact fun n s hn => (hsound n s hn).agreed

def sampleHost : RenderFrameHost where
  object := 0
  globalId := ⟨1, 1⟩
  globalFrameToken := ⟨1, "token"⟩

/-- A frame connects, loses its connection, tries again and is detached by the browser process. -/
theorem attachment_agreed_retry :
    Always step Agreed (create Nat {} sampleHost)
      [.renderer .didCommitProvisionalLoad, .frameAttached 0 .found,
        .deliver (.frameAttachedAck 0 true), .closeBrowserFrame 0 0,
        .deliver (.browserFrameClosed 0 0), .renderFrameDisconnect 0, .renderer .retryTimer,
        .frameAttached 1 .found, .deliver (.frameAttachedAck 1 true), .host (.detach false),
        .deliver (.renderFrameClosed 1 2)] :=
  attachment_agreed {} sampleHost _ (by decide)

/-- The end of the first connection has not arrived when the frame is attached again, and the frame
object is bound to both. -/
theorem retry_overtakes :
    ∃ s, [AttachmentEvent.renderer .didCommitProvisionalLoad, .frameAttached 0 .found,
        .deliver (.frameAttachedAck 0 true), .closeBrowserFrame 0 0,
        .deliver (.browserFrameClosed 0 0), .renderer .retryTimer,
        .frameAttached 1 .found].foldlM step (create Nat {} sampleHost) = some s ∧
      s.bindings = [(1, some 0), (0, none)] ∧ ¬ s.Agreed :=
  ⟨_, rfl, rfl, fun h => absurd (h.bound_once (1, some 0) (by decide)) nofun⟩

end FrameAttachment

end CefCore.Frame
