import CefCore.Frame.FrameImpl

/-!
# The connection of a frame in the renderer process

A `CefFrameImpl` has two pipes, a timer and four states. Commits, shows, acknowledgements and
disconnects of either pipe come in any order.

## Main results

* `connection_disciplined`: the states and the pipes agree in every run, the checks of
  `FrameAttachedAck` never fail, and a frame does not go on connecting when it should have stopped.

## Implementation notes

* A disconnect handler belongs to the binding of a pipe and goes with it, so that an event of a pipe
  that is not bound does not happen. `FrameAttachedAck` answers `FrameAttached`: it comes once for
  each attempt, and over the receiver of that attempt.
-/

namespace CefCore.Frame

open List Option Fallible Except CefFrameImpl Nat Transition

/-- What can happen to a frame in the renderer process. -/
inductive FrameImplEvent (A : Type) where
  | didCommitProvisionalLoad
  | wasShown
  | retryTimer
  | frameAttachedAck (allow : Bool)
  | browserFrameDisconnect (customReason : UInt32)
  | renderFrameDisconnect (customReason : UInt32)
  | backForwardCache (inCache : Bool)
  | detached
  | sendToBrowserFrame (functionName : String) (action : A)

/-- A frame in the renderer process, with the attempts that the browser process has answered. -/
structure RendererFrame (A : Type) where
  impl : CefFrameImpl A
  answered : List Attempt := []

namespace RendererFrame

variable {A : Type}

def create (A : Type) (frame : WebLocalFrame) : RendererFrame A :=
  { impl := CefFrameImpl.create A frame }

section

variable (w : RendererFrame A)

def unanswered : Option Attempt :=
  w.impl.receiver.filter (· ∉ w.answered)

def run (method : CefFrameImpl A → Except FrameImplCrash (CefFrameImpl A)) :
    Except FrameImplCrash (RendererFrame A) :=
  (method w.impl).map fun impl => { w with impl }

def deliver : FrameImplEvent A → Except FrameImplCrash (RendererFrame A)
  | .didCommitProvisionalLoad => w.run CefFrameImpl.onDidCommitProvisionalLoad
  | .wasShown => w.run CefFrameImpl.onWasShown
  | .retryTimer =>
    if w.impl.browserConnectTimer.isSome then w.run CefFrameImpl.onRetryTimer else .ok w
  | .frameAttachedAck allow =>
    match w.unanswered with
    | none => .ok w
    | some attempt =>
      { w with answered := attempt :: w.answered }.run (CefFrameImpl.frameAttachedAck allow)
  | .browserFrameDisconnect customReason =>
    if w.impl.browserFrame.isSome then
      w.run (CefFrameImpl.onBrowserFrameDisconnect customReason)
    else .ok w
  | .renderFrameDisconnect customReason =>
    if w.impl.receiver.isSome then
      w.run (CefFrameImpl.onRenderFrameDisconnect customReason)
    else .ok w
  | .backForwardCache inCache => .ok { w with impl := w.impl.setInBackForwardCache inCache }
  | .detached => w.run CefFrameImpl.onDetached
  | .sendToBrowserFrame functionName action =>
    w.run (CefFrameImpl.sendToBrowserFrame functionName action)

/-- One event in a run. The run ends with the renderer process. -/
def step (e : FrameImplEvent A) : Option (RendererFrame A) :=
  (w.deliver e).toOption

/-! ## The promise -/

end

def Stops : ConnectionEvent → Bool
  | .detached | .acked false | .intentionallyDetached => true
  | _ => false

def Resumes : ConnectionEvent → Bool
  | .committed | .shown => true
  | _ => false

def halted : List ConnectionEvent → Bool
  | [] => false
  | e :: trace => !Resumes e && (Stops e || halted trace)

def retriesSinceAck : List ConnectionEvent → Nat
  | [] => 0
  | .acked _ :: _ => 0
  | .retryScheduled :: trace => retriesSinceAck trace + 1
  | _ :: trace => retriesSinceAck trace

/-- The connection keeps to its states, in one state of a run. -/
structure Disciplined (w : RendererFrame A) : Prop where
  /-- The remote and the receiver are bound exactly in two of the states. -/
  browserFrame_bound : w.impl.browserFrame.isSome ↔
    w.impl.browserConnectionState = .connectionPending ∨
      w.impl.browserConnectionState = .connectionAcked
  receiver_bound : w.impl.receiver.isSome ↔
    w.impl.browserConnectionState = .connectionPending ∨
      w.impl.browserConnectionState = .connectionAcked
  /-- `ConnectBrowserFrame` is entered in two of the states. -/
  connect_entered : ∀ state reason, .connectEntered state reason ∈ w.impl.trace →
    state = .disconnected ∨ state = .reconnectPending
  /-- An acknowledgement comes in one of the states, and its check holds. -/
  ack_pending : w.unanswered.isSome → w.impl.browserConnectionState = .connectionPending
  ack_checked : ∀ allow state,
    w.deliver (.frameAttachedAck allow) ≠ .error (.checkConnectionPending state)
  /-- The retries between two acknowledgements are bounded. -/
  retries_le : ∀ between, between <:+: w.impl.trace → (∀ allow, .acked allow ∉ between) →
    between.count .retryScheduled ≤ kConnectionRetryMaxCt
  /-- Behind a stop there is no attempt without a reason to connect. -/
  attempt_resumed : ∀ later reattached between stop earlier,
    w.impl.trace = later ++ .attempted reattached :: between ++ stop :: earlier →
    Stops stop → .committed ∈ between ∨ .shown ∈ between
  /-- The timer of a detached frame does nothing when it fires. -/
  timer_detached : .detached ∈ w.impl.trace → w.impl.browserConnectTimer.isSome →
    w.deliver .retryTimer = .ok
      { w with impl := { w.impl with
          browserConnectTimer := none
          trace := .connectEntered .disconnected .retry :: w.impl.trace } }

/-! ## The trace -/

lemma halted_append {between earlier : List ConnectionEvent} {stop : ConnectionEvent}
    (hstop : Stops stop) (hbetween : ∀ e ∈ between, Resumes e = false) :
    halted (between ++ stop :: earlier) := by
  induction between with
  | nil =>
    have hresumes : Resumes stop = false := by
      cases stop <;> first | rfl | exact nomatch hstop
    simp [halted, hstop, hresumes]
  | cons e between ih =>
    have hrest := ih fun e' he' => hbetween e' (mem_cons_of_mem e he')
    simp [halted, hbetween e mem_cons_self, hrest]

lemma count_le_retriesSinceAck {between earlier : List ConnectionEvent}
    (h : ∀ allow, ConnectionEvent.acked allow ∉ between) :
    between.count .retryScheduled ≤ retriesSinceAck (between ++ earlier) := by
  induction between with
  | nil => exact zero_le _
  | cons e between ih =>
    have hrest := ih fun allow hmem => h allow (mem_cons_of_mem e hmem)
    cases e with
    | acked allow => exact absurd mem_cons_self (h allow)
    | retryScheduled =>
      rw [count_cons_self]
      exact succ_le_succ hrest
    | _ =>
      rw [count_cons_of_ne (by simp)]
      exact hrest

structure Sober (trace : List ConnectionEvent) : Prop where
  connect_entered : ∀ state reason, .connectEntered state reason ∈ trace →
    state = .disconnected ∨ state = .reconnectPending
  retries_le : ∀ earlier, earlier <:+ trace → retriesSinceAck earlier ≤ kConnectionRetryMaxCt
  attempt_resumed : ∀ reattached earlier, (.attempted reattached :: earlier) <:+ trace →
    halted earlier = false

lemma Sober.cons {trace : List ConnectionEvent} {e : ConnectionEvent} (h : Sober trace)
    (hconnect : ∀ state reason, e = .connectEntered state reason →
      state = .disconnected ∨ state = .reconnectPending)
    (hretry : e = .retryScheduled → retriesSinceAck trace < kConnectionRetryMaxCt)
    (hattempt : ∀ reattached, e = .attempted reattached → halted trace = false) :
    Sober (e :: trace) where
  connect_entered state reason hmem := by
    rcases mem_cons.mp hmem with heq | hmem
    · exact hconnect state reason heq.symm
    · exact h.connect_entered state reason hmem
  retries_le earlier hsuffix := by
    rcases suffix_cons_iff.mp hsuffix with rfl | hsuffix
    · have htrace := h.retries_le trace (suffix_refl _)
      cases e with
      | acked allow => exact zero_le _
      | retryScheduled => exact hretry rfl
      | _ => exact htrace
    · exact h.retries_le earlier hsuffix
  attempt_resumed reattached earlier hsuffix := by
    rcases suffix_cons_iff.mp hsuffix with heq | hsuffix
    · obtain ⟨he, rfl⟩ := cons.inj heq
      exact hattempt reattached he.symm
    · exact h.attempt_resumed reattached earlier hsuffix

lemma Sober.note {trace : List ConnectionEvent} {e : ConnectionEvent} (h : Sober trace)
    (he : e = .committed ∨ e = .shown ∨ e = .detached ∨ e = .intentionallyDetached ∨
      ∃ allow, e = .acked allow) : Sober (e :: trace) := by
  refine h.cons ?_ ?_ ?_ <;> rcases he with rfl | rfl | rfl | rfl | ⟨allow, rfl⟩ <;> simp

/-! ## The invariant -/

def Pipes (w : RendererFrame A) : Prop :=
  match w.impl.browserConnectionState with
  | .connectionPending => ∃ n, w.impl.browserFrame = some n ∧ w.impl.receiver = some n ∧
      n ∉ w.answered ∧ n + 1 = w.impl.attempts
  | .connectionAcked => ∃ n, w.impl.browserFrame = some n ∧ w.impl.receiver = some n ∧
      n ∈ w.answered ∧ n + 1 = w.impl.attempts
  | .disconnected | .reconnectPending => w.impl.browserFrame = none ∧ w.impl.receiver = none

structure Sound (w : RendererFrame A) : Prop where
  sober : Sober w.impl.trace
  pipes : Pipes w
  answered_lt : ∀ n ∈ w.answered, n < w.impl.attempts
  timer : w.impl.browserConnectTimer.isSome → w.impl.frame.isSome →
    w.impl.browserConnectionState = .reconnectPending
  reconnect : w.impl.browserConnectionState = .reconnectPending →
    w.impl.frame.isSome ∧ w.impl.attachDenied = false
  allowed : w.impl.browserConnectionState = .connectionPending → w.impl.attachDenied = false
  gone : w.impl.frame = none → w.impl.browserConnectionState = .disconnected
  detached : .detached ∈ w.impl.trace → w.impl.frame = none
  retries : retriesSinceAck w.impl.trace ≤ w.impl.browserConnectRetryCt
  halted : halted w.impl.trace → w.impl.frame = none ∨ w.impl.attachDenied = true ∨
    w.impl.browserConnectionState = .disconnected ∧ w.impl.browserConnectTimer = none

lemma create_sound (frame : WebLocalFrame) : Sound (create A frame) where
  sober := ⟨nofun, fun _ h => by simp [suffix_nil.mp h, retriesSinceAck],
    fun _ _ h => absurd (suffix_nil.mp h) (by simp)⟩
  pipes := ⟨rfl, rfl⟩
  answered_lt := nofun
  timer := nofun
  reconnect := nofun
  allowed := nofun
  gone := nofun
  detached := nofun
  retries := Nat.le_refl 0
  halted := nofun

section Methods

variable {w : RendererFrame A} {impl : CefFrameImpl A}

section

variable (h : Sound w)
include h

lemma Sound.bound_state (hbound : w.impl.browserFrame.isSome ∨ w.impl.receiver.isSome) :
    w.impl.browserConnectionState = .connectionPending ∨
      w.impl.browserConnectionState = .connectionAcked := by
  have hpipes := h.pipes
  unfold Pipes at hpipes
  cases hstate : w.impl.browserConnectionState with
  | connectionPending => exact .inl rfl
  | connectionAcked => exact .inr rfl
  | disconnected | reconnectPending =>
    rw [hstate] at hpipes
    simp [hpipes.1, hpipes.2] at hbound

lemma Sound.unbound (hstate : w.impl.browserConnectionState = .disconnected ∨
    w.impl.browserConnectionState = .reconnectPending) :
    w.impl.browserFrame = none ∧ w.impl.receiver = none := by
  have hpipes := h.pipes
  unfold Pipes at hpipes
  rcases hstate with hstate | hstate
  all_goals
    rw [hstate] at hpipes
    exact hpipes

lemma Sound.resume {e : ConnectionEvent} (he : e = .committed ∨ e = .shown)
    (hsame : ∃ b, impl = { w.impl with didCommitProvisionalLoad := b, trace := e :: w.impl.trace }) :
    Sound { w with impl } ∧ RendererFrame.halted impl.trace = false := by
  obtain ⟨b, rfl⟩ := hsame
  have hhalted : RendererFrame.halted (e :: w.impl.trace) = false := by
    rcases he with rfl | rfl <;> rfl
  refine ⟨{ h with
    sober := h.sober.note (by rcases he with rfl | rfl <;> simp)
    pipes := h.pipes
    detached := fun hmem => h.detached ?_
    retries := ?_
    halted := fun htrue => absurd htrue (by rw [hhalted]; exact Bool.false_ne_true) }, hhalted⟩
  · rcases he with rfl | rfl <;> simpa using hmem
  · rcases he with rfl | rfl <;> exact h.retries

lemma Sound.connect {reason : ConnectReason}
    (hstate : w.impl.browserConnectionState = .disconnected ∨
      w.impl.browserConnectionState = .reconnectPending)
    (hgo : w.impl.mayConnect → RendererFrame.halted w.impl.trace = false)
    (hrun : CefFrameImpl.connectBrowserFrame reason w.impl = .ok impl) :
    Sound { w with impl } := by
  have hentered : Sober (.connectEntered w.impl.browserConnectionState reason :: w.impl.trace) :=
    h.sober.cons (by rintro _ _ ⟨⟩; exact hstate) (by rintro ⟨⟩) (by rintro _ ⟨⟩)
  rcases connectBrowserFrame_cases hrun with ⟨hmay, rfl⟩ | ⟨hmay, reattached, rfl⟩
  · exact {
      sober := hentered
      pipes := h.unbound hstate
      answered_lt := h.answered_lt
      timer := by rintro ⟨⟩
      reconnect := by rintro ⟨⟩
      allowed := by rintro ⟨⟩
      gone := fun _ => rfl
      detached := fun hmem => h.detached (by simpa using hmem)
      retries := h.retries
      halted := fun _ => .inr (.inr ⟨rfl, rfl⟩) }
  · have hgone : w.impl.frame ≠ none := by
      intro hnone
      simp [CefFrameImpl.mayConnect, hnone] at hmay
    have hallowed : w.impl.attachDenied = false := by
      unfold CefFrameImpl.mayConnect at hmay
      split at hmay
      · cases hmay
      · exact Bool.not_eq_true' _ ▸ (Bool.and_eq_true_iff.mp hmay).1
    exact {
      sober := hentered.cons (by rintro _ _ ⟨⟩) (by rintro ⟨⟩) fun _ _ => hgo hmay
      pipes := by
        refine ⟨w.impl.attempts, ?_, rfl, fun hmem => ?_, rfl⟩
        · simp [(h.unbound hstate).1]
        · exact Nat.lt_irrefl _ (h.answered_lt _ hmem)
      answered_lt := fun n hn => lt_succ_of_lt (h.answered_lt n hn)
      timer := by rintro ⟨⟩
      reconnect := by rintro ⟨⟩
      allowed := fun _ => hallowed
      gone := fun hnone => absurd hnone hgone
      detached := fun hmem => h.detached (by simpa using hmem)
      retries := h.retries
      halted := fun htrue => by
        rw [RendererFrame.halted, RendererFrame.halted, hgo hmay] at htrue
        cases htrue }

/-- **A disconnect keeps the frame sound.** It arrives while a pipe is bound, so that no timer is
running. -/
lemma Sound.disconnect {reason : DisconnectReason} {customReason : UInt32}
    {errorResult : MojoResult} (hbound : w.impl.browserFrame.isSome ∨ w.impl.receiver.isSome)
    (hrun : CefFrameImpl.onDisconnect reason customReason errorResult w.impl = .ok impl) :
    Sound { w with impl } := by
  have hstate := h.bound_state hbound
  have hhere : w.impl.frame ≠ none := by
    intro hnone
    rcases hstate with hstate | hstate <;> exact nomatch hstate ▸ h.gone hnone
  have htimer : w.impl.browserConnectTimer = none := by
    by_contra hsome
    have hreconnect := h.timer (isSome_iff_ne_none.mpr hsome)
      (isSome_iff_ne_none.mpr hhere)
    rcases hstate with hstate | hstate <;> exact nomatch hstate ▸ hreconnect
  have hhalted : RendererFrame.halted w.impl.trace → w.impl.attachDenied = true := by
    intro htrue
    rcases h.halted htrue with hnone | hdenied | ⟨hdown, _⟩
    · exact absurd hnone hhere
    · exact hdenied
    · rcases hstate with hstate | hstate <;> exact nomatch hstate ▸ hdown
  have hclosed : Sound { w with impl := CefFrameImpl.closePipes w.impl } :=
    { sober := h.sober
      pipes := ⟨rfl, rfl⟩
      answered_lt := h.answered_lt
      timer := fun hsome => absurd hsome (by simp [CefFrameImpl.closePipes, htimer])
      reconnect := nofun
      allowed := nofun
      gone := fun _ => rfl
      detached := h.detached
      retries := h.retries
      halted := fun _ => .inr (.inr ⟨rfl, htimer⟩) }
  rcases onDisconnect_cases hrun with ⟨_, rfl⟩ | ⟨_, _, rfl⟩ | ⟨_, _, rfl⟩ |
      ⟨_, hframe, hdenied, hleft, delay, rfl⟩ | ⟨_, _, _, rfl⟩
  · exact h
  · exact { hclosed with
      sober := h.sober.note (by simp)
      pipes := ⟨rfl, rfl⟩
      detached := fun hmem => h.detached (by simpa using hmem)
      retries := h.retries
      halted := fun _ => .inr (.inr ⟨rfl, htimer⟩) }
  · exact hclosed
  · exact { hclosed with
      sober := h.sober.cons nofun (fun _ => Nat.lt_of_le_of_lt h.retries hleft) nofun
      pipes := ⟨rfl, rfl⟩
      timer := fun _ _ => rfl
      reconnect := fun _ => ⟨hframe, hdenied⟩
      allowed := nofun
      gone := fun hnone => absurd hnone hhere
      detached := fun hmem => h.detached (by simpa using hmem)
      retries := succ_le_succ h.retries
      halted := fun htrue => by
        rw [RendererFrame.halted] at htrue
        exact absurd (hhalted (by simpa [Resumes, Stops] using htrue)) (by simp [hdenied]) }
  · exact { hclosed with
      pipes := ⟨rfl, rfl⟩
      retries := le_succ_of_le h.retries
      halted := hclosed.halted }

lemma Sound.ack {allow : Bool} {attempt : Attempt} (hanswers : w.unanswered = some attempt)
    (hrun : CefFrameImpl.frameAttachedAck allow w.impl = .ok impl) :
    Sound { impl, answered := attempt :: w.answered } := by
  obtain ⟨hpending, hcases⟩ := frameAttachedAck_cases hrun
  have hpipes := h.pipes
  unfold Pipes at hpipes
  rw [hpending] at hpipes
  obtain ⟨n, hframe, hreceiver, _, hlast⟩ := hpipes
  have hn : n = attempt := by
    rw [unanswered, filter_eq_some_iff, hreceiver] at hanswers
    exact some.inj hanswers.1
  subst hn
  have hlt : ∀ m ∈ n :: w.answered, m < w.impl.attempts := by
    intro m hm
    rcases mem_cons.mp hm with rfl | hm
    · exact hlast ▸ lt_succ_self m
    · exact h.answered_lt m hm
  have hhere : w.impl.frame ≠ none := fun hnone => nomatch hpending ▸ h.gone hnone
  have htimer : w.impl.browserConnectTimer.isSome → w.impl.frame.isSome → False :=
    fun hsome hframe => nomatch hpending ▸ h.timer hsome hframe
  rcases hcases with ⟨rfl, rfl⟩ | ⟨rfl, rfl⟩
  · exact {
      sober := h.sober.note (by simp)
      pipes := ⟨n, hframe, hreceiver, mem_cons_self, hlast⟩
      answered_lt := hlt
      timer := fun hsome hframe => (htimer hsome hframe).elim
      reconnect := nofun
      allowed := nofun
      gone := fun hnone => absurd hnone hhere
      detached := fun hmem => h.detached (by simpa using hmem)
      retries := Nat.le_refl 0
      halted := fun _ => .inr (.inl rfl) }
  · exact {
      sober := h.sober.note (by simp)
      pipes := ⟨n, by rw [hframe]; rfl, hreceiver, mem_cons_self, hlast⟩
      answered_lt := hlt
      timer := fun hsome hframe => (htimer hsome hframe).elim
      reconnect := nofun
      allowed := nofun
      gone := fun hnone => absurd hnone hhere
      detached := fun hmem => h.detached (by simpa using hmem)
      retries := Nat.le_refl 0
      halted := fun htrue => by
        rw [RendererFrame.halted] at htrue
        rcases h.halted (by simpa [Resumes, Stops] using htrue) with hnone | hdenied | ⟨hdown, _⟩
        · exact absurd hnone hhere
        · exact .inr (.inl hdenied)
        · exact nomatch hpending ▸ hdown }

lemma Sound.detach (hrun : CefFrameImpl.onDetached w.impl = .ok impl) : Sound { w with impl } := by
  unfold CefFrameImpl.onDetached at hrun
  split at hrun
  · exact nomatch hrun
  · obtain ⟨closed, hclosed, hrun⟩ := bind_eq_ok_iff.mp hrun
    cases hrun
    have hsober : Sober (.detached :: w.impl.trace) := h.sober.note (by simp)
    rcases onDisconnect_cases hclosed with ⟨hstate, rfl⟩ | ⟨_, hintended, _⟩ |
        ⟨_, _, rfl⟩ | ⟨_, hframe, _⟩ | ⟨_, hframe, _⟩
    · have hdown : w.impl.browserConnectionState = .disconnected := by simpa using hstate
      have hunbound := h.unbound (.inl hdown)
      exact {
        sober := hsober
        pipes := by
          unfold Pipes
          rw [hdown]
          exact hunbound
        answered_lt := h.answered_lt
        timer := fun _ hframe => nomatch hframe
        reconnect := fun hreconnect => nomatch hdown ▸ hreconnect
        allowed := fun hpending => nomatch hdown ▸ hpending
        gone := fun _ => hdown
        detached := fun _ => rfl
        retries := h.retries
        halted := fun _ => .inl rfl }
    · exact nomatch hintended
    · exact {
        sober := hsober
        pipes := ⟨rfl, rfl⟩
        answered_lt := h.answered_lt
        timer := fun _ hframe => nomatch hframe
        reconnect := nofun
        allowed := nofun
        gone := fun _ => rfl
        detached := fun _ => rfl
        retries := h.retries
        halted := fun _ => .inl rfl }
    · exact nomatch hframe
    · exact nomatch hframe

lemma Sound.send {functionName : String} {action : A}
    (hrun : CefFrameImpl.sendToBrowserFrame functionName action w.impl = .ok impl) :
    Sound { w with impl } := by
  unfold CefFrameImpl.sendToBrowserFrame at hrun
  split at hrun
  · cases hrun
    exact { h with pipes := h.pipes, halted := h.halted }
  · split at hrun
    · cases hrun
      exact { h with pipes := h.pipes, halted := h.halted }
    · rename_i hacked
      have hbound : w.impl.browserFrame.isSome := by
        have hpipes := h.pipes
        unfold Pipes at hpipes
        rw [Decidable.not_not.mp hacked] at hpipes
        obtain ⟨n, hframe, _⟩ := hpipes
        simp [hframe]
      rw [getBrowserFrame_eq_self hbound] at hrun
      dsimp only at hrun
      split at hrun
      · exact nomatch hrun
      · cases hrun
        exact { h with pipes := h.pipes, halted := h.halted }

lemma Sound.cache (inCache : Bool) :
    Sound { w with impl := w.impl.setInBackForwardCache inCache } :=
  { h with
    pipes := h.pipes
    timer := fun hsome hframe => h.timer hsome
      (by simpa [CefFrameImpl.setInBackForwardCache] using hframe)
    reconnect := fun hstate =>
      ⟨by simpa [CefFrameImpl.setInBackForwardCache] using (h.reconnect hstate).1,
        (h.reconnect hstate).2⟩
    gone := fun hnone => h.gone (by simpa [CefFrameImpl.setInBackForwardCache] using hnone)
    detached := fun hmem => by
      simp [CefFrameImpl.setInBackForwardCache, h.detached hmem]
    halted := fun htrue => by
      simpa [CefFrameImpl.setInBackForwardCache] using h.halted htrue }

lemma Sound.timer_state (htimer : w.impl.browserConnectTimer.isSome) :
    w.impl.browserConnectionState = .disconnected ∨
      w.impl.browserConnectionState = .reconnectPending := by
  cases hframe : w.impl.frame with
  | none => exact .inl (h.gone hframe)
  | some frame => exact .inr (h.timer htimer (by rw [hframe]; rfl))

/-- **A timer that fires keeps the frame sound**: it was started by a disconnect, and the frame has
not been stopped since. -/
lemma Sound.retry (htimer : w.impl.browserConnectTimer.isSome)
    (hrun : CefFrameImpl.onRetryTimer w.impl = .ok impl) : Sound { w with impl } := by
  have hfired : Sound { w with impl := { w.impl with browserConnectTimer := none } } :=
    { h with
      pipes := h.pipes
      timer := by rintro ⟨⟩
      halted := fun htrue => (h.halted htrue).imp_right (Or.imp_right fun hdown => ⟨hdown.1, rfl⟩) }
  have hconnect : CefFrameImpl.connectBrowserFrame .retry
    { w.impl with browserConnectTimer := none } = .ok impl := hrun
  refine hfired.connect (h.timer_state htimer) (fun hmay => ?_) hconnect
  by_contra htrue
  rcases h.halted (Bool.not_eq_false _ ▸ htrue) with hnone | hdenied | ⟨_, hstopped⟩
  · simp [CefFrameImpl.mayConnect, hnone] at hmay
  · unfold CefFrameImpl.mayConnect at hmay
    split at hmay
    · cases hmay
    · simp [hdenied] at hmay
  · simp [hstopped] at htimer

end

end Methods

lemma run_eq_ok_iff {w w' : RendererFrame A}
    {method : CefFrameImpl A → Except FrameImplCrash (CefFrameImpl A)} :
    w.run method = .ok w' ↔ ∃ impl, method w.impl = .ok impl ∧ { w with impl } = w' :=
  map_eq_ok_iff

theorem deliver_sound {w w' : RendererFrame A} {e : FrameImplEvent A} (h : Sound w)
    (hrun : w.deliver e = .ok w') : Sound w' := by
  cases e with
  | didCommitProvisionalLoad =>
    obtain ⟨impl, hmethod, rfl⟩ := run_eq_ok_iff.mp hrun
    unfold CefFrameImpl.onDidCommitProvisionalLoad at hmethod
    dsimp only at hmethod
    obtain ⟨hresumed, hgo⟩ := h.resume (.inl rfl) ⟨true, rfl⟩
    split at hmethod
    · rename_i hstate
      exact hresumed.connect (.inl hstate) (fun _ => hgo) hmethod
    · exact ok.inj hmethod ▸ hresumed
  | wasShown =>
    obtain ⟨impl, hmethod, rfl⟩ := run_eq_ok_iff.mp hrun
    unfold CefFrameImpl.onWasShown at hmethod
    dsimp only at hmethod
    obtain ⟨hresumed, hgo⟩ := h.resume (.inr rfl) ⟨w.impl.didCommitProvisionalLoad, rfl⟩
    split at hmethod
    · rename_i hstate
      exact hresumed.connect (.inl hstate.1) (fun _ => hgo) hmethod
    · exact ok.inj hmethod ▸ hresumed
  | retryTimer =>
    simp only [deliver] at hrun
    split at hrun
    · rename_i htimer
      obtain ⟨impl, hmethod, rfl⟩ := run_eq_ok_iff.mp hrun
      exact h.retry htimer hmethod
    · exact ok.inj hrun ▸ h
  | frameAttachedAck allow =>
    simp only [deliver] at hrun
    split at hrun
    · exact ok.inj hrun ▸ h
    · rename_i attempt hanswers
      obtain ⟨impl, hmethod, rfl⟩ := run_eq_ok_iff.mp hrun
      exact h.ack hanswers hmethod
  | browserFrameDisconnect customReason =>
    simp only [deliver] at hrun
    split at hrun
    · rename_i hbound
      obtain ⟨impl, hmethod, rfl⟩ := run_eq_ok_iff.mp hrun
      exact h.disconnect (.inl hbound) hmethod
    · exact ok.inj hrun ▸ h
  | renderFrameDisconnect customReason =>
    simp only [deliver] at hrun
    split at hrun
    · rename_i hbound
      obtain ⟨impl, hmethod, rfl⟩ := run_eq_ok_iff.mp hrun
      exact h.disconnect (.inr hbound) hmethod
    · exact ok.inj hrun ▸ h
  | backForwardCache inCache =>
    exact ok.inj hrun ▸ h.cache inCache
  | detached =>
    obtain ⟨impl, hmethod, rfl⟩ := run_eq_ok_iff.mp hrun
    exact h.detach hmethod
  | sendToBrowserFrame functionName action =>
    obtain ⟨impl, hmethod, rfl⟩ := run_eq_ok_iff.mp hrun
    exact h.send hmethod

theorem always_sound (frame : WebLocalFrame) (es : List (FrameImplEvent A)) :
    Always step Sound (create A frame) es :=
  Along.always
    (fun _ _ _ h _ hrun => deliver_sound h (toOption_eq_some_iff.mp hrun))
    (create_sound frame) (Along.trivial _ _)

/-! ## The connection of a frame -/

section Promise

variable {w : RendererFrame A}

section

variable (h : Sound w)
include h

lemma Sound.bound_iff :
    (w.impl.browserFrame.isSome ↔ w.impl.browserConnectionState = .connectionPending ∨
      w.impl.browserConnectionState = .connectionAcked) ∧
    (w.impl.receiver.isSome ↔ w.impl.browserConnectionState = .connectionPending ∨
      w.impl.browserConnectionState = .connectionAcked) := by
  have hpipes := h.pipes
  unfold Pipes at hpipes
  cases hstate : w.impl.browserConnectionState <;> rw [hstate] at hpipes
  case connectionPending | connectionAcked =>
    obtain ⟨n, hframe, hreceiver, _⟩ := hpipes
    simp [hframe, hreceiver]
  all_goals simp [hpipes.1, hpipes.2]

lemma Sound.unanswered_pending (hanswers : w.unanswered.isSome) :
    w.impl.browserConnectionState = .connectionPending := by
  obtain ⟨n, hn⟩ := isSome_iff_exists.mp hanswers
  obtain ⟨hreceiver, hnew⟩ := filter_eq_some_iff.mp hn
  rcases h.bound_iff.2.mp (by rw [hreceiver]; rfl) with hpending | hacked
  · exact hpending
  · have hpipes := h.pipes
    unfold Pipes at hpipes
    rw [hacked, hreceiver] at hpipes
    obtain ⟨m, _, hm, hold, _⟩ := hpipes
    rw [some.inj hm] at hnew
    exact absurd hold (of_decide_eq_true hnew)

lemma Sound.ack_checked (allow : Bool) (state : ConnectionState) :
    w.deliver (.frameAttachedAck allow) ≠ .error (.checkConnectionPending state) := by
  intro hrun
  simp only [deliver] at hrun
  split at hrun
  · exact nomatch hrun
  · rename_i attempt hanswers
    have hpending := h.unanswered_pending (by rw [hanswers]; rfl)
    unfold run CefFrameImpl.frameAttachedAck at hrun
    rw [if_neg (not_not.mpr hpending)] at hrun
    cases allow with
    | false => exact nomatch hrun
    | true =>
      simp only [Bool.not_true, Bool.false_eq_true, if_false] at hrun
      split at hrun <;> simp [Except.map] at hrun

lemma Sound.timer_detached (hdetached : .detached ∈ w.impl.trace)
    (htimer : w.impl.browserConnectTimer.isSome) :
    w.deliver .retryTimer = .ok
      { w with impl := { w.impl with
          browserConnectTimer := none
          trace := .connectEntered .disconnected .retry :: w.impl.trace } } := by
  have hnone := h.detached hdetached
  have hstate := h.gone hnone
  simp [deliver, if_pos htimer, run, CefFrameImpl.onRetryTimer, CefFrameImpl.connectBrowserFrame,
    CefFrameImpl.mayConnect, hnone, Except.map, hstate]

lemma Sound.disciplined : Disciplined w where
  browserFrame_bound := h.bound_iff.1
  receiver_bound := h.bound_iff.2
  connect_entered := h.sober.connect_entered
  ack_pending := h.unanswered_pending
  ack_checked := h.ack_checked
  retries_le := by
    rintro between ⟨later, earlier, htrace⟩ hnone
    have hsuffix : (between ++ earlier) <:+ w.impl.trace :=
      ⟨later, by rw [← htrace, append_assoc]⟩
    exact Nat.le_trans (count_le_retriesSinceAck hnone) (h.sober.retries_le _ hsuffix)
  attempt_resumed := by
    intro later reattached between stop earlier htrace hstop
    by_contra hnone
    rw [not_or] at hnone
    have hsuffix : (.attempted reattached :: (between ++ stop :: earlier)) <:+ w.impl.trace :=
      ⟨later, by rw [htrace, append_assoc, cons_append]⟩
    have hfalse := h.sober.attempt_resumed reattached _ hsuffix
    rw [halted_append hstop fun e he => ?_] at hfalse
    · exact nomatch hfalse
    · cases e with
      | committed => exact absurd he hnone.1
      | shown => exact absurd he hnone.2
      | _ => rfl
  timer_detached := h.timer_detached

end

end Promise

/-- **The connection of a frame is disciplined** in every run.

**Proof sketch.** All states of a run are sound (`always_sound`), and a sound frame is disciplined.
The step that matters is a disconnect: it arrives only over a bound pipe, and then no timer is
running. -/
theorem connection_disciplined (frame : WebLocalFrame) (es : List (FrameImplEvent A)) :
    Always step Disciplined (create A frame) es :=
  fun n w hrun => (always_sound frame es n w hrun).disciplined

end RendererFrame

end CefCore.Frame
