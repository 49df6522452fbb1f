import CefCore.MessageRouter.RendererSide

/-!
# JavaScript callbacks of the Rust renderer-side router

As long as the generator of request ids has not wrapped around, every request that `send_query`
stores has ids of its own. The browser process may send what it likes.

## Main results

* `callback_discipline`: the callbacks are executed for responses with these ids only, at most once
  if the request is not persistent, and never after its failure callback or after it has been
  canceled.
-/

namespace CefCore.MessageRouter

open Std List Option EventLog

/-! ### Events of a request -/

def RendererEvent.Executes (i : Nat) : RendererEvent → Prop
  | .executed i' _ _ _ _ _ _ _ => i' = i
  | _ => False

/-- The failure callback of the request is executed, or the request is canceled. -/
def RendererEvent.Closes (i : Nat) : RendererEvent → Prop
  | .executed i' _ .failure _ _ _ _ _ => i' = i
  | .canceled i' => i' = i
  | _ => False

def RendererEvent.Ends (i : Nat) : RendererEvent → Prop
  | .executed i' persistent outcome _ _ _ _ _ =>
    i' = i ∧ (persistent = false ∨ outcome = .failure)
  | .canceled i' => i' = i
  | _ => False

instance (i : Nat) (e : RendererEvent) : Decidable (e.Executes i) :=
  match e with
  | .executed i' _ _ _ _ _ _ _ => inferInstanceAs (Decidable (i' = i))
  | .canceled _ | .queryMessage .. | .cancelMessage .. => isFalse id

lemma RendererEvent.Closes.ends {i : Nat} {e : RendererEvent} (h : e.Closes i) : e.Ends i := by
  cases e with
  | executed i' persistent outcome =>
    cases outcome with
    | success => exact h.elim
    | failure => exact ⟨h, .inr rfl⟩
  | canceled i' => exact h
  | queryMessage => exact h
  | cancelMessage => exact h

abbrev RequestEnded (i : Nat) (log : List RendererEvent) : Prop :=
  EventLog.Settled RendererEvent.Ends i log

/-- If the event is an execution, the request is one that was stored under the event's ids. -/
def RendererEvent.Own (sent : List SentRequest) : RendererEvent → Prop
  | .executed i persistent _ _ _ browserId contextId requestId =>
    sent[i]? = some ⟨browserId, contextId, requestId, persistent⟩
  | _ => True

/-! ### The invariant -/

/-- The requests sent so far have the ids `1, 2, …`, a pending request is under the ids under
which it was stored and has not ended, and the log ends a request at most once and executes a
callback only for the request's own ids. -/
structure RequestsSound (sent : List SentRequest)
    (g : Int → Int × Int → Option RendererSideRequestInfo) (log : List RendererEvent) : Prop where
  ids : ∀ (i : Nat) r, sent[i]? = some r → r.requestId = (i : Int) + 1
  entry : ∀ b k info, g b k = some info →
    sent[info.request]? = some ⟨b, k.1, k.2, info.isPersistent⟩
  unended : ∀ b k info, g b k = some info → ¬ RequestEnded info.request log
  known : ∀ i, RequestEnded i log → i < sent.length
  own : ∀ e ∈ log, e.Own sent
  final : EventLog.Final RendererEvent.Ends RendererEvent.Executes log

section RequestsSound

variable {sent : List SentRequest} {g : Int → Int × Int → Option RendererSideRequestInfo}
  {log : List RendererEvent} {b : Int} {k : Int × Int} {info : RendererSideRequestInfo}

section

variable (h : RequestsSound sent g log)
include h

lemma RequestsSound.remove (b : Int) (k : Int × Int) :
    RequestsSound sent (Lookup.remove g b k) log where
  ids := h.ids
  entry b' k' info hg := h.entry b' k' info (Lookup.remove_eq_some.mp hg).2
  unended b' k' info hg := h.unended b' k' info (Lookup.remove_eq_some.mp hg).2
  known := h.known
  own := h.own
  final := h.final

lemma RequestsSound.request_ne_of_remove (hg : g b k = some info)
    {b' : Int} {k' : Int × Int} {info' : RendererSideRequestInfo}
    (hg' : Lookup.remove g b k b' k' = some info') : info'.request ≠ info.request := by
  intro heq
  obtain ⟨hne, hg'⟩ := Lookup.remove_eq_some.mp hg'
  have h₁ := h.entry b k info hg
  have h₂ := h.entry b' k' info' hg'
  rw [heq, h₁] at h₂
  have := some.inj h₂
  simp only [SentRequest.mk.injEq] at this
  exact hne ⟨this.1.symm, Prod.ext this.2.1.symm this.2.2.1.symm⟩

lemma RequestsSound.report {e : RendererEvent} (hex : ∀ i, e.Executes i → ¬ RequestEnded i log)
    (hends : ∀ i, e.Ends i → i < sent.length ∧ ∀ b k info, g b k = some info → info.request ≠ i)
    (hown : e.Own sent) : RequestsSound sent g (e :: log) where
  ids := h.ids
  entry := h.entry
  unended b k info hg hended := by
    rcases settled_cons.mp hended with he | hended
    · exact (hends _ he).2 b k info hg rfl
    · exact h.unended b k info hg hended
  known i hended := by
    rcases settled_cons.mp hended with he | hended
    · exact (hends i he).1
    · exact h.known i hended
  own e' he' := by
    rcases mem_cons.mp he' with rfl | he'
    · exact hown
    · exact h.own e' he'
  final := final_cons_iff.mpr ⟨hex, h.final⟩

section

variable (hg : g b k = some info)
include hg

lemma RequestsSound.request_lt : info.request < sent.length :=
  (List.getElem?_eq_some_iff.mp (h.entry b k info hg)).1

lemma RequestsSound.cancel :
    RequestsSound sent (Lookup.remove g b k) (.canceled info.request :: log) := by
  refine (h.remove b k).report (fun i hi => hi.elim) (fun i hi => ?_) trivial
  obtain rfl : info.request = i := hi
  exact ⟨h.request_lt hg, fun b' k' info' hg' => h.request_ne_of_remove hg hg'⟩

lemma RequestsSound.execute_remove (outcome : Outcome) (callback : V8Value) (context : V8Context) :
    RequestsSound sent (Lookup.remove g b k)
      (.executed info.request info.isPersistent outcome callback context b k.1 k.2 :: log) := by
  refine (h.remove b k).report (fun i hi => ?_) (fun i hi => ?_) (h.entry b k info hg)
  · obtain rfl : info.request = i := hi
    exact h.unended b k info hg
  · obtain rfl : info.request = i := hi.1
    exact ⟨h.request_lt hg, fun b' k' info' hg' => h.request_ne_of_remove hg hg'⟩

lemma RequestsSound.execute_keep
    (hp : info.isPersistent = true) (callback : V8Value) (context : V8Context) :
    RequestsSound sent g
      (.executed info.request info.isPersistent .success callback context b k.1 k.2 :: log) := by
  refine h.report (fun i hi => ?_) (fun i hi => ?_) (h.entry b k info hg)
  · obtain rfl : info.request = i := hi
    exact h.unended b k info hg
  · rcases hi.2 with hf | hf
    · rw [hp] at hf
      exact Bool.noConfusion hf
    · exact Outcome.noConfusion hf

end

lemma RequestsSound.message {e : RendererEvent}
    (hex : ∀ i, ¬ e.Executes i) (hends : ∀ i, ¬ e.Ends i) (hown : e.Own sent) :
    RequestsSound sent g (e :: log) :=
  h.report (fun i hi => (hex i hi).elim) (fun i hi => (hends i hi).elim) hown

/-- **Storing a request** under the next id.

**Proof sketch.** The new number is unknown to the log, so that the request has not ended; the
other entries keep their numbers. -/
lemma RequestsSound.store (b : Int) (c : Int)
    (isPersistent : Bool) (success failure : Option V8Value) :
    RequestsSound (sent ++ [⟨b, c, sent.length + 1, isPersistent⟩])
      (fun b' k' => if b' = b ∧ k' = (c, (sent.length : Int) + 1) then
        some ⟨isPersistent, success, failure, sent.length⟩ else g b' k') log where
  ids i r hr := by
    rcases Nat.lt_or_ge i sent.length with hlt | hge
    · rw [getElem?_append_left hlt] at hr
      exact h.ids i r hr
    · have hi : i = sent.length := by
        have := (List.getElem?_eq_some_iff.mp hr).1
        simp only [length_append, length_cons, length_nil] at this
        omega
      subst hi
      simp only [getElem?_concat_length, some.injEq] at hr
      rw [← hr]
  entry b' k' info hg := by
    split at hg
    · rename_i hk
      obtain ⟨rfl, rfl⟩ := hk
      cases hg
      simp
    · have hold := h.entry b' k' info hg
      rw [List.getElem?_append_left (List.getElem?_eq_some_iff.mp hold).1]
      exact hold
  unended b' k' info hg := by
    split at hg
    · cases hg
      exact fun hended => Nat.lt_irrefl _ (h.known _ hended)
    · exact h.unended b' k' info hg
  known i hended := by
    have := h.known i hended
    simp only [length_append, length_cons, length_nil]
    omega
  own e he := by
    have := h.own e he
    cases e with
    | executed i persistent outcome callback context b' c' r' =>
      have hold : sent[i]? = some ⟨b', c', r', persistent⟩ := this
      show (sent ++ _)[i]? = _
      rw [List.getElem?_append_left (List.getElem?_eq_some_iff.mp hold).1]
      exact hold
    | canceled => trivial
    | queryMessage => trivial
    | cancelMessage => trivial
  final := h.final

end

end RequestsSound

namespace RendererSideRouter

/-! ### What each entry point keeps -/

def Sound (s : RendererSideRouter) : Prop :=
  RequestsSound s.sent s.browserRequestInfoMap.get? s.log

/-- From `s` to `s'` the invariant is kept, no request is stored, and the events logged are as
`p` says. -/
structure Keeps (p : RendererEvent → Prop) (s s' : RendererSideRouter) : Prop where
  sound : s.Sound → s'.Sound
  sent : s'.sent = s.sent
  generator : s'.requestIdGenerator = s.requestIdGenerator
  log : ∃ events, s'.log = events ++ s.log ∧ ∀ e ∈ events, p e

variable {s s' s'' : RendererSideRouter} {held : List RendererMutex} {p : RendererEvent → Prop}

lemma Keeps.refl (s : RendererSideRouter) : Keeps p s s where
  sound := id
  sent := rfl
  generator := rfl
  log := ⟨[], rfl, by simp⟩

lemma Keeps.trans (h : Keeps p s s') (h' : Keeps p s' s'') : Keeps p s s'' where
  sound hs := h'.sound (h.sound hs)
  sent := h'.sent.trans h.sent
  generator := h'.generator.trans h.generator
  log := by
    obtain ⟨l, hl, hp⟩ := h.log
    obtain ⟨l', hl', hp'⟩ := h'.log
    refine ⟨l' ++ l, by rw [hl', hl, append_assoc], fun e he => ?_⟩
    rcases mem_append.mp he with he | he
    · exact hp' e he
    · exact hp e he

/-- The lookup after `get_request_info`. -/
def lookupAfter (g : Int → Int × Int → Option RendererSideRequestInfo) (b : Int) (k : Int × Int)
    (alwaysRemove : Bool) : Int → Int × Int → Option RendererSideRequestInfo :=
  match g b k with
  | some info => if alwaysRemove || !info.isPersistent then Lookup.remove g b k else g
  | none => g

variable {a : Action} {alwaysRemove : Bool} {b c r : Int} {browser : Option Int}
  {frame : Option Frame}

lemma getRequestInfo_spec {info : Option RendererSideRequestInfo}
    (h : s.getRequestInfo held b c r alwaysRemove = some (info, s')) :
    info = s.browserRequestInfoMap.get? b (c, r) ∧ ∃ m,
      s' = { s with browserRequestInfoMap := m } ∧
      m.get? = lookupAfter s.browserRequestInfoMap.get? b (c, r) alwaysRemove := by
  have h₁ := BrowserInfoMap.find_fst s.browserRequestInfoMap b (c, r)
    (some (requestInfoVisitor alwaysRemove)) ()
  have h₂ := BrowserInfoMap.get?_find s.browserRequestInfoMap b (c, r)
    (requestInfoVisitor alwaysRemove) ()
  simp only [getRequestInfo, bind_eq_bind, bind_eq_some_iff] at h
  obtain ⟨-, -, h⟩ := h
  rcases hfind : s.browserRequestInfoMap.find b (c, r) (some (requestInfoVisitor alwaysRemove)) ()
    with ⟨found, m, u⟩
  rw [hfind] at h h₁ h₂
  simp only [Option.pure_def, Option.some.injEq, Prod.mk.injEq] at h
  obtain ⟨rfl, rfl⟩ := h
  refine ⟨h₁, m, rfl, h₂.trans ?_⟩
  unfold lookupAfter
  cases s.browserRequestInfoMap.get? b (c, r) with
  | none => rfl
  | some info =>
    cases alwaysRemove <;> cases hp : info.isPersistent <;>
      simp [requestInfoVisitor, hp, ControlFlow.result]

lemma RequestsSound.lookupAfter (h : s.Sound) (b : Int) (k : Int × Int) (alwaysRemove : Bool) :
    RequestsSound s.sent (lookupAfter s.browserRequestInfoMap.get? b k alwaysRemove) s.log := by
  unfold RendererSideRouter.lookupAfter
  split
  · split
    · exact h.remove b k
    · exact h
  · exact h

lemma getRequestInfo_keeps {info : Option RendererSideRequestInfo}
    (h : s.getRequestInfo held b c r alwaysRemove = some (info, s')) : Keeps p s s' := by
  obtain ⟨-, m, rfl, hm⟩ := getRequestInfo_spec h
  refine ⟨fun hs => ?_, rfl, rfl, [], rfl, by simp⟩
  show RequestsSound s.sent m.get? s.log
  rw [hm]
  exact RequestsSound.lookupAfter hs b (c, r) alwaysRemove

lemma getRequestInfo_execute {outcome : Outcome} {info : RendererSideRequestInfo}
    (h : s.getRequestInfo held b c r alwaysRemove = some (some info, s'))
    (hout : alwaysRemove = false → outcome = .success) (callback : V8Value) (context : V8Context)
    (hp : p (.executed info.request info.isPersistent outcome callback context b c r)) :
    Keeps p s { s' with
      log := .executed info.request info.isPersistent outcome callback context b c r :: s'.log } := by
  obtain ⟨hinfo, m, rfl, hm⟩ := getRequestInfo_spec h
  refine ⟨fun hs => ?_, rfl, rfl, [_], rfl, by simpa using hp⟩
  show RequestsSound s.sent m.get? (_ :: s.log)
  rw [hm]
  unfold lookupAfter
  rw [← hinfo]
  dsimp only
  split
  · exact RequestsSound.execute_remove hs hinfo.symm outcome callback context
  · rename_i hr
    simp only [Bool.or_eq_true, Bool.not_eq_true', not_or, Bool.not_eq_true,
      Bool.not_eq_false] at hr
    obtain rfl := hout hr.1
    exact RequestsSound.execute_keep hs hinfo.symm hr.2 callback context

lemma executeSuccessCallback_keeps {payloadIsString enters : Bool}
    (hp : ∀ i persistent outcome callback context,
      p (.executed i persistent outcome callback context b c r))
    (h : s.executeSuccessCallback held b c r payloadIsString enters = some s') : Keeps p s s' := by
  simp only [executeSuccessCallback, bind_eq_bind, bind_eq_some_iff] at h
  obtain ⟨⟨found, t⟩, hget, h⟩ := h
  have hkeep : Keeps p s t := getRequestInfo_keeps hget
  dsimp only at h
  split at h
  · cases h
    exact hkeep
  · split at h
    · cases h
      exact hkeep
    · obtain ⟨context, -, h⟩ := bind_eq_some_iff.mp h
      split at h
      · cases h
        exact hkeep
      · split at h
        · cases h
          exact getRequestInfo_execute hget (fun _ => rfl) _ _ (hp _ _ _ _ _)
        · cases h
          exact hkeep

lemma executeFailureCallback_keeps (hp : ∀ i persistent outcome callback context,
      p (.executed i persistent outcome callback context b c r))
    (h : s.executeFailureCallback held b c r = some s') : Keeps p s s' := by
  simp only [executeFailureCallback, bind_eq_bind, bind_eq_some_iff] at h
  obtain ⟨⟨found, t⟩, hget, h⟩ := h
  have hkeep : Keeps p s t := getRequestInfo_keeps hget
  dsimp only at h
  split at h
  · cases h
    exact hkeep
  · split at h
    · cases h
      exact hkeep
    · obtain ⟨context, -, h⟩ := bind_eq_some_iff.mp h
      split at h
      · cases h
        exact hkeep
      · cases h
        exact getRequestInfo_execute hget Bool.noConfusion _ _ (hp _ _ _ _ _)

def CancelKeeps (p : RendererEvent → Prop) (s : RendererSideRouter)
    (g : Int → Int × Int → Option RendererSideRequestInfo) (walk : Nat × List RendererEvent) :
    Prop :=
  (s.Sound → RequestsSound s.sent g walk.2) ∧
    ∃ events, walk.2 = events ++ s.log ∧ ∀ e ∈ events, p e

lemma cancelVisitor_keeps (hp : ∀ i, p (.canceled i)) (b contextId : Int)
    (g : Int → Int × Int → Option RendererSideRequestInfo) (walk : Nat × List RendererEvent)
    (k : Int × Int) (info : RendererSideRequestInfo) (h : CancelKeeps p s g walk)
    (hg : g b k = some info) :
    CancelKeeps p s (if (cancelVisitor contextId b k info walk).1.result = .removeEntry
        then Lookup.remove g b k else g) (cancelVisitor contextId b k info walk).2 := by
  obtain ⟨n, log⟩ := walk
  obtain ⟨hsound, events, rfl, hev⟩ := h
  by_cases hc : contextId = k.1
  · have hv : cancelVisitor contextId b k info (n, events ++ s.log) =
        (.cont .removeEntry, n + 1, .canceled info.request :: (events ++ s.log)) := if_pos hc
    simp only [hv, ControlFlow.result, if_true]
    refine ⟨fun hs => (hsound hs).cancel hg, .canceled info.request :: events, rfl, ?_⟩
    intro e he
    rcases mem_cons.mp he with rfl | he
    · exact hp info.request
    · exact hev e he
  · have hv : cancelVisitor contextId b k info (n, events ++ s.log) =
        (.cont .keepEntry, n, events ++ s.log) := if_neg hc
    simp only [hv, ControlFlow.result]
    exact ⟨hsound, events, rfl, hev⟩

lemma cancelContext_keeps (s : RendererSideRouter) (browserId contextId : Int) (count : Nat)
    (hp : ∀ i, p (.canceled i)) : Keeps p s { s with
      browserRequestInfoMap := (s.browserRequestInfoMap.findBrowserAll browserId
        (cancelVisitor contextId) (count, s.log)).1
      log := (s.browserRequestInfoMap.findBrowserAll browserId (cancelVisitor contextId)
        (count, s.log)).2.2 } := by
  have hstart : CancelKeeps p s s.browserRequestInfoMap.get? (count, s.log) :=
    ⟨id, [], rfl, by simp⟩
  obtain ⟨hsound, hlog⟩ := BrowserInfoMap.findBrowserAll_rule hstart
    (cancelVisitor_keeps hp browserId contextId)
  exact ⟨hsound, rfl, rfl, hlog⟩

lemma mem_of_lock {m : RendererMutex} {held' : List RendererMutex}
    (h : m.lock held = some held') : m ∈ held' := by
  unfold RendererMutex.lock at h
  split at h
  · simp at h
  · cases h
    simp

lemma cancelRequests_keeps {count : Nat}
    (hheld : RendererMutex.browserRequestInfoMap ∈ held) (hp : ∀ i, p (.canceled i))
    (h : s.cancelRequests held b c r = some (count, s')) : Keeps p s s' := by
  unfold cancelRequests at h
  split at h
  · simp [getRequestInfo, RendererMutex.lock, hheld] at h
  · simp only [some.injEq, Prod.mk.injEq] at h
    obtain ⟨-, rfl⟩ := h
    exact cancelContext_keeps s b c 0 hp

lemma sendCancel_keeps {canceled : Bool} (hp : ∀ e, (∀ i, ¬ e.Executes i) → p e)
    (h : s.sendCancel held browser frame c r = some (canceled, s')) : Keeps p s s' := by
  simp only [sendCancel, bind_eq_bind, bind_eq_some_iff] at h
  obtain ⟨held', hheld, h⟩ := h
  split at h
  · obtain ⟨⟨count, t⟩, ht, h⟩ := bind_eq_some_iff.mp h
    have hkeep : Keeps p s t := cancelRequests_keeps (mem_of_lock hheld) (fun i => hp _ fun _ => id) ht
    split at h
    · simp only [Option.pure_def, Option.some.injEq, Prod.mk.injEq] at h
      obtain ⟨-, rfl⟩ := h
      refine hkeep.trans ⟨fun ht => ?_, rfl, rfl, [_], rfl, ?_⟩
      · exact RequestsSound.message ht (fun _ => id) (fun _ => id) trivial
      · simpa using hp (.cancelMessage c r) fun _ => id
    · simp only [Option.pure_def, Option.some.injEq, Prod.mk.injEq] at h
      obtain ⟨-, rfl⟩ := h
      exact hkeep
  · simp only [Option.pure_def, Option.some.injEq, Prod.mk.injEq] at h
    obtain ⟨-, rfl⟩ := h
    exact Keeps.refl s

lemma getIdForContext_keeps {context : V8Context} {remove : Bool}
    (h : s.getIdForContext held context remove = some (c, s')) : Keeps p s s' := by
  simp only [getIdForContext, bind_eq_bind, bind_eq_some_iff] at h
  obtain ⟨-, -, h⟩ := h
  split at h
  · split at h
    · simp only [Option.pure_def, Option.some.injEq, Prod.mk.injEq] at h
      obtain ⟨-, rfl⟩ := h
      exact ⟨id, rfl, rfl, [], rfl, by simp⟩
    · simp only [Option.pure_def, Option.some.injEq, Prod.mk.injEq] at h
      obtain ⟨-, rfl⟩ := h
      exact Keeps.refl s
  · simp only [Option.pure_def, Option.some.injEq, Prod.mk.injEq] at h
    obtain ⟨-, rfl⟩ := h
    exact Keeps.refl s

lemma onContextReleased_keeps {context : Option V8Context} (hp : ∀ e, (∀ i, ¬ e.Executes i) → p e)
    (h : s.onContextReleased held browser frame context = some s') : Keeps p s s' := by
  cases context with
  | none =>
    cases h
    exact Keeps.refl s
  | some context =>
    simp only [onContextReleased, bind_eq_bind, bind_eq_some_iff] at h
    obtain ⟨⟨c, t⟩, hid, h⟩ := h
    have hkeep : Keeps p s t := getIdForContext_keeps hid
    split at h
    · obtain ⟨⟨canceled, u⟩, hcancel, h⟩ := bind_eq_some_iff.mp h
      cases h
      exact hkeep.trans (sendCancel_keeps hp hcancel)
    · cases h
      exact hkeep

/-- The events that an entry point may log: a callback is executed for a response only, and
under the ids that the response carries. -/
def RespondsTo : Action → RendererEvent → Prop
  | a, .executed _ _ _ _ _ b c r =>
    ∃ m, a = .response (some b) m ∧ m.contextId = c ∧ m.requestId = r
  | _, _ => True

lemma RespondsTo.of_not_executes (a : Action) (e : RendererEvent) (h : ∀ i, ¬ e.Executes i) :
    RespondsTo a e := by
  cases e with
  | executed i => exact (h i rfl).elim
  | canceled => trivial
  | queryMessage => trivial
  | cancelMessage => trivial

lemma step_keeps (h : s.step a = some s')
    (ha : ∀ b f c p sc fc, a ≠ .sendQuery b f c p sc fc) : Keeps (RespondsTo a) s s' := by
  have hp := RespondsTo.of_not_executes a
  cases a with
  | createIdForContext context =>
    simp only [step, createIdForContext, RendererMutex.lock] at h
    cases h
    exact ⟨id, rfl, rfl, [], rfl, by simp⟩
  | sendQuery b f c p sc fc => exact (ha b f c p sc fc rfl).elim
  | sendCancel browser frame c r =>
    obtain ⟨⟨canceled, t⟩, hcancel, rfl⟩ := map_eq_some_iff.mp h
    exact sendCancel_keeps hp hcancel
  | contextReleased browser frame context => exact onContextReleased_keeps hp h
  | response browser m =>
    cases browser with
    | none =>
      cases h
      exact Keeps.refl s
    | some b =>
      simp only [step, onProcessMessageReceived] at h
      split at h
      · exact executeSuccessCallback_keeps (fun _ _ _ _ _ => ⟨m, rfl, rfl, rfl⟩) h
      · exact executeFailureCallback_keeps (fun _ _ _ _ _ => ⟨m, rfl, rfl, rfl⟩) h

lemma sendQuery_cases {persistent : Bool} {success failure : Option V8Value}
    (h : s.sendQuery held browser frame c persistent success failure = some (r, s')) :
    s' = s ∨ ∃ b, s' = { s with
      requestIdGenerator := s.requestIdGenerator.next.2
      browserRequestInfoMap := s.browserRequestInfoMap.insert b
        (c, s.requestIdGenerator.next.1) ⟨persistent, success, failure, s.sent.length⟩
      sent := s.sent ++ [⟨b, c, s.requestIdGenerator.next.1, persistent⟩]
      log := .queryMessage c s.requestIdGenerator.next.1 persistent :: s.log } := by
  simp only [sendQuery, bind_eq_bind, bind_eq_some_iff] at h
  obtain ⟨-, -, -, -, h⟩ := h
  split at h
  · rename_i b _
    simp only [Option.pure_def, Option.some.injEq, Prod.mk.injEq] at h
    exact .inr ⟨b, h.2.symm⟩
  · simp only [Option.pure_def, Option.some.injEq, Prod.mk.injEq] at h
    exact .inl h.2.symm

/-! ### Runs -/

/-- The invariant of a router state: as long as the generator of request ids has not wrapped
around, it counts the requests, and these are sound. -/
def Inv (s : RendererSideRouter) : Prop :=
  (s.sent.length : Int) ≤ i32Max →
    s.Sound ∧ s.requestIdGenerator = ⟨s.sent.length, reservedId, i32Max⟩

lemma new_inv : new.Inv := by
  intro _
  refine ⟨⟨?_, ?_, ?_, ?_, ?_, final_nil⟩, rfl⟩
  · intro i r h
    simp [new] at h
  · intro b k info h
    simp [new] at h
  · intro b k info h
    simp [new] at h
  · intro i h
    exact (settled_nil i h).elim
  · intro e h
    simp [new] at h

lemma store_inv (h : s.Inv) (b c : Int) (persistent : Bool) (success failure : Option V8Value) :
    Inv { s with
      requestIdGenerator := s.requestIdGenerator.next.2
      browserRequestInfoMap := s.browserRequestInfoMap.insert b
        (c, s.requestIdGenerator.next.1) ⟨persistent, success, failure, s.sent.length⟩
      sent := s.sent ++ [⟨b, c, s.requestIdGenerator.next.1, persistent⟩]
      log := .queryMessage c s.requestIdGenerator.next.1 persistent :: s.log } := by
  intro hlen
  simp only [length_append, length_cons, length_nil, Nat.zero_add] at hlen
  obtain ⟨hs, hgen⟩ := h (by omega)
  have hnext : s.requestIdGenerator.next =
      ((s.sent.length : Int) + 1, ⟨(s.sent.length : Int) + 1, reservedId, i32Max⟩) := by
    rw [hgen]
    exact IdGenerator.next_of_lt (show (s.sent.length : Int) < i32Max by omega)
  simp only [hnext]
  refine ⟨?_, by simp⟩
  refine RequestsSound.message ?_ (fun _ => id) (fun _ => id) trivial
  have hget : (s.browserRequestInfoMap.insert b (c, (s.sent.length : Int) + 1)
      ⟨persistent, success, failure, s.sent.length⟩).get? = fun b' k' =>
        if b' = b ∧ k' = (c, (s.sent.length : Int) + 1) then
          some ⟨persistent, success, failure, s.sent.length⟩
        else s.browserRequestInfoMap.get? b' k' := by
    funext b' k'
    rw [BrowserInfoMap.get?_insert]
  rw [hget]
  exact RequestsSound.store hs b c persistent success failure

theorem step_inv (h : s.Inv) (hs : s.step a = some s') : s'.Inv := by
  by_cases ha : ∃ b f c p sc fc, a = .sendQuery b f c p sc fc
  · obtain ⟨b, f, c, p, sc, fc, rfl⟩ := ha
    obtain ⟨⟨r, t⟩, hquery, rfl⟩ := map_eq_some_iff.mp hs
    rcases sendQuery_cases hquery with rfl | ⟨b, rfl⟩
    · exact h
    · exact store_inv h b c p sc fc
  · have hk := step_keeps hs fun b f c p sc fc heq => ha ⟨b, f, c, p, sc, fc, heq⟩
    intro hlen
    rw [hk.sent] at hlen ⊢
    obtain ⟨hsound, hgen⟩ := h hlen
    exact ⟨hk.sound hsound, hk.generator.trans hgen⟩

/-- **One step** executes callbacks only to answer a response, under the response's ids. -/
lemma step_log (hs : s.step a = some s') :
    ∃ events, s'.log = events ++ s.log ∧ ∀ e ∈ events, RespondsTo a e := by
  by_cases ha : ∃ b f c p sc fc, a = .sendQuery b f c p sc fc
  · obtain ⟨b, f, c, p, sc, fc, rfl⟩ := ha
    obtain ⟨⟨r, t⟩, hquery, rfl⟩ := map_eq_some_iff.mp hs
    rcases sendQuery_cases hquery with rfl | ⟨b, rfl⟩
    · exact ⟨[], rfl, by simp⟩
    · exact ⟨[_], rfl, by simp [RespondsTo]⟩
  · exact (step_keeps hs fun b f c p sc fc heq => ha ⟨b, f, c, p, sc, fc, heq⟩).log

/-- A request that is not persistent has at most one callback executed; a request has none
executed after its failure callback or its cancellation; a callback is executed for the ids under
which its request was stored, and no other request was stored under them. -/
structure CallbackDiscipline (s : RendererSideRouter) : Prop where
  once : ∀ i r, s.sent[i]? = some r → r.isPersistent = false →
    (s.log.filter (·.Executes i)).length ≤ 1
  final : ∀ i, s.log.Pairwise fun later earlier => earlier.Closes i → ¬ later.Executes i
  own : ∀ e ∈ s.log, e.Own s.sent
  distinct : ∀ (i j : Nat) (r r' : SentRequest), s.sent[i]? = some r → s.sent[j]? = some r' →
    r.browserId = r'.browserId → r.contextId = r'.contextId → r.requestId = r'.requestId → i = j

/-- The invariant gives the discipline.

**Proof sketch.** The execution of a callback of a request that is not persistent ends the
request, so that no two of them are in the log. -/
lemma Sound.callbackDiscipline (h : s.Sound) : s.CallbackDiscipline where
  once i r hr hp := by
    have hend : ∀ e ∈ s.log, e.Executes i → e.Ends i := by
      intro e he hex
      cases e with
      | executed i' persistent outcome callback context b c k =>
        obtain rfl : i' = i := hex
        have hown := h.own _ he
        have : (⟨b, c, k, persistent⟩ : SentRequest) = r := some.inj (hown.symm.trans hr)
        exact ⟨rfl, .inl (by rw [← hp, ← this])⟩
      | canceled => exact hex.elim
      | queryMessage => exact hex.elim
      | cancelMessage => exact hex.elim
    refine h.final.length_filter_le_one (i := i) fun e he hex => ?_
    have hex : e.Executes i := of_decide_eq_true hex
    exact ⟨hend e he hex, hex⟩
  final i := h.final.imp fun hfin hc => hfin i hc.ends
  own := h.own
  distinct i j r r' hr hr' _ _ hid := by
    have h₁ := h.ids i r hr
    have h₂ := h.ids j r' hr'
    omega

/-- **Callback discipline of the renderer-side router**: in every state of every run that has
generated fewer than `i32::MAX` request ids the discipline holds, and whatever comes next
executes callbacks only to answer a response, under the ids that it carries. -/
theorem callback_discipline {acts : List Action} (h : acts.foldlM step new = some s)
    (hids : (s.sent.length : Int) < i32Max) :
    s.CallbackDiscipline ∧ ∀ a s', s.step a = some s' →
      ∃ events, s'.log = events ++ s.log ∧ ∀ e ∈ events, RespondsTo a e := by
  have hinv : s.Inv := Transition.run_invariant (fun _ _ _ => step_inv) new_inv h
  exact ⟨(hinv (by omega)).1.callbackDiscipline, fun _ _ => step_log⟩

/-- Two requests of one context; the first is not persistent and its response is repeated, the
second is persistent and is answered twice before its context is released. -/
def crossedResponses : List Action :=
  [.createIdForContext 5, .sendQuery (some 1) (some ⟨1, true⟩) 1 false (some 10) (some 11),
    .sendQuery (some 1) (some ⟨1, true⟩) 1 true (some 20) (some 21), .response (some 1) ⟨1, 1, true,
    true, true⟩, .response (some 1) ⟨1, 1, false, true, true⟩, .response (some 1) ⟨1, 2, true, true,
    true⟩, .response (some 1) ⟨1, 2, true, true, true⟩, .contextReleased (some 1) (some ⟨1,
    true⟩) (some 5), .response (some 1) ⟨1, 2, false, true, true⟩]

/-- In this run the first request has one callback executed and the second has two. -/
theorem callback_discipline_crossedResponses : ∃ s, crossedResponses.foldlM step new = some s ∧
    (s.log.filter (·.Executes 0)).length = 1 ∧ (s.log.filter (·.Executes 1)).length = 2 ∧
    s.CallbackDiscipline := by
  have hrun : crossedResponses.foldlM step new =
      some ((crossedResponses.foldlM step new).getD new) :=
    (getD_of_ne_none (isSome_iff_ne_none.mp (by decide)) _).symm
  exact ⟨_, hrun, by decide, by decide, (callback_discipline hrun (by decide)).1⟩

end RendererSideRouter

end CefCore.MessageRouter
