import CefCore.MessageRouter.BrowserSideFilters
import CefCore.MessageRouter.RendererSideCallbacks

/-!
# Two message routers and the messages between them

A renderer-side and a browser-side router of `rust/cef-rs/cef/src/wrapper/message_router.rs`, for one
frame of one browser. The process messages of a frame arrive in the order in which they have been
sent, at any time: in between JavaScript sends queries and releases contexts, and the browser process
runs the tasks of its callbacks, registers and removes handlers and cancels queries.

## Main definitions

* `RouterPair.step`: a step of one side, or a message that arrives.

## Implementation notes

What a router has sent is read off its log, so that only the numbers of the messages that have
arrived are added to the states of the two routers.
-/

namespace CefCore.MessageRouter

open Std List Option

inductive RouterMessage where
  | query (contextId requestId : Int) (isPersistent : Bool)
  | cancel (contextId requestId : Int)
  deriving DecidableEq

structure RouterResponse where
  contextId : Int
  requestId : Int
  outcome : Outcome
  deriving DecidableEq

def RendererEvent.message? : RendererEvent → Option RouterMessage
  | .queryMessage contextId requestId isPersistent => some (.query contextId requestId isPersistent)
  | .cancelMessage contextId requestId => some (.cancel contextId requestId)
  | _ => none

def RendererEvent.response? : RendererEvent → Option RouterResponse
  | .executed _ _ outcome _ _ _ contextId requestId => some ⟨contextId, requestId, outcome⟩
  | _ => none

def RouterEvent.response? : RouterEvent → Option RouterResponse
  | .querySuccess _ _ contextId requestId => some ⟨contextId, requestId, .success⟩
  | .queryFailure _ _ contextId requestId _ _ => some ⟨contextId, requestId, .failure⟩
  | _ => none

def Effects.responses (e : Effects) : List RouterResponse :=
  e.log.reverse.filterMap RouterEvent.response?

namespace RendererSideRouter

def messages (s : RendererSideRouter) : List RouterMessage :=
  s.log.reverse.filterMap RendererEvent.message?

def answers (s : RendererSideRouter) : List RouterResponse :=
  s.log.reverse.filterMap RendererEvent.response?

end RendererSideRouter

/-- The two routers, and how many messages have arrived in the browser process and how many
responses in the renderer process. -/
structure RouterPair where
  renderer : RendererSideRouter
  browser : BrowserSideRouter
  arrived : Nat
  answered : Nat

namespace RouterPair

def toBrowser (s : RouterPair) : List RouterMessage := s.renderer.messages.drop s.arrived

def toRenderer (s : RouterPair) : List RouterResponse :=
  s.browser.effects.responses.drop s.answered

inductive Action where
  | createIdForContext (context : V8Context)
  | sendQuery (contextId : Int) (isPersistent : Bool)
      (successCallback failureCallback : Option V8Value)
  | sendCancel (contextId requestId : Int)
  | contextReleased (context : Option V8Context)
  /-- Something in the browser process that no message causes. -/
  | browser (action : BrowserSideRouter.Action)
  | messageArrives (answers : Nat → Bool)
  | responseArrives (payloadIsString enters : Bool)

def callRenderer (s : RouterPair) (a : RendererSideRouter.Action) : Option RouterPair :=
  (s.renderer.step a).map fun renderer => { s with renderer }

/-- The first message arrives in the browser process. -/
def receive (browserId : Int) (frame : Frame) (s : RouterPair) (answers : Nat → Bool) :
    RouterMessage → BrowserSideRouter
  | .query contextId requestId isPersistent => s.browser.step
    (.queryMessage (some browserId) (some frame) contextId requestId isPersistent answers)
  | .cancel contextId requestId =>
    s.browser.step (.cancelMessage (some browserId) contextId requestId)

def step (browserId : Int) (frame : Frame) (s : RouterPair) : Action → Option RouterPair
  | .createIdForContext context => s.callRenderer (.createIdForContext context)
  | .sendQuery contextId isPersistent successCallback failureCallback =>
    s.callRenderer (.sendQuery (some browserId) (some frame) contextId isPersistent successCallback
      failureCallback)
  | .sendCancel contextId requestId =>
    s.callRenderer (.sendCancel (some browserId) (some frame) contextId requestId)
  | .contextReleased context =>
    s.callRenderer (.contextReleased (some browserId) (some frame) context)
  | .browser action =>
    match action with
    | .queryMessage .. | .cancelMessage .. => none
    | action => some { s with browser := s.browser.step action }
  | .messageArrives answers =>
    s.toBrowser.head?.map fun message =>
      { s with browser := s.receive browserId frame answers message, arrived := s.arrived + 1 }
  | .responseArrives payloadIsString enters =>
    s.toRenderer.head?.bind fun response =>
      ({ s with answered := s.answered + 1 } : RouterPair).callRenderer
        (.response (some browserId) ⟨response.contextId, response.requestId,
          response.outcome = .success, payloadIsString, enters⟩)

def new : RouterPair := ⟨.new, .new, 0, 0⟩

end RouterPair

/-! ### What the browser-side router does with its queries -/

def RouterResponse.Ends (x : RouterResponse) (contextId requestId : Int) (isPersistent : Bool) :
    Prop :=
  x.contextId = contextId ∧ x.requestId = requestId ∧
    (x.outcome = .failure ∨ isPersistent = false)

namespace BrowserSideRouter

variable {s s' t : BrowserSideRouter} {lost : BrowserSideQueryInfo → Prop} {b k : Int}

/-- From `s` to `s'` no query has become pending, responses are sent for pending queries only, and
each of these is still pending, has been sent its last response, or may be lost. -/
structure Treats (lost : BrowserSideQueryInfo → Prop) (s s' : BrowserSideRouter) : Prop where
  generator : s'.queryIdGenerator = s.queryIdGenerator
  kept : ∀ b k info, s'.browserQueryInfoMap.get? b k = some info →
    s.browserQueryInfoMap.get? b k = some info
  sent : ∃ new, s'.effects.responses = s.effects.responses ++ new ∧
    (∀ x ∈ new, ∃ b k info, s.browserQueryInfoMap.get? b k = some info ∧
      info.contextId = x.contextId ∧ info.requestId = x.requestId) ∧
    ∀ b k info, s.browserQueryInfoMap.get? b k = some info →
      s'.browserQueryInfoMap.get? b k = some info ∨ lost info ∨
        ∃ x ∈ new, x.Ends info.contextId info.requestId info.isPersistent

lemma Treats.of_eq (h : Treats lost s t) (hgen : s'.queryIdGenerator = t.queryIdGenerator)
    (hmap : s'.browserQueryInfoMap = t.browserQueryInfoMap)
    (hresp : s'.effects.responses = t.effects.responses) : Treats lost s s' where
  generator := hgen.trans h.generator
  kept := hmap ▸ h.kept
  sent := by rw [hresp, hmap]; exact h.sent

lemma Treats.refl (lost : BrowserSideQueryInfo → Prop) (s : BrowserSideRouter) :
    Treats lost s s where
  generator := rfl
  kept _ _ _ h := h
  sent := ⟨[], (append_nil _).symm, by simp, fun _ _ _ h => .inl h⟩

/-! ### The responses of an operation -/

lemma responses_report (e : Effects) (event : RouterEvent) :
    (e.report event).responses = e.responses ++ event.response?.toList := by
  unfold Effects.responses Effects.report
  rw [reverse_cons, filterMap_append]
  cases h : event.response? <;> simp [h]

lemma responses_sendQueryFailure (e : Effects) (query : Option Query) (frame : Option Frame)
    (c r errorCode : Int) (errorMessage : String) :
    (e.sendQueryFailure query frame c r errorCode errorMessage).responses =
      e.responses ++ if frame.isSome then [⟨c, r, .failure⟩] else [] := by
  cases frame with
  | none => exact (append_nil _).symm
  | some frame => exact responses_report ..

lemma responses_sendQuerySuccess (e : Effects) (query : Option Query) (frame : Option Frame)
    (c r : Int) (builds : Bool) :
    (e.sendQuerySuccess query frame c r builds).responses =
      e.responses ++ if builds && frame.isSome then [⟨c, r, .success⟩] else [] := by
  cases frame with
  | none => cases builds <;> exact (append_nil _).symm
  | some frame =>
    cases builds with
    | false => exact (append_nil _).symm
    | true => exact responses_report ..

def cancelResponse (notifyRenderer : Bool) (t : PendingEntry) : List RouterResponse :=
  if notifyRenderer && t.2.2.frame.isSome then [⟨t.2.2.contextId, t.2.2.requestId, .failure⟩] else []

lemma responses_cancelQuery (e : Effects) (t : PendingEntry) (notify : Bool) :
    (e.cancelQuery t.2.1 t.2.2 notify).responses = e.responses ++ cancelResponse notify t := by
  have hnotified : (e.cancelQuery t.2.1 t.2.2 notify).responses = (if notify then
      e.sendQueryFailure t.2.2.callback t.2.2.frame t.2.2.contextId t.2.2.requestId
        canceledErrorCode canceledErrorMessage else e).responses := by
    unfold Effects.cancelQuery Effects.detach
    cases t.2.2.handler <;> cases t.2.2.callback <;>
      simp [Effects.report, Effects.responses, RouterEvent.response?]
  rw [hnotified]
  cases notify with
  | false => simp [cancelResponse]
  | true => simp [responses_sendQueryFailure, cancelResponse]

lemma responses_foldl_cancelQuery (notify : Bool) : ∀ (targets : List PendingEntry) (e : Effects),
    (targets.foldl (fun e t => e.cancelQuery t.2.1 t.2.2 notify) e).responses =
      e.responses ++ targets.flatMap (cancelResponse notify)
  | [], e => (append_nil _).symm
  | t :: targets, e => by
    rw [foldl_cons, responses_foldl_cancelQuery notify targets, responses_cancelQuery,
      flatMap_cons, append_assoc]

/-- **A cancellation** loses a query unless it tells the renderer, in a frame. -/
lemma CancelsExactly.treats {targets : List PendingEntry} {notify : Bool}
    {browser : Option Int} (h : s.CancelsExactly s' targets notify)
    (hsub : targets ⊆ s.pendingEntries browser)
    (hlost : ∀ e ∈ targets, notify = false ∨ e.2.2.frame = none → lost e.2.2) :
    Treats lost s s' where
  generator := h.queryIdGenerator
  kept b k info hg := by
    rw [h.removed] at hg
    split at hg
    · simp at hg
    · exact hg
  sent := by
    have htold : ∀ e ∈ targets, ∀ x ∈ cancelResponse notify e,
        x = ⟨e.2.2.contextId, e.2.2.requestId, .failure⟩ := by
      intro e _ x hx
      unfold cancelResponse at hx
      split at hx
      · exact mem_singleton.mp hx
      · simp at hx
    refine ⟨targets.flatMap (cancelResponse notify), ?_, fun x hx => ?_, fun b k info hg => ?_⟩
    · rw [h.canceled, responses_foldl_cancelQuery]
    · obtain ⟨⟨b, k, info⟩, he, hx⟩ := mem_flatMap.mp hx
      rw [htold _ he x hx]
      exact ⟨b, k, info, get?_of_mem_pendingEntries (hsub he), rfl, rfl⟩
    · rw [h.removed]
      split
      · rename_i hmem
        obtain ⟨⟨b', k', info'⟩, he, heq⟩ := mem_map.mp hmem
        cases heq
        cases (get?_of_mem_pendingEntries (hsub he)).symm.trans hg
        by_cases htell : (notify && info.frame.isSome) = true
        · refine .inr (.inr ⟨⟨info.contextId, info.requestId, .failure⟩, ?_, rfl, rfl, .inl rfl⟩)
          exact mem_flatMap.mpr ⟨_, he, by simp [cancelResponse, htell]⟩
        · refine .inr (.inl (hlost _ he ?_))
          cases notify with
          | false => exact .inl rfl
          | true => exact .inr (by simpa using htell)
      · exact .inl hg

/-- **A callback** answers the query under its ids, which stays pending only if it is persistent. -/
lemma treats_of_lookupAfter (hgen : s'.queryIdGenerator = s.queryIdGenerator)
    (hmap : s'.browserQueryInfoMap.get? = s.lookupAfter b k) (outcome : Outcome) (sends : Bool)
    (hresp : s'.effects.responses = s.effects.responses ++
      (s.browserQueryInfoMap.get? b k).elim [] fun info => if sends && info.frame.isSome then
        [⟨info.contextId, info.requestId, outcome⟩] else [])
    (hlost : ∀ info, sends = false ∨ info.frame = none → lost info) : Treats lost s s' := by
  cases hg : s.browserQueryInfoMap.get? b k with
  | none =>
    simp only [lookupAfter, hg] at hmap
    rw [hg] at hresp
    refine ⟨hgen, fun b k info h => ?_, [], hresp, by simp, fun b k info h => .inl ?_⟩
    · rwa [hmap] at h
    · rwa [hmap]
  | some info =>
    simp only [lookupAfter, hg] at hmap
    rw [hg] at hresp
    refine ⟨hgen, fun b' k' info' hg' => ?_, _, hresp, fun x hx => ?_, fun b' k' info' hg' => ?_⟩
    · rw [hmap] at hg'
      split at hg'
      · exact hg'
      · exact (Lookup.remove_eq_some.mp hg').2
    · refine ⟨b, k, info, hg, ?_⟩
      rw [elim_some] at hx
      split at hx
      · cases mem_singleton.mp hx
        exact ⟨rfl, rfl⟩
      · simp at hx
    · rw [hmap]
      split
      · exact .inl hg'
      · rename_i hp
        by_cases hkey : b' = b ∧ k' = k
        · obtain ⟨rfl, rfl⟩ := hkey
          cases hg.symm.trans hg'
          refine .inr ?_
          by_cases htell : (sends && info.frame.isSome) = true
          · refine .inr ⟨⟨info.contextId, info.requestId, outcome⟩, ?_, rfl, rfl,
              .inr (by simpa using hp)⟩
            rw [elim_some, if_pos htell]
            exact mem_singleton_self _
          · refine .inl (hlost info ?_)
            cases sends with
            | false => exact .inl rfl
            | true => exact .inr (by simpa using htell)
        · exact .inl (Lookup.remove_eq_some.mpr ⟨hkey, hg'⟩)

/-! ### What each entry point does with the pending queries -/

lemma onCallbackSuccess_treats (b k : Int) (builds : Bool)
    (hlost : ∀ info, builds = false ∨ info.frame = none → lost info) :
    Treats lost s (s.onCallbackSuccess b k builds) := by
  obtain ⟨m, hs, hm⟩ := s.getQueryInfo_eq b k
  refine treats_of_lookupAfter (b := b) (k := k) ?_ ?_ .success builds ?_ hlost
  all_goals unfold onCallbackSuccess; rw [hs]; cases hg : s.browserQueryInfoMap.get? b k
  · rfl
  · rfl
  · exact hm
  · exact hm
  · exact (append_nil _).symm
  · exact responses_sendQuerySuccess ..

lemma onCallbackFailure_treats (b k errorCode : Int) (errorMessage : String)
    (hlost : ∀ info, info.frame = none → lost info) :
    Treats lost s (s.onCallbackFailure b k errorCode errorMessage) := by
  obtain ⟨m, hs, hm⟩ := s.getQueryInfo_eq b k
  refine treats_of_lookupAfter (b := b) (k := k) ?_ ?_ .failure true ?_ fun info h =>
    hlost info (h.resolve_left Bool.noConfusion)
  all_goals unfold onCallbackFailure; rw [hs]; cases hg : s.browserQueryInfoMap.get? b k
  · rfl
  · rfl
  · exact hm
  · exact hm
  · exact (append_nil _).symm
  · exact responses_sendQueryFailure ..

lemma cancelPendingFor_treats (browser handlerId : Option Int) (notify : Bool)
    (hlost : ∀ info, notify = false ∨ info.frame = none → lost info) :
    Treats lost s (s.cancelPendingFor browser handlerId notify) :=
  (s.cancelPendingFor_cancels browser handlerId notify).treats (filter_subset_self _)
    fun e _ => hlost e.2.2

def MayLose : Action → BrowserSideQueryInfo → Prop
  | .addHandler .., _ => False
  | .removeHandler _, info | .cancelPending .., info | .failureTask .., info => info.frame = none
  | .cancelPendingForTask _ _ notify, info => notify = false ∨ info.frame = none
  | .onBeforeClose _, _ | .onRenderProcessTerminated _, _ | .onBeforeBrowse .., _ => True
  | .queryMessage .., _ => False
  | .cancelMessage _ contextId requestId, info =>
    info.contextId = contextId ∧ requestId = reservedId ∨ info.requestId = requestId
  | .successTask _ _ builds, info => builds = false ∨ info.frame = none

lemma removeHandler_treats (handlerId : Int)
    (hlost : ∀ info, info.frame = none → lost info) :
    Treats lost s (s.removeHandler handlerId).2 := by
  unfold removeHandler
  split
  · exact Treats.refl _ s
  · split
    · exact Treats.refl _ s
    · rename_i index _ _ _ _
      split
      · have h := cancelPendingFor_treats (s := { s with handlers := trim { s.handlers with
            handlers := s.handlers.handlers.set index none } }) none (some handlerId) true
            fun info h => hlost info (h.resolve_left Bool.noConfusion)
        exact ⟨h.generator, h.kept, h.sent⟩
      · exact (Treats.refl _ s).of_eq rfl rfl rfl

lemma cancelPendingRequest_treats (browserId c r : Int) (hlost : ∀ info,
      info.contextId = c ∧ r = reservedId ∨ info.requestId = r → lost info) :
    Treats lost s (s.cancelPendingRequest browserId c r) := by
  refine (s.cancelPendingRequest_cancels browserId c r).treats
    (s.selectedByRequest_subset browserId c r) fun e he _ => hlost e.2.2 ?_
  unfold selectedByRequest at he
  split at he
  · rename_i hr
    rcases of_decide_eq_true (mem_filter.mp he).2 with hc | hc
    · exact .inl ⟨hc, hr⟩
    · exact .inr (hc.trans hr.symm)
  · have hr := find?_some (mem_toList.mp he)
    exact .inr (of_decide_eq_true hr)

lemma executeSuccess_treats (q : Query) (held builds : Bool)
    (hlost : ∀ info, builds = false ∨ info.frame = none → lost info) :
    Treats lost s (s.executeSuccess q held builds) := by
  unfold executeSuccess
  split
  · exact Treats.refl _ s
  · rename_i callback _
    split
    · have h := onCallbackSuccess_treats (s := s) callback.browserId callback.queryId builds hlost
      have hdetach := onCallbackSuccess_detach s q callback.browserId callback.queryId builds
      unfold detach at hdetach
      cases callback.persistent <;> cases callback.router <;> dsimp only <;>
        simp
      · exact (Treats.refl _ s).of_eq rfl rfl rfl
      · rw [hdetach]
        exact h.of_eq rfl rfl rfl
      · exact Treats.refl _ s
      · exact h
    · exact Treats.refl _ s

lemma executeFailure_treats (q : Query) (held : Bool) (errorCode : Int) (errorMessage : String)
    (hlost : ∀ info, info.frame = none → lost info) :
    Treats lost s (s.executeFailure q held errorCode errorMessage) := by
  unfold executeFailure
  split
  · exact Treats.refl _ s
  · rename_i callback _
    split
    · have h := onCallbackFailure_treats (s := s) callback.browserId callback.queryId errorCode
        errorMessage hlost
      have hdetach := onCallbackFailure_detach s q callback.browserId callback.queryId errorCode
        errorMessage
      unfold detach at hdetach
      split
      · rw [hdetach]
        exact h.of_eq rfl rfl rfl
      · exact (Treats.refl _ s).of_eq rfl rfl rfl
    · exact Treats.refl _ s

lemma Treats.report (h : Treats lost s s') {event : RouterEvent} (he : event.response? = none) :
    Treats lost s (s'.report event) := by
  refine h.of_eq rfl rfl ?_
  show (s'.effects.report event).responses = _
  rw [responses_report, he, toList_none, append_nil]

/-- **Every entry point but the one for query messages** answers pending queries only, and drops
the others only where it may. -/
lemma step_treats {a : Action} (ha : ∀ b f c r p answers, a ≠ .queryMessage b f c r p answers) :
    Treats (MayLose a) s (s.step a) := by
  cases a with
  | addHandler handler first =>
    refine (Treats.refl _ s).of_eq ?_ ?_ ?_ <;>
      simp only [step, addHandler] <;> split <;> [rfl; split <;> rfl; rfl; split <;> rfl; rfl; split <;> rfl]
  | removeHandler handlerId => exact removeHandler_treats _ fun _ => id
  | cancelPending browser handlerId =>
    exact cancelPendingFor_treats _ _ true fun info h => h.resolve_left Bool.noConfusion
  | cancelPendingForTask browser handlerId notify => exact cancelPendingFor_treats _ _ _ fun _ => id
  | onBeforeClose browser => exact cancelPendingFor_treats _ _ _ fun _ _ => trivial
  | onRenderProcessTerminated browser => exact cancelPendingFor_treats _ _ _ fun _ _ => trivial
  | onBeforeBrowse browser frame =>
    simp only [step, onBeforeBrowse]
    split
    · exact cancelPendingFor_treats _ _ _ fun _ _ => trivial
    · exact Treats.refl _ s
  | queryMessage b f c r p answers => exact absurd rfl (ha b f c r p answers)
  | cancelMessage browser c r =>
    cases browser with
    | none => exact Treats.refl _ s
    | some browser => exact cancelPendingRequest_treats _ _ _ fun _ => id
  | successTask q held builds =>
    simp only [step]
    split
    · exact Treats.refl _ s
    · exact (executeSuccess_treats q held builds fun _ => id).report rfl
  | failureTask q held errorCode errorMessage =>
    simp only [step]
    split
    · exact Treats.refl _ s
    · exact (executeFailure_treats q held errorCode errorMessage fun _ => id).report rfl

lemma offerQuery_responses (answers : Nat → Bool) (offset queryId : Int) :
    ∀ (handlers : List (Option Handler)) (index : Nat) (e : Effects),
      Effects.responses { e with
        log := (offerQuery answers offset queryId index handlers e.log).2 } = e.responses
  | [], _, _ => rfl
  | none :: rest, index, e => offerQuery_responses answers offset queryId rest (index + 1) e
  | some handler :: rest, index, e => by
    have hon : (e.report (.onQuery handler queryId)).responses = e.responses := by
      rw [responses_report]
      exact append_nil _
    unfold offerQuery
    split
    · split
      · exact hon
      · exact (offerQuery_responses answers offset queryId rest (index + 1)
          (e.report (.onQuery handler queryId))).trans hon
    · exact offerQuery_responses answers offset queryId rest (index + 1) e

/-- From `s` to `s'` the query of a query message becomes pending under the next query id, or it is
refused. -/
inductive Takes (b : Int) (f : Frame) (c r : Int) (p : Bool) (s s' : BrowserSideRouter) : Prop where
  | pending (info : BrowserSideQueryInfo) (frame : info.frame = some f)
      (ids : info.contextId = c ∧ info.requestId = r ∧ info.isPersistent = p)
      (generator : s'.queryIdGenerator = s.queryIdGenerator.next.2)
      (responses : s'.effects.responses = s.effects.responses)
      (map : ∀ b' k, s'.browserQueryInfoMap.get? b' k =
        if b' = b ∧ k = s.queryIdGenerator.next.1 then some info
        else s.browserQueryInfoMap.get? b' k)
  | refused (generator : s'.queryIdGenerator = s.queryIdGenerator ∨
        s'.queryIdGenerator = s.queryIdGenerator.next.2)
      (responses : s'.effects.responses = s.effects.responses ++ [⟨c, r, .failure⟩])
      (map : s'.browserQueryInfoMap = s.browserQueryInfoMap)

lemma onQueryMessage_takes (s : BrowserSideRouter) (b : Int) (f : Frame) (c r : Int) (p : Bool)
    (answers : Nat → Bool) :
    Takes b f c r p s (s.onQueryMessage (some b) (some f) c r p answers) := by
  set s' := s.onQueryMessage (some b) (some f) c r p answers with hs'
  set queryId := s.queryIdGenerator.next.1
  unfold onQueryMessage at hs'
  have hrefused : ∀ e : Effects, (e.cancelUnhandledQuery (some f) c r).responses =
      e.responses ++ [⟨c, r, .failure⟩] := fun e =>
    responses_sendQueryFailure e none (some f) c r canceledErrorCode canceledErrorMessage
  cases hempty : s.handlers.handlers.isEmpty with
  | true =>
    rw [hempty] at hs'
    rw [hs']
    exact .refused (.inl rfl) (hrefused _) rfl
  | false =>
    rw [hempty] at hs'
    have hoffer := offerQuery_responses answers s.handlers.offset queryId s.handlers.handlers 0
      { s.effects with callbacks := s.effects.callbacks ++ [⟨true, b, queryId, p⟩] }
    dsimp only at hs'
    split at hs'
    · rw [hs']
      exact .pending _ rfl ⟨rfl, rfl, rfl⟩ rfl hoffer fun b' k =>
        BrowserInfoMap.get?_insert _ _ _ _ _ _
    · rw [hs']
      exact .refused (.inr rfl) ((hrefused _).trans (congrArg (· ++ _) hoffer)) rfl

end BrowserSideRouter

/-! ### What the renderer-side router does with its requests -/

namespace RendererSideRouter

variable {s s' : RendererSideRouter} {held : List RendererMutex} {b c r : Int} {f : Frame}

/-- From `s` to `s'` requests of the browser are only taken out, for a cancel message all those of its
context; a callback is executed at most for the response. -/
structure Sheds (b : Int) (x : Option RouterResponse) (s s' : RendererSideRouter) : Prop where
  generator : s'.requestIdGenerator = s.requestIdGenerator
  kept : ∀ k info, s'.browserRequestInfoMap.get? b k = some info →
    s.browserRequestInfoMap.get? b k = some info
  messages : s'.messages = s.messages ∨ ∃ c, s'.messages = s.messages ++ [.cancel c reservedId] ∧
    ∀ r, s'.browserRequestInfoMap.get? b (c, r) = none
  answers : ∃ l, l.Sublist x.toList ∧ s'.answers = s.answers ++ l

lemma Sheds.of_eq {x : Option RouterResponse} (hgen : s'.requestIdGenerator = s.requestIdGenerator)
    (hmap : s'.browserRequestInfoMap = s.browserRequestInfoMap) (hlog : s'.log = s.log) :
    Sheds b x s s' where
  generator := hgen
  kept := hmap ▸ fun _ _ h => h
  messages := .inl (by unfold RendererSideRouter.messages; rw [hlog])
  answers := ⟨[], nil_sublist _, by
    unfold RendererSideRouter.answers; rw [hlog, append_nil]⟩

lemma filterMap_reverse_append {β : Type} (g : RendererEvent → Option β)
    {events log : List RendererEvent} (h : ∀ e ∈ events, g e = none) :
    (events ++ log).reverse.filterMap g = log.reverse.filterMap g := by
  rw [reverse_append, filterMap_append,
    filterMap_eq_nil_iff.mpr fun e he => h e (mem_reverse.mp he), append_nil]

lemma cancelRequests_spec {count : Nat} (hheld : RendererMutex.browserRequestInfoMap ∈ held)
    (h : s.cancelRequests held b c r = some (count, s')) :
    r = reservedId ∧ s'.requestIdGenerator = s.requestIdGenerator ∧ s'.messages = s.messages ∧
      s'.answers = s.answers ∧ ∀ b' k, s'.browserRequestInfoMap.get? b' k =
        if b' = b ∧ c = k.1 then none else s.browserRequestInfoMap.get? b' k := by
  have hkeeps : Keeps (fun e => e.message? = none ∧ e.response? = none) s s' :=
    cancelRequests_keeps hheld (fun _ => ⟨rfl, rfl⟩) h
  obtain ⟨events, hlog, hquiet⟩ := hkeeps.log
  unfold cancelRequests at h
  split at h
  · simp [getRequestInfo, RendererMutex.lock, hheld] at h
  · rename_i hr
    refine ⟨not_not.mp hr, hkeeps.generator, ?_, ?_, fun b' k => ?_⟩
    · unfold messages
      rw [hlog, filterMap_reverse_append _ fun e he => (hquiet e he).1]
    · unfold answers
      rw [hlog, filterMap_reverse_append _ fun e he => (hquiet e he).2]
    · have hsel : BrowserInfoMap.Selects (cancelVisitor c) (fun k _ => decide (c = k.1))
          fun _ info walk => (walk.1 + 1, .canceled info.request :: walk.2) := by
        intro b k info walk
        simp [cancelVisitor]
      have hmap := (hsel.findBrowserAll s.browserRequestInfoMap b (0, s.log)).2 b' k
      simp only [some.injEq, Prod.mk.injEq] at h
      rw [← h.2, hmap]
      by_cases hk : b' = b ∧ c = k.1
      · obtain ⟨rfl, hc⟩ := hk
        rw [if_pos (show b' = b' ∧ c = k.1 from ⟨rfl, hc⟩)]
        split
        · rfl
        · rename_i hnot
          refine eq_none_iff_forall_not_mem.mpr fun info hg => hnot ⟨rfl, ?_⟩
          refine mem_map.mpr ⟨(k, info), mem_filter.mpr ⟨?_, ?_⟩, rfl⟩
          · exact BrowserInfoMap.mem_browserEntries.mpr hg
          · exact decide_eq_true hc
      · rw [if_neg hk, if_neg]
        rintro ⟨hb, hmem⟩
        obtain ⟨e, he, rfl⟩ := mem_map.mp hmem
        exact hk ⟨hb, of_decide_eq_true (mem_filter.mp he).2⟩

lemma sendCancel_sheds {canceled : Bool} {x : Option RouterResponse}
    (h : s.sendCancel held (some b) (some f) c r = some (canceled, s')) : Sheds b x s s' := by
  simp only [sendCancel, bind_eq_bind, bind_eq_some_iff] at h
  obtain ⟨held', hheld, ⟨count, t⟩, ht, h⟩ := h
  obtain ⟨rfl, hgen, hmessages, hanswers, hmap⟩ := cancelRequests_spec (mem_of_lock hheld) ht
  have hkept : ∀ k info, t.browserRequestInfoMap.get? b k = some info →
      s.browserRequestInfoMap.get? b k = some info := by
    intro k info hg
    rw [hmap] at hg
    split at hg
    · simp at hg
    · exact hg
  split at h <;> simp only [Option.pure_def, Option.some.injEq, Prod.mk.injEq] at h <;>
    obtain ⟨-, rfl⟩ := h
  · refine ⟨hgen, hkept, .inr ⟨c, ?_, fun r => ?_⟩, [], nil_sublist _, ?_⟩
    · rw [← hmessages]
      simp [messages, RendererEvent.message?]
    · rw [hmap, if_pos ⟨rfl, rfl⟩]
    · rw [← hanswers]
      simp [answers, RendererEvent.response?]
  · exact ⟨hgen, hkept, .inl hmessages, [], nil_sublist _, hanswers.trans (by simp)⟩

lemma onContextReleased_sheds {context : Option V8Context} {x : Option RouterResponse}
    (h : s.onContextReleased held (some b) (some f) context = some s') : Sheds b x s s' := by
  cases context with
  | none =>
    cases h
    exact .of_eq rfl rfl rfl
  | some context =>
    simp only [onContextReleased, bind_eq_bind, bind_eq_some_iff] at h
    obtain ⟨⟨c, t⟩, hid, h⟩ := h
    obtain ⟨m, rfl⟩ : ∃ m, t = { s with contextMap := m } := by
      simp only [getIdForContext, bind_eq_bind, bind_eq_some_iff] at hid
      obtain ⟨-, -, hid⟩ := hid
      split at hid
      · split at hid <;> cases hid <;> exact ⟨_, rfl⟩
      · cases hid
        exact ⟨_, rfl⟩
    split at h
    · obtain ⟨⟨canceled, u⟩, hcancel, h⟩ := bind_eq_some_iff.mp h
      cases h
      have hsheds : Sheds b x { s with contextMap := m } u := sendCancel_sheds hcancel
      exact ⟨hsheds.generator, hsheds.kept, hsheds.messages, hsheds.answers⟩
    · cases h
      exact .of_eq rfl rfl rfl

def Executes (b c r : Int) (outcome : Outcome) (events : List RendererEvent) : Prop :=
  events = [] ∨ ∃ i p callback context, events = [.executed i p outcome callback context b c r]

lemma executeSuccessCallback_spec {payloadIsString enters : Bool}
    (h : s.executeSuccessCallback held b c r payloadIsString enters = some s') :
    ∃ m events, s' = { s with browserRequestInfoMap := m, log := events ++ s.log } ∧
      m.get? = lookupAfter s.browserRequestInfoMap.get? b (c, r) false ∧
      Executes b c r .success events := by
  simp only [executeSuccessCallback, bind_eq_bind, bind_eq_some_iff] at h
  obtain ⟨⟨found, t⟩, hget, h⟩ := h
  obtain ⟨-, m, rfl, hm⟩ := getRequestInfo_spec hget
  refine ⟨m, ?_⟩
  split at h
  · cases h
    exact ⟨[], rfl, hm, .inl rfl⟩
  · split at h
    · cases h
      exact ⟨[], rfl, hm, .inl rfl⟩
    · obtain ⟨context, -, h⟩ := bind_eq_some_iff.mp h
      split at h
      · cases h
        exact ⟨[], rfl, hm, .inl rfl⟩
      · split at h
        · cases h
          exact ⟨[_], rfl, hm, .inr ⟨_, _, _, _, rfl⟩⟩
        · cases h
          exact ⟨[], rfl, hm, .inl rfl⟩

lemma executeFailureCallback_spec (h : s.executeFailureCallback held b c r = some s') :
    ∃ m events, s' = { s with browserRequestInfoMap := m, log := events ++ s.log } ∧
      m.get? = lookupAfter s.browserRequestInfoMap.get? b (c, r) true ∧
      Executes b c r .failure events := by
  simp only [executeFailureCallback, bind_eq_bind, bind_eq_some_iff] at h
  obtain ⟨⟨found, t⟩, hget, h⟩ := h
  obtain ⟨-, m, rfl, hm⟩ := getRequestInfo_spec hget
  refine ⟨m, ?_⟩
  split at h
  · cases h
    exact ⟨[], rfl, hm, .inl rfl⟩
  · split at h
    · cases h
      exact ⟨[], rfl, hm, .inl rfl⟩
    · obtain ⟨context, -, h⟩ := bind_eq_some_iff.mp h
      split at h
      · cases h
        exact ⟨[], rfl, hm, .inl rfl⟩
      · cases h
        exact ⟨[_], rfl, hm, .inr ⟨_, _, _, _, rfl⟩⟩

/-- **A response** executes at most one callback, and takes out the request that it is the last one
for. -/
lemma response_sheds {x : RouterResponse} {payloadIsString enters : Bool}
    (h : s.step (.response (some b) ⟨x.contextId, x.requestId, x.outcome = .success,
      payloadIsString, enters⟩) = some s') :
    Sheds b (some x) s s' ∧ s'.messages = s.messages ∧
      ∀ k info, s'.browserRequestInfoMap.get? b k = some info →
        ¬ x.Ends k.1 k.2 info.isPersistent := by
  obtain ⟨m, events, rfl, hm, hevents⟩ : ∃ m events,
      s' = { s with browserRequestInfoMap := m, log := events ++ s.log } ∧
      m.get? = lookupAfter s.browserRequestInfoMap.get? b (x.contextId, x.requestId)
        (decide (x.outcome = .failure)) ∧
      Executes b x.contextId x.requestId x.outcome events := by
    cases ho : x.outcome with
    | success =>
      simp only [step, onProcessMessageReceived, ho] at h
      exact executeSuccessCallback_spec h
    | failure =>
      simp only [step, onProcessMessageReceived, ho] at h
      exact executeFailureCallback_spec h
  have hmessages : messages { s with browserRequestInfoMap := m, log := events ++ s.log } =
      s.messages := by
    refine filterMap_reverse_append _ fun e he => ?_
    rcases hevents with rfl | ⟨i, p, callback, context, rfl⟩
    · simp at he
    · rw [mem_singleton.mp he]
      rfl
  have hmap : ∀ k info, m.get? b k = some info → s.browserRequestInfoMap.get? b k = some info ∧
      ¬ x.Ends k.1 k.2 info.isPersistent := by
    intro k info hg
    rw [hm] at hg
    unfold lookupAfter at hg
    cases hx : s.browserRequestInfoMap.get? b (x.contextId, x.requestId) with
    | none =>
      simp only [hx] at hg
      refine ⟨hg, fun hends => ?_⟩
      obtain ⟨hc, hr, -⟩ := hends
      rw [hc, hr, hg] at hx
      simp at hx
    | some info' =>
      simp only [hx] at hg
      split at hg
      · obtain ⟨hne, hg⟩ := Lookup.remove_eq_some.mp hg
        exact ⟨hg, fun hends => hne ⟨rfl, Prod.ext hends.1.symm hends.2.1.symm⟩⟩
      · rename_i hstays
        refine ⟨hg, fun hends => hstays ?_⟩
        obtain ⟨hc, hr, hends⟩ := hends
        rw [hc, hr, hg] at hx
        cases hx
        rcases hends with hf | hp
        · simp [hf]
        · simp [hp]
  refine ⟨⟨rfl, fun k info hg => (hmap k info hg).1, .inl hmessages, ?_⟩, hmessages,
    fun k info hg => (hmap k info hg).2⟩
  rcases hevents with rfl | ⟨i, p, callback, context, rfl⟩
  · exact ⟨[], nil_sublist _, (append_nil _).symm⟩
  · exact ⟨[x], List.Sublist.refl _, by simp [answers, RendererEvent.response?]⟩

end RendererSideRouter

end CefCore.MessageRouter
