import CefCore.MessageRouter.RendererSide

/-!
# The mutexes of the Rust renderer-side router

The functions of `RendererSideRouter` keep their guards to the end. `send_cancel` locks the map of
the pending requests, and for a single request it calls `get_request_info`, which locks the same map
once more. Nothing else takes a mutex twice.

## Main results

* `call_returns_iff`: which calls return.
-/

namespace CefCore.MessageRouter.RendererSideRouter

open List Option

variable {s : RendererSideRouter} {held : List RendererMutex}

/-- The functions that JavaScript and the responses of the browser process get to. -/
inductive Call where
  | sendQuery (browser : Option Int) (frame : Option Frame) (contextId : Int) (isPersistent : Bool)
      (successCallback failureCallback : Option V8Value)
  | sendCancel (browser : Option Int) (frame : Option Frame) (contextId requestId : Int)
  | executeSuccessCallback (browserId contextId requestId : Int) (payloadIsString enters : Bool)
  | executeFailureCallback (browserId contextId requestId : Int)

/-- A call by a thread that holds no mutex. It does not come back if it locks one twice. -/
def call (s : RendererSideRouter) : Call → Option RendererSideRouter
  | .sendQuery browser frame contextId isPersistent successCallback failureCallback =>
    (s.sendQuery [] browser frame contextId isPersistent successCallback failureCallback).map (·.2)
  | .sendCancel browser frame contextId requestId =>
    (s.sendCancel [] browser frame contextId requestId).map (·.2)
  | .executeSuccessCallback browserId contextId requestId payloadIsString enters =>
    s.executeSuccessCallback [] browserId contextId requestId payloadIsString enters
  | .executeFailureCallback browserId contextId requestId =>
    s.executeFailureCallback [] browserId contextId requestId

/-- `send_cancel` with a browser and a frame, for a single request. -/
def Call.CancelsSingle : Call → Prop
  | .sendCancel browser frame _ requestId =>
    browser.isSome = true ∧ frame.isSome = true ∧ requestId ≠ reservedId
  | _ => False

instance (c : Call) : Decidable c.CancelsSingle :=
  match c with
  | .sendCancel .. => inferInstanceAs (Decidable (_ ∧ _ ∧ _))
  | .sendQuery .. | .executeSuccessCallback .. | .executeFailureCallback .. => isFalse id

/-! ### The functions, with the mutexes of their callers -/

lemma lock_isSome_iff (m : RendererMutex) : (m.lock held).isSome = true ↔ m ∉ held := by
  unfold RendererMutex.lock
  split <;> simp_all

lemma getRequestInfo_isSome_iff (browserId contextId requestId : Int) (alwaysRemove : Bool) :
    (s.getRequestInfo held browserId contextId requestId alwaysRemove).isSome = true ↔
      .browserRequestInfoMap ∉ held := by
  rw [← lock_isSome_iff]
  unfold getRequestInfo
  cases RendererMutex.browserRequestInfoMap.lock held <;> rfl

lemma cancelRequests_isSome_iff (hheld : .browserRequestInfoMap ∈ held)
    (browserId contextId requestId : Int) :
    (s.cancelRequests held browserId contextId requestId).isSome = true ↔ requestId = reservedId := by
  unfold cancelRequests
  by_cases hsingle : requestId = reservedId
  · simp [hsingle]
  · have hnone : s.getRequestInfo held browserId contextId requestId true = none := by
      rw [← not_isSome_iff_eq_none, getRequestInfo_isSome_iff]
      exact fun hnot => hnot hheld
    simp [hsingle, hnone]

lemma sendQuery_isSome (browser : Option Int) (frame : Option Frame) (contextId : Int)
    (isPersistent : Bool) (successCallback failureCallback : Option V8Value) :
    (s.sendQuery [] browser frame contextId isPersistent successCallback failureCallback).isSome =
      true := by
  cases browser with
  | none => rfl
  | some browserId =>
    cases frame with
    | none => rfl
    | some frame => rfl

lemma sendCancel_isSome_iff (browser : Option Int) (frame : Option Frame)
    (contextId requestId : Int) :
    (s.sendCancel [] browser frame contextId requestId).isSome = true ↔
      ¬ Call.CancelsSingle (.sendCancel browser frame contextId requestId) := by
  cases browser with
  | none => simp [sendCancel, RendererMutex.lock, Call.CancelsSingle]
  | some browserId =>
    cases frame with
    | none => simp [sendCancel, RendererMutex.lock, Call.CancelsSingle]
    | some frame =>
      have hcancel := cancelRequests_isSome_iff (s := s) (mem_singleton_self _) browserId contextId
        requestId
      simp only [Call.CancelsSingle, isSome_some, true_and, ne_eq, not_not, ← hcancel]
      have hlock : RendererMutex.browserRequestInfoMap.lock [] =
          some [.browserRequestInfoMap] := rfl
      unfold sendCancel
      simp only [hlock, bind_eq_bind, bind_some]
      cases s.cancelRequests [.browserRequestInfoMap] browserId contextId requestId with
      | none => rfl
      | some r =>
        obtain ⟨cancelCount, s'⟩ := r
        simp only [bind_some, isSome_some, iff_true]
        split <;> rfl

lemma executeSuccessCallback_isSome (browserId contextId requestId : Int)
    (payloadIsString enters : Bool) :
    (s.executeSuccessCallback [] browserId contextId requestId payloadIsString enters).isSome =
      true := by
  have hinfo := (getRequestInfo_isSome_iff (s := s) browserId contextId requestId
    false).mpr not_mem_nil
  obtain ⟨⟨info, s'⟩, hinfo⟩ := isSome_iff_exists.mp hinfo
  unfold executeSuccessCallback
  rw [hinfo]
  simp only [bind_eq_bind, bind_some]
  cases info with
  | none => rfl
  | some info =>
    cases hcallback : info.successCallback with
    | none => simp [hcallback]
    | some callback =>
      -- the mutex of the contexts is free: the guard of the requests is gone
      have hcontext : s'.getContextById [] contextId = some s'.contextMap[contextId]?.join := rfl
      simp only [hcallback, hcontext, bind_some]
      split
      · rfl
      · split <;> rfl

lemma executeFailureCallback_isSome (browserId contextId requestId : Int) :
    (s.executeFailureCallback [] browserId contextId requestId).isSome = true := by
  have hinfo := (getRequestInfo_isSome_iff (s := s) browserId contextId requestId
    true).mpr not_mem_nil
  obtain ⟨⟨info, s'⟩, hinfo⟩ := isSome_iff_exists.mp hinfo
  unfold executeFailureCallback
  rw [hinfo]
  simp only [bind_eq_bind, bind_some]
  cases info with
  | none => rfl
  | some info =>
    cases hcallback : info.failureCallback with
    | none => simp [hcallback]
    | some callback =>
      have hcontext : s'.getContextById [] contextId = some s'.contextMap[contextId]?.join := rfl
      simp only [hcallback, hcontext, bind_some]
      split <;> rfl

/-! ### All calls -/

/-- **The mutexes of the router**: in every state, a call locks no mutex that its thread holds, and so
comes back, if and only if it is not the cancellation of a single request. -/
theorem call_returns_iff (s : RendererSideRouter) (c : Call) :
    (s.call c).isSome = true ↔ ¬ c.CancelsSingle := by
  cases c with
  | sendQuery browser frame contextId isPersistent successCallback failureCallback =>
    simp [call, sendQuery_isSome, Call.CancelsSingle]
  | sendCancel browser frame contextId requestId =>
    simp only [call, isSome_map]
    exact sendCancel_isSome_iff browser frame contextId requestId
  | executeSuccessCallback browserId contextId requestId payloadIsString enters =>
    simp [call, executeSuccessCallback_isSome, Call.CancelsSingle]
  | executeFailureCallback browserId contextId requestId =>
    simp [call, executeFailureCallback_isSome, Call.CancelsSingle]

/-- A query is sent from a new context and canceled. -/
theorem single_cancel_relocks : ¬ ∀ (acts : List Action) (s : RendererSideRouter) (c : Call),
    acts.foldlM step new = some s → (s.call c).isSome = true := by
  intro h
  have hreturns := h [.createIdForContext 7, .sendQuery (some 1) (some ⟨3, true⟩) 1 false none none] _
    (.sendCancel (some 1) (some ⟨3, true⟩) 1 1) rfl
  rw [call, isSome_map, sendCancel_isSome_iff] at hreturns
  exact hreturns (by decide)

end CefCore.MessageRouter.RendererSideRouter
