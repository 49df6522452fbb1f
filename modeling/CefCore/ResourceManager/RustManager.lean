import CefCore.ResourceManager.CppManager

/-!
# The Rust resource manager

`ResourceManager` of `cef/src/wrapper/resource_manager.rs`, the Rust port of the C++ manager. The
iterators of the C++ manager are indices here, the entries of the provider list do not record the
requests that are with them, and the manager lives in an `Arc<Mutex<_>>` that its callers lock.

## Main results

* `offered_in_turn_iff`: the runs in which providers are asked in turn.

## Implementation notes

* `ResourceManagerRequest::send_request` locks the manager's mutex, which the caller of the manager
  holds already. `std::sync::Mutex` does not return from such a second `lock`. The parameter
  `relock` says whether it would; without it the step is `none`, as for every call that does not
  come back.
* The callback of a state is a `RequestCallbackWrapper` of the browser. On the IO thread it runs at
  once, and the load calls `GetResourceHandler` of the client, which calls `resource_handler` of the
  manager and has to lock it for that. The loads of this model are not cancelled meanwhile, and
  nobody changes their URLs; those of `RustWorld` may.
* Entries and requests are numbered and `OnRequest` is split into steps as for the C++ manager.
* Nothing in the source adds to `pending_requests`. A request lives as long as the provider keeps
  its `Arc`; `requestDropped` is the moment when the provider lets it go.
* The provider list is sorted by order, so that `partition_point` is the number of the entries in
  front that satisfy the predicate.
-/

namespace CefCore.ResourceManager

open List Option

/-- `RequestState`, with `params.request.identifier()`. -/
structure RustRequestState where
  id : Nat
  identifier : Nat
  currentEntry : Nat
  currentRequest : Nat
  deriving DecidableEq

/-- A task that owns a request state, posted to the IO thread. -/
inductive RustTask where
  | continueRequest (state : RustRequestState) (handler : Option ResourceHandler)
  | stopRequest (state : RustRequestState)

/-- `ResourceManager`, with the `ResourceManagerRequest` objects made so far (each with the state
it owns), the posted tasks, the request whose `on_request` is running and whether this is in a
call of `on_before_resource_load`, what these calls have returned, and the counters and notes. -/
structure RustResourceManager where
  providers : List ProviderEntry
  pendingHandlers : List (Nat × ResourceHandler)
  requests : List (Option RustRequestState)
  tasks : List RustTask
  active : Option RequestId
  loading : Bool
  returned : List ReturnValue
  nextEntry : Nat
  nextState : Nat
  log : List ResourceEvent

namespace RustResourceManager

def new : RustResourceManager := ⟨[], [], [], [], none, false, [], 0, 0, []⟩

section

variable (m : RustResourceManager)

def report (e : ResourceEvent) : RustResourceManager :=
  { m with log := e :: m.log }

/-- The places of the entries whose deletion is not pending. -/
def validPlaces : List Place :=
  (m.providers.filter fun e => !e.deletionPending).map ProviderEntry.place

def addProvider (order : Int) (identifier : String) : RustResourceManager :=
  let entry : ProviderEntry := ⟨m.nextEntry, order, identifier, [], false⟩
  let providers :=
    if m.providers.isEmpty then [entry]
    else
      let index := (m.providers.takeWhile fun e => e.order < order).length
      m.providers.insertIdx index entry
  { m with providers := providers, nextEntry := m.nextEntry + 1 }

def getNextValidProvider (currentProvider : Nat) : Nat :=
  match (m.providers.drop currentProvider).findIdx? fun e => !e.deletionPending with
  | some i => currentProvider + i
  | none => m.providers.length

def detachRequestFromProvider (state : RustRequestState) : RustResourceManager × RustRequestState :=
  match m.providers[state.currentEntry]? with
  | none => (m, state)
  | some entry =>
    let pending := entry.pendingRequests.eraseIdx state.currentRequest
    let providers :=
      if entry.deletionPending && pending.isEmpty then m.providers.eraseIdx state.currentEntry
      else m.providers.set state.currentEntry { entry with pendingRequests := pending }
    ({ m with providers := providers }, { state with currentEntry := providers.length })

/-- `resource_handler`, with the handler it returns. -/
def resourceHandler (identifier : Nat) : Option ResourceHandler × RustResourceManager :=
  ((m.pendingHandlers.find? fun e => e.1 = identifier).map (·.2),
    { m with pendingHandlers := m.pendingHandlers.filter fun e => e.1 ≠ identifier })

/-- `drop` of a state on the IO thread: its callback lets the load go on at once, and the load asks
the client for its handler. -/
def dropState (state : RustRequestState) : RustResourceManager :=
  ((m.report (.ended state.id)).resourceHandler state.identifier).2

end

/-- `stop_request`: the state is dropped, so that the client locks the manager once more. -/
def stopRequest (relock : Bool) (m : RustResourceManager) (state : RustRequestState) :
    Option RustResourceManager :=
  if relock then some ((m.detachRequestFromProvider state).1.dropState state) else none

/-- `increment_provider`: whether there are more providers, with the changed values. -/
def incrementProvider (m : RustResourceManager) (state : RustRequestState) :
    Bool × RustResourceManager × RustRequestState :=
  let nextEntry := m.getNextValidProvider state.currentEntry
  let (m, state) := m.detachRequestFromProvider state
  if nextEntry < m.providers.length then (true, m, { state with currentEntry := nextEntry })
  else (false, m, state)

/-- The beginning of an iteration of `send_request`: make the request object and call its own
`send_request`, which locks the manager and calls `on_request` of the entry. -/
def sendRequest (relock : Bool) (m : RustResourceManager) (state : RustRequestState) :
    Option RustResourceManager :=
  if relock then
    match m.providers[state.currentEntry]? with
    -- the state comes back, and there is no next provider either
    | none => m.stopRequest relock state
    | some entry => some { m with
        requests := m.requests ++ [some state]
        active := some m.requests.length
        log := .offered state.id entry.place m.validPlaces :: m.log }
  else none

/-- Move to the next provider if any, or stop: the rest of an iteration of `send_request`, and
`continue_request` without a handler. -/
def sendToNextProvider (relock : Bool) (m : RustResourceManager) (state : RustRequestState) :
    Option RustResourceManager :=
  match m.incrementProvider state with
  | (true, m, state) => m.sendRequest relock state
  | (false, m, state) => m.stopRequest relock state

/-- The end of `send_request`; `on_before_resource_load` returns if it was the caller. -/
def finishSending (m : RustResourceManager) (potentiallyHandled : Bool) : RustResourceManager :=
  if m.loading then
    { m with
      loading := false
      returned := (if potentiallyHandled then .continueAsync else .continue_) :: m.returned }
  else m

/-- `on_request` of the active request returns. -/
def onRequestReturns (relock : Bool) (m : RustResourceManager) (handled : Bool) :
    Option RustResourceManager :=
  match m.active with
  | none => none
  | some r =>
    let m := { m with active := none }
    match handled, m.requests[r]? with
    | false, some (some state) =>
      match { m with requests := m.requests.set r none }.sendToNextProvider relock state with
      | none => none
      | some m => some (if m.active.isNone then m.finishSending false else m)
    | _, _ => some (m.finishSending true)

def onBeforeResourceLoad (relock : Bool) (m : RustResourceManager) (identifier : Nat) :
    Option RustResourceManager :=
  if m.active.isSome then none
  else
    let firstEntry := m.getNextValidProvider 0
    if firstEntry = m.providers.length then some { m with returned := .continue_ :: m.returned }
    else
      { m with nextState := m.nextState + 1, loading := true }.sendRequest relock
        ⟨m.nextState, identifier, firstEntry, 0⟩

def continueRequest (relock : Bool) (m : RustResourceManager) (state : RustRequestState)
    (handler : Option ResourceHandler) : Option RustResourceManager :=
  match handler with
  | some handler =>
    -- `BTreeMap::insert` replaces an entry that is there already
    { m with
      pendingHandlers := (state.identifier, handler) ::
        m.pendingHandlers.filter fun e => e.1 ≠ state.identifier }.stopRequest relock state
  | none => m.sendToNextProvider relock state

/-- `ResourceManagerRequest::continue_request`, by a provider that locks the request. -/
def requestContinue (relock : Bool) (m : RustResourceManager) (r : RequestId)
    (handler : Option ResourceHandler) : Option RustResourceManager :=
  -- `send_request` holds the lock of the request while `on_request` runs
  if m.active = some r && !relock then none
  else match m.requests[r]? with
    | some (some state) => some { m with
        requests := m.requests.set r none
        tasks := m.tasks ++ [.continueRequest state handler] }
    | _ => some m

/-- `ResourceManagerRequest::stop_request`, by a provider that locks the request. -/
def requestStop (relock : Bool) (m : RustResourceManager)
    (r : RequestId) : Option RustResourceManager :=
  if m.active = some r && !relock then none
  else match m.requests[r]? with
    | some (some state) => some { m with
        requests := m.requests.set r none
        tasks := m.tasks ++ [.stopRequest state] }
    | _ => some m

/-- The last `Arc` of a request is dropped on the IO thread, and with it the state that it still
has. While `on_request` of another request runs the manager is locked. -/
def requestDropped (relock : Bool) (m : RustResourceManager) (r : RequestId) :
    Option RustResourceManager :=
  match m.requests[r]? with
  | some (some state) =>
    if m.active = some r || m.active.isSome && !relock then none
    else some ({ m with requests := m.requests.set r none }.dropState state)
  | _ => some m

/-- The loop of `remove_providers` and `remove_all_providers` over the provider list, with
`delete_provider` at each entry that is wanted: the list that it leaves, and the manager with the
canceled requests. -/
def deleteProviders (relock : Bool) (wanted : ProviderEntry → Bool) (stop : Bool) :
    List ProviderEntry → RustResourceManager → Option (List ProviderEntry × RustResourceManager)
  | [], m => some ([], m)
  | e :: rest, m =>
    if wanted e then
      -- `delete_provider` returns the same index, for ever
      if e.deletionPending then none
      else if e.pendingRequests.isEmpty then deleteProviders relock wanted stop rest m
      else do
        let m ← e.pendingRequests.foldlM (fun m r =>
          if stop then m.requestStop relock r else m.requestContinue relock r none) m
        let (rest, m) ← deleteProviders relock wanted stop rest m
        return ({ e with deletionPending := true } :: rest, m)
    else do
      let (rest, m) ← deleteProviders relock wanted stop rest m
      return (e :: rest, m)

def removeProviders (relock : Bool) (m : RustResourceManager) (identifier : String) :
    Option RustResourceManager := do
  let (providers, m) ←
    deleteProviders relock (fun e => e.identifier = identifier) false m.providers m
  return { m with providers := providers }

def removeAllProviders (relock : Bool) (m : RustResourceManager) : Option RustResourceManager := do
  let (providers, m) ← deleteProviders relock (fun _ => true) true m.providers m
  return { m with providers := providers }

def runTask (relock : Bool) (m : RustResourceManager) (index : Nat) : Option RustResourceManager :=
  if m.active.isSome then none
  else match m.tasks[index]? with
    | none => none
    | some task =>
      let m := { m with tasks := m.tasks.eraseIdx index }
      match task with
      | .continueRequest state handler => m.continueRequest relock state handler
      | .stopRequest state => m.stopRequest relock state

inductive Action where
  | addProvider (order : Int) (identifier : String)
  | removeProviders (identifier : String)
  | removeAllProviders
  | requestContinue (request : RequestId) (handler : Option ResourceHandler)
  | requestStop (request : RequestId)
  | requestDropped (request : RequestId)
  | onBeforeResourceLoad (identifier : Nat)
  | resourceHandler (identifier : Nat)
  | onRequestReturns (handled : Bool)
  | runTask (index : Nat)

/-- One step of the IO thread. A provider that calls the manager from `on_request` has to lock it
once more. -/
def step (relock : Bool) (m : RustResourceManager) : Action → Option RustResourceManager
  | .addProvider order identifier => some (m.addProvider order identifier)
  | .removeProviders identifier => m.removeProviders relock identifier
  | .removeAllProviders => m.removeAllProviders relock
  | .requestContinue r handler => m.requestContinue relock r handler
  | .requestStop r => m.requestStop relock r
  | .requestDropped r => m.requestDropped relock r
  | .onBeforeResourceLoad identifier => m.onBeforeResourceLoad relock identifier
  | .resourceHandler identifier => some (m.resourceHandler identifier).2
  | .onRequestReturns handled => m.onRequestReturns relock handled
  | .runTask index => m.runTask relock index

/-! ### Requests that no provider handles -/

/-- Add providers one after another. -/
def register (providers : List (Int × String)) : RustResourceManager :=
  providers.foldl (fun m p => m.addProvider p.1 p.2) new

/-- How a provider lets a request continue that it does not handle: `on_request` returns `false`,
or it returns `true` and the request is continued without a handler later. -/
inductive Answer where
  | declines
  | continues

/-- The steps of an answer by the provider that has the request `r`. -/
def Answer.actions (r : RequestId) : Answer → List Action
  | .declines => [.onRequestReturns false]
  | .continues => [.onRequestReturns true, .requestContinue r none, .runTask 0]

def answer (relock : Bool) (m : RustResourceManager) (a : Answer) : Option RustResourceManager :=
  match m.active with
  | none => none
  | some r => (a.actions r).foldlM (step relock) m

/-- A request to a manager with the given providers, after the first `n` answers. -/
def serve (relock : Bool) (providers : List (Int × String)) (identifier : Nat)
    (answers : Nat → Answer) (n : Nat) : Option RustResourceManager := do
  let m ← (register providers).onBeforeResourceLoad relock identifier
  ((List.range n).map answers).foldlM (answer relock) m

/-- What should become of the request: it has been offered in ascending order, once at each
provider, and has ended. Without providers there is no request state, and the request is
continued by what `on_before_resource_load` returns. -/
structure OfferedInTurn (providers : List (Int × String)) (m : RustResourceManager) : Prop where
  ascending : (places 0 m.log).reverse.Pairwise Place.Before
  each_once : (places 0 m.log).Perm (providers.zipIdx.map fun p => ⟨p.1.1, p.2⟩)
  continued_once : m.nextState = 0 ∧ m.returned = [.continue_] ∨ m.log.count (.ended 0) = 1

/-! ### The order of the provider list -/

lemma insertIdx_takeWhile {α : Type*} (p : α → Bool) (x : α) : ∀ l : List α,
    l.insertIdx (l.takeWhile p).length x = l.takeWhile p ++ x :: l.dropWhile p
  | [] => rfl
  | y :: l => by
    by_cases hy : p y = true
    · rw [takeWhile_cons_of_pos hy, dropWhile_cons_of_pos hy, length_cons,
        insertIdx_succ_cons, insertIdx_takeWhile p x l, cons_append]
    · rw [takeWhile_cons_of_neg hy, dropWhile_cons_of_neg hy]
      rfl

lemma addProvider_eq (m : RustResourceManager) (order : Int) (identifier : String) :
    m.addProvider order identifier = { m with
      providers := m.providers.takeWhile (fun e => e.order < order) ++
        ⟨m.nextEntry, order, identifier, [], false⟩ ::
          m.providers.dropWhile fun e => e.order < order
      nextEntry := m.nextEntry + 1 } := by
  unfold addProvider
  by_cases hempty : m.providers = []
  · simp [hempty]
  · dsimp only
    rw [if_neg (by simpa using hempty), insertIdx_takeWhile]

structure Registered (m : RustResourceManager) : Prop where
  sorted : m.providers.Pairwise fun a b => a.order < b.order ∨ a.order = b.order ∧ b.id < a.id
  numbers : ∀ e ∈ m.providers, e.id < m.nextEntry
  untouched : ∀ e ∈ m.providers, e.deletionPending = false ∧ e.pendingRequests = []
  rest : m = { new with providers := m.providers, nextEntry := m.nextEntry }

/-- **Adding a provider** keeps the list sorted, with the newest entry first among equal orders.

**Proof sketch.** The entries in front of the new one have lower orders, and none behind it has; the
new one has the highest number. -/
lemma Registered.addProvider {m : RustResourceManager} (h : m.Registered) (order : Int)
    (identifier : String) : (m.addProvider order identifier).Registered := by
  rw [addProvider_eq]
  have hsplit : m.providers.takeWhile (fun e => e.order < order) ++
      m.providers.dropWhile (fun e => e.order < order) = m.providers :=
    takeWhile_append_dropWhile
  have hsorted := h.sorted
  rw [← hsplit] at hsorted
  obtain ⟨hfront, hback, hacross⟩ := pairwise_append.mp hsorted
  have hlow : ∀ x ∈ m.providers.takeWhile (fun e => e.order < order), x.order < order := by
    intro x hx
    simpa using all_eq_true.mp all_takeWhile x hx
  have hhigh : ∀ x ∈ m.providers.dropWhile (fun e => e.order < order), order ≤ x.order := by
    cases hdrop : m.providers.dropWhile fun e => e.order < order with
    | nil => simp
    | cons y l =>
      rw [hdrop] at hback
      have hy : order ≤ y.order := by
        have := head_dropWhile_not (l := m.providers)
          (fun e => decide (e.order < order)) (by simp [hdrop])
        simpa [hdrop] using this
      intro x hx
      rcases mem_cons.mp hx with rfl | hx
      · exact hy
      · rcases (pairwise_cons.mp hback).1 x hx with hlt | ⟨heq, -⟩
        · omega
        · omega
  -- the entries of the new list
  have hmem : ∀ x ∈ m.providers.takeWhile (fun e => e.order < order) ++
      ⟨m.nextEntry, order, identifier, [], false⟩ ::
        m.providers.dropWhile (fun e => e.order < order),
      x = ⟨m.nextEntry, order, identifier, [], false⟩ ∨ x ∈ m.providers := by
    intro x hx
    rw [← hsplit]
    simp only [mem_append, mem_cons] at hx ⊢
    tauto
  refine ⟨?_, fun x hx => ?_, fun x hx => ?_, ?_⟩
  · refine pairwise_append.mpr ⟨hfront, pairwise_cons.mpr ⟨fun x hx => ?_, hback⟩, ?_⟩
    · have hle := hhigh x hx
      have hid := h.numbers x (dropWhile_sublist _ |>.mem hx)
      show order < x.order ∨ order = x.order ∧ x.id < m.nextEntry
      omega
    · intro x hx y hy
      rcases mem_cons.mp hy with rfl | hy
      · exact .inl (hlow x hx)
      · exact hacross x hx y hy
  · rcases hmem x hx with rfl | hx
    · exact Nat.lt_succ_self _
    · exact Nat.lt_succ_of_lt (h.numbers x hx)
  · rcases hmem x hx with rfl | hx
    · exact ⟨rfl, rfl⟩
    · exact h.untouched x hx
  · have hrest := h.rest
    generalize m.providers.takeWhile _ ++ _ = providers
    generalize m.nextEntry = n at hrest ⊢
    rw [hrest]

lemma register_registered (providers : List (Int × String)) : (register providers).Registered := by
  refine List.foldlRecOn providers _ ?_ fun m h p _ => h.addProvider p.1 p.2
  exact ⟨List.Pairwise.nil, by simp [new], by simp [new], rfl⟩

/-- **Registered providers**: the list is sorted, but among equal orders the newest entry comes
first, as `partition_point` looks for the first entry whose order is not lower. -/
theorem register_newestFirst (providers : List (Int × String)) :
    (register providers).providers.Pairwise fun a b =>
      a.order < b.order ∨ a.order = b.order ∧ b.id < a.id :=
  (register_registered providers).sorted

lemma length_register (providers : List (Int × String)) :
    (register providers).providers.length = providers.length := by
  have hadd : ∀ (providers : List (Int × String)) (m : RustResourceManager),
      (providers.foldl (fun m p => m.addProvider p.1 p.2) m).providers.length =
        m.providers.length + providers.length := by
    intro providers
    induction providers with
    | nil => exact fun m => rfl
    | cons p providers ih =>
      intro m
      have hsplit := congrArg List.length
        (takeWhile_append_dropWhile (p := fun e => decide (e.order < p.1)) (l := m.providers))
      rw [length_append] at hsplit
      rw [foldl_cons, ih, addProvider_eq]
      simp only [length_append, length_cons]
      omega
  simpa [register, new] using hadd providers new

/-! ### The walk along the providers -/

section Walk

variable {m : RustResourceManager} {e : ProviderEntry} {rest : List ProviderEntry}
  {state : RustRequestState}

lemma getNextValidProvider_first (hP : m.providers = e :: rest) (he : e.deletionPending = false) :
    m.getNextValidProvider 0 = 0 := by
  unfold getNextValidProvider
  rw [hP, drop_zero, findIdx?_cons, if_pos (by simp [he])]

/-- **The walk does not advance**: `increment_provider` looks for the next valid entry from the
current entry on, which is the current entry itself. -/
lemma sendToNextProvider_first (hP : m.providers = e :: rest) (he : e.deletionPending = false)
    (hpending : e.pendingRequests = []) (hstate : state.currentEntry = 0) :
    m.sendToNextProvider true state = some { m with
      requests := m.requests ++ [some state]
      active := some m.requests.length
      log := .offered state.id e.place m.validPlaces :: m.log } := by
  have hdetach : m.detachRequestFromProvider state =
      (m, { state with currentEntry := m.providers.length }) := by
    have hentry : { e with pendingRequests := e.pendingRequests.eraseIdx state.currentRequest } =
        e := by
      rw [hpending, eraseIdx_nil, ← hpending]
    have hset : m.providers.set 0 e = m.providers := by rw [hP, set_cons_zero]
    have hget : m.providers[0]? = some e := by rw [hP, getElem?_cons_zero]
    rw [he] at hentry
    simp [detachRequestFromProvider, hstate, hget, he, hentry, hset]
  have hincrement : m.incrementProvider state = (true, m, state) := by
    simp only [incrementProvider, hstate, getNextValidProvider_first hP he, hdetach]
    rw [if_pos (by simp [hP]), ← hstate]
  simp only [sendToNextProvider, hincrement, sendRequest, hstate, if_true]
  rw [hP]
  rfl

/-- The request is at the first entry, where it has been offered `n` times. -/
structure AtFirst (e : ProviderEntry) (n : Nat) (m : RustResourceManager) : Prop where
  providers : ∃ rest, m.providers = e :: rest
  valid : e.deletionPending = false
  pending : e.pendingRequests = []
  active : ∃ r state, m.active = some r ∧ m.requests[r]? = some (some state) ∧ state.id = 0 ∧
    state.currentEntry = 0
  tasks : m.tasks = []
  begun : m.nextState = 1
  offers : places 0 m.log = List.replicate n e.place
  unended : m.log.count (.ended 0) = 0

lemma finishSending_eq (m : RustResourceManager) (potentiallyHandled : Bool) :
    ∃ returned, m.finishSending potentiallyHandled =
      { m with loading := false, returned := returned } := by
  unfold finishSending
  cases hloading : m.loading with
  | true => exact ⟨_, rfl⟩
  | false =>
    refine ⟨m.returned, ?_⟩
    rw [if_neg Bool.false_ne_true, ← hloading]

lemma AtFirst.again {n : Nat} (h : AtFirst e n m) (hid : state.id = 0)
    (hentry : state.currentEntry = 0) (l : List (Option RustRequestState)) (loading : Bool)
    (returned : List ReturnValue) (valid : List Place) :
    AtFirst e (n + 1) { m with
      requests := l ++ [some state]
      tasks := []
      active := some l.length
      loading := loading
      returned := returned
      log := .offered state.id e.place valid :: m.log } where
  providers := h.providers
  valid := h.valid
  pending := h.pending
  active := ⟨_, state, rfl, getElem?_concat_length, hid, hentry⟩
  tasks := rfl
  begun := h.begun
  offers := by rw [places, if_pos hid, h.offers, replicate_succ]
  unended := by rw [count_cons_of_ne (by simp), h.unended]

lemma AtFirst.answer {n : Nat} (h : AtFirst e n m) (a : Answer) :
    ∃ m', m.answer true a = some m' ∧ AtFirst e (n + 1) m' := by
  obtain ⟨rest, hP⟩ := h.providers
  obtain ⟨r, state, hactive, hr, hid, hentry⟩ := h.active
  cases a with
  | declines =>
    have hsend := sendToNextProvider_first
      (m := { m with active := none, requests := m.requests.set r none }) hP h.valid h.pending hentry
    have hanswer : m.answer true .declines = some { m with
        requests := m.requests.set r none ++ [some state]
        active := some (m.requests.set r none).length
        log := .offered state.id e.place m.validPlaces :: m.log } := by
      simp only [RustResourceManager.answer, hactive, Answer.actions, foldlM_cons,
        foldlM_nil, step, onRequestReturns, hr, hsend]
      rfl
    have hagain := h.again hid hentry (m.requests.set r none) m.loading m.returned m.validPlaces
    rw [← h.tasks] at hagain
    exact ⟨_, hanswer, hagain⟩
  | continues =>
    obtain ⟨returned, hfinish⟩ := finishSending_eq { m with active := none } true
    have hsend := sendToNextProvider_first
      (m := { m with
        requests := m.requests.set r none
        tasks := []
        active := none
        loading := false
        returned := returned }) hP h.valid h.pending hentry
    have hreturns : m.step true (.onRequestReturns true) =
        some { m with active := none, loading := false, returned := returned } := by
      simp [step, onRequestReturns, hactive, hfinish]
    have hcontinue : { m with active := none, loading := false, returned := returned }.step true
        (.requestContinue r none) = some { m with
          requests := m.requests.set r none
          tasks := [.continueRequest state none]
          active := none
          loading := false
          returned := returned } := by
      simp only [step, requestContinue, hr, h.tasks]
      rfl
    refine ⟨_, ?_, h.again hid hentry (m.requests.set r none) false returned m.validPlaces⟩
    simp only [RustResourceManager.answer, hactive, Answer.actions, foldlM_cons,
      foldlM_nil, hreturns, bind_eq_bind, bind_some, hcontinue]
    exact congrArg (Option.bind · some) hsend

end Walk

/-- **If the mutex could be locked twice**, a request would be offered to the first provider
again with every answer, and would not end.

**Proof sketch.** Induction on the number of answers. -/
theorem serve_first {providers : List (Int × String)} (hne : providers ≠ []) (identifier : Nat)
    (answers : Nat → Answer) : ∃ e, ∀ n, ∃ m,
      serve true providers identifier answers n = some m ∧ AtFirst e (n + 1) m := by
  have hlength := length_register providers
  have h := register_registered providers
  generalize hm₀ : register providers = m₀ at h hlength
  cases hP : m₀.providers with
  | nil =>
    rw [hP] at hlength
    exact (hne (length_eq_zero_iff.mp hlength.symm)).elim
  | cons e rest =>
    have he : e.deletionPending = false ∧ e.pendingRequests = [] :=
      h.untouched e (by simp [hP])
    have hload : ∃ m, m₀.onBeforeResourceLoad true identifier = some m ∧ AtFirst e 1 m := by
      have hnext := getNextValidProvider_first hP he.1
      have hne : ¬ 0 = m₀.providers.length := by simp [hP]
      have hget : m₀.providers[0]? = some e := by rw [hP, getElem?_cons_zero]
      have hrest := h.rest
      refine ⟨{ new with
        providers := m₀.providers
        nextEntry := m₀.nextEntry
        requests := [some ⟨0, identifier, 0, 0⟩]
        active := some 0
        loading := true
        nextState := 1
        log := [.offered 0 e.place m₀.validPlaces] }, ?_, ⟨rest, hP⟩, he.1, he.2,
        ⟨0, ⟨0, identifier, 0, 0⟩, rfl, rfl, rfl, rfl⟩, rfl, rfl, rfl, rfl⟩
      unfold onBeforeResourceLoad
      rw [hnext]
      rw [if_neg hne]
      simp only [sendRequest, if_true, hget]
      rw [hrest]
      rfl
    obtain ⟨m, hload, hfirst⟩ := hload
    refine ⟨e, fun n => ?_⟩
    unfold serve
    rw [hm₀, hload]
    show ∃ m', ((List.range n).map answers).foldlM (answer true) m = some m' ∧ AtFirst e (n + 1) m'
    induction n with
    | zero => exact ⟨m, rfl, hfirst⟩
    | succ n ih =>
      obtain ⟨m', hserve, hfirst'⟩ := ih
      obtain ⟨m'', hanswer, hfirst''⟩ := hfirst'.answer (answers n)
      refine ⟨m'', ?_, hfirst''⟩
      rw [range_succ, map_append, foldlM_append, hserve]
      simpa using hanswer

/-- **The mutex cannot be locked twice**, so that with a provider `on_before_resource_load` does
not come back. -/
theorem serve_blocks {providers : List (Int × String)} (hne : providers ≠ []) (identifier : Nat)
    (answers : Nat → Answer) (n : Nat) : serve false providers identifier answers n = none := by
  have hlength := length_register providers
  have h := register_registered providers
  unfold serve
  generalize register providers = m₀ at h hlength
  cases hP : m₀.providers with
  | nil =>
    rw [hP] at hlength
    exact (hne (length_eq_zero_iff.mp hlength.symm)).elim
  | cons e rest =>
    have hnext := getNextValidProvider_first hP (h.untouched e (by simp [hP])).1
    have hne : ¬ 0 = m₀.providers.length := by simp [hP]
    have hload : m₀.onBeforeResourceLoad false identifier = none := by
      unfold onBeforeResourceLoad
      rw [hnext]
      rw [if_neg hne]
      simp [sendRequest]
    rw [hload]
    rfl

lemma not_offeredInTurn {providers : List (Int × String)} (hne : providers ≠ []) (relock : Bool)
    (identifier : Nat) (answers : Nat → Answer) :
    ¬ ∃ n m, serve relock providers identifier answers n = some m ∧ m.OfferedInTurn providers := by
  rintro ⟨n, m, hserve, hturn⟩
  cases relock with
  | false =>
    rw [serve_blocks hne] at hserve
    simp at hserve
  | true =>
    obtain ⟨e, hfirst⟩ := serve_first hne identifier answers
    obtain ⟨m', hserve', hfirst⟩ := hfirst n
    obtain rfl := some.inj (hserve.symm.trans hserve')
    rcases hturn.continued_once with ⟨hbegun, -⟩ | hended
    · rw [hfirst.begun] at hbegun
      exact Nat.one_ne_zero hbegun
    · rw [hfirst.unended] at hended
      exact Nat.zero_ne_one hended

/-- **The order of the offers.** Whether or not the mutex could be locked twice, and however the
providers let the request continue, the request is offered to all providers in turn and ends if
and only if there are no providers. -/
theorem offered_in_turn_iff (relock : Bool) (providers : List (Int × String)) (identifier : Nat)
    (answers : Nat → Answer) :
    (∃ n m, serve relock providers identifier answers n = some m ∧ m.OfferedInTurn providers) ↔
      providers = [] := by
  constructor
  · intro h
    by_contra hne
    exact not_offeredInTurn hne relock identifier answers h
  · rintro rfl
    refine ⟨0, { new with returned := [.continue_] }, rfl, ?_, ?_, .inl ⟨rfl, rfl⟩⟩
    · exact List.Pairwise.nil
    · exact List.Perm.nil

/-- One provider that declines every request is enough. -/
theorem declined_request_never_ends : ¬ ∀ (providers : List (Int × String)) (answers : Nat → Answer),
    ∃ n m, serve false providers 7 answers n = some m ∧ m.OfferedInTurn providers := by
  intro h
  exact not_offeredInTurn (by simp) false 7 _ (h [(0, "a")] fun _ => .declines)

end RustResourceManager

end CefCore.ResourceManager
