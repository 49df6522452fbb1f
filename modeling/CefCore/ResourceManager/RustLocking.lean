import CefCore.ResourceManager.RustProviders

/-!
# The mutexes of the Rust resource manager

Whoever calls the manager has locked it: the browser when a load begins, and the `ContinueRequest`
and `StopRequest` tasks. `ResourceManagerRequest::send_request` locks it once more to find the
provider of the request, and so does the client when a request state is dropped and the load asks
for its handler. `std::sync::Mutex` does not let a thread in twice.

## Main results

* `call_relocks_iff`: the calls that run into that.
-/

namespace CefCore.ResourceManager

open List Option Fallible RustMutex

/-- A call does not come back because it locks a mutex that its thread holds. -/
def Relocks {α : Type} (x : Except RustHang α) : Prop := ∃ mutex, x = .error (.relocks mutex)

namespace Relocks

variable {α β : Type} {x : Except RustHang α}

@[simp] lemma ok (a : α) : ¬ Relocks (.ok a : Except RustHang α) := by
  rintro ⟨mutex, h⟩
  cases h

@[simp] lemma loops : ¬ Relocks (.error .loops : Except RustHang α) := by
  rintro ⟨mutex, h⟩
  cases h

@[simp] lemma relocks (mutex : RustMutex) : Relocks (.error (.relocks mutex) : Except RustHang α) :=
  ⟨mutex, rfl⟩

lemma iff_fails : Relocks x ↔ Fallible.Fails (fun e => ∃ mutex, e = .relocks mutex) x := by
  constructor
  · rintro ⟨mutex, h⟩
    exact ⟨_, h, mutex, rfl⟩
  · rintro ⟨_, h, mutex, rfl⟩
    exact ⟨mutex, h⟩

lemma bind_iff {f : α → Except RustHang β} :
    Relocks (x >>= f) ↔ Relocks x ∨ ∃ a, x = .ok a ∧ Relocks (f a) := by
  simp only [iff_fails]
  exact fails_bind_iff

lemma map_iff {f : α → β} : Relocks (x.map f) ↔ Relocks x := by
  rw [iff_fails, iff_fails]
  exact fails_map_iff

end Relocks

lemma RustMutex.lock_of_not_mem {held : List RustMutex} {mutex : RustMutex} (h : mutex ∉ held) :
    RustMutex.lock held mutex = .ok (mutex :: held) := if_neg h

lemma RustMutex.lock_of_mem {held : List RustMutex} {mutex : RustMutex} (h : mutex ∈ held) :
    RustMutex.lock held mutex = .error (.relocks mutex) := if_pos h

namespace RustWorld

/-! ### Calls -/

/-- A call into the manager when a load begins, or the next task of a thread. -/
inductive Call where
  | onBeforeResourceLoad (identifier : Nat) (url mimeType : String)
  | runFileTask
  | runIoTask

section Calls

variable (toLowercase : String → String) (fs : FileSystem) (fuel : Nat)

def call (w : RustWorld) : Call → Except RustHang RustWorld
  | .onBeforeResourceLoad identifier url mimeType =>
    (w.onBeforeResourceLoad fuel identifier url mimeType).map (·.2)
  | .runFileTask => w.runFileTask toLowercase fs
  | .runIoTask => w.runIoTask fuel

/-- There is a provider that `increment_provider` moves on to: the first live entry from the
current one on, if it is still in the list after the request has been detached. -/
def HasNextProvider (m : RustResourceManager) (state : RustRequestState) : Prop :=
  m.getNextValidProvider state.currentEntry < (m.detachRequestFromProvider state).1.providers.length

/-- A load waits for the callback of the state, and its URL is as it was: it asks for a handler. -/
def AsksForHandler (w : RustWorld) (state : RustPendingState) : Prop :=
  (w.loads.find? fun load => load.state = state.state.id).any (!·.redirected) = true

/-- The calls that neither offer a request to a provider nor end one whose load asks for a handler:
a load while no provider is live, the tasks of the providers, and the end of a request that was
handled or stopped or that has no further provider, if the load has been cancelled or redirected. -/
def Call.Spared (w : RustWorld) : Call → Prop
  | .onBeforeResourceLoad _ _ _ => ∀ entry ∈ w.manager.providers, entry.deletionPending = true
  | .runFileTask => True
  | .runIoTask =>
    (∀ state handler, w.ioTasks.head? = some (.continueRequest state handler) →
      (handler = none → ¬ HasNextProvider w.manager state.state) ∧ ¬ w.AsksForHandler state) ∧
    ∀ state, w.ioTasks.head? = some (.stopRequest state) → ¬ w.AsksForHandler state

/-! ### Which calls are stuck -/

variable {toLowercase fs fuel} {w : RustWorld}

lemma sendRequest_relocks (fuel : Nat) (w : RustWorld) (state : RustPendingState) :
    sendRequest [.manager] fuel w state = .error (.relocks .manager) := by
  have hbody : ∀ next, sendRequestBody next [.manager] w state = .error (.relocks .manager) := by
    intro next
    have hrequest : RustMutex.request w.requests.length ∉ [RustMutex.manager] := by simp
    have hmanager : RustMutex.manager ∈ [.request w.requests.length, RustMutex.manager] := by simp
    simp only [sendRequestBody, lock_of_not_mem hrequest, ok_bind, requestSendRequest,
      getElem?_concat_length, bind_some, lock_of_mem hmanager, error_bind]
  cases fuel with
  | zero => exact hbody _
  | succ fuel => exact hbody _

lemma getNextValidProvider_eq_length_iff (m : RustResourceManager) :
    m.getNextValidProvider 0 = m.providers.length ↔
      ∀ entry ∈ m.providers, entry.deletionPending = true := by
  unfold RustResourceManager.getNextValidProvider
  rw [drop_zero]
  split
  · rename_i i hi
    obtain ⟨hlt, hlive, -⟩ := findIdx?_eq_some_iff_getElem.mp hi
    refine ⟨fun h => absurd h (by omega), fun h => ?_⟩
    simp [h m.providers[i] (getElem_mem hlt)] at hlive
  · rename_i hnone
    simpa using hnone

lemma loadLoop_not_relocks (entries : List ZipEntry) (archive : RustZipArchive) (count : Nat) :
    ¬ Relocks (RustZipArchive.loadLoop toLowercase true entries archive count) := by
  induction entries generalizing archive count with
  | nil => simp [RustZipArchive.loadLoop]
  | cons e rest ih =>
    simp only [RustZipArchive.loadLoop]
    split
    · exact Relocks.loops
    · split
      · exact Relocks.ok _
      · split
        · exact Relocks.loops
        · split
          · exact Relocks.ok _
          · exact ih _ _

lemma loadArchive_not_relocks (archivePath : String) :
    ¬ Relocks (loadArchive toLowercase fs archivePath) := by
  unfold loadArchive
  split
  · exact Relocks.ok _
  · rename_i file _
    rw [Relocks.bind_iff]
    rintro (h | ⟨_, -, h⟩)
    · cases hentries : file.entries with
      | none => exact Relocks.ok _ (hentries ▸ h)
      | some entries => exact loadLoop_not_relocks entries _ _ (hentries ▸ h)
    · exact Relocks.ok _ h

lemma runFileTask_not_relocks : ¬ Relocks (w.runFileTask toLowercase fs) := by
  unfold runFileTask
  split
  · exact Relocks.ok _
  · rename_i task rest _
    cases task with
    | openFile filePath r =>
      simp only [fileTask]
      split
      · exact Relocks.ok _
      · exact Relocks.ok _
    | openZip a =>
      simp only [fileTask, lock_of_not_mem not_mem_nil, ok_bind]
      split
      · exact Relocks.ok _
      · rw [Relocks.bind_iff]
        rintro (h | ⟨zip, -, h⟩)
        · exact loadArchive_not_relocks _ h
        · cases zip with
          | none => exact Relocks.ok _ h
          | some zip => exact Relocks.ok _ h

/-- **A state that is dropped** while the manager is locked. -/
lemma dropState_relocks_iff (state : RustPendingState) :
    Relocks (w.dropState [.manager] state) ↔ w.AsksForHandler state := by
  unfold dropState AsksForHandler
  split
  · rename_i hnone
    simp [hnone]
  · rename_i load hload
    rw [hload, any_some]
    cases hredirected : load.redirected with
    | true => simp
    | false =>
      simp only [Bool.false_eq_true, if_false, resourceHandler,
        lock_of_mem (mem_singleton_self _), error_bind]
      simp

lemma stopRequest_relocks_iff (state : RustPendingState) :
    Relocks (w.stopRequest [.manager] state) ↔ w.AsksForHandler state :=
  dropState_relocks_iff state

lemma dropState_of_not_mem {held : List RustMutex} (hheld : .manager ∉ held) (w : RustWorld)
    (state : RustPendingState) : ∃ loads pendingHandlers, (w.loads = [] → loads = []) ∧
      w.dropState held state = .ok { w with loads, pendingHandlers } := by
  have hloads : w.loads = [] → w.loads.filter (fun load => load.state ≠ state.state.id) = [] :=
    fun h => by rw [h, filter_nil]
  unfold dropState
  split
  · exact ⟨_, _, id, rfl⟩
  · split
    · exact ⟨_, _, hloads, rfl⟩
    · rw [resourceHandler, lock_of_not_mem hheld]
      exact ⟨_, _, hloads, rfl⟩

lemma dropRequest_not_relocks {held : List RustMutex} (hheld : .manager ∉ held) (w : RustWorld)
    (r : RequestId) : ¬ Relocks (w.dropRequest held r) := by
  unfold dropRequest
  split
  · exact Relocks.ok _
  · obtain ⟨_, _, -, h⟩ := dropState_of_not_mem hheld _ _
    rw [h]
    exact Relocks.ok _

lemma continueZipLoop_not_relocks {a : Nat} (requests : List RequestId) (w : RustWorld) :
    ¬ Relocks (continueZipLoop [.archive a] a requests w) := by
  induction requests generalizing w with
  | nil => exact Relocks.ok _
  | cons r rest ih =>
    have hrequest : RustMutex.request r ∉ [RustMutex.archive a] := by simp
    simp only [continueZipLoop, archiveContinueRequest, lock_of_not_mem hrequest, ok_bind]
    rw [Relocks.bind_iff]
    rintro (h | ⟨⟨continued, w'⟩, -, h⟩)
    · split at h
      · split at h
        · exact Relocks.ok _ h
        · exact Relocks.ok _ h
      · exact Relocks.ok _ h
    · cases continued with
      | true => exact ih _ h
      | false =>
        rcases Relocks.bind_iff.mp h with h | ⟨_, -, h⟩
        · exact dropRequest_not_relocks (by simp) _ _ h
        · exact ih _ h

lemma incrementProvider_eq_true_iff (m : RustResourceManager) (state : RustRequestState) :
    (m.incrementProvider state).1 = true ↔ HasNextProvider m state := by
  simp only [RustResourceManager.incrementProvider, HasNextProvider]
  split
  · rename_i h
    exact ⟨fun _ => h, fun _ => rfl⟩
  · rename_i h
    exact ⟨fun h' => (Bool.false_ne_true h').elim, fun h' => absurd h' h⟩

lemma incrementProvider_id {m m' : RustResourceManager} {state state' : RustRequestState}
    {more : Bool} (h : m.incrementProvider state = (more, m', state')) : state'.id = state.id := by
  have hdetach : (m.detachRequestFromProvider state).2.id = state.id := by
    unfold RustResourceManager.detachRequestFromProvider
    split <;> rfl
  unfold RustResourceManager.incrementProvider at h
  dsimp only at h
  split at h
  · cases h
    exact hdetach
  · cases h
    exact hdetach

lemma continueRequest_relocks_iff (state : RustPendingState)
    (handler : Option StreamResourceHandler) :
    Relocks (w.continueRequest fuel [.manager] state handler) ↔
      (handler = none ∧ HasNextProvider w.manager state.state) ∨ w.AsksForHandler state := by
  cases handler with
  | some handler =>
    rw [continueRequest, stopRequest_relocks_iff]
    simp [AsksForHandler]
  | none =>
    rw [← incrementProvider_eq_true_iff]
    simp only [continueRequest]
    split
    · rename_i m s heq
      simp [sendRequest_relocks, Relocks.map_iff, heq]
    · rename_i m s heq
      rw [stopRequest_relocks_iff, AsksForHandler, AsksForHandler]
      simp [heq, incrementProvider_id heq]

lemma runIoTask_relocks_iff : Relocks (w.runIoTask fuel) ↔ ¬ Call.runIoTask.Spared w := by
  unfold runIoTask
  split
  · rename_i hnil
    simp [Call.Spared, hnil]
  · rename_i task rest hcons
    simp only [Call.Spared, hcons, head?_cons, some.injEq]
    cases task with
    | continueFile stream r =>
      simp only [ioTask, lock_of_not_mem not_mem_nil, ok_bind]
      split
      · simp
      · simp
    | continueZip a =>
      simp only [ioTask, lock_of_not_mem not_mem_nil, ok_bind]
      split
      · simp
      · simp [continueZipLoop_not_relocks]
    | continueRequest state handler =>
      simp only [ioTask, lock_of_not_mem not_mem_nil, ok_bind, continueRequest_relocks_iff]
      cases handler with
      | none => simpa [AsksForHandler] using or_iff_not_imp_left
      | some handler => simp [AsksForHandler]
    | stopRequest state =>
      simp only [ioTask, lock_of_not_mem not_mem_nil, ok_bind, stopRequest_relocks_iff]
      simp [AsksForHandler]

lemma onBeforeResourceLoad_relocks_iff (identifier : Nat) (url mimeType : String) :
    Relocks (w.onBeforeResourceLoad fuel identifier url mimeType) ↔
      ¬ (Call.onBeforeResourceLoad identifier url mimeType).Spared w := by
  rw [Call.Spared, ← getNextValidProvider_eq_length_iff]
  simp only [onBeforeResourceLoad, lock_of_not_mem not_mem_nil, ok_bind]
  split
  · rename_i h
    simp [h]
  · rename_i h
    simp [h, sendRequest_relocks]

/-- **The mutexes of the manager**: in every state, whatever the providers are, a call or a posted
task locks a mutex that its thread holds already if and only if it offers a request to a provider,
or ends a request whose load then asks for its handler. -/
theorem call_relocks_iff (toLowercase : String → String) (fs : FileSystem) (fuel : Nat)
    (w : RustWorld) (c : Call) : Relocks (w.call toLowercase fs fuel c) ↔ ¬ c.Spared w := by
  cases c with
  | onBeforeResourceLoad identifier url mimeType =>
    rw [call, Relocks.map_iff]
    exact onBeforeResourceLoad_relocks_iff identifier url mimeType
  | runFileTask => simp [call, Call.Spared, runFileTask_not_relocks]
  | runIoTask => exact runIoTask_relocks_iff

/-- With one content provider the first request for its URL hangs. -/
theorem content_request_relocks : ¬ ∀ (toLowercase : String → String) (fs : FileSystem) (fuel : Nat)
    (w : RustWorld) (c : Call), ¬ Relocks (w.call toLowercase fs fuel c) := by
  intro h
  refine h id (fun _ => none) 0
    (.new (RustResourceManager.new.addProvider 0 "") (fun _ => .content "a" [7] "") [])
    (.onBeforeResourceLoad 1 "a" "text/html") ?_
  exact ⟨.manager, rfl⟩

/-! ### The manager with a mutex that is not locked twice -/

/-- The manager whose mutex cannot be locked twice does not come back from the same loads. -/
theorem onBeforeResourceLoad_eq_none_iff (m : RustResourceManager) (hactive : m.active = none)
    (hw : w.manager = m) (identifier : Nat) (url mimeType : String) :
    m.onBeforeResourceLoad false identifier = none ↔
      Relocks (w.onBeforeResourceLoad fuel identifier url mimeType) := by
  rw [onBeforeResourceLoad_relocks_iff, Call.Spared, ← getNextValidProvider_eq_length_iff, hw]
  simp only [RustResourceManager.onBeforeResourceLoad, hactive, isSome_none,
    Bool.false_eq_true, if_false, RustResourceManager.sendRequest]
  split
  · rename_i h
    simp [h]
  · rename_i h
    simp [h]

end Calls

end RustWorld

end CefCore.ResourceManager
