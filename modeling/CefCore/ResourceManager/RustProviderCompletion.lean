import CefCore.ResourceManager.RustProviderProtocol

/-!
# What the Rust providers do with the requests they accept

The providers of `RustWorld` follow the protocol of `ProviderView`: each of their steps is a step of
the protocol on the part of the state that it is about. The requests are offered by a caller that
does not hold their mutexes, and no load of the browser is behind them.

## Main results

* `noneLost_iff_keeps`: the runs in which no request is lost.
-/

namespace CefCore.ResourceManager.RustWorld

open List Option Fallible Except RustMutex Transition

/-- The part of the state that the protocol is about. -/
def view (w : RustWorld) : ProviderView :=
  ⟨w.requests.map fun request => (request.url, request.mimeType), w.archives, w.fileTasks,
    w.ioTasks.filter IoTask.ofProvider, w.log⟩

/-- What happens to the providers: a request is offered to one of them, or a thread runs its next
task. -/
inductive ProviderAction where
  | offer (provider : BuiltinProvider) (url mimeType : String) (state : Option RustPendingState)
  | runFileTask
  | runIoTask

def passedOn (tasks : List IoTask) : List RustPendingState :=
  tasks.filterMap fun task => match task with
    | .continueRequest state none => some state
    | _ => none

/-- What the providers do not bring about: requests that are continued without a handler, and loads
of the browser. -/
def foreign (w : RustWorld) : List RustPendingState × List WaitingLoad := (passedOn w.ioTasks, w.loads)

section Steps

variable (toLowercase : String → String) (fs : FileSystem) (fuel : Nat)

/-- A new request is offered to a provider. -/
def offer (w : RustWorld) (provider : BuiltinProvider) (request : RustRequest) :
    Except RustHang RustWorld := do
  let r := w.requests.length
  let (handled, w) ← { w with requests := w.requests ++ [request] }.onRequest [] provider r
  return { w with log := (if handled then .accepted r provider else .declined r) :: w.log }

/-- One step; `none` if the call does not come back. -/
def providerStep (w : RustWorld) : ProviderAction → Option RustWorld
  | .offer provider url mimeType state => (w.offer provider ⟨url, mimeType, state⟩).toOption
  | .runFileTask => (w.runFileTask toLowercase fs).toOption
  | .runIoTask => (w.runIoTask fuel).toOption

/-- The tasks of the FILE thread at which no request is lost: the file that is opened exists, and
the archive that is opened can be loaded. -/
def KeepsFile (w : RustWorld) : FileTask → Prop
  | .openFile filePath _ => (fs filePath).isSome = true
  | .openZip a => ∀ archive ∈ w.archives[a]?,
      (ProviderView.archiveAt toLowercase fs archive.archivePath).isSome = true

/-- The tasks of the IO thread at which no request is lost: the archive that comes back holds the
files of all queued requests. -/
def KeepsIo (w : RustWorld) : IoTask → Prop
  | .continueZip a => ∀ archive ∈ w.archives[a]?, ∀ r ∈ archive.pendingRequests,
      (ProviderView.archiveAnswer w.view.params archive r).isSome = true
  | _ => True

/-- The steps at which no request is lost: such tasks, and offers, unless one under the URL path of
an archive provider is made once its archive has been loaded. -/
def Keeps (w : RustWorld) : ProviderAction → Prop
  | .offer (.archive a) url _ _ => ∀ archive ∈ w.archives[a]?,
      archive.urlPath.toList.isPrefixOf url.toList = true → archive.loadStarted = true →
        archive.loadEnded = false
  | .offer _ _ _ _ => True
  | .runFileTask => ∀ task ∈ w.fileTasks.head?, w.KeepsFile toLowercase fs task
  | .runIoTask => ∀ task ∈ w.ioTasks.head?, w.KeepsIo task

instance (w : RustWorld) : (task : FileTask) → Decidable (w.KeepsFile toLowercase fs task)
  | .openFile filePath _ => inferInstanceAs (Decidable ((fs filePath).isSome = true))
  | .openZip a => inferInstanceAs (Decidable (∀ archive ∈ w.archives[a]?, _))

instance (w : RustWorld) : (task : IoTask) → Decidable (w.KeepsIo task)
  | .continueZip a => inferInstanceAs (Decidable (∀ archive ∈ w.archives[a]?, _))
  | .continueFile _ _ | .continueRequest _ _ | .stopRequest _ => isTrue trivial

instance (w : RustWorld) : (a : ProviderAction) → Decidable (w.Keeps toLowercase fs a)
  | .offer (.archive a) _ _ _ => inferInstanceAs (Decidable (∀ archive ∈ w.archives[a]?, _))
  | .offer (.content _ _ _) _ _ _ | .offer (.directory _ _) _ _ _ => isTrue trivial
  | .runFileTask => inferInstanceAs (Decidable (∀ task ∈ w.fileTasks.head?, _))
  | .runIoTask => inferInstanceAs (Decidable (∀ task ∈ w.ioTasks.head?, _))

/-! ### The view of a step -/

variable {toLowercase fs fuel} {w w' : RustWorld}

@[simp] lemma ofProvider_continueFile (stream : List UInt8) (r : RequestId) :
    (IoTask.continueFile stream r).ofProvider = true := rfl

@[simp] lemma ofProvider_continueZip (a : Nat) : (IoTask.continueZip a).ofProvider = true := rfl

@[simp] lemma ofProvider_continueRequest (state : RustPendingState)
    (handler : Option StreamResourceHandler) :
    (IoTask.continueRequest state handler).ofProvider = false := rfl

@[simp] lemma ofProvider_stopRequest (state : RustPendingState) :
    (IoTask.stopRequest state).ofProvider = false := rfl

lemma map_set_state {requests : List RustRequest} {r : RequestId} {request : RustRequest}
    (hr : requests[r]? = some request) :
    (requests.set r { request with state := none }).map
        (fun request => (request.url, request.mimeType)) =
      requests.map fun request => (request.url, request.mimeType) := by
  obtain ⟨hlt, rfl⟩ := List.getElem?_eq_some_iff.mp hr
  have hlt' : r < (requests.map fun request => (request.url, request.mimeType)).length := by
    simpa using hlt
  have hself := set_getElem_self hlt'
  rw [getElem_map] at hself
  rw [map_set]
  exact hself

lemma view_requestContinue (r : RequestId) (handler : Option StreamResourceHandler) :
    (w.requestContinue r handler).view = { w.view with log := .continued r handler :: w.log } := by
  unfold requestContinue
  cases hr : w.requests[r]? with
  | none => simp [hr, view]
  | some request =>
    cases hstate : request.state with
    | none => simp [hr, hstate, view]
    | some state => simp [hr, hstate, view, map_set_state hr]

@[simp] lemma requestContinue_archives (r : RequestId) (handler : Option StreamResourceHandler) :
    (w.requestContinue r handler).archives = w.archives :=
  congrArg ProviderView.archives (view_requestContinue r handler)

@[simp] lemma requestContinue_foreign (r : RequestId) (handler : StreamResourceHandler) :
    (w.requestContinue r (some handler)).foreign = w.foreign := by
  unfold requestContinue
  cases hr : w.requests[r]? with
  | none => simp [hr, foreign]
  | some request =>
    cases hstate : request.state with
    | none => simp [hr, hstate, foreign]
    | some state => simp [hr, hstate, foreign, passedOn]

lemma archiveContinueRequest_view {held : List RustMutex} {a r : Nat} {archive : RustArchiveState}
    (hheld : .request r ∉ held) (harchive : w.archives[a]? = some archive) :
    ∃ handled w', w.archiveContinueRequest held a r = .ok (handled, w') ∧
      w'.archives = w.archives ∧ w'.foreign = w.foreign ∧
      w'.view = { w.view with
        log := (ProviderView.archiveAnswer w.view.params archive r).toList ++ w.log } := by
  have hparams : w.view.params[r]? = (w.requests[r]?).map fun q => (q.url, q.mimeType) := by
    simp [view]
  simp only [archiveContinueRequest, lock_of_not_mem hheld, ok_bind, harchive,
    ProviderView.archiveAnswer, hparams]
  cases hr : w.requests[r]? with
  | none => exact ⟨false, w, rfl, rfl, rfl, by simp [view]⟩
  | some request =>
    cases hhandler : archiveHandler archive request.url request.mimeType with
    | none => exact ⟨false, w, by simp [hhandler], rfl, rfl, by simp [view, hhandler]⟩
    | some handler =>
      refine ⟨true, w.requestContinue r (some handler), by simp [hhandler], by simp, by simp, ?_⟩
      rw [view_requestContinue]
      simp [hhandler]

lemma dropState_view {held : List RustMutex} {state : RustPendingState}
    (h : w.dropState held state = .ok w') : w'.view = w.view := by
  unfold dropState at h
  split at h
  · cases h
    rfl
  · split at h
    · cases h
      rfl
    · obtain ⟨_, -, h⟩ := bind_eq_ok_iff.mp h
      cases h
      rfl

lemma stopRequest_view {held : List RustMutex} {state : RustPendingState}
    (h : w.stopRequest held state = .ok w') : w'.view = w.view := by
  unfold stopRequest at h
  exact (dropState_view h :)

/-- A request behind which there is no load ends and does nothing else. -/
lemma exists_stopRequest (held : List RustMutex) (state : RustPendingState) (hloads : w.loads = []) :
    ∃ w', w.stopRequest held state = .ok w' ∧ w'.foreign = w.foreign := by
  refine ⟨{ w with manager := (w.manager.detachRequestFromProvider state.state).1 }, ?_, rfl⟩
  unfold stopRequest dropState
  rw [hloads, find?_nil]

lemma dropRequest_view {held : List RustMutex} (hheld : .manager ∉ held) (w : RustWorld)
    (r : RequestId) : ∃ w', w.dropRequest held r = .ok w' ∧ w'.archives = w.archives ∧
      (w.foreign = ([], []) → w'.foreign = ([], [])) ∧ w'.view = w.view := by
  unfold dropRequest takeState
  cases hr : w.requests[r]? with
  | none => exact ⟨w, rfl, rfl, id, rfl⟩
  | some request =>
    cases hstate : request.state with
    | none =>
      dsimp only
      rw [hstate]
      exact ⟨_, rfl, rfl, id, by simp [view, map_set_state hr]⟩
    | some state =>
      obtain ⟨loads, pendingHandlers, hloads, h⟩ := dropState_of_not_mem hheld
        { w with requests := w.requests.set r { request with state := none } } state
      dsimp only
      rw [hstate]
      refine ⟨_, h, rfl, fun hforeign => ?_, by simp [view, map_set_state hr]⟩
      obtain ⟨hpassed, hnone⟩ := Prod.mk.inj hforeign
      exact Prod.ext hpassed (hloads hnone)

lemma continueZipLoop_view {a : Nat} {archive : RustArchiveState} (requests : List RequestId) :
    ∀ w : RustWorld, w.archives[a]? = some archive →
      ∃ w', continueZipLoop [.archive a] a requests w = .ok w' ∧
        (w.foreign = ([], []) → w'.foreign = ([], [])) ∧ w'.view = { w.view with
          log := (requests.filterMap (ProviderView.archiveAnswer w.view.params archive)).reverse ++
            w.log } := by
  induction requests with
  | nil => exact fun w _ => ⟨w, rfl, id, by simp [view]⟩
  | cons r rest ih =>
    intro w harchive
    obtain ⟨handled, w₁, h₁, harchives₁, hforeign₁, hview₁⟩ :=
      archiveContinueRequest_view (by simp : RustMutex.request r ∉ [.archive a]) harchive
    -- a request that is not continued is dropped, and the protocol does not see that
    obtain ⟨w₂, h₂, harchives₂, hforeign₂, hview₂⟩ : ∃ w₂,
        (if handled then pure w₁ else w₁.dropRequest [.archive a] r) = Except.ok w₂ ∧
          w₂.archives = w₁.archives ∧ (w₁.foreign = ([], []) → w₂.foreign = ([], [])) ∧
          w₂.view = w₁.view := by
      cases handled with
      | true => exact ⟨w₁, rfl, rfl, id, rfl⟩
      | false => exact dropRequest_view (by simp) w₁ r
    obtain ⟨w₃, h₃, hforeign₃, hview₃⟩ := ih w₂ (by rw [harchives₂, harchives₁, harchive])
    refine ⟨w₃, ?_, fun h => hforeign₃ (hforeign₂ (hforeign₁.trans h)), ?_⟩
    · cases handled with
      | true =>
        obtain rfl := ok.inj h₂
        simp [continueZipLoop, h₁, h₃]
      | false => simp [continueZipLoop, h₁, ok_bind, show w₁.dropRequest [.archive a] r = .ok w₂ from h₂, h₃]
    have hlog : w₂.log = _ := congrArg ProviderView.log (hview₂.trans hview₁)
    rw [hview₃, hlog, hview₂, hview₁]
    cases hanswer : ProviderView.archiveAnswer w.view.params archive r with
    | none => simp [hanswer]
    | some e => simp [hanswer]

lemma view_params (r : RequestId) :
    w.view.params[r]? = (w.requests[r]?).map fun request => (request.url, request.mimeType) := by
  simp [view]

lemma view_offer (request : RustRequest) :
    ({ w with requests := w.requests ++ [request] } : RustWorld).view =
      { w.view with params := w.view.params ++ [(request.url, request.mimeType)] } := by
  simp [view]

@[simp] lemma view_params_length : w.view.params.length = w.requests.length := by simp [view]

lemma view_report (e : ProviderEvent) :
    ({ w with log := e :: w.log } : RustWorld).view =
      { w.view with log := e :: w.view.log } := rfl

lemma step_declined (request : RustRequest) :
    ProviderView.Step toLowercase fs true w.view
      ({ w with
        requests := w.requests ++ [request]
        log := .declined w.requests.length :: w.log } : RustWorld).view :=
  (ProviderView.Step.declined w.view request.url request.mimeType).to (by simp [view])

variable {a : ProviderAction} {handled : Bool} {request : RustRequest}

lemma contentOnRequest_step {url mimeType : String} {content : List UInt8}
    (h : ({ w with requests := w.requests ++ [request] } : RustWorld).contentOnRequest [] url
      content mimeType w.requests.length = .ok (handled, w')) :
    ProviderView.Step toLowercase fs true w.view
      ({ w' with
        log := (if handled then .accepted w.requests.length (.content url content mimeType)
          else .declined w.requests.length) :: w'.log } : RustWorld).view := by
  simp only [contentOnRequest, lock_of_not_mem not_mem_nil, ok_bind,
    getElem?_concat_length, pure_eq] at h
  split at h
  · cases h
    exact step_declined request
  · split at h
    · cases h
      exact step_declined request
    · cases h
      let handler : StreamResourceHandler :=
        ⟨if mimeType.isEmpty then mimeType else request.mimeType, content⟩
      have hprovider : ¬ (BuiltinProvider.content url content mimeType).LoadsFiles := id
      refine (ProviderView.Step.content w.view request.url request.mimeType hprovider
        (some handler)).to ?_
      rw [view_report, view_requestContinue, view_offer, view_params_length]
      rfl

lemma directoryOnRequest_step {urlPath directoryPath : String}
    (h : ({ w with requests := w.requests ++ [request] } : RustWorld).directoryOnRequest [] urlPath
      directoryPath w.requests.length = .ok (handled, w')) :
    ProviderView.Step toLowercase fs true w.view
      ({ w' with
        log := (if handled then .accepted w.requests.length (.directory urlPath directoryPath)
          else .declined w.requests.length) :: w'.log } : RustWorld).view := by
  simp only [directoryOnRequest, lock_of_not_mem not_mem_nil, ok_bind,
    getElem?_concat_length, pure_eq] at h
  cases hpath : getFileRelativePath directoryPath urlPath request.url with
  | none =>
    rw [hpath] at h
    cases h
    exact step_declined request
  | some filePath =>
    rw [hpath] at h
    cases h
    exact (ProviderView.Step.directory w.view request.url request.mimeType hpath).to (by simp [view])

section

variable (hw : w.view.Sound toLowercase fs)
include hw

lemma archiveOnRequest_step {a : Nat}
    (h : ({ w with requests := w.requests ++ [request] } : RustWorld).archiveOnRequest [] a
      w.requests.length = .ok (handled, w')) :
    ProviderView.Step toLowercase fs true w.view
      ({ w' with
        log := (if handled then .accepted w.requests.length (.archive a)
          else .declined w.requests.length) :: w'.log } : RustWorld).view := by
  have hrequest : RustMutex.request w.requests.length ∉ [RustMutex.archive a] := by simp
  simp only [archiveOnRequest, lock_of_not_mem not_mem_nil, lock_of_not_mem hrequest, ok_bind,
    getElem?_concat_length, pure_eq] at h
  cases harchive : w.archives[a]? with
  | none =>
    simp only [harchive] at h
    cases h
    exact step_declined request
  | some archive =>
    simp only [harchive] at h
    split at h
    · cases h
      exact step_declined request
    · split at h
      · rename_i hstarted
        have hstarted : archive.loadStarted = false := by simpa using hstarted
        cases h
        have hended := hw.not_ended_of_not_started harchive hstarted
        exact (ProviderView.Step.queued w.view request.url request.mimeType harchive hended).to
          (by simp [view, hstarted])
      · split at h
        · rename_i hended
          obtain ⟨hstarted, hended⟩ : archive.loadStarted = true ∧ archive.loadEnded = false := by
            simpa using hended
          cases h
          refine (ProviderView.Step.queued w.view request.url request.mimeType harchive hended).to ?_
          simp [view, hstarted]
        · -- the request is locked by `on_request` itself
          rw [archiveContinueRequest, lock_of_mem (by simp)] at h
          cases h

lemma offer_step {provider : BuiltinProvider} (h : w.offer provider request = .ok w') :
    ProviderView.Step toLowercase fs true w.view w'.view := by
  simp only [offer, bind_eq_ok_iff] at h
  obtain ⟨⟨handled, w₁⟩, h₁, h⟩ := h
  cases h
  cases provider with
  | content url content mimeType => exact contentOnRequest_step h₁
  | directory urlPath directoryPath => exact directoryOnRequest_step h₁
  | archive a => exact archiveOnRequest_step hw h₁

lemma runFileTask_step (h : w.runFileTask toLowercase fs = .ok w') :
    ∃ kept, ProviderView.Step toLowercase fs kept w.view w'.view ∧
      (kept = true ↔ w.Keeps toLowercase fs .runFileTask) := by
  unfold runFileTask at h
  simp only [Keeps]
  cases htasks : w.fileTasks with
  | nil =>
    rw [htasks] at h
    cases h
    exact ⟨true, .refl _, by simp⟩
  | cons task rest =>
    rw [htasks] at h
    cases task with
    | openFile filePath r =>
      simp only [fileTask] at h
      cases hfile : fs filePath with
      | none =>
        rw [hfile] at h
        cases h
        exact ⟨false, .missing w.view htasks hfile, by simp [KeepsFile, hfile]⟩
      | some file =>
        rw [hfile] at h
        cases h
        refine ⟨true, (ProviderView.Step.opened w.view htasks hfile).to ?_, by simp [KeepsFile, hfile]⟩
        simp [view, filter_cons]
    | openZip a =>
      have ha : a < w.archives.length := hw.zip_lt a (by simp [view, htasks])
      have harchive : w.archives[a]? = some w.archives[a] := getElem?_eq_getElem ha
      simp only [fileTask, lock_of_not_mem not_mem_nil, ok_bind, harchive, bind_eq_ok_iff] at h
      obtain ⟨zip, hzip, h⟩ := h
      have hat : ProviderView.archiveAt toLowercase fs w.archives[a].archivePath = zip := by
        simp [ProviderView.archiveAt, hzip]
      cases zip with
      | none =>
        cases h
        exact ⟨false, .failed w.view htasks harchive hzip, by simp [KeepsFile, harchive, hat]⟩
      | some zip =>
        cases h
        refine ⟨true, (ProviderView.Step.loaded w.view htasks harchive hzip).to ?_,
          by simp [KeepsFile, harchive, hat]⟩
        simp [view, filter_cons]

end

lemma continueRequest_view {held : List RustMutex} {state : RustPendingState}
    {handler : Option StreamResourceHandler} (hheld : held = [.manager])
    (h : w.continueRequest fuel held state handler = .ok w') : w'.view = w.view := by
  subst hheld
  unfold continueRequest at h
  split at h
  · exact (stopRequest_view h).trans rfl
  · split at h
    · rw [sendRequest_relocks] at h
      cases h
    · exact (stopRequest_view h).trans rfl

lemma runIoTask_step (hw : w.view.Sound toLowercase fs) (h : w.runIoTask fuel = .ok w') :
    ∃ kept, ProviderView.Step toLowercase fs kept w.view w'.view ∧
      (kept = true ↔ w.Keeps toLowercase fs .runIoTask) := by
  unfold runIoTask at h
  simp only [Keeps]
  cases htasks : w.ioTasks with
  | nil =>
    rw [htasks] at h
    cases h
    exact ⟨true, .refl _, by simp⟩
  | cons task rest =>
    rw [htasks] at h
    cases task with
    | continueFile stream r =>
      have htask : w.view.ioTasks = .continueFile stream r :: rest.filter IoTask.ofProvider := by
        simp [view, htasks, filter_cons]
      obtain ⟨url, mimeType, hparams⟩ := hw.params_of_stream htask
      obtain ⟨request, hr, hrequest⟩ := map_eq_some_iff.mp ((view_params r).symm.trans hparams)
      cases hrequest
      simp only [ioTask, lock_of_not_mem not_mem_nil, ok_bind, hr] at h
      cases h
      refine ⟨true, (ProviderView.Step.streamed w.view htask hparams).to ?_, by simp [KeepsIo]⟩
      rw [view_requestContinue]
      rfl
    | continueZip a =>
      have htask : w.view.ioTasks = .continueZip a :: rest.filter IoTask.ofProvider := by
        simp [view, htasks, filter_cons]
      have ha : a < w.archives.length := hw.zip_lt a (by simp [htask])
      have harchive : w.archives[a]? = some w.archives[a] := getElem?_eq_getElem ha
      simp only [ioTask, lock_of_not_mem not_mem_nil, ok_bind, harchive] at h
      obtain ⟨w₁, h₁, -, hview⟩ := continueZipLoop_view w.archives[a].pendingRequests
        { w with
          ioTasks := rest
          archives := w.archives.set a
            { w.archives[a] with loadEnded := true, pendingRequests := [] } }
        (getElem?_set_self ha)
      obtain rfl := ok.inj (h₁.symm.trans h)
      refine ⟨_, (ProviderView.Step.drained w.view htask harchive).to ?_, ?_⟩
      · rw [hview]
        rfl
      · simp [KeepsIo, harchive]
    | continueRequest state handler =>
      simp only [ioTask, lock_of_not_mem not_mem_nil, ok_bind] at h
      refine ⟨true, (ProviderView.Step.refl w.view).to ?_, by simp [KeepsIo]⟩
      rw [continueRequest_view rfl h]
      simp [view, htasks]
    | stopRequest state =>
      simp only [ioTask, lock_of_not_mem not_mem_nil, ok_bind] at h
      refine ⟨true, (ProviderView.Step.refl w.view).to ?_, by simp [KeepsIo]⟩
      rw [stopRequest_view h]
      simp [view, htasks]

lemma offer_isOk_iff (provider : BuiltinProvider) (url mimeType : String)
    (state : Option RustPendingState) :
    (∃ w', w.offer provider ⟨url, mimeType, state⟩ = .ok w') ↔
      w.Keeps toLowercase fs (.offer provider url mimeType state) := by
  simp only [offer, bind_eq_ok_iff, pure_eq]
  cases provider with
  | content url' content mimeType' =>
    simp only [onRequest, contentOnRequest, lock_of_not_mem not_mem_nil,
      ok_bind, getElem?_concat_length, Keeps, pure_eq, iff_true]
    split
    · exact ⟨_, _, rfl, rfl⟩
    · split
      · exact ⟨_, _, rfl, rfl⟩
      · exact ⟨_, _, rfl, rfl⟩
  | directory urlPath directoryPath =>
    simp only [onRequest, directoryOnRequest, lock_of_not_mem not_mem_nil,
      ok_bind, getElem?_concat_length, Keeps, pure_eq, iff_true]
    split
    · exact ⟨_, _, rfl, rfl⟩
    · exact ⟨_, _, rfl, rfl⟩
  | archive a =>
    have hrequest : RustMutex.request w.requests.length ∉ [RustMutex.archive a] := by simp
    simp only [onRequest, archiveOnRequest, lock_of_not_mem not_mem_nil, lock_of_not_mem hrequest,
      ok_bind, getElem?_concat_length, Keeps, pure_eq]
    cases harchive : w.archives[a]? with
    | none => simp
    | some archive =>
      simp only [mem_def, some.injEq, forall_eq']
      split
      · rename_i hurl
        simp only [Bool.not_eq_true'] at hurl
        simp [hurl]
      · rename_i hurl
        simp only [Bool.not_eq_true', Bool.not_eq_false] at hurl
        split
        · rename_i hstarted
          simp only [Bool.not_eq_true'] at hstarted
          simp [hstarted]
        · split
          · rename_i hended
            simp only [Bool.and_eq_true, Bool.not_eq_true'] at hended
            simp [hended]
          · rename_i hstarted hended
            simp only [Bool.not_eq_true', Bool.not_eq_false] at hstarted
            simp only [hstarted, Bool.true_and, Bool.not_eq_true', Bool.not_eq_false] at hended
            rw [archiveContinueRequest, lock_of_mem (by simp)]
            simp [hurl, hstarted, hended]

/-- Every step of the providers is a step of the protocol, and it is marked if and only if nothing
is lost at it. -/
theorem view_step (hw : w.view.Sound toLowercase fs)
    (h : w.providerStep toLowercase fs fuel a = some w') :
    ∃ kept, ProviderView.Step toLowercase fs kept w.view w'.view ∧
      (kept = true ↔ w.Keeps toLowercase fs a) := by
  cases a with
  | offer provider url mimeType state =>
    have h : w.offer provider ⟨url, mimeType, state⟩ = .ok w' :=
      toOption_eq_some_iff.mp h
    exact ⟨true, offer_step hw h, by simpa using (offer_isOk_iff _ _ _ _).mp ⟨w', h⟩⟩
  | runFileTask => exact runFileTask_step hw (toOption_eq_some_iff.mp h)
  | runIoTask => exact runIoTask_step hw (toOption_eq_some_iff.mp h)

/-! ### The steps come back -/

lemma onRequest_foreign {provider : BuiltinProvider} {r : RequestId}
    (h : w.onRequest [] provider r = .ok (handled, w')) : w'.foreign = w.foreign := by
  cases provider with
  | content url content mimeType =>
    simp only [onRequest, contentOnRequest, lock_of_not_mem not_mem_nil, ok_bind, pure_eq] at h
    split at h
    · cases h
      rfl
    · split at h
      · cases h
        rfl
      · split at h
        · cases h
          rfl
        · cases h
          simp
  | directory urlPath directoryPath =>
    simp only [onRequest, directoryOnRequest, lock_of_not_mem not_mem_nil, ok_bind, pure_eq] at h
    split at h
    · cases h
      rfl
    · split at h
      · cases h
        rfl
      · cases h
        rfl
  | archive a =>
    have hrequest : RustMutex.request r ∉ [RustMutex.archive a] := by simp
    simp only [onRequest, archiveOnRequest, lock_of_not_mem not_mem_nil,
      lock_of_not_mem hrequest, ok_bind, pure_eq] at h
    split at h
    · split at h
      · cases h
        rfl
      · split at h
        · cases h
          rfl
        · split at h
          · cases h
            rfl
          · rw [archiveContinueRequest, lock_of_mem (by simp)] at h
            cases h
    · cases h
      rfl

@[simp] lemma passedOn_append (tasks tasks' : List IoTask) :
    passedOn (tasks ++ tasks') = passedOn tasks ++ passedOn tasks' := filterMap_append

lemma runFileTask_foreign (h : w.runFileTask toLowercase fs = .ok w') : w'.foreign = w.foreign := by
  unfold runFileTask at h
  split at h
  · cases h
    rfl
  · rename_i task rest _
    cases task with
    | openFile filePath r =>
      simp only [fileTask] at h
      split at h
      · cases h
        rfl
      · cases h
        simp [foreign, passedOn]
    | openZip a =>
      simp only [fileTask, lock_of_not_mem not_mem_nil, ok_bind] at h
      split at h
      · cases h
        rfl
      · obtain ⟨zip, -, h⟩ := bind_eq_ok_iff.mp h
        cases zip with
        | none =>
          cases h
          rfl
        | some zip =>
          cases h
          simp [foreign, passedOn]

lemma runIoTask_foreign (h : w.runIoTask fuel = .ok w') (hnone : w.foreign = ([], [])) :
    w'.foreign = ([], []) := by
  obtain ⟨hpassed, hloads⟩ := Prod.mk.inj hnone
  unfold runIoTask at h
  cases htasks : w.ioTasks with
  | nil =>
    rw [htasks] at h
    cases h
    exact hnone
  | cons task rest =>
    rw [htasks] at h hpassed
    have hrest : ({ w with ioTasks := rest } : RustWorld).foreign = ([], []) := by
      have happend := passedOn_append [task] rest
      rw [singleton_append, hpassed] at happend
      exact Prod.ext (append_eq_nil_iff.mp happend.symm).2 hloads
    cases task with
    | continueFile stream r =>
      simp only [ioTask, lock_of_not_mem not_mem_nil, ok_bind] at h
      split at h
      · cases h
        exact hrest
      · cases h
        rw [requestContinue_foreign]
        exact hrest
    | continueZip a =>
      simp only [ioTask, lock_of_not_mem not_mem_nil, ok_bind] at h
      cases harchive : w.archives[a]? with
      | none =>
        rw [harchive] at h
        cases h
        exact hrest
      | some archive =>
        rw [harchive] at h
        obtain ⟨w₁, h₁, hforeign, -⟩ := continueZipLoop_view archive.pendingRequests
          { w with
            ioTasks := rest
            archives := w.archives.set a
              { archive with loadEnded := true, pendingRequests := [] } }
          (List.getElem?_set_self (List.getElem?_eq_some_iff.mp harchive).1)
        obtain rfl := ok.inj (h₁.symm.trans h)
        exact hforeign hrest
    | continueRequest state handler =>
      simp only [ioTask, lock_of_not_mem not_mem_nil, ok_bind] at h
      cases handler with
      | none => simp [passedOn] at hpassed
      | some handler =>
        obtain ⟨w₁, h₁, hforeign⟩ := exists_stopRequest
          (w := { w with
            ioTasks := rest
            pendingHandlers := (state.state.identifier, handler) ::
              w.pendingHandlers.filter fun e => e.1 ≠ state.state.identifier })
          [.manager] state hloads
        obtain rfl := ok.inj (h₁.symm.trans h)
        exact hforeign.trans hrest
    | stopRequest state =>
      simp only [ioTask, lock_of_not_mem not_mem_nil, ok_bind] at h
      obtain ⟨w₁, h₁, hforeign⟩ := exists_stopRequest (w := { w with ioTasks := rest })
        [.manager] state hloads
      obtain rfl := ok.inj (h₁.symm.trans h)
      exact hforeign.trans hrest

lemma providerStep_foreign
    (h : w.providerStep toLowercase fs fuel a = some w') (hnone : w.foreign = ([], [])) :
    w'.foreign = ([], []) := by
  cases a with
  | offer provider url mimeType state =>
    have h : w.offer provider ⟨url, mimeType, state⟩ = .ok w' :=
      toOption_eq_some_iff.mp h
    obtain ⟨⟨handled, w₁⟩, h₁, h⟩ := bind_eq_ok_iff.mp h
    cases h
    exact (onRequest_foreign h₁).trans hnone
  | runFileTask => exact (runFileTask_foreign (toOption_eq_some_iff.mp h)).trans hnone
  | runIoTask => exact runIoTask_foreign (toOption_eq_some_iff.mp h) hnone

lemma providerStep_isSome (hkeeps : w.Keeps toLowercase fs a) (hnone : w.foreign = ([], [])) :
    ∃ w', w.providerStep toLowercase fs fuel a = some w' := by
  obtain ⟨hpassed, hloads⟩ := Prod.mk.inj hnone
  simp only [providerStep]
  cases a with
  | offer provider url mimeType state =>
    obtain ⟨w', h⟩ := (offer_isOk_iff provider url mimeType state).mpr hkeeps
    exact ⟨w', toOption_eq_some_iff.mpr h⟩
  | runFileTask =>
    simp only [Keeps] at hkeeps
    simp only [toOption_eq_some_iff, runFileTask]
    split
    · exact ⟨_, rfl⟩
    · rename_i task rest htasks
      have hkeeps := hkeeps task (by simp [htasks])
      cases task with
      | openFile filePath r =>
        simp only [fileTask]
        split
        · exact ⟨_, rfl⟩
        · exact ⟨_, rfl⟩
      | openZip a =>
        simp only [fileTask, lock_of_not_mem not_mem_nil, ok_bind]
        split
        · exact ⟨_, rfl⟩
        · rename_i archive harchive
          obtain ⟨zip, hzip⟩ := isSome_iff_exists.mp (hkeeps archive harchive)
          rw [ProviderView.loadArchive_of_archiveAt hzip]
          exact ⟨_, rfl⟩
  | runIoTask =>
    simp only [toOption_eq_some_iff, runIoTask]
    split
    · exact ⟨_, rfl⟩
    · rename_i task rest htasks
      rw [htasks] at hpassed
      cases task with
      | continueFile stream r =>
        simp only [ioTask, lock_of_not_mem not_mem_nil, ok_bind]
        split
        · exact ⟨_, rfl⟩
        · exact ⟨_, rfl⟩
      | continueZip a =>
        simp only [ioTask, lock_of_not_mem not_mem_nil, ok_bind]
        split
        · exact ⟨_, rfl⟩
        · rename_i archive harchive
          obtain ⟨w', h, -⟩ := continueZipLoop_view archive.pendingRequests
            { w with
              ioTasks := rest
              archives := w.archives.set a
                { archive with loadEnded := true, pendingRequests := [] } }
            (List.getElem?_set_self (List.getElem?_eq_some_iff.mp harchive).1)
          exact ⟨w', h⟩
      | continueRequest state handler =>
        cases handler with
        | none => simp [passedOn] at hpassed
        | some handler =>
          obtain ⟨w', h, -⟩ := exists_stopRequest
            (w := { w with
              ioTasks := rest
              pendingHandlers := (state.state.identifier, handler) ::
                w.pendingHandlers.filter fun e => e.1 ≠ state.state.identifier })
            [.manager] state hloads
          exact ⟨w', h⟩
      | stopRequest state =>
        obtain ⟨w', h, -⟩ := exists_stopRequest (w := { w with ioTasks := rest })
          [.manager] state hloads
        exact ⟨w', h⟩

/-! ### When no request is lost -/

lemma new_sound (toLowercase : String → String) (fs : FileSystem) (manager : RustResourceManager)
    (provider : EntryId → BuiltinProvider)
    (archives : List (String × String)) :
    (new manager provider archives).view.Sound toLowercase fs where
  accepted_lt r hr := absurd rfl hr
  fate r := by
    refine .untouched rfl ?_
    simp only [ProviderView.place, ProviderView.nowhere, ProviderView.Place.mk.injEq]
    refine ⟨rfl, rfl, ?_, rfl⟩
    funext a
    simp only [queues, view, new, getElem?_map]
    cases archives[a]? with
    | none => rfl
    | some paths => rfl
  stage a archive harchive := by
    simp only [view, new, getElem?_map, map_eq_some_iff] at harchive
    obtain ⟨paths, -, rfl⟩ := harchive
    exact .unstarted rfl rfl rfl rfl rfl
  zip_lt a ha := absurd rfl ha

lemma new_not_damaged (manager : RustResourceManager) (provider : EntryId → BuiltinProvider)
    (archives : List (String × String)) : ¬ (new manager provider archives).view.Damaged := by
  rintro (⟨r, provider, haccepted, -⟩ | ⟨a, archive, harchive, -, hpending, -⟩)
  · cases haccepted
  · simp only [view, new, getElem?_map, map_eq_some_iff] at harchive
    obtain ⟨paths, -, rfl⟩ := harchive
    exact hpending rfl

/-- **No accepted request is lost** if and only if every file that is opened exists, every archive
that is opened can be loaded and has the files of all requests that were queued for it, and no
request is offered to an archive provider after its load. This holds for all runs at whose end all
posted tasks have run, with any offers and any file system; the calls of such a run all come back.

**Proof sketch.** The steps of the providers are steps of the protocol. A step at which the
condition fails does damage or hangs, and damage lasts. -/
theorem noneLost_iff_keeps (toLowercase : String → String) (fs : FileSystem) (fuel : Nat)
    (manager : RustResourceManager) (provider : EntryId → BuiltinProvider)
    (archives : List (String × String)) (actions : List ProviderAction)
    (hdrained : ∀ w, actions.foldlM (providerStep toLowercase fs fuel)
      (new manager provider archives) = some w → w.fileTasks = [] ∧ w.ioTasks = []) :
    (∃ w, actions.foldlM (providerStep toLowercase fs fuel) (new manager provider archives) = some w ∧
      w.view.NoneLost toLowercase fs) ↔
    Along (providerStep toLowercase fs fuel) (Keeps toLowercase fs)
      (new manager provider archives) actions := by
  have hsound := new_sound toLowercase fs manager provider archives
  have hend : ∀ w, actions.foldlM (providerStep toLowercase fs fuel)
      (new manager provider archives) = some w → w.view.Sound toLowercase fs →
      (w.view.NoneLost toLowercase fs ↔ ¬ w.view.Damaged) := fun w hrun hw =>
    hw.noneLost_iff (hdrained w hrun).1 (by simp [view, (hdrained w hrun).2])
  have hstep : ∀ w a w', w.view.Sound toLowercase fs →
      providerStep toLowercase fs fuel w a = some w' → w'.view.Sound toLowercase fs := by
    intro w a w' hw h
    obtain ⟨kept, h, -⟩ := view_step hw h
    exact hw.step h
  constructor
  · rintro ⟨w, hrun, hnone⟩
    by_contra hnot
    have hw := run_invariant (I := fun w => w.view.Sound toLowercase fs) hstep hsound hrun
    refine (hend w hrun hw).mp hnone (Along.damage (B := fun w => w.view.Damaged) hstep
      ?_ ?_ actions _ w hsound hnot hrun)
    · intro w a w' hw hmiss h
      obtain ⟨kept, h, hkept⟩ := view_step hw h
      cases kept with
      | true => exact absurd (hkept.mp rfl) hmiss
      | false => exact hw.damaged h
    · intro w a w' hw hdamaged h
      obtain ⟨kept, h, -⟩ := view_step hw h
      exact hdamaged.step hw h
  · intro halong
    have hreturns : ∀ w a, (w.view.Sound toLowercase fs ∧ ¬ w.view.Damaged ∧
        w.foreign = ([], [])) → w.Keeps toLowercase fs a →
        ∃ w', providerStep toLowercase fs fuel w a = some w' ∧ w'.view.Sound toLowercase fs ∧
          ¬ w'.view.Damaged ∧ w'.foreign = ([], []) := by
      rintro w a ⟨hw, hnot, hforeign⟩ hkeeps
      obtain ⟨w', h⟩ := providerStep_isSome hkeeps hforeign
      obtain ⟨kept, hview, hkept⟩ := view_step hw h
      rw [hkept.mpr hkeeps] at hview
      exact ⟨w', h, hw.step hview, hview.not_damaged hw hnot, providerStep_foreign h hforeign⟩
    obtain ⟨w, hrun, hw⟩ := Along.exists_run hreturns actions _
      ⟨hsound, new_not_damaged manager provider archives, rfl⟩ halong
    exact ⟨w, hrun, (hend w hrun hw.1).mpr hw.2.1⟩

def twoFiles : FileSystem := fun path =>
  if path = "pages/x" then some ⟨[1, 2], none⟩
  else if path = "a.zip" then some ⟨[3], some [⟨"y", [4, 5], true, true⟩]⟩
  else none

/-- The page is asked for, and the entry of the archive twice while it is being loaded; then all
tasks run. -/
def askForBoth : List ProviderAction :=
  [.offer (.directory "d/" "pages") "d/x" "text/html" none,
    .offer (.archive 0) "z/y" "text/css" none, .runFileTask, .runIoTask,
    .offer (.archive 0) "z/y" "text/css" none, .runFileTask, .runIoTask]

/-- Three requests for files that exist. -/
theorem noneLost_iff_keeps_both : ∃ w, askForBoth.foldlM (providerStep id twoFiles 0)
      (new RustResourceManager.new (fun _ => .archive 0) [("z", "a.zip")]) = some w ∧
    w.fileTasks = [] ∧ w.ioTasks = [] ∧ w.view.NoneLost id twoFiles := by
  have hrun : (askForBoth.foldlM (providerStep id twoFiles 0)
      (new RustResourceManager.new (fun _ => .archive 0) [("z", "a.zip")])).map
        (fun w => (w.fileTasks, w.ioTasks)) = some ([], []) := by decide +kernel
  have hdrained : ∀ w, askForBoth.foldlM (providerStep id twoFiles 0)
      (new RustResourceManager.new (fun _ => .archive 0) [("z", "a.zip")]) = some w →
      w.fileTasks = [] ∧ w.ioTasks = [] := by
    intro w hw
    rw [hw] at hrun
    exact Prod.mk.inj (some.inj hrun)
  have halong : Along (providerStep id twoFiles 0) (Keeps id twoFiles)
      (new RustResourceManager.new (fun _ => .archive 0) [("z", "a.zip")]) askForBoth := by
    decide +kernel
  obtain ⟨w, hw, hnone⟩ := (noneLost_iff_keeps id twoFiles 0 RustResourceManager.new
    (fun _ => .archive 0) [("z", "a.zip")] askForBoth hdrained).mpr halong
  exact ⟨w, hw, (hdrained w hw).1, (hdrained w hw).2, hnone⟩

/-- A request for a file that is not there is accepted and never continued. -/
theorem missing_file_lost : ¬ ∀ (toLowercase : String → String) (fs : FileSystem) (fuel : Nat)
    (manager : RustResourceManager) (provider : EntryId → BuiltinProvider)
    (archives : List (String × String)) (actions : List ProviderAction) (w : RustWorld),
    actions.foldlM (providerStep toLowercase fs fuel) (new manager provider archives) = some w →
    w.fileTasks = [] → w.ioTasks = [] → w.view.NoneLost toLowercase fs := by
  intro h
  obtain ⟨w, hrun, hw⟩ := map_eq_some_iff.mp (show
    ([ProviderAction.offer (.directory "d/" "pages") "d/z" "text/html" none, .runFileTask].foldlM
      (providerStep id twoFiles 0) (new RustResourceManager.new (fun _ => .archive 0) [])).map
        (fun w => (w.fileTasks, w.ioTasks, w.log)) =
      some ([], [], [.accepted 0 (.directory "d/" "pages")]) by decide +kernel)
  simp only [Prod.mk.injEq] at hw
  obtain ⟨hfile, hio, hlog⟩ := hw
  have hnone := h id twoFiles 0 _ _ _ _ w hrun hfile hio
  have honce := hnone.once 0 (.directory "d/" "pages") (by simp [view, hlog]) trivial
  simp [view, hlog] at honce

end Steps

end CefCore.ResourceManager.RustWorld
