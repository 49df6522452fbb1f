import CefCore.ResourceManager.RustLocking

/-!
# The protocol of the Rust providers of files

A directory provider opens the file on the FILE thread and hands the stream back to the IO thread;
an archive provider queues its requests until the archive has been loaded the same way. This file
follows every request that `on_request` accepts through these tasks, on the part of the state that
the protocol is about: the requests' own states and the manager's tasks are left out.

## Main results

* `Sound.noneLost_iff`: no request is lost if no step is damaged.
-/

lemma filterMap_eq_of_support {α β : Type*} [DecidableEq α] {l : List α} (hnodup : l.Nodup)
    {f : α → Option β} {x : α} (hf : ∀ y, y ≠ x → f y = none) :
    l.filterMap f = if x ∈ l then (f x).toList else [] := by
  induction l with
  | nil => rfl
  | cons y l ih =>
    obtain ⟨hy, hnodup⟩ := List.nodup_cons.mp hnodup
    by_cases hxy : y = x
    · subst hxy
      have hnil : l.filterMap f = [] := by
        rw [ih hnodup, if_neg hy]
      cases hfx : f y with
      | none => simp [hfx, hnil]
      | some b => simp [hfx, hnil]
    · rw [List.filterMap_cons_none (hf y hxy), ih hnodup]
      simp [Ne.symm hxy]

namespace CefCore.ResourceManager

open List Option Nat

def BuiltinProvider.LoadsFiles : BuiltinProvider → Prop
  | .content _ _ _ => False
  | _ => True

def ProviderEvent.request : ProviderEvent → RequestId
  | .accepted r _ | .declined r | .continued r _ => r

/-- The handlers that `continue_request` was called with for a request, newest first. -/
def providerContinuations (log : List ProviderEvent) (r : RequestId) :
    List (Option StreamResourceHandler) :=
  log.filterMap fun e => match e with
    | .continued r' handler => if r' = r then some handler else none
    | _ => none

def acceptedBy (log : List ProviderEvent) (r : RequestId) : List BuiltinProvider :=
  log.filterMap fun e => match e with
    | .accepted r' provider => if r' = r then some provider else none
    | _ => none

def openings (tasks : List FileTask) (r : RequestId) : List String :=
  tasks.filterMap fun task => match task with
    | .openFile filePath r' => if r' = r then some filePath else none
    | .openZip _ => none

def streams (tasks : List IoTask) (r : RequestId) : List (List UInt8) :=
  tasks.filterMap fun task => match task with
    | .continueFile stream r' => if r' = r then some stream else none
    | _ => none

def queues (archives : List RustArchiveState) (r : RequestId) (a : Nat) : Nat :=
  match archives[a]? with
  | none => 0
  | some archive => archive.pendingRequests.count r

def IoTask.ofProvider : IoTask → Bool
  | .continueFile _ _ | .continueZip _ => true
  | _ => false

/-! ### The protocol -/

/-- What the protocol is about: the URLs and MIME types of the requests, the archive providers,
their tasks and their log. -/
structure ProviderView where
  params : List (String × String)
  archives : List RustArchiveState
  fileTasks : List FileTask
  ioTasks : List IoTask
  log : List ProviderEvent

namespace ProviderView

section Protocol

variable (toLowercase : String → String) (fs : FileSystem)

def archiveAt (archivePath : String) : Option RustZipArchive :=
  match RustWorld.loadArchive toLowercase fs archivePath with
  | .ok zip => zip
  | .error _ => none

/-- The contents that a provider has for a URL: those of the file, or of the entry of the archive,
if it exists. -/
def contentsFor (v : ProviderView) (provider : BuiltinProvider) (url : String) :
    Option (List UInt8) :=
  match provider with
  | .content _ content _ => some content
  | .directory urlPath directoryPath => do
    let filePath ← getFileRelativePath directoryPath urlPath url
    let file ← fs filePath
    return file.data
  | .archive a => do
    let archive ← v.archives[a]?
    let zip ← archiveAt toLowercase fs archive.archivePath
    let relativePath ← getFileRelativePath "" archive.urlPath url
    zip.file relativePath

/-- What a request has to be continued with: a handler if the file or entry exists, and none
otherwise. -/
def expectedHandler (v : ProviderView) (provider : BuiltinProvider) (r : RequestId) :
    Option StreamResourceHandler := do
  let (url, mimeType) ← v.params[r]?
  let data ← v.contentsFor toLowercase fs provider url
  return ⟨mimeType, data⟩

/-- The call of `continue_request` for a queued request that is in the archive. -/
def archiveAnswer (params : List (String × String)) (archive : RustArchiveState) (r : RequestId) :
    Option ProviderEvent := do
  let (url, mimeType) ← params[r]?
  let handler ← RustWorld.archiveHandler archive url mimeType
  return .continued r (some handler)

inductive Step : Bool → ProviderView → ProviderView → Prop
  | refl (v : ProviderView) : Step true v v
  | declined (v : ProviderView) (url mimeType : String) : Step true v
    { v with
      params := v.params ++ [(url, mimeType)]
      log := .declined v.params.length :: v.log }
  | content (v : ProviderView) (url mimeType : String) {provider : BuiltinProvider}
    (hprovider : ¬ provider.LoadsFiles) (handler : Option StreamResourceHandler) : Step true v
    { v with
      params := v.params ++ [(url, mimeType)]
      log := .accepted v.params.length provider :: .continued v.params.length handler :: v.log }
  | directory (v : ProviderView) (url mimeType : String) {urlPath directoryPath filePath : String}
    (hpath : getFileRelativePath directoryPath urlPath url = some filePath) : Step true v
    { v with
      params := v.params ++ [(url, mimeType)]
      fileTasks := v.fileTasks ++ [.openFile filePath v.params.length]
      log := .accepted v.params.length (.directory urlPath directoryPath) :: v.log }
  | queued (v : ProviderView) (url mimeType : String) {a : Nat} {archive : RustArchiveState}
    (harchive : v.archives[a]? = some archive) (hended : archive.loadEnded = false) : Step true v
    { v with
      params := v.params ++ [(url, mimeType)]
      archives := v.archives.set a
        { archive with
          loadStarted := true
          pendingRequests := archive.pendingRequests ++ [v.params.length] }
      fileTasks := v.fileTasks ++ if archive.loadStarted then [] else [.openZip a]
      log := .accepted v.params.length (.archive a) :: v.log }
  | opened (v : ProviderView) {filePath : String} {r : RequestId} {rest : List FileTask}
    {file : StoredFile} (htask : v.fileTasks = .openFile filePath r :: rest)
    (hfile : fs filePath = some file) : Step true v
    { v with
      fileTasks := rest
      ioTasks := v.ioTasks ++ [.continueFile file.data r] }
  | missing (v : ProviderView) {filePath : String} {r : RequestId} {rest : List FileTask}
    (htask : v.fileTasks = .openFile filePath r :: rest) (hfile : fs filePath = none) :
    Step false v { v with fileTasks := rest }
  | loaded (v : ProviderView) {a : Nat} {archive : RustArchiveState} {rest : List FileTask}
    {zip : RustZipArchive} (htask : v.fileTasks = .openZip a :: rest)
    (harchive : v.archives[a]? = some archive)
    (hzip : RustWorld.loadArchive toLowercase fs archive.archivePath = .ok (some zip)) : Step true v
    { v with
      fileTasks := rest
      archives := v.archives.set a { archive with archive := some zip }
      ioTasks := v.ioTasks ++ [.continueZip a] }
  | failed (v : ProviderView) {a : Nat} {archive : RustArchiveState} {rest : List FileTask}
    (htask : v.fileTasks = .openZip a :: rest) (harchive : v.archives[a]? = some archive)
    (hzip : RustWorld.loadArchive toLowercase fs archive.archivePath = .ok none) :
    Step false v { v with fileTasks := rest }
  | streamed (v : ProviderView) {stream : List UInt8} {r : RequestId} {rest : List IoTask}
    {url mimeType : String} (htask : v.ioTasks = .continueFile stream r :: rest)
    (hparams : v.params[r]? = some (url, mimeType)) : Step true v
    { v with
      ioTasks := rest
      log := .continued r (some ⟨mimeType, stream⟩) :: v.log }
  | drained (v : ProviderView) {a : Nat} {archive : RustArchiveState} {rest : List IoTask}
    (htask : v.ioTasks = .continueZip a :: rest) (harchive : v.archives[a]? = some archive) :
    Step (archive.pendingRequests.all fun r => (archiveAnswer v.params archive r).isSome) v
    { v with
      ioTasks := rest
      archives := v.archives.set a { archive with loadEnded := true, pendingRequests := [] }
      log := (archive.pendingRequests.filterMap (archiveAnswer v.params archive)).reverse ++ v.log }

/-! ### What holds in every run -/

structure Place where
  openings : List String
  streams : List (List UInt8)
  queues : Nat → Nat
  continuations : List (Option StreamResourceHandler)

def place (v : ProviderView) (r : RequestId) : Place :=
  ⟨openings v.fileTasks r, streams v.ioTasks r, queues v.archives r, providerContinuations v.log r⟩

def nowhere : Place := ⟨[], [], fun _ => 0, []⟩

inductive Fate (v : ProviderView) (r : RequestId) : Prop
  | untouched (haccepted : acceptedBy v.log r = []) (hplace : v.place r = nowhere)
  | opening {urlPath directoryPath url mimeType filePath : String}
    (haccepted : acceptedBy v.log r = [.directory urlPath directoryPath])
    (hparams : v.params[r]? = some (url, mimeType))
    (hpath : getFileRelativePath directoryPath urlPath url = some filePath)
    (hplace : v.place r = { nowhere with openings := [filePath] })
  | streaming {urlPath directoryPath url mimeType : String} {stream : List UInt8}
    (haccepted : acceptedBy v.log r = [.directory urlPath directoryPath])
    (hparams : v.params[r]? = some (url, mimeType))
    (hcontents : v.contentsFor toLowercase fs (.directory urlPath directoryPath) url = some stream)
    (hplace : v.place r = { nowhere with streams := [stream] })
  | queued {a : Nat} (haccepted : acceptedBy v.log r = [.archive a])
    (hplace : v.place r = { nowhere with queues := fun b => if b = a then 1 else 0 })
  | answered {provider : BuiltinProvider} {handler : Option StreamResourceHandler}
    (haccepted : acceptedBy v.log r = [provider])
    (hexpected : provider.LoadsFiles → handler = v.expectedHandler toLowercase fs provider r)
    (hplace : v.place r = { nowhere with continuations := [handler] })
  | lost {provider : BuiltinProvider} (haccepted : acceptedBy v.log r = [provider])
    (hloads : provider.LoadsFiles) (hplace : v.place r = nowhere)

inductive LoadStage (v : ProviderView) (a : Nat) (archive : RustArchiveState) : Prop
  | unstarted (hstarted : archive.loadStarted = false) (hended : archive.loadEnded = false)
    (hpending : archive.pendingRequests = []) (hfile : v.fileTasks.count (.openZip a) = 0)
    (hio : v.ioTasks.count (.continueZip a) = 0)
  | loading (hstarted : archive.loadStarted = true) (hended : archive.loadEnded = false)
    (hpending : archive.pendingRequests ≠ []) (hfile : v.fileTasks.count (.openZip a) = 1)
    (hio : v.ioTasks.count (.continueZip a) = 0)
  | returning (hstarted : archive.loadStarted = true) (hended : archive.loadEnded = false)
    (hpending : archive.pendingRequests ≠ []) (hfile : v.fileTasks.count (.openZip a) = 0)
    (hio : v.ioTasks.count (.continueZip a) = 1)
    (harchive : archive.archive = archiveAt toLowercase fs archive.archivePath)
  | ended (hstarted : archive.loadStarted = true) (hended : archive.loadEnded = true)
    (hpending : archive.pendingRequests = []) (hfile : v.fileTasks.count (.openZip a) = 0)
    (hio : v.ioTasks.count (.continueZip a) = 0)
  | stuck (hstarted : archive.loadStarted = true) (hended : archive.loadEnded = false)
    (hpending : archive.pendingRequests ≠ []) (hfile : v.fileTasks.count (.openZip a) = 0)
    (hio : v.ioTasks.count (.continueZip a) = 0)

structure Sound (v : ProviderView) : Prop where
  accepted_lt : ∀ r, acceptedBy v.log r ≠ [] → r < v.params.length
  fate : ∀ r, v.Fate toLowercase fs r
  stage : ∀ (a : Nat) (archive : RustArchiveState), v.archives[a]? = some archive →
    v.LoadStage toLowercase fs a archive
  zip_lt : ∀ a, v.fileTasks.count (.openZip a) + v.ioTasks.count (.continueZip a) ≠ 0 →
    a < v.archives.length

def Lost (v : ProviderView) (r : RequestId) : Prop :=
  ∃ provider, acceptedBy v.log r = [provider] ∧ provider.LoadsFiles ∧ v.place r = nowhere

def Stuck (v : ProviderView) (a : Nat) : Prop :=
  ∃ archive : RustArchiveState, v.archives[a]? = some archive ∧ archive.loadEnded = false ∧
    archive.pendingRequests ≠ [] ∧ v.fileTasks.count (.openZip a) = 0 ∧
    v.ioTasks.count (.continueZip a) = 0

def Damaged (v : ProviderView) : Prop := (∃ r, v.Lost r) ∨ ∃ a, v.Stuck a

/-! ### Frames -/

/-- The view behind an offer. -/
@[simp] def offered (v : ProviderView) (x : String × String) (tasks : List FileTask)
    (events : List ProviderEvent) : ProviderView :=
  { v with
    params := v.params ++ [x]
    fileTasks := v.fileTasks ++ tasks
    log := events ++ v.log }

/-- The view behind an offer that an archive provider has put into its queue. -/
@[simp] def joined (v : ProviderView) (x : String × String) (a : Nat) (archive : RustArchiveState) :
    ProviderView :=
  { v with
    params := v.params ++ [x]
    archives := v.archives.set a
      { archive with
        loadStarted := true
        pendingRequests := archive.pendingRequests ++ [v.params.length] }
    fileTasks := v.fileTasks ++ if archive.loadStarted then [] else [.openZip a]
    log := .accepted v.params.length (.archive a) :: v.log }

/-- The view when the queue of an archive provider has been answered. -/
@[simp] def drained (v : ProviderView) (rest : List IoTask) (a : Nat) (archive : RustArchiveState) :
    ProviderView :=
  { v with
    ioTasks := rest
    archives := v.archives.set a { archive with loadEnded := true, pendingRequests := [] }
    log := (archive.pendingRequests.filterMap (archiveAnswer v.params archive)).reverse ++ v.log }

variable {toLowercase fs} {v v' : ProviderView} {r : RequestId}

lemma loadArchive_of_archiveAt {archivePath : String} {zip : RustZipArchive}
    (h : archiveAt toLowercase fs archivePath = some zip) :
    RustWorld.loadArchive toLowercase fs archivePath = .ok (some zip) := by
  unfold archiveAt at h
  split at h
  · rename_i zip' hzip
    rw [hzip, h]
  · cases h

variable {a : Nat} {archive : RustArchiveState} {archives : List RustArchiveState}
  {filePath : String} {kept : Bool} {rest : List FileTask}

lemma Step.to {v'' : ProviderView} (h : Step toLowercase fs kept v v')
    (heq : v' = v'') : Step toLowercase fs kept v v'' := heq ▸ h

@[simp] lemma continuations_nil : providerContinuations [] r = [] := rfl

@[simp] lemma continuations_append (log log' : List ProviderEvent) :
    providerContinuations (log ++ log') r =
      providerContinuations log r ++ providerContinuations log' r :=
  filterMap_append

section

variable (r' : RequestId)

@[simp] lemma continuations_accepted (provider : BuiltinProvider) (log : List ProviderEvent) :
    providerContinuations (.accepted r' provider :: log) r = providerContinuations log r := rfl

@[simp] lemma continuations_declined (log : List ProviderEvent) :
    providerContinuations (.declined r' :: log) r = providerContinuations log r := rfl

@[simp] lemma continuations_continued (handler : Option StreamResourceHandler)
    (log : List ProviderEvent) :
    providerContinuations (.continued r' handler :: log) r =
      if r' = r then handler :: providerContinuations log r else providerContinuations log r := by
  by_cases h : r' = r <;> simp [providerContinuations, h]

@[simp] lemma acceptedBy_accepted (provider : BuiltinProvider) (log : List ProviderEvent) :
    acceptedBy (.accepted r' provider :: log) r =
      if r' = r then provider :: acceptedBy log r else acceptedBy log r := by
  by_cases h : r' = r <;> simp [acceptedBy, h]

@[simp] lemma acceptedBy_declined (log : List ProviderEvent) :
    acceptedBy (.declined r' :: log) r = acceptedBy log r := rfl

@[simp] lemma acceptedBy_continued (handler : Option StreamResourceHandler)
    (log : List ProviderEvent) :
    acceptedBy (.continued r' handler :: log) r = acceptedBy log r := rfl

end

lemma mem_acceptedBy {log : List ProviderEvent} {provider : BuiltinProvider} :
    provider ∈ acceptedBy log r ↔ .accepted r provider ∈ log := by
  simp only [acceptedBy, mem_filterMap]
  constructor
  · rintro ⟨e, he, heq⟩
    cases e with
    | accepted r' provider' =>
      obtain ⟨rfl, rfl⟩ : r' = r ∧ provider' = provider := by simpa using heq
      exact he
    | declined _ => cases heq
    | continued _ _ => cases heq
  · intro h
    exact ⟨_, h, by simp⟩

@[simp] lemma openings_concat (tasks : List FileTask) (task : FileTask) :
    openings (tasks ++ [task]) r = openings tasks r ++ openings [task] r :=
  filterMap_append

@[simp] lemma openings_openFile (filePath : String) (r' : RequestId) (tasks : List FileTask) :
    openings (.openFile filePath r' :: tasks) r =
      if r' = r then filePath :: openings tasks r else openings tasks r := by
  by_cases h : r' = r <;> simp [openings, h]

@[simp] lemma openings_openZip (a : Nat) (tasks : List FileTask) :
    openings (.openZip a :: tasks) r = openings tasks r := rfl

@[simp] lemma openings_nil : openings [] r = [] := rfl

@[simp] lemma streams_concat (tasks : List IoTask) (task : IoTask) :
    streams (tasks ++ [task]) r = streams tasks r ++ streams [task] r :=
  filterMap_append

@[simp] lemma streams_continueFile (stream : List UInt8) (r' : RequestId) (tasks : List IoTask) :
    streams (.continueFile stream r' :: tasks) r =
      if r' = r then stream :: streams tasks r else streams tasks r := by
  by_cases h : r' = r <;> simp [streams, h]

@[simp] lemma streams_continueZip (a : Nat) (tasks : List IoTask) :
    streams (.continueZip a :: tasks) r = streams tasks r := rfl

@[simp] lemma streams_nil : streams [] r = [] := rfl

lemma queues_set (ha : a < archives.length) (b : Nat) : queues (archives.set a archive) r b =
      if b = a then archive.pendingRequests.count r else queues archives r b := by
  by_cases hab : b = a
  · subst hab
    simp [queues, ha]
  · simp [queues, getElem?_set_ne (Ne.symm hab), hab]

lemma queues_eq (harchive : archives[a]? = some archive) :
    queues archives r a = archive.pendingRequests.count r := by
  simp [queues, harchive]

def paths (archives : List RustArchiveState) (a : Nat) : Option (String × String) :=
  (archives[a]?).map fun archive => (archive.urlPath, archive.archivePath)

lemma paths_set {archive' : RustArchiveState}
    (harchive : archives[a]? = some archive) (hurl : archive'.urlPath = archive.urlPath)
    (hpath : archive'.archivePath = archive.archivePath) :
    paths (archives.set a archive') = paths archives := by
  funext b
  simp only [paths, getElem?_set]
  split
  · rename_i hab
    subst hab
    obtain ⟨hlt, rfl⟩ := List.getElem?_eq_some_iff.mp harchive
    simp [hlt, hurl, hpath]
  · rfl

lemma queues_set_of_eq (archive' : RustArchiveState) (harchive : archives[a]? = some archive)
    (hcount : archive'.pendingRequests.count r = archive.pendingRequests.count r) :
    queues (archives.set a archive') r = queues archives r := by
  funext b
  rw [queues_set (List.getElem?_eq_some_iff.mp harchive).1]
  split
  · rename_i hab
    rw [hab, hcount, queues_eq harchive]
  · rfl

lemma contentsFor_congr (h : paths v'.archives = paths v.archives) (provider : BuiltinProvider)
    (url : String) : v'.contentsFor toLowercase fs provider url =
      v.contentsFor toLowercase fs provider url := by
  cases provider with
  | content _ _ _ => rfl
  | directory _ _ => rfl
  | archive a =>
    have ha := congrFun h a
    simp only [paths] at ha
    simp only [contentsFor]
    cases h' : v'.archives[a]? with
    | none =>
      rw [h', map_none, eq_comm, map_eq_none_iff] at ha
      simp [ha]
    | some archive' =>
      rw [h', map_some, eq_comm, map_eq_some_iff] at ha
      obtain ⟨archive, harchive, heq⟩ := ha
      obtain ⟨hurl, hpath⟩ := Prod.mk.inj heq
      simp [harchive, hurl, hpath]

lemma expectedHandler_congr (h : paths v'.archives = paths v.archives)
    (hparams : v'.params[r]? = v.params[r]?) (provider : BuiltinProvider) :
    v'.expectedHandler toLowercase fs provider r = v.expectedHandler toLowercase fs provider r := by
  simp [expectedHandler, hparams, contentsFor_congr h]

lemma Fate.congr (h : v.Fate toLowercase fs r) (haccepted : acceptedBy v'.log r = acceptedBy v.log r)
    (hplace : v'.place r = v.place r) (hpaths : paths v'.archives = paths v.archives)
    (hparams : acceptedBy v.log r ≠ [] → v'.params[r]? = v.params[r]?) :
    v'.Fate toLowercase fs r := by
  cases h with
  | untouched h₁ h₂ => exact .untouched (haccepted.trans h₁) (hplace.trans h₂)
  | opening h₁ h₂ h₃ h₄ =>
    exact .opening (haccepted.trans h₁) ((hparams (by simp [h₁])).trans h₂) h₃ (hplace.trans h₄)
  | streaming h₁ h₂ h₃ h₄ =>
    exact .streaming (haccepted.trans h₁) ((hparams (by simp [h₁])).trans h₂)
      ((contentsFor_congr hpaths _ _).trans h₃) (hplace.trans h₄)
  | queued h₁ h₂ => exact .queued (haccepted.trans h₁) (hplace.trans h₂)
  | answered h₁ h₂ h₃ =>
    refine .answered (haccepted.trans h₁) (fun hloads => ?_) (hplace.trans h₃)
    rw [expectedHandler_congr hpaths (hparams (by simp [h₁]))]
    exact h₂ hloads
  | lost h₁ h₂ h₃ => exact .lost (haccepted.trans h₁) h₂ (hplace.trans h₃)

lemma LoadStage.congr (h : v.LoadStage toLowercase fs a archive)
    (hfile : v'.fileTasks.count (.openZip a) = v.fileTasks.count (.openZip a))
    (hio : v'.ioTasks.count (.continueZip a) = v.ioTasks.count (.continueZip a)) :
    v'.LoadStage toLowercase fs a archive := by
  cases h with
  | unstarted h₁ h₂ h₃ h₄ h₅ => exact .unstarted h₁ h₂ h₃ (hfile.trans h₄) (hio.trans h₅)
  | loading h₁ h₂ h₃ h₄ h₅ => exact .loading h₁ h₂ h₃ (hfile.trans h₄) (hio.trans h₅)
  | returning h₁ h₂ h₃ h₄ h₅ h₆ => exact .returning h₁ h₂ h₃ (hfile.trans h₄) (hio.trans h₅) h₆
  | ended h₁ h₂ h₃ h₄ h₅ => exact .ended h₁ h₂ h₃ (hfile.trans h₄) (hio.trans h₅)
  | stuck h₁ h₂ h₃ h₄ h₅ => exact .stuck h₁ h₂ h₃ (hfile.trans h₄) (hio.trans h₅)

/-! ### Steps keep what holds -/

section

variable (hv : v.Sound toLowercase fs)
include hv

lemma Sound.untouched (hr : v.params.length ≤ r) :
    acceptedBy v.log r = [] ∧ v.place r = nowhere := by
  have hnone : acceptedBy v.log r = [] := by
    by_contra hsome
    exact absurd (hv.accepted_lt r hsome) (not_lt.mpr hr)
  refine ⟨hnone, ?_⟩
  cases hv.fate r with
  | untouched _ hplace => exact hplace
  | opening h _ _ _ | streaming h _ _ _ | queued h _ | answered h _ _ | lost h _ _ =>
    simp [hnone] at h

lemma Sound.not_ended_of_not_started (harchive : v.archives[a]? = some archive)
    (hstarted : archive.loadStarted = false) : archive.loadEnded = false := by
  cases hv.stage a archive harchive with
  | unstarted _ hended _ _ _ => exact hended
  | loading h _ _ _ _ | returning h _ _ _ _ _ | ended h _ _ _ _ | stuck h _ _ _ _ =>
    simp [hstarted] at h

lemma Sound.of_one (n : RequestId)
    (hparams : ∀ r < v.params.length, v'.params[r]? = v.params[r]?)
    (hlength : v.params.length ≤ v'.params.length)
    (haccepted : ∀ r, r ≠ n → acceptedBy v'.log r = acceptedBy v.log r)
    (hplace : ∀ r, r ≠ n → v'.place r = v.place r) (hpaths : paths v'.archives = paths v.archives)
    (hn : acceptedBy v'.log n ≠ [] → n < v'.params.length) (hfate : v'.Fate toLowercase fs n)
    (hstage : ∀ a archive, v'.archives[a]? = some archive →
      v'.LoadStage toLowercase fs a archive)
    (hzip : ∀ a, v'.fileTasks.count (.openZip a) + v'.ioTasks.count (.continueZip a) ≠ 0 →
      a < v'.archives.length) : v'.Sound toLowercase fs where
  accepted_lt r hr := by
    by_cases hrn : r = n
    · subst hrn
      exact hn hr
    · rw [haccepted r hrn] at hr
      exact lt_of_lt_of_le (hv.accepted_lt r hr) hlength
  fate r := by
    by_cases hrn : r = n
    · subst hrn
      exact hfate
    · exact (hv.fate r).congr (haccepted r hrn) (hplace r hrn) hpaths
        fun hr => hparams r (hv.accepted_lt r hr)
  stage := hstage
  zip_lt := hzip

end

lemma params_concat {x : String × String} (hr : r < v.params.length) :
    (v.params ++ [x])[r]? = v.params[r]? := getElem?_append_left hr

section

variable (hv : v.Sound toLowercase fs)
include hv

lemma Sound.offered {x : String × String} (tasks : List FileTask) (events : List ProviderEvent)
    (htasks : ∀ a, (v.fileTasks ++ tasks).count (.openZip a) = v.fileTasks.count (.openZip a))
    (hopen : ∀ r, r ≠ v.params.length → openings (v.fileTasks ++ tasks) r = openings v.fileTasks r)
    (haccepted : ∀ r, r ≠ v.params.length →
      acceptedBy (events ++ v.log) r = acceptedBy v.log r)
    (hcontinued : ∀ r, r ≠ v.params.length →
      providerContinuations (events ++ v.log) r = providerContinuations v.log r)
    (hfate : (v.offered x tasks events).Fate toLowercase fs v.params.length) :
    (v.offered x tasks events).Sound toLowercase fs := by
  refine hv.of_one v.params.length (fun r hr => params_concat hr) (by simp) haccepted
    (fun r hr => ?_) rfl (fun _ => by simp) hfate (fun a archive ha => ?_) (fun a ha => ?_)
  · simp [place, hopen r hr, hcontinued r hr]
  · exact (hv.stage a archive ha).congr (htasks a) rfl
  · exact hv.zip_lt a (by simpa [htasks a] using ha)

lemma Sound.declined (url mimeType : String) :
    ({ v with
      params := v.params ++ [(url, mimeType)]
      log := .declined v.params.length :: v.log } : ProviderView).Sound toLowercase fs := by
  obtain ⟨hnone, hplace⟩ := hv.untouched (le_refl v.params.length)
  have hfate : (v.offered (url, mimeType) [] [.declined v.params.length]).Fate toLowercase fs
      v.params.length := by
    refine .untouched hnone ?_
    simpa [place] using hplace
  simpa using hv.offered _ _ (by simp) (by simp)
    (by simp) (by simp) hfate

lemma Sound.content (url mimeType : String)
    {provider : BuiltinProvider} (hprovider : ¬ provider.LoadsFiles)
    (handler : Option StreamResourceHandler) :
    ({ v with
      params := v.params ++ [(url, mimeType)]
      log := .accepted v.params.length provider :: .continued v.params.length handler ::
        v.log } : ProviderView).Sound toLowercase fs := by
  obtain ⟨hnone, hplace⟩ := hv.untouched (le_refl v.params.length)
  simp only [place, nowhere, Place.mk.injEq] at hplace
  have hfate : (v.offered (url, mimeType) []
      [.accepted v.params.length provider, .continued v.params.length handler]).Fate toLowercase fs
        v.params.length := by
    refine Fate.answered (by simp [hnone])
      (fun h => (absurd h hprovider : handler = _)) ?_
    simpa [place, nowhere] using hplace
  simpa using hv.offered _ _
    (by simp) (by simp) (fun r hr => by simp [hr.symm]) (fun r hr => by simp [hr.symm]) hfate

lemma Sound.directory (url mimeType : String) {urlPath directoryPath : String}
    (hpath : getFileRelativePath directoryPath urlPath url = some filePath) :
    (v.offered (url, mimeType) [.openFile filePath v.params.length]
      [.accepted v.params.length (.directory urlPath directoryPath)]).Sound toLowercase fs := by
  obtain ⟨hnone, hplace⟩ := hv.untouched (le_refl v.params.length)
  simp only [place, nowhere, Place.mk.injEq] at hplace
  refine hv.offered _ _ (by simp) (fun r hr => by simp [hr.symm]) (fun r hr => by simp [hr.symm])
    (by simp) ?_
  refine Fate.opening (by simp [hnone]) (by simp : _ = some (url, mimeType))
    hpath ?_
  simpa [place, nowhere] using hplace

end

lemma queues_join {n : Nat} (harchive : archives[a]? = some archive) (hr : r ≠ n) :
    queues (archives.set a
      { archive with
        loadStarted := true
        pendingRequests := archive.pendingRequests ++ [n] }) r = queues archives r :=
  queues_set_of_eq _ harchive (by simp [count_append, hr.symm])

lemma openings_start (tasks : List FileTask) (started : Bool) (a : Nat) :
    openings (tasks ++ if started then [] else [.openZip a]) r = openings tasks r := by
  cases started <;> simp

section

variable (hv : v.Sound toLowercase fs)
include hv

lemma Sound.queued (url mimeType : String)
    (harchive : v.archives[a]? = some archive) (hended : archive.loadEnded = false) :
    (v.joined (url, mimeType) a archive).Sound toLowercase fs := by
  unfold joined
  obtain ⟨hnone, hplace⟩ := hv.untouched (le_refl v.params.length)
  simp only [place, nowhere, Place.mk.injEq] at hplace
  have ha : a < v.archives.length := (List.getElem?_eq_some_iff.mp harchive).1
  have hcount : ∀ b, b ≠ a →
      (v.fileTasks ++ if archive.loadStarted then [] else [FileTask.openZip a]).count (.openZip b) =
        v.fileTasks.count (.openZip b) := by
    intro b hb
    split
    · simp
    · simp [count_append, Ne.symm hb]
  refine hv.of_one v.params.length (fun r hr => params_concat hr) (by simp)
    (fun r hr => by simp [hr.symm]) (fun r hr => ?_) (paths_set harchive rfl rfl) (fun _ => by simp)
    (.queued (a := a) (by simp [hnone]) ?_) (fun b archive' hb => ?_) (fun b hb => ?_)
  · simp [place, openings_start, queues_join harchive hr, continuations_accepted]
  · simp only [place, nowhere, Place.mk.injEq, openings_start, continuations_accepted]
    refine ⟨hplace.1, hplace.2.1, ?_, hplace.2.2.2⟩
    funext b
    have hb := congrFun hplace.2.2.1 b
    rw [queues_set ha]
    split
    · rename_i hab
      rw [hab, queues_eq harchive] at hb
      simp [count_append, hb]
    · exact hb
  · by_cases hab : b = a
    · subst hab
      simp only [getElem?_set_self ha, some.injEq] at hb
      subst hb
      cases hv.stage b archive harchive with
      | unstarted hstarted _ _ hfile hio =>
        exact .loading rfl hended (by simp) (by simp [hstarted, hfile]) hio
      | loading hstarted _ _ hfile hio =>
        exact .loading rfl hended (by simp) (by simp [hstarted, hfile]) hio
      | returning hstarted _ _ hfile hio hzip =>
        exact .returning rfl hended (by simp) (by simp [hstarted, hfile]) hio hzip
      | ended _ hended' _ _ _ => simp [hended'] at hended
      | stuck hstarted _ _ hfile hio =>
        exact .stuck rfl hended (by simp) (by simp [hstarted, hfile]) hio
    · rw [getElem?_set_ne (Ne.symm hab)] at hb
      exact (hv.stage b archive' hb).congr (hcount b hab) rfl
  · rw [length_set]
    by_cases hab : b = a
    · exact hab ▸ ha
    · exact hv.zip_lt b (by simpa [hcount b hab] using hb)

section

variable (htask : v.fileTasks = .openFile filePath r :: rest)
include htask

lemma Sound.opening_of_task :
    ∃ urlPath directoryPath url mimeType, acceptedBy v.log r = [.directory urlPath directoryPath] ∧
      v.params[r]? = some (url, mimeType) ∧
      getFileRelativePath directoryPath urlPath url = some filePath ∧
      openings rest r = [] ∧ streams v.ioTasks r = [] ∧ (queues v.archives r = fun _ => 0) ∧
      providerContinuations v.log r = [] := by
  have hopen : openings v.fileTasks r = filePath :: openings rest r := by simp [htask]
  cases hv.fate r with
  | opening haccepted hparams hpath hplace =>
    simp only [place, nowhere, Place.mk.injEq, hopen, cons.injEq] at hplace
    obtain ⟨⟨rfl, hrest⟩, hstreams, hqueues, hcontinued⟩ := hplace
    exact ⟨_, _, _, _, haccepted, hparams, hpath, hrest, hstreams, hqueues, hcontinued⟩
  | untouched _ hplace | streaming _ _ _ hplace | queued _ hplace | answered _ _ hplace
  | lost _ _ hplace => simp [place, nowhere, hopen] at hplace

lemma Sound.opened {file : StoredFile} (hfile : fs filePath = some file) :
    ({ v with
      fileTasks := rest
      ioTasks := v.ioTasks ++ [.continueFile file.data r] } : ProviderView).Sound
        toLowercase fs := by
  obtain ⟨urlPath, directoryPath, url, mimeType, haccepted, hparams, hpath, hopen, hstreams,
    hqueues, hcontinued⟩ := hv.opening_of_task htask
  have hcount : ∀ a, rest.count (.openZip a) = v.fileTasks.count (.openZip a) := by
    simp [htask]
  refine hv.of_one r (fun _ _ => rfl) (le_refl _) (fun _ _ => rfl) (fun r' hr' => ?_) rfl
    (hv.accepted_lt r) (.streaming haccepted hparams (?_ : _ = some file.data) ?_)
    (fun a archive ha => (hv.stage a archive ha).congr (hcount a) (by simp))
    (fun a ha => hv.zip_lt a (by simpa [hcount a] using ha))
  · simp [place, htask, Ne.symm hr']
  · simp [contentsFor, hpath, hfile]
  · simp [place, nowhere, hopen, hstreams, hqueues, hcontinued]

lemma Sound.missing :
    ({ v with fileTasks := rest } : ProviderView).Sound toLowercase fs ∧
    ({ v with fileTasks := rest } : ProviderView).Lost r := by
  obtain ⟨urlPath, directoryPath, url, mimeType, haccepted, hparams, hpath, hopen, hstreams,
    hqueues, hcontinued⟩ := hv.opening_of_task htask
  have hcount : ∀ a, rest.count (.openZip a) = v.fileTasks.count (.openZip a) := by
    simp [htask]
  have hplace : ({ v with fileTasks := rest } : ProviderView).place r = nowhere := by
    simp [place, nowhere, hopen, hstreams, hqueues, hcontinued]
  refine ⟨hv.of_one r (fun _ _ => rfl) (le_refl _) (fun _ _ => rfl) (fun r' hr' => ?_) rfl
    (hv.accepted_lt r) (.lost haccepted trivial hplace)
    (fun a archive ha => (hv.stage a archive ha).congr (hcount a) rfl)
    (fun a ha => hv.zip_lt a (by simpa [hcount a] using ha)), _, haccepted, trivial, hplace⟩
  simp [place, htask, Ne.symm hr']

end

section

variable (htask : v.fileTasks = .openZip a :: rest)
include htask

section

variable (harchive : v.archives[a]? = some archive)
include harchive

lemma Sound.loading_of_task :
    archive.loadStarted = true ∧ archive.loadEnded = false ∧ archive.pendingRequests ≠ [] ∧
      rest.count (.openZip a) = 0 ∧ v.ioTasks.count (.continueZip a) = 0 := by
  have hcount : v.fileTasks.count (.openZip a) = rest.count (.openZip a) + 1 := by simp [htask]
  cases hv.stage a archive harchive with
  | loading hstarted hended hpending hfile hio =>
    exact ⟨hstarted, hended, hpending, by omega, hio⟩
  | unstarted _ _ _ hfile _ | returning _ _ _ hfile _ _ | ended _ _ _ hfile _
  | stuck _ _ _ hfile _ => omega

lemma Sound.loaded {zip : RustZipArchive}
    (hzip : RustWorld.loadArchive toLowercase fs archive.archivePath = .ok (some zip)) :
    ({ v with
      fileTasks := rest
      archives := v.archives.set a { archive with archive := some zip }
      ioTasks := v.ioTasks ++ [.continueZip a] } : ProviderView).Sound toLowercase fs := by
  obtain ⟨hstarted, hended, hpending, hfile, hio⟩ := hv.loading_of_task htask harchive
  have ha : a < v.archives.length := (List.getElem?_eq_some_iff.mp harchive).1
  refine ⟨hv.accepted_lt, fun r => ?_, fun b archive' hb => ?_, fun b hb => ?_⟩
  · refine (hv.fate r).congr rfl ?_ (paths_set harchive rfl rfl) fun _ => rfl
    have hqueues := queues_set_of_eq (r := r) { archive with archive := some zip } harchive rfl
    simp [place, htask, openings_openZip, streams_concat, streams_continueZip, streams_nil, hqueues]
  · by_cases hab : b = a
    · subst hab
      simp only [getElem?_set_self ha, some.injEq] at hb
      subst hb
      exact .returning hstarted hended hpending hfile (by simp [hio]) (by simp [archiveAt, hzip])
    · rw [getElem?_set_ne (Ne.symm hab)] at hb
      exact (hv.stage b archive' hb).congr (by simp [htask, Ne.symm hab])
        (by simp [count_append, Ne.symm hab])
  · rw [length_set]
    by_cases hab : b = a
    · exact hab ▸ ha
    · exact hv.zip_lt b (by simpa [htask, count_append, Ne.symm hab] using hb)

lemma Sound.failed :
    ({ v with fileTasks := rest } : ProviderView).Sound toLowercase fs ∧
    ({ v with fileTasks := rest } : ProviderView).Stuck a := by
  obtain ⟨hstarted, hended, hpending, hfile, hio⟩ := hv.loading_of_task htask harchive
  have ha : a < v.archives.length := (List.getElem?_eq_some_iff.mp harchive).1
  refine ⟨⟨hv.accepted_lt, fun r => ?_, fun b archive' hb => ?_, fun b hb => ?_⟩, archive, harchive,
    hended, hpending, hfile, hio⟩
  · refine (hv.fate r).congr rfl ?_ rfl fun _ => rfl
    simp [place, htask]
  · by_cases hab : b = a
    · subst hab
      obtain rfl : archive = archive' := by simpa [harchive] using hb
      exact .stuck hstarted hended hpending hfile hio
    · exact (hv.stage b archive' hb).congr (by simp [htask, Ne.symm hab]) rfl
  · by_cases hab : b = a
    · exact hab ▸ ha
    · exact hv.zip_lt b (by simpa [htask, Ne.symm hab] using hb)

end

end

lemma Sound.streamed {stream : List UInt8} {rest : List IoTask}
    {url mimeType : String} (htask : v.ioTasks = .continueFile stream r :: rest)
    (hparams : v.params[r]? = some (url, mimeType)) :
    ({ v with
      ioTasks := rest
      log := .continued r (some ⟨mimeType, stream⟩) :: v.log } : ProviderView).Sound
        toLowercase fs := by
  have hstreams : streams v.ioTasks r = stream :: streams rest r := by simp [htask]
  have hcount : ∀ a, rest.count (.continueZip a) = v.ioTasks.count (.continueZip a) := by
    simp [htask]
  cases hv.fate r with
  | streaming haccepted hparams' hcontents hplace =>
    simp only [place, nowhere, Place.mk.injEq, hstreams, cons.injEq] at hplace
    obtain ⟨hopen, ⟨rfl, hrest⟩, hqueues, hcontinued⟩ := hplace
    obtain ⟨rfl, rfl⟩ := Prod.mk.inj (some.inj (hparams.symm.trans hparams'))
    refine hv.of_one r (fun _ _ => rfl) (le_refl _) (fun _ _ => rfl) (fun r' hr' => ?_) rfl
      (hv.accepted_lt r)
      (.answered haccepted (fun _ => (?_ : some (⟨mimeType, stream⟩ : StreamResourceHandler) = _)) ?_)
      (fun a archive ha => (hv.stage a archive ha).congr rfl (hcount a))
      (fun a ha => hv.zip_lt a (by simpa [hcount a] using ha))
    · simp [place, htask, Ne.symm hr']
    · refine Eq.trans ?_ (expectedHandler_congr (v := v) ?_ ?_ _).symm
      · simp [expectedHandler, hparams, hcontents]
      · rfl
      · rfl
    · simp [place, nowhere, hopen, hrest, hqueues, hcontinued]
  | untouched _ hplace | opening _ _ _ hplace | queued _ hplace | answered _ _ hplace
  | lost _ _ hplace => simp [place, nowhere, hstreams] at hplace

lemma Sound.params_of_stream {stream : List UInt8}
    {rest : List IoTask} (htask : v.ioTasks = .continueFile stream r :: rest) :
    ∃ url mimeType, v.params[r]? = some (url, mimeType) := by
  cases hv.fate r with
  | streaming _ hparams _ _ => exact ⟨_, _, hparams⟩
  | untouched _ hplace | opening _ _ _ hplace | queued _ hplace | answered _ _ hplace
  | lost _ _ hplace => simp [place, nowhere, htask] at hplace

end

lemma queues_drain (archive' : RustArchiveState) (harchive : archives[a]? = some archive)
    (hr : r ∉ archive.pendingRequests)
    (hpending : archive'.pendingRequests = []) :
    queues (archives.set a archive') r = queues archives r :=
  queues_set_of_eq _ harchive (by simp [hpending, count_eq_zero.mpr hr])

lemma acceptedBy_answers (params : List (String × String)) (archive : RustArchiveState)
    (requests : List RequestId) (log : List ProviderEvent) :
    acceptedBy ((requests.filterMap (archiveAnswer params archive)).reverse ++ log) r =
      acceptedBy log r := by
  rw [acceptedBy, filterMap_append, filterMap_eq_nil_iff.mpr, nil_append, acceptedBy]
  intro e he
  rw [mem_reverse, mem_filterMap] at he
  obtain ⟨r', -, he⟩ := he
  simp only [archiveAnswer, bind_eq_bind, bind_eq_some_iff] at he
  obtain ⟨x, -, handler, -, he⟩ := he
  cases he
  rfl

def archiveReply (params : List (String × String)) (archive : RustArchiveState) (r : RequestId) :
    Option (Option StreamResourceHandler) := do
  let (url, mimeType) ← params[r]?
  let handler ← RustWorld.archiveHandler archive url mimeType
  return some handler

lemma archiveAnswer_eq (params : List (String × String)) (archive : RustArchiveState)
    (r : RequestId) :
    archiveAnswer params archive r = (archiveReply params archive r).map (.continued r ·) := by
  simp only [archiveAnswer, archiveReply]
  cases params[r]? with
  | none => rfl
  | some x => cases h : RustWorld.archiveHandler archive x.1 x.2 <;> simp [h]

lemma continuations_answers {params : List (String × String)}
    {requests : List RequestId} (hnodup : requests.Nodup) (log : List ProviderEvent) :
    providerContinuations ((requests.filterMap (archiveAnswer params archive)).reverse ++ log) r =
      (if r ∈ requests then (archiveReply params archive r).toList else []) ++
        providerContinuations log r := by
  rw [continuations_append]
  congr 1
  rw [providerContinuations, filterMap_reverse, filterMap_filterMap]
  rw [filterMap_eq_of_support hnodup (x := r)]
  · rw [archiveAnswer_eq]
    split
    · cases archiveReply params archive r with
      | none => rfl
      | some handler => simp
    · rfl
  · intro r' hr'
    rw [archiveAnswer_eq]
    cases archiveReply params archive r' with
    | none => rfl
    | some handler => simp [hr']

section

variable (hv : v.Sound toLowercase fs)
include hv

lemma Sound.returning_of_task {rest : List IoTask} (htask : v.ioTasks = .continueZip a :: rest)
    (harchive : v.archives[a]? = some archive) :
    archive.loadStarted = true ∧ v.fileTasks.count (.openZip a) = 0 ∧
      rest.count (.continueZip a) = 0 ∧
      archive.archive = archiveAt toLowercase fs archive.archivePath := by
  have hcount : v.ioTasks.count (.continueZip a) = rest.count (.continueZip a) + 1 := by simp [htask]
  cases hv.stage a archive harchive with
  | returning hstarted _ _ hfile hio hzip => exact ⟨hstarted, hfile, by omega, hzip⟩
  | unstarted _ _ _ _ hio | loading _ _ _ _ hio | ended _ _ _ _ hio | stuck _ _ _ _ hio => omega

lemma Sound.queued_of_mem (harchive : v.archives[a]? = some archive)
    (hr : r ∈ archive.pendingRequests) :
    acceptedBy v.log r = [.archive a] ∧
      v.place r = { nowhere with queues := fun b => if b = a then 1 else 0 } := by
  have hpos : 0 < queues v.archives r a := by
    rw [queues_eq harchive]
    exact count_pos_iff.mpr hr
  cases hv.fate r with
  | queued haccepted hplace =>
    have hqueues := congrFun (congrArg Place.queues hplace) a
    simp only [place] at hqueues
    split at hqueues
    · rename_i hab
      subst hab
      exact ⟨haccepted, hplace⟩
    · omega
  | untouched _ hplace | opening _ _ _ hplace | streaming _ _ _ hplace | answered _ _ hplace
  | lost _ _ hplace =>
    have hqueues := congrFun (congrArg Place.queues hplace) a
    simp only [place, nowhere] at hqueues
    omega

lemma Sound.pending_nodup (harchive : v.archives[a]? = some archive) :
    archive.pendingRequests.Nodup := by
  refine nodup_iff_count.mpr fun r => ?_
  by_cases hr : r ∈ archive.pendingRequests
  · have hqueues := congrFun (congrArg Place.queues (hv.queued_of_mem harchive hr).2) a
    simp only [place, queues_eq harchive, if_true] at hqueues
    omega
  · rw [count_eq_zero.mpr hr]
    exact zero_le 1

end

lemma archiveReply_eq (harchive : v.archives[a]? = some archive)
    (hzip : archive.archive = archiveAt toLowercase fs archive.archivePath)
    {handler : Option StreamResourceHandler} (h : archiveReply v.params archive r = some handler) :
    handler = v.expectedHandler toLowercase fs (.archive a) r := by
  simp only [archiveReply, bind_eq_bind, bind_eq_some_iff] at h
  obtain ⟨⟨url, mimeType⟩, hparams, handler', hhandler, h⟩ := h
  cases h
  simp only [expectedHandler, hparams, contentsFor, harchive, bind_eq_bind, bind_some, ← hzip]
  simp only [RustWorld.archiveHandler, bind_eq_bind] at hhandler
  rw [← hhandler]
  cases archive.archive with
  | none => rfl
  | some zip =>
    cases getFileRelativePath "" archive.urlPath url with
    | none => rfl
    | some relativePath => cases zip.file relativePath <;> rfl

section

variable (hv : v.Sound toLowercase fs)
include hv

lemma Sound.drained {rest : List IoTask} (htask : v.ioTasks = .continueZip a :: rest)
    (harchive : v.archives[a]? = some archive) :
    (v.drained rest a archive).Sound toLowercase fs ∧
    ∀ r ∈ archive.pendingRequests, archiveReply v.params archive r = none →
      (v.drained rest a archive).Lost r := by
  obtain ⟨hstarted, hfile, hio, hzip⟩ := hv.returning_of_task htask harchive
  have ha : a < v.archives.length := (List.getElem?_eq_some_iff.mp harchive).1
  have hstreams : ∀ r, streams v.ioTasks r = streams rest r := by simp [htask]
  have hnodup := hv.pending_nodup harchive
  -- the place of a request that was queued here
  have hplace : ∀ r ∈ archive.pendingRequests, (v.drained rest a archive).place r =
      { nowhere with continuations := (archiveReply v.params archive r).toList } := by
    intro r hr
    unfold ProviderView.drained
    have hplace := (hv.queued_of_mem harchive hr).2
    simp only [place, nowhere, Place.mk.injEq] at hplace
    obtain ⟨hopen, hstream, hqueues, hcontinued⟩ := hplace
    simp only [place, nowhere, Place.mk.injEq, continuations_answers hnodup, if_pos hr, hopen,
      ← hstreams, hstream, hcontinued, append_nil, and_true, true_and]
    funext b
    rw [queues_set ha, hqueues]
    by_cases hab : b = a
    · simp [hab]
    · simp [hab]
  unfold ProviderView.drained at hplace ⊢
  constructor
  · refine ⟨fun r hr => ?_, fun r => ?_, fun b archive' hb => ?_, fun b hb => ?_⟩
    · exact hv.accepted_lt r (by rwa [acceptedBy_answers] at hr)
    · by_cases hr : r ∈ archive.pendingRequests
      · have haccepted := (hv.queued_of_mem harchive hr).1
        cases hreply : archiveReply v.params archive r with
        | none =>
          exact .lost ((acceptedBy_answers _ _ _ _).trans haccepted) trivial
            ((hplace r hr).trans (by rw [hreply]; rfl))
        | some handler =>
          refine .answered ((acceptedBy_answers _ _ _ _).trans haccepted) (fun _ => ?_)
            ((hplace r hr).trans (by rw [hreply]; rfl))
          refine (archiveReply_eq harchive hzip hreply).trans (expectedHandler_congr ?_ ?_ _).symm
          · exact paths_set harchive rfl rfl
          · rfl
      · refine (hv.fate r).congr (acceptedBy_answers _ _ _ _) ?_ (paths_set harchive rfl rfl)
          fun _ => rfl
        have hqueues := queues_drain { archive with
          loadEnded := true
          pendingRequests := [] } harchive hr rfl
        simp [place, continuations_answers hnodup, if_neg hr, hqueues, hstreams]
    · by_cases hab : b = a
      · subst hab
        simp only [getElem?_set_self ha, some.injEq] at hb
        subst hb
        exact .ended hstarted rfl rfl hfile hio
      · rw [getElem?_set_ne (Ne.symm hab)] at hb
        exact (hv.stage b archive' hb).congr rfl (by simp [htask, Ne.symm hab])
    · rw [length_set]
      by_cases hab : b = a
      · exact hab ▸ ha
      · exact hv.zip_lt b (by simpa [htask, Ne.symm hab] using hb)
  · intro r hr hreply
    exact ⟨.archive a, (acceptedBy_answers _ _ _ _).trans (hv.queued_of_mem harchive hr).1, trivial,
      (hplace r hr).trans (by rw [hreply]; rfl)⟩

/-- Every step keeps what holds in every run. -/
theorem Sound.step (h : Step toLowercase fs kept v v') :
    v'.Sound toLowercase fs := by
  cases h with
  | refl => exact hv
  | declined _ url mimeType => exact hv.declined url mimeType
  | content _ url mimeType hprovider handler => exact hv.content url mimeType hprovider handler
  | directory _ url mimeType hpath => exact hv.directory url mimeType hpath
  | queued _ url mimeType harchive hended => exact hv.queued url mimeType harchive hended
  | opened _ htask hfile => exact hv.opened htask hfile
  | missing _ htask hfile => exact (hv.missing htask).1
  | loaded _ htask harchive hzip => exact hv.loaded htask harchive hzip
  | failed _ htask harchive hzip => exact (hv.failed htask harchive).1
  | streamed _ htask hparams => exact hv.streamed htask hparams
  | drained _ htask harchive => exact (hv.drained htask harchive).1

theorem Sound.damaged (h : Step toLowercase fs false v v') :
    v'.Damaged := by
  generalize hkept : false = kept at h
  cases h with
  | missing _ htask hfile => exact .inl ⟨_, (hv.missing htask).2⟩
  | failed _ htask harchive hzip => exact .inr ⟨_, (hv.failed htask harchive).2⟩
  | drained _ htask harchive =>
    rw [eq_comm, List.all_eq_false] at hkept
    obtain ⟨r, hr, hnone⟩ := hkept
    refine .inl ⟨r, (hv.drained htask harchive).2 r hr ?_⟩
    rw [archiveAnswer_eq, isSome_map, Bool.not_eq_true, isSome_eq_false_iff,
      isNone_iff_eq_none] at hnone
    exact hnone
  | refl | declined | content | directory | queued | opened | loaded | streamed => cases hkept

/-! ### Damage lasts -/

end

def Unaffected (v v' : ProviderView) (r : RequestId) : Prop :=
  acceptedBy v'.log r = acceptedBy v.log r ∧ v'.place r = v.place r

lemma Unaffected.lost_iff (h : Unaffected v v' r) : v'.Lost r ↔ v.Lost r := by
  simp [Lost, h.1, h.2]

lemma not_lost_of_place (h : v.place r ≠ nowhere) : ¬ v.Lost r := fun ⟨_, _, _, hplace⟩ => h hplace

lemma not_lost_of_not_accepted (h : acceptedBy v.log r = []) : ¬ v.Lost r := by
  rintro ⟨provider, haccepted, -, -⟩
  simp [h] at haccepted

lemma Step.request_cases (hv : v.Sound toLowercase fs)
    (h : Step toLowercase fs kept v v') (r : RequestId) :
    Unaffected v v' r ∨ ¬ v.Lost r ∧ (kept = true → ¬ v'.Lost r) := by
  have hnew := (hv.untouched (le_refl v.params.length)).1
  cases h with
  | refl => exact .inl ⟨rfl, rfl⟩
  | declined _ url mimeType => exact .inl ⟨by simp, by simp [place]⟩
  | content _ url mimeType hprovider handler =>
    by_cases hr : r = v.params.length
    · subst hr
      exact .inr ⟨not_lost_of_not_accepted hnew, fun _ => not_lost_of_place (by simp [place, nowhere])⟩
    · exact .inl ⟨by simp [Ne.symm hr], by simp [place, Ne.symm hr]⟩
  | directory _ url mimeType hpath =>
    by_cases hr : r = v.params.length
    · subst hr
      exact .inr ⟨not_lost_of_not_accepted hnew, fun _ => not_lost_of_place (by simp [place, nowhere])⟩
    · exact .inl ⟨by simp [Ne.symm hr], by simp [place, Ne.symm hr]⟩
  | @queued _ url mimeType a archive harchive hended =>
    by_cases hr : r = v.params.length
    · subst hr
      refine .inr ⟨not_lost_of_not_accepted hnew, fun _ => not_lost_of_place fun hplace => ?_⟩
      have hqueues := congrFun (congrArg Place.queues hplace) a
      simp [place, nowhere, queues_set (List.getElem?_eq_some_iff.mp harchive).1] at hqueues
    · refine .inl ⟨by simp [Ne.symm hr], ?_⟩
      simp [place, openings_start, queues_join harchive hr, continuations_accepted]
  | @opened _ filePath r' rest file htask hfile =>
    by_cases hr : r = r'
    · subst hr
      exact .inr ⟨not_lost_of_place (by simp [place, nowhere, htask]),
        fun _ => not_lost_of_place (by simp [place, nowhere])⟩
    · exact .inl ⟨rfl, by simp [place, htask, Ne.symm hr]⟩
  | @missing _ filePath r' rest htask hfile =>
    by_cases hr : r = r'
    · subst hr
      exact .inr ⟨not_lost_of_place (by simp [place, nowhere, htask]), fun h => by cases h⟩
    · exact .inl ⟨rfl, by simp [place, htask, Ne.symm hr]⟩
  | @loaded _ a archive rest zip htask harchive hzip =>
    refine .inl ⟨rfl, ?_⟩
    have hqueues := queues_set_of_eq (r := r) { archive with archive := some zip } harchive rfl
    simp [place, htask, hqueues]
  | failed _ htask harchive hzip => exact .inl ⟨rfl, by simp [place, htask]⟩
  | @streamed _ stream r' rest url mimeType htask hparams =>
    by_cases hr : r = r'
    · subst hr
      exact .inr ⟨not_lost_of_place (by simp [place, nowhere, htask]),
        fun _ => not_lost_of_place (by simp [place, nowhere])⟩
    · exact .inl ⟨rfl, by simp [place, htask, Ne.symm hr]⟩
  | @drained _ a archive rest htask harchive =>
    have hnodup := hv.pending_nodup harchive
    by_cases hr : r ∈ archive.pendingRequests
    · refine .inr ⟨not_lost_of_place fun hplace => ?_, fun hkept => not_lost_of_place fun hplace => ?_⟩
      · have hqueues := congrFun (congrArg Place.queues hplace) a
        simp only [place, nowhere, queues_eq harchive, count_eq_zero] at hqueues
        exact hqueues hr
      · have hsome := all_eq_true.mp hkept r hr
        rw [archiveAnswer_eq, isSome_map] at hsome
        obtain ⟨handler, hhandler⟩ := isSome_iff_exists.mp hsome
        have hnil := congrArg Place.continuations hplace
        simp [place, nowhere, continuations_answers hnodup, hr, hhandler] at hnil
    · refine .inl ⟨acceptedBy_answers _ _ _ _, ?_⟩
      have hqueues := queues_drain { archive with
        loadEnded := true
        pendingRequests := [] } harchive hr rfl
      simp [place, continuations_answers hnodup, if_neg hr, hqueues, htask, streams_continueZip]

lemma stuck_congr (harchive : v'.archives[a]? = v.archives[a]?)
    (hfile : v'.fileTasks.count (.openZip a) = v.fileTasks.count (.openZip a))
    (hio : v'.ioTasks.count (.continueZip a) = v.ioTasks.count (.continueZip a)) :
    v'.Stuck a ↔ v.Stuck a := by
  simp [Stuck, harchive, hfile, hio]

lemma not_stuck_of_file (h : v.fileTasks.count (.openZip a) ≠ 0) : ¬ v.Stuck a :=
  fun ⟨_, _, _, _, hfile, _⟩ => h hfile

lemma not_stuck_of_io (h : v.ioTasks.count (.continueZip a) ≠ 0) : ¬ v.Stuck a :=
  fun ⟨_, _, _, _, _, hio⟩ => h hio

lemma stuck_queued_iff (hv : v.Sound toLowercase fs) (url mimeType : String)
    (harchive : v.archives[a]? = some archive) (hended : archive.loadEnded = false) :
    (v.joined (url, mimeType) a archive).Stuck a ↔ v.Stuck a := by
  have ha : a < v.archives.length := (List.getElem?_eq_some_iff.mp harchive).1
  simp only [joined, Stuck, getElem?_set_self ha, harchive, some.injEq, exists_eq_left',
    hended, true_and, ne_eq, append_eq_nil_iff, cons_ne_self, and_false, not_false_eq_true]
  cases hv.stage a archive harchive with
  | unstarted hstarted _ hpending hfile hio => simp [hstarted, hpending]
  | loading hstarted _ hpending hfile hio => simp [hstarted, hpending]
  | returning hstarted _ hpending hfile hio _ => simp [hstarted, hpending]
  | ended _ hended' _ _ _ => simp [hended'] at hended
  | stuck hstarted _ hpending hfile hio => simp [hstarted, hpending]

lemma Step.archive_cases (hv : v.Sound toLowercase fs)
    (h : Step toLowercase fs kept v v') (a : Nat) :
    (v'.Stuck a ↔ v.Stuck a) ∨ ¬ v.Stuck a ∧ (kept = true → ¬ v'.Stuck a) := by
  cases h with
  | refl => exact .inl Iff.rfl
  | declined _ url mimeType => exact .inl Iff.rfl
  | content _ url mimeType hprovider handler => exact .inl Iff.rfl
  | directory _ url mimeType hpath => exact .inl (stuck_congr rfl (by simp) rfl)
  | @queued _ url mimeType b archive harchive hended =>
    by_cases hab : a = b
    · subst hab
      exact .inl (stuck_queued_iff hv url mimeType harchive hended)
    · refine .inl (stuck_congr (getElem?_set_ne (Ne.symm hab)) ?_ rfl)
      cases archive.loadStarted with
      | true => simp
      | false => simp [count_append, Ne.symm hab]
  | opened _ htask hfile => exact .inl (stuck_congr rfl (by simp [htask]) (by simp))
  | missing _ htask hfile => exact .inl (stuck_congr rfl (by simp [htask]) rfl)
  | @loaded _ b archive rest zip htask harchive hzip =>
    by_cases hab : a = b
    · subst hab
      exact .inr ⟨not_stuck_of_file (by simp [htask]), fun _ => not_stuck_of_io (by simp)⟩
    · exact .inl (stuck_congr (getElem?_set_ne (Ne.symm hab)) (by simp [htask, Ne.symm hab])
        (by simp [count_append, Ne.symm hab]))
  | @failed _ b archive rest htask harchive hzip =>
    by_cases hab : a = b
    · subst hab
      exact .inr ⟨not_stuck_of_file (by simp [htask]), fun h => by cases h⟩
    · exact .inl (stuck_congr rfl (by simp [htask, Ne.symm hab]) rfl)
  | streamed _ htask hparams => exact .inl (stuck_congr rfl rfl (by simp [htask]))
  | @drained _ b archive rest htask harchive =>
    by_cases hab : a = b
    · subst hab
      have ha : a < v.archives.length := (List.getElem?_eq_some_iff.mp harchive).1
      refine .inr ⟨not_stuck_of_io (by simp [htask]), fun _ => ?_⟩
      rintro ⟨archive', harchive', hended, -⟩
      simp only [getElem?_set_self ha, some.injEq] at harchive'
      subst harchive'
      cases hended
    · exact .inl (stuck_congr (getElem?_set_ne (Ne.symm hab)) rfl (by simp [htask, Ne.symm hab]))

theorem Damaged.step (hd : v.Damaged) (hv : v.Sound toLowercase fs)
    (h : Step toLowercase fs kept v v') : v'.Damaged := by
  obtain ⟨r, hlost⟩ | ⟨a, hstuck⟩ := hd
  · obtain hsame | ⟨hnot, -⟩ := h.request_cases hv r
    · exact .inl ⟨r, hsame.lost_iff.mpr hlost⟩
    · exact absurd hlost hnot
  · obtain hsame | ⟨hnot, -⟩ := h.archive_cases hv a
    · exact .inr ⟨a, hsame.mpr hstuck⟩
    · exact absurd hstuck hnot

theorem Step.not_damaged (h : Step toLowercase fs true v v') (hv : v.Sound toLowercase fs)
    (hnot : ¬ v.Damaged) : ¬ v'.Damaged := by
  rintro (⟨r, hlost⟩ | ⟨a, hstuck⟩)
  · obtain hsame | ⟨-, hkept⟩ := h.request_cases hv r
    · exact hnot (.inl ⟨r, hsame.lost_iff.mp hlost⟩)
    · exact hkept rfl hlost
  · obtain hsame | ⟨-, hkept⟩ := h.archive_cases hv a
    · exact hnot (.inr ⟨a, hsame.mp hstuck⟩)
    · exact hkept rfl hstuck

/-! ### When all tasks have run -/

/-- Every request that was accepted by a provider of files is continued exactly once, with a handler
if the file or the entry exists and with none otherwise, and no request is left in a queue. -/
structure NoneLost (toLowercase : String → String) (fs : FileSystem) (v : ProviderView) : Prop where
  once : ∀ r provider, .accepted r provider ∈ v.log → provider.LoadsFiles →
    providerContinuations v.log r = [v.expectedHandler toLowercase fs provider r]
  none_pending : ∀ archive ∈ v.archives, archive.pendingRequests = []

/-- When all tasks have run, no request is lost if and only if no damage was done. -/
theorem Sound.noneLost_iff (hv : v.Sound toLowercase fs) (hfile : v.fileTasks = [])
    (hio : v.ioTasks = []) : v.NoneLost toLowercase fs ↔ ¬ v.Damaged := by
  constructor
  · rintro hnone (⟨r, provider, haccepted, hloads, hplace⟩ | ⟨a, archive, harchive, -, hpending, -⟩)
    · have honce := hnone.once r provider (mem_acceptedBy.mp (by simp [haccepted])) hloads
      have hnil := congrArg Place.continuations hplace
      simp [place, nowhere, honce] at hnil
    · exact hpending (hnone.none_pending archive (mem_of_getElem? harchive))
  · intro hnot
    have hempty : ∀ (a : Nat) (archive : RustArchiveState), v.archives[a]? = some archive →
        archive.pendingRequests = [] := by
      intro a archive harchive
      cases hv.stage a archive harchive with
      | unstarted _ _ hpending _ _ | ended _ _ hpending _ _ => exact hpending
      | loading _ _ _ hcount _ => simp [hfile] at hcount
      | returning _ _ _ _ hcount _ => simp [hio] at hcount
      | stuck _ hended hpending hfile hio =>
        exact absurd (.inr ⟨a, archive, harchive, hended, hpending, hfile, hio⟩) hnot
    refine ⟨fun r provider haccepted hloads => ?_, fun archive harchive => ?_⟩
    · have hmem := mem_acceptedBy.mpr haccepted
      cases hv.fate r with
      | untouched hnil _ => simp [hnil] at hmem
      | opening _ _ _ hplace => simp [place, nowhere, hfile] at hplace
      | streaming _ _ _ hplace => simp [place, nowhere, hio] at hplace
      | @queued a _ hplace =>
        have hqueues := congrFun (congrArg Place.queues hplace) a
        simp only [place, queues, if_true] at hqueues
        split at hqueues
        · cases hqueues
        · rename_i archive harchive
          simp [hempty a archive harchive] at hqueues
      | answered hone hexpected hplace =>
        obtain rfl : provider = _ := by simpa [hone] using hmem
        rw [← hexpected hloads]
        exact congrArg Place.continuations hplace
      | lost hone hloads hplace => exact absurd (.inl ⟨r, _, hone, hloads, hplace⟩) hnot
    · obtain ⟨a, harchive⟩ := getElem?_of_mem harchive
      exact hempty a archive harchive

end Protocol

end ProviderView

end CefCore.ResourceManager
