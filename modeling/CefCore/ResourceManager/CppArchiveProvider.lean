import CefCore.Foundations.Run

/-!
# The C++ archive provider

`ArchiveProvider` of `libcef_dll/wrapper/cef_resource_manager.cc` with the `CefZipArchive` of
`libcef_dll/wrapper/cef_zip_archive.cc`. The first request under the provider's URL path starts
the load of the archive on the FILE thread; requests are queued until the archive is back on the
IO thread, and are answered at once from then on. The same `ContinueRequest` answers both, but its
result is only looked at on the second path.

## Main results

* `resolved_iff_findsPending`: when each request is answered.

## Implementation notes

* `towlower` is the C library's. A file of the archive is what the reader reports for it; the
  bytes that are announced are read.
* The provider is alive; if it is deleted the posted task does nothing.
* `mimeType` of a request is what its MIME type resolver gives for its URL.
-/

namespace CefCore.ResourceManager

open List Option Transition

/-! ### Zip archives -/

/-- A file as a `CefZipReader` reports it: its name and contents, whether `OpenFile` works with
the password, and whether memory for it can be allocated. -/
structure ZipEntry where
  fileName : String
  data : List UInt8
  opens : Bool
  allocated : Bool
  deriving DecidableEq

inductive ArchiveFile where
  /-- `CefStreamReader::CreateForFile` gives no stream. -/
  | unreadable
  /-- `CefZipReader::Create` gives no reader. -/
  | notZip
  | files (entries : List ZipEntry)
  deriving DecidableEq

/-- `CefZipArchive`, as its map from lower case names to contents. -/
structure CefZipArchive where
  contents : List (String × List UInt8)

section Zip

variable (towlower : Char → Char)

def toLower (str : String) : String := String.ofList (str.toList.map towlower)

namespace CefZipArchive

/-- The loop of `Load`, with the number of files added so far. -/
def loadLoop (overwriteExisting : Bool) :
    List ZipEntry → CefZipArchive → Nat → CefZipArchive × Nat
  | [], archive, count => (archive, count)
  | e :: rest, archive, count =>
    -- skip directories and empty files
    if e.data.isEmpty then loadLoop overwriteExisting rest archive count
    else if !e.opens then (archive, count)
    else
      let name := toLower towlower e.fileName
      if archive.contents.any (fun f => f.1 = name) && !overwriteExisting then
        loadLoop overwriteExisting rest archive count
      else
        let kept := archive.contents.filter fun f => f.1 ≠ name
        if !e.allocated then loadLoop overwriteExisting rest ⟨kept⟩ count
        else loadLoop overwriteExisting rest ⟨kept ++ [(name, e.data)]⟩ (count + 1)

/-- `Load` into a new archive, with the number of files added. -/
def load (overwriteExisting : Bool) : ArchiveFile → CefZipArchive × Nat
  | .files entries => loadLoop towlower overwriteExisting entries ⟨[]⟩ 0
  | _ => (⟨[]⟩, 0)

def getFile (archive : CefZipArchive) (fileName : String) : Option (List UInt8) :=
  (archive.contents.find? fun f => f.1 = toLower towlower fileName).map (·.2)

end CefZipArchive

end Zip

/-! ### The provider -/

/-- A `Request` that is offered to the provider. -/
structure ArchiveRequest where
  id : Nat
  url : String
  mimeType : String
  deriving DecidableEq

/-- `CefStreamResourceHandler`. -/
structure StreamResourceHandler where
  mimeType : String
  data : List UInt8
  deriving DecidableEq

inductive ArchiveTask where
  | loadOnFileThread
  | continueOnIOThread (archive : Option CefZipArchive)

inductive ArchiveEvent where
  /-- `OnRequest` returns. -/
  | returned (request : ArchiveRequest) (handled : Bool)
  /-- `Request::Continue` is called. -/
  | continued (request : ArchiveRequest) (handler : Option StreamResourceHandler)
  deriving DecidableEq

def ArchiveEvent.request : ArchiveEvent → ArchiveRequest
  | .returned request _ => request
  | .continued request _ => request

/-- `ArchiveProvider`, with its posted tasks, the number of requests offered to it, and what it
has done, newest first. -/
structure ArchiveProvider where
  urlPath : String
  archiveLoadStarted : Bool
  archiveLoadEnded : Bool
  archive : Option CefZipArchive
  pendingRequests : List ArchiveRequest
  tasks : List ArchiveTask
  nextRequest : Nat
  log : List ArchiveEvent

namespace ArchiveProvider

def normalizeUrlPath (urlPath : String) : String :=
  if urlPath.toList.getLast? = some '/' then urlPath else urlPath ++ "/"

def new (urlPath : String) : ArchiveProvider :=
  ⟨normalizeUrlPath urlPath, false, false, none, [], [], 0, []⟩

def report (p : ArchiveProvider) (e : ArchiveEvent) : ArchiveProvider :=
  { p with log := e :: p.log }

/-- `url.find(url_path_) == 0`. -/
def handlesUrl (p : ArchiveProvider) (url : String) : Bool :=
  p.urlPath.toList.isPrefixOf url.toList

/-- `url.substr(url_path_.length())`. -/
def relativePath (p : ArchiveProvider) (url : String) : String :=
  String.ofList (url.toList.drop p.urlPath.toList.length)

section Provider

variable (towlower : Char → Char)

/-- The handler that `ContinueRequest` makes for a request, if the archive has the file. -/
def handlerFor (p : ArchiveProvider) (request : ArchiveRequest) : Option StreamResourceHandler := do
  let archive ← p.archive
  let data ← archive.getFile towlower (p.relativePath request.url)
  return ⟨request.mimeType, data⟩

def continueRequest (p : ArchiveProvider) (request : ArchiveRequest) : Bool × ArchiveProvider :=
  match p.handlerFor towlower request with
  | none => (false, p)
  | some handler => (true, p.report (.continued request (some handler)))

def onRequest (p : ArchiveProvider) (request : ArchiveRequest) : ArchiveProvider :=
  if !p.handlesUrl request.url then p.report (.returned request false)
  else if !p.archiveLoadStarted then
    { p with
      archiveLoadStarted := true
      pendingRequests := p.pendingRequests ++ [request]
      tasks := p.tasks ++ [ArchiveTask.loadOnFileThread] }.report (.returned request true)
  else if p.archiveLoadStarted && !p.archiveLoadEnded then
    { p with pendingRequests := p.pendingRequests ++ [request] }.report (.returned request true)
  else
    let (handled, p) := p.continueRequest towlower request
    p.report (.returned request handled)

/-- `LoadOnFileThread`: the archive it hands over, null if it failed to load or was empty. -/
def loadOnFileThread (file : ArchiveFile) : Option CefZipArchive :=
  if file = .unreadable then none
  else
    let (archive, count) := CefZipArchive.load towlower true file
    if count = 0 then none else some archive

/-- `ContinueOnIOThread`. The result of `ContinueRequest` is dropped in its loop. -/
def continueOnIOThread (p : ArchiveProvider) (archive : Option CefZipArchive) : ArchiveProvider :=
  let p := { p with archiveLoadEnded := true, archive := archive }
  let p := p.pendingRequests.foldl (fun p request => (p.continueRequest towlower request).2) p
  { p with pendingRequests := [] }

inductive Action where
  | onRequest (url mimeType : String)
  /-- The FILE thread runs its task, with what it finds at the path of the archive. -/
  | loadOnFileThread (file : ArchiveFile)
  /-- The IO thread runs the task that the FILE thread has posted. -/
  | continueOnIOThread

/-- One step; `none` if the task is not there. -/
def step (p : ArchiveProvider) : Action → Option ArchiveProvider
  | .onRequest url mimeType =>
    let request : ArchiveRequest := ⟨p.nextRequest, url, mimeType⟩
    some ({ p with nextRequest := p.nextRequest + 1 }.onRequest towlower request)
  | .loadOnFileThread file => match p.tasks with
    | .loadOnFileThread :: tasks =>
      let archive := ArchiveProvider.loadOnFileThread towlower file
      some { p with tasks := tasks ++ [ArchiveTask.continueOnIOThread archive] }
    | _ => none
  | .continueOnIOThread => match p.tasks with
    | .continueOnIOThread archive :: tasks =>
      some ({ p with tasks := tasks }.continueOnIOThread towlower archive)
    | _ => none

/-! ### What is asked of the provider -/

/-- The handlers that `Continue` was called with for a request, newest first. -/
def continuations (log : List ArchiveEvent) (request : ArchiveRequest) :
    List (Option StreamResourceHandler) :=
  log.filterMap fun e => match e with
    | .continued request' handler => if request' = request then some handler else none
    | .returned _ _ => none

/-- How a request was answered: with a handler, by passing it on to the next provider
(`some none`), or not at all. -/
def answer (log : List ArchiveEvent) (request : ArchiveRequest) :
    Option (Option StreamResourceHandler) :=
  match continuations log request with
  | handler :: _ => some handler
  | [] => if .returned request false ∈ log then some none else none

/-- Every request that was accepted is continued exactly once, with the handler that the archive
has for it, or with none; and requests that differ in nothing but the time at which they were
made are answered alike. -/
structure Resolved (p : ArchiveProvider) : Prop where
  once : ∀ request, .returned request true ∈ p.log →
    continuations p.log request = [p.handlerFor towlower request]
  alike : ∀ request handled request' handled', .returned request handled ∈ p.log →
    .returned request' handled' ∈ p.log → request.url = request'.url →
    request.mimeType = request'.mimeType → answer p.log request = answer p.log request'

/-- The archive that the posted task brings back to the IO thread. -/
def broughtBack (p : ArchiveProvider) : Option (Option CefZipArchive) :=
  match p.tasks with
  | .continueOnIOThread archive :: _ => some archive
  | _ => none

/-- When the archive comes back, it has the files of all queued requests. -/
def FindsPending (p : ArchiveProvider) : Action → Prop
  | .continueOnIOThread => ∀ archive ∈ p.broughtBack, ∀ request ∈ p.pendingRequests,
      ({ p with archive := archive }.handlerFor towlower request).isSome = true
  | _ => True

instance (p : ArchiveProvider) : (a : Action) → Decidable (p.FindsPending towlower a)
  | .continueOnIOThread => inferInstanceAs (Decidable (∀ archive ∈ p.broughtBack, _))
  | .onRequest _ _ | .loadOnFileThread _ => isTrue trivial

/-! ### Answers -/

variable {towlower} {p p' : ArchiveProvider} {request : ArchiveRequest}

lemma handlerFor_congr (hpath : p'.urlPath = p.urlPath) (harchive : p'.archive = p.archive) :
    p'.handlerFor towlower request = p.handlerFor towlower request := by
  simp [handlerFor, relativePath, hpath, harchive]

lemma handlerFor_eq_of_alike {request' : ArchiveRequest} (hurl : request.url = request'.url)
    (hmime : request.mimeType = request'.mimeType) :
    p.handlerFor towlower request = p.handlerFor towlower request' := by
  simp [handlerFor, hurl, hmime]

@[simp] lemma continuations_nil : continuations [] request = [] := rfl

@[simp] lemma continuations_append (log log' : List ArchiveEvent) :
    continuations (log ++ log') request = continuations log request ++ continuations log' request :=
  filterMap_append

@[simp] lemma continuations_returned (request' : ArchiveRequest) (handled : Bool)
    (log : List ArchiveEvent) :
    continuations (.returned request' handled :: log) request = continuations log request := rfl

lemma continuations_continued (request' : ArchiveRequest) (handler : Option StreamResourceHandler)
    (log : List ArchiveEvent) :
    continuations (.continued request' handler :: log) request =
      if request' = request then handler :: continuations log request
      else continuations log request := by
  by_cases h : request' = request <;> simp [continuations, h]

lemma continuations_eq_nil {log : List ArchiveEvent}
    (h : ∀ handler, ArchiveEvent.continued request handler ∉ log) :
    continuations log request = [] := by
  refine filterMap_eq_nil_iff.mpr fun e he => ?_
  cases e with
  | returned _ _ => rfl
  | continued request' handler =>
    have hne : request' ≠ request := by
      rintro rfl
      exact h handler he
    simp [hne]

def answers (towlower : Char → Char) (p : ArchiveProvider) :
    List ArchiveRequest → List ArchiveEvent
  | [] => []
  | request :: rest => answers towlower p rest ++
    match p.handlerFor towlower request with
    | none => []
    | some handler => [.continued request (some handler)]

lemma answers_nil : answers towlower p [] = [] := rfl

lemma answers_cons (rest : List ArchiveRequest) : answers towlower p (request :: rest) =
    answers towlower p rest ++ ((p.handlerFor towlower request).map fun handler =>
      ArchiveEvent.continued request (some handler)).toList := by
  rw [answers]
  cases p.handlerFor towlower request with
  | none => rfl
  | some handler => rfl

lemma continueRequest_eq : p.continueRequest towlower request =
    ((p.handlerFor towlower request).isSome,
      { p with log := answers towlower p [request] ++ p.log }) := by
  rw [continueRequest, answers_cons]
  cases p.handlerFor towlower request with
  | none => rfl
  | some handler => rfl

lemma answers_congr (hpath : p'.urlPath = p.urlPath) (harchive : p'.archive = p.archive)
    (requests : List ArchiveRequest) : answers towlower p' requests = answers towlower p requests := by
  induction requests with
  | nil => rfl
  | cons request rest ih => rw [answers_cons, answers_cons, ih, handlerFor_congr hpath harchive]

lemma foldl_continueRequest : ∀ (requests : List ArchiveRequest) (p : ArchiveProvider),
    requests.foldl (fun p request => (p.continueRequest towlower request).2) p =
      { p with log := answers towlower p requests ++ p.log }
  | [], p => rfl
  | request :: rest, p => by
    rw [foldl_cons, continueRequest_eq, foldl_continueRequest rest]
    simp only [answers_nil, answers_cons, nil_append, append_assoc,
      ArchiveProvider.mk.injEq, true_and]
    refine congrArg (· ++ _) (answers_congr ?_ ?_ rest)
    · rfl
    · rfl

variable {a : Action} {requests : List ArchiveRequest}

lemma mem_answers {e : ArchiveEvent} (h : e ∈ answers towlower p requests) :
    ∃ request ∈ requests, ∃ handler, e = .continued request handler := by
  induction requests with
  | nil => exact nomatch h
  | cons request rest ih =>
    rw [answers_cons, mem_append] at h
    obtain h | h := h
    · obtain ⟨r, hr, handler, he⟩ := ih h
      exact ⟨r, mem_cons_of_mem _ hr, handler, he⟩
    · cases hfor : p.handlerFor towlower request with
      | none => simp [hfor] at h
      | some handler =>
        simp only [hfor, map_some, toList_some, mem_singleton] at h
        exact ⟨request, mem_cons_self, some handler, h⟩

lemma continuations_answers_of_not_mem (h : request ∉ requests) :
    continuations (answers towlower p requests) request = [] := by
  refine continuations_eq_nil fun handler hmem => ?_
  obtain ⟨r, hr, handler', he⟩ := mem_answers hmem
  obtain ⟨rfl, -⟩ := ArchiveEvent.continued.inj he
  exact h hr

lemma continuations_answers (hnodup : requests.Nodup)
    (h : request ∈ requests) : continuations (answers towlower p requests) request =
      ((p.handlerFor towlower request).map some).toList := by
  induction requests with
  | nil => simp at h
  | cons r rest ih =>
    obtain ⟨hr, hrest⟩ := nodup_cons.mp hnodup
    rw [answers_cons, continuations_append]
    obtain rfl | h := mem_cons.mp h
    · rw [continuations_answers_of_not_mem hr]
      cases p.handlerFor towlower request with
      | none => rfl
      | some handler => simp [continuations_continued]
    · have hne : r ≠ request := by
        rintro rfl
        exact hr h
      rw [ih hrest h]
      cases p.handlerFor towlower r with
      | none => simp
      | some handler => simp [continuations_continued, hne]

/-! ### The account of the requests -/

inductive Stage (p : ArchiveProvider) : Prop
  | unstarted (hstarted : p.archiveLoadStarted = false) (hended : p.archiveLoadEnded = false)
    (hpending : p.pendingRequests = []) (htasks : p.tasks = [])
  | loading (task : ArchiveTask) (hstarted : p.archiveLoadStarted = true)
    (hended : p.archiveLoadEnded = false) (htasks : p.tasks = [task])
  | ended (hstarted : p.archiveLoadStarted = true) (hended : p.archiveLoadEnded = true)
    (hpending : p.pendingRequests = []) (htasks : p.tasks = [])

lemma Stage.of_eq (h : p.Stage) (hstarted : p'.archiveLoadStarted = p.archiveLoadStarted)
    (hended : p'.archiveLoadEnded = p.archiveLoadEnded)
    (hpending : p'.pendingRequests = p.pendingRequests) (htasks : p'.tasks = p.tasks) :
    p'.Stage := by
  obtain ⟨h₁, h₂, h₃, h₄⟩ | ⟨task, h₁, h₂, h₃⟩ | ⟨h₁, h₂, h₃, h₄⟩ := h
  · exact .unstarted (hstarted ▸ h₁) (hended ▸ h₂) (hpending ▸ h₃) (htasks ▸ h₄)
  · exact .loading task (hstarted ▸ h₁) (hended ▸ h₂) (htasks ▸ h₃)
  · exact .ended (hstarted ▸ h₁) (hended ▸ h₂) (hpending ▸ h₃) (htasks ▸ h₄)

/-- Where every request is: a declined one has never been continued and, if it was under the URL
path, the archive does not have it; an accepted one is pending until the load has ended, and has
then been continued with the handler for it, if there is one. -/
structure Accounted (towlower : Char → Char) (p : ArchiveProvider) : Prop where
  stage : p.Stage
  lt_next : ∀ e ∈ p.log, e.request.id < p.nextRequest
  pending_nodup : p.pendingRequests.Nodup
  pending_returned : ∀ request ∈ p.pendingRequests, .returned request true ∈ p.log
  handles : ∀ request, .returned request true ∈ p.log → p.handlesUrl request.url = true
  declined : ∀ request, .returned request false ∈ p.log → continuations p.log request = [] ∧
    (p.handlesUrl request.url = true →
      p.archiveLoadEnded = true ∧ p.handlerFor towlower request = none)
  waiting : p.archiveLoadEnded = false → ∀ request, .returned request true ∈ p.log →
    request ∈ p.pendingRequests ∧ continuations p.log request = []
  answered : p.archiveLoadEnded = true → ∀ request, .returned request true ∈ p.log →
    continuations p.log request = ((p.handlerFor towlower request).map some).toList

lemma new_accounted (urlPath : String) : (new urlPath).Accounted towlower where
  stage := .unstarted rfl rfl rfl rfl
  lt_next := by simp [new]
  pending_nodup := nodup_nil
  pending_returned := by simp [new]
  handles := by simp [new]
  declined := by simp [new]
  waiting := by simp [new]
  answered := by simp [new]

/-- A new request keeps the account if it is either declined, or queued while the archive is being
loaded, or answered at once.

**Proof sketch.** The request is new to the log, so the events of the older requests are those
of the log before. -/
lemma Accounted.offered (hp : p.Accounted towlower) {handled : Bool}
    {queued : List ArchiveRequest} (answer : List (Option StreamResourceHandler))
    (hfresh : ∀ e ∈ p.log, e.request ≠ request) (hid : request.id < p.nextRequest)
    (hpath : p'.urlPath = p.urlPath)
    (harchive : p'.archive = p.archive) (hended : p'.archiveLoadEnded = p.archiveLoadEnded)
    (hnext : p'.nextRequest = p.nextRequest) (hstage : p'.Stage)
    (hpending : p'.pendingRequests = p.pendingRequests ++ queued)
    (hqueued : queued = if handled && !p.archiveLoadEnded then [request] else [])
    (hlog : p'.log = .returned request handled :: (answer.map (.continued request ·) ++ p.log))
    (haccepted : handled = true → p.handlesUrl request.url = true)
    (hdeclined : handled = false → p.handlesUrl request.url = true →
      p.archiveLoadEnded = true ∧ p.handlerFor towlower request = none)
    (hanswer : answer = if handled && p.archiveLoadEnded
      then ((p.handlerFor towlower request).map some).toList else []) :
    p'.Accounted towlower := by
  have hnew : ∀ r b, ArchiveEvent.returned r b ∈ p'.log ↔
      r = request ∧ b = handled ∨ .returned r b ∈ p.log := by
    intro r b
    simp [hlog]
  have hsame : ∀ r, r ≠ request → continuations p'.log r = continuations p.log r := by
    intro r hr
    rw [hlog, continuations_returned, continuations_append,
      continuations_eq_nil (by simp [Ne.symm hr]), nil_append]
  have hself : continuations p'.log request = answer := by
    rw [hlog, continuations_returned, continuations_append, continuations_eq_nil
        fun h hh => hfresh _ hh rfl, append_nil]
    simp [continuations, filterMap_map]
  have hold : ∀ r b, ArchiveEvent.returned r b ∈ p.log → r ≠ request := fun r b hr =>
    hfresh _ hr
  have hfor : ∀ r, p'.handlerFor towlower r = p.handlerFor towlower r := fun r =>
    handlerFor_congr hpath harchive
  have hurl : ∀ r : ArchiveRequest, p'.handlesUrl r.url = p.handlesUrl r.url := fun r => by
    simp [handlesUrl, hpath]
  refine {
    stage := hstage
    lt_next := ?lt_next
    pending_nodup := ?pending_nodup
    pending_returned := ?pending_returned
    handles := ?handles
    declined := ?declined
    waiting := ?waiting
    answered := ?answered }
  case lt_next =>
    intro e he
    rw [hlog, mem_cons, mem_append, List.mem_map] at he
    rw [hnext]
    obtain rfl | ⟨h, -, rfl⟩ | he := he
    · exact hid
    · exact hid
    · exact hp.lt_next e he
  case pending_nodup =>
    rw [hpending, hqueued]
    split
    · refine nodup_append.mpr ⟨hp.pending_nodup, by simp, ?_⟩
      rintro r hr _ hr' rfl
      obtain rfl := mem_singleton.mp hr'
      exact hold r true (hp.pending_returned r hr) rfl
    · simpa using hp.pending_nodup
  case pending_returned =>
    intro r hr
    rw [hpending, mem_append] at hr
    rw [hnew]
    obtain hr | hr := hr
    · exact .inr (hp.pending_returned r hr)
    · rw [hqueued] at hr
      split at hr
      · rename_i hboth
        simp only [Bool.and_eq_true] at hboth
        exact .inl ⟨mem_singleton.mp hr, hboth.1.symm⟩
      · simp at hr
  case handles =>
    intro r hr
    rw [hurl]
    obtain ⟨rfl, hb⟩ | hr := (hnew r true).mp hr
    · exact haccepted hb.symm
    · exact hp.handles r hr
  case declined =>
    intro r hr
    rw [hurl, hended, hfor]
    obtain ⟨rfl, hb⟩ | hr := (hnew r false).mp hr
    · rw [hself, hanswer, ← hb]
      exact ⟨rfl, hdeclined hb.symm⟩
    · rw [hsame r (hold r false hr)]
      exact hp.declined r hr
  case waiting =>
    intro hload r hr
    rw [hended] at hload
    obtain ⟨rfl, hb⟩ | hr := (hnew r true).mp hr
    · rw [hself, hanswer, hpending, hqueued, ← hb, hload]
      simp
    · rw [hsame r (hold r true hr), hpending]
      exact ⟨mem_append_left _ (hp.waiting hload r hr).1, (hp.waiting hload r hr).2⟩
  case answered =>
    intro hload r hr
    rw [hended] at hload
    rw [hfor]
    obtain ⟨rfl, hb⟩ | hr := (hnew r true).mp hr
    · rw [hself, hanswer, ← hb, hload]
      rfl
    · rw [hsame r (hold r true hr)]
      exact hp.answered hload r hr

lemma onRequest_of_not_handlesUrl (hhandles : p.handlesUrl request.url = false) :
    p.onRequest towlower request = p.report (.returned request false) := by
  simp [onRequest, hhandles]

section

variable (hhandles : p.handlesUrl request.url = true)
include hhandles

lemma onRequest_of_unstarted (hstarted : p.archiveLoadStarted = false) :
    p.onRequest towlower request =
      { p with
        archiveLoadStarted := true
        pendingRequests := p.pendingRequests ++ [request]
        tasks := p.tasks ++ [.loadOnFileThread]
        log := .returned request true :: p.log } := by
  simp [onRequest, hhandles, hstarted, report]

lemma onRequest_of_loading
    (hstarted : p.archiveLoadStarted = true) (hended : p.archiveLoadEnded = false) :
    p.onRequest towlower request =
      { p with
        pendingRequests := p.pendingRequests ++ [request]
        log := .returned request true :: p.log } := by
  simp [onRequest, hhandles, hstarted, hended, report]

lemma onRequest_of_ended
    (hstarted : p.archiveLoadStarted = true) (hended : p.archiveLoadEnded = true) :
    p.onRequest towlower request =
      { p with
        log := .returned request (p.handlerFor towlower request).isSome ::
          (((p.handlerFor towlower request).map some).toList.map (.continued request ·) ++ p.log) } := by
  simp only [onRequest, hhandles, hstarted, hended, Bool.not_true, Bool.and_false,
    Bool.false_eq_true, if_false, continueRequest]
  cases p.handlerFor towlower request with
  | none => simp [report, hstarted, hended]
  | some handler => simp [report, hstarted, hended]

end

lemma Accounted.onRequest (hp : p.Accounted towlower) (hfresh : ∀ e ∈ p.log, e.request ≠ request)
    (hid : request.id < p.nextRequest) : (p.onRequest towlower request).Accounted towlower := by
  by_cases hhandles : p.handlesUrl request.url = true
  · obtain ⟨hstarted, hended, hpending, htasks⟩ | ⟨task, hstarted, hended, htasks⟩ |
      ⟨hstarted, hended, hpending, htasks⟩ := hp.stage
    · rw [onRequest_of_unstarted hhandles hstarted]
      exact hp.offered [] hfresh hid rfl rfl rfl rfl
        (.loading .loadOnFileThread rfl hended (by simp [htasks])) rfl
        (by simp [hended]) rfl (fun _ => hhandles) (by simp) (by simp [hended])
    · rw [onRequest_of_loading hhandles hstarted hended]
      exact hp.offered [] hfresh hid rfl rfl rfl rfl (.loading task hstarted hended htasks) rfl
        (by simp [hended]) rfl (fun _ => hhandles) (by simp) (by simp [hended])
    · rw [onRequest_of_ended hhandles hstarted hended]
      refine hp.offered _ hfresh hid rfl rfl rfl rfl (.ended hstarted hended hpending htasks)
        (append_nil _).symm (by simp [hended]) rfl (fun _ => hhandles) ?_ ?_
      · intro hnone _
        exact ⟨hended, isSome_eq_false_iff.mp hnone |> isNone_iff_eq_none.mp⟩
      · rw [hended, Bool.and_true]
        cases p.handlerFor towlower request with
        | none => rfl
        | some handler => rfl
  · rw [onRequest_of_not_handlesUrl (by simpa using hhandles)]
    exact hp.offered [] hfresh hid rfl rfl rfl rfl (hp.stage.of_eq rfl rfl rfl rfl)
      (append_nil _).symm (by simp) rfl (by simp) (fun _ h => absurd h hhandles) (by simp)

lemma continueOnIOThread_eq (archive : Option CefZipArchive) :
    p.continueOnIOThread towlower archive =
      { p with
        archiveLoadEnded := true
        archive := archive
        pendingRequests := []
        log := answers towlower { p with archive := archive } p.pendingRequests ++ p.log } := by
  rw [continueOnIOThread, foldl_continueRequest]
  simp only [ArchiveProvider.mk.injEq, true_and]
  refine congrArg (· ++ _) (answers_congr ?_ ?_ _)
  · rfl
  · rfl

/-- The end of the load keeps the account.

**Proof sketch.** Until now every accepted request was pending and none was continued; the
pending list has no repetitions, so the loop continues each of them as often as it has a
handler. -/
lemma Accounted.continueOnIOThread (hp : p.Accounted towlower) (archive : Option CefZipArchive)
    (hstarted : p.archiveLoadStarted = true) (hended : p.archiveLoadEnded = false) :
    ({ p with tasks := [] }.continueOnIOThread towlower archive).Accounted towlower := by
  rw [continueOnIOThread_eq]
  -- an event of the new log is an answer to a pending request or an old event
  have hold : ∀ r b, ArchiveEvent.returned r b ∈ answers towlower
      { p with tasks := [], archive := archive } p.pendingRequests ++ p.log → .returned r b ∈ p.log := by
    intro r b h
    obtain h | h := mem_append.mp h
    · obtain ⟨_, _, _, he⟩ := mem_answers h
      cases he
    · exact h
  refine ⟨.ended hstarted rfl rfl rfl, ?_, nodup_nil, by simp, ?_, ?_, by simp, ?_⟩
  · intro e he
    obtain he | he := mem_append.mp he
    · obtain ⟨r, hr, _, rfl⟩ := mem_answers he
      exact hp.lt_next (.returned r true) (hp.pending_returned r hr)
    · exact hp.lt_next e he
  · intro r hr
    exact hp.handles r (hold r true hr)
  · intro r hr
    have hr := hold r false hr
    have hnot : p.handlesUrl r.url ≠ true := fun h => by
      simpa [hended] using ((hp.declined r hr).2 h).1
    have hpending : r ∉ p.pendingRequests := fun h =>
      hnot (hp.handles r (hp.pending_returned r h))
    refine ⟨?_, fun h => absurd h hnot⟩
    rw [continuations_append, continuations_answers_of_not_mem hpending, (hp.declined r hr).1]
    rfl
  · intro _ r hr
    obtain ⟨hpending, hnone⟩ := hp.waiting hended r (hold r true hr)
    rw [continuations_append, continuations_answers hp.pending_nodup hpending, hnone, append_nil]
    rfl

theorem Accounted.step (hp : p.Accounted towlower)
    (h : p.step towlower a = some p') : p'.Accounted towlower := by
  cases a with
  | onRequest url mimeType =>
    cases h
    have hcounted : { p with nextRequest := p.nextRequest + 1 }.Accounted towlower :=
      { hp with
        stage := hp.stage.of_eq rfl rfl rfl rfl
        lt_next := fun e he => Nat.lt_succ_of_lt (hp.lt_next e he) }
    refine hcounted.onRequest (fun e he heq => ?_) (Nat.lt_succ_self _)
    exact absurd (hp.lt_next e he) (by rw [heq]; exact Nat.lt_irrefl _)
  | loadOnFileThread file =>
    obtain ⟨-, -, -, htasks⟩ | ⟨task, hstarted, hended, htasks⟩ | ⟨-, -, -, htasks⟩ := hp.stage
    · simp [ArchiveProvider.step, htasks] at h
    · cases task with
      | loadOnFileThread =>
        simp only [ArchiveProvider.step, htasks, nil_append, some.injEq] at h
        subst h
        exact { hp with stage := .loading _ hstarted hended rfl }
      | continueOnIOThread archive => simp [ArchiveProvider.step, htasks] at h
    · simp [ArchiveProvider.step, htasks] at h
  | continueOnIOThread =>
    obtain ⟨-, -, -, htasks⟩ | ⟨task, hstarted, hended, htasks⟩ | ⟨-, -, -, htasks⟩ := hp.stage
    · simp [ArchiveProvider.step, htasks] at h
    · cases task with
      | loadOnFileThread => simp [ArchiveProvider.step, htasks] at h
      | continueOnIOThread archive =>
        simp only [ArchiveProvider.step, htasks, some.injEq] at h
        subst h
        exact hp.continueOnIOThread archive hstarted hended
    · simp [ArchiveProvider.step, htasks] at h

/-! ### When requests are resolved -/

def FindsAccepted (towlower : Char → Char) (p : ArchiveProvider) : Prop :=
  ∀ request, .returned request true ∈ p.log → (p.handlerFor towlower request).isSome = true

/-- Once the load has ended, the requests are resolved if and only if all accepted ones are in the
archive.

**Proof sketch.** An accepted request is continued with its handler if it has one, and not at all
otherwise. Two equal requests have the same handler, and one that was declined has none. -/
lemma Accounted.resolved_iff (hp : p.Accounted towlower) (hended : p.archiveLoadEnded = true) :
    p.Resolved towlower ↔ p.FindsAccepted towlower := by
  constructor
  · intro hresolved request hreturned
    have honce := hresolved.once request hreturned
    rw [hp.answered hended request hreturned] at honce
    cases hfor : p.handlerFor towlower request with
    | none => simp [hfor] at honce
    | some handler => rfl
  · intro hfinds
    have hanswer : ∀ request handled, ArchiveEvent.returned request handled ∈ p.log →
        answer p.log request = some (if p.handlesUrl request.url then
          p.handlerFor towlower request else none) := by
      intro request handled h
      cases handled with
      | true =>
        obtain ⟨handler, hhandler⟩ := isSome_iff_exists.mp (hfinds request h)
        simp [answer, hp.answered hended request h, hhandler, hp.handles request h]
      | false =>
        obtain ⟨hnone, hhandles⟩ := hp.declined request h
        simp only [answer, hnone, h, if_true]
        split
        · rename_i hurl
          rw [(hhandles hurl).2]
        · rfl
    refine ⟨fun request h => ?_, fun request handled request' handled' h h' hurl hmime => ?_⟩
    · obtain ⟨handler, hhandler⟩ := isSome_iff_exists.mp (hfinds request h)
      rw [hp.answered hended request h, hhandler]
      rfl
    · rw [hanswer request handled h, hanswer request' handled' h', hurl,
        handlerFor_eq_of_alike hurl hmime]

lemma findsAccepted_onRequest (hstarted : p.archiveLoadStarted = true)
    (hended : p.archiveLoadEnded = true) :
    (p.onRequest towlower request).archiveLoadEnded = true ∧
    ((p.onRequest towlower request).FindsAccepted towlower ↔ p.FindsAccepted towlower) := by
  cases hhandles : p.handlesUrl request.url with
  | false =>
    rw [onRequest_of_not_handlesUrl hhandles]
    refine ⟨hended, fun h r hr => h r (mem_cons_of_mem _ hr), fun h r hr => ?_⟩
    simp only [report, mem_cons, ArchiveEvent.returned.injEq, Bool.true_eq_false, and_false,
      false_or] at hr
    exact h r hr
  | true =>
    rw [onRequest_of_ended hhandles hstarted hended]
    refine ⟨hended, fun h r hr => h r (mem_cons_of_mem _ (mem_append_right _ hr)),
      fun h r hr => ?_⟩
    simp only [mem_cons, ArchiveEvent.returned.injEq, mem_append, List.mem_map,
      reduceCtorEq, and_false, exists_false, false_or] at hr
    obtain ⟨rfl, hsome⟩ | hr := hr
    · exact hsome.symm
    · exact h r hr

lemma Accounted.step_of_ended (hp : p.Accounted towlower)
    (hended : p.archiveLoadEnded = true) (h : p.step towlower a = some p') :
    p'.archiveLoadEnded = true ∧ (p'.FindsAccepted towlower ↔ p.FindsAccepted towlower) := by
  obtain ⟨-, hnot, -, -⟩ | ⟨-, -, hnot, -⟩ | ⟨hstarted, -, hpending, htasks⟩ := hp.stage
  · simp [hended] at hnot
  · simp [hended] at hnot
  · cases a with
    | onRequest url mimeType =>
      cases h
      exact findsAccepted_onRequest (p := { p with nextRequest := p.nextRequest + 1 }) hstarted hended
    | loadOnFileThread file => simp [ArchiveProvider.step, htasks] at h
    | continueOnIOThread => simp [ArchiveProvider.step, htasks] at h

@[simp] lemma onRequest_archiveLoadEnded :
    (p.onRequest towlower request).archiveLoadEnded = p.archiveLoadEnded := by
  simp only [onRequest, continueRequest_eq]
  split
  · rfl
  · split
    · rfl
    · split
      · rfl
      · rfl

lemma step_ends (h : p.step towlower a = some p') (hended : p.archiveLoadEnded = false) :
    p'.archiveLoadEnded = false ∧ p.FindsPending towlower a ∨
    ∃ archive tasks, a = .continueOnIOThread ∧ p.tasks = .continueOnIOThread archive :: tasks ∧
      p' = { p with tasks := tasks }.continueOnIOThread towlower archive := by
  cases a with
  | onRequest url mimeType =>
    cases h
    exact .inl ⟨by simpa using hended, trivial⟩
  | loadOnFileThread file =>
    simp only [ArchiveProvider.step] at h
    split at h
    · cases h
      exact .inl ⟨hended, trivial⟩
    · cases h
  | continueOnIOThread =>
    simp only [ArchiveProvider.step] at h
    split at h
    · rename_i archive tasks htasks
      exact .inr ⟨archive, tasks, rfl, htasks, (some.inj h).symm⟩
    · cases h

/-- The step that ends the load finds all accepted requests in the archive if and only if the
archive has the files of all queued requests.

**Proof sketch.** Before this step the accepted requests are the queued ones, and the step only
adds continuations to the log. -/
lemma Accounted.findsAccepted_ending (hp : p.Accounted towlower)
    (hended : p.archiveLoadEnded = false) {archive : Option CefZipArchive}
    {tasks : List ArchiveTask} (htasks : p.tasks = .continueOnIOThread archive :: tasks) :
    ({ p with tasks := tasks }.continueOnIOThread towlower archive).FindsAccepted towlower ↔
      p.FindsPending towlower .continueOnIOThread := by
  simp only [FindsPending, broughtBack, htasks, mem_def, some.injEq, forall_eq']
  rw [continueOnIOThread_eq]
  constructor
  · intro h r hr
    exact h r (mem_append_right _ (hp.pending_returned r hr))
  · intro h r hr
    obtain hr | hr := mem_append.mp hr
    · obtain ⟨_, _, _, he⟩ := mem_answers hr
      cases he
    · exact h r (hp.waiting hended r hr).1

/-- **When the provider resolves its requests**: in every run in which the load has ended, with any
requests and any outcome of the load, every accepted request is continued exactly once and equal
requests are treated alike if and only if the archive had the files of all requests that were queued
when it came back.

**Proof sketch.** Until the load ends nothing is accepted but what is queued. The later steps only
accept requests that are in the archive. -/
theorem resolved_iff_findsPending (towlower : Char → Char) (urlPath : String)
    (actions : List Action) (p : ArchiveProvider)
    (hrun : actions.foldlM (step towlower) (new urlPath) = some p)
    (hended : p.archiveLoadEnded = true) :
    p.Resolved towlower ↔
      Along (step towlower) (FindsPending towlower) (new urlPath) actions := by
  have hp : p.Accounted towlower :=
    run_invariant (fun _ _ _ hp h => hp.step h) (new_accounted urlPath) hrun
  rw [hp.resolved_iff hended]
  constructor
  · intro hfinds
    by_contra hnot
    -- a load that misses a queued request leaves it accepted and not in the archive
    have hlost := Along.damage (I := fun p => p.Accounted towlower)
      (B := fun p => p.archiveLoadEnded = true ∧ ¬ p.FindsAccepted towlower)
      (fun _ _ _ hp h => hp.step h) ?_ ?_ actions (new urlPath) p (new_accounted urlPath) hnot hrun
    · exact hlost.2 hfinds
    · intro p a p' hp hmiss h
      cases hload : p.archiveLoadEnded with
      | true =>
        obtain ⟨-, hno, -, -⟩ | ⟨-, -, hno, -⟩ | ⟨-, -, -, htasks⟩ := hp.stage
        · simp [hload] at hno
        · simp [hload] at hno
        · refine absurd ?_ hmiss
          cases a with
          | continueOnIOThread => simp [FindsPending, broughtBack, htasks]
          | onRequest url mimeType => trivial
          | loadOnFileThread file => trivial
      | false =>
        obtain ⟨-, hmet⟩ | ⟨archive, tasks, rfl, htasks, rfl⟩ := step_ends h hload
        · exact absurd hmet hmiss
        · refine ⟨?_, fun hfinds => hmiss ((hp.findsAccepted_ending hload htasks).mp hfinds)⟩
          rw [continueOnIOThread_eq]
    · intro p a p' hp hlost h
      obtain ⟨hended', hiff⟩ := hp.step_of_ended hlost.1 h
      exact ⟨hended', fun hfinds => hlost.2 (hiff.mp hfinds)⟩
  · intro halong
    have hfinds := Along.invariant
      (I := fun p => p.Accounted towlower ∧ (p.archiveLoadEnded = true → p.FindsAccepted towlower))
      ?_ actions (new urlPath) p ⟨new_accounted urlPath, by simp [new]⟩ halong hrun
    · exact hfinds.2 hended
    · intro p a p' hp hmet h
      refine ⟨hp.1.step h, fun hended' => ?_⟩
      cases hload : p.archiveLoadEnded with
      | true => exact (hp.1.step_of_ended hload h).2.mpr (hp.2 hload)
      | false =>
        obtain ⟨hno, -⟩ | ⟨archive, tasks, rfl, htasks, rfl⟩ := step_ends h hload
        · simp [hended'] at hno
        · exact (hp.1.findsAccepted_ending hload htasks).mpr hmet

/-- A URL is asked for during the load of an archive with the one file `X`, and again after it. -/
def askTwice (url : String) : List Action :=
  [.onRequest url "text/html", .loadOnFileThread (.files [⟨"X", [7], true, true⟩]),
    .continueOnIOThread, .onRequest url "text/html"]

/-- A page that is in the archive. -/
theorem resolved_iff_findsPending_page :
    ∃ p, (askTwice "http://a/x").foldlM (step Char.toLower) (new "http://a") = some p ∧
      p.archiveLoadEnded = true ∧ p.Resolved Char.toLower := by
  obtain ⟨p, hrun, hended⟩ := map_eq_some_iff.mp (show
    ((askTwice "http://a/x").foldlM (step Char.toLower) (new "http://a")).map
      (·.archiveLoadEnded) = some true by decide +kernel)
  have hiff := resolved_iff_findsPending Char.toLower "http://a" (askTwice "http://a/x") p hrun hended
  have halong : Along (step Char.toLower) (FindsPending Char.toLower) (new "http://a")
      (askTwice "http://a/x") := by
    decide +kernel
  exact ⟨p, hrun, hended, hiff.mpr halong⟩

/-- A request for a file that is not in the archive is dropped if it was queued during the load,
while an equal request after the load is passed on to the next provider. -/
theorem not_resolved_absent_file : ¬ ∀ (towlower : Char → Char) (urlPath : String)
    (actions : List Action) (p : ArchiveProvider),
    actions.foldlM (step towlower) (new urlPath) = some p → p.archiveLoadEnded = true →
    p.Resolved towlower := by
  intro h
  obtain ⟨p, hrun, hp⟩ := map_eq_some_iff.mp (show
    ((askTwice "http://a/y").foldlM (step Char.toLower) (new "http://a")).map
        (fun p => (p.archiveLoadEnded, p.log)) =
      some (true, [.returned ⟨1, "http://a/y", "text/html"⟩ false,
        .returned ⟨0, "http://a/y", "text/html"⟩ true]) by decide +kernel)
  obtain ⟨hended, hlog⟩ := Prod.mk.inj hp
  have hresolved := h Char.toLower "http://a" (askTwice "http://a/y") p hrun hended
  have honce := hresolved.once ⟨0, "http://a/y", "text/html"⟩ (by simp [hlog])
  simp [hlog] at honce

end Provider

end ArchiveProvider

end CefCore.ResourceManager
