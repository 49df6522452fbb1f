import CefCore.NetService.StreamReaderURLLoader

/-!
# A request ends once

What goes on with a request is in one place at a time: in a callback or task that carries the valid
weak pointer, in an operation of the reader, in the watcher of the data pipe, or with the client.
The clean-up that goes with every end of the request makes the weak pointer invalid and cancels the
watcher, so that nothing goes on behind it. Only the handler for the loss of the client comes from
elsewhere; it carries a weak pointer, too.

## Main results

* `ends_once`: the client is told once, and nothing comes behind it.
-/

namespace CefCore.NetService

open TaskPool List Option Fallible Nat EventLog

def LoaderTask.ptr? : LoaderTask → Option Nat
  | .disconnect ptr | .continueWithRequestHeaders ptr | .continueWithResponseHeaders _ ptr
  | .readMore ptr => some ptr
  | .openOnWorkThread | .openCallback | .cancelOnWorkThread | .onCallback _ => none

/-- The task goes on with the request if `weakPtr` is valid. The loss of the client does not. -/
def LoaderTask.token? (weakPtr : Nat) : LoaderTask → Option Unit
  | .disconnect _ => none
  | t => t.ptr?.bind fun ptr => if ptr = weakPtr then some () else none

def ReaderOp.callback : ReaderOp Nat → Nat
  | .skip ptr | .read ptr => ptr

/-- The size in a call of `OnTransferSizeUpdated`. -/
def ClientCall.transferred : ClientCall → Int
  | .onTransferSizeUpdated size => size
  | _ => 0

namespace LoaderSystem

/-- The reads of the input stream that have been asked for and not been answered. -/
def outstandingReads (s : LoaderSystem) : List (ReaderOp Nat) :=
  s.reader.ops.filter fun op => !op.isSkip

/-- What the loader promises. At most one call ends the request, and it is the last one; at most one
read of the stream is outstanding; the length that is reported at the end is that of the body, and
the sum of all transfers; and no assertion fails. -/
structure EndsOnce (s : LoaderSystem) : Prop where
  one_end : (s.calls.filter (ClientCall.Ends ·)).length ≤ 1
  end_last : ∀ later c earlier, s.calls = later ++ c :: earlier → c.Ends → later = []
  one_read : s.outstandingReads.length ≤ 1
  sizes : (s.calls.map ClientCall.transferred).sum = s.committed.length
  body_length : ∀ status dataLength bodyLength : Int,
    .onComplete status dataLength bodyLength ∈ s.calls → bodyLength = s.committed.length
  asserted : ∀ e, s.step e ≠ .error .dcheckFailed

/-! ### The invariant -/

def otherTokens (s : LoaderSystem) : Nat :=
  (if s.wrapper.callback = some s.loader.weakPtr then 1 else 0) +
    (if s.loader.writableHandleWatcher = .armed then 1 else 0) + (if s.Awaiting then 1 else 0)

def heldTokens (s : LoaderSystem) : Nat :=
  (s.tasks.filterMap (LoaderTask.token? s.loader.weakPtr)).length + s.otherTokens

def Carries (s : LoaderSystem) (ptr : Nat) : Prop :=
  (∃ t ∈ s.tasks, t.ptr? = some ptr) ∨ s.wrapper.callback = some ptr ∨
    ∃ op ∈ s.reader.ops, op.callback = ptr

def Over (s : LoaderSystem) : Prop := s.alive = false ∨ s.Ended

structure Books (s : LoaderSystem) : Prop where
  reader : s.reader.Inv
  ptrs : ∀ ptr, s.Carries ptr → ptr ≤ s.loader.weakPtr
  log : EventLog.Final (fun _ : Unit => ClientCall.Ends) (fun _ _ => True) s.calls
  total : s.loader.totalBytesRead = s.committed.length
  sizes : (s.calls.map ClientCall.transferred).sum = s.committed.length
  body_length : ∀ status dataLength bodyLength : Int,
    .onComplete status dataLength bodyLength ∈ s.calls → bodyLength = s.committed.length

/-- The invariant. The request goes on from one place; no valid weak pointer and no armed watcher is
about when the request is over; and a buffer is pending while it is read to. -/
structure Inv (s : LoaderSystem) : Prop extends Books s where
  one_token : s.heldTokens + s.reader.ops.length ≤ 1
  stale : s.Over → ∀ ptr, s.Carries ptr → ptr ≠ s.loader.weakPtr
  unarmed : s.Over → s.loader.writableHandleWatcher ≠ .armed
  buffer : s.loader.pendingBuffer.isSome ↔ .read s.loader.weakPtr ∈ s.reader.ops

/-- The code of the loader runs and is about to go on with the request: nothing else does. -/
structure Running (s : LoaderSystem) : Prop extends Books s where
  no_token : s.heldTokens = 0
  no_op : s.reader.ops = []
  going_on : ¬ s.Over

variable {s : LoaderSystem}

lemma not_over_iff : ¬ s.Over ↔ s.alive = true ∧ ¬ s.Ended := by
  rw [Over, not_or, Bool.not_eq_false]

variable {c : ClientCall} {ptr : Nat} {reader : InputStreamReader Nat} {t : LoaderTask}

lemma tokens_eq_zero {tasks : List LoaderTask}
    (h : ∀ t ∈ tasks, t.ptr? ≠ some ptr) : tasks.filterMap (LoaderTask.token? ptr) = [] := by
  refine filterMap_eq_nil_iff.mpr fun t ht => ?_
  have hne := h t ht
  cases t <;> simp_all [LoaderTask.token?, LoaderTask.ptr?]

lemma Books.inv_of_over (h : s.Books) (hover : s.Over)
    (hstale : ∀ ptr, s.Carries ptr → ptr ≠ s.loader.weakPtr)
    (hwatcher : s.loader.writableHandleWatcher ≠ .armed) (hbuffer : s.loader.pendingBuffer = none) :
    s.Inv := by
  have hnone : s.heldTokens = 0 := by
    have hawaiting : ¬ s.Awaiting := fun hawait =>
      hover.elim (fun hdead => nomatch hdead.symm.trans hawait.1) hawait.2.2.2
    have hwrapper : s.wrapper.callback ≠ some s.loader.weakPtr :=
      fun heq => hstale _ (.inr (.inl heq)) rfl
    rw [heldTokens, tokens_eq_zero fun t ht heq => hstale _ (.inl ⟨t, ht, heq⟩) rfl,
      otherTokens, if_neg hwrapper, if_neg hwatcher, if_neg hawaiting]
    rfl
  exact { h with
    one_token := by
      rw [hnone, Nat.zero_add]
      exact h.reader.one_op
    stale := fun _ => hstale
    unarmed := fun _ => hwatcher
    buffer := by
      rw [hbuffer]
      refine ⟨nofun, fun hmem => ?_⟩
      exact absurd rfl (hstale _ (.inr (.inr ⟨_, hmem, rfl⟩))) }

lemma heldTokens_congr {s' : LoaderSystem} (htasks : s'.tasks = s.tasks)
    (hwrapper : s'.wrapper.callback = s.wrapper.callback)
    (hwatcher : s'.loader.writableHandleWatcher = s.loader.writableHandleWatcher)
    (hptr : s'.loader.weakPtr = s.loader.weakPtr) (hawait : s'.Awaiting ↔ s.Awaiting) :
    s'.heldTokens = s.heldTokens := by
  simp [heldTokens, otherTokens, htasks, hwrapper, hwatcher, hptr, hawait]

/-- **An end of the request keeps the invariant**, wherever it comes from.

**Proof sketch.** The clean-up makes all weak pointers that are about invalid and cancels the
watcher. So nothing goes on with the request but an operation of the reader, whose result will be
dropped. -/
lemma end_inv (h : s.Books) (hnot : ¬ s.Ended) (hc : c.Ends)
    (hbody : ∀ status dataLength bodyLength, c = .onComplete status dataLength bodyLength →
      bodyLength = s.loader.totalBytesRead) : (s.cleanUp.tell c).Inv := by
  have hnone : c.transferred = 0 := by
    cases c <;> first | rfl | exact absurd hc id
  have hbooks : (s.cleanUp.tell c).Books := {
    reader := h.reader
    ptrs := fun ptr hptr => le_succ_of_le (h.ptrs ptr hptr)
    log := final_cons_iff.mpr ⟨fun _ _ => hnot, h.log⟩
    total := h.total
    sizes := by
      rw [tell, map_cons, sum_cons, hnone, Int.zero_add]
      exact h.sizes
    body_length := by
      intro status dataLength bodyLength hmem
      rcases mem_cons.mp hmem with heq | hmem
      · exact (hbody _ _ _ heq.symm).trans h.total
      · exact h.body_length _ _ _ hmem }
  refine hbooks.inv_of_over (.inr ⟨c, mem_cons_self, hc⟩) (fun ptr hptr => ?_) nofun rfl
  exact Nat.ne_of_lt (Nat.lt_succ_of_le (h.ptrs ptr hptr))

lemma requestComplete_inv (h : s.Books) (hnot : ¬ s.Ended) (status : Int) :
    (s.requestComplete status).Inv :=
  end_inv h hnot trivial fun _ _ _ heq => (ClientCall.onComplete.inj heq).2.2.symm

/-! ### Going on -/

lemma Running.not_ended (h : s.Running) : ¬ s.Ended := (not_over_iff.mp h.going_on).2

lemma Running.inv_of_held (h : s.Books) (hop : s.reader.ops = []) (hgoing : ¬ s.Over)
    (hone : s.heldTokens ≤ 1) (hbuffer : s.loader.pendingBuffer = none) : s.Inv :=
  { h with
    one_token := by
      rw [hop]
      exact hone
    stale := fun hover => absurd hover hgoing
    unarmed := fun hover => absurd hover hgoing
    buffer := by
      rw [hbuffer, hop]
      exact ⟨nofun, nofun⟩ }

lemma Running.post (h : s.Running) (hbuffer : s.loader.pendingBuffer = none)
    (ht : t.ptr? = some s.loader.weakPtr) : (s.post t).Inv := by
  have hbooks : (s.post t).Books := { h.toBooks with
    ptrs := fun ptr hptr => by
      obtain ⟨t', ht', heq⟩ | hptr := hptr
      · rcases mem_append.mp ht' with hmem | hmem
        · exact h.ptrs ptr (.inl ⟨t', hmem, heq⟩)
        · obtain rfl := mem_singleton.mp hmem
          exact le_of_eq (some.inj (heq.symm.trans ht))
      · exact h.ptrs ptr (.inr hptr) }
  refine Running.inv_of_held hbooks h.no_op h.going_on ?_ hbuffer
  have hzero := h.no_token
  have htoken : ([t].filterMap (LoaderTask.token? s.loader.weakPtr)).length ≤ 1 :=
    length_filterMap_le _ _
  have hheld : (s.post t).heldTokens =
      ((s.tasks ++ [t]).filterMap (LoaderTask.token? s.loader.weakPtr)).length + s.otherTokens :=
    rfl
  rw [heldTokens] at hzero
  rw [hheld, filterMap_append, length_append]
  omega

lemma Running.rest (h : s.Running) (hbuffer : s.loader.pendingBuffer = none) : s.Inv :=
  Running.inv_of_held h.toBooks h.no_op h.going_on (h.no_token ▸ zero_le 1) hbuffer

lemma Running.arm (h : s.Running) (hbuffer : s.loader.pendingBuffer = none) :
    LoaderSystem.Inv { s with loader := { s.loader with writableHandleWatcher := .armed } } := by
  refine Running.inv_of_held { h.toBooks with } h.no_op h.going_on ?_ hbuffer
  have hzero := h.no_token
  have hheld : LoaderSystem.heldTokens
      { s with loader := { s.loader with writableHandleWatcher := .armed } } =
      (s.tasks.filterMap (LoaderTask.token? s.loader.weakPtr)).length +
        ((if s.wrapper.callback = some s.loader.weakPtr then 1 else 0) + 1 +
          (if s.Awaiting then 1 else 0)) := rfl
  rw [heldTokens, otherTokens] at hzero
  omega

lemma Running.ask (h : s.Running) {t : ReaderTask Nat} {op : ReaderOp Nat} (ht : t.op? = some op)
    (hptr : op.callback = s.loader.weakPtr)
    (hbuffer : s.loader.pendingBuffer.isSome ↔ op = .read s.loader.weakPtr) :
    LoaderSystem.Inv { s with reader := s.reader.post t } := by
  obtain ⟨hinv, hops⟩ := h.reader.ask h.no_op ht
  have hbooks : LoaderSystem.Books { s with reader := s.reader.post t } := { h.toBooks with
    reader := hinv
    ptrs := fun ptr hcarries => by
      obtain hcarries | hcarries | ⟨op', hmem, heq⟩ := hcarries
      · exact h.ptrs ptr (.inl hcarries)
      · exact h.ptrs ptr (.inr (.inl hcarries))
      · rw [hops, mem_singleton] at hmem
        subst hmem
        exact le_of_eq (heq.symm.trans hptr) }
  exact { hbooks with
    one_token := by
      have hheld : LoaderSystem.heldTokens { s with reader := s.reader.post t } = 0 := h.no_token
      rw [hheld, hops]
      exact le_refl 1
    stale := fun hover => absurd hover h.going_on
    unarmed := fun hover => absurd hover h.going_on
    buffer := by
      rw [hops, mem_singleton]
      exact hbuffer.trans eq_comm }

lemma Books.tell (h : s.Books) (hnot : ¬ s.Ended) (hc : ¬ c.Ends)
    {u : LoaderSystem} (hcalls : u.calls = c :: s.calls) (hreader : u.reader = s.reader)
    (hptrs : ∀ ptr, u.Carries ptr → s.Carries ptr) (hptr : u.loader.weakPtr = s.loader.weakPtr)
    (hsize : c.transferred + s.committed.length = u.committed.length)
    (htotal : u.loader.totalBytesRead = u.committed.length) : u.Books where
  reader := hreader ▸ h.reader
  ptrs := fun ptr hcarries => hptr ▸ h.ptrs ptr (hptrs ptr hcarries)
  log := by
    rw [hcalls]
    exact final_cons_iff.mpr ⟨fun _ _ => hnot, h.log⟩
  total := htotal
  sizes := by
    rw [hcalls, map_cons, sum_cons, h.sizes]
    exact hsize
  body_length := by
    intro status dataLength bodyLength hmem
    rw [hcalls] at hmem
    rcases mem_cons.mp hmem with rfl | hmem
    · exact absurd trivial hc
    · exact absurd ⟨_, hmem, trivial⟩ hnot

lemma ended_cons (hc : ¬ c.Ends) {s' : LoaderSystem}
    (hcalls : s'.calls = c :: s.calls) : s'.Ended ↔ s.Ended := by
  rw [Ended, hcalls]
  simp [hc, Ended]

lemma Running.await (h : s.Running) (hbuffer : s.loader.pendingBuffer = none)
    (contentLength : Int) : LoaderSystem.Inv (LoaderSystem.tell (.onReceiveResponse contentLength)
      { s with loader := { s.loader with
        producerHandle := true, needClientCallback := true } }) := by
  have hbooks := h.toBooks.tell (c := .onReceiveResponse contentLength) h.not_ended id
    (u := LoaderSystem.tell (.onReceiveResponse contentLength)
      { s with loader := { s.loader with producerHandle := true, needClientCallback := true } })
    rfl rfl (fun _ hcarries => hcarries) rfl (Int.zero_add _) h.total
  refine Running.inv_of_held hbooks h.no_op ?_ ?_ hbuffer
  · rw [not_over_iff, ended_cons (c := .onReceiveResponse contentLength) id rfl]
    exact not_over_iff.mp h.going_on
  · have hzero := h.no_token
    rw [heldTokens, otherTokens] at hzero ⊢
    calc _ ≤ (s.tasks.filterMap (LoaderTask.token? s.loader.weakPtr)).length +
          ((if s.wrapper.callback = some s.loader.weakPtr then 1 else 0) +
            (if s.loader.writableHandleWatcher = .armed then 1 else 0) + 1) := by
          refine Nat.add_le_add_left (Nat.add_le_add_left ?_ _) _
          split <;> decide
      _ ≤ 1 := by omega

def transfer (n : BytesRead) (s : LoaderSystem) : LoaderSystem :=
  { s with
    calls := .onTransferSizeUpdated n.count :: s.calls
    committed := s.committed ++ n.data
    loader := { s.loader with
      producerHandle := true
      pendingBuffer := none
      totalBytesRead := s.loader.totalBytesRead + n.count } }

lemma Running.transfer (h : s.Running) (n : BytesRead) (hpos : 0 < n.count) :
    (s.transfer n).Running := by
  have hlength : (n.data.length : Int) = n.count := by
    rw [n.length_data]
    exact Int.toNat_of_nonneg (Int.le_of_lt hpos)
  have htotal := h.total
  have hended : (s.transfer n).Ended ↔ s.Ended :=
    ended_cons (c := .onTransferSizeUpdated n.count) id rfl
  have hbooks : (s.transfer n).Books := by
    refine h.toBooks.tell (c := .onTransferSizeUpdated n.count) h.not_ended id rfl rfl
      (fun _ hcarries => hcarries) rfl ?_ ?_
    · simp only [LoaderSystem.transfer, ClientCall.transferred, length_append]
      omega
    · simp only [LoaderSystem.transfer, length_append]
      omega
  exact { hbooks with
    no_token := by
      have hsame : (s.transfer n).heldTokens = s.heldTokens := by
        refine heldTokens_congr rfl rfl rfl rfl ?_
        rw [Awaiting, Awaiting, hended]
        rfl
      exact hsame.trans h.no_token
    no_op := h.no_op
    going_on := by
      rw [not_over_iff, hended]
      exact not_over_iff.mp h.going_on }

/-! ### The functions of the loader -/

def Sound (x : Except LoaderStop LoaderSystem) : Prop :=
  x = .error .impossible ∨ ∃ s, x = .ok s ∧ s.Inv

lemma Sound.ok (h : s.Inv) : Sound (.ok s) := .inr ⟨s, rfl, h⟩

section

variable (h : s.Running)
include h

lemma onReaderReadCompleted_sound {size : Nat}
    (hbuffer : s.loader.pendingBuffer = some size) (n : BytesRead) :
    Sound (s.onReaderReadCompleted n) := by
  rw [onReaderReadCompleted, hbuffer]
  dsimp only
  split
  · exact .inl rfl
  · split
    · exact .ok (requestComplete_inv h.toBooks h.not_ended _)
    · split
      · exact .ok (requestComplete_inv h.toBooks h.not_ended _)
      · exact .ok ((h.transfer n (by omega)).post rfl rfl)

section

variable (hbuffer : s.loader.pendingBuffer = none)
include hbuffer

lemma readMore_sound (turn : LoaderTurn) : Sound (s.readMore turn) := by
  rw [readMore, dcheck, if_pos (by rw [hbuffer]; rfl)]
  simp only [ok_bind]
  cases turn.beginWrite with
  | shouldWait => exact .ok (h.arm hbuffer)
  | failedPrecondition => exact .ok (requestComplete_inv h.toBooks h.not_ended _)
  | failed => exact .ok (requestComplete_inv h.toBooks h.not_ended _)
  | ok size size_pos =>
    have hpending : LoaderSystem.Running { s with loader := { s.loader with
        producerHandle := false, pendingBuffer := some size } } := { h with }
    dsimp only
    split
    · exact onReaderReadCompleted_sound hpending rfl .eof
    · exact .ok (hpending.ask (t := .readOnWorkThread size s.loader.weakPtr) rfl rfl
        (iff_of_true rfl rfl))

lemma onDataPipeWritable_sound (closed : Bool) (turn : LoaderTurn) :
    Sound (s.onDataPipeWritable closed turn) := by
  rw [onDataPipeWritable]
  split
  · exact .ok (requestComplete_inv h.toBooks h.not_ended _)
  · exact readMore_sound h hbuffer turn

lemma continueWithResponseHeaders_inv (contentLength result : Int) (turn : LoaderTurn) :
    (s.continueWithResponseHeaders contentLength result turn).Inv := by
  rw [continueWithResponseHeaders]
  split
  · exact requestComplete_inv h.toBooks h.not_ended _
  · have hheaders : LoaderSystem.Running
        { s with loader := { s.loader with headerLength := turn.headerLength } } := { h with }
    split
    · exact end_inv hheaders.toBooks hheaders.not_ended trivial nofun
    · split
      · exact requestComplete_inv hheaders.toBooks hheaders.not_ended _
      · exact hheaders.await hbuffer contentLength

lemma headersComplete_inv (status expected : Int) (turn : LoaderTurn) :
    (s.headersComplete status expected turn).Inv := by
  have hannounced : LoaderSystem.Running { s with announced := some expected } := { h with }
  rw [headersComplete]
  split
  · exact requestComplete_inv hannounced.toBooks hannounced.not_ended _
  · split
    · exact hannounced.post hbuffer rfl
    · exact continueWithResponseHeaders_inv hannounced hbuffer _ _ turn

lemma onReaderSkipCompleted_inv (n : Int) (turn : LoaderTurn) :
    (s.onReaderSkipCompleted n turn).Inv := by
  rw [onReaderSkipCompleted]
  split
  · exact headersComplete_inv h hbuffer _ _ turn
  · split
    · exact headersComplete_inv h hbuffer _ _ turn
    · exact requestComplete_inv h.toBooks h.not_ended _

lemma onInputStreamOpened_inv (inputStream : Bool) (turn : LoaderTurn) :
    (s.onInputStreamOpened inputStream turn).Inv := by
  have hreset : LoaderSystem.Running
      { s with loader := { s.loader with openCancelCallback := false } } := { h with }
  rw [onInputStreamOpened]
  dsimp only
  split
  · split
    · exact headersComplete_inv hreset hbuffer _ _ turn
    · exact hreset.rest hbuffer
  · have hopened : LoaderSystem.Running { s with loader := { s.loader with
        openCancelCallback := false, hasInputStreamReader := true } } := { h with }
    split
    · exact onReaderSkipCompleted_inv hopened hbuffer 0 turn
    · refine hopened.ask (show _ = some (.skip s.loader.weakPtr) from rfl) rfl ?_
      rw [hbuffer]
      exact iff_of_false nofun nofun

end

end

lemma Inv.post_plain (h : s.Inv) (ht : t.ptr? = none) : (s.post t).Inv := by
  have hcarries : ∀ ptr, (s.post t).Carries ptr → s.Carries ptr := by
    rintro ptr (⟨t', ht', heq⟩ | hptr)
    · rcases mem_append.mp ht' with hmem | hmem
      · exact .inl ⟨t', hmem, heq⟩
      · obtain rfl := mem_singleton.mp hmem
        exact nomatch ht.symm.trans heq
    · exact .inr hptr
  have htoken : t.token? s.loader.weakPtr = none := by
    cases t <;> first | rfl | exact nomatch ht
  have hheld : (s.post t).heldTokens = s.heldTokens := by
    have happend : (s.post t).heldTokens = ((s.tasks ++ [t]).filterMap
        (LoaderTask.token? s.loader.weakPtr)).length + s.otherTokens := rfl
    rw [happend, filterMap_append, filterMap_cons_none htoken, filterMap_nil, append_nil]
    rfl
  exact { h with
    ptrs := fun ptr hptr => h.ptrs ptr (hcarries ptr hptr)
    one_token := by
      rw [hheld]
      exact h.one_token
    stale := fun hover ptr hptr => h.stale hover ptr (hcarries ptr hptr) }

lemma continueWithRequestHeaders_inv (h : s.Running) (hbuffer : s.loader.pendingBuffer = none)
    (result : Int) : (s.continueWithRequestHeaders result).Inv := by
  rw [continueWithRequestHeaders]
  split
  · exact requestComplete_inv h.toBooks h.not_ended _
  · refine Inv.post_plain ?_ rfl
    have hbooks : LoaderSystem.Books { s with
        loader := { s.loader with openCancelCallback := true }
        wrapper := ⟨some s.loader.weakPtr, false⟩ } := { h.toBooks with
      ptrs := fun ptr hptr => by
        obtain hptr | hptr | hptr := hptr
        · exact h.ptrs ptr (.inl hptr)
        · exact le_of_eq (some.inj hptr).symm
        · exact h.ptrs ptr (.inr (.inr hptr)) }
    refine Running.inv_of_held hbooks h.no_op h.going_on ?_ hbuffer
    have hzero := h.no_token
    have hheld : LoaderSystem.heldTokens { s with
        loader := { s.loader with openCancelCallback := true }
        wrapper := ⟨some s.loader.weakPtr, false⟩ } =
      (s.tasks.filterMap (LoaderTask.token? s.loader.weakPtr)).length +
        ((if some s.loader.weakPtr = some s.loader.weakPtr then 1 else 0) +
          (if s.loader.writableHandleWatcher = .armed then 1 else 0) +
          (if s.Awaiting then 1 else 0)) := rfl
    rw [heldTokens, otherTokens] at hzero
    rw [hheld, if_pos rfl]
    omega

/-! ### Tasks and callbacks -/

section Pick

variable {i : Nat} {t : LoaderTask} {rest : List LoaderTask}

lemma carries_of_pick (hpick : pick s.tasks i = some (t, rest)) {ptr : Nat}
    (h : LoaderSystem.Carries { s with tasks := rest } ptr) : s.Carries ptr := by
  obtain ⟨t', ht', heq⟩ | hptr := h
  · exact .inl ⟨t', subset_of_pick hpick ht', heq⟩
  · exact .inr hptr

lemma Inv.drop (h : s.Inv) (hpick : pick s.tasks i = some (t, rest)) :
    LoaderSystem.Inv { s with tasks := rest } := by
  have hle : LoaderSystem.heldTokens { s with tasks := rest } ≤ s.heldTokens :=
    Nat.add_le_add_right (carried_rest_length_le hpick) s.otherTokens
  exact { h with
    ptrs := fun ptr hptr => h.ptrs ptr (carries_of_pick hpick hptr)
    one_token := Nat.le_trans (Nat.add_le_add_right hle _) h.one_token
    stale := fun hover ptr hptr => h.stale hover ptr (carries_of_pick hpick hptr) }

lemma Inv.not_over (h : s.Inv) (hcarries : s.Carries s.loader.weakPtr) : ¬ s.Over :=
  fun hover => h.stale hover _ hcarries rfl

lemma Inv.no_op_of_held (h : s.Inv) (hheld : 1 ≤ s.heldTokens) :
    s.reader.ops = [] ∧ s.loader.pendingBuffer = none := by
  have hone := h.one_token
  have hnone : s.reader.ops = [] := length_eq_zero_iff.mp (by omega)
  refine ⟨hnone, ?_⟩
  have hbuffer := h.buffer
  rw [hnone] at hbuffer
  simpa using hbuffer

lemma Inv.run_of_pick (h : s.Inv) (hpick : pick s.tasks i = some (t, rest))
    (ht : t.token? s.loader.weakPtr = some ()) :
    LoaderSystem.Running { s with tasks := rest } ∧ s.loader.pendingBuffer = none := by
  have hptr : t.ptr? = some s.loader.weakPtr := by
    cases t <;> simp_all [LoaderTask.token?, LoaderTask.ptr?]
  have hone := h.one_token
  have hperm := (carried_perm_of_pick (LoaderTask.token? s.loader.weakPtr) hpick).length_eq
  rw [ht, length_append, toList_some, length_singleton] at hperm
  have hheld : s.heldTokens = (s.tasks.filterMap (LoaderTask.token? s.loader.weakPtr)).length +
    s.otherTokens := rfl
  obtain ⟨hop, hbuffer⟩ := h.no_op_of_held (by omega)
  refine ⟨{ (h.drop hpick).toBooks with
    no_token := ?_
    no_op := hop
    going_on := h.not_over (.inl ⟨t, mem_of_pick hpick, hptr⟩) }, hbuffer⟩
  have hrest : LoaderSystem.heldTokens { s with tasks := rest } =
    (rest.filterMap (LoaderTask.token? s.loader.weakPtr)).length + s.otherTokens := rfl
  omega

end Pick

lemma weak_sound {f : LoaderSystem → Except LoaderStop LoaderSystem}
    (h : ¬ (s.alive = true ∧ ptr = s.loader.weakPtr) → s.Inv)
    (hf : ptr = s.loader.weakPtr → Sound (f s)) : Sound (s.weak ptr f) := by
  rw [weak]
  split
  · rename_i hvalid
    exact hf hvalid.2
  · rename_i hvalid
    exact .ok (h hvalid)

lemma carries_of_taken
    (h : LoaderSystem.Carries { s with wrapper := ⟨none, s.wrapper.isCanceled⟩ } ptr) :
    s.Carries ptr := h.imp id fun hptr => .inr (hptr.resolve_left nofun)

lemma Books.taken (h : s.Books) :
    LoaderSystem.Books { s with wrapper := ⟨none, s.wrapper.isCanceled⟩ } :=
  { h with ptrs := fun ptr hptr => h.ptrs ptr (carries_of_taken hptr) }

lemma heldTokens_taken : s.heldTokens =
    LoaderSystem.heldTokens { s with wrapper := ⟨none, s.wrapper.isCanceled⟩ } +
      (if s.wrapper.callback = some s.loader.weakPtr then 1 else 0) := by
  have hsame : LoaderSystem.heldTokens { s with wrapper := ⟨none, s.wrapper.isCanceled⟩ } =
    (s.tasks.filterMap (LoaderTask.token? s.loader.weakPtr)).length +
      (0 + (if s.loader.writableHandleWatcher = .armed then 1 else 0) +
        (if s.Awaiting then 1 else 0)) := rfl
  rw [hsame, heldTokens, otherTokens]
  omega

lemma Inv.run_of_callback (h : s.Inv) (hcallback : s.wrapper.callback = some s.loader.weakPtr) :
    LoaderSystem.Running { s with wrapper := ⟨none, s.wrapper.isCanceled⟩ } ∧
      s.loader.pendingBuffer = none := by
  have hheld := heldTokens_taken (s := s)
  rw [if_pos hcallback] at hheld
  have hone := h.one_token
  obtain ⟨hop, hbuffer⟩ := h.no_op_of_held (by omega)
  exact ⟨{ h.toBooks.taken with
    no_token := by omega
    no_op := hop
    going_on := h.not_over (.inr (.inl hcallback)) }, hbuffer⟩

lemma onCallback_sound (h : s.Inv) (inputStream : Bool) (turn : LoaderTurn) :
    Sound (s.onCallback inputStream turn) := by
  rw [onCallback]
  cases hcallback : s.wrapper.callback with
  | none => exact .ok h
  | some ptr =>
    refine weak_sound (fun _ => ?_) fun hvalid => ?_
    · have hheld := heldTokens_taken (s := s)
      have hone := h.one_token
      exact { h.toBooks.taken with
        one_token := by
          dsimp only
          omega
        stale := fun hover ptr' hptr => h.stale hover ptr' (carries_of_taken hptr)
        unarmed := h.unarmed
        buffer := h.buffer }
    · have hvalid : ptr = s.loader.weakPtr := hvalid
      obtain ⟨hrun, hbuffer⟩ := h.run_of_callback (by rw [hcallback, hvalid])
      exact .ok (onInputStreamOpened_inv hrun hbuffer inputStream turn)

lemma Inv.cancel_wrapper (h : s.Inv) :
    LoaderSystem.Inv { s with wrapper := { s.wrapper with isCanceled := true } } := { h with }

lemma execute_sound (h : s.Inv) {i : Nat} {rest : List LoaderTask}
    (hpick : pick s.tasks i = some (t, rest)) (turn : LoaderTurn) :
    Sound (execute t turn { s with tasks := rest }) := by
  have hdrop := h.drop hpick
  cases t with
  | disconnect ptr =>
    rw [execute]
    refine weak_sound (fun _ => hdrop) fun hvalid => ?_
    refine .ok (requestComplete_inv hdrop.toBooks ?_ _)
    have hcarries : s.Carries s.loader.weakPtr :=
      .inl ⟨_, mem_of_pick hpick, congrArg some hvalid⟩
    exact (not_over_iff.mp (h.not_over hcarries)).2
  | continueWithRequestHeaders ptr =>
    rw [execute]
    refine weak_sound (fun _ => hdrop) fun hvalid => ?_
    obtain ⟨hrun, hbuffer⟩ := h.run_of_pick hpick (if_pos hvalid)
    exact .ok (continueWithRequestHeaders_inv hrun hbuffer _)
  | openOnWorkThread =>
    rw [execute]
    refine .ok ?_
    rw [openOnWorkThread]
    split
    · exact hdrop
    · have hposted := hdrop.post_plain (t := .openCallback) rfl
      split
      · exact hposted.cancel_wrapper.post_plain rfl
      · exact hposted
  | openCallback => exact .ok (hdrop.post_plain rfl)
  | cancelOnWorkThread =>
    rw [execute]
    refine .ok ?_
    rw [cancelOnWorkThread]
    split
    · exact hdrop
    · exact hdrop.cancel_wrapper.post_plain rfl
  | onCallback inputStream => exact onCallback_sound hdrop inputStream turn
  | continueWithResponseHeaders contentLength ptr =>
    rw [execute]
    refine weak_sound (fun _ => hdrop) fun hvalid => ?_
    obtain ⟨hrun, hbuffer⟩ := h.run_of_pick hpick (if_pos hvalid)
    exact .ok (continueWithResponseHeaders_inv hrun hbuffer _ _ turn)
  | readMore ptr =>
    rw [execute]
    refine weak_sound (fun _ => hdrop) fun hvalid => ?_
    obtain ⟨hrun, hbuffer⟩ := h.run_of_pick hpick (if_pos hvalid)
    exact readMore_sound hrun hbuffer turn

lemma carries_of_answered (hnone : reader.ops = [])
    (h : LoaderSystem.Carries { s with reader } ptr) : s.Carries ptr := by
  obtain hcarries | hcarries | ⟨op, hmem, _⟩ := h
  · exact .inl hcarries
  · exact .inr (.inl hcarries)
  · exact absurd (hnone ▸ hmem) nofun

lemma Books.answered (h : s.Books) (hinv : reader.Inv)
    (hnone : reader.ops = []) : LoaderSystem.Books { s with reader } := { h with
  reader := hinv
  ptrs := fun ptr hptr => h.ptrs ptr (carries_of_answered hnone hptr) }

lemma Inv.run_of_answer (h : s.Inv) (hinv : reader.Inv)
    (hnone : reader.ops = []) {op : ReaderOp Nat} (hops : s.reader.ops = [op])
    (hptr : op.callback = s.loader.weakPtr) : LoaderSystem.Running { s with reader } := by
  have hone := h.one_token
  rw [hops, length_singleton] at hone
  have hsame : LoaderSystem.heldTokens { s with reader } = s.heldTokens := rfl
  exact { h.toBooks.answered hinv hnone with
    no_token := by omega
    no_op := hnone
    going_on := h.not_over (.inr (.inr ⟨op, hops ▸ mem_singleton_self op, hptr⟩)) }

/-- **The result of an operation** goes to the loader if its weak pointer is valid. A buffer is
pending when a read is answered, and only then. -/
lemma receive_sound (h : s.Inv) (hinv : reader.Inv)
    {d : Delivery Nat} (hops : s.reader.ops = [d.op]) (hnone : reader.ops = [])
    (turn : LoaderTurn) : Sound (receive turn { s with reader } (some d)) := by
  have hcarries : s.Carries d.op.callback :=
    .inr (.inr ⟨d.op, hops ▸ mem_singleton_self d.op, rfl⟩)
  have hdropped : ¬ (s.alive = true ∧ d.op.callback = s.loader.weakPtr) →
      LoaderSystem.Inv { s with reader } := by
    intro hinvalid
    have hne : d.op.callback ≠ s.loader.weakPtr := by
      intro heq
      exact hinvalid ⟨(not_over_iff.mp (h.not_over (heq ▸ hcarries))).1, heq⟩
    have hbuffer := h.buffer
    rw [hops, mem_singleton] at hbuffer
    exact { h.toBooks.answered hinv hnone with
      one_token := by
        have hone := h.one_token
        have hsame : LoaderSystem.heldTokens { s with reader } = s.heldTokens := rfl
        rw [hsame, hnone]
        exact le_trans (le_add_right _ _) hone
      stale := fun hover ptr hptr => h.stale hover ptr (carries_of_answered hnone hptr)
      unarmed := h.unarmed
      buffer := by
        rw [hnone]
        exact iff_of_false (fun hsome => hne (congrArg ReaderOp.callback (hbuffer.mp hsome)).symm)
          nofun }
  have hbuffer := h.buffer
  rw [hops, mem_singleton] at hbuffer
  cases d with
  | skip n ptr =>
    rw [receive]
    refine weak_sound hdropped fun hvalid => ?_
    refine .ok (onReaderSkipCompleted_inv ?_ ?_ n turn)
    · exact h.run_of_answer hinv hnone hops hvalid
    · exact not_isSome_iff_eq_none.mp fun hsome => nomatch hbuffer.mp hsome
  | read n ptr =>
    rw [receive]
    refine weak_sound hdropped fun hvalid => ?_
    have hvalid : ptr = s.loader.weakPtr := hvalid
    have hread : ReaderOp.read s.loader.weakPtr = (Delivery.read n ptr).op :=
      congrArg ReaderOp.read hvalid.symm
    obtain ⟨size, hsize⟩ := isSome_iff_exists.mp (hbuffer.mpr hread)
    exact onReaderReadCompleted_sound (h.run_of_answer hinv hnone hops hvalid) hsize n

lemma reader_sound (h : s.Inv) (i : Nat) (stream : StreamTurn) (turn : LoaderTurn) :
    Sound (s.step (.reader i stream turn)) := by
  rw [step]
  obtain herror | ⟨reader, delivery, hrun, hinv, hanswers⟩ :=
    InputStreamReader.run_spec h.reader i stream
  · exact .inl (by rw [herror]; rfl)
  · rw [hrun]
    cases delivery with
    | none =>
      have hops : reader.ops = s.reader.ops := hanswers
      refine .ok { h with
        reader := hinv
        ptrs := fun ptr hptr => h.ptrs ptr (hptr.imp id (Or.imp id (hops ▸ id)))
        one_token := by
          rw [hops]
          exact h.one_token
        stale := fun hover ptr hptr => h.stale hover ptr (hptr.imp id (Or.imp id (hops ▸ id)))
        buffer := by
          rw [hops]
          exact h.buffer }
    | some d =>
      obtain ⟨hops, hnone⟩ := hanswers
      exact receive_sound h hinv hops hnone turn

lemma Inv.run_of_armed (h : s.Inv) (harmed : s.loader.writableHandleWatcher = .armed) :
    LoaderSystem.Running { s with loader := { s.loader with writableHandleWatcher := .silent } } ∧
      s.loader.pendingBuffer = none := by
  have hheld : s.heldTokens = LoaderSystem.heldTokens
      { s with loader := { s.loader with writableHandleWatcher := .silent } } + 1 := by
    have hsilent : LoaderSystem.heldTokens
        { s with loader := { s.loader with writableHandleWatcher := .silent } } =
      (s.tasks.filterMap (LoaderTask.token? s.loader.weakPtr)).length +
        ((if s.wrapper.callback = some s.loader.weakPtr then 1 else 0) + 0 +
          (if s.Awaiting then 1 else 0)) := rfl
    rw [hsilent, heldTokens, otherTokens, if_pos harmed]
    omega
  have hone := h.one_token
  obtain ⟨hop, hbuffer⟩ := h.no_op_of_held (by omega)
  refine ⟨{ h.toBooks with
    no_token := ?_, no_op := hop, going_on := fun hover => h.unarmed hover harmed }, hbuffer⟩
  omega

lemma Inv.run_of_awaiting (h : s.Inv) (hawait : s.Awaiting) :
    LoaderSystem.Running { s with loader := { s.loader with
      gotClientCallback := true, writableHandleWatcher := .silent } } ∧
        s.loader.pendingBuffer = none := by
  have hgot : ¬ LoaderSystem.Awaiting { s with loader := { s.loader with
      gotClientCallback := true, writableHandleWatcher := .silent } } :=
    fun hnot => nomatch hnot.2.2.1
  have hheld : LoaderSystem.heldTokens { s with loader := { s.loader with
      gotClientCallback := true, writableHandleWatcher := .silent } } + 1 ≤ s.heldTokens := by
    have hsilent : LoaderSystem.heldTokens { s with loader := { s.loader with
        gotClientCallback := true, writableHandleWatcher := .silent } } =
      (s.tasks.filterMap (LoaderTask.token? s.loader.weakPtr)).length +
        ((if s.wrapper.callback = some s.loader.weakPtr then 1 else 0) + 0 + 0) :=
      congrArg (fun n => (s.tasks.filterMap (LoaderTask.token? s.loader.weakPtr)).length +
        ((if s.wrapper.callback = some s.loader.weakPtr then 1 else 0) + 0 + n)) (if_neg hgot)
    rw [hsilent, heldTokens, otherTokens, if_pos hawait]
    omega
  have hone := h.one_token
  obtain ⟨hop, hbuffer⟩ := h.no_op_of_held (by omega)
  refine ⟨{ h.toBooks with
    no_token := ?_, no_op := hop
    going_on := not_over_iff.mpr ⟨hawait.1, hawait.2.2.2⟩ }, hbuffer⟩
  omega

lemma Books.cancelOnJobThread (h : s.Books) : s.cancelOnJobThread.Books := by
  rw [LoaderSystem.cancelOnJobThread]
  split
  · exact h
  · exact { h with
      ptrs := fun ptr hptr => by
        obtain ⟨t, ht, heq⟩ | hcallback | hop := hptr
        · rcases mem_append.mp ht with hmem | hmem
          · exact h.ptrs ptr (.inl ⟨t, hmem, heq⟩)
          · obtain rfl := mem_singleton.mp hmem
            exact nomatch heq
        · exact nomatch hcallback
        · exact h.ptrs ptr (.inr (.inr hop)) }

lemma Books.deleted_inv (h : s.Books) : LoaderSystem.Inv { s.cleanUp with alive := false } := by
  have hbooks : LoaderSystem.Books { s.cleanUp with alive := false } := { h with
    ptrs := fun ptr hptr => le_succ_of_le (h.ptrs ptr hptr) }
  refine hbooks.inv_of_over (.inl rfl) (fun ptr hptr => ?_) nofun rfl
  exact Nat.ne_of_lt (Nat.lt_succ_of_le (h.ptrs ptr hptr))

lemma destroy_inv (h : s.Books) : s.destroy.Inv := by
  rw [destroy]
  split
  · have hreset : LoaderSystem.Books
        { s with loader := { s.loader with openCancelCallback := false } } := { h with }
    exact hreset.cancelOnJobThread.deleted_inv
  · exact h.deleted_inv

lemma create_running (hasHeaderClient : Bool) : (create hasHeaderClient).Running where
  reader := InputStreamReader.new_idle.inv.1
  ptrs := by
    rintro ptr (⟨t, ht, heq⟩ | hcallback | ⟨op, hmem, -⟩)
    · obtain rfl := mem_singleton.mp ht
      exact le_of_eq (some.inj heq).symm
    · exact nomatch hcallback
    · exact nomatch hmem
  log := final_nil
  total := rfl
  sizes := rfl
  body_length := fun _ _ _ hmem => nomatch hmem
  no_token := rfl
  no_op := rfl
  going_on := not_over_iff.mpr ⟨rfl, fun ⟨_, hmem, _⟩ => nomatch hmem⟩

lemma start_inv (hasHeaderClient : Bool) (header : RangeHeader) :
    (start hasHeaderClient header).Inv := by
  have hcreate := create_running hasHeaderClient
  rw [start]
  cases parseRange header with
  | none => exact requestComplete_inv hcreate.toBooks hcreate.not_ended _
  | some byteRange =>
    have hrange : LoaderSystem.Running { create hasHeaderClient with
        loader := { (create hasHeaderClient).loader with byteRange } } := { hcreate with }
    dsimp only
    split
    · exact hrange.post rfl rfl
    · exact continueWithRequestHeaders_inv hrange rfl _

/-- **Every step keeps the invariant**, and no assertion of the source fails. -/
theorem step_sound (h : s.Inv) (e : Event) : Sound (s.step e) := by
  cases e with
  | task i turn =>
    rw [step]
    cases hpick : pick s.tasks i with
    | none => exact .inl rfl
    | some picked => exact execute_sound h hpick turn
  | reader i stream turn => exact reader_sound h i stream turn
  | writable closed turn =>
    rw [step]
    split
    · rename_i harmed
      obtain ⟨hrun, hbuffer⟩ := h.run_of_armed harmed
      exact onDataPipeWritable_sound hrun hbuffer closed turn
    · exact .inl rfl
  | continueRequest turn =>
    rw [step]
    split
    · rename_i hawait
      obtain ⟨hrun, hbuffer⟩ := h.run_of_awaiting hawait
      exact readMore_sound hrun hbuffer turn
    · exact .inl rfl
  | cancel =>
    rw [step]
    split
    · rename_i hawait
      have hgot : LoaderSystem.Books
          { s with loader := { s.loader with gotClientCallback := true } } := { h.toBooks with }
      exact .ok (end_inv hgot hawait.2.2.2 (c := .canceled) trivial nofun)
    · exact .inl rfl
  | destroy =>
    rw [step]
    split
    · exact .ok (destroy_inv h.toBooks)
    · exact .inl rfl

/-! ### Every run -/

lemma end_last_of_final : ∀ {calls later earlier : List ClientCall} {c : ClientCall},
    EventLog.Final (fun _ : Unit => ClientCall.Ends) (fun _ _ => True) calls →
      calls = later ++ c :: earlier → c.Ends → later = []
  | _, [], _, _, _, _, _ => rfl
  | _, d :: later, earlier, c, h, heq, hc => by
    subst heq
    have hnot := (final_cons_iff.mp h).1 () trivial
    exact absurd ⟨c, mem_append_right later mem_cons_self, hc⟩ hnot

lemma Inv.endsOnce (h : s.Inv) : s.EndsOnce where
  one_end := h.log.length_filter_le_one (i := ()) fun c _ hc => ⟨of_decide_eq_true hc, trivial⟩
  end_last := fun _ _ _ => end_last_of_final h.log
  one_read := le_trans (length_filter_le _ _) h.reader.one_op
  sizes := h.sizes
  body_length := h.body_length
  asserted := by
    intro e hfails
    obtain herror | ⟨s', hs', _⟩ := step_sound h e
    · exact nomatch hfails.symm.trans herror
    · exact nomatch hfails.symm.trans hs'

/-- The invariant holds in every reachable state. -/
theorem inv_of_run {hasHeaderClient : Bool} {header : RangeHeader} {events : List Event}
    (h : events.foldlM step (start hasHeaderClient header) = .ok s) : s.Inv := by
  refine run_invariant (fun t e t' hI ht => ?_) (start_inv hasHeaderClient header) h
  obtain herror | ⟨t'', ht'', hI'⟩ := step_sound hI e
  · exact nomatch ht.symm.trans herror
  · exact Except.ok.inj (ht.symm.trans ht'') ▸ hI'

/-- **A request ends once**, in every order of replies, tasks and callbacks. -/
theorem ends_once {hasHeaderClient : Bool} {header : RangeHeader} {events : List Event}
    (h : events.foldlM step (start hasHeaderClient header) = .ok s) : s.EndsOnce :=
  (inv_of_run h).endsOnce

/-- A stream of three bytes is read in one piece. The client goes away when all is done. -/
def download : List Event :=
  [.task 1 {}, .task 1 {}, .task 1 {}, .continueRequest {},
    .reader 0 { bytesRead := .ofData [1, 2, 3] } {}, .reader 1 {} {}, .task 1 {},
    .reader 1 { readResult := false } {}, .reader 2 {} {}, .task 0 {}]

theorem ends_once_download :
    ∃ s, download.foldlM step (start false .absent) = .ok s ∧
      s.calls = [.onComplete OK 3 3, .onTransferSizeUpdated 3, .onReceiveResponse (-1)] ∧
      s.EndsOnce := by
  have hrun : download.foldlM step (start false .absent) = .ok _ := rfl
  exact ⟨_, hrun, rfl, ends_once hrun⟩

end LoaderSystem

end CefCore.NetService
