import CefCore.Foundations.Run
import CefCore.Foundations.TaskPool
import Mathlib.Algebra.Ring.Int.Defs

/-!
# The input stream reader

`InputStreamReader` runs the calls `Skip` and `Read` of an `InputStream` on a work thread and posts
their results to the thread that has asked for them. The stream answers a call at once, or later
through a callback. A callback has the id of its call, and is overlooked if another call is pending
by then.

The reader takes the callbacks of whoever uses it, so that the model is generic in their type. The
stream is arbitrary: it may be slow, fail, and run callbacks that it should have dropped. Tasks may
run in any order. The ids of callbacks are `int`s. They have no bound here, so that the model speaks of
readers with fewer than 2^31 calls.

## Main results

* `run_spec`: what a step can do.
-/

namespace CefCore.NetService

open TaskPool List Option Fallible Except Nat

def ERR_FAILED : Int := -2

def ERR_REQUEST_RANGE_NOT_SATISFIABLE : Int := -328

/-- Why a step does not return: it cannot happen now, or an assertion fails. -/
inductive LoaderStop where
  | impossible
  | dcheckFailed

def dcheck (c : Prop) [Decidable c] : Except LoaderStop Unit :=
  if c then .ok () else .error .dcheckFailed

/-- A value of `bytes_read`, with the bytes that are in the buffer then. -/
structure BytesRead where
  count : Int
  data : List UInt8
  length_data : data.length = count.toNat

def BytesRead.ofData (data : List UInt8) : BytesRead := ⟨data.length, data, rfl⟩

def BytesRead.eof : BytesRead := ⟨0, [], rfl⟩

/-- `net::ERR_FAILED` in place of a number. -/
def BytesRead.failed : BytesRead := ⟨ERR_FAILED, [], rfl⟩

/-- What the stream does in one task: its answers to the calls of `Skip`, its answer to a call of
`Read`, and the values with which it runs a callback. -/
structure StreamTurn where
  skips : List (Bool × Int) := []
  readResult : Bool := true
  bytesRead : BytesRead := .eof
  bytesSkipped : Int := 0

/-- An answer of the stream that the reader has taken: how many of the bytes asked for have been
skipped, or what has been read. -/
inductive StreamAnswer where
  | skipped (asked count : Int)
  | read (bytesRead : BytesRead)

variable {κ : Type}

/-- The tasks that the reader has posted and the callbacks that it has given to the stream. -/
inductive ReaderTask (κ : Type) where
  | skipOnWorkThread (skipBytes : Int) (callback : κ)
  | readOnWorkThread (destSize : Nat) (callback : κ)
  | skipToRequestedRange
  | skipCallback (id : Int)
  | readCallback (id : Int)
  | continueSkipCallback (id bytesSkipped : Int)
  | continueReadCallback (id : Int) (bytesRead : BytesRead)
  | runSkipCallback (bytesSkipped : Int) (callback : κ)
  | runReadCallback (bytesRead : BytesRead) (callback : κ)

/-- An operation of the reader, with the callback of who has asked for it. -/
inductive ReaderOp (κ : Type) where
  | skip (callback : κ)
  | read (callback : κ)

def ReaderTask.op? : ReaderTask κ → Option (ReaderOp κ)
  | .skipOnWorkThread _ k | .runSkipCallback _ k => some (.skip k)
  | .readOnWorkThread _ k | .runReadCallback _ k => some (.read k)
  | _ => none

/-- The id of the call that a callback belongs to, and whether this is a call of `Skip`. -/
def ReaderTask.call? : ReaderTask κ → Option (Int × Bool)
  | .skipCallback id | .continueSkipCallback id _ => some (id, true)
  | .readCallback id | .continueReadCallback id _ => some (id, false)
  | _ => none

/-- The task goes on with a pending operation if the id of its call is `pendingId`: with a skip or
with a read. -/
def ReaderTask.resumes? (pendingId : Int) : ReaderTask κ → Option Bool
  | .skipToRequestedRange => some true
  | t => t.call?.bind fun c => if c.1 = pendingId then some c.2 else none

/-- The operation is a call of `Skip`. -/
def ReaderOp.isSkip : ReaderOp κ → Bool
  | .skip _ => true
  | .read _ => false

/-- The result of an operation, on the thread that has asked for it. -/
inductive Delivery (κ : Type) where
  | skip (bytesSkipped : Int) (callback : κ)
  | read (bytesRead : BytesRead) (callback : κ)

def Delivery.op : Delivery κ → ReaderOp κ
  | .skip _ k => .skip k
  | .read _ k => .read k

/-- The members of `InputStreamReader`; then its surroundings: the tasks and callbacks that are
about, and the answers of the stream, newest first. -/
structure InputStreamReader (κ : Type) where
  bytesSkipped : Int
  bytesToSkip : Int
  pendingSkipCallback : Option κ
  pendingReadCallback : Option κ
  pendingCallbackId : Int
  nextCallbackId : Int
  tasks : List (ReaderTask κ)
  answers : List StreamAnswer

namespace InputStreamReader

def new : InputStreamReader κ where
  bytesSkipped := 0
  bytesToSkip := 0
  pendingSkipCallback := none
  pendingReadCallback := none
  pendingCallbackId := -1
  nextCallbackId := 0
  tasks := []
  answers := []

/-- A task is posted, or a callback is given away. -/
def post (t : ReaderTask κ) (r : InputStreamReader κ) : InputStreamReader κ :=
  { r with tasks := r.tasks ++ [t] }

def take (a : StreamAnswer) (r : InputStreamReader κ) : InputStreamReader κ :=
  { r with answers := a :: r.answers }

def skip (skipBytes : Int) (callback : κ) (r : InputStreamReader κ) : InputStreamReader κ :=
  r.post (.skipOnWorkThread skipBytes callback)

def read (destSize : Nat) (callback : κ) (r : InputStreamReader κ) : InputStreamReader κ :=
  r.post (.readOnWorkThread destSize callback)

def runSkipCallback (bytesSkipped : Int) (r : InputStreamReader κ) :
    Except LoaderStop (InputStreamReader κ) :=
  match r.pendingSkipCallback with
  | none => .error .dcheckFailed
  | some k =>
    let r := r.post (.runSkipCallback bytesSkipped k)
    .ok { r with
      pendingSkipCallback := none
      pendingCallbackId := -1
      bytesSkipped := -1
      bytesToSkip := -1 }

def runReadCallback (bytesRead : BytesRead) (r : InputStreamReader κ) :
    Except LoaderStop (InputStreamReader κ) :=
  match r.pendingReadCallback with
  | none => .error .dcheckFailed
  | some k =>
    let r := r.post (.runReadCallback bytesRead k)
    .ok { r with pendingReadCallback := none, pendingCallbackId := -1 }

/-- `InputStreamReader::SkipToRequestedRange`. The stream answers each call of `Skip` in the loop
with a result and a number of skipped bytes. -/
def skipToRequestedRange : List (Bool × Int) → InputStreamReader κ →
    Except LoaderStop (InputStreamReader κ)
  | [], _ => .error .impossible
  | (result, skipped) :: rest, r =>
    let id := r.nextCallbackId + 1
    let r := { r.post (.skipCallback id) with pendingCallbackId := id, nextCallbackId := id }
    -- Check if the callback will execute asynchronously.
    if result ∧ skipped = 0 then
      .ok r
    else if ¬ result ∨ skipped ≤ 0 then
      let r := r.take (.skipped r.bytesToSkip ERR_REQUEST_RANGE_NOT_SATISFIABLE)
      r.runSkipCallback ERR_REQUEST_RANGE_NOT_SATISFIABLE
    else
      let r := r.take (.skipped r.bytesToSkip skipped)
      let r : InputStreamReader κ := { r with bytesToSkip := r.bytesToSkip - skipped }
      if 0 < r.bytesToSkip then
        skipToRequestedRange rest r
      else
        -- All done, the requested number of bytes were skipped.
        r.runSkipCallback r.bytesSkipped

def skipOnWorkThread (skipBytes : Int) (callback : κ) (turn : StreamTurn)
    (r : InputStreamReader κ) : Except LoaderStop (InputStreamReader κ) := do
  -- No callback should currently be pending.
  dcheck (r.pendingCallbackId = -1)
  dcheck (r.pendingSkipCallback.isNone)
  let r := { r with pendingSkipCallback := some callback }
  if skipBytes ≤ 0 then
    r.runSkipCallback 0
  else
    skipToRequestedRange turn.skips { r with bytesSkipped := skipBytes, bytesToSkip := skipBytes }

def readOnWorkThread (destSize : Nat) (callback : κ) (turn : StreamTurn)
    (r : InputStreamReader κ) : Except LoaderStop (InputStreamReader κ) := do
  -- No callback should currently be pending.
  dcheck (r.pendingCallbackId = -1)
  dcheck (r.pendingReadCallback.isNone)
  let r := { r with pendingReadCallback := some callback }
  if destSize = 0 then
    r.runReadCallback .eof
  else
    let id := r.nextCallbackId + 1
    let r := { r.post (.readCallback id) with pendingCallbackId := id, nextCallbackId := id }
    -- Check if the callback will execute asynchronously.
    if turn.readResult ∧ turn.bytesRead.count = 0 then
      pure r
    else
      let bytesRead :=
        if turn.readResult ∨ turn.bytesRead.count ≤ 0 then turn.bytesRead else .failed
      (r.take (.read bytesRead)).runReadCallback bytesRead

def continueSkipCallbackOnWorkThread (id bytesSkipped : Int) (r : InputStreamReader κ) :
    Except LoaderStop (InputStreamReader κ) :=
  -- Check for out of order callbacks.
  if r.pendingCallbackId ≠ id then
    .ok r
  else
    let bytesToSkip :=
      if 0 < r.bytesToSkip ∧ 0 < bytesSkipped then r.bytesToSkip - bytesSkipped else r.bytesToSkip
    let r : InputStreamReader κ :=
      { r.take (.skipped r.bytesToSkip bytesSkipped) with bytesToSkip }
    if bytesSkipped ≤ 0 then
      r.runSkipCallback ERR_REQUEST_RANGE_NOT_SATISFIABLE
    else if 0 < r.bytesToSkip then
      -- Continue execution asynchronously.
      .ok (r.post .skipToRequestedRange)
    else
      -- All done, the requested number of bytes were skipped.
      r.runSkipCallback r.bytesSkipped

def continueReadCallbackOnWorkThread (id : Int) (bytesRead : BytesRead)
    (r : InputStreamReader κ) : Except LoaderStop (InputStreamReader κ) :=
  -- Check for out of order callbacks.
  if r.pendingCallbackId ≠ id then
    .ok r
  else
    (r.take (.read bytesRead)).runReadCallback bytesRead

/-- A task or callback is run, where `turn` is what the stream does. The result of an operation
leaves the reader. -/
def execute (t : ReaderTask κ) (turn : StreamTurn) (r : InputStreamReader κ) :
    Except LoaderStop (InputStreamReader κ × Option (Delivery κ)) :=
  match t with
  | .skipOnWorkThread n k => do pure (← r.skipOnWorkThread n k turn, none)
  | .readOnWorkThread size k => do pure (← r.readOnWorkThread size k turn, none)
  | .skipToRequestedRange => do pure (← skipToRequestedRange turn.skips r, none)
  | .skipCallback id => .ok (r.post (.continueSkipCallback id turn.bytesSkipped), none)
  | .readCallback id => .ok (r.post (.continueReadCallback id turn.bytesRead), none)
  | .continueSkipCallback id n => do pure (← r.continueSkipCallbackOnWorkThread id n, none)
  | .continueReadCallback id n => do pure (← r.continueReadCallbackOnWorkThread id n, none)
  | .runSkipCallback n k => .ok (r, some (.skip n k))
  | .runReadCallback n k => .ok (r, some (.read n k))

/-- The task or callback at a place of the pool is run. -/
def run (i : Nat) (turn : StreamTurn) (r : InputStreamReader κ) :
    Except LoaderStop (InputStreamReader κ × Option (Delivery κ)) :=
  match pick r.tasks i with
  | none => .error .impossible
  | some (t, rest) => execute t turn { r with tasks := rest }

/-! ### Operations -/

/-- The operation whose callback the reader holds. -/
def pendingOps (r : InputStreamReader κ) : List (ReaderOp κ) :=
  (r.pendingSkipCallback.map .skip).toList ++ (r.pendingReadCallback.map .read).toList

def ops (r : InputStreamReader κ) : List (ReaderOp κ) :=
  r.tasks.filterMap ReaderTask.op? ++ r.pendingOps

def resumers (r : InputStreamReader κ) : List Bool :=
  r.tasks.filterMap (ReaderTask.resumes? r.pendingCallbackId)

/-- The calls whose callbacks are about have ids up to `next`. -/
def IdsGiven (next : Int) (tasks : List (ReaderTask κ)) : Prop :=
  0 ≤ next ∧ ∀ t ∈ tasks, ∀ c ∈ t.call?, 1 ≤ c.1 ∧ c.1 ≤ next

/-- The invariant, while one operation at a time is asked for. The pending operation is gone on with
by at most one task or callback, and this is one for an operation of its kind. -/
structure Inv (r : InputStreamReader κ) : Prop where
  one_op : r.ops.length ≤ 1
  idle : r.pendingOps = [] → r.pendingCallbackId = -1
  ids : IdsGiven r.nextCallbackId r.tasks
  one_resumer : r.resumers.length ≤ 1
  resumed : ∀ skips ∈ r.resumers,
    if skips then r.pendingSkipCallback.isSome else r.pendingReadCallback.isSome

/-- The reader works on the operation `op`: it holds its callback, nothing else is asked for, and
nothing is about that would go on with it. -/
structure Working (r : InputStreamReader κ) (op : ReaderOp κ) : Prop where
  pending : match op with
    | .skip k => r.pendingSkipCallback = some k ∧ r.pendingReadCallback = none
    | .read k => r.pendingSkipCallback = none ∧ r.pendingReadCallback = some k
  tasks_ops : r.tasks.filterMap ReaderTask.op? = []
  ids : IdsGiven r.nextCallbackId r.tasks
  no_range : .skipToRequestedRange ∉ r.tasks

variable {r : InputStreamReader κ}

variable {k : κ} {op : ReaderOp κ} {r' : InputStreamReader κ} {t : ReaderTask κ}

lemma resumes?_eq_none {pendingId : Int} (hrange : t ≠ .skipToRequestedRange)
    (hcall : ∀ c ∈ t.call?, c.1 ≠ pendingId) : t.resumes? pendingId = none := by
  cases t with
  | skipToRequestedRange => exact absurd rfl hrange
  | skipOnWorkThread n k => rfl
  | readOnWorkThread size k => rfl
  | runSkipCallback n k => rfl
  | runReadCallback n k => rfl
  | skipCallback id => simpa [ReaderTask.resumes?, ReaderTask.call?] using hcall
  | readCallback id => simpa [ReaderTask.resumes?, ReaderTask.call?] using hcall
  | continueSkipCallback id n => simpa [ReaderTask.resumes?, ReaderTask.call?] using hcall
  | continueReadCallback id n => simpa [ReaderTask.resumes?, ReaderTask.call?] using hcall

lemma Working.resumers_eq_nil (h : r.Working op) {pendingId : Int}
    (hid : pendingId < 1 ∨ r.nextCallbackId < pendingId) :
    r.tasks.filterMap (ReaderTask.resumes? pendingId) = [] := by
  refine filterMap_eq_nil_iff.mpr fun t ht => ?_
  refine resumes?_eq_none (fun heq => h.no_range (heq ▸ ht)) fun c hc => ?_
  have hgiven := h.ids.2 t ht c hc
  omega

lemma IdsGiven.append {tasks : List (ReaderTask κ)} {next next' : Int}
    (h : IdsGiven next tasks) (hle : next ≤ next') (ht : ∀ c ∈ t.call?, 1 ≤ c.1 ∧ c.1 ≤ next') :
    IdsGiven next' (tasks ++ [t]) := by
  refine ⟨Int.le_trans h.1 hle, fun t' ht' c hc => ?_⟩
  rw [mem_append, mem_singleton] at ht'
  rcases ht' with hmem | heq
  · have hgiven := h.2 t' hmem c hc
    omega
  · rw [heq] at hc
    exact ht c hc

lemma Working.done (h : r.Working op) (ht : t.op? = some op)
    (htasks : r'.tasks = r.tasks ++ [t]) (hpending : r'.pendingOps = [])
    (hid : r'.pendingCallbackId = -1) (hnext : r'.nextCallbackId = r.nextCallbackId) :
    r'.Inv ∧ r'.ops = [op] := by
  have hcall : t.call? = none := by
    cases t <;> first | rfl | exact nomatch ht
  have hresumes : t.resumes? (-1) = none := by
    cases t <;> first | rfl | exact nomatch ht
  have hops : r'.ops = [op] := by
    rw [ops, hpending, htasks, filterMap_append, h.tasks_ops, filterMap_cons_some ht]
    rfl
  have hresumers : r'.resumers = [] := by
    rw [resumers, hid, htasks, filterMap_append, h.resumers_eq_nil (.inl (by decide)),
      filterMap_cons_none hresumes]
    rfl
  refine ⟨{
    one_op := by rw [hops]; exact le_refl 1
    idle := fun _ => hid
    ids := ?_
    one_resumer := by rw [hresumers]; exact zero_le 1
    resumed := by rw [hresumers]; exact fun _ hmem => nomatch hmem }, hops⟩
  rw [htasks, hnext]
  refine h.ids.append (Int.le_refl _) ?_
  rw [hcall]
  exact fun c hc => nomatch hc

lemma runSkipCallback_spec (h : r.Working (.skip k)) (n : Int) :
    ∃ r', r.runSkipCallback n = .ok r' ∧ r'.Inv ∧ r'.ops = [.skip k] := by
  obtain ⟨hskip, hread⟩ := h.pending
  refine ⟨_, by rw [runSkipCallback, hskip], ?_⟩
  refine h.done (t := .runSkipCallback n k) rfl rfl ?_ rfl rfl
  simp [pendingOps, post, hread]

lemma runReadCallback_spec (h : r.Working (.read k)) (n : BytesRead) :
    ∃ r', r.runReadCallback n = .ok r' ∧ r'.Inv ∧ r'.ops = [.read k] := by
  obtain ⟨hskip, hread⟩ := h.pending
  refine ⟨_, by rw [runReadCallback, hread], ?_⟩
  refine h.done (t := .runReadCallback n k) rfl rfl ?_ rfl rfl
  simp [pendingOps, post, hskip]

lemma Working.pendingOps_eq (h : r.Working op) : r.pendingOps = [op] := by
  have hpending := h.pending
  cases op with
  | skip k => simp [pendingOps, hpending.1, hpending.2]
  | read k => simp [pendingOps, hpending.1, hpending.2]

lemma Working.wait (h : r.Working op) (ht : t.op? = none) (htasks : r'.tasks = r.tasks ++ [t])
    (hpending : r'.pendingSkipCallback = r.pendingSkipCallback ∧
      r'.pendingReadCallback = r.pendingReadCallback)
    (hresumes : t.resumes? r'.pendingCallbackId = some op.isSkip)
    (hnone : r.tasks.filterMap (ReaderTask.resumes? r'.pendingCallbackId) = [])
    (hids : IdsGiven r'.nextCallbackId r'.tasks) : r'.Inv ∧ r'.ops = [op] := by
  have hsame : r'.pendingOps = r.pendingOps := by
    rw [pendingOps, pendingOps, hpending.1, hpending.2]
  have hops : r'.ops = [op] := by
    rw [ops, hsame, h.pendingOps_eq, htasks, filterMap_append, h.tasks_ops, filterMap_cons_none ht]
    rfl
  have hresumers : r'.resumers = [op.isSkip] := by
    rw [resumers, htasks, filterMap_append, hnone, filterMap_cons_some hresumes]
    rfl
  refine ⟨{
    one_op := by rw [hops]; exact le_refl 1
    idle := fun hnot => ?_
    ids := hids
    one_resumer := by rw [hresumers]; exact le_refl 1
    resumed := ?_ }, hops⟩
  · rw [hsame, h.pendingOps_eq] at hnot
    exact nomatch hnot
  · intro skips hmem
    rw [hresumers, mem_singleton] at hmem
    have hheld := h.pending
    cases op with
    | skip k => simp [hmem, ReaderOp.isSkip, hpending.1, hheld.1]
    | read k => simp [hmem, ReaderOp.isSkip, hpending.2, hheld.2]

lemma Working.call (h : r.Working op) {skips : Bool}
    (ht : t.call? = some (r.nextCallbackId + 1, skips)) (htasks : r'.tasks = r.tasks ++ [t])
    (hpending : r'.pendingSkipCallback = r.pendingSkipCallback ∧
      r'.pendingReadCallback = r.pendingReadCallback)
    (hnext : r'.nextCallbackId = r.nextCallbackId + 1) : r'.Working op := by
  have hop : t.op? = none := by
    cases t <;> first | rfl | exact nomatch ht
  have hrange : t ≠ .skipToRequestedRange := fun heq => nomatch heq ▸ ht
  exact {
    pending := by
      rw [hpending.1, hpending.2]
      exact h.pending
    tasks_ops := by
      rw [htasks, filterMap_append, h.tasks_ops, filterMap_cons_none hop]
      rfl
    ids := by
      have hpos := h.ids.1
      rw [htasks, hnext]
      refine h.ids.append (by omega) fun c hc => ?_
      obtain rfl := some.inj (ht.symm.trans hc)
      exact ⟨by dsimp only; omega, Int.le_refl _⟩
    no_range := by
      rw [htasks, mem_append, mem_singleton, not_or]
      exact ⟨h.no_range, fun heq => hrange heq.symm⟩ }

lemma Working.take (h : r.Working op) (a : StreamAnswer) :
    (r.take a).Working op := { h with }

lemma Working.skipped (h : r.Working op) {n : Int} :
    InputStreamReader.Working { r with bytesToSkip := n } op := { h with }

/-- **`SkipToRequestedRange`** ends with a result, or waits for the stream.

**Proof sketch.** Induction on the answers of the stream, for any reader that works on the skip.
Each call of `Skip` gets a new id, so that the callbacks of earlier calls do not count. -/
lemma skipToRequestedRange_spec : ∀ (skips : List (Bool × Int)) {r : InputStreamReader κ},
    r.Working (.skip k) → skipToRequestedRange skips r = .error .impossible ∨
      ∃ r', skipToRequestedRange skips r = .ok r' ∧ r'.Inv ∧ r'.ops = [.skip k]
  | [], _, _ => .inl rfl
  | (result, skipped) :: rest, r, h => by
    simp only [skipToRequestedRange]
    have hcalled : InputStreamReader.Working { r.post (.skipCallback (r.nextCallbackId + 1)) with
        pendingCallbackId := r.nextCallbackId + 1, nextCallbackId := r.nextCallbackId + 1 }
        (.skip k) := h.call rfl rfl ⟨rfl, rfl⟩ rfl
    split
    · refine .inr ⟨_, rfl, h.wait rfl rfl ⟨rfl, rfl⟩ ?_ (h.resumers_eq_nil (.inr ?_)) hcalled.ids⟩
      · simp [ReaderTask.resumes?, ReaderTask.call?, ReaderOp.isSkip]
      · exact Int.lt_succ _
    · split
      · exact .inr (runSkipCallback_spec (hcalled.take _) _)
      · split
        · exact skipToRequestedRange_spec rest (hcalled.take _).skipped
        · exact .inr (runSkipCallback_spec (hcalled.take _).skipped _)

structure Idle (r : InputStreamReader κ) : Prop where
  pending : r.pendingSkipCallback = none ∧ r.pendingReadCallback = none
  id : r.pendingCallbackId = -1
  tasks_ops : r.tasks.filterMap ReaderTask.op? = []
  ids : IdsGiven r.nextCallbackId r.tasks
  no_range : .skipToRequestedRange ∉ r.tasks

lemma Idle.work_skip (h : r.Idle) (k : κ) :
    InputStreamReader.Working { r with pendingSkipCallback := some k } (.skip k) :=
  { h with pending := ⟨rfl, h.pending.2⟩ }

lemma Idle.work_read (h : r.Idle) (k : κ) :
    InputStreamReader.Working { r with pendingReadCallback := some k } (.read k) :=
  { h with pending := ⟨h.pending.1, rfl⟩ }

lemma skipOnWorkThread_spec (h : r.Idle) (n : Int) (k : κ) (turn : StreamTurn) :
    r.skipOnWorkThread n k turn = .error .impossible ∨
      ∃ r', r.skipOnWorkThread n k turn = .ok r' ∧ r'.Inv ∧ r'.ops = [.skip k] := by
  have hwork := h.work_skip k
  rw [skipOnWorkThread, dcheck, if_pos h.id, dcheck, if_pos (by rw [h.pending.1]; rfl)]
  simp only [ok_bind]
  split
  · exact .inr (runSkipCallback_spec hwork 0)
  · exact skipToRequestedRange_spec turn.skips { hwork with }

lemma readOnWorkThread_spec (h : r.Idle) (size : Nat) (k : κ) (turn : StreamTurn) :
    ∃ r', r.readOnWorkThread size k turn = .ok r' ∧ r'.Inv ∧ r'.ops = [.read k] := by
  have hwork := h.work_read k
  rw [readOnWorkThread, dcheck, if_pos h.id, dcheck, if_pos (by rw [h.pending.2]; rfl)]
  simp only [ok_bind]
  split
  · exact runReadCallback_spec hwork .eof
  · have hcalled : InputStreamReader.Working { InputStreamReader.post
        (.readCallback (r.nextCallbackId + 1)) { r with pendingReadCallback := some k } with
          pendingCallbackId := r.nextCallbackId + 1, nextCallbackId := r.nextCallbackId + 1 }
        (.read k) := hwork.call rfl rfl ⟨rfl, rfl⟩ rfl
    split
    · refine ⟨_, rfl,
        hwork.wait rfl rfl ⟨rfl, rfl⟩ ?_ (hwork.resumers_eq_nil (.inr ?_)) hcalled.ids⟩
      · simp [ReaderTask.resumes?, ReaderTask.call?, ReaderOp.isSkip]
      · exact Int.lt_succ _
    · exact runReadCallback_spec (hcalled.take _) _

lemma continueSkipCallback_spec (h : r.Working (.skip k)) (hnone : r.resumers = [])
    (n : Int) : ∃ r', r.continueSkipCallbackOnWorkThread r.pendingCallbackId n = .ok r' ∧ r'.Inv ∧
      r'.ops = [.skip k] := by
  rw [continueSkipCallbackOnWorkThread, if_neg (not_not.mpr rfl)]
  dsimp only
  generalize (if 0 < r.bytesToSkip ∧ 0 < n then r.bytesToSkip - n else r.bytesToSkip) = left
  split
  · exact runSkipCallback_spec (h.take _).skipped _
  · split
    · exact ⟨_, rfl, (h.take _).skipped.wait (t := .skipToRequestedRange) rfl rfl ⟨rfl, rfl⟩ rfl
        hnone (h.ids.append (Int.le_refl _) fun c hc => nomatch hc)⟩
    · exact runSkipCallback_spec (h.take _).skipped _

lemma continueReadCallback_spec (h : r.Working (.read k)) (n : BytesRead) :
    ∃ r', r.continueReadCallbackOnWorkThread r.pendingCallbackId n = .ok r' ∧ r'.Inv ∧
      r'.ops = [.read k] := by
  rw [continueReadCallbackOnWorkThread, if_neg (not_not.mpr rfl)]
  exact runReadCallback_spec (h.take _) n

/-! ### Running a task -/

section Pick

variable {i : Nat} {t : ReaderTask κ} {rest : List (ReaderTask κ)}

lemma Inv.tasks_ops_le (h : r.Inv) : (r.tasks.filterMap ReaderTask.op?).length ≤ 1 := by
  have hone := h.one_op
  rw [ops, length_append] at hone
  omega

lemma IdsGiven.of_pick {next : Int} (h : IdsGiven next r.tasks)
    (hpick : pick r.tasks i = some (t, rest)) : IdsGiven next rest :=
  ⟨h.1, fun t' ht' => h.2 t' (subset_of_pick hpick ht')⟩

lemma Inv.no_range (h : r.Inv) (hnone : r.pendingOps = []) : .skipToRequestedRange ∉ r.tasks := by
  intro hmem
  have hresumer : true ∈ r.resumers := mem_filterMap.mpr ⟨_, hmem, rfl⟩
  have hheld := h.resumed true hresumer
  obtain ⟨k, hk⟩ := isSome_iff_exists.mp hheld
  simp [pendingOps, hk] at hnone

lemma Inv.idle_of_pick (h : r.Inv) (hpick : pick r.tasks i = some (t, rest)) {op : ReaderOp κ}
    (ht : t.op? = some op) : r.ops = [op] ∧ InputStreamReader.Idle { r with tasks := rest } := by
  obtain ⟨htasks, hrest⟩ := carried_of_pick hpick ht h.tasks_ops_le
  have hnone : r.pendingOps = [] := by
    have hone := h.one_op
    rw [ops, htasks, length_append, length_singleton] at hone
    exact length_eq_zero_iff.mp (by omega)
  refine ⟨by rw [ops, htasks, hnone]; rfl, ?_⟩
  exact {
    pending := by
      obtain ⟨hskip, hread⟩ := append_eq_nil_iff.mp hnone
      rw [toList_eq_nil_iff, map_eq_none_iff] at hskip hread
      exact ⟨hskip, hread⟩
    id := h.idle hnone
    tasks_ops := hrest
    ids := h.ids.of_pick hpick
    no_range := fun hmem => h.no_range hnone (subset_of_pick hpick hmem) }

lemma Inv.working_of_pick (h : r.Inv) (hpick : pick r.tasks i = some (t, rest)) {skips : Bool}
    (ht : t.resumes? r.pendingCallbackId = some skips) :
    ∃ op, op.isSkip = skips ∧ r.ops = [op] ∧
      InputStreamReader.Working { r with tasks := rest } op ∧
      InputStreamReader.resumers { r with tasks := rest } = [] := by
  obtain ⟨hresumers, hrest⟩ := carried_of_pick hpick ht h.one_resumer
  have hheld := h.resumed skips (by rw [resumers, hresumers]; exact mem_cons_self)
  have hone := h.one_op
  obtain ⟨op, hskips, hpending, hops⟩ : ∃ op, op.isSkip = skips ∧ (match op with
      | .skip k => r.pendingSkipCallback = some k ∧ r.pendingReadCallback = none
      | .read k => r.pendingSkipCallback = none ∧ r.pendingReadCallback = some k) ∧
        r.pendingOps = [op] := by
    rw [ops, length_append] at hone
    cases skips with
    | true =>
      obtain ⟨k, hk⟩ := isSome_iff_exists.mp hheld
      have hread : r.pendingReadCallback = none := by
        by_contra hnot
        obtain ⟨k', hk'⟩ := ne_none_iff_exists'.mp hnot
        simp [pendingOps, hk, hk'] at hone
      exact ⟨.skip k, rfl, ⟨hk, hread⟩, by simp [pendingOps, hk, hread]⟩
    | false =>
      obtain ⟨k, hk⟩ := isSome_iff_exists.mp hheld
      have hskip : r.pendingSkipCallback = none := by
        by_contra hnot
        obtain ⟨k', hk'⟩ := ne_none_iff_exists'.mp hnot
        simp [pendingOps, hk, hk'] at hone
      exact ⟨.read k, rfl, ⟨hskip, hk⟩, by simp [pendingOps, hk, hskip]⟩
  have hnil : r.tasks.filterMap ReaderTask.op? = [] := by
    rw [ops, hops, length_append, length_singleton] at hone
    exact length_eq_zero_iff.mp (by omega)
  refine ⟨op, hskips, by rw [ops, hnil, hops]; rfl, ?_, hrest⟩
  exact {
    pending := hpending
    tasks_ops := filterMap_eq_nil_iff.mpr fun t' ht' =>
      filterMap_eq_nil_iff.mp hnil t' (subset_of_pick hpick ht')
    ids := h.ids.of_pick hpick
    no_range := fun hmem => by
      have hnot := filterMap_eq_nil_iff.mp hrest _ hmem
      exact nomatch hnot }

lemma Inv.drop (h : r.Inv) (hpick : pick r.tasks i = some (t, rest)) (ht : t.op? = none) :
    InputStreamReader.Inv { r with tasks := rest } ∧
      InputStreamReader.ops { r with tasks := rest } = r.ops := by
  have hops : InputStreamReader.ops { r with tasks := rest } = r.ops :=
    congrArg (· ++ r.pendingOps) (carried_of_pick_none hpick ht h.tasks_ops_le)
  refine ⟨{
    one_op := hops ▸ h.one_op
    idle := h.idle
    ids := h.ids.of_pick hpick
    one_resumer := le_trans (carried_rest_length_le hpick) h.one_resumer
    resumed := fun skips hmem => h.resumed skips ?_ }, hops⟩
  exact (filterMap_subset _ (subset_of_pick hpick)) hmem

lemma Inv.replace {u : ReaderTask κ} (h : r.Inv) (hpick : pick r.tasks i = some (t, rest))
    (hops : t.op? = none ∧ u.op? = none) (hcall : u.call? = t.call?)
    (hresumes : u.resumes? r.pendingCallbackId = t.resumes? r.pendingCallbackId) :
    InputStreamReader.Inv { r with tasks := rest ++ [u] } ∧
      InputStreamReader.ops { r with tasks := rest ++ [u] } = r.ops := by
  have hsame : InputStreamReader.ops { r with tasks := rest ++ [u] } = r.ops := by
    refine congrArg (· ++ r.pendingOps) ?_
    rw [filterMap_append, filterMap_cons_none hops.2,
      carried_of_pick_none hpick hops.1 h.tasks_ops_le]
    exact append_nil _
  have hperm := carried_replace hpick hresumes
  refine ⟨{
    one_op := hsame ▸ h.one_op
    idle := h.idle
    ids := (h.ids.of_pick hpick).append (Int.le_refl _) ?_
    one_resumer := hperm.length_eq ▸ h.one_resumer
    resumed := fun skips hmem => h.resumed skips (hperm.mem_iff.mp hmem) }, hsame⟩
  rw [hcall]
  exact h.ids.2 t (mem_of_pick hpick)

def Answers (r r' : InputStreamReader κ) : Option (Delivery κ) → Prop
  | none => r'.ops = r.ops
  | some d => r.ops = [d.op] ∧ r'.ops = []

lemma Idle.inv (h : r.Idle) : r.Inv ∧ r.ops = [] := by
  have hpending : r.pendingOps = [] := by
    rw [pendingOps, h.pending.1, h.pending.2]
    rfl
  have hops : r.ops = [] := by
    rw [ops, h.tasks_ops, hpending]
    rfl
  have hresumers : r.resumers = [] := by
    rw [resumers, h.id]
    refine filterMap_eq_nil_iff.mpr fun t ht => ?_
    refine resumes?_eq_none (fun heq => h.no_range (heq ▸ ht)) fun c hc => ?_
    have hgiven := h.ids.2 t ht c hc
    omega
  exact ⟨{
    one_op := by rw [hops]; exact zero_le 1
    idle := fun _ => h.id
    ids := h.ids
    one_resumer := by rw [hresumers]; exact zero_le 1
    resumed := by rw [hresumers]; exact fun _ hmem => nomatch hmem }, hops⟩

lemma Inv.ask (h : r.Inv) (hnone : r.ops = []) {t : ReaderTask κ} {op : ReaderOp κ}
    (ht : t.op? = some op) : (r.post t).Inv ∧ (r.post t).ops = [op] := by
  obtain ⟨htasks, hpending⟩ := append_eq_nil_iff.mp hnone
  have hcall : t.call? = none := by
    cases t <;> first | rfl | exact nomatch ht
  have hresumes : t.resumes? r.pendingCallbackId = none := by
    cases t <;> first | rfl | exact nomatch ht
  have hops : (r.post t).ops = [op] := by
    have happend : (r.post t).ops =
        (r.tasks ++ [t]).filterMap ReaderTask.op? ++ r.pendingOps := rfl
    rw [happend, filterMap_append, htasks, hpending, filterMap_cons_some ht]
    rfl
  have hresumers : (r.post t).resumers = r.resumers := by
    have happend : (r.post t).resumers =
        (r.tasks ++ [t]).filterMap (ReaderTask.resumes? r.pendingCallbackId) := rfl
    rw [happend, filterMap_append, filterMap_cons_none hresumes]
    exact append_nil _
  exact ⟨{
    one_op := by rw [hops]; exact le_refl 1
    idle := fun _ => h.idle hpending
    ids := h.ids.append (Int.le_refl _) fun c hc => nomatch hcall.symm.trans hc
    one_resumer := by rw [hresumers]; exact h.one_resumer
    resumed := by rw [hresumers]; exact h.resumed }, hops⟩

lemma new_idle : (new : InputStreamReader κ).Idle where
  pending := ⟨rfl, rfl⟩
  id := rfl
  tasks_ops := rfl
  ids := ⟨Int.le_refl 0, fun _ hmem => nomatch hmem⟩
  no_range := nofun

/-- **A task of the reader** answers an operation, or leaves them all as they are; and no assertion
fails.

**Proof sketch.** A task that carries the operation is the only one, so the reader is idle without
it. A callback goes on with the operation or is overlooked. -/
theorem run_spec (h : r.Inv) (i : Nat) (turn : StreamTurn) :
    r.run i turn = .error .impossible ∨
      ∃ r' d, r.run i turn = .ok (r', d) ∧ r'.Inv ∧ r.Answers r' d := by
  rw [run]
  cases hpick : pick r.tasks i with
  | none => exact .inl rfl
  | some picked =>
    obtain ⟨t, rest⟩ := picked
    dsimp only
    cases t with
    | skipOnWorkThread n k =>
      obtain ⟨hops, hidle⟩ := h.idle_of_pick hpick rfl
      rw [execute]
      obtain herror | ⟨r', hr', hinv, hops'⟩ := skipOnWorkThread_spec hidle n k turn
      · exact .inl (by rw [herror]; rfl)
      · exact .inr ⟨r', none, by rw [hr']; rfl, hinv, hops'.trans hops.symm⟩
    | readOnWorkThread size k =>
      obtain ⟨hops, hidle⟩ := h.idle_of_pick hpick rfl
      rw [execute]
      obtain ⟨r', hr', hinv, hops'⟩ := readOnWorkThread_spec hidle size k turn
      exact .inr ⟨r', none, by rw [hr']; rfl, hinv, hops'.trans hops.symm⟩
    | skipToRequestedRange =>
      obtain ⟨op, hskips, hops, hwork, _⟩ := h.working_of_pick hpick rfl
      cases op with
      | read k => exact nomatch hskips
      | skip k =>
        rw [execute]
        obtain herror | ⟨r', hr', hinv, hops'⟩ := skipToRequestedRange_spec turn.skips hwork
        · exact .inl (by rw [herror]; rfl)
        · exact .inr ⟨r', none, by rw [hr']; rfl, hinv, hops'.trans hops.symm⟩
    | skipCallback id =>
      obtain ⟨hinv, hops⟩ := h.replace (u := .continueSkipCallback id turn.bytesSkipped) hpick
        ⟨rfl, rfl⟩ rfl rfl
      exact .inr ⟨_, none, rfl, hinv, hops⟩
    | readCallback id =>
      obtain ⟨hinv, hops⟩ := h.replace (u := .continueReadCallback id turn.bytesRead) hpick
        ⟨rfl, rfl⟩ rfl rfl
      exact .inr ⟨_, none, rfl, hinv, hops⟩
    | continueSkipCallback id n =>
      rw [execute]
      by_cases hid : r.pendingCallbackId = id
      · obtain ⟨op, hskips, hops, hwork, hnone⟩ := h.working_of_pick hpick
          (show _ = some true by simp [ReaderTask.resumes?, ReaderTask.call?, hid])
        cases op with
        | read k => exact nomatch hskips
        | skip k =>
          obtain ⟨r', hr', hinv, hops'⟩ := continueSkipCallback_spec hwork hnone n
          exact .inr ⟨r', none, by rw [← hid, hr']; rfl, hinv, hops'.trans hops.symm⟩
      · obtain ⟨hinv, hops⟩ := h.drop hpick rfl
        refine .inr ⟨_, none, ?_, hinv, hops⟩
        rw [continueSkipCallbackOnWorkThread, if_pos hid]
        rfl
    | continueReadCallback id n =>
      rw [execute]
      by_cases hid : r.pendingCallbackId = id
      · obtain ⟨op, hskips, hops, hwork, hnone⟩ := h.working_of_pick hpick
          (show _ = some false by simp [ReaderTask.resumes?, ReaderTask.call?, hid])
        cases op with
        | skip k => exact nomatch hskips
        | read k =>
          obtain ⟨r', hr', hinv, hops'⟩ := continueReadCallback_spec hwork n
          exact .inr ⟨r', none, by rw [← hid, hr']; rfl, hinv, hops'.trans hops.symm⟩
      · obtain ⟨hinv, hops⟩ := h.drop hpick rfl
        refine .inr ⟨_, none, ?_, hinv, hops⟩
        rw [continueReadCallbackOnWorkThread, if_pos hid]
        rfl
    | runSkipCallback n k =>
      obtain ⟨hops, hidle⟩ := h.idle_of_pick hpick rfl
      exact .inr ⟨_, some (.skip n k), rfl, hidle.inv.1, hops, hidle.inv.2⟩
    | runReadCallback n k =>
      obtain ⟨hops, hidle⟩ := h.idle_of_pick hpick rfl
      exact .inr ⟨_, some (.read n k), rfl, hidle.inv.1, hops, hidle.inv.2⟩

end Pick

/-! ### What a task does -/

section Runs

variable {r r' : InputStreamReader κ} {i : Nat} {turn : StreamTurn} {d : Option (Delivery κ)}

inductive Executes (turn : StreamTurn) (r r' : InputStreamReader κ) :
    ReaderTask κ → Option (Delivery κ) → Prop
  | skipOnWorkThread (n : Int) (k : κ) (hrun : r.skipOnWorkThread n k turn = .ok r') :
    Executes turn r r' (.skipOnWorkThread n k) none
  | readOnWorkThread (size : Nat) (k : κ) (hrun : r.readOnWorkThread size k turn = .ok r') :
    Executes turn r r' (.readOnWorkThread size k) none
  | skipToRequestedRange (hrun : InputStreamReader.skipToRequestedRange turn.skips r = .ok r') :
    Executes turn r r' .skipToRequestedRange none
  | skipCallback (id : Int) (hposted : r' = r.post (.continueSkipCallback id turn.bytesSkipped)) :
    Executes turn r r' (.skipCallback id) none
  | readCallback (id : Int) (hposted : r' = r.post (.continueReadCallback id turn.bytesRead)) :
    Executes turn r r' (.readCallback id) none
  | continueSkipCallback (id n : Int) (hrun : r.continueSkipCallbackOnWorkThread id n = .ok r') :
    Executes turn r r' (.continueSkipCallback id n) none
  | continueReadCallback (id : Int) (n : BytesRead)
    (hrun : r.continueReadCallbackOnWorkThread id n = .ok r') :
    Executes turn r r' (.continueReadCallback id n) none
  | runSkipCallback (n : Int) (k : κ) (hsame : r' = r) :
    Executes turn r r' (.runSkipCallback n k) (some (.skip n k))
  | runReadCallback (n : BytesRead) (k : κ) (hsame : r' = r) :
    Executes turn r r' (.runReadCallback n k) (some (.read n k))

lemma eq_ok_of_silent {x : Except LoaderStop (InputStreamReader κ)}
    (h : (do pure (← x, none)) = Except.ok (r', d)) : x = .ok r' ∧ d = none := by
  obtain ⟨r₁, hr₁, heq⟩ := bind_eq_ok_iff.mp h
  cases heq
  exact ⟨hr₁, rfl⟩

variable {t : ReaderTask κ}

lemma executes_of_execute (h : execute t turn r = .ok (r', d)) : Executes turn r r' t d := by
  cases t with
  | skipOnWorkThread n k =>
    obtain ⟨hrun, rfl⟩ := eq_ok_of_silent h
    exact .skipOnWorkThread n k hrun
  | readOnWorkThread size k =>
    obtain ⟨hrun, rfl⟩ := eq_ok_of_silent h
    exact .readOnWorkThread size k hrun
  | skipToRequestedRange =>
    obtain ⟨hrun, rfl⟩ := eq_ok_of_silent h
    exact .skipToRequestedRange hrun
  | skipCallback id =>
    obtain ⟨hposted, rfl⟩ := Prod.mk.inj (ok.inj h)
    exact .skipCallback id hposted.symm
  | readCallback id =>
    obtain ⟨hposted, rfl⟩ := Prod.mk.inj (ok.inj h)
    exact .readCallback id hposted.symm
  | continueSkipCallback id n =>
    obtain ⟨hrun, rfl⟩ := eq_ok_of_silent h
    exact .continueSkipCallback id n hrun
  | continueReadCallback id n =>
    obtain ⟨hrun, rfl⟩ := eq_ok_of_silent h
    exact .continueReadCallback id n hrun
  | runSkipCallback n k =>
    obtain ⟨hsame, rfl⟩ := Prod.mk.inj (ok.inj h)
    exact .runSkipCallback n k hsame.symm
  | runReadCallback n k =>
    obtain ⟨hsame, rfl⟩ := Prod.mk.inj (ok.inj h)
    exact .runReadCallback n k hsame.symm

lemma executes_of_run (h : r.run i turn = .ok (r', d)) : ∃ t rest,
    pick r.tasks i = some (t, rest) ∧ Executes turn { r with tasks := rest } r' t d := by
  rw [run] at h
  cases hpick : pick r.tasks i with
  | none =>
    rw [hpick] at h
    exact nomatch h
  | some picked =>
    obtain ⟨t, rest⟩ := picked
    rw [hpick] at h
    exact ⟨t, rest, rfl, executes_of_execute h⟩

lemma run_of_stale_call {rest : List (ReaderTask κ)} {c : Int × Bool}
    (hpick : pick r.tasks i = some (t, rest)) (hcall : t.call? = some c)
    (hstale : r.pendingCallbackId ≠ c.1) (turn : StreamTurn) :
    ∃ tasks, r.run i turn = .ok ({ r with tasks := tasks }, none) := by
  rw [run, hpick]
  cases t with
  | skipOnWorkThread n k => exact nomatch hcall
  | readOnWorkThread size k => exact nomatch hcall
  | skipToRequestedRange => exact nomatch hcall
  | runSkipCallback n k => exact nomatch hcall
  | runReadCallback b k => exact nomatch hcall
  | skipCallback id => exact ⟨_, rfl⟩
  | readCallback id => exact ⟨_, rfl⟩
  | continueSkipCallback id n =>
    cases hcall
    refine ⟨rest, ?_⟩
    dsimp only [execute]
    rw [continueSkipCallbackOnWorkThread, if_pos hstale]
    rfl
  | continueReadCallback id b =>
    cases hcall
    refine ⟨rest, ?_⟩
    dsimp only [execute]
    rw [continueReadCallbackOnWorkThread, if_pos hstale]
    rfl

lemma eq_skipToRequestedRange (hop : t.op? = none)
    (hcall : t.call? = none) : t = .skipToRequestedRange := by
  cases t with
  | skipToRequestedRange => rfl
  | skipOnWorkThread n k => exact nomatch hop
  | readOnWorkThread size k => exact nomatch hop
  | runSkipCallback n k => exact nomatch hop
  | runReadCallback b k => exact nomatch hop
  | skipCallback id => exact nomatch hcall
  | readCallback id => exact nomatch hcall
  | continueSkipCallback id n => exact nomatch hcall
  | continueReadCallback id b => exact nomatch hcall

lemma run_of_ops_nil (h : r.Inv) (hops : r.ops = []) (hrun : r.run i turn = .ok (r', d)) :
    r'.answers = r.answers ∧ d = none := by
  obtain ⟨htasks, hpending⟩ := append_eq_nil_iff.mp hops
  obtain ⟨t, rest, hpick, -⟩ := executes_of_run hrun
  have hmem := mem_of_pick hpick
  have hop : t.op? = none := filterMap_eq_nil_iff.mp htasks t hmem
  cases hcall : t.call? with
  | none =>
    exact absurd (eq_skipToRequestedRange hop hcall ▸ hmem) (h.no_range hpending)
  | some c =>
    have hgiven := (h.ids.2 t hmem c hcall).1
    have hidle := h.idle hpending
    obtain ⟨tasks, heq⟩ := run_of_stale_call hpick hcall (by omega) turn
    obtain ⟨rfl, rfl⟩ := Prod.mk.inj (ok.inj (heq.symm.trans hrun))
    exact ⟨rfl, rfl⟩

end Runs

end InputStreamReader

end CefCore.NetService
