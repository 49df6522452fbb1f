import CefCore.NetService.InputStreamReader
import CefCore.NetService.StreamOpening

/-!
# The requests to an input stream reader

Whoever uses an `InputStreamReader` asks for one operation at a time. What happens then is a sequence
of episodes: an operation is asked for, the stream gives some answers that the reader takes, and a
result arrives. Callbacks that the stream runs too late leave no trace in it.

## Main results

* `answered_once`: each request gets its answer, once.

## Implementation notes

An operation is asked for only when no other one is about, as the assertions of the reader demand. Ids
and byte counts are integers without a bound: the `int` of the source has no defined result beyond its
greatest value. A callback that the stream runs while it is still called is one that it runs right
after, since the reader posts a task in both cases.
-/

namespace CefCore.NetService

open TaskPool InputStreamReader Fallible

variable {κ : Type}

/-- A call of `Skip` or of `Read`. -/
inductive Request (κ : Type) where
  | skip (skipBytes : Int) (callback : κ)
  | read (destSize : Nat) (callback : κ)

def Request.op : Request κ → ReaderOp κ
  | .skip _ k => .skip k
  | .read _ k => .read k

/-- The number of bytes that an answer says have been skipped. -/
def StreamAnswer.skipCount : StreamAnswer → Int
  | .skipped _ count => count
  | .read _ => 0

def StreamAnswer.Within : StreamAnswer → Prop
  | .skipped asked count => count ≤ asked
  | .read _ => True

/-- The number of bytes that some answers say have been skipped. -/
def skipCount (answers : List StreamAnswer) : Int := (answers.map StreamAnswer.skipCount).sum

/-- A result fits to the request and to the answers of the stream. A skip reports the number of bytes
that it has been asked for when the answers sum up to it. -/
inductive Completes : Request κ → List StreamAnswer → Delivery κ → Prop
  | skipFailed (n : Int) (k : κ) (answers : List StreamAnswer) :
    Completes (.skip n k) answers (.skip ERR_REQUEST_RANGE_NOT_SATISFIABLE k)
  | skipNothing (n : Int) (k : κ) (hn : n ≤ 0) : Completes (.skip n k) [] (.skip 0 k)
  | skipped (n : Int) (k : κ) (answers : List StreamAnswer) (hn : 0 < n)
    (hsum : (∀ a ∈ answers, a.Within) → skipCount answers = n) :
    Completes (.skip n k) answers (.skip n k)
  | readNothing (k : κ) : Completes (.read 0 k) [] (.read .eof k)
  | read (size : Nat) (k : κ) (bytesRead : BytesRead) :
    Completes (.read size k) [.read bytesRead] (.read bytesRead k)

/-- What happens: an operation is asked for, an answer of the stream is taken, and a result arrives on
the job thread. -/
inductive Happening (κ : Type) where
  | asked (request : Request κ)
  | answered (answer : StreamAnswer)
  | delivered (delivery : Delivery κ)

def unfinished (c : Request κ × List StreamAnswer) : List (Happening κ) :=
  .asked c.1 :: c.2.map .answered

structure Episode (κ : Type) where
  request : Request κ
  answers : List StreamAnswer
  delivery : Delivery κ
  completes : Completes request answers delivery

def Episode.happenings (e : Episode κ) : List (Happening κ) :=
  unfinished (e.request, e.answers) ++ [.delivered e.delivery]

/-- An operation is asked for, or a task or callback of the reader is run. -/
inductive Event (κ : Type) where
  | ask (request : Request κ)
  | run (i : Nat) (turn : StreamTurn)

structure Session (κ : Type) where
  reader : InputStreamReader κ
  log : List (Happening κ)

namespace InputStreamReader

def ask (r : InputStreamReader κ) : Request κ → InputStreamReader κ
  | .skip n k => r.skip n k
  | .read size k => r.read size k

def newAnswers (r r' : InputStreamReader κ) : List StreamAnswer :=
  (r'.answers.take (r'.answers.length - r.answers.length)).reverse

lemma newAnswers_eq {r r' : InputStreamReader κ} (new : List StreamAnswer)
    (h : r'.answers = new.reverse ++ r.answers) : newAnswers r r' = new := by
  rw [newAnswers, h, List.length_append, Nat.add_sub_cancel, List.take_left, List.reverse_reverse]

end InputStreamReader

namespace Session

def new : Session κ := ⟨.new, []⟩

/-- What can happen next. An operation is asked for when no other one is about. -/
def step (s : Session κ) : Event κ → Except LoaderStop (Session κ)
  | .ask q =>
    if s.reader.ops.isEmpty then .ok ⟨s.reader.ask q, s.log ++ [.asked q]⟩
    else .error .impossible
  | .run i turn => do
    let (r, d) ← s.reader.run i turn
    pure ⟨r, s.log ++ (newAnswers s.reader r).map .answered ++ (d.map .delivered).toList⟩

end Session

/-! ### The progress of an operation -/

def ReaderTask.Fits (q : Request κ) (answers : List StreamAnswer) : ReaderTask κ → Prop
  | .skipOnWorkThread n k => q = .skip n k ∧ answers = []
  | .readOnWorkThread size k => q = .read size k ∧ answers = []
  | .runSkipCallback n k => Completes q answers (.skip n k)
  | .runReadCallback bytesRead k => Completes q answers (.read bytesRead k)
  | _ => True

structure Progress (r : InputStreamReader κ) (q : Request κ) (answers : List StreamAnswer) : Prop where
  tasks : ∀ t ∈ r.tasks, t.Fits q answers
  skips : ∀ k, r.pendingSkipCallback = some k → ∃ n, q = .skip n k ∧ 0 < n ∧ r.bytesSkipped = n ∧
    0 < r.bytesToSkip ∧ r.bytesToSkip = n - skipCount answers
  reads : ∀ k, r.pendingReadCallback = some k → ∃ size, q = .read size k ∧ answers = []

variable {r r' : InputStreamReader κ} {q : Request κ} {answers new : List StreamAnswer} {k : κ}

lemma ReaderTask.fits_of_op_none {t : ReaderTask κ} (h : t.op? = none) : t.Fits q answers := by
  cases t <;> first | exact True.intro | exact nomatch h

lemma skipCount_append : skipCount (answers ++ new) = skipCount answers + skipCount new := by
  rw [skipCount, List.map_append, List.sum_append]
  rfl

inductive SkipOutcome (k : κ) (r r' : InputStreamReader κ) (new : List StreamAnswer) : Prop
  | waits (pending : r'.pendingSkipCallback = some k) (bytes : r'.bytesSkipped = r.bytesSkipped)
    (left : r'.bytesToSkip = r.bytesToSkip - skipCount new) (pos : 0 < r'.bytesToSkip)
    (tasks : ∀ t ∈ r'.tasks, t ∈ r.tasks ∨ t.op? = none)
  | ends (n : Int) (pending : r'.pendingSkipCallback = none)
    (tasks : ∀ t ∈ r'.tasks, t ∈ r.tasks ∨ t.op? = none ∨ t = .runSkipCallback n k)
    (result : n = ERR_REQUEST_RANGE_NOT_SATISFIABLE ∨
      n = r.bytesSkipped ∧ ((∀ a ∈ new, a.Within) → skipCount new = r.bytesToSkip))

structure SkipPart (k : κ) (r r' : InputStreamReader κ) (new : List StreamAnswer) : Prop where
  outcome : SkipOutcome k r r' new
  answers : r'.answers = new.reverse ++ r.answers
  reads : r'.pendingReadCallback = r.pendingReadCallback

variable {n : Int} {r₁ : InputStreamReader κ} {turn : StreamTurn}

lemma SkipPart.of_runSkipCallback {a : StreamAnswer}
    (hrun : r₁.runSkipCallback n = .ok r') (hpending : r₁.pendingSkipCallback = some k)
    (htasks : ∀ t ∈ r₁.tasks, t ∈ r.tasks ∨ t.op? = none) (hanswers : r₁.answers = a :: r.answers)
    (hreads : r₁.pendingReadCallback = r.pendingReadCallback)
    (hresult : n = ERR_REQUEST_RANGE_NOT_SATISFIABLE ∨
      n = r.bytesSkipped ∧ (a.Within → a.skipCount = r.bytesToSkip)) : SkipPart k r r' [a] := by
  rw [runSkipCallback, hpending] at hrun
  cases hrun
  refine ⟨.ends n rfl (fun t ht => ?_) (hresult.imp_right fun h => ⟨h.1, fun hwithin => ?_⟩),
    hanswers, hreads⟩
  · rcases List.mem_append.mp ht with ht | ht
    · exact (htasks t ht).imp_right .inl
    · exact .inr (.inr (List.mem_singleton.mp ht))
  · rw [← h.2 (hwithin a (List.mem_singleton_self a))]
    exact Int.add_zero _

lemma SkipPart.cons {a : StreamAnswer} (h : SkipPart k r₁ r' new)
    (hbytes : r₁.bytesSkipped = r.bytesSkipped) (hleft : r₁.bytesToSkip = r.bytesToSkip - a.skipCount)
    (htasks : ∀ t ∈ r₁.tasks, t ∈ r.tasks ∨ t.op? = none) (hanswers : r₁.answers = a :: r.answers)
    (hreads : r₁.pendingReadCallback = r.pendingReadCallback) : SkipPart k r r' (a :: new) := by
  have hcount : skipCount (a :: new) = a.skipCount + skipCount new := List.sum_cons
  refine ⟨?_, by rw [h.answers, hanswers]; simp, h.reads.trans hreads⟩
  rcases h.outcome with ⟨pending, bytes, left, pos, tasks⟩ | ⟨n, pending, tasks, result⟩
  · refine .waits pending (bytes.trans hbytes) ?_ pos fun t ht => ?_
    · rw [left, hleft, hcount]
      omega
    · rcases tasks t ht with ht | ht
      · exact htasks t ht
      · exact .inr ht
  · refine .ends n pending (fun t ht => ?_) (result.imp_right fun hn => ⟨hn.1.trans hbytes, fun hw => ?_⟩)
    · rcases tasks t ht with ht | ht
      · exact (htasks t ht).imp_right .inl
      · exact .inr ht
    · rw [hcount, hn.2 fun b hb => hw b (List.mem_cons_of_mem a hb), hleft]
      omega

lemma skipToRequestedRange_part : ∀ (skips : List (Bool × Int)) {r r' : InputStreamReader κ},
    skipToRequestedRange skips r = .ok r' → r.pendingSkipCallback = some k → 0 < r.bytesToSkip →
      ∃ new, SkipPart k r r' new
  | [], _, _, hrun, _, _ => nomatch hrun
  | (result, skipped) :: skips, r, r', hrun, hpending, hpos => by
    rw [skipToRequestedRange] at hrun
    dsimp only at hrun
    have htasks : ∀ t ∈ r.tasks ++ [.skipCallback (r.nextCallbackId + 1)],
        t ∈ r.tasks ∨ t.op? = none := fun t ht => by
      rcases List.mem_append.mp ht with ht | ht
      · exact .inl ht
      · rw [List.mem_singleton.mp ht]
        exact .inr rfl
    split at hrun
    · cases hrun
      exact ⟨[], .waits hpending rfl (Int.sub_zero _).symm hpos htasks, rfl, rfl⟩
    · split at hrun
      · exact ⟨_, SkipPart.of_runSkipCallback hrun hpending htasks rfl rfl (.inl rfl)⟩
      · split at hrun
        · rename_i hleft
          obtain ⟨new, hpart⟩ := skipToRequestedRange_part skips hrun hpending hleft
          exact ⟨_, hpart.cons rfl rfl htasks rfl rfl⟩
        · rename_i hleft
          refine ⟨_, SkipPart.of_runSkipCallback hrun hpending htasks rfl rfl (.inr ⟨rfl, ?_⟩)⟩
          intro hwithin
          exact Int.le_antisymm hwithin (Int.not_lt.mp fun hlt => hleft (Int.sub_pos_of_lt hlt))

lemma continueSkipCallback_part
    (hrun : r.continueSkipCallbackOnWorkThread r.pendingCallbackId n = .ok r')
    (hpending : r.pendingSkipCallback = some k) (hpos : 0 < r.bytesToSkip) :
    ∃ new, SkipPart k r r' new := by
  rw [continueSkipCallbackOnWorkThread, if_neg (not_not.mpr rfl)] at hrun
  dsimp only at hrun
  have htasks : ∀ t ∈ r.tasks, t ∈ r.tasks ∨ t.op? = none := fun t ht => .inl ht
  split at hrun
  · exact ⟨_, SkipPart.of_runSkipCallback hrun hpending htasks rfl rfl (.inl rfl)⟩
  · rename_i hn
    have hboth : 0 < r.bytesToSkip ∧ 0 < n := ⟨hpos, Int.not_le.mp hn⟩
    rw [if_pos hboth] at hrun
    split at hrun
    · rename_i hleft
      cases hrun
      refine ⟨[.skipped r.bytesToSkip n], .waits hpending rfl ?_ hleft fun t ht => ?_, rfl, rfl⟩
      · exact congrArg (r.bytesToSkip - ·) (Int.add_zero n).symm
      · rcases List.mem_append.mp ht with ht | ht
        · exact .inl ht
        · rw [List.mem_singleton.mp ht]
          exact .inr rfl
    · rename_i hleft
      refine ⟨_, SkipPart.of_runSkipCallback hrun hpending htasks rfl rfl (.inr ⟨rfl, ?_⟩)⟩
      intro hwithin
      exact Int.le_antisymm hwithin (Int.not_lt.mp fun hlt => hleft (Int.sub_pos_of_lt hlt))

lemma SkipPart.progress (h : SkipPart k r r' new)
    (htasks : r.tasks.filterMap ReaderTask.op? = []) (hread : r.pendingReadCallback = none)
    (hn : 0 < n) (hbytes : r.bytesSkipped = n) (hleft : r.bytesToSkip = n - skipCount answers) :
    Progress r' (.skip n k) (answers ++ new) := by
  have hold : ∀ t ∈ r.tasks, ReaderTask.Fits (.skip n k) (answers ++ new) t := fun t ht =>
    ReaderTask.fits_of_op_none (List.filterMap_eq_nil_iff.mp htasks t ht)
  have hreads : ∀ j, r'.pendingReadCallback = some j →
      ∃ size, Request.skip n k = .read size j ∧ answers ++ new = [] := fun j hj => by
    rw [h.reads, hread] at hj
    exact nomatch hj
  rcases h.outcome with ⟨pending, bytes, left, pos, tasks⟩ | ⟨m, pending, tasks, result⟩
  · exact {
      tasks := fun t ht => (tasks t ht).elim (hold t) ReaderTask.fits_of_op_none
      skips := fun j hj => by
        obtain rfl := Option.some.inj (hj.symm.trans pending)
        refine ⟨n, rfl, hn, bytes.trans hbytes, pos, ?_⟩
        rw [left, hleft, skipCount_append]
        omega
      reads := hreads }
  · exact {
      tasks := fun t ht => by
        rcases tasks t ht with ht | ht | rfl
        · exact hold t ht
        · exact ReaderTask.fits_of_op_none ht
        · rcases result with rfl | ⟨rfl, hsum⟩
          · exact .skipFailed n k _
          · rw [hbytes]
            refine .skipped n k _ hn fun hwithin => ?_
            have hnew := hsum fun a ha => hwithin a (List.mem_append_right answers ha)
            rw [skipCount_append, hnew, hleft]
            omega
      skips := fun j hj => nomatch hj.symm.trans pending
      reads := hreads }

lemma Progress.of_tasks (h : Progress r q answers) {tasks : List (ReaderTask κ)}
    (htasks : ∀ t ∈ tasks, t ∈ r.tasks ∨ t.op? = none) :
    Progress { r with tasks := tasks } q answers where
  tasks := fun t ht => (htasks t ht).elim (h.tasks t) ReaderTask.fits_of_op_none
  skips := h.skips
  reads := h.reads

lemma Progress.of_result {t : ReaderTask κ} (hnone : r.tasks.filterMap ReaderTask.op? = [])
    (ht : t.Fits q answers) (htasks : r'.tasks = r.tasks ++ [t])
    (hskip : r'.pendingSkipCallback = none) (hread : r'.pendingReadCallback = none) :
    Progress r' q answers where
  tasks := fun u hu => by
    rw [htasks, List.mem_append, List.mem_singleton] at hu
    rcases hu with hu | rfl
    · exact ReaderTask.fits_of_op_none (List.filterMap_eq_nil_iff.mp hnone u hu)
    · exact ht
  skips := fun k hk => nomatch hskip.symm.trans hk
  reads := fun k hk => nomatch hread.symm.trans hk

inductive Advances (r r' : InputStreamReader κ) (q : Request κ) (answers : List StreamAnswer) :
    Option (Delivery κ) → Prop
  | goesOn (new : List StreamAnswer) (hanswers : r'.answers = new.reverse ++ r.answers)
    (progress : Progress r' q (answers ++ new)) : Advances r r' q answers none
  | delivers (d : Delivery κ) (hanswers : r'.answers = r.answers)
    (completes : Completes q answers d) : Advances r r' q answers (some d)

lemma skipOnWorkThread_advances (h : r.Idle)
    (hrun : r.skipOnWorkThread n k turn = .ok r') : Advances r r' (.skip n k) [] none := by
  rw [skipOnWorkThread, dcheck, if_pos h.id, dcheck, if_pos (by rw [h.pending.1]; rfl)] at hrun
  simp only [ok_bind] at hrun
  split at hrun
  · rename_i hn
    cases hrun
    exact .goesOn [] rfl (.of_result (t := .runSkipCallback 0 k) h.tasks_ops
      (Completes.skipNothing n k hn) rfl rfl h.pending.2)
  · rename_i hn
    obtain ⟨new, hpart⟩ := skipToRequestedRange_part turn.skips hrun rfl (Int.not_le.mp hn)
    refine .goesOn new hpart.answers ?_
    exact hpart.progress h.tasks_ops h.pending.2 (Int.not_le.mp hn) rfl (Int.sub_zero n).symm

lemma readOnWorkThread_advances (h : r.Idle) {size : Nat}
    (hrun : r.readOnWorkThread size k turn = .ok r') : Advances r r' (.read size k) [] none := by
  rw [readOnWorkThread, dcheck, if_pos h.id, dcheck, if_pos (by rw [h.pending.2]; rfl)] at hrun
  simp only [ok_bind] at hrun
  have hcallback : (r.tasks ++ [ReaderTask.readCallback (r.nextCallbackId + 1)]).filterMap
      ReaderTask.op? = [] := by
    rw [List.filterMap_append, h.tasks_ops]
    rfl
  split at hrun
  · rename_i hsize
    subst hsize
    cases hrun
    exact .goesOn [] rfl (.of_result (t := .runReadCallback .eof k) h.tasks_ops
      (Completes.readNothing k) rfl h.pending.1 rfl)
  · split at hrun
    · cases hrun
      exact .goesOn [] rfl {
        tasks := fun t ht =>
          ReaderTask.fits_of_op_none (List.filterMap_eq_nil_iff.mp hcallback t ht)
        skips := fun j hj => by cases (h.pending.1.symm.trans hj)
        reads := fun j hj => by
          cases hj
          exact ⟨size, rfl, rfl⟩ }
    · cases hrun
      exact .goesOn [.read _] rfl
        (.of_result (r := InputStreamReader.post _ r) (t := .runReadCallback _ k) hcallback
          (Completes.read size k _) rfl h.pending.1 rfl)

lemma run_advances (h : r.Inv) (hp : Progress r q answers) {i : Nat}
    {d : Option (Delivery κ)} (hrun : r.run i turn = .ok (r', d)) : Advances r r' q answers d := by
  obtain ⟨t, rest, hpick, hexecutes⟩ := executes_of_run hrun
  have hfits := hp.tasks t (mem_of_pick hpick)
  have hrest : ∀ u ∈ rest, u ∈ r.tasks ∨ u.op? = none := fun u hu =>
    .inl (subset_of_pick hpick hu)
  have hstays : Advances r { r with tasks := rest } q answers none :=
    .goesOn [] rfl (by rw [List.append_nil]; exact hp.of_tasks hrest)
  have hposts : ∀ u, u.op? = none →
      Advances r { r with tasks := rest ++ [u] } q answers none := fun u hu => by
    refine .goesOn [] rfl ?_
    rw [List.append_nil]
    refine hp.of_tasks fun v hv => ?_
    rcases List.mem_append.mp hv with hv | hv
    · exact hrest v hv
    · rw [List.mem_singleton.mp hv]
      exact .inr hu
  cases hexecutes with
  | skipOnWorkThread n k hskip =>
    obtain ⟨rfl, rfl⟩ := hfits
    have hadvances := skipOnWorkThread_advances (h.idle_of_pick hpick rfl).2 hskip
    cases hadvances with
    | goesOn new hanswers progress => exact .goesOn new hanswers progress
  | readOnWorkThread size k hread =>
    obtain ⟨rfl, rfl⟩ := hfits
    have hadvances := readOnWorkThread_advances (h.idle_of_pick hpick rfl).2 hread
    cases hadvances with
    | goesOn new hanswers progress => exact .goesOn new hanswers progress
  | skipToRequestedRange hskip =>
    obtain ⟨op, hskips, -, hwork, -⟩ := h.working_of_pick hpick rfl
    cases op with
    | read k => cases hskips
    | skip k =>
      obtain ⟨n, rfl, hn, hbytes, hpos, hleft⟩ := hp.skips k hwork.pending.1
      obtain ⟨new, hpart⟩ := skipToRequestedRange_part turn.skips hskip hwork.pending.1 hpos
      exact .goesOn new hpart.answers
        (hpart.progress hwork.tasks_ops hwork.pending.2 hn hbytes hleft)
  | skipCallback id hposted =>
    subst hposted
    exact hposts _ rfl
  | readCallback id hposted =>
    subst hposted
    exact hposts _ rfl
  | continueSkipCallback id n hskip =>
    by_cases hid : r.pendingCallbackId = id
    · subst hid
      obtain ⟨op, hskips, -, hwork, -⟩ := h.working_of_pick hpick
        (show _ = some true by simp [ReaderTask.resumes?, ReaderTask.call?])
      cases op with
      | read k => cases hskips
      | skip k =>
        obtain ⟨m, rfl, hm, hbytes, hpos, hleft⟩ := hp.skips k hwork.pending.1
        obtain ⟨new, hpart⟩ := continueSkipCallback_part hskip hwork.pending.1 hpos
        exact .goesOn new hpart.answers
          (hpart.progress hwork.tasks_ops hwork.pending.2 hm hbytes hleft)
    · rw [continueSkipCallbackOnWorkThread, if_pos hid] at hskip
      cases hskip
      exact hstays
  | continueReadCallback id b hread =>
    by_cases hid : r.pendingCallbackId = id
    · subst hid
      obtain ⟨op, hskips, -, hwork, -⟩ := h.working_of_pick hpick
        (show _ = some false by simp [ReaderTask.resumes?, ReaderTask.call?])
      cases op with
      | skip k => cases hskips
      | read k =>
        obtain ⟨size, rfl, rfl⟩ := hp.reads k hwork.pending.2
        rw [continueReadCallbackOnWorkThread, if_neg (not_not.mpr rfl), runReadCallback, take,
          hwork.pending.2] at hread
        cases hread
        exact .goesOn [.read b] rfl
          (.of_result (t := .runReadCallback b k) hwork.tasks_ops (Completes.read size k b) rfl
            hwork.pending.1 rfl)
    · rw [continueReadCallbackOnWorkThread, if_pos hid] at hread
      cases hread
      exact hstays
  | runSkipCallback n k hsame =>
    subst hsame
    exact .delivers _ rfl hfits
  | runReadCallback b k hsame =>
    subst hsame
    exact .delivers _ rfl hfits

/-! ### Callbacks that are too late -/

structure Renews (r r' : InputStreamReader κ) : Prop where
  next_le : r.nextCallbackId ≤ r'.nextCallbackId
  pending : r'.pendingCallbackId = -1 ∨ r'.pendingCallbackId = r.pendingCallbackId ∨
    r.nextCallbackId < r'.pendingCallbackId

lemma Renews.trans (h : Renews r r₁) (h₁ : Renews r₁ r') : Renews r r' := by
  obtain ⟨hle, hpending⟩ := h
  obtain ⟨hle₁, hpending₁⟩ := h₁
  exact ⟨by omega, by omega⟩

lemma Renews.of_eq (hnext : r'.nextCallbackId = r.nextCallbackId)
    (hpending : r'.pendingCallbackId = r.pendingCallbackId) : Renews r r' :=
  ⟨Int.le_of_eq hnext.symm, .inr (.inl hpending)⟩

lemma Renews.behind (h : Renews r₁ r') (hnext : r₁.nextCallbackId = r.nextCallbackId)
    (hpending : r₁.pendingCallbackId = r.pendingCallbackId) : Renews r r' :=
  (Renews.of_eq hnext hpending).trans h

lemma Renews.of_call (hnext : r'.nextCallbackId = r.nextCallbackId + 1)
    (hpending : r'.pendingCallbackId = r.nextCallbackId + 1) : Renews r r' :=
  ⟨by omega, by omega⟩

lemma runSkipCallback_renews (hrun : r.runSkipCallback n = .ok r') : Renews r r' := by
  unfold runSkipCallback at hrun
  split at hrun
  · cases hrun
  · cases hrun
    exact ⟨Int.le_refl _, .inl rfl⟩

lemma runReadCallback_renews {b : BytesRead} (hrun : r.runReadCallback b = .ok r') :
    Renews r r' := by
  unfold runReadCallback at hrun
  split at hrun
  · cases hrun
  · cases hrun
    exact ⟨Int.le_refl _, .inl rfl⟩

lemma skipToRequestedRange_renews : ∀ (skips : List (Bool × Int)) {r r' : InputStreamReader κ},
    skipToRequestedRange skips r = .ok r' → Renews r r'
  | [], _, _, hrun => nomatch hrun
  | (result, skipped) :: skips, r, r', hrun => by
    rw [skipToRequestedRange] at hrun
    dsimp only at hrun
    split at hrun
    · cases hrun
      exact .of_call rfl rfl
    · split at hrun
      · exact Renews.trans (.of_call rfl rfl) (runSkipCallback_renews hrun)
      · split at hrun
        · exact Renews.trans (.of_call rfl rfl) (skipToRequestedRange_renews skips hrun)
        · exact Renews.trans (.of_call rfl rfl) (runSkipCallback_renews hrun)

lemma dcheck_bind_eq_ok {α : Type} {c : Prop} [Decidable c] {f : Unit → Except LoaderStop α} {a : α}
    (h : (dcheck c >>= f) = .ok a) : f () = .ok a := by
  rw [dcheck] at h
  split at h
  · exact h
  · cases h

lemma skipOnWorkThread_renews (hrun : r.skipOnWorkThread n k turn = .ok r') : Renews r r' := by
  have hrest := dcheck_bind_eq_ok (dcheck_bind_eq_ok hrun)
  split at hrest
  · exact (runSkipCallback_renews hrest).behind rfl rfl
  · exact (skipToRequestedRange_renews turn.skips hrest).behind rfl rfl

lemma readOnWorkThread_renews {size : Nat}
    (hrun : r.readOnWorkThread size k turn = .ok r') : Renews r r' := by
  have hrest := dcheck_bind_eq_ok (dcheck_bind_eq_ok hrun)
  split at hrest
  · exact (runReadCallback_renews hrest).behind rfl rfl
  · split at hrest
    · cases hrest
      exact .of_call rfl rfl
    · exact Renews.trans (.of_call rfl rfl) (runReadCallback_renews hrest)

lemma continueSkipCallback_renews {id : Int}
    (hrun : r.continueSkipCallbackOnWorkThread id n = .ok r') : Renews r r' := by
  unfold continueSkipCallbackOnWorkThread at hrun
  by_cases hid : r.pendingCallbackId ≠ id
  · rw [if_pos hid] at hrun
    cases hrun
    exact .of_eq rfl rfl
  · rw [if_neg hid] at hrun
    dsimp only at hrun
    generalize (if 0 < r.bytesToSkip ∧ 0 < n then r.bytesToSkip - n else r.bytesToSkip) = left at hrun
    split at hrun
    · exact (runSkipCallback_renews hrun).behind rfl rfl
    · split at hrun
      · cases hrun
        exact .of_eq rfl rfl
      · exact (runSkipCallback_renews hrun).behind rfl rfl

lemma continueReadCallback_renews {id : Int} {b : BytesRead}
    (hrun : r.continueReadCallbackOnWorkThread id b = .ok r') : Renews r r' := by
  unfold continueReadCallbackOnWorkThread at hrun
  split at hrun
  · cases hrun
    exact .of_eq rfl rfl
  · exact (runReadCallback_renews hrun).behind rfl rfl

lemma run_renews {i : Nat} {d : Option (Delivery κ)}
    (hrun : r.run i turn = .ok (r', d)) : Renews r r' := by
  obtain ⟨t, rest, -, hexecutes⟩ := executes_of_run hrun
  have hstart : Renews r { r with tasks := rest } := .of_eq rfl rfl
  refine hstart.trans ?_
  cases hexecutes with
  | skipOnWorkThread n k hskip => exact skipOnWorkThread_renews hskip
  | readOnWorkThread size k hread => exact readOnWorkThread_renews hread
  | skipToRequestedRange hskip => exact skipToRequestedRange_renews turn.skips hskip
  | continueSkipCallback id n hskip => exact continueSkipCallback_renews hskip
  | continueReadCallback id b hread => exact continueReadCallback_renews hread
  | skipCallback id hposted => exact hposted ▸ .of_eq rfl rfl
  | readCallback id hposted => exact hposted ▸ .of_eq rfl rfl
  | runSkipCallback n k hsame => exact hsame ▸ .of_eq rfl rfl
  | runReadCallback b k hsame => exact hsame ▸ .of_eq rfl rfl

/-! ### Sessions -/

/-- What has happened is a sequence of episodes, the last one of which may be unfinished. -/
def IsEpisodes (log : List (Happening κ)) (current : Option (Request κ × List StreamAnswer)) : Prop :=
  ∃ episodes : List (Episode κ),
    log = episodes.flatMap Episode.happenings ++ current.elim [] unfinished

namespace Session

structure Inv (s : Session κ) (current : Option (Request κ × List StreamAnswer)) : Prop where
  reader : s.reader.Inv
  log : IsEpisodes s.log current
  ops : s.reader.ops = (current.map fun c => c.1.op).toList
  progress : ∀ c ∈ current, Progress s.reader c.1 c.2

variable {s s' : Session κ}

lemma new_inv : (Session.new : Session κ).Inv none where
  reader := new_idle.inv.1
  log := ⟨[], rfl⟩
  ops := rfl
  progress := fun _ hc => nomatch hc

lemma Inv.ask (h : s.Inv none) (q : Request κ) :
    Inv ⟨s.reader.ask q, s.log ++ [.asked q]⟩ (some (q, [])) := by
  obtain ⟨episodes, hlog⟩ := h.log
  obtain ⟨htasks, hpending⟩ := List.append_eq_nil_iff.mp h.ops
  obtain ⟨hskip, hread⟩ := List.append_eq_nil_iff.mp hpending
  rw [Option.toList_eq_nil_iff, Option.map_eq_none_iff] at hskip hread
  have hlog' : IsEpisodes (s.log ++ [.asked q]) (some (q, [])) := by
    refine ⟨episodes, ?_⟩
    rw [hlog]
    exact congrArg (· ++ [Happening.asked q]) (List.append_nil _)
  cases q with
  | skip n k =>
    obtain ⟨hinv, hops⟩ := h.reader.ask h.ops (t := .skipOnWorkThread n k) rfl
    exact ⟨hinv, hlog', hops, fun c hc => Option.some.inj hc ▸
      .of_result (t := .skipOnWorkThread n k) htasks ⟨rfl, rfl⟩ rfl hskip hread⟩
  | read size k =>
    obtain ⟨hinv, hops⟩ := h.reader.ask h.ops (t := .readOnWorkThread size k) rfl
    exact ⟨hinv, hlog', hops, fun c hc => Option.some.inj hc ▸
      .of_result (t := .readOnWorkThread size k) htasks ⟨rfl, rfl⟩ rfl hskip hread⟩

lemma Inv.run {current : Option (Request κ × List StreamAnswer)} (h : s.Inv current) {i : Nat}
    {turn : StreamTurn} {r : InputStreamReader κ} {d : Option (Delivery κ)}
    (hrun : s.reader.run i turn = .ok (r, d)) : ∃ current', Inv ⟨r,
      s.log ++ (newAnswers s.reader r).map .answered ++ (d.map .delivered).toList⟩ current' := by
  obtain ⟨episodes, hlog⟩ := h.log
  obtain ⟨hinv, hanswers⟩ : r.Inv ∧ s.reader.Answers r d := by
    rcases run_spec h.reader i turn with herror | ⟨r', d', hok, hinv, hanswers⟩
    · exact nomatch herror.symm.trans hrun
    · obtain ⟨rfl, rfl⟩ := Prod.mk.inj (Except.ok.inj (hok.symm.trans hrun))
      exact ⟨hinv, hanswers⟩
  cases current with
  | none =>
    obtain ⟨hsame, rfl⟩ := run_of_ops_nil h.reader h.ops hrun
    refine ⟨none, hinv, ⟨episodes, ?_⟩, hanswers.trans h.ops, fun _ hc => nomatch hc⟩
    rw [newAnswers_eq [] hsame, hlog]
    simp
  | some c =>
    obtain ⟨q, answers⟩ := c
    cases run_advances h.reader (h.progress _ rfl) hrun with
    | goesOn new hnew progress =>
      refine ⟨some (q, answers ++ new), hinv, ⟨episodes, ?_⟩, hanswers.trans h.ops, fun c hc => ?_⟩
      · rw [newAnswers_eq new hnew, hlog]
        simp [unfinished]
      · cases hc
        exact progress
    | delivers d hsame completes =>
      refine ⟨none, hinv, ⟨episodes ++ [⟨q, answers, d, completes⟩], ?_⟩, hanswers.2,
        fun _ hc => nomatch hc⟩
      rw [newAnswers_eq [] hsame, hlog]
      simp [Episode.happenings]

lemma Inv.step {current : Option (Request κ × List StreamAnswer)} (h : s.Inv current) {e : Event κ}
    (hstep : s.step e = .ok s') : ∃ current', s'.Inv current' := by
  cases e with
  | ask q =>
    rw [Session.step] at hstep
    split at hstep
    · rename_i hempty
      cases hstep
      have hnone : current = none := by
        have hops := h.ops
        rw [List.isEmpty_iff.mp hempty, eq_comm, Option.toList_eq_nil_iff,
          Option.map_eq_none_iff] at hops
        exact hops
      subst hnone
      exact ⟨_, h.ask q⟩
    · exact nomatch hstep
  | run i turn =>
    obtain ⟨⟨r, d⟩, hrun, heq⟩ := bind_eq_ok_iff.mp hstep
    cases heq
    exact h.run hrun

variable {es : List (Event κ)}

lemma exists_inv_of_run (h : es.foldlM step Session.new = .ok s) : ∃ current, s.Inv current :=
  run_invariant (I := fun s => ∃ current, s.Inv current)
    (fun _ _ _ ⟨_, hinv⟩ hstep => hinv.step hstep) ⟨none, new_inv⟩ h

/-- **What happens is a sequence of episodes**, in every run. The operation that is about is that of the
unfinished one. -/
theorem exists_episodes (h : es.foldlM step Session.new = .ok s) :
    ∃ current, IsEpisodes s.log current ∧
      s.reader.ops = (current.map fun c => c.1.op).toList := by
  obtain ⟨current, hinv⟩ := exists_inv_of_run h
  exact ⟨current, hinv.log, hinv.ops⟩

/-- The call that is pending, if any, is later than the one with the id `base`. -/
def PendingAfter (base : Int) (s : Session κ) : Prop :=
  base ≤ s.reader.nextCallbackId ∧
    (s.reader.pendingCallbackId = -1 ∨ base < s.reader.pendingCallbackId)

lemma PendingAfter.step {base : Int} (h : s.PendingAfter base) {e : Event κ}
    (hstep : s.step e = .ok s') : s'.PendingAfter base := by
  cases e with
  | ask q =>
    rw [Session.step] at hstep
    split at hstep
    · cases hstep
      cases q <;> exact h
    · exact nomatch hstep
  | run i turn =>
    obtain ⟨⟨r, d⟩, hrun, heq⟩ := bind_eq_ok_iff.mp hstep
    cases heq
    obtain ⟨hle, hpending⟩ := run_renews hrun
    obtain ⟨hbase, hold⟩ := h
    constructor <;> dsimp only <;> omega

/-- **A callback of an earlier request changes nothing**: a call that is about when an operation is
asked for has no effect on the reader anymore, and leaves no trace. -/
theorem step_of_earlier_call (h : es.foldlM step Session.new = .ok s) {q : Request κ}
    {es' : List (Event κ)} (h' : (Event.ask q :: es').foldlM step s = .ok s') {c : Int × Bool}
    (hearlier : ∃ t ∈ s.reader.tasks, t.call? = some c) {i : Nat} {t : ReaderTask κ}
    {rest : List (ReaderTask κ)} (hpick : pick s'.reader.tasks i = some (t, rest))
    (hcall : t.call? = some c) (turn : StreamTurn) : ∃ tasks,
      s'.step (.run i turn) = .ok { s' with reader := { s'.reader with tasks := tasks } } := by
  obtain ⟨current, hinv⟩ := exists_inv_of_run h
  obtain ⟨u, hu, hgiven⟩ := hearlier
  obtain ⟨hone, hle⟩ := hinv.reader.ids.2 u hu c hgiven
  have hstart : s.PendingAfter s.reader.nextCallbackId := by
    refine ⟨Int.le_refl _, .inl ?_⟩
    have hask := h'
    rw [List.foldlM_cons] at hask
    obtain ⟨s₁, hs₁, -⟩ := bind_eq_ok_iff.mp hask
    rw [Session.step] at hs₁
    split at hs₁
    · rename_i hempty
      exact hinv.reader.idle (List.append_eq_nil_iff.mp (List.isEmpty_iff.mp hempty)).2
    · exact nomatch hs₁
  have hend : s'.PendingAfter s.reader.nextCallbackId :=
    run_invariant (fun _ _ _ hpending hstep => hpending.step hstep) hstart h'
  have hstale : s'.reader.pendingCallbackId ≠ c.1 := by
    obtain ⟨-, hpending⟩ := hend
    omega
  obtain ⟨tasks, hrun⟩ := run_of_stale_call hpick hcall hstale turn
  refine ⟨tasks, ?_⟩
  have hnone : newAnswers s'.reader { s'.reader with tasks := tasks } = [] := newAnswers_eq [] rfl
  rw [Session.step, hrun, ok_bind]
  dsimp only
  rw [hnone]
  simp

end Session

/-- **Each request is answered once.** What happens to a reader is a sequence of episodes, each with one
request and one result, the last one of which may have no result yet; a callback of an earlier request
changes nothing; and the callback of an opened stream is run at most once, and not after a
cancellation. -/
theorem answered_once :
    (∀ (es : List (Event κ)) (s : Session κ), es.foldlM Session.step .new = .ok s →
      ∃ current, IsEpisodes s.log current ∧
        s.reader.ops = (current.map fun c => c.1.op).toList) ∧
    (∀ (es es' : List (Event κ)) (s s' : Session κ) (q : Request κ),
      es.foldlM Session.step .new = .ok s → (Event.ask q :: es').foldlM Session.step s = .ok s' →
      ∀ c, (∃ t ∈ s.reader.tasks, t.call? = some c) →
        ∀ i t rest turn, pick s'.reader.tasks i = some (t, rest) → t.call? = some c → ∃ tasks,
          s'.step (.run i turn) = .ok { s' with reader := { s'.reader with tasks := tasks } }) ∧
    (∀ (as : List (Nat × StreamOpening.OpenTurn)) (w : StreamOpening.OpenInputStreamWrapper),
      as.foldlM StreamOpening.OpenInputStreamWrapper.run .openStream = .ok w →
        StreamOpening.OpenedOnce w.events) :=
  ⟨fun _ _ h => Session.exists_episodes h,
    fun _ _ _ _ _ h h' _ hearlier _ _ _ turn hpick hcall =>
      Session.step_of_earlier_call h h' hearlier hpick hcall turn,
    fun _ _ h => StreamOpening.OpenInputStreamWrapper.openedOnce_of_run h⟩

/-- A skip that the stream answers in two parts, at once and later. -/
def skipOfThree : List (Event Nat) :=
  [.ask (.skip 3 7), .run 0 { skips := [(true, 1), (true, 0)] }, .run 1 { bytesSkipped := 2 }, .run 1 {},
    .run 1 {}]

/-- The skip is an episode. -/
theorem answered_once_skipOfThree : ∃ s : Session Nat,
    skipOfThree.foldlM Session.step .new = .ok s ∧ ∃ current, IsEpisodes s.log current ∧
      s.reader.ops = (current.map fun c => c.1.op).toList :=
  ⟨_, rfl, answered_once.1 skipOfThree _ rfl⟩

end CefCore.NetService
