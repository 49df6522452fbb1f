import CefCore.NetService.LoaderEndings
import Mathlib.Data.List.TakeDrop

/-!
# Range requests

A request may ask for one range of the content. The loader skips to the first byte of the range and
announces its length; then it reads until the stream has ended. Nothing stops it at the last byte of
the range.

What the stream does is told from the answers that the reader has taken: `streamNext` is an
automaton that reads them and keeps the position in the content.

## Main results

* `range_delivered_iff`: the body is what has been asked for exactly if the range ends where the
  content does, or has no end.
-/

namespace CefCore.NetService

open TaskPool InputStreamReader List Option Fallible Except

/-- A stream with the content `S` is at `pos`. It skips at most what it is asked to, reads on in the
content, and says that it has ended only at the end of the content. -/
def streamNext (S : List UInt8) (pos : Nat) : StreamAnswer → Option Nat
  | .skipped asked count =>
    if 0 < count ∧ count ≤ asked ∧ pos + count ≤ S.length then some (pos + count.toNat) else none
  | .read bytesRead =>
    if bytesRead.count = 0 then
      if pos = S.length then some pos else none
    else if 0 < bytesRead.count ∧ pos + bytesRead.data.length ≤ S.length ∧
        bytesRead.data = (S.drop pos).take bytesRead.data.length then
      some (pos + bytesRead.data.length)
    else none

/-- The answers, newest first, are those of a stream with the content `S`, which is at `pos`. -/
def Conforms (S : List UInt8) (answers : List StreamAnswer) (pos : Nat) : Prop :=
  EventLog.monitored (streamNext S) 0 answers = some pos

variable {κ : Type} {S : List UInt8} {a base pos : Nat}

variable {answers : List StreamAnswer}

lemma Conforms.cons {x : StreamAnswer} (h : Conforms S (x :: answers) pos) :
    ∃ pos₀, Conforms S answers pos₀ ∧ streamNext S pos₀ x = some pos :=
  bind_eq_some_iff.mp h

lemma Conforms.of_suffix : ∀ {answers answers' : List StreamAnswer} {pos : Nat},
    answers <:+ answers' → Conforms S answers' pos → ∃ pos₀, Conforms S answers pos₀ := by
  rintro answers _ pos ⟨later, rfl⟩ h
  induction later generalizing pos with
  | nil => exact ⟨pos, h⟩
  | cons x later ih =>
    obtain ⟨pos₁, h₁, _⟩ := h.cons
    exact ih h₁

lemma Conforms.skipped {asked n : Int} (h : Conforms S (.skipped asked n :: answers) pos) :
    ∃ pos₀, Conforms S answers pos₀ ∧ 0 < n ∧ n ≤ asked ∧ (pos : Int) = pos₀ + n := by
  obtain ⟨pos₀, h₀, hnext⟩ := h.cons
  rw [streamNext] at hnext
  split at hnext
  · rename_i hn
    cases hnext
    exact ⟨pos₀, h₀, hn.1, hn.2.1, by omega⟩
  · exact nomatch hnext

/-- The result of a read at `pos₀`, where `pos` is the position behind it. -/
structure ReadAt (S : List UInt8) (pos₀ pos : Nat) (bytesRead : BytesRead) : Prop where
  pos_eq : pos = pos₀ + bytesRead.data.length
  data_eq : bytesRead.data = (S.drop pos₀).take bytesRead.data.length
  eof : bytesRead.count = 0 → pos₀ = S.length

lemma Conforms.read {b : BytesRead} (h : Conforms S (.read b :: answers) pos) :
    ∃ pos₀, Conforms S answers pos₀ ∧ ReadAt S pos₀ pos b := by
  obtain ⟨pos₀, h₀, hnext⟩ := h.cons
  rw [streamNext] at hnext
  split at hnext
  · rename_i hzero
    split at hnext
    · rename_i heq
      obtain rfl := some.inj hnext
      have hnil : b.data = [] := length_eq_zero_iff.mp (by rw [b.length_data, hzero]; rfl)
      exact ⟨pos₀, h₀, by rw [hnil]; rfl, by rw [hnil]; rfl, fun _ => heq⟩
    · exact nomatch hnext
  · rename_i hne
    split at hnext
    · rename_i hb
      cases hnext
      exact ⟨pos₀, h₀, rfl, hb.2.2, fun hzero => absurd hzero hne⟩
    · exact nomatch hnext

/-- What a task has in hand when the stream is at `pos`. The content is wanted from `a` on, and it
has been handed on up to `base`. -/
def ReaderTask.Right (S : List UInt8) (a base pos : Nat) : ReaderTask κ → Prop
  | .skipOnWorkThread n _ => n = a ∧ pos = 0 ∧ base = a
  | .runSkipCallback n _ => n = a ∧ pos = a ∧ base = a
  | .readOnWorkThread size _ => 0 < size ∧ pos = base
  | .runReadCallback b _ => ReadAt S base pos b
  | _ => True

/-- What a result says when the stream is at `pos`. -/
def Delivery.Right (S : List UInt8) (a base pos : Nat) : Delivery κ → Prop
  | .skip n _ => n = a ∧ pos = a ∧ base = a
  | .read b _ => ReadAt S base pos b

namespace InputStreamReader

/-- What the reader has in hand when the stream is at `pos`. -/
structure At (S : List UInt8) (a base : Nat) (r : InputStreamReader κ) (pos : Nat) : Prop where
  tasks : ∀ t ∈ r.tasks, t.Right S a base pos
  skipping : r.pendingSkipCallback.isSome →
    r.bytesSkipped = a ∧ 0 < r.bytesToSkip ∧ pos + r.bytesToSkip = a ∧ base = a
  reading : r.pendingReadCallback.isSome → pos = base

/-- The reader is right wherever a stream with the content `S` is. -/
def Tracks (S : List UInt8) (a base : Nat) (r : InputStreamReader κ) : Prop :=
  ∀ pos, Conforms S r.answers pos → r.At S a base pos

variable {r r' : InputStreamReader κ}

lemma right_of_no_ops {tasks : List (ReaderTask κ)}
    (h : tasks.filterMap ReaderTask.op? = []) : ∀ t ∈ tasks, t.Right S a base pos := by
  intro t ht
  have hop := filterMap_eq_nil_iff.mp h t ht
  cases t <;> trivial

lemma at_of_ops_nil (h : r.ops = []) : r.At S a base pos := by
  obtain ⟨htasks, hpending⟩ := append_eq_nil_iff.mp h
  obtain ⟨hskip, hread⟩ := append_eq_nil_iff.mp hpending
  rw [toList_eq_nil_iff, map_eq_none_iff] at hskip hread
  exact ⟨right_of_no_ops htasks, by rw [hskip]; nofun, by rw [hread]; nofun⟩

lemma right_of_append {tasks : List (ReaderTask κ)} {t : ReaderTask κ}
    (h : tasks.filterMap ReaderTask.op? = []) (ht : t.Right S a base pos) :
    ∀ t' ∈ tasks ++ [t], t'.Right S a base pos := by
  intro t' ht'
  rcases mem_append.mp ht' with hmem | hmem
  · exact right_of_no_ops h t' hmem
  · obtain rfl := mem_singleton.mp hmem
    exact ht

variable {k : κ} {n : Int} {turn : StreamTurn}

lemma runSkipCallback_tracks (h : r.Working (.skip k))
    (hdone : ∀ pos, Conforms S r.answers pos → n = a ∧ pos = a ∧ base = a)
    (hr : r.runSkipCallback n = .ok r') : r'.Tracks S a base := by
  obtain ⟨hskip, hread⟩ := h.pending
  rw [runSkipCallback, hskip] at hr
  cases hr
  intro pos hpos
  exact ⟨right_of_append h.tasks_ops (hdone pos hpos), by rintro ⟨⟩,
    fun hsome => absurd hread (isSome_iff_ne_none.mp hsome)⟩

lemma runReadCallback_tracks {b : BytesRead} (h : r.Working (.read k))
    (hdone : ∀ pos, Conforms S r.answers pos → ReadAt S base pos b)
    (hr : r.runReadCallback b = .ok r') : r'.Tracks S a base := by
  obtain ⟨hskip, hread⟩ := h.pending
  rw [runReadCallback, hread] at hr
  cases hr
  intro pos hpos
  exact ⟨right_of_append h.tasks_ops (hdone pos hpos),
    fun hsome => absurd hskip (isSome_iff_ne_none.mp hsome), by rintro ⟨⟩⟩

/-- The reader has `bytesToSkip` bytes before it. -/
def Skipping (S : List UInt8) (a base : Nat) (r : InputStreamReader κ) : Prop :=
  ∀ pos, Conforms S r.answers pos →
    r.bytesSkipped = a ∧ 0 < r.bytesToSkip ∧ pos + r.bytesToSkip = a ∧ base = a

lemma Skipping.progress (h : r.Skipping S a base)
    (hpos : Conforms S (.skipped r.bytesToSkip n :: r.answers) pos) :
    0 < n ∧ n ≤ r.bytesToSkip ∧ r.bytesSkipped = a ∧ pos + (r.bytesToSkip - n) = a ∧ base = a := by
  obtain ⟨pos₀, h₀, hn, hle, heq⟩ := hpos.skipped
  obtain ⟨hskipped, _, hsum, hbase⟩ := h pos₀ h₀
  exact ⟨hn, hle, hskipped, by omega, hbase⟩

/-- **`SkipToRequestedRange`** arrives at the first byte that is wanted, if the stream conforms.

**Proof sketch.** Induction on the answers of the stream: after each of them the position and the
bytes that are left add up to `a`. -/
lemma skipToRequestedRange_tracks : ∀ (skips : List (Bool × Int))
    {r r' : InputStreamReader κ}, r.Working (.skip k) → r.Skipping S a base →
      skipToRequestedRange skips r = .ok r' → r'.Tracks S a base
  | [], _, _, _, _, hr => by cases hr
  | (result, skipped) :: rest, r, r', h, hskip, hr => by
    simp only [skipToRequestedRange] at hr
    have hcalled : InputStreamReader.Working { r.post (.skipCallback (r.nextCallbackId + 1)) with
        pendingCallbackId := r.nextCallbackId + 1, nextCallbackId := r.nextCallbackId + 1 }
        (.skip k) := h.call rfl rfl ⟨rfl, rfl⟩ rfl
    split at hr
    · cases hr
      intro pos hpos
      refine ⟨right_of_append h.tasks_ops trivial, fun _ => hskip pos hpos, fun hsome => ?_⟩
      exact absurd h.pending.2 (isSome_iff_ne_none.mp hsome)
    · split at hr
      · refine runSkipCallback_tracks (hcalled.take _) (fun pos hpos => ?_) hr
        exact absurd (hskip.progress hpos).1 (by decide)
      · split at hr
        · rename_i hmore
          refine skipToRequestedRange_tracks rest (hcalled.take _).skipped (fun pos hpos => ?_) hr
          obtain ⟨_, _, hskipped, hsum, hbase⟩ := hskip.progress hpos
          exact ⟨hskipped, hmore, hsum, hbase⟩
        · rename_i hdone
          refine runSkipCallback_tracks (hcalled.take _).skipped (fun pos hpos => ?_) hr
          obtain ⟨_, hle, hskipped, hsum, hbase⟩ := hskip.progress hpos
          have hdone : ¬ 0 < r.bytesToSkip - skipped := hdone
          exact ⟨hskipped, by omega, hbase⟩

lemma skipOnWorkThread_tracks (h : r.Idle)
    (hposted : ∀ pos, Conforms S r.answers pos → n = a ∧ pos = 0 ∧ base = a)
    (hr : r.skipOnWorkThread n k turn = .ok r') : r'.Tracks S a base := by
  have hwork := h.work_skip k
  rw [skipOnWorkThread, dcheck, if_pos h.id, dcheck, if_pos (by rw [h.pending.1]; rfl)] at hr
  simp only [ok_bind] at hr
  split at hr
  · rename_i hle
    refine runSkipCallback_tracks hwork (fun pos hpos => ?_) hr
    obtain ⟨hn, hzero, hbase⟩ := hposted pos hpos
    exact ⟨by omega, by omega, hbase⟩
  · rename_i hpos
    have hskip : InputStreamReader.Working { r with
        pendingSkipCallback := some k, bytesSkipped := n, bytesToSkip := n } (.skip k) :=
      { hwork with }
    refine skipToRequestedRange_tracks turn.skips hskip (fun pos hconf => ?_) hr
    obtain ⟨hn, hzero, hbase⟩ := hposted pos hconf
    exact ⟨hn, Int.not_le.mp hpos, by dsimp only; omega, hbase⟩

lemma readOnWorkThread_tracks (h : r.Idle) {size : Nat}
    (hposted : ∀ pos, Conforms S r.answers pos → 0 < size ∧ pos = base)
    (hr : r.readOnWorkThread size k turn = .ok r') : r'.Tracks S a base := by
  have hwork := h.work_read k
  rw [readOnWorkThread, dcheck, if_pos h.id, dcheck, if_pos (by rw [h.pending.2]; rfl)] at hr
  simp only [ok_bind] at hr
  split at hr
  · rename_i hzero
    refine runReadCallback_tracks hwork (fun pos hpos => ?_) hr
    exact absurd (hposted pos hpos).1 (by omega)
  · have hcalled : InputStreamReader.Working { InputStreamReader.post
        (.readCallback (r.nextCallbackId + 1)) { r with pendingReadCallback := some k } with
          pendingCallbackId := r.nextCallbackId + 1, nextCallbackId := r.nextCallbackId + 1 }
        (.read k) := hwork.call rfl rfl ⟨rfl, rfl⟩ rfl
    split at hr
    · cases hr
      intro pos hpos
      refine ⟨right_of_append hwork.tasks_ops trivial, fun hsome => ?_, fun _ => ?_⟩
      · exact absurd h.pending.1 (isSome_iff_ne_none.mp hsome)
      · exact (hposted pos hpos).2
    · refine runReadCallback_tracks (hcalled.take _) (fun pos hpos => ?_) hr
      obtain ⟨pos₀, h₀, hread⟩ := hpos.read
      exact (hposted pos₀ h₀).2 ▸ hread

lemma continueSkipCallback_tracks (h : r.Working (.skip k)) (hskip : r.Skipping S a base)
    (hr : r.continueSkipCallbackOnWorkThread r.pendingCallbackId n = .ok r') :
    r'.Tracks S a base := by
  rw [continueSkipCallbackOnWorkThread, if_neg (not_not.mpr rfl)] at hr
  dsimp only at hr
  have hleft : ∀ {pos : Nat}, Conforms S (.skipped r.bytesToSkip n :: r.answers) pos →
      (if 0 < r.bytesToSkip ∧ 0 < n then r.bytesToSkip - n else r.bytesToSkip) =
        r.bytesToSkip - n := by
    intro pos hpos
    obtain ⟨hn, hle, _⟩ := hskip.progress hpos
    exact if_pos ⟨by omega, hn⟩
  generalize (if 0 < r.bytesToSkip ∧ 0 < n then r.bytesToSkip - n else r.bytesToSkip) = left
    at hr hleft
  split at hr
  · rename_i hle
    refine runSkipCallback_tracks (h.take _).skipped (fun pos hpos => ?_) hr
    exact absurd (hskip.progress hpos).1 (by omega)
  · split at hr
    · rename_i hmore
      cases hr
      intro pos hpos
      obtain ⟨_, _, hskipped, hsum, hbase⟩ := hskip.progress hpos
      have hleft := hleft hpos
      refine ⟨right_of_append (t := .skipToRequestedRange) h.tasks_ops trivial, fun _ => ?_,
        fun hsome => absurd h.pending.2 (isSome_iff_ne_none.mp hsome)⟩
      exact ⟨hskipped, hmore, by rw [← hleft] at hsum; exact hsum, hbase⟩
    · rename_i hdone
      refine runSkipCallback_tracks (h.take _).skipped (fun pos hpos => ?_) hr
      obtain ⟨_, hle, hskipped, hsum, hbase⟩ := hskip.progress hpos
      have hleft := hleft hpos
      exact ⟨hskipped, by omega, hbase⟩

lemma continueReadCallback_tracks {b : BytesRead} (h : r.Working (.read k))
    (hread : ∀ pos, Conforms S r.answers pos → pos = base)
    (hr : r.continueReadCallbackOnWorkThread r.pendingCallbackId b = .ok r') :
    r'.Tracks S a base := by
  rw [continueReadCallbackOnWorkThread, if_neg (not_not.mpr rfl)] at hr
  refine runReadCallback_tracks (h.take _) (fun pos hpos => ?_) hr
  obtain ⟨pos₀, h₀, hb⟩ := hpos.read
  exact hread pos₀ h₀ ▸ hb

section Pick

variable {i : Nat} {t : ReaderTask κ} {rest : List (ReaderTask κ)}

lemma At.drop (h : r.At S a base pos) (hpick : pick r.tasks i = some (t, rest)) :
    InputStreamReader.At S a base { r with tasks := rest } pos :=
  { h with tasks := fun t' ht' => h.tasks t' (subset_of_pick hpick ht') }

lemma At.of_pick {u : ReaderTask κ} (h : r.At S a base pos)
    (hpick : pick r.tasks i = some (t, rest)) (hu : u.Right S a base pos) :
    InputStreamReader.At S a base { r with tasks := rest ++ [u] } pos :=
  { h with
    tasks := fun x hx => by
      rcases mem_append.mp hx with hmem | hmem
      · exact h.tasks x (subset_of_pick hpick hmem)
      · obtain rfl := mem_singleton.mp hmem
        exact hu }

end Pick

/-- **What the reader hands on.** A reader that tracks the content goes on to do so, and the result
of an operation is right.

**Proof sketch.** The task that is run carries the operation, or goes on with it, or belongs to an
earlier call. -/
theorem run_tracks {i : Nat} {d : Option (Delivery κ)} (h : r.Inv)
    (ht : r.Tracks S a base) (hr : r.run i turn = .ok (r', d)) :
    r'.Tracks S a base ∧ ∀ pos, Conforms S r'.answers pos → ∀ x ∈ d, x.Right S a base pos := by
  obtain ⟨t, rest, hpick, hexecutes⟩ := executes_of_run hr
  have hmem := mem_of_pick hpick
  cases hexecutes with
  | skipOnWorkThread n k hskip =>
    obtain ⟨_, hidle⟩ := h.idle_of_pick hpick rfl
    exact ⟨skipOnWorkThread_tracks hidle (fun pos hpos => (ht pos hpos).tasks _ hmem) hskip, by rintro _ _ _ ⟨⟩⟩
  | readOnWorkThread size k hread =>
    obtain ⟨_, hidle⟩ := h.idle_of_pick hpick rfl
    exact ⟨readOnWorkThread_tracks hidle (fun pos hpos => (ht pos hpos).tasks _ hmem) hread, by rintro _ _ _ ⟨⟩⟩
  | skipToRequestedRange hskip =>
    obtain ⟨op, hskips, _, hwork, _⟩ := h.working_of_pick hpick rfl
    cases op with
    | read k => cases hskips
    | skip k =>
      refine ⟨skipToRequestedRange_tracks turn.skips hwork (fun pos hpos => ?_) hskip, by rintro _ _ _ ⟨⟩⟩
      exact (ht pos hpos).skipping (by rw [hwork.pending.1]; rfl)
  | skipCallback id hposted =>
    subst hposted
    refine ⟨fun pos hpos => ?_, by rintro _ _ _ ⟨⟩⟩
    exact (ht pos hpos).of_pick hpick (u := .continueSkipCallback id turn.bytesSkipped) trivial
  | readCallback id hposted =>
    subst hposted
    refine ⟨fun pos hpos => ?_, by rintro _ _ _ ⟨⟩⟩
    exact (ht pos hpos).of_pick hpick (u := .continueReadCallback id turn.bytesRead) trivial
  | continueSkipCallback id n hskip =>
    by_cases hid : r.pendingCallbackId = id
    · subst hid
      obtain ⟨op, hskips, _, hwork, _⟩ := h.working_of_pick hpick
        (show _ = some true from if_pos rfl)
      cases op with
      | read k => cases hskips
      | skip k =>
        refine ⟨continueSkipCallback_tracks hwork (fun pos hpos => ?_) hskip, by rintro _ _ _ ⟨⟩⟩
        exact (ht pos hpos).skipping (by rw [hwork.pending.1]; rfl)
    · rw [continueSkipCallbackOnWorkThread, if_pos hid] at hskip
      cases hskip
      exact ⟨fun pos hpos => (ht pos hpos).drop hpick, by rintro _ _ _ ⟨⟩⟩
  | continueReadCallback id b hread =>
    by_cases hid : r.pendingCallbackId = id
    · subst hid
      obtain ⟨op, hskips, _, hwork, _⟩ := h.working_of_pick hpick
        (show _ = some false from if_pos rfl)
      cases op with
      | skip k => cases hskips
      | read k =>
        refine ⟨continueReadCallback_tracks hwork (fun pos hpos => ?_) hread, by rintro _ _ _ ⟨⟩⟩
        exact (ht pos hpos).reading (by rw [hwork.pending.2]; rfl)
    · rw [continueReadCallbackOnWorkThread, if_pos hid] at hread
      cases hread
      exact ⟨fun pos hpos => (ht pos hpos).drop hpick, by rintro _ _ _ ⟨⟩⟩
  | runSkipCallback n k hsame =>
    subst hsame
    refine ⟨fun pos hpos => (ht pos hpos).drop hpick, fun pos hpos x hx => ?_⟩
    cases hx
    exact (ht pos hpos).tasks _ hmem
  | runReadCallback b k hsame =>
    subst hsame
    refine ⟨fun pos hpos => (ht pos hpos).drop hpick, fun pos hpos x hx => ?_⟩
    cases hx
    exact (ht pos hpos).tasks _ hmem

section Answers

variable {n : Int} {turn : StreamTurn}

lemma runSkipCallback_answers (hr : r.runSkipCallback n = .ok r') : r'.answers = r.answers := by
  rw [runSkipCallback] at hr
  split at hr
  · exact nomatch hr
  · exact ok.inj hr ▸ rfl

lemma runReadCallback_answers {b : BytesRead} (hr : r.runReadCallback b = .ok r') :
    r'.answers = r.answers := by
  rw [runReadCallback] at hr
  split at hr
  · exact nomatch hr
  · exact ok.inj hr ▸ rfl

lemma suffix_of_take {answers : List StreamAnswer} {x : StreamAnswer}
    (h : r'.answers = x :: answers) : answers <:+ r'.answers := h ▸ suffix_cons x answers

lemma skipToRequestedRange_answers : ∀ (skips : List (Bool × Int)) {r r' : InputStreamReader κ},
    skipToRequestedRange skips r = .ok r' → r.answers <:+ r'.answers
  | [], _, _, hr => nomatch hr
  | (result, skipped) :: rest, r, r', hr => by
    simp only [skipToRequestedRange] at hr
    split at hr
    · exact ok.inj hr ▸ suffix_refl _
    · split at hr
      · exact suffix_of_take (runSkipCallback_answers hr)
      · split at hr
        · exact (suffix_cons _ _).trans (skipToRequestedRange_answers rest hr)
        · exact suffix_of_take (runSkipCallback_answers hr)

lemma skipOnWorkThread_answers {k : κ}
    (hr : r.skipOnWorkThread n k turn = .ok r') : r.answers <:+ r'.answers := by
  obtain ⟨_, _, hr⟩ := bind_eq_ok_iff.mp hr
  obtain ⟨_, _, hr⟩ := bind_eq_ok_iff.mp hr
  split at hr
  · exact runSkipCallback_answers hr ▸ suffix_refl _
  · have hsuffix := skipToRequestedRange_answers turn.skips hr
    exact hsuffix

lemma readOnWorkThread_answers {size : Nat} {k : κ}
    (hr : r.readOnWorkThread size k turn = .ok r') : r.answers <:+ r'.answers := by
  obtain ⟨_, _, hr⟩ := bind_eq_ok_iff.mp hr
  obtain ⟨_, _, hr⟩ := bind_eq_ok_iff.mp hr
  split at hr
  · exact runReadCallback_answers hr ▸ suffix_refl _
  · split at hr
    · exact ok.inj hr ▸ suffix_refl _
    · exact suffix_of_take (runReadCallback_answers hr)

lemma continueSkipCallback_answers {id : Int}
    (hr : r.continueSkipCallbackOnWorkThread id n = .ok r') : r.answers <:+ r'.answers := by
  rw [continueSkipCallbackOnWorkThread] at hr
  split at hr
  · exact ok.inj hr ▸ suffix_refl _
  · dsimp only at hr
    generalize (if 0 < r.bytesToSkip ∧ 0 < n then r.bytesToSkip - n else r.bytesToSkip) = left at hr
    split at hr
    · exact suffix_of_take (runSkipCallback_answers hr)
    · split at hr
      · cases hr
        exact suffix_cons _ _
      · exact suffix_of_take (runSkipCallback_answers hr)

lemma continueReadCallback_answers {id : Int} {b : BytesRead}
    (hr : r.continueReadCallbackOnWorkThread id b = .ok r') : r.answers <:+ r'.answers := by
  rw [continueReadCallbackOnWorkThread] at hr
  split at hr
  · exact ok.inj hr ▸ suffix_refl _
  · exact suffix_of_take (runReadCallback_answers hr)

lemma run_answers {i : Nat} {d : Option (Delivery κ)}
    (hr : r.run i turn = .ok (r', d)) : r.answers <:+ r'.answers := by
  obtain ⟨t, rest, -, hexecutes⟩ := executes_of_run hr
  have hstart : r.answers = ({ r with tasks := rest } : InputStreamReader κ).answers := rfl
  rw [hstart]
  cases hexecutes with
  | skipOnWorkThread n k hskip => exact skipOnWorkThread_answers hskip
  | readOnWorkThread size k hread => exact readOnWorkThread_answers hread
  | skipToRequestedRange hskip => exact skipToRequestedRange_answers turn.skips hskip
  | continueSkipCallback id n hskip => exact continueSkipCallback_answers hskip
  | continueReadCallback id b hread => exact continueReadCallback_answers hread
  | skipCallback id hposted => exact hposted ▸ suffix_refl _
  | readCallback id hposted => exact hposted ▸ suffix_refl _
  | runSkipCallback n k hsame => exact hsame ▸ suffix_refl _
  | runReadCallback b k hsame => exact hsame ▸ suffix_refl _

end Answers

end InputStreamReader

/-- The bytes of `S` that a request for the range asks for. -/
def requested (S : List UInt8) (a : Nat) : Option Nat → List UInt8
  | none => S.drop a
  | some b => (S.drop a).take (b - a + 1)

/-- The range `a-b`, or `a-`. -/
def byteRange (a : Nat) (last : Option Nat) : HttpByteRange where
  firstBytePosition := a
  lastBytePosition := last.elim (-1) fun b => b

/-- The content length with which `HeadersComplete` is called for the range. -/
def expectedLength (a : Nat) (last : Option Nat) : Int :=
  last.elim (-1) fun b => b - a + 1

def LoaderTask.Right (a : Nat) (last : Option Nat) (s : LoaderSystem) : LoaderTask → Prop
  | .continueWithRequestHeaders _ =>
    s.loader.needClientCallback = false ∧ s.loader.hasInputStreamReader = false
  | .continueWithResponseHeaders _ _ =>
    s.loader.hasInputStreamReader = true → s.announced = some (expectedLength a last)
  | .readMore _ => s.loader.needClientCallback = true
  | _ => True

namespace LoaderSystem

/-- The loader copies the content from `a` on, and announces the length of the range. -/
structure Copies (S : List UInt8) (a : Nat) (last : Option Nat) (s : LoaderSystem) : Prop where
  range : s.loader.byteRange = byteRange a last
  fresh : ¬ s.Over → s.loader.weakPtr = 0
  tracks : s.reader.Tracks S a (a + s.committed.length)
  body : ∀ pos, Conforms S s.reader.answers pos →
    s.committed = (S.drop a).take s.committed.length
  unopened : s.loader.hasInputStreamReader = false → s.committed = [] ∧ s.reader = .new
  response : s.loader.hasInputStreamReader = true → s.loader.needClientCallback = true →
    s.announced = some (expectedLength a last)
  reading : s.loader.pendingBuffer.isSome → s.loader.needClientCallback = true

def Settled (S : List UInt8) (a : Nat) (s : LoaderSystem) : Prop :=
  s.loader.hasInputStreamReader = true →
    ∀ pos, Conforms S s.reader.answers pos → pos = a + s.committed.length

/-- The invariant for the content: what is about is right, and a request that has been completed has
copied the content to its end. -/
structure Serves (S : List UInt8) (a : Nat) (last : Option Nat) (s : LoaderSystem) : Prop
    extends Copies S a last s where
  tasks : ∀ t ∈ s.tasks, t.ptr? = some s.loader.weakPtr → t.Right a last s
  callback : s.wrapper.callback = some s.loader.weakPtr →
    s.loader.needClientCallback = false ∧ s.loader.hasInputStreamReader = false
  armed : s.loader.writableHandleWatcher = .armed → s.loader.needClientCallback = true
  settled : ¬ s.Over → s.reader.ops = [] → s.Settled S a
  complete : s.loader.hasInputStreamReader = true →
    (∃ dataLength bodyLength, .onComplete OK dataLength bodyLength ∈ s.calls) →
      s.announced = some (expectedLength a last) ∧
        ∀ pos, Conforms S s.reader.answers pos → s.committed = S.drop a

variable {last : Option Nat} {s : LoaderSystem}

/-! ### The moves of the loader -/

lemma not_complete (h : ¬ s.Ended) {dataLength bodyLength : Int} :
    .onComplete OK dataLength bodyLength ∉ s.calls := fun hmem => h ⟨_, hmem, trivial⟩

lemma Copies.serves_of_over (hc : s.Copies S a last) (h : s.Inv) (hover : s.Over)
    (hcomplete : s.loader.hasInputStreamReader = true →
      (∃ dataLength bodyLength, .onComplete OK dataLength bodyLength ∈ s.calls) →
        s.announced = some (expectedLength a last) ∧
          ∀ pos, Conforms S s.reader.answers pos → s.committed = S.drop a) :
    s.Serves S a last :=
  { hc with
    tasks := fun t ht hptr => absurd rfl (h.stale hover _ (.inl ⟨t, ht, hptr⟩))
    callback := fun hcallback => absurd rfl (h.stale hover _ (.inr (.inl hcallback)))
    armed := fun harmed => absurd harmed (h.unarmed hover)
    settled := absurd hover
    complete := hcomplete }

lemma Copies.ends (hc : s.Copies S a last) (hnot : ¬ s.Ended) {c : ClientCall}
    (hinv : (s.cleanUp.tell c).Inv) (hends : c.Ends)
    (hok : s.loader.hasInputStreamReader = true →
      (∃ dataLength bodyLength, c = .onComplete OK dataLength bodyLength) →
        s.announced = some (expectedLength a last) ∧
          ∀ pos, Conforms S s.reader.answers pos → s.committed = S.drop a) :
    (s.cleanUp.tell c).Serves S a last := by
  have hover : (s.cleanUp.tell c).Over := .inr ⟨c, mem_cons_self, hends⟩
  have hcopies : (s.cleanUp.tell c).Copies S a last := { hc with
    fresh := absurd hover
    reading := nofun }
  refine hcopies.serves_of_over hinv hover ?_
  rintro hopened ⟨dataLength, bodyLength, hmem⟩
  rcases mem_cons.mp hmem with heq | hmem
  · exact hok hopened ⟨dataLength, bodyLength, heq.symm⟩
  · exact absurd hmem (not_complete hnot)

lemma Copies.fails (hc : s.Copies S a last) (h : s.Books) (hnot : ¬ s.Ended) {status : Int}
    (hstatus : status ≠ OK) : (s.requestComplete status).Serves S a last := by
  refine hc.ends hnot (requestComplete_inv h hnot status) trivial fun _ hok => ?_
  obtain ⟨_, _, heq⟩ := hok
  exact absurd (ClientCall.onComplete.inj heq).1 hstatus

lemma Running.tasks_right (h : s.Running) {s' : LoaderSystem} :
    ∀ t ∈ s.tasks, t.ptr? = some s.loader.weakPtr → t.Right a last s' := by
  intro t ht hptr
  have hzero := h.no_token
  rw [heldTokens] at hzero
  have hnone : s.tasks.filterMap (LoaderTask.token? s.loader.weakPtr) = [] :=
    length_eq_zero_iff.mp (by omega)
  have htoken := filterMap_eq_nil_iff.mp hnone t ht
  cases t <;> simp_all [LoaderTask.token?, LoaderTask.ptr?, LoaderTask.Right]

lemma Running.callback_ne (h : s.Running) : s.wrapper.callback ≠ some s.loader.weakPtr := by
  intro heq
  have hzero := h.no_token
  rw [heldTokens, otherTokens, if_pos heq] at hzero
  omega

lemma Running.watcher_ne (h : s.Running) : s.loader.writableHandleWatcher ≠ .armed := by
  intro heq
  have hzero := h.no_token
  rw [heldTokens, otherTokens, if_pos heq] at hzero
  omega

lemma Copies.rest (hc : s.Copies S a last) (h : s.Running) (hset : s.Settled S a) :
    s.Serves S a last :=
  { hc with
    tasks := h.tasks_right
    callback := fun hcallback => absurd hcallback h.callback_ne
    armed := fun harmed => absurd harmed h.watcher_ne
    settled := fun _ _ => hset
    complete := fun _ ⟨_, _, hmem⟩ => absurd hmem (not_complete h.not_ended) }

variable {i : Nat} {t : LoaderTask}

lemma Serves.post (hs : s.Serves S a last)
    (ht : t.ptr? = some s.loader.weakPtr → t.Right a last s) : (s.post t).Serves S a last :=
  { hs with
    tasks := fun t' ht' hptr => by
      rcases mem_append.mp ht' with hmem | hmem
      · exact hs.tasks t' hmem hptr
      · obtain rfl := mem_singleton.mp hmem
        exact ht hptr }

lemma Copies.ask (hc : s.Copies S a last) (h : s.Running) {t : ReaderTask Nat}
    (hopened : s.loader.hasInputStreamReader = true) (hop : t.op?.isSome)
    (ht : ∀ pos, Conforms S s.reader.answers pos → t.Right S a (a + s.committed.length) pos) :
    LoaderSystem.Serves S a last { s with reader := s.reader.post t } := by
  obtain ⟨op, hop⟩ := isSome_iff_exists.mp hop
  obtain ⟨_, hops⟩ := h.reader.ask h.no_op hop
  have hcopies : LoaderSystem.Copies S a last { s with reader := s.reader.post t } := { hc with
    tracks := fun pos hpos => by
      have hat : s.reader.At S a (a + s.committed.length) pos := at_of_ops_nil h.no_op
      refine { hat with tasks := fun t' ht' => ?_ }
      rcases mem_append.mp ht' with hmem | hmem
      · exact hat.tasks t' hmem
      · obtain rfl := mem_singleton.mp hmem
        exact ht pos hpos
    unopened := fun hnot => nomatch hopened.symm.trans hnot }
  exact { hcopies with
    tasks := h.tasks_right
    callback := fun hcallback => absurd hcallback h.callback_ne
    armed := fun harmed => absurd harmed h.watcher_ne
    settled := fun _ hnone => nomatch hops.symm.trans hnone
    complete := fun _ ⟨_, _, hmem⟩ => absurd hmem (not_complete h.not_ended) }

lemma Copies.transfer (hc : s.Copies S a last) (h : s.Running) {b : BytesRead}
    (hopened : s.loader.hasInputStreamReader = true)
    (hread : ∀ pos, Conforms S s.reader.answers pos → ReadAt S (a + s.committed.length) pos b) :
    (s.transfer b).Copies S a last ∧ (s.transfer b).Settled S a := by
  refine ⟨{ hc with
    fresh := fun _ => hc.fresh h.going_on
    tracks := fun pos _ => at_of_ops_nil h.no_op
    body := fun pos hpos => ?_
    unopened := fun hnot => nomatch hopened.symm.trans hnot
    reading := nofun }, fun _ pos hpos => ?_⟩
  · have hdata := (hread pos hpos).data_eq
    rw [← drop_drop] at hdata
    calc s.committed ++ b.data
        = (S.drop a).take s.committed.length ++
            ((S.drop a).drop s.committed.length).take b.data.length := by
          rw [← hdata, ← hc.body pos hpos]
      _ = (S.drop a).take (s.committed ++ b.data).length := by
          rw [← take_add, length_append]
  · have heq := (hread pos hpos).pos_eq
    rw [LoaderSystem.transfer, length_append]
    omega

/-! ### The functions of the loader -/

def Serving (S : List UInt8) (a : Nat) (last : Option Nat) (x : Except LoaderStop LoaderSystem) :
    Prop :=
  ∀ s, x = .ok s → s.Serves S a last

lemma Serving.ok (h : s.Serves S a last) : Serving S a last (.ok s) :=
  fun _ heq => ok.inj heq ▸ h

lemma Serving.error (e : LoaderStop) : Serving S a last (.error e) := by
  intro s heq
  cases heq

lemma Copies.whole (hc : s.Copies S a last) {pos : Nat} (hpos : Conforms S s.reader.answers pos)
    (heof : a + s.committed.length = S.length) : s.committed = S.drop a :=
  calc s.committed = (S.drop a).take s.committed.length := hc.body pos hpos
    _ = S.drop a := take_of_length_le (by rw [length_drop]; omega)

section

variable (h : s.Running) (hc : s.Copies S a last)
include h hc

lemma onReaderReadCompleted_serves {size : Nat} (hbuffer : s.loader.pendingBuffer = some size)
    (hopened : s.loader.hasInputStreamReader = true) {b : BytesRead}
    (hread : ∀ pos, Conforms S s.reader.answers pos → ReadAt S (a + s.committed.length) pos b) :
    Serving S a last (s.onReaderReadCompleted b) := by
  have hneed := hc.reading (by rw [hbuffer]; rfl)
  rw [onReaderReadCompleted, hbuffer]
  dsimp only
  split
  · exact .error _
  · split
    · rename_i hneg
      exact .ok (hc.fails h.toBooks h.not_ended (Int.ne_of_lt hneg))
    · split
      · rename_i hzero
        refine .ok (hc.ends h.not_ended (requestComplete_inv h.toBooks h.not_ended OK) trivial
          fun _ _ => ⟨hc.response hopened hneed, fun pos hpos => ?_⟩)
        exact hc.whole hpos ((hread pos hpos).eof hzero)
      · obtain ⟨hcopies, hset⟩ := hc.transfer h hopened hread
        exact .ok ((hcopies.rest (h.transfer b (by omega)) hset).post fun _ => hneed)

section

variable (hset : s.Settled S a)
include hset

lemma readMore_serves
    (hbuffer : s.loader.pendingBuffer = none) (hneed : s.loader.needClientCallback = true)
    (turn : LoaderTurn) : Serving S a last (s.readMore turn) := by
  rw [readMore, dcheck, if_pos (by rw [hbuffer]; rfl)]
  simp only [ok_bind]
  cases turn.beginWrite with
  | shouldWait =>
    have hserves := hc.rest h hset
    exact .ok { hserves with armed := fun _ => hneed }
  | failedPrecondition => exact .ok (hc.fails h.toBooks h.not_ended (by decide))
  | failed => exact .ok (hc.fails h.toBooks h.not_ended (by decide))
  | ok size size_pos =>
    have hpending : LoaderSystem.Running { s with loader := { s.loader with
        producerHandle := false, pendingBuffer := some size } } := { h with }
    have hcopies : LoaderSystem.Copies S a last { s with loader := { s.loader with
        producerHandle := false, pendingBuffer := some size } } := { hc with
      reading := fun _ => hneed }
    dsimp only
    split
    · rename_i hnot
      have hnot : s.loader.hasInputStreamReader = false := by simpa using hnot
      have hinv := requestComplete_inv hpending.toBooks hpending.not_ended OK
      refine .ok (hcopies.ends hpending.not_ended hinv trivial fun hopened _ => ?_)
      cases (hnot.symm.trans hopened)
    · rename_i hopened
      have hopened : s.loader.hasInputStreamReader = true := by simpa using hopened
      exact .ok (hcopies.ask (t := .readOnWorkThread size s.loader.weakPtr) hpending hopened rfl
        fun pos hpos => ⟨size_pos, hset hopened pos hpos⟩)

lemma onDataPipeWritable_serves
    (hbuffer : s.loader.pendingBuffer = none) (hneed : s.loader.needClientCallback = true)
    (closed : Bool) (turn : LoaderTurn) :
    Serving S a last (s.onDataPipeWritable closed turn) := by
  rw [onDataPipeWritable]
  split
  · exact .ok (hc.fails h.toBooks h.not_ended (by decide))
  · exact readMore_serves h hc hset hbuffer hneed turn

lemma continueWithResponseHeaders_serves (hannounced : s.loader.hasInputStreamReader = true →
      s.announced = some (expectedLength a last)) (contentLength result : Int) (turn : LoaderTurn) :
    (s.continueWithResponseHeaders contentLength result turn).Serves S a last := by
  rw [continueWithResponseHeaders]
  split
  · rename_i hresult
    exact hc.fails h.toBooks h.not_ended hresult
  · have hheaders : LoaderSystem.Running
        { s with loader := { s.loader with headerLength := turn.headerLength } } := { h with }
    have hcopies : LoaderSystem.Copies S a last
        { s with loader := { s.loader with headerLength := turn.headerLength } } := { hc with }
    split
    · refine hcopies.ends hheaders.not_ended ?_ trivial (by rintro - ⟨_, _, ⟨⟩⟩)
      exact end_inv hheaders.toBooks hheaders.not_ended trivial (by rintro _ _ _ ⟨⟩)
    · split
      · exact hcopies.fails hheaders.toBooks hheaders.not_ended (by decide)
      · have hserves := hcopies.rest hheaders hset
        exact { hserves with
          fresh := fun _ => hc.fresh h.going_on
          response := fun hopened _ => hannounced hopened
          reading := fun _ => rfl
          tasks := hheaders.tasks_right
          callback := fun hcallback => absurd hcallback hheaders.callback_ne
          armed := fun _ => rfl
          settled := fun _ _ => hset
          complete := by
            rintro _ ⟨_, _, hmem⟩
            rcases mem_cons.mp hmem with heq | hmem
            · cases heq
            · exact absurd hmem (not_complete h.not_ended) }

lemma headersComplete_serves {expected : Int} (hexpected : s.loader.hasInputStreamReader = true →
      expected = expectedLength a last) (status : Int) (turn : LoaderTurn) :
    (s.headersComplete status expected turn).Serves S a last := by
  have hannounced : LoaderSystem.Running { s with announced := some expected } := { h with }
  have hcopies : LoaderSystem.Copies S a last { s with announced := some expected } := { hc with
    response := fun hopened _ => congrArg some (hexpected hopened) }
  rw [headersComplete]
  split
  · rename_i hneg
    exact hcopies.fails hannounced.toBooks hannounced.not_ended (Int.ne_of_lt hneg)
  · split
    · refine (hcopies.rest hannounced hset).post fun _ => ?_
      exact fun hopened => congrArg some (hexpected hopened)
    · refine continueWithResponseHeaders_serves hannounced hcopies hset ?_ _ _ turn
      exact fun hopened => congrArg some (hexpected hopened)

end

end

lemma byteRange_valid (hrange : ∀ b ∈ last, a ≤ b) : (byteRange a last).isValid := by
  cases last with
  | none => simp [byteRange, HttpByteRange.isValid]
  | some b => simp [byteRange, HttpByteRange.isValid, hrange b rfl]

lemma Copies.byteRangeValid (hc : s.Copies S a last) (hrange : ∀ b ∈ last, a ≤ b) :
    s.byteRangeValid = true := by
  rw [LoaderSystem.byteRangeValid, hc.range, byteRange_valid hrange]
  simp [byteRange]

lemma expectedLength_eq : (if (byteRange a last).hasLastBytePosition then
    (byteRange a last).lastBytePosition - (byteRange a last).firstBytePosition + 1 else -1) =
      expectedLength a last := by
  cases last with
  | none => rfl
  | some b =>
    have hlast : (byteRange a (some b)).hasLastBytePosition = true :=
      decide_eq_true (Int.ne_of_gt (Int.lt_of_lt_of_le (by decide) (Int.natCast_nonneg b)))
    rw [if_pos hlast]
    rfl

lemma onReaderSkipCompleted_serves (h : s.Running) (hc : s.Copies S a last)
    (hrange : ∀ b ∈ last, a ≤ b) (hset : s.Settled S a) (n : Int) (turn : LoaderTurn) :
    (s.onReaderSkipCompleted n turn).Serves S a last := by
  rw [onReaderSkipCompleted, hc.byteRangeValid hrange]
  rw [if_neg (by decide)]
  split
  · refine headersComplete_serves h hc hset (fun _ => ?_) _ turn
    rw [hc.range]
    exact expectedLength_eq
  · refine hc.fails h.toBooks h.not_ended ?_
    split
    · rename_i hneg
      exact Int.ne_of_lt hneg
    · decide

/-- **`OnInputStreamOpened`** asks for the bytes before the range to be skipped. -/
lemma onInputStreamOpened_serves (h : s.Running) (hc : s.Copies S a last)
    (hrange : ∀ b ∈ last, a ≤ b) (hearly : s.loader.needClientCallback = false ∧
      s.loader.hasInputStreamReader = false) (inputStream : Bool) (turn : LoaderTurn) :
    (s.onInputStreamOpened inputStream turn).Serves S a last := by
  have hreset : LoaderSystem.Running
      { s with loader := { s.loader with openCancelCallback := false } } := { h with }
  have hcopies : LoaderSystem.Copies S a last
      { s with loader := { s.loader with openCancelCallback := false } } := { hc with }
  have hset : LoaderSystem.Settled S a
      { s with loader := { s.loader with openCancelCallback := false } } :=
    fun hopened => by cases (hearly.2.symm.trans hopened)
  rw [onInputStreamOpened]
  dsimp only
  split
  · split
    · exact headersComplete_serves hreset hcopies hset
        (fun hopened => by cases (hearly.2.symm.trans hopened)) _ turn
    · exact hcopies.rest hreset hset
  · have hopened : LoaderSystem.Running { s with loader := { s.loader with
        openCancelCallback := false, hasInputStreamReader := true } } := { h with }
    have hcopies : LoaderSystem.Copies S a last { s with loader := { s.loader with
        openCancelCallback := false, hasInputStreamReader := true } } := { hc with
      unopened := by rintro ⟨⟩
      response := fun _ hneed => by cases (hearly.1.symm.trans hneed) }
    rw [hcopies.byteRangeValid hrange, if_neg (by decide)]
    refine hcopies.ask (t := .skipOnWorkThread _ s.loader.weakPtr) hopened rfl rfl ?_
    intro pos hpos
    obtain ⟨hnil, hnew⟩ := hc.unopened hearly.2
    have hzero : Conforms S (InputStreamReader.new (κ := Nat)).answers pos := hnew ▸ hpos
    have hfirst : s.loader.byteRange.firstBytePosition = a := by rw [hc.range]; rfl
    exact ⟨hfirst, (some.inj hzero).symm, by dsimp only; rw [hnil]; rfl⟩

lemma continueWithRequestHeaders_serves (h : s.Running) (hc : s.Copies S a last)
    (hearly : s.loader.needClientCallback = false ∧ s.loader.hasInputStreamReader = false)
    (result : Int) : (s.continueWithRequestHeaders result).Serves S a last := by
  rw [continueWithRequestHeaders]
  split
  · rename_i hresult
    exact hc.fails h.toBooks h.not_ended hresult
  · have hserves := hc.rest h fun hopened => by cases (hearly.2.symm.trans hopened)
    have hwrapper : LoaderSystem.Serves S a last { s with
        loader := { s.loader with openCancelCallback := true }
        wrapper := ⟨some s.loader.weakPtr, false⟩ } := { hserves with
      tasks := h.tasks_right
      callback := fun _ => hearly }
    exact hwrapper.post (by rintro ⟨⟩)

/-! ### Tasks and callbacks -/

lemma Serves.drop (hs : s.Serves S a last) {rest : List LoaderTask}
    (hpick : pick s.tasks i = some (t, rest)) :
    LoaderSystem.Serves S a last { s with tasks := rest } :=
  { hs with tasks := fun t' ht' => hs.tasks t' (subset_of_pick hpick ht') }

lemma weak_serves {ptr : Nat} {f : LoaderSystem → Except LoaderStop LoaderSystem}
    (h : ¬ (s.alive = true ∧ ptr = s.loader.weakPtr) → s.Serves S a last)
    (hf : ptr = s.loader.weakPtr → Serving S a last (f s)) : Serving S a last (s.weak ptr f) := by
  rw [weak]
  split
  · rename_i hvalid
    exact hf hvalid.2
  · rename_i hvalid
    exact .ok (h hvalid)

lemma onCallback_serves (h : s.Inv) (hs : s.Serves S a last) (hrange : ∀ b ∈ last, a ≤ b)
    (inputStream : Bool) (turn : LoaderTurn) :
    Serving S a last (s.onCallback inputStream turn) := by
  rw [onCallback]
  cases hcallback : s.wrapper.callback with
  | none => exact .ok hs
  | some ptr =>
    have hnone : LoaderSystem.Serves S a last
        { s with wrapper := ⟨none, s.wrapper.isCanceled⟩ } := { hs with callback := by rintro ⟨⟩ }
    refine weak_serves (fun _ => hnone) fun hvalid => ?_
    have hvalid : ptr = s.loader.weakPtr := hvalid
    have hcallback : s.wrapper.callback = some s.loader.weakPtr := by rw [hcallback, hvalid]
    obtain ⟨hrun, -⟩ := h.run_of_callback hcallback
    exact .ok (onInputStreamOpened_serves hrun hnone.toCopies hrange (hs.callback hcallback) _ turn)

lemma Serves.cancel_wrapper (hs : s.Serves S a last) : LoaderSystem.Serves S a last
    { s with wrapper := { s.wrapper with isCanceled := true } } := { hs with }

lemma execute_serves (h : s.Inv) (hs : s.Serves S a last) (hrange : ∀ b ∈ last, a ≤ b)
    {rest : List LoaderTask} (hpick : pick s.tasks i = some (t, rest))
    (turn : LoaderTurn) : Serving S a last (execute t turn { s with tasks := rest }) := by
  have hdrop := hs.drop hpick
  have hright := hs.tasks t (mem_of_pick hpick)
  cases t with
  | disconnect ptr =>
    rw [execute]
    refine weak_serves (fun _ => hdrop) fun hvalid => ?_
    have hcarries : s.Carries s.loader.weakPtr :=
      .inl ⟨_, mem_of_pick hpick, congrArg some hvalid⟩
    have hgoing := not_over_iff.mp (h.not_over hcarries)
    exact .ok (hdrop.fails (h.drop hpick).toBooks hgoing.2 (by decide))
  | continueWithRequestHeaders ptr =>
    rw [execute]
    refine weak_serves (fun _ => hdrop) fun hvalid => ?_
    obtain ⟨hrun, -⟩ := h.run_of_pick hpick (if_pos hvalid)
    exact .ok (continueWithRequestHeaders_serves hrun hdrop.toCopies
      (hright (congrArg some hvalid)) _)
  | openOnWorkThread =>
    rw [execute]
    refine .ok ?_
    rw [openOnWorkThread]
    split
    · exact hdrop
    · have hposted := hdrop.post (t := .openCallback) (by rintro ⟨⟩)
      split
      · exact hposted.cancel_wrapper.post (t := .onCallback false) (by rintro ⟨⟩)
      · exact hposted
  | openCallback => exact .ok (hdrop.post (by rintro ⟨⟩))
  | cancelOnWorkThread =>
    rw [execute]
    refine .ok ?_
    rw [cancelOnWorkThread]
    split
    · exact hdrop
    · exact hdrop.cancel_wrapper.post (t := .onCallback false) (by rintro ⟨⟩)
  | onCallback inputStream => exact onCallback_serves (h.drop hpick) hdrop hrange inputStream turn
  | continueWithResponseHeaders contentLength ptr =>
    rw [execute]
    refine weak_serves (fun _ => hdrop) fun hvalid => ?_
    obtain ⟨hrun, -⟩ := h.run_of_pick hpick (if_pos hvalid)
    exact .ok (continueWithResponseHeaders_serves hrun hdrop.toCopies
      (hdrop.settled hrun.going_on hrun.no_op) (hright (congrArg some hvalid)) _ _ turn)
  | readMore ptr =>
    rw [execute]
    refine weak_serves (fun _ => hdrop) fun hvalid => ?_
    obtain ⟨hrun, hbuffer⟩ := h.run_of_pick hpick (if_pos hvalid)
    exact readMore_serves hrun hdrop.toCopies (hdrop.settled hrun.going_on hrun.no_op) hbuffer
      (hright (congrArg some hvalid)) turn

lemma Copies.opened_of_run (hc : s.Copies S a last) {stream : StreamTurn}
    {result : InputStreamReader Nat × Option (Delivery Nat)}
    (hr : s.reader.run i stream = .ok result) : s.loader.hasInputStreamReader = true := by
  by_contra hnot
  obtain ⟨-, hnew⟩ := hc.unopened (Bool.not_eq_true _ ▸ hnot)
  rw [hnew] at hr
  exact nomatch hr

/-- **The result of an operation** is right if the reader is, and the loader is told of it.

**Proof sketch.** It is dropped only when the request is over, since the weak pointer is the first
one until then. -/
lemma receive_serves (h : s.Inv) {reader : InputStreamReader Nat} (hinv : reader.Inv)
    {d : Delivery Nat} (hops : s.reader.ops = [d.op]) (hnone : reader.ops = [])
    (hc : LoaderSystem.Copies S a last { s with reader })
    (hs : s.Over → LoaderSystem.Serves S a last { s with reader })
    (hopened : s.loader.hasInputStreamReader = true) (hrange : ∀ b ∈ last, a ≤ b)
    (hright : ∀ pos, Conforms S reader.answers pos →
      d.Right S a (a + s.committed.length) pos) (turn : LoaderTurn) :
    Serving S a last (receive turn { s with reader } (some d)) := by
  have hcarries : s.Carries d.op.callback :=
    .inr (.inr ⟨d.op, hops ▸ mem_singleton_self d.op, rfl⟩)
  have hdropped : ¬ (s.alive = true ∧ d.op.callback = s.loader.weakPtr) →
      LoaderSystem.Serves S a last { s with reader } := by
    intro hinvalid
    refine hs (by_contra fun hgoing => hinvalid ⟨(not_over_iff.mp hgoing).1, ?_⟩)
    have hzero : s.loader.weakPtr = 0 := hc.fresh hgoing
    have hle := h.ptrs _ hcarries
    omega
  cases d with
  | skip n ptr =>
    rw [receive]
    refine weak_serves hdropped fun hvalid => ?_
    have hrun := h.run_of_answer hinv hnone hops hvalid
    refine .ok (onReaderSkipCompleted_serves hrun hc hrange (fun _ pos hpos => ?_) n turn)
    obtain ⟨-, heq, hbase⟩ := hright pos hpos
    exact heq.trans hbase.symm
  | read b ptr =>
    rw [receive]
    refine weak_serves hdropped fun hvalid => ?_
    have hrun := h.run_of_answer hinv hnone hops hvalid
    have hvalid : ptr = s.loader.weakPtr := hvalid
    have hbuffer := h.buffer
    rw [hops, mem_singleton] at hbuffer
    obtain ⟨size, hsize⟩ := isSome_iff_exists.mp
      (hbuffer.mpr (congrArg ReaderOp.read hvalid.symm))
    exact onReaderReadCompleted_serves hrun hc hsize hopened hright

lemma reader_serves (h : s.Inv) (hs : s.Serves S a last) (hrange : ∀ b ∈ last, a ≤ b) (i : Nat)
    (stream : StreamTurn) (turn : LoaderTurn) :
    Serving S a last (s.step (.reader i stream turn)) := by
  rw [step]
  obtain herror | ⟨reader, delivery, hrun, hinv, hanswers⟩ :=
    InputStreamReader.run_spec h.reader i stream
  · rw [herror]
    exact .error _
  have hopened := hs.opened_of_run hrun
  obtain ⟨htracks, hright⟩ := run_tracks h.reader hs.tracks hrun
  have hearlier : ∀ {pos : Nat}, Conforms S reader.answers pos →
      ∃ pos₀, Conforms S s.reader.answers pos₀ := fun hpos => hpos.of_suffix (run_answers hrun)
  have hcopies : LoaderSystem.Copies S a last { s with reader } := { hs.toCopies with
    tracks := htracks
    body := fun pos hpos => by
      obtain ⟨pos₀, h₀⟩ := hearlier hpos
      exact hs.body pos₀ h₀
    unopened := fun hnot => by cases (hopened.symm.trans hnot) }
  have hserves : (¬ s.Over → reader.ops = [] → LoaderSystem.Settled S a { s with reader }) →
      LoaderSystem.Serves S a last { s with reader } := fun hset => { hcopies with
    tasks := hs.tasks
    callback := hs.callback
    armed := hs.armed
    settled := hset
    complete := fun _ hcomplete => by
      obtain ⟨hannounced, hwhole⟩ := hs.complete hopened hcomplete
      refine ⟨hannounced, fun pos hpos => ?_⟩
      obtain ⟨pos₀, h₀⟩ := hearlier hpos
      exact hwhole pos₀ h₀ }
  rw [hrun]
  cases delivery with
  | none =>
    refine .ok (hserves fun hgoing hnone _ pos hpos => ?_)
    have hnone : s.reader.ops = [] := hanswers.symm.trans hnone
    rw [(run_of_ops_nil h.reader hnone hrun).1] at hpos
    exact hs.settled hgoing hnone hopened pos hpos
  | some d =>
    obtain ⟨hops, hnone⟩ := hanswers
    exact receive_serves h hinv hops hnone hcopies
      (fun hover => hserves fun hgoing => absurd hover hgoing) hopened hrange
      (fun pos hpos => hright pos hpos d rfl) turn

lemma Serves.cancelOnJobThread (hs : s.Serves S a last) : s.cancelOnJobThread.Serves S a last := by
  rw [LoaderSystem.cancelOnJobThread]
  split
  · exact hs
  · have hnone : LoaderSystem.Serves S a last
        { s with wrapper := { s.wrapper with callback := none } } := { hs with callback := by rintro ⟨⟩ }
    exact hnone.post (t := .cancelOnWorkThread) (by rintro ⟨⟩)

lemma Serves.deleted (hs : s.Serves S a last) (h : s.Books) :
    LoaderSystem.Serves S a last { s.cleanUp with alive := false } := by
  have hover : LoaderSystem.Over { s.cleanUp with alive := false } := .inl rfl
  have hcopies : LoaderSystem.Copies S a last { s.cleanUp with alive := false } :=
    { hs.toCopies with
      fresh := absurd hover
      reading := nofun }
  exact hcopies.serves_of_over h.deleted_inv hover hs.complete

lemma destroy_serves (h : s.Books) (hs : s.Serves S a last) : s.destroy.Serves S a last := by
  rw [destroy]
  split
  · have hbooks : LoaderSystem.Books
        { s with loader := { s.loader with openCancelCallback := false } } := { h with }
    have hserves : LoaderSystem.Serves S a last
        { s with loader := { s.loader with openCancelCallback := false } } := { hs with }
    exact hserves.cancelOnJobThread.deleted hbooks.cancelOnJobThread
  · exact hs.deleted h

lemma start_serves (hasHeaderClient : Bool) :
    (start hasHeaderClient (.ranges [byteRange a last])).Serves S a last := by
  have hcreate := create_running hasHeaderClient
  have hrun : LoaderSystem.Running { create hasHeaderClient with
      loader := { (create hasHeaderClient).loader with byteRange := byteRange a last } } :=
    { hcreate with }
  have hcopies : LoaderSystem.Copies S a last { create hasHeaderClient with
      loader := { (create hasHeaderClient).loader with byteRange := byteRange a last } } := {
    range := rfl
    fresh := fun _ => rfl
    tracks := fun _ _ => at_of_ops_nil rfl
    body := fun _ _ => rfl
    unopened := fun _ => ⟨rfl, rfl⟩
    response := by rintro ⟨⟩
    reading := by rintro ⟨⟩ }
  rw [start]
  dsimp only [parseRange]
  split
  · exact (hcopies.rest hrun (by rintro ⟨⟩)).post fun _ => ⟨rfl, rfl⟩
  · exact continueWithRequestHeaders_serves hrun hcopies ⟨rfl, rfl⟩ OK

/-- **Every step keeps the invariant for the content.** -/
theorem step_serves (h : s.Inv) (hs : s.Serves S a last) (hrange : ∀ b ∈ last, a ≤ b) (e : Event) :
    Serving S a last (s.step e) := by
  cases e with
  | task i turn =>
    rw [step]
    cases hpick : pick s.tasks i with
    | none => exact .error _
    | some picked => exact execute_serves h hs hrange hpick turn
  | reader i stream turn => exact reader_serves h hs hrange i stream turn
  | writable closed turn =>
    rw [step]
    split
    · rename_i harmed
      obtain ⟨hrun, hbuffer⟩ := h.run_of_armed harmed
      have hsilent : LoaderSystem.Serves S a last
          { s with loader := { s.loader with writableHandleWatcher := .silent } } :=
        { hs with armed := by rintro ⟨⟩ }
      exact onDataPipeWritable_serves hrun hsilent.toCopies
        (hsilent.settled hrun.going_on hrun.no_op) hbuffer (hs.armed harmed) closed turn
    · exact .error _
  | continueRequest turn =>
    rw [step]
    split
    · rename_i hawait
      obtain ⟨hrun, hbuffer⟩ := h.run_of_awaiting hawait
      have hgot : LoaderSystem.Serves S a last { s with loader := { s.loader with
          gotClientCallback := true, writableHandleWatcher := .silent } } :=
        { hs with armed := by rintro ⟨⟩ }
      exact readMore_serves hrun hgot.toCopies (hgot.settled hrun.going_on hrun.no_op) hbuffer
        hawait.2.1 turn
    · exact .error _
  | cancel =>
    rw [step]
    split
    · rename_i hawait
      have hbooks : LoaderSystem.Books
          { s with loader := { s.loader with gotClientCallback := true } } := { h.toBooks with }
      have hgot : LoaderSystem.Copies S a last
          { s with loader := { s.loader with gotClientCallback := true } } := { hs.toCopies with }
      exact .ok (hgot.ends hawait.2.2.2
        (end_inv hbooks hawait.2.2.2 (c := .canceled) trivial (by rintro _ _ _ ⟨⟩)) trivial
        (by rintro - ⟨_, _, ⟨⟩⟩))
    · exact .error _
  | destroy =>
    rw [step]
    split
    · exact .ok (destroy_serves h.toBooks hs)
    · exact .error _

/-! ### Every run -/

/-- The invariant for the content holds in every reachable state. -/
theorem serves_of_run (hrange : ∀ b ∈ last, a ≤ b) {hasHeaderClient : Bool} {events : List Event}
    (h : events.foldlM step (start hasHeaderClient (.ranges [byteRange a last])) = .ok s) :
    s.Serves S a last := by
  have hboth : s.Inv ∧ s.Serves S a last := by
    refine run_invariant (I := fun s => s.Inv ∧ s.Serves S a last)
      (fun t e t' hI ht => ⟨?_, step_serves hI.1 hI.2 hrange e t' ht⟩)
      ⟨start_inv hasHeaderClient _, start_serves hasHeaderClient⟩ h
    obtain herror | ⟨t'', ht'', hI'⟩ := step_sound hI.1 e
    · exact nomatch ht.symm.trans herror
    · exact ok.inj (ht.symm.trans ht'') ▸ hI'
  exact hboth.2

lemma drop_eq_requested_iff (ha : a < S.length) (hrange : ∀ b ∈ last, a ≤ b) :
    S.drop a = requested S a last ↔ ∀ b ∈ last, S.length ≤ b + 1 := by
  cases last with
  | none => exact iff_of_true rfl nofun
  | some b =>
    have hle := hrange b rfl
    rw [requested, eq_comm, take_eq_self_iff, length_drop]
    simp only [mem_def, some.injEq, forall_eq']
    omega

/-- **A range request is answered with the bytes that it asks for exactly if the range does not end
before the content.** The stream may skip and read in pieces of any size, and tasks, callbacks and
the data pipe may come in any order. -/
theorem range_delivered_iff {hasHeaderClient : Bool} {events : List Event} (ha : a < S.length)
    (hrange : ∀ b ∈ last, a ≤ b)
    (h : events.foldlM step (start hasHeaderClient (.ranges [byteRange a last])) = .ok s)
    (hstream : ∃ pos, Conforms S s.reader.answers pos)
    (hopened : s.loader.hasInputStreamReader = true)
    (hcomplete : ∃ dataLength bodyLength, .onComplete OK dataLength bodyLength ∈ s.calls) :
    (s.committed = requested S a last ∧
      ∀ b ∈ last, b < S.length → s.announced = some (s.committed.length : Int)) ↔
        ∀ b ∈ last, S.length ≤ b + 1 := by
  obtain ⟨pos, hpos⟩ := hstream
  obtain ⟨hannounced, hwhole⟩ := (serves_of_run (S := S) hrange h).complete hopened hcomplete
  rw [hwhole pos hpos, ← drop_eq_requested_iff ha hrange]
  refine ⟨And.left, fun heq => ⟨heq, fun b hb hlt => ?_⟩⟩
  have hlast := (drop_eq_requested_iff ha hrange).mp heq b hb
  obtain rfl : last = some b := hb
  rw [hannounced, length_drop]
  refine congrArg some ?_
  rw [expectedLength, elim_some]
  omega

/-- One byte is skipped, the bytes that follow are read in one piece, and the stream ends. -/
def rangeDownload (data : List UInt8) : List Event :=
  [.task 1 {}, .task 1 {}, .task 1 {}, .reader 0 { skips := [(true, 1)] } {}, .reader 1 {} {},
    .continueRequest {}, .reader 1 { bytesRead := .ofData data } {}, .reader 2 {} {}, .task 1 {},
    .reader 2 { readResult := false } {}, .reader 3 {} {}]

theorem range_delivered_iff_last_bytes :
    ∃ s, (rangeDownload [2, 3]).foldlM step (start false (.ranges [byteRange 1 (some 2)])) = .ok s ∧
      s.committed = requested [1, 2, 3] 1 (some 2) ∧
      s.announced = some (s.committed.length : Int) := by
  have hrun : (rangeDownload [2, 3]).foldlM step
    (start false (.ranges [byteRange 1 (some 2)])) = .ok _ := rfl
  have hdelivered := (range_delivered_iff (S := [1, 2, 3]) (by decide) (by decide) hrun
    ⟨3, rfl⟩ rfl ⟨2, 2, mem_cons_self⟩).mpr (by decide)
  exact ⟨_, hrun, hdelivered.1, hdelivered.2 2 rfl (by decide)⟩

/-- Two bytes are asked for and announced, and three are delivered. -/
theorem range_exceeded :
    ∃ s, (rangeDownload [2, 3, 4]).foldlM step
        (start false (.ranges [byteRange 1 (some 2)])) = .ok s ∧
      Conforms [1, 2, 3, 4] s.reader.answers 4 ∧
      s.calls = [.onComplete OK 3 3, .onTransferSizeUpdated 3, .onReceiveResponse 2] ∧
      s.announced = some 2 ∧ s.committed = [2, 3, 4] ∧
      requested [1, 2, 3, 4] 1 (some 2) = [2, 3] := by
  have hrun : (rangeDownload [2, 3, 4]).foldlM step
    (start false (.ranges [byteRange 1 (some 2)])) = .ok _ := rfl
  exact ⟨_, hrun, rfl, rfl, rfl, rfl, rfl⟩

end LoaderSystem

end CefCore.NetService
