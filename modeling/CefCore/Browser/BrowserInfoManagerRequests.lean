import CefCore.Browser.BrowserInfoManager
import CefCore.Foundations.AssocList
import Mathlib.Data.Multiset.UnionInter
import Mathlib.Data.Multiset.Range

/-!
# Every request for a browser info is answered once

A pending request may be ended by the creation of a popup or of a main frame, by the check for
excluded content, by its timeout and by the end of its renderer process. All of them look the
request up by the token of its frame, and the response is run on another sequence, maybe later.

## Main results

* `requests_answered`: where each callback is, in every run.
-/

namespace CefCore.Browser.CefBrowserInfoManager

open List Option AList Nat

/-- The callbacks that have been given to `SendNewBrowserInfoResponse`, newest first. -/
def dispatches (log : List ManagerEvent) : List Nat :=
  log.filterMap fun | .dispatched callback _ => some callback | _ => none

/-- The callbacks that have been run, newest first. -/
def answers (log : List ManagerEvent) : List Nat :=
  log.filterMap fun | .answered callback _ => some callback | _ => none

def IsPending (s : CefBrowserInfoManager) (callback : Nat) : Prop :=
  ∃ token pending, s.pendingNewBrowserInfoMap.lookup token = some pending ∧
    pending.callback = callback

/-- The response to a request is **the right one**: it carries a browser info that was found or
passed for the token of the request; or it carries none, after the timeout of this request or the end
of the process of its frame. -/
def Justified (log : List ManagerEvent) (callback : Nat) (params : NewBrowserInfo) : Prop :=
  ∃ token, .requested callback token ∈ log ∧
    ((∃ info, .found token info ∈ log ∧ params = NewBrowserInfo.make (some info) false) ∨
      (∃ info isExcluded, .continued token info isExcluded ∈ log ∧
        params = NewBrowserInfo.make (some info) isExcluded) ∨
      params = NewBrowserInfo.make none false ∧
        ((∃ timeoutId, .queued callback timeoutId ∈ log ∧
            .dispatched callback (.timedOut timeoutId) ∈ log) ∨
          .dispatched callback (.processDestroyed token.childId) ∈ log))

/-- **What the manager promises**: each callback is run at most once; a request is in the map as long
as its callback has not been dispatched; a timeout dispatches the request that it was started for;
and every response is the right one. -/
structure Answered (s : CefBrowserInfoManager) : Prop where
  once : (answers s.log).Nodup
  pending_iff : ∀ callback < s.requests, s.IsPending callback ↔ callback ∉ dispatches s.log
  timeouts : ∀ callback timeoutId, .dispatched callback (.timedOut timeoutId) ∈ s.log →
    .queued callback timeoutId ∈ s.log
  timeouts_unique : ∀ callback callback' timeoutId, .queued callback timeoutId ∈ s.log →
    .queued callback' timeoutId ∈ s.log → callback = callback'
  requests_unique : ∀ callback token token', .requested callback token ∈ s.log →
    .requested callback token' ∈ s.log → token = token'
  responses : ∀ callback params, .answered callback params ∈ s.log →
    Justified s.log callback params

/-- The step does not ask for a frame for which a request is pending, unless it is answered at
once. -/
def OnePending (s : CefBrowserInfoManager) : Operation → Prop
  | .onGetNewBrowserInfo _ token hasFrame =>
    s.getBrowserInfoInternal token hasFrame = none → token ∉ s.pendingNewBrowserInfoMap
  | _ => True

/-! ### Events -/

variable {log : List ManagerEvent} {callback : Nat} {params : NewBrowserInfo}

@[simp] lemma dispatches_cons (e : ManagerEvent) : dispatches (e :: log) =
    match e with
    | .dispatched callback _ => callback :: dispatches log
    | _ => dispatches log := by
  cases e <;> rfl

@[simp] lemma answers_cons (e : ManagerEvent) : answers (e :: log) =
    match e with
    | .answered callback _ => callback :: answers log
    | _ => answers log := by
  cases e <;> rfl

lemma Justified.cons (h : Justified log callback params) (e : ManagerEvent) :
    Justified (e :: log) callback params := by
  obtain ⟨token, hrequested, hcause⟩ := h
  refine ⟨token, mem_cons_of_mem e hrequested, ?_⟩
  rcases hcause with ⟨info, hfound, hparams⟩ | ⟨info, isExcluded, hcontinued, hparams⟩ |
    ⟨hparams, ⟨timeoutId, hqueued, hdispatched⟩ | hdispatched⟩
  · exact .inl ⟨info, mem_cons_of_mem e hfound, hparams⟩
  · exact .inr (.inl ⟨info, isExcluded, mem_cons_of_mem e hcontinued, hparams⟩)
  · exact .inr (.inr ⟨hparams, .inl
      ⟨timeoutId, mem_cons_of_mem e hqueued, mem_cons_of_mem e hdispatched⟩⟩)
  · exact .inr (.inr ⟨hparams, .inr (mem_cons_of_mem e hdispatched)⟩)

/-! ### The books -/

def pendingCallbacks (s : CefBrowserInfoManager) : Multiset Nat :=
  (s.pendingNewBrowserInfoMap.entries.map fun e => e.2.callback : List Nat)

/-- The callbacks on their way to `SendNewBrowserInfoResponse`, and behind it. -/
def sent (s : CefBrowserInfoManager) : Multiset Nat :=
  (s.responses.map NewBrowserInfoResponse.callback : List Nat) + (answers s.log : Multiset Nat)

structure History (requests nextTimeoutId : Nat) (log : List ManagerEvent) : Prop where
  answer : ∀ callback params, .answered callback params ∈ log → Justified log callback params
  queued : ∀ callback timeoutId, .queued callback timeoutId ∈ log → timeoutId ≤ nextTimeoutId
  queued_unique : ∀ callback callback' timeoutId, .queued callback timeoutId ∈ log →
    .queued callback' timeoutId ∈ log → callback = callback'
  timeout : ∀ callback timeoutId, .dispatched callback (.timedOut timeoutId) ∈ log →
    .queued callback timeoutId ∈ log
  requested : ∀ callback token, .requested callback token ∈ log → callback < requests
  requested_unique : ∀ callback token token', .requested callback token ∈ log →
    .requested callback token' ∈ log → token = token'

structure Ledger (s : CefBrowserInfoManager) : Prop where
  balance : s.pendingCallbacks + s.sent = Multiset.range s.requests
  dispatched : (dispatches s.log : Multiset Nat) = s.sent
  pending : ∀ token pending, s.pendingNewBrowserInfoMap.lookup token = some pending →
    pending.globalToken = token ∧ .requested pending.callback token ∈ s.log ∧
      .queued pending.callback pending.timeoutId ∈ s.log
  response : ∀ r ∈ s.responses,
    Justified s.log r.callback (NewBrowserInfo.make r.browserInfo r.isExcluded)
  history : History s.requests s.nextTimeoutId s.log

lemma history_nil : History 0 0 [] where
  answer _ _ h := nomatch h
  queued _ _ h := nomatch h
  queued_unique _ _ _ h := nomatch h
  timeout _ _ h := nomatch h
  requested _ _ h := nomatch h
  requested_unique _ _ _ h := nomatch h

lemma ledger_new (timeoutEnabled : Bool) : Ledger { timeoutEnabled } where
  balance := rfl
  dispatched := rfl
  pending token pending h := by
    rw [lookup_empty] at h
    cases h
  response _ h := nomatch h
  history := history_nil

section History

variable {n k : Nat}

/-- **One more event.** A request has a new number and so has a timeout; a timeout dispatches its own
request; and the response of an answer is the right one. -/
lemma History.cons {n' k' : Nat} {e : ManagerEvent} (h : History n k log) (hn : n ≤ n') (hk : k ≤ k')
    (hrequested : ∀ c token, e = .requested c token → c = n ∧ n < n')
    (hqueued : ∀ c i, e = .queued c i → i = k + 1 ∧ k < k')
    (htimeout : ∀ c i, e = .dispatched c (.timedOut i) → .queued c i ∈ log)
    (hanswer : ∀ c params, e = .answered c params → Justified log c params) :
    History n' k' (e :: log) where
  answer c params hmem := by
    rcases mem_cons.mp hmem with heq | hmem
    · exact (hanswer c params heq.symm).cons e
    · exact (h.answer c params hmem).cons e
  queued c i hmem := by
    rcases mem_cons.mp hmem with heq | hmem
    · have := hqueued c i heq.symm
      omega
    · exact (h.queued c i hmem).trans hk
  queued_unique c c' i hmem hmem' := by
    rcases mem_cons.mp hmem with heq | hmem
    · rcases mem_cons.mp hmem' with heq' | hmem'
      · exact (ManagerEvent.queued.inj (heq.trans heq'.symm)).1
      · have := hqueued c i heq.symm
        have := h.queued c' i hmem'
        omega
    · rcases mem_cons.mp hmem' with heq' | hmem'
      · have := hqueued c' i heq'.symm
        have := h.queued c i hmem
        omega
      · exact h.queued_unique c c' i hmem hmem'
  timeout c i hmem := by
    rcases mem_cons.mp hmem with heq | hmem
    · exact mem_cons_of_mem e (htimeout c i heq.symm)
    · exact mem_cons_of_mem e (h.timeout c i hmem)
  requested c token hmem := by
    rcases mem_cons.mp hmem with heq | hmem
    · have := hrequested c token heq.symm
      omega
    · exact (h.requested c token hmem).trans_le hn
  requested_unique c token token' hmem hmem' := by
    rcases mem_cons.mp hmem with heq | hmem
    · rcases mem_cons.mp hmem' with heq' | hmem'
      · exact (ManagerEvent.requested.inj (heq.trans heq'.symm)).2
      · have := hrequested c token heq.symm
        have := h.requested c token' hmem'
        omega
    · rcases mem_cons.mp hmem' with heq' | hmem'
      · have := hrequested c token' heq'.symm
        have := h.requested c token hmem
        omega
      · exact h.requested_unique c token token' hmem hmem'

end History

variable {s : CefBrowserInfoManager} {current : Nat}

lemma Ledger.of_eq {s' : CefBrowserInfoManager} (h : Ledger s)
    (hmap : s'.pendingNewBrowserInfoMap = s.pendingNewBrowserInfoMap)
    (hresponses : s'.responses = s.responses) (htimeout : s'.nextTimeoutId = s.nextTimeoutId)
    (hrequests : s'.requests = s.requests) (hlog : s'.log = s.log) : Ledger s' := by
  cases s'
  cases hmap
  cases hresponses
  cases htimeout
  cases hrequests
  cases hlog
  exact ⟨h.balance, h.dispatched, h.pending, h.response, h.history⟩

lemma Ledger.pending_cons (h : Ledger s) (e : ManagerEvent) :
    ∀ token pending, s.pendingNewBrowserInfoMap.lookup token = some pending →
      pending.globalToken = token ∧ .requested pending.callback token ∈ e :: s.log ∧
        .queued pending.callback pending.timeoutId ∈ e :: s.log := by
  intro token pending hlookup
  obtain ⟨htoken, hrequested, hqueued⟩ := h.pending token pending hlookup
  exact ⟨htoken, mem_cons_of_mem e hrequested, mem_cons_of_mem e hqueued⟩

lemma Ledger.response_cons (h : Ledger s) (e : ManagerEvent) : ∀ r ∈ s.responses,
    Justified (e :: s.log) r.callback (NewBrowserInfo.make r.browserInfo r.isExcluded) :=
  fun r hr => (h.response r hr).cons e

lemma Ledger.continued (h : Ledger s) (token : GlobalToken) (info : CefBrowserInfo.Identity)
    (isExcluded : Bool) : Ledger { s with log := .continued token info isExcluded :: s.log } :=
  ⟨h.balance, h.dispatched, h.pending_cons _, h.response_cons _,
    h.history.cons (le_refl _) (le_refl _) nofun nofun nofun nofun⟩

/-- **A response is sent**: all other fields stay, and the callback is on its way or has been run. -/
lemma sendNewBrowserInfoResponse_spec (s : CefBrowserInfoManager) (current : Nat)
    (browserInfo : Option CefBrowserInfo.Identity) (isExcluded : Bool)
    (callback callbackRunner : Nat) :
    let t := s.sendNewBrowserInfoResponse current browserInfo isExcluded callback callbackRunner
    t.pendingNewBrowserInfoMap = s.pendingNewBrowserInfoMap ∧ t.requests = s.requests ∧
      t.nextTimeoutId = s.nextTimeoutId ∧ t.sent = callback ::ₘ s.sent ∧
      ((t.log = s.log ∧ t.responses = s.responses ++
          [⟨browserInfo, isExcluded, callback, callbackRunner⟩]) ∨
        t.log = .answered callback (NewBrowserInfo.make browserInfo isExcluded) :: s.log ∧
          t.responses = s.responses) := by
  unfold sendNewBrowserInfoResponse
  split
  · refine ⟨rfl, rfl, rfl, ?_, .inl ⟨rfl, rfl⟩⟩
    simp only [sent, map_append, map_cons, map_nil, ← Multiset.coe_add, Multiset.coe_singleton]
    rw [← Multiset.singleton_add, Multiset.add_comm _ {callback}, Multiset.add_assoc]
  · refine ⟨rfl, rfl, rfl, ?_, .inr ⟨rfl, rfl⟩⟩
    simp [sent, answers_cons, ← Multiset.cons_coe]

lemma Ledger.send {browserInfo : Option CefBrowserInfo.Identity} {isExcluded : Bool}
    {callback callbackRunner : Nat}
    (hbalance : s.pendingCallbacks + (callback ::ₘ s.sent) = Multiset.range s.requests)
    (hdispatched : (dispatches s.log : Multiset Nat) = callback ::ₘ s.sent)
    (hpending : ∀ token pending, s.pendingNewBrowserInfoMap.lookup token = some pending →
      pending.globalToken = token ∧ .requested pending.callback token ∈ s.log ∧
        .queued pending.callback pending.timeoutId ∈ s.log) (hresponse : ∀ r ∈ s.responses,
      Justified s.log r.callback (NewBrowserInfo.make r.browserInfo r.isExcluded))
    (hhistory : History s.requests s.nextTimeoutId s.log)
    (hjustified : Justified s.log callback (NewBrowserInfo.make browserInfo isExcluded)) :
    Ledger (s.sendNewBrowserInfoResponse current browserInfo isExcluded callback callbackRunner) := by
  obtain ⟨hmap, hrequests, htimeout, hsent, hlog⟩ := sendNewBrowserInfoResponse_spec s current
    browserInfo isExcluded callback callbackRunner
  set t := s.sendNewBrowserInfoResponse current browserInfo isExcluded callback callbackRunner
  have hcallbacks : t.pendingCallbacks = s.pendingCallbacks := by simp [pendingCallbacks, hmap]
  rcases hlog with ⟨hlog, hresponses⟩ | ⟨hlog, hresponses⟩
  · refine ⟨?_, ?_, ?_, ?_, ?_⟩
    · rw [hcallbacks, hsent, hrequests, hbalance]
    · rw [hlog, hsent, hdispatched]
    · rw [hmap, hlog]
      exact hpending
    · intro r hr
      rw [hresponses] at hr
      rw [hlog]
      rcases mem_append.mp hr with hr | hr
      · exact hresponse r hr
      · rw [mem_singleton.mp hr]
        exact hjustified
    · rw [hrequests, htimeout, hlog]
      exact hhistory
  · refine ⟨?_, ?_, ?_, ?_, ?_⟩
    · rw [hcallbacks, hsent, hrequests, hbalance]
    · rw [hlog, hsent]
      exact hdispatched
    · intro token pending hlookup
      rw [hmap] at hlookup
      rw [hlog]
      obtain ⟨htoken, hrequested, hqueued⟩ := hpending token pending hlookup
      exact ⟨htoken, mem_cons_of_mem _ hrequested, mem_cons_of_mem _ hqueued⟩
    · intro r hr
      rw [hresponses] at hr
      rw [hlog]
      exact (hresponse r hr).cons _
    · rw [hrequests, htimeout, hlog]
      refine hhistory.cons (le_refl _) (le_refl _) nofun nofun nofun ?_
      intro c params heq
      obtain ⟨rfl, rfl⟩ := ManagerEvent.answered.inj heq
      exact hjustified

lemma respond_eq (s : CefBrowserInfoManager) (current : Nat) (cause : ResponseCause)
    (token : GlobalToken) (pending : PendingNewBrowserInfo) :
    s.respond current cause token pending =
      { s with
        pendingNewBrowserInfoMap := s.pendingNewBrowserInfoMap.erase token
        log := .dispatched pending.callback cause :: s.log }.sendNewBrowserInfoResponse current
          cause.browserInfo cause.isExcluded pending.callback pending.callbackRunner := by
  unfold respond dispatch sendNewBrowserInfoResponse
  split <;> rfl

/-- **A pending request is answered**: its callback leaves the map. -/
lemma Ledger.respond (h : Ledger s) {cause : ResponseCause} {token : GlobalToken}
    {pending : PendingNewBrowserInfo}
    (hlookup : s.pendingNewBrowserInfoMap.lookup token = some pending)
    (htimeout : ∀ timeoutId, cause = .timedOut timeoutId → pending.timeoutId = timeoutId)
    (hjustified : Justified (.dispatched pending.callback cause :: s.log) pending.callback
      (NewBrowserInfo.make cause.browserInfo cause.isExcluded)) :
    Ledger (s.respond current cause token pending) := by
  rw [respond_eq]
  have hperm := (entries_perm_erase hlookup).map fun e => e.2.callback
  have hcallbacks : s.pendingCallbacks = pending.callback ::ₘ
      ((s.pendingNewBrowserInfoMap.erase token).entries.map fun e => e.2.callback : List Nat) := by
    rw [Multiset.cons_coe]
    exact Multiset.coe_eq_coe.mpr hperm
  refine Ledger.send ?_ ?_ ?_ (h.response_cons _) ?_ hjustified
  · have hbalance := h.balance
    rw [hcallbacks, Multiset.cons_add, ← Multiset.add_cons] at hbalance
    exact hbalance
  · rw [dispatches_cons, ← Multiset.cons_coe, h.dispatched]
    rfl
  · intro token' pending' hlookup'
    by_cases heq : token' = token
    · rw [heq, lookup_erase] at hlookup'
      cases hlookup'
    · rw [lookup_erase_ne heq] at hlookup'
      exact h.pending_cons _ token' pending' hlookup'
  · refine h.history.cons (le_refl _) (le_refl _) nofun nofun ?_ nofun
    intro c i heq
    obtain ⟨rfl, rfl⟩ := ManagerEvent.dispatched.inj heq
    rw [← htimeout i rfl]
    exact (h.pending token pending hlookup).2.2

lemma Ledger.continueNewBrowserInfo (h : Ledger s) (token : GlobalToken)
    (info : CefBrowserInfo.Identity) (isExcluded : Bool) :
    Ledger (s.continueNewBrowserInfo current token info isExcluded) := by
  have hcontinued := h.continued token info isExcluded
  unfold CefBrowserInfoManager.continueNewBrowserInfo
  dsimp only
  split
  · rename_i pending hlookup
    refine hcontinued.respond hlookup nofun ?_
    refine ⟨token, mem_cons_of_mem _ (hcontinued.pending token pending hlookup).2.1, ?_⟩
    exact .inr (.inl ⟨info, isExcluded, mem_cons_of_mem _ mem_cons_self, rfl⟩)
  · exact hcontinued

lemma Ledger.timeoutNewBrowserInfoResponse (h : Ledger s) (token : GlobalToken) (timeoutId : Nat) :
    Ledger (s.timeoutNewBrowserInfoResponse current token timeoutId) := by
  unfold CefBrowserInfoManager.timeoutNewBrowserInfoResponse
  split
  · rename_i pending hlookup
    split
    · exact h
    · rename_i hid
      have hid := not_not.mp hid
      obtain ⟨-, hrequested, hqueued⟩ := h.pending token pending hlookup
      refine h.respond hlookup (fun i heq => hid.trans (ResponseCause.timedOut.inj heq)) ?_
      refine ⟨token, mem_cons_of_mem _ hrequested, .inr (.inr ⟨rfl, .inl ⟨timeoutId, ?_,
        mem_cons_self⟩⟩)⟩
      rw [← hid]
      exact mem_cons_of_mem _ hqueued
  · exact h

lemma Ledger.cancelRequests (childId : Int) : ∀ (tokens : List GlobalToken)
    {s : CefBrowserInfoManager}, Ledger s → Ledger (cancelRequests current childId tokens s)
  | [], _, h => h
  | token :: tokens, s, h => by
    simp only [CefBrowserInfoManager.cancelRequests]
    split
    · rename_i pending hlookup
      split
      · rename_i hchild
        obtain ⟨htoken, hrequested, -⟩ := h.pending token pending hlookup
        refine Ledger.cancelRequests childId tokens (h.respond hlookup nofun ?_)
        refine ⟨token, mem_cons_of_mem _ hrequested, .inr (.inr ⟨rfl, .inr ?_⟩)⟩
        rw [← htoken, hchild]
        exact mem_cons_self
      · exact Ledger.cancelRequests childId tokens h
    · exact Ledger.cancelRequests childId tokens h

lemma Ledger.onGetNewBrowserInfo (h : Ledger s) {token : GlobalToken}
    {hasFrame : CefBrowserInfo.Identity → Bool}
    (hone : s.getBrowserInfoInternal token hasFrame = none → token ∉ s.pendingNewBrowserInfoMap) :
    Ledger (s.onGetNewBrowserInfo current token hasFrame) := by
  have hbalance : s.requests ::ₘ (s.pendingCallbacks + s.sent) = Multiset.range (s.requests + 1) := by
    rw [h.balance, Multiset.range_succ]
  have hhistory : History (s.requests + 1) s.nextTimeoutId (.requested s.requests token :: s.log) := by
    refine h.history.cons (le_succ _) (le_refl _) ?_ nofun nofun nofun
    intro c t heq
    exact ⟨(ManagerEvent.requested.inj heq).1.symm, lt_succ_self _⟩
  unfold CefBrowserInfoManager.onGetNewBrowserInfo
  dsimp only
  split
  · rename_i info hinfo
    refine Ledger.send ?_ ?_ ?_ ?_ ?_ ?_
    · rw [Multiset.add_cons]
      exact hbalance
    · simp only [dispatches_cons, ← Multiset.cons_coe, h.dispatched]
      rfl
    · intro t pending hlookup
      obtain ⟨ht, hrequested, hqueued⟩ := h.pending t pending hlookup
      refine ⟨ht, ?_, ?_⟩
      · simp [hrequested]
      · simp [hqueued]
    · intro r hr
      exact (((h.response r hr).cons _).cons _).cons _
    · have hfound : History (s.requests + 1) s.nextTimeoutId
          (.found token info :: .requested s.requests token :: s.log) :=
        hhistory.cons (le_refl _) (le_refl _) nofun nofun nofun nofun
      refine hfound.cons (le_refl _) (le_refl _) nofun nofun ?_ nofun
      intro c i heq
      cases (ManagerEvent.dispatched.inj heq).2
    · exact ⟨token, by simp, .inl ⟨info, by simp, rfl⟩⟩
  · rename_i hnone
    have hnew : token ∉ s.pendingNewBrowserInfoMap := hone hnone
    simp only [insertNew, if_neg hnew]
    refine ⟨?_, h.dispatched, ?_, ?_, ?_⟩
    · show ((_ : List Nat) : Multiset Nat) + s.sent = _
      rw [entries_insert_of_notMem hnew, map_cons, ← Multiset.cons_coe, Multiset.cons_add]
      exact hbalance
    · intro t pending hlookup
      by_cases heq : t = token
      · subst heq
        rw [lookup_insert] at hlookup
        cases hlookup
        exact ⟨rfl, by simp, by simp⟩
      · rw [lookup_insert_ne heq] at hlookup
        obtain ⟨ht, hrequested, hqueued⟩ := h.pending t pending hlookup
        refine ⟨ht, ?_, ?_⟩
        · simp [hrequested]
        · simp [hqueued]
    · exact fun r hr => ((h.response r hr).cons _).cons _
    · refine hhistory.cons (le_refl _) (le_succ _) nofun ?_ nofun nofun
      intro c i heq
      exact ⟨(ManagerEvent.queued.inj heq).2.symm, lt_succ_self _⟩

lemma Ledger.runResponse (h : Ledger s) {task : Nat} {r : NewBrowserInfoResponse}
    (hr : s.responses[task]? = some r) :
    Ledger ({ s with responses := s.responses.eraseIdx task }.sendNewBrowserInfoResponse
      r.callbackRunner r.browserInfo r.isExcluded r.callback r.callbackRunner) := by
  obtain ⟨hlt, rfl⟩ := List.getElem?_eq_some_iff.mp hr
  have hperm := (getElem_cons_eraseIdx_perm hlt).map NewBrowserInfoResponse.callback
  have hsent : s.sent = s.responses[task].callback ::ₘ
      sent { s with responses := s.responses.eraseIdx task } := by
    unfold sent
    rw [← Multiset.coe_eq_coe.mpr hperm, map_cons, ← Multiset.cons_coe, Multiset.cons_add]
  refine Ledger.send ?_ (h.dispatched.trans hsent) h.pending ?_ h.history ?_
  · rw [← hsent]
    exact h.balance
  · exact fun r hr => h.response r (mem_of_mem_eraseIdx hr)
  · exact h.response _ (getElem_mem hlt)

/-! ### Runs -/

lemma Ledger.step {s' : CefBrowserInfoManager} {operation : Operation} (h : Ledger s)
    (hone : s.OnePending operation) (hs : s.step operation = some s') : Ledger s' := by
  cases operation with
  | createBrowserInfo isDevtoolsPopup config extraInfo =>
    cases hs
    exact h.of_eq rfl rfl rfl rfl rfl
  | createPopupBrowserInfo current token config extraInfo =>
    cases hs
    have hcreated : Ledger (s.createBrowserInfo true config extraInfo).2 :=
      h.of_eq rfl rfl rfl rfl rfl
    exact hcreated.continueNewBrowserInfo token _ false
  | removeBrowserInfo info =>
    cases hs
    exact h.of_eq rfl rfl rfl rfl rfl
  | onGetNewBrowserInfo current token hasFrame =>
    cases hs
    exact h.onGetNewBrowserInfo hone
  | onMainFrameCreated current token info =>
    cases hs
    exact h.continueNewBrowserInfo token info false
  | checkExcluded current task excludedFor =>
    obtain ⟨token, -, hs⟩ := bind_eq_some_iff.mp hs
    have htaken : Ledger { s with excludedTasks := s.excludedTasks.eraseIdx task } :=
      h.of_eq rfl rfl rfl rfl rfl
    cases excludedFor with
    | none =>
      cases hs
      exact htaken
    | some info =>
      cases hs
      exact htaken.continueNewBrowserInfo token info true
  | timeout current task =>
    obtain ⟨⟨token, timeoutId⟩, -, hs⟩ := bind_eq_some_iff.mp hs
    cases hs
    have htaken : Ledger { s with timeoutTasks := s.timeoutTasks.eraseIdx task } :=
      h.of_eq rfl rfl rfl rfl rfl
    exact htaken.timeoutNewBrowserInfoResponse token timeoutId
  | renderProcessHostDestroyed current childId =>
    cases hs
    exact h.cancelRequests childId _
  | runResponse task =>
    obtain ⟨r, hr, hs⟩ := bind_eq_some_iff.mp hs
    cases hs
    exact h.runResponse hr

lemma Ledger.answered (h : Ledger s) : Answered s := by
  have hnodup : (s.pendingCallbacks + s.sent).Nodup := by
    rw [h.balance]
    exact Multiset.nodup_range _
  obtain ⟨-, hsent, hdisjoint⟩ := Multiset.nodup_add.mp hnodup
  have hpending : ∀ callback, s.IsPending callback ↔ callback ∈ s.pendingCallbacks := by
    intro callback
    simp only [IsPending, pendingCallbacks, Multiset.mem_coe, List.mem_map]
    constructor
    · rintro ⟨token, pending, hlookup, rfl⟩
      exact ⟨⟨token, pending⟩, mem_lookup_iff.mp hlookup, rfl⟩
    · rintro ⟨⟨token, pending⟩, hmem, rfl⟩
      exact ⟨token, pending, mem_lookup_iff.mpr hmem, rfl⟩
  refine ⟨?_, ?_, h.history.timeout, h.history.queued_unique, h.history.requested_unique,
    h.history.answer⟩
  · exact Multiset.coe_nodup.mp (Multiset.nodup_add.mp hsent).2.1
  · intro callback hlt
    rw [hpending, ← Multiset.mem_coe, h.dispatched]
    have hmem : callback ∈ s.pendingCallbacks + s.sent := by
      rw [h.balance]
      exact Multiset.mem_range.mpr hlt
    constructor
    · exact Multiset.disjoint_left.mp hdisjoint
    · exact fun hd => (Multiset.mem_add.mp hmem).resolve_right hd

/-- **Requests are answered once**, in every run that does not ask for a frame while a request for
it is pending.

**Proof sketch.** As multisets, the callbacks in the map, in the posted responses and of the answers
are the numbers of the requests, which are all different; a response moves a callback out of the
map. The entry of a token knows its own timeout. -/
theorem requests_answered (timeoutEnabled : Bool) (operations : List Operation)
    {s : CefBrowserInfoManager} (hone : Transition.Along step OnePending { timeoutEnabled } operations)
    (hrun : operations.foldlM step { timeoutEnabled } = some s) : Answered s :=
  (Transition.Along.invariant (I := Ledger) (fun _ _ _ h hone hs => h.step hone hs) operations
    { timeoutEnabled } s (ledger_new timeoutEnabled) hone hrun).answered

/-- Two requests for one frame, one after the other, with the timeout of the first one behind the
second request. -/
def sampleRun : List Operation :=
  [.onGetNewBrowserInfo 1 ⟨7, "f"⟩ fun _ => false,
    .createPopupBrowserInfo 0 ⟨7, "f"⟩ {} none, .runResponse 0,
    .onGetNewBrowserInfo 1 ⟨7, "f"⟩ fun _ => false, .timeout 0 0,
    .onMainFrameCreated 0 ⟨7, "f"⟩ ⟨1, true, {}, none⟩, .runResponse 0]

lemma sampleRun_isSome : (sampleRun.foldlM step {}).isSome = true := by decide +kernel

/-- Both are answered. -/
theorem requests_answered_sample :
    Answered ((sampleRun.foldlM step {}).get sampleRun_isSome) ∧
      answers ((sampleRun.foldlM step {}).get sampleRun_isSome).log = [1, 0] := by
  refine ⟨requests_answered true sampleRun ?_ (some_get sampleRun_isSome).symm, ?_⟩
  · refine ⟨fun _ => notMem_empty _, True.intro, True.intro, ?_, True.intro, True.intro,
      True.intro, True.intro⟩
    intro _
    decide +kernel
  · decide +kernel

end CefCore.Browser.CefBrowserInfoManager
