import CefCore.MessageRouter.BrowserSideImplCompletion
import CefCore.MessageRouter.BrowserSideImplReentrancy

/-!
# Cancellations inside cancellations in the C++ browser-side router

`CancelQuery` tells the handler of a query that it is canceled while the query is still in the map,
and its `QueryInfo` is deleted and its entry erased when the handler returns. A cancellation that the
handler starts meanwhile does no harm as long as it leaves the queries alone whose handlers are
waited for: the entries around them may go, but the iterators stay valid, and so do the inner maps.
A cancellation that comes to such a query cancels it once more.

## Main results

* `canceled_once`: every query is told once in runs of such cancellations.
-/

namespace CefCore.MessageRouter

open Std List Option BrowserSideImpl EventLog

def RouterEvent.cancels (q : Query) : RouterEvent → Bool
  | .onQueryCanceled query _ _ _ _ => query = some q
  | _ => false

/-! ### The invariant -/

/-- The cancellation covers none of the queries that the cancellations in progress are at. -/
def Cancellation.Avoids (c : Cancellation) (infos : ObjectStore QueryInfo) (walks : List CancelWalk) :
    Prop :=
  ∀ w ∈ walks, ∀ i ∈ infos.read w.info, ¬ c.Covers w.browserId i

instance (c : Cancellation) (infos : ObjectStore QueryInfo) (walks : List CancelWalk) :
    Decidable (c.Avoids infos walks) :=
  inferInstanceAs (Decidable (∀ w ∈ walks, ∀ i ∈ infos.read w.info, ¬ c.Covers w.browserId i))

/-- The router while cancellations wait for handlers. The queries that they are at are pending and
live; these are the only ones that the log has as resolved; and no cancellation covers the query of
one further out. -/
structure Canceling (r : BrowserSideImpl) (walks : List CancelWalk) : Prop where
  shape : BrowserSideImpl.Inv { r with memory := { r.memory with log := [] } }
  once : ResolvedOnce r.memory.log
  known : ∀ q, Completed q r.memory.log → q < r.memory.callbacks.length
  unresolved : ∀ p i, r.memory.infos.read p = some i → Completed i.callback r.memory.log →
    ∃ w ∈ walks, w.info = p
  entry : ∀ w ∈ walks, r.browserQueryInfoMap.get? w.browserId w.queryId = some w.info ∧
    ∃ i, r.memory.infos.read w.info = some i ∧ w.Covers w.browserId i
  apart : walks.Pairwise fun inner outer => ∀ i ∈ r.memory.infos.read outer.info,
    ¬ inner.Covers outer.browserId i

section Canceling

variable {r : BrowserSideImpl} {walks : List CancelWalk} {b k : Int} {p : QueryInfoPtr}
  {i : QueryInfo} {c : Cancellation} {w : CancelWalk}

lemma canceling_nil : Canceling r [] ↔ r.Inv := by
  constructor
  · rintro ⟨⟨howned, hgenerator⟩, honce, hknown, hunresolved, -, -⟩
    refine ⟨⟨howned.store, howned.entry, howned.listed, howned.attached, fun p i hr hc => ?_,
      hknown, honce, howned.ids⟩, hgenerator⟩
    obtain ⟨w, hw, -⟩ := hunresolved p i hr hc
    exact not_mem_nil hw
  · intro h
    refine ⟨⟨⟨h.owned.store, h.owned.entry, h.owned.listed, h.owned.attached, ?_, ?_,
      final_nil, h.owned.ids⟩, h.generator⟩, h.owned.once, h.owned.known,
      fun p i hr hc => (h.owned.unresolved p i hr hc).elim, fun w hw => ?_, List.Pairwise.nil⟩
    · exact fun p i _ hc => settled_nil _ hc
    · exact fun q hc => (settled_nil q hc).elim
    · exact (not_mem_nil hw).elim

lemma Canceling.live (h : Canceling r walks) (hg : r.browserQueryInfoMap.get? b k = some p) :
    ∃ i, r.memory.infos.read p = some i := by
  obtain ⟨i, hr, -⟩ := h.shape.owned.entry b k p hg
  exact ⟨i, hr⟩

lemma Canceling.handlers (h : Canceling r walks) (handlers : List Handler) :
    Canceling { r with handlers := handlers } walks :=
  ⟨⟨h.shape.owned, h.shape.generator⟩, h.once, h.known, h.unresolved, h.entry, h.apart⟩

lemma Canceling.not_completed (h : Canceling r walks)
    (hg : r.browserQueryInfoMap.get? b k = some p) (hr : r.memory.infos.read p = some i)
    (hcovers : c.Covers b i) (havoids : c.Avoids r.memory.infos walks) :
    ¬ Completed i.callback r.memory.log := by
  intro hc
  obtain ⟨w, hw, rfl⟩ := h.unresolved p i hr hc
  obtain ⟨hgw, -⟩ := h.entry w hw
  obtain ⟨rfl, -, -⟩ := h.shape.owned.unique hgw hr hg hr rfl
  exact havoids w hw i hr hcovers

/-- **A cancellation comes to a query** that it covers, and tells the handler.

**Proof sketch.** None of the cancellations in progress is at the query, since the new one covers it
and none of theirs. So the query has not been resolved before. -/
lemma Canceling.begin (h : Canceling r walks) (hg : r.browserQueryInfoMap.get? b k = some p)
    (hr : r.memory.infos.read p = some i) (hcovers : c.Covers b i)
    (havoids : c.Avoids r.memory.infos walks) (notify : Bool) :
    Canceling { r with memory := { r.memory with log := cancelLog k i notify r.memory.log } }
      (⟨c, b, k, p⟩ :: walks) := by
  obtain ⟨honce, hlog⟩ := h.once.cancel (h.not_completed hg hr hcovers havoids) k notify
  refine ⟨h.shape, honce, fun q hc => ?_, fun p' j hr' hc => ?_, fun w hw => ?_, ?_⟩
  · rcases hlog q hc with rfl | hc
    · exact (List.getElem?_eq_some_iff.mp (h.shape.owned.callback_of_entry hg hr)).1
    · exact h.known q hc
  · rcases hlog _ hc with hq | hc
    · obtain ⟨b', k', hg'⟩ := h.shape.owned.listed p' j hr'
      obtain ⟨-, -, rfl⟩ := h.shape.owned.unique hg hr hg' hr' hq
      exact ⟨_, mem_cons_self, rfl⟩
    · obtain ⟨w, hw, hp⟩ := h.unresolved p' j hr' hc
      exact ⟨w, mem_cons_of_mem _ hw, hp⟩
  · rcases mem_cons.mp hw with rfl | hw
    · exact ⟨hg, i, hr, hcovers⟩
    · exact h.entry w hw
  · exact pairwise_cons.mpr ⟨havoids, h.apart⟩

/-- **The handler returns**: the callback is detached, the object deleted and the entry erased. The
other cancellations are where they were, and this one covers none of their queries.

**Proof sketch.** The innermost cancellation covers its own query and none of the others'. -/
lemma Canceling.finish (h : Canceling r (w :: walks)) (hr : r.memory.infos.read w.info = some i)
    {m : BrowserInfoMap Int QueryInfoPtr compare}
    (hm : m.get? = Lookup.remove r.browserQueryInfoMap.get? w.browserId w.queryId) :
    Canceling { r with
      browserQueryInfoMap := m
      memory := (r.memory.detach i.callback).delete w.info } walks ∧
    w.Avoids (r.memory.infos.delete w.info) walks := by
  obtain ⟨hg, j, hr', hcovers⟩ := h.entry w mem_cons_self
  obtain rfl : i = j := some.inj (hr.symm.trans hr')
  obtain ⟨hapart, hrest⟩ := pairwise_cons.mp h.apart
  have hread := ObjectStore.read_delete hr
  have hkeep : ∀ {p j}, (r.memory.infos.delete w.info).read p = some j →
      p ≠ w.info ∧ r.memory.infos.read p = some j := by
    intro p j hp
    rw [hread] at hp
    split at hp
    · simp at hp
    · rename_i hne
      exact ⟨hne, hp⟩
  have hother : ∀ outer ∈ walks, outer.info ≠ w.info := by
    intro outer hmem heq
    obtain ⟨hg', j, hr', -⟩ := h.entry outer (mem_cons_of_mem _ hmem)
    rw [heq] at hg' hr'
    obtain ⟨hb, -, -⟩ := h.shape.owned.unique hg hr hg' hr rfl
    refine hapart outer hmem i ?_ (hb ▸ hcovers)
    rw [heq]
    exact hr
  refine ⟨⟨⟨?_, fun hlen => ?_⟩, h.once, fun q hc => ?_, fun p j hp hc => ?_, fun outer hmem => ?_,
    ?_⟩, fun outer hmem j hj => hapart outer hmem j (hkeep hj).2⟩
  · have hres := h.shape.owned.resolve hg hr (final_nil) fun q hc =>
      (settled_nil q hc).elim
    rw [← hm] at hres
    exact hres
  · simp only [Memory.delete, Memory.detach, length_modify] at hlen ⊢
    exact h.shape.generator hlen
  · simp only [Memory.delete, Memory.detach, length_modify]
    exact h.known q hc
  · obtain ⟨hne, hp⟩ := hkeep hp
    obtain ⟨w', hmem, rfl⟩ := h.unresolved p j hp hc
    rcases mem_cons.mp hmem with rfl | hmem
    · exact (hne rfl).elim
    · exact ⟨w', hmem, rfl⟩
  · obtain ⟨hg', j, hr', hcovers'⟩ := h.entry outer (mem_cons_of_mem _ hmem)
    refine ⟨?_, j, ?_, hcovers'⟩
    · rw [hm]
      refine Lookup.remove_eq_some.mpr ⟨?_, hg'⟩
      rintro ⟨hb, hk⟩
      rw [hb, hk, hg] at hg'
      exact hother outer hmem (some.inj hg').symm
    · show (r.memory.infos.delete w.info).read outer.info = _
      rw [hread, if_neg (hother outer hmem)]
      exact hr'
  · exact hrest.imp fun hpair j hj => hpair j (hkeep hj).2

end Canceling

namespace ReentrantRouter

/-- A call does not cancel a query that is being canceled. -/
def Considerate (s : ReentrantRouter) : Action → Prop
  | .cancelPending browser handler =>
    Cancellation.Avoids ⟨browser, .pendingFor handler true, none⟩ s.router.memory.infos s.walks
  | .removeHandler handler => handler ∈ s.router.handlers →
    Cancellation.Avoids ⟨none, .pendingFor (some handler) true, some handler⟩
      s.router.memory.infos s.walks
  | _ => True

instance (s : ReentrantRouter) (a : Action) : Decidable (s.Considerate a) :=
  match a with
  | .cancelPending _ _ => inferInstanceAs (Decidable (Cancellation.Avoids _ _ _))
  | .removeHandler _ => inferInstanceAs (Decidable (_ → _))
  | .enter _ | .addHandler _ _ | .getPendingCount _ _ | .onQueryReturns _
  | .onQueryCanceledReturns => isTrue trivial

def Before (s : ReentrantRouter) (g : IdGenerator) : Prop :=
  match s.offer with
  | none => s.router.queryIdGenerator = g
  | some o => g.getNextId = (o.queryId, s.router.queryIdGenerator)

structure Inv (s : ReentrantRouter) : Prop where
  iterators : s.dangling = false
  canceling : ∃ g, s.Before g ∧ Canceling { s.router with queryIdGenerator := g } s.walks

/-! ### What each step keeps -/

section Steps

variable {s s' : ReentrantRouter} {c : Cancellation}

lemma new_inv : new.Inv :=
  ⟨rfl, _, rfl, canceling_nil.mpr BrowserSideImpl.new_inv⟩

lemma Inv.router_inv (h : s.Inv) (hwalks : s.walks = []) (hoffer : s.offer = none) :
    s.router.Inv := by
  obtain ⟨g, hbefore, hc⟩ := h.canceling
  rw [Before, hoffer] at hbefore
  rw [hwalks, ← hbefore] at hc
  exact canceling_nil.mp hc

lemma inv_of_router (hwalks : s.walks = []) (hoffer : s.offer = none) (hiter : s.dangling = false)
    (hinv : s.router.Inv) : s.Inv := by
  refine ⟨hiter, s.router.queryIdGenerator, ?_, ?_⟩
  · rw [Before, hoffer]
  · rw [hwalks]
    exact canceling_nil.mpr hinv

lemma Inv.live (h : s.Inv) {b k : Int} {p : QueryInfoPtr}
    (hg : s.router.browserQueryInfoMap.get? b k = some p) :
    ∃ i, s.router.memory.infos.read p = some i := by
  obtain ⟨g, -, hc⟩ := h.canceling
  exact hc.live hg

lemma Inv.not_broken (h : s.Inv) : s.broken = false := by
  obtain ⟨g, -, hc⟩ := h.canceling
  rw [broken, h.iterators, Bool.or_false]
  exact hc.shape.owned.store.no_fault

lemma Inv.history (h : s.Inv) (history : List HandlerEvent) : Inv { s with history := history } :=
  ⟨h.iterators, h.canceling⟩

lemma Inv.handlers (h : s.Inv) (handlers : List Handler) :
    Inv { s with router := { s.router with handlers := handlers } } := by
  obtain ⟨g, hbefore, hc⟩ := h.canceling
  exact ⟨h.iterators, g, hbefore, hc.handlers handlers⟩

lemma canceled_inv (h : s.Inv) (c : Cancellation) : (s.canceled c).Inv := by
  unfold canceled
  split
  · split
    · exact h
    · exact h.history _
  · exact h

lemma cancelFrom_inv (h : s.Inv) (havoids : c.Avoids s.router.memory.infos s.walks)
    (position : Option (Int × Int)) : (s.cancelFrom c
      (CefBrowserInfoMap.ahead s.router.browserQueryInfoMap c.browser position)).Inv := by
  unfold cancelFrom
  cases hseek : c.visitor.seek s.router.memory.infos
    (CefBrowserInfoMap.ahead s.router.browserQueryInfoMap c.browser position) with
  | nothing => exact canceled_inv h c
  | stale =>
    exact (CancelVisitor.seek_ne_stale
      (fun e he => h.live (CefBrowserInfoMap.mem_ahead.mp he).1) hseek).elim
  | query b k p i =>
    obtain ⟨⟨hg, hr, hbrowser, hwants⟩, -⟩ := CancelVisitor.seek_ahead hseek
    obtain ⟨g, hbefore, hc⟩ := h.canceling
    have hbegin := hc.begin hg hr ⟨hbrowser, hwants⟩ havoids c.visitor.notifyRenderer
    refine ⟨h.iterators, g, hbefore, ?_⟩
    cases hnotify : c.visitor.notifyRenderer <;> rw [hnotify] at hbegin <;> exact hbegin

lemma cancelPendingFor_inv (h : s.Inv) {browser : Option Int} {handler : Option Handler}
    {notify : Bool} {removing : Option Handler}
    (havoids : Cancellation.Avoids ⟨browser, .pendingFor handler notify, removing⟩
      s.router.memory.infos s.walks) :
    (s.cancelPendingFor browser handler notify removing).Inv := by
  unfold cancelPendingFor
  split
  · exact canceled_inv h _
  · exact cancelFrom_inv h havoids none

lemma avoids_of_idle (hwalks : s.walks = []) : c.Avoids s.router.memory.infos s.walks := by
  intro w hw
  rw [hwalks] at hw
  exact (not_mem_nil hw).elim

lemma onQueryCanceledReturns_inv {w : CancelWalk} {rest : List CancelWalk} (h : s.Inv)
    (hwalks : s.walks = w :: rest) : (onQueryCanceledReturns { s with walks := rest } w).Inv := by
  obtain ⟨g, hbefore, hc⟩ := h.canceling
  rw [hwalks] at hc
  obtain ⟨hg, i, hr, -⟩ := hc.entry w mem_cons_self
  obtain ⟨m, hm⟩ := CefBrowserInfoMap.exists_eraseAt hg
  obtain ⟨hfinish, havoids⟩ := hc.finish hr (CefBrowserInfoMap.get?_eraseAt hm)
  have hr' : s.router.memory.infos.read w.info = some i := hr
  have hm' : CefBrowserInfoMap.eraseAt s.router.browserQueryInfoMap w.browserId w.queryId = some m :=
    hm
  have hinv : Inv { s with
      router := { s.router with
        browserQueryInfoMap := m
        memory := (s.router.memory.detach i.callback).delete w.info }
      walks := rest } := ⟨h.iterators, g, hbefore, hfinish⟩
  unfold onQueryCanceledReturns
  simp only [withMemory, Memory.withInfo, hr', hm']
  split
  · exact cancelFrom_inv hinv havoids _
  · exact canceled_inv hinv _

lemma onQueryMessage_inv (h : s.Inv) (hwalks : s.walks = []) (hoffer : s.offer = none) (b : Int)
    (frame : Frame) (contextId requestId : Int) (persistent : Bool) :
    (s.onQueryMessage b frame contextId requestId persistent).Inv := by
  have hiter := h.iterators
  have hinv := h.router_inv hwalks hoffer
  unfold onQueryMessage
  split
  · exact inv_of_router hwalks hoffer hiter
      (cancelUnhandledQuery_inv hinv frame contextId requestId)
  · refine ⟨hiter, s.router.queryIdGenerator, rfl, ?_⟩
    dsimp only [callHandler, withMemory]
    rw [hwalks]
    exact canceling_nil.mpr ⟨hinv.owned.report (fun q hq => hq.elim) fun q => id, hinv.generator⟩

lemma onQueryReturns_inv {o : Offer} {handled : Bool} (h : s.Inv) (hasking : s.asking = some o)
    (hs : s.onQueryReturns o handled = some s') : s'.Inv := by
  unfold asking at hasking
  split at hasking
  · rename_i hempty
    have hwalks : s.walks = [] := isEmpty_iff.mp hempty
    obtain ⟨hiter, g, hbefore, hc⟩ := h
    rw [Before, hasking] at hbefore
    rw [hwalks] at hc
    have hinv := canceling_nil.mp hc
    have hsame : ∀ q, Completed q s.router.memory.log → Completed q s.router.memory.log := fun _ => id
    unfold onQueryReturns at hs
    split at hs
    · simp only [bind_eq_bind, bind_eq_some_iff, CefBrowserInfoMap.add] at hs
      obtain ⟨m, hadd, hs⟩ := hs
      split at hadd
      · simp at hadd
      · rename_i hfree
        cases hadd
        cases hs
        have hfree' : s.router.browserQueryInfoMap.get? o.browser g.getNextId.1 = none := by
          rw [hbefore]
          exact hfree
        have hacc := hinv.accepted o.browser o.persistent (i := ⟨o.browser, o.frame, o.contextId,
          o.requestId, o.persistent, s.router.memory.callbacks.length, o.handler⟩) rfl rfl hfree'
          hinv.owned.once hsame
        rw [hbefore] at hacc
        exact inv_of_router hwalks rfl hiter hacc
    · split at hs
      · cases hs
        refine ⟨hiter, g, hbefore, ?_⟩
        dsimp only [callHandler, withMemory]
        rw [hwalks]
        exact canceling_nil.mpr ⟨hinv.owned.report (fun q hq => hq.elim) fun q => id,
          hinv.generator⟩
      · cases hs
        have hun := hinv.unaccepted o.browser o.persistent hinv.owned.once hsame
        rw [hbefore] at hun
        exact inv_of_router hwalks rfl hiter
          (cancelUnhandledQuery_inv hun o.frame o.contextId o.requestId)
  · simp at hasking

lemma enter_inv (h : s.Inv) (hwalks : s.walks = []) (hoffer : s.offer = none) (entry : Entry) :
    (s.enter entry).Inv := by
  have hiter := h.iterators
  have hinv := h.router_inv hwalks hoffer
  cases entry with
  | onBeforeClose browser => exact cancelPendingFor_inv h (avoids_of_idle hwalks)
  | onRenderProcessTerminated browser => exact cancelPendingFor_inv h (avoids_of_idle hwalks)
  | onBeforeBrowse browser frame =>
    unfold enter
    dsimp only
    split
    · exact cancelPendingFor_inv h (avoids_of_idle hwalks)
    · exact h
  | queryMessage b frame contextId requestId persistent =>
    exact onQueryMessage_inv h hwalks hoffer b frame contextId requestId persistent
  | cancelMessage b contextId requestId =>
    exact cancelFrom_inv h (avoids_of_idle hwalks) none
  | successTask q builds =>
    exact inv_of_router hwalks hoffer hiter (successImpl_inv hinv q builds)
  | failureTask q errorCode errorMessage =>
    exact inv_of_router hwalks hoffer hiter
      (failureImpl_inv hinv q errorCode errorMessage)

/-- **One step**: a considerate call, or a return, keeps the invariant. -/
theorem step_inv {a : Action} (h : s.Inv) (hcons : s.Considerate a) (hs : s.step a = some s') :
    s'.Inv := by
  unfold step at hs
  rw [h.not_broken] at hs
  simp only [Bool.false_eq_true, if_false] at hs
  cases a with
  | enter entry =>
    dsimp only at hs
    split at hs
    · rename_i hidle
      cases hs
      rw [idle, Bool.and_eq_true, List.isEmpty_iff, Option.isNone_iff_eq_none] at hidle
      exact enter_inv h hidle.1 hidle.2 entry
    · simp at hs
  | addHandler handler first =>
    cases hs
    unfold addHandler BrowserSideImpl.addHandler
    by_cases hmem : handler ∈ s.router.handlers
    · rw [if_pos hmem]
      exact h
    · rw [if_neg hmem]
      exact (h.handlers _).history _
  | removeHandler handler =>
    cases hs
    unfold removeHandler
    split
    · rename_i hmem
      have h' := h.handlers (s.router.handlers.erase handler)
      exact cancelPendingFor_inv h' (hcons hmem)
    · exact h
  | cancelPending browser handler =>
    cases hs
    exact cancelPendingFor_inv h hcons
  | getPendingCount browser handler =>
    cases hs
    rcases s.router.getPendingCount_snd browser handler with heq | ⟨⟨b, k, p, hg, hdead⟩, -⟩
    · rw [heq]
      exact h
    · obtain ⟨i, hr⟩ := h.live hg
      rw [hdead] at hr
      simp at hr
  | onQueryReturns handled =>
    obtain ⟨o, hasking, hs⟩ := bind_eq_some_iff.mp hs
    exact onQueryReturns_inv h hasking hs
  | onQueryCanceledReturns =>
    dsimp only at hs
    split at hs
    · simp at hs
    · rename_i w rest hwalks
      cases hs
      exact onQueryCanceledReturns_inv h hwalks

end Steps

/-! ### Runs -/

/-- Every query gets `OnQueryCanceled` at most once; the `QueryInfo` of a pending query has not been
deleted, any other has been deleted exactly once; no object has been used after its deletion, and no
iterator of an entry or an inner map that is gone. -/
structure CanceledOnce (s : ReentrantRouter) : Prop where
  notified : ∀ q, (s.router.memory.log.filter (·.cancels q)).length ≤ 1
  pending : ∀ b k p, s.router.browserQueryInfoMap.get? b k = some p →
    s.router.memory.infos.deletes.count p = 0
  deleted : ∀ p < s.router.memory.infos.cells.length,
    (∀ b k, s.router.browserQueryInfoMap.get? b k ≠ some p) →
    s.router.memory.infos.deletes.count p = 1
  safe : s.router.memory.infos.fault = false
  iterators : s.dangling = false

lemma Inv.canceledOnce {s : ReentrantRouter} (h : s.Inv) : s.CanceledOnce := by
  obtain ⟨hiter, g, -, hc⟩ := h
  have howned := hc.shape.owned
  refine ⟨fun q => ?_, fun b k p hg => ?_, fun p hp hnot => ?_, howned.store.no_fault, hiter⟩
  · refine hc.once.length_filter_le_one (i := q) fun e _ he => ?_
    cases e with
    | onQueryCanceled query handler browser frame queryId =>
      have hq : query = some q := of_decide_eq_true he
      exact ⟨hq, .inl hq⟩
    | onQuery | querySuccess | queryFailure | successRan | failureRan => exact Bool.noConfusion he
  · obtain ⟨i, hr, -⟩ := howned.entry b k p hg
    rw [howned.store.count_deletes (ObjectStore.read_eq_some.mp hr)]
    rfl
  · obtain ⟨cell, hcell⟩ : ∃ cell, s.router.memory.infos.cells[p]? = some cell :=
      ⟨_, getElem?_eq_getElem hp⟩
    rw [howned.store.count_deletes hcell]
    cases hlive : cell.live with
    | false => rfl
    | true =>
      have hr : s.router.memory.infos.read p = some cell.value := by
        rw [ObjectStore.read_eq_some, hcell, ← hlive]
      obtain ⟨b, k, hg⟩ := howned.listed p cell.value hr
      exact (hnot b k hg).elim

/-- **Cancellations inside cancellations**: as long as no handler cancels a query that is being
canceled, every query is canceled at most once, and nothing is used that is gone.

**Proof sketch.** The queries that cancellations in progress are at stay in the map until their
handlers return, as no cancellation further in covers them. -/
theorem canceled_once {acts : List Action} {s : ReentrantRouter}
    (hcons : Transition.Along step Considerate new acts) (h : acts.foldlM step new = some s) :
    s.CanceledOnce :=
  (Transition.Along.invariant (fun _ _ _ => step_inv) acts new s new_inv hcons h).canceledOnce

/-- Queries of two handlers, and a cancellation of the queries of one browser. The handler that is
told first removes the other handler and asks for the number of queries. -/
def removesOther : List Action :=
  [.addHandler 7 false, .addHandler 8 false, .enter (.queryMessage 1 ⟨1, true⟩ 1 1 false),
    .onQueryReturns true, .enter (.queryMessage 2 ⟨2, true⟩ 1 2 true), .onQueryReturns false,
    .onQueryReturns true, .enter (.queryMessage 1 ⟨1, true⟩ 1 3 true), .onQueryReturns true,
    .cancelPending (some 1) none, .removeHandler 8, .getPendingCount none (some 7),
    .onQueryCanceledReturns, .getPendingCount none none, .onQueryCanceledReturns,
    .onQueryCanceledReturns]

/-- All three queries are canceled, the one of the removed handler first. -/
theorem canceled_once_removesOther : ∃ s, removesOther.foldlM step new = some s ∧ s.idle = true ∧
    s.router.memory.infos.deletes = [2, 0, 1] ∧ s.CanceledOnce := by
  have hrun : removesOther.foldlM step new = some ((removesOther.foldlM step new).getD new) :=
    (getD_of_ne_none (isSome_iff_ne_none.mp (by decide)) _).symm
  exact ⟨_, hrun, by decide, by decide, canceled_once (by decide) hrun⟩

def cancelsEverything : List Action :=
  [.addHandler 7 false, .enter (.queryMessage 1 ⟨1, true⟩ 1 1 false), .onQueryReturns true,
    .cancelPending none none, .cancelPending none none, .onQueryCanceledReturns,
    .onQueryCanceledReturns]

/-- The query is canceled twice and its object is deleted twice. The outer cancellation uses the
object after its deletion, and then the iterators of an entry and an inner map that are gone. -/
theorem canceled_twice : ∃ s, cancelsEverything.foldlM step new = some s ∧
    (s.router.memory.log.filter (·.cancels 0)).length = 2 ∧ s.router.memory.infos.deletes = [0, 0] ∧
    s.router.memory.infos.fault = true ∧ s.dangling = true ∧ ¬ s.CanceledOnce := by
  have hrun : cancelsEverything.foldlM step new =
      some ((cancelsEverything.foldlM step new).getD new) :=
    (getD_of_ne_none (isSome_iff_ne_none.mp (by decide)) _).symm
  have htwice : (((cancelsEverything.foldlM step new).getD new).router.memory.log.filter
      (·.cancels 0)).length = 2 := by decide
  refine ⟨_, hrun, htwice, by decide, by decide, by decide, fun h => ?_⟩
  have := h.notified 0
  rw [htwice] at this
  omega

end ReentrantRouter

end CefCore.MessageRouter
