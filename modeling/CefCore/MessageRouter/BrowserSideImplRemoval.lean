import CefCore.MessageRouter.BrowserSideImplReentrancy

/-!
# Removed handlers of the C++ browser-side router

`RemoveHandler` cancels the pending queries of the handler before it returns, and the handler may be
deleted then. A query message asks a copy of the handler list that was made before the first
`OnQuery`, and records the handler that accepts the query afterwards. So a handler that is removed
while the others are asked may be asked all the same, and a handler that removes itself and accepts
gets a pending query.

## Main results

* `removal_final_iff`: the runs in which a removed handler is left alone.
-/

namespace CefCore.MessageRouter

open Std List Option ObjectStore

/-- The handler has been removed and not been added again since. -/
def WasRemoved (handler : Handler) : List HandlerEvent → Prop
  | [] => False
  | .added h :: rest => h ≠ handler ∧ WasRemoved handler rest
  | .removed h :: rest => h = handler ∨ WasRemoved handler rest
  | .called _ :: rest => WasRemoved handler rest

/-! ### Routers with fewer pending queries -/

namespace BrowserSideImpl

def Pending (r : BrowserSideImpl) (b k : Int) (i : QueryInfo) : Prop :=
  ∃ p, r.browserQueryInfoMap.get? b k = some p ∧ r.memory.infos.value p = some i

structure Shrinks (r r' : BrowserSideImpl) : Prop where
  handlers : r'.handlers = r.handlers
  entries : ∀ b k p, r'.browserQueryInfoMap.get? b k = some p →
    r.browserQueryInfoMap.get? b k = some p
  values : ∀ p, r'.memory.infos.value p = r.memory.infos.value p

section Shrinks

variable {r r' : BrowserSideImpl}

lemma Shrinks.pending (h : Shrinks r r') {b k : Int} {i : QueryInfo} (hp : r'.Pending b k i) :
    r.Pending b k i := by
  obtain ⟨p, hg, hv⟩ := hp
  exact ⟨p, h.entries b k p hg, (h.values p).symm.trans hv⟩

lemma Shrinks.trans {r'' : BrowserSideImpl} (h : Shrinks r r') (h' : Shrinks r' r'') :
    Shrinks r r'' :=
  ⟨h'.handlers.trans h.handlers, fun b k p hg => h.entries b k p (h'.entries b k p hg),
    fun p => (h'.values p).trans (h.values p)⟩

lemma shrinks_memory (r : BrowserSideImpl) {mem : Memory}
    (h : ∀ p, mem.infos.value p = r.memory.infos.value p) : Shrinks r { r with memory := mem } :=
  ⟨rfl, fun _ _ _ => id, h⟩

lemma shrinks_getQueryInfo (r : BrowserSideImpl) (b k : Int) (alwaysRemove : Bool) :
    Shrinks r (r.getQueryInfo b k alwaysRemove).2.2 := by
  have hvalue : ∀ b k p (t : Memory × Bool) q,
      (queryInfoVisitor alwaysRemove b k p t).2.1.infos.value q = t.1.infos.value q := by
    rintro b k p ⟨mem, removed⟩ q
    unfold queryInfoVisitor
    dsimp only
    split
    · split <;> rfl
    · rfl
  have hmap := BrowserInfoMap.get?_find r.browserQueryInfoMap b k (queryInfoVisitor alwaysRemove)
    (r.memory, false)
  have hvalues : ∀ q, (r.browserQueryInfoMap.find b k (some (queryInfoVisitor alwaysRemove))
      (r.memory, false)).2.2.1.infos.value q = r.memory.infos.value q := by
    intro q
    unfold BrowserInfoMap.find
    split
    · rfl
    · split
      · rfl
      · dsimp only
        split <;> exact hvalue _ _ _ _ q
  unfold getQueryInfo
  rw [CefBrowserInfoMap.find_eq]
  rcases hfind : r.browserQueryInfoMap.find b k (some (queryInfoVisitor alwaysRemove))
    (r.memory, false) with ⟨found, m, mem, removed⟩
  rw [hfind] at hmap hvalues
  refine ⟨rfl, fun b' k' p hg => ?_, hvalues⟩
  rw [show m.get? = _ from hmap] at hg
  split at hg
  · exact hg
  · split at hg
    · exact (Lookup.remove_eq_some.mp hg).2
    · exact hg

lemma shrinks_onCallbackSuccess (r : BrowserSideImpl) (b k : Int) (builds : Bool) :
    Shrinks r (r.onCallbackSuccess b k builds) := by
  have hget := r.shrinks_getQueryInfo b k false
  unfold onCallbackSuccess
  split
  · rename_i heq
    rw [heq] at hget
    exact hget
  · rename_i info removed t heq
    rw [heq] at hget
    refine hget.trans (shrinks_memory t fun p => ?_)
    have hsend : ∀ p, (t.memory.withInfo info fun i => t.memory.sendQuerySuccess (some i.callback)
        i.frame i.contextId i.requestId builds).infos.value p = t.memory.infos.value p := by
      intro p
      unfold Memory.withInfo Memory.sendQuerySuccess
      split
      · split <;> rfl
      · rfl
    split
    · exact value_delete_eq.trans (hsend p)
    · exact hsend p

lemma shrinks_onCallbackFailure (r : BrowserSideImpl) (b k errorCode : Int) (errorMessage : String) :
    Shrinks r (r.onCallbackFailure b k errorCode errorMessage) := by
  have hget := r.shrinks_getQueryInfo b k true
  unfold onCallbackFailure
  split
  · rename_i heq
    rw [heq] at hget
    exact hget
  · rename_i info removed t heq
    rw [heq] at hget
    refine hget.trans (shrinks_memory t fun p => value_delete_eq.trans ?_)
    unfold Memory.withInfo
    split <;> rfl

lemma shrinks_successImpl (r : BrowserSideImpl) (q : Query) (builds : Bool) :
    Shrinks r (r.successImpl q builds) := by
  unfold successImpl
  split
  · exact ⟨rfl, fun _ _ _ => id, fun _ => rfl⟩
  · rename_i c _
    split
    · refine (r.shrinks_onCallbackSuccess c.browserId c.queryId builds).trans ?_
      split <;> exact ⟨rfl, fun _ _ _ => id, fun _ => rfl⟩
    · exact ⟨rfl, fun _ _ _ => id, fun _ => rfl⟩

lemma shrinks_failureImpl (r : BrowserSideImpl) (q : Query) (errorCode : Int)
    (errorMessage : String) : Shrinks r (r.failureImpl q errorCode errorMessage) := by
  unfold failureImpl
  split
  · exact ⟨rfl, fun _ _ _ => id, fun _ => rfl⟩
  · rename_i c _
    split
    · exact (r.shrinks_onCallbackFailure c.browserId c.queryId errorCode errorMessage).trans
        ⟨rfl, fun _ _ _ => id, fun _ => rfl⟩
    · exact ⟨rfl, fun _ _ _ => id, fun _ => rfl⟩

end Shrinks

end BrowserSideImpl

namespace ReentrantRouter

/-! ### The property and its invariant -/

/-- A handler that has been removed is not called until it is added again, and no query in the map
is its. -/
structure RemovalFinal (s : ReentrantRouter) : Prop where
  called : ∀ handler earlier, (.called handler :: earlier) <:+ s.history →
    ¬ WasRemoved handler earlier
  pending : ∀ b k i, s.router.Pending b k i → ¬ WasRemoved i.handler s.history

/-- When `OnQuery` returns true, the handler is registered if the query gets recorded; when it returns
false, the next handler of the copy is registered. -/
def Registered (s : ReentrantRouter) : Action → Prop
  | .onQueryReturns handled => s.broken = false → ∀ o ∈ s.asking,
    if handled then s.router.browserQueryInfoMap.get? o.browser o.queryId = none →
      o.handler ∈ s.router.handlers
    else ∀ handler ∈ o.rest.head?, handler ∈ s.router.handlers
  | _ => True

/-- A call that removes a handler walks over all queries, and has left no query of the handler among
those that are neither ahead of its position nor under some other ids. -/
def Cleared (s : ReentrantRouter) (c : Cancellation) (position : Option (Int × Int))
    (current : Option (Int × Int)) : Prop :=
  ∀ handler ∈ c.removing, c.browser = none ∧ c.visitor = .pendingFor (some handler) true ∧
    ∀ b k i, s.router.Pending b k i → ¬ CefBrowserInfoMap.IsAhead position b k →
      current ≠ some (b, k) → i.handler ≠ handler

structure Removing (s : ReentrantRouter) (calls : List Cancellation) : Prop where
  registered : ∀ handler ∈ s.router.handlers, ¬ WasRemoved handler s.history
  cleared : ∀ w ∈ s.walks, s.Cleared w.toCancellation (some (w.browserId, w.queryId))
    (some (w.browserId, w.queryId))
  offered : ∀ o ∈ s.offer, ∀ handler ∈ o.handler :: o.rest, handler ∈ s.router.handlers ∨
    WasRemoved handler s.history ∨ ∃ c ∈ calls, c.removing = some handler

section Steps

variable {s s' : ReentrantRouter} {c : Cancellation} {calls : List Cancellation}

lemma RemovalFinal.of_call (h : s.RemovalFinal) {handler : Handler}
    (hnot : ¬ WasRemoved handler s.history) (hhistory : s'.history = .called handler :: s.history)
    (hpending : ∀ b k i, s'.router.Pending b k i → s.router.Pending b k i) : s'.RemovalFinal := by
  refine ⟨fun handler' earlier hsuffix => ?_, fun b k i hp hrem => ?_⟩
  swap
  · rw [hhistory] at hrem
    exact h.pending b k i (hpending b k i hp) hrem
  rw [hhistory] at hsuffix
  rcases suffix_cons_iff.mp hsuffix with heq | hsuffix
  · simp only [cons.injEq, HandlerEvent.called.injEq] at heq
    obtain ⟨rfl, rfl⟩ := heq
    exact hnot
  · exact h.called handler' earlier hsuffix

/-- A cancellation returns when no query of the handler to be removed is left.

**Proof sketch.** The handler is noted as removed unless it has been added again, and then it is
neither registered nor has it a query in the map. -/
lemma canceled_removal (hinv : s.Removing (c :: calls)) (h : s.RemovalFinal)
    (hnone : ∀ handler ∈ c.removing, ∀ b k i, s.router.Pending b k i → i.handler ≠ handler) :
    (s.canceled c).Removing calls ∧ (s.canceled c).RemovalFinal := by
  unfold canceled
  cases hremoving : c.removing with
  | none =>
    refine ⟨⟨hinv.registered, hinv.cleared, fun o ho handler hmem => ?_⟩, h⟩
    rcases hinv.offered o ho handler hmem with hreg | hrem | ⟨c', hc', heq⟩
    · exact .inl hreg
    · exact .inr (.inl hrem)
    · rcases mem_cons.mp hc' with rfl | hc'
      · rw [hremoving] at heq
        simp at heq
      · exact .inr (.inr ⟨c', hc', heq⟩)
  | some removed =>
    have hoffered : ∀ o ∈ s.offer, ∀ handler ∈ o.handler :: o.rest, handler = removed ∨
        handler ∈ s.router.handlers ∨ WasRemoved handler s.history ∨
        ∃ c ∈ calls, c.removing = some handler := by
      intro o ho handler hmem
      rcases hinv.offered o ho handler hmem with hreg | hrem | ⟨c', hc', heq⟩
      · exact .inr (.inl hreg)
      · exact .inr (.inr (.inl hrem))
      · rcases mem_cons.mp hc' with rfl | hc'
        · rw [hremoving] at heq
          exact .inl (some.inj heq).symm
        · exact .inr (.inr (.inr ⟨c', hc', heq⟩))
    dsimp only
    split
    · rename_i hadded
      refine ⟨⟨hinv.registered, hinv.cleared, fun o ho handler hmem => ?_⟩, h⟩
      rcases hoffered o ho handler hmem with rfl | hother
      · exact .inl hadded
      · exact hother
    · rename_i hgone
      refine ⟨⟨fun handler hmem => ?_, hinv.cleared, fun o ho handler hmem => ?_⟩, ?_, ?_⟩
      · rintro (rfl | hrem)
        · exact hgone hmem
        · exact hinv.registered handler hmem hrem
      · rcases hoffered o ho handler hmem with rfl | hreg | hrem | hc'
        · exact .inr (.inl (.inl rfl))
        · exact .inl hreg
        · exact .inr (.inl (.inr hrem))
        · exact .inr (.inr hc')
      · intro handler earlier hsuffix
        rcases suffix_cons_iff.mp hsuffix with heq | hsuffix
        · simp at heq
        · exact h.called handler earlier hsuffix
      · rintro b k i hp (heq | hrem)
        · exact hnone removed hremoving b k i hp heq.symm
        · exact h.pending b k i hp hrem

def RemovalInv (s : ReentrantRouter) : Prop :=
  s.broken = false → s.Removing (s.walks.map (·.toCancellation))

lemma canceled_walks (s : ReentrantRouter) (c : Cancellation) : (s.canceled c).walks = s.walks := by
  unfold canceled
  split
  · split <;> rfl
  · rfl

/-- **A walk goes on**, and calls the handler of the next query it cancels, or returns.

**Proof sketch.** A call that removes a handler passes the queries of the other handlers only. So
when it comes to nothing, no query of the handler is left. -/
lemma cancelFrom_removal (hinv : s.Removing (c :: s.walks.map (·.toCancellation)))
    (h : s.RemovalFinal) {position : Option (Int × Int)} (hcleared : s.Cleared c position none) :
    (s.cancelFrom c (CefBrowserInfoMap.ahead s.router.browserQueryInfoMap c.browser
      position)).RemovalInv ∧
    (s.cancelFrom c (CefBrowserInfoMap.ahead s.router.browserQueryInfoMap c.browser
      position)).RemovalFinal := by
  have hother : ∀ handler ∈ c.removing, ∀ b k p i,
      s.router.browserQueryInfoMap.get? b k = some p → s.router.memory.infos.value p = some i →
      (∃ j, s.router.memory.infos.read p = some j ∧ ¬ c.visitor.Wants j) → i.handler ≠ handler := by
    rintro handler hremoving b k p i hg hv ⟨j, hr, hwants⟩ rfl
    obtain ⟨-, hvisitor, -⟩ := hcleared _ hremoving
    obtain rfl := some.inj (hv.symm.trans (value_of_read hr))
    rw [hvisitor] at hwants
    exact hwants (.inr rfl)
  unfold cancelFrom
  cases hseek : c.visitor.seek s.router.memory.infos
    (CefBrowserInfoMap.ahead s.router.browserQueryInfoMap c.browser position) with
  | nothing =>
    obtain ⟨hinv', h'⟩ := canceled_removal hinv h fun handler hremoving b k i ⟨p, hg, hv⟩ => by
      obtain ⟨hbrowser, -, hbehind⟩ := hcleared handler hremoving
      by_cases hahead : CefBrowserInfoMap.IsAhead position b k
      · exact hother handler hremoving b k p i hg hv (CancelVisitor.seek_eq_nothing hseek (b, k, p)
          (CefBrowserInfoMap.mem_ahead.mpr ⟨hg, .inl hbrowser, hahead⟩))
      · exact hbehind b k i ⟨p, hg, hv⟩ hahead (by simp)
    refine ⟨fun _ => ?_, h'⟩
    rw [canceled_walks]
    exact hinv'
  | stale =>
    refine ⟨fun hbroken => ?_, h.called, h.pending⟩
    simp [broken, withMemory, ObjectStore.fail] at hbroken
  | query b k p i =>
    obtain ⟨⟨hg, hr, -, -⟩, hpassed⟩ := CancelVisitor.seek_ahead hseek
    have hnot := h.pending b k i ⟨p, hg, value_of_read hr⟩
    have hpending : ∀ b' k' i', BrowserSideImpl.Pending (s.withMemory
        (if c.visitor.notifyRenderer then
          s.router.memory.sendQueryFailure (some i.callback) i.frame i.contextId i.requestId
            canceledErrorCode canceledErrorMessage
        else s.router.memory)).router b' k' i' → s.router.Pending b' k' i' := by
      intro b' k' i' hp
      cases hnotify : c.visitor.notifyRenderer <;> rw [hnotify] at hp <;> exact hp
    refine ⟨fun _ => ⟨hinv.registered, fun w hw => ?_, hinv.offered⟩, h.of_call hnot rfl hpending⟩
    rcases mem_cons.mp hw with rfl | hw
    · intro handler hremoving
      obtain ⟨hbrowser, hvisitor, hbehind⟩ := hcleared handler hremoving
      refine ⟨hbrowser, hvisitor, fun b' k' i' hp hnotAhead hcurrent => ?_⟩
      obtain ⟨p', hg', hv'⟩ := hpending b' k' i' hp
      by_cases hahead : CefBrowserInfoMap.IsAhead position b' k'
      · refine hother handler hremoving b' k' p' i' hg' hv' (hpassed b' k' p' hg'
          (.inl hbrowser) hahead hnotAhead fun heq => hcurrent (congrArg some heq))
      · exact hbehind b' k' i' ⟨p', hg', hv'⟩ hahead (by simp)
    · intro handler hremoving
      obtain ⟨hbrowser, hvisitor, hbehind⟩ := hinv.cleared w hw handler hremoving
      exact ⟨hbrowser, hvisitor, fun b' k' i' hp => hbehind b' k' i' (hpending b' k' i' hp)⟩

lemma Removing.cons (h : s.Removing calls) (c : Cancellation) : s.Removing (c :: calls) :=
  ⟨h.registered, h.cleared, fun o ho handler hmem => (h.offered o ho handler hmem).imp_right
    (Or.imp_right fun ⟨c', hc', heq⟩ => ⟨c', mem_cons_of_mem c hc', heq⟩)⟩

lemma cancelPendingFor_removal {browser : Option Int} {handler : Option Handler} {notify : Bool}
    {removing : Option Handler}
    (hinv : s.Removing (⟨browser, .pendingFor handler notify, removing⟩ ::
      s.walks.map (·.toCancellation))) (h : s.RemovalFinal)
    (hremoving : ∀ removed ∈ removing, browser = none ∧ handler = some removed ∧ notify = true) :
    (s.cancelPendingFor browser handler notify removing).RemovalInv ∧
      (s.cancelPendingFor browser handler notify removing).RemovalFinal := by
  unfold cancelPendingFor
  split
  · rename_i hempty
    obtain ⟨hinv', h'⟩ := canceled_removal hinv h fun _ _ b k i ⟨p, hg, _⟩ => by
      have hmem := BrowserInfoMap.mem_entries.mpr hg
      rw [BrowserInfoMap.entries_of_isEmpty hempty] at hmem
      exact (not_mem_nil hmem).elim
    refine ⟨fun _ => ?_, h'⟩
    rw [canceled_walks]
    exact hinv'
  · refine cancelFrom_removal hinv h fun removed hmem => ?_
    obtain ⟨rfl, rfl, rfl⟩ := hremoving removed hmem
    exact ⟨rfl, rfl, fun b k i _ hbehind => (hbehind fun p hp => by simp at hp).elim⟩

lemma cancelPendingFor_none_removal (hinv : s.Removing (s.walks.map (·.toCancellation)))
    (h : s.RemovalFinal) (browser : Option Int) (handler : Option Handler) (notify : Bool) :
    (s.cancelPendingFor browser handler notify none).RemovalInv ∧
      (s.cancelPendingFor browser handler notify none).RemovalFinal :=
  cancelPendingFor_removal (hinv.cons _) h fun removed hmem => by simp at hmem

lemma onQueryCanceledReturns_removal {w : CancelWalk} {rest : List CancelWalk}
    (hinv : s.Removing (s.walks.map (·.toCancellation))) (h : s.RemovalFinal)
    (hwalks : s.walks = w :: rest) :
    (onQueryCanceledReturns { s with walks := rest } w).RemovalInv ∧
      (onQueryCanceledReturns { s with walks := rest } w).RemovalFinal := by
  have hvalue : ∀ p, ((s.router.memory.withInfo w.info fun i =>
      s.router.memory.detach i.callback).delete w.info).infos.value p =
        s.router.memory.infos.value p := by
    intro p
    refine value_delete_eq.trans ?_
    unfold Memory.withInfo
    split <;> rfl
  unfold onQueryCanceledReturns
  dsimp only [withMemory]
  split
  · refine ⟨fun hbroken => ?_, h.called, fun b k i ⟨p, hg, hv⟩ => h.pending b k i
      ⟨p, hg, (hvalue p).symm.trans hv⟩⟩
    simp [broken] at hbroken
  · rename_i m hm
    have hget := CefBrowserInfoMap.get?_eraseAt hm
    have hshrinks : BrowserSideImpl.Shrinks s.router { s.router with
        browserQueryInfoMap := m
        memory := (s.router.memory.withInfo w.info fun i =>
          s.router.memory.detach i.callback).delete w.info } := by
      refine ⟨rfl, fun b k p hg => ?_, hvalue⟩
      rw [show m.get? = _ from hget] at hg
      exact (Lookup.remove_eq_some.mp hg).2
    rw [hwalks] at hinv
    have hmap : ∀ outer ∈ rest, outer ∈ s.walks := fun outer hmem => by
      rw [hwalks]
      exact mem_cons_of_mem w hmem
    have hinv' : Removing { s with
        router := { s.router with
          browserQueryInfoMap := m
          memory := (s.router.memory.withInfo w.info fun i =>
            s.router.memory.detach i.callback).delete w.info }
        walks := rest } (w.toCancellation :: rest.map (·.toCancellation)) := by
      refine ⟨hinv.registered, fun outer hmem handler hremoving => ?_, hinv.offered⟩
      obtain ⟨hbrowser, hvisitor, hbehind⟩ := hinv.cleared outer (hmap outer hmem) handler hremoving
      exact ⟨hbrowser, hvisitor, fun b k i hp => hbehind b k i (hshrinks.pending hp)⟩
    have h' : RemovalFinal { s with
        router := { s.router with
          browserQueryInfoMap := m
          memory := (s.router.memory.withInfo w.info fun i =>
            s.router.memory.detach i.callback).delete w.info }
        walks := rest } := ⟨h.called, fun b k i hp => h.pending b k i (hshrinks.pending hp)⟩
    have hw : w ∈ s.walks := by
      rw [hwalks]
      exact mem_cons_self
    split
    · refine cancelFrom_removal hinv' h' fun handler hremoving => ?_
      obtain ⟨hbrowser, hvisitor, hbehind⟩ := hinv.cleared w hw handler hremoving
      refine ⟨hbrowser, hvisitor, fun b k i hp hnotAhead _ => ?_⟩
      refine hbehind b k i (hshrinks.pending hp) hnotAhead fun heq => ?_
      -- the entry at the position of the walk has been erased
      obtain ⟨p, hg, -⟩ := hp
      rw [show m.get? = _ from hget] at hg
      cases heq
      exact (Lookup.remove_eq_some.mp hg).1 ⟨rfl, rfl⟩
    · rename_i hstops
      obtain ⟨hinv'', h''⟩ := canceled_removal hinv' h' fun handler hremoving => by
        obtain ⟨-, hvisitor, -⟩ := hinv.cleared w hw handler hremoving
        rw [hvisitor] at hstops
        exact (hstops rfl).elim
      refine ⟨fun _ => ?_, h''⟩
      rw [canceled_walks]
      exact hinv''

lemma addHandler_removal (hinv : s.Removing (s.walks.map (·.toCancellation))) (h : s.RemovalFinal)
    (handler : Handler) (first : Bool) :
    (s.addHandler handler first).RemovalInv ∧ (s.addHandler handler first).RemovalFinal := by
  unfold addHandler BrowserSideImpl.addHandler
  by_cases hmem : handler ∈ s.router.handlers
  · rw [if_pos hmem]
    exact ⟨fun _ => hinv, h⟩
  · rw [if_neg hmem]
    have hhandlers : ∀ handler', handler' ∈ (if first then handler :: s.router.handlers
        else s.router.handlers ++ [handler]) ↔ handler' = handler ∨ handler' ∈ s.router.handlers := by
      intro handler'
      cases first <;> simp [or_comm]
    refine ⟨fun _ => ⟨fun handler' hmem' => ?_, hinv.cleared, fun o ho handler' hmem' => ?_⟩,
      fun handler' earlier hsuffix => ?_, fun b k i hp hrem => h.pending b k i hp hrem.2⟩
    · rintro ⟨hne, hrem⟩
      rcases (hhandlers handler').mp hmem' with rfl | hmem'
      · exact hne rfl
      · exact hinv.registered handler' hmem' hrem
    · by_cases hne : handler' = handler
      · exact .inl ((hhandlers handler').mpr (.inl hne))
      · rcases hinv.offered o ho handler' hmem' with hreg | hrem | hcalls
        · exact .inl ((hhandlers handler').mpr (.inr hreg))
        · exact .inr (.inl ⟨fun heq => hne heq.symm, hrem⟩)
        · exact .inr (.inr hcalls)
    · rcases suffix_cons_iff.mp hsuffix with heq | hsuffix
      · simp at heq
      · exact h.called handler' earlier hsuffix

lemma removeHandler_removal (hinv : s.Removing (s.walks.map (·.toCancellation)))
    (h : s.RemovalFinal) (handler : Handler) :
    (s.removeHandler handler).RemovalInv ∧ (s.removeHandler handler).RemovalFinal := by
  unfold removeHandler
  split
  · refine cancelPendingFor_removal ⟨fun handler' hmem => ?_, hinv.cleared,
      fun o ho handler' hmem => ?_⟩ ⟨h.called, h.pending⟩ fun removed hmem => ?_
    · exact hinv.registered handler' (mem_of_mem_erase hmem)
    · by_cases hne : handler' = handler
      · exact .inr (.inr ⟨_, mem_cons_self, congrArg some hne.symm⟩)
      · rcases hinv.offered o ho handler' hmem with hreg | hrem | ⟨c', hc', heq⟩
        · exact .inl ((mem_erase_of_ne hne).mpr hreg)
        · exact .inr (.inl hrem)
        · exact .inr (.inr ⟨c', mem_cons_of_mem _ hc', heq⟩)
    · exact ⟨rfl, hmem, rfl⟩
  · exact ⟨fun _ => hinv, h⟩

lemma task_removal (hinv : s.Removing (s.walks.map (·.toCancellation))) (h : s.RemovalFinal)
    {r : BrowserSideImpl} (hshrinks : BrowserSideImpl.Shrinks s.router r) :
    RemovalInv { s with router := r } ∧ RemovalFinal { s with router := r } := by
  have hhandlers : r.handlers = s.router.handlers := hshrinks.handlers
  refine ⟨fun _ => ⟨?_, fun w hw handler hremoving => ?_, ?_⟩, h.called,
    fun b k i hp => h.pending b k i (hshrinks.pending hp)⟩
  · rw [hhandlers]
    exact hinv.registered
  · obtain ⟨hbrowser, hvisitor, hbehind⟩ := hinv.cleared w hw handler hremoving
    exact ⟨hbrowser, hvisitor, fun b k i hp => hbehind b k i (hshrinks.pending hp)⟩
  · rw [hhandlers]
    exact hinv.offered

lemma onQueryMessage_removal (hinv : s.Removing (s.walks.map (·.toCancellation)))
    (h : s.RemovalFinal) (browser : Int) (frame : Frame) (contextId requestId : Int)
    (persistent : Bool) :
    (s.onQueryMessage browser frame contextId requestId persistent).RemovalInv ∧
      (s.onQueryMessage browser frame contextId requestId persistent).RemovalFinal := by
  unfold onQueryMessage
  split
  · exact task_removal hinv h (BrowserSideImpl.shrinks_memory _ fun _ => rfl)
  · rename_i handler rest hhandlers
    have hmem : ∀ handler' ∈ handler :: rest, handler' ∈ s.router.handlers := by
      rw [hhandlers]
      exact fun _ => id
    refine ⟨fun _ => ⟨hinv.registered, hinv.cleared, fun o ho handler' hmem' => ?_⟩,
      h.of_call (hinv.registered handler (hmem handler mem_cons_self)) rfl fun _ _ _ => id⟩
    cases ho
    exact .inl (hmem handler' hmem')

lemma enter_removal (hinv : s.Removing (s.walks.map (·.toCancellation))) (h : s.RemovalFinal)
    (entry : Entry) : (s.enter entry).RemovalInv ∧ (s.enter entry).RemovalFinal := by
  cases entry with
  | onBeforeClose browser => exact cancelPendingFor_none_removal hinv h browser none false
  | onRenderProcessTerminated browser => exact cancelPendingFor_none_removal hinv h browser none false
  | onBeforeBrowse browser frame =>
    unfold enter
    dsimp only
    split
    · exact cancelPendingFor_none_removal hinv h browser none false
    · exact ⟨fun _ => hinv, h⟩
  | queryMessage browser frame contextId requestId persistent =>
    exact onQueryMessage_removal hinv h browser frame contextId requestId persistent
  | cancelMessage browser contextId requestId =>
    exact cancelFrom_removal (hinv.cons _) h fun removed hmem => by simp at hmem
  | successTask q builds => exact task_removal hinv h (s.router.shrinks_successImpl q builds)
  | failureTask q errorCode errorMessage =>
    exact task_removal hinv h (s.router.shrinks_failureImpl q errorCode errorMessage)

/-- **An accepted query**: its handler is in the map from now on.

**Proof sketch.** The pending queries are the old ones and the accepted one, and a new object takes no
old object's place in the map unless it is that of the accepted query. -/
lemma pending_accepted (callbacks : List CallbackImpl) {o : Offer}
    {m : BrowserInfoMap Int QueryInfoPtr compare} {i : QueryInfo}
    (hadd : CefBrowserInfoMap.add s.router.browserQueryInfoMap o.browser o.queryId
      (s.router.memory.infos.alloc i).1 = some m) :
    s.router.browserQueryInfoMap.get? o.browser o.queryId = none ∧
    BrowserSideImpl.Pending { s.router with
        browserQueryInfoMap := m
        memory := { s.router.memory with
          infos := (s.router.memory.infos.alloc i).2
          callbacks := callbacks } } o.browser o.queryId i ∧
    ∀ b k j, BrowserSideImpl.Pending { s.router with
        browserQueryInfoMap := m
        memory := { s.router.memory with
          infos := (s.router.memory.infos.alloc i).2
          callbacks := callbacks } } b k j → j = i ∨ s.router.Pending b k j := by
  unfold CefBrowserInfoMap.add at hadd
  split at hadd
  · simp at hadd
  · rename_i hfree
    cases hadd
    have hget := fun b k => BrowserInfoMap.get?_insert s.router.browserQueryInfoMap o.browser b
      o.queryId k (s.router.memory.infos.alloc i).1
    have hvalue := s.router.memory.infos.value_alloc i
    refine ⟨hfree, ⟨_, by rw [hget, if_pos ⟨rfl, rfl⟩], by rw [hvalue]; exact if_pos rfl⟩, ?_⟩
    rintro b k j ⟨p, hg, hv⟩
    rw [hvalue] at hv
    split at hv
    · exact .inl (some.inj hv).symm
    · rename_i hne
      rw [hget] at hg
      split at hg
      · exact (hne (some.inj hg).symm).elim
      · exact .inr ⟨p, hg, hv⟩

lemma onQueryReturns_removal {o : Offer} {handled : Bool}
    (hinv : s.Removing (s.walks.map (·.toCancellation))) (h : s.RemovalFinal)
    (hwalks : s.walks = []) (hoffer : s.offer = some o)
    (hreg : if handled then s.router.browserQueryInfoMap.get? o.browser o.queryId = none →
        o.handler ∈ s.router.handlers
      else ∀ handler ∈ o.rest.head?, handler ∈ s.router.handlers)
    (hs : s.onQueryReturns o handled = some s') : s'.RemovalInv ∧ s'.RemovalFinal := by
  unfold onQueryReturns at hs
  split at hs
  · rename_i hhandled
    rw [if_pos hhandled] at hreg
    simp only [bind_eq_bind, bind_eq_some_iff] at hs
    obtain ⟨m, hadd, hs⟩ := hs
    cases hs
    obtain ⟨hfree, -, hpending⟩ := pending_accepted
      (s.router.memory.callbacks ++ [⟨true, o.browser, o.queryId, o.persistent⟩]) hadd
    have hnot := hinv.registered o.handler (hreg hfree)
    refine ⟨fun _ => ⟨hinv.registered, fun w hw => ?_, fun o ho => by simp at ho⟩, h.called,
      fun b k j hp => ?_⟩
    · rw [show _ = [] from hwalks] at hw
      exact (not_mem_nil hw).elim
    · rcases hpending b k j hp with rfl | hp
      · exact hnot
      · exact h.pending b k j hp
  · rename_i hhandled
    rw [if_neg hhandled] at hreg
    split at hs
    · rename_i handler rest hrest
      cases hs
      rw [hrest] at hreg
      refine ⟨fun _ => ⟨hinv.registered, hinv.cleared, fun o' ho' handler' hmem => ?_⟩,
        h.of_call (hinv.registered handler (hreg handler rfl)) rfl fun _ _ _ => id⟩
      cases ho'
      refine hinv.offered o hoffer handler' (mem_cons_of_mem _ ?_)
      rw [hrest]
      exact hmem
    · cases hs
      exact ⟨fun _ => ⟨hinv.registered, hinv.cleared, fun o ho => by simp at ho⟩, h.called, h.pending⟩

lemma asking_eq_some {o : Offer} (h : s.asking = some o) : s.walks = [] ∧ s.offer = some o := by
  unfold asking at h
  split at h
  · rename_i hempty
    exact ⟨isEmpty_iff.mp hempty, h⟩
  · simp at h

theorem step_removal {a : Action} (hinv : s.RemovalInv) (h : s.RemovalFinal) (hreg : s.Registered a)
    (hs : s.step a = some s') : s'.RemovalInv ∧ s'.RemovalFinal := by
  unfold step at hs
  split at hs
  · simp at hs
  · rename_i hbroken
    have hbroken' : s.broken = false := Bool.eq_false_iff.mpr hbroken
    have hinv := hinv hbroken'
    cases a with
    | enter entry =>
      dsimp only at hs
      split at hs
      · cases hs
        exact enter_removal hinv h entry
      · simp at hs
    | addHandler handler first =>
      cases hs
      exact addHandler_removal hinv h handler first
    | removeHandler handler =>
      cases hs
      exact removeHandler_removal hinv h handler
    | cancelPending browser handler =>
      cases hs
      exact cancelPendingFor_none_removal hinv h browser handler true
    | getPendingCount browser handler =>
      cases hs
      refine task_removal hinv h ?_
      rcases s.router.getPendingCount_snd browser handler with heq | ⟨-, heq⟩
      · rw [heq]
        exact ⟨rfl, fun _ _ _ => id, fun _ => rfl⟩
      · rw [heq]
        exact BrowserSideImpl.shrinks_memory _ fun _ => rfl
    | onQueryReturns handled =>
      obtain ⟨o, hasking, hs⟩ := bind_eq_some_iff.mp hs
      obtain ⟨hwalks, hoffer⟩ := asking_eq_some hasking
      exact onQueryReturns_removal hinv h hwalks hoffer (hreg hbroken' o hasking) hs
    | onQueryCanceledReturns =>
      dsimp only at hs
      split at hs
      · simp at hs
      · rename_i w rest hwalks
        cases hs
        exact onQueryCanceledReturns_removal hinv h hwalks

/-- **Going on with a handler that is not registered**: it has been removed, and the query message
calls it or records it.

**Proof sketch.** The handlers of the copy were registered when the query message came. No call that
removes a handler is in progress. -/
theorem step_breaks {a : Action} (hinv : s.RemovalInv) (hreg : ¬ s.Registered a) :
    ∃ s', s.step a = some s' ∧ ¬ s'.RemovalFinal := by
  cases a with
  | onQueryReturns handled =>
    simp only [Registered, not_forall] at hreg
    obtain ⟨hbroken, o, hasking, hreg⟩ := hreg
    obtain ⟨hwalks, hoffer⟩ := asking_eq_some hasking
    have hremoved : ∀ handler ∈ o.handler :: o.rest, handler ∉ s.router.handlers →
        WasRemoved handler s.history := by
      intro handler hmem hnot
      rcases (hinv hbroken).offered o hoffer handler hmem with hreg | hrem | ⟨c, hc, -⟩
      · exact (hnot hreg).elim
      · exact hrem
      · rw [hwalks] at hc
        exact (not_mem_nil hc).elim
    have hstep : s.step (.onQueryReturns handled) = s.onQueryReturns o handled := by
      simp only [step, hbroken, Bool.false_eq_true, if_false]
      rw [show s.asking = some o from hasking, bind_some]
    rw [hstep]
    cases handled with
    | true =>
      simp only [if_true, Classical.not_imp] at hreg
      obtain ⟨hfree, hnot⟩ := hreg
      obtain ⟨m, hadd⟩ : ∃ m, CefBrowserInfoMap.add s.router.browserQueryInfoMap o.browser o.queryId
          (s.router.memory.infos.alloc ⟨o.browser, o.frame, o.contextId, o.requestId, o.persistent,
            s.router.memory.callbacks.length, o.handler⟩).1 = some m := by
        simp [CefBrowserInfoMap.add, hfree]
      obtain ⟨-, hpending, -⟩ := pending_accepted
        (s.router.memory.callbacks ++ [⟨true, o.browser, o.queryId, o.persistent⟩]) hadd
      refine ⟨_, by simp only [onQueryReturns, if_true, hadd, bind_eq_bind, bind_some]; rfl,
        fun h => ?_⟩
      exact h.pending o.browser o.queryId _ hpending (hremoved o.handler mem_cons_self hnot)
    | false =>
      simp only [Bool.false_eq_true, if_false, not_forall] at hreg
      obtain ⟨handler, hhead, hnot⟩ := hreg
      obtain ⟨rest, hrest⟩ : ∃ rest, o.rest = handler :: rest := by
        cases hrest : o.rest with
        | nil =>
          rw [hrest] at hhead
          simp at hhead
        | cons head tail =>
          rw [hrest] at hhead
          exact ⟨tail, by rw [some.inj hhead]⟩
      refine ⟨_, by simp only [onQueryReturns, Bool.false_eq_true, if_false, hrest]; rfl, fun h => ?_⟩
      refine h.called handler s.history (suffix_refl _) (hremoved handler ?_ hnot)
      rw [hrest]
      exact mem_cons_of_mem _ mem_cons_self
  | enter | addHandler | removeHandler | cancelPending | getPendingCount | onQueryCanceledReturns =>
    exact (hreg True.intro).elim

end Steps

/-! ### Runs -/

lemma new_removal : new.RemovalInv ∧ new.RemovalFinal := by
  refine ⟨fun _ => ⟨fun handler hmem => ?_, fun w hw => ?_, fun o ho => ?_⟩,
    fun handler earlier hsuffix => ?_, fun b k i hp => ?_⟩
  · simp [new, BrowserSideImpl.new] at hmem
  · simp [new] at hw
  · simp [new] at ho
  · simp [new] at hsuffix
  · exact id

/-- **Removed handlers**: in a run, no handler is called after its removal and no query of it is in
the map, at any time, exactly if every time that `OnQuery` returns the query message goes on with a
registered handler: the one that has accepted the query, or the next one of the copy. -/
theorem removal_final_iff (acts : List Action) :
    Transition.Always step RemovalFinal new acts ↔ Transition.Along step Registered new acts :=
  Transition.Along.iff_always (fun _ _ _ hinv h hreg hs => step_removal hinv h hreg hs)
    (fun _ _ hinv _ hreg => step_breaks hinv hreg) acts new new_removal.1 new_removal.2

/-- A handler that removes the one behind it when it is asked, and does not take the query. -/
def removesNext : List Action :=
  [.addHandler 7 false, .addHandler 8 false, .enter (.queryMessage 1 ⟨1, true⟩ 1 1 false),
    .removeHandler 8, .onQueryReturns false, .onQueryReturns true]

/-- The removed handler is asked, and its query is recorded. -/
theorem removed_is_asked : ∃ s, removesNext.foldlM step new = some s ∧
    s.history = [.called 8, .removed 8, .called 7, .added 8, .added 7] ∧
    s.router.memory.infos.livePointers.map (fun p => (s.router.memory.infos.read p).map
      QueryInfo.handler) = [some 8] ∧ ¬ s.RemovalFinal := by
  have hrun : removesNext.foldlM step new = some ((removesNext.foldlM step new).getD new) :=
    (getD_of_ne_none (isSome_iff_ne_none.mp (by decide)) _).symm
  have hhistory : ((removesNext.foldlM step new).getD new).history =
      [.called 8, .removed 8, .called 7, .added 8, .added 7] := by decide
  refine ⟨_, hrun, hhistory, by decide, fun h => ?_⟩
  refine h.called 8 [.removed 8, .called 7, .added 8, .added 7] ?_ (.inl rfl)
  exact hhistory.symm ▸ suffix_refl _

end ReentrantRouter

end CefCore.MessageRouter
