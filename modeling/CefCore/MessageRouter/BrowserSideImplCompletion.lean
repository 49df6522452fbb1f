import CefCore.MessageRouter.BrowserSideImpl

/-!
# Completion and ownership of queries in the C++ browser-side router

A `QueryInfo` object is live exactly as long as its query is in the map, and the query is in the map
exactly as long as its callback has its router. Each way in which a query can be resolved takes it
out of the map, deletes the object and invalidates the callback.

## Main results

* `resolved_once`: a query is resolved once, and nothing is sent for it afterwards.
-/

namespace CefCore.MessageRouter

open Std List Option BrowserInfoMap EventLog CefBrowserInfoMap ObjectStore Nat

abbrev ResolvedOnce (log : List RouterEvent) : Prop :=
  EventLog.Final RouterEvent.Ends (fun q e => e.Touches q ∨ e.Ends q) log

section Log

variable {log : List RouterEvent} {q : Query}

lemma ResolvedOnce.resolve (honce : ResolvedOnce log) (hnot : ¬ Completed q log)
    (responses : List RouterEvent) (last : RouterEvent)
    (hresp : ∀ e ∈ responses, ∀ q', ¬ e.Ends q' ∧ (e.Touches q' → q' = q))
    (hlast : ∀ q', last.Touches q' ∨ last.Ends q' → q' = q) :
    ResolvedOnce (last :: (responses ++ log)) ∧
      ∀ q', Completed q' (last :: (responses ++ log)) → q' = q ∨ Completed q' log := by
  have hsame : ∀ q', Completed q' (responses ++ log) → Completed q' log := by
    rintro q' ⟨e, he, hq⟩
    rcases mem_append.mp he with he | he
    · exact ((hresp e he q').1 hq).elim
    · exact ⟨e, he, hq⟩
  have hresponses : ∀ l, (∀ e ∈ l, ∀ q', ¬ e.Ends q' ∧ (e.Touches q' → q' = q)) →
      (∀ q', Completed q' (l ++ log) → Completed q' log) → ResolvedOnce (l ++ log) := by
    intro l
    induction l with
    | nil => exact fun _ _ => honce
    | cons e l ih =>
      intro hl hc
      have hc' : ∀ q', Completed q' (l ++ log) → Completed q' log := fun q' hq =>
        hc q' (settled_cons.mpr (.inr hq))
      refine final_cons_iff.mpr ⟨fun q' hq hcq => ?_, ih (fun e' he' => hl e'
        (mem_cons_of_mem e he')) hc'⟩
      rcases hq with hq | hq
      · rw [(hl e mem_cons_self q').2 hq] at hcq
        exact hnot (hc' _ hcq)
      · exact (hl e mem_cons_self q').1 hq
  refine ⟨final_cons_iff.mpr ⟨fun q' hq hc => ?_, hresponses responses hresp hsame⟩, ?_⟩
  · rw [hlast q' hq] at hc
    exact hnot (hsame _ hc)
  · intro q' hc
    rcases settled_cons.mp hc with hq | hc
    · exact .inl (hlast q' (.inr hq))
    · exact .inr (hsame q' hc)

def cancelLog (queryId : Int) (i : QueryInfo) (notifyRenderer : Bool) (log : List RouterEvent) :
    List RouterEvent :=
  .onQueryCanceled (some i.callback) i.handler (some i.browser) (some i.frame) queryId ::
    ((if notifyRenderer then [.queryFailure (some i.callback) i.frame i.contextId i.requestId
      canceledErrorCode canceledErrorMessage] else []) ++ log)

lemma ResolvedOnce.cancel {i : QueryInfo} (honce : ResolvedOnce log)
    (hnot : ¬ Completed i.callback log) (k : Int) (notify : Bool) :
    ResolvedOnce (cancelLog k i notify log) ∧
      ∀ q, Completed q (cancelLog k i notify log) → q = i.callback ∨ Completed q log := by
  refine honce.resolve hnot _ _ ?_ ?_
  · intro e he q
    cases notify with
    | false => simp at he
    | true =>
      obtain rfl := mem_singleton.mp he
      exact ⟨id, fun hq => (some.inj hq).symm⟩
  · rintro q (hq | hq)
    · exact (some.inj hq).symm
    · exact (some.inj hq).symm

end Log

/-! ### The invariant -/

/-- The map, the live objects and the attached callbacks belong together, and what is live is
not resolved. -/
structure Owned (g : Int → Int → Option QueryInfoPtr) (mem : Memory) : Prop where
  store : mem.infos.Sound
  entry : ∀ b k p, g b k = some p → ∃ i, mem.infos.read p = some i ∧
    mem.callbacks[i.callback]? = some ⟨true, b, k, i.persistent⟩
  listed : ∀ p i, mem.infos.read p = some i → ∃ b k, g b k = some p
  attached : ∀ q c, mem.callbacks[q]? = some c → c.router = true →
    ∃ p i, g c.browserId c.queryId = some p ∧ mem.infos.read p = some i ∧ i.callback = q
  unresolved : ∀ p i, mem.infos.read p = some i → ¬ Completed i.callback mem.log
  known : ∀ q, Completed q mem.log → q < mem.callbacks.length
  once : ResolvedOnce mem.log
  ids : ∀ (q : Nat) c, mem.callbacks[q]? = some c →
    (mem.callbacks.length : Int) ≤ i64Max → c.queryId = q + 1

section Owned

variable {g : Int → Int → Option QueryInfoPtr} {mem : Memory} {b k : Int} {p : QueryInfoPtr}
  {i : QueryInfo}

section

variable (h : Owned g mem)
include h

lemma Owned.callback_of_entry (hg : g b k = some p) (hr : mem.infos.read p = some i) :
    mem.callbacks[i.callback]? = some ⟨true, b, k, i.persistent⟩ := by
  obtain ⟨i', hr', hc⟩ := h.entry b k p hg
  obtain rfl : i = i' := some.inj (hr.symm.trans hr')
  exact hc

lemma Owned.unique {b' k' : Int} {p' : QueryInfoPtr} {i' : QueryInfo}
    (hg : g b k = some p) (hr : mem.infos.read p = some i) (hg' : g b' k' = some p')
    (hr' : mem.infos.read p' = some i') (hq : i'.callback = i.callback) :
    b' = b ∧ k' = k ∧ p' = p := by
  have h₁ := h.callback_of_entry hg hr
  have h₂ := h.callback_of_entry hg' hr'
  rw [hq, h₁, some.injEq, CallbackImpl.mk.injEq] at h₂
  obtain ⟨-, rfl, rfl, -⟩ := h₂
  exact ⟨rfl, rfl, some.inj (hg'.symm.trans hg)⟩

lemma Owned.report {event : RouterEvent}
    (ht : ∀ q, event.Touches q → ¬ Completed q mem.log) (hends : ∀ q, ¬ event.Ends q) :
    Owned g (mem.report event) where
  store := h.store
  entry := h.entry
  listed := h.listed
  attached := h.attached
  unresolved p i hr hc := by
    rcases settled_cons.mp hc with hq | hc
    · exact hends _ hq
    · exact h.unresolved p i hr hc
  known q hc := by
    rcases settled_cons.mp hc with hq | hc
    · exact (hends q hq).elim
    · exact h.known q hc
  once := final_cons_iff.mpr
    ⟨fun q hq => hq.elim (ht q) fun hq => (hends q hq).elim, h.once⟩
  ids := h.ids

/-- **Resolving a query**: its entry goes, its object is deleted, its callback loses its router, and
the log notes it.

**Proof sketch.** Another entry has another object with another query, since the callback of a live
object carries the ids of its entry. -/
lemma Owned.resolve (hg : g b k = some p) (hr : mem.infos.read p = some i)
    {log : List RouterEvent} (honce : ResolvedOnce log)
    (hlog : ∀ q, Completed q log → q = i.callback ∨ Completed q mem.log) :
    Owned (Lookup.remove g b k) ⟨mem.infos.delete p, (mem.detach i.callback).callbacks, log⟩ := by
  have hread := read_delete hr
  have hother : ∀ {b' k' p' i'}, Lookup.remove g b k b' k' = some p' →
      mem.infos.read p' = some i' → p' ≠ p ∧ i'.callback ≠ i.callback := by
    intro b' k' p' i' hg' hr'
    obtain ⟨hne, hg'⟩ := Lookup.remove_eq_some.mp hg'
    have hq : i'.callback ≠ i.callback := fun hq =>
      hne ⟨(h.unique hg hr hg' hr' hq).1, (h.unique hg hr hg' hr' hq).2.1⟩
    refine ⟨?_, hq⟩
    rintro rfl
    exact hq (by rw [some.inj (hr'.symm.trans hr)])
  have hsurvive : ∀ {p' i'}, (mem.infos.delete p).read p' = some i' →
      p' ≠ p ∧ mem.infos.read p' = some i' := by
    intro p' i' hr'
    rw [hread] at hr'
    split at hr'
    · simp at hr'
    · rename_i hne
      exact ⟨hne, hr'⟩
  have hlisted : ∀ {p' i'}, (mem.infos.delete p).read p' = some i' →
      ∃ b' k', Lookup.remove g b k b' k' = some p' := by
    intro p' i' hr'
    obtain ⟨hne, hr'⟩ := hsurvive hr'
    obtain ⟨b', k', hg'⟩ := h.listed p' i' hr'
    refine ⟨b', k', Lookup.remove_eq_some.mpr ⟨?_, hg'⟩⟩
    rintro ⟨rfl, rfl⟩
    exact hne (some.inj (hg'.symm.trans hg))
  have hcallbacks : ∀ q, q ≠ i.callback →
      (mem.detach i.callback).callbacks[q]? = mem.callbacks[q]? := by
    intro q hq
    have hq' : i.callback ≠ q := fun h => hq h.symm
    simp [Memory.detach, hq']
  refine ⟨h.store.delete hr, ?_, fun p' i' hr' => hlisted hr', ?_, ?_, ?_, honce, ?_⟩
  · intro b' k' p' hg'
    obtain ⟨i', hr', hc'⟩ := h.entry b' k' p' (Lookup.remove_eq_some.mp hg').2
    obtain ⟨hp, hq⟩ := hother hg' hr'
    refine ⟨i', ?_, ?_⟩
    · rw [hread, if_neg hp]
      exact hr'
    · rw [hcallbacks _ hq]
      exact hc'
  · intro q c hc hrouter
    have hc : (mem.detach i.callback).callbacks[q]? = some c := hc
    have hq : q ≠ i.callback := by
      rintro rfl
      simp only [Memory.detach, getElem?_modify_eq, h.callback_of_entry hg hr] at hc
      cases hc
      exact Bool.noConfusion hrouter
    rw [hcallbacks q hq] at hc
    obtain ⟨p', i', hg', hr', hq'⟩ := h.attached q c hc hrouter
    have hp : p' ≠ p := by
      rintro rfl
      rw [some.inj (hr.symm.trans hr')] at hq
      exact hq hq'.symm
    refine ⟨p', i', Lookup.remove_eq_some.mpr ⟨?_, hg'⟩, ?_, hq'⟩
    · rintro ⟨hb, hk⟩
      rw [hb, hk, hg] at hg'
      exact hp (some.inj hg').symm
    · rw [hread, if_neg hp]
      exact hr'
  · intro p' i' hr' hc
    obtain ⟨b', k', hg'⟩ := hlisted hr'
    obtain ⟨-, hr'⟩ := hsurvive hr'
    rcases hlog _ hc with hq | hc
    · exact (hother hg' hr').2 hq
    · exact h.unresolved p' i' hr' hc
  · intro q hc
    have hlt : q < mem.callbacks.length := by
      rcases hlog q hc with rfl | hc
      · exact (List.getElem?_eq_some_iff.mp (h.callback_of_entry hg hr)).1
      · exact h.known q hc
    simpa [Memory.detach] using hlt
  · intro q c hc hlen
    simp only [Memory.detach, getElem?_modify, length_modify] at hc hlen
    obtain ⟨c', hc', rfl⟩ := map_eq_some_iff.mp hc
    have := h.ids q c' hc' hlen
    split <;> exact this

lemma Owned.resolve_log (hr : mem.infos.read p = some i)
    (responses : List RouterEvent) (last : RouterEvent)
    (hresp : ∀ e ∈ responses, ∀ q, ¬ e.Ends q ∧ (e.Touches q → q = i.callback))
    (hlast : ∀ q, last.Touches q ∨ last.Ends q → q = i.callback) :
    ResolvedOnce (last :: (responses ++ mem.log)) ∧
      ∀ q, Completed q (last :: (responses ++ mem.log)) → q = i.callback ∨ Completed q mem.log :=
  h.once.resolve (h.unresolved p i hr) responses last hresp hlast

lemma Owned.cancel (hg : g b k = some p) (hr : mem.infos.read p = some i) (notify : Bool) :
    Owned (Lookup.remove g b k) ((mem.cancelQuery k p notify).delete p) := by
  have heq : (mem.cancelQuery k p notify).delete p = ⟨mem.infos.delete p,
      (mem.detach i.callback).callbacks, cancelLog k i notify mem.log⟩ := by
    cases notify <;>
      simp [Memory.cancelQuery, Memory.withInfo, hr, Memory.delete, Memory.detach, Memory.report,
        Memory.sendQueryFailure, cancelLog]
  rw [heq]
  obtain ⟨honce, hlog⟩ := h.once.cancel (h.unresolved p i hr) k notify
  exact h.resolve hg hr honce hlog

end

end Owned

namespace BrowserSideImpl

/-! ### What each entry point keeps -/

/-- The invariant of a router state: ownership, and the id generator counts the callbacks as
long as it has not wrapped around. -/
structure Inv (s : BrowserSideImpl) : Prop where
  owned : Owned s.browserQueryInfoMap.get? s.memory
  generator : (s.memory.callbacks.length : Int) ≤ i64Max →
    s.queryIdGenerator = ⟨s.memory.callbacks.length, reservedId, i64Max⟩

variable {s : BrowserSideImpl}

lemma new_inv : new.Inv := by
  refine ⟨⟨sound_empty, ?_, ?_, ?_, ?_, ?_, final_nil, ?_⟩, fun _ => rfl⟩
  · intro b k p h
    simp [new] at h
  · intro p i h
    simp [new, ObjectStore.empty, ObjectStore.read] at h
  · intro q c h
    simp [new] at h
  · intro p i h
    simp [new, ObjectStore.empty, ObjectStore.read] at h
  · intro q h
    exact (settled_nil q h).elim
  · intro q c h
    simp [new] at h

def Walk (n : Nat) (g : Int → Int → Option QueryInfoPtr) (mem : Memory) : Prop :=
  Owned g mem ∧ mem.callbacks.length = n

lemma cancel_walk {n : Nat} {g : Int → Int → Option QueryInfoPtr} {mem : Memory} {b k : Int}
    {p : QueryInfoPtr} {i : QueryInfo} (h : Walk n g mem) (hg : g b k = some p)
    (hr : mem.infos.read p = some i) (notify : Bool) :
    Walk n (Lookup.remove g b k) ((mem.cancelQuery k p notify).delete p) := by
  refine ⟨h.1.cancel hg hr notify, ?_⟩
  rw [← h.2]
  cases notify <;>
    simp [Memory.cancelQuery, Memory.withInfo, hr, Memory.delete, Memory.detach, Memory.report,
      Memory.sendQueryFailure]

lemma cancelPendingVisitor_keeps (n : Nat) (handler : Option Handler) (notify : Bool)
    (g : Int → Int → Option QueryInfoPtr) (mem : Memory) (b k : Int) (p : QueryInfoPtr)
    (h : Walk n g mem) (hg : g b k = some p) :
    Walk n (if (cancelPendingVisitor handler notify b k p mem).1.result = .removeEntry
        then Lookup.remove g b k else g) (cancelPendingVisitor handler notify b k p mem).2 := by
  obtain ⟨i, hr, -⟩ := h.1.entry b k p hg
  by_cases hh : handler = none ∨ handler = some i.handler
  · have hv : cancelPendingVisitor handler notify b k p mem =
        (.cont .removeEntry, (mem.cancelQuery k p notify).delete p) := by
      simp [cancelPendingVisitor, hr, if_pos hh]
    simp only [hv, ControlFlow.result, if_true]
    exact cancel_walk h hg hr notify
  · have hv : cancelPendingVisitor handler notify b k p mem = (.cont .keepEntry, mem) := by
      simp [cancelPendingVisitor, hr, if_neg hh]
    simp only [hv, ControlFlow.result]
    exact h

lemma cancelRequestVisitor_keeps (n : Nat) (contextId requestId : Int)
    (g : Int → Int → Option QueryInfoPtr) (mem : Memory) (b k : Int) (p : QueryInfoPtr)
    (h : Walk n g mem) (hg : g b k = some p) :
    Walk n (if (cancelRequestVisitor contextId requestId b k p mem).1.result = .removeEntry
        then Lookup.remove g b k else g) (cancelRequestVisitor contextId requestId b k p mem).2 := by
  obtain ⟨i, hr, -⟩ := h.1.entry b k p hg
  by_cases hm : i.contextId = contextId ∧ (requestId = reservedId ∨ i.requestId = requestId)
  · have hv : cancelRequestVisitor contextId requestId b k p mem =
        (if requestId = reservedId then .cont .removeEntry else .brk .removeEntry,
          (mem.cancelQuery k p false).delete p) := by
      simp [cancelRequestVisitor, hr, if_pos hm]
    have hres : (if requestId = reservedId then ControlFlow.cont .removeEntry
        else .brk .removeEntry).result = .removeEntry := by
      split <;> rfl
    simp only [hv, hres, if_true]
    exact cancel_walk h hg hr false
  · have hv : cancelRequestVisitor contextId requestId b k p mem = (.cont .keepEntry, mem) := by
      simp [cancelRequestVisitor, hr, if_neg hm]
    simp only [hv, ControlFlow.result]
    exact h

lemma Inv.of_walk (h : s.Inv) {m : BrowserInfoMap Int QueryInfoPtr compare} {mem : Memory}
    (hw : Walk s.memory.callbacks.length m.get? mem) :
    Inv { s with browserQueryInfoMap := m, memory := mem } := by
  refine ⟨hw.1, fun hlen => ?_⟩
  simp only [hw.2] at hlen ⊢
  exact h.generator hlen

lemma cancelPendingFor_inv (h : s.Inv) (browser : Option Int) (handler : Option Handler)
    (notify : Bool) : (s.cancelPendingFor browser handler notify).Inv := by
  have hw : Walk s.memory.callbacks.length s.browserQueryInfoMap.get? s.memory := ⟨h.owned, rfl⟩
  unfold cancelPendingFor
  split
  · exact h
  · cases browser with
    | some b =>
      simp only [findAllIn_eq]
      exact h.of_walk (findBrowserAll_rule hw fun g mem k p =>
        cancelPendingVisitor_keeps _ handler notify g mem b k p)
    | none =>
      simp only [findAll_eq]
      exact h.of_walk (findAll_rule hw
        (cancelPendingVisitor_keeps _ handler notify))

lemma cancelPendingRequest_inv (h : s.Inv) (browserId contextId requestId : Int) :
    (s.cancelPendingRequest browserId contextId requestId).Inv := by
  have hw : Walk s.memory.callbacks.length s.browserQueryInfoMap.get? s.memory := ⟨h.owned, rfl⟩
  simp only [cancelPendingRequest, findAllIn_eq]
  exact h.of_walk (findBrowserAll_rule hw fun g mem k p =>
    cancelRequestVisitor_keeps _ contextId requestId g mem browserId k p)

lemma addHandler_inv (h : s.Inv) (handler : Handler) (first : Bool) :
    (s.addHandler handler first).2.Inv := by
  unfold addHandler
  split
  · exact h
  · exact ⟨h.owned, h.generator⟩

lemma removeHandler_inv (h : s.Inv) (handler : Handler) : (s.removeHandler handler).2.Inv := by
  unfold removeHandler
  split
  · have h' : Inv { s with handlers := s.handlers.erase handler } := ⟨h.owned, h.generator⟩
    exact cancelPendingFor_inv h' none (some handler) true
  · exact h

lemma offerQuery_log (answers : Nat → Bool) (queryId : Int) :
    ∀ (handlers : List Handler) (index : Nat) (log : List RouterEvent), ResolvedOnce log →
      ResolvedOnce (offerQuery answers queryId index handlers log).2 ∧
        ∀ q, Completed q (offerQuery answers queryId index handlers log).2 → Completed q log
  | [], _, log, h => ⟨h, fun _ => id⟩
  | handler :: rest, index, log, h => by
    have h' : ResolvedOnce (.onQuery handler queryId :: log) :=
      final_cons_iff.mpr ⟨fun q hq => hq.elim False.elim False.elim, h⟩
    have hc' : ∀ q, Completed q (.onQuery handler queryId :: log) → Completed q log := fun q hc =>
      (settled_cons.mp hc).resolve_left id
    unfold offerQuery
    split
    · exact ⟨h', hc'⟩
    · obtain ⟨honce, hcompl⟩ := offerQuery_log answers queryId rest (index + 1) _ h'
      exact ⟨honce, fun q hc => hc' q (hcompl q hc)⟩

lemma getNextId_of_inv (h : s.Inv) (hlen : (s.memory.callbacks.length : Int) < i64Max) :
    s.queryIdGenerator.getNextId = ((s.memory.callbacks.length : Int) + 1,
      ⟨(s.memory.callbacks.length : Int) + 1, reservedId, i64Max⟩) := by
  rw [h.generator (by omega)]
  simp only [IdGenerator.getNextId]
  rw [if_neg (by omega)]

lemma generator_next (h : s.Inv) (c : CallbackImpl)
    (hlen : ((s.memory.callbacks ++ [c]).length : Int) ≤ i64Max) :
    s.queryIdGenerator.getNextId.2 =
      ⟨(s.memory.callbacks ++ [c]).length, reservedId, i64Max⟩ := by
  simp only [length_append, length_cons, length_nil, zero_add] at hlen ⊢
  rw [getNextId_of_inv h (by omega)]
  simp

lemma ids_concat (h : s.Inv) (router : Bool) (b : Int) (persistent : Bool) (q : Nat)
    (c : CallbackImpl) (hc : (s.memory.callbacks ++
      [CallbackImpl.mk router b s.queryIdGenerator.getNextId.1 persistent])[q]? = some c)
    (hlen : ((s.memory.callbacks ++
      [CallbackImpl.mk router b s.queryIdGenerator.getNextId.1 persistent]).length : Int) ≤
        i64Max) :
    c.queryId = q + 1 := by
  simp only [length_append, length_cons, length_nil, zero_add] at hlen
  rcases getElem?_concat_eq_some.mp hc with hc | ⟨rfl, rfl⟩
  · exact h.owned.ids q c hc (by omega)
  · simp [getNextId_of_inv h (by omega)]

lemma Inv.unaccepted (h : s.Inv) (b : Int) (persistent : Bool) {log : List RouterEvent}
    (honce : ResolvedOnce log) (hlog : ∀ q, Completed q log → Completed q s.memory.log) :
    Inv { s with
      queryIdGenerator := s.queryIdGenerator.getNextId.2
      memory := ⟨s.memory.infos,
        s.memory.callbacks ++ [⟨false, b, s.queryIdGenerator.getNextId.1, persistent⟩], log⟩ } := by
  refine ⟨⟨h.owned.store, ?_, h.owned.listed, ?_, ?_, ?_, honce, ?_⟩, generator_next h _⟩
  · intro b' k p hg
    obtain ⟨i, hr, hc⟩ := h.owned.entry b' k p hg
    refine ⟨i, hr, ?_⟩
    rw [List.getElem?_append_left (List.getElem?_eq_some_iff.mp hc).1]
    exact hc
  · intro q c hc hrouter
    rcases getElem?_concat_eq_some.mp hc with hc | ⟨-, rfl⟩
    · exact h.owned.attached q c hc hrouter
    · exact Bool.noConfusion hrouter
  · exact fun p i hr hc => h.owned.unresolved p i hr (hlog _ hc)
  · intro q hc
    have := h.owned.known q (hlog q hc)
    simp only [length_append]
    exact Nat.lt_add_right _ this
  · exact ids_concat h false b persistent

/-- **An accepted query** gets an object, an entry and a callback of its own.

**Proof sketch.** The entry's ids were free, the new object and the new callback are the last
ones, and the log knows nothing of the new callback. -/
lemma Inv.accepted (h : s.Inv) (b : Int) (persistent : Bool) {i : QueryInfo}
    (hi : i.callback = s.memory.callbacks.length) (hp : i.persistent = persistent)
    (hfree : s.browserQueryInfoMap.get? b s.queryIdGenerator.getNextId.1 = none)
    {log : List RouterEvent} (honce : ResolvedOnce log)
    (hlog : ∀ q, Completed q log → Completed q s.memory.log) :
    Inv { s with
      queryIdGenerator := s.queryIdGenerator.getNextId.2
      browserQueryInfoMap := s.browserQueryInfoMap.insert b s.queryIdGenerator.getNextId.1
        s.memory.infos.cells.length
      memory := ⟨(s.memory.infos.alloc i).2,
        s.memory.callbacks ++ [⟨true, b, s.queryIdGenerator.getNextId.1, persistent⟩], log⟩ } := by
  have hget := fun b' k' => BrowserInfoMap.get?_insert s.browserQueryInfoMap b b'
    s.queryIdGenerator.getNextId.1 k' s.memory.infos.cells.length
  have hread := s.memory.infos.read_alloc i
  have hold : ∀ {p j}, s.memory.infos.read p = some j →
      (s.memory.infos.alloc i).2.read p = some j := by
    intro p j hr
    rw [hread, if_neg (Nat.ne_of_lt (lt_of_read hr))]
    exact hr
  refine ⟨⟨h.owned.store.alloc i, ?_, ?_, ?_, ?_, ?_, honce, ?_⟩, generator_next h _⟩
  · intro b' k p hg
    rw [hget] at hg
    split at hg
    · rename_i hbk
      obtain ⟨rfl, rfl⟩ := hbk
      cases hg
      refine ⟨i, by rw [hread, if_pos rfl], ?_⟩
      rw [hi, hp]
      simp
    · obtain ⟨j, hr, hc⟩ := h.owned.entry b' k p hg
      refine ⟨j, hold hr, ?_⟩
      rw [List.getElem?_append_left (List.getElem?_eq_some_iff.mp hc).1]
      exact hc
  · intro p j hr
    rw [hread] at hr
    split at hr
    · rename_i hpe
      exact ⟨b, _, by rw [hget, if_pos ⟨rfl, rfl⟩, hpe]⟩
    · obtain ⟨b', k, hg⟩ := h.owned.listed p j hr
      refine ⟨b', k, ?_⟩
      rw [hget, if_neg]
      · exact hg
      · rintro ⟨rfl, rfl⟩
        rw [hfree] at hg
        simp at hg
  · intro q c hc hrouter
    rcases getElem?_concat_eq_some.mp hc with hc | ⟨rfl, rfl⟩
    · obtain ⟨p, j, hg, hr, hq⟩ := h.owned.attached q c hc hrouter
      refine ⟨p, j, ?_, hold hr, hq⟩
      rw [hget, if_neg]
      · exact hg
      · rintro ⟨hb, hk⟩
        rw [hb, hk, hfree] at hg
        simp at hg
    · refine ⟨s.memory.infos.cells.length, i, ?_, by rw [hread, if_pos rfl], hi⟩
      rw [hget, if_pos ⟨rfl, rfl⟩]
  · intro p j hr hc
    rw [hread] at hr
    split at hr
    · cases hr
      have := h.owned.known _ (hlog _ hc)
      rw [hi] at this
      exact Nat.lt_irrefl _ this
    · exact h.owned.unresolved p j hr (hlog _ hc)
  · intro q hc
    have := h.owned.known q (hlog q hc)
    simp only [length_append]
    exact Nat.lt_add_right _ this
  · exact ids_concat h true b persistent

lemma detach_concat (mem : Memory) (c : CallbackImpl) :
    (Memory.detach ⟨mem.infos, mem.callbacks ++ [c], mem.log⟩ mem.callbacks.length).callbacks =
      mem.callbacks ++ [{ c with router := false }] := by
  refine ext_getElem? fun q => ?_
  simp only [Memory.detach, getElem?_modify, getElem?_append]
  rcases Nat.lt_trichotomy q mem.callbacks.length with hq | rfl | hq
  · simp [hq, Nat.ne_of_gt hq]
  · simp
  · have h₁ : ¬ q < mem.callbacks.length := Nat.not_lt.mpr (Nat.le_of_lt hq)
    have h₂ : q - mem.callbacks.length ≠ 0 := by omega
    simp [h₁, h₂]

lemma cancelUnhandledQuery_inv (h : s.Inv) (frame : Frame) (contextId requestId : Int) :
    Inv { s with memory := s.memory.cancelUnhandledQuery frame contextId requestId } := by
  refine ⟨h.owned.report (fun q hq => ?_) fun q => id, h.generator⟩
  simp [RouterEvent.Touches] at hq

lemma onQueryMessage_inv (h : s.Inv) {s' : BrowserSideImpl} (b : Int) (frame : Frame)
    (contextId requestId : Int) (persistent : Bool) (answers : Nat → Bool)
    (hs : s.onQueryMessage b frame contextId requestId persistent answers = some s') : s'.Inv := by
  unfold onQueryMessage at hs
  split at hs
  · cases hs
    exact cancelUnhandledQuery_inv h frame contextId requestId
  · obtain ⟨honce, hlog⟩ := offerQuery_log answers s.queryIdGenerator.getNextId.1 s.handlers 0
      s.memory.log h.owned.once
    dsimp only at hs
    split at hs
    · simp only [bind_eq_bind, bind_eq_some_iff, CefBrowserInfoMap.add] at hs
      obtain ⟨m, hadd, hs⟩ := hs
      split at hadd
      · simp at hadd
      · rename_i hfree
        cases hadd
        cases hs
        exact h.accepted b persistent rfl rfl hfree honce hlog
    · cases hs
      have hu := h.unaccepted b persistent honce hlog
      rw [← detach_concat s.memory ⟨true, b, s.queryIdGenerator.getNextId.1, persistent⟩] at hu
      exact cancelUnhandledQuery_inv hu frame contextId requestId

lemma onQueryMessage_isSome (h : s.Inv) (hlen : (s.memory.callbacks.length : Int) < i64Max)
    (b : Int) (frame : Frame) (contextId requestId : Int) (persistent : Bool)
    (answers : Nat → Bool) :
    (s.onQueryMessage b frame contextId requestId persistent answers).isSome := by
  have hfree : s.browserQueryInfoMap.get? b s.queryIdGenerator.getNextId.1 = none := by
    rw [eq_none_iff_forall_ne_some]
    intro p hg
    obtain ⟨i, -, hc⟩ := h.owned.entry _ _ _ hg
    have hid := h.owned.ids _ _ hc (by omega)
    have hlt := (List.getElem?_eq_some_iff.mp hc).1
    rw [getNextId_of_inv h hlen] at hid
    dsimp only at hid
    omega
  unfold onQueryMessage
  split
  · rfl
  · dsimp only
    split
    · simp [CefBrowserInfoMap.add, hfree]
    · rfl

lemma getQueryInfo_of_entry {b k : Int} {p : QueryInfoPtr} {i : QueryInfo}
    (hg : s.browserQueryInfoMap.get? b k = some p) (hr : s.memory.infos.read p = some i)
    (alwaysRemove : Bool) : ∃ m, s.getQueryInfo b k alwaysRemove =
        (some p, alwaysRemove || !i.persistent, { s with browserQueryInfoMap := m }) ∧
      m.get? = if alwaysRemove || !i.persistent then Lookup.remove s.browserQueryInfoMap.get? b k
        else s.browserQueryInfoMap.get? := by
  have hvisit : queryInfoVisitor alwaysRemove b k p (s.memory, false) =
      (.cont (if alwaysRemove || !i.persistent then .removeEntry else .keepEntry), s.memory,
        alwaysRemove || !i.persistent) := by
    cases alwaysRemove <;> cases hp : i.persistent <;> simp [queryInfoVisitor, hr, hp]
  have h₁ := find_fst s.browserQueryInfoMap b k
    (some (queryInfoVisitor alwaysRemove)) (s.memory, false)
  have h₂ := BrowserInfoMap.get?_find s.browserQueryInfoMap b k (queryInfoVisitor alwaysRemove)
    (s.memory, false)
  have h₃ := find_snd hg (queryInfoVisitor alwaysRemove) (s.memory, false)
  simp only [hg, hvisit] at h₂ h₃
  unfold getQueryInfo
  rw [find_eq]
  rcases hfind : s.browserQueryInfoMap.find b k (some (queryInfoVisitor alwaysRemove))
    (s.memory, false) with ⟨found, m, mem, removed⟩
  rw [hfind] at h₁ h₂ h₃
  simp only [Prod.mk.injEq] at h₃
  obtain ⟨rfl, rfl⟩ := h₃
  refine ⟨m, by rw [show found = some p from h₁.trans hg], h₂.trans ?_⟩
  cases alwaysRemove <;> cases hp : i.persistent <;> simp [ControlFlow.result]

lemma successImpl_inv (h : s.Inv) (q : Query) (builds : Bool) : (s.successImpl q builds).Inv := by
  unfold successImpl
  split
  · exact h
  · rename_i c hc
    split
    · rename_i hrouter
      obtain ⟨p, i, hg, hr, rfl⟩ := h.owned.attached q c hc hrouter
      have hcb := h.owned.callback_of_entry hg hr
      have hpers : c.persistent = i.persistent := by
        rw [hc] at hcb
        rw [some.inj hcb]
      obtain ⟨m, hget, hm⟩ := getQueryInfo_of_entry hg hr false
      have hsend : ∀ q, (RouterEvent.querySuccess (some i.callback) i.frame i.contextId
          i.requestId).Touches q → q = i.callback := fun q hq => (some.inj hq).symm
      simp only [onCallbackSuccess, hget, Memory.withInfo, hr]
      cases hp : i.persistent with
      | true =>
        rw [hp] at hpers
        simp only [hp, Bool.not_true, Bool.or_false, Bool.false_eq_true, if_false] at hm
        simp only [hpers, Bool.not_true, Bool.or_false, Bool.false_eq_true, if_false, if_true]
        have hsent : Owned m.get? (s.memory.sendQuerySuccess (some i.callback) i.frame
            i.contextId i.requestId builds) := by
          rw [hm]
          unfold Memory.sendQuerySuccess
          split
          · refine h.owned.report (fun q hq => ?_) fun q => id
            rw [hsend q hq]
            exact h.owned.unresolved p i hr
          · exact h.owned
        refine ⟨hsent.report (fun q hq => hq.elim) fun q hq => Bool.noConfusion hq.2, ?_⟩
        intro hlen
        have hsame : (s.memory.sendQuerySuccess (some i.callback) i.frame i.contextId i.requestId
            builds).callbacks = s.memory.callbacks := by
          unfold Memory.sendQuerySuccess
          split <;> rfl
        simp only [Memory.report, hsame] at hlen ⊢
        exact h.generator hlen
      | false =>
        rw [hp] at hpers
        simp only [hp, Bool.not_false, Bool.or_true, if_true] at hm
        simp only [hpers, Bool.not_false, Bool.or_true, if_true, Bool.false_eq_true, if_false]
        obtain ⟨honce, hlog⟩ := h.owned.resolve_log hr
          (if builds then [.querySuccess (some i.callback) i.frame i.contextId
            i.requestId] else [])
          (.successRan i.callback false)
          (by
            intro e he q
            cases builds with
            | false => simp at he
            | true =>
              obtain rfl := mem_singleton.mp he
              exact ⟨id, hsend q⟩)
          (by
            rintro q (hq | hq)
            · exact hq.elim
            · exact hq.1.symm)
        have hres := h.owned.resolve hg hr honce hlog
        rw [← hm] at hres
        have heq : (((s.memory.sendQuerySuccess (some i.callback) i.frame i.contextId i.requestId
            builds).delete p).detach i.callback).report (.successRan i.callback false) =
            ⟨s.memory.infos.delete p, (s.memory.detach i.callback).callbacks,
              .successRan i.callback false :: ((if builds then [.querySuccess (some i.callback)
                i.frame i.contextId i.requestId] else []) ++ s.memory.log)⟩ := by
          cases builds <;> rfl
        rw [heq]
        refine ⟨hres, fun hlen => ?_⟩
        simp only [Memory.detach, length_modify] at hlen ⊢
        exact h.generator hlen
    · exact h

lemma failureImpl_inv (h : s.Inv) (q : Query) (errorCode : Int) (errorMessage : String) :
    (s.failureImpl q errorCode errorMessage).Inv := by
  unfold failureImpl
  split
  · exact h
  · rename_i c hc
    split
    · rename_i hrouter
      obtain ⟨p, i, hg, hr, rfl⟩ := h.owned.attached q c hc hrouter
      obtain ⟨m, hget, hm⟩ := getQueryInfo_of_entry hg hr true
      simp only [Bool.true_or, if_true] at hm
      obtain ⟨honce, hlog⟩ := h.owned.resolve_log hr
        ([.queryFailure (some i.callback) i.frame i.contextId i.requestId errorCode
          errorMessage])
        (.failureRan i.callback)
        (by
          intro e he q
          obtain rfl := mem_singleton.mp he
          exact ⟨id, fun hq => (some.inj hq).symm⟩)
        (by
          rintro q (hq | hq)
          · exact hq.elim
          · exact hq.symm)
      have hres := h.owned.resolve hg hr honce hlog
      rw [← hm] at hres
      simp only [onCallbackFailure, hget, Memory.withInfo, hr]
      refine ⟨hres, fun hlen => ?_⟩
      simp only [Memory.report, Memory.detach, Memory.delete, Memory.sendQueryFailure,
        length_modify] at hlen ⊢
      exact h.generator hlen
    · exact h

/-! ### Runs -/

theorem step_inv {s' : BrowserSideImpl} {a : Action} (h : s.Inv) (hs : s.step a = some s') :
    s'.Inv := by
  cases a with
  | addHandler handler first =>
    cases hs
    exact addHandler_inv h handler first
  | removeHandler handler =>
    cases hs
    exact removeHandler_inv h handler
  | cancelPending browser handler =>
    cases hs
    exact cancelPendingFor_inv h browser handler true
  | onBeforeClose browser =>
    cases hs
    exact cancelPendingFor_inv h browser none false
  | onRenderProcessTerminated browser =>
    cases hs
    exact cancelPendingFor_inv h browser none false
  | onBeforeBrowse browser frame =>
    cases hs
    unfold onBeforeBrowse
    split
    · exact cancelPendingFor_inv h browser none false
    · exact h
  | queryMessage b frame contextId requestId persistent answers =>
    exact onQueryMessage_inv h b frame contextId requestId persistent answers hs
  | cancelMessage b contextId requestId =>
    cases hs
    exact cancelPendingRequest_inv h b contextId requestId
  | successTask q builds =>
    cases hs
    exact successImpl_inv h q builds
  | failureTask q errorCode errorMessage =>
    cases hs
    exact failureImpl_inv h q errorCode errorMessage

/-- Every query is resolved at most once, and nothing is sent or reported for it afterwards; the
`QueryInfo` of a resolved query is not in the map and has been deleted exactly once, the one of
an unresolved query has not; there are as many live objects as entries in the map, and no object
has been used after its deletion. -/
structure CompletionDiscipline (s : BrowserSideImpl) : Prop where
  once : ∀ q, (s.memory.log.filter (·.Ends q)).length ≤ 1
  final : CompletedOnce s.memory.log
  resolved : ∀ p cell, s.memory.infos.cells[p]? = some cell →
    Completed cell.value.callback s.memory.log →
    (∀ b k, s.browserQueryInfoMap.get? b k ≠ some p) ∧ s.memory.infos.deletes.count p = 1
  live : s.memory.infos.livePointers.length = CefBrowserInfoMap.size s.browserQueryInfoMap
  safe : s.memory.infos.fault = false

/-- The live objects are the ones in the map, each under one pair of ids.

**Proof sketch.** The pointers in the map, listed entry by entry, have no repetition, since an
object determines its ids; they are the pointers to live objects. -/
lemma Inv.length_livePointers (h : s.Inv) :
    s.memory.infos.livePointers.length = CefBrowserInfoMap.size s.browserQueryInfoMap := by
  have hlen : CefBrowserInfoMap.size s.browserQueryInfoMap =
      (s.browserQueryInfoMap.entries.map fun e => e.2.2).length := by
    rw [size_eq, length_map]
  rw [hlen]
  refine ObjectStore.length_livePointers ?_ fun p => ?_
  · refine (nodup_entries s.browserQueryInfoMap).map_on ?_
    rintro ⟨b, k, p⟩ he ⟨b', k', p'⟩ he' heq
    obtain rfl : p = p' := heq
    have hg := mem_entries.mp he
    have hg' := mem_entries.mp he'
    obtain ⟨i, hr, -⟩ := h.owned.entry b k p hg
    obtain ⟨rfl, rfl, -⟩ := h.owned.unique hg hr hg' hr rfl
    rfl
  · constructor
    · intro hp
      obtain ⟨⟨b, k, p'⟩, he, rfl⟩ := mem_map.mp hp
      obtain ⟨i, hr, -⟩ := h.owned.entry b k p' (mem_entries.mp he)
      exact ⟨i, hr⟩
    · rintro ⟨i, hr⟩
      obtain ⟨b, k, hg⟩ := h.owned.listed p i hr
      exact mem_map.mpr ⟨(b, k, p), mem_entries.mpr hg, rfl⟩

lemma Inv.completionDiscipline (h : s.Inv) : s.CompletionDiscipline where
  once q := by
    refine h.owned.once.length_filter_le_one (i := q) fun e _ he => ?_
    have he : e.Ends q := of_decide_eq_true he
    exact ⟨he, .inr he⟩
  final := h.owned.once.imp fun hfin q hq ht => hfin q hq (.inl ht)
  resolved p cell hcell hc := by
    have hdead : cell.live = false := by
      by_contra hlive
      have hr : s.memory.infos.read p = some cell.value := by
        rw [read_eq_some, hcell]
        rw [Bool.not_eq_false] at hlive
        rw [← hlive]
      exact h.owned.unresolved p cell.value hr hc
    refine ⟨fun b k hg => ?_, ?_⟩
    · obtain ⟨i, hr, -⟩ := h.owned.entry b k p hg
      rw [read_eq_some, hcell] at hr
      rw [some.inj hr] at hdead
      exact Bool.noConfusion hdead
    · rw [h.owned.store.count_deletes hcell, hdead]
      rfl
  live := h.length_livePointers
  safe := h.owned.store.no_fault

/-- **Completion discipline of the C++ router**: it holds in every state of every run, and the
run goes on from there as long as the query ids have not wrapped around. -/
theorem resolved_once {acts : List Action} (h : acts.foldlM step new = some s) :
    s.CompletionDiscipline ∧
      ((s.memory.callbacks.length : Int) < i64Max → ∀ a, (s.step a).isSome) := by
  have hinv : s.Inv := Transition.run_invariant (fun _ _ _ => step_inv) new_inv h
  refine ⟨hinv.completionDiscipline, fun hlen a => ?_⟩
  cases a with
  | queryMessage b frame contextId requestId persistent answers =>
    exact onQueryMessage_isSome hinv hlen b frame contextId requestId persistent answers
  | _ => rfl

/-- A query that is not persistent and is answered, a persistent one that is answered and then
failed, and one that is canceled with its handler. -/
def threeQueries : List Action :=
  [.addHandler 7 false, .queryMessage 1 ⟨1, true⟩ 1 1 false (fun _ => true),
    .queryMessage 1 ⟨1, true⟩ 1 2 true (fun _ => true),
    .queryMessage 2 ⟨2, true⟩ 1 3 true (fun _ => true), .successTask 0 true,
    .successTask 1 true, .failureTask 1 5 "no", .failureTask 0 5 "late", .removeHandler 7]

/-- All three are resolved, and their objects are deleted in the order of the resolutions. -/
theorem resolved_once_threeQueries : ∃ s, threeQueries.foldlM step new = some s ∧
    (∀ q < 3, Completed q s.memory.log) ∧ s.memory.infos.deletes = [2, 1, 0] ∧
    s.CompletionDiscipline ∧ ∀ a, (s.step a).isSome := by
  have hrun : threeQueries.foldlM step new = some ((threeQueries.foldlM step new).getD new) :=
    (getD_of_ne_none (isSome_iff_ne_none.mp (by decide)) _).symm
  have h := resolved_once hrun
  exact ⟨_, hrun, by decide, by decide, h.1, h.2 (by decide)⟩

end BrowserSideImpl

end CefCore.MessageRouter
