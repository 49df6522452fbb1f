import CefCore.Foundations.NumberedSlots
import CefCore.MessageRouter.BrowserSide

/-!
# The handler registry of the Rust router

`HandlersDeque` keeps the query handlers in slots. A removal empties a slot and then trims the
empty slots at both ends, an insertion in front shifts all slots, and `offset` makes up for both,
so that a handler is found in the slot with index `id + offset`. To its callers the deque is a list
of handlers with the ids that `add_handler` has returned: a handler added first comes before the
others, a handler added last behind them, a removed one goes, and nothing else happens to any of
them. This list is the `Registry` below, kept beside the router from the calls and the returned
values alone.

## Main results

* `handler_id_discipline`: the deque has the registry's handlers.
-/

namespace CefCore.MessageRouter

open Std List Option HandlersDeque Slots

/-! ### The abstract registry -/

/-- Handlers with the ids that were returned for them, in the order of the registry. -/
abbrev Registry := List (Int × Handler)

/-- The registry after a step, from what `add_handler` has returned. -/
def Registry.after (r : Registry) (returned : Option Int) : BrowserSideRouter.Action → Registry
  | .addHandler handler first =>
    match returned with
    | some handlerId => if first then (handlerId, handler) :: r else r ++ [(handlerId, handler)]
    | none => r
  | .removeHandler handlerId => r.filter fun e => e.1 ≠ handlerId
  | _ => r

/-- The handlers that a query is offered to: all up to the first that accepts. -/
def Registry.asked (accepts : Int × Handler → Bool) : Registry → List Handler
  | [] => []
  | e :: r => e.2 :: if accepts e then [] else Registry.asked accepts r

/-! ### What a deque stands for -/

namespace HandlersDeque

def registered (d : HandlersDeque) : Registry := Slots.numbered (-d.offset) d.handlers

variable {d : HandlersDeque} {handlerId : Int} {h : Handler}

lemma mem_registered : (handlerId, h) ∈ d.registered ↔ 0 ≤ handlerId + d.offset ∧
    d.handlers[(handlerId + d.offset).toNat]? = some (some h) := by
  rw [registered, mem_numbered]
  constructor
  · rintro ⟨n, rfl, hn⟩
    have hidx : -d.offset + n + d.offset = n := by omega
    rw [hidx]
    exact ⟨Int.natCast_nonneg n, hn⟩
  · rintro ⟨hnonneg, hn⟩
    exact ⟨_, by omega, hn⟩

lemma index_eq_some {n : Nat} :
    d.index handlerId = some n ↔ 0 ≤ handlerId + d.offset ∧ n = (handlerId + d.offset).toNat := by
  unfold index
  split
  · rename_i hneg
    simp [Int.not_le.mpr hneg]
  · rename_i hneg
    simp [Int.not_lt.mp hneg, eq_comm]

lemma lookup_eq_some {e : Int × Handler} :
    d.lookup handlerId = some e ↔ e.1 = handlerId ∧ e ∈ d.registered := by
  obtain ⟨i, h⟩ := e
  simp only [lookup, bind_eq_some_iff, index_eq_some, map_eq_some_iff,
    join_eq_some_iff, Prod.mk.injEq]
  constructor
  · rintro ⟨n, ⟨hnonneg, rfl⟩, h', hn, rfl, rfl⟩
    exact ⟨rfl, mem_registered.mpr ⟨hnonneg, hn⟩⟩
  · rintro ⟨rfl, hmem⟩
    obtain ⟨hnonneg, hn⟩ := mem_registered.mp hmem
    exact ⟨_, ⟨hnonneg, rfl⟩, h, hn, rfl, rfl⟩

lemma nodup_registered (d : HandlersDeque) : (d.registered.map Prod.fst).Nodup :=
  nodup_numbered _ _

/-- A deque is tight, and its indices are `i32` values. -/
structure Wf (d : HandlersDeque) : Prop where
  tight : Slots.Tight d.handlers
  short : (d.handlers.length : Int) ≤ i32Max + 1

end HandlersDeque

namespace BrowserSideRouter

variable {s : BrowserSideRouter}

/-! ### The operations of the registry -/

lemma registered_addHandler_first (s : BrowserSideRouter) (handler : Handler) :
    (s.addHandler handler true).2.handlers.registered =
      (-(s.handlers.offset + 1), handler) :: s.handlers.registered := by
  simp only [addHandler, if_true, HandlersDeque.registered, numbered_some]
  congr 2
  omega

lemma registered_addHandler_last (s : BrowserSideRouter) (handler : Handler)
    (hlen : (s.handlers.handlers.length : Int) ≤ i32Max) :
    (s.addHandler handler false).2.handlers.registered =
      s.handlers.registered ++ [(s.handlers.handlers.length - s.handlers.offset, handler)] := by
  simp only [addHandler, Bool.false_eq_true, if_false, if_pos hlen, HandlersDeque.registered,
    numbered_concat]
  congr 3
  omega

lemma registered_trim (d : HandlersDeque) : (trim d).registered = d.registered := by
  have hstart : -(trim d).offset =
      -d.offset + (d.handlers.takeWhile (·.isNone)).length := by
    simp only [trim]
    omega
  have hslots : (trim d).handlers = Slots.trimBack (Slots.trimFront d.handlers) := by
    rw [← drop_length_takeWhile]
    rfl
  rw [HandlersDeque.registered, hstart, hslots, numbered_trimBack,
    numbered_trimFront, HandlersDeque.registered]

lemma tight_trim (d : HandlersDeque) : Slots.Tight (trim d).handlers := by
  have hslots : (trim d).handlers = Slots.trimBack (Slots.trimFront d.handlers) := by
    rw [← drop_length_takeWhile]
    rfl
  rw [hslots]
  exact Slots.tight_trim d.handlers

lemma length_trim_le (d : HandlersDeque) : (trim d).handlers.length ≤ d.handlers.length := by
  simp only [trim, length_reverse]
  refine (dropWhile_sublist _).length_le.trans ?_
  rw [length_reverse, length_drop]
  exact Nat.sub_le _ _

@[simp] lemma cancelPendingFor_handlers (s : BrowserSideRouter) (browser handlerId : Option Int)
    (notify : Bool) : (s.cancelPendingFor browser handlerId notify).handlers = s.handlers := by
  unfold cancelPendingFor
  split <;> rfl

lemma removeHandler_handlers (s : BrowserSideRouter) (handlerId : Int) :
    (s.removeHandler handlerId).2.handlers =
      match s.handlers.index handlerId with
      | none => s.handlers
      | some index => if index < s.handlers.handlers.length then
          trim { s.handlers with handlers := s.handlers.handlers.set index none }
        else s.handlers := by
  unfold removeHandler
  cases s.handlers.index handlerId with
  | none => rfl
  | some index =>
    cases hn : s.handlers.handlers[index]? with
    | none => simp [Nat.not_lt.mpr (getElem?_eq_none_iff.mp hn)]
    | some entry =>
      have hlt := (List.getElem?_eq_some_iff.mp hn).1
      dsimp only
      rw [hn, if_pos hlt]
      cases entry with
      | none => rfl
      | some h => exact cancelPendingFor_handlers _ none (some handlerId) true

lemma registered_removeHandler (s : BrowserSideRouter) (handlerId : Int) :
    (s.removeHandler handlerId).2.handlers.registered =
      s.handlers.registered.filter fun e => e.1 ≠ handlerId := by
  have habsent : (∀ h, (handlerId, h) ∉ s.handlers.registered) → s.handlers.registered =
      s.handlers.registered.filter fun e => e.1 ≠ handlerId := by
    intro hno
    refine (filter_eq_self.mpr fun e he => ?_).symm
    simp only [ne_eq, decide_eq_true_eq]
    rintro rfl
    exact hno e.2 he
  rw [removeHandler_handlers]
  cases hidx : s.handlers.index handlerId with
  | none =>
    refine habsent fun h hmem => ?_
    have := index_eq_some.mpr ⟨(mem_registered.mp hmem).1, rfl⟩
    rw [hidx] at this
    exact nomatch this
  | some index =>
    obtain ⟨hnonneg, rfl⟩ := index_eq_some.mp hidx
    dsimp only
    split
    · rw [registered_trim, HandlersDeque.registered, numbered_set_none]
      have hnum : -s.handlers.offset + ((handlerId + s.handlers.offset).toNat : Int) =
          handlerId := by omega
      rw [hnum, HandlersDeque.registered]
    · rename_i hlt
      refine habsent fun h hmem => hlt ?_
      exact (List.getElem?_eq_some_iff.mp (mem_registered.mp hmem).2).1

lemma removeHandler_fst {handlerId : Int} :
    (s.removeHandler handlerId).1 = true ↔ ∃ h, (handlerId, h) ∈ s.handlers.registered := by
  simp only [mem_registered]
  unfold removeHandler
  cases hidx : s.handlers.index handlerId with
  | none =>
    have hneg : handlerId + s.handlers.offset < 0 := by
      by_contra hneg
      have := index_eq_some.mpr ⟨Int.not_lt.mp hneg, rfl⟩
      rw [hidx] at this
      exact nomatch this
    simp [Int.not_le.mpr hneg]
  | some index =>
    obtain ⟨hnonneg, rfl⟩ := index_eq_some.mp hidx
    cases hn : s.handlers.handlers[(handlerId + s.handlers.offset).toNat]? with
    | none => simp [hn]
    | some entry => cases entry <;> simp [hn, hnonneg]

/-! ### The other entry points -/

section

variable (s : BrowserSideRouter)

@[simp] lemma getQueryInfo_handlers (b k : Int) (alwaysRemove : Bool) :
    (s.getQueryInfo b k alwaysRemove).2.handlers = s.handlers := rfl

@[simp] lemma onCallbackSuccess_handlers (b k : Int) (builds : Bool) :
    (s.onCallbackSuccess b k builds).handlers = s.handlers := by
  have h := s.getQueryInfo_handlers b k false
  unfold onCallbackSuccess
  split <;> simp_all

@[simp] lemma onCallbackFailure_handlers (b k errorCode : Int) (errorMessage : String) :
    (s.onCallbackFailure b k errorCode errorMessage).handlers = s.handlers := by
  have h := s.getQueryInfo_handlers b k false
  unfold onCallbackFailure
  split <;> simp_all

lemma executeSuccess_handlers (q : Query) (held builds : Bool) :
    (s.executeSuccess q held builds).handlers = s.handlers := by
  unfold executeSuccess
  split
  · rfl
  · split
    · split <;> split <;> simp
    · rfl

lemma executeFailure_handlers (q : Query) (held : Bool) (errorCode : Int) (errorMessage : String) :
    (s.executeFailure q held errorCode errorMessage).handlers = s.handlers := by
  unfold executeFailure
  split
  · rfl
  · split
    · split <;> simp
    · rfl

lemma onQueryMessage_handlers (browser : Option Int)
    (frame : Option Frame) (contextId requestId : Int) (isPersistent : Bool)
    (answers : Nat → Bool) :
    (s.onQueryMessage browser frame contextId requestId isPersistent answers).handlers =
      s.handlers := by
  unfold onQueryMessage
  split
  · dsimp only
    split <;> rfl
  · rfl

end

/-- The action is a call of `add_handler` or `remove_handler`. -/
def Action.Registers : Action → Prop
  | .addHandler .. => True
  | .removeHandler .. => True
  | _ => False

lemma step_handlers (s : BrowserSideRouter) {a : Action} (ha : ¬ a.Registers) :
    (s.step a).handlers = s.handlers := by
  cases a with
  | addHandler handler first => exact (ha True.intro).elim
  | removeHandler handlerId => exact (ha True.intro).elim
  | successTask q held builds =>
    simp only [step]
    split
    · rfl
    · exact s.executeSuccess_handlers q held builds
  | failureTask q held errorCode errorMessage =>
    simp only [step]
    split
    · rfl
    · exact s.executeFailure_handlers q held errorCode errorMessage
  | queryMessage browser frame contextId requestId isPersistent answers =>
    exact s.onQueryMessage_handlers ..
  | cancelPending browser handlerId => exact s.cancelPendingFor_handlers ..
  | cancelPendingForTask browser handlerId notify => exact s.cancelPendingFor_handlers ..
  | onBeforeClose browser => exact s.cancelPendingFor_handlers ..
  | onRenderProcessTerminated browser => exact s.cancelPendingFor_handlers ..
  | onBeforeBrowse browser frame =>
    simp only [step, onBeforeBrowse]
    split
    · exact s.cancelPendingFor_handlers ..
    · rfl
  | cancelMessage browser contextId requestId =>
    simp only [step, onCancelMessage]
    split <;> rfl

/-- What `add_handler` returns, if the step is such a call. -/
def returned (s : BrowserSideRouter) : Action → Option Int
  | .addHandler handler first => (s.addHandler handler first).1
  | _ => none

theorem registered_step (s : BrowserSideRouter) (a : Action) :
    (s.step a).handlers.registered = s.handlers.registered.after (s.returned a) a := by
  cases a with
  | addHandler handler first =>
    cases first with
    | true => exact s.registered_addHandler_first handler
    | false =>
      by_cases hlen : (s.handlers.handlers.length : Int) ≤ i32Max
      · refine (s.registered_addHandler_last handler hlen).trans ?_
        simp [Registry.after, returned, addHandler, hlen]
      · simp [Registry.after, returned, step, addHandler, hlen]
  | removeHandler handlerId => exact s.registered_removeHandler handlerId
  | _ =>
    rw [s.step_handlers id]
    rfl

/-! ### Overflow -/

/-- The value is an `i32`. -/
def FitsI32 (x : Int) : Prop := -i32Max - 1 ≤ x ∧ x ≤ i32Max

instance (x : Int) : Decidable (FitsI32 x) := inferInstanceAs (Decidable (_ ∧ _))

/-- The sums of a step are `i32` values, and so are the indices of the slots. -/
def NoOverflow (s : BrowserSideRouter) : Action → Prop
  | .addHandler _ first =>
    (s.handlers.handlers.length : Int) ≤ i32Max ∧
      if first then FitsI32 (s.handlers.offset + 1) ∧ FitsI32 (-(s.handlers.offset + 1))
      else FitsI32 (s.handlers.handlers.length - s.handlers.offset)
  | .removeHandler handlerId =>
    FitsI32 (handlerId + s.handlers.offset) ∧
      FitsI32 (s.removeHandler handlerId).2.handlers.offset
  | .cancelPending _ (some handlerId) => FitsI32 (handlerId + s.handlers.offset)
  | _ => True

instance (s : BrowserSideRouter) (a : Action) : Decidable (s.NoOverflow a) := by
  unfold NoOverflow
  split <;> infer_instance

lemma wf_step (h : s.handlers.Wf) {a : Action} (ha : s.NoOverflow a) : (s.step a).handlers.Wf := by
  cases a with
  | addHandler handler first =>
    obtain ⟨hlen, -⟩ := ha
    cases first with
    | true =>
      refine ⟨h.tight.cons handler, ?_⟩
      simp only [step, addHandler, if_true, length_cons]
      omega
    | false =>
      simp only [step, addHandler, Bool.false_eq_true, if_false, if_pos hlen]
      refine ⟨h.tight.concat handler, ?_⟩
      simp only [length_append, length_cons, length_nil]
      omega
  | removeHandler handlerId =>
    simp only [step, removeHandler_handlers]
    split
    · exact h
    · rename_i index _
      split
      · have hlen := length_trim_le ⟨s.handlers.offset, s.handlers.handlers.set index none⟩
        rw [length_set] at hlen
        exact ⟨tight_trim _, Int.le_trans (Int.ofNat_le.mpr hlen) h.short⟩
      · exact h
  | _ =>
    rw [s.step_handlers id]
    exact h

/-! ### Offering a query -/

/-- The handlers among the events of a log that a query has been offered to, oldest first. -/
def offered (log : List RouterEvent) : List Handler :=
  log.reverse.filterMap fun
    | .onQuery handler _ => some handler
    | _ => none

@[simp] lemma offered_cons_onQuery (handler : Handler) (queryId : Int) (log : List RouterEvent) :
    offered (.onQuery handler queryId :: log) = offered log ++ [handler] := by
  simp [offered]

/-- **The handlers are asked in the order of the registry**, and the first that accepts is
returned with its id.

**Proof sketch.** Induction on the slots. The first of them has the number `index - offset`, and
is an `i32` index, so that an occupied one is asked. -/
lemma offerQuery_eq (answers : Nat → Bool) (offset queryId : Int)
    (slots : List (Option Handler)) : ∀ (index : Nat) (log : List RouterEvent),
      (index + slots.length : Int) ≤ i32Max + 1 →
      (offerQuery answers offset queryId index slots log).1 =
          (Slots.numbered (index - offset) slots).find? (fun e => answers (e.1 + offset).toNat) ∧
        offered (offerQuery answers offset queryId index slots log).2 = offered log ++
          Registry.asked (fun e => answers (e.1 + offset).toNat)
            (Slots.numbered (index - offset) slots) := by
  induction slots with
  | nil => simp [offerQuery, Registry.asked]
  | cons slot slots ih =>
    intro index log hlen
    have hnext : ((index : Int) - offset + 1) = ((index + 1 : Nat) : Int) - offset := by omega
    have hself : ((index : Int) - offset + offset).toNat = index := by omega
    rw [length_cons] at hlen
    have hindex : (index : Int) ≤ i32Max := by omega
    have hlen' : ((index + 1 : Nat) + slots.length : Int) ≤ i32Max + 1 := by omega
    cases slot with
    | none =>
      simp only [offerQuery, numbered_none, hnext]
      exact ih (index + 1) log hlen'
    | some handler =>
      obtain ⟨hfirst, hasked⟩ := ih (index + 1) (.onQuery handler queryId :: log) hlen'
      simp only [offerQuery, if_pos hindex, numbered_some, hnext, find?_cons, Registry.asked, hself]
      cases hans : answers index with
      | true => simp
      | false =>
        simp only [Bool.false_eq_true, if_false]
        refine ⟨hfirst, ?_⟩
        rw [hasked, offered_cons_onQuery, append_assoc]
        rfl

lemma offerQuery_registered (h : s.handlers.Wf) (answers : Nat → Bool) (queryId : Int)
    (log : List RouterEvent) :
    (offerQuery answers s.handlers.offset queryId 0 s.handlers.handlers log).1 =
        s.handlers.registered.find? (fun e => answers (e.1 + s.handlers.offset).toNat) ∧
      offered (offerQuery answers s.handlers.offset queryId 0 s.handlers.handlers log).2 =
        offered log ++
          s.handlers.registered.asked fun e => answers (e.1 + s.handlers.offset).toNat := by
  have hshort := h.short
  have hfirst : ((0 : Nat) : Int) - s.handlers.offset = -s.handlers.offset := by omega
  have hquery := offerQuery_eq answers s.handlers.offset queryId s.handlers.handlers 0 log
    (by omega)
  rwa [hfirst] at hquery

lemma offered_onQueryMessage (h : s.handlers.Wf) (browserId : Int) (frame : Option Frame)
    (contextId requestId : Int) (isPersistent : Bool) (answers : Nat → Bool) :
    offered (s.onQueryMessage (some browserId) frame contextId requestId isPersistent
        answers).effects.log = offered s.effects.log ++
      s.handlers.registered.asked fun e => answers (e.1 + s.handlers.offset).toNat := by
  have hfailure : ∀ e : Effects,
      offered (e.cancelUnhandledQuery frame contextId requestId).log = offered e.log := by
    intro e
    cases frame <;> simp [Effects.cancelUnhandledQuery, Effects.sendQueryFailure, Effects.report,
      offered]
  obtain ⟨-, hasked⟩ :=
    offerQuery_registered h answers s.queryIdGenerator.next.1 s.effects.log
  unfold onQueryMessage
  cases hempty : s.handlers.handlers.isEmpty with
  | true =>
    rw [List.isEmpty_iff] at hempty
    rw [hfailure, HandlersDeque.registered, hempty]
    simp [Registry.asked]
  | false =>
    dsimp only
    split
    · exact hasked
    · exact (hfailure _).trans hasked

lemma get?_onQueryMessage (h : s.handlers.Wf) (browserId : Int) (frame : Option Frame)
    (contextId requestId : Int) (isPersistent : Bool) (answers : Nat → Bool) (b k : Int) :
    (s.onQueryMessage (some browserId) frame contextId requestId isPersistent
        answers).browserQueryInfoMap.get? b k =
      match s.handlers.registered.find? fun e => answers (e.1 + s.handlers.offset).toNat with
      | some entry =>
        if b = browserId ∧ k = s.queryIdGenerator.next.1 then
          some ⟨some browserId, frame, contextId, requestId, isPersistent,
            some s.effects.callbacks.length, some entry⟩
        else s.browserQueryInfoMap.get? b k
      | none => s.browserQueryInfoMap.get? b k := by
  obtain ⟨hfirst, -⟩ :=
    offerQuery_registered h answers s.queryIdGenerator.next.1 s.effects.log
  unfold onQueryMessage
  cases hempty : s.handlers.handlers.isEmpty with
  | true =>
    rw [List.isEmpty_iff] at hempty
    simp [HandlersDeque.registered, hempty]
  | false =>
    dsimp only
    rw [← hfirst]
    cases (offerQuery answers s.handlers.offset s.queryIdGenerator.next.1 0 s.handlers.handlers
      s.effects.log).1 with
    | none => rfl
    | some entry => exact BrowserInfoMap.get?_insert ..

/-! ### The discipline -/

/-- What a router owes to the registry of its handlers: a handler is in the slot with the index
`id + offset`, ids are distinct, the slots at the ends are taken, `remove_handler` succeeds for the
registered ids, a query is offered to the handlers in order, and it is recorded under the handler
that accepts it. -/
structure IdDiscipline (s : BrowserSideRouter) (r : Registry) : Prop where
  located : ∀ handlerId h, (handlerId, h) ∈ r ↔ 0 ≤ handlerId + s.handlers.offset ∧
    s.handlers.handlers[(handlerId + s.handlers.offset).toNat]? = some (some h)
  distinct : (r.map Prod.fst).Nodup
  ends : s.handlers.handlers.head? ≠ some none ∧ s.handlers.handlers.getLast? ≠ some none
  removes : ∀ handlerId, (s.removeHandler handlerId).1 = true ↔ ∃ h, (handlerId, h) ∈ r
  offers : ∀ browserId frame contextId requestId isPersistent answers,
    offered (s.onQueryMessage (some browserId) frame contextId requestId isPersistent
        answers).effects.log =
      offered s.effects.log ++ r.asked fun e => answers (e.1 + s.handlers.offset).toNat
  records : ∀ browserId frame contextId requestId isPersistent answers b k,
    (s.onQueryMessage (some browserId) frame contextId requestId isPersistent
        answers).browserQueryInfoMap.get? b k =
      match r.find? fun e => answers (e.1 + s.handlers.offset).toNat with
      | some entry =>
        if b = browserId ∧ k = s.queryIdGenerator.next.1 then
          some ⟨some browserId, frame, contextId, requestId, isPersistent,
            some s.effects.callbacks.length, some entry⟩
        else s.browserQueryInfoMap.get? b k
      | none => s.browserQueryInfoMap.get? b k

lemma idDiscipline_of_wf (h : s.handlers.Wf) : s.IdDiscipline s.handlers.registered where
  located _ _ := mem_registered
  distinct := s.handlers.nodup_registered
  ends := h.tight
  removes _ := removeHandler_fst
  offers := offered_onQueryMessage h
  records := get?_onQueryMessage h

def stepWithRegistry (sr : BrowserSideRouter × Registry) (a : Action) :
    BrowserSideRouter × Registry :=
  (sr.1.step a, sr.2.after (sr.1.returned a) a)

/-- **The id discipline of the handler registry**, in every run without overflow: the router at its
end and the registry that its callers have kept agree.

**Proof sketch.** Along the run the registry is what the deque stands for, by the step lemma, and
the slots stay tight and few. -/
theorem handler_id_discipline (acts : List Action)
    (h : Transition.Along (fun s a => some (s.step a)) NoOverflow new acts) :
    let (s, r) := acts.foldl stepWithRegistry (new, [])
    s = acts.foldl step new ∧ s.IdDiscipline r := by
  suffices ∀ acts s, s.handlers.Wf →
      Transition.Along (fun s a => some (s.step a)) NoOverflow s acts →
      (acts.foldl stepWithRegistry (s, s.handlers.registered)).1 = acts.foldl step s ∧
        (acts.foldl stepWithRegistry (s, s.handlers.registered)).1.IdDiscipline
          (acts.foldl stepWithRegistry (s, s.handlers.registered)).2 from
    this acts new ⟨tight_nil, by decide⟩ h
  intro acts
  induction acts with
  | nil => exact fun s hwf _ => ⟨rfl, idDiscipline_of_wf hwf⟩
  | cons a acts ih =>
    intro s hwf hrun
    have hnext : stepWithRegistry (s, s.handlers.registered) a =
        (s.step a, (s.step a).handlers.registered) :=
      Prod.ext rfl (s.registered_step a).symm
    rw [foldl_cons, foldl_cons, hnext]
    exact ih (s.step a) (wf_step hwf hrun.1) hrun.2

/-- Handlers added at both ends, one removed from the middle and one from the front, and one
added again. -/
def mixedRegistrations : List Action :=
  [.addHandler 1 false, .addHandler 2 true, .addHandler 3 false, .removeHandler 0,
    .removeHandler (-1), .addHandler 4 true, .queryMessage (some 1) none 1 1 false (· = 1)]

theorem handler_id_discipline_mixed :
    let (s, r) := mixedRegistrations.foldl stepWithRegistry (new, [])
    s = mixedRegistrations.foldl step new ∧ s.IdDiscipline r :=
  handler_id_discipline mixedRegistrations (by decide)

end BrowserSideRouter

end CefCore.MessageRouter
