import CefCore.Browser.PendingPopups

/-!
# The lives of pending popups

A popup is created, is handed out to one call after another, and is complete or is dropped.

## Main definitions

* `methodsUpTo`: what has been done with a popup up to a moment.
-/

namespace CefCore.Browser

open List PopupCall Nat

inductive PopupMethod where
  | getCustomWebContentsView
  | webContentsCreated
  | addWebContents
  deriving DecidableEq

def PopupCall.method : PopupCall → PopupMethod
  | getCustomWebContentsView _ _ => .getCustomWebContentsView
  | webContentsCreated _ _ _ => .webContentsCreated
  | addWebContents _ => .addWebContents

inductive PopupMoment where
  | created
  | handedOut (method : PopupMethod)
  | aborted

def methodsUpTo (alloyStyle : Bool) : PopupStep → List PopupMethod
  | .canCreateWindow => []
  | .getCustomWebContentsView => [.getCustomWebContentsView]
  | .webContentsCreated => [.webContentsCreated]
  | .creationComplete =>
    if alloyStyle then [.getCustomWebContentsView, .webContentsCreated]
    else [.webContentsCreated, .addWebContents]

def lifeUpTo (alloyStyle : Bool) (step : PopupStep) : List PopupMoment :=
  .created :: (methodsUpTo alloyStyle step).map .handedOut

variable {δ : Type}

def PopupReport.moment (number : Nat) : PopupReport δ → Option PopupMoment
  | created p => if p.number = number then some .created else none
  | handedOut call p => if p.number = number then some (.handedOut call.method) else none
  | aborted n => if n = number then some .aborted else none

def PendingPopup.IsSame (q p : PendingPopup δ) : Prop :=
  { q with step := p.step, newContents := p.newContents } = p

/-- A popup that is not complete may be in the step. -/
def InProgress (alloyStyle : Bool) (step : PopupStep) : Prop :=
  step ≠ .creationComplete ∧ (alloyStyle = true → step ≠ .webContentsCreated)

namespace PopupManager

variable (m : PopupManager δ)

def history (number : Nat) : List PopupMoment := m.log.filterMap (PopupReport.moment number)

def numbers : List Nat := m.pendingPopupList.map PendingPopup.number

/-- **The life of a popup** that has been created. It waits, and has been handed out to the methods up to
its step, each one once. Or it is complete, and its callback has not been run. Or it has been dropped
behind a step before that, and its callback has been run, once. -/
inductive LifeOf (p : PendingPopup δ) : Prop
  | pending (q : PendingPopup δ) (hq : q ∈ m.pendingPopupList) (hsame : q.IsSame p)
      (hhistory : m.history p.number = lifeUpTo p.alloyStyle q.step)
  | complete (hgone : p.number ∉ m.numbers)
      (hhistory : m.history p.number = lifeUpTo p.alloyStyle .creationComplete)
  | dropped (hgone : p.number ∉ m.numbers) (step : PopupStep) (hstep : InProgress p.alloyStyle step)
      (hhistory : m.history p.number =
        lifeUpTo p.alloyStyle step ++ if p.abortedCallback then [.aborted] else [])

end PopupManager

/-! ### The lives -/

variable {p q : PendingPopup δ}

section

variable (h : q.IsSame p)
include h

lemma PendingPopup.IsSame.number_eq : q.number = p.number := by
  have h' := congrArg PendingPopup.number h
  exact h'

lemma PendingPopup.IsSame.alloyStyle_eq : q.alloyStyle = p.alloyStyle := by
  have h' := congrArg PendingPopup.alloyStyle h
  exact h'

lemma PendingPopup.IsSame.openerGlobalId_eq : q.openerGlobalId = p.openerGlobalId := by
  have h' := congrArg PendingPopup.openerGlobalId h
  exact h'

lemma PendingPopup.IsSame.targetUrl_eq : q.targetUrl = p.targetUrl := by
  have h' := congrArg PendingPopup.targetUrl h
  exact h'

lemma PendingPopup.IsSame.abortedCallback_eq : q.abortedCallback = p.abortedCallback := by
  have h' := congrArg PendingPopup.abortedCallback h
  exact h'

end

namespace PopupCall

variable {call : PopupCall} {p q : PendingPopup δ}

lemma isSame_update : (call.update q).IsSame p ↔ q.IsSame p := by
  cases call with
  | webContentsCreated =>
    simp only [update]
    split <;> rfl
  | getCustomWebContentsView => rfl
  | addWebContents => rfl

@[simp] lemma number_update : (call.update p).number = p.number :=
  (isSame_update.mpr (rfl : p.IsSame p)).number_eq

@[simp] lemma alloyStyle_update : (call.update p).alloyStyle = p.alloyStyle :=
  (isSame_update.mpr (rfl : p.IsSame p)).alloyStyle_eq

@[simp] lemma openerGlobalId_update : (call.update p).openerGlobalId = p.openerGlobalId :=
  (isSame_update.mpr (rfl : p.IsSame p)).openerGlobalId_eq

@[simp] lemma targetUrl_update : (call.update p).targetUrl = p.targetUrl :=
  (isSame_update.mpr (rfl : p.IsSame p)).targetUrl_eq

def previousStep (alloyStyle : Bool) : PopupCall → PopupStep
  | getCustomWebContentsView _ _ => .canCreateWindow
  | webContentsCreated _ _ _ =>
    if alloyStyle then .getCustomWebContentsView else .canCreateWindow
  | addWebContents _ => .webContentsCreated

lemma step_of_finds (h : call.finds p = true) : p.step = call.previousStep p.alloyStyle := by
  cases call with
  | getCustomWebContentsView targetUrl opener =>
    simpa [PendingPopup.isAt, previousStep] using (Bool.and_eq_true_iff.mp h).1
  | webContentsCreated targetUrl opener newContents =>
    exact of_decide_eq_true (Bool.and_eq_true_iff.mp h).1
  | addWebContents newContents =>
    simpa [PendingPopup.isAt, previousStep] using (Bool.and_eq_true_iff.mp h).1

/-- **A popup is handed out** in the step that comes before, and behind the call it is in the step that
the call belongs to. -/
lemma lifeUpTo_update (hfinds : call.finds p = true) (hp : InProgress p.alloyStyle p.step) :
    lifeUpTo p.alloyStyle (call.update p).step =
      lifeUpTo p.alloyStyle p.step ++ [.handedOut call.method] := by
  have hstep := step_of_finds hfinds
  cases call with
  | getCustomWebContentsView targetUrl opener =>
    rw [hstep]
    rfl
  | webContentsCreated targetUrl opener newContents =>
    rw [hstep]
    cases halloy : p.alloyStyle <;> rw [update, halloy] <;> rfl
  | addWebContents newContents =>
    have halloy : p.alloyStyle = false := Bool.eq_false_iff.mpr fun halloy => hp.2 halloy hstep
    rw [hstep, halloy]
    rfl

lemma inProgress_update (h : (call.update p).step ≠ .creationComplete) :
    InProgress (call.update p).alloyStyle (call.update p).step := by
  refine ⟨h, fun halloy hstep => ?_⟩
  rw [alloyStyle_update] at halloy
  cases call with
  | getCustomWebContentsView => exact nomatch hstep
  | webContentsCreated =>
    rw [update, if_pos halloy] at hstep
    exact nomatch hstep
  | addWebContents => exact nomatch hstep

end PopupCall

namespace PopupManager

variable {m m' : PopupManager δ}

structure Tracked (m : PopupManager δ) : Prop where
  nodup : m.numbers.Nodup
  lt : ∀ p ∈ m.pendingPopupList, p.number < m.nextNumber
  history_eq : ∀ p ∈ m.pendingPopupList, m.history p.number = lifeUpTo p.alloyStyle p.step
  inProgress : ∀ p ∈ m.pendingPopupList, InProgress p.alloyStyle p.step
  history_nil : ∀ n, m.nextNumber ≤ n → m.history n = []
  lives : ∀ p, .created p ∈ m.log → p.number < m.nextNumber ∧ m.LifeOf p

lemma history_of_log {later : List (PopupReport δ)} (h : m'.log = m.log ++ later) (n : Nat) :
    m'.history n = m.history n ++ later.filterMap (PopupReport.moment n) := by
  rw [history, h, filterMap_append, history]

lemma history_of_log_eq {later : List (PopupReport δ)} (h : m'.log = m.log ++ later) {n : Nat}
    (hnone : later.filterMap (PopupReport.moment n) = []) : m'.history n = m.history n := by
  rw [history_of_log h, hnone, append_nil]

lemma mem_numbers {n : Nat} : n ∈ m.numbers ↔ ∃ p ∈ m.pendingPopupList, p.number = n := mem_map

variable {p : PendingPopup δ}

lemma Tracked.eq_of_number (h : m.Tracked) {q : PendingPopup δ} (hp : p ∈ m.pendingPopupList)
    (hq : q ∈ m.pendingPopupList) (heq : p.number = q.number) : p = q :=
  inj_on_of_nodup_map h.nodup hp hq heq

lemma LifeOf.congr (h : m.LifeOf p) (hhistory : m'.history p.number = m.history p.number)
    (hpending : ∀ q ∈ m.pendingPopupList, q.number = p.number → q ∈ m'.pendingPopupList)
    (hgone : p.number ∉ m.numbers → p.number ∉ m'.numbers) : m'.LifeOf p := by
  cases h with
  | pending q hq hsame heq =>
    exact .pending q (hpending q hq hsame.number_eq) hsame (hhistory.trans heq)
  | complete hnot heq => exact .complete (hgone hnot) (hhistory.trans heq)
  | dropped hnot step hstep heq => exact .dropped (hgone hnot) step hstep (hhistory.trans heq)

lemma Tracked.created (h : m.Tracked) {popup : PendingPopup δ} (hnumber : popup.number = m.nextNumber)
    (hstep : popup.step = .canCreateWindow)
    (hlist : m'.pendingPopupList = m.pendingPopupList ++ [popup])
    (hnext : m'.nextNumber = m.nextNumber + 1) (hlog : m'.log = m.log ++ [.created popup]) :
    m'.Tracked := by
  have hold : ∀ n, n ≠ m.nextNumber → m'.history n = m.history n := fun n hn =>
    history_of_log_eq hlog (by simp [PopupReport.moment, hnumber, Ne.symm hn])
  have hnew : m'.history popup.number = lifeUpTo popup.alloyStyle popup.step := by
    rw [history_of_log hlog, hnumber, h.history_nil _ (le_refl _), hstep]
    simp [PopupReport.moment, hnumber, lifeUpTo, methodsUpTo]
  have hfresh : m.nextNumber ∉ m.numbers := fun hmem => by
    obtain ⟨p, hp, heq⟩ := mem_numbers.mp hmem
    exact Nat.ne_of_lt (h.lt p hp) heq
  have hnumbers : m'.numbers = m.numbers ++ [m.nextNumber] := by
    rw [numbers, hlist, map_append, map_singleton, hnumber, numbers]
  refine ⟨?_, ?_, ?_, ?_, ?_, ?_⟩
  · rw [hnumbers]
    exact nodup_append.mpr ⟨h.nodup, nodup_singleton _, fun a ha b hb heq =>
      hfresh (mem_singleton.mp hb ▸ heq ▸ ha)⟩
  · intro p hp
    rw [hlist, mem_append, mem_singleton] at hp
    rcases hp with hp | rfl
    · exact hnext ▸ lt_succ_of_lt (h.lt p hp)
    · rw [hnumber, hnext]
      exact lt_succ_self _
  · intro p hp
    rw [hlist, mem_append, mem_singleton] at hp
    rcases hp with hp | rfl
    · rw [hold p.number (Nat.ne_of_lt (h.lt p hp)), h.history_eq p hp]
    · exact hnew
  · intro p hp
    rw [hlist, mem_append, mem_singleton] at hp
    rcases hp with hp | rfl
    · exact h.inProgress p hp
    · rw [hstep]
      exact ⟨nofun, nofun⟩
  · intro n hn
    rw [hnext] at hn
    rw [hold n (ne_of_gt hn), h.history_nil n (le_of_succ_le hn)]
  · intro p hp
    rw [hlog, mem_append, mem_singleton] at hp
    rcases hp with hp | hp
    · obtain ⟨hlt, hlife⟩ := h.lives p hp
      have hne := Nat.ne_of_lt hlt
      refine ⟨hnext ▸ lt_succ_of_lt hlt, hlife.congr (hold _ hne) (fun q hq _ => ?_) fun hnot => ?_⟩
      · rw [hlist]
        exact mem_append_left _ hq
      · rw [hnumbers]
        simpa [hne] using hnot
    · obtain rfl := PopupReport.created.inj hp
      refine ⟨by rw [hnumber, hnext]; exact lt_succ_self _, .pending p ?_ rfl hnew⟩
      rw [hlist]
      exact mem_append_right _ (mem_singleton_self p)

lemma numbers_perm {call : PopupCall} (hfind : m.pendingPopupList.find? call.finds = some p) :
    m.numbers.Perm (p.number :: (m.pendingPopupList.eraseP call.finds).map PendingPopup.number) := by
  obtain ⟨-, l₁, l₂, -, hlist, herase⟩ := FirstMatch.exists_of_find? hfind
  rw [herase, numbers, hlist, map_append, map_cons, map_append]
  exact perm_middle

section

variable {call : PopupCall} (h : m.Tracked) (hfind : m.pendingPopupList.find? call.finds = some p)
  (hlist : m'.pendingPopupList = m.pendingPopupList.eraseP call.finds ++
    [call.update p].filter fun q => q.step ≠ .creationComplete)
include h hfind hlist

/-- Behind a call the list has the other popups, and the popup of the call if it is not complete. -/
lemma Tracked.mem_received {q : PendingPopup δ} (hq : q ∈ m'.pendingPopupList) :
    (q ∈ m.pendingPopupList ∧ q.number ≠ p.number) ∨
      q = call.update p ∧ q.step ≠ .creationComplete := by
  rw [hlist, mem_append, mem_filter, mem_singleton] at hq
  rcases hq with hq | ⟨rfl, hstep⟩
  · have hnot := (nodup_cons.mp ((numbers_perm hfind).nodup_iff.mp h.nodup)).1
    exact .inl ⟨mem_of_mem_eraseP hq, fun heq => hnot (mem_map.mpr ⟨q, hq, heq⟩)⟩
  · exact .inr ⟨rfl, of_decide_eq_true hstep⟩

lemma Tracked.received (hnext : m'.nextNumber = m.nextNumber)
    (hlog : m'.log = m.log ++ [.handedOut call p]) : m'.Tracked := by
  have hp : p ∈ m.pendingPopupList := mem_of_find?_eq_some hfind
  have hperm := numbers_perm hfind
  have hnodup := hperm.nodup_iff.mp h.nodup
  have hold : ∀ n, n ≠ p.number → m'.history n = m.history n := fun n hn =>
    history_of_log_eq hlog (by simp [PopupReport.moment, Ne.symm hn])
  have hnew : m'.history p.number = lifeUpTo p.alloyStyle (call.update p).step := by
    rw [history_of_log hlog, h.history_eq p hp,
      call.lifeUpTo_update (find?_some hfind) (h.inProgress p hp)]
    simp [PopupReport.moment]
  have hmem := fun q (hq : q ∈ m'.pendingPopupList) => h.mem_received hfind hlist hq
  refine ⟨?_, ?_, ?_, ?_, ?_, ?_⟩
  · have hsublist : m'.numbers.Sublist
        ((m.pendingPopupList.eraseP call.finds).map PendingPopup.number ++ [p.number]) := by
      rw [numbers, hlist, map_append, ← call.number_update (p := p)]
      exact (List.Sublist.refl _).append (filter_sublist.map PendingPopup.number)
    exact (nodup_append_comm.mp hnodup).sublist hsublist
  · intro q hq
    rcases hmem q hq with ⟨hq, -⟩ | ⟨rfl, -⟩
    · exact hnext ▸ h.lt q hq
    · rw [number_update, hnext]
      exact h.lt p hp
  · intro q hq
    rcases hmem q hq with ⟨hq, hne⟩ | ⟨rfl, -⟩
    · rw [hold q.number hne, h.history_eq q hq]
    · rw [number_update, alloyStyle_update, hnew]
  · intro q hq
    rcases hmem q hq with ⟨hq, -⟩ | ⟨rfl, hstep⟩
    · exact h.inProgress q hq
    · exact inProgress_update hstep
  · intro n hn
    rw [hnext] at hn
    rw [hold n (ne_of_gt (lt_of_lt_of_le (h.lt p hp) hn)), h.history_nil n hn]
  · intro p₀ hp₀
    rw [hlog, mem_append, mem_singleton] at hp₀
    obtain ⟨hlt, hlife⟩ := h.lives p₀ (hp₀.resolve_right nofun)
    refine ⟨hnext ▸ hlt, ?_⟩
    by_cases heq : p₀.number = p.number
    · have hwaits : p₀.number ∈ m.numbers := heq ▸ mem_map_of_mem hp
      cases hlife with
      | complete hgone => exact absurd hwaits hgone
      | dropped hgone => exact absurd hwaits hgone
      | pending q hq hsame =>
        obtain rfl : q = p := h.eq_of_number hq hp (hsame.number_eq.trans heq)
        rw [← heq, hsame.alloyStyle_eq] at hnew
        by_cases hcomplete : (call.update q).step = .creationComplete
        · refine .complete (fun hmem' => ?_) (hcomplete ▸ hnew)
          obtain ⟨r, hr, hnumber⟩ := mem_numbers.mp hmem'
          rcases hmem r hr with ⟨-, hne⟩ | ⟨rfl, hstep⟩
          · exact hne (hnumber.trans heq)
          · exact hstep hcomplete
        · refine .pending (call.update q) ?_ (call.isSame_update.mpr hsame) hnew
          rw [hlist, mem_append, mem_filter]
          exact .inr ⟨mem_singleton_self _, decide_eq_true hcomplete⟩
    · refine hlife.congr (hold _ heq) (fun q hq hnumber => ?_) fun hnot hmem' => ?_
      · rw [hlist]
        exact mem_append_left _ (FirstMatch.mem_eraseP_of_find? hfind hq fun hqp =>
          heq (hqp ▸ hnumber.symm))
      · obtain ⟨r, hr, hnumber⟩ := mem_numbers.mp hmem'
        rcases hmem r hr with ⟨hr, -⟩ | ⟨rfl, -⟩
        · exact hnot (mem_numbers.mpr ⟨r, hr, hnumber⟩)
        · exact heq (hnumber.symm.trans number_update)

end

lemma moments_destroyed : ∀ {l : List (PendingPopup δ)}, (l.map PendingPopup.number).Nodup →
    (∀ p ∈ l, p.step ≠ .creationComplete) →
    (∀ p ∈ l, (l.flatMap PendingPopup.destroyed).filterMap (PopupReport.moment p.number) =
        if p.abortedCallback then [.aborted] else []) ∧
      ∀ n ∉ l.map PendingPopup.number,
        (l.flatMap PendingPopup.destroyed).filterMap (PopupReport.moment n) = []
  | [], _, _ => ⟨nofun, fun _ _ => rfl⟩
  | q :: l, hnodup, hsteps => by
    obtain ⟨hnot, hnodup⟩ := nodup_cons.mp hnodup
    obtain ⟨hmem, hnone⟩ := moments_destroyed hnodup fun p hp => hsteps p (mem_cons_of_mem q hp)
    have hstep := hsteps q mem_cons_self
    -- what is reported of the first one
    have hself : q.destroyed.filterMap (PopupReport.moment q.number) =
        if q.abortedCallback then [.aborted] else [] := by
      cases hcallback : q.abortedCallback <;>
        simp [PendingPopup.destroyed, hstep, hcallback, PopupReport.moment]
    have hother : ∀ n, q.number ≠ n → q.destroyed.filterMap (PopupReport.moment n) = [] := by
      intro n hn
      cases hcallback : q.abortedCallback <;>
        simp [PendingPopup.destroyed, hstep, hcallback, PopupReport.moment, hn]
    refine ⟨fun p hp => ?_, fun n hn => ?_⟩
    · rw [flatMap_cons, filterMap_append]
      rcases mem_cons.mp hp with rfl | hp
      · rw [hself, hnone _ hnot, append_nil]
      · have hne : q.number ≠ p.number := fun heq => hnot (heq ▸ mem_map_of_mem hp)
        rw [hother _ hne, nil_append, hmem p hp]
    · rw [map_cons, mem_cons, not_or] at hn
      rw [flatMap_cons, filterMap_append, hother n (Ne.symm hn.1), hnone n hn.2]
      rfl

lemma eq_aborted_of_mem {l : List (PendingPopup δ)} {report : PopupReport δ}
    (h : report ∈ l.flatMap PendingPopup.destroyed) : ∃ n, report = .aborted n := by
  obtain ⟨p, -, hp⟩ := mem_flatMap.mp h
  unfold PendingPopup.destroyed at hp
  split at hp
  · exact ⟨p.number, mem_singleton.mp hp⟩
  · exact nomatch hp

lemma ne_handedOut_of_mem {l : List (PendingPopup δ)} {report : PopupReport δ}
    (h : report ∈ l.flatMap PendingPopup.destroyed) (call : PopupCall) (p : PendingPopup δ) :
    report ≠ .handedOut call p := by
  obtain ⟨n, rfl⟩ := eq_aborted_of_mem h
  exact nofun

lemma Tracked.erased (h : m.Tracked) {condition : PendingPopup δ → Bool}
    (hlist : m'.pendingPopupList = m.pendingPopupList.filter fun p => !condition p)
    (hnext : m'.nextNumber = m.nextNumber) (hlog : m'.log = m.log ++
      (m.pendingPopupList.filter condition).flatMap PendingPopup.destroyed) : m'.Tracked := by
  have hsublist : m'.numbers.Sublist m.numbers := by
    rw [numbers, hlist]
    exact filter_sublist.map PendingPopup.number
  have hmem : ∀ q ∈ m'.pendingPopupList, q ∈ m.pendingPopupList ∧ condition q = false := by
    intro q hq
    rw [hlist, mem_filter] at hq
    exact ⟨hq.1, by simpa using hq.2⟩
  obtain ⟨hdropped, hothers⟩ := moments_destroyed
    (h.nodup.sublist (filter_sublist.map PendingPopup.number))
    fun p hp => (h.inProgress p (mem_filter.mp hp).1).1
  -- the popups that are left are not among those that are dropped
  have hold : ∀ q ∈ m.pendingPopupList, condition q = false →
      m'.history q.number = m.history q.number := by
    intro q hq hcondition
    refine history_of_log_eq hlog (hothers q.number fun hmem' => ?_)
    obtain ⟨p, hp, heq⟩ := mem_map.mp hmem'
    obtain ⟨hp, htrue⟩ := mem_filter.mp hp
    obtain rfl := h.eq_of_number hp hq heq
    exact Bool.noConfusion (htrue.symm.trans hcondition)
  have hgone : ∀ n, n ∉ m.numbers → m'.history n = m.history n := fun n hn =>
    history_of_log_eq hlog (hothers n fun hmem' =>
      hn ((filter_sublist.map PendingPopup.number).subset hmem'))
  refine ⟨h.nodup.sublist hsublist, fun p hp => hnext ▸ h.lt p (hmem p hp).1, fun p hp => ?_,
    fun p hp => h.inProgress p (hmem p hp).1, fun n hn => ?_, fun p₀ hp₀ => ?_⟩
  · obtain ⟨hp, hcondition⟩ := hmem p hp
    rw [hold p hp hcondition, h.history_eq p hp]
  · rw [hnext] at hn
    rw [hgone n fun hmem' => ?_, h.history_nil n hn]
    obtain ⟨p, hp, rfl⟩ := mem_numbers.mp hmem'
    exact not_lt.mpr hn (h.lt p hp)
  · have hcreated : .created p₀ ∈ m.log := by
      rw [hlog, mem_append] at hp₀
      refine hp₀.resolve_right fun hmem' => ?_
      obtain ⟨n, hn⟩ := eq_aborted_of_mem hmem'
      exact nomatch hn
    obtain ⟨hlt, hlife⟩ := h.lives p₀ hcreated
    refine ⟨hnext ▸ hlt, ?_⟩
    cases hlife with
    | complete hnot heq =>
      exact .complete (fun hmem' => hnot (hsublist.subset hmem')) ((hgone _ hnot).trans heq)
    | dropped hnot step hstep heq =>
      exact .dropped (fun hmem' => hnot (hsublist.subset hmem')) step hstep ((hgone _ hnot).trans heq)
    | pending q hq hsame heq =>
      have hnumber := hsame.number_eq
      cases hcondition : condition q with
      | false =>
        refine .pending q ?_ hsame ?_
        · rw [hlist, mem_filter]
          exact ⟨hq, by rw [hcondition]; rfl⟩
        · rw [← hnumber, hold q hq hcondition, hnumber, heq]
      | true =>
        refine .dropped (fun hmem' => ?_) q.step (hsame.alloyStyle_eq ▸ h.inProgress q hq) ?_
        · obtain ⟨r, hr, hr'⟩ := mem_numbers.mp hmem'
          obtain ⟨hr, hfalse⟩ := hmem r hr
          obtain rfl := h.eq_of_number hr hq (hr'.trans hnumber.symm)
          exact Bool.noConfusion (hfalse.symm.trans hcondition)
        · rw [history_of_log hlog, heq, ← hnumber,
            hdropped q (mem_filter.mpr ⟨hq, hcondition⟩), hsame.abortedCallback_eq]

lemma Tracked.change (h : m.Tracked) (hchange : m.Change m') : m'.Tracked := by
  cases hchange with
  | none =>
    refine ⟨h.nodup, h.lt, h.history_eq, h.inProgress, h.history_nil, fun p hp => ?_⟩
    obtain ⟨hlt, hlife⟩ := h.lives p hp
    exact ⟨hlt, hlife.congr rfl (fun _ hq _ => hq) id⟩
  | created popup hnumber hstep => exact h.created hnumber hstep rfl rfl rfl
  | received pendingCreatePopup call popup hfind => exact h.received hfind rfl rfl rfl
  | erased pendingCreatePopup condition => exact h.erased rfl rfl rfl

lemma tracked_new : ({} : PopupManager δ).Tracked :=
  ⟨nodup_nil, fun _ h => absurd h not_mem_nil, fun _ h => absurd h not_mem_nil,
    fun _ h => absurd h not_mem_nil, fun _ _ => rfl, fun _ h => absurd h not_mem_nil⟩

end PopupManager

end CefCore.Browser
