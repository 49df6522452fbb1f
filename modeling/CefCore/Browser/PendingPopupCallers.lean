import Mathlib.Data.List.Perm.Subperm
import CefCore.Browser.PendingPopupOrder

/-!
# The callers of pending popups

The calls for one popup come from `RenderFrameHostImpl::CreateNewWindow` and from the browser of its
opener. A caller knows the opener, the URL and the `WebContents`, and it makes one call after another. The
browser of an opener of Alloy style calls `GetCustomWebContentsView` for each popup, whatever the style of
the popup is. The calls for several popups may come in any order.

## Main definitions

* `PopupCaller.Makes`: the call that a caller makes next.
* `PopupsMatched`: each call gets the popup that is for it, once, in order, and callbacks run once.
* `PopupEvent.Orderly`: when a step keeps this.

## Main results

* `popups_matched`: it holds in every run of steps that are orderly.
* `chromePopup_of_alloyOpener`: it does not hold of a popup of Chrome style from an opener of Alloy style.
-/

namespace CefCore.Browser

open List Option PopupCall Transition

open CefCore.Frame (GlobalRenderFrameHostId)

/-- A popup, as those who make its calls see it. -/
structure PopupCaller where
  /-- The last call that has been made. -/
  step : PopupStep
  alloyStyle : Bool
  openerGlobalId : GlobalRenderFrameHostId
  targetUrl : String
  newContents : Option Nat := none
  deriving DecidableEq

variable {δ : Type}

/-- What a caller knows of the popup that is for it. -/
def PendingPopup.caller (p : PendingPopup δ) : PopupCaller :=
  { step := p.step, alloyStyle := p.alloyStyle, openerGlobalId := p.openerGlobalId,
    targetUrl := p.targetUrl, newContents := p.newContents }

/-- The popup has completed exactly the step before the call, which is a call for its style, and it has
the opener and the URL, or the `WebContents`. -/
def PendingPopup.Awaits (p : PendingPopup δ) (call : PopupCall) : Prop :=
  call.finds p = true ∧ call.method ∈ methodsUpTo p.alloyStyle .creationComplete

instance (p : PendingPopup δ) (call : PopupCall) : Decidable (p.Awaits call) :=
  inferInstanceAs (Decidable (_ ∧ _))

variable (alloyOpener : GlobalRenderFrameHostId → Bool)

namespace PopupCaller

/-- The call is the next one of the caller. It goes by the style of the opener. -/
def Makes (c : PopupCaller) : PopupCall → Prop
  | .getCustomWebContentsView targetUrl opener =>
    alloyOpener opener = true ∧ c.step = .canCreateWindow ∧ c.openerGlobalId = opener ∧
      c.targetUrl = targetUrl
  | .webContentsCreated targetUrl opener _ =>
    c.step = (if alloyOpener opener then .getCustomWebContentsView else .canCreateWindow) ∧
      c.openerGlobalId = opener ∧ c.targetUrl = targetUrl
  | .addWebContents newContents => c.step = .webContentsCreated ∧ c.newContents = some newContents

instance (c : PopupCaller) : (call : PopupCall) → Decidable (c.Makes alloyOpener call)
  | .getCustomWebContentsView _ _ => inferInstanceAs (Decidable (_ ∧ _))
  | .webContentsCreated _ _ _ => inferInstanceAs (Decidable (_ ∧ _))
  | .addWebContents _ => inferInstanceAs (Decidable (_ ∧ _))

/-- The caller behind the call. -/
def after (c : PopupCaller) : PopupCall → PopupCaller
  | .getCustomWebContentsView _ _ => { c with step := .getCustomWebContentsView }
  | .webContentsCreated _ _ newContents =>
    if c.alloyStyle then { c with step := .creationComplete }
    else { c with step := .webContentsCreated, newContents := some newContents }
  | .addWebContents _ => { c with step := .creationComplete }

end PopupCaller

/-- The manager, and the callers whose popups are neither complete nor given up. -/
structure PopupWorld (δ : Type) where
  manager : PopupManager δ := {}
  callers : List PopupCaller := []

/-- What may happen next. -/
inductive PopupEvent (δ : Type) where
  | canCreateWindow (call : CanCreateWindowCall δ)
  | call (caller : PopupCaller) (call : PopupCall)
  | createWindowResult (caller : PopupCaller) (success : Bool)
  | renderProcessHostDestroyed (renderProcessId : Int)

/-- Nothing happens for a call that is not the next one of a caller. -/
def PopupWorld.step (w : PopupWorld δ) : PopupEvent δ → Option (PopupWorld δ)
  | .canCreateWindow call =>
    let r := w.manager.canCreateWindow call
    let caller : PopupCaller :=
      { step := .canCreateWindow, alloyStyle := call.alloyStyle, openerGlobalId := call.opener,
        targetUrl := call.filteredUrl }
    some { manager := r.2, callers := if r.1 then w.callers ++ [caller] else w.callers }
  | .call caller call =>
    if caller ∈ w.callers ∧ caller.Makes alloyOpener call then
      (w.manager.step (.call call)).map fun manager =>
        { manager
          callers := w.callers.erase caller ++
            [caller.after call].filter fun c => c.step ≠ .creationComplete }
    else some w
  | .createWindowResult caller success =>
    some
      { manager := w.manager.createWindowResult success
        -- Behind `success = false` the popup is given up.
        callers := if success then w.callers else w.callers.erase caller }
  | .renderProcessHostDestroyed renderProcessId =>
    some
      { manager := w.manager.renderProcessHostDestroyed renderProcessId
        callers := w.callers.filter fun c => c.openerGlobalId.childId ≠ renderProcessId }

/-- The popups with an opener and a URL. -/
def isFrom (opener : GlobalRenderFrameHostId) (targetUrl : String) (p : PendingPopup δ) : Bool :=
  p.openerGlobalId = opener && p.targetUrl = targetUrl

/-- **Popups are matched and finished once.** The next call of every caller comes back, with a popup that
awaits it and that is as the caller knows it, and no other popup has ever been handed out. A popup is
handed out to each method of its style at most once, and its callback is run once if it is dropped before
it is complete, and else never. Popups with the same opener and URL are handed out to each method in the
order of their `CanCreateWindow` calls. -/
structure PopupsMatched (w : PopupWorld δ) : Prop where
  received : ∀ c ∈ w.callers, ∀ call, c.Makes alloyOpener call → ∃ p m',
    w.manager.step (.call call) = some m' ∧ m'.log = w.manager.log ++ [.handedOut call p] ∧
      p.Awaits call ∧ p.caller = c
  awaited : ∀ call p, .handedOut call p ∈ w.manager.log → p.Awaits call
  sameContents : ∀ newContents p, .handedOut (.addWebContents newContents) p ∈ w.manager.log →
    ∃ targetUrl opener q,
      .handedOut (.webContentsCreated targetUrl opener newContents) q ∈ w.manager.log ∧
        q.number = p.number
  lives : ∀ p, .created p ∈ w.manager.log → w.manager.LifeOf p
  inOrder : ∀ method opener targetUrl,
    (w.manager.handedOutTo method (isFrom opener targetUrl)).Pairwise (· < ·)

/-- **When a step keeps popups matched.** A popup has the style of its opener. The `WebContents` of
`WebContentsCreated` is not that of a pending popup. `AddWebContents` is called for the oldest pending
popup with its opener and URL. And when `CreateWindowResult` gives a popup up, `pending_create_popup_` is
null, or gone, or as the caller knows its popup. -/
def PopupEvent.Orderly (w : PopupWorld δ) : PopupEvent δ → Prop
  | .canCreateWindow popup => popup.alloyStyle = alloyOpener popup.opener
  | .call _ (.webContentsCreated _ _ newContents) =>
    ∀ p ∈ w.manager.pendingPopupList, p.newContents ≠ some newContents
  | .call _ (.addWebContents newContents) =>
    ∀ p ∈ w.manager.pendingPopupList, p.newContents = some newContents →
      ∀ q ∈ w.manager.pendingPopupList, isFrom p.openerGlobalId p.targetUrl q = true →
        p.number ≤ q.number
  | .createWindowResult caller success =>
    success = false → ∀ p ∈ w.manager.pendingPopupList,
      w.manager.pendingCreatePopup = some p.number → p.caller = caller
  | _ => True

instance (w : PopupWorld δ) : (e : PopupEvent δ) → Decidable (e.Orderly alloyOpener w)
  | .canCreateWindow _ => inferInstanceAs (Decidable (_ = _))
  | .call _ (.getCustomWebContentsView _ _) => isTrue trivial
  | .call _ (.webContentsCreated _ _ _) => inferInstanceAs (Decidable (∀ _ ∈ _, _))
  | .call _ (.addWebContents _) => inferInstanceAs (Decidable (∀ _ ∈ _, _ → ∀ _ ∈ _, _ → _))
  | .createWindowResult _ _ => inferInstanceAs (Decidable (_ → ∀ _ ∈ _, _ → _))
  | .renderProcessHostDestroyed _ => isTrue trivial

/-! ### Callers and popups -/

section Callers

variable {alloyOpener} {p : PendingPopup δ} {c : PopupCaller} {call : PopupCall}

lemma caller_update (p : PendingPopup δ) (call : PopupCall) :
    (call.update p).caller = p.caller.after call := by
  cases call with
  | webContentsCreated =>
    cases halloy : p.alloyStyle <;>
      simp [PopupCall.update, PopupCaller.after, PendingPopup.caller, halloy]
  | getCustomWebContentsView => rfl
  | addWebContents => rfl

/-- A popup awaits the call that its caller makes next, if it has the style of its opener. -/
lemma awaits_of_makes (hstyle : p.alloyStyle = alloyOpener p.openerGlobalId)
    (h : p.caller.Makes alloyOpener call) (hchrome : call.method = .addWebContents →
      p.alloyStyle = false) : p.Awaits call := by
  cases call with
  | getCustomWebContentsView targetUrl opener =>
    obtain ⟨halloy, hstep, rfl, rfl⟩ := h
    have halloy := hstyle.trans halloy
    exact ⟨by simpa [PopupCall.finds, PendingPopup.isAt, PendingPopup.caller] using hstep,
      by simp [PopupCall.method, methodsUpTo, halloy]⟩
  | webContentsCreated targetUrl opener newContents =>
    obtain ⟨hstep, rfl, rfl⟩ := h
    rw [show alloyOpener p.caller.openerGlobalId = p.alloyStyle from hstyle.symm] at hstep
    refine ⟨?_, by cases p.alloyStyle <;> simp [PopupCall.method, methodsUpTo]⟩
    simpa [PopupCall.finds, PendingPopup.isAt, PendingPopup.caller] using hstep
  | addWebContents newContents =>
    obtain ⟨hstep, hcontents⟩ := h
    exact ⟨by simpa [PopupCall.finds, PendingPopup.isAt, PendingPopup.caller] using ⟨hstep, hcontents⟩,
      by simp [PopupCall.method, methodsUpTo, hchrome rfl]⟩

/-- The popup that a call finds looks the same to its caller, apart from its `WebContents`. -/
lemma makes_of_finds (hstyle : p.alloyStyle = alloyOpener p.openerGlobalId)
    (h : c.Makes alloyOpener call) (hfinds : call.finds p = true) :
    p.caller.Makes alloyOpener call := by
  cases call with
  | getCustomWebContentsView targetUrl opener =>
    simp only [PopupCall.finds, PendingPopup.isAt, ite_self, Bool.and_eq_true,
      decide_eq_true_iff] at hfinds
    exact ⟨h.1, hfinds⟩
  | webContentsCreated targetUrl opener newContents =>
    simp only [PopupCall.finds, PendingPopup.isAt, Bool.and_eq_true, decide_eq_true_iff] at hfinds
    obtain ⟨hstep, rfl, rfl⟩ := hfinds
    rw [hstyle] at hstep
    exact ⟨hstep, rfl, rfl⟩
  | addWebContents newContents =>
    simp only [PopupCall.finds, PendingPopup.isAt, ite_self, Bool.and_eq_true,
      decide_eq_true_iff] at hfinds
    exact hfinds

end Callers

/-! ### Every caller has a popup -/

lemma PopupManager.Tracked.perm_cons_filter {m : PopupManager δ} (h : m.Tracked) {p : PendingPopup δ}
    (hp : p ∈ m.pendingPopupList) : m.pendingPopupList.Perm
      (p :: m.pendingPopupList.filter fun q => !decide (q.number = p.number)) := by
  obtain ⟨l₁, l₂, hlist⟩ := append_of_mem hp
  have hnodup := h.nodup
  rw [numbers, hlist, map_append, map_cons, nodup_middle, nodup_cons, ← map_append] at hnodup
  have hothers : (l₁ ++ l₂).filter (fun q => !decide (q.number = p.number)) = l₁ ++ l₂ :=
    filter_eq_self.mpr fun q hq => by
      have hne : q.number ≠ p.number := fun heq => hnodup.1 (heq ▸ mem_map_of_mem hq)
      simp [hne]
  rw [hlist, filter_append, filter_cons_of_neg (by simp), ← filter_append, hothers]
  exact perm_middle

/-- Every caller has a pending popup of its own that is as it knows it. -/
structure Attended (w : PopupWorld δ) : Prop where
  subperm : w.callers.Subperm (w.manager.pendingPopupList.map PendingPopup.caller)
  style : ∀ p ∈ w.manager.pendingPopupList, p.alloyStyle = alloyOpener p.openerGlobalId
  contents : ∀ p ∈ w.manager.pendingPopupList, p.step ≠ .webContentsCreated → p.newContents = none
  unique : ∀ p ∈ w.manager.pendingPopupList, ∀ q ∈ w.manager.pendingPopupList, ∀ newContents,
    p.newContents = some newContents → q.newContents = some newContents → p = q
  awaited : ∀ call p, .handedOut call p ∈ w.manager.log →
    p.Awaits call ∧ p.alloyStyle = alloyOpener p.openerGlobalId
  added : ∀ opener targetUrl,
    (w.manager.handedOutTo .addWebContents (isFrom opener targetUrl)).Pairwise (· < ·)
  added_lt : ∀ opener targetUrl,
    ∀ n ∈ w.manager.handedOutTo .addWebContents (isFrom opener targetUrl),
      n < w.manager.nextNumber ∧
        ∀ q ∈ w.manager.pendingPopupList, isFrom opener targetUrl q = true → n < q.number

/-- A call that finds a popup comes back with it. -/
lemma PopupManager.step_of_find {m : PopupManager δ} {call : PopupCall} {p : PendingPopup δ}
    (hfind : m.pendingPopupList.find? call.finds = some p) :
    ∃ m', m.step (.call call) = some m' ∧ m'.nextNumber = m.nextNumber ∧
      m'.pendingPopupList = m.pendingPopupList.eraseP call.finds ++
        [call.update p].filter (fun q => q.step ≠ .creationComplete) ∧
      m'.log = m.log ++ [.handedOut call p] := by
  have hreceive : ∀ pending, ∃ m', { m with pendingCreatePopup := pending }.receive call = some (p, m') ∧
      m'.nextNumber = m.nextNumber ∧ m'.pendingPopupList = m.pendingPopupList.eraseP call.finds ++
        [call.update p].filter (fun q => q.step ≠ .creationComplete) ∧
      m'.log = m.log ++ [.handedOut call p] := by
    intro pending
    simp only [receive, hfind, map_some, some.injEq, Prod.mk.injEq, true_and, exists_eq_left']
    by_cases hcomplete : (call.update p).step = .creationComplete
    · simp [hcomplete]
    · simp [hcomplete, pushPendingPopup]
  cases call with
  | getCustomWebContentsView targetUrl opener =>
    obtain ⟨m', hm', hrest⟩ := hreceive m.pendingCreatePopup
    exact ⟨m', by rw [step, getCustomWebContentsView, show m.receive _ = _ from hm', map_some],
      hrest⟩
  | webContentsCreated targetUrl opener newContents =>
    obtain ⟨m', hm', hrest⟩ := hreceive none
    exact ⟨m', by simp [step, webContentsCreated, hm'], hrest⟩
  | addWebContents newContents =>
    obtain ⟨m', hm', hrest⟩ := hreceive m.pendingCreatePopup
    exact ⟨m', by simp only [step, addWebContents]; rw [show m.receive _ = _ from hm'], hrest⟩

namespace Attended

open PopupManager

variable {alloyOpener} {w w' : PopupWorld δ} {p q : PendingPopup δ} {c : PopupCaller} {call : PopupCall}

section

variable (h : Attended alloyOpener w)
include h

/-- Popups are dropped, and nothing is handed out. -/
lemma mono (hsubperm : w'.callers.Subperm (w'.manager.pendingPopupList.map PendingPopup.caller))
    (hlist : ∀ p ∈ w'.manager.pendingPopupList, p ∈ w.manager.pendingPopupList)
    (hnext : w'.manager.nextNumber = w.manager.nextNumber) {reports : List (PopupReport δ)}
    (hlog : w'.manager.log = w.manager.log ++ reports)
    (hreports : ∀ report ∈ reports, ∀ call p, report ≠ .handedOut call p) :
    Attended alloyOpener w' where
  subperm := hsubperm
  style p hp := h.style p (hlist p hp)
  contents p hp := h.contents p (hlist p hp)
  unique p hp q hq := h.unique p (hlist p hp) q (hlist q hq)
  awaited call p hp := h.awaited call p (mem_log_of_mem (hlog ▸ hp) hreports)
  added opener targetUrl := by
    rw [handedOutTo_of_log hlog hreports]
    exact h.added opener targetUrl
  added_lt opener targetUrl n hn := by
    rw [handedOutTo_of_log hlog hreports] at hn
    obtain ⟨hlt, hall⟩ := h.added_lt opener targetUrl n hn
    exact ⟨hnext ▸ hlt, fun q hq => hall q (hlist q hq)⟩

lemma exists_caller (hc : c ∈ w.callers) : ∃ p ∈ w.manager.pendingPopupList, p.caller = c :=
  mem_map.mp (h.subperm.subset hc)

/-- **The next call of a caller finds a popup that is as the caller knows it.** -/
lemma find (ht : w.manager.Tracked) (hc : c ∈ w.callers) (hmakes : c.Makes alloyOpener call) :
    ∃ p, w.manager.pendingPopupList.find? call.finds = some p ∧ p.caller = c ∧ p.Awaits call := by
  obtain ⟨q, hq, rfl⟩ := h.exists_caller hc
  have hchrome : ∀ p ∈ w.manager.pendingPopupList, p.caller.Makes alloyOpener call →
      call.method = .addWebContents → p.alloyStyle = false := by
    intro p hp hmakes hmethod
    cases call with
    | addWebContents newContents =>
      exact Bool.eq_false_iff.mpr fun halloy => (ht.inProgress p hp).2 halloy hmakes.1
    | getCustomWebContentsView => cases hmethod
    | webContentsCreated => cases hmethod
  have hfinds := (awaits_of_makes (h.style q hq) hmakes (hchrome q hq hmakes)).1
  obtain ⟨p, hfind⟩ := isSome_iff_exists.mp (find?_isSome.mpr ⟨q, hq, hfinds⟩)
  have hp := mem_of_find?_eq_some hfind
  have hmakes' := makes_of_finds (h.style p hp) hmakes (find?_some hfind)
  refine ⟨p, hfind, ?_, awaits_of_makes (h.style p hp) hmakes' (hchrome p hp hmakes')⟩
  -- before `WebContentsCreated` there is no `WebContents`, and behind it no two popups have the same
  have hsame : p.step = q.step → p.step ≠ .webContentsCreated →
      p.openerGlobalId = q.openerGlobalId → p.targetUrl = q.targetUrl → p.caller = q.caller := by
    intro hstep hearly hopener hurl
    have hstyle : p.alloyStyle = q.alloyStyle := by rw [h.style p hp, h.style q hq, hopener]
    have hcontents : p.newContents = q.newContents := by
      rw [h.contents p hp hearly, h.contents q hq (hstep ▸ hearly)]
    rw [PendingPopup.caller, hstep, hstyle, hopener, hurl, hcontents, PendingPopup.caller]
  cases call with
  | getCustomWebContentsView targetUrl opener =>
    obtain ⟨-, hstep, hopener, hurl⟩ := hmakes
    obtain ⟨-, hstep', hopener', hurl'⟩ := hmakes'
    refine hsame (hstep'.trans hstep.symm) (fun hlate => ?_) (hopener'.trans hopener.symm)
      (hurl'.trans hurl.symm)
    exact nomatch hlate.symm.trans hstep'
  | webContentsCreated targetUrl opener newContents =>
    obtain ⟨hstep, hopener, hurl⟩ := hmakes
    obtain ⟨hstep', hopener', hurl'⟩ := hmakes'
    refine hsame (hstep'.trans hstep.symm) (fun hlate => ?_) (hopener'.trans hopener.symm)
      (hurl'.trans hurl.symm)
    have hlate := hlate.symm.trans hstep'
    split at hlate <;> cases hlate
  | addWebContents newContents => rw [h.unique p hp q hq newContents hmakes'.2 hmakes.2]

lemma created (hnumber : p.number = w.manager.nextNumber) (hcontents : p.newContents = none)
    (hstyle : p.alloyStyle = alloyOpener p.openerGlobalId)
    (hcallers : w'.callers = w.callers ++ [p.caller])
    (hlist : w'.manager.pendingPopupList = w.manager.pendingPopupList ++ [p])
    (hnext : w'.manager.nextNumber = w.manager.nextNumber + 1)
    (hlog : w'.manager.log = w.manager.log ++ [.created p]) : Attended alloyOpener w' := by
  have hreports : ∀ report ∈ [PopupReport.created p], ∀ call q, report ≠ .handedOut call q := by
    intro report hreport call q heq
    exact nomatch heq.symm.trans (mem_singleton.mp hreport)
  have hmem : ∀ q ∈ w'.manager.pendingPopupList, q ∈ w.manager.pendingPopupList ∨ q = p := by
    intro q hq
    rw [hlist, mem_append, mem_singleton] at hq
    exact hq
  refine ⟨?_, fun q hq => ?_, fun q hq hstep => ?_, fun q hq r hr n hn hn' => ?_,
    fun call q hq => h.awaited call q (mem_log_of_mem (hlog ▸ hq) hreports), fun opener targetUrl => ?_,
    fun opener targetUrl n hn => ?_⟩
  · rw [hcallers, hlist, map_append]
    exact h.subperm.append (List.Perm.refl _).subperm
  · rcases hmem q hq with hq | rfl
    · exact h.style q hq
    · exact hstyle
  · rcases hmem q hq with hq | rfl
    · exact h.contents q hq hstep
    · exact hcontents
  · rcases hmem q hq with hq | rfl
    · rcases hmem r hr with hr | rfl
      · exact h.unique q hq r hr n hn hn'
      · exact nomatch hcontents.symm.trans hn'
    · exact nomatch hcontents.symm.trans hn
  · rw [handedOutTo_of_log hlog hreports]
    exact h.added opener targetUrl
  · rw [handedOutTo_of_log hlog hreports] at hn
    obtain ⟨hlt, hall⟩ := h.added_lt opener targetUrl n hn
    refine ⟨hnext ▸ Nat.lt_succ_of_lt hlt, fun q hq hfrom => ?_⟩
    rcases hmem q hq with hq | rfl
    · exact hall q hq hfrom
    · exact hnumber ▸ hlt

section

variable (hp : p ∈ w.manager.pendingPopupList) (hawaits : p.Awaits call)
  (horderly : (PopupEvent.call c call : PopupEvent δ).Orderly alloyOpener w)
include hp hawaits horderly

/-- Only `WebContentsCreated` gives a popup that is not complete a `WebContents`, and a new one. -/
lemma fresh_update (hstep : (call.update p).step ≠ .creationComplete) {n : Nat}
    (hn : (call.update p).newContents = some n) :
    (call.update p).step = .webContentsCreated ∧
      ∀ q ∈ w.manager.pendingPopupList, q.newContents ≠ some n := by
  cases call with
  | getCustomWebContentsView targetUrl opener =>
    have hnone := h.contents p hp (by rw [step_of_finds hawaits.1]; exact nofun)
    exact nomatch hn.symm.trans hnone
  | webContentsCreated targetUrl opener newContents =>
    cases halloy : p.alloyStyle with
    | true => simp [PopupCall.update, halloy] at hstep
    | false =>
      simp only [PopupCall.update, halloy, Bool.false_eq_true, if_false, some.injEq] at hn ⊢
      exact ⟨trivial, hn ▸ horderly⟩
  | addWebContents newContents => exact absurd rfl hstep

omit h in
/-- `AddWebContents` gets the oldest popup of its kind. -/
lemma lt_of_added {opener : GlobalRenderFrameHostId} {targetUrl : String}
    (hadd : call.method = .addWebContents ∧ isFrom opener targetUrl p = true)
    (hq : q ∈ w.manager.pendingPopupList) (hne : q.number ≠ p.number)
    (hq' : isFrom opener targetUrl q = true) : p.number < q.number := by
  obtain ⟨hmethod, hkind⟩ := hadd
  simp only [isFrom, Bool.and_eq_true, decide_eq_true_iff] at hkind
  obtain ⟨rfl, rfl⟩ := hkind
  cases call with
  | getCustomWebContentsView => cases hmethod
  | webContentsCreated => cases hmethod
  | addWebContents newContents =>
    have hcontents := of_decide_eq_true (Bool.and_eq_true_iff.mp hawaits.1).2
    exact Nat.lt_of_le_of_ne (horderly p hp hcontents q hq hq') (Ne.symm hne)

end

/-- Behind a call the caller and its popup have gone on together. -/
lemma subperm_received (hfind : w.manager.pendingPopupList.find? call.finds = some p) :
    (w.callers.erase p.caller ++
      [p.caller.after call].filter fun c => c.step ≠ .creationComplete).Subperm
        ((w.manager.pendingPopupList.eraseP call.finds ++
          [call.update p].filter fun q => q.step ≠ .creationComplete).map PendingPopup.caller) := by
  rw [map_append]
  refine List.Subperm.append ?_ (List.Perm.subperm (.of_eq ?_))
  · obtain ⟨-, l₁, l₂, -, hlist, herase⟩ := FirstMatch.exists_of_find? hfind
    have hperm : (w.manager.pendingPopupList.map PendingPopup.caller).Perm
        (p.caller :: (w.manager.pendingPopupList.eraseP call.finds).map PendingPopup.caller) := by
      rw [herase, hlist, map_append, map_cons, map_append]
      exact perm_middle
    have herased := (hperm.erase p.caller).subperm
    rw [erase_cons_head] at herased
    exact (h.subperm.erase p.caller).trans herased
  · rw [← caller_update]
    by_cases hstep : (call.update p).step = .creationComplete
    · simp [PendingPopup.caller, hstep]
    · simp [PendingPopup.caller, hstep]

lemma received (ht : w.manager.Tracked)
    (hfind : w.manager.pendingPopupList.find? call.finds = some p) (hawaits : p.Awaits call)
    (horderly : (PopupEvent.call c call : PopupEvent δ).Orderly alloyOpener w)
    (hcallers : w'.callers = w.callers.erase p.caller ++
      [p.caller.after call].filter fun c => c.step ≠ .creationComplete)
    (hlist : w'.manager.pendingPopupList = w.manager.pendingPopupList.eraseP call.finds ++
      [call.update p].filter fun q => q.step ≠ .creationComplete)
    (hnext : w'.manager.nextNumber = w.manager.nextNumber)
    (hlog : w'.manager.log = w.manager.log ++ [.handedOut call p]) : Attended alloyOpener w' := by
  have hp : p ∈ w.manager.pendingPopupList := mem_of_find?_eq_some hfind
  have hmem := fun q (hq : q ∈ w'.manager.pendingPopupList) => ht.mem_received hfind hlist hq
  have hfrom : ∀ opener targetUrl, isFrom opener targetUrl (call.update p) =
      isFrom opener targetUrl p := fun opener targetUrl => by
    rw [isFrom, openerGlobalId_update, targetUrl_update, isFrom]
  refine ⟨?_, fun q hq => ?_, fun q hq hstep => ?_, fun q hq r hr n hn hn' => ?_,
    fun call' q hq => ?_, fun opener targetUrl => ?_, fun opener targetUrl n hn => ?_⟩
  · rw [hcallers, hlist]
    exact h.subperm_received hfind
  · rcases hmem q hq with ⟨hq, -⟩ | ⟨rfl, -⟩
    · exact h.style q hq
    · rw [alloyStyle_update, openerGlobalId_update]
      exact h.style p hp
  · rcases hmem q hq with ⟨hq, -⟩ | ⟨rfl, hcomplete⟩
    · exact h.contents q hq hstep
    · refine eq_none_iff_forall_ne_some.mpr fun n hn => hstep ?_
      exact (h.fresh_update hp hawaits horderly hcomplete hn).1
  · rcases hmem q hq with ⟨hq, -⟩ | ⟨rfl, hcomplete⟩
    · rcases hmem r hr with ⟨hr, -⟩ | ⟨rfl, hcomplete⟩
      · exact h.unique q hq r hr n hn hn'
      · exact absurd hn ((h.fresh_update hp hawaits horderly hcomplete hn').2 q hq)
    · rcases hmem r hr with ⟨hr, -⟩ | ⟨rfl, -⟩
      · exact absurd hn' ((h.fresh_update hp hawaits horderly hcomplete hn).2 r hr)
      · rfl
  · rw [hlog, mem_append] at hq
    rcases hq with hq | hq
    · exact h.awaited call' q hq
    · obtain ⟨rfl, rfl⟩ := PopupReport.handedOut.inj (mem_singleton.mp hq)
      exact ⟨hawaits, h.style q hp⟩
  · rw [handedOutTo_received hlog]
    split
    · rename_i hadd
      refine pairwise_append.mpr ⟨h.added opener targetUrl, pairwise_singleton _ _, ?_⟩
      intro n hn n' hn'
      exact mem_singleton.mp hn' ▸ (h.added_lt opener targetUrl n hn).2 p hp hadd.2
    · rw [append_nil]
      exact h.added opener targetUrl
  · rw [handedOutTo_received hlog, mem_append] at hn
    rcases hn with hn | hn
    · obtain ⟨hlt, hall⟩ := h.added_lt opener targetUrl n hn
      refine ⟨hnext ▸ hlt, fun q hq hq' => ?_⟩
      rcases hmem q hq with ⟨hq, -⟩ | ⟨rfl, -⟩
      · exact hall q hq hq'
      · rw [number_update]
        exact hall p hp ((hfrom opener targetUrl).symm.trans hq')
    · split at hn
      · rename_i hadd
        obtain rfl := mem_singleton.mp hn
        refine ⟨hnext ▸ ht.lt p hp, fun q hq hq' => ?_⟩
        rcases hmem q hq with ⟨hq, hne⟩ | ⟨rfl, hcomplete⟩
        · exact lt_of_added hp hawaits horderly hadd hq hne hq'
        · cases call with
          | getCustomWebContentsView => cases hadd.1
          | webContentsCreated => cases hadd.1
          | addWebContents newContents => exact absurd rfl hcomplete
      · cases hn

lemma canCreateWindow {call : CanCreateWindowCall δ}
    (hstyle : call.alloyStyle = alloyOpener call.opener)
    (hstep : w.step alloyOpener (.canCreateWindow call) = some w') : Attended alloyOpener w' := by
  obtain rfl := some.inj hstep
  unfold PopupManager.canCreateWindow
  by_cases hallow : call.mayNavigate = true ∧ call.onBeforePopup.getD false = false
  · simp only [hallow.1, hallow.2, Bool.not_true, Bool.false_eq_true, if_false, Bool.not_false,
      if_true]
    exact h.created rfl rfl hstyle rfl rfl rfl rfl
  · have hnot : call.mayNavigate = true → call.onBeforePopup.getD false = true := by simpa using hallow
    cases hmay : call.mayNavigate with
    | false => simpa [hmay] using h
    | true => simpa [hmay, hnot hmay] using h

lemma createWindowResult (ht : w.manager.Tracked) {success : Bool}
    (horderly : (PopupEvent.createWindowResult c success : PopupEvent δ).Orderly alloyOpener w)
    (hstep : w.step alloyOpener (.createWindowResult c success) = some w') :
    Attended alloyOpener w' := by
  obtain rfl := some.inj hstep
  cases success with
  | true => exact h
  | false =>
    have hkeep := (erase_subperm c w.callers).trans h.subperm
    cases hpending : w.manager.pendingCreatePopup with
    | none =>
      simp only [PopupManager.createWindowResult, hpending]
      exact h.mono hkeep (fun _ hp => hp) rfl (append_nil _).symm nofun
    | some n =>
      simp only [PopupManager.createWindowResult, hpending]
      refine h.mono ?_ (fun _ hp => (mem_filter.mp hp).1) rfl rfl fun _ => ne_handedOut_of_mem
      by_cases hexists : ∃ p ∈ w.manager.pendingPopupList, p.number = n
      · -- the popup that is dropped is as the caller knows it
        obtain ⟨p, hp, rfl⟩ := hexists
        have hkept := h.subperm.erase c
        obtain rfl := horderly rfl p hp hpending
        refine hkept.trans (List.Perm.subperm ?_)
        have hperm := (ht.perm_cons_filter hp).map PendingPopup.caller
        have herased := hperm.erase p.caller
        rw [map_cons, erase_cons_head] at herased
        exact herased
      · rw [not_exists] at hexists
        rw [PopupManager.eraseIf, filter_eq_self.mpr fun p hp => ?_]
        · exact hkeep
        · simpa using fun heq => hexists p ⟨hp, heq⟩

lemma renderProcessHostDestroyed {renderProcessId : Int}
    (hstep : w.step alloyOpener (.renderProcessHostDestroyed renderProcessId) = some w') :
    Attended alloyOpener w' := by
  obtain rfl := Option.some.inj hstep
  refine h.mono ?_ (fun _ hp => (List.mem_filter.mp hp).1) rfl rfl fun _ => ne_handedOut_of_mem
  have hfilter := h.subperm.filter fun c => c.openerGlobalId.childId ≠ renderProcessId
  rw [List.filter_map] at hfilter
  refine hfilter.trans (List.Perm.subperm (.of_eq (congrArg _ (List.filter_congr fun p _ => ?_))))
  exact decide_not

/-- **A step that is orderly leaves every caller its popup.** -/
lemma step (ht : w.manager.Tracked) {e : PopupEvent δ}
    (horderly : e.Orderly alloyOpener w) (hstep : w.step alloyOpener e = some w') :
    Attended alloyOpener w' := by
  cases e with
  | canCreateWindow call => exact h.canCreateWindow horderly hstep
  | createWindowResult c success => exact h.createWindowResult ht horderly hstep
  | renderProcessHostDestroyed renderProcessId => exact h.renderProcessHostDestroyed hstep
  | call c call =>
    simp only [PopupWorld.step] at hstep
    split at hstep
    · rename_i hnext
      obtain ⟨p, hfind, rfl, hawaits⟩ := h.find ht hnext.1 hnext.2
      obtain ⟨m', hm', hnumber, hlist, hlog⟩ := step_of_find hfind
      rw [hm', map_some, some.injEq] at hstep
      subst hstep
      exact h.received ht hfind hawaits horderly rfl hlist hnumber hlog
    · exact some.inj hstep ▸ h

end

lemma new : Attended alloyOpener ({} : PopupWorld δ) where
  subperm := nil_subperm
  style _ hp := absurd hp not_mem_nil
  contents _ hp := absurd hp not_mem_nil
  unique _ hp := absurd hp not_mem_nil
  awaited _ _ hp := absurd hp not_mem_nil
  added _ _ := List.Pairwise.nil
  added_lt _ _ _ hn := absurd hn not_mem_nil

/-- The order of the popups of both styles is that of the popups with the style of the opener. -/
lemma inOrder (h : Attended alloyOpener w) (hpopups : PopupsFinishOnce w.manager)
    (method : PopupMethod) (opener : GlobalRenderFrameHostId) (targetUrl : String) :
    (w.manager.handedOutTo method (isFrom opener targetUrl)).Pairwise (· < ·) := by
  by_cases hmethod : method = .addWebContents
  · exact hmethod ▸ h.added opener targetUrl
  · have hsame : w.manager.handedOutTo method (isFrom opener targetUrl) =
        w.manager.handedOutTo method (isKind (alloyOpener opener) opener targetUrl) := by
      refine filterMap_congr fun report hreport => ?_
      cases report with
      | created => rfl
      | aborted => rfl
      | handedOut call p =>
        have hstyle := (h.awaited call p hreport).2
        by_cases hopener : p.openerGlobalId = opener
        · simp [isFrom, isKind, ← hopener, hstyle]
        · simp [isFrom, isKind, hopener]
    rw [hsame]
    exact hpopups.inOrder method (alloyOpener opener) opener targetUrl hmethod

end Attended

/-! ### Every run -/

/-- A run of calls, and with the callers a run of the manager alone. -/
def PopupManager.Reached (m : PopupManager δ) : Prop :=
  ∃ ops : List (PopupOp δ), ops.foldlM PopupManager.step {} = some m

lemma PopupManager.Reached.step {m m' : PopupManager δ} (h : m.Reached) (op : PopupOp δ)
    (hstep : m.step op = some m') : m'.Reached := by
  obtain ⟨ops, hops⟩ := h
  exact ⟨ops ++ [op], by rw [foldlM_append, hops]; simpa using hstep⟩

lemma reached_of_step {alloyOpener : GlobalRenderFrameHostId → Bool} {w w' : PopupWorld δ}
    {e : PopupEvent δ} (h : w.manager.Reached) (hstep : w.step alloyOpener e = some w') :
    w'.manager.Reached := by
  cases e with
  | canCreateWindow call =>
    obtain rfl := some.inj hstep
    exact h.step (.canCreateWindow call) rfl
  | createWindowResult c success =>
    obtain rfl := some.inj hstep
    exact h.step (.createWindowResult c.openerGlobalId success) rfl
  | renderProcessHostDestroyed renderProcessId =>
    obtain rfl := some.inj hstep
    exact h.step (.renderProcessHostDestroyed renderProcessId) rfl
  | call c call =>
    simp only [PopupWorld.step] at hstep
    split at hstep
    · obtain ⟨m', hm', rfl⟩ := map_eq_some_iff.mp hstep
      exact h.step _ hm'
    · exact some.inj hstep ▸ h

/-- **Pending popups are matched and finished once**, in every state of every run of orderly steps.

**Proof sketch.** The callers are, one for one, among the pending popups as callers see them. The
first popup that a call finds looks the same to the caller as its own, and both go on together. -/
theorem popups_matched {alloyOpener : GlobalRenderFrameHostId → Bool} {events : List (PopupEvent δ)}
    (h : Along (PopupWorld.step alloyOpener) (fun w e => e.Orderly alloyOpener w) {} events) :
    Always (PopupWorld.step alloyOpener) (PopupsMatched alloyOpener) {} events := by
  intro n w hw
  obtain ⟨ha, ops, hops⟩ := Along.always
    (I := fun w => Attended alloyOpener w ∧ w.manager.Reached)
    (fun w e w' hI he hstep =>
      have ht := hI.2.elim fun _ hops => tracked_of_run hops
      ⟨hI.1.step ht he hstep, reached_of_step hI.2 hstep⟩)
    ⟨Attended.new, [], rfl⟩ h n w hw
  have hpopups := popupsFinishOnce_of_run hops
  refine ⟨fun c hc call hmakes => ?_, fun call p hp => (ha.awaited call p hp).1,
    hpopups.sameContents, hpopups.lives, ha.inOrder hpopups⟩
  obtain ⟨p, hfind, hcaller, hawaits⟩ := ha.find (tracked_of_run hops) hc hmakes
  obtain ⟨m', hm', -, -, hlog⟩ := PopupManager.step_of_find hfind
  exact ⟨p, m', hm', hlog, hawaits, hcaller⟩

/-- An allowed `CanCreateWindow` with a handler. -/
def allowedPopup (opener : GlobalRenderFrameHostId) (alloyStyle : Bool) : PopupEvent Unit :=
  .canCreateWindow
    { opener, filteredUrl := "about:blank", mayNavigate := true, pictureInPicture := false,
      onBeforePopup := some false, alloyStyle, creation := () }

def callerOf (opener : GlobalRenderFrameHostId) (alloyStyle : Bool) (step : PopupStep)
    (newContents : Option Nat := none) : PopupCaller :=
  { step, alloyStyle, openerGlobalId := opener, targetUrl := "about:blank", newContents }

/-- The frames of the renderer process 3 are in browsers of Alloy style. -/
def inProcess3 (opener : GlobalRenderFrameHostId) : Bool := opener.childId = 3

/-- Two popups of one opener of Alloy style, with a popup of an opener of Chrome style in between. -/
def threePopups : List (PopupEvent Unit) :=
  [allowedPopup ⟨3, 1⟩ true, allowedPopup ⟨3, 1⟩ true, allowedPopup ⟨4, 1⟩ false,
    .call (callerOf ⟨3, 1⟩ true .canCreateWindow) (.getCustomWebContentsView "about:blank" ⟨3, 1⟩),
    .call (callerOf ⟨4, 1⟩ false .canCreateWindow) (.webContentsCreated "about:blank" ⟨4, 1⟩ 9),
    .call (callerOf ⟨3, 1⟩ true .getCustomWebContentsView)
      (.webContentsCreated "about:blank" ⟨3, 1⟩ 7),
    .call (callerOf ⟨4, 1⟩ false .webContentsCreated (some 9)) (.addWebContents 9),
    .renderProcessHostDestroyed 3]

theorem popups_matched_threePopups :
    Always (PopupWorld.step inProcess3) (PopupsMatched inProcess3) {} threePopups ∧
    (threePopups.foldlM (PopupWorld.step inProcess3) {}).map (fun w =>
      (w.callers, w.manager.handedOutTo .webContentsCreated fun _ => true, w.manager.log.getLast?)) =
        some ([], [2, 0], some (.aborted 1)) :=
  ⟨popups_matched (by decide +kernel), by decide +kernel⟩

/-- **A popup of Chrome style from an opener of Alloy style** is handed out to `GetCustomWebContentsView`,
which is not a step of its style. Behind it `WebContentsCreated` does not find it. -/
theorem chromePopup_of_alloyOpener :
    ¬ Always (PopupWorld.step inProcess3) (PopupsMatched inProcess3) {}
      [allowedPopup ⟨3, 1⟩ false, .call (callerOf ⟨3, 1⟩ false .canCreateWindow)
          (.getCustomWebContentsView "about:blank" ⟨3, 1⟩)] ∧
    [allowedPopup ⟨3, 1⟩ false,
      .call (callerOf ⟨3, 1⟩ false .canCreateWindow) (.getCustomWebContentsView "about:blank" ⟨3, 1⟩),
      .call (callerOf ⟨3, 1⟩ false .getCustomWebContentsView)
        (.webContentsCreated "about:blank" ⟨3, 1⟩ 7)].foldlM (PopupWorld.step inProcess3) {} =
      none := by
  refine ⟨fun h => ?_, by decide⟩
  have hawaits := (h 2 _ rfl).awaited (.getCustomWebContentsView "about:blank" ⟨3, 1⟩)
    { number := 0, abortedCallback := true, step := .canCreateWindow, alloyStyle := false,
      openerGlobalId := ⟨3, 1⟩, targetUrl := "about:blank", creation := (),
      useDefaultBrowserCreation := false } (by decide)
  exact absurd hawaits (by decide)

end CefCore.Browser
