import CefCore.Browser.PendingPopupLives

/-!
# The order of pending popups

Calls for several popups come in any order, and popups may have the same opener and URL. The popups that
a method has got, and those that still may come to it, are in a line: a step moves the first popup from
one place of the line to the next one.

## Main results

* `popupsFinishOnce_of_run`: each popup ends once, in the order of the line.

## Implementation notes

* `GetCustomWebContentsView` also takes a popup of Chrome style, for which it is not a step. Nothing is
  said about the life of a popup that has been taken so.
-/

namespace CefCore.Browser

open List PopupCall

variable {δ : Type}

/-- The popups of a style with an opener and a URL. -/
def isKind (alloyStyle : Bool) (opener : Frame.GlobalRenderFrameHostId) (targetUrl : String)
    (p : PendingPopup δ) : Bool :=
  p.alloyStyle = alloyStyle && p.openerGlobalId = opener && p.targetUrl = targetUrl

namespace PopupManager

variable (m : PopupManager δ)

def handedOutTo (method : PopupMethod) (isKind : PendingPopup δ → Bool) : List Nat :=
  m.log.filterMap fun report => match report with
    | .handedOut call p => if call.method = method ∧ isKind p then some p.number else none
    | _ => none

variable {m m' : PopupManager δ}

/-- Nothing is handed out with other reports. -/
lemma handedOutTo_of_log {reports : List (PopupReport δ)} (hlog : m'.log = m.log ++ reports)
    (hreports : ∀ report ∈ reports, ∀ call p, report ≠ .handedOut call p) {method : PopupMethod}
    {isKind : PendingPopup δ → Bool} : m'.handedOutTo method isKind = m.handedOutTo method isKind := by
  rw [handedOutTo, hlog, filterMap_append, handedOutTo, append_right_eq_self, filterMap_eq_nil_iff]
  intro report hreport
  cases report with
  | handedOut call p => exact absurd rfl (hreports _ hreport call p)
  | created => rfl
  | aborted => rfl

def waiting (m : PopupManager δ) (isKind : PendingPopup δ → Bool) (step : PopupStep) : List Nat :=
  (m.pendingPopupList.filter fun p => isKind p && p.step = step).map PendingPopup.number

def stepsBefore (alloyStyle : Bool) : PopupMethod → List PopupStep
  | .getCustomWebContentsView => [.canCreateWindow]
  | .webContentsCreated =>
    if alloyStyle then [.getCustomWebContentsView, .canCreateWindow] else [.canCreateWindow]
  | .addWebContents => []

def line (m : PopupManager δ) (alloyStyle : Bool) (opener : Frame.GlobalRenderFrameHostId)
    (targetUrl : String) (method : PopupMethod) : List Nat :=
  m.handedOutTo method (isKind alloyStyle opener targetUrl) ++
    (stepsBefore alloyStyle method).flatMap (m.waiting (isKind alloyStyle opener targetUrl))

structure InLine (m : PopupManager δ) : Prop where
  handedOut_lt : ∀ call p, .handedOut call p ∈ m.log → p.number < m.nextNumber
  pairwise : ∀ alloyStyle opener targetUrl method, method ≠ .addWebContents →
    (m.line alloyStyle opener targetUrl method).Pairwise (· < ·)

section Line

variable {alloyStyle : Bool} {opener : Frame.GlobalRenderFrameHostId} {targetUrl : String}
  {method : PopupMethod}

lemma line_created {popup : PendingPopup δ} (hstep : popup.step = .canCreateWindow)
    (hlist : m'.pendingPopupList = m.pendingPopupList ++ [popup])
    (hlog : m'.log = m.log ++ [.created popup]) (hmethod : method ≠ .addWebContents) :
    m'.line alloyStyle opener targetUrl method = m.line alloyStyle opener targetUrl method ++
      if isKind alloyStyle opener targetUrl popup then [popup.number] else [] := by
  have hhanded : ∀ kind, m'.handedOutTo method kind = m.handedOutTo method kind := fun kind => by
    simp [handedOutTo, hlog]
  have hwaiting : ∀ step, m'.waiting (isKind alloyStyle opener targetUrl) step =
      m.waiting (isKind alloyStyle opener targetUrl) step ++
        if isKind alloyStyle opener targetUrl popup ∧ step = .canCreateWindow then [popup.number]
        else [] := by
    intro step
    rw [waiting, hlist, filter_append, map_append, waiting]
    congr 1
    by_cases hkind : isKind alloyStyle opener targetUrl popup = true
    · by_cases hs : step = .canCreateWindow
      · simp [hkind, hs, hstep]
      · simp [hkind, hs, hstep, Ne.symm hs]
    · simp [hkind]
  cases method with
  | addWebContents => exact absurd rfl hmethod
  | getCustomWebContentsView => simp [line, hhanded, stepsBefore, hwaiting]
  | webContentsCreated => cases alloyStyle <;> simp [line, hhanded, stepsBefore, hwaiting]

variable {call : PopupCall} {p : PendingPopup δ} {step : PopupStep}

lemma isKind_update : isKind alloyStyle opener targetUrl (call.update p) =
    isKind alloyStyle opener targetUrl p := by
  rw [isKind, alloyStyle_update, openerGlobalId_update, targetUrl_update, isKind]

lemma finds_of_isKind (hmethod : call.method ≠ .addWebContents) (hfinds : call.finds p = true)
    (hp : isKind alloyStyle opener targetUrl p = true) {q : PendingPopup δ}
    (hq : isKind alloyStyle opener targetUrl q = true) (hstep : q.step = p.step) :
    call.finds q = true := by
  simp only [isKind, Bool.and_eq_true, decide_eq_true_iff] at hp hq
  obtain ⟨⟨hstyle, hopener⟩, hurl⟩ := hp
  obtain ⟨⟨hstyle', hopener'⟩, hurl'⟩ := hq
  have heq : call.finds q = call.finds p := by
    cases call with
    | addWebContents => exact absurd rfl hmethod
    | getCustomWebContentsView =>
      simp [PopupCall.finds, PendingPopup.isAt, hstep, hstyle, hstyle', hopener, hopener', hurl, hurl']
    | webContentsCreated =>
      simp [PopupCall.finds, PendingPopup.isAt, hstep, hstyle, hstyle', hopener, hopener', hurl, hurl']
  exact heq.trans hfinds

variable (m call alloyStyle opener targetUrl step) in
def left : List Nat :=
  ((m.pendingPopupList.eraseP call.finds).filter fun q =>
    isKind alloyStyle opener targetUrl q && q.step = step).map PendingPopup.number

variable (step) in
lemma left_of_ne (hfind : m.pendingPopupList.find? call.finds = some p)
    (h : isKind alloyStyle opener targetUrl p = true → p.step ≠ step) :
    m.left alloyStyle opener targetUrl call step =
      m.waiting (isKind alloyStyle opener targetUrl) step := by
  rw [left, FirstMatch.filter_eraseP_of_find? hfind, waiting]
  by_contra hne
  rw [Bool.not_eq_false, Bool.and_eq_true, decide_eq_true_iff] at hne
  exact h hne.1 hne.2

lemma waiting_eq_cons (hfind : m.pendingPopupList.find? call.finds = some p)
    (hmethod : call.method ≠ .addWebContents) (hp : isKind alloyStyle opener targetUrl p = true)
    (hstep : p.step = step) : m.waiting (isKind alloyStyle opener targetUrl) step =
      p.number :: m.left alloyStyle opener targetUrl call step := by
  subst hstep
  rw [waiting, FirstMatch.filter_eq_cons_of_find? hfind, map_cons, left]
  · rw [hp, decide_eq_true rfl, Bool.and_true]
  · intro q hq
    rw [Bool.and_eq_true, decide_eq_true_iff] at hq
    exact finds_of_isKind hmethod (find?_some hfind) hp hq.1 hq.2

lemma handedOutTo_received (hlog : m'.log = m.log ++ [.handedOut call p])
    (kind : PendingPopup δ → Bool) : m'.handedOutTo method kind = m.handedOutTo method kind ++
      if call.method = method ∧ kind p = true then [p.number] else [] := by
  rw [handedOutTo, hlog, filterMap_append, handedOutTo]
  congr 1
  by_cases h : call.method = method ∧ kind p = true
  · simp [h]
  · simp only [filterMap_cons, if_neg h, filterMap_nil]

lemma waiting_received (hlist : m'.pendingPopupList = m.pendingPopupList.eraseP call.finds ++
      [call.update p].filter fun q => q.step ≠ .creationComplete) (hstep : step ≠ .creationComplete) :
    m'.waiting (isKind alloyStyle opener targetUrl) step =
      m.left alloyStyle opener targetUrl call step ++
        if isKind alloyStyle opener targetUrl p = true ∧ (call.update p).step = step then [p.number]
        else [] := by
  rw [waiting, hlist, filter_append, map_append, left, filter_filter]
  congr 1
  by_cases h : isKind alloyStyle opener targetUrl p = true ∧ (call.update p).step = step
  · rw [if_pos h]
    simp [isKind_update, h.1, h.2, hstep]
  · rw [if_neg h]
    simp only [filter_cons, isKind_update, filter_nil]
    rw [if_neg, map_nil]
    simp only [Bool.and_eq_true, decide_eq_true_iff]
    exact fun hall => h hall.1

lemma line_received (hfind : m.pendingPopupList.find? call.finds = some p)
    (hlist : m'.pendingPopupList = m.pendingPopupList.eraseP call.finds ++
      [call.update p].filter fun q => q.step ≠ .creationComplete)
    (hlog : m'.log = m.log ++ [.handedOut call p]) (hmethod : method ≠ .addWebContents) :
    (m'.line alloyStyle opener targetUrl method).Sublist
      (m.line alloyStyle opener targetUrl method) := by
  have hhanded : m'.handedOutTo method (isKind alloyStyle opener targetUrl) = _ :=
    handedOutTo_received hlog (isKind alloyStyle opener targetUrl)
  have hcan : m'.waiting (isKind alloyStyle opener targetUrl) .canCreateWindow = _ :=
    waiting_received hlist (by rintro ⟨⟩)
  have hget : m'.waiting (isKind alloyStyle opener targetUrl) .getCustomWebContentsView = _ :=
    waiting_received hlist (by rintro ⟨⟩)
  by_cases hkind : isKind alloyStyle opener targetUrl p = true
  · have hstyle : p.alloyStyle = alloyStyle := by
      simp only [isKind, Bool.and_eq_true, decide_eq_true_iff] at hkind
      exact hkind.1.1
    have hstep := step_of_finds (find?_some hfind)
    rw [hstyle] at hstep
    cases call with
    | getCustomWebContentsView url from' =>
      have hstep : p.step = .canCreateWindow := hstep
      have hcons := waiting_eq_cons hfind (by rintro ⟨⟩) hkind hstep
      rw [left_of_ne .getCustomWebContentsView hfind fun _ heq => by cases (hstep.symm.trans heq)] at hget
      simp only [hkind, PopupCall.update, true_and, if_true, reduceCtorEq, if_false,
        append_nil] at hcan hget
      cases method with
      | addWebContents => exact absurd rfl hmethod
      | getCustomWebContentsView =>
        simp [line, stepsBefore, hhanded, hcan, hcons, hkind, PopupCall.method]
      | webContentsCreated =>
        cases alloyStyle <;>
          simp [line, stepsBefore, hhanded, hcan, hget, hcons, PopupCall.method]
    | webContentsCreated url from' contents =>
      cases alloyStyle with
      | false =>
        have hstep : p.step = .canCreateWindow := hstep
        have hcons := waiting_eq_cons hfind (by rintro ⟨⟩) hkind hstep
        simp only [PopupCall.update, hstyle] at hcan
        cases method with
        | addWebContents => exact absurd rfl hmethod
        | getCustomWebContentsView =>
          simp [line, stepsBefore, hhanded, hcan, hcons, PopupCall.method]
        | webContentsCreated =>
          simp [line, stepsBefore, hhanded, hcan, hcons, hkind, PopupCall.method]
      | true =>
        have hstep : p.step = .getCustomWebContentsView := hstep
        have hcons := waiting_eq_cons hfind (by rintro ⟨⟩) hkind hstep
        rw [left_of_ne .canCreateWindow hfind fun _ heq => by cases (hstep.symm.trans heq)] at hcan
        simp only [PopupCall.update, hstyle] at hcan hget
        cases method with
        | addWebContents => exact absurd rfl hmethod
        | getCustomWebContentsView =>
          simp [line, stepsBefore, hhanded, hcan, PopupCall.method]
        | webContentsCreated =>
          simp [line, stepsBefore, hhanded, hcan, hget, hcons, hkind, PopupCall.method]
    | addWebContents contents =>
      have hstep : p.step = .webContentsCreated := hstep
      rw [left_of_ne .canCreateWindow hfind fun _ heq => by cases (hstep.symm.trans heq)] at hcan
      rw [left_of_ne .getCustomWebContentsView hfind fun _ heq => by cases (hstep.symm.trans heq)] at hget
      simp only [PopupCall.update] at hcan hget
      cases method with
      | addWebContents => exact absurd rfl hmethod
      | getCustomWebContentsView => simp [line, stepsBefore, hhanded, hcan, PopupCall.method]
      | webContentsCreated =>
        cases alloyStyle <;> simp [line, stepsBefore, hhanded, hcan, hget, PopupCall.method]
  · rw [left_of_ne _ hfind fun h => absurd h hkind] at hcan hget
    cases method with
    | addWebContents => exact absurd rfl hmethod
    | getCustomWebContentsView => simp [line, hhanded, stepsBefore, hcan, hkind]
    | webContentsCreated => cases alloyStyle <;> simp [line, hhanded, stepsBefore, hcan, hget, hkind]

lemma line_erased {condition : PendingPopup δ → Bool}
    (hlist : m'.pendingPopupList = m.pendingPopupList.filter fun p => !condition p)
    (hlog : m'.log = m.log ++
      (m.pendingPopupList.filter condition).flatMap PendingPopup.destroyed) :
    (m'.line alloyStyle opener targetUrl method).Sublist
      (m.line alloyStyle opener targetUrl method) := by
  have hwaiting : ∀ step, (m'.waiting (isKind alloyStyle opener targetUrl) step).Sublist
      (m.waiting (isKind alloyStyle opener targetUrl) step) := fun step => by
    rw [waiting, hlist, waiting]
    exact (filter_sublist.filter _).map PendingPopup.number
  have hhanded : m'.handedOutTo method (isKind alloyStyle opener targetUrl) =
      m.handedOutTo method (isKind alloyStyle opener targetUrl) :=
    handedOutTo_of_log hlog fun _ => ne_handedOut_of_mem
  rw [line, line, hhanded]
  refine (List.Sublist.refl _).append ?_
  cases method with
  | addWebContents => exact List.Sublist.refl _
  | getCustomWebContentsView => simpa [stepsBefore] using hwaiting .canCreateWindow
  | webContentsCreated =>
    cases alloyStyle with
    | false => simpa [stepsBefore] using hwaiting .canCreateWindow
    | true =>
      simpa [stepsBefore] using
        (hwaiting .getCustomWebContentsView).append (hwaiting .canCreateWindow)

lemma InLine.lt_of_mem_line (h : m.InLine) (ht : m.Tracked) {n : Nat}
    (hn : n ∈ m.line alloyStyle opener targetUrl method) : n < m.nextNumber := by
  rw [line, mem_append] at hn
  rcases hn with hn | hn
  · obtain ⟨report, hreport, heq⟩ := mem_filterMap.mp hn
    split at heq
    · rename_i call p
      split at heq
      · exact Option.some.inj heq ▸ h.handedOut_lt call p hreport
      · cases heq
    · cases heq
  · obtain ⟨step, -, hstep⟩ := mem_flatMap.mp hn
    obtain ⟨p, hp, rfl⟩ := mem_map.mp hstep
    exact ht.lt p (mem_filter.mp hp).1

end Line

lemma InLine.change (h : m.InLine) (ht : m.Tracked) (hchange : m.Change m') : m'.InLine := by
  cases hchange with
  | none => exact ⟨h.handedOut_lt, h.pairwise⟩
  | created popup hnumber hstep hcontents =>
    refine ⟨fun call p hp => ?_, fun alloyStyle opener targetUrl method hmethod => ?_⟩
    · exact Nat.lt_succ_of_lt (h.handedOut_lt call p
        ((mem_append.mp hp).resolve_right fun hmem => nomatch mem_singleton.mp hmem))
    · rw [line_created (m := m) hstep rfl rfl hmethod, pairwise_append]
      refine ⟨h.pairwise _ _ _ _ hmethod, ?_, fun a ha b hb => ?_⟩
      · split
        · exact pairwise_singleton _ _
        · exact List.Pairwise.nil
      · split at hb
        · rw [mem_singleton.mp hb, hnumber]
          exact h.lt_of_mem_line ht ha
        · exact nomatch hb
  | received pendingCreatePopup call popup hfind =>
    refine ⟨fun call' p hp => ?_, fun alloyStyle opener targetUrl method hmethod => ?_⟩
    · rcases mem_append.mp hp with hp | hp
      · exact h.handedOut_lt call' p hp
      · obtain ⟨-, rfl⟩ := PopupReport.handedOut.inj (mem_singleton.mp hp)
        exact ht.lt p (mem_of_find?_eq_some hfind)
    · exact (h.pairwise _ _ _ _ hmethod).sublist (line_received hfind rfl rfl hmethod)
  | erased pendingCreatePopup condition =>
    refine ⟨fun call p hp => ?_, fun alloyStyle opener targetUrl method hmethod => ?_⟩
    · refine h.handedOut_lt call p ((mem_append.mp hp).resolve_right fun hmem => ?_)
      obtain ⟨n, hn⟩ := eq_aborted_of_mem hmem
      exact nomatch hn
    · exact (h.pairwise _ _ _ _ hmethod).sublist (line_erased (m := m) rfl rfl)

lemma inLine_new : ({} : PopupManager δ).InLine :=
  ⟨fun _ _ h => absurd h not_mem_nil, fun alloyStyle opener targetUrl method hmethod => by
    cases method <;> cases alloyStyle <;> exact List.Pairwise.nil⟩

/-! ### The calls -/

/-- The invariant: each popup that has been handed out was found by the call, and a popup of which the
`WebContents` has been created is known by it. -/
structure Found (m : PopupManager δ) : Prop where
  finds : ∀ call p, .handedOut call p ∈ m.log → call.finds p = true
  contents : ∀ p ∈ m.pendingPopupList, p.step = .webContentsCreated →
    ∃ newContents targetUrl opener q, p.newContents = some newContents ∧
      .handedOut (.webContentsCreated targetUrl opener newContents) q ∈ m.log ∧ q.number = p.number
  sameContents : ∀ newContents p, .handedOut (.addWebContents newContents) p ∈ m.log →
    ∃ targetUrl opener q, .handedOut (.webContentsCreated targetUrl opener newContents) q ∈ m.log ∧
      q.number = p.number

lemma mem_log_of_mem {reports : List (PopupReport δ)} {call : PopupCall} {p : PendingPopup δ}
    (h : .handedOut call p ∈ m.log ++ reports)
    (hreports : ∀ report ∈ reports, ∀ call p, report ≠ .handedOut call p) :
    .handedOut call p ∈ m.log :=
  (mem_append.mp h).resolve_right fun hmem => hreports _ hmem call p rfl

lemma Found.mono (h : m.Found) {reports : List (PopupReport δ)} (hlog : m'.log = m.log ++ reports)
    (hlist : ∀ p ∈ m'.pendingPopupList, p ∈ m.pendingPopupList ∨ p.step ≠ .webContentsCreated)
    (hreports : ∀ report ∈ reports, ∀ call p, report ≠ .handedOut call p) : m'.Found := by
  have hmem : ∀ {report}, report ∈ m.log → report ∈ m'.log := fun hreport =>
    hlog ▸ mem_append_left reports hreport
  refine ⟨fun call p hp => ?_, fun p hp hstep => ?_, fun newContents p hp => ?_⟩
  · rw [hlog] at hp
    exact h.finds call p (mem_log_of_mem hp hreports)
  · obtain ⟨newContents, targetUrl, opener, q, hcontents, hq, hnumber⟩ :=
      h.contents p ((hlist p hp).resolve_right fun hne => hne hstep) hstep
    exact ⟨newContents, targetUrl, opener, q, hcontents, hmem hq, hnumber⟩
  · rw [hlog] at hp
    obtain ⟨targetUrl, opener, q, hq, hnumber⟩ :=
      h.sameContents newContents p (mem_log_of_mem hp hreports)
    exact ⟨targetUrl, opener, q, hmem hq, hnumber⟩

lemma Found.change (h : m.Found) (hchange : m.Change m') : m'.Found := by
  cases hchange with
  | none => exact ⟨h.finds, h.contents, h.sameContents⟩
  | created popup hnumber hstep hcontents =>
    refine h.mono rfl (fun p hp => ?_) fun report hreport call p heq => ?_
    · rcases mem_append.mp hp with hp | hp
      · exact .inl hp
      · rw [mem_singleton.mp hp, hstep]
        exact .inr nofun
    · exact nomatch heq.symm.trans (mem_singleton.mp hreport)
  | erased pendingCreatePopup condition =>
    exact h.mono rfl (fun p hp => .inl (mem_filter.mp hp).1) fun _ => ne_handedOut_of_mem
  | received pendingCreatePopup call popup hfind =>
    have hpopup : popup ∈ m.pendingPopupList := mem_of_find?_eq_some hfind
    have hfinds := find?_some hfind
    refine ⟨fun call' p hp => ?_, fun p hp hstep => ?_, fun newContents p hp => ?_⟩
    · rcases mem_append.mp hp with hp | hp
      · exact h.finds call' p hp
      · obtain ⟨rfl, rfl⟩ := PopupReport.handedOut.inj (mem_singleton.mp hp)
        exact hfinds
    · rcases mem_append.mp hp with hp | hp
      · obtain ⟨newContents, targetUrl, opener, q, hcontents, hq, hnumber⟩ :=
          h.contents p (mem_of_mem_eraseP hp) hstep
        exact ⟨newContents, targetUrl, opener, q, hcontents, mem_append_left _ hq, hnumber⟩
      · -- only `WebContentsCreated` puts a popup in this step
        obtain rfl := mem_singleton.mp (mem_filter.mp hp).1
        cases call with
        | getCustomWebContentsView => exact nomatch hstep
        | addWebContents => exact nomatch hstep
        | webContentsCreated targetUrl opener newContents =>
          refine ⟨newContents, targetUrl, opener, popup, ?_,
            mem_append_right _ (mem_singleton_self _), number_update.symm⟩
          cases halloy : popup.alloyStyle <;> simp [PopupCall.update, halloy] at hstep ⊢
    · rcases mem_append.mp hp with hp | hp
      · obtain ⟨targetUrl, opener, q, hq, hnumber⟩ := h.sameContents newContents p hp
        exact ⟨targetUrl, opener, q, mem_append_left _ hq, hnumber⟩
      · obtain ⟨rfl, rfl⟩ := PopupReport.handedOut.inj (mem_singleton.mp hp)
        obtain ⟨newContents', targetUrl, opener, q, hcontents, hq, hnumber⟩ :=
          h.contents p hpopup (step_of_finds hfinds)
        obtain rfl : newContents' = newContents := Option.some.inj
          (hcontents.symm.trans (of_decide_eq_true (Bool.and_eq_true_iff.mp hfinds).2))
        exact ⟨targetUrl, opener, q, mem_append_left _ hq, hnumber⟩

lemma found_new : ({} : PopupManager δ).Found :=
  ⟨fun _ _ h => absurd h not_mem_nil, fun _ h => absurd h not_mem_nil,
    fun _ _ h => absurd h not_mem_nil⟩

end PopupManager

/-! ### Every run -/

/-- **What holds of popups.** A call gets a popup in the step that comes before, with the same opener and
URL, or the same `WebContents`. A popup is handed out to the methods of its style in their order, each
one once, and its callback is run once if it is dropped before it is complete, and else never. Popups of
one style with the same opener and URL are handed out in the order in which they have been created, to
each method that asks for opener and URL. -/
structure PopupsFinishOnce (m : PopupManager δ) : Prop where
  matching : ∀ call p, .handedOut call p ∈ m.log → call.finds p = true
  sameContents : ∀ newContents p, .handedOut (.addWebContents newContents) p ∈ m.log →
    ∃ targetUrl opener q, .handedOut (.webContentsCreated targetUrl opener newContents) q ∈ m.log ∧
      q.number = p.number
  lives : ∀ p, .created p ∈ m.log → m.LifeOf p
  inOrder : ∀ method alloyStyle opener targetUrl, method ≠ .addWebContents →
    (m.handedOutTo method (isKind alloyStyle opener targetUrl)).Pairwise (· < ·)

open PopupManager

lemma tracked_of_run {ops : List (PopupOp δ)} {m : PopupManager δ}
    (hrun : ops.foldlM PopupManager.step {} = some m) : m.Tracked :=
  Transition.run_invariant (fun _ _ _ h hstep => h.change (change_of_step hstep)) tracked_new hrun

/-- **Pending popups**: in every run of calls, for any popups and in any order, what holds of popups
holds.

**Proof sketch.** A call moves the first popup of its kind from one step to the end of the next one,
so that the popups are always in the order of their creation. -/
theorem popupsFinishOnce_of_run {ops : List (PopupOp δ)} {m : PopupManager δ}
    (hrun : ops.foldlM PopupManager.step {} = some m) : PopupsFinishOnce m := by
  have ht := tracked_of_run hrun
  obtain ⟨-, hline, hfound⟩ := Transition.run_invariant
    (I := fun m => m.Tracked ∧ m.InLine ∧ m.Found)
    (fun s op s' h hstep => by
      have hchange := change_of_step hstep
      exact ⟨h.1.change hchange, h.2.1.change h.1 hchange, h.2.2.change hchange⟩)
    ⟨tracked_new, inLine_new, found_new⟩ hrun
  refine ⟨hfound.finds, hfound.sameContents, fun p hp => (ht.lives p hp).2,
    fun method alloyStyle opener targetUrl hmethod => ?_⟩
  exact (hline.pairwise alloyStyle opener targetUrl method hmethod).sublist
    (sublist_append_left _ _)

end CefCore.Browser
