import CefCore.MessageRouter.RouterPair

/-!
# No query between two routers is lost

Runs of a renderer-side and a browser-side router that are connected by the messages of a frame.

## Main results

* `responses_in_order`: callbacks are executed for responses in the order in which these have been
  sent, each for one response, and every response is for a query message that has arrived before.
* `no_query_lost`: as long as the browser process cancels no query silently, every request that is
  pending in the renderer process is on its way, is pending in the browser process, or its last
  response is on its way.
-/

namespace CefCore.MessageRouter.RouterPair

open RendererSideRouter BrowserSideRouter List Option Nat

variable {browserId : Int} {frame : Frame} {s s' : RouterPair} {a : RouterPair.Action}

/-! ### What a step does -/

/-- The step tells the renderer process of every query that it drops. -/
def Action.tells : Action → Bool
  | .browser (.cancelPendingForTask _ _ notify) => notify
  | .browser (.successTask _ _ builds) => builds
  | .browser (.onBeforeClose _) | .browser (.onRenderProcessTerminated _)
  | .browser (.onBeforeBrowse ..) => false
  | _ => true

inductive Moves (browserId : Int) (frame : Frame) (s : RouterPair) (a : Action) : RouterPair → Prop
  | asks (renderer : RendererSideRouter) (c : Int) (p : Bool)
      (generator : renderer.requestIdGenerator = s.renderer.requestIdGenerator.next.2)
      (messages : renderer.messages =
        s.renderer.messages ++ [.query c s.renderer.requestIdGenerator.next.1 p])
      (answers : renderer.answers = s.renderer.answers)
      (map : ∀ k info, renderer.browserRequestInfoMap.get? browserId k = some info →
        k = (c, s.renderer.requestIdGenerator.next.1) ∧ info.isPersistent = p ∨
          s.renderer.browserRequestInfoMap.get? browserId k = some info) :
      Moves browserId frame s a { s with renderer }
  | drops (renderer : RendererSideRouter) (sheds : Sheds browserId none s.renderer renderer) :
      Moves browserId frame s a { s with renderer }
  | acts (browser : BrowserSideRouter) (lost : BrowserSideQueryInfo → Prop)
      (treats : Treats lost s.browser browser)
      (tells : a.tells = true → ∀ info, lost info → info.frame = none) :
      Moves browserId frame s a { s with browser }
  | queryArrives (browser : BrowserSideRouter) (c r : Int) (p : Bool) (rest : List RouterMessage)
      (head : s.toBrowser = .query c r p :: rest)
      (takes : Takes browserId frame c r p s.browser browser) :
      Moves browserId frame s a { s with browser, arrived := s.arrived + 1 }
  | cancelArrives (browser : BrowserSideRouter) (c r : Int) (rest : List RouterMessage)
      (head : s.toBrowser = .cancel c r :: rest)
      (treats : Treats (BrowserSideRouter.MayLose (.cancelMessage (some browserId) c r))
        s.browser browser) :
      Moves browserId frame s a { s with browser, arrived := s.arrived + 1 }
  | answered (renderer : RendererSideRouter) (x : RouterResponse) (rest : List RouterResponse)
      (head : s.toRenderer = x :: rest)
      (sheds : Sheds browserId (some x) s.renderer renderer)
      (messages : renderer.messages = s.renderer.messages)
      (ended : ∀ k info, renderer.browserRequestInfoMap.get? browserId k = some info →
        ¬ x.Ends k.1 k.2 info.isPersistent) :
      Moves browserId frame s a { s with renderer, answered := s.answered + 1 }

lemma frame_eq_none_of_mayLose {action : BrowserSideRouter.Action}
    (h : ∀ b c r, action ≠ .cancelMessage b c r) (ht : (Action.browser action).tells = true)
    {info : BrowserSideQueryInfo} (hl : MayLose action info) : info.frame = none := by
  cases action with
  | addHandler => exact hl.elim
  | removeHandler => exact hl
  | cancelPending => exact hl
  | cancelPendingForTask b i notify =>
    exact hl.resolve_left fun h => Bool.noConfusion (h.symm.trans ht)
  | onBeforeClose => cases ht
  | onRenderProcessTerminated => cases ht
  | onBeforeBrowse => cases ht
  | queryMessage => exact hl.elim
  | cancelMessage b c r => exact absurd rfl (h b c r)
  | successTask q held builds => exact hl.resolve_left fun h => Bool.noConfusion (h.symm.trans ht)
  | failureTask => exact hl

lemma step_moves (h : s.step browserId frame a = some s') : Moves browserId frame s a s' := by
  cases a with
  | createIdForContext context =>
    cases h
    exact .drops _ (.of_eq rfl rfl rfl)
  | sendQuery c p success failure =>
    have hs' : s' = { s with renderer := { s.renderer with
        requestIdGenerator := s.renderer.requestIdGenerator.next.2
        browserRequestInfoMap := s.renderer.browserRequestInfoMap.insert browserId
          (c, s.renderer.requestIdGenerator.next.1) ⟨p, success, failure, s.renderer.sent.length⟩
        sent := s.renderer.sent ++ [⟨browserId, c, s.renderer.requestIdGenerator.next.1, p⟩]
        log := .queryMessage c s.renderer.requestIdGenerator.next.1 p :: s.renderer.log } } :=
      (some.inj h).symm
    rw [hs']
    refine .asks _ c p rfl ?_ ?_ fun k info hg => ?_
    · simp [messages, RendererEvent.message?]
    · simp [answers, RendererEvent.response?]
    · rw [BrowserInfoMap.get?_insert] at hg
      split at hg
      · rename_i hk
        cases hg
        exact .inl ⟨hk.2, rfl⟩
      · exact .inr hg
  | sendCancel c r =>
    obtain ⟨renderer, hr, rfl⟩ := map_eq_some_iff.mp h
    obtain ⟨⟨canceled, t⟩, ht, rfl⟩ := map_eq_some_iff.mp hr
    exact .drops _ (sendCancel_sheds ht)
  | contextReleased context =>
    obtain ⟨renderer, hr, rfl⟩ := map_eq_some_iff.mp h
    exact .drops _ (onContextReleased_sheds hr)
  | browser action =>
    have hquery : ∀ b f c r p answers, action ≠ .queryMessage b f c r p answers := by
      rintro b f c r p answers rfl
      simp [step] at h
    have hcancel : ∀ b c r, action ≠ .cancelMessage b c r := by
      rintro b c r rfl
      simp [step] at h
    have hs' : s' = { s with browser := s.browser.step action } := by
      cases action <;> simp_all [step]
    rw [hs']
    exact .acts _ _ (step_treats hquery) fun ht info hl => frame_eq_none_of_mayLose hcancel ht hl
  | messageArrives answers =>
    obtain ⟨message, hhead, rfl⟩ := map_eq_some_iff.mp h
    obtain ⟨rest, hrest⟩ := head?_eq_some_iff.mp hhead
    cases message with
    | query c r p => exact .queryArrives _ c r p rest hrest (onQueryMessage_takes ..)
    | cancel c r =>
      refine .cancelArrives _ c r rest hrest (step_treats fun b f c r p answers heq => ?_)
      exact BrowserSideRouter.Action.noConfusion heq
  | responseArrives payloadIsString enters =>
    obtain ⟨x, hhead, h⟩ := bind_eq_some_iff.mp h
    obtain ⟨rest, hrest⟩ := head?_eq_some_iff.mp hhead
    obtain ⟨renderer, hr, rfl⟩ := map_eq_some_iff.mp h
    obtain ⟨hsheds, hmessages, hended⟩ := response_sheds hr
    exact .answered _ x rest hrest hsheds hmessages hended

/-! ### Responses come in order -/

/-- A query message with the ids has arrived in the browser process. -/
def Asked (s : RouterPair) (contextId requestId : Int) : Prop :=
  ∃ p, .query contextId requestId p ∈ s.renderer.messages.take s.arrived

/-- No message has arrived before it has been sent, callbacks are executed for responses in their
order, and responses are sent only for queries that have arrived. -/
structure Ordered (s : RouterPair) : Prop where
  arrived : s.arrived ≤ s.renderer.messages.length
  answered : s.answered ≤ s.browser.effects.responses.length
  executed : s.renderer.answers.Sublist (s.browser.effects.responses.take s.answered)
  pending : ∀ b k info, s.browser.browserQueryInfoMap.get? b k = some info →
    s.Asked info.contextId info.requestId
  asked : ∀ x ∈ s.browser.effects.responses, s.Asked x.contextId x.requestId

lemma of_drop_eq_cons {α : Type} {l rest : List α} {x : α} {n : Nat} (h : l.drop n = x :: rest) :
    n + 1 ≤ l.length ∧ l.take (n + 1) = l.take n ++ [x] ∧ l.drop (n + 1) = rest := by
  have hlt : n < l.length := by
    by_contra hge
    rw [drop_eq_nil_iff.mpr (Nat.le_of_not_lt hge)] at h
    cases h
  obtain ⟨hx, hrest⟩ := cons.inj ((drop_eq_getElem_cons hlt).symm.trans h)
  refine ⟨hlt, ?_, hrest⟩
  rw [take_succ_eq_append_getElem hlt, hx]

lemma Ordered.renderer (h : s.Ordered) {renderer : RendererSideRouter} {new : List RouterMessage}
    (hmessages : renderer.messages = s.renderer.messages ++ new)
    (hanswers : renderer.answers = s.renderer.answers) : Ordered { s with renderer } := by
  have htake : renderer.messages.take s.arrived = s.renderer.messages.take s.arrived := by
    rw [hmessages, take_append_of_le_length h.arrived]
  have hasked : ∀ c r, s.Asked c r → Asked { s with renderer } c r := by
    intro c r hc
    unfold Asked
    rw [htake]
    exact hc
  refine ⟨?_, h.answered, ?_, fun b k info hg => hasked _ _ (h.pending b k info hg),
    fun x hx => hasked _ _ (h.asked x hx)⟩
  · rw [hmessages, length_append]
    exact le_add_right_of_le h.arrived
  · rw [hanswers]
    exact h.executed

lemma Ordered.browser (h : s.Ordered) {browser : BrowserSideRouter} {new : List RouterResponse}
    (hresp : browser.effects.responses = s.browser.effects.responses ++ new)
    (hpending : ∀ b k info, browser.browserQueryInfoMap.get? b k = some info →
      s.Asked info.contextId info.requestId)
    (hnew : ∀ x ∈ new, s.Asked x.contextId x.requestId) : Ordered { s with browser } := by
  refine ⟨h.arrived, ?_, ?_, hpending, fun x hx => ?_⟩
  · rw [hresp, length_append]
    exact le_add_right_of_le h.answered
  · rw [hresp, take_append_of_le_length h.answered]
    exact h.executed
  · replace hx : x ∈ browser.effects.responses := hx
    rw [hresp] at hx
    exact (mem_append.mp hx).elim (h.asked x) (hnew x)

lemma Ordered.treats (h : s.Ordered) {browser : BrowserSideRouter}
    {lost : BrowserSideQueryInfo → Prop} (ht : Treats lost s.browser browser) :
    Ordered { s with browser } := by
  obtain ⟨new, hresp, hasked, -⟩ := ht.sent
  refine h.browser hresp (fun b k info hg => h.pending b k info (ht.kept b k info hg)) ?_
  intro x hx
  obtain ⟨b, k, info, hg, hc, hr⟩ := hasked x hx
  exact hc ▸ hr ▸ h.pending b k info hg

lemma Asked.arrive {c r : Int} (h : s.Asked c r) : Asked { s with arrived := s.arrived + 1 } c r :=
  h.imp fun _ hp => (take_sublist_take_left (le_succ s.arrived)).subset hp

lemma Ordered.arrive (h : s.Ordered) {m : RouterMessage} {rest : List RouterMessage}
    (hhead : s.toBrowser = m :: rest) : Ordered { s with arrived := s.arrived + 1 } :=
  ⟨(of_drop_eq_cons hhead).1, h.answered, h.executed,
    fun b k info hg => (h.pending b k info hg).arrive, fun x hx => (h.asked x hx).arrive⟩

lemma Ordered.step (h : s.Ordered) (hm : Moves browserId frame s a s') : s'.Ordered := by
  cases hm with
  | asks renderer c p _ hmessages hanswers => exact h.renderer hmessages hanswers
  | drops renderer hsheds =>
    obtain ⟨l, hl, hanswers⟩ := hsheds.answers
    obtain rfl := sublist_nil.mp hl
    rw [append_nil] at hanswers
    rcases hsheds.messages with hmessages | ⟨c, hmessages, -⟩
    · exact h.renderer (hmessages.trans (append_nil _).symm) hanswers
    · exact h.renderer hmessages hanswers
  | acts browser lost htreats => exact h.treats htreats
  | queryArrives browser c r p rest hhead htakes =>
    have hnow : Asked { s with arrived := s.arrived + 1 } c r := by
      refine ⟨p, ?_⟩
      rw [(of_drop_eq_cons hhead).2.1]
      exact mem_concat_self
    have harrived := h.arrive hhead
    cases htakes with
    | pending info _ hids _ hresp hmap =>
      refine harrived.browser (hresp.trans (append_nil _).symm) ?_ (by simp)
      intro b k info' hg
      rw [hmap] at hg
      split at hg
      · cases hg
        rw [hids.1, hids.2.1]
        exact hnow
      · exact harrived.pending b k info' hg
    | refused _ hresp hmap =>
      refine harrived.browser hresp (hmap ▸ harrived.pending) fun x hx => ?_
      rw [mem_singleton.mp hx]
      exact hnow
  | cancelArrives browser c r rest hhead htreats => exact (h.arrive hhead).treats htreats
  | answered renderer x rest hhead hsheds hmessages =>
    obtain ⟨hlen, htake, -⟩ := of_drop_eq_cons hhead
    obtain ⟨l, hl, hanswers⟩ := hsheds.answers
    refine ⟨?_, hlen, ?_, ?_, ?_⟩
    · exact hmessages ▸ h.arrived
    · rw [hanswers, htake]
      exact h.executed.append hl
    · simpa [Asked, hmessages] using h.pending
    · simpa [Asked, hmessages] using h.asked

/-! ### Every pending request is waited for -/

/-- The query of a pending request is on its way, is pending in the browser process, or its last
response is on its way; no cancel message follows it. -/
inductive Awaited (s : RouterPair) (c r : Int) (p : Bool) : Prop
  | query (before after : List RouterMessage) (split : s.toBrowser = before ++ .query c r p :: after)
      (uncanceled : .cancel c reservedId ∉ after)
  | pending (b k : Int) (info : BrowserSideQueryInfo)
      (entry : s.browser.browserQueryInfoMap.get? b k = some info)
      (ids : info.contextId = c ∧ info.requestId = r ∧ info.isPersistent = p)
      (uncanceled : .cancel c reservedId ∉ s.toBrowser)
  | response (x : RouterResponse) (mem : x ∈ s.toRenderer) (ends : x.Ends c r p)

variable {c r : Int} {p : Bool}

lemma Awaited.append (h : s.Awaited c r p) {new : List RouterMessage}
    (hmsg : s'.toBrowser = s.toBrowser ++ new) (hnew : .cancel c reservedId ∉ new)
    (hpending : ∀ b k info, s.browser.browserQueryInfoMap.get? b k = some info →
      s'.browser.browserQueryInfoMap.get? b k = some info ∨
        ∃ x ∈ s'.toRenderer, x.Ends info.contextId info.requestId info.isPersistent)
    (hresp : ∀ x ∈ s.toRenderer, x.Ends c r p → x ∈ s'.toRenderer) : s'.Awaited c r p := by
  cases h with
  | query before after hsplit huncanceled =>
    refine .query before (after ++ new) (by rw [hmsg, hsplit]; simp) ?_
    exact mem_append.not.mpr (not_or.mpr ⟨huncanceled, hnew⟩)
  | pending b k info hg hids huncanceled =>
    rcases hpending b k info hg with hg' | ⟨x, hx, hends⟩
    · refine .pending b k info hg' hids ?_
      rw [hmsg]
      exact mem_append.not.mpr (not_or.mpr ⟨huncanceled, hnew⟩)
    · obtain ⟨rfl, rfl, rfl⟩ := hids
      exact .response x hx hends
  | response x hx hends => exact .response x (hresp x hx hends) hends

lemma Awaited.arrive (h : s.Awaited c r p) {m : RouterMessage} {rest : List RouterMessage}
    (hhead : s.toBrowser = m :: rest) (hmsg : s'.toBrowser = rest)
    (hquery : m = .query c r p → .cancel c reservedId ∉ rest → s'.Awaited c r p)
    (hpending : m ≠ .cancel c reservedId → ∀ b k info,
      s.browser.browserQueryInfoMap.get? b k = some info →
        info.contextId = c ∧ info.requestId = r ∧ info.isPersistent = p →
        s'.browser.browserQueryInfoMap.get? b k = some info ∨ ∃ x ∈ s'.toRenderer, x.Ends c r p)
    (hresp : ∀ x ∈ s.toRenderer, x ∈ s'.toRenderer) : s'.Awaited c r p := by
  cases h with
  | query before after hsplit huncanceled =>
    cases before with
    | nil =>
      obtain ⟨rfl, rfl⟩ := cons.inj (hhead.symm.trans hsplit)
      exact hquery rfl huncanceled
    | cons m' before =>
      obtain ⟨-, rfl⟩ := cons.inj (hhead.symm.trans hsplit)
      exact .query before after hmsg huncanceled
  | pending b k info hg hids huncanceled =>
    rw [hhead, mem_cons, not_or] at huncanceled
    rcases hpending (Ne.symm huncanceled.1) b k info hg hids with hg' | ⟨x, hx, hends⟩
    · exact .pending b k info hg' hids (hmsg ▸ huncanceled.2)
    · exact .response x hx hends
  | response x hx hends => exact .response x (hresp x hx) hends

/-- The query ids and the request ids are new ones, and every request that is pending in the renderer
process is waited for. -/
structure Served (browserId : Int) (frame : Frame) (s : RouterPair) : Prop where
  queryIds : ∃ m : Nat, m ≤ s.arrived ∧ s.browser.queryIdGenerator = ⟨m, reservedId, i64Max⟩
  entries : ∀ b k info, s.browser.browserQueryInfoMap.get? b k = some info →
    k ≤ s.browser.queryIdGenerator.nextId ∧ info.frame = some frame
  requestIds : 0 ≤ s.renderer.requestIdGenerator.nextId ∧
    s.renderer.requestIdGenerator.rangeStart = reservedId
  requests : ∀ k info, s.renderer.browserRequestInfoMap.get? browserId k = some info →
    k.2 ≠ reservedId ∧ s.Awaited k.1 k.2 info.isPersistent
  cancels : ∀ c r, .cancel c r ∈ s.renderer.messages → r = reservedId

lemma toBrowser_of_append (h : s.Ordered) {renderer : RendererSideRouter}
    {new : List RouterMessage} (hmessages : renderer.messages = s.renderer.messages ++ new) :
    toBrowser { s with renderer } = s.toBrowser ++ new := by
  show renderer.messages.drop s.arrived = _
  rw [hmessages, drop_append_of_le_length h.arrived]
  rfl

lemma toRenderer_of_append (h : s.Ordered) {browser : BrowserSideRouter} {new : List RouterResponse}
    (hresp : browser.effects.responses = s.browser.effects.responses ++ new) :
    toRenderer { s with browser } = s.toRenderer ++ new := by
  show browser.effects.responses.drop s.answered = _
  rw [hresp, drop_append_of_le_length h.answered]
  rfl

section

variable (h : s.Served browserId frame)
include h

section

variable (ho : s.Ordered)
include ho

lemma Served.asks {renderer : RendererSideRouter}
    (hgen : renderer.requestIdGenerator = s.renderer.requestIdGenerator.next.2)
    (hmessages : renderer.messages =
      s.renderer.messages ++ [.query c s.renderer.requestIdGenerator.next.1 p])
    (hmap : ∀ k info, renderer.browserRequestInfoMap.get? browserId k = some info →
      k = (c, s.renderer.requestIdGenerator.next.1) ∧ info.isPersistent = p ∨
        s.renderer.browserRequestInfoMap.get? browserId k = some info) :
    Served browserId frame { s with renderer } := by
  have hmsg := toBrowser_of_append ho hmessages
  have hnext : 0 < s.renderer.requestIdGenerator.next.1 := by
    have hstart := h.requestIds.2
    have hpos := h.requestIds.1
    unfold reservedId at hstart
    unfold IdGenerator.next
    dsimp only
    split <;> omega
  refine ⟨h.queryIds, h.entries, ?_, fun k info hg => ?_, fun c' r' hc => ?_⟩
  · rw [hgen]
    exact ⟨Int.le_of_lt hnext, h.requestIds.2⟩
  · rcases hmap k info hg with ⟨rfl, rfl⟩ | hg
    · exact ⟨Int.ne_of_gt hnext, .query s.toBrowser [] hmsg not_mem_nil⟩
    · obtain ⟨hne, hawaited⟩ := h.requests k info hg
      exact ⟨hne, hawaited.append hmsg (by simp) (fun _ _ _ => .inl) fun _ hx _ => hx⟩
  · replace hc : .cancel c' r' ∈ renderer.messages := hc
    rw [hmessages] at hc
    exact h.cancels c' r' (by simpa using hc)

lemma Served.drops {renderer : RendererSideRouter}
    (hsheds : Sheds browserId none s.renderer renderer) :
    Served browserId frame { s with renderer } := by
  have hids : 0 ≤ renderer.requestIdGenerator.nextId ∧
      renderer.requestIdGenerator.rangeStart = reservedId := hsheds.generator ▸ h.requestIds
  obtain ⟨new, hmessages, hnew⟩ : ∃ new, renderer.messages = s.renderer.messages ++ new ∧
      ∀ m ∈ new, ∃ c, m = .cancel c reservedId ∧
        ∀ r, renderer.browserRequestInfoMap.get? browserId (c, r) = none := by
    rcases hsheds.messages with hmessages | ⟨c, hmessages, hnone⟩
    · exact ⟨[], hmessages.trans (append_nil _).symm, by simp⟩
    · exact ⟨_, hmessages, fun m hm => ⟨c, mem_singleton.mp hm, hnone⟩⟩
  refine ⟨h.queryIds, h.entries, hids, fun k info hg => ?_, fun c r hc => ?_⟩
  · obtain ⟨hne, hawaited⟩ := h.requests k info (hsheds.kept k info hg)
    refine ⟨hne, hawaited.append (toBrowser_of_append ho hmessages) (fun hmem => ?_)
      (fun _ _ _ => .inl) fun _ hx _ => hx⟩
    obtain ⟨c, heq, hnone⟩ := hnew _ hmem
    cases heq
    exact some_ne_none info (hg.symm.trans (hnone k.2))
  · replace hc : .cancel c r ∈ renderer.messages := hc
    rw [hmessages] at hc
    rcases mem_append.mp hc with hc | hc
    · exact h.cancels c r hc
    · obtain ⟨c', heq, -⟩ := hnew _ hc
      cases heq
      rfl

lemma Served.acts {browser : BrowserSideRouter}
    {lost : BrowserSideQueryInfo → Prop} (htreats : Treats lost s.browser browser)
    (hlost : ∀ info, lost info → info.frame = none) : Served browserId frame { s with browser } := by
  obtain ⟨new, hresp, -, hcases⟩ := htreats.sent
  have htoRenderer := toRenderer_of_append ho hresp
  refine ⟨htreats.generator ▸ h.queryIds, fun b k info hg => ?_, h.requestIds, fun k info hg => ?_,
    h.cancels⟩
  · rw [htreats.generator]
    exact h.entries b k info (htreats.kept b k info hg)
  · obtain ⟨hne, hawaited⟩ := h.requests k info hg
    refine ⟨hne, hawaited.append (append_nil _).symm not_mem_nil ?_ fun x hx _ => ?_⟩
    · intro b k info hg
      rcases hcases b k info hg with hkept | hl | ⟨x, hx, hends⟩
      · exact .inl hkept
      · exact absurd (hlost info hl) (by rw [(h.entries b k info hg).2]; exact some_ne_none _)
      · exact .inr ⟨x, by rw [htoRenderer]; exact mem_append_right _ hx, hends⟩
    · rw [htoRenderer]
      exact mem_append_left _ hx

/-- **A query message arrives**: its query becomes pending under an id that no other pending query
has, or its last response is sent. -/
lemma Served.queryArrives {browser : BrowserSideRouter} {rest : List RouterMessage}
    (hhead : s.toBrowser = .query c r p :: rest)
    (htakes : Takes browserId frame c r p s.browser browser) (hlt : (s.arrived : Int) < i64Max) :
    Served browserId frame { s with browser, arrived := s.arrived + 1 } := by
  obtain ⟨m, hm, hgen⟩ := h.queryIds
  have hnext : s.browser.queryIdGenerator.next = ((m : Int) + 1, ⟨(m : Int) + 1, reservedId, i64Max⟩) := by
    rw [hgen]
    exact IdGenerator.next_of_lt (show (m : Int) < i64Max by omega)
  have hold : ∀ b k info, s.browser.browserQueryInfoMap.get? b k = some info →
      k ≤ m ∧ info.frame = some frame := by
    intro b k info hg
    have := h.entries b k info hg
    rwa [hgen] at this
  have hrest : toBrowser { s with browser, arrived := s.arrived + 1 } = rest :=
    (of_drop_eq_cons hhead).2.2
  cases htakes with
  | pending info hframe hids hgen' hresp hmap =>
    rw [hnext] at hgen' hmap
    have hkept : ∀ b k info', s.browser.browserQueryInfoMap.get? b k = some info' →
        browser.browserQueryInfoMap.get? b k = some info' := by
      intro b k info' hg
      have := (hold b k info' hg).1
      rw [hmap, if_neg (fun hk => by have := hk.2; dsimp only at this; omega), hg]
    have htoRenderer := toRenderer_of_append ho (hresp.trans (append_nil _).symm)
    rw [append_nil] at htoRenderer
    refine ⟨⟨m + 1, succ_le_succ hm, hgen'⟩, fun b k info' hg => ?_, h.requestIds,
      fun k info' hg => ?_, h.cancels⟩
    · rw [hgen']
      replace hg : browser.browserQueryInfoMap.get? b k = some info' := hg
      rw [hmap] at hg
      split at hg
      · rename_i hk
        cases hg
        exact ⟨Int.le_of_eq hk.2, hframe⟩
      · have := hold b k info' hg
        exact ⟨Int.le_trans this.1 (Int.le_add_one (Int.le_refl _)), this.2⟩
    · obtain ⟨hne, hawaited⟩ := h.requests k info' hg
      refine ⟨hne, hawaited.arrive hhead hrest (fun heq huncanceled => ?_)
        (fun _ b k info hg _ => .inl (hkept b k info hg)) fun x hx => htoRenderer ▸ hx⟩
      cases heq
      refine .pending browserId _ info ((hmap browserId _).trans (if_pos ⟨rfl, rfl⟩)) hids ?_
      rw [hrest]
      exact huncanceled
  | refused hgen' hresp hmap =>
    have htoRenderer := toRenderer_of_append ho hresp
    have hgen' : ∃ m', m ≤ m' ∧ m' ≤ s.arrived + 1 ∧
        browser.queryIdGenerator = ⟨m', reservedId, i64Max⟩ := by
      rcases hgen' with hgen' | hgen'
      · exact ⟨m, le_refl _, le_succ_of_le hm, hgen'.trans hgen⟩
      · exact ⟨m + 1, le_succ _, succ_le_succ hm, hgen'.trans (by rw [hnext]; rfl)⟩
    obtain ⟨m', hle, hm', hgen'⟩ := hgen'
    refine ⟨⟨m', hm', hgen'⟩, fun b k info' hg => ?_, h.requestIds, fun k info' hg => ?_, h.cancels⟩
    · have := hold b k info' (hmap ▸ hg)
      rw [hgen']
      exact ⟨Int.le_trans this.1 (Int.ofNat_le.mpr hle), this.2⟩
    · obtain ⟨hne, hawaited⟩ := h.requests k info' hg
      refine ⟨hne, hawaited.arrive hhead hrest (fun heq _ => ?_)
        (fun _ b k info hg _ => .inl ((congrArg (·.get? b k) hmap).trans hg)) fun x hx => ?_⟩
      · cases heq
        refine .response ⟨k.1, k.2, .failure⟩ ?_ ⟨rfl, rfl, .inl rfl⟩
        show _ ∈ toRenderer { s with browser }
        rw [htoRenderer]
        exact mem_concat_self
      · show x ∈ toRenderer { s with browser }
        rw [htoRenderer]
        exact mem_append_left _ hx

/-- **A cancel message arrives**: the queries of other contexts stay pending. -/
lemma Served.cancelArrives {browser : BrowserSideRouter} {rest : List RouterMessage}
    (hhead : s.toBrowser = .cancel c r :: rest)
    (htreats : Treats (MayLose (.cancelMessage (some browserId) c r)) s.browser browser) :
    Served browserId frame { s with browser, arrived := s.arrived + 1 } := by
  obtain ⟨new, hresp, -, hcases⟩ := htreats.sent
  have htoRenderer := toRenderer_of_append ho hresp
  have hrest : toBrowser { s with browser, arrived := s.arrived + 1 } = rest :=
    (of_drop_eq_cons hhead).2.2
  have hmem : .cancel c r ∈ s.toBrowser := by
    rw [hhead]
    exact mem_cons_self
  obtain rfl := h.cancels c r (mem_of_mem_drop hmem)
  obtain ⟨m, hm, hgen⟩ := h.queryIds
  refine ⟨⟨m, le_succ_of_le hm, htreats.generator.trans hgen⟩, fun b k info hg => ?_,
    h.requestIds, fun k info hg => ?_, h.cancels⟩
  · rw [htreats.generator]
    exact h.entries b k info (htreats.kept b k info hg)
  · obtain ⟨hne, hawaited⟩ := h.requests k info hg
    refine ⟨hne, hawaited.arrive hhead hrest (fun heq _ => RouterMessage.noConfusion heq) ?_
      fun x hx => ?_⟩
    · intro hother b k' info' hg' hids
      rcases hcases b k' info' hg' with hkept | hlost | ⟨x, hx, hends⟩
      · exact .inl hkept
      · rcases hlost with hc | hr
        · exact absurd (by rw [← hids.1, hc.1]) hother
        · exact absurd (hids.2.1.symm.trans hr) hne
      · obtain ⟨hc, hr, hp⟩ := hids
        refine .inr ⟨x, ?_, hc ▸ hr ▸ hp ▸ hends⟩
        show x ∈ toRenderer { s with browser }
        rw [htoRenderer]
        exact mem_append_right _ hx
    · show x ∈ toRenderer { s with browser }
      rw [htoRenderer]
      exact mem_append_left _ hx

end

lemma Served.answered {renderer : RendererSideRouter}
    {x : RouterResponse} {rest : List RouterResponse} (hhead : s.toRenderer = x :: rest)
    (hsheds : Sheds browserId (some x) s.renderer renderer)
    (hmessages : renderer.messages = s.renderer.messages)
    (hended : ∀ k info, renderer.browserRequestInfoMap.get? browserId k = some info →
      ¬ x.Ends k.1 k.2 info.isPersistent) :
    Served browserId frame { s with renderer, answered := s.answered + 1 } := by
  refine ⟨h.queryIds, h.entries, hsheds.generator ▸ h.requestIds, fun k info hg => ?_,
    hmessages ▸ h.cancels⟩
  obtain ⟨hne, hawaited⟩ := h.requests k info (hsheds.kept k info hg)
  refine ⟨hne, hawaited.append ?_ not_mem_nil (fun _ _ _ => .inl) fun y hy hends => ?_⟩
  · rw [append_nil]
    exact congrArg (List.drop s.arrived) hmessages
  · rw [hhead] at hy
    show y ∈ s.browser.effects.responses.drop (s.answered + 1)
    rw [(of_drop_eq_cons hhead).2.2]
    rcases mem_cons.mp hy with rfl | hy
    · exact absurd hends (hended k info hg)
    · exact hy

/-- **One step** that tells of the queries that it drops keeps every pending request waited for. -/
lemma Served.step (ho : s.Ordered)
    (hm : Moves browserId frame s a s') (ht : a.tells = true) (hle : (s'.arrived : Int) ≤ i64Max) :
    s'.Served browserId frame := by
  cases hm with
  | asks renderer c p hgen hmessages _ hmap => exact h.asks ho hgen hmessages hmap
  | drops renderer hsheds => exact h.drops ho hsheds
  | acts browser lost htreats htells => exact h.acts ho htreats (htells ht)
  | queryArrives browser c r p rest hhead htakes =>
    have hlt : (s.arrived : Int) + 1 ≤ i64Max := hle
    exact h.queryArrives ho hhead htakes hlt
  | cancelArrives browser c r rest hhead htreats => exact h.cancelArrives ho hhead htreats
  | answered renderer x rest hhead hsheds hmessages hended =>
    exact h.answered hhead hsheds hmessages hended

/-! ### Runs -/

end

lemma new_ordered : new.Ordered :=
  ⟨le_refl _, le_refl _, nil_sublist _, fun b k info hg => by
    simp [new, BrowserSideRouter.new] at hg, fun x hx => by cases hx⟩

lemma new_served : new.Served browserId frame where
  queryIds := ⟨0, le_refl _, rfl⟩
  entries b k info hg := by simp [new, BrowserSideRouter.new] at hg
  requestIds := ⟨Int.le_refl _, rfl⟩
  requests k info hg := by simp [new, RendererSideRouter.new] at hg
  cancels c r hc := by cases hc

/-- **Responses between two routers**: in every run callbacks are executed in the order of the
responses that have arrived, at most one for each, and every response that is sent is for a query
message that has arrived before. -/
theorem responses_in_order {acts : List Action} (h : acts.foldlM (step browserId frame) new = some s) :
    s.renderer.answers.Sublist (s.browser.effects.responses.take s.answered) ∧
      ∀ x ∈ s.browser.effects.responses, s.Asked x.contextId x.requestId := by
  have ho : s.Ordered := Transition.run_invariant
    (fun _ _ _ ho hs => ho.step (step_moves hs)) new_ordered h
  exact ⟨ho.executed, ho.asked⟩

/-- Two queries of a context are answered; the second one is persistent, and its context is released
while it is still pending. -/
def exchange : List Action :=
  [.browser (.addHandler 7 false), .createIdForContext 5, .sendQuery 1 false (some 10) (some 11),
    .sendQuery 1 true (some 20) (some 21), .messageArrives fun _ => true,
    .messageArrives fun _ => true, .browser (.successTask 1 false true),
    .browser (.successTask 0 false true), .responseArrives true true, .responseArrives true true,
    .contextReleased (some 5)]

lemma exchange_run (browserId : Int) (frame : Frame)
    (h : (exchange.foldlM (step browserId frame) new).isSome = true) :
    exchange.foldlM (step browserId frame) new =
      some ((exchange.foldlM (step browserId frame) new).getD new) :=
  (getD_of_ne_none (isSome_iff_ne_none.mp h) _).symm

/-- Both callbacks are executed, that of the second query first. -/
theorem responses_in_order_exchange : ∃ s, exchange.foldlM (step 1 ⟨1, true⟩) new = some s ∧
    s.renderer.answers = [⟨1, 2, .success⟩, ⟨1, 1, .success⟩] ∧
    s.renderer.answers.Sublist (s.browser.effects.responses.take s.answered) :=
  ⟨_, exchange_run 1 ⟨1, true⟩ (by decide), by decide,
    (responses_in_order (exchange_run 1 ⟨1, true⟩ (by decide))).1⟩

/-- **No query between two routers is lost**: if no step of a run drops a query silently, and fewer
than `i64::MAX` messages have arrived in the browser process, then every request that is pending in
the renderer process is waited for; so nothing is pending there when nothing is on its way and the
browser process has no query.

**Proof sketch.** A query moves from its message to the pending queries, and from there to its last
response. A cancel message is sent only when no request of its context is left. -/
theorem no_query_lost {acts : List Action} (h : acts.foldlM (step browserId frame) new = some s)
    (htold : Transition.Along (step browserId frame) (fun _ a => a.tells = true) new acts)
    (hids : (s.arrived : Int) ≤ i64Max) :
    (∀ c r info, s.renderer.browserRequestInfoMap.get? browserId (c, r) = some info →
      s.Awaited c r info.isPersistent) ∧
    (s.toBrowser = [] → s.toRenderer = [] → (∀ b k, s.browser.browserQueryInfoMap.get? b k = none) →
      ∀ k, s.renderer.browserRequestInfoMap.get? browserId k = none) := by
  have hinv : s.Ordered ∧ ((s.arrived : Int) ≤ i64Max → s.Served browserId frame) := by
    refine Transition.Along.invariant (P := fun _ a => a.tells = true)
      (I := fun s => s.Ordered ∧ ((s.arrived : Int) ≤ i64Max → s.Served browserId frame)) ?_
      acts new s ⟨new_ordered, fun _ => new_served⟩ htold h
    intro s a s' hI ht hs
    have hm := step_moves hs
    refine ⟨hI.1.step hm, fun hle => (hI.2 ?_).step hI.1 hm ht hle⟩
    have hmono : s.arrived ≤ s'.arrived := by
      cases hm <;> first | exact le_refl _ | exact le_succ _
    exact Int.le_trans (Int.ofNat_le.mpr hmono) hle
  have hawaited := (hinv.2 hids).requests
  refine ⟨fun c r info hg => (hawaited (c, r) info hg).2, fun hto hback hnone k => ?_⟩
  refine eq_none_iff_forall_not_mem.mpr fun info hg => ?_
  cases (hawaited k info hg).2 with
  | query before after hsplit => simp [hto] at hsplit
  | pending b i info' hg' => exact some_ne_none _ (hg'.symm.trans (hnone b i))
  | response x hx => simp [hback] at hx

/-- The cancel message of the released context is on its way. -/
theorem no_query_lost_exchange : ∃ s, exchange.foldlM (step 1 ⟨1, true⟩) new = some s ∧
    s.toBrowser = [.cancel 1 0] ∧
    ∀ c r info, s.renderer.browserRequestInfoMap.get? 1 (c, r) = some info →
      s.Awaited c r info.isPersistent :=
  ⟨_, exchange_run 1 ⟨1, true⟩ (by decide), by decide,
    (no_query_lost (exchange_run 1 ⟨1, true⟩ (by decide)) (by decide) (by decide)).1⟩

end CefCore.MessageRouter.RouterPair
