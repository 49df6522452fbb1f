import CefCore.ResourceManager.CppLedger

/-!
# Ownership and order of requests in the C++ resource manager

Every step of the manager keeps the ledger and the timeline of `CppLedger`. So in every reachable
state each request state has one owner and valid iterators, an entry whose deletion is pending
has pending requests, each callback is continued once, and the offers keep to the order of the
providers.

## Main results

* `request_ownership`, `provider_order`: this holds in every run.
-/

namespace CefCore.ResourceManager

open List Option Nat

/-! ### Lists with distinct entry numbers -/

section Split

variable {l₁ l₂ : List ProviderEntry} {e : ProviderEntry}

section

variable (h : ((l₁ ++ e :: l₂).map (·.id)).Nodup)
include h

lemma id_ne_of_split : ∀ x, x ∈ l₁ ∨ x ∈ l₂ → x.id ≠ e.id := by
  intro x hx heq
  rw [map_append, map_cons, nodup_middle, nodup_cons, ← map_append] at h
  exact h.1 (mem_map.mpr ⟨x, mem_append.mpr hx, heq⟩)

lemma find?_split : (l₁ ++ e :: l₂).find? (fun x => x.id = e.id) = some e := by
  have hne := id_ne_of_split h
  rw [find?_append, find?_eq_none.mpr]
  · simp
  · intro x hx
    simpa using hne x (.inl hx)

lemma after_split : CefResourceManager.after e.id (l₁ ++ e :: l₂) = l₂ := by
  have hne := id_ne_of_split h
  unfold CefResourceManager.after
  rw [dropWhile_append_of_pos]
  · simp
  · intro x hx
    simpa using hne x (.inl hx)

lemma updateEntry_split (f : ProviderEntry → ProviderEntry) :
    CefResourceManager.updateEntry (l₁ ++ e :: l₂) e.id f = l₁ ++ f e :: l₂ := by
  have hne := id_ne_of_split h
  have hsame : ∀ l : List ProviderEntry, (∀ x ∈ l, x.id ≠ e.id) →
      l.map (fun x => if x.id = e.id then f x else x) = l := by
    intro l hl
    conv_rhs => rw [← map_id l]
    exact map_congr_left fun x hx => if_neg (hl x hx)
  unfold CefResourceManager.updateEntry
  rw [map_append, map_cons, hsame l₁ fun x hx => hne x (.inl hx),
    hsame l₂ fun x hx => hne x (.inr hx), if_pos rfl]

lemma filter_split : (l₁ ++ e :: l₂).filter (fun x => x.id ≠ e.id) = l₁ ++ l₂ := by
  have hne := id_ne_of_split h
  rw [filter_append, filter_cons_of_neg (by simp), filter_eq_self.mpr,
    filter_eq_self.mpr]
  · intro x hx
    simpa using hne x (.inr hx)
  · intro x hx
    simpa using hne x (.inl hx)

end

end Split

abbrev validOf (P : List ProviderEntry) : List Place :=
  (P.filter fun e => !e.deletionPending).map ProviderEntry.place

/-- **The next provider**: the first valid entry after an entry has the next valid place, and if
there is none then no valid place is left.

**Proof sketch.** The list is sorted, and the entries between the given one and the first valid one
after it are not valid. -/
lemma next_of_after {P : List ProviderEntry} {H : List Holding} {e : ProviderEntry}
    (L : Ledger P H) (he : e ∈ P) :
    match CefResourceManager.getNextValidProvider (CefResourceManager.after e.id P) with
    | some x => x ∈ P ∧ x.id ≠ e.id ∧ x.deletionPending = false ∧
      IsNext (some e.place) x.place (validOf P)
    | none => ∀ p ∈ validOf P, ¬ e.place.Before p := by
  obtain ⟨l₁, l₂, rfl⟩ := append_of_mem he
  rw [after_split L.ids]
  obtain ⟨-, hsorted₂, hsorted₁⟩ := pairwise_append.mp L.sorted
  obtain ⟨hafter, hsorted₂⟩ := pairwise_cons.mp hsorted₂
  -- a valid place after the entry belongs to an entry after it
  have hlater : ∀ p ∈ validOf (l₁ ++ e :: l₂), e.place.Before p →
      ∃ x ∈ l₂, x.deletionPending = false ∧ x.place = p := by
    intro p hp hbefore
    obtain ⟨x, hx, rfl⟩ := mem_map.mp hp
    obtain ⟨hx, hvalid⟩ := mem_filter.mp hx
    rcases mem_append.mp hx with hx | hx
    · have := (hsorted₁ x hx e mem_cons_self).trans hbefore
      exact (Place.Before.irrefl _ this).elim
    · rcases mem_cons.mp hx with rfl | hx
      · exact (Place.Before.irrefl _ hbefore).elim
      · exact ⟨x, hx, by simpa using hvalid, rfl⟩
  unfold CefResourceManager.getNextValidProvider
  cases hfind : l₂.find? fun x => !x.deletionPending with
  | none =>
    intro p hp hbefore
    obtain ⟨x, hx, hvalid, -⟩ := hlater p hp hbefore
    have := find?_eq_none.mp hfind x hx
    simp [hvalid] at this
  | some x =>
    obtain ⟨hvalid, l₃, l₄, rfl, hl₃⟩ := find?_eq_some_iff_append.mp hfind
    have hx : x ∈ l₁ ++ e :: (l₃ ++ x :: l₄) := by simp
    have hvalid : x.deletionPending = false := by simpa using hvalid
    refine ⟨hx, id_ne_of_split L.ids x (.inr (by simp)), hvalid, ?_, ?_, ?_⟩
    · exact mem_map.mpr ⟨x, mem_filter.mpr ⟨hx, by simp [hvalid]⟩, rfl⟩
    · intro l hl
      cases hl
      exact hafter x (by simp)
    · intro p hp hbefore
      obtain ⟨y, hy, hyvalid, rfl⟩ := hlater p hp (hbefore _ rfl)
      rcases mem_append.mp hy with hy | hy
      · have := hl₃ y hy
        simp [hyvalid] at this
      · rcases mem_cons.mp hy with rfl | hy
        · exact .inl rfl
        · have := (pairwise_append.mp hsorted₂).2.1
          exact .inr ((pairwise_cons.mp this).1 y hy)

lemma first_of_providers {P : List ProviderEntry} {H : List Holding} {x : ProviderEntry}
    (L : Ledger P H) (hx : CefResourceManager.getNextValidProvider P = some x) :
    x ∈ P ∧ x.deletionPending = false ∧ IsNext none x.place (validOf P) := by
  obtain ⟨hvalid, l₃, l₄, rfl, hl₃⟩ := find?_eq_some_iff_append.mp hx
  have hmem : x ∈ l₃ ++ x :: l₄ := by simp
  have hvalid : x.deletionPending = false := by simpa using hvalid
  refine ⟨hmem, hvalid, ?_, by simp, ?_⟩
  · exact mem_map.mpr ⟨x, mem_filter.mpr ⟨hmem, by simp [hvalid]⟩, rfl⟩
  · intro p hp _
    obtain ⟨y, hy, rfl⟩ := mem_map.mp hp
    obtain ⟨hy, hyvalid⟩ := mem_filter.mp hy
    rcases mem_append.mp hy with hy | hy
    · have := hl₃ y hy
      simp at this hyvalid
      simp [this] at hyvalid
    · rcases mem_cons.mp hy with rfl | hy
      · exact .inl rfl
      · have := (pairwise_append.mp L.sorted).2.1
        exact .inr ((pairwise_cons.mp this).1 y hy)

namespace CefResourceManager

/-! ### The invariant -/

/-- The ledger and the timeline of a manager, for a given provider list and given owners: while
the manager works it may hold a request state itself, and the list may be ahead of the
manager's. -/
structure Inv (P : List ProviderEntry) (H : List Holding) (m : CefResourceManager) : Prop where
  ledger : Ledger P H
  timeline : Timeline P H m.log m.nextState
  entries : ∀ e ∈ P, e.id < m.nextEntry
  positions : ∀ h ∈ H, h.state.currentRequestPos < m.requests.length
  self : ∀ (r : RequestId) (state : RequestState), m.requests[r]? = some (some state) →
    state.currentRequestPos = r
  active : ∀ r, m.active = some r → ∃ h ∈ H, h.state.currentRequestPos = r
  no_fault : m.fault = false

def Good (m : CefResourceManager) : Prop := Inv m.providers m.holdings m

variable {m : CefResourceManager} {P : List ProviderEntry} {H H' : List Holding}
  {state : RequestState}

lemma Inv.perm (I : Inv P H m) (hp : H.Perm H') : Inv P H' m where
  ledger := I.ledger.perm hp
  timeline := I.timeline.perm hp
  entries := I.entries
  positions h hh := I.positions h (hp.mem_iff.mpr hh)
  self := I.self
  active r hr := by
    obtain ⟨h, hh, hpos⟩ := I.active r hr
    exact ⟨h, hp.mem_iff.mp hh, hpos⟩
  no_fault := I.no_fault

lemma new_good : new.Good where
  ledger := by
    refine ⟨List.Pairwise.nil, nodup_nil, ?_, nodup_nil, ?_, ?_, ?_⟩
    all_goals simp [new, holdings]
  timeline := by
    refine ⟨nodup_nil, ?_, ?_, fun i _ => rfl⟩
    all_goals simp [new, holdings]
  entries := by simp [new]
  positions := by simp [new, holdings]
  self := by simp [new]
  active := by simp [new]
  no_fault := rfl

/-! ### Requests change hands -/

lemma filterMap_set_none {α : Type*} : ∀ (l : List (Option α)) (r : Nat) (a : α),
    l[r]? = some (some a) → (l.filterMap id).Perm (a :: (l.set r none).filterMap id)
  | [], r, a, h => by simp at h
  | x :: l, 0, a, h => by
    obtain rfl : x = some a := by simpa using h
    simp
  | x :: l, r + 1, a, h => by
    have ih := filterMap_set_none l r a (by simpa using h)
    cases x with
    | none => simpa using ih
    | some b =>
      simp only [filterMap_cons, id, set_cons_succ]
      exact (ih.cons b).trans (List.Perm.swap a b _)

lemma holdings_take {r : RequestId} (h : m.requests[r]? = some (some state)) :
    m.holdings.Perm (⟨.request, state⟩ ::
      { m with requests := m.requests.set r none }.holdings) := by
  have := (filterMap_set_none m.requests r state h).map (Holding.mk .request)
  exact this.append_right _

lemma holdings_post (m : CefResourceManager) (task : Task) :
    { m with tasks := m.tasks ++ [task] }.holdings.Perm (task.holding :: m.holdings) := by
  simp only [holdings, map_append, map_cons, map_nil, ← append_assoc]
  exact perm_append_singleton _ _

lemma holdings_run {index : Nat} {task : Task} (h : m.tasks[index]? = some task) :
    m.holdings.Perm (task.holding :: { m with tasks := m.tasks.eraseIdx index }.holdings) := by
  obtain ⟨hlt, rfl⟩ := List.getElem?_eq_some_iff.mp h
  have hperm := (getElem_cons_eraseIdx_perm hlt).symm.map Task.holding
  simp only [holdings]
  refine (hperm.append_left _).trans ?_
  rw [map_cons]
  exact perm_middle

lemma self_set (h : ∀ (r : RequestId) (state : RequestState), m.requests[r]? = some (some state) →
      state.currentRequestPos = r) (r : RequestId) : ∀ (r' : RequestId) (state : RequestState),
    (m.requests.set r none)[r']? = some (some state) → state.currentRequestPos = r' := by
  intro r' state hget
  rw [getElem?_set] at hget
  split at hget
  · split at hget <;> simp at hget
  · exact h r' state hget

/-- **A request gives its state to a task**, and the log says so.

**Proof sketch.** The request was offered at its entry, and the event leads from there to the
phase of the task. The ledger does not depend on who holds the state. -/
lemma Inv.post (I : Inv P m.holdings m) {r : RequestId} {task : Task} {event : ResourceEvent}
    (hr : m.requests[r]? = some (some state)) (htask : task.holding.state = state)
    (hevent : event.state = state.id)
    (hadvance : ∀ place, (Phase.offered place).advance event =
      some (task.holding.hold.phase place)) :
    Inv P { m with
        requests := m.requests.set r none
        tasks := m.tasks ++ [task]
        log := event :: m.log }.holdings
      { m with
        requests := m.requests.set r none
        tasks := m.tasks ++ [task]
        log := event :: m.log } := by
  have I' := I.perm (holdings_take hr)
  have hholding : task.holding = ⟨task.holding.hold, state⟩ := by
    rw [← htask]
  have hperm := holdings_post { m with requests := m.requests.set r none, log := event :: m.log }
    task
  refine Inv.perm ⟨?_, ?_, I.entries, ?_, self_set I.self r, ?_, I.no_fault⟩ hperm.symm
  · rw [hholding]
    exact I'.ledger.rehold
  · rw [hholding]
    refine I'.timeline.advance hevent rfl fun e he hpos => ?_
    exact ⟨_, I'.timeline.phases ⟨.request, state⟩ mem_cons_self e he hpos, hadvance e.place⟩
  · intro h hh
    simp only [length_set]
    rw [hholding] at hh
    rcases mem_cons.mp hh with rfl | hh
    · exact I'.positions ⟨.request, state⟩ mem_cons_self
    · exact I'.positions h (mem_cons_of_mem _ hh)
  · intro r' hr'
    obtain ⟨h, hh, hpos⟩ := I'.active r' hr'
    rw [hholding]
    rcases mem_cons.mp hh with rfl | hh
    · exact ⟨_, mem_cons_self, hpos⟩
    · exact ⟨h, mem_cons_of_mem _ hh, hpos⟩

lemma requestContinue_inv (I : Inv P m.holdings m) (r : RequestId)
    (handler : Option ResourceHandler) :
    Inv P (m.requestContinue r handler).holdings (m.requestContinue r handler) := by
  unfold requestContinue
  split
  · rename_i state hr
    cases handler with
    | none => exact I.post hr rfl rfl fun _ => rfl
    | some handler =>
      exact I.post hr rfl rfl fun _ => rfl
  · exact I

lemma requestStop_inv (I : Inv P m.holdings m) (r : RequestId) :
    Inv P (m.requestStop r).holdings (m.requestStop r) := by
  unfold requestStop
  split
  · rename_i state hr
    exact I.post hr rfl rfl fun _ => rfl
  · exact I

lemma cancelPending_inv (stop : Bool) : ∀ (pending : List RequestId) {m : CefResourceManager},
    Inv P m.holdings m → Inv P (pending.foldl (cancelPending stop) m).holdings
      (pending.foldl (cancelPending stop) m)
  | [], _, I => I
  | r :: pending, m, I => by
    refine cancelPending_inv stop pending ?_
    cases stop with
    | true => exact requestStop_inv I r
    | false => exact requestContinue_inv I r none

/-! ### Providers come and go -/

lemma Inv.providers {P' : List ProviderEntry} (I : Inv P H m) (L : Ledger P' H)
    (h : ∀ e' ∈ P', ∃ e ∈ P, e.id = e'.id ∧ e.place = e'.place) : Inv P' H m where
  ledger := L
  timeline := I.timeline.providers fun _ _ e' he' _ => h e' he'
  entries e' he' := by
    obtain ⟨e, he, hid, -⟩ := h e' he'
    rw [← hid]
    exact I.entries e he
  positions := I.positions
  self := I.self
  active := I.active
  no_fault := I.no_fault

/-- **Removing providers** keeps the invariant of the list that is built.

**Proof sketch.** Induction on the rest of the list, with any list of entries already passed in
front of it. An entry without pending requests goes; an entry with some is marked, after its
requests have given their states to tasks. -/
lemma deleteProviders_inv (wanted : ProviderEntry → Bool) (stop : Bool) :
    ∀ (rest : List ProviderEntry) {m m' : CefResourceManager} {rest' : List ProviderEntry}
      (passed : List ProviderEntry), Inv (passed ++ rest) m.holdings m →
      deleteProviders wanted stop rest m = some (rest', m') →
      Inv (passed ++ rest') m'.holdings m'
  | [], m, m', rest', passed, I, h => by
    simp only [deleteProviders, some.injEq, Prod.mk.injEq] at h
    obtain ⟨rfl, rfl⟩ := h
    exact I
  | e :: rest, m, m', rest', passed, I, h => by
    unfold deleteProviders at h
    split at h
    · split at h
      · simp at h
      · split at h
        · rename_i hempty
          refine deleteProviders_inv wanted stop rest passed ?_ h
          refine I.providers (I.ledger.drop (isEmpty_iff.mp hempty)) fun e' he' => ?_
          refine ⟨e', ?_, rfl, rfl⟩
          simp only [mem_append, mem_cons] at he' ⊢
          tauto
        · rename_i hempty
          simp only [bind_eq_bind, bind_eq_some_iff] at h
          obtain ⟨⟨rest₁, m₁⟩, hrest, h⟩ := h
          simp only [Option.pure_def, Option.some.injEq, Prod.mk.injEq] at h
          obtain ⟨rfl, rfl⟩ := h
          have I₁ := cancelPending_inv stop e.pendingRequests I
          have L₂ := I₁.ledger.mark (by simpa using hempty)
          have I₂ := I₁.providers L₂ fun e' he' => by
            simp only [mem_append, mem_cons] at he'
            rcases he' with he' | rfl | he'
            · exact ⟨e', by simp [he'], rfl, rfl⟩
            · exact ⟨e, by simp, rfl, rfl⟩
            · exact ⟨e', by simp [he'], rfl, rfl⟩
          have I₃ := deleteProviders_inv wanted stop rest
            (passed ++ [{ e with deletionPending := true }]) (by simpa using I₂) hrest
          simpa using I₃
    · simp only [bind_eq_bind, bind_eq_some_iff] at h
      obtain ⟨⟨rest₁, m₁⟩, hrest, h⟩ := h
      simp only [Option.pure_def, Option.some.injEq, Prod.mk.injEq] at h
      obtain ⟨rfl, rfl⟩ := h
      have I₃ := deleteProviders_inv wanted stop rest (passed ++ [e]) (by simpa using I) hrest
      simpa using I₃

lemma addProvider_good (I : m.Good) (order : Int) (identifier : String) :
    (m.addProvider order identifier).Good := by
  set entry : ProviderEntry := ⟨m.nextEntry, order, identifier, [], false⟩ with hentry
  have hmem : ∀ x, x ∈ insertEntry entry m.providers → x = entry ∨ x ∈ m.providers := by
    intro x
    generalize m.providers = l
    induction l with
    | nil => simp [insertEntry]
    | cons y l ih =>
      unfold insertEntry
      split
      · simp
      · intro hx
        rcases mem_cons.mp hx with rfl | hx
        · simp
        · rcases ih hx with rfl | hx
          · exact .inl rfl
          · exact .inr (mem_cons_of_mem _ hx)
  refine ⟨I.ledger.insert rfl rfl I.entries, ?_, ?_, I.positions, I.self, I.active, I.no_fault⟩
  · refine I.timeline.providers fun h hh e' he' hpos => ?_
    rcases hmem e' he' with rfl | he'
    · -- no state designates the new entry
      obtain ⟨e, he, hpos', -⟩ := I.ledger.listed h hh
      rw [hpos', some.injEq] at hpos
      exact absurd hpos (Nat.ne_of_lt (I.entries e he))
    · exact ⟨e', he', rfl, rfl⟩
  · intro e' he'
    rcases hmem e' he' with rfl | he'
    · exact lt_succ_self _
    · exact lt_succ_of_lt (I.entries e' he')

/-! ### Requests move on -/

/-- **Detaching a request** from its entry: the state's iterators are valid, the request leaves
the entry's list, and the entry goes with it if its deletion was waiting for that. No valid entry
is lost, and the other entries stay as they are. -/
lemma detach_spec {hold : Hold} (L : Ledger m.providers (⟨hold, state⟩ :: H)) :
    ∃ e ∈ m.providers, state.currentEntryPos = some e.id ∧ ∃ P', m.detachRequestFromProvider state =
        ({ m with providers := P' }, { state with currentEntryPos := none }) ∧
      Ledger P' H ∧ (∀ x' ∈ P', ∃ x ∈ m.providers, x.id = x'.id ∧ x.place = x'.place) ∧
      (∀ x ∈ m.providers, x.id ≠ e.id → x ∈ P') ∧ validOf P' = validOf m.providers := by
  obtain ⟨e, he, hpos, hr⟩ := L.listed ⟨hold, state⟩ mem_cons_self
  dsimp only at hpos hr
  refine ⟨e, he, hpos, ?_⟩
  obtain ⟨l₁, l₂, hP⟩ := append_of_mem he
  have hids := L.ids
  rw [hP] at L hids
  have hcontains : e.pendingRequests.contains state.currentRequestPos = true := by
    simpa using hr
  have hentry : m.entryAt e.id = some e := by
    unfold entryAt
    rw [hP]
    exact find?_split hids
  have hfault : (m.fault || !e.pendingRequests.contains state.currentRequestPos) = m.fault := by
    rw [hcontains]
    simp
  have heq : m.detachRequestFromProvider state = ({ m with
      providers := if e.deletionPending && (e.pendingRequests.erase state.currentRequestPos).isEmpty
        then l₁ ++ l₂
        else l₁ ++ { e with pendingRequests := e.pendingRequests.erase state.currentRequestPos } ::
          l₂ }, { state with currentEntryPos := none }) := by
    simp only [detachRequestFromProvider, hpos, hentry, hfault]
    rw [hP, filter_split hids, updateEntry_split hids]
  refine ⟨_, heq, ?_⟩
  rw [hP]
  by_cases hdel : e.deletionPending && (e.pendingRequests.erase state.currentRequestPos).isEmpty
  · rw [if_pos hdel]
    obtain ⟨hdel, hempty⟩ := Bool.and_eq_true_iff.mp hdel
    -- without the request, and for a moment not marked, the entry has no requests and may go
    refine ⟨(L.pull hpos false fun h => Bool.noConfusion h).drop (isEmpty_iff.mp hempty),
      fun x hx => ⟨x, ?_, rfl, rfl⟩, fun x hx hxe => ?_, ?_⟩
    · simp only [mem_append, mem_cons] at hx ⊢
      tauto
    · simp only [mem_append, mem_cons] at hx ⊢
      rcases hx with hx | rfl | hx
      · exact .inl hx
      · exact (hxe rfl).elim
      · exact .inr hx
    · simp [validOf, hdel]
  · rw [if_neg hdel]
    refine ⟨L.pull hpos e.deletionPending fun hd hempty => hdel (by simp [hd, hempty]),
      fun x hx => ?_, fun x hx hxe => ?_, ?_⟩
    · simp only [mem_append, mem_cons] at hx
      rcases hx with hx | rfl | hx
      · exact ⟨x, by simp [hx], rfl, rfl⟩
      · exact ⟨e, by simp, rfl, rfl⟩
      · exact ⟨x, by simp [hx], rfl, rfl⟩
    · simp only [mem_append, mem_cons] at hx ⊢
      rcases hx with hx | rfl | hx
      · exact .inl hx
      · exact (hxe rfl).elim
      · exact .inr (.inr hx)
    · cases hd : e.deletionPending <;> simp [validOf, hd, ProviderEntry.place]

lemma stopRequest_good (I : Inv m.providers (⟨.closing, state⟩ :: m.holdings) m)
    (hactive : m.active = none) : (m.stopRequest state).Good := by
  obtain ⟨e, he, hpos, P', hdetach, L', hplaces, -, -⟩ := detach_spec I.ledger
  have hclosing : phase state.id m.log = some .closing :=
    I.timeline.phases ⟨.closing, state⟩ mem_cons_self e he hpos
  have hstop : m.stopRequest state =
      { m with providers := P', log := .ended state.id :: m.log } := by
    simp [stopRequest, hdetach, report]
  rw [hstop]
  refine ⟨L', ?_, ?_, fun h hh => I.positions h (mem_cons_of_mem _ hh), I.self, ?_, I.no_fault⟩
  · exact (I.timeline.finish hclosing).providers fun h hh e' he' _ => hplaces e' he'
  · intro e' he'
    obtain ⟨x, hx, hid, -⟩ := hplaces e' he'
    rw [← hid]
    exact I.entries x hx
  · intro r hr
    rw [show m.active = some r from hr] at hactive
    simp at hactive

lemma offer_good {x : ProviderEntry} (L : Ledger m.providers m.holdings) (hx : x ∈ m.providers)
    (hstate : state.currentEntryPos = some x.id) (T : Timeline m.providers
      (⟨.request, { state with currentRequestPos := m.requests.length }⟩ :: m.holdings)
      (.offered state.id x.place m.validPlaces :: m.log) m.nextState)
    (hentries : ∀ e ∈ m.providers, e.id < m.nextEntry)
    (hpositions : ∀ h ∈ m.holdings, h.state.currentRequestPos < m.requests.length)
    (hself : ∀ (r : RequestId) (state : RequestState), m.requests[r]? = some (some state) →
      state.currentRequestPos = r) (hf : m.fault = false) : (m.offer state x).Good := by
  have hperm : (m.offer state x).holdings.Perm
      (⟨.request, { state with currentRequestPos := m.requests.length }⟩ :: m.holdings) := by
    simp only [holdings, offer, filterMap_append, map_append, append_assoc]
    exact perm_middle
  obtain ⟨l₁, l₂, hP⟩ := append_of_mem hx
  have hids := L.ids
  rw [hP] at hids
  have hproviders : (m.offer state x).providers = l₁ ++ { x with
      pendingRequests := x.pendingRequests ++ [m.requests.length] } :: l₂ := by
    simp only [offer]
    rw [hP, updateEntry_split hids]
  have hplaces : ∀ e' ∈ (m.offer state x).providers, ∃ e ∈ m.providers, e.id = e'.id ∧
      e.place = e'.place := by
    intro e' he'
    rw [hproviders] at he'
    rw [hP]
    simp only [mem_append, mem_cons] at he'
    rcases he' with he' | rfl | he'
    · exact ⟨e', by simp [he'], rfl, rfl⟩
    · exact ⟨x, by simp, rfl, rfl⟩
    · exact ⟨e', by simp [he'], rfl, rfl⟩
  refine Inv.perm ⟨?_, ?_, ?_, ?_, ?_, ?_, hf⟩ hperm.symm
  · rw [hproviders]
    rw [hP] at L
    have hpos : ({ state with currentRequestPos := m.requests.length } : RequestState).currentEntryPos =
        some x.id := hstate
    refine L.push hpos ?_
    exact fun h hh => Nat.ne_of_lt (hpositions h hh)
  · exact T.providers fun h hh e' he' _ => hplaces e' he'
  · intro e' he'
    obtain ⟨e, he, hid, -⟩ := hplaces e' he'
    rw [← hid]
    exact hentries e he
  · intro h hh
    simp only [offer, length_append, length_cons, length_nil]
    rcases mem_cons.mp hh with rfl | hh
    · exact lt_succ_self _
    · exact lt_succ_of_lt (hpositions h hh)
  · intro r st hr
    simp only [offer] at hr
    rcases getElem?_concat_eq_some.mp hr with hr | ⟨rfl, hst⟩
    · exact hself r st hr
    · rw [some.inj hst]
  · intro r hr
    obtain rfl : m.requests.length = r := some.inj hr
    exact ⟨_, mem_cons_self, rfl⟩

/-- **Moving a request on**: it is offered to the next valid entry after its own, or ends.

**Proof sketch.** The next entry is found before the request leaves its own entry; it is another
one, so that it is still there afterwards, and leaving changes no valid place. -/
lemma sendToNextProvider_good (I : Inv m.providers (⟨.passing, state⟩ :: m.holdings) m)
    (hactive : m.active = none) : (m.sendToNextProvider state).Good := by
  obtain ⟨e, he, hpos, P', hdetach, L', hplaces, hkept, hvalid⟩ := detach_spec I.ledger
  have hpassed : phase state.id m.log = some (.passed e.place) :=
    I.timeline.phases ⟨.passing, state⟩ mem_cons_self e he hpos
  have hnext := next_of_after I.ledger he
  have hentries : ∀ e' ∈ P', e'.id < m.nextEntry := by
    intro e' he'
    obtain ⟨x, hx, hid, -⟩ := hplaces e' he'
    rw [← hid]
    exact I.entries x hx
  have hT : Timeline P' (⟨.passing, state⟩ :: m.holdings) m.log m.nextState :=
    I.timeline.providers fun h hh e' he' _ => hplaces e' he'
  have hm : { m with fault := m.fault || state.currentEntryPos.isNone } = m := by
    simp [hpos]
  have hincrement : m.incrementProvider state =
      match getNextValidProvider (after e.id m.providers) with
      | some x => (some x, { m with providers := P' }, { state with currentEntryPos := some x.id })
      | none => (none, { m with
          providers := P'
          log := .exhausted state.id (validOf P') :: m.log },
          { state with currentEntryPos := none }) := by
    unfold incrementProvider
    dsimp only
    rw [hm, hdetach, hpos]
    dsimp only
    cases getNextValidProvider (after e.id m.providers) <;> rfl
  unfold sendToNextProvider
  rw [hincrement]
  cases hfind : getNextValidProvider (after e.id m.providers) with
  | some x =>
    rw [hfind] at hnext
    obtain ⟨hx, hxe, -, hisNext⟩ := hnext
    rw [← hvalid] at hisNext
    refine offer_good (m := { m with providers := P' }) L' (hkept x hx hxe) rfl ?_ hentries
      (fun h hh => I.positions h (mem_cons_of_mem _ hh)) I.self I.no_fault
    refine hT.advance rfl rfl fun e' he' hpos' => ⟨_, hpassed, ?_⟩
    have hx' : x = e' := L'.eq_of_id (hkept x hx hxe) he' (some.inj hpos')
    subst hx'
    exact if_pos hisNext
  | none =>
    rw [hfind] at hnext
    have hT' : Timeline P' (⟨.closing, { state with currentEntryPos := none }⟩ :: m.holdings)
        (.exhausted state.id (validOf P') :: m.log) m.nextState :=
      hT.advance rfl rfl fun e' he' hpos' => by simp at hpos'
    have hclosing : phase state.id (.exhausted state.id (validOf P') :: m.log) = some .closing := by
      rw [phase_cons_of_eq (i := state.id) rfl, hpassed]
      rw [← hvalid] at hnext
      exact if_pos hnext
    refine ⟨L', hT'.finish hclosing, hentries,
      fun h hh => I.positions h (mem_cons_of_mem _ hh), I.self, fun r hr => ?_, I.no_fault⟩
    rw [show m.active = some r from hr] at hactive
    simp at hactive

lemma finishSending_good (I : m.Good) (potentiallyHandled : Bool) :
    (m.finishSending potentiallyHandled).Good := by
  unfold finishSending
  split
  · exact ⟨I.ledger, I.timeline, I.entries, I.positions, I.self, I.active, I.no_fault⟩
  · exact I

variable {m' : CefResourceManager} {stop : Bool} {wanted : ProviderEntry → Bool}

lemma onRequestReturns_good (I : m.Good) (handled : Bool)
    (h : m.onRequestReturns handled = some m') : m'.Good := by
  unfold onRequestReturns at h
  split at h
  · simp at h
  · rename_i r hr
    have I₀ : Good { m with active := none } :=
      ⟨I.ledger, I.timeline, I.entries, I.positions, I.self, by simp, I.no_fault⟩
    dsimp only at h
    split at h
    · rename_i state hstate
      have I₁ := I₀.perm (holdings_take (m := { m with active := none }) hstate)
      have hgood : Good (({ m with active := none, requests := m.requests.set r none }.report
          (.declined state.id)).sendToNextProvider state) := by
        refine sendToNextProvider_good ⟨I₁.ledger.rehold, ?_, I.entries, ?_, ?_, ?_, I.no_fault⟩ rfl
        · refine I₁.timeline.advance rfl rfl fun e he hpos => ?_
          exact ⟨_, I₁.timeline.phases ⟨.request, state⟩ mem_cons_self e he hpos, rfl⟩
        · intro h hh
          simp only [report, length_set]
          rcases mem_cons.mp hh with rfl | hh
          · exact I₁.positions ⟨.request, state⟩ mem_cons_self
          · exact I₁.positions h (mem_cons_of_mem _ hh)
        · exact self_set I.self r
        · intro r' hr'
          simp [report] at hr'
      cases h
      split
      · exact finishSending_good hgood false
      · exact hgood
    · cases h
      exact finishSending_good I₀ true

lemma onBeforeResourceLoad_good (I : m.Good) (identifier : Nat)
    (h : m.onBeforeResourceLoad identifier = some m') : m'.Good := by
  unfold onBeforeResourceLoad at h
  split at h
  · simp at h
  · split at h
    · cases h
      exact ⟨I.ledger, I.timeline, I.entries, I.positions, I.self, I.active, I.no_fault⟩
    · rename_i x hx
      obtain ⟨hmem, -, hisNext⟩ := first_of_providers I.ledger hx
      cases h
      have hfresh : ∀ h ∈ m.holdings, h.state.id ≠ m.nextState := fun h hh =>
        Nat.ne_of_lt (I.timeline.begun h hh)
      refine offer_good (m := { m with nextState := m.nextState + 1, loading := true }) I.ledger
        hmem rfl ⟨?_, ?_, ?_, ?_⟩ I.entries I.positions I.self I.no_fault
      · rw [map_cons, nodup_cons]
        refine ⟨fun hmem => ?_, I.timeline.states⟩
        obtain ⟨h, hh, heq⟩ := mem_map.mp hmem
        exact hfresh h hh heq
      · intro h hh
        rcases mem_cons.mp hh with rfl | hh
        · exact lt_succ_self _
        · exact lt_succ_of_lt (I.timeline.begun h hh)
      · intro h hh e he hpos
        rcases mem_cons.mp hh with rfl | hh
        · have hxe : x = e := I.ledger.eq_of_id hmem he (some.inj hpos)
          subst hxe
          rw [phase_cons_of_eq (i := m.nextState) rfl,
            I.timeline.others _ hfresh, if_neg (Nat.lt_irrefl _)]
          exact if_pos hisNext
        · rw [phase_cons_of_ne fun heq => hfresh h hh heq.symm]
          exact I.timeline.phases h hh e he hpos
      · intro i hi
        have hne : m.nextState ≠ i := hi _ mem_cons_self
        show phase i (.offered m.nextState x.place m.validPlaces :: m.log) = _
        rw [phase_cons_of_ne (e := .offered m.nextState x.place m.validPlaces) hne,
          I.timeline.others i fun h hh => hi h (mem_cons_of_mem _ hh)]
        by_cases hlt : i < m.nextState
        · rw [if_pos hlt, if_pos (lt_succ_of_lt hlt)]
        · have hlt' : ¬ i < m.nextState + 1 := by omega
          rw [if_neg hlt, if_neg hlt']

lemma runTask_good (I : m.Good) (index : Nat) (h : m.runTask index = some m') : m'.Good := by
  unfold runTask at h
  split at h
  · simp at h
  · rename_i hactive
    have hactive : m.active = none := by simpa using hactive
    split at h
    · simp at h
    · rename_i task htask
      have I₁ : Inv m.providers
          (task.holding :: { m with tasks := m.tasks.eraseIdx index }.holdings)
          { m with tasks := m.tasks.eraseIdx index } := by
        have := I.perm (holdings_run htask)
        exact ⟨this.ledger, this.timeline, this.entries, this.positions, this.self, this.active,
          this.no_fault⟩
      cases task with
      | continueOnIOThread state handler =>
        cases h
        cases handler with
        | none => exact sendToNextProvider_good I₁ hactive
        | some handler =>
          -- the handler is stored before the request ends
          refine stopRequest_good ?_ hactive
          exact ⟨I₁.ledger, I₁.timeline, I₁.entries, I₁.positions, I₁.self, I₁.active, I₁.no_fault⟩
      | stopOnIOThread state =>
        cases h
        exact stopRequest_good I₁ hactive

lemma removed_good {providers : List ProviderEntry} (I : m.Good)
    (h : deleteProviders wanted stop m.providers m = some (providers, m')) :
    Good { m' with providers := providers } := by
  have I' := deleteProviders_inv wanted stop m.providers [] I h
  exact ⟨I'.ledger, I'.timeline, I'.entries, I'.positions, I'.self, I'.active, I'.no_fault⟩

lemma step_good (a : Action) (I : m.Good) (h : m.step a = some m') : m'.Good := by
  cases a with
  | addProvider order identifier =>
    cases h
    exact addProvider_good I order identifier
  | removeProviders identifier =>
    obtain ⟨⟨providers, m₁⟩, hdelete, h⟩ := bind_eq_some_iff.mp h
    cases h
    exact removed_good I hdelete
  | removeAllProviders =>
    obtain ⟨⟨providers, m₁⟩, hdelete, h⟩ := bind_eq_some_iff.mp h
    cases h
    exact removed_good I hdelete
  | requestContinue r handler =>
    cases h
    have hproviders : (m.requestContinue r handler).providers = m.providers := by
      unfold requestContinue
      split <;> rfl
    unfold Good
    rw [hproviders]
    exact requestContinue_inv I r handler
  | requestStop r =>
    cases h
    have hproviders : (m.requestStop r).providers = m.providers := by
      unfold requestStop
      split <;> rfl
    unfold Good
    rw [hproviders]
    exact requestStop_inv I r
  | onBeforeResourceLoad identifier => exact onBeforeResourceLoad_good I identifier h
  | getResourceHandler identifier =>
    cases h
    exact ⟨I.ledger, I.timeline, I.entries, I.positions, I.self, I.active, I.no_fault⟩
  | onRequestReturns handled => exact onRequestReturns_good I handled h
  | runTask index => exact runTask_good I index h

lemma good_of_run {acts : List Action} {m : CefResourceManager}
    (h : acts.foldlM step new = some m) : m.Good :=
  Transition.run_invariant (fun _ a _ I hstep => step_good a I hstep) new_good h

/-! ### Entries that are to be deleted -/

/-- If there still is an entry with number `k` in the list, then its deletion is pending. -/
def MarkedIn (k : EntryId) (P : List ProviderEntry) : Prop :=
  ∀ e ∈ P, e.id = k → e.deletionPending = true

/-- The number `k` has been given to an entry, which is gone or to be deleted. -/
def Marked (k : EntryId) (m : CefResourceManager) : Prop :=
  k < m.nextEntry ∧ MarkedIn k m.providers

variable {k : EntryId}

lemma MarkedIn.updateEntry (h : MarkedIn k P) (pos : EntryId) {f : ProviderEntry → ProviderEntry}
    (hid : ∀ e, (f e).id = e.id) (hdel : ∀ e, (f e).deletionPending = e.deletionPending) :
    MarkedIn k (updateEntry P pos f) := by
  intro e' he' hk
  obtain ⟨e, he, rfl⟩ := mem_map.mp he'
  by_cases hpos : e.id = pos
  · rw [if_pos hpos] at hk ⊢
    rw [hdel]
    exact h e he (hid e ▸ hk)
  · rw [if_neg hpos] at hk ⊢
    exact h e he hk

lemma MarkedIn.insertEntry (h : MarkedIn k P) {entry : ProviderEntry} (hk : entry.id ≠ k) :
    MarkedIn k (insertEntry entry P) := by
  induction P with
  | nil =>
    intro e he heq
    obtain rfl := mem_singleton.mp he
    exact (hk heq).elim
  | cons x P ih =>
    have hP : MarkedIn k P := fun e he => h e (mem_cons_of_mem _ he)
    unfold CefResourceManager.insertEntry
    split
    · intro e he heq
      rcases mem_cons.mp he with rfl | he
      · exact (hk heq).elim
      · exact h e he heq
    · intro e he heq
      rcases mem_cons.mp he with rfl | he
      · exact h e mem_cons_self heq
      · exact ih hP e he heq

lemma nextEntry_cancelPending (stop : Bool) (r : RequestId) :
    (m.cancelPending stop r).nextEntry = m.nextEntry := by
  unfold cancelPending requestStop requestContinue
  split <;> split <;> rfl

lemma nextEntry_cancelPendings (stop : Bool) : ∀ (pending : List RequestId)
    (m : CefResourceManager), (pending.foldl (cancelPending stop) m).nextEntry = m.nextEntry
  | [], _ => rfl
  | r :: pending, m => by
    rw [foldl_cons, nextEntry_cancelPendings stop pending, nextEntry_cancelPending]

lemma MarkedIn.deleteProviders :
    ∀ {P rest : List ProviderEntry} {m m' : CefResourceManager}, MarkedIn k P →
      deleteProviders wanted stop P m = some (rest, m') →
      m'.nextEntry = m.nextEntry ∧ MarkedIn k rest
  | [], rest, m, m', _, h => by
    simp only [CefResourceManager.deleteProviders, some.injEq, Prod.mk.injEq] at h
    rw [← h.1, ← h.2]
    exact ⟨rfl, fun e he => by simp at he⟩
  | e :: P, rest, m, m', hP, h => by
    have hrest : MarkedIn k P := fun x hx => hP x (mem_cons_of_mem _ hx)
    unfold CefResourceManager.deleteProviders at h
    split at h
    · split at h
      · simp at h
      · split at h
        · exact hrest.deleteProviders h
        · obtain ⟨⟨rest₁, m₁⟩, hdelete, h⟩ := bind_eq_some_iff.mp h
          cases h
          obtain ⟨hnext, hrest₁⟩ := hrest.deleteProviders hdelete
          refine ⟨hnext.trans (nextEntry_cancelPendings stop _ m), fun x hx hk => ?_⟩
          rcases mem_cons.mp hx with rfl | hx
          · rfl
          · exact hrest₁ x hx hk
    · obtain ⟨⟨rest₁, m₁⟩, hdelete, h⟩ := bind_eq_some_iff.mp h
      cases h
      obtain ⟨hnext, hrest₁⟩ := hrest.deleteProviders hdelete
      refine ⟨hnext, fun x hx hk => ?_⟩
      rcases mem_cons.mp hx with rfl | hx
      · exact hP x mem_cons_self hk
      · exact hrest₁ x hx hk

section

variable (h : Marked k m)
include h

lemma Marked.removed {providers : List ProviderEntry}
    (hdelete : deleteProviders wanted stop m.providers m = some (providers, m')) :
    Marked k { m' with providers := providers } := by
  obtain ⟨hnext, hmarked⟩ := h.2.deleteProviders hdelete
  refine ⟨?_, hmarked⟩
  rw [hnext]
  exact h.1

section

variable (state : RequestState)

lemma Marked.detachRequestFromProvider :
    Marked k (m.detachRequestFromProvider state).1 := by
  unfold CefResourceManager.detachRequestFromProvider
  split
  · exact h
  · split
    · exact h
    · refine ⟨h.1, ?_⟩
      dsimp only
      split
      · exact fun e he => h.2 e (mem_of_mem_filter he)
      · exact h.2.updateEntry _ (fun _ => rfl) fun _ => rfl

lemma Marked.stopRequest : Marked k (m.stopRequest state) :=
  h.detachRequestFromProvider state

lemma Marked.offer (entry : ProviderEntry) :
    Marked k (m.offer state entry) :=
  ⟨h.1, h.2.updateEntry _ (fun _ => rfl) fun _ => rfl⟩

lemma Marked.sendToNextProvider : Marked k (m.sendToNextProvider state) := by
  have hdetach := Marked.detachRequestFromProvider
    (m := { m with fault := m.fault || state.currentEntryPos.isNone }) h state
  unfold CefResourceManager.sendToNextProvider incrementProvider
  dsimp only
  split
  · rename_i hincrement
    split at hincrement
    · cases hincrement
      exact hdetach.offer _ _
    · simp at hincrement
  · rename_i hincrement
    split at hincrement
    · simp at hincrement
    · cases hincrement
      refine Marked.stopRequest ?_ _
      exact hdetach

end

lemma Marked.finishSending (potentiallyHandled : Bool) :
    Marked k (m.finishSending potentiallyHandled) := by
  unfold CefResourceManager.finishSending
  split <;> exact h

end

/-- **An entry that is to be deleted** stays so until it is gone, and its number is not given
again. -/
lemma Marked.step (a : Action) (h : Marked k m) (hstep : m.step a = some m') : Marked k m' := by
  cases a with
  | addProvider order identifier =>
    cases hstep
    exact ⟨Nat.lt_succ_of_lt h.1, h.2.insertEntry (Nat.ne_of_gt h.1)⟩
  | removeProviders identifier =>
    obtain ⟨⟨providers, m₁⟩, hdelete, hstep⟩ := bind_eq_some_iff.mp hstep
    cases hstep
    exact h.removed hdelete
  | removeAllProviders =>
    obtain ⟨⟨providers, m₁⟩, hdelete, hstep⟩ := bind_eq_some_iff.mp hstep
    cases hstep
    exact h.removed hdelete
  | requestContinue r handler =>
    cases hstep
    unfold requestContinue
    split <;> exact h
  | requestStop r =>
    cases hstep
    unfold requestStop
    split <;> exact h
  | onBeforeResourceLoad identifier =>
    change m.onBeforeResourceLoad identifier = some m' at hstep
    unfold onBeforeResourceLoad at hstep
    split at hstep
    · simp at hstep
    · split at hstep
      · cases hstep
        exact h
      · cases hstep
        refine Marked.offer ?_ _ _
        exact h
  | getResourceHandler identifier =>
    cases hstep
    exact h
  | onRequestReturns handled =>
    change m.onRequestReturns handled = some m' at hstep
    unfold onRequestReturns at hstep
    split at hstep
    · simp at hstep
    · dsimp only at hstep
      split at hstep
      · rename_i r _ _ _ state _
        have hsent : Marked k (({ m with active := none, requests := m.requests.set r none }.report
            (.declined state.id)).sendToNextProvider state) := by
          refine Marked.sendToNextProvider ?_ _
          exact h
        cases hstep
        split
        · exact hsent.finishSending false
        · exact hsent
      · cases hstep
        refine Marked.finishSending ?_ _
        exact h
  | runTask index =>
    change m.runTask index = some m' at hstep
    unfold runTask at hstep
    split at hstep
    · simp at hstep
    · split at hstep
      · simp at hstep
      · rename_i task _
        cases task with
        | continueOnIOThread state handler =>
          cases hstep
          cases handler with
          | none =>
            refine Marked.sendToNextProvider ?_ _
            exact h
          | some handler =>
            refine Marked.stopRequest ?_ _
            exact h
        | stopOnIOThread state =>
          cases hstep
          refine Marked.stopRequest ?_ _
          exact h

/-! ### What every run keeps -/

/-- The ownership discipline: a request state has one owner, a `Request` object or a posted task,
from its first offer until its callback is continued, which happens once. It is pending once, at
the entry that its iterators designate, and nothing else is pending there. No iterator has been
used after its node was gone. -/
structure OwnershipDiscipline (m : CefResourceManager) : Prop where
  owned_once : (m.owned.map (·.id)).Nodup
  begun : ∀ state ∈ m.owned, state.id < m.nextState
  owned_or_ended : ∀ i < m.nextState,
    (∃ state ∈ m.owned, state.id = i) ∧ m.log.count (.ended i) = 0 ∨
    (∀ state ∈ m.owned, state.id ≠ i) ∧ m.log.count (.ended i) = 1
  own_position : ∀ (r : RequestId) (state : RequestState), m.requests[r]? = some (some state) →
    state.currentRequestPos = r
  entries_distinct : (m.providers.map (·.id)).Nodup
  listed : ∀ state ∈ m.owned, ∃ e ∈ m.providers, state.currentEntryPos = some e.id ∧
    e.pendingRequests.count state.currentRequestPos = 1 ∧
    ∀ e' ∈ m.providers, state.currentRequestPos ∈ e'.pendingRequests → e' = e
  pending_owned : ∀ e ∈ m.providers, ∀ r ∈ e.pendingRequests, ∃ state ∈ m.owned,
    state.currentRequestPos = r ∧ state.currentEntryPos = some e.id
  deleting : ∀ e ∈ m.providers, e.deletionPending = true → e.pendingRequests ≠ []
  iterators_valid : m.fault = false

lemma mem_owned (state : RequestState) : state ∈ m.owned ↔ ∃ h ∈ m.holdings, h.state = state := by
  rw [← m.map_state_holdings, List.mem_map]

lemma Good.discipline (I : m.Good) : m.OwnershipDiscipline where
  owned_once := by
    rw [← m.map_state_holdings, List.map_map]
    exact I.timeline.states
  begun state hstate := by
    obtain ⟨h, hh, rfl⟩ := (mem_owned state).mp hstate
    exact I.timeline.begun h hh
  owned_or_ended i hi := by
    by_cases howned : ∃ h ∈ m.holdings, h.state.id = i
    · obtain ⟨h, hh, rfl⟩ := howned
      obtain ⟨e, he, hpos, -⟩ := I.ledger.listed h hh
      have hcount := ended_of_phase (I.timeline.phases h hh e he hpos)
      refine .inl ⟨⟨h.state, (mem_owned _).mpr ⟨h, hh, rfl⟩, rfl⟩, ?_⟩
      rw [hcount, if_neg]
      cases h.hold <;> simp [Hold.phase]
    · push Not at howned
      have hphase := I.timeline.others i howned
      rw [if_pos hi] at hphase
      refine .inr ⟨fun state hstate => ?_, ended_of_phase hphase⟩
      obtain ⟨h, hh, rfl⟩ := (mem_owned state).mp hstate
      exact howned h hh
  own_position := I.self
  entries_distinct := I.ledger.ids
  listed state hstate := by
    obtain ⟨h, hh, rfl⟩ := (mem_owned state).mp hstate
    obtain ⟨e, he, hpos, hr⟩ := I.ledger.listed h hh
    refine ⟨e, he, hpos, List.count_eq_one_of_mem (I.ledger.pending e he) hr,
      fun e' he' hr' => ?_⟩
    -- the position belongs to one state only, and that designates one entry
    obtain ⟨h', hh', hr'', hpos'⟩ := I.ledger.claimed e' he' _ hr'
    obtain rfl : h' = h := List.inj_on_of_nodup_map I.ledger.positions hh' hh hr''
    rw [hpos, Option.some.injEq] at hpos'
    exact I.ledger.eq_of_id he' he hpos'.symm
  pending_owned e he r hr := by
    obtain ⟨h, hh, hpos⟩ := I.ledger.claimed e he r hr
    exact ⟨h.state, (mem_owned _).mpr ⟨h, hh, rfl⟩, hpos⟩
  deleting := I.ledger.deleting
  iterators_valid := I.no_fault

lemma Good.marked_iff (I : m.Good) (h : Marked k m) :
    (∃ e ∈ m.providers, e.id = k) ↔ ∃ state ∈ m.owned, state.currentEntryPos = some k := by
  constructor
  · rintro ⟨e, he, rfl⟩
    obtain ⟨r, hr⟩ := exists_mem_of_ne_nil _ (I.ledger.deleting e he (h.2 e he rfl))
    obtain ⟨holding, hh, -, hpos⟩ := I.ledger.claimed e he r hr
    exact ⟨holding.state, (mem_owned _).mpr ⟨holding, hh, rfl⟩, hpos⟩
  · rintro ⟨state, hstate, hk⟩
    obtain ⟨holding, hh, rfl⟩ := (mem_owned state).mp hstate
    obtain ⟨e, he, hpos, -⟩ := I.ledger.listed holding hh
    rw [hk, some.injEq] at hpos
    exact ⟨e, he, hpos.symm⟩

/-- **Ownership of requests.** In every state of every run the ownership discipline holds, and an
entry whose deletion is pending there is, at every later moment, in the list exactly as long as
some request is at it. -/
theorem request_ownership {acts : List Action} {m : CefResourceManager}
    (h : acts.foldlM step new = some m) :
    m.OwnershipDiscipline ∧ ∀ e ∈ m.providers, e.deletionPending = true →
      ∀ (acts' : List Action) (m' : CefResourceManager), acts'.foldlM step m = some m' →
        ((∃ e' ∈ m'.providers, e'.id = e.id) ↔
          ∃ state ∈ m'.owned, state.currentEntryPos = some e.id) := by
  have I := good_of_run h
  refine ⟨I.discipline, fun e he hdel acts' m' h' => ?_⟩
  have hmarked : Marked e.id m := by
    refine ⟨I.entries e he, fun x hx hid => ?_⟩
    rw [I.ledger.eq_of_id hx he hid]
    exact hdel
  have I' : m'.Good := Transition.run_invariant (fun _ a _ I hstep => step_good a I hstep) I h'
  refine I'.marked_iff (Transition.run_invariant (fun _ a _ h hstep => ?_) hmarked h')
  exact Marked.step a h hstep

/-- A run in which a provider keeps the first request, declines the second, and is removed with
the first pending; that request is continued twice, and a provider that stops it is added. -/
def removedWhilePending : List Action :=
  [.addProvider 5 "a", .addProvider 5 "b", .onBeforeResourceLoad 70, .onRequestReturns true,
    .onBeforeResourceLoad 71, .onRequestReturns false, .requestStop 2, .onRequestReturns false,
    .removeProviders "a", .requestContinue 0 (some 9), .addProvider 2 "c", .runTask 0]

theorem request_ownership_removedWhilePending : ∃ m,
    removedWhilePending.foldlM step new = some m ∧ (m.providers.map (·.id)) = [2, 0, 1] ∧
      m.OwnershipDiscipline := by
  have hrun : removedWhilePending.foldlM step new =
      some ((removedWhilePending.foldlM step new).getD new) :=
    (getD_of_ne_none (isSome_iff_ne_none.mp (by decide)) _).symm
  exact ⟨_, hrun, by decide, (request_ownership hrun).1⟩

/-- Between `Continue` and the task that it posts, no `Request` object owns the state. -/
theorem continued_state_owned_by_task :
    ¬ ∀ (acts : List Action) (m : CefResourceManager), acts.foldlM step new = some m →
      ∀ i < m.nextState, m.log.count (.ended i) = 0 →
        ∃ state, some state ∈ m.requests ∧ state.id = i := by
  intro h
  have hrun : [Action.addProvider 0 "a", .onBeforeResourceLoad 7, .requestContinue 0 none].foldlM
      step new = some (([Action.addProvider 0 "a", .onBeforeResourceLoad 7,
        .requestContinue 0 none].foldlM step new).getD new) :=
    (getD_of_ne_none (isSome_iff_ne_none.mp (by decide)) _).symm
  obtain ⟨state, hstate, -⟩ := h _ _ hrun 0 (by decide) (by decide)
  have hnone : some state ∈ [none] := hstate
  simp at hnone

/-- **The order of the offers.** In every run each request is offered to providers in ascending
order, to each at most once, never to one whose deletion is pending; no valid provider after the
last one is skipped, and nothing is offered after the request was handled, stopped or ended. -/
theorem provider_order {acts : List Action} {m : CefResourceManager}
    (h : acts.foldlM step new = some m) : OfferDiscipline m.log := by
  have I := good_of_run h
  exact (I.timeline.accepted I.ledger).offerDiscipline

/-- Providers with equal orders, and one added ahead of the request while it is pending. -/
def offeredInOrder : List Action :=
  [.addProvider 5 "a", .addProvider 5 "b", .onBeforeResourceLoad 70, .onRequestReturns true,
    .addProvider 2 "c", .addProvider 7 "d", .addProvider 5 "e", .removeProviders "b",
    .requestContinue 0 none, .runTask 0, .onRequestReturns false, .onRequestReturns false]

theorem provider_order_offeredInOrder : ∃ m, offeredInOrder.foldlM step new = some m ∧
    (places 0 m.log).map (·.id) = [3, 4, 0] ∧ OfferDiscipline m.log := by
  have hrun : offeredInOrder.foldlM step new =
      some ((offeredInOrder.foldlM step new).getD new) :=
    (getD_of_ne_none (isSome_iff_ne_none.mp (by decide)) _).symm
  exact ⟨_, hrun, by decide, provider_order hrun⟩

end CefResourceManager

end CefCore.ResourceManager
