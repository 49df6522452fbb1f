import CefCore.ResourceManager.CppManager
import Mathlib.Data.List.Nodup
import Mathlib.Data.List.Perm.Basic

/-!
# The books of the C++ resource manager

A request state is owned by the `Request` object that is with a provider or by a posted task, and
its iterators designate the provider entry and the place in that entry's list where its request is
pending. This file has one lemma for each change that the manager makes to the provider list and to
the owners.

## Main definitions

* `Ledger`: the provider list and the list of all owners agree on this.
* `Timeline`: the owners and the log agree.
-/

namespace CefCore.ResourceManager

open List Option

/-! ### Owners -/

inductive Hold where
  /-- A `Request` object, which is with a provider. -/
  | request
  /-- A task, or the manager itself, that will move the request to the next provider. -/
  | passing
  /-- A task, or the manager itself, that will end the request. -/
  | closing

def Hold.phase : Hold → Place → Phase
  | .request, place => .offered place
  | .passing, place => .passed place
  | .closing, _ => .closing

structure Holding where
  hold : Hold
  state : RequestState

def Task.holding : Task → Holding
  | .continueOnIOThread state none => ⟨.passing, state⟩
  | .continueOnIOThread state (some _) => ⟨.closing, state⟩
  | .stopOnIOThread state => ⟨.closing, state⟩

def CefResourceManager.holdings (m : CefResourceManager) : List Holding :=
  (m.requests.filterMap id).map (⟨.request, ·⟩) ++ m.tasks.map Task.holding

/-- The request states that are owned, with repetition if one is owned twice. -/
def CefResourceManager.owned (m : CefResourceManager) : List RequestState :=
  m.requests.filterMap id ++ m.tasks.map Task.state

lemma CefResourceManager.map_state_holdings (m : CefResourceManager) :
    m.holdings.map Holding.state = m.owned := by
  have htask : ∀ t : Task, t.holding.state = t.state := by
    intro t
    cases t with
    | continueOnIOThread state handler => cases handler <;> rfl
    | stopOnIOThread state => rfl
  simp [holdings, owned, Function.comp_def, htask]

/-! ### The provider list and the owners -/

/-- The provider list is sorted, its entries are distinct, and the pending requests of the
entries are the positions of the owned request states, each at the entry that the state
designates. An entry whose deletion is pending has pending requests. -/
structure Ledger (P : List ProviderEntry) (H : List Holding) : Prop where
  sorted : P.Pairwise fun a b => a.place.Before b.place
  ids : (P.map (·.id)).Nodup
  pending : ∀ e ∈ P, e.pendingRequests.Nodup
  positions : (H.map (·.state.currentRequestPos)).Nodup
  listed : ∀ h ∈ H, ∃ e ∈ P, h.state.currentEntryPos = some e.id ∧
    h.state.currentRequestPos ∈ e.pendingRequests
  claimed : ∀ e ∈ P, ∀ r ∈ e.pendingRequests, ∃ h ∈ H, h.state.currentRequestPos = r ∧
    h.state.currentEntryPos = some e.id
  deleting : ∀ e ∈ P, e.deletionPending = true → e.pendingRequests ≠ []

section Ledger

variable {P : List ProviderEntry} {H H' : List Holding} {e e' : ProviderEntry} {h : Holding}

lemma Ledger.perm (L : Ledger P H) (hp : H.Perm H') : Ledger P H' where
  sorted := L.sorted
  ids := L.ids
  pending := L.pending
  positions := (hp.map _).nodup_iff.mp L.positions
  listed h hh := L.listed h (hp.mem_iff.mpr hh)
  claimed e he r hr := by
    obtain ⟨h, hh, hpos⟩ := L.claimed e he r hr
    exact ⟨h, hp.mem_iff.mp hh, hpos⟩
  deleting := L.deleting

lemma Ledger.eq_of_id (L : Ledger P H) (he : e ∈ P) (he' : e' ∈ P) (hid : e.id = e'.id) : e = e' :=
  inj_on_of_nodup_map L.ids he he' hid

lemma Ledger.rehold {hold hold' : Hold} {state : RequestState}
    (L : Ledger P (⟨hold, state⟩ :: H)) : Ledger P (⟨hold', state⟩ :: H) where
  sorted := L.sorted
  ids := L.ids
  pending := L.pending
  positions := L.positions
  listed h hh := by
    rcases mem_cons.mp hh with rfl | hh
    · exact L.listed ⟨hold, state⟩ mem_cons_self
    · exact L.listed h (mem_cons_of_mem _ hh)
  claimed e he r hr := by
    obtain ⟨h, hh, hpos⟩ := L.claimed e he r hr
    rcases mem_cons.mp hh with rfl | hh
    · exact ⟨⟨hold', state⟩, mem_cons_self, hpos⟩
    · exact ⟨h, mem_cons_of_mem _ hh, hpos⟩
  deleting := L.deleting

variable {l₁ l₂ : List ProviderEntry}

lemma Ledger.drop (L : Ledger (l₁ ++ e :: l₂) H)
    (hempty : e.pendingRequests = []) : Ledger (l₁ ++ l₂) H := by
  have hsub : (l₁ ++ l₂).Sublist (l₁ ++ e :: l₂) :=
    List.Sublist.append_left (sublist_cons_self e l₂) l₁
  refine ⟨L.sorted.sublist hsub, L.ids.sublist (hsub.map _), ?_, L.positions, ?_, ?_, ?_⟩
  · exact fun e' he' => L.pending e' (hsub.mem he')
  · intro h hh
    obtain ⟨e', he', hpos, hr⟩ := L.listed h hh
    refine ⟨e', ?_, hpos, hr⟩
    rcases mem_append.mp he' with he' | he'
    · exact mem_append_left _ he'
    · rcases mem_cons.mp he' with rfl | he'
      · rw [hempty] at hr
        simp at hr
      · exact mem_append_right _ he'
  · exact fun e' he' => L.claimed e' (hsub.mem he')
  · exact fun e' he' => L.deleting e' (hsub.mem he')

/-- **Changing one entry in place**, together with the owners whose states designate it.

**Proof sketch.** The other entries and the owners designating them are the same before and
after; the entry's number and order, which the list's order rests on, do not change. -/
lemma Ledger.update (L : Ledger (l₁ ++ e :: l₂) H)
    (hid : e'.id = e.id) (horder : e'.order = e.order) (hnodup : e'.pendingRequests.Nodup)
    (hpositions : (H'.map (·.state.currentRequestPos)).Nodup)
    (hlisted : ∀ h ∈ H', h.state.currentEntryPos = some e.id ∧
        h.state.currentRequestPos ∈ e'.pendingRequests ∨
      h ∈ H ∧ h.state.currentEntryPos ≠ some e.id)
    (hclaimed : ∀ r ∈ e'.pendingRequests, ∃ h ∈ H', h.state.currentRequestPos = r ∧
      h.state.currentEntryPos = some e.id)
    (hothers : ∀ h ∈ H, h.state.currentEntryPos ≠ some e.id → h ∈ H')
    (hdeleting : e'.deletionPending = true → e'.pendingRequests ≠ []) :
    Ledger (l₁ ++ e' :: l₂) H' := by
  have hplace : e'.place = e.place := by simp [ProviderEntry.place, hid, horder]
  -- an entry of the new list is the changed one or an old one with another number
  have hmem : ∀ x ∈ l₁ ++ e' :: l₂, x = e' ∨ x ∈ l₁ ++ e :: l₂ ∧ x.id ≠ e.id := by
    intro x hx
    have hnot : ∀ x, x ∈ l₁ ∨ x ∈ l₂ → x ∈ l₁ ++ e :: l₂ ∧ x.id ≠ e.id := by
      intro x hx
      refine ⟨by simpa using hx.imp_right .inr, fun heq => ?_⟩
      have hids := L.ids
      rw [map_append, map_cons, nodup_middle, nodup_cons] at hids
      refine hids.1 ?_
      rw [← map_append]
      exact mem_map.mpr ⟨x, mem_append.mpr hx, heq⟩
    rcases mem_append.mp hx with hx | hx
    · exact .inr (hnot x (.inl hx))
    · rcases mem_cons.mp hx with rfl | hx
      · exact .inl rfl
      · exact .inr (hnot x (.inr hx))
  refine ⟨?_, ?_, ?_, hpositions, ?_, ?_, ?_⟩
  · have := L.sorted
    simp only [pairwise_append, pairwise_cons, mem_cons, forall_eq_or_imp, hplace] at this ⊢
    exact this
  · have := L.ids
    simpa [hid] using this
  · intro x hx
    rcases hmem x hx with rfl | ⟨hx, -⟩
    · exact hnodup
    · exact L.pending x hx
  · intro h hh
    rcases hlisted h hh with ⟨hpos, hr⟩ | ⟨hh, hpos⟩
    · exact ⟨e', by simp, hid ▸ hpos, hr⟩
    · obtain ⟨x, hx, hxpos, hr⟩ := L.listed h hh
      refine ⟨x, ?_, hxpos, hr⟩
      have hne : x ≠ e := by
        rintro rfl
        exact hpos hxpos
      simp only [mem_append, mem_cons] at hx ⊢
      tauto
  · intro x hx r hr
    rcases hmem x hx with rfl | ⟨hx, hne⟩
    · rw [hid]
      exact hclaimed r hr
    · obtain ⟨h, hh, hpos, hentry⟩ := L.claimed x hx r hr
      refine ⟨h, hothers h hh ?_, hpos, hentry⟩
      rw [hentry]
      simpa using hne
  · intro x hx hdel
    rcases hmem x hx with rfl | ⟨hx, -⟩
    · exact hdeleting hdel
    · exact L.deleting x hx hdel

lemma Ledger.mark (L : Ledger (l₁ ++ e :: l₂) H) (hne : e.pendingRequests ≠ []) :
    Ledger (l₁ ++ { e with deletionPending := true } :: l₂) H := by
  have he : e ∈ l₁ ++ e :: l₂ := by simp
  refine L.update rfl rfl (L.pending e he) L.positions (fun h hh => ?_) (L.claimed e he)
    (fun h hh _ => hh) fun _ => hne
  by_cases hpos : h.state.currentEntryPos = some e.id
  · obtain ⟨x, hx, hxpos, hr⟩ := L.listed h hh
    rw [hpos, some.injEq] at hxpos
    rw [← L.eq_of_id he hx hxpos] at hr
    exact .inl ⟨hpos, hr⟩
  · exact .inr ⟨hh, hpos⟩

lemma Ledger.push {state : RequestState} {hold : Hold}
    (L : Ledger (l₁ ++ e :: l₂) H) (hpos : state.currentEntryPos = some e.id)
    (hnew : ∀ h ∈ H, h.state.currentRequestPos ≠ state.currentRequestPos)  :
    Ledger (l₁ ++ { e with pendingRequests := e.pendingRequests ++ [state.currentRequestPos] } :: l₂)
      (⟨hold, state⟩ :: H) := by
  have he : e ∈ l₁ ++ e :: l₂ := by simp
  have hfresh : state.currentRequestPos ∉ e.pendingRequests := by
    intro hmem
    obtain ⟨h, hh, hr, -⟩ := L.claimed e he _ hmem
    exact hnew h hh hr
  refine L.update rfl rfl ?_ ?_ (fun h hh => ?_) (fun r hr => ?_) (fun h hh _ => ?_) ?_
  · exact List.Nodup.append (L.pending e he) (nodup_singleton _)
      (disjoint_singleton.mpr hfresh)
  · rw [map_cons, nodup_cons]
    refine ⟨?_, L.positions⟩
    rintro hmem
    obtain ⟨h, hh, hr⟩ := mem_map.mp hmem
    exact hnew h hh hr
  · rcases mem_cons.mp hh with rfl | hh
    · exact .inl ⟨hpos, by simp⟩
    · by_cases hentry : h.state.currentEntryPos = some e.id
      · obtain ⟨x, hx, hxpos, hr⟩ := L.listed h hh
        rw [hentry, some.injEq] at hxpos
        rw [← L.eq_of_id he hx hxpos] at hr
        exact .inl ⟨hentry, mem_append_left _ hr⟩
      · exact .inr ⟨hh, hentry⟩
  · rcases mem_append.mp hr with hr | hr
    · obtain ⟨h, hh, hpos⟩ := L.claimed e he r hr
      exact ⟨h, mem_cons_of_mem _ hh, hpos⟩
    · obtain rfl := mem_singleton.mp hr
      exact ⟨⟨hold, state⟩, mem_cons_self, rfl, hpos⟩
  · exact mem_cons_of_mem _ hh
  · simp

lemma Ledger.pull (L : Ledger (l₁ ++ e :: l₂) (h :: H))
    (hpos : h.state.currentEntryPos = some e.id) (deletionPending : Bool)
    (hleft : deletionPending = true →
      e.pendingRequests.erase h.state.currentRequestPos ≠ []) :
    Ledger (l₁ ++ { e with
      pendingRequests := e.pendingRequests.erase h.state.currentRequestPos
      deletionPending := deletionPending } :: l₂) H := by
  have he : e ∈ l₁ ++ e :: l₂ := by simp
  have hposns := L.positions
  rw [map_cons, nodup_cons] at hposns
  have hother : ∀ x ∈ H, x.state.currentRequestPos ≠ h.state.currentRequestPos := by
    intro x hx heq
    exact hposns.1 (mem_map.mpr ⟨x, hx, heq⟩)
  refine L.update rfl rfl ((L.pending e he).erase _) hposns.2 (fun x hx => ?_) (fun r hr => ?_)
    (fun x hx hne => ?_) hleft
  · by_cases hentry : x.state.currentEntryPos = some e.id
    · obtain ⟨y, hy, hypos, hr⟩ := L.listed x (mem_cons_of_mem _ hx)
      rw [hentry, some.injEq] at hypos
      rw [← L.eq_of_id he hy hypos] at hr
      exact .inl ⟨hentry, (mem_erase_of_ne (hother x hx)).mpr hr⟩
    · exact .inr ⟨mem_cons_of_mem _ hx, hentry⟩
  · obtain ⟨hne, hr⟩ := ((L.pending e he).mem_erase_iff).mp hr
    obtain ⟨x, hx, hxr, hxpos⟩ := L.claimed e he r hr
    rcases mem_cons.mp hx with rfl | hx
    · exact (hne hxr.symm).elim
    · exact ⟨x, hx, hxr, hxpos⟩
  · rcases mem_cons.mp hx with rfl | hx
    · exact (hne hpos).elim
    · exact hx

lemma Ledger.insert (L : Ledger P H) (hempty : e.pendingRequests = [])
    (hdel : e.deletionPending = false) (hid : ∀ x ∈ P, x.id < e.id) :
    Ledger (CefResourceManager.insertEntry e P) H := by
  obtain ⟨l₁, l₂, rfl, hinsert, hl₁, hl₂⟩ : ∃ l₁ l₂, P = l₁ ++ l₂ ∧
      CefResourceManager.insertEntry e P = l₁ ++ e :: l₂ ∧ (∀ x ∈ l₁, x.place.Before e.place) ∧
      ∀ x ∈ l₂, e.place.Before x.place := by
    have hsorted := L.sorted
    clear L
    induction P with
    | nil => exact ⟨[], [], rfl, rfl, by simp, by simp⟩
    | cons x P ih =>
      unfold CefResourceManager.insertEntry
      split
      · rename_i hgt
        refine ⟨[], x :: P, rfl, rfl, by simp, fun y hy => ?_⟩
        have hx : e.place.Before x.place := .inl hgt
        rcases mem_cons.mp hy with rfl | hy
        · exact hx
        · exact hx.trans ((pairwise_cons.mp hsorted).1 y hy)
      · rename_i hle
        obtain ⟨l₁, l₂, rfl, hins, hl₁, hl₂⟩ := ih (fun y hy => hid y (mem_cons_of_mem _ hy))
          (pairwise_cons.mp hsorted).2
        refine ⟨x :: l₁, l₂, rfl, by rw [hins]; rfl, fun y hy => ?_, hl₂⟩
        rcases mem_cons.mp hy with rfl | hy
        · have hlt := hid y mem_cons_self
          show y.order < e.order ∨ y.order = e.order ∧ y.id < e.id
          omega
        · exact hl₁ y hy
  rw [hinsert]
  have hmem : ∀ x ∈ l₁ ++ e :: l₂, x = e ∨ x ∈ l₁ ++ l₂ := by
    intro x hx
    simp only [mem_append, mem_cons] at hx ⊢
    tauto
  refine ⟨?_, ?_, ?_, L.positions, ?_, ?_, ?_⟩
  · obtain ⟨h₁, h₂, h₁₂⟩ := pairwise_append.mp L.sorted
    refine pairwise_append.mpr ⟨h₁, pairwise_cons.mpr ⟨hl₂, h₂⟩, fun x hx y hy => ?_⟩
    rcases mem_cons.mp hy with rfl | hy
    · exact hl₁ x hx
    · exact h₁₂ x hx y hy
  · rw [map_append, map_cons, nodup_middle, ← map_append, nodup_cons]
    refine ⟨fun hmem => ?_, L.ids⟩
    obtain ⟨x, hx, heq⟩ := mem_map.mp hmem
    exact Nat.ne_of_lt (hid x hx) heq
  · intro x hx
    rcases hmem x hx with rfl | hx
    · rw [hempty]
      exact nodup_nil
    · exact L.pending x hx
  · intro h hh
    obtain ⟨x, hx, hpos⟩ := L.listed h hh
    refine ⟨x, ?_, hpos⟩
    simp only [mem_append, mem_cons] at hx ⊢
    tauto
  · intro x hx r hr
    rcases hmem x hx with rfl | hx
    · rw [hempty] at hr
      simp at hr
    · exact L.claimed x hx r hr
  · intro x hx hxdel
    rcases hmem x hx with rfl | hx
    · rw [hdel] at hxdel
      exact Bool.noConfusion hxdel
    · exact L.deleting x hx hxdel

end Ledger

/-! ### The log and the owners -/

/-- Each owned request is in the phase that its owner and its entry say, and a request without
an owner has ended or has not begun. -/
structure Timeline (P : List ProviderEntry) (H : List Holding) (log : List ResourceEvent)
    (n : Nat) : Prop where
  states : (H.map (·.state.id)).Nodup
  begun : ∀ h ∈ H, h.state.id < n
  phases : ∀ h ∈ H, ∀ e ∈ P, h.state.currentEntryPos = some e.id →
    phase h.state.id log = some (h.hold.phase e.place)
  others : ∀ i, (∀ h ∈ H, h.state.id ≠ i) →
    phase i log = some (if i < n then .ended else .fresh)

section Timeline

variable {P P' : List ProviderEntry} {H H' : List Holding} {log : List ResourceEvent} {n : Nat}
  {hold hold' : Hold} {state state' : RequestState} {event : ResourceEvent}

lemma Timeline.perm (T : Timeline P H log n) (hp : H.Perm H') : Timeline P H' log n where
  states := (hp.map _).nodup_iff.mp T.states
  begun h hh := T.begun h (hp.mem_iff.mpr hh)
  phases h hh := T.phases h (hp.mem_iff.mpr hh)
  others i hi := T.others i fun h hh => hi h (hp.mem_iff.mp hh)

lemma Timeline.providers (T : Timeline P H log n)
    (h : ∀ h ∈ H, ∀ e' ∈ P', h.state.currentEntryPos = some e'.id →
      ∃ e ∈ P, e.id = e'.id ∧ e.place = e'.place) : Timeline P' H log n where
  states := T.states
  begun := T.begun
  phases x hx e' he' hpos := by
    obtain ⟨e, he, hid, hplace⟩ := h x hx e' he' hpos
    rw [← hplace]
    exact T.phases x hx e he (hid ▸ hpos)
  others := T.others

/-- An event of an owned request leads it to the phase of its new owner.

**Proof sketch.** The other owned requests have other numbers, so that the event is none of
theirs. -/
lemma Timeline.advance (T : Timeline P (⟨hold, state⟩ :: H) log n) (hevent : event.state = state.id)
    (hid : state'.id = state.id)
    (hadvance : ∀ e ∈ P, state'.currentEntryPos = some e.id → ∃ p, phase state.id log = some p ∧
      p.advance event = some (hold'.phase e.place)) :
    Timeline P (⟨hold', state'⟩ :: H) (event :: log) n := by
  have hstates := T.states
  rw [map_cons, nodup_cons] at hstates
  have hother : ∀ x ∈ H, event.state ≠ x.state.id := by
    intro x hx heq
    exact hstates.1 (mem_map.mpr ⟨x, hx, heq.symm.trans hevent⟩)
  refine ⟨?_, fun x hx => ?_, fun x hx e he hpos => ?_, fun i hi => ?_⟩
  · rw [map_cons, nodup_cons]
    exact ⟨hid ▸ hstates.1, hstates.2⟩
  · rcases mem_cons.mp hx with rfl | hx
    · rw [hid]
      exact T.begun ⟨hold, state⟩ mem_cons_self
    · exact T.begun x (mem_cons_of_mem _ hx)
  · rcases mem_cons.mp hx with rfl | hx
    · obtain ⟨p, hp, hadv⟩ := hadvance e he hpos
      rw [hid, phase_cons_of_eq hevent, hp]
      exact hadv
    · rw [phase_cons_of_ne (hother x hx)]
      exact T.phases x (mem_cons_of_mem _ hx) e he hpos
  · have hi' : i ≠ state.id := fun heq =>
      hi ⟨hold', state'⟩ mem_cons_self (hid.trans heq.symm)
    rw [phase_cons_of_ne fun heq => hi' (heq.symm.trans hevent)]
    refine T.others i fun x hx => ?_
    rcases mem_cons.mp hx with rfl | hx
    · exact fun heq => hi' heq.symm
    · exact hi x (mem_cons_of_mem _ hx)

lemma Timeline.finish (T : Timeline P (⟨hold, state⟩ :: H) log n)
    (hclosing : phase state.id log = some .closing) :
    Timeline P H (.ended state.id :: log) n := by
  have hstates := T.states
  rw [map_cons, nodup_cons] at hstates
  have hevent : (ResourceEvent.ended state.id).state = state.id := rfl
  have hother : ∀ x ∈ H, (ResourceEvent.ended state.id).state ≠ x.state.id := fun x hx heq =>
    hstates.1 (mem_map.mpr ⟨x, hx, heq.symm⟩)
  refine ⟨hstates.2, fun x hx => T.begun x (mem_cons_of_mem _ hx), fun x hx e he hpos => ?_,
    fun i hi => ?_⟩
  · rw [phase_cons_of_ne (hother x hx)]
    exact T.phases x (mem_cons_of_mem _ hx) e he hpos
  · by_cases hi' : state.id = i
    · subst hi'
      have hlt : state.id < n := T.begun ⟨hold, state⟩ mem_cons_self
      rw [phase_cons_of_eq hevent, hclosing, if_pos hlt]
      rfl
    · rw [phase_cons_of_ne (e := .ended state.id) hi']
      refine T.others i fun x hx => ?_
      rcases mem_cons.mp hx with rfl | hx
      · exact hi'
      · exact hi x hx

lemma Timeline.accepted (T : Timeline P H log n) (L : Ledger P H) : Accepted log := by
  intro i
  by_cases hi : ∃ h ∈ H, h.state.id = i
  · obtain ⟨h, hh, rfl⟩ := hi
    obtain ⟨e, he, hpos, -⟩ := L.listed h hh
    rw [T.phases h hh e he hpos]
    rfl
  · push Not at hi
    rw [T.others i hi]
    rfl

end Timeline

end CefCore.ResourceManager
