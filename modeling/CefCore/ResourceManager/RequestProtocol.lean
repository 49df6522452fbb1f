import CefCore.Foundations.Run

/-!
# The life of a resource request

What a resource manager is for, in its own terms: a request is offered to the providers one after
another, in ascending order of their places, until one of them keeps it, until it is stopped, or
until there is no provider left; then its callback is continued, once.

## Main definitions

* `Phase`: a request's life is a path through these phases, driven by the events that the manager
  logs.
-/

namespace CefCore.ResourceManager

open List Option EventLog

/-! ### Places and events -/

/-- The number of a provider entry in the order of the `AddProvider` calls. -/
abbrev EntryId := Nat

/-- The number of a request, in the order in which the loads begin. -/
abbrev StateId := Nat

/-- A `CefResourceHandler`. -/
abbrev ResourceHandler := Nat

/-- The place of an entry: its `order`, and its number among the entries of the same order. -/
structure Place where
  order : Int
  id : Nat
  deriving DecidableEq

/-- Ascending `order`, and the order of insertion for equal ones. -/
def Place.Before (a b : Place) : Prop := a.order < b.order ∨ a.order = b.order ∧ a.id < b.id

instance (a b : Place) : Decidable (a.Before b) :=
  inferInstanceAs (Decidable (_ ∨ _))

lemma Place.Before.trans {a b c : Place} (h : a.Before b) (h' : b.Before c) : a.Before c := by
  unfold Place.Before at *
  omega

lemma Place.Before.irrefl (a : Place) : ¬ a.Before a := by
  unfold Place.Before
  omega

/-- What happens to a request. The events that depend on the provider list carry the places of
the entries whose deletion is not pending at that moment. -/
inductive ResourceEvent where
  /-- `OnRequest` of the entry at `place` is called. -/
  | offered (state : StateId) (place : Place) (valid : List Place)
  /-- `OnRequest` has returned `false` and the request still has its state. -/
  | declined (state : StateId)
  /-- `Request::Continue` has taken the state from its request. -/
  | continued (state : StateId) (handler : Option ResourceHandler)
  /-- `Request::Stop` has taken the state from its request. -/
  | stopped (state : StateId)
  /-- There is no further provider. -/
  | exhausted (state : StateId) (valid : List Place)
  /-- The state is destroyed and its callback is continued. -/
  | ended (state : StateId)
  deriving DecidableEq

def ResourceEvent.state : ResourceEvent → StateId
  | .offered i _ _ | .declined i | .continued i _ | .stopped i | .exhausted i _ | .ended i => i

def ResourceEvent.Offers (i : StateId) : ResourceEvent → Prop
  | .offered i' _ _ => i' = i
  | _ => False

/-- The request must not be offered to a provider any more. -/
def ResourceEvent.Closes (i : StateId) : ResourceEvent → Prop
  | .continued i' (some _) => i' = i
  | .stopped i' => i' = i
  | .exhausted i' _ => i' = i
  | .ended i' => i' = i
  | _ => False

def ResourceEvent.PassesOn : ResourceEvent → Prop
  | .declined _ => True
  | .continued _ none => True
  | _ => False

/-- `place` is the first of the valid places after the last one. -/
def IsNext (last : Option Place) (place : Place) (valid : List Place) : Prop :=
  place ∈ valid ∧ (∀ l ∈ last, l.Before place) ∧
    ∀ p ∈ valid, (∀ l ∈ last, l.Before p) → p = place ∨ place.Before p

instance (last : Option Place) (place : Place) (valid : List Place) :
    Decidable (IsNext last place valid) :=
  inferInstanceAs (Decidable (_ ∧ _ ∧ _))

/-! ### Phases -/

inductive Phase where
  /-- Not yet begun. -/
  | fresh
  /-- With the provider at the place. -/
  | offered (place : Place)
  /-- To be offered to the next provider after the place. -/
  | passed (place : Place)
  /-- To be ended. -/
  | closing
  | ended
  deriving DecidableEq

def Phase.advance : Phase → ResourceEvent → Option Phase
  | .fresh, .offered _ place valid => if IsNext none place valid then some (.offered place) else none
  | .passed last, .offered _ place valid =>
    if IsNext (some last) place valid then some (.offered place) else none
  | .offered place, .declined _ => some (.passed place)
  | .offered place, .continued _ none => some (.passed place)
  | .offered _, .continued _ (some _) => some .closing
  | .offered _, .stopped _ => some .closing
  | .passed last, .exhausted _ valid => if ∀ p ∈ valid, ¬ last.Before p then some .closing else none
  | .closing, .ended _ => some .ended
  | _, _ => none

/-- The moves that `Phase.advance` allows. -/
inductive Phase.Leads : Phase → ResourceEvent → Phase → Prop
  | first {i place valid} : IsNext none place valid →
    Leads .fresh (.offered i place valid) (.offered place)
  | next {last i place valid} : IsNext (some last) place valid →
    Leads (.passed last) (.offered i place valid) (.offered place)
  | declined {place i} : Leads (.offered place) (.declined i) (.passed place)
  | continued {place i} : Leads (.offered place) (.continued i none) (.passed place)
  | handled {place i h} : Leads (.offered place) (.continued i (some h)) .closing
  | stopped {place i} : Leads (.offered place) (.stopped i) .closing
  | exhausted {last i valid} : (∀ p ∈ valid, ¬ Place.Before last p) →
    Leads (.passed last) (.exhausted i valid) .closing
  | ended {i} : Leads .closing (.ended i) .ended

lemma Phase.leads_of_advance {p p' : Phase} {e : ResourceEvent} (h : p.advance e = some p') :
    p.Leads e p' := by
  unfold Phase.advance at h
  split at h
  · split at h
    · rename_i hnext
      cases h
      exact .first hnext
    · simp at h
  · split at h
    · rename_i hnext
      cases h
      exact .next hnext
    · simp at h
  · cases h
    exact .declined
  · cases h
    exact .continued
  · cases h
    exact .handled
  · cases h
    exact .stopped
  · split at h
    · rename_i hnone
      cases h
      exact .exhausted hnone
    · simp at h
  · cases h
    exact .ended
  · simp at h

def phase (i : StateId) : List ResourceEvent → Option Phase
  | [] => some .fresh
  | e :: log => (phase i log).bind fun p => if e.state = i then p.advance e else some p

def Accepted (log : List ResourceEvent) : Prop := ∀ i, (phase i log).isSome

variable {i : StateId} {e : ResourceEvent} {log : List ResourceEvent} {p : Phase}

lemma phase_cons : phase i (e :: log) =
    (phase i log).bind fun p => if e.state = i then p.advance e else some p := rfl

lemma phase_cons_of_ne (h : e.state ≠ i) : phase i (e :: log) = phase i log := by
  simp only [phase_cons, if_neg h]
  exact bind_fun_some _

lemma phase_cons_of_eq (h : e.state = i) : phase i (e :: log) = (phase i log).bind (·.advance e) := by
  simp [phase_cons, if_pos h]

lemma phase_cons_eq_some (h : phase i (e :: log) = some p) : ∃ p', phase i log = some p' ∧
    (e.state = i ∧ p'.Leads e p ∨ e.state ≠ i ∧ p' = p) := by
  simp only [phase_cons, bind_eq_some_iff] at h
  obtain ⟨p', hp', h⟩ := h
  refine ⟨p', hp', ?_⟩
  split at h
  · rename_i he
    exact .inl ⟨he, Phase.leads_of_advance h⟩
  · rename_i he
    exact .inr ⟨he, some.inj h⟩

lemma Accepted.of_append : ∀ (later : List ResourceEvent) {earlier : List ResourceEvent},
    Accepted (later ++ earlier) → Accepted earlier
  | [], _, h => h
  | e :: later, earlier, h => by
    refine Accepted.of_append later fun i => ?_
    obtain ⟨p, hp⟩ := isSome_iff_exists.mp (h i)
    obtain ⟨p', hp', -⟩ := phase_cons_eq_some hp
    exact isSome_iff_exists.mpr ⟨p', hp'⟩

lemma Accepted.leads (later : List ResourceEvent) {earlier : List ResourceEvent}
    (h : Accepted (later ++ e :: earlier)) :
    ∃ p p', phase e.state earlier = some p ∧ p.Leads e p' := by
  obtain ⟨p', hp'⟩ := isSome_iff_exists.mp (h.of_append later e.state)
  obtain ⟨p, hp, ⟨-, hlead⟩ | ⟨hne, -⟩⟩ := phase_cons_eq_some hp'
  · exact ⟨p, p', hp, hlead⟩
  · exact (hne rfl).elim

/-! ### Offers along a log -/

/-- The places at which a request has been offered, newest first. -/
def places (i : StateId) : List ResourceEvent → List Place
  | [] => []
  | .offered i' place _ :: log => if i' = i then place :: places i log else places i log
  | _ :: log => places i log

/-- The order of the offers: each request is offered in ascending order of the places; an offer
goes to an entry that is valid at that moment, comes only after the last provider has passed the
request on, and skips no valid place; there is none after the request is handled or stopped; and
the offers end only when no valid place is left. -/
structure OfferDiscipline (log : List ResourceEvent) : Prop where
  ascending : ∀ i, (places i log).Pairwise fun later earlier => earlier.Before later
  valid : ∀ later i place valid earlier, log = later ++ .offered i place valid :: earlier →
    place ∈ valid
  passed : ∀ later i place valid earlier, log = later ++ .offered i place valid :: earlier →
    ∀ e ∈ earlier.find? (·.state = i), e.PassesOn
  closed : EventLog.Final ResourceEvent.Closes ResourceEvent.Offers log
  unskipped : ∀ later i place valid earlier, log = later ++ .offered i place valid :: earlier →
    ∀ p ∈ valid, (∀ l ∈ (places i earlier).head?, l.Before p) → p = place ∨ place.Before p
  exhausted : ∀ later i valid earlier, log = later ++ .exhausted i valid :: earlier →
    ∃ l, (places i earlier).head? = some l ∧ ∀ p ∈ valid, ¬ l.Before p

lemma places_cons (i : StateId) (e : ResourceEvent) (log : List ResourceEvent) :
    places i (e :: log) = match e with
      | .offered i' place _ => if i' = i then place :: places i log else places i log
      | _ => places i log := by
  cases e <;> rfl

def Phase.Describes : Phase → Option ResourceEvent → List Place → Prop
  | .fresh, e, ps => e = none ∧ ps = []
  | .offered place, _, ps => ps.head? = some place
  | .passed place, e, ps => (∃ e', e = some e' ∧ e'.PassesOn) ∧ ps.head? = some place
  | .closing, _, _ => True
  | .ended, _, _ => True

def lastEvent (i : StateId) (log : List ResourceEvent) : Option ResourceEvent :=
  log.find? fun e => e.state = i

/-- The phase of a request describes its log.

**Proof sketch.** Induction on the log. An event of another request changes neither; an event of
the request itself is one of the moves between phases. -/
lemma phase_describes : ∀ {log : List ResourceEvent} {p : Phase}, phase i log = some p →
    p.Describes (lastEvent i log) (places i log)
  | [], p, h => by
    cases h
    exact ⟨rfl, rfl⟩
  | e :: log, p, h => by
    obtain ⟨p', hp', hcase⟩ := phase_cons_eq_some h
    have ih := phase_describes hp'
    rcases hcase with ⟨he, hlead⟩ | ⟨he, rfl⟩
    · have hlast : lastEvent i (e :: log) = some e := by simp [lastEvent, he]
      rw [hlast, places_cons]
      cases hlead with
      | first _ =>
        subst he
        simp [Phase.Describes, ResourceEvent.state]
      | next _ =>
        subst he
        simp [Phase.Describes, ResourceEvent.state]
      | declined => exact ⟨⟨_, rfl, trivial⟩, ih⟩
      | continued => exact ⟨⟨_, rfl, trivial⟩, ih⟩
      | handled => trivial
      | stopped => trivial
      | exhausted _ => trivial
      | ended => trivial
    · have hlast : lastEvent i (e :: log) = lastEvent i log := by simp [lastEvent, he]
      have hplaces : places i (e :: log) = places i log := by
        rw [places_cons]
        cases e with
        | offered i' place valid => exact if_neg he
        | _ => rfl
      rw [hlast, hplaces]
      exact ih

lemma Accepted.offered (later : List ResourceEvent) {earlier : List ResourceEvent} {place : Place}
    {valid : List Place}
    (h : Accepted (later ++ .offered i place valid :: earlier)) :
    (∀ e ∈ lastEvent i earlier, e.PassesOn) ∧ IsNext (places i earlier).head? place valid := by
  obtain ⟨p, p', hp, hlead⟩ := h.leads later
  have hdesc : p.Describes (lastEvent i earlier) (places i earlier) := phase_describes hp
  cases hlead with
  | first hnext =>
    rw [hdesc.1, hdesc.2]
    exact ⟨by simp, hnext⟩
  | next hnext =>
    obtain ⟨⟨e', he', hpass⟩, hhead⟩ := hdesc
    rw [hhead, he']
    refine ⟨fun e he => ?_, hnext⟩
    cases he
    exact hpass

lemma Accepted.exhausted {later earlier : List ResourceEvent} {valid : List Place}
    (h : Accepted (later ++ .exhausted i valid :: earlier)) :
    ∃ l, (places i earlier).head? = some l ∧ ∀ p ∈ valid, ¬ l.Before p := by
  obtain ⟨p, p', hp, hlead⟩ := h.leads later
  have hdesc : p.Describes (lastEvent i earlier) (places i earlier) := phase_describes hp
  cases hlead with
  | exhausted hnone => exact ⟨_, hdesc.2, hnone⟩

lemma phase_of_closed : ∀ {log : List ResourceEvent} {p : Phase}, phase i log = some p →
    EventLog.Settled ResourceEvent.Closes i log → p = .closing ∨ p = .ended
  | [], _, _, hs => (settled_nil i hs).elim
  | e :: log, p, h, hs => by
    obtain ⟨p', hp', hcase⟩ := phase_cons_eq_some h
    rcases settled_cons.mp hs with hc | hs
    · rcases hcase with ⟨-, hlead⟩ | ⟨he, -⟩
      · cases hlead with
        | first _ => exact hc.elim
        | next _ => exact hc.elim
        | declined => exact hc.elim
        | continued => exact hc.elim
        | handled => exact .inl rfl
        | stopped => exact .inl rfl
        | exhausted _ => exact .inl rfl
        | ended => exact .inr rfl
      · refine absurd ?_ he
        cases e with
        | continued i' handler =>
          cases handler with
          | none => exact hc.elim
          | some _ => exact hc
        | offered => exact hc.elim
        | declined => exact hc.elim
        | stopped => exact hc
        | exhausted => exact hc
        | ended => exact hc
    · have ih := phase_of_closed hp' hs
      rcases hcase with ⟨-, hlead⟩ | ⟨-, rfl⟩
      · rcases ih with rfl | rfl
        · cases hlead with
          | ended => exact .inr rfl
        · cases hlead
      · exact ih

lemma Accepted.ascending (i : StateId) : ∀ {log : List ResourceEvent}, Accepted log →
    (places i log).Pairwise fun later earlier => earlier.Before later
  | [], _ => List.Pairwise.nil
  | e :: log, h => by
    have ih := Accepted.ascending i (h.of_append [e])
    rw [places_cons]
    cases e with
    | offered i' place valid =>
      dsimp only
      split
      · rename_i he
        subst he
        obtain ⟨-, -, hbefore, -⟩ := Accepted.offered [] h
        refine pairwise_cons.mpr ⟨fun p hp => ?_, ih⟩
        -- the last place is the greatest of the earlier ones
        cases hps : places i' log with
        | nil => simp [hps] at hp
        | cons l ps =>
          rw [hps] at hp ih hbefore
          have hl : l.Before place := hbefore l rfl
          rcases mem_cons.mp hp with rfl | hp
          · exact hl
          · exact ((pairwise_cons.mp ih).1 p hp).trans hl
      · exact ih
    | _ => exact ih

/-- **An accepted log keeps to the order of the offers.** -/
theorem Accepted.offerDiscipline (h : Accepted log) : OfferDiscipline log where
  ascending i := Accepted.ascending i h
  valid later i place valid earlier hlog := by
    subst hlog
    exact h.offered.2.1
  passed later i place valid earlier hlog := by
    subst hlog
    exact h.offered.1
  closed := by
    induction log with
    | nil => exact final_nil
    | cons e log ih =>
      refine final_cons_iff.mpr ⟨fun i hoff hs => ?_, ih (h.of_append [e])⟩
      cases e with
      | offered i' place valid =>
        obtain rfl : i' = i := hoff
        obtain ⟨p, p', hp, hlead⟩ := Accepted.leads [] h
        rcases phase_of_closed hp hs with rfl | rfl <;> cases hlead
      | _ => exact hoff
  unskipped later i place valid earlier hlog := by
    subst hlog
    exact h.offered.2.2.2
  exhausted later i valid earlier hlog := by
    subst hlog
    exact h.exhausted

/-- **The callback of a request is continued once**, when the request ends, and not before. -/
theorem ended_of_phase : ∀ {log : List ResourceEvent} {p : Phase}, phase i log = some p →
    log.count (.ended i) = if p = .ended then 1 else 0
  | [], p, h => by
    cases h
    rfl
  | e :: log, p, h => by
    obtain ⟨p', hp', hcase⟩ := phase_cons_eq_some h
    have ih := ended_of_phase hp'
    rw [count_cons, ih]
    rcases hcase with ⟨he, hlead⟩ | ⟨he, rfl⟩
    · cases hlead with
      | ended =>
        obtain rfl := he
        simp [ResourceEvent.state]
      | _ => simp
    · have : e ≠ .ended i := by
        rintro rfl
        exact he rfl
      simp [this]

end CefCore.ResourceManager
