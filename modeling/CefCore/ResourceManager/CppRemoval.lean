import CefCore.Foundations.Loop
import CefCore.ResourceManager.CppManager

/-!
# When the removal of providers ends

`RemoveProviders` and `RemoveAllProviders` of `libcef_dll/wrapper/cef_resource_manager.cc` go along
the provider list with an iterator that `DeleteProvider` is to move on. It does so in all of its
branches but the first: at an entry whose deletion is pending it returns at once, and the loop is
where it was. Here are the loops one iteration at a time, and the entries at which they spin.

## Main results

* `removal_iff`: the removals that return.
-/

namespace CefCore.ResourceManager

open CefResourceManager List Option

inductive Removal where
  | removeProviders (identifier : String)
  | removeAllProviders
  | destructor
  deriving DecidableEq

namespace Removal

def wanted : Removal → ProviderEntry → Bool
  | .removeProviders identifier, e => e.identifier = identifier
  | .removeAllProviders, _ => true
  | .destructor, _ => true

/-- The argument `stop` of `DeleteProvider`. -/
def stop : Removal → Bool
  | .removeProviders _ => false
  | .removeAllProviders => true
  | .destructor => true

end Removal

/-- A loop over the provider list: the entries that the iterator has passed, those from it on, and
the manager. -/
structure Cursor where
  passed : List ProviderEntry
  rest : List ProviderEntry
  manager : CefResourceManager

namespace Cursor

/-- `DeleteProvider`, of the entry at the iterator. -/
def deleteProvider (stop : Bool) (c : Cursor) : Cursor :=
  match c.rest with
  | [] => c
  | e :: rest =>
    if e.deletionPending then c
    else if e.pendingRequests.isEmpty then { c with rest := rest }
    else
      { passed := c.passed ++ [{ e with deletionPending := true }]
        rest := rest
        manager := e.pendingRequests.foldl (cancelPending stop) c.manager }

def iterate (removal : Removal) (c : Cursor) : Cursor :=
  match c.rest with
  | [] => c
  | e :: rest =>
    if removal.wanted e then c.deleteProvider removal.stop
    else { c with passed := c.passed ++ [e], rest := rest }

end Cursor

namespace Removal

def Loops (removal : Removal) : Cursor → Cursor → Prop :=
  Loop.Ends (fun c => c.rest ≠ []) fun c c' => c.iterate removal = c'

/-- The provider list that the call leaves: the destructor clears it. -/
def leaves (removal : Removal) (c : Cursor) : List ProviderEntry :=
  if removal = .destructor then [] else c.passed

/-- The call comes back, with a manager. -/
def Returns (removal : Removal) (m m' : CefResourceManager) : Prop :=
  ∃ c, removal.Loops ⟨[], m.providers, m⟩ c ∧
    m' = { c.manager with providers := removal.leaves c }

variable {removal : Removal} {e : ProviderEntry} {passed rest l : List ProviderEntry}
  {m m' : CefResourceManager}

lemma Loops.step {c c' : Cursor} (hne : c.rest ≠ []) (h : removal.Loops (c.iterate removal) c') :
    removal.Loops c c' :=
  .next hne rfl h

/-- **The loop, where it ends**, does what the recursion over the list does.

**Proof sketch.** Induction on the entries from the iterator on. -/
lemma loops_of_deleteProviders :
    ∀ {rest passed l : List ProviderEntry} {m m' : CefResourceManager},
      deleteProviders removal.wanted removal.stop rest m = some (l, m') →
      removal.Loops ⟨passed, rest, m⟩ ⟨passed ++ l, [], m'⟩
  | [], passed, l, m, m', h => by
    obtain ⟨rfl, rfl⟩ : [] = l ∧ m = m' := by simpa [deleteProviders] using h
    rw [append_nil]
    exact .exit (by simp)
  | e :: rest, passed, l, m, m', h => by
    refine Loops.step (cons_ne_nil e rest) ?_
    unfold deleteProviders at h
    by_cases hw : removal.wanted e = true
    · rw [if_pos hw] at h
      by_cases hdel : e.deletionPending = true
      · rw [if_pos hdel] at h
        cases h
      · rw [if_neg hdel] at h
        by_cases hempty : e.pendingRequests.isEmpty = true
        · rw [if_pos hempty] at h
          have hiterate : Cursor.iterate removal ⟨passed, e :: rest, m⟩ = ⟨passed, rest, m⟩ := by
            simp [Cursor.iterate, Cursor.deleteProvider, hw, hdel, hempty]
          rw [hiterate]
          exact loops_of_deleteProviders h
        · rw [if_neg hempty, bind_eq_bind, bind_eq_some_iff] at h
          obtain ⟨⟨l', m''⟩, hrest, hl⟩ := h
          obtain ⟨rfl, rfl⟩ : { e with deletionPending := true } :: l' = l ∧ m'' = m' := by
            simpa using hl
          have hiterate : Cursor.iterate removal ⟨passed, e :: rest, m⟩ =
              ⟨passed ++ [{ e with deletionPending := true }], rest,
                e.pendingRequests.foldl (cancelPending removal.stop) m⟩ := by
            simp [Cursor.iterate, Cursor.deleteProvider, hw, hdel, hempty]
          rw [hiterate, append_cons passed _ l']
          exact loops_of_deleteProviders hrest
    · rw [if_neg hw, bind_eq_bind, bind_eq_some_iff] at h
      obtain ⟨⟨l', m''⟩, hrest, hl⟩ := h
      obtain ⟨rfl, rfl⟩ : e :: l' = l ∧ m'' = m' := by simpa using hl
      have hiterate : Cursor.iterate removal ⟨passed, e :: rest, m⟩ = ⟨passed ++ [e], rest, m⟩ := by
        simp [Cursor.iterate, hw]
      rw [hiterate, append_cons passed _ l']
      exact loops_of_deleteProviders hrest

lemma not_loops_of_pending {c : Cursor}
    (h : ∃ e ∈ c.rest, removal.wanted e = true ∧ e.deletionPending = true) :
    ¬ ∃ c', removal.Loops c c' := by
  refine Loop.not_ends (I := fun c =>
    ∃ e ∈ c.rest, removal.wanted e = true ∧ e.deletionPending = true) ?_ ?_ h
  · rintro c ⟨e, he, -⟩
    exact ne_nil_of_mem he
  · rintro ⟨passed, rest, m⟩ c' ⟨e, he, hw, hdel⟩ rfl
    cases rest with
    | nil => cases he
    | cons x rest =>
      -- the iterator stays at this entry, or moves past another one
      by_cases hstay : removal.wanted x = true ∧ x.deletionPending = true
      · exact ⟨x, by simp [Cursor.iterate, Cursor.deleteProvider, hstay], hstay⟩
      · have hmem : e ∈ rest := by
          rcases mem_cons.mp he with rfl | hmem
          · exact absurd ⟨hw, hdel⟩ hstay
          · exact hmem
        have hrest : (Cursor.iterate removal ⟨passed, x :: rest, m⟩).rest = rest := by
          unfold Cursor.iterate Cursor.deleteProvider
          dsimp only
          split_ifs <;> simp_all
        exact ⟨e, by rwa [hrest], hw, hdel⟩

lemma deleteProviders_isSome : ∀ {rest : List ProviderEntry} {m : CefResourceManager},
    (∀ e ∈ rest, removal.wanted e = true → e.deletionPending = false) →
    ∃ r, deleteProviders removal.wanted removal.stop rest m = some r
  | [], m, _ => ⟨([], m), rfl⟩
  | e :: rest, m, h => by
    obtain ⟨he, hrest⟩ := forall_mem_cons.mp h
    unfold deleteProviders
    by_cases hw : removal.wanted e = true
    · simp only [if_pos hw, he hw, Bool.false_eq_true, if_false]
      split_ifs
      · exact deleteProviders_isSome hrest
      · obtain ⟨r, hr⟩ := @deleteProviders_isSome rest
          (e.pendingRequests.foldl (cancelPending removal.stop) m) hrest
        rw [hr]
        exact ⟨_, rfl⟩
    · obtain ⟨r, hr⟩ := @deleteProviders_isSome rest m hrest
      rw [if_neg hw, hr]
      exact ⟨_, rfl⟩

lemma mem_passed_iterate {c : Cursor} (he : e ∈ (c.iterate removal).passed)
    (hw : removal.wanted e = true) : e ∈ c.passed ∨ e.deletionPending = true := by
  obtain ⟨passed, rest, m⟩ := c
  cases rest with
  | nil => exact .inl he
  | cons x rest =>
    simp only [Cursor.iterate, Cursor.deleteProvider] at he
    split_ifs at he with hx hdel hempty
    · exact .inl he
    · exact .inl he
    · exact (mem_append.mp he).imp id fun hmem => by rw [mem_singleton.mp hmem]
    · refine (mem_append.mp he).imp id fun hmem => ?_
      exact absurd (mem_singleton.mp hmem ▸ hw) hx

lemma passed_of_loops {c c' : Cursor} (h : removal.Loops c c')
    (hc : ∀ e ∈ c.passed, removal.wanted e = true → e.deletionPending = true) :
    ∀ e ∈ c'.passed, removal.wanted e = true → e.deletionPending = true := by
  refine Loop.Ends.invariant (I := fun c =>
    ∀ e ∈ c.passed, removal.wanted e = true → e.deletionPending = true) ?_ h hc
  rintro c₁ c₂ hc₁ - rfl e he hw
  exact (mem_passed_iterate he hw).elim (fun hmem => hc₁ e hmem hw) id

/-- The calls come back exactly if the recursion has a result, with what it says. -/
theorem returns_iff_deleteProviders : removal.Returns m m' ↔
    ∃ l m'', deleteProviders removal.wanted removal.stop m.providers m = some (l, m'') ∧
      m' = { m'' with providers := removal.leaves ⟨l, [], m''⟩ } := by
  constructor
  · rintro ⟨c, hc, rfl⟩
    have hfree : ∀ e ∈ m.providers, removal.wanted e = true → e.deletionPending = false := by
      intro e he hw
      by_contra hdel
      exact not_loops_of_pending ⟨e, he, hw, by simpa using hdel⟩ ⟨c, hc⟩
    obtain ⟨⟨l, m''⟩, hr⟩ := @deleteProviders_isSome removal _ m hfree
    have heq : c = ⟨[] ++ l, [], m''⟩ :=
      hc.unique (fun _ _ _ h h' => h.symm.trans h') (loops_of_deleteProviders hr)
    subst heq
    exact ⟨l, m'', hr, rfl⟩
  · rintro ⟨l, m'', hr, rfl⟩
    exact ⟨⟨[] ++ l, [], m''⟩, loops_of_deleteProviders hr, rfl⟩

end Removal

namespace CefResourceManager

variable {m m' : CefResourceManager}

lemma removeProviders_eq_some_iff {identifier : String} :
    m.removeProviders identifier = some m' ↔ (Removal.removeProviders identifier).Returns m m' := by
  rw [Removal.returns_iff_deleteProviders, removeProviders, Option.bind_eq_bind,
    Option.bind_eq_some_iff, Prod.exists]
  refine exists_congr fun l => exists_congr fun m'' => and_congr_right fun _ => ?_
  rw [Option.pure_def, Option.some.injEq, eq_comm]
  rfl

lemma removeAllProviders_eq_some_iff :
    m.removeAllProviders = some m' ↔ Removal.removeAllProviders.Returns m m' := by
  rw [Removal.returns_iff_deleteProviders, removeAllProviders, Option.bind_eq_bind,
    Option.bind_eq_some_iff, Prod.exists]
  refine exists_congr fun l => exists_congr fun m'' => and_congr_right fun _ => ?_
  rw [Option.pure_def, Option.some.injEq, eq_comm]
  rfl

/-- **What a removal is meant to do**: it comes back, and no entry that it is after is live then. -/
def Removes (removal : Removal) (m : CefResourceManager) : Prop :=
  ∃ m', removal.Returns m m' ∧
    ∀ e ∈ m'.providers, removal.wanted e = true → e.deletionPending = true

/-- **When providers are removed**: exactly if none of the entries that the call is after has been
marked by an earlier removal and is still waiting for its requests. -/
theorem removal_iff (removal : Removal) (m : CefResourceManager) :
    m.Removes removal ↔
      ∀ e ∈ m.providers, removal.wanted e = true → e.deletionPending = false := by
  constructor
  · rintro ⟨m', ⟨c, hc, -⟩, -⟩ e he hw
    by_contra hdel
    exact Removal.not_loops_of_pending ⟨e, he, hw, by simpa using hdel⟩ ⟨c, hc⟩
  · intro hfree
    obtain ⟨⟨l, m''⟩, hr⟩ := @Removal.deleteProviders_isSome removal _ m hfree
    have hloops : removal.Loops ⟨[], m.providers, m⟩ ⟨[] ++ l, [], m''⟩ :=
      Removal.loops_of_deleteProviders hr
    refine ⟨_, ⟨_, hloops, rfl⟩, fun e he => ?_⟩
    have hpassed : e ∈ [] ++ l := by
      unfold Removal.leaves at he
      split at he
      · cases he
      · exact he
    exact Removal.passed_of_loops hloops nofun e hpassed

/-- A provider that keeps a request is removed twice before the request goes on. -/
def removedTwice : List Action :=
  [.addProvider 0 "a", .onBeforeResourceLoad 7, .onRequestReturns true, .removeProviders "a"]

/-- In a state that the manager gets into, neither removal comes back. -/
theorem removal_spins : ∃ m, removedTwice.foldlM step new = some m ∧
    ∀ removal ∈ [Removal.removeProviders "a", .removeAllProviders, .destructor],
      ¬ ∃ m', removal.Returns m m' := by
  have hrun : removedTwice.foldlM step new = some ((removedTwice.foldlM step new).getD new) :=
    (getD_of_ne_none (isSome_iff_ne_none.mp (by decide)) _).symm
  have hpending : ∀ removal ∈ [Removal.removeProviders "a", .removeAllProviders, .destructor],
      ∃ e ∈ ((removedTwice.foldlM step new).getD new).providers,
        removal.wanted e = true ∧ e.deletionPending = true := by decide
  refine ⟨_, hrun, fun removal hmem => ?_⟩
  rintro ⟨m', c, hc, -⟩
  exact Removal.not_loops_of_pending (hpending removal hmem) ⟨c, hc⟩

end CefResourceManager

end CefCore.ResourceManager
