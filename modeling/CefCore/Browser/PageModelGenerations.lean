import CefCore.Browser.PageModelCache

/-!
# Generations as clients remember them

A client of `CefPageModelCache` may ask for the generation of a frame, remember it, and ask again later:
if there has been an invalidation of the frame in between, then the two answers should differ. The
counters are numbers of 64 bits, and they are dropped when everything is invalidated.

## Main results

* `neverRepeats_iff`: when the two answers differ.
-/

namespace CefCore.Browser.CefPageModelCache

open StampedCache List Nat Transition

/-- `GetGeneration`, a `uint64_t`. -/
def getGeneration64 (s : CefPageModelCache) (frame : Int) : Nat := s.getGeneration frame % 2 ^ 64

inductive Operation where
  | bumpGeneration (frame : Int)
  | invalidateFrame (frame : Int)
  | invalidateAll
  | putSnapshot (frame : Int) (settingsKey snapshotText : String) (now : Int)
  | putSelector (frame : Int) (selector : String) (found : Bool) (elementNodeId : Int)
    (tagName : String) (now : Int)

def step (s : CefPageModelCache) : Operation → CefPageModelCache
  | .bumpGeneration frame => s.bumpGeneration frame
  | .invalidateFrame frame => s.invalidateFrame frame
  | .invalidateAll => invalidateAll
  | .putSnapshot frame settingsKey snapshotText now => s.putSnapshot frame settingsKey snapshotText now
  | .putSelector frame selector found elementNodeId tagName now =>
    s.putSelector frame selector found elementNodeId tagName now

def Operation.Affects (frame : Int) : Operation → Prop
  | .bumpGeneration other | .invalidateFrame other => other = frame
  | .invalidateAll => True
  | _ => False

/-- **Generations never repeat**: when a frame has been invalidated between two points of a run, then its
generation is greater at the second one. -/
def NeverRepeats (operations : List Operation) : Prop :=
  ∀ frame before between after, operations = before ++ between ++ after →
    (∃ op ∈ between, op.Affects frame) →
      (before.foldl step {}).getGeneration64 frame <
        ((before ++ between).foldl step {}).getGeneration64 frame

/-- The call drops no counter, and does not count on from the greatest number of 64 bits. -/
def KeepsCounting (s : CefPageModelCache) : Operation → Prop
  | .bumpGeneration frame | .invalidateFrame frame => s.getGeneration64 frame ≠ 2 ^ 64 - 1
  | .invalidateAll => False
  | _ => True

variable {s : CefPageModelCache} {op : Operation} {frame : Int}

/-! ### One call -/

section Counters

variable {s' : CefPageModelCache} {other : Int}

lemma getGeneration64_bump (h : s'.generations = bump s.generations other) :
    s'.getGeneration64 frame =
      if other = frame then (s.getGeneration64 frame + 1) % 2 ^ 64 else s.getGeneration64 frame := by
  unfold getGeneration64 getGeneration
  rw [h]
  split
  · rename_i heq
    subst heq
    rw [generation_bump_self, mod_add_mod]
  · rename_i hne
    rw [generation_bump_of_ne (Ne.symm hne)]

lemma getGeneration64_touch (h : s'.generations = touch s.generations other) :
    s'.getGeneration64 frame = s.getGeneration64 frame := by
  unfold getGeneration64 getGeneration
  rw [h, generation_touch]

lemma getGeneration64_le_of_bump (h : s'.generations = bump s.generations other)
    (hlast : s.getGeneration64 other ≠ 2 ^ 64 - 1) :
    s.getGeneration64 frame ≤ s'.getGeneration64 frame ∧
      (other = frame → s.getGeneration64 frame < s'.getGeneration64 frame) := by
  rw [getGeneration64_bump h]
  split
  · rename_i heq
    subst heq
    have hlt : s.getGeneration64 other < 2 ^ 64 := mod_lt _ (by decide)
    rw [mod_eq_of_lt (by omega)]
    exact ⟨by omega, fun _ => by omega⟩
  · rename_i hne
    exact ⟨le_refl _, fun heq => absurd heq hne⟩

lemma getGeneration64_eq_zero_of_bump (h : s'.generations = bump s.generations other)
    (hlast : s.getGeneration64 other = 2 ^ 64 - 1) : s'.getGeneration64 other = 0 := by
  rw [getGeneration64_bump h, if_pos rfl]
  omega

end Counters

/-- **The step lemma**: a call that keeps counting takes no generation back, and makes those of the
frames that it affects greater. -/
lemma KeepsCounting.getGeneration64_le (h : s.KeepsCounting op) :
    s.getGeneration64 frame ≤ (s.step op).getGeneration64 frame ∧
      (op.Affects frame → s.getGeneration64 frame < (s.step op).getGeneration64 frame) := by
  cases op with
  | bumpGeneration other | invalidateFrame other => exact getGeneration64_le_of_bump rfl h
  | invalidateAll => exact h.elim
  | putSnapshot other settingsKey snapshotText now =>
    exact ⟨le_of_eq (getGeneration64_touch rfl).symm, False.elim⟩
  | putSelector other selector found elementNodeId tagName now =>
    exact ⟨le_of_eq (getGeneration64_touch rfl).symm, False.elim⟩

lemma exists_eq_zero_of_not_keepsCounting (h : ¬ s.KeepsCounting op) :
    ∃ frame, op.Affects frame ∧ (s.step op).getGeneration64 frame = 0 := by
  cases op with
  | bumpGeneration other | invalidateFrame other =>
    exact ⟨other, rfl, getGeneration64_eq_zero_of_bump rfl (not_not.mp h)⟩
  | invalidateAll => exact ⟨0, True.intro, rfl⟩
  | putSnapshot _ _ _ _ | putSelector _ _ _ _ _ _ => exact absurd True.intro h

/-! ### Runs -/

/-- **The run lemma**: along calls that keep counting no generation goes back, and those of the frames
that are affected get greater. -/
lemma getGeneration64_foldl_le : ∀ {operations : List Operation} {s : CefPageModelCache},
    Along (fun s op => some (step s op)) KeepsCounting s operations →
      s.getGeneration64 frame ≤ (operations.foldl step s).getGeneration64 frame ∧
        ((∃ op ∈ operations, op.Affects frame) →
          s.getGeneration64 frame < (operations.foldl step s).getGeneration64 frame)
  | [], _, _ => ⟨le_refl _, fun ⟨_, hop, _⟩ => nomatch hop⟩
  | op :: operations, s, h => by
    obtain ⟨hle, hlt⟩ : s.getGeneration64 frame ≤ (s.step op).getGeneration64 frame ∧
        (op.Affects frame → s.getGeneration64 frame < (s.step op).getGeneration64 frame) :=
      h.1.getGeneration64_le
    obtain ⟨hrest, hrestlt⟩ := getGeneration64_foldl_le h.2
    refine ⟨le_trans hle hrest, ?_⟩
    rintro ⟨op', hop', haffects⟩
    rcases mem_cons.mp hop' with rfl | hop'
    · exact lt_of_lt_of_le (hlt haffects) hrest
    · exact lt_of_le_of_lt hle (hrestlt ⟨op', hop', haffects⟩)

/-- **Page-model generations** grow with every invalidation of their frames, throughout a run of any
calls, if and only if everything is never invalidated at once and no counter gets to its end.

**Proof sketch.** A call that keeps counting makes the counters of its frames greater; any other
call puts one of them back to zero. -/
theorem neverRepeats_iff (operations : List Operation) : NeverRepeats operations ↔
    Along (fun s op => some (step s op)) KeepsCounting {} operations := by
  rw [Along.iff_forall_append]
  constructor
  · rintro h before op after rfl
    by_contra hcounting
    obtain ⟨frame, haffects, hzero⟩ := exists_eq_zero_of_not_keepsCounting hcounting
    have hlt := h frame before [op] after (by simp) ⟨op, mem_singleton_self op, haffects⟩
    rw [foldl_append, foldl_cons, foldl_nil, hzero] at hlt
    exact not_lt_zero _ hlt
  · rintro h frame before between after rfl haffects
    rw [foldl_append]
    refine (getGeneration64_foldl_le (Along.iff_forall_append.mpr ?_)).2 haffects
    rintro first op last rfl
    rw [← foldl_append]
    exact h (before ++ first) op (last ++ after) (by simp)

/-- **The DOM changes, then everything is invalidated**: the frame has the generation again that it had
before the change. -/
theorem generation_after_invalidateAll : ¬ ∀ operations, NeverRepeats operations := by
  intro h
  have hlt := h [.bumpGeneration 1, .invalidateAll] 1 [] [.bumpGeneration 1, .invalidateAll] [] rfl
    ⟨.invalidateAll, by simp, True.intro⟩
  exact absurd hlt (by decide)

end CefCore.Browser.CefPageModelCache
