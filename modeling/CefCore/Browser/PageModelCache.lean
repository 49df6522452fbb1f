import CefCore.Foundations.Run
import CefCore.Foundations.StampedCache
import Mathlib.Algebra.Group.Nat.Defs

/-!
# The page model cache

`CefPageModelCache` of `libcef/browser/page_model_cache.cc` keeps snapshots and resolved selectors of
the frames of a browser. It is told of the changes of a DOM, by `BumpGeneration` or
`InvalidateFrame`, and its entries carry the generation of their frame at the time of the store. A
client reads the DOM first, computes what it wants, and stores the result later.

## Main results

* `fresh_iff`: when the cache gives only what is up to date.

## Implementation notes

* The DOM of a frame is a number that grows with each change. The cache cannot see it; which DOM an
  entry has been computed from is kept next to the cache.
* A change and the call that tells the cache of it are two steps. In between the cache cannot know
  better, and the results are about frames whose changes have all been announced.
* The generations are `Nat`s; the model does not wrap them after `2 ^ 64` changes.
-/

namespace CefCore.Browser

open StampedCache Option Transition

structure SnapshotEntry where
  generation : Nat := 0
  snapshotText : String
  cachedAt : Int
  deriving DecidableEq

structure SelectorEntry where
  generation : Nat := 0
  found : Bool := false
  elementNodeId : Int := -1
  tagName : String
  cachedAt : Int

/-- `CefPageModelCache`. Frames are known by the ids of their frame tree nodes. -/
structure CefPageModelCache where
  generations : Generations Int := ∅
  snapshotCache : Entries Int String SnapshotEntry := ∅
  selectorCache : Entries Int String SelectorEntry := ∅

namespace CefPageModelCache

variable (s : CefPageModelCache) (frame : Int)

def getGeneration : Nat := generation s.generations frame

def bumpGeneration : CefPageModelCache := { s with generations := bump s.generations frame }

/-- `GetCachedSnapshot`: what it returns in `out`, or `none` for `false`. -/
def getCachedSnapshot (settingsKey : String) : Option SnapshotEntry :=
  valid? SnapshotEntry.generation s.generations s.snapshotCache frame settingsKey

def putSnapshot (settingsKey snapshotText : String) (now : Int) : CefPageModelCache :=
  { s with
    generations := touch s.generations frame
    snapshotCache := put s.snapshotCache frame settingsKey
      { generation := s.getGeneration frame, snapshotText, cachedAt := now } }

/-- `GetCachedSelector`: what it returns in `out`, or `none` for `false`. -/
def getCachedSelector (selector : String) : Option SelectorEntry :=
  valid? SelectorEntry.generation s.generations s.selectorCache frame selector

def putSelector (selector : String) (found : Bool) (elementNodeId : Int) (tagName : String)
    (now : Int) : CefPageModelCache :=
  { s with
    generations := touch s.generations frame
    selectorCache := put s.selectorCache frame selector
      { generation := s.getGeneration frame, found, elementNodeId, tagName, cachedAt := now } }

def invalidateFrame : CefPageModelCache where
  generations := bump s.generations frame
  snapshotCache := s.snapshotCache.erase frame
  selectorCache := s.selectorCache.erase frame

def invalidateAll : CefPageModelCache := {}

end CefPageModelCache

/-- What a client has read: the frame, and the DOM that it had then. -/
structure Reading where
  frame : Int
  version : Nat

/-- The cache, the frames of the browser, and the clients. -/
structure PageModel where
  cache : CefPageModelCache := {}
  /-- The current DOM of each frame. -/
  version : Int → Nat := fun _ => 0
  /-- The cache has been told of all changes of the frame. -/
  announced : Int → Bool := fun _ => true
  readings : List Reading := []
  /-- The DOM from which the last snapshot of a frame and a key has been computed. -/
  snapshotSource : Int × String → Nat := fun _ => 0
  /-- The DOM in which a selector of a frame has been resolved last. -/
  selectorSource : Int × String → Nat := fun _ => 0

namespace PageModel

/-- What happens next. A store is made by a client with the result of one of the readings. -/
inductive Operation where
  | domChanges (frame : Int)
  | bumpGeneration (frame : Int)
  | invalidateFrame (frame : Int)
  | invalidateAll
  | readDom (frame : Int)
  | putSnapshot (reading : Nat) (settingsKey snapshotText : String) (now : Int)
  | putSelector (reading : Nat) (selector : String) (found : Bool) (elementNodeId : Int)
    (tagName : String) (now : Int)

def step (s : PageModel) : Operation → Option PageModel
  | .domChanges frame => some { s with
      version := Function.update s.version frame (s.version frame + 1)
      announced := Function.update s.announced frame false }
  | .bumpGeneration frame => some { s with
      cache := s.cache.bumpGeneration frame
      announced := Function.update s.announced frame true }
  | .invalidateFrame frame => some { s with
      cache := s.cache.invalidateFrame frame
      announced := Function.update s.announced frame true }
  | .invalidateAll => some { s with
      cache := CefPageModelCache.invalidateAll
      announced := fun _ => true }
  | .readDom frame => some { s with readings := s.readings ++ [⟨frame, s.version frame⟩] }
  | .putSnapshot reading settingsKey snapshotText now => do
      let r ← s.readings[reading]?
      return { s with
        cache := s.cache.putSnapshot r.frame settingsKey snapshotText now
        snapshotSource := Function.update s.snapshotSource (r.frame, settingsKey) r.version }
  | .putSelector reading selector found elementNodeId tagName now => do
      let r ← s.readings[reading]?
      return { s with
        cache := s.cache.putSelector r.frame selector found elementNodeId tagName now
        selectorSource := Function.update s.selectorSource (r.frame, selector) r.version }

/-- **Freshness**: for a frame whose changes have been announced, whatever `GetCachedSnapshot` and
`GetCachedSelector` return has been computed from its current DOM. -/
def Fresh (s : PageModel) : Prop := ∀ frame, s.announced frame = true →
  (∀ settingsKey entry, s.cache.getCachedSnapshot frame settingsKey = some entry →
    s.snapshotSource (frame, settingsKey) = s.version frame) ∧
  ∀ selector entry, s.cache.getCachedSelector frame selector = some entry →
    s.selectorSource (frame, selector) = s.version frame

/-- A reading is up to date, or its frame has a change that the cache will still be told of. -/
def UpToDate (s : PageModel) (r : Reading) : Prop :=
  s.announced r.frame = true → r.version = s.version r.frame

/-- The step stores no result of a reading that is out of date. -/
def StoresCurrent (s : PageModel) : Operation → Prop
  | .putSnapshot reading _ _ _ => ∀ r, s.readings[reading]? = some r → s.UpToDate r
  | .putSelector reading _ _ _ _ _ => ∀ r, s.readings[reading]? = some r → s.UpToDate r
  | _ => True

/-! ### Invariants -/

structure Stamped (s : PageModel) : Prop where
  snapshots : Behind SnapshotEntry.generation s.cache.generations s.cache.snapshotCache
  selectors : Behind SelectorEntry.generation s.cache.generations s.cache.selectorCache

lemma stamped_empty : Stamped {} where
  snapshots := behind_empty
  selectors := behind_empty

variable {s s' : PageModel}

lemma Stamped.step {op : Operation} (h : s.Stamped) (hs : s.step op = some s') : s'.Stamped := by
  cases op with
  | domChanges frame =>
    cases hs
    exact ⟨h.snapshots, h.selectors⟩
  | bumpGeneration frame =>
    cases hs
    exact ⟨h.snapshots.bump, h.selectors.bump⟩
  | invalidateFrame frame =>
    cases hs
    exact ⟨h.snapshots.bump.erase, h.selectors.bump.erase⟩
  | invalidateAll =>
    cases hs
    exact ⟨behind_empty, behind_empty⟩
  | readDom frame =>
    cases hs
    exact ⟨h.snapshots, h.selectors⟩
  | putSnapshot reading settingsKey snapshotText now =>
    obtain ⟨r, -, hs⟩ := bind_eq_some_iff.mp hs
    cases hs
    exact ⟨h.snapshots.touch.put (Nat.le_of_eq generation_touch.symm), h.selectors.touch⟩
  | putSelector reading selector found elementNodeId tagName now =>
    obtain ⟨r, -, hs⟩ := bind_eq_some_iff.mp hs
    cases hs
    exact ⟨h.snapshots.touch, h.selectors.touch.put (Nat.le_of_eq generation_touch.symm)⟩

structure FreshAt (s : PageModel) (frame : Int) : Prop where
  snapshots : FromVersion SnapshotEntry.generation s.cache.generations s.cache.snapshotCache
    s.snapshotSource frame (s.version frame)
  selectors : FromVersion SelectorEntry.generation s.cache.generations s.cache.selectorCache
    s.selectorSource frame (s.version frame)

lemma fresh_iff_freshAt : s.Fresh ↔ ∀ frame, s.announced frame = true → s.FreshAt frame :=
  forall₂_congr fun _ _ => ⟨fun h => ⟨h.1, h.2⟩, fun h => ⟨h.snapshots, h.selectors⟩⟩

lemma fresh_iff_forall : s.Fresh ↔
    (∀ frame, s.announced frame = true → FromVersion SnapshotEntry.generation s.cache.generations
      s.cache.snapshotCache s.snapshotSource frame (s.version frame)) ∧
    ∀ frame, s.announced frame = true → FromVersion SelectorEntry.generation s.cache.generations
      s.cache.selectorCache s.selectorSource frame (s.version frame) :=
  ⟨fun h => ⟨fun frame hf => (h frame hf).1, fun frame hf => (h frame hf).2⟩,
    fun h frame hf => ⟨h.1 frame hf, h.2 frame hf⟩⟩

lemma FreshAt.congr {frame : Int} (h : s.FreshAt frame)
    (hgeneration : generation s'.cache.generations frame = generation s.cache.generations frame)
    (hsnapshots : ∀ key e, entryAt s'.cache.snapshotCache frame key = some e →
      entryAt s.cache.snapshotCache frame key = some e)
    (hselectors : ∀ key e, entryAt s'.cache.selectorCache frame key = some e →
      entryAt s.cache.selectorCache frame key = some e)
    (hversion : s'.version frame = s.version frame)
    (hsnapshot : s'.snapshotSource = s.snapshotSource)
    (hselector : s'.selectorSource = s.selectorSource) : s'.FreshAt frame where
  snapshots := by
    rw [hversion, hsnapshot]
    exact h.snapshots.congr hgeneration hsnapshots
  selectors := by
    rw [hversion, hselector]
    exact h.selectors.congr hgeneration hselectors

lemma Fresh.announce {cache : CefPageModelCache} {frame : Int} (hstamped : s.Stamped) (h : s.Fresh)
    (hgenerations : cache.generations = bump s.cache.generations frame)
    (hsnapshots : ∀ other key e, entryAt cache.snapshotCache other key = some e →
      entryAt s.cache.snapshotCache other key = some e)
    (hselectors : ∀ other key e, entryAt cache.selectorCache other key = some e →
      entryAt s.cache.selectorCache other key = some e) :
    Fresh { s with cache, announced := Function.update s.announced frame true } := by
  refine fresh_iff_freshAt.mpr fun other hother => ?_
  by_cases heq : other = frame
  · subst heq
    have hsnapshotsBehind : Behind SnapshotEntry.generation s.cache.generations cache.snapshotCache :=
      fun i key e he => hstamped.snapshots i key e (hsnapshots i key e he)
    have hselectorsBehind : Behind SelectorEntry.generation s.cache.generations cache.selectorCache :=
      fun i key e he => hstamped.selectors i key e (hselectors i key e he)
    constructor
    · exact fromVersion_of_none fun _ => hgenerations ▸ valid?_bump hsnapshotsBehind
    · exact fromVersion_of_none fun _ => hgenerations ▸ valid?_bump hselectorsBehind
  · have hannounced : s.announced other = true := by
      simpa [Function.update_of_ne heq] using hother
    refine (fresh_iff_freshAt.mp h other hannounced).congr ?_ (hsnapshots other) (hselectors other)
      rfl rfl rfl
    rw [hgenerations, generation_bump_of_ne heq]

lemma exists_step_of_not_storesCurrent {op : Operation} (h : ¬ s.StoresCurrent op) :
    ∃ s', s.step op = some s' := by
  cases op with
  | putSnapshot reading settingsKey snapshotText now =>
    simp only [StoresCurrent, not_forall] at h
    obtain ⟨r, hr, -⟩ := h
    exact ⟨_, bind_eq_some_iff.mpr ⟨r, hr, rfl⟩⟩
  | putSelector reading selector found elementNodeId tagName now =>
    simp only [StoresCurrent, not_forall] at h
    obtain ⟨r, hr, -⟩ := h
    exact ⟨_, bind_eq_some_iff.mpr ⟨r, hr, rfl⟩⟩
  | domChanges _ | bumpGeneration _ | invalidateFrame _ | invalidateAll | readDom _ =>
    exact absurd True.intro h

/-- **The step lemma**: from a fresh state with proper stamps a step leads to a fresh state if and
only if it stores nothing that is out of date. -/
lemma Fresh.step_iff {op : Operation} (hstamped : s.Stamped) (h : s.Fresh)
    (hs : s.step op = some s') : s'.Fresh ↔ s.StoresCurrent op := by
  cases op with
  | domChanges frame =>
    cases hs
    refine iff_of_true (fresh_iff_freshAt.mpr fun other hother => ?_) True.intro
    have hne : other ≠ frame := by
      rintro rfl
      simp at hother
    simp only [Function.update_of_ne hne] at hother
    refine (fresh_iff_freshAt.mp h other hother).congr rfl (fun _ _ he => he) (fun _ _ he => he)
      ?_ rfl rfl
    exact Function.update_of_ne hne ..
  | bumpGeneration frame =>
    cases hs
    exact iff_of_true (h.announce hstamped rfl (fun _ _ _ he => he) fun _ _ _ he => he) True.intro
  | invalidateFrame frame =>
    cases hs
    refine iff_of_true (h.announce hstamped rfl ?_ ?_) True.intro
    · intro other key e he
      exact entryAt_of_erase he
    · intro other key e he
      exact entryAt_of_erase he
  | invalidateAll =>
    cases hs
    refine iff_of_true (fresh_iff_freshAt.mpr fun frame _ => ?_) True.intro
    exact ⟨fromVersion_of_none fun _ => valid?_empty, fromVersion_of_none fun _ => valid?_empty⟩
  | readDom frame =>
    cases hs
    exact iff_of_true h True.intro
  | putSnapshot reading settingsKey snapshotText now =>
    obtain ⟨r, hr, hs⟩ := bind_eq_some_iff.mp hs
    cases hs
    have hcurrent : s.StoresCurrent (.putSnapshot reading settingsKey snapshotText now) ↔
        s.UpToDate r := by
      simp [StoresCurrent, hr]
    rw [hcurrent, fresh_iff_forall]
    have hstore := forall_fromVersion_put_iff (k := settingsKey) (w := r.version)
      (fresh_iff_forall.mp h).1 (fun _ => generation_touch (i := r.frame)) (e :=
        { generation := s.cache.getGeneration r.frame, snapshotText, cachedAt := now }) rfl
    refine (and_iff_left fun frame hannounced => ?_).trans hstore
    exact ((fresh_iff_forall.mp h).2 frame hannounced).congr generation_touch fun _ _ he => he
  | putSelector reading selector found elementNodeId tagName now =>
    obtain ⟨r, hr, hs⟩ := bind_eq_some_iff.mp hs
    cases hs
    have hcurrent : s.StoresCurrent (.putSelector reading selector found elementNodeId tagName now) ↔
        s.UpToDate r := by
      simp [StoresCurrent, hr]
    rw [hcurrent, fresh_iff_forall]
    have hstore := forall_fromVersion_put_iff (k := selector) (w := r.version)
      (fresh_iff_forall.mp h).2 (fun _ => generation_touch (i := r.frame)) (e :=
        { generation := s.cache.getGeneration r.frame, found, elementNodeId, tagName,
          cachedAt := now }) rfl
    refine (and_iff_right fun frame hannounced => ?_).trans hstore
    exact ((fresh_iff_forall.mp h).1 frame hannounced).congr generation_touch fun _ _ he => he

/-! ### Runs -/

/-- **Freshness of the cache**: in every state that a run reaches the cache returns nothing but
results computed from the current DOM, if and only if every store of the run has been computed from
the DOM that is current when it is made, or comes before the cache is told of the change.

**Proof sketch.** An announcement makes all entries of its frame invalid, as stamps are never ahead;
a store puts its entry in force at once. -/
theorem fresh_iff (operations : List Operation) :
    Always step Fresh {} operations ↔ Along step StoresCurrent {} operations := by
  refine Along.iff_always (I := Stamped) ?_ ?_ operations {} stamped_empty ?_
  · intro s op s' hstamped hfresh hcurrent hs
    exact ⟨hstamped.step hs, (hfresh.step_iff hstamped hs).mpr hcurrent⟩
  · intro s op hstamped hfresh hcurrent
    obtain ⟨s', hs⟩ := exists_step_of_not_storesCurrent hcurrent
    exact ⟨s', hs, mt (hfresh.step_iff hstamped hs).mp hcurrent⟩
  · intro frame _
    refine ⟨fun key entry h => ?_, fun key entry h => ?_⟩
    · cases valid?_empty.symm.trans h
    · cases valid?_empty.symm.trans h

/-- **A snapshot is read, then the DOM changes and the cache is told, then the snapshot is stored**:
it is returned, although the DOM is another one. -/
theorem stale_snapshot : ¬ ∀ operations, Always step Fresh {} operations := by
  intro h
  have hfresh := h [.readDom 1, .domChanges 1, .bumpGeneration 1, .putSnapshot 0 "default" "old" 0]
    4 _ rfl 1 rfl
  have hstale := hfresh.1 "default" { generation := 1, snapshotText := "old", cachedAt := 0 } (by decide)
  exact absurd hstale (by decide)

end PageModel

end CefCore.Browser
