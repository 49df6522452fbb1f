import CefCore.Browser.SessionPool
import CefCore.Foundations.Loop
import Mathlib.Data.Nat.Count

/-!
# When prewarming returns

`Prewarm` of `libcef/browser/session_pool.cc` calls `CreatePooledContext` until the pool has its
size. A creation that fails leaves the pool as it was, and the loop, which holds the lock, tries
again. Here is the loop against any sequence of answers of `CefRequestContext::CreateContext`.

## Main results

* `prewarm_returns_iff`: the loop returns if and only if enough creations succeed.
-/

namespace CefCore.Browser

open List PoolWorld Nat

/-- A state of the loop of `Prewarm`. -/
structure Prewarming where
  world : PoolWorld
  attempts : Nat

namespace Prewarming

def Goes (s : Prewarming) : Prop :=
  s.world.pool.available.length < s.world.pool.config.poolSize

def attempt (outcomes : Nat → Creation) (s : Prewarming) : Prewarming :=
  ⟨s.world.createPooledContext (outcomes s.attempts), s.attempts + 1⟩

def Loops (outcomes : Nat → Creation) : Prewarming → Prewarming → Prop :=
  Loop.Ends Goes fun s s' => s.attempt outcomes = s'

end Prewarming

namespace PoolWorld

/-- `Prewarm` returns after a number of attempts to create a context. -/
def Prewarms (w : PoolWorld) (outcomes : Nat → Creation) (attempts : Nat) (w' : PoolWorld) : Prop :=
  if w.pool.shutdown then attempts = 0 ∧ w' = w
  else Prewarming.Loops outcomes ⟨w, 0⟩ ⟨w', attempts⟩

variable {w : PoolWorld}

/-! ### One attempt -/

lemma createPooledContext_config (w : PoolWorld) (answer : Creation) :
    (w.createPooledContext answer).pool.config = w.pool.config := by
  unfold createPooledContext createContext CefSessionPool.generateCachePath
  split_ifs <;> rfl

lemma length_available_createPooledContext (w : PoolWorld) (answer : Creation) :
    (w.createPooledContext answer).pool.available.length =
      w.pool.available.length + if answer.ok = true then 1 else 0 := by
  unfold createPooledContext createContext CefSessionPool.generateCachePath
  split_ifs <;> simp

end PoolWorld

namespace Prewarming

variable {outcomes : Nat → Creation} {s s' t : Prewarming} {w : PoolWorld} {n : Nat}

/-- The creations among the first ones that succeed. -/
def successes (outcomes : Nat → Creation) (n : Nat) : Nat := Nat.count (fun i => (outcomes i).ok) n

structure Progress (w : PoolWorld) (outcomes : Nat → Creation) (s : Prewarming) : Prop where
  config : s.world.pool.config = w.pool.config
  available : s.world.pool.available.length =
    w.pool.available.length + successes outcomes s.attempts

lemma Progress.start (w : PoolWorld) (outcomes : Nat → Creation) : Progress w outcomes ⟨w, 0⟩ :=
  ⟨rfl, by simp [successes]⟩

lemma Progress.attempt (h : Progress w outcomes s) : Progress w outcomes (s.attempt outcomes) where
  config := by rw [Prewarming.attempt, createPooledContext_config, h.config]
  available := by
    rw [Prewarming.attempt, length_available_createPooledContext, h.available, successes,
      successes, count_succ, add_assoc]

lemma Progress.iterate : ∀ (n : Nat) {s : Prewarming}, Progress w outcomes s →
    Progress w outcomes ((Prewarming.attempt outcomes)^[n] s)
  | 0, _, h => h
  | n + 1, _, h => Progress.iterate n h.attempt

lemma attempts_iterate : ∀ (n : Nat) (s : Prewarming),
    ((attempt outcomes)^[n] s).attempts = s.attempts + n
  | 0, _ => rfl
  | n + 1, s => by
    rw [Function.iterate_succ_apply, attempts_iterate n, attempt, Nat.add_right_comm, Nat.add_assoc]

lemma Loops.available_le (h : Loops outcomes s t) {bound : Nat}
    (hs : s.world.pool.available.length ≤ max bound s.world.pool.config.poolSize) :
    t.world.pool.available.length ≤ max bound s.world.pool.config.poolSize := by
  refine (Loop.Ends.invariant (I := fun s' =>
    s'.world.pool.config = s.world.pool.config ∧
      s'.world.pool.available.length ≤ max bound s.world.pool.config.poolSize) ?_ h ⟨rfl, hs⟩).2
  rintro s₁ s₂ ⟨hconfig, -⟩ hgoes rfl
  refine ⟨(createPooledContext_config _ _).trans hconfig, ?_⟩
  rw [attempt, length_available_createPooledContext]
  unfold Goes at hgoes
  rw [hconfig] at hgoes
  split_ifs <;> omega

lemma exists_loops_iff (w : PoolWorld) (outcomes : Nat → Creation) :
    (∃ t, Loops outcomes ⟨w, 0⟩ t) ↔
      ∃ n, w.pool.config.poolSize ≤ w.pool.available.length + successes outcomes n := by
  constructor
  · rintro ⟨t, h⟩
    have hprogress : Progress w outcomes t := by
      refine Loop.Ends.invariant ?_ h (Progress.start w outcomes)
      rintro s s' hs - rfl
      exact hs.attempt
    refine ⟨t.attempts, ?_⟩
    rw [← hprogress.available, ← hprogress.config]
    exact not_lt.mp h.not_guard
  · rintro ⟨n, hn⟩
    refine Loop.exists_ends_of_iterate (n := n) fun hgoes => ?_
    have hprogress := Progress.iterate n (Progress.start w outcomes)
    rw [Goes, hprogress.available, hprogress.config, attempts_iterate, zero_add] at hgoes
    omega

/-! ### The loop and the recursion over the answers -/

lemma loops_of_prewarmLoop : ∀ {n i : Nat} {w w' : PoolWorld},
    PoolWorld.prewarmLoop ((List.range' i n).map outcomes) w = some w' →
    ∃ attempts, Loops outcomes ⟨w, i⟩ ⟨w', attempts⟩
  | 0, i, w, w', h => by
    rw [List.range'_zero, map_nil, PoolWorld.prewarmLoop] at h
    split at h
    · cases h
    · rename_i hgoes
      exact ⟨i, Option.some.inj h ▸ .exit hgoes⟩
  | n + 1, i, w, w', h => by
    rw [List.range'_succ, map_cons, PoolWorld.prewarmLoop] at h
    split at h
    · rename_i hgoes
      obtain ⟨attempts, hrest⟩ := loops_of_prewarmLoop h
      exact ⟨attempts, .next hgoes rfl hrest⟩
    · rename_i hgoes
      exact ⟨i, Option.some.inj h ▸ .exit hgoes⟩

lemma prewarmLoop_of_loops (h : Loops outcomes s t) : ∃ n,
    PoolWorld.prewarmLoop ((List.range' s.attempts n).map outcomes) s.world = some t.world := by
  induction h with
  | exit hgoes => exact ⟨0, if_neg hgoes⟩
  | @next s s' t hgoes hbody _ ih =>
    obtain ⟨n, hn⟩ := ih
    subst hbody
    refine ⟨n + 1, ?_⟩
    rw [List.range'_succ, map_cons, PoolWorld.prewarmLoop]
    exact (if_pos hgoes).trans hn

end Prewarming

namespace PoolWorld

variable {outcomes : Nat → Creation} {w w' : PoolWorld}

/-- **`Prewarm` in a run**: it returns exactly if it does with some of the answers. -/
theorem prewarms_iff_prewarm : (∃ attempts, w.Prewarms outcomes attempts w') ↔
    ∃ n, w.prewarm ((List.range n).map outcomes) = some w' := by
  unfold Prewarms prewarm
  cases w.pool.shutdown with
  | true => simp [eq_comm]
  | false =>
    simp only [Bool.false_eq_true, if_false, range_eq_range']
    constructor
    · rintro ⟨attempts, h⟩
      exact Prewarming.prewarmLoop_of_loops h
    · rintro ⟨n, h⟩
      exact Prewarming.loops_of_prewarmLoop h

/-- **When `Prewarm` returns**, with no more contexts than there were or than the size of the pool:
exactly if the pool is shut down, or the creations that succeed are, sooner or later, enough to fill
it. -/
theorem prewarm_returns_iff (w : PoolWorld) (outcomes : Nat → Creation) :
    (∃ attempts w', w.Prewarms outcomes attempts w' ∧ w'.pool.available.length ≤
        max w.pool.available.length w.pool.config.poolSize) ↔
      w.pool.shutdown = true ∨ ∃ n, w.pool.config.poolSize - w.pool.available.length ≤
        Prewarming.successes outcomes n := by
  simp only [Nat.sub_le_iff_le_add']
  rw [← Prewarming.exists_loops_iff]
  unfold Prewarms
  cases w.pool.shutdown with
  | true =>
    refine iff_of_true ⟨0, w, ?_, le_max_left _ _⟩ (.inl rfl)
    exact ⟨rfl, rfl⟩
  | false =>
    simp only [Bool.false_eq_true, if_false, false_or]
    constructor
    · rintro ⟨attempts, w', h, -⟩
      exact ⟨⟨w', attempts⟩, h⟩
    · rintro ⟨⟨w', attempts⟩, h⟩
      exact ⟨attempts, w', h, Prewarming.Loops.available_le h (le_max_left _ _)⟩

/-- In a new pool whose process cannot create contexts, it does not return. -/
theorem prewarm_spins : ¬ ∃ attempts w',
    (⟨.new {}, [], 0, []⟩ : PoolWorld).Prewarms (fun _ => ⟨false, 0⟩) attempts w' := by
  rintro ⟨attempts, w', h⟩
  obtain ⟨n, hn⟩ := (Prewarming.exists_loops_iff _ _).mp ⟨⟨w', attempts⟩, h⟩
  simp [Prewarming.successes, CefSessionPool.new, count_eq_card_filter_range] at hn

end PoolWorld

end CefCore.Browser
