import CefCore.MessageRouter.Basic
import Mathlib.Data.List.Nodup
import Mathlib.Data.Nat.ModEq

/-!
# The ids of a generator

`IdGenerator<T>` of `cef/src/wrapper/message_router.rs` counts up to a greatest id and begins again
behind the reserved one. The additions are those of the types that generators are made for.

## Main results

* `issuedIds_new`: the ids of any number of calls.
-/

namespace CefCore.MessageRouter

open List Nat

/-- The types `T` of the generators. -/
inductive IdType where
  | i32
  | i64

def IdType.max : IdType → Int
  | .i32 => i32Max
  | .i64 => i64Max

/-- The sum of two numbers of the type, unless it overflows. -/
def IdType.add (t : IdType) (a b : Int) : Option Int :=
  if -t.max - 1 ≤ a + b ∧ a + b ≤ t.max then some (a + b) else none

namespace IdGenerator

/-- `IdGenerator::next`, with an addition that may overflow. -/
def nextIn (t : IdType) (g : IdGenerator) : Option (Int × IdGenerator) := do
  let nextId := if g.nextId ≥ g.rangeEnd then g.rangeStart else g.nextId
  let nextId ← t.add nextId 1
  return (nextId, { g with nextId })

/-- The ids of `n` calls, and the generator after them. -/
def issue (t : IdType) : Nat → IdGenerator → Option (List Int × IdGenerator)
  | 0, g => some ([], g)
  | n + 1, g => do
    let (id, g) ← g.nextIn t
    let (ids, g) ← issue t n g
    return (id :: ids, g)

/-- A generator that has been made for the ids up to `m`, and what it has counted to. -/
def counting (m c : Nat) : IdGenerator := ⟨c, reservedId, m⟩

variable {t : IdType} {m c : Nat}

lemma nextIn_counting (hm : 0 < m) (hmax : (m : Int) ≤ t.max) (hc : c ≤ m) :
    (counting m c).nextIn t = some (((c % m + 1 : Nat) : Int), counting m (c % m + 1)) := by
  have hadd : ∀ k, k < m → t.add (k : Int) 1 = some ((k + 1 : Nat) : Int) := by
    intro k hk
    unfold IdType.add
    rw [if_pos (by omega)]
    rfl
  rcases lt_or_ge c m with hlt | hge
  · have hbelow : ¬ (counting m c).nextId ≥ (counting m c).rangeEnd :=
      Int.not_le.mpr (Int.ofNat_lt.mpr hlt)
    have hnext : t.add (counting m c).nextId 1 = some ((c + 1 : Nat) : Int) := hadd c hlt
    rw [nextIn, if_neg hbelow, hnext, mod_eq_of_lt hlt]
    rfl
  · obtain rfl := le_antisymm hc hge
    have hlast : (counting c c).nextId ≥ (counting c c).rangeEnd := Int.le_refl _
    have hstart : t.add (counting c c).rangeStart 1 = some ((0 + 1 : Nat) : Int) := hadd 0 hm
    rw [nextIn, if_pos hlast, hstart, mod_self]
    rfl

/-- **The ids of any number of calls**: no addition overflows, and the ids go round.

**Proof sketch.** Induction on the number of calls; the first call leaves a generator that has counted
one step further. -/
lemma issue_eq (hm : 0 < m) (hmax : (m : Int) ≤ t.max) : ∀ (n : Nat) {c : Nat}, c ≤ m →
    ∃ g, (counting m c).issue t n =
      some ((List.range n).map fun k => (((c + k) % m + 1 : Nat) : Int), g)
  | 0, c, _ => ⟨_, rfl⟩
  | n + 1, c, hc => by
    obtain ⟨g, hg⟩ := issue_eq hm hmax n (c := c % m + 1) (mod_lt c hm)
    refine ⟨g, ?_⟩
    have hround : ∀ k, (c % m + 1 + k) % m = (c + (k + 1)) % m := fun k => by
      rw [add_assoc, mod_add_mod, add_comm 1 k]
    simp only [issue, nextIn_counting hm hmax hc, Option.bind_eq_bind, Option.bind_some, hg,
      range_succ_eq_map, map_cons, map_map, Function.comp_def, hround, add_zero]
    rfl

end IdGenerator

/-- **What is to be said of ids** that are issued one after another up to a greatest one: they are among
the ids `1` to `max`, any `max` of them in a row are different, and between two calls that get the same
id all other ids are issued. -/
structure IssuedIds (max : Int) (ids : List Int) : Prop where
  inRange : ∀ id ∈ ids, id ≠ reservedId ∧ 1 ≤ id ∧ id ≤ max
  distinct : ∀ i, ((ids.drop i).take max.toNat).Nodup
  othersBetween : ∀ i j, i < j → j < ids.length → ids[i]? = ids[j]? →
    ∀ other, 1 ≤ other → other ≤ max → ids[i]? ≠ some other → ∃ k, i < k ∧ k < j ∧ ids[k]? = some other

namespace IdGenerator

variable {m n : Nat}

lemma getElem?_rounds {i : Nat} : ((List.range n).map fun k => ((k % m + 1 : Nat) : Int))[i]? =
    if i < n then some ((i % m + 1 : Nat) : Int) else none := by
  rw [getElem?_map]
  split
  · rename_i hi
    rw [getElem?_range hi]
    rfl
  · rename_i hi
    rw [getElem?_eq_none (by simpa using hi)]
    rfl

lemma exists_mod_eq {i r : Nat} (hm : 0 < m) (hr : r < m) (hne : i % m ≠ r) :
    ∃ k, i < k ∧ k < i + m ∧ k % m = r := by
  have hi := mod_lt i hm
  rcases lt_or_gt_of_ne hne with hlt | hgt
  · refine ⟨i + (r - i % m), by omega, by omega, ?_⟩
    rw [add_mod, mod_eq_of_lt (a := r - i % m) (by omega)]
    rw [show i % m + (r - i % m) = r by omega, mod_eq_of_lt hr]
  · refine ⟨i + (r + m - i % m), by omega, by omega, ?_⟩
    rw [add_mod, mod_eq_of_lt (a := r + m - i % m) (by omega)]
    rw [show i % m + (r + m - i % m) = r + m by omega, add_mod_right, mod_eq_of_lt hr]

lemma issuedIds_rounds (hm : 0 < m) :
    IssuedIds m ((List.range n).map fun k => ((k % m + 1 : Nat) : Int)) where
  inRange id hid := by
    obtain ⟨k, -, rfl⟩ := mem_map.mp hid
    have hk := mod_lt k hm
    refine ⟨?_, by omega, by omega⟩
    unfold reservedId
    omega
  distinct i := by
    rw [Int.toNat_natCast, nodup_iff_getElem?_ne_getElem?]
    intro a b hab hb heq
    have hlength : b < m ∧ i + b < n := by
      simp only [length_take, length_drop, length_map, length_range] at hb
      omega
    rw [getElem?_take_of_lt (by omega), getElem?_take_of_lt hlength.1, getElem?_drop,
      getElem?_drop, getElem?_rounds, getElem?_rounds, if_pos (by omega), if_pos hlength.2,
      Option.some.injEq] at heq
    have := Nat.ModEq.add_le_of_lt (m := m) (a := i + a) (b := i + b)
      (show _ % m = _ % m by omega) (by omega)
    omega
  othersBetween i j hij hj heq other hpos hle hne := by
    rw [length_map, length_range] at hj
    rw [getElem?_rounds, if_pos (by omega)] at heq hne
    rw [getElem?_rounds, if_pos hj, Option.some.injEq] at heq
    have hround := Nat.ModEq.add_le_of_lt (m := m) (show i % m = j % m by omega) hij
    obtain ⟨k, hik, hkm, hk⟩ := exists_mod_eq (i := i) (r := (other - 1).toNat) hm (by omega)
      (fun h => hne (by rw [h]; congr 1; omega))
    refine ⟨k, hik, by omega, ?_⟩
    rw [getElem?_rounds, if_pos (by omega), hk]
    congr 1
    omega

/-- **The ids of a generator**: for every greatest id of its type, and any number of calls, no addition
overflows, and the ids are as they should be.

**Proof sketch.** The `k`-th id is `k % max + 1`. -/
theorem issuedIds_new (t : IdType) {max : Int} (hpos : 1 ≤ max) (hmax : max ≤ t.max) (n : Nat) :
    ∃ ids g, (new max).issue t n = some (ids, g) ∧ ids.length = n ∧ IssuedIds max ids := by
  obtain ⟨m, rfl⟩ := Int.eq_ofNat_of_zero_le (Int.le_trans (by decide) hpos)
  have hm : 0 < m := by omega
  obtain ⟨g, hg⟩ := issue_eq hm hmax n (zero_le m)
  simp only [zero_add] at hg
  exact ⟨_, g, hg, by simp, issuedIds_rounds hm⟩

theorem issuedIds_new_three : ∃ ids g, (new 3).issue .i32 7 = some (ids, g) ∧ ids.length = 7 ∧
    IssuedIds 3 ids :=
  issuedIds_new .i32 (by decide) (by decide) 7

/-- **A generator of two ids**: between two calls that get the first one there is only one other id. -/
theorem reissued_behind_one : ¬ ∀ (t : IdType) (max : Int), 1 ≤ max → max ≤ t.max →
    ∀ (n : Nat) ids g, (new max).issue t n = some (ids, g) →
      ∀ i j, i < j → j < n → ids[i]? = ids[j]? →
        max ≤ ((((ids.drop (i + 1)).take (j - (i + 1))).length : Nat) : Int) := by
  intro h
  have hthree := h .i32 2 (by decide) (by decide) 3 [1, 2, 1] ⟨1, 0, 2⟩ rfl 0 2 (by decide) (by decide)
    rfl
  exact absurd hthree (by decide)

end IdGenerator

end CefCore.MessageRouter
