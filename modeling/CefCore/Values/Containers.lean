import Mathlib.Data.Finmap
import Mathlib.Data.Finset.Sort
import Mathlib.Data.List.TakeWhile
import CefCore.Values.Content

/-!
# Containers as maps and sequences

What a dictionary and a list are for: a finite map from keys, and a sequence that is filled up with
null values when an element behind its end is set. The containers of the wrappers do what these do,
as long as the entries of every dictionary are in the order of their keys.

## Main results

* `contents_setChild`, `contents_eraseChild`: they do the same.
-/

namespace CefCore.Values

open PlacedTree List Option

/-! ### Maps and sequences -/

/-- Set an element; a sequence that is too short is filled up first. -/
def setPadded {α : Type*} (pad : α) (xs : List α) (i : Nat) (x : α) : List α :=
  if i < xs.length then xs.set i x else xs ++ List.replicate (i - xs.length) pad ++ [x]

lemma getElem?_setPadded {α : Type*} (pad : α) (xs : List α) (i j : Nat) (x : α) :
    (setPadded pad xs i x)[j]? =
      if j = i then some x else if xs.length ≤ j ∧ j < i then some pad else xs[j]? := by
  unfold setPadded
  split
  · rename_i hlt
    by_cases heq : j = i
    · rw [if_pos heq, heq, getElem?_set_self hlt]
    · rw [if_neg heq, if_neg (by omega), getElem?_set_ne (Ne.symm heq)]
  · rename_i hle
    by_cases hj : j < xs.length
    · rw [if_neg (by omega), if_neg (by omega), append_assoc, getElem?_append_left hj]
    · by_cases hlt : j < i
      · rw [if_neg (by omega), if_pos (by omega), getElem?_append_left (by simp; omega),
          getElem?_append_right (by omega), getElem?_replicate_of_lt (by omega)]
      · rw [getElem?_append_right (by simp; omega)]
        have hlength : (xs ++ List.replicate (i - xs.length) pad).length = i := by
          simp
          omega
        rw [hlength]
        by_cases heq : j = i
        · rw [if_pos heq, heq, Nat.sub_self]
          rfl
        · rw [if_neg heq, if_neg (by omega), getElem?_eq_none (by simp; omega),
            getElem?_eq_none (by omega)]

inductive Contents where
  | map (entries : Finmap fun _ : String => JsonValue)
  | seq (elements : List JsonValue)

namespace Contents

def get : Contents → Position → Option JsonValue
  | map entries, .key key => entries.lookup key
  | seq elements, .index i => elements[i]?
  | _, _ => none

/-- Set what is at a position; a sequence that is too short is filled up with null values. -/
def set : Contents → Position → JsonValue → Contents
  | map entries, .key key, x => map (entries.insert key x)
  | seq elements, .index i, x => seq (setPadded (.scalar .null) elements i x)
  | m, _, _ => m

/-- Remove what is at a position; the elements behind it move down. -/
def remove : Contents → Position → Contents
  | map entries, .key key => map (entries.erase key)
  | seq elements, .index i => seq (elements.eraseIdx i)
  | m, _ => m

def size : Contents → Nat
  | map entries => entries.keys.card
  | seq elements => elements.length

def keys : Contents → List String
  | map entries => entries.keys.sort (· ≤ ·)
  | seq _ => []

variable {m : Contents} {pos : Position}

lemma remove_of_get_eq_none (h : m.get pos = none) : m.remove pos = m := by
  cases m with
  | map entries =>
    cases pos with
    | index i => rfl
    | key key =>
      refine congrArg map (Finmap.ext_lookup fun key' => ?_)
      by_cases heq : key' = key
      · rw [heq, Finmap.lookup_erase]
        exact h.symm
      · rw [Finmap.lookup_erase_ne heq]
  | seq elements =>
    cases pos with
    | key key => rfl
    | index i => exact congrArg seq (eraseIdx_of_length_le (getElem?_eq_none_iff.mp h))

end Contents

/-! ### The order of the keys -/

def KeysSorted (a : Label) (bs : List Label) : Prop :=
  a.kind = .dict → (bs.map (·.key)).Pairwise (· < ·)

def keysOf (v : Value) : List String := v.children.map (·.label.key)

section Sorted

variable {v element : Value} {key : String} {next i : Nat}

lemma sorted_iff : v.Everywhere KeysSorted ↔ (v.label.kind = .dict → (keysOf v).Pairwise (· < ·)) ∧
    ∀ t ∈ v.children, t.Everywhere KeysSorted := by
  rw [everywhere_iff, KeysSorted, List.map_map]
  rfl

lemma keys_nodup (h : v.Everywhere KeysSorted) (hkind : v.label.kind = .dict) : (keysOf v).Nodup :=
  ((sorted_iff.mp h).1 hkind).imp ne_of_lt

lemma sorted_of_list (htype : v.label.kind.type = some .list)
    (h : ∀ t ∈ v.children, t.Everywhere KeysSorted) : v.Everywhere KeysSorted := by
  refine sorted_iff.mpr ⟨fun hkind => ?_, h⟩
  rw [hkind] at htype
  cases htype

lemma sorted_leaf (cell : Nat) (kind : Kind) : (leaf cell kind).Everywhere KeysSorted :=
  sorted_iff.mpr ⟨fun _ => List.Pairwise.nil, fun t ht => by simp [leaf] at ht⟩

section

variable (h : v.Everywhere KeysSorted)
include h

lemma sorted_relabel (cell : Nat) (key : String) : (relabel cell key v).Everywhere KeysSorted := by
  have h' := sorted_iff.mp h
  exact sorted_iff.mpr ⟨h'.1, h'.2⟩

lemma sorted_sublist {v' : Value} (hkind : v'.label.kind = .dict → v.label.kind = .dict)
    (hsub : v'.children.Sublist v.children) : v'.Everywhere KeysSorted := by
  obtain ⟨hkeys, hchildren⟩ := sorted_iff.mp h
  exact sorted_iff.mpr ⟨fun hdict => (hkeys (hkind hdict)).sublist (hsub.map _),
    fun t ht => hchildren t (hsub.mem ht)⟩

lemma sorted_eraseChild (i : Nat) : (eraseChild i v).Everywhere KeysSorted := by
  refine sorted_sublist h (fun hkind => ?_) (eraseIdx_sublist _ _)
  simp only [eraseChild, label_node] at hkind
  cases hv : v.label.kind <;> simp_all

lemma sorted_cleared : (cleared v).Everywhere KeysSorted := by
  refine sorted_sublist h (fun hkind => ?_) (nil_sublist _)
  simp only [cleared, label_node] at hkind
  cases hv : v.label.kind <;> simp_all

lemma sorted_padTo (htype : v.label.kind.type = some .list)
    (size next : Nat) : (padTo size next v).1.Everywhere KeysSorted := by
  obtain ⟨buffer, spare, hkind⟩ := exists_kind_list htype
  obtain ⟨us, buffer', spare', hpad, -, hnull, -⟩ :=
    appendNulls_spec (size - v.children.length) next hkind
  rw [padTo, hpad]
  refine sorted_of_list rfl fun t ht => ?_
  rcases mem_append.mp ht with ht | ht
  · exact (sorted_iff.mp h).2 t ht
  · obtain ⟨cell, rfl⟩ := hnull t ht
    exact sorted_leaf _ _

end

lemma key_padTo (htype : v.label.kind.type = some .list) (size next : Nat) :
    (padTo size next v).1.label.key = v.label.key := by
  obtain ⟨buffer, spare, hkind⟩ := exists_kind_list htype
  obtain ⟨us, buffer', spare', hpad, -⟩ := appendNulls_spec (size - v.children.length) next hkind
  rw [padTo, hpad]
  rfl

lemma keysOf_insertEntry : keysOf (insertEntry next key element v) =
    (v.children.takeWhile (keyBefore key)).map (·.label.key) ++
      key :: (v.children.dropWhile (keyBefore key)).map (·.label.key) := by
  simp [keysOf, insertEntry, relabel]

lemma sorted_insertEntry (h : v.Everywhere KeysSorted) (helement : element.Everywhere KeysSorted)
    (hkey : key ∉ keysOf v) : (insertEntry next key element v).Everywhere KeysSorted := by
  obtain ⟨hkeys, hchildren⟩ := sorted_iff.mp h
  have hsplit : v.children.takeWhile (keyBefore key) ++ v.children.dropWhile (keyBefore key) =
      v.children := takeWhile_append_dropWhile
  refine sorted_iff.mpr ⟨fun hkind => ?_, fun t ht => ?_⟩
  · have hpairwise := hkeys hkind
    have hbefore : ∀ x ∈ (v.children.takeWhile (keyBefore key)).map (·.label.key), x < key := by
      intro x hx
      obtain ⟨t, ht, rfl⟩ := mem_map.mp hx
      have hbefore : keyBefore key t = true := mem_takeWhile_imp ht
      exact of_decide_eq_true hbefore
    have hafter : ∀ x ∈ (v.children.dropWhile (keyBefore key)).map (·.label.key), key < x := by
      intro x hx
      rw [keysOf, ← hsplit, map_append, pairwise_append] at hpairwise
      have hnot : ∀ y ∈ v.children.dropWhile (keyBefore key), y.label.key ≠ key := fun y hy heq =>
        hkey (heq ▸ mem_map_of_mem (dropWhile_subset _ hy))
      cases hdrop : v.children.dropWhile (keyBefore key) with
      | nil => simp [hdrop] at hx
      | cons t ts =>
        rw [hdrop] at hx hnot hpairwise
        have hhead : key < t.label.key := by
          have hfalse : keyBefore key t = false := by
            have := head_dropWhile_not (l := v.children) (keyBefore key) (by rw [hdrop]; simp)
            simpa [hdrop] using this
          have hle : key ≤ t.label.key := not_lt.mp (of_decide_eq_false hfalse)
          exact lt_of_le_of_ne hle (Ne.symm (hnot t mem_cons_self))
        rw [map_cons] at hx hpairwise
        rcases mem_cons.mp hx with rfl | hx
        · exact hhead
        · exact hhead.trans ((pairwise_cons.mp hpairwise.2.1).1 x hx)
    rw [keysOf_insertEntry, pairwise_append, pairwise_cons]
    rw [keysOf, ← hsplit, map_append, pairwise_append] at hpairwise
    refine ⟨hpairwise.1, ⟨hafter, hpairwise.2.1⟩, fun x hx y hy => ?_⟩
    rcases mem_cons.mp hy with rfl | hy
    · exact hbefore x hx
    · exact (hbefore x hx).trans (hafter y hy)
  · rcases mem_append.mp ht with ht | ht
    · exact hchildren t (takeWhile_subset _ ht)
    · rcases mem_cons.mp ht with rfl | ht
      · exact sorted_relabel helement _ _
      · exact hchildren t (dropWhile_subset _ ht)

end Sorted

mutual

lemma sorted_clone : ∀ (v : Value) (next : Nat), v.Everywhere KeysSorted →
    (clone next v).1.Everywhere KeysSorted
  | .node a ts, next, h => by
    rw [Everywhere, everywhereIn_iff] at h
    obtain ⟨hkeys, hin⟩ := sorted_cloneAll ts (next + 2) (everywhereIn_iff.mpr h.2)
    show Everywhere KeysSorted (.node ⟨next, a.key, a.kind.rebuffer (next + 1)⟩
      (cloneAll (next + 2) ts).1)
    rw [Everywhere]
    refine ⟨fun hkind => ?_, hin⟩
    rw [List.map_map, hkeys, ← List.map_map]
    refine h.1 ?_
    cases hv : a.kind <;> simp_all [Kind.rebuffer]

lemma sorted_cloneAll : ∀ (vs : List Value) (next : Nat), EverywhereIn KeysSorted vs →
    (cloneAll next vs).1.map ((·.key) ∘ label) = vs.map ((·.key) ∘ label) ∧
      EverywhereIn KeysSorted (cloneAll next vs).1
  | [], next, _ => ⟨rfl, trivial⟩
  | v :: vs, next, h => by
    rw [EverywhereIn] at h
    obtain ⟨hkeys, hin⟩ := sorted_cloneAll vs (clone next v).2 h.2
    refine ⟨?_, sorted_clone v next h.1, hin⟩
    show (clone next v).1.label.key :: _ = _
    rw [key_clone, map_cons]
    exact congrArg _ hkeys

end

mutual

lemma sorted_removeEmptyValueDicts : ∀ v : Value, v.Everywhere KeysSorted →
    (removeEmptyValueDicts v).Everywhere KeysSorted
  | .node a ts, h => by
    unfold removeEmptyValueDicts
    split
    · rw [Everywhere] at h ⊢
      obtain ⟨hsub, hin⟩ := sorted_removeEmptyEntries ts h.2
      exact ⟨fun hkind => (h.1 hkind).sublist (hsub.map _), hin⟩
    · exact h

lemma sorted_removeEmptyEntries : ∀ vs : List Value, EverywhereIn KeysSorted vs →
    ((removeEmptyEntries vs).map label).Sublist (vs.map label) ∧
      EverywhereIn KeysSorted (removeEmptyEntries vs)
  | [], _ => ⟨List.Sublist.refl _, trivial⟩
  | v :: vs, h => by
    rw [EverywhereIn] at h
    obtain ⟨hsub, hin⟩ := sorted_removeEmptyEntries vs h.2
    unfold removeEmptyEntries
    dsimp only
    split
    · exact ⟨hsub.cons _, hin⟩
    · refine ⟨?_, sorted_removeEmptyValueDicts v h.1, hin⟩
      rw [map_cons, map_cons, label_removeEmptyValueDicts]
      exact hsub.cons_cons _

end

/-! ### What a container is -/

def entryMap (ts : List Value) : Finmap fun _ : String => JsonValue :=
  (ts.map fun t => (⟨t.label.key, content t⟩ : Sigma fun _ : String => JsonValue)).toFinmap

def contents (v : Value) : Contents :=
  match v.label.kind with
  | .list _ _ => .seq (v.children.map content)
  | _ => .map (entryMap v.children)

section Contents

variable {v : Value} {pos : Position} {key : String} {i : Nat}

lemma contents_of_list (htype : v.label.kind.type = some .list) :
    contents v = .seq (v.children.map content) := by
  obtain ⟨buffer, spare, hkind⟩ := exists_kind_list htype
  rw [contents, hkind]

lemma contents_of_dict (htype : v.label.kind.type = some .dictionary) :
    contents v = .map (entryMap v.children) := by
  rw [contents]
  cases hkind : v.label.kind <;> simp_all [Kind.type]

lemma kind_dict (htype : v.label.kind.type = some .dictionary) : v.label.kind = .dict := by
  cases hkind : v.label.kind <;> simp_all [Kind.type]

lemma lookup_entryMap (key : String) (ts : List Value) :
    (entryMap ts).lookup key = (ts.find? fun t => t.label.key = key).map content := by
  induction ts with
  | nil => rfl
  | cons t ts ih =>
    rw [entryMap, map_cons, Finmap.toFinmap_cons]
    by_cases heq : t.label.key = key
    · subst heq
      rw [Finmap.lookup_insert, find?_cons_of_pos (by simp)]
      rfl
    · rw [Finmap.lookup_insert_of_ne _ (Ne.symm heq), find?_cons_of_neg (by simpa using heq)]
      exact ih

lemma entryMap_lookup_eq_none_iff {ts : List Value} :
    (entryMap ts).lookup key = none ↔ key ∉ ts.map (·.label.key) := by
  rw [lookup_entryMap, map_eq_none_iff, find?_eq_none]
  simp [eq_comm]

theorem get_contents (htype : v.label.kind.type = some (World.containerType pos)) :
    (contents v).get pos = (World.childAt v pos).map fun r => content r.2.2 := by
  cases pos with
  | key key =>
    rw [contents_of_dict htype]
    show (entryMap v.children).lookup key = _
    rw [lookup_entryMap, World.childAt, indexOf]
    cases hindex : v.children.findIdx? fun t => t.label.key = key with
    | none =>
      have hnone := findIdx?_eq_none_iff.mp hindex
      rw [find?_eq_none.mpr fun t ht => by simpa using hnone t ht]
      rfl
    | some i =>
      obtain ⟨hlt, hkey, hbefore⟩ := findIdx?_eq_some_iff_getElem.mp hindex
      have hfind : v.children.find? (fun t => t.label.key = key) = some v.children[i] :=
        find?_eq_some_iff_getElem.mpr ⟨hkey, i, hlt, rfl, by simpa using hbefore⟩
      rw [hfind]
      simp [getElem?_eq_getElem hlt]
  | index i =>
    rw [contents_of_list htype]
    show (v.children.map content)[i]? = _
    rw [World.childAt, indexOf, getElem?_map]
    split
    · rename_i hnone
      split at hnone
      · cases hnone
      · rename_i hlt
        rw [getElem?_eq_none (by omega)]
        rfl
    · rename_i j hsome
      split at hsome
      · cases hsome
        rw [Option.map_map]
        rfl
      · cases hsome

lemma keys_entryMap (v : Value) : (entryMap v.children).keys = (keysOf v).toFinset := by
  ext key
  rw [Finmap.mem_keys, List.mem_toFinset, ← not_iff_not, ← Finmap.lookup_eq_none,
    entryMap_lookup_eq_none_iff]
  rfl

section

variable (h : v.Everywhere KeysSorted)
include h

lemma keys_contents (htype : v.label.kind.type = some .dictionary) :
    (contents v).keys = keysOf v := by
  have hkind := kind_dict htype
  rw [contents_of_dict htype]
  show (entryMap v.children).keys.sort (· ≤ ·) = keysOf v
  rw [keys_entryMap]
  exact (toFinset_sort _ (keys_nodup h hkind)).mpr
    (((sorted_iff.mp h).1 hkind).imp le_of_lt)

section

variable (htype : v.label.kind.type = some (World.containerType pos))
include htype

lemma size_contents :
    (contents v).size = v.children.length := by
  cases pos with
  | key key =>
    rw [contents_of_dict htype]
    show (entryMap v.children).keys.card = _
    rw [keys_entryMap, toFinset_card_of_nodup (keys_nodup h (kind_dict htype)), keysOf, length_map]
  | index i =>
    rw [contents_of_list htype]
    exact length_map _

theorem contents_eraseChild (hindex : indexOf v pos = some i) :
    contents (eraseChild i v) = (contents v).remove pos := by
  have htype' : (eraseChild i v).label.kind.type = some (World.containerType pos) := by
    rw [type_eraseChild, htype]
  cases pos with
  | key key =>
    have hnodup := keys_nodup h (kind_dict htype)
    obtain ⟨hlt, hkey, -⟩ := findIdx?_eq_some_iff_getElem.mp hindex
    have hkey : v.children[i].label.key = key := by simpa using hkey
    rw [contents_of_dict htype', contents_of_dict htype]
    refine congrArg _ (Finmap.ext_lookup fun key' => ?_)
    have hsplit : v.children = v.children.take i ++ v.children[i] :: v.children.drop (i + 1) := by
      rw [getElem_cons_drop, take_append_drop]
    by_cases heq : key' = key
    · rw [heq, Finmap.lookup_erase, entryMap_lookup_eq_none_iff]
      show key ∉ (v.children.eraseIdx i).map (·.label.key)
      rw [keysOf, hsplit, map_append, map_cons, hkey, nodup_middle, nodup_cons] at hnodup
      rw [eraseIdx_eq_take_drop_succ, map_append]
      exact hnodup.1
    · rw [Finmap.lookup_erase_ne heq, lookup_entryMap, lookup_entryMap]
      show ((v.children.eraseIdx i).find? _).map content = _
      rw [eraseIdx_eq_take_drop_succ]
      conv_rhs => rw [hsplit]
      rw [find?_append, find?_append, find?_cons_of_neg]
      rw [hkey]
      simpa using Ne.symm heq
  | index k =>
    obtain rfl := indexOf_index hindex
    rw [contents_of_list htype', contents_of_list htype]
    exact congrArg Contents.seq (eraseIdx_map _ _ _).symm

end

end

end Contents

/-! ### `SetInternal` on a container -/

namespace World

variable {v element : Value} {pos : Position} {key : String} {next i : Nat}

/-- What `SetInternal` makes of a container, with the first free number and the index of the new
child. -/
def setChild (v : Value) (pos : Position) (element : Value) (next : Nat) : Value × Nat × Nat :=
  match indexOf v pos with
  | some i => place (eraseChild i v) pos true element next
  | none => place v pos false element next

lemma setChild_key (h : v.Everywhere KeysSorted) (htype : v.label.kind.type = some .dictionary)
    (key : String) (element : Value) (next : Nat) : ∃ u, setChild v (.key key) element next =
        (insertEntry next key element u, next + 1, (u.children.takeWhile (keyBefore key)).length) ∧
      u.label = v.label ∧ u.children.Sublist v.children ∧ key ∉ keysOf u ∧
      (contents v).remove (.key key) = contents u := by
  unfold setChild
  cases hindex : indexOf v (.key key) with
  | none =>
    have habsent : key ∉ keysOf v := by
      intro hmem
      obtain ⟨t, ht, hkey⟩ := mem_map.mp hmem
      have := findIdx?_eq_none_iff.mp hindex t ht
      simp [hkey] at this
    refine ⟨v, rfl, rfl, List.Sublist.refl _, habsent, Contents.remove_of_get_eq_none ?_⟩
    rw [contents_of_dict htype]
    exact entryMap_lookup_eq_none_iff.mpr habsent
  | some i =>
    have herase : contents (eraseChild i v) = (contents v).remove (.key key) :=
      contents_eraseChild h htype hindex
    have hlabel : (eraseChild i v).label = v.label := by
      have hkind := kind_dict htype
      obtain ⟨⟨cell, k, kind⟩, ts⟩ := v
      obtain rfl : kind = .dict := hkind
      rfl
    refine ⟨eraseChild i v, rfl, hlabel, eraseIdx_sublist _ _, fun hmem => ?_, herase.symm⟩
    have htype' : (eraseChild i v).label.kind.type = some .dictionary := by rw [hlabel, htype]
    rw [contents_of_dict htype', contents_of_dict htype] at herase
    have hnone : (entryMap (eraseChild i v).children).lookup key = none := by
      rw [Contents.map.inj herase]
      exact Finmap.lookup_erase _ _
    exact entryMap_lookup_eq_none_iff.mp hnone hmem

lemma setChild_index {buffer spare : Nat} (hkind : v.label.kind = .list buffer spare) (i : Nat)
    (element : Value) (next : Nat) : ∃ us buffer' spare' cell next',
      setChild v (.index i) element next = (.node { v.label with kind := .list buffer' spare' }
        ((v.children ++ us).set i (relabel cell "" element)), next', i) ∧
      us.length = i + 1 - v.children.length ∧ (∀ u ∈ us, ∃ cell, u = leaf cell (.scalar .null)) ∧
      (buffer' = buffer ∨ next ≤ buffer') := by
  unfold setChild
  cases hindex : indexOf v (.index i) with
  | some j =>
    obtain rfl := indexOf_index hindex
    have hlt := indexOf_lt hindex
    refine ⟨[], buffer, spare, next, (insertElement next i element (eraseChild i v)).2, ?_,
      by simp; omega, by simp, .inl rfl⟩
    show ((insertElement next i element (eraseChild i v)).1, _, i) = _
    rw [insertElement_eraseChild hkind hlt, append_nil, ← hkind]
    rfl
  | none =>
    obtain ⟨us, buffer', spare', hpad, hlength, hnull, hbuffer', -⟩ :=
      appendNulls_spec (i + 1 - v.children.length) next hkind
    refine ⟨us, buffer', spare', (padTo (i + 1) next v).2, (padTo (i + 1) next v).2 + 1, ?_, hlength,
      hnull, hbuffer'⟩
    show (assignElement (padTo (i + 1) next v).2 i element (padTo (i + 1) next v).1, _, i) = _
    rw [assignElement, show (padTo (i + 1) next v).1 = _ from hpad]
    rfl

lemma contents_insertEntry (htype : v.label.kind.type = some .dictionary) (habsent : key ∉ keysOf v) :
    contents (insertEntry next key element v) = (contents v).set (.key key) (content element) := by
  have htype' : (insertEntry next key element v).label.kind.type = some .dictionary := htype
  rw [contents_of_dict htype', contents_of_dict htype]
  refine congrArg _ (Finmap.ext_lookup fun key' => ?_)
  have hsplit : v.children.takeWhile (keyBefore key) ++ v.children.dropWhile (keyBefore key) =
      v.children := takeWhile_append_dropWhile
  rw [lookup_entryMap]
  show (List.find? _ (v.children.takeWhile (keyBefore key) ++ relabel next key element ::
    v.children.dropWhile (keyBefore key))).map content = _
  rw [find?_append]
  by_cases heq : key' = key
  · subst heq
    have hnone : (v.children.takeWhile (keyBefore key')).find? (fun t => t.label.key = key') = none := by
      refine find?_eq_none.mpr fun t ht hkey => habsent (mem_map.mpr ⟨t, ?_, ?_⟩)
      · exact takeWhile_subset _ ht
      · simpa using hkey
    rw [hnone, none_or, find?_cons_of_pos (by simp [relabel]), map_some,
      content_relabel, Finmap.lookup_insert]
  · have hkey : (relabel next key element).label.key ≠ key' := Ne.symm heq
    rw [find?_cons_of_neg (p := fun t : Value => t.label.key = key') (by simpa using hkey),
      ← find?_append, hsplit, Finmap.lookup_insert_of_ne _ heq, lookup_entryMap]

theorem contents_setChild (h : v.Everywhere KeysSorted)
    (htype : v.label.kind.type = some (containerType pos)) :
    contents (setChild v pos element next).1 = (contents v).set pos (content element) := by
  cases pos with
  | key key =>
    obtain ⟨u, hset, hlabel, -, habsent, hremove⟩ := setChild_key h htype key element next
    have hutype : u.label.kind.type = some .dictionary := by
      rw [hlabel]
      exact htype
    rw [hset, contents_insertEntry hutype habsent, ← hremove, contents_of_dict htype]
    refine congrArg Contents.map (Finmap.ext_lookup fun key' => ?_)
    by_cases heq : key' = key
    · rw [heq, Finmap.lookup_insert, Finmap.lookup_insert]
    · rw [Finmap.lookup_insert_of_ne _ heq, Finmap.lookup_insert_of_ne _ heq,
        Finmap.lookup_erase_ne heq]
  | index i =>
    obtain ⟨buffer, spare, hkind⟩ := exists_kind_list htype
    obtain ⟨us, buffer', spare', cell, next', hset, hlength, hnull, -⟩ :=
      setChild_index hkind i element next
    rw [hset, contents_of_list rfl, contents_of_list htype]
    refine congrArg Contents.seq (ext_getElem? fun j => ?_)
    rw [getElem?_setPadded, children_node, length_map, getElem?_map, getElem?_map]
    by_cases heq : j = i
    · subst heq
      rw [if_pos rfl, getElem?_set_self (by rw [length_append]; omega), map_some,
        content_relabel]
    · rw [if_neg heq, getElem?_set_ne (Ne.symm heq)]
      by_cases hj : j < v.children.length
      · rw [if_neg (by omega), getElem?_append_left hj]
      · rw [getElem?_append_right (by omega)]
        by_cases hji : j < i
        · have hlt : j - v.children.length < us.length := by omega
          obtain ⟨cell, hcell⟩ := hnull _ (getElem_mem hlt)
          rw [if_pos (by omega), getElem?_eq_getElem hlt, hcell]
          rfl
        · rw [if_neg (by omega), getElem?_eq_none (by omega), getElem?_eq_none (by omega)]

lemma built_setChild (v : Value) (pos : Position) (element : Value) (next : Nat) :
    Built v (innerBlocks element) next (setChild v pos element next).1
      (setChild v pos element next).2.1 := by
  unfold setChild
  split
  · exact (built_eraseChild _ v next).trans (built_place _ pos true element next)
  · exact built_place v pos false element next

lemma key_setChild (htype : v.label.kind.type = some (containerType pos)) (element : Value)
    (next : Nat) : (setChild v pos element next).1.label.key = v.label.key := by
  cases pos with
  | key key =>
    unfold setChild
    split <;> rfl
  | index i =>
    obtain ⟨buffer, spare, hkind⟩ := exists_kind_list htype
    obtain ⟨us, buffer', spare', cell, next', hset, -⟩ := setChild_index hkind i element next
    rw [hset]
    rfl

lemma sorted_setChild (h : v.Everywhere KeysSorted) (helement : element.Everywhere KeysSorted)
    (htype : v.label.kind.type = some (containerType pos)) :
    (setChild v pos element next).1.Everywhere KeysSorted := by
  cases pos with
  | key key =>
    obtain ⟨u, hset, hlabel, hsub, habsent, -⟩ := setChild_key h htype key element next
    rw [hset]
    exact sorted_insertEntry (sorted_sublist h (by rw [hlabel]; exact id) hsub) helement habsent
  | index i =>
    obtain ⟨buffer, spare, hkind⟩ := exists_kind_list htype
    obtain ⟨us, buffer', spare', cell, next', hset, -, hnull, -⟩ :=
      setChild_index hkind i element next
    rw [hset]
    refine sorted_of_list rfl fun t ht => ?_
    rcases mem_or_eq_of_mem_set ht with ht | rfl
    · rcases mem_append.mp ht with ht | ht
      · exact (sorted_iff.mp h).2 t ht
      · obtain ⟨cell, rfl⟩ := hnull t ht
        exact sorted_leaf _ _
    · exact sorted_relabel helement _ _

lemma child_setChild (h : v.Everywhere KeysSorted)
    (htype : v.label.kind.type = some (containerType pos)) : ∃ cell key,
      (setChild v pos element next).1.children[(setChild v pos element next).2.2]? =
        some (relabel cell key element) := by
  cases pos with
  | key key =>
    obtain ⟨u, hset, -⟩ := setChild_key h htype key element next
    refine ⟨next, key, ?_⟩
    rw [hset]
    show (u.children.takeWhile (keyBefore key) ++ relabel next key element ::
      u.children.dropWhile (keyBefore key))[(u.children.takeWhile (keyBefore key)).length]? = _
    rw [getElem?_append_right (Nat.le_refl _), Nat.sub_self]
    rfl
  | index i =>
    obtain ⟨buffer, spare, hkind⟩ := exists_kind_list htype
    obtain ⟨us, buffer', spare', cell, next', hset, hlength, -⟩ := setChild_index hkind i element next
    refine ⟨cell, "", ?_⟩
    rw [hset]
    exact getElem?_set_self (by rw [length_append]; omega)

end World

end CefCore.Values
