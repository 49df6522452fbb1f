import CefCore.Foundations.JsonPruning
import CefCore.Values.Moves

/-!
# What a value says

A `base::Value` without the places in memory: the contents of a dictionary, of a list or of a simple
value. `Clone` makes other places for the same contents, and `RemoveEmptyValueDicts` prunes them.

## Main results

* `copy_excludeEmptyChildren`: a copy has the same contents, pruned.
-/

namespace CefCore.Values

open PlacedTree List

def Scalar.content : Scalar → JsonScalar
  | .null => .null
  | .bool value => .boolean value
  | .int value => .integer value
  | .double bits => .double bits
  | .string value => .string value

mutual

def content : Value → JsonValue
  | .node a ts =>
    match a.kind with
    | .scalar s => .scalar s.content
    | .binary data => .scalar (.binary data)
    | .dict => .dict (entryContents ts)
    | .list _ _ => .list (elementContents ts)

def entryContents : List Value → JsonDict
  | [] => []
  | t :: ts => (t.label.key, content t) :: entryContents ts

def elementContents : List Value → List JsonValue
  | [] => []
  | t :: ts => content t :: elementContents ts

end

lemma content_dict {a : Label} (h : a.kind = .dict) (ts : List Value) :
    content (.node a ts) = .dict (entryContents ts) := by
  rw [content, h]

lemma content_eq_empty_iff (v : Value) :
    content v = .dict [] ↔ v.label.kind = .dict ∧ v.children = [] := by
  obtain ⟨a, ts⟩ := v
  rw [label_node, children_node, content]
  cases a.kind with
  | dict => cases ts <;> simp [entryContents]
  | scalar s => simp
  | binary data => simp
  | list buffer spare => simp

/-! ### Copies -/

@[simp] lemma key_clone (next : Nat) (v : Value) : (clone next v).1.label.key = v.label.key := by
  cases v with
  | node a ts => rfl

mutual

theorem content_clone (next : Nat) : ∀ v : Value, content (clone next v).1 = content v
  | .node a ts => by
    have hentries := entryContents_cloneAll (next + 2) ts
    have helements := elementContents_cloneAll (next + 2) ts
    rw [clone, content, content]
    cases a.kind with
    | scalar s => rfl
    | binary data => rfl
    | dict => exact congrArg _ hentries
    | list buffer spare => exact congrArg _ helements

lemma entryContents_cloneAll (next : Nat) : ∀ ts : List Value,
    entryContents (cloneAll next ts).1 = entryContents ts
  | [] => rfl
  | t :: ts => by
    have htail := entryContents_cloneAll (clone next t).2 ts
    rw [entryContents, ← content_clone next t, ← htail, ← key_clone next t]
    rfl

lemma elementContents_cloneAll (next : Nat) : ∀ ts : List Value,
    elementContents (cloneAll next ts).1 = elementContents ts
  | [] => rfl
  | t :: ts => by
    have htail := elementContents_cloneAll (clone next t).2 ts
    rw [elementContents, ← content_clone next t, ← htail]
    rfl

end

/-! ### Pruning -/

@[simp] lemma label_removeEmptyValueDicts (v : Value) :
    (removeEmptyValueDicts v).label = v.label := by
  obtain ⟨a, ts⟩ := v
  rw [removeEmptyValueDicts]
  split <;> rfl

lemma erased_iff (t : Value) : (t.label.kind = .dict && t.children.isEmpty) = true ↔
    content t = .dict [] := by
  rw [content_eq_empty_iff]
  simp

mutual

theorem content_removeEmptyValueDicts : ∀ v : Value,
    content (removeEmptyValueDicts v) = (content v).prune
  | .node a ts => by
    have hentries := entryContents_removeEmptyEntries ts
    rw [removeEmptyValueDicts]
    split
    · rename_i hdict
      rw [content_dict hdict, content_dict hdict, hentries, JsonValue.prune]
    · rename_i hother
      rw [content]
      cases hkind : a.kind with
      | dict => exact absurd hkind hother
      | scalar s => rfl
      | binary data => rfl
      | list buffer spare => rfl

lemma entryContents_removeEmptyEntries : ∀ ts : List Value,
    entryContents (removeEmptyEntries ts) = JsonValue.pruneEntries (entryContents ts)
  | [] => rfl
  | t :: ts => by
    have hhead := content_removeEmptyValueDicts t
    have htail := entryContents_removeEmptyEntries ts
    rw [removeEmptyEntries, entryContents, JsonValue.pruneEntries, ← hhead]
    simp only [erased_iff]
    split
    · exact htail
    · rw [entryContents, htail, label_removeEmptyValueDicts]

end

mutual

/-- **Another pass changes nothing.** -/
theorem removeEmptyValueDicts_idem : ∀ v : Value,
    removeEmptyValueDicts (removeEmptyValueDicts v) = removeEmptyValueDicts v
  | .node a ts => by
    have hentries := removeEmptyEntries_idem ts
    rw [removeEmptyValueDicts]
    split
    · rename_i hdict
      rw [removeEmptyValueDicts, if_pos hdict, hentries]
    · rename_i hother
      rw [removeEmptyValueDicts, if_neg hother]

lemma removeEmptyEntries_idem : ∀ ts : List Value,
    removeEmptyEntries (removeEmptyEntries ts) = removeEmptyEntries ts
  | [] => rfl
  | t :: ts => by
    have hhead := removeEmptyValueDicts_idem t
    have htail := removeEmptyEntries_idem ts
    rw [removeEmptyEntries]
    split
    · exact htail
    · rename_i hkept
      rw [removeEmptyEntries, hhead, if_neg hkept, htail]

end

/-! ### Lists that grow -/

@[simp] lemma content_relabel (cell : Nat) (key : String) (v : Value) :
    content (relabel cell key v) = content v := by
  obtain ⟨a, ts⟩ := v
  rw [relabel, content, content]
  rfl

lemma appendNulls_spec : ∀ (n next : Nat) {v : Value} {buffer spare : Nat},
    v.label.kind = .list buffer spare → ∃ us buffer' spare',
      (appendNulls n next v).1 = .node { v.label with kind := .list buffer' spare' } (v.children ++ us) ∧
      us.length = n ∧ (∀ u ∈ us, ∃ cell, u = leaf cell (.scalar .null)) ∧
      (buffer' = buffer ∨ next ≤ buffer') ∧ next ≤ (appendNulls n next v).2
  | 0, next, v, buffer, spare, hkind => by
    refine ⟨[], buffer, spare, ?_, rfl, by simp, .inl rfl, Nat.le_refl _⟩
    rw [append_nil, ← hkind]
    cases v with
    | node a ts => rfl
  | n + 1, next, v, buffer, spare, hkind => by
    obtain ⟨buffer₁, spare₁, next₁, hinsert, hbuffer₁, hle⟩ : ∃ buffer₁ spare₁ next₁,
        insertElement next v.children.length (leaf next (.scalar .null)) v =
          (.node { v.label with kind := .list buffer₁ spare₁ }
            (v.children ++ [leaf next (.scalar .null)]), next₁) ∧
        (buffer₁ = buffer ∨ next ≤ buffer₁) ∧ next ≤ next₁ := by
      have hrelabel : relabel next "" (leaf next (.scalar .null)) = leaf next (.scalar .null) := rfl
      unfold insertElement
      rw [hkind, insertIdx_length_self, hrelabel]
      cases spare with
      | zero => exact ⟨_, _, _, rfl, .inr (Nat.le_succ _), Nat.le_add_right _ _⟩
      | succ spare => exact ⟨_, _, _, rfl, .inl rfl, Nat.le_succ _⟩
    obtain ⟨us, buffer', spare', happend, hlength, hnull, hbuffer', hle'⟩ := appendNulls_spec n next₁
      (v := .node { v.label with kind := .list buffer₁ spare₁ }
        (v.children ++ [leaf next (.scalar .null)])) rfl
    unfold appendNulls
    rw [hinsert]
    refine ⟨leaf next (.scalar .null) :: us, buffer', spare', ?_, by simp [hlength], ?_, ?_,
      Nat.le_trans hle hle'⟩
    · rw [happend, children_node, append_assoc, singleton_append]
      rfl
    · intro u hu
      rcases mem_cons.mp hu with rfl | hu
      · exact ⟨next, rfl⟩
      · exact hnull u hu
    · rcases hbuffer' with rfl | hlt
      · exact hbuffer₁
      · exact .inr (Nat.le_trans hle hlt)

lemma padTo_contents {v : Value} (size next : Nat) (htype : v.label.kind.type = some .list) :
    ∃ us, (padTo size next v).1.children = v.children ++ us ∧
      us.length = size - v.children.length ∧ (∀ u ∈ us, content u = .scalar .null) ∧
      (padTo size next v).1.label.kind.type = some .list := by
  obtain ⟨buffer, spare, hkind⟩ := exists_kind_list htype
  obtain ⟨us, buffer', spare', hpad, hlength, hnull, -⟩ :=
    appendNulls_spec (size - v.children.length) next hkind
  rw [padTo, hpad]
  refine ⟨us, rfl, hlength, fun u hu => ?_, rfl⟩
  obtain ⟨cell, rfl⟩ := hnull u hu
  rfl

/-! ### `Copy` -/

namespace World

variable {W : World} {w c : Nat} {a : Addr} {v : Value}

lemma deref_newOwner {type : ValueType} (W : World) (next : Nat)
    (h : v.label.kind.type = some type) :
    (W.newOwner type v next).deref (rootAddr v) type = .ok v := by
  have hfind : findIn slot (rootAddr v) forest 0 (v :: W.values) = some v := by
    rw [findIn, show slot forest 0 v.label = rootAddr v from rfl, find_self]
    rfl
  unfold deref
  rw [show (W.newOwner type v next).values = v :: W.values from rfl, hfind]
  exact if_pos h

/-- **`Copy` without the empty children.** The copy of a dictionary says what the dictionary says
when the recursive pruning has dropped from it, on all levels, the dictionaries that are empty or
become so. It has no empty dictionary on any path of dictionaries, and pruning it once more changes
nothing. -/
theorem copy_excludeEmptyChildren (hattached : (W.wrapper w).attachment = some (c, a))
    (htype : (W.wrapper w).type = .dictionary) (hv : W.deref a .dictionary = .ok v) :
    ∃ v' next, W.copy w true = .ok (some W.wrappers, W.newOwner .dictionary v' next) ∧
      (W.newOwner .dictionary v' next).deref (rootAddr v') .dictionary = .ok v' ∧
      content v' = (content v).prune ∧
      ¬ JsonValue.Below (.dict []) (content v') ∧
      removeEmptyValueDicts v' = v' := by
  have hkind : (removeEmptyValueDicts (clone W.next v).1).label.kind.type = some .dictionary := by
    obtain ⟨b, ts⟩ := v
    have hdict := (deref_eq_ok hv).2
    rw [label_removeEmptyValueDicts]
    cases hb : b.kind <;> simp_all [clone, Kind.rebuffer, Kind.type]
  have hcontent : content (removeEmptyValueDicts (clone W.next v).1) = (content v).prune := by
    rw [content_removeEmptyValueDicts, content_clone]
  refine ⟨removeEmptyValueDicts (clone W.next v).1, (clone W.next v).2, ?_,
    deref_newOwner W _ hkind, hcontent, ?_, removeEmptyValueDicts_idem _⟩
  · have hverify : W.verify [] w false = .ok (some (c, a, [c])) := by
      simp [verify, hattached, lock, pure, bind, Except.pure, Except.bind]
    simp [copy, hverify, htype, hv, pure, bind, Except.pure, Except.bind]
  · rw [hcontent]
    exact JsonValue.not_below_prune _

/-- A dictionary with an entry that has an empty dictionary in it. -/
theorem copy_excludeEmptyChildren_nested :
    ∃ v' next, (World.new.newOwner .dictionary
        (.node ⟨0, "", .dict⟩ [.node ⟨1, "a", .dict⟩ [.node ⟨2, "b", .dict⟩ []],
          .node ⟨3, "c", .list 4 0⟩ []]) 5).copy 0 true = .ok (some 1, (World.new.newOwner .dictionary
        (.node ⟨0, "", .dict⟩ [.node ⟨1, "a", .dict⟩ [.node ⟨2, "b", .dict⟩ []],
          .node ⟨3, "c", .list 4 0⟩ []]) 5).newOwner .dictionary v' next) ∧
      content v' = .dict [("c", .list [])] := by
  obtain ⟨v', next, hcopy, -, hcontent, -, -⟩ := copy_excludeEmptyChildren
    (W := World.new.newOwner .dictionary
      (.node ⟨0, "", .dict⟩ [.node ⟨1, "a", .dict⟩ [.node ⟨2, "b", .dict⟩ []],
        .node ⟨3, "c", .list 4 0⟩ []]) 5) (w := 0) rfl rfl rfl
  exact ⟨v', next, hcopy, hcontent⟩

end World

end CefCore.Values
