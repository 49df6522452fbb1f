import CefCore.Values.Accessors
import CefCore.Values.Updates

/-!
# Dictionaries and lists behave as maps and sequences

Calls of the getters, the setters and `Remove` of one wrapper are compared with what they do to a
finite map or a padded sequence. A call is taken into account if it fits the wrapper, and if a value
that it gives away is that of a valid wrapper with another controller, and bare.

## Main results

* `containers_behave`: the same answers in every such list of calls.

## Implementation notes

* Keys are the same if their text in UTF-8 is. `CefString::ToString` makes the same text of different
  unpaired surrogates, so `World.surrogates_collide`.
* `GetOrCreateRef` returns the wrapper that is registered at the address. That it is attached to what
  is there is stated, and its class is left open.
-/

namespace CefCore.Values

open PlacedTree List Option
open MessageRouter (UnicodeConversions CefString)

/-! ### Contents -/

def contentType : JsonValue → CefValueType
  | .scalar .null => .null
  | .scalar (.boolean _) => .bool
  | .scalar (.integer _) => .int
  | .scalar (.double _) => .double
  | .scalar (.string _) => .string
  | .scalar (.binary _) => .binary
  | .dict _ => .dictionary
  | .list _ => .list

def ValueType.valueType : ValueType → CefValueType
  | .binary => .binary
  | .dictionary => .dictionary
  | .list => .list

lemma contentType_content (v : Value) : contentType (content v) = v.label.kind.valueType := by
  cases v with
  | node a ts =>
    rw [content, label_node]
    cases a.kind with
    | scalar s => cases s <;> rfl
    | binary data => rfl
    | dict => rfl
    | list buffer spare => rfl

lemma kind_type_iff (kind : Kind) (type : ValueType) :
    kind.type = some type ↔ kind.valueType = type.valueType := by
  cases kind with
  | scalar s => cases s <;> cases type <;> simp [Kind.type, Kind.valueType, ValueType.valueType]
  | binary data => cases type <;> simp [Kind.type, Kind.valueType, ValueType.valueType]
  | dict => cases type <;> simp [Kind.type, Kind.valueType, ValueType.valueType]
  | list buffer spare => cases type <;> simp [Kind.type, Kind.valueType, ValueType.valueType]

namespace Contents

def typeAt (m : Contents) (pos : Position) : CefValueType :=
  match m.get pos with
  | some x => contentType x
  | none => .invalid

/-- The simple value at a position, if there is one that `get` accepts; `ret` otherwise. -/
def scalarAt {α : Type} (m : Contents) (pos : Position) (ret : α) (get : JsonScalar → Option α) : α :=
  match m.get pos with
  | some (.scalar s) => (get s).getD ret
  | _ => ret

end Contents

/-! ### Calls -/

namespace World

section

variable (W : World)

/-- The wrapper is attached to a value of these contents. -/
def Shows (c r : Nat) (x : JsonValue) : Prop :=
  ∃ b t, (W.wrapper r).attachment = some (c, b) ∧ findIn slot b forest 0 W.values = some t ∧
    content t = x

/-- The `CefValueImpl` holds a simple value or a wrapper of these contents. -/
def Holds (c o : Nat) (x : JsonValue) : Prop :=
  match W.object o with
  | .invalid => False
  | .scalar s => .scalar s.content = x
  | .object r => W.Shows c r x

/-- What `GetBinary`, `GetDictionary` and `GetList` return, by what is at the position. -/
def GivesRef (c : Nat) (type : ValueType) : Option JsonValue → Option Nat → Prop
  | none, r => r = none
  | some x, r =>
    if contentType x = type.valueType then ∃ w, r = some w ∧ W.Shows c w x else r = none

/-- What `GetValue` returns, by what is at the position. -/
def GivesObject (c : Nat) : Option JsonValue → Option Nat → Prop
  | none, r => r = none
  | some x, r => ∃ o, r = some o ∧ W.Holds c o x

def wrapperContent (r : Nat) : JsonValue :=
  match (W.wrapper r).attachment with
  | some (_, a) =>
    match W.deref a (W.wrapper r).type with
    | .ok v => content v
    | .error _ => .scalar .null
  | none => .scalar .null

/-- The contents of a `CefValueImpl`. -/
def objectContent (o : Nat) : JsonValue :=
  match W.object o with
  | .invalid => .scalar .null
  | .scalar s => .scalar s.content
  | .object r => W.wrapperContent r

/-- The value of the wrapper can be given to a container of the controller `c`. -/
def CanGive (c arg : Nat) : Prop := ∃ u, W.Given c arg u

end

end World

namespace Access

variable (base : UnicodeConversions) (storedDouble : UInt64 → UInt64) (W : World)

/-- Dictionaries have keys and lists have indices. -/
def Fits (W : World) (w : Nat) (place : Place) : Prop :=
  World.containerType (place.position base) = (W.wrapper w).type

/-- The calls that are compared: they are methods of the class of the wrapper, and a value that is
given away is one of a valid wrapper with another controller, and bare. -/
def Admissible (w c : Nat) : Access → Prop
  | .getType place | .getBool place | .getInt place | .getDouble place | .getString place
  | .getRef place _ | .getValue place | .setNull place | .setBool place _ | .setInt place _
  | .setDouble place _ | .setString place _ | .remove place => Fits base W w place
  | .hasKey _ | .getKeys _ => (W.wrapper w).type = .dictionary
  | .getSize => (W.wrapper w).type ≠ .binary
  | .setObject place arg => Fits base W w place ∧ W.CanGive c arg
  | .setValue place o _ =>
    Fits base W w place ∧
      match W.object o with
      | .invalid => False
      | .scalar _ => True
      | .object arg => W.CanGive c arg

def puts : Access → Option (Position × JsonValue)
  | .setNull place => some (place.position base, .scalar .null)
  | .setBool place value => some (place.position base, .scalar (.boolean value))
  | .setInt place value => some (place.position base, .scalar (.integer value))
  | .setDouble place bits => some (place.position base, .scalar (.double (storedDouble bits)))
  | .setString place value => some (place.position base, .scalar (.string (value.toString base)))
  | .setObject place arg => some (place.position base, W.wrapperContent arg)
  | .setValue place o _ => some (place.position base, W.objectContent o)
  | _ => none

def after (readOnly : Bool) (m : Contents) (x : Access) : Contents :=
  if readOnly then m
  else
    match x with
    | .remove place => m.remove (place.position base)
    | x =>
      match x.puts base storedDouble W with
      | some (pos, y) => m.set pos y
      | none => m

/-- What a call returns, in the state `W'` after it. -/
def Returns (W' : World) (c : Nat) (readOnly : Bool) (m : Contents) : Access → Answer → Prop
  | .getType place, r => r = .type (m.typeAt (place.position base))
  | .getBool place, r => r = .bool (m.scalarAt (place.position base) false fun
    | .boolean value => some value
    | _ => none)
  | .getInt place, r => r = .int (m.scalarAt (place.position base) 0 fun
    | .integer value => some value
    | _ => none)
  | .getDouble place, r => r = .double (m.scalarAt (place.position base) 0 fun
    | .double bits => some bits
    | _ => none)
  | .getString place, r => r = .string (CefString.fromString base
    (m.scalarAt (place.position base) "" fun
      | .string value => some value
      | _ => none))
  | .getRef place type, r =>
    ∃ w', r = .wrapper w' ∧ W'.GivesRef c type (m.get (place.position base)) w'
  | .getValue place, r => ∃ o, r = .object o ∧ W'.GivesObject c (m.get (place.position base)) o
  | .hasKey key, r => r = .bool (m.get (.key (key.toString base))).isSome
  | .getKeys keys, r => r = .keys true (keys ++ m.keys.map (CefString.fromString base))
  | .getSize, r => r = .size m.size
  | .remove place, r => r = .bool (!readOnly && (m.get (place.position base)).isSome)
  | _, r => r = .bool !readOnly

end Access

namespace World

variable (base : UnicodeConversions) (storedDouble : UInt64 → UInt64)

/-- The calls on the wrapper `w`, which is attached to a container of the controller `c`, return and
do what the map or sequence `m` says, as long as they are admissible. A call that returns `false`
changes nothing. -/
def Behaves (w c : Nat) : World → Contents → List Access → Prop
  | _, _, [] => True
  | W, m, x :: xs => x.Admissible base W w c → ∃ r W', W.perform base storedDouble w x = .ok (r, W') ∧
      x.Returns base W' c (W.wrapper w).readOnly m r ∧ (r = .bool false → W' = W) ∧
      Behaves w c W' (x.after base storedDouble W (W.wrapper w).readOnly m) xs

/-- What a sequence of calls on the wrapper `w` returns. -/
def answers (w : Nat) : World → List Access → Except Fault (List Answer)
  | _, [] => return []
  | W, x :: xs => do
    let (r, W) ← W.perform base storedDouble w x
    return r :: (← answers w W xs)

/-- The wrapper `w` is attached to a container of the controller `c`, which is the map or sequence
`m`. -/
def Represents (W : World) (w c : Nat) (m : Contents) : Prop :=
  ∃ a v, W.Held [] w c a v ∧ v.label.kind.type = some (W.wrapper w).type ∧ contents v = m

variable {W : World} {w c arg : Nat} {a : Addr} {u v : Value} {pos : Position} {m : Contents}

lemma wrapperContent_of_given (h : W.Given c arg u) : W.wrapperContent arg = content u := by
  obtain ⟨c', a', hattached, -, hderef, -⟩ := h
  unfold wrapperContent
  rw [hattached]
  show (match W.deref a' (W.wrapper arg).type with
    | .ok v => content v
    | .error _ => .scalar .null) = _
  rw [hderef]

lemma holds_object {r : Nat} {x : JsonValue} (h : W.Shows c r x) :
    (W.newObject (.object r)).Holds c W.objects x := by
  unfold Holds newObject
  simp only [Function.update_self]
  exact h

lemma holds_scalar {s : Scalar} {x : JsonValue} (h : .scalar s.content = x) :
    (W.newObject (.scalar s)).Holds c W.objects x := by
  unfold Holds newObject
  simp only [Function.update_self]
  exact h

namespace Held

/-! ### Methods that read -/

section

variable (h : W.Held [] w c a v)
include h

lemma verify_read : W.verify [] w false = .ok (some (c, a, [c])) := by
  rw [verify_of_attached h.attached not_mem_nil, Bool.and_false, if_neg Bool.false_ne_true]

section

variable (htype : v.label.kind.type = some (containerType pos))
include htype

lemma read_eq {α : Type} (ret : α) (f : Option Value → α) :
    W.read w pos ret f = .ok (f ((childAt v pos).map (·.2.2))) := by
  unfold World.read
  rw [h.verify_read]
  simp only [bind, Except.bind, deref_of_find h.found htype]
  rfl

lemma getType_eq : W.getType w pos = .ok ((contents v).typeAt pos) := by
  unfold World.getType Contents.typeAt
  rw [h.read_eq htype, get_contents htype]
  cases childAt v pos with
  | none => rfl
  | some r => exact congrArg _ (contentType_content r.2.2).symm

lemma getScalar_eq {α : Type} (ret : α) {get : Scalar → Option α}
    {get' : JsonScalar → Option α} (hget : ∀ s, get' s.content = get s)
    (hbinary : ∀ data, get' (.binary data) = none) :
    W.getScalar w pos ret get = .ok ((contents v).scalarAt pos ret get') := by
  unfold World.getScalar Contents.scalarAt
  rw [h.read_eq htype, get_contents htype]
  cases childAt v pos with
  | none => rfl
  | some r =>
    obtain ⟨i, b, t⟩ := r
    obtain ⟨x, ts⟩ := t
    simp only [map_some, label_node, content]
    cases x.kind with
    | scalar s => simp [hget]
    | binary data => simp [hbinary]
    | dict => rfl
    | list buffer spare => rfl

lemma getString_eq :
    W.getString base w pos = .ok (CefString.fromString base ((contents v).scalarAt pos "" fun
      | .string value => some value
      | _ => none)) := by
  unfold World.getString
  rw [h.getScalar_eq htype ""]
  · rfl
  · intro s
    cases s <;> rfl
  · exact fun _ => rfl

end

lemma hasKey_eq (htype : v.label.kind.type = some .dictionary) (key : CefString) :
    W.hasKey base w key = .ok ((contents v).get (.key (key.toString base))).isSome := by
  have hpos : v.label.kind.type = some (containerType (.key (key.toString base))) := htype
  unfold World.hasKey
  rw [h.read_eq hpos, get_contents hpos, isSome_map, isSome_map]

lemma getKeys_eq (htype : v.label.kind.type = some .dictionary)
    (keys : List CefString) : W.getKeys base w keys =
      .ok (true, keys ++ (contents v).keys.map (CefString.fromString base)) := by
  unfold World.getKeys
  rw [h.verify_read, keys_contents h.sorted htype]
  simp only [bind, Except.bind, deref_of_find h.found htype, keysOf, List.map_map]
  rfl

lemma getSize_eq (htype : v.label.kind.type = some (W.wrapper w).type)
    (hbinary : (W.wrapper w).type ≠ .binary) : W.getSize w = .ok (contents v).size := by
  have hpos : ∃ pos, v.label.kind.type = some (containerType pos) := by
    cases hw : (W.wrapper w).type with
    | binary => exact (hbinary hw).elim
    | dictionary => exact ⟨.key "", by rw [htype, hw, containerType]⟩
    | list => exact ⟨.index 0, by rw [htype, hw, containerType]⟩
  obtain ⟨pos, hpos⟩ := hpos
  unfold World.getSize
  rw [h.verify_read, size_contents h.sorted hpos]
  simp only [bind, Except.bind, deref_of_find h.found htype]
  rfl

lemma getRef_eq (htype : v.label.kind.type = some (containerType pos))
    (type : ValueType) : ∃ r W', W.getRef w pos type = .ok (r, W') ∧
      W'.GivesRef c type ((contents v).get pos) r ∧
      W'.wrapper w = W.wrapper w ∧ W'.Held [] w c a v := by
  unfold World.getRef
  rw [h.verify_read, get_contents htype]
  simp only [bind, Except.bind, deref_of_find h.found htype]
  cases hchild : childAt v pos with
  | none => exact ⟨none, W, rfl, rfl, rfl, h⟩
  | some r =>
    obtain ⟨i, b, t⟩ := r
    obtain ⟨ht, rfl, -⟩ := childAt_eq_some hchild
    simp only [map_some, GivesRef, contentType_content, ← kind_type_iff]
    by_cases hkind : t.label.kind.type = some type
    · obtain ⟨r, W', hget, hattached, hvalues, hkept, h'⟩ :=
        h.getOrCreateRef ht type (type = .binary || (W.wrapper w).readOnly)
      have hself := h.ownership.wrapper_lt w (h.ownership.attached w c a h.attached).1
      simp only [if_pos hkind, hget]
      refine ⟨_, _, rfl, ⟨r, rfl, _, t, hattached, ?_, rfl⟩, hkept w hself, h'⟩
      rw [hvalues]
      exact h.found_child ht
    · simp only [if_neg hkind]
      exact ⟨none, W, rfl, rfl, rfl, h⟩

lemma getValue_eq (htype : v.label.kind.type = some (containerType pos)) :
    ∃ r W', W.getValue w pos = .ok (r, W') ∧
      W'.GivesObject c ((contents v).get pos) r ∧
      W'.wrapper w = W.wrapper w ∧ W'.Held [] w c a v := by
  unfold World.getValue
  rw [h.verify_read, get_contents htype]
  simp only [bind, Except.bind, deref_of_find h.found htype]
  cases hchild : childAt v pos with
  | none => exact ⟨none, W, rfl, rfl, rfl, h⟩
  | some r =>
    obtain ⟨i, b, t⟩ := r
    obtain ⟨ht, rfl, -⟩ := childAt_eq_some hchild
    have hself := h.ownership.wrapper_lt w (h.ownership.attached w c a h.attached).1
    cases hkind : t.label.kind.type with
    | some type =>
      obtain ⟨r, W', hget, hattached, hvalues, hkept, h'⟩ :=
        h.getOrCreateRef ht type (type = .binary || (W.wrapper w).readOnly)
      have hfind : findIn slot (slot v.label i t.label) forest 0 W'.values = some t := by
        rw [hvalues]
        exact h.found_child ht
      simp only [hkind, hget]
      exact ⟨_, _, rfl, ⟨_, rfl, holds_object ⟨_, t, hattached, hfind, rfl⟩⟩, hkept w hself,
        h'.setObjects _ _⟩
    | none =>
      obtain ⟨s, hs⟩ : ∃ s, t.label.kind = .scalar s := by
        cases hk : t.label.kind <;> simp_all [Kind.type]
      have hcontent : .scalar s.content = content t := by
        obtain ⟨x, ts⟩ := t
        rw [content, show x.kind = .scalar s from hs]
      simp only [hs]
      exact ⟨_, _, rfl, ⟨_, rfl, holds_scalar hcontent⟩, rfl, h.setObjects _ _⟩

end

end Held

/-! ### Methods that change the container -/

/-- A setter or `Remove` of the wrapper `w` has made `m'` of the container `m`, unless the wrapper is
read-only. -/
structure Updated (W W' : World) (w c : Nat) (m m' : Contents) : Prop where
  wrapper : W'.wrapper w = W.wrapper w
  unchanged : (W.wrapper w).readOnly = true → W' = W
  represents : W'.Represents w c (if (W.wrapper w).readOnly then m else m')

lemma verify_modify {held : List Nat} (h : (W.wrapper w).attachment = some (c, a)) (hheld : c ∉ held) :
    W.verify held w true = .ok (if (W.wrapper w).readOnly then none else some (c, a, c :: held)) := by
  rw [verify_of_attached h hheld, Bool.and_true]

namespace Represents

lemma readOnly (h : W.Represents w c m) (hro : (W.wrapper w).readOnly = true) (m' : Contents) :
    W.verify [] w true = .ok none ∧ Updated W W w c m m' := by
  obtain ⟨a, v, hheld, htype, hm⟩ := h
  rw [verify_modify hheld.attached not_mem_nil, if_pos hro]
  refine ⟨rfl, rfl, fun _ => rfl, ?_⟩
  rw [if_pos hro]
  exact ⟨a, v, hheld, htype, hm⟩

lemma writable (h : W.Represents w c m) (hpos : containerType pos = (W.wrapper w).type)
    (hro : (W.wrapper w).readOnly = false) : ∃ a v, W.Held [] w c a v ∧
      v.label.kind.type = some (containerType pos) ∧ contents v = m ∧
      W.verify [] w true = .ok (some (c, a, [c])) := by
  obtain ⟨a, v, hheld, htype, hm⟩ := h
  rw [verify_modify hheld.attached not_mem_nil, if_neg (by simp [hro])]
  exact ⟨a, v, hheld, by rw [htype, hpos], hm, rfl⟩

lemma updated {t : Value} {next : Nat} {W' : World} (hsorted : v.Everywhere KeysSorted)
    (htype : v.label.kind.type = some (containerType pos))
    (hpos : containerType pos = (W.wrapper w).type) (hro : (W.wrapper w).readOnly = false)
    (hwrapper : W'.wrapper w = W.wrapper w) (h' : W'.Held [] w c a (setChild v pos t next).1) :
    Updated W W' w c (contents v) ((contents v).set pos (content t)) := by
  refine ⟨hwrapper, fun htrue => by simp [hro] at htrue, ?_⟩
  rw [if_neg (by simp [hro])]
  refine ⟨a, _, h', ?_, contents_setChild hsorted htype⟩
  rw [type_setChild htype, hwrapper, htype, hpos]

theorem setScalar (h : W.Represents w c m) (hpos : containerType pos = (W.wrapper w).type)
    (s : Scalar) : ∃ W', W.setScalar w pos s = .ok (!(W.wrapper w).readOnly, W') ∧
      Updated W W' w c m (m.set pos (.scalar s.content)) := by
  unfold World.setScalar
  cases hro : (W.wrapper w).readOnly with
  | true =>
    obtain ⟨hverify, hupdated⟩ := h.readOnly hro (m.set pos (.scalar s.content))
    rw [hverify]
    exact ⟨W, rfl, hupdated⟩
  | false =>
    obtain ⟨a, v, hheld, htype, rfl, hverify⟩ := h.writable hpos hro
    obtain ⟨W', i, t, hset, -, hwrapper, h', -⟩ := (hheld.makeLeaf s).setInternal htype
    rw [hverify]
    simp only [bind, Except.bind, hset]
    exact ⟨W', rfl, updated hheld.sorted htype hpos hro hwrapper h'⟩

theorem setObject (h : W.Represents w c m) (hpos : containerType pos = (W.wrapper w).type)
    (hgiven : W.Given c arg u) : ∃ W', W.setObject w pos arg = .ok (!(W.wrapper w).readOnly, W') ∧
      Updated W W' w c m (m.set pos (content u)) := by
  unfold World.setObject
  cases hro : (W.wrapper w).readOnly with
  | true =>
    obtain ⟨hverify, hupdated⟩ := h.readOnly hro (m.set pos (content u))
    rw [hverify]
    exact ⟨W, rfl, hupdated⟩
  | false =>
    obtain ⟨a, v, hheld, htype, rfl, hverify⟩ := h.writable hpos hro
    obtain ⟨element, W₁, hcopy, hcontent, hwrapper₁, h₁, -⟩ := hheld.copyOrDetachValue hgiven
    obtain ⟨W', i, t, hset, -, hwrapper, h', -⟩ := h₁.setInternal htype
    rw [hverify, ← hcontent]
    simp only [bind, Except.bind, hcopy, hset]
    exact ⟨W', rfl, updated hheld.sorted htype hpos hro (hwrapper.trans hwrapper₁) h'⟩

lemma given_after {W₁ W₂ : World} (hgiven : W.Given c arg u) (h : W.Ownership [])
    (h₁ : W₁.wrapper arg = (W.wrapper arg).detach ∨
      W₁.wrapper arg = W.wrapper arg ∧ (W.wrapper arg).mode ≠ .ownerWillDelete)
    (h₂ : W₂.wrapper arg = W₁.wrapper arg ∨ W₂.wrapper arg = (W₁.wrapper arg).detach) :
    (W₂.wrapper arg).alive = true ∧ ∀ c' a', (W₂.wrapper arg).attachment = some (c', a') →
      c' ≠ c ∧ (W₂.wrapper arg).mode ≠ .ownerWillDelete := by
  obtain ⟨c', a', hattached, hne, -⟩ := hgiven
  have halive := (h.attached arg c' a' hattached).1
  rcases h₂ with h₂ | h₂ <;> rcases h₁ with h₁ | ⟨h₁, hmode⟩ <;> rw [h₂, h₁]
  · exact ⟨halive, fun _ _ hnone => by cases hnone⟩
  · refine ⟨halive, fun c'' a'' hattached' => ⟨?_, hmode⟩⟩
    obtain ⟨rfl, -⟩ := Prod.mk.inj (some.inj (hattached.symm.trans hattached'))
    exact hne
  · exact ⟨halive, fun _ _ hnone => by cases hnone⟩
  · exact ⟨halive, fun _ _ hnone => by cases hnone⟩

theorem setValue {o : Nat} (h : W.Represents w c m) (hpos : containerType pos = (W.wrapper w).type)
    (hobject : match W.object o with
      | .invalid => False
      | .scalar _ => True
      | .object arg => W.CanGive c arg) (last : Bool) :
    ∃ W', W.setValue w pos o last = .ok (!(W.wrapper w).readOnly, W') ∧
      Updated W W' w c m (m.set pos (W.objectContent o)) := by
  unfold World.setValue
  cases hro : (W.wrapper w).readOnly with
  | true =>
    obtain ⟨hverify, hupdated⟩ := h.readOnly hro (m.set pos (W.objectContent o))
    rw [hverify]
    exact ⟨W, rfl, hupdated⟩
  | false =>
    obtain ⟨a, v, hheld, htype, rfl, hverify⟩ := h.writable hpos hro
    rw [hverify]
    unfold objectContent
    cases ho : W.object o with
    | invalid =>
      rw [ho] at hobject
      exact hobject.elim
    | scalar s =>
      obtain ⟨W', i, t, hset, -, hwrapper, h', -⟩ := (hheld.makeLeaf s).setInternal htype
      simp only [bind, Except.bind, hset]
      exact ⟨W', rfl, updated hheld.sorted htype hpos hro hwrapper h'⟩
    | object arg =>
      rw [ho] at hobject
      obtain ⟨u, hgiven⟩ := hobject
      obtain ⟨element, W₁, hcopy, hcontent, hwrapper₁, h₁, harg₁⟩ :=
        hheld.copyOrDetachValue hgiven
      obtain ⟨W₂, i, t, hset, ht, hwrapper₂, h₂, harg₂⟩ := h₁.setInternal htype
      obtain ⟨halive, hother⟩ := given_after hgiven hheld.ownership harg₁ (harg₂ arg)
      obtain ⟨W', hswap, hwrapper, h'⟩ := h₂.swapValue ht (hheld.ne_of_given hgiven)
        (h₂.ownership.wrapper_lt arg halive) hother o last
      simp only [bind, Except.bind, hcopy, hset, hswap, wrapperContent_of_given hgiven, ← hcontent]
      exact ⟨W', rfl, updated hheld.sorted htype hpos hro
        (hwrapper.trans (hwrapper₂.trans hwrapper₁)) h'⟩

theorem removeAt (h : W.Represents w c m) (hpos : containerType pos = (W.wrapper w).type) :
    ∃ W', W.removeAt w pos = .ok (!(W.wrapper w).readOnly && (m.get pos).isSome, W') ∧
      Updated W W' w c m (m.remove pos) ∧ (m.get pos = none → W' = W) := by
  unfold World.removeAt
  cases hro : (W.wrapper w).readOnly with
  | true =>
    obtain ⟨hverify, hupdated⟩ := h.readOnly hro (m.remove pos)
    rw [hverify]
    exact ⟨W, rfl, hupdated, fun _ => rfl⟩
  | false =>
    obtain ⟨a, v, hheld, htype, rfl, hverify⟩ := h.writable hpos hro
    obtain ⟨habsent, hpresent⟩ := hheld.removeInternal htype
    rw [hverify, get_contents htype]
    simp only [bind, Except.bind]
    cases hchild : childAt v pos with
    | none =>
      have hget : (contents v).get pos = none := by
        rw [get_contents htype, hchild]
        rfl
      refine ⟨W, habsent hchild, ⟨rfl, fun _ => rfl, ?_⟩, fun _ => rfl⟩
      rw [Contents.remove_of_get_eq_none hget, ite_self]
      exact ⟨a, v, hheld, by rw [htype, hpos], rfl⟩
    | some r =>
      obtain ⟨i, b, t⟩ := r
      obtain ⟨W', hremove, hwrapper, h'⟩ := hpresent i b t hchild
      refine ⟨W', hremove, ⟨hwrapper, fun htrue => by simp [hro] at htrue, ?_⟩,
        fun hnone => by cases hnone⟩
      rw [if_neg (by simp [hro])]
      refine ⟨a, _, h', ?_, contents_eraseChild hheld.sorted htype (childAt_eq_some hchild).2.2⟩
      rw [type_eraseChild, hwrapper, htype, hpos]

end Represents

/-! ### Sequences of calls -/

/-- A call that has returned `r` and `W'`, as the map or sequence `m` says. -/
structure Performed (W : World) (w c : Nat) (m : Contents) (x : Access) (r : Answer) (W' : World) :
    Prop where
  performs : W.perform base storedDouble w x = .ok (r, W')
  answer : x.Returns base W' c (W.wrapper w).readOnly m r
  unchanged : r = .bool false → W' = W
  wrapper : W'.wrapper w = W.wrapper w
  represents : W'.Represents w c (x.after base storedDouble W (W.wrapper w).readOnly m)

namespace Represents

variable {base storedDouble} {x : Access} {r : Answer} {place : Place}

lemma held (h : W.Represents w c m) (hfits : Access.Fits base W w place) : ∃ a v, W.Held [] w c a v ∧
    v.label.kind.type = some (containerType (place.position base)) ∧ contents v = m := by
  obtain ⟨a, v, hheld, htype, hm⟩ := h
  refine ⟨a, v, hheld, ?_, hm⟩
  rw [htype, hfits]

lemma perform_eq {α : Type} {result : Except Fault (α × World)} {f : α → Answer} {y : α} {W' : World}
    (hresult : result = .ok (y, W'))
    (hperform : W.perform base storedDouble w x = result.map fun r => (f r.1, r.2)) :
    W.perform base storedDouble w x = .ok (f y, W') := by
  rw [hperform, hresult]
  rfl

lemma reads {α : Type} {result : Except Fault α} {f : α → Answer} {y : α} (h : W.Represents w c m)
    (hresult : result = .ok y)
    (hperform : W.perform base storedDouble w x = result.map fun r => (f r, W))
    (hanswer : x.Returns base W c (W.wrapper w).readOnly m (f y))
    (hafter : x.after base storedDouble W (W.wrapper w).readOnly m = m) :
    Performed base storedDouble W w c m x (f y) W := by
  subst hresult
  refine ⟨hperform, hanswer, fun _ => rfl, rfl, ?_⟩
  rw [hafter]
  exact h

lemma sets {W' : World} {y : JsonValue} {result : Except Fault (Bool × World)}
    (hresult : result = .ok (!(W.wrapper w).readOnly, W') ∧ Updated W W' w c m (m.set pos y))
    (hperform : W.perform base storedDouble w x = result.map fun r => (.bool r.1, r.2))
    (hanswer : x.Returns base W' c (W.wrapper w).readOnly m (.bool !(W.wrapper w).readOnly))
    (hafter : x.after base storedDouble W (W.wrapper w).readOnly m =
      if (W.wrapper w).readOnly then m else m.set pos y) :
    Performed base storedDouble W w c m x (.bool !(W.wrapper w).readOnly) W' := by
  obtain ⟨hresult, hupdated⟩ := hresult
  refine ⟨perform_eq hresult hperform, hanswer, fun hfalse => hupdated.unchanged ?_, hupdated.wrapper, ?_⟩
  · simpa using hfalse
  · rw [hafter]
    exact hupdated.represents

/-- **A call does what the map or sequence says.** -/
theorem perform (h : W.Represents w c m) (x : Access) (hx : x.Admissible base W w c) :
    ∃ r W', Performed base storedDouble W w c m x r W' := by
  cases x with
  | getType place =>
    obtain ⟨a, v, hheld, htype, rfl⟩ := h.held hx
    exact ⟨_, W, h.reads (hheld.getType_eq htype) rfl rfl (ite_self _)⟩
  | getBool place =>
    obtain ⟨a, v, hheld, htype, rfl⟩ := h.held hx
    refine ⟨_, W, h.reads (hheld.getScalar_eq htype false ?_ ?_) rfl rfl (ite_self _)⟩
    · intro s
      cases s <;> rfl
    · exact fun _ => rfl
  | getInt place =>
    obtain ⟨a, v, hheld, htype, rfl⟩ := h.held hx
    refine ⟨_, W, h.reads (hheld.getScalar_eq htype 0 ?_ ?_) rfl rfl (ite_self _)⟩
    · intro s
      cases s <;> rfl
    · exact fun _ => rfl
  | getDouble place =>
    obtain ⟨a, v, hheld, htype, rfl⟩ := h.held hx
    refine ⟨_, W, h.reads (hheld.getScalar_eq htype 0 ?_ ?_) rfl rfl (ite_self _)⟩
    · intro s
      cases s <;> rfl
    · exact fun _ => rfl
  | getString place =>
    obtain ⟨a, v, hheld, htype, rfl⟩ := h.held hx
    exact ⟨_, W, h.reads (hheld.getString_eq base htype) rfl rfl (ite_self _)⟩
  | getRef place type =>
    obtain ⟨a, v, hheld, htype, rfl⟩ := h.held hx
    obtain ⟨r, W', hget, hr, hwrapper, h'⟩ := hheld.getRef_eq htype type
    refine ⟨.wrapper r, W', perform_eq hget rfl, ⟨r, rfl, hr⟩, (fun hfalse => by cases hfalse),
      hwrapper, a, v, h', ?_, (ite_self _).symm⟩
    rw [htype, hwrapper, hx]
  | getValue place =>
    obtain ⟨a, v, hheld, htype, rfl⟩ := h.held hx
    obtain ⟨r, W', hget, hr, hwrapper, h'⟩ := hheld.getValue_eq htype
    refine ⟨.object r, W', perform_eq hget rfl, ⟨r, rfl, hr⟩, (fun hfalse => by cases hfalse),
      hwrapper, a, v, h', ?_, (ite_self _).symm⟩
    rw [htype, hwrapper, hx]
  | hasKey key =>
    obtain ⟨a, v, hheld, htype, rfl⟩ := id h
    rw [show (W.wrapper w).type = .dictionary from hx] at htype
    exact ⟨_, W, h.reads (hheld.hasKey_eq base htype key) rfl rfl (ite_self _)⟩
  | getKeys keys =>
    obtain ⟨a, v, hheld, htype, rfl⟩ := id h
    rw [show (W.wrapper w).type = .dictionary from hx] at htype
    exact ⟨_, W, h.reads (hheld.getKeys_eq base htype keys) rfl rfl (ite_self _)⟩
  | getSize =>
    obtain ⟨a, v, hheld, htype, rfl⟩ := id h
    exact ⟨_, W, h.reads (hheld.getSize_eq htype hx) rfl rfl (ite_self _)⟩
  | setNull place =>
    obtain ⟨W', hset⟩ := h.setScalar hx .null
    exact ⟨_, W', sets hset rfl rfl rfl⟩
  | setBool place value =>
    obtain ⟨W', hset⟩ := h.setScalar hx (.bool value)
    exact ⟨_, W', sets hset rfl rfl rfl⟩
  | setInt place value =>
    obtain ⟨W', hset⟩ := h.setScalar hx (.int value)
    exact ⟨_, W', sets hset rfl rfl rfl⟩
  | setDouble place bits =>
    obtain ⟨W', hset⟩ := h.setScalar hx (.double (storedDouble bits))
    exact ⟨_, W', sets hset rfl rfl rfl⟩
  | setString place value =>
    obtain ⟨W', hset⟩ := h.setScalar hx (.string (value.toString base))
    exact ⟨_, W', sets hset rfl rfl rfl⟩
  | setObject place arg =>
    obtain ⟨hfits, u, hgiven⟩ := hx
    obtain ⟨W', hset⟩ := h.setObject hfits hgiven
    rw [← wrapperContent_of_given hgiven] at hset
    exact ⟨_, W', sets hset rfl rfl rfl⟩
  | setValue place o last =>
    obtain ⟨W', hset⟩ := h.setValue hx.1 hx.2 last
    exact ⟨_, W', sets hset rfl rfl rfl⟩
  | remove place =>
    obtain ⟨W', hremove, hupdated, hunchanged⟩ := h.removeAt hx
    refine ⟨_, W', perform_eq hremove rfl, rfl, fun hfalse => ?_, hupdated.wrapper,
      hupdated.represents⟩
    rcases Bool.and_eq_false_iff.mp (Answer.bool.inj hfalse) with hro | habsent
    · exact hupdated.unchanged (by simpa using hro)
    · exact hunchanged (by simpa using habsent)

theorem behaves (xs : List Access) : ∀ (W : World) (m : Contents), W.Represents w c m →
    Behaves base storedDouble w c W m xs := by
  induction xs with
  | nil => exact fun _ _ _ => trivial
  | cons x xs ih =>
    intro W m h hx
    obtain ⟨r, W', hperformed⟩ : ∃ r W', Performed base storedDouble W w c m x r W' :=
      h.perform x hx
    exact ⟨r, W', hperformed.performs, hperformed.answer, hperformed.unchanged,
      ih W' _ hperformed.represents⟩

end Represents

/-- **Dictionaries and lists behave as maps and padded sequences.** After any run that transfers bare
values, every sequence of calls on an attached wrapper returns and does what the map or sequence says
that its container is. -/
theorem containers_behave {ops : List Op}
    (halong : Transition.Along call TransfersBare World.new ops)
    (hrun : ops.foldlM call World.new = some W) (hattached : (W.wrapper w).attachment = some (c, a))
    (hderef : W.deref a (W.wrapper w).type = .ok v) (xs : List Access) :
    Behaves base storedDouble w c W (contents v) xs := by
  obtain ⟨hownership, hcoherent, harranged⟩ := arranged_of_along halong hrun
  obtain ⟨hfind, htype⟩ := deref_eq_ok hderef
  exact Represents.behaves xs W _
    ⟨a, v, ⟨hownership, hcoherent, harranged, hattached, hfind⟩, htype, rfl⟩

/-- An empty list, an empty dictionary, and a `CefValueImpl` that holds a number. -/
def listAndDictionary : List Op :=
  [.create .list [], .create .dictionary [], .newObject (.scalar (.int 7))]

/-- The list is filled up, gets the dictionary and loses its first element. -/
def paddedCalls : List Access :=
  [.setObject (.index 1) 1, .getType (.index 0), .getSize, .remove (.index 0), .getType (.index 0),
    .remove (.index 1), .setValue (.index 0) 0 true, .getInt (.index 0)]

theorem containers_behave_padded : ∃ W, listAndDictionary.foldlM call World.new = some W ∧
    Behaves .standard id 0 0 W (.seq []) paddedCalls ∧
    answers .standard id 0 W paddedCalls = .ok [.bool true, .type .null, .size 2, .bool true,
      .type .dictionary, .bool false, .bool true, .int 7] := by
  have hrun : listAndDictionary.foldlM call World.new = some (((World.new.create .list []).create
      .dictionary []).newObject (.scalar (.int 7))) := rfl
  have halong : Transition.Along call TransfersBare World.new listAndDictionary := by decide +kernel
  have hempty : contents (leaf 0 (.list 1 0)) = .seq [] := rfl
  refine ⟨_, hrun, ?_, by decide +kernel⟩
  rw [← hempty]
  exact containers_behave .standard id halong hrun rfl rfl paddedCalls

/-- **Different keys with unpaired surrogates are the same key.** -/
theorem surrogates_collide : ∃ k k' : CefString, k ≠ k' ∧
    answers .standard id 0 (World.new.create .dictionary [])
      [.setInt (.key k) 1, .setInt (.key k') 2, .getInt (.key k)] =
        .ok [.bool true, .bool true, .int 2] :=
  ⟨[0xD800], [0xD801], by decide, by decide +kernel⟩

end World

end CefCore.Values
