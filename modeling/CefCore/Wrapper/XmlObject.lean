import Mathlib.Data.List.AList
import Mathlib.Logic.Function.Basic

/-!
# XML objects

`CefXmlObject` of `libcef_dll/wrapper/cef_xml_object.cc`: an element of a document in memory, with a
name, a value, attributes, and child objects. Parents and children point to each other. Each object
has a lock of its own, which the methods hold while they run.

## Main definitions

* `XmlObject`, `Heap`: objects and the memory they are in.

## Implementation notes

* The locks are those of POSIX, or of a build with `DCHECK`, which a thread cannot lock twice; those of
  a release build for Windows it can.
* A method is given the locks that its caller holds. What it locks itself is released at the end of
  the scope, so that the caller goes on with its own list. One thread is modelled.
* `DCHECK` is left out, and so are objects that are destroyed.
* `append` and `duplicate` call each other once for each level of a tree; `fuel` bounds the levels.
-/

namespace CefCore.Wrapper

open List AList

/-- `CefXmlObject::AttributeMap`, without the order of the names, which nothing depends on. -/
structure AttributeMap where
  toAList : AList fun _ : String => String
  empty_notMem : "" ∉ toAList

namespace AttributeMap

def empty : AttributeMap := ⟨∅, notMem_empty _⟩

def lookup (m : AttributeMap) (name : String) : Option String := m.toAList.lookup name

def insert (m : AttributeMap) (name value : String) (h : name ≠ "") : AttributeMap where
  toAList := m.toAList.insert name value
  empty_notMem hmem := by
    rcases mem_insert _ |>.mp hmem with heq | hmem
    · exact h heq.symm
    · exact m.empty_notMem hmem

def entries (m : AttributeMap) : List (String × String) :=
  m.toAList.entries.map fun e => (e.1, e.2)

def put (m : AttributeMap) (name value : String) : AttributeMap :=
  if h : name = "" then m else m.insert name value h

/-- Attributes are put into a map. Those that it has already are put if `overwrite` is set. -/
def merge (overwrite : Bool) : AttributeMap → List (String × String) → AttributeMap
  | m, [] => m
  | m, (name, value) :: attributes =>
    if overwrite = false ∧ (m.lookup name).isSome then merge overwrite m attributes
    else merge overwrite (m.put name value) attributes

@[simp] lemma lookup_empty (name : String) : empty.lookup name = none := AList.lookup_empty _

section

variable (m : AttributeMap)

@[simp] lemma lookup_insert {name : String} (value : String) (h : name ≠ "") (name' : String) :
    (m.insert name value h).lookup name' = if name' = name then some value else m.lookup name' := by
  unfold lookup insert
  split
  · rename_i heq
    rw [heq]
    exact AList.lookup_insert _
  · rename_i hne
    exact lookup_insert_ne hne

@[simp] lemma lookup_empty_name : m.lookup "" = none :=
  lookup_eq_none.mpr m.empty_notMem

lemma lookup_put {name : String} (value : String) (h : name ≠ "") (name' : String) :
    (m.put name value).lookup name' = if name' = name then some value else m.lookup name' := by
  rw [put, dif_neg h, lookup_insert]

lemma lookup_entries (name : String) : m.entries.lookup name = m.lookup name := by
  unfold entries lookup AList.lookup
  induction m.toAList.entries with
  | nil => rfl
  | cons e l ih =>
    rw [map_cons, lookup_cons, ih]
    by_cases he : e.1 = name
    · subst he
      rw [beq_self_eq_true, dlookup_cons_eq]
    · rw [beq_eq_false_iff_ne.mpr (Ne.symm he), dlookup_cons_ne _ _ (Ne.symm he)]

lemma entries_names : (m.entries.map Prod.fst).Nodup ∧ "" ∉ m.entries.map Prod.fst := by
  have hkeys : m.entries.map Prod.fst = m.toAList.keys := by
    rw [entries, map_map]
    rfl
  rw [hkeys]
  exact ⟨m.toAList.keys_nodup, m.empty_notMem⟩

end

lemma lookup_merge (overwrite : Bool) (name : String) :
    ∀ (attributes : List (String × String)) (m : AttributeMap),
      (attributes.map Prod.fst).Nodup → "" ∉ attributes.map Prod.fst →
      (merge overwrite m attributes).lookup name =
        if overwrite then (attributes.lookup name).or (m.lookup name)
        else (m.lookup name).or (attributes.lookup name)
  | [], m, _, _ => by cases overwrite <;> simp [merge]
  | (key, value) :: attributes, m, hnodup, hempty => by
    rw [map_cons, nodup_cons] at hnodup
    rw [map_cons, mem_cons, not_or] at hempty
    have hput := lookup_put m value (Ne.symm hempty.1) name
    have hrest := fun m' => lookup_merge overwrite name attributes m' hnodup.2 hempty.2
    have hkey : attributes.lookup key = none := by
      rw [lookup_eq_none_iff]
      intro p hp
      rw [bne_iff_ne]
      rintro rfl
      exact hnodup.1 (mem_map.mpr ⟨p, hp, rfl⟩)
    rw [merge, lookup_cons]
    by_cases hname : name = key
    · subst hname
      cases overwrite <;> cases hm : m.lookup name <;> simp [hrest, hput, hkey, hm]
    · rw [beq_eq_false_iff_ne.mpr hname]
      rw [if_neg hname] at hput
      split <;> simp [hrest, hput]

end AttributeMap

/-- `CefXmlObject`. -/
structure XmlObject where
  name : String
  parent : Option Nat := none
  value : String := ""
  attributes : AttributeMap := .empty
  children : List Nat := []

/-- The objects by address, and the next free address. -/
structure Heap where
  object : Nat → XmlObject
  next : Nat

namespace Heap

def modify (h : Heap) (i : Nat) (f : XmlObject → XmlObject) : Heap :=
  { h with object := Function.update h.object i (f (h.object i)) }

/-- `new`. -/
def alloc (h : Heap) (o : XmlObject) : Nat × Heap :=
  (h.next, { object := Function.update h.object h.next o, next := h.next + 1 })

def orphan (h : Heap) (l : List Nat) : Heap :=
  l.foldl (fun h i => h.modify i fun o => { o with parent := none }) h

lemma object_modify (h : Heap) (i j : Nat) (f : XmlObject → XmlObject) :
    (h.modify i f).object j = if j = i then f (h.object i) else h.object j :=
  Function.update_apply ..

@[simp] lemma object_modify_self (h : Heap) (i : Nat) (f : XmlObject → XmlObject) :
    (h.modify i f).object i = f (h.object i) := Function.update_self ..

lemma object_modify_of_ne {h : Heap} {i j : Nat} (hne : j ≠ i) (f : XmlObject → XmlObject) :
    (h.modify i f).object j = h.object j := Function.update_of_ne hne ..

lemma get_modify {β : Type} (get : XmlObject → β) {f : XmlObject → XmlObject}
    (hf : ∀ o, get (f o) = get o) (h : Heap) (i j : Nat) :
    get ((h.modify i f).object j) = get (h.object j) := by
  rw [object_modify]
  split
  · rename_i hj
    rw [hf, hj]
  · rfl

lemma object_orphan (j : Nat) : ∀ (l : List Nat) (h : Heap), (h.orphan l).object j =
    if j ∈ l then { h.object j with parent := none } else h.object j
  | [], h => by simp [orphan]
  | i :: l, h => by
    have ih := object_orphan j l (h.modify i fun o => { o with parent := none })
    rw [show h.orphan (i :: l) = (h.modify i fun o => { o with parent := none }).orphan l from rfl,
      ih, object_modify]
    by_cases hi : j = i
    · subst hi
      simp
    · simp [hi]

@[simp] lemma next_orphan : ∀ (l : List Nat) (h : Heap), (h.orphan l).next = h.next
  | [], _ => rfl
  | i :: l, h => next_orphan l (h.modify i fun o => { o with parent := none })

end Heap

/-! ### Methods -/

/-- Why a method does not come back: it waits for a lock that its own thread holds, or the levels of
a tree were more than allowed for. -/
inductive Stop where
  | deadlock
  | outOfFuel

/-- `base::AutoLock` in a thread that holds some locks. -/
def lock (held : List Nat) (i : Nat) : Except Stop (List Nat) :=
  if i ∈ held then .error .deadlock else .ok (i :: held)

section Methods

variable (held : List Nat) (h : Heap) (this : Nat)

def getName : Except Stop String := do
  let _ ← lock held this
  pure (h.object this).name

def getParent : Except Stop (Option Nat) := do
  let _ ← lock held this
  pure (h.object this).parent

def setParent (parent : Option Nat) : Except Stop Heap := do
  let _ ← lock held this
  pure (h.modify this fun o => { o with parent := parent })

def setValue (value : String) : Except Stop (Bool × Heap) := do
  let _ ← lock held this
  if !(h.object this).children.isEmpty then pure (false, h)
  else pure (true, h.modify this fun o => { o with value := value })

def hasAttributes : Except Stop Bool := do
  let _ ← lock held this
  pure !(h.object this).attributes.entries.isEmpty

def hasAttribute (name : String) : Except Stop Bool :=
  if name = "" then pure false
  else do
    let _ ← lock held this
    pure ((h.object this).attributes.lookup name).isSome

def setAttributeValue (name value : String) : Except Stop (Bool × Heap) :=
  if hname : name = "" then pure (false, h)
  else do
    let _ ← lock held this
    pure (true, h.modify this fun o =>
      { o with attributes := o.attributes.insert name value hname })

def getAttributes : Except Stop AttributeMap := do
  let _ ← lock held this
  pure (h.object this).attributes

def clearAttributes : Except Stop Heap := do
  let _ ← lock held this
  pure (h.modify this fun o => { o with attributes := .empty })

def hasChildren : Except Stop Bool := do
  let _ ← lock held this
  pure !(h.object this).children.isEmpty

def getChildren : Except Stop (List Nat) := do
  let _ ← lock held this
  pure (h.object this).children

def addChild (child : Nat) : Except Stop (Bool × Heap) := do
  let parent ← getParent held h child
  if parent.isSome then pure (false, h)
  else do
    let held ← lock held this
    let h ← setParent held (h.modify this fun o => { o with children := o.children ++ [child] })
      child (some this)
    pure (true, h)

def removeChild (child : Nat) : Except Stop (Bool × Heap) := do
  let held ← lock held this
  if child ∈ (h.object this).children then do
    let h ← setParent held (h.modify this fun o => { o with children := o.children.erase child })
      child none
    pure (true, h)
  else pure (false, h)

/-- The loop of `ClearChildren`. -/
def clearChildrenLoop (held : List Nat) : Heap → List Nat → Except Stop Heap
  | h, [] => pure h
  | h, child :: children => do
    let h ← setParent held h child none
    clearChildrenLoop held h children

def clearChildren : Except Stop Heap := do
  let held ← lock held this
  let h ← clearChildrenLoop held h (h.object this).children
  pure (h.modify this fun o => { o with children := [] })

def clear : Except Stop Heap := do
  let h ← clearChildren held h this
  clearAttributes held h this

/-- The condition in the second loop of `Append`. -/
def overwrites (overwriteAttributes : Bool) (key : String) : Except Stop Bool :=
  if overwriteAttributes then pure true
  else do
    let has ← hasAttribute held h this key
    pure !has

/-- The second loop of `Append`, over the attributes. -/
def appendAttributesLoop (held : List Nat) (this : Nat) (overwriteAttributes : Bool) :
    Heap → List (String × String) → Except Stop Heap
  | h, [] => pure h
  | h, (key, value) :: attributes => do
    let puts ← overwrites held h this overwriteAttributes key
    if puts then do
      let (_, h) ← setAttributeValue held h this key value
      appendAttributesLoop held this overwriteAttributes h attributes
    else appendAttributesLoop held this overwriteAttributes h attributes

/-- The second half of `Append`. -/
def appendAttributes (object : Nat) (overwriteAttributes : Bool) : Except Stop Heap := do
  let attributed ← hasAttributes held h object
  if attributed then do
    let attributes ← getAttributes held h object
    appendAttributesLoop held this overwriteAttributes h attributes.entries
  else pure h

/-- The first loop of `Append`, over the children, with the function that duplicates one. -/
def appendChildrenLoop (copy : Heap → Nat → Except Stop (Nat × Heap)) (held : List Nat)
    (this : Nat) : Heap → List Nat → Except Stop Heap
  | h, [] => pure h
  | h, child :: children => do
    let (new, h) ← copy h child
    let (_, h) ← addChild held h this new
    appendChildrenLoop copy held this h children

/-- The first half of `Append`, with the function that duplicates a child. -/
def appendChildren (copy : Heap → Nat → Except Stop (Nat × Heap)) (object : Nat) :
    Except Stop Heap := do
  let parental ← hasChildren held h object
  if parental then do
    let children ← getChildren held h object
    appendChildrenLoop copy held this h children
  else pure h

end Methods

mutual

def append (fuel : Nat) (held : List Nat) (h : Heap) (this object : Nat)
    (overwriteAttributes : Bool) : Except Stop Heap :=
  match fuel with
  | 0 => .error .outOfFuel
  | fuel + 1 => do
    let h ← appendChildren held h this (duplicate fuel held) object
    appendAttributes held h this object overwriteAttributes

def duplicate (fuel : Nat) (held : List Nat) (h : Heap) (this : Nat) : Except Stop (Nat × Heap) :=
  match fuel with
  | 0 => .error .outOfFuel
  | fuel + 1 => do
    let held ← lock held this
    let (copy, h) := h.alloc { name := (h.object this).name }
    let h ← append fuel held h copy this true
    pure (copy, h)

end

def set (fuel : Nat) (held : List Nat) (h : Heap) (this object : Nat) : Except Stop Heap := do
  let h ← clear held h this
  let name ← getName held h object
  let h := h.modify this fun o => { o with name := name }
  append fuel held h this object true

/-! ### What the methods do -/

@[simp] lemma lock_nil (i : Nat) : lock [] i = .ok [i] := by simp [lock]

lemma lock_singleton (i j : Nat) :
    lock [i] j = if j = i then .error .deadlock else .ok [j, i] := by simp [lock]

section Methods

variable (h : Heap) (this : Nat)

@[simp] lemma getName_nil : getName [] h this = .ok (h.object this).name := by
  rw [getName, lock_nil]
  rfl

@[simp] lemma hasChildren_nil : hasChildren [] h this = .ok !(h.object this).children.isEmpty := by
  rw [hasChildren, lock_nil]
  rfl

lemma setValue_eq (value : String) : setValue [] h this value =
    if (h.object this).children = [] then
      .ok (true, h.modify this fun o => { o with value := value })
    else .ok (false, h) := by
  rw [setValue, lock_nil]
  cases (h.object this).children <;> rfl

lemma setAttributeValue_eq (name value : String) : setAttributeValue [] h this name value =
    .ok (decide (name ≠ ""), h.modify this fun o =>
      { o with attributes := o.attributes.put name value }) := by
  by_cases hname : name = ""
  · subst hname
    rw [setAttributeValue, dif_pos rfl, Heap.modify]
    simp [AttributeMap.put, pure, Except.pure]
  · rw [setAttributeValue, dif_neg hname, lock_nil]
    simp [AttributeMap.put, hname, bind, Except.bind, pure, Except.pure]

lemma addChild_eq (child : Nat) : addChild [] h this child =
    if (h.object child).parent.isSome then .ok (false, h)
    else if child = this then .error .deadlock
    else .ok (true, (h.modify this fun o => { o with children := o.children ++ [child] }).modify child
      fun o => { o with parent := some this }) := by
  rw [addChild, getParent, lock_nil]
  show (if (h.object child).parent.isSome then _ else (lock [] this >>= _)) = _
  split
  · rfl
  · rw [lock_nil]
    show (setParent [this] _ child (some this) >>= _) = _
    rw [setParent, lock_singleton]
    split <;> rfl

lemma removeChild_eq (child : Nat) : removeChild [] h this child =
    if child ∈ (h.object this).children then
      if child = this then .error .deadlock
      else .ok (true, (h.modify this fun o => { o with children := o.children.erase child }).modify
        child fun o => { o with parent := none })
    else .ok (false, h) := by
  rw [removeChild, lock_nil]
  show (if child ∈ (h.object this).children then (setParent [this] _ child none >>= _) else _) = _
  split
  · rw [setParent, lock_singleton]
    split <;> rfl
  · rfl

lemma clearChildrenLoop_eq : ∀ (children : List Nat) (h : Heap),
    clearChildrenLoop [this] h children =
      if this ∈ children then .error .deadlock else .ok (h.orphan children)
  | [], _ => rfl
  | child :: children, h => by
    rw [clearChildrenLoop, setParent, lock_singleton]
    by_cases hchild : child = this
    · rw [if_pos hchild, if_pos (hchild ▸ mem_cons_self)]
      rfl
    · rw [if_neg hchild]
      show clearChildrenLoop [this] (h.modify child fun o => { o with parent := none }) children = _
      rw [clearChildrenLoop_eq children]
      simp only [mem_cons, Ne.symm hchild, false_or]
      rfl

lemma clearChildren_eq : clearChildren [] h this =
    if this ∈ (h.object this).children then .error .deadlock
    else .ok ((h.orphan (h.object this).children).modify this fun o =>
      { o with children := [] }) := by
  rw [clearChildren, lock_nil]
  show (clearChildrenLoop [this] h (h.object this).children >>= _) = _
  rw [clearChildrenLoop_eq]
  split <;> rfl

/-- The heap behind `Clear`. -/
def cleared : Heap :=
  ((h.orphan (h.object this).children).modify this fun o => { o with children := [] }).modify this
    fun o => { o with attributes := .empty }

lemma clear_eq : clear [] h this =
    if this ∈ (h.object this).children then .error .deadlock else .ok (cleared h this) := by
  rw [clear, clearChildren_eq]
  split
  · rfl
  · show clearAttributes [] _ this = _
    rw [clearAttributes, lock_nil]
    rfl

lemma object_cleared (hself : this ∉ (h.object this).children) (j : Nat) :
    (cleared h this).object j =
      if j = this then { h.object this with children := [], attributes := .empty }
      else if j ∈ (h.object this).children then { h.object j with parent := none }
      else h.object j := by
  unfold cleared
  rw [Heap.object_modify, Heap.object_modify_self, Heap.object_modify, Heap.object_orphan,
    Heap.object_orphan, if_neg hself]
  by_cases hj : j = this
  · simp [hj]
  · simp [hj]

@[simp] lemma next_cleared : (cleared h this).next = h.next := Heap.next_orphan ..

/-! ### Copies -/

lemma appendAttributesLoop_eq (overwriteAttributes : Bool) :
    ∀ (attributes : List (String × String)) (h : Heap),
      appendAttributesLoop [] this overwriteAttributes h attributes = .ok (h.modify this fun o =>
        { o with attributes := o.attributes.merge overwriteAttributes attributes })
  | [], h => by
    show Except.ok h = .ok _
    rw [Heap.modify]
    simp [AttributeMap.merge]
  | (key, value) :: attributes, h => by
    have hputs : overwrites [] h this overwriteAttributes key =
        .ok (overwriteAttributes || !((h.object this).attributes.lookup key).isSome) := by
      unfold overwrites hasAttribute
      cases overwriteAttributes with
      | true => rfl
      | false =>
        rw [lock_nil]
        by_cases hkey : key = ""
        · subst hkey
          rw [if_pos rfl, AttributeMap.lookup_empty_name]
          rfl
        · rw [if_neg hkey]
          rfl
    rw [appendAttributesLoop, hputs]
    show (if (overwriteAttributes || !((h.object this).attributes.lookup key).isSome) = true then
        setAttributeValue [] h this key value >>= _
      else appendAttributesLoop [] this overwriteAttributes h attributes) = _
    split
    · rename_i hputs
      rw [setAttributeValue_eq]
      show appendAttributesLoop [] this overwriteAttributes (h.modify this _) attributes = _
      rw [appendAttributesLoop_eq overwriteAttributes attributes]
      have hmerge : ¬ (overwriteAttributes = false ∧
          ((h.object this).attributes.lookup key).isSome = true) := by
        rintro ⟨rfl, hsome⟩
        simp [hsome] at hputs
      simp [Heap.modify, AttributeMap.merge, if_neg hmerge]
    · rename_i hkept
      rw [appendAttributesLoop_eq overwriteAttributes attributes]
      have hmerge : overwriteAttributes = false ∧
          ((h.object this).attributes.lookup key).isSome = true := by
        simpa [Option.isSome_iff_ne_none] using hkept
      simp [Heap.modify, AttributeMap.merge, if_pos hmerge]

lemma appendAttributes_eq (object : Nat) (overwriteAttributes : Bool) :
    appendAttributes [] h this object overwriteAttributes = .ok (h.modify this fun o =>
      { o with attributes :=
        o.attributes.merge overwriteAttributes (h.object object).attributes.entries }) := by
  rw [appendAttributes, hasAttributes, lock_nil]
  show (if (!(h.object object).attributes.entries.isEmpty) = true then
    getAttributes [] h object >>= _ else .ok h) = _
  split
  · rw [getAttributes, lock_nil]
    exact appendAttributesLoop_eq this overwriteAttributes _ h
  · rename_i hnone
    rw [Bool.not_eq_true, Bool.not_eq_false', List.isEmpty_iff] at hnone
    rw [hnone]
    exact appendAttributesLoop_eq this overwriteAttributes [] h

end Methods

lemma duplicate_eq (fuel : Nat) (held : List Nat) (h : Heap) (this : Nat) :
    duplicate (fuel + 2) held h this = .error .deadlock := by
  rw [duplicate]
  unfold lock
  split
  · rfl
  · show (append (fuel + 1) (this :: held) _ h.next this true >>= _) = _
    rw [append, appendChildren, hasChildren, lock, if_pos mem_cons_self]
    rfl

lemma duplicate_ne_ok : ∀ (fuel : Nat) (held : List Nat) (h : Heap) (this : Nat)
    (result : Nat × Heap), duplicate fuel held h this ≠ .ok result
  | 0, _, _, _, _ => by simp [duplicate]
  | 1, held, h, this, result => by
    rw [duplicate]
    simp only [append]
    cases lock held this <;> exact nofun
  | fuel + 2, held, h, this, result => by
    rw [duplicate_eq]
    exact nofun

variable {h : Heap} {object this : Nat}

lemma append_of_nil (fuel : Nat) (hnil : (h.object object).children = [])
    (this : Nat) (overwriteAttributes : Bool) :
    append (fuel + 1) [] h this object overwriteAttributes = .ok (h.modify this fun o =>
      { o with attributes :=
        o.attributes.merge overwriteAttributes (h.object object).attributes.entries }) := by
  rw [append, appendChildren, hasChildren_nil, hnil]
  exact appendAttributes_eq h this object overwriteAttributes

lemma append_of_cons (fuel : Nat) {child : Nat} {children : List Nat}
    (hcons : (h.object object).children = child :: children) (this : Nat)
    (overwriteAttributes : Bool) : ∃ next : Nat × Heap → Except Stop Heap,
      append (fuel + 1) [] h this object overwriteAttributes = duplicate fuel [] h child >>= next := by
  have hget : getChildren [] h object = .ok (child :: children) := by
    rw [getChildren, lock_nil, ← hcons]
    rfl
  refine ⟨fun copy => addChild [] copy.2 this copy.1 >>= fun added =>
    appendChildrenLoop (duplicate fuel []) [] this added.2 children >>= fun h =>
      appendAttributes [] h this object overwriteAttributes, ?_⟩
  rw [append, appendChildren, hasChildren_nil, hcons]
  rw [hget]
  show (appendChildrenLoop (duplicate fuel []) [] this h (child :: children) >>= _) = _
  rw [appendChildrenLoop]
  cases duplicate fuel [] h child with
  | error stop => rfl
  | ok copy =>
    show ((addChild [] copy.2 this copy.1 >>= _) >>= _) = (addChild [] copy.2 this copy.1 >>= _)
    cases addChild [] copy.2 this copy.1 with
    | error stop => rfl
    | ok added => rfl

lemma append_ne_ok (fuel : Nat) (hne : (h.object object).children ≠ [])
    (this : Nat) (overwriteAttributes : Bool) (result : Heap) :
    append fuel [] h this object overwriteAttributes ≠ .ok result := by
  obtain ⟨child, children, hcons⟩ := exists_cons_of_ne_nil hne
  cases fuel with
  | zero =>
    rw [append]
    exact nofun
  | succ fuel =>
    obtain ⟨next, hnext⟩ := append_of_cons fuel hcons this overwriteAttributes
    rw [hnext]
    cases hcopy : duplicate fuel [] h child with
    | error stop => exact nofun
    | ok copy => exact absurd hcopy (duplicate_ne_ok fuel [] h child copy)

lemma append_eq (fuel : Nat) (h : Heap) (this object : Nat) (overwriteAttributes : Bool) :
    append (fuel + 3) [] h this object overwriteAttributes =
      if (h.object object).children = [] then .ok (h.modify this fun o =>
        { o with attributes :=
          o.attributes.merge overwriteAttributes (h.object object).attributes.entries })
      else .error .deadlock := by
  split
  · rename_i hnil
    exact append_of_nil (fuel + 2) hnil this overwriteAttributes
  · rename_i hne
    obtain ⟨child, children, hcons⟩ := exists_cons_of_ne_nil hne
    obtain ⟨next, hnext⟩ := append_of_cons (fuel + 2) hcons this overwriteAttributes
    rw [hnext, duplicate_eq]
    rfl

lemma lookup_append (h : Heap) (this object : Nat) (overwriteAttributes : Bool) (name : String) :
    ((h.object this).attributes.merge overwriteAttributes
      (h.object object).attributes.entries).lookup name =
        if overwriteAttributes then
          ((h.object object).attributes.lookup name).or ((h.object this).attributes.lookup name)
        else ((h.object this).attributes.lookup name).or
          ((h.object object).attributes.lookup name) := by
  obtain ⟨hnodup, hempty⟩ := (h.object object).attributes.entries_names
  rw [AttributeMap.lookup_merge _ _ _ _ hnodup hempty, AttributeMap.lookup_entries]

/-- The heap behind `Set`, if there is nothing to duplicate. -/
def setHeap (h : Heap) (this object : Nat) : Heap :=
  ((cleared h this).modify this fun o =>
    { o with name := ((cleared h this).object object).name }).modify this fun o =>
      { o with attributes := o.attributes.merge true ((cleared h this).object object).attributes.entries }

lemma set_eq_append (fuel : Nat) (h : Heap) (this object : Nat)
    (hself : this ∉ (h.object this).children) : set fuel [] h this object =
      append fuel [] ((cleared h this).modify this fun o =>
        { o with name := ((cleared h this).object object).name }) this object true := by
  rw [set, clear_eq, if_neg hself]
  show (getName [] (cleared h this) object >>= fun name =>
    append fuel [] ((cleared h this).modify this fun o => { o with name := name }) this object
      true) = _
  rw [getName_nil]
  rfl

lemma get_setName {β : Type} (get : XmlObject → β) (hname : ∀ o name, get { o with name := name } = get o)
    (h : Heap) (this object : Nat) : get (((cleared h this).modify this fun o =>
      { o with name := ((cleared h this).object object).name }).object object) =
        get ((cleared h this).object object) :=
  Heap.get_modify get (fun o => hname o _) (cleared h this) this object

/-- **`Set`** gives an object the name and the attributes of another one without children. -/
lemma set_of_nil (fuel : Nat) (hself : this ∉ (h.object this).children)
    (hnil : ((cleared h this).object object).children = []) :
    set (fuel + 1) [] h this object = .ok (setHeap h this object) := by
  have hattributes := get_setName XmlObject.attributes (fun _ _ => rfl) h this object
  have hchildren := get_setName XmlObject.children (fun _ _ => rfl) h this object
  rw [set_eq_append _ _ _ _ hself, append_of_nil fuel (hchildren.trans hnil), hattributes]
  rfl

lemma set_ne_ok (fuel : Nat) (hself : this ∉ (h.object this).children)
    (hne : ((cleared h this).object object).children ≠ []) (result : Heap) :
    set fuel [] h this object ≠ .ok result := by
  have hchildren := get_setName XmlObject.children (fun _ _ => rfl) h this object
  rw [set_eq_append _ _ _ _ hself]
  exact append_ne_ok fuel (by rwa [hchildren]) this true result

lemma set_eq (fuel : Nat) (h : Heap) (this object : Nat)
    (hself : this ∉ (h.object this).children) : set (fuel + 3) [] h this object =
      if ((cleared h this).object object).children = [] then .ok (setHeap h this object)
      else .error .deadlock := by
  split
  · rename_i hnil
    exact set_of_nil (fuel + 2) hself hnil
  · rename_i hne
    have hchildren := get_setName XmlObject.children (fun _ _ => rfl) h this object
    rw [set_eq_append _ _ _ _ hself, append_eq, hchildren, if_neg hne]

lemma object_setHeap_self (hself : this ∉ (h.object this).children) :
    ((setHeap h this object).object this).name = ((cleared h this).object object).name ∧
      ((setHeap h this object).object this).children = [] ∧
      ∀ name, ((setHeap h this object).object this).attributes.lookup name =
        ((cleared h this).object object).attributes.lookup name := by
  have hthis := object_cleared h this hself this
  rw [if_pos rfl] at hthis
  unfold setHeap
  rw [Heap.object_modify_self, Heap.object_modify_self, hthis]
  refine ⟨rfl, rfl, fun name => ?_⟩
  obtain ⟨hnodup, hempty⟩ := ((cleared h this).object object).attributes.entries_names
  rw [AttributeMap.lookup_merge _ _ _ _ hnodup hempty, if_pos rfl, AttributeMap.lookup_entries,
    AttributeMap.lookup_empty, Option.or_none]

end CefCore.Wrapper
