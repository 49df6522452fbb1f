import CefCore.Values.Controller
import Mathlib.Logic.Function.Basic

/-!
# Value wrappers

The wrappers `CefBinaryValueImpl`, `CefDictionaryValueImpl` and `CefListValueImpl` over
`CefValueBase`, and `CefValueImpl`, which holds a simple value or one of them (`libcef/common`,
`value_base.h` and `values_impl.cc`).

## Main definitions

* `World.step`: a call of a method.

## Implementation notes

* A method runs on one thread. `held` are the controllers whose locks the thread holds; a method
  that is called from outside holds none. The locks are released when the method returns.
* A method of the dictionary takes a key and the same method of the list an index; they are one
  function here, of a `Position`. A method that the type of the value does not have is a `crash`,
  like every use of memory that has been freed.
* `value_` and `controller_` of a wrapper are set and cleared together and are one field,
  `attachment`.
* References to wrappers are not counted: `destroy` is the moment when the last one goes. The flag
  `last` of `setValue` says that the `CefValueImpl` had the last reference to what it held.
* The numbers of blocks that have been freed are not used again, while a program may get the same
  memory again. The runs for which `references_contained` and `registry_coherent` are stated leave no
  wrapper at such memory.
* The lock of `CefValueImpl` and the texts and numbers that nothing here depends on are left out.
-/

namespace CefCore.Values

/-- `ValueMode`. -/
inductive Mode where
  | reference
  | ownerWillDelete
  | ownerNoDelete
  deriving DecidableEq

/-- `CefValueBase`: a wrapper. It is attached to a controller and a value, or to neither;
`element` is the cell of the value that it was made for. -/
structure Wrapper where
  type : ValueType
  mode : Mode
  readOnly : Bool
  attachment : Option (Nat × Addr)
  alive : Bool
  element : Nat

/-- Detached, by `OnControlRemoved` or at the end of `Delete` and `Detach`. -/
def Wrapper.detach (w : Wrapper) : Wrapper := { w with attachment := none }

/-- `CefValueImpl`: a simple value, a wrapper, or nothing. -/
inductive CefValueImpl where
  | invalid
  | scalar (value : Scalar)
  | object (wrapper : Nat)

inductive Fault where
  /-- The thread waits for a lock that it holds. -/
  | deadlock
  /-- A failed `CHECK`, or memory is used that has been freed or is not of this type. -/
  | crash
  /-- The call runs for ever. -/
  | diverge
  /-- Nobody can make the call: the wrapper has been destroyed. -/
  | impossible
  deriving DecidableEq

/-- All values, controllers and wrappers. The values are those that a wrapper owns; the numbers
from `controllers`, `wrappers`, `objects` and `next` on are not used yet. -/
structure World where
  values : List Value
  controller : Nat → CefValueController
  wrapper : Nat → Wrapper
  object : Nat → CefValueImpl
  controllers : Nat
  wrappers : Nat
  objects : Nat
  next : Nat

namespace World

def noWrapper : Wrapper := ⟨.binary, .reference, false, none, false, 0⟩

def new : World :=
  ⟨[], fun _ => CefValueController.new, fun _ => noWrapper, fun _ => .invalid, 0, 0, 0, 0⟩

/-! ### Memory -/

def forest : Label := ⟨0, "", .dict⟩

section

variable (W : World)

def deref (a : Addr) (type : ValueType) : Except Fault Value :=
  match PlacedTree.findIn slot a forest 0 W.values with
  | none => throw .crash
  | some v => if v.label.kind.type = some type then return v else throw .crash

def replace (a : Addr) (v : Value) (next : Nat) : World :=
  { W with
    values := PlacedTree.modifyIn slot a (fun _ => v) forest 0 W.values
    next := next }

/-! ### Controllers -/

def setWrapper (w : Nat) (x : Wrapper) : World :=
  { W with wrapper := Function.update W.wrapper w x }

def setController (c : Nat) (x : CefValueController) : World :=
  { W with controller := Function.update W.controller c x }

/-- `OnControlRemoved` of some wrappers. -/
def notify (ids : List Nat) : Except Fault World :=
  if ids.all fun w => (W.wrapper w).alive then
    return { W with
      wrapper := fun w => if w ∈ ids then (W.wrapper w).detach else W.wrapper w }
  else throw .crash

/-- `Remove` on a controller. -/
def remove (c : Nat) (value : Addr) (notifyObject : Bool) : Except Fault World :=
  let (x, ids) := (W.controller c).remove value notifyObject
  (W.setController c x).notify ids

/-- `RemoveDependencies` on a controller. -/
def removeDependencies (c : Nat) (value : Addr) : Except Fault World :=
  let (x, ids) := (W.controller c).removeDependencies value
  (W.setController c x).notify ids

end

/-- `lock` of a controller. -/
def lock (held : List Nat) (c : Nat) : Except Fault (List Nat) :=
  if c ∈ held then throw .deadlock else return c :: held

/-- `CEF_VALUE_VERIFY_RETURN`: the controller, the address and the locks now held, or nothing if
the method returns at once. -/
def verify (W : World) (held : List Nat) (w : Nat) (modify : Bool) :
    Except Fault (Option (Nat × Addr × List Nat)) :=
  match (W.wrapper w).attachment with
  | none => return none
  | some (c, a) => do
    let held ← lock held c
    if (W.wrapper w).readOnly && modify then return none else return some (c, a, held)

/-! ### Wrappers -/

def newOwner (W : World) (type : ValueType) (v : Value) (next : Nat) : World :=
  { W with
    values := v :: W.values
    controller := Function.update W.controller W.controllers
      (CefValueController.new.setOwner (rootAddr v) W.wrappers)
    wrapper := Function.update W.wrapper W.wrappers
      ⟨type, .ownerWillDelete, false, some (W.controllers, rootAddr v), true, v.label.cell⟩
    controllers := W.controllers + 1
    wrappers := W.wrappers + 1
    next := next }

/-- `Create` of an empty value (or of binary data). -/
def create (W : World) (type : ValueType) (data : List UInt8) : World :=
  match type with
  | .binary => W.newOwner .binary (leaf W.next (.binary data)) (W.next + 1)
  | .dictionary => W.newOwner .dictionary (leaf W.next .dict) (W.next + 1)
  | .list => W.newOwner .list (leaf W.next (.list (W.next + 1) 0)) (W.next + 2)

/-- `GetOrCreateRef`, with the wrapper it returns. -/
def getOrCreateRef (W : World) (c : Nat) (type : ValueType) (a parent : Addr) (readOnly : Bool)
    (element : Nat) : Nat × World :=
  match (W.controller c).get a with
  | some w => (w, W)
  | none =>
    (W.wrappers, { W with
      controller := Function.update W.controller c
        (((W.controller c).addReference a W.wrappers).addDependency parent a)
      wrapper := Function.update W.wrapper W.wrappers
        ⟨type, .reference, readOnly, some (c, a), true, element⟩
      wrappers := W.wrappers + 1 })

/-- The child at a position: its index, its address and itself. -/
def childAt (v : Value) (pos : Position) : Option (Nat × Addr × Value) :=
  match indexOf v pos with
  | none => none
  | some i => v.children[i]?.map fun t => (i, slot v.label i t.label, t)

/-- Dictionaries have keys and lists have indices. -/
def containerType : Position → ValueType
  | .key _ => .dictionary
  | .index _ => .list

/-- `GetBinary`, `GetDictionary` and `GetList`, with the wrapper they return. -/
def getRef (W : World) (w : Nat) (pos : Position) (type : ValueType) :
    Except Fault (Option Nat × World) := do
  match ← W.verify [] w false with
  | none => return (none, W)
  | some (c, a, _) =>
    let v ← W.deref a (containerType pos)
    match childAt v pos with
    | none => return (none, W)
    | some (_, b, t) =>
      if t.label.kind.type = some type then
        -- binary values are always read-only
        let readOnly := type = .binary || (W.wrapper w).readOnly
        let (r, W) := W.getOrCreateRef c type b a readOnly t.label.cell
        return (some r, W)
      else return (none, W)

/-- A new `CefValueImpl`. -/
def newObject (W : World) (x : CefValueImpl) : World :=
  { W with object := Function.update W.object W.objects x, objects := W.objects + 1 }

/-- `GetValue`, with the `CefValueImpl` it returns. -/
def getValue (W : World) (w : Nat) (pos : Position) : Except Fault (Option Nat × World) := do
  match ← W.verify [] w false with
  | none => return (none, W)
  | some (c, a, _) =>
    let v ← W.deref a (containerType pos)
    match childAt v pos with
    | none => return (none, W)
    | some (_, b, t) =>
      match t.label.kind.type, t.label.kind with
      | some type, _ =>
        let readOnly := type = .binary || (W.wrapper w).readOnly
        let (r, W) := W.getOrCreateRef c type b a readOnly t.label.cell
        return (some W.objects, W.newObject (.object r))
      | none, .scalar s => return (some W.objects, W.newObject (.scalar s))
      | none, _ => throw .crash

/-! ### Changes -/

/-- The calls of the controller in `RemoveInternal`. -/
def removeReferences (W : World) (c : Nat) (b : Addr) (kind : Kind) : Except Fault World := do
  let W ← W.remove c b true
  -- only list and dictionary types may have dependencies
  if kind.isContainer then W.removeDependencies c b else return W

/-- `RemoveInternal`, with what it returns. -/
def removeInternal (W : World) (c : Nat) (a : Addr) (pos : Position) :
    Except Fault (Bool × World) := do
  let v ← W.deref a (containerType pos)
  match childAt v pos with
  | none => return (false, W)
  | some (i, b, t) =>
    let W ← W.removeReferences c b t.label.kind
    return (true, W.replace a (eraseChild i v) W.next)

/-- The change of the container in `SetInternal`, after `RemoveInternal` has returned `removed`:
the container, the first free number, and the index of the new child. -/
def place (v : Value) (pos : Position) (removed : Bool) (content : Value) (next : Nat) :
    Value × Nat × Nat :=
  match pos with
  | .key key =>
    (insertEntry next key content v, next + 1, (v.children.takeWhile (keyBefore key)).length)
  | .index i =>
    if removed then
      let (v, next) := insertElement next i content v
      (v, next, i)
    else
      let (v, next) := padTo (i + 1) next v
      (assignElement next i content v, next + 1, i)

section

variable (W : World)

/-- `SetInternal`, with the address that it returns and the cell of the new child. -/
def setInternal (c : Nat) (a : Addr) (pos : Position) (content : Value) :
    Except Fault ((Addr × Nat) × World) := do
  let (removed, W) ← W.removeInternal c a pos
  let v ← W.deref a (containerType pos)
  let (v, next, i) := place v pos removed content W.next
  match v.children[i]? with
  | none => throw .crash
  | some t =>
    let b := slot v.label i t.label
    let W := W.replace a v next
    return ((b, t.label.cell), W.setController c ((W.controller c).swap (rootAddr content) b))

/-- `SetNull`, `SetBool`, `SetInt`, `SetDouble` and `SetString`. -/
def setScalar (w : Nat) (pos : Position) (s : Scalar) :
    Except Fault (Bool × World) := do
  match ← W.verify [] w true with
  | none => return (false, W)
  | some (c, a, _) =>
    let (_, W) ← { W with next := W.next + 1 }.setInternal c a pos (leaf W.next (.scalar s))
    return (true, W)

/-- `CopyOrDetachValue`: the value, which nothing contains now. -/
def copyOrDetachValue (held : List Nat) (w newController : Nat) :
    Except Fault (Value × World) := do
  if (W.wrapper w).mode = .ownerWillDelete then
    match ← W.verify held w false with
    -- a null pointer, which `SetInternal` dereferences
    | none => throw .crash
    | some (c, a, _) =>
      match W.values.find? fun v => rootAddr v = a with
      | none => throw .crash
      | some v =>
        let (x, y) := (W.controller newController).takeFrom (W.controller c)
        let W ← ((W.setController newController x).setController c y).remove c a false
        return (v, { W.setWrapper w (W.wrapper w).detach with
          values := W.values.filter fun v => rootAddr v ≠ a })
  else
    match ← W.verify held w false with
    | none => return (leaf W.next (.scalar .null), { W with next := W.next + 1 })
    | some (_, a, _) =>
      let v ← W.deref a (W.wrapper w).type
      let (v, next) := clone W.next v
      return (v, { W with next := next })

/-- `SetBinary`, `SetDictionary` and `SetList`. -/
def setObject (w : Nat) (pos : Position) (arg : Nat) :
    Except Fault (Bool × World) := do
  match ← W.verify [] w true with
  | none => return (false, W)
  | some (c, a, held) =>
    let (content, W) ← W.copyOrDetachValue held arg c
    let (_, W) ← W.setInternal c a pos content
    return (true, W)

/-- The part of `Delete` for an owner. -/
def deleteValue (c : Nat) (a : Addr) (mode : Mode) : Except Fault World :=
  if mode = .ownerWillDelete then do
    let W ← W.removeDependencies c a
    return { W with values := W.values.filter fun v => rootAddr v ≠ a }
  else return W

/-- `~CefValueBase`, with `Delete` if the wrapper is attached. -/
def destroy (held : List Nat) (w : Nat) : Except Fault World := do
  match ← W.verify held w false with
  | none => return W.setWrapper w { W.wrapper w with alive := false }
  | some (c, a, _) =>
    let W ← W.remove c a false
    let W ← W.deleteValue c a (W.wrapper w).mode
    return W.setWrapper w { (W.wrapper w).detach with alive := false }

/-- `SwapValue`: the `CefValueImpl` refers to the new value, and lets the old wrapper go. -/
def swapValue (held : List Nat) (o arg c : Nat) (b parent : Addr) (cell : Nat)
    (last : Bool) : Except Fault World :=
  let type := (W.wrapper arg).type
  let (r, W) := W.getOrCreateRef c type b parent (type = .binary) cell
  let W := { W with object := Function.update W.object o (.object r) }
  if last then W.destroy held arg else return W

def setValue (w : Nat) (pos : Position) (o : Nat) (last : Bool) :
    Except Fault (Bool × World) := do
  match ← W.verify [] w true with
  | none => return (false, W)
  | some (c, a, held) =>
    match W.object o with
    -- `CopyOrDetachValue` dereferences a null pointer
    | .invalid => throw .crash
    | .scalar s =>
      let (_, W) ← { W with next := W.next + 1 }.setInternal c a pos (leaf W.next (.scalar s))
      return (true, W)
    | .object arg =>
      let (content, W) ← W.copyOrDetachValue held arg c
      let ((b, cell), W) ← W.setInternal c a pos content
      let W ← W.swapValue held o arg c b a cell last
      return (true, W)

/-- `Remove`. -/
def removeAt (w : Nat) (pos : Position) : Except Fault (Bool × World) := do
  match ← W.verify [] w true with
  | none => return (false, W)
  | some (c, a, _) => W.removeInternal c a pos

def clear (w : Nat) : Except Fault (Bool × World) := do
  match ← W.verify [] w true with
  | none => return (false, W)
  | some (c, a, _) =>
    let W ← W.removeDependencies c a
    let v ← W.deref a (W.wrapper w).type
    return (true, W.replace a (cleared v) W.next)

end

/-- The loop of `SetSize` that removes the elements above the requested size. -/
def shrink (c : Nat) (a : Addr) (size : Nat) : Nat → World → Except Fault World
  | 0, W => return W
  | n + 1, W => do
    let (_, W) ← W.removeInternal c a (.index (size + n))
    shrink c a size n W

def setSize (W : World) (w size : Nat) : Except Fault (Bool × World) := do
  match ← W.verify [] w true with
  | none => return (false, W)
  | some (c, a, _) =>
    let v ← W.deref a .list
    if size < v.children.length then
      -- the index is not negative and always at least zero
      if size = 0 then throw .diverge
      else
        let W ← shrink c a size (v.children.length - size) W
        return (true, W)
    else
      let (v, next) := padTo size W.next v
      return (true, W.replace a v next)

def copy (W : World) (w : Nat) (excludeEmptyChildren : Bool) :
    Except Fault (Option Nat × World) := do
  match ← W.verify [] w false with
  | none => return (none, W)
  | some (_, a, _) =>
    let type := (W.wrapper w).type
    let v ← W.deref a type
    let (v, next) := clone W.next v
    let v := if excludeEmptyChildren then removeEmptyValueDicts v else v
    return (some W.wrappers, W.newOwner type v next)

/-! ### Comparisons -/

def isSameValue (W : World) (held : List Nat) (w : Nat) (that : Addr) : Except Fault Bool := do
  match ← W.verify held w false with
  | none => return false
  | some (_, a, _) => return a = that

def isSame (W : World) (w : Nat) (that : Option Nat) : Except Fault Bool := do
  match that with
  | none => return false
  | some that =>
    if that = w then return true
    else match ← W.verify [] w false with
      | none => return false
      | some (_, a, held) => W.isSameValue held that a

def isEqualValue (W : World) (held : List Nat) (w : Nat) (that : Addr) (type : ValueType) :
    Except Fault Bool := do
  match ← W.verify held w false with
  | none => return false
  | some (_, a, _) =>
    let v ← W.deref a (W.wrapper w).type
    let u ← W.deref that type
    return equalValue v u

def isEqual (W : World) (w : Nat) (that : Option Nat) : Except Fault Bool := do
  match that with
  | none => return false
  | some that =>
    if that = w then return true
    else match ← W.verify [] w false with
      | none => return false
      | some (_, a, held) => W.isEqualValue held that a (W.wrapper w).type

/-! ### Runs -/

inductive Op where
  | create (type : ValueType) (data : List UInt8)
  | getRef (w : Nat) (pos : Position) (type : ValueType)
  | getValue (w : Nat) (pos : Position)
  | setScalar (w : Nat) (pos : Position) (s : Scalar)
  | setObject (w : Nat) (pos : Position) (arg : Nat)
  | setValue (w : Nat) (pos : Position) (o : Nat) (last : Bool)
  | removeAt (w : Nat) (pos : Position)
  | clear (w : Nat)
  | setSize (w size : Nat)
  | copy (w : Nat) (excludeEmptyChildren : Bool)
  | destroy (w : Nat)
  /-- `CefValue::Create`, followed by the setters of the `CefValue`. -/
  | newObject (x : CefValueImpl)
  | setInObject (o : Nat) (x : CefValueImpl)

def Op.wrappers (W : World) : Op → List Nat
  | .create _ _ => []
  | .getRef w _ _ | .getValue w _ | .setScalar w _ _ | .removeAt w _ | .clear w | .setSize w _
  | .copy w _ | .destroy w => [w]
  | .setObject w _ arg => [w, arg]
  | .setValue w _ o _ =>
    match W.object o with
    | .object arg => [w, arg]
    | _ => [w]
  | .newObject x | .setInObject _ x =>
    match x with
    | .object arg => [arg]
    | _ => []

/-- One call, by a thread that holds no locks. -/
def step (W : World) (op : Op) : Except Fault World :=
  if (op.wrappers W).all fun w => (W.wrapper w).alive then
    match op with
    | .create type data => return W.create type data
    | .getRef w pos type => (W.getRef w pos type).map (·.2)
    | .getValue w pos => (W.getValue w pos).map (·.2)
    | .setScalar w pos s => (W.setScalar w pos s).map (·.2)
    | .setObject w pos arg => (W.setObject w pos arg).map (·.2)
    | .setValue w pos o last => (W.setValue w pos o last).map (·.2)
    | .removeAt w pos => (W.removeAt w pos).map (·.2)
    | .clear w => (W.clear w).map (·.2)
    | .setSize w size => (W.setSize w size).map (·.2)
    | .copy w excludeEmptyChildren => (W.copy w excludeEmptyChildren).map (·.2)
    | .destroy w => W.destroy [] w
    | .newObject x => return W.newObject x
    | .setInObject o x => return { W with object := Function.update W.object o x }
  else throw .impossible

def call (W : World) (op : Op) : Option World := (W.step op).toOption

lemma call_eq_some {W W' : World} {op : Op} (h : W.call op = some W') : W.step op = .ok W' := by
  unfold call at h
  cases hstep : W.step op with
  | error e =>
    rw [hstep] at h
    cases h
  | ok W₁ =>
    rw [hstep] at h
    rw [Option.some.inj h]

end World

end CefCore.Values
