import Mathlib.Data.String.Basic
import CefCore.Foundations.PlacedTree

/-!
# Values in memory

`base::Value` as the wrappers of `libcef/common/values_impl.cc` use it, with the places in memory
that the controllers key their maps by. A dictionary keeps each entry in a heap cell of its own; a
list is a `std::vector`, whose elements are the slots of its buffer, move down when one in front of
them is erased, and move to a new buffer when it grows over its capacity.

## Main definitions

* `Value`: a value with its places in memory.

## Implementation notes

* Memory comes in numbered blocks. A number is used once: a pointer to freed memory is never equal
  to a pointer to new memory.
* Every value has a number, its `cell`. In a dictionary, and for a value that nothing contains, this
  is the block where it is stored. For an element of a list it only names the element, whatever
  slot it has moved to.
* A list has a block for its buffer from the start, and `spare` is the difference of capacity and
  size. A buffer that is full is replaced by one of twice its size.
* The entries of a dictionary are sorted by their keys. The values of a double are its bits.
-/

namespace CefCore.Values

/-- An address: a block of memory and a slot in it. -/
structure Addr where
  block : Nat
  offset : Nat
  deriving DecidableEq

inductive Scalar where
  | null
  | bool (value : Bool)
  | int (value : Int)
  | double (bits : UInt64)
  | string (value : String)
  deriving DecidableEq

/-- What a value is; a list with the block of its buffer and the unused slots there. -/
inductive Kind where
  | scalar (value : Scalar)
  | binary (data : List UInt8)
  | dict
  | list (buffer spare : Nat)
  deriving DecidableEq

/-- A value apart from its children: its cell, its key if a dictionary contains it, and its kind. -/
structure Label where
  cell : Nat
  key : String
  kind : Kind

abbrev Value := PlacedTree Label

inductive ValueType where
  | binary
  | dictionary
  | list
  deriving DecidableEq

def Kind.type : Kind → Option ValueType
  | .scalar _ => none
  | .binary _ => some .binary
  | .dict => some .dictionary
  | .list _ _ => some .list

/-- `is_list() || is_dict()`. -/
def Kind.isContainer : Kind → Bool
  | .dict | .list _ _ => true
  | _ => false

/-- Where a container keeps its child with an index. -/
def slot (parent : Label) (i : Nat) (child : Label) : Addr :=
  match parent.kind with
  | .list buffer _ => ⟨buffer, i⟩
  | _ => ⟨child.cell, 0⟩

def rootAddr (v : Value) : Addr := ⟨v.label.cell, 0⟩

def leaf (cell : Nat) (kind : Kind) : Value := .node ⟨cell, "", kind⟩ []

def relabel (cell : Nat) (key : String) (v : Value) : Value :=
  .node { v.label with cell := cell, key := key } v.children

/-- The kind with another buffer, without unused slots. -/
def Kind.rebuffer (buffer : Nat) : Kind → Kind
  | .list _ _ => .list buffer 0
  | kind => kind

/-! ### Copies -/

mutual

/-- `Clone`, with the first number that is free before and after. -/
def clone (next : Nat) : Value → Value × Nat
  | .node a ts =>
    let (ts, last) := cloneAll (next + 2) ts
    (.node ⟨next, a.key, a.kind.rebuffer (next + 1)⟩ ts, last)

def cloneAll (next : Nat) : List Value → List Value × Nat
  | [] => ([], next)
  | t :: ts =>
    let (t, next) := clone next t
    let (ts, last) := cloneAll next ts
    (t :: ts, last)

end

/-- The kind as far as `operator==` looks at it. -/
def Kind.content : Kind → Kind
  | .list _ _ => .list 0 0
  | kind => kind

mutual

/-- `operator==`. -/
def equalValue : Value → Value → Bool
  | .node a ts, .node b us => a.kind.content = b.kind.content && equalValues ts us

def equalValues : List Value → List Value → Bool
  | [], [] => true
  | t :: ts, u :: us => t.label.key = u.label.key && equalValue t u && equalValues ts us
  | _, _ => false

end

mutual

/-- `RemoveEmptyValueDicts` on the value, if it is a dictionary. -/
def removeEmptyValueDicts : Value → Value
  | .node a ts => if a.kind = .dict then .node a (removeEmptyEntries ts) else .node a ts

def removeEmptyEntries : List Value → List Value
  | [] => []
  | t :: ts =>
    let t := removeEmptyValueDicts t
    if t.label.kind = .dict && t.children.isEmpty then removeEmptyEntries ts
    else t :: removeEmptyEntries ts

end

/-! ### Containers -/

/-- The key of an entry, or the index of an element. -/
inductive Position where
  | key (key : String)
  | index (index : Nat)

/-- The index of the child at a position: `Find`, or the comparison with the size. -/
def indexOf (v : Value) : Position → Option Nat
  | .key key => v.children.findIdx? fun t => t.label.key = key
  | .index i => if i < v.children.length then some i else none

/-- `Extract`, or `erase`. -/
def eraseChild (i : Nat) (v : Value) : Value :=
  let kind := match v.label.kind with
    | .list buffer spare => .list buffer (spare + 1)
    | kind => kind
  .node { v.label with kind := kind } (v.children.eraseIdx i)

/-- The capacity of `std::vector` after a buffer of that size was full, less one for the new
element. -/
def spareAfterGrowth (size : Nat) : Nat := max (2 * size) (size + 1) - (size + 1)

/-- `Insert` an element into a list, in place if there is a slot left, with the first free number
before and after. -/
def insertElement (next : Nat) (i : Nat) (content : Value) (v : Value) : Value × Nat :=
  let ts := v.children.insertIdx i (relabel next "" content)
  match v.label.kind with
  | .list buffer (spare + 1) => (.node { v.label with kind := .list buffer spare } ts, next + 1)
  | .list _ 0 =>
    (.node { v.label with kind := .list (next + 1) (spareAfterGrowth v.children.length) } ts,
      next + 2)
  | _ => (v, next)

/-- `Append` null values. -/
def appendNulls : Nat → Nat → Value → Value × Nat
  | 0, next, v => (v, next)
  | n + 1, next, v =>
    let (v, next) := insertElement next v.children.length (leaf next (.scalar .null)) v
    appendNulls n next v

/-- `Append` null values until the list has a size. -/
def padTo (size next : Nat) (v : Value) : Value × Nat :=
  appendNulls (size - v.children.length) next v

def assignElement (next i : Nat) (content : Value) (v : Value) : Value :=
  .node v.label (v.children.set i (relabel next "" content))

def keyBefore (key : String) (t : Value) : Bool := t.label.key < key

/-- `Set` a new entry of a dictionary. -/
def insertEntry (next : Nat) (key : String) (content : Value) (v : Value) : Value :=
  .node v.label (v.children.takeWhile (keyBefore key) ++ relabel next key content ::
    v.children.dropWhile (keyBefore key))

/-- `clear`. -/
def cleared (v : Value) : Value :=
  let kind := match v.label.kind with
    | .list buffer spare => .list buffer (spare + v.children.length)
    | kind => kind
  .node { v.label with kind := kind } []

end CefCore.Values
