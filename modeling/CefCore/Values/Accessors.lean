import CefCore.MessageRouter.ProcessMessage
import CefCore.Values.World

/-!
# Getters and setters

The methods of `CefDictionaryValueImpl` and `CefListValueImpl` for one key or index, with what they
return when there is no such value, or one of another type (`libcef/common/values_impl.cc`).

## Main definitions

* `Place`: a key or an index, for which there is one definition of each method.

## Implementation notes

* Callers give keys and text as `CefString`s, which hold UTF-16. The methods convert them to UTF-8
  first, and to UTF-16 again what they return.
* The constructor of `base::Value` for a double is not part of the repository. What it stores is a
  parameter, a function of the bits.
-/

namespace CefCore.Values

open MessageRouter (UnicodeConversions CefString)

/-- `cef_value_type_t`. -/
inductive CefValueType where
  | invalid
  | null
  | bool
  | int
  | double
  | string
  | binary
  | dictionary
  | list
  deriving DecidableEq

/-- The `switch` in `GetType`. -/
def Kind.valueType : Kind → CefValueType
  | .scalar .null => .null
  | .scalar (.bool _) => .bool
  | .scalar (.int _) => .int
  | .scalar (.double _) => .double
  | .scalar (.string _) => .string
  | .binary _ => .binary
  | .dict => .dictionary
  | .list _ _ => .list

/-- A key or an index, as callers give it. -/
inductive Place where
  | key (key : CefString)
  | index (index : Nat)

def Place.position (base : UnicodeConversions) : Place → Position
  | .key k => .key (k.toString base)
  | .index i => .index i

namespace World

variable (base : UnicodeConversions) (storedDouble : UInt64 → UInt64) (W : World) (w : Nat)
  (pos : Position)

/-! ### Methods that read -/

/-- What a method makes of the value at a position, if there is one; `ret` if the wrapper is not
attached. -/
def read {α : Type} (ret : α) (f : Option Value → α) : Except Fault α := do
  match ← W.verify [] w false with
  | none => return ret
  | some (_, a, _) =>
    let v ← W.deref a (containerType pos)
    return f ((childAt v pos).map (·.2.2))

def getType : Except Fault CefValueType :=
  W.read w pos .invalid fun
    | some value => value.label.kind.valueType
    | none => .invalid

/-- The getters of simple values: `ret` unless there is a value of the type. -/
def getScalar {α : Type} (ret : α) (get : Scalar → Option α) : Except Fault α :=
  W.read w pos ret fun
    | some value =>
      match value.label.kind with
      | .scalar s => (get s).getD ret
      | _ => ret
    | none => ret

def getBool : Except Fault Bool :=
  W.getScalar w pos false fun
    | .bool value => some value
    | _ => none

def getInt : Except Fault Int :=
  W.getScalar w pos 0 fun
    | .int value => some value
    | _ => none

def getDouble : Except Fault UInt64 :=
  W.getScalar w pos 0 fun
    | .double bits => some bits
    | _ => none

def getString : Except Fault CefString :=
  (W.getScalar w pos "" fun
    | .string value => some value
    | _ => none).map (CefString.fromString base)

def hasKey (key : CefString) : Except Fault Bool :=
  W.read w (.key (key.toString base)) false Option.isSome

/-- `GetKeys`, with the list that it appends the keys to. -/
def getKeys (keys : List CefString) : Except Fault (Bool × List CefString) := do
  match ← W.verify [] w false with
  | none => return (false, keys)
  | some (_, a, _) =>
    let v ← W.deref a .dictionary
    return (true, keys ++ v.children.map fun item => CefString.fromString base item.label.key)

def getSize : Except Fault Nat := do
  match ← W.verify [] w false with
  | none => return 0
  | some (_, a, _) =>
    let v ← W.deref a (W.wrapper w).type
    return v.children.length

/-! ### Setters -/

def setNull : Except Fault (Bool × World) := W.setScalar w pos .null

def setBool (value : Bool) : Except Fault (Bool × World) := W.setScalar w pos (.bool value)

def setInt (value : Int) : Except Fault (Bool × World) := W.setScalar w pos (.int value)

def setDouble (bits : UInt64) : Except Fault (Bool × World) :=
  W.setScalar w pos (.double (storedDouble bits))

def setString (value : CefString) : Except Fault (Bool × World) :=
  W.setScalar w pos (.string (value.toString base))

end World

/-! ### Calls -/

/-- A call of a getter, of a setter or of `Remove`. -/
inductive Access where
  | getType (place : Place)
  | getBool (place : Place)
  | getInt (place : Place)
  | getDouble (place : Place)
  | getString (place : Place)
  /-- `GetBinary`, `GetDictionary` and `GetList`. -/
  | getRef (place : Place) (type : ValueType)
  | getValue (place : Place)
  | hasKey (key : CefString)
  | getKeys (keys : List CefString)
  | getSize
  | setNull (place : Place)
  | setBool (place : Place) (value : Bool)
  | setInt (place : Place) (value : Int)
  | setDouble (place : Place) (bits : UInt64)
  | setString (place : Place) (value : CefString)
  /-- `SetBinary`, `SetDictionary` and `SetList`. -/
  | setObject (place : Place) (arg : Nat)
  | setValue (place : Place) (o : Nat) (last : Bool)
  | remove (place : Place)

/-- What a call returns: wrappers and `CefValueImpl`s are their numbers. -/
inductive Answer where
  | type (value : CefValueType)
  | bool (value : Bool)
  | int (value : Int)
  | double (bits : UInt64)
  | string (value : CefString)
  | wrapper (value : Option Nat)
  | object (value : Option Nat)
  | keys (found : Bool) (keys : List CefString)
  | size (value : Nat)
  deriving DecidableEq

namespace World

/-- One call on the wrapper `w`. -/
def perform (base : UnicodeConversions) (storedDouble : UInt64 → UInt64) (W : World) (w : Nat) :
    Access → Except Fault (Answer × World)
  | .getType place => (W.getType w (place.position base)).map fun r => (.type r, W)
  | .getBool place => (W.getBool w (place.position base)).map fun r => (.bool r, W)
  | .getInt place => (W.getInt w (place.position base)).map fun r => (.int r, W)
  | .getDouble place => (W.getDouble w (place.position base)).map fun r => (.double r, W)
  | .getString place => (W.getString base w (place.position base)).map fun r => (.string r, W)
  | .getRef place type => (W.getRef w (place.position base) type).map fun r => (.wrapper r.1, r.2)
  | .getValue place => (W.getValue w (place.position base)).map fun r => (.object r.1, r.2)
  | .hasKey key => (W.hasKey base w key).map fun r => (.bool r, W)
  | .getKeys keys => (W.getKeys base w keys).map fun r => (.keys r.1 r.2, W)
  | .getSize => (W.getSize w).map fun r => (.size r, W)
  | .setNull place => (W.setNull w (place.position base)).map fun r => (.bool r.1, r.2)
  | .setBool place value => (W.setBool w (place.position base) value).map fun r => (.bool r.1, r.2)
  | .setInt place value => (W.setInt w (place.position base) value).map fun r => (.bool r.1, r.2)
  | .setDouble place bits =>
    (W.setDouble storedDouble w (place.position base) bits).map fun r => (.bool r.1, r.2)
  | .setString place value =>
    (W.setString base w (place.position base) value).map fun r => (.bool r.1, r.2)
  | .setObject place arg =>
    (W.setObject w (place.position base) arg).map fun r => (.bool r.1, r.2)
  | .setValue place o last =>
    (W.setValue w (place.position base) o last).map fun r => (.bool r.1, r.2)
  | .remove place => (W.removeAt w (place.position base)).map fun r => (.bool r.1, r.2)

end World

end CefCore.Values
