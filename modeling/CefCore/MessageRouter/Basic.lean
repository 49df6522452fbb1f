import CefCore.Foundations.Run
import Mathlib.Algebra.Group.Int.Defs

/-!
# What the message routers share

The constants, the id generators and the observable events of the two browser-side message
routers, `rust/cef-rs/cef/src/wrapper/message_router.rs` and
`libcef_dll/wrapper/cef_message_router.cc`.

A query that a handler has accepted is known by its callback object: the routers make exactly
one for each query message that reaches a handler. Callback objects are numbered in the order
in which they are made.

## Main definitions

* `IdGenerator`, `RouterEvent`: ids and events.
-/

namespace CefCore.MessageRouter

/-- `RESERVED_ID` / `kReservedId`: the id value reserved for internal use. -/
def reservedId : Int := 0

/-- `i32::MAX`. -/
def i32Max : Int := 2 ^ 31 - 1

/-- `i64::MAX`. -/
def i64Max : Int := 2 ^ 63 - 1

/-- `CanceledError::CODE` / `kCanceledErrorCode`. -/
def canceledErrorCode : Int := -1

/-- `CanceledError::MESSAGE` / `kCanceledErrorMessage`. -/
def canceledErrorMessage : String := "The query has been canceled"

/-! ### Id generators -/

/-- `IdGenerator<T>`: the last id handed out and the range `start..end` of the Rust generator;
the C++ one has `kReservedId` and `std::numeric_limits<T>::max()` in their places. -/
structure IdGenerator where
  nextId : Int
  rangeStart : Int
  rangeEnd : Int

def IdGenerator.new (max : Int) : IdGenerator := ⟨reservedId, reservedId, max⟩

/-- `IdGenerator::next`: the id and the generator after it. -/
def IdGenerator.next (g : IdGenerator) : Int × IdGenerator :=
  let nextId := if g.nextId ≥ g.rangeEnd then g.rangeStart else g.nextId
  (nextId + 1, { g with nextId := nextId + 1 })

/-- `IdGenerator::GetNextId` of the C++ router. -/
def IdGenerator.getNextId (g : IdGenerator) : Int × IdGenerator :=
  let nextId := if g.nextId = g.rangeEnd then g.rangeStart else g.nextId
  (nextId + 1, { g with nextId := nextId + 1 })

lemma IdGenerator.next_of_lt {g : IdGenerator} (h : g.nextId < g.rangeEnd) :
    g.next = (g.nextId + 1, { g with nextId := g.nextId + 1 }) := by
  simp [IdGenerator.next, if_neg (Int.not_le.mpr h)]

/-! ### Events -/

structure Frame where
  id : Nat
  isMain : Bool
  deriving DecidableEq

abbrev Handler := Nat

/-- The number of a callback object; it stands for the query that the callback belongs to. -/
abbrev Query := Nat

/-- What a browser-side router does that can be seen from outside. Response messages name the
query they answer, if a handler had accepted one. -/
inductive RouterEvent where
  /-- `on_query_str` / `on_query_binary` / `OnQuery` is called. -/
  | onQuery (handler : Handler) (queryId : Int)
  /-- A success response is sent to the renderer. -/
  | querySuccess (query : Option Query) (frame : Frame) (contextId requestId : Int)
  /-- A failure response is sent to the renderer. -/
  | queryFailure (query : Option Query) (frame : Frame) (contextId requestId errorCode : Int)
      (errorMessage : String)
  /-- `on_query_canceled` / `OnQueryCanceled` is called. -/
  | onQueryCanceled (query : Option Query) (handler : Handler) (browser : Option Int)
      (frame : Option Frame) (queryId : Int)
  /-- The success task of a query's callback has run. -/
  | successRan (query : Query) (persistent : Bool)
  /-- The failure task of a query's callback has run. -/
  | failureRan (query : Query)
  deriving DecidableEq

def RouterEvent.Ends (q : Query) : RouterEvent → Prop
  | .failureRan q' => q' = q
  | .successRan q' persistent => q' = q ∧ persistent = false
  | .onQueryCanceled q' _ _ _ _ => q' = some q
  | _ => False

/-- The event is a response for the query or tells its handler that it is canceled. -/
def RouterEvent.Touches (q : Query) : RouterEvent → Prop
  | .querySuccess q' _ _ _ => q' = some q
  | .queryFailure q' _ _ _ _ _ => q' = some q
  | .onQueryCanceled q' _ _ _ _ => q' = some q
  | _ => False

instance (q : Query) (e : RouterEvent) : Decidable (e.Ends q) :=
  match e with
  | .onQuery .. | .querySuccess .. | .queryFailure .. => isFalse id
  | .failureRan q' => inferInstanceAs (Decidable (q' = q))
  | .successRan q' persistent => inferInstanceAs (Decidable (q' = q ∧ persistent = false))
  | .onQueryCanceled q' _ _ _ _ => inferInstanceAs (Decidable (q' = some q))

abbrev Completed (q : Query) (log : List RouterEvent) : Prop :=
  EventLog.Settled RouterEvent.Ends q log

/-- No response for a query and no cancellation of it comes after its completion. -/
abbrev CompletedOnce (log : List RouterEvent) : Prop :=
  EventLog.Final RouterEvent.Ends RouterEvent.Touches log

end CefCore.MessageRouter
