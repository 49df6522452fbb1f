import CefCore.Foundations.JsonValue
import CefCore.Foundations.MachineInt
import CefCore.Foundations.Run

/-!
# The numbers of DevTools messages

`CefDevToolsController` of `libcef/browser/devtools/devtools_controller.cc` sends method calls to the
agent of a page. A message has a number, by which its result is known again. The caller may suggest
one, and the controller takes it if it is new; else it gives the message the next one.

## Main results

* `returns_numbersInOrder_iff`: the numbers of a run grow unless the caller suggests the largest
  one.

## Implementation notes

* Numbers are those of an `int`. An overflow is undefined, so that a call with one does not come back.
* What `base::JSONWriter` makes of a message is a parameter.
* The calls of a run are in the order in which they take their numbers. A call that an observer makes
  while another one attaches the agent host, or sends its message, is one more call of the run.
-/

namespace CefCore.Browser

open MachineInt Option Transition

structure CefDevToolsController where
  /-- `agent_host_` is set. -/
  agentHost : Bool := false
  nextMessageId : Int := 1
  /-- What has been given to the agent hosts, by `DispatchProtocolMessage`. -/
  dispatched : List (List UInt8) := []

namespace CefDevToolsController

variable (write : JsonDict → Option (List UInt8)) (c : CefDevToolsController)

/-- `EnsureAgentHost`. An agent host that is not there yet may be `found`, or not. -/
def ensureAgentHost (found : Bool) : CefDevToolsController :=
  if c.agentHost then c else { c with agentHost := found }

def sendDevToolsMessage (message : List UInt8) (found : Bool) : Bool × CefDevToolsController :=
  let c := c.ensureAgentHost found
  if !c.agentHost then (false, c)
  else (true, { c with dispatched := c.dispatched ++ [message] })

/-- The number of a message in `ExecuteDevToolsMethod`, and the next one. -/
def takeMessageId (suggestedMessageId : Int) : Option (Int × Int) :=
  if suggestedMessageId < c.nextMessageId then do
    let next ← checkedInt (c.nextMessageId + 1)
    return (c.nextMessageId, next)
  else do
    let next ← checkedInt (suggestedMessageId + 1)
    return (suggestedMessageId, next)

/-- The message of `ExecuteDevToolsMethod`. -/
def methodMessage (messageId : Int) (method : String) (params : Option JsonDict) : JsonDict :=
  let message := JsonDict.set [] "id" (.scalar (.integer messageId))
  let message := message.set "method" (.scalar (.string method))
  match params with
  | none => message
  | some params => message.set "params" (.dict params)

/-- `ExecuteDevToolsMethod`: what it returns. -/
def executeDevToolsMethod (suggestedMessageId : Int) (method : String) (params : Option JsonDict)
    (found : Bool) : Option (Int × CefDevToolsController) :=
  let c := c.ensureAgentHost found
  if !c.agentHost then some (0, c)
  else do
    let (messageId, nextMessageId) ← c.takeMessageId suggestedMessageId
    let c := { c with nextMessageId }
    match write (methodMessage messageId method params) with
    | none => return (0, c)
    | some protocolMessage =>
      return (messageId, { c with dispatched := c.dispatched ++ [protocolMessage] })

def agentHostClosed : CefDevToolsController := { c with agentHost := false }

@[simp] lemma nextMessageId_ensureAgentHost (found : Bool) :
    (c.ensureAgentHost found).nextMessageId = c.nextMessageId := by
  unfold ensureAgentHost
  split <;> rfl

@[simp] lemma nextMessageId_sendDevToolsMessage (message : List UInt8) (found : Bool) :
    (c.sendDevToolsMessage message found).2.nextMessageId = c.nextMessageId := by
  rw [← c.nextMessageId_ensureAgentHost found]
  simp only [sendDevToolsMessage]
  split <;> rfl

variable {c}

lemma takeMessageId_eq (suggested : Int) : c.takeMessageId suggested =
    (checkedInt (max suggested c.nextMessageId + 1)).map (max suggested c.nextMessageId, ·) := by
  unfold takeMessageId
  split
  · rename_i hlt
    rw [max_eq_right (Int.le_of_lt hlt)]
    cases checkedInt (c.nextMessageId + 1) <;> rfl
  · rename_i hle
    rw [max_eq_left (Int.not_lt.mp hle)]
    cases checkedInt (suggested + 1) <;> rfl

variable {write}

variable {found : Bool} {method : String} {params : Option JsonDict} {suggested : Int}

lemma executeDevToolsMethod_of_not_agentHost (h : (c.ensureAgentHost found).agentHost = false) :
    c.executeDevToolsMethod write suggested method params found =
      some (0, c.ensureAgentHost found) := by
  simp [executeDevToolsMethod, h]

/-- **What a call does** that has an agent host: there has to be a next number behind the one of the
message, which is used up, but returned only if the message can be written. -/
lemma executeDevToolsMethod_of_agentHost (h : (c.ensureAgentHost found).agentHost = true)
    {id : Int} {c' : CefDevToolsController}
    (hcall : c.executeDevToolsMethod write suggested method params found = some (id, c')) :
    max suggested c.nextMessageId + 1 < 2 ^ 31 ∧
      c'.nextMessageId = max suggested c.nextMessageId + 1 ∧
      id = if (write (methodMessage (max suggested c.nextMessageId) method params)).isSome then
        max suggested c.nextMessageId else 0 := by
  simp only [executeDevToolsMethod, h, Bool.not_true, Bool.false_eq_true, if_false,
    takeMessageId_eq, nextMessageId_ensureAgentHost, bind, bind_map] at hcall
  obtain ⟨next, hnext, hcall⟩ := bind_eq_some_iff.mp hcall
  obtain ⟨hfits, rfl⟩ := checkedInt_eq_some_iff.mp hnext
  refine ⟨hfits.2, ?_⟩
  cases hwrite : write (methodMessage (max suggested c.nextMessageId) method params) with
  | none =>
    simp only [Function.comp_apply, hwrite] at hcall
    cases hcall
    exact ⟨rfl, rfl⟩
  | some text =>
    simp only [Function.comp_apply, hwrite] at hcall
    cases hcall
    exact ⟨rfl, rfl⟩

lemma exists_executeDevToolsMethod (h : FitsInt (max suggested c.nextMessageId + 1)) :
    ∃ r, c.executeDevToolsMethod write suggested method params found = some r := by
  cases hhost : (c.ensureAgentHost found).agentHost with
  | false => exact ⟨_, executeDevToolsMethod_of_not_agentHost hhost⟩
  | true =>
    simp only [executeDevToolsMethod, hhost, Bool.not_true, Bool.false_eq_true, if_false,
      takeMessageId_eq, nextMessageId_ensureAgentHost, bind, bind_map,
      checkedInt_of_fits h, bind_some, Function.comp_apply]
    split <;> exact ⟨_, rfl⟩

end CefDevToolsController

/-- A call of `ExecuteDevToolsMethod`: the number that was suggested and the one that it returned. -/
structure MethodReply where
  suggested : Int
  id : Int

/-- A controller and the replies of its calls, newest first. -/
structure DevToolsSession where
  controller : CefDevToolsController := {}
  replies : List MethodReply := []

namespace DevToolsSession

inductive Operation where
  | executeDevToolsMethod (suggested : Int32) (method : String) (params : Option JsonDict)
    (found : Bool)
  | sendDevToolsMessage (message : List UInt8) (found : Bool)
  | agentHostClosed

variable (write : JsonDict → Option (List UInt8))

def step (s : DevToolsSession) : Operation → Option DevToolsSession
  | .executeDevToolsMethod suggested method params found => do
    let (id, controller) ←
      s.controller.executeDevToolsMethod write suggested.toInt method params found
    return { controller, replies := ⟨suggested.toInt, id⟩ :: s.replies }
  | .sendDevToolsMessage message found =>
    some { s with controller := (s.controller.sendDevToolsMessage message found).2 }
  | .agentHostClosed => some { s with controller := s.controller.agentHostClosed }

/-- A number that was returned is greater than all earlier ones, and if the suggestion was such a
number, then it is the suggestion. -/
def InOrder (reply : MethodReply) (earlier : List MethodReply) : Prop :=
  reply.id ≠ 0 → 0 < reply.id ∧ (∀ r ∈ earlier, r.id < reply.id) ∧
    (0 < reply.suggested → (∀ r ∈ earlier, r.id < reply.suggested) → reply.id = reply.suggested)

/-- **Numbers in order**: all numbers that have been returned are increasing, and good suggestions
have been taken. -/
def NumbersInOrder (s : DevToolsSession) : Prop := EventLog.Each InOrder s.replies

/-- The step finds a number for its message, if it gets to that: there is one more number behind it, and
a suggestion that continues the numbers returned has not been used up by a message that could not be
written. -/
def HasNumber (s : DevToolsSession) : Operation → Prop
  | .executeDevToolsMethod suggested method params found =>
    (s.controller.ensureAgentHost found).agentHost = true →
      max suggested.toInt s.controller.nextMessageId < 2 ^ 31 - 1 ∧
      ((write (CefDevToolsController.methodMessage s.controller.nextMessageId method params)).isSome →
        0 < suggested.toInt → (∀ r ∈ s.replies, r.id < suggested.toInt) →
        s.controller.nextMessageId ≤ suggested.toInt)
  | _ => True

/-- The next number is an `int` above zero and above all numbers that have been returned. -/
structure Counted (s : DevToolsSession) : Prop where
  pos : 0 < s.controller.nextMessageId
  lt : s.controller.nextMessageId < 2 ^ 31
  fresh : ∀ r ∈ s.replies, r.id < s.controller.nextMessageId

lemma counted_new : Counted {} := ⟨by decide, by decide, fun _ hr => nomatch hr⟩

variable {write} {s s' : DevToolsSession}

/-! ### One step -/

lemma step_executeDevToolsMethod {suggested : Int32} {method : String} {params : Option JsonDict}
    {found : Bool}
    (h : s.step write (.executeDevToolsMethod suggested method params found) = some s') :
    ∃ id c', s.controller.executeDevToolsMethod write suggested.toInt method params found =
        some (id, c') ∧ s' = ⟨c', ⟨suggested.toInt, id⟩ :: s.replies⟩ := by
  obtain ⟨⟨id, c'⟩, hcall, h⟩ := bind_eq_some_iff.mp h
  exact ⟨id, c', hcall, (some.inj h).symm⟩

variable {op : Operation}

lemma Counted.step (hc : s.Counted) (hs : s.step write op = some s') : s'.Counted := by
  cases op with
  | sendDevToolsMessage message found =>
    cases hs
    have hnext := s.controller.nextMessageId_sendDevToolsMessage message found
    exact ⟨hnext ▸ hc.pos, hnext ▸ hc.lt, fun r hr => hnext ▸ hc.fresh r hr⟩
  | agentHostClosed =>
    cases hs
    exact ⟨hc.pos, hc.lt, hc.fresh⟩
  | executeDevToolsMethod suggested method params found =>
    obtain ⟨id, c', hcall, rfl⟩ := step_executeDevToolsMethod hs
    cases hhost : (s.controller.ensureAgentHost found).agentHost with
    | false =>
      rw [CefDevToolsController.executeDevToolsMethod_of_not_agentHost hhost] at hcall
      cases hcall
      have hnext := s.controller.nextMessageId_ensureAgentHost found
      refine ⟨hnext ▸ hc.pos, hnext ▸ hc.lt, fun r hr => ?_⟩
      rcases List.mem_cons.mp hr with rfl | hr
      · exact hnext ▸ hc.pos
      · exact hnext ▸ hc.fresh r hr
    | true =>
      obtain ⟨hroom, hnext, rfl⟩ :=
        CefDevToolsController.executeDevToolsMethod_of_agentHost hhost hcall
      have hpos := hc.pos
      have hpos' : 0 < c'.nextMessageId := by omega
      have hlt' : c'.nextMessageId < 2 ^ 31 := by omega
      refine ⟨hpos', hlt', fun r hr => ?_⟩
      show r.id < c'.nextMessageId
      rcases List.mem_cons.mp hr with rfl | hr
      · show ite _ _ _ < _
        split <;> omega
      · have := hc.fresh r hr
        omega

lemma NumbersInOrder.step_iff (hc : s.Counted) (ho : s.NumbersInOrder)
    (hs : s.step write op = some s') : s'.NumbersInOrder ↔ s.HasNumber write op := by
  cases op with
  | sendDevToolsMessage message found =>
    cases hs
    exact iff_of_true ho True.intro
  | agentHostClosed =>
    cases hs
    exact iff_of_true ho True.intro
  | executeDevToolsMethod suggested method params found =>
    obtain ⟨id, c', hcall, rfl⟩ := step_executeDevToolsMethod hs
    refine (and_iff_left ho).trans ?_
    cases hhost : (s.controller.ensureAgentHost found).agentHost with
    | false =>
      rw [CefDevToolsController.executeDevToolsMethod_of_not_agentHost hhost] at hcall
      cases hcall
      refine iff_of_true (absurd rfl) ?_
      intro htrue
      cases hhost.symm.trans htrue
    | true =>
      obtain ⟨hroom, -, rfl⟩ := CefDevToolsController.executeDevToolsMethod_of_agentHost hhost hcall
      have hpos := hc.pos
      simp only [InOrder, HasNumber, hhost, true_implies]
      rcases Int.lt_or_le suggested.toInt s.controller.nextMessageId with hlt | hle
      · -- the message gets the next number, which is not the one that was suggested
        rw [max_eq_right (Int.le_of_lt hlt)] at hroom ⊢
        refine ⟨fun h => ⟨by omega, fun hwrite hsuggested hearlier => ?_⟩, fun h hne => ?_⟩
        · rw [if_pos hwrite] at h
          exact Int.le_of_eq ((h (by omega)).2.2 hsuggested hearlier)
        · have hwrite := (ite_ne_right_iff.mp hne).1
          rw [if_pos hwrite]
          refine ⟨hpos, hc.fresh, fun hsuggested hearlier => ?_⟩
          have := h.2 hwrite hsuggested hearlier
          omega
      · -- the message gets the number that was suggested
        rw [max_eq_left hle] at hroom ⊢
        refine iff_of_true (fun hne => ?_) ⟨by omega, fun _ _ _ => hle⟩
        have hwrite := (ite_ne_right_iff.mp hne).1
        rw [if_pos hwrite]
        refine ⟨by omega, fun r hr => ?_, fun _ _ => rfl⟩
        have := hc.fresh r hr
        omega

lemma exists_step (hc : s.Counted) (h : s.HasNumber write op) :
    ∃ s', s.step write op = some s' := by
  cases op with
  | sendDevToolsMessage message found => exact ⟨_, rfl⟩
  | agentHostClosed => exact ⟨_, rfl⟩
  | executeDevToolsMethod suggested method params found =>
    have hcall : ∃ r, s.controller.executeDevToolsMethod write suggested.toInt method params found =
        some r := by
      cases hhost : (s.controller.ensureAgentHost found).agentHost with
      | false => exact ⟨_, CefDevToolsController.executeDevToolsMethod_of_not_agentHost hhost⟩
      | true =>
        have hroom := (h hhost).1
        have hpos := hc.pos
        exact CefDevToolsController.exists_executeDevToolsMethod ⟨by omega, by omega⟩
    obtain ⟨r, hr⟩ := hcall
    exact ⟨_, bind_eq_some_iff.mpr ⟨r, hr, rfl⟩⟩

/-! ### Runs -/

/-- **Message ids are increasing and unique**: a run of any calls, with any suggestions, comes back and
keeps its numbers in order in every state, if and only if each of its steps finds a number.

**Proof sketch.** The next number is above all numbers that have been returned; a message gets it or a
greater suggestion, as long as there is one more `int` behind. -/
theorem returns_numbersInOrder_iff (write : JsonDict → Option (List UInt8))
    (operations : List Operation) :
    ((operations.foldlM (step write) {}).isSome = true ∧
        Always (step write) NumbersInOrder {} operations) ↔
      Along (step write) (HasNumber write) {} operations := by
  refine Along.iff_isSome_and_always (I := Counted) ?_ ?_ operations {} counted_new
    True.intro
  · intro s op hc ho hnumber
    obtain ⟨s', hs⟩ := exists_step hc hnumber
    exact ⟨s', hs, hc.step hs, (ho.step_iff hc hs).mpr hnumber⟩
  · intro s op s' hc ho hnumber hs
    exact mt (ho.step_iff hc hs).mp hnumber

/-- **The greatest number is suggested**: there is no number for the next message. -/
theorem last_number_overflows : ¬ ∀ (write : JsonDict → Option (List UInt8))
    (operations : List Operation), (operations.foldlM (step write) {}).isSome = true ∧
      Always (step write) NumbersInOrder {} operations := by
  intro h
  have hreturns := (h (fun _ => some []) [.executeDevToolsMethod 2147483647 "Page.enable" none true]).1
  exact absurd hreturns (by decide)

end DevToolsSession

end CefCore.Browser
