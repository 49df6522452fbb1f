import CefCore.Foundations.JsonValue
import CefCore.Foundations.Utf8

/-!
# The results of scripts

`CefFrameHostImpl::ExecuteJavaScriptWithResult` of `libcef/browser/frame_host_impl.cc` has a script
evaluated by the DevTools agent of a page. An `EvalResultObserver` waits for the result and gives it to
the callback of the client. The client may do anything in its `OnComplete`, and meanwhile more may be
delivered to the observer.

## Main results

* `executeJavaScriptWithResult_completesOnce_iff`: when the callback is run once.

## Implementation notes

* A call from another thread is posted to the UI thread, and made there.
* `base::JSONReader::ReadDict` is a parameter. Strings of JSON values are texts, and an error is the
  `std::string` that is given to `OnComplete`.
* The registration has the only reference to the observer. What an outer call does with the members of an
  observer that is gone by then is not looked at: all calls have been made.
-/

namespace CefCore.Browser

open List Option

def utf8 (s : String) : List UInt8 := Utf8.encode s.toList

/-- A call of `CefJavaScriptResultCallback::OnComplete`. -/
structure Completion where
  success : Bool
  result : Option JsonValue
  error : List UInt8
  deriving DecidableEq

/-! ### What the client is told -/

section Completions

variable (read : List UInt8 → Option JsonDict)

def errorMessage (result : List UInt8) : List UInt8 :=
  if result.isEmpty then utf8 "JavaScript execution failed."
  else match read result with
    | none => result
    | some parsed =>
      match parsed.findString "message" with
      | some msg => utf8 msg
      | none => result

def exceptionMessage (exceptionDetails : JsonDict) : String :=
  match exceptionDetails.findDict "exception" with
  | some exceptionObj =>
    match exceptionObj.findString "description" with
    | some desc => desc
    | none => (exceptionObj.findString "value").getD "JavaScript exception"
  | none => (exceptionDetails.findString "text").getD "JavaScript exception"

/-- The call of `OnComplete` for a result that is a dictionary. -/
def parsedCompletion (parsed : JsonDict) : Completion :=
  match parsed.findDict "exceptionDetails" with
  | some exceptionDetails => ⟨false, none, utf8 (exceptionMessage exceptionDetails)⟩
  | none =>
    match parsed.findDict "result" with
    | some resultObj =>
      if resultObj.findString "type" = some "undefined" then ⟨true, none, []⟩
      else match resultObj.find? "value" with
        | some value => ⟨true, some value, []⟩
        | none =>
          -- A result without a value may have a description, as a function has.
          match resultObj.findString "description" with
          | some description => ⟨true, some (.scalar (.string description)), []⟩
          | none => ⟨true, none, []⟩
    | none => ⟨true, none, []⟩

/-- The call of `OnComplete` for the expected result. -/
def evalCompletion (success : Bool) (result : List UInt8) : Completion :=
  if !success then ⟨false, none, errorMessage read result⟩
  else if result.isEmpty then ⟨true, none, []⟩
  else match read result with
    | none => ⟨false, none, utf8 "Failed to parse CDP response."⟩
    | some parsed => parsedCompletion parsed

/-- The call of `OnComplete` when the agent is detached. -/
def detachedCompletion : Completion := ⟨false, none, utf8 "DevTools agent detached."⟩

end Completions

/-! ### The observer -/

/-- `EvalResultObserver`, with the calls of `OnComplete` so far. -/
structure EvalResultObserver where
  expectedMessageId : Int
  /-- `callback_` is set. -/
  callback : Bool := true
  /-- `registration_` is set: what happens is delivered to the observer. -/
  registration : Bool := true
  completions : List Completion := []

/-- What happens to the agent, as far as the observer does anything about it. -/
inductive DevToolsEvent where
  | methodResult (messageId : Int) (success : Bool) (result : List UInt8)
  | agentDetached

/-- Something that is delivered to an observer. If `OnComplete` is called for it, the client does
something that leads to more deliveries. -/
inductive Delivery where
  | mk (event : DevToolsEvent) (during : List Delivery)

namespace EvalResultObserver

variable (read : List UInt8 → Option JsonDict)

section

variable (o : EvalResultObserver)

/-- A call of `callback_`, in which the client does something. -/
def onComplete (completion : Completion)
    (client : EvalResultObserver → Option EvalResultObserver) : Option EvalResultObserver :=
  if o.callback then client { o with completions := o.completions ++ [completion] } else none

def onDevToolsMethodResult (messageId : Int) (success : Bool)
    (result : List UInt8) (client : EvalResultObserver → Option EvalResultObserver) :
    Option EvalResultObserver :=
  if messageId ≠ o.expectedMessageId then some o
  else do
    let o ← o.onComplete (evalCompletion read success result) client
    return { o with registration := false }

def onDevToolsAgentDetached
    (client : EvalResultObserver → Option EvalResultObserver) : Option EvalResultObserver :=
  if o.callback then do
    let o ← o.onComplete detachedCompletion client
    return { o with callback := false, registration := false }
  else
    some { o with registration := false }

def onEvent (event : DevToolsEvent)
    (client : EvalResultObserver → Option EvalResultObserver) : Option EvalResultObserver :=
  if !o.registration then some o
  else match event with
    | .methodResult messageId success result =>
      o.onDevToolsMethodResult read messageId success result client
    | .agentDetached => o.onDevToolsAgentDetached client

end

mutual

def deliver (o : EvalResultObserver) : Delivery → Option EvalResultObserver
  | .mk event during => o.onEvent read event fun o => o.deliverAll during

def deliverAll (o : EvalResultObserver) : List Delivery → Option EvalResultObserver
  | [] => some o
  | d :: ds => do
    let o ← o.deliver d
    o.deliverAll ds

end

end EvalResultObserver

/-! ### The call -/

/-- What a call of `ExecuteJavaScriptWithResult` leads to: it is done, or an observer is registered. -/
inductive EvalCall where
  | returned (completions : List Completion)
  | observing (observer : EvalResultObserver)

/-- The parameters of `Runtime.evaluate`. -/
def evaluateParams (code : String) : JsonDict :=
  let params := JsonDict.set [] "expression" (.scalar (.string code))
  let params := params.set "returnByValue" (.scalar (.boolean true))
  let params := params.set "awaitPromise" (.scalar (.boolean true))
  params.set "userGesture" (.scalar (.boolean true))

/-- `CefFrameHostImpl::ExecuteJavaScriptWithResult`, with `ExecuteDevToolsMethod` of the browser, if
there is one. -/
def executeJavaScriptWithResult (callback : Bool)
    (executeDevToolsMethod : Option (Int → String → JsonDict → Int)) (code : String) : EvalCall :=
  if !callback then .returned []
  else match executeDevToolsMethod with
    | none => .returned [⟨false, none, utf8 "Browser not available."⟩]
    | some executeDevToolsMethod =>
      let messageId := executeDevToolsMethod 0 "Runtime.evaluate" (evaluateParams code)
      if messageId = 0 then .returned [⟨false, none, utf8 "Failed to execute DevTools method."⟩]
      else .observing { expectedMessageId := messageId }

/-- The calls of `OnComplete` up to the end of some deliveries. -/
def EvalCall.completionsAfter (read : List UInt8 → Option JsonDict) (call : EvalCall)
    (ds : List Delivery) : Option (List Completion) :=
  match call with
  | .returned completions => some completions
  | .observing observer => (observer.deliverAll read ds).map EvalResultObserver.completions

/-! ### What the call is to do -/

/-- The event ends the wait of the observer: it is the expected result, or a detach. -/
def DevToolsEvent.completes (expectedMessageId : Int) : DevToolsEvent → Bool
  | .methodResult messageId _ _ => messageId = expectedMessageId
  | .agentDetached => true

/-- The call of `OnComplete` for an event that ends the wait. -/
def DevToolsEvent.completion (read : List UInt8 → Option JsonDict) : DevToolsEvent → Completion
  | .methodResult _ success result => evalCompletion read success result
  | .agentDetached => detachedCompletion

namespace Delivery

def event : Delivery → DevToolsEvent
  | mk event _ => event

/-- What is delivered during the call of `OnComplete`. -/
def during : Delivery → List Delivery
  | mk _ during => during

/-- The event ends the wait of the observer. -/
def completes (expectedMessageId : Int) (d : Delivery) : Bool := d.event.completes expectedMessageId

end Delivery

/-- **The call completes once**: `OnComplete` is called at most once, and for the first event that ends
the wait it is called. -/
structure CompletesOnce (read : List UInt8 → Option JsonDict) (call : EvalCall) (ds : List Delivery) :
    Prop where
  atMostOnce : ∃ calls, call.completionsAfter read ds = some calls ∧ calls.length ≤ 1
  atFirst : ∀ observer, call = .observing observer → ∀ pre d post, ds = pre ++ d :: post →
    (∀ e ∈ pre, e.completes observer.expectedMessageId = false) →
    d.completes observer.expectedMessageId = true →
      call.completionsAfter read pre = some [] ∧
        ∃ calls, call.completionsAfter read (pre ++ [d]) = some (d.event.completion read :: calls)

/-- Neither a detach nor the expected result is delivered during the call of `OnComplete` for the first
event that ends the wait. -/
def Undisturbed (expectedMessageId : Int) (ds : List Delivery) : Prop :=
  ∀ d, ds.find? (Delivery.completes expectedMessageId) = some d →
    ∀ e ∈ d.during, e.completes expectedMessageId = false

/-! ### Deliveries -/

namespace EvalResultObserver

variable {read : List UInt8 → Option JsonDict} {o : EvalResultObserver} {d : Delivery}
  {ds : List Delivery}

def Waiting (o : EvalResultObserver) : Prop := o.callback = true ∧ o.registration = true

lemma deliverAll_cons :
    o.deliverAll read (d :: ds) = (o.deliver read d).bind fun o => o.deliverAll read ds := rfl

lemma onEvent_of_not_registration (h : o.registration = false) {event : DevToolsEvent}
    {client : EvalResultObserver → Option EvalResultObserver} :
    o.onEvent read event client = some o := by
  cases event <;> simp [onEvent, h]

lemma deliverAll_of_not_registration (h : o.registration = false) :
    ∀ ds : List Delivery, o.deliverAll read ds = some o
  | [] => rfl
  | .mk event during :: ds => by
    rw [deliverAll_cons, deliver, onEvent_of_not_registration h, bind_some]
    exact deliverAll_of_not_registration h ds

lemma deliver_of_not_completes (h : d.completes o.expectedMessageId = false) :
    o.deliver read d = some o := by
  obtain ⟨event, during⟩ := d
  cases event with
  | agentDetached => exact Bool.noConfusion h
  | methodResult messageId success result =>
    have hid : messageId ≠ o.expectedMessageId := of_decide_eq_false h
    simp [deliver, onEvent, onDevToolsMethodResult, hid]

variable (read o) in
/-- The observer in the call of `OnComplete` for an event. -/
def completing (event : DevToolsEvent) : EvalResultObserver :=
  { o with completions := o.completions ++ [event.completion read] }

/-- **An event that ends the wait**: the client does something in `OnComplete`, and behind that nothing
is delivered any more. -/
lemma onEvent_of_completes (ho : o.Waiting) {event : DevToolsEvent}
    (h : event.completes o.expectedMessageId = true)
    (client : EvalResultObserver → Option EvalResultObserver) {o' : EvalResultObserver}
    (hclient : client (o.completing read event) = some o') :
    ∃ o'', o.onEvent read event client = some o'' ∧ o''.registration = false ∧
      o''.completions = o'.completions := by
  cases event with
  | agentDetached =>
    have honComplete : o.onComplete detachedCompletion client = some o' := (if_pos ho.1).trans hclient
    refine ⟨{ o' with callback := false, registration := false }, ?_, rfl, rfl⟩
    simp [onEvent, onDevToolsAgentDetached, ho.1, ho.2, honComplete]
  | methodResult messageId success result =>
    have honComplete : o.onComplete (evalCompletion read success result) client = some o' :=
      (if_pos ho.1).trans hclient
    have hid : messageId = o.expectedMessageId := of_decide_eq_true h
    refine ⟨{ o' with registration := false }, ?_, rfl, rfl⟩
    simp [onEvent, onDevToolsMethodResult, ho.2, hid, honComplete]

lemma deliverAll_of_not_completes : ∀ {ds : List Delivery},
    (∀ d ∈ ds, d.completes o.expectedMessageId = false) → o.deliverAll read ds = some o
  | [], _ => rfl
  | d :: ds, h => by
    rw [deliverAll_cons, deliver_of_not_completes (h d mem_cons_self), bind_some]
    exact deliverAll_of_not_completes fun e he => h e (mem_cons_of_mem d he)

variable (read) in
/-- The first call of `OnComplete` is the one for the event of `d`, and it is the only one if nothing
that ends the wait is delivered during it. -/
def CompletedBy (o o' : EvalResultObserver) (d : Delivery) : Prop :=
  o'.registration = false ∧ ∃ calls,
    o'.completions = o.completions ++ d.event.completion read :: calls ∧
      (calls = [] ↔ ∀ e ∈ d.during, e.completes o.expectedMessageId = false)

variable (read)

mutual

lemma exists_deliver : ∀ (d : Delivery) (o : EvalResultObserver), o.Waiting →
    d.completes o.expectedMessageId = true → ∃ o', o.deliver read d = some o' ∧ CompletedBy read o o' d
  | .mk event during, o, ho, h => by
    have hwaiting : (o.completing read event).Waiting := ho
    have hevent : event.completes o.expectedMessageId = true := h
    cases hfind : during.find? (Delivery.completes o.expectedMessageId) with
    | none =>
      have hnone : ∀ e ∈ during, e.completes o.expectedMessageId = false := fun e he =>
        Bool.eq_false_iff.mpr (find?_eq_none.mp hfind e he)
      obtain ⟨o'', hdeliver, hreg, hcalls⟩ := onEvent_of_completes ho hevent
        (fun o => o.deliverAll read during) (deliverAll_of_not_completes hnone)
      exact ⟨o'', hdeliver, hreg, [], hcalls, iff_of_true rfl hnone⟩
    | some e =>
      obtain ⟨o', hclient, -, calls, hnested, -⟩ :=
        exists_deliverAll during (o.completing read event) hwaiting e hfind
      obtain ⟨o'', hdeliver, hreg, hcalls⟩ := onEvent_of_completes ho hevent
        (fun o => o.deliverAll read during) hclient
      refine ⟨o'', hdeliver, hreg, e.event.completion read :: calls, ?_,
        iff_of_false nofun fun hnone => ?_⟩
      · rw [hcalls, hnested, completing, append_assoc]
        rfl
      · have he := hnone e (mem_of_find?_eq_some hfind)
        exact Bool.noConfusion (he.symm.trans (find?_some hfind))

lemma exists_deliverAll : ∀ (ds : List Delivery) (o : EvalResultObserver), o.Waiting → ∀ d,
    ds.find? (Delivery.completes o.expectedMessageId) = some d →
      ∃ o', o.deliverAll read ds = some o' ∧ CompletedBy read o o' d
  | [], _, _, _, hfind => nomatch hfind
  | d :: ds, o, ho, d', hfind => by
    rw [find?_cons] at hfind
    rw [deliverAll_cons]
    cases h : d.completes o.expectedMessageId with
    | true =>
      rw [h] at hfind
      cases hfind
      obtain ⟨o', hdeliver, hcompleted⟩ := exists_deliver d o ho h
      rw [hdeliver, bind_some, deliverAll_of_not_registration hcompleted.1]
      exact ⟨o', rfl, hcompleted⟩
    | false =>
      rw [h] at hfind
      rw [deliver_of_not_completes h, bind_some]
      exact exists_deliverAll ds o ho d' hfind

end

end EvalResultObserver

/-! ### Calls -/

section Calls

open EvalResultObserver

variable {read : List UInt8 → Option JsonDict} {o : EvalResultObserver} {d : Delivery}
  {pre post ds : List Delivery}

lemma find?_completes_append {id : Int} (hpre : ∀ e ∈ pre, e.completes id = false)
    (hd : d.completes id = true) : (pre ++ d :: post).find? (Delivery.completes id) = some d := by
  have hnone : pre.find? (Delivery.completes id) = none :=
    find?_eq_none.mpr fun e he => Bool.eq_false_iff.mp (hpre e he)
  rw [find?_append, hnone, none_or, find?_cons, hd]

variable (read) in
lemma exists_completionsAfter (ho : o.Waiting) (hcalls : o.completions = [])
    (hd : ds.find? (Delivery.completes o.expectedMessageId) = some d) :
    ∃ calls, (EvalCall.observing o).completionsAfter read ds =
        some (d.event.completion read :: calls) ∧
      (calls = [] ↔ ∀ e ∈ d.during, e.completes o.expectedMessageId = false) := by
  obtain ⟨o', hdeliver, -, calls, heq, hiff⟩ := exists_deliverAll read ds o ho d hd
  refine ⟨calls, ?_, hiff⟩
  rw [EvalCall.completionsAfter, hdeliver, map_some, heq, hcalls, nil_append]

lemma completionsAfter_of_not_completes (hcalls : o.completions = [])
    (h : ∀ e ∈ ds, e.completes o.expectedMessageId = false) :
    (EvalCall.observing o).completionsAfter read ds = some [] := by
  rw [EvalCall.completionsAfter, deliverAll_of_not_completes h, map_some, hcalls]

lemma completesOnce_observing_iff (ho : o.Waiting) (hcalls : o.completions = []) :
    CompletesOnce read (.observing o) ds ↔ Undisturbed o.expectedMessageId ds := by
  constructor
  · rintro ⟨⟨calls, hcompletions, hlength⟩, -⟩ d hd
    obtain ⟨rest, hrest, hiff⟩ := exists_completionsAfter read ho hcalls hd
    obtain rfl := some.inj (hcompletions.symm.trans hrest)
    exact hiff.mp (length_eq_zero_iff.mp (Nat.le_zero.mp (Nat.le_of_succ_le_succ hlength)))
  · intro h
    refine ⟨?_, ?_⟩
    · cases hfind : ds.find? (Delivery.completes o.expectedMessageId) with
      | none =>
        have hnone : ∀ e ∈ ds, e.completes o.expectedMessageId = false := fun e he =>
          Bool.eq_false_iff.mpr (find?_eq_none.mp hfind e he)
        exact ⟨[], completionsAfter_of_not_completes hcalls hnone, Nat.zero_le 1⟩
      | some d =>
        obtain ⟨rest, hrest, hiff⟩ := exists_completionsAfter read ho hcalls hfind
        refine ⟨_, hrest, ?_⟩
        rw [hiff.mpr (h d hfind)]
        exact Nat.le_refl 1
    · rintro observer hobserver pre d post - hpre hd
      obtain rfl := EvalCall.observing.inj hobserver
      obtain ⟨rest, hrest, -⟩ := exists_completionsAfter read ho hcalls
        (find?_completes_append hpre hd)
      exact ⟨completionsAfter_of_not_completes hcalls hpre, rest, hrest⟩

end Calls

lemma executeJavaScriptWithResult_spec (callback : Bool)
    (executeDevToolsMethod : Option (Int → String → JsonDict → Int)) (code : String) :
    (∃ calls, executeJavaScriptWithResult callback executeDevToolsMethod code = .returned calls ∧
        calls.length ≤ 1) ∨
      ∃ o, executeJavaScriptWithResult callback executeDevToolsMethod code = .observing o ∧
        o.Waiting ∧ o.completions = [] := by
  unfold executeJavaScriptWithResult
  split
  · exact .inl ⟨_, rfl, Nat.zero_le 1⟩
  · split
    · exact .inl ⟨_, rfl, Nat.le_refl 1⟩
    · rename_i execute
      by_cases hid : execute 0 "Runtime.evaluate" (evaluateParams code) = 0
      · exact .inl ⟨_, if_pos hid, Nat.le_refl 1⟩
      · exact .inr ⟨_, if_neg hid, ⟨rfl, rfl⟩, rfl⟩

/-- **`ExecuteJavaScriptWithResult` completes once** if and only if, during the call of `OnComplete`
for the first event that ends the wait of its observer, neither a detach nor the expected result is
delivered.

**Proof sketch.** The observer ends its registration behind the call of `OnComplete`, and waits
until then as before. -/
theorem executeJavaScriptWithResult_completesOnce_iff (read : List UInt8 → Option JsonDict)
    (callback : Bool) (executeDevToolsMethod : Option (Int → String → JsonDict → Int)) (code : String)
    (ds : List Delivery) :
    CompletesOnce read (executeJavaScriptWithResult callback executeDevToolsMethod code) ds ↔
      ∀ observer, executeJavaScriptWithResult callback executeDevToolsMethod code =
        .observing observer → Undisturbed observer.expectedMessageId ds := by
  rcases executeJavaScriptWithResult_spec callback executeDevToolsMethod code with
    ⟨calls, hcall, hlength⟩ | ⟨o, hcall, ho, hcalls⟩
  · rw [hcall]
    exact iff_of_true ⟨⟨calls, rfl, hlength⟩, nofun⟩ nofun
  · rw [hcall, completesOnce_observing_iff ho hcalls]
    constructor
    · intro h observer hobserver
      obtain rfl := EvalCall.observing.inj hobserver
      exact h
    · intro h
      exact h o rfl

/-- **The agent is detached in `OnComplete`**: the result of a script is `undefined`, and the client is
told so, and then that the agent has been detached. -/
theorem detached_in_onComplete :
    let read := fun _ => some [("result", JsonValue.dict [("type", .scalar (.string "undefined"))])]
    let call := executeJavaScriptWithResult true (some fun _ _ _ => 1) "void 0"
    let result := utf8 "\x7b\"result\":\x7b\"type\":\"undefined\"\x7d\x7d"
    let ds := [Delivery.mk (.methodResult 1 true result) [.mk .agentDetached []]]
    call.completionsAfter read ds = some [⟨true, none, []⟩, detachedCompletion] ∧
      ¬ CompletesOnce read call ds := by
  intro read call result ds
  have hcalls : call.completionsAfter read ds = some [⟨true, none, []⟩, detachedCompletion] := by
    decide
  refine ⟨hcalls, fun h => ?_⟩
  obtain ⟨calls, heq, hlength⟩ := h.atMostOnce
  obtain rfl := some.inj (heq.symm.trans hcalls)
  exact absurd hlength (by decide)

end CefCore.Browser
