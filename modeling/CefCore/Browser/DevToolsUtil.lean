import CefCore.Foundations.Decimal
import CefCore.Foundations.StringView

/-!
# The parser of DevTools messages

`ProtocolParser` of `libcef/browser/devtools/devtools_util.cc` finds the parts of a DevTools message: of
an event or of a result. It does not look into the dictionaries in a message, and works with positions
in the text.

## Main results

* `initializeFrom_spec`: what is accepted, and the parts that are found.

## Implementation notes

The number of a result is read by a function of the base library, which is a parameter: it gives a number
also when it fails. A part of the text that is out of its range ends the call without a result.
-/

namespace CefCore.Browser.DevToolsUtil

open StringView List Option Bool

abbrev Bytes := List UInt8

inductive Status where
  | uninitialized
  | event
  | result
  | failure
  deriving DecidableEq

structure ProtocolParser where
  method : Bytes := []
  messageId : Int := 0
  success : Bool := false
  params : Bytes := []
  status : Status := .uninitialized
  deriving DecidableEq

def isValidDictionary (str : Bytes) (allowEmpty : Bool) : Bool :=
  decide ((if allowEmpty then 2 else 3) ≤ str.length) && str[0]? = some 123 &&
    str[str.length - 1]? = some 125

def isValidMessage (message : StringView) : Bool := isValidDictionary message.bytes false

/-! ### Events -/

def kMethodStart : Bytes := literal "\x7b\"method\":\""

def kMethodEnd : UInt8 := 34

def kParamsStart : Bytes := literal ",\"params\":"

def parseEvent (message : Bytes) (p : ProtocolParser) : Option (Bool × ProtocolParser) :=
  if !kMethodStart.isPrefixOf message then some (false, p)
  else
    match find message kMethodEnd kMethodStart.length with
    | none => some (false, p)
    | some methodEnd => do
      let method ← substr message kMethodStart.length (sizeSub methodEnd kMethodStart.length)
      let p := { p with method := method }
      if method.isEmpty then pure (false, p)
      else
        let remainderStart := methodEnd + 1
        if remainderStart = sizeSub message.length 1 then
          -- No more contents.
          pure (true, { p with params := [] })
        else
          let remainder ← substr message remainderStart npos
          if kParamsStart.isPrefixOf remainder then
            -- Stop immediately before the message closing bracket.
            let remainderStart := remainderStart + kParamsStart.length
            let params ← substr message remainderStart
              (sizeSub (sizeSub message.length 1) remainderStart)
            pure (isValidDictionary params true, { p with params := params })
          else
            -- Invalid format.
            pure (false, p)

/-! ### Results -/

def kIdStart : Bytes := literal "\x7b\"id\":"

def kIdEnd : UInt8 := 44

def kResultStart : Bytes := literal "\"result\":"

def kErrorStart : Bytes := literal "\"error\":"

section

variable (stringToInt : Bytes → Int × Bool)

/-- The end of `ParseResult`: the part behind the beginning of the dictionary. -/
def parseDictionary (message : Bytes) (remainderStart : Nat) (success : Bool) (p : ProtocolParser) :
    Option (Bool × ProtocolParser) := do
  -- Stop immediately before the message closing bracket.
  let result ← substr message remainderStart (sizeSub (sizeSub message.length 1) remainderStart)
  pure (isValidDictionary result true, { p with params := result, success := success })

def parseResult (message : Bytes) (p : ProtocolParser) : Option (Bool × ProtocolParser) :=
  if !kIdStart.isPrefixOf message then some (false, p)
  else
    match find message kIdEnd kIdStart.length with
    | none => some (false, p)
    | some idEnd => do
      let idStr ← substr message kIdStart.length (sizeSub idEnd kIdStart.length)
      if idStr.isEmpty then pure (false, p)
      else
        let p := { p with messageId := (stringToInt idStr).1 }
        if !(stringToInt idStr).2 then pure (false, p)
        else
          let remainderStart := idEnd + 1
          let remainder ← substr message remainderStart npos
          if kResultStart.isPrefixOf remainder then
            parseDictionary message (remainderStart + kResultStart.length) true p
          else if kErrorStart.isPrefixOf remainder then
            parseDictionary message (remainderStart + kErrorStart.length) false p
          else
            -- Invalid format.
            pure (false, p)

/-- `ProtocolParser::Initialize`. -/
def initializeFrom (message : StringView) (p : ProtocolParser) : Option (Bool × ProtocolParser) :=
  if p.status ≠ .uninitialized then some (false, p)
  else do
    let (isEvent, p) ← parseEvent message.bytes p
    if isEvent then pure (true, { p with status := .event })
    else
      let (isResult, p) ← parseResult stringToInt message.bytes p
      if isResult then pure (true, { p with status := .result })
      else pure (true, { p with status := .failure })

end

/-! ### The messages -/

/-- A text of at least two bytes between braces. -/
structure IsDictionary (d : Bytes) : Prop where
  two_le : 2 ≤ d.length
  first : d.head? = some 123
  last : d.getLast? = some 125

/-- An event, with its method and its parameters, which may be missing. -/
structure IsEvent (message m d : Bytes) : Prop where
  method_ne : m ≠ []
  method_free : kMethodEnd ∉ m
  message_eq : (d = [] ∧ message = kMethodStart ++ m ++ [34] ++ [125]) ∨
    (IsDictionary d ∧ message = kMethodStart ++ m ++ [34] ++ kParamsStart ++ d ++ [125])

def IsResult (stringToInt : Bytes → Int × Bool) (message : Bytes) (i : Int) (success : Bool)
    (d : Bytes) : Prop :=
  IsDictionary d ∧ ∃ n, kIdEnd ∉ n ∧ stringToInt n = (i, true) ∧
    message = kIdStart ++ n ++ [44] ++ (if success then kResultStart else kErrorStart) ++ d ++ [125]

/-- What a parser says about a message. -/
structure Reports (stringToInt : Bytes → Int × Bool) (message : Bytes) (p : ProtocolParser) :
    Prop where
  event_iff : ∀ m d, p.status = .event ∧ p.method = m ∧ p.params = d ↔ IsEvent message m d
  result_iff : ∀ i success d,
    p.status = .result ∧ p.messageId = i ∧ p.success = success ∧ p.params = d ↔
      IsResult stringToInt message i success d
  failure_iff : p.status = .failure ↔
    (∀ m d, ¬ IsEvent message m d) ∧ ∀ i success d, ¬ IsResult stringToInt message i success d

variable {message m r d : Bytes} {p : ProtocolParser}

lemma isValidDictionary_iff : isValidDictionary d true = true ↔ IsDictionary d := by
  rw [isValidDictionary, if_pos rfl, and_eq_true, and_eq_true, decide_eq_true_eq,
    decide_eq_true_eq, decide_eq_true_eq, ← head?_eq_getElem?, ← getLast?_eq_getElem?]
  exact ⟨fun h => ⟨h.1.1, h.1.2, h.2⟩, fun h => ⟨⟨h.1, h.2⟩, h.3⟩⟩

lemma getLast?_of_isValidMessage {message : StringView} (h : isValidMessage message = true) :
    message.bytes.getLast? = some 125 := by
  rw [isValidMessage, isValidDictionary, and_eq_true, decide_eq_true_eq,
    ← getLast?_eq_getElem?] at h
  exact h.2

lemma eq_or_first (c : UInt8) (r : Bytes) : c ∉ r ∨ ∃ m t, c ∉ m ∧ r = m ++ c :: t := by
  by_cases h : c ∈ r
  · obtain ⟨m, t, rfl, hm⟩ := eq_append_cons_of_mem h
    exact .inr ⟨m, t, hm, rfl⟩
  · exact .inl h

lemma isPrefixOf_append (a b : Bytes) : a.isPrefixOf (a ++ b) = true :=
  isPrefixOf_iff_prefix.mpr (prefix_append a b)

lemma behind_eq_iff {a : Bytes} (c : UInt8) :
    a.length + m.length + 1 = sizeSub (a ++ (m ++ c :: r)).length 1 ↔ r.length = 1 := by
  have hlength : (a ++ (m ++ c :: r)).length = a.length + m.length + 1 + r.length := by
    simp only [length_append, length_cons]
    omega
  rw [hlength, sizeSub, if_pos (by omega)]
  omega

lemma substr_behind {a : Bytes} (c : UInt8) :
    substr (a ++ (m ++ c :: r)) (a.length + m.length + 1) npos = some r := by
  have hassoc : a ++ (m ++ c :: r) = (a ++ m ++ [c]) ++ r := by simp
  have hlength : a.length + m.length + 1 = (a ++ m ++ [c]).length := by
    simp only [length_append, length_singleton]
  rw [hassoc, hlength, substr_rest]

lemma substr_dictionary {a k t : Bytes} {c : UInt8} (hr : k ++ t = r)
    (hlt : (a ++ (m ++ c :: r)).length < npos) :
    substr (a ++ (m ++ c :: r)) (a.length + m.length + 1 + k.length)
      (sizeSub (sizeSub (a ++ (m ++ c :: r)).length 1) (a.length + m.length + 1 + k.length)) =
        some t.dropLast := by
  have hassoc : a ++ (m ++ c :: r) = (a ++ m ++ [c] ++ k) ++ t := by simp [← hr]
  have hlength : a.length + m.length + 1 + k.length = (a ++ m ++ [c] ++ k).length := by
    simp only [length_append, length_singleton]
  rw [hassoc] at hlt ⊢
  rw [hlength, substr_init hlt (by simp)]

lemma parseEvent_append (hm : kMethodEnd ∉ m)
    (hlt : (kMethodStart ++ (m ++ kMethodEnd :: r)).length < npos) :
    parseEvent (kMethodStart ++ (m ++ kMethodEnd :: r)) p =
      if m = [] then some (false, { p with method := m })
      else if r.length = 1 then some (true, { p with method := m, params := [] })
      else if kParamsStart <+: r then
        some (isValidDictionary (r.drop kParamsStart.length).dropLast true,
          { p with method := m, params := (r.drop kParamsStart.length).dropLast })
      else some (false, { p with method := m }) := by
  have hmethod : m.length < npos := by
    simp only [length_append] at hlt
    omega
  rw [parseEvent, isPrefixOf_append, find_append hm]
  dsimp only
  rw [substr_append hmethod, if_neg (by decide), bind_eq_bind, bind_some]
  by_cases hempty : m = []
  · rw [if_pos hempty, if_pos (isEmpty_iff.mpr hempty)]
    rfl
  · rw [if_neg hempty, if_neg fun h => hempty (isEmpty_iff.mp h)]
    by_cases hone : r.length = 1
    · rw [if_pos hone, if_pos ((behind_eq_iff kMethodEnd).mpr hone)]
      rfl
    · rw [if_neg hone, if_neg fun h => hone ((behind_eq_iff kMethodEnd).mp h), substr_behind,
        bind_some]
      by_cases hparams : kParamsStart <+: r
      · rw [if_pos hparams, if_pos <| isPrefixOf_iff_prefix.mpr hparams]
        obtain ⟨t, rfl⟩ := hparams
        rw [substr_dictionary rfl hlt, drop_left]
        rfl
      · rw [if_neg hparams, if_neg fun h => hparams <| isPrefixOf_iff_prefix.mp h]
        rfl

lemma eq_or_start (start : Bytes) (c : UInt8) (message : Bytes) : start.isPrefixOf message = false ∨
    (∃ text, c ∉ text ∧ message = start ++ text) ∨
      ∃ m r, c ∉ m ∧ message = start ++ (m ++ c :: r) := by
  cases hbegin : start.isPrefixOf message with
  | false => exact .inl rfl
  | true =>
    obtain ⟨text, rfl⟩ := isPrefixOf_iff_prefix.mp hbegin
    rcases eq_or_first c text with hnone | ⟨m, r, hm, rfl⟩
    · exact .inr (.inl ⟨text, hnone, rfl⟩)
    · exact .inr (.inr ⟨m, r, hm, rfl⟩)

lemma parseEvent_of_missing (h : kMethodStart.isPrefixOf message = false ∨
    ∃ text, kMethodEnd ∉ text ∧ message = kMethodStart ++ text) :
    parseEvent message p = some (false, p) := by
  rw [parseEvent]
  rcases h with hstart | ⟨text, hnone, rfl⟩
  · rw [if_pos (by rw [hstart]; rfl)]
  · rw [isPrefixOf_append, find_eq_none hnone]
    rfl

lemma parseEvent_total (message : StringView) (p : ProtocolParser) : ∃ b m d,
    parseEvent message.bytes p = some (b, { p with method := m, params := d }) := by
  rcases eq_or_start kMethodStart kMethodEnd message.bytes with h | h | ⟨m, r, hm, heq⟩
  · exact ⟨false, p.method, p.params, parseEvent_of_missing (.inl h)⟩
  · exact ⟨false, p.method, p.params, parseEvent_of_missing (.inr h)⟩
  · rw [heq, parseEvent_append hm (heq ▸ message.length_lt)]
    split
    · exact ⟨_, _, _, rfl⟩
    · split
      · exact ⟨_, _, _, rfl⟩
      · split
        · exact ⟨_, _, _, rfl⟩
        · exact ⟨_, _, _, rfl⟩

lemma getLast?_behind {a : Bytes} {c : UInt8} (h : (a ++ (m ++ c :: r)).getLast? = some 125)
    (hr : r ≠ []) : r.getLast? = some 125 := by
  have hassoc : a ++ (m ++ c :: r) = (a ++ m ++ [c]) ++ r := by simp
  rwa [hassoc, getLast?_append_of_ne_nil _ hr] at h

lemma eq_append_bracket {k : Bytes} (hk : k <+: r) (hr : r.getLast? = some 125)
    (hd : IsDictionary (r.drop k.length).dropLast) :
    r = k ++ (r.drop k.length).dropLast ++ [125] := by
  obtain ⟨t, rfl⟩ := hk
  rw [drop_left] at hd ⊢
  have ht : t ≠ [] := by
    rintro rfl
    exact absurd hd.two_le (by decide)
  rw [getLast?_append_of_ne_nil _ ht] at hr
  rw [append_assoc, dropLast_append_getLast? 125 hr]

/-- **`ParseEvent` accepts exactly the events**, and finds their parts. -/
theorem parseEvent_iff {message : StringView} (hlast : message.bytes.getLast? = some 125) :
    parseEvent message.bytes p = some (true, { p with method := m, params := d }) ↔
      IsEvent message.bytes m d := by
  constructor
  · intro h
    rcases eq_or_start kMethodStart kMethodEnd message.bytes with hnot | hnot | ⟨m', r, hm, heq⟩
    · exact nomatch (parseEvent_of_missing (.inl hnot)).symm.trans h
    · exact nomatch (parseEvent_of_missing (.inr hnot)).symm.trans h
    · rw [heq] at hlast
      rw [heq, parseEvent_append hm (heq ▸ message.length_lt)] at h
      split at h
      · exact nomatch h
      · rename_i hempty
        split at h
        · rename_i hone
          obtain ⟨x, rfl⟩ := length_eq_one_iff.mp hone
          have hx : x = 125 := some.inj (getLast?_behind hlast (cons_ne_nil x []))
          simp only [some.injEq, Prod.mk.injEq, ProtocolParser.mk.injEq] at h
          obtain ⟨-, rfl, -, -, rfl, -⟩ := h
          refine ⟨hempty, hm, .inl ⟨rfl, ?_⟩⟩
          rw [heq, hx]
          simp [kMethodEnd]
        · split at h
          · rename_i hparams
            simp only [some.injEq, Prod.mk.injEq, ProtocolParser.mk.injEq] at h
            obtain ⟨hvalid, rfl, -, -, rfl, -⟩ := h
            have hd := isValidDictionary_iff.mp hvalid
            have hr : r ≠ [] := by
              rintro rfl
              exact absurd (prefix_nil.mp hparams) (by decide)
            have hshape := eq_append_bracket hparams (getLast?_behind hlast hr) hd
            refine ⟨hempty, hm, .inr ⟨hd, ?_⟩⟩
            rw [heq]
            nth_rewrite 1 [hshape]
            simp [kMethodEnd]
          · exact nomatch h
  · rintro ⟨hempty, hm, ⟨rfl, heq⟩ | ⟨hd, heq⟩⟩
    · have hshape : message.bytes = kMethodStart ++ (m ++ kMethodEnd :: [125]) := by
        rw [heq]
        simp [kMethodEnd]
      rw [hshape, parseEvent_append hm (hshape ▸ message.length_lt), if_neg hempty,
        if_pos length_singleton]
    · have hshape : message.bytes =
          kMethodStart ++ (m ++ kMethodEnd :: (kParamsStart ++ (d ++ [125]))) := by
        rw [heq]
        simp [kMethodEnd]
      have hone : (kParamsStart ++ (d ++ [125])).length ≠ 1 := by
        have htwo := hd.two_le
        simp only [length_append]
        omega
      rw [hshape, parseEvent_append hm (hshape ▸ message.length_lt), if_neg hempty, if_neg hone,
        if_pos (prefix_append _ _), drop_left, dropLast_concat,
        isValidDictionary_iff.mpr hd]

section

variable {stringToInt : Bytes → Int × Bool} {n : Bytes} {i : Int} {success : Bool}

lemma parseResult_append (hn : kIdEnd ∉ n) (hlt : (kIdStart ++ (n ++ kIdEnd :: r)).length < npos) :
    parseResult stringToInt (kIdStart ++ (n ++ kIdEnd :: r)) p =
      if n = [] then some (false, p)
      else if (stringToInt n).2 = false then some (false, { p with messageId := (stringToInt n).1 })
      else if kResultStart <+: r then
        some (isValidDictionary (r.drop kResultStart.length).dropLast true,
          { p with
            messageId := (stringToInt n).1
            success := true
            params := (r.drop kResultStart.length).dropLast })
      else if kErrorStart <+: r then
        some (isValidDictionary (r.drop kErrorStart.length).dropLast true,
          { p with
            messageId := (stringToInt n).1
            success := false
            params := (r.drop kErrorStart.length).dropLast })
      else some (false, { p with messageId := (stringToInt n).1 }) := by
  have hnumber : n.length < npos := by
    simp only [length_append] at hlt
    omega
  rw [parseResult, isPrefixOf_append, find_append hn]
  dsimp only
  rw [substr_append hnumber, if_neg (by decide), bind_eq_bind, bind_some]
  by_cases hempty : n = []
  · rw [if_pos hempty, if_pos (isEmpty_iff.mpr hempty)]
    rfl
  · rw [if_neg hempty, if_neg fun h => hempty (isEmpty_iff.mp h)]
    cases hint : (stringToInt n).2 with
    | false => rfl
    | true =>
      rw [if_neg (by decide), if_neg (by decide), substr_behind, bind_some]
      by_cases hresult : kResultStart <+: r
      · rw [if_pos hresult, if_pos <| isPrefixOf_iff_prefix.mpr hresult, parseDictionary]
        obtain ⟨t, rfl⟩ := hresult
        rw [substr_dictionary rfl hlt, drop_left]
        rfl
      · rw [if_neg hresult, if_neg fun h => hresult <| isPrefixOf_iff_prefix.mp h]
        by_cases herror : kErrorStart <+: r
        · rw [if_pos herror, if_pos <| isPrefixOf_iff_prefix.mpr herror, parseDictionary]
          obtain ⟨t, rfl⟩ := herror
          rw [substr_dictionary rfl hlt, drop_left]
          rfl
        · rw [if_neg herror, if_neg fun h => herror <| isPrefixOf_iff_prefix.mp h]
          rfl

lemma parseResult_of_missing (h : kIdStart.isPrefixOf message = false ∨
    ∃ text, kIdEnd ∉ text ∧ message = kIdStart ++ text) :
    parseResult stringToInt message p = some (false, p) := by
  rw [parseResult]
  rcases h with hstart | ⟨text, hnone, rfl⟩
  · rw [if_pos (by rw [hstart]; rfl)]
  · rw [isPrefixOf_append, find_eq_none hnone]
    rfl

lemma parseResult_total (message : StringView) (p : ProtocolParser) : ∃ b i success d,
    parseResult stringToInt message.bytes p =
      some (b, { p with messageId := i, success := success, params := d }) := by
  rcases eq_or_start kIdStart kIdEnd message.bytes with h | h | ⟨n, r, hn, heq⟩
  · exact ⟨false, p.messageId, p.success, p.params, parseResult_of_missing (.inl h)⟩
  · exact ⟨false, p.messageId, p.success, p.params, parseResult_of_missing (.inr h)⟩
  · rw [heq, parseResult_append hn (heq ▸ message.length_lt)]
    split
    · exact ⟨_, _, _, _, rfl⟩
    · split
      · exact ⟨_, _, _, _, rfl⟩
      · split
        · exact ⟨_, _, _, _, rfl⟩
        · split
          · exact ⟨_, _, _, _, rfl⟩
          · exact ⟨_, _, _, _, rfl⟩

lemma not_kErrorStart (h : kResultStart <+: r) : ¬ kErrorStart <+: r := by
  intro herror
  have hbegin : kErrorStart <+: kResultStart :=
    prefix_of_prefix_length_le herror h (by decide)
  exact absurd hbegin (by decide)

lemma isResult_of_prefix {k : Bytes} (hk : k = if success then kResultStart else kErrorStart)
    (hlast : (kIdStart ++ (n ++ kIdEnd :: r)).getLast? = some 125) (hn : kIdEnd ∉ n)
    (hint : (stringToInt n).2 ≠ false) (hbegin : k <+: r)
    (hvalid : isValidDictionary (r.drop k.length).dropLast true = true) :
    IsResult stringToInt (kIdStart ++ (n ++ kIdEnd :: r)) (stringToInt n).1 success
      (r.drop k.length).dropLast := by
  have hd := isValidDictionary_iff.mp hvalid
  have hr : r ≠ [] := by
    rintro rfl
    rw [prefix_nil.mp hbegin] at hk
    cases success <;> exact absurd hk (by decide)
  have hshape := eq_append_bracket hbegin (getLast?_behind hlast hr) hd
  refine ⟨hd, n, hn, Prod.ext rfl (of_not_eq_false hint), ?_⟩
  rw [← hk]
  nth_rewrite 1 [hshape]
  simp [kIdEnd]

/-- **`ParseResult` accepts exactly the results**, and finds their parts. -/
theorem parseResult_iff {message : StringView} (hempty : (stringToInt []).2 = false)
    (hlast : message.bytes.getLast? = some 125) :
    parseResult stringToInt message.bytes p =
        some (true, { p with messageId := i, success := success, params := d }) ↔
      IsResult stringToInt message.bytes i success d := by
  constructor
  · intro h
    rcases eq_or_start kIdStart kIdEnd message.bytes with hnot | hnot | ⟨n, r, hn, heq⟩
    · exact nomatch (parseResult_of_missing (.inl hnot)).symm.trans h
    · exact nomatch (parseResult_of_missing (.inr hnot)).symm.trans h
    · rw [heq, parseResult_append hn (heq ▸ message.length_lt)] at h
      rw [heq] at hlast ⊢
      split at h
      · exact nomatch h
      · split at h
        · exact nomatch h
        · rename_i hint
          split at h
          · rename_i hbegin
            simp only [some.injEq, Prod.mk.injEq, ProtocolParser.mk.injEq] at h
            obtain ⟨hvalid, -, rfl, rfl, rfl, -⟩ := h
            exact isResult_of_prefix rfl hlast hn hint hbegin hvalid
          · split at h
            · rename_i hbegin
              simp only [some.injEq, Prod.mk.injEq, ProtocolParser.mk.injEq] at h
              obtain ⟨hvalid, -, rfl, rfl, rfl, -⟩ := h
              exact isResult_of_prefix rfl hlast hn hint hbegin hvalid
            · exact nomatch h
  · rintro ⟨hd, n, hn, hint, heq⟩
    have hshape : message.bytes = kIdStart ++ (n ++ kIdEnd ::
        ((if success then kResultStart else kErrorStart) ++ (d ++ [125]))) := by
      rw [heq]
      simp [kIdEnd]
    have hne : n ≠ [] := by
      rintro rfl
      rw [hint] at hempty
      exact nomatch hempty
    rw [hshape, parseResult_append hn (hshape ▸ message.length_lt), if_neg hne, hint,
      if_neg Bool.false_ne_true.symm]
    cases success with
    | true =>
      rw [if_pos rfl, if_pos (prefix_append _ _), drop_left, dropLast_concat,
        isValidDictionary_iff.mpr hd]
    | false =>
      have hbegin : kErrorStart <+: kErrorStart ++ (d ++ [125]) := prefix_append _ _
      rw [if_neg Bool.false_ne_true, if_neg fun h => not_kErrorStart h hbegin, if_pos hbegin,
        drop_left, dropLast_concat, isValidDictionary_iff.mpr hd]

lemma not_isEvent_of_isResult (h : IsResult stringToInt message i success d) (m e : Bytes) :
    ¬ IsEvent message m e := by
  obtain ⟨-, n, -, -, hresult⟩ := h
  rintro ⟨-, -, ⟨-, hevent⟩ | ⟨-, hevent⟩⟩
  · have hsecond := congrArg (fun text => text[2]?) (hresult.symm.trans hevent)
    exact absurd (some.inj hsecond) (by decide)
  · have hsecond := congrArg (fun text => text[2]?) (hresult.symm.trans hevent)
    exact absurd (some.inj hsecond) (by decide)

lemma initializeFrom_event {message : StringView} {q : ProtocolParser} (hp : p.status = .uninitialized)
    (h : parseEvent message.bytes p = some (true, q)) :
    initializeFrom stringToInt message p = some (true, { q with status := .event }) := by
  rw [initializeFrom, if_neg (not_not_intro hp), h]
  rfl

lemma initializeFrom_result {message : StringView} {q q' : ProtocolParser} {b : Bool}
    (hp : p.status = .uninitialized) (h : parseEvent message.bytes p = some (false, q))
    (h' : parseResult stringToInt message.bytes q = some (b, q')) :
    initializeFrom stringToInt message p =
      some (true, { q' with status := if b then .result else .failure }) := by
  rw [initializeFrom, if_neg (not_not_intro hp), h, bind_eq_bind, bind_some]
  dsimp only
  rw [if_neg Bool.false_ne_true, h', bind_some]
  cases b <;> rfl

lemma reports_event {message : StringView} (hlast : message.bytes.getLast? = some 125)
    (h : parseEvent message.bytes p = some (true, { p with method := m, params := d })) :
    Reports stringToInt message.bytes { p with method := m, params := d, status := .event } := by
  have hevent := (parseEvent_iff hlast).mp h
  refine ⟨fun m' d' => ⟨?_, fun h' => ?_⟩, fun i success d' => ⟨fun h' => ?_, fun h' => ?_⟩,
    ⟨fun h' => ?_, fun h' => ?_⟩⟩
  · rintro ⟨-, rfl, rfl⟩
    exact hevent
  · have hsame := h.symm.trans ((parseEvent_iff hlast).mpr h')
    simp only [some.injEq, Prod.mk.injEq, ProtocolParser.mk.injEq] at hsame
    exact ⟨rfl, hsame.2.1, hsame.2.2.2.2.1⟩
  · exact nomatch h'.1
  · exact absurd hevent (not_isEvent_of_isResult h' m d)
  · exact nomatch h'
  · exact absurd hevent (h'.1 m d)

lemma reports_result {message : StringView} (hempty : (stringToInt []).2 = false)
    (hlast : message.bytes.getLast? = some 125)
    (h : parseResult stringToInt message.bytes p =
      some (true, { p with messageId := i, success := success, params := d })) :
    Reports stringToInt message.bytes
      { p with messageId := i, success := success, params := d, status := .result } := by
  have hresult := (parseResult_iff hempty hlast).mp h
  refine ⟨fun m' d' => ⟨fun h' => ?_, fun h' => ?_⟩, fun i' success' d' => ⟨?_, fun h' => ?_⟩,
    ⟨fun h' => ?_, fun h' => ?_⟩⟩
  · exact nomatch h'.1
  · exact absurd h' (not_isEvent_of_isResult hresult m' d')
  · rintro ⟨-, rfl, rfl, rfl⟩
    exact hresult
  · have hsame := h.symm.trans ((parseResult_iff hempty hlast).mpr h')
    simp only [some.injEq, Prod.mk.injEq, ProtocolParser.mk.injEq] at hsame
    exact ⟨rfl, hsame.2.2.1, hsame.2.2.2.1, hsame.2.2.2.2.1⟩
  · exact nomatch h'
  · exact absurd hresult (h'.2 i success d)

lemma reports_failure (hevent : ∀ m d, ¬ IsEvent message m d)
    (hresult : ∀ i success d, ¬ IsResult stringToInt message i success d)
    (hp : p.status = .failure) : Reports stringToInt message p := by
  refine ⟨fun m d => ⟨fun h => ?_, fun h => absurd h (hevent m d)⟩,
    fun i success d => ⟨fun h => ?_, fun h => absurd h (hresult i success d)⟩,
    fun _ => ⟨hevent, hresult⟩, fun _ => hp⟩
  · exact nomatch hp.symm.trans h.1
  · exact nomatch hp.symm.trans h.1

end

/-- **`Initialize` accepts exactly the events and the results.** It never takes a part of the text that is
out of its range. On a message between braces the parser reports an event, a result or a failure, and
the parts that it has found are those of the message. -/
theorem initializeFrom_spec (stringToInt : Bytes → Int × Bool) (hempty : (stringToInt []).2 = false)
    (message : StringView) (p : ProtocolParser) (hp : p.status = .uninitialized) :
    ∃ p', initializeFrom stringToInt message p = some (true, p') ∧
      (isValidMessage message = true → Reports stringToInt message.bytes p') := by
  obtain ⟨b, m, d, hevent⟩ := parseEvent_total message p
  cases b with
  | true =>
    refine ⟨_, initializeFrom_event hp hevent, fun hvalid => ?_⟩
    exact reports_event (p := p) (getLast?_of_isValidMessage hvalid) hevent
  | false =>
    obtain ⟨b, i, success, d', hresult⟩ : ∃ b i success d', parseResult stringToInt message.bytes
        { p with method := m, params := d } = some (b, { p with
          method := m
          messageId := i
          success := success
          params := d' }) :=
      parseResult_total message { p with method := m, params := d }
    refine ⟨_, initializeFrom_result hp hevent hresult, fun hvalid => ?_⟩
    have hlast := getLast?_of_isValidMessage hvalid
    cases b with
    | true => exact reports_result (p := { p with method := m, params := d }) hempty hlast hresult
    | false =>
      refine reports_failure (fun m' d'' h => ?_) (fun i' success' d'' h => ?_) rfl
      · exact nomatch hevent.symm.trans ((parseEvent_iff hlast).mpr h)
      · exact nomatch hresult.symm.trans ((parseResult_iff hempty hlast).mpr h)

def readNumber (s : Bytes) : Int × Bool :=
  match Decimal.toInt? s with
  | some i => (i, true)
  | none => (0, false)

def resultOfThree : StringView where
  bytes := literal "\x7b\"id\":3,\"result\":\x7b\x7d\x7d"
  length_lt := by decide

/-- The answer to a call is a result with its number. -/
theorem initializeFrom_spec_three :
    IsResult readNumber resultOfThree.bytes 3 true (literal "\x7b\x7d") := by
  obtain ⟨p', hinit, hreports⟩ := initializeFrom_spec readNumber rfl resultOfThree {} rfl
  have hp' : p' = { messageId := 3, success := true, params := literal "\x7b\x7d", status := .result } := by
    have hrun : initializeFrom readNumber resultOfThree {} = some (true,
        { messageId := 3, success := true, params := literal "\x7b\x7d", status := .result }) := by
      decide
    rw [hrun] at hinit
    exact (Prod.mk.inj (some.inj hinit)).2.symm
  subst hp'
  have hvalid : isValidMessage resultOfThree = true := by decide
  exact ((hreports hvalid).result_iff 3 true (literal "\x7b\x7d")).mp ⟨rfl, rfl, rfl, rfl⟩

end CefCore.Browser.DevToolsUtil
