import CefCore.MessageRouter.ProcessMessage

/-!
# The messages of the C++ router

`libcef_dll/wrapper/cef_message_router_utils.cc` puts a payload below the threshold into an argument
list and another one into shared memory, behind a header that is a C++ structure. An argument list
keeps text in UTF-8, while memory gets the code units as they are. Text that is not well-formed
UTF-16 therefore arrives in two ways, and the threshold, or a failed allocation, decides which.

## Main results

* `threshold_irrelevant_iff`: the texts for which it makes no difference.

## Implementation notes

`valid` is what `IsValid` says of the builder for shared memory, which holds zeros at first. Both
headers take 12 bytes: two integers, the flags, and what the alignment of the integers adds. A region
that has arrived is valid, and the debug checks are left out.
-/

namespace CefCore.MessageRouter.Cpp

open CefCore.MessageRouter List

/-! ### Memory -/

def store (memory : List UInt8) (offset : Nat) (data : List UInt8) : List UInt8 :=
  memory.take offset ++ data ++ memory.drop (offset + data.length)

def loadInt (memory : List UInt8) (offset : Nat) : Int32 :=
  fromNeBytes (memory.getD offset 0) (memory.getD (offset + 1) 0) (memory.getD (offset + 2) 0)
    (memory.getD (offset + 3) 0)

def loadBool (memory : List UInt8) (offset : Nat) : Bool := memory.getD offset 0 != 0

def flagByte (flag : Bool) : UInt8 := if flag then 1 else 0

def unitBytes (value : CefString) : List UInt8 :=
  value.flatMap fun u => [UInt8.ofNat u.toNat, UInt8.ofNat (u.toNat / 2 ^ 8)]

/-- The code units in a piece of memory; a last single byte is not read. -/
def unitsOf : List UInt8 → CefString
  | b₀ :: b₁ :: rest => UInt16.ofNat (b₀.toNat + 2 ^ 8 * b₁.toNat) :: unitsOf rest
  | _ => []

/-- `sizeof(BrowserMsgHeader)` and `sizeof(RendererMsgHeader)`. -/
def headerSize : Nat := 12

/-- `GetByteLength` of a string. -/
def getByteLength (value : CefString) : Nat := value.length * 2

def getStringFromMemory (memory : List UInt8) : CefString := unitsOf (memory.drop headerSize)

/-! ### Argument lists -/

/-- The argument of the templates for list messages; `empty` is the tag for an empty binary. -/
inductive ListPayload where
  | empty
  | string (value : CefString)
  | binary (value : List UInt8)

def setPayload (base : UnicodeConversions) (args : ListValue) (index : Nat) :
    ListPayload → ListValue
  | .empty => args.setNull index
  | .string value => args.setString index base value
  | .binary value => args.setBinary index (binaryValueCreate value)

def buildBrowserListMsg (base : UnicodeConversions) (contextId requestId : Int32)
    (response : ListPayload) : ProcessMessage :=
  let args := (ListValue.setInt [] 0 contextId).setInt 1 requestId
  let args := args.setBool 2 true
  .argumentList (setPayload base args 3 response)

def buildRendererListMsg (base : UnicodeConversions) (contextId requestId : Int32)
    (request : ListPayload) (persistent : Bool) : ProcessMessage :=
  let args := (ListValue.setInt [] 0 contextId).setInt 1 requestId
  let args := setPayload base args 2 request
  .argumentList (args.setBool 3 persistent)

/-! ### Senders -/

/-- A `BrowserResponseBuilder`: `EmptyResponseBuilder`, `BinaryResponseBuilder`,
`StringResponseBuilder` or `SPMResponseBuilder`. -/
inductive BrowserResponseBuilder where
  | list (payload : ListPayload)
  | spm (memory : List UInt8) (isBinary : Bool)

def BrowserResponseBuilder.build (base : UnicodeConversions) (contextId requestId : Int32) :
    BrowserResponseBuilder → ProcessMessage
  | .list payload => buildBrowserListMsg base contextId requestId payload
  | .spm memory isBinary =>
    let memory := store memory 0 (toNeBytes contextId)
    let memory := store memory 4 (toNeBytes requestId)
    .sharedMemoryRegion (store memory 8 [flagByte isBinary])

def copyIntoMemory (memory data : List UInt8) : List UInt8 :=
  if 0 < data.length then store memory headerSize data else memory

/-- `SPMResponseBuilder::Create`, for a string or for data. -/
def createSPMResponseBuilder (valid : Bool) (data : List UInt8) (isBinary : Bool)
    (fallback : ListPayload) : BrowserResponseBuilder :=
  let messageSize := headerSize + data.length
  if valid then .spm (copyIntoMemory (List.replicate messageSize 0) data) isBinary
  else .list fallback

/-- `CreateBrowserResponseBuilder` for a string. -/
def createStringResponseBuilder (valid : Bool) (threshold : Nat) (response : CefString) :
    BrowserResponseBuilder :=
  if getByteLength response < threshold then .list (.string response)
  else createSPMResponseBuilder valid (unitBytes response) false (.string response)

/-- `CreateBrowserResponseBuilder` for data. -/
def createBinaryResponseBuilder (valid : Bool) (threshold : Nat) (data : List UInt8) :
    BrowserResponseBuilder :=
  if data.length = 0 then .list .empty
  else if data.length < threshold then .list (.binary data)
  else createSPMResponseBuilder valid data true (.binary data)

def buildRendererSharedMsg (base : UnicodeConversions) (valid : Bool) (contextId requestId : Int32)
    (data : List UInt8) (isBinary : Bool) (fallback : ListPayload) (persistent : Bool) :
    ProcessMessage :=
  let messageSize := headerSize + data.length
  if valid then
    let memory := store (List.replicate messageSize 0) 0 (toNeBytes contextId)
    let memory := store memory 4 (toNeBytes requestId)
    let memory := store memory 8 [flagByte persistent]
    let memory := store memory 9 [flagByte isBinary]
    .sharedMemoryRegion (copyIntoMemory memory data)
  else buildRendererListMsg base contextId requestId fallback persistent

/-- `BuildRendererMsg` for a string. -/
def buildRendererStringMsg (base : UnicodeConversions) (valid : Bool) (threshold : Nat)
    (contextId requestId : Int32) (request : CefString) (persistent : Bool) : ProcessMessage :=
  if getByteLength request < threshold then
    buildRendererListMsg base contextId requestId (.string request) persistent
  else
    buildRendererSharedMsg base valid contextId requestId (unitBytes request) false
      (.string request) persistent

/-- `GetArrayBufferByteLength` and `GetArrayBufferData`. -/
def arrayBufferData : RequestV8Value → List UInt8
  | .arrayBuffer data => data
  | _ => []

/-- `BuildRendererMsg` for a V8 value. -/
def buildRendererMsg (base : UnicodeConversions) (valid : Bool) (threshold : Nat)
    (contextId requestId : Int32) (request : RequestV8Value) (persistent : Bool) : ProcessMessage :=
  match request with
  | .string value =>
    buildRendererStringMsg base valid threshold contextId requestId value persistent
  | request =>
    let data := arrayBufferData request
    if data.length = 0 then buildRendererListMsg base contextId requestId .empty persistent
    else if data.length < threshold then
      buildRendererListMsg base contextId requestId (.binary data) persistent
    else
      buildRendererSharedMsg base valid contextId requestId data true (.binary data) persistent

/-! ### Receivers -/

/-- The payload of a parsed message: a `CefString`, or a `CefBinaryBuffer` by its data. -/
inductive Payload where
  | string (value : CefString)
  | binary (data : List UInt8)
  deriving DecidableEq

structure BrowserMessage where
  contextId : Int32
  requestId : Int32
  isSuccess : Bool
  errorCode : Int32
  payload : Payload

structure RendererMessage where
  contextId : Int32
  requestId : Int32
  isPersistent : Bool
  payload : Payload

def listPayload (base : UnicodeConversions) (args : ListValue) (index : Nat) : Payload :=
  match args.getType index with
  | .string => .string (args.getString index base)
  | .binary => .binary ((args.getBinary index).getD [])
  | _ => .binary []

def regionPayload (memory : List UInt8) (isBinary : Bool) : Payload :=
  if isBinary then .binary (memory.drop headerSize) else .string (getStringFromMemory memory)

def parseBrowserMessage (base : UnicodeConversions) : ProcessMessage → BrowserMessage
  | .argumentList args =>
    if args.getBool 2 then ⟨args.getInt 0, args.getInt 1, true, 0, listPayload base args 3⟩
    else ⟨args.getInt 0, args.getInt 1, false, args.getInt 3, .string (args.getString 4 base)⟩
  | .sharedMemoryRegion memory =>
    ⟨loadInt memory 0, loadInt memory 4, true, 0, regionPayload memory (loadBool memory 8)⟩

def parseRendererMessage (base : UnicodeConversions) : ProcessMessage → RendererMessage
  | .argumentList args =>
    ⟨args.getInt 0, args.getInt 1, args.getBool 3, listPayload base args 2⟩
  | .sharedMemoryRegion memory =>
    ⟨loadInt memory 0, loadInt memory 4, loadBool memory 8,
      regionPayload memory (loadBool memory 9)⟩

/-! ### What arrives -/

inductive Content where
  | text (value : CefString)
  | bytes (data : List UInt8)

def Content.request : Content → RequestV8Value
  | .text value => .string value
  | .bytes data => .arrayBuffer data

def createBrowserResponseBuilder (valid : Bool) (threshold : Nat) :
    Content → BrowserResponseBuilder
  | .text value => createStringResponseBuilder valid threshold value
  | .bytes data => createBinaryResponseBuilder valid threshold data

/-- A text goes through shared memory. -/
def UsesRegion (valid : Bool) (threshold : Nat) (value : CefString) : Prop :=
  threshold ≤ getByteLength value ∧ valid = true

instance (valid : Bool) (threshold : Nat) (value : CefString) :
    Decidable (UsesRegion valid threshold value) :=
  inferInstanceAs (Decidable (_ ∧ _))

def arrived (valid : Bool) (threshold : Nat) : Content → Payload
  | .text value =>
    .string (if UsesRegion valid threshold value then value
      else Utf16.encode (Utf16.lossy value))
  | .bytes data => .binary data

variable (base : UnicodeConversions)

lemma unitsOf_unitBytes (value : CefString) : unitsOf (unitBytes value) = value := by
  induction value with
  | nil => rfl
  | cons u value ih =>
    have hlt := u.toNat_lt
    have hsum : (UInt8.ofNat u.toNat).toNat + 2 ^ 8 * (UInt8.ofNat (u.toNat / 2 ^ 8)).toNat =
        u.toNat := by
      simp only [UInt8.toNat_ofNat']
      omega
    simp only [unitBytes, flatMap_cons, cons_append, nil_append, unitsOf, hsum, UInt16.ofNat_toNat]
    exact congrArg (u :: ·) ih

lemma copyIntoMemory_eq {header data : List UInt8} (h : header.length = headerSize) :
    copyIntoMemory (header ++ List.replicate data.length 0) data = header ++ data := by
  unfold copyIntoMemory
  split
  · have hall : (header ++ List.replicate data.length 0).length ≤ headerSize + data.length := by
      simp [h]
    rw [store, drop_eq_nil_of_le hall, ← h, take_left, append_nil]
  · rename_i hempty
    rw [eq_nil_of_length_eq_zero (Nat.eq_zero_of_not_pos hempty)]
    rfl

lemma spm_build (contextId requestId : Int32) (data : List UInt8) (isBinary : Bool) :
    BrowserResponseBuilder.build base contextId requestId
        (.spm (copyIntoMemory (List.replicate (headerSize + data.length) 0) data) isBinary) =
      .sharedMemoryRegion (toNeBytes contextId ++ toNeBytes requestId ++
        [flagByte isBinary, 0, 0, 0] ++ data) := by
  rw [replicate_add, copyIntoMemory_eq (length_replicate ..)]
  rfl

lemma buildRendererSharedMsg_valid (contextId requestId : Int32) (data : List UInt8)
    (isBinary : Bool) (fallback : ListPayload) (persistent : Bool) :
    buildRendererSharedMsg base true contextId requestId data isBinary fallback persistent =
      .sharedMemoryRegion (toNeBytes contextId ++ toNeBytes requestId ++
        [flagByte persistent, flagByte isBinary, 0, 0] ++ data) := by
  have hheader : (toNeBytes contextId ++ toNeBytes requestId ++
      [flagByte persistent, flagByte isBinary, 0, 0]).length = headerSize := rfl
  simp only [buildRendererSharedMsg, if_true, replicate_add]
  rw [← copyIntoMemory_eq hheader]
  rfl

lemma flagByte_ne_zero (flag : Bool) : (flagByte flag != 0) = flag := by
  cases flag <;> rfl

lemma loadInt_header (contextId requestId : Int32) (rest : List UInt8) :
    loadInt (toNeBytes contextId ++ toNeBytes requestId ++ rest) 0 = contextId ∧
      loadInt (toNeBytes contextId ++ toNeBytes requestId ++ rest) 4 = requestId :=
  ⟨(fromNeBytes_toNeBytes contextId).2, (fromNeBytes_toNeBytes requestId).2⟩

lemma regionPayload_header (header : List UInt8) (h : header.length = headerSize)
    (data : List UInt8) (isBinary : Bool) : regionPayload (header ++ data) isBinary =
      if isBinary then .binary data else .string (unitsOf data) := by
  rw [regionPayload, getStringFromMemory, ← h, drop_left]

lemma parseBrowserMessage_region (contextId requestId : Int32) (data : List UInt8)
    (isBinary : Bool) : parseBrowserMessage base (.sharedMemoryRegion (toNeBytes contextId ++
        toNeBytes requestId ++ [flagByte isBinary, 0, 0, 0] ++ data)) =
      ⟨contextId, requestId, true, 0,
        if isBinary then .binary data else .string (unitsOf data)⟩ := by
  have hflag : loadBool (toNeBytes contextId ++ toNeBytes requestId ++
      [flagByte isBinary, 0, 0, 0] ++ data) 8 = isBinary := flagByte_ne_zero isBinary
  rw [parseBrowserMessage, hflag, regionPayload_header _ rfl, append_assoc,
    (loadInt_header ..).1, (loadInt_header ..).2]

lemma parseRendererMessage_region (contextId requestId : Int32) (data : List UInt8)
    (isBinary persistent : Bool) : parseRendererMessage base (.sharedMemoryRegion
        (toNeBytes contextId ++ toNeBytes requestId ++
          [flagByte persistent, flagByte isBinary, 0, 0] ++ data)) =
      ⟨contextId, requestId, persistent,
        if isBinary then .binary data else .string (unitsOf data)⟩ := by
  have hpersistent : loadBool (toNeBytes contextId ++ toNeBytes requestId ++
      [flagByte persistent, flagByte isBinary, 0, 0] ++ data) 8 = persistent :=
    flagByte_ne_zero persistent
  have hflag : loadBool (toNeBytes contextId ++ toNeBytes requestId ++
      [flagByte persistent, flagByte isBinary, 0, 0] ++ data) 9 = isBinary :=
    flagByte_ne_zero isBinary
  rw [parseRendererMessage, hflag, hpersistent, regionPayload_header _ rfl, append_assoc,
    (loadInt_header ..).1, (loadInt_header ..).2]

def overList : ListPayload → Payload
  | .empty => .binary []
  | .string value => .string (Utf16.encode (Utf16.lossy value))
  | .binary value => .binary value

/-- The message for a content, from those that have it in their list and in a region. -/
def sent {μ : Type} (valid : Bool) (threshold : Nat) (list : ListPayload → μ)
    (region : List UInt8 → Bool → μ) : Content → μ
  | .text value =>
    if getByteLength value < threshold then list (.string value)
    else if valid then region (unitBytes value) false else list (.string value)
  | .bytes data =>
    if data.length = 0 then list .empty
    else if data.length < threshold then list (.binary data)
    else if valid then region data true else list (.binary data)

/-- A content arrives as it does in one of the two messages. -/
lemma parse_sent {μ ρ : Type} {parse : μ → ρ} {message : Payload → ρ} {list : ListPayload → μ}
    {region : List UInt8 → Bool → μ}
    (hlist : ∀ payload, payload ≠ .binary [] → parse (list payload) = message (overList payload))
    (hregion : ∀ data isBinary, parse (region data isBinary) =
      message (if isBinary then .binary data else .string (unitsOf data)))
    (valid : Bool) (threshold : Nat) (content : Content) :
    parse (sent valid threshold list region content) = message (arrived valid threshold content) := by
  cases content with
  | text value =>
    have hlist := hlist (.string value) nofun
    by_cases hsize : getByteLength value < threshold
    · have hno : ¬ UsesRegion valid threshold value :=
        fun h => absurd h.1 (Nat.not_le.mpr hsize)
      rw [sent, if_pos hsize, arrived, if_neg hno]
      exact hlist
    · rw [sent, if_neg hsize]
      cases valid with
      | false =>
        have hno : ¬ UsesRegion false threshold value := fun h => nomatch h.2
        rw [arrived, if_neg hno]
        exact hlist
      | true =>
        have hyes : UsesRegion true threshold value := ⟨Nat.not_lt.mp hsize, rfl⟩
        simp [hregion, arrived, unitsOf_unitBytes, hyes]
  | bytes data =>
    cases data with
    | nil => exact hlist .empty nofun
    | cons byte data =>
      have hlist := hlist (.binary (byte :: data)) nofun
      rw [sent, if_neg (by simp)]
      split
      · exact hlist
      · cases valid with
        | false => exact hlist
        | true => exact hregion (byte :: data) true

section

variable (contextId requestId : Int32) {payload : ListPayload} (h : payload ≠ .binary [])
include h

lemma parseBrowserMessage_list :
    parseBrowserMessage base (buildBrowserListMsg base contextId requestId payload) =
      ⟨contextId, requestId, true, 0, overList payload⟩ := by
  rw [buildBrowserListMsg, ListValue.setInt_setInt]
  cases payload with
  | empty => rfl
  | string value =>
    rw [overList, ← fromString_toString base]
    rfl
  | binary data =>
    cases data with
    | nil => exact absurd rfl h
    | cons byte data => rfl

lemma parseRendererMessage_list (persistent : Bool) :
    parseRendererMessage base (buildRendererListMsg base contextId requestId payload persistent) =
      ⟨contextId, requestId, persistent, overList payload⟩ := by
  rw [buildRendererListMsg, ListValue.setInt_setInt]
  cases payload with
  | empty => rfl
  | string value =>
    rw [overList, ← fromString_toString base]
    rfl
  | binary data =>
    cases data with
    | nil => exact absurd rfl h
    | cons byte data => rfl

end

theorem parseBrowserMessage_build (valid : Bool) (threshold : Nat) (content : Content)
    (contextId requestId : Int32) :
    parseBrowserMessage base ((createBrowserResponseBuilder valid threshold content).build base
        contextId requestId) =
      ⟨contextId, requestId, true, 0, arrived valid threshold content⟩ := by
  have hsent : (createBrowserResponseBuilder valid threshold content).build base contextId requestId =
      sent valid threshold (buildBrowserListMsg base contextId requestId) (fun data isBinary =>
        .sharedMemoryRegion (toNeBytes contextId ++ toNeBytes requestId ++
          [flagByte isBinary, 0, 0, 0] ++ data)) content := by
    cases content <;>
      simp only [createBrowserResponseBuilder, createStringResponseBuilder,
        createBinaryResponseBuilder, createSPMResponseBuilder, sent, ← spm_build base] <;>
      split_ifs <;> rfl
  rw [hsent]
  exact parse_sent (fun _ => parseBrowserMessage_list base contextId requestId)
    (parseBrowserMessage_region base contextId requestId) valid threshold content

theorem parseRendererMessage_build (valid : Bool) (threshold : Nat) (content : Content)
    (contextId requestId : Int32) (persistent : Bool) :
    parseRendererMessage base (buildRendererMsg base valid threshold contextId requestId
        content.request persistent) =
      ⟨contextId, requestId, persistent, arrived valid threshold content⟩ := by
  have hsent : buildRendererMsg base valid threshold contextId requestId content.request persistent =
      sent valid threshold (buildRendererListMsg base contextId requestId · persistent)
        (fun data isBinary => buildRendererSharedMsg base true contextId requestId data isBinary .empty
          persistent) content := by
    cases content <;> cases valid <;> rfl
  rw [hsent]
  refine parse_sent (fun _ h => parseRendererMessage_list base contextId requestId h persistent)
    (fun data isBinary => ?_) valid threshold content
  rw [buildRendererSharedMsg_valid, parseRendererMessage_region]

/-! ### The threshold -/

/-- Text that is well formed, or takes the same way twice; bytes always. -/
def SameWay (valid₁ : Bool) (threshold₁ : Nat) (valid₂ : Bool) (threshold₂ : Nat) :
    Content → Prop
  | .text value => Utf16.WellFormed value ∨
      (UsesRegion valid₁ threshold₁ value ↔ UsesRegion valid₂ threshold₂ value)
  | .bytes _ => True

lemma arrived_eq_iff (valid₁ : Bool) (threshold₁ : Nat) (valid₂ : Bool) (threshold₂ : Nat)
    (content : Content) : arrived valid₁ threshold₁ content = arrived valid₂ threshold₂ content ↔
      SameWay valid₁ threshold₁ valid₂ threshold₂ content := by
  cases content with
  | bytes data => exact iff_of_true rfl True.intro
  | text value =>
    simp only [arrived, SameWay, Payload.string.injEq, ← Utf16.encode_lossy_iff]
    by_cases h₁ : UsesRegion valid₁ threshold₁ value <;>
      by_cases h₂ : UsesRegion valid₂ threshold₂ value <;> simp [h₁, h₂, eq_comm]

/-- **The threshold makes no difference** to the content of messages, in either direction, if and
only if the payload is an array of bytes, or well-formed text, or takes the same way in both
messages.

**Proof sketch.** Text in shared memory arrives as it is, and in an argument list with replacements;
these two are the same exactly for well-formed text. -/
theorem threshold_irrelevant_iff (valid₁ : Bool) (threshold₁ : Nat) (valid₂ : Bool)
    (threshold₂ : Nat) (content : Content) (contextId requestId : Int32) (persistent : Bool) :
    (parseBrowserMessage base ((createBrowserResponseBuilder valid₁ threshold₁ content).build base
          contextId requestId) =
        parseBrowserMessage base ((createBrowserResponseBuilder valid₂ threshold₂ content).build
          base contextId requestId) ↔ SameWay valid₁ threshold₁ valid₂ threshold₂ content) ∧
      (parseRendererMessage base (buildRendererMsg base valid₁ threshold₁ contextId requestId
          content.request persistent) =
        parseRendererMessage base (buildRendererMsg base valid₂ threshold₂ contextId requestId
          content.request persistent) ↔ SameWay valid₁ threshold₁ valid₂ threshold₂ content) := by
  simp [parseBrowserMessage_build, parseRendererMessage_build, arrived_eq_iff]

/-- A lone surrogate is kept with threshold 0 and replaced with threshold 16384. -/
theorem threshold_replaces_surrogate :
    parseRendererMessage .standard
        (buildRendererMsg .standard true 0 1 1 (.string [0x61, 0xD800]) false) ≠
      parseRendererMessage .standard
        (buildRendererMsg .standard true 16384 1 1 (.string [0x61, 0xD800]) false) := by
  have hlossy : Utf16.encode (Utf16.lossy [0x61, 0xD800]) = [0x61, 0xFFFD] := by decide
  have hmemory := parseRendererMessage_build .standard true 0 (.text [0x61, 0xD800]) 1 1 false
  have hlist := parseRendererMessage_build .standard true 16384 (.text [0x61, 0xD800]) 1 1 false
  rw [arrived, if_pos (by decide)] at hmemory
  rw [arrived, if_neg (by decide), hlossy] at hlist
  intro heq
  have hsame := congrArg RendererMessage.payload (hmemory.symm.trans (heq.trans hlist))
  exact absurd hsame (by decide)

end CefCore.MessageRouter.Cpp
