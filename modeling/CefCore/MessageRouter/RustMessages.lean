import CefCore.MessageRouter.ProcessMessage

/-!
# The messages of the Rust router

`rust/cef-rs/cef/src/wrapper/message_router_utils.rs` builds a message from a payload in one of
three ways. A payload below the threshold goes into an argument list; another one goes into shared
memory behind a header, and into an argument list after all if there is no shared memory. The
headers of the two directions differ. Text passes through the string types of
`rust/cef-rs/cef/src/string.rs` on its way.

## Main definitions

* `BrowserMessage`, `RenderMessage`: what the receivers get.

## Implementation notes

`shared` says whether `shared_process_message_builder_create` returns a valid builder. Messages and
argument lists can always be made, and a region that has arrived is valid. A receiver returns `none`
where it panics: on an argument of another type, which it asserts against, and on a region that is
too short for its header. Debug assertions are left out, and so is the name of the message, which
the receivers do not look at.
-/

namespace CefCore.MessageRouter.Rust

open CefCore.MessageRouter

/-! ### The string types -/

def utf8Bytes (s : String) : List UInt8 := s.toByteArray.data.toList

def fromUtf8 (bytes : List UInt8) : Option String := String.fromUTF8? ⟨bytes.toArray⟩

@[simp] lemma fromUtf8_utf8Bytes (s : String) : fromUtf8 (utf8Bytes s) = some s := by
  have hvalid : s.toByteArray.IsValidUTF8 := s.isValidUTF8
  simp [fromUtf8, utf8Bytes, String.fromUTF8?, hvalid, String.fromUTF8]

structure CefStringUtf8 where
  data : Option String
  deriving DecidableEq

/-- `CefStringUtf16`, the `CefString` of the crate. -/
structure CefStringUtf16 where
  data : Option (List UInt16)

def CefStringUtf8.asStr (s : CefStringUtf8) : Option String :=
  s.data.filter fun str => str ≠ ""

def CefStringUtf8.asSlice (s : CefStringUtf8) : Option (List UInt8) :=
  s.asStr.map utf8Bytes

/-- `to_string` of `CefStringUtf8`. -/
def CefStringUtf8.toString (s : CefStringUtf8) : String := s.asStr.getD ""

def CefStringUtf16.asSlice (s : CefStringUtf16) : Option (List UInt16) :=
  s.data.filter fun units => units ≠ []

/-- `From<&str> for CefStringUtf8`; `cef_string_utf8_set` does not fail. -/
def CefStringUtf8.fromStr (value : String) : CefStringUtf8 := ⟨some value⟩

section

variable (base : UnicodeConversions)

/-- `cef_string_utf16_to_utf8`: the output, with the result. -/
def cefStringUtf16ToUtf8 (src : List UInt16) : Bool × String :=
  base.utf16ToUtf8 src

/-- `cef_string_utf8_to_utf16`: the output, with the result. -/
def cefStringUtf8ToUtf16 (src : String) : Bool × List UInt16 :=
  base.utf8ToUtf16 src

/-- `From<&CefStringUtf16> for CefStringUtf8`: without a result there is no string. -/
def CefStringUtf8.fromUtf16 (value : CefStringUtf16) : CefStringUtf8 :=
  ⟨value.asSlice.bind fun value =>
    let (ret, data) := cefStringUtf16ToUtf8 base value
    if ret then some data else none⟩

/-- `From<&CefStringUtf8> for CefStringUtf16`. -/
def CefStringUtf16.fromUtf8 (value : CefStringUtf8) : CefStringUtf16 :=
  ⟨value.asStr.bind fun value =>
    let (ret, data) := cefStringUtf8ToUtf16 base value
    if ret then some data else none⟩

end

/-- `From<&CefStringUserfreeUtf16> for CefStringUtf16`, of a string that the C API has returned:
the pointer is null for an empty string. -/
def CefStringUtf16.fromUserfree (value : CefString) : CefStringUtf16 :=
  ⟨if value.isEmpty then none else some value⟩

/-- The string that a function of the C API receives. -/
def CefStringUtf16.toCefString (s : CefStringUtf16) : CefString := s.data.getD []

/-! ### Payloads -/

/-- `MessagePayload`; a binary buffer is what its `data` returns. -/
inductive MessagePayload where
  | empty
  | string (value : CefStringUtf8)
  | binary (data : List UInt8)
  deriving DecidableEq

namespace MessagePayload

def size : MessagePayload → Nat
  | .empty => 0
  | .string s => (s.asSlice.map (·.length)).getD 0
  | .binary b => b.length

def readString (buffer : List UInt8) : MessagePayload :=
  match fromUtf8 buffer with
  | some value => .string (CefStringUtf8.fromStr value)
  | none => .empty

/-- `MessagePayload::write` at a position of the memory. -/
def write (payload : MessagePayload) (memory : List UInt8) (position : Nat) : Option (List UInt8) :=
  let buffer := match payload with
    | .string s => s.asSlice
    | .binary b => if b.isEmpty then none else some b
    | .empty => none
  match buffer with
  | some buffer => writeAll memory position buffer
  | none => some memory

/-- `matches!(payload, MessagePayload::Binary(_))`. -/
def isBinary : MessagePayload → Bool
  | .binary _ => true
  | _ => false

def fromCefString (base : UnicodeConversions) (s : CefStringUtf16) : MessagePayload :=
  .string (CefStringUtf8.fromUtf16 base s)

def fromStr (s : String) : MessagePayload := .string (CefStringUtf8.fromStr s)

/-- The `data` of a `BinaryValueBuffer`. -/
def binaryValueBuffer (value : Option (List UInt8)) : MessagePayload := .binary (value.getD [])

/-- `From<Option<&V8Value>>`. -/
def fromV8Value : Option RequestV8Value → MessagePayload
  | some (.arrayBuffer data) =>
    if data.isEmpty then .empty
    else match binaryValueCreate data with
      | some value => binaryValueBuffer (some value)
      | none => .empty
  | _ => .empty

/-- `From<&[u8]>`. -/
def fromBytes (data : List UInt8) : MessagePayload :=
  if data.isEmpty then .empty else binaryValueBuffer (binaryValueCreate data)

end MessagePayload

/-! ### Headers -/

/-- `MessageHeader`: the memory that the header takes, and its bytes. -/
class MessageHeader (Header : Type) where
  size : Nat
  new : Int32 → Int32 → Bool → Header
  read : List UInt8 → Option Header
  write : Header → List UInt8
  length_write : ∀ header, (write header).length = size

structure BrowserMessageHeader where
  contextId : Int32
  requestId : Int32
  isBinary : Bool

def flagByte (flag : Bool) : UInt8 := if flag then 1 else 0

instance : MessageHeader BrowserMessageHeader where
  size := 4 * 2 + 1
  new contextId requestId isBinary := ⟨contextId, requestId, isBinary⟩
  read
    | c₀ :: c₁ :: c₂ :: c₃ :: r₀ :: r₁ :: r₂ :: r₃ :: flags :: _ =>
      some ⟨fromNeBytes c₀ c₁ c₂ c₃, fromNeBytes r₀ r₁ r₂ r₃, flags != 0⟩
    | _ => none
  write h := toNeBytes h.contextId ++ toNeBytes h.requestId ++ [flagByte h.isBinary]
  length_write _ := rfl

/-- `RendererMessageHeader<DEFAULT_PERSISTENT>`. -/
structure RendererMessageHeader (defaultPersistent : Bool) where
  contextId : Int32
  requestId : Int32
  isPersistent : Bool
  isBinary : Bool

instance (defaultPersistent : Bool) : MessageHeader (RendererMessageHeader defaultPersistent) where
  size := 4 * 2 + 2
  new contextId requestId isBinary := ⟨contextId, requestId, defaultPersistent, isBinary⟩
  read
    | c₀ :: c₁ :: c₂ :: c₃ :: r₀ :: r₁ :: r₂ :: r₃ :: flags₀ :: flags₁ :: _ =>
      some ⟨fromNeBytes c₀ c₁ c₂ c₃, fromNeBytes r₀ r₁ r₂ r₃, flags₀ != 0, flags₁ != 0⟩
    | _ => none
  write h := toNeBytes h.contextId ++ toNeBytes h.requestId ++
    [flagByte h.isPersistent, flagByte h.isBinary]
  length_write _ := rfl

/-! ### Senders -/

/-- `ProcessMessageBuilder`, a trait object. -/
structure ProcessMessageBuilder where
  buildBrowserResponse : Int32 → Int32 → Option ProcessMessage
  buildRendererMessage : Int32 → Int32 → Bool → Option ProcessMessage

section

variable (base : UnicodeConversions)

def setPayload (args : ListValue) (index : Nat) :
    MessagePayload → ListValue
  | .empty => args.setNull index
  | .string value =>
    args.setString index base (CefStringUtf16.fromUtf8 base value).toCefString
  | .binary value => args.setBinary index (binaryValueCreate value)

def buildBrowserListMessage (contextId requestId : Int32)
    (payload : MessagePayload) : ProcessMessage :=
  let args := (ListValue.setInt [] 0 contextId).setInt 1 requestId
  let args := args.setBool 2 true
  .argumentList (setPayload base args 3 payload)

def buildRenderListMessage (contextId requestId : Int32)
    (payload : MessagePayload) (isPersistent : Bool) : ProcessMessage :=
  let args := (ListValue.setInt [] 0 contextId).setInt 1 requestId
  let args := setPayload base args 2 payload
  .argumentList (args.setBool 3 isPersistent)

def messagePayloadBuilder (payload : MessagePayload) :
    ProcessMessageBuilder where
  buildBrowserResponse contextId requestId :=
    some (buildBrowserListMessage base contextId requestId payload)
  buildRendererMessage contextId requestId persistent :=
    some (buildRenderListMessage base contextId requestId payload persistent)

end

/-- `SharedProcessMessageRouter<Header>`. -/
inductive SharedProcessMessageRouter (Header : Type) where
  | sharedMemory (memory : List UInt8) (isBinary : Bool)
  | payload (payload : MessagePayload)

namespace SharedProcessMessageRouter

def new (Header : Type) [MessageHeader Header] (shared : Bool) (payload : MessagePayload) :
    SharedProcessMessageRouter Header :=
  let headerSize := MessageHeader.size Header
  let messageSize := headerSize + payload.size
  if shared then
    match payload.write (List.replicate messageSize 0) headerSize with
    | some memory => .sharedMemory memory payload.isBinary
    | none => .payload payload
  else .payload payload

/-- Write the header into the memory and send it. -/
def buildShared (Header : Type) [MessageHeader Header] (memory : List UInt8) (isBinary : Bool)
    (contextId requestId : Int32) : Option ProcessMessage :=
  (writeAll memory 0
    (MessageHeader.write (MessageHeader.new contextId requestId isBinary : Header))).map
      .sharedMemoryRegion

def builder {Header : Type} [MessageHeader Header] (base : UnicodeConversions)
    (router : SharedProcessMessageRouter Header) : ProcessMessageBuilder where
  buildBrowserResponse contextId requestId :=
    match router with
    | .sharedMemory memory isBinary => buildShared Header memory isBinary contextId requestId
    | .payload p => (messagePayloadBuilder base p).buildBrowserResponse contextId requestId
  buildRendererMessage contextId requestId persistent :=
    match router with
    | .sharedMemory memory isBinary => buildShared Header memory isBinary contextId requestId
    | .payload p =>
      (messagePayloadBuilder base p).buildRendererMessage contextId requestId persistent

end SharedProcessMessageRouter

def createBrowserResponseBuilder (base : UnicodeConversions) (shared : Bool) (threshold : Nat)
    (payload : MessagePayload) : ProcessMessageBuilder :=
  if payload.size < threshold then messagePayloadBuilder base payload
  else (SharedProcessMessageRouter.new BrowserMessageHeader shared payload).builder base

def requestPayload (base : UnicodeConversions) (request : Option RequestV8Value) : MessagePayload :=
  match request with
  | some (.string value) => .fromCefString base (CefStringUtf16.fromUserfree value)
  | some request => .fromV8Value (some request)
  | none => .empty

def buildRendererMessage (base : UnicodeConversions) (shared : Bool) (threshold : Nat)
    (contextId requestId : Int32) (request : Option RequestV8Value) (persistent : Bool) :
    Option ProcessMessage :=
  let payload := requestPayload base request
  let builder : ProcessMessageBuilder :=
    if payload.size < threshold then messagePayloadBuilder base payload
    else if persistent then
      (SharedProcessMessageRouter.new (RendererMessageHeader true) shared payload).builder base
    else
      (SharedProcessMessageRouter.new (RendererMessageHeader false) shared payload).builder base
  builder.buildRendererMessage contextId requestId persistent

/-! ### Receivers -/

structure BrowserMessage where
  contextId : Int32
  requestId : Int32
  isSuccess : Bool
  errorCode : Int32
  payload : MessagePayload
  deriving DecidableEq

def BrowserMessage.default : BrowserMessage := ⟨0, 0, false, 0, .empty⟩

def stringPayload (base : UnicodeConversions) (args : ListValue) (index : Nat) : MessagePayload :=
  .string (CefStringUtf8.fromUtf16 base (CefStringUtf16.fromUserfree (args.getString index base)))

/-- `From<Option<ProcessMessage>> for BrowserMessage`. -/
def BrowserMessage.from (base : UnicodeConversions) : Option ProcessMessage → Option BrowserMessage
  | none => some .default
  | some (.argumentList args) =>
    let contextId := args.getInt 0
    let requestId := args.getInt 1
    if args.getBool 2 then
      match args.getType 3 with
      | .string => some ⟨contextId, requestId, true, 0, stringPayload base args 3⟩
      | .binary => some ⟨contextId, requestId, true, 0, .binaryValueBuffer (args.getBinary 3)⟩
      | .null => some ⟨contextId, requestId, true, 0, .binary []⟩
      -- `assert_eq!(payload_type, ValueType::NULL)`
      | _ => none
    else some ⟨contextId, requestId, false, args.getInt 3, stringPayload base args 4⟩
  | some (.sharedMemoryRegion memory) =>
    let headerSize := MessageHeader.size BrowserMessageHeader
    if memory.length < headerSize then none
    else
      let header : BrowserMessageHeader :=
        (MessageHeader.read (memory.take headerSize)).getD ⟨0, 0, false⟩
      let payload : MessagePayload :=
        if header.isBinary then .binary (memory.drop headerSize)
        else .readString (memory.drop headerSize)
      some ⟨header.contextId, header.requestId, true, 0, payload⟩

structure RenderMessage where
  contextId : Int32
  requestId : Int32
  isPersistent : Bool
  payload : MessagePayload
  deriving DecidableEq

def RenderMessage.default : RenderMessage := ⟨0, 0, false, .empty⟩

/-- `From<Option<ProcessMessage>> for RenderMessage`. -/
def RenderMessage.from (base : UnicodeConversions) : Option ProcessMessage → Option RenderMessage
  | none => some .default
  | some (.argumentList args) =>
    let contextId := args.getInt 0
    let requestId := args.getInt 1
    let isPersistent := args.getBool 3
    match args.getType 2 with
    | .string => some ⟨contextId, requestId, isPersistent, stringPayload base args 2⟩
    | .binary => some ⟨contextId, requestId, isPersistent, .binaryValueBuffer (args.getBinary 2)⟩
    -- only a debug assertion here
    | _ => some ⟨contextId, requestId, isPersistent, .binary []⟩
  | some (.sharedMemoryRegion memory) =>
    let headerSize := MessageHeader.size (RendererMessageHeader true)
    if memory.length < headerSize then none
    else
      let header : RendererMessageHeader true :=
        (MessageHeader.read (memory.take headerSize)).getD ⟨0, 0, false, false⟩
      let payload : MessagePayload :=
        if header.isBinary then .binary (memory.drop headerSize)
        else .readString (memory.drop headerSize)
      some ⟨header.contextId, header.requestId, header.isPersistent, payload⟩

end CefCore.MessageRouter.Rust
