import CefCore.MessageRouter.RustMessages

/-!
# What arrives of the messages of the Rust router

A message that is sent and parsed comes back with its ids, its flag and its payload, with two
exceptions. An empty array of bytes is the payload `Empty`, which is not `Binary`, so that its
header in shared memory says that text follows; the C++ router never puts an empty payload into
shared memory. And a string that is not well-formed UTF-16 is dropped altogether on its way into
`CefStringUtf8`, although the conversion has produced a text.

## Main results

* `round_trip_iff`, `delivered_text_iff`: what comes back as it was.
-/

namespace CefCore.MessageRouter.Rust

open CefCore.MessageRouter List Option MessagePayload MessageHeader Utf16

variable (base : UnicodeConversions)

/-! ### Text on its way -/

lemma toString_mk (str : String) : (⟨some str⟩ : CefStringUtf8).toString = str := by
  by_cases h : str = "" <;> simp [CefStringUtf8.toString, CefStringUtf8.asStr, Option.filter, h]

lemma toCefString_fromUserfree (units : CefString) :
    (CefStringUtf16.fromUserfree units).toCefString = units := by
  cases units <;> rfl

lemma toCefString_fromUtf8 (s : CefStringUtf8) :
    (CefStringUtf16.fromUtf8 base s).toCefString = Utf16.encode s.toString.toList := by
  simp only [CefStringUtf16.fromUtf8, CefStringUtf16.toCefString, CefStringUtf8.toString,
    cefStringUtf8ToUtf16, base.utf8ToUtf16_eq, if_true]
  cases s.asStr <;> rfl

lemma toString_fromUtf16 (s : CefStringUtf16) : (CefStringUtf8.fromUtf16 base s).toString =
    if Utf16.WellFormed s.toCefString then String.ofList (Utf16.lossy s.toCefString) else "" := by
  have hempty : (CefStringUtf8.mk none).toString = "" := rfl
  cases hdata : s.data with
  | none =>
    simp only [CefStringUtf8.fromUtf16, CefStringUtf16.asSlice, CefStringUtf16.toCefString, hdata]
    rfl
  | some units =>
    by_cases hnil : units = []
    · simp only [CefStringUtf8.fromUtf16, CefStringUtf16.asSlice, CefStringUtf16.toCefString,
        hdata, hnil]
      rfl
    · have hslice : s.asSlice = some units := by
        simp [CefStringUtf16.asSlice, hdata, hnil, Option.filter]
      have hunits : s.toCefString = units := by simp [CefStringUtf16.toCefString, hdata]
      have htext := base.utf16ToUtf8_text units
      have hvalid := base.utf16ToUtf8_valid units
      simp only [CefStringUtf8.fromUtf16, hslice, bind_some, cefStringUtf16ToUtf8, hunits]
      by_cases hwf : Utf16.WellFormed units
      · simp [hvalid.mpr hwf, if_pos hwf, toString_mk, htext]
      · simp only [hvalid.not.mpr hwf, if_neg hwf]
        exact hempty

lemma asSlice_getD (s : CefStringUtf8) : s.asSlice.getD [] = utf8Bytes s.toString := by
  unfold CefStringUtf8.asSlice CefStringUtf8.toString
  cases s.asStr <;> rfl

/-! ### Payloads -/

/-- What a payload means: text, or bytes. -/
inductive Content where
  | text (value : String)
  | bytes (data : List UInt8)

namespace MessagePayload

/-- What a payload means; handlers are given an empty buffer for `Empty`. -/
def content : MessagePayload → Content
  | .empty => .bytes []
  | .string s => .text s.toString
  | .binary b => .bytes b

def bytes : MessagePayload → List UInt8
  | .empty => []
  | .string s => utf8Bytes s.toString
  | .binary b => b

lemma size_eq (payload : MessagePayload) : payload.size = payload.bytes.length := by
  cases payload with
  | empty => rfl
  | string s =>
    rw [size, bytes, ← asSlice_getD]
    cases s.asSlice <;> rfl
  | binary b => rfl

lemma write_eq (payload : MessagePayload) {memory : List UInt8} {position : Nat}
    (h : memory.length = position + payload.size) :
    payload.write memory position = some (memory.take position ++ payload.bytes) := by
  rw [size_eq] at h
  have hnone : payload.bytes = [] → some memory = some (memory.take position ++ payload.bytes) := by
    intro hnil
    rw [hnil, length_nil, Nat.add_zero] at h
    rw [hnil, ← h, take_length, append_nil]
  cases payload with
  | empty => exact hnone rfl
  | string s =>
    have hslice := asSlice_getD s
    simp only [write]
    cases hs : s.asSlice with
    | none =>
      rw [hs, getD_none] at hslice
      exact hnone hslice.symm
    | some buffer =>
      rw [hs, getD_some] at hslice
      simp only [bytes, ← hslice] at h ⊢
      exact writeAll_back h
  | binary b =>
    cases b with
    | nil => exact hnone rfl
    | cons byte b => exact writeAll_back h

lemma readString_utf8Bytes (s : String) : readString (utf8Bytes s) = fromStr s := by
  rw [readString, fromUtf8_utf8Bytes]
  rfl

def overList : MessagePayload → MessagePayload
  | .empty => .binary []
  | .string s => .string (CefStringUtf8.fromUtf16 base
      (CefStringUtf16.fromUserfree (Utf16.encode s.toString.toList)))
  | .binary b => .binary b

def overMemory : MessagePayload → MessagePayload
  | .empty => fromStr ""
  | .string s => fromStr s.toString
  | .binary b => .binary b

lemma content_overList (payload : MessagePayload) :
    (payload.overList base).content = payload.content := by
  cases payload with
  | empty => rfl
  | string s =>
    rw [overList, content, content, toString_fromUtf16, toCefString_fromUserfree,
      if_pos (wellFormed_encode _), lossy_encode, String.ofList_toList]
  | binary b => rfl

lemma content_fromStr (s : String) : (fromStr s).content = .text s :=
  congrArg Content.text (toString_mk s)

lemma content_overMemory_iff (payload : MessagePayload) :
    payload.overMemory.content = payload.content ↔ payload ≠ .empty := by
  cases payload with
  | empty =>
    rw [overMemory, content_fromStr]
    simp [content]
  | string s =>
    rw [overMemory, content_fromStr]
    simp [content]
  | binary b => simp [overMemory]

end MessagePayload

/-! ### The three ways -/

def UsesMemory (shared : Bool) (threshold : Nat) (payload : MessagePayload) : Prop :=
  threshold ≤ payload.size ∧ shared = true

instance (shared : Bool) (threshold : Nat) (payload : MessagePayload) :
    Decidable (UsesMemory shared threshold payload) :=
  inferInstanceAs (Decidable (_ ∧ _))

def arrived (shared : Bool) (threshold : Nat) (payload : MessagePayload) : MessagePayload :=
  if UsesMemory shared threshold payload then payload.overMemory else payload.overList base

lemma new_shared (Header : Type) [MessageHeader Header] (payload : MessagePayload) :
    SharedProcessMessageRouter.new Header true payload =
      .sharedMemory (List.replicate (MessageHeader.size Header) 0 ++ payload.bytes)
        payload.isBinary := by
  have hlength : (List.replicate (MessageHeader.size Header + payload.size) (0 : UInt8)).length =
      MessageHeader.size Header + payload.size := length_replicate ..
  have hwrite := payload.write_eq hlength
  rw [take_replicate, Nat.min_eq_left (Nat.le_add_right _ _)] at hwrite
  simp [SharedProcessMessageRouter.new, hwrite]

lemma buildShared_eq (Header : Type) [MessageHeader Header] (payload : MessagePayload)
    (isBinary : Bool) (contextId requestId : Int32) :
    SharedProcessMessageRouter.buildShared Header
        (List.replicate (MessageHeader.size Header) 0 ++ payload.bytes) isBinary
        contextId requestId =
      some (.sharedMemoryRegion (MessageHeader.write
        (MessageHeader.new contextId requestId isBinary : Header) ++ payload.bytes)) := by
  rw [SharedProcessMessageRouter.buildShared, writeAll_front, map_some]
  rw [length_replicate, length_write]

lemma flagByte_ne_zero (flag : Bool) : (flagByte flag != 0) = flag := by
  cases flag <;> rfl

lemma read_browserHeader (contextId requestId : Int32) (isBinary : Bool) :
    MessageHeader.read (MessageHeader.write
        (⟨contextId, requestId, isBinary⟩ : BrowserMessageHeader)) =
      some (⟨contextId, requestId, isBinary⟩ : BrowserMessageHeader) := by
  have hc := (fromNeBytes_toNeBytes contextId).2
  have hr := (fromNeBytes_toNeBytes requestId).2
  simp only [MessageHeader.read, MessageHeader.write, (fromNeBytes_toNeBytes _).1,
    cons_append, nil_append, hc, hr, flagByte_ne_zero]

lemma read_rendererHeader {p q : Bool} (contextId requestId : Int32)
    (isPersistent isBinary : Bool) :
    MessageHeader.read (MessageHeader.write
        (⟨contextId, requestId, isPersistent, isBinary⟩ : RendererMessageHeader p)) =
      some (⟨contextId, requestId, isPersistent, isBinary⟩ : RendererMessageHeader q) := by
  have hc := (fromNeBytes_toNeBytes contextId).2
  have hr := (fromNeBytes_toNeBytes requestId).2
  simp only [MessageHeader.read, MessageHeader.write, (fromNeBytes_toNeBytes _).1,
    cons_append, nil_append, hc, hr, flagByte_ne_zero]

/-! ### What is received -/

lemma fromString_setString (s : CefStringUtf8) :
    CefString.fromString base ((CefStringUtf16.fromUtf8 base s).toCefString.toString base) =
      Utf16.encode s.toString.toList := by
  rw [fromString_toString, toCefString_fromUtf8, lossy_encode]

lemma browserMessage_from_list (contextId requestId : Int32) {payload : MessagePayload}
    (h : payload ≠ .binary []) :
    BrowserMessage.from base (some (buildBrowserListMessage base contextId requestId payload)) =
      some ⟨contextId, requestId, true, 0, payload.overList base⟩ := by
  rw [buildBrowserListMessage, ListValue.setInt_setInt]
  cases payload with
  | empty => rfl
  | string s =>
    rw [MessagePayload.overList, ← fromString_setString base s]
    rfl
  | binary b =>
    cases b with
    | nil => exact absurd rfl h
    | cons byte b => rfl

lemma renderMessage_from_list (contextId requestId : Int32) {payload : MessagePayload}
    (isPersistent : Bool) (h : payload ≠ .binary []) :
    RenderMessage.from base
        (some (buildRenderListMessage base contextId requestId payload isPersistent)) =
      some ⟨contextId, requestId, isPersistent, payload.overList base⟩ := by
  rw [buildRenderListMessage, ListValue.setInt_setInt]
  cases payload with
  | empty => rfl
  | string s =>
    rw [MessagePayload.overList, ← fromString_setString base s]
    rfl
  | binary b =>
    cases b with
    | nil => exact absurd rfl h
    | cons byte b => rfl

lemma payload_of_region (payload : MessagePayload) :
    (if payload.isBinary then MessagePayload.binary payload.bytes
      else MessagePayload.readString payload.bytes) = payload.overMemory := by
  cases payload with
  | empty => exact readString_utf8Bytes ""
  | string s => exact readString_utf8Bytes s.toString
  | binary b => rfl

lemma browserMessage_from_region (contextId requestId : Int32) (payload : MessagePayload) :
    BrowserMessage.from base (some (.sharedMemoryRegion (MessageHeader.write
        (⟨contextId, requestId, payload.isBinary⟩ : BrowserMessageHeader) ++ payload.bytes))) =
      some ⟨contextId, requestId, true, 0, payload.overMemory⟩ := by
  set header : BrowserMessageHeader := ⟨contextId, requestId, payload.isBinary⟩ with hheader
  have hlength : (MessageHeader.write header).length = MessageHeader.size BrowserMessageHeader :=
    length_write header
  have hfits : ¬ (MessageHeader.write header ++ payload.bytes).length <
      (MessageHeader.write header).length := by
    rw [length_append]
    exact Nat.not_lt.mpr (Nat.le_add_right _ _)
  simp only [BrowserMessage.from, if_neg hfits, ← hlength, take_left, drop_left]
  rw [hheader, read_browserHeader, getD_some, payload_of_region]

lemma renderMessage_from_region (contextId requestId : Int32) (isPersistent : Bool)
    (payload : MessagePayload) :
    RenderMessage.from base (some (.sharedMemoryRegion (MessageHeader.write
        (⟨contextId, requestId, isPersistent, payload.isBinary⟩ :
          RendererMessageHeader isPersistent) ++ payload.bytes))) =
      some ⟨contextId, requestId, isPersistent, payload.overMemory⟩ := by
  set header : RendererMessageHeader isPersistent :=
    ⟨contextId, requestId, isPersistent, payload.isBinary⟩ with hheader
  have hlength : (MessageHeader.write header).length =
      MessageHeader.size (RendererMessageHeader true) := length_write header
  have hfits : ¬ (MessageHeader.write header ++ payload.bytes).length <
      (MessageHeader.write header).length := by
    rw [length_append]
    exact Nat.not_lt.mpr (Nat.le_add_right _ _)
  simp only [RenderMessage.from, if_neg hfits, ← hlength, take_left, drop_left]
  rw [hheader, read_rendererHeader, getD_some, payload_of_region]

theorem browserMessage_from_built (shared : Bool) (threshold : Nat)
    (contextId requestId : Int32) {payload : MessagePayload} (h : payload ≠ .binary []) :
    BrowserMessage.from base
        ((createBrowserResponseBuilder base shared threshold payload).buildBrowserResponse
          contextId requestId) =
      some ⟨contextId, requestId, true, 0, arrived base shared threshold payload⟩ := by
  have hlist := browserMessage_from_list base contextId requestId h
  unfold createBrowserResponseBuilder arrived
  by_cases hsize : payload.size < threshold
  · have hno : ¬ UsesMemory shared threshold payload :=
      fun hmem => absurd hmem.1 (Nat.not_le.mpr hsize)
    rw [if_pos hsize, if_neg hno]
    exact hlist
  · rw [if_neg hsize]
    cases shared with
    | false =>
      have hno : ¬ UsesMemory false threshold payload := fun hmem => nomatch hmem.2
      rw [if_neg hno]
      exact hlist
    | true =>
      have hyes : UsesMemory true threshold payload := ⟨Nat.not_lt.mp hsize, rfl⟩
      rw [if_pos hyes, new_shared]
      simp only [SharedProcessMessageRouter.builder, buildShared_eq]
      exact browserMessage_from_region base contextId requestId payload

/-- **What the browser makes of a query** that the renderer has built. -/
theorem renderMessage_from_built (shared : Bool) (threshold : Nat)
    (contextId requestId : Int32) (request : Option RequestV8Value) (persistent : Bool)
    (h : requestPayload base request ≠ .binary []) :
    RenderMessage.from base
        (buildRendererMessage base shared threshold contextId requestId request persistent) =
      some ⟨contextId, requestId, persistent,
        arrived base shared threshold (requestPayload base request)⟩ := by
  have hlist := renderMessage_from_list base contextId requestId persistent h
  unfold buildRendererMessage arrived
  by_cases hsize : (requestPayload base request).size < threshold
  · have hno : ¬ UsesMemory shared threshold (requestPayload base request) :=
      fun hmem => absurd hmem.1 (Nat.not_le.mpr hsize)
    rw [if_neg hno]
    simp only [if_pos hsize]
    exact hlist
  · simp only [if_neg hsize]
    cases shared with
    | false =>
      have hno : ¬ UsesMemory false threshold (requestPayload base request) :=
        fun hmem => nomatch hmem.2
      rw [if_neg hno]
      cases persistent <;> exact hlist
    | true =>
      have hyes : UsesMemory true threshold (requestPayload base request) :=
        ⟨Nat.not_lt.mp hsize, rfl⟩
      rw [if_pos hyes]
      have hregion :=
        renderMessage_from_region base contextId requestId persistent (requestPayload base request)
      cases persistent with
      | false =>
        simp only [Bool.false_eq_true, if_false, new_shared, SharedProcessMessageRouter.builder,
          buildShared_eq]
        exact hregion
      | true =>
        simp only [if_true, new_shared, SharedProcessMessageRouter.builder, buildShared_eq]
        exact hregion

/-! ### Round trips -/

/-- The payload that a content is answered with, from a `&str` or a `&[u8]`. -/
def Content.payload : Content → MessagePayload
  | .text s => .fromStr s
  | .bytes data => .fromBytes data

/-- The request that a content is sent with: a string, or an array buffer. -/
def Content.request : Content → RequestV8Value
  | .text s => .string (Utf16.encode s.toList)
  | .bytes data => .arrayBuffer data

/-- A response comes back with its ids, as a success, and with its content. -/
def BrowserRoundTrips (shared : Bool) (threshold : Nat) (content : Content)
    (contextId requestId : Int32) : Prop :=
  ∃ message, BrowserMessage.from base
      ((createBrowserResponseBuilder base shared threshold content.payload).buildBrowserResponse
        contextId requestId) = some message ∧
    message.contextId = contextId ∧ message.requestId = requestId ∧ message.isSuccess = true ∧
    message.errorCode = 0 ∧ message.payload.content = content

/-- A query comes back with its ids, its persistent flag and its content. -/
def RenderRoundTrips (shared : Bool) (threshold : Nat) (content : Content)
    (contextId requestId : Int32) (persistent : Bool) : Prop :=
  ∃ message, RenderMessage.from base
      (buildRendererMessage base shared threshold contextId requestId (some content.request)
        persistent) = some message ∧
    message.contextId = contextId ∧ message.requestId = requestId ∧
    message.isPersistent = persistent ∧ message.payload.content = content

/-- The empty array of bytes is put into shared memory. -/
def EmptyInMemory (shared : Bool) (threshold : Nat) (content : Content) : Prop :=
  content = .bytes [] ∧ threshold = 0 ∧ shared = true

/-- A payload with a given meaning; an empty array of bytes is the payload `Empty`. -/
structure Means (payload : MessagePayload) (content : Content) : Prop where
  content_eq : payload.content = content
  empty : payload = .empty ↔ content = .bytes []

lemma Means.ne_binary {payload : MessagePayload} {content : Content} (h : Means payload content) :
    payload ≠ .binary [] := by
  rintro rfl
  exact nomatch h.empty.mpr h.content_eq.symm

lemma means_payload (content : Content) : Means content.payload content := by
  cases content with
  | text s => exact ⟨content_fromStr s, by simp [Content.payload,
      MessagePayload.fromStr]⟩
  | bytes data => cases data <;> exact ⟨rfl, by simp [Content.payload, MessagePayload.fromBytes,
      MessagePayload.binaryValueBuffer]⟩

lemma means_request (content : Content) :
    Means (requestPayload base (some content.request)) content := by
  cases content with
  | text s =>
    have htext := toString_fromUtf16 base (CefStringUtf16.fromUserfree (Utf16.encode s.toList))
    rw [toCefString_fromUserfree, if_pos (wellFormed_encode _), lossy_encode,
      String.ofList_toList] at htext
    exact ⟨congrArg Content.text htext, by simp [Content.request, requestPayload,
      MessagePayload.fromCefString]⟩
  | bytes data =>
    cases data with
    | nil => exact ⟨rfl, by simp [Content.request, requestPayload, MessagePayload.fromV8Value]⟩
    | cons byte data => exact ⟨rfl, by simp [Content.request, requestPayload,
        MessagePayload.fromV8Value, binaryValueCreate, MessagePayload.binaryValueBuffer]⟩

lemma content_arrived_iff {payload : MessagePayload} {content : Content} (h : Means payload content)
    (shared : Bool) (threshold : Nat) :
    (arrived base shared threshold payload).content = content ↔
      ¬ EmptyInMemory shared threshold content := by
  unfold arrived
  split
  · rename_i hmem
    rw [← h.content_eq, content_overMemory_iff, h.content_eq, not_iff_not, h.empty]
    constructor
    · intro hnil
      have hsize : payload.size = 0 := by rw [h.empty.mpr hnil]; rfl
      exact ⟨hnil, Nat.le_zero.mp (hsize ▸ hmem.1), hmem.2⟩
    · exact fun hempty => hempty.1
  · rename_i hmem
    refine iff_of_true ((content_overList base payload).trans h.content_eq) ?_
    rintro ⟨-, rfl, rfl⟩
    exact hmem ⟨Nat.zero_le _, rfl⟩

/-- **The messages of the Rust router** come back in both directions, for all ids, flags and
thresholds and on all three ways, if and only if the payload is not an empty array of bytes that
is put into shared memory. -/
theorem round_trip_iff (shared : Bool) (threshold : Nat) (content : Content)
    (contextId requestId : Int32) (persistent : Bool) :
    (BrowserRoundTrips base shared threshold content contextId requestId ↔
        ¬ EmptyInMemory shared threshold content) ∧
      (RenderRoundTrips base shared threshold content contextId requestId persistent ↔
        ¬ EmptyInMemory shared threshold content) := by
  have hpayload := means_payload content
  have hrequest := means_request base content
  constructor
  · rw [← content_arrived_iff base hpayload, BrowserRoundTrips,
      browserMessage_from_built base shared threshold contextId requestId hpayload.ne_binary]
    simp
  · rw [← content_arrived_iff base hrequest, RenderRoundTrips,
      renderMessage_from_built base shared threshold contextId requestId _ persistent
        hrequest.ne_binary]
    simp

/-- With threshold 0 an empty response and an empty query arrive as text. -/
theorem empty_bytes_arrive_as_text :
    ¬ BrowserRoundTrips .standard true 0 (.bytes []) 1 1 ∧
      ¬ RenderRoundTrips .standard true 0 (.bytes []) 1 1 false := by
  have hbrowser : BrowserMessage.from .standard ((createBrowserResponseBuilder .standard true 0
      (Content.bytes []).payload).buildBrowserResponse 1 1) =
        some ⟨1, 1, true, 0, .string ⟨some ""⟩⟩ := by decide
  have hrender : RenderMessage.from .standard (buildRendererMessage .standard true 0 1 1
      (some (Content.bytes []).request) false) = some ⟨1, 1, false, .string ⟨some ""⟩⟩ := by decide
  constructor
  · rintro ⟨message, hfrom, -, -, -, -, hcontent⟩
    obtain rfl := some.inj (hbrowser.symm.trans hfrom)
    exact nomatch hcontent
  · rintro ⟨message, hfrom, -, -, -, hcontent⟩
    obtain rfl := some.inj (hrender.symm.trans hfrom)
    exact nomatch hcontent

/-! ### Text that JavaScript sends -/

/-- The text that `on_query_str` is called with for a string of JavaScript. -/
def deliveredText (shared : Bool) (threshold : Nat) (contextId requestId : Int32)
    (persistent : Bool) (value : CefString) : Option String :=
  (RenderMessage.from base (buildRendererMessage base shared threshold contextId requestId
    (some (.string value)) persistent)).bind fun message =>
      match message.payload with
      | .string payload => some payload.toString
      | _ => none

lemma deliveredText_eq (shared : Bool) (threshold : Nat) (contextId requestId : Int32)
    (persistent : Bool) (value : CefString) :
    deliveredText base shared threshold contextId requestId persistent value =
      some (if Utf16.WellFormed value then String.ofList (Utf16.lossy value) else "") := by
  have hkept := toString_fromUtf16 base (CefStringUtf16.fromUserfree value)
  rw [toCefString_fromUserfree] at hkept
  have hmeans : Means (requestPayload base (some (.string value))) (.text _) :=
    ⟨congrArg Content.text hkept, by simp [requestPayload, MessagePayload.fromCefString]⟩
  have harrived := (content_arrived_iff base hmeans shared threshold).mpr fun h => nomatch h.1
  rw [deliveredText, renderMessage_from_built base shared threshold contextId requestId _
    persistent hmeans.ne_binary, bind_some]
  cases hpayload : arrived base shared threshold (requestPayload base (some (.string value))) with
  | empty =>
    rw [hpayload] at harrived
    exact nomatch harrived
  | string s =>
    rw [hpayload] at harrived
    exact congrArg some (Content.text.inj harrived)
  | binary b =>
    rw [hpayload] at harrived
    exact nomatch harrived

/-- **Text that JavaScript sends** is delivered with a replacement for each unpaired surrogate, and
not dropped, if and only if there is none.

**Proof sketch.** A string with an unpaired surrogate is not empty, and neither is its text with
replacements, while the text that is delivered is. -/
theorem delivered_text_iff (shared : Bool) (threshold : Nat) (contextId requestId : Int32)
    (persistent : Bool) (value : CefString) :
    (deliveredText base shared threshold contextId requestId persistent value =
          some (String.ofList (Utf16.lossy value)) ∧
        (value ≠ [] →
          deliveredText base shared threshold contextId requestId persistent value ≠ some "")) ↔
      Utf16.WellFormed value := by
  have hempty : String.ofList (Utf16.lossy value) = "" ↔ value = [] := by
    rw [← String.ofList_nil, String.ofList_inj, lossy_eq_nil]
  rw [deliveredText_eq]
  constructor
  · rintro ⟨-, hkept⟩
    by_contra hill
    rw [if_neg hill] at hkept
    have hnil : value = [] := by
      by_contra hne
      exact hkept hne rfl
    subst hnil
    exact hill (wellFormed_encode [])
  · intro hwf
    rw [if_pos hwf]
    exact ⟨rfl, fun hne htext => hne (hempty.mp (some.inj htext))⟩

/-- A lone surrogate between letters takes the letters with it. -/
theorem lone_surrogate_drops_text :
    ¬ (deliveredText .standard true 16384 1 1 false [0x61, 0xD800, 0x62] =
          some (String.ofList (Utf16.lossy [0x61, 0xD800, 0x62])) ∧
        (([0x61, 0xD800, 0x62] : CefString) ≠ [] →
          deliveredText .standard true 16384 1 1 false [0x61, 0xD800, 0x62] ≠ some "")) := by
  have hill : ¬ Utf16.WellFormed [0x61, 0xD800, 0x62] := by decide
  have hdelivered := deliveredText_eq .standard true 16384 1 1 false [0x61, 0xD800, 0x62]
  rw [if_neg hill] at hdelivered
  exact fun h => h.2 (by simp) hdelivered

end CefCore.MessageRouter.Rust
