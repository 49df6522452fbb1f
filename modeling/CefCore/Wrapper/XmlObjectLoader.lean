import CefCore.Wrapper.XmlObject

/-!
# Loading XML objects

`CefXmlObjectLoader` of `libcef_dll/wrapper/cef_xml_object.cc`. A reader goes through a document node
by node, and the loader makes objects of the elements. An element whose content starts with text has
a value instead of children: from there on its content is one text, with the elements as they are
written.

## Main definitions

* `CefXmlObjectLoader.load`: the loop.

## Implementation notes

* Texts are those of the reader, which are valid.
* How an element is written is up to the reader: `outerXml` is a parameter, and so are the lines.
-/

namespace CefCore.Wrapper.XmlObjectLoader

inductive TextType where
  | text
  | cdata
  | entityReference

/-- The kinds of nodes that the loader does not look at. -/
inductive OtherType where
  | unsupported
  | processingInstruction
  | documentType
  | attribute
  | whitespace
  | comment

inductive NodeType where
  | elementStart
  | elementEnd
  | text (type : TextType)
  | other (type : OtherType)

/-- What the methods of `CefXmlReader` return at one node. -/
structure ReaderNode where
  type : NodeType
  depth : Int
  namePrefix : String := ""
  qualifiedName : String := ""
  value : String := ""
  attributes : List (String × String) := []
  isEmptyElement : Bool := false
  outerXml : String := ""
  lineNumber : Int := 0

/-- `CefXmlReader`: the nodes to which `MoveToNextNode` moves, and the error behind them. -/
structure Reader where
  nodes : List ReaderNode
  error : Option String := none

/-- The variables of `CefXmlObjectLoader::Load`. The back of the queue comes first. -/
structure LoaderState where
  heap : Heap
  curObject : Nat
  queue : List Nat
  valueDepth : Int := -1
  curValue : String := ""
  lastHasNs : Bool := false
  ret : Bool := true
  loadError : String := ""

def LoaderState.fail (s : LoaderState) (text : String) (lineNumber : Int) : LoaderState :=
  { s with ret := false, loadError := text ++ ", line " ++ toString lineNumber }

def setAttributes (this : Nat) : Heap → List (String × String) → Except Stop Heap
  | h, [] => pure h
  | h, (name, value) :: attributes => do
    let (_, h) ← setAttributeValue [] h this name value
    setAttributes this h attributes

section

variable (s : LoaderState) (node : ReaderNode)

def startElement : Except Stop LoaderState := do
  let (newObject, h) := s.heap.alloc { name := node.qualifiedName }
  let (_, h) ← addChild [] h s.curObject newObject
  let h ← setAttributes newObject h node.attributes
  let s := { s with heap := h, lastHasNs := node.namePrefix ≠ "" }
  pure (if node.isEmptyElement then s
    else { s with curObject := newObject, queue := newObject :: s.queue })

/-- A value starts at this node, unless the current object has children. -/
def startValue (text : String) : Except Stop LoaderState := do
  let parental ← hasChildren [] s.heap s.curObject
  pure (if !parental then { s with valueDepth := node.depth, curValue := s.curValue ++ text }
    else s.fail "Value following child element" node.lineNumber)

def elementStart : Except Stop LoaderState :=
  if node.depth = s.valueDepth then pure { s with curValue := s.curValue ++ node.outerXml }
  else if s.lastHasNs = true ∧ node.namePrefix = "" then startValue s node node.outerXml
  else startElement s node

def endValue : Except Stop LoaderState :=
  if node.depth < s.valueDepth then do
    let (_, h) ← setValue [] s.heap s.curObject s.curValue
    pure { s with heap := h, curValue := "", valueDepth := -1 }
  else pure s

def popElement : Except Stop LoaderState := do
  let name ← getName [] s.heap s.curObject
  match s.queue.tail with
  | [] => pure ({ s with queue := [] }.fail ("Mismatched end tag for " ++ name) node.lineNumber)
  | top :: queue =>
    if name ≠ node.qualifiedName then
      pure ({ s with queue := top :: queue }.fail ("Mismatched end tag for " ++ name)
        node.lineNumber)
    else pure { s with curObject := top, queue := top :: queue }

def elementEnd : Except Stop LoaderState :=
  if node.depth = s.valueDepth then pure s
  else do
    let s ← endValue s node
    popElement s node

def text : Except Stop LoaderState :=
  if node.depth = s.valueDepth then pure { s with curValue := s.curValue ++ node.value }
  else startValue s node node.value

def step : Except Stop LoaderState :=
  if 0 ≤ s.valueDepth ∧ s.valueDepth < node.depth then pure s
  else
    match node.type with
    | .elementStart => elementStart s node
    | .elementEnd => elementEnd s node
    | .text _ => text s node
    | .other _ => pure s

end

def loop : LoaderState → List ReaderNode → Except Stop LoaderState
  | s, [] => pure s
  | s, node :: nodes => do
    let s ← step s node
    if s.ret then loop s nodes else pure s

/-- `CefXmlObjectLoader::Load`: the result, the error, and the objects. -/
def loaderLoad (h : Heap) (rootObject : Nat) (reader : Option Reader) :
    Except Stop (Bool × String × Heap) :=
  match reader with
  | none => pure (false, "", h)
  | some reader => do
    let s ← loop { heap := h, curObject := rootObject, queue := [rootObject] } reader.nodes
    match reader.error with
    | some error => pure (false, error, s.heap)
    | none => pure (s.ret && !reader.nodes.isEmpty, s.loadError, s.heap)

def load (h : Heap) (this : Nat) (reader : Option Reader) : Except Stop (Bool × String × Heap) := do
  let h ← clear [] h this
  loaderLoad h this reader

/-! ### Documents -/

/-- The nodes of a document. An element can be written as one tag. -/
inductive XmlNode where
  | element (name : String) (attributes : List (String × String)) (content : List XmlNode)
  | emptyElement (name : String) (attributes : List (String × String))
  | text (type : TextType) (value : String)
  | other (type : OtherType)

namespace XmlNode

def isText : XmlNode → Bool
  | text _ _ => true
  | _ => false

def isElement : XmlNode → Bool
  | element _ _ _ | emptyElement _ _ => true
  | _ => false

def content : XmlNode → List XmlNode
  | element _ _ content => content
  | _ => []

/-- The rule that follows the way a document is built. -/
theorem ind {P : XmlNode → Prop}
    (hElement : ∀ name attributes content, (∀ n ∈ content, P n) →
      P (element name attributes content))
    (hEmpty : ∀ name attributes, P (emptyElement name attributes))
    (hText : ∀ type value, P (text type value)) (hOther : ∀ type, P (other type)) : ∀ n, P n
  | element name attributes content =>
    hElement name attributes content fun n hn =>
      have := List.sizeOf_lt_of_mem hn
      ind hElement hEmpty hText hOther n
  | emptyElement name attributes => hEmpty name attributes
  | text type value => hText type value
  | other type => hOther type

section Events

variable (outerXml : XmlNode → String) (line : XmlNode → Bool → Int)

mutual

/-- The nodes to which a reader moves. What is in an element is one level deeper. -/
def events (depth : Int) : XmlNode → List ReaderNode
  | element name attributes content =>
    { type := .elementStart, depth := depth, qualifiedName := name, attributes := attributes,
      outerXml := outerXml (element name attributes content),
      lineNumber := line (element name attributes content) false } ::
      (eventsIn (depth + 1) content ++
        [{ type := .elementEnd, depth := depth, qualifiedName := name,
           lineNumber := line (element name attributes content) true }])
  | emptyElement name attributes =>
    [{ type := .elementStart, depth := depth, qualifiedName := name, attributes := attributes,
       isEmptyElement := true, outerXml := outerXml (emptyElement name attributes),
       lineNumber := line (emptyElement name attributes) false }]
  | text type value =>
    [{ type := .text type, depth := depth, value := value,
       lineNumber := line (text type value) false }]
  | other type => [{ type := .other type, depth := depth, lineNumber := line (other type) false }]

def eventsIn (depth : Int) : List XmlNode → List ReaderNode
  | [] => []
  | n :: ns => events depth n ++ eventsIn depth ns

end

def piece : XmlNode → String
  | text _ value => value
  | other _ => ""
  | n => outerXml n

def valueOf (content : List XmlNode) : String := String.join (content.map (piece outerXml))

end Events

def startsWithText (content : List XmlNode) : Bool :=
  match content.find? fun n => n.isText || n.isElement with
  | some n => n.isText
  | none => false

end XmlNode

/-- An object with its name, value, attributes and children. -/
inductive XmlTree where
  | node (name value : String) (attributes : List (String × String)) (children : List XmlTree)

open XmlNode

section Trees

variable (outerXml : XmlNode → String)

mutual

/-- The objects of a document, one for an element and none for other nodes. An element whose content
starts with text has a value, another one has children. -/
def XmlNode.trees : XmlNode → List XmlTree
  | .element name attributes content =>
    if startsWithText content then [.node name (valueOf outerXml content) attributes []]
    else [.node name "" attributes (treesIn content)]
  | .emptyElement name attributes => [.node name "" attributes []]
  | .text _ _ => []
  | .other _ => []

def XmlNode.treesIn : List XmlNode → List XmlTree
  | [] => []
  | n :: ns => XmlNode.trees n ++ XmlNode.treesIn ns

end

end Trees

/-- Some text is behind an element, and no text is before the first element. -/
def TextAfterChild (content : List XmlNode) : Prop :=
  ∃ front back n, content = front ++ n :: back ∧ n.isText = true ∧
    (∃ e ∈ front, e.isElement = true) ∧ ∀ t ∈ front, t.isText = false

/-- `e` is `n` itself or an element in it that is not part of a value. -/
inductive Standing (n : XmlNode) : XmlNode → Prop
  | self : Standing n n
  | child {p e : XmlNode} (h : Standing n p) (hp : startsWithText p.content = false)
    (he : e ∈ p.content) : Standing n e

mutual

/-- The attributes of each element have different names, which are not empty. -/
def XmlNode.WellFormed : XmlNode → Prop
  | .element _ attributes content =>
    (attributes.map Prod.fst).Nodup ∧ "" ∉ attributes.map Prod.fst ∧ WellFormedIn content
  | .emptyElement _ attributes =>
    (attributes.map Prod.fst).Nodup ∧ "" ∉ attributes.map Prod.fst
  | .text _ _ => True
  | .other _ => True

def XmlNode.WellFormedIn : List XmlNode → Prop
  | [] => True
  | n :: ns => XmlNode.WellFormed n ∧ XmlNode.WellFormedIn ns

end

section Shows

variable (h : Heap) (lo hi : Nat)

mutual

/-- The object `i` and those below it are new, made between the addresses `lo` and `hi`, and are what
the tree says. -/
def Shows (parent i : Nat) : XmlTree → Prop
  | .node name value attributes children =>
    lo ≤ i ∧ i < hi ∧ (h.object i).name = name ∧ (h.object i).parent = some parent ∧
      (h.object i).value = value ∧
      (∀ key, (h.object i).attributes.lookup key = attributes.lookup key) ∧
      ShowsAll i (h.object i).children children

/-- The children of `parent` are what the trees say, in the same order. -/
def ShowsAll (parent : Nat) : List Nat → List XmlTree → Prop
  | is, [] => is = []
  | is, t :: ts => ∃ i rest, is = i :: rest ∧ Shows parent i t ∧ ShowsAll parent rest ts

end

end Shows

end CefCore.Wrapper.XmlObjectLoader
