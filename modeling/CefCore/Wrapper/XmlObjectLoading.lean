import CefCore.Wrapper.XmlObjectLoader

/-!
# Documents that are loaded

The loader goes through the nodes of a document in one loop. While it is not in a value, the queue
holds the elements that are open, and the objects below the current one are those of what has been
read of its content.

## Main results

* `load_iff`: which documents are loaded, and as what.
-/

namespace CefCore.Wrapper.XmlObjectLoader

open List Option Nat

open XmlNode

variable {outerXml : XmlNode → String} {line : XmlNode → Bool → Int}

/-! ### Which documents are loaded -/

mutual

def XmlNode.loads : XmlNode → Bool
  | .element _ _ content => startsWithText content || (content.all (fun n => !n.isText) && loadsIn content)
  | .emptyElement _ _ => true
  | .text _ _ => true
  | .other _ => true

def XmlNode.loadsIn : List XmlNode → Bool
  | [] => true
  | n :: ns => XmlNode.loads n && XmlNode.loadsIn ns

end

lemma loadsIn_iff : ∀ {ns : List XmlNode}, XmlNode.loadsIn ns = true ↔ ∀ n ∈ ns, n.loads = true
  | [] => by simp [XmlNode.loadsIn]
  | n :: ns => by
    rw [XmlNode.loadsIn, Bool.and_eq_true, loadsIn_iff, forall_mem_cons]

lemma wellFormedIn_iff : ∀ {ns : List XmlNode}, XmlNode.WellFormedIn ns ↔ ∀ n ∈ ns, n.WellFormed
  | [] => by simp [XmlNode.WellFormedIn]
  | n :: ns => by
    rw [XmlNode.WellFormedIn, wellFormedIn_iff, forall_mem_cons]

lemma startsWithText_cons (n : XmlNode) (ns : List XmlNode) : startsWithText (n :: ns) =
    (n.isText || !n.isElement && startsWithText ns) := by
  unfold startsWithText
  cases n <;> rfl

lemma textAfterChild_iff {content : List XmlNode} : TextAfterChild content ↔
    startsWithText content = false ∧ ∃ n ∈ content, n.isText = true := by
  constructor
  · rintro ⟨front, back, n, rfl, hn, ⟨e, he, helement⟩, hfront⟩
    refine ⟨?_, n, mem_append_right _ mem_cons_self, hn⟩
    unfold startsWithText
    rw [find?_append]
    cases hfind : front.find? fun n => n.isText || n.isElement with
    | none =>
      have hnot := find?_eq_none.mp hfind e he
      simp [helement] at hnot
    | some first => exact hfront first (mem_of_find?_eq_some hfind)
  · rintro ⟨hstart, n, hn, htext⟩
    -- the first text
    obtain ⟨t, hfind⟩ : ∃ t, content.find? XmlNode.isText = some t :=
      isSome_iff_exists.mp (find?_isSome.mpr ⟨n, hn, htext⟩)
    obtain ⟨ht, front, back, rfl, hfront⟩ := find?_eq_some_iff_append.mp hfind
    have hfront' : ∀ x ∈ front, x.isText = false := by simpa using hfront
    refine ⟨front, back, t, rfl, ht, ?_, hfront'⟩
    by_contra hnone
    have hskip : front.find? (fun n => n.isText || n.isElement) = none := by
      refine find?_eq_none.mpr fun x hx hfound => hnone ⟨x, hx, ?_⟩
      simpa [hfront' x hx] using hfound
    unfold startsWithText at hstart
    rw [find?_append, hskip, none_or, find?_cons_of_pos (by simp [ht])] at hstart
    exact Bool.false_ne_true (hstart.symm.trans ht)

lemma loads_iff : ∀ n : XmlNode,
    n.loads = true ↔ ∀ e, Standing n e → ¬ TextAfterChild e.content := by
  have hleaf : ∀ {n : XmlNode}, n.content = [] → ∀ e, Standing n e → ¬ TextAfterChild e.content := by
    intro n hn e he htext
    have hself : ∀ e, Standing n e → e = n := by
      intro e he
      induction he with
      | self => rfl
      | child _ _ hmem ih =>
        rw [ih, hn] at hmem
        cases hmem
    obtain ⟨-, t, ht, -⟩ := textAfterChild_iff.mp htext
    rw [hself e he, hn] at ht
    cases ht
  refine XmlNode.ind (fun name attributes content ih => ?_) (fun name attributes => ?_)
    (fun type value => ?_) fun type => ?_
  · rw [XmlNode.loads, Bool.or_eq_true, Bool.and_eq_true, List.all_eq_true, loadsIn_iff]
    constructor
    · intro h e he
      -- below the element, and before it is left for the first time
      have hbelow : e = .element name attributes content ∨ startsWithText content = false ∧
          ∃ n ∈ content, Standing n e := by
        induction he with
        | self => exact .inl rfl
        | @child p e hp hstart hmem ih =>
          rcases ih with rfl | ⟨hcontent, n, hn, hstanding⟩
          · exact .inr ⟨hstart, e, hmem, .self⟩
          · exact .inr ⟨hcontent, n, hn, hstanding.child hstart hmem⟩
      rcases hbelow with rfl | ⟨hstart, n, hn, hstanding⟩
      · intro htext
        obtain ⟨hstart, t, ht, hisText⟩ := textAfterChild_iff.mp htext
        rcases h with hvalue | ⟨hnone, -⟩
        · exact Bool.false_ne_true (hstart.symm.trans hvalue)
        · have := hnone t ht
          simp [hisText] at this
      · rcases h with hvalue | ⟨-, hloads⟩
        · exact absurd (hstart.symm.trans hvalue) Bool.false_ne_true
        · exact (ih n hn).mp (hloads n hn) e hstanding
    · intro h
      cases hstart : startsWithText content with
      | true => exact .inl rfl
      | false =>
        refine .inr ⟨fun n hn => ?_, fun n hn => (ih n hn).mpr fun e he => ?_⟩
        · by_contra htext
          refine h _ .self (textAfterChild_iff.mpr ⟨hstart, n, hn, by simpa using htext⟩)
        · refine h e ?_
          have hchild : Standing (.element name attributes content) n := .child .self hstart hn
          clear h
          induction he with
          | self => exact hchild
          | child _ hp hmem ih => exact ih.child hp hmem
  · exact iff_of_true rfl (hleaf rfl)
  · exact iff_of_true rfl (hleaf rfl)
  · exact iff_of_true rfl (hleaf rfl)

/-! ### The loop in a value -/

variable {p : Nat} {s : LoaderState}

lemma loop_cons {s' : LoaderState} {node : ReaderNode} (hstep : step s node = .ok s')
    (nodes : List ReaderNode) :
    loop s (node :: nodes) = if s'.ret then loop s' nodes else .ok s' := by
  rw [loop, hstep]
  rfl

lemma loop_skip (hvalue : 0 ≤ s.valueDepth) (hret : s.ret = true)
    (rest : List ReaderNode) : ∀ {nodes : List ReaderNode},
      (∀ node ∈ nodes, s.valueDepth < node.depth) → loop s (nodes ++ rest) = loop s rest
  | [], _ => rfl
  | node :: nodes, h => by
    have hstep : step s node = .ok s := by
      rw [step, if_pos ⟨hvalue, h node mem_cons_self⟩]
      rfl
    rw [cons_append, loop_cons hstep, if_pos hret]
    exact loop_skip hvalue hret rest fun node' hmem => h node' (mem_cons_of_mem _ hmem)

lemma le_depth_of_mem_events : ∀ (n : XmlNode) (depth : Int),
    ∀ node ∈ n.events outerXml line depth, depth ≤ node.depth := by
  refine XmlNode.ind (fun name attributes content ih depth node hnode => ?_)
    (fun name attributes depth node hnode => ?_) (fun type value depth node hnode => ?_)
    fun type depth node hnode => ?_
  · have hin : ∀ ns, (∀ n ∈ ns, n ∈ content) →
        ∀ node ∈ eventsIn outerXml line (depth + 1) ns, depth ≤ node.depth := by
      intro ns
      induction ns with
      | nil => exact fun _ _ hnode => absurd hnode not_mem_nil
      | cons n ns ihns =>
        intro hsub node hnode
        rw [eventsIn, mem_append] at hnode
        rcases hnode with hnode | hnode
        · have := ih n (hsub n mem_cons_self) (depth + 1) node hnode
          omega
        · exact ihns (fun n hn => hsub n (mem_cons_of_mem _ hn)) node hnode
    rw [XmlNode.events, mem_cons, mem_append, mem_singleton] at hnode
    rcases hnode with rfl | hnode | rfl
    · exact Int.le_refl depth
    · exact hin content (fun _ hn => hn) node hnode
    · exact Int.le_refl depth
  all_goals
    rw [XmlNode.events, mem_singleton] at hnode
    subst hnode
    exact Int.le_refl depth

lemma le_depth_of_mem_eventsIn (depth : Int) : ∀ (ns : List XmlNode),
    ∀ node ∈ eventsIn outerXml line depth ns, depth ≤ node.depth
  | [], node, hnode => absurd hnode not_mem_nil
  | n :: ns, node, hnode => by
    rw [eventsIn, mem_append] at hnode
    rcases hnode with hnode | hnode
    · exact le_depth_of_mem_events n depth node hnode
    · exact le_depth_of_mem_eventsIn depth ns node hnode

def nodePiece (node : ReaderNode) : String :=
  match node.type with
  | .elementStart => node.outerXml
  | .text _ => node.value
  | _ => ""

def LoaderState.addPiece (s : LoaderState) (text : String) : LoaderState :=
  { s with curValue := s.curValue ++ text }

lemma loop_nodePiece {node : ReaderNode} (hdepth : node.depth = s.valueDepth)
    (hret : s.ret = true) (nodes : List ReaderNode) :
    loop s (node :: nodes) = loop (s.addPiece (nodePiece node)) nodes := by
  have hlt : ¬ (0 ≤ s.valueDepth ∧ s.valueDepth < node.depth) := by omega
  have hempty : s.addPiece "" = s := by
    rw [LoaderState.addPiece, String.append_empty]
  have hstep : step s node = .ok (s.addPiece (nodePiece node)) := by
    rw [step, if_neg hlt, nodePiece]
    cases node.type with
    | elementStart => exact if_pos hdepth
    | elementEnd =>
      rw [hempty]
      exact if_pos hdepth
    | text type => exact if_pos hdepth
    | other type =>
      rw [hempty]
      rfl
  rw [loop_cons hstep]
  exact if_pos hret

lemma loop_piece (hvalue : 0 ≤ s.valueDepth) (hret : s.ret = true) (n : XmlNode)
    (rest : List ReaderNode) : loop s (n.events outerXml line s.valueDepth ++ rest) =
      loop (s.addPiece (n.piece outerXml)) rest := by
  cases n with
  | element name attributes content =>
    have hdeep : ∀ node ∈ eventsIn outerXml line (s.valueDepth + 1) content,
        s.valueDepth < node.depth := by
      intro node hnode
      have := le_depth_of_mem_eventsIn _ _ node hnode
      omega
    have hempty : (s.addPiece (outerXml (.element name attributes content))).addPiece "" =
        s.addPiece (outerXml (.element name attributes content)) := by
      rw [LoaderState.addPiece, String.append_empty]
    rw [XmlNode.events, cons_append, append_assoc, loop_nodePiece rfl hret]
    show loop (s.addPiece (outerXml (.element name attributes content))) _ =
      loop (s.addPiece (outerXml (.element name attributes content))) rest
    rw [loop_skip (s := s.addPiece (outerXml (.element name attributes content))) hvalue hret _ hdeep,
      singleton_append,
      loop_nodePiece (s := s.addPiece (outerXml (.element name attributes content))) rfl hret]
    exact congrArg (loop · rest) hempty
  | emptyElement name attributes =>
    rw [XmlNode.events, singleton_append, loop_nodePiece rfl hret]
    rfl
  | text type value =>
    rw [XmlNode.events, singleton_append, loop_nodePiece rfl hret]
    rfl
  | other type =>
    rw [XmlNode.events, singleton_append, loop_nodePiece rfl hret]
    rfl

lemma loop_value (rest : List ReaderNode) : ∀ (ns : List XmlNode) {s : LoaderState},
    0 ≤ s.valueDepth → s.ret = true → loop s (eventsIn outerXml line s.valueDepth ns ++ rest) =
      loop (s.addPiece (valueOf outerXml ns)) rest
  | [], s, _, _ => by
    rw [eventsIn, nil_append, valueOf, map_nil, String.join_nil, LoaderState.addPiece,
      String.append_empty]
  | n :: ns, s, hvalue, hret => by
    have ih := loop_value rest ns (s := s.addPiece (n.piece outerXml)) hvalue hret
    have hpieces : (s.addPiece (n.piece outerXml)).addPiece (valueOf outerXml ns) =
        s.addPiece (valueOf outerXml (n :: ns)) := by
      rw [valueOf, valueOf, map_cons, String.join_cons]
      simp [LoaderState.addPiece, String.append_assoc]
    rw [eventsIn, append_assoc, loop_piece hvalue hret, ← hpieces]
    exact ih

/-! ### Objects that are made -/

mutual

lemma Shows.mono {h h' : Heap} {lo hi lo' hi' : Nat}
    (heq : ∀ i, lo ≤ i → i < hi → h'.object i = h.object i) (hlo : lo' ≤ lo) (hhi : hi ≤ hi')
    {parent i : Nat} : ∀ {t : XmlTree}, Shows h lo hi parent i t → Shows h' lo' hi' parent i t
  | .node name value attributes children, ht => by
    rw [Shows] at ht ⊢
    obtain ⟨hge, hlt, hrest⟩ := ht
    rw [heq i hge hlt]
    exact ⟨le_trans hlo hge, lt_of_lt_of_le hlt hhi, hrest.1, hrest.2.1, hrest.2.2.1,
      hrest.2.2.2.1, ShowsAll.mono heq hlo hhi hrest.2.2.2.2⟩

lemma ShowsAll.mono {h h' : Heap} {lo hi lo' hi' : Nat}
    (heq : ∀ i, lo ≤ i → i < hi → h'.object i = h.object i) (hlo : lo' ≤ lo) (hhi : hi ≤ hi')
    {parent : Nat} : ∀ {ts : List XmlTree} {is : List Nat}, ShowsAll h lo hi parent is ts →
      ShowsAll h' lo' hi' parent is ts
  | [], _, hts => hts
  | t :: ts, _, hts => by
    rw [ShowsAll] at hts ⊢
    obtain ⟨i, rest, rfl, ht, hrest⟩ := hts
    exact ⟨i, rest, rfl, Shows.mono heq hlo hhi ht, ShowsAll.mono heq hlo hhi hrest⟩

end

lemma ShowsAll.append {h : Heap} {lo hi parent : Nat} {js : List Nat} {us : List XmlTree}
    (hus : ShowsAll h lo hi parent js us) : ∀ {ts : List XmlTree} {is : List Nat},
      ShowsAll h lo hi parent is ts → ShowsAll h lo hi parent (is ++ js) (ts ++ us)
  | [], is, hts => by
    rw [ShowsAll] at hts
    rw [hts]
    exact hus
  | t :: ts, is, hts => by
    rw [ShowsAll] at hts
    obtain ⟨i, rest, rfl, ht, hrest⟩ := hts
    rw [cons_append, cons_append, ShowsAll]
    exact ⟨i, rest ++ js, rfl, ht, ShowsAll.append hus hrest⟩

/-- Objects have been added below `p`, which the trees show. Nothing else has changed. -/
structure Grown (h h' : Heap) (p : Nat) (ts : List XmlTree) : Prop where
  next_le : h.next ≤ h'.next
  object_eq : ∀ i, i < h.next → i ≠ p → h'.object i = h.object i
  exists_children : ∃ is,
    h'.object p = { h.object p with children := (h.object p).children ++ is } ∧
      ShowsAll h' h.next h'.next p is ts

lemma Grown.refl (h : Heap) (p : Nat) : Grown h h p [] where
  next_le := le_refl _
  object_eq _ _ _ := rfl
  exists_children := ⟨[], by rw [append_nil], by rw [ShowsAll]⟩

lemma Grown.trans {h h₁ h₂ : Heap} {ts us : List XmlTree} (hp : p < h.next)
    (hts : Grown h h₁ p ts) (hus : Grown h₁ h₂ p us) : Grown h h₂ p (ts ++ us) where
  next_le := le_trans hts.next_le hus.next_le
  object_eq i hi hne := by
    rw [hus.object_eq i (lt_of_lt_of_le hi hts.next_le) hne, hts.object_eq i hi hne]
  exists_children := by
    obtain ⟨is, his, hshows⟩ := hts.exists_children
    obtain ⟨js, hjs, hshows'⟩ := hus.exists_children
    refine ⟨is ++ js, ?_, ShowsAll.append ?_ ?_⟩
    · rw [hjs, his, append_assoc]
    · exact hshows'.mono (fun _ _ _ => rfl) hts.next_le (le_refl _)
    · -- the first ones are not touched, since `p` is not among them
      refine hshows.mono (fun i hge hlt => hus.object_eq i hlt ?_) (le_refl _) hus.next_le
      rintro rfl
      omega

lemma Grown.children_ne_nil {h h' : Heap} {t : XmlTree} {ts : List XmlTree}
    (hgrown : Grown h h' p (t :: ts)) : (h'.object p).children ≠ [] := by
  obtain ⟨is, his, hshows⟩ := hgrown.exists_children
  rw [ShowsAll] at hshows
  obtain ⟨i, rest, rfl, -⟩ := hshows
  rw [his]
  simp

lemma exists_trees_eq (outerXml : XmlNode → String) {n : XmlNode} (hn : n.isElement = true) : ∃ t,
    n.trees outerXml = [t] := by
  cases n with
  | element name attributes content =>
    rw [XmlNode.trees]
    split
    · exact ⟨_, rfl⟩
    · exact ⟨_, rfl⟩
  | emptyElement name attributes =>
    rw [XmlNode.trees]
    exact ⟨_, rfl⟩
  | text | other => cases hn

lemma setAttributes_eq (this : Nat) : ∀ (attributes : List (String × String)) (h : Heap),
    setAttributes this h attributes = .ok (h.modify this fun o =>
      { o with attributes := o.attributes.merge true attributes })
  | [], h => by
    show Except.ok h = .ok _
    rw [Heap.modify]
    simp [AttributeMap.merge]
  | (name, value) :: attributes, h => by
    rw [setAttributes, setAttributeValue_eq]
    show setAttributes this (h.modify this _) attributes = _
    rw [setAttributes_eq this attributes]
    simp [Heap.modify, AttributeMap.merge]

/-- The heap when an element has been started below `p`. -/
def started (h : Heap) (p : Nat) (name : String) (attributes : List (String × String)) : Heap :=
  ((((h.alloc { name := name }).2.modify p fun o =>
      { o with children := o.children ++ [h.next] }).modify h.next
    fun o => { o with parent := some p }).modify h.next
      fun o => { o with attributes := o.attributes.merge true attributes })

lemma object_started {h : Heap} (hp : p < h.next) (name : String)
    (attributes : List (String × String)) (j : Nat) : (started h p name attributes).object j =
      if j = h.next then
        { name := name, parent := some p, attributes := .merge true .empty attributes }
      else if j = p then { h.object p with children := (h.object p).children ++ [h.next] }
      else h.object j := by
  have hne : p ≠ h.next := Nat.ne_of_lt hp
  have halloc : ∀ j, (h.alloc { name := name }).2.object j =
      if j = h.next then { name := name } else h.object j := fun j => Function.update_apply ..
  unfold started
  simp only [Heap.object_modify, halloc, if_neg hne, if_neg hne.symm, if_true]
  split <;> rfl

lemma startElement_eq (hp : s.curObject < s.heap.next) (node : ReaderNode)
    (hplain : node.namePrefix = "") : startElement s node =
      .ok (if node.isEmptyElement then
        { s with
          heap := started s.heap s.curObject node.qualifiedName node.attributes, lastHasNs := false }
      else
        { s with
          heap := started s.heap s.curObject node.qualifiedName node.attributes, lastHasNs := false
          curObject := s.heap.next, queue := s.heap.next :: s.queue }) := by
  have hnew : ((s.heap.alloc { name := node.qualifiedName }).2.object s.heap.next).parent = none := by
    show (Function.update s.heap.object s.heap.next _ s.heap.next).parent = none
    rw [Function.update_self]
  have hadd : addChild [] (s.heap.alloc { name := node.qualifiedName }).2 s.curObject s.heap.next =
      .ok (true, ((s.heap.alloc { name := node.qualifiedName }).2.modify s.curObject fun o =>
        { o with children := o.children ++ [s.heap.next] }).modify s.heap.next
          fun o => { o with parent := some s.curObject }) := by
    rw [addChild_eq, hnew, if_neg (by simp), if_neg (ne_of_gt hp)]
  unfold startElement
  show (addChild [] (s.heap.alloc { name := node.qualifiedName }).2 s.curObject s.heap.next >>= _) = _
  rw [hadd]
  show (setAttributes s.heap.next _ node.attributes >>= _) = _
  rw [setAttributes_eq, hplain]
  split <;> rfl

/-! ### The loop outside of values -/

/-- The loop is between two nodes of the content of `p`, and in no value. -/
def ready (h : Heap) (p : Nat) (queue : List Nat) : LoaderState :=
  { heap := h, curObject := p, queue := p :: queue }

/-- The loop is in a value of `p`. -/
def inValue (h : Heap) (p : Nat) (queue : List Nat) (depth : Int) (value : String) : LoaderState :=
  { heap := h, curObject := p, queue := p :: queue, valueDepth := depth, curValue := value }

section Loop

variable {h : Heap} {p : Nat} (queue : List Nat) {depth : Int} (rest : List ReaderNode)

lemma step_ready (node : ReaderNode) : step (ready h p queue) node =
    match node.type with
    | .elementStart => elementStart (ready h p queue) node
    | .elementEnd => elementEnd (ready h p queue) node
    | .text _ => text (ready h p queue) node
    | .other _ => .ok (ready h p queue) := by
  have hnot : ¬ (0 : Int) ≤ -1 := by decide
  exact if_neg fun hvalue => hnot hvalue.1

lemma loop_other (type : OtherType) :
    loop (ready h p queue) ((XmlNode.other type).events outerXml line depth ++ rest) =
      loop (ready h p queue) rest := by
  rw [XmlNode.events, singleton_append, loop_cons (step_ready queue _)]
  exact if_pos rfl

lemma loop_text (hdepth : 0 ≤ depth) (type : TextType) (value : String) :
    loop (ready h p queue) ((XmlNode.text type value).events outerXml line depth ++ rest) =
      if (h.object p).children = [] then loop (inValue h p queue depth value) rest
      else .ok ((ready h p queue).fail "Value following child element"
        (line (XmlNode.text type value) false)) := by
  have hne : depth ≠ -1 := by omega
  have hstep : step (ready h p queue)
      { type := .text type, depth := depth, value := value,
        lineNumber := line (XmlNode.text type value) false } =
      .ok (if (h.object p).children = [] then inValue h p queue depth value
        else (ready h p queue).fail "Value following child element"
          (line (XmlNode.text type value) false)) := by
    rw [step_ready]
    rw [text]
    show (if depth = -1 then _ else _) = _
    rw [if_neg hne, startValue]
    show (hasChildren [] h p >>= _) = _
    rw [hasChildren_nil]
    cases (h.object p).children with
    | nil =>
      rw [inValue, ready, String.empty_append]
      rfl
    | cons _ _ => rfl
  rw [XmlNode.events, singleton_append, loop_cons hstep]
  split <;> rfl

lemma loop_elementStart (hp : p < h.next) (hdepth : 0 ≤ depth) (node : ReaderNode)
    (htype : node.type = .elementStart) (hnode : node.depth = depth) (hplain : node.namePrefix = "") :
    loop (ready h p queue) (node :: rest) =
      loop (if node.isEmptyElement then
          ready (started h p node.qualifiedName node.attributes) p queue
        else ready (started h p node.qualifiedName node.attributes) h.next (p :: queue)) rest := by
  have hne : node.depth ≠ -1 := by omega
  have hns : ¬ (false = true ∧ node.namePrefix = "") := fun hns => Bool.false_ne_true hns.1
  have hstep : step (ready h p queue) node = .ok (if node.isEmptyElement then
      ready (started h p node.qualifiedName node.attributes) p queue
      else ready (started h p node.qualifiedName node.attributes) h.next (p :: queue)) := by
    rw [step_ready, htype]
    rw [elementStart]
    show (if node.depth = -1 then _ else if false = true ∧ node.namePrefix = "" then _ else _) = _
    rw [if_neg hne, if_neg hns]
    have hstart : startElement (ready h p queue) node = _ := startElement_eq hp node hplain
    rw [hstart]
    cases node.isEmptyElement <;> rfl
  rw [loop_cons hstep]
  split <;> rfl

variable {parent : Nat}

lemma popElement_ready {node : ReaderNode} (hname : (h.object p).name = node.qualifiedName) :
    popElement (ready h p (parent :: queue)) node = .ok (ready h parent queue) := by
  rw [popElement]
  rw [getName_nil]
  show (if (h.object p).name ≠ node.qualifiedName then _ else _) = _
  rw [if_neg (not_not.mpr hname)]
  rfl

lemma loop_elementEnd (hdepth : 0 ≤ depth) (node : ReaderNode)
    (htype : node.type = .elementEnd) (hnode : node.depth = depth)
    (hname : (h.object p).name = node.qualifiedName) :
    loop (ready h p (parent :: queue)) (node :: rest) = loop (ready h parent queue) rest := by
  have hne : node.depth ≠ -1 := by omega
  have hlt : ¬ node.depth < -1 := by omega
  have hstep : step (ready h p (parent :: queue)) node = .ok (ready h parent queue) := by
    rw [step_ready, htype]
    rw [elementEnd, endValue]
    show (if node.depth = -1 then _ else (if node.depth < -1 then _ else _) >>= _) = _
    rw [if_neg hne, if_neg hlt]
    exact popElement_ready queue hname
  rw [loop_cons hstep]
  rfl

lemma loop_elementEnd_value (node : ReaderNode)
    (htype : node.type = .elementEnd) (hnode : node.depth = depth)
    (hname : (h.object p).name = node.qualifiedName) (hchildren : (h.object p).children = [])
    (value : String) :
    loop (inValue h p (parent :: queue) (depth + 1) value) (node :: rest) =
      loop (ready (h.modify p fun o => { o with value := value }) parent queue) rest := by
  have hskip : ¬ (0 ≤ depth + 1 ∧ depth + 1 < node.depth) := by omega
  have hne : node.depth ≠ depth + 1 := by omega
  have hlt : node.depth < depth + 1 := by omega
  have hend : endValue (inValue h p (parent :: queue) (depth + 1) value) node =
      .ok (ready (h.modify p fun o => { o with value := value }) p (parent :: queue)) := by
    rw [endValue]
    show (if node.depth < depth + 1 then (setValue [] h p value >>= _) else _) = _
    rw [if_pos hlt, setValue_eq, if_pos hchildren]
    rfl
  have hname' : ((h.modify p fun o => { o with value := value }).object p).name =
      node.qualifiedName := by
    rw [Heap.object_modify_self]
    exact hname
  have hstep : step (inValue h p (parent :: queue) (depth + 1) value) node =
      .ok (ready (h.modify p fun o => { o with value := value }) parent queue) := by
    rw [step]
    show (if 0 ≤ depth + 1 ∧ depth + 1 < node.depth then _ else _) = _
    rw [if_neg hskip, htype]
    rw [elementEnd]
    show (if node.depth = depth + 1 then _ else _) = _
    rw [if_neg hne, hend]
    exact popElement_ready queue hname'
  rw [loop_cons hstep]
  rfl

lemma loop_startsWithText (hdepth : 0 ≤ depth) (hnone : (h.object p).children = []) :
    ∀ {ns : List XmlNode}, startsWithText ns = true →
      loop (ready h p queue) (eventsIn outerXml line depth ns ++ rest) =
        loop (inValue h p queue depth (valueOf outerXml ns)) rest
  | [], hstart => absurd hstart Bool.false_ne_true
  | n :: ns, hstart => by
    rw [startsWithText_cons] at hstart
    rw [eventsIn, append_assoc]
    cases n with
    | text type value =>
      have hvalue : loop (inValue h p queue depth value) (eventsIn outerXml line depth ns ++ rest) =
          loop ((inValue h p queue depth value).addPiece (valueOf outerXml ns)) rest :=
        loop_value rest ns hdepth rfl
      rw [loop_text queue _ hdepth, if_pos hnone]
      refine hvalue.trans ?_
      rw [valueOf, valueOf, map_cons, String.join_cons]
      rfl
    | other type =>
      rw [loop_other queue, loop_startsWithText hdepth hnone hstart, valueOf, valueOf,
        map_cons, String.join_cons]
      show _ = loop (inValue h p queue depth ("" ++ _)) rest
      rw [String.empty_append]
    | element | emptyElement => exact absurd hstart Bool.false_ne_true

end Loop

/-! ### Elements -/

def Loops (outerXml : XmlNode → String) (line : XmlNode → Bool → Int) (n : XmlNode) : Prop :=
  ∀ (h : Heap) (p : Nat) (queue : List Nat) (depth : Int) (rest : List ReaderNode),
    n.isElement = true → n.WellFormed → p < h.next → 0 ≤ depth →
    (n.loads = true → ∃ h', loop (ready h p queue) (n.events outerXml line depth ++ rest) =
      loop (ready h' p queue) rest ∧ Grown h h' p (n.trees outerXml)) ∧
    (n.loads = false → ∃ s, loop (ready h p queue) (n.events outerXml line depth ++ rest) = .ok s ∧
      s.ret = false)

section Content

variable {queue : List Nat} {depth : Int}

lemma loop_content (rest : List ReaderNode) (hdepth : 0 ≤ depth) : ∀ {ns : List XmlNode} {h : Heap}
    {p : Nat}, (∀ n ∈ ns, Loops outerXml line n) → (∀ n ∈ ns, n.WellFormed) → p < h.next →
    (∀ n ∈ ns, n.isText = false) → (∀ n ∈ ns, n.loads = true) →
    ∃ h', loop (ready h p queue) (eventsIn outerXml line depth ns ++ rest) =
      loop (ready h' p queue) rest ∧ Grown h h' p (treesIn outerXml ns)
  | [], h, p, _, _, _, _, _ => ⟨h, rfl, by rw [treesIn]; exact Grown.refl h p⟩
  | n :: ns, h, p, hloops, hwf, hp, htext, hloads => by
    rw [forall_mem_cons] at hloops hwf htext hloads
    rw [eventsIn, append_assoc, treesIn]
    have hn : ∃ h₁, loop (ready h p queue) (n.events outerXml line depth ++
        (eventsIn outerXml line depth ns ++ rest)) =
          loop (ready h₁ p queue) (eventsIn outerXml line depth ns ++ rest) ∧
        Grown h h₁ p (n.trees outerXml) := by
      cases n with
      | element | emptyElement =>
        exact (hloops.1 h p queue depth _ rfl hwf.1 hp hdepth).1 hloads.1
      | text => exact absurd htext.1.symm Bool.false_ne_true
      | other type =>
        refine ⟨h, loop_other queue _ type, ?_⟩
        rw [XmlNode.trees]
        exact Grown.refl h p
    obtain ⟨h₁, hloop₁, hgrown₁⟩ := hn
    obtain ⟨h₂, hloop₂, hgrown₂⟩ := loop_content rest hdepth hloops.2 hwf.2
      (lt_of_lt_of_le hp hgrown₁.next_le) htext.2 hloads.2
    exact ⟨h₂, hloop₁.trans hloop₂, hgrown₁.trans hp hgrown₂⟩

lemma loop_content_fails (rest : List ReaderNode) (hdepth : 0 ≤ depth) :
    ∀ {ns : List XmlNode} {h : Heap} {p : Nat}, (∀ n ∈ ns, Loops outerXml line n) →
    (∀ n ∈ ns, n.WellFormed) → p < h.next →
    (h.object p).children ≠ [] ∨ startsWithText ns = false →
    (∃ n ∈ ns, n.isText = true ∨ n.loads = false) →
    ∃ s, loop (ready h p queue) (eventsIn outerXml line depth ns ++ rest) = .ok s ∧ s.ret = false
  | [], _, _, _, _, _, _, hbad => by simp at hbad
  | n :: ns, h, p, hloops, hwf, hp, hstart, hbad => by
    rw [forall_mem_cons] at hloops hwf
    rw [startsWithText_cons] at hstart
    rw [exists_mem_cons_iff] at hbad
    rw [eventsIn, append_assoc]
    have helement : n.isElement = true → ∃ s, loop (ready h p queue)
        (n.events outerXml line depth ++ (eventsIn outerXml line depth ns ++ rest)) = .ok s ∧
          s.ret = false := by
      intro hn
      obtain ⟨hloaded, hfails⟩ :=
        hloops.1 h p queue depth (eventsIn outerXml line depth ns ++ rest) hn hwf.1 hp hdepth
      cases hload : n.loads with
      | false => exact hfails hload
      | true =>
        -- `p` has a child from here on
        obtain ⟨h₁, hloop₁, hgrown₁⟩ := hloaded hload
        obtain ⟨t, ht⟩ := exists_trees_eq outerXml hn
        have htext : n.isText = false := by
          cases n <;> first | rfl | cases hn
        have hrest : ∃ n ∈ ns, n.isText = true ∨ n.loads = false := by
          simpa [htext, hload] using hbad
        rw [hloop₁]
        exact loop_content_fails rest hdepth hloops.2 hwf.2
          (lt_of_lt_of_le hp hgrown₁.next_le)
          (.inl (Grown.children_ne_nil (ht ▸ hgrown₁))) hrest
    cases n with
    | text type value =>
      have hsome : (h.object p).children ≠ [] := hstart.resolve_right Bool.noConfusion
      rw [loop_text queue _ hdepth, if_neg hsome]
      exact ⟨_, rfl, rfl⟩
    | other type =>
      have hrest : ∃ n ∈ ns, n.isText = true ∨ n.loads = false := by
        simpa [XmlNode.isText, XmlNode.loads] using hbad
      rw [loop_other queue]
      exact loop_content_fails rest hdepth hloops.2 hwf.2 hp hstart hrest
    | element | emptyElement => exact helement rfl

end Content

lemma object_started_new {h : Heap} (hp : p < h.next) (name : String)
    {attributes : List (String × String)} (hnodup : (attributes.map Prod.fst).Nodup)
    (hempty : "" ∉ attributes.map Prod.fst) :
    ((started h p name attributes).object h.next).name = name ∧
      ((started h p name attributes).object h.next).parent = some p ∧
      ((started h p name attributes).object h.next).value = "" ∧
      ((started h p name attributes).object h.next).children = [] ∧
      ∀ key, ((started h p name attributes).object h.next).attributes.lookup key =
        attributes.lookup key := by
  rw [object_started hp, if_pos rfl]
  refine ⟨rfl, rfl, rfl, rfl, fun key => ?_⟩
  rw [AttributeMap.lookup_merge _ _ _ _ hnodup hempty, if_pos rfl, AttributeMap.lookup_empty,
    or_none]

lemma Grown.of_started (name : String) (attributes : List (String × String)) {h h₂ : Heap}
    {t : XmlTree} (hp : p < h.next) (hnext : h.next < h₂.next)
    (hobject : ∀ i, i < h.next → h₂.object i = (started h p name attributes).object i)
    (ht : Shows h₂ h.next h₂.next p h.next t) : Grown h h₂ p [t] where
  next_le := Nat.le_of_lt hnext
  object_eq i hi hne := by
    rw [hobject i hi, object_started hp, if_neg (Nat.ne_of_lt hi), if_neg hne]
  exists_children := by
    refine ⟨[h.next], ?_, ?_⟩
    · rw [hobject p hp, object_started hp, if_neg (Nat.ne_of_lt hp), if_pos rfl]
    · rw [ShowsAll]
      exact ⟨h.next, [], rfl, ht, by rw [ShowsAll]⟩

/-- **Every element**: the loop goes from its start to its end.

**Proof sketch.** By the way the document is built. If the content of the element starts with text,
then it is a value, which is set at the end. Otherwise objects are made of the content, or the loop
is left in it. -/
theorem loops (n : XmlNode) : Loops outerXml line n := by
  refine XmlNode.ind (fun name attributes content ih => ?_) (fun name attributes => ?_)
    (fun type value => ?_) (fun type => ?_) n
  · intro h p queue depth rest _ hwf hp hdepth
    rw [XmlNode.WellFormed, wellFormedIn_iff] at hwf
    obtain ⟨hnodup, hempty, hcontent⟩ := hwf
    obtain ⟨hname, hparent, hvalue, hchildren, hattributes⟩ :=
      object_started_new hp name hnodup hempty
    have hnew : h.next < (started h p name attributes).next := lt_succ_self _
    rw [XmlNode.events, cons_append, append_assoc,
      loop_elementStart queue _ hp hdepth _ rfl rfl rfl, if_neg Bool.false_ne_true,
      XmlNode.loads, XmlNode.trees]
    cases hstart : startsWithText content with
    | true =>
      refine ⟨fun _ => ?_, fun hfalse => ?_⟩
      · refine ⟨(started h p name attributes).modify h.next fun o =>
          { o with value := valueOf outerXml content }, ?_, ?_⟩
        · rw [loop_startsWithText (p :: queue) _ (by omega) hchildren hstart, singleton_append]
          apply loop_elementEnd_value
          · rfl
          · rfl
          · exact hname
          · exact hchildren
        · rw [if_pos rfl]
          refine Grown.of_started name attributes hp hnew
            (fun i hi => Heap.object_modify_of_ne (Nat.ne_of_lt hi) _) ?_
          rw [Shows, Heap.object_modify_self, ShowsAll]
          exact ⟨le_refl _, hnew, hname, hparent, rfl, hattributes, hchildren⟩
      · rw [Bool.true_or] at hfalse
        cases hfalse
    | false =>
      rw [Bool.false_or, Bool.and_eq_true, List.all_eq_true, loadsIn_iff]
      refine ⟨fun hloads => ?_, fun hfails => ?_⟩
      · have htext : ∀ n ∈ content, n.isText = false := by simpa using hloads.1
        obtain ⟨h₂, hloop, hgrown⟩ := @loop_content outerXml line (p :: queue) (depth + 1)
          ([{ type := .elementEnd, depth := depth, qualifiedName := name,
              lineNumber := line (.element name attributes content) true }] ++ rest)
          (Int.le_add_one hdepth) _ _ _ ih hcontent hnew htext hloads.2
        obtain ⟨is, his, hshows⟩ := hgrown.exists_children
        refine ⟨h₂, ?_, ?_⟩
        · rw [hloop, singleton_append]
          refine loop_elementEnd queue rest hdepth _ rfl rfl ?_
          rw [his]
          exact hname
        · rw [if_neg Bool.false_ne_true]
          refine Grown.of_started name attributes hp
            (lt_of_lt_of_le hnew hgrown.next_le)
            (fun i hi => hgrown.object_eq i (Nat.lt_trans hi hnew) (Nat.ne_of_lt hi)) ?_
          rw [Shows, his]
          refine ⟨le_refl _, lt_of_lt_of_le hnew hgrown.next_le, hname, hparent, hvalue,
            hattributes, ?_⟩
          rw [hchildren]
          exact hshows.mono (fun _ _ _ => rfl) (le_of_lt hnew) (le_refl _)
      · have hbad : ∃ n ∈ content, n.isText = true ∨ n.loads = false := by
          by_contra hnone
          simp only [not_exists, not_and, not_or, Bool.not_eq_true, Bool.not_eq_false] at hnone
          have htext : (content.all fun n => !n.isText) = true :=
            all_eq_true.mpr fun n hn => by rw [(hnone n hn).1, Bool.not_false]
          rw [htext, loadsIn_iff.mpr fun n hn => (hnone n hn).2] at hfails
          cases hfails
        exact loop_content_fails _ (Int.le_add_one hdepth) ih hcontent hnew (.inr hstart) hbad
  · intro h p queue depth rest _ hwf hp hdepth
    rw [XmlNode.WellFormed] at hwf
    obtain ⟨hname, hparent, hvalue, hchildren, hattributes⟩ :=
      object_started_new hp name hwf.1 hwf.2
    refine ⟨fun _ => ⟨started h p name attributes, ?_, ?_⟩, fun hfalse => ?_⟩
    · rw [XmlNode.events, singleton_append,
        loop_elementStart queue _ hp hdepth _ rfl rfl rfl, if_pos rfl]
    · rw [XmlNode.trees]
      refine Grown.of_started name attributes hp (lt_succ_self _)
        (fun _ _ => rfl) ?_
      rw [Shows, hchildren, ShowsAll]
      exact ⟨le_refl _, lt_succ_self _, hname, hparent, hvalue, hattributes, rfl⟩
    · rw [XmlNode.loads] at hfalse
      cases hfalse
  · exact fun _ _ _ _ _ hn => absurd hn Bool.false_ne_true
  · exact fun _ _ _ _ _ hn => absurd hn Bool.false_ne_true

/-! ### Documents -/

/-- What a reader says about a document with one element, and other nodes around it. -/
def documentReader (outerXml : XmlNode → String) (line : XmlNode → Bool → Int)
    (prolog : List OtherType) (n : XmlNode) (epilog : List OtherType) : Reader :=
  { nodes := eventsIn outerXml line 0 (prolog.map .other) ++
      (n.events outerXml line 0 ++ eventsIn outerXml line 0 (epilog.map .other)) }

lemma loop_others {h : Heap} (queue : List Nat) {depth : Int} (rest : List ReaderNode) :
    ∀ others : List OtherType, loop (ready h p queue)
      (eventsIn outerXml line depth (others.map .other) ++ rest) = loop (ready h p queue) rest
  | [] => rfl
  | type :: others => by
    rw [map_cons, eventsIn, append_assoc, loop_other queue, loop_others queue rest others]

lemma isEmpty_events {n : XmlNode} (hn : n.isElement = true) (front back : List ReaderNode) :
    (front ++ (n.events outerXml line 0 ++ back)).isEmpty = false := by
  cases n with
  | element | emptyElement =>
    rw [XmlNode.events]
    cases front <;> rfl
  | text | other => cases hn

variable (outerXml line) in
lemma loop_document {n : XmlNode} (hn : n.isElement = true) (hwf : n.WellFormed) {h : Heap}
    {this : Nat} (hthis : this < h.next) (prolog epilog : List OtherType) :
    (n.loads = true → ∃ h', loop (ready h this [])
      (documentReader outerXml line prolog n epilog).nodes = .ok (ready h' this []) ∧
        Grown h h' this (n.trees outerXml)) ∧
    (n.loads = false → ∃ s, loop (ready h this [])
      (documentReader outerXml line prolog n epilog).nodes = .ok s ∧ s.ret = false) := by
  obtain ⟨hloaded, hfails⟩ := loops n h this [] 0 (eventsIn outerXml line 0 (epilog.map .other)) hn
    hwf hthis (Int.le_refl 0)
  have hnodes : loop (ready h this []) (documentReader outerXml line prolog n epilog).nodes =
      loop (ready h this []) (n.events outerXml line 0 ++
        eventsIn outerXml line 0 (epilog.map .other)) := loop_others [] _ prolog
  rw [hnodes]
  refine ⟨fun hload => ?_, hfails⟩
  obtain ⟨h', hloop, hgrown⟩ := hloaded hload
  have hepilog : loop (ready h' this []) (eventsIn outerXml line 0 (epilog.map .other) ++ []) =
      .ok (ready h' this []) := loop_others [] [] epilog
  rw [append_nil] at hepilog
  exact ⟨h', hloop.trans hepilog, hgrown⟩

/-- **Documents are loaded.** An object without itself as a child loads a document if and only if no
element that is not part of a value has text behind a child. Then its children are the objects that
belong to the document, in its order: an element whose content starts with text has a value, which is
its text with the elements in it as they are written, and another one has children.

**Proof sketch.** The object is cleared, so that the loop starts without children. From there the
loop is followed along the document. -/
theorem load_iff (outerXml : XmlNode → String) (line : XmlNode → Bool → Int) {h : Heap} {this : Nat}
    (hthis : this < h.next) (hself : this ∉ (h.object this).children) {n : XmlNode}
    (hn : n.isElement = true) (hwf : n.WellFormed) (prolog epilog : List OtherType) :
    ∃ ret error h',
      load h this (some (documentReader outerXml line prolog n epilog)) = .ok (ret, error, h') ∧
      (ret = true ↔ ∀ e, Standing n e → ¬ TextAfterChild e.content) ∧
      (ret = true →
        ShowsAll h' h.next h'.next this (h'.object this).children (n.trees outerXml)) := by
  have hclear : clear [] h this = .ok (cleared h this) := by
    rw [clear_eq, if_neg hself]
  have hload : ∀ s, loop (ready (cleared h this) this [])
      (documentReader outerXml line prolog n epilog).nodes = .ok s →
      load h this (some (documentReader outerXml line prolog n epilog)) =
        .ok (s.ret, s.loadError, s.heap) := by
    intro s hloop
    have hnodes : (documentReader outerXml line prolog n epilog).nodes.isEmpty = false :=
      isEmpty_events hn _ _
    rw [load, hclear]
    show (loop (ready (cleared h this) this []) _ >>= _) = _
    rw [hloop]
    show Except.ok (s.ret && !(documentReader outerXml line prolog n epilog).nodes.isEmpty, _, _) = _
    rw [hnodes, Bool.not_false, Bool.and_true]
  have hthis' : this < (cleared h this).next := by rwa [next_cleared]
  obtain ⟨hloaded, hfails⟩ := loop_document outerXml line hn hwf hthis' prolog epilog
  rw [← loads_iff]
  cases hloads : n.loads with
  | true =>
    obtain ⟨h', hloop, hgrown⟩ := hloaded hloads
    obtain ⟨is, his, hshows⟩ := hgrown.exists_children
    have hobject := object_cleared h this hself this
    rw [if_pos rfl] at hobject
    refine ⟨true, _, h', hload _ hloop, iff_of_true rfl rfl, fun _ => ?_⟩
    rw [his, hobject, nil_append, ← next_cleared h this]
    exact hshows
  | false =>
    obtain ⟨s, hloop, hret⟩ := hfails hloads
    refine ⟨s.ret, _, _, hload s hloop, ?_, fun htrue => ?_⟩
    · rw [hret]
    · rw [hret] at htrue
      cases htrue

/-! ### Two documents -/

/-- `e` is `n` itself or anywhere in it. -/
inductive Inside (n : XmlNode) : XmlNode → Prop
  | self : Inside n n
  | child {p e : XmlNode} (h : Inside n p) (he : e ∈ p.content) : Inside n e

def rootHeap : Heap := { object := fun _ => { name := "root" }, next := 1 }

/-- The content of `b`: an empty element, and text behind it. -/
def mixedContent : List XmlNode := [.emptyElement "c" [], .text .text "x"]

/-- `<a>t<b><c/>x</b></a>`. -/
def mixedDocument : XmlNode :=
  .element "a" [] [.text .text "t", .element "b" [] mixedContent]

def mixedXml : XmlNode → String
  | .element "b" _ _ => "<b><c/>x</b>"
  | .element _ _ _ => "<a>t<b><c/>x</b></a>"
  | _ => "<c/>"

/-- In a value, text behind a child is not seen. -/
theorem not_load_iff_inside :
    ¬ ∀ (outerXml : XmlNode → String) (line : XmlNode → Bool → Int) (h : Heap) (this : Nat)
      (n : XmlNode) (prolog epilog : List OtherType), this < h.next →
      this ∉ (h.object this).children → n.isElement = true → n.WellFormed → ∀ ret error h',
      load h this (some (documentReader outerXml line prolog n epilog)) = .ok (ret, error, h') →
      (ret = true ↔ ∀ e, Inside n e → ¬ TextAfterChild e.content) := by
  intro hall
  have hwf : mixedDocument.WellFormed := by
    simp [mixedDocument, mixedContent, XmlNode.WellFormed, XmlNode.WellFormedIn]
  have hiff := hall mixedXml (fun _ _ => 1) rootHeap 0 mixedDocument [] [] (by decide) (by decide) rfl
    hwf true "" _ rfl
  have hinside : Inside mixedDocument (.element "b" [] mixedContent) :=
    .child .self (mem_cons_of_mem _ mem_cons_self)
  exact hiff.mp rfl _ hinside
    ⟨[.emptyElement "c" []], [], .text .text "x", rfl, rfl, ⟨_, mem_cons_self, rfl⟩, by simp [isText]⟩

/-- `<a><b k="v">t</b></a>`. -/
def plainDocument : XmlNode :=
  .element "a" [] [.element "b" [("k", "v")] [.text .text "t"]]

def plainXml : XmlNode → String
  | .element "b" _ _ => "<b k=\"v\">t</b>"
  | _ => "<a><b k=\"v\">t</b></a>"

/-- A document with a value in it is loaded. -/
theorem load_iff_plainDocument : ∃ ret error h',
    load rootHeap 0 (some (documentReader plainXml (fun _ _ => 1) [.comment] plainDocument [])) =
      .ok (ret, error, h') ∧ ret = true ∧
    ShowsAll h' 1 h'.next 0 (h'.object 0).children
      [.node "a" "" [] [.node "b" "t" [("k", "v")] []]] := by
  have hwf : plainDocument.WellFormed := by
    simp [plainDocument, XmlNode.WellFormed, XmlNode.WellFormedIn]
  have hthis : 0 < rootHeap.next := by decide
  have hself : 0 ∉ (rootHeap.object 0).children := by decide
  have helement : plainDocument.isElement = true := rfl
  obtain ⟨ret, error, h', hload, hiff, hshows⟩ :=
    load_iff plainXml (fun _ _ => 1) hthis hself helement hwf [.comment] []
  have hret : ret = true := hiff.mpr ((loads_iff plainDocument).mp rfl)
  exact ⟨ret, error, h', hload, hret, hshows hret⟩

end CefCore.Wrapper.XmlObjectLoader
