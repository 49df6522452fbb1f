import CefCore.Foundations.LetBlock
import CefCore.UpdateBindings.MergedParams

/-!
# The arguments of the call of a binding

The body of a Rust function calls the C function with a value `arg_<name>` for each of its arguments.
`SignatureRef::unwrap_rust_args` of `cef-rs/update-bindings/src/parse_tree.rs` emits the `let`
statements that these values come from: one for the names of the parameters, and then what each
parameter needs. The generated body binds the function pointer as `f` around the statements, which hides
a parameter with that name; this `f` is not in the scope that is modelled.

## Main results

* `lossless_and_bindsEachArgument_iff`: when each argument has its value.
-/

namespace CefCore.UpdateBindings

open Covering LetBlock List Option

/-- What an emitted expression is made of: text, and the names of variables. -/
inductive Token where
  | text (s : String)
  | var (name : String)

def Token.var? : Token → Option String
  | .text _ => none
  | .var name => some name

/-- `let #pattern = #value;`, with `mut` or without. -/
structure LetStmt where
  isMut : Bool
  pattern : List String
  value : List Token

def LetStmt.binding (stmt : LetStmt) : Binding String where
  pattern := stmt.pattern
  reads := stmt.value.filterMap Token.var?

/-- `let #name = #value;`. -/
def letVar (name : String) (value : List Token) : LetStmt := ⟨false, [name], value⟩

/-- `let mut #name = #value;`. -/
def letMut (name : String) (value : List Token) : LetStmt := ⟨true, [name], value⟩

/-- `format_ident!("arg_{name}")`. -/
def argName (name : String) : String := "arg_" ++ name

/-- `format_ident!("out_{name}")`. -/
def outName (name : String) : String := "out_" ++ name

/-- `format_ident!("vec_{name}")`. -/
def vecName (name : String) : String := "vec_" ++ name

def BASE_REF_COUNTED : String := "_cef_base_ref_counted_t"

variable {Ty : Type} (tree : ParseTree Ty)

/-- At most `n` steps along the base types. -/
def ParseTree.rootWithin : Nat → String → String
  | 0, name => name
  | n + 1, name =>
    match tree.baseTypes.lookup name with
    | some base => rootWithin n base
    | none => name

/-- `ParseTree::root`: a chain that does not come back to a name has no more steps than there are
entries. -/
def ParseTree.root (name : String) : String := tree.rootWithin tree.baseTypes.length name

/-- A structure that is all data: no methods, and fields other than `_unused`. -/
def isDataStruct (tyString : String) : Bool :=
  match (tree.lookupStructDeclaration tyString).bind (tree.structDeclarations[·]?) with
  | some s => s.methods.isEmpty && !s.fields.isEmpty && s.fields != ["_unused"]
  | none => false

/-- `#(#names),*`. -/
def separated : List String → List Token
  | [] => []
  | [name] => [.var name]
  | name :: names => .var name :: .text "," :: separated names

def tupleOf : List String → List Token
  | [name] => [.var name]
  | names => .text "(" :: separated names ++ [.text ")"]

def capturedName : MergedParam Ty → Option String
  | .Receiver => none
  | .Single name _ => some name
  | .Bounded _ _ sliceName _ => some sliceName
  | .Buffer sliceName _ _ _ => some sliceName

/-- `let (#local),* = (#names),*;`, if there are names. -/
def letTuple : List String → Option LetStmt
  | [] => none
  | names => some ⟨false, names.map argName, tupleOf names⟩

def captureMergedParams (inputs : List (FnArgRef Ty)) : Option LetStmt :=
  letTuple ((mergeParams tree inputs).filterMap capturedName)

/-- The parameter in the Rust function; one whose type is not known is left out. -/
def rustArg : MergedParam Ty → Option String
  | .Receiver => some "self"
  | .Single name (some _) => some name
  | .Bounded _ _ sliceName _ => some sliceName
  | .Buffer sliceName _ _ _ => some sliceName
  | .Single _ none => none

/-- The names of `SignatureRef::get_rust_args`. -/
def getRustArgs (inputs : List (FnArgRef Ty)) : List String :=
  (mergeParams tree inputs).filterMap rustArg

/-- What a null pointer of the modifiers is, in the place of a structure or of a string. -/
def implDefault : List TypeModifier → String
  | [.ConstPtr] => "unwrap_or(std::ptr::null())"
  | [.MutPtr] => "unwrap_or(std::ptr::null_mut())"
  | _ => "unwrap_or_default()"

/-- `get_raw` of the trait of a type, or of the value. -/
def castOf (entry : Option NameMapEntry) : String :=
  match entry.bind fun entry => tree.parseType entry.name with
  | some ty => "Impl" ++ tree.toTokenString ty ++ "::get_raw(arg)"
  | none => "arg.get_raw()"

def unwrapRefCounted (name tyString : String) (modifiers : List TypeModifier) : List LetStmt :=
  match modifiers with
  | [.MutPtr, .MutPtr] =>
    [letVar (outName name) [.var (argName name)],
      letMut "ptr" [.text "std::ptr::null_mut()"],
      ⟨false, [outName name, argName name], [.var (outName name),
        .text (".map(|arg| \x7b if let Some(arg) = arg.as_mut() \x7b arg.add_ref(); " ++
          "ptr = arg.get_raw(); \x7d (Some(arg), std::ptr::from_mut(&mut "), .var "ptr",
        .text ")) \x7d).unwrap_or((None, std::ptr::null_mut()))"]⟩]
  | _ =>
    if tyString = BASE_REF_COUNTED then
      [letVar (outName name) [.var (argName name)],
        letVar (argName name) [.var (outName name),
          .text (".map(|arg| \x7b arg.add_ref(); arg.into_raw() \x7d)" ++
            ".unwrap_or(std::ptr::null_mut())")]]
    else
      [letVar (argName name) [.var (argName name), .text (".map(|arg| \x7b arg.add_ref(); " ++
        castOf tree (tree.cefNameMap tyString) ++ " \x7d).unwrap_or(std::ptr::null_mut())")]]

def unwrapPlain (name tyString : String) (modifiers : List TypeModifier) : Option (List LetStmt) :=
  match tree.cefNameMap tyString with
  | some ⟨_, .StructDeclaration _⟩ =>
    if isDataStruct tree tyString then
      match modifiers with
      | [.ConstPtr] => some
        [letVar (argName name) [.var (argName name), .text ".cloned().map(|arg| arg.into())"],
          letVar (argName name) [.var (argName name),
            .text ".as_ref().map(std::ptr::from_ref).unwrap_or(std::ptr::null())"]]
      | [.MutPtr] => some
        [letMut (argName name) [.var (argName name), .text ".cloned().map(|arg| arg.into())"],
          letVar (argName name) [.var (argName name),
            .text ".as_mut().map(std::ptr::from_mut).unwrap_or(std::ptr::null_mut())"]]
      | _ => none
    else some [letVar (argName name) [.var (argName name),
      .text (".map(|arg| arg.into_raw())." ++ implDefault modifiers)]]
  | some ⟨_, entryTy⟩ =>
    match entryTy, decide (tyString = "cef_string_t") with
    | .TypeAlias, true => some [letVar (argName name) [.var (argName name),
      .text (".map(|arg| arg.into_raw())." ++ implDefault modifiers)]]
    | _, _ => some [letVar (argName name) [.var (argName name), .text ".into_raw()"]]
  | none =>
    match modifiers, decide (tyString = cVoid) with
    | [.MutPtr], false => some [letVar (argName name) [.var (argName name),
      .text ".map(std::ptr::from_mut).unwrap_or(std::ptr::null_mut())"]]
    | [.ConstPtr], false => some [letVar (argName name) [.var (argName name),
      .text ".map(std::ptr::from_ref).unwrap_or(std::ptr::null())"]]
    | .MutPtr :: _, _ => some [letVar (argName name) [.var (argName name), .text ".cast()"]]
    | .ConstPtr :: _, _ => some [letVar (argName name) [.var (argName name), .text ".cast()"]]
    | _, _ => none

/-- How an element of a slice is taken. -/
def getElem (tyString : String) : String :=
  if tree.root tyString = BASE_REF_COUNTED then "map(|elem| \x7b elem.add_ref(); elem.get_raw() \x7d)"
  else if (tree.cefNameMap tyString).isSome then "map(|elem| elem.get_raw())"
  else "copied()"

/-- How the elements of a slice are taken. -/
def collectVec (tyString : String) : String :=
  if (tree.cefNameMap tyString).isSome then "iter()." ++ getElem tree tyString ++ ".collect::<Vec<_>>()"
  else "to_vec()"

/-- `.as_ref().map(|arg| arg.len()).unwrap_or_default()`. -/
def lenOf (name : String) : List Token :=
  [.var name, .text ".as_ref().map(|arg| arg.len()).unwrap_or_default()"]

def vecOf (tyString name : String) : List Token :=
  [.var name, .text (".as_ref().map(|arg| arg." ++ collectVec tree tyString ++ ").unwrap_or_default()")]

def pointerVecOf (tyString name : String) : List Token :=
  [.var name, .text (".as_ref().map(|arg| arg.iter().map(|elem| elem.as_ref()." ++
    getElem tree tyString ++
    ".unwrap_or(std::ptr::null_mut())).collect::<Vec<_>>()).unwrap_or_default()")]

def asPtr (name : String) : List Token :=
  [.text "if ", .var name, .text ".is_empty() \x7b std::ptr::null() \x7d else \x7b ", .var name,
    .text ".as_ptr() \x7d"]

def asMutPtr (name : String) : List Token :=
  [.text "if ", .var name, .text ".is_empty() \x7b std::ptr::null_mut() \x7d else \x7b ", .var name,
    .text ".as_mut_ptr() \x7d"]

def unwrapBounded (countName : String) (countTy : ModifiedType Ty) (sliceName : String)
    (sliceTy : ModifiedType Ty) : Option (List LetStmt) :=
  let tyString := tree.toTokenString sliceTy.ty
  match countTy.modifiers, sliceTy.modifiers with
  | [], [.Slice] => some
    [letVar (argName countName) (lenOf (argName sliceName)),
      letVar (vecName sliceName) (vecOf tree tyString (argName sliceName)),
      letVar (argName sliceName) (asPtr (vecName sliceName))]
  | [], [.Slice, .MutPtr] => some
    [letVar (argName countName) (lenOf (argName sliceName)),
      letVar (vecName sliceName) (pointerVecOf tree tyString (argName sliceName)),
      letVar (argName sliceName) (asPtr (vecName sliceName))]
  | [.MutPtr], [.MutSlice] => some
    [letMut (outName countName) (lenOf (argName sliceName)),
      letVar (argName countName) [.text "&mut ", .var (outName countName)],
      letVar (outName sliceName) [.var (argName sliceName)],
      letMut (vecName sliceName) (vecOf tree tyString (outName sliceName)),
      letVar (argName sliceName) (asMutPtr (vecName sliceName))]
  | [.MutPtr], [.MutSlice, .MutPtr] => some
    [letMut (outName countName) (lenOf (argName sliceName)),
      letVar (argName countName) [.text "&mut ", .var (outName countName)],
      letVar (outName sliceName) [.var (argName sliceName)],
      letMut (vecName sliceName) (pointerVecOf tree tyString (outName sliceName)),
      letVar (argName sliceName) (asMutPtr (vecName sliceName))]
  | _, _ => none

def unwrapSize (sliceName sizeName : String) : List TypeModifier → List LetStmt
  | [] => [letVar (argName sizeName) (lenOf (argName sliceName))]
  | [.MutPtr] =>
    [letMut (outName sizeName) (lenOf (argName sliceName)),
      letVar (argName sizeName) [.text "&mut ", .var (outName sizeName)]]
  | _ => []

def unwrapBuffer (sliceName : String) (sliceTy : ModifiedType Ty) (sizeName : String)
    (sizeTy : ModifiedType Ty) : Option (List LetStmt) :=
  match sliceTy.modifiers with
  | [.Slice] => some
    [letVar (argName sizeName) (lenOf (argName sliceName)),
      letVar (argName sliceName) [.var (argName sliceName),
        .text (".and_then(|arg| \x7b if arg.is_empty() \x7b None \x7d else \x7b " ++
          "Some(arg.as_ptr().cast()) \x7d \x7d).unwrap_or(std::ptr::null())")]]
  | [.MutSlice] => some (unwrapSize sliceName sizeName sizeTy.modifiers ++
    [letMut (outName sliceName) [.var (argName sliceName)],
      letVar (argName sliceName) [.var (outName sliceName),
        .text (".as_mut().and_then(|arg| \x7b if arg.is_empty() \x7b None \x7d else \x7b " ++
          "Some(arg.as_mut_ptr().cast()) \x7d \x7d).unwrap_or(std::ptr::null_mut())")]])
  | _ => none

def unwrapParam : MergedParam Ty → Option (List LetStmt)
  | .Receiver => some [letVar (argName "self_") [.var "self", .text ".into_raw()"]]
  | .Single name (some argTy) =>
    let tyString := tree.toTokenString argTy.ty
    if tree.root tyString = BASE_REF_COUNTED then
      some (unwrapRefCounted tree name tyString argTy.modifiers)
    else unwrapPlain tree name tyString argTy.modifiers
  | .Bounded countName countTy sliceName sliceTy =>
    unwrapBounded tree countName countTy sliceName sliceTy
  | .Buffer sliceName sliceTy sizeName sizeTy => unwrapBuffer sliceName sliceTy sizeName sizeTy
  | .Single _ none => none

def unwrapRustArgs (inputs : List (FnArgRef Ty)) : List LetStmt :=
  (captureMergedParams tree inputs).toList ++
    ((mergeParams tree inputs).filterMap (unwrapParam tree)).flatten

/-! ### What is to be said of the statements -/

def isArg (x : String) : Bool := "arg_".toList.isPrefixOf x.toList

/-- The statements are accepted in the Rust function, and among the variables behind them each argument
of the C function has exactly one of its name; there are no others. -/
def BindsEachArgument (inputs : List (FnArgRef Ty)) : Prop :=
  ∃ locals, execAll (getRustArgs tree inputs) [] ((unwrapRustArgs tree inputs).map LetStmt.binding) =
      some locals ∧
    (locals.filter isArg).Perm (inputs.map fun arg => argName (valueName tree arg))

/-- The types of the arguments are types that `syn` parses. -/
def TypesResolve (inputs : List (FnArgRef Ty)) : Prop :=
  ∀ arg ∈ inputs, (tree.resolveModifiedType arg.ty).isSome

/-! ### Names -/

variable {avail params : List String} {inputs : List (FnArgRef Ty)}
  {m name sliceName tyString : String} {modifiers : List TypeModifier} {param : MergedParam Ty}
  {sliceTy : ModifiedType Ty} {stmts : List LetStmt}

@[simp] lemma argName_inj {n : String} : argName m = argName n ↔ m = n := by
  refine ⟨fun h => String.toList_injective ?_, congrArg argName⟩
  simpa [argName] using congrArg String.toList h

@[simp] lemma argName_ne_outName (m n : String) : argName m ≠ outName n := by
  intro h
  simpa [argName, outName] using congrArg String.toList h

@[simp] lemma argName_ne_vecName (m n : String) : argName m ≠ vecName n := by
  intro h
  simpa [argName, vecName] using congrArg String.toList h

@[simp] lemma argName_ne_ptr (m : String) : argName m ≠ "ptr" := by
  intro h
  simpa [argName] using congrArg String.toList h

lemma isArg_iff (x : String) : isArg x = true ↔ ∃ n, x = argName n := by
  refine isPrefixOf_iff_prefix.trans ?_
  constructor
  · rintro ⟨rest, hrest⟩
    refine ⟨String.ofList rest, String.toList_injective ?_⟩
    simp [argName, ← hrest]
  · rintro ⟨n, rfl⟩
    rw [argName, String.toList_append]
    exact prefix_append ..

/-! ### One statement -/

@[simp] lemma binding_letVar (name : String) (value : List Token) :
    (letVar name value).binding = ⟨[name], value.filterMap Token.var?⟩ := rfl

@[simp] lemma binding_letMut (name : String) (value : List Token) :
    (letMut name value).binding = ⟨[name], value.filterMap Token.var?⟩ := rfl

@[simp] lemma reads_text (s : String) (value : List Token) :
    (Token.text s :: value).filterMap Token.var? = value.filterMap Token.var? := rfl

@[simp] lemma reads_var (name : String) (value : List Token) :
    (Token.var name :: value).filterMap Token.var? = name :: value.filterMap Token.var? := rfl

lemma reads_separated (names : List String) : (separated names).filterMap Token.var? = names := by
  induction names with
  | nil => rfl
  | cons name names ih =>
    cases names with
    | nil => rfl
    | cons => exact congrArg (name :: ·) ih

lemma reads_tupleOf (names : List String) : (tupleOf names).filterMap Token.var? = names := by
  unfold tupleOf
  split
  · rfl
  · rw [filterMap_append, reads_text, reads_separated]
    exact append_nil names

variable {tree}

lemma wellScoped_unwrapRefCounted
    (h : argName name ∈ avail) (tyString : String) (modifiers : List TypeModifier) :
    WellScoped params avail
      ((unwrapRefCounted tree name tyString modifiers).map LetStmt.binding) := by
  unfold unwrapRefCounted
  split
  · simp [LetStmt.binding, letVar, letMut, Token.var?, h, (argName_ne_outName name name).symm]
  · split
    · simp [h]
    · simp [h]

lemma wellScoped_unwrapPlain (h : argName name ∈ avail)
    (hstmts : unwrapPlain tree name tyString modifiers = some stmts) :
    WellScoped params avail (stmts.map LetStmt.binding) := by
  unfold unwrapPlain at hstmts
  split at hstmts
  · split at hstmts
    · split at hstmts <;> cases hstmts <;> simp [h]
    · cases hstmts
      simp [h]
  · split at hstmts <;> cases hstmts <;> simp [h]
  · split at hstmts <;> cases hstmts <;> simp [h]

lemma wellScoped_unwrapBounded {countName : String}
    {countTy : ModifiedType Ty} (h : argName sliceName ∈ avail)
    (hstmts : unwrapBounded tree countName countTy sliceName sliceTy = some stmts) :
    WellScoped params avail (stmts.map LetStmt.binding) := by
  unfold unwrapBounded at hstmts
  simp only at hstmts
  split at hstmts <;> cases hstmts <;>
    simp [h, lenOf, vecOf, pointerVecOf, asPtr, asMutPtr]

lemma wellScoped_unwrapBuffer {sizeName : String}
    {sizeTy : ModifiedType Ty} (h : argName sliceName ∈ avail)
    (hstmts : unwrapBuffer sliceName sliceTy sizeName sizeTy = some stmts) :
    WellScoped params avail (stmts.map LetStmt.binding) := by
  unfold unwrapBuffer at hstmts
  split at hstmts
  · cases hstmts
    simp [h, lenOf]
  · cases hstmts
    unfold unwrapSize
    split <;> simp [h, lenOf]
  · cases hstmts

lemma wellScoped_unwrapParam (hself : rustArg param = some "self" → "self" ∈ params)
    (havail : ∀ name, capturedName param = some name → argName name ∈ avail)
    (hstmts : unwrapParam tree param = some stmts) :
    WellScoped params avail (stmts.map LetStmt.binding) := by
  cases param with
  | Receiver =>
    cases hstmts
    simp [hself rfl]
  | Single name ty =>
    cases ty with
    | none => cases hstmts
    | some argTy =>
      simp only [unwrapParam] at hstmts
      split at hstmts
      · cases hstmts
        exact wellScoped_unwrapRefCounted (havail name rfl) _ _
      · exact wellScoped_unwrapPlain (havail name rfl) hstmts
  | Bounded countName countTy sliceName sliceTy =>
    exact wellScoped_unwrapBounded (havail sliceName rfl) hstmts
  | Buffer sliceName sliceTy sizeName sizeTy =>
    exact wellScoped_unwrapBuffer (havail sliceName rfl) hstmts

/-! ### The values that are bound -/

def boundNames (stmts : List LetStmt) : List String := stmts.flatMap (·.pattern)

lemma flatMap_pattern_binding (stmts : List LetStmt) :
    (stmts.map LetStmt.binding).flatMap (·.pattern) = boundNames stmts := by
  rw [flatMap_map]
  rfl

lemma eq_of_mem_unwrapRefCounted
    (h : argName m ∈ boundNames (unwrapRefCounted tree name tyString modifiers)) : m = name := by
  unfold unwrapRefCounted at h
  split at h
  · simpa [boundNames, letVar, letMut] using h
  · split at h <;> simpa [boundNames, letVar] using h

lemma eq_of_mem_unwrapPlain (hstmts : unwrapPlain tree name tyString modifiers = some stmts)
    (h : argName m ∈ boundNames stmts) : m = name := by
  unfold unwrapPlain at hstmts
  split at hstmts
  · split at hstmts
    · split at hstmts <;> cases hstmts <;> simpa [boundNames, letVar, letMut] using h
    · cases hstmts
      simpa [boundNames, letVar] using h
  · split at hstmts <;> cases hstmts <;> simpa [boundNames, letVar] using h
  · split at hstmts <;> cases hstmts <;> simpa [boundNames, letVar] using h

lemma mem_unwrapBounded_iff {countName : String} {countTy : ModifiedType Ty}
    {elem : List TypeModifier} (hmodifiers : boundedModifiers countTy.modifiers elem =
      some sliceTy.modifiers) :
    argName m ∈ boundNames ((unwrapBounded tree countName countTy sliceName sliceTy).getD []) ↔
      m = countName ∨ m = sliceName := by
  obtain ⟨countModifiers, countTy⟩ := countTy
  obtain ⟨sliceModifiers, sliceTy⟩ := sliceTy
  simp only at hmodifiers
  unfold boundedModifiers at hmodifiers
  split at hmodifiers <;> cases hmodifiers <;>
    simp [unwrapBounded, boundNames, letVar, letMut]

lemma mem_unwrapBuffer_iff {sizeName : String} {sizeTy : ModifiedType Ty}
    {elem : List TypeModifier} (hmodifiers : bufferModifiers sizeTy.modifiers elem =
      some sliceTy.modifiers) :
    argName m ∈ boundNames ((unwrapBuffer sliceName sliceTy sizeName sizeTy).getD []) ↔
      m = sliceName ∨ m = sizeName := by
  obtain ⟨sizeModifiers, sizeTy⟩ := sizeTy
  obtain ⟨sliceModifiers, sliceTy⟩ := sliceTy
  simp only at hmodifiers
  unfold bufferModifiers at hmodifiers
  rw [or_comm]
  split at hmodifiers <;> cases hmodifiers <;>
    simp [unwrapBuffer, unwrapSize, boundNames, letVar, letMut]

lemma captured_or_mem_boundNames_iff {part : List (FnArgRef Ty)}
    (h : StandsFor tree param part) (m : String) :
    (capturedName param = some m ∨ argName m ∈ boundNames ((unwrapParam tree param).getD [])) ↔
      m ∈ param.argumentNames := by
  cases h with
  | receiver name =>
    simp [capturedName, unwrapParam, boundNames, letVar, MergedParam.argumentNames]
  | @single arg =>
    have hbound : argName m ∈ boundNames ((unwrapParam tree (.Single (valueName tree arg)
        (tree.resolveModifiedType arg.ty))).getD []) → m = valueName tree arg := by
      intro hmem
      cases hty : tree.resolveModifiedType arg.ty with
      | none =>
        rw [hty] at hmem
        exact absurd hmem not_mem_nil
      | some argTy =>
        rw [hty] at hmem
        simp only [unwrapParam] at hmem
        split at hmem
        · exact eq_of_mem_unwrapRefCounted hmem
        · cases hstmts : unwrapPlain tree (valueName tree arg) (tree.toTokenString argTy.ty)
              argTy.modifiers with
          | none =>
            rw [hstmts] at hmem
            exact absurd hmem not_mem_nil
          | some stmts =>
            rw [hstmts] at hmem
            exact eq_of_mem_unwrapPlain hstmts hmem
    simp only [capturedName, some.injEq, MergedParam.argumentNames, mem_singleton]
    constructor
    · rintro (rfl | hmem)
      · rfl
      · exact hbound hmem
    · exact fun heq => .inl heq.symm
  | bounded _ _ _ hmodifiers =>
    simp only [capturedName, unwrapParam, mem_unwrapBounded_iff hmodifiers, some.injEq,
      MergedParam.argumentNames, mem_cons, not_mem_nil, or_false]
    tauto
  | buffer _ _ _ hmodifiers =>
    simp only [capturedName, unwrapParam, mem_unwrapBuffer_iff hmodifiers, some.injEq,
      MergedParam.argumentNames, mem_cons, not_mem_nil, or_false]
    tauto

/-! ### All statements -/

lemma captured_sublist (params : List (MergedParam Ty)) :
    (params.filterMap capturedName).Sublist (params.flatMap MergedParam.argumentNames) := by
  induction params with
  | nil => exact nil_sublist _
  | cons param params ih =>
    rw [flatMap_cons]
    cases param with
    | Receiver => exact ih.trans (sublist_append_right ..)
    | Single name ty => exact ih.cons_cons name
    | Bounded countName countTy sliceName sliceTy => exact (ih.cons_cons sliceName).cons countName
    | Buffer sliceName sliceTy sizeName sizeTy => exact (ih.cons sizeName).cons_cons sliceName

lemma captured_subset_getRustArgs (htypes : TypesResolve tree inputs)
    (hparam : param ∈ mergeParams tree inputs)
    (hname : capturedName param = some name) : name ∈ getRustArgs tree inputs := by
  refine mem_filterMap.mpr ⟨param, hparam, ?_⟩
  obtain ⟨part, hpart, hsub⟩ := (covers_mergeParams tree inputs).exists_of_mem hparam
  cases hpart with
  | receiver => cases hname
  | single arg =>
    -- a single parameter has the type of its argument, and that is known
    obtain ⟨ty, hty⟩ := isSome_iff_exists.mp (htypes arg (hsub mem_cons_self))
    rw [hty]
    exact hname
  | bounded => exact hname
  | buffer => exact hname

lemma boundNames_letTuple (names : List String) :
    boundNames (letTuple names).toList = names.map argName := by
  cases names with
  | nil => rfl
  | cons name names => exact append_nil _

lemma wellScoped_letTuple {names : List String} (hnodup : names.Nodup) (hparams : names ⊆ params) :
    WellScoped params [] ((letTuple names).toList.map LetStmt.binding) := by
  cases names with
  | nil => trivial
  | cons name names =>
    refine ⟨hnodup.map fun m n => argName_inj.mp, fun x hx => .inr (hparams ?_), trivial⟩
    rwa [← reads_tupleOf (name :: names)]

lemma flatten_filterMap_unwrapParam (params : List (MergedParam Ty)) :
    (params.filterMap (unwrapParam tree)).flatten =
      params.flatMap fun param => (unwrapParam tree param).getD [] := by
  induction params with
  | nil => rfl
  | cons param params ih =>
    rw [flatMap_cons, ← ih]
    cases hparam : unwrapParam tree param with
    | none =>
      rw [filterMap_cons_none hparam]
      rfl
    | some stmts =>
      rw [filterMap_cons_some hparam]
      rfl

/-- **The variables behind the statements**: those of the names of arguments are the values of the
arguments. -/
lemma argName_mem_boundNames_iff (inputs : List (FnArgRef Ty)) (m : String) :
    argName m ∈ boundNames (unwrapRustArgs tree inputs) ↔ m ∈ inputs.map (valueName tree) := by
  set params := mergeParams tree inputs with hparams
  have hcaptured : argName m ∈ boundNames (captureMergedParams tree inputs).toList ↔
      ∃ param ∈ params, capturedName param = some m := by
    rw [captureMergedParams, boundNames_letTuple,
      List.mem_map_of_injective fun m n => argName_inj.mp]
    exact mem_filterMap
  have hunwrapped : argName m ∈ boundNames (params.filterMap (unwrapParam tree)).flatten ↔
      ∃ param ∈ params, argName m ∈ boundNames ((unwrapParam tree param).getD []) := by
    rw [flatten_filterMap_unwrapParam, boundNames, flatMap_assoc]
    exact mem_flatMap
  rw [← (lossless_mergeParams tree inputs).names, mem_flatMap, unwrapRustArgs, boundNames,
    flatMap_append, mem_append]
  refine (or_congr hcaptured hunwrapped).trans ?_
  rw [← exists_or]
  refine exists_congr fun param => ?_
  rw [← and_or_left]
  refine and_congr_right fun hmem => ?_
  obtain ⟨part, hpart, -⟩ := (covers_mergeParams tree inputs).exists_of_mem hmem
  exact captured_or_mem_boundNames_iff hpart m

lemma wellScoped_unwrapRustArgs (htypes : TypesResolve tree inputs)
    (hnodup : (inputs.map (valueName tree)).Nodup) :
    WellScoped (getRustArgs tree inputs) [] ((unwrapRustArgs tree inputs).map LetStmt.binding) := by
  have hnames : ((mergeParams tree inputs).filterMap capturedName).Nodup := by
    rw [← (lossless_mergeParams tree inputs).names] at hnodup
    exact hnodup.sublist (captured_sublist _)
  have hsub : (mergeParams tree inputs).filterMap capturedName ⊆ getRustArgs tree inputs := by
    intro name hname
    obtain ⟨param, hmem, hcaptured⟩ := mem_filterMap.mp hname
    exact captured_subset_getRustArgs htypes hmem hcaptured
  rw [unwrapRustArgs, map_append]
  refine (wellScoped_letTuple hnames hsub).append ?_
  rw [flatten_filterMap_unwrapParam, map_flatMap]
  refine wellScoped_flatMap fun param hmem => ?_
  cases hstmts : unwrapParam tree param with
  | none => trivial
  | some stmts =>
    refine wellScoped_unwrapParam ?_ ?_ hstmts
    · exact fun hself => mem_filterMap.mpr ⟨param, hmem, hself⟩
    · intro name hname
      rw [flatMap_pattern_binding, boundNames_letTuple]
      exact mem_append_left _
        (mem_map_of_mem (mem_filterMap.mpr ⟨param, hmem, hname⟩))

lemma map_argName_valueName (inputs : List (FnArgRef Ty)) :
    (inputs.map fun arg => argName (valueName tree arg)) = (inputs.map (valueName tree)).map argName :=
  map_map.symm

lemma BindsEachArgument.nodup (h : BindsEachArgument tree inputs) :
    (inputs.map (valueName tree)).Nodup := by
  obtain ⟨locals, hexec, hperm⟩ := h
  have hlocals := nodup_of_execAll hexec nodup_nil
  rw [map_argName_valueName] at hperm
  exact (hperm.nodup (hlocals.filter _)).of_map

lemma bindsEachArgument_of_nodup (htypes : TypesResolve tree inputs)
    (hnodup : (inputs.map (valueName tree)).Nodup) : BindsEachArgument tree inputs := by
  obtain ⟨locals, hexec⟩ :=
    exists_execAll (wellScoped_unwrapRustArgs htypes hnodup) (List.Subset.refl [])
  refine ⟨locals, hexec, ?_⟩
  rw [map_argName_valueName]
  have hlocals := nodup_of_execAll hexec nodup_nil
  have hargs := hnodup.map fun m n (h : argName m = argName n) => argName_inj.mp h
  refine (perm_ext_iff_of_nodup (hlocals.filter _) hargs).mpr fun x => ?_
  have hbound : x ∈ locals ↔ x ∈ boundNames (unwrapRustArgs tree inputs) := by
    rw [mem_of_execAll hexec, flatMap_pattern_binding]
    exact or_iff_left not_mem_nil
  rw [mem_filter, hbound, isArg_iff]
  constructor
  · rintro ⟨hmem, name, rfl⟩
    exact mem_map_of_mem ((argName_mem_boundNames_iff inputs name).mp hmem)
  · intro hmem
    obtain ⟨name, hname, rfl⟩ := mem_map.mp hmem
    exact ⟨(argName_mem_boundNames_iff inputs name).mpr hname, name, rfl⟩

/-! ### The arguments of a call -/

variable (tree)

/-- **The parameters and the values of the arguments**: the arguments can be read back from the merged
parameters, each in its place, and each has exactly one value in the call if and only if no two have the
same name in snake case. -/
theorem lossless_and_bindsEachArgument_iff (inputs : List (FnArgRef Ty)) :
    Lossless tree inputs ∧
      (TypesResolve tree inputs →
        (BindsEachArgument tree inputs ↔ (inputs.map (valueName tree)).Nodup)) :=
  ⟨lossless_mergeParams tree inputs,
    fun htypes => ⟨fun h => h.nodup, bindsEachArgument_of_nodup htypes⟩⟩

/-- Names in snake case: a word begins at each capital letter. -/
def snakeCase (name : String) : String :=
  String.ofList (name.toList.flatMap fun c => if c.isUpper then ['_', c.toLower] else [c])

/-- A tree without declarations, with types that are a base type behind pointers. -/
def bareTree : ParseTree (List TypeModifier × String) where
  toTokenString ty := ty.2
  parseType tokens := some ([], tokens)
  makeSnakeCaseValueName := snakeCase
  resolveModifiedType ty := some ⟨ty.1, ([], ty.2)⟩
  cefNameMap _ := none
  baseTypes := []
  lookupStructDeclaration _ := none
  structDeclarations := []

/-- `void f(self_, size_t valuesCount, const int* values, void* data, size_t data_size)`. -/
def mergedInputs : List (FnArgRef (List TypeModifier × String)) :=
  [⟨"self_", [.MutPtr], "_cef_thing_t"⟩, ⟨"valuesCount", [], "usize"⟩,
    ⟨"values", [.ConstPtr], "i32"⟩, ⟨"data", [.MutPtr], cVoid⟩, ⟨"data_size", [], "usize"⟩]

lemma typesResolve_bareTree (inputs : List (FnArgRef (List TypeModifier × String))) :
    TypesResolve bareTree inputs := fun _ _ => rfl

theorem bindsEachArgument_mergedInputs :
    (mergeParams bareTree mergedInputs).length = 3 ∧ BindsEachArgument bareTree mergedInputs :=
  ⟨by decide, ((lossless_and_bindsEachArgument_iff bareTree mergedInputs).2
    (typesResolve_bareTree mergedInputs)).mpr (by decide)⟩

/-- **Two names of one name in snake case**: `fooBar` and `foo_bar` are both `foo_bar`. -/
theorem not_bindsEachArgument_of_one_name :
    ¬ ∀ inputs : List (FnArgRef (List TypeModifier × String)), TypesResolve bareTree inputs →
      Lossless bareTree inputs ∧ BindsEachArgument bareTree inputs := by
  intro h
  have hbinds := (h [⟨"fooBar", [], "i32"⟩, ⟨"foo_bar", [], "i32"⟩]
    (typesResolve_bareTree _)).2.nodup
  exact absurd hbinds (by decide)

end CefCore.UpdateBindings
