import CefCore.Foundations.Covering

/-!
# The merged parameters of a binding

`SignatureRef::merge_params` of `cef-rs/update-bindings/src/parse_tree.rs` makes the parameters of a
Rust function from the arguments of a C function: a count and the elements behind it become one slice,
and so do a buffer and the size behind it. A loop looks at each pair of neighbours and puts the merged
parameter in the place of the first, with nothing in the place of the second.

The types are those of `syn`: they are a parameter, and so are what their tokens are, what parses as a
type, and the case conversion of names.

## Main definitions

* `SignatureRef.mergeParams`: the loop.
-/

namespace CefCore.UpdateBindings

open Covering List Option

inductive TypeModifier where
  | MutPtr
  | ConstPtr
  | MutSlice
  | MutRef
  | Slice
  | Ref
  | Array (size : String)
  deriving DecidableEq

structure ModifiedType (Ty : Type) where
  modifiers : List TypeModifier
  ty : Ty

inductive NameMapType where
  | TypeAlias
  | EnumName
  | StructDeclaration (isSealed : Bool)

structure NameMapEntry where
  name : String
  ty : NameMapType

structure FnArgRef (Ty : Type) where
  name : String
  ty : Ty

structure StructDeclarationRef where
  fields : List String
  methods : List String

/-- The parse tree. Tokens are their text; `parseType` is `syn::parse2::<syn::Type>`. -/
structure ParseTree (Ty : Type) where
  toTokenString : Ty → String
  parseType : String → Option Ty
  makeSnakeCaseValueName : String → String
  resolveModifiedType : Ty → Option (ModifiedType Ty)
  cefNameMap : String → Option NameMapEntry
  baseTypes : List (String × String)
  lookupStructDeclaration : String → Option Nat
  structDeclarations : List StructDeclarationRef

inductive MergedParam (Ty : Type) where
  | Receiver
  | Single (name : String) (ty : Option (ModifiedType Ty))
  | Bounded (countName : String) (countTy : ModifiedType Ty) (sliceName : String)
      (sliceTy : ModifiedType Ty)
  | Buffer (sliceName : String) (sliceTy : ModifiedType Ty) (sizeName : String)
      (sizeTy : ModifiedType Ty)

def cVoid : String := ":: std :: os :: raw :: c_void"

/-- The modifiers of a slice of structures: those of the count, and those of the elements. -/
def boundedModifiers : List TypeModifier → List TypeModifier → Option (List TypeModifier)
  | [], [.ConstPtr] => some [.Slice]
  | [], [.ConstPtr, .MutPtr] => some [.Slice, .MutPtr]
  | [.MutPtr], [.MutPtr] => some [.MutSlice]
  | [.MutPtr], [.MutPtr, .MutPtr] => some [.MutSlice, .MutPtr]
  | _, _ => none

def plainModifiers : List TypeModifier → List TypeModifier → Option (List TypeModifier)
  | [], [.ConstPtr] => some [.Slice]
  | [.MutPtr], [.MutPtr] => some [.MutSlice]
  | _, _ => none

def bufferModifiers : List TypeModifier → List TypeModifier → Option (List TypeModifier)
  | [], [.ConstPtr] => some [.Slice]
  | [], [.MutPtr] => some [.MutSlice]
  | [.MutPtr], [.MutPtr, .MutPtr] => some [.MutSlice]
  | _, _ => none

variable {Ty : Type} (tree : ParseTree Ty)

def mergeBounded (countName : String) (countTy : ModifiedType Ty) (elemName : String)
    (elemTy : ModifiedType Ty) : Option (MergedParam Ty) :=
  if tree.toTokenString countTy.ty ≠ "usize" then none
  else
    let elemTokens := tree.toTokenString elemTy.ty
    match tree.cefNameMap elemTokens with
    | some ⟨_, .StructDeclaration _⟩ => do
      let modifiers ← boundedModifiers countTy.modifiers elemTy.modifiers
      let sliceTy ← tree.parseType elemTokens
      return .Bounded countName countTy elemName ⟨modifiers, sliceTy⟩
    | _ => do
      let modifiers ← plainModifiers countTy.modifiers elemTy.modifiers
      let sliceTy ← tree.parseType elemTokens
      return .Bounded countName countTy elemName ⟨modifiers, sliceTy⟩

def mergeBuffer (elemName : String) (elemTy : ModifiedType Ty) (sizeName : String)
    (sizeTy : ModifiedType Ty) : Option (MergedParam Ty) := do
  let modifiers ← bufferModifiers sizeTy.modifiers elemTy.modifiers
  return .Buffer elemName ⟨modifiers, elemTy.ty⟩ sizeName sizeTy

def mergePair : MergedParam Ty → MergedParam Ty → Option (MergedParam Ty)
  | .Single name₁ (some ty₁), .Single name₂ (some ty₂) =>
    if name₁ = name₂ ++ "_count" then
      mergeBounded tree name₁ ty₁ name₂ ty₂
    else if tree.toTokenString ty₁.ty = cVoid then
      if name₂ ≠ name₁ ++ "_size" ∨ tree.toTokenString ty₂.ty ≠ "usize" then none
      else mergeBuffer name₁ ty₁ name₂ ty₂
    else if (name₂ = name₁ ++ "_size" ∨ name₂ = name₁ ++ "_len") ∧
        tree.toTokenString ty₂.ty = "usize" then
      mergeBuffer name₁ ty₁ name₂ ty₂
    else none
  | _, _ => none

/-- One pass of the loop: the places `i - 1` and `i`. -/
def mergeAt (args : List (Option (MergedParam Ty))) (i : Nat) : List (Option (MergedParam Ty)) :=
  match args[i - 1]?, args[i]? with
  | some (some left), some (some right) =>
    match mergePair tree left right with
    | some replacement => (args.set (i - 1) (some replacement)).set i none
    | none => args
  | _, _ => args

def singleOf (arg : FnArgRef Ty) : MergedParam Ty :=
  .Single (tree.makeSnakeCaseValueName arg.name) (tree.resolveModifiedType arg.ty)

/-- An argument of the name `self_` is the receiver. -/
def asReceiver : MergedParam Ty → MergedParam Ty
  | .Single name ty => if name = "self_" then .Receiver else .Single name ty
  | param => param

def mergeParams (inputs : List (FnArgRef Ty)) : List (MergedParam Ty) :=
  let args := inputs.map fun arg => some (singleOf tree arg)
  let args := (List.range' 1 (args.length - 1)).foldl (mergeAt tree) args
  (args.filterMap id).map asReceiver

/-! ### The arguments that are read back -/

def MergedParam.argumentNames : MergedParam Ty → List String
  | .Receiver => ["self_"]
  | .Single name _ => [name]
  | .Bounded countName _ sliceName _ => [countName, sliceName]
  | .Buffer sliceName _ sizeName _ => [sliceName, sizeName]

def valueName (arg : FnArgRef Ty) : String := tree.makeSnakeCaseValueName arg.name

/-- The arguments that a parameter stands for: their names, and their types as far as the parameter
has them. -/
inductive StandsFor : MergedParam Ty → List (FnArgRef Ty) → Prop where
  | receiver {arg : FnArgRef Ty} (name : valueName tree arg = "self_") : StandsFor .Receiver [arg]
  | single (arg : FnArgRef Ty) :
      StandsFor (.Single (valueName tree arg) (tree.resolveModifiedType arg.ty)) [arg]
  | bounded {count elem : FnArgRef Ty} {countTy elemTy sliceTy : ModifiedType Ty}
      (count_ty : tree.resolveModifiedType count.ty = some countTy)
      (elem_ty : tree.resolveModifiedType elem.ty = some elemTy)
      (slice_ty : tree.parseType (tree.toTokenString elemTy.ty) = some sliceTy.ty)
      (modifiers : boundedModifiers countTy.modifiers elemTy.modifiers = some sliceTy.modifiers) :
      StandsFor (.Bounded (valueName tree count) countTy (valueName tree elem) sliceTy) [count, elem]
  | buffer {elem size : FnArgRef Ty} {elemTy sizeTy sliceTy : ModifiedType Ty}
      (elem_ty : tree.resolveModifiedType elem.ty = some elemTy)
      (size_ty : tree.resolveModifiedType size.ty = some sizeTy)
      (slice_ty : sliceTy.ty = elemTy.ty)
      (modifiers : bufferModifiers sizeTy.modifiers elemTy.modifiers = some sliceTy.modifiers) :
      StandsFor (.Buffer (valueName tree elem) sliceTy (valueName tree size) sizeTy) [elem, size]

/-- The arguments can be read back from the parameters: their names, and which arguments each parameter
stands for. -/
structure Lossless (inputs : List (FnArgRef Ty)) : Prop where
  names : (mergeParams tree inputs).flatMap MergedParam.argumentNames = inputs.map (valueName tree)
  arguments : Covers (StandsFor tree) (mergeParams tree inputs) inputs

lemma boundedModifiers_of_plainModifiers {count elem slice : List TypeModifier}
    (h : plainModifiers count elem = some slice) : boundedModifiers count elem = some slice := by
  unfold plainModifiers at h
  split at h
  · exact h
  · exact h
  · exact nomatch h

variable {tree}

lemma mergeBounded_eq_some {countName elemName : String} {countTy elemTy : ModifiedType Ty}
    {param : MergedParam Ty}
    (h : mergeBounded tree countName countTy elemName elemTy = some param) :
    ∃ sliceTy : ModifiedType Ty, param = .Bounded countName countTy elemName sliceTy ∧
      tree.parseType (tree.toTokenString elemTy.ty) = some sliceTy.ty ∧
      boundedModifiers countTy.modifiers elemTy.modifiers = some sliceTy.modifiers := by
  unfold mergeBounded at h
  split at h
  · exact nomatch h
  · simp only at h
    split at h
    · obtain ⟨modifiers, hmodifiers, h⟩ := bind_eq_some_iff.mp h
      obtain ⟨sliceTy, hsliceTy, h⟩ := bind_eq_some_iff.mp h
      exact ⟨⟨modifiers, sliceTy⟩, (some.inj h).symm, hsliceTy, hmodifiers⟩
    · obtain ⟨modifiers, hmodifiers, h⟩ := bind_eq_some_iff.mp h
      obtain ⟨sliceTy, hsliceTy, h⟩ := bind_eq_some_iff.mp h
      exact ⟨⟨modifiers, sliceTy⟩, (some.inj h).symm, hsliceTy,
        boundedModifiers_of_plainModifiers hmodifiers⟩

lemma mergeBuffer_eq_some {elemName sizeName : String} {elemTy sizeTy : ModifiedType Ty}
    {param : MergedParam Ty} (h : mergeBuffer elemName elemTy sizeName sizeTy = some param) :
    ∃ sliceTy : ModifiedType Ty, param = .Buffer elemName sliceTy sizeName sizeTy ∧
      sliceTy.ty = elemTy.ty ∧
      bufferModifiers sizeTy.modifiers elemTy.modifiers = some sliceTy.modifiers := by
  obtain ⟨modifiers, hmodifiers, h⟩ := bind_eq_some_iff.mp h
  exact ⟨⟨modifiers, elemTy.ty⟩, (some.inj h).symm, rfl, hmodifiers⟩

lemma mergePair_eq_some {left right param : MergedParam Ty}
    (h : mergePair tree left right = some param) :
    ∃ name₁ ty₁ name₂ ty₂, left = .Single name₁ (some ty₁) ∧ right = .Single name₂ (some ty₂) ∧
      (mergeBounded tree name₁ ty₁ name₂ ty₂ = some param ∨
        mergeBuffer name₁ ty₁ name₂ ty₂ = some param) := by
  unfold mergePair at h
  split at h
  · rename_i name₁ ty₁ name₂ ty₂
    refine ⟨name₁, ty₁, name₂, ty₂, rfl, rfl, ?_⟩
    split at h
    · exact .inl h
    · split at h
      · split at h
        · exact nomatch h
        · exact .inr h
      · split at h
        · exact .inr h
        · exact nomatch h
  · exact nomatch h

lemma eq_of_standsFor_single {name : String} {ty : Option (ModifiedType Ty)}
    {part : List (FnArgRef Ty)} (h : StandsFor tree (.Single name ty) part) :
    ∃ arg, part = [arg] ∧ name = valueName tree arg ∧ ty = tree.resolveModifiedType arg.ty := by
  cases h with
  | single arg => exact ⟨arg, rfl, rfl, rfl⟩

lemma standsFor_mergePair {left right param : MergedParam Ty} {part₁ part₂ : List (FnArgRef Ty)}
    (h : mergePair tree left right = some param) (h₁ : StandsFor tree left part₁)
    (h₂ : StandsFor tree right part₂) : StandsFor tree param (part₁ ++ part₂) := by
  obtain ⟨name₁, ty₁, name₂, ty₂, rfl, rfl, hmerge⟩ := mergePair_eq_some h
  obtain ⟨arg₁, rfl, rfl, hty₁⟩ := eq_of_standsFor_single h₁
  obtain ⟨arg₂, rfl, rfl, hty₂⟩ := eq_of_standsFor_single h₂
  rcases hmerge with hbounded | hbuffer
  · obtain ⟨sliceTy, rfl, hslice, hmodifiers⟩ := mergeBounded_eq_some hbounded
    exact .bounded hty₁.symm hty₂.symm hslice hmodifiers
  · obtain ⟨sliceTy, rfl, hslice, hmodifiers⟩ := mergeBuffer_eq_some hbuffer
    exact .buffer hty₁.symm hty₂.symm hslice hmodifiers

/-! ### The loop -/

lemma eq_append_of_getElem? {α : Type} {l : List α} {i : Nat} {a b : α} (ha : l[i]? = some a)
    (hb : l[i + 1]? = some b) : ∃ pre post, l = pre ++ ([a, b] ++ post) ∧ pre.length = i := by
  obtain ⟨hi, rfl⟩ := List.getElem?_eq_some_iff.mp ha
  obtain ⟨hi', rfl⟩ := List.getElem?_eq_some_iff.mp hb
  refine ⟨l.take i, l.drop (i + 2), ?_, by simp; omega⟩
  calc l = l.take i ++ l.drop i := (take_append_drop i l).symm
    _ = _ := by rw [drop_eq_getElem_cons hi, drop_eq_getElem_cons hi']; rfl

lemma covers_mergeAt {args : List (Option (MergedParam Ty))} {inputs : List (FnArgRef Ty)} (i : Nat)
    (h : Covers (Slot (StandsFor tree)) args inputs) :
    Covers (Slot (StandsFor tree)) (mergeAt tree args (i + 1)) inputs := by
  unfold mergeAt
  split
  · rename_i left right hleft hright
    split
    · rename_i replacement hmerge
      obtain ⟨pre, post, rfl, hlength⟩ := eq_append_of_getElem? hleft hright
      have hset : ((pre ++ ([some left, some right] ++ post)).set (i + 1 - 1) (some replacement)).set
          (i + 1) none = pre ++ ([some replacement, none] ++ post) := by
        subst hlength
        simp
      rw [hset]
      refine h.replace ?_
      -- the replacement stands for both, and the empty place for none
      rintro _ (_ | ⟨h₁, _ | ⟨h₂, _ | _⟩⟩)
      have hempty : Slot (StandsFor tree) none [] := rfl
      rw [← append_assoc]
      exact .cons (standsFor_mergePair hmerge h₁ h₂) (.cons hempty .nil)
    · exact h
  · exact h

lemma covers_foldl_mergeAt {inputs : List (FnArgRef Ty)} (is : List Nat)
    {args : List (Option (MergedParam Ty))} (hpos : ∀ i ∈ is, 0 < i)
    (h : Covers (Slot (StandsFor tree)) args inputs) :
    Covers (Slot (StandsFor tree)) (is.foldl (mergeAt tree) args) inputs := by
  induction is generalizing args with
  | nil => exact h
  | cons i is ih =>
    cases i with
    | zero => exact absurd (hpos 0 mem_cons_self) (Nat.lt_irrefl 0)
    | succ i => exact ih (fun j hj => hpos j (mem_cons_of_mem _ hj)) (covers_mergeAt i h)

lemma standsFor_singleOf (arg : FnArgRef Ty) : StandsFor tree (singleOf tree arg) [arg] := .single arg

lemma standsFor_asReceiver (param : MergedParam Ty) (part : List (FnArgRef Ty))
    (h : StandsFor tree param part) : StandsFor tree (asReceiver param) part := by
  cases h with
  | receiver name => exact .receiver name
  | single arg =>
    change StandsFor tree (if valueName tree arg = "self_" then _ else _) [arg]
    split
    · rename_i hself
      exact .receiver hself
    · exact .single arg
  | bounded count_ty elem_ty slice_ty modifiers =>
    exact .bounded count_ty elem_ty slice_ty modifiers
  | buffer elem_ty size_ty slice_ty modifiers => exact .buffer elem_ty size_ty slice_ty modifiers

lemma argumentNames_eq (param : MergedParam Ty) (part : List (FnArgRef Ty))
    (h : StandsFor tree param part) : param.argumentNames = part.map (valueName tree) := by
  cases h with
  | receiver name => exact congrArg ([·]) name.symm
  | single => rfl
  | bounded => rfl
  | buffer => rfl

variable (tree)

/-- **The loop**: the parameters stand for the arguments, one behind the other.

**Proof sketch.** Before the loop each place stands for its argument. A pass puts what stands for
the arguments of two neighbours in the place of the first, and nothing in the place of the second.
-/
lemma covers_mergeParams (inputs : List (FnArgRef Ty)) :
    Covers (StandsFor tree) (mergeParams tree inputs) inputs := by
  have hbefore : Covers (Slot (StandsFor tree)) (inputs.map fun arg => some (singleOf tree arg))
      inputs := covers_map (R := Slot (StandsFor tree)) standsFor_singleOf inputs
  have hloop := covers_foldl_mergeAt (List.range' 1 (inputs.length - 1))
    (fun i hi => (mem_range'_1.mp hi).1) hbefore
  unfold mergeParams
  simp only [length_map]
  exact hloop.filterMap_slots.map standsFor_asReceiver

lemma lossless_mergeParams (inputs : List (FnArgRef Ty)) : Lossless tree inputs where
  names := (covers_mergeParams tree inputs).flatMap_eq argumentNames_eq
  arguments := covers_mergeParams tree inputs

end CefCore.UpdateBindings
