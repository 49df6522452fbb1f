import Mathlib.Data.List.TakeWhile
import Mathlib.Data.String.Basic

/-!
# File paths

Paths as strings, with `/` between their components.

## Main results

* `baseName_append`, `append_injective`: what has been joined to a directory.
-/

namespace FilePath

open List

def currentDirectory : String := "."

/-- The path of a text. It ends in front of the first null character. -/
def ofString (text : String) : String := String.ofList (text.toList.takeWhile (· ≠ '\x00'))

def endsWith (name suffix : String) : Bool := suffix.toList.isSuffixOf name.toList

def isAbsolute (path : String) : Bool := path.toList.head? = some '/'

/-- A path without the separators at its end. The root stays, also when it is written with two
separators. -/
def stripTrailingSeparators (path : List Char) : List Char :=
  if path = ['/', '/'] then path
  else match (path.reverse.dropWhile (· = '/')).reverse with
    | [] => path.take 1
    | stripped => stripped

def baseName (path : String) : String :=
  let stripped := stripTrailingSeparators path.toList
  match (stripped.reverse.takeWhile (· ≠ '/')).reverse with
  | [] => String.ofList stripped
  | last => String.ofList last

def dirName (path : String) : String :=
  let stripped := stripTrailingSeparators path.toList
  match (stripped.reverse.dropWhile (· ≠ '/')).reverse with
  | [] => currentDirectory
  | ['/'] => "/"
  | ['/', '/'] => "//"
  | front => String.ofList (stripTrailingSeparators front.dropLast)

def append (path component : String) : String :=
  if path = currentDirectory ∧ component ≠ "" then component
  else
    let stripped := stripTrailingSeparators path.toList
    if component = "" ∨ stripped = [] ∨ stripped.getLast? = some '/' then
      String.ofList (stripped ++ component.toList)
    else String.ofList (stripped ++ '/' :: component.toList)

def removeExtension (name : String) : String :=
  match name.toList.reverse.dropWhile (· ≠ '.') with
  | [] => name
  | _ :: front => String.ofList front.reverse

/-! ### Taking paths apart -/

def IsName (component : String) : Prop := component ≠ "" ∧ '/' ∉ component.toList

instance (component : String) : Decidable (IsName component) :=
  inferInstanceAs (Decidable (_ ∧ _))

abbrev Name := { component : String // IsName component }

def IsDirectory (path : String) : Prop :=
  path ≠ "" ∧ path ≠ currentDirectory ∧ path.toList.getLast? ≠ some '/'

lemma toList_ne_nil {s : String} (h : s ≠ "") : s.toList ≠ [] := fun hnil =>
  h (String.toList_injective (by rw [hnil]; rfl))

lemma stripTrailingSeparators_of_getLast? {path : List Char} (h : path.getLast? ≠ some '/') :
    stripTrailingSeparators path = path := by
  have hdrop : (path.reverse.dropWhile (· = '/')).reverse = path := by
    cases hreverse : path.reverse with
    | nil => simpa using hreverse.symm
    | cons c front =>
      have hlast : path.getLast? = some c := by
        rw [← head?_reverse, hreverse]
        rfl
      have hc : c ≠ '/' := fun hc => h (hc ▸ hlast)
      rw [dropWhile_cons_of_neg (by simpa using hc), ← hreverse, reverse_reverse]
  unfold stripTrailingSeparators
  split
  · rfl
  · rw [hdrop]
    cases path with
    | nil => rfl
    | cons c rest => rfl

variable {directory name : String}

lemma append_eq (hdirectory : IsDirectory directory) (hname : IsName name) :
    append directory name = String.ofList (directory.toList ++ '/' :: name.toList) := by
  obtain ⟨hne, hcurrent, hlast⟩ := hdirectory
  unfold append
  rw [if_neg (fun h => hcurrent h.1), stripTrailingSeparators_of_getLast? hlast, if_neg]
  rintro (h | h | h)
  · exact hname.1 h
  · exact toList_ne_nil hne h
  · exact hlast h

lemma exists_append_eq (path : String) : ∃ front : List Char, ∀ component,
    component ≠ "" → (append path component).toList = front ++ component.toList := by
  by_cases hcurrent : path = currentDirectory
  · refine ⟨[], fun component hne => ?_⟩
    rw [append, if_pos ⟨hcurrent, hne⟩, nil_append]
  · by_cases hfront : stripTrailingSeparators path.toList = [] ∨
        (stripTrailingSeparators path.toList).getLast? = some '/'
    · refine ⟨stripTrailingSeparators path.toList, fun component hne => ?_⟩
      rw [append, if_neg fun h => hcurrent h.1, if_pos (.inr hfront), String.toList_ofList]
    · refine ⟨stripTrailingSeparators path.toList ++ ['/'], fun component hne => ?_⟩
      rw [append, if_neg fun h => hcurrent h.1, if_neg (fun h => hfront (h.resolve_left hne)),
        String.toList_ofList, append_assoc, singleton_append]

theorem append_injective {path component component' : String} (hne : component ≠ "")
    (hne' : component' ≠ "") (h : append path component = append path component') :
    component = component' := by
  obtain ⟨front, hfront⟩ := exists_append_eq path
  have hlists := congrArg String.toList h
  rw [hfront component hne, hfront component' hne'] at hlists
  exact String.toList_injective (append_cancel_left hlists)

lemma getLast?_append (path : String) {component : String} (hne : component ≠ "") :
    (append path component).toList.getLast? = component.toList.getLast? := by
  obtain ⟨front, hfront⟩ := exists_append_eq path
  rw [hfront component hne, getLast?_append_of_ne_nil _ (toList_ne_nil hne)]

lemma isDirectory_append (path : String) (hname : IsName name)
    (hcurrent : name ≠ currentDirectory) : IsDirectory (append path name) := by
  have hnil := toList_ne_nil hname.1
  obtain ⟨front, hfront⟩ := exists_append_eq path
  have hsuffix : name.toList <:+ (append path name).toList := ⟨front, (hfront name hname.1).symm⟩
  have hlast := getLast?_append path hname.1
  refine ⟨fun hempty => ?_, fun hdot => ?_, ?_⟩
  · rw [hempty] at hsuffix
    exact hnil (suffix_nil.mp hsuffix)
  · rw [hdot] at hsuffix
    rcases suffix_cons_iff.mp hsuffix with heq | hsuffix
    · exact hcurrent (String.toList_injective heq)
    · exact hnil (suffix_nil.mp hsuffix)
  · rw [hlast]
    intro hslash
    exact hname.2 (mem_of_getLast? hslash)

lemma getLast?_append_ne (hname : IsName name) :
    (directory.toList ++ '/' :: name.toList).getLast? ≠ some '/' := by
  intro h
  have hnil := toList_ne_nil hname.1
  rw [List.getLast?_append, List.getLast?_cons_of_ne_nil hnil] at h
  cases hlast : name.toList.getLast? with
  | none => exact hnil (getLast?_eq_none_iff.mp hlast)
  | some c =>
    rw [hlast] at h
    obtain rfl : c = '/' := Option.some.inj h
    exact hname.2 (mem_of_getLast? hlast)

lemma reverse_append_split (hname : IsName name) :
    (directory.toList ++ '/' :: name.toList).reverse.takeWhile (· ≠ '/') = name.toList.reverse ∧
      (directory.toList ++ '/' :: name.toList).reverse.dropWhile (· ≠ '/') =
        '/' :: directory.toList.reverse := by
  have hreverse : (directory.toList ++ '/' :: name.toList).reverse =
      name.toList.reverse ++ '/' :: directory.toList.reverse := by simp
  have hall : ∀ c ∈ name.toList.reverse, decide (c ≠ '/') = true := by
    intro c hc
    have hc : c ∈ name.toList := mem_reverse.mp hc
    simpa using fun heq : c = '/' => hname.2 (heq ▸ hc)
  rw [hreverse]
  rw [takeWhile_append_of_pos hall, dropWhile_append_of_pos hall,
    takeWhile_cons_of_neg (by simp), dropWhile_cons_of_neg (by simp), append_nil]
  exact ⟨rfl, rfl⟩

theorem baseName_append (hdirectory : IsDirectory directory)
    (hname : IsName name) : baseName (append directory name) = name := by
  unfold baseName
  rw [append_eq hdirectory hname, String.toList_ofList,
    stripTrailingSeparators_of_getLast? (getLast?_append_ne hname)]
  dsimp only
  rw [(reverse_append_split hname).1, reverse_reverse]
  cases hlist : name.toList with
  | nil => exact absurd hlist (toList_ne_nil hname.1)
  | cons c rest =>
    dsimp only
    rw [← hlist, String.ofList_toList]

theorem baseName_of_isName (hname : IsName name) : baseName name = name := by
  have hall : ∀ c ∈ name.toList.reverse, decide (c ≠ '/') = true := by
    intro c hc
    simpa using fun heq : c = '/' => hname.2 (heq ▸ mem_reverse.mp hc)
  have hlast : name.toList.getLast? ≠ some '/' := fun hlast =>
    hname.2 (mem_of_getLast? hlast)
  unfold baseName
  rw [stripTrailingSeparators_of_getLast? hlast]
  have htake : name.toList.reverse.takeWhile (fun c => decide (c ≠ '/')) = name.toList.reverse :=
    takeWhile_eq_self_iff.mpr hall
  dsimp only
  rw [htake, reverse_reverse]
  split <;> exact String.ofList_toList

end FilePath
