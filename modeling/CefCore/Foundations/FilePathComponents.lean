import CefCore.Foundations.FilePath
import Mathlib.Data.List.Induction

/-!
# The components of file paths

What a path names is in its components, whatever the number of separators between them or at its
end.

## Main definitions

* `IsChild`: a path's components are those of the directory and one more.
-/

namespace FilePath

open List Option

/-! ### Components -/

def splitSeparators : List Char → List (List Char)
  | [] => [[]]
  | c :: path =>
    if c = '/' then [] :: splitSeparators path
    else match splitSeparators path with
      | [] => [[c]]
      | part :: parts => (c :: part) :: parts

/-- The texts between the separators that are not empty. -/
def parts (path : List Char) : List (List Char) := (splitSeparators path).filter (· ≠ [])

def components (path : String) : List String := (parts path.toList).map String.ofList

lemma splitSeparators_cons {c : Char} (hc : c ≠ '/') (path : List Char) :
    splitSeparators (c :: path) = match splitSeparators path with
      | [] => [[c]]
      | part :: parts => (c :: part) :: parts := by
  rw [splitSeparators, if_neg hc]

lemma splitSeparators_ne_nil (path : List Char) : splitSeparators path ≠ [] := by
  cases path with
  | nil => exact cons_ne_nil _ _
  | cons c path =>
    by_cases hc : c = '/'
    · subst hc
      exact cons_ne_nil _ _
    · rw [splitSeparators_cons hc]
      split <;> exact cons_ne_nil _ _

lemma splitSeparators_append (l r : List Char) :
    splitSeparators (l ++ '/' :: r) = splitSeparators l ++ splitSeparators r := by
  induction l with
  | nil => rfl
  | cons c l ih =>
    by_cases hc : c = '/'
    · subst hc
      exact congrArg ([] :: ·) ih
    · cases hl : splitSeparators l with
      | nil => exact absurd hl (splitSeparators_ne_nil l)
      | cons part parts => simp [splitSeparators_cons hc, ih, hl]

lemma splitSeparators_of_not_mem {l : List Char} (h : '/' ∉ l) : splitSeparators l = [l] := by
  induction l with
  | nil => rfl
  | cons c l ih =>
    obtain ⟨hc, hl⟩ := not_or.mp (fun hmem => h (mem_cons.mpr hmem))
    rw [splitSeparators_cons (Ne.symm hc), ih hl]

@[simp] lemma parts_nil : parts [] = [] := rfl

lemma parts_append (l r : List Char) : parts (l ++ '/' :: r) = parts l ++ parts r := by
  rw [parts, splitSeparators_append, filter_append, parts, parts]

lemma parts_append_separator (l : List Char) : parts (l ++ ['/']) = parts l := by
  rw [parts_append, parts_nil, append_nil]

lemma parts_of_not_mem {l : List Char} (hne : l ≠ []) (h : '/' ∉ l) : parts l = [l] := by
  simp [parts, splitSeparators_of_not_mem h, hne]

lemma parts_dropWhile_reverse (l : List Char) :
    parts (l.reverse.dropWhile (· = '/')).reverse = parts l := by
  induction l using List.reverseRecOn with
  | nil => rfl
  | append_singleton l c ih =>
    rw [reverse_concat]
    by_cases hc : c = '/'
    · rw [dropWhile_cons_of_pos (by simpa using hc), ih, hc, parts_append_separator]
    · rw [dropWhile_cons_of_neg (by simpa using hc), reverse_cons, reverse_reverse]

lemma parts_stripTrailingSeparators (l : List Char) :
    parts (stripTrailingSeparators l) = parts l := by
  have hdrop := parts_dropWhile_reverse l
  unfold stripTrailingSeparators
  split
  · rfl
  · split
    · rename_i hnil
      rw [hnil] at hdrop
      rw [← hdrop]
      cases l with
      | nil => rfl
      | cons c l =>
        -- all that is stripped are separators
        have hall := dropWhile_eq_nil_iff.mp (reverse_eq_nil_iff.mp hnil) c (by simp)
        obtain rfl : c = '/' := by simpa using hall
        rfl
    · exact hdrop

lemma head?_stripTrailingSeparators {l : List Char} (h : l.head? = some '/') :
    (stripTrailingSeparators l).head? = some '/' := by
  obtain ⟨rest, rfl⟩ : ∃ rest, l = '/' :: rest := by
    cases l with
    | nil => cases h
    | cons c rest => exact ⟨rest, by rw [some.inj h]⟩
  unfold stripTrailingSeparators
  split
  · exact h
  · split
    · rfl
    · rename_i hcons
      obtain ⟨suffix, hsuffix⟩ := dropWhile_suffix (l := ('/' :: rest).reverse) (· = '/')
      have heq := congrArg List.reverse hsuffix
      rw [reverse_append, reverse_reverse] at heq
      cases hstripped : (('/' :: rest).reverse.dropWhile (· = '/')).reverse with
      | nil => exact absurd hstripped hcons
      | cons c front =>
        rw [hstripped, cons_append] at heq
        exact congrArg some (cons.inj heq).1

/-! ### The last component and the rest -/

section Split

def stripped (path : String) : List Char := stripTrailingSeparators path.toList

def last (path : String) : List Char := ((stripped path).reverse.takeWhile (· ≠ '/')).reverse

def front (path : String) : List Char := ((stripped path).reverse.dropWhile (· ≠ '/')).reverse

variable {path : String}

lemma front_append_last (path : String) : front path ++ last path = stripped path := by
  rw [front, last, ← reverse_append, takeWhile_append_dropWhile, reverse_reverse]

lemma not_mem_last (path : String) : '/' ∉ last path := fun h => by
  simpa using mem_takeWhile_imp (mem_reverse.mp h)

lemma baseName_of_last (h : last path ≠ []) : baseName path = String.ofList (last path) := by
  unfold baseName
  dsimp only
  split
  · rename_i hnil
    exact absurd hnil h
  · rfl

lemma exists_front (habsolute : isAbsolute path = true) : ∃ rest, front path = rest ++ ['/'] := by
  have hhead : (stripped path).head? = some '/' :=
    head?_stripTrailingSeparators (by simpa [isAbsolute] using habsolute)
  have hne : front path ≠ [] := by
    intro hnil
    have hlast := front_append_last path
    rw [hnil, nil_append] at hlast
    exact not_mem_last path (hlast ▸ mem_of_mem_head? hhead)
  have hfirst : ((stripped path).reverse.dropWhile (· ≠ '/')) ≠ [] := fun hnil =>
    hne (by rw [front, hnil, reverse_nil])
  cases hdrop : (stripped path).reverse.dropWhile (· ≠ '/') with
  | nil => exact absurd hdrop hfirst
  | cons c rest =>
    have hnot := head?_dropWhile_not (· ≠ '/') (stripped path).reverse
    rw [hdrop] at hnot
    have hc : c = '/' := by simpa using hnot
    exact ⟨rest.reverse, by rw [front, hdrop, hc, reverse_cons]⟩

lemma isName_baseName {c : Char} (hlast : (baseName path).toList.getLast? = some c) (hc : c ≠ '/') :
    IsName (baseName path) ∧ last path ≠ [] := by
  have hne : last path ≠ [] := by
    intro hnil
    have hbase : (baseName path).toList = stripped path := by
      unfold baseName
      dsimp only
      split
      · exact String.toList_ofList
      · rename_i hcons
        exact absurd hnil hcons
    rw [hbase, ← front_append_last, hnil, append_nil, front, getLast?_reverse] at hlast
    have hhead := head?_dropWhile_not (· ≠ '/') (stripped path).reverse
    rw [hlast] at hhead
    exact hc (by simpa using hhead)
  rw [baseName_of_last hne]
  refine ⟨⟨fun hempty => hne ?_, ?_⟩, hne⟩
  · have := congrArg String.toList hempty
    rwa [String.toList_ofList] at this
  · rw [String.toList_ofList]
    exact not_mem_last path

lemma dirName_eq {rest : List Char} (hfront : front path = rest ++ ['/']) :
    rest ≠ [] ∧ (dirName path).toList = stripTrailingSeparators rest ∨
      (rest = [] ∨ rest = ['/']) ∧ (dirName path).toList = rest ++ ['/'] := by
  have hmatch : ((stripTrailingSeparators path.toList).reverse.dropWhile (· ≠ '/')).reverse =
      rest ++ ['/'] := hfront
  unfold dirName
  dsimp only
  rw [hmatch]
  split
  · rename_i hnil
    exact absurd hnil (by simp)
  · rename_i hroot
    have hrest : rest = [] := append_cancel_right (hroot.trans (nil_append _).symm)
    rw [hroot]
    exact .inr ⟨.inl hrest, rfl⟩
  · rename_i hroot
    have hdouble : rest ++ ['/'] = ['/'] ++ ['/'] := hroot
    have hrest : rest = ['/'] := append_cancel_right hdouble
    rw [hroot]
    exact .inr ⟨.inr hrest, rfl⟩
  · rename_i hroot _
    rw [dropLast_concat, String.toList_ofList]
    refine .inl ⟨fun hnil => hroot ?_, rfl⟩
    rw [hnil, nil_append]

lemma parts_dirName {rest : List Char} (hfront : front path = rest ++ ['/']) :
    parts (dirName path).toList = parts rest := by
  rcases dirName_eq hfront with ⟨-, heq⟩ | ⟨-, heq⟩
  · rw [heq, parts_stripTrailingSeparators]
  · rw [heq, parts_append_separator]

theorem components_eq (habsolute : isAbsolute path = true) (hlast : last path ≠ []) :
    components path = components (dirName path) ++ [baseName path] := by
  obtain ⟨rest, hfront⟩ := exists_front habsolute
  have hpath : parts path.toList = parts rest ++ [last path] := by
    calc parts path.toList
        = parts (stripped path) := (parts_stripTrailingSeparators _).symm
      _ = parts (rest ++ '/' :: last path) := by
          rw [← front_append_last, hfront, append_assoc, singleton_append]
      _ = parts rest ++ [last path] := by
          rw [parts_append, parts_of_not_mem hlast (not_mem_last path)]
  rw [components, hpath, components, parts_dirName hfront, map_append, baseName_of_last hlast]
  rfl

lemma isAbsolute_dirName (habsolute : isAbsolute path = true) :
    isAbsolute (dirName path) = true := by
  obtain ⟨rest, hfront⟩ := exists_front habsolute
  have hhead : (stripped path).head? = some '/' :=
    head?_stripTrailingSeparators (by simpa [isAbsolute] using habsolute)
  rw [← front_append_last, hfront, append_assoc] at hhead
  have hdir : (dirName path).toList.head? = some '/' := by
    rcases dirName_eq hfront with ⟨hne, heq⟩ | ⟨-, heq⟩
    · rw [heq]
      refine head?_stripTrailingSeparators ?_
      rwa [head?_append_of_ne_nil _ hne] at hhead
    · rw [heq]
      cases hrest : rest with
      | nil => rfl
      | cons c rest' =>
        rw [hrest] at hhead
        exact hhead
  simp [isAbsolute, hdir]

end Split

/-! ### Children -/

/-- A path is a direct child of a directory, whose name is no other one for a directory. The empty
path is no directory. -/
structure IsChild (directory path : String) : Prop where
  ne : directory ≠ ""
  components_eq : components path = components directory ++ [baseName path]
  absolute_eq : isAbsolute path = isAbsolute directory
  isName : IsName (baseName path)
  ne_current : baseName path ≠ "."
  ne_parent : baseName path ≠ ".."

/-- **Absolute paths** are children of their directories. -/
theorem isChild_dirName {path : String} {c : Char} (habsolute : isAbsolute path = true)
    (hlast : (baseName path).toList.getLast? = some c) (hc : c ≠ '/') (hdot : c ≠ '.') :
    IsChild (dirName path) path := by
  obtain ⟨hname, hne⟩ := isName_baseName hlast hc
  have hdir := isAbsolute_dirName habsolute
  refine ⟨fun hempty => ?_, FilePath.components_eq habsolute hne, habsolute.trans hdir.symm, hname,
    fun hcurrent => ?_, fun hparent => ?_⟩
  · rw [hempty] at hdir
    cases hdir
  · rw [hcurrent] at hlast
    exact hdot (some.inj hlast).symm
  · rw [hparent] at hlast
    exact hdot (some.inj hlast).symm

theorem isChild_append {directory name : String} (hdirectory : IsDirectory directory)
    (hname : IsName name) (hcurrent : name ≠ ".") (hparent : name ≠ "..") :
    IsChild directory (append directory name) := by
  have hbase := baseName_append hdirectory hname
  have heq := append_eq hdirectory hname
  refine ⟨hdirectory.1, ?_, ?_, by rwa [hbase], by rwa [hbase], by rwa [hbase]⟩
  · rw [hbase, components, heq, String.toList_ofList, parts_append,
      parts_of_not_mem (toList_ne_nil hname.1) hname.2, map_append, map_singleton,
      String.ofList_toList]
    rfl
  · rw [isAbsolute, isAbsolute, heq, String.toList_ofList,
      head?_append_of_ne_nil _ (toList_ne_nil hdirectory.1)]

theorem dirName_append {directory name : String} (hdirectory : IsDirectory directory)
    (hname : IsName name) : dirName (append directory name) = directory := by
  have hfront : front (append directory name) = directory.toList ++ ['/'] := by
    rw [front, stripped, append_eq hdirectory hname, String.toList_ofList,
      stripTrailingSeparators_of_getLast? (getLast?_append_ne hname),
      (reverse_append_split hname).2, reverse_cons, reverse_reverse]
  obtain ⟨hne, hcurrent, hlast⟩ := hdirectory
  rcases dirName_eq hfront with ⟨-, heq⟩ | ⟨hnil | hroot, -⟩
  · rw [stripTrailingSeparators_of_getLast? hlast] at heq
    exact String.toList_injective heq
  · exact absurd hnil (toList_ne_nil hne)
  · rw [hroot] at hlast
    exact absurd rfl hlast

end FilePath
