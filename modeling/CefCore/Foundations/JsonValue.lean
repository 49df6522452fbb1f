import Mathlib.Data.List.Basic
import Mathlib.Data.String.Basic

/-!
# JSON-like values and their texts

Values as programs keep them in memory, with dictionaries as lists of entries sorted by key, and a
pair of functions that writes a dictionary as a text of one line and reads it back. Not every value
has a text: byte strings, for instance, have none.

## Main definitions

* `JsonValue`, `JsonText`: the values and their texts.
-/

/-- The values without parts. A double is given by its bits. -/
inductive JsonScalar where
  | null
  | boolean (b : Bool)
  | integer (i : Int)
  | double (bits : UInt64)
  | string (s : String)
  | binary (bytes : List UInt8)
  deriving DecidableEq

inductive JsonValue where
  | scalar (s : JsonScalar)
  | dict (entries : List (String × JsonValue))
  | list (items : List JsonValue)

abbrev JsonDict := List (String × JsonValue)

mutual

def JsonValue.decEq : (a b : JsonValue) → Decidable (a = b)
  | .scalar s, .scalar t => decidable_of_iff (s = t) (by simp)
  | .dict l, .dict m =>
    have := entriesDecEq l m
    decidable_of_iff (l = m) (by simp)
  | .list l, .list m =>
    have := itemsDecEq l m
    decidable_of_iff (l = m) (by simp)
  | .scalar _, .dict _ => isFalse nofun
  | .scalar _, .list _ => isFalse nofun
  | .dict _, .scalar _ => isFalse nofun
  | .dict _, .list _ => isFalse nofun
  | .list _, .scalar _ => isFalse nofun
  | .list _, .dict _ => isFalse nofun

def JsonValue.entriesDecEq : (l m : List (String × JsonValue)) → Decidable (l = m)
  | [], [] => isTrue rfl
  | [], _ :: _ => isFalse nofun
  | _ :: _, [] => isFalse nofun
  | (k, v) :: l, (k', v') :: m =>
    have := JsonValue.decEq v v'
    have := entriesDecEq l m
    decidable_of_iff (k = k' ∧ v = v' ∧ l = m) (by simp [and_assoc])

def JsonValue.itemsDecEq : (l m : List JsonValue) → Decidable (l = m)
  | [], [] => isTrue rfl
  | [], _ :: _ => isFalse nofun
  | _ :: _, [] => isFalse nofun
  | v :: l, v' :: m =>
    have := JsonValue.decEq v v'
    have := itemsDecEq l m
    decidable_of_iff (v = v' ∧ l = m) (by simp)

end

instance : DecidableEq JsonValue := JsonValue.decEq

open List Option

namespace JsonDict

def find? (d : JsonDict) (key : String) : Option JsonValue :=
  (List.find? (fun e => e.1 = key) d).map (·.2)

def findString (d : JsonDict) (key : String) : Option String :=
  match d.find? key with
  | some (.scalar (.string s)) => some s
  | _ => none

def findBool (d : JsonDict) (key : String) : Option Bool :=
  match d.find? key with
  | some (.scalar (.boolean b)) => some b
  | _ => none

def findDict (d : JsonDict) (key : String) : Option JsonDict :=
  match d.find? key with
  | some (.dict entries) => some entries
  | _ => none

def assign (key : String) (value : JsonValue) : JsonDict → Option JsonDict
  | [] => none
  | e :: d => if e.1 = key then some ((key, value) :: d) else (assign key value d).map (e :: ·)

/-- Set the value of a key. A new key goes in front of the first greater one. -/
def set (d : JsonDict) (key : String) (value : JsonValue) : JsonDict :=
  (assign key value d).getD
    (d.takeWhile (fun e => e.1 < key) ++ (key, value) :: d.dropWhile fun e => e.1 < key)

def remove (d : JsonDict) (key : String) : JsonDict := d.filter fun e => e.1 ≠ key

variable {key : String} {value : JsonValue}

lemma find?_cons (e : String × JsonValue) (d : JsonDict) (k : String) :
    find? (e :: d) k = if e.1 = k then some e.2 else find? d k := by
  by_cases he : e.1 = k <;> simp [find?, he]

lemma assign_cons (e : String × JsonValue) (d : JsonDict) : assign key value (e :: d) =
    if e.1 = key then some ((key, value) :: d) else (assign key value d).map (e :: ·) := rfl

lemma assign_eq_none_iff : ∀ {d : JsonDict}, assign key value d = none ↔ d.find? key = none
  | [] => ⟨fun _ => rfl, fun _ => rfl⟩
  | e :: d => by
    rw [assign_cons, find?_cons]
    by_cases he : e.1 = key
    · simp [he]
    · rw [if_neg he, if_neg he, map_eq_none_iff, assign_eq_none_iff]

lemma find?_assign (k : String) : ∀ {d d' : JsonDict}, assign key value d = some d' →
    d'.find? k = if key = k then some value else d.find? k
  | [], d', h => nomatch h
  | e :: d, d', h => by
    rw [assign_cons] at h
    split at h
    · rename_i he
      cases h
      rw [find?_cons, find?_cons, he]
      split <;> rfl
    · rename_i he
      obtain ⟨d'', hassign, rfl⟩ := map_eq_some_iff.mp h
      rw [find?_cons, find?_cons, find?_assign k hassign]
      by_cases hk : e.1 = k
      · have hne : key ≠ k := fun hkey => he (hk.trans hkey.symm)
        rw [if_pos hk, if_neg hne, if_pos hk]
      · rw [if_neg hk, if_neg hk]

@[simp] lemma find?_remove (d : JsonDict) (key k : String) :
    (d.remove key).find? k = if k = key then none else d.find? k := by
  unfold remove find?
  rw [find?_filter]
  split
  · rename_i heq
    subst heq
    simp
  · rename_i hne
    congr 2
    funext e
    by_cases he : e.1 = k
    · simp [he, hne]
    · simp [he]

@[simp] lemma find?_set (d : JsonDict) (key k : String) (value : JsonValue) :
    (d.set key value).find? k = if key = k then some value else d.find? k := by
  unfold set
  cases hassign : assign key value d with
  | some d' => exact find?_assign k hassign
  | none =>
    -- the new entry is put between two parts of `d`, and none of them has an entry with this key
    have hnone := assign_eq_none_iff.mp hassign
    have hsplit := takeWhile_append_dropWhile (p := fun e : String × JsonValue => e.1 < key)
      (l := d)
    generalize d.takeWhile (fun e => e.1 < key) = l₁ at hsplit ⊢
    generalize d.dropWhile (fun e => e.1 < key) = l₂ at hsplit ⊢
    subst hsplit
    simp only [find?, getD_none, List.find?_append, List.find?_cons] at hnone ⊢
    by_cases hk : key = k
    · subst hk
      have hnone₁ : l₁.find? (fun e => decide (e.1 = key)) = none := by
        cases hfind : l₁.find? fun e => decide (e.1 = key) with
        | none => rfl
        | some e => simp [hfind] at hnone
      simp [hnone₁]
    · simp [hk]

lemma assign_eq_self_iff : ∀ {d : JsonDict}, assign key value d = some d ↔ d.find? key = some value
  | [] => ⟨fun h => (nomatch h), fun h => nomatch h⟩
  | e :: d => by
    obtain ⟨k, v⟩ := e
    rw [assign_cons, find?_cons]
    by_cases hk : k = key
    · subst hk
      simp [eq_comm]
    · rw [if_neg hk, if_neg hk, ← assign_eq_self_iff]
      simp

/-- **Setting a value** changes nothing if and only if the key has this value already. -/
lemma set_eq_self_iff {d : JsonDict} : d.set key value = d ↔ d.find? key = some value := by
  rw [← assign_eq_self_iff]
  unfold set
  cases hassign : assign key value d with
  | some d' => simp
  | none =>
    simp only [getD_none, reduceCtorEq, iff_false]
    -- there is one entry more
    intro heq
    have hlength := congrArg List.length heq
    have hsplit := congrArg List.length
      (takeWhile_append_dropWhile (p := fun e : String × JsonValue => e.1 < key) (l := d))
    simp only [length_append, length_cons] at hlength hsplit
    omega

lemma remove_eq_self_iff {d : JsonDict} : d.remove key = d ↔ d.find? key = none := by
  simp [remove, find?, filter_eq_self]

end JsonDict

/-- A writer of dictionaries and a reader that inverts it. -/
structure JsonText where
  write : JsonDict → Option (List UInt8)
  read : List UInt8 → Option JsonDict
  read_write : ∀ d text, write d = some text → read text = some d

lemma find?_snd_of_find?_fst {α β : Type} [DecidableEq α] [DecidableEq β] {table : List (α × β)}
    (h : ∀ p ∈ table, ∀ q ∈ table, p.2 = q.2 → p.1 = q.1) {a : α} {p : α × β}
    (hp : (table.find? fun p => p.1 = a) = some p) :
    ∃ q, (table.find? fun q => q.2 = p.2) = some q ∧ q.1 = a := by
  have hmem := mem_of_find?_eq_some hp
  have ha : p.1 = a := by simpa using find?_some hp
  cases hq : table.find? fun q => q.2 = p.2 with
  | none => simpa using find?_eq_none.mp hq p hmem
  | some q =>
    have htext : q.2 = p.2 := by simpa using find?_some hq
    exact ⟨q, rfl, (h q (mem_of_find?_eq_some hq) p hmem htext).trans ha⟩

/-- The writer and the reader that know the dictionaries of a table only. -/
def JsonText.ofTable (table : List (JsonDict × List UInt8))
    (h : ∀ p ∈ table, ∀ q ∈ table, p.2 = q.2 → p.1 = q.1) : JsonText where
  write d := (table.find? fun p => p.1 = d).map (·.2)
  read text := (table.find? fun p => p.2 = text).map (·.1)
  read_write d text hwrite := by
    obtain ⟨p, hp, rfl⟩ := map_eq_some_iff.mp hwrite
    obtain ⟨q, hq, hd⟩ := find?_snd_of_find?_fst h hp
    rw [hq, map_some, hd]

/-- Two writers and their readers, one after the other. The first reader must not read what the second
writer writes. -/
def JsonText.orElse (t t' : JsonText)
    (h : ∀ d text, t'.write d = some text → t.read text = none) : JsonText where
  write d := (t.write d).or (t'.write d)
  read text := (t.read text).or (t'.read text)
  read_write d text hwrite := by
    rcases or_eq_some_iff.mp hwrite with hfirst | ⟨-, hsecond⟩
    · rw [t.read_write d text hfirst, some_or]
    · rw [h d text hsecond, none_or, t'.read_write d text hsecond]

lemma JsonText.orElse_write_of_isSome {t t' : JsonText}
    (h : ∀ d text, t'.write d = some text → t.read text = none) {d : JsonDict}
    (hwrite : (t'.write d).isSome) : ∃ text, (t.orElse t' h).write d = some text := by
  refine isSome_iff_exists.mp ?_
  show ((t.write d).or (t'.write d)).isSome = true
  rw [isSome_or, hwrite, Bool.or_true]

def newline : UInt8 := 10

/-- A writer and a reader for journals. A text is a line and not empty, and no proper beginning of a
text is one. -/
structure JsonCodec where
  write : JsonDict → Option (List UInt8)
  read : List UInt8 → Option JsonDict
  read_write : ∀ d text, write d = some text → read text = some d
  write_ne_nil : ∀ d text, write d = some text → text ≠ []
  newline_not_mem : ∀ d text, write d = some text → newline ∉ text
  read_take : ∀ d text, write d = some text → ∀ n < text.length, read (text.take n) = none

namespace JsonCodec

/-- The rows of a table of dictionaries and texts that make a codec. -/
structure TableLaws (table : List (JsonDict × List UInt8)) : Prop where
  functional : ∀ p ∈ table, ∀ q ∈ table, p.2 = q.2 → p.1 = q.1
  lines : ∀ p ∈ table, p.2 ≠ [] ∧ newline ∉ p.2
  prefixFree : ∀ p ∈ table, ∀ q ∈ table, ∀ n < p.2.length, p.2.take n ≠ q.2

instance (table : List (JsonDict × List UInt8)) : Decidable (TableLaws table) :=
  decidable_of_iff ((∀ p ∈ table, ∀ q ∈ table, p.2 = q.2 → p.1 = q.1) ∧
      (∀ p ∈ table, p.2 ≠ [] ∧ newline ∉ p.2) ∧
      ∀ p ∈ table, ∀ q ∈ table, ∀ n < p.2.length, p.2.take n ≠ q.2)
    ⟨fun h => ⟨h.1, h.2.1, h.2.2⟩, fun h => ⟨h.functional, h.lines, h.prefixFree⟩⟩

lemma tableLaws_nil : TableLaws [] := ⟨by simp, by simp, by simp⟩

def ofTable (table : List (JsonDict × List UInt8)) (h : TableLaws table) : JsonCodec where
  write d := (table.find? fun p => p.1 = d).map (·.2)
  read text := (table.find? fun p => p.2 = text).map (·.1)
  read_write d text hwrite := by
    obtain ⟨p, hp, rfl⟩ := map_eq_some_iff.mp hwrite
    obtain ⟨q, hq, hd⟩ := find?_snd_of_find?_fst h.functional hp
    rw [hq, map_some, hd]
  write_ne_nil d text hwrite := by
    obtain ⟨p, hp, rfl⟩ := map_eq_some_iff.mp hwrite
    exact (h.lines p (mem_of_find?_eq_some hp)).1
  newline_not_mem d text hwrite := by
    obtain ⟨p, hp, rfl⟩ := map_eq_some_iff.mp hwrite
    exact (h.lines p (mem_of_find?_eq_some hp)).2
  read_take d text hwrite n hn := by
    obtain ⟨p, hp, rfl⟩ := map_eq_some_iff.mp hwrite
    simp only [map_eq_none_iff, find?_eq_none, decide_eq_true_eq]
    exact fun q hq => (h.prefixFree p (mem_of_find?_eq_some hp) q hq n hn).symm

end JsonCodec
