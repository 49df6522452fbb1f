import CefCore.Browser.AuthVaultKey
import Mathlib.Data.List.Forall2

/-!
# Passwords of the auth vault

What a reader of the vault is told does not depend on the passwords. This is about two vaults with
the same files, except that some profiles differ in the text of their password, be they written in
plain text or encrypted. `ReadProfile` and `VisitProfiles` are run in both of them.

## Main results

* `passwords_are_private`: a reader gets the same answers in both vaults.

## Implementation notes

* Encrypted profiles are compared under the keys in use only: the key in the environment, or else
  the one in the key file. Where that one cannot be read, a reader draws a new key, and then that
  one is in use as well.
-/

namespace CefCore.Browser.AuthVault

open List Option Script FileWorld Script FileScript

/-! ### Profiles -/

/-- Two entries that are the same, or two passwords. -/
def EntryAlike (e e' : String × JsonValue) : Prop :=
  e = e' ∨ ∃ s s', e = ("password", .scalar (.string s)) ∧ e' = ("password", .scalar (.string s'))

/-- Two profiles that differ in the text of the password only. -/
def SameButPassword (d d' : JsonDict) : Prop := List.Forall₂ EntryAlike d d'

lemma EntryAlike.fst_eq {e e' : String × JsonValue} (h : EntryAlike e e') : e.1 = e'.1 := by
  rcases h with rfl | ⟨s, s', rfl, rfl⟩ <;> rfl

lemma EntryAlike.refl (e : String × JsonValue) : EntryAlike e e := .inl rfl

namespace SameButPassword

variable {d d' : JsonDict}

lemma refl (d : JsonDict) : SameButPassword d d :=
  forall₂_same.mpr fun e _ => EntryAlike.refl e

section

variable (h : SameButPassword d d')
include h

lemma find?_eq (key : String) : d.find? key = d'.find? key ∨
    key = "password" ∧ ∃ s s', d.find? key = some (.scalar (.string s)) ∧
      d'.find? key = some (.scalar (.string s')) := by
  induction h with
  | nil => exact .inl rfl
  | @cons e e' d d' he _ ih =>
    unfold JsonDict.find? at ih ⊢
    by_cases hkey : e.1 = key
    · have hkey' : e'.1 = key := he.fst_eq ▸ hkey
      rw [find?_cons_of_pos (by simpa using hkey), find?_cons_of_pos (by simpa using hkey')]
      rcases he with rfl | ⟨s, s', rfl, rfl⟩
      · exact .inl rfl
      · exact .inr ⟨hkey.symm, s, s', rfl, rfl⟩
    · have hkey' : ¬ e'.1 = key := he.fst_eq ▸ hkey
      rw [find?_cons_of_neg (by simpa using hkey), find?_cons_of_neg (by simpa using hkey')]
      exact ih

lemma find?_eq_of_ne (key : String) (hkey : key ≠ "password") : d.find? key = d'.find? key :=
  (h.find?_eq key).resolve_right fun hpassword => hkey hpassword.1

lemma isSome_findString_password :
    (d.findString "password").isSome = (d'.findString "password").isSome := by
  unfold JsonDict.findString
  rcases h.find?_eq "password" with heq | ⟨-, s, s', hs, hs'⟩
  · rw [heq]
  · rw [hs, hs']
    rfl

lemma assign (key : String) (value : JsonValue) :
    JsonDict.assign key value d = none ∧ JsonDict.assign key value d' = none ∨
      ∃ r r', JsonDict.assign key value d = some r ∧ JsonDict.assign key value d' = some r' ∧
        SameButPassword r r' := by
  induction h with
  | nil => exact .inl ⟨rfl, rfl⟩
  | @cons e e' d d' he htail ih =>
    unfold JsonDict.assign
    by_cases hkey : e.1 = key
    · rw [if_pos hkey, if_pos (he.fst_eq ▸ hkey)]
      exact .inr ⟨_, _, rfl, rfl, .cons (EntryAlike.refl _) htail⟩
    · rw [if_neg hkey, if_neg (he.fst_eq ▸ hkey)]
      rcases ih with ⟨hnone, hnone'⟩ | ⟨r, r', hr, hr', hrest⟩
      · rw [hnone, hnone']
        exact .inl ⟨rfl, rfl⟩
      · rw [hr, hr']
        exact .inr ⟨_, _, rfl, rfl, .cons he hrest⟩

lemma split (p : String → Bool) :
    SameButPassword (d.takeWhile fun e => p e.1) (d'.takeWhile fun e => p e.1) ∧
      SameButPassword (d.dropWhile fun e => p e.1) (d'.dropWhile fun e => p e.1) := by
  induction h with
  | nil => exact ⟨.nil, .nil⟩
  | @cons e e' d d' he htail ih =>
    have hp : p e.1 = p e'.1 := congrArg p he.fst_eq
    rw [takeWhile_cons, takeWhile_cons, dropWhile_cons, dropWhile_cons, ← hp]
    cases p e.1 with
    | true => exact ⟨.cons he ih.1, ih.2⟩
    | false => exact ⟨.nil, .cons he htail⟩

lemma set (key : String) (value : JsonValue) :
    SameButPassword (d.set key value) (d'.set key value) := by
  unfold JsonDict.set
  rcases h.assign key value with ⟨hnone, hnone'⟩ | ⟨r, r', hr, hr', hrest⟩
  · obtain ⟨hfront, hback⟩ := h.split fun k => k < key
    rw [hnone, hnone']
    exact rel_append hfront (.cons (EntryAlike.refl _) hback)
  · rw [hr, hr']
    exact hrest

lemma remove_eq : d.remove "password" = d'.remove "password" := by
  unfold JsonDict.remove
  induction h with
  | nil => rfl
  | @cons e e' d d' he htail ih =>
    rcases he with rfl | ⟨s, s', rfl, rfl⟩
    · rw [filter_cons, filter_cons, ih]
    · exact ih

theorem makeProfileMetadata_eq (path : String) :
    makeProfileMetadata path d = makeProfileMetadata path d' := by
  unfold makeProfileMetadata
  rw [h.isSome_findString_password]
  exact ((((h.set _ _).set _ _).set _ _).set _ _).remove_eq

lemma looksLikeEncryptedPayload_eq :
    looksLikeEncryptedPayload d = looksLikeEncryptedPayload d' := by
  unfold looksLikeEncryptedPayload JsonDict.findBool JsonDict.findString
  rw [h.find?_eq_of_ne "encrypted" (by decide), h.find?_eq_of_ne "iv" (by decide),
    h.find?_eq_of_ne "authTag" (by decide), h.find?_eq_of_ne "data" (by decide)]

end

end SameButPassword

lemma find?_makeProfileMetadata (path : String) (profile : JsonDict) :
    (makeProfileMetadata path profile).find? "password" = none := by
  rw [makeProfileMetadata, JsonDict.find?_remove, if_pos rfl]

/-! ### The keys in use -/

/-- A key that the system draws, or that a broken write leaves in the key file. -/
def NewKey (w : FileWorld) (key : Bytes) : Prop :=
  ∃ n, key = (List.range encryptionKeyBytes).map (w.answers n).random ∨
    (w.answers n).leftover.bind parseKeyHex = some key

/-- A key that a reader may come to use: the one in the environment or, without it, the one in the
key file, and a new one as well if the key file has none or some operation fails. -/
def KeyInUse (keyPath : String) (w : FileWorld) (key : Bytes) : Prop :=
  envKey w = some key ∨ envKey w = none ∧ (fileKey keyPath w = some key ∨
    (fileKey keyPath w = none ∨ ∃ n, (w.answers n).ok = false) ∧ NewKey w key)

section KeyInUse

variable {keyPath : String} {w w' : FileWorld} {key : Bytes} {k : Nat}

lemma NewKey.of_later (hanswers : w'.answers = fun n => w.answers (n + k)) (h : NewKey w' key) :
    NewKey w key := by
  obtain ⟨n, h⟩ := h
  rw [hanswers] at h
  exact ⟨n + k, h⟩

lemma KeyInUse.of_later (hanswers : w'.answers = fun n => w.answers (n + k))
    (henv : envKey w' = envKey w) (hfile : fileKey keyPath w' = fileKey keyPath w)
    (h : KeyInUse keyPath w' key) : KeyInUse keyPath w key := by
  unfold KeyInUse at h ⊢
  rw [henv, hfile] at h
  refine h.imp_right fun ⟨hnone, h⟩ => ⟨hnone, h.imp_right fun ⟨hguard, hnew⟩ => ⟨?_, ?_⟩⟩
  · refine hguard.imp_right fun ⟨n, hn⟩ => ⟨n + k, ?_⟩
    rwa [hanswers] at hn
  · exact hnew.of_later hanswers

lemma KeyInUse.of_next (h : KeyInUse keyPath w.next key) : KeyInUse keyPath w key := by
  have hanswers : w.next.answers = fun n => w.answers (n + 1) := rfl
  exact h.of_later hanswers rfl rfl

/-- **Creating a key** returns a new one, and what it leaves in the key file is the old contents or
a new key. -/
lemma exec_createEncryptionKey_newKey (keyPath : String) (w : FileWorld) :
    (∀ key, (exec FileOp.run (createEncryptionKey keyPath) w).1 = some key → NewKey w key) ∧
      (∀ key, fileKey keyPath (exec FileOp.run (createEncryptionKey keyPath) w).2 = some key →
        fileKey keyPath w = some key ∨ NewKey w key) ∧
      ∃ k, (exec FileOp.run (createEncryptionKey keyPath) w).2.answers =
        fun n => w.answers (n + k) := by
  unfold createEncryptionKey
  dsimp only
  split
  · exact ⟨fun _ h => (by cases h), fun _ => .inl, 0, rfl⟩
  · rw [createDirectory, perform_bind, exec_call]
    by_cases hok : w.answer.ok = true
    · simp only [FileOp.run, hok, if_true, Bool.not_true, Bool.false_eq_true, if_false]
      rw [randBytes, perform_bind, exec_call, writeEncryptionKeyFile,
        writeFile, perform_bind, exec_call]
      set world : FileWorld := { w.next with directories := w.directories.insert _ } with hworld
      have hdrawn : ((FileOp.randBytes encryptionKeyBytes).run world).1 =
          (List.range encryptionKeyBytes).map (w.answers 1).random := rfl
      have hnext : ((FileOp.randBytes encryptionKeyBytes).run world).2 = world.next := rfl
      rw [hdrawn, hnext]
      rcases FileOp.run_writeFile_cases keyPath
          (keyFileContents ((List.range encryptionKeyBytes).map (w.answers 1).random)) world.next with
        ⟨-, hrun⟩ | ⟨-, -, hrun⟩ | ⟨rest, -, hrest, hrun⟩
      · rw [hrun]
        refine ⟨fun key heq => ⟨1, .inl (some.inj heq).symm⟩, fun key hkey => ?_, 3, rfl⟩
        -- the key file holds the key that has been drawn
        refine .inr ⟨1, .inl ?_⟩
        have hparse := parseKeyHex_hexEncode (FileOp.length_randBytes encryptionKeyBytes world)
        have hcontents : fileKey keyPath (world.next.next.setFile keyPath (some (keyFileContents
            ((List.range encryptionKeyBytes).map (w.answers 1).random)))) =
              some ((List.range encryptionKeyBytes).map (w.answers 1).random) := by
          rw [fileKey, setFile_files_self]
          exact hparse
        exact (some.inj (hcontents.symm.trans hkey)).symm
      · rw [hrun]
        exact ⟨fun _ h => (by cases h), fun _ => .inl, 3, rfl⟩
      · rw [hrun]
        refine ⟨fun _ h => (by cases h), fun key hkey => .inr ⟨2, .inr ?_⟩, 3, rfl⟩
        have hleft : (w.answers 2).leftover = some rest := hrest
        have hcontents : (some rest).bind parseKeyHex = some key := by
          rwa [← setFile_files_self world.next.next keyPath (some rest)]
        rw [hleft]
        exact hcontents
    · simp only [FileOp.run, hok, Bool.false_eq_true, if_false]
      exact ⟨fun _ h => (by cases h), fun _ => .inl, 1, rfl⟩

/-- **Ensuring a key** returns one that is in use, and brings no other one into use. -/
theorem exec_ensureEncryptionKey_keyInUse (keyPath : String) (w : FileWorld) :
    (∀ key, (exec FileOp.run (ensureEncryptionKey keyPath) w).1 = some key →
        KeyInUse keyPath w key) ∧
      ∀ key, KeyInUse keyPath (exec FileOp.run (ensureEncryptionKey keyPath) w).2 key →
        KeyInUse keyPath w key := by
  unfold ensureEncryptionKey
  have henv : exec FileOp.run getEncryptionKeyFromEnv w = (envKey w, w.next) := rfl
  have hfile : exec FileOp.run (readEncryptionKeyFile keyPath) w.next =
      ((if w.next.answer.ok then w.files keyPath else none).bind parseKeyHex, w.next.next) := rfl
  rw [exec_bind, henv]
  cases hkey : envKey w with
  | some key =>
    exact ⟨fun key' heq => .inl (hkey.trans heq), fun _ h => h.of_next⟩
  | none =>
    rw [exec_bind, hfile]
    cases hread : (if w.next.answer.ok then w.files keyPath else none).bind parseKeyHex with
    | some key =>
      refine ⟨fun key' heq => .inr ⟨hkey, .inl ?_⟩, fun _ h => h.of_next.of_next⟩
      by_cases hok : w.next.answer.ok = true
      · rw [if_pos hok] at hread
        exact hread.trans heq
      · rw [if_neg hok] at hread
        cases hread
    | none =>
      have hguard : fileKey keyPath w = none ∨ ∃ n, (w.answers n).ok = false := by
        by_cases hok : w.next.answer.ok = true
        · rw [if_pos hok] at hread
          exact .inl hread
        · exact .inr ⟨1, Bool.eq_false_of_not_eq_true hok⟩
      obtain ⟨hreturned, hleft, k, hanswers⟩ := exec_createEncryptionKey_newKey keyPath w.next.next
      have hlater : w.next.next.answers = fun n => w.answers (n + 2) := rfl
      have hnew : ∀ {key}, NewKey w.next.next key → KeyInUse keyPath w key := fun h =>
        .inr ⟨hkey, .inr ⟨hguard, h.of_later hlater⟩⟩
      refine ⟨fun key heq => hnew (hreturned key heq), fun key h => ?_⟩
      have henv' : envKey (exec FileOp.run (createEncryptionKey keyPath) w.next.next).2 =
          none := by
        rw [envKey, exec_environment]
        exact hkey
      rcases h with h | ⟨-, h | ⟨-, h⟩⟩
      · rw [henv'] at h
        cases h
      · exact (hleft key h).elim (fun h => .inr ⟨hkey, .inl h⟩) hnew
      · exact hnew (h.of_later hanswers)

lemma KeyInUse.of_profileFromInput {v : VaultPrimitives} {input : Bytes}
    (h : KeyInUse keyPath (exec FileOp.run (profileFromInput v keyPath input) w).2 key) :
    KeyInUse keyPath w key := by
  unfold profileFromInput at h
  split at h
  · exact h
  · split at h
    · rw [exec_bind] at h
      refine (exec_ensureEncryptionKey_keyInUse keyPath w).2 key ?_
      cases hfound : (exec FileOp.run (ensureEncryptionKey keyPath) w).1 with
      | none => rwa [hfound] at h
      | some key => rwa [hfound] at h
    · exact h

lemma KeyInUse.of_readProfileDict (v : VaultPrimitives) (path : String)
    (h : KeyInUse keyPath (exec FileOp.run (readProfileDict v path keyPath) w).2 key) :
    KeyInUse keyPath w key := by
  unfold readProfileDict at h
  rw [readFileToString, perform_bind, exec_call] at h
  have hrun : ((FileOp.readFile path).run w).2 = w.next := rfl
  rw [hrun] at h
  refine KeyInUse.of_next ?_
  cases hinput : ((FileOp.readFile path).run w).1 with
  | none => rwa [hinput] at h
  | some input =>
    rw [hinput] at h
    exact h.of_profileFromInput

end KeyInUse

/-! ### Vaults -/

section Vaults

variable (v : VaultPrimitives)

/-- Two files hold profiles in plain text that differ in the text of the password only. -/
def PlainAlike (input input' : Bytes) : Prop :=
  ∃ d d', v.json.read input = some d ∧ v.json.read input' = some d' ∧
    looksLikeEncryptedPayload d = false ∧ SameButPassword d d'

/-- Two files hold encrypted profiles that differ, if one of the keys opens them, in the text of the
password only. -/
def SealedAlike (keys : Bytes → Prop) (input input' : Bytes) : Prop :=
  (∃ d, v.json.read input = some d ∧ looksLikeEncryptedPayload d = true) ∧
    (∃ d', v.json.read input' = some d' ∧ looksLikeEncryptedPayload d' = true) ∧
    ∀ key, keys key → Option.Rel SameButPassword
      (decryptProfileData v input key) (decryptProfileData v input' key)

/-- Two files are the same, or they hold profiles that differ in the text of the password only. -/
def FileAlike (keys : Bytes → Prop) (file file' : Option Bytes) : Prop :=
  file = file' ∨ ∃ input input', file = some input ∧ file' = some input' ∧
    (PlainAlike v input input' ∨ SealedAlike v keys input input')

/-- Two vaults whose files differ in the texts of passwords only. The system answers in the same way
in both of them. -/
structure Alike (keys : Bytes → Prop) (keyPath : String) (w w' : FileWorld) : Prop where
  files : ∀ path, FileAlike v keys (w.files path) (w'.files path)
  key : w.files keyPath = w'.files keyPath
  directories : w.directories = w'.directories
  environment : w.environment = w'.environment
  answers : w.answers = w'.answers

variable {v} {keys : Bytes → Prop} {keyPath : String} {w w' : FileWorld}

lemma FileAlike.isSome_eq {file file' : Option Bytes} (h : FileAlike v keys file file') :
    file.isSome = file'.isSome := by
  rcases h with rfl | ⟨input, input', rfl, rfl, -⟩ <;> rfl

/-! ### Operations in both vaults -/

def Blind (keyPath : String) (op : FileOp) : Prop := ∀ path, op = .readFile path → path = keyPath

section

variable (h : Alike v keys keyPath w w')
include h

lemma Alike.setFile (path : String) (contents : Option Bytes) :
    Alike v keys keyPath (w.setFile path contents) (w'.setFile path contents) where
  files other := by
    by_cases hother : other = path
    · subst hother
      rw [setFile_files_self, setFile_files_self]
      exact .inl rfl
    · rw [setFile_files_of_ne _ hother, setFile_files_of_ne _ hother]
      exact h.files other
  key := by
    by_cases hkey : keyPath = path
    · subst hkey
      rw [setFile_files_self, setFile_files_self]
    · rw [setFile_files_of_ne _ hkey, setFile_files_of_ne _ hkey]
      exact h.key
  directories := h.directories
  environment := h.environment
  answers := h.answers

lemma Alike.next : Alike v keys keyPath w.next w'.next where
  files := h.files
  key := h.key
  directories := h.directories
  environment := h.environment
  answers := by
    funext n
    exact congrFun h.answers (n + 1)

theorem Alike.run (op : FileOp) :
    Alike v keys keyPath (op.run w).2 (op.run w').2 ∧
      (Blind keyPath op → (op.run w).1 = (op.run w').1) := by
  have hanswer : w.answer = w'.answer := congrFun h.answers 0
  cases op with
  | readFile path =>
    refine ⟨h.next, fun hblind => ?_⟩
    obtain rfl := hblind path rfl
    simp only [FileOp.run]
    rw [hanswer, h.key]
  | writeFile path contents =>
    simp only [FileOp.run]
    rw [hanswer]
    split
    · exact ⟨h.next.setFile path _, fun _ => rfl⟩
    · split
      · exact ⟨h.next, fun _ => rfl⟩
      · exact ⟨h.next.setFile path _, fun _ => rfl⟩
  | deleteFile path =>
    simp only [FileOp.run]
    rw [hanswer]
    split
    · exact ⟨h.next.setFile path _, fun _ => rfl⟩
    · exact ⟨h.next, fun _ => rfl⟩
  | createDirectory path =>
    simp only [FileOp.run]
    rw [hanswer]
    split
    · refine ⟨{ h.next with directories := ?_ }, fun _ => rfl⟩
      exact congrArg (List.insert path) h.directories
    · exact ⟨h.next, fun _ => rfl⟩
  | pathExists path =>
    refine ⟨h.next, fun _ => ?_⟩
    simp only [FileOp.run]
    rw [h.directories, (h.files path).isSome_eq]
  | enumerate directory =>
    refine ⟨h.next, fun _ => ?_⟩
    simp only [FileOp.run]
    rw [hanswer]
    exact filter_congr fun path _ => by rw [(h.files path).isSome_eq]
  | getVar name => exact ⟨h.next, fun _ => congrFun h.environment name⟩
  | randBytes n =>
    refine ⟨h.next, fun _ => ?_⟩
    simp only [FileOp.run]
    rw [hanswer]

end

/-- **A script** that reads no profile goes the same way in both vaults. -/
theorem Alike.exec {α : Type} : ∀ (p : FileScript α) {w w' : FileWorld}, Alike v keys keyPath w w' →
    p.All (Blind keyPath) → (exec FileOp.run p w).1 = (exec FileOp.run p w').1 ∧
      Alike v keys keyPath (exec FileOp.run p w).2 (exec FileOp.run p w').2
  | .done a, _, _, h, _ => ⟨rfl, h⟩
  | .call op next, w, w', h, hp => by
    obtain ⟨hworlds, hresults⟩ := h.run op
    rw [exec_call, exec_call, ← hresults hp.1]
    exact Alike.exec (next (op.run w).1) hworlds (hp.2 _)

lemma ensureEncryptionKey_blind (keyPath : String) :
    (ensureEncryptionKey keyPath).All (Blind keyPath) := by
  refine all_ensureEncryptionKey (fun _ => nofun)
    (fun path heq => (FileOp.readFile.inj heq).symm) ?_
  unfold createEncryptionKey
  dsimp only
  split
  · trivial
  · refine ⟨nofun, fun created => ?_⟩
    cases created with
    | false => trivial
    | true => exact ⟨nofun, fun key => ⟨nofun, fun written => trivial⟩⟩

/-! ### Readers in both vaults -/

lemma Alike.profileFromInput (h : Alike v keys keyPath w w') (input : Bytes) :
    Option.Rel SameButPassword (Script.exec FileOp.run (profileFromInput v keyPath input) w).1
        (Script.exec FileOp.run (profileFromInput v keyPath input) w').1 ∧
      Alike v keys keyPath (Script.exec FileOp.run (profileFromInput v keyPath input) w).2
        (Script.exec FileOp.run (profileFromInput v keyPath input) w').2 := by
  have hblind : (AuthVault.profileFromInput v keyPath input).All (Blind keyPath) := by
    unfold AuthVault.profileFromInput
    split
    · trivial
    · split
      · refine Script.All.bind (fun key => ?_) (ensureEncryptionKey_blind keyPath)
        cases key <;> trivial
      · trivial
  obtain ⟨hresult, hworlds⟩ := Alike.exec (AuthVault.profileFromInput v keyPath input) h hblind
  refine ⟨?_, hworlds⟩
  rw [hresult]
  cases (Script.exec FileOp.run (AuthVault.profileFromInput v keyPath input) w').1 with
  | none => exact .none
  | some d => exact .some (SameButPassword.refl d)

/-- **Reading a file** in both vaults. -/
theorem Alike.readProfileDict (h : Alike v keys keyPath w w')
    (hkeys : ∀ key, KeyInUse keyPath w key → keys key) (path : String) :
    Option.Rel SameButPassword (Script.exec FileOp.run (readProfileDict v path keyPath) w).1
        (Script.exec FileOp.run (readProfileDict v path keyPath) w').1 ∧
      Alike v keys keyPath (Script.exec FileOp.run (readProfileDict v path keyPath) w).2
        (Script.exec FileOp.run (readProfileDict v path keyPath) w').2 := by
  unfold AuthVault.readProfileDict
  rw [readFileToString, perform_bind, exec_call, exec_call]
  have hanswer : w.answer = w'.answer := congrFun h.answers 0
  simp only [FileOp.run]
  rw [hanswer]
  by_cases hok : w'.answer.ok = true
  · rw [if_pos hok, if_pos hok]
    rcases h.files path with heq | ⟨input, input', hinput, hinput', halike⟩
    · rw [heq]
      cases w'.files path with
      | none => exact ⟨.none, h.next⟩
      | some input => exact h.next.profileFromInput input
    · rw [hinput, hinput']
      dsimp only
      rcases halike with ⟨d, d', hread, hread', hlooks, hsame⟩ |
        ⟨⟨d, hread, hlooks⟩, ⟨d', hread', hlooks'⟩, hopens⟩
      · rw [AuthVault.profileFromInput, AuthVault.profileFromInput, hread, hread']
        dsimp only
        have hlooks' : looksLikeEncryptedPayload d' = false :=
          hsame.looksLikeEncryptedPayload_eq ▸ hlooks
        rw [if_neg (by simp [hlooks]), if_neg (by simp [hlooks'])]
        exact ⟨.some hsame, h.next⟩
      · rw [AuthVault.profileFromInput, AuthVault.profileFromInput, hread, hread']
        dsimp only
        rw [if_pos hlooks, if_pos hlooks', exec_bind, exec_bind]
        -- The key is the same in both vaults, and opens both files or none.
        obtain ⟨hkey, hworlds⟩ := Alike.exec _ h.next (ensureEncryptionKey_blind keyPath)
        rw [← hkey]
        cases hfound : (Script.exec FileOp.run (ensureEncryptionKey keyPath) w.next).1 with
        | none => exact ⟨.none, hworlds⟩
        | some key =>
          have hinUse := (exec_ensureEncryptionKey_keyInUse keyPath w.next).1 key hfound
          exact ⟨hopens key (hkeys key hinUse.of_next), hworlds⟩
  · rw [if_neg hok, if_neg hok]
    exact ⟨.none, h.next⟩

/-- **Reading a directory** in both vaults. -/
theorem Alike.listLoop : ∀ (entries : List String) (profiles : List JsonDict) {w w' : FileWorld},
    Alike v keys keyPath w w' → (∀ key, KeyInUse keyPath w key → keys key) →
      (Script.exec FileOp.run (listLoop v keyPath entries profiles) w).1 =
        (Script.exec FileOp.run (listLoop v keyPath entries profiles) w').1
  | [], _, _, _, _, _ => rfl
  | entry :: entries, profiles, w, w', h, hkeys => by
    cases hfile : isProfileFile entry with
    | false =>
      rw [listLoop_of_other v hfile]
      exact Alike.listLoop entries profiles h hkeys
    | true =>
      rw [listLoop_of_profileFile v hfile, exec_bind, exec_bind]
      obtain ⟨hparsed, hworlds⟩ := h.readProfileDict hkeys entry
      have hkeys' := fun key hkey => hkeys key (KeyInUse.of_readProfileDict v entry hkey)
      revert hparsed
      generalize (Script.exec FileOp.run (AuthVault.readProfileDict v entry keyPath) w).1 = parsed
      generalize (Script.exec FileOp.run (AuthVault.readProfileDict v entry keyPath) w').1 = parsed'
      rintro (hsame | -)
      · dsimp only
        rw [hsame.makeProfileMetadata_eq entry]
        exact Alike.listLoop entries _ hworlds hkeys'
      · exact Alike.listLoop entries profiles hworlds hkeys'

lemma find?_password_of_mem_listLoop : ∀ (entries : List String) (profiles : List JsonDict)
    (w : FileWorld), (∀ metadata ∈ profiles, metadata.find? "password" = none) →
      ∀ metadata ∈ (exec FileOp.run (listLoop v keyPath entries profiles) w).1,
        metadata.find? "password" = none
  | [], _, _, h => h
  | entry :: entries, profiles, w, h => by
    cases hfile : isProfileFile entry with
    | false =>
      rw [listLoop_of_other v hfile]
      exact find?_password_of_mem_listLoop entries profiles w h
    | true =>
      rw [listLoop_of_profileFile v hfile, exec_bind]
      cases (exec FileOp.run (readProfileDict v entry keyPath) w).1 with
      | none => exact find?_password_of_mem_listLoop entries profiles _ h
      | some profile =>
        refine find?_password_of_mem_listLoop entries _ _ fun metadata hmem => ?_
        rcases mem_append.mp hmem with hold | hnew
        · exact h metadata hold
        · rw [mem_singleton.mp hnew]
          exact find?_makeProfileMetadata entry profile

/-- **Passwords are private**: `ReadProfile` and `VisitProfiles` have the same results in two vaults
that differ in the texts of passwords only, and no password is in them. -/
theorem passwords_are_private {home : String}
    (h : Alike v (KeyInUse (getDefaultEncryptionKeyPath home) w) (getDefaultEncryptionKeyPath home)
      w w') :
    (∀ name, (Script.exec FileOp.run (readProfileOnBlockingThread v (getDefaultAuthDirectory home)
          (getDefaultEncryptionKeyPath home) name) w).1 =
        (Script.exec FileOp.run (readProfileOnBlockingThread v (getDefaultAuthDirectory home)
          (getDefaultEncryptionKeyPath home) name) w').1 ∧
      (Script.exec FileOp.run (readProfileOnBlockingThread v (getDefaultAuthDirectory home)
          (getDefaultEncryptionKeyPath home) name) w).1.profile.find? "password" = none) ∧
      (Script.exec FileOp.run (listProfilesOnBlockingThread v (getDefaultAuthDirectory home)
          (getDefaultEncryptionKeyPath home)) w).1 =
        (Script.exec FileOp.run (listProfilesOnBlockingThread v (getDefaultAuthDirectory home)
          (getDefaultEncryptionKeyPath home)) w').1 ∧
      ∀ metadata ∈ (Script.exec FileOp.run (listProfilesOnBlockingThread v
          (getDefaultAuthDirectory home) (getDefaultEncryptionKeyPath home)) w).1.profiles,
        metadata.find? "password" = none := by
  refine ⟨fun name => ?_, ?_, ?_⟩
  · unfold readProfileOnBlockingThread
    split
    · exact ⟨rfl, rfl⟩
    · rw [exec_bind_pure, exec_bind_pure]
      obtain ⟨hread, -⟩ := h.readProfileDict (fun _ hkey => hkey)
        (buildProfilePath (getDefaultAuthDirectory home) name)
      revert hread
      generalize (Script.exec FileOp.run (AuthVault.readProfileDict v _ _) w).1 = profile
      generalize (Script.exec FileOp.run (AuthVault.readProfileDict v _ _) w').1 = profile'
      rintro (hsame | -)
      · refine ⟨?_, find?_makeProfileMetadata _ _⟩
        rw [readResult, readResult, hsame.makeProfileMetadata_eq]
      · exact ⟨rfl, rfl⟩
  · unfold listProfilesOnBlockingThread
    split
    · rfl
    · obtain ⟨hworlds, hfound⟩ := h.run (.pathExists (getDefaultAuthDirectory home))
      obtain ⟨-, hentries⟩ := hworlds.run (.enumerate (getDefaultAuthDirectory home))
      rw [pathExists, perform_bind, exec_call, exec_call, ← hfound nofun]
      split
      · rfl
      · rw [enumerate, perform_bind, exec_call, exec_call,
          ← hentries nofun, exec_bind_pure, exec_bind_pure]
        have hloop := (hworlds.run (.enumerate (getDefaultAuthDirectory home))).1.listLoop
        rw [hloop _ _ fun key hkey => KeyInUse.of_next (KeyInUse.of_next hkey)]
  · unfold listProfilesOnBlockingThread
    split
    · exact nofun
    · rw [pathExists, perform_bind, exec_call]
      split
      · exact nofun
      · rw [enumerate, perform_bind, exec_call, exec_bind_pure]
        exact find?_password_of_mem_listLoop _ [] _ nofun

end Vaults

/-! ### Two vaults with other passwords -/

/-- The profile `a` with the password `p` under a key of zeros. -/
def sampleP : SampleSeal where
  name := "a"
  password := some "p"
  keyByte := 0
  data := [181, 173, 96, 29, 109, 66, 5, 15, 106, 43, 231, 233, 154, 209, 252, 58, 94, 106, 35, 234,
    23, 132, 90, 21, 162, 209, 130, 225, 7, 98, 23, 180, 253, 104, 193, 10, 71, 55, 235]
  authTag := [130, 170, 114, 140, 9, 43, 64, 53, 91, 162, 219, 244, 29, 130, 233, 94]
  data64 := "ta1gHW1CBQ9qK+fpmtH8Ol5qI+oXhFoVotGC4QdiF7T9aMEKRzfr"
  authTag64 := "gqpyjAkrQDVbotv0HYLpXg=="

/-- The profile `a` with the password `q` under a key of zeros. -/
def sampleQ : SampleSeal where
  name := "a"
  password := some "q"
  keyByte := 0
  data := [181, 173, 96, 29, 109, 66, 5, 15, 106, 43, 231, 233, 154, 209, 252, 58, 94, 106, 35, 234,
    23, 132, 90, 21, 162, 209, 130, 225, 7, 98, 23, 180, 253, 104, 192, 10, 71, 55, 235]
  authTag := [189, 113, 247, 95, 141, 214, 70, 171, 103, 208, 163, 161, 24, 32, 152, 195]
  data64 := "ta1gHW1CBQ9qK+fpmtH8Ol5qI+oXhFoVotGC4QdiF7T9aMAKRzfr"
  authTag64 := "vXH3X43WRqtn0KOhGCCYww=="

lemma passwordTables_laws : (SampleSeal.tables [sampleP, sampleQ]).Laws where
  texts := by decide +kernel
  base64 := by decide +kernel
  base64_head := by decide +kernel
  seals := by decide +kernel
  authTagBytes_le := by decide +kernel
  length_lt := by decide +kernel

def passwordPrimitives : VaultPrimitives := VaultTables.primitives passwordTables_laws

/-- A vault with a profile that is encrypted and one that is written in plain text. -/
def passwordVault (s : SampleSeal) : FileWorld where
  files path :=
    if path = "/h/.agent-browser/.encryption-key" then some (keyFileContents s.key)
    else if path = "/h/.agent-browser/auth/a.json" then some s.text
    else if path = "/h/.agent-browser/auth/b.json" then some s.plaintext
    else none
  directories := ["/h/.agent-browser", "/h/.agent-browser/auth"]
  environment _ := none
  answers _ := { listing := ["/h/.agent-browser/auth/b.json", "/h/.agent-browser/auth/a.json"] }

lemma passwordVault_keyInUse {key : Bytes}
    (h : KeyInUse "/h/.agent-browser/.encryption-key" (passwordVault sampleP) key) :
    key = sampleP.key := by
  have hfile : fileKey "/h/.agent-browser/.encryption-key" (passwordVault sampleP) =
      some sampleP.key := by decide +kernel
  rcases h with h | ⟨-, h | ⟨hnone | ⟨n, hn⟩, -⟩⟩
  · cases h
  · exact (some.inj (hfile.symm.trans h)).symm
  · rw [hfile] at hnone
    cases hnone
  · cases hn

lemma passwordVault_alike : Alike passwordPrimitives
    (KeyInUse "/h/.agent-browser/.encryption-key" (passwordVault sampleP))
    "/h/.agent-browser/.encryption-key" (passwordVault sampleP) (passwordVault sampleQ) := by
  have hsame : SameButPassword sampleP.profile sampleQ.profile :=
    .cons (EntryAlike.refl _) (.cons (.inr ⟨"p", "q", rfl, rfl⟩) .nil)
  refine ⟨fun path => ?_, by decide +kernel, rfl, rfl, rfl⟩
  unfold passwordVault
  dsimp only
  split
  · exact .inl (by decide +kernel)
  · split
    · refine .inr ⟨_, _, rfl, rfl, .inr ⟨⟨sampleP.payload, by decide +kernel, by decide +kernel⟩,
        ⟨sampleQ.payload, by decide +kernel, by decide +kernel⟩, fun key hkey => ?_⟩⟩
      rw [passwordVault_keyInUse hkey]
      have hp : decryptProfileData passwordPrimitives sampleP.text sampleP.key =
          some sampleP.profile := by decide +kernel
      have hq : decryptProfileData passwordPrimitives sampleQ.text sampleP.key =
          some sampleQ.profile := by decide +kernel
      rw [hp, hq]
      exact .some hsame
    · split
      · exact .inr ⟨_, _, rfl, rfl, .inl ⟨sampleP.profile, sampleQ.profile, by decide +kernel,
          by decide +kernel, by decide +kernel, hsame⟩⟩
      · exact .inl rfl

/-- Reading and listing two vaults with different passwords. -/
theorem passwords_are_private_sample :
    (exec FileOp.run (readProfileOnBlockingThread passwordPrimitives
        (getDefaultAuthDirectory "/h") (getDefaultEncryptionKeyPath "/h") "a")
        (passwordVault sampleP)).1 =
      (exec FileOp.run (readProfileOnBlockingThread passwordPrimitives
        (getDefaultAuthDirectory "/h") (getDefaultEncryptionKeyPath "/h") "a")
        (passwordVault sampleQ)).1 ∧
    (exec FileOp.run (listProfilesOnBlockingThread passwordPrimitives
        (getDefaultAuthDirectory "/h") (getDefaultEncryptionKeyPath "/h")) (passwordVault sampleP)).1 =
      (exec FileOp.run (listProfilesOnBlockingThread passwordPrimitives
        (getDefaultAuthDirectory "/h") (getDefaultEncryptionKeyPath "/h"))
        (passwordVault sampleQ)).1 := by
  have hpath : getDefaultEncryptionKeyPath "/h" = "/h/.agent-browser/.encryption-key" := by
    decide +kernel
  have halike : Alike passwordPrimitives
      (KeyInUse (getDefaultEncryptionKeyPath "/h") (passwordVault sampleP))
      (getDefaultEncryptionKeyPath "/h") (passwordVault sampleP) (passwordVault sampleQ) :=
    hpath.symm ▸ passwordVault_alike
  have hprivate := passwords_are_private halike
  exact ⟨(hprivate.1 "a").1, hprivate.2.1⟩

end CefCore.Browser.AuthVault
