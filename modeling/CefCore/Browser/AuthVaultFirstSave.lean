import CefCore.Browser.AuthVaultKey
import Mathlib.Data.List.Nodup

/-!
# The first profiles of an auth vault

Saves of different profiles in a vault without a key, one operation of one of them after the other.
Each of the saves looks for the key and creates it if it finds none. If two of them create different
keys, then only one key is in the key file at the end, and what was encrypted with the other one is
lost although all saves have reported success.

## Main results

* `reads_back_iff`: the profiles can be read again if and only if the saves create the same key.
-/

namespace CefCore.Browser.AuthVault

open Script List Option Function FileOp FileWorld Bool FileOp Transition

abbrev Saves := Threads FileOp Result ActionResult FileWorld

def drawnBy : (op : FileOp) → op.Result → Option Bytes
  | .randBytes n, bytes => if n = encryptionKeyBytes then some bytes else none
  | _, _ => none

def drawsKey (t : Saves) (i : Nat) : Option Bytes :=
  match t.scripts[i]? with
  | some (call op _) => drawnBy op (op.run t.system).1
  | _ => none

def drawnKeys (t : Saves) : List Bytes := t.trace.filterMap fun e => drawnBy e.2.1 e.2.2

/-- If the next operation of a save draws a key, it is the one that has been drawn before. -/
def CreatesSameKey (t : Saves) (i : Nat) : Prop :=
  ∀ key ∈ drawsKey t i, ∀ key' ∈ drawnKeys t, key' = key

instance (t : Saves) (i : Nat) : Decidable (CreatesSameKey t i) :=
  inferInstanceAs (Decidable (∀ key ∈ drawsKey t i, ∀ key' ∈ drawnKeys t, key' = key))

/-- Reading a profile returns the metadata of it, if the files can be read. -/
def ReadsBack (v : VaultPrimitives) (home : String) (w : FileWorld) (profile : JsonDict) : Prop :=
  let path := buildProfilePath (getDefaultAuthDirectory home) (profileName profile)
  (exec run (readProfileOnBlockingThread v (getDefaultAuthDirectory home)
    (getDefaultEncryptionKeyPath home) (profileName profile)) w.calm).1 =
      { success := true, profile := makeProfileMetadata path profile }

instance (v : VaultPrimitives) (home : String) (w : FileWorld) (profile : JsonDict) :
    Decidable (ReadsBack v home w profile) :=
  inferInstanceAs (Decidable (_ = _))

/-- Opening fails under another key, as far as the keys of a run and the texts of its profiles go. -/
def OpensWithOwnKey (v : VaultPrimitives) (profiles : List JsonDict) (t : Saves) : Prop :=
  ∀ key ∈ drawnKeys t, ∀ key' ∈ drawnKeys t, key' ≠ key → ∀ profile ∈ profiles,
    ∀ plaintext nonce, v.json.write profile = some plaintext → nonce.length = nonceBytes →
      v.aeadOpen key' nonce (v.aeadSeal key nonce plaintext) = none

def startSaves (v : VaultPrimitives) (home : String) (profiles : List JsonDict) (w : FileWorld) :
    Saves :=
  .start (profiles.map (saveProfileOnBlockingThread v (getDefaultAuthDirectory home)
    (getDefaultEncryptionKeyPath home))) w

/-! ### The stages of a save -/

inductive SaveStage where
  | start
  | lookInEnv
  | lookInFile
  | makeDirectory
  | drawKey
  | writeKey (key : Bytes)
  | encrypt (key plaintext : Bytes)
  | write (key plaintext nonce text : Bytes)
  | saved (key plaintext nonce text : Bytes)
  | failed (error : String)

namespace SaveStage

def key? : SaveStage → Option Bytes
  | writeKey key => some key
  | encrypt key _ => some key
  | write key _ _ _ => some key
  | saved key _ _ _ => some key
  | _ => none

section Scripts

variable (v : VaultPrimitives) (directory keyPath : String) (profile : JsonDict)

def script : SaveStage → FileScript ActionResult
  | start => saveProfileOnBlockingThread v directory keyPath profile
  | lookInEnv => ensureEncryptionKey keyPath >>= saveWithKey v directory (profileName profile) profile
  | lookInFile =>
    (do
      let fromFile ← readEncryptionKeyFile keyPath
      match fromFile with
      | some key => pure (some key)
      | none => createEncryptionKey keyPath) >>= saveWithKey v directory (profileName profile) profile
  | makeDirectory =>
    createEncryptionKey keyPath >>= saveWithKey v directory (profileName profile) profile
  | drawKey =>
    (do
      let key ← FileScript.randBytes encryptionKeyBytes
      let written ← writeEncryptionKeyFile keyPath key
      pure (if written then some key else none)) >>=
        saveWithKey v directory (profileName profile) profile
  | writeKey key =>
    (do
      let written ← writeEncryptionKeyFile keyPath key
      pure (if written then some key else none)) >>=
        saveWithKey v directory (profileName profile) profile
  | encrypt key plaintext =>
    encryptProfileData v plaintext key >>= writeProfile (buildProfilePath directory (profileName profile))
  | write _ _ _ text =>
    writeProfile (buildProfilePath directory (profileName profile)) (some text)
  | saved _ _ _ _ =>
    done { success := true, path := buildProfilePath directory (profileName profile) }
  | failed error => done { error := error }

def withKey : Option Bytes → SaveStage
  | none => failed "Failed to initialize encryption key."
  | some key =>
    match v.json.write profile with
    | none => failed "Failed to serialize auth profile."
    | some plaintext => encrypt key plaintext

def next (w : FileWorld) : SaveStage → SaveStage
  | start => if w.answer.ok then lookInEnv else failed "Failed to create auth vault directory."
  | lookInEnv =>
    match envKey w with
    | some key => withKey v profile (some key)
    | none => lookInFile
  | lookInFile =>
    match (if w.answer.ok then w.files keyPath else none).bind parseKeyHex with
    | some key => withKey v profile (some key)
    | none => if FilePath.dirName keyPath = "" then withKey v profile none else makeDirectory
  | makeDirectory => if w.answer.ok then drawKey else withKey v profile none
  | drawKey => writeKey ((randBytes encryptionKeyBytes).run w).1
  | writeKey key => withKey v profile (if w.answer.ok then some key else none)
  | encrypt key plaintext =>
    let nonce := ((randBytes nonceBytes).run w).1
    match encryptedText v plaintext key nonce with
    | none => failed "Failed to encrypt auth profile."
    | some text => write key plaintext nonce text
  | write key plaintext nonce text =>
    if w.answer.ok then saved key plaintext nonce text
    else failed "Failed to write auth profile."
  | saved key plaintext nonce text => saved key plaintext nonce text
  | failed error => failed error

end Scripts

def op (directory keyPath : String) (profile : JsonDict) : SaveStage → Option FileOp
  | start => some (.createDirectory directory)
  | lookInEnv => some (.getVar encryptionKeyVar)
  | lookInFile => some (.readFile keyPath)
  | makeDirectory => some (.createDirectory (FilePath.dirName keyPath))
  | drawKey => some (.randBytes encryptionKeyBytes)
  | writeKey key => some (.writeFile keyPath (keyFileContents key))
  | encrypt _ _ => some (.randBytes nonceBytes)
  | write _ _ _ text =>
    some (.writeFile (buildProfilePath directory (profileName profile)) text)
  | saved _ _ _ _ => none
  | failed _ => none

def Savable (profile : JsonDict) : Prop :=
  ∃ name, profile.findString "name" = some name ∧ isValidProfileName name = true

variable {v : VaultPrimitives} {directory keyPath : String} {profile : JsonDict}

lemma script_withKey (key : Option Bytes) : (withKey v profile key).script v directory keyPath profile =
    saveWithKey v directory (profileName profile) profile key := by
  cases key with
  | none => rfl
  | some key =>
    unfold withKey saveWithKey
    cases v.json.write profile with
    | none => rfl
    | some plaintext => rfl

lemma run_writeFile_fst (path : String) (contents : Bytes) (w : FileWorld) :
    ((writeFile path contents).run w).1 = w.answer.ok := by
  rcases run_writeFile_cases path contents w with ⟨hok, hrun⟩ | ⟨hok, -, hrun⟩ | ⟨_, hok, -, hrun⟩
  · rw [hrun, hok]
  · rw [hrun, hok]
  · rw [hrun, hok]

lemma run_createDirectory_fst (path : String) (w : FileWorld) :
    ((createDirectory path).run w).1 = w.answer.ok := by
  simp only [run]
  split
  · rename_i hok
    exact hok.symm
  · rename_i hok
    exact (not_eq_true _ ▸ hok : w.answer.ok = false).symm

variable {op : FileOp} {s : SaveStage}

lemma script_step (hprofile : Savable profile) (hdirectory : directory ≠ "")
    {cont : op.Result → FileScript ActionResult}
    (h : s.script v directory keyPath profile = call op cont) :
    s.op directory keyPath profile = some op ∧ ∀ w,
      cont (op.run w).1 = (s.next v keyPath profile w).script v directory keyPath profile := by
  cases s with
  | start =>
    obtain ⟨name, hname, hvalid⟩ := hprofile
    have hprofileName : profileName profile = name := by rw [profileName, hname, getD_some]
    simp only [script, saveProfileOnBlockingThread, hname, hvalid, Bool.not_true,
      Bool.false_eq_true, if_false, if_neg hdirectory] at h
    rw [FileScript.createDirectory, perform_bind] at h
    cases h
    refine ⟨rfl, fun w => ?_⟩
    rw [run_createDirectory_fst, next]
    cases w.answer.ok with
    | true => rw [if_pos rfl, script, hprofileName]; rfl
    | false => rfl
  | lookInEnv =>
    cases h
    refine ⟨rfl, fun w => ?_⟩
    show ((match envKey w with
      | some key => pure (some key)
      | none => _) >>= saveWithKey v directory _ profile) = _
    rw [next]
    cases envKey w with
    | some key => exact (script_withKey (some key)).symm
    | none => rfl
  | lookInFile =>
    cases h
    refine ⟨rfl, fun w => ?_⟩
    show ((match (if w.answer.ok then w.files keyPath else none).bind parseKeyHex with
      | some key => pure (some key)
      | none => createEncryptionKey keyPath) >>= saveWithKey v directory _ profile) = _
    rw [next]
    cases (if w.answer.ok then w.files keyPath else none).bind parseKeyHex with
    | some key => exact (script_withKey (some key)).symm
    | none =>
      dsimp only
      split
      · rename_i hparent
        rw [createEncryptionKey, if_pos hparent]
        rfl
      · rfl
  | makeDirectory =>
    rw [script, createEncryptionKey] at h
    by_cases hparent : FilePath.dirName keyPath = ""
    · rw [if_pos hparent] at h
      cases h
    · rw [if_neg hparent, FileScript.createDirectory, perform_bind] at h
      cases h
      refine ⟨rfl, fun w => ?_⟩
      rw [run_createDirectory_fst, next]
      cases w.answer.ok with
      | true => rfl
      | false => rfl
  | drawKey =>
    cases h
    exact ⟨rfl, fun w => rfl⟩
  | writeKey key =>
    cases h
    refine ⟨rfl, fun w => ?_⟩
    rw [next, script_withKey, run_writeFile_fst]
    rfl
  | encrypt key plaintext =>
    cases h
    refine ⟨rfl, fun w => ?_⟩
    show writeProfile _ (encryptedText v plaintext key _) = _
    rw [next]
    cases encryptedText v plaintext key ((randBytes nonceBytes).run w).1 with
    | none => rfl
    | some text => rfl
  | write key plaintext nonce text =>
    cases h
    refine ⟨rfl, fun w => ?_⟩
    rw [run_writeFile_fst, next]
    cases w.answer.ok with
    | true => rfl
    | false => rfl
  | saved key plaintext nonce text => cases h
  | failed error => cases h

section

variable (h : s.op directory keyPath profile = some op)
include h

lemma op_target_ne {path : String} (hkey : path ≠ keyPath)
    (hpath : path ≠ buildProfilePath directory (profileName profile)) :
    op.target ≠ some path := by
  cases s with
  | writeKey key =>
    cases h
    exact fun heq => hkey (some.inj heq).symm
  | write key plaintext nonce text =>
    cases h
    exact fun heq => hpath (some.inj heq).symm
  | start => cases h; exact nofun
  | lookInEnv => cases h; exact nofun
  | lookInFile => cases h; exact nofun
  | makeDirectory => cases h; exact nofun
  | drawKey => cases h; exact nofun
  | encrypt key plaintext => cases h; exact nofun
  | saved key plaintext nonce text => cases h
  | failed error => cases h

lemma drawnBy_eq_some_iff {w : FileWorld} {key : Bytes} :
    drawnBy op (op.run w).1 = some key ↔
      s = drawKey ∧ key = ((randBytes encryptionKeyBytes).run w).1 := by
  cases s with
  | drawKey =>
    cases h
    simp [drawnBy, eq_comm]
  | encrypt key' plaintext =>
    cases h
    simp [drawnBy, nonceBytes, encryptionKeyBytes]
  | start => cases h; simp [drawnBy]
  | lookInEnv => cases h; simp [drawnBy]
  | lookInFile => cases h; simp [drawnBy]
  | makeDirectory => cases h; simp [drawnBy]
  | writeKey key' => cases h; simp [drawnBy]
  | write key' plaintext nonce text => cases h; simp [drawnBy]
  | saved key' plaintext nonce text => cases h
  | failed error => cases h

lemma op_ne_deleteFile (path : String) : op ≠ .deleteFile path := by
  cases s <;> cases h <;> exact nofun

end

section Keys

variable {s : SaveStage} {w : FileWorld} {key : Bytes}

lemma withKey_cases (v : VaultPrimitives) (profile : JsonDict) (found : Option Bytes) :
    (∃ error, withKey v profile found = failed error) ∨ ∃ key plaintext, found = some key ∧
    v.json.write profile = some plaintext ∧
      withKey v profile found = encrypt key plaintext := by
  cases found with
  | none => exact .inl ⟨_, rfl⟩
  | some key =>
    unfold withKey
    cases hwrite : v.json.write profile with
    | none => exact .inl ⟨_, rfl⟩
    | some plaintext => exact .inr ⟨key, plaintext, rfl, rfl, rfl⟩

lemma key?_withKey {found : Option Bytes} (h : (withKey v profile found).key? = some key) :
    found = some key := by
  rcases withKey_cases v profile found with
    ⟨error, heq⟩ | ⟨key', plaintext, hfound, -, heq⟩
  · rw [heq] at h
    cases h
  · rw [heq] at h
    rw [hfound]
    exact h

lemma key?_next (henv : envKey w = none) (h : (s.next v keyPath profile w).key? = some key) :
    s.key? = some key ∨
      s = drawKey ∧ key = ((randBytes encryptionKeyBytes).run w).1 ∨
      s = lookInFile ∧ fileKey keyPath w = some key := by
  cases s with
  | start =>
    rw [next] at h
    split at h <;> cases h
  | lookInEnv =>
    rw [next, henv] at h
    cases h
  | lookInFile =>
    rw [next] at h
    split at h
    · rename_i key' hread
      obtain rfl := some.inj (key?_withKey h)
      refine .inr (.inr ⟨rfl, ?_⟩)
      split at hread
      · exact hread
      · cases hread
    · split at h <;> cases h
  | makeDirectory =>
    rw [next] at h
    split at h <;> cases h
  | drawKey => exact .inr (.inl ⟨rfl, (some.inj h).symm⟩)
  | writeKey key' =>
    rw [next] at h
    have hfound := key?_withKey h
    split at hfound
    · exact .inl hfound
    · cases hfound
  | encrypt key' plaintext =>
    rw [next] at h
    split at h
    · cases h
    · exact .inl h
  | write key' plaintext nonce text =>
    rw [next] at h
    split at h
    · exact .inl h
    · cases h
  | saved key' plaintext nonce text => exact .inl h
  | failed error => cases h

lemma key?_next_of_key? (h : s.key? = some key) :
    (∃ error, s.next v keyPath profile w = failed error) ∨
      (s.next v keyPath profile w).key? = some key := by
  cases s with
  | writeKey key' =>
    obtain rfl := some.inj h
    rw [next]
    by_cases hok : w.answer.ok = true
    · rw [if_pos hok]
      rcases withKey_cases v profile (some key') with
        hfailed | ⟨key, plaintext, hfound, -, heq⟩
      · exact .inl hfailed
      · rw [heq]
        exact .inr hfound.symm
    · rw [if_neg hok]
      exact .inl ⟨_, rfl⟩
  | encrypt key' plaintext =>
    rw [next]
    cases encryptedText v plaintext key' ((randBytes nonceBytes).run w).1 with
    | none => exact .inl ⟨_, rfl⟩
    | some text => exact .inr h
  | write key' plaintext nonce text =>
    rw [next]
    split
    · exact .inr h
    · exact .inl ⟨_, rfl⟩
  | saved key' plaintext nonce text => exact .inr h
  | start => cases h
  | lookInEnv => cases h
  | lookInFile => cases h
  | makeDirectory => cases h
  | drawKey => cases h
  | failed error => cases h

end Keys

/-! ### Saves that have not failed -/

def Sound (v : VaultPrimitives) (directory keyPath : String) (profile : JsonDict) (w : FileWorld) :
    SaveStage → Prop
  | encrypt _ plaintext => v.json.write profile = some plaintext ∧ w.files keyPath ≠ none
  | write key plaintext nonce text =>
    IsTextOf v profile key plaintext nonce text ∧ w.files keyPath ≠ none
  | saved key plaintext nonce text =>
    IsTextOf v profile key plaintext nonce text ∧ w.files keyPath ≠ none ∧
      w.files (buildProfilePath directory (profileName profile)) = some text
  | failed _ => False
  | _ => True

section Sound

variable {s : SaveStage} {w w' : FileWorld}

lemma Sound.congr (h : Sound v directory keyPath profile w s)
    (hkey : w.files keyPath ≠ none → w'.files keyPath ≠ none)
    (hpath : w'.files (buildProfilePath directory (profileName profile)) =
      w.files (buildProfilePath directory (profileName profile))) :
    Sound v directory keyPath profile w' s := by
  cases s with
  | encrypt key plaintext => exact ⟨h.1, hkey h.2⟩
  | write key plaintext nonce text => exact ⟨h.1, hkey h.2⟩
  | saved key plaintext nonce text => exact ⟨h.1, hkey h.2.1, hpath.trans h.2.2⟩
  | failed error => exact h
  | start => trivial
  | lookInEnv => trivial
  | lookInFile => trivial
  | makeDirectory => trivial
  | drawKey => trivial
  | writeKey key => trivial

lemma sound_withKey {found : Option Bytes} (h : found ≠ none → w.files keyPath ≠ none) :
    (∃ error, withKey v profile found = failed error) ∨
      Sound v directory keyPath profile w (withKey v profile found) := by
  rcases withKey_cases v profile found with
    hfailed | ⟨key, plaintext, hfound, hwrite, heq⟩
  · exact .inl hfailed
  · rw [heq]
    exact .inr ⟨hwrite, h (by simp [hfound])⟩

lemma Sound.next {op : FileOp} (h : Sound v directory keyPath profile w s)
    (hop : s.op directory keyPath profile = some op) (henv : envKey w = none)
    (hpath : keyPath ≠ buildProfilePath directory (profileName profile)) :
    (∃ error, s.next v keyPath profile w = failed error) ∨
      Sound v directory keyPath profile (op.run w).2 (s.next v keyPath profile w) := by
  cases s with
  | start =>
    rw [SaveStage.next]
    split
    · exact .inr trivial
    · exact .inl ⟨_, rfl⟩
  | lookInEnv =>
    rw [SaveStage.next, henv]
    exact .inr trivial
  | lookInFile =>
    cases hop
    rw [SaveStage.next]
    cases hread : (if w.answer.ok then w.files keyPath else none).bind parseKeyHex with
    | some key =>
      refine sound_withKey fun _ hnone => ?_
      rw [show w.files keyPath = none from hnone, ite_self] at hread
      cases hread
    | none =>
      dsimp only
      split
      · exact .inl ⟨_, rfl⟩
      · exact .inr trivial
  | makeDirectory =>
    rw [SaveStage.next]
    split
    · exact .inr trivial
    · exact .inl ⟨_, rfl⟩
  | drawKey => exact .inr trivial
  | writeKey key =>
    cases hop
    rw [SaveStage.next]
    rcases run_writeFile_cases keyPath (keyFileContents key) w with
      ⟨hok, hrun⟩ | ⟨hok, -⟩ | ⟨_, hok, -⟩
    · rw [if_pos hok, hrun]
      exact sound_withKey fun _ => by simp
    · rw [if_neg (by simp [hok])]
      exact .inl ⟨_, rfl⟩
    · rw [if_neg (by simp [hok])]
      exact .inl ⟨_, rfl⟩
  | encrypt key plaintext =>
    cases hop
    rw [SaveStage.next]
    cases htext : encryptedText v plaintext key ((randBytes nonceBytes).run w).1 with
    | none => exact .inl ⟨_, rfl⟩
    | some text =>
      exact .inr ⟨⟨h.1, length_randBytes nonceBytes w, htext⟩, h.2⟩
  | write key plaintext nonce text =>
    cases hop
    rw [SaveStage.next]
    rcases run_writeFile_cases (buildProfilePath directory (profileName profile)) text w with
      ⟨hok, hrun⟩ | ⟨hok, -⟩ | ⟨_, hok, -⟩
    · rw [if_pos hok, hrun]
      refine .inr ⟨h.1, ?_, setFile_files_self ..⟩
      rw [setFile_files_of_ne _ hpath]
      exact h.2
    · rw [if_neg (by simp [hok])]
      exact .inl ⟨_, rfl⟩
    · rw [if_neg (by simp [hok])]
      exact .inl ⟨_, rfl⟩
  | saved key plaintext nonce text => cases hop
  | failed error => cases hop

lemma run_files_keyPath {op : FileOp} (hop : s.op directory keyPath profile = some op)
    (hpath : keyPath ≠ buildProfilePath directory (profileName profile))
    (hfailed : ¬ ∃ error, s.next v keyPath profile w = failed error) :
    (op.run w).2.files keyPath = w.files keyPath ∨
      ∃ key, s.key? = some key ∧ (op.run w).2.files keyPath = some (keyFileContents key) := by
  by_cases htarget : op.target = some keyPath
  · cases s with
    | writeKey key =>
      cases hop
      rcases run_writeFile_cases keyPath (keyFileContents key) w with
        ⟨-, hrun⟩ | ⟨-, -, hrun⟩ | ⟨_, hok, -⟩
      · exact .inr ⟨key, rfl, by rw [hrun, setFile_files_self]⟩
      · exact .inl (by rw [hrun, next_files])
      · refine absurd ?_ hfailed
        rw [SaveStage.next, if_neg (by simp [hok])]
        exact ⟨_, rfl⟩
    | write key plaintext nonce text =>
      cases hop
      exact absurd (some.inj htarget).symm hpath
    | start => cases hop; cases htarget
    | lookInEnv => cases hop; cases htarget
    | lookInFile => cases hop; cases htarget
    | makeDirectory => cases hop; cases htarget
    | drawKey => cases hop; cases htarget
    | encrypt key plaintext => cases hop; cases htarget
    | saved key plaintext nonce text => cases hop
    | failed error => cases hop
  · exact .inl (run_files_of_target_ne htarget w)

end Sound

end SaveStage

/-! ### Saves in turns -/

def HasFailed (t : Saves) : Prop := ∃ (i : Nat) (r : ActionResult),
  t.scripts[i]? = some (done r) ∧ r.success = false

/-- **Saves that have not failed**, with the stage of each of them. Their keys are those that have
been drawn, and one of these is in the key file, if there is one. -/
structure Saving (v : VaultPrimitives) (home : String) (profiles : List JsonDict) (t : Saves)
    (stages : Nat → SaveStage) : Prop where
  length : t.scripts.length = profiles.length
  script : ∀ i profile, profiles[i]? = some profile → t.scripts[i]? = some
    ((stages i).script v (getDefaultAuthDirectory home) (getDefaultEncryptionKeyPath home) profile)
  sound : ∀ i profile, profiles[i]? = some profile → (stages i).Sound v
    (getDefaultAuthDirectory home) (getDefaultEncryptionKeyPath home) profile t.system
  env : envKey t.system = none
  held : ∀ i < profiles.length, ∀ key, (stages i).key? = some key → key ∈ drawnKeys t
  drawn : ∀ key ∈ drawnKeys t, key.length = encryptionKeyBytes ∧
    ∃ i < profiles.length, (stages i).key? = some key
  file : t.system.files (getDefaultEncryptionKeyPath home) = none ∨ ∃ key ∈ drawnKeys t,
    t.system.files (getDefaultEncryptionKeyPath home) = some (keyFileContents key)

section Saving

variable {v : VaultPrimitives} {home : String} {profiles : List JsonDict} {t t' : Saves}
  {stages : Nat → SaveStage} {i : Nat}

variable {key : Bytes} {profile : JsonDict} {w : FileWorld}

lemma mem_drawnKeys_cons {op : FileOp} {r : op.Result} {scripts : List (FileScript ActionResult)}
    : key ∈ drawnKeys ⟨scripts, w, (i, ⟨op, r⟩) :: t.trace⟩ ↔
      drawnBy op r = some key ∨ key ∈ drawnKeys t := by
  unfold drawnKeys
  rw [filterMap_cons]
  cases drawnBy op r with
  | none => simp
  | some key' => simp [eq_comm]

lemma Saving.mem_of_fileKey (h : Saving v home profiles t stages)
    (hkey : fileKey (getDefaultEncryptionKeyPath home) t.system = some key) : key ∈ drawnKeys t := by
  rcases h.file with hnone | ⟨key', hmem, hfile⟩
  · rw [fileKey, hnone] at hkey
    cases hkey
  · rw [fileKey, hfile] at hkey
    have hparse := parseKeyHex_hexEncode (h.drawn key' hmem).1
    exact some.inj (hparse.symm.trans hkey) ▸ hmem

/-- Profiles that can be saved, with different names. -/
structure Distinct (profiles : List JsonDict) : Prop where
  savable : ∀ profile ∈ profiles, SaveStage.Savable profile
  nodup : (profiles.map profileName).Nodup

lemma SaveStage.Savable.isValidProfileName (h : SaveStage.Savable profile) :
    isValidProfileName (profileName profile) = true := by
  obtain ⟨name, hname, hvalid⟩ := h
  rwa [profileName, hname, getD_some]

lemma Distinct.path_ne (h : Distinct profiles) {i j : Nat} {profile' : JsonDict}
    (hi : profiles[i]? = some profile) (hj : profiles[j]? = some profile') (hne : j ≠ i) :
    buildProfilePath (getDefaultAuthDirectory home) (profileName profile') ≠
      buildProfilePath (getDefaultAuthDirectory home) (profileName profile) := by
  intro heq
  have hnames := buildProfilePath_injective heq
  have hi' : (profiles.map profileName)[i]? = some (profileName profile) := by simp [hi]
  have hj' : (profiles.map profileName)[j]? = some (profileName profile) := by simp [hj, hnames]
  obtain ⟨hlt, hgeti⟩ := List.getElem?_eq_some_iff.mp hi'
  obtain ⟨hlt', hgetj⟩ := List.getElem?_eq_some_iff.mp hj'
  exact hne ((List.Nodup.getElem_inj_iff h.nodup).mp (hgetj.trans hgeti.symm))

theorem Saving.step (hprofiles : Distinct profiles)
    (hdirectory : profiles ≠ [] → getDefaultAuthDirectory home ≠ "")
    (h : Saving v home profiles t stages) (hstep : Threads.step run t i = some t') :
    HasFailed t' ∨ ∃ stages', Saving v home profiles t' stages' := by
  obtain ⟨op, cont, hscript, rfl⟩ := (Threads.step_eq_some_iff _).mp hstep
  have hlt : i < profiles.length := h.length ▸ (List.getElem?_eq_some_iff.mp hscript).1
  obtain ⟨profile, hprofile⟩ : ∃ profile, profiles[i]? = some profile :=
    ⟨_, getElem?_eq_getElem hlt⟩
  have hsavable := hprofiles.savable profile (mem_of_getElem? hprofile)
  have hscript' : (stages i).script v _ (getDefaultEncryptionKeyPath home) profile = call op cont :=
    some.inj ((h.script i profile hprofile).symm.trans hscript)
  obtain ⟨hop, hcont⟩ := SaveStage.script_step hsavable
    (hdirectory (ne_nil_of_mem (mem_of_getElem? hprofile))) hscript'
  have hkeyPath := (buildProfilePath_ne_keyPath (getDefaultAuthDirectory home)
    (profileName profile) home).symm
  by_cases hfailed : ∃ error, (stages i).next v (getDefaultEncryptionKeyPath home) profile t.system =
      .failed error
  · obtain ⟨error, herror⟩ := hfailed
    refine .inl ⟨i, { error := error }, ?_, rfl⟩
    rw [hcont t.system, herror]
    exact getElem?_set_self (h.length ▸ hlt)
  · refine .inr ⟨Function.update stages i ((stages i).next v
      (getDefaultEncryptionKeyPath home) profile t.system), ?_⟩
    have hsound := ((h.sound i profile hprofile).next hop h.env hkeyPath).resolve_left hfailed
    refine {
      length := ?length
      script := fun j profile' hj => ?script
      sound := fun j profile' hj => ?sound
      env := ?env
      held := fun j hj key hkey => ?held
      drawn := fun key hkey => ?drawn
      file := ?file }
    case length => exact (length_set ..).trans h.length
    case script =>
      by_cases hji : j = i
      · subst hji
        obtain rfl := some.inj (hprofile.symm.trans hj)
        rw [update_self, hcont t.system]
        exact getElem?_set_self (h.length ▸ hlt)
      · rw [update_of_ne hji]
        exact (getElem?_set_ne (Ne.symm hji)).trans (h.script j profile' hj)
    case sound =>
      by_cases hji : j = i
      · subst hji
        obtain rfl := some.inj (hprofile.symm.trans hj)
        rw [update_self]
        exact hsound
      · rw [update_of_ne hji]
        have hne := buildProfilePath_ne_keyPath (getDefaultAuthDirectory home)
          (profileName profile') home
        exact (h.sound j profile' hj).congr
          (run_files_ne_none (SaveStage.op_ne_deleteFile hop))
          (run_files_of_target_ne
            (SaveStage.op_target_ne hop hne (hprofiles.path_ne hprofile hj hji)) _)
    case env => rw [← h.env, envKey, envKey, run_environment]
    case held =>
      rw [mem_drawnKeys_cons]
      by_cases hji : j = i
      · subst hji
        rw [update_self] at hkey
        rcases SaveStage.key?_next h.env hkey with hold | hdrawn | ⟨-, hfile⟩
        · exact .inr (h.held j hlt key hold)
        · exact .inl ((SaveStage.drawnBy_eq_some_iff hop).mpr hdrawn)
        · exact .inr (h.mem_of_fileKey hfile)
      · rw [update_of_ne hji] at hkey
        exact .inr (h.held j hj key hkey)
    case drawn =>
      rcases mem_drawnKeys_cons.mp hkey with hnew | hold
      · obtain ⟨hstage, rfl⟩ := (SaveStage.drawnBy_eq_some_iff hop).mp hnew
        refine ⟨length_randBytes _ _, i, hlt, ?_⟩
        rw [update_self, hstage]
        rfl
      · obtain ⟨hlength, j, hj, hheld⟩ := h.drawn key hold
        refine ⟨hlength, j, hj, ?_⟩
        by_cases hji : j = i
        · subst hji
          rw [update_self]
          exact (SaveStage.key?_next_of_key? hheld).resolve_left hfailed
        · rwa [update_of_ne hji]
    case file =>
      rcases SaveStage.run_files_keyPath (w := t.system) hop hkeyPath hfailed with hsame | ⟨key, hkey, hfile⟩
      · rcases h.file with hnone | ⟨key, hmem, hfile⟩
        · exact .inl (hsame.trans hnone)
        · exact .inr ⟨key, mem_drawnKeys_cons.mpr (.inr hmem), hsame.trans hfile⟩
      · exact .inr ⟨key, mem_drawnKeys_cons.mpr (.inr (h.held i hlt key hkey)), hfile⟩

lemma HasFailed.step (h : HasFailed t) (hstep : Threads.step run t i = some t') : HasFailed t' := by
  obtain ⟨op, cont, hscript, rfl⟩ := (Threads.step_eq_some_iff _).mp hstep
  obtain ⟨j, r, hj, hr⟩ := h
  refine ⟨j, r, ?_, hr⟩
  have hij : i ≠ j := by
    rintro rfl
    rw [hj] at hscript
    cases hscript
  exact (getElem?_set_ne hij).trans hj

/-- **Every run** of saves has a failure or is at some stages. -/
theorem saving_of_run (hprofiles : Distinct profiles) (henv : envKey w = none)
    (hfile : w.files (getDefaultEncryptionKeyPath home) = none) {schedule : List Nat}
    (hrun : schedule.foldlM (Threads.step run) (startSaves v home profiles w) = some t) :
    HasFailed t ∨ ∃ stages, Saving v home profiles t stages := by
  have hscript : ∀ (i : Nat) (profile : JsonDict), profiles[i]? = some profile →
      (startSaves v home profiles w).scripts[i]? = some (saveProfileOnBlockingThread v
        (getDefaultAuthDirectory home) (getDefaultEncryptionKeyPath home) profile) := by
    intro i profile hi
    show (profiles.map _)[i]? = _
    rw [getElem?_map, hi]
    rfl
  have hkeep : ∀ t i t', HasFailed t → Threads.step run t i = some t' → HasFailed t' :=
    fun t i t' h hstep => h.step hstep
  by_cases hdirectory : profiles ≠ [] → getDefaultAuthDirectory home ≠ ""
  · have hstart : Saving v home profiles (startSaves v home profiles w) fun _ => .start :=
      { length := length_map _
        script := hscript
        sound := fun _ _ _ => trivial
        env := henv
        held := fun _ _ _ hkey => nomatch hkey
        drawn := fun _ hkey => nomatch hkey
        file := .inl hfile }
    refine run_invariant
      (I := fun t => HasFailed t ∨ ∃ stages, Saving v home profiles t stages)
      (fun t i t' h hstep => ?_) (.inr ⟨_, hstart⟩) hrun
    rcases h with hfailed | ⟨stages, h⟩
    · exact .inl (hfailed.step hstep)
    · exact h.step hprofiles hdirectory hstep
  · -- Without a directory, the first save has failed.
    obtain ⟨hne, hempty⟩ := Classical.not_imp.mp hdirectory
    obtain ⟨profile, rest, rfl⟩ := exists_cons_of_ne_nil hne
    refine .inl (run_invariant hkeep
      ⟨0, { error := "Auth vault directory is unavailable." }, ?_, rfl⟩ hrun)
    obtain ⟨name, hname, hvalid⟩ := hprofiles.savable profile mem_cons_self
    rw [hscript 0 profile rfl, saveProfileOnBlockingThread, hname]
    dsimp only
    rw [if_neg (by simp [hvalid]), if_pos (by simpa using hempty)]
    rfl

/-! ### Reading the profiles -/

lemma exec_ensureEncryptionKey_of_fileKey {keyPath : String}
    (henv : envKey w = none) (hok : w.next.answer.ok = true) (hkey : fileKey keyPath w = some key) :
    (exec run (ensureEncryptionKey keyPath) w).1 = some key := by
  unfold ensureEncryptionKey
  have hrun : exec run getEncryptionKeyFromEnv w = (envKey w, w.next) := rfl
  have hfile : exec run (readEncryptionKeyFile keyPath) w.next =
      ((if w.next.answer.ok then w.files keyPath else none).bind parseKeyHex, w.next.next) := rfl
  rw [exec_bind, hrun, henv]
  rw [exec_bind, hfile, if_pos hok]
  rw [fileKey] at hkey
  rw [hkey]
  rfl

theorem readsBack_iff {fileKey plaintext nonce text : Bytes}
    (hsavable : SaveStage.Savable profile) (henv : envKey w = none)
    (hfile : w.files (getDefaultEncryptionKeyPath home) = some (keyFileContents fileKey))
    (hfileKey : fileKey.length = encryptionKeyBytes) (hkey : key.length = encryptionKeyBytes)
    (htext : IsTextOf v profile key plaintext nonce text)
    (hpath : w.files (buildProfilePath (getDefaultAuthDirectory home) (profileName profile)) =
      some text)
    (hother : fileKey ≠ key → v.aeadOpen fileKey nonce (v.aeadSeal key nonce plaintext) = none) :
    ReadsBack v home w profile ↔ fileKey = key := by
  obtain ⟨hplaintext, hnonce, htext⟩ := htext
  have hfound : AuthVault.fileKey (getDefaultEncryptionKeyPath home) w.calm.next = some fileKey := by
    show (w.files _).bind parseKeyHex = _
    rw [hfile]
    exact parseKeyHex_hexEncode hfileKey
  have hread : (exec run (readProfileDict v
      (buildProfilePath (getDefaultAuthDirectory home) (profileName profile))
      (getDefaultEncryptionKeyPath home)) w.calm).1 = decryptProfileData v text fileKey := by
    obtain ⟨authTag, data, -, hpayload⟩ := encryptedText_spec htext
    rw [readProfileDict, FileScript.readFileToString, perform_bind, exec_call]
    show (exec run (match w.files _ with
      | none => pure none
      | some input => profileFromInput v _ input) w.calm.next).1 = _
    rw [hpath]
    dsimp only
    rw [profileFromInput, hpayload]
    dsimp only
    rw [if_pos (looksLikeEncryptedPayload_encryptedPayload ..), exec_bind,
      exec_ensureEncryptionKey_of_fileKey (w := w.calm.next) henv rfl hfound]
    rfl
  unfold ReadsBack
  rw [readProfileOnBlockingThread, if_neg (by simp [hsavable.isValidProfileName]), exec_bind_pure]
  rw [hread]
  by_cases heq : fileKey = key
  · rw [heq, decryptProfileData_encryptedText hplaintext hkey hnonce htext]
    exact iff_of_true rfl rfl
  · rw [decryptProfileData_eq hnonce htext, hother heq]
    exact iff_of_false (by rintro ⟨⟩) heq

/-! ### One key -/

def OneKey (t : Saves) : Prop := ∀ key ∈ drawnKeys t, ∀ key' ∈ drawnKeys t, key' = key

lemma oneKey_step (h : OneKey t) (hstep : Threads.step run t i = some t') :
    OneKey t' ↔ CreatesSameKey t i := by
  obtain ⟨op, cont, hscript, rfl⟩ := (Threads.step_eq_some_iff _).mp hstep
  have hdraws : drawsKey t i = drawnBy op (op.run t.system).1 := by
    unfold drawsKey
    rw [hscript]
  unfold CreatesSameKey OneKey
  rw [hdraws]
  constructor
  · intro hone key hkey key' hkey'
    exact hone key (mem_drawnKeys_cons.mpr (.inl hkey)) key' (mem_drawnKeys_cons.mpr (.inr hkey'))
  · intro hsame key hkey key' hkey'
    rcases mem_drawnKeys_cons.mp hkey with hnew | hold
    · rcases mem_drawnKeys_cons.mp hkey' with hnew' | hold'
      · exact some.inj (hnew'.symm.trans hnew)
      · exact hsame key hnew key' hold'
    · rcases mem_drawnKeys_cons.mp hkey' with hnew' | hold'
      · exact (hsame key' hnew' key hold).symm
      · exact h key hold key' hold'

lemma OneKey.of_step (h : OneKey t') (hstep : Threads.step run t i = some t') : OneKey t := by
  obtain ⟨op, cont, hscript, rfl⟩ := (Threads.step_eq_some_iff _).mp hstep
  exact fun key hkey key' hkey' =>
    h key (mem_drawnKeys_cons.mpr (.inr hkey)) key' (mem_drawnKeys_cons.mpr (.inr hkey'))

lemma along_createsSameKey_iff {schedule : List Nat} {t₀ : Saves} (hstart : OneKey t₀)
    (hrun : schedule.foldlM (Threads.step run) t₀ = some t) :
    Along (Threads.step run) CreatesSameKey t₀ schedule ↔ OneKey t := by
  constructor
  · intro halong
    exact Along.invariant (fun t i t' h hP hstep => (oneKey_step h hstep).mpr hP)
      schedule t₀ t hstart halong hrun
  · intro hone
    by_contra hnot
    refine Along.damage (I := fun _ => True) (B := fun t => ¬ OneKey t)
      (fun _ _ _ _ _ => trivial) (fun t i t' _ hP hstep hone => ?_)
      (fun t i t' _ h hstep hone => h (hone.of_step hstep)) schedule t₀ t trivial hnot hrun hone
    exact hP ((oneKey_step (hone.of_step hstep) hstep).mp hone)

lemma SaveStage.saved_of_script {directory keyPath : String} {s : SaveStage}
    {r : ActionResult} (h : s.script v directory keyPath profile = done r) (hr : r.success = true) :
    ∃ key plaintext nonce text, s = saved key plaintext nonce text := by
  cases s with
  | saved key plaintext nonce text => exact ⟨_, _, _, _, rfl⟩
  | failed error =>
    cases h
    cases hr
  | start =>
    rw [script, saveProfileOnBlockingThread] at h
    split at h
    · cases h
      cases hr
    · split at h
      · cases h
        cases hr
      · split at h
        · cases h
          cases hr
        · cases h
  | makeDirectory =>
    rw [script, createEncryptionKey] at h
    by_cases hparent : FilePath.dirName keyPath = ""
    · rw [if_pos hparent] at h
      cases h
      cases hr
    · rw [if_neg hparent, FileScript.createDirectory, perform_bind] at h
      cases h
  | lookInEnv => cases h
  | lookInFile => cases h
  | drawKey => cases h
  | writeKey key => cases h
  | encrypt key plaintext => cases h
  | write key plaintext nonce text => cases h

/-- **The first profiles** of a vault, all of them saved with success, can all be read back if and
only if no save has created another key than those before it. -/
theorem reads_back_iff (hprofiles : Distinct profiles) {w : FileWorld} (henv : envKey w = none)
    (hfile : w.files (getDefaultEncryptionKeyPath home) = none) {schedule : List Nat}
    (hrun : schedule.foldlM (Threads.step run) (startSaves v home profiles w) = some t)
    (hdone : ∀ script ∈ t.scripts, ∃ r, script = done r ∧ r.success = true)
    (hother : OpensWithOwnKey v profiles t) :
    (∀ profile ∈ profiles, ReadsBack v home t.system profile) ↔
      Along (Threads.step run) CreatesSameKey (startSaves v home profiles w)
        schedule := by
  rw [along_createsSameKey_iff (fun _ hkey => absurd hkey not_mem_nil) hrun]
  obtain ⟨stages, h⟩ := (saving_of_run hprofiles henv hfile hrun).resolve_left <| by
    rintro ⟨i, r, hscript, hr⟩
    obtain ⟨r', heq, hr'⟩ := hdone _ (mem_of_getElem? hscript)
    cases heq
    rw [hr] at hr'
    cases hr'
  -- Each profile is in its file, and is read back if its key is the one in the key file.
  have hsaved : ∀ i profile, profiles[i]? = some profile →
      ∃ key, (stages i).key? = some key ∧ ∃ fileKey ∈ drawnKeys t,
        t.system.files (getDefaultEncryptionKeyPath home) = some (keyFileContents fileKey) ∧
        (ReadsBack v home t.system profile ↔ fileKey = key) := by
    intro i profile hi
    obtain ⟨r, hscript, hr⟩ := hdone _ (mem_of_getElem? (h.script i profile hi))
    obtain ⟨key, plaintext, nonce, text, hstage⟩ := SaveStage.saved_of_script hscript hr
    have hsound := h.sound i profile hi
    rw [hstage] at hsound
    obtain ⟨htext, hne, hpath⟩ := hsound
    obtain ⟨fileKey, hmem, hcontents⟩ := h.file.resolve_left hne
    have hkey : (stages i).key? = some key := by rw [hstage]; rfl
    have hlt := (List.getElem?_eq_some_iff.mp hi).1
    refine ⟨key, hkey, fileKey, hmem, hcontents, ?_⟩
    have hprofile := mem_of_getElem? hi
    have hdrawn := h.held i hlt key hkey
    exact readsBack_iff (hprofiles.savable profile hprofile) h.env hcontents
      (h.drawn fileKey hmem).1 (h.drawn key hdrawn).1 htext hpath fun hne =>
        hother key hdrawn fileKey hmem hne profile hprofile plaintext nonce htext.1 htext.2.1
  constructor
  · intro hreads
    -- Every key that has been drawn is the one in the key file.
    have hinFile : ∀ key ∈ drawnKeys t,
        t.system.files (getDefaultEncryptionKeyPath home) = some (keyFileContents key) := by
      intro key hmem
      obtain ⟨-, i, hi, hheld⟩ := h.drawn key hmem
      obtain ⟨profile, hprofile⟩ : ∃ profile, profiles[i]? = some profile :=
        ⟨_, getElem?_eq_getElem hi⟩
      obtain ⟨key', hkey', fileKey, -, hcontents, hiff⟩ := hsaved i profile hprofile
      obtain rfl : key = key' := some.inj (hheld.symm.trans hkey')
      rw [← hiff.mp (hreads profile (mem_of_getElem? hprofile))]
      exact hcontents
    intro key hmem key' hmem'
    have hcontents : keyFileContents key' = keyFileContents key :=
      some.inj ((hinFile key' hmem').symm.trans (hinFile key hmem))
    have hparse := parseKeyHex_hexEncode (h.drawn key' hmem').1
    rw [hcontents, parseKeyHex_hexEncode (h.drawn key hmem).1] at hparse
    exact (some.inj hparse).symm
  · intro hone profile hmem
    obtain ⟨i, hi⟩ := mem_iff_getElem?.mp hmem
    obtain ⟨key, hkey, fileKey, hfileKey, -, hiff⟩ := hsaved i profile hi
    have hlt := (List.getElem?_eq_some_iff.mp hi).1
    exact hiff.mpr (hone key (h.held i hlt key hkey) fileKey hfileKey)

end Saving

def isSuccess : FileScript ActionResult → Bool
  | done r => r.success
  | call _ _ => false

lemma exists_of_isSuccess {script : FileScript ActionResult} (h : isSuccess script = true) :
    ∃ r, script = done r ∧ r.success = true := by
  cases script with
  | done r => exact ⟨r, rfl, h⟩
  | call op next => cases h

def emptyVault (answers : Nat → FileAnswer) : FileWorld where
  files _ := none
  directories := ["/h"]
  environment _ := none
  answers := answers

/-- The saves of the profiles `a` and `b`, as far as a schedule goes. -/
def sampleSaves (answers : Nat → FileAnswer) (schedule : List Nat) : Option Saves :=
  schedule.foldlM (Threads.step run)
    (startSaves samplePrimitives "/h" [sampleA0.profile, sampleB0.profile] (emptyVault answers))

lemma isSome_of_any {p : Saves → Bool} {o : Option Saves} (h : o.any p = true) : o.isSome = true := by
  cases o with
  | none => cases h
  | some t => rfl

lemma get_of_any {p : Saves → Bool} {o : Option Saves} (h : o.any p = true)
    (hsome : o.isSome = true) : p (o.get hsome) = true := by
  cases o with
  | none => cases h
  | some t => exact h

lemma opensWithOwnKey_samples {t : Saves}
    (h : (drawnKeys t).all fun key => key.length = encryptionKeyBytes) :
    OpensWithOwnKey samplePrimitives [sampleA0.profile, sampleB0.profile] t := by
  intro key hkey key' hkey' hne _ _ plaintext nonce _ _
  have hlength : ∀ key ∈ drawnKeys t, key.length = encryptionKeyBytes := by simpa using h
  exact VaultTables.aeadOpen_aeadSeal_of_ne sampleTables_laws (hlength key hkey)
    (hlength key' hkey') hne nonce plaintext

lemma distinct_samples : Distinct [sampleA0.profile, sampleB0.profile] where
  savable := by
    intro profile hprofile
    rcases mem_pair.mp hprofile with rfl | rfl
    · exact ⟨"a", by decide +kernel, by decide +kernel⟩
    · exact ⟨"b", by decide +kernel, by decide +kernel⟩
  nodup := by decide +kernel

lemma sequentialSaves_spec :
    ((sampleSaves (fun _ => {}) (List.replicate 8 0 ++ List.replicate 5 1)).any
        fun t => t.scripts.all isSuccess &&
          (drawnKeys t).all fun key => key.length = encryptionKeyBytes) = true ∧
      Along (Threads.step run) CreatesSameKey
        (startSaves samplePrimitives "/h" [sampleA0.profile, sampleB0.profile]
          (emptyVault fun _ => {})) (List.replicate 8 0 ++ List.replicate 5 1) := by
  decide +kernel

lemma sequentialSaves_isSome :
    (sampleSaves (fun _ => {}) (List.replicate 8 0 ++ List.replicate 5 1)).isSome = true :=
  isSome_of_any sequentialSaves_spec.1

def sequentialSaves : Saves := Option.get _ sequentialSaves_isSome

/-- Two saves, one after the other, whose profiles are read back. -/
theorem reads_back_iff_sequential :
    ReadsBack samplePrimitives "/h" sequentialSaves.system sampleA0.profile ∧
      ReadsBack samplePrimitives "/h" sequentialSaves.system sampleB0.profile := by
  have hend := get_of_any sequentialSaves_spec.1 sequentialSaves_isSome
  obtain ⟨hdone, hlength⟩ := and_eq_true_iff.mp hend
  have hreads := (reads_back_iff distinct_samples rfl rfl
    (some_get sequentialSaves_isSome).symm
    (fun script hscript => exists_of_isSuccess (all_eq_true.mp hdone script hscript))
    (opensWithOwnKey_samples hlength)).mpr sequentialSaves_spec.2
  exact ⟨hreads sampleA0.profile (by simp), hreads sampleB0.profile (by simp)⟩

def racingAnswers (n : Nat) : FileAnswer := if n = 12 then { random := fun _ => 1 } else {}

def racingSchedule : List Nat := [0, 0, 0, 1, 1, 1] ++ List.replicate 5 0 ++ List.replicate 5 1

lemma racingSaves_spec : ((sampleSaves racingAnswers racingSchedule).any fun t =>
    t.scripts.all isSuccess && (drawnKeys t).all (fun key => key.length = encryptionKeyBytes) &&
      !decide (ReadsBack samplePrimitives "/h" t.system sampleA0.profile)) = true := by
  decide +kernel

lemma racingSaves_isSome : (sampleSaves racingAnswers racingSchedule).isSome = true :=
  isSome_of_any racingSaves_spec

def racingSaves : Saves := Option.get _ racingSaves_isSome

/-- **Two saves that both look for the key first** create one each, report success, and only one of
the profiles can be read. -/
theorem reads_back_fails :
    ¬ ∀ (v : VaultPrimitives) (home : String) (profiles : List JsonDict), Distinct profiles →
      ∀ w : FileWorld, envKey w = none → w.files (getDefaultEncryptionKeyPath home) = none →
      ∀ (schedule : List Nat) (t : Saves),
        schedule.foldlM (Threads.step run) (startSaves v home profiles w) = some t →
        (∀ script ∈ t.scripts, ∃ r, script = done r ∧ r.success = true) →
        OpensWithOwnKey v profiles t → ∀ profile ∈ profiles, ReadsBack v home t.system profile := by
  intro h
  have hend := get_of_any racingSaves_spec racingSaves_isSome
  obtain ⟨hend, hlost⟩ := and_eq_true_iff.mp hend
  obtain ⟨hdone, hlength⟩ := and_eq_true_iff.mp hend
  have hreads := h samplePrimitives "/h" _ distinct_samples (emptyVault racingAnswers) rfl rfl
    racingSchedule racingSaves (some_get racingSaves_isSome).symm
    (fun script hscript => exists_of_isSuccess (all_eq_true.mp hdone script hscript))
    (opensWithOwnKey_samples hlength) sampleA0.profile mem_cons_self
  exact of_decide_eq_false (not_eq_true' _ |>.mp hlost) hreads

end CefCore.Browser.AuthVault
