import CefCore.Browser.AuthVault
import CefCore.Foundations.Run

/-!
# The key of the auth vault

Calls of a vault, one after another. The key is created where none can be read, and readers create
one as well as `SaveProfile` does. A key file that is there but cannot be read at the moment, or is
not well formed, is overwritten, and with it the profiles under its key are lost.

## Main results

* `vault_keeps_key`: a key that can be read stays.
-/

namespace CefCore.Browser.AuthVault

open Script Option Function FileOp FileScript

def envKey (w : FileWorld) : Option Bytes := (w.environment encryptionKeyVar).bind parseKeyHex

def fileKey (keyPath : String) (w : FileWorld) : Option Bytes := (w.files keyPath).bind parseKeyHex

def keyInForce (keyPath : String) (w : FileWorld) : Option Bytes :=
  (envKey w).or (fileKey keyPath w)

/-- Where the key file is read, a well-formed key is found in it, or there is no key file and the
call may create one, or the new key cannot be written: its directory is not created, or the write
fails and leaves the file alone. -/
def KeyKept (creates : Bool) (keyPath : String) : FileOp → FileWorld → Prop
  | .readFile path, w => path = keyPath →
    w.answer.ok = true ∧ (fileKey keyPath w).isSome = true ∨
      creates = true ∧ w.files keyPath = none ∨
      (w.answers 1).ok = false ∨
      (w.answers 3).ok = false ∧ (w.answers 3).leftover = none
  | _, _ => True

instance (creates : Bool) (keyPath : String) (op : FileOp) (w : FileWorld) :
    Decidable (KeyKept creates keyPath op w) := by
  cases op <;> unfold KeyKept <;> infer_instance

/-! ### The key that is ensured -/

variable {keyPath : String} {w : FileWorld}

lemma exec_createEncryptionKey_of_lost (keyPath : String)
    (h : w.answer.ok = false ∨ (w.answers 2).ok = false ∧ (w.answers 2).leftover = none) :
    (exec run (createEncryptionKey keyPath) w).1 = none ∧
      (exec run (createEncryptionKey keyPath) w).2.files = w.files := by
  unfold createEncryptionKey
  dsimp only
  split
  · exact ⟨rfl, rfl⟩
  · rw [FileScript.createDirectory, perform_bind, exec_call]
    by_cases hok : w.answer.ok = true
    · obtain ⟨hlost, hleft⟩ := h.resolve_left (by simp [hok])
      simp only [run, hok, if_true, Bool.not_true, Bool.false_eq_true, if_false]
      rw [FileScript.randBytes, perform_bind, exec_call, writeEncryptionKeyFile,
        FileScript.writeFile, perform_bind, exec_call]
      simp only [run, FileWorld.answer, FileWorld.next_answers, hlost, hleft]
      exact ⟨rfl, rfl⟩
    · simp only [run, hok]
      exact ⟨rfl, rfl⟩

lemma length_exec_createEncryptionKey {key : Bytes}
    (h : (exec run (createEncryptionKey keyPath) w).1 = some key) :
    key.length = encryptionKeyBytes := by
  unfold createEncryptionKey at h
  dsimp only at h
  split at h
  · cases h
  · rw [FileScript.createDirectory, perform_bind, exec_call] at h
    split at h
    · cases h
    · rw [FileScript.randBytes, perform_bind, exec_call, writeEncryptionKeyFile,
        FileScript.writeFile, perform_bind, exec_call] at h
      dsimp only [pure_eq, exec_done] at h
      split at h
      · cases h
        exact length_randBytes _ _
      · cases h

lemma length_exec_ensureEncryptionKey {key : Bytes}
    (h : (exec run (ensureEncryptionKey keyPath) w).1 = some key) :
    key.length = encryptionKeyBytes := by
  unfold ensureEncryptionKey at h
  have henv : exec run getEncryptionKeyFromEnv w = (envKey w, w.next) := rfl
  have hfile : exec run (readEncryptionKeyFile keyPath) w.next =
      ((if w.next.answer.ok then w.files keyPath else none).bind parseKeyHex, w.next.next) := rfl
  rw [exec_bind, henv] at h
  cases hkey : envKey w with
  | some key' =>
    simp only [hkey] at h
    cases h
    obtain ⟨bytes, -, hparse⟩ := bind_eq_some_iff.mp hkey
    exact length_parseKeyHex hparse
  | none =>
    simp only [hkey] at h
    rw [exec_bind, hfile] at h
    cases hread : (if w.next.answer.ok then w.files keyPath else none).bind parseKeyHex with
    | some key' =>
      simp only [hread] at h
      cases h
      obtain ⟨bytes, -, hparse⟩ := bind_eq_some_iff.mp hread
      exact length_parseKeyHex hparse
    | none =>
      simp only [hread] at h
      exact length_exec_createEncryptionKey h

theorem exec_ensureEncryptionKey {creates : Bool}
    (h : Along run (KeyKept creates keyPath) (ensureEncryptionKey keyPath) w) :
    (exec run (ensureEncryptionKey keyPath) w).2.files = w.files ∧
        (∀ key, (exec run (ensureEncryptionKey keyPath) w).1 = some key →
          keyInForce keyPath w = some key) ∨
      creates = true ∧ keyInForce keyPath w = none ∧ w.files keyPath = none := by
  unfold ensureEncryptionKey at h ⊢
  rw [along_bind] at h
  rw [exec_bind]
  have henv : exec run getEncryptionKeyFromEnv w = (envKey w, w.next) := rfl
  rw [henv] at h ⊢
  cases hkey : envKey w with
  | some key =>
    refine .inl ⟨rfl, fun key' heq => ?_⟩
    rw [keyInForce, hkey]
    exact heq
  | none =>
    simp only [hkey] at h ⊢
    rw [along_bind] at h
    rw [exec_bind]
    have hfile : exec run (readEncryptionKeyFile keyPath) w.next =
        ((if w.next.answer.ok then w.files keyPath else none).bind parseKeyHex, w.next.next) := rfl
    rw [hfile] at h ⊢
    obtain ⟨-, ⟨hkept, -⟩, -⟩ := h
    cases hread : (if w.next.answer.ok then w.files keyPath else none).bind parseKeyHex with
    | some key =>
      refine .inl ⟨rfl, fun key' heq => ?_⟩
      by_cases hok : w.next.answer.ok = true
      · rw [if_pos hok] at hread
        rw [keyInForce, hkey, fileKey, hread]
        exact heq
      · rw [if_neg hok] at hread
        cases hread
    | none =>
      rcases hkept rfl with ⟨hok, hsome⟩ | ⟨hcreates, hnone⟩ | hlost
      · rw [if_pos hok] at hread
        rw [show fileKey keyPath w.next = (w.files keyPath).bind parseKeyHex from rfl, hread] at hsome
        cases hsome
      · refine .inr ⟨hcreates, ?_, hnone⟩
        rw [keyInForce, hkey, fileKey, show w.files keyPath = none from hnone]
        rfl
      · obtain ⟨hnone, hfiles⟩ := exec_createEncryptionKey_of_lost keyPath
          (w := w.next.next) hlost
        refine .inl ⟨hfiles, fun key heq => ?_⟩
        rw [hnone] at heq
        cases heq

section Calls

variable (v : VaultPrimitives)

/-! ### Readers -/

variable {c : VaultCall} {home keyPath : String} {key : Bytes} {w w' : FileWorld}

lemma exec_readProfileDict_files {path : String}
    (h : Along run (KeyKept false keyPath) (readProfileDict v path keyPath) w) :
    (exec run (readProfileDict v path keyPath) w).2.files = w.files := by
  unfold readProfileDict at h ⊢
  rw [readFileToString, perform_bind] at h ⊢
  obtain ⟨-, h⟩ := h
  rw [exec_call]
  have hrun : ((readFile path).run w).2 = w.next := rfl
  rw [hrun] at h ⊢
  cases hinput : ((readFile path).run w).1 with
  | none => rfl
  | some input =>
    rw [hinput] at h
    dsimp only at h ⊢
    unfold profileFromInput at h ⊢
    split
    · rfl
    · rename_i payload hread
      rw [hread] at h
      dsimp only at h
      split
      · rename_i hlooks
        rw [if_pos hlooks, along_bind] at h
        rw [exec_bind]
        rcases exec_ensureEncryptionKey h.1 with ⟨hfiles, -⟩ | ⟨hcreates, -⟩
        · cases (exec run (ensureEncryptionKey keyPath) w.next).1 with
          | none => exact hfiles
          | some key => exact hfiles
        · cases hcreates
      · rfl

lemma exec_listLoop_files {entries : List String} {profiles : List JsonDict}
    (h : Along run (KeyKept false keyPath) (listLoop v keyPath entries profiles) w) :
    (exec run (listLoop v keyPath entries profiles) w).2.files = w.files := by
  induction entries generalizing profiles w with
  | nil => rfl
  | cons entry entries ih =>
    cases hfile : isProfileFile entry with
    | false =>
      rw [listLoop_of_other v hfile] at h ⊢
      exact ih h
    | true =>
      rw [listLoop_of_profileFile v hfile] at h ⊢
      rw [along_bind] at h
      rw [exec_bind]
      have hfiles := exec_readProfileDict_files v h.1
      obtain ⟨-, h⟩ := h
      cases hparsed : (exec run (readProfileDict v entry keyPath) w).1 with
      | none =>
        rw [hparsed] at h
        exact (ih h).trans hfiles
      | some profile =>
        rw [hparsed] at h
        exact (ih h).trans hfiles

def VaultCall.reads : VaultCall → Bool
  | readProfile _ => true
  | visitProfiles => true
  | _ => false

theorem exec_body_files_of_reads (hreads : c.reads = true)
    (h : Along run (KeyKept false (getDefaultEncryptionKeyPath home)) (c.body v home) w) :
    (exec run (c.body v home) w).2.files = w.files := by
  cases c with
  | saveProfile profile => cases hreads
  | readProfile name =>
    rw [VaultCall.body, along_bind_pure, readProfileOnBlockingThread] at h
    rw [VaultCall.body, exec_bind_pure, readProfileOnBlockingThread]
    split
    · rfl
    · rename_i hname
      rw [if_neg hname, along_bind] at h
      rw [exec_bind]
      exact exec_readProfileDict_files v h.1
  | deleteProfile name => cases hreads
  | visitProfiles =>
    rw [VaultCall.body, along_bind_pure, listProfilesOnBlockingThread] at h
    rw [VaultCall.body, exec_bind_pure, listProfilesOnBlockingThread]
    split
    · rfl
    · rename_i hdirectory
      unfold FileScript.pathExists at h ⊢
      rw [if_neg hdirectory, perform_bind, along_call] at h
      rw [perform_bind, exec_call]
      obtain ⟨-, h⟩ := h
      split
      · rfl
      · rename_i hfound
        unfold FileScript.enumerate at h ⊢
        rw [if_neg hfound, perform_bind, along_call, along_bind] at h
        rw [perform_bind, exec_call, exec_bind]
        exact exec_listLoop_files v h.2.1

/-! ### Runs of calls -/

/-- A profile that can be decrypted with the key in force. -/
def Decryptable (home path : String) (w : FileWorld) : Prop :=
  ∃ key input, keyInForce (getDefaultEncryptionKeyPath home) w = some key ∧
    w.files path = some input ∧ (decryptProfileData v input key).isSome = true

def callStep (home : String) (w : FileWorld) (c : VaultCall) : Option FileWorld :=
  some (exec run (c.body v home) w).2

/-- Keys are kept in a call. Only `SaveProfile` is meant to create one. -/
def KeepsKeys (home : String) (w : FileWorld) (c : VaultCall) : Prop :=
  Along run (KeyKept (!c.reads) (getDefaultEncryptionKeyPath home)) (c.body v home) w

/-- The writes of a call that fail leave the file alone. -/
def WritesWhole (home : String) (w : FileWorld) (c : VaultCall) : Prop :=
  Along run Whole (c.body v home) w

instance (home : String) (w : FileWorld) (c : VaultCall) : Decidable (KeepsKeys v home w c) :=
  inferInstanceAs (Decidable (Along ..))

variable {v}

lemma length_keyInForce (h : keyInForce keyPath w = some key) :
    key.length = encryptionKeyBytes := by
  rcases or_eq_some_iff.mp h with h | ⟨-, h⟩
  · obtain ⟨bytes, -, hparse⟩ := bind_eq_some_iff.mp h
    exact length_parseKeyHex hparse
  · obtain ⟨bytes, -, hparse⟩ := bind_eq_some_iff.mp h
    exact length_parseKeyHex hparse

lemma keyInForce_congr (hfiles : w'.files = w.files)
    (henv : w'.environment = w.environment) (keyPath : String) :
    keyInForce keyPath w = keyInForce keyPath w' := by
  rw [keyInForce, keyInForce, envKey, envKey, fileKey, fileKey, hfiles, henv]

lemma keyInForce_of_kept (henv : w'.environment = w.environment)
    (hfile : ∀ bytes, w.files keyPath = some bytes → w'.files keyPath = some bytes)
    (h : keyInForce keyPath w = some key) : keyInForce keyPath w' = some key := by
  have hsame : envKey w' = envKey w := by rw [envKey, henv, envKey]
  rw [keyInForce, hsame]
  rw [keyInForce] at h
  cases hkey : envKey w with
  | some key' =>
    rw [hkey] at h
    exact h
  | none =>
    rw [hkey, none_or] at h
    rw [none_or]
    obtain ⟨bytes, hbytes, hparse⟩ := bind_eq_some_iff.mp h
    rw [fileKey, hfile bytes hbytes]
    exact hparse

lemma callStep_environment (h : callStep v home w c = some w') :
    w'.environment = w.environment := by
  cases h
  exact exec_environment _ w

theorem callStep_keeps_key
    (hkept : KeepsKeys v home w c) (h : callStep v home w c = some w') {bytes : Bytes}
    (hbytes : w.files (getDefaultEncryptionKeyPath home) = some bytes) :
    w'.files (getDefaultEncryptionKeyPath home) = some bytes := by
  cases h
  cases c with
  | readProfile name =>
    rw [exec_body_files_of_reads v rfl hkept]
    exact hbytes
  | visitProfiles =>
    rw [exec_body_files_of_reads v rfl hkept]
    exact hbytes
  | deleteProfile name =>
    rw [VaultCall.body, exec_bind_pure]
    have hne := (buildProfilePath_ne_keyPath (getDefaultAuthDirectory home) name home).symm
    exact (exec_files_of_all (deleteProfileOnBlockingThread_all hne) w).trans hbytes
  | saveProfile profile =>
    rw [KeepsKeys, VaultCall.body, along_bind_pure] at hkept
    rw [VaultCall.body, exec_bind_pure]
    rcases exec_saveProfileOnBlockingThread v (getDefaultAuthDirectory home)
        (getDefaultEncryptionKeyPath home) profile w with
      ⟨-, hfiles⟩ | ⟨name, w₁, -, -, hfiles₁, -, hexec, halong⟩
    · rw [hfiles]
      exact hbytes
    · rw [hexec, exec_files_of_all (saveWithKey_all v
        (buildProfilePath_ne_keyPath _ name home).symm profile _)]
      rcases exec_ensureEncryptionKey (halong _ hkept).1 with ⟨hfiles, -⟩ | ⟨-, -, hnone⟩
      · rw [hfiles, hfiles₁]
        exact hbytes
      · rw [hfiles₁, hbytes] at hnone
        cases hnone

def Intact (v : VaultPrimitives) (home path : String) (key : Bytes) (w : FileWorld) : Prop :=
  keyInForce (getDefaultEncryptionKeyPath home) w = some key ∧
    ∀ input, w.files path = some input → (decryptProfileData v input key).isSome = true

/-- **No call** that keeps keys and writes whole files makes a profile undecryptable. -/
theorem callStep_intact {path : String}
    (hpath : Intact v home path key w) (hkept : KeepsKeys v home w c)
    (hwhole : WritesWhole v home w c) (h : callStep v home w c = some w') :
    Intact v home path key w' := by
  obtain ⟨hkey, hopens⟩ := hpath
  refine ⟨keyInForce_of_kept (callStep_environment h) (fun _ => callStep_keeps_key hkept h) hkey, ?_⟩
  -- A file that stays as it is stays decryptable.
  have hkeep : w'.files path = w.files path → ∀ input, w'.files path = some input →
      (decryptProfileData v input key).isSome = true := fun hsame input hinput =>
    hopens input (hsame ▸ hinput)
  cases h
  cases c with
  | readProfile name => exact hkeep (by rw [exec_body_files_of_reads v rfl hkept])
  | visitProfiles => exact hkeep (by rw [exec_body_files_of_reads v rfl hkept])
  | deleteProfile name =>
    rw [VaultCall.body, exec_bind_pure] at hkeep ⊢
    rcases exec_deleteProfileOnBlockingThread (getDefaultAuthDirectory home) name w with
      ⟨-, -, hfiles⟩ | ⟨-, hfiles⟩
    · by_cases hpath : path = buildProfilePath (getDefaultAuthDirectory home) name
      · intro input hinput
        rw [hfiles, hpath, update_self] at hinput
        cases hinput
      · exact hkeep (by rw [hfiles, update_of_ne hpath])
    · exact hkeep (by rw [hfiles])
  | saveProfile profile =>
    rw [KeepsKeys, VaultCall.body, along_bind_pure] at hkept
    rw [WritesWhole, VaultCall.body, along_bind_pure] at hwhole
    rw [VaultCall.body, exec_bind_pure] at hkeep ⊢
    rcases exec_saveProfileOnBlockingThread v (getDefaultAuthDirectory home)
        (getDefaultEncryptionKeyPath home) profile w with
      ⟨-, hfiles⟩ | ⟨name, w₁, -, -, hfiles₁, henv₁, hexec, halong⟩
    · exact hkeep (by rw [hfiles])
    · rw [keyInForce_congr hfiles₁ henv₁ (getDefaultEncryptionKeyPath home)] at hkey
      rcases exec_ensureEncryptionKey (halong _ hkept).1 with ⟨hfiles₂, hsome⟩ | ⟨-, hnone, -⟩
      · rw [hexec] at hkeep ⊢
        rcases exec_saveWithKey v (getDefaultAuthDirectory home) name profile
            (exec run (ensureEncryptionKey _) w₁).1
            (exec run (ensureEncryptionKey _) w₁).2 with
          ⟨k, plaintext, nonce, text, hk, ⟨hplaintext, hnonce, htext⟩, -, hfiles₃⟩ |
          ⟨-, hfiles₃ | hbroken⟩
        · by_cases hpath : path = buildProfilePath (getDefaultAuthDirectory home) name
          · -- The new profile has been encrypted with the key in force.
            intro input hinput
            rw [hfiles₃, hpath, update_self] at hinput
            cases hinput
            obtain rfl : k = key := some.inj ((hsome k hk).symm.trans hkey)
            rw [decryptProfileData_encryptedText hplaintext (length_keyInForce hkey) hnonce htext]
            rfl
          · refine hkeep ?_
            rw [hfiles₃, update_of_ne hpath, hfiles₂, hfiles₁]
        · exact hkeep (by rw [hfiles₃, hfiles₂, hfiles₁])
        · exact absurd (halong _ hwhole).2 hbroken
      · rw [hkey] at hnone
        cases hnone

/-- **The key file** is never changed by calls that keep keys, readers among them change no file, and
if their writes are whole, then a profile that could be decrypted once can be decrypted as long as it
is not deleted. -/
theorem vault_keeps_key (v : VaultPrimitives) (home : String) (calls : List VaultCall) (w : FileWorld)
    (hkept : Transition.Along (callStep v home) (KeepsKeys v home) w calls) :
    (∀ bytes, w.files (getDefaultEncryptionKeyPath home) = some bytes →
        Transition.Always (callStep v home)
          (fun w' => w'.files (getDefaultEncryptionKeyPath home) = some bytes) w calls) ∧
      Transition.Along (callStep v home)
        (fun w' c => c.reads = true → (exec run (c.body v home) w').2.files = w'.files)
        w calls ∧
      (Transition.Along (callStep v home) (WritesWhole v home) w calls → ∀ path,
        Decryptable v home path w → Transition.Always (callStep v home)
          (fun w' => Decryptable v home path w' ∨ w'.files path = none) w calls) := by
  refine ⟨fun bytes hbytes => ?_, ?_, fun hwhole path hpath => ?_⟩
  · exact hkept.always (fun w c w' hI hP h => callStep_keeps_key hP h hI) hbytes
  · refine hkept.imp fun w c hP hreads => exec_body_files_of_reads v hreads ?_
    rwa [KeepsKeys, hreads] at hP
  · obtain ⟨key, input, hkey, hinput, hopens⟩ := hpath
    have hintact : Intact v home path key w := by
      refine ⟨hkey, fun input' hinput' => ?_⟩
      rw [hinput] at hinput'
      exact some.inj hinput' ▸ hopens
    have halways := (hkept.and hwhole).always
      (fun w c w' hI hP h => callStep_intact hI hP.1 hP.2 h) hintact
    intro n w' h
    obtain ⟨hkey', hopens'⟩ := halways n w' h
    cases hfile : w'.files path with
    | none => exact .inr rfl
    | some input' => exact .inl ⟨key, input', hkey', hfile, hopens' input' hfile⟩

/-- A vault with a key file and the profile `b` under its key. -/
def sampleWorld (answers : Nat → FileAnswer) : FileWorld where
  files path :=
    if path = "/h/.agent-browser/.encryption-key" then some (keyFileContents sampleB1.key)
    else if path = "/h/.agent-browser/auth/b.json" then some sampleB1.text
    else none
  directories := ["/h/.agent-browser", "/h/.agent-browser/auth"]
  environment _ := none
  answers := answers

/-- A run of calls in which nothing fails. -/
theorem vault_keeps_key_calm :
    Transition.Along (callStep samplePrimitives "/h") (KeepsKeys samplePrimitives "/h")
        (sampleWorld fun _ => {}) [.readProfile "b", .visitProfiles, .deleteProfile "b"] ∧
      Transition.Always (callStep samplePrimitives "/h")
        (fun w => w.files "/h/.agent-browser/.encryption-key" =
          some (keyFileContents sampleB1.key))
        (sampleWorld fun _ => {}) [.readProfile "b", .visitProfiles, .deleteProfile "b"] := by
  have hkept : Transition.Along (callStep samplePrimitives "/h") (KeepsKeys samplePrimitives "/h")
      (sampleWorld fun _ => {}) [.readProfile "b", .visitProfiles, .deleteProfile "b"] := by
    decide +kernel
  have hpath : getDefaultEncryptionKeyPath "/h" = "/h/.agent-browser/.encryption-key" := by
    decide +kernel
  refine ⟨hkept, ?_⟩
  rw [← hpath]
  exact (vault_keeps_key samplePrimitives "/h" _ _ hkept).1 _ (by decide +kernel)

/-- **A reader may replace the key**: if the key file cannot be read once, `ReadProfile` writes a new
key over it, and the profile it was to read is lost. -/
theorem readProfile_replaces_key :
    ¬ ∀ (v : VaultPrimitives) (home : String) (calls : List VaultCall) (w : FileWorld),
      (∀ bytes, w.files (getDefaultEncryptionKeyPath home) = some bytes →
        Transition.Always (callStep v home)
          (fun w' => w'.files (getDefaultEncryptionKeyPath home) = some bytes) w calls) ∧
      Transition.Along (callStep v home)
        (fun w' c => c.reads = true → (exec run (c.body v home) w').2.files = w'.files)
        w calls ∧
      ∀ path, Decryptable v home path w → Transition.Always (callStep v home)
          (fun w' => Decryptable v home path w' ∨ w'.files path = none) w calls := by
  intro h
  have hkey := (h samplePrimitives "/h" [.readProfile "b"]
    (sampleWorld fun n => if n = 2 then { ok := false } else {})).1 _ rfl 1 _ rfl
  revert hkey
  decide +kernel

end Calls

end CefCore.Browser.AuthVault
