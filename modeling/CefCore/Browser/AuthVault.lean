import CefCore.Foundations.FileScript
import CefCore.Foundations.JsonValue

/-!
# The auth vault

`CefAuthVaultImpl` of `libcef/browser/auth_vault_impl.cc`: profiles are dictionaries, each of them
kept encrypted in a file of its own, with one key for all, which is in the environment or in a file.
The functions that run on the thread pool are scripts of file operations.

## Main definitions

* `VaultCall`, `VaultCall.body`: the calls, and what they do to the files.

## Implementation notes

* JSON, Base64 and AES-GCM are not part of the repository: `VaultPrimitives` has what the vault
  relies on. Opening inverts sealing; nothing is assumed about opening with another key.
* File permissions are left out.
-/

namespace CefCore.Browser.AuthVault

open List Option Script FileOp Script FileOp

lemma forall_uint8 {P : UInt8 → Prop} (h : ∀ n, P (UInt8.ofFin n)) (b : UInt8) : P b := by
  have hb := h b.toFin
  rwa [UInt8.ofFin_toFin] at hb

/-- The bytes of a `std::string` or a vector. -/
abbrev Bytes := List UInt8

/-! ### Paths -/

/-- `kAgentBrowserDirectory`. -/
def agentBrowserDirectory : String := ".agent-browser"

/-- `kAuthDirectory`. -/
def authDirectory : String := "auth"

/-- `kEncryptionKeyFile`. -/
def encryptionKeyFile : String := ".encryption-key"

/-- `kJsonExtension`. -/
def jsonExtension : String := ".json"

/-- `GetAgentBrowserDirectory`, with the home directory, if there is one. -/
def getAgentBrowserDirectory (home : String) : String :=
  if home = "" then "" else FilePath.append home agentBrowserDirectory

def getDefaultAuthDirectory (home : String) : String :=
  if getAgentBrowserDirectory home = "" then ""
  else FilePath.append (getAgentBrowserDirectory home) authDirectory

def getDefaultEncryptionKeyPath (home : String) : String :=
  if getAgentBrowserDirectory home = "" then ""
  else FilePath.append (getAgentBrowserDirectory home) encryptionKeyFile

def isProfileFile (path : String) : Bool :=
  FilePath.endsWith (FilePath.baseName path) jsonExtension

def isValidProfileName (name : String) : Bool :=
  name ≠ "" && name.toList.all fun c => c.isAlphanum || c = '_' || c = '-'

def buildProfilePath (directory name : String) : String :=
  FilePath.append directory (name ++ jsonExtension)

/-! ### Keys -/

/-- `kEncryptionKeyBytes`. -/
def encryptionKeyBytes : Nat := 32

def encryptionKeyVar : String := "AGENT_BROWSER_ENCRYPTION_KEY"

def isAsciiWhitespace (b : UInt8) : Bool := b = 32 || (9 ≤ b && b ≤ 13)

/-- `base::TrimWhitespaceASCII`, on both sides. -/
def trimWhitespaceASCII (s : Bytes) : Bytes :=
  ((s.dropWhile isAsciiWhitespace).reverse.dropWhile isAsciiWhitespace).reverse

def hexDigit (b : UInt8) : Option Nat :=
  if 48 ≤ b ∧ b ≤ 57 then some (b.toNat - 48)
  else if 65 ≤ b ∧ b ≤ 70 then some (b.toNat - 55)
  else if 97 ≤ b ∧ b ≤ 102 then some (b.toNat - 87)
  else none

/-- `base::HexStringToUInt` of two characters. The first one may be a plus sign. -/
def hexStringToUInt (b₁ b₂ : UInt8) : Option Nat :=
  if b₁ = 43 then hexDigit b₂
  else
    match hexDigit b₁, hexDigit b₂ with
    | some h, some l => some (16 * h + l)
    | _, _ => none

/-- The loop of `ParseKeyHex`. -/
def keyFromHex : Bytes → Option Bytes
  | [] => some []
  | [_] => none
  | b₁ :: b₂ :: rest =>
    match hexStringToUInt b₁ b₂ with
    | none => none
    | some value => (keyFromHex rest).map (UInt8.ofNat value :: ·)

def parseKeyHex (hex : Bytes) : Option Bytes :=
  let keyHex := trimWhitespaceASCII hex
  if keyHex.length ≠ encryptionKeyBytes * 2 then none else keyFromHex keyHex

/-- The hexadecimal digit of a number below 16. -/
def hexChar (n : UInt8) : UInt8 := if n < 10 then 48 + n else 55 + n

def hexEncode (bytes : Bytes) : Bytes := bytes.flatMap fun b => [hexChar (b / 16), hexChar (b % 16)]

def getEncryptionKeyFromEnv : FileScript (Option Bytes) := do
  let value ← FileScript.getVar encryptionKeyVar
  pure (value.bind parseKeyHex)

def readEncryptionKeyFile (path : String) : FileScript (Option Bytes) := do
  let keyHex ← FileScript.readFileToString path
  pure (keyHex.bind parseKeyHex)

def keyFileContents (key : Bytes) : Bytes := hexEncode key ++ [newline]

def writeEncryptionKeyFile (path : String) (key : Bytes) : FileScript Bool :=
  FileScript.writeFile path (keyFileContents key)

/-- The end of `EnsureEncryptionKey`: a new key is drawn and written. -/
def createEncryptionKey (keyPath : String) : FileScript (Option Bytes) :=
  let parentDir := FilePath.dirName keyPath
  if parentDir = "" then pure none
  else do
    let created ← FileScript.createDirectory parentDir
    if !created then pure none
    else do
      let key ← FileScript.randBytes encryptionKeyBytes
      let written ← writeEncryptionKeyFile keyPath key
      pure (if written then some key else none)

def ensureEncryptionKey (keyPath : String) : FileScript (Option Bytes) := do
  let fromEnv ← getEncryptionKeyFromEnv
  match fromEnv with
  | some key => pure (some key)
  | none => do
    let fromFile ← readEncryptionKeyFile keyPath
    match fromFile with
    | some key => pure (some key)
    | none => createEncryptionKey keyPath

/-! ### Profiles -/

/-- `kNonceBytes`. -/
def nonceBytes : Nat := 12

/-- `kAuthTagBytes`. -/
def authTagBytes : Nat := 16

/-- What the vault uses of other libraries: `base::JSONWriter` and `base::JSONReader`, Base64, and
`Seal` and `Open` of `crypto::Aead`, given a key, a nonce and a text. -/
structure VaultPrimitives where
  json : JsonText
  base64Encode : Bytes → String
  base64Decode : String → Option Bytes
  aeadSeal : Bytes → Bytes → Bytes → Bytes
  aeadOpen : Bytes → Bytes → Bytes → Option Bytes
  decode_encode : ∀ bytes, base64Decode (base64Encode bytes) = some bytes
  authTagBytes_le : ∀ key nonce text, key.length = encryptionKeyBytes → nonce.length = nonceBytes →
    authTagBytes ≤ (aeadSeal key nonce text).length
  open_seal : ∀ key nonce text, key.length = encryptionKeyBytes → nonce.length = nonceBytes →
    aeadOpen key nonce (aeadSeal key nonce text) = some text

def encryptedPayload (iv authTag data : String) : JsonDict :=
  ((((JsonDict.set [] "version" (.scalar (.integer 1))).set
    "encrypted" (.scalar (.boolean true))).set "iv" (.scalar (.string iv))).set
    "authTag" (.scalar (.string authTag))).set "data" (.scalar (.string data))

section Primitives

variable (v : VaultPrimitives)

def encryptedText (plaintext key nonce : Bytes) : Option Bytes :=
  let ciphertext := v.aeadSeal key nonce plaintext
  if ciphertext.length < authTagBytes then none
  else
    let tagOffset := ciphertext.length - authTagBytes
    v.json.write (encryptedPayload (v.base64Encode nonce)
      (v.base64Encode (ciphertext.drop tagOffset)) (v.base64Encode (ciphertext.take tagOffset)))

def encryptProfileData (plaintext key : Bytes) : FileScript (Option Bytes) := do
  let nonce ← FileScript.randBytes nonceBytes
  pure (encryptedText v plaintext key nonce)

def looksLikeEncryptedPayload (payload : JsonDict) : Bool :=
  (payload.findBool "encrypted").getD false && (payload.findString "iv").isSome &&
    (payload.findString "authTag").isSome && (payload.findString "data").isSome

def decryptProfileData (input key : Bytes) : Option JsonDict :=
  match v.json.read input with
  | none => none
  | some payload =>
    if !(payload.findBool "encrypted").getD false then none
    else
      match payload.findString "iv", payload.findString "authTag", payload.findString "data" with
      | some iv, some authTag, some data =>
        match v.base64Decode iv, v.base64Decode authTag, v.base64Decode data with
        | some nonce, some authTag, some ciphertext =>
          if nonce.length ≠ nonceBytes then none
          else
            match v.aeadOpen key nonce (ciphertext ++ authTag) with
            | none => none
            | some plaintext => v.json.read plaintext
        | _, _, _ => none
      | _, _, _ => none

/-- `ReadProfileDict`, once the file has been read. -/
def profileFromInput (keyPath : String) (input : Bytes) : FileScript (Option JsonDict) :=
  match v.json.read input with
  | none => pure none
  | some payload =>
    if looksLikeEncryptedPayload payload then do
      let key ← ensureEncryptionKey keyPath
      match key with
      | some key => pure (decryptProfileData v input key)
      | none => pure none
    else pure (some payload)

def readProfileDict (path keyPath : String) : FileScript (Option JsonDict) := do
  let input ← FileScript.readFileToString path
  match input with
  | none => pure none
  | some input => profileFromInput v keyPath input

end Primitives

def makeProfileMetadata (path : String) (profile : JsonDict) : JsonDict :=
  ((((profile.set "path" (.scalar (.string path))).set
    "name" (.scalar (.string (FilePath.removeExtension (FilePath.baseName path))))).set
    "encrypted" (.scalar (.boolean true))).set
    "has_password" (.scalar (.boolean (profile.findString "password").isSome))).remove "password"

/-! ### The bodies of the tasks -/

structure ActionResult where
  success : Bool := false
  error : String := ""
  path : String := ""
  deriving DecidableEq

structure ReadResult where
  success : Bool := false
  error : String := ""
  profile : JsonDict := []
  deriving DecidableEq

structure ListResult where
  success : Bool := false
  error : String := ""
  profiles : List JsonDict := []
  deriving DecidableEq

def profileNameError : String := "Profile name must match /^[A-Za-z0-9_-]+$/."

section Primitives

variable (v : VaultPrimitives)

/-- The end of `SaveProfileOnBlockingThread`, with the text of the profile. -/
def writeProfile (path : String) (encrypted : Option Bytes) : FileScript ActionResult :=
  match encrypted with
  | none => pure { error := "Failed to encrypt auth profile." }
  | some encrypted => do
    let written ← FileScript.writeFile path encrypted
    pure (if written then { success := true, path := path }
      else { error := "Failed to write auth profile." })

/-- `SaveProfileOnBlockingThread` behind `EnsureEncryptionKey`. -/
def saveWithKey (directory name : String) (profile : JsonDict) (key : Option Bytes) :
    FileScript ActionResult :=
  match key with
  | none => pure { error := "Failed to initialize encryption key." }
  | some key =>
    match v.json.write profile with
    | none => pure { error := "Failed to serialize auth profile." }
    | some plaintext => do
      let encrypted ← encryptProfileData v plaintext key
      writeProfile (buildProfilePath directory name) encrypted

def saveProfileOnBlockingThread (directory keyPath : String) (profile : JsonDict) :
    FileScript ActionResult :=
  match profile.findString "name" with
  | none => pure { error := profileNameError }
  | some name =>
    if !isValidProfileName name then pure { error := profileNameError }
    else if directory = "" then pure { error := "Auth vault directory is unavailable." }
    else do
      let created ← FileScript.createDirectory directory
      if !created then pure { error := "Failed to create auth vault directory." }
      else do
        let key ← ensureEncryptionKey keyPath
        saveWithKey v directory name profile key

/-- The name of a profile, as `SaveProfile` takes it. -/
def profileName (profile : JsonDict) : String := (profile.findString "name").getD ""

def readResult (path : String) : Option JsonDict → ReadResult
  | none => { error := "Auth profile does not exist." }
  | some profile => { success := true, profile := makeProfileMetadata path profile }

def readProfileOnBlockingThread (directory keyPath name : String) : FileScript ReadResult :=
  if !isValidProfileName name then pure { error := profileNameError }
  else do
    let profile ← readProfileDict v (buildProfilePath directory name) keyPath
    pure (readResult (buildProfilePath directory name) profile)

def deleteProfileOnBlockingThread (directory name : String) : FileScript ActionResult :=
  if !isValidProfileName name then pure { error := profileNameError }
  else do
    let deleted ← FileScript.deleteFile (buildProfilePath directory name)
    pure (if deleted then { success := true, path := buildProfilePath directory name }
      else { error := "Failed to delete auth profile." })

/-- The loop of `ListProfilesOnBlockingThread` over the entries of the directory. -/
def listLoop (keyPath : String) : List String → List JsonDict → FileScript (List JsonDict)
  | [], profiles => pure profiles
  | entry :: entries, profiles =>
    if !isProfileFile entry then listLoop keyPath entries profiles
    else do
      let parsed ← readProfileDict v entry keyPath
      match parsed with
      | none => listLoop keyPath entries profiles
      | some profile => listLoop keyPath entries (profiles ++ [makeProfileMetadata entry profile])

def listProfilesOnBlockingThread (directory keyPath : String) : FileScript ListResult :=
  if directory = "" then pure { error := "Auth vault directory is unavailable." }
  else do
    let found ← FileScript.pathExists directory
    if !found then pure { success := true }
    else do
      let entries ← FileScript.enumerate directory
      let profiles ← listLoop v keyPath entries []
      pure { success := true, profiles := profiles }

end Primitives

inductive VaultCall where
  | saveProfile (profile : JsonDict)
  | readProfile (name : String)
  | deleteProfile (name : String)
  | visitProfiles
  deriving DecidableEq

inductive VaultResult where
  | action (result : ActionResult)
  | read (result : ReadResult)
  | list (result : ListResult)
  deriving DecidableEq

def VaultCall.body (v : VaultPrimitives) (home : String) : VaultCall → FileScript VaultResult
  | saveProfile profile => do
    let result ← saveProfileOnBlockingThread v (getDefaultAuthDirectory home)
      (getDefaultEncryptionKeyPath home) profile
    pure (.action result)
  | readProfile name => do
    let result ← readProfileOnBlockingThread v (getDefaultAuthDirectory home)
      (getDefaultEncryptionKeyPath home) name
    pure (.read result)
  | deleteProfile name => do
    let result ← deleteProfileOnBlockingThread (getDefaultAuthDirectory home) name
    pure (.action result)
  | visitProfiles => do
    let result ← listProfilesOnBlockingThread v (getDefaultAuthDirectory home)
      (getDefaultEncryptionKeyPath home)
    pure (.list result)

/-! ### The paths of a vault -/

lemma name_append_ne (name : String) : name ++ jsonExtension ≠ "" := by
  intro h
  have hlength := congrArg String.length h
  simp [jsonExtension, String.length_append] at hlength

lemma buildProfilePath_ne_keyPath (directory name home : String) :
    buildProfilePath directory name ≠ getDefaultEncryptionKeyPath home := by
  intro heq
  -- The name of the one ends with an `n`, and that of the other one with a `y`.
  have hlast : (buildProfilePath directory name).toList.getLast? = some 'n' := by
    rw [buildProfilePath, FilePath.getLast?_append directory (name_append_ne name)]
    simp [jsonExtension]
  rw [heq, getDefaultEncryptionKeyPath] at hlast
  split at hlast
  · cases hlast
  · rw [FilePath.getLast?_append _ (by decide)] at hlast
    revert hlast
    decide

lemma buildProfilePath_injective {directory name name' : String}
    (h : buildProfilePath directory name = buildProfilePath directory name') : name = name' := by
  have hnames := FilePath.append_injective (name_append_ne name) (name_append_ne name') h
  have hlists := congrArg String.toList hnames
  rw [String.toList_append, String.toList_append] at hlists
  exact String.toList_injective (append_cancel_right hlists)

/-! ### The files that a script may change -/

section Frame

variable {path keyPath : String}

lemma createEncryptionKey_all (h : path ≠ keyPath) :
    (createEncryptionKey keyPath).All fun op => op.target ≠ some path := by
  have hwrite : some keyPath ≠ some path := fun heq => h (some.inj heq).symm
  unfold createEncryptionKey
  dsimp only
  split
  · trivial
  · refine ⟨nofun, fun created => ?_⟩
    cases created with
    | false => trivial
    | true => exact ⟨nofun, fun key => ⟨hwrite, fun written => trivial⟩⟩

lemma all_ensureEncryptionKey {P : FileOp → Prop} (hgetVar : ∀ name, P (.getVar name))
    (hread : P (.readFile keyPath)) (hcreate : (createEncryptionKey keyPath).All P) :
    (ensureEncryptionKey keyPath).All P := by
  refine ⟨hgetVar _, fun value => ?_⟩
  show All _ (match value.bind parseKeyHex with
    | some key => _
    | none => _)
  cases value.bind parseKeyHex with
  | some key => trivial
  | none =>
    refine ⟨hread, fun keyHex => ?_⟩
    show All _ (match keyHex.bind parseKeyHex with
      | some key => _
      | none => _)
    cases keyHex.bind parseKeyHex with
    | some key => trivial
    | none => exact hcreate

lemma ensureEncryptionKey_all (h : path ≠ keyPath) :
    (ensureEncryptionKey keyPath).All fun op => op.target ≠ some path :=
  all_ensureEncryptionKey (fun _ => nofun) nofun (createEncryptionKey_all h)

variable (v : VaultPrimitives)

lemma profileFromInput_all (h : path ≠ keyPath) (input : Bytes) :
    (profileFromInput v keyPath input).All fun op => op.target ≠ some path := by
  unfold profileFromInput
  split
  · trivial
  · split
    · refine All.bind (fun key => ?_) (ensureEncryptionKey_all h)
      cases key <;> trivial
    · trivial

lemma readProfileDict_all (h : path ≠ keyPath) (entry : String) :
    (readProfileDict v entry keyPath).All fun op => op.target ≠ some path := by
  refine ⟨nofun, fun input => ?_⟩
  cases input with
  | none => trivial
  | some input => exact profileFromInput_all v h input

lemma listLoop_of_other {entry : String} (h : isProfileFile entry = false) (entries : List String)
    (profiles : List JsonDict) :
    listLoop v keyPath (entry :: entries) profiles = listLoop v keyPath entries profiles := by
  rw [listLoop, h, Bool.not_false, if_pos rfl]

lemma listLoop_of_profileFile {entry : String} (h : isProfileFile entry = true)
    (entries : List String) (profiles : List JsonDict) :
    listLoop v keyPath (entry :: entries) profiles =
      readProfileDict v entry keyPath >>= fun
        | none => listLoop v keyPath entries profiles
        | some profile =>
          listLoop v keyPath entries (profiles ++ [makeProfileMetadata entry profile]) := by
  rw [listLoop, h, Bool.not_true, if_neg Bool.false_ne_true]

lemma listLoop_all (h : path ≠ keyPath) (entries : List String) (profiles : List JsonDict) :
    (listLoop v keyPath entries profiles).All fun op => op.target ≠ some path := by
  induction entries generalizing profiles with
  | nil => trivial
  | cons entry entries ih =>
    cases hfile : isProfileFile entry with
    | false =>
      rw [listLoop_of_other v hfile]
      exact ih profiles
    | true =>
      rw [listLoop_of_profileFile v hfile]
      refine All.bind (fun parsed => ?_) (readProfileDict_all v h entry)
      cases parsed with
      | none => exact ih profiles
      | some profile => exact ih _

lemma listProfilesOnBlockingThread_all (h : path ≠ keyPath) (directory : String) :
    (listProfilesOnBlockingThread v directory keyPath).All fun op => op.target ≠ some path := by
  unfold listProfilesOnBlockingThread
  split
  · trivial
  · refine ⟨nofun, fun found => ?_⟩
    cases found with
    | false => trivial
    | true =>
      refine ⟨nofun, fun entries => ?_⟩
      show All _ (listLoop v keyPath entries [] >>= _)
      refine All.bind (fun profiles => ?_) (listLoop_all v h entries [])
      trivial

lemma readProfileOnBlockingThread_all (h : path ≠ keyPath) (directory name : String) :
    (readProfileOnBlockingThread v directory keyPath name).All fun op =>
      op.target ≠ some path := by
  unfold readProfileOnBlockingThread
  split
  · trivial
  · refine All.bind (fun profile => ?_) (readProfileDict_all v h _)
    trivial

lemma saveWithKey_all {directory name : String} (h : path ≠ buildProfilePath directory name)
    (profile : JsonDict) (key : Option Bytes) :
    (saveWithKey v directory name profile key).All fun op => op.target ≠ some path := by
  have hwrite : some (buildProfilePath directory name) ≠ some path := fun heq =>
    h (some.inj heq).symm
  unfold saveWithKey
  split
  · trivial
  · split
    · trivial
    · refine ⟨nofun, fun nonce => ?_⟩
      show All _ (writeProfile _ _)
      unfold writeProfile
      split
      · trivial
      · exact ⟨hwrite, fun _ => trivial⟩

lemma deleteProfileOnBlockingThread_all {directory name : String}
    (h : path ≠ buildProfilePath directory name) :
    (deleteProfileOnBlockingThread directory name).All fun op => op.target ≠ some path := by
  unfold deleteProfileOnBlockingThread
  split
  · trivial
  · exact ⟨fun heq => h (some.inj heq).symm, fun _ => trivial⟩

end Frame

/-! ### What saving a profile does -/

def IsTextOf (v : VaultPrimitives) (profile : JsonDict) (key plaintext nonce text : Bytes) : Prop :=
  v.json.write profile = some plaintext ∧ nonce.length = nonceBytes ∧
    encryptedText v plaintext key nonce = some text

/-- **Saving with a key** fails and changes no file, or writes the text of the encrypted profile, or
breaks off in the middle of it. -/
theorem exec_saveWithKey (v : VaultPrimitives) (directory name : String) (profile : JsonDict)
    (key : Option Bytes) (w : FileWorld) :
    (∃ k plaintext nonce text, key = some k ∧ IsTextOf v profile k plaintext nonce text ∧
        (exec run (saveWithKey v directory name profile key) w).1.success = true ∧
        (exec run (saveWithKey v directory name profile key) w).2.files =
          Function.update w.files (buildProfilePath directory name) (some text)) ∨
      (exec run (saveWithKey v directory name profile key) w).1.success = false ∧
        ((exec run (saveWithKey v directory name profile key) w).2.files = w.files ∨
          ¬ Along run Whole (saveWithKey v directory name profile key) w) := by
  unfold saveWithKey
  split
  · exact .inr ⟨rfl, .inl rfl⟩
  · rename_i k
    split
    · exact .inr ⟨rfl, .inl rfl⟩
    · rename_i plaintext hplaintext
      obtain ⟨nonce, hnonce, hscript⟩ : ∃ nonce, nonce.length = nonceBytes ∧
          ∀ f : Option Bytes → FileScript ActionResult,
            exec run (encryptProfileData v plaintext k >>= f) w =
              exec run (f (encryptedText v plaintext k nonce)) w.next ∧
            (Along run Whole (encryptProfileData v plaintext k >>= f) w ↔
              Along run Whole (f (encryptedText v plaintext k nonce)) w.next) :=
        ⟨_, length_randBytes nonceBytes w, fun f => ⟨rfl, iff_of_eq (true_and _)⟩⟩
      obtain ⟨hexec, halong⟩ := hscript (writeProfile (buildProfilePath directory name))
      rw [hexec, halong]
      cases htext : encryptedText v plaintext k nonce with
      | none => exact .inr ⟨rfl, .inl rfl⟩
      | some text =>
        rw [writeProfile, FileScript.writeFile, perform_bind, exec_call, along_call]
        rcases run_writeFile_cases (buildProfilePath directory name) text w.next with
          ⟨-, hrun⟩ | ⟨-, -, hrun⟩ | ⟨rest, hok, hleftover, hrun⟩
        · rw [hrun]
          exact .inl ⟨k, plaintext, nonce, text, rfl, ⟨hplaintext, hnonce, htext⟩, rfl, rfl⟩
        · rw [hrun]
          exact .inr ⟨rfl, .inl rfl⟩
        · rw [hrun]
          refine .inr ⟨rfl, .inr fun h => ?_⟩
          rcases h.1 with hwhole | hwhole
          · rw [hok] at hwhole
            cases hwhole
          · rw [hleftover] at hwhole
            cases hwhole

theorem exec_saveProfileOnBlockingThread (v : VaultPrimitives) (directory keyPath : String)
    (profile : JsonDict) (w : FileWorld) :
    (exec run (saveProfileOnBlockingThread v directory keyPath profile) w).1.success =
          false ∧
        (exec run (saveProfileOnBlockingThread v directory keyPath profile) w).2.files =
          w.files ∨
      ∃ name w₁, profile.findString "name" = some name ∧ isValidProfileName name = true ∧
        w₁.files = w.files ∧ w₁.environment = w.environment ∧
        exec run (saveProfileOnBlockingThread v directory keyPath profile) w =
          exec run (saveWithKey v directory name profile
              (exec run (ensureEncryptionKey keyPath) w₁).1)
            (exec run (ensureEncryptionKey keyPath) w₁).2 ∧
        ∀ P : FileOp → FileWorld → Prop,
          Along run P (saveProfileOnBlockingThread v directory keyPath profile) w →
            Along run P (ensureEncryptionKey keyPath) w₁ ∧
            Along run P (saveWithKey v directory name profile
                (exec run (ensureEncryptionKey keyPath) w₁).1)
              (exec run (ensureEncryptionKey keyPath) w₁).2 := by
  unfold saveProfileOnBlockingThread
  split
  · exact .inl ⟨rfl, rfl⟩
  · rename_i name hname
    split
    · exact .inl ⟨rfl, rfl⟩
    · rename_i hvalid
      split
      · exact .inl ⟨rfl, rfl⟩
      · rw [FileScript.createDirectory, perform_bind, exec_call]
        have hfiles : ((createDirectory directory).run w).2.files = w.files :=
          funext fun path => run_files_of_target_ne (by simp [target]) w
        split
        · exact .inl ⟨rfl, hfiles⟩
        · rename_i hcreated
          refine .inr ⟨name, _, hname, by simpa using hvalid, hfiles,
            run_environment _ w, exec_bind _ _ _ _, fun P h => ?_⟩
          rw [along_call, if_neg hcreated, along_bind] at h
          exact h.2

theorem exec_deleteProfileOnBlockingThread (directory name : String) (w : FileWorld) :
    isValidProfileName name = true ∧
        (exec run (deleteProfileOnBlockingThread directory name) w).1.success = true ∧
        (exec run (deleteProfileOnBlockingThread directory name) w).2.files =
          Function.update w.files (buildProfilePath directory name) none ∨
      (exec run (deleteProfileOnBlockingThread directory name) w).1.success = false ∧
        (exec run (deleteProfileOnBlockingThread directory name) w).2.files =
          w.files := by
  unfold deleteProfileOnBlockingThread
  split
  · exact .inr ⟨rfl, rfl⟩
  · rename_i hvalid
    rw [FileScript.deleteFile, perform_bind, exec_call]
    rcases run_deleteFile_cases (buildProfilePath directory name) w with hrun | hrun
    · rw [hrun]
      exact .inl ⟨by simpa using hvalid, rfl, rfl⟩
    · rw [hrun]
      exact .inr ⟨rfl, rfl⟩

/-! ### Primitives given by tables -/

/-- The values of the primitives that are known: texts of dictionaries, Base64 texts, and what sealing
a text makes under a key and a nonce. -/
structure VaultTables where
  texts : List (JsonDict × Bytes)
  base64 : List (Bytes × String)
  seals : List ((Bytes × Bytes × Bytes) × Bytes)

namespace VaultTables

variable (t : VaultTables)

/-- What is not in the table is encoded behind an exclamation mark, which no Base64 text has. -/
def base64Encode (bytes : Bytes) : String :=
  match t.base64.find? fun p => p.1 = bytes with
  | some p => p.2
  | none => String.ofList ('!' :: bytes.map fun b => Char.ofNat b.toNat)

def base64Decode (text : String) : Option Bytes :=
  match t.base64.find? fun p => p.2 = text with
  | some p => some p.1
  | none => some (text.toList.tail.map fun c => UInt8.ofNat c.toNat)

/-- What is not in the table is sealed by writing the key behind it, twice. -/
def aeadSeal (key nonce text : Bytes) : Bytes :=
  match t.seals.find? fun p => p.1 = (key, nonce, text) with
  | some p => p.2
  | none => text ++ (key ++ key)

def aeadOpen (key nonce sealed : Bytes) : Option Bytes :=
  match t.seals.find? fun p => p.2 = sealed with
  | some ((key', nonce', text), _) => if key' = key ∧ nonce' = nonce then some text else none
  | none =>
    if sealed.drop (sealed.length - 2 * encryptionKeyBytes) = key ++ key then
      some (sealed.take (sealed.length - 2 * encryptionKeyBytes))
    else none

/-- Tables that make primitives. The sealed texts in it are short. -/
structure Laws : Prop where
  texts : ∀ p ∈ t.texts, ∀ q ∈ t.texts, p.2 = q.2 → p.1 = q.1
  base64 : ∀ p ∈ t.base64, ∀ q ∈ t.base64, p.2 = q.2 → p.1 = q.1
  base64_head : ∀ p ∈ t.base64, p.2.toList.head? ≠ some '!'
  seals : ∀ p ∈ t.seals, ∀ q ∈ t.seals, p.2 = q.2 → p.1 = q.1
  authTagBytes_le : ∀ p ∈ t.seals, authTagBytes ≤ p.2.length
  length_lt : ∀ p ∈ t.seals, p.2.length < 2 * encryptionKeyBytes

variable {t}

lemma find?_seals_padded (h : t.Laws) {key text : Bytes} (hkey : key.length = encryptionKeyBytes) :
    (t.seals.find? fun p => p.2 = text ++ (key ++ key)) = none := by
  refine find?_eq_none.mpr fun p hp => ?_
  have hlt := h.length_lt p hp
  simp only [decide_eq_true_eq]
  intro heq
  rw [heq] at hlt
  simp only [length_append] at hlt
  omega

lemma drop_padded {key text : Bytes} (hkey : key.length = encryptionKeyBytes) :
    (text ++ (key ++ key)).drop ((text ++ (key ++ key)).length - 2 * encryptionKeyBytes) =
        key ++ key ∧
      (text ++ (key ++ key)).take ((text ++ (key ++ key)).length - 2 * encryptionKeyBytes) =
        text := by
  have hlength : (text ++ (key ++ key)).length - 2 * encryptionKeyBytes = text.length := by
    simp only [length_append]
    omega
  rw [hlength]
  exact ⟨drop_left, take_left⟩

def primitives (h : t.Laws) : VaultPrimitives where
  json := .ofTable t.texts h.texts
  base64Encode := t.base64Encode
  base64Decode := t.base64Decode
  aeadSeal := t.aeadSeal
  aeadOpen := t.aeadOpen
  decode_encode bytes := by
    unfold base64Encode
    cases hp : t.base64.find? fun p => p.1 = bytes with
    | some p =>
      obtain ⟨q, hq, hbytes⟩ := find?_snd_of_find?_fst h.base64 hp
      unfold base64Decode
      rw [hq]
      exact congrArg some hbytes
    | none =>
      have hnone : (t.base64.find? fun p =>
          p.2 = String.ofList ('!' :: bytes.map fun b => Char.ofNat b.toNat)) = none := by
        refine find?_eq_none.mpr fun p hp => ?_
        have hhead := h.base64_head p hp
        simp only [decide_eq_true_eq]
        rintro heq
        rw [heq, String.toList_ofList] at hhead
        exact hhead rfl
      have hbyte : ∀ b : UInt8, UInt8.ofNat (Char.ofNat b.toNat).toNat = b :=
        forall_uint8 (P := fun b => UInt8.ofNat (Char.ofNat b.toNat).toNat = b) (by decide +kernel)
      unfold base64Decode
      rw [hnone, String.toList_ofList, tail_cons]
      rw [List.map_map, Option.some.injEq]
      exact map_id'' hbyte bytes
  authTagBytes_le key nonce text hkey _ := by
    unfold aeadSeal
    split
    · rename_i p hp
      exact h.authTagBytes_le p (mem_of_find?_eq_some hp)
    · simp only [length_append, hkey, authTagBytes, encryptionKeyBytes]
      omega
  open_seal key nonce text hkey _ := by
    unfold aeadSeal
    cases hp : t.seals.find? fun p => p.1 = (key, nonce, text) with
    | some p =>
      obtain ⟨⟨sealing, sealed⟩, hq, rfl⟩ := find?_snd_of_find?_fst h.seals hp
      unfold aeadOpen
      rw [hq]
      exact if_pos ⟨rfl, rfl⟩
    | none =>
      unfold aeadOpen
      rw [find?_seals_padded h hkey, (drop_padded hkey).1, (drop_padded hkey).2]
      exact if_pos rfl

/-- Primitives that are given by tables fail under another key. -/
lemma aeadOpen_aeadSeal_of_ne (h : t.Laws) {key key' : Bytes} (hkey : key.length = encryptionKeyBytes)
    (hkey' : key'.length = encryptionKeyBytes) (hne : key' ≠ key) (nonce text : Bytes) :
    t.aeadOpen key' nonce (t.aeadSeal key nonce text) = none := by
  unfold aeadSeal
  cases hp : t.seals.find? fun p => p.1 = (key, nonce, text) with
  | some p =>
    obtain ⟨⟨sealing, sealed⟩, hq, rfl⟩ := find?_snd_of_find?_fst h.seals hp
    unfold aeadOpen
    rw [hq]
    exact if_neg fun hkeys => hne hkeys.1.symm
  | none =>
    unfold aeadOpen
    rw [find?_seals_padded h hkey, (drop_padded hkey).1]
    refine if_neg fun hkeys => hne ?_
    exact (append_inj_left hkeys (hkey.trans hkey'.symm)).symm

end VaultTables

/-- What AES-GCM makes of a small profile under a key of 32 equal bytes, with a nonce of zeros. -/
structure SampleSeal where
  name : String
  password : Option String := none
  keyByte : UInt8
  data : Bytes
  authTag : Bytes
  data64 : String
  authTag64 : String

namespace SampleSeal

variable (s : SampleSeal)

def ascii (text : String) : Bytes := text.toList.map fun c => UInt8.ofNat c.toNat

def key : Bytes := List.replicate encryptionKeyBytes s.keyByte

def nonce : Bytes := List.replicate nonceBytes 0

def nonce64 : String := "AAAAAAAAAAAAAAAA"

def profile : JsonDict :=
  ("name", .scalar (.string s.name)) ::
    s.password.toList.map fun password => ("password", .scalar (.string password))

def plaintext : Bytes :=
  ascii "\x7b\n   \"name\": \"" ++ ascii s.name ++
    s.password.toList.flatMap (fun password => ascii "\",\n   \"password\": \"" ++ ascii password) ++
    ascii "\"\n\x7d\n"

def payload : JsonDict := encryptedPayload nonce64 s.authTag64 s.data64

def text : Bytes :=
  ascii "\x7b\n   \"authTag\": \"" ++ ascii s.authTag64 ++ ascii "\",\n   \"data\": \"" ++
    ascii s.data64 ++ ascii "\",\n   \"encrypted\": true,\n   \"iv\": \"" ++ ascii nonce64 ++
    ascii "\",\n   \"version\": 1\n\x7d\n"

def tables (samples : List SampleSeal) : VaultTables where
  texts := (samples.flatMap fun s => [(s.profile, s.plaintext), (s.payload, s.text)])
  base64 := (nonce, nonce64) ::
    samples.flatMap fun s => [(s.data, s.data64), (s.authTag, s.authTag64)]
  seals := samples.map fun s => ((s.key, nonce, s.plaintext), s.data ++ s.authTag)

end SampleSeal

/-- The profile `a` under a key of zeros. -/
def sampleA0 : SampleSeal where
  name := "a"
  keyByte := 0
  data := [181, 173, 96, 29, 109, 66, 5, 15, 106, 43, 231, 233, 154, 209, 252, 58, 120, 29, 9]
  authTag := [233, 135, 2, 97, 178, 124, 148, 121, 160, 148, 204, 199, 165, 153, 113, 161]
  data64 := "ta1gHW1CBQ9qK+fpmtH8OngdCQ=="
  authTag64 := "6YcCYbJ8lHmglMzHpZlxoQ=="

/-- The profile `b` under a key of zeros. -/
def sampleB0 : SampleSeal where
  name := "b"
  keyByte := 0
  data := [181, 173, 96, 29, 109, 66, 5, 15, 106, 43, 231, 233, 154, 209, 255, 58, 120, 29, 9]
  authTag := [67, 56, 136, 189, 80, 135, 203, 0, 61, 141, 140, 99, 118, 156, 78, 26]
  data64 := "ta1gHW1CBQ9qK+fpmtH/OngdCQ=="
  authTag64 := "QziIvVCHywA9jYxjdpxOGg=="

/-- The profile `b` under a key of ones. -/
def sampleB1 : SampleSeal where
  name := "b"
  keyByte := 1
  data := [196, 63, 184, 252, 85, 25, 109, 222, 254, 28, 176, 127, 81, 6, 163, 99, 191, 187, 149]
  authTag := [226, 10, 47, 241, 195, 223, 122, 61, 114, 38, 200, 36, 41, 155, 144, 252]
  data64 := "xD+4/FUZbd7+HLB/UQajY7+7lQ=="
  authTag64 := "4gov8cPfej1yJsgkKZuQ/A=="

lemma sampleTables_laws :
    (SampleSeal.tables [sampleA0, sampleB0, sampleB1]).Laws where
  texts := by decide +kernel
  base64 := by decide +kernel
  base64_head := by decide +kernel
  seals := by decide +kernel
  authTagBytes_le := by decide +kernel
  length_lt := by decide +kernel

def samplePrimitives : VaultPrimitives := VaultTables.primitives sampleTables_laws

/-! ### Keys that are read again -/

variable {n : UInt8}

lemma forall_lt_sixteen {P : UInt8 → Prop} (h : ∀ i : Fin 16, P (UInt8.ofNat i))
    (hn : n < 16) : P n := by
  have hdigit := h ⟨n.toNat, UInt8.lt_iff_toNat_lt.mp hn⟩
  rwa [UInt8.ofNat_toNat] at hdigit

lemma isAsciiWhitespace_hexChar (hn : n < 16) : isAsciiWhitespace (hexChar n) = false :=
  forall_lt_sixteen (P := fun n => isAsciiWhitespace (hexChar n) = false) (by decide +kernel) hn

lemma hexDigit_hexChar (hn : n < 16) : hexChar n ≠ 43 ∧ hexDigit (hexChar n) = some n.toNat :=
  forall_lt_sixteen (P := fun n => hexChar n ≠ 43 ∧ hexDigit (hexChar n) = some n.toNat)
    (by decide +kernel) hn

lemma div_mod_sixteen_lt (b : UInt8) : b / 16 < 16 ∧ b % 16 < 16 := by
  have hlt := b.toNat_lt
  rw [UInt8.lt_iff_toNat_lt, UInt8.lt_iff_toNat_lt, UInt8.toNat_div, UInt8.toNat_mod]
  have hsixteen : (16 : UInt8).toNat = 16 := rfl
  rw [hsixteen]
  omega

lemma hexStringToUInt_hexChar (b : UInt8) :
    hexStringToUInt (hexChar (b / 16)) (hexChar (b % 16)) = some b.toNat := by
  obtain ⟨hdiv, hmod⟩ := div_mod_sixteen_lt b
  obtain ⟨hplus, hhigh⟩ := hexDigit_hexChar hdiv
  have hsixteen : (16 : UInt8).toNat = 16 := rfl
  rw [hexStringToUInt, if_neg hplus, hhigh, (hexDigit_hexChar hmod).2]
  show some (16 * (b / 16).toNat + (b % 16).toNat) = some b.toNat
  rw [UInt8.toNat_div, UInt8.toNat_mod, hsixteen, Nat.div_add_mod]

lemma length_hexEncode (bytes : Bytes) : (hexEncode bytes).length = 2 * bytes.length := by
  induction bytes with
  | nil => rfl
  | cons b bytes ih =>
    show (hexEncode bytes).length + 1 + 1 = 2 * (bytes.length + 1)
    omega

lemma keyFromHex_hexEncode (bytes : Bytes) : keyFromHex (hexEncode bytes) = some bytes := by
  induction bytes with
  | nil => rfl
  | cons b bytes ih =>
    show keyFromHex (hexChar (b / 16) :: hexChar (b % 16) :: hexEncode bytes) = some (b :: bytes)
    simp [keyFromHex, hexStringToUInt_hexChar, ih]

lemma isAsciiWhitespace_of_mem_hexEncode {bytes : Bytes} {b : UInt8} (h : b ∈ hexEncode bytes) :
    isAsciiWhitespace b = false := by
  obtain ⟨byte, -, hb⟩ := mem_flatMap.mp h
  obtain ⟨hdiv, hmod⟩ := div_mod_sixteen_lt byte
  rcases mem_cons.mp hb with rfl | hb
  · exact isAsciiWhitespace_hexChar hdiv
  · rw [mem_singleton.mp hb]
    exact isAsciiWhitespace_hexChar hmod

lemma trimWhitespaceASCII_keyFileContents (key : Bytes) :
    trimWhitespaceASCII (keyFileContents key) = hexEncode key := by
  have hdigits : ∀ {s : Bytes}, (∀ b ∈ s, isAsciiWhitespace b = false) →
      s.dropWhile isAsciiWhitespace = s := by
    intro s hs
    cases s with
    | nil => rfl
    | cons b s => exact dropWhile_cons_of_neg (by simp [hs b mem_cons_self])
  have hreverse : ∀ b ∈ (hexEncode key).reverse, isAsciiWhitespace b = false := fun b hb =>
    isAsciiWhitespace_of_mem_hexEncode (mem_reverse.mp hb)
  have hnewline : isAsciiWhitespace newline = true := by decide
  unfold trimWhitespaceASCII keyFileContents
  cases hhex : hexEncode key with
  | nil => simp [hnewline]
  | cons b s =>
    have hb : isAsciiWhitespace b = false :=
      isAsciiWhitespace_of_mem_hexEncode (hhex ▸ mem_cons_self : b ∈ hexEncode key)
    rw [cons_append, dropWhile_cons_of_neg (by simp [hb]), ← cons_append,
      reverse_append, reverse_singleton, singleton_append,
      dropWhile_cons_of_pos hnewline, ← hhex, hdigits hreverse, reverse_reverse]

theorem parseKeyHex_hexEncode {key : Bytes} (h : key.length = encryptionKeyBytes) :
    parseKeyHex (keyFileContents key) = some key := by
  unfold parseKeyHex
  dsimp only
  rw [trimWhitespaceASCII_keyFileContents, length_hexEncode, h, if_neg (by simp [Nat.mul_comm]),
    keyFromHex_hexEncode]

lemma length_keyFromHex : ∀ {hex key : Bytes}, keyFromHex hex = some key →
    hex.length = 2 * key.length
  | [], key, h => by
    cases h
    rfl
  | [_], key, h => by
    simp [keyFromHex] at h
  | b₁ :: b₂ :: rest, key, h => by
    unfold keyFromHex at h
    split at h
    · cases h
    · obtain ⟨tail, htail, rfl⟩ := map_eq_some_iff.mp h
      have ih := length_keyFromHex htail
      simp only [length_cons]
      omega

lemma length_parseKeyHex {hex key : Bytes} (h : parseKeyHex hex = some key) :
    key.length = encryptionKeyBytes := by
  unfold parseKeyHex at h
  dsimp only at h
  split at h
  · cases h
  · rename_i hlength
    have := length_keyFromHex h
    omega

/-! ### Profiles that are decrypted again -/

section Primitives

variable {v : VaultPrimitives}

variable {key nonce plaintext text : Bytes}

lemma encryptedText_spec (h : encryptedText v plaintext key nonce = some text) : ∃ authTag data,
      data ++ authTag = v.aeadSeal key nonce plaintext ∧
      v.json.read text = some (encryptedPayload (v.base64Encode nonce) (v.base64Encode authTag)
        (v.base64Encode data)) := by
  unfold encryptedText at h
  dsimp only at h
  split at h
  · cases h
  · exact ⟨_, _, take_append_drop _ _, v.json.read_write _ _ h⟩

lemma looksLikeEncryptedPayload_encryptedPayload (iv authTag data : String) :
    looksLikeEncryptedPayload (encryptedPayload iv authTag data) = true := by
  simp [looksLikeEncryptedPayload, encryptedPayload, JsonDict.findBool, JsonDict.findString]

lemma decryptProfileData_eq (hnonce : nonce.length = nonceBytes)
    (h : encryptedText v plaintext key nonce = some text) (key' : Bytes) :
    decryptProfileData v text key' =
      (v.aeadOpen key' nonce (v.aeadSeal key nonce plaintext)).bind v.json.read := by
  obtain ⟨authTag, data, hsealed, hread⟩ := encryptedText_spec h
  unfold decryptProfileData
  rw [hread]
  simp only [encryptedPayload, JsonDict.findBool, JsonDict.findString, JsonDict.find?_set]
  simp only [String.reduceEq, if_true, if_false, getD_some, Bool.not_true,
    Bool.false_eq_true, v.decode_encode, hnonce, ne_eq, not_true_eq_false, hsealed]
  cases v.aeadOpen key' nonce (v.aeadSeal key nonce plaintext) <;> rfl

/-- The key with which a profile has been encrypted decrypts it. -/
theorem decryptProfileData_encryptedText {profile : JsonDict}
    (hprofile : v.json.write profile = some plaintext) (hkey : key.length = encryptionKeyBytes)
    (hnonce : nonce.length = nonceBytes) (h : encryptedText v plaintext key nonce = some text) :
    decryptProfileData v text key = some profile := by
  rw [decryptProfileData_eq hnonce h, v.open_seal key nonce plaintext hkey hnonce]
  exact v.json.read_write _ _ hprofile

end Primitives

end CefCore.Browser.AuthVault
