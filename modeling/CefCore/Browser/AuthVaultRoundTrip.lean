import CefCore.Browser.AuthVault
import Mathlib.Logic.Encodable.Basic
import Mathlib.Logic.Equiv.List

/-!
# The envelope of a profile

`EncryptProfileData` splits what AES-GCM returns into the data and the tag and writes both, with the
nonce, into a dictionary, the envelope of the profile. `DecryptProfileData` reads the envelope and
puts the parts together again.

## Main results

* `encryptProfileData_readProfileDict`: a profile that has been encrypted is read again.

## Implementation notes

* The nonce is drawn by `crypto::RandBytes`. In the model its bytes are part of the state of the
  system, so that a statement about every state is one about every nonce.
-/

namespace CefCore.Browser.AuthVault

open List Option Script FileOp

section Primitives

variable (v : VaultPrimitives)

/-- `base::JSONWriter` writes every dictionary of a number, a boolean and strings. -/
def WritesPayloads : Prop :=
  ∀ iv authTag data, ∃ text, v.json.write (encryptedPayload iv authTag data) = some text

/-- The input is an envelope, no field is missing, and the first one is as long as a nonce is. -/
def Complete (input : Bytes) : Prop :=
  ∃ payload iv nonce, v.json.read input = some payload ∧
    payload.findBool "encrypted" = some true ∧ (payload.findString "authTag").isSome ∧
    (payload.findString "data").isSome ∧ payload.findString "iv" = some iv ∧
    v.base64Decode iv = some nonce ∧ nonce.length = nonceBytes

variable {v}

/-! ### Encryption -/

lemma encryptedText_isSome (hwrites : WritesPayloads v) {key : Bytes}
    (hkey : key.length = encryptionKeyBytes) (plaintext : Bytes) {nonce : Bytes}
    (hnonce : nonce.length = nonceBytes) :
    ∃ text, encryptedText v plaintext key nonce = some text := by
  have hlength := v.authTagBytes_le key nonce plaintext hkey hnonce
  unfold encryptedText
  rw [if_neg (Nat.not_lt.mpr hlength)]
  exact hwrites _ _ _

lemma exec_encryptProfileData (hwrites : WritesPayloads v) {key : Bytes}
    (hkey : key.length = encryptionKeyBytes) (plaintext : Bytes) (w : FileWorld) :
    ∃ nonce text, nonce.length = nonceBytes ∧ encryptedText v plaintext key nonce = some text ∧
      (exec run (encryptProfileData v plaintext key) w).1 = some text := by
  have hnonce : ((List.range nonceBytes).map w.answer.random).length = nonceBytes := by
    rw [length_map, length_range]
  obtain ⟨text, htext⟩ := encryptedText_isSome hwrites hkey plaintext hnonce
  exact ⟨_, text, hnonce, htext, htext⟩

/-! ### Decryption -/

lemma exec_profileFromInput {input : Bytes} {payload : JsonDict}
    (hread : v.json.read input = some payload) (hlooks : looksLikeEncryptedPayload payload = true)
    (keyPath : String) (w : FileWorld) :
    (exec run (profileFromInput v keyPath input) w).1 =
      (exec run (ensureEncryptionKey keyPath) w).1.bind (decryptProfileData v input) := by
  unfold profileFromInput
  rw [hread]
  dsimp only
  rw [if_pos hlooks, exec_bind]
  cases (exec run (ensureEncryptionKey keyPath) w).1 <;> rfl

lemma exec_readProfileDict {input : Bytes} {payload : JsonDict}
    (hread : v.json.read input = some payload) (hlooks : looksLikeEncryptedPayload payload = true)
    {path : String} (keyPath : String) {w : FileWorld} (hfile : w.files path = some input)
    (hok : w.answer.ok = true) :
    (exec run (readProfileDict v path keyPath) w).1 =
      (exec run (ensureEncryptionKey keyPath) w.next).1.bind (decryptProfileData v input) := by
  have hrun : (readFile path).run w = (some input, w.next) := by
    simp [run, hok, hfile]
  unfold readProfileDict FileScript.readFileToString
  rw [perform_bind, exec_call, hrun]
  exact exec_profileFromInput hread hlooks keyPath w.next

lemma decryptProfileData_eq_none {input : Bytes} (h : ¬ Complete v input) (key : Bytes) :
    decryptProfileData v input key = none := by
  unfold decryptProfileData
  -- each branch that goes on has found one more field of a complete input
  cases hread : v.json.read input with
  | none => rfl
  | some payload =>
    dsimp only
    split
    · rfl
    · rename_i hencrypted
      split
      · rename_i iv authTag data hiv hauthTag hdata
        split
        · rename_i nonce _ _ hnonce _ _
          split
          · rfl
          · rename_i hlength
            refine absurd ⟨payload, iv, nonce, hread, ?_, ?_, ?_, hiv, hnonce, ?_⟩ h
            · cases hbool : payload.findBool "encrypted" with
              | none => simp [hbool] at hencrypted
              | some b => simpa [hbool] using hencrypted
            · rw [hauthTag, isSome_some]
            · rw [hdata, isSome_some]
            · simpa using hlength
        · rfl
      · rfl

/-! ### There and back -/

/-- **The way there and back.** A profile that the JSON writer can write is encrypted with every
nonce; the key decrypts it; the text looks encrypted, so that a file with it is decrypted with the
key of the vault. From an input with a field missing, or with no nonce in its first field, nothing is
read. -/
theorem encryptProfileData_readProfileDict (v : VaultPrimitives) (hwrites : WritesPayloads v) :
    (∀ profile plaintext key, v.json.write profile = some plaintext →
      key.length = encryptionKeyBytes → ∀ w : FileWorld, ∃ text payload,
        (exec run (encryptProfileData v plaintext key) w).1 = some text ∧
        decryptProfileData v text key = some profile ∧
        v.json.read text = some payload ∧ looksLikeEncryptedPayload payload = true ∧
        ∀ path keyPath (w' : FileWorld), w'.files path = some text → w'.answer.ok = true →
          (exec run (readProfileDict v path keyPath) w').1 =
            (exec run (ensureEncryptionKey keyPath) w'.next).1.bind
              (decryptProfileData v text)) ∧
      ∀ input, ¬ Complete v input → (∀ key, decryptProfileData v input key = none) ∧
        ∀ payload, v.json.read input = some payload → looksLikeEncryptedPayload payload = true →
          ∀ path keyPath (w : FileWorld), w.files path = some input → w.answer.ok = true →
            (exec run (readProfileDict v path keyPath) w).1 = none := by
  constructor
  · intro profile plaintext key hprofile hkey w
    obtain ⟨nonce, text, hnonce, htext, hexec⟩ := exec_encryptProfileData hwrites hkey plaintext w
    obtain ⟨authTag, data, -, hread⟩ := encryptedText_spec htext
    have hlooks := looksLikeEncryptedPayload_encryptedPayload (v.base64Encode nonce)
      (v.base64Encode authTag) (v.base64Encode data)
    refine ⟨text, _, hexec, ?_, hread, hlooks, ?_⟩
    · exact decryptProfileData_encryptedText hprofile hkey hnonce htext
    · intro path keyPath w' hfile hok
      exact exec_readProfileDict hread hlooks keyPath hfile hok
  · intro input hinput
    refine ⟨decryptProfileData_eq_none hinput, fun payload hread hlooks path keyPath w hfile hok => ?_⟩
    rw [exec_readProfileDict hread hlooks keyPath hfile hok]
    cases (exec run (ensureEncryptionKey keyPath) w.next).1 with
    | none => rfl
    | some key => exact decryptProfileData_eq_none hinput key

end Primitives

/-! ### Primitives that write every envelope -/

def payloadFields (d : JsonDict) : Option (String × String × String) :=
  match d.findString "iv", d.findString "authTag", d.findString "data" with
  | some iv, some authTag, some data =>
    if d = encryptedPayload iv authTag data then some (iv, authTag, data) else none
  | _, _, _ => none

lemma payloadFields_encryptedPayload (iv authTag data : String) :
    payloadFields (encryptedPayload iv authTag data) = some (iv, authTag, data) := by
  have hiv : (encryptedPayload iv authTag data).findString "iv" = some iv := by
    simp [encryptedPayload, JsonDict.findString]
  have hauthTag : (encryptedPayload iv authTag data).findString "authTag" = some authTag := by
    simp [encryptedPayload, JsonDict.findString]
  have hdata : (encryptedPayload iv authTag data).findString "data" = some data := by
    simp [encryptedPayload, JsonDict.findString]
  unfold payloadFields
  rw [hiv, hauthTag, hdata]
  exact if_pos rfl

lemma eq_encryptedPayload_of_payloadFields {d : JsonDict} {fields : String × String × String}
    (h : payloadFields d = some fields) : d = encryptedPayload fields.1 fields.2.1 fields.2.2 := by
  unfold payloadFields at h
  split at h
  · split at h
    · rename_i heq
      cases h
      exact heq
    · cases h
  · cases h

instance instEncodableChar : Encodable Char := .ofLeftInverse Char.toNat Char.ofNat Char.ofNat_toNat

instance instEncodableString : Encodable String :=
  .ofLeftInverse String.toList String.ofList fun _ => String.ofList_toList

/-- Texts for all envelopes. Each starts with an exclamation mark, which no text in JSON does. -/
def payloadText : JsonText where
  write d := (payloadFields d).map fun fields =>
    33 :: List.replicate (Encodable.encode fields) (1 : UInt8)
  read text :=
    if text.head? = some 33 then
      (Encodable.decode (α := String × String × String) text.tail.length).map fun fields =>
        encryptedPayload fields.1 fields.2.1 fields.2.2
    else none
  read_write d text hwrite := by
    obtain ⟨fields, hfields, rfl⟩ := map_eq_some_iff.mp hwrite
    rw [if_pos head?_cons, tail_cons, length_replicate, Encodable.encodek,
      map_some, ← eq_encryptedPayload_of_payloadFields hfields]

lemma samplePrimitives_read_eq_none {d : JsonDict} {text : Bytes}
    (h : payloadText.write d = some text) : samplePrimitives.json.read text = none := by
  obtain ⟨fields, -, rfl⟩ := map_eq_some_iff.mp h
  have hhead : ∀ p ∈ (SampleSeal.tables [sampleA0, sampleB0, sampleB1]).texts,
      p.2.head? ≠ some 33 := by decide +kernel
  show ((SampleSeal.tables [sampleA0, sampleB0, sampleB1]).texts.find? fun p =>
    p.2 = 33 :: List.replicate (Encodable.encode fields) 1).map (·.1) = none
  refine map_eq_none_iff.mpr (find?_eq_none.mpr fun p hp heq => hhead p hp ?_)
  rw [of_decide_eq_true heq, head?_cons]

def writingPrimitives : VaultPrimitives :=
  { samplePrimitives with
    json := samplePrimitives.json.orElse payloadText fun _ _ h => samplePrimitives_read_eq_none h }

lemma writingPrimitives_writesPayloads : WritesPayloads writingPrimitives := by
  intro iv authTag data
  have hpayload : (payloadText.write (encryptedPayload iv authTag data)).isSome := by
    show ((payloadFields (encryptedPayload iv authTag data)).map _).isSome = true
    rw [payloadFields_encryptedPayload, map_some, isSome_some]
  exact JsonText.orElse_write_of_isSome (fun _ _ h => samplePrimitives_read_eq_none h) hpayload

/-- The profile `a` is encrypted in a new vault. -/
theorem encryptProfileData_readProfileDict_sampleA0 : ∃ text,
    (exec run (encryptProfileData writingPrimitives sampleA0.plaintext sampleA0.key)
      { files := fun _ => none, directories := [], environment := fun _ => none,
        answers := fun _ => {} }).1 = some text ∧
      decryptProfileData writingPrimitives text sampleA0.key = some sampleA0.profile := by
  have hprofile : writingPrimitives.json.write sampleA0.profile = some sampleA0.plaintext := by
    decide +kernel
  obtain ⟨text, -, hexec, hdecrypt, -⟩ :=
    (encryptProfileData_readProfileDict writingPrimitives writingPrimitives_writesPayloads).1
      sampleA0.profile sampleA0.plaintext sampleA0.key hprofile (by decide)
      { files := fun _ => none, directories := [], environment := fun _ => none,
        answers := fun _ => {} }
  exact ⟨text, hexec, hdecrypt⟩

end CefCore.Browser.AuthVault
