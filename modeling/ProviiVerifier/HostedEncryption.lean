/-
  `hosted/encryption.rs`: fields of hosted sessions under the hosted master key.

  A field is the Base64 text of an IV of 12 bytes, a ciphertext and a tag of 16. A PKCE code
  verifier is decrypted with `HOSTED_MEK` and then with `HOSTED_MEK_PREVIOUS`, both read from the
  Secrets Store once and then kept by the isolate. `slot_out` is written only where the verifier is
  returned.

  The cipher is an `Aead`, and what the Base64 crate says of a text it refuses is a parameter. The
  Secrets Store answers as it likes.

  Proved: a field decrypts exactly when it is an encryption under the same key and associated data,
  no other key length is accepted, and a call tells the slot of the key that was right and nothing
  on error (`fieldEncryption_sound`). Whatever becomes of the Secrets Store, all that an isolate
  returns to calls that do not overlap is under the two keys that it holds in the end (`run_reads`).
-/
import ProviiVerifier.EnvelopeEncryption
import ProviiVerifier.HostedKeys

namespace ProviiVerifier

namespace HostedEncryption

open KeyRotation EnvelopeEncryption

/-- `EncryptionError`. -/
inductive EncryptionError
  | invalidKey (message : String)
  | encryptionFailed (message : String)
  | decryptionFailed (message : String)
  | secretsStoreFailed (message : String)
  | invalidFormat (message : String)
  deriving DecidableEq, Repr

/-- `CODE_VERIFIER_AAD`. -/
def codeVerifierAad : Bytes := utf8Bytes "provii-verifier:code_verifier:v1"

/-! ## Fields -/

/-- The error of a key of another length. -/
def wrongKeyLength (mek : Bytes) : EncryptionError :=
  .invalidKey ("MEK must be 32 bytes, got " ++ toString mek.length)

/-- `encrypt_with_mek`, with the IV it draws. -/
def encryptWithMek (aead : Aead) (drawn : Drawn 12) (mek : Bytes) (plaintext : String)
    (aad : Bytes) : Except EncryptionError String :=
  if mek.length ≠ 32 then .error (wrongKeyLength mek)
  else
    match drawn with
    | .error e => .error (.encryptionFailed ("CSPRNG IV generation failed: " ++ e))
    | .ok iv => .ok (encode (iv.val ++ aead.encrypt mek iv.val aad (utf8Bytes plaintext)))

section

variable (aead : Aead) (refusal : String → String)

/-- `decrypt_with_mek`. -/
def decryptWithMek (mek : Bytes) (encryptedB64 : String) (aad : Bytes) :
    Except EncryptionError String :=
  if mek.length ≠ 32 then .error (wrongKeyLength mek)
  else
    match decode encryptedB64 with
    | none => .error (.invalidFormat ("Invalid base64url encoding: " ++ refusal encryptedB64))
    | some encryptedData =>
      if encryptedData.length < 28 then
        .error (.invalidFormat ("Encrypted data too short: " ++ toString encryptedData.length ++
          " bytes (minimum 28)"))
      else
        match aead.decrypt mek (encryptedData.take 12) aad (encryptedData.drop 12) with
        | none => .error (.decryptionFailed "AES-GCM decryption failed: aead::Error")
        | some plaintextBytes =>
          match HostedKeys.fromUtf8 plaintextBytes with
          | none => .error (.decryptionFailed "Invalid UTF-8 in decrypted data")
          | some plaintext => .ok plaintext

/-! ## The keys of an isolate -/

/-- A secret: what the store answers to each attempt, or the error of the binding. -/
abbrev Secret := Except String (Nat → Except String (Option String))

/-- The secrets that the hosted flow reads. -/
structure Env where
  hostedMek : Secret
  hostedMekPrevious : Secret

/-- `HOSTED_MEK_CACHE` and `HOSTED_MEK_PREVIOUS_CACHE`. -/
structure KeyCaches where
  mek : Option Mek
  previous : Option Mek

/-- `get_with_retry`: the first of three answers that is no error, or the last. -/
def getWithRetry (get : Nat → Except String (Option String)) : Except String (Option String) :=
  match get 1 with
  | .ok value => .ok value
  | .error _ =>
    match get 2 with
    | .ok value => .ok value
    | .error _ => get 3

/-- The key in what the Secrets Store answers for `HOSTED_MEK`. -/
def readMek : Except String (Option String) → Except EncryptionError Mek
  | .error e => .error (.secretsStoreFailed ("Failed to get HOSTED_MEK from Secrets Store: " ++ e))
  | .ok none => .error (.secretsStoreFailed "HOSTED_MEK secret not found in Secrets Store")
  | .ok (some mekB64) =>
    match decode mekB64 with
    | none => .error (.secretsStoreFailed ("Invalid MEK encoding: " ++ refusal mekB64))
    | some bytes =>
      if h : bytes.length = 32 then .ok ⟨bytes, h⟩
      else .error (.secretsStoreFailed ("MEK must be 32 bytes, got " ++ toString bytes.length))

/-- The error of a binding of `HOSTED_MEK`. -/
def mekUnbound (e : String) : EncryptionError :=
  .secretsStoreFailed ("HOSTED_MEK binding not configured: " ++ e)

/-- Read `HOSTED_MEK` from the Secrets Store. -/
def fetchMek (env : Env) : Except EncryptionError Mek :=
  match env.hostedMek with
  | .error e => .error (mekUnbound e)
  | .ok get => readMek refusal (getWithRetry get)

/-- `get_mek_from_secrets`: the key, and the caches after it. -/
def getMekFromSecrets (env : Env) (caches : KeyCaches) : Except EncryptionError Mek × KeyCaches :=
  match caches.mek with
  | some mek => (.ok mek, caches)
  | none =>
    match fetchMek refusal env with
    | .error e => (.error e, caches)
    | .ok mek => (.ok mek, { caches with mek := some mek })

/-- The key in what the Secrets Store answers for `HOSTED_MEK_PREVIOUS`. -/
def readMekSecondary : Except String (Option String) → Option Mek
  | .ok (some mekB64) => decodeMek mekB64
  | _ => none

/-- Read `HOSTED_MEK_PREVIOUS` from the Secrets Store. -/
def fetchMekSecondary (env : Env) : Option Mek :=
  match env.hostedMekPrevious with
  | .error _ => none
  | .ok get => readMekSecondary (getWithRetry get)

/-- `get_mek_secondary_from_secrets`. -/
def getMekSecondaryFromSecrets (env : Env) (caches : KeyCaches) : Option Mek × KeyCaches :=
  match caches.previous with
  | some mek => (some mek, caches)
  | none =>
    match fetchMekSecondary env with
    | none => (none, caches)
    | some mek => (some mek, { caches with previous := some mek })

/-! ## Code verifiers -/

/-- What a call leaves: its result, `slot_out` and the caches. -/
structure Call where
  result : Except EncryptionError String
  slotOut : SlotOut
  caches : KeyCaches

/-- `decrypt_code_verifier_tracked`. -/
def decryptCodeVerifierTracked (env : Env) (caches : KeyCaches) (encryptedB64 : String)
    (slotOut : SlotOut) : Call :=
  match getMekFromSecrets refusal env caches with
  | (.error e, caches) => ⟨.error e, slotOut, caches⟩
  | (.ok mek, caches) =>
    match decryptWithMek aead refusal mek.val encryptedB64 codeVerifierAad with
    | .ok plaintext => ⟨.ok plaintext, slotOut.write .current, caches⟩
    | .error _ =>
      match getMekSecondaryFromSecrets env caches with
      | (none, caches) =>
        ⟨.error (.decryptionFailed "Primary decryption failed and no secondary MEK available"),
          slotOut, caches⟩
      | (some secondaryMek, caches) =>
        match decryptWithMek aead refusal secondaryMek.val encryptedB64 codeVerifierAad with
        | .error _ =>
          ⟨.error (.decryptionFailed "Both primary and secondary MEK decryption failed"),
            slotOut, caches⟩
        | .ok plaintext => ⟨.ok plaintext, slotOut.write .previous, caches⟩

end

/-! ## What the hosted flow relies on -/

section

variable (refusal : String → String)

/-- The key that a call begins with. -/
def primaryMek (env : Env) (caches : KeyCaches) : Except EncryptionError Mek :=
  match caches.mek with
  | some mek => .ok mek
  | none => fetchMek refusal env

/-- The key that a call falls back to. -/
def secondaryMek (env : Env) (caches : KeyCaches) : Option Mek :=
  match caches.previous with
  | some mek => some mek
  | none => fetchMekSecondary env

/-- The key of a slot reads a verifier; the previous one, when the current one does not. -/
def ReadBy (aead : Aead) (env : Env) (caches : KeyCaches) (encryptedB64 plaintext : String) :
    RotationSlot → Prop
  | .current => ∃ mek, primaryMek refusal env caches = .ok mek ∧
      decryptWithMek aead refusal mek.val encryptedB64 codeVerifierAad = .ok plaintext
  | .previous => ∃ mek err old, primaryMek refusal env caches = .ok mek ∧
      decryptWithMek aead refusal mek.val encryptedB64 codeVerifierAad = .error err ∧
      secondaryMek env caches = some old ∧
      decryptWithMek aead refusal old.val encryptedB64 codeVerifierAad = .ok plaintext

end

/-- **Field encryption**, as the hosted flow relies on it. -/
structure Sound (aead : Aead) (refusal : String → String) : Prop where
  roundTrip : ∀ (iv : Iv) mek plaintext aad, mek.length = 32 →
    ∃ encryptedB64, encryptWithMek aead (.ok iv) mek plaintext aad = .ok encryptedB64 ∧
      decryptWithMek aead refusal mek encryptedB64 aad = .ok plaintext
  genuine : ∀ mek encryptedB64 aad plaintext,
    decryptWithMek aead refusal mek encryptedB64 aad = .ok plaintext →
    ∃ iv : Iv, encryptWithMek aead (.ok iv) mek plaintext aad = .ok encryptedB64
  /-- An encryption is under one key and one set of associated data. -/
  exactly : ∀ (iv : Iv) mek mek' plaintext plaintext' aad aad' encryptedB64,
    encryptWithMek aead (.ok iv) mek plaintext aad = .ok encryptedB64 →
    decryptWithMek aead refusal mek' encryptedB64 aad' = .ok plaintext' →
    mek' = mek ∧ aad' = aad ∧ plaintext' = plaintext
  keyLength : ∀ mek, mek.length ≠ 32 →
    (∀ drawn plaintext aad, ∃ err, encryptWithMek aead drawn mek plaintext aad = .error err) ∧
    ∀ encryptedB64 aad, ∃ err, decryptWithMek aead refusal mek encryptedB64 aad = .error err
  /-- A call returns a verifier, and its slot, when the key of the slot reads it. -/
  reported : ∀ env caches encryptedB64 slotOut plaintext after,
    ((decryptCodeVerifierTracked aead refusal env caches encryptedB64 slotOut).result =
        .ok plaintext ∧
      (decryptCodeVerifierTracked aead refusal env caches encryptedB64 slotOut).slotOut = after) ↔
    ∃ slot, ReadBy refusal aead env caches encryptedB64 plaintext slot ∧
      after = slotOut.write slot
  untouched : ∀ env caches encryptedB64 slotOut err,
    (decryptCodeVerifierTracked aead refusal env caches encryptedB64 slotOut).result =
        .error err →
      (decryptCodeVerifierTracked aead refusal env caches encryptedB64 slotOut).slotOut = slotOut

variable {aead : Aead} {refusal : String → String} {env : Env} {caches : KeyCaches}
  {mek mek' aad aad' : Bytes} {iv : Iv} {encryptedB64 plaintext plaintext' : String}
  {slotOut : SlotOut} {slot : RotationSlot}

/-! ## Fields -/

/-- A field is decrypted to the text that it holds. -/
theorem decryptWithMek_toOption : (decryptWithMek aead refusal mek encryptedB64 aad).toOption =
    (plaintextOf aead mek aad encryptedB64).bind HostedKeys.fromUtf8 := by
  unfold decryptWithMek plaintextOf aesGcmDecrypt
  by_cases hkey : mek.length = 32
  · rw [if_neg (not_not.mpr hkey)]
    cases decode encryptedB64 with
    | none => rfl
    | some data =>
      dsimp only
      rw [Option.bind_some, if_neg (not_not.mpr hkey)]
      by_cases hlen : data.length < 28
      · rw [if_pos hlen, if_pos hlen]
        rfl
      · rw [if_neg hlen, if_neg hlen]
        cases aead.decrypt mek (data.take 12) aad (data.drop 12) with
        | none => rfl
        | some bytes =>
          dsimp only
          rw [Option.bind_some]
          cases HostedKeys.fromUtf8 bytes with
          | none => rfl
          | some text => rfl
  · rw [if_pos hkey]
    cases decode encryptedB64 with
    | none => rfl
    | some data =>
      rw [Option.bind_some, if_pos hkey]
      rfl

theorem decryptWithMek_ok_iff : decryptWithMek aead refusal mek encryptedB64 aad = .ok plaintext ↔
    plaintextOf aead mek aad encryptedB64 = some (utf8Bytes plaintext) := by
  have hread : (decryptWithMek aead refusal mek encryptedB64 aad).toOption =
      (plaintextOf aead mek aad encryptedB64).bind HostedKeys.fromUtf8 := decryptWithMek_toOption
  constructor
  · intro h
    rw [h] at hread
    obtain ⟨bytes, hbytes, htext⟩ := Option.bind_eq_some_iff.mp hread.symm
    rw [hbytes, HostedKeys.utf8Bytes_of_fromUtf8 htext]
  · intro h
    rw [h, Option.bind_some, HostedKeys.fromUtf8_utf8Bytes] at hread
    exact eq_ok_of_toOption hread

theorem encryptWithMek_ok_iff : encryptWithMek aead (.ok iv) mek plaintext aad = .ok encryptedB64 ↔
    mek.length = 32 ∧ encryptedB64 = encode (aead.sealed mek iv.val aad (utf8Bytes plaintext)) := by
  unfold encryptWithMek
  by_cases hkey : mek.length = 32
  · rw [if_neg (not_not.mpr hkey)]
    constructor
    · intro h
      injection h with h
      exact ⟨hkey, h.symm⟩
    · intro h
      rw [h.2]
      rfl
  · rw [if_pos hkey]
    constructor
    · intro h
      cases h
    · intro h
      exact absurd h.1 hkey

theorem isEncryption_of_encryptWithMek
    (h : encryptWithMek aead (.ok iv) mek plaintext aad = .ok encryptedB64) :
    IsEncryption aead mek aad (utf8Bytes plaintext) encryptedB64 := by
  obtain ⟨hkey, htext⟩ := encryptWithMek_ok_iff.mp h
  exact isEncryption_iff.mpr ⟨hkey, iv, htext⟩

theorem utf8Bytes_inj (h : utf8Bytes plaintext = utf8Bytes plaintext') :
    plaintext = plaintext' := by
  have hsome := HostedKeys.fromUtf8_utf8Bytes plaintext
  rw [h, HostedKeys.fromUtf8_utf8Bytes, Option.some.injEq] at hsome
  exact hsome.symm

/-- An encryption decrypts under its own key and associated data only. -/
theorem decryptWithMek_unique
    (h : encryptWithMek aead (.ok iv) mek plaintext aad = .ok encryptedB64)
    (h' : decryptWithMek aead refusal mek' encryptedB64 aad' = .ok plaintext') :
    mek' = mek ∧ aad' = aad ∧ plaintext' = plaintext := by
  have hplain : plaintextOf aead mek aad encryptedB64 = some (utf8Bytes plaintext) :=
    plaintextOf_of_isEncryption (isEncryption_of_encryptWithMek h)
  have hplain' := decryptWithMek_ok_iff.mp h'
  obtain ⟨-, blob, hblob, hopen⟩ := key_of_plaintextOf hplain
  obtain ⟨-, blob', hblob', hopen'⟩ := key_of_plaintextOf hplain'
  rw [hblob, Option.some.injEq] at hblob'
  rw [← hblob'] at hopen'
  obtain ⟨hkey, haad⟩ := Aead.opened_unique hopen hopen'
  refine ⟨hkey, haad, ?_⟩
  rw [hkey, haad, hplain, Option.some.injEq] at hplain'
  exact utf8Bytes_inj hplain'.symm

/-- Lookups of hosted keys decrypt with the same function. -/
theorem decryptWithMek_eq_lookup (mek : Mek) :
    (decryptWithMek aead refusal mek.val encryptedB64 aad).toOption =
      HostedKeys.decryptWithMek aead mek encryptedB64 aad := by
  rw [decryptWithMek_toOption]
  unfold plaintextOf aesGcmDecrypt HostedKeys.decryptWithMek
  cases decode encryptedB64 with
  | none => rfl
  | some data =>
    dsimp only
    rw [Option.bind_some, if_neg (not_not.mpr mek.property)]
    split <;> rfl

/-! ## A call -/

theorem getMekFromSecrets_ok {mek : Mek} (h : primaryMek refusal env caches = .ok mek) :
    getMekFromSecrets refusal env caches = (.ok mek, { caches with mek := some mek }) := by
  unfold getMekFromSecrets
  unfold primaryMek at h
  cases hmek : caches.mek with
  | some held =>
    rw [hmek, Except.ok.injEq] at h
    dsimp only
    rw [h] at hmek ⊢
    rw [← hmek]
  | none =>
    rw [hmek] at h
    dsimp only at h ⊢
    rw [h]

theorem getMekFromSecrets_error {e : EncryptionError}
    (h : primaryMek refusal env caches = .error e) :
    getMekFromSecrets refusal env caches = (.error e, caches) := by
  unfold getMekFromSecrets
  unfold primaryMek at h
  cases hmek : caches.mek with
  | some held =>
    rw [hmek] at h
    cases h
  | none =>
    rw [hmek] at h
    dsimp only at h ⊢
    rw [h]

theorem getMekSecondaryFromSecrets_some {old : Mek} (h : secondaryMek env caches = some old)
    (mek : Option Mek) : getMekSecondaryFromSecrets env { caches with mek := mek } =
      (some old, { mek := mek, previous := some old }) := by
  unfold getMekSecondaryFromSecrets
  unfold secondaryMek at h
  dsimp only
  cases hprevious : caches.previous with
  | some held =>
    rw [hprevious, Option.some.injEq] at h
    rw [h]
  | none =>
    rw [hprevious] at h
    dsimp only at h ⊢
    rw [h]

theorem getMekSecondaryFromSecrets_none (h : secondaryMek env caches = none)
    (mek : Option Mek) : getMekSecondaryFromSecrets env { caches with mek := mek } =
      (none, { caches with mek := mek }) := by
  unfold getMekSecondaryFromSecrets
  unfold secondaryMek at h
  dsimp only
  cases hprevious : caches.previous with
  | some held =>
    rw [hprevious] at h
    cases h
  | none =>
    rw [hprevious] at h
    dsimp only at h ⊢
    rw [h]

/-- **How a call ends**: what it returns, what `slot_out` and the caches then hold, and why. -/
inductive Ends (aead : Aead) (refusal : String → String) (env : Env) (caches : KeyCaches)
    (encryptedB64 : String) (slotOut : SlotOut) : Call → Prop
  | unfetched (e : EncryptionError) (hprimary : primaryMek refusal env caches = .error e) :
    Ends aead refusal env caches encryptedB64 slotOut ⟨.error e, slotOut, caches⟩
  | current (mek : Mek) (plaintext : String) (hprimary : primaryMek refusal env caches = .ok mek)
      (hread : decryptWithMek aead refusal mek.val encryptedB64 codeVerifierAad = .ok plaintext) :
    Ends aead refusal env caches encryptedB64 slotOut
      ⟨.ok plaintext, slotOut.write .current, { caches with mek := some mek }⟩
  | alone (mek : Mek) (err e : EncryptionError)
      (hprimary : primaryMek refusal env caches = .ok mek)
      (hfail : decryptWithMek aead refusal mek.val encryptedB64 codeVerifierAad = .error err)
      (hold : secondaryMek env caches = none) :
    Ends aead refusal env caches encryptedB64 slotOut
      ⟨.error e, slotOut, { caches with mek := some mek }⟩
  | previous (mek old : Mek) (err : EncryptionError) (plaintext : String)
      (hprimary : primaryMek refusal env caches = .ok mek)
      (hfail : decryptWithMek aead refusal mek.val encryptedB64 codeVerifierAad = .error err)
      (hold : secondaryMek env caches = some old)
      (hread : decryptWithMek aead refusal old.val encryptedB64 codeVerifierAad = .ok plaintext) :
    Ends aead refusal env caches encryptedB64 slotOut
      ⟨.ok plaintext, slotOut.write .previous, { mek := some mek, previous := some old }⟩
  | neither (mek old : Mek) (err err' e : EncryptionError)
      (hprimary : primaryMek refusal env caches = .ok mek)
      (hfail : decryptWithMek aead refusal mek.val encryptedB64 codeVerifierAad = .error err)
      (hold : secondaryMek env caches = some old)
      (hfallback : decryptWithMek aead refusal old.val encryptedB64 codeVerifierAad =
        .error err') :
    Ends aead refusal env caches encryptedB64 slotOut
      ⟨.error e, slotOut, { mek := some mek, previous := some old }⟩

theorem call_ends (aead : Aead) (refusal : String → String) (env : Env) (caches : KeyCaches)
    (encryptedB64 : String) (slotOut : SlotOut) :
    Ends aead refusal env caches encryptedB64 slotOut
      (decryptCodeVerifierTracked aead refusal env caches encryptedB64 slotOut) := by
  unfold decryptCodeVerifierTracked
  cases hprimary : primaryMek refusal env caches with
  | error e =>
    rw [getMekFromSecrets_error hprimary]
    exact .unfetched e hprimary
  | ok mek =>
    rw [getMekFromSecrets_ok hprimary]
    dsimp only
    cases hread : decryptWithMek aead refusal mek.val encryptedB64 codeVerifierAad with
    | ok plaintext => exact .current mek plaintext hprimary hread
    | error err =>
      dsimp only
      cases hold : secondaryMek env caches with
      | none =>
        rw [getMekSecondaryFromSecrets_none hold]
        exact .alone mek err _ hprimary hread hold
      | some old =>
        rw [getMekSecondaryFromSecrets_some hold]
        dsimp only
        cases hfallback : decryptWithMek aead refusal old.val encryptedB64 codeVerifierAad with
        | ok plaintext => exact .previous mek old err plaintext hprimary hread hold hfallback
        | error err' => exact .neither mek old err err' _ hprimary hread hold hfallback

/-- A call returns the verifier that the key of a slot reads. -/
theorem call_of_readBy (h : ReadBy refusal aead env caches encryptedB64 plaintext slot)
    (slotOut : SlotOut) :
    (decryptCodeVerifierTracked aead refusal env caches encryptedB64 slotOut).result =
        .ok plaintext ∧
      (decryptCodeVerifierTracked aead refusal env caches encryptedB64 slotOut).slotOut =
        slotOut.write slot := by
  unfold decryptCodeVerifierTracked
  cases slot with
  | current =>
    obtain ⟨mek, hmek, hread⟩ := h
    rw [getMekFromSecrets_ok hmek]
    dsimp only
    rw [hread]
    exact ⟨rfl, rfl⟩
  | previous =>
    obtain ⟨mek, err, old, hmek, hfail, hold, hread⟩ := h
    rw [getMekFromSecrets_ok hmek]
    dsimp only
    rw [hfail]
    dsimp only
    rw [getMekSecondaryFromSecrets_some hold]
    dsimp only
    rw [hread]
    exact ⟨rfl, rfl⟩

/-- **Field encryption is sound**, with an exact cipher. -/
theorem fieldEncryption_sound (aead : Aead) (hexact : aead.Exact) (refusal : String → String) :
    Sound aead refusal where
  roundTrip := by
    intro iv mek plaintext aad hkey
    have hencrypt : encryptWithMek aead (.ok iv) mek plaintext aad =
        .ok (encode (aead.sealed mek iv.val aad (utf8Bytes plaintext))) :=
      encryptWithMek_ok_iff.mpr ⟨hkey, rfl⟩
    refine ⟨_, hencrypt, decryptWithMek_ok_iff.mpr ?_⟩
    exact plaintextOf_of_isEncryption (isEncryption_of_encryptWithMek hencrypt)
  genuine := by
    intro mek encryptedB64 aad plaintext h
    have hplain := decryptWithMek_ok_iff.mp h
    obtain ⟨hkey, iv, htext⟩ := isEncryption_iff.mp ((plaintextOf_iff hexact).mp hplain)
    exact ⟨iv, encryptWithMek_ok_iff.mpr ⟨hkey, htext⟩⟩
  exactly := by
    intro iv mek mek' plaintext plaintext' aad aad' encryptedB64 h h'
    exact decryptWithMek_unique h h'
  keyLength := by
    intro mek hkey
    constructor
    · intro drawn plaintext aad
      unfold encryptWithMek
      rw [if_pos hkey]
      exact ⟨_, rfl⟩
    · intro encryptedB64 aad
      unfold decryptWithMek
      rw [if_pos hkey]
      exact ⟨_, rfl⟩
  reported := by
    intro env caches encryptedB64 slotOut plaintext after
    constructor
    · intro h
      have hends := call_ends aead refusal env caches encryptedB64 slotOut
      generalize decryptCodeVerifierTracked aead refusal env caches encryptedB64 slotOut = call
        at h hends
      obtain ⟨hresult, hafter⟩ := h
      cases hends with
      | unfetched => cases hresult
      | current mek found hprimary hread =>
        injection hresult with hresult
        rw [hresult] at hread
        exact ⟨.current, ⟨mek, hprimary, hread⟩, hafter.symm⟩
      | alone => cases hresult
      | previous mek old err found hprimary hfail hold hread =>
        injection hresult with hresult
        rw [hresult] at hread
        exact ⟨.previous, ⟨mek, err, old, hprimary, hfail, hold, hread⟩, hafter.symm⟩
      | neither => cases hresult
    · intro h
      obtain ⟨slot, hread, hafter⟩ := h
      rw [hafter]
      exact call_of_readBy hread slotOut
  untouched := by
    intro env caches encryptedB64 slotOut err h
    have hends := call_ends aead refusal env caches encryptedB64 slotOut
    generalize decryptCodeVerifierTracked aead refusal env caches encryptedB64 slotOut = call
      at h hends ⊢
    cases hends with
    | unfetched => rfl
    | current => cases h
    | alone => rfl
    | previous => cases h
    | neither => rfl

/-! ## A verifier from before a rotation -/

/-- A code verifier under the first key. -/
def sampleField : String :=
  encode (sampleBlob (sampleMek 1).val (utf8Bytes "verifier") codeVerifierAad)

/-- A worker whose Secrets Store is gone. -/
def unboundEnv : Env := { hostedMek := .error "unbound", hostedMekPrevious := .error "unbound" }

/-- It is decrypted with the previous key, and reported so. -/
theorem fieldEncryption_sound_rotated :
    (decryptCodeVerifierTracked Aead.labelled (fun _ => "") unboundEnv
        ⟨some (sampleMek 2), some (sampleMek 1)⟩ sampleField (some none)).result =
      .ok "verifier" ∧
    (decryptCodeVerifierTracked Aead.labelled (fun _ => "") unboundEnv
        ⟨some (sampleMek 2), some (sampleMek 1)⟩ sampleField (some none)).slotOut =
      some (some .previous) := by
  have hplain : plaintextOf Aead.labelled (sampleMek 1).val codeVerifierAad sampleField =
      some (utf8Bytes "verifier") := plaintextOf_sampleBlob (sampleMek 1).property _ _
  have hne : (sampleMek 1).val ≠ (sampleMek 2).val := by decide
  have hfail : ∃ err, decryptWithMek Aead.labelled (fun _ => "") (sampleMek 2).val sampleField
      codeVerifierAad = .error err := by
    apply eq_error_of_toOption
    rw [decryptWithMek_toOption, plaintextOf_none hplain hne]
    rfl
  obtain ⟨err, hfail⟩ := hfail
  have hread : decryptWithMek Aead.labelled (fun _ => "") (sampleMek 1).val sampleField
      codeVerifierAad = .ok "verifier" := decryptWithMek_ok_iff.mpr hplain
  exact ((fieldEncryption_sound Aead.labelled Aead.labelled_exact fun _ => "").reported unboundEnv
    ⟨some (sampleMek 2), some (sampleMek 1)⟩ sampleField (some none) "verifier"
    (some (some .previous))).mpr
    ⟨.previous, ⟨sampleMek 2, err, sampleMek 1, rfl, hfail, rfl, hread⟩, rfl⟩

/-! ## Runs of an isolate -/

/-- The calls of `decrypt_code_verifier` in an isolate: what was asked and returned, and the caches
in the end. -/
def run (aead : Aead) (refusal : String → String) (caches : KeyCaches) :
    List (Env × String) → List (String × Except EncryptionError String) × KeyCaches
  | [] => ([], caches)
  | (env, encryptedB64) :: rest =>
    let call := decryptCodeVerifierTracked aead refusal env caches encryptedB64 none
    let later := run aead refusal call.caches rest
    ((encryptedB64, call.result) :: later.1, later.2)

/-- Keys that are held stay. -/
structure Kept (caches caches' : KeyCaches) : Prop where
  mek : ∀ mek, caches.mek = some mek → caches'.mek = some mek
  previous : ∀ mek, caches.previous = some mek → caches'.previous = some mek

theorem Kept.refl (caches : KeyCaches) : Kept caches caches := ⟨fun _ h => h, fun _ h => h⟩

theorem Kept.trans {a b c : KeyCaches} (h : Kept a b) (h' : Kept b c) : Kept a c :=
  ⟨fun mek hmek => h'.mek mek (h.mek mek hmek),
    fun mek hmek => h'.previous mek (h.previous mek hmek)⟩

theorem primaryMek_held {mek held : Mek} (hprimary : primaryMek refusal env caches = .ok mek)
    (hheld : caches.mek = some held) : held = mek := by
  unfold primaryMek at hprimary
  rw [hheld] at hprimary
  injection hprimary

theorem secondaryMek_held {mek held : Mek} (hold : secondaryMek env caches = some mek)
    (hheld : caches.previous = some held) : held = mek := by
  unfold secondaryMek at hold
  rw [hheld] at hold
  injection hold

/-- One of the two keys reads a verifier. -/
def HeldReads (aead : Aead) (refusal : String → String) (caches : KeyCaches)
    (encryptedB64 plaintext : String) : Prop :=
  ∃ mek : Mek, (caches.mek = some mek ∨ caches.previous = some mek) ∧
    decryptWithMek aead refusal mek.val encryptedB64 codeVerifierAad = .ok plaintext

theorem HeldReads.mono {caches' : KeyCaches}
    (h : HeldReads aead refusal caches encryptedB64 plaintext) (hkept : Kept caches caches') :
    HeldReads aead refusal caches' encryptedB64 plaintext := by
  obtain ⟨mek, hheld, hread⟩ := h
  refine ⟨mek, ?_, hread⟩
  rcases hheld with hheld | hheld
  · exact .inl (hkept.mek mek hheld)
  · exact .inr (hkept.previous mek hheld)

/-- **Step**: a call keeps the keys, and returns what one of them reads. -/
theorem call_keeps (aead : Aead) (refusal : String → String) (env : Env) (caches : KeyCaches)
    (encryptedB64 : String) (slotOut : SlotOut) :
    Kept caches
        (decryptCodeVerifierTracked aead refusal env caches encryptedB64 slotOut).caches ∧
      ∀ plaintext,
        (decryptCodeVerifierTracked aead refusal env caches encryptedB64 slotOut).result =
          .ok plaintext →
        HeldReads aead refusal
          (decryptCodeVerifierTracked aead refusal env caches encryptedB64 slotOut).caches
          encryptedB64 plaintext := by
  have hends := call_ends aead refusal env caches encryptedB64 slotOut
  generalize decryptCodeVerifierTracked aead refusal env caches encryptedB64 slotOut = call
    at hends ⊢
  cases hends with
  | unfetched e hprimary =>
    refine ⟨Kept.refl caches, fun plaintext h => ?_⟩
    cases h
  | current mek found hprimary hread =>
    refine ⟨⟨fun held hheld => ?_, fun _ h => h⟩, fun plaintext h => ?_⟩
    · rw [primaryMek_held hprimary hheld]
    · injection h with h
      rw [h] at hread
      exact ⟨mek, .inl rfl, hread⟩
  | alone mek err e hprimary hfail hold =>
    refine ⟨⟨fun held hheld => ?_, fun _ h => h⟩, fun plaintext h => ?_⟩
    · rw [primaryMek_held hprimary hheld]
    · cases h
  | previous mek old err found hprimary hfail hold hread =>
    refine ⟨⟨fun held hheld => ?_, fun held hheld => ?_⟩, fun plaintext h => ?_⟩
    · rw [primaryMek_held hprimary hheld]
    · rw [secondaryMek_held hold hheld]
    · injection h with h
      rw [h] at hread
      exact ⟨old, .inr rfl, hread⟩
  | neither mek old err err' e hprimary hfail hold hfallback =>
    refine ⟨⟨fun held hheld => ?_, fun held hheld => ?_⟩, fun plaintext h => ?_⟩
    · rw [primaryMek_held hprimary hheld]
    · rw [secondaryMek_held hold hheld]
    · cases h

theorem run_keeps (caches : KeyCaches) (calls : List (Env × String)) :
    Kept caches (run aead refusal caches calls).2 := by
  induction calls generalizing caches with
  | nil => exact Kept.refl caches
  | cons c rest ih => exact (call_keeps aead refusal c.1 caches c.2 none).1.trans (ih _)

/-- **Run**: all that an isolate returns is under the keys that it holds in the end. -/
theorem run_reads (caches : KeyCaches) (calls : List (Env × String))
    {encryptedB64 plaintext : String}
    (h : (encryptedB64, .ok plaintext) ∈ (run aead refusal caches calls).1) :
    HeldReads aead refusal (run aead refusal caches calls).2 encryptedB64 plaintext := by
  induction calls generalizing caches with
  | nil => cases h
  | cons c rest ih =>
    rcases List.mem_cons.mp h with heq | hmem
    · rw [Prod.mk.injEq] at heq
      have hread := (call_keeps aead refusal c.1 caches c.2 none).2 plaintext heq.2.symm
      rw [heq.1]
      exact hread.mono (run_keeps _ rest)
    · exact ih _ hmem

end HostedEncryption

end ProviiVerifier
