/-
  `security/envelope_encryption.rs`: an HMAC secret under a data key (the DEK), and the DEK under a
  master key (the MEK).

  `decrypt_hmac_secret_with_fallback_tracked` tries the current master key and then the previous
  one, and tells in `slot_out` which of them was right. It tells so as soon as the DEK is
  decrypted. An error that comes after that leaves the slot behind, although the comment says that
  `slot_out` is left untouched on error.

  The cipher is an `Aead`. What the Base64 crate says of a text it refuses is a parameter.

  Proved: a call gives back the secret of a record with the right slot, and accepts nothing but an
  encryption under one of its keys; it leaves `slot_out` untouched on error exactly when it does
  not lose the slot to a secret that fails under a DEK that does not (`contract_iff`). For a client
  it gives exactly the secrets that the rotation tool preserves (`decrypt_ofClient`).
-/
import ProviiVerifier.RotatedSecrets

namespace ProviiVerifier

namespace EnvelopeEncryption

open KeyRotation

/-- `RotationSlot`. -/
inductive RotationSlot
  | current
  | previous
  deriving DecidableEq, Repr

/-- The outparam `slot_out`: what the place of the caller holds, if there is one. -/
abbrev SlotOut := Option (Option RotationSlot)

/-- `*out = Some(slot)`, where there is a place. -/
def SlotOut.write (slot : RotationSlot) (slotOut : SlotOut) : SlotOut :=
  slotOut.map fun _ => some slot

/-- `EncryptedSecret`. -/
structure EncryptedSecret where
  encryptedSecret : String
  encryptedDek : String
  version : Nat
  deriving DecidableEq, Repr

/-- `ENCRYPTION_VERSION_V1`. -/
def encryptionVersionV1 : Nat := 1

/-- What the random number generator gives, or its error. -/
abbrev Drawn (n : Nat) := Except String (FixedBytes n)

/-- `generate_random_key` and `generate_random_iv`. -/
def generateRandom {n : Nat} (drawn : Drawn n) : Except ApiError (FixedBytes n) :=
  drawn.mapError fun e => .internal ("Failed to generate random bytes: " ++ e)

/-! ## AES-256-GCM -/

/-- The sizes that both directions check. -/
def checkSizes (key iv : Bytes) : Except ApiError Unit :=
  if key.length ≠ 32 then
    .error (.internal ("Invalid key size: expected 32, got " ++ toString key.length))
  else if iv.length ≠ 12 then
    .error (.internal ("Invalid IV size: expected 12, got " ++ toString iv.length))
  else .ok ()

/-- `aes_256_gcm_encrypt`. -/
def aes256GcmEncrypt (aead : Aead) (key iv plaintext aad : Bytes) : Except ApiError Bytes := do
  checkSizes key iv
  return aead.encrypt key iv aad plaintext

/-- `aes_256_gcm_decrypt`. -/
def aes256GcmDecrypt (aead : Aead) (key iv ciphertext aad : Bytes) : Except ApiError Bytes := do
  checkSizes key iv
  match aead.decrypt key iv aad ciphertext with
  | none => .error (.internal "Decryption failed: authentication tag verification failed")
  | some plaintext => .ok plaintext

/-! ## Envelopes -/

/-- What `encrypt_hmac_secret` draws. -/
structure Draws where
  dek : Drawn 32
  secretIv : Drawn 12
  dekIv : Drawn 12

/-- `encrypt_hmac_secret`. -/
def encryptHmacSecret (aead : Aead) (draws : Draws) (plaintextSecret mek : Bytes) :
    Except ApiError EncryptedSecret := do
  let dek ← generateRandom draws.dek
  let secretIv ← generateRandom draws.secretIv
  let secretCiphertext ← aes256GcmEncrypt aead dek.val secretIv.val plaintextSecret aadHmacSecret
  let dekIv ← generateRandom draws.dekIv
  let dekCiphertext ← aes256GcmEncrypt aead mek dekIv.val dek.val aadDek
  return { encryptedSecret := encode (secretIv.val ++ secretCiphertext)
           encryptedDek := encode (dekIv.val ++ dekCiphertext)
           version := encryptionVersionV1 }

section

variable (aead : Aead) (refusal : String → String)

/-- Decode a blob and split it. `part` is its name in the errors, and `refusal` what the Base64
crate says of a text. -/
def decodeBlob (part text : String) : Except ApiError (Bytes × Bytes) :=
  match decode text with
  | none => .error (.internal ("Invalid encrypted " ++ part ++ " encoding: " ++ refusal text))
  | some blob =>
    if blob.length < 12 + 16 then
      .error (.internal ("Invalid encrypted " ++ part ++ " size: expected at least 28, got " ++
        toString blob.length))
    else .ok (blob.take 12, blob.drop 12)

/-- Decrypt the DEK with the current key, then with the previous one. The error is that of the
current key. -/
def decryptDek (mek : Bytes) (previousMek : Option Bytes) (dekIv dekCiphertext : Bytes) :
    Except ApiError (Bytes × RotationSlot) :=
  match aes256GcmDecrypt aead mek dekIv dekCiphertext aadDek with
  | .ok plaintext => .ok (plaintext, .current)
  | .error primaryErr =>
    match previousMek with
    | none => .error primaryErr
    | some prev =>
      match aes256GcmDecrypt aead prev dekIv dekCiphertext aadDek with
      | .ok plaintext => .ok (plaintext, .previous)
      | .error _ => .error primaryErr

/-- `decrypt_hmac_secret_with_fallback_tracked`: the result, and `slot_out` after the call. -/
def decryptHmacSecretWithFallbackTracked (encrypted : EncryptedSecret) (mek : Bytes)
    (previousMek : Option Bytes) (slotOut : SlotOut) : Except ApiError Bytes × SlotOut :=
  match decodeBlob refusal "DEK" encrypted.encryptedDek with
  | .error e => (.error e, slotOut)
  | .ok (dekIv, dekCiphertext) =>
    match decryptDek aead mek previousMek dekIv dekCiphertext with
    | .error e => (.error e, slotOut)
    | .ok (dek, slotUsed) =>
      -- the slot is written before the secret is looked at
      let slotOut := slotOut.write slotUsed
      match decodeBlob refusal "secret" encrypted.encryptedSecret with
      | .error e => (.error e, slotOut)
      | .ok (secretIv, secretCiphertext) =>
        (aes256GcmDecrypt aead dek secretIv secretCiphertext aadHmacSecret, slotOut)

end

/-! ## What a call is to do -/

/-- The text is an encryption of the plaintext under the key. -/
def IsEncryption (aead : Aead) (key aad plaintext : Bytes) (text : String) : Prop :=
  ∃ (iv : Iv) (ciphertext : Bytes),
    aes256GcmEncrypt aead key iv.val plaintext aad = .ok ciphertext ∧
    text = encode (iv.val ++ ciphertext)

/-- **The contract of a call.** -/
structure Contract (aead : Aead) (refusal : String → String) (encrypted : EncryptedSecret)
    (mek : Bytes) (previousMek : Option Bytes) (slotOut : SlotOut) : Prop where
  /-- A record that was produced under the current key. -/
  current : ∀ draws secret, encryptHmacSecret aead draws secret mek = .ok encrypted →
    decryptHmacSecretWithFallbackTracked aead refusal encrypted mek previousMek slotOut =
      (.ok secret, slotOut.write .current)
  /-- A record that was produced under the other key. -/
  previous : ∀ draws secret old, previousMek = some old → old ≠ mek →
    encryptHmacSecret aead draws secret old = .ok encrypted →
      decryptHmacSecretWithFallbackTracked aead refusal encrypted mek previousMek slotOut =
        (.ok secret, slotOut.write .previous)
  /-- "The outparam is left untouched on error". -/
  untouched : ∀ e after,
    decryptHmacSecretWithFallbackTracked aead refusal encrypted mek previousMek slotOut =
      (.error e, after) → after = slotOut
  genuine : ∀ secret after,
    decryptHmacSecretWithFallbackTracked aead refusal encrypted mek previousMek slotOut =
      (.ok secret, after) →
    ∃ key dek, (key = mek ∨ previousMek = some key) ∧
      IsEncryption aead key aadDek dek encrypted.encryptedDek ∧
      IsEncryption aead dek aadHmacSecret secret encrypted.encryptedSecret

/-- What a text holds under a key. -/
def plaintextOf (aead : Aead) (key aad : Bytes) (text : String) : Option Bytes :=
  (decode text).bind fun blob => aesGcmDecrypt aead key blob aad

/-- The DEK is under the key of a slot; under the previous one, when not under the current one. -/
def DekUnder (aead : Aead) (encryptedDek : String) (mek : Bytes) (previousMek : Option Bytes)
    (dek : Bytes) : RotationSlot → Prop
  | .current => plaintextOf aead mek aadDek encryptedDek = some dek
  | .previous => plaintextOf aead mek aadDek encryptedDek = none ∧
      ∃ old, previousMek = some old ∧ plaintextOf aead old aadDek encryptedDek = some dek

/-- **The slot is lost**: a place holds something else than the slot whose key the DEK is under,
and there is no secret under the DEK. -/
def SlotLost (aead : Aead) (encrypted : EncryptedSecret) (mek : Bytes)
    (previousMek : Option Bytes) (slotOut : SlotOut) : Prop :=
  ∃ held slot dek, slotOut = some held ∧ held ≠ some slot ∧
    DekUnder aead encrypted.encryptedDek mek previousMek dek slot ∧
    plaintextOf aead dek aadHmacSecret encrypted.encryptedSecret = none

variable {aead : Aead} {refusal : String → String} {encrypted : EncryptedSecret}
  {mek key iv ciphertext plaintext aad dek dek' : Bytes} {previousMek : Option Bytes}
  {slotOut : SlotOut} {slot slot' : RotationSlot} {text part : String}

/-! ## Ciphertexts -/

theorem eq_ok_of_toOption {ε α : Type} {r : Except ε α} {a : α} (h : r.toOption = some a) :
    r = .ok a := by
  cases r with
  | error e => cases h
  | ok b =>
    injection h with h
    rw [h]

theorem eq_error_of_toOption {ε α : Type} {r : Except ε α} (h : r.toOption = none) :
    ∃ e, r = .error e := by
  cases r with
  | error e => exact ⟨e, rfl⟩
  | ok b => cases h

theorem checkSizes_ok (hkey : key.length = 32) (hiv : iv.length = 12) :
    checkSizes key iv = .ok () := by
  unfold checkSizes
  rw [if_neg (not_not.mpr hkey), if_neg (not_not.mpr hiv)]

theorem checkSizes_error (hkey : key.length ≠ 32) (iv : Bytes) :
    ∃ e, checkSizes key iv = .error e := by
  unfold checkSizes
  rw [if_pos hkey]
  exact ⟨_, rfl⟩

theorem aes256GcmEncrypt_ok_iff (hiv : iv.length = 12) :
    aes256GcmEncrypt aead key iv plaintext aad = .ok ciphertext ↔
      key.length = 32 ∧ ciphertext = aead.encrypt key iv aad plaintext := by
  unfold aes256GcmEncrypt
  by_cases hkey : key.length = 32
  · rw [checkSizes_ok hkey hiv]
    constructor
    · intro h
      injection h with h
      exact ⟨hkey, h.symm⟩
    · intro h
      rw [h.2]
      rfl
  · obtain ⟨e, he⟩ := checkSizes_error hkey iv
    rw [he]
    constructor
    · intro h
      cases h
    · intro h
      exact absurd h.1 hkey

theorem aes256GcmDecrypt_toOption (hiv : iv.length = 12) :
    (aes256GcmDecrypt aead key iv ciphertext aad).toOption =
      if key.length ≠ 32 then none else aead.decrypt key iv aad ciphertext := by
  unfold aes256GcmDecrypt
  by_cases hkey : key.length = 32
  · rw [checkSizes_ok hkey hiv, if_neg (not_not.mpr hkey)]
    simp only [bind, Except.bind]
    cases aead.decrypt key iv aad ciphertext with
    | none => rfl
    | some plaintext => rfl
  · obtain ⟨e, he⟩ := checkSizes_error hkey iv
    rw [he, if_pos hkey]
    rfl

theorem isEncryption_iff : IsEncryption aead key aad plaintext text ↔
    key.length = 32 ∧ ∃ iv : Iv, text = encode (aead.sealed key iv.val aad plaintext) := by
  constructor
  · intro h
    obtain ⟨iv, ciphertext, hencrypt, htext⟩ := h
    obtain ⟨hkey, hciphertext⟩ := (aes256GcmEncrypt_ok_iff iv.property).mp hencrypt
    refine ⟨hkey, iv, ?_⟩
    rw [htext, hciphertext]
    rfl
  · intro h
    obtain ⟨hkey, iv, htext⟩ := h
    exact ⟨iv, _, (aes256GcmEncrypt_ok_iff iv.property).mpr ⟨hkey, rfl⟩, htext⟩

theorem plaintextOf_of_isEncryption (h : IsEncryption aead key aad plaintext text) :
    plaintextOf aead key aad text = some plaintext := by
  obtain ⟨hkey, iv, htext⟩ := isEncryption_iff.mp h
  unfold plaintextOf
  rw [htext, decode_encode, Option.bind_some, aesGcmDecrypt_eq aead hkey]
  exact Aead.opened_sealed iv.property

theorem encode_of_decode {bytes : Bytes} (h : decode text = some bytes) : encode bytes = text := by
  unfold encode
  rw [Base64Url.encode_of_decode h, String.ofList_toList]

theorem key_of_plaintextOf (h : plaintextOf aead key aad text = some plaintext) :
    key.length = 32 ∧ ∃ blob, decode text = some blob ∧
      aead.opened key aad blob = some plaintext := by
  obtain ⟨blob, hblob, hopen⟩ := Option.bind_eq_some_iff.mp h
  have hkey : key.length = 32 := by
    by_contra hkey
    unfold aesGcmDecrypt at hopen
    rw [if_pos hkey] at hopen
    cases hopen
  rw [aesGcmDecrypt_eq aead hkey] at hopen
  exact ⟨hkey, blob, hblob, hopen⟩

/-- With an exact cipher a text holds what was encrypted, and nothing else. -/
theorem plaintextOf_iff (hexact : aead.Exact) :
    plaintextOf aead key aad text = some plaintext ↔ IsEncryption aead key aad plaintext text := by
  constructor
  · intro h
    obtain ⟨hkey, blob, hblob, hopen⟩ := key_of_plaintextOf h
    obtain ⟨iv, hiv, hsealed⟩ := (Aead.opened_iff hexact).mp hopen
    refine isEncryption_iff.mpr ⟨hkey, ⟨iv, hiv⟩, ?_⟩
    rw [← encode_of_decode hblob, hsealed]
  · exact plaintextOf_of_isEncryption

/-- A text is under one key. -/
theorem plaintextOf_none {other : Bytes} (h : plaintextOf aead key aad text = some plaintext)
    (hne : key ≠ other) : plaintextOf aead other aad text = none := by
  cases hother : plaintextOf aead other aad text with
  | none => rfl
  | some found =>
    obtain ⟨-, blob, hblob, hopen⟩ := key_of_plaintextOf h
    obtain ⟨-, blob', hblob', hopen'⟩ := key_of_plaintextOf hother
    rw [hblob, Option.some.injEq] at hblob'
    rw [← hblob'] at hopen'
    exact absurd (Aead.opened_unique hopen hopen').1 (Ne.symm hne)

/-! ## A call -/

/-- A text that is refused holds nothing; otherwise it is decrypted to what it holds. -/
theorem decodeBlob_cases (aead : Aead) (refusal : String → String) (part text : String) :
    (∃ e, decodeBlob refusal part text = .error e ∧
      ∀ key aad, plaintextOf aead key aad text = none) ∨
    ∃ iv ciphertext, decodeBlob refusal part text = .ok (iv, ciphertext) ∧
      ∀ key aad, (aes256GcmDecrypt aead key iv ciphertext aad).toOption =
        plaintextOf aead key aad text := by
  unfold decodeBlob plaintextOf
  cases decode text with
  | none => exact .inl ⟨_, rfl, fun _ _ => rfl⟩
  | some blob =>
    dsimp only
    by_cases hlen : blob.length < 12 + 16
    · rw [if_pos hlen]
      refine .inl ⟨_, rfl, fun key aad => ?_⟩
      rw [Option.bind_some]
      unfold aesGcmDecrypt
      rw [if_pos hlen, ite_self]
    · rw [if_neg hlen]
      refine .inr ⟨_, _, rfl, fun key aad => ?_⟩
      have hiv : (blob.take 12).length = 12 := by
        rw [List.length_take]
        omega
      rw [aes256GcmDecrypt_toOption hiv, Option.bind_some]
      unfold aesGcmDecrypt
      rw [if_neg hlen]

/-- The DEK is decrypted when it is under a key, and then the slot is that of the key. -/
theorem decryptDek_cases (h : ∀ key aad, (aes256GcmDecrypt aead key iv ciphertext aad).toOption =
    plaintextOf aead key aad text) (mek : Bytes) (previousMek : Option Bytes) :
    (∃ e, decryptDek aead mek previousMek iv ciphertext = .error e ∧
      ∀ slot dek, ¬ DekUnder aead text mek previousMek dek slot) ∨
    ∃ slot dek, decryptDek aead mek previousMek iv ciphertext = .ok (dek, slot) ∧
      DekUnder aead text mek previousMek dek slot := by
  unfold decryptDek
  cases hcurrent : plaintextOf aead mek aadDek text with
  | some dek =>
    rw [eq_ok_of_toOption ((h mek aadDek).trans hcurrent)]
    exact .inr ⟨.current, dek, rfl, hcurrent⟩
  | none =>
    obtain ⟨e, he⟩ := eq_error_of_toOption ((h mek aadDek).trans hcurrent)
    rw [he]
    dsimp only
    have hnot : ∀ dek, ¬ DekUnder aead text mek previousMek dek .current := by
      intro dek hunder
      exact absurd (hcurrent.symm.trans hunder) (by simp)
    cases previousMek with
    | none =>
      refine .inl ⟨e, rfl, fun slot dek hunder => ?_⟩
      cases slot with
      | current => exact hnot dek hunder
      | previous =>
        obtain ⟨-, old, hold, -⟩ := hunder
        cases hold
    | some prev =>
      dsimp only
      cases hprevious : plaintextOf aead prev aadDek text with
      | some dek =>
        rw [eq_ok_of_toOption ((h prev aadDek).trans hprevious)]
        exact .inr ⟨.previous, dek, rfl, hcurrent, prev, rfl, hprevious⟩
      | none =>
        obtain ⟨e', he'⟩ := eq_error_of_toOption ((h prev aadDek).trans hprevious)
        rw [he']
        refine .inl ⟨e, rfl, fun slot dek hunder => ?_⟩
        cases slot with
        | current => exact hnot dek hunder
        | previous =>
          obtain ⟨-, old, hold, hdek⟩ := hunder
          injection hold with hold
          rw [← hold, hprevious] at hdek
          cases hdek

/-- **What a call can do**: fail at the DEK with the slot untouched, fail at the secret with the
slot written, or give the secret. -/
theorem decrypt_cases (aead : Aead) (refusal : String → String) (encrypted : EncryptedSecret)
    (mek : Bytes) (previousMek : Option Bytes) (slotOut : SlotOut) :
    (∃ e, decryptHmacSecretWithFallbackTracked aead refusal encrypted mek previousMek slotOut =
        (.error e, slotOut) ∧
      ∀ slot dek, ¬ DekUnder aead encrypted.encryptedDek mek previousMek dek slot) ∨
    ∃ slot dek, DekUnder aead encrypted.encryptedDek mek previousMek dek slot ∧
      ((∃ e, decryptHmacSecretWithFallbackTracked aead refusal encrypted mek previousMek slotOut =
          (.error e, slotOut.write slot) ∧
        plaintextOf aead dek aadHmacSecret encrypted.encryptedSecret = none) ∨
      ∃ secret, decryptHmacSecretWithFallbackTracked aead refusal encrypted mek previousMek
          slotOut = (.ok secret, slotOut.write slot) ∧
        plaintextOf aead dek aadHmacSecret encrypted.encryptedSecret = some secret) := by
  unfold decryptHmacSecretWithFallbackTracked
  obtain ⟨e, he, hnone⟩ | ⟨iv, ciphertext, hblob, hplain⟩ :=
    decodeBlob_cases aead refusal "DEK" encrypted.encryptedDek
  · rw [he]
    refine .inl ⟨e, rfl, fun slot dek hunder => ?_⟩
    cases slot with
    | current => exact absurd ((hnone mek aadDek).symm.trans hunder) (by simp)
    | previous =>
      obtain ⟨-, old, -, hdek⟩ := hunder
      exact absurd ((hnone old aadDek).symm.trans hdek) (by simp)
  · rw [hblob]
    dsimp only
    obtain ⟨e, he, hnot⟩ | ⟨slot, dek, hdek, hunder⟩ := decryptDek_cases hplain mek previousMek
    · rw [he]
      exact .inl ⟨e, rfl, hnot⟩
    · rw [hdek]
      dsimp only
      refine .inr ⟨slot, dek, hunder, ?_⟩
      obtain ⟨e, he, hnone⟩ | ⟨iv', ciphertext', hblob', hplain'⟩ :=
        decodeBlob_cases aead refusal "secret" encrypted.encryptedSecret
      · rw [he]
        exact .inl ⟨e, rfl, hnone dek aadHmacSecret⟩
      · rw [hblob']
        dsimp only
        cases hsecret : plaintextOf aead dek aadHmacSecret encrypted.encryptedSecret with
        | none =>
          obtain ⟨e, he⟩ := eq_error_of_toOption ((hplain' dek aadHmacSecret).trans hsecret)
          rw [he]
          exact .inl ⟨e, rfl, rfl⟩
        | some secret =>
          rw [eq_ok_of_toOption ((hplain' dek aadHmacSecret).trans hsecret)]
          exact .inr ⟨secret, rfl, rfl⟩

theorem dekUnder_unique (h : DekUnder aead text mek previousMek dek slot)
    (h' : DekUnder aead text mek previousMek dek' slot') : slot' = slot ∧ dek' = dek := by
  cases slot with
  | current =>
    cases slot' with
    | current => exact ⟨rfl, Option.some.inj (h'.symm.trans h)⟩
    | previous => exact absurd (h'.1.symm.trans h) (by simp)
  | previous =>
    cases slot' with
    | current => exact absurd (h.1.symm.trans h') (by simp)
    | previous =>
      obtain ⟨-, old, hold, hdek⟩ := h
      obtain ⟨-, old', hold', hdek'⟩ := h'
      rw [hold, Option.some.injEq] at hold'
      rw [← hold', hdek, Option.some.injEq] at hdek'
      exact ⟨rfl, hdek'.symm⟩

/-- A call gives the secret that is under the DEK, when the DEK is under a key. -/
theorem decrypt_eq (hunder : DekUnder aead encrypted.encryptedDek mek previousMek dek slot)
    (hsecret : plaintextOf aead dek aadHmacSecret encrypted.encryptedSecret = some plaintext)
    (refusal : String → String) (slotOut : SlotOut) :
    decryptHmacSecretWithFallbackTracked aead refusal encrypted mek previousMek slotOut =
      (.ok plaintext, slotOut.write slot) := by
  obtain ⟨e, -, hnot⟩ | ⟨slot', dek', hunder', hend⟩ :=
    decrypt_cases aead refusal encrypted mek previousMek slotOut
  · exact absurd hunder (hnot slot dek)
  · obtain ⟨hslot, hdek⟩ := dekUnder_unique hunder hunder'
    rw [hslot, hdek, hsecret] at hend
    obtain ⟨e, -, hnone⟩ | ⟨secret, hdecrypt, hsome⟩ := hend
    · cases hnone
    · injection hsome with hsome
      rw [hdecrypt, ← hsome]

/-- The container that authentication builds for a client. -/
def EncryptedSecret.ofClient (client : KeyRotation.ClientAuthConfig) : EncryptedSecret :=
  { encryptedSecret := client.encryptedHmacSecret
    encryptedDek := client.dekEncrypted
    version := client.encryptionVersion }

theorem dek_eq (client : KeyRotation.ClientAuthConfig) (mek : Mek) :
    client.dek aead mek =
      plaintextOf aead mek.val aadDek (EncryptedSecret.ofClient client).encryptedDek := rfl

theorem secretUnder_eq (client : KeyRotation.ClientAuthConfig) (dek : Bytes) :
    client.secretUnder aead dek =
      plaintextOf aead dek aadHmacSecret (EncryptedSecret.ofClient client).encryptedSecret := rfl

/-- **What authentication decrypts** is what a client's secret is under the two keys to the
rotation tool. -/
theorem decrypt_ofClient (client : KeyRotation.ClientAuthConfig) (old new : Mek) (secret : Bytes) :
    (decryptHmacSecretWithFallbackTracked aead refusal (.ofClient client) new.val (some old.val)
        slotOut).1 = .ok secret ↔
      UnderSet (client.secret aead) old new secret := by
  constructor
  · intro h
    obtain ⟨e, hdecrypt, -⟩ | ⟨slot, dek, hunder, hend⟩ :=
      decrypt_cases aead refusal (.ofClient client) new.val (some old.val) slotOut
    · rw [hdecrypt] at h
      cases h
    · obtain ⟨e, hdecrypt, -⟩ | ⟨secret', hdecrypt, hsecret⟩ := hend
      · rw [hdecrypt] at h
        cases h
      · rw [hdecrypt, Except.ok.injEq] at h
        rw [h] at hsecret
        cases slot with
        | current =>
          exact ⟨new, List.mem_cons_self, Option.bind_eq_some_iff.mpr ⟨dek, hunder, hsecret⟩⟩
        | previous =>
          obtain ⟨-, bytes, hbytes, hdek⟩ := hunder
          injection hbytes with hbytes
          rw [← hbytes] at hdek
          exact ⟨old, List.mem_cons_of_mem _ List.mem_cons_self,
            Option.bind_eq_some_iff.mpr ⟨dek, hdek, hsecret⟩⟩
  · intro h
    obtain ⟨mek, hmem, hsecret⟩ := h
    obtain ⟨dek, hdek, hplain⟩ := Option.bind_eq_some_iff.mp hsecret
    rw [dek_eq] at hdek
    rw [secretUnder_eq] at hplain
    have hslot : ∃ slot, DekUnder aead (EncryptedSecret.ofClient client).encryptedDek new.val
        (some old.val) dek slot := by
      by_cases hnew : mek = new
      · rw [hnew] at hdek
        exact ⟨.current, hdek⟩
      · have hold : mek = old := by
          rcases List.mem_cons.mp hmem with heq | hmem
          · exact absurd heq hnew
          · exact List.mem_singleton.mp hmem
        have hne : mek.val ≠ new.val := fun heq => hnew (Subtype.ext heq)
        have hnone := plaintextOf_none hdek hne
        rw [hold] at hdek
        exact ⟨.previous, hnone, old.val, rfl, hdek⟩
    obtain ⟨slot, hunder⟩ := hslot
    have hdecrypt : decryptHmacSecretWithFallbackTracked aead refusal (.ofClient client) new.val
        (some old.val) slotOut = (.ok secret, slotOut.write slot) :=
      decrypt_eq hunder hplain refusal slotOut
    rw [hdecrypt]

/-- A record is made of two encryptions. -/
theorem encryptHmacSecret_ok {draws : Draws}
    (h : encryptHmacSecret aead draws plaintext mek = .ok encrypted) :
    ∃ dek, IsEncryption aead mek aadDek dek encrypted.encryptedDek ∧
      IsEncryption aead dek aadHmacSecret plaintext encrypted.encryptedSecret := by
  unfold encryptHmacSecret at h
  obtain ⟨dek, -, h⟩ := except_bind_ok h
  obtain ⟨secretIv, -, h⟩ := except_bind_ok h
  obtain ⟨secretCiphertext, hsecret, h⟩ := except_bind_ok h
  obtain ⟨dekIv, -, h⟩ := except_bind_ok h
  obtain ⟨dekCiphertext, hdek, h⟩ := except_bind_ok h
  injection h with h
  rw [← h]
  exact ⟨dek.val, ⟨dekIv, dekCiphertext, hdek, rfl⟩, ⟨secretIv, secretCiphertext, hsecret, rfl⟩⟩

/-- **Decryption with a tracked slot**: a call meets its contract exactly when it does not lose the
slot. -/
theorem contract_iff (aead : Aead) (hexact : aead.Exact) (refusal : String → String)
    (encrypted : EncryptedSecret) (mek : Bytes) (previousMek : Option Bytes) (slotOut : SlotOut) :
    Contract aead refusal encrypted mek previousMek slotOut ↔
      ¬ SlotLost aead encrypted mek previousMek slotOut := by
  have hcases := decrypt_cases aead refusal encrypted mek previousMek slotOut
  constructor
  · intro hcontract hlost
    obtain ⟨held, slot, dek, hplace, hheld, hunder, hnone⟩ := hlost
    obtain ⟨e, -, hnot⟩ | ⟨slot', dek', hunder', hend⟩ := hcases
    · exact hnot slot dek hunder
    · obtain ⟨hslot, hdek⟩ := dekUnder_unique hunder hunder'
      rw [hslot, hdek, hnone] at hend
      obtain ⟨e, hdecrypt, -⟩ | ⟨secret, -, hsome⟩ := hend
      · have hafter := hcontract.untouched e _ hdecrypt
        rw [hplace] at hafter
        injection hafter with hafter
        exact hheld hafter.symm
      · cases hsome
  · intro hkept
    refine ⟨?_, ?_, ?_, ?_⟩
    · intro draws secret hencrypt
      obtain ⟨dek, hdek, hsecret⟩ := encryptHmacSecret_ok hencrypt
      have hunder : DekUnder aead encrypted.encryptedDek mek previousMek dek .current :=
        plaintextOf_of_isEncryption hdek
      exact decrypt_eq hunder (plaintextOf_of_isEncryption hsecret) refusal slotOut
    · intro draws secret old hold hne hencrypt
      obtain ⟨dek, hdek, hsecret⟩ := encryptHmacSecret_ok hencrypt
      have hplain := plaintextOf_of_isEncryption hdek
      have hunder : DekUnder aead encrypted.encryptedDek mek previousMek dek .previous :=
        ⟨plaintextOf_none hplain hne, old, hold, hplain⟩
      exact decrypt_eq hunder (plaintextOf_of_isEncryption hsecret) refusal slotOut
    · intro e after h
      obtain ⟨e', hdecrypt, -⟩ | ⟨slot, dek, hunder, hend⟩ := hcases
      · rw [hdecrypt, Prod.mk.injEq] at h
        exact h.2.symm
      · obtain ⟨e', hdecrypt, hnone⟩ | ⟨secret, hdecrypt, -⟩ := hend
        · rw [hdecrypt, Prod.mk.injEq] at h
          rw [← h.2]
          -- the slot was written, and was there before
          cases hplace : slotOut with
          | none => rfl
          | some held =>
            have hheld : held = some slot := by
              by_contra hheld
              exact hkept ⟨held, slot, dek, hplace, hheld, hunder, hnone⟩
            rw [hheld]
            rfl
        · rw [hdecrypt, Prod.mk.injEq] at h
          cases h.1
    · intro secret after h
      obtain ⟨e, hdecrypt, -⟩ | ⟨slot, dek, hunder, hend⟩ := hcases
      · rw [hdecrypt, Prod.mk.injEq] at h
        cases h.1
      · obtain ⟨e, hdecrypt, -⟩ | ⟨secret', hdecrypt, hsome⟩ := hend
        · rw [hdecrypt, Prod.mk.injEq] at h
          cases h.1
        · rw [hdecrypt, Prod.mk.injEq, Except.ok.injEq] at h
          rw [h.1] at hsome
          have hsecret := (plaintextOf_iff hexact).mp hsome
          cases slot with
          | current => exact ⟨mek, dek, .inl rfl, (plaintextOf_iff hexact).mp hunder, hsecret⟩
          | previous =>
            obtain ⟨-, old, hold, hdek⟩ := hunder
            exact ⟨old, dek, .inr hold, (plaintextOf_iff hexact).mp hdek, hsecret⟩

/-! ## A record with a damaged secret -/

/-- The DEK of a record under the first key. -/
def sampleEncryptedDek : String := encode (sampleBlob (sampleMek 1).val sampleDek aadDek)

/-- A record as it was produced. -/
def sampleRecord : EncryptedSecret :=
  { encryptedSecret := encode (sampleBlob sampleDek (utf8Bytes "secret") aadHmacSecret)
    encryptedDek := sampleEncryptedDek
    version := 1 }

/-- The record without its secret. -/
def damagedRecord : EncryptedSecret := { sampleRecord with encryptedSecret := "" }

theorem plaintextOf_sampleBlob (hkey : key.length = 32) (plaintext aad : Bytes) :
    plaintextOf Aead.labelled key aad (encode (sampleBlob key plaintext aad)) =
      some plaintext := by
  unfold plaintextOf
  rw [decode_encode, Option.bind_some]
  exact decrypt_sampleBlob hkey plaintext aad

theorem sampleEncryptedDek_under : DekUnder Aead.labelled sampleEncryptedDek (sampleMek 1).val
    none sampleDek .current :=
  plaintextOf_sampleBlob (sampleMek 1).property _ _

/-- **The slot of a record without its secret** is left behind with the error. -/
theorem slot_left_behind : ¬ ∀ (encrypted : EncryptedSecret) (mek : Bytes)
    (previousMek : Option Bytes) (slotOut : SlotOut),
    Contract Aead.labelled (fun _ => "") encrypted mek previousMek slotOut := by
  intro h
  have hnone : plaintextOf Aead.labelled sampleDek aadHmacSecret "" = none := by decide
  have hcall : ∃ e, decryptHmacSecretWithFallbackTracked Aead.labelled (fun _ => "") damagedRecord
      (sampleMek 1).val none (some none) = (.error e, some (some .current)) := by
    obtain ⟨e, -, hnot⟩ | ⟨slot, dek, hunder, hend⟩ := decrypt_cases Aead.labelled (fun _ => "")
      damagedRecord (sampleMek 1).val none (some none)
    · exact absurd sampleEncryptedDek_under (hnot .current sampleDek)
    · obtain ⟨hslot, hdek⟩ := dekUnder_unique sampleEncryptedDek_under hunder
      obtain ⟨e, he, -⟩ | ⟨secret, -, hsome⟩ := hend
      · rw [hslot] at he
        exact ⟨e, he⟩
      · rw [hdek] at hsome
        exact absurd (hnone.symm.trans hsome) (by simp)
  obtain ⟨e, he⟩ := hcall
  have hafter := (h damagedRecord (sampleMek 1).val none (some none)).untouched e _ he
  exact absurd hafter (by decide)

/-- The record as it was produced. -/
theorem contract_iff_sample : Contract Aead.labelled (fun _ => "") sampleRecord (sampleMek 1).val
    (some (sampleMek 2).val) (some none) := by
  refine (contract_iff Aead.labelled Aead.labelled_exact (fun _ => "") sampleRecord
    (sampleMek 1).val (some (sampleMek 2).val) (some none)).mpr ?_
  intro hlost
  obtain ⟨held, slot, dek, -, -, hunder, hnone⟩ := hlost
  have hcurrent : DekUnder Aead.labelled sampleRecord.encryptedDek (sampleMek 1).val
      (some (sampleMek 2).val) sampleDek .current :=
    plaintextOf_sampleBlob (sampleMek 1).property _ _
  have hsecret : plaintextOf Aead.labelled sampleDek aadHmacSecret sampleRecord.encryptedSecret =
      some (utf8Bytes "secret") := plaintextOf_sampleBlob List.length_replicate _ _
  rw [(dekUnder_unique hcurrent hunder).2, hsecret] at hnone
  cases hnone

end EnvelopeEncryption

end ProviiVerifier
