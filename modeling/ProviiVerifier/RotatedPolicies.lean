/-
  What one turn of `rotate-mek` does to a policy and its secrets.

  A secret is what a client's ciphertext decrypts to under its data key, and that under a master
  key. It is read from the stored value, not from what the tool makes of it.

  Proved: a policy that is written has the fields and clients it had, and each secret decrypts to
  the same plaintext under the two keys (`visitPolicy_preserved`). Without an error all of them are
  under the new key (`underNew_of_write`, `underNew_of_keep`), and then the policy is not written
  again (`visitPolicy_settled`).
-/
import Mathlib.Data.List.Forall2
import ProviiVerifier.KeyRotation

namespace ProviiVerifier

namespace KeyRotation

variable {aead : Aead} {old new mek mek' : Mek} {iv : Iv}

/-! ## The cipher -/

theorem decode_encode (bytes : Bytes) : decode (encode bytes) = some bytes := by
  unfold decode encode
  rw [String.toList_ofList]
  exact Base64Url.decode_encode bytes

theorem decodeMek_encode (mek : Mek) : decodeMek (encode mek.val) = some mek := by
  unfold decodeMek
  rw [decode_encode]
  exact dif_pos mek.property

/-- The tool opens blobs with a key of the right size. -/
theorem aesGcmDecrypt_eq (aead : Aead) {key : Bytes} (hkey : key.length = 32) (blob aad : Bytes) :
    aesGcmDecrypt aead key blob aad = aead.opened key aad blob := by
  unfold aesGcmDecrypt
  rw [if_neg (not_not.mpr hkey)]
  rfl

/-- What the tool encrypts it can decrypt. -/
theorem aesGcmDecrypt_encrypt {key plaintext aad blob : Bytes}
    (h : aesGcmEncrypt aead iv key plaintext aad = some blob) :
    aesGcmDecrypt aead key blob aad = some plaintext := by
  unfold aesGcmEncrypt at h
  split at h
  · cases h
  · next hkey =>
    rw [Option.some.injEq] at h
    rw [aesGcmDecrypt_eq aead (not_not.mp hkey), ← h]
    exact Aead.opened_sealed iv.property

/-- **One blob is under one key.** -/
theorem aesGcmDecrypt_unique {blob aad plaintext plaintext' : Bytes}
    (h : aesGcmDecrypt aead mek.val blob aad = some plaintext)
    (h' : aesGcmDecrypt aead mek'.val blob aad = some plaintext') : mek' = mek := by
  rw [aesGcmDecrypt_eq aead mek.property] at h
  rw [aesGcmDecrypt_eq aead mek'.property] at h'
  exact Subtype.ext (Aead.opened_unique h h').1

/-! ## Secrets -/

/-- The data key of a client under a master key. -/
def ClientAuthConfig.dek (aead : Aead) (mek : Mek) (c : ClientAuthConfig) : Option Bytes :=
  (decode c.dekEncrypted).bind fun blob => aesGcmDecrypt aead mek.val blob aadDek

/-- The HMAC secret of a client under a data key. -/
def ClientAuthConfig.secretUnder (aead : Aead) (dek : Bytes) (c : ClientAuthConfig) :
    Option Bytes :=
  (decode c.encryptedHmacSecret).bind fun blob => aesGcmDecrypt aead dek blob aadHmacSecret

/-- The HMAC secret of a client under a master key. -/
def ClientAuthConfig.secret (aead : Aead) (mek : Mek) (c : ClientAuthConfig) : Option Bytes :=
  (c.dek aead mek).bind fun dek => c.secretUnder aead dek

/-- The HMAC secret that a stored client holds, whatever else it is. -/
def clientSecret (aead : Aead) (mek : Mek) (client : Json) : Option Bytes := do
  let dekEncrypted ← client.stringField "dek_encrypted"
  let encryptedHmacSecret ← client.stringField "encrypted_hmac_secret"
  let dekBlob ← decode dekEncrypted
  let dek ← aesGcmDecrypt aead mek.val dekBlob aadDek
  let secretBlob ← decode encryptedHmacSecret
  aesGcmDecrypt aead dek secretBlob aadHmacSecret

/-- The clients of a stored policy. -/
def Text.clients (text : Text) : List Json :=
  match text.field "clients" with
  | some (.array items) => items
  | _ => []

/-- Decrypted to a plaintext by one of the two keys. -/
def UnderSet (secret : Mek → Option Bytes) (old new : Mek) (plaintext : Bytes) : Prop :=
  ∃ mek ∈ [new, old], secret mek = some plaintext

/-- What a client keeps: its fields, and its secret under the two keys. -/
structure ClientPreserved (aead : Aead) (old new : Mek) (before after : Json) : Prop where
  fields : ∀ name, name ≠ "dek_encrypted" → name ≠ "encryption_version" →
    after.field name = before.field name
  version : readVersion after = readVersion before
  secret : ∀ plaintext, UnderSet (clientSecret aead · after) old new plaintext ↔
    UnderSet (clientSecret aead · before) old new plaintext

/-- What a policy keeps: its fields, and its clients in their order. -/
structure PolicyPreserved (aead : Aead) (old new : Mek) (before after : Text) : Prop where
  fields : ∀ name, name ≠ "clients" → after.field name = before.field name
  clients : List.Forall₂ (ClientPreserved aead old new) before.clients after.clients

/-- All that the two keys decrypt, the new one decrypts alone. -/
def UnderNew (secret : Mek → Option Bytes) (old new : Mek) : Prop :=
  ∀ plaintext, UnderSet secret old new plaintext → secret new = some plaintext

def PolicyUnderNew (aead : Aead) (old new : Mek) (text : Text) : Prop :=
  ∀ client ∈ text.clients, UnderNew (clientSecret aead · client) old new

theorem ClientPreserved.refl (client : Json) : ClientPreserved aead old new client client :=
  ⟨fun _ _ _ => rfl, rfl, fun _ => Iff.rfl⟩

theorem ClientPreserved.trans {a b c : Json} (h₁ : ClientPreserved aead old new a b)
    (h₂ : ClientPreserved aead old new b c) : ClientPreserved aead old new a c where
  fields := by
    intro name hdek hversion
    rw [h₂.fields name hdek hversion, h₁.fields name hdek hversion]
  version := h₂.version.trans h₁.version
  secret := fun plaintext => (h₂.secret plaintext).trans (h₁.secret plaintext)

theorem forall₂_trans {α : Type} {R : α → α → Prop} (htrans : ∀ a b c, R a b → R b c → R a c)
    {a b c : List α} (h₁ : List.Forall₂ R a b) (h₂ : List.Forall₂ R b c) :
    List.Forall₂ R a c := by
  induction h₁ generalizing c with
  | nil => exact h₂
  | cons hab _ ih =>
    cases h₂ with
    | cons hbc htail => exact .cons (htrans _ _ _ hab hbc) (ih htail)

theorem PolicyPreserved.refl (text : Text) : PolicyPreserved aead old new text text where
  fields := fun _ _ => rfl
  clients := List.forall₂_same.mpr fun client _ => ClientPreserved.refl client

theorem PolicyPreserved.trans {a b c : Text} (h₁ : PolicyPreserved aead old new a b)
    (h₂ : PolicyPreserved aead old new b c) : PolicyPreserved aead old new a c where
  fields := by
    intro name hname
    rw [h₂.fields name hname, h₁.fields name hname]
  clients := forall₂_trans (fun _ _ _ hab hbc => hab.trans hbc) h₁.clients h₂.clients

/-! ## Reading and writing documents -/

theorem lookup_filter {p : String × Json → Bool} {fields : List (String × Json)} {name : String}
    (h : ∀ value, p (name, value) = true) : (fields.filter p).lookup name = fields.lookup name := by
  induction fields with
  | nil => rfl
  | cons f fields ih =>
    obtain ⟨key, value⟩ := f
    by_cases hkey : name = key
    · subst hkey
      rw [List.filter_cons_of_pos (h value), List.lookup_cons_self, List.lookup_cons_self]
    · have hne : (name == key) = false := beq_false_of_ne hkey
      rw [List.filter_cons]
      split
      · rw [List.lookup_cons, List.lookup_cons, hne]
        exact ih
      · rw [List.lookup_cons, hne]
        exact ih

/-- What is read of a client. -/
theorem fromJson_some {client : Json} {c : ClientAuthConfig}
    (h : ClientAuthConfig.fromJson client = some c) :
    ∃ fields, client = .object fields ∧ client.stringField "client_id" = some c.clientId ∧
      client.stringField "encrypted_hmac_secret" = some c.encryptedHmacSecret ∧
      client.stringField "dek_encrypted" = some c.dekEncrypted ∧
      readVersion client = some c.encryptionVersion ∧
      c.other = fields.filter fun f => !clientFields.contains f.1 := by
  unfold ClientAuthConfig.fromJson at h
  split at h
  · next fields =>
    obtain ⟨id, hid, h⟩ := Option.bind_eq_some_iff.mp h
    obtain ⟨secret, hsecret, h⟩ := Option.bind_eq_some_iff.mp h
    obtain ⟨dek, hdek, h⟩ := Option.bind_eq_some_iff.mp h
    obtain ⟨version, hversion, h⟩ := Option.bind_eq_some_iff.mp h
    injection h with h
    subst h
    exact ⟨fields, rfl, hid, hsecret, hdek, hversion, rfl⟩
  · cases h

theorem field_of_stringField {j : Json} {name value : String}
    (h : j.stringField name = some value) : j.field name = some (.string value) := by
  unfold Json.stringField at h
  split at h
  · next s hs =>
    rw [Option.some.injEq] at h
    rw [hs, h]
  · cases h

/-- A version that was read is one byte. -/
theorem readVersion_le {client : Json} {n : Nat} (h : readVersion client = some n) : n ≤ 255 := by
  unfold readVersion at h
  split at h
  · rw [Option.some.injEq] at h
    rw [← h]
    decide
  · next z hz =>
    split at h
    · next hrange =>
      rw [Option.some.injEq] at h
      omega
    · cases h
  · cases h

theorem readVersion_toJson (c : ClientAuthConfig) (h : c.encryptionVersion ≤ 255) :
    readVersion c.toJson = some c.encryptionVersion := by
  have hfield : c.toJson.field "encryption_version" = some (.number c.encryptionVersion) := rfl
  unfold readVersion
  rw [hfield]
  dsimp only
  rw [if_pos (by omega), Int.toNat_natCast]

/-- **Serde's flatten** carries the fields of a client through a read and a write, the ones it does
not know included. -/
theorem field_toJson {client : Json} {c c' : ClientAuthConfig} {name : String}
    (h : ClientAuthConfig.fromJson client = some c) (hid : c'.clientId = c.clientId)
    (hsecret : c'.encryptedHmacSecret = c.encryptedHmacSecret) (hother : c'.other = c.other)
    (hdek : name ≠ "dek_encrypted") (hversion : name ≠ "encryption_version") :
    c'.toJson.field name = client.field name := by
  obtain ⟨fields, hclient, hreadId, hreadSecret, -, -, hread⟩ := fromJson_some h
  by_cases hname : name = "client_id"
  · subst hname
    rw [field_of_stringField hreadId, ← hid]
    rfl
  · by_cases hname' : name = "encrypted_hmac_secret"
    · subst hname'
      rw [field_of_stringField hreadSecret, ← hsecret]
      rfl
    · have hkeep : ∀ value : Json, (!clientFields.contains (name, value).1) = true := by
        intro value
        simp [clientFields, hname, hname', hdek, hversion]
      have hwritten : c'.toJson.field name = c'.other.lookup name := by
        show List.lookup name ([_, _, _, _] ++ c'.other) = _
        rw [List.lookup_append]
        simp only [List.lookup_cons, beq_false_of_ne hname, beq_false_of_ne hname',
          beq_false_of_ne hdek, beq_false_of_ne hversion, List.lookup_nil, Option.none_or]
      rw [hwritten, hother, hread, lookup_filter hkeep, hclient]
      rfl

theorem clientSecret_of_fromJson {client : Json} {c : ClientAuthConfig}
    (h : ClientAuthConfig.fromJson client = some c) :
    clientSecret aead mek client = c.secret aead mek := by
  obtain ⟨-, -, -, hsecret, hdek, -, -⟩ := fromJson_some h
  unfold clientSecret ClientAuthConfig.secret ClientAuthConfig.dek ClientAuthConfig.secretUnder
  rw [hsecret, hdek]
  simp only [Option.bind_eq_bind, Option.bind_some, Option.bind_assoc]

theorem clientSecret_toJson (c : ClientAuthConfig) :
    clientSecret aead mek c.toJson = c.secret aead mek := by
  have hsecret : c.toJson.stringField "encrypted_hmac_secret" = some c.encryptedHmacSecret := rfl
  have hdek : c.toJson.stringField "dek_encrypted" = some c.dekEncrypted := rfl
  unfold clientSecret ClientAuthConfig.secret ClientAuthConfig.dek ClientAuthConfig.secretUnder
  rw [hsecret, hdek]
  simp only [Option.bind_eq_bind, Option.bind_some, Option.bind_assoc]

/-! ## One client -/

variable {c c' : ClientAuthConfig}

/-- A re-encrypted client was under the old key alone, and its secret opened. -/
theorem visitClient_reEncrypted (h : visitClient aead old new iv c = .reEncrypted c') :
    ∃ dek secret blob, c.dek aead new = none ∧ c.dek aead old = some dek ∧
      c.secretUnder aead dek = some secret ∧
      aesGcmEncrypt aead iv new.val dek aadDek = some blob ∧
      c' = { c with dekEncrypted := encode blob } := by
  unfold visitClient at h
  split at h
  · cases h
  · next dekBlob hdekBlob =>
    split at h
    · cases h
    · next hnew =>
      split at h
      · cases h
      · next dek hdek =>
        split at h
        · cases h
        · next secretBlob hsecretBlob =>
          split at h
          · cases h
          · next hsecret =>
            split at h
            · cases h
            · next blob hblob =>
              injection h with h
              rw [Option.isNone_iff_eq_none] at hsecret
              obtain ⟨secret, hsecret⟩ := Option.ne_none_iff_exists'.mp hsecret
              refine ⟨dek, secret, blob, ?_, ?_, ?_, hblob, h.symm⟩
              · unfold ClientAuthConfig.dek
                rw [hdekBlob, Option.bind_some]
                exact Option.not_isSome_iff_eq_none.mp hnew
              · unfold ClientAuthConfig.dek
                rw [hdekBlob, Option.bind_some]
                exact hdek
              · unfold ClientAuthConfig.secretUnder
                rw [hsecretBlob, Option.bind_some]
                exact hsecret

/-- Such a client is re-encrypted. -/
theorem visitClient_of_secret {dek secret blob : Bytes} (hnew : c.dek aead new = none)
    (hold : c.dek aead old = some dek) (hsecret : c.secretUnder aead dek = some secret)
    (hblob : aesGcmEncrypt aead iv new.val dek aadDek = some blob) :
    visitClient aead old new iv c = .reEncrypted { c with dekEncrypted := encode blob } := by
  obtain ⟨dekBlob, hdekBlob, hold⟩ := Option.bind_eq_some_iff.mp hold
  obtain ⟨secretBlob, hsecretBlob, hsecret⟩ := Option.bind_eq_some_iff.mp hsecret
  have hnew : aesGcmDecrypt aead new.val dekBlob aadDek = none := by
    unfold ClientAuthConfig.dek at hnew
    rwa [hdekBlob, Option.bind_some] at hnew
  simp only [visitClient, hdekBlob, hnew, hold, hsecretBlob, hsecret, hblob, Option.isSome_none,
    Option.isNone_some, Bool.false_eq_true, if_false]

theorem visitClient_current (h : visitClient aead old new iv c = .current) :
    (c.dek aead new).isSome := by
  unfold visitClient at h
  split at h
  · cases h
  · next dekBlob hdekBlob =>
    split at h
    · next hnew =>
      unfold ClientAuthConfig.dek
      rw [hdekBlob]
      exact hnew
    · split at h
      · cases h
      · split at h
        · cases h
        · split at h
          · cases h
          · split at h <;> cases h

/-- Re-encryption keeps the data key. -/
theorem dek_reEncrypted (h : visitClient aead old new iv c = .reEncrypted c') :
    c'.dek aead new = c.dek aead old := by
  obtain ⟨dek, secret, blob, -, hold, -, hblob, rfl⟩ := visitClient_reEncrypted h
  rw [hold]
  unfold ClientAuthConfig.dek
  rw [decode_encode, Option.bind_some]
  exact aesGcmDecrypt_encrypt hblob

theorem dek_unique {a b : Bytes} (h : c.dek aead mek = some a) (h' : c.dek aead mek' = some b) :
    mek' = mek := by
  obtain ⟨blob, hblob, h⟩ := Option.bind_eq_some_iff.mp h
  obtain ⟨blob', hblob', h'⟩ := Option.bind_eq_some_iff.mp h'
  rw [hblob, Option.some.injEq] at hblob'
  rw [← hblob'] at h'
  exact aesGcmDecrypt_unique h h'

theorem secret_some {plaintext : Bytes} (h : c.secret aead mek = some plaintext) :
    ∃ dek, c.dek aead mek = some dek ∧ c.secretUnder aead dek = some plaintext :=
  Option.bind_eq_some_iff.mp h

/-- Re-encryption moves the secret from one key to the other. -/
theorem underSet_reEncrypted (h : visitClient aead old new iv c = .reEncrypted c')
    (plaintext : Bytes) : UnderSet (c'.secret aead ·) old new plaintext ↔
      UnderSet (c.secret aead ·) old new plaintext := by
  have hdek := dek_reEncrypted h
  obtain ⟨dek, secret, blob, hnone, hold, -, hblob, rfl⟩ := visitClient_reEncrypted h
  have hsecret : ClientAuthConfig.secret aead new { c with dekEncrypted := encode blob } =
      c.secret aead old := by
    unfold ClientAuthConfig.secret
    rw [hdek]
    rfl
  constructor
  · rintro ⟨mek, hmek, hplain⟩
    -- the new blob is under the new key, and under no other
    obtain ⟨dek', hdek', -⟩ := secret_some hplain
    rw [hold] at hdek
    have hnew : mek = new := dek_unique hdek hdek'
    subst hnew
    exact ⟨old, List.mem_cons_of_mem _ List.mem_cons_self, hsecret.symm.trans hplain⟩
  · rintro ⟨mek, hmek, hplain⟩
    obtain ⟨dek', hdek', -⟩ := secret_some hplain
    have hmekOld : old = mek := dek_unique hdek' hold
    subst hmekOld
    exact ⟨new, List.mem_cons_self, hsecret.trans hplain⟩

/-- What a turn of the loop makes of a client it does not stop at. -/
def Moved (aead : Aead) (old new : Mek) (c c' : ClientAuthConfig) : Prop :=
  c' = c ∨ ∃ iv, visitClient aead old new iv c = .reEncrypted c'

/-- **A written client** is the stored one but for its data key. -/
theorem clientPreserved_toJson {client : Json} (h : ClientAuthConfig.fromJson client = some c)
    (hmoved : Moved aead old new c c') : ClientPreserved aead old new client c'.toJson := by
  obtain ⟨-, -, -, -, -, hversion, -⟩ := fromJson_some h
  have hle := readVersion_le hversion
  have hread : ∀ mek, clientSecret aead mek client = c.secret aead mek :=
    fun mek => clientSecret_of_fromJson h
  have hwritten : ∀ mek, clientSecret aead mek c'.toJson = c'.secret aead mek :=
    fun mek => clientSecret_toJson c'
  have hsame : c'.clientId = c.clientId ∧ c'.encryptedHmacSecret = c.encryptedHmacSecret ∧
      c'.other = c.other ∧ c'.encryptionVersion = c.encryptionVersion := by
    rcases hmoved with rfl | ⟨iv, hvisit⟩
    · exact ⟨rfl, rfl, rfl, rfl⟩
    · obtain ⟨dek, secret, blob, -, -, -, -, rfl⟩ := visitClient_reEncrypted hvisit
      exact ⟨rfl, rfl, rfl, rfl⟩
  obtain ⟨hid, hsecret, hother, hsameVersion⟩ := hsame
  refine ⟨?_, ?_, ?_⟩
  · intro name hdek hversionName
    exact field_toJson h hid hsecret hother hdek hversionName
  · rw [readVersion_toJson c' (by omega), hversion, hsameVersion]
  · intro plaintext
    unfold UnderSet
    simp only [hread, hwritten]
    rcases hmoved with rfl | ⟨iv, hvisit⟩
    · exact Iff.rfl
    · exact underSet_reEncrypted hvisit plaintext

/-- With its data key under the new key, a secret is under the new key. -/
theorem underNew_of_dek (h : (c.dek aead new).isSome) : UnderNew (c.secret aead ·) old new := by
  intro plaintext hset
  obtain ⟨mek, -, hplain⟩ := hset
  obtain ⟨dek, hdek⟩ := Option.isSome_iff_exists.mp h
  obtain ⟨dek', hdek', -⟩ := secret_some hplain
  have hnew : new = mek := dek_unique hdek' hdek
  rw [hnew]
  exact hplain

/-- A client whose secret is under the new key is not re-encrypted. -/
theorem not_reEncrypted_of_underNew (h : UnderNew (c.secret aead ·) old new) :
    visitClient aead old new iv c ≠ .reEncrypted c' := by
  intro hvisit
  obtain ⟨dek, secret, blob, hnone, hold, hsecret, -, -⟩ := visitClient_reEncrypted hvisit
  have hplain : c.secret aead old = some secret := by
    unfold ClientAuthConfig.secret
    rw [hold]
    exact hsecret
  have hnew := h secret ⟨old, List.mem_cons_of_mem _ List.mem_cons_self, hplain⟩
  obtain ⟨dek', hdek', -⟩ := secret_some hnew
  rw [hnone] at hdek'
  cases hdek'

/-! ## One policy -/

variable {ivs : Nat → Iv} {cs cs' : List ClientAuthConfig} {modified : Bool} {errors : Nat}

/-- What the loop does at its first client, when it does not stop. -/
theorem visitClients_cons
    (h : visitClients aead old new ivs (c :: cs) = some (cs', modified, errors)) :
    ∃ rest restModified restErrors,
      visitClients aead old new ivs cs = some (rest, restModified, restErrors) ∧
      ((visitClient aead old new (ivs cs.length) c = .current ∧
          cs' = c :: rest ∧ modified = restModified ∧ errors = restErrors) ∨
        (cs' = c :: rest ∧ modified = restModified ∧ errors = restErrors + 1) ∨
        ∃ c', visitClient aead old new (ivs cs.length) c = .reEncrypted c' ∧
          cs' = c' :: rest ∧ modified = true ∧ errors = restErrors) := by
  rw [visitClients] at h
  cases hrest : visitClients aead old new ivs cs with
  | none =>
    rw [hrest] at h
    cases hvisit : visitClient aead old new (ivs cs.length) c <;> rw [hvisit] at h <;> cases h
  | some result =>
    obtain ⟨rest, restModified, restErrors⟩ := result
    refine ⟨rest, restModified, restErrors, rfl, ?_⟩
    rw [hrest] at h
    cases hvisit : visitClient aead old new (ivs cs.length) c with
    | abort =>
      rw [hvisit] at h
      cases h
    | current =>
      rw [hvisit] at h
      cases h
      exact .inl ⟨rfl, rfl, rfl, rfl⟩
    | error =>
      rw [hvisit] at h
      cases h
      exact .inr (.inl ⟨rfl, rfl, rfl⟩)
    | reEncrypted c' =>
      rw [hvisit] at h
      cases h
      exact .inr (.inr ⟨c', rfl, rfl, rfl, rfl⟩)

theorem visitClients_moved (h : visitClients aead old new ivs cs = some (cs', modified, errors)) :
    List.Forall₂ (Moved aead old new) cs cs' := by
  induction cs generalizing cs' modified errors with
  | nil =>
    cases h
    exact .nil
  | cons c cs ih =>
    obtain ⟨rest, restModified, restErrors, hrest, hhead⟩ := visitClients_cons h
    obtain ⟨-, rfl, -⟩ | ⟨rfl, -⟩ | ⟨c', hvisit, rfl, -⟩ := hhead
    · exact .cons (.inl rfl) (ih hrest)
    · exact .cons (.inl rfl) (ih hrest)
    · exact .cons (.inr ⟨_, hvisit⟩) (ih hrest)

/-- Without an error every client is left with its data key under the new key. -/
theorem visitClients_done (h : visitClients aead old new ivs cs = some (cs', modified, 0)) :
    ∀ c ∈ cs', (c.dek aead new).isSome := by
  induction cs generalizing cs' modified with
  | nil =>
    cases h
    simp
  | cons c cs ih =>
    obtain ⟨rest, restModified, restErrors, hrest, hhead⟩ := visitClients_cons h
    obtain ⟨hvisit, rfl, -, rfl⟩ | ⟨-, -, hfalse⟩ | ⟨c', hvisit, rfl, -, rfl⟩ := hhead
    · intro d hd
      rcases List.mem_cons.mp hd with rfl | hd
      · exact visitClient_current hvisit
      · exact ih hrest d hd
    · omega
    · intro d hd
      rcases List.mem_cons.mp hd with rfl | hd
      · obtain ⟨dek, -, -, -, hold, -⟩ := visitClient_reEncrypted hvisit
        rw [dek_reEncrypted hvisit, hold]
        rfl
      · exact ih hrest d hd

theorem visitClients_unmodified
    (h : visitClients aead old new ivs cs = some (cs', false, errors)) : cs' = cs := by
  induction cs generalizing cs' errors with
  | nil =>
    cases h
    rfl
  | cons c cs ih =>
    obtain ⟨rest, restModified, restErrors, hrest, hhead⟩ := visitClients_cons h
    obtain ⟨-, rfl, rfl, -⟩ | ⟨rfl, rfl, -⟩ | ⟨c', -, -, hfalse, -⟩ := hhead
    · rw [ih hrest]
    · rw [ih hrest]
    · cases hfalse

theorem visitClients_modified
    (h : visitClients aead old new ivs cs = some (cs', true, errors)) :
    ∃ c ∈ cs, ∃ iv c', visitClient aead old new iv c = .reEncrypted c' := by
  induction cs generalizing cs' errors with
  | nil => cases h
  | cons c cs ih =>
    obtain ⟨rest, restModified, restErrors, hrest, hhead⟩ := visitClients_cons h
    have htail : restModified = true →
        ∃ d ∈ c :: cs, ∃ iv c', visitClient aead old new iv d = .reEncrypted c' := by
      intro hmodified
      subst hmodified
      obtain ⟨d, hd, hvisit⟩ := ih hrest
      exact ⟨d, List.mem_cons_of_mem _ hd, hvisit⟩
    obtain ⟨-, -, hmodified, -⟩ | ⟨-, hmodified, -⟩ | ⟨c', hvisit, -⟩ := hhead
    · exact htail hmodified.symm
    · exact htail hmodified.symm
    · exact ⟨c, List.mem_cons_self, _, c', hvisit⟩

theorem forall₂_of_mapM {α β : Type} {f : α → Option β} {xs : List α} {ys : List β}
    (h : xs.mapM f = some ys) : List.Forall₂ (fun x y => f x = some y) xs ys := by
  induction xs generalizing ys with
  | nil =>
    rw [List.mapM_nil] at h
    cases h
    exact .nil
  | cons x xs ih =>
    rw [List.mapM_cons] at h
    obtain ⟨y, hy, h⟩ := Option.bind_eq_some_iff.mp h
    obtain ⟨rest, hrest, h⟩ := Option.bind_eq_some_iff.mp h
    cases h
    exact .cons hy (ih hrest)

variable {text : Text} {policy : OriginPolicy}

/-- The clients of a policy that is read are the stored ones. -/
theorem fromText_some (h : OriginPolicy.fromText text = some policy) :
    (∃ fields, text = .json (.object fields) ∧
      policy.other = fields.filter fun f => f.1 != "clients") ∧
      List.Forall₂ (fun client c => ClientAuthConfig.fromJson client = some c) text.clients
        policy.clients := by
  unfold OriginPolicy.fromText at h
  split at h
  · next fields =>
    dsimp only at h
    unfold Text.clients Text.field Json.field
    dsimp only
    split at h
    · next hnone =>
      cases h
      rw [hnone]
      exact ⟨⟨fields, rfl, rfl⟩, .nil⟩
    · next items hitems =>
      obtain ⟨cs, hcs, h⟩ := Option.map_eq_some_iff.mp h
      cases h
      rw [hitems]
      exact ⟨⟨fields, rfl, rfl⟩, forall₂_of_mapM hcs⟩
    · cases h
  · cases h

theorem lookup_clients_filter (fields : List (String × Json)) :
    (fields.filter fun f => f.1 != "clients").lookup "clients" = none := by
  rw [List.lookup_eq_none_iff]
  intro f hf
  have hkey := (List.mem_filter.mp hf).2
  rw [bne_iff_ne] at hkey
  exact bne_iff_ne.mpr hkey.symm

/-- The clients of a policy that was read and is written. -/
theorem clients_toText (h : OriginPolicy.fromText text = some policy)
    (cs : List ClientAuthConfig) : { policy with clients := cs }.toText.clients =
      cs.map ClientAuthConfig.toJson := by
  obtain ⟨⟨fields, -, hother⟩, -⟩ := fromText_some h
  unfold OriginPolicy.toText Text.clients Text.field Json.field
  dsimp only
  rw [List.lookup_append, hother, lookup_clients_filter]
  rfl

/-- **Serde's flatten** carries the other fields of a policy through a read and a write. -/
theorem field_toText (h : OriginPolicy.fromText text = some policy) (cs : List ClientAuthConfig)
    {name : String} (hname : name ≠ "clients") :
    ({ policy with clients := cs }.toText).field name = text.field name := by
  obtain ⟨⟨fields, rfl, hother⟩, -⟩ := fromText_some h
  have hkeep : ∀ value : Json, ((name, value).1 != "clients") = true := by
    intro value
    exact bne_iff_ne.mpr hname
  unfold OriginPolicy.toText Text.field Json.field
  dsimp only
  rw [List.lookup_append, hother, lookup_filter hkeep, List.lookup_cons, beq_false_of_ne hname]
  simp only [List.lookup_nil, Option.or_none]

theorem forall₂_preserved {items : List Json}
    (hread : List.Forall₂ (fun client c => ClientAuthConfig.fromJson client = some c) items cs)
    (hmoved : List.Forall₂ (Moved aead old new) cs cs') :
    List.Forall₂ (ClientPreserved aead old new) items (cs'.map ClientAuthConfig.toJson) := by
  induction hread generalizing cs' with
  | nil =>
    cases hmoved
    exact .nil
  | cons hclient _ ih =>
    cases hmoved with
    | cons hhead htail => exact .cons (clientPreserved_toJson hclient hhead) (ih htail)

variable {param : RunParam} {key : String} {text' : Text}

/-- What a write to a policy writes. -/
theorem visitPolicy_write (h : visitPolicy aead old new param key text = .write text' errors) :
    ∃ policy cs, OriginPolicy.fromText text = some policy ∧
      visitClients aead old new (param.ivs key) policy.clients = some (cs, true, errors) ∧
      text' = { policy with clients := cs }.toText := by
  unfold visitPolicy at h
  split at h
  · cases h
  · next policy hpolicy =>
    split at h
    · cases h
    · next cs modified errs hcs =>
      split at h
      · next hcond =>
        injection h with htext herrors
        rw [Bool.and_eq_true] at hcond
        rw [hcond.1, herrors] at hcs
        exact ⟨policy, cs, hpolicy, hcs, htext.symm⟩
      · cases h

/-- **A write keeps the policy** and its secrets. -/
theorem visitPolicy_preserved
    (h : visitPolicy aead old new param key text = .write text' errors) :
    PolicyPreserved aead old new text text' := by
  obtain ⟨policy, cs, hpolicy, hcs, rfl⟩ := visitPolicy_write h
  refine ⟨?_, ?_⟩
  · intro name hname
    exact field_toText hpolicy cs hname
  · rw [clients_toText hpolicy]
    exact forall₂_preserved (fromText_some hpolicy).2 (visitClients_moved hcs)

theorem mem_of_forall₂ {α β : Type} {R : α → β → Prop} {xs : List α} {ys : List β}
    (h : List.Forall₂ R xs ys) : (∀ x ∈ xs, ∃ y ∈ ys, R x y) ∧ ∀ y ∈ ys, ∃ x ∈ xs, R x y := by
  induction h with
  | nil => exact ⟨by simp, by simp⟩
  | cons hxy _ ih =>
    constructor
    · intro x hx
      rcases List.mem_cons.mp hx with rfl | hx
      · exact ⟨_, List.mem_cons_self, hxy⟩
      · obtain ⟨y, hy, hR⟩ := ih.1 x hx
        exact ⟨y, List.mem_cons_of_mem _ hy, hR⟩
    · intro y hy
      rcases List.mem_cons.mp hy with rfl | hy
      · exact ⟨_, List.mem_cons_self, hxy⟩
      · obtain ⟨x, hx, hR⟩ := ih.2 y hy
        exact ⟨x, List.mem_cons_of_mem _ hx, hR⟩

/-- A policy that a committed run writes without an error is under the new key. -/
theorem underNew_of_write
    (h : visitPolicy aead old new param key text = .write text' 0) :
    PolicyUnderNew aead old new text' := by
  obtain ⟨policy, cs, hpolicy, hcs, rfl⟩ := visitPolicy_write h
  intro client hclient
  rw [clients_toText hpolicy] at hclient
  obtain ⟨c, hc, rfl⟩ := List.mem_map.mp hclient
  have hsecret : (clientSecret aead · c.toJson) = (c.secret aead ·) := by
    funext mek
    exact clientSecret_toJson c
  rw [hsecret]
  exact underNew_of_dek (visitClients_done hcs c hc)

/-- So is one that it leaves without an error. -/
theorem underNew_of_keep (hcommit : param.commit = true)
    (h : visitPolicy aead old new param key text = .keep 0) : PolicyUnderNew aead old new text := by
  unfold visitPolicy at h
  split at h
  · cases h
  · next policy hpolicy =>
    split at h
    · cases h
    · next cs modified errs hcs =>
      split at h
      · cases h
      · next hcond =>
        injection h with herrors
        rw [hcommit, Bool.and_true, Bool.not_eq_true] at hcond
        rw [hcond, herrors] at hcs
        have hsame := visitClients_unmodified hcs
        intro client hclient
        obtain ⟨c, hc, hread⟩ := (mem_of_forall₂ (fromText_some hpolicy).2).1 client hclient
        have hsecret : (clientSecret aead · client) = (c.secret aead ·) := by
          funext mek
          exact clientSecret_of_fromJson hread
        rw [hsecret]
        exact underNew_of_dek (visitClients_done hcs c (hsame ▸ hc))

/-- A policy under the new key is not written. -/
theorem visitPolicy_settled (h : PolicyUnderNew aead old new text) :
    visitPolicy aead old new param key text ≠ .write text' errors := by
  intro hwrite
  obtain ⟨policy, cs, hpolicy, hcs, -⟩ := visitPolicy_write hwrite
  obtain ⟨c, hc, iv, c', hvisit⟩ := visitClients_modified hcs
  obtain ⟨client, hclient, hread⟩ := (mem_of_forall₂ (fromText_some hpolicy).2).2 c hc
  have hunder := h client hclient
  have hsecret : (clientSecret aead · client) = (c.secret aead ·) := by
    funext mek
    exact clientSecret_of_fromJson hread
  rw [hsecret] at hunder
  exact not_reEncrypted_of_underNew hunder hvisit

end KeyRotation

end ProviiVerifier
