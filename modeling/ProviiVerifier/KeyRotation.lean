/-
  `tools/key-rotation/src/main.rs`: the tool that moves encrypted KV data from an old master key
  to a new one.

  Policies are JSON documents whose clients hold an HMAC secret under a data key (the DEK), and the
  DEK under the master key (the MEK). Hosted keys are under their MEK directly. A value of the
  configuration namespace is the JSON it is the text of; the order of an object's fields says
  nothing and is not kept. The cipher is an `Aead`, and the listing API gives pages as it likes.

  A run is a pass (`Sweep`) over the keys that `list_all_keys` collects, so that a run that is
  interrupted, or that stops at an error, is a pass over fewer keys. The random IVs are given with
  the run.

  `verify_rotation` counts the entries under each key.
-/
import ProviiVerifier.Challenge
import ProviiVerifier.NonceDO
import ProviiVerifier.Encoding.Aead
import ProviiVerifier.Encoding.Base64Url
import ProviiVerifier.Rewriting.Sweep

namespace ProviiVerifier

namespace KeyRotation

/-- `AAD_HMAC_SECRET`. -/
def aadHmacSecret : Bytes := utf8Bytes "provii-hmac-secret-v1"

/-- `AAD_DEK`. -/
def aadDek : Bytes := utf8Bytes "provii-dek-v1"

/-- `PUBLIC_KEY_DATA_AAD`. -/
def publicKeyDataAad : Bytes := utf8Bytes "provii-verifier:public_key_data:v1"

/-- `URL_SAFE_NO_PAD.encode`. -/
def encode (bytes : Bytes) : String := String.ofList (Base64Url.encode bytes)

/-- `URL_SAFE_NO_PAD.decode`. -/
def decode (s : String) : Option Bytes := Base64Url.decode s.toList

/-! ## AES-256-GCM -/

/-- A master key: `AES_256_KEY_SIZE` bytes. -/
abbrev Mek := FixedBytes 32

/-- `GCM_IV_SIZE` bytes. -/
abbrev Iv := FixedBytes 12

/-- `decode_mek`. -/
def decodeMek (mekB64 : String) : Option Mek :=
  match decode mekB64 with
  | none => none
  | some bytes => if h : bytes.length = 32 then some ⟨bytes, h⟩ else none

/-- `aes_gcm_decrypt`: IV, ciphertext and tag. -/
def aesGcmDecrypt (aead : Aead) (key blob aad : Bytes) : Option Bytes :=
  if key.length ≠ 32 then none
  else if blob.length < 12 + 16 then none
  else aead.decrypt key (blob.take 12) aad (blob.drop 12)

/-- `aes_gcm_encrypt`, with the IV it draws. -/
def aesGcmEncrypt (aead : Aead) (iv : Iv) (key plaintext aad : Bytes) : Option Bytes :=
  if key.length ≠ 32 then none else some (iv.val ++ aead.encrypt key iv.val aad plaintext)

/-! ## Documents -/

/-- A JSON value. -/
inductive Json
  | null
  | bool (value : Bool)
  | number (value : Int)
  | decimal (literal : String)
  | string (value : String)
  | array (items : List Json)
  | object (fields : List (String × Json))

/-- A value of the configuration namespace. -/
inductive Text
  | json (value : Json)
  | malformed (raw : String)

def Json.field (name : String) : Json → Option Json
  | .object fields => fields.lookup name
  | _ => none

def Json.stringField (name : String) (j : Json) : Option String :=
  match j.field name with
  | some (.string s) => some s
  | _ => none

def Text.field (name : String) : Text → Option Json
  | .json j => j.field name
  | .malformed _ => none

/-- `ClientAuthConfig`; the flattened field holds what the others do not. -/
structure ClientAuthConfig where
  clientId : String
  encryptedHmacSecret : String
  dekEncrypted : String
  encryptionVersion : Nat
  other : List (String × Json)

/-- `OriginPolicy`. -/
structure OriginPolicy where
  other : List (String × Json)
  clients : List ClientAuthConfig

/-- The fields of a client that have a place of their own. -/
def clientFields : List String :=
  ["client_id", "encrypted_hmac_secret", "dek_encrypted", "encryption_version"]

/-- `default_encryption_version`. -/
def defaultEncryptionVersion : Nat := 1

/-- The field `encryption_version`, a `u8`. -/
def readVersion (client : Json) : Option Nat :=
  match client.field "encryption_version" with
  | none => some defaultEncryptionVersion
  | some (.number n) => if 0 ≤ n ∧ n ≤ 255 then some n.toNat else none
  | some _ => none

/-- Deserialise a client. -/
def ClientAuthConfig.fromJson (client : Json) : Option ClientAuthConfig :=
  match client with
  | .object fields => do
    let clientId ← client.stringField "client_id"
    let encryptedHmacSecret ← client.stringField "encrypted_hmac_secret"
    let dekEncrypted ← client.stringField "dek_encrypted"
    let encryptionVersion ← readVersion client
    return { clientId, encryptedHmacSecret, dekEncrypted, encryptionVersion
             other := fields.filter fun f => !clientFields.contains f.1 }
  | _ => none

/-- Serialise a client. -/
def ClientAuthConfig.toJson (c : ClientAuthConfig) : Json :=
  .object ([("client_id", .string c.clientId),
    ("encrypted_hmac_secret", .string c.encryptedHmacSecret),
    ("dek_encrypted", .string c.dekEncrypted),
    ("encryption_version", .number c.encryptionVersion)] ++ c.other)

/-- `serde_json::from_str` for a policy. -/
def OriginPolicy.fromText : Text → Option OriginPolicy
  | .json (.object fields) =>
    let other := fields.filter fun f => f.1 != "clients"
    match fields.lookup "clients" with
    | none => some { other, clients := [] }
    | some (.array items) =>
      (items.mapM ClientAuthConfig.fromJson).map fun clients => { other, clients }
    | some _ => none
  | _ => none

/-- `serde_json::to_string` of a policy. -/
def OriginPolicy.toText (p : OriginPolicy) : Text :=
  .json (.object (p.other ++ [("clients", .array (p.clients.map ClientAuthConfig.toJson))]))

/-! ## Listing -/

/-- `list_all_keys` on the pages of the API: all but the last come with a cursor. The loop stops at
a page of fewer than 1000 keys, whether or not it has one. -/
def listAllKeys : List (List String) → List String
  | [] => []
  | [page] => page
  | page :: rest => if page.length < 1000 then page else page ++ listAllKeys rest

def originKeys (pages : List (List String)) : List String :=
  (listAllKeys pages).filter fun k => (stripPrefix "origins/" k).isSome

def isPkKey (key : String) : Bool :=
  (stripPrefix "pk_live_" key).isSome || (stripPrefix "pk_test_" key).isSome

def pkKeys (pages : List (List String)) : List String := (listAllKeys pages).filter isPkKey

/-! ## `rotate-mek` -/

/-- What becomes of a client. -/
inductive ClientVisit
  | abort
  | current
  | error
  | reEncrypted (client : ClientAuthConfig)

/-- One turn of the loop over the clients. -/
def visitClient (aead : Aead) (old new : Mek) (iv : Iv) (client : ClientAuthConfig) :
    ClientVisit :=
  match decode client.dekEncrypted with
  | none => .abort
  | some dekBlob =>
    if (aesGcmDecrypt aead new.val dekBlob aadDek).isSome then .current
    else
      match aesGcmDecrypt aead old.val dekBlob aadDek with
      | none => .error
      | some dek =>
        match decode client.encryptedHmacSecret with
        | none => .abort
        | some secretBlob =>
          if (aesGcmDecrypt aead dek secretBlob aadHmacSecret).isNone then .error
          else
            match aesGcmEncrypt aead iv new.val dek aadDek with
            | none => .abort
            | some blob => .reEncrypted { client with dekEncrypted := encode blob }

/-- The loop over the clients: the clients it leaves, whether one was changed, and the errors;
nothing when it stops. -/
def visitClients (aead : Aead) (old new : Mek) (ivs : Nat → Iv) :
    List ClientAuthConfig → Option (List ClientAuthConfig × Bool × Nat)
  | [] => some ([], false, 0)
  | client :: rest =>
    match visitClient aead old new (ivs rest.length) client,
      visitClients aead old new ivs rest with
    | .abort, _ => none
    | _, none => none
    | .current, some (clients, modified, errors) => some (client :: clients, modified, errors)
    | .error, some (clients, modified, errors) => some (client :: clients, modified, errors + 1)
    | .reEncrypted client', some (clients, _, errors) => some (client' :: clients, true, errors)

/-- What a run is given besides the keys. -/
structure RunParam where
  commit : Bool
  ivs : String → Nat → Iv

/-- One turn of the loop over the policies. -/
def visitPolicy (aead : Aead) (old new : Mek) (param : RunParam) (key : String) (text : Text) :
    Sweep.Visit Text :=
  match OriginPolicy.fromText text with
  | none => .abort
  | some policy =>
    match visitClients aead old new (param.ivs key) policy.clients with
    | none => .abort
    | some (clients, modified, errors) =>
      if modified && param.commit then .write { policy with clients }.toText errors
      else .keep errors

/-- `VERIFIER_KV_CONFIG`. -/
abbrev ConfigStore := Sweep.Store String Text

/-- `rotate_mek`: the store it leaves, and its errors unless it stops. -/
def rotateMek (aead : Aead) (oldMek newMek : String) (param : RunParam)
    (pages : List (List String)) (kv : ConfigStore) : ConfigStore × Option Nat :=
  match decodeMek oldMek, decodeMek newMek with
  | some old, some new => Sweep.run (visitPolicy aead old new param) kv (originKeys pages)
  | _, _ => (kv, none)

/-! ## `rotate-hosted-mek` -/

/-- One turn of the loop over the hosted keys; `isJson` is whether bytes are JSON. -/
def visitHostedKey (aead : Aead) (isJson : Bytes → Bool) (old new : Mek) (param : RunParam)
    (key raw : String) : Sweep.Visit String :=
  match decode raw with
  | none => .abort
  | some blob =>
    if (aesGcmDecrypt aead new.val blob publicKeyDataAad).isSome then .keep 0
    else
      match aesGcmDecrypt aead old.val blob publicKeyDataAad with
      | none => .keep 1
      | some plaintext =>
        if isJson plaintext = false then .keep 1
        else
          match aesGcmEncrypt aead (param.ivs key 0) new.val plaintext publicKeyDataAad with
          | none => .abort
          | some blob => if param.commit then .write (encode blob) 0 else .keep 0

/-- `HOSTED_PUBLIC_KEYS`. -/
abbrev HostedStore := Sweep.Store String String

/-- `rotate_hosted_mek`. -/
def rotateHostedMek (aead : Aead) (isJson : Bytes → Bool) (oldMek newMek : String)
    (param : RunParam) (pages : List (List String)) (kv : HostedStore) :
    HostedStore × Option Nat :=
  match decodeMek oldMek, decodeMek newMek with
  | some old, some new => Sweep.run (visitHostedKey aead isJson old new param) kv (pkKeys pages)
  | _, _ => (kv, none)

/-! ## `verify-rotation` -/

/-- How many entries decrypt with each key. -/
structure Counts where
  current : Nat
  previous : Nat
  neither : Nat
  deriving DecidableEq

/-- Count a blob, or a text that is not Base64. -/
def countBlob (aead : Aead) (current previous : Mek) (aad : Bytes) (counts : Counts)
    (blob : Option Bytes) : Counts :=
  match blob with
  | none => { counts with neither := counts.neither + 1 }
  | some blob =>
    if (aesGcmDecrypt aead current.val blob aad).isSome then
      { counts with current := counts.current + 1 }
    else if (aesGcmDecrypt aead previous.val blob aad).isSome then
      { counts with previous := counts.previous + 1 }
    else { counts with neither := counts.neither + 1 }

/-- One turn of the loop over the policies. -/
def countPolicy (aead : Aead) (current previous : Mek) (kv : ConfigStore) (counts : Counts)
    (key : String) : Counts :=
  match (kv key).bind OriginPolicy.fromText with
  | none => counts
  | some policy =>
    policy.clients.foldl (fun counts client =>
      countBlob aead current previous aadDek counts (decode client.dekEncrypted)) counts

/-- One turn of the loop over the hosted keys. -/
def countHostedKey (aead : Aead) (current previous : Mek) (kv : HostedStore) (counts : Counts)
    (key : String) : Counts :=
  match kv key with
  | none => counts
  | some raw => countBlob aead current previous publicKeyDataAad counts (decode raw)

/-- The message that the rotation is complete. -/
def Counts.complete (counts : Counts) : Bool := counts.previous = 0 && counts.neither = 0

/-- The first part of `verify_rotation`: the counts for `VERIFIER_MEK`. -/
def verifyMek (aead : Aead) (current previous : Mek) (pages : List (List String))
    (kv : ConfigStore) : Counts :=
  (originKeys pages).foldl (countPolicy aead current previous kv) ⟨0, 0, 0⟩

/-- The second part of `verify_rotation`: the counts for `HOSTED_MEK`. -/
def verifyHostedMek (aead : Aead) (current previous : Mek) (pages : List (List String))
    (kv : HostedStore) : Counts :=
  (pkKeys pages).foldl (countHostedKey aead current previous kv) ⟨0, 0, 0⟩

end KeyRotation

end ProviiVerifier
