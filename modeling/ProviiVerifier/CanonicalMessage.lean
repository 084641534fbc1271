/-
  `create_canonical_message_for_challenge` in `routes/challenge.rs`: the text a challenge request is
  signed over.

  The text is the timestamp, the HTTP method, the path, a JSON payload and the nonce, joined by
  `:`. The payload has colons of its own, and nothing is known about the nonce.

  Proved: for one HTTP method and path the text says the timestamp and every field of the request
  that it is made of (`sameMessage_iff`).
-/
import ProviiVerifier.CreateChallenge
import ProviiVerifier.Encoding.Base64Url
import ProviiVerifier.Encoding.Decimal
import ProviiVerifier.Encoding.Split

namespace ProviiVerifier

namespace CreateChallenge

/-- The JSON of an optional key id. -/
def verifyingKeyIdJson : Option VkId → String
  | some v => toString v.val
  | none => "null"

/-- The payload from the value of its first field on, and the nonce. -/
def signedFields (app : AppState) (req : CreateChallengeRequest) : List Char :=
  (app.base64Url req.codeChallenge.val).toList ++ '"' ::
    (",\"method\":\"S256\",\"verifying_key_id\":".toList ++
      ((verifyingKeyIdJson req.verifyingKeyId).toList ++ ',' ::
        ("\"expires_in\":".toList ++ (req.expiresIn.val.repr.toList ++ '\x7d' ::
          (':' :: req.authorizer.nonce.toList)))))

variable {app : AppState} {method path : String} {t t' : Nat} {r r' : CreateChallengeRequest}
  {v v' : Option VkId}

theorem message_toList :
    (createCanonicalMessageForChallenge app method path t r).toList =
      t.repr.toList ++ ':' :: ((method ++ ":" ++ path ++ ":\x7b\"code_challenge\":\"").toList ++
        signedFields app r) := by
  unfold createCanonicalMessageForChallenge signedFields verifyingKeyIdJson
  cases r.verifyingKeyId with
  | none => simp
  | some v => simp

/-- The standard alphabet, without padding. -/
def EncodesBase64Url (app : AppState) : Prop :=
  ∀ bytes, app.base64Url bytes = String.ofList (Base64Url.encode bytes)

theorem base64Url_inj (happ : EncodesBase64Url app) {a b : Bytes}
    (h : app.base64Url a = app.base64Url b) : a = b := by
  rw [happ, happ, String.ofList_inj] at h
  have hdecoded : Base64Url.decode (Base64Url.encode a) = some a := Base64Url.decode_encode a
  rw [h, Base64Url.decode_encode] at hdecoded
  injection hdecoded with hdecoded
  exact hdecoded.symm

theorem quote_not_mem (happ : EncodesBase64Url app) (bytes : Bytes) :
    '"' ∉ (app.base64Url bytes).toList := by
  rw [happ, String.toList_ofList]
  intro h
  exact absurd (Base64Url.mem_encode bytes _ h) (by decide +kernel)

/-- The text of an optional key id is a number or `null`. -/
theorem verifyingKeyIdJson_inj
    (h : (verifyingKeyIdJson v).toList = (verifyingKeyIdJson v').toList) : v = v' := by
  have hnull : ∀ n : Nat, n.repr.toList ≠ "null".toList := by
    intro n hn
    have hletter : 'n' ∈ n.repr.toList := by
      rw [hn]
      decide
    exact Decimal.not_mem_repr (by decide) hletter
  cases v with
  | none =>
    cases v' with
    | none => rfl
    | some v' => exact absurd h.symm (hnull v'.val)
  | some v =>
    cases v' with
    | none => exact absurd h (hnull v.val)
    | some v' => rw [Subtype.ext (Decimal.repr_inj h)]

theorem comma_not_mem (v : Option VkId) : ',' ∉ (verifyingKeyIdJson v).toList := by
  cases v with
  | none => exact show ',' ∉ "null".toList by decide
  | some v => exact Decimal.not_mem_repr (by decide)

/-- **The fields.** Each ends with a character that it does not contain; the nonce comes last. -/
theorem signedFields_inj (happ : EncodesBase64Url app)
    (h : signedFields app r = signedFields app r') :
    r.codeChallenge = r'.codeChallenge ∧ r.verifyingKeyId = r'.verifyingKeyId ∧
      r.expiresIn = r'.expiresIn ∧ r.authorizer.nonce = r'.authorizer.nonce := by
  unfold signedFields at h
  obtain ⟨hchallenge, h⟩ :=
    Splitting.separated_first (quote_not_mem happ _) (quote_not_mem happ _) h
  obtain ⟨hkey, h⟩ := Splitting.separated_first (comma_not_mem _) (comma_not_mem _)
    (List.append_cancel_left h)
  obtain ⟨hexpires, h⟩ := Splitting.separated_first (Decimal.not_mem_repr (by decide))
    (Decimal.not_mem_repr (by decide)) (List.append_cancel_left h)
  injection h with _ hnonce
  exact ⟨Subtype.ext (base64Url_inj happ (String.toList_inj.mp hchallenge)),
    verifyingKeyIdJson_inj hkey, Subtype.ext (Decimal.repr_inj hexpires),
    String.toList_inj.mp hnonce⟩

/-- **What is signed.** For one HTTP method and path, the text of a request is that of another one
exactly when the timestamps, the code challenges, the key ids, absent or not, the lifetimes and the
nonces are the same. The PKCE method has one value, `S256`. -/
theorem sameMessage_iff (app : AppState) (method path : String) (t t' : Nat)
    (r r' : CreateChallengeRequest) (happ : EncodesBase64Url app) :
    createCanonicalMessageForChallenge app method path t r =
        createCanonicalMessageForChallenge app method path t' r' ↔
      t = t' ∧ r.codeChallenge = r'.codeChallenge ∧ r.verifyingKeyId = r'.verifyingKeyId ∧
        r.expiresIn = r'.expiresIn ∧ r.authorizer.nonce = r'.authorizer.nonce := by
  constructor
  · intro h
    have hlist := congrArg String.toList h
    rw [message_toList, message_toList] at hlist
    obtain ⟨htime, hrest⟩ := Splitting.separated_first (Decimal.not_mem_repr (by decide))
      (Decimal.not_mem_repr (by decide)) hlist
    exact ⟨Decimal.repr_inj htime, signedFields_inj happ (List.append_cancel_left hrest)⟩
  · rintro ⟨rfl, hchallenge, hkey, hexpires, hnonce⟩
    rw [← String.toList_inj, message_toList, message_toList]
    unfold signedFields
    rw [hchallenge, hkey, hexpires, hnonce]

/-- An application with the standard encoder. -/
def sampleApp : AppState :=
  { AppState.sample with base64Url := fun bytes => String.ofList (Base64Url.encode bytes) }

/-- A request of the shop with a nonce that looks like the rest of a message. -/
def sampleRequest (nonce : String) (expiresIn : ExpiresIn) : CreateChallengeRequest where
  headers := fun _ => none
  codeChallenge := ⟨List.replicate 32 6, rfl⟩
  verifyingKeyId := none
  expiresIn := expiresIn
  authorizer := ⟨"shop", 1, nonce, ""⟩

/-- Two lifetimes are signed over different texts, with whatever nonce. -/
theorem sameMessage_lifetimes :
    createCanonicalMessageForChallenge sampleApp "POST" "/v1/challenge" 1
        (sampleRequest ",\"expires_in\":300\x7d:" ⟨60, by decide⟩) ≠
      createCanonicalMessageForChallenge sampleApp "POST" "/v1/challenge" 1
        (sampleRequest "" ⟨300, by decide⟩) := by
  intro h
  have hsame := (sameMessage_iff sampleApp "POST" "/v1/challenge" 1 1 _ _ fun _ => rfl).mp h
  exact absurd (congrArg Subtype.val hsame.2.2.2.1) (by decide)

end CreateChallenge

end ProviiVerifier
