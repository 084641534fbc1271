/-
  `hosted/endpoints/redeem.rs` and `hosted/endpoints/session_check.rs`: the signed session token.

  A token is the Base64 of a JSON payload, a dot, and the Base64 of its HMAC. The redemption takes
  a secret that is not Base64 by its bytes, and the check gives up on such a secret. HMAC is any
  function, and the JSON writer and reader are parameters: what is assumed of them is that the
  payload is read back.

  Proved: for every secret, session, origin and expiry, the token a redemption mints comes through
  the cookie unchanged, and the check takes it before its expiry, with the secret in either slot,
  exactly when the secret is Base64 and the session id is not empty
  (`minted_token_accepted_iff`). No token at all is taken for another origin or after its expiry
  (`handleSessionCheck_verified`).
-/
import ProviiVerifier.Encoding.Base64Url
import ProviiVerifier.SessionCookie

namespace ProviiVerifier

namespace SessionToken

open OriginPatterns (splitOnce)
open SessionCookie

/-- The payload of a token. -/
structure SessionData where
  sessionId : String
  origin : String
  exp : Nat
  deriving DecidableEq

/-- HMAC-SHA256, and the JSON of payloads. -/
structure Codec where
  hmac : Bytes → Bytes → Bytes
  toJson : SessionData → Bytes
  fromJson : Bytes → Option SessionData

/-- `URL_SAFE_NO_PAD.encode`. -/
def encode (bytes : Bytes) : String := String.ofList (Base64Url.encode bytes)

/-- `URL_SAFE_NO_PAD.decode`. -/
def decode (s : String) : Option Bytes := Base64Url.decode s.toList

/-! ## Minting -/

/-- The key a redemption signs with: the decoded secret, or its bytes. -/
def signingKey (secret : String) : Bytes := (decode secret).getD (utf8Bytes secret)

/-- The token `handle_hosted_redeem` mints. -/
def mint (codec : Codec) (secret : String) (data : SessionData) : String :=
  let payload := encode (codec.toJson data)
  payload ++ "." ++ encode (codec.hmac (signingKey secret) (utf8Bytes payload))

/-- The `Set-Cookie` header of a redemption at `now`. -/
def sessionCookie (codec : Codec) (cookieName secret : String) (data : SessionData) (now : Nat) :
    String :=
  generateSessionCookie (mint codec secret data) { name := cookieName, maxAge := data.exp - now }

/-! ## Checking -/

/-- `verify_token`. -/
def verifyToken (codec : Codec) (now : Nat) (token origin secret : String) : Option SessionData :=
  match splitOnce "." token with
  | none => none
  | some (data, sig) =>
    if '.' ∈ sig.toList then none
    else do
      let providedSig ← decode sig
      let secretBytes ← decode secret
      if codec.hmac secretBytes (utf8Bytes data) ≠ providedSig then none
      else do
        let jsonData ← decode data
        let sessionData ← codec.fromJson jsonData
        if now > sessionData.exp then none
        else if sessionData.origin ≠ origin then none
        else if sessionData.sessionId = "" then none
        else some sessionData

/-- `RotationSlot`. -/
inductive RotationSlot
  | current
  | previous
  deriving DecidableEq

/-- `verify_token_with_fallback`. -/
def verifyTokenWithFallback (codec : Codec) (now : Nat) (token origin primary : String)
    (previous : Option String) : Option (SessionData × RotationSlot) :=
  match verifyToken codec now token origin primary with
  | some data => some (data, .current)
  | none =>
    match previous with
    | none => none
    | some prev => (verifyToken codec now token origin prev).map fun data => (data, .previous)

/-- `SessionCheckConfig`. -/
structure SessionCheckConfig where
  secret : String
  previous : Option String
  cookieName : String

/-- `SessionCheckResponse`: the session id and expiry when verified. -/
structure SessionCheckResponse where
  verified : Bool
  session : Option (String × Nat)
  deriving DecidableEq

def SessionCheckResponse.notVerified : SessionCheckResponse :=
  { verified := false, session := none }

/-- `SessionCheckResponse::verified`. -/
def SessionCheckResponse.ofSession (sessionId : String) (expiresAt : Nat) : SessionCheckResponse :=
  if sessionId = "" then .notVerified
  else { verified := true, session := some (sessionId, expiresAt) }

/-- `handle_hosted_session_check`. -/
def handleSessionCheck (codec : Codec) (config : SessionCheckConfig) (cookieHeader : Option String)
    (origin : String) (now : Nat) : SessionCheckResponse :=
  match cookieHeader with
  | none => .notVerified
  | some header =>
    match namedCookie header config.cookieName with
    | none => .notVerified
    | some token =>
      match verifyTokenWithFallback codec now token origin config.secret config.previous with
      | some (data, _) => .ofSession data.sessionId data.exp
      | none => .notVerified

/-! ## What a token says -/

/-- The payload a token carries. -/
def payload (codec : Codec) (token : String) : Option SessionData := do
  let parts ← splitOnce "." token
  let json ← decode parts.1
  codec.fromJson json

variable {codec : Codec} {now : Nat} {token origin secret : String} {data : SessionData}

/-- **Only in time and for its origin**, whatever the token and the secret are. -/
theorem verifyToken_some (h : verifyToken codec now token origin secret = some data) :
    payload codec token = some data ∧ data.origin = origin ∧ now ≤ data.exp ∧
      data.sessionId ≠ "" ∧ (decode secret).isSome := by
  unfold verifyToken at h
  unfold payload
  split at h
  · cases h
  · next part sig hsplit =>
    rw [hsplit]
    split at h
    · cases h
    · obtain ⟨provided, -, h⟩ := Option.bind_eq_some_iff.mp h
      obtain ⟨key, hkey, h⟩ := Option.bind_eq_some_iff.mp h
      split at h
      · cases h
      · obtain ⟨json, hjson, h⟩ := Option.bind_eq_some_iff.mp h
        obtain ⟨read, hread, h⟩ := Option.bind_eq_some_iff.mp h
        split at h
        · cases h
        · next htime =>
          split at h
          · cases h
          · next horigin =>
            split at h
            · cases h
            · next hid =>
              injection h with h
              subst h
              refine ⟨?_, not_not.mp horigin, Nat.le_of_not_lt htime, hid, ?_⟩
              · simp only [Option.bind_eq_bind, Option.bind_some, hjson, hread]
              · rw [hkey]
                rfl

theorem verifyTokenWithFallback_some {primary : String} {previous : Option String}
    {slot : RotationSlot}
    (h : verifyTokenWithFallback codec now token origin primary previous = some (data, slot)) :
    payload codec token = some data ∧ data.origin = origin ∧ now ≤ data.exp := by
  unfold verifyTokenWithFallback at h
  split at h
  · next hprimary =>
    injection h with h
    injection h with hdata _
    obtain ⟨hpayload, horigin, htime, -⟩ := verifyToken_some hprimary
    rw [← hdata]
    exact ⟨hpayload, horigin, htime⟩
  · split at h
    · cases h
    · obtain ⟨read, hread, h⟩ := Option.map_eq_some_iff.mp h
      injection h with hdata _
      obtain ⟨hpayload, horigin, htime, -⟩ := verifyToken_some hread
      rw [← hdata]
      exact ⟨hpayload, horigin, htime⟩

/-! ## A minted token -/

theorem decode_encode (bytes : Bytes) : decode (encode bytes) = some bytes := by
  unfold decode encode
  rw [String.toList_ofList]
  exact Base64Url.decode_encode bytes

theorem mem_encode {bytes : Bytes} {c : Char} (h : c ∈ (encode bytes).toList) :
    c ∈ Base64Url.alphabet := by
  unfold encode at h
  rw [String.toList_ofList] at h
  exact Base64Url.mem_encode bytes c h

theorem dot_not_mem_encode (bytes : Bytes) : '.' ∉ (encode bytes).toList := by
  intro h
  exact absurd (mem_encode h) (by decide)

theorem toList_mint : (mint codec secret data).toList =
    (encode (codec.toJson data)).toList ++ '.' ::
      (encode (codec.hmac (signingKey secret)
        (utf8Bytes (encode (codec.toJson data))))).toList := by
  unfold mint
  dsimp only
  rw [String.toList_append, String.toList_append, List.append_assoc]
  rfl

theorem splitOnce_mint : splitOnce "." (mint codec secret data) =
    some (encode (codec.toJson data),
      encode (codec.hmac (signingKey secret) (utf8Bytes (encode (codec.toJson data))))) := by
  rw [splitOnce_at rfl toList_mint (dot_not_mem_encode _), String.ofList_toList,
    String.ofList_toList]

/-- A token consists of digits and a dot. -/
theorem mint_safe : isCookieValueSafe (mint codec secret data) = true := by
  have hdigits : ∀ c ∈ '.' :: Base64Url.alphabet, isSafeByte c.toNat = true :=
    List.all_eq_true.mp (by decide)
  unfold isCookieValueSafe
  rw [List.all_eq_true]
  intro c hc
  apply hdigits
  rw [toList_mint, List.mem_append, List.mem_cons] at hc
  rcases hc with hc | rfl | hc
  · exact List.mem_cons_of_mem _ (mem_encode hc)
  · exact List.mem_cons_self
  · exact List.mem_cons_of_mem _ (mem_encode hc)

theorem payload_mint (hserde : codec.fromJson (codec.toJson data) = some data) :
    payload codec (mint codec secret data) = some data := by
  unfold payload
  rw [splitOnce_mint]
  simp only [Option.bind_eq_bind, Option.bind_some, decode_encode, hserde]

/-- **The check takes a minted token** under a secret that decodes. -/
theorem verifyToken_mint (hserde : codec.fromJson (codec.toJson data) = some data)
    (hsecret : (decode secret).isSome) (hid : data.sessionId ≠ "") (htime : now ≤ data.exp) :
    verifyToken codec now (mint codec secret data) data.origin secret = some data := by
  obtain ⟨key, hkey⟩ := Option.isSome_iff_exists.mp hsecret
  have hsigning : signingKey secret = key := by
    unfold signingKey
    rw [hkey]
    rfl
  have hnow : ¬ now > data.exp := Nat.not_lt.mpr htime
  unfold verifyToken
  rw [splitOnce_mint]
  dsimp only
  rw [if_neg (dot_not_mem_encode _), hkey, hsigning]
  simp only [Option.bind_eq_bind, Option.bind_some, decode_encode, hserde, ne_eq,
    not_true_eq_false, if_false, hnow, hid]

/-- Whatever verifies it, a minted token gives its payload. -/
theorem verifyToken_mint_eq (hserde : codec.fromJson (codec.toJson data) = some data)
    {other : String} {read : SessionData}
    (h : verifyToken codec now (mint codec secret data) origin other = some read) :
    read = data := by
  have hpayload := (verifyToken_some h).1
  rw [payload_mint hserde, Option.some.injEq] at hpayload
  exact hpayload.symm

/-! ## Through the cookie -/

/-- The `Cookie` header in which a user agent sends the cookie of a `Set-Cookie` header back. -/
def sentBack (before after : List Cookie) (setCookie : String) : Option String :=
  (keptCookie setCookie).map fun kept =>
    cookieHeader (before.map Cookie.pair ++ kept :: after.map Cookie.pair)

/-- The response to a session that is verified. -/
def verifiedResponse (data : SessionData) : SessionCheckResponse :=
  { verified := true, session := some (data.sessionId, data.exp) }

/-- What a minted token is promised. -/
structure MintedAccepted (codec : Codec) (name : CookieName) (secret : String)
    (data : SessionData) (mintedAt : Nat) : Prop where
  /-- Both parsers extract the token unchanged. -/
  extracted : ∀ before after : List Cookie, (∀ c ∈ before ++ after, c.name.val ≠ name.val) →
    ∃ header, sentBack before after (sessionCookie codec name.val secret data mintedAt) =
        some header ∧
      namedCookie header name.val = some (mint codec secret data) ∧
      parseCookie header name.val = some (mint codec secret data)
  /-- The check accepts it before its expiry while the secret is current. -/
  current : ∀ (before after : List Cookie) (previous : Option String) (now : Nat),
    (∀ c ∈ before ++ after, c.name.val ≠ name.val) → now < data.exp →
    handleSessionCheck codec { secret := secret, previous := previous, cookieName := name.val }
      (sentBack before after (sessionCookie codec name.val secret data mintedAt)) data.origin now =
        verifiedResponse data
  /-- And after it has been moved to the previous slot. -/
  previous : ∀ (before after : List Cookie) (primary : String) (now : Nat),
    (∀ c ∈ before ++ after, c.name.val ≠ name.val) → now < data.exp →
    handleSessionCheck codec { secret := primary, previous := some secret, cookieName := name.val }
      (sentBack before after (sessionCookie codec name.val secret data mintedAt)) data.origin now =
        verifiedResponse data
  /-- It is refused for another origin and after its expiry. -/
  refused : ∀ (before after : List Cookie) (config : SessionCheckConfig) (origin : String)
    (now : Nat), (∀ c ∈ before ++ after, c.name.val ≠ name.val) → config.cookieName = name.val →
    origin ≠ data.origin ∨ data.exp < now →
    handleSessionCheck codec config
      (sentBack before after (sessionCookie codec name.val secret data mintedAt)) origin now =
        .notVerified
  /-- So is every token. -/
  only : ∀ (config : SessionCheckConfig) (header origin : String) (now : Nat),
    (handleSessionCheck codec config (some header) origin now).verified = true →
    ∃ token read, namedCookie header config.cookieName = some token ∧
      payload codec token = some read ∧ read.origin = origin ∧ now ≤ read.exp

theorem handleSessionCheck_verified {config : SessionCheckConfig} {header : String}
    (h : (handleSessionCheck codec config (some header) origin now).verified = true) :
    ∃ token read, namedCookie header config.cookieName = some token ∧
      payload codec token = some read ∧ read.origin = origin ∧ now ≤ read.exp := by
  unfold handleSessionCheck at h
  dsimp only at h
  split at h
  · exact absurd h (by decide)
  · next token htoken =>
    split at h
    · next read slot hread =>
      exact ⟨token, read, htoken, verifyTokenWithFallback_some hread⟩
    · exact absurd h (by decide)

variable {name : CookieName} {before after : List Cookie} {mintedAt : Nat}

/-- The header that comes back, and what both parsers read in it. -/
theorem sentBack_mint (hother : ∀ c ∈ before ++ after, c.name.val ≠ name.val) :
    ∃ header, sentBack before after (sessionCookie codec name.val secret data mintedAt) =
        some header ∧
      namedCookie header name.val = some (mint codec secret data) ∧
      parseCookie header name.val = some (mint codec secret data) := by
  have hsafe : isCookieValueSafe (mint codec secret data) = true := mint_safe
  let c := Cookie.ofSafe name (mint codec secret data) hsafe
  have hkept : keptCookie (sessionCookie codec name.val secret data mintedAt) = some c.pair :=
    keptCookie_generate hsafe rfl
  have hplain : Plain c.value := plain_of_safe hsafe
  have hbefore : ∀ d ∈ before, d.name.val ≠ c.name.val := by
    intro d hd
    exact hother d (List.mem_append_left _ hd)
  refine ⟨cookieHeader ((before ++ c :: after).map Cookie.pair), ?_, ?_, ?_⟩
  · unfold sentBack
    rw [hkept, Option.map_some, List.map_append, List.map_cons]
  · exact namedCookie_header hplain hbefore
  · exact parseCookie_header hplain hbefore

/-- The check sees the minted token. -/
theorem handleSessionCheck_mint (hother : ∀ c ∈ before ++ after, c.name.val ≠ name.val)
    {config : SessionCheckConfig} (hname : config.cookieName = name.val) :
    handleSessionCheck codec config
      (sentBack before after (sessionCookie codec name.val secret data mintedAt)) origin now =
      match verifyTokenWithFallback codec now (mint codec secret data) origin config.secret
        config.previous with
      | some (read, _) => .ofSession read.sessionId read.exp
      | none => .notVerified := by
  obtain ⟨header, hsent, hnamed, -⟩ : ∃ header,
      sentBack before after (sessionCookie codec name.val secret data mintedAt) = some header ∧
      namedCookie header name.val = some (mint codec secret data) ∧
      parseCookie header name.val = some (mint codec secret data) := sentBack_mint hother
  unfold handleSessionCheck
  rw [hsent]
  dsimp only
  rw [hname, hnamed]

theorem ofSession_verified (hid : data.sessionId ≠ "") :
    SessionCheckResponse.ofSession data.sessionId data.exp = verifiedResponse data :=
  if_neg hid

/-- Any verification of a minted token has its payload, origin and time. -/
theorem fallback_mint (hserde : codec.fromJson (codec.toJson data) = some data)
    {primary : String} {previous : Option String} {read : SessionData} {slot : RotationSlot}
    (h : verifyTokenWithFallback codec now (mint codec secret data) origin primary previous =
      some (read, slot)) : read = data ∧ data.origin = origin ∧ now ≤ data.exp := by
  obtain ⟨hpayload, horigin, htime⟩ := verifyTokenWithFallback_some h
  rw [payload_mint hserde, Option.some.injEq] at hpayload
  subst hpayload
  exact ⟨rfl, horigin, htime⟩

/-- The secret in the current slot. -/
theorem fallback_current (hserde : codec.fromJson (codec.toJson data) = some data)
    (hsecret : (decode secret).isSome) (hid : data.sessionId ≠ "") (htime : now ≤ data.exp)
    (previous : Option String) :
    verifyTokenWithFallback codec now (mint codec secret data) data.origin secret previous =
      some (data, .current) := by
  unfold verifyTokenWithFallback
  rw [verifyToken_mint hserde hsecret hid htime]

/-- The secret in the previous slot: the primary one may accept the token, with the same
payload. -/
theorem fallback_previous (hserde : codec.fromJson (codec.toJson data) = some data)
    (hsecret : (decode secret).isSome) (hid : data.sessionId ≠ "") (htime : now ≤ data.exp)
    (primary : String) :
    ∃ slot, verifyTokenWithFallback codec now (mint codec secret data) data.origin primary
      (some secret) = some (data, slot) := by
  unfold verifyTokenWithFallback
  cases hprimary : verifyToken codec now (mint codec secret data) data.origin primary with
  | some read =>
    have hread := verifyToken_mint_eq hserde hprimary
    subst hread
    exact ⟨.current, rfl⟩
  | none =>
    dsimp only
    rw [verifyToken_mint hserde hsecret hid htime]
    exact ⟨.previous, rfl⟩

/-- One check while no previous secret is configured shows that the secret decodes. -/
theorem MintedAccepted.decodes (hserde : codec.fromJson (codec.toJson data) = some data)
    (h : MintedAccepted codec name secret data mintedAt) (hexp : 0 < data.exp) :
    (decode secret).isSome ∧ data.sessionId ≠ "" := by
  have hcheck := h.current [] [] none 0 (by simp) hexp
  rw [handleSessionCheck_mint (by simp) rfl] at hcheck
  unfold verifyTokenWithFallback at hcheck
  cases hread : verifyToken codec 0 (mint codec secret data) data.origin secret with
  | some read =>
    have hdata := verifyToken_mint_eq hserde hread
    obtain ⟨-, -, -, hid, hsecret⟩ := verifyToken_some hread
    rw [hdata] at hid
    exact ⟨hsecret, hid⟩
  | none =>
    dsimp only at hcheck
    rw [hread] at hcheck
    have hfalse : false = true := congrArg SessionCheckResponse.verified hcheck
    cases hfalse

/-- **Minted tokens are accepted** exactly when the secret is Base64 and the session id is not
empty. -/
theorem minted_token_accepted_iff (codec : Codec) (name : CookieName) (secret : String)
    (data : SessionData) (mintedAt : Nat)
    (hserde : codec.fromJson (codec.toJson data) = some data) :
    MintedAccepted codec name secret data mintedAt ↔
      data.exp = 0 ∨ ((decode secret).isSome ∧ data.sessionId ≠ "") := by
  constructor
  · intro h
    rcases Nat.eq_zero_or_pos data.exp with hexp | hexp
    · exact .inl hexp
    · exact .inr (h.decodes hserde hexp)
  · intro h
    refine ⟨?_, ?_, ?_, ?_, ?_⟩
    · intro before after hother
      exact sentBack_mint hother
    · intro before after previous now hother htime
      obtain hexp | ⟨hsecret, hid⟩ := h
      · omega
      · rw [handleSessionCheck_mint hother rfl]
        dsimp only
        rw [fallback_current hserde hsecret hid htime.le]
        exact ofSession_verified hid
    · intro before after primary now hother htime
      obtain hexp | ⟨hsecret, hid⟩ := h
      · omega
      · obtain ⟨slot, hslot⟩ := fallback_previous hserde hsecret hid htime.le primary
        rw [handleSessionCheck_mint hother rfl]
        dsimp only
        rw [hslot]
        exact ofSession_verified hid
    · intro before after config origin now hother hname hbad
      rw [handleSessionCheck_mint hother hname]
      split
      · next read slot hread =>
        obtain ⟨-, horigin, htime⟩ := fallback_mint hserde hread
        rcases hbad with hbad | hbad
        · exact absurd horigin.symm hbad
        · omega
      · rfl
    · intro config header origin now hverified
      exact handleSessionCheck_verified hverified

/-! ## A passphrase as the secret -/

/-- A session of one minute. -/
def sampleData : SessionData :=
  { sessionId := "550e8400-e29b-41d4-a716-446655440000"
    origin := "https://shop.example"
    exp := 60 }

/-- The payload's JSON. -/
def sampleJson : Bytes :=
  utf8Bytes ("\x7b\"exp\":60,\"origin\":\"https://shop.example\"," ++
    "\"session_id\":\"550e8400-e29b-41d4-a716-446655440000\"\x7d")

def sampleCodec : Codec :=
  { hmac := fun key message => key ++ message
    toJson := fun _ => sampleJson
    fromJson := fun bytes => if bytes = sampleJson then some sampleData else none }

/-- The default cookie name. -/
def hostSession : CookieName :=
  { val := "__Host-session"
    not_empty := by decide
    trimmed := by decide
    separators := by decide }

theorem sample_reads_back :
    sampleCodec.fromJson (sampleCodec.toJson sampleData) = some sampleData := by
  show (if sampleJson = sampleJson then some sampleData else none) = some sampleData
  exact if_pos rfl

/-- **The tokens of a passphrase** are never accepted. -/
theorem passphrase_token_refused :
    ¬ MintedAccepted sampleCodec hostSession "correct horse battery staple" sampleData 0 := by
  intro h
  obtain ⟨hsecret, -⟩ := h.decodes sample_reads_back (by decide)
  exact absurd hsecret (by decide)

/-- The secret `c2VjcmV0` decodes. -/
theorem base64_token_accepted : MintedAccepted sampleCodec hostSession "c2VjcmV0" sampleData 0 :=
  (minted_token_accepted_iff sampleCodec hostSession "c2VjcmV0" sampleData 0
    sample_reads_back).mpr (.inr ⟨by decide, by decide⟩)

end SessionToken

end ProviiVerifier
