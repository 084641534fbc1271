/-
  `generate_csrf_token` and `validate_csrf_token` of `hosted/endpoints/csrf.rs`, beside the session
  tokens of `hosted/endpoints/session_check.rs`.

  A CSRF token is the Base64 of a time and of a hash of the session, a dot, and the Base64 of an
  HMAC of the first part. Session tokens have the same shape, and the key of both is the session
  secret. HMAC is any function; that its first 16 bytes differ is assumed of the inputs that occur
  only, since no function into 16 bytes is injective. Of the JSON reader it is assumed that the text
  of a payload starts, after white space, with a bracket.

  Proved: a token is valid exactly for its session, its key and its lifetime, no string is valid as
  a CSRF token and as a session token under one key, and no second string with the same first part
  is valid (`tokens_bind`).
-/
import ProviiVerifier.Encoding.Decimal
import ProviiVerifier.HostedKeys
import ProviiVerifier.SessionToken

namespace ProviiVerifier

namespace CsrfToken

open OriginPatterns (splitOnce)
open SessionCookie (splitOnce_at)
open SessionToken (Codec SessionData encode decode verifyToken dot_not_mem_encode)
open HostedKeys (fromUtf8)

/-- `CsrfValidationError`. -/
inductive CsrfValidationError
  | missing
  | invalidFormat
  | invalidSignature
  | expired
  | sessionMismatch
  deriving DecidableEq

/-- `session_hash_prefix`. -/
def sessionHashPrefix (hmac : Bytes → Bytes → Bytes) (sessionId : String) (signingKey : Bytes) :
    String :=
  encode ((hmac signingKey (utf8Bytes sessionId)).take 16)

/-- The first part of a token that is issued at `now`. -/
def payloadPart (hmac : Bytes → Bytes → Bytes) (sessionId : String) (signingKey : Bytes)
    (now : Nat) : String :=
  encode (utf8Bytes (toString now ++ ":" ++ sessionHashPrefix hmac sessionId signingKey))

/-- The second part of a token. -/
def signaturePart (hmac : Bytes → Bytes → Bytes) (signingKey : Bytes) (payload : String) : String :=
  encode (hmac signingKey (utf8Bytes payload))

/-- `generate_csrf_token`: the token and its end. -/
def generateCsrfToken (hmac : Bytes → Bytes → Bytes) (sessionId : String) (signingKey : Bytes)
    (tokenExpirationSeconds now : Nat) : String × Nat :=
  let payload := payloadPart hmac sessionId signingKey now
  (payload ++ "." ++ signaturePart hmac signingKey payload,
    NonceDO.satAdd now tokenExpirationSeconds)

/-- `validate_csrf_token`. -/
def validateCsrfToken (hmac : Bytes → Bytes → Bytes) (token expectedSessionId : String)
    (signingKey : Bytes) (maxAgeSeconds now : Nat) : Except CsrfValidationError Unit :=
  if token = "" then .error .missing
  else
    match splitOnce "." token with
    | none => .error .invalidFormat
    | some (payload, sig) =>
      if payload = "" ∨ sig = "" then .error .invalidFormat
      else if sig ≠ signaturePart hmac signingKey payload then .error .invalidSignature
      else
        match (decode payload).bind fromUtf8 with
        | none => .error .invalidFormat
        | some payload =>
          match splitOnce ":" payload with
          | none => .error .invalidFormat
          | some (ts, sessionHash) =>
            match Decimal.parse HostedCounter.maxU64 ts.toList with
            | none => .error .invalidFormat
            | some issuedAt =>
              if now - issuedAt > maxAgeSeconds then .error .expired
              else if sessionHash ≠ sessionHashPrefix hmac expectedSessionId signingKey then
                .error .sessionMismatch
              else .ok ()

/-! ## Assumptions -/

/-- The first 16 bytes of the HMACs of these keys and messages differ. -/
def CollisionFree (hmac : Bytes → Bytes → Bytes) (inputs : Set (Bytes × Bytes)) : Prop :=
  inputs.InjOn fun input => (hmac input.1 input.2).take 16

/-- Space, tab and the two line ends. -/
def isJsonWhitespace (b : UInt8) : Bool := b = 32 || b = 9 || b = 10 || b = 13

/-- A structure is read from an object or an array only. -/
def ReadsBracketed (fromJson : Bytes → Option SessionData) : Prop :=
  ∀ bytes data, fromJson bytes = some data → ∃ space b rest,
    bytes = space ++ b :: rest ∧ (∀ x ∈ space, isJsonWhitespace x = true) ∧ (b = 123 ∨ b = 91)

/-! ## What validates -/

variable {hmac : Bytes → Bytes → Bytes} {token sessionId sessionId' : String} {key key' : Bytes}
  {maxAge now issued : Nat} {inputs : Set (Bytes × Bytes)}

/-- What a valid token consists of. -/
structure Valid (hmac : Bytes → Bytes → Bytes) (token sessionId : String) (key : Bytes)
    (maxAge now : Nat) (payload : String) (issued : Nat) : Prop where
  split : splitOnce "." token = some (payload, signaturePart hmac key payload)
  decoded : ∃ text ts, decode payload = some (utf8Bytes text) ∧
    splitOnce ":" text = some (ts, sessionHashPrefix hmac sessionId key) ∧
    Decimal.parse HostedCounter.maxU64 ts.toList = some issued
  age : now - issued ≤ maxAge

theorem valid_of_ok (h : validateCsrfToken hmac token sessionId key maxAge now = .ok ()) :
    ∃ payload issued, Valid hmac token sessionId key maxAge now payload issued := by
  unfold validateCsrfToken at h
  split at h
  · cases h
  split at h
  · cases h
  next payload sig hsplit =>
  split at h
  · cases h
  split at h
  · cases h
  next hsig =>
  split at h
  · cases h
  next text htext =>
  split at h
  · cases h
  next ts sessionHash hparts =>
  split at h
  · cases h
  next issued hissued =>
  split at h
  · cases h
  next hage =>
  split at h
  · cases h
  next hhash =>
  obtain ⟨bytes, hbytes, hutf8⟩ := Option.bind_eq_some_iff.mp htext
  rw [← HostedKeys.utf8Bytes_of_fromUtf8 hutf8] at hbytes
  rw [not_not.mp hsig] at hsplit
  rw [not_not.mp hhash] at hparts
  exact ⟨payload, issued, hsplit, ⟨text, ts, hbytes, hparts, hissued⟩, Nat.le_of_not_lt hage⟩

theorem encode_inj {a b : Bytes} (h : encode a = encode b) : a = b := by
  have ha := SessionToken.decode_encode a
  rw [h, SessionToken.decode_encode] at ha
  injection ha with ha
  exact ha.symm

theorem encode_ne_empty {a : Bytes} (h : a ≠ []) : encode a ≠ "" := by
  intro hempty
  exact h (encode_inj hempty)

/-- HMAC-SHA256 gives 32 bytes. -/
def Bytes32 (hmac : Bytes → Bytes → Bytes) : Prop := ∀ key message, (hmac key message).length = 32

theorem ok_of_valid (hlength : Bytes32 hmac) {payload : String}
    (h : Valid hmac token sessionId key maxAge now payload issued) :
    validateCsrfToken hmac token sessionId key maxAge now = .ok () := by
  obtain ⟨text, ts, hdecode, hparts, hissued⟩ := h.decoded
  have htoken : token ≠ "" := by
    intro hempty
    have hnone : splitOnce "." "" = none := by decide
    have hsplit := h.split
    rw [hempty, hnone] at hsplit
    cases hsplit
  have hpayload : payload ≠ "" := by
    intro hempty
    rw [hempty, show decode "" = some [] from rfl, Option.some.injEq] at hdecode
    have hnone : splitOnce ":" "" = none := by decide
    have htext : text = "" := utf8Bytes_injective hdecode.symm
    rw [htext, hnone] at hparts
    cases hparts
  have hsig : signaturePart hmac key payload ≠ "" := by
    refine encode_ne_empty fun hnil => ?_
    have hlen := hlength key (utf8Bytes payload)
    rw [hnil] at hlen
    cases hlen
  unfold validateCsrfToken
  rw [if_neg htoken, h.split]
  dsimp only
  rw [if_neg (not_or.mpr ⟨hpayload, hsig⟩), if_neg (not_not.mpr rfl), hdecode, Option.bind_some,
    HostedKeys.fromUtf8_utf8Bytes]
  dsimp only
  rw [hparts]
  dsimp only
  rw [hissued]
  dsimp only
  rw [if_neg (Nat.not_lt.mpr h.age), if_neg (not_not.mpr rfl)]

/-! ## Generated tokens -/

variable {secs : Nat}

theorem split_generated : splitOnce "." (generateCsrfToken hmac sessionId key secs issued).1 =
    some (payloadPart hmac sessionId key issued,
      signaturePart hmac key (payloadPart hmac sessionId key issued)) := by
  have hlist : (generateCsrfToken hmac sessionId key secs issued).1.toList =
      (payloadPart hmac sessionId key issued).toList ++ '.' ::
        (signaturePart hmac key (payloadPart hmac sessionId key issued)).toList := by
    unfold generateCsrfToken
    dsimp only
    rw [String.toList_append, String.toList_append, List.append_assoc]
    rfl
  rw [splitOnce_at rfl hlist (dot_not_mem_encode _), String.ofList_toList, String.ofList_toList]

/-- What the first part of a token says. -/
theorem decode_payloadPart : decode (payloadPart hmac sessionId key issued) =
    some (utf8Bytes (toString issued ++ ":" ++ sessionHashPrefix hmac sessionId key)) :=
  SessionToken.decode_encode _

theorem split_payload :
    splitOnce ":" (toString issued ++ ":" ++ sessionHashPrefix hmac sessionId key) =
      some (toString issued, sessionHashPrefix hmac sessionId key) := by
  have hlist : (toString issued ++ ":" ++ sessionHashPrefix hmac sessionId key).toList =
      issued.repr.toList ++ ':' :: (sessionHashPrefix hmac sessionId key).toList := by
    rw [String.toList_append, String.toList_append, List.append_assoc]
    rfl
  rw [splitOnce_at rfl hlist (Decimal.not_mem_repr (by decide)), String.ofList_toList,
    String.ofList_toList]
  rfl

/-- **The context.** Whatever is valid and has the first part of a token is valid for the session
and the key of that token, at its age. -/
theorem Valid.context
    (hfree : CollisionFree hmac {(key, utf8Bytes sessionId), (key', utf8Bytes sessionId')})
    (hissued : issued ≤ HostedCounter.maxU64) {read : Nat}
    (h : Valid hmac token sessionId' key' maxAge now (payloadPart hmac sessionId key issued) read) :
    sessionId = sessionId' ∧ key = key' ∧ now - issued ≤ maxAge := by
  obtain ⟨text, ts, hdecode, hparts, hread⟩ := h.decoded
  rw [decode_payloadPart, Option.some.injEq] at hdecode
  rw [← utf8Bytes_injective hdecode, split_payload, Option.some.injEq, Prod.mk.injEq] at hparts
  obtain ⟨rfl, hhash⟩ := hparts
  have hsame : (key, utf8Bytes sessionId) = (key', utf8Bytes sessionId') :=
    hfree (Set.mem_insert _ _) (Set.mem_insert_of_mem _ rfl) (encode_inj hhash)
  rw [Prod.mk.injEq] at hsame
  have hparse : Decimal.parse HostedCounter.maxU64 (toString issued).toList = some issued :=
    Decimal.parse_repr hissued
  rw [hparse, Option.some.injEq] at hread
  rw [hread]
  exact ⟨utf8Bytes_injective hsame.2, hsame.1, h.age⟩

theorem valid_generated (hissued : issued ≤ HostedCounter.maxU64) (hage : now - issued ≤ maxAge) :
    Valid hmac (generateCsrfToken hmac sessionId key secs issued).1 sessionId key maxAge now
      (payloadPart hmac sessionId key issued) issued :=
  ⟨split_generated, ⟨_, _, decode_payloadPart, split_payload, Decimal.parse_repr hissued⟩, hage⟩

theorem toList_of_splitOnce {sep text a b : String} (h : splitOnce sep text = some (a, b)) :
    text.toList = a.toList ++ (sep.toList ++ b.toList) := by
  obtain ⟨parts, hparts, heq⟩ := Option.map_eq_some_iff.mp h
  injection heq with ha hb
  rw [← ha, ← hb, String.toList_ofList, String.toList_ofList]
  exact Splitting.splitOnce_some hparts

/-- A valid token has no choice but its first part, its session and its key. -/
theorem Valid.token_eq {payload : String}
    (h : Valid hmac token sessionId key maxAge now payload issued) :
    token = payload ++ "." ++ signaturePart hmac key payload := by
  rw [← String.toList_inj, String.toList_append, String.toList_append, List.append_assoc]
  exact toList_of_splitOnce h.split

/-! ## Session tokens -/

variable {codec : Codec} {origin secret : String} {data : SessionData}

/-- What `verify_token` has checked of the parts of a token. -/
theorem verifyToken_parts (h : verifyToken codec now token origin secret = some data) :
    ∃ part sig secretBytes json, splitOnce "." token = some (part, sig) ∧
      decode secret = some secretBytes ∧
      decode sig = some (codec.hmac secretBytes (utf8Bytes part)) ∧
      decode part = some json ∧ codec.fromJson json = some data := by
  unfold verifyToken at h
  split at h
  · cases h
  next part sig hsplit =>
  split at h
  · cases h
  obtain ⟨provided, hprovided, h⟩ := Option.bind_eq_some_iff.mp h
  obtain ⟨secretBytes, hsecret, h⟩ := Option.bind_eq_some_iff.mp h
  split at h
  · cases h
  next hmac =>
  obtain ⟨json, hjson, h⟩ := Option.bind_eq_some_iff.mp h
  obtain ⟨read, hread, h⟩ := Option.bind_eq_some_iff.mp h
  split at h
  · cases h
  split at h
  · cases h
  split at h
  · cases h
  injection h with h
  rw [h] at hread
  rw [← not_not.mp hmac] at hprovided
  exact ⟨part, sig, secretBytes, json, hsplit, hsecret, hprovided, hjson, hread⟩

theorem decode_inj {a b : String} {bytes : Bytes} (ha : decode a = some bytes)
    (hb : decode b = some bytes) : a = b := by
  have hlist := Base64Url.encode_of_decode ha
  rw [Base64Url.encode_of_decode hb] at hlist
  exact (String.toList_inj.mp hlist).symm

/-- The first byte of a text whose first character is ASCII. -/
theorem utf8Bytes_head {s : String} {c : Char} {rest : List Char} (hs : s.toList = c :: rest)
    (hc : c.toNat < 128) : ∃ tail, utf8Bytes s = UInt8.ofNat c.toNat :: tail := by
  refine ⟨rest.flatMap String.utf8EncodeChar, ?_⟩
  unfold utf8Bytes
  rw [hs, List.flatMap_cons, utf8EncodeChar_ascii hc]
  rfl

/-- A text that starts with a number is read as no structure. -/
theorem fromJson_number (hjson : ReadsBracketed codec.fromJson) {text ts rest : String}
    (hparts : splitOnce ":" text = some (ts, rest))
    (hread : Decimal.parse HostedCounter.maxU64 ts.toList = some issued) :
    codec.fromJson (utf8Bytes text) = none := by
  obtain ⟨c, digits, hts, hc⟩ := Decimal.head_of_parse hread
  have htail : text.toList = c :: (digits ++ (":".toList ++ rest.toList)) := by
    rw [toList_of_splitOnce hparts, hts]
    rfl
  -- the code of a digit or of the plus sign
  have hcode : c.toNat = 43 ∨ 48 ≤ c.toNat ∧ c.toNat ≤ 57 := by
    rcases hc with rfl | hdigit
    · exact .inl rfl
    · right
      simpa [Char.isDigit, UInt32.le_iff_toNat_le] using hdigit
  obtain ⟨bytes, hbytes⟩ := utf8Bytes_head htail (by omega)
  by_contra hsome
  obtain ⟨read, hread⟩ := Option.ne_none_iff_exists'.mp hsome
  obtain ⟨space, b, rest', heq, hspace, hb⟩ := hjson _ _ hread
  rw [hbytes] at heq
  have hnat : (UInt8.ofNat c.toNat).toNat = c.toNat := Base64Url.toNat_ofNat (by omega)
  cases space with
  | nil =>
    injection heq with hfirst _
    rcases hb with rfl | rfl
    · have hn := congrArg UInt8.toNat hfirst
      rw [hnat] at hn
      have hn : c.toNat = 123 := hn
      omega
    · have hn := congrArg UInt8.toNat hfirst
      rw [hnat] at hn
      have hn : c.toNat = 91 := hn
      omega
  | cons x space =>
    injection heq with hfirst _
    have hx := hspace x List.mem_cons_self
    unfold isJsonWhitespace at hx
    simp only [Bool.or_eq_true, decide_eq_true_eq] at hx
    have hn : x.toNat = c.toNat := by rw [← hfirst, hnat]
    have hcases : x.toNat = 32 ∨ x.toNat = 9 ∨ x.toNat = 10 ∨ x.toNat = 13 := by
      rcases hx with ((rfl | rfl) | rfl) | rfl
      · exact .inl rfl
      · exact .inr (.inl rfl)
      · exact .inr (.inr (.inl rfl))
      · exact .inr (.inr (.inr rfl))
    omega

/-! ## Both kinds -/

/-- Tokens bind what they are issued for. -/
structure TokensBind (codec : Codec) : Prop where
  /-- A generated token is valid for its session, under its key and for its lifetime. -/
  context : ∀ (sessionId sessionId' : String) (key key' : Bytes) (secs maxAge issued now : Nat),
    issued ≤ HostedCounter.maxU64 →
    CollisionFree codec.hmac {(key, utf8Bytes sessionId), (key', utf8Bytes sessionId')} →
    (validateCsrfToken codec.hmac (generateCsrfToken codec.hmac sessionId key secs issued).1
        sessionId' key' maxAge now = .ok () ↔
      sessionId = sessionId' ∧ key = key' ∧ now - issued ≤ maxAge)
  /-- No other string with its first part is valid for anything. -/
  unique : ∀ (sessionId sessionId' token sig : String) (key key' : Bytes)
    (secs maxAge issued now : Nat), issued ≤ HostedCounter.maxU64 →
    CollisionFree codec.hmac {(key, utf8Bytes sessionId), (key', utf8Bytes sessionId')} →
    splitOnce "." token = some (payloadPart codec.hmac sessionId key issued, sig) →
    token ≠ (generateCsrfToken codec.hmac sessionId key secs issued).1 →
    validateCsrfToken codec.hmac token sessionId' key' maxAge now ≠ .ok ()
  /-- No string is valid as both kinds, whatever the keys are. -/
  disjoint : ∀ (token sessionId origin secret : String) (key : Bytes) (maxAge now now' : Nat),
    validateCsrfToken codec.hmac token sessionId key maxAge now = .ok () →
    verifyToken codec now' token origin secret = none
  /-- Of the strings with one first part one is accepted as a session token, at most. -/
  uniqueSession : ∀ (token token' part sig sig' origin origin' secret : String)
    (data data' : SessionData) (now now' : Nat),
    splitOnce "." token = some (part, sig) → splitOnce "." token' = some (part, sig') →
    verifyToken codec now token origin secret = some data →
    verifyToken codec now' token' origin' secret = some data' → token = token'

/-- **Tokens bind exactly their context**: CSRF tokens to session, key and time, and neither kind
passes for the other. -/
theorem tokens_bind (codec : Codec) (hlength : Bytes32 codec.hmac)
    (hjson : ReadsBracketed codec.fromJson) : TokensBind codec := by
  refine ⟨?_, ?_, ?_, ?_⟩
  · intro sessionId sessionId' key key' secs maxAge issued now hissued hfree
    constructor
    · intro h
      obtain ⟨payload, read, hvalid⟩ := valid_of_ok h
      have hsplit := hvalid.split
      rw [split_generated, Option.some.injEq, Prod.mk.injEq] at hsplit
      rw [← hsplit.1] at hvalid
      exact hvalid.context hfree hissued
    · rintro ⟨rfl, rfl, hage⟩
      exact ok_of_valid hlength (valid_generated hissued hage)
  · intro sessionId sessionId' token sig key key' secs maxAge issued now hissued hfree hsplit hne h
    obtain ⟨payload, read, hvalid⟩ := valid_of_ok h
    have hpayload := hvalid.split
    rw [hsplit, Option.some.injEq, Prod.mk.injEq] at hpayload
    rw [← hpayload.1] at hvalid
    obtain ⟨rfl, rfl, -⟩ := hvalid.context hfree hissued
    exact hne hvalid.token_eq
  · intro token sessionId origin secret key maxAge now now' h
    obtain ⟨payload, issued, hvalid⟩ := valid_of_ok h
    obtain ⟨text, ts, hdecode, hparts, hread⟩ := hvalid.decoded
    by_contra hsome
    obtain ⟨data, hdata⟩ := Option.ne_none_iff_exists'.mp hsome
    obtain ⟨part, sig, secretBytes, json, hsplit, -, -, hpart, hfrom⟩ := verifyToken_parts hdata
    rw [hvalid.split, Option.some.injEq, Prod.mk.injEq] at hsplit
    rw [← hsplit.1, hdecode, Option.some.injEq] at hpart
    rw [← hpart, fromJson_number hjson hparts hread] at hfrom
    cases hfrom
  · intro token token' part sig sig' origin origin' secret data data' now now' hs hs' h h'
    obtain ⟨part₁, sig₁, secret₁, _, hsplit₁, hsecret₁, hsig₁, -, -⟩ := verifyToken_parts h
    obtain ⟨part₂, sig₂, secret₂, _, hsplit₂, hsecret₂, hsig₂, -, -⟩ := verifyToken_parts h'
    rw [hs, Option.some.injEq, Prod.mk.injEq] at hsplit₁
    rw [hs', Option.some.injEq, Prod.mk.injEq] at hsplit₂
    rw [hsecret₁, Option.some.injEq] at hsecret₂
    rw [← hsplit₁.1, ← hsplit₁.2] at hsig₁
    rw [← hsplit₂.1, ← hsplit₂.2, ← hsecret₂] at hsig₂
    rw [← String.toList_inj, toList_of_splitOnce hs, toList_of_splitOnce hs',
      decode_inj hsig₁ hsig₂]

/-- A keyed hash that tells short messages and keys apart, and a reader of one text. -/
def sampleCodec : Codec where
  hmac := fun key message => (message ++ 0 :: key ++ List.replicate 32 0).take 32
  toJson := fun _ => utf8Bytes "\x7b\x7d"
  fromJson := fun bytes =>
    if bytes = utf8Bytes "\x7b\x7d" then some ⟨"s1", "https://shop", 99⟩ else none

/-- A token is valid for its session and for no other one. -/
theorem token_bound :
    validateCsrfToken sampleCodec.hmac (generateCsrfToken sampleCodec.hmac "s1" [7] 3600 10).1
        "s1" [7] 3600 20 = .ok () ∧
      validateCsrfToken sampleCodec.hmac (generateCsrfToken sampleCodec.hmac "s1" [7] 3600 10).1
        "s2" [7] 3600 20 ≠ .ok () := by
  have hlength : Bytes32 sampleCodec.hmac := by
    intro key message
    show ((message ++ 0 :: key ++ List.replicate 32 0).take 32).length = 32
    rw [List.length_take, List.length_append, List.length_replicate]
    omega
  have hjson : ReadsBracketed sampleCodec.fromJson := by
    intro bytes data h
    have h : (if bytes = utf8Bytes "\x7b\x7d" then some (⟨"s1", "https://shop", 99⟩ : SessionData)
      else none) = some data := h
    split at h
    · next hbytes =>
      exact ⟨[], 123, [125], hbytes, fun x hx => absurd hx List.not_mem_nil, .inl rfl⟩
    · cases h
  have hbind := tokens_bind sampleCodec hlength hjson
  constructor
  · exact (hbind.context "s1" "s1" [7] [7] 3600 3600 10 20 (by decide)
      (by simp [CollisionFree])).mpr ⟨rfl, rfl, by decide⟩
  · intro h
    have hsame := (hbind.context "s1" "s2" [7] [7] 3600 3600 10 20 (by decide) ?_).mp h
    · exact absurd hsame.1 (by decide)
    · unfold CollisionFree
      rw [Set.injOn_pair]
      intro hhash
      exact absurd hhash (by decide +kernel)

end CsrfToken

end ProviiVerifier
