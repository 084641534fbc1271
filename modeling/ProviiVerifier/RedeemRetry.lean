/-
  What a redemption that failed leaves to its retry.

  Both routes consume their tag of a challenge before the credits are enforced and the verdict is
  written, and the hosted route before it looks at the record; no failure gives the tag back, and
  the tag is retained as long as a challenge lives. The hosted route also counts every attempt.

  Proved: in every run, a correct redemption of a challenge that waits for it, retried alone over
  healthy dependencies and with credits, succeeds exactly when the route's tag is free and, on the
  expert route, no idempotency is asked for, on the hosted route, an attempt is left; an earlier
  request that passed the nonce gate rules that out for 300 seconds (`redeem_retry_iff`).
-/
import ProviiVerifier.Retry
import ProviiVerifier.Billing

namespace ProviiVerifier

open Interleaving Prog

variable {app : AppState} {pick : (op : Op) → Choice op} {s s' : State} {id : Uuid}
  {origin : String} {c e : CachedChallenge} {now : Nat}

/-! ## Credits, alone -/

/-- Records, nonces, clock and origin index are as before. -/
structure SameStores (s s' : State) : Prop where
  challenges : s'.challenges = s.challenges
  nonces : s'.nonces = s.nonces
  clock : s'.clock = s.clock
  originIndex : s'.originIndex = s.originIndex

theorem SameStores.refl (s : State) : SameStores s s := ⟨rfl, rfl, rfl, rfl⟩

theorem SameStores.record (h : SameStores s s') : s'.record id = s.record id := by
  unfold State.record
  rw [h.challenges]

theorem SameStores.tagFree (h : SameStores s s') {tag : String} :
    TagFree app s' tag ↔ TagFree app s tag := by
  unfold TagFree
  rw [h.nonces, h.clock]

theorem sameStores_deduct (s : State) (req : ConsumeCreditsRequest) :
    SameStores s (s.deduct req).2 := by
  unfold State.deduct
  split
  · exact .refl s
  · exact ⟨rfl, rfl, rfl, rfl⟩

/-- A deduction, now or before, reads as settled. -/
theorem settled_deduct (s : State) (req : ConsumeCreditsRequest) :
    Credits.Settled (Credits.parseConsumeResponse
      { CreditReply.json 200 with status := (s.deduct req).1 }) := by
  unfold State.deduct
  split
  · show Credits.Settled (Credits.parseConsumeResponse (.json 409))
    exact .inr (by decide)
  · show Credits.Settled (Credits.parseConsumeResponse (.json 200))
    exact .inl (by decide)

/-- One attempt is settled, unless the request may not be sent; it is not tried again. -/
theorem alone_consumeCreditsOnce (app : AppState) (s : State) (hp : Healthy pick)
    (req : ConsumeCreditsRequest) :
    ∃ r s', alone app pick (Credits.consumeCreditsOnce app req) s = (.ok r, s') ∧
      SameStores s s' ∧ (Credits.checkRequest app req = true → Credits.Settled r) ∧
      r ≠ .error .serviceUnavailable := by
  unfold Credits.consumeCreditsOnce
  by_cases hcheck : Credits.checkRequest app req = false
  · refine ⟨.error .invalidRequest, s, ?_, .refl s, fun htrue => ?_, nofun⟩
    · rw [if_pos hcheck]
      rfl
    · rw [hcheck] at htrue
      cases htrue
  · have hperform : perform app s (.credits true req) (pick (.credits true req)) =
        (some { CreditReply.json 200 with status := (s.deduct req).1 }, (s.deduct req).2) := by
      rw [hp.credits]
      rfl
    have hsettled := settled_deduct s req
    refine ⟨_, (s.deduct req).2, ?_, sameStores_deduct s req, fun _ => hsettled, ?_⟩
    · rw [if_neg hcheck, alone_await, hperform]
      rfl
    · intro hunavailable
      rw [hunavailable] at hsettled
      obtain hok | hconflict := hsettled
      · cases hok
      · cases hconflict

/-- **A charge** that may be sent is settled. -/
theorem alone_consumeCredits (app : AppState) (s : State) (hp : Healthy pick)
    (req : ConsumeCreditsRequest) :
    ∃ r s', alone app pick (Credits.consumeCredits app req) s = (.ok r, s') ∧
      SameStores s s' ∧ (Credits.checkRequest app req = true → Credits.Settled r) := by
  obtain ⟨r, s', honce, hsame, hsettled, hfinal⟩ := alone_consumeCreditsOnce app s hp req
  refine ⟨r, s', ?_, hsame, hsettled⟩
  unfold Credits.consumeCredits
  show alone app pick (Credits.consumeCreditsOnce app req >>= _) s = _
  rw [alone_bind_ok honce]
  cases r with
  | ok _ => rfl
  | error e => cases e <;> first | rfl | exact absurd rfl hfinal

/-- A metered origin can be charged. -/
def Billable (app : AppState) (s : State) (id : Uuid) (origin : String) (c : CachedChallenge) :
    Prop :=
  Credits.showsMetered app (.ofOption (s.originIndex origin)) = true →
    app.creditManagementClient = true ∧
      Credits.checkRequest app (Credits.chargeFor app id origin c) = true

theorem alone_enforceCredits (hp : Healthy pick) (hbill : Billable app s id origin c) :
    ∃ metered s', alone app pick (Credits.enforceCredits app id origin c) s = (.ok metered, s') ∧
      SameStores s s' := by
  have hread : perform app s (.originIndexGet origin) (pick (.originIndexGet origin)) =
      (.ofOption (s.originIndex origin), s) := by
    rw [hp.originIndexGet]
    rfl
  unfold Credits.enforceCredits
  rw [alone_await, hread]
  dsimp only
  by_cases hmetered : Credits.showsMetered app (.ofOption (s.originIndex origin)) = true
  · obtain ⟨hclient, hcheck⟩ := hbill hmetered
    obtain ⟨r, s', hconsume, hsame, hsettled⟩ :=
      alone_consumeCredits app s hp (Credits.chargeFor app id origin c)
    refine ⟨true, s', ?_, hsame⟩
    rw [if_pos hmetered, if_pos hclient, alone_bind_ok hconsume]
    obtain rfl | rfl := hsettled hcheck
    · rfl
    · rfl
  · exact ⟨false, s, by rw [if_neg hmetered]; rfl, .refl s⟩

theorem alone_consumeBestEffort (app : AppState) (s : State) (hp : Healthy pick) (id : Uuid)
    (origin : String) (c : CachedChallenge) :
    ∃ s', alone app pick (Credits.consumeBestEffort app id origin c) s = (.ok (), s') ∧
      SameStores s s' := by
  unfold Credits.consumeBestEffort
  split
  · obtain ⟨r, s', hconsume, hsame, -⟩ :=
      alone_consumeCredits app s hp (Credits.chargeFor app id origin c)
    refine ⟨s', ?_, hsame⟩
    rw [alone_bind_ok hconsume]
    rfl
  · exact ⟨s, rfl, .refl s⟩

/-- **A verdict** on a record that waits for one is stored. -/
theorem alone_grantVerdict (hp : Healthy pick) (hstored : s.record id = some e)
    (hwaiting : e.state = .proofOkWaitingForRedeem) (hbill : Billable app s id origin c)
    (hcheck : ChallengeStore.checkChallenge app id (c.verdict now) = .ok ()) :
    ∃ s' c', alone app pick (grantVerdict app id origin c now) s = (.ok (), s') ∧
      s'.record id = some c' ∧ c'.state = .verified := by
  obtain ⟨metered, s₁, henforce, hsame⟩ := alone_enforceCredits hp hbill
  have htrans : isValidTransition e.state (c.verdict now).state = true := by
    rw [hwaiting]
    rfl
  have hput := alone_put hp (hsame.record.trans hstored) hcheck (.inr rfl) htrans
  unfold grantVerdict
  rw [alone_bind_ok henforce, alone_attempt_bind hput]
  cases metered with
  | true => exact ⟨_, _, rfl, putRecord_record, rfl⟩
  | false =>
    obtain ⟨s₂, hbest, hsame₂⟩ := alone_consumeBestEffort app
      (s₁.putRecord id (ChallengeDO.mergeUpdate e (c.verdict now).asUpdate)) hp id origin c
    exact ⟨s₂, _, hbest, hsame₂.record.trans putRecord_record, rfl⟩

/-! ## The expert route, alone -/

namespace Redeem

variable {req : RedeemRequest}

/-- The owner that a redemption is authenticated against: the sandbox reads the record first. -/
def expectedOwner (app : AppState) (c : CachedChallenge) : Option String :=
  if app.environment = "sandbox" then c.clientId else none

/-- A correct redemption, of a challenge that waits for one. -/
structure Redeemable (app : AppState) (pick : (op : Op) → Choice op) (s : State)
    (req : RedeemRequest) (c : CachedChallenge) : Prop where
  stored : s.record req.sid = some c
  valid : c.validate = .ok ()
  waiting : c.state = .proofOkWaitingForRedeem
  live : s.clock < c.expiresAt
  key : ∃ key, Idempotency.extractIdempotencyKey app.uni req.headers "POST" "/v1/redeem" = .ok key
  metadata : validateFetchMetadata app.uni req.headers = .ok ()
  /-- The requester is authenticated as the owner of the challenge. -/
  authorised : ∃ auth clientId, (alone app pick (authenticateApiKey app req.headers
      ⟨expectedOwner app c, false, none⟩) s).1 = .ok auth ∧ auth.clientId = some clientId ∧
    verifyOwnership c.clientId (some clientId) = .ok ()
  pkce : app.sha256 (utf8Bytes req.codeVerifier.text) = c.codeChallengeBytes
  billable : Billable app s req.sid c.origin c.zeroizeSecret
  /-- The record is within the limits of the store. -/
  storable : ∀ now, ChallengeStore.checkChallenge app req.sid (c.zeroizeSecret.verdict now) = .ok ()

/-- A correct redemption of a challenge that waits for one, whoever is charged for it. -/
structure Presented (app : AppState) (pick : (op : Op) → Choice op) (s : State)
    (req : RedeemRequest) (c : CachedChallenge) : Prop where
  stored : s.record req.sid = some c
  valid : c.validate = .ok ()
  waiting : c.state = .proofOkWaitingForRedeem
  live : s.clock < c.expiresAt
  key : ∃ key, Idempotency.extractIdempotencyKey app.uni req.headers "POST" "/v1/redeem" = .ok key
  metadata : validateFetchMetadata app.uni req.headers = .ok ()
  authorised : ∃ auth clientId, (alone app pick (authenticateApiKey app req.headers
      ⟨expectedOwner app c, false, none⟩) s).1 = .ok auth ∧ auth.clientId = some clientId ∧
    verifyOwnership c.clientId (some clientId) = .ok ()
  pkce : app.sha256 (utf8Bytes req.codeVerifier.text) = c.codeChallengeBytes
  storable : ∀ now, ChallengeStore.checkChallenge app req.sid (c.zeroizeSecret.verdict now) = .ok ()

theorem Redeemable.presented (h : Redeemable app pick s req c) : Presented app pick s req c :=
  ⟨h.stored, h.valid, h.waiting, h.live, h.key, h.metadata, h.authorised, h.pkce, h.storable⟩

/-- The request asks for no idempotency, or the deployment has no store for it. -/
def Unkeyed (app : AppState) (req : RedeemRequest) : Prop :=
  req.headers "Idempotency-Key" = none ∨ app.idempotencyStore = false

/-- The redemption succeeds and the record is stored as verified. -/
def Succeeds (app : AppState) (pick : (op : Op) → Choice op) (s : State) (req : RedeemRequest) :
    Prop :=
  ∃ s' c', alone app pick (redeemChallenge app req) s = (.ok (.fresh ⟨"OK", true⟩), s') ∧
    s'.record req.sid = some c' ∧ c'.state = .verified

theorem routeTag_nonceTag (id : Uuid) : RouteTag (nonceTag id) :=
  routeTag_label id (by decide) (List.all_eq_true.mp (by decide))

theorem alone_consumeNonce_free (hp : Healthy pick) (hfree : TagFree app s (nonceTag id)) :
    alone app pick (consumeNonce id) s = (.ok (), s.consumed app (nonceTag id)) := by
  unfold consumeNonce
  rw [alone_attempt_bind (alone_checkAndSet_free hp (routeTag_nonceTag id) hfree)]
  rfl

theorem alone_consumeNonce_taken (hp : Healthy pick) (htaken : ¬ TagFree app s (nonceTag id)) :
    alone app pick (consumeNonce id) s =
      (.error (.conflictWith "REDEEM_REPLAY"
        "This challenge has already been redeemed by a recent request (nonce dedup window)"),
        s.consumed app (nonceTag id)) := by
  unfold consumeNonce
  rw [alone_attempt_bind (alone_checkAndSet_taken hp (routeTag_nonceTag id) htaken)]
  rfl

/-- The record as the sandbox reads it first. -/
theorem alone_prefetchChallenge (hp : Healthy pick) (h : Presented app pick s req c) :
    ∃ prefetched, alone app pick (prefetchChallenge app req.sid) s = (.ok prefetched, s) ∧
      prefetched.bind (·.clientId) = expectedOwner app c ∧
      alone app pick (loadChallenge req.sid prefetched) s = (.ok c, s) := by
  have hget : alone app pick (ChallengeStore.get req.sid) s = (.ok (some c), s) :=
    alone_get hp h.stored h.live h.valid
  unfold prefetchChallenge expectedOwner
  split
  · refine ⟨some c, ?_, rfl, ?_⟩
    · rw [alone_attempt_bind hget]
      rfl
    · unfold loadChallenge
      rfl
  · refine ⟨none, rfl, rfl, ?_⟩
    unfold loadChallenge
    rw [alone_attempt_bind hget]
    rfl

/-- The start of a redemption, up to its authentication. -/
theorem alone_redeemChallenge (hp : Healthy pick) (h : Presented app pick s req c) :
    ∃ key prefetched clientId,
      Idempotency.extractIdempotencyKey app.uni req.headers "POST" "/v1/redeem" = .ok key ∧
      alone app pick (loadChallenge req.sid prefetched) s = (.ok c, s) ∧
      verifyOwnership c.zeroizeSecret.clientId (some clientId) = .ok () ∧
      alone app pick (redeemChallenge app req) s =
        alone app pick (Idempotency.checkCached app key "redeem" clientId >>= fun
          | some response => return .cached response
          | none => do
            let loaded ← loadChallenge req.sid prefetched
            let cached := loaded.zeroizeSecret
            ofExcept (verifyOwnership cached.clientId (some clientId))
            let now ← await .timestamp
            ofExcept (checkRecord app req.codeVerifier cached now)
            enforceAccountQuota clientId "redeem"
            consumeNonce req.sid
            grantVerdict app req.sid cached.origin cached now
            Idempotency.storeCached app key "redeem" clientId 200
              "\x7b\"result\":\"OK\",\"verified\":true\x7d" none
            return .fresh ⟨"OK", true⟩) s := by
  obtain ⟨key, hkey⟩ := h.key
  obtain ⟨auth, clientId, hauth, hclient, howner⟩ := h.authorised
  obtain ⟨prefetched, hprefetch, hexpected, hload⟩ := alone_prefetchChallenge hp h
  have hauth : alone app pick (authenticateApiKey app req.headers
      ⟨prefetched.bind (·.clientId), false, none⟩) s = (.ok auth, s) := by
    rw [hexpected]
    exact Prod.ext hauth alone_authenticateApiKey_state
  refine ⟨key, prefetched, clientId, hkey, hload, howner, ?_⟩
  unfold redeemChallenge
  rw [alone_ofExcept_bind_ok hkey, alone_ofExcept_bind_ok h.metadata, alone_bind_ok hprefetch,
    alone_bind_ok hauth]
  obtain ⟨authClient, authKey⟩ := auth
  obtain rfl : authClient = some clientId := hclient
  rfl

/-- The checks on the record pass. -/
theorem checkRecord_of_presented (h : Presented app pick s req c) :
    checkRecord app req.codeVerifier c.zeroizeSecret s.clock = .ok () := by
  have hlive : ¬ s.clock > c.zeroizeSecret.expiresAt := Nat.not_lt.mpr (Nat.le_of_lt h.live)
  have hwaiting : ¬ c.zeroizeSecret.state ≠ .proofOkWaitingForRedeem := not_not.mpr h.waiting
  have hpkce : ¬ app.sha256 (utf8Bytes req.codeVerifier.text) ≠
      c.zeroizeSecret.codeChallengeBytes := not_not.mpr h.pkce
  unfold checkRecord
  rw [if_neg hlive, if_neg hwaiting, if_neg hpkce]

/-- Without idempotency a redemption comes to its nonce gate. -/
theorem alone_toGate (hp : Healthy pick) (h : Presented app pick s req c)
    (hun : Unkeyed app req) :
    ∃ key clientId, (key = none ∨ app.idempotencyStore = false) ∧
      alone app pick (redeemChallenge app req) s =
        alone app pick (do
          consumeNonce req.sid
          grantVerdict app req.sid c.origin c.zeroizeSecret s.clock
          Idempotency.storeCached app key "redeem" clientId 200
            "\x7b\"result\":\"OK\",\"verified\":true\x7d" none
          return .fresh ⟨"OK", true⟩) s := by
  obtain ⟨key, prefetched, clientId, hkey, hload, howner, hstart⟩ := alone_redeemChallenge hp h
  have hun : key = none ∨ app.idempotencyStore = false := by
    refine hun.imp_left fun hnone => ?_
    rw [Verify.extractIdempotencyKey_none hnone] at hkey
    exact (Except.ok.inj hkey).symm
  have htime : perform app s .timestamp (pick .timestamp) = (s.clock, s) := rfl
  refine ⟨key, clientId, hun, ?_⟩
  rw [hstart, alone_bind_ok (alone_checkCached_unkeyed hun)]
  dsimp only
  rw [alone_bind_ok hload, alone_ofExcept_bind_ok howner, alone_await, htime,
    alone_ofExcept_bind_ok (checkRecord_of_presented h),
    alone_bind_ok (alone_enforceAccountQuota hp clientId "redeem")]
  rfl

/-- With a key it is turned away. -/
theorem alone_keyed (hp : Healthy pick) (h : Presented app pick s req c)
    (hkeyed : ¬ Unkeyed app req) :
    ∃ e, alone app pick (redeemChallenge app req) s = (.error e, s) := by
  obtain ⟨key, prefetched, clientId, hkey, -, -, hstart⟩ := alone_redeemChallenge hp h
  obtain ⟨hheader, hstore⟩ := not_or.mp hkeyed
  have hsome := Verify.extractIdempotencyKey_some hheader hkey
  obtain ⟨k, rfl⟩ := Option.ne_none_iff_exists'.mp hsome
  rw [Bool.not_eq_false] at hstore
  have hcheck := alone_checkCached_keyed (s := s) hp k "redeem" clientId hstore
  exact ⟨_, by rw [hstart, alone_bind_error hcheck]⟩

/-- **A free tag lets a correct redemption through.** -/
theorem succeeds_of_free (hp : Healthy pick) (h : Redeemable app pick s req c)
    (hfree : TagFree app s (nonceTag req.sid)) (hun : Unkeyed app req) :
    Succeeds app pick s req := by
  obtain ⟨key, clientId, hunkeyed, hgate⟩ := alone_toGate hp h.presented hun
  have hstored : (s.consumed app (nonceTag req.sid)).record req.sid = some c := h.stored
  obtain ⟨s', c', hgrant, hrecord, hverified⟩ :=
    alone_grantVerdict hp hstored h.waiting h.billable (h.storable s.clock)
  refine ⟨s', c', ?_, hrecord, hverified⟩
  rw [hgate, alone_bind_ok (alone_consumeNonce_free hp hfree), alone_bind_ok hgrant,
    alone_bind_ok (alone_storeCached_unkeyed hunkeyed)]
  rfl

/-- **A tag that is not free, or a key, turns it away.** -/
theorem not_succeeds (hp : Healthy pick) (h : Presented app pick s req c)
    (hnot : ¬ (TagFree app s (nonceTag req.sid) ∧ Unkeyed app req)) :
    ¬ Succeeds app pick s req := by
  rintro ⟨s', c', halone, -, -⟩
  by_cases hun : Unkeyed app req
  · have htaken : ¬ TagFree app s (nonceTag req.sid) := fun hfree => hnot ⟨hfree, hun⟩
    obtain ⟨key, clientId, -, hgate⟩ := alone_toGate hp h hun
    rw [hgate, alone_bind_error (alone_consumeNonce_taken hp htaken)] at halone
    cases halone
  · obtain ⟨e, hkeyed⟩ := alone_keyed hp h hun
    rw [hkeyed] at halone
    cases halone

end Redeem

/-! ## The hosted route, alone -/

namespace HostedRedeem

variable {req : HostedRedeemRequest} {session : HostedSession}

/-- A correct redemption through a session, of a challenge that waits for one. -/
structure Redeemable (app : AppState) (s : State) (req : HostedRedeemRequest)
    (session : HostedSession) (id : Uuid) (c : CachedChallenge) : Prop where
  origin : (originOf req.headers).toList ≠ []
  sessionId : ¬ (parseUuid req.sessionId).isNone
  verifier : validateCodeVerifier req.codeVerifier = .ok ()
  found : s.sessions req.sessionId = some session
  admitted : checkSession app req.headers session = .ok ()
  names : parseUuid session.verifierChallengeId = some id
  stored : s.record id = some c
  valid : c.validate = .ok ()
  waiting : c.state = .proofOkWaitingForRedeem
  live : s.clock < c.expiresAt
  sameOrigin : originOf req.headers = c.origin
  pkce : app.sha256 (utf8Bytes req.codeVerifier) = c.codeChallengeBytes
  signing : app.sessionTokenSecret ≠ none
  billable : Billable app s id (originOf req.headers) c.zeroizeSecret
  /-- The record is within the limits of the store. -/
  storable : ∀ now, ChallengeStore.checkChallenge app id (c.zeroizeSecret.verdict now) = .ok ()

/-- A correct redemption of a challenge that waits for one, whoever is charged for it. -/
structure Presented (app : AppState) (s : State) (req : HostedRedeemRequest)
    (session : HostedSession) (id : Uuid) (c : CachedChallenge) : Prop where
  origin : (originOf req.headers).toList ≠ []
  sessionId : ¬ (parseUuid req.sessionId).isNone
  verifier : validateCodeVerifier req.codeVerifier = .ok ()
  found : s.sessions req.sessionId = some session
  admitted : checkSession app req.headers session = .ok ()
  names : parseUuid session.verifierChallengeId = some id
  stored : s.record id = some c
  valid : c.validate = .ok ()
  waiting : c.state = .proofOkWaitingForRedeem
  live : s.clock < c.expiresAt
  sameOrigin : originOf req.headers = c.origin
  pkce : app.sha256 (utf8Bytes req.codeVerifier) = c.codeChallengeBytes
  signing : app.sessionTokenSecret ≠ none
  storable : ∀ now, ChallengeStore.checkChallenge app id (c.zeroizeSecret.verdict now) = .ok ()

theorem Redeemable.presented (h : Redeemable app s req session id c) :
    Presented app s req session id c :=
  ⟨h.origin, h.sessionId, h.verifier, h.found, h.admitted, h.names, h.stored, h.valid, h.waiting,
    h.live, h.sameOrigin, h.pkce, h.signing, h.storable⟩

/-- The session has an attempt left. -/
def AttemptLeft (session : HostedSession) : Prop :=
  session.redeemAttemptCount < defaultMaxRedeemAttempts

/-- The redemption succeeds and the record is stored as verified. -/
def Succeeds (app : AppState) (pick : (op : Op) → Choice op) (s : State)
    (req : HostedRedeemRequest) (id : Uuid) : Prop :=
  ∃ response s' c', alone app pick (handleHostedRedeem app req) s = (.ok response, s') ∧
    s'.record id = some c' ∧ c'.state = .verified

theorem routeTag_nonceTag (id : Uuid) : RouteTag (nonceTag id) :=
  routeTag_label id (by decide) (List.all_eq_true.mp (by decide))

theorem alone_consumeNonce_free (hp : Healthy pick) (hfree : TagFree app s (nonceTag id)) :
    alone app pick (consumeNonce id) s = (.ok (), s.consumed app (nonceTag id)) := by
  unfold consumeNonce
  rw [alone_attempt_bind (alone_checkAndSet_free hp (routeTag_nonceTag id) hfree)]
  rfl

theorem alone_consumeNonce_taken (hp : Healthy pick) (htaken : ¬ TagFree app s (nonceTag id)) :
    alone app pick (consumeNonce id) s =
      (.error (.conflict (some "Duplicate redemption attempt")), s.consumed app (nonceTag id)) := by
  unfold consumeNonce
  rw [alone_attempt_bind (alone_checkAndSet_taken hp (routeTag_nonceTag id) htaken)]
  rfl

theorem attemptLeft_iff : ¬ session.incrementRedeemAttempts.redeemAttemptCount >
    defaultMaxRedeemAttempts ↔ AttemptLeft session := by
  have hcount : session.incrementRedeemAttempts.redeemAttemptCount =
      satSucc session.redeemAttemptCount := rfl
  rw [hcount]
  unfold AttemptLeft defaultMaxRedeemAttempts satSucc
  split <;> omega

/-- The count of an attempt leaves the stores of the record alone. -/
theorem alone_updateSession (app : AppState) (pick : (op : Op) → Choice op) (s : State)
    (session : HostedSession) (prior : Option SessionState) :
    ∃ r s', alone app pick (SessionStore.updateSessionKvChecked session prior) s = (r, s') ∧
      SameStores s s' := by
  unfold SessionStore.updateSessionKvChecked
  cases hvalid : SessionStore.validateTransition prior session.state with
  | error e => exact ⟨_, s, rfl, .refl s⟩
  | ok _ =>
    rw [alone_ofExcept_bind_ok rfl, alone_await]
    have hsame : SameStores s (perform app s (.putSession session.sessionId session)
        (pick (.putSession session.sessionId session))).2 := by
      show SameStores s (if _ then _ else _)
      split
      · exact ⟨rfl, rfl, rfl, rfl⟩
      · exact .refl s
    split
    · exact ⟨_, _, rfl, hsame⟩
    · exact ⟨_, _, rfl, hsame⟩

/-- The checks on the record pass. -/
theorem checkRecord_of_presented (h : Presented app s req session id c) :
    checkRecord app req.codeVerifier c.zeroizeSecret = .ok () := by
  have hwaiting : ¬ c.zeroizeSecret.state ≠ .proofOkWaitingForRedeem := not_not.mpr h.waiting
  have hpkce : ¬ app.sha256 (utf8Bytes req.codeVerifier) ≠
      c.zeroizeSecret.codeChallengeBytes := not_not.mpr h.pkce
  unfold checkRecord
  rw [if_neg hwaiting, if_neg hpkce]

/-- Past the nonce gate a correct redemption comes to its verdict. -/
theorem alone_toVerdict (hp : Healthy pick) (h : Presented app s req session id c)
    (hstored : s'.record id = some c) (hclock : s'.clock = s.clock) :
    alone app pick (redeemRecord app req id) s' =
      alone app pick (do
        grantVerdict app id (originOf req.headers) c.zeroizeSecret s'.clock
        return ⟨"verified", s'.clock, c.expiresAt⟩) s' := by
  have hlive : s'.clock < c.expiresAt := by
    rw [hclock]
    exact h.live
  have horigin : ¬ originOf req.headers ≠ c.zeroizeSecret.origin := not_not.mpr h.sameOrigin
  have hload : alone app pick (loadChallenge id) s' = (.ok c, s') := by
    unfold loadChallenge
    rw [alone_attempt_bind (alone_get hp hstored hlive h.valid)]
    rfl
  have hreread : rereadPending id c.zeroizeSecret = ret c.zeroizeSecret := by
    have hwaiting : c.zeroizeSecret.state = .proofOkWaitingForRedeem := h.waiting
    unfold rereadPending
    rw [hwaiting]
    rfl
  have htime : perform app s' .timestamp (pick .timestamp) = (s'.clock, s') := rfl
  have hopen : ¬ (s'.clock > c.zeroizeSecret.expiresAt ∧ c.zeroizeSecret.state ≠ .verified) := by
    rintro ⟨hlate, -⟩
    have hlate : s'.clock > c.expiresAt := hlate
    omega
  obtain ⟨secret, hsecret⟩ := Option.ne_none_iff_exists'.mp h.signing
  unfold redeemRecord
  dsimp only
  rw [alone_bind_ok hload, if_neg horigin, alone_await, htime, if_neg hopen,
    hreread, ret_bind, alone_ofExcept_bind_ok (checkRecord_of_presented h)]
  simp only [hsecret]
  rfl

/-- **The record of a correct redemption** is verified, once past the nonce gate. -/
theorem alone_redeemRecord (hp : Healthy pick) (h : Redeemable app s req session id c)
    (hstored : s'.record id = some c) (hclock : s'.clock = s.clock)
    (hindex : s'.originIndex = s.originIndex) :
    ∃ response s₂ c', alone app pick (redeemRecord app req id) s' = (.ok response, s₂) ∧
      s₂.record id = some c' ∧ c'.state = .verified := by
  have hbill : Billable app s' id (originOf req.headers) c.zeroizeSecret := by
    unfold Billable
    rw [hindex]
    exact h.billable
  obtain ⟨s₂, c', hgrant, hrecord, hverified⟩ :=
    alone_grantVerdict hp hstored h.waiting hbill (h.storable s'.clock)
  refine ⟨⟨"verified", s'.clock, c.expiresAt⟩, s₂, c', ?_, hrecord, hverified⟩
  rw [alone_toVerdict hp h.presented hstored hclock, alone_bind_ok hgrant]
  rfl

/-- With an attempt left a redemption comes to its nonce gate. -/
theorem alone_toGate (hp : Healthy pick) (h : Presented app s req session id c)
    (hleft : AttemptLeft session) :
    ∃ s', SameStores s s' ∧ alone app pick (handleHostedRedeem app req) s =
      alone app pick (do
        consumeNonce id
        redeemRecord app req id) s' := by
  have hread : perform app s (.getSession req.sessionId) (pick (.getSession req.sessionId)) =
      (.ok (some session), s) := by
    rw [hp.getSession, ← h.found]
    rfl
  obtain ⟨r, s', hupdate, hsame⟩ := alone_updateSession app pick s
    session.incrementRedeemAttempts (some session.incrementRedeemAttempts.state)
  have hnames : parseUuid session.verifierChallengeId = some id := h.names
  refine ⟨s', hsame, ?_⟩
  unfold handleHostedRedeem
  rw [if_neg h.origin, if_neg h.sessionId, alone_ofExcept_bind_ok h.verifier, alone_await, hread]
  dsimp only
  rw [alone_ofExcept_bind_ok h.admitted, if_neg (attemptLeft_iff.mpr hleft),
    alone_attempt_bind hupdate]
  rw [hnames]

/-- Without an attempt left it is turned away. -/
theorem alone_exhausted (hp : Healthy pick) (h : Presented app s req session id c)
    (hnone : ¬ AttemptLeft session) :
    alone app pick (handleHostedRedeem app req) s =
      (.error (.tooManyRequests (some "Redemption rate limit exceeded")), s) := by
  have hread : perform app s (.getSession req.sessionId) (pick (.getSession req.sessionId)) =
      (.ok (some session), s) := by
    rw [hp.getSession, ← h.found]
    rfl
  have hover : session.incrementRedeemAttempts.redeemAttemptCount > defaultMaxRedeemAttempts := by
    by_contra hnot
    exact hnone (attemptLeft_iff.mp hnot)
  unfold handleHostedRedeem
  rw [if_neg h.origin, if_neg h.sessionId, alone_ofExcept_bind_ok h.verifier, alone_await, hread]
  dsimp only
  rw [alone_ofExcept_bind_ok h.admitted, if_pos hover]
  rfl

/-- **A free tag and an attempt left let a correct redemption through.** -/
theorem succeeds_of_free (hp : Healthy pick) (h : Redeemable app s req session id c)
    (hfree : TagFree app s (nonceTag id)) (hleft : AttemptLeft session) :
    Succeeds app pick s req id := by
  obtain ⟨s', hsame, hgate⟩ := alone_toGate hp h.presented hleft
  have hfree' : TagFree app s' (nonceTag id) := hsame.tagFree.mpr hfree
  have hstored : (s'.consumed app (nonceTag id)).record id = some c :=
    hsame.record.trans h.stored
  obtain ⟨response, s₂, c', hredeem, hrecord, hverified⟩ :=
    alone_redeemRecord hp h hstored hsame.clock hsame.originIndex
  refine ⟨response, s₂, c', ?_, hrecord, hverified⟩
  rw [hgate, alone_bind_ok (alone_consumeNonce_free hp hfree')]
  exact hredeem

/-- **A tag that is not free, or no attempt left, turns it away.** -/
theorem not_succeeds (hp : Healthy pick) (h : Presented app s req session id c)
    (hnot : ¬ (TagFree app s (nonceTag id) ∧ AttemptLeft session)) :
    ¬ Succeeds app pick s req id := by
  rintro ⟨response, s', c', halone, -, -⟩
  by_cases hleft : AttemptLeft session
  · have htaken : ¬ TagFree app s (nonceTag id) := fun hfree => hnot ⟨hfree, hleft⟩
    obtain ⟨s₁, hsame, hgate⟩ := alone_toGate hp h hleft
    have htaken' : ¬ TagFree app s₁ (nonceTag id) := fun hfree => htaken (hsame.tagFree.mp hfree)
    rw [hgate, alone_bind_error (alone_consumeNonce_taken hp htaken')] at halone
    cases halone
  · rw [alone_exhausted hp h hleft] at halone
    cases halone

end HostedRedeem

/-! ## Runs -/

section Runs

variable {s₀ : State} {p : Pool (service app) Request ApiError Response}

/-- **What a retried redemption meets.** After any run, a correct redemption of a challenge that
waits for one, made alone over healthy dependencies and with credits, succeeds if and only if the
tag of its route is free and, on the expert route, it asks for no idempotency, on the hosted route,
its session has an attempt left. It does not succeed within 300 seconds of a request of the run,
such as a failed one, that passed the nonce gate of the route. -/
theorem redeem_retry_iff (hfresh : Fresh s₀)
    (hr : Run (handle app) (anyOrder app Request) (· = s₀) p) (hp : Healthy pick) :
    (∀ req c, Redeem.Redeemable app pick p.world.state req c →
      (Redeem.Succeeds app pick p.world.state req ↔
        TagFree app p.world.state (Redeem.nonceTag req.sid) ∧ Redeem.Unkeyed app req) ∧
      ∀ i T, AcceptedAt p.world.trace i (Redeem.nonceTag req.sid) T →
        State.clock p.world.state ≤ T + nonceDedupTtl →
          ¬ Redeem.Succeeds app pick p.world.state req) ∧
    ∀ req session id c, HostedRedeem.Redeemable app p.world.state req session id c →
      (HostedRedeem.Succeeds app pick p.world.state req id ↔
        TagFree app p.world.state (HostedRedeem.nonceTag id) ∧
          HostedRedeem.AttemptLeft session) ∧
      ∀ i T, AcceptedAt p.world.trace i (HostedRedeem.nonceTag id) T →
        State.clock p.world.state ≤ T + nonceDedupTtl →
          ¬ HostedRedeem.Succeeds app pick p.world.state req id := by
  refine ⟨?_, ?_⟩
  · intro req c h
    refine ⟨⟨?_, ?_⟩, ?_⟩
    · intro hsucceeds
      by_contra hnot
      exact Redeem.not_succeeds hp h.presented hnot hsucceeds
    · rintro ⟨hfree, hun⟩
      exact Redeem.succeeds_of_free hp h hfree hun
    · intro i T hi hclock
      exact Redeem.not_succeeds hp h.presented fun hfree =>
        Run.tag_taken hfresh hr hi hclock hfree.1
  · intro req session id c h
    refine ⟨⟨?_, ?_⟩, ?_⟩
    · intro hsucceeds
      by_contra hnot
      exact HostedRedeem.not_succeeds hp h.presented hnot hsucceeds
    · rintro ⟨hfree, hleft⟩
      exact HostedRedeem.succeeds_of_free hp h hfree hleft
    · intro i T hi hclock
      exact HostedRedeem.not_succeeds hp h.presented fun hfree =>
        Run.tag_taken hfresh hr hi hclock hfree.1

end Runs

/-! ## Samples -/

namespace Sample

/-- The sample record with the wallet's proof. -/
def proven : CachedChallenge :=
  ChallengeDO.mergeUpdate .sample (CachedChallenge.sample.acceptProof ⟨"issuer", false⟩
    ⟨13000, List.replicate 32 7⟩ 1000).asUpdate

/-- The redemption by the shop's server of the proven record is a correct one. -/
theorem redeemable {s : State} (hrecord : s.record proven.id = some proven)
    (hclock : s.clock < proven.expiresAt)
    (hauth : (alone .sample healthy (authenticateApiKey .sample redemption.headers
      ⟨none, false, none⟩) s).1 = .ok ⟨some "shop", false⟩) :
    Redeem.Redeemable .sample healthy s redemption proven := by
  refine ⟨hrecord, by decide, rfl, hclock, ⟨none, rfl⟩, rfl,
    ⟨⟨some "shop", false⟩, "shop", hauth, rfl, rfl⟩, by decide +kernel, fun _ => ⟨rfl, ?_⟩,
    fun _ => rfl⟩
  decide +kernel

/-- The redemption through the session is a correct one too. -/
theorem hostedRedeemable {s : State} {session : HostedSession}
    (hsession : s.sessions hostedRedemption.sessionId = some session)
    (hadmitted : HostedRedeem.checkSession .sample hostedRedemption.headers session = .ok ())
    (hnames : parseUuid session.verifierChallengeId = some proven.id)
    (hrecord : s.record proven.id = some proven) (hclock : s.clock < proven.expiresAt) :
    HostedRedeem.Redeemable .sample s hostedRedemption session proven.id proven := by
  refine ⟨by decide, by decide +kernel, by decide +kernel, hsession, hadmitted, hnames, hrecord,
    by decide, rfl, hclock, by decide, by decide +kernel, by decide, fun _ => ⟨rfl, ?_⟩,
    fun _ => rfl⟩
  decide +kernel

/-- The credit service refuses the charge. -/
def creditsRefused (op : Op) : Choice op :=
  match op with
  | .credits _ _ => .refused (.json 402)
  | op => healthy op

/-- The sample record is proven, and its redemption performs its operations without credits. -/
def unfundedRedemption : List (Act (service .sample) Request) :=
  performs 0 (.verify submission) 9 ++
    .arrive 1 (.redeem redemption) :: List.replicate 8 (.call 1 creditsRefused)

/-- The session after one attempt. -/
def triedSession : HostedSession := session.incrementRedeemAttempts

/-- The redemption through the session comes before the proof. -/
def earlyRedemption : List (Act (service .sample) Request) :=
  performs 0 (.hostedRedeem hostedRedemption) 6 ++ performs 1 (.verify submission) 9

end Sample

/-- The proven sample record: its tag is free, and the redemption succeeds. -/
theorem redeem_retry_iff_redemption :
    ∃ p, Run (handle .sample) (anyOrder .sample Request) (· = Sample.meteredState) p ∧
      (Redeem.Succeeds .sample healthy p.world.state Sample.redemption ↔
        TagFree .sample p.world.state (Redeem.nonceTag Sample.proven.id) ∧
          Redeem.Unkeyed .sample Sample.redemption) := by
  have hrun : ∃ p : Pool (service .sample) Request ApiError Response,
      Run (handle .sample) (anyOrder .sample Request) (· = Sample.meteredState) p ∧
        State.record p.world.state Sample.proven.id = some Sample.proven ∧
        State.clock p.world.state < Sample.proven.expiresAt ∧
        (alone .sample healthy (authenticateApiKey .sample Sample.redemption.headers
          ⟨none, false, none⟩) p.world.state).1 = .ok ⟨some "shop", false⟩ :=
    Run.of_replay Sample.meteredState (Sample.performs 0 (.verify Sample.submission) 9) rfl
      (by decide +kernel)
  obtain ⟨p, hr, hrecord, hclock, hauth⟩ := hrun
  exact ⟨p, hr, ((redeem_retry_iff Sample.fresh_meteredState hr healthy_healthy).1 _ _
    (Sample.redeemable hrecord hclock hauth)).1⟩

/-- A redemption that was answered 402 has burned the tag of its route: with credits, the same
redemption, correct as it is, is answered 409. One through the hosted session that came before the
proof burns the tag too. -/
theorem failed_redemption_not_retried :
    (∃ p, Run (handle .sample) (anyOrder .sample Request) (· = Sample.meteredState) p ∧
      p.outcome 1 = some (.error (.paymentRequired none)) ∧
      Redeem.Redeemable .sample healthy p.world.state Sample.redemption Sample.proven ∧
      ¬ Redeem.Succeeds .sample healthy p.world.state Sample.redemption) ∧
    ∃ p, Run (handle .sample) (anyOrder .sample Request) (· = Sample.meteredState) p ∧
      p.outcome 0 = some (.error (.conflict (some "Proof not submitted yet"))) ∧
      HostedRedeem.Redeemable .sample p.world.state Sample.hostedRedemption Sample.triedSession
        Sample.proven.id Sample.proven ∧
      ¬ HostedRedeem.Succeeds .sample healthy p.world.state Sample.hostedRedemption
        Sample.proven.id := by
  refine ⟨?_, ?_⟩
  · have hrun : ∃ p : Pool (service .sample) Request ApiError Response,
        Run (handle .sample) (anyOrder .sample Request) (· = Sample.meteredState) p ∧
          p.outcome 1 = some (.error (.paymentRequired none)) ∧
          State.record p.world.state Sample.proven.id = some Sample.proven ∧
          State.clock p.world.state < Sample.proven.expiresAt ∧
          (alone .sample healthy (authenticateApiKey .sample Sample.redemption.headers
            ⟨none, false, none⟩) p.world.state).1 = .ok ⟨some "shop", false⟩ ∧
          (alone .sample healthy (Redeem.redeemChallenge .sample Sample.redemption)
            p.world.state).1 = .error (.conflictWith "REDEEM_REPLAY"
            "This challenge has already been redeemed by a recent request (nonce dedup window)") :=
      Run.of_replay Sample.meteredState Sample.unfundedRedemption rfl (by decide +kernel)
    obtain ⟨p, hr, hout, hrecord, hclock, hauth, hretry⟩ := hrun
    refine ⟨p, hr, hout, Sample.redeemable hrecord hclock hauth, ?_⟩
    rintro ⟨s', c', hok, -, -⟩
    rw [hok] at hretry
    cases hretry
  · have hrun : ∃ p : Pool (service .sample) Request ApiError Response,
        Run (handle .sample) (anyOrder .sample Request) (· = Sample.meteredState) p ∧
          p.outcome 0 = some (.error (.conflict (some "Proof not submitted yet"))) ∧
          State.sessions p.world.state Sample.hostedRedemption.sessionId =
            some Sample.triedSession ∧
          State.record p.world.state Sample.proven.id = some Sample.proven ∧
          State.clock p.world.state < Sample.proven.expiresAt ∧
          (alone .sample healthy (HostedRedeem.handleHostedRedeem .sample Sample.hostedRedemption)
            p.world.state).1 = .error (.conflict (some "Duplicate redemption attempt")) :=
      Run.of_replay Sample.meteredState Sample.earlyRedemption rfl (by decide +kernel)
    obtain ⟨p, hr, hout, hsession, hrecord, hclock, hretry⟩ := hrun
    refine ⟨p, hr, hout, Sample.hostedRedeemable hsession (by decide +kernel) (by decide +kernel)
      hrecord hclock, ?_⟩
    rintro ⟨response, s', c', hok, -, -⟩
    rw [hok] at hretry
    cases hretry

end ProviiVerifier
