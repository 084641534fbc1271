/-
  The first read of a record after its expiry.

  The object deletes an expired record when it reads it and answers 410. The store takes that 410
  for an absent record, so the handlers never see the record: their own gates on the expiry come
  after the load.

  Proved: alone over healthy dependencies, at a clock that has reached the expiry, none of the four
  handlers that read a record says that it has expired; they answer 404 (`expiry_not_reported`).
-/
import ProviiVerifier.RedeemRetry
import ProviiVerifier.Readers

namespace ProviiVerifier

open Interleaving Prog

namespace ExpiredReads

variable {app : AppState} {pick : (op : Op) → Choice op} {s : State} {id : Uuid}
  {r c : CachedChallenge}

/-! ## The read -/

/-- A record of the challenge that is stored has expired. -/
def Lapsed (s : State) (id : Uuid) : Prop := ∀ c, s.record id = some c → c.expiresAt ≤ s.clock

/-- The object answers 410 or 404, and the record is gone. -/
theorem getChallenge_lapsed {st : ChallengeDO.Storage} {now : Nat}
    (h : ∀ c, st.records id.toString = some c → c.expiresAt ≤ now) :
    ∃ code st', ChallengeDO.getChallenge st now .none id.toString = (some (.status code), st') ∧
      (code = 404 ∨ code = 410) ∧ st'.records id.toString = none := by
  cases hrecord : st.records id.toString with
  | none =>
    refine ⟨404, st, ?_, .inl rfl, hrecord⟩
    simp only [ChallengeDO.getChallenge, validateChallengeId_toString,
      ChallengeDO.Storage.readRecord, ChallengeDO.Faults.none, if_true, hrecord]
  | some c =>
    have hexpired : ¬ c.expiresAt > now := Nat.not_lt.mpr (h c hrecord)
    refine ⟨410, (st.deleteRecord id.toString).deleteCode c.shortCode, ?_, .inr rfl, ?_⟩
    · simp only [ChallengeDO.getChallenge, validateChallengeId_toString,
        ChallengeDO.Storage.readRecord, ChallengeDO.Faults.none, if_true, hrecord]
      rw [if_neg hexpired]
    · simp [ChallengeDO.Storage.deleteRecord, ChallengeDO.Storage.deleteCode]

variable (app) in
/-- **A get of an expired record** answers that there is none. -/
theorem alone_get_lapsed (hp : Healthy pick) (h : Lapsed s id) :
    ∃ s', alone app pick (ChallengeStore.get id) s = (.ok none, s') ∧ Lapsed s' id := by
  obtain ⟨code, st, hget, hcode, hgone⟩ := getChallenge_lapsed h
  have hserve : s.serveChallenge .none id (.get id.toString) =
      (some (.status code), { s with challenges := Function.update s.challenges id st }) := by
    have hfetch : ChallengeDO.fetch (s.challenges id) s.clock .none (.get id.toString) =
        ChallengeDO.getChallenge (s.challenges id) s.clock .none id.toString := rfl
    unfold State.serveChallenge
    rw [hfetch, hget]
  have hsend := alone_sendRequest app hp (congrArg Prod.fst hserve)
  refine ⟨{ s with challenges := Function.update s.challenges id st }, ?_, ?_⟩
  · unfold ChallengeStore.get
    rw [alone_bind_ok hsend, hserve]
    simp only [hcode, if_true]
    rfl
  · intro c hc
    have hnone : (Function.update s.challenges id st id).records id.toString = none := by
      rw [Function.update_self]
      exact hgone
    rw [State.record, hnone] at hc
    cases hc

theorem lapsed_of_expired (hstored : s.record id = some r) (hexpired : r.expiresAt ≤ s.clock) :
    Lapsed s id := by
  intro c hc
  rw [hstored] at hc
  cases hc
  exact hexpired

/-! ## The four handlers -/

/-- The outcome of a handler running alone. -/
def outcome {α : Type} (app : AppState) (pick : (op : Op) → Choice op) (p : Handler α)
    (s : State) : Except ApiError α :=
  (alone app pick p s).1

theorem outcome_eq {α : Type} {p : Handler α} {a : Except ApiError α} (s' : State)
    (h : alone app pick p s = (a, s')) : outcome app pick p s = a :=
  congrArg Prod.fst h

/-- **`verify`**. -/
theorem verify_lapsed {req : SubmitProofRequest} {key : Option String} (hp : Healthy pick)
    (h : Lapsed s req.challengeId)
    (hkey : Idempotency.extractIdempotencyKey app.uni req.headers "POST" "/v1/verify" = .ok key)
    (hmetadata : validateFetchMetadata app.uni req.headers = .ok ()) :
    outcome app pick (Verify.submitVerification app req) s = .error .notFound := by
  obtain ⟨s', hget, -⟩ := alone_get_lapsed app hp h
  have hban : perform app s (.isBanned req.credNullifier.val)
      (pick (.isBanned req.credNullifier.val)) = (.ok false, s) := by
    rw [hp.isBanned]
    rfl
  have hload : alone app pick (Verify.loadUnbanned req) s = (.error .notFound, s') := by
    unfold Verify.loadUnbanned
    rw [alone_await, hban, alone_attempt_bind hget]
    rfl
  refine outcome_eq s' ?_
  unfold Verify.submitVerification
  rw [alone_ofExcept_bind_ok hkey, alone_ofExcept_bind_ok hmetadata, alone_bind_error hload]

/-- The gates of the expert route in front of the record. -/
structure Sent (app : AppState) (req : RedeemRequest) : Prop where
  key : ∃ key, Idempotency.extractIdempotencyKey app.uni req.headers "POST" "/v1/redeem" = .ok key
  metadata : validateFetchMetadata app.uni req.headers = .ok ()

variable (app) in
/-- What the load of an expired record comes to. -/
theorem alone_loadChallenge_lapsed {sid : Uuid} (hp : Healthy pick) (h : Lapsed s sid) :
    ∃ s', alone app pick (Redeem.loadChallenge sid none) s = (.error .notFound, s') := by
  obtain ⟨s', hget, -⟩ := alone_get_lapsed app hp h
  refine ⟨s', ?_⟩
  unfold Redeem.loadChallenge
  rw [alone_attempt_bind hget]
  rfl

variable (app) in
/-- The sandbox, too, reads no record. -/
theorem alone_prefetchChallenge_lapsed {sid : Uuid} (hp : Healthy pick) (h : Lapsed s sid) :
    ∃ s', alone app pick (Redeem.prefetchChallenge app sid) s = (.ok none, s') ∧ Lapsed s' sid ∧
      (app.environment ≠ "sandbox" → s' = s) := by
  unfold Redeem.prefetchChallenge
  split
  · next hsandbox =>
    obtain ⟨s', hget, hlapsed⟩ := alone_get_lapsed app hp h
    refine ⟨s', ?_, hlapsed, fun hne => absurd hsandbox hne⟩
    rw [alone_attempt_bind hget]
    rfl
  · exact ⟨s, rfl, h, fun _ => rfl⟩

theorem alone_authenticateApiKey_ok (app : AppState) (pick : (op : Op) → Choice op) (s : State)
    (headers : Headers) (options : ApiKeyAuthOptions) :
    ∃ auth, alone app pick (authenticateApiKey app headers options) s = (.ok auth, s) := by
  have hguarded : Guarded (fun _ op => AuthLookup op) (AuthOutcome app headers options) []
      (authenticateApiKey app headers options) := guarded_authenticateApiKey
  have houtcome : ∃ h, AuthOutcome app headers options h
      (alone app pick (authenticateApiKey app headers options) s).1 := hguarded.exec_outcome
  obtain ⟨_, auth, hauth, -⟩ := houtcome
  exact ⟨auth, Prod.ext hauth alone_authenticateApiKey_state⟩

/-- The response to a request that is not authenticated. -/
def authFailed : ApiError :=
  .unauthorizedWith "REDEEM_AUTH_FAILED"
    "Origin + X-API-Key did not match the client that created this challenge. In sandbox the X-API-Key must match the credential returned from /v1/register-test-origin for this challenge's owner."

/-- The response to a request whose idempotency cannot be checked. -/
def unchecked : ApiError :=
  .serviceUnavailable (some "Idempotency check unavailable, please retry")

instance (app : AppState) (req : RedeemRequest) : Decidable (Redeem.Unkeyed app req) :=
  inferInstanceAs (Decidable (_ ∨ _))

/-- **`redeem`**: it fails at its authentication, or at its load of the record. -/
theorem alone_redeem_lapsed {req : RedeemRequest} (hp : Healthy pick) (h : Lapsed s req.sid)
    (hsent : Sent app req) :
    ∃ s₁ auth, (app.environment ≠ "sandbox" → s₁ = s) ∧
      alone app pick (authenticateApiKey app req.headers ⟨none, false, none⟩) s₁ =
        (.ok auth, s₁) ∧
      (auth.clientId = none → outcome app pick (Redeem.redeemChallenge app req) s =
        .error authFailed) ∧
      (auth.clientId ≠ none → outcome app pick (Redeem.redeemChallenge app req) s =
        .error (if Redeem.Unkeyed app req then .notFound else unchecked)) := by
  obtain ⟨key, hkey⟩ := hsent.key
  obtain ⟨s₁, hprefetch, hlapsed, hsame⟩ := alone_prefetchChallenge_lapsed app hp h
  obtain ⟨auth, hauth⟩ := alone_authenticateApiKey_ok app pick s₁ req.headers ⟨none, false, none⟩
  have hauth' : alone app pick (authenticateApiKey app req.headers
      ⟨Option.bind none (fun c : CachedChallenge => c.clientId), false, none⟩) s₁ =
      (.ok auth, s₁) := hauth
  refine ⟨s₁, auth, hsame, hauth, ?_, ?_⟩
  · intro hclient
    refine outcome_eq s₁ ?_
    unfold Redeem.redeemChallenge
    rw [alone_ofExcept_bind_ok hkey, alone_ofExcept_bind_ok hsent.metadata,
      alone_bind_ok hprefetch, alone_bind_ok hauth', hclient]
    rfl
  · intro hclient
    obtain ⟨clientId, hclient⟩ := Option.ne_none_iff_exists'.mp hclient
    obtain ⟨s₂, hload⟩ := alone_loadChallenge_lapsed app hp hlapsed
    split
    · next hun =>
      have hnone : key = none ∨ app.idempotencyStore = false := by
        refine hun.imp_left fun hnone => ?_
        rw [Verify.extractIdempotencyKey_none hnone] at hkey
        exact (Except.ok.inj hkey).symm
      refine outcome_eq s₂ ?_
      unfold Redeem.redeemChallenge
      rw [alone_ofExcept_bind_ok hkey, alone_ofExcept_bind_ok hsent.metadata,
        alone_bind_ok hprefetch, alone_bind_ok hauth', hclient]
      dsimp only
      rw [alone_bind_ok (alone_checkCached_unkeyed hnone)]
      dsimp only
      rw [alone_bind_error hload]
    · next hkeyed =>
      obtain ⟨hheader, hstore⟩ := not_or.mp hkeyed
      have hsome := Verify.extractIdempotencyKey_some hheader hkey
      obtain ⟨k, rfl⟩ := Option.ne_none_iff_exists'.mp hsome
      rw [Bool.not_eq_false] at hstore
      refine outcome_eq s₁ ?_
      unfold Redeem.redeemChallenge
      rw [alone_ofExcept_bind_ok hkey, alone_ofExcept_bind_ok hsent.metadata,
        alone_bind_ok hprefetch, alone_bind_ok hauth', hclient]
      dsimp only
      rw [alone_bind_error (alone_checkCached_keyed (s := s₁) hp k "redeem" clientId hstore)]
      rfl

/-- A redemption through a session that names the challenge, up to its load of the record. -/
structure Tried (app : AppState) (s : State) (req : HostedRedeemRequest) (session : HostedSession)
    (id : Uuid) : Prop where
  origin : (HostedRedeem.originOf req.headers).toList ≠ []
  sessionId : ¬ (parseUuid req.sessionId).isNone
  verifier : HostedRedeem.validateCodeVerifier req.codeVerifier = .ok ()
  found : s.sessions req.sessionId = some session
  admitted : HostedRedeem.checkSession app req.headers session = .ok ()
  names : parseUuid session.verifierChallengeId = some id
  left : HostedRedeem.AttemptLeft session
  free : TagFree app s (HostedRedeem.nonceTag id)

/-- **Redemption through a session**. -/
theorem hostedRedeem_lapsed {req : HostedRedeemRequest} {session : HostedSession}
    (hp : Healthy pick) (h : Lapsed s id) (ht : Tried app s req session id) :
    outcome app pick (HostedRedeem.handleHostedRedeem app req) s = .error .notFound := by
  have hread : perform app s (.getSession req.sessionId) (pick (.getSession req.sessionId)) =
      (.ok (some session), s) := by
    rw [hp.getSession, ← ht.found]
    rfl
  obtain ⟨_, s', hupdate, hsame⟩ := HostedRedeem.alone_updateSession app pick s
    session.incrementRedeemAttempts (some session.incrementRedeemAttempts.state)
  have hfree : TagFree app s' (HostedRedeem.nonceTag id) := hsame.tagFree.mpr ht.free
  have hlapsed : Lapsed (s'.consumed app (HostedRedeem.nonceTag id)) id := by
    intro c hc
    have hc : s.record id = some c := hsame.record.symm.trans hc
    have hclock : (s'.consumed app (HostedRedeem.nonceTag id)).clock = s.clock := hsame.clock
    rw [hclock]
    exact h c hc
  obtain ⟨s₂, hget, -⟩ := alone_get_lapsed app hp hlapsed
  have hload : alone app pick (HostedRedeem.loadChallenge id)
      (s'.consumed app (HostedRedeem.nonceTag id)) = (.error .notFound, s₂) := by
    unfold HostedRedeem.loadChallenge
    rw [alone_attempt_bind hget]
    rfl
  have hredeem : alone app pick (HostedRedeem.redeemRecord app req id)
      (s'.consumed app (HostedRedeem.nonceTag id)) = (.error .notFound, s₂) := by
    unfold HostedRedeem.redeemRecord
    rw [alone_bind_error hload]
  refine outcome_eq s₂ ?_
  unfold HostedRedeem.handleHostedRedeem
  rw [if_neg ht.origin, if_neg ht.sessionId, alone_ofExcept_bind_ok ht.verifier, alone_await,
    hread]
  dsimp only
  rw [alone_ofExcept_bind_ok ht.admitted, if_neg (HostedRedeem.attemptLeft_iff.mpr ht.left),
    alone_attempt_bind hupdate]
  simp only [ht.names]
  rw [alone_bind_ok (HostedRedeem.alone_consumeNonce_free hp hfree)]
  exact hredeem

/-- A poll of a session that names the challenge, up to its load of the record. -/
structure Polled (app : AppState) (s : State) (req : StatusRequest) (session : HostedSession)
    (id : Uuid) : Prop where
  sessionId : ¬ (parseUuid req.sessionId).isNone
  origin : (HostedRedeem.originOf req.headers).toList ≠ []
  publicKey : ((req.headers "X-Public-Key").getD "").toList ≠ []
  found : s.sessions req.sessionId = some session
  admitted : HostedStatus.checkSession app req.headers session = .ok ()
  names : parseUuid session.verifierChallengeId = some id
  left : session.statusCheckCount < HostedStatus.defaultMaxStatusChecks

theorem checksLeft {session : HostedSession}
    (h : session.statusCheckCount < HostedStatus.defaultMaxStatusChecks) :
    ¬ session.incrementStatusChecks.statusCheckCount > HostedStatus.defaultMaxStatusChecks := by
  have hcount : session.incrementStatusChecks.statusCheckCount =
      satSucc session.statusCheckCount := rfl
  rw [hcount]
  unfold satSucc
  split <;> omega

/-- **A status poll**. -/
theorem hostedStatus_lapsed {req : StatusRequest} {session : HostedSession}
    (hp : Healthy pick) (h : Lapsed s id) (ht : Polled app s req session id) :
    outcome app pick (HostedStatus.handleHostedStatus app req) s = .error .notFound := by
  have hread : perform app s (.getSession req.sessionId) (pick (.getSession req.sessionId)) =
      (.ok (some session), s) := by
    rw [hp.getSession, ← ht.found]
    rfl
  obtain ⟨_, s', hupdate, hsame⟩ := HostedRedeem.alone_updateSession app pick s
    session.incrementStatusChecks (some session.incrementStatusChecks.state)
  have hlapsed : Lapsed s' id := by
    intro c hc
    have hc : s.record id = some c := hsame.record.symm.trans hc
    rw [hsame.clock]
    exact h c hc
  obtain ⟨s₂, hget, -⟩ := alone_get_lapsed app hp hlapsed
  have hnames : parseUuid session.incrementStatusChecks.verifierChallengeId = some id := ht.names
  have hreport : alone app pick
      (HostedStatus.reportChallenge req.sessionId session.incrementStatusChecks) s' =
      (.error .notFound, s₂) := by
    unfold HostedStatus.reportChallenge
    rw [hnames]
    dsimp only
    rw [alone_attempt_bind hget]
    rfl
  refine outcome_eq s₂ ?_
  unfold HostedStatus.handleHostedStatus
  rw [if_neg ht.sessionId, if_neg ht.origin, if_neg ht.publicKey, alone_await, hread]
  dsimp only
  rw [alone_ofExcept_bind_ok ht.admitted, if_neg (checksLeft ht.left),
    alone_attempt_bind hupdate]
  exact hreport

/-! ## What the readers are told -/

/-- The request names the challenge and passes the gates in front of the record. -/
def Valid (app : AppState) (s : State) (id : Uuid) : Reader → Prop
  | .verify req => req.challengeId = id ∧ validateFetchMetadata app.uni req.headers = .ok () ∧
      ∃ key, Idempotency.extractIdempotencyKey app.uni req.headers "POST" "/v1/verify" = .ok key
  | .redeem req => req.sid = id ∧ Sent app req
  | .hostedRedeem req => ∃ session, Tried app s req session id
  | .hostedStatus req => ∃ session, Polled app s req session id

/-- Neither the authentication nor the idempotency of the request stands in front of the record.
In the sandbox, the authentication may ask the record for its owner. -/
def Direct (app : AppState) (pick : (op : Op) → Choice op) (s : State) : Reader → Prop
  | .redeem req => app.environment ≠ "sandbox" ∧ Redeem.Unkeyed app req ∧
      ∃ auth, outcome app pick (authenticateApiKey app req.headers ⟨none, false, none⟩) s =
        .ok auth ∧ auth.clientId ≠ none
  | _ => True

/-- The answer says that the challenge has expired. -/
def SaysExpired : Except ApiError Told → Prop
  | .error (.gone _) => True
  | .ok (.status r) => r.state = .expired
  | _ => False

/-- An error of a handler whose response is wrapped. -/
theorem outcome_wrap {α β : Type} {p : Handler α} {f : α → β} {e : ApiError}
    (h : outcome app pick p s = .error e) :
    outcome app pick (p >>= fun a => ret (f a)) s = .error e := by
  have hp : alone app pick p s = (.error e, (alone app pick p s).2) := Prod.ext h rfl
  exact congrArg Prod.fst (alone_bind_error hp)

/-- **Expiry is not reported as expiry.** At a clock that has reached the expiry of a stored record,
a request that reads it is not told that it has expired; it is answered 404. -/
theorem expiry_not_reported {reader : Reader} (hp : Healthy pick)
    (hstored : s.record id = some r) (hexpired : r.expiresAt ≤ s.clock)
    (hvalid : Valid app s id reader) :
    ¬ SaysExpired (outcome app pick (reader.handle app) s) ∧
      (Direct app pick s reader →
        outcome app pick (reader.handle app) s = .error .notFound) := by
  have hlapsed := lapsed_of_expired hstored hexpired
  have hnot {e : ApiError} (h : outcome app pick (reader.handle app) s = .error e)
      (hgone : ∀ msg, e ≠ .gone msg) :
      ¬ SaysExpired (outcome app pick (reader.handle app) s) := by
    rw [h]
    cases e with
    | gone msg => exact absurd rfl (hgone msg)
    | _ => exact fun hsays => hsays
  cases reader with
  | verify req =>
    obtain ⟨rfl, hmetadata, key, hkey⟩ := hvalid
    have h := outcome_wrap (f := fun a => Told.response (.submitted a))
      (verify_lapsed hp hlapsed hkey hmetadata)
    exact ⟨hnot h nofun, fun _ => h⟩
  | redeem req =>
    obtain ⟨rfl, hsent⟩ := hvalid
    obtain ⟨s₁, auth, hsame, hauth, hfailed, hpassed⟩ := alone_redeem_lapsed hp hlapsed hsent
    refine ⟨?_, ?_⟩
    · by_cases hclient : auth.clientId = none
      · exact hnot (outcome_wrap (f := fun a => Told.response (.redeemed a)) (hfailed hclient))
          nofun
      · refine hnot (outcome_wrap (f := fun a => Told.response (.redeemed a)) (hpassed hclient)) ?_
        intro msg
        split
        · exact nofun
        · exact nofun
    · rintro ⟨hsandbox, hun, auth', hauth', hclient⟩
      obtain rfl := hsame hsandbox
      rw [outcome_eq _ hauth] at hauth'
      cases hauth'
      have h := hpassed hclient
      rw [if_pos hun] at h
      exact outcome_wrap (f := fun a => Told.response (.redeemed a)) h
  | hostedRedeem req =>
    obtain ⟨session, ht⟩ := hvalid
    have h := outcome_wrap (f := fun a => Told.response (.hostedRedeemed a))
      (hostedRedeem_lapsed hp hlapsed ht)
    exact ⟨hnot h nofun, fun _ => h⟩
  | hostedStatus req =>
    obtain ⟨session, ht⟩ := hvalid
    have h := outcome_wrap (f := Told.status) (hostedStatus_lapsed hp hlapsed ht)
    exact ⟨hnot h nofun, fun _ => h⟩

/-! ## Samples -/

/-- The sample record a second after its expiry, before anything has read it. -/
def lateState : State := { Sample.state with clock := 1301 }

/-- A poll by the shop's page. -/
def latePoll : StatusRequest :=
  { headers := Sample.hostedRedemption.headers
    sessionId := Sample.session.sessionId }

theorem lateState_record :
    lateState.record CachedChallenge.sample.id = some CachedChallenge.sample := by
  simp [lateState, State.record, Sample.state]

theorem valid_verify : Valid .sample lateState CachedChallenge.sample.id
    (.verify Sample.submission) :=
  ⟨rfl, rfl, none, rfl⟩

theorem valid_redeem : Valid .sample lateState CachedChallenge.sample.id
    (.redeem Sample.redemption) :=
  ⟨rfl, ⟨none, rfl⟩, rfl⟩

theorem lateState_session :
    lateState.sessions Sample.session.sessionId = some Sample.session := by
  simp [lateState, Sample.state]

theorem session_names : parseUuid Sample.session.verifierChallengeId =
    some CachedChallenge.sample.id := by
  decide +kernel

theorem valid_hostedRedeem : Valid .sample lateState CachedChallenge.sample.id
    (.hostedRedeem Sample.hostedRedemption) := by
  refine ⟨Sample.session, by decide, by decide +kernel, by decide +kernel, lateState_session, rfl,
    session_names, Nat.zero_lt_succ _, ?_⟩
  intro entry hentry
  cases hentry

theorem valid_hostedStatus : Valid .sample lateState CachedChallenge.sample.id
    (.hostedStatus latePoll) :=
  ⟨Sample.session, by decide +kernel, by decide, by decide, lateState_session, rfl, session_names,
    by decide⟩

/-- The redemption of the expired sample record by the shop's server. -/
theorem expiry_not_reported_redeem :
    ¬ SaysExpired (outcome .sample healthy
        ((Reader.redeem Sample.redemption).handle .sample) lateState) ∧
      outcome .sample healthy ((Reader.redeem Sample.redemption).handle .sample) lateState =
        .error .notFound := by
  have h := expiry_not_reported healthy_healthy lateState_record (by decide) valid_redeem
  exact ⟨h.1, h.2 ⟨by decide, .inl rfl, ⟨some "shop", false⟩, by decide +kernel, nofun⟩⟩

/-- Each of the four requests, correct as it is, is answered 404 a second after the expiry of a
record that is still stored. -/
theorem expired_answered_404 :
    lateState.record CachedChallenge.sample.id = some CachedChallenge.sample ∧
      CachedChallenge.sample.expiresAt < lateState.clock ∧
      ∀ reader ∈ [Reader.verify Sample.submission, .redeem Sample.redemption,
          .hostedRedeem Sample.hostedRedemption, .hostedStatus latePoll],
        Valid .sample lateState CachedChallenge.sample.id reader ∧
          outcome .sample healthy (reader.handle .sample) lateState = .error .notFound := by
  refine ⟨lateState_record, by decide, ?_⟩
  intro reader hreader
  rcases List.mem_cons.mp hreader with rfl | hreader
  · exact ⟨valid_verify, by decide +kernel⟩
  · rcases List.mem_cons.mp hreader with rfl | hreader
    · exact ⟨valid_redeem, by decide +kernel⟩
    · rcases List.mem_cons.mp hreader with rfl | hreader
      · exact ⟨valid_hostedRedeem, by decide +kernel⟩
      · obtain rfl := List.mem_singleton.mp hreader
        exact ⟨valid_hostedStatus, by decide +kernel⟩

end ExpiredReads

end ProviiVerifier
