/-
  `hosted/endpoints/redeem.rs`: redemption through a hosted session.

  The session names the challenge. The nonce gate comes before the record is loaded, so a
  request that fails at the record or later has consumed the challenge's tag.

  Proved: whatever the answers are, the handler writes `Verified` only in time on a record it read
  as `ProofOkWaitingForRedeem`, with its code verifier hashing to the record's code challenge, for a
  session of its origin and public key that names the challenge, after the nonce store accepted
  the challenge's tag and the credits were enforced (`guarded_handleHostedRedeem`).
-/
import ProviiVerifier.Redeem

namespace ProviiVerifier

open Interleaving Prog

/-- `POST /v1/hosted/redeem`. -/
structure HostedRedeemRequest where
  headers : Headers
  sessionId : String
  codeVerifier : String

/-- `HostedRedeemResponse`. -/
structure HostedRedeemResponse where
  status : String
  verifiedAt : Nat
  expiresAt : Nat
  deriving DecidableEq

namespace HostedRedeem

/-- `DEFAULT_MAX_REDEEM_ATTEMPTS`. -/
def defaultMaxRedeemAttempts : Nat := 3

/-- `validate_code_verifier`. -/
def validateCodeVerifier (verifier : String) : Except ApiError Unit :=
  if verifier.toList = [] then .error (.badRequest (some "Code verifier cannot be empty"))
  else if byteLen verifier < 43 ∨ byteLen verifier > 128 then
    .error (.badRequest (some "Code verifier must be 43-128 characters"))
  else if verifier.toList.all isUnreserved = false then
    .error (.badRequest (some
      "Code verifier must contain only unreserved characters [A-Za-z0-9-._~]"))
  else .ok ()

/-- The tag a hosted redemption consumes. -/
def nonceTag (challengeId : Uuid) : String := "hosted_redeem:" ++ challengeId.toString

/-- The request's origin; empty when there is none. -/
def originOf (headers : Headers) : String := (headers "Origin").getD ""

/-- The gates on the session: origin, public key, session binding. -/
def checkSession (app : AppState) (headers : Headers) (session : HostedSession) :
    Except ApiError Unit :=
  if originOf headers ≠ session.origin then
    .error (.forbidden (some "Origin does not match session"))
  else
    let providedPublicKey := (headers "X-Public-Key").getD ""
    if providedPublicKey.toList = [] ∨ providedPublicKey ≠ session.publicKey then
      .error (.forbidden (some "Access denied"))
    else
      verifySessionBinding app ((headers "CF-Connecting-IP").getD "unknown")
        (headers "User-Agent") session.clientIpHash session.userAgent session.bindingMode

/-- The nonce gate. -/
def consumeNonce (challengeId : Uuid) : Handler Unit := do
  match ← attempt (NonceStore.checkAndSet (nonceTag challengeId) nonceDedupTtl) with
  | .ok true => return ()
  | .ok false => .fail (.conflict (some "Duplicate redemption attempt"))
  | .error e => .fail e.wrap

/-- The stored record. -/
def loadChallenge (challengeId : Uuid) : Handler CachedChallenge := do
  match ← attempt (ChallengeStore.get challengeId) with
  | .ok (some challenge) => return challenge
  | .ok none => .fail .notFound
  | .error e => .fail e.wrap

/-- A pending record is read once more. -/
def rereadPending (challengeId : Uuid) (cached : CachedChallenge) : Handler CachedChallenge := do
  if cached.state = .pending then
    match ← attempt (ChallengeStore.get challengeId) with
    | .ok (some refreshed) => return refreshed.zeroizeSecret
    | _ => return cached
  else return cached

/-- The response to a record that is not waiting for redemption. -/
def stateError : ChallengeState → ApiError
  | .pending => .conflict (some "Proof not submitted yet")
  | .proofOkWaitingForRedeem => .conflict (some "Challenge not ready for redemption")
  | .verified => .conflict (some "Session has already been redeemed")
  | .failed => .conflict (some "Challenge failed verification")
  | .expired => .gone (some "Session has expired")

/-- The gates on the record: state and PKCE. -/
def checkRecord (app : AppState) (codeVerifier : String) (cached : CachedChallenge) :
    Except ApiError Unit :=
  if cached.state ≠ .proofOkWaitingForRedeem then .error (stateError cached.state)
  else if app.sha256 (utf8Bytes codeVerifier) ≠ cached.codeChallengeBytes then
    .error (.badRequest (some "Invalid code_verifier"))
  else .ok ()

/-- The part of the handler after its nonce gate. -/
def redeemRecord (app : AppState) (req : HostedRedeemRequest) (challengeId : Uuid) :
    Handler HostedRedeemResponse := do
  let origin := originOf req.headers
  let loaded ← loadChallenge challengeId
  let cached := loaded.zeroizeSecret
  if origin ≠ cached.origin then .fail (.internal "origin consistency violation")
  else
    let now ← await .timestamp
    if now > cached.expiresAt ∧ cached.state ≠ .verified then
      .fail (.gone (some "Session has expired"))
    else
      let cached ← rereadPending challengeId cached
      ofExcept (checkRecord app req.codeVerifier cached)
      match app.sessionTokenSecret with
      | none => .fail (.serviceUnavailable (some "Session signing unavailable"))
      | some _ => do
        grantVerdict app challengeId origin cached now
        return { status := "verified", verifiedAt := now, expiresAt := cached.expiresAt }

/-- `handle_hosted_redeem`. -/
def handleHostedRedeem (app : AppState) (req : HostedRedeemRequest) :
    Handler HostedRedeemResponse := do
  if (originOf req.headers).toList = [] then
    .fail (.badRequest (some "Missing Origin header"))
  else if (parseUuid req.sessionId).isNone then
    .fail (.badRequest (some "Invalid session_id format"))
  else
    ofExcept (validateCodeVerifier req.codeVerifier)
    match ← await (.getSession req.sessionId) with
    | .error e => .fail e.wrap
    | .ok none => .fail .notFound
    | .ok (some session) =>
      ofExcept (checkSession app req.headers session)
      let counted := session.incrementRedeemAttempts
      if counted.redeemAttemptCount > defaultMaxRedeemAttempts then
        .fail (.tooManyRequests (some "Redemption rate limit exceeded"))
      else
        let _ ← attempt (SessionStore.updateSessionKvChecked counted (some counted.state))
        match parseUuid session.verifierChallengeId with
        | none => .fail (.internal "corrupt session data")
        | some challengeId =>
          consumeNonce challengeId
          redeemRecord app req challengeId

/-! ## What a redemption rests on -/

section Spec

variable {app : AppState} {req : HostedRedeemRequest} {id : Uuid} {c : CachedChallenge}
  {h h' : History Op Res}

/-- The challenge named by the session that a request read first. -/
def sessionChallenge (h : History Op Res) : Option Uuid :=
  match h.getLast? with
  | some ⟨.getSession _, .ok (some session)⟩ => parseUuid session.verifierChallengeId
  | _ => none

theorem sessionChallenge_mono (hs : h <:+ h') (hid : sessionChallenge h = some id) :
    sessionChallenge h' = some id := by
  obtain ⟨new, rfl⟩ := hs
  have hne : h ≠ [] := by
    rintro rfl
    cases hid
  unfold sessionChallenge at hid ⊢
  rw [List.getLast?_append_of_ne_nil new hne]
  exact hid

/-- The session the request was admitted to. -/
structure Admitted (req : HostedRedeemRequest) (id : Uuid) (h : History Op Res)
    (session : HostedSession) : Prop where
  read : ⟨.getSession req.sessionId, .ok (some session)⟩ ∈ h
  names : parseUuid session.verifierChallengeId = some id
  origin : req.headers "Origin" = some session.origin
  publicKey : req.headers "X-Public-Key" = some session.publicKey

/-- What a redemption went through before its credits are enforced. A pending record is read
twice; the origin and the expiry are checked on the first reading. -/
structure Grounds (app : AppState) (req : HostedRedeemRequest) (id : Uuid)
    (c : CachedChallenge) (h : History Op Res) : Prop where
  session : ∃ session, Admitted req id h session
  origin : ∃ first, ChallengeStore.Read id first h ∧ first.origin = originOf req.headers
  read : ChallengeStore.Read id c h
  state : c.state = .proofOkWaitingForRedeem
  pkce : app.sha256 (utf8Bytes req.codeVerifier) = c.codeChallengeBytes
  accepted : NonceStore.Accepted (nonceTag id) h

theorem Admitted.mono {session : HostedSession} (hs : h <:+ h') (ha : Admitted req id h session) :
    Admitted req id h' session :=
  ⟨hs.subset ha.read, ha.names, ha.origin, ha.publicKey⟩

theorem Grounds.mono (hs : h <:+ h') (hg : Grounds app req id c h) :
    Grounds app req id c h' := by
  obtain ⟨session, hsession⟩ := hg.session
  obtain ⟨first, hread, horigin⟩ := hg.origin
  exact ⟨⟨session, hsession.mono hs⟩, ⟨first, hread.mono hs, horigin⟩, hg.read.mono hs, hg.state,
    hg.pkce, hg.accepted.mono hs⟩

/-- The charge of a redemption. -/
def charge (app : AppState) (req : HostedRedeemRequest) (id : Uuid) (c : CachedChallenge) :
    ConsumeCreditsRequest :=
  Credits.chargeFor app id (originOf req.headers) c

/-- The clock was read before the expiry of a record that was read. -/
def InTime (id : Uuid) (now : Nat) (h : History Op Res) : Prop :=
  ∃ first, ChallengeStore.Read id first h ∧ OnTime first now h

theorem InTime.mono {now : Nat} (hs : h <:+ h') (ht : InTime id now h) : InTime id now h' := by
  obtain ⟨first, hread, htime⟩ := ht
  exact ⟨first, hread.mono hs, htime.mono hs⟩

/-- The records a redemption may write. -/
def Writes (app : AppState) (req : HostedRedeemRequest) (h : History Op Res) (id : Uuid)
    (c' : CachedChallenge) : Prop :=
  ∃ c now, c' = c.zeroizeSecret.verdict now ∧ InTime id now h ∧ Grounds app req id c h ∧
    Credits.Billed app (charge app req id c) h

/-- What a redemption comes to. -/
structure Outcome (app : AppState) (req : HostedRedeemRequest) (h : History Op Res)
    (r : Except ApiError HostedRedeemResponse) : Prop where
  sent : ∀ charge, Credits.Paid charge h → ∃ id c now,
    charge.verificationId = id.toString ∧ sessionChallenge h = some id ∧
      Grounds app req id c h ∧ Sent app id c.zeroizeSecret now h
  success : ∀ a, r = .ok a → ∃ id c, sessionChallenge h = some id ∧ Grounds app req id c h ∧
    Credits.Billed app (charge app req id c) h

/-- An error that leaves the request unpaid. -/
theorem Outcome.unpaid {e : ApiError} (hu : Credits.Unpaid h) : Outcome app req h (.error e) :=
  ⟨fun _ hpaid => absurd hpaid hu.not_paid, fun _ hr => (nomatch hr)⟩

theorem checkSession_ok {headers : Headers} {session : HostedSession}
    (horigin : (originOf headers).toList ≠ [])
    (hok : checkSession app headers session = .ok ()) :
    headers "Origin" = some session.origin ∧
      headers "X-Public-Key" = some session.publicKey := by
  unfold checkSession at hok
  split at hok
  · cases hok
  · next hmatch =>
    simp only at hok
    split at hok
    · cases hok
    · next hkey =>
      obtain ⟨hnonempty, hkey⟩ := not_or.mp hkey
      constructor
      · rw [← not_not.mp hmatch]
        unfold originOf at horigin ⊢
        cases ho : headers "Origin" with
        | none => simp [ho] at horigin
        | some o => rfl
      · rw [← not_not.mp hkey]
        cases hk : headers "X-Public-Key" with
        | none => simp [hk] at hnonempty
        | some k => rfl

theorem checkRecord_ok {codeVerifier : String}
    (hok : checkRecord app codeVerifier c = .ok ()) : c.state = .proofOkWaitingForRedeem ∧
      app.sha256 (utf8Bytes codeVerifier) = c.codeChallengeBytes := by
  unfold checkRecord at hok
  split at hok
  · cases hok
  · next hstate =>
    split at hok
    · cases hok
    · next hpkce => exact ⟨not_not.mp hstate, not_not.mp hpkce⟩

theorem guarded_consumeNonce (id : Uuid) :
    Guarded (fun _ op => NonceStore.IsCheck (nonceTag id) op)
      (fun h' r => r = .ok () → NonceStore.Accepted (nonceTag id) h') h (consumeNonce id) :=
  NonceStore.guarded_gate rfl ⟨_, rfl⟩ fun _ => ⟨_, rfl⟩

theorem guarded_loadChallenge (id : Uuid) :
    Guarded (fun _ op => ChallengeStore.Fetch id (.get id.toString) op)
      (fun h' r => ∀ c, r = .ok c → ChallengeStore.Read id c h') h (loadChallenge id) :=
  ChallengeStore.guarded_load (fun _ => rfl) ⟨_, rfl⟩ fun _ => ⟨_, rfl⟩

/-- The record a reread leaves is one that was read, without its secret; it is the first one
unless that is pending. -/
theorem guarded_rereadPending (hread : ChallengeStore.Read id c h) :
    Guarded (fun _ op => ChallengeStore.Fetch id (.get id.toString) op)
      (fun h' r => ∃ d, r = .ok d.zeroizeSecret ∧ ChallengeStore.Read id d h' ∧
        (c.state ≠ .pending → d = c)) h
      (rereadPending id c.zeroizeSecret) := by
  unfold rereadPending
  split
  · next hpending =>
    refine ChallengeStore.guarded_get.seq_attempt (fun _ _ _ hop => hop) ?_
    intro h' r hg hr
    rcases r with e | _ | d
    · exact ⟨c, rfl, hread.mono hg.suffix, fun _ => rfl⟩
    · exact ⟨c, rfl, hread.mono hg.suffix, fun _ => rfl⟩
    · exact ⟨d, rfl, hr, fun hne => absurd hpending hne⟩
  · exact ⟨c, rfl, hread, fun _ => rfl⟩

attribute [irreducible] consumeNonce loadChallenge rereadPending

/-- From the nonce gate on. -/
theorem guarded_redeemRecord (hu : Credits.Unpaid h) (hfirst : sessionChallenge h = some id)
    (hsession : ∃ session, Admitted req id h session)
    (haccept : NonceStore.Accepted (nonceTag id) h) :
    Guarded (fun h' op => RouteOp app (Writes app req h') op) (Outcome app req) h
      (redeemRecord app req id) := by
  obtain ⟨session, hsession⟩ := hsession
  refine (guarded_loadChallenge id).seq (fun _ _ _ => routeOp_get) ?_ ?_
  · intro h1 loaded hg1 hload
    have hu1 : Credits.Unpaid h1 := hu.grows hg1 (by simp [ChallengeStore.Fetch])
    dsimp only
    split
    · exact .unpaid hu1
    · next horigin =>
      have horigin : loaded.origin = originOf req.headers := (not_not.mp horigin).symm
      refine guarded_await_bind.mpr ⟨trivial, fun now => ?_⟩
      have hu2 : Credits.Unpaid (⟨.timestamp, now⟩ :: h1) := hu1.cons (by simp)
      have hread : ChallengeStore.Read id loaded (⟨.timestamp, now⟩ :: h1) :=
        (hload loaded rfl).mono (List.suffix_cons _ _)
      split
      · exact .unpaid hu2
      · next hexpiry =>
        refine (guarded_rereadPending hread).seq (fun _ _ _ => routeOp_get) ?_ ?_
        · rintro h3 _ hg3 ⟨c, hr, hreread, hsame⟩
          cases hr
          have hu3 : Credits.Unpaid h3 := hu2.grows hg3 (by simp [ChallengeStore.Fetch])
          refine guarded_ofExcept_bind (fun _ hrecord => ?_) fun e _ => .unpaid hu3
          obtain ⟨hstate, hpkce⟩ := checkRecord_ok hrecord
          have hstate : c.state = .proofOkWaitingForRedeem := hstate
          -- a verified record is not reread, and does not pass the gate on the state
          have hverified : loaded.state ≠ .verified := by
            intro hv
            have hc := hsame (by simp [hv])
            rw [hc, hv] at hstate
            cases hstate
          have htime : InTime id now h3 := by
            refine ⟨loaded, hread.mono hg3.suffix, hg3.suffix.subset List.mem_cons_self, ?_⟩
            exact Nat.le_of_not_lt fun hlt => hexpiry ⟨hlt, hverified⟩
          split
          · exact .unpaid hu3
          · have hs3 : h <:+ h3 :=
              (hg1.suffix.trans (List.suffix_cons _ _)).trans hg3.suffix
            have hgrounds : Grounds app req id c h3 :=
              ⟨⟨session, hsession.mono hs3⟩, ⟨loaded, hread.mono hg3.suffix, horigin⟩, hreread,
                hstate, hpkce, haccept.mono hs3⟩
            refine guarded_bind.mpr (guarded_grantVerdict.suffix.imp ?_ ?_)
            · rintro h4 op ⟨hs4, hop | ⟨hbilled, hop⟩⟩
              · exact routeOp_enforce hop
              · exact routeOp_put hop
                  ⟨c, now, rfl, htime.mono hs4, hgrounds.mono hs4, hbilled⟩
            · rintro h4 r ⟨hs4, hout⟩
              have hfirst4 := sessionChallenge_mono (hs3.trans hs4) hfirst
              have hsent : ∀ charge, Credits.Paid charge h4 → ∃ id c now,
                  charge.verificationId = id.toString ∧ sessionChallenge h4 = some id ∧
                    Grounds app req id c h4 ∧ Sent app id c.zeroizeSecret now h4 := by
                intro charge hpaid
                obtain ⟨hcharge, hsent⟩ := hout.sent hu3 charge hpaid
                exact ⟨id, c, now, hcharge, hfirst4, hgrounds.mono hs4, hsent⟩
              cases r with
              | error e => exact ⟨hsent, fun _ hr => by cases hr⟩
              | ok _ =>
                exact ⟨hsent, fun _ _ => ⟨id, c, hfirst4, hgrounds.mono hs4, hout.billed rfl⟩⟩
        · rintro h3 e _ ⟨_, hr, -⟩
          cases hr
  · intro h1 e hg1 _
    exact .unpaid (hu.grows hg1 (by simp [ChallengeStore.Fetch]))

attribute [irreducible] redeemRecord

/-- **Redemption through a hosted session.** -/
theorem guarded_handleHostedRedeem (app : AppState) (req : HostedRedeemRequest) :
    (handleHostedRedeem app req).Guarded (fun h op => RouteOp app (Writes app req h) op)
      (Outcome app req) [] := by
  have hu0 := Credits.unpaid_nil
  unfold handleHostedRedeem
  split
  · exact .unpaid hu0
  · next horigin =>
    split
    · exact .unpaid hu0
    · refine guarded_ofExcept_bind (fun _ _ => ?_) fun e _ => .unpaid hu0
      refine guarded_await_bind.mpr ⟨trivial, fun answer => ?_⟩
      have hu1 : Credits.Unpaid [⟨.getSession req.sessionId, answer⟩] := hu0.cons (by simp)
      rcases answer with e | _ | session
      · exact .unpaid hu1
      · exact .unpaid hu1
      · refine guarded_ofExcept_bind (fun _ hcheck => ?_) fun e _ => .unpaid hu1
        obtain ⟨ho, hkey⟩ := checkSession_ok horigin hcheck
        dsimp only
        split
        · exact .unpaid hu1
        · refine SessionStore.guarded_updateSessionKvChecked.seq_attempt
            (fun _ _ _ => routeOp_update) ?_
          intro h2 _ hg2 _
          have hu2 : Credits.Unpaid h2 := hu1.grows hg2 (by simp [SessionStore.IsUpdate])
          split
          · exact .unpaid hu2
          · next id hnames =>
            refine (guarded_consumeNonce id).seq (fun _ _ _ => routeOp_check) ?_ ?_
            · intro h3 _ hg3 haccept
              have hu3 : Credits.Unpaid h3 := hu2.grows hg3 (by simp [NonceStore.IsCheck])
              have hs3 := hg2.suffix.trans hg3.suffix
              have hread : (⟨.getSession req.sessionId, .ok (some session)⟩ : Sigma Res) ∈ h3 :=
                hs3.subset (by simp)
              exact guarded_redeemRecord hu3 (sessionChallenge_mono hs3 hnames)
                ⟨session, hread, hnames, ho, hkey⟩ (haccept rfl)
            · intro h3 e hg3 _
              exact .unpaid (hu2.grows hg3 (by simp [NonceStore.IsCheck]))

end Spec

/-! ## The operations of a redemption -/

/-- What a redemption through a session performs. -/
inductive Performs (app : AppState) : Op → Prop
  | timestamp : Performs app .timestamp
  | getSession (id : String) : Performs app (.getSession id)
  | update {s : HostedSession} {prior : SessionState} {op : Op}
    (hop : SessionStore.IsUpdate s prior op) : Performs app op
  | check {tag : String} {op : Op} (hop : NonceStore.IsCheck tag op) : Performs app op
  | fetch {id : Uuid} {r : ChallengeDO.Request} {op : Op} (hop : ChallengeStore.Fetch id r op) :
    Performs app op
  | enforce {charge : ConsumeCreditsRequest} {op : Op} (hop : Credits.EnforceOp charge op) :
    Performs app op
  | put {id : Uuid} {c : CachedChallenge} {op : Op} (hop : ChallengeStore.PutOp app id c op) :
    Performs app op

theorem performs_redeemRecord {app : AppState} {req : HostedRedeemRequest} (id : Uuid) :
    (redeemRecord app req id).Only (Performs app) := by
  unfold redeemRecord
  refine Only.bind ?_ fun loaded => ?_
  · exact (guarded_loadChallenge (h := []) id).only.imp fun _ hop => .fetch hop
  · dsimp only
    split
    · trivial
    · refine only_await_bind.mpr ⟨.timestamp, fun now => ?_⟩
      split
      · trivial
      · refine Only.bind ?_ fun cached => Only.bind only_ofExcept fun _ => ?_
        · unfold rereadPending
          split
          · refine Only.bind (Only.attempt ?_) fun r => ?_
            · exact (ChallengeStore.guarded_get (h := [])).only.imp fun _ hop => .fetch hop
            · split <;> trivial
          · trivial
        · split
          · trivial
          · refine Only.bind ?_ fun _ => trivial
            refine (guarded_grantVerdict.imp (h := []) ?_ fun _ _ _ => trivial).only
              (Q := fun _ _ => True)
            rintro h op (hop | ⟨-, hop⟩)
            · exact .enforce hop
            · exact .put hop

theorem performs_handleHostedRedeem {app : AppState} (req : HostedRedeemRequest) :
    (handleHostedRedeem app req).Only (Performs app) := by
  unfold handleHostedRedeem
  split
  · trivial
  · split
    · trivial
    · refine Only.bind only_ofExcept fun _ =>
        only_await_bind.mpr ⟨.getSession _, fun answer => ?_⟩
      rcases answer with e | _ | session
      · trivial
      · trivial
      · refine Only.bind only_ofExcept fun _ => ?_
        dsimp only
        split
        · trivial
        · refine Only.bind (Only.attempt ?_) fun _ => ?_
          · exact (SessionStore.guarded_updateSessionKvChecked (h := [])).only.imp
              fun _ hop => .update hop
          · split
            · trivial
            · next id _ =>
              refine Only.bind ?_ fun _ => performs_redeemRecord id
              exact (guarded_consumeNonce (h := []) id).only.imp fun _ hop => .check hop

end HostedRedeem

end ProviiVerifier
