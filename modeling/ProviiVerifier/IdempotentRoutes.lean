/-
  What the routes ask of the idempotency store.

  The three routes scope the header's key to their label and fingerprint it with that label and the
  client. What the request is about is part of neither. A creation checks its key before it draws
  the challenge and stores its response after everything else.

  Proved: whatever the answers are, a route checks and stores under its own key and client, and what
  it replays was found under them (`guarded_handle_keyed`); a creation sends its record after it was
  told that the key is new, and stores its response once, after the record
  (`guarded_createChallenge_keyed`).
-/
import ProviiVerifier.Requests

namespace ProviiVerifier

open Interleaving Prog

variable {app : AppState}

/-! ## Keys and clients -/

/-- The request uses the idempotency store, at the route of the given label. -/
inductive Keyed (app : AppState) : Request → String → String → Prop
  | create {req : CreateChallengeRequest} {k : String} (hstore : app.idempotencyStore = true)
      (hkey : Idempotency.extractIdempotencyKey app.uni req.headers "POST" "/v1/challenge" =
        .ok (some k)) : Keyed app (.create req) "challenge" k
  | verify {req : SubmitProofRequest} {k : String} (hstore : app.idempotencyStore = true)
      (hkey : Idempotency.extractIdempotencyKey app.uni req.headers "POST" "/v1/verify" =
        .ok (some k)) : Keyed app (.verify req) "verify" k
  | redeem {req : RedeemRequest} {k : String} (hstore : app.idempotencyStore = true)
      (hkey : Idempotency.extractIdempotencyKey app.uni req.headers "POST" "/v1/redeem" =
        .ok (some k)) : Keyed app (.redeem req) "redeem" k

/-- The client the request acts for: the one that signed it, the owner of the challenge it read,
the one its API key belongs to. -/
inductive ActsFor (app : AppState) (h : History Op Res) : Request → String → Prop
  | create {req : CreateChallengeRequest} : ActsFor app h (.create req) req.authorizer.keyId
  | verify {req : SubmitProofRequest} {c : CachedChallenge} {clientId : String}
      (hread : ChallengeStore.Read req.challengeId c h) (howner : c.clientId = some clientId) :
      ActsFor app h (.verify req) clientId
  | redeem {req : RedeemRequest} {clientId : String}
      (hauth : AuthenticatedAs app req.headers clientId h) : ActsFor app h (.redeem req) clientId

theorem ActsFor.mono {req : Request} {clientId : String} {h h' : History Op Res} (hs : h <:+ h')
    (ha : ActsFor app h req clientId) : ActsFor app h' req clientId := by
  cases ha with
  | create => exact .create
  | verify hread howner => exact .verify (hread.mono hs) howner
  | redeem hauth => exact .redeem (hauth.mono hs)

/-- The fingerprint of a client at a route. -/
abbrev fingerprint (app : AppState) (endpoint clientId : String) : String :=
  Idempotency.computeRequestFingerprint app endpoint clientId

/-- What a route may ask of the store. -/
inductive KeyedOp (app : AppState) (req : Request) (h : History Op Res) : Op → Prop
  | other {op : Op} (hop : ¬ Idempotency.IsIdempotency op) : KeyedOp app req h op
  | check {endpoint k clientId : String} (hkey : Keyed app req endpoint k)
      (hacts : ActsFor app h req clientId) :
      KeyedOp app req h (Idempotency.checkOp app (Idempotency.scopedKey endpoint k))
  | store {endpoint k clientId body : String} {status : Nat} {ttl : Option Nat}
      (hkey : Keyed app req endpoint k) (hacts : ActsFor app h req clientId) :
      KeyedOp app req h (Idempotency.storeOp app (Idempotency.scopedKey endpoint k)
        (Idempotency.setRequest app endpoint clientId status body ttl))

/-- The body was sent to the store. -/
def Stored (h : History Op Res) (body : Body IdempotencyDO.SetRequest) : Prop :=
  ∃ shard path answer, (⟨.idempotencyDO shard path (.post body), answer⟩ : Sigma Res) ∈ h

theorem not_stored_nil : ∀ body, ¬ Stored [] body := by
  rintro body ⟨shard, path, answer, hm⟩
  exact absurd hm List.not_mem_nil

/-- Operations that store nothing. -/
theorem not_stored_grows {h h' : History Op Res} {P : Op → Prop}
    (hnone : ∀ body, ¬ Stored h body) (hg : Grows P h h')
    (hP : ∀ shard path body, ¬ P (.idempotencyDO shard path (.post body))) :
    ∀ body, ¬ Stored h' body := by
  rintro body ⟨shard, path, answer, hm⟩
  rcases hg.entries _ hm with hm | hop
  · exact hnone body ⟨shard, path, answer, hm⟩
  · exact hP shard path body hop

/-- A check stores nothing. -/
theorem not_stored_check {h h' : History Op Res} {endpoint : String} {key : Option String}
    (hnone : ∀ body, ¬ Stored h body)
    (hg : Grows (fun op => ∃ k, Idempotency.KeyInUse app key k ∧
      op = Idempotency.checkOp app (Idempotency.scopedKey endpoint k)) h h') :
    ∀ body, ¬ Stored h' body := by
  refine not_stored_grows hnone hg ?_
  rintro shard path body ⟨k, -, hop⟩
  unfold Idempotency.checkOp at hop
  injection hop with _ _ hmethod
  cases hmethod

/-- What a route replays was found under its own key and client; the request stored nothing. -/
def KeyedOutcome {α : Type} (app : AppState) (req : Request) (h : History Op Res)
    (r : Except ApiError (Answer α)) : Prop :=
  ∀ cached, r = .ok (.cached cached) → (∀ body, ¬ Stored h body) ∧
    ∃ endpoint k clientId, Keyed app req endpoint k ∧ ActsFor app h req clientId ∧
      Idempotency.Found app endpoint k (fingerprint app endpoint clientId) cached h

section Outcome

variable {α : Type} {req : Request} {h : History Op Res}

theorem KeyedOutcome.error {e : ApiError} : KeyedOutcome (α := α) app req h (.error e) :=
  fun _ hr => (nomatch hr)

theorem KeyedOutcome.fresh {a : α} : KeyedOutcome app req h (.ok (.fresh a)) :=
  fun _ hr => (nomatch hr)

end Outcome

/-! ## Parts that do not ask the store -/

/-- An operation that is no request to the store. -/
def Quiet (op : Op) : Prop := ¬ Idempotency.IsIdempotency op

theorem AuthLookup.quiet {op : Op} (hop : AuthLookup op) : Quiet op := by
  cases op <;> first | exact fun h => h | cases hop

theorem IsQuota.quiet {op : Op} (hop : IsQuota op) : Quiet op := by
  cases op <;> first | exact fun h => h | cases hop

theorem ChallengeStore.Fetch.quiet {id : Uuid} {r : ChallengeDO.Request} {op : Op}
    (hop : ChallengeStore.Fetch id r op) : Quiet op := by
  rcases hop with rfl | rfl
  · exact fun h => h
  · exact fun h => h

theorem ChallengeStore.PutOp.quiet {id : Uuid} {c : CachedChallenge} {op : Op}
    (hop : ChallengeStore.PutOp app id c op) : Quiet op := by
  rcases hop with rfl | rfl | rfl
  · exact fun h => h
  · exact fun h => h
  · exact fun h => h

theorem NonceStore.IsCheck.quiet {tag : String} {op : Op} (hop : NonceStore.IsCheck tag op) :
    Quiet op := by
  rw [hop]
  exact fun h => h

theorem Credits.IsCharge.quiet {req : ConsumeCreditsRequest} {op : Op}
    (hop : Credits.IsCharge req op) : Quiet op := by
  obtain ⟨binding, rfl⟩ := hop
  exact fun h => h

/-! ## The stages of a route -/

section Stages

variable {α β : Type} {req : Request} {h h' : History Op Res} {key : Option String}
  {endpoint clientId : String}

theorem not_stored_quiet (hnone : ∀ body, ¬ Stored h body) (hg : Grows Quiet h h') :
    ∀ body, ¬ Stored h' body :=
  not_stored_grows hnone hg fun _ _ _ hop => hop trivial

/-- A stage that does not ask the store. -/
theorem guarded_quiet_bind {P : Op → Prop} {S : History Op Res → Except ApiError β → Prop}
    {p : Handler β} {f : β → Handler (Answer α)} (hp : Guarded (fun _ op => P op) S h p)
    (hP : ∀ op, P op → Quiet op)
    (hf : ∀ h' a, Grows Quiet h h' → S h' (.ok a) →
      Guarded (KeyedOp app req) (KeyedOutcome app req) h' (f a)) :
    Guarded (KeyedOp app req) (KeyedOutcome app req) h (p >>= f) := by
  have hquiet : Guarded (fun _ op => Quiet op) S h p := hp.imp (fun _ => hP) fun _ _ hr => hr
  exact hquiet.seq (fun _ _ _ hop => .other hop) hf fun _ _ _ _ => .error

/-- The check of the key: what is found is replayed. -/
theorem guarded_checkCached_bind {f : Option Idempotency.CachedResponse → Handler (Answer α)}
    (hkeyed : ∀ k, Idempotency.KeyInUse app key k → Keyed app req endpoint k)
    (hacts : ActsFor app h req clientId) (hnone : ∀ body, ¬ Stored h body)
    (hcached : ∀ response, f (some response) = return .cached response)
    (hfresh : ∀ h', h <:+ h' → Guarded (KeyedOp app req) (KeyedOutcome app req) h' (f none)) :
    Guarded (KeyedOp app req) (KeyedOutcome app req) h
      (Idempotency.checkCached app key endpoint clientId >>= f) := by
  refine Idempotency.guarded_checkCached_result.seq ?_ ?_ fun _ _ _ _ => .error
  · rintro h' op hg ⟨k, hk, rfl⟩
    exact .check (hkeyed k hk) (hacts.mono hg.suffix)
  · intro h' response hg hresult
    cases response with
    | none => exact hfresh h' hg.suffix
    | some response =>
      rw [hcached]
      intro cached heq
      cases heq
      obtain ⟨k, hk, hfound⟩ := hresult.found response rfl
      exact ⟨not_stored_check hnone hg, endpoint, k, clientId, hkeyed k hk, hacts.mono hg.suffix,
        hfound⟩

/-- The response is stored, and answered. -/
theorem guarded_storeCached_bind {status : Nat} {body : String} {ttl : Option Nat} {a : α}
    (hkeyed : ∀ k, Idempotency.KeyInUse app key k → Keyed app req endpoint k)
    (hacts : ActsFor app h req clientId) :
    Guarded (KeyedOp app req) (KeyedOutcome app req) h
      (Idempotency.storeCached app key endpoint clientId status body ttl >>= fun _ =>
        return .fresh a) := by
  refine Idempotency.guarded_storeCached_result.seq ?_ (fun _ _ _ _ => .fresh)
    fun _ _ _ _ => .error
  rintro h' op hg ⟨k, hk, rfl⟩
  exact .store (hkeyed k hk) (hacts.mono hg.suffix)

end Stages

/-! ## Submissions -/

namespace Verify

variable {req : SubmitProofRequest} {c : CachedChallenge} {h : History Op Res}

theorem quiet_loadOp {op : Op} (hop : LoadOp req op) : Quiet op := by
  rcases hop with rfl | hop
  · exact fun h => h
  · exact hop.quiet

theorem quiet_submissionOp {op : Op} (hop : SubmissionOp app req c op) : Quiet op := by
  rcases hop with ⟨hash, rfl | rfl⟩ | hop
  · exact fun h => h
  · exact fun h => h
  · exact hop.quiet

theorem only_checkOpen {id : Uuid} {now : Nat} : (checkOpen app id c now).Only Quiet := by
  unfold checkOpen
  split
  · refine Only.bind (Only.attempt ?_) fun _ => trivial
    exact (ChallengeStore.guarded_put (h := [])).only.imp fun _ hop => hop.quiet
  · split
    · trivial
    · trivial

theorem only_acceptSubmission {now : Nat} :
    (acceptSubmission app req c now).Only Quiet := by
  unfold acceptSubmission
  split
  · refine Only.bind ?_ fun _ => trivial
    exact (guarded_failChallengeAndPersist (h := [])).only.imp fun _ hop => hop.quiet
  · refine Only.bind ?_ fun issuer => ?_
    · exact (guarded_lookupIssuer (h := [])).only.imp fun _ hop => quiet_submissionOp hop
    · refine Only.bind (Only.attempt ?_) fun r => ?_
      · exact (ChallengeStore.guarded_put (h := [])).only.imp fun _ hop => hop.quiet
      · cases r with
        | error e => trivial
        | ok _ => trivial

/-- The owner of the record is the client that a submission acts for. -/
theorem actsFor_owner {auth : ApiKeyAuthResult} {clientId : String} {h' : History Op Res}
    (hread : ChallengeStore.Read req.challengeId c h')
    (hauth : AuthOutcome app req.headers ⟨c.clientId, true, c.clientId⟩ h (.ok auth))
    (hclient : auth.clientId = some clientId)
    (howner : (if auth.isMobileFlow then .ok ()
      else verifyOwnership c.clientId (some clientId)) = (.ok () : Except ApiError Unit)) :
    ActsFor app h' (.verify req) clientId := by
  exact .verify hread (hauth.owner hclient howner).1

/-- **Submissions and the idempotency store.** -/
theorem guarded_submitVerification_keyed (app : AppState) (req : SubmitProofRequest) :
    (submitVerification app req).Guarded (KeyedOp app (.verify req))
      (KeyedOutcome app (.verify req)) [] := by
  refine guarded_ofExcept_bind (fun key hkey => ?_) fun _ _ => .error
  refine guarded_ofExcept_bind (fun _ _ => ?_) fun _ _ => .error
  refine guarded_quiet_bind (guarded_loadUnbanned req) (fun _ hop => quiet_loadOp hop) ?_
  intro h1 cached hg1 hload
  have hnone1 := not_stored_quiet not_stored_nil hg1
  refine guarded_quiet_bind guarded_authenticateApiKey (fun _ hop => hop.quiet) ?_
  intro h2 auth hg2 hauth
  have hread : ChallengeStore.Read req.challengeId cached h2 :=
    (hload cached rfl).1.mono hg2.suffix
  split
  · exact .error
  · next clientId hclient =>
    refine guarded_ofExcept_bind (fun _ howner => ?_) fun _ _ => .error
    have hacts : ActsFor app h2 (.verify req) clientId :=
      actsFor_owner hread hauth hclient howner
    have hkeyed : ∀ k, Idempotency.KeyInUse app key k → Keyed app (.verify req) "verify" k :=
      fun k hk => .verify hk.2 (hk.1 ▸ hkey)
    refine guarded_checkCached_bind hkeyed hacts (not_stored_quiet hnone1 hg2) (fun _ => rfl)
      fun h3 hs3 => ?_
    refine guarded_quiet_bind guarded_enforceAccountQuota (fun _ hop => hop.quiet)
      fun h4 _ hg4 _ => ?_
    refine guarded_quiet_bind (guarded_consumeNonce req.challengeId) (fun _ hop => hop.quiet)
      fun h5 _ hg5 _ => ?_
    refine guarded_quiet_bind (guarded_loadPolicy cached.origin)
      (fun op hop => hop ▸ fun h => h) fun h6 policy hg6 _ => ?_
    refine guarded_await_bind.mpr ⟨.other fun h => h, fun now => ?_⟩
    refine guarded_quiet_bind only_checkOpen.guarded (fun _ hop => hop) fun h7 _ hg7 _ => ?_
    refine guarded_quiet_bind guarded_checkSubmission (fun _ hop => quiet_submissionOp hop)
      fun h8 _ hg8 _ => ?_
    refine guarded_quiet_bind only_acceptSubmission.guarded (fun _ hop => hop)
      fun h9 response hg9 _ => ?_
    have hs9 : h2 <:+ h9 :=
      (((((((hs3.trans hg4.suffix).trans hg5.suffix).trans hg6.suffix).trans
        (List.suffix_cons _ _)).trans hg7.suffix).trans hg8.suffix).trans hg9.suffix)
    split
    · exact guarded_storeCached_bind hkeyed (hacts.mono hs9)
    · exact .fresh

end Verify

/-! ## Redemptions -/

namespace Redeem

variable {h : History Op Res}

theorem only_grantVerdict {id : Uuid} {origin : String} {c : CachedChallenge} {now : Nat} :
    (grantVerdict app id origin c now).Only Quiet := by
  refine (guarded_grantVerdict.imp (h := []) ?_ fun _ _ _ => trivial).only (Q := fun _ _ => True)
  rintro h op ((rfl | hop) | ⟨-, hop⟩)
  · exact fun h => h
  · exact hop.quiet
  · exact hop.quiet

/-- **Redemptions and the idempotency store.** -/
theorem guarded_redeemChallenge_keyed (app : AppState) (req : RedeemRequest) :
    (redeemChallenge app req).Guarded (KeyedOp app (.redeem req))
      (KeyedOutcome app (.redeem req)) [] := by
  refine guarded_ofExcept_bind (fun key hkey => ?_) fun _ _ => .error
  refine guarded_ofExcept_bind (fun _ _ => ?_) fun _ _ => .error
  refine guarded_quiet_bind (guarded_prefetchChallenge app req.sid) (fun _ hop => hop.quiet) ?_
  rintro h1 prefetched hg1 ⟨_, hr, hpre⟩
  cases hr
  have hnone1 := not_stored_quiet not_stored_nil hg1
  refine guarded_quiet_bind guarded_authenticateApiKey (fun _ hop => hop.quiet) ?_
  rintro h2 auth hg2 ⟨_, hr, hauth⟩
  cases hr
  split
  · exact .error
  · next clientId hclient =>
    have hacts : ActsFor app h2 (.redeem req) clientId := by
      rcases hauth clientId hclient with ⟨-, hauth⟩ | ⟨-, hmobile, -⟩
      · exact .redeem hauth
      · cases hmobile
    have hkeyed : ∀ k, Idempotency.KeyInUse app key k → Keyed app (.redeem req) "redeem" k :=
      fun k hk => .redeem hk.2 (hk.1 ▸ hkey)
    refine guarded_checkCached_bind hkeyed hacts (not_stored_quiet hnone1 hg2) (fun _ => rfl)
      fun h3 hs3 => ?_
    have hpre3 : ∀ c, prefetched = some c → ChallengeStore.Read req.sid c h3 :=
      fun c hc => ((hpre c hc).mono hg2.suffix).mono hs3
    refine guarded_quiet_bind (guarded_loadChallenge hpre3) (fun _ hop => hop.quiet)
      fun h4 loaded hg4 _ => ?_
    refine guarded_ofExcept_bind (fun _ _ => ?_) fun _ _ => .error
    refine guarded_await_bind.mpr ⟨.other fun h => h, fun now => ?_⟩
    refine guarded_ofExcept_bind (fun _ _ => ?_) fun _ _ => .error
    refine guarded_quiet_bind guarded_enforceAccountQuota (fun _ hop => hop.quiet)
      fun h5 _ hg5 _ => ?_
    refine guarded_quiet_bind guarded_consumeNonce (fun _ hop => hop.quiet)
      fun h6 _ hg6 _ => ?_
    refine guarded_quiet_bind only_grantVerdict.guarded (fun _ hop => hop)
      fun h7 _ hg7 _ => ?_
    have hs7 : h2 <:+ h7 :=
      ((((hs3.trans hg4.suffix).trans (List.suffix_cons _ _)).trans hg5.suffix).trans
        hg6.suffix).trans hg7.suffix
    exact guarded_storeCached_bind hkeyed (hacts.mono hs7)

end Redeem

theorem HostedRedeem.Performs.quiet {op : Op} (hop : HostedRedeem.Performs app op) : Quiet op := by
  cases hop with
  | timestamp => exact fun h => h
  | getSession => exact fun h => h
  | update hop =>
    rw [hop.1]
    exact fun h => h
  | check hop => exact hop.quiet
  | fetch hop => exact hop.quiet
  | enforce hop =>
    rcases hop with rfl | hop
    · exact fun h => h
    · exact hop.quiet
  | put hop => exact hop.quiet

/-- A hosted redemption does not use the store. -/
theorem HostedRedeem.quiet_handleHostedRedeem (req : HostedRedeemRequest) :
    (HostedRedeem.handleHostedRedeem app req).Only Quiet :=
  (HostedRedeem.performs_handleHostedRedeem req).imp fun _ hop => hop.quiet

/-! ## Creations -/

namespace CreateChallenge

/-- An operation that is neither a request to the store nor to the object of a challenge. -/
def Plain : Op → Prop
  | .idempotencyDO _ _ _ | .challengeDO _ _ => False
  | _ => True

/-- A request to the object of a challenge was sent. -/
def Recorded (h : History Op Res) : Prop :=
  ∃ id r answer, (⟨.challengeDO id r, answer⟩ : Sigma Res) ∈ h

theorem Recorded.mono {h h' : History Op Res} (hs : h <:+ h') (hr : Recorded h) :
    Recorded h' := by
  obtain ⟨id, r, answer, hm⟩ := hr
  exact ⟨id, r, answer, hs.subset hm⟩

/-- What a creation stores. -/
def storedResponse (app : AppState) (req : CreateChallengeRequest) (response : ChallengeResponse)
    (ttl : Option Nat) : IdempotencyDO.SetRequest :=
  Idempotency.setRequest app "challenge" req.authorizer.keyId 201 (response.toJson app) ttl

/-- What a creation may do with the store and with challenges. -/
inductive CreateOp (app : AppState) (req : CreateChallengeRequest) (h : History Op Res) :
    Op → Prop
  | plain {op : Op} (hop : Plain op) : CreateOp app req h op
  | check {k : String} (hkey : Keyed app (.create req) "challenge" k) :
      CreateOp app req h (Idempotency.checkOp app (Idempotency.scopedKey "challenge" k))
  | record {id : Uuid} {r : ChallengeDO.Request}
      (hnew : ∀ k, Keyed app (.create req) "challenge" k →
        Idempotency.ToldNew app "challenge" k h) : CreateOp app req h (.challengeDO id r)
  | store {k : String} {response : ChallengeResponse} {ttl : Option Nat}
      (hkey : Keyed app (.create req) "challenge" k) (hrecorded : Recorded h)
      (hsame : ∀ body, Stored h body → body.value = some (storedResponse app req response ttl)) :
      CreateOp app req h (Idempotency.storeOp app (Idempotency.scopedKey "challenge" k)
        (storedResponse app req response ttl))

/-- What the answer to a creation says: a new response is the one that was stored, and a replayed
one was found. -/
def CreateOutcome (app : AppState) (req : CreateChallengeRequest) (h : History Op Res) :
    Except ApiError (Answer ChallengeResponse) → Prop
  | .ok (.fresh response) => Recorded h ∧
      ∀ body, Stored h body → ∃ set, body.value = some set ∧
        set.responseBody = response.toJson app
  | .ok (.cached cached) => (∀ body, ¬ Stored h body) ∧
      ∃ k, Keyed app (.create req) "challenge" k ∧
        Idempotency.Found app "challenge" k
          (fingerprint app "challenge" req.authorizer.keyId) cached h
  | .error _ => True

variable {req : CreateChallengeRequest} {h h' : History Op Res}

/-- What is stored by storing one response. -/
theorem stored_grows {set : IdempotencyDO.SetRequest} {key : Option String}
    (hnone : ∀ body, ¬ Stored h body)
    (hg : Grows (fun op => ∃ k, Idempotency.KeyInUse app key k ∧
      op = Idempotency.storeOp app (Idempotency.scopedKey "challenge" k) set) h h') :
    ∀ body, Stored h' body → body.value = some set := by
  rintro body ⟨shard, path, answer, hm⟩
  rcases hg.entries _ hm with hm | ⟨k, -, hop⟩
  · exact absurd ⟨shard, path, answer, hm⟩ (hnone body)
  · unfold Idempotency.storeOp at hop
    injection hop with _ _ hmethod
    injection hmethod with hbody
    rw [hbody]

theorem PolicyOp.plain {op : Op} (hop : PolicyOp op) : Plain op := by
  cases op <;> first | exact trivial | cases hop

theorem plain_quota {op : Op} (hop : IsQuota op) : Plain op := by
  cases op <;> first | exact trivial | cases hop

theorem plain_auth {authorizer : Authorizer} {op : Op}
    (hop : ClientAuthenticator.AuthOp authorizer op) : Plain op := by
  rcases hop with rfl | hop | rfl
  · trivial
  · cases op <;> first | exact trivial | cases hop
  · trivial

/-- The publication of a challenge whose key is new. -/
theorem guarded_publish_keyed {key : Option String} {origin : String} {client : ClientAuthConfig}
    {terms : Terms} (hclient : client.clientId = req.authorizer.keyId)
    (hkeyed : ∀ k, Idempotency.KeyInUse app key k → Keyed app (.create req) "challenge" k)
    (hnew : ∀ k, Keyed app (.create req) "challenge" k → Idempotency.ToldNew app "challenge" k h)
    (hnone : ∀ body, ¬ Stored h body) :
    Guarded (CreateOp app req) (CreateOutcome app req) h
      (publish app req key origin client terms) := by
  unfold publish
  refine guarded_await_bind.mpr ⟨.plain trivial, fun id => ?_⟩
  refine guarded_await_bind.mpr ⟨.plain trivial, fun nonce => ?_⟩
  refine guarded_await_bind.mpr ⟨.plain trivial, fun submitSecret => ?_⟩
  refine guarded_await_bind.mpr ⟨.plain trivial, fun now => ?_⟩
  have hg0 : Grows Plain h (⟨.timestamp, now⟩ :: ⟨.secureRandom 32, submitSecret⟩ ::
      ⟨.secureRandom 32, nonce⟩ :: ⟨.newUuid, id⟩ :: h) :=
    ((((Grows.refl h).cons trivial id).cons trivial nonce).cons trivial submitSecret).cons
      trivial now
  have hnone0 := not_stored_grows hnone hg0 fun _ _ _ hop => hop
  refine ChallengeStore.guarded_put.seq_attempt ?_ ?_
  · rintro h1 op hg (rfl | rfl | rfl)
    · exact .record fun k hk => (hnew k hk).mono (hg0.suffix.trans hg.suffix)
    · exact .record fun k hk => (hnew k hk).mono (hg0.suffix.trans hg.suffix)
    · exact .plain trivial
  · intro h1 r hg1 hput
    have hnone1 : ∀ body, ¬ Stored h1 body :=
      not_stored_grows hnone0 hg1 (by simp [ChallengeStore.PutOp])
    rcases r with e | _
    · trivial
    · have hrecorded : Recorded h1 := by
        rcases hput with ⟨-, hne⟩ | hput
        · exact absurd rfl hne
        · obtain ⟨answer, hm⟩ := hput.update
          exact ⟨_, _, answer, hm⟩
      refine guarded_await_bind.mpr ⟨.plain trivial, fun stored => ?_⟩
      split
      · have hplain : ∀ key value ttl, Plain (.configPut key value ttl) :=
          fun _ _ _ => trivial
        have hg2 := (Grows.refl (P := Plain) h1).cons (hplain _ _ _) stored
        have hnone2 := not_stored_grows hnone1 hg2 fun _ _ _ hop => hop
        have hrecorded2 := hrecorded.mono hg2.suffix
        rw [hclient]
        refine Idempotency.guarded_storeCached_result.seq ?_ ?_ fun _ _ _ _ => trivial
        · rintro h3 op hg3 ⟨k, hk, rfl⟩
          exact .store (hkeyed k hk) (hrecorded2.mono hg3.suffix) (stored_grows hnone2 hg3)
        · intro h3 _ hg3 _
          refine ⟨hrecorded2.mono hg3.suffix, fun body hstored => ?_⟩
          exact ⟨_, stored_grows hnone2 hg3 body hstored, rfl⟩
      · trivial

/-- **Creations and the idempotency store.** -/
theorem guarded_createChallenge_keyed (app : AppState) (req : CreateChallengeRequest) :
    (createChallenge app req).Guarded (CreateOp app req) (CreateOutcome app req) [] := by
  unfold createChallenge
  refine guarded_ofExcept_bind (fun _ _ => ?_) fun _ _ => trivial
  refine guarded_ofExcept_bind (fun origin _ => ?_) fun _ _ => trivial
  refine guarded_ofExcept_bind (fun key hkey => ?_) fun _ _ => trivial
  refine guarded_ofExcept_bind (fun _ _ => ?_) fun _ _ => trivial
  have hkeyed : ∀ k, Idempotency.KeyInUse app key k → Keyed app (.create req) "challenge" k :=
    fun k hk => .create hk.2 (hk.1 ▸ hkey)
  have hinUse : ∀ k, Keyed app (.create req) "challenge" k → Idempotency.KeyInUse app key k := by
    intro k hk
    cases hk with
    | create hstore hk =>
      rw [hkey] at hk
      exact ⟨Except.ok.inj hk, hstore⟩
  refine guarded_resolvePolicy.seq (fun _ _ _ hop => .plain hop.plain) ?_ fun _ _ _ _ => trivial
  intro h1 policy hg1 _
  have hnone1 := not_stored_grows not_stored_nil hg1 fun _ _ _ hop => hop
  split
  · trivial
  · refine ClientAuthenticator.guarded_authenticateTracked.seq
      (fun _ _ _ hop => .plain (plain_auth hop)) ?_ fun _ _ _ _ => trivial
    intro h2 client hg2 hauth
    have hclient := (hauth client rfl).2
    have hnone2 := not_stored_grows hnone1 hg2 fun _ _ _ hop => plain_auth hop
    rw [hclient]
    refine Idempotency.guarded_checkCached_result.seq ?_ ?_ fun _ _ _ _ => trivial
    · rintro h' op - ⟨k, hk, rfl⟩
      exact .check (hkeyed k hk)
    · intro h3 response hg3 hresult
      have hnone3 := not_stored_check hnone2 hg3
      cases response with
      | some response =>
        obtain ⟨k, hk, hfound⟩ := hresult.found response rfl
        exact ⟨hnone3, k, hkeyed k hk, hfound⟩
      | none =>
        have hnew : ∀ k, Keyed app (.create req) "challenge" k →
            Idempotency.ToldNew app "challenge" k h3 :=
          fun k hk => hresult.new rfl k (hinUse k hk)
        refine guarded_enforceAccountQuota.seq (fun _ _ _ hop => .plain (plain_quota hop)) ?_
          fun _ _ _ _ => trivial
        intro h4 _ hg4 _
        have hnone4 := not_stored_grows hnone3 hg4 fun _ _ _ hop => plain_quota hop
        refine guarded_await_bind.mpr ⟨.plain trivial, fun entry => ?_⟩
        refine guarded_ofExcept_bind (fun _ _ => ?_) fun _ _ => trivial
        refine guarded_await_bind.mpr ⟨.plain trivial, fun now => ?_⟩
        refine guarded_ofExcept_bind (fun terms _ => ?_) fun _ _ => trivial
        have hg5 : Grows Plain h4 (⟨.timestamp, now⟩ :: ⟨.originIndexGet origin, entry⟩ :: h4) :=
          ((Grows.refl h4).cons trivial entry).cons trivial now
        exact guarded_publish_keyed hclient hkeyed
          (fun k hk => (hnew k hk).mono (hg4.suffix.trans hg5.suffix))
          (not_stored_grows hnone4 hg5 fun _ _ _ hop => hop)

/-- What a creation does with the store is what a route may do. -/
theorem CreateOp.keyedOp {op : Op} (hop : CreateOp app req h op) :
    KeyedOp app (.create req) h op := by
  cases hop with
  | plain hop =>
    refine .other ?_
    cases op <;> first | exact fun h => h | cases hop
  | check hkey => exact .check hkey .create
  | record hnew => exact .other fun h => h
  | store hkey hrecorded hsame => exact .store hkey .create

end CreateChallenge

/-! ## The service -/

/-- What a route of the service replays. -/
def Response.replayed : Response → Option Idempotency.CachedResponse
  | .created (.cached r) => some r
  | .submitted (.cached r) => some r
  | .redeemed (.cached r) => some r
  | _ => none

/-- What a request of the service replays was found under its own key and client. -/
def ReplayedFrom (app : AppState) (req : Request) (h : History Op Res)
    (r : Except ApiError Response) : Prop :=
  ∀ response cached, r = .ok response → response.replayed = some cached →
    (∀ body, ¬ Stored h body) ∧ ∃ endpoint k clientId, Keyed app req endpoint k ∧
      ActsFor app h req clientId ∧
      Idempotency.Found app endpoint k (fingerprint app endpoint clientId) cached h

/-- An answer of a route replays what it was handed. -/
theorem replayedFrom_map {α : Type} {app : AppState} {req : Request} {h : History Op Res}
    {wrap : Answer α → Response} (hfresh : ∀ a, (wrap (.fresh a)).replayed = none)
    (hwrap : ∀ cached, (wrap (.cached cached)).replayed = some cached)
    {r : Except ApiError (Answer α)}
    (hr : ∀ cached, r = .ok (.cached cached) → (∀ body, ¬ Stored h body) ∧
      ∃ endpoint k clientId, Keyed app req endpoint k ∧ ActsFor app h req clientId ∧
        Idempotency.Found app endpoint k (fingerprint app endpoint clientId) cached h) :
    ReplayedFrom app req h (r.map wrap) := by
  intro response cached hok hcached
  rcases r with e | fresh | cached'
  · cases hok
  · injection hok with hok
    rw [← hok, hfresh] at hcached
    cases hcached
  · injection hok with hok
    rw [← hok, hwrap] at hcached
    injection hcached with hcached
    rw [← hcached]
    exact hr cached' rfl

/-- **The routes and the idempotency store.** -/
theorem guarded_handle_keyed (app : AppState) (req : Request) :
    (handle app req).Guarded (KeyedOp app req) (ReplayedFrom app req) [] := by
  cases req with
  | create req =>
    have hguarded := (CreateChallenge.guarded_createChallenge_keyed app req).wrap Response.created
    refine hguarded.imp (fun h op hop => hop.keyedOp) ?_
    rintro h r ⟨r', hout, rfl⟩
    refine replayedFrom_map (fun _ => rfl) (fun _ => rfl) ?_
    rintro cached rfl
    obtain ⟨hnone, k, hkey, hfound⟩ := hout
    exact ⟨hnone, "challenge", k, _, hkey, .create, hfound⟩
  | verify req =>
    have hguarded := (Verify.guarded_submitVerification_keyed app req).wrap Response.submitted
    refine hguarded.imp (fun h op hop => hop) ?_
    rintro h r ⟨r', hout, rfl⟩
    exact replayedFrom_map (fun _ => rfl) (fun _ => rfl) hout
  | redeem req =>
    have hguarded := (Redeem.guarded_redeemChallenge_keyed app req).wrap Response.redeemed
    refine hguarded.imp (fun h op hop => hop) ?_
    rintro h r ⟨r', hout, rfl⟩
    exact replayedFrom_map (fun _ => rfl) (fun _ => rfl) hout
  | hostedRedeem req =>
    refine (HostedRedeem.quiet_handleHostedRedeem req).seq (fun _ _ _ hop => .other hop) ?_ ?_
    · intro h a _ response cached hr hcached
      cases hr
      cases hcached
    · intro h e response cached hr
      cases hr

/-! ## Entries that are found -/

/-- The store answered no entry so far. -/
def Unfound (h : History Op Res) : Prop :=
  ∀ shard path entry, (⟨.idempotencyDO shard path .get, some (.found entry)⟩ : Sigma Res) ∉ h

/-- The operation is no check of a key. -/
def NoCheck (op : Op) : Prop := ∀ shard path, op ≠ .idempotencyDO shard path .get

/-- An entry that a request found is under its own key; unless it carries the fingerprint of its own
client, the request ends in a conflict. -/
def FoundOutcome {α : Type} (app : AppState) (req : Request) (h : History Op Res)
    (r : Except ApiError α) : Prop :=
  ∀ shard path entry, (⟨.idempotencyDO shard path .get, some (.found entry)⟩ : Sigma Res) ∈ h →
    ∃ endpoint k clientId, Keyed app req endpoint k ∧ ActsFor app h req clientId ∧
      path = Idempotency.keyPath (Idempotency.scopedKey endpoint k) ∧
      (entry.requestFingerprint = fingerprint app endpoint clientId ∨
        ∃ text, r = .error (.conflict text))

section Found

variable {req : Request} {h h' : History Op Res}

theorem unfound_nil : Unfound [] := fun _ _ _ => List.not_mem_nil

theorem Quiet.noCheck {op : Op} (hop : Quiet op) : NoCheck op := by
  rintro shard path rfl
  exact hop trivial

theorem noCheck_storeOp {key : String} {set : IdempotencyDO.SetRequest} :
    NoCheck (Idempotency.storeOp app key set) := by
  intro shard path heq
  unfold Idempotency.storeOp at heq
  injection heq with _ _ hmethod
  cases hmethod

theorem Unfound.grows {P : Op → Prop} (hu : Unfound h) (hg : Grows P h h')
    (hP : ∀ op, P op → NoCheck op) : Unfound h' := by
  intro shard path entry hm
  rcases hg.entries _ hm with hm | hop
  · exact hu shard path entry hm
  · exact hP _ hop shard path rfl

theorem Unfound.outcome {α : Type} {r : Except ApiError α} (hu : Unfound h) :
    FoundOutcome app req h r :=
  fun shard path entry hm => absurd hm (hu shard path entry)

/-- A part of a route that checks no key finds no entry. -/
theorem Unfound.rest {α : Type} {p : Handler α} (hu : Unfound h) (hp : p.Only NoCheck) :
    Guarded (fun _ _ => True) (FoundOutcome app req) h p := by
  refine hp.guarded.grows.imp (fun _ _ _ => trivial) ?_
  rintro h' r ⟨hg, -⟩
  exact (hu.grows hg fun _ hop => hop).outcome

/-- A first part of a route that checks no key, of which its result matters. -/
theorem Unfound.seq {α β : Type} {P : Op → Prop} {Q : History Op Res → Except ApiError α → Prop}
    {p : Handler α} {f : α → Handler β} (hu : Unfound h)
    (hp : Guarded (fun _ op => P op) Q h p) (hP : ∀ op, P op → NoCheck op)
    (hf : ∀ h' a, h <:+ h' → Unfound h' → Q h' (.ok a) →
      Guarded (fun _ _ => True) (FoundOutcome app req) h' (f a)) :
    Guarded (fun _ _ => True) (FoundOutcome app req) h (p >>= f) := by
  refine hp.seq (fun _ _ _ _ => trivial) ?_ ?_
  · intro h' a hg hq
    exact hf h' a hg.suffix (hu.grows hg hP) hq
  · intro h' e hg _
    exact (hu.grows hg hP).outcome

/-- What the check of a key found ends it: the response is replayed, or the check fails with a
conflict. -/
def CheckFound (app : AppState) (key : Option String) (endpoint identity : String)
    (h : History Op Res) (r : Except ApiError (Option Idempotency.CachedResponse)) : Prop :=
  ∀ shard path entry, (⟨.idempotencyDO shard path .get, some (.found entry)⟩ : Sigma Res) ∈ h →
    ∃ k, Idempotency.KeyInUse app key k ∧
      path = Idempotency.keyPath (Idempotency.scopedKey endpoint k) ∧
      (entry.requestFingerprint = fingerprint app endpoint identity ∧
          (∃ cached, r = .ok (some cached)) ∨
        ∃ text, r = .error (.conflict text))

theorem guarded_checkIdempotency_found {key endpoint print : String} (hu : Unfound h) :
    Guarded (fun _ _ => True) (fun h' r => ∀ shard path entry,
        (⟨.idempotencyDO shard path .get, some (.found entry)⟩ : Sigma Res) ∈ h' →
          path = Idempotency.keyPath (Idempotency.scopedKey endpoint key) ∧
          (entry.requestFingerprint = print ∧ (∃ cached, r = .ok (some cached)) ∨
            ∃ text, r = .error (.conflict text))) h
      (Idempotency.checkIdempotency app key endpoint print) := by
  unfold Idempotency.checkIdempotency
  refine guarded_bind.mpr (guarded_attempt.mpr ?_)
  refine guarded_ofExcept_bind (fun _ _ => ?_) fun e _ shard path entry hm =>
    absurd hm (hu shard path entry)
  refine ⟨trivial, fun answer => ?_⟩
  have hnone : (∀ entry, answer ≠ some (.found entry)) → Unfound
      (⟨Idempotency.checkOp app (Idempotency.scopedKey endpoint key), answer⟩ :: h) := by
    intro hne shard path entry hm
    rcases List.mem_cons.mp hm with heq | hm
    · injection heq with hop hanswer
      unfold Idempotency.checkOp at hop
      cases hop
      exact hne entry hanswer.symm
    · exact hu shard path entry hm
  rcases answer with _ | (entry | _ | _ | success | ⟨body, status⟩ | code)
  case some.found =>
    have hsame : ∀ shard path entry',
        (⟨.idempotencyDO shard path .get, some (.found entry')⟩ : Sigma Res) ∈
          (⟨Idempotency.checkOp app (Idempotency.scopedKey endpoint key), some (.found entry)⟩ ::
            h : History Op Res) →
        path = Idempotency.keyPath (Idempotency.scopedKey endpoint key) ∧ entry' = entry := by
      intro shard path entry' hm
      rcases List.mem_cons.mp hm with heq | hm
      · injection heq with hop hanswer
        unfold Idempotency.checkOp at hop
        cases hop
        cases hanswer
        exact ⟨rfl, rfl⟩
      · exact absurd hm (hu shard path entry')
    simp only [Prog.bind, pure_eq, thenGuarded, guarded_ret]
    split
    · intro shard path entry' hm
      exact ⟨(hsame shard path entry' hm).1, .inr ⟨_, rfl⟩⟩
    · split
      · intro shard path entry' hm
        exact ⟨(hsame shard path entry' hm).1, .inr ⟨_, rfl⟩⟩
      · next hprint =>
        intro shard path entry' hm
        obtain ⟨hpath, rfl⟩ := hsame shard path entry' hm
        exact ⟨hpath, .inl ⟨not_not.mp hprint, _, rfl⟩⟩
  all_goals
    intro shard path entry hm
    refine absurd hm (hnone (fun entry' heq => ?_) shard path entry)
    cases heq

/-- **The check of a key**, on a request that found nothing so far. -/
theorem guarded_checkCached_found {key : Option String} {endpoint identity : String}
    (hu : Unfound h) : Guarded (fun _ _ => True) (CheckFound app key endpoint identity) h
      (Idempotency.checkCached app key endpoint identity) := by
  unfold Idempotency.checkCached
  split
  · next k =>
    split
    · next hstore =>
      refine (guarded_checkIdempotency_found hu).imp (fun _ _ hop => hop) ?_
      intro h' r hr shard path entry hm
      obtain ⟨hpath, hcases⟩ := hr shard path entry hm
      exact ⟨k, ⟨rfl, hstore⟩, hpath, hcases⟩
    · exact fun shard path entry hm => absurd hm (hu shard path entry)
  · exact fun shard path entry hm => absurd hm (hu shard path entry)

/-- **From the check of a key on**: what is found there ends the route. -/
theorem Unfound.check {α : Type} {key : Option String} {endpoint clientId : String}
    {f : Option Idempotency.CachedResponse → Handler α} (hu : Unfound h)
    (hkeyed : ∀ k, Idempotency.KeyInUse app key k → Keyed app req endpoint k)
    (hacts : ActsFor app h req clientId)
    (hreplay : ∀ cached, ∃ a, f (some cached) = .ret a) (hrest : (f none).Only NoCheck) :
    Guarded (fun _ _ => True) (FoundOutcome app req) h
      (Idempotency.checkCached app key endpoint clientId >>= f) := by
  refine (guarded_checkCached_found hu).bind ?_ ?_
  · intro h' response hs hresult
    cases response with
    | some cached =>
      obtain ⟨a, ha⟩ := hreplay cached
      rw [ha]
      intro shard path entry hm
      obtain ⟨k, hk, hpath, ⟨hprint, -⟩ | ⟨text, htext⟩⟩ := hresult shard path entry hm
      · exact ⟨endpoint, k, clientId, hkeyed k hk, hacts.mono hs, hpath, .inl hprint⟩
      · cases htext
    | none =>
      refine Unfound.rest ?_ hrest
      intro shard path entry hm
      obtain ⟨k, -, -, ⟨-, cached, hcached⟩ | ⟨text, htext⟩⟩ := hresult shard path entry hm
      · cases hcached
      · cases htext
  · intro h' e hs hresult shard path entry hm
    obtain ⟨k, hk, hpath, ⟨-, cached, hcached⟩ | ⟨text, htext⟩⟩ := hresult shard path entry hm
    · cases hcached
    · cases htext
      exact ⟨endpoint, k, clientId, hkeyed k hk, hacts.mono hs, hpath, .inr ⟨text, rfl⟩⟩

end Found

/-! ## The routes that find an entry -/

theorem Verify.found_submitVerification (app : AppState) (req : SubmitProofRequest) :
    (Verify.submitVerification app req).Guarded (fun _ _ => True)
      (FoundOutcome app (.verify req)) [] := by
  refine guarded_ofExcept_bind (fun key hkey => ?_) fun _ _ => unfound_nil.outcome
  refine guarded_ofExcept_bind (fun _ _ => ?_) fun _ _ => unfound_nil.outcome
  refine unfound_nil.seq (Verify.guarded_loadUnbanned req) ?_ ?_
  · rintro op (rfl | hop)
    · exact nofun
    · exact hop.quiet.noCheck
  · intro h1 cached hs1 hu1 hload
    refine hu1.seq guarded_authenticateApiKey (fun _ hop => hop.quiet.noCheck) ?_
    intro h2 auth hs2 hu2 hauth
    split
    · exact hu2.outcome
    · next clientId hclient =>
      refine guarded_ofExcept_bind (fun _ howner => ?_) fun _ _ => hu2.outcome
      have hread : ChallengeStore.Read req.challengeId cached h2 := (hload cached rfl).1.mono hs2
      have hacts : ActsFor app h2 (.verify req) clientId :=
        Verify.actsFor_owner hread hauth hclient howner
      refine hu2.check (fun k hk => .verify hk.2 (hk.1 ▸ hkey)) hacts (fun r => ⟨_, rfl⟩) ?_
      refine Only.bind ?_ fun _ => Only.bind ?_ fun _ => Only.bind ?_ fun policy =>
        only_await_bind.mpr ⟨nofun, fun now => Only.bind ?_ fun _ => Only.bind ?_ fun _ =>
          Only.bind ?_ fun response => ?_⟩
      · exact (guarded_enforceAccountQuota (h := [])).only.imp fun _ hop => hop.quiet.noCheck
      · exact (Verify.guarded_consumeNonce (h := []) req.challengeId).only.imp
          fun _ hop => hop.quiet.noCheck
      · refine (Verify.guarded_loadPolicy (h := []) cached.origin).only.imp ?_
        rintro op rfl
        exact nofun
      · exact Verify.only_checkOpen.imp fun _ hop => Quiet.noCheck hop
      · exact (Verify.guarded_checkSubmission (h := [])).only.imp
          fun _ hop => (Verify.quiet_submissionOp hop).noCheck
      · exact Verify.only_acceptSubmission.imp fun _ hop => Quiet.noCheck hop
      · split
        · refine Only.bind ?_ fun _ => trivial
          refine (Idempotency.guarded_storeCached_result (h := [])).only.imp ?_
          rintro op ⟨k, -, rfl⟩
          exact noCheck_storeOp
        · trivial

theorem Redeem.found_redeemChallenge (app : AppState) (req : RedeemRequest) :
    (Redeem.redeemChallenge app req).Guarded (fun _ _ => True)
      (FoundOutcome app (.redeem req)) [] := by
  refine guarded_ofExcept_bind (fun key hkey => ?_) fun _ _ => unfound_nil.outcome
  refine guarded_ofExcept_bind (fun _ _ => ?_) fun _ _ => unfound_nil.outcome
  refine unfound_nil.seq (Redeem.guarded_prefetchChallenge app req.sid)
    (fun _ hop => hop.quiet.noCheck) ?_
  rintro h1 prefetched hs1 hu1 ⟨_, hr, hpre⟩
  cases hr
  refine hu1.seq guarded_authenticateApiKey (fun _ hop => hop.quiet.noCheck) ?_
  rintro h2 auth hs2 hu2 ⟨_, hr, hauth⟩
  cases hr
  split
  · exact hu2.outcome
  · next clientId hclient =>
    have hacts : ActsFor app h2 (.redeem req) clientId := by
      rcases hauth clientId hclient with ⟨-, hauth⟩ | ⟨-, hmobile, -⟩
      · exact .redeem hauth
      · cases hmobile
    refine hu2.check (fun k hk => .redeem hk.2 (hk.1 ▸ hkey)) hacts (fun r => ⟨_, rfl⟩) ?_
    refine Only.bind ?_ fun loaded => Only.bind only_ofExcept fun _ =>
      only_await_bind.mpr ⟨nofun, fun now => Only.bind only_ofExcept fun _ =>
        Only.bind ?_ fun _ => Only.bind ?_ fun _ => Only.bind ?_ fun _ => Only.bind ?_ fun _ =>
          trivial⟩
    · exact (Redeem.guarded_loadChallenge hpre).only.imp fun _ hop => hop.quiet.noCheck
    · exact (guarded_enforceAccountQuota (h := [])).only.imp fun _ hop => hop.quiet.noCheck
    · exact (Redeem.guarded_consumeNonce (h := [])).only.imp fun _ hop => hop.quiet.noCheck
    · exact Redeem.only_grantVerdict.imp fun _ hop => Quiet.noCheck hop
    · refine (Idempotency.guarded_storeCached_result (h := [])).only.imp ?_
      rintro op ⟨k, -, rfl⟩
      exact noCheck_storeOp

theorem CreateChallenge.noCheck_publish {app : AppState} {req : CreateChallengeRequest}
    {key : Option String} {origin : String} {client : ClientAuthConfig} {terms : Terms} :
    (publish app req key origin client terms).Only NoCheck := by
  unfold publish
  refine only_await_bind.mpr ⟨nofun, fun id => only_await_bind.mpr ⟨nofun, fun nonce =>
    only_await_bind.mpr ⟨nofun, fun submitSecret => only_await_bind.mpr ⟨nofun, fun now =>
      Only.bind (Only.attempt ?_) fun r => ?_⟩⟩⟩⟩
  · exact (ChallengeStore.guarded_put (h := [])).only.imp fun _ hop => hop.quiet.noCheck
  · cases r with
    | error e => trivial
    | ok _ =>
      refine only_await_bind.mpr ⟨nofun, fun stored => ?_⟩
      split
      · refine Only.bind ?_ fun _ => trivial
        refine (Idempotency.guarded_storeCached_result (h := [])).only.imp ?_
        rintro op ⟨k, -, rfl⟩
        exact noCheck_storeOp
      · trivial

theorem CreateChallenge.found_createChallenge (app : AppState) (req : CreateChallengeRequest) :
    (CreateChallenge.createChallenge app req).Guarded (fun _ _ => True)
      (FoundOutcome app (.create req)) [] := by
  unfold CreateChallenge.createChallenge
  refine guarded_ofExcept_bind (fun _ _ => ?_) fun _ _ => unfound_nil.outcome
  refine guarded_ofExcept_bind (fun origin _ => ?_) fun _ _ => unfound_nil.outcome
  refine guarded_ofExcept_bind (fun key hkey => ?_) fun _ _ => unfound_nil.outcome
  refine guarded_ofExcept_bind (fun _ _ => ?_) fun _ _ => unfound_nil.outcome
  have hplain : ∀ op, CreateChallenge.Plain op → NoCheck op := by
    rintro op hop shard path rfl
    exact hop
  refine unfound_nil.seq CreateChallenge.guarded_resolvePolicy
    (fun op hop => hplain op hop.plain) ?_
  intro h1 policy hs1 hu1 _
  split
  · exact hu1.outcome
  · refine hu1.seq ClientAuthenticator.guarded_authenticateTracked
      (fun op hop => hplain op (CreateChallenge.plain_auth hop)) ?_
    intro h2 client hs2 hu2 hauth
    rw [(hauth client rfl).2]
    refine hu2.check (fun k hk => .create hk.2 (hk.1 ▸ hkey)) .create (fun r => ⟨_, rfl⟩) ?_
    refine Only.bind ?_ fun _ => only_await_bind.mpr ⟨nofun, fun entry =>
      Only.bind only_ofExcept fun _ => only_await_bind.mpr ⟨nofun, fun now =>
        Only.bind only_ofExcept fun terms => ?_⟩⟩
    · exact (guarded_enforceAccountQuota (h := [])).only.imp fun _ hop => hop.quiet.noCheck
    · exact noCheck_publish

/-- **The entry that a request of the service finds.** -/
theorem found_handle (app : AppState) (req : Request) :
    (handle app req).Guarded (fun _ _ => True) (FoundOutcome app req) [] := by
  have hwrap : ∀ {α : Type} {req : Request} {p : Handler α} (f : α → Response),
      p.Guarded (fun _ _ => True) (FoundOutcome app req) [] →
        (p >>= fun a => .ret (f a)).Guarded (fun _ _ => True) (FoundOutcome app req) [] := by
    intro α req p f hp
    refine (hp.wrap f).imp (fun _ _ hop => hop) ?_
    rintro h _ ⟨r, hr, rfl⟩ shard path entry hm
    obtain ⟨endpoint, k, clientId, hkey, hacts, hpath, hprint | ⟨text, rfl⟩⟩ :=
      hr shard path entry hm
    · exact ⟨endpoint, k, clientId, hkey, hacts, hpath, .inl hprint⟩
    · exact ⟨endpoint, k, clientId, hkey, hacts, hpath, .inr ⟨text, rfl⟩⟩
  cases req with
  | create req => exact hwrap _ (CreateChallenge.found_createChallenge app req)
  | verify req => exact hwrap _ (Verify.found_submitVerification app req)
  | redeem req => exact hwrap _ (Redeem.found_redeemChallenge app req)
  | hostedRedeem req =>
    refine unfound_nil.rest (Only.bind ?_ fun _ => trivial)
    exact (HostedRedeem.quiet_handleHostedRedeem req).imp fun _ hop => Quiet.noCheck hop

end ProviiVerifier
