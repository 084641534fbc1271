/-
  What the handlers use besides their routine operations: consume requests, entries of `KV_CONFIG`
  and hosted sessions.

  Proved: a submission uses none of them, a redemption sends consume requests, a redemption through
  a session uses that session too, and a creation writes the entry of the code of the id it drew.
-/
import ProviiVerifier.Requests

namespace ProviiVerifier

open Interleaving Prog

/-- An operation that is a consume request, an entry of `KV_CONFIG` or a use of a session only where
that is allowed. -/
def Uses (charge : Prop) (entry : String → String → Prop) (session : Prop) : Op → Prop
  | .credits _ _ => charge
  | .configPut key value _ => entry key value
  | .getSession _ => session
  | .putSession _ _ => session
  | _ => True

/-- A routine operation. -/
abbrev Routine : Op → Prop := Uses False (fun _ _ => False) False

variable {app : AppState} {op : Op} {charge session : Prop} {entry : String → String → Prop}

theorem Routine.uses (hop : Routine op) : Uses charge entry session op := by
  cases op <;> first | exact trivial | cases hop

theorem Uses.imp {charge' session' : Prop} {entry' : String → String → Prop}
    (hop : Uses charge entry session op) (hcharge : charge → charge')
    (hentry : ∀ key value, entry key value → entry' key value) (hsession : session → session') :
    Uses charge' entry' session' op := by
  cases op with
  | credits => exact hcharge hop
  | configPut => exact hentry _ _ hop
  | getSession => exact hsession hop
  | putSession => exact hsession hop
  | _ => exact trivial

/-! ## Parts -/

theorem routine_fetch {id : Uuid} {r : ChallengeDO.Request}
    (hop : ChallengeStore.Fetch id r op) : Routine op := by
  rcases hop with rfl | rfl
  · trivial
  · trivial

theorem routine_put {id : Uuid} {c : CachedChallenge} (hop : ChallengeStore.PutOp app id c op) :
    Routine op := by
  rcases hop with rfl | rfl | rfl
  · trivial
  · trivial
  · trivial

theorem routine_check {tag : String} (hop : NonceStore.IsCheck tag op) : Routine op := by
  cases hop
  trivial

theorem routine_auth (hop : AuthLookup op) : Routine op := by
  cases op <;> first | exact trivial | cases hop

theorem routine_quota (hop : IsQuota op) : Routine op := by
  cases op <;> first | exact trivial | cases hop

theorem routine_idempotency (hop : Idempotency.IsIdempotency op) : Routine op := by
  cases op <;> first | exact trivial | cases hop

theorem routine_policy (hop : CreateChallenge.PolicyOp op) : Routine op := by
  cases op <;> first | exact trivial | cases hop

theorem routine_submission {req : SubmitProofRequest} {c : CachedChallenge}
    (hop : Verify.SubmissionOp app req c op) : Routine op := by
  obtain ⟨hash, rfl | rfl⟩ | hop := hop
  · trivial
  · trivial
  · exact routine_put hop

theorem routine_authenticate {authorizer : Authorizer}
    (hop : ClientAuthenticator.AuthOp authorizer op) : Routine op := by
  rcases hop with rfl | hop | hop
  · trivial
  · cases op <;> first | exact trivial | cases hop
  · exact routine_check hop

theorem uses_charge {req : ConsumeCreditsRequest} (hop : Credits.IsCharge req op) :
    Uses True entry session op := by
  obtain ⟨binding, rfl⟩ := hop
  trivial

theorem uses_session {s : HostedSession} {prior : SessionState}
    (hop : SessionStore.IsUpdate s prior op) : Uses charge entry True op := by
  rw [hop.1]
  trivial

section Parts

variable {ε α : Type} {h : History Op Res} {P : Op → Prop}
  {Q : History Op Res → Except ε α → Prop} {p : Prog Op Res ε α}

/-- A part with a specification of its own. -/
theorem only_routine (hp : Guarded (fun _ op => P op) Q h p) (hP : ∀ op, P op → Routine op) :
    p.Only (Uses charge entry session) :=
  hp.only.imp fun op hop => (hP op hop).uses

theorem only_getChallenge {id : Uuid} :
    (ChallengeStore.get id).Only (Uses charge entry session) :=
  only_routine (ChallengeStore.guarded_get (h := [])) fun _ hop => routine_fetch hop

theorem only_putChallenge {id : Uuid} {c : CachedChallenge} :
    (ChallengeStore.put app id c).Only (Uses charge entry session) :=
  only_routine (ChallengeStore.guarded_put (h := [])) fun _ hop => routine_put hop

theorem only_authenticateApiKey {headers : Headers} {options : ApiKeyAuthOptions} :
    (authenticateApiKey app headers options).Only (Uses charge entry session) :=
  only_routine (guarded_authenticateApiKey (h := [])) fun _ hop => routine_auth hop

theorem only_enforceAccountQuota {clientId endpoint : String} :
    (enforceAccountQuota clientId endpoint).Only (Uses charge entry session) :=
  only_routine (guarded_enforceAccountQuota (h := [])) fun _ hop => routine_quota hop

theorem only_checkCached {key : Option String} {endpoint clientId : String} :
    (Idempotency.checkCached app key endpoint clientId).Only (Uses charge entry session) :=
  only_routine (Idempotency.guarded_checkCached (h := [])) fun _ hop => routine_idempotency hop

theorem only_storeCached {key : Option String} {endpoint clientId body : String} {status : Nat}
    {ttl : Option Nat} : (Idempotency.storeCached app key endpoint clientId status body ttl).Only
      (Uses charge entry session) :=
  only_routine (Idempotency.guarded_storeCached (h := [])) fun _ hop => routine_idempotency hop

end Parts

/-! ## The handlers -/

/-- **A submission** performs routine operations only. -/
theorem Verify.only_submitVerification (req : SubmitProofRequest) :
    (Verify.submitVerification app req).Only Routine := by
  refine Only.bind only_ofExcept fun key => ?_
  refine Only.bind only_ofExcept fun _ => ?_
  refine Only.bind ?_ fun cached => ?_
  · refine only_routine (Verify.guarded_loadUnbanned (h := []) req) ?_
    intro op hop
    obtain rfl | hop := hop
    · trivial
    · exact routine_fetch hop
  refine Only.bind only_authenticateApiKey fun auth => ?_
  split
  · trivial
  refine Only.bind only_ofExcept fun _ => ?_
  refine Only.bind only_checkCached fun response => ?_
  split
  · trivial
  refine Only.bind only_enforceAccountQuota fun _ => ?_
  refine Only.bind ?_ fun _ => ?_
  · exact only_routine (Verify.guarded_consumeNonce (h := []) _) fun _ hop => routine_check hop
  refine Only.bind ?_ fun policy => ?_
  · refine only_routine (Verify.guarded_loadPolicy (h := []) _) ?_
    intro op hop
    rw [hop]
    trivial
  refine only_await_bind.mpr ⟨trivial, fun now => ?_⟩
  refine Only.bind ?_ fun _ => ?_
  · unfold Verify.checkOpen
    split
    · exact Only.bind (Only.attempt only_putChallenge) fun _ => trivial
    · split <;> trivial
  refine Only.bind ?_ fun _ => ?_
  · exact only_routine (Verify.guarded_checkSubmission (h := []))
      fun _ hop => routine_submission hop
  refine Only.bind ?_ fun response => ?_
  · unfold Verify.acceptSubmission
    split
    · refine Only.bind ?_ fun _ => trivial
      exact only_routine (Verify.guarded_failChallengeAndPersist (h := []))
        fun _ hop => routine_put hop
    · refine Only.bind ?_ fun issuer => ?_
      · exact only_routine (Verify.guarded_lookupIssuer (h := []))
          fun _ hop => routine_submission hop
      · refine Only.bind (Only.attempt only_putChallenge) fun r => ?_
        cases r <;> trivial
  split
  · exact Only.bind only_storeCached fun _ => trivial
  · trivial

theorem uses_grantVerdict {id : Uuid} {origin : String} {c : CachedChallenge} {now : Nat} :
    (grantVerdict app id origin c now).Only (Uses True entry session) := by
  refine (guarded_grantVerdict.imp (h := []) ?_ fun _ _ _ => trivial).only (Q := fun _ _ => True)
  rintro h op ((rfl | hop) | ⟨-, hop⟩)
  · trivial
  · exact uses_charge hop
  · exact (routine_put hop).uses

/-- **A redemption** sends consume requests. -/
theorem Redeem.only_redeemChallenge (req : RedeemRequest) :
    (Redeem.redeemChallenge app req).Only (Uses True entry session) := by
  refine Only.bind only_ofExcept fun key => ?_
  refine Only.bind only_ofExcept fun _ => ?_
  refine Only.bind ?_ fun prefetched => ?_
  · exact only_routine (Redeem.guarded_prefetchChallenge (h := []) app req.sid)
      fun _ hop => routine_fetch hop
  refine Only.bind only_authenticateApiKey fun auth => ?_
  split
  · trivial
  refine Only.bind only_checkCached fun response => ?_
  split
  · trivial
  refine Only.bind ?_ fun loaded => ?_
  · unfold Redeem.loadChallenge
    split
    · trivial
    · refine Only.bind (Only.attempt only_getChallenge) fun r => ?_
      rcases r with e | _ | c <;> trivial
  refine Only.bind only_ofExcept fun _ => ?_
  refine only_await_bind.mpr ⟨trivial, fun now => ?_⟩
  refine Only.bind only_ofExcept fun _ => ?_
  refine Only.bind only_enforceAccountQuota fun _ => ?_
  refine Only.bind ?_ fun _ => ?_
  · exact only_routine (Redeem.guarded_consumeNonce (h := [])) fun _ hop => routine_check hop
  refine Only.bind uses_grantVerdict fun _ => ?_
  exact Only.bind only_storeCached fun _ => trivial

theorem HostedRedeem.Performs.uses (hop : HostedRedeem.Performs app op) :
    Uses True entry True op := by
  cases hop with
  | timestamp => trivial
  | getSession => trivial
  | update hop => exact uses_session hop
  | check hop => exact (routine_check hop).uses
  | fetch hop => exact (routine_fetch hop).uses
  | enforce hop =>
    rcases hop with rfl | hop
    · trivial
    · exact uses_charge hop
  | put hop => exact (routine_put hop).uses

/-- **A redemption through a session** uses the session too. -/
theorem HostedRedeem.only_hostedRedeem (req : HostedRedeemRequest) :
    (HostedRedeem.handleHostedRedeem app req).Only (Uses True entry True) :=
  (HostedRedeem.performs_handleHostedRedeem req).imp fun _ hop => hop.uses

/-- The entry of the short code of an id. -/
def CodeEntry (key value : String) : Prop :=
  ∃ id : Uuid, key = CreateChallenge.codeKey (generateShortCodeFromUuid id) ∧ value = id.toString

/-- **A creation** writes the entry of the code of its id. -/
theorem CreateChallenge.only_createChallenge (req : CreateChallengeRequest) :
    (CreateChallenge.createChallenge app req).Only (Uses charge CodeEntry session) := by
  have hpublish : ∀ key origin client terms,
      (CreateChallenge.publish app req key origin client terms).Only
        (Uses charge CodeEntry session) := by
    intro key origin client terms
    unfold CreateChallenge.publish
    refine only_await_bind.mpr ⟨trivial, fun id => ?_⟩
    refine only_await_bind.mpr ⟨trivial, fun nonce => ?_⟩
    refine only_await_bind.mpr ⟨trivial, fun submitSecret => ?_⟩
    refine only_await_bind.mpr ⟨trivial, fun now => ?_⟩
    refine Only.bind (Only.attempt only_putChallenge) fun r => ?_
    cases r with
    | error e => trivial
    | ok _ =>
      refine only_await_bind.mpr ⟨⟨id, rfl, rfl⟩, fun stored => ?_⟩
      split
      · exact Only.bind only_storeCached fun _ => trivial
      · trivial
  unfold CreateChallenge.createChallenge
  refine Only.bind only_ofExcept fun _ => ?_
  refine Only.bind only_ofExcept fun origin => ?_
  refine Only.bind only_ofExcept fun key => ?_
  refine Only.bind only_ofExcept fun _ => ?_
  refine Only.bind ?_ fun policy => ?_
  · exact only_routine (CreateChallenge.guarded_resolvePolicy (h := []))
      fun _ hop => routine_policy hop
  split
  · trivial
  refine Only.bind ?_ fun client => ?_
  · exact only_routine (ClientAuthenticator.guarded_authenticateTracked (h := []))
      fun _ hop => routine_authenticate hop
  refine Only.bind only_checkCached fun response => ?_
  split
  · trivial
  refine Only.bind only_enforceAccountQuota fun _ => ?_
  refine only_await_bind.mpr ⟨trivial, fun entry => ?_⟩
  refine Only.bind only_ofExcept fun _ => ?_
  refine only_await_bind.mpr ⟨trivial, fun now => ?_⟩
  exact Only.bind only_ofExcept fun terms => hpublish _ _ _ _

end ProviiVerifier
