/-
  The requests that write challenge records, and the runs they make together.

  `handle` is the service as its four routes. A run starts with pending records only; requests
  come at any time and interleave at every await, messages get lost or late and stores fail in
  any way. No id is drawn twice, and the clock stays within the range of a `Date`.
-/
import ProviiVerifier.CreateChallenge
import ProviiVerifier.Verify
import ProviiVerifier.HostedRedeem

namespace ProviiVerifier

open Interleaving Prog

/-! ## The routes -/

/-- A request to one of the routes that write challenge records. -/
inductive Request
  | create (req : CreateChallengeRequest)
  | verify (req : SubmitProofRequest)
  | redeem (req : RedeemRequest)
  | hostedRedeem (req : HostedRedeemRequest)

/-- What such a request is answered. -/
inductive Response
  | created (a : Answer ChallengeResponse)
  | submitted (a : Answer VerifyResponse)
  | redeemed (a : Answer RedeemResponse)
  | hostedRedeemed (a : HostedRedeemResponse)
  deriving DecidableEq

/-- The handler of a request. -/
def handle (app : AppState) : Request → Handler Response
  | .create req => do return .created (← CreateChallenge.createChallenge app req)
  | .verify req => do return .submitted (← Verify.submitVerification app req)
  | .redeem req => do return .redeemed (← Redeem.redeemChallenge app req)
  | .hostedRedeem req => do return .hostedRedeemed (← HostedRedeem.handleHostedRedeem app req)

namespace Request

/-- The records a request may write. -/
def Writes (app : AppState) : Request → History Op Res → Uuid → CachedChallenge → Prop
  | .create req => CreateChallenge.Writes app req
  | .verify req => Verify.Writes app req
  | .redeem req => Redeem.Writes app req
  | .hostedRedeem req => HostedRedeem.Writes app req

/-- What the answer to a request says. -/
def Outcome (app : AppState) : Request → History Op Res → Except ApiError Response → Prop
  | .create _ => fun h r => ∃ r', ReplayOutcome h r' ∧ r = r'.map .created
  | .verify _ => fun h r => ∃ r', ReplayOutcome h r' ∧ r = r'.map .submitted
  | .redeem req => fun h r => ∃ r', Redeem.Outcome app req h r' ∧ r = r'.map .redeemed
  | .hostedRedeem req => fun h r =>
    ∃ r', HostedRedeem.Outcome app req h r' ∧ r = r'.map .hostedRedeemed

end Request

/-- **What every request of the service does.** -/
theorem guarded_handle (app : AppState) (req : Request) :
    (handle app req).Guarded (fun h op => RouteOp app (req.Writes app h) op)
      (req.Outcome app) [] := by
  cases req with
  | create req =>
    exact ((CreateChallenge.guarded_createChallenge app req).imp (fun _ _ hop => hop)
      fun _ _ hr => hr.replayed).wrap _
  | verify req => exact (Verify.guarded_submitVerification app req).wrap _
  | redeem req => exact (Redeem.guarded_redeemChallenge app req).wrap _
  | hostedRedeem req => exact (HostedRedeem.guarded_handleHostedRedeem app req).wrap _

/-! ## Runs -/

/-- The record stored for a challenge. -/
def State.record (s : State) (id : Uuid) : Option CachedChallenge :=
  (s.challenges id).records id.toString

/-- Requests arrive and interleave in any order. -/
def anyOrder (app : AppState) (Req : Type) : Rules (service app) Req :=
  { arrive := fun _ _ _ => True
    call := fun w _ op c => freshIds w.state op c
    env := fun w e => dateRange w.state e }

instance (app : AppState) (Req : Type) : DecidableRules (anyOrder app Req) :=
  { arrive := fun _ _ _ => .isTrue trivial
    call := fun w _ op c => instDecidableFreshIds w.state op c
    env := fun w e => instDecidableDateRange w.state e }

/-- A state that runs start from: nothing is in flight, and the stored records are pending ones
under ids that were drawn. -/
structure Fresh (s : State) : Prop where
  date : s.clock ≤ maxDate
  inflight : s.inflight = []
  pending : ∀ id c, s.record id = some c → c.state = .pending
  drawn : ∀ id c, s.record id = some c → id ∈ s.drawn

theorem fresh_initial : Fresh State.initial := by
  refine ⟨Nat.zero_le _, rfl, ?_, ?_⟩
  · intro id c hc
    cases hc
  · intro id c hc
    cases hc

/-- An update request reads the lifecycle fields of its record. -/
@[simp] theorem updateRequest_eq (app : AppState) (id : Uuid) (c : CachedChallenge) :
    ChallengeStore.updateRequest app id c =
      .update id.toString ⟨app.challengeJsonLen c, some c.asUpdate⟩ := rfl

@[simp] theorem createRequest_eq (app : AppState) (id : Uuid) (c : CachedChallenge) :
    ChallengeStore.createRequest app id c =
      .create id.toString ⟨app.challengeJsonLen c, some c⟩ := rfl

/-! ## Samples -/

namespace Sample

/-- The policy of the shop, with its one client. -/
def policy : OriginPolicy :=
  { tenantId := "", minAgeYears := 18, maxAgeYears := none, proofDirection := none
    allowedVkIds := [1], allowedIssuers := [], maxTtlSec := 300, enabled := true
    clients := [{ clientId := "shop", apiKeyHash := "key", apiKeyPrefix := none
                  encryptedHmacSecret := "", dekEncrypted := "", encryptionVersion := 2
                  active := true }] }

/-- A hosted session for the sample record. -/
def session : HostedSession :=
  { sessionId := "00000000-0000-4000-8000-000000000001"
    publicKey := "pk_shop"
    origin := "https://shop.example"
    state := .pending
    verifierChallengeId := CachedChallenge.sample.id.toString
    clientIpHash := none
    userAgent := none
    bindingMode := .relaxed
    statusCheckCount := 0
    redeemAttemptCount := 0 }

/-- The shop's policy, session and the sample record, at the time of its creation. -/
def state : State :=
  { State.initial with
    clock := 1000
    drawn := [CachedChallenge.sample.id]
    challenges := fun id =>
      if id = CachedChallenge.sample.id then
        ChallengeDO.Storage.empty.putRecord id.toString CachedChallenge.sample
      else .empty
    policies := fun origin =>
      if origin = "https://shop.example" then .found policy else .notFound
    sessions := fun key => if key = session.sessionId then some session else none }

/-- A code challenge and a lifetime. -/
def codeChallenge : FixedBytes 32 := ⟨List.replicate 32 3, rfl⟩

def twoMinutes : ExpiresIn := ⟨120, by decide⟩

/-- The wallet's submission for the sample record. -/
def submission : SubmitProofRequest :=
  { headers := fun _ => none
    challengeId := CachedChallenge.sample.id
    submitSecret := ⟨List.replicate 32 5, rfl⟩
    verifyingKeyId := 1
    cutoffDays := 13000
    rpChallenge := sampleRpChallenge
    issuer := ⟨List.replicate 32 7, rfl⟩
    credNullifier := ⟨List.replicate 32 8, rfl⟩
    proof := ⟨List.replicate 192 9, rfl⟩ }

/-- The headers of the shop's server. -/
def shopHeaders : Headers := fun name =>
  if name = "Origin" then some "https://shop.example"
  else if name = "X-API-Key" then some "key"
  else none

/-- The redemption by the shop's server. -/
def redemption : RedeemRequest :=
  { headers := shopHeaders
    sid := CachedChallenge.sample.id
    codeVerifier := ⟨String.ofList (List.replicate 43 'a'), by decide, by decide⟩ }

/-- The redemption through the hosted session. -/
def hostedRedemption : HostedRedeemRequest :=
  { headers := fun name =>
      if name = "Origin" then some "https://shop.example"
      else if name = "X-Public-Key" then some "pk_shop"
      else none
    sessionId := session.sessionId
    codeVerifier := String.ofList (List.replicate 43 'a') }

/-- A request arrives and performs `n` operations that all go well. -/
def performs (i : Nat) (req : Request) (n : Nat) : List (Act (service .sample) Request) :=
  .arrive i req :: List.replicate n (.call i healthy)

theorem record_state {id : Uuid} {c : CachedChallenge} (h : state.record id = some c) :
    id = CachedChallenge.sample.id ∧ c = CachedChallenge.sample := by
  by_cases hid : id = CachedChallenge.sample.id
  · subst hid
    simp only [State.record, state, if_true, ChallengeDO.putRecord_records,
      Option.some.injEq] at h
    exact ⟨rfl, h.symm⟩
  · simp [State.record, state, hid, ChallengeDO.Storage.empty] at h

theorem fresh_state : Fresh state := by
  refine ⟨by decide, rfl, ?_, ?_⟩
  · intro id c hc
    rw [(record_state hc).2]
    rfl
  · intro id c hc
    rw [(record_state hc).1]
    exact List.mem_singleton_self _

end Sample

end ProviiVerifier
