/-
  Whether a created challenge can be verified.

  A creation looks its policy up by the request's origin, by the origin that is registered for a
  sandbox client, or not at all for a sandbox test key; the submission of a proof looks it up by the
  origin in the record. The stored policies do not change, and every lookup is answered by
  `OriginPolicyStore` after some calls, whose read may fail.

  Proved: what the creation of a record can be verified by (`created_verifiable_iff`).
-/
import ProviiVerifier.HostedChallenge
import ProviiVerifier.OriginPolicyStore
import ProviiVerifier.Interleaving.Play
import ProviiVerifier.Verify
import ProviiVerifier.Requests

namespace ProviiVerifier

open Interleaving Prog

namespace VerifiableCreation

open OriginPolicyStore

/-! ## Creations and the stores they read -/

/-- The stored policies, and the reads of `KV_CONFIG`. -/
structure Stores where
  policies : Kv
  config : String → KvRead

/-- The policy lookups of an expert route are answered by the stores. -/
structure Serves (s : Stores) (answer : History Op Res → (op : Op) → Res op) : Prop where
  getPolicyDetail : ∀ h origin, ∃ calls now fault, answer h (.getPolicyDetail origin) =
    (getPolicyDetail s.policies (cacheAfter s.policies calls) now fault origin).1
  configGet : ∀ h key, answer h (.configGet key) = s.config key

/-- The policy lookups of the hosted route are answered by the store. -/
def ServesHosted (policies : Kv) (answer : History HostedOp HostedRes → (op : HostedOp) →
    HostedRes op) : Prop :=
  ∀ h origin, ∃ calls now fault, answer h (.getPolicy origin) =
    (getPolicy policies (cacheAfter policies calls) now fault origin).1

/-- A creation succeeds, and this is its record. -/
structure Created (app : AppState) (answer : History Op Res → (op : Op) → Res op)
    (req : CreateChallengeRequest) (c : CachedChallenge) : Prop where
  success : ∃ response,
    ((CreateChallenge.createChallenge app req).play answer []).1 = .ok (.fresh response)
  record : ∃ x ∈ ((CreateChallenge.createChallenge app req).play answer []).2,
    CreateChallenge.createdBy x.1 = some c

/-- A hosted creation succeeds, and this is its record. -/
structure CreatedHosted (cfg : HostedConfig) (answer : History HostedOp HostedRes →
    (op : HostedOp) → HostedRes op) (req : HostedChallengeRequest) (c : CachedChallenge) :
    Prop where
  success : ∃ response,
    ((HostedChallenge.handleHostedChallenge cfg req).play answer []).1 = .ok response
  record : ∃ x ∈ ((HostedChallenge.handleHostedChallenge cfg req).play answer []).2,
    HostedChallenge.createdBy x.1 = some c

/-! ## Verification -/

/-- `get_policy_detail` finds a policy for the origin in the record, after any calls and at any
time, and the policy allows the key in the record. -/
def Verifiable (policies : Kv) (c : CachedChallenge) : Prop :=
  ∃ policy, (∀ calls now,
      (getPolicyDetail policies (cacheAfter policies calls) now none c.origin).1 =
        .ok (.found policy)) ∧
    c.verifyingKeyId ∈ policy.allowedVkIds

/-- The registered origin that the sandbox bypass judges a request by. -/
def bypassOrigin (app : AppState) (s : Stores) (req : CreateChallengeRequest) : Option String :=
  if CreateChallenge.shouldSkipOriginCheckForRpSandbox app.environment req.authorizer.keyId then
    CreateChallenge.lookedUp (s.config (clientLookupKey req.authorizer.keyId))
  else none

/-- The stored policy of the request's own origin is enabled and allows the key that is selected
under the policy of another origin. -/
def OwnPolicyAllows (s : Stores) (req : CreateChallengeRequest) (other : String) : Prop :=
  ∃ origin own policy vk, req.headers "Origin" = some origin ∧
    enabledPolicy s.policies origin = some own ∧ enabledPolicy s.policies other = some policy ∧
    CreateChallenge.selectVerifyingKey policy req.verifyingKeyId = .ok vk ∧
    vk.val ∈ own.allowedVkIds

/-- The origin of a hosted request by a sandbox test key has an enabled policy. -/
def OwnPolicyStored (cfg : HostedConfig) (policies : Kv) (req : HostedChallengeRequest) : Prop :=
  ∀ publicKey origin, HostedChallenge.publicKeyOf req = .ok publicKey →
    HostedChallenge.originOf req = .ok origin →
    HostedChallenge.isSandboxTestKey cfg publicKey = true →
    (enabledPolicy policies origin).isSome = true

section Spec

variable {s : Stores} {app : AppState} {req : CreateChallengeRequest} {c : CachedChallenge}
  {answer : History Op Res → (op : Op) → Res op} {h : History Op Res} {origin : String}
  {policy : OriginPolicy} {policies : Kv}

/-- A record can be verified exactly under the enabled policy of its origin. -/
theorem verifiable_iff : Verifiable policies c ↔
    ∃ policy, enabledPolicy policies c.origin = some policy ∧
      c.verifyingKeyId ∈ policy.allowedVkIds := by
  constructor
  · rintro ⟨policy, hfound, hvk⟩
    have hdetail := getPolicyDetail_ok (hfound [] 0)
    exact ⟨policy, storedDetail_found.mp hdetail.symm, hvk⟩
  · rintro ⟨policy, hstored, hvk⟩
    exact ⟨policy, fun _ _ => getPolicyDetail_found hstored, hvk⟩

/-- The submission of a proof loads a policy that allows the key, unless its read fails. -/
theorem Verifiable.loadPolicy (hv : Verifiable policies c)
    (hread : ∀ h, ∃ calls now, answer h (.getPolicyDetail c.origin) =
      (getPolicyDetail policies (cacheAfter policies calls) now none c.origin).1) :
    ∃ policy, ((Verify.loadPolicy c.origin).play answer h).1 = .ok policy ∧
      policy.allowedVkIds.contains c.verifyingKeyId = true := by
  obtain ⟨policy, hfound, hvk⟩ := hv
  obtain ⟨calls, now, hanswer⟩ := hread h
  have hdetail : answer h (.getPolicyDetail c.origin) = .ok (.found policy) :=
    hanswer.trans (hfound calls now)
  have hplay : (Verify.loadPolicy c.origin).play answer h =
      (.ok policy, ⟨.getPolicyDetail c.origin, answer h (.getPolicyDetail c.origin)⟩ :: h) := by
    unfold Verify.loadPolicy
    show Prog.play answer (ofExcept (answer h (.getPolicyDetail c.origin)) >>= _) _ = _
    rw [hdetail]
    rfl
  refine ⟨policy, ?_, List.contains_iff_mem.mpr hvk⟩
  rw [hplay]

/-- A policy that a lookup found is the enabled policy that is stored. -/
theorem Serves.found (hs : Serves s answer) (ha : Answered answer h)
    (hfound : ⟨.getPolicyDetail origin, .ok (.found policy)⟩ ∈ h) :
    enabledPolicy s.policies origin = some policy := by
  obtain ⟨before, hanswer⟩ := ha _ hfound
  obtain ⟨calls, now, fault, hstore⟩ := hs.getPolicyDetail before origin
  have hdetail := getPolicyDetail_ok (hstore.symm.trans hanswer.symm)
  exact storedDetail_found.mp hdetail.symm

theorem Serves.read (hs : Serves s answer) (ha : Answered answer h) {key : String} {read : KvRead}
    (hread : ⟨.configGet key, read⟩ ∈ h) : s.config key = read := by
  obtain ⟨before, hanswer⟩ := ha _ hread
  exact (hs.configGet before key).symm.trans hanswer.symm

/-! ## The key of a policy -/

theorem first_mem {vk : VkId} (h : policy.allowedVkIds.head?.bind VkId.new = some vk) :
    vk.val ∈ policy.allowedVkIds := by
  obtain ⟨first, hfirst, hnew⟩ := Option.bind_eq_some_iff.mp h
  unfold VkId.new at hnew
  split at hnew
  · injection hnew with hnew
    rw [← hnew]
    exact List.mem_of_mem_head? hfirst
  · cases hnew

theorem selectVerifyingKey_mem {requested : Option VkId} {vk : VkId}
    (h : CreateChallenge.selectVerifyingKey policy requested = .ok vk) :
    vk.val ∈ policy.allowedVkIds := by
  unfold CreateChallenge.selectVerifyingKey at h
  split at h
  · split at h
    · next hcontains =>
      injection h with h
      rw [← h]
      exact List.contains_iff_mem.mp hcontains
    · cases h
  · split at h
    · next hfirst =>
      injection h with h
      rw [← h]
      exact first_mem hfirst
    · cases h

theorem firstVerifyingKey_mem {vk : VkId}
    (h : HostedChallenge.firstVerifyingKey policy = .ok vk) : vk.val ∈ policy.allowedVkIds := by
  unfold HostedChallenge.firstVerifyingKey at h
  split at h
  · next hfirst =>
    injection h with h
    rw [← h]
    exact first_mem hfirst
  · cases h

/-! ## The expert route -/

/-- The policy of a creation is stored where the bypass says, or under the request's origin. -/
theorem Serves.resolved (hs : Serves s answer) (ha : Answered answer h)
    (hr : CreateChallenge.Resolved app req origin h policy) :
    (bypassOrigin app s req = none ∧ enabledPolicy s.policies origin = some policy) ∨
      ∃ other stored, bypassOrigin app s req = some other ∧
        enabledPolicy s.policies other = some stored ∧
        policy = CreateChallenge.applySandboxBypassOverrides stored := by
  unfold bypassOrigin
  cases hr with
  | own hnone hfound =>
    refine .inl ⟨?_, hs.found ha hfound⟩
    split
    · next hskip =>
      obtain ⟨read, hread, hlookup⟩ := hnone hskip
      rw [hs.read ha hread]
      exact hlookup
    · rfl
  | @registered stored read other hskip hread hlookup hfound =>
    refine .inr ⟨other, stored, ?_, hs.found ha hfound, rfl⟩
    rw [if_pos hskip, hs.read ha hread]
    exact hlookup

theorem Created.records (hc : Created app answer req c) :
    ∃ before, Answered answer before ∧ CreateChallenge.Records app req before c := by
  obtain ⟨x, hx, hcreated⟩ := hc.record
  obtain hx | ⟨before, ha, hcreates⟩ :=
    ((CreateChallenge.guarded_createChallenge_records app req).play answered_nil).2 x hx
  · cases hx
  · exact ⟨before, ha, hcreates c hcreated⟩

/-- What verifies a record of the expert route. -/
theorem Created.verifiable_iff (hs : Serves s answer) (hc : Created app answer req c) :
    Verifiable s.policies c ↔
      ∀ other, bypassOrigin app s req = some other → OwnPolicyAllows s req other := by
  obtain ⟨before, ha, hrecords⟩ := hc.records
  obtain ⟨policy, vk, hresolved, hselect, hvk⟩ := hrecords.policy
  rw [VerifiableCreation.verifiable_iff, hvk]
  obtain ⟨hnone, hstored⟩ | ⟨other, stored, hother, hstored, rfl⟩ := hs.resolved ha hresolved
  · refine iff_of_true ⟨policy, hstored, selectVerifyingKey_mem hselect⟩ fun other hother => ?_
    rw [hnone] at hother
    cases hother
  · -- the overrides leave the keys of the policy alone
    have hselect : CreateChallenge.selectVerifyingKey stored req.verifyingKeyId = .ok vk := hselect
    constructor
    · rintro ⟨own, hown, hmem⟩ other' hother'
      rw [hother] at hother'
      injection hother' with hother'
      rw [← hother']
      exact ⟨c.origin, own, stored, vk, hrecords.origin, hown, hstored, hselect, hmem⟩
    · intro hallows
      obtain ⟨origin, own, stored', vk', horigin, hown, hstored', hselect', hmem⟩ :=
        hallows other hother
      have horigins := hrecords.origin.symm.trans horigin
      injection horigins with horigins
      have hpolicies := hstored.symm.trans hstored'
      injection hpolicies with hpolicies
      rw [← hpolicies] at hselect'
      have hkeys := hselect.symm.trans hselect'
      injection hkeys with hkeys
      rw [horigins, hkeys]
      exact ⟨own, hown, hmem⟩

/-! ## The hosted route -/

section Hosted

variable {cfg : HostedConfig} {hostedReq : HostedChallengeRequest} {publicKey : String}
  {hostedAnswer : History HostedOp HostedRes → (op : HostedOp) → HostedRes op}
  {before : History HostedOp HostedRes}

theorem ServesHosted.read {found : Option OriginPolicy} (hs : ServesHosted policies hostedAnswer)
    (ha : Answered hostedAnswer before) (hread : ⟨.getPolicy origin, .ok found⟩ ∈ before) :
    enabledPolicy policies origin = found := by
  obtain ⟨earlier, hanswer⟩ := ha _ hread
  obtain ⟨calls, now, fault, hstore⟩ := hs earlier origin
  exact (getPolicy_ok (hstore.symm.trans hanswer.symm)).symm

theorem CreatedHosted.records (hc : CreatedHosted cfg hostedAnswer hostedReq c) :
    ∃ before, Answered hostedAnswer before ∧ HostedChallenge.Records cfg hostedReq before c := by
  obtain ⟨x, hx, hcreated⟩ := hc.record
  obtain hx | ⟨before, ha, hcreates⟩ :=
    ((HostedChallenge.guarded_handleHostedChallenge cfg hostedReq).play answered_nil).2 x hx
  · cases hx
  · exact ⟨before, ha, hcreates c hcreated⟩

/-- What verifies a record of the hosted route. -/
theorem CreatedHosted.verifiable_iff (hs : ServesHosted policies hostedAnswer)
    (hc : CreatedHosted cfg hostedAnswer hostedReq c) :
    Verifiable policies c ↔ OwnPolicyStored cfg policies hostedReq := by
  obtain ⟨before, ha, hrecords⟩ := hc.records
  obtain ⟨publicKey, policy, vk, hkey, hresolved, hselect, hvk⟩ := hrecords.policy
  rw [VerifiableCreation.verifiable_iff, hvk]
  cases hresolved with
  | stored hread =>
    have hstored := hs.read ha hread
    refine iff_of_true ⟨policy, hstored, firstVerifyingKey_mem hselect⟩ ?_
    intro publicKey' origin _ horigin _
    have horigins := hrecords.origin.symm.trans horigin
    injection horigins with horigins
    rw [← horigins, hstored]
    rfl
  | sandbox hsandbox hread =>
    have hnone := hs.read ha hread
    refine iff_of_false ?_ fun hstored => ?_
    · rintro ⟨policy, hpolicy, -⟩
      rw [hnone] at hpolicy
      cases hpolicy
    · have hsome := hstored publicKey c.origin hkey hrecords.origin hsandbox
      rw [hnone] at hsome
      cases hsome

end Hosted

end Spec

/-- **Every created challenge can be verified** exactly when no sandbox bypass judged its request
by the policy of another origin, or the request's own origin has an enabled policy that allows
the selected key, and exactly when no sandbox test key was given the default policy. -/
theorem created_verifiable_iff (s : Stores) :
    (∀ app answer req c, Serves s answer → Created app answer req c →
      (Verifiable s.policies c ↔
        ∀ other, bypassOrigin app s req = some other → OwnPolicyAllows s req other)) ∧
    ∀ cfg answer req c, ServesHosted s.policies answer → CreatedHosted cfg answer req c →
      (Verifiable s.policies c ↔ OwnPolicyStored cfg s.policies req) :=
  ⟨fun _ _ _ _ hs hc => hc.verifiable_iff hs, fun _ _ _ _ hs hc => hc.verifiable_iff hs⟩

/-! ## Samples -/

namespace Sample

/-- A client of the sandbox. -/
def client : ClientAuthConfig :=
  { clientId := "rp_sandbox_shop", apiKeyHash := "key", apiKeyPrefix := none
    encryptedHmacSecret := "", dekEncrypted := "", encryptionVersion := 2, active := true }

/-- The shop's policy is stored; the sandbox client is registered with it. -/
def stores : Stores :=
  { policies := fun key =>
      if key = "origins/https://shop.example" then
        some (.ok { ProviiVerifier.Sample.policy with clients := [client] })
      else none
    config := fun key =>
      if key = "client_lookup/rp_sandbox_shop" then .value "https://shop.example" else .missing }

/-- A sandbox. -/
def app : AppState := { AppState.sample with environment := "sandbox" }

/-- A creation by the sandbox client from an origin. -/
def creation (origin : String) : CreateChallengeRequest :=
  { headers := fun name =>
      if name = "Origin" then some origin else if name = "X-API-Key" then some "key" else none
    codeChallenge := ProviiVerifier.Sample.codeChallenge
    verifyingKeyId := none
    expiresIn := ProviiVerifier.Sample.twoMinutes
    authorizer :=
      { keyId := "rp_sandbox_shop", timestamp := 1000
        nonce := String.ofList (List.replicate 64 'a')
        hmac := String.ofList (List.replicate 64 'b') } }

/-- The stores answer, and all goes well. -/
def answer (_ : History Op Res) (op : Op) : Res op :=
  match op with
  | .getPolicyDetail origin =>
    (getPolicyDetail stores.policies (cacheAfter stores.policies []) 1000 none origin).1
  | .configGet key => stores.config key
  | .newUuid => CachedChallenge.sample.id + 1
  | op => (perform .sample ProviiVerifier.Sample.state op (healthy op)).1

/-- A hosted sandbox. -/
def cfg : HostedConfig :=
  { app := app
    publicKeysBinding := true
    rateLimitsBinding := true
    parseUrl := OriginPatterns.sampleParser
    graphemes := fun s => s.toList.length
    validationText := fun _ => ""
    decodeBase64Url := fun _ => some (List.replicate 32 3)
    sessionTtl := 300
    defaultQuota := 500
    hostedBaseUrl := "https://hosted.example" }

/-- A hosted creation with a test key from an origin. -/
def hostedCreation (origin : String) : HostedChallengeRequest :=
  { headers := fun _ => none
    publicKey := "pk_test_" ++ String.ofList (List.replicate 64 'a')
    origin := origin
    codeChallenge := String.ofList (List.replicate 43 'c')
    codeChallengeMethod := "S256"
    environment := "sandbox" }

/-- The stores of the hosted route answer, and all goes well. -/
def hostedAnswer (_ : History HostedOp HostedRes) (op : HostedOp) : HostedRes op :=
  match op with
  | .service op => answer [] op
  | .getKey _ => some ⟨["https://shop.example"], true⟩
  | .checkQuota _ _ limit => ⟨true, 1, limit, false⟩
  | .getPolicy origin =>
    (getPolicy stores.policies (cacheAfter stores.policies []) 1000 none origin).1
  | .storeNonce _ _ => some true
  | .storeSession _ _ => true
  | .storeMapping _ _ _ => true

theorem serves : Serves stores answer :=
  ⟨fun _ _ => ⟨[], 1000, none, rfl⟩, fun _ _ => rfl⟩

theorem servesHosted : ServesHosted stores.policies hostedAnswer :=
  fun _ _ => ⟨[], 1000, none, rfl⟩

/-- A response was made now. -/
def isFresh {α : Type} : Except ApiError (Answer α) → Bool
  | .ok (.fresh _) => true
  | _ => false

/-- A run that creates a challenge: a record goes into an object, and the response is made now. -/
def creates : Except ApiError (Answer ChallengeResponse) × History Op Res → Bool
  | (result, history) =>
    isFresh result && (history.findSome? fun x => CreateChallenge.createdBy x.1).isSome

theorem created_of_run {app : AppState} {req : CreateChallengeRequest}
    (hrun : creates ((CreateChallenge.createChallenge app req).play answer []) = true) :
    ∃ c, Created app answer req c := by
  obtain ⟨hfresh, hrecord⟩ := Bool.and_eq_true_iff.mp hrun
  obtain ⟨c, hc⟩ := Option.isSome_iff_exists.mp hrecord
  refine ⟨c, ?_, List.exists_of_findSome?_eq_some hc⟩
  unfold isFresh at hfresh
  split at hfresh
  · next response hresponse => exact ⟨response, hresponse⟩
  · cases hfresh

/-- The same of the hosted route. -/
def createsHosted {α : Type} : Except ApiError α × History HostedOp HostedRes → Bool
  | (result, history) =>
    result.isOk && (history.findSome? fun x => HostedChallenge.createdBy x.1).isSome

theorem createdHosted_of_run {req : HostedChallengeRequest}
    (hrun : createsHosted ((HostedChallenge.handleHostedChallenge cfg req).play hostedAnswer []) =
      true) : ∃ c, CreatedHosted cfg hostedAnswer req c := by
  obtain ⟨hok, hrecord⟩ := Bool.and_eq_true_iff.mp hrun
  obtain ⟨c, hc⟩ := Option.isSome_iff_exists.mp hrecord
  refine ⟨c, ?_, List.exists_of_findSome?_eq_some hc⟩
  cases hresult : ((HostedChallenge.handleHostedChallenge cfg req).play hostedAnswer []).1 with
  | ok response => exact ⟨response, rfl⟩
  | error e =>
    rw [hresult] at hok
    cases hok

end Sample

/-- The sandbox client and the test key create challenges from the shop's own origin. -/
theorem created_verifiable_shop :
    (∃ c, Created Sample.app Sample.answer (Sample.creation "https://shop.example") c ∧
      Verifiable Sample.stores.policies c) ∧
    ∃ c, CreatedHosted Sample.cfg Sample.hostedAnswer
        (Sample.hostedCreation "https://shop.example") c ∧
      Verifiable Sample.stores.policies c := by
  have hstored : enabledPolicy Sample.stores.policies "https://shop.example" =
      some { ProviiVerifier.Sample.policy with clients := [Sample.client] } := by
    decide +kernel
  constructor
  · obtain ⟨c, hc⟩ :
        ∃ c, Created Sample.app Sample.answer (Sample.creation "https://shop.example") c :=
      Sample.created_of_run (by decide +kernel)
    refine ⟨c, hc, ((created_verifiable_iff Sample.stores).1 _ _ _ c Sample.serves hc).mpr ?_⟩
    intro other hother
    have hshop : bypassOrigin Sample.app Sample.stores (Sample.creation "https://shop.example") =
        some "https://shop.example" := by
      decide +kernel
    rw [hshop] at hother
    injection hother with hother
    rw [← hother]
    exact ⟨"https://shop.example", _, _, ⟨1, by decide⟩, rfl, hstored, hstored, rfl, by decide⟩
  · obtain ⟨c, hc⟩ : ∃ c, CreatedHosted Sample.cfg Sample.hostedAnswer
        (Sample.hostedCreation "https://shop.example") c :=
      Sample.createdHosted_of_run (by decide +kernel)
    refine ⟨c, hc,
      ((created_verifiable_iff Sample.stores).2 _ _ _ c Sample.servesHosted hc).mpr ?_⟩
    intro publicKey origin _ horigin _
    have hshop : HostedChallenge.originOf (Sample.hostedCreation "https://shop.example") =
        .ok "https://shop.example" := by
      decide +kernel
    rw [hshop] at horigin
    injection horigin with horigin
    rw [← horigin, hstored]
    rfl

/-- From an origin without a policy both are created, and neither can be verified. -/
theorem created_unverifiable :
    (Serves Sample.stores Sample.answer ∧
      ∃ c, Created Sample.app Sample.answer (Sample.creation "https://localhost") c ∧
        ¬ Verifiable Sample.stores.policies c) ∧
    ServesHosted Sample.stores.policies Sample.hostedAnswer ∧
      ∃ c, CreatedHosted Sample.cfg Sample.hostedAnswer
          (Sample.hostedCreation "https://localhost") c ∧
        ¬ Verifiable Sample.stores.policies c := by
  have hnone : enabledPolicy Sample.stores.policies "https://localhost" = none := by
    decide +kernel
  refine ⟨⟨Sample.serves, ?_⟩, Sample.servesHosted, ?_⟩
  · obtain ⟨c, hc⟩ :
        ∃ c, Created Sample.app Sample.answer (Sample.creation "https://localhost") c :=
      Sample.created_of_run (by decide +kernel)
    refine ⟨c, hc, fun hverifiable => ?_⟩
    obtain ⟨before, -, hrecords⟩ := hc.records
    obtain ⟨policy, hpolicy, -⟩ := verifiable_iff.mp hverifiable
    have horigin : some "https://localhost" = some c.origin := hrecords.origin
    injection horigin with horigin
    rw [← horigin, hnone] at hpolicy
    cases hpolicy
  · obtain ⟨c, hc⟩ : ∃ c, CreatedHosted Sample.cfg Sample.hostedAnswer
        (Sample.hostedCreation "https://localhost") c :=
      Sample.createdHosted_of_run (by decide +kernel)
    refine ⟨c, hc, fun hverifiable => ?_⟩
    obtain ⟨before, -, hrecords⟩ := hc.records
    obtain ⟨policy, hpolicy, -⟩ := verifiable_iff.mp hverifiable
    have hlocal : HostedChallenge.originOf (Sample.hostedCreation "https://localhost") =
        .ok "https://localhost" := by
      decide +kernel
    have horigin := hlocal.symm.trans hrecords.origin
    injection horigin with horigin
    rw [← horigin, hnone] at hpolicy
    cases hpolicy

end VerifiableCreation

end ProviiVerifier
