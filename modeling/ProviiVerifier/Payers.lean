/-
  Who pays for a challenge, and whether the request to the credit service that charges them is well
  formed.

  A creation keeps the organisation of the origin's `ORIGIN_INDEX` entry or, without one, the tenant
  of the policy; a redemption charges it or, when the record keeps none, the origin. The client of
  the credit service takes an id only when it can stand in a URL path, and an origin cannot.

  Proved: a redemption of a challenge on a metered origin goes through exactly when the payer and
  the issuer's key id can stand in a path, for every record of both creations and every issuer
  (`redeem_billable_iff`); an origin with a scheme cannot pay (`not_pathSafe_slash`).
-/
import ProviiVerifier.HostedChallenge
import ProviiVerifier.RedeemRetry

namespace ProviiVerifier

open Interleaving Prog

namespace Payers

variable {app : AppState}

/-! ## What can stand in a path -/

/-- A text that can stand in a URL path. -/
structure PathSafe (app : AppState) (s : String) : Prop where
  noParent : ¬ ['.', '.'] <:+: s.toList
  plain : ∀ c ∈ s.toList, c ∉ ['/', '\\', '?', '#', '%'] ∧ app.isControl c = false

theorem containsSub_iff {s : String} {pat : List Char} :
    containsSub s pat = true ↔ pat <:+: s.toList := by
  unfold containsSub
  rw [List.any_eq_true, List.infix_iff_prefix_suffix]
  constructor
  · intro ⟨t, ht, hpat⟩
    exact ⟨t, List.isPrefixOf_iff_prefix.mp hpat, (List.mem_tails t s.toList).mp ht⟩
  · intro ⟨t, hpat, ht⟩
    exact ⟨t, (List.mem_tails t s.toList).mpr ht, List.isPrefixOf_iff_prefix.mpr hpat⟩

theorem validatePathComponent_iff {s : String} :
    Credits.validatePathComponent app s = true ↔ PathSafe app s := by
  unfold Credits.validatePathComponent
  rw [Bool.and_eq_true, Bool.not_eq_true', Bool.eq_false_iff, Ne, containsSub_iff, List.all_eq_true]
  constructor
  · rintro ⟨hparent, hall⟩
    refine ⟨hparent, fun c hc => ?_⟩
    have hplain := hall c hc
    simp only [Bool.and_eq_true, decide_eq_true_eq, Bool.not_eq_true'] at hplain
    simp only [List.mem_cons, List.not_mem_nil, or_false, not_or]
    tauto
  · rintro ⟨hparent, hall⟩
    refine ⟨hparent, fun c hc => ?_⟩
    obtain ⟨hchar, hcontrol⟩ := hall c hc
    simp only [List.mem_cons, List.not_mem_nil, or_false, not_or] at hchar
    simp only [Bool.and_eq_true, decide_eq_true_eq, Bool.not_eq_true']
    tauto

/-- No text with a slash, such as an origin with a scheme, can stand in a path. -/
theorem not_pathSafe_slash {s : String} (h : '/' ∈ s.toList) : ¬ PathSafe app s := by
  intro hsafe
  exact (hsafe.plain '/' h).1 List.mem_cons_self

/-- `char::is_control` is false on the printable ASCII characters. -/
def PlainPrintable (app : AppState) : Prop :=
  ∀ c : Char, 32 ≤ c.toNat → c.toNat < 127 → app.isControl c = false

theorem hexDigit_printable {c : Char} (hc : c ∈ hexDigits ∨ c = '-') :
    32 ≤ c.toNat ∧ c.toNat < 127 ∧ c ∉ ['/', '\\', '?', '#', '%', '.'] := by
  obtain hc | rfl := hc
  · revert c
    simp [hexDigits]
  · decide

/-- The id of a challenge can stand in a path. -/
theorem pathSafe_uuid (hcontrol : PlainPrintable app) (id : Uuid) : PathSafe app id.toString := by
  have hchar : ∀ c ∈ id.toString.toList,
      32 ≤ c.toNat ∧ c.toNat < 127 ∧ c ∉ ['/', '\\', '?', '#', '%', '.'] :=
    fun c hc => hexDigit_printable (Uuid.mem_toString hc)
  refine ⟨fun hparent => ?_, fun c hc => ?_⟩
  · have hdot := hparent.subset (List.mem_cons_self (a := '.'))
    exact (hchar '.' hdot).2.2 (by simp)
  · obtain ⟨hlow, hhigh, hplain⟩ := hchar c hc
    simp only [List.mem_cons, List.not_mem_nil, or_false, not_or] at hplain ⊢
    obtain ⟨hslash, hback, hquestion, hhash, hpercent, -⟩ := hplain
    exact ⟨⟨hslash, hback, hquestion, hhash, hpercent⟩, hcontrol c hlow hhigh⟩

/-! ## Who pays -/

/-- The organisation that the `ORIGIN_INDEX` entry names. -/
def organisation (app : AppState) (entry : KvRead) : Option String :=
  ((CreateChallenge.originIndexJson entry).bind app.oiEntry).join

/-- The tenant of a policy, when it has one. -/
def tenant (policy : OriginPolicy) : Option String :=
  if policy.tenantId.toList = [] then none else some policy.tenantId

/-- Who pays: the organisation or, without one, the tenant. -/
def payer (app : AppState) (entry : KvRead) (policy : OriginPolicy) : Option String :=
  (organisation app entry).orElse fun _ => tenant policy

/-- The ids of a charge can stand in a path: that of the payer, or the origin when nobody is named,
and the issuer's key id. -/
structure Payable (app : AppState) (entry : KvRead) (policy : OriginPolicy) (origin kid : String) :
    Prop where
  named : ∀ id, payer app entry policy = some id → PathSafe app id
  unnamed : payer app entry policy = none → PathSafe app origin
  issuer : PathSafe app kid

/-- With nobody named, a challenge for an origin with a scheme cannot be paid. -/
theorem not_payable_unnamed {entry : KvRead} {policy : OriginPolicy} {origin kid : String}
    (hnone : payer app entry policy = none) (hslash : '/' ∈ origin.toList) :
    ¬ Payable app entry policy origin kid := by
  intro h
  exact not_pathSafe_slash hslash (h.unnamed hnone)

end Payers

namespace CreateChallenge

variable {app : AppState} {req : CreateChallengeRequest} {h : History Op Res} {c : CachedChallenge}

theorem terms_tenantId {policy : OriginPolicy} {entry : KvRead} {readAt : Nat} {t : Terms}
    (hok : terms app req policy (originIndexJson entry) readAt = .ok t) :
    t.tenantId = Payers.payer app entry policy := by
  unfold terms at hok
  obtain ⟨ageYears, -, hok⟩ := except_bind_ok hok
  obtain ⟨vk, -, hok⟩ := except_bind_ok hok
  obtain ⟨days, -, hok⟩ := except_bind_ok hok
  injection hok with hok
  rw [← hok]
  rfl

/-- Who pays for a created challenge. -/
theorem Made.tenantId (hm : Made app req h c) :
    ∃ policy entry, Resolved app req c.origin h policy ∧ ⟨.originIndexGet c.origin, entry⟩ ∈ h ∧
      c.tenantId = Payers.payer app entry policy ∧ c.state = .pending := by
  obtain ⟨policy, entry, readAt, t, hresolved, hentry, ht, client, id, nonce, submitSecret, now,
    hc⟩ := hm.terms
  refine ⟨policy, entry, hresolved, hentry, ?_, ?_⟩
  · rw [hc]
    exact terms_tenantId ht
  · rw [hc]
    rfl

end CreateChallenge

namespace HostedChallenge

variable {cfg : HostedConfig} {req : HostedChallengeRequest} {h : History HostedOp HostedRes}
  {c : CachedChallenge}

theorem terms_tenantId {policy : OriginPolicy} {readAt : Nat} {t : Terms}
    (hok : terms policy readAt = .ok t) : t.tenantId = Payers.tenant policy := by
  unfold terms at hok
  obtain ⟨ageYears, -, hok⟩ := except_bind_ok hok
  obtain ⟨days, -, hok⟩ := except_bind_ok hok
  obtain ⟨vk, -, hok⟩ := except_bind_ok hok
  injection hok with hok
  rw [← hok]
  rfl

/-- Who pays for a challenge of the hosted route. -/
theorem Made.tenantId (hm : Made cfg req h c) :
    ∃ publicKey policy entry, publicKeyOf req = .ok publicKey ∧
      Resolved cfg publicKey c.origin h policy ∧
      ⟨.service (.originIndexGet c.origin), entry⟩ ∈ h ∧
      c.tenantId = Payers.payer cfg.app entry policy ∧ c.state = .pending := by
  obtain ⟨publicKey, policy, entry, readAt, t, hkey, hresolved, hentry, ht, id, nonce,
    submitSecret, bytes, now, hc⟩ := hm.terms
  refine ⟨publicKey, policy, entry, hkey, hresolved, hentry, ?_, ?_⟩
  · rw [hc]
    show ((Payers.organisation cfg.app entry).orElse fun _ => t.tenantId) = _
    rw [terms_tenantId ht]
    rfl
  · rw [hc]
    rfl

end HostedChallenge

/-! ## The charge of a redemption -/

namespace Payers

section Charging

/-- The record of a challenge once its proof was accepted. -/
def proven (c : CachedChallenge) (issuer : IssuerMeta) (result : SnarkResult) (now : Nat) :
    CachedChallenge :=
  ChallengeDO.mergeUpdate c (c.acceptProof issuer result now).asUpdate

variable {app : AppState} {c r : CachedChallenge} {issuer : IssuerMeta} {result : SnarkResult}
  {now : Nat} {entry : KvRead} {policy : OriginPolicy} {pick : (op : Op) → Choice op} {s s' : State}

theorem proven_tenantId : (proven c issuer result now).zeroizeSecret.tenantId = c.tenantId := by
  unfold proven ChallengeDO.mergeUpdate
  dsimp only
  split
  · rfl
  · rfl

theorem proven_origin : (proven c issuer result now).origin = c.origin := by
  unfold proven ChallengeDO.mergeUpdate
  dsimp only
  split
  · rfl
  · rfl

theorem proven_issuerKid :
    (proven c issuer result now).zeroizeSecret.issuerKid = some issuer.kid := rfl

/-- The charge for a proven challenge is taken by the client exactly when its ids can stand in a
path. -/
theorem checkRequest_iff (hcontrol : PlainPrintable app)
    (htenant : c.tenantId = payer app entry policy) (id : Uuid) :
    Credits.checkRequest app (Credits.chargeFor app id (proven c issuer result now).origin
        (proven c issuer result now).zeroizeSecret) = true ↔
      Payable app entry policy c.origin issuer.kid := by
  unfold Credits.checkRequest Credits.chargeFor
  dsimp only
  rw [proven_tenantId, proven_origin, proven_issuerKid, htenant, Bool.and_eq_true,
    Bool.and_eq_true, validatePathComponent_iff, validatePathComponent_iff, Option.all_some,
    validatePathComponent_iff]
  constructor
  · rintro ⟨⟨hcustomer, -⟩, hkid⟩
    refine ⟨fun id hid => ?_, fun hnone => ?_, hkid⟩
    · rw [hid] at hcustomer
      exact hcustomer
    · rw [hnone] at hcustomer
      exact hcustomer
  · intro h
    refine ⟨⟨?_, pathSafe_uuid hcontrol id⟩, h.issuer⟩
    cases hpayer : payer app entry policy with
    | none => exact h.unnamed hpayer
    | some customer => exact h.named customer hpayer

/-- The origin is metered, and the deployment has a client for the credit service. -/
structure Chargeable (app : AppState) (s : State) (origin : String) : Prop where
  metered : Metered app s origin
  client : app.creditManagementClient = true

/-- A charge that the client does not take is refused before it is sent. -/
theorem alone_consumeCredits_refused {req : ConsumeCreditsRequest}
    (hcheck : Credits.checkRequest app req = false) :
    alone app pick (Credits.consumeCredits app req) s = (.ok (.error .invalidRequest), s) := by
  have honce : alone app pick (Credits.consumeCreditsOnce app req) s =
      (.ok (.error .invalidRequest), s) := by
    unfold Credits.consumeCreditsOnce
    rw [if_pos hcheck]
    rfl
  unfold Credits.consumeCredits
  show alone app pick (Credits.consumeCreditsOnce app req >>= _) s = _
  rw [alone_bind_ok honce]
  rfl

/-- **The verdict on a challenge that cannot be charged** is refused. -/
theorem alone_grantVerdict_refused (hp : Healthy pick) {id : Uuid} {origin : String}
    {redeemedAt : Nat} (hmetered : Chargeable app s origin)
    (hcheck : Credits.checkRequest app (Credits.chargeFor app id origin c) = false) :
    alone app pick (grantVerdict app id origin c redeemedAt) s =
      (.error (.serviceUnavailable (some "Billing temporarily unavailable")), s) := by
  have hread : perform app s (.originIndexGet origin) (pick (.originIndexGet origin)) =
      (.ofOption (s.originIndex origin), s) := by
    rw [hp.originIndexGet]
    rfl
  have henforce : alone app pick (Credits.enforceCredits app id origin c) s =
      (.error (.serviceUnavailable (some "Billing temporarily unavailable")), s) := by
    unfold Credits.enforceCredits
    rw [alone_await, hread]
    dsimp only
    have hm : Credits.showsMetered app (.ofOption (s.originIndex origin)) = true := hmetered.metered
    rw [if_pos hm, if_pos hmetered.client, alone_bind_ok (alone_consumeCredits_refused hcheck)]
    rfl
  unfold grantVerdict
  rw [alone_bind_error henforce]

/-- Whether a condition decides that a challenge can be redeemed on a metered origin with a healthy
credit service: the charge for its record is taken by the client, and a correct redemption that
meets a free tag goes through, over the expert and over the hosted route. -/
structure ChargedWhen (app : AppState) (r : CachedChallenge) (condition : Prop) : Prop where
  charge : ∀ id, Credits.checkRequest app (Credits.chargeFor app id r.origin r.zeroizeSecret) =
    true ↔ condition
  redeem : ∀ pick s req, Healthy pick → Chargeable app s r.origin →
    Redeem.Presented app pick s req r → TagFree app s (Redeem.nonceTag req.sid) →
    Redeem.Unkeyed app req → (Redeem.Succeeds app pick s req ↔ condition)
  hostedRedeem : ∀ pick s req session id, Healthy pick → Chargeable app s r.origin →
    HostedRedeem.Presented app s req session id r → TagFree app s (HostedRedeem.nonceTag id) →
    HostedRedeem.AttemptLeft session → (HostedRedeem.Succeeds app pick s req id ↔ condition)

theorem redeem_iff {req : RedeemRequest} (hp : Healthy pick) (hmetered : Chargeable app s r.origin)
    (h : Redeem.Presented app pick s req r) (hfree : TagFree app s (Redeem.nonceTag req.sid))
    (hun : Redeem.Unkeyed app req) :
    Redeem.Succeeds app pick s req ↔ Credits.checkRequest app
      (Credits.chargeFor app req.sid r.origin r.zeroizeSecret) = true := by
  constructor
  · intro ⟨s', c', hsucceeds, _⟩
    by_contra hcheck
    rw [Bool.not_eq_true] at hcheck
    have hmetered' : Chargeable app (s.consumed app (Redeem.nonceTag req.sid)) r.origin :=
      ⟨hmetered.metered, hmetered.client⟩
    obtain ⟨key, clientId, -, hgate⟩ := Redeem.alone_toGate hp h hun
    rw [hgate, alone_bind_ok (Redeem.alone_consumeNonce_free hp hfree),
      alone_bind_error (alone_grantVerdict_refused hp hmetered' hcheck)] at hsucceeds
    cases hsucceeds
  · intro hcheck
    have hredeemable : Redeem.Redeemable app pick s req r :=
      ⟨h.stored, h.valid, h.waiting, h.live, h.key, h.metadata, h.authorised, h.pkce,
        fun _ => ⟨hmetered.client, hcheck⟩, h.storable⟩
    exact Redeem.succeeds_of_free hp hredeemable hfree hun

theorem hostedRedeem_iff {req : HostedRedeemRequest} {session : HostedSession} {id : Uuid}
    (hp : Healthy pick) (hmetered : Chargeable app s r.origin)
    (h : HostedRedeem.Presented app s req session id r)
    (hfree : TagFree app s (HostedRedeem.nonceTag id)) (hleft : HostedRedeem.AttemptLeft session) :
    HostedRedeem.Succeeds app pick s req id ↔ Credits.checkRequest app
      (Credits.chargeFor app id r.origin r.zeroizeSecret) = true := by
  constructor
  · intro ⟨response, s', c', hsucceeds, _⟩
    by_contra hcheck
    rw [Bool.not_eq_true] at hcheck
    obtain ⟨s₁, hsame, hgate⟩ := HostedRedeem.alone_toGate hp h hleft
    have hfree₁ : TagFree app s₁ (HostedRedeem.nonceTag id) := hsame.tagFree.mpr hfree
    have hstored : (s₁.consumed app (HostedRedeem.nonceTag id)).record id = some r :=
      hsame.record.trans h.stored
    have hmetered₁ : Chargeable app (s₁.consumed app (HostedRedeem.nonceTag id))
        (HostedRedeem.originOf req.headers) := by
      refine ⟨?_, hmetered.client⟩
      show Credits.showsMetered app (.ofOption (s₁.originIndex _)) = true
      rw [hsame.originIndex, h.sameOrigin]
      exact hmetered.metered
    rw [← h.sameOrigin] at hcheck
    rw [hgate, alone_bind_ok (HostedRedeem.alone_consumeNonce_free hp hfree₁),
      HostedRedeem.alone_toVerdict hp h hstored hsame.clock,
      alone_bind_error (alone_grantVerdict_refused hp hmetered₁ hcheck)] at hsucceeds
    cases hsucceeds
  · intro hcheck
    rw [← h.sameOrigin] at hcheck
    have hredeemable : HostedRedeem.Redeemable app s req session id r :=
      ⟨h.origin, h.sessionId, h.verifier, h.found, h.admitted, h.names, h.stored, h.valid,
        h.waiting, h.live, h.sameOrigin, h.pkce, h.signing,
        fun _ => ⟨hmetered.client, hcheck⟩, h.storable⟩
    exact HostedRedeem.succeeds_of_free hp hredeemable hfree hleft

/-- A record with a payer, once proven, is charged exactly when it is payable. -/
theorem chargedWhen_payable (hcontrol : PlainPrintable app)
    (htenant : c.tenantId = payer app entry policy) (issuer : IssuerMeta) (result : SnarkResult)
    (now : Nat) :
    ChargedWhen app (proven c issuer result now)
      (Payable app entry policy c.origin issuer.kid) := by
  have hcharge : ∀ id, Credits.checkRequest app (Credits.chargeFor app id
      (proven c issuer result now).origin (proven c issuer result now).zeroizeSecret) = true ↔
      Payable app entry policy c.origin issuer.kid := checkRequest_iff hcontrol htenant
  refine ⟨hcharge, ?_, ?_⟩
  · intro pick s req hp hmetered h hfree hun
    exact (redeem_iff hp hmetered h hfree hun).trans (hcharge req.sid)
  · intro pick s req session id hp hmetered h hfree hleft
    exact (hostedRedeem_iff hp hmetered h hfree hleft).trans (hcharge id)

/-- **Billable redemptions.** Every record that a creation stores, over either route, and whatever
answers it, was made under a policy it resolved and an entry of `ORIGIN_INDEX` it read; once proven
with a key of any issuer, it can be redeemed on a metered origin exactly when the organisation or
tenant that these name and the issuer's key id can stand in a path, and the origin where they name
none. -/
theorem redeem_billable_iff (cfg : HostedConfig) (hcontrol : PlainPrintable cfg.app) :
    (∀ answer req c, (∃ x ∈ ((CreateChallenge.createChallenge cfg.app req).play answer []).2,
        CreateChallenge.createdBy x.1 = some c) →
      ∃ policy entry, CreateChallenge.Resolved cfg.app req c.origin
          ((CreateChallenge.createChallenge cfg.app req).play answer []).2 policy ∧
        ⟨.originIndexGet c.origin, entry⟩ ∈
          ((CreateChallenge.createChallenge cfg.app req).play answer []).2 ∧
        ∀ issuer result now, ChargedWhen cfg.app (proven c issuer result now)
          (Payable cfg.app entry policy c.origin issuer.kid)) ∧
    ∀ answer req c, (∃ x ∈ ((HostedChallenge.handleHostedChallenge cfg req).play answer []).2,
        HostedChallenge.createdBy x.1 = some c) →
      ∃ publicKey policy entry, HostedChallenge.publicKeyOf req = .ok publicKey ∧
        HostedChallenge.Resolved cfg publicKey c.origin
          ((HostedChallenge.handleHostedChallenge cfg req).play answer []).2 policy ∧
        ⟨.service (.originIndexGet c.origin), entry⟩ ∈
          ((HostedChallenge.handleHostedChallenge cfg req).play answer []).2 ∧
        ∀ issuer result now, ChargedWhen cfg.app (proven c issuer result now)
          (Payable cfg.app entry policy c.origin issuer.kid) := by
  constructor
  · intro answer req c ⟨x, hx, hc⟩
    obtain hnil | ⟨before, hbefore, hcreates⟩ :=
      (CreateChallenge.guarded_createChallenge_made cfg.app req).play_part x hx
    · cases hnil
    · obtain ⟨policy, entry, hresolved, hentry, htenant, -⟩ :=
        ((hcreates c hc).mono hbefore).tenantId
      exact ⟨policy, entry, hresolved, hentry, chargedWhen_payable hcontrol htenant⟩
  · intro answer req c ⟨x, hx, hc⟩
    obtain hnil | ⟨before, hbefore, hcreates⟩ :=
      (HostedChallenge.guarded_handleHostedChallenge_made cfg req).play_part x hx
    · cases hnil
    · obtain ⟨publicKey, policy, entry, hkey, hresolved, hentry, htenant, -⟩ :=
        ((hcreates c hc).mono hbefore).tenantId
      exact ⟨publicKey, policy, entry, hkey, hresolved, hentry,
        chargedWhen_payable hcontrol htenant⟩

end Charging

/-! ## Samples -/

namespace Sample

/-- A deployment in which the `ORIGIN_INDEX` entry of a metered origin names no organisation. -/
def app : AppState :=
  { AppState.sample with oiEntry := fun text => if text = "metered" then some none else none }

def cfg : HostedConfig :=
  { app := app
    publicKeysBinding := true
    rateLimitsBinding := true
    parseUrl := OriginPatterns.sampleParser
    graphemes := fun s => s.toList.length
    validationText := fun _ => ""
    decodeBase64Url := fun _ => none
    sessionTtl := 300
    defaultQuota := 500
    hostedBaseUrl := "https://hosted.example" }

/-- A creation by the shop. -/
def creation : CreateChallengeRequest :=
  { headers := ProviiVerifier.Sample.shopHeaders
    codeChallenge := ⟨CachedChallenge.sampleDigest, rfl⟩
    verifyingKeyId := none
    expiresIn := ProviiVerifier.Sample.twoMinutes
    authorizer :=
      { keyId := "shop", timestamp := 1000, nonce := String.ofList (List.replicate 64 'a')
        hmac := String.ofList (List.replicate 64 'b') } }

/-- The metered shop, before the creation. -/
def emptyState : State :=
  { ProviiVerifier.Sample.meteredState with challenges := fun _ => .empty }

/-- The stores answer, and all goes well; the tenant of the shop's policy is given. -/
def answer (tenantId : String) (_ : History Op Res) (op : Op) : Res op :=
  match op with
  | .getPolicyDetail _ => .ok (.found { ProviiVerifier.Sample.policy with tenantId := tenantId })
  | .newUuid => CachedChallenge.sample.id
  | op => (perform app emptyState op (healthy op)).1

/-- The record of the creation. -/
def created (tenantId : String) : Option CachedChallenge :=
  ((CreateChallenge.createChallenge app creation).play (answer tenantId) []).2.findSome?
    fun x => CreateChallenge.createdBy x.1

/-- The record, proven with a key of an issuer. -/
def provenRecord (c : CachedChallenge) : CachedChallenge :=
  proven c ⟨"issuer", false⟩ ⟨13000, List.replicate 32 7⟩ 1000

/-- The metered shop with the proven record. -/
def provenState (c : CachedChallenge) : State :=
  { emptyState with
    challenges := fun id =>
      if id = c.id then ChallengeDO.Storage.empty.putRecord id.toString (provenRecord c)
      else .empty }

/-- The outcome of the shop's redemption of the proven record. -/
def redeemed (c : CachedChallenge) : Except ApiError (Answer RedeemResponse) :=
  (alone app healthy (Redeem.redeemChallenge app ProviiVerifier.Sample.redemption)
    (provenState c)).1

theorem plainPrintable : PlainPrintable cfg.app := by
  intro c hlow _
  show decide (c.toNat < 32) = false
  exact decide_eq_false (Nat.not_lt.mpr hlow)

end Sample

/-- The shop's policy names a tenant: its challenges can be charged. -/
theorem redeem_billable_iff_tenant :
    ∃ c, (∃ x ∈ ((CreateChallenge.createChallenge Sample.cfg.app Sample.creation).play
        (Sample.answer "tenant-shop") []).2, CreateChallenge.createdBy x.1 = some c) ∧
      Sample.redeemed c = .ok (.fresh ⟨"OK", true⟩) ∧
      ∃ policy entry, ∀ issuer result now, ChargedWhen Sample.cfg.app (proven c issuer result now)
        (Payable Sample.cfg.app entry policy c.origin issuer.kid) := by
  have hcreated : (Sample.created "tenant-shop").any (fun c =>
      Sample.redeemed c = .ok (.fresh ⟨"OK", true⟩)) = true := by decide +kernel
  obtain ⟨c, hc, hredeemed⟩ := (Option.any_eq_true _ _).mp hcreated
  have hrecord := List.exists_of_findSome?_eq_some hc
  obtain ⟨policy, entry, -, -, hcharged⟩ := (redeem_billable_iff Sample.cfg
    Sample.plainPrintable).1 (Sample.answer "tenant-shop") Sample.creation c hrecord
  exact ⟨c, hrecord, of_decide_eq_true hredeemed, policy, entry, hcharged⟩

/-- **Nobody is named**: the policy has no tenant and the entry no organisation, so the origin would
pay, which cannot stand in a path. The client never takes the charge, and the redemption is refused
though everything works. -/
theorem unnamed_payer_refused :
    ∃ c, (∃ x ∈ ((CreateChallenge.createChallenge Sample.app Sample.creation).play
        (Sample.answer "") []).2, CreateChallenge.createdBy x.1 = some c) ∧
      (∀ kid, ¬ Payable Sample.app (.ofOption (Sample.emptyState.originIndex c.origin))
        { ProviiVerifier.Sample.policy with tenantId := "" } c.origin kid) ∧
      Metered Sample.app (Sample.provenState c) c.origin ∧
      Credits.checkRequest Sample.app (Credits.chargeFor Sample.app c.id c.origin
        (Sample.provenRecord c).zeroizeSecret) = false ∧
      Sample.redeemed c =
        .error (.serviceUnavailable (some "Billing temporarily unavailable")) := by
  have hcreated : (Sample.created "").any (fun c =>
      payer Sample.app (.ofOption (Sample.emptyState.originIndex c.origin))
        { ProviiVerifier.Sample.policy with tenantId := "" } = none ∧ '/' ∈ c.origin.toList ∧
      Metered Sample.app (Sample.provenState c) c.origin ∧
      Credits.checkRequest Sample.app (Credits.chargeFor Sample.app c.id c.origin
        (Sample.provenRecord c).zeroizeSecret) = false ∧
      Sample.redeemed c =
        .error (.serviceUnavailable (some "Billing temporarily unavailable"))) = true := by
    decide +kernel
  obtain ⟨c, hc, hrefused⟩ := (Option.any_eq_true _ _).mp hcreated
  obtain ⟨hnone, hslash, hrefused⟩ := of_decide_eq_true hrefused
  exact ⟨c, List.exists_of_findSome?_eq_some hc, fun _ => not_payable_unnamed hnone hslash,
    hrefused⟩

end Payers

end ProviiVerifier
