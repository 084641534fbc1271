/-
  `clients/credit_management.rs` and the credit enforcement that both redeem handlers make
  before they grant a verdict: whether the origin is metered is read from `ORIGIN_INDEX`, and a
  metered origin is charged first.

  Proved: `consume_credits` returns `Ok` or `Conflict` only after the credit service answered a
  reply that reads so (`guarded_consumeCredits`); a handler gets past the enforcement only if the
  read did not show a metered origin, or such a reply came (`guarded_enforceCredits`).
-/
import ProviiVerifier.Stores

namespace ProviiVerifier

open Interleaving Prog

namespace Credits

/-- `CreditError`. -/
inductive CreditError
  | insufficientCredits
  | conflict
  | serviceUnavailable
  | invalidRequest
  | networkError
  | serializationError
  deriving DecidableEq

/-- `MAX_RESPONSE_BODY_BYTES`. -/
def maxResponseBodyBytes : Nat := 1048576

/-- `MAX_RETRIES`. -/
def maxRetries : Nat := 3

/-- `validate_path_component`. -/
def validatePathComponent (app : AppState) (value : String) : Bool :=
  !containsSub value ['.', '.'] &&
    value.toList.all fun c => c ≠ '/' && c ≠ '\\' && c ≠ '?' && c ≠ '#' && c ≠ '%' &&
      !app.isControl c

/-- `validate_content_type`. -/
def validateContentType (contentType : Option String) : Bool :=
  match contentType with
  | some ct => (stripPrefix "application/json" ct).isSome
  | none => false

/-- `parse_consume_response`. -/
def parseConsumeResponse (reply : CreditReply) : Except CreditError Unit :=
  if reply.status = 200 ∧ validateContentType reply.contentType = false then
    .error .networkError
  else if reply.contentLength.any (· > maxResponseBodyBytes) then .error .networkError
  else
    match reply.textLen with
    | none => .error .networkError
    | some len =>
      if len > maxResponseBodyBytes then .error .networkError
      else if reply.status = 200 then
        if reply.parses then .ok () else .error .serializationError
      else if reply.status = 402 then .error .insufficientCredits
      else if reply.status = 409 then .error .conflict
      else if reply.status = 503 then .error .serviceUnavailable
      else if reply.status = 400 then .error .invalidRequest
      else .error .networkError

/-- The ids a consume request sends in headers are checked first. -/
def checkRequest (app : AppState) (req : ConsumeCreditsRequest) : Bool :=
  validatePathComponent app req.customerId && validatePathComponent app req.verificationId &&
    req.issuerKid.all (validatePathComponent app)

/-- `consume_credits_once`: over the service binding, and over HTTP when that fails. -/
def consumeCreditsOnce (app : AppState) (req : ConsumeCreditsRequest) :
    Handler (Except CreditError Unit) := do
  if checkRequest app req = false then return .error .invalidRequest
  else
    match ← await (.credits true req) with
    | some reply => return parseConsumeResponse reply
    | none =>
      match ← await (.credits false req) with
      | some reply => return parseConsumeResponse reply
      | none => return .error .networkError

/-- `consume_credits`, with `n` further attempts: a 503 is tried again. -/
def consumeCreditsLoop (app : AppState) (req : ConsumeCreditsRequest) :
    Nat → Handler (Except CreditError Unit)
  | 0 => consumeCreditsOnce app req
  | n + 1 => do
    match ← consumeCreditsOnce app req with
    | .error .serviceUnavailable => consumeCreditsLoop app req n
    | r => return r

/-- `consume_credits`. -/
def consumeCredits (app : AppState) (req : ConsumeCreditsRequest) :
    Handler (Except CreditError Unit) :=
  consumeCreditsLoop app req (maxRetries - 1)

/-- The request for a challenge: the tenant pays, or the origin when there is none. -/
def chargeFor (app : AppState) (id : Uuid) (origin : String) (cached : CachedChallenge) :
    ConsumeCreditsRequest :=
  { customerId := cached.tenantId.getD origin
    verificationId := id.toString
    origin := origin
    issuerKid := cached.issuerKid
    environment := app.environment }

/-- What a read of `ORIGIN_INDEX` shows of metering; every failure shows none. -/
def showsMetered (app : AppState) : KvRead → Bool
  | .value text => app.oiMetering text = some (some true)
  | _ => false

/-- Credit enforcement of both redeem handlers: whether the origin is metered, and then paid. -/
def enforceCredits (app : AppState) (id : Uuid) (origin : String) (cached : CachedChallenge) :
    Handler Bool := do
  let entry ← await (.originIndexGet origin)
  if showsMetered app entry then
    if app.creditManagementClient then
      match ← consumeCredits app (chargeFor app id origin cached) with
      | .ok () | .error .conflict => return true
      | .error .insufficientCredits => .fail (.paymentRequired none)
      | .error _ => .fail (.serviceUnavailable (some "Billing temporarily unavailable"))
    else .fail (.serviceUnavailable (some "Billing not configured"))
  else return false

/-- The deduction of an unmetered origin after the verdict; its outcome is only logged. -/
def consumeBestEffort (app : AppState) (id : Uuid) (origin : String)
    (cached : CachedChallenge) : Handler Unit := do
  if app.creditManagementClient then
    let _ ← consumeCredits app (chargeFor app id origin cached)

/-! ## What the client comes to -/

/-- `Ok` or `Conflict`: the credits are deducted, now or before. -/
def Settled (r : Except CreditError Unit) : Prop := r = .ok () ∨ r = .error .conflict

instance (r : Except CreditError Unit) : Decidable (Settled r) :=
  inferInstanceAs (Decidable (_ ∨ _))

/-- The credit service answered a consume request with a reply that reads as settled. -/
def Paid (req : ConsumeCreditsRequest) (h : History Op Res) : Prop :=
  ∃ binding reply, ⟨.credits binding req, some reply⟩ ∈ h ∧
    Settled (parseConsumeResponse reply)

/-- No reply so far reads as settled. -/
def Unpaid (h : History Op Res) : Prop :=
  ∀ binding req reply, ⟨.credits binding req, some reply⟩ ∈ h →
    ¬ Settled (parseConsumeResponse reply)

theorem Unpaid.not_paid {req : ConsumeCreditsRequest} {h : History Op Res} (hu : Unpaid h) :
    ¬ Paid req h := by
  rintro ⟨binding, reply, hm, hsettled⟩
  exact hu binding req reply hm hsettled

/-- The operations of a consume call. -/
def IsCharge (req : ConsumeCreditsRequest) (op : Op) : Prop :=
  ∃ binding, op = .credits binding req

variable {app : AppState} {req : ConsumeCreditsRequest} {h h' : History Op Res}

theorem Paid.mono (hs : h <:+ h') (hp : Paid req h) : Paid req h' := by
  obtain ⟨binding, reply, hm, hsettled⟩ := hp
  exact ⟨binding, reply, hs.subset hm, hsettled⟩

theorem unpaid_nil : Unpaid [] := by
  intro binding req reply hm
  cases hm

/-- What an unpaid request has paid for in the meantime is among its operations. -/
theorem Unpaid.charged {P : Op → Prop} (hu : Unpaid h) (hg : Grows P h h') (hp : Paid req h') :
    ∃ binding, P (.credits binding req) := by
  obtain ⟨binding, reply, hm, hsettled⟩ := hp
  rcases hg.entries _ hm with hm | hop
  · exact absurd hsettled (hu binding req reply hm)
  · exact ⟨binding, hop⟩

/-- Operations other than charges pay for nothing. -/
theorem Paid.of_grows {P : Op → Prop} (hp : Paid req h') (hg : Grows P h h')
    (hP : ∀ binding req, ¬ P (.credits binding req)) : Paid req h := by
  obtain ⟨binding, reply, hm, hsettled⟩ := hp
  rcases hg.entries _ hm with hm | hop
  · exact ⟨binding, reply, hm, hsettled⟩
  · exact absurd hop (hP binding req)

/-- Operations other than charges leave a request unpaid. -/
theorem Unpaid.grows {P : Op → Prop} (hu : Unpaid h) (hg : Grows P h h')
    (hP : ∀ binding req, ¬ P (.credits binding req)) : Unpaid h' := by
  intro binding req reply hm
  rcases hg.entries _ hm with hm | hop
  · exact hu binding req reply hm
  · exact absurd hop (hP binding req)

theorem Unpaid.cons {op : Op} {r : Res op} (hu : Unpaid h)
    (hop : ∀ binding req, op ≠ .credits binding req) : Unpaid (⟨op, r⟩ :: h) := by
  intro binding req reply hm
  rcases List.mem_cons.mp hm with heq | hm
  · injection heq with heq
    exact absurd heq.symm (hop binding req)
  · exact hu binding req reply hm

/-- A charge without an answer, or with one that does not read as settled. -/
theorem Unpaid.charge {binding : Bool} {r : Option CreditReply} (hu : Unpaid h)
    (hr : ∀ reply, r = some reply → ¬ Settled (parseConsumeResponse reply)) :
    Unpaid (⟨.credits binding req, r⟩ :: h) := by
  intro b q reply hm
  rcases List.mem_cons.mp hm with heq | hm
  · cases heq
    exact hr reply rfl
  · exact hu b q reply hm

/-- What a consume call comes to: a settled result was answered, and any other leaves an unpaid
request unpaid. -/
def ConsumeOutcome (req : ConsumeCreditsRequest) (h h' : History Op Res)
    (r : Except ApiError (Except CreditError Unit)) : Prop :=
  ∃ result, r = .ok result ∧ (Settled result → Paid req h') ∧
    (¬ Settled result → Unpaid h → Unpaid h')

theorem guarded_consumeCreditsOnce : Guarded (fun _ op => IsCharge req op)
    (ConsumeOutcome req h) h (consumeCreditsOnce app req) := by
  have hanswer : ∀ (h₀ : History Op Res) binding reply, (Unpaid h → Unpaid h₀) →
      ConsumeOutcome req h (⟨.credits binding req, some reply⟩ :: h₀)
        (.ok (parseConsumeResponse reply)) := by
    intro h₀ binding reply hunpaid
    refine ⟨_, rfl, fun hsettled => ⟨binding, reply, List.mem_cons_self, hsettled⟩, ?_⟩
    intro hsettled hu
    refine (hunpaid hu).charge fun reply' hreply => ?_
    cases hreply
    exact hsettled
  unfold consumeCreditsOnce
  split
  · exact ⟨_, rfl, by simp [Settled], fun _ hu => hu⟩
  · refine guarded_await_bind.mpr ⟨⟨true, rfl⟩, fun r => ?_⟩
    cases r with
    | some reply => exact hanswer h true reply id
    | none =>
      refine guarded_await_bind.mpr ⟨⟨false, rfl⟩, fun r => ?_⟩
      have hfirst : Unpaid h → Unpaid (⟨.credits true req, none⟩ :: h) :=
        fun hu => hu.charge nofun
      cases r with
      | some reply => exact hanswer _ false reply hfirst
      | none => exact ⟨_, rfl, by simp [Settled], fun _ hu => (hfirst hu).charge nofun⟩

theorem guarded_consumeCreditsLoop (n : Nat) : Guarded (fun _ op => IsCharge req op)
    (ConsumeOutcome req h) h (consumeCreditsLoop app req n) := by
  induction n generalizing h with
  | zero => exact guarded_consumeCreditsOnce
  | succ n ih =>
    refine guarded_consumeCreditsOnce.bind ?_ ?_
    · rintro h' result _ ⟨_, hr, hpaid, hunpaid⟩
      cases hr
      split
      · -- the 503 left the request unpaid, so the next attempt starts as this one did
        refine ih.imp (fun _ _ g => g) ?_
        rintro h'' r ⟨result, hr, hpaid', hunpaid'⟩
        exact ⟨result, hr, hpaid', fun hsettled hu =>
          hunpaid' hsettled (hunpaid (by simp [Settled]) hu)⟩
      · exact ⟨_, rfl, hpaid, hunpaid⟩
    · rintro h' e _ ⟨_, hr, -⟩
      cases hr

theorem guarded_consumeCredits : Guarded (fun _ op => IsCharge req op) (ConsumeOutcome req h) h
    (consumeCredits app req) :=
  guarded_consumeCreditsLoop _

/-! ## What the enforcement comes to -/

/-- The operations of the enforcement. -/
def EnforceOp (req : ConsumeCreditsRequest) (op : Op) : Prop :=
  op = .originIndexGet req.origin ∨ IsCharge req op

/-- The billing of a verdict: what the read of `ORIGIN_INDEX` showed, and the payment if that was
a metered origin. -/
def Billed (app : AppState) (req : ConsumeCreditsRequest) (h : History Op Res) : Prop :=
  ∃ entry, ⟨.originIndexGet req.origin, entry⟩ ∈ h ∧ (showsMetered app entry = true → Paid req h)

theorem Billed.mono (hs : h <:+ h') (hb : Billed app req h) : Billed app req h' := by
  obtain ⟨entry, hm, hpaid⟩ := hb
  exact ⟨entry, hs.subset hm, fun hmetered => (hpaid hmetered).mono hs⟩

/-- What `enforce_credits` comes to. -/
def EnforceOutcome (app : AppState) (req : ConsumeCreditsRequest) (h h' : History Op Res) :
    Except ApiError Bool → Prop
  | .ok metered => Billed app req h' ∧ (metered = false → Unpaid h → Unpaid h')
  | .error _ => Unpaid h → Unpaid h'

/-- **Credit enforcement.** -/
theorem guarded_enforceCredits {id : Uuid} {origin : String} {cached : CachedChallenge} :
    Guarded (fun _ op => EnforceOp (chargeFor app id origin cached) op)
      (EnforceOutcome app (chargeFor app id origin cached) h) h
      (enforceCredits app id origin cached) := by
  refine guarded_await_bind.mpr ⟨.inl rfl, fun entry => ?_⟩
  have hread : Unpaid h → Unpaid (⟨.originIndexGet origin, entry⟩ :: h) :=
    fun hu => hu.cons (by simp)
  have hentry : (⟨.originIndexGet origin, entry⟩ : Sigma Res) ∈
      ⟨.originIndexGet origin, entry⟩ :: h := List.mem_cons_self
  split
  · split
    · refine (guarded_consumeCredits.imp (fun _ _ g => .inr g) (fun _ _ hr => hr)).bind ?_ ?_
      · rintro h' result hs ⟨_, hr, hpaid, hunpaid⟩
        cases hr
        have hok : Settled result →
            Billed app (chargeFor app id origin cached) h' :=
          fun hsettled => ⟨entry, hs.subset hentry, fun _ => hpaid hsettled⟩
        split
        · exact ⟨hok (.inl rfl), nofun⟩
        · exact ⟨hok (.inr rfl), nofun⟩
        · exact fun hu => hunpaid (by simp [Settled]) (hread hu)
        · next e hcon hins =>
          refine fun hu => hunpaid ?_ (hread hu)
          rintro (hsettled | hsettled)
          · cases hsettled
          · cases hsettled
            exact hcon rfl
      · rintro h' e _ ⟨_, hr, -⟩
        cases hr
    · exact hread
  · next hmetered =>
    exact ⟨⟨entry, hentry, fun hm => absurd hm hmetered⟩, fun _ => hread⟩

theorem guarded_consumeBestEffort {id : Uuid} {origin : String} {cached : CachedChallenge} :
    Guarded (fun _ op => IsCharge (chargeFor app id origin cached) op) (fun _ r => r = .ok ()) h
      (consumeBestEffort app id origin cached) := by
  unfold consumeBestEffort
  split
  · refine guarded_consumeCredits.bind (fun _ _ _ _ => rfl) ?_
    rintro h' e _ ⟨_, hr, -⟩
    cases hr
  · rfl

attribute [irreducible] consumeCredits enforceCredits consumeBestEffort

end Credits

end ProviiVerifier
