/-
  The consume requests of the handlers.

  A consume request goes over the service binding, and over HTTP when no answer comes back. A
  creation and a submission send none.

  Proved: along every path of every handler a consume request without an answer over the binding is
  followed by the one over HTTP, and what a request paid for is the challenge whose verdict it wrote
  (`guarded_handle_charges`).
-/
import ProviiVerifier.CreatedPolicies
import ProviiVerifier.Routine

namespace ProviiVerifier

open Interleaving Prog

variable {app : AppState}

/-! ## Parts without a consume request -/

/-- The operation is no consume request. -/
def NoCharge (op : Op) : Prop := ∀ binding req, op ≠ .credits binding req

theorem noCharge_of_uses {entry : String → String → Prop} {session : Prop} {op : Op}
    (hop : Uses False entry session op) : NoCharge op := by
  rintro binding req rfl
  exact hop

theorem only_noCharge {ε α : Type} {p : Prog Op Res ε α}
    (hp : p.Only (Uses False (fun _ _ => True) True)) : p.Only NoCharge :=
  hp.imp fun _ hop => noCharge_of_uses hop

/-- A submission sends no consume request. -/
theorem noCharge_submitVerification (req : SubmitProofRequest) :
    (Verify.submitVerification app req).Only NoCharge :=
  (Verify.only_submitVerification req).imp fun _ hop => noCharge_of_uses hop

/-- A creation sends no consume request. -/
theorem noCharge_createChallenge (req : CreateChallengeRequest) :
    (CreateChallenge.createChallenge app req).Only NoCharge := by
  have huses : (CreateChallenge.createChallenge app req).Only
      (Uses False CodeEntry True) := CreateChallenge.only_createChallenge req
  exact huses.imp fun _ hop => noCharge_of_uses hop

/-! ## The fallback to HTTP -/

namespace Credits

/-- The consume request that a lost answer over the binding is followed by. -/
def fallback : Sigma Res → Option Op
  | ⟨.credits true req, none⟩ => some (.credits false req)
  | _ => none

theorem fallback_noCharge {op : Op} (h : NoCharge op) (r : Res op) : fallback ⟨op, r⟩ = none := by
  cases op with
  | credits binding req => exact absurd rfl (h binding req)
  | _ => rfl

variable {ε α : Type} {req : ConsumeCreditsRequest} {id : Uuid} {origin : String}
  {c : CachedChallenge}

theorem follows_noCharge {p : Prog Op Res ε α}
    (hp : p.Only (Uses False (fun _ _ => True) True)) : p.Follows fallback :=
  (only_noCharge hp).follows fun _ r hop => fallback_noCharge hop r

theorem fallback_answered (binding : Bool) (req : ConsumeCreditsRequest) (reply : CreditReply) :
    fallback ⟨.credits binding req, some reply⟩ = none := by
  cases binding <;> rfl

/-- An answer that asks for nothing is followed by anything. -/
theorem asks_nothing {x : Sigma Res} (h : fallback x = none) {P : Op → Prop} :
    ∀ op, fallback x = some op → P op := by
  intro op hop
  rw [h] at hop
  cases hop

theorem follows_await_bind {ε α : Type} {op : Op} {f : Res op → Prog Op Res ε α}
    (hop : NoCharge op) (hf : ∀ r, (f r).Follows fallback) :
    (await op >>= f).Follows fallback := by
  intro r
  exact ⟨hf r, asks_nothing (fallback_noCharge hop r)⟩

theorem follows_consumeCreditsOnce : (consumeCreditsOnce app req).Follows fallback := by
  unfold consumeCreditsOnce
  split
  · trivial
  · intro r
    cases r with
    | some reply => exact ⟨trivial, asks_nothing (fallback_answered true req reply)⟩
    | none =>
      refine ⟨?_, ?_⟩
      · intro r
        have hnone : fallback ⟨.credits false req, r⟩ = none := rfl
        cases r with
        | some reply => exact ⟨trivial, asks_nothing hnone⟩
        | none => exact ⟨trivial, asks_nothing hnone⟩
      · intro op' hop'
        rw [← Option.some.inj hop']
        rfl

theorem follows_consumeCredits : (consumeCredits app req).Follows fallback := by
  unfold consumeCredits
  generalize maxRetries - 1 = n
  induction n with
  | zero => exact follows_consumeCreditsOnce
  | succ n ih =>
    refine follows_consumeCreditsOnce.bind fun r => ?_
    split
    · exact ih
    · trivial

theorem follows_enforceCredits : (enforceCredits app id origin c).Follows fallback := by
  unfold enforceCredits
  refine follows_await_bind nofun fun entry => ?_
  split
  · split
    · refine follows_consumeCredits.bind fun r => ?_
      split <;> trivial
    · trivial
  · trivial

theorem follows_consumeBestEffort : (consumeBestEffort app id origin c).Follows fallback := by
  unfold consumeBestEffort
  split
  · exact follows_consumeCredits.bind fun _ => trivial
  · trivial

end Credits

theorem follows_grantVerdict {id : Uuid} {origin : String} {c : CachedChallenge} {now : Nat} :
    (grantVerdict app id origin c now).Follows Credits.fallback := by
  unfold grantVerdict
  refine Credits.follows_enforceCredits.bind fun metered => ?_
  refine (Credits.follows_noCharge only_putChallenge).attempt.bind fun r => ?_
  cases r with
  | error e => trivial
  | ok _ =>
    show Follows Credits.fallback (if metered = true then _ else _)
    split
    · trivial
    · exact Credits.follows_consumeBestEffort

theorem Redeem.follows_redeemChallenge (req : RedeemRequest) :
    (Redeem.redeemChallenge app req).Follows Credits.fallback := by
  refine Follows.bind (Credits.follows_noCharge only_ofExcept) fun key => ?_
  refine Follows.bind (Credits.follows_noCharge only_ofExcept) fun _ => ?_
  refine Follows.bind (Credits.follows_noCharge ?_) fun prefetched => ?_
  · exact only_routine (Redeem.guarded_prefetchChallenge (h := []) app req.sid)
      fun _ hop => routine_fetch hop
  refine Follows.bind (Credits.follows_noCharge only_authenticateApiKey) fun auth => ?_
  split
  · trivial
  refine Follows.bind (Credits.follows_noCharge only_checkCached) fun response => ?_
  split
  · trivial
  refine Follows.bind (Credits.follows_noCharge ?_) fun loaded => ?_
  · unfold Redeem.loadChallenge
    split
    · trivial
    · refine Only.bind (Only.attempt only_getChallenge) fun r => ?_
      rcases r with e | _ | c <;> trivial
  refine Follows.bind (Credits.follows_noCharge only_ofExcept) fun _ => ?_
  refine Credits.follows_await_bind nofun fun now => ?_
  refine Follows.bind (Credits.follows_noCharge only_ofExcept) fun _ => ?_
  refine Follows.bind (Credits.follows_noCharge only_enforceAccountQuota) fun _ => ?_
  refine Follows.bind (Credits.follows_noCharge ?_) fun _ => ?_
  · exact only_routine (Redeem.guarded_consumeNonce (h := [])) fun _ hop => routine_check hop
  refine follows_grantVerdict.bind fun _ => ?_
  exact Follows.bind (Credits.follows_noCharge only_storeCached) fun _ => trivial

theorem HostedRedeem.follows_redeemRecord (req : HostedRedeemRequest) (id : Uuid) :
    (HostedRedeem.redeemRecord app req id).Follows Credits.fallback := by
  unfold HostedRedeem.redeemRecord
  refine Follows.bind (Credits.follows_noCharge ?_) fun loaded => ?_
  · exact only_routine (HostedRedeem.guarded_loadChallenge (h := []) id)
      fun _ hop => routine_fetch hop
  dsimp only
  split
  · trivial
  refine Credits.follows_await_bind nofun fun now => ?_
  split
  · trivial
  refine Follows.bind (Credits.follows_noCharge ?_) fun cached => ?_
  · unfold HostedRedeem.rereadPending
    split
    · refine Only.bind (Only.attempt only_getChallenge) fun r => ?_
      rcases r with e | _ | c <;> trivial
    · trivial
  refine Follows.bind (Credits.follows_noCharge only_ofExcept) fun _ => ?_
  split
  · trivial
  · exact follows_grantVerdict.bind fun _ => trivial

theorem HostedRedeem.follows_handleHostedRedeem (req : HostedRedeemRequest) :
    (HostedRedeem.handleHostedRedeem app req).Follows Credits.fallback := by
  unfold HostedRedeem.handleHostedRedeem
  split
  · trivial
  split
  · trivial
  refine Follows.bind (Credits.follows_noCharge only_ofExcept) fun _ => ?_
  refine Credits.follows_await_bind nofun fun answer => ?_
  rcases answer with e | _ | session
  · trivial
  · trivial
  refine Follows.bind (Credits.follows_noCharge only_ofExcept) fun _ => ?_
  dsimp only
  split
  · trivial
  refine Follows.bind (Credits.follows_noCharge (Only.attempt ?_)) fun _ => ?_
  · exact (SessionStore.guarded_updateSessionKvChecked (h := [])).only.imp
      fun _ hop => uses_session hop
  split
  · trivial
  refine Follows.bind (Credits.follows_noCharge ?_) fun _ => HostedRedeem.follows_redeemRecord req _
  exact only_routine (HostedRedeem.guarded_consumeNonce (h := []) _)
    fun _ hop => routine_check hop

/-! ## What a finished request paid for -/

/-- What a request that paid did: it read the record of the challenge, and its write of the verdict
came to an end. -/
def Granted (app : AppState) (text : String) (h : History Op Res) : Prop :=
  ∃ id c now, text = id.toString ∧ ChallengeStore.Read id c h ∧ Sent app id c.zeroizeSecret now h

theorem follows_handle (req : Request) : (handle app req).Follows Credits.fallback := by
  cases req with
  | create req =>
    exact ((noCharge_createChallenge req).follows fun _ r hop =>
      Credits.fallback_noCharge hop r).bind fun _ => trivial
  | verify req =>
    exact ((noCharge_submitVerification req).follows fun _ r hop =>
      Credits.fallback_noCharge hop r).bind fun _ => trivial
  | redeem req => exact (Redeem.follows_redeemChallenge req).bind fun _ => trivial
  | hostedRedeem req => exact (HostedRedeem.follows_handleHostedRedeem req).bind fun _ => trivial

/-- A handler that sends no consume request pays for nothing. -/
theorem not_paid_noCharge {ε α : Type} {p : Prog Op Res ε α} (hp : p.Only NoCharge) :
    Guarded (fun _ _ => True) (fun h _ => ∀ charge, ¬ Credits.Paid charge h) [] p := by
  refine (hp.guarded (h := [])).grows.imp (fun _ _ _ => trivial) ?_
  rintro h r ⟨hg, -⟩ charge hpaid
  exact Credits.unpaid_nil.not_paid
    (hpaid.of_grows hg fun binding req hop => hop binding req rfl)

theorem granted_handle (app : AppState) (req : Request) :
    (handle app req).Guarded (fun _ _ => True)
      (fun h _ => ∀ charge, Credits.Paid charge h → Granted app charge.verificationId h) [] := by
  cases req with
  | create req =>
    have honly : (handle app (.create req)).Only NoCharge :=
      Only.bind (noCharge_createChallenge req) fun _ => trivial
    exact (not_paid_noCharge honly).imp (fun _ _ _ => trivial)
      fun _ _ hnone charge hpaid => absurd hpaid (hnone charge)
  | verify req =>
    have honly : (handle app (.verify req)).Only NoCharge :=
      Only.bind (noCharge_submitVerification req) fun _ => trivial
    exact (not_paid_noCharge honly).imp (fun _ _ _ => trivial)
      fun _ _ hnone charge hpaid => absurd hpaid (hnone charge)
  | redeem req =>
    refine (guarded_handle app (.redeem req)).imp (fun _ _ _ => trivial) ?_
    rintro h r ⟨r', hout, -⟩ charge hpaid
    obtain ⟨hcharge, c, now, hgrounds, hsent⟩ := hout.sent charge hpaid
    exact ⟨req.sid, c, now, hcharge, hgrounds.read, hsent⟩
  | hostedRedeem req =>
    refine (guarded_handle app (.hostedRedeem req)).imp (fun _ _ _ => trivial) ?_
    rintro h r ⟨r', hout, -⟩ charge hpaid
    obtain ⟨id, c, now, hcharge, -, hgrounds, hsent⟩ := hout.sent charge hpaid
    exact ⟨id, c, now, hcharge, hgrounds.read, hsent⟩

/-- **The consume requests of a handler.** -/
theorem guarded_handle_charges (app : AppState) (req : Request) :
    (handle app req).Guarded
      (fun h op => ∀ x ∈ h.head?, ∀ op', Credits.fallback x = some op' → op = op')
      (fun h _ => (∀ x ∈ h.head?, Credits.fallback x = none) ∧
        ∀ charge, Credits.Paid charge h → Granted app charge.verificationId h) [] := by
  have hfollows : (handle app req).Follows Credits.fallback := follows_handle req
  refine ((hfollows.guarded (h := []) ?_).and (granted_handle app req)).imp
    (fun _ _ g => g.1) fun _ _ hQ => hQ
  intro x hx
  exact absurd hx (Option.not_mem_none x)

end ProviiVerifier
