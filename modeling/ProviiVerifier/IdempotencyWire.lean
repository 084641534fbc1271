/-
  The idempotency key on its way from the header to the Durable Object.

  `extract_idempotency_key` builds `METHOD:/path:uuid`, the middleware puts the endpoint label
  in front, the store percent-encodes the whole into its path, and `IdempotencyDO::fetch`
  validates the encoded text as `uuid` or `{scope}:{uuid}`. The object's comment says that it
  accepts endpoint-scoped keys; the encoded key has neither a colon nor a hyphen.

  Proved: the object answers 400 to every key the middleware sends, and in no run does a check
  find a stored response (`wireAgreement_never`). Scoped keys that differ are sent in different
  paths (`keyPath_injective`).
-/
import ProviiVerifier.Stores

namespace ProviiVerifier

open Interleaving Prog

namespace Idempotency

/-- Scoped keys do not collide on the wire. -/
theorem keyPath_injective {key key' : String} (h : keyPath key = keyPath key') : key = key' := by
  have hpath := congrArg (stripPrefix "/idempotency/") h
  unfold keyPath at hpath
  rw [stripPrefix_append, stripPrefix_append] at hpath
  exact NonceDO.percentEncode_injective (Option.some.inj hpath)

/-! ## Runs of checks and stores -/

/-- The two calls a route makes. -/
inductive Call
  | check (key endpoint requestFingerprint : String)
  | store (key responseBody : String) (statusCode : Nat) (endpoint : String)
      (ttlSecs : Option Nat) (requestFingerprint : String)

/-- Serve a call; a check returns the response to replay. -/
def serveCall (app : AppState) : Call → Handler (Option CachedResponse)
  | .check key endpoint fingerprint => checkIdempotency app key endpoint fingerprint
  | .store key responseBody statusCode endpoint ttlSecs fingerprint => do
    storeIdempotencyResponse app key responseBody statusCode endpoint ttlSecs fingerprint
    return none

/-- What the outcome of a call says. -/
def CallOutcome (app : AppState) (call : Call) (h : History Op Res)
    (r : Except ApiError (Option CachedResponse)) : Prop :=
  match call with
  | .check key endpoint _ => CheckOutcome app endpoint key h r
  | .store .. => r = .ok none

theorem guarded_serveCall (app : AppState) (call : Call) :
    (serveCall app call).Guarded (fun _ op => IsIdempotency op) (CallOutcome app call) [] := by
  cases call with
  | check key endpoint fingerprint => exact guarded_checkIdempotency
  | store key responseBody statusCode endpoint ttlSecs fingerprint =>
    refine guarded_storeIdempotencyResponse.seq ?_ ?_ ?_
    · rintro h' op - rfl
      trivial
    · intro h' _ _ _
      exact rfl
    · intro h' e _ hr
      cases hr

/-- **The key never agrees on the wire.** The object answers 400 to every request at the key
of any endpoint label, and in every run of checks and stores, from any state, a check that has
finished was turned away: no stored response is ever found. -/
theorem wireAgreement_never (app : AppState) (endpoint key : String) :
    (∀ s now f method, IdempotencyDO.fetch s now f (keyPath (scopedKey endpoint key)) method =
      (some (.status 400), s)) ∧
    ∀ (rules : Rules (service app) Call) (init : State → Prop)
      (p : Pool (service app) Call ApiError (Option CachedResponse)),
      Run (serveCall app) rules init p → ∀ i fingerprint r,
      .arrive i (.check key endpoint fingerprint) ∈ p.world.trace → p.outcome i = some r →
      r = .error (.serviceUnavailable (some "Idempotency check unavailable, please retry")) := by
  refine ⟨fun s now f method => IdempotencyDO.fetch_percentEncode s now f _ method, ?_⟩
  intro rules init p hrun i fingerprint r harrive ho
  obtain ⟨call, hm, hout⟩ := hrun.outcome (guarded_serveCall app) ho
  rw [hrun.arrive_unique hm harrive] at hout
  rcases hout with ⟨reply, hm, hstatus⟩ | hr
  · obtain ⟨s, c, -, hc⟩ := mem_own.mp hm
    rcases perform_keyPath s c with hnone | hsome
    · exact absurd (hc.symm.trans hnone) (by simp)
    · exact absurd (Option.some.inj (hc.symm.trans hsome)) (hstatus 400)
  · exact hr

/-- A header that `extract_idempotency_key` accepts for `POST /v1/verify`, and the object's
answer to the key it becomes. -/
theorem wireAgreement_verify_rejected :
    extractIdempotencyKey .ascii
        (fun name => if name = "Idempotency-Key" then
          some "550E8400-e29b-41d4-a716-446655440000" else none) "POST" "/v1/verify" =
      .ok (some "POST:/v1/verify:550e8400-e29b-41d4-a716-446655440000") ∧
    (IdempotencyDO.fetch (fun _ => none) 1000 .none
      (keyPath (scopedKey "verify" "POST:/v1/verify:550e8400-e29b-41d4-a716-446655440000"))
      .get).1 = some (.status 400) := by
  refine ⟨?_, ?_⟩
  · rfl
  · rw [keyPath, IdempotencyDO.fetch_percentEncode]

end Idempotency

end ProviiVerifier
