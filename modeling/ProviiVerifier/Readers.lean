/-
  The requests that read the record of a challenge: a submission, the two redemptions, and the
  status poll of a hosted session.

  Proved: they write records as the routes do, and a poll writes none (`routeOp_reader`); a session
  they write is one that was read with a counter moved (`sessionWrite_reader`). A poll that is
  answered reads the record and then the clock (`PollOutcome`).
-/
import ProviiVerifier.HostedStatus
import ProviiVerifier.Routine

namespace ProviiVerifier

open Interleaving Prog

/-- The requests that read the record of a challenge. -/
inductive Reader
  | verify (req : SubmitProofRequest)
  | redeem (req : RedeemRequest)
  | hostedRedeem (req : HostedRedeemRequest)
  | hostedStatus (req : StatusRequest)

/-- What a reader is answered. -/
inductive Told
  | response (r : Response)
  | status (r : StatusResponse)
  deriving DecidableEq

namespace Reader

variable {app : AppState} {h h' : History Op Res}

/-- The handler of a reader. -/
def handle (app : AppState) : Reader → Handler Told
  | .verify req => do return .response (.submitted (← Verify.submitVerification app req))
  | .redeem req => do return .response (.redeemed (← Redeem.redeemChallenge app req))
  | .hostedRedeem req => do
    return .response (.hostedRedeemed (← HostedRedeem.handleHostedRedeem app req))
  | .hostedStatus req => do return .status (← HostedStatus.handleHostedStatus app req)

/-- The records a reader may write. -/
def Writes (app : AppState) : Reader → History Op Res → Uuid → CachedChallenge → Prop
  | .verify req => Verify.Writes app req
  | .redeem req => Redeem.Writes app req
  | .hostedRedeem req => HostedRedeem.Writes app req
  | .hostedStatus _ => fun _ _ _ => False

/-- A counter of a session moves; nothing else of it changes. -/
def Counted (read session : HostedSession) : Prop :=
  session = read.incrementStatusChecks ∨ session = read.incrementRedeemAttempts

/-- The last two operations of a poll: the record was answered, and then the clock. -/
def Reported (h : History Op Res) (id : Uuid) (c : CachedChallenge) (now : Nat) : Prop :=
  ∃ past, h = ⟨.timestamp, now⟩ ::
    ⟨.challengeDO id (.get id.toString), some (.record c)⟩ :: past

/-- What a poll comes to. -/
def PollOutcome (req : StatusRequest) (h : History Op Res) (r : Except ApiError StatusResponse) :
    Prop :=
  ∀ response, r = .ok response → ∃ session id c now,
    (⟨.getSession req.sessionId, .ok (some session)⟩ : Sigma Res) ∈ h ∧
    parseUuid session.verifierChallengeId = some id ∧ Reported h id c now ∧
    response = HostedStatus.response req.sessionId session.incrementStatusChecks c now

/-- What a reader comes to. -/
def Outcome : Reader → History Op Res → Except ApiError Told → Prop
  | .hostedStatus req => fun h r => ∃ r', PollOutcome req h r' ∧ r = r'.map .status
  | _ => fun _ r => ∀ response, r ≠ .ok (.status response)

/-! ## The poll -/

theorem PollOutcome.error {req : StatusRequest} {e : ApiError} : PollOutcome req h (.error e) :=
  fun _ hr => nomatch hr

/-- **A poll that is answered** reads the record and then the clock. -/
theorem guarded_handleHostedStatus_reported (req : StatusRequest) :
    (HostedStatus.handleHostedStatus app req).Guarded (fun _ _ => True) (PollOutcome req) [] := by
  unfold HostedStatus.handleHostedStatus
  split
  · exact .error
  · split
    · exact .error
    · split
      · exact .error
      · refine guarded_await_bind.mpr ⟨trivial, fun answer => ?_⟩
        rcases answer with e | _ | session
        · exact .error
        · exact .error
        · refine guarded_ofExcept_bind (fun _ _ => ?_) fun _ _ => .error
          dsimp only
          split
          · exact .error
          · refine SessionStore.guarded_updateSessionKvChecked.seq_attempt
              (fun _ _ _ _ => trivial) ?_
            intro h1 _ hg1 _
            have hread : (⟨.getSession req.sessionId, .ok (some session)⟩ : Sigma Res) ∈ h1 :=
              hg1.suffix.subset List.mem_cons_self
            unfold HostedStatus.reportChallenge
            split
            · exact .error
            · next id hnames =>
              refine guarded_bind.mpr (guarded_attempt.mpr
                (ChallengeStore.guarded_get_newest.imp (fun _ _ _ => trivial) ?_))
              intro h2 r hnewest
              rcases r with e | _ | c
              · exact .error
              · exact .error
              · obtain ⟨past, rfl, hs⟩ := hnewest c rfl
                show Guarded (fun _ _ => True) (PollOutcome req) _ (await .timestamp >>= _)
                refine guarded_await_bind.mpr ⟨trivial, fun now => ?_⟩
                intro response hresponse
                cases hresponse
                refine ⟨session, id, c, now, ?_, hnames, ⟨past, rfl⟩, rfl⟩
                exact List.mem_cons_of_mem _ (List.mem_cons_of_mem _ (hs.subset hread))

theorem routeOp_handleHostedStatus (req : StatusRequest) :
    (HostedStatus.handleHostedStatus app req).Guarded
      (fun _ op => RouteOp app (fun _ _ => False) op) (fun _ _ => True) [] := by
  unfold HostedStatus.handleHostedStatus
  split
  · trivial
  · split
    · trivial
    · split
      · trivial
      · refine guarded_await_bind.mpr ⟨trivial, fun answer => ?_⟩
        rcases answer with e | _ | session
        · trivial
        · trivial
        · refine guarded_ofExcept_bind (fun _ _ => ?_) fun _ _ => trivial
          dsimp only
          split
          · trivial
          · refine SessionStore.guarded_updateSessionKvChecked.seq_attempt
              (fun _ _ _ => routeOp_update) ?_
            intro h1 _ _ _
            unfold HostedStatus.reportChallenge
            split
            · trivial
            · refine ChallengeStore.guarded_get.seq_attempt (fun _ _ _ => routeOp_get) ?_
              intro h2 r _ _
              rcases r with e | _ | c
              · trivial
              · trivial
              · exact guarded_await_bind.mpr ⟨trivial, fun _ => trivial⟩

/-! ## The readers -/

/-- No route tells a status. -/
theorem ne_status {α : Type} {f : α → Response} {r : Except ApiError α}
    (response : StatusResponse) :
    r.map (fun a => Told.response (f a)) ≠ .ok (.status response) := by
  cases r with
  | error e => exact nofun
  | ok a => exact nofun

theorem routeOp_reader (app : AppState) (reader : Reader) :
    (reader.handle app).Guarded (fun h op => RouteOp app (reader.Writes app h) op)
      reader.Outcome [] := by
  cases reader with
  | verify req =>
    refine ((Verify.guarded_submitVerification app req).wrap _).imp (fun _ _ h => h) ?_
    rintro h _ ⟨r, -, rfl⟩ response
    exact ne_status (f := .submitted) response
  | redeem req =>
    refine ((Redeem.guarded_redeemChallenge app req).wrap _).imp (fun _ _ h => h) ?_
    rintro h _ ⟨r, -, rfl⟩ response
    exact ne_status (f := .redeemed) response
  | hostedRedeem req =>
    refine ((HostedRedeem.guarded_handleHostedRedeem app req).wrap _).imp (fun _ _ h => h) ?_
    rintro h _ ⟨r, -, rfl⟩ response
    exact ne_status (f := .hostedRedeemed) response
  | hostedStatus req =>
    refine (((routeOp_handleHostedStatus req).and
      (guarded_handleHostedStatus_reported req)).wrap _).imp (fun _ _ h => h.1) ?_
    rintro h _ ⟨r, ⟨-, hout⟩, rfl⟩
    exact ⟨r, hout, rfl⟩

/-- A submission and a redemption by the client use no session. -/
theorem keepsSessions_of_uses {charge : Prop} {entry : String → String → Prop} {op : Op}
    (hop : Uses charge entry False op) : KeepsSessions op := by
  rintro key session rfl
  exact hop

theorem sessionWrite_reader (app : AppState) (reader : Reader) :
    (reader.handle app).Guarded (SessionWrite Counted) (fun _ _ => True) [] := by
  have hkeeps {p : Handler Told} (hp : p.Only KeepsSessions) :
      p.Guarded (SessionWrite Counted) (fun _ _ => True) [] :=
    hp.guarded.imp (fun _ _ hop => hop.sessionWrite) fun _ _ h => h
  have hcounted {change : HostedSession → HostedSession → Prop} {h : History Op Res} {op : Op}
      (hop : SessionWrite change h op) (hchange : ∀ read session, change read session →
        Counted read session) : SessionWrite Counted h op := by
    intro key session heq
    obtain ⟨key', read, hread, hkey, hc⟩ := hop key session heq
    exact ⟨key', read, hread, hkey, hchange read session hc⟩
  cases reader with
  | verify req =>
    refine hkeeps (Only.bind ?_ fun _ => trivial)
    exact (Verify.only_submitVerification req).imp fun _ => keepsSessions_of_uses
  | redeem req =>
    refine hkeeps (Only.bind ?_ fun _ => trivial)
    have huses : (Redeem.redeemChallenge app req).Only (Uses True (fun _ _ => False) False) :=
      Redeem.only_redeemChallenge req
    exact huses.imp fun _ => keepsSessions_of_uses
  | hostedRedeem req =>
    refine ((guarded_handleHostedRedeem_attempt req).wrap _).imp ?_ fun _ _ _ => trivial
    exact fun _ _ hop => hcounted hop fun _ _ heq => .inr heq
  | hostedStatus req =>
    refine ((guarded_handleHostedStatus_check req).wrap _).imp ?_ fun _ _ _ => trivial
    exact fun _ _ hop => hcounted hop fun _ _ heq => .inl heq

end Reader

end ProviiVerifier
