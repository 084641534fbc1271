/-
  What a verdict rests on, in every interleaved run.

  Every handler writes a copy of a record it read before, so the states a record goes through are
  backed by what some request found when it made its checks, whatever happened to the record in
  between.

  Proved:
    `verdict_sound`: a record in `ProofOkWaitingForRedeem` or `Verified` is backed by a submission
      that passed every check against the original record.
    `redemption_sound`: a record in `Verified` is backed by a redemption of its owner, or of a
      hosted session for it, whose code verifier hashes to the original code challenge.
-/
import ProviiVerifier.Original

namespace ProviiVerifier

open Interleaving Prog

variable {app : AppState} {s₀ : State} {R : Rules (service app) Request}
  {p : Pool (service app) Request ApiError Response}

/-! ## States that need backing -/

/-- A record in one of the states `K` has its backing. -/
def Backed (K : ChallengeState → Prop)
    (X : List (Event (service app) Request) → Uuid → Prop)
    (tr : List (Event (service app) Request)) (id : Uuid) (c : CachedChallenge) : Prop :=
  K c.state → X tr id

/-- An update to one of the states `K` has its backing. -/
def BackedUpdate (K : ChallengeState → Prop)
    (X : List (Event (service app) Request) → Uuid → Prop)
    (tr : List (Event (service app) Request)) (id : Uuid) (upd : ChallengeUpdate) : Prop :=
  K upd.state → X tr id

/-- **Backing rule**: when every write to a state in `K` has its backing, so has every record. -/
theorem recordRule_backed {K : ChallengeState → Prop}
    {X : List (Event (service app) Request) → Uuid → Prop} (hfresh : Fresh s₀)
    (hpending : ¬ K .pending) (hcons : ∀ e tr id, X tr id → X (e :: tr) id)
    (hwrites : ∀ w i req id c, Reached (handle app) R (· = s₀) w →
      RecordInv (Backed K X) (BackedUpdate K X) w → .arrive i req ∈ w.trace →
      Request.Writes app req (own i w.trace) id c → K c.state → X w.trace id) :
    RecordRule (handle app) R (· = s₀) (Request.Writes app) (Backed K X) (BackedUpdate K X) := by
  refine ⟨?_, ?_, ?_, ?_, ?_, ?_⟩
  · intro e tr id c h hK
    exact hcons e tr id (h hK)
  · intro e tr id upd h hK
    exact hcons e tr id (h hK)
  · rintro s rfl
    refine ⟨hfresh.inflight, ?_⟩
    intro id c hc hK
    rw [hfresh.pending id c hc] at hK
    exact absurd hK hpending
  · intro w i req id c hreach hinv harrive hw hK
    exact hwrites w i req id c hreach hinv harrive hw hK
  · intro w i req id c ch hreach hinv harrive hw hK
    exact hcons _ _ _ (hwrites w i req id c hreach hinv harrive hw hK)
  · intro w id e upd _ _ hupd _ _ hK
    exact hupd hK

/-! ## The submission behind a verdict -/

/-- What the submission behind a verdict went through, against the original record. -/
structure Evidence (app : AppState) (req : SubmitProofRequest) (c₀ : CachedChallenge)
    (h : History Op Res) : Prop where
  secret : req.submitSecret.val = c₀.submitSecret
  rpChallenge : req.rpChallenge.val = c₀.rpChallenge
  cutoffDays : req.cutoffDays = c₀.cutoffDays
  verifyingKeyId : req.verifyingKeyId = c₀.verifyingKeyId
  proof : ∃ result, app.verifyAgeSnark req.proof.val c₀.proofDirection.isOver c₀.cutoffDays
    (app.blake2s256 c₀.rpChallenge) req.issuer.val req.credNullifier.val c₀.verifyingKeyId =
      .ok result
  unbanned : ⟨.isBanned req.credNullifier.val, .ok false⟩ ∈ h
  issuer : ∃ issuer, ⟨.lookupIssuer (Verify.issuerKeyHash app req), .ok issuer⟩ ∈ h ∧
    issuer.revoked = false
  policy : ∃ policy, ⟨.getPolicyDetail c₀.origin, .ok (.found policy)⟩ ∈ h ∧
    (policy.allowedIssuers = [] ∨
      app.base64Url (Verify.issuerKeyHash app req) ∈ policy.allowedIssuers)

theorem Evidence.mono {req : SubmitProofRequest} {c₀ : CachedChallenge} {h h' : History Op Res}
    (hs : h <:+ h') (he : Evidence app req c₀ h) : Evidence app req c₀ h' := by
  obtain ⟨issuer, hissuer, hrevoked⟩ := he.issuer
  obtain ⟨policy, hpolicy, hallowed⟩ := he.policy
  exact ⟨he.secret, he.rpChallenge, he.cutoffDays, he.verifyingKeyId, he.proof,
    hs.subset he.unbanned, ⟨issuer, hs.subset hissuer, hrevoked⟩,
    ⟨policy, hs.subset hpolicy, hallowed⟩⟩

/-- The grounds of a submission, against a record of the same challenge that has the secret of the
one it read, if that has any. -/
theorem Verify.Grounds.evidence_of_same {req : SubmitProofRequest} {c c₀ : CachedChallenge}
    {h : History Op Res} (hg : Verify.Grounds app req c h) (hsame : c.SameChallenge c₀)
    (hsecret : c.submitSecret ≠ [] → c.submitSecret = c₀.submitSecret) :
    Evidence app req c₀ h := by
  obtain ⟨policy, hpolicy, hchecked⟩ := hg.policy
  have hfits := hchecked.fits
  obtain ⟨result, hproof⟩ := hg.proof
  have hlen : c.submitSecret ≠ [] := by
    intro hempty
    have h32 := req.submitSecret.property
    rw [hfits.secret, hempty] at h32
    cases h32
  have hrp : req.rpChallenge.val = c₀.rpChallenge := hfits.rpChallenge.trans hsame.rpChallenge
  refine ⟨hfits.secret.trans (hsecret hlen), hrp,
    hfits.cutoffDays.trans hsame.cutoffDays, hfits.verifyingKeyId.trans hsame.verifyingKeyId,
    ⟨result, ?_⟩, hg.unbanned, hg.issuer, ⟨policy, ?_, hfits.issuer⟩⟩
  · unfold Verify.verifySnark at hproof
    rw [hrp, hsame.proofDirection, hsame.cutoffDays, hsame.verifyingKeyId] at hproof
    exact hproof
  · rw [← hsame.origin]
    exact hpolicy

/-- The grounds of a submission, against the original of the record it read. -/
theorem Verify.Grounds.evidence {req : SubmitProofRequest} {c c₀ : CachedChallenge}
    {h : History Op Res} (hg : Verify.Grounds app req c h)
    (hframed : ChallengeDO.Framed c₀ c) : Evidence app req c₀ h :=
  hg.evidence_of_same hframed.same hframed.secret_of_length

/-- A submission of the run proves the challenge. -/
def Proved (s₀ : State) (tr : List (Event (service app) Request)) (id : Uuid) : Prop :=
  ∃ i req c₀, .arrive i (.verify req) ∈ tr ∧ req.challengeId = id ∧ Original s₀ tr id c₀ ∧
    Evidence app req c₀ (own i tr)

/-- The states a submission leads to. -/
def Positive (s : ChallengeState) : Prop := s = .proofOkWaitingForRedeem ∨ s = .verified

theorem not_positive_pending : ¬ Positive .pending := by
  rintro (h | h)
  · cases h
  · cases h

theorem Proved.cons {tr : List (Event (service app) Request)} {id : Uuid} (h : Proved s₀ tr id)
    (e : Event (service app) Request) : Proved s₀ (e :: tr) id := by
  obtain ⟨i, req, c₀, harrive, hid, horiginal, hevidence⟩ := h
  exact ⟨i, req, c₀, List.mem_cons_of_mem _ harrive, hid, horiginal.cons e,
    hevidence.mono (own_suffix_cons i e tr)⟩

/-- **A write to a positive state is proved**: by the submission itself, or because the
redemption read a proven record. -/
theorem writes_proved {w : World (service app) Request}
    (hframed : RecordInv (FromOriginal s₀) (fun _ _ _ => True) w)
    (hinv : RecordInv (Backed Positive (Proved s₀)) (BackedUpdate Positive (Proved s₀)) w)
    {i : Nat} {req : Request} (harrive : .arrive i req ∈ w.trace) {id : Uuid}
    {c : CachedChallenge} (hw : req.Writes app (own i w.trace) id c) (hpos : Positive c.state) :
    Proved s₀ w.trace id := by
  cases req with
  | create r =>
    have hw : CreateChallenge.Writes app r (own i w.trace) id c := hw
    rw [hw.pending] at hpos
    exact absurd hpos not_positive_pending
  | verify r =>
    have hw : Verify.Writes app r (own i w.trace) id c := hw
    cases hw with
    | fail hid hgated => simp [Positive, CachedChallenge.fail] at hpos
    | expire hid hgated => simp [Positive, CachedChallenge.expire] at hpos
    | @accept d issuer result now hid hgated hgrounds htime =>
      obtain ⟨c₀, horiginal, hf⟩ := hframed.read i id d (hid ▸ hgrounds.read.1)
      exact ⟨i, r, c₀, harrive, hid.symm, horiginal, hgrounds.evidence hf⟩
  | redeem r =>
    obtain ⟨rfl, d, now, -, -, hgrounds, -⟩ := hw
    exact hinv.read i _ d hgrounds.read.1 (.inl hgrounds.state)
  | hostedRedeem r =>
    obtain ⟨d, now, -, -, hgrounds, -⟩ := hw
    exact hinv.read i id d hgrounds.read.1 (.inl hgrounds.state)

theorem Run.proved (hfresh : Fresh s₀) (hr : Run (handle app) R (· = s₀) p) :
    RecordInv (Backed Positive (Proved s₀)) (BackedUpdate Positive (Proved s₀)) p.world := by
  refine Run.recordInv (guarded_handle app) ?_ hr
  refine recordRule_backed hfresh not_positive_pending (fun e _ _ h => h.cons e) ?_
  rintro w i req id c ⟨q, hq, rfl⟩ hinv harrive hw hpos
  exact writes_proved (Run.framed hfresh hq) hinv harrive hw hpos

/-- **Verdict soundness.** In every run, a stored record in `ProofOkWaitingForRedeem` or
`Verified` comes from one original, and some submission of the run for the challenge passed every
check against it. -/
theorem verdict_sound (hfresh : Fresh s₀)
    (hr : Run (handle app) (anyOrder app Request) (· = s₀) p) {id : Uuid} {c : CachedChallenge}
    (hc : State.record p.world.state id = some c)
    (hstate : c.state = .proofOkWaitingForRedeem ∨ c.state = .verified) :
    ∃ c₀, Original s₀ p.world.trace id c₀ ∧ (∀ d, Original s₀ p.world.trace id d → d = c₀) ∧
      c.SameChallenge c₀ ∧ ∃ i req, .arrive i (.verify req) ∈ p.world.trace ∧
        req.challengeId = id ∧ Evidence app req c₀ (own i p.world.trace) := by
  have horiginals := Run.originalInv hfresh (fun _ _ _ _ h => h) hr
  obtain ⟨c₀, horiginal, hframed⟩ := (Run.framed hfresh hr).stored id c hc
  obtain ⟨i, req, d, harrive, hid, hd, hevidence⟩ := (Run.proved hfresh hr).stored id c hc hstate
  have hdc : d = c₀ := horiginals.unique id d c₀ hd horiginal
  subst hdc
  exact ⟨d, hd, fun e he => horiginals.unique id e d he hd, hframed.same, i, req, harrive, hid,
    hevidence⟩

/-- The sample record, proven by the wallet's submission. -/
theorem verdict_sound_submission :
    ∃ p : Pool (service .sample) Request ApiError Response,
      Run (handle .sample) (anyOrder .sample Request) (· = Sample.state) p ∧
        (∃ c, State.record p.world.state CachedChallenge.sample.id = some c ∧
          c.state = .proofOkWaitingForRedeem) ∧
        ∃ c₀, Original Sample.state p.world.trace CachedChallenge.sample.id c₀ ∧
          ∃ i req, .arrive i (.verify req) ∈ p.world.trace ∧
            req.challengeId = CachedChallenge.sample.id ∧
              Evidence .sample req c₀ (own i p.world.trace) := by
  have hrun : ∃ p : Pool (service .sample) Request ApiError Response,
      Run (handle .sample) (anyOrder .sample Request) (· = Sample.state) p ∧
        (State.record p.world.state CachedChallenge.sample.id).map (·.state) =
          some .proofOkWaitingForRedeem :=
    Run.of_replay Sample.state (Sample.performs 0 (.verify Sample.submission) 9) rfl
      (by decide +kernel)
  obtain ⟨p, hr, hstate⟩ := hrun
  obtain ⟨c, hc, hstate⟩ := Option.map_eq_some_iff.mp hstate
  obtain ⟨c₀, horiginal, -, -, hsubmission⟩ :=
    verdict_sound Sample.fresh_state hr hc (.inl hstate)
  exact ⟨p, hr, ⟨c, hc, hstate⟩, c₀, horiginal, hsubmission⟩

/-! ## The redemption behind `Verified` -/

/-- The request redeemed the challenge, against its original record. -/
inductive Redeems (app : AppState) (id : Uuid) (c₀ : CachedChallenge) (h : History Op Res) :
    Request → Prop
  /-- The owner of the challenge. -/
  | expert {req : RedeemRequest} (hid : req.sid = id)
      (hread : ∃ c, ChallengeStore.Read id c h ∧ c.state = .proofOkWaitingForRedeem)
      (hpkce : app.sha256 (utf8Bytes req.codeVerifier.text) = c₀.codeChallengeBytes)
      (howner : ∃ clientId, c₀.clientId = some clientId ∧
        AuthenticatedAs app req.headers clientId h) : Redeems app id c₀ h (.redeem req)
  /-- A session for the challenge, at its origin. -/
  | hosted {req : HostedRedeemRequest}
      (hread : ∃ c, ChallengeStore.Read id c h ∧ c.state = .proofOkWaitingForRedeem)
      (hpkce : app.sha256 (utf8Bytes req.codeVerifier) = c₀.codeChallengeBytes)
      (horigin : req.headers "Origin" = some c₀.origin)
      (hsession : ∃ session, ⟨.getSession req.sessionId, .ok (some session)⟩ ∈ h ∧
        parseUuid session.verifierChallengeId = some id ∧
        req.headers "X-Public-Key" = some session.publicKey) :
      Redeems app id c₀ h (.hostedRedeem req)

theorem Redeems.mono {id : Uuid} {c₀ : CachedChallenge} {h h' : History Op Res} {req : Request}
    (hs : h <:+ h') (hr : Redeems app id c₀ h req) : Redeems app id c₀ h' req := by
  cases hr with
  | expert hid hread hpkce howner =>
    obtain ⟨c, hread, hstate⟩ := hread
    obtain ⟨clientId, hclient, hauth⟩ := howner
    exact .expert hid ⟨c, hread.mono hs, hstate⟩ hpkce ⟨clientId, hclient, hauth.mono hs⟩
  | hosted hread hpkce horigin hsession =>
    obtain ⟨c, hread, hstate⟩ := hread
    obtain ⟨session, hm, hnames, hkey⟩ := hsession
    exact .hosted ⟨c, hread.mono hs, hstate⟩ hpkce horigin ⟨session, hs.subset hm, hnames, hkey⟩

/-- The grounds of a redemption by the owner, against the original of the record it read. -/
theorem Redeem.Grounds.redeems {req : RedeemRequest} {c c₀ : CachedChallenge}
    {h : History Op Res} (hg : Redeem.Grounds app req c h)
    (hsame : c.SameChallenge c₀) : Redeems app req.sid c₀ h (.redeem req) := by
  refine .expert rfl ⟨c, hg.read, hg.state⟩ (hg.pkce.trans hsame.codeChallengeBytes) ?_
  obtain ⟨clientId, hclient, hauth⟩ := hg.owner
  exact ⟨clientId, hsame.clientId.symm.trans hclient, hauth⟩

/-- The grounds of a redemption through a session. The origin was checked on the first reading,
whose original is the same. -/
theorem HostedRedeem.Grounds.redeems {req : HostedRedeemRequest} {id : Uuid}
    {c c₀ : CachedChallenge} {h : History Op Res} (hg : HostedRedeem.Grounds app req id c h)
    (hsame : ∀ d, ChallengeStore.Read id d h → d.SameChallenge c₀) :
    Redeems app id c₀ h (.hostedRedeem req) := by
  obtain ⟨session, hsession⟩ := hg.session
  obtain ⟨first, hfirst, hmatch⟩ := hg.origin
  refine .hosted ⟨c, hg.read, hg.state⟩ (hg.pkce.trans (hsame c hg.read).codeChallengeBytes) ?_
    ⟨session, hsession.read, hsession.names, hsession.publicKey⟩
  have horigin : HostedRedeem.originOf req.headers = session.origin := by
    simp [HostedRedeem.originOf, hsession.origin]
  rw [hsession.origin, ← horigin, ← hmatch, (hsame first hfirst).origin]

/-- A request of the run redeemed the challenge. -/
def Redeemed (s₀ : State) (tr : List (Event (service app) Request)) (id : Uuid) : Prop :=
  ∃ i req c₀, .arrive i req ∈ tr ∧ Original s₀ tr id c₀ ∧ Redeems app id c₀ (own i tr) req

theorem Redeemed.cons {tr : List (Event (service app) Request)} {id : Uuid}
    (h : Redeemed s₀ tr id) (e : Event (service app) Request) : Redeemed s₀ (e :: tr) id := by
  obtain ⟨i, req, c₀, harrive, horiginal, hredeems⟩ := h
  exact ⟨i, req, c₀, List.mem_cons_of_mem _ harrive, horiginal.cons e,
    hredeems.mono (own_suffix_cons i e tr)⟩

/-- **A write of `Verified` comes from a redemption.** -/
theorem writes_redeemed {w : World (service app) Request}
    (hframed : RecordInv (FromOriginal s₀) (fun _ _ _ => True) w) (horiginals : OriginalInv s₀ w)
    {i : Nat} {req : Request} (harrive : .arrive i req ∈ w.trace) {id : Uuid}
    {c : CachedChallenge} (hw : req.Writes app (own i w.trace) id c)
    (hverified : c.state = .verified) : Redeemed s₀ w.trace id := by
  cases req with
  | create r =>
    have hw : CreateChallenge.Writes app r (own i w.trace) id c := hw
    rw [hw.pending] at hverified
    cases hverified
  | verify r =>
    have hw : Verify.Writes app r (own i w.trace) id c := hw
    cases hw with
    | fail hid hgated => cases hverified
    | expire hid hgated => cases hverified
    | accept hid hgated hgrounds htime => cases hverified
  | redeem r =>
    obtain ⟨rfl, d, now, -, -, hgrounds, -⟩ := hw
    obtain ⟨c₀, horiginal, hf⟩ := hframed.read i _ d hgrounds.read.1
    exact ⟨i, _, c₀, harrive, horiginal, hgrounds.redeems hf.same⟩
  | hostedRedeem r =>
    obtain ⟨d, now, -, -, hgrounds, -⟩ := hw
    obtain ⟨c₀, horiginal, -⟩ := hframed.read i id d hgrounds.read.1
    refine ⟨i, _, c₀, harrive, horiginal, hgrounds.redeems ?_⟩
    intro e he
    obtain ⟨c₁, horiginal', hf⟩ := hframed.read i id e he.1
    rw [horiginals.unique id c₀ c₁ horiginal horiginal']
    exact hf.same

theorem Run.redeemed (hfresh : Fresh s₀) (hcall : ∀ w i op c, R.call w i op c →
    freshIds w.state op c) (hr : Run (handle app) R (· = s₀) p) :
    RecordInv (Backed (· = .verified) (Redeemed s₀))
      (BackedUpdate (· = .verified) (Redeemed s₀)) p.world := by
  refine Run.recordInv (guarded_handle app) ?_ hr
  refine recordRule_backed hfresh (by simp) (fun e _ _ h => h.cons e) ?_
  rintro w i req id c ⟨q, hq, rfl⟩ _ harrive hw hverified
  exact writes_redeemed (Run.framed hfresh hq) (Run.originalInv hfresh hcall hq) harrive hw
    hverified

/-- **Redemption soundness.** In every run, a stored record in `Verified` comes from one original,
and some request of the run redeemed the challenge against it. -/
theorem redemption_sound (hfresh : Fresh s₀)
    (hr : Run (handle app) (anyOrder app Request) (· = s₀) p) {id : Uuid} {c : CachedChallenge}
    (hc : State.record p.world.state id = some c) (hstate : c.state = .verified) :
    ∃ c₀, Original s₀ p.world.trace id c₀ ∧ (∀ d, Original s₀ p.world.trace id d → d = c₀) ∧
      c.SameChallenge c₀ ∧ ∃ i req, .arrive i req ∈ p.world.trace ∧
        Redeems app id c₀ (own i p.world.trace) req := by
  have horiginals := Run.originalInv hfresh (fun _ _ _ _ h => h) hr
  obtain ⟨c₀, horiginal, hframed⟩ := (Run.framed hfresh hr).stored id c hc
  obtain ⟨i, req, d, harrive, hd, hredeems⟩ :=
    (Run.redeemed hfresh (fun _ _ _ _ h => h) hr).stored id c hc hstate
  have hdc : d = c₀ := horiginals.unique id d c₀ hd horiginal
  subst hdc
  exact ⟨d, hd, fun e he => horiginals.unique id e d he hd, hframed.same, i, req, harrive,
    hredeems⟩

/-- The sample record, proven by the wallet and redeemed by the shop's server. -/
theorem redemption_sound_redemption :
    ∃ p : Pool (service .sample) Request ApiError Response,
      Run (handle .sample) (anyOrder .sample Request) (· = Sample.state) p ∧
        (∃ c, State.record p.world.state CachedChallenge.sample.id = some c ∧
          c.state = .verified) ∧
        ∃ c₀, Original Sample.state p.world.trace CachedChallenge.sample.id c₀ ∧
          ∃ i req, .arrive i req ∈ p.world.trace ∧
            Redeems .sample CachedChallenge.sample.id c₀ (own i p.world.trace) req := by
  have hrun : ∃ p : Pool (service .sample) Request ApiError Response,
      Run (handle .sample) (anyOrder .sample Request) (· = Sample.state) p ∧
        (State.record p.world.state CachedChallenge.sample.id).map (·.state) =
          some .verified :=
    Run.of_replay Sample.state
      (Sample.performs 0 (.verify Sample.submission) 9 ++
        Sample.performs 1 (.redeem Sample.redemption) 8) rfl (by decide +kernel)
  obtain ⟨p, hr, hstate⟩ := hrun
  obtain ⟨c, hc, hstate⟩ := Option.map_eq_some_iff.mp hstate
  obtain ⟨c₀, horiginal, -, -, hredemption⟩ :=
    redemption_sound Sample.fresh_state hr hc hstate
  exact ⟨p, hr, ⟨c, hc, hstate⟩, c₀, horiginal, hredemption⟩

end ProviiVerifier
