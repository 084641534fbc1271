/-
  Whether what is charged is granted.

  A metered origin is charged before the verdict is written. When the write is then given up, or
  the answer to the charge gets lost, the request fails with its tag consumed, and a retry is turned
  away for as long as the challenge lives.

  Proved: in every run in which consume requests that deduct are answered and the write of a paid
  request is not given up before the record is stored as `Verified`, a challenge that credits were
  deducted for is stored as `Verified` until it expires, unless a request that was charged is still
  under way (`charged_then_verified`).
-/
import ProviiVerifier.Charges
import ProviiVerifier.Original
import ProviiVerifier.Billing
import ProviiVerifier.RedeemRetry

namespace ProviiVerifier

open Interleaving Prog

variable {app : AppState}

/-! ## What is stored, written and paid -/

/-- The challenge is stored as verified. -/
def VerifiedIn (s : State) (id : Uuid) : Prop :=
  (s.record id).map (·.state) = some .verified

instance (s : State) (id : Uuid) : Decidable (VerifiedIn s id) :=
  inferInstanceAs (Decidable (_ = _))

/-- The challenge that a verification id names is stored as verified. -/
def VerdictFor (s : State) (verificationId : String) : Prop :=
  ∀ id ∈ parseUuid verificationId, VerifiedIn s id

instance (s : State) (verificationId : String) : Decidable (VerdictFor s verificationId) :=
  inferInstanceAs (Decidable (∀ id ∈ parseUuid verificationId, VerifiedIn s id))

/-- The request writes a verified record. -/
def writesVerdict : ChallengeDO.Request → Bool
  | .create _ body => body.value.any (·.state = .verified)
  | .update _ body => body.value.any (·.state = .verified)
  | _ => false

/-- A `put` goes on with a create. -/
def goesOn : ChallengeDO.Request → ChallengeDO.Reply → Bool
  | .update _ _, .status code => code = 404
  | _, _ => false

/-- A settled answer to a consume request. -/
def paidEntry : Sigma Res → Bool
  | ⟨.credits _ _, some reply⟩ => decide (Credits.Settled (Credits.parseConsumeResponse reply))
  | _ => false

/-- A write of a verified record. -/
def verdictEntry : Sigma Res → Bool
  | ⟨.challengeDO _ req, _⟩ => writesVerdict req
  | _ => false

/-- The request waits for its fallback to HTTP. -/
def awaitsFallback (verificationId : String) : History Op Res → Bool
  | ⟨.credits true req, none⟩ :: _ => req.verificationId = verificationId
  | _ => false

/-! ## The rules -/

section Rules

variable (app : AppState) (s : State) (h : History Op Res)

/-- A consume request that finds or leaves its credits deducted is answered so, over HTTP at the
latest, and comes before the verdict is written or finds it stored. -/
def ChargeAnswered (binding : Bool) (req : ConsumeCreditsRequest)
    (c : Choice (.credits binding req)) : Prop :=
  let r := perform app s (.credits binding req) c
  req.verificationId ∈ r.2.deducted →
    (∀ reply ∈ r.1, Credits.Settled (Credits.parseConsumeResponse reply)) ∧
    (r.1 = none → binding = true) ∧
    (h.any verdictEntry = true → VerdictFor r.2 req.verificationId)

instance instDecidableChargeAnswered (binding : Bool) (req : ConsumeCreditsRequest)
    (c : Choice (.credits binding req)) : Decidable (ChargeAnswered app s h binding req c) :=
  inferInstanceAs (Decidable (_ → _))

/-- An answered write of a paid verdict stored it, unless the `put` goes on. -/
def WriteStored (id : Uuid) (req : ChallengeDO.Request) (c : Choice (.challengeDO id req)) : Prop :=
  let r := perform app s (.challengeDO id req) c
  writesVerdict req = true → h.any paidEntry = true →
    ∀ reply ∈ r.1, VerifiedIn r.2 id ∨ goesOn req reply = true

instance instDecidableWriteStored (id : Uuid) (req : ChallengeDO.Request)
    (c : Choice (.challengeDO id req)) : Decidable (WriteStored app s h id req c) :=
  inferInstanceAs (Decidable (_ → _ → _))

/-- The write of a paid verdict is not given up before it is stored. -/
def NotGivenUp (left : Bool) : Prop :=
  match h with
  | ⟨.challengeDO id req, none⟩ :: past =>
    writesVerdict req = true → past.any paidEntry = true →
      (left = false ∨ ChallengeStore.maxRetries ≤ ChallengeStore.unanswered past + 1) →
        VerifiedIn s id
  | _ => True

instance instDecidableNotGivenUp (left : Bool) : Decidable (NotGivenUp s h left) := by
  unfold NotGivenUp
  split <;> infer_instance

/-- A create is not served over a verified record that cannot be read. -/
def KeepsVerdict (id : Uuid) (f : ChallengeDO.Faults) : ChallengeDO.Request → Prop
  | .create _ _ => f.recordGet = false → ¬ VerifiedIn s id
  | _ => True

instance instDecidableKeepsVerdict (id : Uuid) (f : ChallengeDO.Faults)
    (req : ChallengeDO.Request) : Decidable (KeepsVerdict s id f req) := by
  unfold KeepsVerdict
  split <;> infer_instance

/-- A request that an object serves keeps a verdict. -/
def ServedKeeps (id : Uuid) (req : ChallengeDO.Request) : Delivery ChallengeDO.Faults → Prop
  | .served f _ => KeepsVerdict s id f req
  | _ => True

instance instDecidableServedKeeps (id : Uuid) (req : ChallengeDO.Request)
    (c : Delivery ChallengeDO.Faults) : Decidable (ServedKeeps s id req c) := by
  unfold ServedKeeps
  split <;> infer_instance

/-- A late consume request deducts nothing, or for a verified record, or while its sender waits for
the fallback. -/
def LateCharge (tr : List (Event (service app) Request)) (req : ConsumeCreditsRequest) : Prop :=
  req.verificationId ∈ s.deducted ∨ VerdictFor s req.verificationId ∨
    ∃ a ∈ tr.filterMap Event.arrival, awaitsFallback req.verificationId (own a.1 tr) = true

/-- What becomes of a late request. -/
def LateRequest (tr : List (Event (service app) Request)) : Env → Prop
  | .deliver k f _ _ =>
    match s.inflight[k]? with
    | some (.challenge id req) => KeepsVerdict s id f req
    | some (.credits req) => LateCharge app s tr req
    | _ => True
  | _ => True

instance instDecidableLateRequest (tr : List (Event (service app) Request)) (e : Env) :
    Decidable (LateRequest app s tr e) :=
  match e with
  | .deliver k f _ _ => by
    unfold LateRequest LateCharge
    dsimp only
    split <;> infer_instance
  | .tick _ => .isTrue trivial
  | .nonceAlarm _ => .isTrue trivial

end Rules

/-- The verdicts of requests that are charged are stored. -/
def verdictsLand (app : AppState) : Rules (service app) Request :=
  { arrive := fun _ _ _ => True
    call := fun w i op c =>
      match op, c with
      | .credits binding req, c => ChargeAnswered app w.state (own i w.trace) binding req c
      | .challengeDO id req, c =>
        WriteStored app w.state (own i w.trace) id req c ∧ ServedKeeps w.state id req c
      | .budgetLeft, left => NotGivenUp w.state (own i w.trace) left
      | op, c => freshIds w.state op c
    env := fun w e => dateRange w.state e ∧ LateRequest app w.state w.trace e }

instance (app : AppState) : DecidableRules (verdictsLand app) :=
  { arrive := fun _ _ _ => .isTrue trivial
    call := fun w i op => by
      apply Op.casesOn (motive := fun op => ∀ c, Decidable ((verdictsLand app).call w i op c)) op
      case credits => exact instDecidableChargeAnswered app w.state (own i w.trace)
      case challengeDO =>
        exact fun id req c => @instDecidableAnd _ _
          (instDecidableWriteStored app w.state (own i w.trace) id req c)
          (instDecidableServedKeeps w.state id req c)
      case budgetLeft => exact instDecidableNotGivenUp w.state (own i w.trace)
      case newUuid => exact instDecidableFreshIds w.state .newUuid
      all_goals intros; exact .isTrue trivial
    env := fun w e => @instDecidableAnd _ _ (instDecidableDateRange w.state e)
      (instDecidableLateRequest app w.state w.trace e) }

theorem verdictsLand_freshIds {w : World (service app) Request} {i : Nat} {op : Op}
    {c : (service app).Choice op} (h : (verdictsLand app).call w i op c) :
    freshIds w.state op c := by
  cases op <;> first | exact h | trivial

/-! ## A verdict is kept -/

/-- A served request keeps a verdict that has not expired. -/
theorem verifiedIn_served {s : State} {id : Uuid} {f : ChallengeDO.Faults}
    {req : ChallengeDO.Request} (hv : VerifiedIn s id)
    (hlive : ∀ c, s.record id = some c → s.clock < c.expiresAt)
    (hkeeps : KeepsVerdict s id f req) : VerifiedIn (s.serveChallenge f id req).2 id := by
  obtain ⟨c, hc, hstate⟩ := Option.map_eq_some_iff.mp hv
  have hclock := hlive c hc
  have hstep := serveChallenge_recordStep s f id req
  rw [hc] at hstep
  unfold VerifiedIn
  generalize (s.serveChallenge f id req).2.record id = r at hstep ⊢
  cases hstep with
  | keep => exact congrArg some hstate
  | expire hexp => omega
  | delete hreq hne => exact absurd hstate hne
  | create hreq hval habs =>
    subst hreq
    obtain hnone | hread := habs
    · cases hnone
    · exact absurd hv (hkeeps hread)
  | update hreq hval htime htrans =>
    rw [hstate] at htrans
    refine congrArg some ?_
    show ChallengeUpdate.state _ = .verified
    generalize ChallengeUpdate.state _ = st at htrans ⊢
    cases st <;> first | rfl | cases htrans

theorem verifiedIn_congr {s t : State} {id : Uuid} (h : t.record id = s.record id) :
    VerifiedIn t id ↔ VerifiedIn s id := by
  unfold VerifiedIn
  rw [h]

section Kept

variable {w : World (service app) Request} {id : Uuid}

/-- An operation keeps a verdict that has not expired. -/
theorem verifiedIn_after {i : Nat} {op : Op} {c : (service app).Choice op}
    (hR : (verdictsLand app).call w i op c) (hv : VerifiedIn w.state id)
    (hlive : ∀ c, State.record w.state id = some c → State.clock w.state < c.expiresAt) :
    VerifiedIn (w.after i op c).state id := by
  by_cases hop : ∃ id' req, op = .challengeDO id' req
  · obtain ⟨id', req, rfl⟩ := hop
    have hkeeps : ServedKeeps w.state id' req c := hR.2
    cases c with
    | lost => exact hv
    | late => exact hv
    | served f answered =>
      by_cases hid : id = id'
      · subst hid
        exact verifiedIn_served hv hlive hkeeps
      · exact (verifiedIn_congr (serveChallenge_record_ne hid)).mpr hv
  · have hstep : OpStep app w.state op (perform app w.state op c).2 := perform_opStep c
    have hsame := record_congr (hstep.challenges fun id req heq => hop ⟨id, req, heq⟩) id
    exact (verifiedIn_congr hsame).mpr hv

/-- A step of the environment keeps a verdict that has not expired. -/
theorem verifiedIn_moved {e : Env} (hR : (verdictsLand app).env w e) (hv : VerifiedIn w.state id)
    (hlive : ∀ c, State.record w.state id = some c → State.clock w.state < c.expiresAt) :
    VerifiedIn (w.moved e).state id := by
  cases e with
  | tick seconds => exact hv
  | nonceAlarm shard => exact hv
  | deliver k f g h =>
    have hlate : LateRequest app w.state w.trace (.deliver k f g h) := hR.2
    unfold LateRequest at hlate
    cases hm : (State.inflight w.state)[k]? with
    | none =>
      have hstate : (w.moved (.deliver k f g h)).state = w.state := envStep_deliver_none hm
      rw [hstate]
      exact hv
    | some m =>
      have hstate : (w.moved (.deliver k f g h)).state =
          State.deliver app (State.received w.state k) f g h m := envStep_deliver hm
      rw [hstate]
      have hreceived : VerifiedIn (State.received w.state k) id := hv
      cases m with
      | challenge id' req =>
        simp only [hm] at hlate
        by_cases hid : id = id'
        · subst hid
          exact verifiedIn_served hreceived hlive hlate
        · exact (verifiedIn_congr (serveChallenge_record_ne hid)).mpr hreceived
      | nonce tag body => exact hreceived
      | idempotency shard path method => exact hreceived
      | credits req =>
        refine (verifiedIn_congr (record_congr ?_ id)).mpr hreceived
        simp only [State.deliver]
        rw [deduct_eq]

end Kept

/-! ## Charges and verdicts of a run -/

variable {s₀ : State} {p : Pool (service app) Request ApiError Response} {id : Uuid}

/-- Until it expires the challenge is stored as verified. -/
def Sealed (s₀ : State) (w : World (service app) Request) (id : Uuid) : Prop :=
  ∃ c₀, Original s₀ w.trace id c₀ ∧ (State.clock w.state < c₀.expiresAt → VerifiedIn w.state id)

/-- Request `i` was answered that the credits for the challenge are deducted. -/
def ChargedAt (tr : List (Event (service app) Request)) (i : Nat) (id : Uuid) : Prop :=
  ∃ s binding req c reply, .call i s (.credits binding req) c ∈ tr ∧
    req.verificationId = id.toString ∧ (perform app s (.credits binding req) c).1 = some reply ∧
    id.toString ∈ (perform app s (.credits binding req) c).2.deducted

/-- Request `i` was charged for the challenge: it was answered so, or is about to ask over HTTP. -/
def Charged (tr : List (Event (service app) Request)) (i : Nat) (id : Uuid) : Prop :=
  ChargedAt tr i id ∨ awaitsFallback id.toString (own i tr) = true

/-- What holds of charges and verdicts in every world of a run. -/
structure ChargeInv (s₀ : State) (w : World (service app) Request) : Prop where
  /-- A verdict that was stored stays. -/
  kept : ∀ i s op c, .call i s op c ∈ w.trace → ∀ id, VerifiedIn (perform app s op c).2 id →
    Sealed s₀ w id
  /-- Credits are deducted for a request that was charged, or after the verdict. -/
  charged : ∀ id : Uuid, id.toString ∈ State.deducted w.state → id.toString ∈ s₀.deducted ∨
    Sealed s₀ w id ∨ ∃ i, Charged w.trace i id

theorem ChargedAt.cons {tr : List (Event (service app) Request)} {i : Nat}
    (h : ChargedAt tr i id) (e : Event (service app) Request) : ChargedAt (e :: tr) i id := by
  obtain ⟨s, binding, req, c, reply, hm, hrest⟩ := h
  exact ⟨s, binding, req, c, reply, List.mem_cons_of_mem _ hm, hrest⟩

/-- A request whose fallback is due has sent the consume request over the binding. -/
theorem awaitsFallback_head {verificationId : String} {h : History Op Res}
    (hw : awaitsFallback verificationId h = true) : ∃ req : ConsumeCreditsRequest,
      req.verificationId = verificationId ∧ h.head? = some ⟨.credits true req, none⟩ := by
  unfold awaitsFallback at hw
  split at hw
  · next req past => exact ⟨req, of_decide_eq_true hw, rfl⟩
  · cases hw

theorem deducted_deduct {s : State} {req : ConsumeCreditsRequest} {text : String}
    (h : text ∈ (s.deduct req).2.deducted) : text ∈ s.deducted ∨ text = req.verificationId := by
  unfold State.deduct at h
  split at h
  · exact .inl h
  · exact (List.mem_cons.mp h).symm

theorem deducted_subset (s : State) (req : ConsumeCreditsRequest) :
    s.deducted ⊆ (s.deduct req).2.deducted := by
  unfold State.deduct
  split
  · exact fun _ hm => hm
  · exact List.subset_cons_self _ _

/-- What an operation newly deducts for is named by its consume request. -/
theorem deducted_perform {s : State} {op : Op} {c : Choice op} {text : String}
    (h : text ∈ (perform app s op c).2.deducted) : text ∈ s.deducted ∨
      ∃ binding req, op = .credits binding req ∧ text = req.verificationId := by
  by_cases hop : ∃ binding req, op = .credits binding req
  · obtain ⟨binding, req, rfl⟩ := hop
    have hstep : OpStep app s (.credits binding req) (perform app s (.credits binding req) c).2 :=
      perform_opStep c
    generalize (perform app s (.credits binding req) c).2 = t at h hstep
    cases hstep with
    | same => exact .inl h
    | late => exact .inl h
    | credits =>
      obtain hold | hnew := deducted_deduct h
      · exact .inl hold
      · exact .inr ⟨binding, req, rfl, hnew⟩
  · have hstep : OpStep app s op (perform app s op c).2 := perform_opStep c
    rw [hstep.deducted fun binding req heq => hop ⟨binding, req, heq⟩] at h
    exact .inl h

/-- Deductions are final. -/
theorem deducted_mono {s : State} {op : Op} (c : Choice op) :
    s.deducted ⊆ (perform app s op c).2.deducted := by
  have hstep : OpStep app s op (perform app s op c).2 := perform_opStep c
  generalize (perform app s op c).2 = t at hstep
  cases hstep with
  | credits => exact deducted_subset s _
  | _ => exact fun _ hm => hm

/-- What a step of the environment newly deducts for is named by a late consume request. -/
theorem deducted_envStep {s : State} {e : Env} {text : String}
    (h : text ∈ (envStep app s e).deducted) : text ∈ s.deducted ∨
      ∃ k f g h req, e = .deliver k f g h ∧ s.inflight[k]? = some (.credits req) ∧
        text = req.verificationId := by
  cases e with
  | tick seconds => exact .inl h
  | nonceAlarm shard => exact .inl h
  | deliver k f g h' =>
    cases hm : s.inflight[k]? with
    | none =>
      rw [envStep_deliver_none hm] at h
      exact .inl h
    | some m =>
      rw [envStep_deliver hm] at h
      cases m with
      | credits req =>
        obtain hold | hnew := deducted_deduct h
        · exact .inl hold
        · exact .inr ⟨k, f, g, h', req, rfl, hm, hnew⟩
      | _ => exact .inl h

/-- The record in store expires when its original does. -/
theorem Run.expiresAt_eq (hfresh : Fresh s₀)
    (hr : Run (handle app) (verdictsLand app) (· = s₀) p) {c c₀ : CachedChallenge}
    (horiginal : Original s₀ p.world.trace id c₀)
    (hc : State.record p.world.state id = some c) : c.expiresAt = c₀.expiresAt := by
  obtain ⟨c₁, horiginal', hframed⟩ := (Run.framed hfresh hr).stored id c hc
  have horiginals := Run.originalInv hfresh (fun _ _ _ _ h => verdictsLand_freshIds h) hr
  rw [hframed.same.expiresAt, horiginals.unique id c₁ c₀ horiginal' horiginal]

/-- A verdict in store stays until it expires. -/
theorem Run.sealed (hfresh : Fresh s₀) (hr : Run (handle app) (verdictsLand app) (· = s₀) p)
    (hv : VerifiedIn p.world.state id) : Sealed s₀ p.world id := by
  obtain ⟨c, hc, -⟩ := Option.map_eq_some_iff.mp hv
  obtain ⟨c₀, horiginal, -⟩ := (Run.framed hfresh hr).stored id c hc
  exact ⟨c₀, horiginal, fun _ => hv⟩

theorem Sealed.after (hfresh : Fresh s₀) (hr : Run (handle app) (verdictsLand app) (· = s₀) p)
    {i : Nat} {op : Op} {c : (service app).Choice op}
    (hR : (verdictsLand app).call p.world i op c) (h : Sealed s₀ p.world id) :
    Sealed s₀ (p.world.after i op c) id := by
  obtain ⟨c₀, horiginal, hverified⟩ := h
  refine ⟨c₀, horiginal.cons _, ?_⟩
  intro hlive
  have hstep : OpStep app p.world.state op (perform app p.world.state op c).2 := perform_opStep c
  have hclock : State.clock p.world.state < c₀.expiresAt := by
    rw [← hstep.clock]
    exact hlive
  refine verifiedIn_after hR (hverified hclock) ?_
  intro d hd
  rw [Run.expiresAt_eq hfresh hr horiginal hd]
  exact hclock

theorem Sealed.moved (hfresh : Fresh s₀) (hr : Run (handle app) (verdictsLand app) (· = s₀) p)
    {e : Env} (hR : (verdictsLand app).env p.world e) (h : Sealed s₀ p.world id) :
    Sealed s₀ (p.world.moved e) id := by
  obtain ⟨c₀, horiginal, hverified⟩ := h
  refine ⟨c₀, horiginal, ?_⟩
  intro hlive
  have hstep : EnvStep app p.world.state (envStep app p.world.state e) := envStep_envStep e
  have hclock : State.clock p.world.state < c₀.expiresAt := Nat.lt_of_le_of_lt hstep.clock_le hlive
  refine verifiedIn_moved hR (hverified hclock) ?_
  intro d hd
  rw [Run.expiresAt_eq hfresh hr horiginal hd]
  exact hclock

/-- **A consume request that finds its credits deducted** charges its request. -/
theorem charged_credits {w : World (service app) Request} {i : Nat} {binding : Bool}
    {req : ConsumeCreditsRequest} {c : (service app).Choice (.credits binding req)}
    (hR : (verdictsLand app).call w i (.credits binding req) c)
    (hid : req.verificationId = id.toString)
    (hdeducted : id.toString ∈ (perform app w.state (.credits binding req) c).2.deducted) :
    Charged (w.after i (.credits binding req) c).trace i id := by
  have hanswered : ChargeAnswered app w.state (own i w.trace) binding req c := hR
  obtain ⟨-, hbinding, -⟩ := hanswered (hid ▸ hdeducted)
  cases hanswer : (perform app w.state (.credits binding req) c).1 with
  | some reply =>
    exact .inl ⟨w.state, binding, req, c, reply, List.mem_cons_self, hid, hanswer, hdeducted⟩
  | none =>
    have hbinding := hbinding hanswer
    subst hbinding
    have hanswer : ((service app).perform w.state (.credits true req) c).1 = none := hanswer
    refine .inr ?_
    rw [World.after_trace, own_call_self, hanswer]
    exact decide_eq_true hid

/-- A charged request stays charged. -/
theorem Charged.after {w : World (service app) Request} {i j : Nat} {op : Op}
    {c : (service app).Choice op} (h : Charged w.trace j id)
    (hR : (verdictsLand app).call w i op c)
    (hnext : ∀ x ∈ (own i w.trace).head?, ∀ op', Credits.fallback x = some op' → op = op')
    (hdeducted : id.toString ∈ State.deducted w.state) :
    Charged (w.after i op c).trace j id := by
  obtain hat | hwaits := h
  · exact .inl (hat.cons _)
  · by_cases hij : i = j
    · subst hij
      obtain ⟨req, hid, hhead⟩ := awaitsFallback_head hwaits
      have hop : op = .credits false req := hnext _ hhead _ rfl
      subst hop
      have hmono : State.deducted w.state ⊆
          (perform app w.state (.credits false req) c).2.deducted :=
        @deducted_mono app w.state (.credits false req) c
      exact charged_credits hR hid (hmono hdeducted)
    · refine .inr ?_
      rw [World.after_trace, own_call_ne hij]
      exact hwaits

/-- **The charges and verdicts of a run.** -/
theorem Run.chargeInv (hfresh : Fresh s₀)
    (hr : Run (handle app) (verdictsLand app) (· = s₀) p) : ChargeInv s₀ p.world := by
  induction hr with
  | @start s hs =>
    refine ⟨?_, ?_⟩
    · intro i s op c hm
      exact absurd hm List.not_mem_nil
    · intro id hdeducted
      exact .inl (hs ▸ hdeducted)
  | @arrive p i req hr hfree hR ih =>
    have hsealed : ∀ id, Sealed s₀ p.world id → Sealed s₀ (p.world.arrived i req) id := by
      rintro id ⟨c₀, horiginal, hverified⟩
      exact ⟨c₀, horiginal.cons _, hverified⟩
    refine ⟨?_, ?_⟩
    · intro j s op c hm id hv
      exact hsealed id (ih.kept j s op c (by simpa using hm) id hv)
    · intro id hdeducted
      obtain hold | hkept | ⟨j, hat | hwaits⟩ := ih.charged id hdeducted
      · exact .inl hold
      · exact .inr (.inl (hsealed id hkept))
      · exact .inr (.inr ⟨j, .inl (hat.cons _)⟩)
      · exact .inr (.inr ⟨j, .inr hwaits⟩)
  | @call p i op k c hr hp hR ih =>
    have hr' : Run (handle app) (verdictsLand app) (· = s₀)
        (p.put (p.world.after i op c) i (k ((service app).perform p.world.state op c).1)) :=
      .call hr hp hR
    refine ⟨?_, ?_⟩
    · intro j s op' c' hm id hv
      rcases List.mem_cons.mp hm with heq | hm
      · injection heq with _ hs hop hc
        subst hs hop
        cases hc
        exact Run.sealed hfresh hr' hv
      · exact (ih.kept j s op' c' hm id hv).after hfresh hr hR
    · intro id hdeducted
      by_cases hold : id.toString ∈ State.deducted p.world.state
      · obtain hstart | hkept | ⟨j, hcharged⟩ := ih.charged id hold
        · exact .inl hstart
        · exact .inr (.inl (hkept.after hfresh hr hR))
        · obtain ⟨req, -, hguard⟩ := hr.guarded (guarded_handle_charges app) hp
          exact .inr (.inr ⟨j, hcharged.after hR hguard.1 hold⟩)
      · obtain hmem | ⟨binding, req, rfl, hid⟩ := deducted_perform hdeducted
        · exact absurd hmem hold
        · exact .inr (.inr ⟨i, charged_credits hR hid.symm hdeducted⟩)
  | @env p e hr hR ih =>
    refine ⟨?_, ?_⟩
    · intro j s op c hm id hv
      exact (ih.kept j s op c hm id hv).moved hfresh hr hR
    · intro id hdeducted
      by_cases hold : id.toString ∈ State.deducted p.world.state
      · obtain hstart | hkept | hcharged := ih.charged id hold
        · exact .inl hstart
        · exact .inr (.inl (hkept.moved hfresh hr hR))
        · exact .inr (.inr hcharged)
      · -- only a late consume request deducts now
        have hlate : LateRequest app p.world.state p.world.trace e := hR.2
        obtain hmem | ⟨k, f, g, h, req, rfl, hm, hid⟩ := deducted_envStep hdeducted
        · exact absurd hmem hold
        unfold LateRequest at hlate
        simp only [hm] at hlate
        obtain hmem | hverdict | ⟨a, -, hwaits⟩ := hlate
        · exact absurd (hid ▸ hmem) hold
        · have hv : VerifiedIn p.world.state id := by
            refine hverdict id ?_
            rw [← hid, parseUuid_toString]
            rfl
          exact .inr (.inl ((Run.sealed hfresh hr hv).moved hfresh hr hR))
        · exact .inr (.inr ⟨a.1, .inr (by rw [hid]; exact hwaits)⟩)

/-! ## Finished requests -/

/-- Every write of a verdict by the request comes after its payment. -/
def PaysFirst (h : History Op Res) : Prop :=
  ∀ y past, y :: past <:+ h → verdictEntry y = true → past.any paidEntry = true

/-- **A write of a paid verdict that came to an end** has the verdict stored. -/
theorem Run.sealed_of_concluded (hfresh : Fresh s₀)
    (hr : Run (handle app) (verdictsLand app) (· = s₀) p) {i : Nat}
    {P : ChallengeDO.Reply → Prop} {req : ChallengeDO.Request} (hwrites : writesVerdict req = true)
    (hP : ∀ reply, P reply → goesOn req reply = false)
    (hpays : PaysFirst (own i p.world.trace))
    (hended : ChallengeStore.Concluded P id req (own i p.world.trace)) :
    Sealed s₀ p.world id := by
  have hinv := Run.chargeInv hfresh hr
  rcases hended with ⟨reply, hm, hreply⟩ | ⟨left, past, hs, hlast⟩
  · -- the answer says that the object stored the verdict
    obtain ⟨later, past, hown⟩ := List.append_of_mem hm
    have hs : ⟨.challengeDO id req, some reply⟩ :: past <:+ own i p.world.trace :=
      ⟨later, hown.symm⟩
    have hpaid := hpays _ _ hs hwrites
    obtain ⟨new, s, op, c, old, ht, hx, hold⟩ := own_suffix hs
    injection hx with hop hanswer
    subst hop
    have hanswer := eq_of_heq hanswer
    obtain ⟨-, hR, -⟩ := hr.call_event (guarded_handle_charges app) ht
    have hstored : WriteStored app s (own i old) id req c := hR.1
    rw [hold] at hstored
    obtain hv | hgoes := hstored hwrites hpaid reply hanswer.symm
    · refine hinv.kept i s (.challengeDO id req) c ?_ id hv
      rw [ht]
      exact List.mem_append_right _ List.mem_cons_self
    · rw [hP reply hreply] at hgoes
      cases hgoes
  · -- it was given up when the verdict was stored
    have hpaid := hpays _ past ((List.suffix_cons _ _).trans hs) hwrites
    obtain ⟨new, s, op, c, old, ht, hx, hold⟩ := own_suffix hs
    injection hx with hop hanswer
    subst hop
    have hanswer : left = c := eq_of_heq hanswer
    obtain ⟨-, hR, -⟩ := hr.call_event (guarded_handle_charges app) ht
    have hgiven : NotGivenUp s (own i old) c := hR
    rw [hold, ← hanswer] at hgiven
    have hv : VerifiedIn s id := hgiven hwrites hpaid hlast
    refine hinv.kept i s .budgetLeft c ?_ id hv
    rw [ht]
    exact List.mem_append_right _ List.mem_cons_self

/-- **A charged request that has finished** has the verdict stored. -/
theorem Run.sealed_of_charged (hfresh : Fresh s₀)
    (hr : Run (handle app) (verdictsLand app) (· = s₀) p)
    (hfits : ∀ i c now, ReadBy p.world.trace i id c →
      ChallengeStore.checkChallenge app id (c.zeroizeSecret.verdict now) = .ok ())
    {i : Nat} {r : Except ApiError Response} (hcharged : Charged p.world.trace i id)
    (hfinished : p.outcome i = some r) : Sealed s₀ p.world id := by
  obtain ⟨-, -, hhead, hgranted⟩ := hr.outcome (guarded_handle_charges app) hfinished
  rcases hcharged with ⟨s, binding, req, c, reply, hm, hid, hanswer, hdeducted⟩ | hwaits
  · obtain ⟨new, old, ht⟩ := List.append_of_mem hm
    obtain ⟨-, hR, -⟩ := hr.call_event (guarded_handle_charges app) ht
    have hcharge : ChargeAnswered app s (own i old) binding req c := hR
    obtain ⟨hsettled, -, hverdict⟩ := hcharge (hid ▸ hdeducted)
    have hsettled := hsettled reply hanswer
    by_cases hlate : (own i old).any verdictEntry = true
    · -- the charge of an unmetered origin, after its verdict
      refine (Run.chargeInv hfresh hr).kept i s _ c hm id (hverdict hlate id ?_)
      rw [hid, parseUuid_toString]
      rfl
    · have hs : ⟨.credits binding req, some reply⟩ :: own i old <:+ own i p.world.trace := by
        have hcall : ⟨.credits binding req, ((service app).perform s (.credits binding req) c).1⟩ ::
            own i old <:+ own i (new ++ .call i s (.credits binding req) c :: old) :=
          own_suffix_call
        rw [← ht] at hcall
        rw [← hanswer]
        exact hcall
      have hpays : PaysFirst (own i p.world.trace) := by
        intro y past hy hwrites
        have hne : (⟨.credits binding req, some reply⟩ : Sigma Res) ≠ y := by
          rintro rfl
          cases hwrites
        refine List.any_eq_true.mpr ⟨_, mem_past hs hy hne ?_, decide_eq_true hsettled⟩
        exact fun hmem => hlate (List.any_eq_true.mpr ⟨y, hmem, hwrites⟩)
      obtain ⟨id', d, now, htext, hread, hsent⟩ :=
        hgranted req ⟨binding, reply, hs.subset List.mem_cons_self, hsettled⟩
      have hid' : id' = id := Uuid.toString_injective (htext.symm.trans hid)
      subst hid'
      have hended := hsent (hfits i d now hread.1)
      rcases hended.ended with hupdate | hcreate
      · refine Run.sealed_of_concluded hfresh hr rfl ?_ hpays hupdate
        intro reply hreply
        cases reply with
        | record c => rfl
        | status code => exact decide_eq_false fun heq => hreply (congrArg _ heq)
      · exact Run.sealed_of_concluded hfresh hr rfl (fun _ _ => rfl) hpays hcreate
  · obtain ⟨req, -, hsome⟩ := awaitsFallback_head hwaits
    have hnone := hhead _ hsome
    cases hnone

/-- **What is charged is granted.** In every run in which consume requests that deduct are answered
and no paid verdict is given up before it is stored, a challenge that credits were deducted for is
stored as verified until it expires, or a request that was charged for it is under way. -/
theorem charged_then_verified (hfresh : Fresh s₀)
    (hr : Run (handle app) (verdictsLand app) (· = s₀) p) {c₀ : CachedChallenge}
    (horiginal : Original s₀ p.world.trace id c₀)
    (hfits : ∀ i c now, ReadBy p.world.trace i id c →
      ChallengeStore.checkChallenge app id (c.zeroizeSecret.verdict now) = .ok ())
    (hnew : id.toString ∉ s₀.deducted)
    (hdeducted : id.toString ∈ State.deducted p.world.state)
    (hlive : State.clock p.world.state < c₀.expiresAt) :
    VerifiedIn p.world.state id ∨ ∃ i, Charged p.world.trace i id ∧ p.outcome i = none := by
  have hstored : Sealed s₀ p.world id → VerifiedIn p.world.state id := by
    rintro ⟨c₁, horiginal', hverified⟩
    have horiginals := Run.originalInv hfresh (fun _ _ _ _ h => verdictsLand_freshIds h) hr
    rw [horiginals.unique id c₁ c₀ horiginal' horiginal] at hverified
    exact hverified hlive
  obtain hold | hkept | ⟨i, hcharged⟩ := (Run.chargeInv hfresh hr).charged id hdeducted
  · exact absurd hold hnew
  · exact .inl (hstored hkept)
  · cases hfinished : p.outcome i with
    | none => exact .inr ⟨i, hcharged, hfinished⟩
    | some r => exact .inl (hstored (Run.sealed_of_charged hfresh hr hfits hcharged hfinished))

/-! ## Samples -/

/-- The state after a while. -/
def State.later (s : State) (seconds : Nat) : State := { s with clock := s.clock + seconds }

namespace Sample

/-- The object of the challenge gets no update. -/
def writesLost (op : Op) : Choice op :=
  match op with
  | .challengeDO _ (.update _ _) => .lost
  | op => healthy op

/-- The sample record is proven; the redemptions through both routes are charged, and their writes
get lost. -/
def chargedRedemptions : List (Act (service .sample) Request) :=
  performs 0 (.verify submission) 9 ++
    .arrive 1 (.redeem redemption) :: List.replicate 14 (.call 1 writesLost) ++
    .arrive 2 (.hostedRedeem hostedRedemption) :: List.replicate 13 (.call 2 writesLost)

end Sample

/-- The sample challenge, proven and redeemed by the shop's server at a metered origin. -/
theorem charged_then_verified_redemption :
    ∃ p, Run (handle .sample) (verdictsLand .sample) (· = Sample.meteredState) p ∧
      CachedChallenge.sample.id.toString ∈ State.deducted p.world.state ∧
      (VerifiedIn p.world.state CachedChallenge.sample.id ∨
        ∃ i, Charged p.world.trace i CachedChallenge.sample.id ∧ p.outcome i = none) := by
  have hrun : ∃ p : Pool (service .sample) Request ApiError Response,
      Run (handle .sample) (verdictsLand .sample) (· = Sample.meteredState) p ∧
        CachedChallenge.sample.id.toString ∈ State.deducted p.world.state ∧
        State.clock p.world.state < CachedChallenge.sample.expiresAt :=
    Run.of_replay Sample.meteredState
      (Sample.performs 0 (.verify Sample.submission) 9 ++
        Sample.performs 1 (.redeem Sample.redemption) 9) rfl (by decide +kernel)
  obtain ⟨p, hr, hdeducted, hlive⟩ := hrun
  have horiginal : Original Sample.meteredState p.world.trace CachedChallenge.sample.id
      CachedChallenge.sample := by
    refine .inl ?_
    simp [State.record, Sample.meteredState, Sample.state]
  exact ⟨p, hr, hdeducted, charged_then_verified Sample.fresh_meteredState hr horiginal
    (fun _ _ _ _ => rfl) List.not_mem_nil hdeducted hlive⟩

/-- Credits were deducted for the sample challenge and its two redemptions have failed: until the
challenge expires, no correct redemption of it succeeds, through either route. -/
theorem charged_without_verdict :
    ∃ p, Run (handle .sample) (anyOrder .sample Request) (· = Sample.meteredState) p ∧
      Sample.proven.id.toString ∈ State.deducted p.world.state ∧
      p.outcome 1 = some (.error (.internal "State transition failed")) ∧
      p.outcome 2 = some (.error (.internal "State transition failed")) ∧
      Redeem.Redeemable .sample healthy p.world.state Sample.redemption Sample.proven ∧
      ∀ seconds, State.clock p.world.state + seconds < Sample.proven.expiresAt →
        (∀ req c, req.sid = Sample.proven.id →
          Redeem.Redeemable .sample healthy (State.later p.world.state seconds) req c →
          ¬ Redeem.Succeeds .sample healthy (State.later p.world.state seconds) req) ∧
        ∀ req session c,
          HostedRedeem.Redeemable .sample (State.later p.world.state seconds) req session
            Sample.proven.id c →
          ¬ HostedRedeem.Succeeds .sample healthy (State.later p.world.state seconds) req
            Sample.proven.id := by
  have hrun : ∃ p : Pool (service .sample) Request ApiError Response,
      Run (handle .sample) (anyOrder .sample Request) (· = Sample.meteredState) p ∧
        Sample.proven.id.toString ∈ State.deducted p.world.state ∧
        p.outcome 1 = some (.error (.internal "State transition failed")) ∧
        p.outcome 2 = some (.error (.internal "State transition failed")) ∧
        State.record p.world.state Sample.proven.id = some Sample.proven ∧
        State.clock p.world.state < Sample.proven.expiresAt ∧
        (alone .sample healthy (authenticateApiKey .sample Sample.redemption.headers
          ⟨none, false, none⟩) p.world.state).1 = .ok ⟨some "shop", false⟩ ∧
        (State.nonces p.world.state 0 (Redeem.nonceTag Sample.proven.id)).map (·.expiresAt) =
          some Sample.proven.expiresAt ∧
        (State.nonces p.world.state 0 (HostedRedeem.nonceTag Sample.proven.id)).map
          (·.expiresAt) = some Sample.proven.expiresAt :=
    Run.of_replay Sample.meteredState Sample.chargedRedemptions rfl (by decide +kernel)
  obtain ⟨p, hr, hdeducted, hout, hout', hrecord, hclock, hauth, htag, htag'⟩ := hrun
  have htaken : ∀ tag seconds, State.clock p.world.state + seconds < Sample.proven.expiresAt →
      (State.nonces p.world.state 0 tag).map (·.expiresAt) = some Sample.proven.expiresAt →
      ¬ TagFree .sample (State.later p.world.state seconds) tag := by
    intro tag seconds hlater hentry hfree
    obtain ⟨entry, hentry, hexpires⟩ := Option.map_eq_some_iff.mp hentry
    have hexpired := hfree entry hentry
    have hnow : (State.later p.world.state seconds).clock = State.clock p.world.state + seconds :=
      rfl
    omega
  refine ⟨p, hr, hdeducted, hout, hout', Sample.redeemable hrecord hclock hauth, ?_⟩
  intro seconds hlater
  refine ⟨?_, ?_⟩
  · intro req c hsid h
    refine Redeem.not_succeeds healthy_healthy h.presented fun hfree => ?_
    rw [hsid] at hfree
    exact htaken _ seconds hlater htag hfree.1
  · intro req session c h
    refine HostedRedeem.not_succeeds healthy_healthy h.presented fun hfree => ?_
    exact htaken _ seconds hlater htag' hfree.1

end ProviiVerifier
