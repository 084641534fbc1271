/-
  How long a consumed nonce tag stays consumed, in every interleaved run.

  A tag is consumed for 300 seconds from the clock of the object that accepted it. Alarms, late
  requests and other tags leave that entry alone while it counts.

  Proved: an accepted tag is retained (`Run.nonceInv`). When every request for a tag reads its
  entry, two requests accepted for it are so more than a retention apart (`Run.accepted_apart`);
  when every request is also served within the retention of an earlier acceptance, no two are
  accepted (`Run.accepted_once`).
-/
import ProviiVerifier.Stores

namespace ProviiVerifier

open Interleaving Prog

variable {app : AppState} {Req α : Type}

/-- Request `i` was told at time `T` that the tag is new. -/
def AcceptedAt (tr : List (Event (service app) Req)) (i : Nat) (tag : String) (T : Nat) : Prop :=
  ∃ s body c, .call i s (.nonceDO tag body) c ∈ tr ∧
    (perform app s (.nonceDO tag body) c).1 = some (.verdict true) ∧ s.clock = T

/-- A tag accepted at `T` is still there, as long as the clock is within its retention. -/
def Retained (app : AppState) (s : State) (tag : String) (T : Nat) : Prop :=
  T ≤ s.clock ∧ (s.clock ≤ T + nonceDedupTtl →
    ∃ entry, s.nonces (app.nonceShard tag) tag = some entry ∧
      T + nonceDedupTtl ≤ entry.expiresAt)

/-! ## One step -/

theorem satAdd_ttl {now : Nat} (h : now ≤ maxDate) :
    NonceDO.satAdd now nonceDedupTtl = now + nonceDedupTtl := by
  unfold NonceDO.satAdd nonceDedupTtl
  unfold maxDate at h
  omega

theorem serveNonce_clock (s : State) (f : NonceDO.Faults) (tag : String) (body : Body Nat) :
    (s.serveNonce app f tag body).2.clock = s.clock := rfl

/-- The entry of a tag after a request was served at its shard. -/
theorem serveNonce_self (s : State) (f : NonceDO.Faults) (tag : String) (body : Body Nat) :
    (s.serveNonce app f tag body).2.nonces (app.nonceShard tag) =
      (NonceDO.setNonce app.uni (s.nonces (app.nonceShard tag)) s.clock f tag body).2 := by
  simp [State.serveNonce]

/-- A request for another tag leaves an entry alone. -/
theorem serveNonce_other {s : State} {f : NonceDO.Faults} {tag tag' : String} {body : Body Nat}
    (h : tag ≠ tag') : (s.serveNonce app f tag' body).2.nonces (app.nonceShard tag) tag =
      s.nonces (app.nonceShard tag) tag := by
  by_cases hshard : app.nonceShard tag = app.nonceShard tag'
  · rw [hshard, serveNonce_self, NonceDO.setNonce_other h]
  · simp [State.serveNonce, hshard]

/-- A request that is served keeps what is retained. -/
theorem Retained.serveNonce {s : State} {f : NonceDO.Faults} {tag tag' : String} {T : Nat}
    {body : Body Nat} (h : Retained app s tag T) (hbody : body.value = some nonceDedupTtl)
    (hdate : s.clock ≤ maxDate) : Retained app (s.serveNonce app f tag' body).2 tag T := by
  refine ⟨h.1, fun hclock => ?_⟩
  rw [serveNonce_clock] at hclock
  obtain ⟨entry, hentry, hexp⟩ := h.2 hclock
  by_cases htag : tag = tag'
  · subst htag
    rw [serveNonce_self]
    rcases NonceDO.setNonce_cases app.uni (s.nonces (app.nonceShard tag)) s.clock f tag body
      with ⟨ttl, hval, -, hs⟩ | ⟨hs, -⟩
    · rw [hbody] at hval
      cases hval
      rw [hs, Function.update_self, satAdd_ttl hdate]
      exact ⟨_, rfl, Nat.add_le_add_right h.1 _⟩
    · rw [hs]
      exact ⟨entry, hentry, hexp⟩
  · rw [serveNonce_other htag]
    exact ⟨entry, hentry, hexp⟩

/-- A request that is told that its tag is new makes the tag retained. -/
theorem retained_of_accepted {s : State} {f : NonceDO.Faults} {tag : String} {body : Body Nat}
    (hbody : body.value = some nonceDedupTtl) (hdate : s.clock ≤ maxDate)
    (h : (s.serveNonce app f tag body).1 = some (.verdict true)) :
    Retained app (s.serveNonce app f tag body).2 tag s.clock := by
  refine ⟨Nat.le_refl _, fun _ => ?_⟩
  obtain ⟨ttl, hval, -, hs⟩ := NonceDO.setNonce_accept h
  rw [hbody] at hval
  cases hval
  rw [satAdd_ttl hdate] at hs
  rw [serveNonce_self]
  exact ⟨_, hs, Nat.le_refl _⟩

/-- A request is not accepted while the tag is retained, if it reads the entry. -/
theorem not_accepted_of_retained {s : State} {f : NonceDO.Faults} {tag : String} {T : Nat}
    {body : Body Nat} (h : Retained app s tag T) (hclock : s.clock ≤ T + nonceDedupTtl)
    (hget : f.get = true) : (s.serveNonce app f tag body).1 ≠ some (.verdict true) := by
  intro haccept
  obtain ⟨entry, hentry, hexp⟩ := h.2 hclock
  obtain ⟨ttl, -, hfree, -⟩ := NonceDO.setNonce_accept haccept
  have := hfree hget entry hentry
  omega

/-- Retention is a matter of the clock and the entries. -/
theorem Retained.congr {s t : State} {tag : String} {T : Nat} (h : Retained app s tag T)
    (hclock : t.clock = s.clock) (hnonces : t.nonces = s.nonces) : Retained app t tag T := by
  unfold Retained
  rw [hclock, hnonces]
  exact h

theorem Retained.opStep {s t : State} {op : Op} {tag : String} {T : Nat}
    (h : Retained app s tag T) (hstep : OpStep app s op t)
    (hbody : ∀ tag body, op = .nonceDO tag body → body.value = some nonceDedupTtl)
    (hdate : s.clock ≤ maxDate) : Retained app t tag T := by
  by_cases hop : ∃ tag body, op = .nonceDO tag body
  · obtain ⟨tag', body, rfl⟩ := hop
    cases hstep with
    | same => exact h
    | late => exact h
    | nonce => exact h.serveNonce (hbody _ _ rfl) hdate
  · exact h.congr hstep.clock (hstep.nonces fun tag body heq => hop ⟨tag, body, heq⟩)

theorem Retained.envStep {s t : State} {tag : String} {T : Nat} (h : Retained app s tag T)
    (hstep : EnvStep app s t)
    (hbody : ∀ tag body, .nonce tag body ∈ s.inflight → body.value = some nonceDedupTtl)
    (hdate : s.clock ≤ maxDate) : Retained app t tag T := by
  cases hstep with
  | tick =>
    refine ⟨Nat.le_trans h.1 (Nat.le_add_right _ _), fun hclock => h.2 ?_⟩
    exact Nat.le_trans (Nat.le_add_right _ _) hclock
  | @nonceAlarm shard =>
    refine ⟨h.1, fun hclock => ?_⟩
    obtain ⟨entry, hentry, hexp⟩ := h.2 hclock
    refine ⟨entry, ?_, hexp⟩
    by_cases hshard : app.nonceShard tag = shard
    · subst hshard
      have hlive : s.clock ≤ entry.expiresAt := Nat.le_trans hclock hexp
      simpa [State.nonceAlarm] using NonceDO.cleanupExpiredNonces_live hentry hlive
    · simpa [State.nonceAlarm, hshard] using hentry
  | @nonce i tag' body f hm =>
    have hreceived : Retained app (s.received i) tag T := h
    exact hreceived.serveNonce (hbody _ _ hm) hdate
  | credits => exact h.congr (by rw [deduct_eq]; rfl) (by rw [deduct_eq]; rfl)
  | _ => exact h

/-! ## Runs -/

/-- What holds of the nonce store in every world. -/
structure NonceInv (w : World (service app) Req) : Prop where
  date : w.state.clock ≤ maxDate
  inflight : ∀ tag body, .nonce tag body ∈ w.state.inflight →
    body.value = some nonceDedupTtl
  retained : ∀ i tag T, AcceptedAt w.trace i tag T → Retained app w.state tag T

variable {handler : Req → Handler α} {R : Rules (service app) Req} {init : State → Prop}
  {G : Req → History Op Res → Op → Prop} {Q : Req → History Op Res → Except ApiError α → Prop}
  {p : Pool (service app) Req ApiError α}

/-- The events after an operation: the new one or an old one. -/
theorem acceptedAt_cons {tr : List (Event (service app) Req)} {i j : Nat} {s : State} {op : Op}
    {c : Choice op} {tag : String} {T : Nat}
    (h : AcceptedAt (.call j s op c :: tr : List (Event (service app) Req)) i tag T) :
    AcceptedAt tr i tag T ∨ i = j ∧ T = s.clock ∧ ∃ body f answered,
      op = .nonceDO tag body ∧ HEq c (Delivery.served f answered : Delivery NonceDO.Faults) ∧
      (s.serveNonce app f tag body).1 = some (.verdict true) := by
  obtain ⟨s', body, c', hm, haccept, hT⟩ := h
  rcases List.mem_cons.mp hm with heq | hm
  · injection heq with hi hs hop hc
    subst hi hs hop
    cases hc
    refine .inr ⟨rfl, hT.symm, ?_⟩
    cases c' with
    | lost => cases haccept
    | late => cases haccept
    | served f answered =>
      refine ⟨body, f, answered, rfl, HEq.rfl, ?_⟩
      cases answered with
      | false => cases haccept
      | true => exact haccept
  · exact .inl ⟨s', body, c', hm, haccept, hT⟩

/-- An operation keeps the invariant. -/
theorem NonceInv.after {w : World (service app) Req} (h : NonceInv w) {i : Nat} {op : Op}
    {c : Choice op}
    (hbody : ∀ tag body, op = .nonceDO tag body → body.value = some nonceDedupTtl) :
    NonceInv (w.after i op c) := by
  have hstep : OpStep app w.state op (perform app w.state op c).2 := perform_opStep c
  refine ⟨?_, ?_, ?_⟩
  · exact hstep.clock.symm ▸ h.date
  · intro tag body hm
    rcases hstep.inflight hm with hm | hop
    · exact h.inflight tag body hm
    · refine hbody tag body ?_
      cases op <;> simp only [Op.message, Option.some.injEq, reduceCtorEq] at hop
      cases hop
      rfl
  · intro j tag T haccept
    rcases acceptedAt_cons haccept with hold | ⟨-, rfl, body, f, answered, rfl, hc, hserved⟩
    · exact (h.retained j tag T hold).opStep hstep hbody h.date
    · cases hc
      exact retained_of_accepted (hbody _ _ rfl) h.date hserved

/-- A step of the environment keeps the invariant. -/
theorem NonceInv.moved {w : World (service app) Req} (h : NonceInv w) {e : Env}
    (hrange : dateRange w.state e) : NonceInv (w.moved e) := by
  have hstep : EnvStep app w.state (envStep app w.state e) := envStep_envStep e
  refine ⟨?_, ?_, ?_⟩
  · cases e with
    | tick seconds => exact hrange
    | nonceAlarm shard => exact h.date
    | deliver i f g k =>
      have hclock : (envStep app w.state (.deliver i f g k)).clock = w.state.clock := by
        simp only [ProviiVerifier.envStep]
        split
        · next m hm =>
          cases m with
          | credits req => simp only [State.deliver]; rw [deduct_eq]
          | _ => rfl
        · rfl
      exact hclock.symm ▸ h.date
  · intro tag body hm
    exact h.inflight tag body (hstep.inflight hm)
  · intro i tag T haccept
    exact (h.retained i tag T haccept).envStep hstep h.inflight h.date

/-- **An accepted tag is retained**, in every run whose requests consume tags for the usual
time. -/
theorem Run.nonceInv (hG : ∀ req, (handler req).Guarded (G req) (Q req) [])
    (hbody : ∀ req h tag body, G req h (.nonceDO tag body) → body.value = some nonceDedupTtl)
    (hinit : ∀ s, init s → s.clock ≤ maxDate ∧ s.inflight = [])
    (henv : ∀ w e, R.env w e → dateRange w.state e) (hr : Run handler R init p) :
    NonceInv p.world := by
  refine hr.invariant hG ?_ ?_ ?_ ?_
  · intro s hs
    refine ⟨(hinit s hs).1, ?_, ?_⟩
    · intro tag body hm
      rw [(hinit s hs).2] at hm
      cases hm
    · rintro i tag T ⟨s', body, c, hm, -⟩
      cases hm
  · intro w i req _ h _
    refine ⟨h.date, h.inflight, ?_⟩
    rintro j tag T ⟨s, body, c, hm, haccept⟩
    exact h.retained j tag T ⟨s, body, c, by simpa using hm, haccept⟩
  · intro w i op c req _ h _ hg _
    exact h.after fun tag body hop => hbody req _ tag body (hop ▸ hg)
  · intro w e _ h hR
    exact h.moved (henv w e hR)

/-- What a rule says of a request for the tag: the object reads the entry, and not later than
the retention of an earlier acceptance. -/
def WithinRetention (w : World (service app) Req) (tag : String) (f : NonceDO.Faults) : Prop :=
  f.get = true ∧ ∀ j T, AcceptedAt w.trace j tag T → w.state.clock ≤ T + nonceDedupTtl

/-- The event does not accept the tag more than a retention before the clock. -/
def notExpiredAt (clock : Nat) (tag : String) : Event (service app) Req → Bool
  | .call _ s (.nonceDO tag' body) c =>
    tag' ≠ tag || (perform app s (.nonceDO tag' body) c).1 ≠ some (.verdict true) ||
      clock ≤ s.clock + nonceDedupTtl
  | _ => true

theorem withinRetention_iff {w : World (service app) Req} {tag : String} {f : NonceDO.Faults} :
    f.get = true ∧ w.trace.all (notExpiredAt w.state.clock tag) = true ↔
      WithinRetention w tag f := by
  refine and_congr_right fun _ => ?_
  rw [List.all_eq_true]
  constructor
  · rintro h j T ⟨s, body, c, hm, haccept, rfl⟩
    simpa [notExpiredAt, haccept] using h _ hm
  · intro h e hm
    cases e with
    | arrive i req => rfl
    | call i s op c =>
      cases op with
      | nonceDO tag' body =>
        by_cases htag : tag' = tag
        · subst htag
          by_cases haccept : (perform app s (.nonceDO tag' body) c).1 = some (.verdict true)
          · simpa [notExpiredAt, haccept] using h i s.clock ⟨s, body, c, hm, haccept, rfl⟩
          · simp [notExpiredAt, haccept]
        · simp [notExpiredAt, htag]
      | _ => rfl

instance instDecidableWithinRetention (w : World (service app) Req) (tag : String)
    (f : NonceDO.Faults) : Decidable (WithinRetention w tag f) :=
  decidable_of_iff _ withinRetention_iff

/-- **Two acceptances of a tag** are by one request or exempted, when every request for the tag
reads its entry, and not later than the retention of an earlier acceptance unless that is
exempted. -/
theorem Run.accepted_pairs {P : String → Prop} {X : Nat → Nat → Prop}
    (hG : ∀ req, (handler req).Guarded (G req) (Q req) [])
    (hbody : ∀ req h tag body, G req h (.nonceDO tag body) → body.value = some nonceDedupTtl)
    (hinit : ∀ s, init s → s.clock ≤ maxDate ∧ s.inflight = [])
    (henv : ∀ w e, R.env w e → dateRange w.state e)
    (hrule : ∀ w i tag body f answered,
      R.call w i (.nonceDO tag body) (.served f answered) → P tag → f.get = true ∧
        ∀ j T, AcceptedAt w.trace j tag T →
          State.clock w.state ≤ T + nonceDedupTtl ∨ X T (State.clock w.state))
    (hr : Run handler R init p) {i j : Nat} {tag : String} {T T' : Nat} (hP : P tag)
    (hi : AcceptedAt p.world.trace i tag T) (hj : AcceptedAt p.world.trace j tag T') :
    i = j ∨ X T T' ∨ X T' T := by
  have hinv : ∀ i j T T', AcceptedAt p.world.trace i tag T →
      AcceptedAt p.world.trace j tag T' → i = j ∨ X T T' ∨ X T' T := by
    refine hr.invariant (I := fun w => ∀ i j T T', AcceptedAt w.trace i tag T →
      AcceptedAt w.trace j tag T' → i = j ∨ X T T' ∨ X T' T) hG ?_ ?_ ?_ ?_
    · rintro s - i j T T' ⟨s', body, c, hm, -⟩
      cases hm
    · rintro w k req - h - i j T T' ⟨s, body, c, hm, haccept⟩ ⟨s', body', c', hm', haccept'⟩
      exact h i j T T' ⟨s, body, c, by simpa using hm, haccept⟩
        ⟨s', body', c', by simpa using hm', haccept'⟩
    · intro w k op c req hreach h _ hg hR i j T T' hi hj
      obtain ⟨q, hq, rfl⟩ := hreach
      have hold := Run.nonceInv hG hbody hinit henv hq
      -- a new acceptance excludes every earlier one that is not exempted
      have hnew : ∀ body f answered j T, op = .nonceDO tag body →
          HEq c (Delivery.served f answered : Delivery NonceDO.Faults) →
          (q.world.state.serveNonce app f tag body).1 = some (.verdict true) →
          AcceptedAt q.world.trace j tag T → X T (State.clock q.world.state) := by
        rintro body f answered j T rfl hc hserved haccept
        cases hc
        obtain ⟨hget, hearlier⟩ := hrule _ _ _ _ _ _ hR hP
        rcases hearlier j T haccept with hclock | hX
        · exact absurd hserved
            (not_accepted_of_retained (hold.retained j tag T haccept) hclock hget)
        · exact hX
      rcases acceptedAt_cons hi with hi | ⟨hik, hT, body, f, answered, hop, hc, hserved⟩
      · rcases acceptedAt_cons hj with hj | ⟨-, hT, body, f, answered, hop, hc, hserved⟩
        · exact h i j T T' hi hj
        · rw [hT]
          exact .inr (.inl (hnew body f answered i T hop hc hserved hi))
      · rcases acceptedAt_cons hj with hj | ⟨hjk, -⟩
        · rw [hT]
          exact .inr (.inr (hnew body f answered j T' hop hc hserved hj))
        · exact .inl (hik.trans hjk.symm)
    · intro w e _ h _
      exact h
  exact hinv i j T T' hi hj

/-- **A tag is accepted once** when every request for it is within retention. -/
theorem Run.accepted_once {P : String → Prop}
    (hG : ∀ req, (handler req).Guarded (G req) (Q req) [])
    (hbody : ∀ req h tag body, G req h (.nonceDO tag body) → body.value = some nonceDedupTtl)
    (hinit : ∀ s, init s → s.clock ≤ maxDate ∧ s.inflight = [])
    (henv : ∀ w e, R.env w e → dateRange w.state e)
    (hrule : ∀ w i tag body f answered,
      R.call w i (.nonceDO tag body) (.served f answered) → P tag → WithinRetention w tag f)
    (hr : Run handler R init p) {i j : Nat} {tag : String} {T T' : Nat} (hP : P tag)
    (hi : AcceptedAt p.world.trace i tag T) (hj : AcceptedAt p.world.trace j tag T') :
    i = j := by
  have hpairs := Run.accepted_pairs (X := fun _ _ => False) hG hbody hinit henv
    (fun w i tag body f answered hR hP =>
      have hwithin := hrule w i tag body f answered hR hP
      ⟨hwithin.1, fun j T haccept => .inl (hwithin.2 j T haccept)⟩) hr hP hi hj
  rcases hpairs with h | h | h
  · exact h
  · exact h.elim
  · exact h.elim

/-- **Acceptances of a tag are more than a retention apart**, when every request for the tag
reads its entry. -/
theorem Run.accepted_apart {P : String → Prop}
    (hG : ∀ req, (handler req).Guarded (G req) (Q req) [])
    (hbody : ∀ req h tag body, G req h (.nonceDO tag body) → body.value = some nonceDedupTtl)
    (hinit : ∀ s, init s → s.clock ≤ maxDate ∧ s.inflight = [])
    (henv : ∀ w e, R.env w e → dateRange w.state e)
    (hrule : ∀ w i tag body f answered,
      R.call w i (.nonceDO tag body) (.served f answered) → P tag → f.get = true)
    (hr : Run handler R init p) {i j : Nat} {tag : String} {T T' : Nat} (hP : P tag)
    (hi : AcceptedAt p.world.trace i tag T) (hj : AcceptedAt p.world.trace j tag T')
    (hij : i ≠ j) : T + nonceDedupTtl < T' ∨ T' + nonceDedupTtl < T := by
  have hpairs := Run.accepted_pairs (X := fun T T' => T + nonceDedupTtl < T') hG hbody hinit henv
    (fun w i tag body f answered hR hP =>
      ⟨hrule w i tag body f answered hR hP, fun _ _ _ => (Nat.lt_or_ge _ _).symm⟩) hr hP hi hj
  rcases hpairs with h | h
  · exact absurd h hij
  · exact h

end ProviiVerifier
