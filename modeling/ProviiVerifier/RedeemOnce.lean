/-
  How often a challenge is redeemed.

  Each of the two redeem routes consumes a nonce tag of its own for a challenge, and each writes the
  verdict on a record it read before. The object accepts `Verified` on `Verified`, so a request of
  either route may succeed.

  Proved: in every run in which the requests for a challenge come through one route, within the
  retention of its tag, one of them succeeds at most (`redeemed_once`).
-/
import ProviiVerifier.Requests
import ProviiVerifier.ReplayWindow
import ProviiVerifier.IdempotencyWire

namespace ProviiVerifier

open Interleaving Prog

variable {app : AppState}

/-! ## The challenge of a request -/

/-- The challenge a request redeems: the one it names, or the one its session names. -/
def Redeeming (id : Uuid) (h : History Op Res) : Request → Prop
  | .redeem req => req.sid = id
  | .hostedRedeem _ => HostedRedeem.sessionChallenge h = some id
  | _ => False

/-- Request `i` redeemed the challenge: it was answered with a success. -/
def RedeemedBy (p : Pool (service app) Request ApiError Response) (i : Nat) (id : Uuid) : Prop :=
  ∃ req response, .arrive i req ∈ p.world.trace ∧ p.outcome i = some (.ok response) ∧
    Redeeming id (own i p.world.trace) req

/-! ## One route -/

/-- The tag that the other route consumes for the same challenge. -/
def otherTag (tag : String) : Option String :=
  match stripPrefix "redeem:" tag with
  | some id => some ("hosted_redeem:" ++ id)
  | none => (stripPrefix "hosted_redeem:" tag).map fun id => "redeem:" ++ id

/-- The tag that an event accepts. -/
def acceptedTag : Event (service app) Request → Option String
  | .call _ s (.nonceDO tag body) c =>
    if (perform app s (.nonceDO tag body) c).1 = some (.verdict true) then some tag else none
  | _ => none

/-- A request for the tag of a redemption is served within retention, and the tag of the other route
was not accepted before. -/
def OneRoute (w : World (service app) Request) (tag : String) (f : NonceDO.Faults) : Prop :=
  ∀ other ∈ otherTag tag, WithinRetention w tag f ∧ other ∉ w.trace.filterMap acceptedTag

instance instDecidableOneRoute (w : World (service app) Request) (tag : String)
    (f : NonceDO.Faults) : Decidable (OneRoute w tag f) :=
  inferInstanceAs (Decidable (∀ other ∈ otherTag tag, _))

/-- The redemptions of a challenge come through one route. -/
def oneRoute (app : AppState) : Rules (service app) Request :=
  { anyOrder app Request with
    call := fun w _ op c =>
      match op, c with
      | .nonceDO tag _, .served f _ => OneRoute w tag f
      | op, c => freshIds w.state op c }

instance (app : AppState) : DecidableRules (oneRoute app) :=
  { arrive := fun _ _ _ => .isTrue trivial
    call := fun w i op => by
      apply Op.casesOn (motive := fun op => ∀ c, Decidable ((oneRoute app).call w i op c)) op
      case nonceDO =>
        intro tag body c
        exact match c with
        | .served f _ => instDecidableOneRoute w tag f
        | .lost | .late => .isTrue trivial
      case newUuid => exact instDecidableFreshIds w.state .newUuid
      all_goals intros; exact .isTrue trivial
    env := fun w e => instDecidableDateRange w.state e }

theorem otherTag_redeem (id : Uuid) :
    otherTag (Redeem.nonceTag id) = some (HostedRedeem.nonceTag id) := by
  unfold otherTag Redeem.nonceTag HostedRedeem.nonceTag
  rw [stripPrefix_append]

theorem otherTag_hosted (id : Uuid) :
    otherTag (HostedRedeem.nonceTag id) = some (Redeem.nonceTag id) := by
  have hnone : stripPrefix "redeem:" (HostedRedeem.nonceTag id) = none := by
    unfold stripPrefix HostedRedeem.nonceTag
    rw [String.toList_append]
    rfl
  unfold otherTag
  rw [hnone]
  unfold Redeem.nonceTag HostedRedeem.nonceTag
  rw [stripPrefix_append]
  rfl

theorem mem_acceptedTag {tr : List (Event (service app) Request)} {i : Nat} {tag : String} {T : Nat}
    (h : AcceptedAt tr i tag T) : tag ∈ tr.filterMap acceptedTag := by
  obtain ⟨s, body, c, hm, haccept, -⟩ := h
  exact List.mem_filterMap.mpr ⟨_, hm, if_pos haccept⟩

theorem nonceTag_ne (id : Uuid) : Redeem.nonceTag id ≠ HostedRedeem.nonceTag id := by
  intro h
  have h := congrArg (fun tag : String => tag.toList.head?) h
  simp [Redeem.nonceTag, HostedRedeem.nonceTag] at h

/-! ## At most one redemption -/

variable {p : Pool (service app) Request ApiError Response}

/-- **The tags of the two routes** are not both accepted. -/
theorem Run.tags_exclusive (hr : Run (handle app) (oneRoute app) ReplayWindow.Idle p)
    {tag other : String} (hne : tag ≠ other) (htag : otherTag tag = some other)
    (hother : otherTag other = some tag) {i j T T' : Nat}
    (hi : AcceptedAt p.world.trace i tag T) : ¬ AcceptedAt p.world.trace j other T' := by
  have hinv : ∀ i j T T', AcceptedAt p.world.trace i tag T →
      ¬ AcceptedAt p.world.trace j other T' := by
    refine hr.invariant (I := fun w => ∀ i j T T', AcceptedAt w.trace i tag T →
      ¬ AcceptedAt w.trace j other T') (fun req => guarded_trivial [] (handle app req)) ?_ ?_ ?_ ?_
    · rintro s - i j T T' ⟨s', body, c, hm, -⟩
      exact absurd hm List.not_mem_nil
    · rintro w k req - h - i j T T' ⟨s, body, c, hm, haccept⟩ ⟨s', body', c', hm', haccept'⟩
      exact h i j T T' ⟨s, body, c, by simpa using hm, haccept⟩
        ⟨s', body', c', by simpa using hm', haccept'⟩
    · intro w k op c req _ h _ _ hR i j T T' hi hj
      -- a new acceptance of either tag rules out earlier ones of the other
      have hnew : ∀ {t t' : String} {body f answered l U}, otherTag t = some t' →
          op = .nonceDO t body →
          HEq c (Delivery.served f answered : Delivery NonceDO.Faults) →
          ¬ AcceptedAt w.trace l t' U := by
        rintro t t' body f answered l U ht rfl hc haccept
        cases hc
        have hroute : OneRoute w t f := hR
        exact (hroute t' ht).2 (mem_acceptedTag haccept)
      rcases acceptedAt_cons hi with hi | ⟨-, -, body, f, answered, hop, hc, -⟩
      · rcases acceptedAt_cons hj with hj | ⟨-, -, body, f, answered, hop, hc, -⟩
        · exact h i j T T' hi hj
        · exact hnew hother hop hc hi
      · rcases acceptedAt_cons hj with hj | ⟨-, -, body', f', answered', hop', -⟩
        · exact hnew htag hop hc hj
        · rw [hop, Op.nonceDO.injEq] at hop'
          exact hne hop'.1
    · intro w e _ h _
      exact h
  exact hinv i j T T' hi

/-- No response is replayed, since the object turns every key away. -/
theorem not_replayed {Req : Type} {tr : List (Event (service app) Req)} {i : Nat} :
    ¬ Idempotency.Replayed (own i tr) := by
  rintro ⟨shard, key, reply, hm, hstatus⟩
  obtain ⟨s, c, -, hanswer⟩ := mem_own.mp hm
  rcases Idempotency.perform_keyPath s c with hnone | hsome
  · exact absurd (hanswer.symm.trans hnone) (by simp)
  · exact hstatus 400 (Option.some.inj (hanswer.symm.trans hsome))

/-- **What a success rests on**: the grounds and the billing of its route. -/
theorem RedeemedBy.cases {R : Rules (service app) Request} {init : State → Prop}
    (hr : Run (handle app) R init p) {i : Nat} {id : Uuid} (h : RedeemedBy p i id) :
    (∃ req c, req.sid = id ∧ Redeem.Grounds app req c (own i p.world.trace) ∧
      Credits.Billed app (Redeem.charge app req c) (own i p.world.trace)) ∨
    ∃ req c, HostedRedeem.Grounds app req id c (own i p.world.trace) ∧
      Credits.Billed app (HostedRedeem.charge app req id c) (own i p.world.trace) := by
  obtain ⟨req, response, harrive, hout, hfor⟩ := h
  obtain ⟨req', hm, houtcome⟩ := hr.outcome (guarded_handle app) hout
  rw [hr.arrive_unique hm harrive] at houtcome
  cases req with
  | create req => exact hfor.elim
  | verify req => exact hfor.elim
  | redeem req =>
    obtain ⟨r, houtcome, hmap⟩ := houtcome
    rcases r with e | fresh | cached
    · cases hmap
    · obtain ⟨c, hgrounds, hbilled⟩ := houtcome.success fresh rfl
      exact .inl ⟨req, c, hfor, hgrounds, hbilled⟩
    · exact absurd (houtcome.replayed cached rfl) not_replayed
  | hostedRedeem req =>
    obtain ⟨r, houtcome, hmap⟩ := houtcome
    cases r with
    | error e => cases hmap
    | ok a =>
      obtain ⟨id', c, hnames, hgrounds, hbilled⟩ := houtcome.success a rfl
      have hfor : HostedRedeem.sessionChallenge (own i p.world.trace) = some id := hfor
      rw [hfor, Option.some.injEq] at hnames
      rw [hnames]
      exact .inr ⟨req, c, hgrounds, hbilled⟩

/-- Who redeemed a challenge had the tag of its route accepted. -/
theorem RedeemedBy.accepted {R : Rules (service app) Request} {init : State → Prop}
    (hr : Run (handle app) R init p) {i : Nat} {id : Uuid} (h : RedeemedBy p i id) :
    ∃ T, AcceptedAt p.world.trace i (Redeem.nonceTag id) T ∨
      AcceptedAt p.world.trace i (HostedRedeem.nonceTag id) T := by
  rcases h.cases hr with ⟨req, c, rfl, hgrounds, -⟩ | ⟨req, c, hgrounds, -⟩
  · obtain ⟨s, c, hcall, hreply⟩ := mem_own.mp hgrounds.accepted
    exact ⟨s.clock, .inl ⟨s, _, c, hcall, hreply, rfl⟩⟩
  · obtain ⟨s, c, hcall, hreply⟩ := mem_own.mp hgrounds.accepted
    exact ⟨s.clock, .inr ⟨s, _, c, hcall, hreply, rfl⟩⟩

/-- Within retention a tag of a redemption is accepted once. -/
theorem Run.tag_once (hr : Run (handle app) (oneRoute app) ReplayWindow.Idle p) {tag : String}
    (htag : (otherTag tag).isSome) {i j T T' : Nat} (hi : AcceptedAt p.world.trace i tag T)
    (hj : AcceptedAt p.world.trace j tag T') : i = j := by
  refine Run.accepted_once (P := fun tag => (otherTag tag).isSome) (guarded_handle app) ?_
    (fun _ hs => hs) (fun _ _ he => he) ?_ hr htag hi hj
  · intro req h tag body hop
    have hop : body = NonceStore.ttlBody nonceDedupTtl := hop
    rw [hop]
    rfl
  · intro w i tag body f answered hR hP
    have hroute : OneRoute w tag f := hR
    obtain ⟨other, hother⟩ := Option.isSome_iff_exists.mp hP
    exact (hroute other hother).1

/-- **At most one redemption.** In every run in which the requests for the tags of a challenge are
served within retention, and none after the other route's tag was accepted, one request at most
redeems the challenge. -/
theorem redeemed_once (hr : Run (handle app) (oneRoute app) ReplayWindow.Idle p) {id : Uuid}
    {i j : Nat} (hi : RedeemedBy p i id) (hj : RedeemedBy p j id) : i = j := by
  obtain ⟨T, hT⟩ := hi.accepted hr
  obtain ⟨T', hT'⟩ := hj.accepted hr
  have hexpert : (otherTag (Redeem.nonceTag id)).isSome := by
    rw [otherTag_redeem]
    rfl
  have hhosted : (otherTag (HostedRedeem.nonceTag id)).isSome := by
    rw [otherTag_hosted]
    rfl
  rcases hT with hT | hT
  · rcases hT' with hT' | hT'
    · exact Run.tag_once hr hexpert hT hT'
    · exact absurd hT'
        (Run.tags_exclusive hr (nonceTag_ne id) (otherTag_redeem id) (otherTag_hosted id) hT)
  · rcases hT' with hT' | hT'
    · exact absurd hT
        (Run.tags_exclusive hr (nonceTag_ne id) (otherTag_redeem id) (otherTag_hosted id) hT')
    · exact Run.tag_once hr hhosted hT hT'

/-! ## Samples -/

namespace Sample

/-- The sample record is proven; the shop's server and a hosted session both pass their nonce gate
and read the record, and then both go on. -/
def bothRoutes : List (Act (service .sample) Request) :=
  performs 0 (.verify submission) 9 ++ performs 1 (.redeem redemption) 5 ++
    performs 2 (.hostedRedeem hostedRedemption) 5 ++
      List.replicate 4 (.call 1 healthy) ++ List.replicate 3 (.call 2 healthy)

/-- The sample record is proven; the shop's server sends its redemption twice. -/
def sameRoute : List (Act (service .sample) Request) :=
  performs 0 (.verify submission) 9 ++ performs 1 (.redeem redemption) 5 ++
    performs 2 (.redeem redemption) 5 ++ List.replicate 4 (.call 1 healthy)

theorem idle_state : ReplayWindow.Idle state := ⟨by decide, rfl⟩

end Sample

/-- Of two redemptions by the shop's server one succeeds. -/
theorem redeemed_once_sameRoute :
    ∃ p, Run (handle .sample) (oneRoute .sample) ReplayWindow.Idle p ∧
      RedeemedBy p 1 CachedChallenge.sample.id ∧
        ∀ j, RedeemedBy p j CachedChallenge.sample.id → j = 1 := by
  have hrun : ∃ p : Pool (service .sample) Request ApiError Response,
      Run (handle .sample) (oneRoute .sample) ReplayWindow.Idle p ∧
      p.outcome 1 = some (.ok (.redeemed (.fresh ⟨"OK", true⟩))) ∧
      ∀ i req, .arrive i req ∈ p.world.trace →
        (i, req) ∈ Sample.sameRoute.filterMap Act.arrival :=
    Run.of_replay_arrivals Sample.state Sample.sameRoute Sample.idle_state (by decide +kernel)
  obtain ⟨p, hr, hout, harrivals⟩ := hrun
  obtain ⟨req, hm, -⟩ := hr.outcome (guarded_handle .sample) hout
  have hreq : req = .redeem Sample.redemption := by
    have hlist : Sample.sameRoute.filterMap Act.arrival = [(0, .verify Sample.submission),
        (1, .redeem Sample.redemption), (2, .redeem Sample.redemption)] := rfl
    have harrival := harrivals 1 req hm
    rw [hlist] at harrival
    simpa using harrival
  subst hreq
  have hone : RedeemedBy p 1 CachedChallenge.sample.id := ⟨_, _, hm, hout, rfl⟩
  exact ⟨p, hr, hone, fun j hj => redeemed_once hr hj hone⟩

/-- The shop's server and a hosted session both redeem the sample challenge. -/
theorem redeemed_twice :
    ∃ p, Run (handle .sample) (anyOrder .sample Request) (· = Sample.state) p ∧
      RedeemedBy p 1 CachedChallenge.sample.id ∧ RedeemedBy p 2 CachedChallenge.sample.id := by
  have hrun : ∃ p : Pool (service .sample) Request ApiError Response,
      Run (handle .sample) (anyOrder .sample Request) (· = Sample.state) p ∧
      (p.outcome 1 = some (.ok (.redeemed (.fresh ⟨"OK", true⟩))) ∧
        p.outcome 2 = some (.ok (.hostedRedeemed ⟨"verified", 1000, 1300⟩)) ∧
        HostedRedeem.sessionChallenge (own 2 p.world.trace) = some CachedChallenge.sample.id) ∧
      ∀ i req, .arrive i req ∈ p.world.trace →
        (i, req) ∈ Sample.bothRoutes.filterMap Act.arrival :=
    Run.of_replay_arrivals Sample.state Sample.bothRoutes rfl (by decide +kernel)
  obtain ⟨p, hr, ⟨hexpert, hhosted, hsession⟩, harrivals⟩ := hrun
  have hlist : Sample.bothRoutes.filterMap Act.arrival = [(0, .verify Sample.submission),
      (1, .redeem Sample.redemption), (2, .hostedRedeem Sample.hostedRedemption)] := rfl
  obtain ⟨req, hm, -⟩ := hr.outcome (guarded_handle .sample) hexpert
  obtain ⟨req', hm', -⟩ := hr.outcome (guarded_handle .sample) hhosted
  have hreq : req = .redeem Sample.redemption := by
    have harrival := harrivals 1 req hm
    rw [hlist] at harrival
    simpa using harrival
  have hreq' : req' = .hostedRedeem Sample.hostedRedemption := by
    have harrival := harrivals 2 req' hm'
    rw [hlist] at harrival
    simpa using harrival
  subst hreq hreq'
  exact ⟨p, hr, ⟨_, _, hm, hexpert, rfl⟩, _, _, hm', hhosted, hsession⟩

end ProviiVerifier
