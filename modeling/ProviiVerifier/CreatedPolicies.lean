/-
  The policy that `create_challenge` judges a request by, and what its record keeps of it.

  Proved: the record is for the request's own origin, and its key is one of the policy of that
  origin or, for a sandbox client, of the policy of the origin registered for the client
  (`guarded_createChallenge_records`).
-/
import ProviiVerifier.CreateChallenge
import ProviiVerifier.Interleaving.Play
import ProviiVerifier.OriginPolicyStore
import ProviiVerifier.Verify

namespace ProviiVerifier

open Interleaving Prog

namespace CreateChallenge

variable {app : AppState} {req : CreateChallengeRequest} {h h' : History Op Res}
  {origin : String} {policy : OriginPolicy}

/-! ## The policy of a creation -/

/-- The origin that a read of the client lookup names. -/
def lookedUp : KvRead → Option String
  | .value registeredOrigin =>
    if registeredOrigin.toList = [] then none else some registeredOrigin
  | .missing | .failed | .timedOut | .bindingError => none

/-- Where the policy of a creation came from. -/
inductive Resolved (app : AppState) (req : CreateChallengeRequest) (origin : String)
    (h : History Op Res) : OriginPolicy → Prop
  | own {policy : OriginPolicy}
      (hnone : shouldSkipOriginCheckForRpSandbox app.environment req.authorizer.keyId = true →
        ∃ read : KvRead, ⟨.configGet (clientLookupKey req.authorizer.keyId), read⟩ ∈ h ∧
          lookedUp read = none)
      (hfound : ⟨.getPolicyDetail origin, .ok (.found policy)⟩ ∈ h) :
      Resolved app req origin h policy
  | registered {policy : OriginPolicy} {read : KvRead} {registeredOrigin : String}
      (hskip : shouldSkipOriginCheckForRpSandbox app.environment req.authorizer.keyId = true)
      (hread : ⟨.configGet (clientLookupKey req.authorizer.keyId), read⟩ ∈ h)
      (hlookup : lookedUp read = some registeredOrigin)
      (hfound : ⟨.getPolicyDetail registeredOrigin, .ok (.found policy)⟩ ∈ h) :
      Resolved app req origin h (applySandboxBypassOverrides policy)

theorem Resolved.mono (hs : h <:+ h') (hr : Resolved app req origin h policy) :
    Resolved app req origin h' policy := by
  cases hr with
  | own hnone hfound =>
    refine .own (fun hskip => ?_) (hs.subset hfound)
    obtain ⟨read, hread, hlookup⟩ := hnone hskip
    exact ⟨read, hs.subset hread, hlookup⟩
  | registered hskip hread hlookup hfound =>
    exact .registered hskip (hs.subset hread) hlookup (hs.subset hfound)

theorem requirePolicy_ok {detail : PolicyLookupResult} (hok : requirePolicy detail = .ok policy) :
    detail = .found policy := by
  cases detail with
  | found p =>
    injection hok with hok
    rw [hok]
  | disabled => cases hok
  | notFound => cases hok

/-- **The policy a creation goes by.** -/
theorem guarded_resolvePolicy_found : Guarded (fun _ op => PolicyOp op)
    (fun h' r => ∀ policy, r = .ok policy → Resolved app req origin h' policy) h
    (resolvePolicy app req origin) := by
  unfold resolvePolicy
  refine guarded_await_bind.mpr ⟨trivial, fun answer => ?_⟩
  -- the policy of the request's own origin, taken after whatever was read in between
  have hown : ∀ h' : History Op Res, ⟨.getPolicyDetail origin, answer⟩ ∈ h' →
      (shouldSkipOriginCheckForRpSandbox app.environment req.authorizer.keyId = true →
        ∃ read : KvRead, ⟨.configGet (clientLookupKey req.authorizer.keyId), read⟩ ∈ h' ∧
          lookedUp read = none) →
      Guarded (fun _ op => PolicyOp op)
        (fun h' r => ∀ policy, r = .ok policy → Resolved app req origin h' policy) h'
        (ofExcept answer >>= fun detail =>
          (ofExcept (requirePolicy detail) : Handler OriginPolicy)) := by
    intro h' hanswer hnone
    refine guarded_ofExcept_bind (fun detail hdetail => ?_) fun e _ => nofun
    refine guarded_ofExcept.mpr fun policy hpolicy => ?_
    rw [hdetail, requirePolicy_ok hpolicy] at hanswer
    exact .own hnone hanswer
  split
  · next hskip =>
    split
    · exact nofun
    · refine guarded_await_bind.mpr ⟨trivial, fun read => ?_⟩
      cases read with
      | value registeredOrigin =>
        dsimp only
        split
        · next hempty =>
          refine hown _ (by simp) fun _ => ⟨_, List.mem_cons_self, ?_⟩
          exact if_pos hempty
        · next hnonempty =>
          unfold registeredPolicy
          refine guarded_await_bind.mpr ⟨trivial, fun detail => ?_⟩
          refine guarded_ofExcept_bind (fun found hfound => ?_) fun _ _ => nofun
          cases found with
          | found policy =>
            intro p hp
            injection hp with hp
            subst hp
            have hlookup : lookedUp (.value registeredOrigin) = some registeredOrigin :=
              if_neg hnonempty
            refine .registered hskip (by simp) hlookup ?_
            rw [hfound]
            exact List.mem_cons_self
          | disabled => exact nofun
          | notFound => exact nofun
      | missing => exact hown _ (by simp) fun _ => ⟨_, List.mem_cons_self, rfl⟩
      | failed => exact nofun
      | timedOut => exact nofun
      | bindingError => exact nofun
  · next hskip => exact hown _ (by simp) fun h => absurd h hskip

/-! ## The record of a creation -/

/-- What the record of a creation says. -/
structure Records (app : AppState) (req : CreateChallengeRequest) (h : History Op Res)
    (c : CachedChallenge) : Prop where
  origin : req.headers "Origin" = some c.origin
  policy : ∃ policy vk, Resolved app req c.origin h policy ∧
    selectVerifyingKey policy req.verifyingKeyId = .ok vk ∧ c.verifyingKeyId = vk.val

theorem Records.mono {c : CachedChallenge} (hs : h <:+ h') (hr : Records app req h c) :
    Records app req h' c := by
  obtain ⟨policy, vk, hresolved, hselect, hvk⟩ := hr.policy
  exact ⟨hr.origin, policy, vk, hresolved.mono hs, hselect, hvk⟩

/-- How a creation makes its record: under a policy that was resolved and the entry of
`ORIGIN_INDEX` that was read. -/
structure Made (app : AppState) (req : CreateChallengeRequest) (h : History Op Res)
    (c : CachedChallenge) : Prop where
  origin : req.headers "Origin" = some c.origin
  terms : ∃ policy entry readAt t, Resolved app req c.origin h policy ∧
    ⟨.originIndexGet c.origin, entry⟩ ∈ h ∧
    terms app req policy (originIndexJson entry) readAt = .ok t ∧
    ∃ client id nonce submitSecret now,
      c = newRecord app req c.origin client t id nonce submitSecret now

theorem Made.mono {c : CachedChallenge} (hs : h <:+ h') (hm : Made app req h c) :
    Made app req h' c := by
  obtain ⟨policy, entry, readAt, t, hresolved, hentry, hmade⟩ := hm.terms
  exact ⟨hm.origin, policy, entry, readAt, t, hresolved.mono hs, hs.subset hentry, hmade⟩

/-- The record that an operation asks an object to create. -/
def createdBy : Op → Option CachedChallenge
  | .challengeDO _ (.create _ body) => body.value
  | _ => none

/-- The operation creates only a record as said. -/
def CreatesOnly (P : CachedChallenge → Prop) (op : Op) : Prop := ∀ c, createdBy op = some c → P c

section Alphabets

variable {P : CachedChallenge → Prop} {op : Op}

/-- An operation that creates no record. -/
theorem createsOnly_none (hop : createdBy op = none) : CreatesOnly P op := by
  intro c hc
  rw [hop] at hc
  cases hc

theorem createsOnly_put {id : Uuid} {c : CachedChallenge} (hop : ChallengeStore.PutOp app id c op)
    (hc : P c) : CreatesOnly P op := by
  obtain rfl | rfl | rfl := hop
  · exact createsOnly_none rfl
  · intro c' heq
    injection heq with heq
    rw [← heq]
    exact hc
  · exact createsOnly_none rfl

theorem createsOnly_policy (hop : PolicyOp op) : CreatesOnly P op := by
  apply createsOnly_none
  cases op <;> first | rfl | exact hop.elim

theorem createsOnly_idempotency (hop : Idempotency.IsIdempotency op) : CreatesOnly P op := by
  apply createsOnly_none
  cases op <;> first | rfl | exact hop.elim

theorem createsOnly_quota (hop : IsQuota op) : CreatesOnly P op := by
  apply createsOnly_none
  cases op <;> first | rfl | exact hop.elim

theorem createsOnly_auth {authorizer : Authorizer}
    (hop : ClientAuthenticator.AuthOp authorizer op) : CreatesOnly P op := by
  apply createsOnly_none
  obtain rfl | hop | ⟨body, rfl⟩ := hop
  · rfl
  · cases op <;> first | rfl | exact hop.elim
  · rfl

end Alphabets

theorem requireOrigin_ok {headers : Headers} (hok : requireOrigin headers = .ok origin) :
    headers "Origin" = some origin := by
  unfold requireOrigin at hok
  split at hok
  · next o horigin =>
    split at hok
    · cases hok
    · injection hok with hok
      rw [← hok]
      exact horigin
  · cases hok

theorem terms_ok {originIndex : Option String} {now : Nat} {t : Terms}
    (hok : terms app req policy originIndex now = .ok t) :
    selectVerifyingKey policy req.verifyingKeyId = .ok t.verifyingKeyId := by
  unfold terms at hok
  obtain ⟨ageYears, -, hok⟩ := except_bind_ok hok
  obtain ⟨vk, hselect, hok⟩ := except_bind_ok hok
  obtain ⟨days, -, hok⟩ := except_bind_ok hok
  injection hok with hok
  rw [← hok]
  exact hselect

theorem guarded_publish_records {idempotencyKey : Option String} {client : ClientAuthConfig}
    {t : Terms} {P : CachedChallenge → Prop}
    (hP : ∀ id nonce submitSecret now,
      P (newRecord app req origin client t id nonce submitSecret now)) :
    Guarded (fun _ op => CreatesOnly P op) (fun _ _ => True) h
      (publish app req idempotencyKey origin client t) := by
  unfold publish
  refine guarded_await_bind.mpr ⟨createsOnly_none rfl, fun id => ?_⟩
  refine guarded_await_bind.mpr ⟨createsOnly_none rfl, fun nonce => ?_⟩
  refine guarded_await_bind.mpr ⟨createsOnly_none rfl, fun submitSecret => ?_⟩
  refine guarded_await_bind.mpr ⟨createsOnly_none rfl, fun now => ?_⟩
  refine ChallengeStore.guarded_put.seq_attempt ?_ ?_
  · exact fun _ _ _ hop => createsOnly_put hop (hP _ _ _ _)
  · intro h1 r _ _
    cases r with
    | error e => trivial
    | ok _ =>
      refine guarded_await_bind.mpr ⟨createsOnly_none rfl, fun stored => ?_⟩
      split
      · exact Idempotency.guarded_storeCached.seq (fun _ _ _ => createsOnly_idempotency)
          (fun _ _ _ _ => trivial) fun _ _ _ _ => trivial
      · trivial

/-- **How every record of a creation is made.** -/
theorem guarded_createChallenge_made (app : AppState) (req : CreateChallengeRequest) :
    (createChallenge app req).Guarded (fun h op => CreatesOnly (Made app req h) op)
      (fun _ _ => True) [] := by
  unfold createChallenge
  refine guarded_ofExcept_bind (fun _ _ => ?_) fun _ _ => trivial
  refine guarded_ofExcept_bind (fun origin horigin => ?_) fun _ _ => trivial
  have horigin := requireOrigin_ok horigin
  refine guarded_ofExcept_bind (fun idempotencyKey _ => ?_) fun _ _ => trivial
  refine guarded_ofExcept_bind (fun _ _ => ?_) fun _ _ => trivial
  refine guarded_resolvePolicy_found.seq (fun _ _ _ => createsOnly_policy) ?_
    fun _ _ _ _ => trivial
  intro h1 policy _ hresolved
  have hresolved := hresolved policy rfl
  split
  · trivial
  · refine ClientAuthenticator.guarded_authenticateTracked.seq (fun _ _ _ => createsOnly_auth) ?_
      fun _ _ _ _ => trivial
    intro h2 client hg2 _
    refine Idempotency.guarded_checkCached.seq (fun _ _ _ => createsOnly_idempotency) ?_
      fun _ _ _ _ => trivial
    intro h3 response hg3 _
    cases response with
    | some response => trivial
    | none =>
      refine guarded_enforceAccountQuota.seq (fun _ _ _ => createsOnly_quota) ?_
        fun _ _ _ _ => trivial
      intro h4 _ hg4 _
      refine guarded_await_bind.mpr ⟨createsOnly_none rfl, fun entry => ?_⟩
      refine guarded_ofExcept_bind (fun _ _ => ?_) fun _ _ => trivial
      refine guarded_await_bind.mpr ⟨createsOnly_none rfl, fun now => ?_⟩
      refine guarded_ofExcept_bind (fun t ht => ?_) fun _ _ => trivial
      have hs : h1 <:+ h4 := (hg2.suffix.trans hg3.suffix).trans hg4.suffix
      have hmade : ∀ id nonce submitSecret now', Made app req
          (⟨.timestamp, now⟩ :: ⟨.originIndexGet origin, entry⟩ :: h4)
          (newRecord app req origin client t id nonce submitSecret now') := by
        intro id nonce submitSecret now'
        have hs' := hs.trans ((List.suffix_cons ⟨.originIndexGet origin, entry⟩ h4).trans
          (List.suffix_cons ⟨.timestamp, now⟩ _))
        exact ⟨horigin, policy, entry, now, t, hresolved.mono hs',
          List.mem_cons_of_mem _ List.mem_cons_self, ht, client, id, nonce, submitSecret, now', rfl⟩
      refine (guarded_publish_records hmade).suffix.imp ?_ fun _ _ _ => trivial
      rintro h' op ⟨hs', hcreates⟩ c hc
      exact (hcreates c hc).mono hs'

theorem Made.records {c : CachedChallenge} (hm : Made app req h c) : Records app req h c := by
  obtain ⟨policy, entry, readAt, t, hresolved, -, ht, client, id, nonce, submitSecret, now, hc⟩ :=
    hm.terms
  refine ⟨hm.origin, policy, t.verifyingKeyId, hresolved, terms_ok ht, ?_⟩
  rw [hc]
  rfl

/-- **Every record a creation creates** is for the request's own origin, and for a key of the
policy the request was judged by. -/
theorem guarded_createChallenge_records (app : AppState) (req : CreateChallengeRequest) :
    (createChallenge app req).Guarded (fun h op => CreatesOnly (Records app req h) op)
      (fun _ _ => True) [] :=
  (guarded_createChallenge_made app req).imp
    (fun _ _ hcreates c hc => (hcreates c hc).records) fun _ _ _ => trivial

end CreateChallenge

end ProviiVerifier
