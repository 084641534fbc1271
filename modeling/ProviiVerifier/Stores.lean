/-
  The store clients a handler calls: the challenge store (`do_challenge_store.rs`), the nonce
  store (`durable_object_store.rs`) and the idempotency middleware (`security/idempotency.rs`
  over `idempotency_store.rs`).

  Proved, for each client, what its outcome says about the operations it performed: a record it
  returns was answered by the object, a write it reports was acknowledged, an error has an
  answer that explains it.
-/
import ProviiVerifier.Service

namespace ProviiVerifier

open Interleaving Prog

/-! ## The challenge store -/

namespace ChallengeStore

/-- `MAX_RETRIES`. -/
def maxRetries : Nat := 3

/-- `MAX_CHALLENGE_BODY_SIZE`. -/
def maxChallengeBodySize : Nat := 65536

/-- `retry_with_backoff` around a fetch: any HTTP answer ends it; the budget is checked before
a further attempt. -/
def retryWithBackoff (id : Uuid) (req : ChallengeDO.Request) : Nat → Handler ChallengeDO.Reply
  | 0 => .fail (.internal "DO fetch failed")
  | n + 1 => do
    match ← await (.challengeDO id req) with
    | some reply => return reply
    | none =>
      if ← await .budgetLeft then retryWithBackoff id req n
      else .fail (.internal "DO fetch failed")

/-- `send_request`. -/
def sendRequest (id : Uuid) (req : ChallengeDO.Request) : Handler ChallengeDO.Reply :=
  retryWithBackoff id req maxRetries

/-- `get`. -/
def get (id : Uuid) : Handler (Option CachedChallenge) := do
  match ← sendRequest id (.get id.toString) with
  | .record challenge =>
    match challenge.validate with
    | .error e => .fail (.internal s!"Cached challenge validation failed: {e}")
    | .ok () => return some challenge
  | .status code =>
    if code = 404 ∨ code = 410 then return none
    else .fail (.internal s!"DO get returned HTTP {code}")

/-- The checks `insert` and `update` make at the storage boundary. -/
def checkChallenge (app : AppState) (id : Uuid) (challenge : CachedChallenge) :
    Except ApiError Unit :=
  if id.isNil then .error (.badRequest (some "Challenge ID must not be nil UUID"))
  else if app.challengeJsonLen challenge > maxChallengeBodySize then
    .error (.badRequest (some
      s!"Serialised challenge exceeds maximum size of {maxChallengeBodySize} bytes"))
  else .ok ()

/-- The create request for a record. -/
def createRequest (app : AppState) (id : Uuid) (challenge : CachedChallenge) :
    ChallengeDO.Request :=
  .create id.toString ⟨app.challengeJsonLen challenge, some challenge⟩

/-- The update request for a record: the object reads the lifecycle fields of the JSON. -/
def updateRequest (app : AppState) (id : Uuid) (challenge : CachedChallenge) :
    ChallengeDO.Request :=
  .update id.toString ⟨app.challengeJsonLen challenge, some challenge.asUpdate⟩

/-- `insert`. -/
def insert (app : AppState) (id : Uuid) (challenge : CachedChallenge) : Handler Unit := do
  ofExcept (checkChallenge app id challenge)
  match ← sendRequest id (createRequest app id challenge) with
  | .record _ => return ()
  | .status code =>
    if 200 ≤ code ∧ code < 300 then return ()
    else .fail (.internal s!"DO create returned HTTP {code}")

/-- `update`. -/
def update (app : AppState) (id : Uuid) (challenge : CachedChallenge) : Handler Unit := do
  ofExcept (checkChallenge app id challenge)
  match ← sendRequest id (updateRequest app id challenge) with
  | .record _ => return ()
  | .status code =>
    if code = 200 then return ()
    else if code = 409 then .fail (.conflict (some "State transition rejected by DO: "))
    else if code = 404 then .fail .notFound
    else if code = 410 then .fail (.gone (some "Challenge expired"))
    else .fail (.internal s!"DO update returned HTTP {code}")

/-- `put`: update, and create when there is nothing to update. -/
def put (app : AppState) (id : Uuid) (challenge : CachedChallenge) : Handler Unit := do
  match ← attempt (update app id challenge) with
  | .ok () => return ()
  | .error .notFound => insert app id challenge
  | .error e => .fail e

variable {h h' : History Op Res} {id : Uuid} {req : ChallengeDO.Request}

/-- The operations of a fetch. -/
def Fetch (id : Uuid) (req : ChallengeDO.Request) (op : Op) : Prop :=
  op = .challengeDO id req ∨ op = .budgetLeft

/-- The latest attempts of a fetch, none of them answered. -/
def unanswered : History Op Res → Nat
  | ⟨.budgetLeft, _⟩ :: ⟨.challengeDO _ _, none⟩ :: past => unanswered past + 1
  | _ => 0

/-- A fetch was given up: the budget was used up after an attempt, or it was the last one. -/
def GivenUp (id : Uuid) (req : ChallengeDO.Request) (h : History Op Res) : Prop :=
  ∃ left past, ⟨.budgetLeft, left⟩ :: ⟨.challengeDO id req, none⟩ :: past <:+ h ∧
    (left = false ∨ maxRetries ≤ unanswered past + 1)

/-- What the outcome of a fetch says about the answers of the object. -/
def SendOutcome (id : Uuid) (req : ChallengeDO.Request) (h : History Op Res) :
    Except ApiError ChallengeDO.Reply → Prop
  | .ok reply => ⟨.challengeDO id req, some reply⟩ ∈ h
  | .error _ => GivenUp id req h

theorem guarded_retryWithBackoff (n : Nat) (hleft : maxRetries ≤ unanswered h + (n + 1)) :
    Guarded (fun _ op => Fetch id req op) (SendOutcome id req) h
      (retryWithBackoff id req (n + 1)) := by
  induction n generalizing h with
  | zero =>
    refine ⟨.inl rfl, fun r => ?_⟩
    cases r with
    | some reply => exact List.mem_cons_self
    | none =>
      refine ⟨.inr rfl, fun left => ?_⟩
      have hgiven : GivenUp id req (⟨.budgetLeft, left⟩ :: ⟨.challengeDO id req, none⟩ :: h) :=
        ⟨left, h, List.suffix_rfl, .inr hleft⟩
      cases left <;> exact hgiven
  | succ n ih =>
    refine ⟨.inl rfl, fun r => ?_⟩
    cases r with
    | some reply => exact List.mem_cons_self
    | none =>
      refine ⟨.inr rfl, fun left => ?_⟩
      cases left with
      | false => exact ⟨false, h, List.suffix_rfl, .inl rfl⟩
      | true =>
        refine ih ?_
        show maxRetries ≤ unanswered h + 1 + (n + 1)
        omega

theorem guarded_sendRequest : Guarded (fun _ op => Fetch id req op) (SendOutcome id req) h
    (sendRequest id req) :=
  guarded_retryWithBackoff 2 (Nat.le_add_left _ _)

/-- The record was answered by the object, and passed validation. -/
def Read (id : Uuid) (c : CachedChallenge) (h : History Op Res) : Prop :=
  ⟨.challengeDO id (.get id.toString), some (.record c)⟩ ∈ h ∧ c.validate = .ok ()

theorem Read.mono {c : CachedChallenge} (hs : h <:+ h') (hr : Read id c h) : Read id c h' :=
  ⟨hs.subset hr.1, hr.2⟩

/-- What the outcome of `get` says. -/
def GetOutcome (id : Uuid) (h : History Op Res) :
    Except ApiError (Option CachedChallenge) → Prop
  | .ok (some c) => Read id c h
  | .ok none => True
  | .error _ => True

theorem guarded_get : Guarded (fun _ op => Fetch id (.get id.toString) op) (GetOutcome id) h
    (get id) := by
  refine guarded_sendRequest.bind ?_ (fun _ _ _ _ => trivial)
  intro h' reply _ hr
  cases reply with
  | record c =>
    cases hv : c.validate with
    | ok =>
      simp only [hv]
      exact ⟨hr, hv⟩
    | error e =>
      simp only [hv]
      trivial
  | status code =>
    simp only
    split <;> trivial

/-- The newest operation of a fetch that got a reply is the one that was answered. -/
theorem guarded_retryWithBackoff_newest (n : Nat) :
    Guarded (fun _ _ => True) (fun h' r => ∀ reply, r = .ok reply → ∃ past,
      h' = ⟨.challengeDO id req, some reply⟩ :: past ∧ h <:+ past) h
      (retryWithBackoff id req n) := by
  induction n generalizing h with
  | zero => exact fun _ hr => nomatch hr
  | succ n ih =>
    refine ⟨trivial, fun r => ?_⟩
    cases r with
    | some reply =>
      intro reply' hr
      cases hr
      exact ⟨h, rfl, List.suffix_rfl⟩
    | none =>
      refine ⟨trivial, fun left => ?_⟩
      cases left with
      | false => exact fun _ hr => nomatch hr
      | true =>
        refine ih.imp (fun _ _ _ => trivial) ?_
        intro h' r hr reply heq
        obtain ⟨past, hnewest, hs⟩ := hr reply heq
        exact ⟨past, hnewest,
          ((List.suffix_cons _ h).trans (List.suffix_cons ⟨.budgetLeft, true⟩ _)).trans hs⟩

/-- The newest operation of a get that found a record is the one that answered it. -/
theorem guarded_get_newest :
    Guarded (fun _ _ => True) (fun h' r => ∀ c, r = .ok (some c) → ∃ past,
      h' = ⟨.challengeDO id (.get id.toString), some (.record c)⟩ :: past ∧ h <:+ past) h
      (get id) := by
  refine (guarded_retryWithBackoff_newest maxRetries).bind ?_ fun _ _ _ _ _ hr => nomatch hr
  intro h' reply _ hnewest
  cases reply with
  | record c =>
    cases hv : c.validate with
    | ok =>
      simp only [hv]
      intro c' hr
      cases hr
      exact hnewest _ rfl
    | error e =>
      simp only [hv]
      exact fun _ hr => nomatch hr
  | status code =>
    simp only
    split
    · exact fun _ hr => nomatch hr
    · exact fun _ hr => nomatch hr

/-- The request was sent, with whatever answer. -/
def Attempted (id : Uuid) (req : ChallengeDO.Request) (h : History Op Res) : Prop :=
  ∃ r, ⟨.challengeDO id req, r⟩ ∈ h

theorem Attempted.mono (hs : h <:+ h') (ha : Attempted id req h) : Attempted id req h' := by
  obtain ⟨r, hm⟩ := ha
  exact ⟨r, hs.subset hm⟩

theorem GivenUp.attempted (hg : GivenUp id req h) : Attempted id req h := by
  obtain ⟨left, past, hs, -⟩ := hg
  exact ⟨none, hs.subset (List.mem_cons_of_mem _ List.mem_cons_self)⟩

theorem GivenUp.mono (hs : h <:+ h') (hg : GivenUp id req h) : GivenUp id req h' := by
  obtain ⟨left, past, hpast, hlast⟩ := hg
  exact ⟨left, past, hpast.trans hs, hlast⟩

/-- The request was answered with one of these replies, or given up. -/
def Concluded (P : ChallengeDO.Reply → Prop) (id : Uuid) (req : ChallengeDO.Request)
    (h : History Op Res) : Prop :=
  (∃ reply, ⟨.challengeDO id req, some reply⟩ ∈ h ∧ P reply) ∨ GivenUp id req h

theorem Concluded.mono {P : ChallengeDO.Reply → Prop} (hs : h <:+ h')
    (hc : Concluded P id req h) : Concluded P id req h' := by
  rcases hc with ⟨reply, hm, hP⟩ | hg
  · exact .inl ⟨reply, hs.subset hm, hP⟩
  · exact .inr (hg.mono hs)

theorem Concluded.attempted {P : ChallengeDO.Reply → Prop} (hc : Concluded P id req h) :
    Attempted id req h := by
  rcases hc with ⟨reply, hm, -⟩ | hg
  · exact ⟨_, hm⟩
  · exact hg.attempted

/-- What the outcome of `update` or `insert` says: unless the record fails the check at the
storage boundary, its request was sent and came to a reply in `P`, or was given up. -/
def WriteOutcome (app : AppState) (id : Uuid) (c : CachedChallenge) (req : ChallengeDO.Request)
    (P : ChallengeDO.Reply → Prop) (h : History Op Res) (r : Except ApiError Unit) : Prop :=
  checkChallenge app id c = r ∧ r ≠ .ok () ∨
    checkChallenge app id c = .ok () ∧ Concluded P id req h

variable {app : AppState} {c : CachedChallenge}

theorem guarded_insert : Guarded (fun _ op => Fetch id (createRequest app id c) op)
    (WriteOutcome app id c (createRequest app id c) fun _ => True) h (insert app id c) := by
  refine guarded_ofExcept_bind (fun _ hcheck => ?_) fun e he => .inl ⟨he, nofun⟩
  refine guarded_sendRequest.bind ?_ fun h' e _ hr => .inr ⟨hcheck, .inr hr⟩
  intro h' reply _ hr
  have hconcluded : Concluded (fun _ => True) id (createRequest app id c) h' :=
    .inl ⟨reply, hr, trivial⟩
  cases reply with
  | record d => exact .inr ⟨hcheck, hconcluded⟩
  | status code =>
    simp only
    split <;> exact .inr ⟨hcheck, hconcluded⟩

/-- An update comes to "not found" when it is answered 404. -/
theorem guarded_update : Guarded (fun _ op => Fetch id (updateRequest app id c) op)
    (fun h' r => WriteOutcome app id c (updateRequest app id c)
      (fun reply => r ≠ .error .notFound → reply ≠ .status 404) h' r) h (update app id c) := by
  refine guarded_ofExcept_bind (fun _ hcheck => ?_) fun e he => .inl ⟨he, nofun⟩
  refine guarded_sendRequest.bind ?_ fun h' e _ hr => .inr ⟨hcheck, .inr hr⟩
  intro h' reply _ hr
  cases reply with
  | record d => exact .inr ⟨hcheck, .inl ⟨_, hr, fun _ => nofun⟩⟩
  | status code =>
    have hreply : ∀ r : Except ApiError Unit, (code = 404 → r = .error .notFound) →
        WriteOutcome app id c (updateRequest app id c)
          (fun reply => r ≠ .error .notFound → reply ≠ .status 404) h' r := by
      intro r hcode
      refine .inr ⟨hcheck, .inl ⟨_, hr, fun hne heq => hne (hcode ?_)⟩⟩
      injection heq
    simp only
    split
    · exact hreply _ (by omega)
    · split
      · exact hreply _ (by omega)
      · split
        · exact hreply _ fun _ => rfl
        · split
          · exact hreply _ (by omega)
          · exact hreply _ (by omega)

/-- The operations of `put`. -/
def PutOp (app : AppState) (id : Uuid) (c : CachedChallenge) (op : Op) : Prop :=
  op = .challengeDO id (updateRequest app id c) ∨
    op = .challengeDO id (createRequest app id c) ∨ op = .budgetLeft

theorem checkChallenge_ne_notFound : checkChallenge app id c ≠ .error .notFound := by
  unfold checkChallenge
  split
  · exact nofun
  · split
    · exact nofun
    · exact nofun

/-- What `put` sent came to an end: its update, unless that was answered 404, or its create. -/
structure PutEnded (app : AppState) (id : Uuid) (c : CachedChallenge) (h : History Op Res) :
    Prop where
  update : Attempted id (updateRequest app id c) h
  ended : Concluded (· ≠ .status 404) id (updateRequest app id c) h ∨
    Concluded (fun _ => True) id (createRequest app id c) h

theorem PutEnded.mono (hs : h <:+ h') (hp : PutEnded app id c h) : PutEnded app id c h' :=
  ⟨hp.update.mono hs, hp.ended.imp (Concluded.mono hs) (Concluded.mono hs)⟩

/-- **What `put` sends**: the update request, and the create request when there is nothing to
update, unless the record fails the check at the storage boundary. -/
theorem guarded_put : Guarded (fun _ op => PutOp app id c op)
    (fun h' r => checkChallenge app id c = r ∧ r ≠ .ok () ∨ PutEnded app id c h') h
    (put app id c) := by
  refine guarded_update.seq_attempt ?_ ?_
  · rintro h' op - (rfl | rfl)
    · exact .inl rfl
    · exact .inr (.inr rfl)
  · intro h' r _ hr
    by_cases hne : r = .error .notFound
    · subst hne
      have hsent : checkChallenge app id c = .ok () ∧
          Attempted id (updateRequest app id c) h' := by
        rcases hr with ⟨hcheck, -⟩ | ⟨hcheck, hr⟩
        · exact absurd hcheck checkChallenge_ne_notFound
        · exact ⟨hcheck, hr.attempted⟩
      refine guarded_insert.grows.imp ?_ ?_
      · rintro h'' op ⟨-, rfl | rfl⟩
        · exact .inr (.inl rfl)
        · exact .inr (.inr rfl)
      · rintro h'' r ⟨hg, ⟨hcheck, hr⟩ | ⟨-, hr⟩⟩
        · exact absurd (hcheck.symm.trans hsent.1) hr
        · exact .inr ⟨hsent.2.mono hg.suffix, .inr hr⟩
    · have hended : checkChallenge app id c = r ∧ r ≠ .ok () ∨ PutEnded app id c h' := by
        rcases hr with hr | ⟨-, hr⟩
        · exact .inl hr
        · refine .inr ⟨hr.attempted, .inl ?_⟩
          rcases hr with ⟨reply, hm, hP⟩ | hg
          · exact .inl ⟨reply, hm, hP hne⟩
          · exact .inr hg
      cases r with
      | ok a => exact hended
      | error e =>
        cases e with
        | notFound => exact absurd rfl hne
        | _ => exact hended

/-- A reply that says that a request was carried out. -/
def CarriedOut : ChallengeDO.Reply → Prop
  | .record _ => True
  | .status code => 200 ≤ code ∧ code < 300

/-- The update or the create of a `put` was accepted. -/
def Landed (app : AppState) (id : Uuid) (c : CachedChallenge) (h : History Op Res) : Prop :=
  ∃ req reply, (req = updateRequest app id c ∨ req = createRequest app id c) ∧
    ⟨.challengeDO id req, some reply⟩ ∈ h ∧ CarriedOut reply

theorem Landed.mono (hs : h <:+ h') (hl : Landed app id c h) : Landed app id c h' := by
  obtain ⟨req, reply, hreq, hm, hcarried⟩ := hl
  exact ⟨req, reply, hreq, hs.subset hm, hcarried⟩

theorem guarded_insert_landed : Guarded (fun _ _ => True)
    (fun h' r => r = .ok () → Landed app id c h') h (insert app id c) := by
  refine guarded_ofExcept_bind (fun _ _ => ?_) fun _ _ hr => nomatch hr
  refine (guarded_sendRequest.imp (fun _ _ _ => trivial) fun _ _ hr => hr).bind ?_
    fun _ _ _ _ hr => nomatch hr
  intro h' reply _ hm
  cases reply with
  | record d => exact fun _ => ⟨_, _, .inr rfl, hm, trivial⟩
  | status code =>
    dsimp only
    split
    · next hcode => exact fun _ => ⟨_, _, .inr rfl, hm, hcode⟩
    · exact fun hr => nomatch hr

theorem guarded_update_landed : Guarded (fun _ _ => True)
    (fun h' r => r = .ok () → Landed app id c h') h (update app id c) := by
  refine guarded_ofExcept_bind (fun _ _ => ?_) fun _ _ hr => nomatch hr
  refine (guarded_sendRequest.imp (fun _ _ _ => trivial) fun _ _ hr => hr).bind ?_
    fun _ _ _ _ hr => nomatch hr
  intro h' reply _ hm
  cases reply with
  | record d => exact fun _ => ⟨_, _, .inl rfl, hm, trivial⟩
  | status code =>
    dsimp only
    split
    · next hcode =>
      have hcarried : CarriedOut (.status code) := ⟨hcode.ge, by omega⟩
      exact fun _ => ⟨_, _, .inl rfl, hm, hcarried⟩
    · split
      · exact fun hr => nomatch hr
      · split
        · exact fun hr => nomatch hr
        · split
          · exact fun hr => nomatch hr
          · exact fun hr => nomatch hr

/-- **A `put` that succeeds** was accepted by the object. -/
theorem guarded_put_landed : Guarded (fun _ _ => True)
    (fun h' r => r = .ok () → Landed app id c h') h (put app id c) := by
  unfold put
  refine guarded_update_landed.seq_attempt (fun _ _ _ _ => trivial) ?_
  intro h' r _ hr
  rcases r with e | _
  · cases e with
    | notFound => exact guarded_insert_landed
    | _ => exact fun hr => nomatch hr
  · exact fun _ => hr rfl

/-- A load that returns what it finds returns a record that was read. -/
theorem guarded_load {load : Except ApiError (Option CachedChallenge) → Handler CachedChallenge}
    (hfound : ∀ c, load (.ok (some c)) = return c) (hnone : ∃ e, load (.ok none) = .fail e)
    (hfailed : ∀ e, ∃ e', load (.error e) = .fail e') :
    Guarded (fun _ op => Fetch id (.get id.toString) op)
      (fun h' r => ∀ c, r = .ok c → Read id c h') h (attempt (get id) >>= load) := by
  refine guarded_get.seq_attempt (fun _ _ _ hop => hop) ?_
  intro h' r _ hr
  rcases r with e | _ | c
  · obtain ⟨e', he⟩ := hfailed e
    rw [he]
    exact fun _ hr => nomatch hr
  · obtain ⟨e', he⟩ := hnone
    rw [he]
    exact fun _ hr => nomatch hr
  · rw [hfound]
    intro d hd
    cases hd
    exact hr

-- Callers reason by the outcomes above; unfolding a fetch into its retries is never needed.
attribute [irreducible] get insert update put

end ChallengeStore

/-! ## The nonce store -/

/-- `NONCE_DEDUP_TTL`. -/
def nonceDedupTtl : Nat := 300

namespace NonceStore

/-- `MAX_NONCE_TAG_LENGTH` of the store. -/
def maxNonceTagLength : Nat := 512

/-- The JSON body `{"ttl_seconds":n}`. -/
def ttlBody (ttl : Nat) : Body Nat := ⟨16 + (Nat.repr ttl).length, some ttl⟩

/-- `check_and_set`: whether the tag is new. -/
def checkAndSet (tag : String) (ttl : Nat) : Handler Bool := do
  if tag.toList = [] then .fail (.badRequest (some "Nonce tag must not be empty"))
  else if byteLen tag > maxNonceTagLength then
    .fail (.badRequest (some
      s!"Nonce tag exceeds maximum length of {maxNonceTagLength} bytes"))
  else if tag.toList.contains '\x00' then
    .fail (.badRequest (some "Nonce tag must not contain null bytes"))
  else if ttl = 0 then .fail (.badRequest (some "Nonce TTL must be greater than zero"))
  else
    match ← await (.nonceDO tag (ttlBody ttl)) with
    | some (.verdict success) => return success
    | some (.status _) => .fail (.internal "NonceDO response parse failed")
    | none => .fail (.internal "NonceDO fetch failed")

variable {h h' : History Op Res} {tag : String} {ttl : Nat}

/-- The store accepted the tag as new. -/
def Accepted (tag : String) (h : History Op Res) : Prop :=
  ⟨.nonceDO tag (ttlBody nonceDedupTtl), some (.verdict true)⟩ ∈ h

theorem Accepted.mono (hs : h <:+ h') (ha : Accepted tag h) : Accepted tag h' :=
  hs.subset ha

/-- The operation of a check. -/
def IsCheck (tag : String) (op : Op) : Prop :=
  op = .nonceDO tag (ttlBody nonceDedupTtl)

/-- `check_and_set` says that a tag is new only if the store accepted it. -/
theorem guarded_checkAndSet : Guarded (fun _ op => IsCheck tag op)
    (fun h' r => r = .ok true → Accepted tag h') h (checkAndSet tag nonceDedupTtl) := by
  unfold checkAndSet
  split
  · exact nofun
  · split
    · exact nofun
    · split
      · exact nofun
      · split
        · exact nofun
        · refine guarded_await_bind.mpr ⟨rfl, fun r => ?_⟩
          rcases r with _ | ⟨success | code⟩
          · exact nofun
          · intro hr
            cases hr
            exact List.mem_cons_self
          · exact nofun

/-- A gate that passes only new tags passes one only if the store accepted it. -/
theorem guarded_gate {gate : Except ApiError Bool → Handler Unit}
    (hnew : gate (.ok true) = return ()) (hseen : ∃ e, gate (.ok false) = .fail e)
    (hfailed : ∀ e, ∃ e', gate (.error e) = .fail e') :
    Guarded (fun _ op => IsCheck tag op) (fun h' r => r = .ok () → Accepted tag h') h
      (attempt (checkAndSet tag nonceDedupTtl) >>= gate) := by
  refine guarded_checkAndSet.seq_attempt (fun _ _ _ hop => hop) ?_
  intro h' r _ hr
  rcases r with e | success
  · obtain ⟨e', he⟩ := hfailed e
    rw [he]
    exact nofun
  · cases success with
    | false =>
      obtain ⟨e', he⟩ := hseen
      rw [he]
      exact nofun
    | true =>
      rw [hnew]
      exact fun _ => hr rfl

attribute [irreducible] checkAndSet

end NonceStore

/-! ## Idempotency -/

namespace Idempotency

/-- Request headers, by name. -/
abbrev Headers := String → Option String

/-- `extract_idempotency_key`: the header's UUID, scoped to the method and the endpoint. -/
def extractIdempotencyKey (uni : Unicode) (headers : Headers) (method endpoint : String) :
    Except ApiError (Option String) :=
  match headers "Idempotency-Key" with
  | some key =>
    let normalizedKey := uni.toLowercase key
    if isValidUuidV4 normalizedKey = false then
      .error (.badRequest (some "Invalid Idempotency-Key format (must be UUID v4)"))
    else .ok (some (method ++ ":" ++ endpoint ++ ":" ++ normalizedKey))
  | none => .ok none

/-- The key `check_idempotency` and `store_idempotency_response` hand to the store. -/
def scopedKey (endpoint key : String) : String := endpoint ++ ":" ++ key

/-- `MAX_IDEMPOTENCY_KEY_LENGTH`. -/
def maxIdempotencyKeyLength : Nat := 512

/-- `MAX_ENDPOINT_LENGTH`. -/
def maxEndpointLength : Nat := 256

/-- `MAX_RESPONSE_BODY_LENGTH`. -/
def maxResponseBodyLength : Nat := 65536

/-- `validate_key`. -/
def validateKey (key : String) : Except ApiError Unit :=
  if key.toList = [] then .error (.badRequest (some "Idempotency key must not be empty"))
  else if byteLen key > maxIdempotencyKeyLength then
    .error (.badRequest (some
      s!"Idempotency key exceeds maximum length of {maxIdempotencyKeyLength} bytes"))
  else if key.toList.contains '\x00' then
    .error (.badRequest (some "Idempotency key must not contain null bytes"))
  else .ok ()

/-- The path `send_to_do` sends a key in. -/
def keyPath (key : String) : String := "/idempotency/" ++ percentEncode key

/-- `send_to_do`. -/
def sendToDo (app : AppState) (key : String) (method : IdempotencyDO.Method) :
    Handler IdempotencyDO.Reply := do
  match ← await (.idempotencyDO (app.idempotencyShard key) (keyPath key) method) with
  | some reply => return reply
  | none => .fail (.internal "IdempotencyDO fetch")

/-- `check`: the stored entry, if it is there and has not expired. -/
def check (app : AppState) (key : String) : Handler (Option IdempotencyDO.Entry) := do
  ofExcept (validateKey key)
  match ← sendToDo app key .get with
  | .found entry => return some entry
  | .expired | .absent => return none
  | .written _ | .duplicateKey _ _ | .status _ => .fail (.internal "invalid JSON")

/-- `store`: whether the response was stored. -/
def store (app : AppState) (key : String) (req : Body IdempotencyDO.SetRequest)
    (endpoint responseBody : String) : Handler Bool := do
  ofExcept (validateKey key)
  if endpoint.toList = [] then .fail (.badRequest (some "Endpoint must not be empty"))
  else if byteLen endpoint > maxEndpointLength then
    .fail (.badRequest (some s!"Endpoint exceeds maximum length of {maxEndpointLength} bytes"))
  else if endpoint.toList.contains '\x00' then
    .fail (.badRequest (some "Endpoint must not contain null bytes"))
  else if byteLen responseBody > maxResponseBodyLength then
    .fail (.badRequest (some
      s!"Response body exceeds maximum length of {maxResponseBodyLength} bytes"))
  else
    match ← sendToDo app key (.post req) with
    | .written success => return success
    | .duplicateKey _ _ => return false
    | .found _ | .expired | .absent | .status _ => .fail (.internal "invalid JSON")

/-- A response replayed from the store: its status and body. -/
structure CachedResponse where
  statusCode : Nat
  responseBody : String
  deriving DecidableEq

/-- `check_idempotency`: the response to replay, or `none` for a new request. -/
def checkIdempotency (app : AppState) (key endpoint requestFingerprint : String) :
    Handler (Option CachedResponse) := do
  match ← attempt (check app (scopedKey endpoint key)) with
  | .ok (some cached) =>
    if cached.requestFingerprint.toList = [] then
      .fail (.conflict (some "Idempotency key has empty fingerprint (storage corruption)"))
    else if cached.requestFingerprint ≠ requestFingerprint then
      .fail (.conflict (some "Idempotency key reused for different request"))
    else return some ⟨cached.statusCode, cached.responseBody⟩
  | .ok none => return none
  | .error _ => .fail (.serviceUnavailable (some "Idempotency check unavailable, please retry"))

/-- `store_idempotency_response`: failures are logged only. -/
def storeIdempotencyResponse (app : AppState) (key responseBody : String) (statusCode : Nat)
    (endpoint : String) (ttlSecs : Option Nat) (requestFingerprint : String) :
    Handler Unit := do
  let req : IdempotencyDO.SetRequest :=
    { responseBody := responseBody
      statusCode := statusCode
      ttlSecs := ttlSecs
      endpoint := endpoint
      requestFingerprint := requestFingerprint }
  let _ ← attempt (store app (scopedKey endpoint key) ⟨app.idempotencyJsonLen req, some req⟩
    endpoint responseBody)
  return ()

/-- `hex::encode`. -/
def hexEncode (bytes : Bytes) : String :=
  String.ofList (bytes.flatMap fun b => [hexDigit (b.toNat / 16), hexDigit b.toNat])

/-- A digit tells its nibble. -/
theorem hexDigit_mod {m n : Nat} (h : hexDigit m = hexDigit n) : m % 16 = n % 16 := by
  have h := congrArg hexValue h
  rw [hexValue_hexDigit, hexValue_hexDigit] at h
  exact h

/-- `hex::encode` keeps bytes apart. -/
theorem hexEncode_injective {bs cs : Bytes} (h : hexEncode bs = hexEncode cs) : bs = cs := by
  unfold hexEncode at h
  replace h := String.ofList_injective h
  induction bs generalizing cs with
  | nil =>
    cases cs with
    | nil => rfl
    | cons c cs => cases h
  | cons b bs ih =>
    cases cs with
    | nil => cases h
    | cons c cs =>
      simp only [List.flatMap_cons, List.cons_append, List.nil_append, List.cons.injEq] at h
      obtain ⟨hhigh, hlow, hrest⟩ := h
      have hhigh := hexDigit_mod hhigh
      have hlow := hexDigit_mod hlow
      have hb := b.toNat_lt
      have hc := c.toNat_lt
      have hbyte : b = c := UInt8.toNat_inj.mp (by omega)
      rw [hbyte, ih hrest]

/-- `usize::to_le_bytes` on `wasm32`. -/
def usizeLeBytes (n : Nat) : Bytes :=
  (List.range 4).map fun i => UInt8.ofNat (n / 256 ^ i)

/-- What `compute_request_fingerprint` hashes: both fields, each behind its length. -/
def fingerprintInput (endpoint identity : String) : Bytes :=
  usizeLeBytes (byteLen endpoint) ++ utf8Bytes endpoint ++
    (usizeLeBytes (byteLen identity) ++ utf8Bytes identity)

/-- `compute_request_fingerprint`. -/
def computeRequestFingerprint (app : AppState) (endpoint identity : String) : String :=
  hexEncode (app.sha256 (fingerprintInput endpoint identity))

/-- The check a route makes when the request has a key and the deployment a store. -/
def checkCached (app : AppState) (key : Option String) (endpoint identity : String) :
    Handler (Option CachedResponse) :=
  match key with
  | some key =>
    if app.idempotencyStore then
      checkIdempotency app key endpoint (computeRequestFingerprint app endpoint identity)
    else return none
  | none => return none

/-- What a route stores when the request has a key and the deployment a store. -/
def storeCached (app : AppState) (key : Option String) (endpoint identity : String)
    (statusCode : Nat) (responseBody : String) (ttlSecs : Option Nat) : Handler Unit :=
  match key with
  | some key =>
    if app.idempotencyStore then
      storeIdempotencyResponse app key responseBody statusCode endpoint ttlSecs
        (computeRequestFingerprint app endpoint identity)
    else return ()
  | none => return ()

variable {app : AppState} {h h' : History Op Res} {endpoint identity key : String}

/-- The operation `check` performs. -/
def checkOp (app : AppState) (key : String) : Op :=
  .idempotencyDO (app.idempotencyShard key) (keyPath key) .get

/-- The operations on the idempotency store. -/
def IsIdempotency : Op → Prop
  | .idempotencyDO _ _ _ => True
  | _ => False

/-- The store answered that it holds no response for the key. -/
def ToldNew (app : AppState) (endpoint key : String) (h : History Op Res) : Prop :=
  ∃ reply, (reply = .absent ∨ reply = .expired) ∧
    ⟨checkOp app (scopedKey endpoint key), some reply⟩ ∈ h

/-- The store answered the entry that a response is replayed from. -/
def Found (app : AppState) (endpoint key fingerprint : String) (cached : CachedResponse)
    (h : History Op Res) : Prop :=
  ∃ entry : IdempotencyDO.Entry, ⟨checkOp app (scopedKey endpoint key), some (.found entry)⟩ ∈ h ∧
    entry.requestFingerprint = fingerprint ∧ cached = ⟨entry.statusCode, entry.responseBody⟩

theorem ToldNew.mono (hs : h <:+ h') (hnew : ToldNew app endpoint key h) :
    ToldNew app endpoint key h' := by
  obtain ⟨reply, hreply, hm⟩ := hnew
  exact ⟨reply, hreply, hs.subset hm⟩

theorem Found.mono {fingerprint : String} {cached : CachedResponse} (hs : h <:+ h')
    (hfound : Found app endpoint key fingerprint cached h) :
    Found app endpoint key fingerprint cached h' := by
  obtain ⟨entry, hm, hrest⟩ := hfound
  exact ⟨entry, hs.subset hm, hrest⟩

/-- What the outcome of `check_idempotency` says about the answer of the store. -/
def CheckResult (app : AppState) (endpoint key fingerprint : String) (h : History Op Res) :
    Except ApiError (Option CachedResponse) → Prop
  | .ok (some cached) => Found app endpoint key fingerprint cached h
  | .ok none => ToldNew app endpoint key h
  | .error e => (∃ entry, ⟨checkOp app (scopedKey endpoint key), some (.found entry)⟩ ∈ h) ∨
      e = .serviceUnavailable (some "Idempotency check unavailable, please retry")

/-- **The check of a key.** -/
theorem guarded_checkIdempotency_result {fingerprint : String} :
    Guarded (fun _ op => op = checkOp app (scopedKey endpoint key))
      (CheckResult app endpoint key fingerprint) h
      (checkIdempotency app key endpoint fingerprint) := by
  refine guarded_bind.mpr (guarded_attempt.mpr ?_)
  refine guarded_ofExcept_bind (fun _ _ => ?_) fun e _ => .inr rfl
  refine ⟨rfl, fun r => ?_⟩
  rcases r with _ | (entry | _ | _ | success | ⟨body, status⟩ | code)
  · exact .inr rfl
  · have hfound : (⟨checkOp app (scopedKey endpoint key), some (.found entry)⟩ : Sigma Res) ∈
        ⟨checkOp app (scopedKey endpoint key), some (.found entry)⟩ :: h := List.mem_cons_self
    simp only [Prog.bind, pure_eq, guarded_ret, thenGuarded]
    split
    · exact .inl ⟨entry, hfound⟩
    · split
      · exact .inl ⟨entry, hfound⟩
      · next heq => exact ⟨entry, hfound, not_not.mp heq, rfl⟩
  · exact ⟨.expired, .inr rfl, List.mem_cons_self⟩
  · exact ⟨.absent, .inl rfl, List.mem_cons_self⟩
  · exact .inr rfl
  · exact .inr rfl
  · exact .inr rfl

/-- What the outcome of `check_idempotency` says: without an answer that is not a bare status
the request is turned away. -/
def CheckOutcome (app : AppState) (endpoint key : String) (h : History Op Res)
    (r : Except ApiError (Option CachedResponse)) : Prop :=
  (∃ reply, ⟨checkOp app (scopedKey endpoint key), some reply⟩ ∈ h ∧
    ∀ code, reply ≠ IdempotencyDO.Reply.status code) ∨
  r = .error (.serviceUnavailable (some "Idempotency check unavailable, please retry"))

theorem guarded_checkIdempotency {fingerprint : String} :
    Guarded (fun _ op => IsIdempotency op) (CheckOutcome app endpoint key) h
      (checkIdempotency app key endpoint fingerprint) := by
  refine guarded_checkIdempotency_result.imp ?_ ?_
  · rintro h' op rfl
    trivial
  · intro h' r hr
    rcases r with e | _ | cached
    · rcases hr with ⟨entry, hm⟩ | rfl
      · exact .inl ⟨_, hm, nofun⟩
      · exact .inr rfl
    · obtain ⟨reply, hreply, hm⟩ := hr
      refine .inl ⟨reply, hm, ?_⟩
      rcases hreply with rfl | rfl
      · exact nofun
      · exact nofun
    · obtain ⟨entry, hm, -⟩ := hr
      exact .inl ⟨_, hm, nofun⟩

/-- What a route stores of its response. -/
def setRequest (app : AppState) (endpoint identity : String) (statusCode : Nat)
    (responseBody : String) (ttlSecs : Option Nat) : IdempotencyDO.SetRequest :=
  { responseBody := responseBody
    statusCode := statusCode
    ttlSecs := ttlSecs
    endpoint := endpoint
    requestFingerprint := computeRequestFingerprint app endpoint identity }

/-- The operation `store` performs. -/
def storeOp (app : AppState) (key : String) (req : IdempotencyDO.SetRequest) : Op :=
  .idempotencyDO (app.idempotencyShard key) (keyPath key)
    (.post ⟨app.idempotencyJsonLen req, some req⟩)

/-- Storing a response never fails. -/
theorem guarded_storeIdempotencyResponse {responseBody fingerprint : String} {statusCode : Nat}
    {ttlSecs : Option Nat} :
    Guarded (fun _ op => op = storeOp app (scopedKey endpoint key)
        ⟨responseBody, statusCode, ttlSecs, endpoint, fingerprint⟩) (fun _ r => r = .ok ()) h
      (storeIdempotencyResponse app key responseBody statusCode endpoint ttlSecs
        fingerprint) := by
  refine guarded_bind.mpr (guarded_attempt.mpr ?_)
  refine guarded_ofExcept_bind (fun _ _ => ?_) fun e _ => rfl
  repeat' split
  all_goals try rfl
  refine ⟨rfl, fun r => ?_⟩
  rcases r with _ | (entry | _ | _ | success | ⟨body, status⟩ | code) <;> rfl

/-- The store answered a check with more than a bare status. -/
def Replayed (h : History Op Res) : Prop :=
  ∃ shard key reply, ⟨.idempotencyDO shard (keyPath key) .get, some reply⟩ ∈ h ∧
    ∀ code, reply ≠ IdempotencyDO.Reply.status code

theorem Replayed.mono (hs : h <:+ h') (hr : Replayed h) : Replayed h' := by
  obtain ⟨shard, key, reply, hm, hstatus⟩ := hr
  exact ⟨shard, key, reply, hs.subset hm, hstatus⟩

/-- The key a route uses: the deployment has a store. -/
def KeyInUse (app : AppState) (key : Option String) (k : String) : Prop :=
  key = some k ∧ app.idempotencyStore = true

/-- What the check of a route comes to. -/
structure CachedResult (app : AppState) (key : Option String) (endpoint identity : String)
    (h : History Op Res) (r : Except ApiError (Option CachedResponse)) : Prop where
  found : ∀ cached, r = .ok (some cached) → ∃ k, KeyInUse app key k ∧
    Found app endpoint k (computeRequestFingerprint app endpoint identity) cached h
  new : r = .ok none → ∀ k, KeyInUse app key k → ToldNew app endpoint k h

theorem guarded_checkCached_result {key : Option String} :
    Guarded (fun _ op => ∃ k, KeyInUse app key k ∧ op = checkOp app (scopedKey endpoint k))
      (CachedResult app key endpoint identity) h (checkCached app key endpoint identity) := by
  unfold checkCached
  split
  · next k =>
    split
    · next hstore =>
      refine guarded_checkIdempotency_result.imp (fun _ _ hop => ⟨k, ⟨rfl, hstore⟩, hop⟩) ?_
      intro h' r hr
      refine ⟨?_, ?_⟩
      · rintro cached rfl
        exact ⟨k, ⟨rfl, hstore⟩, hr⟩
      · rintro rfl k' ⟨hk, -⟩
        cases hk
        exact hr
    · next hstore =>
      refine ⟨nofun, ?_⟩
      rintro - k' ⟨-, hstore'⟩
      exact absurd hstore' hstore
  · refine ⟨nofun, ?_⟩
    rintro - k' ⟨hk, -⟩
    cases hk

theorem guarded_checkCached {key : Option String} : Guarded (fun _ op => IsIdempotency op)
    (fun h' r => ∀ cached, r = .ok (some cached) → Replayed h') h
    (checkCached app key endpoint identity) := by
  refine guarded_checkCached_result.imp ?_ ?_
  · rintro h' op ⟨k, -, rfl⟩
    trivial
  · intro h' r hr cached hcached
    obtain ⟨k, -, entry, hm, -⟩ := hr.found cached hcached
    exact ⟨_, _, _, hm, nofun⟩

theorem guarded_storeCached_result {key : Option String} {statusCode : Nat}
    {responseBody : String} {ttlSecs : Option Nat} :
    Guarded (fun _ op => ∃ k, KeyInUse app key k ∧ op = storeOp app (scopedKey endpoint k)
        (setRequest app endpoint identity statusCode responseBody ttlSecs)) (fun _ r => r = .ok ())
      h (storeCached app key endpoint identity statusCode responseBody ttlSecs) := by
  unfold storeCached
  split
  · next k =>
    split
    · next hstore =>
      exact guarded_storeIdempotencyResponse.imp (fun _ _ hop => ⟨k, ⟨rfl, hstore⟩, hop⟩)
        fun _ _ hr => hr
    · rfl
  · rfl

theorem guarded_storeCached {key : Option String} {statusCode : Nat} {responseBody : String}
    {ttlSecs : Option Nat} : Guarded (fun _ op => IsIdempotency op) (fun _ r => r = .ok ()) h
      (storeCached app key endpoint identity statusCode responseBody ttlSecs) := by
  refine guarded_storeCached_result.imp ?_ fun _ _ hr => hr
  rintro h' op ⟨k, -, rfl⟩
  trivial

/-- The object turns every key of the store away. -/
theorem perform_keyPath (s : State) {shard : Nat} {method : IdempotencyDO.Method}
    (c : Choice (.idempotencyDO shard (keyPath key) method)) :
    (perform app s (.idempotencyDO shard (keyPath key) method) c).1 = none ∨
      (perform app s (.idempotencyDO shard (keyPath key) method) c).1 = some (.status 400) := by
  cases c with
  | lost => exact .inl rfl
  | late => exact .inl rfl
  | served f answered =>
    cases answered with
    | false => exact .inl rfl
    | true =>
      refine .inr ?_
      have := IdempotencyDO.fetch_percentEncode (s.idempotency shard) s.clock f key method
      simp only [perform, State.serveIdempotency, keyPath, this, if_true]

attribute [irreducible] checkIdempotency storeIdempotencyResponse checkCached storeCached

end Idempotency

end ProviiVerifier
