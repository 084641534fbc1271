/-
  Handlers running alone over healthy dependencies: every object serves every request, stores
  answer their content, issuers are in good standing and credits are settled.

  Proved: what the store clients then come to. A get answers a record that has not expired, a put
  stores the merged record, and a tag is accepted exactly when it is free.
-/
import ProviiVerifier.Interleaving.Exec
import ProviiVerifier.ChallengeRecords

namespace ProviiVerifier

open Interleaving Prog

/-- Nothing goes wrong at an operation. -/
structure Healthy (pick : (op : Op) → Choice op) : Prop where
  challengeDO : ∀ id req, pick (.challengeDO id req) = .served .none true
  nonceDO : ∀ tag body, pick (.nonceDO tag body) = .served .none true
  idempotencyDO : ∀ shard path method, pick (.idempotencyDO shard path method) =
    .served .none true
  isBanned : ∀ nullifier, pick (.isBanned nullifier) = (.ok false : Except ApiError Bool)
  getCachedPolicy : ∀ origin, pick (.getCachedPolicy origin) = none
  getPolicyDetail : ∀ origin, pick (.getPolicyDetail origin) = none
  accountQuota : ∀ clientId endpoint, pick (.accountQuota clientId endpoint) =
    (.ok () : Except ApiError Unit)
  peekIssuer : ∀ hash, Option.any (·.revoked) (pick (.peekIssuer hash)) = false
  lookupIssuer : ∀ hash, ∃ issuer : IssuerMeta,
    pick (.lookupIssuer hash) = (.ok issuer : Except ApiError IssuerMeta) ∧ issuer.revoked = false
  originIndexGet : ∀ origin, pick (.originIndexGet origin) = none
  credits : ∀ binding req, pick (.credits binding req) = .settled (some (.json 200))
  getSession : ∀ sessionId, pick (.getSession sessionId) = none
  putSession : ∀ sessionId session, pick (.putSession sessionId session) = true

theorem healthy_healthy : Healthy healthy :=
  { challengeDO := fun _ _ => rfl
    nonceDO := fun _ _ => rfl
    idempotencyDO := fun _ _ _ => rfl
    isBanned := fun _ => rfl
    getCachedPolicy := fun _ => rfl
    getPolicyDetail := fun _ => rfl
    accountQuota := fun _ _ => rfl
    peekIssuer := fun _ => rfl
    lookupIssuer := fun _ => ⟨⟨"issuer", false⟩, rfl, rfl⟩
    originIndexGet := fun _ => rfl
    credits := fun _ _ => rfl
    getSession := fun _ => rfl
    putSession := fun _ _ => rfl }

/-- A handler of the service running alone: its outcome and the state it leaves. -/
def alone {ε α : Type} (app : AppState) (pick : (op : Op) → Choice op) (p : Prog Op Res ε α)
    (s : State) : Except ε α × State :=
  p.exec (service app) pick s

section Alone

variable {app : AppState} {pick : (op : Op) → Choice op} {s s' : State} {ε ε' α β : Type}

@[simp] theorem alone_ret (a : α) :
    alone app pick (ret a : Prog Op Res ε α) s = (.ok a, s) := rfl

@[simp] theorem alone_fail (e : ε) :
    alone app pick (fail e : Prog Op Res ε α) s = (.error e, s) := rfl

theorem alone_await (op : Op) (f : Res op → Prog Op Res ε β) :
    alone app pick (await op >>= f) s =
      alone app pick (f (perform app s op (pick op)).1) (perform app s op (pick op)).2 := rfl

theorem alone_bind_ok {p : Prog Op Res ε α} {f : α → Prog Op Res ε β} {a : α}
    (h : alone app pick p s = (.ok a, s')) :
    alone app pick (p >>= f) s = alone app pick (f a) s' :=
  exec_bind_ok h

theorem alone_bind_error {p : Prog Op Res ε α} {f : α → Prog Op Res ε β} {e : ε}
    (h : alone app pick p s = (.error e, s')) : alone app pick (p >>= f) s = (.error e, s') :=
  exec_bind_error h

theorem alone_attempt_bind {p : Prog Op Res ε α} {f : Except ε α → Prog Op Res ε' β}
    {r : Except ε α} (h : alone app pick p s = (r, s')) :
    alone app pick (attempt p >>= f) s = alone app pick (f r) s' :=
  exec_attempt_bind h

theorem alone_ofExcept_bind_ok {r : Except ε α} {f : α → Prog Op Res ε β} {a : α}
    (h : r = .ok a) : alone app pick (ofExcept r >>= f) s = alone app pick (f a) s := by
  rw [h]
  rfl

end Alone

variable {app : AppState} {pick : (op : Op) → Choice op} {s : State} {id : Uuid}
  {c e : CachedChallenge}

/-! ## The challenge store -/

theorem perform_challengeDO (hp : Healthy pick) (id : Uuid) (req : ChallengeDO.Request) :
    perform app s (.challengeDO id req) (pick (.challengeDO id req)) =
      s.serveChallenge .none id req := by
  rw [hp.challengeDO]
  rfl

/-- A get of a record that has not expired answers it and changes nothing. -/
theorem serveChallenge_stored (hc : s.record id = some c) (hexp : s.clock < c.expiresAt) :
    s.serveChallenge .none id (.get id.toString) = (some (.record c), s) := by
  have hget : ChallengeDO.getChallenge (s.challenges id) s.clock .none id.toString =
      (some (.record c), s.challenges id) := by
    have hc : (s.challenges id).records id.toString = some c := hc
    simp only [ChallengeDO.getChallenge, validateChallengeId_toString,
      ChallengeDO.Storage.readRecord, ChallengeDO.Faults.none, if_true, hc]
    rw [if_pos hexp]
  simp only [State.serveChallenge, ChallengeDO.fetch, hget, Function.update_eq_self]

theorem alone_sendRequest (app : AppState) (hp : Healthy pick) {req : ChallengeDO.Request}
    {reply : ChallengeDO.Reply} (h : (s.serveChallenge .none id req).1 = some reply) :
    alone app pick (ChallengeStore.sendRequest id req) s =
      (.ok reply, (s.serveChallenge .none id req).2) := by
  unfold ChallengeStore.sendRequest ChallengeStore.maxRetries ChallengeStore.retryWithBackoff
  rw [alone_await, perform_challengeDO hp, h]
  rfl

/-- **A get** answers a stored record that has not expired. -/
theorem alone_get (hp : Healthy pick) (hc : s.record id = some c) (hexp : s.clock < c.expiresAt)
    (hvalid : c.validate = .ok ()) :
    alone app pick (ChallengeStore.get id) s = (.ok (some c), s) := by
  have hserve := serveChallenge_stored hc hexp
  have hsend := alone_sendRequest app hp (congrArg Prod.fst hserve)
  unfold ChallengeStore.get
  rw [alone_bind_ok hsend, hserve]
  simp only [hvalid]
  rfl

/-- The state with another record for a challenge. -/
def State.putRecord (s : State) (id : Uuid) (c : CachedChallenge) : State :=
  let stored := (s.challenges id).putRecord id.toString c
  { s with challenges := Function.update s.challenges id stored }

@[simp] theorem putRecord_record : (s.putRecord id c).record id = some c := by
  simp [State.putRecord, State.record]

/-- An update that the object accepts stores the merged record. -/
theorem serveChallenge_update (he : s.record id = some e)
    (hlen : app.challengeJsonLen c ≤ maxDoBodySize)
    (htime : s.clock < e.expiresAt ∨ isTerminalState c.state = true)
    (htrans : isValidTransition e.state c.state = true) :
    s.serveChallenge .none id (ChallengeStore.updateRequest app id c) =
      (some (.status 200), s.putRecord id (ChallengeDO.mergeUpdate e c.asUpdate)) := by
  have he : (s.challenges id).records id.toString = some e := he
  have hguard : ¬ (s.clock ≥ e.expiresAt ∧ isTerminalState c.asUpdate.state = false) := by
    rintro ⟨hge, hterm⟩
    rcases htime with htime | htime
    · omega
    · have hterm : isTerminalState c.state = false := hterm
      rw [htime] at hterm
      cases hterm
  have htable : ¬ (e.state ≠ c.asUpdate.state ∧
      isValidTransition e.state c.asUpdate.state = false) := by
    rintro ⟨-, hinvalid⟩
    have hinvalid : isValidTransition e.state c.state = false := hinvalid
    rw [htrans] at hinvalid
    cases hinvalid
  have hput : ChallengeDO.putWithRetry ChallengeDO.Faults.none.recordPut = true := rfl
  have hupdate : ChallengeDO.updateChallenge (s.challenges id) s.clock .none id.toString
      ⟨app.challengeJsonLen c, some c.asUpdate⟩ =
      (some (.status 200),
        (s.challenges id).putRecord id.toString (ChallengeDO.mergeUpdate e c.asUpdate)) := by
    simp only [ChallengeDO.updateChallenge, validateChallengeId_toString,
      ChallengeDO.Storage.readRecord, ChallengeDO.Faults.none, if_true, he]
    rw [if_neg (by omega), if_neg hguard, if_neg htable]
    exact if_pos hput
  simp only [State.serveChallenge, ChallengeStore.updateRequest, ChallengeDO.fetch, hupdate,
    State.putRecord]

/-- **A put** of an acceptable record stores it, merged into the stored one. -/
theorem alone_put (hp : Healthy pick) (he : s.record id = some e)
    (hcheck : ChallengeStore.checkChallenge app id c = .ok ())
    (htime : s.clock < e.expiresAt ∨ isTerminalState c.state = true)
    (htrans : isValidTransition e.state c.state = true) :
    alone app pick (ChallengeStore.put app id c) s =
      (.ok (), s.putRecord id (ChallengeDO.mergeUpdate e c.asUpdate)) := by
  have hlen : app.challengeJsonLen c ≤ maxDoBodySize := by
    unfold ChallengeStore.checkChallenge ChallengeStore.maxChallengeBodySize at hcheck
    unfold maxDoBodySize
    split at hcheck
    · cases hcheck
    · split at hcheck
      · cases hcheck
      · omega
  have hserve := serveChallenge_update he hlen htime htrans
  have hsend := alone_sendRequest app hp (congrArg Prod.fst hserve)
  have hupdate : alone app pick (ChallengeStore.update app id c) s =
      (.ok (), s.putRecord id (ChallengeDO.mergeUpdate e c.asUpdate)) := by
    unfold ChallengeStore.update
    rw [alone_ofExcept_bind_ok hcheck, alone_bind_ok hsend, hserve]
    rfl
  unfold ChallengeStore.put
  rw [alone_attempt_bind hupdate]
  rfl

/-! ## The nonce store -/

/-- The tag has no entry that still counts. -/
def TagFree (app : AppState) (s : State) (tag : String) : Prop :=
  NonceDO.Free (s.nonces (app.nonceShard tag)) s.clock tag

/-- A tag as the routes make them: a short label and an id. -/
structure RouteTag (tag : String) : Prop where
  nonempty : tag.toList ≠ []
  short : byteLen tag ≤ NonceStore.maxNonceTagLength
  clean : tag.toList.contains '\x00' = false
  valid : ∀ uni, validateNonceTag uni tag = .ok ()

/-- A label of tag characters in front of an id makes a tag. -/
theorem routeTag_label {label : String} (id : Uuid) (hlen : label.toList.length ≤ 220)
    (hl : ∀ c ∈ label.toList, isTagChar c = true) : RouteTag (label ++ id.toString) := by
  have hchars : ∀ c ∈ (label ++ id.toString).toList, isTagChar c = true := by
    intro c hc
    rw [String.toList_append, List.mem_append] at hc
    rcases hc with hc | hc
    · exact hl c hc
    · have hhex : ∀ c ∈ hexDigits, isTagChar c = true := List.all_eq_true.mp (by decide)
      rcases Uuid.mem_toString hc with hc | rfl
      · exact hhex c hc
      · decide
  have hid : id.toString.toList.length = 36 := by
    rw [Uuid.toString_toList]
    simp [Uuid.digits]
  refine ⟨?_, ?_, ?_, fun uni => validateNonceTag_label uni id hlen hl⟩
  · intro hnil
    have hlength := congrArg List.length hnil
    simp [hid] at hlength
  · have hbytes := byteLen_ofList fun c hc => isTagChar_ascii (hchars c hc)
    rw [String.ofList_toList] at hbytes
    rw [hbytes, String.toList_append, List.length_append, hid]
    unfold NonceStore.maxNonceTagLength
    omega
  · rw [List.contains_eq_any_beq, List.any_eq_false]
    intro c hc hnul
    have htag := hchars c hc
    rw [beq_iff_eq] at hnul
    subst hnul
    exact absurd htag (by decide)

theorem perform_nonceDO (hp : Healthy pick) (tag : String) (body : Body Nat) :
    perform app s (.nonceDO tag body) (pick (.nonceDO tag body)) =
      s.serveNonce app .none tag body := by
  rw [hp.nonceDO]
  rfl

/-- The state with a tag consumed at its clock. -/
def State.consumed (app : AppState) (s : State) (tag : String) : State :=
  (s.serveNonce app .none tag (NonceStore.ttlBody nonceDedupTtl)).2

theorem setNonce_none {uni : Unicode} {st : NonceDO.Storage} {now : Nat} {tag : String}
    (htag : RouteTag tag) : (NonceDO.setNonce uni st now .none tag
      (NonceStore.ttlBody nonceDedupTtl)).1 =
        some (.verdict (((st tag).filter fun entry => entry.expiresAt ≥ now).isNone)) := by
  have hsize : ¬ (NonceStore.ttlBody nonceDedupTtl).size > NonceDO.maxNonceBodySize := by decide
  have hvalue : (NonceStore.ttlBody nonceDedupTtl).value = some nonceDedupTtl := rfl
  simp only [NonceDO.setNonce, htag.valid, if_neg hsize, hvalue, NonceDO.Faults.none, if_true]
  cases (st tag).filter fun entry => entry.expiresAt ≥ now with
  | none => rfl
  | some entry => rfl

theorem alone_checkAndSet (hp : Healthy pick) {tag : String} (htag : RouteTag tag) :
    alone app pick (NonceStore.checkAndSet tag nonceDedupTtl) s =
      (.ok ((((s.nonces (app.nonceShard tag)) tag).filter
        fun entry => entry.expiresAt ≥ s.clock).isNone), s.consumed app tag) := by
  have hshort := htag.short
  have hclean : ¬ tag.toList.contains '\x00' = true := by
    rw [htag.clean]
    exact Bool.false_ne_true
  unfold NonceStore.checkAndSet
  rw [if_neg htag.nonempty, if_neg (Nat.not_lt.mpr hshort), if_neg hclean,
    if_neg (by decide), alone_await, perform_nonceDO hp]
  have hreply : (s.serveNonce app .none tag (NonceStore.ttlBody nonceDedupTtl)).1 = _ :=
    setNonce_none htag
  rw [hreply]
  rfl

theorem filter_isNone_iff {tag : String} : ((((s.nonces (app.nonceShard tag)) tag).filter
    fun entry => entry.expiresAt ≥ s.clock).isNone) = true ↔ TagFree app s tag := by
  unfold TagFree NonceDO.Free
  cases (s.nonces (app.nonceShard tag)) tag with
  | none => simp
  | some entry => simp [Option.filter]

/-- **A free tag is accepted.** -/
theorem alone_checkAndSet_free (hp : Healthy pick) {tag : String} (htag : RouteTag tag)
    (hfree : TagFree app s tag) :
    alone app pick (NonceStore.checkAndSet tag nonceDedupTtl) s =
      (.ok true, s.consumed app tag) := by
  rw [alone_checkAndSet hp htag, filter_isNone_iff.mpr hfree]

/-- **A tag that is not free is a replay.** -/
theorem alone_checkAndSet_taken (hp : Healthy pick) {tag : String} (htag : RouteTag tag)
    (htaken : ¬ TagFree app s tag) :
    alone app pick (NonceStore.checkAndSet tag nonceDedupTtl) s =
      (.ok false, s.consumed app tag) := by
  rw [alone_checkAndSet hp htag]
  have hfalse := mt filter_isNone_iff.mp htaken
  rw [Bool.not_eq_true] at hfalse
  rw [hfalse]

/-! ## Authentication, quota and idempotency -/

/-- An authentication changes nothing. -/
theorem alone_authenticateApiKey_state {headers : Headers} {options : ApiKeyAuthOptions} :
    (alone app pick (authenticateApiKey app headers options) s).2 = s := by
  refine (guarded_authenticateApiKey (h := [])).only.exec_state ?_
  intro op hop s
  cases op <;> first | rfl | cases hop

theorem alone_enforceAccountQuota (hp : Healthy pick) (clientId endpoint : String) :
    alone app pick (enforceAccountQuota clientId endpoint) s = (.ok (), s) := by
  unfold enforceAccountQuota
  rw [alone_await, show perform app s (.accountQuota clientId endpoint)
    (pick (.accountQuota clientId endpoint)) = (.ok (), s) by rw [hp.accountQuota]; rfl]
  rfl

/-- Without a key or a store there is no response to replay. -/
theorem alone_checkCached_unkeyed {key : Option String} {endpoint identity : String}
    (h : key = none ∨ app.idempotencyStore = false) :
    alone app pick (Idempotency.checkCached app key endpoint identity) s = (.ok none, s) := by
  unfold Idempotency.checkCached
  rcases h with rfl | h
  · rfl
  · cases key with
    | none => rfl
    | some key =>
      simp only [h, Bool.false_eq_true, if_false]
      rfl

theorem alone_storeCached_unkeyed {key : Option String} {endpoint identity body : String}
    {status : Nat} {ttl : Option Nat} (h : key = none ∨ app.idempotencyStore = false) :
    alone app pick (Idempotency.storeCached app key endpoint identity status body ttl) s =
      (.ok (), s) := by
  unfold Idempotency.storeCached
  rcases h with rfl | h
  · rfl
  · cases key with
    | none => rfl
    | some key =>
      simp only [h, Bool.false_eq_true, if_false]
      rfl

/-- The object answers 400 to every key of the store. -/
theorem serveIdempotency_keyPath (shard : Nat) (key : String) (method : IdempotencyDO.Method) :
    s.serveIdempotency .none shard (Idempotency.keyPath key) method =
      (some (.status 400), s) := by
  have hreply : IdempotencyDO.fetch (s.idempotency shard) s.clock .none
      (Idempotency.keyPath key) method = (some (.status 400), s.idempotency shard) :=
    IdempotencyDO.fetch_percentEncode (s.idempotency shard) s.clock .none key method
  unfold State.serveIdempotency
  simp only [hreply, Function.update_eq_self]

theorem perform_idempotencyDO (hp : Healthy pick) (shard : Nat) (path : String)
    (method : IdempotencyDO.Method) :
    perform app s (.idempotencyDO shard path method) (pick (.idempotencyDO shard path method)) =
      s.serveIdempotency .none shard path method := by
  rw [hp.idempotencyDO]
  rfl

theorem alone_sendToDo (hp : Healthy pick) (key : String) (method : IdempotencyDO.Method) :
    alone app pick (Idempotency.sendToDo app key method) s = (.ok (.status 400), s) := by
  unfold Idempotency.sendToDo
  rw [alone_await, perform_idempotencyDO hp, serveIdempotency_keyPath]
  rfl

theorem alone_check (app : AppState) (s : State) (hp : Healthy pick) (key : String) :
    ∃ e, alone app pick (Idempotency.check app key) s = (.error e, s) := by
  unfold Idempotency.check
  cases hkey : Idempotency.validateKey key with
  | error e => exact ⟨e, rfl⟩
  | ok _ =>
    refine ⟨.internal "invalid JSON", ?_⟩
    rw [alone_ofExcept_bind_ok rfl, alone_bind_ok (alone_sendToDo hp key .get)]
    rfl

/-- **A request with a key is turned away**, since the object turns the key away. -/
theorem alone_checkCached_keyed (hp : Healthy pick) (key endpoint identity : String)
    (hstore : app.idempotencyStore = true) :
    alone app pick (Idempotency.checkCached app (some key) endpoint identity) s =
      (.error (.serviceUnavailable (some "Idempotency check unavailable, please retry")), s) := by
  obtain ⟨e, hcheck⟩ := alone_check app s hp (Idempotency.scopedKey endpoint key)
  unfold Idempotency.checkCached
  simp only [hstore, if_true]
  unfold Idempotency.checkIdempotency
  rw [alone_attempt_bind hcheck]
  rfl

end ProviiVerifier
