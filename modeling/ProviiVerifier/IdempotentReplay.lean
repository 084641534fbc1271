/-
  Whose response a request is answered with, over a correct idempotency store.

  The fingerprint that is to detect the reuse of a key hashes the route and the client. A client
  that reuses a key for another challenge is answered with the response for the first one.

  Proved: in every run whose keys name one operation for a client and route, a response is replayed
  only from an earlier request of the same client that names the same operation, and a request that
  finds the entry of any other one is answered with a conflict (`replay_same_operation`).
-/
import ProviiVerifier.IdempotentStore
import ProviiVerifier.IdempotencyWire

namespace ProviiVerifier

open Interleaving Prog

variable {app : AppState}

/-! ## Fingerprints -/

namespace Idempotency

/-- At one route the input of the fingerprint tells the client. -/
theorem fingerprintInput_inj {endpoint x y : String}
    (h : fingerprintInput endpoint x = fingerprintInput endpoint y) : x = y := by
  unfold fingerprintInput at h
  have h := List.append_cancel_left h
  have hlen : (usizeLeBytes (byteLen x)).length = (usizeLeBytes (byteLen y)).length := by
    simp [usizeLeBytes]
  exact utf8Bytes_injective (List.append_inj h hlen).2

end Idempotency

/-! ## Keys -/

/-- The routes' labels have no text in common, so scoped keys tell the route. -/
theorem Keyed.scopedKey_inj {r r' : Request} {endpoint endpoint' k k' : String}
    (h : Keyed app r endpoint k) (h' : Keyed app r' endpoint' k')
    (heq : Idempotency.scopedKey endpoint k = Idempotency.scopedKey endpoint' k') :
    endpoint = endpoint' ∧ k = k' := by
  have heq := congrArg String.toList heq
  unfold Idempotency.scopedKey at heq
  simp only [String.toList_append] at heq
  have hcases : ∀ {r : Request} {endpoint k : String}, Keyed app r endpoint k →
      endpoint = "challenge" ∨ endpoint = "verify" ∨ endpoint = "redeem" := by
    intro r endpoint k h
    cases h with
    | create => exact .inl rfl
    | verify => exact .inr (.inl rfl)
    | redeem => exact .inr (.inr rfl)
  have hsame : endpoint = endpoint' := by
    rcases hcases h with rfl | rfl | rfl <;> rcases hcases h' with rfl | rfl | rfl
    all_goals first | with_reducible rfl | exact absurd (congrArg List.head? heq) (by simp)
  subst hsame
  exact ⟨rfl, String.toList_injective (List.append_cancel_left heq)⟩

/-- What a request sent to the store was scoped to its own key and client. -/
theorem KeyedOp.stored {req : Request} {h : History Op Res} {op : Op} {shard : Nat}
    {path : String} {body : Body IdempotencyDO.SetRequest} (hop : KeyedOp app req h op)
    (heq : op = .idempotencyDO shard path (.post body)) :
    ∃ endpoint k clientId response status ttl, Keyed app req endpoint k ∧
      ActsFor app h req clientId ∧
      path = Idempotency.keyPath (Idempotency.scopedKey endpoint k) ∧
      body.value = some (Idempotency.setRequest app endpoint clientId status response ttl) := by
  cases hop with
  | other hq =>
    subst heq
    exact absurd trivial hq
  | check hkey hacts =>
    unfold Idempotency.checkOp at heq
    injection heq with _ _ hmethod
    cases hmethod
  | @store endpoint k clientId response status ttl hkey hacts =>
    unfold Idempotency.storeOp at heq
    injection heq with _ hpath hmethod
    injection hmethod with hbody
    exact ⟨endpoint, k, clientId, response, status, ttl, hkey, hacts, hpath.symm, by rw [← hbody]⟩

/-! ## Runs -/

/-- The requests name the same operation. -/
def SameOperation : Request → Request → Prop
  | .create a, .create b => a.codeChallenge = b.codeChallenge ∧
      a.verifyingKeyId = b.verifyingKeyId ∧ a.expiresIn = b.expiresIn
  | .verify a, .verify b => a.challengeId = b.challengeId ∧ a.proof = b.proof
  | .redeem a, .redeem b => a.sid = b.sid
  | _, _ => False

/-- In the run, request `i` acts for the client at the route, with the key. -/
structure Acts (app : AppState) (tr : List (Event (keyedService app) Request)) (i : Nat)
    (req : Request) (endpoint k clientId : String) : Prop where
  arrived : .arrive i req ∈ tr
  keyed : Keyed app req endpoint k
  acts : ActsFor app (own i tr) req clientId

/-- SHA-256 does not collide on the fingerprints of the clients of the run. -/
def NoCollision (app : AppState) (tr : List (Event (keyedService app) Request)) : Prop :=
  ∀ i j req req' endpoint k k' clientId clientId', Acts app tr i req endpoint k clientId →
    Acts app tr j req' endpoint k' clientId' →
    app.sha256 (Idempotency.fingerprintInput endpoint clientId) =
      app.sha256 (Idempotency.fingerprintInput endpoint clientId') →
    Idempotency.fingerprintInput endpoint clientId =
      Idempotency.fingerprintInput endpoint clientId'

/-- A client uses a key at a route for one operation only. -/
def KeysNameOperations (app : AppState) (tr : List (Event (keyedService app) Request)) : Prop :=
  ∀ i j req req' endpoint k clientId, Acts app tr i req endpoint k clientId →
    Acts app tr j req' endpoint k clientId → SameOperation req req'

/-- Request `j` was answered, at its check, with the response that request `i` had stored
before. -/
def ReplayOf (tr : List (Event (keyedService app) Request)) (j i : Nat)
    (cached : Idempotency.CachedResponse) : Prop :=
  ∃ new old s shard path c body set,
    tr = new ++ .call j s (.idempotencyDO shard path .get) c :: old ∧
    SentToStore old i shard path body ∧ body.value = some set ∧
    cached = ⟨set.statusCode, set.responseBody⟩

/-- Request `j` found, at its check, the entry that request `i` had stored before. -/
def FoundFrom (tr : List (Event (keyedService app) Request)) (j i : Nat)
    (entry : IdempotencyDO.Entry) : Prop :=
  ∃ new old s shard path c body set,
    tr = new ++ .call j s (.idempotencyDO shard path .get) c :: old ∧
    (performKeyed app s (.idempotencyDO shard path .get) c).1 = some (.found entry) ∧
    SentToStore old i shard path body ∧ body.value = some set ∧ Keeps set entry

theorem FoundFrom.sent {tr : List (Event (keyedService app) Request)} {i j : Nat}
    {entry : IdempotencyDO.Entry} (h : FoundFrom tr j i entry) :
    ∃ shard path body, SentToStore tr i shard path body := by
  obtain ⟨new, old, s, shard, path, c, body, set, rfl, -, hsent, -⟩ := h
  exact ⟨shard, path, body, hsent.mono ((List.suffix_cons _ _).trans (List.suffix_append _ _))⟩

/-- The requests use one key for one operation of one client. -/
def SameUse (app : AppState) (tr : List (Event (keyedService app) Request)) (i : Nat)
    (req' : Request) (j : Nat) (req : Request) : Prop :=
  ∃ endpoint k clientId, Acts app tr i req' endpoint k clientId ∧
    Acts app tr j req endpoint k clientId ∧ SameOperation req' req

variable {s₀ : State} {R : Rules (keyedService app) Request}
  {p : Pool (keyedService app) Request ApiError Response}

/-- What was sent to the store was sent by a request that acts for its client. -/
theorem Run.sent_acts (hr : Run (handle app) R (· = s₀) p) {i shard : Nat} {path : String}
    {body : Body IdempotencyDO.SetRequest} (hsent : SentToStore p.world.trace i shard path body) :
    ∃ req endpoint k clientId response status ttl,
      Acts app p.world.trace i req endpoint k clientId ∧
      path = Idempotency.keyPath (Idempotency.scopedKey endpoint k) ∧
      body.value = some (Idempotency.setRequest app endpoint clientId status response ttl) := by
  obtain ⟨answer, hm⟩ := hsent
  obtain ⟨s, c, hm, -⟩ := mem_own.mp hm
  obtain ⟨new, old, htrace⟩ := List.append_of_mem hm
  obtain ⟨-, -, req, harrive, hop⟩ := hr.call_event (guarded_handle_keyed app) htrace
  obtain ⟨endpoint, k, clientId, response, status, ttl, hkey, hacts, hpath, hbody⟩ :=
    hop.stored rfl
  have hsuffix : old <:+ p.world.trace := by
    rw [htrace]
    exact (List.suffix_cons _ _).trans (List.suffix_append _ _)
  refine ⟨req, endpoint, k, clientId, response, status, ttl, ⟨hsuffix.subset harrive, hkey, ?_⟩,
    hpath, hbody⟩
  exact hacts.mono (hsuffix.filterMap _)

/-- Two requests that fingerprint alike act for one client. -/
theorem NoCollision.client {tr : List (Event (keyedService app) Request)} (h : NoCollision app tr)
    {i j : Nat} {req req' : Request} {endpoint k k' clientId clientId' : String}
    (hi : Acts app tr i req' endpoint k clientId') (hj : Acts app tr j req endpoint k' clientId)
    (hprint : fingerprint app endpoint clientId' = fingerprint app endpoint clientId) :
    clientId' = clientId :=
  Idempotency.fingerprintInput_inj
    (h i j req' req endpoint k k' clientId' clientId hi hj (Idempotency.hexEncode_injective hprint))

/-- An entry that a request found was stored before it looked. -/
theorem Run.foundFrom (hstart : NothingStored s₀)
    (hr : Run (handle app) (anyOrderKeyed app Request) (· = s₀) p) {j shard : Nat} {path : String}
    {entry : IdempotencyDO.Entry}
    (hfound : (⟨.idempotencyDO shard path .get, some (.found entry)⟩ : Sigma Res) ∈
      own j p.world.trace) : ∃ i, FoundFrom p.world.trace j i entry := by
  have hinit : ∀ s, s = s₀ → NothingStored s := by
    rintro s rfl
    exact hstart
  obtain ⟨new, old, s, c, htrace, hanswer, i, body, set, hsent, hset, hkeeps⟩ :=
    Run.found_stored hinit hr hfound
  exact ⟨i, new, old, s, shard, path, c, body, set, htrace, hanswer, hsent, hset, hkeeps⟩

/-- **A key that is reused**: the request that found the entry of another one used the key for the
same operation of the same client, or it is answered with a conflict. -/
theorem Run.same_or_conflict
    (hr : Run (handle app) (anyOrderKeyed app Request) (· = s₀) p)
    (hsha : NoCollision app p.world.trace) (hkeys : KeysNameOperations app p.world.trace)
    {i j : Nat} {req req' : Request} {entry : IdempotencyDO.Entry} {r : Except ApiError Response}
    (harrive : .arrive j req ∈ p.world.trace) (harrive' : .arrive i req' ∈ p.world.trace)
    (hfound : FoundFrom p.world.trace j i entry) (hout : p.outcome j = some r) :
    SameUse app p.world.trace i req' j req ∨ ∃ text, r = .error (.conflict text) := by
  obtain ⟨new, old, s, shard, path, c, body, set, htrace, hanswer, hsent, hset, hkeeps⟩ := hfound
  have hold : old <:+ p.world.trace := by
    rw [htrace]
    exact (List.suffix_cons _ _).trans (List.suffix_append _ _)
  have hm : (⟨.idempotencyDO shard path .get, some (.found entry)⟩ : Sigma Res) ∈
      own j p.world.trace := by
    refine mem_own.mpr ⟨s, c, ?_, hanswer⟩
    rw [htrace]
    exact List.mem_append_right _ List.mem_cons_self
  obtain ⟨r', hm', hends⟩ := hr.outcome (found_handle app) hout
  rw [hr.arrive_unique hm' harrive] at hends
  obtain ⟨endpoint, k, clientId, hkey, hacts, hpath, hprint | hconflict⟩ :=
    hends shard path entry hm
  · obtain ⟨stored, endpoint', k', clientId', text, status, ttl, hi, hpath', hbody⟩ :=
      Run.sent_acts hr (hsent.mono hold)
    rw [hr.arrive_unique hi.arrived harrive'] at hi
    obtain ⟨rfl, rfl⟩ := hkey.scopedKey_inj hi.keyed
      (Idempotency.keyPath_injective (hpath.symm.trans hpath'))
    have hj : Acts app p.world.trace j req endpoint k clientId := ⟨harrive, hkey, hacts⟩
    -- the fingerprint that the entry carries tells the client that stored it
    have hstored : entry.requestFingerprint = fingerprint app endpoint clientId' := by
      rw [hset] at hbody
      cases hbody
      exact hkeeps.fingerprint
    have hclient := hsha.client hi hj (hstored.symm.trans hprint)
    subst hclient
    exact .inl ⟨endpoint, k, clientId', hi, hj, hkeys i j req' req endpoint k clientId' hi hj⟩
  · exact .inr hconflict

/-- **Replays are of the same operation.** Over a correct store, in every run whose clients use a
key at a route for one operation only, a request that is answered with a stored response is answered
with that of an earlier request of the same route, key and client that names the same operation. An
entry that a request finds was stored by an earlier request; where that one did not use the key for
the same operation of the same client, the answer is a conflict. -/
theorem replay_same_operation (hstart : NothingStored s₀)
    (hr : Run (handle app) (anyOrderKeyed app Request) (· = s₀) p)
    (hsha : NoCollision app p.world.trace) (hkeys : KeysNameOperations app p.world.trace)
    {j : Nat} {req : Request} (harrive : .arrive j req ∈ p.world.trace) :
    (∀ response cached, p.outcome j = some (.ok response) → response.replayed = some cached →
      ∃ i req' endpoint k clientId, i ≠ j ∧ Acts app p.world.trace i req' endpoint k clientId ∧
        Acts app p.world.trace j req endpoint k clientId ∧ SameOperation req' req ∧
        ReplayOf p.world.trace j i cached) ∧
    (∀ shard path entry, (⟨.idempotencyDO shard path .get, some (.found entry)⟩ : Sigma Res) ∈
      own j p.world.trace → ∃ i, FoundFrom p.world.trace j i entry) ∧
    ∀ i req' entry r, .arrive i req' ∈ p.world.trace → FoundFrom p.world.trace j i entry →
      p.outcome j = some r → ¬ SameUse app p.world.trace i req' j req →
      ∃ text, r = .error (.conflict text) := by
  refine ⟨?_, fun _ _ _ hfound => Run.foundFrom hstart hr hfound, ?_⟩
  · intro response cached hout hreplayed
    obtain ⟨r, hm, hfrom⟩ := hr.outcome (guarded_handle_keyed app) hout
    rw [hr.arrive_unique hm harrive] at hfrom
    obtain ⟨hnone, _, _, _, _, _, entry, hfound, _, rfl⟩ := hfrom response cached rfl hreplayed
    obtain ⟨i, hfrom⟩ := Run.foundFrom hstart hr hfound
    obtain ⟨_, _, _, hsent'⟩ := hfrom.sent
    obtain ⟨req', _, _, _, _, _, _, hi, _, _⟩ := Run.sent_acts hr hsent'
    rcases Run.same_or_conflict hr hsha hkeys harrive hi.arrived hfrom hout with
      ⟨endpoint, k, clientId, hi, hj, hsame⟩ | ⟨text, htext⟩
    · obtain ⟨new, old, s, shard, path, c, body, set, htrace, hanswer, hsent, hset, hkeeps⟩ := hfrom
      refine ⟨i, req', endpoint, k, clientId, ?_, hi, hj, hsame, new, old, s, shard, path, c, body,
        set, htrace, hsent, hset, ?_⟩
      · rintro rfl
        obtain ⟨answer, hm⟩ := hsent'
        exact hnone _ ⟨_, _, answer, hm⟩
      · rw [hkeeps.body, hkeeps.status]
    · cases htext
  · intro i req' entry r harrive' hfound hout hdiffers
    exact (Run.same_or_conflict hr hsha hkeys harrive harrive' hfound hout).resolve_left hdiffers

/-! ## Samples -/

namespace Sample

/-- The deployment with an idempotency store. -/
def keyedApp : AppState := { AppState.sample with idempotencyStore := true }

/-- A redemption by the shop's server, always with the same key. -/
def keyedRedemption (sid : Uuid) : RedeemRequest :=
  { redemption with
    sid := sid
    headers := fun name =>
      if name = "Idempotency-Key" then some "550e8400-e29b-41d4-a716-446655440000"
      else shopHeaders name }

/-- Another challenge of the shop. -/
def other : CachedChallenge :=
  { CachedChallenge.sample with id := 0x650e8400e29b41d4a716446655440000#128 }

/-- Both challenges, pending. -/
def bothChallenges : State :=
  { state with
    drawn := other.id :: state.drawn
    challenges := fun id =>
      if id = other.id then ChallengeDO.Storage.empty.putRecord id.toString other
      else state.challenges id }

/-- A request arrives and performs `n` operations that all go well, over a correct store. -/
def keyedPerforms {app : AppState} (i : Nat) (req : Request) (n : Nat) :
    List (Act (keyedService app) Request) :=
  .arrive i req :: List.replicate n (.call i healthy)

/-- The sample challenge is proven and redeemed, and then the key is used again. -/
def redeemedTwice {app : AppState} (sid : Uuid) : List (Act (keyedService app) Request) :=
  keyedPerforms 0 (.verify submission) 9 ++
    keyedPerforms 1 (.redeem (keyedRedemption CachedChallenge.sample.id)) 11 ++
      keyedPerforms 2 (.redeem (keyedRedemption sid)) 3

/-- The response to a redemption, replayed. -/
def replayedVerdict : Idempotency.CachedResponse :=
  ⟨200, "\x7b\"result\":\"OK\",\"verified\":true\x7d"⟩

theorem redeemedTwice_arrivals {app : AppState} {sid : Uuid} :
    (redeemedTwice sid : List (Act (keyedService app) Request)).filterMap Act.arrival =
      [(0, .verify submission), (1, .redeem (keyedRedemption CachedChallenge.sample.id)),
        (2, .redeem (keyedRedemption sid))] := rfl

/-- The deployment with the fingerprint of a second client. -/
def sharedApp : AppState :=
  { keyedApp with
    sha256 := fun bytes =>
      if bytes = [6, 0, 0, 0] ++ utf8Bytes "redeem" ++ [6, 0, 0, 0] ++ utf8Bytes "market" then
        [146, 160, 203, 188, 98, 114, 169, 132, 84, 94, 113, 39, 250, 184, 116, 216,
          95, 77, 207, 227, 39, 46, 202, 253, 234, 126, 165, 168, 24, 48, 9, 118]
      else AppState.sample.sha256 bytes }

/-- The client of an API key at the shop's origin. -/
def client (clientId apiKey : String) : ClientAuthConfig :=
  { clientId := clientId, apiKeyHash := apiKey, apiKeyPrefix := none, encryptedHmacSecret := ""
    dekEncrypted := "", encryptionVersion := 2, active := true }

/-- The origin of the shop with a second client. -/
def sharedOrigin : State :=
  { bothChallenges with
    policies := fun origin =>
      if origin = "https://shop.example" then
        .found { policy with clients := [client "shop" "key", client "market" "market-key"] }
      else .notFound }

/-- The key of the shop's redemption, used by the other client. -/
def marketRedemption : RedeemRequest :=
  { keyedRedemption CachedChallenge.sample.id with
    headers := fun name =>
      if name = "X-API-Key" then some "market-key"
      else (keyedRedemption CachedChallenge.sample.id).headers name }

/-- The shop redeems and retries; then the other client uses the key. -/
def sharedKey : List (Act (keyedService sharedApp) Request) :=
  redeemedTwice CachedChallenge.sample.id ++ keyedPerforms 3 (.redeem marketRedemption) 3

theorem nothingStored_sharedOrigin : NothingStored sharedOrigin := ⟨fun _ _ => rfl, rfl⟩

/-- A policy that is answered has no clients but the two. -/
def twoClients : Event (keyedService sharedApp) Request → Bool
  | .call _ s (.getCachedPolicy origin) c =>
    match (performKeyed sharedApp s (.getCachedPolicy origin) c).1 with
    | .ok (some policy) => policy.clients.all fun found =>
        (found.apiKeyHash, found.clientId) = ("key", "shop") ∨
          (found.apiKeyHash, found.clientId) = ("market-key", "market")
    | _ => true
  | _ => true

/-- The client that an API key belongs to. -/
theorem authenticatedAs_shared {tr : List (Event (keyedService sharedApp) Request)} {i : Nat}
    {headers : Headers} {clientId : String} (hclients : tr.all twoClients = true) (apiKey : String)
    (hkey : headers "X-API-Key" = some apiKey)
    (h : AuthenticatedAs sharedApp headers clientId (own i tr)) :
    (apiKey, clientId) = ("key", "shop") ∨ (apiKey, clientId) = ("market-key", "market") := by
  obtain ⟨origin, policy, apiKey', found, hm, hkey', hclient, -, hverified, rfl⟩ := h
  obtain rfl : apiKey = apiKey' := Option.some.inj (hkey.symm.trans hkey')
  obtain ⟨s, c, hm, hanswer⟩ := mem_own.mp hm
  have hevent := List.all_eq_true.mp hclients _ hm
  have hanswer : (performKeyed sharedApp s (.getCachedPolicy origin) c).1 = .ok (some policy) :=
    hanswer
  simp only [twoClients, hanswer, List.all_eq_true, decide_eq_true_eq] at hevent
  have hsame : apiKey = found.apiKeyHash := of_decide_eq_true hverified
  rw [hsame]
  exact hevent found hclient

/-- The answer of the store in which an entry was found. -/
def foundEntry : Sigma Res → Bool
  | ⟨.idempotencyDO _ _ .get, some (.found _)⟩ => true
  | _ => false

/-- The operation that stores a response. -/
def storesEntry : Sigma Res → Bool
  | ⟨.idempotencyDO _ _ (.post _), _⟩ => true
  | _ => false

theorem foundEntry_some {h : History Op Res} (hfound : h.any foundEntry = true) :
    ∃ shard path entry,
      (⟨.idempotencyDO shard path .get, some (.found entry)⟩ : Sigma Res) ∈ h := by
  obtain ⟨x, hm, hx⟩ := List.any_eq_true.mp hfound
  unfold foundEntry at hx
  split at hx
  · exact ⟨_, _, _, hm⟩
  · cases hx

/-- The run of the shared key: the retry is answered with the verdict; the other client stores
nothing, and found an entry. -/
structure SharedRun (p : Pool (keyedService sharedApp) Request ApiError Response) : Prop where
  run : Run (handle sharedApp) (anyOrderKeyed sharedApp Request) (· = sharedOrigin) p
  retried : p.outcome 2 = some (.ok (.redeemed (.cached replayedVerdict)))
  ended : (p.outcome 3).isSome = true
  found : (own 3 p.world.trace).any foundEntry = true
  storedNone : (own 3 p.world.trace).any storesEntry = false
  clients : p.world.trace.all twoClients = true
  arrivals : ∀ i req, .arrive i req ∈ p.world.trace →
    (i, req) ∈ sharedKey.filterMap Act.arrival

theorem sharedRun : ∃ p, SharedRun p := by
  have hrun : ∃ p : Pool (keyedService sharedApp) Request ApiError Response,
      Run (handle sharedApp) (anyOrderKeyed sharedApp Request) (· = sharedOrigin) p ∧
      (p.outcome 2 = some (.ok (.redeemed (.cached replayedVerdict))) ∧
        (p.outcome 3).isSome = true ∧ (own 3 p.world.trace).any foundEntry = true ∧
        (own 3 p.world.trace).any storesEntry = false ∧ p.world.trace.all twoClients = true) ∧
      ∀ i req, .arrive i req ∈ p.world.trace → (i, req) ∈ sharedKey.filterMap Act.arrival :=
    Run.of_replay_arrivals sharedOrigin sharedKey rfl (by decide +kernel)
  obtain ⟨p, hr, ⟨hretried, hended, hfound, hnone, hclients⟩, harrivals⟩ := hrun
  exact ⟨p, hr, hretried, hended, hfound, hnone, hclients, harrivals⟩

section SharedRun

variable {p : Pool (keyedService sharedApp) Request ApiError Response} (h : SharedRun p)

include h

theorem SharedRun.arrived {i : Nat} {req : Request} (hm : .arrive i req ∈ p.world.trace) :
    i = 0 ∧ req = .verify submission ∨
      (i = 1 ∨ i = 2) ∧ req = .redeem (keyedRedemption CachedChallenge.sample.id) ∨
        i = 3 ∧ req = .redeem marketRedemption := by
  have hlist : sharedKey.filterMap Act.arrival =
      [(0, .verify submission), (1, .redeem (keyedRedemption CachedChallenge.sample.id)),
        (2, .redeem (keyedRedemption CachedChallenge.sample.id)), (3, .redeem marketRedemption)] :=
    rfl
  have hm := h.arrivals i req hm
  rw [hlist] at hm
  simp only [List.mem_cons, Prod.mk.injEq, List.not_mem_nil, or_false] at hm
  rcases hm with hm | ⟨hi, hreq⟩ | ⟨hi, hreq⟩ | hm
  · exact .inl hm
  · exact .inr (.inl ⟨.inl hi, hreq⟩)
  · exact .inr (.inl ⟨.inr hi, hreq⟩)
  · exact .inr (.inr hm)

/-- Only the redemptions use the store, each for its own client. -/
theorem SharedRun.acts {i : Nat} {req : Request} {endpoint k clientId : String}
    (hacts : Acts sharedApp p.world.trace i req endpoint k clientId) : endpoint = "redeem" ∧
      (i ≠ 3 ∧ req = .redeem (keyedRedemption CachedChallenge.sample.id) ∧ clientId = "shop" ∨
        i = 3 ∧ req = .redeem marketRedemption ∧ clientId = "market") := by
  rcases h.arrived hacts.arrived with ⟨-, rfl⟩ | ⟨hi, rfl⟩ | ⟨rfl, rfl⟩
  · cases hacts.keyed with
    | verify hstore hkey => cases hkey
  · cases hacts.acts with
    | redeem hauth =>
      have hne : i ≠ 3 := by
        rcases hi with rfl | rfl
        · decide
        · decide
      have hclient := authenticatedAs_shared h.clients "key" rfl hauth
      refine ⟨by cases hacts.keyed; rfl, .inl ⟨hne, rfl, ?_⟩⟩
      simpa using hclient
  · cases hacts.acts with
    | redeem hauth =>
      have hclient := authenticatedAs_shared h.clients "market-key" rfl hauth
      refine ⟨by cases hacts.keyed; rfl, .inr ⟨rfl, rfl, ?_⟩⟩
      simpa using hclient

theorem SharedRun.noCollision : NoCollision sharedApp p.world.trace := by
  intro i j req req' endpoint k k' clientId clientId' hi hj heq
  obtain ⟨rfl, ⟨-, -, rfl⟩ | ⟨-, -, rfl⟩⟩ := h.acts hi <;>
    obtain ⟨-, ⟨-, -, rfl⟩ | ⟨-, -, rfl⟩⟩ := h.acts hj
  · rfl
  · exact absurd heq (by decide +kernel)
  · exact absurd heq (by decide +kernel)
  · rfl

theorem SharedRun.keysNameOperations : KeysNameOperations sharedApp p.world.trace := by
  intro i j req req' endpoint k clientId hi hj
  obtain ⟨-, ⟨-, rfl, rfl⟩ | ⟨-, rfl, rfl⟩⟩ := h.acts hi <;>
    obtain ⟨-, ⟨-, rfl, hclient⟩ | ⟨-, rfl, hclient⟩⟩ := h.acts hj
  all_goals rfl

/-- The other client did not use its key for a redemption of the shop. -/
theorem SharedRun.not_sameUse {i : Nat} {req req' : Request} {entry : IdempotencyDO.Entry}
    (hfound : FoundFrom p.world.trace 3 i entry) :
    ¬ SameUse sharedApp p.world.trace i req' 3 req := by
  rintro ⟨endpoint, k, clientId, hi, hj, -⟩
  obtain ⟨-, ⟨hne, -, -⟩ | ⟨-, -, rfl⟩⟩ := h.acts hj
  · exact absurd rfl hne
  · obtain ⟨-, ⟨-, -, hclient⟩ | ⟨rfl, -, -⟩⟩ := h.acts hi
    · exact absurd hclient (by decide)
    · obtain ⟨shard, path, body, answer, hm⟩ := hfound.sent
      have hstores : (own 3 p.world.trace).any storesEntry = true :=
        List.any_eq_true.mpr ⟨_, hm, rfl⟩
      rw [h.storedNone] at hstores
      cases hstores

end SharedRun

end Sample

/-- The shop redeems the sample challenge and retries with the same key; the other client of the
origin uses the key too, and is answered with a conflict. -/
theorem replay_same_operation_retry :
    ∃ p : Pool (keyedService Sample.sharedApp) Request ApiError Response,
      Run (handle Sample.sharedApp) (anyOrderKeyed Sample.sharedApp Request)
        (· = Sample.sharedOrigin) p ∧
      (∃ i req' endpoint k clientId, i ≠ 2 ∧ Acts _ p.world.trace i req' endpoint k clientId ∧
        Acts _ p.world.trace 2 (.redeem (Sample.keyedRedemption CachedChallenge.sample.id))
          endpoint k clientId ∧
        SameOperation req' (.redeem (Sample.keyedRedemption CachedChallenge.sample.id)) ∧
        ReplayOf p.world.trace 2 i Sample.replayedVerdict) ∧
      ∃ i entry text, FoundFrom p.world.trace 3 i entry ∧
        p.outcome 3 = some (.error (.conflict text)) := by
  obtain ⟨p, h⟩ := Sample.sharedRun
  obtain ⟨r, hout⟩ := Option.isSome_iff_exists.mp h.ended
  obtain ⟨req, hm, -⟩ := h.run.outcome (guarded_handle_keyed Sample.sharedApp) h.retried
  obtain ⟨req', hm', -⟩ := h.run.outcome (guarded_handle_keyed Sample.sharedApp) hout
  have hreq : req = .redeem (Sample.keyedRedemption CachedChallenge.sample.id) := by
    rcases h.arrived hm with ⟨hi, -⟩ | ⟨-, hreq⟩ | ⟨hi, -⟩
    · cases hi
    · exact hreq
    · cases hi
  subst hreq
  have hreplay := replay_same_operation Sample.nothingStored_sharedOrigin h.run h.noCollision
    h.keysNameOperations hm
  have hconflict := replay_same_operation Sample.nothingStored_sharedOrigin h.run h.noCollision
    h.keysNameOperations hm'
  refine ⟨p, h.run, hreplay.1 _ _ h.retried rfl, ?_⟩
  obtain ⟨shard, path, entry, hfound⟩ := Sample.foundEntry_some h.found
  obtain ⟨i, hfrom⟩ := hconflict.2.1 shard path entry hfound
  obtain ⟨_, _, _, hsent⟩ := hfrom.sent
  obtain ⟨stored, _, _, _, _, _, _, hi, _, _⟩ := Run.sent_acts h.run hsent
  obtain ⟨text, rfl⟩ := hconflict.2.2 i stored entry r hi.arrived hfrom hout (h.not_sameUse hfrom)
  exact ⟨i, entry, text, hfrom, hout⟩

/-- The shop redeems the sample challenge and uses the key again for its other challenge: it is
answered that this one is verified. Nobody else named it, and its record is still pending. -/
theorem other_challenge_replayed :
    ∃ p : Pool (keyedService Sample.keyedApp) Request ApiError Response,
      Run (handle Sample.keyedApp) (anyOrderKeyed Sample.keyedApp Request)
        (· = Sample.bothChallenges) p ∧
      p.outcome 2 = some (.ok (.redeemed (.cached Sample.replayedVerdict))) ∧
      (State.record p.world.state Sample.other.id).map (·.state) = some .pending ∧
      ∀ i req, .arrive i req ∈ p.world.trace → i ≠ 2 →
        ¬ SameOperation req (.redeem (Sample.keyedRedemption Sample.other.id)) := by
  have hrun : ∃ p : Pool (keyedService Sample.keyedApp) Request ApiError Response,
      Run (handle Sample.keyedApp) (anyOrderKeyed Sample.keyedApp Request)
        (· = Sample.bothChallenges) p ∧
      (p.outcome 2 = some (.ok (.redeemed (.cached Sample.replayedVerdict))) ∧
        (State.record p.world.state Sample.other.id).map (·.state) = some .pending) ∧
      ∀ i req, .arrive i req ∈ p.world.trace →
        (i, req) ∈ (Sample.redeemedTwice Sample.other.id).filterMap Act.arrival :=
    Run.of_replay_arrivals Sample.bothChallenges (Sample.redeemedTwice Sample.other.id) rfl
      (by decide +kernel)
  obtain ⟨p, hr, ⟨hout, hpending⟩, harrivals⟩ := hrun
  refine ⟨p, hr, hout, hpending, ?_⟩
  intro i req hm hne
  have hm := harrivals i req hm
  rw [Sample.redeemedTwice_arrivals] at hm
  simp only [List.mem_cons, Prod.mk.injEq, List.not_mem_nil, or_false] at hm
  rcases hm with ⟨-, rfl⟩ | ⟨-, rfl⟩ | ⟨h, -⟩
  · exact fun h => h
  · intro h
    have h : CachedChallenge.sample.id = Sample.other.id := h
    exact absurd h (by decide)
  · exact absurd h hne

end ProviiVerifier
