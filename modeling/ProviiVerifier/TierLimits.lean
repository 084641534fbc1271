/-
  `get_customer_limit_impl` in `rate_limiting.rs` and in `hosted/rate_limiting.rs`: the hourly
  limit of a client on an endpoint, from the client's tier.

  The limits of a tier are remembered for a client. Both copies test the age of what is remembered
  by the time their caller passes: the expert quota passes the time of the request, the hosted quota
  the start of its hour. Only the expert copy bounds its cache. Times are seconds; what KV answers a
  call is an input of the call, and so is the JSON reader.

  Proved: over any calls at non-decreasing times, each limit is what a complete read gave at most
  sixty seconds before, or the default after an unsuccessful read of the call itself, and no
  unsuccessful read is remembered, exactly when every client whose tier is read has the entry of
  that tier read too and, in the hosted copy, no remembered limits are older than sixty seconds
  (`limits_fresh_iff`).
-/
import Mathlib.Data.List.AList
import Mathlib.Data.List.MinMax

namespace ProviiVerifier

namespace TierLimits

/-- The quota of each endpoint. -/
abbrev Limits := String → Option Nat

/-- `serde_json` on the text of a tier: its `limits` field read as a map, and all of it read as
one. -/
structure TierJson where
  nested : String → Option Limits
  flat : String → Option Limits

/-- `parse_tier_limits`. -/
def parseTierLimits (codec : TierJson) (json : String) : Limits :=
  match codec.nested json with
  | some limits => limits
  | none => (codec.flat json).getD fun _ => none

/-- `TierCache`. -/
structure TierCache where
  limits : Limits
  fetchedAt : Nat

/-- `TIER_CACHE`. -/
abbrev Cache := AList fun _ : String => TierCache

/-- The entries of a cache. -/
abbrev Entries := List (Sigma fun _ : String => TierCache)

/-- What `get_text` answers under each key: an error, no entry, or the entry. -/
abbrev Config := String → Except Unit (Option String)

def clientKey (clientId : String) : String := "rate_limits/clients/" ++ clientId

def tierKey (tierId : String) : String := "rate_limits/tiers/" ++ tierId

/-- The remembered limits of a client, while they are fresh. -/
def remembered (cache : Cache) (clientId : String) (nowSecs : Nat) : Option TierCache :=
  (cache.lookup clientId).filter fun entry => nowSecs - entry.fetchedAt < 60

/-- The limits of a tier; none when its entry is not read. -/
def tierLimits (codec : TierJson) (config : Config) (tierId : String) : Limits :=
  match config (tierKey tierId) with
  | .ok (some json) => parseTierLimits codec json
  | _ => fun _ => none

/-- `get_customer_limit_impl`; `room` is what the copy does to the cache before it adds an entry. -/
def getCustomerLimit (codec : TierJson) (room : Cache → Cache) (cache : Cache) (config : Config)
    (clientId endpoint : String) (defaultLimit nowSecs : Nat) : Nat × Cache :=
  match remembered cache clientId nowSecs with
  | some entry => ((entry.limits endpoint).getD defaultLimit, cache)
  | none =>
    match config (clientKey clientId) with
    | .ok (some tierId) =>
      let limits := tierLimits codec config tierId
      ((limits endpoint).getD defaultLimit, (room cache).insert clientId ⟨limits, nowSecs⟩)
    | _ => (defaultLimit, cache)

/-- The room the expert copy makes: of a thousand entries or more the oldest is dropped. `iterate`
is the order the map is walked in. -/
def evictOldest (iterate : Entries → Entries) (cache : Cache) : Cache :=
  if cache.entries.length ≥ 1000 then
    match (iterate cache.entries).argmin fun entry => entry.2.fetchedAt with
    | some oldest => cache.erase oldest.1
    | none => cache
  else cache

/-- `get_customer_limit_impl` in `rate_limiting.rs`. -/
def expertLimit (codec : TierJson) (iterate : Entries → Entries) :=
  getCustomerLimit codec (evictOldest iterate)

/-- `get_customer_limit_impl` in `hosted/rate_limiting.rs`. -/
def hostedLimit (codec : TierJson) := getCustomerLimit codec fun cache => cache

/-- The start of the hour of a time. -/
def hourTs (nowSecs : Nat) : Nat := nowSecs / 3600 * 3600

/-! ## Sequences of calls -/

/-- One of the copies, with the time its caller passes at each time. -/
structure Copy where
  codec : TierJson
  room : Cache → Cache
  clock : Nat → Nat
  /-- Making room only drops entries. -/
  drops : ∀ cache clientId entry, (room cache).lookup clientId = some entry →
    cache.lookup clientId = some entry

theorem lookup_evictOldest {iterate : Entries → Entries} {cache : Cache} {clientId : String}
    {entry : TierCache} (h : (evictOldest iterate cache).lookup clientId = some entry) :
    cache.lookup clientId = some entry := by
  unfold evictOldest at h
  split at h
  · split at h
    · next oldest _ =>
      by_cases hk : clientId = oldest.1
      · rw [hk, AList.lookup_erase] at h
        cases h
      · rw [AList.lookup_erase_ne hk] at h
        exact h
    · exact h
  · exact h

/-- The expert copy under `check_quota_impl`. -/
def Copy.expert (codec : TierJson) (iterate : Entries → Entries) : Copy :=
  ⟨codec, evictOldest iterate, fun nowSecs => nowSecs, fun _ _ _ => lookup_evictOldest⟩

/-- The hosted copy under `check_quota`. -/
def Copy.hosted (codec : TierJson) : Copy := ⟨codec, fun cache => cache, hourTs, fun _ _ _ h => h⟩

/-- A quota check, with what KV answers while it looks its limit up. -/
structure Call where
  clientId : String
  endpoint : String
  defaultLimit : Nat
  nowSecs : Nat
  config : Config

namespace Copy

variable (copy : Copy)

/-- The lookup of a call. -/
def limit (cache : Cache) (c : Call) : Nat × Cache :=
  getCustomerLimit copy.codec copy.room cache c.config c.clientId c.endpoint c.defaultLimit
    (copy.clock c.nowSecs)

/-- The cache after calls, newest first. -/
def after (cache : Cache) : List Call → Cache
  | [] => cache
  | c :: old => (copy.limit (after cache old) c).2

/-- The limit that is applied to a call after earlier ones. -/
def applied (c : Call) (old : List Call) : Nat := (copy.limit (copy.after ∅ old) c).1

/-- The call finds nothing remembered and reads KV. -/
def Reads (c : Call) (old : List Call) : Prop :=
  remembered (copy.after ∅ old) c.clientId (copy.clock c.nowSecs) = none

/-- Both entries of the client are there and are read, and these are their limits. -/
def Complete (c : Call) (limits : Limits) : Prop :=
  ∃ tierId json, c.config (clientKey c.clientId) = .ok (some tierId) ∧
    c.config (tierKey tierId) = .ok (some json) ∧ limits = parseTierLimits copy.codec json

/-- The limit of a call comes from a complete read at most sixty seconds before it. -/
def FromRead (c : Call) (old : List Call) : Prop :=
  ∃ c' old' limits, c' :: old' <:+ c :: old ∧ c'.clientId = c.clientId ∧ copy.Reads c' old' ∧
    copy.Complete c' limits ∧ c.nowSecs ≤ c'.nowSecs + 60 ∧
    copy.applied c old = (limits c.endpoint).getD c.defaultLimit

/-- The limit of a call is the default because the call's own read was not complete. -/
def Defaulted (c : Call) (old : List Call) : Prop :=
  copy.Reads c old ∧ (¬ ∃ limits, copy.Complete c limits) ∧ copy.applied c old = c.defaultLimit

/-- The limit of a call is fresh, and a read that is not complete is not remembered. -/
structure Fresh (c : Call) (old : List Call) : Prop where
  limit : copy.FromRead c old ∨ copy.Defaulted c old
  notRemembered : copy.Reads c old → (¬ ∃ limits, copy.Complete c limits) →
    (copy.after ∅ (c :: old)).lookup c.clientId = (copy.after ∅ old).lookup c.clientId

/-- The call reads the client's tier, and remembers limits. -/
def Fills (c : Call) (old : List Call) : Prop :=
  copy.Reads c old ∧ ∃ tierId, c.config (clientKey c.clientId) = .ok (some tierId)

/-- A call that reads the client's tier reads the entry of that tier too. -/
def ReadsTier (c : Call) (old : List Call) : Prop :=
  copy.Fills c old → ∃ limits, copy.Complete c limits

/-- What is remembered for the client was read at most sixty seconds before. -/
def Recent (c : Call) (old : List Call) : Prop :=
  ¬ copy.Reads c old → ∃ c' old', c' :: old' <:+ old ∧ c'.clientId = c.clientId ∧
    copy.Fills c' old' ∧ c.nowSecs ≤ c'.nowSecs + 60

/-- The property holds of each of the calls after those before it. -/
def Throughout (P : Call → List Call → Prop) (calls : List Call) : Prop :=
  ∀ c old, c :: old <:+ calls → P c old

/-! ## One call -/

variable {copy} {c : Call} {old calls : List Call} {limits : Limits}

theorem applied_of_fills (h : copy.Fills c old) (hc : copy.Complete c limits) :
    copy.applied c old = (limits c.endpoint).getD c.defaultLimit ∧
      copy.after ∅ (c :: old) =
        (copy.room (copy.after ∅ old)).insert c.clientId ⟨limits, copy.clock c.nowSecs⟩ := by
  obtain ⟨hreads, -⟩ := h
  obtain ⟨tierId, json, hclient, htier, rfl⟩ := hc
  unfold Reads at hreads
  have hlimits : tierLimits copy.codec c.config tierId = parseTierLimits copy.codec json := by
    unfold tierLimits
    rw [htier]
  constructor
  · unfold applied Copy.limit getCustomerLimit
    rw [hreads]
    dsimp only
    rw [hclient]
    dsimp only
    rw [hlimits]
  · show (copy.limit (copy.after ∅ old) c).2 = _
    unfold Copy.limit getCustomerLimit
    rw [hreads]
    dsimp only
    rw [hclient]
    dsimp only
    rw [hlimits]

/-- A call that reads the client's tier leaves an entry of its own time. -/
theorem lookup_of_fills (h : copy.Fills c old) : ∃ entry,
    (copy.after ∅ (c :: old)).lookup c.clientId = some entry ∧
      entry.fetchedAt = copy.clock c.nowSecs := by
  obtain ⟨hreads, tierId, hclient⟩ := h
  unfold Reads at hreads
  refine ⟨⟨tierLimits copy.codec c.config tierId, copy.clock c.nowSecs⟩, ?_, rfl⟩
  show (copy.limit (copy.after ∅ old) c).2.lookup c.clientId = _
  unfold Copy.limit getCustomerLimit
  rw [hreads]
  dsimp only
  rw [hclient]
  exact AList.lookup_insert _

/-- Any other call leaves the cache as it is. -/
theorem after_of_not_fills (h : ¬ copy.Fills c old) :
    copy.after ∅ (c :: old) = copy.after ∅ old := by
  show (copy.limit (copy.after ∅ old) c).2 = _
  unfold Copy.limit getCustomerLimit
  split
  · rfl
  · next hreads =>
    split
    · next tierId hclient => exact absurd ⟨hreads, tierId, hclient⟩ h
    · rfl

theorem applied_of_not_fills (hreads : copy.Reads c old) (h : ¬ copy.Fills c old) :
    copy.applied c old = c.defaultLimit := by
  unfold applied Copy.limit getCustomerLimit
  split
  · next entry hentry =>
    unfold Reads at hreads
    rw [hreads] at hentry
    cases hentry
  · split
    · next tierId hclient => exact absurd ⟨hreads, tierId, hclient⟩ h
    · rfl

theorem applied_of_remembered {entry : TierCache}
    (h : remembered (copy.after ∅ old) c.clientId (copy.clock c.nowSecs) = some entry) :
    copy.applied c old = (entry.limits c.endpoint).getD c.defaultLimit := by
  unfold applied Copy.limit getCustomerLimit
  rw [h]

/-- What is remembered is stored and less than sixty seconds old by the clock of the copy. -/
theorem remembered_some {cache : Cache} {clientId : String} {nowSecs : Nat} {entry : TierCache}
    (h : remembered cache clientId nowSecs = some entry) :
    cache.lookup clientId = some entry ∧ nowSecs - entry.fetchedAt < 60 := by
  obtain ⟨hlookup, hfresh⟩ := Option.filter_eq_some_iff.mp h
  exact ⟨hlookup, of_decide_eq_true hfresh⟩

theorem fills_of_complete (hreads : copy.Reads c old) (h : copy.Complete c limits) :
    copy.Fills c old := by
  obtain ⟨tierId, json, hclient, -, -⟩ := h
  exact ⟨hreads, tierId, hclient⟩

/-! ## Runs -/

/-- The entry of a client is what the last of the calls that filled it read. -/
structure Stored (copy : Copy) (old : List Call) (clientId : String) (entry : TierCache)
    (c' : Call) (old' : List Call) : Prop where
  earlier : c' :: old' <:+ old
  client : c'.clientId = clientId
  fills : copy.Fills c' old'
  complete : copy.Complete c' entry.limits
  fetchedAt : entry.fetchedAt = copy.clock c'.nowSecs
  last : ∀ d rest, d :: rest <:+ old → d.clientId = clientId → copy.Fills d rest →
    d :: rest <:+ c' :: old'

/-- **The run.** Every entry was filled by a complete read. -/
theorem stored (htier : Throughout copy.ReadsTier calls) (hs : old <:+ calls) {clientId : String}
    {entry : TierCache} (h : (copy.after ∅ old).lookup clientId = some entry) :
    ∃ c' old', Stored copy old clientId entry c' old' := by
  induction old with
  | nil =>
    have hnone : (∅ : Cache).lookup clientId = some entry := h
    rw [AList.lookup_empty] at hnone
    cases hnone
  | cons c old ih =>
    have hold := ih ((List.suffix_cons c old).trans hs)
    -- what was stored before is still the last, unless the call fills the entry of the client
    have hkeep : (copy.after ∅ old).lookup clientId = some entry →
        ¬ (c.clientId = clientId ∧ copy.Fills c old) →
        ∃ c' old', Stored copy (c :: old) clientId entry c' old' := by
      intro hbefore hno
      obtain ⟨c', old', hst⟩ := hold hbefore
      refine ⟨c', old', hst.earlier.trans (List.suffix_cons c old), hst.client, hst.fills,
        hst.complete, hst.fetchedAt, ?_⟩
      intro d rest hd hclient hfills
      obtain heq | hd := List.suffix_cons_iff.mp hd
      · injection heq with hdc hrest
        subst hdc
        subst hrest
        exact absurd ⟨hclient, hfills⟩ hno
      · exact hst.last d rest hd hclient hfills
    by_cases hfills : copy.Fills c old
    · obtain ⟨limits, hcomplete⟩ := htier c old hs hfills
      rw [(applied_of_fills hfills hcomplete).2] at h
      by_cases hk : clientId = c.clientId
      · rw [hk, AList.lookup_insert, Option.some.injEq] at h
        subst h
        refine ⟨c, old, List.suffix_refl _, hk.symm, hfills, hcomplete, rfl, ?_⟩
        intro d rest hd _ _
        exact hd
      · rw [AList.lookup_insert_ne hk] at h
        exact hkeep (copy.drops _ _ _ h) fun hc => hk hc.1.symm
    · rw [after_of_not_fills hfills] at h
      exact hkeep h fun hc => hfills hc.2

/-- Earlier calls have earlier times. -/
theorem nowSecs_le (hmono : calls.Pairwise fun later earlier => earlier.nowSecs ≤ later.nowSecs)
    {c' : Call} {old' : List Call} (hs : c :: old <:+ calls) (h : c' :: old' <:+ c :: old) :
    c'.nowSecs ≤ c.nowSecs := by
  obtain heq | h := List.suffix_cons_iff.mp h
  · injection heq with hc _
    rw [hc]
  · have hpairs := hmono.sublist hs.sublist
    exact (List.pairwise_cons.mp hpairs).1 c' (h.subset List.mem_cons_self)

/-- A call of a run in which tiers are read completely, and the entries it finds are recent. -/
theorem fresh_of_recent (htier : Throughout copy.ReadsTier calls)
    (hmono : calls.Pairwise fun later earlier => earlier.nowSecs ≤ later.nowSecs)
    (hs : c :: old <:+ calls) (hrecent : copy.Recent c old) : copy.Fresh c old := by
  by_cases hreads : copy.Reads c old
  · by_cases hfills : copy.Fills c old
    · obtain ⟨limits, hcomplete⟩ := htier c old hs hfills
      refine ⟨.inl ⟨c, old, limits, List.suffix_refl _, rfl, hreads, hcomplete,
        Nat.le_add_right _ _, (applied_of_fills hfills hcomplete).1⟩, ?_⟩
      intro _ hno
      exact absurd ⟨limits, hcomplete⟩ hno
    · refine ⟨.inr ⟨hreads, ?_, applied_of_not_fills hreads hfills⟩, ?_⟩
      · rintro ⟨limits, hcomplete⟩
        exact hfills (fills_of_complete hreads hcomplete)
      · intro _ _
        rw [after_of_not_fills hfills]
  · refine ⟨.inl ?_, fun h => absurd h hreads⟩
    obtain ⟨d, rest, hd, hclient, hfills, hage⟩ := hrecent hreads
    obtain ⟨entry, hentry⟩ := Option.ne_none_iff_exists'.mp hreads
    obtain ⟨c', old', hst⟩ :=
      stored htier ((List.suffix_cons c old).trans hs) (remembered_some hentry).1
    have hle : d.nowSecs ≤ c'.nowSecs :=
      nowSecs_le hmono (hst.earlier.trans ((List.suffix_cons c old).trans hs))
        (hst.last d rest hd hclient hfills)
    exact ⟨c', old', entry.limits, hst.earlier.trans (List.suffix_cons c old), hst.client,
      hst.fills.1, hst.complete, by omega, applied_of_remembered hentry⟩

/-- What a fresh call says of the calls before it. -/
theorem Fresh.conditions (h : copy.Fresh c old) : copy.ReadsTier c old ∧ copy.Recent c old := by
  constructor
  · intro hfills
    by_contra hno
    obtain ⟨entry, hentry, hfetched⟩ := lookup_of_fills hfills
    rw [h.notRemembered hfills.1 hno] at hentry
    have hsome : remembered (copy.after ∅ old) c.clientId (copy.clock c.nowSecs) = some entry := by
      refine Option.filter_eq_some_iff.mpr ⟨hentry, decide_eq_true ?_⟩
      omega
    have hnone : remembered (copy.after ∅ old) c.clientId (copy.clock c.nowSecs) = none := hfills.1
    rw [hnone] at hsome
    cases hsome
  · intro hreads
    rcases h.limit with ⟨c', old', limits, hs, hclient, hreads', hcomplete, hage, -⟩ | hdefault
    · obtain heq | hs := List.suffix_cons_iff.mp hs
      · injection heq with hc hold
        subst hc
        subst hold
        exact absurd hreads' hreads
      · exact ⟨c', old', hs, hclient, fills_of_complete hreads' hcomplete, hage⟩
    · exact absurd hdefault.1 hreads

/-- **One copy.** -/
theorem fresh_iff (hmono : calls.Pairwise fun later earlier => earlier.nowSecs ≤ later.nowSecs) :
    Throughout copy.Fresh calls ↔
      Throughout copy.ReadsTier calls ∧ Throughout copy.Recent calls := by
  constructor
  · intro h
    exact ⟨fun c old hs => (h c old hs).conditions.1, fun c old hs => (h c old hs).conditions.2⟩
  · rintro ⟨htier, hrecent⟩ c old hs
    exact fresh_of_recent htier hmono hs (hrecent c old hs)

/-- In the expert copy what is remembered is recent. -/
theorem expert_recent {codec : TierJson} {iterate : Entries → Entries}
    (htier : Throughout (expert codec iterate).ReadsTier calls) :
    Throughout (expert codec iterate).Recent calls := by
  intro c old hs hreads
  obtain ⟨entry, hentry⟩ := Option.ne_none_iff_exists'.mp hreads
  obtain ⟨hlookup, hage⟩ := remembered_some hentry
  obtain ⟨c', old', hst⟩ := stored htier ((List.suffix_cons c old).trans hs) hlookup
  have hfetched : entry.fetchedAt = c'.nowSecs := hst.fetchedAt
  have hnow : c.nowSecs - entry.fetchedAt < 60 := hage
  exact ⟨c', old', hst.earlier, hst.client, hst.fills, by omega⟩

end Copy

/-- **Fresh limits.** Over any calls at non-decreasing times, newest first: the limits the expert
copy applies are fresh exactly when no tier that a client has is missing or unreadable, and those of
the hosted copy when, besides, what it remembers was read at most sixty seconds before. -/
theorem limits_fresh_iff (codec : TierJson) (iterate : Entries → Entries) (calls : List Call)
    (hmono : calls.Pairwise fun later earlier => earlier.nowSecs ≤ later.nowSecs) :
    (Copy.Throughout (Copy.expert codec iterate).Fresh calls ↔
      Copy.Throughout (Copy.expert codec iterate).ReadsTier calls) ∧
    (Copy.Throughout (Copy.hosted codec).Fresh calls ↔
      Copy.Throughout (Copy.hosted codec).ReadsTier calls ∧
        Copy.Throughout (Copy.hosted codec).Recent calls) := by
  refine ⟨?_, Copy.fresh_iff hmono⟩
  rw [Copy.fresh_iff hmono]
  exact ⟨fun h => h.1, fun h => ⟨h, Copy.expert_recent h⟩⟩

/-- A client of the tier `gold`, whose entry is answered so. -/
def sampleConfig (tier : Except Unit (Option String)) : Config := fun key =>
  if key = clientKey "shop" then .ok (some "gold") else tier

/-- The text of a tier is its limit on each endpoint. -/
def sampleCodec : TierJson where
  nested := fun _ => none
  flat := fun json => some fun _ => if json = "100" then some 100 else none

def sampleCall (nowSecs : Nat) (tier : Except Unit (Option String)) : Call :=
  ⟨"shop", "challenge", 500, nowSecs, sampleConfig tier⟩

theorem complete_sample (copy : Copy) (nowSecs : Nat) (json : String) :
    copy.Complete (sampleCall nowSecs (.ok (some json))) (parseTierLimits copy.codec json) :=
  ⟨"gold", json, rfl, rfl, rfl⟩

theorem fills_sample {copy : Copy} {nowSecs : Nat} {tier : Except Unit (Option String)} :
    copy.Fills (sampleCall nowSecs tier) [] :=
  ⟨rfl, "gold", rfl⟩

/-- Two calls half a minute apart are answered with the limit of the tier by both copies. -/
theorem limits_fresh_half_minute :
    Copy.Throughout (Copy.expert sampleCodec id).Fresh
        [sampleCall 30 (.ok (some "100")), sampleCall 0 (.ok (some "100"))] ∧
      Copy.Throughout (Copy.hosted sampleCodec).Fresh
        [sampleCall 30 (.ok (some "100")), sampleCall 0 (.ok (some "100"))] := by
  have htier : ∀ copy : Copy, Copy.Throughout copy.ReadsTier
      [sampleCall 30 (.ok (some "100")), sampleCall 0 (.ok (some "100"))] := by
    intro copy c old hs _
    have hc := hs.subset List.mem_cons_self
    rw [List.mem_cons, List.mem_singleton] at hc
    rcases hc with rfl | rfl
    · exact ⟨_, complete_sample copy 30 "100"⟩
    · exact ⟨_, complete_sample copy 0 "100"⟩
  obtain ⟨hexpert, hhosted⟩ := limits_fresh_iff sampleCodec id
    [sampleCall 30 (.ok (some "100")), sampleCall 0 (.ok (some "100"))] (by decide)
  refine ⟨hexpert.mpr (htier _), hhosted.mpr ⟨htier _, ?_⟩⟩
  intro c old hs hreads
  obtain heq | hs := List.suffix_cons_iff.mp hs
  · injection heq with hc hold
    subst hc
    subst hold
    exact ⟨_, [], List.suffix_refl _, rfl, fills_sample, Nat.le_of_ble_eq_true rfl⟩
  · obtain heq | hs := List.suffix_cons_iff.mp hs
    · injection heq with hc hold
      subst hc
      subst hold
      exact absurd fills_sample.1 hreads
    · cases List.suffix_nil.mp hs

/-- A tier that could not be read is remembered by the expert copy as one without limits, and half a
minute later the default is applied again, without a read. The hosted copy applies the limit of a
tier ten minutes after it has read it. -/
theorem stale_limits :
    ¬ Copy.Throughout (Copy.expert sampleCodec id).Fresh
        [sampleCall 30 (.ok (some "100")), sampleCall 0 (.error ())] ∧
      (Copy.expert sampleCodec id).applied (sampleCall 30 (.ok (some "100")))
        [sampleCall 0 (.error ())] = 500 ∧
      ¬ Copy.Throughout (Copy.hosted sampleCodec).Fresh
        [sampleCall 600 (.ok (some "20")), sampleCall 0 (.ok (some "100"))] ∧
      (Copy.hosted sampleCodec).applied (sampleCall 600 (.ok (some "20")))
        [sampleCall 0 (.ok (some "100"))] = 100 := by
  refine ⟨?_, by decide +kernel, ?_, by decide +kernel⟩
  · intro h
    have hfresh := h _ _ (List.suffix_cons _ [sampleCall 0 (.error ())])
    obtain ⟨limits, tierId, json, hclient, htier, -⟩ := hfresh.conditions.1 fills_sample
    have hgold : tierId = "gold" := by
      injection hclient with hclient
      injection hclient with hclient
      exact hclient.symm
    rw [hgold] at htier
    cases htier
  · intro h
    have hfresh := h _ _ (List.suffix_refl _)
    have hreads : ¬ (Copy.hosted sampleCodec).Reads (sampleCall 600 (.ok (some "20")))
        [sampleCall 0 (.ok (some "100"))] := by
      intro hnone
      have hsome : (remembered ((Copy.hosted sampleCodec).after ∅
          [sampleCall 0 (.ok (some "100"))]) "shop" 0).isSome = true := by decide +kernel
      rw [show remembered ((Copy.hosted sampleCodec).after ∅
        [sampleCall 0 (.ok (some "100"))]) "shop" 0 = none from hnone] at hsome
      cases hsome
    obtain ⟨c', old', hs, -, -, hage⟩ := hfresh.conditions.2 hreads
    obtain heq | hs := List.suffix_cons_iff.mp hs
    · injection heq with hc _
      subst hc
      exact absurd hage (by decide)
    · cases List.suffix_nil.mp hs

end TierLimits

end ProviiVerifier
