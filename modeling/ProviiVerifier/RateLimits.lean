/-
  The rate-limit checks of `rate_limiting.rs` and `check_quota` of `hosted/rate_limiting.rs`, with
  `get_client_id` of `worker_routes.rs`.

  Every check counts under a key of the one KV namespace: a first segment for the limiter, then who
  is counted and on which endpoint, then the start of the window. A client may be identified by the
  `Origin` header, which can hold any text. Endpoint labels and hashed addresses have no `:`.

  Proved: two checks use one key exactly when they are the same limiter, for the same subject, on
  the same endpoint and in the same window (`same_key_iff`).
-/
import ProviiVerifier.Encoding.Decimal
import ProviiVerifier.ExpertCounter
import ProviiVerifier.HostedChallenge
import ProviiVerifier.TierLimits

namespace ProviiVerifier

namespace RateLimits

open HostedCounter (Kv Faults maxU32)
open TierLimits (TierJson Config hourTs)

/-! ## Who is counted -/

/-- A text without the separator of the keys: a label of an endpoint, a hashed address. -/
structure Label where
  text : String
  plain : ':' ∉ text.toList

/-- `get_client_id`, given the hash of the address; `sha256Hex` is the hexadecimal SHA-256 of a
text. -/
def getClientId (sha256Hex : String → String) (headers : Headers) (ipHash : Label) : String :=
  match (headers "Origin").filter fun origin => origin ≠ "" with
  | some origin => "origin:" ++ origin ++ ":" ++ ipHash.text
  | none =>
    match (headers "X-API-Key").filter fun apiKey => apiKey ≠ "" with
    | some apiKey =>
      "apikey:" ++ String.ofList ((sha256Hex apiKey).toList.take 16) ++ ":" ++ ipHash.text
    | none => "ip:" ++ ipHash.text

/-- Whom `get_client_id` tells apart: an origin, a key or neither, at an address. -/
inductive Identity
  | origin (value address : String)
  | apiKey (hashed address : String)
  | ip (address : String)
  deriving DecidableEq

/-- The client of a request. -/
def identity (sha256Hex : String → String) (headers : Headers) (ipHash : Label) : Identity :=
  match (headers "Origin").filter fun origin => origin ≠ "" with
  | some origin => .origin origin ipHash.text
  | none =>
    match (headers "X-API-Key").filter fun apiKey => apiKey ≠ "" with
    | some apiKey => .apiKey (String.ofList ((sha256Hex apiKey).toList.take 16)) ipHash.text
    | none => .ip ipHash.text

/-! ## Keys -/

def quotaKey (clientId endpoint : String) (hourTs : Nat) : String :=
  "quota:" ++ clientId ++ ":" ++ endpoint ++ ":" ++ toString hourTs

def accountQuotaKey (verifiedClientId endpoint : String) (hourTs : Nat) : String :=
  "acct_quota:" ++ verifiedClientId ++ ":" ++ endpoint ++ ":" ++ toString hourTs

def perIpKey (keyPrefix ip : String) (hourTs : Nat) : String :=
  keyPrefix ++ ip ++ ":" ++ toString hourTs

def catchallKey (hashedIp : String) (minuteTs : Nat) : String :=
  "catchall:" ++ hashedIp ++ ":" ++ toString minuteTs

def hostedIpKey (endpoint hashedIp : String) (hourTs : Nat) : String :=
  "hosted:" ++ endpoint ++ ":" ++ hashedIp ++ ":" ++ toString hourTs

def expertIpKey (endpoint hashedIp : String) (hourTs : Nat) : String :=
  "expert_ip:" ++ endpoint ++ ":" ++ hashedIp ++ ":" ++ toString hourTs

/-! ## The expert checks -/

/-- `RateLimitResult` in `rate_limiting.rs`. -/
structure RateLimitResult where
  allowed : Bool
  currentCount : Nat
  limit : Nat
  retryAfterSecs : Nat
  readFailed : Bool
  deriving DecidableEq

/-- `MAX_ADVERTISED_RETRY_AFTER_SECS`. -/
def maxAdvertisedRetryAfterSecs : Nat := 60

/-- `clamp_retry_after`. -/
def clampRetryAfter (retryAfterSecs : Nat) : Nat := min retryAfterSecs maxAdvertisedRetryAfterSecs

/-- The start of the minute of a time. -/
def minuteTs (nowSecs : Nat) : Nat := nowSecs / 60 * 60

/-- The seconds to the end of a window, as a `u32`. -/
def untilEnd (windowTs windowSecs nowSecs : Nat) : Nat :=
  min (NonceDO.satAdd windowTs windowSecs - nowSecs) maxU32

/-- What every expert check does with its key: count the request, and tell when to come back. The
time is in milliseconds. -/
def checkWindow (kv : Kv) (f : Faults) (key : String)
    (limit ttlSecs windowTs windowSecs nowMs : Nat) : RateLimitResult × Kv :=
  let (verdict, kv) := ExpertCounter.checkKvCounter kv f key limit ttlSecs nowMs
  (⟨verdict.allowed, verdict.count, verdict.limit,
    clampRetryAfter (untilEnd windowTs windowSecs (nowMs / 1000)), verdict.kvUnavailable⟩, kv)

/-- An isolate of the expert routes: the tiers it remembers, and the counters in KV. -/
structure Expert where
  tiers : TierLimits.Cache
  kv : Kv

variable (codec : TierJson) (iterate : TierLimits.Entries → TierLimits.Entries)

/-- `check_quota`. -/
def checkQuota (s : Expert) (config : Config) (f : Faults) (clientId endpoint : String)
    (defaultLimit nowMs : Nat) : RateLimitResult × Expert :=
  let nowSecs := nowMs / 1000
  let (limit, tiers) :=
    TierLimits.expertLimit codec iterate s.tiers config clientId endpoint defaultLimit nowSecs
  let (result, kv) := checkWindow s.kv f (quotaKey clientId endpoint (hourTs nowSecs)) limit 7200
    (hourTs nowSecs) 3600 nowMs
  (result, ⟨tiers, kv⟩)

/-- `check_account_quota`. -/
def checkAccountQuota (s : Expert) (config : Config) (f : Faults)
    (verifiedClientId endpoint : String) (defaultLimit nowMs : Nat) : RateLimitResult × Expert :=
  let nowSecs := nowMs / 1000
  let (limit, tiers) := TierLimits.expertLimit codec iterate s.tiers config verifiedClientId
    endpoint defaultLimit nowSecs
  let (result, kv) := checkWindow s.kv f
    (accountQuotaKey verifiedClientId endpoint (hourTs nowSecs)) limit 7200 (hourTs nowSecs) 3600
    nowMs
  (result, ⟨tiers, kv⟩)

/-- `check_per_ip_limit`. -/
def checkPerIpLimit (kv : Kv) (f : Faults) (keyPrefix ip : String) (limit nowMs : Nat) :
    RateLimitResult × Kv :=
  let hour := hourTs (nowMs / 1000)
  checkWindow kv f (perIpKey keyPrefix ip hour) limit 7200 hour 3600 nowMs

/-- `check_catchall_limit`. -/
def checkCatchallLimit (kv : Kv) (f : Faults) (hashedIp : String) (limit nowMs : Nat) :
    RateLimitResult × Kv :=
  let minute := minuteTs (nowMs / 1000)
  checkWindow kv f (catchallKey hashedIp minute) limit 120 minute 60 nowMs

/-- `check_hosted_ip_limit`. -/
def checkHostedIpLimit (kv : Kv) (f : Faults) (hashedIp endpoint : String) (limit nowMs : Nat) :
    RateLimitResult × Kv :=
  let hour := hourTs (nowMs / 1000)
  checkWindow kv f (hostedIpKey endpoint hashedIp hour) limit 7200 hour 3600 nowMs

/-- `check_expert_ip_limit`. -/
def checkExpertIpLimit (kv : Kv) (f : Faults) (hashedIp endpoint : String) (limit nowMs : Nat) :
    RateLimitResult × Kv :=
  let hour := hourTs (nowMs / 1000)
  checkWindow kv f (expertIpKey endpoint hashedIp hour) limit 7200 hour 3600 nowMs

/-! ## The hosted check -/

/-- `RateLimitResult` in `hosted/rate_limiting.rs`. -/
structure HostedRateLimitResult where
  allowed : Bool
  currentCount : Nat
  limit : Nat
  retryAfterSecs : Nat
  kvUnavailable : Bool
  deriving DecidableEq

/-- An isolate of the hosted routes. -/
structure Hosted where
  tiers : TierLimits.Cache
  counters : HostedCounter.Isolate

/-- `check_quota` of the hosted routes. -/
def hostedCheckQuota (walk : HostedCounter.Entries → HostedCounter.Entries) (s : Hosted)
    (config : Config) (f : Faults) (clientId endpoint : String) (defaultLimit nowMs : Nat) :
    HostedRateLimitResult × Hosted :=
  let hour := hourTs (nowMs / 1000)
  let (limit, tiers) :=
    TierLimits.hostedLimit codec s.tiers config clientId endpoint defaultLimit hour
  let (verdict, counters) := HostedCounter.checkKvCounter walk s.counters f
    (quotaKey clientId endpoint hour) limit 7200 nowMs
  (⟨verdict.allowed, verdict.count, verdict.limit, untilEnd hour 3600 (nowMs / 1000),
    verdict.kvUnavailable⟩, ⟨tiers, counters⟩)

/-! ## Buckets -/

/-- The limiters under `check_per_ip_limit`. -/
inductive IpLimiter
  | global
  | health
  | metrics
  | shortCode
  deriving DecidableEq

/-- The `key_prefix` that the routes pass. -/
def IpLimiter.keyPrefix : IpLimiter → String
  | .global => "global_ip:"
  | .health => "health_ip:"
  | .metrics => "metrics_ip:"
  | .shortCode => "short_code:"

/-- A rate-limit check that a route makes. The hosted quota is checked for a public key that has
passed `validate_key_format`. -/
inductive Check
  | quota (headers : Headers) (ipHash endpoint : Label)
  | accountQuota (verifiedClientId : String) (endpoint : Label)
  | perIp (limiter : IpLimiter) (ip : Label)
  | catchall (hashedIp : Label)
  | hostedIp (hashedIp endpoint : Label)
  | expertIp (hashedIp endpoint : Label)
  | hostedQuota (publicKey : { key : String // HostedChallenge.validateKeyFormat key = true })
      (endpoint : Label)

/-- The limiters. -/
inductive Limiter
  | quota
  | accountQuota
  | perIp (limiter : IpLimiter)
  | catchall
  | hostedIp
  | expertIp
  | hostedQuota
  deriving DecidableEq

/-- Whom a check counts. -/
inductive Subject
  | client (identity : Identity)
  | account (clientId : String)
  | address (hashedIp : String)
  | publicKey (key : String)
  deriving DecidableEq

namespace Check

def limiter : Check → Limiter
  | quota _ _ _ => .quota
  | accountQuota _ _ => .accountQuota
  | perIp limiter _ => .perIp limiter
  | catchall _ => .catchall
  | hostedIp _ _ => .hostedIp
  | expertIp _ _ => .expertIp
  | hostedQuota _ _ => .hostedQuota

def subject (sha256Hex : String → String) : Check → Subject
  | quota headers ipHash _ => .client (identity sha256Hex headers ipHash)
  | accountQuota verifiedClientId _ => .account verifiedClientId
  | perIp _ ip => .address ip.text
  | catchall hashedIp => .address hashedIp.text
  | hostedIp hashedIp _ => .address hashedIp.text
  | expertIp hashedIp _ => .address hashedIp.text
  | hostedQuota publicKey _ => .publicKey publicKey.val

def endpoint : Check → Option String
  | quota _ _ endpoint => some endpoint.text
  | accountQuota _ endpoint => some endpoint.text
  | perIp _ _ => none
  | catchall _ => none
  | hostedIp _ endpoint => some endpoint.text
  | expertIp _ endpoint => some endpoint.text
  | hostedQuota _ endpoint => some endpoint.text

/-- The start of the window that a time is in. -/
def window (c : Check) (nowSecs : Nat) : Nat :=
  match c with
  | catchall _ => minuteTs nowSecs
  | _ => hourTs nowSecs

/-- The key under which a check counts. -/
def key (sha256Hex : String → String) (c : Check) (nowSecs : Nat) : String :=
  match c with
  | quota headers ipHash endpoint =>
    quotaKey (getClientId sha256Hex headers ipHash) endpoint.text (hourTs nowSecs)
  | accountQuota verifiedClientId endpoint =>
    accountQuotaKey verifiedClientId endpoint.text (hourTs nowSecs)
  | perIp limiter ip => perIpKey limiter.keyPrefix ip.text (hourTs nowSecs)
  | catchall hashedIp => catchallKey hashedIp.text (minuteTs nowSecs)
  | hostedIp hashedIp endpoint => hostedIpKey endpoint.text hashedIp.text (hourTs nowSecs)
  | expertIp hashedIp endpoint => expertIpKey endpoint.text hashedIp.text (hourTs nowSecs)
  | hostedQuota publicKey endpoint => quotaKey publicKey.val endpoint.text (hourTs nowSecs)

end Check

/-! ## Identities -/

namespace Identity

/-- What the text of an identity begins with. -/
def kind : Identity → String
  | origin _ _ => "origin"
  | apiKey _ _ => "apikey"
  | ip _ => "ip"

def address : Identity → String
  | origin _ address => address
  | apiKey _ address => address
  | ip address => address

/-- What comes after the kind. -/
def who : Identity → List Char
  | origin value address => value.toList ++ ':' :: address.toList
  | apiKey hashed address => hashed.toList ++ ':' :: address.toList
  | ip address => address.toList

def text : Identity → String
  | origin value address => "origin:" ++ value ++ ":" ++ address
  | apiKey hashed address => "apikey:" ++ hashed ++ ":" ++ address
  | ip address => "ip:" ++ address

variable {a b : Identity}

theorem text_toList (a : Identity) : a.text.toList = a.kind.toList ++ ':' :: a.who := by
  cases a with
  | origin value address => simp [text, kind, who]
  | apiKey hashed address => simp [text, kind, who]
  | ip address => simp [text, kind, who]

theorem kind_plain (a : Identity) : ':' ∉ a.kind.toList := by
  cases a with
  | origin => exact show ':' ∉ "origin".toList by decide
  | apiKey => exact show ':' ∉ "apikey".toList by decide
  | ip => exact show ':' ∉ "ip".toList by decide

/-- **The text determines the identity**, whatever the header that names it contains. -/
theorem text_inj (ha : ':' ∉ a.address.toList) (hb : ':' ∉ b.address.toList)
    (h : a.text = b.text) : a = b := by
  have hlist := congrArg String.toList h
  rw [text_toList, text_toList] at hlist
  obtain ⟨hkind, hwho⟩ := Splitting.separated_first a.kind_plain b.kind_plain hlist
  rw [String.toList_inj] at hkind
  cases a with
  | origin value address =>
    cases b with
    | origin value' address' =>
      obtain ⟨hvalue, haddress⟩ := Splitting.separated_last ha hb hwho
      have haddress : address = address' := String.toList_inj.mp haddress
      rw [String.toList_inj.mp hvalue, haddress]
    | apiKey => exact absurd hkind (show "origin" ≠ "apikey" by decide)
    | ip => exact absurd hkind (show "origin" ≠ "ip" by decide)
  | apiKey hashed address =>
    cases b with
    | origin => exact absurd hkind (show "apikey" ≠ "origin" by decide)
    | apiKey hashed' address' =>
      obtain ⟨hhashed, haddress⟩ := Splitting.separated_last ha hb hwho
      have haddress : address = address' := String.toList_inj.mp haddress
      rw [String.toList_inj.mp hhashed, haddress]
    | ip => exact absurd hkind (show "apikey" ≠ "ip" by decide)
  | ip address =>
    cases b with
    | origin => exact absurd hkind (show "ip" ≠ "origin" by decide)
    | apiKey => exact absurd hkind (show "ip" ≠ "apikey" by decide)
    | ip address' =>
      have haddress : address = address' := String.toList_inj.mp hwho
      rw [haddress]

end Identity

variable {sha256Hex : String → String} {headers headers' : Headers} {ipHash ipHash' : Label}

theorem getClientId_eq :
    getClientId sha256Hex headers ipHash = (identity sha256Hex headers ipHash).text := by
  unfold getClientId identity
  split
  · rfl
  · split
    · rfl
    · rfl

theorem identity_address : (identity sha256Hex headers ipHash).address = ipHash.text := by
  unfold identity
  split
  · rfl
  · split
    · rfl
    · rfl

theorem getClientId_inj
    (h : getClientId sha256Hex headers ipHash = getClientId sha256Hex headers' ipHash') :
    identity sha256Hex headers ipHash = identity sha256Hex headers' ipHash' := by
  rw [getClientId_eq, getClientId_eq] at h
  refine Identity.text_inj ?_ ?_ h
  · rw [identity_address]
    exact ipHash.plain
  · rw [identity_address]
    exact ipHash'.plain

theorem toList_of_startsWith {s start : String} (h : startsWith s start = true) :
    ∃ rest, s.toList = start.toList ++ rest := by
  unfold startsWith stripPrefix at h
  split at h
  · next hpre =>
    obtain ⟨rest, hrest⟩ := List.isPrefixOf_iff_prefix.mp hpre
    exact ⟨rest, hrest.symm⟩
  · cases h

/-- No client id is a public key: they begin with different letters. -/
theorem getClientId_ne {key : String} (hkey : HostedChallenge.validateKeyFormat key = true) :
    getClientId sha256Hex headers ipHash ≠ key := by
  intro h
  have hhead : key.toList.head? = some 'p' := by
    unfold HostedChallenge.validateKeyFormat at hkey
    split at hkey
    · cases hkey
    · next hstart =>
      have hpre : startsWith key "pk_live_" = true ∨ startsWith key "pk_test_" = true := by
        by_contra hno
        refine hstart ⟨?_, ?_⟩
        · exact Bool.eq_false_iff.mpr fun hlive => hno (.inl hlive)
        · exact Bool.eq_false_iff.mpr fun htest => hno (.inr htest)
      rcases hpre with hpre | hpre
      · obtain ⟨rest, hrest⟩ := toList_of_startsWith hpre
        rw [hrest]
        rfl
      · obtain ⟨rest, hrest⟩ := toList_of_startsWith hpre
        rw [hrest]
        rfl
  rw [← h, getClientId_eq, Identity.text_toList] at hhead
  have hletter : ∀ a : Identity, (a.kind.toList ++ ':' :: a.who).head? ≠ some 'p' := by
    intro a
    cases a with
    | origin => simp [Identity.kind]
    | apiKey => simp [Identity.kind]
    | ip => simp [Identity.kind]
  exact hletter _ hhead

/-! ## The parts of a key -/

namespace Limiter

/-- The first segment of the keys of a limiter. -/
def family : Limiter → String
  | quota => "quota"
  | accountQuota => "acct_quota"
  | perIp .global => "global_ip"
  | perIp .health => "health_ip"
  | perIp .metrics => "metrics_ip"
  | perIp .shortCode => "short_code"
  | catchall => "catchall"
  | hostedIp => "hosted"
  | expertIp => "expert_ip"
  | hostedQuota => "quota"

theorem family_plain (l : Limiter) : ':' ∉ l.family.toList := by
  rcases l with _ | _ | (_ | _ | _ | _) | _ | _ | _ | _
  all_goals decide

/-- Only the two quotas share a segment. -/
theorem family_eq {l m : Limiter} (h : l.family = m.family) :
    l = m ∨ (l = quota ∧ m = hostedQuota) ∨ (l = hostedQuota ∧ m = quota) := by
  rcases l with _ | _ | (_ | _ | _ | _) | _ | _ | _ | _
  all_goals
    rcases m with _ | _ | (_ | _ | _ | _) | _ | _ | _ | _
    all_goals first
      | exact absurd h (by decide)
      | decide

end Limiter

namespace Check

/-- What stands between the first segment and the window. -/
def body (sha256Hex : String → String) : Check → List Char
  | quota headers ipHash endpoint =>
    (getClientId sha256Hex headers ipHash).toList ++ ':' :: endpoint.text.toList
  | accountQuota verifiedClientId endpoint =>
    verifiedClientId.toList ++ ':' :: endpoint.text.toList
  | perIp _ ip => ip.text.toList
  | catchall hashedIp => hashedIp.text.toList
  | hostedIp hashedIp endpoint => endpoint.text.toList ++ ':' :: hashedIp.text.toList
  | expertIp hashedIp endpoint => endpoint.text.toList ++ ':' :: hashedIp.text.toList
  | hostedQuota publicKey endpoint => publicKey.val.toList ++ ':' :: endpoint.text.toList

variable {c d : Check}

/-- A key of three parts. -/
theorem toList_three {front name : String} (h : front.toList = name.toList ++ [':']) (part : String)
    (n : Nat) : (front ++ part ++ ":" ++ toString n).toList =
      name.toList ++ ':' :: (part.toList ++ ':' :: n.repr.toList) := by
  have hsep : ":".toList = [':'] := rfl
  have hn : toString n = n.repr := rfl
  simp only [String.toList_append, h, hsep, hn, List.append_assoc, List.cons_append,
    List.nil_append]

/-- A key of four parts. -/
theorem toList_four {front name : String} (h : front.toList = name.toList ++ [':'])
    (part part' : String) (n : Nat) : (front ++ part ++ ":" ++ part' ++ ":" ++ toString n).toList =
      name.toList ++ ':' :: ((part.toList ++ ':' :: part'.toList) ++ ':' :: n.repr.toList) := by
  have hsep : ":".toList = [':'] := rfl
  have hn : toString n = n.repr := rfl
  simp only [String.toList_append, h, hsep, hn, List.append_assoc, List.cons_append,
    List.nil_append]

theorem key_toList (c : Check) (nowSecs : Nat) : (c.key sha256Hex nowSecs).toList =
    c.limiter.family.toList ++ ':' :: (c.body sha256Hex ++ ':' ::
      (c.window nowSecs).repr.toList) := by
  have hquota : "quota:".toList = "quota".toList ++ [':'] := by decide
  cases c with
  | quota headers ipHash endpoint => exact toList_four hquota _ _ _
  | accountQuota id endpoint =>
    have haccount : "acct_quota:".toList = "acct_quota".toList ++ [':'] := by decide
    exact toList_four haccount _ _ _
  | perIp l ip =>
    have hfront : l.keyPrefix.toList = (Limiter.perIp l).family.toList ++ [':'] := by
      cases l <;> decide
    exact toList_three hfront _ _
  | catchall ip =>
    have hcatchall : "catchall:".toList = "catchall".toList ++ [':'] := by decide
    exact toList_three hcatchall _ _
  | hostedIp ip endpoint =>
    have hhosted : "hosted:".toList = "hosted".toList ++ [':'] := by decide
    exact toList_four hhosted _ _ _
  | expertIp ip endpoint =>
    have hexpert : "expert_ip:".toList = "expert_ip".toList ++ [':'] := by decide
    exact toList_four hexpert _ _ _
  | hostedQuota publicKey endpoint => exact toList_four hquota _ _ _

/-- The limiter and the body tell the subject and the endpoint. -/
theorem body_inj (hlimiter : c.limiter = d.limiter)
    (h : c.body sha256Hex = d.body sha256Hex) :
    c.subject sha256Hex = d.subject sha256Hex ∧ c.endpoint = d.endpoint := by
  cases c with
  | quota headers ipHash endpoint =>
    cases d with
    | quota headers' ipHash' endpoint' =>
      obtain ⟨hid, hendpoint⟩ := Splitting.separated_last endpoint.plain endpoint'.plain h
      constructor
      · exact congrArg Subject.client (getClientId_inj (String.toList_inj.mp hid))
      · exact congrArg some (String.toList_inj.mp hendpoint)
    | _ => cases hlimiter
  | accountQuota id endpoint =>
    cases d with
    | accountQuota id' endpoint' =>
      obtain ⟨hid, hendpoint⟩ := Splitting.separated_last endpoint.plain endpoint'.plain h
      constructor
      · exact congrArg Subject.account (String.toList_inj.mp hid)
      · exact congrArg some (String.toList_inj.mp hendpoint)
    | _ => cases hlimiter
  | perIp l ip =>
    cases d with
    | perIp l' ip' => exact ⟨congrArg Subject.address (String.toList_inj.mp h), rfl⟩
    | _ => cases hlimiter
  | catchall ip =>
    cases d with
    | catchall ip' => exact ⟨congrArg Subject.address (String.toList_inj.mp h), rfl⟩
    | _ => cases hlimiter
  | hostedIp ip endpoint =>
    cases d with
    | hostedIp ip' endpoint' =>
      obtain ⟨hendpoint, hip⟩ := Splitting.separated_last ip.plain ip'.plain h
      constructor
      · exact congrArg Subject.address (String.toList_inj.mp hip)
      · exact congrArg some (String.toList_inj.mp hendpoint)
    | _ => cases hlimiter
  | expertIp ip endpoint =>
    cases d with
    | expertIp ip' endpoint' =>
      obtain ⟨hendpoint, hip⟩ := Splitting.separated_last ip.plain ip'.plain h
      constructor
      · exact congrArg Subject.address (String.toList_inj.mp hip)
      · exact congrArg some (String.toList_inj.mp hendpoint)
    | _ => cases hlimiter
  | hostedQuota publicKey endpoint =>
    cases d with
    | hostedQuota publicKey' endpoint' =>
      obtain ⟨hkey, hendpoint⟩ := Splitting.separated_last endpoint.plain endpoint'.plain h
      constructor
      · exact congrArg Subject.publicKey (String.toList_inj.mp hkey)
      · exact congrArg some (String.toList_inj.mp hendpoint)
    | _ => cases hlimiter

/-- The expert quota and the hosted one share a first segment, and no body. -/
theorem body_ne (hc : c.limiter = .quota) (hd : d.limiter = .hostedQuota) :
    c.body sha256Hex ≠ d.body sha256Hex := by
  intro h
  cases c with
  | quota headers ipHash endpoint =>
    cases d with
    | hostedQuota publicKey endpoint' =>
      obtain ⟨hid, -⟩ := Splitting.separated_last endpoint.plain endpoint'.plain h
      exact getClientId_ne publicKey.property (String.toList_inj.mp hid)
    | _ => cases hd
  | _ => cases hc

theorem body_eq (hlimiter : c.limiter = d.limiter)
    (hsubject : c.subject sha256Hex = d.subject sha256Hex) (hendpoint : c.endpoint = d.endpoint) :
    c.body sha256Hex = d.body sha256Hex := by
  have hid : ∀ {headers headers' : Headers} {ip ip' : Label},
      identity sha256Hex headers ip = identity sha256Hex headers' ip' →
        getClientId sha256Hex headers ip = getClientId sha256Hex headers' ip' := by
    intro headers headers' ip ip' h
    rw [getClientId_eq, getClientId_eq, h]
  cases c with
  | quota headers ipHash endpoint =>
    cases d with
    | quota headers' ipHash' endpoint' =>
      injection hsubject with hsubject
      injection hendpoint with hendpoint
      rw [body, body, hid hsubject, hendpoint]
    | _ => cases hlimiter
  | accountQuota id endpoint =>
    cases d with
    | accountQuota id' endpoint' =>
      injection hsubject with hsubject
      injection hendpoint with hendpoint
      rw [body, body, hsubject, hendpoint]
    | _ => cases hlimiter
  | perIp l ip =>
    cases d with
    | perIp l' ip' =>
      injection hsubject with hsubject
      rw [body, body, hsubject]
    | _ => cases hlimiter
  | catchall ip =>
    cases d with
    | catchall ip' =>
      injection hsubject with hsubject
      rw [body, body, hsubject]
    | _ => cases hlimiter
  | hostedIp ip endpoint =>
    cases d with
    | hostedIp ip' endpoint' =>
      injection hsubject with hsubject
      injection hendpoint with hendpoint
      rw [body, body, hsubject, hendpoint]
    | _ => cases hlimiter
  | expertIp ip endpoint =>
    cases d with
    | expertIp ip' endpoint' =>
      injection hsubject with hsubject
      injection hendpoint with hendpoint
      rw [body, body, hsubject, hendpoint]
    | _ => cases hlimiter
  | hostedQuota publicKey endpoint =>
    cases d with
    | hostedQuota publicKey' endpoint' =>
      injection hsubject with hsubject
      injection hendpoint with hendpoint
      rw [body, body, hsubject, hendpoint]
    | _ => cases hlimiter

/-- A key tells its first segment, its body and its window. -/
theorem parts_of_key {t u : Nat} (h : c.key sha256Hex t = d.key sha256Hex u) :
    c.limiter.family = d.limiter.family ∧ c.body sha256Hex = d.body sha256Hex ∧
      c.window t = d.window u := by
  have hlist := congrArg String.toList h
  rw [key_toList, key_toList] at hlist
  obtain ⟨hfamily, hrest⟩ :=
    Splitting.separated_first c.limiter.family_plain d.limiter.family_plain hlist
  obtain ⟨hbody, hwindow⟩ := Splitting.separated_last (Decimal.not_mem_repr (by decide))
    (Decimal.not_mem_repr (by decide)) hrest
  exact ⟨String.toList_inj.mp hfamily, hbody, Decimal.repr_inj hwindow⟩

/-- The key of a check is a matter of its window. -/
theorem key_of_window {t u : Nat} (h : c.window t = c.window u) :
    c.key sha256Hex t = c.key sha256Hex u := by
  rw [← String.toList_inj, key_toList, key_toList, h]

/-- **One bucket for each limiter, subject, endpoint and window.** Whatever the headers that name a
client and the ids of accounts contain. -/
theorem same_key_iff (sha256Hex : String → String) (c d : Check) (t u : Nat) :
    c.key sha256Hex t = d.key sha256Hex u ↔
      c.limiter = d.limiter ∧ c.subject sha256Hex = d.subject sha256Hex ∧
        c.endpoint = d.endpoint ∧ c.window t = d.window u := by
  constructor
  · intro h
    obtain ⟨hfamily, hbody, hwindow⟩ := parts_of_key h
    obtain hlimiter | ⟨hc, hd⟩ | ⟨hc, hd⟩ := Limiter.family_eq hfamily
    · obtain ⟨hsubject, hendpoint⟩ := body_inj hlimiter hbody
      exact ⟨hlimiter, hsubject, hendpoint, hwindow⟩
    · exact absurd hbody (body_ne hc hd)
    · exact absurd hbody.symm (body_ne hd hc)
  · rintro ⟨hlimiter, hsubject, hendpoint, hwindow⟩
    rw [← String.toList_inj, key_toList, key_toList, hlimiter, hwindow,
      body_eq hlimiter hsubject hendpoint]

end Check

end RateLimits

end ProviiVerifier
