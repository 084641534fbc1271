/-
  `storage/jwks.rs`: the issuer registry as one isolate caches it.

  Tasks of an isolate run one at a time and are suspended only while the namespace is asked, which
  a refresh does between its first lines (`refreshStart`) and its last (`refreshFinish`); the
  functions here are what runs without interruption. The texts of entries, their keys and the
  curve are read by code outside the repository.

  The epoch is a 64-bit counter of the source; here it does not wrap.
-/
import ProviiVerifier.Service

namespace ProviiVerifier

/-! ## Entries -/

/-- `IssuerRegistryEntry`: the fields that are read. -/
structure IssuerRegistryEntry where
  issuerKid : String
  verificationKey : String
  organizationName : String
  revoked : Bool
  deriving DecidableEq

/-- `IssuerMeta`, with the fields no handler reads. -/
structure RegisteredIssuer extends IssuerMeta where
  name : String
  vkBytes : Bytes
  deriving DecidableEq

/-- The crates that read an entry. -/
structure RegistryCodec where
  /-- `serde_json::from_str`. -/
  parseEntry : String → Option IssuerRegistryEntry
  base64UrlDecode : String → Option Bytes
  /-- `SubgroupPoint::from_bytes` accepts the bytes. -/
  isSubgroupPoint : Bytes → Bool
  blake2s256 : Bytes → Bytes

/-- The hash a verification key is registered under. -/
def RegistryCodec.keyHash (codec : RegistryCodec) (vk : Bytes) : Bytes :=
  codec.blake2s256 (utf8Bytes "provii.issuer.vk.v0" ++ vk)

/-- The issuer of an entry, unless its key is not one. -/
def RegistryCodec.issuer (codec : RegistryCodec) (entry : IssuerRegistryEntry) :
    Option (Bytes × RegisteredIssuer) :=
  match codec.base64UrlDecode entry.verificationKey with
  | some vkBytes =>
    if vkBytes.length = 32 then
      if codec.isSubgroupPoint vkBytes then
        some (codec.keyHash vkBytes,
          { kid := entry.issuerKid, revoked := entry.revoked,
            name := entry.organizationName, vkBytes })
      else none
    else none
  | none => none

/-! ## Fetching -/

/-- What the read of a listed entry comes to. -/
inductive EntryRead
  | value (text : String)
  /-- The entry was deleted after it was listed. -/
  | missing
  | failed
  | timedOut
  deriving DecidableEq

/-- What the namespace answers a refresh. -/
inductive Fetch
  | listFailed (e : String)
  | listTimedOut (e : String)
  | listed (listComplete : Bool) (reads : List (String × EntryRead))
  deriving DecidableEq

/-- The entry of a read; what cannot be read or parsed is skipped. -/
def EntryRead.entry (codec : RegistryCodec) : EntryRead → Option IssuerRegistryEntry
  | .value text => codec.parseEntry text
  | _ => none

/-- `fetch_from_kv`. -/
def fetchFromKv (codec : RegistryCodec) : Fetch → Except ApiError (List IssuerRegistryEntry)
  | .listFailed e => .error (.internal s!"KV list failed: {e}")
  | .listTimedOut e => .error (.internal e)
  | .listed listComplete reads =>
    if listComplete then .ok (reads.filterMap fun r => r.2.entry codec)
    else .error (.internal "Issuer registry KV list truncated (list_complete=false)")

/-- The cache a refresh builds: later entries replace earlier ones of the same key. -/
def newCache (codec : RegistryCodec) (entries : List IssuerRegistryEntry) :
    Bytes → Option RegisteredIssuer :=
  entries.foldl (fun cache entry =>
    match codec.issuer entry with
    | some (hash, issuer) => Function.update cache hash (some issuer)
    | none => cache) fun _ => none

/-! ## The circuit breaker -/

def maxConsecutiveFailures : Nat := 3
def circuitBreakerResetSecs : Nat := 300

/-- `CircuitBreakerState`. -/
structure CircuitBreakerState where
  consecutiveFailures : Nat
  lastFailureTime : Nat
  isOpen : Bool

namespace CircuitBreakerState

def new : CircuitBreakerState := ⟨0, 0, false⟩

def shouldAttempt (breaker : CircuitBreakerState) (now : Nat) : Bool :=
  if breaker.isOpen then circuitBreakerResetSecs < now - breaker.lastFailureTime else true

def recordSuccess (breaker : CircuitBreakerState) : CircuitBreakerState :=
  { breaker with consecutiveFailures := 0, isOpen := false }

def recordFailure (breaker : CircuitBreakerState) (now : Nat) : CircuitBreakerState :=
  { consecutiveFailures := min (breaker.consecutiveFailures + 1) (2 ^ 32 - 1)
    lastFailureTime := now
    isOpen := breaker.isOpen ||
      maxConsecutiveFailures ≤ min (breaker.consecutiveFailures + 1) (2 ^ 32 - 1) }

end CircuitBreakerState

/-! ## The cache -/

def cacheTtlSecs : Nat := 600
def staleCacheTtlSecs : Nat := 960
def hardMaxCacheTtlSecs : Nat := 3600

/-- `JwksCache`. -/
structure JwksCache where
  cache : Bytes → Option RegisteredIssuer
  lastRefresh : Nat
  circuitBreaker : CircuitBreakerState
  refreshInProgress : Bool
  epoch : Nat

namespace JwksCache

def new : JwksCache :=
  { cache := fun _ => none, lastRefresh := 0, circuitBreaker := .new
    refreshInProgress := false, epoch := 0 }

def isStale (c : JwksCache) (now : Nat) : Bool := cacheTtlSecs < now - c.lastRefresh

def isExtremelyStale (c : JwksCache) (now : Nat) : Bool := staleCacheTtlSecs < now - c.lastRefresh

def isBeyondHardMax (c : JwksCache) (now : Nat) : Bool :=
  c.lastRefresh == 0 || hardMaxCacheTtlSecs < now - c.lastRefresh

/-- The cached issuer, or that there is none. -/
def find (c : JwksCache) (issuerKeyHash : Bytes) : Except ApiError RegisteredIssuer :=
  match c.cache issuerKeyHash with
  | some issuer => .ok issuer
  | none => .error .notFound

/-- `lookup_issuer` after its refresh failed. -/
def findDegraded (c : JwksCache) (now : Nat) (issuerKeyHash : Bytes) :
    Except ApiError RegisteredIssuer :=
  if c.isBeyondHardMax now then
    .error (.internal "Issuer registry unavailable: cache expired beyond hard maximum")
  else
    match c.cache issuerKeyHash with
    | some issuer => .ok issuer
    | none => .error (.internal "Issuer registry unavailable and no cached data")

/-- `finish_refresh`. -/
def finishRefresh (c : JwksCache) : JwksCache := { c with refreshInProgress := false }

/-- `refresh` up to its fetch: the epoch it remembers. -/
def refreshStart (c : JwksCache) : Nat := c.epoch

/-- `refresh` from its fetch on. -/
def refreshFinish (codec : RegistryCodec) (c : JwksCache) (epochBefore : Nat) (answer : Fetch)
    (now : Nat) : Except ApiError Unit × JwksCache :=
  match fetchFromKv codec answer with
  | .error e => (.error e, c)
  | .ok entries =>
    -- an invalidation arrived in the meantime: the fetch is discarded
    if c.epoch ≠ epochBefore then (.ok (), c)
    else (.ok (), { c with cache := newCache codec entries, lastRefresh := now })

/-- `try_refresh` from its fetch on; `started` is the time it began. -/
def tryRefreshFinish (codec : RegistryCodec) (c : JwksCache) (started epochBefore : Nat)
    (answer : Fetch) (now : Nat) : Except ApiError Unit × JwksCache :=
  match c.refreshFinish codec epochBefore answer now with
  | (.ok (), c') =>
    (.ok (), finishRefresh { c' with circuitBreaker := c'.circuitBreaker.recordSuccess })
  | (.error e, c') =>
    (.error e, finishRefresh { c' with circuitBreaker := c'.circuitBreaker.recordFailure started })

/-- `lookup_issuer` from its blocking refresh on; `began` is the time of the lookup. -/
def lookupFinish (codec : RegistryCodec) (c : JwksCache) (began epochBefore : Nat)
    (answer : Fetch) (now : Nat) (issuerKeyHash : Bytes) :
    Except ApiError RegisteredIssuer × JwksCache :=
  match c.tryRefreshFinish codec began epochBefore answer now with
  | (.ok (), c') => (c'.find issuerKeyHash, c')
  | (.error _, c') => (c'.findDegraded began issuerKeyHash, c')

/-- `invalidate`. -/
def invalidate (c : JwksCache) : JwksCache :=
  { c with epoch := c.epoch + 1, cache := fun _ => none, lastRefresh := 0 }

end JwksCache

end ProviiVerifier
