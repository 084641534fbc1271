/-
  `storage/origin_policy.rs`: origin policies, their clients and the API key prefix index,
  and `verify_against_policy` of `routes/api_key_auth.rs`, which searches the clients of a
  policy for the one an API key belongs to.
-/
import ProviiVerifier.Challenge

namespace ProviiVerifier

/-- `ClientAuthConfig`. -/
structure ClientAuthConfig where
  clientId : String
  apiKeyHash : String
  apiKeyPrefix : Option String
  encryptedHmacSecret : String
  dekEncrypted : String
  encryptionVersion : Nat
  active : Bool
  deriving DecidableEq, Repr

/-- `OriginPolicy`; the fields no modelled function reads are left out. -/
structure OriginPolicy where
  tenantId : String
  minAgeYears : Nat
  maxAgeYears : Option Nat
  proofDirection : Option ProofDirection
  allowedVkIds : List Nat
  allowedIssuers : List String
  maxTtlSec : Nat
  enabled : Bool
  clients : List ClientAuthConfig
  deriving DecidableEq, Repr

/-- `PolicyLookupResult`. -/
inductive PolicyLookupResult
  | found (policy : OriginPolicy)
  | disabled
  | notFound
  deriving DecidableEq, Repr

namespace OriginPolicy

/-- `effective_proof_direction`. -/
def effectiveProofDirection (p : OriginPolicy) : ProofDirection :=
  match p.proofDirection with
  | some dir => dir
  | none => if p.maxAgeYears.isSome then .underAge else .overAge

/-- `age_threshold`. -/
def ageThreshold (p : OriginPolicy) : Except String Nat :=
  match p.effectiveProofDirection with
  | .overAge =>
    if p.minAgeYears > 150 then .error "min_age_years exceeds maximum of 150"
    else .ok p.minAgeYears
  | .underAge =>
    match p.maxAgeYears with
    | none => .error "Origin policy does not allow under-age verification"
    | some age =>
      if age > 150 then .error "max_age_years exceeds maximum of 150" else .ok age

end OriginPolicy

/-! ## API keys -/

/-- The characters of the first `n` bytes, when `n` bytes end at a character. -/
def takeBytes : List Char → Nat → Option (List Char)
  | _, 0 => some []
  | [], _ + 1 => none
  | c :: cs, n + 1 =>
    if c.utf8Size ≤ n + 1 then (takeBytes cs (n + 1 - c.utf8Size)).map (c :: ·) else none

/-- `s.get(..8).unwrap_or(s)`. -/
def prefix8 (s : String) : String :=
  match takeBytes s.toList 8 with
  | some cs => String.ofList cs
  | none => s

/-- The bucket of a client in the prefix index. -/
def indexKey (c : ClientAuthConfig) : String :=
  match c.apiKeyPrefix with
  | some p => prefix8 p
  | none => "PREFIX_UNKNOWN"

/-- `build_api_key_index`: the positions of the active clients in each bucket. -/
def buildApiKeyIndex (policy : OriginPolicy) (key : String) : Option (List Nat) :=
  let idxs := (policy.clients.zipIdx.filter fun ci => ci.1.active && indexKey ci.1 = key).map
    (·.2)
  if idxs = [] then none else some idxs

/-- `MAX_FALLBACK_SCAN`. -/
def maxFallbackScan : Nat := 5

/-- `verify_against_policy`: the client the key belongs to. The bucket of the key's prefix is
searched, or else the `PREFIX_UNKNOWN` bucket, or else the first five active clients. -/
def verifyAgainstPolicy (verifyApiKey : String → String → Bool) (apiKey : String)
    (policy : OriginPolicy) : Option String :=
  let candidates := match buildApiKeyIndex policy (prefix8 apiKey) with
    | some idxs => some idxs
    | none => buildApiKeyIndex policy "PREFIX_UNKNOWN"
  let matching (c : ClientAuthConfig) : Bool := c.active && verifyApiKey apiKey c.apiKeyHash
  match candidates with
  | some idxs => ((idxs.filterMap fun i => policy.clients[i]?).find? matching).map (·.clientId)
  | none =>
    ((policy.clients.filter (·.active)).take maxFallbackScan).find? matching |>.map (·.clientId)

end ProviiVerifier
