/-
  `OriginPolicyStore` of `storage/origin_policy.rs`: the policies in KV and the cache of an isolate.

  A policy is looked up by the text of its origin; no pattern is matched. What KV holds is JSON,
  here the policy it parses to or the text of the parser's error. A read that fails or times out
  is a fault with its text. Times are milliseconds. The prefix index of a cached policy is
  computed from the policy (`buildApiKeyIndex`) and is left out of the entry.

  Proved: while the policies in KV do not change, `get_policy` and `get_policy_detail` answer what
  is stored or an error, after any calls and at any time (`getPolicy_ok`, `getPolicyDetail_ok`).
-/
import ProviiVerifier.Error
import ProviiVerifier.Policy
import ProviiVerifier.Retention.ReadThrough
import Mathlib.Data.List.AList

namespace ProviiVerifier

namespace OriginPolicyStore

/-- `policy_key`. -/
def policyKey (origin : String) : String := "origins/" ++ origin

/-- The policies in KV. -/
abbrev Kv := String → Option (Except String OriginPolicy)

/-- `CachedPolicy`. -/
structure CachedPolicy where
  policy : OriginPolicy
  cachedAt : Nat
  deriving DecidableEq

/-- The cache of an isolate. -/
abbrev Cache := AList fun _ : String => CachedPolicy

/-- `cache_ttl_ms`. -/
def cacheTtlMs : Nat := 60000

/-- `MAX_CACHE_ENTRIES`. -/
def maxCacheEntries : Nat := 1024

/-- The cached policy that has not expired. -/
def freshPolicy (cache : Cache) (now : Nat) (origin : String) : Option OriginPolicy :=
  ((cache.lookup origin).filter fun e => now - e.cachedAt < cacheTtlMs).map CachedPolicy.policy

/-- The entries of a full cache that are younger than half the time to live. -/
def evictOld (cache : Cache) (now : Nat) : Cache :=
  ⟨cache.entries.filter fun e => now - e.2.cachedAt < cacheTtlMs / 2,
    cache.nodupKeys.sublist List.filter_sublist⟩

/-- Room for one more entry. -/
def makeRoom (cache : Cache) (now : Nat) : Cache :=
  if cache.entries.length ≥ maxCacheEntries then
    let kept := evictOld cache now
    if kept.entries.length ≥ maxCacheEntries then ∅ else kept
  else cache

/-- The insertion of a policy that was read. -/
def remember (cache : Cache) (now : Nat) (origin : String) (policy : OriginPolicy) : Cache :=
  (makeRoom cache now).insert origin ⟨policy, now⟩

/-- The read from KV. -/
def readPolicy (kv : Kv) (fault : Option String) (origin : String) :
    Except ApiError (Option OriginPolicy) :=
  match fault with
  | some text => .error (.internal text)
  | none =>
    match kv (policyKey origin) with
    | none => .ok none
    | some (.error e) => .error (.internal ("Failed to parse policy: " ++ e))
    | some (.ok policy) => .ok (some policy)

/-- `get_policy`. -/
def getPolicy (kv : Kv) (cache : Cache) (now : Nat) (fault : Option String) (origin : String) :
    Except ApiError (Option OriginPolicy) × Cache :=
  match freshPolicy cache now origin with
  | some policy => (.ok (some policy), cache)
  | none =>
    match readPolicy kv fault origin with
    | .error e => (.error e, cache)
    | .ok none => (.ok none, cache)
    | .ok (some policy) =>
      if policy.enabled then (.ok (some policy), remember cache now origin policy)
      else (.ok none, cache)

/-- `get_policy_detail`. -/
def getPolicyDetail (kv : Kv) (cache : Cache) (now : Nat) (fault : Option String)
    (origin : String) : Except ApiError PolicyLookupResult × Cache :=
  match freshPolicy cache now origin with
  | some policy => (.ok (if policy.enabled then .found policy else .disabled), cache)
  | none =>
    match readPolicy kv fault origin with
    | .error e => (.error e, cache)
    | .ok none => (.ok .notFound, cache)
    | .ok (some policy) =>
      if policy.enabled then (.ok (.found policy), remember cache now origin policy)
      else (.ok .disabled, cache.erase origin)

/-! ## Sequences of calls -/

/-- A call, with the time it is made at and how its read goes. -/
inductive Call
  | getPolicy (now : Nat) (fault : Option String) (origin : String)
  | getPolicyDetail (now : Nat) (fault : Option String) (origin : String)

/-- The cache a call leaves. -/
def Call.run (kv : Kv) (call : Call) (cache : Cache) : Cache :=
  match call with
  | .getPolicy now fault origin => (OriginPolicyStore.getPolicy kv cache now fault origin).2
  | .getPolicyDetail now fault origin =>
    (OriginPolicyStore.getPolicyDetail kv cache now fault origin).2

/-- The cache after calls, newest first. -/
def cacheAfter (kv : Kv) (calls : List Call) : Cache := calls.foldr (Call.run kv) ∅

/-! ## What is stored -/

/-- The enabled policy that is stored for an origin. -/
def enabledPolicy (kv : Kv) (origin : String) : Option OriginPolicy :=
  match kv (policyKey origin) with
  | some (.ok policy) => if policy.enabled then some policy else none
  | _ => none

/-- What is stored for an origin, as `get_policy_detail` tells it. -/
def storedDetail (kv : Kv) (origin : String) : PolicyLookupResult :=
  match kv (policyKey origin) with
  | some (.ok policy) => if policy.enabled then .found policy else .disabled
  | _ => .notFound

/-- The policies that a cache holds. -/
def policyIn (cache : Cache) (origin : String) : Option OriginPolicy :=
  (cache.lookup origin).map CachedPolicy.policy

/-- The cache holds enabled policies as they are stored. -/
def Coherent (kv : Kv) (cache : Cache) : Prop :=
  ReadThrough.Coherent (enabledPolicy kv) (policyIn cache)

variable {kv : Kv} {cache : Cache} {now : Nat} {fault : Option String} {origin : String}
  {policy : OriginPolicy}

theorem storedDetail_found :
    storedDetail kv origin = .found policy ↔ enabledPolicy kv origin = some policy := by
  unfold storedDetail enabledPolicy
  split
  · split <;> simp
  · simp

theorem enabledPolicy_enabled (h : enabledPolicy kv origin = some policy) :
    policy.enabled = true := by
  unfold enabledPolicy at h
  split at h
  · split at h
    · next henabled =>
      injection h with h
      rw [← h]
      exact henabled
    · cases h
  · cases h

theorem policyIn_of_lookup {cache cache' : Cache}
    (h : ∀ e, cache'.lookup origin = some e → cache.lookup origin = some e)
    (hpolicy : policyIn cache' origin = some policy) : policyIn cache origin = some policy := by
  obtain ⟨e, he, rfl⟩ := Option.map_eq_some_iff.mp hpolicy
  exact Option.map_eq_some_iff.mpr ⟨e, h e he, rfl⟩

theorem lookup_evictOld {e : CachedPolicy} (h : (evictOld cache now).lookup origin = some e) :
    cache.lookup origin = some e :=
  AList.mem_lookup_iff.mpr (List.mem_of_mem_filter (AList.mem_lookup_iff.mp h))

theorem lookup_makeRoom {e : CachedPolicy} (h : (makeRoom cache now).lookup origin = some e) :
    cache.lookup origin = some e := by
  unfold makeRoom at h
  split at h
  · dsimp only at h
    split at h
    · rw [AList.lookup_empty] at h
      cases h
    · exact lookup_evictOld h
  · exact h

theorem Coherent.remember (h : Coherent kv cache) (hread : enabledPolicy kv origin = some policy) :
    Coherent kv (remember cache now origin policy) := by
  have hroom : Coherent kv (makeRoom cache now) :=
    h.drop fun _ _ => policyIn_of_lookup fun _ => lookup_makeRoom
  refine ReadThrough.Coherent.put hroom hread ?_ ?_
  · unfold policyIn OriginPolicyStore.remember
    rw [AList.lookup_insert]
    rfl
  · intro other hother
    unfold policyIn OriginPolicyStore.remember
    rw [AList.lookup_insert_ne hother]

theorem Coherent.erase (h : Coherent kv cache) : Coherent kv (cache.erase origin) := by
  refine h.drop fun other _ => policyIn_of_lookup fun e he => ?_
  by_cases heq : other = origin
  · subst heq
    rw [AList.lookup_erase] at he
    cases he
  · rw [AList.lookup_erase_ne heq] at he
    exact he

/-- A fresh entry is what is stored. -/
theorem Coherent.fresh (h : Coherent kv cache)
    (hfresh : freshPolicy cache now origin = some policy) :
    enabledPolicy kv origin = some policy := by
  obtain ⟨e, he, hpolicy⟩ := Option.map_eq_some_iff.mp hfresh
  refine h origin policy (Option.map_eq_some_iff.mpr ⟨e, ?_, hpolicy⟩)
  exact (Option.filter_eq_some_iff.mp he).1

theorem readPolicy_some (h : readPolicy kv fault origin = .ok (some policy)) :
    kv (policyKey origin) = some (.ok policy) := by
  unfold readPolicy at h
  split at h
  · cases h
  · split at h
    · cases h
    · cases h
    · next stored hstored =>
      injection h with h
      injection h with h
      rw [← h]
      exact hstored

theorem readPolicy_none (h : readPolicy kv fault origin = .ok none) :
    kv (policyKey origin) = none := by
  unfold readPolicy at h
  split at h
  · cases h
  · split at h
    · next hnone => exact hnone
    · cases h
    · cases h

/-! ## One call -/

/-- **`get_policy`** answers the enabled policy that is stored, if it answers one. -/
theorem Coherent.getPolicy (h : Coherent kv cache) (now : Nat) (fault : Option String)
    (origin : String) :
    Coherent kv (OriginPolicyStore.getPolicy kv cache now fault origin).2 ∧
      ∀ r, (OriginPolicyStore.getPolicy kv cache now fault origin).1 = .ok r →
        r = enabledPolicy kv origin := by
  unfold OriginPolicyStore.getPolicy
  split
  · next hfresh =>
    refine ⟨h, fun r hr => ?_⟩
    injection hr with hr
    rw [← hr]
    exact (h.fresh hfresh).symm
  · split
    · exact ⟨h, fun _ hr => nomatch hr⟩
    · next hread =>
      refine ⟨h, fun r hr => ?_⟩
      injection hr with hr
      unfold enabledPolicy
      rw [readPolicy_none hread]
      exact hr.symm
    · next policy hread =>
      have hstored := readPolicy_some hread
      split
      · next henabled =>
        have hpolicy : enabledPolicy kv origin = some policy := by
          unfold enabledPolicy
          rw [hstored]
          exact if_pos henabled
        refine ⟨h.remember hpolicy, fun r hr => ?_⟩
        injection hr with hr
        rw [← hr]
        exact hpolicy.symm
      · next hdisabled =>
        refine ⟨h, fun r hr => ?_⟩
        injection hr with hr
        unfold enabledPolicy
        rw [hstored]
        dsimp only
        rw [if_neg hdisabled]
        exact hr.symm

/-- **`get_policy_detail`** answers what is stored, if it answers. -/
theorem Coherent.getPolicyDetail (h : Coherent kv cache) (now : Nat) (fault : Option String)
    (origin : String) :
    Coherent kv (OriginPolicyStore.getPolicyDetail kv cache now fault origin).2 ∧
      ∀ r, (OriginPolicyStore.getPolicyDetail kv cache now fault origin).1 = .ok r →
        r = storedDetail kv origin := by
  unfold OriginPolicyStore.getPolicyDetail
  split
  · next policy hfresh =>
    have hpolicy := h.fresh hfresh
    refine ⟨h, fun r hr => ?_⟩
    injection hr with hr
    rw [← hr, if_pos (enabledPolicy_enabled hpolicy)]
    exact (storedDetail_found.mpr hpolicy).symm
  · split
    · exact ⟨h, fun _ hr => nomatch hr⟩
    · next hread =>
      refine ⟨h, fun r hr => ?_⟩
      injection hr with hr
      unfold storedDetail
      rw [readPolicy_none hread]
      exact hr.symm
    · next policy hread =>
      have hstored := readPolicy_some hread
      split
      · next henabled =>
        have hpolicy : enabledPolicy kv origin = some policy := by
          unfold enabledPolicy
          rw [hstored]
          exact if_pos henabled
        refine ⟨h.remember hpolicy, fun r hr => ?_⟩
        injection hr with hr
        rw [← hr]
        exact (storedDetail_found.mpr hpolicy).symm
      · next hdisabled =>
        refine ⟨h.erase, fun r hr => ?_⟩
        injection hr with hr
        unfold storedDetail
        rw [hstored]
        dsimp only
        rw [if_neg hdisabled]
        exact hr.symm

/-! ## After any calls -/

theorem coherent_cacheAfter (kv : Kv) (calls : List Call) : Coherent kv (cacheAfter kv calls) := by
  refine ReadThrough.coherent_foldr ?_ ?_ calls
  · exact ReadThrough.coherent_empty.drop fun _ _ h => by
      unfold policyIn at h
      rw [AList.lookup_empty] at h
      cases h
  · intro call cache hcache
    have h : Coherent kv cache := hcache
    cases call with
    | getPolicy now fault origin => exact (h.getPolicy now fault origin).1
    | getPolicyDetail now fault origin => exact (h.getPolicyDetail now fault origin).1

theorem getPolicy_ok {calls : List Call} {r : Option OriginPolicy}
    (h : (getPolicy kv (cacheAfter kv calls) now fault origin).1 = .ok r) :
    r = enabledPolicy kv origin :=
  ((coherent_cacheAfter kv calls).getPolicy now fault origin).2 r h

theorem getPolicyDetail_ok {calls : List Call} {r : PolicyLookupResult}
    (h : (getPolicyDetail kv (cacheAfter kv calls) now fault origin).1 = .ok r) :
    r = storedDetail kv origin :=
  ((coherent_cacheAfter kv calls).getPolicyDetail now fault origin).2 r h

/-- A stored policy that is enabled is found, unless the read fails. -/
theorem getPolicyDetail_found {calls : List Call}
    (h : enabledPolicy kv origin = some policy) :
    (getPolicyDetail kv (cacheAfter kv calls) now none origin).1 = .ok (.found policy) := by
  have hanswers : ∃ r, (getPolicyDetail kv (cacheAfter kv calls) now none origin).1 = .ok r := by
    unfold getPolicyDetail
    split
    · exact ⟨_, rfl⟩
    · next hstale =>
      unfold readPolicy
      unfold enabledPolicy at h
      split at h
      · next hstored =>
        rw [hstored]
        dsimp only
        split
        · exact ⟨_, rfl⟩
        · exact ⟨_, rfl⟩
      · cases h
  obtain ⟨r, hr⟩ := hanswers
  rw [hr, getPolicyDetail_ok hr, storedDetail_found.mpr h]

end OriginPolicyStore

end ProviiVerifier
