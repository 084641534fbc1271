/-
  The cache of `OriginPolicyStore` under calls that interleave at their KV reads.

  The lookups share one cache. Each looks into it, reads KV on a miss, and stores what it read under
  the time of its look; while KV is read, other calls go on and KV may change. What a call does
  between two reads nothing else comes between, and the clock stands still meanwhile.

  Proved, for every run: a policy that a call returns is enabled and is what KV held at an instant
  no further back than the time to live and the duration of the read that fetched it; an entry has
  the prefix index of its own policy; and from any state reached the three lookups agree
  (`origin_policy_coherent`). A lookup alone does what the sequential store does (`exec_getPolicy`,
  `exec_getPolicyDetail`).
-/
import ProviiVerifier.OriginPolicyStore
import ProviiVerifier.Interleaving.Clock
import ProviiVerifier.Interleaving.Exec
import ProviiVerifier.Retention.BoundedCache

namespace ProviiVerifier

namespace OriginPolicyCache

open Interleaving Prog
open OriginPolicyStore (Kv policyKey cacheTtlMs maxCacheEntries readPolicy readPolicy_some)

/-! ## The source -/

/-- `CachedPolicy`. -/
structure CachedPolicy where
  policy : OriginPolicy
  cachedAt : Nat
  apiKeyPrefixIndex : String → Option (List Nat)

/-- The cache of an isolate. -/
abbrev Cache := BoundedCache.Cache String CachedPolicy

/-- What a look into the cache tells: the time and the entry of the origin, of any age. -/
abbrev Seen := Nat × Option CachedPolicy

/-- The operations of a call. A store answers what the cache holds for the origin afterwards. -/
inductive CacheOp
  | look (origin : String)
  | fetch (origin : String)
  | store (origin : String) (now : Nat) (policy : OriginPolicy)
  | invalidate (origin : Option String)

abbrev CacheRes : CacheOp → Type
  | .look _ => Seen
  | .fetch _ => Except ApiError (Option OriginPolicy)
  | .store _ _ _ => Option CachedPolicy
  | .invalidate _ => Unit

abbrev CacheHandler (α : Type) := Prog CacheOp CacheRes ApiError α

/-- The entry that a look finds and that has not expired. -/
def fresh (seen : Seen) : Option CachedPolicy :=
  seen.2.filter fun e => seen.1 - e.cachedAt < cacheTtlMs

/-- `get_policy` after its look: the policy, and what the cache holds when it returns. -/
def afterLook (origin : String) (seen : Seen) :
    CacheHandler (Option (OriginPolicy × Option CachedPolicy)) :=
  match fresh seen with
  | some cached => .ret (some (cached.policy, seen.2))
  | none =>
    .call (.fetch origin) fun
      | .error e => .fail e
      | .ok none => .ret none
      | .ok (some policy) =>
        if policy.enabled then
          .call (.store origin seen.1 policy) fun found => .ret (some (policy, found))
        else .ret none

/-- `get_policy`. -/
def getPolicy (origin : String) : CacheHandler (Option OriginPolicy) :=
  .call (.look origin) fun seen => afterLook origin seen >>= fun r => .ret (r.map Prod.fst)

/-- `get_policy_detail`. -/
def getPolicyDetail (origin : String) : CacheHandler PolicyLookupResult :=
  .call (.look origin) fun seen =>
    match fresh seen with
    | some cached => .ret (if cached.policy.enabled then .found cached.policy else .disabled)
    | none =>
      .call (.fetch origin) fun
        | .error e => .fail e
        | .ok none => .ret .notFound
        | .ok (some policy) =>
          if policy.enabled then
            .call (.store origin seen.1 policy) fun _ => .ret (.found policy)
          else .call (.invalidate (some origin)) fun _ => .ret .disabled

/-- `get_cached_policy`. The look of the `get_policy` it calls finds what its own look found. -/
def getCachedPolicy (origin : String) : CacheHandler (Option CachedPolicy) :=
  .call (.look origin) fun seen =>
    match fresh seen with
    | some cached => .ret (some cached)
    | none => afterLook origin seen >>= fun r => .ret (r.bind Prod.snd)

/-- A call on the store. -/
inductive Call
  | getPolicy (origin : String)
  | getPolicyDetail (origin : String)
  | getCachedPolicy (origin : String)
  | invalidateCache (origin : Option String)
  deriving DecidableEq

/-- What a call returns. -/
inductive Answer
  | policy (found : Option OriginPolicy)
  | detail (found : PolicyLookupResult)
  | cached (found : Option CachedPolicy)
  | done

/-- The policy that an answer holds. -/
def Answer.held : Answer → Option OriginPolicy
  | .policy found => found
  | .detail (.found p) => some p
  | .detail _ => none
  | .cached found => found.map CachedPolicy.policy
  | .done => none

def handle : Call → CacheHandler Answer
  | .getPolicy origin => getPolicy origin >>= fun found => .ret (.policy found)
  | .getPolicyDetail origin => getPolicyDetail origin >>= fun found => .ret (.detail found)
  | .getCachedPolicy origin => getCachedPolicy origin >>= fun found => .ret (.cached found)
  | .invalidateCache origin => .call (.invalidate origin) fun _ => .ret .done

/-! ## The isolate and KV -/

/-- The clock in milliseconds, KV and the cache of the isolate. -/
structure State where
  clock : Nat
  kv : Kv
  cache : Cache

/-- Steps no call takes: time passes, a policy is written, replaced or removed. -/
inductive Env
  | tick (ms : Nat)
  | putKv (key : String) (value : Option (Except String OriginPolicy))

/-- What the outside decides of an operation: the text of a fault of a read. -/
abbrev CacheChoice : CacheOp → Type
  | .look _ => Unit
  | .fetch _ => Option String
  | .store _ _ _ => Unit
  | .invalidate _ => Unit

/-- The insertion of a policy that was read, with its prefix index. -/
def insertPolicy (cache : Cache) (now : Nat) (origin : String) (policy : OriginPolicy) : Cache :=
  BoundedCache.put maxCacheEntries (fun e => now - e.cachedAt < cacheTtlMs / 2) cache origin
    ⟨policy, now, buildApiKeyIndex policy⟩

/-- `invalidate_cache`. -/
def invalidateCache (cache : Cache) : Option String → Cache
  | some origin => cache.erase origin
  | none => ∅

def perform (s : State) : (op : CacheOp) → CacheChoice op → CacheRes op × State
  | .look origin, _ => ((s.clock, s.cache.lookup origin), s)
  | .fetch origin, fault => (readPolicy s.kv fault origin, s)
  | .store origin now policy, _ =>
    ((insertPolicy s.cache now origin policy).lookup origin,
      { s with cache := insertPolicy s.cache now origin policy })
  | .invalidate origin, _ => ((), { s with cache := invalidateCache s.cache origin })

def envStep (s : State) : Env → State
  | .tick ms => { s with clock := s.clock + ms }
  | .putKv key value => { s with kv := Function.update s.kv key value }

abbrev isolate : Machine CacheOp CacheRes :=
  { State := State
    Choice := CacheChoice
    Env := Env
    perform := perform
    envStep := envStep }

/-- Calls arrive and interleave in any order, and KV changes at any time. -/
def anyCalls : Rules isolate Call :=
  { arrive := fun _ _ _ => True
    call := fun _ _ _ _ => True
    env := fun _ _ => True }

instance : DecidableRules anyCalls :=
  { arrive := fun _ _ _ => .isTrue trivial
    call := fun _ _ _ _ => .isTrue trivial
    env := fun _ _ => .isTrue trivial }

/-- An isolate starts with an empty cache. -/
def Fresh (s : State) : Prop := s.cache = ∅

/-- The pools of calls. -/
abbrev Calls := Pool isolate Call ApiError Answer

/-! ## What is held -/

/-- A call read the policy of an origin: it looked at one time, KV held the policy at another, and
it stored what it read at a third. -/
structure Fetched (tr : List (Event isolate Call)) (origin : String) (policy : OriginPolicy)
    (looked read stored : State) : Prop where
  events : ∃ i fault, .call i looked (.look origin) () ∈ tr ∧
    .call i read (.fetch origin) fault ∈ tr ∧
    .call i stored (.store origin looked.clock policy) () ∈ tr
  held : read.kv (policyKey origin) = some (.ok policy)
  looked_le : looked.clock ≤ read.clock
  read_le : read.clock ≤ stored.clock

/-- The policy is what KV held at an instant no further back than the time to live and the duration
of the read that fetched it. -/
def HeldRecently (tr : List (Event isolate Call)) (now : State) (origin : String)
    (policy : OriginPolicy) : Prop :=
  ∃ looked read stored, Fetched tr origin policy looked read stored ∧ read.clock ≤ now.clock ∧
    now.clock ≤ read.clock + cacheTtlMs + (stored.clock - looked.clock)

/-- The origin of a lookup. -/
def Call.origin : Call → Option String
  | .getPolicy origin => some origin
  | .getPolicyDetail origin => some origin
  | .getCachedPolicy origin => some origin
  | .invalidateCache _ => none

/-- The three lookups, each alone and from the same state, agree on a policy. -/
def Agree (pick : (op : CacheOp) → CacheChoice op) (s : State) (origin : String)
    (policy : OriginPolicy) : Prop :=
  (((getPolicy origin).exec isolate pick s).1 = .ok (some policy) ↔
    ((getPolicyDetail origin).exec isolate pick s).1 = .ok (.found policy)) ∧
  (((getPolicyDetail origin).exec isolate pick s).1 = .ok (.found policy) ↔
    ∃ e, ((getCachedPolicy origin).exec isolate pick s).1 = .ok (some e) ∧ e.policy = policy)

/-! ## Along one call -/

section Call

variable {call : Call} {origin : String} {h : History CacheOp CacheRes}

/-- What a call has done where it stores a policy. -/
def StoreGuard (call : Call) (h : History CacheOp CacheRes) : CacheOp → Prop
  | .store origin now policy => call.origin = some origin ∧ policy.enabled = true ∧
      ∃ entry, h = [⟨.fetch origin, .ok (some policy)⟩, ⟨.look origin, (now, entry)⟩]
  | _ => True

/-- What a call has done when it serves a policy: it found a fresh entry, or it just stored one. -/
inductive ServedBy (origin : String) (policy : OriginPolicy) : History CacheOp CacheRes → Prop
  | hit {seen : Seen} {e : CachedPolicy} (hfresh : fresh seen = some e) (he : e.policy = policy) :
      ServedBy origin policy [⟨.look origin, seen⟩]
  | read {now : Nat} {stored : OriginPolicy} {found : Option CachedPolicy}
      {past : History CacheOp CacheRes}
      (hfound : stored = policy ∨ ∃ e, found = some e ∧ e.policy = policy) :
      ServedBy origin policy (⟨.store origin now stored, found⟩ :: past)

/-- What a call has done when it returns. -/
def ServePost (call : Call) (h : History CacheOp CacheRes) (r : Except ApiError Answer) : Prop :=
  ∀ answer policy, r = .ok answer → answer.held = some policy →
    ∃ origin, call.origin = some origin ∧ ServedBy origin policy h

/-- What `get_policy` returns after its look. -/
inductive Looked (origin : String) (seen : Seen) :
    History CacheOp CacheRes → Option (OriginPolicy × Option CachedPolicy) → Prop
  | hit {e : CachedPolicy} (hfresh : fresh seen = some e) :
      Looked origin seen [⟨.look origin, seen⟩] (some (e.policy, seen.2))
  | absent {h : History CacheOp CacheRes} : Looked origin seen h none
  | read {policy : OriginPolicy} {found : Option CachedPolicy} {past : History CacheOp CacheRes} :
      Looked origin seen (⟨.store origin seen.1 policy, found⟩ :: past) (some (policy, found))

theorem guarded_afterLook (hcall : call.origin = some origin) (seen : Seen) :
    (afterLook origin seen).Guarded (StoreGuard call)
      (fun h r => ∀ a, r = .ok a → Looked origin seen h a) [⟨.look origin, seen⟩] := by
  unfold afterLook
  split
  · next e hfresh =>
    intro a ha
    injection ha with ha
    rw [← ha]
    exact .hit hfresh
  · refine ⟨trivial, fun answer => ?_⟩
    obtain e | _ | policy := answer
    · intro a ha
      cases ha
    · intro a ha
      injection ha with ha
      rw [← ha]
      exact .absent
    · show Guarded _ _ _ (if policy.enabled = true then _ else _)
      split
      · next henabled =>
        refine ⟨⟨hcall, henabled, seen.2, rfl⟩, fun found a ha => ?_⟩
        injection ha with ha
        rw [← ha]
        exact .read
      · intro a ha
        injection ha with ha
        rw [← ha]
        exact .absent

theorem guarded_getPolicy (origin : String) :
    (handle (.getPolicy origin)).Guarded (StoreGuard (.getPolicy origin))
      (ServePost (.getPolicy origin)) [] := by
  refine ⟨trivial, fun seen => ?_⟩
  refine guarded_bind.mpr (guarded_bind.mpr
    ((guarded_afterLook rfl seen).imp (fun _ _ g => g) ?_))
  intro h' r hr
  cases r with
  | error e =>
    intro answer policy ha
    cases ha
  | ok a =>
    intro answer policy ha hheld
    injection ha with ha
    rw [← ha] at hheld
    cases hr a rfl with
    | hit hfresh => exact ⟨origin, rfl, .hit hfresh (Option.some.inj hheld)⟩
    | absent => cases hheld
    | read => exact ⟨origin, rfl, .read (.inl (Option.some.inj hheld))⟩

theorem guarded_getPolicyDetail (origin : String) :
    (handle (.getPolicyDetail origin)).Guarded (StoreGuard (.getPolicyDetail origin))
      (ServePost (.getPolicyDetail origin)) [] := by
  refine ⟨trivial, fun seen => ?_⟩
  dsimp only [handle, getPolicyDetail]
  cases hfresh : fresh seen with
  | some e =>
    intro answer policy ha hheld
    injection ha with ha
    rw [← ha] at hheld
    by_cases henabled : e.policy.enabled = true
    · rw [if_pos henabled] at hheld
      exact ⟨origin, rfl, .hit hfresh (Option.some.inj hheld)⟩
    · rw [if_neg henabled] at hheld
      cases hheld
  | none =>
    refine ⟨trivial, fun answer => ?_⟩
    obtain e | _ | policy := answer
    · intro answer policy ha
      cases ha
    · intro answer policy ha hheld
      injection ha with ha
      rw [← ha] at hheld
      cases hheld
    · show Guarded _ _ _ ((if policy.enabled = true then _ else _) >>= _)
      split
      · next henabled =>
        refine ⟨⟨rfl, henabled, seen.2, rfl⟩, fun found answer p ha hheld => ?_⟩
        injection ha with ha
        rw [← ha] at hheld
        exact ⟨origin, rfl, .read (.inl (Option.some.inj hheld))⟩
      · refine ⟨trivial, fun _ answer p ha hheld => ?_⟩
        injection ha with ha
        rw [← ha] at hheld
        cases hheld

theorem guarded_getCachedPolicy (origin : String) :
    (handle (.getCachedPolicy origin)).Guarded (StoreGuard (.getCachedPolicy origin))
      (ServePost (.getCachedPolicy origin)) [] := by
  refine ⟨trivial, fun seen => ?_⟩
  dsimp only [handle, getCachedPolicy]
  cases hfresh : fresh seen with
  | some e =>
    intro answer policy ha hheld
    injection ha with ha
    rw [← ha] at hheld
    exact ⟨origin, rfl, .hit hfresh (Option.some.inj hheld)⟩
  | none =>
    refine guarded_bind.mpr (guarded_bind.mpr
      ((guarded_afterLook rfl seen).imp (fun _ _ g => g) ?_))
    intro h' r hr
    cases r with
    | error e =>
      intro answer policy ha
      cases ha
    | ok a =>
      intro answer policy ha hheld
      injection ha with ha
      rw [← ha] at hheld
      cases hr a rfl with
      | hit hfresh' =>
        rw [hfresh] at hfresh'
        cases hfresh'
      | absent => cases hheld
      | read => exact ⟨origin, rfl, .read (.inr (Option.map_eq_some_iff.mp hheld))⟩

/-- What one call does, whatever it is answered. -/
theorem guarded_handle (call : Call) :
    (handle call).Guarded (StoreGuard call) (ServePost call) [] := by
  cases call with
  | getPolicy origin => exact guarded_getPolicy origin
  | getPolicyDetail origin => exact guarded_getPolicyDetail origin
  | getCachedPolicy origin => exact guarded_getCachedPolicy origin
  | invalidateCache origin =>
    refine ⟨trivial, fun _ answer policy ha hheld => ?_⟩
    injection ha with ha
    rw [← ha] at hheld
    cases hheld

end Call

/-! ## Over a run -/

section Runs

variable {p : Calls} {origin : String} {policy : OriginPolicy} {now : Nat} {cache : Cache}
  {e : CachedPolicy}

/-- The runs of calls on an isolate. -/
abbrev CallRun (p : Calls) : Prop := Run handle anyCalls Fresh p

theorem forward_clock : Forward isolate State.clock := by
  refine ⟨fun s op c => ?_, fun s e => ?_⟩
  · cases op with
    | look origin => exact Nat.le_refl _
    | fetch origin => exact Nat.le_refl _
    | store origin now policy => exact Nat.le_refl _
    | invalidate origin => exact Nat.le_refl _
  · cases e with
    | tick ms => exact Nat.le_add_right _ _
    | putKv key value => exact Nat.le_refl _

theorem lookup_insertPolicy :
    (insertPolicy cache now origin policy).lookup origin =
      some ⟨policy, now, buildApiKeyIndex policy⟩ := by
  unfold insertPolicy BoundedCache.put
  exact AList.lookup_insert _

theorem lookup_invalidateCache {which : Option String}
    (h : (invalidateCache cache which).lookup origin = some e) : cache.lookup origin = some e := by
  cases which with
  | none =>
    unfold invalidateCache at h
    rw [AList.lookup_empty] at h
    cases h
  | some other =>
    unfold invalidateCache at h
    by_cases heq : origin = other
    · subst heq
      rw [AList.lookup_erase] at h
      cases h
    · rw [AList.lookup_erase_ne heq] at h
      exact h

/-- Every entry was stored by a call, with the prefix index of its policy. -/
def Stored (w : World isolate Call) : Prop :=
  ∀ origin e, (State.cache w.state).lookup origin = some e →
    e.apiKeyPrefixIndex = buildApiKeyIndex e.policy ∧
      ∃ i stored, .call i stored (.store origin e.cachedAt e.policy) () ∈ w.trace

theorem Stored.cons {w : World isolate Call} (h : Stored w) {cache : Cache} {s : State}
    {ev : Event isolate Call}
    (hcache : ∀ origin e, cache.lookup origin = some e →
      (State.cache w.state).lookup origin = some e) (hs : s.cache = cache) :
    Stored ⟨s, ev :: w.trace⟩ := by
  intro origin e he
  rw [hs] at he
  obtain ⟨hindex, i, stored, hm⟩ := h origin e (hcache origin e he)
  exact ⟨hindex, i, stored, List.mem_cons_of_mem _ hm⟩

/-- An operation keeps it. -/
theorem Stored.after {w : World isolate Call} (h : Stored w) (i : Nat) (op : CacheOp)
    (c : isolate.Choice op) : Stored (w.after i op c) := by
  cases op with
  | look origin => exact h.cons (fun _ _ he => he) rfl
  | fetch origin => exact h.cons (fun _ _ he => he) rfl
  | invalidate which => exact h.cons (fun _ _ he => lookup_invalidateCache he) rfl
  | store origin now policy =>
    intro other e he
    have he : (insertPolicy (State.cache w.state) now origin policy).lookup other = some e := he
    rcases BoundedCache.lookup_put he with ⟨rfl, rfl⟩ | ⟨-, hold⟩
    · exact ⟨rfl, i, w.state, List.mem_cons_self⟩
    · obtain ⟨hindex, j, stored, hm⟩ := h other e hold
      exact ⟨hindex, j, stored, List.mem_cons_of_mem _ hm⟩

/-- **Every run** keeps it. -/
theorem run_stored (hr : CallRun p) : Stored p.world := by
  refine Run.invariant (I := Stored) guarded_handle ?_ ?_ ?_ ?_ hr
  · intro s hs origin e he
    have hempty : State.cache s = ∅ := hs
    have he : (State.cache s).lookup origin = some e := he
    rw [hempty, AList.lookup_empty] at he
    cases he
  · intro w i call _ h _
    exact h.cons (fun _ _ he => he) rfl
  · intro w i op c call _ h _ _ _
    exact h.after i op c
  · intro w e _ h _
    cases e with
    | tick ms => exact h
    | putKv key value => exact h

/-- **A stored policy** is enabled, and was read by the call that stored it. -/
theorem fetched_of_store (hr : CallRun p) {i : Nat} {stored : State}
    (hm : .call i stored (.store origin now policy) () ∈ p.world.trace) :
    policy.enabled = true ∧
      ∃ looked read, Fetched p.world.trace origin policy looked read stored ∧
        looked.clock = now := by
  have htimed : Timed State.clock p.world := hr.timed forward_clock
  obtain ⟨new, old, ht⟩ := List.append_of_mem hm
  obtain ⟨-, -, call, -, -, henabled, entry, hown⟩ := hr.call_event guarded_handle ht
  refine ⟨henabled, ?_⟩
  obtain ⟨new₁, read, op, fault, old₁, hold, hx, hown₁⟩ := own_suffix ⟨[], hown.symm⟩
  injection hx with hop hread
  subst hop
  obtain ⟨new₂, looked, op, c, old₂, hold₁, hx, -⟩ := own_suffix ⟨[], hown₁.symm⟩
  injection hx with hop hresult
  subst hop
  have hseen : (now, entry) = (looked.clock, (State.cache looked).lookup origin) :=
    eq_of_heq hresult
  injection hseen with hnow
  have hstored : readPolicy (State.kv read) fault origin = .ok (some policy) :=
    (eq_of_heq hread).symm
  have hin : ∀ ev ∈ old, ev ∈ p.world.trace := by
    intro ev hev
    rw [ht]
    exact List.mem_append_right _ (List.mem_cons_of_mem _ hev)
  have hfetch : .call i read (.fetch origin) fault ∈ old := by
    rw [hold]
    exact List.mem_append_right _ List.mem_cons_self
  have hlooked : .call i looked (.look origin) c ∈ old₁ := by
    rw [hold₁]
    exact List.mem_append_right _ List.mem_cons_self
  have ht₁ : p.world.trace = (new ++ .call i stored (.store origin now policy) () :: new₁) ++
      .call i read (.fetch origin) fault :: old₁ := by
    rw [ht, hold, List.append_assoc]
    rfl
  have hlook : .call i looked (.look origin) c ∈ old := by
    rw [hold]
    exact List.mem_append_right _ (List.mem_cons_of_mem _ hlooked)
  subst hnow
  exact ⟨looked, read,
    ⟨⟨i, fault, hin _ hlook, hin _ hfetch, hm⟩, readPolicy_some hstored,
      htimed.ordered _ _ _ _ _ _ ht₁ _ _ _ _ hlooked,
      htimed.ordered _ _ _ _ _ _ ht _ _ _ _ hfetch⟩, rfl⟩

/-- **An entry** that a call finds is an enabled policy that was read, under the time it was looked
for. -/
theorem fetched_of_lookup (hr : CallRun p) {new old : List (Event isolate Call)} {i : Nat}
    {now : State} {op : CacheOp} {c : isolate.Choice op}
    (ht : p.world.trace = new ++ .call i now op c :: old)
    (he : (State.cache now).lookup origin = some e) :
    e.policy.enabled = true ∧
      ∃ looked read stored, Fetched p.world.trace origin e.policy looked read stored ∧
        looked.clock = e.cachedAt ∧ stored.clock ≤ now.clock := by
  obtain ⟨⟨q, hq, hworld⟩, -⟩ := hr.call_event guarded_handle ht
  have hstored : Stored ⟨now, old⟩ := hworld ▸ run_stored hq
  obtain ⟨-, j, stored, hm⟩ := hstored origin e he
  have hm' : .call j stored (.store origin e.cachedAt e.policy) () ∈ p.world.trace := by
    rw [ht]
    exact List.mem_append_right _ (List.mem_cons_of_mem _ hm)
  obtain ⟨henabled, looked, read, hfetched, hlooked⟩ := fetched_of_store hr hm'
  exact ⟨henabled, looked, read, stored, hfetched, hlooked,
    (hr.timed forward_clock).ordered _ _ _ _ _ _ ht _ _ _ _ hm⟩

/-- **What a call serves** is enabled, and KV held it recently. -/
theorem served_recently (hr : CallRun p) {i : Nat}
    (hserved : ServedBy origin policy (own i p.world.trace)) :
    policy.enabled = true ∧
      ∃ now, LastRan p.world.trace i now ∧ HeldRecently p.world.trace now origin policy := by
  generalize hown : own i p.world.trace = h at hserved
  cases hserved with
  | @hit seen e hfresh he =>
    obtain ⟨new, now, op, c, old, ht, hx, -, hlast⟩ := lastRan_of_own hown
    injection hx with hop hseen
    subst hop
    have hseen : seen = (now.clock, (State.cache now).lookup origin) := eq_of_heq hseen
    obtain ⟨hlookup, hage⟩ := Option.filter_eq_some_iff.mp hfresh
    rw [hseen] at hlookup hage
    have hage : now.clock - e.cachedAt < cacheTtlMs := of_decide_eq_true hage
    obtain ⟨henabled, looked, read, stored, hfetched, hlooked, hstored⟩ :=
      fetched_of_lookup hr ht hlookup
    rw [he] at henabled hfetched
    have hle := hfetched.looked_le
    have hle' := hfetched.read_le
    exact ⟨henabled, now, hlast, looked, read, stored, hfetched, by omega, by omega⟩
  | @read now stored found past hfound =>
    obtain ⟨new, wrote, op, c, old, ht, hx, -, hlast⟩ := lastRan_of_own hown
    injection hx with hop hres
    subst hop
    have hstored : stored = policy := by
      rcases hfound with hsame | ⟨e, hfound, he⟩
      · exact hsame
      · have hlookup : found = (insertPolicy (State.cache wrote) now origin stored).lookup origin :=
          eq_of_heq hres
        rw [hfound, lookup_insertPolicy] at hlookup
        injection hlookup with hlookup
        rw [← he, hlookup]
    subst hstored
    have hm : .call i wrote (.store origin now stored) () ∈ p.world.trace := by
      rw [ht]
      exact List.mem_append_right _ List.mem_cons_self
    obtain ⟨henabled, looked, read, hfetched, -⟩ := fetched_of_store hr hm
    have hle := hfetched.looked_le
    have hle' := hfetched.read_le
    exact ⟨henabled, wrote, hlast, looked, read, wrote, hfetched, hle', by omega⟩

/-- **The lookups agree** on a cache that holds enabled policies. -/
theorem agree_of_enabled {s : State} (pick : (op : CacheOp) → CacheChoice op)
    (henabled : ∀ e, s.cache.lookup origin = some e → e.policy.enabled = true) :
    Agree pick s origin policy := by
  have hseen : perform s (.look origin) (pick (.look origin)) =
      ((s.clock, s.cache.lookup origin), s) := rfl
  have hread : perform s (.fetch origin) (pick (.fetch origin)) =
      (readPolicy s.kv (pick (.fetch origin)) origin, s) := rfl
  unfold Agree getPolicy getPolicyDetail getCachedPolicy afterLook
  simp only [exec_call, hseen]
  cases hfresh : fresh (s.clock, s.cache.lookup origin) with
  | some e =>
    have he := henabled e (Option.filter_eq_some_iff.mp hfresh).1
    simp [he]
  | none =>
    simp only [call_bind, exec_call, hread]
    cases readPolicy s.kv (pick (.fetch origin)) origin with
    | error text => simp
    | ok found =>
      cases found with
      | none => simp
      | some stored =>
        by_cases hon : stored.enabled = true
        · have hstore : ∀ now c, (perform s (.store origin now stored) c).1 =
              some ⟨stored, now, buildApiKeyIndex stored⟩ := fun _ _ => lookup_insertPolicy
          simp [hon, hstore]
        · simp [hon]

/-- **The cache of origin policies is coherent**, in every run. -/
theorem origin_policy_coherent {p : Calls} (hr : Run handle anyCalls Fresh p) :
    (∀ i answer policy, p.outcome i = some (.ok answer) → answer.held = some policy →
      policy.enabled = true ∧ ∃ call origin now, .arrive i call ∈ p.world.trace ∧
        call.origin = some origin ∧ LastRan p.world.trace i now ∧
        HeldRecently p.world.trace now origin policy) ∧
    (∀ origin e, (State.cache p.world.state).lookup origin = some e →
      e.apiKeyPrefixIndex = buildApiKeyIndex e.policy) ∧
    ∀ pick origin policy, Agree pick p.world.state origin policy := by
  refine ⟨?_, ?_, ?_⟩
  · intro i answer policy hout hheld
    obtain ⟨call, harr, hpost⟩ := hr.outcome guarded_handle hout
    obtain ⟨origin, horigin, hserved⟩ := hpost answer policy rfl hheld
    obtain ⟨henabled, now, hlast, hrecent⟩ := served_recently hr hserved
    exact ⟨henabled, call, origin, now, harr, horigin, hlast, hrecent⟩
  · intro origin e he
    exact (run_stored hr origin e he).1
  · intro pick origin policy
    refine agree_of_enabled pick fun e he => ?_
    obtain ⟨-, i, stored, hm⟩ := run_stored hr origin e he
    exact (fetched_of_store hr hm).1

end Runs

/-! ## Calls that do not interleave -/

section Alone

variable {cache : Cache} {now : Nat} {origin : String} {policy : OriginPolicy} {s : State}
  {pick : (op : CacheOp) → isolate.Choice op}

/-- An entry without its prefix index. -/
def CachedPolicy.plain (e : CachedPolicy) : OriginPolicyStore.CachedPolicy :=
  ⟨e.policy, e.cachedAt⟩

def plainEntry (e : Sigma fun _ : String => CachedPolicy) :
    Sigma fun _ : String => OriginPolicyStore.CachedPolicy :=
  ⟨e.1, e.2.plain⟩

theorem nodupKeys_plain (cache : Cache) : (cache.entries.map plainEntry).NodupKeys := by
  have hkeys : (cache.entries.map plainEntry).keys = cache.entries.keys := List.map_map
  unfold List.NodupKeys
  rw [hkeys]
  exact cache.nodupKeys

/-- The cache without the prefix indexes. -/
def plain (cache : Cache) : OriginPolicyStore.Cache :=
  ⟨cache.entries.map plainEntry, nodupKeys_plain cache⟩

theorem dlookup_plain (l : List (Sigma fun _ : String => CachedPolicy)) :
    (l.map plainEntry).dlookup origin = (l.dlookup origin).map CachedPolicy.plain := by
  induction l with
  | nil => rfl
  | cons e l ih =>
    by_cases h : origin = e.1
    · subst h
      rw [List.map_cons, List.dlookup_cons_eq]
      exact List.dlookup_cons_eq (l.map plainEntry) (plainEntry e).1 (plainEntry e).2
    · rw [List.map_cons, List.dlookup_cons_ne _ e h, ← ih]
      exact List.dlookup_cons_ne _ (plainEntry e) h

theorem lookup_plain :
    (plain cache).lookup origin = (cache.lookup origin).map CachedPolicy.plain :=
  dlookup_plain cache.entries

theorem plain_retain : plain (BoundedCache.retain (fun e => now - e.cachedAt < cacheTtlMs / 2)
    cache) = OriginPolicyStore.evictOld (plain cache) now := by
  refine AList.ext ?_
  show (cache.entries.filter _).map plainEntry = (cache.entries.map plainEntry).filter _
  rw [List.filter_map]
  rfl

theorem plain_erase : plain (cache.erase origin) = (plain cache).erase origin := by
  refine AList.ext ?_
  show (cache.entries.eraseP _).map plainEntry = (cache.entries.map plainEntry).eraseP _
  rw [List.eraseP_map]
  rfl

theorem length_plain : (plain cache).entries.length = cache.entries.length := List.length_map _

theorem plain_makeRoom : plain (BoundedCache.makeRoom maxCacheEntries
    (fun e => now - e.cachedAt < cacheTtlMs / 2) cache) =
      OriginPolicyStore.makeRoom (plain cache) now := by
  unfold BoundedCache.makeRoom OriginPolicyStore.makeRoom
  dsimp only
  rw [← plain_retain, length_plain, length_plain]
  split
  · split
    · rfl
    · rfl
  · rfl

theorem plain_insertPolicy : plain (insertPolicy cache now origin policy) =
    OriginPolicyStore.remember (plain cache) now origin policy := by
  unfold OriginPolicyStore.remember
  rw [← plain_makeRoom]
  refine AList.ext ?_
  rw [AList.entries_insert]
  exact congrArg _ (congrArg AList.entries plain_erase)

theorem freshPolicy_plain : OriginPolicyStore.freshPolicy (plain s.cache) s.clock origin =
    (fresh (s.clock, s.cache.lookup origin)).map CachedPolicy.policy := by
  unfold OriginPolicyStore.freshPolicy fresh
  rw [lookup_plain]
  cases s.cache.lookup origin with
  | none => rfl
  | some e =>
    by_cases hage : s.clock - e.cachedAt < cacheTtlMs
    · simp [Option.filter, CachedPolicy.plain, hage]
    · simp [Option.filter, CachedPolicy.plain, hage]

/-- **`get_policy` alone** does what the sequential store does. -/
theorem exec_getPolicy : (((getPolicy origin).exec isolate pick s).1,
    plain ((getPolicy origin).exec isolate pick s).2.cache) =
      OriginPolicyStore.getPolicy s.kv (plain s.cache) s.clock (pick (.fetch origin)) origin := by
  have hseen : perform s (.look origin) (pick (.look origin)) =
      ((s.clock, s.cache.lookup origin), s) := rfl
  have hread : perform s (.fetch origin) (pick (.fetch origin)) =
      (readPolicy s.kv (pick (.fetch origin)) origin, s) := rfl
  unfold getPolicy afterLook OriginPolicyStore.getPolicy
  rw [exec_call, freshPolicy_plain]
  simp only [hseen]
  cases fresh (s.clock, s.cache.lookup origin) with
  | some e => rfl
  | none =>
    simp only [call_bind, exec_call, hread]
    cases readPolicy s.kv (pick (.fetch origin)) origin with
    | error text => rfl
    | ok found =>
      cases found with
      | none => rfl
      | some stored =>
        by_cases hon : stored.enabled = true
        · simp only [if_pos hon]
          exact congrArg (Prod.mk (Except.ok (some stored))) plain_insertPolicy
        · simp only [if_neg hon]
          rfl

/-- **`get_policy_detail` alone** does what the sequential store does. -/
theorem exec_getPolicyDetail : (((getPolicyDetail origin).exec isolate pick s).1,
    plain ((getPolicyDetail origin).exec isolate pick s).2.cache) =
      OriginPolicyStore.getPolicyDetail s.kv (plain s.cache) s.clock (pick (.fetch origin))
        origin := by
  have hseen : perform s (.look origin) (pick (.look origin)) =
      ((s.clock, s.cache.lookup origin), s) := rfl
  have hread : perform s (.fetch origin) (pick (.fetch origin)) =
      (readPolicy s.kv (pick (.fetch origin)) origin, s) := rfl
  unfold getPolicyDetail OriginPolicyStore.getPolicyDetail
  rw [exec_call, freshPolicy_plain]
  simp only [hseen]
  cases fresh (s.clock, s.cache.lookup origin) with
  | some e => rfl
  | none =>
    simp only [exec_call, hread]
    cases readPolicy s.kv (pick (.fetch origin)) origin with
    | error text => rfl
    | ok found =>
      cases found with
      | none => rfl
      | some stored =>
        by_cases hon : stored.enabled = true
        · simp only [if_pos hon]
          exact congrArg (Prod.mk (Except.ok (PolicyLookupResult.found stored))) plain_insertPolicy
        · simp only [if_neg hon]
          exact congrArg (Prod.mk (Except.ok PolicyLookupResult.disabled)) plain_erase

end Alone

/-! ## Samples -/

def shop : String := "https://shop.example"

/-- A policy without clients. -/
def shopPolicy : OriginPolicy :=
  { tenantId := "tenant-shop", minAgeYears := 18, maxAgeYears := none, proofDirection := none
    allowedVkIds := [], allowedIssuers := [], maxTtlSec := 300, enabled := true, clients := [] }

/-- KV holds the policy of the shop. -/
def shopState : State :=
  { clock := 0
    kv := fun key => if key = policyKey shop then some (.ok shopPolicy) else none
    cache := ∅ }

theorem fresh_shopState : Fresh shopState := rfl

/-- The reads succeed. -/
def reading : (op : CacheOp) → isolate.Choice op
  | .look _ => ()
  | .fetch _ => none
  | .store _ _ _ => ()
  | .invalidate _ => ()

/-- A lookup reads the policy; then the policy is removed from KV and the cache is cleared, before
the lookup stores what it read. Another lookup comes a minute later, less a millisecond. -/
def overtakenByRemoval : List (Act isolate Call) :=
  [.arrive 0 (.getPolicy shop), .call 0 reading, .call 0 reading,
    .env (Env.putKv (policyKey shop) none), .arrive 1 (.invalidateCache none), .call 1 reading,
    .call 0 reading, .env (Env.tick 59999), .arrive 2 (.getPolicyDetail shop), .call 2 reading]

/-- A policy that was removed is found for a minute after it was read. -/
theorem origin_policy_coherent_removal : ∃ p : Calls, Run handle anyCalls Fresh p ∧
    (∃ answer, p.outcome 2 = some (.ok answer) ∧ answer.held = some shopPolicy) ∧
    ∃ now, LastRan p.world.trace 2 now ∧ HeldRecently p.world.trace now shop shopPolicy := by
  have hrun : ∃ p : Calls, Run handle anyCalls Fresh p ∧
      (p.outcome 2).any (fun r => r.toOption.any fun a => a.held = some shopPolicy) = true ∧
      ∀ call ∈ p.world.trace.filterMap Event.arrival, call.1 = 2 → call.2.origin = some shop :=
    Run.of_replay shopState overtakenByRemoval fresh_shopState (by decide +kernel)
  obtain ⟨p, hr, hout, harrivals⟩ := hrun
  obtain ⟨r, hout, hr'⟩ := (Option.any_eq_true _ _).mp hout
  obtain ⟨answer, hanswer, hheld⟩ := (Option.any_eq_true _ _).mp hr'
  have hheld : answer.held = some shopPolicy := of_decide_eq_true hheld
  have hout : p.outcome 2 = some (.ok answer) := by
    rw [hout]
    cases r with
    | error e => cases hanswer
    | ok a => rw [Option.some.inj hanswer]
  obtain ⟨-, call, origin, now, harr, horigin, hlast, hrecent⟩ :=
    (origin_policy_coherent hr).1 2 answer shopPolicy hout hheld
  have hshop := harrivals (2, call) (mem_arrivals.mpr harr) rfl
  have hsame : origin = shop := Option.some.inj (horigin.symm.trans hshop)
  rw [hsame] at hrecent
  exact ⟨p, hr, ⟨answer, hout, hheld⟩, now, hlast, hrecent⟩

end OriginPolicyCache

end ProviiVerifier
