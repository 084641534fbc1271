/-
  `check_kv_counter_impl` in `hosted/rate_limiting.rs`: the quota counter of an isolate.

  A counter lives in memory for ten seconds from its last sync and is put to KV at every tenth
  increment. What KV holds is the decimal text of a count, here the count. Times are milliseconds.
  The order a `HashMap` iterates in, which decides between entries of one age when the cache is
  full, is a parameter; a `put` whose failure the source ignores and a failing `get` are faults.

  Proved: within one window the counter answers what one read from and written to KV at every
  request answers, exactly when no request finds its entry stale or evicted while increments of it
  are only in memory (`counter_refines_iff`).
-/
import ProviiVerifier.NonceDO
import ProviiVerifier.Retention.Expiring
import ProviiVerifier.Retention.WriteBehind
import Mathlib.Data.List.AList

namespace ProviiVerifier

namespace HostedCounter

open WriteBehind

/-- `InMemoryCounter`. -/
structure InMemoryCounter where
  count : Nat
  lastSyncedAt : Nat
  kvCount : Nat
  deriving DecidableEq, Repr

/-- `COUNTER_CACHE_MAX_ENTRIES`. -/
def counterCacheMaxEntries : Nat := 5000

/-- `COUNTER_SYNC_INTERVAL_SECS`, in milliseconds. -/
def counterSyncIntervalMs : Nat := 10000

/-- `COUNTER_SYNC_INTERVAL_HITS`. -/
def counterSyncIntervalHits : Nat := 10

/-- `COUNTER_CACHE`. -/
abbrev Cache := AList fun _ : String => InMemoryCounter

/-- The entries of a cache. -/
abbrev Entries := List (Sigma fun _ : String => InMemoryCounter)

/-- `HashMap::retain`. -/
def Cache.retain (cache : Cache) (p : String → InMemoryCounter → Bool) : Cache :=
  ⟨cache.entries.filter fun e => p e.1 e.2, cache.nodupKeys.sublist List.filter_sublist⟩

/-- The counters in KV. -/
abbrev Kv := Expiring.Store String Nat

/-- An isolate and the KV namespace behind it. -/
structure Isolate where
  cache : Cache
  kv : Kv

/-- How the KV operations of one call go. -/
structure Faults where
  get : Bool
  put : Bool
  deriving DecidableEq

/-- Every KV operation succeeds. -/
def Faults.none : Faults := ⟨true, true⟩

/-- What is answered: whether the request is within the quota, the count, the limit, and whether
KV was unavailable. -/
structure Verdict where
  allowed : Bool
  count : Nat
  limit : Nat
  kvUnavailable : Bool
  deriving DecidableEq, Repr

/-- The largest `u64`. -/
def maxU64 : Nat := 2 ^ 64 - 1

/-- The largest `u32`. -/
def maxU32 : Nat := 2 ^ 32 - 1

/-- `saturating_add(1)`. -/
def satSucc (n : Nat) : Nat := min (n + 1) maxU64

/-- The verdict on a count, which is cut to a `u32`. -/
def verdict (count limit : Nat) : Verdict :=
  let count := min count maxU32
  if count ≥ limit then ⟨false, count, limit, false⟩ else ⟨true, count, limit, false⟩

/-- What is left of a full cache: the entries synced in the window, or the younger half of them. -/
def makeRoom (iterate : Entries → Entries) (cache : Cache) (nowMs ttlSecs : Nat) : Cache :=
  if cache.entries.length ≥ counterCacheMaxEntries then
    let cache := cache.retain fun _ e => nowMs < e.lastSyncedAt + 1000 * ttlSecs
    if cache.entries.length ≥ counterCacheMaxEntries then
      let entries := (iterate cache.entries).mergeSort fun a b =>
        a.2.lastSyncedAt ≤ b.2.lastSyncedAt
      let evicted := (entries.take (cache.entries.length / 2)).map Sigma.fst
      cache.retain fun k _ => !evicted.contains k
    else cache
  else cache

/-- The entry of a key that is not stale. -/
def freshEntry (cache : Cache) (nowMs : Nat) (key : String) : Option InMemoryCounter :=
  (cache.lookup key).filter fun e => nowMs - e.lastSyncedAt < counterSyncIntervalMs

/-- An increment in memory is the tenth since the last sync. -/
def syncs (e : InMemoryCounter) : Bool := satSucc e.count - e.kvCount ≥ counterSyncIntervalHits

/-- `kv.put_with_ttl`, whose error is ignored. -/
def putCount (kv : Kv) (f : Faults) (nowMs : Nat) (key : String) (count ttlSecs : Nat) : Kv :=
  if f.put then Expiring.put kv nowMs key count (1000 * ttlSecs) else kv

/-- `check_kv_counter_impl`. -/
def checkKvCounter (iterate : Entries → Entries) (s : Isolate) (f : Faults) (key : String)
    (limit ttlSecs nowMs : Nat) : Verdict × Isolate :=
  match freshEntry s.cache nowMs key with
  | some e =>
    let count := satSucc e.count
    if syncs e then
      (verdict count limit,
        { cache := s.cache.insert key ⟨count, nowMs, count⟩
          kv := putCount s.kv f nowMs key count ttlSecs })
    else (verdict count limit, { s with cache := s.cache.insert key { e with count := count } })
  | none =>
    if f.get then
      let count := satSucc ((Expiring.get s.kv nowMs key).getD 0)
      (verdict count limit,
        { cache := (makeRoom iterate s.cache nowMs ttlSecs).insert key ⟨count, nowMs, count⟩
          kv := putCount s.kv f nowMs key count ttlSecs })
    else (⟨false, 0, limit, true⟩, s)

/-- The counter as a plain one: read from KV and written to KV on every request. -/
def plainKvCounter (kv : Kv) (key : String) (limit ttlSecs nowMs : Nat) : Verdict × Kv :=
  let count := satSucc ((Expiring.get kv nowMs key).getD 0)
  (verdict count limit, putCount kv .none nowMs key count ttlSecs)

/-! ## Sequences of calls -/

/-- A call. -/
structure Call where
  key : String
  limit : Nat
  ttlSecs : Nat
  nowMs : Nat
  deriving DecidableEq

/-- The isolate after calls without KV failures, newest first. -/
def after (iterate : Entries → Entries) (s : Isolate) : List Call → Isolate
  | [] => s
  | c :: old =>
    (checkKvCounter iterate (after iterate s old) .none c.key c.limit c.ttlSecs c.nowMs).2

/-- What a call answers after earlier ones. -/
def answer (iterate : Entries → Entries) (s : Isolate) (c : Call) (old : List Call) : Verdict :=
  (checkKvCounter iterate (after iterate s old) .none c.key c.limit c.ttlSecs c.nowMs).1

/-- KV after calls of the plain counter. -/
def plainAfter (kv : Kv) : List Call → Kv
  | [] => kv
  | c :: old => (plainKvCounter (plainAfter kv old) c.key c.limit c.ttlSecs c.nowMs).2

/-- What the plain counter answers. -/
def plainAnswer (kv : Kv) (c : Call) (old : List Call) : Verdict :=
  (plainKvCounter (plainAfter kv old) c.key c.limit c.ttlSecs c.nowMs).1

/-- How a call is counted. -/
def hitOf (s : Isolate) (c : Call) : Hit :=
  match freshEntry s.cache c.nowMs c.key with
  | some e => if syncs e then .flush else .memory
  | none => .seed

/-- How the calls of a key are counted. -/
def hits (iterate : Entries → Entries) (s : Isolate) (key : String) : List Call → List Hit
  | [] => []
  | c :: old =>
    if c.key = key then hitOf (after iterate s old) c :: hits iterate s key old
    else hits iterate s key old

/-- The calls of a key. -/
def callsOf (key : String) (calls : List Call) : Nat := calls.countP fun c => c.key = key

/-- Nothing that one of the calls puts to KV is gone at another of them. -/
def InWindow (calls : List Call) : Prop :=
  ∀ c ∈ calls, ∀ c' ∈ calls, c.nowMs < c'.nowMs + 1000 * c'.ttlSecs

/-- The key has not been used. -/
def Unused (s : Isolate) (key : String) : Prop := s.cache.lookup key = none ∧ s.kv key = none

/-- The answer is that of the plain counter, and its count is the number of the call. -/
def Counts (iterate : Entries → Entries) (s : Isolate) (c : Call) (old : List Call) : Prop :=
  answer iterate s c old = plainAnswer s.kv c old ∧
    (answer iterate s c old).count = min (callsOf c.key (c :: old)) maxU32

/-- A call that finds no fresh entry finds no call of its key counted in memory only, unless the
count has left the range of the answer. -/
def FindsWritten (iterate : Entries → Entries) (s : Isolate) (c : Call) (old : List Call) : Prop :=
  freshEntry (after iterate s old).cache c.nowMs c.key = none →
    (WriteBehind.after (hits iterate s c.key old)).pending = 0 ∨
      maxU32 ≤ (WriteBehind.after (hits iterate s c.key old)).persisted + 1

/-! ## The cache -/

variable {iterate : Entries → Entries} {s : Isolate} {key : String} {c : Call}
  {old calls : List Call}

theorem lookup_retain {cache : Cache} {p : String → InMemoryCounter → Bool} {e : InMemoryCounter}
    (h : (cache.retain p).lookup key = some e) : cache.lookup key = some e := by
  have hm := AList.mem_lookup_iff.mp h
  exact AList.mem_lookup_iff.mpr (List.mem_of_mem_filter hm)

/-- Making room leaves no entry but those that were there. -/
theorem lookup_makeRoom {cache : Cache} {nowMs ttlSecs : Nat} {e : InMemoryCounter}
    (h : (makeRoom iterate cache nowMs ttlSecs).lookup key = some e) :
    cache.lookup key = some e := by
  unfold makeRoom at h
  split at h
  · dsimp only at h
    split at h
    · exact lookup_retain (lookup_retain h)
    · exact lookup_retain h
  · exact h

theorem freshEntry_some {cache : Cache} {nowMs : Nat} {e : InMemoryCounter}
    (h : freshEntry cache nowMs key = some e) : cache.lookup key = some e := by
  unfold freshEntry at h
  exact (Option.filter_eq_some_iff.mp h).1

/-! ## One call -/

/-- The isolate counts the calls of a key as the counter says, and no call of the window comes
after the end of what KV holds. -/
structure Tracks (calls : List Call) (key : String) (s : Isolate) (n : Counter) : Prop where
  kv : (n.persisted = 0 ∧ s.kv key = none) ∨
    ∃ ends, s.kv key = some ⟨min n.persisted maxU64, ends⟩ ∧ ∀ c ∈ calls, c.nowMs < ends
  entry : ∀ e, s.cache.lookup key = some e →
    e.count = min n.total maxU64 ∧ e.kvCount = min n.persisted maxU64

theorem satSucc_min (n : Nat) : satSucc (min n maxU64) = min (n + 1) maxU64 := by
  unfold satSucc
  omega

theorem verdict_min (n limit : Nat) : verdict (min n maxU64) limit = verdict n limit := by
  have hcut : min (min n maxU64) maxU32 = min n maxU32 := by
    have hle : maxU32 ≤ maxU64 := by decide
    omega
  unfold verdict
  rw [hcut]

variable {n : Counter}

/-- Without a cache only KV counts. -/
theorem tracks_kv {kv : Kv} (h : (n.persisted = 0 ∧ kv key = none) ∨
    ∃ ends, kv key = some ⟨min n.persisted maxU64, ends⟩ ∧ ∀ c ∈ calls, c.nowMs < ends) :
    Tracks calls key ⟨∅, kv⟩ n := by
  refine ⟨h, fun e he => ?_⟩
  rw [AList.lookup_empty] at he
  cases he

/-- What a call in the window reads from KV. -/
theorem Tracks.read (h : Tracks calls key s n) (hc : c ∈ calls) :
    (Expiring.get s.kv c.nowMs key).getD 0 = min n.persisted maxU64 := by
  obtain ⟨hzero, hnone⟩ | ⟨ends, hsome, hlive⟩ := h.kv
  · unfold Expiring.get
    rw [hnone, hzero]
    rfl
  · rw [Expiring.get_eq_some.mpr ⟨ends, hsome, hlive c hc⟩]
    rfl

/-- What a put of a call in the window leaves. -/
theorem putCount_tracks (hwindow : InWindow calls) (hc : c ∈ calls) (kv : Kv) (count : Nat) :
    ∃ ends, putCount kv .none c.nowMs c.key count c.ttlSecs c.key = some ⟨count, ends⟩ ∧
      ∀ c' ∈ calls, c'.nowMs < ends :=
  ⟨c.nowMs + 1000 * c.ttlSecs, Expiring.put_self, fun c' hc' => hwindow c' hc' c hc⟩

/-- **A call of the key** is counted as `hitOf` says and answers the total. -/
theorem Tracks.call (hwindow : InWindow calls) (hc : c ∈ calls) (h : Tracks calls c.key s n) :
    let r := checkKvCounter iterate s .none c.key c.limit c.ttlSecs c.nowMs
    r.1 = verdict (n.hit (hitOf s c)).total c.limit ∧
      Tracks calls c.key r.2 (n.hit (hitOf s c)) := by
  unfold checkKvCounter hitOf
  cases hfresh : freshEntry s.cache c.nowMs c.key with
  | some e =>
    obtain ⟨hcount, hkvCount⟩ := h.entry e (freshEntry_some hfresh)
    have hsucc : satSucc e.count = min (n.total + 1) maxU64 := by
      rw [hcount]
      exact satSucc_min _
    dsimp only
    by_cases hsync : syncs e = true
    · rw [if_pos hsync, if_pos hsync, hsucc]
      refine ⟨verdict_min _ _, .inr (putCount_tracks hwindow hc _ _), ?_⟩
      intro e' he'
      rw [AList.lookup_insert, Option.some.injEq] at he'
      rw [← he']
      exact ⟨rfl, rfl⟩
    · rw [if_neg hsync, if_neg hsync, hsucc]
      refine ⟨verdict_min _ _, h.kv, ?_⟩
      intro e' he'
      rw [AList.lookup_insert, Option.some.injEq] at he'
      rw [← he']
      exact ⟨rfl, hkvCount⟩
  | none =>
    dsimp only
    rw [if_pos (show Faults.none.get = true from rfl), h.read hc, satSucc_min]
    refine ⟨verdict_min _ _, .inr (putCount_tracks hwindow hc _ _), ?_⟩
    intro e' he'
    rw [AList.lookup_insert, Option.some.injEq] at he'
    rw [← he']
    exact ⟨rfl, rfl⟩

theorem Tracks.of_other {s' : Isolate} (h : Tracks calls key s n) (hkv : s'.kv key = s.kv key)
    (hcache : ∀ e, s'.cache.lookup key = some e → s.cache.lookup key = some e) :
    Tracks calls key s' n := by
  refine ⟨?_, fun e he => h.entry e (hcache e he)⟩
  rw [hkv]
  exact h.kv

/-- A call of another key can only evict the entry. -/
theorem Tracks.other (h : Tracks calls key s n) (hne : c.key ≠ key) :
    Tracks calls key (checkKvCounter iterate s .none c.key c.limit c.ttlSecs c.nowMs).2 n := by
  have hput : ∀ count, putCount s.kv .none c.nowMs c.key count c.ttlSecs key = s.kv key :=
    fun _ => Expiring.put_ne hne.symm
  unfold checkKvCounter
  cases freshEntry s.cache c.nowMs c.key with
  | some e =>
    dsimp only
    split
    · refine h.of_other (hput _) fun e he => ?_
      rw [AList.lookup_insert_ne hne.symm] at he
      exact he
    · refine h.of_other rfl fun e he => ?_
      rw [AList.lookup_insert_ne hne.symm] at he
      exact he
  | none =>
    dsimp only
    rw [if_pos (show Faults.none.get = true from rfl)]
    refine h.of_other (hput _) fun e he => ?_
    rw [AList.lookup_insert_ne hne.symm] at he
    exact lookup_makeRoom he

/-! ## Sequences of calls -/

theorem hits_cons (iterate : Entries → Entries) (s : Isolate) (c : Call) (old : List Call) :
    hits iterate s c.key (c :: old) =
      hitOf (after iterate s old) c :: hits iterate s c.key old := by
  show (if c.key = c.key then _ else _) = _
  rw [if_pos rfl]

theorem hits_cons_ne (hne : c.key ≠ key) :
    hits iterate s key (c :: old) = hits iterate s key old := by
  show (if c.key = key then _ else _) = _
  rw [if_neg hne]

theorem length_hits (key : String) (calls : List Call) :
    (hits iterate s key calls).length = callsOf key calls := by
  unfold callsOf
  induction calls with
  | nil => rfl
  | cons c old ih =>
    rw [List.countP_cons]
    by_cases hkey : c.key = key
    · subst hkey
      rw [hits_cons, List.length_cons, ih]
      simp
    · rw [hits_cons_ne hkey, ih]
      simp [hkey]

/-- **The run.** After any calls in the window the isolate is where the counted calls lead. -/
theorem tracks_after (iterate : Entries → Entries) (hwindow : InWindow calls)
    (hunused : Unused s key) (hs : old <:+ calls) :
    Tracks calls key (after iterate s old) (WriteBehind.after (hits iterate s key old)) := by
  induction old with
  | nil =>
    refine ⟨.inl ⟨rfl, hunused.2⟩, fun e he => ?_⟩
    have hnone : s.cache.lookup key = none := hunused.1
    have hsome : s.cache.lookup key = some e := he
    rw [hnone] at hsome
    cases hsome
  | cons c old ih =>
    have hold := ih ((List.suffix_cons c old).trans hs)
    by_cases hkey : c.key = key
    · subst hkey
      rw [hits_cons]
      exact (hold.call hwindow (hs.subset List.mem_cons_self)).2
    · rw [hits_cons_ne hkey]
      exact hold.other hkey

/-- What a call of the window answers. -/
theorem answer_eq (hwindow : InWindow calls) (hunused : Unused s c.key)
    (hs : c :: old <:+ calls) : answer iterate s c old =
      verdict (WriteBehind.after (hits iterate s c.key (c :: old))).total c.limit := by
  have hold := tracks_after iterate hwindow hunused ((List.suffix_cons c old).trans hs)
  rw [hits_cons]
  exact (hold.call hwindow (hs.subset List.mem_cons_self)).1

/-- The suffixes of the counted calls are the counts of suffixes that end with a call. -/
theorem suffix_hits {x : Hit} {rest : List Hit} (h : x :: rest <:+ hits iterate s key calls) :
    ∃ c old, c :: old <:+ calls ∧ c.key = key ∧ hitOf (after iterate s old) c = x ∧
      hits iterate s key old = rest := by
  induction calls with
  | nil => simp [hits] at h
  | cons c old ih =>
    have hdeeper : x :: rest <:+ hits iterate s key old → ∃ c' old', c' :: old' <:+ c :: old ∧
        c'.key = key ∧ hitOf (after iterate s old') c' = x ∧ hits iterate s key old' = rest := by
      intro h
      obtain ⟨c', old', hs, hrest⟩ := ih h
      exact ⟨c', old', hs.trans (List.suffix_cons c old), hrest⟩
    by_cases hkey : c.key = key
    · subst hkey
      rw [hits_cons] at h
      obtain heq | hs := List.suffix_cons_iff.mp h
      · injection heq with hhit hrest
        exact ⟨c, old, List.suffix_refl _, rfl, hhit.symm, hrest.symm⟩
      · exact hdeeper hs
    · rw [hits_cons_ne hkey] at h
      exact hdeeper h

theorem hits_suffix (iterate : Entries → Entries) (s : Isolate) (key : String)
    (hs : old <:+ calls) : hits iterate s key old <:+ hits iterate s key calls := by
  induction calls with
  | nil =>
    rw [List.suffix_nil.mp hs]
  | cons c rest ih =>
    obtain rfl | hs := List.suffix_cons_iff.mp hs
    · exact List.suffix_refl _
    · refine (ih hs).trans ?_
      by_cases hkey : c.key = key
      · subst hkey
        rw [hits_cons]
        exact List.suffix_cons _ _
      · rw [hits_cons_ne hkey]

/-! ## The plain counter -/

theorem callsOf_cons_self (c : Call) (old : List Call) :
    callsOf c.key (c :: old) = callsOf c.key old + 1 := by
  simp [callsOf]

theorem callsOf_cons_ne (hne : c.key ≠ key) : callsOf key (c :: old) = callsOf key old := by
  simp [callsOf, hne]

/-- KV under the plain counter holds the number of the calls. -/
theorem plain_tracks {kv : Kv} (hwindow : InWindow calls) (hnone : kv key = none)
    (hs : old <:+ calls) :
    Tracks calls key ⟨∅, plainAfter kv old⟩ ⟨callsOf key old, 0⟩ := by
  suffices hkv : (callsOf key old = 0 ∧ plainAfter kv old key = none) ∨
      ∃ ends, plainAfter kv old key = some ⟨min (callsOf key old) maxU64, ends⟩ ∧
        ∀ c ∈ calls, c.nowMs < ends from tracks_kv hkv
  induction old with
  | nil => exact .inl ⟨rfl, hnone⟩
  | cons c old ih =>
    have hold := ih ((List.suffix_cons c old).trans hs)
    have hc : c ∈ calls := hs.subset List.mem_cons_self
    by_cases hkey : c.key = key
    · subst hkey
      have htracks : Tracks calls c.key ⟨∅, plainAfter kv old⟩ ⟨callsOf c.key old, 0⟩ :=
        tracks_kv hold
      right
      unfold plainAfter plainKvCounter
      rw [htracks.read hc, satSucc_min, callsOf_cons_self]
      exact putCount_tracks hwindow hc _ _
    · have hput : ∀ count, putCount (plainAfter kv old) .none c.nowMs c.key count c.ttlSecs key =
          plainAfter kv old key := fun _ => Expiring.put_ne (Ne.symm hkey)
      unfold plainAfter plainKvCounter
      dsimp only
      rw [callsOf_cons_ne hkey, hput]
      exact hold

/-- **The plain counter** answers the number of the call. -/
theorem plainAnswer_eq {kv : Kv} (hwindow : InWindow calls) (hnone : kv c.key = none)
    (hs : c :: old <:+ calls) :
    plainAnswer kv c old = verdict (callsOf c.key (c :: old)) c.limit := by
  have htracks := plain_tracks hwindow hnone ((List.suffix_cons c old).trans hs)
  unfold plainAnswer plainKvCounter
  dsimp only
  rw [htracks.read (hs.subset List.mem_cons_self), satSucc_min, verdict_min, callsOf_cons_self]

/-! ## The refinement -/

theorem verdict_count (n limit : Nat) : (verdict n limit).count = min n maxU32 := by
  unfold verdict
  dsimp only
  split
  · rfl
  · rfl

theorem verdict_eq_iff {m n limit : Nat} :
    verdict m limit = verdict n limit ↔ min m maxU32 = min n maxU32 := by
  constructor
  · intro h
    rw [← verdict_count m limit, h, verdict_count]
  · intro h
    unfold verdict
    rw [h]

/-- An answer is right when the counted calls and the calls agree up to the range of the answer. -/
theorem counts_iff (hwindow : InWindow calls) (hunused : Unused s c.key)
    (hs : c :: old <:+ calls) : Counts iterate s c old ↔
      min (WriteBehind.after (hits iterate s c.key (c :: old))).total maxU32 =
        min (hits iterate s c.key (c :: old)).length maxU32 := by
  unfold Counts
  rw [answer_eq hwindow hunused hs, plainAnswer_eq hwindow hunused.2 hs, verdict_eq_iff,
    verdict_count, length_hits]
  exact and_self_iff

/-- A call that finds no fresh entry is counted from KV. -/
theorem hitOf_eq_seed : hitOf s c = .seed ↔ freshEntry s.cache c.nowMs c.key = none := by
  unfold hitOf
  cases freshEntry s.cache c.nowMs c.key with
  | none => simp
  | some e =>
    dsimp only
    split <;> simp

/-- **The counter.** Over calls in one window, newest first, of a key that was not in use: each
call for it answers its number, as the plain counter does, exactly when each of them that finds no
fresh entry finds the calls before it written to KV. -/
theorem counter_refines_iff (iterate : Entries → Entries) (s : Isolate) (key : String)
    (calls : List Call) (hunused : Unused s key) (hwindow : InWindow calls) :
    (∀ c old, c :: old <:+ calls → c.key = key → Counts iterate s c old) ↔
      ∀ c old, c :: old <:+ calls → c.key = key → FindsWritten iterate s c old := by
  have hall : (∀ c old, c :: old <:+ calls → c.key = key → Counts iterate s c old) ↔
      ∀ rest, rest <:+ hits iterate s key calls →
        min (WriteBehind.after rest).total maxU32 = min rest.length maxU32 := by
    constructor
    · intro h rest hrest
      cases rest with
      | nil => rfl
      | cons x rest =>
        obtain ⟨c, old, hs, rfl, rfl, rfl⟩ := suffix_hits hrest
        rw [← hits_cons]
        exact (counts_iff hwindow hunused hs).mp (h c old hs rfl)
    · intro h c old hs hkey
      subst hkey
      exact (counts_iff hwindow hunused hs).mpr (h _ (hits_suffix iterate s c.key hs))
  have hnever : NeverForgets maxU32 (hits iterate s key calls) ↔
      ∀ c old, c :: old <:+ calls → c.key = key → FindsWritten iterate s c old := by
    constructor
    · intro h c old hs hkey hnone
      subst hkey
      refine h _ ?_
      have hsuffix := hits_suffix iterate s c.key hs
      rw [hits_cons, hitOf_eq_seed.mpr hnone] at hsuffix
      exact hsuffix
    · intro h rest hrest
      obtain ⟨c, old, hs, rfl, hseed, rfl⟩ := suffix_hits hrest
      exact h c old hs rfl (hitOf_eq_seed.mp hseed)
  rw [hall, ← hnever]
  exact total_iff

/-- A call for the quota of the shop. -/
def sampleCall (nowMs : Nat) : Call := ⟨"quota:shop:challenge:0", 100, 7200, nowMs⟩

def sampleIsolate : Isolate := ⟨∅, fun _ => none⟩

theorem inWindow_sample (times : List Nat) (h : ∀ t ∈ times, t < 3600000) :
    InWindow (times.map sampleCall) := by
  intro c hc c' hc'
  obtain ⟨t, ht, rfl⟩ := List.mem_map.mp hc
  obtain ⟨t', -, rfl⟩ := List.mem_map.mp hc'
  have hlt := h t ht
  show t < t' + 1000 * 7200
  omega

/-- Two calls a second apart are counted as the first and the second. -/
theorem counter_refines_second :
    Counts id sampleIsolate (sampleCall 1000) [sampleCall 0] := by
  have hwindow : InWindow [sampleCall 1000, sampleCall 0] :=
    inWindow_sample [1000, 0] (by decide)
  refine (counter_refines_iff id sampleIsolate "quota:shop:challenge:0" _ ⟨rfl, rfl⟩ hwindow).mpr
    ?_ _ _ (List.suffix_refl _) rfl
  intro c old hs _ hnone
  obtain heq | hs := List.suffix_cons_iff.mp hs
  · injection heq with hc hold
    subst hc
    subst hold
    exact .inl (by decide +kernel)
  · obtain heq | hs := List.suffix_cons_iff.mp hs
    · injection heq with hc hold
      subst hold
      exact .inl rfl
    · cases List.suffix_nil.mp hs

/-- The third of three calls, ten seconds after the first, is counted as the second: the entry is
stale, and KV holds the first call only. -/
theorem third_call_counted_second :
    Unused sampleIsolate "quota:shop:challenge:0" ∧
      InWindow [sampleCall 10000, sampleCall 1000, sampleCall 0] ∧
      ¬ Counts id sampleIsolate (sampleCall 10000) [sampleCall 1000, sampleCall 0] := by
  refine ⟨⟨rfl, rfl⟩, inWindow_sample [10000, 1000, 0] (by decide), fun h => ?_⟩
  have htwo : (answer id sampleIsolate (sampleCall 10000) [sampleCall 1000, sampleCall 0]).count =
      2 := by
    decide +kernel
  rw [h.2] at htwo
  exact absurd htwo (by decide)

end HostedCounter

end ProviiVerifier
