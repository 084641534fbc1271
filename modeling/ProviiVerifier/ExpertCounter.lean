/-
  `check_kv_counter_impl` in `rate_limiting.rs`: the quota counter of the expert routes, beside
  that of `hosted/rate_limiting.rs`.

  The expert counter compares the count before it adds the request, the hosted one after. What KV
  holds is the decimal text of a count, here the count.

  Proved: over the requests for one key in one window, both counters admit the first requests up
  to the limit exactly when the limit is not reached or is zero (`same_quota_iff`): the hosted
  counter turns the request that reaches the limit away.
-/
import ProviiVerifier.HostedCounter

namespace ProviiVerifier

namespace ExpertCounter

open WriteBehind HostedCounter

/-- `parse::<u32>().unwrap_or(0)` of a stored count. -/
def parseCount (count : Nat) : Nat := if count ≤ maxU32 then count else 0

/-- `saturating_add(1)` of a `u32`. -/
def satSuccU32 (n : Nat) : Nat := min (n + 1) maxU32

/-- `check_kv_counter_impl`. -/
def checkKvCounter (kv : Kv) (f : Faults) (key : String) (limit ttlSecs nowMs : Nat) :
    Verdict × Kv :=
  if f.get then
    let count := parseCount ((Expiring.get kv nowMs key).getD 0)
    if count ≥ limit then (⟨false, count, limit, false⟩, kv)
    else
      (⟨true, satSuccU32 count, limit, false⟩,
        putCount kv f nowMs key (satSuccU32 count) ttlSecs)
  else (⟨false, 0, limit, true⟩, kv)

/-- KV after calls without failures, newest first. -/
def after (kv : Kv) : List Call → Kv
  | [] => kv
  | c :: old => (checkKvCounter (after kv old) .none c.key c.limit c.ttlSecs c.nowMs).2

/-- What a call answers after earlier ones. -/
def answer (kv : Kv) (c : Call) (old : List Call) : Verdict :=
  (checkKvCounter (after kv old) .none c.key c.limit c.ttlSecs c.nowMs).1

/-- Requests for one key under one limit, in one window. -/
structure OneQuota (key : String) (limit : Nat) (calls : List Call) : Prop where
  sameKey : ∀ c ∈ calls, c.key = key
  sameLimit : ∀ c ∈ calls, c.limit = limit
  /-- The limit is a `u32`. -/
  inRange : limit ≤ maxU32
  window : InWindow calls

/-- No call but the first finds its entry stale or evicted. -/
def NeverStale (iterate : Entries → Entries) (s : Isolate) (calls : List Call) : Prop :=
  ∀ c old, c :: old <:+ calls → old ≠ [] →
    freshEntry (HostedCounter.after iterate s old).cache c.nowMs c.key ≠ none

/-- Both counters admit the call if and only if fewer calls than the limit came before. -/
def AdmitFirst (iterate : Entries → Entries) (s : Isolate) (kv : Kv) (limit : Nat) (c : Call)
    (old : List Call) : Prop :=
  (HostedCounter.answer iterate s c old).allowed = decide (old.length < limit) ∧
    (answer kv c old).allowed = decide (old.length < limit)

/-! ## The expert counter -/

variable {iterate : Entries → Entries} {s : Isolate} {kv : Kv} {key : String} {limit : Nat}
  {c : Call} {old calls : List Call}

/-- What a call reads when KV holds a count up to the limit. -/
theorem parseCount_read (hq : OneQuota key limit calls) (hc : c ∈ calls)
    (h : Tracks calls key ⟨∅, kv⟩ ⟨min old.length limit, 0⟩) :
    parseCount ((Expiring.get kv c.nowMs c.key).getD 0) = min old.length limit := by
  have hrange := hq.inRange
  have hmax : maxU32 ≤ maxU64 := by decide
  rw [hq.sameKey c hc, h.read hc]
  dsimp only
  unfold parseCount
  rw [if_pos (by omega)]
  omega

/-- **The run.** KV holds the number of the calls, up to the limit. -/
theorem tracks_after (hq : OneQuota key limit calls) (hnone : kv key = none)
    (hs : old <:+ calls) : Tracks calls key ⟨∅, after kv old⟩ ⟨min old.length limit, 0⟩ := by
  induction old with
  | nil =>
    refine tracks_kv (.inl ⟨?_, hnone⟩)
    exact Nat.zero_min limit
  | cons c old ih =>
    have hold := ih ((List.suffix_cons c old).trans hs)
    have hc : c ∈ calls := hs.subset List.mem_cons_self
    have hrange := hq.inRange
    show Tracks calls key
      ⟨∅, (checkKvCounter (after kv old) .none c.key c.limit c.ttlSecs c.nowMs).2⟩ _
    unfold checkKvCounter
    rw [if_pos (show Faults.none.get = true from rfl)]
    dsimp only
    rw [parseCount_read hq hc hold, hq.sameLimit c hc]
    split
    · next hfull =>
      have hsame : min (c :: old).length limit = min old.length limit := by
        rw [List.length_cons]
        omega
      rw [hsame]
      exact hold
    · next hroom =>
      obtain ⟨ends, hput, hends⟩ :=
        putCount_tracks hq.window hc (after kv old) (satSuccU32 (min old.length limit))
      refine tracks_kv (.inr ⟨ends, ?_, hends⟩)
      have hcount : satSuccU32 (min old.length limit) =
          min (min (c :: old).length limit) maxU64 := by
        have hmax : maxU32 ≤ maxU64 := by decide
        unfold satSuccU32
        rw [List.length_cons]
        omega
      rw [← hcount, ← hput, hq.sameKey c hc]

/-- **The expert counter** admits the first calls up to the limit. -/
theorem answer_allowed (hq : OneQuota key limit calls) (hnone : kv key = none)
    (hs : c :: old <:+ calls) : (answer kv c old).allowed = decide (old.length < limit) := by
  have hc : c ∈ calls := hs.subset List.mem_cons_self
  have hold := tracks_after hq hnone ((List.suffix_cons c old).trans hs)
  unfold answer checkKvCounter
  rw [if_pos (show Faults.none.get = true from rfl)]
  dsimp only
  rw [parseCount_read hq hc hold, hq.sameLimit c hc]
  split
  · next hfull =>
    rw [decide_eq_false (by omega)]
  · next hroom =>
    rw [decide_eq_true (by omega)]

/-! ## The hosted counter -/

/-- Without stale entries every call is counted. -/
theorem neverForgets (hs : NeverStale iterate s calls) (hkey : ∀ c ∈ calls, c.key = key) :
    NeverForgets maxU32 (hits iterate s key calls) := by
  intro rest hrest
  obtain ⟨c, old, hsuffix, rfl, hseed, rfl⟩ := suffix_hits hrest
  cases old with
  | nil => exact .inl rfl
  | cons c' old =>
    exact absurd (hitOf_eq_seed.mp hseed) (hs c _ hsuffix (List.cons_ne_nil _ _))

theorem callsOf_eq_length (hkey : ∀ c ∈ calls, c.key = key) : callsOf key calls = calls.length := by
  unfold callsOf
  rw [List.countP_eq_length]
  intro c hc
  exact decide_eq_true (hkey c hc)

/-- **The hosted counter** admits the calls before the one that reaches the limit. -/
theorem hosted_allowed (hq : OneQuota key limit calls) (hunused : Unused s key)
    (hstale : NeverStale iterate s calls) (hs : c :: old <:+ calls) :
    (HostedCounter.answer iterate s c old).allowed = decide (old.length + 1 < limit) := by
  have hc : c ∈ calls := hs.subset List.mem_cons_self
  have hkey := hq.sameKey c hc
  have hrange := hq.inRange
  rw [answer_eq hq.window (by rw [hkey]; exact hunused) hs, hkey]
  have hnever := (neverForgets hstale hq.sameKey).of_suffix (hits_suffix iterate s key hs)
  have htotal := hnever.total
  rw [length_hits, callsOf_eq_length fun c hc => hq.sameKey c (hs.subset hc),
    List.length_cons] at htotal
  rw [hq.sameLimit c hc]
  unfold verdict
  rw [htotal]
  dsimp only
  split
  · next hfull =>
    rw [decide_eq_false (by omega)]
  · next hroom =>
    rw [decide_eq_true (by omega)]

/-! ## Both counters -/

/-- **One quota.** Over the requests for one key in one window, which nobody used before, both
counters admit exactly the first requests up to the limit if and only if the limit is zero or is
not reached. -/
theorem same_quota_iff (iterate : Entries → Entries) (s : Isolate) (kv : Kv) (key : String)
    (limit : Nat) (calls : List Call) (hq : OneQuota key limit calls) (hunused : Unused s key)
    (hnone : kv key = none) (hstale : NeverStale iterate s calls) :
    (∀ c old, c :: old <:+ calls → AdmitFirst iterate s kv limit c old) ↔
      limit = 0 ∨ calls.length < limit := by
  constructor
  · intro h
    by_contra hno
    have hpos : 0 < limit ∧ limit ≤ calls.length := by omega
    -- the call that reaches the limit
    have hlength : (calls.drop (calls.length - limit)).length = limit := by
      rw [List.length_drop]
      omega
    cases hsuffix : calls.drop (calls.length - limit) with
    | nil =>
      rw [hsuffix, List.length_nil] at hlength
      omega
    | cons c old =>
      have hs : c :: old <:+ calls := hsuffix ▸ List.drop_suffix _ calls
      rw [hsuffix, List.length_cons] at hlength
      have hadmit := (h c old hs).1
      rw [hosted_allowed hq hunused hstale hs, decide_eq_decide] at hadmit
      omega
  · intro h c old hs
    refine ⟨?_, answer_allowed hq hnone hs⟩
    have hlength := hs.length_le
    rw [List.length_cons] at hlength
    rw [hosted_allowed hq hunused hstale hs, decide_eq_decide]
    omega

/-- A request for the quota of the shop. -/
def sampleCall (limit nowMs : Nat) : Call := ⟨"quota:shop:challenge:0", limit, 7200, nowMs⟩

def sampleCalls (limit : Nat) (times : List Nat) : List Call := times.map (sampleCall limit)

theorem oneQuota_sample {limit : Nat} (hlimit : limit ≤ maxU32) {times : List Nat}
    (h : ∀ t ∈ times, t < 3600000) :
    OneQuota "quota:shop:challenge:0" limit (sampleCalls limit times) := by
  refine ⟨?_, ?_, hlimit, ?_⟩
  · intro c hc
    obtain ⟨t, -, rfl⟩ := List.mem_map.mp hc
    rfl
  · intro c hc
    obtain ⟨t, -, rfl⟩ := List.mem_map.mp hc
    rfl
  · intro c hc c' hc'
    obtain ⟨t, ht, rfl⟩ := List.mem_map.mp hc
    obtain ⟨t', -, rfl⟩ := List.mem_map.mp hc'
    have hlt := h t ht
    show t < t' + 1000 * 7200
    omega

/-- Of two calls only the second has to find an entry. -/
theorem neverStale_two {d : Call}
    (h : freshEntry (HostedCounter.after iterate s [d]).cache c.nowMs c.key ≠ none) :
    NeverStale iterate s [c, d] := by
  intro c' old hs hne
  obtain heq | hs := List.suffix_cons_iff.mp hs
  · injection heq with hc hold
    subst hc
    subst hold
    exact h
  · obtain heq | hs := List.suffix_cons_iff.mp hs
    · injection heq with hc hold
      exact absurd hold hne
    · cases List.suffix_nil.mp hs

/-- Of two requests a second apart, the limit being three, both counters admit both. -/
theorem same_quota_two :
    AdmitFirst id sampleIsolate (fun _ => none) 3 (sampleCall 3 1000) (sampleCalls 3 [0]) ∧
      AdmitFirst id sampleIsolate (fun _ => none) 3 (sampleCall 3 0) [] := by
  have hall := (same_quota_iff id sampleIsolate (fun _ => none) "quota:shop:challenge:0" 3
    (sampleCalls 3 [1000, 0]) (oneQuota_sample (by decide) (by decide)) ⟨rfl, rfl⟩ rfl
    (neverStale_two (by decide +kernel))).mpr (.inr (by decide))
  exact ⟨hall _ _ (List.suffix_refl _), hall _ _ (List.suffix_cons _ _)⟩

/-- Of two requests a second apart, the limit being two, the hosted counter turns the second
away, and the expert counter admits it. -/
theorem second_request_refused :
    OneQuota "quota:shop:challenge:0" 2 (sampleCalls 2 [1000, 0]) ∧
      Unused sampleIsolate "quota:shop:challenge:0" ∧
      NeverStale id sampleIsolate (sampleCalls 2 [1000, 0]) ∧
      ¬ AdmitFirst id sampleIsolate (fun _ => none) 2 (sampleCall 2 1000) (sampleCalls 2 [0]) ∧
      (HostedCounter.answer id sampleIsolate (sampleCall 2 1000)
        (sampleCalls 2 [0])).allowed = false ∧
      (answer (fun _ => none) (sampleCall 2 1000) (sampleCalls 2 [0])).allowed = true := by
  have hhosted : (HostedCounter.answer id sampleIsolate (sampleCall 2 1000)
      (sampleCalls 2 [0])).allowed = false := by
    decide +kernel
  refine ⟨oneQuota_sample (by decide) (by decide), ⟨rfl, rfl⟩,
    neverStale_two (by decide +kernel), ?_, hhosted, by decide +kernel⟩
  intro h
  have hadmit := h.1
  rw [hhosted] at hadmit
  exact absurd hadmit (by decide)

end ExpertCounter

end ProviiVerifier
