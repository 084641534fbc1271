/-
  The checks of `rate_limiting.rs` made one after the other for one key, over many windows.

  KV may keep an entry longer than its time to live, and drops none before. The reads of a check may
  fail, its write does not. What KV answers about tiers is an input of each check; the limit it
  comes to is the same at every check.

  Proved: in every window the first checks whose read succeeds are admitted, as many as the limit
  says, a check whose read fails is refused and not counted, and no advertised wait ends after the
  window (`first_admitted`).
-/
import ProviiVerifier.RateLimits

namespace ProviiVerifier

namespace QuotaWindows

open HostedCounter (Kv Faults maxU32 putCount)
open ExpertCounter (parseCount satSuccU32)
open TierLimits (TierJson Config)
open RateLimits

/-- A check of `rate_limiting.rs` for one subject on one endpoint. -/
inductive ExpertCheck
  | quota (headers : Headers) (ipHash endpoint : Label)
  | accountQuota (verifiedClientId : String) (endpoint : Label)
  | perIp (limiter : IpLimiter) (ip : Label)
  | catchall (hashedIp : Label)
  | hostedIp (hashedIp endpoint : Label)
  | expertIp (hashedIp endpoint : Label)

/-- What the environment decides about a check: what KV answers about tiers and whether its counter
operations succeed, the limit that is configured for the route, the time, and what has become of the
counters since the last check. -/
structure Env where
  config : Config
  faults : Faults
  configured : Nat
  nowMs : Nat
  meanwhile : Kv → Kv

/-- What the routes are compiled with and what the standard library decides. -/
structure Setting where
  sha256Hex : String → String
  codec : TierJson
  iterate : TierLimits.Entries → TierLimits.Entries

namespace ExpertCheck

def check : ExpertCheck → Check
  | quota headers ipHash endpoint => .quota headers ipHash endpoint
  | accountQuota verifiedClientId endpoint => .accountQuota verifiedClientId endpoint
  | perIp limiter ip => .perIp limiter ip
  | catchall hashedIp => .catchall hashedIp
  | hostedIp hashedIp endpoint => .hostedIp hashedIp endpoint
  | expertIp hashedIp endpoint => .expertIp hashedIp endpoint

def windowSecs : ExpertCheck → Nat
  | catchall _ => 60
  | _ => 3600

def ttlSecs : ExpertCheck → Nat
  | catchall _ => 120
  | _ => 7200

variable (setting : Setting) (c : ExpertCheck)

/-- The window of a check made at a time. -/
def window (c : ExpertCheck) (nowSecs : Nat) : Nat := c.check.window nowSecs

/-- The key of a check made at a time. -/
def key (nowSecs : Nat) : String := c.check.key setting.sha256Hex nowSecs

/-- The check. -/
def perform (s : Expert) (e : Env) : RateLimitResult × Expert :=
  match c with
  | quota headers ipHash endpoint =>
    checkQuota setting.codec setting.iterate s e.config e.faults
      (getClientId setting.sha256Hex headers ipHash) endpoint.text e.configured e.nowMs
  | accountQuota verifiedClientId endpoint =>
    checkAccountQuota setting.codec setting.iterate s e.config e.faults verifiedClientId
      endpoint.text e.configured e.nowMs
  | perIp limiter ip =>
    let (result, kv) :=
      checkPerIpLimit s.kv e.faults limiter.keyPrefix ip.text e.configured e.nowMs
    (result, { s with kv := kv })
  | catchall hashedIp =>
    let (result, kv) := checkCatchallLimit s.kv e.faults hashedIp.text e.configured e.nowMs
    (result, { s with kv := kv })
  | hostedIp hashedIp endpoint =>
    let (result, kv) :=
      checkHostedIpLimit s.kv e.faults hashedIp.text endpoint.text e.configured e.nowMs
    (result, { s with kv := kv })
  | expertIp hashedIp endpoint =>
    let (result, kv) :=
      checkExpertIpLimit s.kv e.faults hashedIp.text endpoint.text e.configured e.nowMs
    (result, { s with kv := kv })

/-- The isolate and the counters when a check begins. -/
def ready (s : Expert) (e : Env) : Expert := { s with kv := e.meanwhile s.kv }

/-- After checks, newest first. -/
def after (s : Expert) : List Env → Expert
  | [] => s
  | e :: old => (perform setting c (ready (after s old) e) e).2

/-- What a check answers after earlier ones. -/
def answer (s : Expert) (e : Env) (old : List Env) : RateLimitResult :=
  (perform setting c (ready (after setting c s old) e) e).1

/-- KV keeps the counters of a check that have not ended, and makes none up. -/
structure Keeps (nowMs : Nat) (kv kv' : Kv) : Prop where
  live : ∀ t count ends, kv (key setting c t) = some ⟨count, ends⟩ → nowMs < ends →
    ∃ ends', kv' (key setting c t) = some ⟨count, ends'⟩ ∧ ends ≤ ends'
  none : ∀ t, kv (key setting c t) = none → kv' (key setting c t) = none

/-- Checks for a key that nobody used before, at non-decreasing times and under one limit. -/
structure Steady (s : Expert) (limit : Nat) (checks : List Env) : Prop where
  sameLimit : ∀ e old, e :: old <:+ checks → (answer setting c s e old).limit = limit
  /-- The limit is a `u32`. -/
  inRange : limit ≤ maxU32
  written : ∀ e ∈ checks, e.faults.put = true
  kept : ∀ e old, e :: old <:+ checks →
    Keeps setting c e.nowMs (after setting c s old).kv (e.meanwhile (after setting c s old).kv)
  ordered : checks.Pairwise fun later earlier => earlier.nowMs ≤ later.nowMs
  unused : ∀ t, s.kv (key setting c t) = none

/-- The earlier checks whose read succeeded in the window of a time. -/
def counted (nowSecs : Nat) (old : List Env) : Nat :=
  old.countP fun e => e.faults.get && decide (window c (e.nowMs / 1000) = window c nowSecs)

/-! ## One check -/

section

variable {setting c} {s : Expert} {e : Env} {kv : Kv} {f : Faults} {k : String}
  {limit ttl windowTs len nowMs count : Nat}

theorem checkWindow_failed (h : f.get = false) :
    let r := checkWindow kv f k limit ttl windowTs len nowMs
    r.1.allowed = false ∧ r.1.readFailed = true ∧ r.2 = kv := by
  unfold checkWindow ExpertCounter.checkKvCounter
  rw [h]
  exact ⟨rfl, rfl, rfl⟩

variable (limit ttl windowTs len) in
theorem checkWindow_read (h : f.get = true)
    (hcount : parseCount ((Expiring.get kv nowMs k).getD 0) = count) :
    let r := checkWindow kv f k limit ttl windowTs len nowMs
    r.1.allowed = decide (count < limit) ∧ r.1.readFailed = false ∧
      r.2 = if count < limit then putCount kv f nowMs k (satSuccU32 count) ttl else kv := by
  unfold checkWindow ExpertCounter.checkKvCounter
  rw [h, if_pos rfl]
  dsimp only
  rw [hcount]
  split
  · next hfull =>
    have hno : ¬ count < limit := Nat.not_lt.mpr hfull
    rw [if_neg hno, decide_eq_false hno]
    exact ⟨rfl, rfl, rfl⟩
  · next hroom =>
    have hlt : count < limit := Nat.lt_of_not_le hroom
    rw [if_pos hlt, decide_eq_true hlt]
    exact ⟨rfl, rfl, rfl⟩

theorem checkWindow_limit :
    (checkWindow kv f k limit ttl windowTs len nowMs).1.limit = limit := by
  show (ExpertCounter.checkKvCounter kv f k limit ttl nowMs).1.limit = limit
  unfold ExpertCounter.checkKvCounter
  split
  · dsimp only
    split
    · rfl
    · rfl
  · rfl

theorem checkWindow_retry :
    (checkWindow kv f k limit ttl windowTs len nowMs).1.retryAfterSecs =
      clampRetryAfter (untilEnd windowTs len (nowMs / 1000)) :=
  rfl

variable (setting c) in
/-- **What a check does**: it counts under its key in its window, with its limit. -/
theorem perform_eq (s : Expert) (e : Env) : ∃ limit,
    let r := checkWindow s.kv e.faults (key setting c (e.nowMs / 1000)) limit (ttlSecs c)
      (window c (e.nowMs / 1000)) (windowSecs c) e.nowMs
    (perform setting c s e).1 = r.1 ∧ (perform setting c s e).2.kv = r.2 := by
  cases c with
  | quota => exact ⟨_, rfl, rfl⟩
  | accountQuota => exact ⟨_, rfl, rfl⟩
  | perIp => exact ⟨_, rfl, rfl⟩
  | catchall => exact ⟨_, rfl, rfl⟩
  | hostedIp => exact ⟨_, rfl, rfl⟩
  | expertIp => exact ⟨_, rfl, rfl⟩

/-- The window of a time starts before it and ends after it. -/
theorem window_le (c : ExpertCheck) (nowSecs : Nat) :
    window c nowSecs ≤ nowSecs ∧ nowSecs < window c nowSecs + windowSecs c := by
  have hhour : TierLimits.hourTs nowSecs ≤ nowSecs ∧
      nowSecs < TierLimits.hourTs nowSecs + 3600 := by
    unfold TierLimits.hourTs
    omega
  cases c with
  | catchall =>
    show minuteTs nowSecs ≤ nowSecs ∧ nowSecs < minuteTs nowSecs + 60
    unfold minuteTs
    omega
  | _ => exact hhour

theorem windowSecs_le (c : ExpertCheck) : windowSecs c ≤ ttlSecs c := by
  cases c with
  | catchall => exact show (60 : Nat) ≤ 120 by decide
  | _ => exact show (3600 : Nat) ≤ 7200 by decide

/-- The advertised wait is over when the window is. -/
theorem retry_le (s : Expert) (e : Env) : (perform setting c s e).1.retryAfterSecs ≤
    window c (e.nowMs / 1000) + windowSecs c - e.nowMs / 1000 := by
  obtain ⟨limit, hresult, -⟩ := perform_eq setting c s e
  rw [hresult, checkWindow_retry]
  unfold clampRetryAfter untilEnd NonceDO.satAdd
  omega

/-! ## The counter of a window -/

/-- The end of the window of a time, in milliseconds. -/
def endMs (c : ExpertCheck) (nowSecs : Nat) : Nat := 1000 * (window c nowSecs + windowSecs c)

/-- KV holds a count, up to the limit, and keeps it until the window ends. -/
def Tracked (setting : Setting) (c : ExpertCheck) (limit count : Nat) (kv : Kv) (t : Nat) : Prop :=
  (min count limit = 0 ∧ kv (key setting c t) = none) ∨
    ∃ ends, kv (key setting c t) = some ⟨min count limit, ends⟩ ∧ endMs c t ≤ ends

variable {kv' : Kv} {t : Nat}

theorem Tracked.keep (h : Tracked setting c limit count kv t) (hlive : nowMs < endMs c t)
    (hkeeps : Keeps setting c nowMs kv kv') : Tracked setting c limit count kv' t := by
  rcases h with ⟨hzero, hnone⟩ | ⟨ends, hsome, hends⟩
  · exact .inl ⟨hzero, hkeeps.none t hnone⟩
  · obtain ⟨ends', hsome', hle⟩ := hkeeps.live t _ ends hsome (by omega)
    exact .inr ⟨ends', hsome', by omega⟩

/-- What a check in the window reads. -/
theorem Tracked.read (h : Tracked setting c limit count kv t) (hlive : nowMs < endMs c t)
    (hrange : limit ≤ maxU32) :
    parseCount ((Expiring.get kv nowMs (key setting c t)).getD 0) = min count limit := by
  have hget : (Expiring.get kv nowMs (key setting c t)).getD 0 = min count limit := by
    rcases h with ⟨hzero, hnone⟩ | ⟨ends, hsome, hends⟩
    · unfold Expiring.get
      rw [hnone, hzero]
      rfl
    · rw [Expiring.get_eq_some.mpr ⟨ends, hsome, by omega⟩]
      rfl
  rw [hget]
  unfold parseCount
  rw [if_pos (by omega)]

/-- A time is in its window. -/
theorem nowMs_lt (c : ExpertCheck) (nowMs : Nat) : nowMs < endMs c (nowMs / 1000) := by
  have hend := (window_le c (nowMs / 1000)).2
  unfold endMs
  omega

/-- What is put in a window lives to its end. -/
theorem endMs_le (c : ExpertCheck) (nowMs : Nat) :
    endMs c (nowMs / 1000) ≤ nowMs + 1000 * ttlSecs c := by
  have hstart := (window_le c (nowMs / 1000)).1
  have hlen := windowSecs_le c
  unfold endMs
  omega

/-- **A check whose read succeeds**: it is admitted while the count is below the limit, and it is
counted. -/
theorem Tracked.checked (h : Tracked setting c limit count kv (nowMs / 1000))
    (hrange : limit ≤ maxU32) (hget : f.get = true) (hput : f.put = true) :
    let r := checkWindow kv f (key setting c (nowMs / 1000)) limit (ttlSecs c) windowTs len nowMs
    r.1.allowed = decide (count < limit) ∧ r.1.readFailed = false ∧
      Tracked setting c limit (count + 1) r.2 (nowMs / 1000) := by
  obtain ⟨hallowed, hfailed, hkv⟩ := checkWindow_read limit (ttlSecs c) windowTs len hget
    (h.read (nowMs_lt c nowMs) hrange)
  dsimp only at hallowed hfailed hkv ⊢
  have hiff : min count limit < limit ↔ count < limit := by omega
  refine ⟨hallowed.trans (decide_eq_decide.mpr hiff), hfailed, ?_⟩
  rw [hkv]
  split
  · next hroom =>
    have hsucc : satSuccU32 (min count limit) = min (count + 1) limit := by
      unfold satSuccU32
      omega
    have hends := endMs_le c nowMs
    refine .inr ⟨nowMs + 1000 * ttlSecs c, ?_, hends⟩
    unfold putCount
    rw [if_pos hput, Expiring.put_self, hsucc]
  · next hfull =>
    have hsame : min (count + 1) limit = min count limit := by omega
    unfold Tracked
    rw [hsame]
    exact h

theorem key_of_window {u : Nat} (h : window c t = window c u) :
    key setting c t = key setting c u :=
  Check.key_of_window h

theorem window_of_key {u : Nat} (h : key setting c t = key setting c u) :
    window c t = window c u :=
  (Check.parts_of_key h).2.2

theorem Tracked.of_window {u : Nat} (hw : window c t = window c u)
    (h : Tracked setting c limit count kv t) : Tracked setting c limit count kv u := by
  unfold Tracked endMs at h ⊢
  rw [← hw, ← key_of_window hw]
  exact h

/-- A check leaves the counters of other windows alone. -/
theorem checkWindow_other (hne : key setting c t ≠ k) :
    (checkWindow kv f k limit ttl windowTs len nowMs).2 (key setting c t) =
      kv (key setting c t) := by
  show (ExpertCounter.checkKvCounter kv f k limit ttl nowMs).2 (key setting c t) = _
  unfold ExpertCounter.checkKvCounter
  split
  · dsimp only
    split
    · rfl
    · dsimp only
      unfold putCount
      split
      · exact Expiring.put_ne hne
      · rfl
  · rfl

theorem Tracked.of_eq (h : Tracked setting c limit count kv t)
    (hsame : kv' (key setting c t) = kv (key setting c t)) :
    Tracked setting c limit count kv' t := by
  unfold Tracked
  rw [hsame]
  exact h

/-! ## Runs -/

variable {checks old : List Env}

/-- The check of a run, with its limit. -/
theorem Steady.perform_eq (h : Steady setting c s limit checks) (hs : e :: old <:+ checks) :
    let r := checkWindow (e.meanwhile (after setting c s old).kv) e.faults
      (key setting c (e.nowMs / 1000)) limit (ttlSecs c) (window c (e.nowMs / 1000))
      (windowSecs c) e.nowMs
    answer setting c s e old = r.1 ∧ (after setting c s (e :: old)).kv = r.2 := by
  obtain ⟨limit', hresult, hkv⟩ :=
    ExpertCheck.perform_eq setting c (ready (after setting c s old) e) e
  have hlimit : limit' = limit := by
    have hsame := h.sameLimit e old hs
    unfold answer at hsame
    rw [hresult, checkWindow_limit] at hsame
    exact hsame
  subst hlimit
  exact ⟨hresult, hkv⟩

theorem counted_cons (c : ExpertCheck) (e : Env) (old : List Env) (t : Nat) :
    counted c t (e :: old) = counted c t old +
      if e.faults.get ∧ window c (e.nowMs / 1000) = window c t then 1 else 0 := by
  unfold counted
  rw [List.countP_cons]
  simp

/-- **The run.** In a window that has not ended KV holds the number of its checks whose read
succeeded, up to the limit. -/
theorem tracked_after (h : Steady setting c s limit checks) (hs : old <:+ checks)
    (hlive : ∀ e ∈ old, e.nowMs < endMs c t) :
    Tracked setting c limit (counted c t old) (after setting c s old).kv t := by
  induction old with
  | nil => exact .inl ⟨Nat.zero_min limit, h.unused t⟩
  | cons e old ih =>
    have hold := ih ((List.suffix_cons e old).trans hs)
      fun e' he' => hlive e' (List.mem_cons_of_mem e he')
    have hready := hold.keep (hlive e List.mem_cons_self) (h.kept e old hs)
    obtain ⟨-, hkv⟩ := h.perform_eq hs
    rw [hkv, counted_cons]
    by_cases hw : window c (e.nowMs / 1000) = window c t
    · cases hget : e.faults.get with
      | true =>
        rw [if_pos ⟨rfl, hw⟩]
        have hput := h.written e (hs.subset List.mem_cons_self)
        exact ((hready.of_window hw.symm).checked h.inRange hget hput).2.2.of_window hw
      | false =>
        rw [if_neg (fun hc => Bool.false_ne_true hc.1)]
        refine hready.of_eq ?_
        rw [(checkWindow_failed hget).2.2]
    · rw [if_neg (fun hc => hw hc.2)]
      exact hready.of_eq (checkWindow_other fun hkey => hw (window_of_key hkey).symm)

end

/-- **The first checks.** Of the checks for one key, at non-decreasing times and under one limit, in
every window the first ones whose read succeeds are admitted, up to the limit; a check whose read
fails is refused, is marked so and changes no counter; and no advertised wait ends after the
window. -/
theorem first_admitted (setting : Setting) (c : ExpertCheck) (s : Expert) (limit : Nat)
    (checks : List Env) (h : Steady setting c s limit checks) (e : Env) (old : List Env)
    (hs : e :: old <:+ checks) :
    (e.faults.get = true →
      (answer setting c s e old).allowed = decide (counted c (e.nowMs / 1000) old < limit) ∧
        (answer setting c s e old).readFailed = false) ∧
    (e.faults.get = false →
      (answer setting c s e old).allowed = false ∧ (answer setting c s e old).readFailed = true ∧
        (after setting c s (e :: old)).kv = e.meanwhile (after setting c s old).kv) ∧
    (answer setting c s e old).retryAfterSecs ≤
      window c (e.nowMs / 1000) + windowSecs c - e.nowMs / 1000 := by
  obtain ⟨hanswer, hkv⟩ := h.perform_eq hs
  refine ⟨?_, ?_, retry_le _ e⟩
  · intro hget
    have hlive : ∀ e' ∈ old, e'.nowMs < endMs c (e.nowMs / 1000) := by
      intro e' he'
      have hle := (List.pairwise_cons.mp (h.ordered.sublist hs.sublist)).1 e' he'
      exact Nat.lt_of_le_of_lt hle (nowMs_lt c e.nowMs)
    have htracked := tracked_after h ((List.suffix_cons e old).trans hs) hlive
    have hready := htracked.keep (nowMs_lt c e.nowMs) (h.kept e old hs)
    have hput := h.written e (hs.subset List.mem_cons_self)
    obtain ⟨hallowed, hfailed, -⟩ := hready.checked h.inRange hget hput
    rw [hanswer]
    exact ⟨hallowed, hfailed⟩
  · intro hget
    obtain ⟨hallowed, hfailed, hsame⟩ := checkWindow_failed hget
    rw [hanswer, hkv]
    exact ⟨hallowed, hfailed, hsame⟩

/-- The catch-all limiter at one address. -/
def sampleCheck : ExpertCheck := .catchall ⟨"a1b2", by decide⟩

def sampleSetting : Setting := ⟨fun text => text, ⟨fun _ => none, fun _ => none⟩, id⟩

/-- A check under a limit of one, with counters that are left alone in the meantime. -/
def sampleEnv (nowMs : Nat) (get : Bool) : Env :=
  ⟨fun _ => .error (), ⟨get, true⟩, 1, nowMs, id⟩

def sampleExpert : Expert := ⟨∅, fun _ => none⟩

theorem steady_sample {times : List (Nat × Bool)}
    (h : times.Pairwise fun later earlier => earlier.1 ≤ later.1) :
    Steady sampleSetting sampleCheck sampleExpert 1 (times.map fun t => sampleEnv t.1 t.2) := by
  refine ⟨?_, by decide, ?_, ?_, ?_, fun _ => rfl⟩
  · intro e old hs
    obtain ⟨t, -, rfl⟩ := List.mem_map.mp (hs.subset List.mem_cons_self)
    exact checkWindow_limit
  · intro e he
    obtain ⟨t, -, rfl⟩ := List.mem_map.mp he
    rfl
  · intro e old hs
    obtain ⟨t, -, rfl⟩ := List.mem_map.mp (hs.subset List.mem_cons_self)
    exact ⟨fun _ _ ends hsome _ => ⟨ends, hsome, Nat.le_refl _⟩, fun _ hnone => hnone⟩
  · exact List.pairwise_map.mpr h

/-- Under a limit of one: the second check is refused, also after one that could not read, and the
first of the next minute is admitted. -/
theorem first_admitted_minute :
    (answer sampleSetting sampleCheck sampleExpert (sampleEnv 2000 true)
        [sampleEnv 1000 false, sampleEnv 0 true]).allowed = false ∧
      (answer sampleSetting sampleCheck sampleExpert (sampleEnv 61000 true)
        [sampleEnv 2000 true, sampleEnv 1000 false, sampleEnv 0 true]).allowed = true := by
  have hsteady : Steady sampleSetting sampleCheck sampleExpert 1
      ([(61000, true), (2000, true), (1000, false), (0, true)].map fun t => sampleEnv t.1 t.2) :=
    steady_sample (by decide)
  constructor
  · have hsecond := first_admitted sampleSetting sampleCheck sampleExpert 1 _ hsteady
      (sampleEnv 2000 true) [sampleEnv 1000 false, sampleEnv 0 true] (List.suffix_cons _ _)
    exact (hsecond.1 rfl).1
  · have hthird := first_admitted sampleSetting sampleCheck sampleExpert 1 _ hsteady
      (sampleEnv 61000 true) [sampleEnv 2000 true, sampleEnv 1000 false, sampleEnv 0 true]
      (List.suffix_refl _)
    exact (hthird.1 rfl).1

end ExpertCheck

end QuotaWindows

end ProviiVerifier
