/-
  `storage/jwks.rs`: what the answers of `lookup_issuer` are worth, in every interleaving of
  lookups, refreshes and invalidations of one isolate.

  Proved:
    an issuer comes from what was published last, by a fetch that started after the last
    invalidation, no more than an hour before the lookup began (`issuer_fresh`);
    a key is unknown only when a complete listing had nothing for it that could be read, or when
    an invalidation interrupted the lookup's own refresh (`notFound_listed`);
    when complete listings are answered in the order their fetches started and have revoked
    entries last, what is published goes forward and a revocation in it is answered as one
    (`snapshots_forward`).

  Neither of the last two holds without its condition (`registered_notFound`,
  `snapshots_go_back`).
-/
import ProviiVerifier.IssuerRegistry

namespace ProviiVerifier

open Interleaving

namespace IssuerRegistry

variable {codec : RegistryCodec} {T₀ : Nat} {rule : World → Act → Prop} {w w' : World} {a : Act}
  {key : Bytes} {began : Nat} {issuer : RegisteredIssuer} {old : List Event}
  {r : Except ApiError RegisteredIssuer}

/-! ## A registry to replay runs with -/

namespace Sample

/-- The neutral point, a verification key that is accepted. -/
def vk : Bytes := 1 :: List.replicate 31 0

def keyHash : Bytes :=
  [47, 8, 201, 52, 243, 104, 240, 76, 236, 201, 86, 72, 211, 142, 147, 218,
    144, 114, 127, 50, 63, 42, 86, 92, 153, 216, 59, 207, 37, 109, 37, 140]

/-- A key that the registry has no issuer for. -/
def otherHash : Bytes := List.replicate 32 7

def verificationKey : String := "AQAAAAAAAAAAAAAAAAAAAAAAAAAAAAAAAAAAAAAAAAA"

/-- The text of the key's entry. -/
def entryText (revoked : Bool) : String :=
  "\x7b\"issuer_kid\":\"a\",\"issuer_key_hash\":\"\",\"verification_key\":\"" ++ verificationKey ++
    "\",\"organization_name\":\"A\",\"created_at\":1,\"revoked\":" ++
      (if revoked then "true" else "false") ++ "\x7d"

/-- The crates, as they are on these texts and this key. -/
def crates : RegistryCodec :=
  { parseEntry := fun text =>
      if text = entryText false then some ⟨"a", verificationKey, "A", false⟩
      else if text = entryText true then some ⟨"a", verificationKey, "A", true⟩
      else none
    base64UrlDecode := fun text => if text = verificationKey then some vk else none
    isSubgroupPoint := fun bytes => bytes = vk
    blake2s256 := fun bytes =>
      if bytes = utf8Bytes "provii.issuer.vk.v0" ++ vk then keyHash else List.replicate 32 0 }

def issuerA (revoked : Bool) : RegisteredIssuer := ⟨⟨"a", revoked⟩, "A", vk⟩

def clock : Nat := 1700000000

/-- The registry with one entry for the key. -/
def listing (revoked : Bool) : Fetch :=
  .listed true [("issuer:a", .value (entryText revoked))]

/-- The log after acts, in their order. -/
def logOf (as : List Act) : List Event :=
  ((isolate crates clock fun _ _ => True).run (.start clock) as).log

theorem reached (as : List Act) : (isolate crates clock fun _ _ => True).Reached
    ((isolate crates clock fun _ _ => True).run (.start clock) as) :=
  System.Reached.run (.init rfl) (System.permits_of_allowed (fun _ _ => trivial) _ as)

end Sample

/-! ## Freshness -/

/-- The issuer is one of what was published last and not invalidated since, by a fetch that
started after the last invalidation, at most `hardMaxCacheTtlSecs` before the lookup began. -/
def FreshIssuer (codec : RegistryCodec) (key : Bytes) (began : Nat) (issuer : RegisteredIssuer)
    (old : List Event) : Prop :=
  ∃ n time answer, current old = some (n, time, answer) ∧
    snapshot codec answer key = some issuer ∧ StartedSinceInvalidate n old ∧
      began ≤ time + hardMaxCacheTtlSecs

def FreshAnswer (codec : RegistryCodec) : Event → List Event → Prop
  | .answered key began (.ok issuer), old => FreshIssuer codec key began issuer old
  | _, _ => True

theorem find_ok {c : JwksCache} (h : c.find key = .ok issuer) : c.cache key = some issuer := by
  unfold JwksCache.find at h
  split at h
  · next hcache =>
    injection h with h
    rw [hcache, h]
  · cases h

theorem findDegraded_ok {c : JwksCache} (h : c.findDegraded began key = .ok issuer) :
    c.cache key = some issuer ∧ began - c.lastRefresh ≤ hardMaxCacheTtlSecs := by
  unfold JwksCache.findDegraded at h
  split at h
  · cases h
  · next hmax =>
    split at h
    · next hcache =>
      injection h with h
      refine ⟨by rw [hcache, h], ?_⟩
      simp only [JwksCache.isBeyondHardMax, Bool.or_eq_true, decide_eq_true_eq, not_or] at hmax
      omega
    · cases h

/-- A cached issuer is one of what was published last. -/
theorem Coherent.of_cache (h : Coherent codec w') (hlog : w'.log = .answered key began r :: old)
    (hcache : w'.jwks.cache key = some issuer) :
    ∃ n time answer, current old = some (n, time, answer) ∧
      snapshot codec answer key = some issuer ∧ StartedSinceInvalidate n old ∧
        w'.jwks.lastRefresh = time := by
  have hold : current w'.log = current old := by
    rw [hlog]
    rfl
  cases hcurrent : current old with
  | none =>
    rw [(h.empty (hold.trans hcurrent)).1] at hcache
    cases hcache
  | some p =>
    obtain ⟨n, time, answer⟩ := p
    obtain ⟨hsnapshot, htime⟩ := h.cached n time answer (hold.trans hcurrent)
    have hpublished : Always PublishedFetch old := (hlog ▸ h.published).2
    refine ⟨n, time, answer, rfl, ?_, (published_of_current hpublished hcurrent).2.2, htime⟩
    rw [← hsnapshot]
    exact hcache

/-- What an answered fetch leaves is no older than the lookup that waited for it. -/
theorem Coherent.began_le {n epochBefore m time : Nat} {reads : List (String × EntryRead)}
    {answer : Fetch} (h : Coherent codec w)
    (hr : w.suspended n = some (.lookup key began epochBefore))
    (hcurrent : current (w.fetchedEvents n (.lookup key began epochBefore) (.listed true reads) ++
      w.log) = some (m, time, answer)) : began ≤ time := by
  have hflight := h.inFlight n _ hr
  by_cases hp : w.Publishes epochBefore (.listed true reads)
  · rw [fetchedEvents_publishes (r := .lookup key began epochBefore) hp] at hcurrent
    injection hcurrent with hcurrent
    injection hcurrent with _ hcurrent
    injection hcurrent with htime _
    rw [← htime]
    exact hflight.1
  · have hepoch : w.jwks.epoch ≠ epochBefore := fun heq => hp ⟨heq, reads, rfl⟩
    rw [fetchedEvents_keeps (r := .lookup key began epochBefore) hp] at hcurrent
    exact hflight.began_le_current hepoch hcurrent

/-- A fetch that is answered does not answer a lookup. -/
theorem always_fetchedEvents {P : Event → List Event → Prop} {n : Nat} {ref : Refresh}
    {answer : Fetch} (h : Always P w.log) (hfetched : ∀ log, P (.fetched n answer) log)
    (hpublished : ∀ log, P (.published n w.clock answer) log) :
    Always P (w.fetchedEvents n ref answer ++ w.log) := by
  unfold World.fetchedEvents
  split
  · exact ⟨hpublished _, hfetched _, h⟩
  · exact ⟨hfetched _, h⟩

theorem freshAnswer_step (h : Coherent codec w) (hlog : Always (FreshAnswer codec) w.log)
    (a : Act) : Always (FreshAnswer codec) (step codec w a).log := by
  obtain ⟨new, hsplit, happends⟩ := step_log codec w a
  have hcoherent := h.step a
  -- an answer the cache or the degraded cache gives is fresh when its age is bounded
  have hfresh : ∀ key began r old, (step codec w a).log = .answered key began r :: old →
      (∀ issuer, r = .ok issuer → (step codec w a).jwks.cache key = some issuer ∧
        ∀ n time answer, current old = some (n, time, answer) →
          (step codec w a).jwks.lastRefresh = time → began ≤ time + hardMaxCacheTtlSecs) →
      FreshAnswer codec (.answered key began r) old := by
    intro key began r old hlog' hage
    cases r with
    | error e => trivial
    | ok issuer =>
      obtain ⟨hcache, hage⟩ := hage issuer rfl
      obtain ⟨n, time, answer, hcurrent, hsnapshot, hstarted, htime⟩ :=
        hcoherent.of_cache hlog' hcache
      exact ⟨n, time, answer, hcurrent, hsnapshot, hstarted, hage n time answer hcurrent htime⟩
  rw [hsplit]
  cases happends with
  | nothing => exact hlog
  | fetch => exact ⟨trivial, hlog⟩
  | invalidated => exact ⟨trivial, hlog⟩
  | found hage =>
    refine ⟨hfresh _ _ _ _ hsplit ?_, hlog⟩
    intro issuer hok
    refine ⟨find_ok hok, ?_⟩
    intro n time answer _ htime
    simp only [staleCacheTtlSecs, hardMaxCacheTtlSecs] at hage ⊢
    omega
  | degraded =>
    refine ⟨hfresh _ _ _ _ hsplit ?_, hlog⟩
    intro issuer hok
    obtain ⟨hcache, hage⟩ := findDegraded_ok hok
    refine ⟨hcache, ?_⟩
    intro n time answer _ htime
    omega
  | fetched hr ha => exact always_fetchedEvents hlog (fun _ => trivial) fun _ => trivial
  | foundFetched hr ha =>
    refine ⟨hfresh _ _ _ _ hsplit ?_, always_fetchedEvents hlog (fun _ => trivial) fun _ => trivial⟩
    intro issuer hok
    refine ⟨find_ok hok, ?_⟩
    intro n time answer hcurrent _
    exact Nat.le_trans (h.began_le hr hcurrent) (Nat.le_add_right _ _)
  | degradedFetched hr ha =>
    refine ⟨hfresh _ _ _ _ hsplit ?_, always_fetchedEvents hlog (fun _ => trivial) fun _ => trivial⟩
    intro issuer hok
    obtain ⟨hcache, hage⟩ := findDegraded_ok hok
    refine ⟨hcache, ?_⟩
    intro n time answer _ htime
    omega

/-- **Freshness.** Every issuer a lookup answers comes from a snapshot whose fetch started after
the last invalidation and that was published at most an hour before the lookup began. -/
theorem issuer_fresh (codec : RegistryCodec) (T₀ : Nat) (w : World)
    (hr : (isolate codec T₀ fun _ _ => True).Reached w) (key : Bytes) (began : Nat)
    (issuer : RegisteredIssuer) (old : List Event)
    (hs : .answered key began (.ok issuer) :: old <:+ w.log) :
    FreshIssuer codec key began issuer old := by
  have hlog : Always (FreshAnswer codec) w.log := by
    refine hr.invariant (I := fun w => Always (FreshAnswer codec) w.log) ?_ ?_
    · rintro w rfl
      trivial
    · intro w a hr' hlog _
      exact freshAnswer_step (coherent hr') hlog a
  exact hlog.of_suffix hs

theorem issuer_fresh_lookup :
    ∃ w old, (isolate Sample.crates Sample.clock fun _ _ => True).Reached w ∧
      .answered Sample.keyHash Sample.clock (.ok (Sample.issuerA false)) :: old <:+ w.log ∧
        FreshIssuer Sample.crates Sample.keyHash Sample.clock (Sample.issuerA false) old := by
  have hr := Sample.reached [.lookupIssuer Sample.keyHash true, .resume 0 (Sample.listing false)]
  have hs : .answered Sample.keyHash Sample.clock (.ok (Sample.issuerA false)) ::
      [.published 0 Sample.clock (Sample.listing false), .fetched 0 (Sample.listing false),
        .fetch 0] <:+ Sample.logOf
          [.lookupIssuer Sample.keyHash true, .resume 0 (Sample.listing false)] := by
    decide +kernel
  exact ⟨_, _, hr, hs, issuer_fresh _ _ _ hr _ _ _ _ hs⟩

/-! ## Unknown issuers -/

/-- The issuers a fetch has for a key, in the order of its listing: what can be read and parsed. -/
def registered (codec : RegistryCodec) (answer : Fetch) (key : Bytes) : List RegisteredIssuer :=
  match fetchFromKv codec answer with
  | .ok entries => (entries.filterMap codec.issuer).filterMap fun p =>
      if p.1 = key then some p.2 else none
  | .error _ => []

/-- The lookup that answers next waited for a fetch during which an invalidation arrived, and
nothing was published since. -/
def Interrupted (old : List Event) : Prop :=
  current old = none ∧ ∃ n answer recent older,
    old = .fetched n answer :: (recent ++ .fetch n :: older) ∧ .invalidated ∈ recent

/-- A complete listing had nothing for the key that could be read. -/
def ListedWithout (codec : RegistryCodec) (key : Bytes) (old : List Event) : Prop :=
  ∃ n reads, .fetched n (.listed true reads) ∈ old ∧
    registered codec (.listed true reads) key = []

/-- The read of an entry was answered. -/
def EntryRead.served : EntryRead → Bool
  | .value _ | .missing => true
  | .failed | .timedOut => false

/-- A complete listing, all of whose entries were read, had nothing for the key. -/
def ListedFullyWithout (codec : RegistryCodec) (key : Bytes) (old : List Event) : Prop :=
  ∃ n reads, .fetched n (.listed true reads) ∈ old ∧
    (∀ entry ∈ reads, EntryRead.served entry.2 = true) ∧
      registered codec (.listed true reads) key = []

def TrustedNotFound (codec : RegistryCodec) : Event → List Event → Prop
  | .answered key _ (.error .notFound), old => ¬ Interrupted old → ListedWithout codec key old
  | _, _ => True

/-- The last of the entries of a key is cached. -/
theorem newCache_eq (codec : RegistryCodec) (entries : List IssuerRegistryEntry) (key : Bytes) :
    newCache codec entries key = ((entries.filterMap codec.issuer).filterMap fun p =>
      if p.1 = key then some p.2 else none).getLast? := by
  induction entries using List.reverseRecOn with
  | nil => rfl
  | append_singleton entries entry ih =>
    have hstep : newCache codec (entries ++ [entry]) =
        (codec.issuer entry).elim (newCache codec entries)
          fun p => Function.update (newCache codec entries) p.1 (some p.2) := by
      rw [newCache, List.foldl_append]
      cases h : codec.issuer entry with
      | none => simp [newCache, h]
      | some p => simp [newCache, h]
    rw [hstep]
    cases hentry : codec.issuer entry with
    | none => simp [hentry, ih]
    | some p =>
      obtain ⟨hash, issuer⟩ := p
      by_cases hkey : key = hash
      · subst hkey
        simp [hentry]
      · simp [hentry, hkey, Ne.symm hkey, ih]

theorem snapshot_eq (codec : RegistryCodec) (answer : Fetch) (key : Bytes) :
    snapshot codec answer key = (registered codec answer key).getLast? := by
  unfold snapshot registered
  cases fetchFromKv codec answer with
  | ok entries => exact newCache_eq codec entries key
  | error e => rfl

theorem find_notFound {c : JwksCache} (h : c.find key = .error .notFound) :
    c.cache key = none := by
  unfold JwksCache.find at h
  split at h
  · cases h
  · next hcache => exact hcache

theorem findDegraded_ne_notFound {c : JwksCache} : c.findDegraded began key ≠ .error .notFound := by
  intro h
  unfold JwksCache.findDegraded at h
  split at h
  · injection h with h
    cases h
  · split at h
    · cases h
    · injection h with h
      cases h

/-- What is missing from the cache was missing from what was published last, if anything was. -/
theorem Coherent.of_missing (h : Coherent codec w') (hlog : w'.log = .answered key began r :: old)
    (hcache : w'.jwks.cache key = none) :
    current old = none ∧ w'.jwks.lastRefresh = 0 ∨ ListedWithout codec key old := by
  have hold : current w'.log = current old := by
    rw [hlog]
    rfl
  cases hcurrent : current old with
  | none => exact .inl ⟨rfl, (h.empty (hold.trans hcurrent)).2⟩
  | some p =>
    obtain ⟨n, time, answer⟩ := p
    have hpublished : Always PublishedFetch old := (hlog ▸ h.published).2
    obtain ⟨⟨reads, rfl⟩, hfetched, -⟩ := published_of_current hpublished hcurrent
    rw [(h.cached n time _ (hold.trans hcurrent)).1, snapshot_eq] at hcache
    exact .inr ⟨n, reads, hfetched, List.getLast?_eq_none_iff.mp hcache⟩

theorem trustedNotFound_step (h : Coherent codec w) (hclock : staleCacheTtlSecs < w.clock)
    (hlog : Always (TrustedNotFound codec) w.log) (a : Act) :
    Always (TrustedNotFound codec) (step codec w a).log := by
  obtain ⟨new, hsplit, happends⟩ := step_log codec w a
  have hcoherent := h.step a
  have hfound : ∀ key began old,
      (step codec w a).log = .answered key began ((step codec w a).jwks.find key) :: old →
      (current old = none ∧ (step codec w a).jwks.lastRefresh = 0 → Interrupted old) →
      TrustedNotFound codec (.answered key began ((step codec w a).jwks.find key)) old := by
    intro key began old hlog' hempty
    cases hfind : (step codec w a).jwks.find key with
    | ok issuer => trivial
    | error e =>
      cases e with
      | notFound =>
        intro hslip
        rcases hcoherent.of_missing hlog' (find_notFound hfind) with hnone | hlisted
        · exact absurd (hempty hnone) hslip
        · exact hlisted
      | _ => trivial
  have hdegraded : ∀ key began old,
      TrustedNotFound codec (.answered key began ((step codec w a).jwks.findDegraded began key))
        old := by
    intro key began old
    cases hfind : (step codec w a).jwks.findDegraded began key with
    | ok issuer => trivial
    | error e =>
      cases e with
      | notFound => exact absurd hfind findDegraded_ne_notFound
      | _ => trivial
  rw [hsplit]
  cases happends with
  | nothing => exact hlog
  | fetch => exact ⟨trivial, hlog⟩
  | invalidated => exact ⟨trivial, hlog⟩
  | found hage =>
    refine ⟨hfound _ _ _ hsplit ?_, hlog⟩
    -- an empty cache is never young
    intro hempty
    omega
  | degraded => exact ⟨hdegraded _ _ _, hlog⟩
  | fetched hr ha => exact always_fetchedEvents hlog (fun _ => trivial) fun _ => trivial
  | @foundFetched n key began epochBefore reads hr ha =>
    refine ⟨hfound _ _ _ hsplit ?_, always_fetchedEvents hlog (fun _ => trivial) fun _ => trivial⟩
    rintro ⟨hnone, -⟩
    by_cases hp : w.Publishes epochBefore (.listed true reads)
    · rw [fetchedEvents_publishes (r := .lookup key began epochBefore) hp] at hnone
      cases hnone
    · -- a refresh that is discarded was interrupted
      have hepoch : w.jwks.epoch ≠ epochBefore := fun heq => hp ⟨heq, reads, rfl⟩
      obtain ⟨-, recent, older, hlog', hcount, -⟩ := h.inFlight n _ hr
      have hcount : w.jwks.epoch = epochBefore + recent.count .invalidated := hcount
      have hpos : 0 < recent.count .invalidated := by omega
      show Interrupted (w.fetchedEvents n (.lookup key began epochBefore) _ ++ w.log)
      refine ⟨hnone, ?_⟩
      rw [fetchedEvents_keeps (r := .lookup key began epochBefore) hp]
      exact ⟨n, _, recent, older, by rw [hlog']; rfl, List.count_pos_iff.mp hpos⟩
  | degradedFetched hr ha =>
    exact ⟨hdegraded _ _ _, always_fetchedEvents hlog (fun _ => trivial) fun _ => trivial⟩

theorem clock_mono (codec : RegistryCodec) (w : World) (a : Act) :
    w.clock ≤ (step codec w a).clock := by
  cases a with
  | tick seconds => exact Nat.le_add_right _ _
  | lookupIssuer key context =>
    simp only [step]
    unfold World.lookupIssuer
    split
    · exact Nat.le_refl _
    · split
      · split <;> exact Nat.le_refl _
      · split
        · exact Nat.le_refl _
        · cases context <;> exact Nat.le_refl _
  | startBackground =>
    simp only [step]
    unfold World.startBackground
    split
    · exact Nat.le_refl _
    · split <;> exact Nat.le_refl _
  | prewarm => exact Nat.le_refl _
  | resume n answer =>
    simp only [step]
    unfold World.resume
    split
    · exact Nat.le_refl _
    · next r _ => cases r <;> exact Nat.le_refl _
  | invalidate => exact Nat.le_refl _
  | cancel n =>
    simp only [step]
    unfold World.cancel
    split <;> exact Nat.le_refl _
  | cancelQueued => exact Nat.le_refl _

/-- **Unknown issuers.** A key is answered as unknown only when a complete listing had nothing for
it that could be read, or when an invalidation interrupted the refresh the lookup waited for. -/
theorem notFound_listed (codec : RegistryCodec) (T₀ : Nat) (hT₀ : staleCacheTtlSecs < T₀)
    (w : World) (hr : (isolate codec T₀ fun _ _ => True).Reached w) (key : Bytes) (began : Nat)
    (old : List Event) (hs : .answered key began (.error .notFound) :: old <:+ w.log)
    (hslip : ¬ Interrupted old) : ListedWithout codec key old := by
  have hlog : Always (TrustedNotFound codec) w.log ∧ T₀ ≤ w.clock := by
    refine hr.invariant (I := fun w => Always (TrustedNotFound codec) w.log ∧ T₀ ≤ w.clock) ?_ ?_
    · rintro w rfl
      exact ⟨trivial, Nat.le_refl _⟩
    · intro w a hr' ⟨hlog, hclock⟩ _
      exact ⟨trustedNotFound_step (coherent hr') (Nat.lt_of_lt_of_le hT₀ hclock) hlog a,
        Nat.le_trans hclock (clock_mono codec w a)⟩
  exact hlog.1.of_suffix hs hslip

/-- Two lookups wait for one listing each, which has an issuer for the key of the first only. -/
theorem notFound_listed_other :
    ∃ w old, (isolate Sample.crates Sample.clock fun _ _ => True).Reached w ∧
      .answered Sample.otherHash Sample.clock (.error .notFound) :: old <:+ w.log ∧
        .answered Sample.keyHash Sample.clock (.ok (Sample.issuerA false)) ∈ old ∧
          ListedWithout Sample.crates Sample.otherHash old := by
  have hr := Sample.reached [.lookupIssuer Sample.keyHash true,
    .lookupIssuer Sample.otherHash true, .resume 0 (Sample.listing false),
    .resume 1 (Sample.listing false)]
  have hs : .answered Sample.otherHash Sample.clock (.error .notFound) ::
      [.published 1 Sample.clock (Sample.listing false), .fetched 1 (Sample.listing false),
        .answered Sample.keyHash Sample.clock (.ok (Sample.issuerA false)),
        .published 0 Sample.clock (Sample.listing false), .fetched 0 (Sample.listing false),
        .fetch 1, .fetch 0] <:+
        Sample.logOf [.lookupIssuer Sample.keyHash true, .lookupIssuer Sample.otherHash true,
          .resume 0 (Sample.listing false), .resume 1 (Sample.listing false)] := by
    decide +kernel
  refine ⟨_, _, hr, hs, by simp, notFound_listed _ _ (by decide) _ hr _ _ _ hs ?_⟩
  rintro ⟨hnone, -⟩
  cases hnone

/-- A registered issuer is unknown when its entry cannot be read, and when an invalidation arrives
while the registry is fetched. -/
theorem registered_notFound :
    (∃ w old, (isolate Sample.crates Sample.clock fun _ _ => True).Reached w ∧
      .answered Sample.keyHash Sample.clock (.error .notFound) :: old <:+ w.log ∧
        ¬ ListedFullyWithout Sample.crates Sample.keyHash old) ∧
    (∃ w old, (isolate Sample.crates Sample.clock fun _ _ => True).Reached w ∧
      .answered Sample.keyHash Sample.clock (.error .notFound) :: old <:+ w.log ∧
        ¬ ListedFullyWithout Sample.crates Sample.keyHash old ∧
          ∀ n reads, .fetched n (.listed true reads) ∈ old →
            ∀ entry ∈ reads, EntryRead.served entry.2 = true) := by
  refine ⟨?_, ?_⟩
  · have hs : .answered Sample.keyHash Sample.clock (.error .notFound) ::
        [.published 0 Sample.clock (.listed true [("issuer:a", .failed)]),
          .fetched 0 (.listed true [("issuer:a", .failed)]), .fetch 0] <:+
          Sample.logOf [.lookupIssuer Sample.keyHash true,
            .resume 0 (.listed true [("issuer:a", .failed)])] := by
      decide +kernel
    refine ⟨_, _, Sample.reached _, hs, ?_⟩
    rintro ⟨n, reads, hm, hserved, -⟩
    simp only [List.mem_cons, reduceCtorEq, Event.fetched.injEq, Fetch.listed.injEq, true_and,
      List.not_mem_nil, or_false, false_or] at hm
    rw [hm.2] at hserved
    exact absurd (hserved _ List.mem_cons_self) (by decide)
  · have hs : .answered Sample.keyHash Sample.clock (.error .notFound) ::
        [.fetched 0 (Sample.listing false), .invalidated, .fetch 0] <:+
          Sample.logOf [.lookupIssuer Sample.keyHash true, .invalidate,
            .resume 0 (Sample.listing false)] := by
      decide +kernel
    have hreads : ∀ n reads, .fetched n (.listed true reads) ∈
        [.fetched 0 (Sample.listing false), .invalidated, Event.fetch 0] →
        reads = [("issuer:a", .value (Sample.entryText false))] := by
      intro n reads hm
      simp only [Sample.listing, List.mem_cons, reduceCtorEq, Event.fetched.injEq,
        Fetch.listed.injEq, true_and, List.not_mem_nil, or_false] at hm
      exact hm.2
    refine ⟨_, _, Sample.reached _, hs, ?_, ?_⟩
    · rintro ⟨n, reads, hm, -, hnone⟩
      rw [hreads n reads hm] at hnone
      revert hnone
      decide +kernel
    · intro n reads hm entry hentry
      rw [hreads n reads hm, List.mem_singleton] at hentry
      rw [hentry]
      rfl

/-! ## Order and revocation -/

/-- The fetch `n` started before the fetch `m`. -/
def StartedBefore (log : List Event) (n m : Nat) : Prop :=
  ∃ old, .fetch m :: old <:+ log ∧ .fetch n ∈ old

/-- What is published after a snapshot was not fetched from an earlier time. -/
def Forward : Event → List Event → Prop
  | .published n _ _, old => ∀ m time answer, .published m time answer ∈ old →
      ¬ StartedBefore old n m
  | _, _ => True

/-- An issuer is not answered as unrevoked from a snapshot that has a revoked entry for it. -/
def Sticky (codec : RegistryCodec) : Event → List Event → Prop
  | .answered key _ (.ok issuer), old => ∀ n time answer, current old = some (n, time, answer) →
      (∃ i ∈ registered codec answer key, i.revoked = true) → issuer.revoked = true
  | _, _ => True

/-- A complete listing is not answered after one whose fetch started later. -/
def InOrder (w : World) (a : Act) : Prop :=
  ∀ n reads, a = .resume n (.listed true reads) →
    ∀ m reads', .fetched m (.listed true reads') ∈ w.log → ¬ StartedBefore w.log n m

/-- Of the entries a fetch lists for a key, the last is revoked when one of them is. -/
def RevokedLast (codec : RegistryCodec) (answer : Fetch) : Prop :=
  ∀ key issuer, (registered codec answer key).getLast? = some issuer →
    (∃ i ∈ registered codec answer key, i.revoked = true) → issuer.revoked = true

/-- Complete listings are answered in their order, and every answer lists revoked entries last. -/
def Orderly (codec : RegistryCodec) (w : World) (a : Act) : Prop :=
  InOrder w a ∧ ∀ n answer, a = .resume n answer → RevokedLast codec answer

/-- What was fetched lists revoked entries last. -/
def FetchedRevokedLast (codec : RegistryCodec) (log : List Event) : Prop :=
  ∀ n answer, .fetched n answer ∈ log → RevokedLast codec answer

theorem always_published_fetched {log : List Event} (h : Always PublishedFetch log) {n time : Nat}
    {answer : Fetch} (hm : .published n time answer ∈ log) :
    (∃ reads, answer = .listed true reads) ∧ .fetched n answer ∈ log := by
  obtain ⟨new, old, rfl⟩ := List.append_of_mem hm
  obtain ⟨hlisted, hfetched, -⟩ := h.of_suffix (List.suffix_append new _)
  exact ⟨hlisted, List.mem_append_right _ (List.mem_cons_of_mem _ hfetched)⟩

theorem startedBefore_fetched {log : List Event} {k n m : Nat} {answer : Fetch}
    (h : StartedBefore (.fetched k answer :: log) n m) : StartedBefore log n m := by
  obtain ⟨old, hs, hm⟩ := h
  rcases List.suffix_cons_iff.mp hs with heq | hs
  · cases heq
  · exact ⟨old, hs, hm⟩

/-- The log of an answered fetch goes forward when complete listings are answered in order. -/
theorem forward_fetchedEvents {n : Nat} {ref : Refresh} {answer : Fetch} (h : Coherent codec w)
    (horder : InOrder w (.resume n answer)) (hlog : Always Forward w.log) :
    Always Forward (w.fetchedEvents n ref answer ++ w.log) := by
  unfold World.fetchedEvents
  split
  · next hpublishes =>
    obtain ⟨-, reads, rfl⟩ := hpublishes
    refine ⟨?_, trivial, hlog⟩
    intro m time answer' hm hstarted
    have hm : .published m time answer' ∈ w.log := by
      rcases List.mem_cons.mp hm with heq | hm
      · cases heq
      · exact hm
    obtain ⟨⟨reads', rfl⟩, hfetched⟩ := always_published_fetched h.published hm
    exact horder n reads rfl m reads' hfetched (startedBefore_fetched hstarted)
  · exact ⟨trivial, hlog⟩

theorem forward_step (h : Coherent codec w) (horder : InOrder w a)
    (hlog : Always Forward w.log) : Always Forward (step codec w a).log := by
  obtain ⟨new, hsplit, happends⟩ := step_log codec w a
  rw [hsplit]
  cases happends with
  | nothing => exact hlog
  | fetch => exact ⟨trivial, hlog⟩
  | invalidated => exact ⟨trivial, hlog⟩
  | found hage => exact ⟨trivial, hlog⟩
  | degraded => exact ⟨trivial, hlog⟩
  | fetched hr ha =>
    subst ha
    exact forward_fetchedEvents h horder hlog
  | foundFetched hr ha =>
    subst ha
    exact ⟨trivial, forward_fetchedEvents h horder hlog⟩
  | degradedFetched hr ha =>
    subst ha
    exact ⟨trivial, forward_fetchedEvents h horder hlog⟩

theorem fetchedRevokedLast_step
    (hlast : ∀ n answer, a = .resume n answer → RevokedLast codec answer)
    (hlog : FetchedRevokedLast codec w.log) : FetchedRevokedLast codec (step codec w a).log := by
  obtain ⟨new, hsplit, happends⟩ := step_log codec w a
  rw [hsplit]
  have hevents : ∀ n ref answer, a = .resume n answer →
      FetchedRevokedLast codec (w.fetchedEvents n ref answer ++ w.log) := by
    intro n ref answer ha m answer' hm
    unfold World.fetchedEvents at hm
    split at hm <;> simp only [List.cons_append, List.nil_append, List.mem_cons, reduceCtorEq,
      Event.fetched.injEq, false_or] at hm
    all_goals
      rcases hm with ⟨-, rfl⟩ | hm
      · exact hlast n answer' ha
      · exact hlog m answer' hm
  have hcons : ∀ e log, FetchedRevokedLast codec log → (∀ n answer, e ≠ .fetched n answer) →
      FetchedRevokedLast codec (e :: log) := by
    intro e log hlog hne n answer hm
    rcases List.mem_cons.mp hm with heq | hm
    · exact absurd heq.symm (hne n answer)
    · exact hlog n answer hm
  cases happends with
  | nothing => exact hlog
  | fetch => exact hcons _ _ hlog (by simp)
  | invalidated => exact hcons _ _ hlog (by simp)
  | found hage => exact hcons _ _ hlog (by simp)
  | degraded => exact hcons _ _ hlog (by simp)
  | fetched hr ha => exact hevents _ _ _ ha
  | foundFetched hr ha => exact hcons _ _ (hevents _ _ _ ha) (by simp)
  | degradedFetched hr ha => exact hcons _ _ (hevents _ _ _ ha) (by simp)

/-- A fresh answer does not forget a revocation that is listed last. -/
theorem FreshIssuer.sticky (hpublished : Always PublishedFetch old)
    (hlast : FetchedRevokedLast codec old) (h : FreshIssuer codec key began issuer old) :
    Sticky codec (.answered key began (.ok issuer)) old := by
  intro n time answer hcurrent hrevoked
  obtain ⟨n', time', answer', hcurrent', hsnapshot, -, -⟩ := h
  rw [hcurrent] at hcurrent'
  injection hcurrent' with hcurrent'
  injection hcurrent' with _ hcurrent'
  injection hcurrent' with _ hanswer
  subst hanswer
  obtain ⟨-, hfetched, -⟩ := published_of_current hpublished hcurrent
  rw [snapshot_eq] at hsnapshot
  exact hlast n answer hfetched key issuer hsnapshot hrevoked

/-- **Order and revocation.** When complete listings are answered in the order in which their
fetches started, and every answer lists revoked entries last, published snapshots go forward and a
revoked issuer is not answered as unrevoked. -/
theorem snapshots_forward (codec : RegistryCodec) (T₀ : Nat) (w : World)
    (hr : (isolate codec T₀ (Orderly codec)).Reached w) :
    (∀ n time answer old, .published n time answer :: old <:+ w.log →
      ∀ m time' answer', .published m time' answer' ∈ old → ¬ StartedBefore old n m) ∧
    (∀ key began issuer old, .answered key began (.ok issuer) :: old <:+ w.log →
      ∀ n time answer, current old = some (n, time, answer) →
        (∃ i ∈ registered codec answer key, i.revoked = true) → issuer.revoked = true) := by
  have hall : Always Forward w.log ∧ FetchedRevokedLast codec w.log ∧
      Always (FreshAnswer codec) w.log := by
    refine hr.invariant (I := fun w => Always Forward w.log ∧ FetchedRevokedLast codec w.log ∧
      Always (FreshAnswer codec) w.log) ?_ ?_
    · rintro w rfl
      exact ⟨trivial, fun _ _ hm => absurd hm List.not_mem_nil, trivial⟩
    · intro w a hr' ⟨hforward, hlast, hfresh⟩ ⟨horder, ha⟩
      exact ⟨forward_step (coherent hr') horder hforward, fetchedRevokedLast_step ha hlast,
        freshAnswer_step (coherent hr') hfresh a⟩
  obtain ⟨hforward, hlast, hfresh⟩ := hall
  refine ⟨fun n time answer old hs => hforward.of_suffix hs, ?_⟩
  intro key began issuer old hs
  have hold : old <:+ w.log := (List.suffix_cons _ _).trans hs
  exact FreshIssuer.sticky ((coherent hr).published.suffix hold)
    (fun n answer hm => hlast n answer (hold.subset hm)) (hfresh.of_suffix hs)

namespace Sample

theorem revokedLast_listing : RevokedLast crates (listing true) := by
  intro key issuer hlast _
  have hall : ∀ i ∈ registered crates (listing true) key, i.revoked = true := by
    have hone : registered crates (listing true) key =
        if keyHash = key then [issuerA true] else [] := by
      have hissuers : (match fetchFromKv crates (listing true) with
          | .ok entries => entries.filterMap crates.issuer
          | .error _ => []) = [(keyHash, issuerA true)] := by decide +kernel
      unfold registered
      revert hissuers
      cases fetchFromKv crates (listing true) with
      | error e => exact fun h => nomatch h
      | ok entries =>
        intro hissuers
        simp only at hissuers ⊢
        rw [hissuers]
        by_cases hkey : keyHash = key
        · simp [hkey]
        · simp [hkey]
    rw [hone]
    split
    · intro i hi
      rw [List.mem_singleton.mp hi]
      rfl
    · exact fun i hi => absurd hi List.not_mem_nil
  exact hall issuer (List.mem_of_getLast? hlast)

/-- What a lookup over an empty cache answers when its fetch failed. -/
def unavailable : ApiError :=
  .internal "Issuer registry unavailable: cache expired beyond hard maximum"

theorem revokedLast_listFailed (e : String) : RevokedLast crates (.listFailed e) := nofun

/-- The fetch of the second lookup fails before the first one's finds the issuer revoked. -/
def revokedLookup : List Act :=
  [.lookupIssuer keyHash true, .lookupIssuer keyHash true, .resume 1 (.listFailed "KV"),
    .resume 0 (listing true)]

theorem reached_revokedLookup : (isolate crates clock (Orderly crates)).Reached
    ((isolate crates clock (Orderly crates)).run (.start clock) revokedLookup) := by
  refine System.Reached.run (.init rfl)
    ⟨⟨nofun, nofun⟩, ⟨nofun, nofun⟩, ⟨nofun, ?_⟩, ⟨?_, ?_⟩, trivial⟩
  · intro n answer ha
    injection ha with _ ha
    rw [← ha]
    exact revokedLast_listFailed "KV"
  · intro n reads _ m reads' hm
    have hlog : ((isolate crates clock (Orderly crates)).run (.start clock)
        [.lookupIssuer keyHash true, .lookupIssuer keyHash true,
          .resume 1 (.listFailed "KV")]).log =
        [.answered keyHash clock (.error unavailable), .fetched 1 (.listFailed "KV"), .fetch 1,
          .fetch 0] := by
      decide +kernel
    have hm : .fetched m (.listed true reads') ∈ ((isolate crates clock (Orderly crates)).run
        (.start clock) [.lookupIssuer keyHash true, .lookupIssuer keyHash true,
          .resume 1 (.listFailed "KV")]).log := hm
    rw [hlog] at hm
    simp at hm
  · intro n answer ha
    injection ha with _ ha
    rw [← ha]
    exact revokedLast_listing

end Sample

theorem snapshots_forward_revoked :
    ∃ w, (isolate Sample.crates Sample.clock (Orderly Sample.crates)).Reached w ∧
      .published 0 Sample.clock (Sample.listing true) ∈ w.log ∧
        .fetched 1 (.listFailed "KV") ∈ w.log ∧
          ∀ key began issuer old, .answered key began (.ok issuer) :: old <:+ w.log →
            ∀ n time answer, current old = some (n, time, answer) →
              (∃ i ∈ registered Sample.crates answer key, i.revoked = true) →
                issuer.revoked = true := by
  have hlog : ((isolate Sample.crates Sample.clock (Orderly Sample.crates)).run
      (.start Sample.clock) Sample.revokedLookup).log =
      [.answered Sample.keyHash Sample.clock (.ok (Sample.issuerA true)),
        .published 0 Sample.clock (Sample.listing true), .fetched 0 (Sample.listing true),
        .answered Sample.keyHash Sample.clock (.error Sample.unavailable),
        .fetched 1 (.listFailed "KV"), .fetch 1, .fetch 0] := by
    decide +kernel
  refine ⟨_, Sample.reached_revokedLookup, ?_, ?_,
    (snapshots_forward _ _ _ Sample.reached_revokedLookup).2⟩
  · rw [hlog]
    simp
  · rw [hlog]
    simp

/-- A fetch that started first is published last; and a revoked entry is followed by one that is
not, and forgotten. -/
theorem snapshots_go_back :
    (∃ w n time answer old m time' answer',
      (isolate Sample.crates Sample.clock fun _ a => a ≠ .invalidate).Reached w ∧
        .published n time answer :: old <:+ w.log ∧ .published m time' answer' ∈ old ∧
          StartedBefore old n m) ∧
    (∃ w key began issuer old n time answer,
      (isolate Sample.crates Sample.clock fun _ a => a ≠ .invalidate).Reached w ∧
        .answered key began (.ok issuer) :: old <:+ w.log ∧
          current old = some (n, time, answer) ∧
            (∃ i ∈ registered Sample.crates answer key, i.revoked = true) ∧
              issuer.revoked = false) := by
  refine ⟨?_, ?_⟩
  · have hr : (isolate Sample.crates Sample.clock fun _ a => a ≠ .invalidate).Reached
        ((isolate Sample.crates Sample.clock fun _ a => a ≠ .invalidate).run (.start Sample.clock)
          [.lookupIssuer Sample.keyHash true, .lookupIssuer Sample.keyHash true,
            .resume 1 (Sample.listing true), .resume 0 (Sample.listing false)]) :=
      System.Reached.run (.init rfl) ⟨nofun, nofun, nofun, nofun, trivial⟩
    refine ⟨_, 0, Sample.clock, Sample.listing false,
      [.fetched 0 (Sample.listing false),
        .answered Sample.keyHash Sample.clock (.ok (Sample.issuerA true)),
        .published 1 Sample.clock (Sample.listing true), .fetched 1 (Sample.listing true),
        .fetch 1, .fetch 0], 1, Sample.clock, Sample.listing true, hr, by decide +kernel, ?_,
      ⟨[.fetch 0], by decide +kernel, List.mem_singleton_self _⟩⟩
    exact List.mem_cons_of_mem _ (List.mem_cons_of_mem _ List.mem_cons_self)
  · have hr : (isolate Sample.crates Sample.clock fun _ a => a ≠ .invalidate).Reached
        ((isolate Sample.crates Sample.clock fun _ a => a ≠ .invalidate).run (.start Sample.clock)
          [.prewarm, .resume 0 (.listed true [("issuer:a", .value (Sample.entryText true)),
            ("issuer:b", .value (Sample.entryText false))]),
            .lookupIssuer Sample.keyHash true]) :=
      System.Reached.run (.init rfl) ⟨nofun, nofun, nofun, trivial⟩
    refine ⟨_, Sample.keyHash, Sample.clock, Sample.issuerA false,
      [.published 0 Sample.clock (.listed true [("issuer:a", .value (Sample.entryText true)),
        ("issuer:b", .value (Sample.entryText false))]),
        .fetched 0 (.listed true [("issuer:a", .value (Sample.entryText true)),
        ("issuer:b", .value (Sample.entryText false))]), .fetch 0], 0, Sample.clock, _, hr,
      by decide +kernel, rfl, by decide +kernel, rfl⟩

end IssuerRegistry

end ProviiVerifier
