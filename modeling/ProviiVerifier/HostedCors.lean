/-
  `hosted/cors.rs`: the cache in front of `ORIGIN_INDEX`.

  A call answers from the cache of its isolate, or reads KV and caches an allowed or rejected
  origin. A read that fails rejects the request like an origin that is not indexed.

  Proved: the cache never holds more than its maximum; over calls at non-decreasing times, every
  verdict is that of a successful read of the last sixty seconds, or of the call's own failed read,
  if and only if no call finds what a failed read left in the cache, other than where a successful
  read of that time rejected the origin too (`verdicts_recent_iff`).
-/
import ProviiVerifier.Retention.BoundedCache
import Mathlib.Data.List.Basic
import Mathlib.Tactic.Common

namespace ProviiVerifier

namespace HostedCors

/-- `ORIGIN_CACHE_TTL_SECS`. -/
def originCacheTtlSecs : Nat := 60

/-- `ORIGIN_CACHE_MAX_ENTRIES`. -/
def originCacheMaxEntries : Nat := 2048

inductive OriginValidationResult
  | allowed
  | rejected
  | insufficientCredits (organizationId : String)
  deriving DecidableEq

structure OriginCacheEntry where
  result : OriginValidationResult
  cachedAt : Nat
  deriving DecidableEq

structure OriginIndexEntry where
  keyIds : List String
  organizationId : Option String
  hasCredits : Option Bool
  meteringEnabled : Option Bool
  deriving DecidableEq

/-- What a read of `ORIGIN_INDEX` comes to. -/
inductive IndexRead
  /-- No binding, or the read failed. -/
  | failed
  | absent
  /-- A text that is no entry. -/
  | unreadable
  | entry (e : OriginIndexEntry)
  deriving DecidableEq

/-- `ORIGIN_CACHE`. -/
abbrev Cache := BoundedCache.Cache String OriginCacheEntry

/-! ## The source -/

/-- `validate_origin_from_kv`. -/
def validateOriginFromKv : IndexRead → OriginValidationResult
  | .entry e =>
    if e.keyIds ≠ [] then
      if e.meteringEnabled = some true then
        match e.hasCredits with
        | some true => .allowed
        | _ => .insufficientCredits (e.organizationId.getD "unknown")
      else .allowed
    else .rejected
  | .failed => .rejected
  | .absent => .rejected
  | .unreadable => .rejected

/-- The cached result that has not expired. -/
def freshResult (cache : Cache) (now : Nat) (origin : String) : Option OriginValidationResult :=
  match cache.lookup origin with
  | some entry =>
    if now - entry.cachedAt < originCacheTtlSecs then some entry.result else none
  | none => none

/-- The insertion of a result, after the selective eviction. -/
def remember (cache : Cache) (now : Nat) (origin : String) (result : OriginValidationResult) :
    Cache :=
  BoundedCache.put originCacheMaxEntries
    (fun entry => now - entry.cachedAt < originCacheTtlSecs / 2) cache origin ⟨result, now⟩

/-- `validate_origin`, with how its read goes. -/
def validateOrigin (cache : Cache) (now : Nat) (origin : String) (read : IndexRead) :
    OriginValidationResult × Cache :=
  match freshResult cache now origin with
  | some result => (result, cache)
  | none =>
    match validateOriginFromKv read with
    | .insufficientCredits organizationId => (.insufficientCredits organizationId, cache)
    | .allowed => (.allowed, remember cache now origin .allowed)
    | .rejected => (.rejected, remember cache now origin .rejected)

/-! ## Sequences of calls -/

/-- A call, with the time it is made at and what KV answers at that time. -/
structure Call where
  now : Nat
  origin : String
  read : IndexRead

/-- The cache after calls, newest first. -/
def cacheAfter : List Call → Cache
  | [] => ∅
  | c :: old => (validateOrigin (cacheAfter old) c.now c.origin c.read).2

/-- What a call answers after earlier ones. -/
def verdict (c : Call) (old : List Call) : OriginValidationResult :=
  (validateOrigin (cacheAfter old) c.now c.origin c.read).1

/-- The call goes to KV. -/
def Reads (c : Call) (old : List Call) : Prop :=
  freshResult (cacheAfter old) c.now c.origin = none

instance (c : Call) (old : List Call) : Decidable (Reads c old) :=
  inferInstanceAs (Decidable (_ = _))

/-- The latest call that read KV for the origin. -/
def lastRead (origin : String) : List Call → Option Call
  | [] => none
  | c :: old => if c.origin = origin ∧ Reads c old then some c else lastRead origin old

/-- A successful read of the last sixty seconds gave the verdict. -/
def Backed (origin : String) (now : Nat) (v : OriginValidationResult) (calls : List Call) : Prop :=
  ∃ c old, c :: old <:+ calls ∧ c.origin = origin ∧ Reads c old ∧ c.read ≠ .failed ∧
    validateOriginFromKv c.read = v ∧ c.now ≤ now ∧ now ≤ c.now + originCacheTtlSecs

/-- The verdict is that of a successful read of the last sixty seconds, or the call's own read
failed. -/
def Recent (c : Call) (old : List Call) : Prop :=
  Backed c.origin c.now (verdict c old) (c :: old) ∨
    Reads c old ∧ c.read = .failed ∧ verdict c old = .rejected

/-- The call finds in the cache what a failed read left there. -/
def ServedFailure (c : Call) (old : List Call) : Prop :=
  ¬ Reads c old ∧ ∃ c', lastRead c.origin old = some c' ∧ c'.read = .failed

instance (c : Call) (old : List Call) : Decidable (ServedFailure c old) :=
  decidable_of_iff (¬ Reads c old ∧ (lastRead c.origin old).map Call.read = some .failed)
    (and_congr_right fun _ => Option.map_eq_some_iff)

variable {c c' : Call} {old calls : List Call} {now : Nat} {origin : String}
  {v : OriginValidationResult} {e : OriginCacheEntry}

/-! ## One call -/

theorem verdict_of_reads (h : Reads c old) : verdict c old = validateOriginFromKv c.read := by
  unfold Reads at h
  unfold verdict validateOrigin
  rw [h]
  dsimp only
  split <;> symm <;> assumption

theorem cacheAfter_of_not_reads (h : ¬ Reads c old) : cacheAfter (c :: old) = cacheAfter old := by
  obtain ⟨v, hv⟩ := Option.ne_none_iff_exists'.mp h
  rw [cacheAfter, validateOrigin, hv]

theorem fresh_of_not_reads (h : ¬ Reads c old) : ∃ e, (cacheAfter old).lookup c.origin = some e ∧
    c.now - e.cachedAt < originCacheTtlSecs ∧ verdict c old = e.result := by
  obtain ⟨v, hv⟩ := Option.ne_none_iff_exists'.mp h
  have hverdict : verdict c old = v := by
    unfold verdict validateOrigin
    rw [hv]
  unfold freshResult at hv
  split at hv
  · next e he =>
    split at hv
    · next hfresh =>
      cases hv
      exact ⟨e, he, hfresh, hverdict⟩
    · cases hv
  · cases hv

/-- An entry that a call leaves is its own, or was there. -/
theorem lookup_after_reads (hreads : Reads c old)
    (h : (cacheAfter (c :: old)).lookup origin = some e) :
    c.origin = origin ∧ e = ⟨validateOriginFromKv c.read, c.now⟩ ∨
      (cacheAfter old).lookup origin = some e := by
  have hput : ∀ v, (remember (cacheAfter old) c.now c.origin v).lookup origin = some e →
      c.origin = origin ∧ e = ⟨v, c.now⟩ ∨ (cacheAfter old).lookup origin = some e := by
    intro v hv
    rcases BoundedCache.lookup_put hv with ⟨rfl, rfl⟩ | ⟨-, hold⟩
    · exact .inl ⟨rfl, rfl⟩
    · exact .inr hold
  unfold Reads at hreads
  unfold cacheAfter validateOrigin at h
  rw [hreads] at h
  dsimp only at h
  split at h
  · exact .inr h
  · next hv =>
    rw [hv]
    exact hput _ h
  · next hv =>
    rw [hv]
    exact hput _ h

/-- A call that goes to KV finds no live entry. -/
theorem expired_of_reads (h : Reads c old) (he : (cacheAfter old).lookup c.origin = some e) :
    e.cachedAt + originCacheTtlSecs ≤ c.now := by
  unfold Reads freshResult at h
  rw [he] at h
  dsimp only at h
  split at h
  · cases h
  · next hold =>
    unfold originCacheTtlSecs at hold ⊢
    omega

/-! ## What is in the cache -/

/-- The call that read an entry, after which either none read the origin or the entry expired. -/
def LeftBy (origin : String) (e : OriginCacheEntry) (calls : List Call) (c : Call) : Prop :=
  (∃ old, c :: old <:+ calls ∧ Reads c old) ∧ c.origin = origin ∧
    e = ⟨validateOriginFromKv c.read, c.now⟩ ∧
    (lastRead origin calls = some c ∨ ∃ c' ∈ calls, e.cachedAt + originCacheTtlSecs ≤ c'.now)

theorem LeftBy.cons (h : LeftBy origin e old c) (hlast : lastRead origin (c' :: old) =
    lastRead origin old ∨ e.cachedAt + originCacheTtlSecs ≤ c'.now) :
    LeftBy origin e (c' :: old) c := by
  obtain ⟨⟨older, hsuf, hreads⟩, horigin, he, hrest⟩ := h
  refine ⟨⟨older, hsuf.trans (List.suffix_cons _ _), hreads⟩, horigin, he, ?_⟩
  rcases hlast with hlast | hexpired
  · rcases hrest with hrest | ⟨d, hd, hexpired⟩
    · exact .inl (hlast.trans hrest)
    · exact .inr ⟨d, List.mem_cons_of_mem _ hd, hexpired⟩
  · exact .inr ⟨c', List.mem_cons_self, hexpired⟩

theorem lastRead_cons_of_not (h : ¬ (c.origin = origin ∧ Reads c old)) :
    lastRead origin (c :: old) = lastRead origin old := by
  rw [lastRead, if_neg h]

/-- **Every entry was read by one of the calls.** -/
theorem leftBy_of_lookup (h : (cacheAfter calls).lookup origin = some e) :
    ∃ c, LeftBy origin e calls c := by
  induction calls with
  | nil =>
    rw [cacheAfter, AList.lookup_empty] at h
    cases h
  | cons c old ih =>
    by_cases hreads : Reads c old
    · rcases lookup_after_reads hreads h with ⟨horigin, he⟩ | hold
      · refine ⟨c, ⟨old, List.suffix_rfl, hreads⟩, horigin, he, .inl ?_⟩
        rw [lastRead, if_pos ⟨horigin, hreads⟩]
      · obtain ⟨d, hd⟩ := ih hold
        refine ⟨d, hd.cons ?_⟩
        by_cases horigin : c.origin = origin
        · subst horigin
          exact .inr (expired_of_reads hreads hold)
        · exact .inl (lastRead_cons_of_not fun hc => horigin hc.1)
    · rw [cacheAfter_of_not_reads hreads] at h
      obtain ⟨d, hd⟩ := ih h
      exact ⟨d, hd.cons (.inl (lastRead_cons_of_not fun hc => hreads hc.2))⟩

/-- What a call finds in the cache was left by the latest read of the origin, less than sixty
seconds ago. -/
theorem found_leftBy (hmono : (c :: old).Pairwise fun c c' => c'.now ≤ c.now)
    (h : ¬ Reads c old) : ∃ c' older, c' :: older <:+ old ∧ Reads c' older ∧
      c'.origin = c.origin ∧ lastRead c.origin old = some c' ∧
      verdict c old = validateOriginFromKv c'.read ∧ c'.now ≤ c.now ∧
      c.now < c'.now + originCacheTtlSecs := by
  obtain ⟨e, he, hfresh, hverdict⟩ := fresh_of_not_reads h
  obtain ⟨c', ⟨older, hsuf, hreads⟩, horigin, rfl, hlast⟩ := leftBy_of_lookup he
  have hle : ∀ d ∈ old, d.now ≤ c.now := (List.pairwise_cons.mp hmono).1
  have hc' : c'.now ≤ c.now := hle c' (hsuf.subset List.mem_cons_self)
  dsimp only at hfresh
  refine ⟨c', older, hsuf, hreads, horigin, ?_, hverdict, hc', by omega⟩
  rcases hlast with hlast | ⟨d, hd, hexpired⟩
  · exact hlast
  · have hd := hle d hd
    dsimp only at hexpired
    omega

/-- **The bound holds after every call.** -/
theorem length_cacheAfter_le (calls : List Call) :
    (cacheAfter calls).entries.length ≤ originCacheMaxEntries := by
  induction calls with
  | nil => exact Nat.zero_le _
  | cons c old ih =>
    rw [cacheAfter, validateOrigin]
    split
    · exact ih
    · split
      · exact ih
      · exact BoundedCache.length_put_le (by decide)
      · exact BoundedCache.length_put_le (by decide)

/-! ## Verdicts -/

theorem Backed.mono (h : Backed origin now v old) (hsuf : old <:+ calls) :
    Backed origin now v calls := by
  obtain ⟨c, older, hc, hrest⟩ := h
  exact ⟨c, older, hc.trans hsuf, hrest⟩

/-- A call that finds nothing left by a failed read. -/
theorem recent_of_not_servedFailure (hmono : (c :: old).Pairwise fun c c' => c'.now ≤ c.now)
    (h : ¬ ServedFailure c old) : Recent c old := by
  by_cases hreads : Reads c old
  · have hv := verdict_of_reads hreads
    by_cases hfail : c.read = .failed
    · refine .inr ⟨hreads, hfail, ?_⟩
      rw [hv, hfail, validateOriginFromKv]
    · exact .inl ⟨c, old, List.suffix_rfl, rfl, hreads, hfail, hv.symm, le_rfl,
        Nat.le_add_right _ _⟩
  · obtain ⟨c', older, hsuf, hreads', horigin, hlast, hv, hle, hlt⟩ := found_leftBy hmono hreads
    have hread : c'.read ≠ .failed := fun hfail => h ⟨hreads, c', hlast, hfail⟩
    exact .inl ⟨c', older, hsuf.trans (List.suffix_cons _ _), horigin, hreads', hread, hv.symm, hle,
      Nat.le_of_lt hlt⟩

/-- What a failed read left in the cache rejects. -/
theorem verdict_of_servedFailure (hmono : (c :: old).Pairwise fun c c' => c'.now ≤ c.now)
    (h : ServedFailure c old) : verdict c old = .rejected := by
  obtain ⟨hreads, c', hlast, hfail⟩ := h
  obtain ⟨d, older, -, -, -, hlast', hv, -⟩ := found_leftBy hmono hreads
  rw [hlast, Option.some.injEq] at hlast'
  subst hlast'
  rw [hv, hfail, validateOriginFromKv]

/-- One call: the verdict is recent if and only if it is not a failed read's, or a successful read
rejected the origin too. -/
theorem recent_iff (hmono : (c :: old).Pairwise fun c c' => c'.now ≤ c.now) :
    Recent c old ↔ (ServedFailure c old → Backed c.origin c.now .rejected old) := by
  constructor
  · intro h hserved
    have hv := verdict_of_servedFailure hmono hserved
    rcases h with ⟨d, older, hsuf, horigin, hreads, hrest⟩ | ⟨hreads, -⟩
    · rw [hv] at hrest
      rcases List.suffix_cons_iff.mp hsuf with heq | hsuf
      · injection heq with hd hold
        subst hd hold
        exact absurd hreads hserved.1
      · exact ⟨d, older, hsuf, horigin, hreads, hrest⟩
    · exact absurd hreads hserved.1
  · intro h
    by_cases hserved : ServedFailure c old
    · have hback := (h hserved).mono (List.suffix_cons c old)
      rw [← verdict_of_servedFailure hmono hserved] at hback
      exact .inl hback
    · exact recent_of_not_servedFailure hmono hserved

/-- **Cached verdicts are no more than sixty seconds old, and the cache is bounded**: the first if
and only if no call finds what a failed read left, or a successful read rejected the origin too. -/
theorem verdicts_recent_iff (calls : List Call)
    (hmono : calls.Pairwise fun c c' => c'.now ≤ c.now) :
    (∀ old, old <:+ calls → (cacheAfter old).entries.length ≤ originCacheMaxEntries) ∧
      ((∀ c old, c :: old <:+ calls → Recent c old) ↔ ∀ c old, c :: old <:+ calls →
        ServedFailure c old → Backed c.origin c.now .rejected old) := by
  refine ⟨fun old _ => length_cacheAfter_le old, ?_⟩
  have hcall : ∀ c old, c :: old <:+ calls →
      (Recent c old ↔ (ServedFailure c old → Backed c.origin c.now .rejected old)) := by
    intro c old hsuf
    exact recent_iff (hmono.sublist hsuf.sublist)
  constructor
  · intro h c old hsuf
    exact (hcall c old hsuf).mp (h c old hsuf)
  · intro h c old hsuf
    exact (hcall c old hsuf).mpr (h c old hsuf)

/-! ## Samples -/

/-- An indexed origin. -/
def sampleEntry : OriginIndexEntry :=
  { keyIds := ["pk_live_1"]
    organizationId := some "org"
    hasCredits := some true
    meteringEnabled := some true }

/-- A call whose read goes as given. -/
def firstCall (read : IndexRead) : Call := ⟨0, "https://shop.example", read⟩

/-- A call ten seconds later. -/
def secondCall : Call := ⟨10, "https://shop.example", .entry sampleEntry⟩

theorem suffix_pair {x y z : Call} {old : List Call} (h : x :: old <:+ [y, z]) :
    x = y ∧ old = [z] ∨ x = z ∧ old = [] := by
  rcases List.suffix_cons_iff.mp h with heq | h
  · injection heq with hx hold
    exact .inl ⟨hx, hold⟩
  · rcases List.suffix_cons_iff.mp h with heq | h
    · injection heq with hx hold
      exact .inr ⟨hx, hold⟩
    · exact absurd (List.suffix_nil.mp h) (List.cons_ne_nil _ _)

/-- Two calls whose reads succeed. -/
theorem indexed_origin_recent :
    ([secondCall, firstCall (.entry sampleEntry)].Pairwise fun c c' => c'.now ≤ c.now) ∧
      ∀ c old, c :: old <:+ [secondCall, firstCall (.entry sampleEntry)] → Recent c old := by
  refine ⟨by simp [firstCall, secondCall], ?_⟩
  refine ((verdicts_recent_iff _ (by simp [firstCall, secondCall])).2).mpr ?_
  intro c old hsuf hserved
  rcases suffix_pair hsuf with ⟨rfl, rfl⟩ | ⟨rfl, rfl⟩
  · exact absurd hserved (by decide +kernel)
  · exact absurd hserved (by decide +kernel)

/-- **A failure is remembered**: the read of the first call fails, and the second rejects an origin
that is indexed and has credits. -/
theorem failed_read_served :
    verdict secondCall [firstCall .failed] = .rejected ∧
      ¬ ∀ c old, c :: old <:+ [secondCall, firstCall .failed] → Recent c old := by
  refine ⟨by decide +kernel, fun h => ?_⟩
  have hrecent := h secondCall [firstCall .failed] List.suffix_rfl
  have hmono : [secondCall, firstCall .failed].Pairwise fun c c' => c'.now ≤ c.now := by
    simp [firstCall, secondCall]
  obtain ⟨c, old, hsuf, -, -, hread, -⟩ := (recent_iff hmono).mp hrecent (by decide +kernel)
  rcases List.suffix_cons_iff.mp hsuf with heq | hsuf
  · injection heq with hc
    rw [hc] at hread
    exact hread rfl
  · exact absurd (List.suffix_nil.mp hsuf) (List.cons_ne_nil _ _)

end HostedCors

end ProviiVerifier
