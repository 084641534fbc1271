/-
  `storage/jwks.rs`: lookups, refreshes and invalidations of one isolate in any order.

  A step of an isolate runs one task until it is suspended in a fetch or done: a lookup arrives, a
  dispatched refresh starts, a fetch is answered, an invalidation is pushed. The refreshes that
  are suspended are kept by number, in the order their fetches started.

  The log is not part of the source. It records the fetches as they start and are answered, what
  is published, invalidations, and the answers of lookups with the times the lookups began.

  Proved: the cache holds what the log says was published last and not invalidated since
  (`Coherent`), and a suspended refresh remembers the epoch of the time its fetch started.
-/
import ProviiVerifier.JwksCache
import ProviiVerifier.Interleaving.System

namespace ProviiVerifier

open Interleaving

namespace IssuerRegistry

/-! ## The isolate -/

/-- A refresh suspended in its fetch, with the epoch it remembers. -/
inductive Refresh
  /-- The blocking refresh of a lookup that began at a time. -/
  | lookup (issuerKeyHash : Bytes) (now epochBefore : Nat)
  | background (now epochBefore : Nat)
  | prewarm (epochBefore : Nat)

def Refresh.epochBefore : Refresh → Nat
  | .lookup _ _ epochBefore | .background _ epochBefore | .prewarm epochBefore => epochBefore

/-- The time the lookup or the refresh began, as far as it remembers one. -/
def Refresh.began : Refresh → Nat
  | .lookup _ now _ | .background now _ => now
  | .prewarm _ => 0

/-- What the log records. -/
inductive Event
  | fetch (n : Nat)
  | fetched (n : Nat) (answer : Fetch)
  | published (n : Nat) (time : Nat) (answer : Fetch)
  | invalidated
  | answered (issuerKeyHash : Bytes) (began : Nat) (answer : Except ApiError RegisteredIssuer)
  deriving DecidableEq

structure World where
  jwks : JwksCache
  clock : Nat
  /-- Background refreshes that were dispatched and have not started. -/
  queued : Nat
  /-- The fetches that have started. -/
  fetches : Nat
  suspended : Nat → Option Refresh
  /-- Newest first. -/
  log : List Event

def World.start (clock : Nat) : World :=
  { jwks := .new, clock, queued := 0, fetches := 0, suspended := fun _ => none, log := [] }

namespace World

def record (w : World) (e : Event) : World := { w with log := e :: w.log }

/-- A lookup that began at a time answers. -/
def answer (w : World) (issuerKeyHash : Bytes) (began : Nat)
    (r : Except ApiError RegisteredIssuer) : World :=
  w.record (.answered issuerKeyHash began r)

/-- A refresh starts its fetch. -/
def fetch (w : World) (r : Refresh) : World :=
  { w with
    fetches := w.fetches + 1
    suspended := Function.update w.suspended w.fetches (some r)
    log := .fetch w.fetches :: w.log }

/-- `dispatch_background`: a task, or the flag again when there is no context to run it in. -/
def dispatchBackground (w : World) (context : Bool) : World :=
  if context then { w with queued := w.queued + 1 }
  else { w with jwks := w.jwks.finishRefresh }

/-- `lookup_issuer`, until it answers or its blocking refresh asks the namespace. -/
def lookupIssuer (w : World) (issuerKeyHash : Bytes) (context : Bool) : World :=
  if w.jwks.isStale w.clock = false then
    w.answer issuerKeyHash w.clock (w.jwks.find issuerKeyHash)
  else if w.jwks.isExtremelyStale w.clock then
    if w.jwks.circuitBreaker.shouldAttempt w.clock then
      w.fetch (.lookup issuerKeyHash w.clock w.jwks.refreshStart)
    else
      -- `try_refresh` clears the flag before its error
      { w with jwks := w.jwks.finishRefresh }.answer issuerKeyHash w.clock
        (w.jwks.findDegraded w.clock issuerKeyHash)
  else if w.jwks.refreshInProgress then
    w.answer issuerKeyHash w.clock (w.jwks.find issuerKeyHash)
  else
    ({ w with jwks := { w.jwks with refreshInProgress := true } }.dispatchBackground context).answer
      issuerKeyHash w.clock (w.jwks.find issuerKeyHash)

/-- A dispatched refresh starts: `try_refresh` up to its fetch. The guard clears the flag when the
refresh is refused. -/
def startBackground (w : World) : World :=
  if w.queued = 0 then w
  else if w.jwks.circuitBreaker.shouldAttempt w.clock then
    { w with queued := w.queued - 1 }.fetch (.background w.clock w.jwks.refreshStart)
  else { w with queued := w.queued - 1, jwks := w.jwks.finishRefresh }

/-- A refresh with this epoch publishes what is fetched. -/
def Publishes (w : World) (epochBefore : Nat) (answer : Fetch) : Prop :=
  w.jwks.epoch = epochBefore ∧ ∃ reads, answer = .listed true reads

instance (w : World) (epochBefore : Nat) (answer : Fetch) :
    Decidable (w.Publishes epochBefore answer) :=
  match answer with
  | .listed true reads => decidable_of_iff (w.jwks.epoch = epochBefore)
      ⟨fun h => ⟨h, reads, rfl⟩, fun h => h.1⟩
  | .listed false _ => .isFalse fun ⟨_, _, h⟩ => by injection h with h; cases h
  | .listFailed _ => .isFalse fun ⟨_, _, h⟩ => by cases h
  | .listTimedOut _ => .isFalse fun ⟨_, _, h⟩ => by cases h

/-- What the log records when a fetch is answered. -/
def fetchedEvents (w : World) (n : Nat) (r : Refresh) (answer : Fetch) : List Event :=
  if w.Publishes r.epochBefore answer then [.published n w.clock answer, .fetched n answer]
  else [.fetched n answer]

/-- The fetch is answered. -/
def fetched (w : World) (n : Nat) (r : Refresh) (answer : Fetch) : World :=
  { w with
    suspended := Function.update w.suspended n none
    log := w.fetchedEvents n r answer ++ w.log }

/-- The rest of a refresh, once its fetch is answered, and of the task it is part of. -/
def resume (codec : RegistryCodec) (w : World) (n : Nat) (answer : Fetch) : World :=
  match w.suspended n with
  | none => w
  | some r =>
    let after := w.fetched n r answer
    match r with
    | .prewarm epochBefore =>
      { after with jwks := (w.jwks.refreshFinish codec epochBefore answer w.clock).2 }
    | .background now epochBefore =>
      { after with
        jwks := (w.jwks.tryRefreshFinish codec now epochBefore answer w.clock).2.finishRefresh }
    | .lookup issuerKeyHash now epochBefore =>
      let looked := w.jwks.lookupFinish codec now epochBefore answer w.clock issuerKeyHash
      { after with jwks := looked.2 }.answer issuerKeyHash now looked.1

/-- A task is cancelled in its fetch; a background refresh leaves through its guard. -/
def cancel (w : World) (n : Nat) : World :=
  match w.suspended n with
  | some (.background _ _) =>
    { w with suspended := Function.update w.suspended n none, jwks := w.jwks.finishRefresh }
  | _ => { w with suspended := Function.update w.suspended n none }

end World

/-- What can happen next. -/
inductive Act
  | tick (seconds : Nat)
  | lookupIssuer (issuerKeyHash : Bytes) (context : Bool)
  | startBackground
  | prewarm
  | resume (n : Nat) (answer : Fetch)
  | invalidate
  | cancel (n : Nat)
  | cancelQueued

def step (codec : RegistryCodec) (w : World) : Act → World
  | .tick seconds => { w with clock := w.clock + seconds }
  | .lookupIssuer issuerKeyHash context => w.lookupIssuer issuerKeyHash context
  | .startBackground => w.startBackground
  | .prewarm => w.fetch (.prewarm w.jwks.refreshStart)
  | .resume n answer => w.resume codec n answer
  | .invalidate => { w with jwks := w.jwks.invalidate }.record .invalidated
  | .cancel n => w.cancel n
  | .cancelQueued => { w with queued := w.queued - 1 }

/-- The runs of an isolate that starts at a time, with the acts the rule allows. -/
def isolate (codec : RegistryCodec) (T₀ : Nat) (rule : World → Act → Prop) : System World Act :=
  { init := fun w => w = World.start T₀, next := step codec, allowed := rule }

/-! ## The log -/

/-- What was published last and not invalidated since: the fetch, the time, the answer. -/
def current : List Event → Option (Nat × Nat × Fetch)
  | [] => none
  | .published n time answer :: _ => some (n, time, answer)
  | .invalidated :: _ => none
  | _ :: old => current old

/-- Every event of a log meets `P` at the log it was added to. -/
def Always (P : Event → List Event → Prop) : List Event → Prop
  | [] => True
  | e :: old => P e old ∧ Always P old

theorem Always.suffix {P : Event → List Event → Prop} {log old : List Event}
    (h : Always P log) (hs : old <:+ log) : Always P old := by
  induction log with
  | nil => rwa [List.suffix_nil.mp hs]
  | cons e log ih =>
    rcases List.suffix_cons_iff.mp hs with rfl | hs
    · exact h
    · exact ih h.2 hs

theorem Always.of_suffix {P : Event → List Event → Prop} {log old : List Event} {e : Event}
    (h : Always P log) (hs : e :: old <:+ log) : P e old := (h.suffix hs).1

/-- The issuers of a fetch. -/
def snapshot (codec : RegistryCodec) (answer : Fetch) : Bytes → Option RegisteredIssuer :=
  match fetchFromKv codec answer with
  | .ok entries => newCache codec entries
  | .error _ => fun _ => none

/-- The fetch started and nothing was invalidated since. -/
def StartedSinceInvalidate (n : Nat) (log : List Event) : Prop :=
  ∃ recent older, log = recent ++ .fetch n :: older ∧ .invalidated ∉ recent

/-- What an act adds to the log, newest first. -/
inductive Appends (w w' : World) (a : Act) : List Event → Prop
  | nothing : Appends w w' a []
  | fetch : Appends w w' a [.fetch w.fetches]
  | invalidated : Appends w w' a [.invalidated]
  | found {key : Bytes} (hage : w.clock - w'.jwks.lastRefresh ≤ staleCacheTtlSecs) :
      Appends w w' a [.answered key w.clock (w'.jwks.find key)]
  | degraded {key : Bytes} :
      Appends w w' a [.answered key w.clock (w'.jwks.findDegraded w.clock key)]
  | fetched {n : Nat} {r : Refresh} {answer : Fetch} (hr : w.suspended n = some r)
      (ha : a = .resume n answer) : Appends w w' a (w.fetchedEvents n r answer)
  | foundFetched {n : Nat} {key : Bytes} {began epochBefore : Nat}
      {reads : List (String × EntryRead)}
      (hr : w.suspended n = some (.lookup key began epochBefore))
      (ha : a = .resume n (.listed true reads)) :
      Appends w w' a (.answered key began (w'.jwks.find key) ::
        w.fetchedEvents n (.lookup key began epochBefore) (.listed true reads))
  | degradedFetched {n : Nat} {key : Bytes} {began epochBefore : Nat} {answer : Fetch}
      (hr : w.suspended n = some (.lookup key began epochBefore)) (ha : a = .resume n answer) :
      Appends w w' a (.answered key began (w'.jwks.findDegraded began key) ::
        w.fetchedEvents n (.lookup key began epochBefore) answer)

variable {codec : RegistryCodec} {w : World} {a : Act}

theorem fetchFromKv_ok {answer : Fetch} {entries : List IssuerRegistryEntry}
    (h : fetchFromKv codec answer = .ok entries) : ∃ reads, answer = .listed true reads := by
  cases answer with
  | listFailed e => cases h
  | listTimedOut e => cases h
  | listed listComplete reads =>
    cases listComplete with
    | false => cases h
    | true => exact ⟨reads, rfl⟩

/-- How a lookup answers after its refresh. -/
theorem lookupFinish_cases (codec : RegistryCodec) (c : JwksCache) (began epochBefore now : Nat)
    (answer : Fetch) (key : Bytes) {l : Except ApiError RegisteredIssuer × JwksCache}
    (hl : c.lookupFinish codec began epochBefore answer now key = l) :
    ((∃ reads, answer = .listed true reads) ∧ l.1 = l.2.find key) ∨
      l.1 = l.2.findDegraded began key := by
  subst hl
  simp only [JwksCache.lookupFinish, JwksCache.tryRefreshFinish, JwksCache.refreshFinish]
  cases hfetch : fetchFromKv codec answer with
  | error e => exact .inr rfl
  | ok entries =>
    refine .inl ⟨fetchFromKv_ok hfetch, ?_⟩
    by_cases hepoch : c.epoch ≠ epochBefore
    · simp [hepoch]
    · simp [hepoch]

theorem appends_lookupIssuer {key : Bytes} {context : Bool} :
    ∃ new, (w.lookupIssuer key context).log = new ++ w.log ∧
      Appends w (w.lookupIssuer key context) a new := by
  unfold World.lookupIssuer
  split
  · next hfresh =>
    refine ⟨_, rfl, .found ?_⟩
    have hage : ¬ 600 < w.clock - w.jwks.lastRefresh := of_decide_eq_false hfresh
    show w.clock - w.jwks.lastRefresh ≤ 960
    omega
  · split
    · split
      · exact ⟨_, rfl, .fetch⟩
      · exact ⟨_, rfl, .degraded⟩
    · next hstale =>
      have hage : w.clock - w.jwks.lastRefresh ≤ staleCacheTtlSecs := by
        simpa [JwksCache.isExtremelyStale] using hstale
      split
      · exact ⟨_, rfl, .found hage⟩
      · cases context with
        | true => exact ⟨_, rfl, .found hage⟩
        | false => exact ⟨_, rfl, .found hage⟩

theorem appends_startBackground :
    ∃ new, w.startBackground.log = new ++ w.log ∧ Appends w w.startBackground a new := by
  unfold World.startBackground
  split
  · exact ⟨_, rfl, .nothing⟩
  · split
    · exact ⟨_, rfl, .fetch⟩
    · exact ⟨_, rfl, .nothing⟩

theorem appends_resume {n : Nat} {answer : Fetch} (ha : a = .resume n answer) :
    ∃ new, (w.resume codec n answer).log = new ++ w.log ∧
      Appends w (w.resume codec n answer) a new := by
  unfold World.resume
  split
  · exact ⟨_, rfl, .nothing⟩
  · next r hr =>
    cases r with
    | prewarm epochBefore => exact ⟨_, rfl, .fetched hr ha⟩
    | background now epochBefore => exact ⟨_, rfl, .fetched hr ha⟩
    | lookup key now epochBefore =>
      refine ⟨.answered key now (w.jwks.lookupFinish codec now epochBefore answer w.clock key).1 ::
        w.fetchedEvents n (.lookup key now epochBefore) answer, rfl, ?_⟩
      rcases lookupFinish_cases codec w.jwks now epochBefore w.clock answer key rfl with
        ⟨⟨reads, rfl⟩, hfound⟩ | hdegraded
      · rw [hfound]
        exact .foundFetched hr ha
      · rw [hdegraded]
        exact .degradedFetched hr ha

/-- **What an act adds to the log.** -/
theorem step_log (codec : RegistryCodec) (w : World) (a : Act) :
    ∃ new, (step codec w a).log = new ++ w.log ∧ Appends w (step codec w a) a new := by
  cases a with
  | tick seconds => exact ⟨[], rfl, .nothing⟩
  | lookupIssuer key context => exact appends_lookupIssuer
  | startBackground => exact appends_startBackground
  | prewarm => exact ⟨_, rfl, .fetch⟩
  | resume n answer => exact appends_resume rfl
  | invalidate => exact ⟨[.invalidated], rfl, .invalidated⟩
  | cancel n =>
    have hlog : (w.cancel n).log = w.log := by
      unfold World.cancel
      split <;> rfl
    exact ⟨[], hlog, .nothing⟩
  | cancelQueued => exact ⟨[], rfl, .nothing⟩

/-! ## What the log says of the cache -/

/-- A refresh that is suspended: its epoch is that of the time its fetch started, and what was
published since was published after it began. -/
def InFlight (log : List Event) (epoch clock n : Nat) (r : Refresh) : Prop :=
  r.began ≤ clock ∧ ∃ recent older, log = recent ++ .fetch n :: older ∧
    epoch = r.epochBefore + recent.count .invalidated ∧
      ∀ m time answer, .published m time answer ∈ recent → r.began ≤ time

/-- What is published comes from a complete listing that was fetched, and whose fetch started
after the last invalidation. -/
def PublishedFetch : Event → List Event → Prop
  | .published n _ answer, old => (∃ reads, answer = .listed true reads) ∧
      .fetched n answer ∈ old ∧ StartedSinceInvalidate n old
  | _, _ => True

/-- The cache holds what was published last and not invalidated since. -/
structure Coherent (codec : RegistryCodec) (w : World) : Prop where
  cached : ∀ n time answer, current w.log = some (n, time, answer) →
    w.jwks.cache = snapshot codec answer ∧ w.jwks.lastRefresh = time
  empty : current w.log = none → w.jwks.cache = (fun _ => none) ∧ w.jwks.lastRefresh = 0
  inFlight : ∀ n r, w.suspended n = some r → InFlight w.log w.jwks.epoch w.clock n r
  published : Always PublishedFetch w.log

variable {log recent old : List Event} {e : Event} {n m epoch clock time : Nat} {answer : Fetch}
  {r : Refresh}

theorem mem_of_current (h : current log = some (n, time, answer)) :
    .published n time answer ∈ log := by
  induction log with
  | nil => cases h
  | cons e old ih =>
    cases e with
    | published m t a =>
      injection h with h
      injection h with hn h
      injection h with ht ha
      rw [hn, ht, ha]
      exact List.mem_cons_self
    | invalidated => cases h
    | fetch m => exact List.mem_cons_of_mem _ (ih h)
    | fetched m a => exact List.mem_cons_of_mem _ (ih h)
    | answered key began r => exact List.mem_cons_of_mem _ (ih h)

/-- Nothing from before an invalidation is current. -/
theorem current_append (h : .invalidated ∈ recent) :
    current (recent ++ old) = current recent := by
  induction recent with
  | nil => exact absurd h List.not_mem_nil
  | cons e recent ih =>
    cases e with
    | published m t a => rfl
    | invalidated => rfl
    | fetch m => exact ih (by simpa using h)
    | fetched m a => exact ih (by simpa using h)
    | answered key began r => exact ih (by simpa using h)

/-- What is current at a suffix of published fetches. -/
theorem published_of_current (hlog : Always PublishedFetch log)
    (h : current log = some (n, time, answer)) :
    (∃ reads, answer = .listed true reads) ∧ .fetched n answer ∈ log ∧
      StartedSinceInvalidate n log := by
  induction log with
  | nil => cases h
  | cons e old ih =>
    -- every event but an invalidation keeps what is known of the older log
    have hkeep : e ≠ .invalidated → current old = some (n, time, answer) →
        (∃ reads, answer = .listed true reads) ∧ .fetched n answer ∈ e :: old ∧
          StartedSinceInvalidate n (e :: old) := by
      intro hne hold
      obtain ⟨hreads, hm, recent, older, hsplit, hno⟩ := ih hlog.2 hold
      refine ⟨hreads, List.mem_cons_of_mem _ hm, e :: recent, older, by rw [hsplit]; rfl, ?_⟩
      intro hmem
      rcases List.mem_cons.mp hmem with he | hmem
      · exact hne he.symm
      · exact hno hmem
    cases e with
    | published m t a =>
      injection h with h
      injection h with hn h
      injection h with ht ha
      subst hn ht ha
      obtain ⟨hreads, hm, recent, older, hsplit, hno⟩ := hlog.1
      refine ⟨hreads, List.mem_cons_of_mem _ hm, .published m t a :: recent, older,
        by rw [hsplit]; rfl, ?_⟩
      intro hmem
      rcases List.mem_cons.mp hmem with he | hmem
      · cases he
      · exact hno hmem
    | invalidated => cases h
    | fetch m => exact hkeep nofun h
    | fetched m a => exact hkeep nofun h
    | answered key began r => exact hkeep nofun h

theorem InFlight.tick (h : InFlight log epoch clock n r) {clock' : Nat} (hle : clock ≤ clock') :
    InFlight log epoch clock' n r := by
  obtain ⟨hbegan, h⟩ := h
  exact ⟨Nat.le_trans hbegan hle, h⟩

/-- A refresh stays in flight when the log grows. -/
theorem InFlight.cons (h : InFlight log epoch clock n r) (he : e ≠ .invalidated)
    (hpublished : ∀ m time answer, e = .published m time answer → clock ≤ time) :
    InFlight (e :: log) epoch clock n r := by
  obtain ⟨hbegan, recent, older, hsplit, hepoch, htimes⟩ := h
  refine ⟨hbegan, e :: recent, older, by rw [hsplit]; rfl, ?_, ?_⟩
  · rw [List.count_cons_of_ne he]
    exact hepoch
  · intro m time answer hm
    rcases List.mem_cons.mp hm with heq | hm
    · exact Nat.le_trans hbegan (hpublished m time answer heq.symm)
    · exact htimes m time answer hm

theorem InFlight.invalidated (h : InFlight log epoch clock n r) :
    InFlight (.invalidated :: log) (epoch + 1) clock n r := by
  obtain ⟨hbegan, recent, older, hsplit, hepoch, htimes⟩ := h
  refine ⟨hbegan, .invalidated :: recent, older, by rw [hsplit]; rfl, ?_, ?_⟩
  · rw [List.count_cons_self]
    omega
  · intro m time answer hm
    rcases List.mem_cons.mp hm with heq | hm
    · cases heq
    · exact htimes m time answer hm

theorem InFlight.start (hbegan : r.began ≤ clock) (hepoch : r.epochBefore = epoch) :
    InFlight (.fetch n :: log) epoch clock n r :=
  ⟨hbegan, [], log, rfl, by rw [hepoch]; rfl, fun _ _ _ hm => absurd hm List.not_mem_nil⟩

/-- When the epoch is still its own, nothing was invalidated since the fetch started. -/
theorem InFlight.startedSinceInvalidate (h : InFlight log epoch clock n r)
    (hepoch : epoch = r.epochBefore) : StartedSinceInvalidate n log := by
  obtain ⟨-, recent, older, hsplit, hcount, -⟩ := h
  refine ⟨recent, older, hsplit, ?_⟩
  have hzero : recent.count .invalidated = 0 := by omega
  exact List.count_eq_zero.mp hzero

/-- When the epoch has changed, what is current was published after the refresh began. -/
theorem InFlight.began_le_current (h : InFlight log epoch clock n r)
    (hepoch : epoch ≠ r.epochBefore) (hcurrent : current log = some (m, time, answer)) :
    r.began ≤ time := by
  obtain ⟨-, recent, older, hsplit, hcount, htimes⟩ := h
  have hpos : 0 < recent.count .invalidated := by omega
  rw [hsplit, current_append (List.count_pos_iff.mp hpos)] at hcurrent
  exact htimes m time answer (mem_of_current hcurrent)

/-! ## Steps keep the log coherent -/

/-- Two caches differ at most in their circuit breaker and their flag. -/
structure SameContents (c c' : JwksCache) : Prop where
  cache : c'.cache = c.cache
  lastRefresh : c'.lastRefresh = c.lastRefresh
  epoch : c'.epoch = c.epoch

theorem SameContents.rfl {c : JwksCache} : SameContents c c := ⟨.refl _, .refl _, .refl _⟩

theorem SameContents.trans {c c' c'' : JwksCache} (h : SameContents c c')
    (h' : SameContents c' c'') : SameContents c c'' :=
  ⟨h'.cache.trans h.cache, h'.lastRefresh.trans h.lastRefresh, h'.epoch.trans h.epoch⟩

theorem sameContents_finishRefresh {c : JwksCache} : SameContents c c.finishRefresh :=
  ⟨.refl _, .refl _, .refl _⟩

theorem sameContents_tryRefreshFinish {c : JwksCache} {began epochBefore now : Nat} :
    SameContents (c.refreshFinish codec epochBefore answer now).2
      (c.tryRefreshFinish codec began epochBefore answer now).2 := by
  unfold JwksCache.tryRefreshFinish
  split
  · next h => exact ⟨by rw [h]; rfl, by rw [h]; rfl, by rw [h]; rfl⟩
  · next h => exact ⟨by rw [h]; rfl, by rw [h]; rfl, by rw [h]; rfl⟩

theorem lookupFinish_snd {c : JwksCache} {began epochBefore now : Nat} {key : Bytes} :
    (c.lookupFinish codec began epochBefore answer now key).2 =
      (c.tryRefreshFinish codec began epochBefore answer now).2 := by
  unfold JwksCache.lookupFinish
  split
  · next h => rw [h]
  · next h => rw [h]

/-- A refresh that publishes replaces the cache. -/
theorem refreshFinish_publishes {epochBefore : Nat} (h : w.Publishes epochBefore answer) :
    (w.jwks.refreshFinish codec epochBefore answer w.clock).2 =
      { w.jwks with cache := snapshot codec answer, lastRefresh := w.clock } := by
  obtain ⟨hepoch, reads, rfl⟩ := h
  simp [JwksCache.refreshFinish, snapshot, fetchFromKv, hepoch]

/-- A refresh that does not leaves it. -/
theorem refreshFinish_keeps {epochBefore : Nat} (h : ¬ w.Publishes epochBefore answer) :
    (w.jwks.refreshFinish codec epochBefore answer w.clock).2 = w.jwks := by
  unfold JwksCache.refreshFinish
  split
  · rfl
  · next entries hok =>
    have hepoch : w.jwks.epoch ≠ epochBefore := fun heq => h ⟨heq, fetchFromKv_ok hok⟩
    rw [if_pos hepoch]

theorem fetchedEvents_publishes (h : w.Publishes r.epochBefore answer) :
    w.fetchedEvents n r answer = [.published n w.clock answer, .fetched n answer] := if_pos h

theorem fetchedEvents_keeps (h : ¬ w.Publishes r.epochBefore answer) :
    w.fetchedEvents n r answer = [.fetched n answer] := if_neg h

theorem coherent_start {T₀ : Nat} : Coherent codec (World.start T₀) :=
  { cached := nofun
    empty := fun _ => ⟨rfl, rfl⟩
    inFlight := nofun
    published := trivial }

/-- A step that the log does not show. -/
theorem Coherent.quiet {w' : World} (h : Coherent codec w) (hlog : w'.log = w.log)
    (hjwks : SameContents w.jwks w'.jwks) (hclock : w.clock ≤ w'.clock)
    (hsuspended : ∀ n r, w'.suspended n = some r → w.suspended n = some r) :
    Coherent codec w' := by
  refine ⟨?_, ?_, ?_, ?_⟩
  · intro n time answer hcurrent
    rw [hlog] at hcurrent
    rw [hjwks.cache, hjwks.lastRefresh]
    exact h.cached n time answer hcurrent
  · intro hcurrent
    rw [hlog] at hcurrent
    rw [hjwks.cache, hjwks.lastRefresh]
    exact h.empty hcurrent
  · intro n r hr
    rw [hlog, hjwks.epoch]
    exact (h.inFlight n r (hsuspended n r hr)).tick hclock
  · rw [hlog]
    exact h.published

theorem Coherent.answered (h : Coherent codec w) (key : Bytes) (began : Nat)
    (r : Except ApiError RegisteredIssuer) : Coherent codec (w.answer key began r) :=
  { cached := h.cached
    empty := h.empty
    inFlight := fun n r hr => (h.inFlight n r hr).cons nofun nofun
    published := ⟨trivial, h.published⟩ }

theorem Coherent.fetch (h : Coherent codec w) (hbegan : r.began ≤ w.clock)
    (hepoch : r.epochBefore = w.jwks.epoch) : Coherent codec (w.fetch r) := by
  refine ⟨h.cached, h.empty, ?_, ⟨trivial, h.published⟩⟩
  intro n r' hr'
  have hr' : Function.update w.suspended w.fetches (some r) n = some r' := hr'
  by_cases hn : n = w.fetches
  · rw [hn, Function.update_self] at hr'
    injection hr' with hr'
    rw [hn, ← hr']
    exact .start hbegan hepoch
  · rw [Function.update_of_ne hn] at hr'
    exact (h.inFlight n r' hr').cons nofun nofun

theorem Coherent.invalidate (h : Coherent codec w) :
    Coherent codec ({ w with jwks := w.jwks.invalidate }.record .invalidated) :=
  { cached := nofun
    empty := fun _ => ⟨rfl, rfl⟩
    inFlight := fun n r hr => (h.inFlight n r hr).invalidated
    published := ⟨trivial, h.published⟩ }

/-- An answered fetch, whatever becomes of the circuit breaker and the flag. -/
theorem Coherent.fetched {jwks : JwksCache} (h : Coherent codec w)
    (hr : w.suspended n = some r)
    (hjwks : SameContents (w.jwks.refreshFinish codec r.epochBefore answer w.clock).2 jwks) :
    Coherent codec { w.fetched n r answer with jwks } := by
  have hsuspended : ∀ m r', Function.update w.suspended n none m = some r' →
      w.suspended m = some r' := by
    intro m r' hm
    by_cases hmn : m = n
    · rw [hmn, Function.update_self] at hm
      cases hm
    · rwa [Function.update_of_ne hmn] at hm
  by_cases hp : w.Publishes r.epochBefore answer
  · rw [refreshFinish_publishes hp] at hjwks
    have hlog : (w.fetched n r answer).log =
        .published n w.clock answer :: .fetched n answer :: w.log := by
      show w.fetchedEvents n r answer ++ w.log = _
      rw [fetchedEvents_publishes hp]
      rfl
    refine ⟨?_, ?_, ?_, ?_⟩
    · intro m time a hcurrent
      have hcurrent : current (w.fetched n r answer).log = some (m, time, a) := hcurrent
      rw [hlog] at hcurrent
      injection hcurrent with hcurrent
      injection hcurrent with _ hcurrent
      injection hcurrent with htime ha
      rw [← htime, ← ha]
      exact ⟨hjwks.cache, hjwks.lastRefresh⟩
    · intro hcurrent
      have hcurrent : current (w.fetched n r answer).log = none := hcurrent
      rw [hlog] at hcurrent
      cases hcurrent
    · intro m r' hm
      show InFlight (w.fetched n r answer).log jwks.epoch w.clock m r'
      rw [hlog, hjwks.epoch]
      have hfetched : InFlight (.fetched n answer :: w.log) w.jwks.epoch w.clock m r' :=
        (h.inFlight m r' (hsuspended m r' hm)).cons nofun nofun
      refine hfetched.cons nofun ?_
      intro m' time a heq
      injection heq with _ htime _
      exact Nat.le_of_eq htime
    · show Always PublishedFetch (w.fetched n r answer).log
      rw [hlog]
      obtain ⟨recent, older, hsplit, hno⟩ :=
        (h.inFlight n r hr).startedSinceInvalidate hp.1
      refine ⟨⟨hp.2, List.mem_cons_self, .fetched n answer :: recent, older, ?_, ?_⟩, trivial,
        h.published⟩
      · rw [hsplit]
        rfl
      · intro hm
        rcases List.mem_cons.mp hm with heq | hm
        · cases heq
        · exact hno hm
  · rw [refreshFinish_keeps hp] at hjwks
    have hlog : (w.fetched n r answer).log = .fetched n answer :: w.log := by
      show w.fetchedEvents n r answer ++ w.log = _
      rw [fetchedEvents_keeps hp]
      rfl
    refine ⟨?_, ?_, ?_, ?_⟩
    · intro m time a hcurrent
      have hcurrent : current (w.fetched n r answer).log = some (m, time, a) := hcurrent
      rw [hlog] at hcurrent
      obtain ⟨hcache, hlast⟩ := h.cached m time a hcurrent
      exact ⟨hjwks.cache.trans hcache, hjwks.lastRefresh.trans hlast⟩
    · intro hcurrent
      have hcurrent : current (w.fetched n r answer).log = none := hcurrent
      rw [hlog] at hcurrent
      obtain ⟨hcache, hlast⟩ := h.empty hcurrent
      exact ⟨hjwks.cache.trans hcache, hjwks.lastRefresh.trans hlast⟩
    · intro m r' hm
      show InFlight (w.fetched n r answer).log jwks.epoch w.clock m r'
      rw [hlog, hjwks.epoch]
      exact (h.inFlight m r' (hsuspended m r' hm)).cons nofun nofun
    · show Always PublishedFetch (w.fetched n r answer).log
      rw [hlog]
      exact ⟨trivial, h.published⟩

theorem coherent_lookupIssuer (h : Coherent codec w) (key : Bytes) (context : Bool) :
    Coherent codec (w.lookupIssuer key context) := by
  have hquiet : ∀ w' : World, w'.log = w.log → SameContents w.jwks w'.jwks →
      w'.clock = w.clock → w'.suspended = w.suspended → Coherent codec w' := by
    intro w' hlog hjwks hclock hsuspended
    exact h.quiet hlog hjwks (Nat.le_of_eq hclock.symm) fun n r hr => hsuspended ▸ hr
  unfold World.lookupIssuer
  split
  · exact h.answered _ _ _
  · split
    · split
      · exact h.fetch (Nat.le_refl _) rfl
      · exact (hquiet { w with jwks := w.jwks.finishRefresh } rfl sameContents_finishRefresh rfl
          rfl).answered _ _ _
    · split
      · exact h.answered _ _ _
      · refine Coherent.answered (hquiet _ ?_ ?_ ?_ ?_) _ _ _
        · cases context <;> rfl
        · cases context <;> exact ⟨rfl, rfl, rfl⟩
        · cases context <;> rfl
        · cases context <;> rfl

theorem coherent_startBackground (h : Coherent codec w) : Coherent codec w.startBackground := by
  unfold World.startBackground
  split
  · exact h
  · split
    · have hqueued : Coherent codec { w with queued := w.queued - 1 } :=
        h.quiet rfl .rfl (Nat.le_refl _) fun _ _ hr => hr
      exact hqueued.fetch (Nat.le_refl _) rfl
    · exact h.quiet rfl sameContents_finishRefresh (Nat.le_refl _) fun _ _ hr => hr

theorem coherent_resume (h : Coherent codec w) (n : Nat) (answer : Fetch) :
    Coherent codec (w.resume codec n answer) := by
  unfold World.resume
  split
  · exact h
  · next r hr =>
    cases r with
    | prewarm epochBefore => exact h.fetched hr .rfl
    | background now epochBefore =>
      exact h.fetched hr (sameContents_tryRefreshFinish.trans sameContents_finishRefresh)
    | lookup key now epochBefore =>
      refine Coherent.answered (h.fetched hr ?_) _ _ _
      rw [lookupFinish_snd]
      exact sameContents_tryRefreshFinish

theorem coherent_cancel (h : Coherent codec w) (n : Nat) : Coherent codec (w.cancel n) := by
  have hsuspended : ∀ m r, Function.update w.suspended n none m = some r →
      w.suspended m = some r := by
    intro m r hm
    by_cases hmn : m = n
    · rw [hmn, Function.update_self] at hm
      cases hm
    · rwa [Function.update_of_ne hmn] at hm
  unfold World.cancel
  split
  · exact h.quiet rfl sameContents_finishRefresh (Nat.le_refl _) hsuspended
  · exact h.quiet rfl .rfl (Nat.le_refl _) hsuspended

/-- **A step keeps the log coherent.** -/
theorem Coherent.step (h : Coherent codec w) (a : Act) : Coherent codec (step codec w a) := by
  cases a with
  | tick seconds => exact h.quiet rfl .rfl (Nat.le_add_right _ _) fun _ _ hr => hr
  | lookupIssuer key context => exact coherent_lookupIssuer h key context
  | startBackground => exact coherent_startBackground h
  | prewarm => exact h.fetch (Nat.zero_le _) rfl
  | resume n answer => exact coherent_resume h n answer
  | invalidate => exact h.invalidate
  | cancel n => exact coherent_cancel h n
  | cancelQueued => exact h.quiet rfl .rfl (Nat.le_refl _) fun _ _ hr => hr

variable {T₀ : Nat} {rule : World → Act → Prop}

theorem coherent (hr : (isolate codec T₀ rule).Reached w) : Coherent codec w := by
  refine hr.invariant ?_ ?_
  · rintro w rfl
    exact coherent_start
  · intro w a _ h _
    exact h.step a

end IssuerRegistry

end ProviiVerifier
