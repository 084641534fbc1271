/-
  `KvBanStore`: the ban checks of an isolate, which interleave at their KV reads.

  The checks share one cache. Each looks into it, reads KV on a miss or on an entry that is too old,
  and stores the verdict under the time of its look; while KV is read, other checks go on and ban
  entries appear and disappear. What a check does between two reads nothing else comes between.

  Proved, for every run (`ban_verdict_sound`): a verdict is the presence of the nullifier's own ban
  key at an instant within the check, or no further before its start than the time to live; a read
  that fails ends its check in an error and stores nothing; the cache holds no more entries than its
  bound; and nullifiers have distinct keys.
-/
import ProviiVerifier.Challenge
import ProviiVerifier.Encoding.Base64Url
import ProviiVerifier.Error
import ProviiVerifier.Interleaving.Clock
import ProviiVerifier.Retention.BoundedCache

namespace ProviiVerifier

namespace BanStore

open Interleaving Prog

/-! ## The source -/

abbrev Nullifier := FixedBytes 32

/-- `CachedBanCheck`. -/
structure CachedBanCheck where
  isBanned : Bool
  checkedAt : Nat

/-- `BAN_CACHE_TTL_MS`. -/
def banCacheTtlMs : Nat := 300000

/-- `BAN_CACHE_MAX_ENTRIES`. -/
def banCacheMaxEntries : Nat := 10000

/-- The cache of an isolate. -/
abbrev Cache := BoundedCache.Cache Nullifier CachedBanCheck

/-- The KV namespace. -/
abbrev Kv := String → Option String

/-- `make_key`. -/
def makeKey (nullifier : Nullifier) : String :=
  "ban:" ++ String.ofList (Base64Url.encode nullifier.val)

/-- Why a read gives no answer: KV failed, or it did not answer in `KV_READ_TIMEOUT_MS`. -/
inductive ReadFault
  | failed (e : String)
  | timedOut

def ReadFault.error : ReadFault → ApiError
  | .failed e => .internal ("KV get failed: " ++ e)
  | .timedOut => .internal "ban_store KV read timed out after 500ms"

/-- What a look into the cache tells: the time and the entry of the nullifier, of any age. -/
abbrev Seen := Nat × Option CachedBanCheck

/-- The operations of a check. -/
inductive BanOp
  | look (nullifier : Nullifier)
  | fetch (nullifier : Nullifier)
  | store (nullifier : Nullifier) (now : Nat) (isBanned : Bool)

abbrev BanRes : BanOp → Type
  | .look _ => Seen
  | .fetch _ => Except ApiError (Option String)
  | .store _ _ _ => Unit

/-- The entry that a look finds and that has not expired. -/
def fresh (seen : Seen) : Option CachedBanCheck :=
  seen.2.filter fun e => seen.1 - e.checkedAt < banCacheTtlMs

/-- `is_banned`. -/
def isBanned (nullifier : Nullifier) : Prog BanOp BanRes ApiError Bool :=
  .call (.look nullifier) fun seen =>
    match fresh seen with
    | some entry => .ret entry.isBanned
    | none =>
      .call (.fetch nullifier) fun
        | .error e => .fail e
        | .ok value =>
          .call (.store nullifier seen.1 value.isSome) fun _ => .ret value.isSome

/-- The insertion of a verdict: a cache that has reached its bound is cleared first. -/
def insertCheck (cache : Cache) (now : Nat) (nullifier : Nullifier) (isBanned : Bool) : Cache :=
  (if cache.entries.length ≥ banCacheMaxEntries then ∅ else cache).insert nullifier
    ⟨isBanned, now⟩

/-! ## The isolate and KV -/

/-- The clock in milliseconds, KV and the cache of the isolate. -/
structure State where
  clock : Nat
  kv : Kv
  cache : Cache

/-- Steps no check takes: time passes, a ban entry appears, changes or disappears. -/
inductive Env
  | tick (ms : Nat)
  | putKv (key : String) (value : Option String)

/-- What the outside decides of an operation: the fault of a read. -/
abbrev BanChoice : BanOp → Type
  | .look _ => Unit
  | .fetch _ => Option ReadFault
  | .store _ _ _ => Unit

/-- The read from KV. -/
def readBan (kv : Kv) (fault : Option ReadFault) (nullifier : Nullifier) :
    Except ApiError (Option String) :=
  match fault with
  | some f => .error f.error
  | none => .ok (kv (makeKey nullifier))

def perform (s : State) : (op : BanOp) → BanChoice op → BanRes op × State
  | .look nullifier, _ => ((s.clock, s.cache.lookup nullifier), s)
  | .fetch nullifier, fault => (readBan s.kv fault nullifier, s)
  | .store nullifier now isBanned, _ =>
    ((), { s with cache := insertCheck s.cache now nullifier isBanned })

def envStep (s : State) : Env → State
  | .tick ms => { s with clock := s.clock + ms }
  | .putKv key value => { s with kv := Function.update s.kv key value }

abbrev isolate : Machine BanOp BanRes :=
  { State := State
    Choice := BanChoice
    Env := Env
    perform := perform
    envStep := envStep }

/-- Checks arrive and interleave in any order, and KV changes and fails at any time. -/
def anyChecks : Rules isolate Nullifier :=
  { arrive := fun _ _ _ => True
    call := fun _ _ _ _ => True
    env := fun _ _ => True }

instance : DecidableRules anyChecks :=
  { arrive := fun _ _ _ => .isTrue trivial
    call := fun _ _ _ _ => .isTrue trivial
    env := fun _ _ => .isTrue trivial }

/-- An isolate starts with an empty cache. -/
def Fresh (s : State) : Prop := s.cache = ∅

/-- The pools of checks. -/
abbrev Checks := Pool isolate Nullifier ApiError Bool

/-! ## What is sound -/

/-- The read is an instant within the check, or no further before its start than the time to
live. -/
def Within (began ended read : Nat) : Prop :=
  began ≤ read ∧ read ≤ ended ∨ read ≤ began ∧ began ≤ read + banCacheTtlMs

/-- KV was read for the nullifier, and held its ban key or not. -/
def ReadAs (tr : List (Event isolate Nullifier)) (nullifier : Nullifier) (banned : Bool)
    (read : State) : Prop :=
  (∃ i, .call i read (.fetch nullifier) none ∈ tr) ∧
    (read.kv (makeKey nullifier)).isSome = banned

/-- A verdict of a check is right at an instant that the check may speak of. -/
def Sound (tr : List (Event isolate Nullifier)) (i : Nat) (banned : Bool) : Prop :=
  ∃ nullifier began ended read, .arrive i nullifier ∈ tr ∧
    .call i began (.look nullifier) () ∈ tr ∧ LastRan tr i ended ∧
    ReadAs tr nullifier banned read ∧
    Within (State.clock began) (State.clock ended) (State.clock read)

/-! ## Along one check -/

section Check

variable {nullifier : Nullifier} {h : History BanOp BanRes}

/-- What a check has done where it takes a step. -/
def CheckGuard (nullifier : Nullifier) (h : History BanOp BanRes) : BanOp → Prop
  | .look n => n = nullifier ∧ h = []
  | .fetch n => n = nullifier ∧ ∃ seen, fresh seen = none ∧ h = [⟨.look n, seen⟩]
  | .store n now banned => n = nullifier ∧ ∃ value entry, banned = value.isSome ∧
      h = [⟨.fetch n, .ok value⟩, ⟨.look n, (now, entry)⟩]

/-- What a check has done when it ends: it found a fresh entry, its read failed, or it stored what
it read. -/
inductive EndedBy (nullifier : Nullifier) : History BanOp BanRes → Except ApiError Bool → Prop
  | hit {seen : Seen} {e : CachedBanCheck} (hfresh : fresh seen = some e) :
      EndedBy nullifier [⟨.look nullifier, seen⟩] (.ok e.isBanned)
  | failed {seen : Seen} {e : ApiError} :
      EndedBy nullifier [⟨.fetch nullifier, .error e⟩, ⟨.look nullifier, seen⟩] (.error e)
  | read {value : Option String} {seen : Seen} :
      EndedBy nullifier [⟨.store nullifier seen.1 value.isSome, ()⟩,
        ⟨.fetch nullifier, .ok value⟩, ⟨.look nullifier, seen⟩] (.ok value.isSome)

/-- What one check does, whatever it is answered. -/
theorem guarded_isBanned (nullifier : Nullifier) :
    (isBanned nullifier).Guarded (CheckGuard nullifier) (EndedBy nullifier) [] := by
  refine ⟨⟨rfl, rfl⟩, fun seen => ?_⟩
  dsimp only
  cases hfresh : fresh seen with
  | some e => exact .hit hfresh
  | none =>
    refine ⟨⟨rfl, seen, hfresh, rfl⟩, fun answer => ?_⟩
    cases answer with
    | error e => exact .failed
    | ok value => exact ⟨⟨rfl, value, seen.2, rfl, rfl⟩, fun _ => .read⟩

end Check

/-! ## Over a run -/

section Runs

variable {p : Checks} {nullifier : Nullifier} {now : Nat} {banned : Bool} {cache : Cache}
  {e : CachedBanCheck} {i : Nat}

/-- The runs of checks on an isolate. -/
abbrev CheckRun (p : Checks) : Prop := Run isBanned anyChecks Fresh p

theorem forward_clock : Forward isolate State.clock := by
  refine ⟨fun s op c => ?_, fun s e => ?_⟩
  · cases op with
    | look nullifier => exact Nat.le_refl _
    | fetch nullifier => exact Nat.le_refl _
    | store nullifier now banned => exact Nat.le_refl _
  · cases e with
    | tick ms => exact Nat.le_add_right _ _
    | putKv key value => exact Nat.le_refl _

/-- A full cache is cleared, as none of its entries is worth keeping. -/
theorem insertCheck_eq : insertCheck cache now nullifier banned =
    BoundedCache.put banCacheMaxEntries (fun _ => false) cache nullifier ⟨banned, now⟩ := by
  have hdrop : BoundedCache.retain (fun _ => false) cache = ∅ := by
    refine AList.ext ?_
    show cache.entries.filter (fun _ => false) = []
    rw [List.filter_false]
  unfold insertCheck BoundedCache.put BoundedCache.makeRoom
  rw [hdrop, ite_self]

/-- Every entry was stored by a check, and the cache is within its bound. -/
structure Kept (w : World isolate Nullifier) : Prop where
  stored : ∀ n e, (State.cache w.state).lookup n = some e →
    ∃ i s, .call i s (.store n e.checkedAt e.isBanned) () ∈ w.trace
  bounded : (State.cache w.state).entries.length ≤ banCacheMaxEntries

theorem Kept.cons {w : World isolate Nullifier} (h : Kept w) {s : State}
    {ev : Event isolate Nullifier} (hs : s.cache = State.cache w.state) :
    Kept ⟨s, ev :: w.trace⟩ := by
  refine ⟨fun n e he => ?_, ?_⟩
  · rw [hs] at he
    obtain ⟨i, s', hm⟩ := h.stored n e he
    exact ⟨i, s', List.mem_cons_of_mem _ hm⟩
  · rw [hs]
    exact h.bounded

/-- An operation keeps it. -/
theorem Kept.after {w : World isolate Nullifier} (h : Kept w) (i : Nat) (op : BanOp)
    (c : isolate.Choice op) : Kept (w.after i op c) := by
  cases op with
  | look nullifier => exact h.cons rfl
  | fetch nullifier => exact h.cons rfl
  | store nullifier now banned =>
    have hcache : State.cache (w.after i (.store nullifier now banned) c).state =
        BoundedCache.put banCacheMaxEntries (fun _ => false) (State.cache w.state) nullifier
          ⟨banned, now⟩ := insertCheck_eq
    refine ⟨fun n e he => ?_, ?_⟩
    · rw [hcache] at he
      rcases BoundedCache.lookup_put he with ⟨rfl, rfl⟩ | ⟨-, hold⟩
      · exact ⟨i, w.state, List.mem_cons_self⟩
      · obtain ⟨j, s, hm⟩ := h.stored n e hold
        exact ⟨j, s, List.mem_cons_of_mem _ hm⟩
    · rw [hcache]
      exact BoundedCache.length_put_le (by decide)

/-- **Every run** keeps it. -/
theorem run_kept (hr : CheckRun p) : Kept p.world := by
  refine Run.invariant (I := Kept) guarded_isBanned ?_ ?_ ?_ ?_ hr
  · intro s hs
    have hempty : State.cache s = ∅ := hs
    refine ⟨fun n e he => ?_, ?_⟩
    · rw [hempty, AList.lookup_empty] at he
      cases he
    · rw [hempty]
      exact Nat.zero_le _
  · intro w i n _ h _
    exact h.cons rfl
  · intro w i op c n _ h _ _ _
    exact h.after i op c
  · intro w e _ h _
    cases e with
    | tick ms => exact ⟨h.stored, h.bounded⟩
    | putKv key value => exact ⟨h.stored, h.bounded⟩

/-- **A stored verdict** was read between the look that dates it and the store. -/
theorem read_of_store (hr : CheckRun p) {stored : State}
    (hm : .call i stored (.store nullifier now banned) () ∈ p.world.trace) :
    ∃ looked read, .call i looked (.look nullifier) () ∈ p.world.trace ∧
      ReadAs p.world.trace nullifier banned read ∧ looked.clock = now ∧
      looked.clock ≤ read.clock ∧ read.clock ≤ stored.clock := by
  have htimed : Timed State.clock p.world := hr.timed forward_clock
  obtain ⟨new, old, ht⟩ := List.append_of_mem hm
  obtain ⟨-, -, n, -, -, value, entry, hbanned, hown⟩ := hr.call_event guarded_isBanned ht
  obtain ⟨new₁, read, op, fault, old₁, hold, hx, hown₁⟩ := own_suffix ⟨[], hown.symm⟩
  injection hx with hop hread
  subst hop
  obtain ⟨new₂, looked, op, c, old₂, hold₁, hx, -⟩ := own_suffix ⟨[], hown₁.symm⟩
  injection hx with hop hresult
  subst hop
  have hseen : (now, entry) = (looked.clock, (State.cache looked).lookup nullifier) :=
    eq_of_heq hresult
  injection hseen with hnow
  have hanswer : readBan (State.kv read) fault nullifier = .ok value := (eq_of_heq hread).symm
  have hfetch : .call i read (.fetch nullifier) fault ∈ old := by
    rw [hold]
    exact List.mem_append_right _ List.mem_cons_self
  have hlooked : .call i looked (.look nullifier) c ∈ old₁ := by
    rw [hold₁]
    exact List.mem_append_right _ List.mem_cons_self
  have hlook : .call i looked (.look nullifier) c ∈ old := by
    rw [hold]
    exact List.mem_append_right _ (List.mem_cons_of_mem _ hlooked)
  have hin : ∀ ev ∈ old, ev ∈ p.world.trace := by
    intro ev hev
    rw [ht]
    exact List.mem_append_right _ (List.mem_cons_of_mem _ hev)
  have ht₁ : p.world.trace = (new ++ .call i stored (.store nullifier now banned) () :: new₁) ++
      .call i read (.fetch nullifier) fault :: old₁ := by
    rw [ht, hold, List.append_assoc]
    rfl
  cases fault with
  | some f => cases hanswer
  | none =>
    injection hanswer with hvalue
    refine ⟨looked, read, hin _ hlook, ⟨⟨i, hin _ hfetch⟩, ?_⟩, hnow.symm, ?_, ?_⟩
    · rw [hbanned, ← hvalue]
    · exact htimed.ordered _ _ _ _ _ _ ht₁ _ _ _ _ hlooked
    · exact htimed.ordered _ _ _ _ _ _ ht _ _ _ _ hfetch

/-- **An entry** that a look finds was read by then, no earlier than the time it carries. -/
theorem read_of_lookup (hr : CheckRun p) {new old : List (Event isolate Nullifier)} {seen : State}
    {op : BanOp} {c : isolate.Choice op} (ht : p.world.trace = new ++ .call i seen op c :: old)
    (he : (State.cache seen).lookup nullifier = some e) :
    ∃ read, ReadAs p.world.trace nullifier e.isBanned read ∧ e.checkedAt ≤ read.clock ∧
      read.clock ≤ seen.clock := by
  obtain ⟨⟨q, hq, hworld⟩, -⟩ := hr.call_event guarded_isBanned ht
  have hkept : Kept ⟨seen, old⟩ := hworld ▸ run_kept hq
  obtain ⟨j, stored, hm⟩ := hkept.stored nullifier e he
  have hm' : .call j stored (.store nullifier e.checkedAt e.isBanned) () ∈ p.world.trace := by
    rw [ht]
    exact List.mem_append_right _ (List.mem_cons_of_mem _ hm)
  obtain ⟨looked, read, -, hread, hlooked, hle, hle'⟩ := read_of_store hr hm'
  have hstored : State.clock stored ≤ State.clock seen :=
    (hr.timed forward_clock).ordered _ _ _ _ _ _ ht _ _ _ _ hm
  exact ⟨read, hread, by omega, by omega⟩

/-- **What ends a check in a verdict** makes the verdict sound. -/
theorem sound_of_ended (hr : CheckRun p) (harr : .arrive i nullifier ∈ p.world.trace)
    (hended : EndedBy nullifier (own i p.world.trace) (.ok banned)) :
    Sound p.world.trace i banned := by
  generalize hown : own i p.world.trace = h at hended
  cases hended with
  | @hit seen e hfresh =>
    obtain ⟨new, began, op, c, old, ht, hx, -, hlast⟩ := lastRan_of_own hown
    injection hx with hop hseen
    subst hop
    have hseen : seen = (began.clock, (State.cache began).lookup nullifier) := eq_of_heq hseen
    obtain ⟨hlookup, hage⟩ := Option.filter_eq_some_iff.mp hfresh
    rw [hseen] at hlookup hage
    have hage : began.clock - e.checkedAt < banCacheTtlMs := of_decide_eq_true hage
    obtain ⟨read, hread, hle, hle'⟩ := read_of_lookup hr ht hlookup
    have hlook : .call i began (.look nullifier) () ∈ p.world.trace := by
      rw [ht]
      exact List.mem_append_right _ List.mem_cons_self
    exact ⟨nullifier, began, began, read, harr, hlook, hlast, hread, .inr ⟨hle', by omega⟩⟩
  | @read value seen =>
    obtain ⟨new, ended, op, c, old, ht, hx, -, hlast⟩ := lastRan_of_own hown
    injection hx with hop
    subst hop
    have hm : .call i ended (.store nullifier seen.1 value.isSome) () ∈ p.world.trace := by
      rw [ht]
      exact List.mem_append_right _ List.mem_cons_self
    obtain ⟨began, read, hlook, hread, -, hle, hle'⟩ := read_of_store hr hm
    exact ⟨nullifier, began, ended, read, harr, hlook, hlast, hread, .inl ⟨hle, hle'⟩⟩

/-- A check whose read failed takes no further step. -/
theorem not_guard_failed {n : Nullifier} {err : ApiError} {past : History BanOp BanRes}
    {op : BanOp} : ¬ CheckGuard nullifier (⟨.fetch n, .error err⟩ :: past) op := by
  intro hg
  cases op with
  | look m => cases hg.2
  | fetch m =>
    obtain ⟨-, seen, -, hh⟩ := hg
    injection hh with hx
    injection hx with hop
    cases hop
  | store m now banned =>
    obtain ⟨-, value, entry, -, hh⟩ := hg
    injection hh with hx
    cases hx

/-- A failed read is the last thing its check does, after a look that found no fresh entry. -/
theorem own_of_failed (hr : CheckRun p) {s : State} {fault : ReadFault}
    (hm : .call i s (.fetch nullifier) (some fault) ∈ p.world.trace) :
    ∃ seen, fresh seen = none ∧ own i p.world.trace =
      [⟨.fetch nullifier, .error fault.error⟩, ⟨.look nullifier, seen⟩] := by
  obtain ⟨new, old, ht⟩ := List.append_of_mem hm
  obtain ⟨-, -, n, -, -, seen, hfresh, hpast⟩ := hr.call_event guarded_isBanned ht
  have hread : own i (.call i s (.fetch nullifier) (some fault) :: old) =
      ⟨.fetch nullifier, .error fault.error⟩ :: own i old := own_call_self i s _ _ old
  have hown : own i p.world.trace =
      own i new ++ ⟨.fetch nullifier, .error fault.error⟩ :: own i old := by
    rw [← hread, ht]
    exact List.filterMap_append ..
  rw [hpast] at hown
  rcases List.eq_nil_or_concat (own i new) with hnil | ⟨front, y, hfront⟩
  · rw [hnil] at hown
    exact ⟨seen, hfresh, hown⟩
  · rw [hfront, List.concat_append] at hown
    obtain ⟨new', s', op, c, old', ht', -, hold⟩ := own_suffix ⟨front, hown.symm⟩
    obtain ⟨-, -, m, -, hg⟩ := hr.call_event guarded_isBanned ht'
    rw [hold] at hg
    exact absurd hg not_guard_failed

/-- **A read that fails** ends its check in the error. -/
theorem outcome_of_failed (hr : CheckRun p) {s : State} {fault : ReadFault}
    (hm : .call i s (.fetch nullifier) (some fault) ∈ p.world.trace) :
    p.outcome i = some (.error fault.error) := by
  obtain ⟨seen, -, hown⟩ := own_of_failed hr hm
  cases hproc : p.procs i with
  | none =>
    rw [(hr.no_event hproc).1] at hown
    cases hown
  | some q =>
    obtain ⟨n, -, hq⟩ := hr.guarded guarded_isBanned hproc
    rw [hown] at hq
    have hout : p.outcome i = q.outcome := by
      unfold Pool.outcome
      rw [hproc, Option.bind_some]
    cases q with
    | ret banned => cases hq
    | fail e =>
      cases hq with
      | failed => exact hout
    | call op k => exact absurd hq.1 not_guard_failed

/-- **A check whose read fails** changes nothing. -/
theorem unchanged_of_failed (hr : CheckRun p) {s s' : State} {fault : ReadFault} {op : BanOp}
    {c : isolate.Choice op}
    (hm : .call i s (.fetch nullifier) (some fault) ∈ p.world.trace)
    (hstep : .call i s' op c ∈ p.world.trace) : (isolate.perform s' op c).2 = s' := by
  obtain ⟨seen, -, hown⟩ := own_of_failed hr hm
  have hx : ⟨op, (isolate.perform s' op c).1⟩ ∈ own i p.world.trace :=
    mem_own.mpr ⟨s', c, hstep, rfl⟩
  rw [hown] at hx
  cases op with
  | look n => rfl
  | fetch n => rfl
  | store n now banned =>
    rcases List.mem_cons.mp hx with heq | hx
    · cases heq
    · cases List.mem_singleton.mp hx

theorem makeKey_inj {n m : Nullifier} (h : makeKey n = makeKey m) : n = m := by
  have htext := congrArg String.toList h
  unfold makeKey at htext
  simp only [String.toList_append, String.toList_ofList] at htext
  have hdecoded := congrArg Base64Url.decode (List.append_cancel_left htext)
  rw [Base64Url.decode_encode, Base64Url.decode_encode] at hdecoded
  exact Subtype.ext (Option.some.inj hdecoded)

/-- **Ban verdicts are sound**, in every run: each is right at an instant its check may speak of; a
read that fails ends its check in an error and changes nothing; nullifiers do not share a key; and
the cache is within its bound. -/
theorem ban_verdict_sound {p : Checks} (hr : Run isBanned anyChecks Fresh p) :
    (∀ i banned, p.outcome i = some (.ok banned) → Sound p.world.trace i banned) ∧
    (∀ i s n fault, .call i s (.fetch n) (some fault) ∈ p.world.trace →
      p.outcome i = some (.error fault.error) ∧
      ∀ s' op c, .call i s' op c ∈ p.world.trace → (isolate.perform s' op c).2 = s') ∧
    (∀ n m, makeKey n = makeKey m → n = m) ∧
    (State.cache p.world.state).entries.length ≤ banCacheMaxEntries := by
  refine ⟨?_, ?_, fun _ _ => makeKey_inj, (run_kept hr).bounded⟩
  · intro i banned hout
    obtain ⟨n, harr, hended⟩ := hr.outcome guarded_isBanned hout
    exact sound_of_ended hr harr hended
  · intro i s n fault hm
    exact ⟨outcome_of_failed hr hm, fun s' op c hstep => unchanged_of_failed hr hm hstep⟩

end Runs

/-! ## Samples -/

/-- The nullifier of one byte all over. -/
def sampleNullifier (b : UInt8) : Nullifier := ⟨b :: List.replicate 31 0, rfl⟩

def emptyState : State := { clock := 0, kv := fun _ => none, cache := ∅ }

theorem fresh_emptyState : Fresh emptyState := rfl

/-- The reads end so. -/
def reading (fault : Option ReadFault) : (op : BanOp) → isolate.Choice op
  | .look _ => ()
  | .fetch _ => fault
  | .store _ _ _ => ()

/-- A nullifier is checked, then banned; it is checked again a millisecond before the first verdict
is five minutes old, and the check of another nullifier times out. -/
def bannedMeanwhile : List (Act isolate Nullifier) :=
  [.arrive 0 (sampleNullifier 7), .call 0 (reading none), .call 0 (reading none),
    .env (Env.putKv (makeKey (sampleNullifier 7)) (some "fraud")), .call 0 (reading none),
    .env (Env.tick 299999), .arrive 1 (sampleNullifier 7), .call 1 (reading none),
    .arrive 2 (sampleNullifier 8), .call 2 (reading none), .call 2 (reading (some .timedOut))]

/-- The stale verdict is right at an instant of the last five minutes, and the time-out is no
verdict. -/
theorem ban_verdict_sound_stale : ∃ p : Checks, Run isBanned anyChecks Fresh p ∧
    p.outcome 1 = some (.ok false) ∧ Sound p.world.trace 1 false ∧
    p.outcome 2 = some (.error ReadFault.timedOut.error) := by
  have hrun : ∃ p : Checks, Run isBanned anyChecks Fresh p ∧
      p.outcome 1 = some (.ok false) ∧ p.outcome 2 = some (.error ReadFault.timedOut.error) :=
    Run.of_replay emptyState bannedMeanwhile fresh_emptyState (by decide +kernel)
  obtain ⟨p, hr, hout, hfailed⟩ := hrun
  exact ⟨p, hr, hout, (ban_verdict_sound hr).1 1 false hout, hfailed⟩

end BanStore

end ProviiVerifier
