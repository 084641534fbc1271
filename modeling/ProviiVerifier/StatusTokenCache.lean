/-
  `security/status_token_cache.rs`: the hashes of the status tokens, cached for five minutes.

  A call reads the cache; on a miss it reads the secret from the Secrets Store, hashes it and writes
  the record, stamped with the time of the write. The read of the store may take any time, and other
  calls go on meanwhile.

  Proved, for every run: what a call serves reflects what the store answered at an instant that is
  no further back than the time to live and the duration of the read (`served_recently`), and a
  record never replaces one that was read later if and only if the calls write in the order in which
  the store answered them (`status_token_bound`).
-/
import ProviiVerifier.Stores

namespace ProviiVerifier

namespace StatusTokenCache

open Interleaving Prog

/-! ## The source -/

/-- SHA-256, and Argon2id under a salt; `none` where hashing fails. -/
structure Config where
  sha256 : Bytes → Bytes
  argon2id : String → Bytes → Option String

/-- `STATUS_TOKEN_CACHE_TTL_MS`. -/
def statusTokenCacheTtlMs : Nat := 5 * 60 * 1000

/-- `FINGERPRINT_UNSET`. -/
def fingerprintUnset : String := "000000"

/-- `fingerprint6_str`. -/
def fingerprint6Str (cfg : Config) (value : String) : String :=
  if value = "" then fingerprintUnset
  else
    match cfg.sha256 (utf8Bytes value) with
    | a :: b :: c :: _ => Idempotency.hexEncode [a, b, c]
    | _ => fingerprintUnset

structure CachedSlot where
  argon2Hash : Option String
  fingerprint : String
  deriving DecidableEq

structure CacheRecord where
  slot : CachedSlot
  fetchedAtMs : Nat
  deriving DecidableEq

/-- The slot of a binding without a token. -/
def unsetSlot : CachedSlot := ⟨none, fingerprintUnset⟩

/-- What the Secrets Store answers. -/
inductive SecretRead
  | unavailable
  | failed
  | notFound
  | found (token : String)
  deriving DecidableEq

/-- The operations of a call. -/
inductive SlotOp
  | readFresh (binding : String)
  | fetch (binding : String)
  | hash (token : String)
  | writeRecord (binding : String) (slot : CachedSlot)
  deriving DecidableEq

abbrev SlotRes : SlotOp → Type
  | .readFresh _ => Option CachedSlot
  | .fetch _ => SecretRead
  | .hash _ => Option String
  | .writeRecord _ _ => Unit

abbrev SlotHandler (α : Type) := Prog SlotOp SlotRes Empty α

/-- The slot of a token that was hashed. -/
def hashedSlot (cfg : Config) (token : String) : Option String → CachedSlot
  | some argon2Hash => ⟨some argon2Hash, fingerprint6Str cfg token⟩
  | none => unsetSlot

/-- `fetch_and_hash`. -/
def fetchAndHash (cfg : Config) (binding : String) : SlotHandler CachedSlot :=
  .call (.fetch binding) fun
    | .found token =>
      if token = "" then .ret unsetSlot
      else .call (.hash token) fun hashed => .ret (hashedSlot cfg token hashed)
    | .notFound => .ret unsetSlot
    | .failed => .ret unsetSlot
    | .unavailable => .ret unsetSlot

/-- `get_or_refresh`. -/
def getOrRefresh (cfg : Config) (binding : String) : SlotHandler CachedSlot :=
  .call (.readFresh binding) fun
    | some fresh => .ret fresh
    | none =>
      fetchAndHash cfg binding >>= fun slot =>
        .call (.writeRecord binding slot) fun _ => .ret slot

/-! ## The isolate and the store -/

/-- The clock in milliseconds, the stored secrets and the cache of the isolate. -/
structure State where
  clock : Nat
  secrets : String → Option String
  cache : String → Option CacheRecord

/-- Steps no call takes: time passes, an operator changes a secret. -/
inductive Env
  | tick (ms : Nat)
  | setSecret (binding : String) (token : Option String)

/-- How a read of the Secrets Store goes. -/
inductive FetchFault
  | none
  | unavailable
  | failed
  deriving DecidableEq

/-- What the outside decides of an operation: faults of the store, and the salt. -/
abbrev SlotChoice : SlotOp → Type
  | .readFresh _ => Unit
  | .fetch _ => FetchFault
  | .hash _ => String
  | .writeRecord _ _ => Unit

/-- `read_fresh`. -/
def readFresh (s : State) (binding : String) : Option CachedSlot :=
  match s.cache binding with
  | some record =>
    if s.clock - record.fetchedAtMs ≤ statusTokenCacheTtlMs then some record.slot else none
  | none => none

/-- `write_record`. -/
def writeRecord (s : State) (binding : String) (slot : CachedSlot) : State :=
  { s with cache := Function.update s.cache binding (some ⟨slot, s.clock⟩) }

/-- The answer of the Secrets Store. -/
def secretRead (s : State) (binding : String) : FetchFault → SecretRead
  | .unavailable => .unavailable
  | .failed => .failed
  | .none =>
    match s.secrets binding with
    | some token => .found token
    | none => .notFound

def perform (cfg : Config) (s : State) : (op : SlotOp) → SlotChoice op → SlotRes op × State
  | .readFresh binding, _ => (readFresh s binding, s)
  | .fetch binding, fault => (secretRead s binding fault, s)
  | .hash token, salt => (cfg.argon2id salt (utf8Bytes token), s)
  | .writeRecord binding slot, _ => ((), writeRecord s binding slot)

def envStep (s : State) : Env → State
  | .tick ms => { s with clock := s.clock + ms }
  | .setSecret binding token => { s with secrets := Function.update s.secrets binding token }

def isolate (cfg : Config) : Machine SlotOp SlotRes :=
  { State := State
    Choice := SlotChoice
    Env := Env
    perform := perform cfg
    envStep := envStep }

/-- Calls arrive and interleave in any order. -/
def anyCalls (cfg : Config) : Rules (isolate cfg) String :=
  { arrive := fun _ _ _ => True
    call := fun _ _ _ _ => True
    env := fun _ _ => True }

instance (cfg : Config) : DecidableRules (anyCalls cfg) :=
  { arrive := fun _ _ _ => .isTrue trivial
    call := fun _ _ _ _ => .isTrue trivial
    env := fun _ _ => .isTrue trivial }

/-- An isolate starts with an empty cache. -/
def Fresh (s : State) : Prop := s.cache = fun _ => none

/-! ## What a run serves -/

section Served

variable (cfg : Config)

/-- The slot is what a call makes of an answer of the store. -/
def SlotOf (slot : CachedSlot) : SecretRead → Prop
  | .found token =>
    if token = "" then slot = unsetSlot
    else ∃ salt, slot = hashedSlot cfg token (cfg.argon2id salt (utf8Bytes token))
  | _ => slot = unsetSlot

variable (tr : List (Event (isolate cfg) String))

/-- A refresh of a slot: the states in which it looked, was answered and wrote. The read of the
store lasts from the look to the write. -/
structure Refresh (i : Nat) (binding : String) (slot : CachedSlot)
    (looked answered wrote : State) : Prop where
  look : .call i looked (.readFresh binding) () ∈ tr
  answer : ∃ fault : FetchFault, .call i answered (.fetch binding) fault ∈ tr ∧
    SlotOf cfg slot (secretRead answered binding fault)
  write : .call i wrote (.writeRecord binding slot) () ∈ tr
  looked_le : looked.clock ≤ answered.clock
  answered_le : answered.clock ≤ wrote.clock

/-- A call serves a slot: one it found in the cache, or one it wrote. -/
def Serves (i : Nat) (now : State) (binding : String) (slot : CachedSlot) : Prop :=
  .call i now (.readFresh binding) () ∈ tr ∧ readFresh now binding = some slot ∨
    .call i now (.writeRecord binding slot) () ∈ tr

/-- The slot reflects what the store answered at an instant no further back than the time to live
and the duration of the refresh. -/
def ServedRecently (now : State) (binding : String) (slot : CachedSlot) : Prop :=
  ∃ j looked answered wrote, Refresh cfg tr j binding slot looked answered wrote ∧
    answered.clock ≤ now.clock ∧
    now.clock ≤ answered.clock + statusTokenCacheTtlMs + (wrote.clock - looked.clock)

end Served

/-! ## The order of reads and writes -/

section Order

variable {cfg : Config}

/-- The call that was answered for the binding. -/
def asking (binding : String) : Event (isolate cfg) String → Option Nat
  | .call i _ (.fetch b) _ => if b = binding then some i else none
  | _ => none

/-- The call that wrote for the binding, and the record. -/
def writing (binding : String) : Event (isolate cfg) String → Option (Nat × CacheRecord)
  | .call i now (.writeRecord b slot) _ =>
    if b = binding then some (i, ⟨slot, State.clock now⟩) else none
  | _ => none

variable (tr : List (Event (isolate cfg) String))

/-- The writes for the binding, newest first. -/
def writes (binding : String) : List (Nat × CacheRecord) := tr.filterMap (writing binding)

/-- The store answered one call before the other. -/
def ReadBefore (binding : String) (j i : Nat) : Prop :=
  (tr.filterMap (asking binding)).idxOf i < (tr.filterMap (asking binding)).idxOf j

/-- The calls write in the order in which the store answered them. -/
def InOrder (binding : String) : Prop :=
  (writes tr binding).Pairwise fun x y => ReadBefore tr binding y.1 x.1

/-- A record that is replaced was read before the one that replaces it. -/
def NeverBack (binding : String) : Prop :=
  ∀ new i now slot old, tr = new ++ .call i now (.writeRecord binding slot) () :: old →
    ∀ record, State.cache now binding = some record →
      ∃ j, (writes old binding).head? = some (j, record) ∧ ReadBefore tr binding j i

end Order

/-! ## Along one call -/

section Call

variable {cfg : Config} {binding : String} {h : History SlotOp SlotRes} {slot : CachedSlot}

/-- The slot is made of the answer, with the hash of the history. -/
def MadeOf (cfg : Config) (h : History SlotOp SlotRes) (slot : CachedSlot) : SecretRead → Prop
  | .found token =>
    if token = "" then slot = unsetSlot
    else ∃ hashed : Option String, ⟨.hash token, hashed⟩ ∈ h ∧ slot = hashedSlot cfg token hashed
  | _ => slot = unsetSlot

/-- What a call has done before it writes a slot. -/
def Fetched (cfg : Config) (binding : String) (slot : CachedSlot) (h : History SlotOp SlotRes) :
    Prop :=
  ∃ answer : SecretRead, [⟨.fetch binding, answer⟩, ⟨.readFresh binding, none⟩] <:+ h ∧
    MadeOf cfg h slot answer

/-- What a call has done where it performs an operation. -/
def SlotGuard (cfg : Config) (binding : String) (h : History SlotOp SlotRes) : SlotOp → Prop
  | .writeRecord b slot => b = binding ∧ Fetched cfg binding slot h
  | _ => True

/-- What a call has done when it serves a slot. -/
def SlotPost (binding : String) (h : History SlotOp SlotRes) : Except Empty CachedSlot → Prop
  | .ok slot => ⟨.readFresh binding, some slot⟩ ∈ h ∨ ⟨.writeRecord binding slot, ()⟩ ∈ h
  | .error _ => False

theorem fetchAndHash_guarded (hh : h = [⟨.readFresh binding, none⟩]) :
    (fetchAndHash cfg binding).Guarded (SlotGuard cfg binding)
      (fun h' r => ∃ slot, r = .ok slot ∧ Fetched cfg binding slot h') h := by
  subst hh
  refine ⟨trivial, fun answer => ?_⟩
  cases answer with
  | unavailable => exact ⟨_, rfl, .unavailable, List.suffix_rfl, rfl⟩
  | failed => exact ⟨_, rfl, .failed, List.suffix_rfl, rfl⟩
  | notFound => exact ⟨_, rfl, .notFound, List.suffix_rfl, rfl⟩
  | found token =>
    dsimp only
    split
    · next hempty =>
      refine ⟨_, rfl, .found token, List.suffix_rfl, ?_⟩
      exact (if_pos hempty).mpr rfl
    · next hempty =>
      refine ⟨trivial, fun hashed => ⟨_, rfl, .found token, List.suffix_cons _ _, ?_⟩⟩
      exact (if_neg hempty).mpr ⟨hashed, List.mem_cons_self, rfl⟩

/-- What one call does, whatever it is answered. -/
theorem getOrRefresh_guarded (cfg : Config) (binding : String) :
    (getOrRefresh cfg binding).Guarded (SlotGuard cfg binding) (SlotPost binding) [] := by
  refine ⟨trivial, fun found => ?_⟩
  cases found with
  | some fresh => exact .inl List.mem_cons_self
  | none =>
    refine (fetchAndHash_guarded rfl).bind ?_ ?_
    · rintro h' slot - ⟨_, hslot, hfetched⟩
      cases hslot
      exact ⟨⟨rfl, hfetched⟩, fun _ => .inr List.mem_cons_self⟩
    · rintro h' e - ⟨_, hslot, -⟩
      cases hslot

end Call

/-! ## Over a run -/

section Runs

variable {cfg : Config} {p : Pool (isolate cfg) String Empty CachedSlot}

/-- The runs of calls on an isolate. -/
abbrev CallRun (cfg : Config) (p : Pool (isolate cfg) String Empty CachedSlot) : Prop :=
  Run (getOrRefresh cfg) (anyCalls cfg) Fresh p

/-- The clock has not gone back since an operation. -/
def ClockForward (w : World (isolate cfg) String) : Prop :=
  ∀ i s op c, .call i s op c ∈ w.trace → State.clock s ≤ State.clock w.state

/-- The cache holds the latest record that was written. -/
def HoldsLatest (w : World (isolate cfg) String) : Prop :=
  ∀ binding, State.cache w.state binding = ((writes w.trace binding).head?).map Prod.snd

theorem perform_clock (s : State) (op : SlotOp) (c : SlotChoice op) :
    (perform cfg s op c).2.clock = s.clock := by
  cases op <;> rfl

theorem ClockForward.after {w : World (isolate cfg) String} (hw : ClockForward w) (i : Nat)
    (op : SlotOp) (c : (isolate cfg).Choice op) : ClockForward (w.after i op c) := by
  intro j s op' c' hm
  have hclock : State.clock (w.after i op c).state = State.clock w.state :=
    perform_clock w.state op c
  rw [hclock]
  rcases List.mem_cons.mp hm with heq | hm
  · injection heq with _ hs
    rw [hs]
  · exact hw j s op' c' hm

theorem writes_cons_of_none {e : Event (isolate cfg) String}
    {tr : List (Event (isolate cfg) String)} {binding : String} (h : writing binding e = none) :
    writes (e :: tr) binding = writes tr binding :=
  List.filterMap_cons_none h

theorem writes_cons_of_some {e : Event (isolate cfg) String}
    {tr : List (Event (isolate cfg) String)}
    {binding : String} {x : Nat × CacheRecord} (h : writing binding e = some x) :
    writes (e :: tr) binding = x :: writes tr binding :=
  List.filterMap_cons_some h

theorem HoldsLatest.after {w : World (isolate cfg) String} (hw : HoldsLatest w) (i : Nat)
    (op : SlotOp) (c : (isolate cfg).Choice op) : HoldsLatest (w.after i op c) := by
  intro binding
  rw [World.after_trace]
  cases op with
  | readFresh b =>
    rw [writes_cons_of_none rfl]
    exact hw binding
  | fetch b =>
    rw [writes_cons_of_none rfl]
    exact hw binding
  | hash token =>
    rw [writes_cons_of_none rfl]
    exact hw binding
  | writeRecord b slot =>
    by_cases hb : b = binding
    · have hwriting : writing binding (.call i w.state (.writeRecord b slot) c) =
          some (i, ⟨slot, State.clock w.state⟩) := if_pos hb
      rw [writes_cons_of_some hwriting]
      subst hb
      exact Function.update_self ..
    · have hwriting : writing binding (.call i w.state (.writeRecord b slot) c) = none := if_neg hb
      rw [writes_cons_of_none hwriting]
      exact (Function.update_of_ne (Ne.symm hb) ..).trans (hw binding)

/-- **A whole run** keeps both. -/
theorem run_invariant (hr : CallRun cfg p) : ClockForward p.world ∧ HoldsLatest p.world := by
  refine Run.invariant (I := fun w => ClockForward w ∧ HoldsLatest w) (getOrRefresh_guarded cfg)
    ?_ ?_ ?_ ?_ hr
  · intro s hs
    exact ⟨fun i s op c hm => (by cases hm), congrFun hs⟩
  · rintro w i req - ⟨hclock, hlatest⟩ -
    refine ⟨fun j s op c hm => ?_, hlatest⟩
    rcases List.mem_cons.mp hm with heq | hm
    · cases heq
    · exact hclock j s op c hm
  · rintro w i op c req - ⟨hclock, hlatest⟩ - - -
    exact ⟨hclock.after i op c, hlatest.after i op c⟩
  · rintro w e - ⟨hclock, hlatest⟩ -
    cases e with
    | tick ms => exact ⟨fun i s op c hm => Nat.le_add_right_of_le (hclock i s op c hm), hlatest⟩
    | setSecret binding token => exact ⟨hclock, hlatest⟩

/-- What a run had come to when an operation ran. -/
theorem before_call (hr : CallRun cfg p) {new old : List (Event (isolate cfg) String)} {i : Nat}
    {s : State} {op : SlotOp} {c : (isolate cfg).Choice op}
    (ht : p.world.trace = new ++ .call i s op c :: old) :
    (∃ q : Pool (isolate cfg) String Empty CachedSlot, CallRun cfg q ∧ q.world = ⟨s, old⟩) ∧
      ∃ binding, SlotGuard cfg binding (own i old) op := by
  obtain ⟨hreached, -, binding, -, hguard⟩ := hr.call_event (getOrRefresh_guarded cfg) ht
  exact ⟨hreached, binding, hguard⟩

/-- Operations before another one ran no later. -/
theorem clock_le_of_before (hr : CallRun cfg p) {new old : List (Event (isolate cfg) String)}
    {i j : Nat} {s s' : State} {op op' : SlotOp} {c : (isolate cfg).Choice op}
    {c' : (isolate cfg).Choice op'} (ht : p.world.trace = new ++ .call i s op c :: old)
    (hm : .call j s' op' c' ∈ old) : s'.clock ≤ s.clock := by
  obtain ⟨⟨q, hq, hworld⟩, -⟩ := before_call hr ht
  have hclock := (run_invariant hq).1 j s' op' c'
  rw [hworld] at hclock
  exact hclock hm

/-- The hash of a history was made under some salt. -/
theorem slotOf_of_madeOf {i : Nat} {tr : List (Event (isolate cfg) String)} {slot : CachedSlot}
    {answer : SecretRead} (h : MadeOf cfg (own i tr) slot answer) : SlotOf cfg slot answer := by
  cases answer with
  | unavailable => exact h
  | failed => exact h
  | notFound => exact h
  | found token =>
    simp only [MadeOf] at h
    simp only [SlotOf]
    by_cases hempty : token = ""
    · rw [if_pos hempty] at h ⊢
      exact h
    · rw [if_neg hempty] at h ⊢
      obtain ⟨hashed, hm, hslot⟩ := h
      obtain ⟨s, salt, -, hres⟩ := mem_own.mp hm
      exact ⟨salt, hslot.trans (congrArg _ hres.symm)⟩

/-- **Every record was made by a refresh.** -/
theorem refresh_of_write (hr : CallRun cfg p) {i : Nat} {wrote : State} {binding : String}
    {slot : CachedSlot} (hm : .call i wrote (.writeRecord binding slot) () ∈ p.world.trace) :
    ∃ looked answered, Refresh cfg p.world.trace i binding slot looked answered wrote := by
  obtain ⟨new, old, ht⟩ := List.append_of_mem hm
  obtain ⟨-, _, rfl, answer, hsuf, hslot⟩ := before_call hr ht
  obtain ⟨new₁, answered, op, fault, old₁, hold, hx, hown⟩ := own_suffix hsuf
  injection hx with hop hanswer
  subst hop
  have hanswer := eq_of_heq hanswer
  have hsuf₁ : ⟨.readFresh binding, none⟩ :: [] <:+ own i old₁ := by
    rw [hown]
  obtain ⟨new₂, looked, op, c, old₂, hold₁, hx, -⟩ := own_suffix hsuf₁
  injection hx with hop
  subst hop
  have hlook : .call i looked (.readFresh binding) c ∈ old₁ := by
    rw [hold₁]
    exact List.mem_append_right _ List.mem_cons_self
  have hfetch : .call i answered (.fetch binding) fault ∈ old := by
    rw [hold]
    exact List.mem_append_right _ List.mem_cons_self
  have ht₁ : p.world.trace = (new ++ .call i wrote (.writeRecord binding slot) () :: new₁) ++
      .call i answered (.fetch binding) fault :: old₁ := by
    rw [ht, hold, List.append_assoc]
    rfl
  have hin : ∀ e ∈ old, e ∈ p.world.trace := by
    intro e he
    rw [ht]
    exact List.mem_append_right _ (List.mem_cons_of_mem _ he)
  refine ⟨looked, answered, ?_, ⟨fault, hin _ hfetch, ?_⟩, hm, ?_, ?_⟩
  · refine hin _ ?_
    rw [hold]
    exact List.mem_append_right _ (List.mem_cons_of_mem _ hlook)
  · subst hanswer
    exact slotOf_of_madeOf hslot
  · exact clock_le_of_before hr ht₁ hlook
  · exact clock_le_of_before hr ht hfetch

theorem writing_write {binding : String} {i : Nat} {now : State} {slot : CachedSlot} :
    writing binding (.call i now (.writeRecord binding slot) () : Event (isolate cfg) String) =
      some (i, ⟨slot, now.clock⟩) :=
  if_pos rfl

theorem writing_some {e : Event (isolate cfg) String} {binding : String} {x : Nat × CacheRecord}
    (h : writing binding e = some x) : ∃ (i : Nat) (now : State) (slot : CachedSlot),
      e = .call i now (.writeRecord binding slot) () ∧ x = (i, ⟨slot, now.clock⟩) := by
  match e, h with
  | .call i now (.writeRecord b slot) (), h =>
    by_cases hb : b = binding
    · subst hb
      have hx : some (i, ⟨slot, State.clock now⟩) = some x := writing_write.symm.trans h
      exact ⟨i, now, slot, rfl, (Option.some.inj hx).symm⟩
    · have hnone : writing binding (.call i now (.writeRecord b slot) () :
          Event (isolate cfg) String) = none := if_neg hb
      rw [hnone] at h
      cases h

/-- What an operation finds in the cache is the latest record that was written. -/
theorem latest_before (hr : CallRun cfg p) {new old : List (Event (isolate cfg) String)} {i : Nat}
    {now : State} {op : SlotOp} {c : (isolate cfg).Choice op} {binding : String}
    {record : CacheRecord} (ht : p.world.trace = new ++ .call i now op c :: old)
    (hcache : now.cache binding = some record) :
    ∃ j, (writes old binding).head? = some (j, record) := by
  obtain ⟨⟨q, hq, hworld⟩, -⟩ := before_call hr ht
  have hlatest := (run_invariant hq).2 binding
  rw [hworld] at hlatest
  obtain ⟨⟨j, record'⟩, hhead, hrecord⟩ := Option.map_eq_some_iff.mp (hlatest.symm.trans hcache)
  subst hrecord
  exact ⟨j, hhead⟩

/-- **The bound**: what is served is recent. -/
theorem served_recently (hr : CallRun cfg p) {i : Nat} {now : State} {binding : String}
    {slot : CachedSlot} (hs : Serves cfg p.world.trace i now binding slot) :
    ServedRecently cfg p.world.trace now binding slot := by
  rcases hs with ⟨hm, hfresh⟩ | hm
  · obtain ⟨new, old, ht⟩ := List.append_of_mem hm
    unfold readFresh at hfresh
    split at hfresh
    · next record hcache =>
      split at hfresh
      · next hage =>
        cases hfresh
        obtain ⟨j, hhead⟩ := latest_before hr ht hcache
        obtain ⟨e, hwrite, hwriting⟩ := List.mem_filterMap.mp (List.mem_of_mem_head? hhead)
        obtain ⟨j, wrote, slot, rfl, hrecord⟩ := writing_some hwriting
        cases hrecord
        have hwrite' : .call j wrote (.writeRecord binding slot) () ∈ p.world.trace := by
          rw [ht]
          exact List.mem_append_right _ (List.mem_cons_of_mem _ hwrite)
        obtain ⟨looked, answered, href⟩ := refresh_of_write hr hwrite'
        have hle := clock_le_of_before hr ht hwrite
        have hlooked := href.looked_le
        have hanswered := href.answered_le
        dsimp only at hage
        exact ⟨j, looked, answered, wrote, href, by omega, by omega⟩
      · cases hfresh
    · cases hfresh
  · obtain ⟨looked, answered, href⟩ := refresh_of_write hr hm
    have hlooked := href.looked_le
    have hanswered := href.answered_le
    exact ⟨i, looked, answered, now, href, hanswered, by omega⟩

/-- Writes in order replace older reads only. -/
theorem neverBack_of_inOrder (hr : CallRun cfg p) {binding : String}
    (h : InOrder p.world.trace binding) : NeverBack p.world.trace binding := by
  intro new i now slot old ht record hcache
  obtain ⟨j, hhead⟩ := latest_before hr ht hcache
  refine ⟨j, hhead, ?_⟩
  have hwrites : writes p.world.trace binding =
      writes new binding ++ (i, ⟨slot, State.clock now⟩) :: writes old binding := by
    rw [ht]
    exact List.filterMap_append.trans (congrArg _ (writes_cons_of_some writing_write))
  unfold InOrder at h
  rw [hwrites] at h
  have hrel := (List.pairwise_cons.mp (List.pairwise_append.mp h).2.1).1
  exact hrel (j, record) (List.mem_of_mem_head? hhead)

/-- Where older reads only are replaced, the writes are in order. -/
theorem inOrder_of_neverBack (hr : CallRun cfg p) {binding : String}
    (h : NeverBack p.world.trace binding) : InOrder p.world.trace binding := by
  -- the order of the whole trace, for the writes of any of its ends
  suffices hsuffix : ∀ old, old <:+ p.world.trace →
      (writes old binding).Pairwise fun x y => ReadBefore p.world.trace binding y.1 x.1 from
    hsuffix _ List.suffix_rfl
  intro old
  induction old with
  | nil => exact fun _ => List.Pairwise.nil
  | cons e old ih =>
    intro hsuf
    have hold := ih ((List.suffix_cons e old).trans hsuf)
    cases hwriting : writing binding e with
    | none =>
      rw [writes_cons_of_none hwriting]
      exact hold
    | some x =>
      rw [writes_cons_of_some hwriting]
      obtain ⟨i, now, slot, rfl, rfl⟩ := writing_some hwriting
      obtain ⟨new, ht⟩ := hsuf
      refine List.pairwise_cons.mpr ⟨?_, hold⟩
      obtain ⟨⟨q, hq, hworld⟩, -⟩ := before_call hr ht.symm
      have hlatest := (run_invariant hq).2 binding
      rw [hworld] at hlatest
      have hlatest : now.cache binding = ((writes old binding).head?).map Prod.snd := hlatest
      cases hwrites : writes old binding with
      | nil => exact fun y hy => (by cases hy)
      | cons x rest =>
        rw [hwrites] at hlatest hold
        obtain ⟨j, hhead, hread⟩ := h new i now slot old ht.symm x.2 hlatest
        rw [hwrites, List.head?_cons, Option.some.injEq] at hhead
        rw [hhead] at hold
        intro y hy
        rw [hhead] at hy
        rcases List.mem_cons.mp hy with rfl | hy
        · exact hread
        · exact hread.trans ((List.pairwise_cons.mp hold).1 y hy)

/-- What a call returns, it serves. -/
theorem serves_of_outcome (hr : CallRun cfg p) {i : Nat} {slot : CachedSlot}
    (hout : p.outcome i = some (.ok slot)) : ∃ binding now, .arrive i binding ∈ p.world.trace ∧
      Serves cfg p.world.trace i now binding slot := by
  obtain ⟨binding, harr, hpost⟩ := hr.outcome (getOrRefresh_guarded cfg) hout
  rcases hpost with hm | hm
  · obtain ⟨now, c, hcall, hres⟩ := mem_own.mp hm
    exact ⟨binding, now, harr, .inl ⟨hcall, hres⟩⟩
  · obtain ⟨now, c, hcall, -⟩ := mem_own.mp hm
    exact ⟨binding, now, harr, .inr hcall⟩

/-- **The revocation bound**, in every run: what a call returns is recent, and a record never
replaces one that was read later if and only if the calls write in the order of their reads. -/
theorem status_token_bound (cfg : Config) {p : Pool (isolate cfg) String Empty CachedSlot}
    (hr : Run (getOrRefresh cfg) (anyCalls cfg) Fresh p) :
    (∀ i slot, p.outcome i = some (.ok slot) →
      ∃ binding now, .arrive i binding ∈ p.world.trace ∧
        Serves cfg p.world.trace i now binding slot ∧
        ServedRecently cfg p.world.trace now binding slot) ∧
    ∀ binding, NeverBack p.world.trace binding ↔ InOrder p.world.trace binding := by
  constructor
  · intro i slot hout
    obtain ⟨binding, now, harr, hserves⟩ := serves_of_outcome hr hout
    exact ⟨binding, now, harr, hserves, served_recently hr hserves⟩
  · intro binding
    exact ⟨inOrder_of_neverBack hr, neverBack_of_inOrder hr⟩

end Runs

/-! ## Samples -/

/-- The first bytes of SHA-256 of two tokens, and the head of a PHC string. -/
def sampleConfig : Config :=
  { sha256 := fun bytes =>
      if bytes = utf8Bytes "status-token-one" then [0xc6, 0x96, 0x8e, 0xae]
      else if bytes = utf8Bytes "status-token-two" then [0xd1, 0xfa, 0x5e, 0x7b]
      else []
    argon2id := fun salt _ => some ("$argon2id$v=19$m=65536,t=3,p=1$" ++ salt) }

def currentBinding : String := "STATUS_API_TOKEN"

/-- The first token is stored. -/
def sampleState : State :=
  { clock := 0
    secrets := fun binding => if binding = currentBinding then some "status-token-one" else none
    cache := fun _ => none }

theorem fresh_sampleState : Fresh sampleState := rfl

/-- The store answers, and a salt is drawn. -/
def answering : (op : SlotOp) → (isolate sampleConfig).Choice op
  | .readFresh _ => ()
  | .fetch _ => FetchFault.none
  | .hash _ => "c29tZXNhbHQ"
  | .writeRecord _ _ => ()

/-- The slot of the first token. -/
def firstSlot : CachedSlot := ⟨some "$argon2id$v=19$m=65536,t=3,p=1$c29tZXNhbHQ", "c6968e"⟩

/-- A call refreshes the slot, and another one is served from the cache five minutes later. -/
def refreshed : List (Act (isolate sampleConfig) String) :=
  (.arrive 0 currentBinding :: List.replicate 4 (.call 0 answering)) ++
    [.env (Env.tick 300000), .arrive 1 currentBinding, .call 1 answering]

/-- A call is answered; the token is rotated, and another call refreshes the slot; then the first
one writes. A third call comes five minutes later. -/
def overtaken : List (Act (isolate sampleConfig) String) :=
  (.arrive 0 currentBinding :: List.replicate 2 (.call 0 answering)) ++
    .env (Env.setSecret currentBinding (some "status-token-two")) ::
    (.arrive 1 currentBinding :: List.replicate 4 (.call 1 answering)) ++
    List.replicate 2 (.call 0 answering) ++
    [.env (Env.tick 300000), .arrive 2 currentBinding, .call 2 answering]

instance (cfg : Config) (tr : List (Event (isolate cfg) String)) (binding : String) :
    Decidable (InOrder tr binding) :=
  inferInstanceAs (Decidable (List.Pairwise
    (fun x y : Nat × CacheRecord => (tr.filterMap (asking binding)).idxOf x.1 <
      (tr.filterMap (asking binding)).idxOf y.1) _))

/-- A slot that is refreshed, and served until its time is over. -/
theorem token_refreshed : ∃ p : Pool (isolate sampleConfig) String Empty CachedSlot,
    Run (getOrRefresh sampleConfig) (anyCalls sampleConfig) Fresh p ∧
      p.outcome 1 = some (.ok firstSlot) ∧
      (∀ i slot, p.outcome i = some (.ok slot) →
        ∃ binding now, .arrive i binding ∈ p.world.trace ∧
          Serves sampleConfig p.world.trace i now binding slot ∧
          ServedRecently sampleConfig p.world.trace now binding slot) ∧
      NeverBack p.world.trace currentBinding := by
  have hrun : ∃ p : Pool (isolate sampleConfig) String Empty CachedSlot,
      Run (getOrRefresh sampleConfig) (anyCalls sampleConfig) Fresh p ∧
        p.outcome 1 = some (.ok firstSlot) ∧ InOrder p.world.trace currentBinding :=
    Run.of_replay sampleState refreshed fresh_sampleState (by decide +kernel)
  obtain ⟨p, hr, hout, horder⟩ := hrun
  have hbound := status_token_bound sampleConfig hr
  exact ⟨p, hr, hout, hbound.1, (hbound.2 currentBinding).mpr horder⟩

/-- **A rotated token comes back**: the call that was answered before the rotation writes last, and
the old token is served five minutes later. -/
theorem rotated_token_returns : ∃ p : Pool (isolate sampleConfig) String Empty CachedSlot,
    Run (getOrRefresh sampleConfig) (anyCalls sampleConfig) Fresh p ∧
      p.outcome 2 = some (.ok firstSlot) ∧ ¬ NeverBack p.world.trace currentBinding := by
  have hrun : ∃ p : Pool (isolate sampleConfig) String Empty CachedSlot,
      Run (getOrRefresh sampleConfig) (anyCalls sampleConfig) Fresh p ∧
        p.outcome 2 = some (.ok firstSlot) ∧ ¬ InOrder p.world.trace currentBinding :=
    Run.of_replay sampleState overtaken fresh_sampleState (by decide +kernel)
  obtain ⟨p, hr, hout, horder⟩ := hrun
  exact ⟨p, hr, hout, fun h => horder (inOrder_of_neverBack hr h)⟩

end StatusTokenCache

end ProviiVerifier
