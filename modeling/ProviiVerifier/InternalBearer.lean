/-
  `enforce_internal_replay_window` over runs: calls of any roles and the alarms of the nonce
  objects, in the order in which the objects serve them.

  A call reads the clock of the server, then asks the object of its tag, which serves it at a later
  reading of the clock; the call waits two seconds for the answer. It may be that the object is
  never asked, or that its answer does not arrive. The objects read their entries correctly.

  Proved: of the calls with one role, timestamp and nonce one gets through at most
  (`at_most_once`); a call is answered as it would be without the calls for other roles, in every
  run where no call finds the live entry of another role, whose role tag runs into its nonce or the
  other way about (`internal_replay_window`).
-/
import ProviiVerifier.NonceSingleUse
import ProviiVerifier.NonceTags

namespace ProviiVerifier

namespace InternalReplay

open Interleaving Prog

/-! ## Runs -/

/-- `DO_FETCH_TIMEOUT_MS`, in seconds. -/
def doFetchTimeoutSecs : Nat := 2

/-- A call, with what happens to its request for the nonce object. -/
structure Call where
  headers : Headers
  roleTag : String
  /-- The clock that the call reads. -/
  sentAt : Nat
  /-- The clock of the object that serves it. -/
  servedAt : Nat
  /-- How the object's storage operations go; `none` where it is never asked. -/
  reached : Option NonceDO.Faults
  /-- The answer gets back. -/
  answered : Bool

/-- What happens to the nonce objects. -/
inductive Act
  | call (c : Call)
  | cleanup (shard now : Nat) (done : Bool)

/-- The clock at an act. -/
def Act.now : Act → Nat
  | .call c => c.servedAt
  | .cleanup _ now _ => now

/-- The storage of every shard. -/
abbrev Shards := Nat → NonceDO.Storage

/-- The body of a request for a nonce. -/
def nonceBody : Body Nat := NonceStore.ttlBody internalReplayNonceTtlSecs

section Runs

variable (app : AppState)

/-- The request of a call for a tag: what it is answered in time, and what the object stores. -/
def ask (c : Call) (tag : String) (body : Body Nat) (s : Shards) :
    Option NonceDO.Reply × Shards :=
  match c.reached with
  | none => (none, s)
  | some f =>
    let shard := app.nonceShard tag
    let r := NonceDO.setNonce app.uni (s shard) c.servedAt f tag body
    (if c.answered ∧ c.servedAt ≤ c.sentAt + doFetchTimeoutSecs then r.1 else none,
      Function.update s shard r.2)

/-- Run a handler that reads the clock and asks for nonces; `none` where it does anything else. -/
def Call.run {α : Type} (c : Call) : Handler α → Shards → Option (Except ApiError α) × Shards
  | .ret a, s => (some (.ok a), s)
  | .fail e, s => (some (.error e), s)
  | .call .timestamp k, s => c.run (k c.sentAt) s
  | .call (.nonceDO tag body) k, s => c.run (k (ask app c tag body s).1) (ask app c tag body s).2
  | .call _ _, s => (none, s)

/-- The check of a call. -/
def Call.enforce (c : Call) (s : Shards) :
    Option (Except ApiError InternalReplayCheckOutcome) × Shards :=
  c.run app (enforceInternalReplayWindow c.headers c.roleTag) s

/-- The storage after an act. -/
def Act.next : Act → Shards → Shards
  | .call c, s => (c.enforce app s).2
  | .cleanup shard now done, s =>
    if done then Function.update s shard (NonceDO.cleanupExpiredNonces (s shard) now) else s

/-- The storage after acts, newest first. -/
def after (s : Shards) : List Act → Shards
  | [] => s
  | a :: old => a.next app (after s old)

/-- What a call comes to after earlier acts. -/
def outcome (s : Shards) (c : Call) (old : List Act) :
    Option (Except ApiError InternalReplayCheckOutcome) :=
  (c.enforce app (after app s old)).1

end Runs

/-- Acts in the order of a clock of 64 bits, over objects that read their entries. -/
structure Acts where
  acts : List Act
  ordered : acts.Pairwise fun later earlier => earlier.now ≤ later.now
  inRange : ∀ a ∈ acts, a.now ≤ maxClock
  sent : ∀ c, .call c ∈ acts → c.sentAt ≤ c.servedAt
  reads : ∀ c f, .call c ∈ acts → c.reached = some f → f.get = true

/-! ## One call -/

/-- The timestamp and the nonce of a call that passes the checks before the store. -/
def Call.presents (c : Call) : Option (Nat × String) :=
  match (c.headers "X-Timestamp").filter (· ≠ "") with
  | none => none
  | some raw =>
    match (c.headers "X-Nonce").filter (· ≠ "") with
    | none => none
    | some nonce =>
      if byteLen nonce > maxNonceLength then none
      else
        match parseU64 raw with
        | none => none
        | some timestamp =>
          if ClientAuthenticator.skew c.sentAt timestamp > internalReplayTimestampWindowSecs then
            none
          else some (timestamp, nonce)

variable {app : AppState} {c c' : Call} {s s' : Shards} {tag : String} {timestamp : Nat}
  {nonce : String}

theorem presents_skew (h : c.presents = some (timestamp, nonce)) :
    c.sentAt ≤ timestamp + internalReplayTimestampWindowSecs ∧
      timestamp ≤ c.sentAt + internalReplayTimestampWindowSecs := by
  unfold Call.presents at h
  split at h
  · cases h
  · split at h
    · cases h
    · split at h
      · cases h
      · split at h
        · cases h
        · split at h
          · cases h
          · next hskew =>
            cases h
            unfold ClientAuthenticator.skew at hskew
            split at hskew
            · omega
            · omega

/-- Running a part whose outcome is handed on. -/
theorem run_attempt_bind {α β : Type} (p : Handler α) (f : Except ApiError α → Handler β) :
    c.run app (attempt p >>= f) s =
      match c.run app p s with
      | (some r, s') => c.run app (f r) s'
      | (none, s') => (none, s') := by
  induction p generalizing s with
  | ret a => rfl
  | fail e => rfl
  | call op k ih =>
    cases op with
    | timestamp => exact ih _
    | nonceDO tag body => exact ih _
    | _ => rfl

/-- A tag that the store does not take is not stored. -/
theorem ask_refused (h : validateNonceTag app.uni tag ≠ .ok ()) (body : Body Nat) :
    ((ask app c tag body s).1 = none ∨ (ask app c tag body s).1 = some (.status 400)) ∧
      (ask app c tag body s).2 = s := by
  have hset : ∀ f, NonceDO.setNonce app.uni (s (app.nonceShard tag)) c.servedAt f tag body =
      (some (.status 400), s (app.nonceShard tag)) := by
    intro f
    unfold NonceDO.setNonce
    cases hv : validateNonceTag app.uni tag with
    | ok => exact absurd hv h
    | error e => rfl
  unfold ask
  cases c.reached with
  | none => exact ⟨.inl rfl, rfl⟩
  | some f =>
    dsimp only
    rw [hset f]
    refine ⟨?_, Function.update_eq_self ..⟩
    split
    · exact .inr rfl
    · exact .inl rfl

/-- What `check_and_set` comes to. -/
theorem run_checkAndSet (h : validateNonceTag app.uni tag = .ok ()) :
    c.run app (NonceStore.checkAndSet tag internalReplayNonceTtlSecs) s =
      (some (match (ask app c tag nonceBody s).1 with
        | some (.verdict success) => .ok success
        | some (.status _) => .error (.internal "NonceDO response parse failed")
        | none => .error (.internal "NonceDO fetch failed")), (ask app c tag nonceBody s).2) := by
  obtain ⟨hne, hlen, hall⟩ := (validateNonceTag_iff app.uni tag).mp h
  have hlen : ¬ byteLen tag > NonceStore.maxNonceTagLength := by
    unfold NonceStore.maxNonceTagLength
    unfold maxNonceTagLength at hlen
    omega
  have hnul : ¬ tag.toList.contains '\x00' = true := by
    intro hmem
    have htag := hall '\x00' (by simpa using hmem)
    unfold Use.tagChar at htag
    rw [app.uni.isAlphanumeric_ascii _ (by decide)] at htag
    revert htag
    decide
  unfold NonceStore.checkAndSet
  rw [if_neg hne, if_neg hlen, if_neg hnul, if_neg (by decide)]
  show c.run app (.call (.nonceDO tag nonceBody) _) s = _
  unfold Call.run
  cases (ask app c tag nonceBody s).1 with
  | none => rfl
  | some reply =>
    cases reply with
    | verdict success => rfl
    | status code => rfl

/-- `check_and_set` of a tag that the store does not take. -/
theorem run_checkAndSet_refused (h : validateNonceTag app.uni tag ≠ .ok ()) :
    ∃ e, c.run app (NonceStore.checkAndSet tag internalReplayNonceTtlSecs) s =
      (some (.error e), s) := by
  unfold NonceStore.checkAndSet
  split
  · exact ⟨_, rfl⟩
  · split
    · exact ⟨_, rfl⟩
    · split
      · exact ⟨_, rfl⟩
      · split
        · exact ⟨_, rfl⟩
        · obtain ⟨hreply, hstate⟩ := ask_refused (c := c) (s := s) h nonceBody
          show ∃ e, c.run app (.call (.nonceDO tag nonceBody) _) s = _
          unfold Call.run
          rw [hstate]
          rcases hreply with hreply | hreply
          · rw [hreply]
            exact ⟨_, rfl⟩
          · rw [hreply]
            exact ⟨_, rfl⟩

/-- A call that does not pass the checks before the store. -/
theorem enforce_of_not_presents (h : c.presents = none) :
    c.enforce app s = (some (.error .unauthorized), s) := by
  unfold Call.presents at h
  unfold Call.enforce enforceInternalReplayWindow
  cases hraw : (c.headers "X-Timestamp").filter (· ≠ "") with
  | none => rfl
  | some raw =>
    rw [hraw] at h
    dsimp only at h ⊢
    cases hnonce : (c.headers "X-Nonce").filter (· ≠ "") with
    | none => rfl
    | some nonce =>
      rw [hnonce] at h
      dsimp only at h ⊢
      by_cases hlen : byteLen nonce > maxNonceLength
      · rw [if_pos hlen]
        rfl
      · rw [if_neg hlen] at h ⊢
        cases hparse : parseU64 raw with
        | none => rfl
        | some timestamp =>
          rw [hparse] at h
          dsimp only at h ⊢
          by_cases hskew :
              ClientAuthenticator.skew c.sentAt timestamp > internalReplayTimestampWindowSecs
          · show c.run app (ite _ _ _) s = _
            rw [if_pos hskew]
            rfl
          · rw [if_neg hskew] at h
            cases h

/-- The end of the check, once the store has answered. -/
def conclude (timestamp : Nat) (nonce : String) :
    Except ApiError Bool → Handler InternalReplayCheckOutcome
  | .ok true => .ret ⟨timestamp, nonce⟩
  | .ok false => .fail .unauthorized
  | .error _ => .fail .unauthorized

theorem run_conclude (c : Call) (tag nonce : String) (timestamp : Nat) :
    c.run app (attempt (NonceStore.checkAndSet tag internalReplayNonceTtlSecs) >>=
        conclude timestamp nonce) s =
      (some (if (ask app c tag nonceBody s).1 = some (.verdict true) then
          .ok ⟨timestamp, nonce⟩ else .error .unauthorized), (ask app c tag nonceBody s).2) := by
  rw [run_attempt_bind]
  by_cases h : validateNonceTag app.uni tag = .ok ()
  · rw [run_checkAndSet h]
    cases (ask app c tag nonceBody s).1 with
    | none => rfl
    | some reply =>
      cases reply with
      | status code => rfl
      | verdict success =>
        cases success with
        | true => rfl
        | false => rfl
  · obtain ⟨e, he⟩ := run_checkAndSet_refused (c := c) (s := s) h
    obtain ⟨hreply, hstate⟩ := ask_refused (c := c) (s := s) h nonceBody
    rw [he, hstate]
    rcases hreply with hreply | hreply
    · rw [hreply]
      rfl
    · rw [hreply]
      rfl

/-- **A call that does** asks for its tag, and gets through when it is told in time that the tag is
new. -/
theorem enforce_of_presents (h : c.presents = some (timestamp, nonce)) :
    c.enforce app s =
      (some (if (ask app c (nonceTag c.roleTag nonce) nonceBody s).1 = some (.verdict true) then
          .ok ⟨timestamp, nonce⟩ else .error .unauthorized),
        (ask app c (nonceTag c.roleTag nonce) nonceBody s).2) := by
  unfold Call.presents at h
  unfold Call.enforce enforceInternalReplayWindow
  cases hraw : (c.headers "X-Timestamp").filter (· ≠ "") with
  | none =>
    rw [hraw] at h
    cases h
  | some raw =>
    rw [hraw] at h
    dsimp only at h ⊢
    cases hnonce : (c.headers "X-Nonce").filter (· ≠ "") with
    | none =>
      rw [hnonce] at h
      cases h
    | some nonce' =>
      rw [hnonce] at h
      dsimp only at h ⊢
      by_cases hlen : byteLen nonce' > maxNonceLength
      · rw [if_pos hlen] at h
        cases h
      · rw [if_neg hlen] at h ⊢
        cases hparse : parseU64 raw with
        | none =>
          rw [hparse] at h
          cases h
        | some timestamp' =>
          rw [hparse] at h
          dsimp only at h ⊢
          by_cases hskew :
              ClientAuthenticator.skew c.sentAt timestamp' > internalReplayTimestampWindowSecs
          · rw [if_pos hskew] at h
            cases h
          · rw [if_neg hskew] at h
            cases h
            show c.run app (ite _ _ _) s = _
            rw [if_neg hskew]
            refine Eq.trans (congrArg (fun rest => c.run app (attempt (NonceStore.checkAndSet
              (nonceTag c.roleTag nonce) internalReplayNonceTtlSecs) >>= rest) s) ?_)
              (run_conclude c (nonceTag c.roleTag nonce) nonce timestamp)
            funext answer
            cases answer with
            | error e => rfl
            | ok success => cases success <;> rfl

/-! ## The acts of one object -/

/-- What an act is for the object of a shard. -/
def Act.stepOn (app : AppState) (shard : Nat) : Act → Option NonceDO.Step
  | .call c =>
    match c.presents, c.reached with
    | some (_, nonce), some f =>
      if app.nonceShard (nonceTag c.roleTag nonce) = shard then
        some ⟨c.servedAt, .set f (nonceTag c.roleTag nonce) nonceBody⟩
      else none
    | _, _ => none
  | .cleanup shard' now done => if shard' = shard then some ⟨now, .cleanup done⟩ else none

/-- The acts of a shard. -/
def stepsOn (app : AppState) (shard : Nat) (acts : List Act) : List NonceDO.Step :=
  acts.filterMap (Act.stepOn app shard)

variable {a : Act} {acts old : List Act} {shard : Nat}

theorem stepOn_call (app : AppState) {f : NonceDO.Faults}
    (h : c.presents = some (timestamp, nonce)) (hreached : c.reached = some f) :
    (Act.call c).stepOn app (app.nonceShard (nonceTag c.roleTag nonce)) =
      some ⟨c.servedAt, .set f (nonceTag c.roleTag nonce) nonceBody⟩ := by
  simp only [Act.stepOn]
  rw [h, hreached]
  exact if_pos rfl

/-- **One act** does to a shard what its step does. -/
theorem next_shard (a : Act) (s : Shards) : a.next app s shard =
    match a.stepOn app shard with
    | some st => (NonceDO.serve app.uni (s shard) st).2
    | none => s shard := by
  cases a with
  | cleanup shard' now done =>
    simp only [Act.next, Act.stepOn]
    by_cases hshard : shard' = shard
    · subst hshard
      rw [if_pos rfl]
      cases done with
      | true => exact Function.update_self ..
      | false => rfl
    · rw [if_neg hshard]
      cases done with
      | true => exact Function.update_of_ne (Ne.symm hshard) ..
      | false => rfl
  | call c =>
    simp only [Act.next, Act.stepOn]
    cases hp : c.presents with
    | none => rw [enforce_of_not_presents hp]
    | some shown =>
      obtain ⟨timestamp, nonce⟩ := shown
      rw [enforce_of_presents hp]
      unfold ask
      cases c.reached with
      | none => rfl
      | some f =>
        dsimp only
        by_cases hshard : app.nonceShard (nonceTag c.roleTag nonce) = shard
        · subst hshard
          rw [if_pos rfl]
          exact Function.update_self ..
        · rw [if_neg hshard]
          exact Function.update_of_ne (Ne.symm hshard) ..

/-- **A run** does to a shard what its steps do. -/
theorem after_shard (s : Shards) (tag : String) (acts : List Act) : after app s acts shard =
    (NonceDO.store app.uni tag).after (s shard) (stepsOn app shard acts) := by
  induction acts with
  | nil => rfl
  | cons a old ih =>
    rw [after, next_shard, ih]
    unfold stepsOn
    cases hstep : a.stepOn app shard with
    | none => rw [List.filterMap_cons_none hstep]
    | some st =>
      rw [List.filterMap_cons_some hstep]
      rfl

theorem stepOn_some {st : NonceDO.Step} (h : a.stepOn app shard = some st) :
    st.now = a.now ∧
      ((∃ done, st.act = .cleanup done) ∨ ∃ c f tag, a = .call c ∧ c.reached = some f ∧
        st.act = .set f tag nonceBody) := by
  cases a with
  | cleanup shard' now done =>
    simp only [Act.stepOn] at h
    split at h
    · cases h
      exact ⟨rfl, .inl ⟨done, rfl⟩⟩
    · cases h
  | call c =>
    simp only [Act.stepOn] at h
    split at h
    · next hreached =>
      split at h
      · cases h
        exact ⟨rfl, .inr ⟨c, _, _, rfl, hreached, rfl⟩⟩
      · cases h
    · cases h

/-- The requests and alarms of a shard, in order. -/
def Acts.calls (r : Acts) (app : AppState) (shard : Nat) (tag : String) :
    NonceDO.Calls tag internalReplayNonceTtlSecs :=
  { steps := stepsOn app shard r.acts
    ordered := by
      refine List.Pairwise.filterMap _ ?_ r.ordered
      intro a a' hle st hst st' hst'
      rw [(stepOn_some hst).1, (stepOn_some hst').1]
      exact hle
    inRange := by
      intro st hst
      obtain ⟨a, ha, hstep⟩ := List.mem_filterMap.mp hst
      rw [(stepOn_some hstep).1]
      exact r.inRange a ha
    fixedTtl := by
      intro st hst f body hact t ht
      obtain ⟨a, ha, hstep⟩ := List.mem_filterMap.mp hst
      rcases (stepOn_some hstep).2 with ⟨done, hdone⟩ | ⟨c, f', tag', -, -, hset⟩
      · rw [hdone] at hact
        cases hact
      · rw [hset] at hact
        cases hact
        exact (Option.some.inj ht).symm }

/-- The times at which the object of a tag accepted it, newest first. -/
def acceptances (app : AppState) (s : Shards) (tag : String) (acts : List Act) : List Nat :=
  (NonceDO.store app.uni tag).successes (s (app.nonceShard tag))
    (stepsOn app (app.nonceShard tag) acts)

theorem acceptances_suffix (hs : old <:+ acts) :
    acceptances app s tag old <:+ acceptances app s tag acts :=
  SingleUse.Store.successes_suffix (hs.filterMap _)

/-- **Retention**: a tag is accepted at times that are more than the time to live apart. -/
theorem Acts.separated (r : Acts) (app : AppState) (s : Shards) (tag : String) :
    SingleUse.Separated internalReplayNonceTtlSecs (acceptances app s tag r.acts) := by
  refine (r.calls app (app.nonceShard tag) tag).lawful.separated ?_
  intro st old hs hblind
  have hst : st ∈ stepsOn app (app.nonceShard tag) r.acts := hs.subset List.mem_cons_self
  obtain ⟨a, ha, hstep⟩ := List.mem_filterMap.mp hst
  obtain ⟨now, act⟩ := st
  rcases (stepOn_some hstep).2 with ⟨done, hdone⟩ | ⟨c, f, tag', rfl, hreached, hset⟩
  · dsimp only at hdone
    subst hdone
    cases hblind
  · dsimp only at hset
    subst hset
    have hget := r.reads c f ha hreached
    simp [NonceDO.store, NonceDO.Step.blind, hget] at hblind

/-! ## At most once -/

/-- A call that gets through was accepted by the object of its tag, in time. -/
theorem outcome_ok (h : outcome app s c old = some (.ok ⟨timestamp, nonce⟩)) :
    c.presents = some (timestamp, nonce) ∧ c.servedAt ≤ c.sentAt + doFetchTimeoutSecs ∧
      ∃ f, c.reached = some f ∧ (NonceDO.setNonce app.uni
        (after app s old (app.nonceShard (nonceTag c.roleTag nonce))) c.servedAt f
        (nonceTag c.roleTag nonce) nonceBody).1 = some (.verdict true) := by
  unfold outcome at h
  cases hp : c.presents with
  | none =>
    rw [enforce_of_not_presents hp] at h
    cases h
  | some shown =>
    obtain ⟨timestamp', nonce'⟩ := shown
    rw [enforce_of_presents hp] at h
    dsimp only at h
    split at h
    · next hask =>
      cases h
      unfold ask at hask
      cases hreached : c.reached with
      | none =>
        rw [hreached] at hask
        cases hask
      | some f =>
        rw [hreached] at hask
        dsimp only at hask
        split at hask
        · next hintime => exact ⟨rfl, hintime.2, f, rfl, hask⟩
        · cases hask
    · cases h

/-- The object accepted the tag of a call that gets through. -/
theorem acceptances_cons (h : outcome app s c old = some (.ok ⟨timestamp, nonce⟩)) :
    acceptances app s (nonceTag c.roleTag nonce) (.call c :: old) =
      c.servedAt :: acceptances app s (nonceTag c.roleTag nonce) old := by
  obtain ⟨hpresents, -, f, hreached, hset⟩ := outcome_ok h
  unfold acceptances
  generalize htag : nonceTag c.roleTag nonce = tag at hset
  have hstep := stepOn_call app hpresents hreached
  rw [htag] at hstep
  have hsteps : stepsOn app (app.nonceShard tag) (.call c :: old) =
      ⟨c.servedAt, .set f tag nonceBody⟩ :: stepsOn app (app.nonceShard tag) old :=
    List.filterMap_cons_some hstep
  rw [after_shard s tag] at hset
  have hsucceeds : (NonceDO.store app.uni tag).succeeds ((NonceDO.store app.uni tag).after
      (s (app.nonceShard tag)) (stepsOn app (app.nonceShard tag) old))
      ⟨c.servedAt, .set f tag nonceBody⟩ = true :=
    Bool.and_eq_true_iff.mpr ⟨decide_eq_true rfl, decide_eq_true hset⟩
  rw [hsteps, SingleUse.Store.successes, if_pos hsucceeds]
  rfl

/-- **At most once**: of two calls with one role, timestamp and nonce one gets through at most. -/
theorem at_most_once (r : Acts) (hsuf : .call c :: old <:+ r.acts) {old' : List Act}
    (hsuf' : .call c' :: old' <:+ old) (hrole : c.roleTag = c'.roleTag)
    (h : outcome app s c old = some (.ok ⟨timestamp, nonce⟩)) :
    outcome app s c' old' ≠ some (.ok ⟨timestamp, nonce⟩) := by
  intro h'
  obtain ⟨hpresents, hintime, -⟩ := outcome_ok h
  obtain ⟨hpresents', -⟩ := outcome_ok h'
  have hlater := (r.separated app s (nonceTag c.roleTag nonce)).sublist
    (acceptances_suffix hsuf).sublist
  rw [acceptances_cons h] at hlater
  have hmem : c'.servedAt ∈ acceptances app s (nonceTag c.roleTag nonce) old := by
    refine (acceptances_suffix hsuf').subset ?_
    rw [hrole, acceptances_cons h']
    exact List.mem_cons_self
  have happart := (List.pairwise_cons.mp hlater).1 _ hmem
  -- the clock of the server is within the window of the timestamp at both calls
  have hwindow := presents_skew hpresents
  have hwindow' := presents_skew hpresents'
  have hsent' : c'.sentAt ≤ c'.servedAt :=
    r.sent c' ((hsuf'.trans ((List.suffix_cons _ _).trans hsuf)).subset List.mem_cons_self)
  unfold internalReplayNonceTtlSecs at happart
  unfold internalReplayTimestampWindowSecs at hwindow hwindow'
  unfold doFetchTimeoutSecs at hintime
  omega

/-! ## Roles -/

/-- The alarms, and the calls for one role. -/
def ofRole (roleTag : String) : Act → Bool
  | .call c => c.roleTag = roleTag
  | .cleanup _ _ _ => true

/-- A call is answered as it would be without the calls for other roles. -/
def Independent (app : AppState) (s : Shards) (c : Call) (old : List Act) : Prop :=
  outcome app s c old = outcome app s c (old.filter (ofRole c.roleTag))

/-- What the object of a tag holds for it. -/
def held (app : AppState) (s : Shards) (tag : String) (old : List Act) : Option NonceDO.Entry :=
  after app s old (app.nonceShard tag) tag

/-- A call stores a tag: the object holds another entry for it than before. -/
def Stored (app : AppState) (s : Shards) (c : Call) (old : List Act) (tag : String) : Prop :=
  held app s tag (.call c :: old) ≠ held app s tag old

/-- A call asks its object for a tag that a call for another role has stored, and whose entry is
live: the role tag of one runs into the nonce of the other. -/
def Blocked (app : AppState) (s : Shards) (c : Call) (old : List Act) : Prop :=
  c.reached ≠ none ∧
  ∃ c' older nonce nonce', .call c' :: older <:+ old ∧ c'.roleTag ≠ c.roleTag ∧
    c.presents.map Prod.snd = some nonce ∧ c'.presents.map Prod.snd = some nonce' ∧
    ((Use.internalBearer c.roleTag nonce).Overlaps (.internalBearer c'.roleTag nonce') ∨
      (Use.internalBearer c'.roleTag nonce').Overlaps (.internalBearer c.roleTag nonce)) ∧
    Stored app s c' older (nonceTag c'.roleTag nonce') ∧
    c.servedAt ≤ c'.servedAt + internalReplayNonceTtlSecs

/-! ### One request -/

section Requests

variable {t t' : NonceDO.Storage} {now : Nat} {f : NonceDO.Faults} {body : Body Nat}

/-- The answer for a tag, and what is stored for it, depend on what was stored for it. -/
theorem setNonce_congr (h : t tag = t' tag) :
    (NonceDO.setNonce app.uni t now f tag body).1 = (NonceDO.setNonce app.uni t' now f tag body).1 ∧
      (NonceDO.setNonce app.uni t now f tag body).2 tag =
        (NonceDO.setNonce app.uni t' now f tag body).2 tag := by
  unfold NonceDO.setNonce
  rw [h]
  split
  · exact ⟨rfl, h⟩
  · split
    · exact ⟨rfl, h⟩
    · split
      · exact ⟨rfl, h⟩
      · split
        · exact ⟨rfl, h⟩
        · by_cases hput : f.put = true
          · rw [if_pos hput, if_pos hput]
            dsimp only
            cases f.alarm with
            | true => simp
            | false => simp
          · rw [if_neg hput, if_neg hput]
            exact ⟨rfl, h⟩

/-- A free tag is answered like one that has no entry, and stored likewise, or not at all. -/
theorem setNonce_free (app : AppState) (f : NonceDO.Faults) (body : Body Nat)
    (h : NonceDO.Free t now tag) :
    (NonceDO.setNonce app.uni t now f tag body).1 =
        (NonceDO.setNonce app.uni (fun _ => none) now f tag body).1 ∧
      ((NonceDO.setNonce app.uni t now f tag body).2 tag = t tag ∧
          (NonceDO.setNonce app.uni (fun _ => none) now f tag body).2 tag = none ∨
        (NonceDO.setNonce app.uni t now f tag body).2 tag =
          (NonceDO.setNonce app.uni (fun _ => none) now f tag body).2 tag) := by
  have hfilter : (if f.get then t tag else none).filter (fun entry => entry.expiresAt ≥ now) =
      none := by
    split
    · refine Option.filter_eq_none_iff.mpr fun entry hentry => ?_
      have hlt := h entry hentry
      simpa using hlt
    · rfl
  have hempty : (if f.get then (none : Option NonceDO.Entry) else none).filter
      (fun entry => entry.expiresAt ≥ now) = none := by
    split
    · rfl
    · rfl
  unfold NonceDO.setNonce
  rw [hfilter, hempty]
  split
  · exact ⟨rfl, .inl ⟨rfl, rfl⟩⟩
  · split
    · exact ⟨rfl, .inl ⟨rfl, rfl⟩⟩
    · split
      · exact ⟨rfl, .inl ⟨rfl, rfl⟩⟩
      · by_cases hput : f.put = true
        · rw [if_pos hput, if_pos hput]
          dsimp only
          cases f.alarm with
          | true => simp
          | false => simp
        · rw [if_neg hput, if_neg hput]
          exact ⟨rfl, .inl ⟨rfl, rfl⟩⟩

/-- The alarm looks at what is stored for a tag alone. -/
theorem cleanup_congr (h : t tag = t' tag) :
    NonceDO.cleanupExpiredNonces t now tag = NonceDO.cleanupExpiredNonces t' now tag := by
  unfold NonceDO.cleanupExpiredNonces
  rw [h]

end Requests

/-- A call is told what its object answers. -/
theorem ask_congr {body : Body Nat}
    (h : ∀ f, c.reached = some f →
      (NonceDO.setNonce app.uni (s (app.nonceShard tag)) c.servedAt f tag body).1 =
        (NonceDO.setNonce app.uni (s' (app.nonceShard tag)) c.servedAt f tag body).1) :
    (ask app c tag body s).1 = (ask app c tag body s').1 := by
  unfold ask
  cases hreached : c.reached with
  | none => rfl
  | some f =>
    dsimp only
    rw [h f hreached]

/-! ### Two runs -/

/-- **One act** and what is held for a tag: it stays, it is cleaned up, or a call asks for it. -/
theorem held_cases (app : AppState) (s : Shards) (tag : String) (a : Act) :
    (∀ old, held app s tag (a :: old) = held app s tag old) ∨
    (∃ shard now, a = .cleanup shard now true ∧ ∀ old, held app s tag (a :: old) =
      NonceDO.cleanupExpiredNonces (after app s old (app.nonceShard tag)) now tag) ∨
    ∃ c f nonce, a = .call c ∧ c.presents.map Prod.snd = some nonce ∧ c.reached = some f ∧
      nonceTag c.roleTag nonce = tag ∧ ∀ old, held app s tag (a :: old) =
        (NonceDO.setNonce app.uni (after app s old (app.nonceShard tag)) c.servedAt f tag
          nonceBody).2 tag := by
  have hnext : ∀ old, held app s tag (a :: old) =
      (match a.stepOn app (app.nonceShard tag) with
        | some st => (NonceDO.serve app.uni (after app s old (app.nonceShard tag)) st).2
        | none => after app s old (app.nonceShard tag)) tag :=
    fun old => congrFun (next_shard a (after app s old)) tag
  cases a with
  | cleanup shard now done =>
    simp only [Act.stepOn] at hnext
    by_cases hshard : shard = app.nonceShard tag
    · rw [if_pos hshard] at hnext
      cases done with
      | true => exact .inr (.inl ⟨shard, now, rfl, hnext⟩)
      | false => exact .inl hnext
    · rw [if_neg hshard] at hnext
      exact .inl hnext
  | call c =>
    simp only [Act.stepOn] at hnext
    cases hpresents : c.presents with
    | none =>
      rw [hpresents] at hnext
      exact .inl hnext
    | some shown =>
      obtain ⟨timestamp, nonce⟩ := shown
      cases hreached : c.reached with
      | none =>
        rw [hpresents, hreached] at hnext
        exact .inl hnext
      | some f =>
        rw [hpresents, hreached] at hnext
        dsimp only at hnext
        by_cases htag : nonceTag c.roleTag nonce = tag
        · rw [htag, if_pos rfl] at hnext
          exact .inr (.inr ⟨c, f, nonce, rfl, by rw [hpresents]; rfl, hreached, htag, hnext⟩)
        · refine .inl fun old => ?_
          rw [hnext]
          by_cases hshard : app.nonceShard (nonceTag c.roleTag nonce) = app.nonceShard tag
          · rw [if_pos hshard]
            exact NonceDO.setNonce_other (Ne.symm htag)
          · rw [if_neg hshard]
            rfl

/-- What is stored expires with the entry of a call at the latest. -/
def Within (c : Call) (entry : Option NonceDO.Entry) : Prop :=
  ∀ e, entry = some e → e.expiresAt ≤ NonceDO.satAdd c.servedAt internalReplayNonceTtlSecs

/-- What is held for a tag with the calls for other roles and without them: the same, or nothing
that outlives the entry of a call for another role. -/
def Agree (app : AppState) (s : Shards) (roleTag tag : String) (old : List Act) : Prop :=
  held app s tag old = held app s tag (old.filter (ofRole roleTag)) ∨
    ∃ c' older nonce', .call c' :: older <:+ old ∧ c'.roleTag ≠ roleTag ∧
      c'.presents.map Prod.snd = some nonce' ∧ nonceTag c'.roleTag nonce' = tag ∧
      Stored app s c' older tag ∧ Within c' (held app s tag old) ∧
      Within c' (held app s tag (old.filter (ofRole roleTag)))

variable {roleTag : String}

theorem Within.free {entries : NonceDO.Storage} {now : Nat} (h : Within c (entries tag))
    (hlate : ¬ now ≤ c.servedAt + internalReplayNonceTtlSecs) : NonceDO.Free entries now tag := by
  intro entry hentry
  have hle := h entry hentry
  unfold NonceDO.satAdd at hle
  omega

theorem Within.none (c : Call) : Within c none := by
  intro e he
  cases he

theorem Within.cleanup {entries : NonceDO.Storage} {now : Nat} (h : Within c (entries tag)) :
    Within c (NonceDO.cleanupExpiredNonces entries now tag) :=
  fun e he => h e (NonceDO.cleanupExpiredNonces_some he)

/-- The entry of a later call expires later. -/
theorem Within.later (h : Within c entry) (hle : c.servedAt ≤ c'.servedAt) : Within c' entry := by
  intro e he
  have hbound := h e he
  unfold NonceDO.satAdd at hbound ⊢
  omega

/-- A request for a tag that is free in both runs leaves the same entry, or what is held in neither
outlives the entry of `c`. -/
theorem setNonce_within {entries entries' : NonceDO.Storage} {now : Nat} {f : NonceDO.Faults}
    {body : Body Nat} (hfree : NonceDO.Free entries now tag)
    (hfree' : NonceDO.Free entries' now tag) (hw : Within c (entries tag))
    (hw' : Within c (entries' tag)) :
    (NonceDO.setNonce app.uni entries now f tag body).2 tag =
        (NonceDO.setNonce app.uni entries' now f tag body).2 tag ∨
      Within c ((NonceDO.setNonce app.uni entries now f tag body).2 tag) ∧
        Within c ((NonceDO.setNonce app.uni entries' now f tag body).2 tag) := by
  have hone := (setNonce_free app f body hfree).2
  have hother := (setNonce_free app f body hfree').2
  rcases hone with ⟨hone, hnone⟩ | hone
  · refine .inr ⟨hone ▸ hw, ?_⟩
    rcases hother with ⟨hother, -⟩ | hother
    · exact hother ▸ hw'
    · rw [hother, hnone]
      exact Within.none c
  · rcases hother with ⟨hother, hnone⟩ | hother
    · refine .inr ⟨?_, hother ▸ hw'⟩
      rw [hone, hnone]
      exact Within.none c
    · exact .inl (hone.trans hother.symm)

/-- An act that does the same to both runs. -/
theorem Agree.next (h : Agree app s roleTag tag old)
    (hsame : held app s tag old = held app s tag (old.filter (ofRole roleTag)) →
      held app s tag (a :: old) = held app s tag ((a :: old).filter (ofRole roleTag)))
    (hfull : ∀ c, Within c (held app s tag old) → Within c (held app s tag (a :: old)))
    (hfiltered : ∀ c, Within c (held app s tag (old.filter (ofRole roleTag))) →
      Within c (held app s tag ((a :: old).filter (ofRole roleTag)))) :
    Agree app s roleTag tag (a :: old) := by
  rcases h with h | ⟨c', older, nonce', hsuf, hrole, hpresents, htag, hstored, hw, hw'⟩
  · exact .inl (hsame h)
  · exact .inr ⟨c', older, nonce', hsuf.trans (List.suffix_cons _ _), hrole, hpresents, htag,
      hstored, hfull c' hw, hfiltered c' hw'⟩

/-- Of a call that is not blocked, for another call that stored its tag: that entry has expired. -/
theorem late_of_not_blocked {older : List Act} {nonce' : String} (h : ¬ Blocked app s c old)
    (hreached : c.reached ≠ none) (hsuf : .call c' :: older <:+ old)
    (hrole : c'.roleTag ≠ c.roleTag) (hpresents : c.presents.map Prod.snd = some nonce)
    (hpresents' : c'.presents.map Prod.snd = some nonce')
    (htag : nonceTag c'.roleTag nonce' = nonceTag c.roleTag nonce)
    (hstored : Stored app s c' older (nonceTag c.roleTag nonce)) :
    ¬ c.servedAt ≤ c'.servedAt + internalReplayNonceTtlSecs := by
  intro hlive
  refine h ⟨hreached, c', older, nonce, nonce', hsuf, hrole, hpresents, hpresents', ?_, ?_, hlive⟩
  · have hequal : (Use.internalBearer c.roleTag nonce).tag =
        (Use.internalBearer c'.roleTag nonce').tag := htag.symm
    rcases Use.internalBearer_eq_iff.mp hequal with heq | hover
    · injection heq with heq
      exact absurd heq.symm hrole
    · exact hover
  · rw [htag]
    exact hstored

/-- An act that does not concern the tag. -/
theorem Agree.stays (h : Agree app s roleTag tag old)
    (hstays : ∀ old, held app s tag (a :: old) = held app s tag old) :
    Agree app s roleTag tag (a :: old) := by
  have hfiltered : held app s tag ((a :: old).filter (ofRole roleTag)) =
      held app s tag (old.filter (ofRole roleTag)) := by
    by_cases hrole : ofRole roleTag a = true
    · rw [List.filter_cons_of_pos hrole, hstays]
    · rw [List.filter_cons_of_neg hrole]
  refine h.next ?_ ?_ ?_
  · intro heq
    rw [hstays, hfiltered, heq]
  · intro c hw
    rwa [hstays]
  · intro c hw
    rwa [hfiltered]

/-- An alarm belongs to both runs. -/
theorem Agree.cleanup {shard now : Nat} (h : Agree app s roleTag tag old)
    (hcleanup : ∀ old, held app s tag (.cleanup shard now true :: old) =
      NonceDO.cleanupExpiredNonces (after app s old (app.nonceShard tag)) now tag) :
    Agree app s roleTag tag (.cleanup shard now true :: old) := by
  have hfilter : (Act.cleanup shard now true :: old).filter (ofRole roleTag) =
      .cleanup shard now true :: old.filter (ofRole roleTag) := List.filter_cons_of_pos rfl
  refine h.next ?_ ?_ ?_
  · intro heq
    rw [hfilter, hcleanup, hcleanup]
    exact cleanup_congr heq
  · intro c hw
    rw [hcleanup]
    exact Within.cleanup hw
  · intro c hw
    rw [hfilter, hcleanup]
    exact Within.cleanup hw

/-- A call for the role belongs to both runs, and what it asks for is held alike or no longer. -/
theorem Agree.call_role {f : NonceDO.Faults} (h : Agree app s roleTag tag old)
    (hrole : c.roleTag = roleTag) (hblocked : ¬ Blocked app s c old)
    (hpresents : c.presents.map Prod.snd = some nonce) (hreached : c.reached = some f)
    (htag : nonceTag c.roleTag nonce = tag)
    (hset : ∀ old, held app s tag (.call c :: old) =
      (NonceDO.setNonce app.uni (after app s old (app.nonceShard tag)) c.servedAt f tag
        nonceBody).2 tag) :
    Agree app s roleTag tag (.call c :: old) := by
  have hfilter : (Act.call c :: old).filter (ofRole roleTag) =
      .call c :: old.filter (ofRole roleTag) :=
    List.filter_cons_of_pos (decide_eq_true hrole)
  rcases h with heq | ⟨c', older, nonce', hsuf', hrole', hpresents', htag', hstored, hw, hw'⟩
  · refine .inl ?_
    rw [hfilter, hset, hset]
    exact (setNonce_congr heq).2
  · have hlate : ¬ c.servedAt ≤ c'.servedAt + internalReplayNonceTtlSecs := by
      subst htag
      exact late_of_not_blocked hblocked (by simp [hreached]) hsuf' (hrole ▸ hrole') hpresents
        hpresents' htag' hstored
    rcases setNonce_within (Within.free hw hlate) (Within.free hw' hlate) hw hw'
      with heq | ⟨hone, hother⟩
    · refine .inl ?_
      rw [hfilter, hset, hset]
      exact heq
    · refine .inr ⟨c', older, nonce', hsuf'.trans (List.suffix_cons _ _), hrole', hpresents',
        htag', hstored, ?_, ?_⟩
      · rw [hset]
        exact hone
      · rw [hfilter, hset]
        exact hother

/-- A call for another role that stores the tag: what both runs hold expires with its entry. -/
theorem Agree.stored (r : Acts) (hsuf : .call c :: old <:+ r.acts)
    (h : Agree app s roleTag tag old) (hrole : c.roleTag ≠ roleTag)
    (hpresents : c.presents.map Prod.snd = some nonce)
    (htag : nonceTag c.roleTag nonce = tag)
    (hfree : NonceDO.Free (after app s old (app.nonceShard tag)) c.servedAt tag)
    {e : NonceDO.Entry} (hdone : held app s tag (.call c :: old) = some e)
    (hexpires : e.expiresAt = NonceDO.satAdd c.servedAt internalReplayNonceTtlSecs) :
    Agree app s roleTag tag (.call c :: old) := by
  have hle : c.servedAt ≤ NonceDO.satAdd c.servedAt internalReplayNonceTtlSecs :=
    NonceDO.le_satAdd (r.inRange (.call c) (hsuf.subset List.mem_cons_self))
  have hstored : Stored app s c old tag := by
    intro heq
    rw [heq] at hdone
    exact absurd (hfree _ hdone) (Nat.not_lt.mpr (hexpires ▸ hle))
  refine .inr ⟨c, old, nonce, List.suffix_rfl, hrole, hpresents, htag, hstored, ?_, ?_⟩
  · rw [hdone]
    intro e he
    cases he
    exact hexpires.le
  · rw [List.filter_cons_of_neg (by simpa [ofRole] using hrole)]
    rcases h with heq | ⟨c', older, nonce', hsuf', -, -, -, -, -, hw'⟩
    · rw [← heq]
      exact fun e he => (hfree e he).le.trans hle
    · have hpast := (List.pairwise_cons.mp (r.ordered.sublist hsuf.sublist)).1 (.call c')
        (hsuf'.subset List.mem_cons_self)
      exact hw'.later hpast

/-- A call for another role stores the tag or leaves what is held. -/
theorem Agree.call_other {f : NonceDO.Faults} (r : Acts) (hsuf : .call c :: old <:+ r.acts)
    (h : Agree app s roleTag tag old) (hrole : c.roleTag ≠ roleTag)
    (hpresents : c.presents.map Prod.snd = some nonce) (hreached : c.reached = some f)
    (htag : nonceTag c.roleTag nonce = tag)
    (hset : held app s tag (.call c :: old) =
      (NonceDO.setNonce app.uni (after app s old (app.nonceShard tag)) c.servedAt f tag
        nonceBody).2 tag) :
    Agree app s roleTag tag (.call c :: old) := by
  rcases NonceDO.setNonce_cases app.uni (after app s old (app.nonceShard tag)) c.servedAt f tag
    nonceBody with ⟨ttl, httl, hfree, hput⟩ | ⟨hput, -⟩
  · cases httl
    rw [hput, Function.update_self] at hset
    exact h.stored r hsuf hrole hpresents htag
      (hfree (r.reads c f (hsuf.subset List.mem_cons_self) hreached)) hset rfl
  · have hfilter : (Act.call c :: old).filter (ofRole roleTag) = old.filter (ofRole roleTag) :=
      List.filter_cons_of_neg (by simpa [ofRole] using hrole)
    rw [hput] at hset
    refine h.next ?_ ?_ ?_
    · intro heq
      rw [hset, hfilter]
      exact heq
    · intro c' hw
      rw [hset]
      exact hw
    · intro c' hw
      rw [hfilter]
      exact hw

/-- **One act** keeps the agreement, if it is no call for the role that is blocked. -/
theorem Agree.step (r : Acts) (hsuf : a :: old <:+ r.acts)
    (hblocked : ∀ c, a = .call c → c.roleTag = roleTag → ¬ Blocked app s c old)
    (h : Agree app s roleTag tag old) : Agree app s roleTag tag (a :: old) := by
  rcases held_cases app s tag a with hstays | ⟨shard, now, rfl, hcleanup⟩ |
    ⟨c, f, nonce, rfl, hpresents, hreached, htag, hset⟩
  · exact h.stays hstays
  · exact h.cleanup hcleanup
  · by_cases hrole : c.roleTag = roleTag
    · exact h.call_role hrole (hblocked c rfl hrole) hpresents hreached htag hset
    · exact h.call_other r hsuf hrole hpresents hreached htag (hset old)

/-- **A run** keeps the agreement. -/
theorem Agree.run (r : Acts) (roleTag tag : String)
    (hblocked : ∀ c old, .call c :: old <:+ r.acts → c.roleTag = roleTag → ¬ Blocked app s c old) :
    ∀ old, old <:+ r.acts → Agree app s roleTag tag old := by
  intro old
  induction old with
  | nil => exact fun _ => .inl rfl
  | cons a old ih =>
    intro hsuf
    refine Agree.step r hsuf ?_ (ih ((List.suffix_cons _ _).trans hsuf))
    rintro c rfl hrole
    exact hblocked c old hsuf hrole

/-- **The internal replay window**: of the calls with one role, timestamp and nonce one gets through
at most; and where no call is blocked by the stored tag of another role, every call is answered as
it would be without the calls for other roles. -/
theorem internal_replay_window (app : AppState) (s : Shards) (r : Acts) :
    (∀ c old c' old' timestamp nonce, .call c :: old <:+ r.acts → .call c' :: old' <:+ old →
      c.roleTag = c'.roleTag → outcome app s c old = some (.ok ⟨timestamp, nonce⟩) →
      outcome app s c' old' ≠ some (.ok ⟨timestamp, nonce⟩)) ∧
    ((∀ c old, .call c :: old <:+ r.acts → ¬ Blocked app s c old) →
      ∀ c old, .call c :: old <:+ r.acts → Independent app s c old) := by
  refine ⟨fun c old c' old' timestamp nonce hsuf hsuf' hrole =>
    at_most_once r hsuf hsuf' hrole, ?_⟩
  intro hblocked c old hsuf
  have hold : old <:+ r.acts := (List.suffix_cons _ _).trans hsuf
  unfold Independent outcome
  cases hpresents : c.presents with
  | none => rw [enforce_of_not_presents hpresents, enforce_of_not_presents hpresents]
  | some shown =>
    obtain ⟨timestamp, nonce⟩ := shown
    rw [enforce_of_presents hpresents, enforce_of_presents hpresents]
    have hask : (ask app c (nonceTag c.roleTag nonce) nonceBody (after app s old)).1 =
        (ask app c (nonceTag c.roleTag nonce) nonceBody
          (after app s (old.filter (ofRole c.roleTag)))).1 := by
      refine ask_congr fun f hreached => ?_
      rcases Agree.run r c.roleTag (nonceTag c.roleTag nonce)
          (fun c old hsuf _ => hblocked c old hsuf) old hold
        with heq | ⟨c', older, nonce', hsuf', hrole, hpresents', htag, hstored, hw, hw'⟩
      · exact (setNonce_congr heq).1
      · have hlate := late_of_not_blocked (hblocked c old hsuf) (by simp [hreached]) hsuf'
          hrole (by rw [hpresents]; rfl) hpresents' htag hstored
        rw [(setNonce_free app f nonceBody (Within.free hw hlate)).1,
          (setNonce_free app f nonceBody (Within.free hw' hlate)).1]
    rw [hask]

/-! ## Samples -/

/-- A call that is served at once. -/
def sampleCall (roleTag nonce : String) : Call :=
  { headers := fun name =>
      if name = "X-Timestamp" then some "1000" else if name = "X-Nonce" then some nonce else none
    roleTag := roleTag
    sentAt := 1000
    servedAt := 1000
    reached := some .none
    answered := true }

/-- Two routes are called with one nonce, and the first one once more. -/
def sampleActs : Acts :=
  { acts := [.call (sampleCall "metrics" "n1"), .call (sampleCall "internal_version" "n1"),
      .call (sampleCall "metrics" "n1")]
    ordered := by simp [Act.now, sampleCall]
    inRange := by simp [Act.now, sampleCall, maxClock]
    sent := by
      intro c hc
      simp only [List.mem_cons, Act.call.injEq, List.not_mem_nil, or_false] at hc
      rcases hc with rfl | rfl | rfl
      · exact le_rfl
      · exact le_rfl
      · exact le_rfl
    reads := by
      intro c f hc hf
      simp only [List.mem_cons, Act.call.injEq, List.not_mem_nil, or_false] at hc
      rcases hc with rfl | rfl | rfl
      · cases hf
        rfl
      · cases hf
        rfl
      · cases hf
        rfl }

/-- The role tags of two listed routes do not run into a nonce. -/
theorem not_overlaps_listed {roleTag nonce roleTag' nonce' : String} (h : roleTag ∈ roleTags)
    (h' : roleTag' ∈ roleTags) :
    ¬ (Use.internalBearer roleTag nonce).Overlaps (.internalBearer roleTag' nonce') := by
  intro hover
  obtain ⟨fixtureClass, hclass⟩ := hover.fixture (.inl h) (.inl h')
  have hlisted : ∀ role ∈ roleTags, "admin-fixture:".toList.isPrefixOf role.toList = false := by
    decide
  have hno := hlisted roleTag h
  rw [hclass, String.toList_append] at hno
  have hyes : "admin-fixture:".toList.isPrefixOf ("admin-fixture:".toList ++ fixtureClass.toList) =
      true := List.isPrefixOf_iff_prefix.mpr (List.prefix_append _ _)
  rw [hyes] at hno
  cases hno

/-- The second route is answered as it would be alone, and the third call is refused. -/
theorem routes_independent :
    (∀ c old, .call c :: old <:+ sampleActs.acts →
      Independent AppState.sample (fun _ _ => none) c old) ∧
    outcome AppState.sample (fun _ _ => none) (sampleCall "internal_version" "n1")
      [.call (sampleCall "metrics" "n1")] = some (.ok ⟨1000, "n1"⟩) ∧
    outcome AppState.sample (fun _ _ => none) (sampleCall "metrics" "n1")
      [.call (sampleCall "internal_version" "n1"), .call (sampleCall "metrics" "n1")] =
        some (.error .unauthorized) := by
  refine ⟨(internal_replay_window AppState.sample (fun _ _ => none) sampleActs).2 ?_,
    by decide +kernel, by decide +kernel⟩
  have hroles : ∀ c, .call c ∈ sampleActs.acts → c.roleTag ∈ roleTags := by
    intro c hc
    simp only [sampleActs, List.mem_cons, Act.call.injEq, List.not_mem_nil, or_false] at hc
    rcases hc with rfl | rfl | rfl
    · decide
    · decide
    · decide
  rintro c old hsuf ⟨-, c', older, nonce, nonce', hsuf', -, -, -, hover, -⟩
  have hrole := hroles c (hsuf.subset List.mem_cons_self)
  have hrole' := hroles c'
    ((hsuf'.trans ((List.suffix_cons _ _).trans hsuf)).subset List.mem_cons_self)
  rcases hover with hover | hover
  · exact not_overlaps_listed hrole hrole' hover
  · exact not_overlaps_listed hrole' hrole hover

/-- **Two fixture classes share a tag**: the nonce `x:1` is refused for the class `bans` after `1`
was used for the class `bans:x`; without that call it gets through. -/
theorem fixture_class_blocks :
    outcome AppState.sample (fun _ _ => none) (sampleCall "admin-fixture:bans" "x:1")
      [.call (sampleCall "admin-fixture:bans:x" "1")] = some (.error .unauthorized) ∧
    outcome AppState.sample (fun _ _ => none) (sampleCall "admin-fixture:bans" "x:1") [] =
      some (.ok ⟨1000, "x:1"⟩) ∧
    ¬ Independent AppState.sample (fun _ _ => none)
      (sampleCall "admin-fixture:bans" "x:1") [.call (sampleCall "admin-fixture:bans:x" "1")] := by
  have hblocked : outcome AppState.sample (fun _ _ => none)
      (sampleCall "admin-fixture:bans" "x:1") [.call (sampleCall "admin-fixture:bans:x" "1")] =
        some (.error .unauthorized) := by
    decide +kernel
  have halone : outcome AppState.sample (fun _ _ => none)
      (sampleCall "admin-fixture:bans" "x:1") [] = some (.ok ⟨1000, "x:1"⟩) := by
    decide +kernel
  refine ⟨hblocked, halone, fun h => ?_⟩
  have hothers : [Act.call (sampleCall "admin-fixture:bans:x" "1")].filter
      (ofRole (sampleCall "admin-fixture:bans" "x:1").roleTag) = [] := by
    decide
  unfold Independent at h
  rw [hothers, hblocked, halone] at h
  cases h

end InternalReplay

end ProviiVerifier
