/-
  Single use of nonces, over every sequence of requests and alarms on one nonce object.

  Both objects fold a failed read of the storage into "no entry" and then store over whatever is
  there. Such a blind request is accepted though the nonce was used.

  Proved: for `NonceDO` and `HostedNonceDO`, the successful requests for one nonce are more than
  its time to live apart when every blind one meets a free nonce, and the alarm removes no entry
  that is still reported as a replay (`single_use`).
-/
import ProviiVerifier.HostedNonceDO
import ProviiVerifier.Retention.SingleUse

namespace ProviiVerifier

theorem satAdd_eq (a b : Nat) : NonceDO.satAdd a b = SingleUse.addUpTo maxClock a b := rfl

namespace NonceDO

/-- What happens on the object: a request, or an alarm, whose listing and deletion may fail. -/
inductive Act
  | set (f : Faults) (tag : String) (body : Body Nat)
  | cleanup (done : Bool)

/-- An act with its time. -/
structure Step where
  now : Nat
  act : Act

/-- The answer to an act and the storage it leaves. -/
def serve (uni : Unicode) (s : Storage) (st : Step) : Option Reply × Storage :=
  match st.act with
  | .set f tag body => setNonce uni s st.now f tag body
  | .cleanup done => (none, if done then cleanupExpiredNonces s st.now else s)

/-- The act is a request for the tag. -/
def Step.asks (tag : String) (st : Step) : Bool :=
  match st.act with
  | .set _ tag' _ => tag' = tag
  | .cleanup _ => false

/-- A well-formed request for the tag whose read fails and whose write and alarm succeed. -/
def Step.blind (uni : Unicode) (tag : String) (st : Step) : Bool :=
  match st.act with
  | .set f tag' body =>
    tag' = tag && (validateNonceTag uni tag).isOk && body.size ≤ maxNonceBodySize &&
      body.value.isSome && !f.get && f.put && f.alarm
  | .cleanup _ => false

/-- The object as seen from one tag. -/
def store (uni : Unicode) (tag : String) : SingleUse.Store Storage Step :=
  { now := Step.now
    next := fun s st => (serve uni s st).2
    succeeds := fun s st => st.asks tag && (serve uni s st).1 = some (.verdict true)
    blind := Step.blind uni tag
    expiry := fun s => (s tag).map (·.expiresAt) }

/-- A sequence of acts in the order of a clock of 64 bits, with one time to live for the tag. -/
structure Calls (tag : String) (ttl : Nat) where
  steps : List Step
  ordered : steps.Pairwise fun later earlier => earlier.now ≤ later.now
  inRange : ∀ st ∈ steps, st.now ≤ maxClock
  fixedTtl : ∀ st ∈ steps, ∀ f body, st.act = .set f tag body → ∀ t, body.value = some t → t = ttl

variable {uni : Unicode} {s : Storage} {tag : String} {ttl : Nat} {st : Step}

/-- A blind request succeeds whatever is stored. -/
theorem succeeds_of_blind (h : (store uni tag).blind st = true) :
    (store uni tag).succeeds s st = true := by
  obtain ⟨now, act⟩ := st
  simp only [store, Step.blind, Step.asks, serve] at h ⊢
  cases act with
  | cleanup done => simp at h
  | set f tag' body =>
    simp only [Bool.and_eq_true, decide_eq_true_eq, Bool.not_eq_true'] at h ⊢
    obtain ⟨⟨⟨⟨⟨⟨rfl, hvalid⟩, hsize⟩, hval⟩, hget⟩, hput⟩, halarm⟩ := h
    obtain ⟨t, ht⟩ := Option.isSome_iff_exists.mp hval
    cases hv : validateNonceTag uni tag' with
    | error e => simp [hv, Except.isOk, Except.toBool] at hvalid
    | ok => simp [setNonce, hv, Nat.not_lt.mpr hsize, ht, hget, hput, halarm]

/-- A request that succeeds without being blind found the tag free. -/
theorem free_of_succeeds {now : Nat} {f : Faults} {body : Body Nat}
    (hok : (setNonce uni s now f tag body).1 = some (.verdict true))
    (hblind : Step.blind uni tag ⟨now, .set f tag body⟩ ≠ true) : Free s now tag := by
  obtain ⟨t, hval, hfree, -⟩ := setNonce_accept hok
  refine hfree ?_
  by_contra hget
  refine hblind ?_
  unfold setNonce at hok
  cases hvalid : validateNonceTag uni tag with
  | error e => simp [hvalid] at hok
  | ok =>
    simp only [hvalid, hval] at hok
    split at hok
    · simp at hok
    · next hsize =>
      obtain ⟨get, put, alarm⟩ := f
      cases get <;> cases put <;> cases alarm <;> simp at hok hget
      simp [Step.blind, hvalid, Nat.le_of_not_lt hsize, hval, Except.isOk, Except.toBool]

theorem expiry_eq (s : Storage) : (store uni tag).expiry s = (s tag).map (·.expiresAt) := rfl

/-- **One act** is a step of the retention of the tag. -/
theorem step_of_serve (httl : ∀ f body, st.act = .set f tag body → ∀ t, body.value = some t →
      t = ttl) :
    SingleUse.Step maxClock ttl st.now ((store uni tag).expiry s)
      ((store uni tag).expiry ((store uni tag).next s st)) ((store uni tag).outcome s st) := by
  obtain ⟨now, act⟩ := st
  rw [expiry_eq, expiry_eq]
  cases act with
  | cleanup done =>
    rw [SingleUse.Store.outcome_other (by simp [store, Step.asks])]
    show SingleUse.Step _ _ now _ (((if done then cleanupExpiredNonces s now else s) tag).map _) _
    cases done with
    | false => exact .keep
    | true =>
      rw [if_pos rfl]
      cases hentry : s tag with
      | none => simpa [cleanupExpiredNonces, hentry] using SingleUse.Step.keep
      | some entry =>
        by_cases hlive : now ≤ entry.expiresAt
        · rw [cleanupExpiredNonces_live hentry hlive]
          exact .keep
        · have hnone : cleanupExpiredNonces s now tag = none := by
            simpa [cleanupExpiredNonces, hentry] using hlive
          rw [hnone]
          exact .drop (Nat.not_le.mp hlive)
  | set f tag' body =>
    show SingleUse.Step _ _ now _ (((setNonce uni s now f tag' body).2 tag).map _) _
    have hsucceeds : (store uni tag).succeeds s ⟨now, .set f tag' body⟩ = true ↔
        tag' = tag ∧ (setNonce uni s now f tag' body).1 = some (.verdict true) := by
      refine Iff.trans (Bool.and_eq_true_iff) (and_congr ?_ decide_eq_true_iff)
      exact decide_eq_true_iff
    by_cases htag : tag' = tag
    · subst htag
      rcases setNonce_cases uni s now f tag' body with ⟨t, hval, hfree, hs⟩ | ⟨hs, hno⟩
      · rw [httl f body rfl t hval] at hs
        rw [hs, Function.update_self, Option.map_some, satAdd_eq]
        by_cases hok : (store uni tag').succeeds s ⟨now, .set f tag' body⟩ = true
        · by_cases hblind : (store uni tag').blind ⟨now, .set f tag' body⟩ = true
          · rw [SingleUse.Store.outcome_blind hok hblind]
            exact .blind
          · rw [SingleUse.Store.outcome_accept hok hblind]
            refine .accept fun x hx => ?_
            obtain ⟨entry, hentry, rfl⟩ := Option.map_eq_some_iff.mp hx
            exact free_of_succeeds (hsucceeds.mp hok).2 hblind entry hentry
        · rw [SingleUse.Store.outcome_other hok]
          exact .refresh
      · rw [hs, SingleUse.Store.outcome_other fun h => hno (hsucceeds.mp h).2]
        exact .keep
    · rw [setNonce_other (Ne.symm htag), SingleUse.Store.outcome_other fun h =>
        htag (hsucceeds.mp h).1]
      exact .keep

theorem Calls.lawful (calls : Calls tag ttl) :
    (store uni tag).Lawful maxClock ttl calls.steps :=
  { ordered := calls.ordered
    inRange := calls.inRange
    step := fun st hst _ => step_of_serve (calls.fixedTtl st hst)
    blind := fun _ _ => succeeds_of_blind }

end NonceDO

namespace HostedNonceDO

/-- A request with the two readings of the clock it makes. -/
structure Step where
  checkedAt : Nat
  storedAt : Nat
  faults : Faults
  nonce : String
  ttlSeconds : Nat

/-- The answer to a request and the storage it leaves. -/
def serve (s : Storage) (st : Step) : Option Bool × Storage :=
  checkAndSetInternal s st.checkedAt st.storedAt st.faults st.nonce st.ttlSeconds

/-- A request for the nonce whose read fails and whose write succeeds. -/
def Step.blind (nonce : String) (st : Step) : Bool :=
  st.nonce = nonce && !st.faults.get && st.faults.put

/-- The object as seen from one nonce. -/
def store (nonce : String) : SingleUse.Store Storage Step :=
  { now := Step.storedAt
    next := fun s st => (serve s st).2
    succeeds := fun s st => st.nonce = nonce && (serve s st).1 = some true
    blind := Step.blind nonce
    expiry := fun s => (s nonce).map (·.expiresAt) }

/-- A sequence of requests in the order of a clock of 64 bits, with one time to live. -/
structure Calls (nonce : String) (ttl : Nat) where
  steps : List Step
  ordered : steps.Pairwise fun later earlier => earlier.storedAt ≤ later.checkedAt
  inRange : ∀ st ∈ steps, st.checkedAt ≤ st.storedAt ∧ st.storedAt ≤ maxClock
  fixedTtl : ∀ st ∈ steps, st.nonce = nonce → st.ttlSeconds = ttl

variable {s : Storage} {nonce : String} {ttl : Nat} {st : Step}

theorem succeeds_of_blind (h : (store nonce).blind st = true) :
    (store nonce).succeeds s st = true := by
  simp only [store, Step.blind, Bool.and_eq_true, decide_eq_true_eq, Bool.not_eq_true'] at h ⊢
  obtain ⟨⟨hnonce, hget⟩, hput⟩ := h
  exact ⟨hnonce, checkAndSetInternal_free (by simp [hget]) hput⟩

/-- **One request** is a step of the retention of the nonce. -/
theorem step_of_serve (hclock : st.checkedAt ≤ st.storedAt)
    (httl : st.nonce = nonce → st.ttlSeconds = ttl) :
    SingleUse.Step maxClock ttl st.storedAt ((store nonce).expiry s)
      ((store nonce).expiry ((store nonce).next s st)) ((store nonce).outcome s st) := by
  have hsucceeds : (store nonce).succeeds s st = true ↔
      st.nonce = nonce ∧ (serve s st).1 = some true := by
    simp [store]
  show SingleUse.Step _ _ _ ((s nonce).map _) (((serve s st).2 nonce).map _) _
  by_cases hnonce : st.nonce = nonce
  · subst hnonce
    rcases checkAndSetInternal_cases s st.checkedAt st.storedAt st.faults st.nonce st.ttlSeconds
      with ⟨hok, hput, hfree, hs⟩ | ⟨hno, hs⟩
    · have hok := hsucceeds.mpr ⟨rfl, hok⟩
      rw [serve, hs, httl rfl, Option.map_some, satAdd_eq]
      by_cases hblind : (store st.nonce).blind st = true
      · rw [SingleUse.Store.outcome_blind hok hblind]
        exact .blind
      · rw [SingleUse.Store.outcome_accept hok hblind]
        refine .accept fun x hx => ?_
        obtain ⟨record, hrecord, rfl⟩ := Option.map_eq_some_iff.mp hx
        have hget : st.faults.get = true := by
          by_contra hget
          exact hblind (by simp [store, Step.blind, hput, hget])
        exact Nat.lt_of_lt_of_le (hfree hget record hrecord) hclock
    · rw [SingleUse.Store.outcome_other fun h => hno (hsucceeds.mp h).2, serve]
      rcases hs with hs | ⟨hs, record, hrecord, hexp⟩
      · rw [hs]
        exact .keep
      · rw [hs, hrecord]
        exact .drop (Nat.lt_of_lt_of_le hexp hclock)
  · rw [SingleUse.Store.outcome_other fun h => hnonce (hsucceeds.mp h).1, serve,
      checkAndSetInternal_other (Ne.symm hnonce)]
    exact .keep

theorem Calls.lawful (calls : Calls nonce ttl) :
    (store nonce).Lawful maxClock ttl calls.steps := by
  refine { ordered := ?_, inRange := fun st hst => (calls.inRange st hst).2,
           step := fun st hst _ => step_of_serve (calls.inRange st hst).1 (calls.fixedTtl st hst),
           blind := fun _ _ => succeeds_of_blind }
  refine calls.ordered.imp_of_mem ?_
  intro later earlier hlater _ hle
  exact Nat.le_trans hle (calls.inRange later hlater).1

end HostedNonceDO

/-! ## Both objects -/

/-- **Single use.** On both objects the successful requests for one nonce are more than its time
to live apart when every request that goes through with a failed read meets a nonce without a
live entry; the alarm of `NonceDO` keeps every entry that is still reported as a replay. -/
theorem single_use (uni : Unicode) :
    (∀ (s : NonceDO.Storage) (tag : String) (ttl : Nat)
      (calls : NonceDO.Calls tag ttl),
      (∀ st old, st :: old <:+ calls.steps → st.blind uni tag = true →
        NonceDO.Free ((NonceDO.store uni tag).after s old) st.now tag) →
      SingleUse.Separated ttl ((NonceDO.store uni tag).successes s calls.steps)) ∧
    (∀ (s : NonceDO.Storage) (tag : String) (entry : NonceDO.Entry) (now : Nat),
      s tag = some entry → now ≤ entry.expiresAt →
        NonceDO.cleanupExpiredNonces s now tag = some entry) ∧
    ∀ (s : HostedNonceDO.Storage) (nonce : String) (ttl : Nat)
      (calls : HostedNonceDO.Calls nonce ttl),
      (∀ st old, st :: old <:+ calls.steps → st.blind nonce = true →
        ∀ record, (HostedNonceDO.store nonce).after s old nonce = some record →
          record.expiresAt < st.checkedAt) →
      SingleUse.Separated ttl ((HostedNonceDO.store nonce).successes s calls.steps) := by
  refine ⟨fun s tag ttl calls hfree => ?_, fun _ _ _ _ => NonceDO.cleanupExpiredNonces_live,
    fun s nonce ttl calls hfree => ?_⟩
  · refine calls.lawful.separated fun st old hs hblind x hx => ?_
    obtain ⟨entry, hentry, rfl⟩ := Option.map_eq_some_iff.mp hx
    exact hfree st old hs hblind entry hentry
  · refine calls.lawful.separated fun st old hs hblind x hx => ?_
    obtain ⟨record, hrecord, rfl⟩ := Option.map_eq_some_iff.mp hx
    have hclock := (calls.inRange st (hs.subset List.mem_cons_self)).1
    exact Nat.lt_of_lt_of_le (hfree st old hs hblind record hrecord) hclock

/-- A tag set twice within a second; the flag says whether the second read works. -/
def setTwice (read : Bool) : NonceDO.Calls "auth:a:b" 300 :=
  { steps :=
      [⟨1001, .set ⟨read, true, true⟩ "auth:a:b" ⟨19, some 300⟩⟩,
        ⟨1000, .set .none "auth:a:b" ⟨19, some 300⟩⟩]
    ordered := by simp
    inRange := by simp [maxClock]
    fixedTtl := by
      intro st hst f body hact t ht
      simp only [List.mem_cons, List.not_mem_nil, or_false] at hst
      rcases hst with rfl | rfl <;> cases hact <;> cases ht <;> rfl }

/-- When the read works, one of the two is answered with success. -/
theorem single_use_setTwice :
    (NonceDO.store .ascii "auth:a:b").successes (fun _ => none) (setTwice true).steps = [1000] ∧
      SingleUse.Separated 300
        ((NonceDO.store .ascii "auth:a:b").successes (fun _ => none) (setTwice true).steps) := by
  refine ⟨by decide +kernel, (single_use .ascii).1 _ _ _ (setTwice true) ?_⟩
  intro st old hs hblind
  have hmem := hs.subset List.mem_cons_self
  simp only [setTwice, List.mem_cons, List.not_mem_nil, or_false] at hmem
  rcases hmem with rfl | rfl <;> simp [NonceDO.Step.blind, NonceDO.Faults.none] at hblind

/-- When it fails, both are. -/
theorem setTwice_not_separated :
    (NonceDO.store .ascii "auth:a:b").successes (fun _ => none) (setTwice false).steps =
        [1001, 1000] ∧
      ¬ SingleUse.Separated 300
        ((NonceDO.store .ascii "auth:a:b").successes (fun _ => none) (setTwice false).steps) := by
  have htimes : (NonceDO.store .ascii "auth:a:b").successes (fun _ => none)
      (setTwice false).steps = [1001, 1000] := by
    decide +kernel
  refine ⟨htimes, ?_⟩
  rw [htimes]
  simp [SingleUse.Separated]

end ProviiVerifier
