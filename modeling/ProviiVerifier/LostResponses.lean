/-
  Writes of the challenge store whose answers get lost.

  An attempt may be carried out and its answer lost; the next attempt then meets the record that it
  left. The object takes an update to the stored state for the repetition of an earlier one, but not
  once the record has expired.

  Proved: what a `put` that is alone leaves and what its answer says about it (`lost_responses`); a
  record that was changed may be answered 410 (`changed_then_gone`).
-/
import ProviiVerifier.ChallengeWrites

namespace ProviiVerifier

open Interleaving Prog

namespace LostResponses

open ChallengeDO (Faults Reply Storage mergeUpdate putWithRetry)
open ChallengeStore (updateRequest)
open ChallengeWrites

variable {app : AppState} {id : Uuid} {r c : CachedChallenge} {s s' : Writing} {a : Attempt}
  {st : Storage}

/-- The object reads its storage. -/
def Readable (a : Attempt) : Prop := a.faults.recordGet = true

/-- The object carries the attempt out: it gets it, the transition is legal, its write succeeds. -/
structure CarriedOut (r c : CachedChallenge) (a : Attempt) : Prop where
  applied : a.applied = true
  transition : isValidTransition r.state c.state = true
  put : putWithRetry a.faults.recordPut = true

/-- No attempt so far left another record. -/
structure Unchanged (id : Uuid) (r : CachedChallenge) (s : Writing) : Prop where
  now : s.storage.records id.toString = some r
  before : ∀ x ∈ s.attempts, x.after.records id.toString = some r

/-- An attempt that came in time, or is to a terminal state, was carried out. -/
structure Changed (id : Uuid) (r c : CachedChallenge) (s : Writing) : Prop where
  now : s.storage.records id.toString = some (mergeUpdate r c.asUpdate)
  carriedOut : ∃ x ∈ s.attempts, CarriedOut r c x.attempt ∧
    (x.time < r.expiresAt ∨ isTerminalState c.state = true)

/-- What the attempts of an update leave, one by one. -/
def Steady (id : Uuid) (r c : CachedChallenge) (s : Writing) : Prop :=
  Unchanged id r s ∨ Changed id r c s

theorem Unchanged.attempt {req : ChallengeDO.Request} (h : Unchanged id r s)
    (hleft : (s.left req a).records id.toString = some r) : Unchanged id r (s.attempt req a).2 := by
  refine ⟨hleft, fun x hx => ?_⟩
  rcases List.mem_cons.mp hx with rfl | hx
  · exact hleft
  · exact h.before x hx

theorem Changed.attempt {req : ChallengeDO.Request} (h : Changed id r c s)
    (hleft : (s.left req a).records id.toString = some (mergeUpdate r c.asUpdate)) :
    Changed id r c (s.attempt req a).2 := by
  obtain ⟨x, hx, hcarried⟩ := h.carriedOut
  exact ⟨hleft, x, List.mem_cons_of_mem _ hx, hcarried⟩

/-- An attempt that the object did not get leaves what is there. -/
theorem left_not_applied {req : ChallengeDO.Request} (ha : ¬ a.applied = true) :
    s.left req a = s.storage := if_neg ha

/-- **One attempt** keeps it. -/
theorem Steady.attempt (h : Steady id r c s) :
    Steady id r c (s.attempt (updateRequest app id c) a).2 := by
  by_cases happlied : a.applied = true
  · rcases h with h | h
    · obtain ⟨reply, -, hcases⟩ := update_left app c h.now happlied
      generalize hleft : (s.left (updateRequest app id c) a).records id.toString = left at hcases
      cases hcases with
      | unread => exact .inl (h.attempt hleft)
      | refused => exact .inl (h.attempt hleft)
      | late => exact .inl (h.attempt hleft)
      | conflict => exact .inl (h.attempt hleft)
      | merged htime hvalid hput =>
        exact .inr ⟨hleft, _, List.mem_cons_self, ⟨happlied, hvalid, hput⟩, htime⟩
    · obtain ⟨reply, -, hcases⟩ := update_left app c h.now happlied
      generalize hleft : (s.left (updateRequest app id c) a).records id.toString = left at hcases
      cases hcases with
      | unread => exact .inr (h.attempt hleft)
      | refused => exact .inr (h.attempt hleft)
      | late => exact .inr (h.attempt hleft)
      | conflict => exact .inr (h.attempt hleft)
      | merged =>
        rw [mergeUpdate_twice] at hleft
        exact .inr (h.attempt hleft)
  · rcases h with h | h
    · refine .inl (h.attempt ?_)
      rw [left_not_applied happlied]
      exact h.now
    · refine .inr (h.attempt ?_)
      rw [left_not_applied happlied]
      exact h.now

/-- An attempt was carried out before the record expired. -/
def Early (r c : CachedChallenge) (s : Writing) : Prop :=
  ∃ x ∈ s.attempts, CarriedOut r c x.attempt ∧ x.time < r.expiresAt

/-- **The answered attempt**: what its answer says about the record and the attempts so far. -/
theorem Steady.answered {reply : Reply} (h : Steady id r c s) (ha : Readable a)
    (hattempt : s.attempt (updateRequest app id c) a = (some reply, s')) :
    reply = .status 200 ∧ s'.storage.records id.toString = some (mergeUpdate r c.asUpdate) ∨
      reply = .status 409 ∧ Unchanged id r s' ∨
      reply = .status 410 ∧ (Unchanged id r s' ∨ Early r c s') ∨
      ∃ code, reply = .status code ∧ (code = 413 ∨ code = 503) := by
  have hreply : (s.attempt (updateRequest app id c) a).1 = some reply := congrArg Prod.fst hattempt
  have hs' : s' = (s.attempt (updateRequest app id c) a).2 := (congrArg Prod.snd hattempt).symm
  have happlied : a.applied = true := by
    by_contra hnot
    have hnone : (s.attempt (updateRequest app id c) a).1 = none := by
      unfold Writing.attempt
      rw [if_neg (by simp [hnot])]
    rw [hnone] at hreply
    cases hreply
  have hanswered : (ChallengeDO.fetch s.storage (s.clock + a.elapsed) a.faults
      (updateRequest app id c)).1 = some reply := by
    unfold Writing.attempt at hreply
    dsimp only at hreply
    split at hreply
    · exact hreply
    · cases hreply
  have hread : a.faults.recordGet = true := ha
  rcases h with h | h
  · obtain ⟨reply', hreply', hcases⟩ := update_left app c h.now happlied
    generalize hleft : (s.left (updateRequest app id c) a).records id.toString = left at hcases
    rw [hanswered] at hreply'
    subst hreply'
    rw [hs']
    cases hcases with
    | unread hunread =>
      rw [hread] at hunread
      cases hunread
    | refused hcode => exact .inr (.inr (.inr ⟨_, rfl, hcode⟩))
    | late => exact .inr (.inr (.inl ⟨rfl, .inl (h.attempt hleft)⟩))
    | conflict => exact .inr (.inl ⟨rfl, h.attempt hleft⟩)
    | merged => exact .inl ⟨rfl, hleft⟩
  · obtain ⟨reply', hreply', hcases⟩ := update_left app c h.now happlied
    generalize hleft : (s.left (updateRequest app id c) a).records id.toString = left at hcases
    rw [hanswered] at hreply'
    subst hreply'
    rw [hs']
    cases hcases with
    | unread hunread =>
      rw [hread] at hunread
      cases hunread
    | refused hcode => exact .inr (.inr (.inr ⟨_, rfl, hcode⟩))
    | late _ hstate =>
      obtain ⟨x, hx, hdone, htime⟩ := h.carriedOut
      refine .inr (.inr (.inl ⟨rfl, .inr ⟨x, List.mem_cons_of_mem _ hx, hdone, ?_⟩⟩))
      rcases htime with htime | hterminal
      · exact htime
      · rw [hstate] at hterminal
        cases hterminal
    | conflict hstate => exact absurd rfl hstate
    | merged =>
      rw [mergeUpdate_twice] at hleft
      exact .inl ⟨rfl, hleft⟩

theorem checkChallenge_error {e : ApiError}
    (h : ChallengeStore.checkChallenge app id c = .error e) : ∃ text, e = .badRequest text := by
  unfold ChallengeStore.checkChallenge at h
  split at h
  · injection h with h
    exact ⟨_, h.symm⟩
  · split at h
    · injection h with h
      exact ⟨_, h.symm⟩
    · cases h

/-- What the answer of a `put` says about the record and the attempts. -/
structure Answered (id : Uuid) (r c : CachedChallenge) (out : Except ApiError Unit) (s : Writing) :
    Prop where
  steady : Steady id r c s
  written : out = .ok () → s.storage.records id.toString = some (mergeUpdate r c.asUpdate)
  conflict : ∀ text, out = .error (.conflict text) → Unchanged id r s
  gone : ∀ text, out = .error (.gone text) → Unchanged id r s ∨ Early r c s
  found : out ≠ .error .notFound

/-- **A whole update**. -/
theorem update_answered {out : Except ApiError Unit} (h : Steady id r c s)
    (hupdate : Ran Readable (ChallengeStore.update app id c) s out s') :
    Answered id r c out s' := by
  have hI : ∀ s a, Readable a → Steady id r c s →
      Steady id r c (s.attempt (updateRequest app id c) a).2 := fun _ _ _ h => h.attempt
  rcases ends_update hI hupdate h with
    ⟨e, hcheck, rfl, rfl⟩ | ⟨-, hs', ⟨text, rfl⟩ | ⟨s₁, a, reply, hs₁, ha, hattempt, rfl⟩⟩
  · obtain ⟨text, rfl⟩ := checkChallenge_error hcheck
    exact ⟨h, by simp, by simp, by simp, by simp⟩
  · exact ⟨hs', by simp, by simp, by simp, by simp⟩
  · rcases hs₁.answered ha hattempt with
      ⟨rfl, hrecord⟩ | ⟨rfl, hunchanged⟩ | ⟨rfl, hgone⟩ | ⟨code, rfl, hcode⟩
    · exact ⟨hs', fun _ => hrecord, by simp [updateOutcome], by simp [updateOutcome],
        by simp [updateOutcome]⟩
    · exact ⟨hs', by simp [updateOutcome], fun _ _ => hunchanged, by simp [updateOutcome],
        by simp [updateOutcome]⟩
    · exact ⟨hs', by simp [updateOutcome], by simp [updateOutcome], fun _ _ => hgone,
        by simp [updateOutcome]⟩
    · rcases hcode with rfl | rfl
      · exact ⟨hs', by simp [updateOutcome], by simp [updateOutcome], by simp [updateOutcome],
          by simp [updateOutcome]⟩
      · exact ⟨hs', by simp [updateOutcome], by simp [updateOutcome], by simp [updateOutcome],
          by simp [updateOutcome]⟩

/-- **A whole `put`** on a record that is there is an update. -/
theorem put_answered {out : Except ApiError Unit} (h : Steady id r c s)
    (hput : Ran Readable (ChallengeStore.put app id c) s out s') : Answered id r c out s' := by
  obtain ⟨out₁, s₁, hupdate, hrest⟩ := ends_put hput
  have hanswered := update_answered h hupdate
  rcases hrest with ⟨hmissing, -⟩ | ⟨-, rfl, rfl⟩
  · exact absurd hmissing hanswered.found
  · exact hanswered

/-- An update sets the lifecycle fields that the caller sets, and keeps the others. -/
theorem mergeUpdate_lifecycle (r c : CachedChallenge) :
    (mergeUpdate r c.asUpdate).proofVerifiedAt = c.proofVerifiedAt.or r.proofVerifiedAt ∧
      (mergeUpdate r c.asUpdate).verifiedAt = c.verifiedAt.or r.verifiedAt ∧
      (mergeUpdate r c.asUpdate).issuerKid = c.issuerKid.or r.issuerKid ∧
      (mergeUpdate r c.asUpdate).issuerVkBytes = c.issuerVkBytes.or r.issuerVkBytes := by
  have hor : ∀ {α : Type} (o p : Option α), (o.orElse fun _ => p) = o.or p := by
    intro α o p
    cases o with
    | none => rfl
    | some a => rfl
  rw [← hor, ← hor, ← hor, ← hor]
  unfold mergeUpdate
  dsimp only
  split
  · exact ⟨rfl, rfl, rfl, rfl⟩
  · exact ⟨rfl, rfl, rfl, rfl⟩

/-- **Writes under lost answers.** A `put` on a stored record, with no other writer: each attempt is
carried out or not, answered or not, at any later time, and its write may fail. If it returns `Ok`,
the record has the caller's state and the lifecycle fields that the caller sets, and the stored ones
where the caller sets none; after a conflict no attempt has changed the record, nor after `Gone` if
the object carried none out before the record expired; and the record is in every case the one
before or the one after a single update. -/
theorem lost_responses {st : Storage} {id : Uuid} {r : CachedChallenge}
    (hr : st.records id.toString = some r) (app : AppState) (c : CachedChallenge) (clock : Nat)
    {out : Except ApiError Unit} {s' : Writing}
    (hput : Ran Readable (ChallengeStore.put app id c) ⟨clock, st, []⟩ out s') :
    (out = .ok () → ∃ d, s'.storage.records id.toString = some d ∧ d.state = c.state ∧
      d.proofSubmitted = c.proofSubmitted ∧
      d.proofVerifiedAt = c.proofVerifiedAt.or r.proofVerifiedAt ∧
      d.verifiedAt = c.verifiedAt.or r.verifiedAt ∧
      d.issuerKid = c.issuerKid.or r.issuerKid ∧
      d.issuerVkBytes = c.issuerVkBytes.or r.issuerVkBytes) ∧
    (∀ text, out = .error (.conflict text) →
      ∀ x ∈ s'.attempts, x.after.records id.toString = some r) ∧
    (∀ text, out = .error (.gone text) →
      (∀ x ∈ s'.attempts, CarriedOut r c x.attempt → r.expiresAt ≤ x.time) →
        ∀ x ∈ s'.attempts, x.after.records id.toString = some r) ∧
    (s'.storage.records id.toString = some r ∨
      s'.storage.records id.toString = some (mergeUpdate r c.asUpdate)) := by
  have hstart : Steady id r c ⟨clock, st, []⟩ :=
    .inl ⟨hr, fun x hx => absurd hx List.not_mem_nil⟩
  have h := put_answered hstart hput
  refine ⟨fun hok => ?_, fun text hout => (h.conflict text hout).before, fun text hout hlate => ?_,
    ?_⟩
  · exact ⟨_, h.written hok, rfl, rfl, mergeUpdate_lifecycle r c⟩
  · rcases h.gone text hout with hunchanged | ⟨x, hx, hcarried, htime⟩
    · exact hunchanged.before
    · exact absurd (hlate x hx hcarried) (Nat.not_le.mpr htime)
  · rcases h.steady with hunchanged | hchanged
    · exact .inl hunchanged.now
    · exact .inr hchanged.now

/-! ## Samples -/

namespace Sample

/-- The sample challenge, its proof accepted. -/
def proven : CachedChallenge :=
  { CachedChallenge.sample.zeroizeSecret with
    state := .proofOkWaitingForRedeem, proofSubmitted := true, proofVerifiedAt := some 1010
    issuerKid := some "issuer", issuerVkBytes := some (List.replicate 32 7) }

/-- The object that holds a record. -/
def holding (r : CachedChallenge) : Storage := Storage.empty.putRecord r.id.toString r

theorem holding_record (r : CachedChallenge) : (holding r).records r.id.toString = some r := by
  unfold holding
  rw [ChallengeDO.putRecord_records, if_pos rfl]

/-- The answers to the first attempts get lost; the attempts are some seconds apart. -/
def losing (lost seconds : Nat) (s : Writing) (op : Op) : Attempt × Res op :=
  (⟨seconds, .none, true, decide (lost ≤ s.attempts.length)⟩,
    (ProviiVerifier.perform AppState.sample .initial op (healthy op)).1)

/-- A `put` over a record, with the first answers lost. -/
def put (lost seconds clock : Nat) (r c : CachedChallenge) : Except ApiError Unit × Writing :=
  (ChallengeStore.put AppState.sample r.id c).follow object (losing lost seconds)
    ⟨clock, holding r, []⟩

theorem ran_put (lost seconds clock : Nat) (r c : CachedChallenge) :
    Ran Readable (ChallengeStore.put AppState.sample r.id c) ⟨clock, holding r, []⟩
      (put lost seconds clock r c).1 (put lost seconds clock r c).2 :=
  ends_follow (fun _ _ _ _ _ => rfl) _ _

end Sample

/-- A proof is stored with the first answer lost. -/
theorem lost_responses_proven :
    (Sample.put 1 1 1010 .sample Sample.proven).1 = .ok () ∧
    ∃ d, (Sample.put 1 1 1010 .sample Sample.proven).2.storage.records
        CachedChallenge.sample.id.toString = some d ∧
      d.state = .proofOkWaitingForRedeem ∧ d.proofVerifiedAt = some 1010 := by
  have hout : (Sample.put 1 1 1010 .sample Sample.proven).1 = .ok () := by decide +kernel
  obtain ⟨d, hd, hstate, -, hproof, -⟩ := (lost_responses (Sample.holding_record .sample)
    AppState.sample Sample.proven 1010 (Sample.ran_put 1 1 1010 .sample Sample.proven)).1 hout
  exact ⟨hout, d, hd, hstate, hproof⟩

/-- **What `Ok` and `Gone` do not say.** A caller without the time of the proof is answered `Ok`,
and the record keeps it. A proof whose first attempt comes a second before the expiry, with its
answer lost, and whose second attempt comes at the expiry, is answered `Gone`; it is stored. -/
theorem changed_then_gone :
    (∃ s' d, Ran Readable (ChallengeStore.put AppState.sample Sample.proven.id
          { Sample.proven with proofVerifiedAt := none })
        ⟨1010, Sample.holding Sample.proven, []⟩ (.ok ()) s' ∧
      s'.storage.records Sample.proven.id.toString = some d ∧ d.proofVerifiedAt = some 1010) ∧
    ∃ s', Ran Readable (ChallengeStore.put AppState.sample CachedChallenge.sample.id Sample.proven)
        ⟨CachedChallenge.sample.expiresAt - 2, Sample.holding .sample, []⟩
        (.error (.gone (some "Challenge expired"))) s' ∧
      s'.storage.records CachedChallenge.sample.id.toString = some Sample.proven := by
  have hok : (Sample.put 0 1 1010 Sample.proven
        { Sample.proven with proofVerifiedAt := none }).1 = .ok () ∧
      (Sample.put 0 1 1010 Sample.proven
        { Sample.proven with proofVerifiedAt := none }).2.storage.records
          Sample.proven.id.toString = some Sample.proven := by
    decide +kernel
  have hgone : (Sample.put 1 1 (CachedChallenge.sample.expiresAt - 2) .sample Sample.proven).1 =
        .error (.gone (some "Challenge expired")) ∧
      (Sample.put 1 1 (CachedChallenge.sample.expiresAt - 2) .sample
        Sample.proven).2.storage.records CachedChallenge.sample.id.toString =
          some Sample.proven := by
    decide +kernel
  have hrun := Sample.ran_put 0 1 1010 Sample.proven
    { Sample.proven with proofVerifiedAt := none }
  have hrun' := Sample.ran_put 1 1 (CachedChallenge.sample.expiresAt - 2) .sample Sample.proven
  rw [hok.1] at hrun
  rw [hgone.1] at hrun'
  exact ⟨⟨_, _, hrun, hok.2, rfl⟩, _, hrun', hgone.2⟩

end LostResponses

end ProviiVerifier
