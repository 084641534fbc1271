/-
  A write of the challenge store, alone with the object that owns the record.

  `put` sends an update, and a create where the update finds nothing; each is attempted up to three
  times. An attempt comes at any later time. The object may not get it, or it carries it out with
  any outcome of its storage operations; and the answer may get lost.

  Proved: what the update and the create of a `put` can do to the record that is stored
  (`update_cases`, `create_cases`), and what a `put` returns (`ends_update`, `put_keeps`).
-/
import ProviiVerifier.Stores
import ProviiVerifier.ChallengeFrame
import ProviiVerifier.Interleaving.Ends

namespace ProviiVerifier

open Interleaving Prog

namespace ChallengeWrites

open ChallengeDO (Faults Reply Storage mergeUpdate putWithRetry admitCreate)
open ChallengeStore (retryWithBackoff sendRequest checkChallenge createRequest updateRequest)

/-! ## The object alone with one writer -/

/-- How an attempt goes. -/
structure Attempt where
  /-- The seconds since the attempt before. -/
  elapsed : Nat
  faults : Faults
  /-- The object gets the request. -/
  applied : Bool
  /-- The answer of the object arrives. -/
  answered : Bool

/-- An attempt that was made, with the storage it left. -/
structure Made where
  request : ChallengeDO.Request
  time : Nat
  attempt : Attempt
  after : Storage

/-- The clock in seconds, the storage of the object and the attempts so far, newest first. -/
structure Writing where
  clock : Nat
  storage : Storage
  attempts : List Made

/-- The storage that an attempt leaves. -/
def Writing.left (s : Writing) (req : ChallengeDO.Request) (a : Attempt) : Storage :=
  if a.applied then (ChallengeDO.fetch s.storage (s.clock + a.elapsed) a.faults req).2
  else s.storage

/-- One attempt. -/
def Writing.attempt (s : Writing) (req : ChallengeDO.Request) (a : Attempt) :
    Option Reply × Writing :=
  (if a.applied && a.answered then
      (ChallengeDO.fetch s.storage (s.clock + a.elapsed) a.faults req).1
    else none,
    { clock := s.clock + a.elapsed
      storage := s.left req a
      attempts := ⟨req, s.clock + a.elapsed, a, s.left req a⟩ :: s.attempts })

/-- The answers of the other operations are given. -/
def perform (s : Writing) (op : Op) (c : Attempt × Res op) : Res op × Writing :=
  match op, c with
  | .challengeDO _ req, (a, _) => s.attempt req a
  | _, (_, answer) => (answer, s)

/-- The object, its only writer, and time. -/
abbrev object : Machine Op Res :=
  { State := Writing
    Choice := fun op => Attempt × Res op
    Env := Empty
    perform := perform
    envStep := fun s _ => s }

/-- The attempts go in a way that is allowed. -/
def Allowed (ok : Attempt → Prop) (op : Op) (c : Attempt × Res op) : Prop :=
  ∀ id req, op = .challengeDO id req → ok c.1

/-- The runs of a handler in which attempts go in an allowed way. -/
abbrev Ran {α : Type} (ok : Attempt → Prop) (p : Handler α) (s : Writing) (r : Except ApiError α)
    (s' : Writing) : Prop :=
  Ends object (Allowed ok) p s r s'

/-! ## Attempts in a row -/

variable {app : AppState} {id : Uuid} {c r : CachedChallenge} {req : ChallengeDO.Request}
  {s s' : Writing} {a : Attempt} {ok : Attempt → Prop} {I : Writing → Prop}

theorem retryWithBackoff_succ (n : Nat) : retryWithBackoff id req (n + 1) =
    .call (.challengeDO id req) fun answer =>
      answer.elim (.call .budgetLeft fun left =>
        if left = true then retryWithBackoff id req n else .fail (.internal "DO fetch failed"))
        .ret := by
  refine congrArg (Prog.call (Op.challengeDO id req)) (funext fun answer => ?_)
  cases answer with
  | none => rfl
  | some reply => rfl

/-- A request is sent until it is answered. What every attempt keeps holds before the one that is
answered, and in the end. -/
theorem ends_retry (hI : ∀ s a, ok a → I s → I (s.attempt req a).2) {n : Nat} {s : Writing}
    {out : Except ApiError Reply} (h : Ran ok (retryWithBackoff id req n) s out s') (hs : I s) :
    I s' ∧ ((∃ text, out = .error (.internal text)) ∨
      ∃ s₁ a reply, I s₁ ∧ ok a ∧ s₁.attempt req a = (some reply, s') ∧ out = .ok reply) := by
  induction n generalizing s with
  | zero =>
    obtain ⟨hout, rfl⟩ := ends_fail.mp h
    exact ⟨hs, .inl ⟨_, hout⟩⟩
  | succ n ih =>
    rw [retryWithBackoff_succ] at h
    obtain ⟨⟨a, answer⟩, hok, hrest⟩ := ends_call.mp h
    have hok : ok a := hok id req rfl
    have hkeeps : I (s.attempt req a).2 := hI s a hok hs
    have hrest : Ran ok ((s.attempt req a).1.elim _ .ret) (s.attempt req a).2 out s' := hrest
    cases hanswer : (s.attempt req a).1 with
    | some reply =>
      rw [hanswer] at hrest
      obtain ⟨hout, hs'⟩ := ends_ret.mp hrest
      rw [hs']
      exact ⟨hkeeps, .inr ⟨s, a, reply, hs, hok, Prod.ext hanswer rfl, hout⟩⟩
    | none =>
      rw [hanswer] at hrest
      obtain ⟨⟨_, left⟩, -, hrest⟩ := ends_call.mp hrest
      have hrest : Ran ok (if left = true then retryWithBackoff id req n
          else .fail (.internal "DO fetch failed")) (s.attempt req a).2 out s' := hrest
      split at hrest
      · exact ih hrest hkeeps
      · obtain ⟨hout, rfl⟩ := ends_fail.mp hrest
        exact ⟨hkeeps, .inl ⟨_, hout⟩⟩

/-- What `update` makes of an answer. -/
def updateOutcome : Reply → Except ApiError Unit
  | .record _ => .ok ()
  | .status code =>
    if code = 200 then .ok ()
    else if code = 409 then .error (.conflict (some "State transition rejected by DO: "))
    else if code = 404 then .error .notFound
    else if code = 410 then .error (.gone (some "Challenge expired"))
    else .error (.internal s!"DO update returned HTTP {code}")

theorem update_eq : ChallengeStore.update app id c = (do
    ofExcept (checkChallenge app id c)
    let reply ← sendRequest id (updateRequest app id c)
    ofExcept (updateOutcome reply)) := by
  unfold ChallengeStore.update
  congr 1
  funext _
  congr 1
  funext reply
  cases reply with
  | record d => rfl
  | status code =>
    unfold updateOutcome
    dsimp only
    split
    · rfl
    · split
      · rfl
      · split
        · rfl
        · split
          · rfl
          · rfl

/-- **What `update` returns**: it refuses the record, it is not answered, or it returns what the
answered attempt tells. -/
theorem ends_update (hI : ∀ s a, ok a → I s → I (s.attempt (updateRequest app id c) a).2)
    {out : Except ApiError Unit} (h : Ran ok (ChallengeStore.update app id c) s out s')
    (hs : I s) :
    (∃ e, checkChallenge app id c = .error e ∧ out = .error e ∧ s' = s) ∨
      checkChallenge app id c = .ok () ∧ I s' ∧ ((∃ text, out = .error (.internal text)) ∨
        ∃ s₁ a reply, I s₁ ∧ ok a ∧ s₁.attempt (updateRequest app id c) a = (some reply, s') ∧
          out = updateOutcome reply) := by
  rw [update_eq] at h
  rcases h.of_bind with ⟨⟨⟩, s₁, hfirst, hsend⟩ | ⟨e, hout, hfirst⟩
  · obtain ⟨hcheck, rfl⟩ := ends_ofExcept.mp hfirst
    refine .inr ⟨hcheck.symm, ?_⟩
    rcases hsend.of_bind with ⟨reply, s₂, hretry, hrest⟩ | ⟨e, hout, hretry⟩
    · obtain ⟨hout, rfl⟩ := ends_ofExcept.mp hrest
      obtain ⟨hkeeps, ⟨text, herror⟩ | ⟨s₃, a, reply', hs₃, hok, hattempt, hreply⟩⟩ :=
        ends_retry hI hretry hs
      · cases herror
      · injection hreply with hreply
        subst hreply
        exact ⟨hkeeps, .inr ⟨s₃, a, reply, hs₃, hok, hattempt, hout⟩⟩
    · obtain ⟨hkeeps, ⟨text, herror⟩ | ⟨s₃, a, reply', -, -, -, hreply⟩⟩ :=
        ends_retry hI hretry hs
      · injection herror with herror
        exact ⟨hkeeps, .inl ⟨text, hout.trans (congrArg _ herror)⟩⟩
      · cases hreply
  · obtain ⟨hcheck, rfl⟩ := ends_ofExcept.mp hfirst
    exact .inl ⟨e, hcheck.symm, hout, rfl⟩

/-- **What `put` does**: the update and, when it finds nothing, the insertion. -/
theorem ends_put {out : Except ApiError Unit} (h : Ran ok (ChallengeStore.put app id c) s out s') :
    ∃ r s₁, Ran ok (ChallengeStore.update app id c) s r s₁ ∧
      (r = .error .notFound ∧ Ran ok (ChallengeStore.insert app id c) s₁ out s' ∨
        r ≠ .error .notFound ∧ out = r ∧ s' = s₁) := by
  unfold ChallengeStore.put at h
  rcases h.of_bind with ⟨r, s₁, hfirst, hrest⟩ | ⟨e, -, hfirst⟩
  · obtain ⟨r', hr', hupdate⟩ := hfirst.of_attempt
    injection hr' with hr'
    subst hr'
    refine ⟨r, s₁, hupdate, ?_⟩
    by_cases hne : r = .error .notFound
    · subst hne
      exact .inl ⟨rfl, hrest⟩
    · refine .inr ⟨hne, ?_⟩
      cases r with
      | ok u => exact ends_ret.mp hrest
      | error e =>
        cases e
        case notFound => exact absurd rfl hne
        all_goals exact ends_fail.mp hrest
  · obtain ⟨r', hr', -⟩ := hfirst.of_attempt
    cases hr'

/-- What every attempt of a `put` keeps, the `put` keeps. -/
theorem put_keeps {I : Writing → Prop}
    (hupdate : ∀ s a, ok a → I s → I (s.attempt (updateRequest app id c) a).2)
    (hcreate : ∀ s a, ok a → I s → I (s.attempt (createRequest app id c) a).2)
    {out : Except ApiError Unit} (h : Ran ok (ChallengeStore.put app id c) s out s') (hs : I s) :
    I s' := by
  have hkeeps : ∀ s op (x : Attempt × Res op), ChallengeStore.PutOp app id c op →
      Allowed ok op x → I s → I (perform s op x).2 := by
    intro s op x hop hok hs
    obtain rfl | rfl | rfl := hop
    · exact hupdate s x.1 (hok _ _ rfl) hs
    · exact hcreate s x.1 (hok _ _ rfl) hs
    · exact hs
  exact (Ends.guarded hkeeps h (ChallengeStore.guarded_put (h := []))
    (fun x hx => absurd hx List.not_mem_nil) hs).1

/-! ## Updates that repeat -/

/-- An update whose fields a record has already changes nothing. -/
theorem mergeUpdate_of_has {e : CachedChallenge} {u : ChallengeUpdate} (hstate : u.state = e.state)
    (hsubmitted : u.proofSubmitted.getD e.proofSubmitted = e.proofSubmitted)
    (hproof : (u.proofVerifiedAt.orElse fun _ => e.proofVerifiedAt) = e.proofVerifiedAt)
    (hverified : (u.verifiedAt.orElse fun _ => e.verifiedAt) = e.verifiedAt)
    (hkid : (u.issuerKid.orElse fun _ => e.issuerKid) = e.issuerKid)
    (hbytes : (u.issuerVkBytes.orElse fun _ => e.issuerVkBytes) = e.issuerVkBytes) :
    mergeUpdate e u = e := by
  have hnot : ¬ (e.state = .pending ∧ u.state ≠ .pending) := by
    intro h
    exact h.2 (hstate.trans h.1)
  unfold mergeUpdate
  rw [if_neg hnot]
  dsimp only
  rw [hsubmitted, hproof, hverified, hkid, hbytes, hstate]

theorem orElse_self {α : Type} (o : Option α) : (o.orElse fun _ => o) = o := by
  cases o with
  | none => rfl
  | some a => rfl

theorem orElse_twice {α : Type} (o p : Option α) :
    (o.orElse fun _ => o.orElse fun _ => p) = o.orElse fun _ => p := by
  cases o with
  | none => rfl
  | some a => rfl

/-- An update with a record's own fields changes nothing. -/
theorem mergeUpdate_self (c : CachedChallenge) : mergeUpdate c c.asUpdate = c :=
  mergeUpdate_of_has rfl rfl (orElse_self _) (orElse_self _) (orElse_self _) (orElse_self _)

/-- **An update again** changes nothing. -/
theorem mergeUpdate_twice (r : CachedChallenge) (u : ChallengeUpdate) :
    mergeUpdate (mergeUpdate r u) u = mergeUpdate r u := by
  refine mergeUpdate_of_has rfl ?_ (orElse_twice _ _) (orElse_twice _ _) (orElse_twice _ _)
    (orElse_twice _ _)
  show u.proofSubmitted.getD (u.proofSubmitted.getD _) = u.proofSubmitted.getD _
  cases u.proofSubmitted with
  | none => rfl
  | some b => rfl

/-! ## One attempt -/

variable {st : Storage} {now : Nat} {f : Faults}

/-- What an attempt to update answers, and does to the record that is stored. -/
inductive Updated (c r : CachedChallenge) (now : Nat) (f : Faults) :
    Option Reply → Option CachedChallenge → Prop
  | unread (hread : f.recordGet = false) : Updated c r now f (some (.status 404)) (some r)
  | refused {code : Nat} (hcode : code = 413 ∨ code = 503) :
      Updated c r now f (some (.status code)) (some r)
  | late (hnow : r.expiresAt ≤ now) (hstate : isTerminalState c.state = false) :
      Updated c r now f (some (.status 410)) (some r)
  | conflict (hstate : r.state ≠ c.state) (htrans : isValidTransition r.state c.state = false) :
      Updated c r now f (some (.status 409)) (some r)
  | merged (htime : now < r.expiresAt ∨ isTerminalState c.state = true)
      (htrans : isValidTransition r.state c.state = true)
      (hput : putWithRetry f.recordPut = true) :
      Updated c r now f (some (.status 200)) (some (mergeUpdate r c.asUpdate))

theorem update_cases (hr : st.records id.toString = some r) :
    Updated c r now f (ChallengeDO.fetch st now f (updateRequest app id c)).1
      ((ChallengeDO.fetch st now f (updateRequest app id c)).2.records id.toString) := by
  unfold updateRequest ChallengeDO.fetch ChallengeDO.updateChallenge
  dsimp only
  rw [validateChallengeId_toString]
  dsimp only
  by_cases hsize : app.challengeJsonLen c > maxDoBodySize
  · rw [if_pos hsize]
    dsimp only
    rw [hr]
    exact .refused (.inl rfl)
  · rw [if_neg hsize]
    cases hget : f.recordGet with
    | false =>
      have hread : st.readRecord f id.toString = none :=
        if_neg (by rw [hget]; exact Bool.false_ne_true)
      rw [hread]
      dsimp only
      rw [hr]
      exact .unread hget
    | true =>
      have hread : st.readRecord f id.toString = some r := (if_pos hget).trans hr
      rw [hread]
      dsimp only
      by_cases hlate : now ≥ r.expiresAt ∧ isTerminalState c.asUpdate.state = false
      · rw [if_pos hlate]
        dsimp only
        rw [hr]
        exact .late hlate.1 hlate.2
      · rw [if_neg hlate]
        by_cases hconflict : r.state ≠ c.asUpdate.state ∧
            isValidTransition r.state c.asUpdate.state = false
        · rw [if_pos hconflict]
          dsimp only
          rw [hr]
          exact .conflict hconflict.1 hconflict.2
        · rw [if_neg hconflict]
          by_cases hput : putWithRetry f.recordPut = true
          · rw [if_pos hput]
            dsimp only
            rw [ChallengeDO.putRecord_records, if_pos rfl]
            refine .merged ?_ ?_ hput
            · by_cases hterminal : isTerminalState c.state = true
              · exact .inr hterminal
              · refine .inl (Nat.lt_of_not_le fun hle => hlate ⟨hle, ?_⟩)
                exact Bool.eq_false_iff.mpr hterminal
            · by_cases hsame : r.state = c.state
              · rw [hsame]
                exact ChallengeDO.isValidTransition_self c.state
              · by_contra hinvalid
                exact hconflict ⟨hsame, Bool.eq_false_iff.mpr hinvalid⟩
          · rw [if_neg hput]
            dsimp only
            rw [hr]
            exact .refused (.inr rfl)

/-- What an attempt to update that is carried out leaves. -/
theorem update_left (app : AppState) (c : CachedChallenge) {s : Writing} {a : Attempt}
    (hr : s.storage.records id.toString = some r) (happlied : a.applied = true) : ∃ reply,
      (ChallengeDO.fetch s.storage (s.clock + a.elapsed) a.faults (updateRequest app id c)).1 =
        reply ∧
      Updated c r (s.clock + a.elapsed) a.faults reply
        ((s.left (updateRequest app id c) a).records id.toString) := by
  unfold Writing.left
  rw [if_pos happlied]
  exact ⟨_, rfl, update_cases hr⟩

/-- What an attempt to create does to the record that is stored. -/
inductive Recreated (app : AppState) (id : Uuid) (c r : CachedChallenge) (f : Faults) :
    Option CachedChallenge → Prop
  | kept (hread : f.recordGet = true ∨ putWithRetry f.recordPut = false ∨
        admitCreate id.toString ⟨app.challengeJsonLen c, some c⟩ ≠ .ok c) :
      Recreated app id c r f (some r)
  | replaced (hread : f.recordGet = false) (hput : putWithRetry f.recordPut = true)
      (hadmitted : admitCreate id.toString ⟨app.challengeJsonLen c, some c⟩ = .ok c) :
      Recreated app id c r f (some c)

theorem create_cases (hr : st.records id.toString = some r) :
    Recreated app id c r f
      ((ChallengeDO.fetch st now f (createRequest app id c)).2.records id.toString) := by
  unfold createRequest ChallengeDO.fetch ChallengeDO.createChallenge
  dsimp only
  cases hadmitted : admitCreate id.toString ⟨app.challengeJsonLen c, some c⟩ with
  | error reply =>
    dsimp only
    rw [hr]
    exact .kept (.inr (.inr (by rw [hadmitted]; simp)))
  | ok d =>
    have hd : c = d := Option.some.inj (ChallengeDO.admitCreate_ok hadmitted)
    subst hd
    cases hget : f.recordGet with
    | true =>
      have hread : st.readRecord f id.toString = some r := (if_pos hget).trans hr
      rw [hread]
      dsimp only
      rw [hr]
      exact .kept (.inl hget)
    | false =>
      have hread : st.readRecord f id.toString = none :=
        if_neg (by rw [hget]; exact Bool.false_ne_true)
      rw [hread]
      dsimp only
      by_cases hput : putWithRetry f.recordPut = true
      · rw [if_pos hput]
        have hrecord : (st.putRecord id.toString c).records id.toString = some c := by
          rw [ChallengeDO.putRecord_records, if_pos rfl]
        split
        · rw [ChallengeDO.putCode_records, hrecord]
          exact .replaced hget hput hadmitted
        · rw [hrecord]
          exact .replaced hget hput hadmitted
      · rw [if_neg hput]
        dsimp only
        rw [hr]
        exact .kept (.inr (.inl (Bool.eq_false_iff.mpr hput)))

end ChallengeWrites

end ProviiVerifier
