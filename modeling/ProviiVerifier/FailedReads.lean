/-
  Reads of the storage of a `ChallengeDO` that fail.

  The object takes what a failed `get` answers for an absent entry. It then answers 404 for a record
  that is there, or stores the caller's copy over it.

  Proved: a failed read is taken for an absent record exactly when the read that decides the answer
  fails; and a `put` leaves a legal successor of the record exactly when no create whose read fails
  stores a copy that is none (`failed_reads_iff`).
-/
import ProviiVerifier.ChallengeWrites

namespace ProviiVerifier

open Interleaving Prog

namespace FailedReads

open ChallengeDO (Faults Reply Storage mergeUpdate putWithRetry admitCreate)
open ChallengeStore (createRequest updateRequest)
open ChallengeWrites

variable {st : Storage} {now : Nat} {f : Faults} {id : Uuid} {r c : CachedChallenge}

/-! ## One request -/

/-- The same outcomes of the storage operations, but for the reads, which succeed. -/
def reading (f : Faults) : Faults := { f with recordGet := true, codeGet := true }

/-- What the object answers for an absent record: `created` to a create, 404 to the others. -/
def absentReply : ChallengeDO.Request → Reply
  | .create _ _ => .status 200
  | _ => .status 404

/-- A failed read is taken for an absent record: the object answers as for an absent record, and
with reads that succeed it would answer otherwise or leave another record. -/
def TakenForAbsent (st : Storage) (now : Nat) (f : Faults) (id : Uuid)
    (req : ChallengeDO.Request) : Prop :=
  (ChallengeDO.fetch st now f req).1 = some (absentReply req) ∧
    ((ChallengeDO.fetch st now (reading f) req).1 ≠ some (absentReply req) ∨
      (ChallengeDO.fetch st now f req).2.records id.toString ≠
        (ChallengeDO.fetch st now (reading f) req).2.records id.toString)

theorem readRecord_ok (hr : st.records id.toString = some r) (hget : f.recordGet = true) :
    st.readRecord f id.toString = some r := (if_pos hget).trans hr

theorem readRecord_failed (hget : f.recordGet = false) : st.readRecord f id.toString = none :=
  if_neg (by rw [hget]; exact Bool.false_ne_true)

theorem reading_recordGet : (reading f).recordGet = true := rfl

/-- A read that finds the record is not answered 404. -/
theorem getChallenge_found (hr : st.records id.toString = some r) (hget : f.recordGet = true) :
    (ChallengeDO.getChallenge st now f id.toString).1 ≠ some (.status 404) := by
  unfold ChallengeDO.getChallenge
  rw [validateChallengeId_toString, readRecord_ok hr hget]
  dsimp only
  repeat' split
  all_goals simp

theorem getChallenge_failed (hget : f.recordGet = false) :
    (ChallengeDO.getChallenge st now f id.toString).1 = some (.status 404) := by
  unfold ChallengeDO.getChallenge
  rw [validateChallengeId_toString, readRecord_failed hget]

/-- The object answers a read of a record that is there with 404, or not. -/
theorem takenForAbsent_of_404 {req : ChallengeDO.Request} (habsent : absentReply req = .status 404)
    (h404 : (ChallengeDO.fetch st now f req).1 = some (.status 404))
    (hgood : (ChallengeDO.fetch st now (reading f) req).1 ≠ some (.status 404)) :
    TakenForAbsent st now f id req := by
  unfold TakenForAbsent
  rw [habsent]
  exact ⟨h404, .inl hgood⟩

theorem not_takenForAbsent {req : ChallengeDO.Request} (habsent : absentReply req = .status 404)
    (hreply : (ChallengeDO.fetch st now f req).1 ≠ some (.status 404)) :
    ¬ TakenForAbsent st now f id req := by
  intro h
  unfold TakenForAbsent at h
  rw [habsent] at h
  exact hreply h.1

/-- **`get`**. -/
theorem get_iff (hr : st.records id.toString = some r) :
    ¬ TakenForAbsent st now f id (.get id.toString) ↔ f.recordGet = true := by
  have hfetch : ∀ g : Faults, ChallengeDO.fetch st now g (.get id.toString) =
      ChallengeDO.getChallenge st now g id.toString := fun _ => rfl
  constructor
  · intro h
    by_contra hget
    refine h (takenForAbsent_of_404 rfl ?_ ?_)
    · rw [hfetch]
      exact getChallenge_failed (Bool.eq_false_iff.mpr hget)
    · rw [hfetch]
      exact getChallenge_found hr reading_recordGet
  · intro hget
    refine not_takenForAbsent rfl ?_
    rw [hfetch]
    exact getChallenge_found hr hget

/-- **`get` by short code**. -/
theorem getByCode_iff (hr : st.records id.toString = some r) {code : String}
    (hcode : st.codes code = some id.toString) :
    ¬ TakenForAbsent st now f id (.getByCode code) ↔
      (validateShortCode code = .ok () → f.codeGet = true ∧ f.recordGet = true) := by
  have hfetch : ∀ g : Faults, ChallengeDO.fetch st now g (.getByCode code) =
      ChallengeDO.getChallengeByCode st now g code := fun _ => rfl
  cases hvalid : validateShortCode code with
  | error e =>
    have hreply : (ChallengeDO.getChallengeByCode st now f code).1 = some (.status 400) := by
      unfold ChallengeDO.getChallengeByCode
      rw [hvalid]
    have hnot : ¬ TakenForAbsent st now f id (.getByCode code) := by
      refine not_takenForAbsent rfl ?_
      rw [hfetch, hreply]
      simp
    simp [hnot]
  | ok valid =>
    have hlook : ∀ g : Faults, g.codeGet = true → ChallengeDO.getChallengeByCode st now g code =
        ChallengeDO.getChallenge st now g id.toString := by
      intro g hg
      unfold ChallengeDO.getChallengeByCode
      rw [hvalid]
      dsimp only
      rw [if_pos hg, hcode]
    constructor
    · intro h _
      by_contra hreads
      refine h (takenForAbsent_of_404 rfl ?_ ?_)
      · rw [hfetch]
        cases hget : f.codeGet with
        | false =>
          unfold ChallengeDO.getChallengeByCode
          rw [hvalid]
          dsimp only
          rw [if_neg (by rw [hget]; exact Bool.false_ne_true)]
        | true =>
          rw [hlook f hget]
          exact getChallenge_failed (Bool.eq_false_iff.mpr fun hrecord => hreads ⟨hget, hrecord⟩)
      · rw [hfetch, hlook (reading f) rfl]
        exact getChallenge_found hr reading_recordGet
    · intro hreads
      obtain ⟨hget, hrecord⟩ := hreads rfl
      refine not_takenForAbsent rfl ?_
      rw [hfetch, hlook f hget]
      exact getChallenge_found hr hrecord

/-- An update that reads the record is not answered 404. -/
theorem updateChallenge_found {body : Body ChallengeUpdate}
    (hr : st.records id.toString = some r)
    (hget : body.size ≤ maxDoBodySize → f.recordGet = true) :
    (ChallengeDO.updateChallenge st now f id.toString body).1 ≠ some (.status 404) := by
  unfold ChallengeDO.updateChallenge
  rw [validateChallengeId_toString]
  dsimp only
  split
  · simp
  · next hsize =>
    rw [readRecord_ok hr (hget (Nat.le_of_not_gt hsize))]
    dsimp only
    repeat' split
    all_goals simp

/-- **`update`**. -/
theorem update_iff (hr : st.records id.toString = some r) {body : Body ChallengeUpdate} :
    ¬ TakenForAbsent st now f id (.update id.toString body) ↔
      (body.size ≤ maxDoBodySize → f.recordGet = true) := by
  have hfetch : ∀ g : Faults, ChallengeDO.fetch st now g (.update id.toString body) =
      ChallengeDO.updateChallenge st now g id.toString body := fun _ => rfl
  constructor
  · intro h hsize
    by_contra hget
    refine h (takenForAbsent_of_404 rfl ?_ ?_)
    · rw [hfetch]
      unfold ChallengeDO.updateChallenge
      rw [validateChallengeId_toString]
      dsimp only
      rw [if_neg (Nat.not_lt.mpr hsize), readRecord_failed (Bool.eq_false_iff.mpr hget)]
    · rw [hfetch]
      exact updateChallenge_found hr fun _ => reading_recordGet
  · intro hget
    refine not_takenForAbsent rfl ?_
    rw [hfetch]
    exact updateChallenge_found hr hget

/-- **`create`**. -/
theorem create_iff (hr : st.records id.toString = some r) {body : Body CachedChallenge} :
    ¬ TakenForAbsent st now f id (.create id.toString body) ↔
      (putWithRetry f.recordPut = true → putWithRetry f.codePut = true →
        (∃ c, admitCreate id.toString body = .ok c ∧ c ≠ r) → f.recordGet = true) := by
  have hfetch : ∀ g : Faults, ChallengeDO.fetch st now g (.create id.toString body) =
      ChallengeDO.createChallenge st g id.toString body := fun _ => rfl
  unfold TakenForAbsent
  rw [hfetch, hfetch]
  unfold ChallengeDO.createChallenge
  cases hadmitted : admitCreate id.toString body with
  | error reply => simp
  | ok c =>
    dsimp only
    rw [readRecord_ok hr reading_recordGet]
    cases hget : f.recordGet with
    | true =>
      rw [readRecord_ok hr hget]
      simp
    | false =>
      rw [readRecord_failed hget]
      cases hput : putWithRetry f.recordPut with
      | false => simp [absentReply]
      | true =>
        cases hcode : putWithRetry f.codePut with
        | false => simp [absentReply]
        | true => simp [absentReply, hr]

/-! ## A whole write -/

/-- A record may follow another one: the state machine permits it, the immutable fields are the
same, and the secret is erased when `Pending` is left. -/
structure Successor (r d : CachedChallenge) : Prop where
  transition : isValidTransition r.state d.state = true
  same : d.SameChallenge r
  secret : d.submitSecret = if r.state = .pending ∧ d.state ≠ .pending then [] else r.submitSecret

/-- A create that the object carried out although there was a record: it did not read it, and it
stored the caller's copy. -/
structure Overwrites (app : AppState) (id : Uuid) (c : CachedChallenge) (x : Made) : Prop where
  request : x.request = createRequest app id c
  applied : x.attempt.applied = true
  unread : x.attempt.faults.recordGet = false
  stored : putWithRetry x.attempt.faults.recordPut = true
  admitted : admitCreate id.toString ⟨app.challengeJsonLen c, some c⟩ = .ok c

theorem Successor.refl (r : CachedChallenge) : Successor r r := by
  refine ⟨ChallengeDO.isValidTransition_self r.state, .refl r, ?_⟩
  rw [if_neg (fun h => h.2 h.1)]

theorem successor_mergeUpdate (htrans : isValidTransition r.state c.state = true) :
    Successor r (mergeUpdate r c.asUpdate) :=
  ⟨htrans, ChallengeDO.mergeUpdate_same r c.asUpdate, ChallengeDO.mergeUpdate_secret r c.asUpdate⟩

variable {app : AppState} {s s' : Writing} {a : Attempt}

/-- The record and the attempts of a `put` that started on `r`. -/
def Followed (app : AppState) (id : Uuid) (r c : CachedChallenge) (s : Writing) : Prop :=
  ∃ d, s.storage.records id.toString = some d ∧
    ((∃ x ∈ s.attempts, Overwrites app id c x) ∧ d = c ∨
      (∀ x ∈ s.attempts, ¬ Overwrites app id c x) ∧
        (d = r ∨ d = mergeUpdate r c.asUpdate ∧ isValidTransition r.state c.state = true))

/-- An attempt that overwrites nothing leaves a record that follows. -/
theorem Followed.keep {req : ChallengeDO.Request} {d d' : CachedChallenge}
    (hd : s.storage.records id.toString = some d)
    (hfollowed : (∃ x ∈ s.attempts, Overwrites app id c x) ∧ d = c ∨
      (∀ x ∈ s.attempts, ¬ Overwrites app id c x) ∧
        (d = r ∨ d = mergeUpdate r c.asUpdate ∧ isValidTransition r.state c.state = true))
    (hnot : ¬ Overwrites app id c ⟨req, s.clock + a.elapsed, a, s.left req a⟩)
    (hleft : (s.left req a).records id.toString = some d')
    (hd' : d' = d ∨ d' = mergeUpdate d c.asUpdate ∧ isValidTransition d.state c.state = true) :
    Followed app id r c (s.attempt req a).2 := by
  refine ⟨d', hleft, ?_⟩
  rcases hfollowed with ⟨⟨x, hx, hover⟩, rfl⟩ | ⟨hnone, hd⟩
  · refine .inl ⟨⟨x, List.mem_cons_of_mem _ hx, hover⟩, ?_⟩
    rcases hd' with rfl | ⟨rfl, -⟩
    · rfl
    · exact mergeUpdate_self d
  · refine .inr ⟨fun x hx => ?_, ?_⟩
    · rcases List.mem_cons.mp hx with rfl | hx
      · exact hnot
      · exact hnone x hx
    · rcases hd' with rfl | ⟨rfl, hvalid⟩
      · exact hd
      · rcases hd with rfl | ⟨rfl, hvalid'⟩
        · exact .inr ⟨rfl, hvalid⟩
        · exact .inr ⟨mergeUpdate_twice r c.asUpdate, hvalid'⟩

theorem Followed.update (h : Followed app id r c s) :
    Followed app id r c (s.attempt (updateRequest app id c) a).2 := by
  obtain ⟨d, hd, hfollowed⟩ := h
  have hnot : ¬ Overwrites app id c ⟨updateRequest app id c, s.clock + a.elapsed, a,
      s.left (updateRequest app id c) a⟩ := by
    intro hover
    cases hover.request
  by_cases happlied : a.applied = true
  · obtain ⟨reply, -, hcases⟩ := update_left app c hd happlied
    generalize hleft : (s.left (updateRequest app id c) a).records id.toString = left at hcases
    cases hcases with
    | unread => exact .keep hd hfollowed hnot hleft (.inl rfl)
    | refused => exact .keep hd hfollowed hnot hleft (.inl rfl)
    | late => exact .keep hd hfollowed hnot hleft (.inl rfl)
    | conflict => exact .keep hd hfollowed hnot hleft (.inl rfl)
    | merged _ hvalid => exact .keep hd hfollowed hnot hleft (.inr ⟨rfl, hvalid⟩)
  · have hleft : (s.left (updateRequest app id c) a).records id.toString = some d := by
      unfold Writing.left
      rw [if_neg happlied]
      exact hd
    exact .keep hd hfollowed hnot hleft (.inl rfl)

theorem Followed.create (h : Followed app id r c s) :
    Followed app id r c (s.attempt (createRequest app id c) a).2 := by
  obtain ⟨d, hd, hfollowed⟩ := h
  by_cases happlied : a.applied = true
  · have hcases : Recreated app id c d a.faults
        ((s.left (createRequest app id c) a).records id.toString) := by
      unfold Writing.left
      rw [if_pos happlied]
      exact create_cases hd
    generalize hleft : (s.left (createRequest app id c) a).records id.toString = left at hcases
    cases hcases with
    | kept hread =>
      refine .keep hd hfollowed (fun hover => ?_) hleft (.inl rfl)
      have hunread := hover.unread
      have hstored := hover.stored
      rcases hread with hread | hput | hadmitted
      · simp [hread] at hunread
      · simp [hput] at hstored
      · exact hadmitted hover.admitted
    | replaced hread hput hadmitted =>
      exact ⟨c, hleft, .inl ⟨⟨_, List.mem_cons_self, rfl, happlied, hread, hput, hadmitted⟩, rfl⟩⟩
  · have hleft : (s.left (createRequest app id c) a).records id.toString = some d := by
      unfold Writing.left
      rw [if_neg happlied]
      exact hd
    exact .keep hd hfollowed (fun hover => happlied hover.applied) hleft (.inl rfl)

/-- **`put`**, whatever fails: the record is followed by a legal successor unless a create that read
nothing stored something else over it. -/
theorem put_iff {out : Except ApiError Unit} (hr : s.storage.records id.toString = some r)
    (hstart : s.attempts = [])
    (h : Ran (fun _ => True) (ChallengeStore.put app id c) s out s') :
    (∃ d, s'.storage.records id.toString = some d ∧ Successor r d) ↔
      ((∃ x ∈ s'.attempts, Overwrites app id c x) → Successor r c) := by
  have hfollowed : Followed app id r c s := by
    refine ⟨r, hr, .inr ⟨fun x hx => ?_, .inl rfl⟩⟩
    rw [hstart] at hx
    exact absurd hx List.not_mem_nil
  obtain ⟨d, hd, hcases⟩ := put_keeps (fun _ _ _ h => h.update) (fun _ _ _ h => h.create) h
    hfollowed
  constructor
  · intro ⟨d', hd', hsucc⟩ hover
    rcases hcases with ⟨-, rfl⟩ | ⟨hnone, -⟩
    · rw [hd] at hd'
      rw [Option.some.inj hd']
      exact hsucc
    · obtain ⟨x, hx, hover⟩ := hover
      exact absurd hover (hnone x hx)
  · intro hsucc
    refine ⟨d, hd, ?_⟩
    rcases hcases with ⟨hover, rfl⟩ | ⟨-, rfl | ⟨rfl, hvalid⟩⟩
    · exact hsucc hover
    · exact .refl d
    · exact successor_mergeUpdate hvalid

/-! ## What failed reads do -/

/-- **A failed read is taken for an absent record** exactly when it decides the answer; a write
leaves a legal successor of the record exactly when no create whose read fails stores a copy that is
none. -/
theorem failed_reads_iff {st : Storage} {id : Uuid} {r : CachedChallenge}
    (hr : st.records id.toString = some r) :
    (∀ now f, ¬ TakenForAbsent st now f id (.get id.toString) ↔ f.recordGet = true) ∧
    (∀ now f code, st.codes code = some id.toString →
      (¬ TakenForAbsent st now f id (.getByCode code) ↔
        (validateShortCode code = .ok () → f.codeGet = true ∧ f.recordGet = true))) ∧
    (∀ now f body, ¬ TakenForAbsent st now f id (.update id.toString body) ↔
      (body.size ≤ maxDoBodySize → f.recordGet = true)) ∧
    (∀ now f body, ¬ TakenForAbsent st now f id (.create id.toString body) ↔
      (putWithRetry f.recordPut = true → putWithRetry f.codePut = true →
        (∃ c, admitCreate id.toString body = .ok c ∧ c ≠ r) → f.recordGet = true)) ∧
    ∀ app c clock out s', Ran (fun _ => True) (ChallengeStore.put app id c) ⟨clock, st, []⟩ out s' →
      ((∃ d, s'.storage.records id.toString = some d ∧ Successor r d) ↔
        ((∃ x ∈ s'.attempts, Overwrites app id c x) → Successor r c)) :=
  ⟨fun _ _ => get_iff hr, fun _ _ _ hcode => getByCode_iff hr hcode, fun _ _ _ => update_iff hr,
    fun _ _ _ => create_iff hr, fun _ _ _ _ _ h => put_iff hr rfl h⟩

/-! ## Samples -/

namespace Sample

/-- Every read fails, every write succeeds. -/
def unreadable : Faults := { Faults.none with recordGet := false, codeGet := false }

/-- Attempts with these faults, carried out and answered. -/
def attempts (f : Faults) (op : Op) : Attempt × Res op :=
  (⟨1, f, true, true⟩, (ProviiVerifier.perform AppState.sample .initial op (healthy op)).1)

/-- The sample challenge after its redemption. -/
def redeemed : CachedChallenge :=
  { CachedChallenge.sample.zeroizeSecret with
    state := .verified, proofSubmitted := true, verifiedAt := some 1020
    proofVerifiedAt := some 1010, issuerKid := some "issuer"
    issuerVkBytes := some (List.replicate 32 7) }

/-- The object that holds it. -/
def storage : Storage := Storage.empty.putRecord redeemed.id.toString redeemed

theorem storage_record : storage.records redeemed.id.toString = some redeemed := by
  unfold storage
  rw [ChallengeDO.putRecord_records, if_pos rfl]

/-- The runs of a `put` of the pending challenge over the redeemed one. -/
def put (f : Faults) : Except ApiError Unit × Writing :=
  (ChallengeStore.put AppState.sample redeemed.id .sample).exec object (attempts f)
    ⟨1030, storage, []⟩

theorem ran_put (f : Faults) :
    Ran (fun _ => True) (ChallengeStore.put AppState.sample redeemed.id .sample)
      ⟨1030, storage, []⟩ (put f).1 (put f).2 :=
  ends_exec (fun _ _ _ _ => trivial) _ _

end Sample

/-- With reads that succeed, a `put` of the pending challenge over the redeemed one is refused. -/
theorem failed_reads_iff_readable :
    (Sample.put Faults.none).1 = .error (.conflict (some "State transition rejected by DO: ")) ∧
    (∃ d, (Sample.put Faults.none).2.storage.records Sample.redeemed.id.toString = some d ∧
      Successor Sample.redeemed d) ∧
    ¬ TakenForAbsent Sample.storage 1030 Faults.none Sample.redeemed.id
      (.get Sample.redeemed.id.toString) := by
  have hput : (Sample.put Faults.none).1 =
        .error (.conflict (some "State transition rejected by DO: ")) ∧
      (Sample.put Faults.none).2.attempts.all (fun x => x.attempt.faults.recordGet) = true := by
    decide +kernel
  have hreads := failed_reads_iff Sample.storage_record
  refine ⟨hput.1, ?_, (hreads.1 1030 Faults.none).mpr rfl⟩
  refine (hreads.2.2.2.2 _ _ _ _ _ (Sample.ran_put Faults.none)).mpr fun ⟨x, hx, hover⟩ => ?_
  have hread := List.all_eq_true.mp hput.2 x hx
  rw [hover.unread] at hread
  cases hread

/-- **Two reads fail**: the redeemed challenge is answered 404, and a `put` of the pending one
stores it anew, secret and all. -/
theorem redeemed_overwritten :
    TakenForAbsent Sample.storage 1030 Sample.unreadable Sample.redeemed.id
      (.get Sample.redeemed.id.toString) ∧
    ∃ s', Ran (fun _ => True) (ChallengeStore.put AppState.sample Sample.redeemed.id .sample)
        ⟨1030, Sample.storage, []⟩ (.ok ()) s' ∧
      s'.storage.records Sample.redeemed.id.toString = some .sample ∧
      ¬ Successor Sample.redeemed .sample := by
  have hput : (Sample.put Sample.unreadable).1 = .ok () ∧
      (Sample.put Sample.unreadable).2.storage.records Sample.redeemed.id.toString =
        some .sample := by
    decide +kernel
  have hrun := Sample.ran_put Sample.unreadable
  rw [hput.1] at hrun
  refine ⟨?_, _, hrun, hput.2, fun h => ?_⟩
  · by_contra h
    have hget : Sample.unreadable.recordGet = true := (get_iff Sample.storage_record).mp h
    cases hget
  · have htrans := h.transition
    revert htrans
    decide

end FailedReads

end ProviiVerifier
