/-
  What requests leave of a record: its frame, its secret and its terminal states.

  The object serves any sequence of requests, with any bodies, times and outcomes of its storage
  operations. An update changes the lifecycle fields only; the record's identity and parameters
  are those of its creation, and the secret is there exactly in `Pending`.

  A terminal state is never left. An update that names the stored state again is taken as the
  repetition of an earlier one; it is accepted and merged.

  Proved: the frame over every sequence without creates (`record_frame`); in a terminal state the
  frame over every sequence of updates and the rejection of every update that names another state
  (`terminal_rejects`).
-/
import ProviiVerifier.ChallengeLifecycle

namespace ProviiVerifier

namespace ChallengeDO

/-- The storage after a sequence of requests, newest first, on a given one. -/
def Storage.after (s : Storage) : List Step → Storage
  | [] => s
  | st :: old => (fetch (s.after old) st.now st.faults st.request).2

/-! ## The frame of a record -/

/-- A record that was created as `c₀`: the same challenge, with its secret exactly in
`Pending`. -/
structure Framed (c₀ c : CachedChallenge) : Prop where
  same : c.SameChallenge c₀
  secret : c.state = .pending → c.submitSecret = c₀.submitSecret
  erased : c.state ≠ .pending → c.submitSecret = []

theorem mergeUpdate_same (e : CachedChallenge) (upd : ChallengeUpdate) :
    (mergeUpdate e upd).SameChallenge e := by
  unfold mergeUpdate
  dsimp only
  split <;> constructor <;> rfl

/-- Leaving `Pending` erases the secret. -/
theorem mergeUpdate_secret (e : CachedChallenge) (upd : ChallengeUpdate) :
    (mergeUpdate e upd).submitSecret =
      if e.state = .pending ∧ upd.state ≠ .pending then [] else e.submitSecret := by
  unfold mergeUpdate
  dsimp only
  split <;> rfl

/-- Only `Pending` goes to `Pending`. -/
theorem pending_of_transition {s : ChallengeState}
    (h : isValidTransition s .pending = true) : s = .pending := by
  cases s <;> simp [isValidTransition] at h ⊢

/-- **An update keeps the frame.** -/
theorem Framed.mergeUpdate {c₀ e : CachedChallenge} {upd : ChallengeUpdate} (h : Framed c₀ e)
    (htrans : isValidTransition e.state upd.state = true) :
    Framed c₀ (mergeUpdate e upd) := by
  refine ⟨(mergeUpdate_same e upd).trans h.same, ?_, ?_⟩
  · intro hstate
    have hupd : upd.state = .pending := hstate
    have he : e.state = .pending := pending_of_transition (hupd ▸ htrans)
    rw [mergeUpdate_secret, if_neg (by simp [hupd])]
    exact h.secret he
  · intro hstate
    have hupd : upd.state ≠ .pending := hstate
    rw [mergeUpdate_secret]
    split
    · rfl
    · next hne =>
      have he : e.state ≠ .pending := fun he => hne ⟨he, hupd⟩
      exact h.erased he

/-- **One request** other than a create keeps the frame. -/
theorem framed_step {c₀ : CachedChallenge} {s : Storage} {st : Step} {u : String}
    (hs : ∀ c, s.records u = some c → Framed c₀ c)
    (hreq : ∀ v body, st.request ≠ .create v body) {c : CachedChallenge}
    (hc : (fetch s st.now st.faults st.request).2.records u = some c) : Framed c₀ c := by
  have hstep := fetch_recordStep s st.now st.faults st.request u
  rw [hc] at hstep
  cases hprev : s.records u with
  | none =>
    rw [hprev] at hstep
    cases hstep with
    | create hcreate hval habs => exact absurd hcreate (hreq _ _)
  | some e =>
    rw [hprev] at hstep
    cases hstep with
    | keep => exact hs _ hprev
    | create hcreate hval habs => exact absurd hcreate (hreq _ _)
    | update hupd hval htime htrans => exact (hs _ hprev).mergeUpdate htrans

/-- **The frame of a record.** A record created as `Pending` keeps its identity and its
parameters over every sequence of gets, updates and deletes, whatever their bodies contain, and
has its secret exactly while it is `Pending`. -/
theorem record_frame {s : Storage} {u : String} {c₀ : CachedChallenge}
    (hcreated : s.records u = some c₀) (hpending : c₀.state = .pending) {steps : List Step}
    (hreq : ∀ st ∈ steps, ∀ v body, st.request ≠ .create v body) {c : CachedChallenge}
    (hc : (s.after steps).records u = some c) :
    c.SameChallenge c₀ ∧ (c.state = .pending → c.submitSecret = c₀.submitSecret) ∧
      (c.state ≠ .pending → c.submitSecret = []) := by
  have hframed : ∀ c, (s.after steps).records u = some c → Framed c₀ c := by
    clear hc
    induction steps with
    | nil =>
      intro c hc
      rw [Storage.after, hcreated] at hc
      cases hc
      exact ⟨.refl c₀, fun _ => rfl, fun hne => absurd hpending hne⟩
    | cons st old ih =>
      intro c hc
      have hold := ih fun st hst => hreq st (List.mem_cons_of_mem _ hst)
      exact framed_step hold (hreq st List.mem_cons_self) hc
  obtain ⟨hsame, hsecret, herased⟩ := hframed c hc
  exact ⟨hsame, hsecret, herased⟩

/-- The storage that holds the sample record. -/
def sampleStorage : Storage :=
  Storage.empty.putRecord CachedChallenge.sample.id.toString .sample

theorem sampleStorage_records :
    sampleStorage.records CachedChallenge.sample.id.toString = some .sample := by
  simp [sampleStorage]

/-- A proof accepted for the sample record, and a late attempt to make it `Pending` again. -/
def sampleUpdates : List Step :=
  let u := CachedChallenge.sample.id.toString
  [⟨1020, .none, .update u ⟨200, some ⟨.pending, none, none, none, none, none⟩⟩⟩,
    ⟨1010, .none, .update u
      ⟨200, some ⟨.proofOkWaitingForRedeem, some true, some 1010, none, some "kid", none⟩⟩⟩]

/-- The frame of the sample record after these updates. -/
theorem record_frame_sample : ∃ c,
    (sampleStorage.after sampleUpdates).records CachedChallenge.sample.id.toString = some c ∧
      c.state = .proofOkWaitingForRedeem ∧ c.SameChallenge .sample ∧ c.submitSecret = [] := by
  obtain ⟨c, hc, hstate⟩ : ∃ c,
      (sampleStorage.after sampleUpdates).records CachedChallenge.sample.id.toString = some c ∧
        c.state = .proofOkWaitingForRedeem := by
    refine ⟨mergeUpdate .sample ⟨.proofOkWaitingForRedeem, some true, some 1010, none, some "kid",
      none⟩, ?_, rfl⟩
    decide +kernel
  have hreq : ∀ st ∈ sampleUpdates, ∀ v body, st.request ≠ .create v body := by
    simp [sampleUpdates]
  have hframe := record_frame sampleStorage_records rfl hreq hc
  exact ⟨c, hc, hstate, hframe.1, hframe.2.2 (by simp [hstate])⟩

/-! ## Terminal states -/

/-- A terminal state goes nowhere else. -/
theorem transition_of_terminal {s t : ChallengeState} (hs : isTerminalState s = true)
    (h : isValidTransition s t = true) : t = s := by
  cases s <;> cases t <;> simp [isTerminalState, isValidTransition] at hs h ⊢

/-- The update names the stored state again, with the stored value of every field it carries. -/
structure Repeats (c : CachedChallenge) (upd : ChallengeUpdate) : Prop where
  state : upd.state = c.state
  proofSubmitted : ∀ b, upd.proofSubmitted = some b → c.proofSubmitted = b
  proofVerifiedAt : ∀ t, upd.proofVerifiedAt = some t → c.proofVerifiedAt = some t
  verifiedAt : ∀ t, upd.verifiedAt = some t → c.verifiedAt = some t
  issuerKid : ∀ kid, upd.issuerKid = some kid → c.issuerKid = some kid
  issuerVkBytes : ∀ vk, upd.issuerVkBytes = some vk → c.issuerVkBytes = some vk

/-- A field that an update carries as it is stored, or not at all. -/
theorem orElse_stored {α : Type} {new old : Option α} (h : ∀ a, new = some a → old = some a) :
    (new.orElse fun _ => old) = old := by
  cases new with
  | none => rfl
  | some a => exact (h a rfl).symm

theorem Repeats.mergeUpdate {c : CachedChallenge} {upd : ChallengeUpdate} (h : Repeats c upd) :
    mergeUpdate c upd = c := by
  have hkept : ¬ (c.state = .pending ∧ upd.state ≠ .pending) := by
    rintro ⟨hpending, hleft⟩
    exact hleft (h.state.trans hpending)
  have hsubmitted : upd.proofSubmitted.getD c.proofSubmitted = c.proofSubmitted := by
    cases hb : upd.proofSubmitted with
    | none => rfl
    | some b => exact (h.proofSubmitted b hb).symm
  unfold ChallengeDO.mergeUpdate
  rw [if_neg hkept]
  dsimp only
  rw [h.state, hsubmitted, orElse_stored h.proofVerifiedAt, orElse_stored h.verifiedAt,
    orElse_stored h.issuerKid, orElse_stored h.issuerVkBytes]

/-- A record that is written as it is stored. -/
theorem putRecord_same {s : Storage} {u : String} {c : CachedChallenge}
    (hc : s.records u = some c) : s.putRecord u c = s := by
  unfold Storage.putRecord
  rw [← hc, Function.update_eq_self]

/-- An update that names another state, or repeats the record, changes nothing. -/
theorem updateChallenge_kept {s : Storage} {now : Nat} {f : Faults} {v : String}
    {body : Body ChallengeUpdate} {e : CachedChallenge} (he : s.records v = some e)
    (hterm : isTerminalState e.state = true)
    (hrepeats : ∀ upd, body.value = some upd → upd.state = e.state → Repeats e upd) :
    (updateChallenge s now f v body).2 = s := by
  unfold updateChallenge
  repeat' split
  all_goals try rfl
  next existing hread _ upd hval _ hvalid _ =>
    have heq : existing = e := by
      rw [readRecord_some hread] at he
      exact Option.some.inj he
    subst heq
    have hsame : upd.state = existing.state := by
      by_contra hne
      refine hvalid ⟨Ne.symm hne, ?_⟩
      by_contra htrue
      exact hne (transition_of_terminal hterm (by simpa using htrue))
    have hmerge := (hrepeats upd hval hsame).mergeUpdate
    show s.putRecord v (mergeUpdate existing upd) = s
    rw [hmerge, putRecord_same he]

/-- The answer to an update that names another state, when it can be read and the record with
it. -/
theorem updateChallenge_other_reply {s : Storage} {now : Nat} {f : Faults} {v : String}
    {body : Body ChallengeUpdate} {upd : ChallengeUpdate} {e : CachedChallenge}
    (he : s.records v = some e) (hterm : isTerminalState e.state = true)
    (hid : validateChallengeId v = .ok ()) (hsize : body.size ≤ maxDoBodySize)
    (hget : f.recordGet = true) (hval : body.value = some upd) (hother : upd.state ≠ e.state) :
    (updateChallenge s now f v body).1 = some (.status
      (if now ≥ e.expiresAt ∧ isTerminalState upd.state = false then 410 else 409)) := by
  have hread : s.readRecord f v = some e := by
    rw [Storage.readRecord, hget, if_pos rfl, he]
  have hfalse : isValidTransition e.state upd.state = false := by
    by_contra htrue
    exact hother (transition_of_terminal hterm (by simpa using htrue))
  unfold updateChallenge
  simp only [hid, if_neg (Nat.not_lt.mpr hsize), hread, hval]
  split
  · rfl
  · rw [if_pos ⟨Ne.symm hother, hfalse⟩]

/-- **Updates keep a terminal state**, and the record's identity, parameters and secret. -/
theorem terminal_kept {s : Storage} {u : String} {e : CachedChallenge}
    (he : s.records u = some e) (hterm : isTerminalState e.state = true) {steps : List Step}
    (hupd : ∀ st ∈ steps, ∃ v body, st.request = .update v body) :
    ∃ c, (s.after steps).records u = some c ∧ c.state = e.state ∧ c.SameChallenge e ∧
      c.submitSecret = e.submitSecret := by
  induction steps with
  | nil => exact ⟨e, he, rfl, .refl e, rfl⟩
  | cons st old ih =>
    obtain ⟨c, hc, hstate, hsame, hsecret⟩ := ih fun st hst => hupd st (List.mem_cons_of_mem _ hst)
    obtain ⟨v, body, hreq⟩ := hupd st List.mem_cons_self
    have hstep := fetch_recordStep (s.after old) st.now st.faults st.request u
    rw [hc] at hstep
    rw [Storage.after]
    generalize hnew : (fetch (s.after old) st.now st.faults st.request).2.records u = r at hstep ⊢
    cases hstep with
    | keep => exact ⟨c, rfl, hstate, hsame, hsecret⟩
    | expire hexp =>
      -- only a read removes an expired record
      exfalso
      rw [hreq] at hnew
      have hsome : ∀ c, (s.after old).records u = some c →
          (updateChallenge (s.after old) st.now st.faults v body).2.records u ≠ none := by
        intro c hc
        unfold updateChallenge
        repeat' split
        all_goals try simp [hc]
        split <;> simp
      exact hsome c hc hnew
    | delete hdel hv hp =>
      rw [hreq] at hdel
      cases hdel
    | create hcreate hval habs =>
      rw [hreq] at hcreate
      cases hcreate
    | @update _ body upd hupdate hval htime htrans =>
      have hterm' : isTerminalState c.state = true := by rw [hstate]; exact hterm
      have hpending : c.state ≠ .pending := by
        intro hpending
        rw [hpending] at hterm'
        cases hterm'
      refine ⟨_, rfl, ?_, (mergeUpdate_same c upd).trans hsame, ?_⟩
      · rw [mergeUpdate_state, transition_of_terminal hterm' htrans, hstate]
      · rw [mergeUpdate_secret, if_neg fun hleft => hpending hleft.1, hsecret]

/-- **Terminal states reject every other state.** After any sequence of updates on an object whose
stored record is terminal, the record is there in that state, as the same challenge with the same
secret. An update that names another state, or repeats the stored fields, changes nothing; one that
names another state, when it can be read and the record with it, is answered 410 if that state is
not terminal at or after the expiry, and 409 if not. -/
theorem terminal_rejects {s : Storage} {u : String} {e : CachedChallenge}
    (he : s.records u = some e) (hterm : isTerminalState e.state = true) {steps : List Step}
    (hupd : ∀ st ∈ steps, ∃ v body, st.request = .update v body) :
    ∃ c, (s.after steps).records u = some c ∧ c.state = e.state ∧ c.SameChallenge e ∧
      c.submitSecret = e.submitSecret ∧
      ∀ now f (body : Body ChallengeUpdate),
        ((∀ upd, body.value = some upd → upd.state = e.state → Repeats c upd) →
          (updateChallenge (s.after steps) now f u body).2 = s.after steps) ∧
        ∀ upd, body.value = some upd → upd.state ≠ e.state → validateChallengeId u = .ok () →
          body.size ≤ maxDoBodySize → f.recordGet = true →
          (updateChallenge (s.after steps) now f u body).1 = some (.status
            (if now ≥ e.expiresAt ∧ isTerminalState upd.state = false then 410 else 409)) := by
  obtain ⟨c, hc, hstate, hsame, hsecret⟩ := terminal_kept he hterm hupd
  have hterm' : isTerminalState c.state = true := by rw [hstate]; exact hterm
  refine ⟨c, hc, hstate, hsame, hsecret, fun now f body => ⟨fun hrepeats => ?_, ?_⟩⟩
  · rw [← hstate] at hrepeats
    exact updateChallenge_kept hc hterm' hrepeats
  · intro upd hval hother hid hsize hget
    rw [← hstate] at hother
    rw [updateChallenge_other_reply hc hterm' hid hsize hget hval hother, hsame.expiresAt]

/-- The sample record as it is after its redemption at 1100. -/
def redeemedSample : CachedChallenge :=
  { CachedChallenge.sample with
    submitSecret := []
    state := .verified
    proofSubmitted := true
    verifiedAt := some 1100
    proofVerifiedAt := some 1010
    issuerKid := some "kid" }

/-- The storage that holds the redeemed record. -/
def redeemedStorage : Storage :=
  Storage.empty.putRecord redeemedSample.id.toString redeemedSample

/-- An update that names `Verified` again is accepted, and rewrites the time and the issuer of the
redeemed record; one that names `Pending` after the expiry is answered 410. -/
theorem terminal_update_accepted :
    let body : Body ChallengeUpdate :=
      ⟨200, some ⟨.verified, none, none, some 1250, some "other", none⟩⟩
    let r := updateChallenge redeemedStorage 1200 .none redeemedSample.id.toString body
    r.1 = some (.status 200) ∧ r.2.records redeemedSample.id.toString =
        some { redeemedSample with verifiedAt := some 1250, issuerKid := some "other" } ∧
      (updateChallenge redeemedStorage 1300 .none redeemedSample.id.toString
        ⟨200, some ⟨.pending, none, none, none, none, none⟩⟩).1 = some (.status 410) := by
  decide +kernel

/-- Updates of the redeemed record: a retry of the redemption with another time, and one that names
`Failed`. -/
def redeemedUpdates : List Step :=
  let u := redeemedSample.id.toString
  [⟨1190, .none, .update u ⟨200, some ⟨.failed, some false, none, none, none, none⟩⟩⟩,
    ⟨1180, .none, .update u ⟨200, some ⟨.verified, none, none, some 1250, some "other", none⟩⟩⟩]

/-- After these updates the redeemed record is the same challenge, with the time of the retry; it
rejects a state other than `Verified`, and the retry once more leaves it as it is. -/
theorem terminal_rejects_redeemed :
    let s := redeemedStorage.after redeemedUpdates
    let u := redeemedSample.id.toString
    ∃ c, s.records u = some c ∧ c.verifiedAt = some 1250 ∧ c.SameChallenge redeemedSample ∧
      (updateChallenge s 1200 .none u ⟨200, some ⟨.failed, none, none, none, none, none⟩⟩).1 =
        some (.status 409) ∧
      (updateChallenge s 1200 .none u
        ⟨200, some ⟨.verified, none, none, some 1250, some "other", none⟩⟩).2 = s := by
  intro s u
  have hupd : ∀ st ∈ redeemedUpdates, ∃ v body, st.request = .update v body := by
    simp [redeemedUpdates]
  obtain ⟨c, hc, -, hsame, -, hlater⟩ := terminal_rejects (s := redeemedStorage) (u := u)
    (e := redeemedSample) (by simp [redeemedStorage, u]) rfl hupd
  have hretried : s.records u = some
      { redeemedSample with verifiedAt := some 1250, issuerKid := some "other" } := by
    decide +kernel
  have hcopy : c = { redeemedSample with verifiedAt := some 1250, issuerKid := some "other" } :=
    Option.some.inj (hc.symm.trans hretried)
  refine ⟨c, hc, by rw [hcopy], hsame, ?_, ?_⟩
  · exact (hlater 1200 .none _).2 _ rfl (by decide) (validateChallengeId_toString _) (by decide) rfl
  · refine (hlater 1200 .none _).1 fun upd hval _ => ?_
    cases hval
    rw [hcopy]
    exact ⟨rfl, nofun, nofun, fun _ h => h, fun _ h => h, nofun⟩

end ChallengeDO

end ProviiVerifier
