/-
  The life cycle of a record under `ch:{uuid}`, over every sequence of requests on one object.

  A sequence is a list of requests, newest first, each with its time and the outcome of its
  storage operations. `life` is the list of states stored since the record was last inserted.

  The transition table guards updates only. A create writes whatever state its payload has,
  and `put` of the challenge store falls back to a create when its update finds no record.

  Proved: lives are legal throughout a sequence exactly when every create that writes does so
  legally (`lives_legal_iff`); in a legal life `Verified` comes after
  `ProofOkWaitingForRedeem` (`proofOk_of_verified`).
-/
import ProviiVerifier.Interleaving.System
import ProviiVerifier.Stores

namespace ProviiVerifier

namespace ChallengeDO

/-- A request with its time and the outcome of its storage operations. -/
structure Step where
  now : Nat
  faults : Faults
  request : Request

/-- The storage after a sequence of requests, newest first. -/
def after : List Step → Storage
  | [] => .empty
  | st :: old => (fetch (after old) st.now st.faults st.request).2

/-- The states stored under `u` since the record was last inserted, newest first. -/
def life (u : String) : List Step → List ChallengeState
  | [] => []
  | st :: old =>
    match (after (st :: old)).records u with
    | none => []
    | some c =>
      match (after old).records u with
      | none => [c.state]
      | some _ => c.state :: life u old

/-- A life starts in `Pending` and follows the transition table. -/
structure LegalLife (states : List ChallengeState) : Prop where
  starts : ∀ s, states.getLast? = some s → s = .pending
  follows : states.IsChain fun new old => isValidTransition old new = true

/-- What a legal life allows between two stored contents. -/
def LifeStep : Option CachedChallenge → Option CachedChallenge → Prop
  | _, none => True
  | none, some c => c.state = .pending
  | some e, some c => isValidTransition e.state c.state = true

/-- A create that writes carries `Pending` when nothing is stored, and a state the stored one
may go to when the stored record could not be read. -/
def WritesLegally (u : String) (s : Storage) (st : Step) : Prop :=
  ∀ body c, st.request = .create u body → admitCreate u body = .ok c →
    s.readRecord st.faults u = none → putWithRetry st.faults.recordPut = true →
    (s.records u = none → c.state = .pending) ∧
      ∀ e, s.records u = some e → isValidTransition e.state c.state = true

/-! ## One request -/

theorem lifeStep_refl (r : Option CachedChallenge) : LifeStep r r := by
  cases r with
  | none => trivial
  | some c => exact isValidTransition_self c.state

/-- A create that is admitted, sees no record and is written stores its payload. -/
theorem createChallenge_records_write {s : Storage} {f : Faults} {u : String}
    {body : Body CachedChallenge} {c : CachedChallenge} (haccepted : admitCreate u body = .ok c)
    (hread : s.readRecord f u = none) (hput : putWithRetry f.recordPut = true) :
    (createChallenge s f u body).2.records u = some c := by
  unfold createChallenge
  simp only [haccepted, hread, hput, if_true]
  split <;> simp

/-- Any other create leaves the record alone. -/
theorem createChallenge_records_keep {s : Storage} {f : Faults} {u : String}
    {body : Body CachedChallenge}
    (h : ∀ c, admitCreate u body = .ok c → s.readRecord f u = none →
      putWithRetry f.recordPut = false) :
    (createChallenge s f u body).2.records u = s.records u := by
  unfold createChallenge
  cases haccepted : admitCreate u body with
  | error reply => rfl
  | ok c =>
    cases hread : s.readRecord f u with
    | some d => rfl
    | none => simp [h c haccepted hread]

/-- What an update stores has the state the update asked for. -/
@[simp] theorem mergeUpdate_state (e : CachedChallenge) (upd : ChallengeUpdate) :
    (mergeUpdate e upd).state = upd.state := rfl

/-- A request other than a create takes a legal step. -/
theorem lifeStep_of_not_create {s : Storage} {st : Step} {u : String}
    (h : ∀ body, st.request ≠ .create u body) :
    LifeStep (s.records u) ((fetch s st.now st.faults st.request).2.records u) := by
  have hstep := fetch_recordStep s st.now st.faults st.request u
  generalize s.records u = r at hstep
  generalize (fetch s st.now st.faults st.request).2.records u = r' at hstep
  cases hstep with
  | keep => exact lifeStep_refl _
  | expire hexp => trivial
  | delete hreq hv hp => trivial
  | create hreq hval habs => exact absurd hreq (h _)
  | update hreq hval htime htrans => exact htrans

/-- **One request** takes a legal step exactly when it writes legally. -/
theorem lifeStep_iff (u : String) (s : Storage) (st : Step) :
    LifeStep (s.records u) ((fetch s st.now st.faults st.request).2.records u) ↔
      WritesLegally u s st := by
  constructor
  · intro hstep body c hreq haccepted hread hput
    have hwrite := createChallenge_records_write haccepted hread hput
    rw [hreq] at hstep
    simp only [fetch, hwrite] at hstep
    constructor
    · intro hnone
      rw [hnone] at hstep
      exact hstep
    · intro e he
      rw [he] at hstep
      exact hstep
  · intro hlegal
    by_cases hcreate : ∃ body, st.request = .create u body
    · obtain ⟨body, hreq⟩ := hcreate
      rw [hreq]
      simp only [fetch]
      by_cases hwrites : ∃ c, admitCreate u body = .ok c ∧ s.readRecord st.faults u = none ∧
          putWithRetry st.faults.recordPut = true
      · obtain ⟨c, haccepted, hread, hput⟩ := hwrites
        obtain ⟨hnone, hsome⟩ := hlegal body c hreq haccepted hread hput
        rw [createChallenge_records_write haccepted hread hput]
        cases hrec : s.records u with
        | none => exact hnone hrec
        | some e => exact hsome e hrec
      · rw [createChallenge_records_keep]
        · exact lifeStep_refl _
        · intro c haccepted hread
          by_contra hput
          exact hwrites ⟨c, haccepted, hread, by simpa using hput⟩
    · exact lifeStep_of_not_create fun body hreq => hcreate ⟨body, hreq⟩

/-! ## Sequences of requests -/

/-- While a record is stored, its state heads the life. -/
theorem life_head {u : String} {steps : List Step} {c : CachedChallenge}
    (h : (after steps).records u = some c) : ∃ rest, life u steps = c.state :: rest := by
  cases steps with
  | nil => cases h
  | cons st old =>
    simp only [life, h]
    cases (after old).records u with
    | none => exact ⟨[], rfl⟩
    | some e => exact ⟨life u old, rfl⟩

/-- A legal life stays legal exactly over legal steps. -/
theorem legalLife_cons_iff {u : String} {st : Step} {old : List Step}
    (hold : LegalLife (life u old)) :
    LegalLife (life u (st :: old)) ↔
      LifeStep ((after old).records u) ((after (st :: old)).records u) := by
  simp only [life]
  cases hnew : (after (st :: old)).records u with
  | none =>
    constructor
    · intro _
      trivial
    · intro _
      exact ⟨by simp, .nil⟩
  | some c =>
    cases hprev : (after old).records u with
    | none =>
      constructor
      · intro hlegal
        exact hlegal.starts c.state rfl
      · intro hstate
        refine ⟨?_, .singleton _⟩
        intro s hs
        cases hs
        exact hstate
    | some e =>
      obtain ⟨rest, hrest⟩ := life_head hprev
      constructor
      · intro hlegal
        have hchain := hlegal.follows
        simp only [hrest, List.isChain_cons_cons] at hchain
        exact hchain.1
      · intro htrans
        refine ⟨?_, ?_⟩
        · intro s hs
          simp only [hrest, List.getLast?_cons_cons] at hs
          exact hold.starts s (by rw [hrest]; exact hs)
        · have hchain := hold.follows
          simp only [hrest, List.isChain_cons_cons] at hchain ⊢
          exact ⟨htrans, hchain⟩

/-- **Lives are legal throughout a sequence exactly when every create that writes does so
legally.** -/
theorem lives_legal_iff (u : String) (steps : List Step) :
    (∀ old, old <:+ steps → LegalLife (life u old)) ↔
      ∀ st old, st :: old <:+ steps → WritesLegally u (after old) st := by
  refine Interleaving.throughout_iff (P := fun _ => True) ?_ ?_ fun _ _ => trivial
  · show LegalLife []
    exact ⟨by simp, .nil⟩
  · intro st old _ _ hlegal _
    exact (legalLife_cons_iff (hlegal old List.suffix_rfl)).trans (lifeStep_iff u _ st)

/-- A record inserted at 1000, proven at 1010 and removed by a read at its expiry, then the two
requests of a late `put` that marks the record it had read before as `Verified`. -/
def lateVerdict : List Step :=
  let c := CachedChallenge.sample
  let verified := { c with state := .verified, verifiedAt := some 1299 }
  [⟨1300, .none, ChallengeStore.createRequest .sample c.id verified⟩,
    ⟨1300, .none, ChallengeStore.updateRequest .sample c.id verified⟩,
    ⟨1300, .none, .get c.id.toString⟩,
    ⟨1010, .none, ChallengeStore.updateRequest .sample c.id
      { c with state := .proofOkWaitingForRedeem }⟩,
    ⟨1000, .none, ChallengeStore.createRequest .sample c.id c⟩]

/-- The late `put` brings the removed record back as `Verified`, in a life of its own. -/
theorem lateVerdict_not_legal :
    life CachedChallenge.sample.id.toString lateVerdict = [.verified] ∧
      ¬ LegalLife (life CachedChallenge.sample.id.toString lateVerdict) := by
  have hlife : life CachedChallenge.sample.id.toString lateVerdict = [.verified] := by
    decide +kernel
  refine ⟨hlife, ?_⟩
  intro hlegal
  have hstart := hlegal.starts .verified (by rw [hlife]; rfl)
  cases hstart

/-- In a legal life `Verified` comes after `ProofOkWaitingForRedeem`. -/
theorem proofOk_of_verified {states : List ChallengeState} (h : LegalLife states)
    (hv : .verified ∈ states) : .proofOkWaitingForRedeem ∈ states := by
  induction states with
  | nil => simp at hv
  | cons s rest ih =>
    cases rest with
    | nil =>
      have hs := h.starts s rfl
      rw [hs] at hv
      simp at hv
    | cons t rest =>
      have htail : LegalLife (t :: rest) :=
        ⟨fun x hx => h.starts x (by simpa using hx), (List.isChain_cons_cons.mp h.follows).2⟩
      have htrans := (List.isChain_cons_cons.mp h.follows).1
      by_cases hrest : .verified ∈ t :: rest
      · exact List.mem_cons_of_mem _ (ih htail hrest)
      · have hs : s = .verified := by
          rcases List.mem_cons.mp hv with hs | hs
          · exact hs.symm
          · exact absurd hs hrest
        have ht : t ≠ .verified := fun ht => hrest (by simp [ht])
        subst hs
        cases t <;> simp [isValidTransition] at htrans ht ⊢

end ChallengeDO

end ProviiVerifier
