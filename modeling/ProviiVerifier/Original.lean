/-
  The original of a challenge record: the pending record its challenge started from.

  Ids are drawn once and a creation writes one record under the id it drew, so a challenge has
  one original. Every other write comes from a record its sender read.

  Proved:
    `Run.original_unique`: a challenge has at most one original.
    `Run.framed`: every record that is stored or read is the challenge of its original, with the
      secret exactly in `Pending`.
-/
import ProviiVerifier.ChallengeRecords

namespace ProviiVerifier

open Interleaving Prog

variable {app : AppState} {s₀ : State}

/-! ## Where writes come from -/

theorem CachedChallenge.fail_same (c : CachedChallenge) : c.fail.SameChallenge c := by
  constructor <;> rfl

theorem CachedChallenge.expire_same (c : CachedChallenge) : c.expire.SameChallenge c := by
  constructor <;> rfl

theorem CachedChallenge.acceptProof_same (c : CachedChallenge) (issuer : IssuerMeta)
    (result : SnarkResult) (now : Nat) : (c.acceptProof issuer result now).SameChallenge c := by
  constructor <;> rfl

theorem CachedChallenge.verdict_same (c : CachedChallenge) (now : Nat) :
    (c.zeroizeSecret.verdict now).SameChallenge c := by
  constructor <;> rfl

/-- A record made from `d` for a later state: the same challenge, without its secret. -/
structure Derived (d c : CachedChallenge) : Prop where
  same : c.SameChallenge d
  erased : c.submitSecret = []
  left : c.state ≠ .pending

theorem Verify.Writes.derived {req : SubmitProofRequest} {h : History Op Res} {id : Uuid}
    {c : CachedChallenge} (hw : Verify.Writes app req h id c) :
    ∃ d, ChallengeStore.Read id d h ∧ Derived d c := by
  cases hw with
  | @fail d hid hgated =>
    subst hid
    exact ⟨d, hgated.read, d.fail_same, rfl, by simp [CachedChallenge.fail]⟩
  | @expire d hid hgated =>
    subst hid
    exact ⟨d, hgated.read, d.expire_same, rfl, by simp [CachedChallenge.expire]⟩
  | @accept d issuer result now hid hgated =>
    subst hid
    exact ⟨d, hgated.read, d.acceptProof_same issuer result now, rfl,
      by simp [CachedChallenge.acceptProof]⟩

theorem Redeem.Writes.derived {req : RedeemRequest} {h : History Op Res} {id : Uuid}
    {c : CachedChallenge} (hw : Redeem.Writes app req h id c) :
    ∃ d, ChallengeStore.Read id d h ∧ Derived d c := by
  obtain ⟨rfl, d, now, rfl, -, hgrounds, -⟩ := hw
  exact ⟨d, hgrounds.read, d.verdict_same now, rfl, by simp [CachedChallenge.verdict]⟩

theorem HostedRedeem.Writes.derived {req : HostedRedeemRequest} {h : History Op Res} {id : Uuid}
    {c : CachedChallenge} (hw : HostedRedeem.Writes app req h id c) :
    ∃ d, ChallengeStore.Read id d h ∧ Derived d c := by
  obtain ⟨d, now, rfl, -, hgrounds, -⟩ := hw
  exact ⟨d, hgrounds.read, d.verdict_same now, rfl, by simp [CachedChallenge.verdict]⟩

/-- **A write is a creation or comes from a record its sender read.** -/
theorem Request.Writes.cases {req : Request} {h : History Op Res} {id : Uuid}
    {c : CachedChallenge} (hw : req.Writes app h id c) :
    (∃ r, req = .create r ∧ CreateChallenge.Writes app r h id c) ∨
      ∃ d, ChallengeStore.Read id d h ∧ Derived d c := by
  cases req with
  | create r => exact .inl ⟨r, rfl, hw⟩
  | verify r => exact .inr (Verify.Writes.derived hw)
  | redeem r => exact .inr (Redeem.Writes.derived hw)
  | hostedRedeem r => exact .inr (HostedRedeem.Writes.derived hw)

theorem Request.Writes.created {req : Request} {h : History Op Res} {id : Uuid}
    {c : CachedChallenge} (hw : req.Writes app h id c) :
    (∃ r, CreateChallenge.Writes app r h id c) ∨ ∃ d, Derived d c := by
  rcases hw.cases with ⟨r, -, hw⟩ | ⟨d, -, hderived⟩
  · exact .inl ⟨r, hw⟩
  · exact .inr ⟨d, hderived⟩

/-! ## Originals -/

/-- Request `i` sent a create request for the record. -/
def Created (tr : List (Event (service app) Request)) (i : Nat) (id : Uuid)
    (c : CachedChallenge) : Prop :=
  ChallengeStore.Attempted id (ChallengeStore.createRequest app id c) (own i tr)

/-- The record its challenge started from: one that was stored at the start, or a pending record
that a request created. -/
def Original (s₀ : State) (tr : List (Event (service app) Request)) (id : Uuid)
    (c : CachedChallenge) : Prop :=
  s₀.record id = some c ∨ c.state = .pending ∧ ∃ i, Created tr i id c

/-- Request `i` drew the id. -/
def Drew (tr : List (Event (service app) Request)) (i : Nat) (id : Uuid) : Prop :=
  (⟨.newUuid, id⟩ : Sigma Res) ∈ own i tr

theorem Created.cons {tr : List (Event (service app) Request)} {i : Nat} {id : Uuid}
    {c : CachedChallenge} (h : Created tr i id c) (e : Event (service app) Request) :
    Created (e :: tr) i id c :=
  h.mono (own_suffix_cons i e tr)

theorem created_call {w : World (service app) Request} {i : Nat} {id : Uuid}
    {c : CachedChallenge} {ch : (service app).Choice
      (.challengeDO id (ChallengeStore.createRequest app id c))} :
    Created (.call i w.state (.challengeDO id (ChallengeStore.createRequest app id c)) ch ::
      w.trace) i id c := by
  refine ⟨((service app).perform w.state _ ch).1, ?_⟩
  rw [own_call_self]
  exact List.mem_cons_self

theorem Original.cons {tr : List (Event (service app) Request)} {id : Uuid}
    {c : CachedChallenge} (h : Original s₀ tr id c) (e : Event (service app) Request) :
    Original s₀ (e :: tr) id c := by
  rcases h with h | ⟨hstate, i, h⟩
  · exact .inl h
  · exact .inr ⟨hstate, i, h.cons e⟩

theorem Drew.cons {tr : List (Event (service app) Request)} {i : Nat} {id : Uuid}
    (h : Drew tr i id) (e : Event (service app) Request) : Drew (e :: tr) i id :=
  (own_suffix_cons i e tr).subset h

/-- Create requests carry their record. -/
theorem createRequest_inj {id : Uuid} {c d : CachedChallenge}
    (h : ChallengeStore.createRequest app id c = ChallengeStore.createRequest app id d) :
    c = d := by
  simp only [createRequest_eq, ChallengeDO.Request.create.injEq, Body.mk.injEq,
    Option.some.injEq, true_and] at h
  exact h.2

/-- A create request of a route is for a record it may write. -/
theorem routeOp_create {J : Uuid → CachedChallenge → Prop} {id : Uuid} {c : CachedChallenge}
    (h : RouteOp app J (.challengeDO id (ChallengeStore.createRequest app id c))) : J id c := by
  rcases h with hreq | ⟨d, hJ, hreq | hreq⟩
  · simp only [createRequest_eq, reduceCtorEq] at hreq
  · simp only [createRequest_eq, updateRequest_eq, reduceCtorEq] at hreq
  · rw [createRequest_inj hreq]
    exact hJ

/-- What holds of ids and originals in every world. -/
structure OriginalInv (s₀ : State) (w : World (service app) Request) : Prop where
  start : s₀.drawn ⊆ State.drawn w.state
  drawn : ∀ i id, Drew w.trace i id → id ∈ State.drawn w.state ∧ id ∉ s₀.drawn
  once : ∀ i j id, Drew w.trace i id → Drew w.trace j id → i = j
  drew : ∀ i id c, Created w.trace i id c → c.state = .pending → Drew w.trace i id
  unique : ∀ id c d, Original s₀ w.trace id c → Original s₀ w.trace id d → c = d

/-- The ids of a run stay drawn, and a new one is new. -/
theorem OriginalInv.ids {w : World (service app) Request} (h : OriginalInv s₀ w) {i : Nat}
    {op : Op} {c : (service app).Choice op} (hfresh : freshIds w.state op c) :
    (∀ j id, Drew (w.after i op c).trace j id →
      id ∈ State.drawn (w.after i op c).state ∧ id ∉ s₀.drawn) ∧
    ∀ j k id, Drew (w.after i op c).trace j id → Drew (w.after i op c).trace k id → j = k := by
  have hstep : OpStep app w.state op (perform app w.state op c).2 := perform_opStep c
  have hnew : ∀ j id, Drew (w.after i op c).trace j id → Drew w.trace j id ∨
      i = j ∧ id ∉ State.drawn w.state ∧ id ∈ State.drawn (w.after i op c).state := by
    intro j id hd
    rcases mem_own_call hd with hd | ⟨rfl, heq⟩
    · exact .inl hd
    · injection heq with hop hid
      subst hop
      have hid : id = (c : Uuid) := eq_of_heq hid
      rw [hid]
      exact .inr ⟨rfl, hfresh, List.mem_cons_self⟩
  refine ⟨?_, ?_⟩
  · intro j id hd
    rcases hnew j id hd with hd | ⟨-, hid, hmem⟩
    · exact ⟨hstep.drawn_subset (h.drawn j id hd).1, (h.drawn j id hd).2⟩
    · exact ⟨hmem, fun hm => hid (h.start hm)⟩
  · intro j k id hj hk
    rcases hnew j id hj with hj | ⟨rfl, hid, -⟩
    · rcases hnew k id hk with hk | ⟨rfl, hid, -⟩
      · exact h.once j k id hj hk
      · exact absurd (h.drawn j id hj).1 hid
    · rcases hnew k id hk with hk | ⟨rfl, -, -⟩
      · exact absurd (h.drawn k id hk).1 hid
      · rfl

/-- A pending record that a request creates is a new original. -/
theorem OriginalInv.creates {w : World (service app) Request} (h : OriginalInv s₀ w)
    (hfresh : Fresh s₀) {i : Nat} {req : CreateChallengeRequest} {id : Uuid}
    {c d : CachedChallenge} (hw : CreateChallenge.Writes app req (own i w.trace) id c)
    (hd : Original s₀ w.trace id d) : c = d := by
  have hdrew : Drew w.trace i id := hw.drawn
  rcases hd with hd | ⟨hstate, j, hd⟩
  · exact absurd (hfresh.drawn id d hd) (h.drawn i id hdrew).2
  · have hij : i = j := h.once i j id hdrew (h.drew j id d hd hstate)
    subst hij
    obtain ⟨r, hm⟩ := hd
    exact (hw.once id d r hm).2.symm

/-- An operation keeps the originals. -/
theorem OriginalInv.after {w : World (service app) Request} (h : OriginalInv s₀ w)
    (hfresh : Fresh s₀) {i : Nat} {op : Op} {c : (service app).Choice op}
    {J : Uuid → CachedChallenge → Prop} (hop : RouteOp app J op)
    (hJ : ∀ id d, J id d → (∃ r, CreateChallenge.Writes app r (own i w.trace) id d) ∨
      d.state ≠ .pending)
    (hids : freshIds w.state op c) : OriginalInv s₀ (w.after i op c) := by
  have hstep : OpStep app w.state op (perform app w.state op c).2 := perform_opStep c
  obtain ⟨hdrawn, honce⟩ := h.ids (i := i) hids
  -- what the operation creates, if it is a create request for a pending record
  have hnew : ∀ j id d, Created (w.after i op c).trace j id d → d.state = .pending →
      Created w.trace j id d ∨ i = j ∧
        op = .challengeDO id (ChallengeStore.createRequest app id d) ∧
        ∃ r, CreateChallenge.Writes app r (own i w.trace) id d := by
    rintro j id d ⟨r, hm⟩ hstate
    rcases mem_own_call hm with hm | ⟨rfl, heq⟩
    · exact .inl ⟨r, hm⟩
    · injection heq with hop' _
      subst hop'
      refine .inr ⟨rfl, rfl, ?_⟩
      rcases hJ id d (routeOp_create hop) with hw | hleft
      · exact hw
      · exact absurd hstate hleft
  have horiginal : ∀ id d, Original s₀ (w.after i op c).trace id d →
      Original s₀ w.trace id d ∨
        op = .challengeDO id (ChallengeStore.createRequest app id d) ∧
          ∃ r, CreateChallenge.Writes app r (own i w.trace) id d := by
    rintro id d (hd | ⟨hstate, j, hd⟩)
    · exact .inl (.inl hd)
    · rcases hnew j id d hd hstate with hd | ⟨-, hop', hw⟩
      · exact .inl (.inr ⟨hstate, j, hd⟩)
      · exact .inr ⟨hop', hw⟩
  refine ⟨fun id hm => hstep.drawn_subset (h.start hm), hdrawn, honce, ?_, ?_⟩
  · intro j id d hd hstate
    rcases hnew j id d hd hstate with hd | ⟨rfl, -, r, hw⟩
    · exact (h.drew j id d hd hstate).cons _
    · have hdrew : Drew w.trace i id := hw.drawn
      exact hdrew.cons _
  · intro id d d' hd hd'
    rcases horiginal id d hd with hd | ⟨hop', r, hw⟩
    · rcases horiginal id d' hd' with hd' | ⟨-, r, hw⟩
      · exact h.unique id d d' hd hd'
      · exact (h.creates hfresh hw hd).symm
    · rcases horiginal id d' hd' with hd' | ⟨hop'', -⟩
      · exact h.creates hfresh hw hd'
      · rw [hop', Op.challengeDO.injEq] at hop''
        exact createRequest_inj hop''.2

theorem originalInv_start : OriginalInv s₀ (⟨s₀, []⟩ : World (service app) Request) := by
  refine ⟨fun _ hm => hm, ?_, ?_, ?_, ?_⟩
  · intro i id hd
    exact absurd hd List.not_mem_nil
  · intro i j id hd
    exact absurd hd List.not_mem_nil
  · rintro i id c ⟨r, hm⟩
    exact absurd hm List.not_mem_nil
  · rintro id c d (hc | ⟨-, i, r, hm⟩)
    · rintro (hd | ⟨-, i, r, hm⟩)
      · exact Option.some.inj (hc.symm.trans hd)
      · exact absurd hm List.not_mem_nil
    · exact absurd hm List.not_mem_nil

/-- An arrival keeps the originals. -/
theorem OriginalInv.arrived {w : World (service app) Request} (h : OriginalInv s₀ w) (i : Nat)
    (req : Request) : OriginalInv s₀ (w.arrived i req) :=
  ⟨h.start, h.drawn, h.once, h.drew, h.unique⟩

/-- A step of the environment keeps the originals. -/
theorem OriginalInv.moved {w : World (service app) Request} (h : OriginalInv s₀ w) (e : Env) :
    OriginalInv s₀ (w.moved e) := by
  have hstep : EnvStep app w.state (envStep app w.state e) := envStep_envStep e
  have hdrawn : State.drawn (w.moved e).state = State.drawn w.state := hstep.drawn
  refine ⟨?_, ?_, h.once, h.drew, h.unique⟩
  · rw [hdrawn]
    exact h.start
  · rw [hdrawn]
    exact h.drawn

variable {R : Rules (service app) Request} {p : Pool (service app) Request ApiError Response}

/-- **A challenge has one original.** -/
theorem Run.originalInv (hfresh : Fresh s₀) (hcall : ∀ w i op c, R.call w i op c →
    freshIds w.state op c) (hr : Run (handle app) R (· = s₀) p) : OriginalInv s₀ p.world := by
  refine hr.invariant (guarded_handle app) ?_ ?_ ?_ ?_
  · rintro s rfl
    exact originalInv_start
  · intro w i req _ h _
    exact h.arrived i req
  · intro w i op c req _ h _ hg hR
    refine h.after hfresh hg (fun id d hw => ?_) (hcall w i op c hR)
    rcases hw.created with hw | ⟨e, hderived⟩
    · exact .inl hw
    · exact .inr hderived.left
  · intro w e _ h _
    exact h.moved e

/-! ## Frames -/

/-- The record is the challenge of an original, with the secret exactly in `Pending`. -/
def FromOriginal (s₀ : State) (tr : List (Event (service app) Request)) (id : Uuid)
    (c : CachedChallenge) : Prop :=
  ∃ c₀, Original s₀ tr id c₀ ∧ ChallengeDO.Framed c₀ c

theorem ChallengeDO.Framed.refl {c : CachedChallenge} (h : c.state = .pending) :
    ChallengeDO.Framed c c :=
  ⟨.refl c, fun _ => rfl, fun hne => absurd h hne⟩

theorem Derived.framed {c₀ d c : CachedChallenge} (h : Derived d c)
    (hd : ChallengeDO.Framed c₀ d) : ChallengeDO.Framed c₀ c :=
  ⟨h.same.trans hd.same, fun hp => absurd hp h.left, fun _ => h.erased⟩

/-- A record whose secret has a length was read as pending, with the original secret. -/
theorem ChallengeDO.Framed.secret_of_length {c₀ c : CachedChallenge}
    (h : ChallengeDO.Framed c₀ c) (hlen : c.submitSecret ≠ []) :
    c.submitSecret = c₀.submitSecret := by
  by_cases hstate : c.state = .pending
  · exact h.secret hstate
  · exact absurd (h.erased hstate) hlen

theorem recordRule_framed (hfresh : Fresh s₀) :
    RecordRule (handle app) R (· = s₀) (Request.Writes app) (FromOriginal s₀)
      (fun _ _ _ => True) := by
  refine ⟨?_, fun _ _ _ _ _ => trivial, ?_, fun _ _ _ _ _ _ _ _ _ => trivial, ?_, ?_⟩
  · rintro e tr id c ⟨c₀, horiginal, hframed⟩
    exact ⟨c₀, horiginal.cons e, hframed⟩
  · rintro s rfl
    refine ⟨hfresh.inflight, ?_⟩
    intro id c hc
    exact ⟨c, .inl hc, .refl (hfresh.pending id c hc)⟩
  · intro w i req id c ch _ hinv _ hw
    rcases hw.cases with ⟨r, -, hcreate⟩ | ⟨d, hread, hderived⟩
    · have hpending : c.state = .pending := hcreate.pending
      exact ⟨c, .inr ⟨hpending, i, created_call⟩, .refl hpending⟩
    · obtain ⟨c₀, horiginal, hframed⟩ := hinv.read i id d hread.1
      exact ⟨c₀, horiginal.cons _, hderived.framed hframed⟩
  · rintro w id e upd _ ⟨c₀, horiginal, hframed⟩ _ _ htrans
    exact ⟨c₀, horiginal, hframed.mergeUpdate htrans⟩

/-- **Every record is the challenge of its original.** -/
theorem Run.framed (hfresh : Fresh s₀) (hr : Run (handle app) R (· = s₀) p) :
    RecordInv (FromOriginal s₀) (fun _ _ _ => True) p.world :=
  Run.recordInv (guarded_handle app) (recordRule_framed hfresh) hr

end ProviiVerifier
