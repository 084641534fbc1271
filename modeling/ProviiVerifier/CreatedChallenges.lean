/-
  What is stored and shown of a created challenge.

  Creations, submissions and redemptions run together with lookups of details and of short codes;
  requests interleave at every await. The object turns every idempotency key away, so that each
  success of a creation is a new response.

  Proved: in every run, the record that a creation stored is the one of its response and of its
  request, for as long as it is stored, and every answer with the details of the challenge shows
  what the response showed (`created_agrees`). A lifetime is the requested one, bounded by the
  policy and by the maximum, but it is never less than the minimum.
-/
import ProviiVerifier.CreatedPolicies
import ProviiVerifier.Interleaving.Project
import ProviiVerifier.RedeemOnce
import ProviiVerifier.ShortCodeSecrecy
import ProviiVerifier.Encoding.Base64Url

namespace ProviiVerifier

namespace CreatedChallenges

open Interleaving Prog
open ChallengeLookup (getChallengeDetails ShowsDetails)
open CreateChallenge (Agrees Resolved Made CreatesOnly minChallengeTtl maxChallengeTtl)
open ShortCodes (Lookup Shown lookup)

variable {app : AppState} {s₀ : State}

/-! ## Requests and lookups -/

/-- A request of the service or a lookup. -/
inductive Call
  | serve (req : Request)
  | look (q : Lookup)

/-- What a call is answered. -/
inductive Reply
  | served (response : Response)
  | shown (shown : Shown)

/-- The handler of a call. -/
def Call.handle (app : AppState) : Call → Handler Reply
  | .serve req => do return .served (← ProviiVerifier.handle app req)
  | .look q => do return .shown (← lookup app q)

/-- The request of a call that is none of a lookup. -/
def Call.request : Call → Option Request
  | .serve req => some req
  | .look _ => none

/-- The records a call may write. -/
def Call.Writes (app : AppState) : Call → History Op Res → Uuid → CachedChallenge → Prop
  | .serve req => req.Writes app
  | .look _ => fun _ _ _ => False

/-- A creation creates records of its own policy only. -/
def Call.Creates (app : AppState) : Call → History Op Res → Op → Prop
  | .serve (.create req) => fun h op => CreatesOnly (Made app req h) op
  | _ => fun _ _ => True

/-- What the answer to a call says. -/
def Call.Outcome (app : AppState) : Call → History Op Res → Except ApiError Reply → Prop
  | .serve (.create req) => fun h r => ∀ a, r = .ok (.served (.created a)) →
      CreateChallenge.Answered app req h (.ok a)
  | .look (.details id) => fun h r => ∀ d, r = .ok (.shown (.details d)) →
      ∃ c, ChallengeStore.Read id c h ∧ c.state = .pending ∧ ShowsDetails app c d
  | _ => fun _ _ => True

theorem routeOp_lookup {J : Uuid → CachedChallenge → Prop} {op : Op}
    (hop : ChallengeLookup.LookupOp op) : RouteOp app J op := by
  cases op <;> first | exact trivial | exact hop.elim | exact .inl hop

/-- **What every call does.** -/
theorem guarded_call (app : AppState) (call : Call) :
    (call.handle app).Guarded (fun h op => RouteOp app (call.Writes app h) op ∧
      call.Creates app h op) (call.Outcome app) [] := by
  cases call with
  | serve req =>
    cases req with
    | create req =>
      have hcreate := (CreateChallenge.guarded_createChallenge app req).and
        (CreateChallenge.guarded_createChallenge_made app req)
      refine ((hcreate.wrap Response.created).wrap Reply.served).imp (fun _ _ hop => hop) ?_
      rintro h r ⟨r₁, ⟨r₂, hr₂, rfl⟩, rfl⟩ a ha
      cases r₂ with
      | error e => cases ha
      | ok a' =>
        cases ha
        exact hr₂.1
    | verify req =>
      exact ((guarded_handle app (.verify req)).wrap Reply.served).imp
        (fun _ _ hop => ⟨hop, trivial⟩) fun _ _ _ => trivial
    | redeem req =>
      exact ((guarded_handle app (.redeem req)).wrap Reply.served).imp
        (fun _ _ hop => ⟨hop, trivial⟩) fun _ _ _ => trivial
    | hostedRedeem req =>
      exact ((guarded_handle app (.hostedRedeem req)).wrap Reply.served).imp
        (fun _ _ hop => ⟨hop, trivial⟩) fun _ _ _ => trivial
  | look q =>
    cases q with
    | byCode shortCode =>
      exact (((ChallengeLookup.guarded_byShortCode app shortCode).wrap Shown.code).wrap
        Reply.shown).imp (fun _ _ hop => ⟨routeOp_lookup hop, trivial⟩) fun _ _ _ => trivial
    | details id =>
      refine (((ChallengeLookup.guarded_details app id).wrap Shown.details).wrap
        Reply.shown).imp (fun _ _ hop => ⟨routeOp_lookup hop, trivial⟩) ?_
      rintro h r ⟨r₁, ⟨r₂, hr₂, rfl⟩, rfl⟩ d hd
      cases r₂ with
      | error e => cases hd
      | ok d' =>
        cases hd
        exact hr₂ _ rfl

/-! ## The record of a challenge -/

/-- A write is a creation or comes from a record its sender read. -/
theorem Call.Writes.cases {call : Call} {h : History Op Res} {id : Uuid} {c : CachedChallenge}
    (hw : call.Writes app h id c) : (∃ r, CreateChallenge.Writes app r h id c) ∨
      ∃ d, ChallengeStore.Read id d h ∧ Derived d c := by
  cases call with
  | serve req =>
    rcases Request.Writes.cases hw with ⟨r, -, hw⟩ | hderived
    · exact .inl ⟨r, hw⟩
    · exact .inr hderived
  | look q => exact hw.elim

/-- The record is the challenge of its original. -/
def FromOne (s₀ : State) (tr : List (Event (service app) Call)) (id : Uuid)
    (c : CachedChallenge) : Prop :=
  FromOriginal s₀ (project Call.request tr) id c

theorem FromOne.cons {tr : List (Event (service app) Call)} {id : Uuid} {c : CachedChallenge}
    (h : FromOne s₀ tr id c) (e : Event (service app) Call) : FromOne s₀ (e :: tr) id c := by
  obtain ⟨c₀, horiginal, hframed⟩ := h
  cases e with
  | arrive i call =>
    rcases project_arrive (f := Call.request) i call tr with hsame | ⟨req, hmore⟩
    · exact ⟨c₀, hsame ▸ horiginal, hframed⟩
    · exact ⟨c₀, hmore ▸ horiginal.cons _, hframed⟩
  | call i s op ch =>
    refine ⟨c₀, ?_, hframed⟩
    rw [project_call]
    exact horiginal.cons _

variable {R : Rules (service app) Call} {p : Pool (service app) Call ApiError Reply}

/-- **A challenge has one original**, with lookups among the requests. -/
theorem Run.original (hfresh : Fresh s₀) (hcall : ∀ w i op c, R.call w i op c →
    freshIds w.state op c) (hr : Run (Call.handle app) R (· = s₀) p) :
    OriginalInv s₀ (p.world.project Call.request) := by
  refine Run.invariant (I := fun w => OriginalInv s₀ (w.project Call.request))
    (guarded_call app) ?_ ?_ ?_ ?_ hr
  · rintro s rfl
    exact originalInv_start
  · intro w i call _ h _
    rcases project_arrive (f := Call.request) i call w.trace with hsame | ⟨req, hmore⟩
    · have hworld : (w.arrived i call).project Call.request = w.project Call.request :=
        congrArg (World.mk w.state) hsame
      rw [hworld]
      exact h
    · have hworld : (w.arrived i call).project Call.request =
          (w.project Call.request).arrived i req := congrArg (World.mk w.state) hmore
      rw [hworld]
      exact h.arrived i req
  · intro w i op c call _ h _ hg hR
    rw [project_after]
    refine h.after hfresh hg.1 ?_ (hcall w i op c hR)
    intro id d hw
    have hsame : own i (w.project Call.request).trace = own i w.trace := own_project i w.trace
    rw [hsame]
    rcases Call.Writes.cases hw with hw | ⟨e, -, hderived⟩
    · exact .inl hw
    · exact .inr hderived.left
  · intro w e _ h _
    rw [project_moved]
    exact h.moved e

theorem recordRule_fromOne (hfresh : Fresh s₀) :
    RecordRule (Call.handle app) R (· = s₀) (Call.Writes app) (FromOne s₀)
      (fun _ _ _ => True) := by
  refine ⟨fun e _ _ _ h => h.cons e, fun _ _ _ _ _ => trivial, ?_,
    fun _ _ _ _ _ _ _ _ _ => trivial, ?_, ?_⟩
  · rintro s rfl
    refine ⟨hfresh.inflight, ?_⟩
    intro id c hc
    exact ⟨c, .inl hc, .refl (hfresh.pending id c hc)⟩
  · intro w i call id c ch _ hinv _ hw
    rcases Call.Writes.cases hw with ⟨r, hcreate⟩ | ⟨d, hread, hderived⟩
    · have hpending : c.state = .pending := hcreate.pending
      refine ⟨c, .inr ⟨hpending, i, ?_⟩, .refl hpending⟩
      rw [project_call]
      exact created_call (w := w.project Call.request)
    · obtain ⟨c₀, horiginal, hframed⟩ := hinv.read i id d hread.1
      refine ⟨c₀, ?_, hderived.framed hframed⟩
      rw [project_call]
      exact horiginal.cons _
  · rintro w id e upd _ ⟨c₀, horiginal, hframed⟩ _ _ htrans
    exact ⟨c₀, horiginal, hframed.mergeUpdate htrans⟩

/-- **Every record is the challenge of its original**, with lookups among the requests. -/
theorem Run.fromOne (hfresh : Fresh s₀) (hr : Run (Call.handle app) R (· = s₀) p) :
    RecordInv (FromOne s₀) (fun _ _ _ => True) p.world :=
  Run.recordInv (Q := Call.Outcome app)
    (fun call => (guarded_call app call).imp (fun _ _ hop => hop.1) fun _ _ hr => hr)
    (recordRule_fromOne hfresh) hr

/-- The store held the record after an operation of the run. -/
def Held (tr : List (Event (service app) Call)) (id : Uuid) (c : CachedChallenge) : Prop :=
  ∃ i s op ch, .call i s op ch ∈ tr ∧ State.record (perform app s op ch).2 id = some c

/-- What the store held was the challenge of its original, too. -/
theorem Run.held_fromOne (hfresh : Fresh s₀) (hr : Run (Call.handle app) R (· = s₀) p)
    {id : Uuid} {c : CachedChallenge} (h : Held p.world.trace id c) :
    FromOne s₀ p.world.trace id c := by
  induction hr with
  | start hs =>
    obtain ⟨i, s, op, ch, hm, -⟩ := h
    exact absurd hm List.not_mem_nil
  | arrive hr hfree hR ih =>
    obtain ⟨i, s, op, ch, hm, hc⟩ := h
    rcases List.mem_cons.mp hm with heq | hm
    · cases heq
    · exact (ih ⟨i, s, op, ch, hm, hc⟩).cons _
  | @call q i op k c' hr hp hR ih =>
    obtain ⟨j, s, op', ch, hm, hc⟩ := h
    rcases List.mem_cons.mp hm with heq | hm
    · cases heq
      exact (Run.fromOne hfresh (Run.call hr hp hR)).stored id c hc
    · exact (ih ⟨j, s, op', ch, hm, hc⟩).cons _
  | env hr hR ih => exact ih h

/-! ## What a success leaves -/

theorem not_carriedOut {code : Nat} (h : 300 ≤ code) :
    ¬ ChallengeStore.CarriedOut (.status code) := by
  intro hcarried
  have hbounds : 200 ≤ code ∧ code < 300 := hcarried
  omega

/-- A create that is not admitted is refused. -/
theorem admitCreate_refuses {u : String} {body : Body CachedChallenge} {reply : ChallengeDO.Reply}
    (h : ChallengeDO.admitCreate u body = .error (some reply)) :
    ¬ ChallengeStore.CarriedOut reply := by
  unfold ChallengeDO.admitCreate at h
  split at h
  · cases h
    exact not_carriedOut (by decide)
  · split at h
    · cases h
      exact not_carriedOut (by decide)
    · split at h
      · cases h
      · split at h
        · cases h
          exact not_carriedOut (by decide)
        · split at h
          · cases h
          · cases h
            exact not_carriedOut (by decide)

/-- A create that is carried out leaves a record. -/
theorem createChallenge_leaves {st : ChallengeDO.Storage} {f : ChallengeDO.Faults} {u : String}
    {body : Body CachedChallenge} {reply : ChallengeDO.Reply}
    (h : (ChallengeDO.createChallenge st f u body).1 = some reply)
    (hcarried : ChallengeStore.CarriedOut reply) :
    ∃ d, (ChallengeDO.createChallenge st f u body).2.records u = some d := by
  unfold ChallengeDO.createChallenge at h ⊢
  cases haccepted : ChallengeDO.admitCreate u body with
  | error r =>
    rw [haccepted] at h
    have hr : r = some reply := h
    rw [hr] at haccepted
    exact absurd hcarried (admitCreate_refuses haccepted)
  | ok challenge =>
    rw [haccepted] at h
    dsimp only at h ⊢
    cases hread : st.readRecord f u with
    | some d => exact ⟨d, ChallengeDO.readRecord_some hread⟩
    | none =>
      rw [hread] at h
      dsimp only at h ⊢
      split
      · next hput =>
        split
        · exact ⟨challenge, by simp⟩
        · exact ⟨challenge, by simp⟩
      · next hput =>
        rw [if_neg hput] at h
        cases h
        exact absurd hcarried (not_carriedOut (by decide))

/-- An update that is carried out leaves a record. -/
theorem updateChallenge_leaves {st : ChallengeDO.Storage} {now : Nat} {f : ChallengeDO.Faults}
    {u : String} {body : Body ChallengeUpdate} {reply : ChallengeDO.Reply}
    (h : (ChallengeDO.updateChallenge st now f u body).1 = some reply)
    (hcarried : ChallengeStore.CarriedOut reply) :
    ∃ d, (ChallengeDO.updateChallenge st now f u body).2.records u = some d := by
  have hrefused : ∀ {code : Nat} {st' : ChallengeDO.Storage}, 300 ≤ code →
      ((some (.status code), st') : Option ChallengeDO.Reply × ChallengeDO.Storage).1 =
        some reply → False := by
    intro code st' hcode heq
    cases heq
    exact not_carriedOut hcode hcarried
  have hcases := h
  unfold ChallengeDO.updateChallenge at hcases
  split at hcases
  · exact (hrefused (by decide) hcases).elim
  · next hid =>
    split at hcases
    · exact (hrefused (by decide) hcases).elim
    · next hsize =>
      split at hcases
      · exact (hrefused (by decide) hcases).elim
      · next existing hread =>
        split at hcases
        · cases hcases
        · next upd hupd =>
          split at hcases
          · exact (hrefused (by decide) hcases).elim
          · next htime =>
            split at hcases
            · exact (hrefused (by decide) hcases).elim
            · next hstate =>
              split at hcases
              · next hput =>
                have hstored : ChallengeDO.updateChallenge st now f u body =
                    (some (.status 200),
                      st.putRecord u (ChallengeDO.mergeUpdate existing upd)) := by
                  unfold ChallengeDO.updateChallenge
                  simp only [hid, hread, hupd]
                  rw [if_neg hsize, if_neg htime, if_neg hstate, if_pos hput]
                rw [hstored]
                exact ⟨ChallengeDO.mergeUpdate existing upd, by simp⟩
              · exact (hrefused (by decide) hcases).elim

theorem fetch_leaves {st : ChallengeDO.Storage} {now : Nat} {f : ChallengeDO.Faults} {id : Uuid}
    {c : CachedChallenge} {req : ChallengeDO.Request} {reply : ChallengeDO.Reply}
    (hreq : req = ChallengeStore.updateRequest app id c ∨
      req = ChallengeStore.createRequest app id c)
    (h : (ChallengeDO.fetch st now f req).1 = some reply)
    (hcarried : ChallengeStore.CarriedOut reply) :
    ∃ d, (ChallengeDO.fetch st now f req).2.records id.toString = some d := by
  have hupdate : ∀ u body, ChallengeDO.fetch st now f (.update u body) =
      ChallengeDO.updateChallenge st now f u body := fun _ _ => rfl
  have hcreate : ∀ u body, ChallengeDO.fetch st now f (.create u body) =
      ChallengeDO.createChallenge st f u body := fun _ _ => rfl
  rcases hreq with rfl | rfl
  · rw [updateRequest_eq, hupdate] at h ⊢
    exact updateChallenge_leaves h hcarried
  · rw [createRequest_eq, hcreate] at h ⊢
    exact createChallenge_leaves h hcarried

/-- **What a `put` landed**, the store held. -/
theorem held_of_landed {tr : List (Event (service app) Call)} {i : Nat} {id : Uuid}
    {c : CachedChallenge} (h : ChallengeStore.Landed app id c (own i tr)) :
    ∃ d, Held tr id d := by
  obtain ⟨req, reply, hreq, hm, hcarried⟩ := h
  obtain ⟨s, ch, hevent, hanswer⟩ := mem_own.mp hm
  have hanswer : (perform app s (.challengeDO id req) ch).1 = some reply := hanswer
  have hheld : ∀ d, State.record (perform app s (.challengeDO id req) ch).2 id = some d →
      ∃ d, Held tr id d := fun d hd => ⟨d, i, s, .challengeDO id req, ch, hevent, hd⟩
  cases ch with
  | lost => simp only [perform, reduceCtorEq] at hanswer
  | late => simp only [perform, reduceCtorEq] at hanswer
  | served f answered =>
    cases answered with
    | false => simp only [perform, Bool.false_eq_true, if_false, reduceCtorEq] at hanswer
    | true =>
      simp only [perform, if_true] at hanswer hheld
      have hfetch : (ChallengeDO.fetch (s.challenges id) s.clock f req).1 = some reply := hanswer
      obtain ⟨d, hd⟩ := fetch_leaves hreq hfetch hcarried
      refine hheld d ?_
      unfold State.serveChallenge State.record
      dsimp only
      rw [Function.update_self]
      exact hd

/-! ## Records and responses -/

/-- The stored record is the one of a request, under a policy, and of its response. -/
structure Matches (app : AppState) (req : CreateChallengeRequest) (policy : OriginPolicy)
    (r : ChallengeResponse) (c : CachedChallenge) : Prop where
  response : Agrees app r c
  codeChallengeBytes : c.codeChallengeBytes = req.codeChallenge.val
  lifetime : c.expiresAt - c.createdAt ≤
    max minChallengeTtl (min (min req.expiresIn.val policy.maxTtlSec) maxChallengeTtl)

/-- The details that show what a response to a creation shows. -/
def detailsOf (r : ChallengeResponse) : ChallengeDetailsResponse :=
  { challengeId := r.challengeId
    shortCode := r.shortCode
    shortCodeFormatted := r.shortCodeFormatted
    rpChallenge := r.rpChallenge
    cutoffDays := r.cutoffDays
    verifyingKeyId := r.verifyingKeyId
    expiresAt := r.expiresAt
    proofDirection := r.proofDirection
    statusUrl := r.statusUrl
    verifyUrl := r.verifyUrl
    submitSecret := r.submitSecret }

variable {req : CreateChallengeRequest} {policy : OriginPolicy} {r : ChallengeResponse}
  {c d : CachedChallenge}

/-- What updates leave of a record still agrees with the response. -/
theorem agrees_of_framed (h : Agrees app r c) (hpending : c.state = .pending)
    (hframed : ChallengeDO.Framed c d) : Agrees app r d := by
  have hsame := hframed.same
  constructor
  · rw [hsame.id, h.challengeId]
  · rw [hsame.shortCode, h.shortCode]
  · rw [hsame.shortCode, h.formatted]
  · rw [hsame.rpChallenge, h.rpChallenge]
  · rw [hsame.cutoffDays, h.cutoffDays]
  · rw [hsame.verifyingKeyId, h.verifyingKeyId]
  · intro hd
    rw [hframed.secret hd, h.submitSecret hpending]
  · rw [hsame.expiresAt, h.expiresAt]
  · rw [hsame.proofDirection, h.proofDirection]
  · rw [hsame.id, h.statusUrl]
  · exact h.verifyUrl

theorem Matches.framed (h : Matches app req policy r c) (hpending : c.state = .pending)
    (hframed : ChallengeDO.Framed c d) : Matches app req policy r d := by
  have hsame := hframed.same
  refine ⟨agrees_of_framed h.response hpending hframed, ?_, ?_⟩
  · rw [hsame.codeChallengeBytes, h.codeChallengeBytes]
  · rw [hsame.expiresAt, hsame.createdAt]
    exact h.lifetime

theorem cutoffDays_new {v : Int} {days : CutoffDays} (h : CutoffDays.new v = .ok days) :
    days.val = v := by
  unfold CutoffDays.new at h
  split at h
  · cases h
    rfl
  · cases h

theorem vkId_new {v : Nat} {vk : VkId} (h : VkId.new v = some vk) : vk.val = v := by
  unfold VkId.new at h
  split at h
  · cases h
    rfl
  · cases h

/-- **The details of a pending record** that agrees with a response show the same. -/
theorem details_eq {response : ChallengeDetailsResponse} (h : Agrees app r c)
    (hpending : c.state = .pending) (hshows : ShowsDetails app c response) :
    response = detailsOf r := by
  obtain ⟨rp, hrp, hshown⟩ := hshows.shown
  have hsecret : response.submitSecret = r.submitSecret :=
    Subtype.ext (hshows.submitSecret.trans (h.submitSecret hpending))
  have hrp : rp = r.rpChallenge := Subtype.ext (hrp.trans h.rpChallenge)
  unfold ChallengeLookup.shown at hshown
  split at hshown
  · cases hshown
  · next days hdays =>
    split at hshown
    · cases hshown
    · next vk hvk =>
      have hdays : days = r.cutoffDays := Subtype.ext ((cutoffDays_new hdays).trans h.cutoffDays)
      have hvk : vk = r.verifyingKeyId := Subtype.ext ((vkId_new hvk).trans h.verifyingKeyId)
      have hshort : response.toShortCodeChallengeResponse =
          (detailsOf r).toShortCodeChallengeResponse := by
        rw [← Except.ok.inj hshown, detailsOf, ShortCodeChallengeResponse.mk.injEq]
        exact ⟨h.challengeId, h.shortCode, h.formatted, hrp, hdays, hvk, h.expiresAt,
          h.proofDirection, h.statusUrl, h.verifyUrl⟩
      cases response
      rw [detailsOf, ChallengeDetailsResponse.mk.injEq]
      exact ⟨hshort, hsecret⟩

/-! ## The record of a creation -/

theorem terms_ttl {entry : Option String} {now : Nat} {t : CreateChallenge.Terms}
    (hok : CreateChallenge.terms app req policy entry now = .ok t) :
    t.ttl = max minChallengeTtl (min maxChallengeTtl (min req.expiresIn.val policy.maxTtlSec)) := by
  unfold CreateChallenge.terms at hok
  obtain ⟨ageYears, -, hok⟩ := except_bind_ok hok
  obtain ⟨vk, -, hok⟩ := except_bind_ok hok
  obtain ⟨days, -, hok⟩ := except_bind_ok hok
  injection hok with hok
  rw [← hok]

/-- A record that was made under a policy has a lifetime within its bounds. -/
theorem matches_of_made {h : History Op Res} (hm : Made app req h c) (hagrees : Agrees app r c) :
    ∃ policy, Resolved app req c.origin h policy ∧ Matches app req policy r c := by
  obtain ⟨policy, entry, readAt, t, hresolved, -, ht, client, id, nonce, submitSecret, now, hc⟩ :=
    hm.terms
  have hbytes : c.codeChallengeBytes = req.codeChallenge.val := by
    rw [hc, CreateChallenge.newRecord]
  have hexpires : c.expiresAt = NonceDO.satAdd now t.ttl := by
    rw [hc, CreateChallenge.newRecord]
  have hcreated : c.createdAt = now := by
    rw [hc, CreateChallenge.newRecord]
  refine ⟨policy, hresolved, hagrees, hbytes, ?_⟩
  rw [hexpires, hcreated, terms_ttl ht]
  unfold NonceDO.satAdd
  omega

/-- **The original of a published challenge** is the record its request wrote. -/
theorem original_published (hfresh : Fresh s₀)
    (hr : Run (Call.handle app) (anyOrder app Call) (· = s₀) p) {i : Nat} {id : Uuid}
    {h : History Op Res} (hown : h = own i p.world.trace)
    (hw : CreateChallenge.Writes app req h id c) (hfrom : FromOne s₀ p.world.trace id d) :
    ChallengeDO.Framed c d ∧
      ChallengeStore.Attempted id (ChallengeStore.createRequest app id c) h := by
  subst hown
  have hinv := Run.original hfresh (fun _ _ _ _ h => h) hr
  have hproject : ∀ j, own j (project Call.request p.world.trace) = own j p.world.trace :=
    fun j => own_project j _
  obtain ⟨c₀, horiginal, hframed⟩ := hfrom
  have hdrew : Drew (project Call.request p.world.trace) i id := by
    unfold Drew
    rw [hproject]
    exact hw.drawn
  rcases horiginal with hstart | ⟨hpending, j, hcreated⟩
  · exact absurd (hfresh.drawn id c₀ hstart) (hinv.drawn i id hdrew).2
  · have hij : i = j := hinv.once i j id hdrew (hinv.drew j id c₀ hcreated hpending)
    subst hij
    unfold Created at hcreated
    rw [hproject] at hcreated
    obtain ⟨answer, hm⟩ := hcreated
    have hsame : c₀ = c := (hw.once id c₀ answer hm).2
    rw [hsame] at hm hframed
    exact ⟨hframed, answer, hm⟩

/-- A record that a creation asked an object to create was made under its policy. -/
theorem made_of_attempted (hr : Run (Call.handle app) (anyOrder app Call) (· = s₀) p) {i : Nat}
    (harrive : .arrive i (.serve (.create req)) ∈ p.world.trace) {id : Uuid}
    (h : ChallengeStore.Attempted id (ChallengeStore.createRequest app id c)
      (own i p.world.trace)) : Made app req (own i p.world.trace) c := by
  obtain ⟨answer, hm⟩ := h
  obtain ⟨s, ch, hevent, -⟩ := mem_own.mp hm
  obtain ⟨new, old, htrace⟩ := List.append_of_mem hevent
  obtain ⟨-, -, call, hcall, -, hcreates⟩ := hr.call_event (guarded_call app) htrace
  have hsuffix : old <:+ p.world.trace := by
    rw [htrace]
    exact (List.suffix_cons _ _).trans (List.suffix_append _ _)
  rw [hr.arrive_unique (hsuffix.subset hcall) harrive] at hcreates
  have hmade : Made app req (own i old) c := hcreates c (by rw [createRequest_eq]; rfl)
  exact hmade.mono (hsuffix.filterMap _)

/-- What updates leave of a published record can be shown. -/
theorem listed_published {h : History Op Res} (hp : CreateChallenge.Published app req h r c)
    (hframed : ChallengeDO.Framed c d) : ShortCodes.Listed r.challengeId d := by
  have hlisted : ShortCodes.Listed r.challengeId c := by
    have hid := hp.agrees.challengeId
    obtain ⟨origin, client, terms, nonce, submitSecret, now, hc⟩ := hp.writes.record
    have hnew := ShortCodes.listed_newRecord app req origin client terms r.challengeId nonce
      submitSecret now
    rw [hc, CreateChallenge.newRecord] at hid
    dsimp only at hid
    rw [hid] at hc
    rw [hc]
    exact hnew
  have hpending : c.state = .pending := hp.writes.pending
  refine hlisted.of_same hframed.same ?_ ?_
  · by_cases hstate : d.state = .pending
    · exact .inl (hframed.secret hstate)
    · exact .inr (hframed.erased hstate)
  · intro hstate
    exact ⟨hpending, hframed.secret hstate⟩

/-! ## Agreement -/

/-- **The stored challenge agrees with the request and the response.** -/
theorem created_agrees (hfresh : Fresh s₀)
    (hr : Run (Call.handle app) (anyOrder app Call) (· = s₀) p) {i : Nat}
    (harrive : .arrive i (.serve (.create req)) ∈ p.world.trace) {a : Answer ChallengeResponse}
    (hout : p.outcome i = some (.ok (.served (.created a)))) :
    ∃ r origin policy, a = .fresh r ∧ req.headers "Origin" = some origin ∧
      Resolved app req origin (own i p.world.trace) policy ∧
      (∃ c, Held p.world.trace r.challengeId c) ∧
      (∀ c, Held p.world.trace r.challengeId c ∨
        State.record p.world.state r.challengeId = some c → Matches app req policy r c) ∧
      (∀ j d, .arrive j (.look (.details r.challengeId)) ∈ p.world.trace →
        p.outcome j = some (.ok (.shown (.details d))) → d = detailsOf r) ∧
      ∀ c, State.record p.world.state r.challengeId = some c → c.state = .pending →
        State.clock p.world.state < c.expiresAt →
        alone app healthy (getChallengeDetails app r.challengeId) p.world.state =
          (.ok (detailsOf r), p.world.state) := by
  obtain ⟨call, hcall, houtcome⟩ := hr.outcome (guarded_call app) hout
  rw [hr.arrive_unique hcall harrive] at houtcome
  have hanswered : CreateChallenge.Answered app req (own i p.world.trace) (.ok a) :=
    houtcome a rfl
  cases a with
  | cached response => exact absurd (hanswered.replayed response rfl) not_replayed
  | fresh r =>
    obtain ⟨c, hpublished⟩ := hanswered.published r rfl
    have hinv := Run.fromOne hfresh hr
    obtain ⟨d₀, hd₀⟩ := held_of_landed hpublished.landed
    obtain ⟨-, hattempted⟩ := original_published hfresh hr rfl hpublished.writes
      (Run.held_fromOne hfresh hr hd₀)
    have hmade := made_of_attempted hr harrive hattempted
    obtain ⟨policy, hresolved, hmatches⟩ := matches_of_made hmade hpublished.agrees
    have hpending : c.state = .pending := hpublished.writes.pending
    have hfrom : ∀ d, FromOne s₀ p.world.trace r.challengeId d → Matches app req policy r d :=
      fun d hd => hmatches.framed hpending
        (original_published hfresh hr rfl hpublished.writes hd).1
    refine ⟨r, c.origin, policy, rfl, hmade.origin, hresolved, ⟨d₀, hd₀⟩, ?_, ?_, ?_⟩
    · intro d hd
      rcases hd with hd | hd
      · exact hfrom d (Run.held_fromOne hfresh hr hd)
      · exact hfrom d (hinv.stored _ d hd)
    · intro j d hlook hshown
      obtain ⟨call', hcall', hdetails⟩ := hr.outcome (guarded_call app) hshown
      rw [hr.arrive_unique hcall' hlook] at hdetails
      obtain ⟨e, hread, hstate, hshows⟩ := hdetails d rfl
      exact details_eq (hfrom e (hinv.read j _ e hread.1)).response hstate hshows
    · intro d hd hstate hlive
      have hfrom' := hinv.stored _ d hd
      have hlisted := listed_published hpublished
        (original_published hfresh hr rfl hpublished.writes hfrom').1
      obtain ⟨response, halone, hshows⟩ := ChallengeLookup.alone_details app hd hlive
        hlisted.showable hstate (hlisted.secret hstate)
      rw [details_eq (hfrom d hfrom').response hstate hshows] at halone
      exact halone

/-! ## Samples -/

namespace Sample

/-- The shop creates a challenge and asks for its details. -/
def shownAfter : List (Act (service .sample) Call) :=
  .arrive 0 (.serve (.create ShortCodes.Sample.creation)) ::
    List.replicate 15 (.call 0 ShortCodes.Sample.drawing) ++
  .arrive 1 (.look (.details ShortCodes.Sample.drawnId)) :: List.replicate 2 (.call 1 healthy)

/-- The response of the creation. -/
def created (p : Pool (service .sample) Call ApiError Reply) : Option ChallengeResponse :=
  match p.outcome 0 with
  | some (.ok (.served (.created (.fresh r)))) => some r
  | _ => none

/-- The details that were shown. -/
def details (p : Pool (service .sample) Call ApiError Reply) : Option ChallengeDetailsResponse :=
  match p.outcome 1 with
  | some (.ok (.shown (.details d))) => some d
  | _ => none

/-- The policy of the shop with a limit of half a minute, and no challenge. -/
def shortPolicy : OriginPolicy := { ProviiVerifier.Sample.policy with maxTtlSec := 30 }

def shortState : State :=
  { ShortCodes.Sample.state with
    policies := fun origin =>
      if origin = "https://shop.example" then .found shortPolicy else .notFound }

theorem fresh_state : Fresh ShortCodes.Sample.state := by
  refine ⟨by decide, rfl, ?_, ?_⟩
  · intro id c hc
    cases hc
  · intro id c hc
    cases hc

/-- The challenge is created under the short limit. -/
def createdShort : List (Act (service .sample) Call) :=
  .arrive 0 (.serve (.create ShortCodes.Sample.creation)) ::
    List.replicate 15 (.call 0 ShortCodes.Sample.drawing)

/-- The origin was looked up to have the short limit. -/
def lookedUpShort : Event (service .sample) Call → Bool
  | .call i s (.getPolicyDetail origin) c =>
    i = 0 && origin = "https://shop.example" &&
      (perform .sample s (.getPolicyDetail origin) c).1 = .ok (.found shortPolicy)
  | _ => false

/-- The stored record lives for longer than the limit, and its code challenge is no text of the
request's bytes. -/
def outlives (c : CachedChallenge) : Prop :=
  ¬ c.expiresAt - c.createdAt ≤
      min (min ShortCodes.Sample.creation.expiresIn.val shortPolicy.maxTtlSec) maxChallengeTtl ∧
    Base64Url.decode c.codeChallenge.toList ≠ some ShortCodes.Sample.creation.codeChallenge.val

instance : DecidablePred outlives := fun _ => inferInstanceAs (Decidable (_ ∧ _))

/-- The creation was answered with a new response, and a record that outlives the limit is
stored. -/
def outlived (p : Pool (service .sample) Call ApiError Reply) : Bool :=
  (created p).any fun r => r.challengeId = ShortCodes.Sample.drawnId &&
    (State.record p.world.state r.challengeId).any fun c => decide (outlives c)

theorem created_some {p : Pool (service .sample) Call ApiError Reply} {r : ChallengeResponse}
    (h : created p = some r) : p.outcome 0 = some (.ok (.served (.created (.fresh r)))) := by
  unfold created at h
  split at h
  · next r' hout =>
    cases h
    exact hout
  · cases h

theorem details_some {p : Pool (service .sample) Call ApiError Reply}
    {d : ChallengeDetailsResponse} (h : details p = some d) :
    p.outcome 1 = some (.ok (.shown (.details d))) := by
  unfold details at h
  split at h
  · next d' hout =>
    cases h
    exact hout
  · cases h

end Sample

/-- A creation under a limit of five minutes: its record is stored, and its details show what the
response showed. -/
theorem created_agrees_shop : ∃ (p : Pool (service .sample) Call ApiError Reply)
    (r : ChallengeResponse) (policy : OriginPolicy),
    Run (Call.handle .sample) (anyOrder .sample Call) (· = ShortCodes.Sample.state) p ∧
      p.outcome 0 = some (.ok (.served (.created (.fresh r)))) ∧
      p.outcome 1 = some (.ok (.shown (.details (detailsOf r)))) ∧
      ∃ c, State.record p.world.state r.challengeId = some c ∧
        Matches .sample ShortCodes.Sample.creation policy r c := by
  have hrun : ∃ p : Pool (service .sample) Call ApiError Reply,
      Run (Call.handle .sample) (anyOrder .sample Call) (· = ShortCodes.Sample.state) p ∧
      (((Sample.created p).any fun r => r.challengeId = ShortCodes.Sample.drawnId &&
          (State.record p.world.state r.challengeId).isSome) = true ∧
        (Sample.details p).isSome = true) ∧
      ∀ i call, .arrive i call ∈ p.world.trace →
        (i, call) ∈ Sample.shownAfter.filterMap Act.arrival :=
    Run.of_replay_arrivals ShortCodes.Sample.state Sample.shownAfter rfl (by decide +kernel)
  obtain ⟨p, hr, ⟨hcreated, hdetails⟩, harrivals⟩ := hrun
  obtain ⟨r, hr', hstored⟩ := (Option.any_eq_true _ _).mp hcreated
  obtain ⟨d, hd⟩ := Option.isSome_iff_exists.mp hdetails
  obtain ⟨hid, hstored⟩ := Bool.and_eq_true_iff.mp hstored
  have hid : r.challengeId = ShortCodes.Sample.drawnId := of_decide_eq_true hid
  have hout := Sample.created_some hr'
  have hshown := Sample.details_some hd
  have hlist : Sample.shownAfter.filterMap Act.arrival =
      [(0, .serve (.create ShortCodes.Sample.creation)),
        (1, .look (.details ShortCodes.Sample.drawnId))] := rfl
  have harrive : .arrive 0 (.serve (.create ShortCodes.Sample.creation)) ∈ p.world.trace := by
    obtain ⟨call, hm, -⟩ := hr.outcome (guarded_call .sample) hout
    have hcall := harrivals 0 call hm
    rw [hlist] at hcall
    simp only [List.mem_cons, Prod.mk.injEq, true_and, Nat.zero_ne_one, false_and,
      List.not_mem_nil, or_false] at hcall
    exact hcall ▸ hm
  have hlook : .arrive 1 (.look (.details r.challengeId)) ∈ p.world.trace := by
    obtain ⟨call, hm, -⟩ := hr.outcome (guarded_call .sample) hshown
    have hcall := harrivals 1 call hm
    rw [hlist] at hcall
    simp only [List.mem_cons, Prod.mk.injEq, true_and, Nat.one_ne_zero, false_and, false_or,
      List.not_mem_nil, or_false] at hcall
    rw [hid]
    exact hcall ▸ hm
  obtain ⟨r', origin, policy, ha, -, -, -, hmatches, hsame, -⟩ :=
    created_agrees Sample.fresh_state hr harrive hout
  cases ha
  obtain ⟨c, hc⟩ := Option.isSome_iff_exists.mp hstored
  rw [hsame 1 d hlook hshown] at hshown
  exact ⟨p, r, policy, hr, hout, hshown, c, hc, hmatches c (.inr hc)⟩

/-- **A short limit is not kept.** Under a policy whose limit is half a minute, the record of a
creation lives for a minute; and its text of the code challenge does not decode to the request's
bytes. -/
theorem created_outlives : ∃ (p : Pool (service .sample) Call ApiError Reply)
    (r : ChallengeResponse) (c : CachedChallenge),
    Run (Call.handle .sample) (anyOrder .sample Call) (· = Sample.shortState) p ∧
      p.outcome 0 = some (.ok (.served (.created (.fresh r)))) ∧
      Resolved .sample ShortCodes.Sample.creation "https://shop.example" (own 0 p.world.trace)
        Sample.shortPolicy ∧
      State.record p.world.state r.challengeId = some c ∧
      ¬ c.expiresAt - c.createdAt ≤ min (min ShortCodes.Sample.creation.expiresIn.val
        Sample.shortPolicy.maxTtlSec) maxChallengeTtl ∧
      Base64Url.decode c.codeChallenge.toList ≠
        some ShortCodes.Sample.creation.codeChallenge.val := by
  have hrun : ∃ p : Pool (service .sample) Call ApiError Reply,
      Run (Call.handle .sample) (anyOrder .sample Call) (· = Sample.shortState) p ∧
      (Sample.outlived p = true ∧ p.world.trace.any Sample.lookedUpShort = true) :=
    Run.of_replay Sample.shortState Sample.createdShort rfl (by decide +kernel)
  obtain ⟨p, hr, houtlived, hlooked⟩ := hrun
  obtain ⟨r, hr', hstored⟩ := (Option.any_eq_true _ _).mp houtlived
  obtain ⟨-, hstored⟩ := Bool.and_eq_true_iff.mp hstored
  obtain ⟨c, hc, houtlives⟩ := (Option.any_eq_true _ _).mp hstored
  obtain ⟨hlife, htext⟩ := of_decide_eq_true houtlives
  have hresolved : Resolved .sample ShortCodes.Sample.creation "https://shop.example"
      (own 0 p.world.trace) Sample.shortPolicy := by
    obtain ⟨e, hm, he⟩ := List.any_eq_true.mp hlooked
    refine .own (fun hskip => absurd hskip (by decide)) ?_
    unfold Sample.lookedUpShort at he
    split at he
    · next i s origin ch =>
      obtain ⟨hi, hanswer⟩ := Bool.and_eq_true_iff.mp he
      obtain ⟨hi, horigin⟩ := Bool.and_eq_true_iff.mp hi
      have hi : i = 0 := of_decide_eq_true hi
      have horigin : origin = "https://shop.example" := of_decide_eq_true horigin
      subst hi horigin
      exact mem_own.mpr ⟨s, ch, hm, of_decide_eq_true hanswer⟩
    · cases he
  exact ⟨p, r, c, hr, Sample.created_some hr', hresolved, hc, hlife, htext⟩

end CreatedChallenges

end ProviiVerifier
