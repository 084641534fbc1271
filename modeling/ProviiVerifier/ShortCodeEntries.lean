/-
  The records and the code entries of a store, over runs.

  A creation stores its record under the id it drew, and an entry of `KV_CONFIG` for the short code
  of this id that names it. No other request writes such an entry, and no update changes what a
  record says of itself.

  Proved: in every run, from any store in which this holds, each record carries the id it is stored
  under and its short code and can be shown, with a secret while it is `Pending`, and each code
  entry names an id that the code is derived from (`Run.coherent`).
-/
import ProviiVerifier.ChallengeLookup
import ProviiVerifier.Original
import ProviiVerifier.Routine

namespace ProviiVerifier

namespace ShortCodes

open Interleaving Prog

variable {app : AppState}

/-! ## Coherent stores -/

/-- A record as the creation for an id makes it, and as updates leave it. -/
structure Listed (id : Uuid) (c : CachedChallenge) : Prop where
  named : c.id = id
  shortCode : c.shortCode = generateShortCodeFromUuid id
  showable : ChallengeLookup.Showable c
  secret : c.state = .pending → c.submitSecret ≠ []

/-- Every code entry names an id that the code is derived from. -/
def CodesNamed (s : State) : Prop :=
  ∀ code text expiry, s.config (CreateChallenge.codeKey code) = some (text, expiry) →
    ∃ id : Uuid, text = id.toString ∧ code = generateShortCodeFromUuid id

/-- A store whose records and code entries belong together. -/
structure Coherent (s : State) : Prop where
  record : ∀ id c, s.record id = some c → Listed id c
  codes : CodesNamed s

/-- A store that runs start from: coherent, and nothing is in flight. -/
structure Settled (s : State) : Prop extends Coherent s where
  inflight : s.inflight = []

/-! ## Records -/

/-- A record of the same challenge, whose secret is there while it is `Pending` or erased. -/
theorem Listed.of_same {id : Uuid} {d c : CachedChallenge} (hd : Listed id d)
    (hsame : c.SameChallenge d) (hsecret : c.submitSecret = d.submitSecret ∨ c.submitSecret = [])
    (hpending : c.state = .pending → d.state = .pending ∧ c.submitSecret = d.submitSecret) :
    Listed id c := by
  have hvalid : c.validate = .ok () := by
    obtain ⟨hrp, hlen, hcode⟩ := d.validate_iff.mp hd.showable.valid
    refine c.validate_iff.mpr ⟨by rw [hsame.rpChallenge, hrp], ?_,
      by rw [hsame.codeChallengeBytes, hcode]⟩
    rcases hsecret with h | h
    · rwa [h]
    · exact .inl h
  refine ⟨hsame.id.trans hd.named, hsame.shortCode.trans hd.shortCode, ⟨hvalid, ?_, ?_⟩, ?_⟩
  · rw [hsame.cutoffDays]
    exact hd.showable.cutoffDays
  · rw [hsame.verifyingKeyId]
    exact hd.showable.verifyingKeyId
  · intro hstate
    obtain ⟨hbefore, hsecret⟩ := hpending hstate
    rw [hsecret]
    exact hd.secret hbefore

/-- The record of a creation. -/
theorem listed_newRecord (app : AppState) (req : CreateChallengeRequest) (origin : String)
    (client : ClientAuthConfig) (terms : CreateChallenge.Terms) (id : Uuid)
    (nonce submitSecret : FixedBytes 32) (now : Nat) : Listed id
      (CreateChallenge.newRecord app req origin client terms id nonce submitSecret now) := by
  have hlen : submitSecret.val.length = challengeFieldLen := submitSecret.property
  have hne : submitSecret.val ≠ [] := by
    intro h
    rw [h] at hlen
    cases hlen
  refine ⟨rfl, rfl, ⟨?_, terms.cutoffDays.property, terms.verifyingKeyId.property⟩, fun _ => hne⟩
  exact (CachedChallenge.validate_iff _).mpr
    ⟨(app.rpChallenge origin nonce.val).property, .inr hlen, req.codeChallenge.property⟩

/-- **An update** keeps a record listed. -/
theorem Listed.mergeUpdate {id : Uuid} {e : CachedChallenge} {upd : ChallengeUpdate}
    (h : Listed id e) (htrans : isValidTransition e.state upd.state = true) :
    Listed id (ChallengeDO.mergeUpdate e upd) := by
  have hsecret := ChallengeDO.mergeUpdate_secret e upd
  refine h.of_same (ChallengeDO.mergeUpdate_same e upd) ?_ ?_
  · rw [hsecret]
    split
    · exact .inr rfl
    · exact .inl rfl
  · intro hstate
    have hupd : upd.state = .pending := hstate
    rw [hsecret, if_neg (fun hleft => hleft.2 hupd)]
    rw [hupd] at htrans
    exact ⟨ChallengeDO.pending_of_transition htrans, rfl⟩

theorem recordRule_listed {R : Rules (service app) Request} :
    RecordRule (handle app) R Settled (Request.Writes app) (fun _ => Listed)
      (fun _ _ _ => True) := by
  refine ⟨fun _ _ _ _ h => h, fun _ _ _ _ _ => trivial, ?_, fun _ _ _ _ _ _ _ _ _ => trivial,
    ?_, ?_⟩
  · intro s hs
    exact ⟨hs.inflight, hs.record⟩
  · intro w i req id c ch _ hinv _ hw
    rcases hw.cases with ⟨r, -, hcreate⟩ | ⟨d, hread, hderived⟩
    · obtain ⟨origin, client, terms, nonce, submitSecret, now, rfl⟩ := hcreate.record
      exact listed_newRecord app r origin client terms id nonce submitSecret now
    · exact (hinv.read i id d hread.1).of_same hderived.same (.inr hderived.erased)
        fun hstate => absurd hstate hderived.left
  · intro w id e upd _ he _ _ htrans
    exact he.mergeUpdate htrans

/-! ## Entries -/

/-- The operation writes no entry of `KV_CONFIG`, or one that names the id of its code. -/
def PutsCode : Op → Prop
  | .configPut key value _ => ∃ id : Uuid,
      key = CreateChallenge.codeKey (generateShortCodeFromUuid id) ∧ value = id.toString
  | _ => True

theorem putsCode_of_uses {charge session : Prop} {op : Op}
    (hop : Uses charge CodeEntry session op) : PutsCode op := by
  cases op <;> first | exact trivial | exact hop

/-- **Every request** writes an entry only for the code of the id that it names. -/
theorem only_handle (app : AppState) (req : Request) : (handle app req).Only PutsCode := by
  have huses : (handle app req).Only (Uses True CodeEntry True) := by
    cases req with
    | create req => exact Only.bind (CreateChallenge.only_createChallenge req) fun _ => trivial
    | verify req =>
      exact Only.bind ((Verify.only_submitVerification req).imp fun _ hop => hop.uses)
        fun _ => trivial
    | redeem req => exact Only.bind (Redeem.only_redeemChallenge req) fun _ => trivial
    | hostedRedeem req => exact Only.bind (HostedRedeem.only_hostedRedeem req) fun _ => trivial
  exact huses.imp fun _ hop => putsCode_of_uses hop

/-! ## Runs -/

theorem codeKey_injective {a b : String}
    (h : CreateChallenge.codeKey a = CreateChallenge.codeKey b) : a = b := by
  have hlist := congrArg String.toList h
  unfold CreateChallenge.codeKey at hlist
  rw [String.toList_append, String.toList_append] at hlist
  exact String.toList_inj.mp (List.append_cancel_left hlist)

/-- **One operation** keeps the entries named. -/
theorem CodesNamed.step {s t : State} {op : Op} (h : CodesNamed s) (hop : PutsCode op)
    (hstep : OpStep app s op t) : CodesNamed t := by
  cases hstep with
  | @config key value ttl =>
    obtain ⟨id, hkey, hvalue⟩ := hop
    intro code text expiry hentry
    have hentry : Function.update s.config key (some (value, s.clock + ttl))
        (CreateChallenge.codeKey code) = some (text, expiry) := hentry
    rw [Function.update_apply] at hentry
    split at hentry
    · next heq =>
      cases hentry
      exact ⟨id, hvalue, codeKey_injective (heq.trans hkey)⟩
    · exact h code text expiry hentry
  | credits =>
    rw [deduct_eq]
    exact h
  | _ => exact h

theorem CodesNamed.moved {s t : State} (h : CodesNamed s) (hstep : EnvStep app s t) :
    CodesNamed t := by
  cases hstep with
  | credits =>
    rw [deduct_eq]
    exact h
  | _ => exact h

variable {R : Rules (service app) Request} {p : Pool (service app) Request ApiError Response}

/-- **Every store of a run is coherent.** -/
theorem Run.coherent (hr : Run (handle app) R Settled p) : Coherent p.world.state := by
  refine ⟨(Run.recordInv (guarded_handle app) recordRule_listed hr).stored, ?_⟩
  have hG : ∀ req, (handle app req).Guarded (fun _ op => PutsCode op) (fun _ _ => True) [] :=
    fun req => (only_handle app req).guarded
  refine Run.invariant (I := fun w => CodesNamed w.state) hG ?_ ?_ ?_ ?_ hr
  · exact fun s hs => hs.codes
  · exact fun w i req _ h _ => h
  · intro w i op c req _ h _ hop _
    have hstep : OpStep app w.state op (perform app w.state op c).2 := perform_opStep c
    exact h.step hop hstep
  · intro w e _ h _
    have hstep : EnvStep app w.state (envStep app w.state e) := envStep_envStep e
    exact h.moved hstep

end ShortCodes

end ProviiVerifier
