/-
  What an observer of a short code learns.

  The observer knows the code of a `Pending` challenge, and asks for codes and details with the
  code and with the ids and codes that earlier answers showed. Time passes between the requests;
  the objects and `KV_CONFIG` answer what they hold, or fail.

  Proved: the observer gets the challenge's secret exactly when the entry of its code in
  `KV_CONFIG` leads to a `Pending` challenge with that secret that has not expired: the answer to
  the code shows the id, and the details of the id show the secret (`secret_kept_iff`).
-/
import ProviiVerifier.Interleaving.Ends
import ProviiVerifier.ShortCodeEntries

namespace ProviiVerifier

namespace ShortCodes

open Interleaving Prog ChallengeLookup

/-! ## The observer -/

/-- A request of the observer. -/
inductive Lookup
  | byCode (shortCode : String)
  | details (id : Uuid)

/-- What such a request is answered. -/
inductive Shown
  | code (response : ShortCodeChallengeResponse)
  | details (response : ChallengeDetailsResponse)

/-- The part that every answer has. -/
def Shown.identity : Shown → ShortCodeChallengeResponse
  | .code response => response
  | .details response => response.toShortCodeChallengeResponse

/-- The secret in an answer. -/
def Shown.submitSecret : Shown → Option Bytes
  | .code _ => none
  | .details response => some response.submitSecret.val

/-- The handler of a request. -/
def lookup (app : AppState) : Lookup → Handler Shown
  | .byCode shortCode => do return .code (← getChallengeByShortCode app shortCode)
  | .details id => do return .details (← getChallengeDetails app id)

/-- The code and the ids in a request are the initial code or were shown. -/
def Knows (code : String) (seen : List Shown) : Lookup → Prop
  | .byCode shortCode => shortCode = code ∨ ∃ r ∈ seen,
      shortCode = r.identity.shortCode ∨ shortCode = r.identity.shortCodeFormatted
  | .details id => ∃ r ∈ seen, id = r.identity.challengeId

/-- `KV_CONFIG` answers what it holds, or fails. -/
def Honest : (op : Op) → Choice op → Prop
  | .configGet _, (answer : Option KvRead) => ∀ text, answer ≠ some (.value text)
  | _, _ => True

/-- The observer's requests on a store, with what they showed, newest first, and the store they
leave. -/
inductive Attack (app : AppState) (code : String) (s₀ : State) : List Shown → State → Prop
  | start : Attack app code s₀ [] s₀
  | wait {seen : List Shown} {s : State} (seconds : Nat) (h : Attack app code s₀ seen s) :
      Attack app code s₀ seen { s with clock := s.clock + seconds }
  | shown {seen : List Shown} {s s' : State} {q : Lookup} {r : Shown}
      (h : Attack app code s₀ seen s) (hknows : Knows code seen q)
      (hends : Ends (service app) Honest (lookup app q) s (.ok r) s') :
      Attack app code s₀ (r :: seen) s'
  | refused {seen : List Shown} {s s' : State} {q : Lookup} {e : ApiError}
      (h : Attack app code s₀ seen s) (hknows : Knows code seen q)
      (hends : Ends (service app) Honest (lookup app q) s (.error e) s') :
      Attack app code s₀ seen s'

/-- No answer that the observer of a code gets contains the secret. -/
def Kept (app : AppState) (s : State) (code : String) (secret : Bytes) : Prop :=
  ∀ seen s', Attack app code s seen s' → ∀ r ∈ seen, r.submitSecret ≠ some secret

/-- The live entry of a code names a record that has not expired. -/
structure Leads (s : State) (code : String) (id : Uuid) (c : CachedChallenge) : Prop where
  entry : s.configValue (CreateChallenge.codeKey code) = some id.toString
  record : s.record id = some c
  live : s.clock < c.expiresAt

/-- The code leads to a `Pending` challenge with the secret. -/
def Exposed (app : AppState) (s : State) (code : String) (secret : Bytes) : Prop :=
  app.configBinding = true ∧
    ∃ id c, Leads s code id c ∧ c.state = .pending ∧ c.submitSecret = secret

/-! ## Codes -/

variable {app : AppState} {s s₀ : State} {id : Uuid} {c : CachedChallenge} {code : String}

theorem filter_digits {cs : List Char} (h : ∀ x ∈ cs, isAsciiDigit x = true) :
    (cs.filter fun x => !isWhitespace x) = cs := by
  refine List.filter_eq_self.mpr fun x hx => ?_
  rw [isWhitespace_of_digit (h x hx)]
  rfl

theorem code_digits (id : Uuid) : ∀ x ∈ (generateShortCodeFromUuid id).toList,
    isAsciiDigit x = true := pad12_digits _

theorem normalised_code (id : Uuid) :
    normalised (generateShortCodeFromUuid id) = generateShortCodeFromUuid id := by
  unfold normalised
  rw [filter_digits (code_digits id), String.ofList_toList]

theorem isShortCode_code (id : Uuid) : isShortCode (generateShortCodeFromUuid id) = true := by
  have hascii : ∀ x ∈ (generateShortCodeFromUuid id).toList, x.toNat < 128 := by
    intro x hx
    have hbounds := isAsciiDigit_bounds (code_digits id x hx)
    omega
  have hlen : byteLen (generateShortCodeFromUuid id) = 12 := by
    rw [← String.ofList_toList (s := generateShortCodeFromUuid id), byteLen_ofList hascii]
    exact pad12_length _
  unfold isShortCode
  rw [hlen]
  exact Bool.and_eq_true_iff.mpr ⟨rfl, List.all_eq_true.mpr (code_digits id)⟩

/-- The formatted code is the code again. -/
theorem normalised_formatted (id : Uuid) :
    normalised (shortCodeFormatted (generateShortCodeFromUuid id)) =
      generateShortCodeFromUuid id := by
  have hcode := isShortCode_code id
  unfold isShortCode at hcode
  obtain ⟨hlen, hall⟩ := Bool.and_eq_true_iff.mp hcode
  have hnew : ShortCode.new (generateShortCodeFromUuid id) =
      .ok (generateShortCodeFromUuid id) := by
    have hsame : String.ofList ((generateShortCodeFromUuid id).toList.filter
        fun x => !isWhitespace x) = generateShortCodeFromUuid id := by
      rw [filter_digits (code_digits id), String.ofList_toList]
    unfold ShortCode.new
    dsimp only
    rw [hsame, if_neg (not_not.mpr (of_decide_eq_true hlen)), if_neg (by simp [hall])]
  have hdigits := code_digits id
  have hcount : (generateShortCodeFromUuid id).toList.length = 12 := pad12_length _
  unfold shortCodeFormatted
  rw [hnew]
  dsimp only
  generalize hcs : (generateShortCodeFromUuid id).toList = cs at hdigits hcount
  have htake : ∀ n m, ((cs.drop n).take m).filter (fun x => !isWhitespace x) =
      (cs.drop n).take m := fun n m =>
    filter_digits fun x hx => hdigits x (List.mem_of_mem_drop (List.mem_of_mem_take hx))
  have hspace : [' '].filter (fun x => !isWhitespace x) = [] := by decide
  have hparts : (cs.drop 0).take 4 ++ ((cs.drop 4).take 4 ++ (cs.drop 8).take 4) = cs := by
    have hend : (cs.drop 8).take 4 = cs.drop 8 :=
      List.take_of_length_le (by rw [List.length_drop, hcount])
    have hmiddle : (cs.drop 4).drop 4 = cs.drop 8 := by rw [List.drop_drop]
    rw [hend, ← hmiddle, List.take_append_drop, List.drop_zero, List.take_append_drop]
  unfold normalised
  rw [String.toList_ofList]
  simp only [List.filter_append]
  have hfirst : (cs.take 4).filter (fun x => !isWhitespace x) = cs.take 4 := htake 0 4
  rw [hfirst, htake, htake, hspace, List.append_nil, List.append_nil, List.append_assoc]
  have hparts : cs.take 4 ++ ((cs.drop 4).take 4 ++ (cs.drop 8).take 4) = cs := hparts
  rw [hparts, ← hcs, String.ofList_toList]

/-! ## What lookups leave of a store -/

/-- A store that lookups leave of another, some time later. -/
structure Below (s₀ s : State) : Prop where
  clock : s₀.clock ≤ s.clock
  config : s.config = s₀.config
  record : ∀ id c, s.record id = some c → s₀.record id = some c

theorem Below.refl (s : State) : Below s s := ⟨le_rfl, rfl, fun _ _ h => h⟩

theorem Below.step {op : Op} {ch : Choice op} (h : Below s₀ s) (hop : LookupOp op) :
    Below s₀ (perform app s op ch).2 := by
  have hstep : OpStep app s op (perform app s op ch).2 := perform_opStep ch
  generalize (perform app s op ch).2 = t at hstep
  cases hstep with
  | same => exact h
  | late => exact ⟨h.clock, h.config, h.record⟩
  | @challenge id req f =>
    have hreq : req = .get id.toString := hop
    subst hreq
    refine ⟨h.clock, h.config, ?_⟩
    intro id' d hd
    refine h.record id' d ?_
    by_cases hid : id' = id
    · subst hid
      refine serveChallenge_record (p := fun d => s.record id' = some d) (fun _ hd => hd)
        (fun _ hd => hd) ?_ ?_ hd
      · intro body d hreq
        cases hreq
      · intro body upd e hreq
        cases hreq
    · rw [serveChallenge_record_ne hid] at hd
      exact hd
  | _ => exact absurd hop (fun h => h)

/-- What a record was answered as, a store held when the observer came. -/
theorem answered_record
    (h : AnsweredUnder (service app) Honest (Below s₀)
      ⟨.challengeDO id (.get id.toString), some (.record c)⟩) :
    s₀.record id = some c ∧ s₀.clock < c.expiresAt := by
  obtain ⟨s, ch, hbelow, -, hanswer⟩ := h
  have hanswer : (perform app s (.challengeDO id (.get id.toString)) ch).1 = some (.record c) :=
    hanswer.symm
  obtain ⟨hrecord, hlive⟩ := perform_get hanswer
  exact ⟨hbelow.record id c hrecord, hbelow.clock.trans_lt hlive⟩

theorem answered_entry {key text : String}
    (h : AnsweredUnder (service app) Honest (Below s₀) ⟨.configGet key, .value text⟩) :
    s₀.configValue key = some text := by
  obtain ⟨s, ch, hbelow, hhonest, hanswer⟩ := h
  have hhonest : ∀ text, ch ≠ some (.value text) := hhonest
  have hanswer : KvRead.value text = ch.getD (.ofOption (s.configValue key)) := hanswer
  cases hch : ch with
  | some read =>
    rw [hch] at hanswer
    have hread : read = .value text := hanswer.symm
    exact absurd (hch.trans (congrArg some hread)) (hhonest text)
  | none =>
    rw [hch] at hanswer
    have hvalue : s.configValue key = some text := by
      have hanswer : KvRead.value text = .ofOption (s.configValue key) := hanswer
      cases hvalue : s.configValue key with
      | none =>
        rw [hvalue] at hanswer
        cases hanswer
      | some found =>
        rw [hvalue] at hanswer
        cases hanswer
        rfl
    unfold State.configValue at hvalue ⊢
    rw [hbelow.config] at hvalue
    split at hvalue
    · next found expiry hentry =>
      split at hvalue
      · next hlive =>
        rw [if_pos (hbelow.clock.trans_lt hlive)]
        exact hvalue
      · cases hvalue
    · cases hvalue

/-! ## What is shown -/

/-- An answer shows the challenge that the code led to. -/
structure Traced (app : AppState) (s₀ : State) (code : String) (r : Shown) : Prop where
  binding : app.configBinding = true
  shortCode : r.identity.shortCode = code
  formatted : r.identity.shortCodeFormatted = shortCodeFormatted code
  leads : ∃ c, Leads s₀ code r.identity.challengeId c ∧
    ∀ secret, r.submitSecret = some secret → c.state = .pending ∧ c.submitSecret = secret

/-- What a lookup shows, of a record that the store held. -/
theorem lookup_shown {q : Lookup} {r : Shown} {s' : State} (hbelow : Below s₀ s)
    (hends : Ends (service app) Honest (lookup app q) s (.ok r) s') :
    Below s₀ s' ∧ ∃ id c, s₀.record id = some c ∧ s₀.clock < c.expiresAt ∧ Shows c r.identity ∧
      match q with
      | .byCode shortCode => app.configBinding = true ∧ r.submitSecret = none ∧
          ∃ text, s₀.configValue (CreateChallenge.codeKey (normalised shortCode)) = some text ∧
            parseUuid text = some id
      | .details sid => sid = id ∧ c.state = .pending ∧ r.submitSecret = some c.submitSecret := by
  have hI : ∀ (s : State) (op : Op) (ch : Choice op), LookupOp op → Honest op ch → Below s₀ s →
      Below s₀ (perform app s op ch).2 := fun _ _ _ hop _ h => h.step hop
  cases q with
  | byCode shortCode =>
    obtain ⟨hafter, h, ⟨r', hspec, hr⟩, hanswered⟩ := hends.guarded hI
      ((guarded_byShortCode app shortCode).wrap Shown.code) (fun x hx => absurd hx List.not_mem_nil)
      hbelow
    cases r' with
    | error e =>
      have hr : (.ok r : Except ApiError Shown) = .error e := hr
      injection hr
    | ok response =>
      have hr : (.ok r : Except ApiError Shown) = .ok (.code response) := hr
      injection hr with hr
      subst hr
      obtain ⟨hbinding, -, text, id, c, hentry, hid, hread, hshows⟩ := hspec response rfl
      obtain ⟨hrecord, hlive⟩ := answered_record (hanswered _ hread.1)
      exact ⟨hafter, id, c, hrecord, hlive, hshows, hbinding, rfl, text,
        answered_entry (hanswered _ hentry), hid⟩
  | details sid =>
    obtain ⟨hafter, h, ⟨r', hspec, hr⟩, hanswered⟩ := hends.guarded hI
      ((guarded_details app sid).wrap Shown.details) (fun x hx => absurd hx List.not_mem_nil)
      hbelow
    cases r' with
    | error e =>
      have hr : (.ok r : Except ApiError Shown) = .error e := hr
      injection hr
    | ok response =>
      have hr : (.ok r : Except ApiError Shown) = .ok (.details response) := hr
      injection hr with hr
      subst hr
      obtain ⟨c, hread, hpending, hshows⟩ := hspec response rfl
      obtain ⟨hrecord, hlive⟩ := answered_record (hanswered _ hread.1)
      exact ⟨hafter, sid, c, hrecord, hlive, hshows.shows, rfl, hpending,
        congrArg some hshows.submitSecret⟩

theorem lookup_below {q : Lookup} {r : Except ApiError Shown} {s' : State} (hbelow : Below s₀ s)
    (hends : Ends (service app) Honest (lookup app q) s r s') : Below s₀ s' := by
  have hI : ∀ (s : State) (op : Op) (ch : Choice op), LookupOp op → Honest op ch → Below s₀ s →
      Below s₀ (perform app s op ch).2 := fun _ _ _ hop _ h => h.step hop
  cases q with
  | byCode shortCode =>
    exact (hends.guarded hI ((guarded_byShortCode app shortCode).wrap Shown.code)
      (fun x hx => absurd hx List.not_mem_nil) hbelow).1
  | details sid =>
    exact (hends.guarded hI ((guarded_details app sid).wrap Shown.details)
      (fun x hx => absurd hx List.not_mem_nil) hbelow).1

/-- A live entry names the id of its code. -/
theorem Coherent.entry {text : String} (hstore : Coherent s₀)
    (hentry : s₀.configValue (CreateChallenge.codeKey code) = some text) :
    ∃ id : Uuid, text = id.toString ∧ code = generateShortCodeFromUuid id := by
  unfold State.configValue at hentry
  split at hentry
  · next found expiry hfound =>
    split at hentry
    · cases hentry
      exact hstore.codes code text expiry hfound
    · cases hentry
  · cases hentry

theorem Leads.derived (hstore : Coherent s₀) (h : Leads s₀ code id c) :
    code = generateShortCodeFromUuid id := by
  obtain ⟨id', hid, hcode⟩ := hstore.entry h.entry
  rw [Uuid.toString_injective hid]
  exact hcode

/-- A code that the observer knows is the initial one, written in one of two ways. -/
theorem normalised_known {seen : List Shown} {id₀ : Uuid} {shortCode : String}
    (hseen : ∀ r ∈ seen, Traced app s₀ (generateShortCodeFromUuid id₀) r)
    (hknows : Knows (generateShortCodeFromUuid id₀) seen (.byCode shortCode)) :
    normalised shortCode = generateShortCodeFromUuid id₀ := by
  rcases hknows with rfl | ⟨r, hr, rfl | rfl⟩
  · exact normalised_code id₀
  · rw [(hseen r hr).shortCode]
    exact normalised_code id₀
  · rw [(hseen r hr).formatted]
    exact normalised_formatted id₀

/-- **One request** shows the challenge that the code led to. -/
theorem Traced.lookup {seen : List Shown} {id₀ : Uuid} {q : Lookup} {r : Shown} {s' : State}
    (hstore : Coherent s₀) (hbelow : Below s₀ s)
    (hseen : ∀ r ∈ seen, Traced app s₀ (generateShortCodeFromUuid id₀) r)
    (hknows : Knows (generateShortCodeFromUuid id₀) seen q)
    (hends : Ends (service app) Honest (lookup app q) s (.ok r) s') :
    Traced app s₀ (generateShortCodeFromUuid id₀) r := by
  obtain ⟨-, id, c, hrecord, hlive, hshows, hq⟩ := lookup_shown hbelow hends
  have hlisted := hstore.record id c hrecord
  have hid : r.identity.challengeId = id := hshows.challengeId.trans hlisted.named
  -- the code led to the record before, or does now
  have hfound : app.configBinding = true ∧
      Leads s₀ (generateShortCodeFromUuid id₀) id c ∧
      ∀ secret, r.submitSecret = some secret → c.state = .pending ∧ c.submitSecret = secret := by
    cases q with
    | byCode shortCode =>
      obtain ⟨hbinding, hnone, text, hentry, hparse⟩ := hq
      rw [normalised_known hseen hknows] at hentry
      obtain ⟨id', rfl, -⟩ := hstore.entry hentry
      rw [parseUuid_toString] at hparse
      cases hparse
      refine ⟨hbinding, ⟨hentry, hrecord, hlive⟩, fun secret h => ?_⟩
      rw [hnone] at h
      cases h
    | details sid =>
      obtain ⟨rfl, hpending, hsecret⟩ := hq
      obtain ⟨r₀, hr₀, rfl⟩ := hknows
      obtain ⟨c₀, hleads, -⟩ := (hseen r₀ hr₀).leads
      have hsame : c₀ = c := Option.some.inj (hleads.record.symm.trans hrecord)
      refine ⟨(hseen r₀ hr₀).binding, hsame ▸ hleads, fun secret h => ⟨hpending, ?_⟩⟩
      rw [hsecret] at h
      exact Option.some.inj h
  obtain ⟨hbinding, hleads, hsecret⟩ := hfound
  have hcode : c.shortCode = generateShortCodeFromUuid id₀ :=
    hlisted.shortCode.trans (hleads.derived hstore).symm
  refine ⟨hbinding, ?_, ?_, c, ?_, hsecret⟩
  · rw [hshows.shortCode, hcode]
  · rw [hshows.formatted, hcode]
  · rw [hid]
    exact hleads

/-- **All that an observer is shown** is the challenge that the code led to. -/
theorem Attack.traced {id₀ : Uuid} {seen : List Shown} (hstore : Coherent s₀)
    (h : Attack app (generateShortCodeFromUuid id₀) s₀ seen s) :
    Below s₀ s ∧ ∀ r ∈ seen, Traced app s₀ (generateShortCodeFromUuid id₀) r := by
  induction h with
  | start => exact ⟨.refl s₀, fun r hr => absurd hr List.not_mem_nil⟩
  | wait seconds _ ih =>
    exact ⟨⟨ih.1.clock.trans (Nat.le_add_right _ _), ih.1.config, ih.1.record⟩, ih.2⟩
  | shown _ hknows hends ih =>
    refine ⟨(lookup_shown ih.1 hends).1, ?_⟩
    intro r hr
    rcases List.mem_cons.mp hr with rfl | hr
    · exact Traced.lookup hstore ih.1 ih.2 hknows hends
    · exact ih.2 r hr
  | refused _ hknows hends ih => exact ⟨lookup_below ih.1 hends, ih.2⟩

/-! ## Secrecy -/

/-- **An exposed secret** is shown to the observer by two requests. -/
theorem Exposed.attack {secret : Bytes} (hstore : Coherent s)
    (h : Exposed app s code secret) :
    ∃ seen, Attack app code s seen s ∧ ∃ r ∈ seen, r.submitSecret = some secret := by
  obtain ⟨hbinding, id, c, hleads, hpending, rfl⟩ := h
  have hlisted := hstore.record id c hleads.record
  have hcode := hleads.derived hstore
  have hhonest : ∀ op, Honest op (healthy op) := by
    intro op
    cases op with
    | configGet key =>
      intro text htext
      cases htext
    | _ => trivial
  have hsame : normalised code = code := by rw [hcode, normalised_code]
  have hvalid : isShortCode (normalised code) = true := by
    rw [hsame, hcode]
    exact isShortCode_code id
  have hentry : s.configValue (CreateChallenge.codeKey (normalised code)) = some id.toString := by
    rw [hsame]
    exact hleads.entry
  obtain ⟨first, hfirst, hshows⟩ := alone_byShortCode hbinding hvalid hentry
    (parseUuid_toString id) hleads.record hleads.live hlisted.showable
  obtain ⟨second, hsecond, hdetails⟩ := alone_details app hleads.record hleads.live hlisted.showable
    hpending (hlisted.secret hpending)
  have hone : Attack app code s [.code first] s := by
    refine .shown (q := .byCode code) .start (.inl rfl) ?_
    have hexec : alone app healthy (lookup app (.byCode code)) s = (.ok (.code first), s) :=
      alone_bind_ok hfirst
    have hends := ends_exec (M := service app) hhonest (lookup app (.byCode code)) s
    unfold alone at hexec
    rw [hexec] at hends
    exact hends
  refine ⟨[.details second, .code first], ?_, .details second, List.mem_cons_self,
    congrArg some hdetails.submitSecret⟩
  refine .shown (q := .details id) hone ?_ ?_
  · exact ⟨.code first, List.mem_cons_self, (hshows.challengeId.trans hlisted.named).symm⟩
  · have hexec : alone app healthy (lookup app (.details id)) s = (.ok (.details second), s) :=
      alone_bind_ok hsecond
    have hends := ends_exec (M := service app) hhonest (lookup app (.details id)) s
    unfold alone at hexec
    rw [hexec] at hends
    exact hends

variable {p : Pool (service app) Request ApiError Response}

/-- **Secrecy of the submit secret**: in every store that a run reaches, the observer of a
challenge's code never gets its secret exactly when the code leads to no `Pending` challenge with
this secret. -/
theorem secret_kept_iff (hr : Run (handle app) (anyOrder app Request) Settled p)
    (hrecord : State.record p.world.state id = some c) :
    Kept app p.world.state c.shortCode c.submitSecret ↔
      ¬ Exposed app p.world.state c.shortCode c.submitSecret := by
  have hstore := Run.coherent hr
  constructor
  · intro hkept hexposed
    obtain ⟨seen, hattack, r, hm, hshown⟩ := hexposed.attack hstore
    exact hkept seen _ hattack r hm hshown
  · intro hsafe seen s' hattack r hm hshown
    rw [(hstore.record id c hrecord).shortCode] at hattack hsafe
    obtain ⟨-, htraced⟩ := hattack.traced hstore
    obtain ⟨d, hleads, hsecret⟩ := (htraced r hm).leads
    obtain ⟨hpending, hsame⟩ := hsecret _ hshown
    exact hsafe ⟨(htraced r hm).binding, _, d, hleads, hpending, hsame⟩

/-! ## Samples -/

namespace Sample

/-- The shop's policy, and no challenge. -/
def state : State := { ProviiVerifier.Sample.state with challenges := fun _ => .empty }

theorem settled_state : Settled state := by
  refine ⟨⟨?_, ?_⟩, rfl⟩
  · intro id c hc
    cases hc
  · intro code text expiry hentry
    cases hentry

/-- A creation by the shop. -/
def creation : CreateChallengeRequest :=
  { headers := ProviiVerifier.Sample.shopHeaders
    codeChallenge := ProviiVerifier.Sample.codeChallenge
    verifyingKeyId := none
    expiresIn := ProviiVerifier.Sample.twoMinutes
    authorizer :=
      { keyId := "shop", timestamp := 1000, nonce := String.ofList (List.replicate 64 'a')
        hmac := String.ofList (List.replicate 64 'b') } }

/-- The id that is drawn. -/
def drawnId : Uuid := 0x650e8400e29b41d4a716446655440000#128

/-- All goes well, and the id is drawn. -/
def drawing (op : Op) : Choice op :=
  match op with
  | .newUuid => drawnId
  | op => healthy op

/-- The creation runs to its end. -/
def created : List (Act (service .sample) Request) :=
  .arrive 0 (.create creation) :: List.replicate 15 (.call 0 drawing)

/-- A pending challenge is stored, which is live when its code has an entry; this is the entry. -/
def holds (entry : Option String) (s : State) : Bool :=
  (s.record drawnId).any (fun c => decide (c.state = .pending ∧ s.clock < c.expiresAt)) =
      entry.isSome ∧
    (s.record drawnId).map (·.state) = some .pending ∧
    s.configValue (CreateChallenge.codeKey (generateShortCodeFromUuid drawnId)) = entry

end Sample

/-- Ten minutes after the creation the entry has expired, and the secret is kept. -/
theorem secret_kept_later : ∃ (p : Pool (service .sample) Request ApiError Response) (c : _),
    Run (handle .sample) (anyOrder .sample Request) Settled p ∧
      State.record p.world.state Sample.drawnId = some c ∧ c.state = .pending ∧
      Kept .sample p.world.state c.shortCode c.submitSecret := by
  have hrun : ∃ p : Pool (service .sample) Request ApiError Response,
      Run (handle .sample) (anyOrder .sample Request) Settled p ∧
        Sample.holds none p.world.state = true :=
    Run.of_replay Sample.state (Sample.created ++ [.env (.tick 600)]) Sample.settled_state
      (by decide +kernel)
  obtain ⟨p, hr, hholds⟩ := hrun
  obtain ⟨-, hstate, hentry⟩ := of_decide_eq_true hholds
  obtain ⟨c, hrecord, hpending⟩ := Option.map_eq_some_iff.mp hstate
  refine ⟨p, c, hr, hrecord, hpending, (secret_kept_iff hr hrecord).mpr ?_⟩
  rintro ⟨-, id, d, hleads, -, -⟩
  have hcode := ((Run.coherent hr).record _ c hrecord).shortCode
  have hnone := hleads.entry
  rw [hcode, hentry] at hnone
  cases hnone

/-- **The code gives the secret away**: after a creation, the observer of its code is shown the id
in the answer to the code, and the secret in the details of the id. -/
theorem secret_shown : ∃ (p : Pool (service .sample) Request ApiError Response) (c : _),
    Run (handle .sample) (anyOrder .sample Request) Settled p ∧
      State.record p.world.state Sample.drawnId = some c ∧ c.state = .pending ∧
      ¬ Kept .sample p.world.state c.shortCode c.submitSecret := by
  have hrun : ∃ p : Pool (service .sample) Request ApiError Response,
      Run (handle .sample) (anyOrder .sample Request) Settled p ∧
        Sample.holds (some Sample.drawnId.toString) p.world.state = true :=
    Run.of_replay Sample.state Sample.created Sample.settled_state (by decide +kernel)
  obtain ⟨p, hr, hholds⟩ := hrun
  obtain ⟨hlive, hstate, hentry⟩ := of_decide_eq_true hholds
  obtain ⟨c, hrecord, hpending⟩ := Option.map_eq_some_iff.mp hstate
  have hstore := Run.coherent hr
  have hcode := (hstore.record _ c hrecord).shortCode
  rw [hrecord] at hlive
  have hexpiry : State.clock p.world.state < c.expiresAt :=
    (of_decide_eq_true (p := c.state = .pending ∧ State.clock p.world.state < c.expiresAt)
      hlive).2
  have hexposed : Exposed .sample p.world.state c.shortCode c.submitSecret := by
    refine ⟨rfl, Sample.drawnId, c, ⟨?_, hrecord, hexpiry⟩, hpending, rfl⟩
    rw [hcode]
    exact hentry
  obtain ⟨seen, hattack, r, hm, hshown⟩ := hexposed.attack hstore
  exact ⟨p, c, hr, hrecord, hpending, fun hkept => hkept seen _ hattack r hm hshown⟩

end ShortCodes

end ProviiVerifier
