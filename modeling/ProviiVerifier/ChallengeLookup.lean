/-
  `get_challenge_details` and `get_challenge_by_short_code` of `routes/challenge.rs`.

  An error that leaves a handler through `?` is an internal error with its text. Audit and the
  console are left out.

  Proved: both handlers only read; what they show is from the record they read, under the id that
  was asked for or the one that the code's entry in `KV_CONFIG` names (`guarded_details`,
  `guarded_byShortCode`); over healthy dependencies they show every record that can be shown
  (`alone_details`, `alone_byShortCode`).
-/
import ProviiVerifier.CreateChallenge
import ProviiVerifier.Healthy

namespace ProviiVerifier

open Interleaving Prog

/-! ## The responses -/

/-- `ShortCodeChallengeResponse`. -/
structure ShortCodeChallengeResponse where
  challengeId : Uuid
  shortCode : String
  shortCodeFormatted : String
  rpChallenge : FixedBytes 32
  cutoffDays : CutoffDays
  verifyingKeyId : VkId
  expiresAt : Nat
  proofDirection : String
  statusUrl : String
  verifyUrl : String
  deriving DecidableEq

/-- `ChallengeDetailsResponse`: the same, and the secret. -/
structure ChallengeDetailsResponse extends ShortCodeChallengeResponse where
  submitSecret : FixedBytes 32
  deriving DecidableEq

namespace ChallengeLookup

/-- `try_into` of bytes to an array of 32. -/
def exactly32 (bytes : Bytes) (msg : String) : Except ApiError (FixedBytes 32) :=
  if h : bytes.length = 32 then .ok ⟨bytes, h⟩ else .error (.internal msg)

/-- What both responses show of a record. -/
def shown (app : AppState) (cached : CachedChallenge) (rpChallenge : FixedBytes 32) :
    Except ApiError ShortCodeChallengeResponse :=
  match CutoffDays.new cached.cutoffDays with
  | .error e => .error (.internal e)
  | .ok cutoffDays =>
    match VkId.new cached.verifyingKeyId with
    | none => .error (.internal "Invalid VK ID")
    | some verifyingKeyId =>
      .ok { challengeId := cached.id
            shortCode := cached.shortCode
            shortCodeFormatted := shortCodeFormatted cached.shortCode
            rpChallenge := rpChallenge
            cutoffDays := cutoffDays
            verifyingKeyId := verifyingKeyId
            expiresAt := cached.expiresAt
            proofDirection := cached.proofDirection.asStr
            statusUrl := statusUrl app cached.id
            verifyUrl := verifyUrl app }

/-! ## The handlers -/

/-- `get_challenge_details`. -/
def getChallengeDetails (app : AppState) (sid : Uuid) : Handler ChallengeDetailsResponse := do
  match ← attempt (ChallengeStore.get sid) with
  | .error e => .fail e.wrap
  | .ok none => .fail .notFound
  | .ok (some cached) =>
    let now ← await .timestamp
    if now > cached.expiresAt then .fail .notFound
    else if cached.state ≠ .pending then .fail .notFound
    else do
      let rpChallenge ← ofExcept (exactly32 cached.rpChallenge "rp_challenge length mismatch")
      let submitSecret ← ofExcept (exactly32 cached.submitSecret "Service unavailable")
      let response ← ofExcept (shown app cached rpChallenge)
      return { response with submitSecret := submitSecret }

/-- A code without its whitespace. -/
def normalised (shortCode : String) : String :=
  String.ofList (shortCode.toList.filter fun c => !isWhitespace c)

/-- Twelve ASCII digits. -/
def isShortCode (code : String) : Bool :=
  byteLen code = 12 && code.toList.all isAsciiDigit

/-- The part of `get_challenge_by_short_code` after the id is known. -/
def showChallenge (app : AppState) (challengeId : Uuid) :
    Handler ShortCodeChallengeResponse := do
  match ← attempt (ChallengeStore.get challengeId) with
  | .error e => .fail e.wrap
  | .ok none => .fail .notFound
  | .ok (some cached) =>
    let now ← await .timestamp
    if now > cached.expiresAt then .fail .notFound
    else do
      let rpChallenge ← ofExcept (exactly32 cached.rpChallenge "rp_challenge length mismatch")
      ofExcept (shown app cached rpChallenge)

/-- `get_challenge_by_short_code`. -/
def getChallengeByShortCode (app : AppState) (shortCode : String) :
    Handler ShortCodeChallengeResponse := do
  if isShortCode (normalised shortCode) = false then
    .fail (.badRequestWith "INVALID_SHORT_CODE" (some "short_code")
      "Short code must be exactly 12 numeric digits")
  else if app.configBinding = false then .fail (.internal "Service unavailable")
  else
    match ← await (.configGet (CreateChallenge.codeKey (normalised shortCode))) with
    | .missing => .fail .notFound
    | .failed | .timedOut | .bindingError => .fail (.internal "Service unavailable")
    | .value text =>
      match parseUuid text with
      | none => .fail (.internal "Service unavailable")
      | some challengeId => showChallenge app challengeId

attribute [irreducible] isShortCode normalised

/-! ## What a lookup does -/

/-- The operations of a lookup. -/
def LookupOp : Op → Prop
  | .challengeDO id req => req = .get id.toString
  | .budgetLeft | .timestamp | .configGet _ => True
  | _ => False

variable {app : AppState} {h : History Op Res}

theorem lookupOp_get {id : Uuid} {op : Op} (hop : ChallengeStore.Fetch id (.get id.toString) op) :
    LookupOp op := by
  rcases hop with rfl | rfl
  · exact rfl
  · trivial

/-- A response shows the identity of a record. -/
structure Shows (c : CachedChallenge) (response : ShortCodeChallengeResponse) : Prop where
  challengeId : response.challengeId = c.id
  shortCode : response.shortCode = c.shortCode
  formatted : response.shortCodeFormatted = shortCodeFormatted c.shortCode

theorem shows_shown {c : CachedChallenge} {rpChallenge : FixedBytes 32}
    {response : ShortCodeChallengeResponse} (hshown : shown app c rpChallenge = .ok response) :
    Shows c response := by
  unfold shown at hshown
  split at hshown
  · cases hshown
  · split at hshown
    · cases hshown
    · have hresponse := Except.ok.inj hshown
      subst hresponse
      constructor
      · dsimp only
      · dsimp only
      · dsimp only

theorem exactly32_ok {bytes : Bytes} {msg : String} {out : FixedBytes 32}
    (hout : exactly32 bytes msg = .ok out) : out.val = bytes := by
  unfold exactly32 at hout
  split at hout
  · cases hout
    rfl
  · cases hout

/-- A response is the details of a record. -/
structure ShowsDetails (app : AppState) (c : CachedChallenge)
    (response : ChallengeDetailsResponse) : Prop where
  shown : ∃ rpChallenge : FixedBytes 32, rpChallenge.val = c.rpChallenge ∧
    shown app c rpChallenge = .ok response.toShortCodeChallengeResponse
  submitSecret : response.submitSecret.val = c.submitSecret

theorem ShowsDetails.shows {c : CachedChallenge} {response : ChallengeDetailsResponse}
    (h : ShowsDetails app c response) : Shows c response.toShortCodeChallengeResponse := by
  obtain ⟨rpChallenge, -, hshown⟩ := h.shown
  exact shows_shown hshown

/-- **Details** come from the record of the id, which is `Pending`. -/
theorem guarded_details (app : AppState) (sid : Uuid) :
    Guarded (fun _ op => LookupOp op) (fun h' r => ∀ response, r = .ok response →
      ∃ c, ChallengeStore.Read sid c h' ∧ c.state = .pending ∧ ShowsDetails app c response)
      h (getChallengeDetails app sid) := by
  have herror : ∀ (h' : History Op Res) (e : ApiError) (response : ChallengeDetailsResponse),
      (.error e : Except ApiError ChallengeDetailsResponse) = .ok response →
      ∃ c, ChallengeStore.Read sid c h' ∧ c.state = .pending ∧ ShowsDetails app c response := by
    intro h' e response hr
    cases hr
  refine ChallengeStore.guarded_get.seq_attempt (fun _ _ _ hop => lookupOp_get hop) ?_
  intro h1 r _ hr
  rcases r with e | _ | cached
  · exact herror h1 _
  · exact herror h1 _
  · refine guarded_await_bind.mpr ⟨trivial, fun now => ?_⟩
    have hread := ChallengeStore.Read.mono (List.suffix_cons ⟨.timestamp, now⟩ h1) hr
    split
    · exact herror _ _
    · split
      · exact herror _ _
      · next hpending =>
        refine guarded_ofExcept_bind (fun rpChallenge hrp => ?_) fun _ _ => herror _ _
        refine guarded_ofExcept_bind (fun submitSecret hsecret => ?_) fun _ _ => herror _ _
        refine guarded_ofExcept_bind (fun response hshown => ?_) fun _ _ => herror _ _
        intro response' hresponse
        cases hresponse
        exact ⟨cached, hread, not_not.mp hpending,
          ⟨⟨rpChallenge, exactly32_ok hrp, hshown⟩, exactly32_ok hsecret⟩⟩

theorem guarded_showChallenge (app : AppState) (id : Uuid) :
    Guarded (fun _ op => LookupOp op) (fun h' r => ∀ response, r = .ok response →
      ∃ c, ChallengeStore.Read id c h' ∧ Shows c response) h (showChallenge app id) := by
  have herror : ∀ (h' : History Op Res) (e : ApiError) (response : ShortCodeChallengeResponse),
      (.error e : Except ApiError ShortCodeChallengeResponse) = .ok response →
      ∃ c, ChallengeStore.Read id c h' ∧ Shows c response := by
    intro h' e response hr
    cases hr
  refine ChallengeStore.guarded_get.seq_attempt (fun _ _ _ hop => lookupOp_get hop) ?_
  intro h1 r _ hr
  rcases r with e | _ | cached
  · exact herror h1 _
  · exact herror h1 _
  · refine guarded_await_bind.mpr ⟨trivial, fun now => ?_⟩
    have hread := ChallengeStore.Read.mono (List.suffix_cons ⟨.timestamp, now⟩ h1) hr
    split
    · exact herror _ _
    · refine guarded_ofExcept_bind (fun rpChallenge _ => ?_) fun _ _ => herror _ _
      refine guarded_ofExcept.mpr ?_
      intro response hresponse
      exact ⟨cached, hread, shows_shown hresponse⟩

/-- **A code** leads to the record of the id that its entry names. -/
theorem guarded_byShortCode (app : AppState) (shortCode : String) :
    Guarded (fun _ op => LookupOp op) (fun h' r => ∀ response, r = .ok response →
      app.configBinding = true ∧ isShortCode (normalised shortCode) = true ∧
      ∃ text id c, ⟨.configGet (CreateChallenge.codeKey (normalised shortCode)), .value text⟩ ∈ h' ∧
        parseUuid text = some id ∧ ChallengeStore.Read id c h' ∧ Shows c response)
      h (getChallengeByShortCode app shortCode) := by
  unfold getChallengeByShortCode
  by_cases hcode : isShortCode (normalised shortCode) = false
  · rw [if_pos hcode]
    intro response hr
    cases hr
  · rw [if_neg hcode]
    by_cases hbinding : app.configBinding = false
    · rw [if_pos hbinding]
      intro response hr
      cases hr
    · rw [if_neg hbinding]
      refine guarded_await_bind.mpr ⟨trivial, fun read => ?_⟩
      cases read with
      | value text =>
        dsimp only
        cases hid : parseUuid text with
        | none =>
          intro response hr
          cases hr
        | some id =>
          refine (guarded_showChallenge app id).suffix.imp (fun _ _ hop => hop.2) ?_
          rintro h' r ⟨hsuf, hr⟩ response hresponse
          obtain ⟨c, hread, hshows⟩ := hr response hresponse
          exact ⟨by simpa using hbinding, by simpa using hcode, text, id, c,
            hsuf.subset List.mem_cons_self, hid, hread, hshows⟩
      | missing => exact fun _ hr => (by cases hr)
      | failed => exact fun _ hr => (by cases hr)
      | timedOut => exact fun _ hr => (by cases hr)
      | bindingError => exact fun _ hr => (by cases hr)

/-! ## Lookups over healthy dependencies -/

/-- A record that can be shown: its fields are as a creation makes them. -/
structure Showable (c : CachedChallenge) : Prop where
  valid : c.validate = .ok ()
  cutoffDays : -25000 ≤ c.cutoffDays ∧ c.cutoffDays ≤ 54750
  verifyingKeyId : 0 < c.verifyingKeyId ∧ c.verifyingKeyId < 2 ^ 32

variable {s : State} {id : Uuid} {c : CachedChallenge}

theorem Showable.rpChallenge (hc : Showable c) : c.rpChallenge.length = 32 :=
  (c.validate_iff.mp hc.valid).1

theorem Showable.submitSecret (hc : Showable c) (hne : c.submitSecret ≠ []) :
    c.submitSecret.length = 32 :=
  (c.validate_iff.mp hc.valid).2.1.resolve_left hne

theorem Showable.shown (hc : Showable c) (app : AppState) (rpChallenge : FixedBytes 32) :
    ∃ response, shown app c rpChallenge = .ok response := by
  unfold ChallengeLookup.shown CutoffDays.new VkId.new
  rw [dif_pos hc.cutoffDays]
  dsimp only
  rw [dif_pos hc.verifyingKeyId]
  exact ⟨_, rfl⟩

theorem exactly32_pos {bytes : Bytes} {msg : String} (hlen : bytes.length = 32) :
    exactly32 bytes msg = .ok ⟨bytes, hlen⟩ := dif_pos hlen

/-- **Details** of a live `Pending` record with a secret. -/
theorem alone_details (app : AppState) (hrecord : s.record id = some c)
    (hlive : s.clock < c.expiresAt) (hc : Showable c) (hpending : c.state = .pending)
    (hsecret : c.submitSecret ≠ []) :
    ∃ response, alone app healthy (getChallengeDetails app id) s = (.ok response, s) ∧
      ShowsDetails app c response := by
  obtain ⟨response, hshown⟩ := hc.shown app ⟨c.rpChallenge, hc.rpChallenge⟩
  refine ⟨{ response with submitSecret := ⟨c.submitSecret, hc.submitSecret hsecret⟩ }, ?_,
    ⟨_, rfl, hshown⟩, rfl⟩
  unfold getChallengeDetails
  rw [alone_attempt_bind (alone_get healthy_healthy hrecord hlive hc.valid)]
  dsimp only
  rw [alone_await]
  show alone app healthy (if s.clock > c.expiresAt then _ else _) s = _
  rw [if_neg (Nat.not_lt.mpr hlive.le), if_neg (not_not.mpr hpending),
    alone_ofExcept_bind_ok (exactly32_pos hc.rpChallenge),
    alone_ofExcept_bind_ok (exactly32_pos (hc.submitSecret hsecret)),
    alone_ofExcept_bind_ok hshown]
  rfl

/-- **A code** whose entry names a live record. -/
theorem alone_byShortCode {code text : String} (hbinding : app.configBinding = true)
    (hcode : isShortCode (normalised code) = true)
    (hentry : s.configValue (CreateChallenge.codeKey (normalised code)) = some text)
    (hid : parseUuid text = some id) (hrecord : s.record id = some c)
    (hlive : s.clock < c.expiresAt) (hc : Showable c) :
    ∃ response, alone app healthy (getChallengeByShortCode app code) s = (.ok response, s) ∧
      Shows c response := by
  obtain ⟨response, hshown⟩ := hc.shown app ⟨c.rpChallenge, hc.rpChallenge⟩
  refine ⟨response, ?_, shows_shown hshown⟩
  unfold getChallengeByShortCode
  rw [if_neg (by simp [hcode]), if_neg (by simp [hbinding]), alone_await]
  have hread : perform app s (.configGet (CreateChallenge.codeKey (normalised code)))
      (healthy (.configGet (CreateChallenge.codeKey (normalised code)))) = (.value text, s) := by
    show (KvRead.ofOption (s.configValue _), s) = _
    rw [hentry]
    rfl
  rw [hread]
  dsimp only
  rw [hid]
  dsimp only
  unfold showChallenge
  rw [alone_attempt_bind (alone_get healthy_healthy hrecord hlive hc.valid)]
  dsimp only
  rw [alone_await]
  show alone app healthy (if s.clock > c.expiresAt then _ else _) s = _
  rw [if_neg (Nat.not_lt.mpr hlive.le), alone_ofExcept_bind_ok (exactly32_pos hc.rpChallenge),
    hshown]
  rfl

attribute [irreducible] getChallengeDetails getChallengeByShortCode

end ChallengeLookup

end ProviiVerifier
