/-
  First writer wins on the idempotency objects, over every sequence of requests and alarms.

  A set that is answered with success stores its response until its time to live is over. Until
  then no other act on the object changes the entry, except through a failed read: a check whose
  read fails finds nothing, and a set whose read fails stores over the entry.

  Proved: for `IdempotencyDO` and `HostedIdempotencyDO`, every later check and set for the key
  gets the stored response, and every later act leaves the entry, exactly when the reads of
  those checks and sets work (`first_writer_wins_iff`).
-/
import ProviiVerifier.HostedIdempotencyDO
import ProviiVerifier.Retention.FirstWriter

namespace ProviiVerifier

namespace IdempotencyDO

/-- The body is a request of an allowed size. -/
def wellFormed (body : Body SetRequest) : Bool :=
  body.size ≤ maxIdempotencyBodySize && body.value.isSome

/-- What happens on the object: a check, a set, or an alarm. -/
inductive Act
  | check (f : Faults) (key : String)
  | set (f : Faults) (key : String) (body : Body SetRequest)
  | cleanup (list : Bool) (delete : String → Bool)

/-- An act with its time. -/
structure Step where
  now : Nat
  act : Act

/-- The answer to an act and the storage it leaves. -/
def serve (s : Storage) (st : Step) : Option Reply × Storage :=
  match st.act with
  | .check f key => checkIdempotencyKey s st.now f key
  | .set f key body => setIdempotencyKey s st.now f key body
  | .cleanup list delete => (none, cleanupExpiredEntries s st.now list delete)

/-- A check or a well-formed set for the key whose read fails. -/
def Act.readFails (key : String) : Act → Bool
  | .check f k => k = key && !f.get
  | .set f k body => k = key && wellFormed body && !f.get
  | .cleanup .. => false

/-- The answer to a check or a well-formed set for the key is the entry. -/
def Act.Answered (key : String) (entry : Entry) (reply : Option Reply) : Act → Prop
  | .check _ k => k = key → reply = some (.found entry)
  | .set _ k body => k = key → wellFormed body = true →
    reply = some (.duplicateKey entry.responseBody entry.statusCode)
  | .cleanup .. => True

/-- The object as seen from one key. -/
def register (key : String) : FirstWriter.Register Storage Step (Option Reply) Entry :=
  { now := Step.now
    next := fun s st => (serve s st).2
    answer := fun s st => (serve s st).1
    entry := fun s => s key
    expiry := Entry.expiresAt
    fails := fun st => st.act.readFails key
    right := fun entry st reply => st.act.Answered key entry reply }

/-- A sequence of acts, newest first, in the order of a clock of 64 bits. -/
structure Calls where
  steps : List Step
  ordered : steps.Pairwise fun later earlier => earlier.now ≤ later.now
  inRange : ∀ st ∈ steps, st.now ≤ maxClock

variable {s : Storage} {key : String} {entry : Entry} {st : Step}

theorem wellFormed_iff {body : Body SetRequest} : wellFormed body = true ↔
    body.size ≤ maxIdempotencyBodySize ∧ ∃ req, body.value = some req := by
  unfold wellFormed
  rw [Bool.and_eq_true, decide_eq_true_eq, Option.isSome_iff_exists]

theorem read_live {f : Faults} (hentry : s key = some entry) (hget : f.get = true) :
    read s f key = some entry := by
  unfold read
  rw [if_pos hget, hentry]

theorem read_fails {f : Faults} (hget : f.get = false) : read s f key = none := by
  unfold read
  rw [hget]
  rfl

/-- **An act** that meets a live entry answers with it exactly when its read works. -/
theorem answered_iff (st : Step) (hentry : s key = some entry) (hlive : st.now ≤ entry.expiresAt) :
    st.act.Answered key entry (serve s st).1 ↔ st.act.readFails key = false := by
  obtain ⟨now, act⟩ := st
  cases act with
  | cleanup list delete => exact iff_of_true trivial rfl
  | check f k =>
    simp only [Act.Answered, Act.readFails, serve]
    by_cases hk : k = key
    · subst hk
      cases hget : f.get with
      | true => simp [checkIdempotencyKey_live (read_live hentry hget) hlive]
      | false => simp [checkIdempotencyKey, read_fails hget]
    · simp [hk]
  | set f k body =>
    simp only [Act.Answered, Act.readFails, serve]
    by_cases hk : k = key
    · subst hk
      by_cases hwf : wellFormed body = true
      · obtain ⟨hsize, req, hreq⟩ := wellFormed_iff.mp hwf
        cases hget : f.get with
        | true => simp [setIdempotencyKey_live hsize hreq (read_live hentry hget) hlive]
        | false => simp [hwf, setIdempotencyKey_blind (read_fails hget)]
      · simp [hwf]
    · simp [hk]

/-- **An act** whose read does not fail leaves a live entry. -/
theorem serve_keep (st : Step) (hentry : s key = some entry) (hlive : st.now ≤ entry.expiresAt)
    (hread : st.act.readFails key = false) : (serve s st).2 key = some entry := by
  obtain ⟨now, act⟩ := st
  cases act with
  | cleanup list delete =>
    show (if list then _ else s) key = some entry
    split
    · show (s key).filter _ = some entry
      rw [hentry, prune_live hlive]
    · exact hentry
  | check f k => exact checkIdempotencyKey_keep hentry hlive
  | set f k body =>
    show (setIdempotencyKey s now f k body).2 key = some entry
    by_cases hk : k = key
    · subst hk
      by_cases hwf : wellFormed body = true
      · obtain ⟨hsize, req, hreq⟩ := wellFormed_iff.mp hwf
        have hget : f.get = true := by
          simpa [Act.readFails, hwf] using hread
        rw [setIdempotencyKey_live hsize hreq (read_live hentry hget) hlive]
        exact hentry
      · rw [setIdempotencyKey_malformed ?_]
        · exact hentry
        · by_contra hno
          refine hwf (wellFormed_iff.mpr ⟨Nat.not_lt.mp fun h => hno (.inl h), ?_⟩)
          exact Option.ne_none_iff_exists'.mp fun h => hno (.inr h)
    · exact setIdempotencyKey_keep (Ne.symm hk) hentry hlive

theorem lawful (key : String) {steps : List Step}
    (ordered : steps.Pairwise fun later earlier => earlier.now ≤ later.now) :
    (register key).Lawful steps :=
  { ordered := ordered
    right_iff := fun _ _ _ _ hentry hlive => answered_iff _ hentry hlive
    keep := fun _ _ _ _ hentry hlive hread => serve_keep _ hentry hlive hread }

/-- A set that succeeds puts its entry into the register. -/
theorem serve_written (st : Step) {f : Faults} {body : Body SetRequest} (hnow : st.now ≤ maxClock)
    (hact : st.act = .set f key body) (hok : (serve s st).1 = some (.written true)) :
    ∃ req, body.value = some req ∧ (serve s st).2 key =
      some (req.toEntry st.now (req.ttlSecs.getD defaultIdempotencyTtlSecs)) := by
  unfold serve at hok ⊢
  rw [hact] at hok ⊢
  exact setIdempotencyKey_written hnow hok

theorem le_expiry {now t ttl : Nat} (hcap : now ≤ maxClock) (hlt : now < t + ttl) :
    now ≤ NonceDO.satAdd t ttl := by
  unfold NonceDO.satAdd
  unfold maxClock at hcap
  omega

end IdempotencyDO

namespace HostedIdempotencyDO

open IdempotencyDO (Entry Storage SetRequest Reply)

/-- What happens on the object: a check or a set. -/
inductive Act
  | check (f : Faults) (key : String)
  | set (f : Faults) (key : String) (body : Body SetRequest)

/-- An act with its time. -/
structure Step where
  now : Nat
  act : Act

/-- The answer to an act and the storage it leaves. -/
def serve (s : Storage) (st : Step) : Option Reply × Storage :=
  match st.act with
  | .check f key => checkIdempotencyKey s st.now f key
  | .set f key body => setIdempotencyKey s st.now f key body

/-- The act on `IdempotencyDO` that does the same. -/
def Act.plain : Act → IdempotencyDO.Act
  | .check f key => .check f.withAlarm key
  | .set f key body => .set f.withAlarm key (clamped body)

/-- The object as seen from one key. -/
def register (key : String) : FirstWriter.Register Storage Step (Option Reply) Entry :=
  { now := Step.now
    next := fun s st => (serve s st).2
    answer := fun s st => (serve s st).1
    entry := fun s => s key
    expiry := Entry.expiresAt
    fails := fun st => st.act.plain.readFails key
    right := fun entry st reply => st.act.plain.Answered key entry reply }

/-- A sequence of acts, newest first, in the order of a clock of 64 bits. -/
structure Calls where
  steps : List Step
  ordered : steps.Pairwise fun later earlier => earlier.now ≤ later.now
  inRange : ∀ st ∈ steps, st.now ≤ maxClock

theorem serve_eq (s : Storage) (st : Step) :
    serve s st = IdempotencyDO.serve s ⟨st.now, st.act.plain⟩ := by
  obtain ⟨now, act⟩ := st
  cases act with
  | check f key => rfl
  | set f key body => exact setIdempotencyKey_eq s now f key body

theorem lawful (key : String) {steps : List Step}
    (ordered : steps.Pairwise fun later earlier => earlier.now ≤ later.now) :
    (register key).Lawful steps := by
  refine { ordered := ordered, right_iff := ?_, keep := ?_ }
  · intro st _ s entry hentry hlive
    show st.act.plain.Answered key entry (serve s st).1 ↔ _
    rw [serve_eq]
    exact IdempotencyDO.answered_iff ⟨st.now, st.act.plain⟩ hentry hlive
  · intro st _ s entry hentry hlive hread
    show (serve s st).2 key = some entry
    rw [serve_eq]
    exact IdempotencyDO.serve_keep ⟨st.now, st.act.plain⟩ hentry hlive hread

/-- A set that succeeds puts its entry into the register. -/
theorem serve_written {s : Storage} {st : Step} {f : Faults} {key : String}
    {body : Body SetRequest} (hnow : st.now ≤ maxClock) (hact : st.act = .set f key body)
    (hok : (serve s st).1 = some (.written true)) :
    ∃ req, body.value = some req ∧ (serve s st).2 key =
      some (req.toEntry st.now (clampTtl req.ttlSecs)) := by
  rw [serve_eq] at hok ⊢
  obtain ⟨req, hreq, hs⟩ := IdempotencyDO.serve_written ⟨st.now, st.act.plain⟩ hnow
    (by rw [hact, Act.plain]) hok
  obtain ⟨req', hreq', rfl⟩ := Option.map_eq_some_iff.mp hreq
  exact ⟨req', hreq', hs⟩

end HostedIdempotencyDO

/-! ## Both objects -/

/-- **First writer wins.** After a set that is answered with success, every check and every
well-formed set for its key is answered with the stored response and every act leaves the entry,
until the time to live of the set is over, exactly when the reads of those checks and sets
work. -/
theorem first_writer_wins_iff (key : String) :
    (∀ (s : IdempotencyDO.Storage) (calls : IdempotencyDO.Calls)
      (later old : List IdempotencyDO.Step) (st : IdempotencyDO.Step) (f : IdempotencyDO.Faults)
      (body : Body IdempotencyDO.SetRequest),
      calls.steps = later ++ st :: old → st.act = .set f key body →
      (IdempotencyDO.serve ((IdempotencyDO.register key).after s old) st).1 =
        some (.written true) →
      ∃ req ttl, body.value = some req ∧
        ttl = req.ttlSecs.getD IdempotencyDO.defaultIdempotencyTtlSecs ∧
        ((IdempotencyDO.register key).ProtectedSince s (req.toEntry st.now ttl) (st.now + ttl)
            later (st :: old) ↔
          ∀ a ∈ later, a.now < st.now + ttl → a.act.readFails key = false)) ∧
    ∀ (s : IdempotencyDO.Storage) (calls : HostedIdempotencyDO.Calls)
      (later old : List HostedIdempotencyDO.Step) (st : HostedIdempotencyDO.Step)
      (f : HostedIdempotencyDO.Faults) (body : Body IdempotencyDO.SetRequest),
      calls.steps = later ++ st :: old → st.act = .set f key body →
      (HostedIdempotencyDO.serve ((HostedIdempotencyDO.register key).after s old) st).1 =
        some (.written true) →
      ∃ req ttl, body.value = some req ∧ ttl = HostedIdempotencyDO.clampTtl req.ttlSecs ∧
        ((HostedIdempotencyDO.register key).ProtectedSince s (req.toEntry st.now ttl)
            (st.now + ttl) later (st :: old) ↔
          ∀ a ∈ later, a.now < st.now + ttl → a.act.plain.readFails key = false) := by
  constructor
  · intro s calls later old st f body hsteps hact hok
    have hmem : st ∈ calls.steps := by simp [hsteps]
    obtain ⟨req, hreq, hs⟩ :=
      IdempotencyDO.serve_written st (calls.inRange st hmem) hact hok
    refine ⟨req, _, hreq, rfl, ?_⟩
    have hlawful := IdempotencyDO.lawful key (hsteps ▸ calls.ordered)
    refine hlawful.protectedSince_iff hs fun a ha hlt => ?_
    exact IdempotencyDO.le_expiry (calls.inRange a (by simp [hsteps, ha])) hlt
  · intro s calls later old st f body hsteps hact hok
    have hmem : st ∈ calls.steps := by simp [hsteps]
    obtain ⟨req, hreq, hs⟩ :=
      HostedIdempotencyDO.serve_written (calls.inRange st hmem) hact hok
    refine ⟨req, _, hreq, rfl, ?_⟩
    have hlawful := HostedIdempotencyDO.lawful key (hsteps ▸ calls.ordered)
    refine hlawful.protectedSince_iff hs fun a ha hlt => ?_
    exact IdempotencyDO.le_expiry (calls.inRange a (by simp [hsteps, ha])) hlt

/-- A response with verdict `true` or `false`, to be kept for five minutes. -/
def response (verified : Bool) : IdempotencyDO.SetRequest :=
  { responseBody := if verified then "\x7b\"verified\":true\x7d" else "\x7b\"verified\":false\x7d"
    statusCode := 200
    ttlSecs := some 300
    endpoint := "redeem"
    requestFingerprint := "3a7f" }

/-- A key is set twice within a second and then checked; the flag says whether the read of the
second set works. -/
def setTwiceThenCheck (read : Bool) : IdempotencyDO.Calls :=
  { steps :=
      [⟨1002, .check .none "550e8400-e29b-41d4-a716-446655440000"⟩,
        ⟨1001, .set ⟨read, true, true, true, fun _ => true⟩
          "550e8400-e29b-41d4-a716-446655440000" ⟨150, some (response true)⟩⟩,
        ⟨1000, .set .none "550e8400-e29b-41d4-a716-446655440000" ⟨151, some (response false)⟩⟩]
    ordered := by simp
    inRange := by simp [maxClock] }

/-- When the read works, the first response is protected. -/
theorem first_writer_wins_setTwice :
    (IdempotencyDO.register "550e8400-e29b-41d4-a716-446655440000").ProtectedSince (fun _ => none)
      ((response false).toEntry 1000 300) 1300 ((setTwiceThenCheck true).steps.take 2)
      ((setTwiceThenCheck true).steps.drop 2) := by
  obtain ⟨req, ttl, hreq, rfl, hiff⟩ := (first_writer_wins_iff _).1 (fun _ => none)
    (setTwiceThenCheck true) ((setTwiceThenCheck true).steps.take 2) [] _ _ _ rfl rfl
    (by decide +kernel)
  cases hreq
  refine hiff.mpr fun a ha _ => ?_
  simp only [setTwiceThenCheck, List.take_succ_cons, List.take_zero, List.mem_cons,
    List.not_mem_nil, or_false] at ha
  rcases ha with rfl | rfl <;> simp [IdempotencyDO.Act.readFails, IdempotencyDO.Faults.none]

/-- When it fails, the second set is answered with success and the check finds its response. -/
theorem setTwice_overwrites :
    let register := IdempotencyDO.register "550e8400-e29b-41d4-a716-446655440000"
    let steps := (setTwiceThenCheck false).steps
    (register.answer (register.after (fun _ => none) (steps.drop 2)) <$> steps[1]?) =
        some (some (.written true)) ∧
      (register.answer (register.after (fun _ => none) (steps.drop 1)) <$> steps[0]?) =
        some (some (.found ((response true).toEntry 1001 300))) ∧
      ¬ register.ProtectedSince (fun _ => none) ((response false).toEntry 1000 300) 1300
        (steps.take 2) (steps.drop 2) := by
  intro register steps
  have hsecond : (register.answer (register.after (fun _ => none) (steps.drop 2)) <$> steps[1]?) =
      some (some (.written true)) := by
    decide +kernel
  refine ⟨hsecond, by decide +kernel, ?_⟩
  intro hprotected
  have hright := (hprotected _ [] (List.suffix_cons _ _) (by decide)).1 rfl rfl
  have hok := Option.some.inj hsecond
  cases hok.symm.trans hright

end ProviiVerifier
