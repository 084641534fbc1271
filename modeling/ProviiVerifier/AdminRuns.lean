/-
  Requests to the `/_internal/` routes over runs, with the other writers of the ban list and what
  else takes or sets an isolate's keys: the hosted flow, and the pre-load of the start.

  KV may list and answer as it likes, and the status slots and the secrets change at any time, also
  between an isolate's look for a key and the set of the key that it fetched. The clock is that of
  the service, in seconds.

  Proved: when the requests of one role from one address take turns and KV keeps their counters, at
  most five fail to authenticate in any hour and at most ten are let through to authentication
  (`lockout`); the removal of fixtures only deletes bans of the tests, for a request that
  authenticated, and a nullifier's ban is the one written last (`fixtures_only`); when KV lists
  truthfully, no ban of the tests is left (`fixtures_cleared`); and a probe answers by the keys it
  took, which its isolate holds and keeps unless another key was set first (`probe_tells`).
-/
import ProviiVerifier.InternalAdmin
import ProviiVerifier.Interleaving.Meter

namespace ProviiVerifier

namespace InternalAdmin

open Interleaving Prog
open ExpertCounter (parseCount satSuccU32)
open HostedCounter (Kv maxU32)
open HostedEncryption (KeyCaches Secret)
open EnvelopeEncryption (EncryptedSecret RotationSlot encryptHmacSecret sampleRecord)
open KeyRotation (Mek decodeMek sampleMek sampleIv sampleDek)
open RateLimits (Label)

/-! ## The stores -/

/-- The key that is held in a slot. -/
def held (caches : KeyCaches) : RotationSlot → Option Mek
  | .current => caches.mek
  | .previous => caches.previous

/-- `OnceLock::set`: a key that is held stays. -/
def setOnce (caches : KeyCaches) (slot : RotationSlot) (mek : Mek) : KeyCaches :=
  match slot with
  | .current => { caches with mek := some (caches.mek.getD mek) }
  | .previous => { caches with previous := some (caches.previous.getD mek) }

/-- The secret of a slot. -/
def secretOf (env : HostedEncryption.Env) : RotationSlot → Secret
  | .current => env.hostedMek
  | .previous => env.hostedMekPrevious

/-- The error of the binding of a secret. -/
def bindingError : Secret → Option String
  | .error e => some e
  | .ok _ => none

/-- The stores, and the keys that each isolate keeps. -/
structure State where
  counters : Kv
  endpoint : StatusAuth.Endpoint
  service : ProviiVerifier.State
  bans : BanStore.Kv
  secrets : HostedEncryption.Env
  keys : Nat → KeyCaches

def State.clock (s : State) : Nat := s.service.clock

/-- What the outside world decides at an operation. A read answers the content where nothing else is
decided; a deletion that fails may be done. -/
abbrev Choice : Op → Type
  | .counterGet _ => Option (Option (Option Nat))
  | .counterPut _ _ _ => Bool
  | .service op => ProviiVerifier.Choice op
  | .listBans _ _ => Except String Listing
  | .deleteBan _ => Option (String × Bool)
  | _ => Unit

variable (a : Admin)

def perform (s : State) : (op : Op) → Choice op → Res op × State
  | .now, _ => (s.clock, s)
  | .counterGet key, (answer : Option (Option (Option Nat))) =>
    (answer.getD (some (Expiring.get s.counters s.clock key)), s)
  | .counterPut key count ttlSecs, (stored : Bool) =>
    ((), if stored then
      { s with counters := Expiring.put s.counters s.clock key count ttlSecs } else s)
  | .statusAuth headers, _ => (StatusAuth.authenticateStatusEndpoint s.endpoint headers, s)
  | .service op, c =>
    let r := ProviiVerifier.perform a.app s.service op c
    (r.1, { s with service := r.2 })
  | .mekCache isolate slot, _ => (held (s.keys isolate) slot, s)
  | .mekCacheSet isolate slot mek, _ =>
    ((), { s with keys := Function.update s.keys isolate (setOnce (s.keys isolate) slot mek) })
  | .secretStore slot, _ => (bindingError (secretOf s.secrets slot), s)
  | .secretGet slot attempt, _ => ((secretOf s.secrets slot).bind fun get => get attempt, s)
  | .listBans _ _, (answer : Except String Listing) => (answer, s)
  | .deleteBan key, (failure : Option (String × Bool)) =>
    (failure.map Prod.fst, if (failure.map Prod.snd).getD true then
      { s with bans := Function.update s.bans key none } else s)
  | .writeBan key value, _ => ((), { s with bans := Function.update s.bans key value })

/-- What happens without a request: the service's steps, a new status token, a rotated secret, an
isolate that starts afresh. -/
inductive Env
  | service (e : ProviiVerifier.Env)
  | slots (endpoint : StatusAuth.Endpoint)
  | secrets (env : HostedEncryption.Env)
  | restart (isolate : Nat)

def envStep (s : State) : Env → State
  | .service e => { s with service := ProviiVerifier.envStep a.app s.service e }
  | .slots endpoint => { s with endpoint := endpoint }
  | .secrets env => { s with secrets := env }
  | .restart isolate => { s with keys := Function.update s.keys isolate ⟨none, none⟩ }

abbrev worker : Machine Op Res :=
  { State := State
    Choice := Choice
    Env := Env
    perform := perform a
    envStep := envStep a }

/-- What arrives: a request to a route, another writer of the ban list, a call of the hosted flow
that takes a key of its isolate, or one of the two pre-loads that a starting isolate joins. -/
inductive Request
  | admin (r : AdminRequest)
  | writeBan (key : String) (value : Option String)
  | takeHosted (isolate : Nat) (slot : RotationSlot)
  | preload (isolate : Nat) (slot : RotationSlot)

def handle : Request → Handling Refusal (Option Answer)
  | .admin r => serve a r >>= fun answer => .ret (some answer)
  | .writeBan key value => await (.writeBan key value) >>= fun _ => .ret none
  | .takeHosted isolate slot => attempt (takeHosted a isolate slot) >>= fun _ => .ret none
  | .preload isolate slot => attempt (preloadHostedMek a isolate slot) >>= fun _ => .ret none

/-- What a request has done when it takes a step. -/
def Steps : Request → History Op Res → Op → Prop
  | .admin r, h, op => Guards a r h op
  | .writeBan key value, _, op => op = .writeBan key value
  | .takeHosted isolate _, h, op | .preload isolate _, h, op => TakesKey isolate h op

/-- What a request has done when it ends. -/
def Outcomes : Request → History Op Res → Except Refusal (Option Answer) → Prop
  | .admin r, h, res => ∃ res', Ends a r h res' ∧ res = res'.map some
  | .writeBan _ _, _, res | .takeHosted _ _, _, res | .preload _ _, _, res => res = .ok none

theorem guarded_handle (req : Request) :
    (handle a req).Guarded (Steps a req) (Outcomes a req) [] := by
  cases req with
  | admin r => exact (guarded_serve a r).wrap some
  | writeBan key value => exact guarded_await_bind.mpr ⟨rfl, fun _ => rfl⟩
  | takeHosted isolate slot =>
    refine guarded_bind.mpr (guarded_attempt.mpr ?_)
    exact guarded_takeHosted.imp (fun _ _ hop => hop) fun _ _ _ => rfl
  | preload isolate slot =>
    refine guarded_bind.mpr (guarded_attempt.mpr ?_)
    exact guarded_preloadHostedMek.imp (fun _ _ hop => hop) fun _ _ _ => rfl

theorem forward_clock : Forward (worker a) State.clock := by
  constructor
  · intro s op c
    cases op with
    | counterPut key count ttlSecs =>
      show s.clock ≤ (if (c : Bool) then _ else s : State).clock
      split
      · exact Nat.le_refl _
      · exact Nat.le_refl _
    | service op => exact Nat.le_of_eq (perform_opStep c).clock.symm
    | deleteBan key =>
      show s.clock ≤ (if _ then _ else s : State).clock
      split
      · exact Nat.le_refl _
      · exact Nat.le_refl _
    | _ => exact Nat.le_refl _
  · intro s e
    cases e with
    | service e => exact (envStep_envStep e : ProviiVerifier.EnvStep a.app s.service _).clock_le
    | _ => exact Nat.le_refl _

/-! ## The lockout -/

section Lockout

/-- The requests of a role from an address. -/
def Of (roleTag : String) (ip : Label) : Request → Prop
  | .admin r => r.route.roleTag = roleTag ∧ (ipHash a r).text = ip.text
  | _ => False

instance (roleTag : String) (ip : Label) : DecidablePred (Of a roleTag ip)
  | .admin r =>
    inferInstanceAs (Decidable (r.route.roleTag = roleTag ∧ (ipHash a r).text = ip.text))
  | .writeBan _ _ | .takeHosted _ _ | .preload _ _ => isFalse id

/-- The counters are read and written as they should. -/
def Kept : (op : Op) → Choice op → Prop
  | .counterGet _, (answer : Option (Option (Option Nat))) => answer = none
  | .counterPut _ _ _, (stored : Bool) => stored = true
  | _, _ => True

/-- The requests of a role from an address take turns, and KV keeps the counters. -/
def takingTurns (roleTag : String) (ip : Label) : Rules (worker a) Request :=
  { arrive := fun _ _ _ => True
    call := fun w i op c => Kept op c ∧ InTurn (Of a roleTag ip) i w.trace
    env := fun _ _ => True }

instance (key : String) : DecidablePred (Puts key)
  | .counterPut k count ttl => decidable_of_iff (k = key) <| by
      constructor
      · rintro rfl
        exact ⟨count, ttl, rfl⟩
      · rintro ⟨count', ttl', heq⟩
        injection heq
  | .now | .counterGet _ | .statusAuth _ | .service _ | .mekCache _ _ | .mekCacheSet _ _ _
  | .secretStore _ | .secretGet _ _ | .listBans _ _ | .deleteBan _ | .writeBan _ _ =>
    isFalse (by rintro ⟨_, _, heq⟩; cases heq)

/-- The counter under a key. -/
def counter (key : String) : Counter (worker a) :=
  { clock := State.clock
    held := fun s t => countIn (some (Expiring.get s.counters t key))
    seen := fun
      | ⟨.counterGet k, read⟩ => if k = key then some (countIn read) else none
      | _ => none
    adds := Puts key
    decAdds := inferInstance }

variable {a} {roleTag : String} {ip : Label} {key : String} {limit ttl : Nat}
  {init : State → Prop} {p : Pool (worker a) Request Refusal (Option Answer)}
  {r : AdminRequest} {h : History Op Res} {op : Op}

theorem lockKey_eq {roleTag' : String} {ip' : Label}
    (heq : lockKey roleTag ip = lockKey roleTag' ip') :
    roleTag = roleTag' ∧ ip.text = ip'.text := by
  have hlist := congrArg String.toList heq
  unfold lockKey at hlist
  simp only [String.toList_append, List.append_assoc] at hlist
  have hlist := List.append_cancel_left hlist
  obtain ⟨hrole, hip⟩ := Splitting.separated_last ip.plain ip'.plain hlist
  exact ⟨String.toList_inj.mp hrole, String.toList_inj.mp hip⟩

theorem hourKey_eq {roleTag' : String} {ip' : Label} {hour hour' : Nat}
    (heq : hourKey roleTag ip hour = hourKey roleTag' ip' hour') :
    roleTag = roleTag' ∧ ip.text = ip'.text ∧ hour = hour' := by
  have hlist := congrArg String.toList heq
  unfold hourKey at hlist
  simp only [String.toList_append, List.append_assoc] at hlist
  have hlist := List.append_cancel_left hlist
  have hlist : (roleTag.toList ++ ':' :: ip.text.toList) ++ ':' :: (toString hour).toList =
      (roleTag'.toList ++ ':' :: ip'.text.toList) ++ ':' :: (toString hour').toList := by
    simpa using hlist
  have hplain : ∀ n : Nat, ':' ∉ (toString n).toList := fun n => Decimal.not_mem_repr (by decide)
  obtain ⟨hwho, hhour⟩ := Splitting.separated_last (hplain hour) (hplain hour') hlist
  obtain ⟨hrole, hip⟩ := Splitting.separated_last ip.plain ip'.plain hwho
  exact ⟨String.toList_inj.mp hrole, String.toList_inj.mp hip, Decimal.repr_inj hhour⟩

theorem parseCount_satSucc (n : Nat) : parseCount (satSuccU32 n) = satSuccU32 n := by
  unfold parseCount satSuccU32
  rw [if_pos (Nat.min_le_right _ _)]

theorem min_le_satSucc {n : Nat} (hlimit : limit ≤ maxU32) : min (n + 1) limit ≤ satSuccU32 n := by
  unfold satSuccU32
  omega

/-- What is no write of a counter leaves it as it is. -/
theorem held_of_not_puts {s : State} {c : Choice op} {t : Nat} (hop : ¬ Puts key op) :
    (counter (a := a) key).held (perform a s op c).2 t = (counter (a := a) key).held s t := by
  cases op with
  | counterPut k count t' =>
    have hne : key ≠ k := fun heq => hop ⟨count, t', heq ▸ rfl⟩
    show countIn (some (Expiring.get (if (c : Bool) then _ else s : State).counters t key)) = _
    split
    · show countIn (some (Expiring.get (Expiring.put s.counters s.clock k count t') t key)) = _
      unfold Expiring.get
      rw [Expiring.put_ne hne]
      rfl
    · rfl
  | deleteBan k =>
    show countIn (some (Expiring.get (if _ then _ else s : State).counters t key)) = _
    split
    · rfl
    · rfl
  | _ => rfl

/-- A read of a counter that KV keeps answers what is held. -/
theorem held_of_seen {s : State} {c : Choice op} {n : Nat} (hkept : Kept op c)
    (hseen : (counter (a := a) key).seen ⟨op, (perform a s op c).1⟩ = some n) :
    n = (counter (a := a) key).held s s.clock := by
  cases op with
  | counterGet k =>
    have hcontent : c = none := hkept
    subst hcontent
    have hseen : (if k = key then some (countIn (some (Expiring.get s.counters s.clock k)))
      else none) = some n := hseen
    split at hseen
    · next heq =>
      injection hseen with hseen
      rw [← hseen, heq]
      rfl
    · cases hseen
  | _ => cases hseen

/-- What a counter holds after a write that KV keeps, until its time to live is over. -/
theorem held_put {s : State} {count t now : Nat} {c : Choice (.counterPut key count t)}
    (hkept : Kept (.counterPut key count t) c) (hnow : now < s.clock + t) :
    (counter (a := a) key).held (perform a s (.counterPut key count t) c).2 now =
      parseCount count := by
  have hstored : c = true := hkept
  subst hstored
  have hget : Expiring.get (Expiring.put s.counters s.clock key count t) now key = some count :=
    Expiring.get_eq_some.mpr ⟨_, Expiring.put_self, hnow⟩
  show countIn (some (Expiring.get (Expiring.put s.counters s.clock key count t) now key)) = _
  rw [hget]
  rfl

/-- **A counter of theirs limits them**: they write it when it is below the limit, and nobody else
does. -/
theorem counter_meter (hlimit : limit ≤ maxU32)
    (hputs : ∀ r h count t, Guards a r h (.counterPut key count t) →
      Of a roleTag ip (.admin r) ∧ Metered key limit h count ∧ ttl ≤ t) :
    Meter (counter (a := a) key) (handle a) (takingTurns a roleTag ip) (Steps a)
      (Of a roleTag ip) limit ttl where
  forward := forward_clock a
  env := fun s e t => by cases e <;> rfl
  other := fun _ _ _ _ hop => held_of_not_puts hop
  read := fun _ _ _ _ _ hR hseen => held_of_seen hR.1 hseen
  turn := by
    rintro w i op c req ⟨-, hturn⟩ ⟨count, t, rfl⟩ harrive hguard
    cases req with
    | admin r => exact hturn _ harrive (hputs r _ count t hguard).1
    | _ => cases hguard
  below := by
    rintro req h op ⟨count, t, rfl⟩ hguard
    cases req with
    | admin r =>
      obtain ⟨-, hmetered, -⟩ := hputs r h count t hguard
      obtain ⟨stored, hstored, hbelow⟩ := hmetered.below
      exact ⟨⟨_, hstored, _, if_pos rfl, hbelow⟩, hmetered.first⟩
    | _ => cases hguard
  add := by
    rintro w i op c req ⟨hkept, -⟩ ⟨count, t, rfl⟩ hguard
    cases req with
    | admin r =>
      obtain ⟨-, hmetered, httl⟩ := hputs r _ count t hguard
      obtain ⟨read, hread, hcount⟩ := hmetered.counted
      refine ⟨_, hread, countIn read, if_pos rfl, fun now hnow => ?_⟩
      have hnow : now < w.state.clock + ttl := hnow
      rw [held_put hkept (by omega), hcount, parseCount_satSucc]
      exact min_le_satSucc hlimit
    | _ => cases hguard

theorem hourKey_of {hour : Nat} (hof : Of a roleTag ip (.admin r)) :
    hourKey r.route.roleTag (ipHash a r) hour = hourKey roleTag ip hour := by
  obtain ⟨hrole, hip⟩ := hof
  unfold hourKey
  rw [hrole, hip]

theorem lockKeyOf_of (hof : Of a roleTag ip (.admin r)) : lockKeyOf a r = lockKey roleTag ip := by
  obtain ⟨hrole, hip⟩ := hof
  unfold lockKeyOf lockKey
  rw [hrole, hip]

/-- What a request did before it asked to be authenticated. -/
theorem counted_of_asked {R : Rules (worker a) Request} (hr : Run (handle a) R init p) {i : Nat}
    (harrive : .arrive i (.admin r) ∈ p.world.trace) {headers : StatusAuth.HeaderSource}
    {outcome : Except ApiError StatusAuth.StatusAuthOutcome}
    (hasked : ⟨.statusAuth headers, outcome⟩ ∈ own i p.world.trace) :
    Counted a r (own i p.world.trace) := by
  obtain ⟨s, c, hcall, -⟩ := mem_own.mp hasked
  obtain ⟨new, old, ht⟩ := List.append_of_mem hcall
  obtain ⟨-, -, req, harrive', hguard⟩ := hr.call_event (guarded_handle a) ht
  have hsuffix : old <:+ p.world.trace := ht ▸ (List.suffix_cons _ old).trans
    (List.suffix_append new _)
  cases hr.arrive_unique harrive (hsuffix.subset harrive')
  obtain ⟨hour, count, hput⟩ := hguard
  exact ⟨hour, count, (own_mono hsuffix).subset hput⟩

variable (a) in
/-- **The lockout.** When the requests of a role from an address take turns, and KV keeps their
counters: in any hour at most five of them fail to authenticate, and of those of one hour at most
ten are let through to authentication. A request that asks to be authenticated has been counted, and
one that fails has been counted again. -/
theorem lockout (roleTag : String) (ip : Label)
    (hr : Run (handle a) (takingTurns a roleTag ip) init p) :
    (∀ start, within start adminLockoutTtlSecs
      ((counter a (lockKey roleTag ip)).added p.world.trace) ≤ adminLockoutThreshold) ∧
    (∀ hour start, within start 7200
      ((counter a (hourKey roleTag ip hour)).added p.world.trace) ≤ adminRlLimitPerHour) ∧
    ∀ i r, .arrive i (.admin r) ∈ p.world.trace → Of a roleTag ip (.admin r) →
      (∀ headers outcome, ⟨.statusAuth headers, outcome⟩ ∈ own i p.world.trace →
        ∃ hour count, ⟨.counterPut (hourKey roleTag ip hour) count 7200, ()⟩ ∈
          own i p.world.trace) ∧
      ∀ e, p.outcome i = some (.error (.unauthenticated e)) →
        ∃ count, ⟨.counterPut (lockKey roleTag ip) count adminLockoutTtlSecs, ()⟩ ∈
          own i p.world.trace := by
  have hlock : Meter (counter a (lockKey roleTag ip)) (handle a) (takingTurns a roleTag ip)
      (Steps a) (Of a roleTag ip) adminLockoutThreshold adminLockoutTtlSecs := by
    refine counter_meter (by decide) ?_
    rintro r h count t (⟨hour, hkey, -, -⟩ | ⟨hkey, hmetered, ht⟩)
    · exact absurd hkey.symm hourKey_ne_lockKey
    · obtain ⟨hrole, hip⟩ := lockKey_eq hkey
      exact ⟨⟨hrole.symm, hip.symm⟩, hmetered, Nat.le_of_eq ht.symm⟩
  have hhour : ∀ hour, Meter (counter a (hourKey roleTag ip hour)) (handle a)
      (takingTurns a roleTag ip) (Steps a) (Of a roleTag ip) adminRlLimitPerHour 7200 := by
    intro hour
    refine counter_meter (by decide) ?_
    rintro r h count t (⟨hour', hkey, hmetered, ht⟩ | ⟨hkey, -, -⟩)
    · obtain ⟨hrole, hip, -⟩ := hourKey_eq hkey
      exact ⟨⟨hrole.symm, hip.symm⟩, hmetered, Nat.le_of_eq ht.symm⟩
    · exact absurd hkey hourKey_ne_lockKey
  refine ⟨hlock.added_le (guarded_handle a) hr,
    fun hour => (hhour hour).added_le (guarded_handle a) hr, ?_⟩
  intro i r harrive hof
  constructor
  · intro headers outcome hasked
    obtain ⟨hour, count, hput⟩ := counted_of_asked hr harrive hasked
    rw [hourKey_of hof] at hput
    exact ⟨hour, count, hput⟩
  · intro e houtcome
    obtain ⟨req, harrive', hends⟩ := hr.outcome (guarded_handle a) houtcome
    cases hr.arrive_unique harrive harrive'
    obtain ⟨res, hends, hres⟩ := hends
    rcases res with refusal | answer
    · injection hres with hres
      rw [← hres] at hends
      obtain ⟨count, hput⟩ := hends
      rw [lockKeyOf_of hof] at hput
      exact ⟨count, hput⟩
    · cases hres

end Lockout

/-! ## The fixtures -/

section Fixtures

variable {a} {R : Rules (worker a) Request} {init : State → Prop}
  {p : Pool (worker a) Request Refusal (Option Answer)} {r : AdminRequest} {i : Nat}
  {key : String} {s : State} {op : Op} {c : Choice op}

/-- What changes a ban. -/
theorem bans_changed (h : (perform a s op c).2.bans key ≠ s.bans key) :
    op = .deleteBan key ∨ ∃ value, op = .writeBan key value := by
  have hupdate : ∀ {k : String} {value : Option String},
      Function.update s.bans k value key ≠ s.bans key → k = key := by
    intro k value hne
    by_contra hk
    exact hne (Function.update_of_ne (Ne.symm hk) value s.bans)
  cases op with
  | writeBan k value => exact .inr ⟨value, by rw [hupdate h]⟩
  | deleteBan k =>
    have h : (if _ then _ else s : State).bans key ≠ s.bans key := h
    split at h
    · exact .inl (by rw [hupdate h])
    · exact absurd rfl h
  | counterPut k count ttlSecs =>
    have h : (if (c : Bool) then _ else s : State).bans key ≠ s.bans key := h
    split at h <;> exact absurd rfl h
  | _ => exact absurd rfl h

/-- What a ban comes from. -/
theorem written_of_banned (hbefore : s.bans key = none)
    (hafter : (perform a s op c).2.bans key ≠ none) : ∃ value, op = .writeBan key value := by
  rcases bans_changed fun heq => hafter (heq.trans hbefore) with rfl | hwritten
  · have hafter : (if _ then { s with bans := Function.update s.bans key none } else s :
        State).bans key ≠ none := hafter
    split at hafter
    · exact absurd (Function.update_self ..) hafter
    · exact absurd hbefore hafter
  · exact hwritten

/-- **Each deletion** is of a ban of the tests, for a request that authenticated. -/
theorem deleted_of_call (hr : Run (handle a) R init p) {new old : List (Event (worker a) Request)}
    {c : Choice (.deleteBan key)}
    (ht : p.world.trace = new ++ .call i s (.deleteBan key) c :: old) :
    startsWith key banTestPrefix = true ∧ ∃ r, .arrive i (.admin r) ∈ old ∧
      r.route = .deleteTestFixtures "bans" ∧ Authenticated r (own i old) := by
  obtain ⟨-, -, req, harrive, hguard⟩ := hr.call_event (guarded_handle a) ht
  cases req with
  | admin r =>
    obtain ⟨hkey, hroute, hauth⟩ := hguard
    exact ⟨hkey, r, harrive, hroute, hauth⟩
  | _ => cases hguard

/-- No nullifier is banned under a key of the tests. -/
theorem makeKey_not_test (nullifier : BanStore.Nullifier) :
    startsWith (BanStore.makeKey nullifier) banTestPrefix ≠ true := by
  intro hstart
  obtain ⟨rest, hrest⟩ := RateLimits.toList_of_startsWith hstart
  unfold BanStore.makeKey banTestPrefix at hrest
  have hrest : "ban:".toList ++ Base64Url.encode nullifier.val =
      "ban:".toList ++ ("test:".toList ++ rest) := by simpa using hrest
  have hcolon : ':' ∈ Base64Url.encode nullifier.val := by
    rw [List.append_cancel_left hrest]
    simp
  exact absurd (Base64Url.mem_encode _ _ hcolon) (by decide)

/-- The key was written since a request arrived. -/
def WrittenSince (key : String) (i : Nat) (tr : List (Event (worker a) Request)) : Prop :=
  ∃ new old j s value c req, tr = new ++ .call j s (.writeBan key value) c :: old ∧
    .arrive i req ∈ old

/-- **Fixtures only.** In every run, whatever KV lists and answers: a ban is deleted only when it is
of the tests, and for a request to delete them that authenticated; the ban of a nullifier is the one
that was written last. -/
theorem fixtures_only (hr : Run (handle a) R init p) :
    (∀ i s key c, .call i s (.deleteBan key) c ∈ p.world.trace →
      startsWith key banTestPrefix = true ∧ ∃ r, .arrive i (.admin r) ∈ p.world.trace ∧
        r.route = .deleteTestFixtures "bans" ∧ Authenticated r (own i p.world.trace)) ∧
    ∀ nullifier new old j s value c, p.world.trace =
        new ++ .call j s (.writeBan (BanStore.makeKey nullifier) value) c :: old →
      (∀ j s value c, .call j s (.writeBan (BanStore.makeKey nullifier) value) c ∉ new) →
      BanStore.readBan p.world.state.bans none nullifier = .ok value := by
  constructor
  · intro i s key c hcall
    obtain ⟨new, old, ht⟩ := List.append_of_mem hcall
    obtain ⟨hkey, r, harrive, hroute, hauth⟩ := deleted_of_call hr ht
    have hsuffix : old <:+ p.world.trace := ht ▸ (List.suffix_cons _ old).trans
      (List.suffix_append new _)
    exact ⟨hkey, r, hsuffix.subset harrive, hroute, hauth.mono (own_mono hsuffix)⟩
  · intro nullifier new old j s value c ht hlast
    have hwritten : (perform a s (.writeBan (BanStore.makeKey nullifier) value) c).2.bans
        (BanStore.makeKey nullifier) = value := Function.update_self ..
    have henv : ∀ (s : State) (e : Env), s.bans (BanStore.makeKey nullifier) = value →
        (envStep a s e).bans (BanStore.makeKey nullifier) = value := by
      intro s e h
      cases e <;> exact h
    rcases hr.since henv ht hwritten with hnow | ⟨newer, older, k, s', op, c', rfl, hheld, hbroken⟩
    · exact congrArg Except.ok hnow
    · have hchanged : (perform a s' op c').2.bans (BanStore.makeKey nullifier) ≠
          s'.bans (BanStore.makeKey nullifier) := fun heq => hbroken (heq.trans hheld)
      rcases bans_changed hchanged with rfl | ⟨value', rfl⟩
      · have ht : p.world.trace = newer ++
            .call k s' (.deleteBan (BanStore.makeKey nullifier)) c' ::
              (older ++ .call j s (.writeBan (BanStore.makeKey nullifier) value) c :: old) := by
          rw [ht, List.append_assoc, List.cons_append]
        exact absurd (deleted_of_call hr ht).1 (makeKey_not_test nullifier)
      · exact absurd (List.mem_append_right _ List.mem_cons_self) (hlast k s' value' c')

/-- **A listing is truthful**: each ban under the prefix that its cursor has not passed is on the
page, or there is another page, whose cursor has not passed it either. -/
def Lists (passed : String → String → Prop) (s : State) (keyPrefix : String)
    (cursor : Option String) (page : Listing) : Prop :=
  ∀ key, s.bans key ≠ none → startsWith key keyPrefix = true →
    (∀ at', cursor = some at' → ¬ passed at' key) →
    key ∈ page.keys ∨
      page.listComplete = false ∧ ∃ next, page.cursor = some next ∧ ¬ passed next key

def ListsTruly (passed : String → String → Prop) (s : State) : (op : Op) → Choice op → Prop
  | .listBans keyPrefix cursor, (answer : Except String Listing) =>
    ∀ page, answer = .ok page → Lists passed s keyPrefix cursor page
  | _, _ => True

/-- KV lists truthfully. -/
def listingTruly (a : Admin) (passed : String → String → Prop) : Rules (worker a) Request :=
  { arrive := fun _ _ _ => True
    call := fun w _ op c => ListsTruly passed w.state op c
    env := fun _ _ => True }

/-- A ban that is gone stays so until it is written. -/
theorem gone_or_written (hr : Run (handle a) R init p) {new old : List (Event (worker a) Request)}
    {i : Nat} {op : Op} {c : Choice op} {req : Request}
    (ht : p.world.trace = new ++ .call i s op c :: old)
    (harrive : .arrive i req ∈ old) (hgone : (perform a s op c).2.bans key = none) :
    p.world.state.bans key = none ∨ WrittenSince key i p.world.trace := by
  have henv : ∀ (s : State) (e : Env), s.bans key = none → (envStep a s e).bans key = none := by
    intro s e h
    cases e <;> exact h
  rcases hr.since henv ht hgone with hnow | ⟨newer, older, j, s', op', c', rfl, hnone, hbroken⟩
  · exact .inl hnow
  · obtain ⟨value, rfl⟩ := written_of_banned hnone hbroken
    refine .inr ⟨newer, older ++ .call i s op c :: old, j, s', value, c', req, ?_, ?_⟩
    · rw [ht, List.append_assoc, List.cons_append]
    · exact List.mem_append_right _ (List.mem_cons_of_mem _ harrive)

/-- **The pages**: what was there all along is on one of them, and deleted. -/
theorem deleted_of_swept {passed : String → String → Prop}
    (hr : Run (handle a) (listingTruly a passed) init p)
    (hkey : startsWith key banTestPrefix = true)
    (hnot : ¬ (p.world.state.bans key = none ∨ WrittenSince key i p.world.trace))
    {cursor : Option String} (hswept : Swept (own i p.world.trace) cursor)
    (hahead : ∀ at', cursor = some at' → ¬ passed at' key) : False := by
  -- the ban is on the page, or ahead of the next cursor
  have hpage : ∀ {cursor : Option String} {page : Listing},
      PageDone (own i p.world.trace) cursor page →
      (∀ at', cursor = some at' → ¬ passed at' key) →
      page.listComplete = false ∧ ∃ next, page.cursor = some next ∧ ¬ passed next key := by
    rintro cursor page ⟨later, past, hown, hdeleted⟩ hahead
    have hlisted : ⟨.listBans banTestPrefix cursor, .ok page⟩ ∈ own i p.world.trace := by
      rw [hown]
      exact List.mem_append_right _ List.mem_cons_self
    obtain ⟨s, c, hcall, hres⟩ := mem_own.mp hlisted
    obtain ⟨new, old, ht⟩ := List.append_of_mem hcall
    obtain ⟨-, htrue, req, harrive, -⟩ := hr.call_event (guarded_handle a) ht
    have hthere : s.bans key ≠ none := by
      intro hgone
      exact hnot (gone_or_written hr ht harrive hgone)
    rcases htrue page hres key hthere hkey hahead with hon | hnext
    · have hgone : ⟨.deleteBan key, none⟩ ∈ own i p.world.trace := by
        rw [hown]
        exact List.mem_append_left _ (hdeleted key hon hkey)
      obtain ⟨s', c', hcall', hres'⟩ := mem_own.mp hgone
      obtain ⟨new', old', ht'⟩ := List.append_of_mem hcall'
      obtain ⟨-, -, req', harrive', -⟩ := hr.call_event (guarded_handle a) ht'
      have hnone : c' = none := Option.map_eq_none_iff.mp hres'
      subst hnone
      exact absurd (gone_or_written hr ht' harrive' (Function.update_self ..)) hnot
    · exact hnext
  induction hswept with
  | last hdone hlast =>
    obtain ⟨hmore, next, hnext, -⟩ := hpage hdone hahead
    rcases hlast with hcomplete | hnone
    · rw [hcomplete] at hmore
      cases hmore
    · rw [hnext] at hnone
      cases hnone
  | more hdone hcursor _ ih =>
    obtain ⟨-, next, hnext, hpassed⟩ := hpage hdone hahead
    rw [hcursor] at hnext
    injection hnext with hnext
    subst hnext
    refine ih fun at' hat => ?_
    injection hat with hat
    rw [← hat]
    exact hpassed

/-- **Fixtures cleared.** When KV lists truthfully, a removal of fixtures that is answered has left
no ban of the tests but what was written since it arrived. -/
theorem fixtures_cleared {passed : String → String → Prop}
    (hr : Run (handle a) (listingTruly a passed) init p)
    (harrive : .arrive i (.admin r) ∈ p.world.trace) {deleted : Nat}
    (hout : p.outcome i = some (.ok (some (.cleared deleted))))
    (hkey : startsWith key banTestPrefix = true) :
    p.world.state.bans key = none ∨ WrittenSince key i p.world.trace := by
  obtain ⟨req, harrive', hends⟩ := hr.outcome (guarded_handle a) hout
  cases hr.arrive_unique harrive harrive'
  obtain ⟨res, hends, hres⟩ := hends
  rcases res with refusal | answer
  · cases hres
  · injection hres with hres
    injection hres with hres
    rw [← hres] at hends
    obtain ⟨-, -, hswept⟩ := hends
    by_contra hnot
    exact deleted_of_swept hr hkey hnot hswept nofun

end Fixtures

/-! ## The probe -/

section Probe

variable {a} {init : State → Prop} {p : Pool (worker a) Request Refusal (Option Answer)}
  {r : AdminRequest} {i isolate : Nat} {envelope : EncryptedSecret}
  {draws : EnvelopeEncryption.Draws} {plaintext mek key : Bytes}

/-- An envelope decrypts under the key it was made with, and no other. -/
theorem decrypt_encrypted (h : encryptHmacSecret a.aead draws plaintext mek = .ok envelope) :
    decryptHmacSecret a envelope mek = .ok plaintext ∧
      ∀ key, key ≠ mek → ∃ e, decryptHmacSecret a envelope key = .error e := by
  obtain ⟨dek, hdek, hsecret⟩ := EnvelopeEncryption.encryptHmacSecret_ok h
  have hunder := EnvelopeEncryption.plaintextOf_of_isEncryption hdek
  have hplain := EnvelopeEncryption.plaintextOf_of_isEncryption hsecret
  constructor
  · have hcurrent :
        EnvelopeEncryption.DekUnder a.aead envelope.encryptedDek mek none dek .current := hunder
    exact congrArg Prod.fst (EnvelopeEncryption.decrypt_eq hcurrent hplain a.refusal none)
  · intro key hne
    obtain ⟨e, hdecrypt, -⟩ | ⟨slot, dek', hunder', -⟩ :=
      EnvelopeEncryption.decrypt_cases a.aead a.refusal envelope key none none
    · exact ⟨e, congrArg Prod.fst hdecrypt⟩
    · cases slot with
      | current =>
        have hnone := EnvelopeEncryption.plaintextOf_none hunder (Ne.symm hne)
        exact absurd (hnone.symm.trans hunder') (by simp)
      | previous =>
        obtain ⟨-, old, hold, -⟩ := hunder'
        cases hold

/-- An isolate does not start afresh. -/
def staying (a : Admin) (isolate : Nat) : Rules (worker a) Request :=
  { arrive := fun _ _ _ => True
    call := fun _ _ _ _ => True
    env := fun _ e => e ≠ .restart isolate }

theorem setOnce_kept (caches : KeyCaches) (slot : RotationSlot) (key : Mek) :
    HostedEncryption.Kept caches (setOnce caches slot key) := by
  cases slot with
  | current =>
    refine ⟨fun mek hmek => ?_, fun _ h => h⟩
    show some (caches.mek.getD key) = some mek
    rw [hmek]
    rfl
  | previous =>
    refine ⟨fun _ h => h, fun mek hmek => ?_⟩
    show some (caches.previous.getD key) = some mek
    rw [hmek]
    rfl

theorem held_of_kept {caches caches' : KeyCaches} {slot : RotationSlot} {key : Mek}
    (hkept : HostedEncryption.Kept caches caches') (hheld : held caches slot = some key) :
    held caches' slot = some key := by
  cases slot with
  | current => exact hkept.mek key hheld
  | previous => exact hkept.previous key hheld

/-- What a slot holds that held nothing is the key that was set. -/
theorem held_setOnce {caches : KeyCaches} {slot slot' : RotationSlot} {key other : Mek}
    (hnone : held caches slot = none) (hheld : held (setOnce caches slot' key) slot = some other) :
    slot' = slot ∧ key = other := by
  cases slot with
  | current =>
    cases slot' with
    | current =>
      have hnone : caches.mek = none := hnone
      have hheld : some (caches.mek.getD key) = some other := hheld
      rw [hnone] at hheld
      exact ⟨rfl, Option.some.inj hheld⟩
    | previous => exact absurd (hnone.symm.trans hheld) nofun
  | previous =>
    cases slot' with
    | current => exact absurd (hnone.symm.trans hheld) nofun
    | previous =>
      have hnone : caches.previous = none := hnone
      have hheld : some (caches.previous.getD key) = some other := hheld
      rw [hnone] at hheld
      exact ⟨rfl, Option.some.inj hheld⟩

theorem held_of_set {caches : KeyCaches} {slot : RotationSlot} {key : Mek} :
    ∃ other, held (setOnce caches slot key) slot = some other := by
  cases slot with
  | current => exact ⟨_, rfl⟩
  | previous => exact ⟨_, rfl⟩

variable (isolate) in
/-- An operation leaves the keys of an isolate, or sets one of them. -/
theorem keys_step (s : State) (op : Op) (c : Choice op) :
    (perform a s op c).2.keys isolate = s.keys isolate ∨ ∃ slot key,
      op = .mekCacheSet isolate slot key ∧
        (perform a s op c).2.keys isolate = setOnce (s.keys isolate) slot key := by
  cases op with
  | mekCacheSet n slot key =>
    by_cases hn : isolate = n
    · subst hn
      exact .inr ⟨slot, key, rfl, Function.update_self ..⟩
    · exact .inl (Function.update_of_ne hn ..)
  | counterPut k count ttlSecs =>
    left
    show (if (c : Bool) then _ else s : State).keys isolate = _
    split <;> rfl
  | deleteBan k =>
    left
    show (if _ then _ else s : State).keys isolate = _
    split <;> rfl
  | _ => exact .inl rfl

theorem keys_kept (s : State) (op : Op) (c : Choice op) :
    HostedEncryption.Kept (s.keys isolate) ((perform a s op c).2.keys isolate) := by
  rcases keys_step isolate s op c with hsame | ⟨slot, key, -, hset⟩
  · rw [hsame]
    exact .refl _
  · rw [hset]
    exact setOnce_kept _ slot key

/-- A step of the outside world that is no new start of the isolate leaves its keys. -/
theorem keys_moved {e : Env} (s : State) (hstay : e ≠ .restart isolate) :
    (envStep a s e).keys isolate = s.keys isolate := by
  cases e with
  | restart n => exact Function.update_of_ne (fun heq => hstay (congrArg _ heq.symm)) _ _
  | _ => rfl

/-- **What an isolate held** after a step it still holds. -/
theorem run_kept (hr : Run (handle a) (staying a isolate) init p) :
    ∀ i s op c, .call i s op c ∈ p.world.trace →
      HostedEncryption.Kept ((perform a s op c).2.keys isolate) (p.world.state.keys isolate) := by
  refine hr.invariant (I := fun w : World (worker a) Request => ∀ i s op c,
    .call i s op c ∈ w.trace →
      HostedEncryption.Kept ((perform a s op c).2.keys isolate) (w.state.keys isolate))
    (guarded_handle a) ?_ ?_ ?_ ?_
  · exact fun s _ i s' op c hcall => absurd hcall List.not_mem_nil
  · intro w i req _ h _ j s op c hcall
    rw [World.arrived_trace, List.mem_cons] at hcall
    rcases hcall with heq | hcall
    · cases heq
    · exact h j s op c hcall
  · intro w i op c req _ h _ _ _ j s op' c' hcall
    rw [World.after_trace, List.mem_cons] at hcall
    rcases hcall with heq | hcall
    · cases heq
      exact .refl _
    · exact (h j s op' c' hcall).trans (keys_kept w.state op c)
  · intro w e _ h hstay j s op c hcall
    rw [World.moved_state, keys_moved w.state hstay]
    exact h j s op c hcall

/-- What arrives takes or sets keys of the isolate. -/
def Request.In (isolate : Nat) : Request → Prop
  | .admin r => r.isolate = isolate
  | .writeBan _ _ => False
  | .takeHosted n _ | .preload n _ => n = isolate

/-- The key was fetched in the isolate: by a request, or by its pre-load. -/
def FetchedBy (isolate : Nat) (slot : RotationSlot) (tr : List (Event (worker a) Request))
    (key : Mek) : Prop :=
  ∃ j req, .arrive j req ∈ tr ∧ req.In isolate ∧ Fetched slot (own j tr) key

/-- Who sets a key has fetched it. -/
theorem fetched_of_set {req : Request} {h : History Op Res} {slot : RotationSlot} {key : Mek}
    (hguard : Steps a req h (.mekCacheSet isolate slot key)) :
    req.In isolate ∧ Fetched slot h key := by
  cases req with
  | admin r => exact ⟨hguard.1.symm, hguard.2⟩
  | writeBan k value => cases hguard
  | takeHosted n slot' => exact ⟨hguard.1.symm, hguard.2⟩
  | preload n slot' => exact ⟨hguard.1.symm, hguard.2⟩

theorem FetchedBy.cons {slot : RotationSlot} {tr : List (Event (worker a) Request)} {key : Mek}
    (h : FetchedBy isolate slot tr key) (e : Event (worker a) Request) :
    FetchedBy isolate slot (e :: tr) key := by
  obtain ⟨j, req, harrive, hisolate, hfetched⟩ := h
  exact ⟨j, req, List.mem_cons_of_mem _ harrive, hisolate, hfetched.mono (own_suffix_cons j e tr)⟩

/-- **A key that was not held** when a request looked, and is held now, was fetched. -/
theorem run_fetched (hr : Run (handle a) (staying a isolate) init p) :
    ∀ i slot key, ⟨.mekCache isolate slot, none⟩ ∈ own i p.world.trace →
      held (p.world.state.keys isolate) slot = some key →
        FetchedBy isolate slot p.world.trace key := by
  refine hr.invariant (I := fun w : World (worker a) Request => ∀ i slot key,
    ⟨.mekCache isolate slot, none⟩ ∈ own i w.trace →
      held (w.state.keys isolate) slot = some key → FetchedBy isolate slot w.trace key)
    (guarded_handle a) ?_ ?_ ?_ ?_
  · exact fun s _ i slot key hnone => absurd hnone List.not_mem_nil
  · intro w i req _ h _ j slot key hnone hheld
    exact (h j slot key hnone hheld).cons _
  · intro w i op c req _ h harrive hguard _ j slot key hnone hheld
    rw [World.after_trace]
    by_cases hthen : held (w.state.keys isolate) slot = some key
    · rcases mem_own_call hnone with hnone | ⟨-, heq⟩
      · exact (h j slot key hnone hthen).cons _
      · injection heq with hop hres
        subst hop
        have hres : none = held (w.state.keys isolate) slot := eq_of_heq hres
        rw [hthen] at hres
        cases hres
    · -- the step has set the key
      have hheld : held ((perform a w.state op c).2.keys isolate) slot = some key := hheld
      rcases keys_step isolate w.state op c with hsame | ⟨slot', key', rfl, hset⟩
      · rw [hsame] at hheld
        exact absurd hheld hthen
      · have hempty : held (w.state.keys isolate) slot = none := by
          cases hsome : held (w.state.keys isolate) slot with
          | none => rfl
          | some other =>
            rw [hset, held_of_kept (setOnce_kept _ slot' key') hsome] at hheld
            exact absurd (hsome.trans hheld) hthen
        rw [hset] at hheld
        obtain ⟨rfl, rfl⟩ := held_setOnce hempty hheld
        obtain ⟨hisolate, hfetched⟩ := fetched_of_set hguard
        exact ⟨i, req, List.mem_cons_of_mem _ harrive, hisolate,
          hfetched.mono (own_suffix_cons i _ w.trace)⟩
  · intro w e _ h hstay j slot key hnone hheld
    rw [World.moved_state, keys_moved w.state hstay] at hheld
    exact h j slot key hnone hheld

/-- How an isolate stands to a key that a request took: it holds it, or it holds another, which was
fetched in the isolate while this one, which had found none held, fetched its own. -/
inductive Stands (isolate : Nat) (slot : RotationSlot) (w : World (worker a) Request) (i : Nat)
    (key : Mek) : Prop
  | held (hheld : held (w.state.keys isolate) slot = some key)
  | overtaken {other : Mek} (hnone : ⟨.mekCache isolate slot, none⟩ ∈ own i w.trace)
      (hfetched : Fetched slot (own i w.trace) key)
      (hheld : InternalAdmin.held (w.state.keys isolate) slot = some other)
      (hother : FetchedBy isolate slot w.trace other)

/-- The isolate holds a key that was taken, unless it was overtaken. -/
theorem stands_of_took (hr : Run (handle a) (staying a isolate) init p) {slot : RotationSlot}
    {taken : Mek} (htook : Took isolate slot (own i p.world.trace) taken) :
    Stands isolate slot p.world i taken := by
  cases htook with
  | held hheld =>
    obtain ⟨s, c, hcall, hres⟩ := mem_own.mp hheld
    have hres : held (s.keys isolate) slot = some taken := hres
    exact .held (held_of_kept (run_kept hr i s (.mekCache isolate slot) c hcall) hres)
  | fetched hnone hfetched hset =>
    obtain ⟨s, c, hcall, -⟩ := mem_own.mp hset
    have hkept := run_kept hr i s (.mekCacheSet isolate slot taken) c hcall
    have hafter : (perform a s (.mekCacheSet isolate slot taken) c).2.keys isolate =
        setOnce (s.keys isolate) slot taken := Function.update_self ..
    rw [hafter] at hkept
    obtain ⟨other, hother⟩ : ∃ other,
        held (setOnce (s.keys isolate) slot taken) slot = some other := held_of_set
    have hheld := held_of_kept hkept hother
    exact .overtaken hnone hfetched hheld (run_fetched hr i slot other hnone hheld)

/-- What a probe's answer tells of an envelope that was made with a key: whether it was the current
one of the isolate, the previous one or neither. -/
theorem probed_iff {h : History Op Res} {req : MekProbeRequest} {response : MekProbeResponse}
    (hmade : encryptHmacSecret a.aead draws plaintext mek = .ok envelope)
    (hprobed : Probed a isolate h req envelope response) :
    ∃ current : Mek, Took isolate .current h current ∧
      ((current.val = mek ∧ response = probeResponse a req (some (.current, plaintext))) ∨
      (current.val ≠ mek ∧ ∃ previous : Mek, previous.val = mek ∧
        Took isolate .previous h previous ∧
        response = probeResponse a req (some (.previous, plaintext))) ∨
      (current.val ≠ mek ∧ response = probeResponse a req none)) := by
  obtain ⟨hdecrypts, hother⟩ := decrypt_encrypted hmade
  have hkey : ∀ {key found : Bytes}, decryptHmacSecret a envelope key = .ok found →
      key = mek ∧ found = plaintext := by
    intro key found hfound
    by_cases hne : key = mek
    · rw [hne, hdecrypts] at hfound
      injection hfound with hfound
      exact ⟨hne, hfound.symm⟩
    · obtain ⟨e, he⟩ := hother key hne
      rw [he] at hfound
      cases hfound
  have hnot : ∀ {key : Bytes} {e : ApiError}, decryptHmacSecret a envelope key = .error e →
      key ≠ mek := by
    rintro key e hfailed rfl
    rw [hdecrypts] at hfailed
    cases hfailed
  cases hprobed with
  | @current current found hmek hdecrypt =>
    obtain ⟨hcurrent, rfl⟩ := hkey hdecrypt
    exact ⟨current, hmek, .inl ⟨hcurrent, rfl⟩⟩
  | @previous current previous e found hmek hprev hfailed hdecrypt =>
    obtain ⟨hprevious, rfl⟩ := hkey hdecrypt
    exact ⟨current, hmek, .inr (.inl ⟨hnot hfailed, previous, hprevious, hprev, rfl⟩)⟩
  | @neither current previous e hmek hprev hfailed hnone =>
    exact ⟨current, hmek, .inr (.inr ⟨hnot hfailed, rfl⟩)⟩

/-- **The probe.** While an isolate does not start afresh, it keeps every key that it has held. Its
answer to a probe of an envelope is by the keys that the probe took, which it holds unless the probe
was overtaken: the slot is the current one exactly when the key taken as that is the envelope's, and
the previous one only when it is not and the key taken as the previous one is; the probe is ok
exactly when a slot was found and the fingerprint expected is that of the plaintext. -/
theorem probe_tells (hr : Run (handle a) (staying a isolate) init p)
    (hmade : encryptHmacSecret a.aead draws plaintext mek = .ok envelope)
    (harrive : .arrive i (.admin r) ∈ p.world.trace) (hisolate : r.isolate = isolate)
    {body : Bytes} (hbody : TestOrigins.readLimitedBody r.request (64 * 1024) = some body)
    {req : MekProbeRequest} (hread : readProbe a body = .ok (req, envelope))
    {response : MekProbeResponse} (hout : p.outcome i = some (.ok (some (.probed response)))) :
    (∀ j s op c, .call j s op c ∈ p.world.trace →
      HostedEncryption.Kept (s.keys isolate) (p.world.state.keys isolate)) ∧
    ∃ current, Stands isolate .current p.world i current ∧
      (response.slot = some .current ↔ current.val = mek) ∧
      (response.slot = some .previous → current.val ≠ mek ∧
        ∃ previous, Stands isolate .previous p.world i previous ∧ previous.val = mek) ∧
      (response.ok = true ↔ response.slot ≠ none ∧
        req.expectedPlaintextFingerprint = fingerprint6Bytes a plaintext) := by
  obtain ⟨arrived, harrive', hends⟩ := hr.outcome (guarded_handle a) hout
  cases hr.arrive_unique harrive harrive'
  obtain ⟨res, hends, hres⟩ := hends
  rcases res with refusal | answer
  · cases hres
  injection hres with hres
  injection hres with hres
  rw [← hres] at hends
  obtain ⟨-, body', req', envelope', hbody', hread', hprobed⟩ := hends
  rw [hbody] at hbody'
  injection hbody' with hbody'
  rw [← hbody', hread] at hread'
  injection hread' with hread'
  injection hread' with hreq henvelope
  subst hreq henvelope hisolate
  refine ⟨fun j s op c hcall => (keys_kept s op c).trans (run_kept hr j s op c hcall), ?_⟩
  obtain ⟨current, hmek, hcases⟩ := probed_iff hmade hprobed
  refine ⟨current, stands_of_took hr hmek, ?_⟩
  rcases hcases with ⟨hcurrent, rfl⟩ | ⟨hcurrent, previous, hprevious, hprev, rfl⟩ |
    ⟨hcurrent, rfl⟩
  · refine ⟨⟨fun _ => hcurrent, fun _ => rfl⟩, nofun, ?_⟩
    simp [probeResponse, eq_comm]
  · refine ⟨⟨nofun, fun hval => absurd hval hcurrent⟩, fun _ =>
      ⟨hcurrent, previous, stands_of_took hr hprev, hprevious⟩, ?_⟩
    simp [probeResponse, eq_comm]
  · refine ⟨⟨nofun, fun hval => absurd hval hcurrent⟩, nofun, ?_⟩
    simp [probeResponse]

end Probe

/-! ## Samples -/

section Samples

def sampleIp : Label := ⟨"00", by decide⟩

/-- The probe of an envelope with a secret, whose digest it has. -/
def sampleProbe : MekProbeRequest := ⟨"e30=", "2bb80d"⟩

/-- A deployment where one body and one envelope are read. -/
def sampleAdmin : Admin :=
  { app := { AppState.sample with
      sha256 := fun bytes => if bytes = utf8Bytes "secret" then [0x2b, 0xb8, 0x0d] else [] }
    rateLimitBinding := true
    banlistError := none
    hashIp := fun _ => sampleIp
    parseProbe := fun bytes => if bytes = utf8Bytes "probe" then .ok sampleProbe else .error "EOF"
    parseEnvelope := fun bytes =>
      if bytes = utf8Bytes "\x7b\x7d" then .ok sampleRecord else .error "EOF"
    parseReplay := fun _ => .error "EOF"
    decodeStandard := fun text => if text = "e30=" then some (utf8Bytes "\x7b\x7d") else none
    setHeader := .ok
    debug := fun _ => "Unauthorized"
    display := fun _ => ""
    aead := Aead.labelled
    refusal := fun _ => ""
    listings := 50 }

def sampleState : State :=
  { counters := fun _ => none
    endpoint := StatusAuth.sampleEndpoint
    service := .initial
    bans := fun _ => none
    secrets := ⟨.error "unbound", .error "unbound"⟩
    keys := fun _ => ⟨some (sampleMek 1), none⟩ }

def sampleHeaders (token nonce : String) : Headers := fun name =>
  if name = "X-Timestamp" then some "0"
  else if name = "X-Nonce" then some nonce
  else if name = "Authorization" then some ("Bearer " ++ token) else none

/-- A request with a token. -/
def sampleRequest (route : Route) (token nonce body : String) : Request :=
  .admin ⟨route, ⟨sampleHeaders token nonce, some (utf8Bytes body)⟩, 0⟩

/-- Nothing fails, and KV lists a page for each cursor. -/
def answering (pages : Option String → Listing) : (op : Op) → Choice op
  | .now => ()
  | .counterGet _ => (none : Option (Option (Option Nat)))
  | .counterPut _ _ _ => true
  | .statusAuth _ => ()
  | .service op => healthy op
  | .mekCache _ _ => ()
  | .mekCacheSet _ _ _ => ()
  | .secretStore _ => ()
  | .secretGet _ _ => ()
  | .listBans _ cursor => (.ok (pages cursor) : Except String Listing)
  | .deleteBan _ => (none : Option (String × Bool))
  | .writeBan _ _ => ()

instance : (op : Op) → (c : Choice op) → Decidable (Kept op c)
  | .counterGet _, (answer : Option (Option (Option Nat))) =>
    inferInstanceAs (Decidable (answer = none))
  | .counterPut _ _ _, (stored : Bool) => inferInstanceAs (Decidable (stored = true))
  | .now, _ | .statusAuth _, _ | .service _, _ | .mekCache _ _, _ | .mekCacheSet _ _ _, _
  | .secretStore _, _ | .secretGet _ _, _ | .listBans _ _, _ | .deleteBan _, _
  | .writeBan _ _, _ => .isTrue trivial

instance (a : Admin) (roleTag : String) (ip : Label) :
    DecidableRules (takingTurns a roleTag ip) where
  arrive := fun _ _ _ => .isTrue trivial
  call := fun w i op c =>
    inferInstanceAs (Decidable (Kept op c ∧ InTurn (Of a roleTag ip) i w.trace))
  env := fun _ _ => .isTrue trivial

/-- Six requests with a stale token, one after another. -/
def staleActs : List (Act (worker sampleAdmin) Request) :=
  (List.range 6).flatMap fun i =>
    .arrive i (sampleRequest .mekDecryptProbe "stale" "n" "probe") ::
      List.replicate (if i < 5 then 7 else 3) (.call i (answering fun _ => ⟨[], true, none⟩))

/-- The sixth is told to come back in an hour. -/
theorem lockout_sixth : ∃ p : Pool (worker sampleAdmin) Request Refusal (Option Answer),
    Run (handle sampleAdmin) (takingTurns sampleAdmin "admin-mek-probe" sampleIp)
      (fun _ => True) p ∧ p.outcome 5 = some (.error (.rateLimited 3600)) ∧
      ∀ start, within start 3600
        ((counter sampleAdmin (lockKey "admin-mek-probe" sampleIp)).added p.world.trace) ≤ 5 := by
  obtain ⟨p, hr, hsixth⟩ : ∃ p, Run (handle sampleAdmin)
      (takingTurns sampleAdmin "admin-mek-probe" sampleIp) (fun _ => True) p ∧
        p.outcome 5 = some (.error (.rateLimited 3600)) :=
    Run.of_replay sampleState staleActs trivial (by decide +kernel)
  exact ⟨p, hr, hsixth, (lockout sampleAdmin "admin-mek-probe" sampleIp hr).1⟩

/-- Two pages, each with a ban of the tests, joined by a cursor. -/
def samplePages : Option String → Listing
  | none => ⟨["ban:test:1"], false, some "2"⟩
  | some _ => ⟨["ban:test:2"], true, none⟩

/-- The cursor has passed the first page. -/
def samplePassed (cursor key : String) : Prop := cursor = "2" ∧ key = "ban:test:1"

instance (cursor key : String) : Decidable (samplePassed cursor key) :=
  inferInstanceAs (Decidable (_ ∧ _))

/-- A nullifier's ban and two of the tests, and then the removal of fixtures, page after page. -/
def fixtureActs : List (Act (worker sampleAdmin) Request) :=
  [.arrive 0 (.writeBan (BanStore.makeKey (BanStore.sampleNullifier 7)) (some "\x7b\x7d")),
    .call 0 (answering samplePages), .arrive 1 (.writeBan "ban:test:1" (some "\x7b\x7d")),
    .call 1 (answering samplePages),
    .arrive 2 (sampleRequest (.deleteTestFixtures "bans") "smoke" "n" ""),
    .arrive 3 (.writeBan "ban:test:2" (some "\x7b\x7d")), .call 3 (answering samplePages)] ++
    List.replicate 11 (.call 2 (answering samplePages))

/-- The keys that were written. -/
def writtenKeys (tr : List (Event (worker sampleAdmin) Request)) : List String :=
  tr.filterMap fun
    | .call _ _ (.writeBan key _) _ => some key
    | _ => none

theorem writtenKeys_call {i : Nat} {s : State} {op : Op} {c : Choice op} {key : String}
    {tr : List (Event (worker sampleAdmin) Request)} (h : key ∈ writtenKeys tr) :
    key ∈ writtenKeys (.call i s op c :: tr) := by
  cases op with
  | writeBan k value => exact List.mem_cons_of_mem _ h
  | _ => exact h

theorem mem_writtenKeys {R : Rules (worker sampleAdmin) Request}
    {p : Pool (worker sampleAdmin) Request Refusal (Option Answer)}
    (hr : Run (handle sampleAdmin) R (Eq sampleState) p) {key : String} :
    p.world.state.bans key ≠ none → key ∈ writtenKeys p.world.trace := by
  induction hr with
  | start hs =>
    intro hbanned
    rw [← hs] at hbanned
    exact absurd rfl hbanned
  | arrive _ _ _ ih => exact ih
  | @call p i op _ c _ _ _ ih =>
    intro hbanned
    by_cases hbefore : p.world.state.bans key = none
    · obtain ⟨value, rfl⟩ := written_of_banned hbefore hbanned
      exact List.mem_cons_self
    · exact writtenKeys_call (ih hbefore)
  | @env p e _ _ ih =>
    intro hbanned
    refine ih fun hnone => hbanned ?_
    cases e <;> exact hnone

/-- A key that was written, and that the cursor has not passed, is on the page, or not passed by the
next cursor. -/
def ListsWritten (tr : List (Event (worker sampleAdmin) Request)) : (op : Op) → Choice op → Prop
  | .listBans keyPrefix cursor, (answer : Except String Listing) => ∀ page ∈ answer.toOption,
    ∀ key ∈ writtenKeys tr, startsWith key keyPrefix = true →
      (∀ at' ∈ cursor, ¬ samplePassed at' key) → key ∈ page.keys ∨
        page.listComplete = false ∧ ∃ next ∈ page.cursor, ¬ samplePassed next key
  | _, _ => True

def listingWritten : Rules (worker sampleAdmin) Request :=
  { arrive := fun _ _ _ => True
    call := fun w _ op c => ListsWritten w.trace op c
    env := fun _ _ => True }

instance : DecidableRules listingWritten where
  arrive := fun _ _ _ => .isTrue trivial
  call := fun w _ op c =>
    match op, c with
    | .listBans keyPrefix cursor, (answer : Except String Listing) => inferInstanceAs (Decidable
      (∀ page ∈ answer.toOption, ∀ key ∈ writtenKeys w.trace, startsWith key keyPrefix = true →
        (∀ at' ∈ cursor, ¬ samplePassed at' key) → key ∈ page.keys ∨
          page.listComplete = false ∧ ∃ next ∈ page.cursor, ¬ samplePassed next key))
    | .now, _ | .counterGet _, _ | .counterPut _ _ _, _ | .statusAuth _, _ | .service _, _
    | .mekCache _ _, _ | .mekCacheSet _ _ _, _ | .secretStore _, _ | .secretGet _ _, _
    | .deleteBan _, _ | .writeBan _ _, _ => .isTrue trivial
  env := fun _ _ => .isTrue trivial

/-- Who lists what was written lists truthfully. -/
theorem listingTruly_of_written {p : Pool (worker sampleAdmin) Request Refusal (Option Answer)}
    (hr : Run (handle sampleAdmin) listingWritten (Eq sampleState) p) :
    Run (handle sampleAdmin) (listingTruly sampleAdmin samplePassed) (Eq sampleState) p := by
  induction hr with
  | start hs => exact .start hs
  | arrive _ hfree _ ih => exact .arrive ih hfree trivial
  | @call p i op k c hr hp hR ih =>
    refine .call ih hp ?_
    cases op with
    | listBans keyPrefix cursor =>
      intro page hpage key hbanned hunder hahead
      exact hR page (Option.mem_def.mpr (congrArg Except.toOption hpage)) key
        (mem_writtenKeys hr hbanned) hunder hahead
    | _ => trivial
  | env _ _ ih => exact .env ih trivial

/-- The removal is answered. -/
theorem fixtureRun : ∃ p : Pool (worker sampleAdmin) Request Refusal (Option Answer),
    Run (handle sampleAdmin) listingWritten (Eq sampleState) p ∧
      p.outcome 2 = some (.ok (some (.cleared 2))) ∧ ∃ r, .arrive 2 (.admin r) ∈ p.world.trace := by
  obtain ⟨p, hr, hcleared⟩ : ∃ p, Run (handle sampleAdmin) listingWritten (Eq sampleState) p ∧
      p.outcome 2 = some (.ok (some (.cleared 2))) :=
    Run.of_replay sampleState fixtureActs rfl (by decide +kernel)
  obtain ⟨req, harrive, houtcome⟩ := hr.outcome (guarded_handle sampleAdmin) hcleared
  cases req with
  | admin r => exact ⟨p, hr, hcleared, r, harrive⟩
  | _ => cases houtcome

/-- Only the bans of the tests are deleted. -/
theorem fixtures_only_two : ∃ p : Pool (worker sampleAdmin) Request Refusal (Option Answer),
    Run (handle sampleAdmin) listingWritten (Eq sampleState) p ∧
      p.outcome 2 = some (.ok (some (.cleared 2))) ∧
      ∀ i s key c, .call i s (.deleteBan key) c ∈ p.world.trace →
        startsWith key banTestPrefix = true := by
  obtain ⟨p, hr, hcleared, -⟩ := fixtureRun
  exact ⟨p, hr, hcleared, fun i s key c hcall => ((fixtures_only hr).1 i s key c hcall).1⟩

/-- No ban of the tests is left, on either page, but what was written since. -/
theorem fixtures_cleared_two : ∃ p : Pool (worker sampleAdmin) Request Refusal (Option Answer),
    Run (handle sampleAdmin) (listingTruly sampleAdmin samplePassed) (Eq sampleState) p ∧
      p.outcome 2 = some (.ok (some (.cleared 2))) ∧
      ∀ key ∈ ["ban:test:1", "ban:test:2"],
        p.world.state.bans key = none ∨ WrittenSince key 2 p.world.trace := by
  obtain ⟨p, hr, hcleared, r, harrive⟩ := fixtureRun
  have hr := listingTruly_of_written hr
  refine ⟨p, hr, hcleared, fun key hkey => fixtures_cleared hr harrive hcleared ?_⟩
  simp only [List.mem_cons, List.not_mem_nil, or_false] at hkey
  rcases hkey with rfl | rfl
  · decide
  · decide

instance : DecidableRules (staying sampleAdmin 0) where
  arrive := fun _ _ _ => .isTrue trivial
  call := fun _ _ _ _ => .isTrue trivial
  env := fun _ e => match e with
    | .restart n => decidable_of_iff (n ≠ 0)
      ⟨fun hne heq => hne (by injection heq), fun hne heq => hne (heq ▸ rfl)⟩
    | .service _ | .slots _ | .secrets _ => .isTrue fun heq => by cases heq

/-- `HOSTED_MEK` is the key, and there is no previous one. -/
def storing (key : Mek) : HostedEncryption.Env :=
  ⟨.ok fun _ => .ok (some (KeyRotation.encode key.val)), .error "unbound"⟩

/-- Two probes in an isolate that holds no key. The first has fetched the key of the envelope when
it is rotated; the second fetches the new one and sets it first. -/
def probeActs : List (Act (worker sampleAdmin) Request) :=
  .arrive 0 (sampleRequest .mekDecryptProbe "smoke" "n" "probe") ::
    List.replicate 10 (.call 0 (answering fun _ => ⟨[], true, none⟩)) ++
  .env (.secrets (storing (sampleMek 2))) ::
    .arrive 1 (sampleRequest .mekDecryptProbe "smoke" "m" "probe") ::
    List.replicate 13 (.call 1 (answering fun _ => ⟨[], true, none⟩)) ++
  [.call 0 (answering fun _ => ⟨[], true, none⟩)]

theorem sampleRecord_made : encryptHmacSecret Aead.labelled
    ⟨.ok ⟨sampleDek, rfl⟩, .ok sampleIv, .ok sampleIv⟩ (utf8Bytes "secret") (sampleMek 1).val =
      .ok sampleRecord := rfl

theorem probe_body : TestOrigins.readLimitedBody ⟨sampleHeaders "smoke" "n",
    some (utf8Bytes "probe")⟩ (64 * 1024) = some (utf8Bytes "probe") := by decide +kernel

theorem envelope_read :
    readProbe sampleAdmin (utf8Bytes "probe") = .ok (sampleProbe, sampleRecord) := by
  unfold readProbe
  simp [sampleAdmin, sampleProbe]

/-- The answer of a probe. -/
def probedBy (p : Pool (worker sampleAdmin) Request Refusal (Option Answer)) (i : Nat) :
    Option MekProbeResponse :=
  match p.outcome i with
  | some (.ok (some (.probed response))) => some response
  | _ => none

theorem outcome_of_probedBy {p : Pool (worker sampleAdmin) Request Refusal (Option Answer)}
    {i : Nat} {response : MekProbeResponse} (h : probedBy p i = some response) :
    p.outcome i = some (.ok (some (.probed response))) := by
  unfold probedBy at h
  split at h
  · next response' heq =>
    injection h with h
    rw [heq, h]
  · cases h

/-- The first probe is answered by the key that it fetched, the second one sets the key that the
isolate holds. -/
theorem probe_tells_overtaken : ∃ p : Pool (worker sampleAdmin) Request Refusal (Option Answer),
    Run (handle sampleAdmin) (staying sampleAdmin 0) (Eq
        { sampleState with secrets := storing (sampleMek 1), keys := fun _ => ⟨none, none⟩ }) p ∧
      p.outcome 0 = some (.ok (some (.probed ⟨true, some .current, "2bb80d"⟩))) ∧
      (p.world.state.keys 0).mek = some (sampleMek 2) ∧
      ∃ current, Stands 0 .current p.world 0 current ∧ current.val = (sampleMek 1).val := by
  obtain ⟨p, hr, ⟨hprobed, hheld⟩, harrivals⟩ : ∃ p, Run (handle sampleAdmin)
      (staying sampleAdmin 0)
      (Eq { sampleState with secrets := storing (sampleMek 1), keys := fun _ => ⟨none, none⟩ }) p ∧
      (probedBy p 0 = some ⟨true, some .current, "2bb80d"⟩ ∧
        (p.world.state.keys 0).mek = some (sampleMek 2)) ∧
      ∀ i req, .arrive i req ∈ p.world.trace → (i, req) ∈ probeActs.filterMap Act.arrival :=
    Run.of_replay_arrivals _ probeActs rfl (by decide +kernel)
  have hprobed := outcome_of_probedBy hprobed
  obtain ⟨req, harrive, -⟩ := hr.outcome (guarded_handle sampleAdmin) hprobed
  obtain rfl : req = sampleRequest .mekDecryptProbe "smoke" "n" "probe" := by
    have hmem := harrivals 0 req harrive
    unfold probeActs at hmem
    simpa [Act.arrival] using hmem
  obtain ⟨-, current, hstands, hslot, -⟩ := probe_tells hr sampleRecord_made harrive rfl probe_body
    envelope_read hprobed
  exact ⟨p, hr, hprobed, hheld, current, hstands, hslot.mp rfl⟩

end Samples

end InternalAdmin

end ProviiVerifier
