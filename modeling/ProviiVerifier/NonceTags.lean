/-
  The tags nonces are consumed under, and `enforce_internal_replay_window` of
  `security/status_auth.rs`, which builds one of them.

  Five kinds of request consume a nonce. The components of a tag are checked by whoever builds
  it, the tag by `validate_nonce_tag`, and the two do not agree on the characters and the length
  of a component; a role tag and a nonce may both contain the separator.

  Proved: which tags the store takes (`Use.accepted_iff`) and which uses share one
  (`Use.tag_eq_iff`); the two together are `tags_agree_iff`. A tag that the store does not take
  never gets a request through (`verifyNonce_refused`, `enforceInternalReplayWindow_ok`).
-/
import ProviiVerifier.Encoding.Split
import ProviiVerifier.Healthy
import ProviiVerifier.HostedRedeem
import ProviiVerifier.Verify

namespace ProviiVerifier

open Interleaving Prog

/-! ## Internal requests -/

namespace InternalReplay

/-- `INTERNAL_REPLAY_TIMESTAMP_WINDOW_SECS`. -/
def internalReplayTimestampWindowSecs : Nat := 300

/-- `INTERNAL_REPLAY_NONCE_TTL_SECS`. -/
def internalReplayNonceTtlSecs : Nat := 24 * 60 * 60

/-- The longest nonce of an internal request. -/
def maxNonceLength : Nat := 256

/-- `InternalReplayCheckOutcome`. -/
structure InternalReplayCheckOutcome where
  timestamp : Nat
  nonce : String
  deriving DecidableEq

/-- `u64::from_str`. -/
def parseU64 (s : String) : Option Nat :=
  let digits := if s.toList.head? = some '+' then s.toList.tail else s.toList
  if digits ≠ [] ∧ digits.all isAsciiDigit = true then
    let n := digits.foldl (fun n c => 10 * n + (c.toNat - 48)) 0
    if n < 2 ^ 64 then some n else none
  else none

/-- The tag an internal nonce is consumed under. -/
def nonceTag (roleTag nonce : String) : String :=
  "internal-bearer:" ++ roleTag ++ ":" ++ nonce

/-- `enforce_internal_replay_window`. -/
def enforceInternalReplayWindow (headers : Idempotency.Headers) (roleTag : String) :
    Handler InternalReplayCheckOutcome := do
  match (headers "X-Timestamp").filter (· ≠ "") with
  | none => .fail .unauthorized
  | some providedTimestampRaw =>
    match (headers "X-Nonce").filter (· ≠ "") with
    | none => .fail .unauthorized
    | some providedNonce =>
      if byteLen providedNonce > maxNonceLength then .fail .unauthorized
      else
        match parseU64 providedTimestampRaw with
        | none => .fail .unauthorized
        | some providedTimestamp => do
          let serverTime ← await .timestamp
          if ClientAuthenticator.skew serverTime providedTimestamp >
              internalReplayTimestampWindowSecs then .fail .unauthorized
          else
            match ← attempt (NonceStore.checkAndSet (nonceTag roleTag providedNonce)
              internalReplayNonceTtlSecs) with
            | .ok true => return ⟨providedTimestamp, providedNonce⟩
            | .ok false => .fail .unauthorized
            | .error _ => .fail .unauthorized

/-- The fixed role tags of the internal routes. -/
def roleTags : List String :=
  ["health_detailed", "metrics", "internal_version", "admin-mek-probe", "admin-replay-token",
    "admin-fixture-manifest"]

/-- A role tag of an internal route; that of `/_internal/test-fixtures/:class` has the class of
the path in it. -/
def IsRole (roleTag : String) : Prop :=
  roleTag ∈ roleTags ∨ ∃ fixtureClass, roleTag = "admin-fixture:" ++ fixtureClass

/-- What `enforce_internal_replay_window` checks of a nonce. -/
def NonceChecked (nonce : String) : Prop := nonce ≠ "" ∧ byteLen nonce ≤ maxNonceLength

end InternalReplay

/-! ## Uses of a nonce -/

/-- A use of a nonce, with the components of its tag. -/
inductive Use
  | auth (keyId nonce : String)
  | internalBearer (roleTag nonce : String)
  | verify (challengeId : Uuid)
  | redeem (challengeId : Uuid)
  | hostedRedeem (challengeId : Uuid)
  deriving DecidableEq

namespace Use

/-- The tag of a use. -/
def tag : Use → String
  | auth keyId nonce => ClientAuthenticator.nonceTag keyId nonce
  | internalBearer roleTag nonce => InternalReplay.nonceTag roleTag nonce
  | verify challengeId => Verify.nonceTag challengeId
  | redeem challengeId => Redeem.nonceTag challengeId
  | hostedRedeem challengeId => HostedRedeem.nonceTag challengeId

/-- The components pass the checks that are made before the tag is built. -/
def Passes : Use → Prop
  | auth keyId nonce => ∃ a : Authorizer, a.keyId = keyId ∧ a.nonce = nonce ∧ a.validate = .ok ()
  | internalBearer roleTag nonce =>
    InternalReplay.IsRole roleTag ∧ InternalReplay.NonceChecked nonce
  | verify _ | redeem _ | hostedRedeem _ => True

/-- The store takes the tag of the use. -/
def Accepted (uni : Unicode) (u : Use) : Prop := validateNonceTag uni u.tag = .ok ()

/-- A character `validate_nonce_tag` allows. -/
def tagChar (uni : Unicode) (c : Char) : Bool :=
  uni.isAlphanumeric c || c = '-' || c = '_' || c = ':'

/-- The components are made of tag characters, and are short enough together. -/
def Plain (uni : Unicode) : Use → Prop
  | auth keyId _ => ∀ c ∈ keyId.toList, tagChar uni c = true
  | internalBearer roleTag nonce =>
    (∀ c ∈ roleTag.toList ++ nonce.toList, tagChar uni c = true) ∧
      byteLen roleTag + byteLen nonce ≤ 239
  | verify _ | redeem _ | hostedRedeem _ => True

/-- The second role tag continues the first, by a part that the first nonce begins with. -/
def Overlaps : Use → Use → Prop
  | internalBearer roleTag nonce, internalBearer roleTag' nonce' =>
    ∃ part, roleTag' = roleTag ++ ":" ++ part ∧ nonce = part ++ ":" ++ nonce'
  | _, _ => False

end Use

/-! ## The tags the store takes -/

/-- **What `validate_nonce_tag` takes**: the other checks follow from that of the characters. -/
theorem validateNonceTag_iff (uni : Unicode) (tag : String) :
    validateNonceTag uni tag = .ok () ↔
      tag.toList ≠ [] ∧ byteLen tag ≤ maxNonceTagLength ∧
        ∀ c ∈ tag.toList, Use.tagChar uni c = true := by
  have hno : ∀ c : Char, c.toNat < 128 → isTagChar c = false → Use.tagChar uni c = false := by
    intro c hascii hc
    unfold Use.tagChar
    rw [uni.isAlphanumeric_ascii c hascii]
    exact hc
  constructor
  · intro h
    unfold validateNonceTag at h
    split at h
    · cases h
    · next hne =>
      split at h
      · cases h
      · next hlen =>
        split at h
        · cases h
        · split at h
          · cases h
          · split at h
            · cases h
            · next hall =>
              refine ⟨hne, by omega, ?_⟩
              rw [Bool.not_eq_true, Bool.not_eq_false', List.all_eq_true] at hall
              exact hall
  · rintro ⟨hne, hlen, hall⟩
    have hdot : ∀ pat, containsSub tag ('.' :: pat) = false := by
      intro pat
      by_contra h
      have htag := hall _ (containsSub_head (by simpa using h))
      rw [hno '.' (by decide) (by decide)] at htag
      cases htag
    have hnul : tag.toList.contains '\x00' = false := by
      by_contra h
      have htag := hall '\x00' (by simpa using h)
      rw [hno '\x00' (by decide) (by decide)] at htag
      cases htag
    have hchars : (tag.toList.all fun c =>
        uni.isAlphanumeric c || c = '-' || c = '_' || c = ':') = true :=
      List.all_eq_true.mpr hall
    unfold validateNonceTag
    rw [if_neg hne, if_neg (by omega), hnul, hdot, hdot, hchars]
    rfl

namespace Use

variable {uni : Unicode} {u v : Use}

theorem tagChar_of_isTagChar {c : Char} (h : isTagChar c = true) : tagChar uni c = true := by
  unfold tagChar
  rw [uni.isAlphanumeric_ascii c (isTagChar_ascii h)]
  exact h

theorem isTagChar_of_hexdigit {c : Char} (h : isAsciiHexdigit c = true) : isTagChar c = true := by
  have hle : c ≤ 'f' → c ≤ 'z' := fun h => Nat.le_trans h (by decide : 'f'.toNat ≤ 'z'.toNat)
  have hLe : c ≤ 'F' → c ≤ 'Z' := fun h => Nat.le_trans h (by decide : 'F'.toNat ≤ 'Z'.toNat)
  simp only [isAsciiHexdigit, Bool.or_eq_true, Bool.and_eq_true, decide_eq_true_eq] at h
  simp only [isTagChar, isAsciiAlphanumeric, isAsciiDigit, Bool.or_eq_true, Bool.and_eq_true,
    decide_eq_true_eq]
  obtain (h | h) | h := h
  · exact .inl (.inl (.inl (.inl (.inl h))))
  · exact .inl (.inl (.inl (.inl (.inr ⟨h.1, hle h.2⟩))))
  · exact .inl (.inl (.inl (.inr ⟨h.1, hLe h.2⟩)))

theorem isAsciiHexdigit_ascii {c : Char} (h : isAsciiHexdigit c = true) : c.toNat < 128 :=
  isTagChar_ascii (isTagChar_of_hexdigit h)

/-- What the checks of an authorizer say of the lengths of a tag and of the nonce. -/
theorem validate_ok {a : Authorizer} (h : a.validate = .ok ()) :
    byteLen a.keyId ≤ 128 ∧ a.nonce.toList.length = 64 ∧
      ∀ c ∈ a.nonce.toList, isAsciiHexdigit c = true := by
  unfold Authorizer.validate at h
  split at h
  · cases h
  split at h
  · cases h
  next hlen =>
  split at h
  · cases h
  split at h
  · cases h
  split at h
  · cases h
  next hnonce =>
  split at h
  · cases h
  next hhex =>
  rw [Bool.not_eq_false, List.all_eq_true] at hhex
  rw [byteLen_of_ascii fun c hc => isAsciiHexdigit_ascii (hhex c hc)] at hnonce
  exact ⟨by omega, by omega, hhex⟩

theorem pair_toList (label first second : String) : (label ++ first ++ ":" ++ second).toList =
    label.toList ++ (first.toList ++ ':' :: second.toList) := by
  simp

theorem byteLen_colon : byteLen ":" = 1 := by decide +kernel

/-- A tag of two components under a label of tag characters. -/
theorem validateNonceTag_pair {label : String} (hne : label.toList ≠ [])
    (hlabel : ∀ c ∈ label.toList, isTagChar c = true) (first second : String) :
    validateNonceTag uni (label ++ first ++ ":" ++ second) = .ok () ↔
      (∀ c ∈ first.toList ++ second.toList, tagChar uni c = true) ∧
        byteLen label + byteLen first + 1 + byteLen second ≤ maxNonceTagLength := by
  rw [validateNonceTag_iff, pair_toList, byteLen_append, byteLen_append, byteLen_append,
    byteLen_colon]
  constructor
  · rintro ⟨-, hlen, hall⟩
    refine ⟨fun c hc => hall c ?_, hlen⟩
    rw [List.mem_append] at hc
    obtain hc | hc := hc
    · simp [hc]
    · simp [hc]
  · rintro ⟨hall, hlen⟩
    refine ⟨by simp [hne], hlen, fun c hc => ?_⟩
    simp only [List.mem_append, List.mem_cons] at hc
    obtain hc | hc | rfl | hc := hc
    · exact tagChar_of_isTagChar (hlabel c hc)
    · exact hall c (List.mem_append_left _ hc)
    · exact tagChar_of_isTagChar (by decide)
    · exact hall c (List.mem_append_right _ hc)

/-- **What the store takes** of the uses that pass the checks before it. -/
theorem accepted_iff (hu : u.Passes) : u.Accepted uni ↔ u.Plain uni := by
  unfold Accepted
  cases u with
  | auth keyId nonce =>
    obtain ⟨a, rfl, rfl, ha⟩ := hu
    obtain ⟨hlen, hnonce, hhex⟩ := validate_ok ha
    have hfive : byteLen "auth:" = 5 := by decide +kernel
    have hsecond : byteLen a.nonce = 64 := by
      rw [byteLen_of_ascii fun c hc => isAsciiHexdigit_ascii (hhex c hc), hnonce]
    -- five bytes of label, 128 of key id, the separator and 64 of nonce fit
    have hfits : byteLen "auth:" + byteLen a.keyId + 1 + byteLen a.nonce ≤ maxNonceTagLength := by
      rw [hfive, hsecond]
      unfold maxNonceTagLength
      omega
    unfold tag ClientAuthenticator.nonceTag
    rw [validateNonceTag_pair (by decide) (List.all_eq_true.mp (by decide))]
    constructor
    · rintro ⟨hall, -⟩ c hc
      exact hall c (List.mem_append_left _ hc)
    · intro hplain
      refine ⟨fun c hc => ?_, hfits⟩
      rw [List.mem_append] at hc
      obtain hc | hc := hc
      · exact hplain c hc
      · exact tagChar_of_isTagChar (isTagChar_of_hexdigit (hhex c hc))
  | internalBearer roleTag nonce =>
    have hsixteen : byteLen "internal-bearer:" = 16 := by decide +kernel
    unfold tag InternalReplay.nonceTag
    rw [validateNonceTag_pair (by decide) (List.all_eq_true.mp (by decide)), hsixteen]
    unfold Plain maxNonceTagLength
    refine and_congr_right fun _ => ?_
    omega
  | verify challengeId =>
    refine iff_of_true (validateNonceTag_label uni challengeId (by decide) ?_) trivial
    exact List.all_eq_true.mp (by decide)
  | redeem challengeId =>
    refine iff_of_true (validateNonceTag_label uni challengeId (by decide) ?_) trivial
    exact List.all_eq_true.mp (by decide)
  | hostedRedeem challengeId =>
    refine iff_of_true (validateNonceTag_label uni challengeId (by decide) ?_) trivial
    exact List.all_eq_true.mp (by decide)

/-! ## The uses that share a tag -/

/-- The first character of a tag, which its use is known by. -/
def initial : Use → Char
  | auth _ _ => 'a'
  | internalBearer _ _ => 'i'
  | verify _ => 'v'
  | redeem _ => 'r'
  | hostedRedeem _ => 'h'

theorem tag_head (u : Use) : u.tag.toList.head? = some u.initial := by
  cases u with
  | auth keyId nonce =>
    unfold tag ClientAuthenticator.nonceTag
    rw [pair_toList]
    rfl
  | internalBearer roleTag nonce =>
    unfold tag InternalReplay.nonceTag
    rw [pair_toList]
    rfl
  | verify challengeId =>
    unfold tag Verify.nonceTag
    rw [String.toList_append]
    rfl
  | redeem challengeId =>
    unfold tag Redeem.nonceTag
    rw [String.toList_append]
    rfl
  | hostedRedeem challengeId =>
    unfold tag HostedRedeem.nonceTag
    rw [String.toList_append]
    rfl

/-- **Distinct uses** never share a tag. -/
theorem initial_eq (h : u.tag = v.tag) : u.initial = v.initial := by
  have hhead := tag_head u
  rw [h, tag_head v] at hhead
  exact (Option.some.inj hhead).symm

theorem pair_eq {label first second first' second' : String}
    (h : label ++ first ++ ":" ++ second = label ++ first' ++ ":" ++ second') :
    first.toList ++ ':' :: second.toList = first'.toList ++ ':' :: second'.toList := by
  have hlist := congrArg String.toList h
  rw [pair_toList, pair_toList] at hlist
  exact List.append_cancel_left hlist

theorem append_injective {label s t : String} (h : label ++ s = label ++ t) : s = t := by
  have hlist := congrArg String.toList h
  rw [String.toList_append, String.toList_append] at hlist
  exact String.toList_inj.mp (List.append_cancel_left hlist)

/-- The nonce of an authorizer has a fixed length, so it does not run into the key id. -/
theorem auth_injective {keyId nonce keyId' nonce' : String} (hu : (auth keyId nonce).Passes)
    (hv : (auth keyId' nonce').Passes) (h : (auth keyId nonce).tag = (auth keyId' nonce').tag) :
    auth keyId nonce = auth keyId' nonce' := by
  obtain ⟨a, rfl, rfl, ha⟩ := hu
  obtain ⟨b, rfl, rfl, hb⟩ := hv
  have hlength : (':' :: a.nonce.toList).length = (':' :: b.nonce.toList).length := by
    rw [List.length_cons, List.length_cons, (validate_ok ha).2.1, (validate_ok hb).2.1]
  obtain ⟨hkey, hnonce⟩ := List.append_inj' (pair_eq h) hlength
  injection hnonce with _ hnonce
  rw [String.toList_inj.mp hkey, String.toList_inj.mp hnonce]

theorem toList_part {s t : String} {part : List Char} (h : s.toList = t.toList ++ ':' :: part) :
    s = t ++ ":" ++ String.ofList part := by
  apply String.toList_inj.mp
  rw [h]
  simp

/-- Two internal tags are equal when one role tag runs into the nonce of the other. -/
theorem internalBearer_eq_iff {roleTag nonce roleTag' nonce' : String} :
    (internalBearer roleTag nonce).tag = (internalBearer roleTag' nonce').tag ↔
      internalBearer roleTag nonce = internalBearer roleTag' nonce' ∨
        (internalBearer roleTag nonce).Overlaps (internalBearer roleTag' nonce') ∨
        (internalBearer roleTag' nonce').Overlaps (internalBearer roleTag nonce) := by
  constructor
  · intro h
    obtain ⟨hrole, hnonce⟩ | ⟨part, hrole, hnonce⟩ | ⟨part, hrole, hnonce⟩ :=
      Splitting.separated_eq (pair_eq h)
    · rw [String.toList_inj.mp hrole, String.toList_inj.mp hnonce]
      exact .inl rfl
    · refine .inr (.inl ⟨String.ofList part, toList_part hrole, ?_⟩)
      apply String.toList_inj.mp
      rw [hnonce]
      simp
    · refine .inr (.inr ⟨String.ofList part, toList_part hrole, ?_⟩)
      apply String.toList_inj.mp
      rw [hnonce]
      simp
  · have happend : ∀ role part nonce : String,
        InternalReplay.nonceTag role (part ++ ":" ++ nonce) =
          InternalReplay.nonceTag (role ++ ":" ++ part) nonce := by
      intro role part nonce
      unfold InternalReplay.nonceTag
      simp only [String.append_assoc]
    rintro (h | ⟨part, rfl, rfl⟩ | ⟨part, rfl, rfl⟩)
    · rw [h]
    · exact happend _ _ _
    · exact (happend _ _ _).symm

/-- **The uses that share a tag** are those whose role tags overlap. -/
theorem tag_eq_iff (hu : u.Passes) (hv : v.Passes) :
    u.tag = v.tag ↔ u = v ∨ u.Overlaps v ∨ v.Overlaps u := by
  constructor
  · intro h
    have hinitial := initial_eq h
    cases u with
    | auth keyId nonce =>
      cases v with
      | auth keyId' nonce' => exact .inl (auth_injective hu hv h)
      | _ => simp [initial] at hinitial
    | internalBearer roleTag nonce =>
      cases v with
      | internalBearer roleTag' nonce' => exact internalBearer_eq_iff.mp h
      | _ => simp [initial] at hinitial
    | verify challengeId =>
      cases v with
      | verify challengeId' =>
        exact .inl (congrArg _ (Uuid.toString_injective (append_injective h)))
      | _ => simp [initial] at hinitial
    | redeem challengeId =>
      cases v with
      | redeem challengeId' =>
        exact .inl (congrArg _ (Uuid.toString_injective (append_injective h)))
      | _ => simp [initial] at hinitial
    | hostedRedeem challengeId =>
      cases v with
      | hostedRedeem challengeId' =>
        exact .inl (congrArg _ (Uuid.toString_injective (append_injective h)))
      | _ => simp [initial] at hinitial
  · intro h
    cases u with
    | internalBearer roleTag nonce =>
      cases v with
      | internalBearer roleTag' nonce' => exact internalBearer_eq_iff.mpr h
      | _ =>
        obtain h | h | h := h
        · exact congrArg tag h
        · exact h.elim
        · exact h.elim
    | _ =>
      obtain h | h | h := h
      · exact congrArg tag h
      · exact h.elim
      · cases v <;> exact h.elim

/-- A role tag that another continues is that of a fixture class, or no role tag of a route. -/
theorem Overlaps.fixture {roleTag nonce roleTag' nonce' : String}
    (hrole : InternalReplay.IsRole roleTag) (hrole' : InternalReplay.IsRole roleTag')
    (h : (internalBearer roleTag nonce).Overlaps (internalBearer roleTag' nonce')) :
    ∃ fixtureClass, roleTag = "admin-fixture:" ++ fixtureClass := by
  obtain ⟨part, rfl, -⟩ := h
  have hplain : ∀ role ∈ InternalReplay.roleTags,
      ':' ∉ role.toList ∧ role ≠ "admin-fixture" := by
    decide +kernel
  obtain hlisted | hclass := hrole
  · exfalso
    obtain hlisted' | ⟨fixtureClass', hclass'⟩ := hrole'
    · exact (hplain _ hlisted').1 (by simp)
    · -- the first separator of the tag ends the listed role tag and the label of the fixtures
      have hlist := congrArg String.toList hclass'
      have hlabel : ("admin-fixture:" ++ fixtureClass').toList =
          "admin-fixture".toList ++ ':' :: fixtureClass'.toList := by
        rw [String.toList_append]
        rfl
      have hrest : (roleTag ++ ":" ++ part).toList = roleTag.toList ++ ':' :: part.toList := by
        simp
      rw [hlabel, hrest] at hlist
      obtain ⟨heq, -⟩ | ⟨rest, hleft, -⟩ | ⟨rest, hleft, -⟩ := Splitting.separated_eq hlist
      · exact (hplain _ hlisted).2 (String.toList_inj.mp heq)
      · have hmem : ':' ∈ "admin-fixture".toList := by
          rw [hleft]
          simp
        exact absurd hmem (by decide)
      · exact (hplain _ hlisted).1 (by rw [hleft]; simp)
  · exact hclass

theorem Overlaps.ne (h : u.Overlaps v) : u ≠ v := by
  rintro rfl
  cases u with
  | internalBearer roleTag nonce =>
    obtain ⟨part, hrole, -⟩ := h
    have hlength := congrArg (fun s => s.toList.length) hrole
    simp only [String.toList_append, List.length_append] at hlength
    have hcolon : ":".toList.length = 1 := by decide
    omega
  | _ => exact h

end Use

/-- **The tags.** Of two uses whose components pass the checks made before, the store takes the
first and does not take it for the second, exactly when its components are made of tag
characters and are short enough, and neither role tag continues the other. -/
theorem tags_agree_iff (uni : Unicode) (u v : Use) (hu : u.Passes) (hv : v.Passes) :
    (u.Accepted uni ∧ (u.tag = v.tag → u = v)) ↔
      u.Plain uni ∧ ¬ u.Overlaps v ∧ ¬ v.Overlaps u := by
  rw [Use.accepted_iff hu, Use.tag_eq_iff hu hv]
  refine and_congr_right fun _ => ?_
  constructor
  · intro h
    exact ⟨fun ho => ho.ne (h (.inr (.inl ho))), fun ho => ho.ne (h (.inr (.inr ho))).symm⟩
  · rintro ⟨hnot, hnot'⟩ (h | h | h)
    · exact h
    · exact absurd h hnot
    · exact absurd h hnot'

/-- An authorizer of a client. -/
def sampleAuthorizer (keyId : String) : Authorizer where
  keyId := keyId
  timestamp := 1700000000
  nonce := "bbbbbbbbbbbbbbbbbbbbbbbbbbbbbbbbbbbbbbbbbbbbbbbbbbbbbbbbbbbbbbbb"
  hmac := "aaaaaaaaaaaaaaaaaaaaaaaaaaaaaaaaaaaaaaaaaaaaaaaaaaaaaaaaaaaaaaaa"

theorem passes_sampleAuthorizer {keyId : String} (h : (sampleAuthorizer keyId).validate = .ok ()) :
    (Use.auth keyId (sampleAuthorizer keyId).nonce).Passes :=
  ⟨sampleAuthorizer keyId, rfl, rfl, h⟩

/-- A client id without a dot and an internal nonce, which both pass. -/
theorem tags_agree_shop :
    (Use.auth "shop-1" (sampleAuthorizer "shop-1").nonce).Accepted .ascii := by
  have h := (tags_agree_iff .ascii (.auth "shop-1" (sampleAuthorizer "shop-1").nonce)
    (.internalBearer "metrics" "n1") (passes_sampleAuthorizer (by decide +kernel))
    ⟨.inl (by decide), by decide, by decide +kernel⟩).mpr ⟨?_, id, id⟩
  · exact h.1
  · have hplain : ∀ c ∈ "shop-1".toList, Use.tagChar .ascii c = true :=
      List.all_eq_true.mp (by decide)
    exact hplain

/-- A key id with a dot and a nonce in Base64 pass the checks before, and their tags are not
taken; two fixture classes share a tag. -/
theorem tags_disagree :
    ((sampleAuthorizer "shop.example").validate = .ok () ∧
      ¬ (Use.auth "shop.example" (sampleAuthorizer "shop.example").nonce).Accepted .ascii) ∧
    ((Use.internalBearer "metrics" "bm9uY2U+").Passes ∧
      ¬ (Use.internalBearer "metrics" "bm9uY2U+").Accepted .ascii) ∧
    (Use.internalBearer "admin-fixture:bans" "x:1").Passes ∧
    (Use.internalBearer "admin-fixture:bans:x" "1").Passes ∧
    (Use.internalBearer "admin-fixture:bans" "x:1").tag =
      (Use.internalBearer "admin-fixture:bans:x" "1").tag := by
  have hvalid : (sampleAuthorizer "shop.example").validate = .ok () := by decide +kernel
  have hmetrics : (Use.internalBearer "metrics" "bm9uY2U+").Passes :=
    ⟨.inl (by decide), by decide, by decide +kernel⟩
  refine ⟨⟨hvalid, ?_⟩, ⟨hmetrics, ?_⟩, ⟨.inr ⟨"bans", rfl⟩, by decide, by decide +kernel⟩,
    ⟨.inr ⟨"bans:x", rfl⟩, by decide, by decide +kernel⟩, by decide +kernel⟩
  · rw [Use.accepted_iff (passes_sampleAuthorizer hvalid)]
    intro hplain
    exact absurd (hplain '.' (by decide)) (by decide)
  · rw [Use.accepted_iff hmetrics]
    intro hplain
    exact absurd (hplain.1 '+' (by decide)) (by decide)

/-! ## What becomes of a request whose tag is not taken -/

section Refused

variable {app : AppState} {pick : (op : Op) → Choice op} {s : State} {tag : String}

/-- The object answers such a tag with a bad request, if it answers at all. -/
theorem perform_refused (h : validateNonceTag app.uni tag ≠ .ok ()) (body : Body Nat)
    (c : Choice (.nonceDO tag body)) :
    (perform app s (.nonceDO tag body) c).1 = none ∨
      (perform app s (.nonceDO tag body) c).1 = some (.status 400) := by
  have hreply : ∀ f, (s.serveNonce app f tag body).1 = some (.status 400) := by
    intro f
    unfold State.serveNonce NonceDO.setNonce
    dsimp only
    cases hv : validateNonceTag app.uni tag with
    | ok => exact absurd hv h
    | error e => rfl
  cases c with
  | lost => exact .inl rfl
  | late => exact .inl rfl
  | served f answered =>
    cases answered with
    | false => exact .inl rfl
    | true => exact .inr (hreply f)

theorem checkAndSet_refused (pick : (op : Op) → Choice op) (s : State)
    (h : validateNonceTag app.uni tag ≠ .ok ()) (ttl : Nat) :
    ∃ e, (alone app pick (NonceStore.checkAndSet tag ttl) s).1 = .error e := by
  unfold NonceStore.checkAndSet
  split
  · exact ⟨_, rfl⟩
  · split
    · exact ⟨_, rfl⟩
    · split
      · exact ⟨_, rfl⟩
      · split
        · exact ⟨_, rfl⟩
        · rw [alone_await]
          obtain hreply | hreply := perform_refused (s := s) h (NonceStore.ttlBody ttl) (pick _)
          · rw [hreply]
            exact ⟨_, rfl⟩
          · rw [hreply]
            exact ⟨_, rfl⟩

/-- **Locked out.** An authorizer whose tag is not taken is answered an internal error, whatever
the state and however the store behaves. -/
theorem verifyNonce_refused {nonce keyId : String}
    (h : ¬ (Use.auth keyId nonce).Accepted app.uni) :
    (alone app pick (ClientAuthenticator.verifyNonce nonce keyId) s).1 =
      .error (.internal "Nonce verification failed") := by
  obtain ⟨e, he⟩ := checkAndSet_refused pick s h nonceDedupTtl
  unfold Use.tag at he
  unfold ClientAuthenticator.verifyNonce
  rw [alone_attempt_bind (Prod.ext he rfl)]
  rfl

/-- **An internal request gets through** only with a nonce that passed the checks and with a tag
that the store takes. -/
theorem enforceInternalReplayWindow_ok {headers : Idempotency.Headers} {roleTag : String}
    {outcome : InternalReplay.InternalReplayCheckOutcome}
    (h : (alone app pick (InternalReplay.enforceInternalReplayWindow headers roleTag) s).1 =
      .ok outcome) :
    InternalReplay.NonceChecked outcome.nonce ∧
      (Use.internalBearer roleTag outcome.nonce).Accepted app.uni := by
  unfold InternalReplay.enforceInternalReplayWindow at h
  split at h
  · cases h
  · split at h
    · cases h
    · next nonce hnonce =>
      have hne : nonce ≠ "" := by
        rw [Option.filter_eq_some_iff] at hnonce
        simpa using hnonce.2
      split at h
      · cases h
      · next hlen =>
        split at h
        · cases h
        · rw [alone_await] at h
          split at h
          · cases h
          · rw [alone_attempt_bind rfl] at h
            split at h
            · next hset =>
              injection h with h
              subst h
              have hbound : byteLen nonce ≤ InternalReplay.maxNonceLength := Nat.le_of_not_lt hlen
              refine ⟨⟨hne, hbound⟩, ?_⟩
              by_contra hno
              have hrefused : validateNonceTag app.uni (InternalReplay.nonceTag roleTag nonce) ≠
                .ok () := hno
              obtain ⟨e, he⟩ := checkAndSet_refused _ _ hrefused
                InternalReplay.internalReplayNonceTtlSecs
              have hboth := hset.symm.trans he
              cases hboth
            · cases h
            · cases h

end Refused

end ProviiVerifier
