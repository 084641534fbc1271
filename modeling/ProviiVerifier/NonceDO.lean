/-
  `durable_objects/nonce_do.rs`: the Durable Object that consumes single-use nonce tags.

  As for challenges, `setNonce` is a function of the storage, the clock, the outcome of each
  storage operation and the request; `none` is an error thrown by the object. The tag travels
  percent-encoded in the path of the request, and `fetch_noncePath` says that it arrives.
-/
import ProviiVerifier.ChallengeDO
import ProviiVerifier.Encoding.Percent

namespace ProviiVerifier

/-- `utf8_percent_encode(s, NON_ALPHANUMERIC)`. -/
def percentEncode (s : String) : String :=
  String.ofList ((PercentEncoding.encode (utf8Bytes s)).map fun b => Char.ofNat b.toNat)

/-- `str::strip_prefix`. -/
def stripPrefix (start s : String) : Option String :=
  if start.toList.isPrefixOf s.toList then
    some (String.ofList (s.toList.drop start.toList.length))
  else none

theorem stripPrefix_append (start s : String) : stripPrefix start (start ++ s) = some s := by
  have hpre : start.toList.isPrefixOf (start ++ s).toList = true := by
    rw [String.toList_append, List.isPrefixOf_iff_prefix]
    exact List.prefix_append _ _
  rw [stripPrefix, if_pos hpre, String.toList_append, List.drop_left, String.ofList_toList]

theorem stripPrefix_eq_some_iff {start s rest : String} :
    stripPrefix start s = some rest ↔ s = start ++ rest := by
  constructor
  · intro h
    unfold stripPrefix at h
    split at h
    · next hpre =>
      obtain ⟨tail, htail⟩ := List.isPrefixOf_iff_prefix.mp hpre
      injection h with h
      rw [← h, ← String.toList_inj, String.toList_append, String.toList_ofList, ← htail,
        List.drop_left]
    · cases h
  · rintro rfl
    exact stripPrefix_append start rest

/-- The largest `u64`. -/
def maxClock : Nat := 2 ^ 64 - 1

namespace NonceDO

/-- `NonceEntry`. -/
structure Entry where
  createdAt : Nat
  expiresAt : Nat
  deriving DecidableEq, Repr

/-- The `nonce:{tag}` entries. -/
abbrev Storage := String → Option Entry

/-- How the storage operations of one request go. -/
structure Faults where
  get : Bool
  put : Bool
  /-- `ensure_alarm_scheduled` succeeds. -/
  alarm : Bool
  deriving DecidableEq

/-- Every storage operation succeeds. -/
def Faults.none : Faults := ⟨true, true, true⟩

/-- A response: the verdict on the tag (200) or a bare status. -/
inductive Reply
  | verdict (success : Bool)
  | status (code : Nat)
  deriving DecidableEq, Repr

/-- `u64::saturating_add`. -/
def satAdd (a b : Nat) : Nat := min (a + b) (2 ^ 64 - 1)

theorem le_satAdd {now ttl : Nat} (hnow : now ≤ maxClock) : now ≤ satAdd now ttl := by
  unfold satAdd
  unfold maxClock at hnow
  omega

/-- `MAX_NONCE_BODY_SIZE`. -/
def maxNonceBodySize : Nat := 4096

/-- `set_nonce`; the body holds the time to live in seconds. -/
def setNonce (uni : Unicode) (s : Storage) (now : Nat) (f : Faults) (tag : String)
    (body : Body Nat) : Option Reply × Storage :=
  match validateNonceTag uni tag with
  | .error _ => (some (.status 400), s)
  | .ok () =>
    if body.size > maxNonceBodySize then (some (.status 413), s)
    else
      match body.value with
      | none => (none, s)
      | some ttlSeconds =>
        match (if f.get then s tag else none).filter fun entry => entry.expiresAt ≥ now with
        | some _ => (some (.verdict false), s)
        | none =>
          if f.put then
            let s := Function.update s tag (some ⟨now, satAdd now ttlSeconds⟩)
            if f.alarm then (some (.verdict true), s) else (none, s)
          else (none, s)

/-- `fetch`: a POST request on the object, at the path of its URL. -/
def fetch (uni : Unicode) (s : Storage) (now : Nat) (f : Faults) (path : String)
    (body : Body Nat) : Option Reply × Storage :=
  match stripPrefix "/nonce/" path with
  | none => (some (.status 400), s)
  | some encoded =>
    match String.fromUTF8? (PercentEncoding.decode (utf8Bytes encoded)).toByteArray with
    | none => (none, s)
    | some tag => setNonce uni s now f tag body

/-- `cleanup_expired_nonces`: the alarm deletes every expired entry. -/
def cleanupExpiredNonces (s : Storage) (now : Nat) : Storage :=
  fun tag => (s tag).filter fun entry => ¬ entry.expiresAt < now

/-! ## The path of a tag -/

/-- The path `check_and_set` sends a tag in. -/
def noncePath (tag : String) : String := "/nonce/" ++ percentEncode tag

theorem utf8Bytes_percentEncode (s : String) :
    utf8Bytes (percentEncode s) = PercentEncoding.encode (utf8Bytes s) := by
  have hascii : ∀ n : Fin 256, PercentEncoding.isAlphanumeric (UInt8.ofFin n) = true →
      (Char.ofNat (UInt8.ofFin n).toNat).toNat < 128 ∧
        UInt8.ofNat (Char.ofNat (UInt8.ofFin n).toNat).toNat = UInt8.ofFin n := by
    decide +kernel
  have hbyte : ∀ b ∈ PercentEncoding.encode (utf8Bytes s), (Char.ofNat b.toNat).toNat < 128 ∧
      UInt8.ofNat (Char.ofNat b.toNat).toNat = b := by
    intro b hb
    rcases PercentEncoding.mem_encode hb with hb | rfl
    · exact hascii b.toFin hb
    · decide
  unfold percentEncode
  rw [utf8Bytes_ofList, List.map_map]
  · conv_rhs => rw [← List.map_id (PercentEncoding.encode (utf8Bytes s))]
    exact List.map_congr_left fun b hb => (hbyte b hb).2
  · intro c hc
    obtain ⟨b, hb, rfl⟩ := List.mem_map.mp hc
    exact (hbyte b hb).1

/-- What percent-encoding writes: letters, digits and `%`. -/
theorem mem_percentEncode {s : String} {c : Char} (h : c ∈ (percentEncode s).toList) :
    isAsciiAlphanumeric c = true ∨ c = '%' := by
  rw [percentEncode, String.toList_ofList] at h
  obtain ⟨b, hb, rfl⟩ := List.mem_map.mp h
  have key : ∀ n : Fin 256, PercentEncoding.isAlphanumeric (UInt8.ofFin n) = true →
      isAsciiAlphanumeric (Char.ofNat (UInt8.ofFin n).toNat) = true := by
    decide +kernel
  rcases PercentEncoding.mem_encode hb with hb | rfl
  · exact .inl (key b.toFin hb)
  · exact .inr rfl

theorem percentEncode_of_digits {s : String} (h : ∀ c ∈ s.toList, isAsciiDigit c = true) :
    percentEncode s = s := by
  have hbytes : utf8Bytes s = s.toList.map fun c => UInt8.ofNat c.toNat := by
    rw [← utf8Bytes_ofList, String.ofList_toList]
    intro c hc
    have hbounds := isAsciiDigit_bounds (h c hc)
    omega
  have key : ∀ n : Fin 10, PercentEncoding.isAlphanumeric (UInt8.ofNat (48 + n.val)) = true ∧
      (UInt8.ofNat (48 + n.val)).toNat = 48 + n.val := by decide +kernel
  have hdigit : ∀ c ∈ s.toList, PercentEncoding.isAlphanumeric (UInt8.ofNat c.toNat) = true ∧
      (UInt8.ofNat c.toNat).toNat = c.toNat := by
    intro c hc
    have hbounds := isAsciiDigit_bounds (h c hc)
    have hc : 48 + (c.toNat - 48) = c.toNat := by omega
    rw [← hc]
    exact key ⟨c.toNat - 48, by omega⟩
  unfold percentEncode
  rw [hbytes, PercentEncoding.encode_of_alphanumeric, List.map_map]
  · refine (congrArg String.ofList ?_).trans String.ofList_toList
    conv_rhs => rw [← List.map_id s.toList]
    refine List.map_congr_left fun c hc => ?_
    exact (congrArg Char.ofNat (hdigit c hc).2).trans (Char.ofNat_toNat c)
  · intro b hb
    obtain ⟨c, hc, rfl⟩ := List.mem_map.mp hb
    exact (hdigit c hc).1

theorem percentEncode_injective {s t : String} (h : percentEncode s = percentEncode t) : s = t := by
  have hbytes := congrArg utf8Bytes h
  rw [utf8Bytes_percentEncode, utf8Bytes_percentEncode] at hbytes
  exact utf8Bytes_injective (PercentEncoding.encode_injective hbytes)

/-- **The tag arrives**: the object decodes the path back to the tag. -/
theorem fetch_noncePath (uni : Unicode) (s : Storage) (now : Nat) (f : Faults) (tag : String)
    (body : Body Nat) :
    fetch uni s now f (noncePath tag) body = setNonce uni s now f tag body := by
  unfold fetch noncePath
  rw [stripPrefix_append]
  simp only
  rw [utf8Bytes_percentEncode, PercentEncoding.decode_encode, fromUTF8_utf8Bytes]

/-! ## What one request can do to a tag -/

/-- The tag has no entry that is still valid at `now`. -/
def Free (s : Storage) (now : Nat) (tag : String) : Prop :=
  ∀ entry, s tag = some entry → entry.expiresAt < now

variable {uni : Unicode} {s : Storage} {now : Nat} {f : Faults} {tag : String} {body : Body Nat}

/-- **Inversion of a request**: it stores a fresh entry, when the tag is free or the read
failed, or it stores nothing and does not accept. -/
theorem setNonce_cases (uni : Unicode) (s : Storage) (now : Nat) (f : Faults) (tag : String)
    (body : Body Nat) :
    (∃ ttl, body.value = some ttl ∧ (f.get = true → Free s now tag) ∧
      (setNonce uni s now f tag body).2 =
        Function.update s tag (some ⟨now, satAdd now ttl⟩)) ∨
    ((setNonce uni s now f tag body).2 = s ∧
      (setNonce uni s now f tag body).1 ≠ some (.verdict true)) := by
  unfold setNonce
  split
  · exact .inr ⟨rfl, by simp⟩
  · split
    · exact .inr ⟨rfl, by simp⟩
    · split
      · exact .inr ⟨rfl, by simp⟩
      · next ttl hval =>
        split
        · exact .inr ⟨rfl, by simp⟩
        · next hfree =>
          have hfree' : f.get = true → Free s now tag := by
            intro hget entry hentry
            rw [hget, if_pos rfl, hentry] at hfree
            simpa [Option.filter] using hfree
          by_cases hput : f.put = true
          · refine .inl ⟨ttl, hval, hfree', ?_⟩
            by_cases halarm : f.alarm = true <;> simp [hput, halarm]
          · exact .inr ⟨by simp [hput], by simp [hput]⟩

/-- An accepted tag was free, unless the read failed, and is now taken. -/
theorem setNonce_accept (h : (setNonce uni s now f tag body).1 = some (.verdict true)) :
    ∃ ttl, body.value = some ttl ∧ (f.get = true → Free s now tag) ∧
      (setNonce uni s now f tag body).2 tag = some ⟨now, satAdd now ttl⟩ := by
  rcases setNonce_cases uni s now f tag body
    with ⟨ttl, hval, hfree, hs⟩ | ⟨-, hno⟩
  · refine ⟨ttl, hval, hfree, ?_⟩
    rw [hs, Function.update_self]
  · exact absurd h hno

/-- Other tags keep their entry. -/
theorem setNonce_other {u : String} (hu : u ≠ tag) :
    (setNonce uni s now f tag body).2 u = s u := by
  rcases setNonce_cases uni s now f tag body
    with ⟨ttl, -, -, hs⟩ | ⟨hs, -⟩
  · rw [hs, Function.update_of_ne hu]
  · rw [hs]

/-- Cleanup keeps an entry that is still valid. -/
theorem cleanupExpiredNonces_live {entry : Entry} (h : s tag = some entry)
    (hlive : now ≤ entry.expiresAt) : cleanupExpiredNonces s now tag = some entry := by
  simp [cleanupExpiredNonces, h, hlive]

/-- Cleanup invents no entry. -/
theorem cleanupExpiredNonces_some {entry : Entry}
    (h : cleanupExpiredNonces s now tag = some entry) : s tag = some entry := by
  simp only [cleanupExpiredNonces, Option.filter_eq_some_iff] at h
  exact h.1

end NonceDO

end ProviiVerifier
