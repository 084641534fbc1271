/-
  The request that `check_and_set` of `durable_object_store.rs` sends, and how `NonceDO::fetch`
  reads it.

  The hash that chooses a shard is `DefaultHasher`, any function of the tag. Of the `url` crate it
  is assumed that it keeps the percent-encoded path of a tag that is no dot segment (`KeepsPath`),
  and of `serde_json` that it reads the body that is written (`ReadsTtl`). A time to live is a
  `Duration`; the body carries its whole seconds.

  Proved: every tag that the object takes is sent for every positive time to live, and arrives with
  its whole seconds (`arrives`); the shard depends on the tag alone, and different tags have
  different keys. All of it is `tags_intact`.
-/
import ProviiVerifier.Encoding.Decimal
import ProviiVerifier.NonceTags

namespace ProviiVerifier

namespace NonceWire

/-! ## The request -/

/-- `std::time::Duration`. -/
structure Duration where
  secs : Nat
  nanos : Nat
  secs_lt : secs < 2 ^ 64
  nanos_lt : nanos < 1000000000

/-- `Duration::is_zero`. -/
def Duration.isZero (d : Duration) : Bool := d.secs = 0 ∧ d.nanos = 0

/-- What `DurableObjectNonceStore` needs to choose a shard; the count is clamped to 1 to 100. -/
structure DurableObjectNonceStore where
  /-- The 64-bit `DefaultHasher` of a tag. -/
  hash : String → Nat
  shardCount : Nat
  shardCount_pos : 0 < shardCount

/-- `calculate_nonce_shard_id`. -/
def calculateNonceShardId (hash : String → Nat) (tag : String) (shardCount : Nat) : String :=
  "nonce-shard-" ++ (hash tag % shardCount).repr

/-- A POST request to the object of a shard. -/
structure NonceRequest where
  shardId : String
  url : String
  body : String
  deriving DecidableEq, Repr

/-- `json!({ "ttl_seconds": n }).to_string()`. -/
def ttlJson (ttlSeconds : Nat) : String := "\x7b\"ttl_seconds\":" ++ ttlSeconds.repr ++ "\x7d"

/-- The URL that a tag is sent to. -/
def nonceUrl (tag : String) : String := "https://do.internal/nonce/" ++ percentEncode tag

/-- The request of `check_and_set`. -/
def buildRequest (store : DurableObjectNonceStore) (tag : String) (ttl : Duration) :
    Except ApiError NonceRequest :=
  if tag.toList = [] then .error (.badRequest (some "Nonce tag must not be empty"))
  else if byteLen tag > NonceStore.maxNonceTagLength then
    .error (.badRequest (some ("Nonce tag exceeds maximum length of " ++
      NonceStore.maxNonceTagLength.repr ++ " bytes")))
  else if tag.toList.contains '\x00' then
    .error (.badRequest (some "Nonce tag must not contain null bytes"))
  else if ttl.isZero then .error (.badRequest (some "Nonce TTL must be greater than zero"))
  else
    .ok { shardId := calculateNonceShardId store.hash tag store.shardCount
          url := nonceUrl tag
          body := ttlJson ttl.secs }

/-! ## The object -/

/-- What the object reads a request with. -/
structure Reader where
  /-- `Url::path` of a URL that parses. -/
  path : String → Option String
  /-- `serde_json::from_slice` of a `SetNonceRequest`. -/
  ttl : Bytes → Option Nat

/-- The path of a tag is kept as it is encoded, unless the tag is a dot segment. -/
def Reader.KeepsPath (reader : Reader) : Prop :=
  ∀ tag, tag ≠ "." → tag ≠ ".." → reader.path (nonceUrl tag) = some (NonceDO.noncePath tag)

/-- A body is read back. -/
def Reader.ReadsTtl (reader : Reader) : Prop :=
  ∀ n, n < 2 ^ 64 → reader.ttl (utf8Bytes (ttlJson n)) = some n

/-- A body as the object receives it. -/
def Reader.body (reader : Reader) (text : String) : Body Nat :=
  { size := byteLen text
    value := reader.ttl (utf8Bytes text) }

/-- `NonceDO::fetch` of a request. -/
def receive (reader : Reader) (uni : Unicode) (s : NonceDO.Storage) (now : Nat)
    (f : NonceDO.Faults) (r : NonceRequest) : Option NonceDO.Reply × NonceDO.Storage :=
  match reader.path r.url with
  | none => (none, s)
  | some path => NonceDO.fetch uni s now f path (reader.body r.body)

/-- The key that the object stores a tag under. -/
def storageKey (tag : String) : String := "nonce:" ++ tag

/-- Tags reach the store intact. -/
structure Intact (uni : Unicode) (store : DurableObjectNonceStore) (reader : Reader) : Prop where
  /-- A tag that the object takes is sent. -/
  sent : ∀ tag (ttl : Duration), validateNonceTag uni tag = .ok () → 0 < ttl.secs →
    ∃ r, buildRequest store tag ttl = .ok r
  /-- What is sent is set: the same tag for the same number of seconds. -/
  arrives : ∀ tag ttl r, validateNonceTag uni tag = .ok () → buildRequest store tag ttl = .ok r →
    ∀ s now f, receive reader uni s now f r =
      NonceDO.setNonce uni s now f tag (NonceStore.ttlBody ttl.secs)
  /-- Equal tags go to the same object. -/
  sameShard : ∀ tag ttl ttl' r r', buildRequest store tag ttl = .ok r →
    buildRequest store tag ttl' = .ok r' → r.shardId = r'.shardId
  /-- Different tags are stored under different keys. -/
  distinctKeys : ∀ tag tag', tag ≠ tag' → storageKey tag ≠ storageKey tag'

/-! ## What arrives -/

variable {uni : Unicode} {store : DurableObjectNonceStore} {reader : Reader} {tag : String}
  {ttl : Duration} {r : NonceRequest}

theorem buildRequest_ok (h : buildRequest store tag ttl = .ok r) :
    r = { shardId := calculateNonceShardId store.hash tag store.shardCount
          url := nonceUrl tag
          body := ttlJson ttl.secs } := by
  unfold buildRequest at h
  split at h
  · cases h
  · split at h
    · cases h
    · split at h
      · cases h
      · split at h
        · cases h
        · injection h with h
          exact h.symm

/-- The checks of the store on a tag follow from those of the object. -/
theorem exists_buildRequest (h : validateNonceTag uni tag = .ok ()) (httl : 0 < ttl.secs) :
    ∃ r, buildRequest store tag ttl = .ok r := by
  obtain ⟨hne, hlen, hchars⟩ := (validateNonceTag_iff uni tag).mp h
  have hshort : ¬ byteLen tag > NonceStore.maxNonceTagLength := by
    unfold maxNonceTagLength at hlen
    unfold NonceStore.maxNonceTagLength
    omega
  have hnul : ¬ tag.toList.contains '\x00' = true := by
    intro hmem
    have htag := hchars _ (List.contains_iff_mem.mp hmem)
    have hno : Use.tagChar uni '\x00' = false := by
      unfold Use.tagChar
      rw [uni.isAlphanumeric_ascii _ (by decide)]
      decide
    rw [hno] at htag
    cases htag
  have hzero : ¬ ttl.isZero = true := by
    unfold Duration.isZero
    simp only [decide_eq_true_eq]
    omega
  unfold buildRequest
  rw [if_neg hne, if_neg hshort, if_neg hnul, if_neg hzero]
  exact ⟨_, rfl⟩

/-- No tag that the object takes is a dot segment. -/
theorem not_dots (h : validateNonceTag uni tag = .ok ()) : tag ≠ "." ∧ tag ≠ ".." := by
  have hdot : Use.tagChar uni '.' = false := by
    unfold Use.tagChar
    rw [uni.isAlphanumeric_ascii _ (by decide)]
    decide
  have hno : '.' ∉ tag.toList := by
    intro hmem
    have htag := ((validateNonceTag_iff uni tag).mp h).2.2 _ hmem
    rw [hdot] at htag
    cases htag
  constructor
  · rintro rfl
    exact hno (by decide)
  · rintro rfl
    exact hno (by decide)

theorem byteLen_repr (n : Nat) : byteLen n.repr = n.repr.length := by
  rw [byteLen_of_ascii, String.length_toList]
  intro c hc
  have hdigit := Decimal.isDigit_of_mem hc
  have hbound : c ≤ '9' := by
    unfold Char.isDigit at hdigit
    rw [Bool.and_eq_true, decide_eq_true_eq, decide_eq_true_eq] at hdigit
    exact hdigit.2
  exact Nat.lt_of_le_of_lt hbound (by decide)

/-- The body that is received is the one of the time to live. -/
theorem body_ttlJson (h : reader.ReadsTtl) {n : Nat} (hn : n < 2 ^ 64) :
    reader.body (ttlJson n) = NonceStore.ttlBody n := by
  have hsize : byteLen (ttlJson n) = 16 + n.repr.length := by
    unfold ttlJson
    rw [byteLen_append, byteLen_append, byteLen_repr]
    have hopen : byteLen "\x7b\"ttl_seconds\":" = 15 := by decide
    have hclose : byteLen "\x7d" = 1 := by decide
    omega
  unfold Reader.body NonceStore.ttlBody
  rw [hsize, h n hn]

/-- **A request arrives**: the object sets the tag for the whole seconds of the time to live. -/
theorem receive_eq (hpath : reader.KeepsPath) (hread : reader.ReadsTtl)
    (htag : validateNonceTag uni tag = .ok ()) (h : buildRequest store tag ttl = .ok r)
    (s : NonceDO.Storage) (now : Nat) (f : NonceDO.Faults) :
    receive reader uni s now f r =
      NonceDO.setNonce uni s now f tag (NonceStore.ttlBody ttl.secs) := by
  obtain ⟨hdot, hdots⟩ := not_dots htag
  rw [buildRequest_ok h]
  unfold receive
  dsimp only
  rw [hpath tag hdot hdots]
  dsimp only
  rw [NonceDO.fetch_noncePath, body_ttlJson hread ttl.secs_lt]

theorem storageKey_injective {tag tag' : String} (h : storageKey tag = storageKey tag') :
    tag = tag' := by
  have hlist := congrArg String.toList h
  unfold storageKey at hlist
  rw [String.toList_append, String.toList_append] at hlist
  exact String.toList_inj.mp (List.append_cancel_left hlist)

/-- **Nonce tags reach the store intact.** -/
theorem tags_intact (uni : Unicode) (store : DurableObjectNonceStore) (reader : Reader)
    (hpath : reader.KeepsPath) (hread : reader.ReadsTtl) : Intact uni store reader := by
  refine ⟨fun tag ttl h httl => exists_buildRequest h httl,
    fun tag ttl r htag h s now f => receive_eq hpath hread htag h s now f,
    fun tag ttl ttl' r r' h h' => ?_, fun tag tag' hne heq => hne (storageKey_injective heq)⟩
  rw [buildRequest_ok h, buildRequest_ok h']

/-! ## A reader -/

namespace Sample

/-- A parser of URLs of the object and a reader of bodies with one number. -/
def wireReader : Reader :=
  { path := fun url => stripPrefix "https://do.internal" url
    ttl := fun bytes => do
      let text ← String.fromUTF8? bytes.toByteArray
      let rest ← stripPrefix "\x7b\"ttl_seconds\":" text
      Decimal.parse (2 ^ 64 - 1) rest.toList.dropLast }

theorem keepsPath : wireReader.KeepsPath := by
  intro tag _ _
  have hurl : nonceUrl tag = "https://do.internal" ++ NonceDO.noncePath tag := by
    have hhost : "https://do.internal" ++ "/nonce/" = "https://do.internal/nonce/" := by decide
    unfold nonceUrl NonceDO.noncePath
    rw [← String.append_assoc, hhost]
  unfold wireReader
  dsimp only
  rw [hurl, stripPrefix_append]

theorem readsTtl : wireReader.ReadsTtl := by
  intro n hn
  have hjson : ttlJson n = "\x7b\"ttl_seconds\":" ++ (n.repr ++ "\x7d") := by
    unfold ttlJson
    rw [String.append_assoc]
  have hdigits : (n.repr ++ "\x7d").toList.dropLast = n.repr.toList := by
    rw [String.toList_append]
    exact List.dropLast_concat
  unfold wireReader
  dsimp only
  rw [fromUTF8_utf8Bytes, hjson]
  simp only [Option.bind_eq_bind, Option.bind_some]
  rw [stripPrefix_append]
  simp only [Option.bind_some]
  rw [hdigits]
  exact Decimal.parse_repr (by omega)

/-- A store with one hash for every length of a tag. -/
def byLength : DurableObjectNonceStore :=
  { hash := fun tag => byteLen tag
    shardCount := 25
    shardCount_pos := by decide }

end Sample

/-- The tags of the ASCII alphabet, read by the sample. -/
theorem tags_intact_sample : Intact Unicode.ascii Sample.byLength Sample.wireReader :=
  tags_intact Unicode.ascii Sample.byLength Sample.wireReader Sample.keepsPath Sample.readsTtl

end NonceWire

end ProviiVerifier
