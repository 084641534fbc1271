/-
  The prefix index of API keys against the scan it replaces.

  `verify_against_policy` tries one list of clients: those filed under the first eight bytes of the
  key; where there are none, those whose prefix is not recorded; where there are none of these
  either, the first five active ones. The scan tries every active client.

  Proved: the clients tried are the bucket itself (`verifyAgainstPolicy_eq`); the index agrees with
  the scan exactly when the key, if it verifies for anybody active, verifies for a client that is
  tried; and where recorded prefixes are those of the keys, exactly when it is not so that the
  clients of the key have no recorded prefix while another client has the prefix of the key
  (`agreesWithScan_iff`).
-/
import ProviiVerifier.Gates

namespace ProviiVerifier

namespace ApiKeyIndex

variable {verify : String → String → Bool} {key : String} {policy : OriginPolicy}
  {c : ClientAuthConfig}

/-! ## The index and the scan -/

/-- The key verifies against the hash of the client, which is active. -/
def KeyOf (verify : String → String → Bool) (key : String) (c : ClientAuthConfig) : Prop :=
  c.active = true ∧ verify key c.apiKeyHash = true

/-- The key finds a client exactly when it verifies for an active one, and then it verifies for the
client found. -/
def AgreesWithScan (verify : String → String → Bool) (key : String) (policy : OriginPolicy) :
    Prop :=
  ((verifyAgainstPolicy verify key policy).isSome = true ↔
    ∃ c ∈ policy.clients, KeyOf verify key c) ∧
  ∀ clientId, verifyAgainstPolicy verify key policy = some clientId →
    ∃ c ∈ policy.clients, KeyOf verify key c ∧ c.clientId = clientId

/-- An active client is filed under the prefix of the key. -/
def Filed (key : String) (policy : OriginPolicy) : Prop :=
  ∃ c ∈ policy.clients, c.active = true ∧ indexKey c = prefix8 key

/-- An active client has no recorded prefix. -/
def Unrecorded (policy : OriginPolicy) : Prop :=
  ∃ c ∈ policy.clients, c.active = true ∧ c.apiKeyPrefix = none

/-- The key verifies for a client of the list that is tried. -/
def Tried (verify : String → String → Bool) (key : String) (policy : OriginPolicy) : Prop :=
  (Filed key policy → ∃ c ∈ policy.clients, KeyOf verify key c ∧ indexKey c = prefix8 key) ∧
  (¬ Filed key policy → Unrecorded policy →
    ∃ c ∈ policy.clients, KeyOf verify key c ∧ c.apiKeyPrefix = none) ∧
  (¬ Filed key policy → ¬ Unrecorded policy →
    ∃ c ∈ (policy.clients.filter (·.active)).take maxFallbackScan, KeyOf verify key c)

/-- A recorded prefix is that of every key of the client, as the index takes prefixes. -/
def PrefixesRecorded (verify : String → String → Bool) (policy : OriginPolicy) : Prop :=
  ∀ c ∈ policy.clients, ∀ p, c.apiKeyPrefix = some p →
    ∀ key, verify key c.apiKeyHash = true → prefix8 p = prefix8 key

/-- The clients of the key have no recorded prefix, and an active client is filed under the prefix
of the key. -/
def Shadowed (verify : String → String → Bool) (key : String) (policy : OriginPolicy) : Prop :=
  (∃ c ∈ policy.clients, KeyOf verify key c) ∧
  (∀ c ∈ policy.clients, KeyOf verify key c → c.apiKeyPrefix = none) ∧ Filed key policy

/-! ## Buckets -/

theorem takeBytes_length {cs taken : List Char} {n : Nat} (h : takeBytes cs n = some taken) :
    taken.length ≤ n := by
  induction cs generalizing n taken with
  | nil =>
    cases n with
    | zero =>
      injection h with h
      rw [← h]
      exact Nat.le_refl 0
    | succ n => cases h
  | cons c cs ih =>
    cases n with
    | zero =>
      injection h with h
      rw [← h]
      exact Nat.zero_le 0
    | succ n =>
      rw [takeBytes] at h
      split at h
      · obtain ⟨rest, hrest, htaken⟩ := Option.map_eq_some_iff.mp h
        have hlen := ih hrest
        have hsize : 0 < c.utf8Size := c.utf8Size_pos
        rw [← htaken, List.length_cons]
        omega
      · cases h

/-- No prefix is the name of the bucket of clients without one. -/
theorem prefix8_ne (s : String) : prefix8 s ≠ "PREFIX_UNKNOWN" := by
  intro h
  unfold prefix8 at h
  split at h
  · next taken htaken =>
    have hlen := takeBytes_length htaken
    have htext := congrArg (fun s => s.toList.length) h
    simp only [String.toList_ofList] at htext
    rw [htext] at hlen
    exact absurd hlen (by decide)
  · next hnone =>
    rw [h] at hnone
    exact absurd hnone (by decide)

theorem indexKey_unknown : indexKey c = "PREFIX_UNKNOWN" ↔ c.apiKeyPrefix = none := by
  unfold indexKey
  cases c.apiKeyPrefix with
  | none => exact ⟨fun _ => rfl, fun _ => rfl⟩
  | some p => exact ⟨fun h => absurd h (prefix8_ne p), fun h => absurd h (Option.some_ne_none p)⟩

/-- The active clients of a bucket, in their order. -/
def bucket (policy : OriginPolicy) (k : String) : List ClientAuthConfig :=
  policy.clients.filter fun c => c.active && indexKey c = k

theorem mem_bucket {k : String} :
    c ∈ bucket policy k ↔ c ∈ policy.clients ∧ c.active = true ∧ indexKey c = k := by
  unfold bucket
  rw [List.mem_filter, Bool.and_eq_true, decide_eq_true_eq]

/-- The positions of some elements of a list lead back to these. -/
theorem filterMap_positions {α : Type} (l : List α) (keep : α → Bool) :
    ((l.zipIdx.filter fun x => keep x.1).map Prod.snd).filterMap (fun i => l[i]?) =
      l.filter keep := by
  have hback : ∀ x ∈ l.zipIdx.filter fun x => keep x.1, l[x.2]? = some x.1 :=
    fun x hx => List.mem_zipIdx_iff_getElem?.mp (List.mem_filter.mp hx).1
  have hscan : l.filter keep = (l.zipIdx.filter fun x => keep x.1).map Prod.fst := by
    have hmap : (l.zipIdx.map Prod.fst).filter keep = _ := List.filter_map
    rw [List.zipIdx_map_fst] at hmap
    exact hmap
  rw [List.filterMap_map, hscan, ← List.filterMap_eq_map]
  exact List.filterMap_congr hback

/-- **An entry of the index** holds the positions of the clients of its bucket. -/
theorem buildApiKeyIndex_some {k : String} {idxs : List Nat}
    (h : buildApiKeyIndex policy k = some idxs) :
    idxs.filterMap (fun i => policy.clients[i]?) = bucket policy k := by
  unfold buildApiKeyIndex at h
  dsimp only at h
  split at h
  · cases h
  · injection h with h
    rw [← h]
    exact filterMap_positions policy.clients fun c => c.active && indexKey c = k

theorem buildApiKeyIndex_none {k : String} :
    buildApiKeyIndex policy k = none ↔ bucket policy k = [] := by
  unfold buildApiKeyIndex
  dsimp only
  have hback := filterMap_positions policy.clients fun c => c.active && indexKey c = k
  split
  · next hnil =>
    rw [hnil] at hback
    exact ⟨fun _ => hback.symm, fun _ => rfl⟩
  · next hcons =>
    refine ⟨fun h => absurd h (Option.some_ne_none _), fun hnil => absurd ?_ hcons⟩
    have hnone : ∀ x ∈ policy.clients.zipIdx, ¬ (x.1.active && indexKey x.1 = k) = true := by
      intro x hx hkeep
      have hmem : x.1 ∈ bucket policy k :=
        List.mem_filter.mpr ⟨List.fst_mem_of_mem_zipIdx hx, hkeep⟩
      rw [hnil] at hmem
      cases hmem
    rw [List.filter_eq_nil_iff.mpr hnone, List.map_nil]

/-- The clients that are tried for a key. -/
def tried (key : String) (policy : OriginPolicy) : List ClientAuthConfig :=
  if bucket policy (prefix8 key) ≠ [] then bucket policy (prefix8 key)
  else if bucket policy "PREFIX_UNKNOWN" ≠ [] then bucket policy "PREFIX_UNKNOWN"
  else (policy.clients.filter (·.active)).take maxFallbackScan

/-- **The client found** is the first of those tried that the key verifies for. -/
theorem verifyAgainstPolicy_eq : verifyAgainstPolicy verify key policy =
    ((tried key policy).find? fun c => c.active && verify key c.apiKeyHash).map (·.clientId) := by
  unfold verifyAgainstPolicy tried
  dsimp only
  cases hkey : buildApiKeyIndex policy (prefix8 key) with
  | some idxs =>
    have hne : bucket policy (prefix8 key) ≠ [] := by
      intro hnil
      rw [buildApiKeyIndex_none.mpr hnil] at hkey
      cases hkey
    rw [if_pos hne, ← buildApiKeyIndex_some hkey]
  | none =>
    rw [if_neg (not_not.mpr (buildApiKeyIndex_none.mp hkey))]
    dsimp only
    cases hunknown : buildApiKeyIndex policy "PREFIX_UNKNOWN" with
    | some idxs =>
      have hne : bucket policy "PREFIX_UNKNOWN" ≠ [] := by
        intro hnil
        rw [buildApiKeyIndex_none.mpr hnil] at hunknown
        cases hunknown
      rw [if_pos hne, ← buildApiKeyIndex_some hunknown]
    | none => rw [if_neg (not_not.mpr (buildApiKeyIndex_none.mp hunknown))]

/-! ## Which clients are tried -/

theorem bucket_ne_nil {k : String} :
    bucket policy k ≠ [] ↔ ∃ c ∈ policy.clients, c.active = true ∧ indexKey c = k := by
  constructor
  · intro h
    obtain ⟨c, hc⟩ := List.exists_mem_of_ne_nil _ h
    obtain ⟨hmem, hfiled⟩ := mem_bucket.mp hc
    exact ⟨c, hmem, hfiled⟩
  · intro ⟨c, hmem, hfiled⟩
    exact List.ne_nil_of_mem (mem_bucket.mpr ⟨hmem, hfiled⟩)

theorem filed_iff : Filed key policy ↔ bucket policy (prefix8 key) ≠ [] :=
  bucket_ne_nil.symm

theorem unrecorded_iff : Unrecorded policy ↔ bucket policy "PREFIX_UNKNOWN" ≠ [] := by
  rw [bucket_ne_nil]
  constructor
  · intro ⟨c, hmem, hactive, hnone⟩
    exact ⟨c, hmem, hactive, indexKey_unknown.mpr hnone⟩
  · intro ⟨c, hmem, hactive, hkey⟩
    exact ⟨c, hmem, hactive, indexKey_unknown.mp hkey⟩

/-- The key verifies for a client that is tried. -/
theorem tried_iff : (∃ c ∈ tried key policy, KeyOf verify key c) ↔ Tried verify key policy := by
  unfold tried
  by_cases hfiled : Filed key policy
  · rw [if_pos (filed_iff.mp hfiled)]
    constructor
    · intro ⟨c, hc, hkey⟩
      obtain ⟨hmem, -, hindex⟩ := mem_bucket.mp hc
      exact ⟨fun _ => ⟨c, hmem, hkey, hindex⟩, fun h => absurd hfiled h, fun h => absurd hfiled h⟩
    · intro h
      obtain ⟨c, hmem, hkey, hindex⟩ := h.1 hfiled
      exact ⟨c, mem_bucket.mpr ⟨hmem, hkey.1, hindex⟩, hkey⟩
  · rw [if_neg fun h => hfiled (filed_iff.mpr h)]
    by_cases hunknown : Unrecorded policy
    · rw [if_pos (unrecorded_iff.mp hunknown)]
      constructor
      · intro ⟨c, hc, hkey⟩
        obtain ⟨hmem, -, hindex⟩ := mem_bucket.mp hc
        exact ⟨fun h => absurd h hfiled, fun _ _ => ⟨c, hmem, hkey, indexKey_unknown.mp hindex⟩,
          fun _ h => absurd hunknown h⟩
      · intro h
        obtain ⟨c, hmem, hkey, hnone⟩ := h.2.1 hfiled hunknown
        exact ⟨c, mem_bucket.mpr ⟨hmem, hkey.1, indexKey_unknown.mpr hnone⟩, hkey⟩
    · rw [if_neg fun h => hunknown (unrecorded_iff.mpr h)]
      constructor
      · intro h
        exact ⟨fun h' => absurd h' hfiled, fun _ h' => absurd h' hunknown, fun _ _ => h⟩
      · intro h
        exact h.2.2 hfiled hunknown

/-- A key that finds a client verifies for one of the list that is tried. -/
theorem isSome_iff : (verifyAgainstPolicy verify key policy).isSome = true ↔
    Tried verify key policy := by
  rw [verifyAgainstPolicy_eq, Option.isSome_map, List.find?_isSome, ← tried_iff]
  simp only [Bool.and_eq_true]
  exact Iff.rfl

theorem keyOf_of_tried (h : Tried verify key policy) :
    ∃ c ∈ policy.clients, KeyOf verify key c := by
  by_cases hfiled : Filed key policy
  · obtain ⟨c, hmem, hkey, -⟩ := h.1 hfiled
    exact ⟨c, hmem, hkey⟩
  · by_cases hunknown : Unrecorded policy
    · obtain ⟨c, hmem, hkey, -⟩ := h.2.1 hfiled hunknown
      exact ⟨c, hmem, hkey⟩
    · obtain ⟨c, hmem, hkey⟩ := h.2.2 hfiled hunknown
      exact ⟨c, (List.mem_filter.mp (List.mem_of_mem_take hmem)).1, hkey⟩

/-- **The index agrees with the scan** exactly when a key that verifies for an active client
verifies for one that is tried. -/
theorem agrees_iff_tried : AgreesWithScan verify key policy ↔
    ((∃ c ∈ policy.clients, KeyOf verify key c) → Tried verify key policy) := by
  constructor
  · intro h hkey
    exact isSome_iff.mp (h.1.mpr hkey)
  · intro h
    refine ⟨isSome_iff.trans ⟨keyOf_of_tried, h⟩, fun clientId hfound => ?_⟩
    obtain ⟨c, hmem, hactive, hverify, hid⟩ := verifyAgainstPolicy_some hfound
    exact ⟨c, hmem, ⟨hactive, hverify⟩, hid⟩

/-- **With the prefixes of the keys**, the clients tried miss a client of the key only when it is
shadowed. -/
theorem tried_iff_not_shadowed (hrecorded : PrefixesRecorded verify policy) :
    ((∃ c ∈ policy.clients, KeyOf verify key c) → Tried verify key policy) ↔
      ¬ Shadowed verify key policy := by
  -- a client of the key with a recorded prefix is filed under that of the key
  have hindex : ∀ c ∈ policy.clients, KeyOf verify key c → ∀ p, c.apiKeyPrefix = some p →
      indexKey c = prefix8 key := by
    intro c hmem hkey p hp
    unfold indexKey
    rw [hp]
    exact hrecorded c hmem p hp key hkey.2
  constructor
  · intro h ⟨hsome, hnone, hfiled⟩
    obtain ⟨c, hmem, hkey, hunder⟩ := (h hsome).1 hfiled
    rw [indexKey_unknown.mpr (hnone c hmem hkey)] at hunder
    exact prefix8_ne key hunder.symm
  · intro hnot ⟨c, hmem, hkey⟩
    have hunfiled : ¬ Filed key policy → c.apiKeyPrefix = none := by
      intro hfiled
      cases hp : c.apiKeyPrefix with
      | none => rfl
      | some p => exact absurd ⟨c, hmem, hkey.1, hindex c hmem hkey p hp⟩ hfiled
    refine ⟨fun hfiled => ?_, fun hfiled _ => ⟨c, hmem, hkey, hunfiled hfiled⟩,
      fun hfiled hunknown => absurd ⟨c, hmem, hkey.1, hunfiled hfiled⟩ hunknown⟩
    by_contra hmissed
    refine hnot ⟨⟨c, hmem, hkey⟩, fun d hd hdkey => ?_, hfiled⟩
    cases hp : d.apiKeyPrefix with
    | none => rfl
    | some p => exact absurd ⟨d, hd, hdkey, hindex d hd hdkey p hp⟩ hmissed

/-- **The prefix index agrees with the scan**: for every policy, key and verification, exactly when
a key that verifies for an active client verifies for one that is tried; and where the recorded
prefixes are those of the keys, exactly when the clients of the key are not shadowed. -/
theorem agreesWithScan_iff (verify : String → String → Bool) (key : String)
    (policy : OriginPolicy) :
    (AgreesWithScan verify key policy ↔
      ((∃ c ∈ policy.clients, KeyOf verify key c) → Tried verify key policy)) ∧
    (PrefixesRecorded verify policy →
      (AgreesWithScan verify key policy ↔ ¬ Shadowed verify key policy)) :=
  ⟨agrees_iff_tried, fun hrecorded => agrees_iff_tried.trans (tried_iff_not_shadowed hrecorded)⟩

/-! ## A client that cannot be found -/

/-- Two clients of one prefix: that of the first is recorded, that of the second is not. -/
def mixedPolicy : OriginPolicy :=
  { tenantId := "tenant-shop", minAgeYears := 18, maxAgeYears := none, proofDirection := none
    allowedVkIds := [], allowedIssuers := [], maxTtlSec := 300, enabled := true
    clients :=
      [{ clientId := "new", apiKeyHash := "pk_live_new", apiKeyPrefix := some "pk_live_"
         encryptedHmacSecret := "", dekEncrypted := "", encryptionVersion := 1, active := true },
       { clientId := "old", apiKeyHash := "pk_live_old", apiKeyPrefix := none
         encryptedHmacSecret := "", dekEncrypted := "", encryptionVersion := 1,
         active := true }] }

/-- A verification for which each hash has one key. -/
def sameText (key hash : String) : Bool := key == hash

theorem prefixesRecorded_mixedPolicy : PrefixesRecorded sameText mixedPolicy := by
  intro c hmem p hp key hverify
  have hkey : key = c.apiKeyHash := beq_iff_eq.mp hverify
  rw [hkey]
  simp only [mixedPolicy, List.mem_cons, List.not_mem_nil, or_false] at hmem
  rcases hmem with rfl | rfl
  · rw [← Option.some.inj hp]
    decide
  · cases hp

/-- The index and the scan agree on the mixed policy where its clients are not shadowed. -/
theorem agreesWithScan_iff_mixed : PrefixesRecorded sameText mixedPolicy ∧
    (AgreesWithScan sameText "pk_live_new" mixedPolicy ↔
      ¬ Shadowed sameText "pk_live_new" mixedPolicy) :=
  ⟨prefixesRecorded_mixedPolicy,
    (agreesWithScan_iff sameText "pk_live_new" mixedPolicy).2 prefixesRecorded_mixedPolicy⟩

/-- The key of the second client verifies for it, and finds nobody. -/
theorem old_client_not_found : PrefixesRecorded sameText mixedPolicy ∧
    (∃ c ∈ mixedPolicy.clients, KeyOf sameText "pk_live_old" c) ∧
    verifyAgainstPolicy sameText "pk_live_old" mixedPolicy = none ∧
    ¬ AgreesWithScan sameText "pk_live_old" mixedPolicy := by
  have hkey : ∃ c ∈ mixedPolicy.clients, KeyOf sameText "pk_live_old" c := by
    refine ⟨_, List.mem_cons_of_mem _ List.mem_cons_self, rfl, ?_⟩
    decide
  have hnone : verifyAgainstPolicy sameText "pk_live_old" mixedPolicy = none := by
    decide +kernel
  refine ⟨prefixesRecorded_mixedPolicy, hkey, hnone, fun h => ?_⟩
  have hsome := h.1.mpr hkey
  rw [hnone] at hsome
  cases hsome

end ApiKeyIndex

end ProviiVerifier
