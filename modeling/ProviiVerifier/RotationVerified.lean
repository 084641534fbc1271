/-
  `verify-rotation`: what its report that the rotation is complete says of the store.

  The scan decrypts the data key of each client of each policy that it lists and can parse, and each
  hosted key that it lists. Whatever it passes over is in neither count.

  Proved: a report that the rotation is complete means that every secret of the store that any
  master key decrypts is under the current one, exactly when no secret that is passed over is
  under another, or the scan comes upon one that is not under the current key
  (`verify_rotation_complete_iff`).
-/
import ProviiVerifier.RotatedSecrets

namespace ProviiVerifier

namespace KeyRotation

variable {aead : Aead} {current previous : Mek} {counts : Counts}

/-! ## What the scan counts -/

theorem complete_iff : counts.complete = true ↔ counts.previous = 0 ∧ counts.neither = 0 := by
  unfold Counts.complete
  rw [Bool.and_eq_true, decide_eq_true_eq, decide_eq_true_eq]

/-- A blob is counted under the current key or stands against a complete rotation. -/
theorem countBlob_complete {aad : Bytes} {blob : Option Bytes} :
    (countBlob aead current previous aad counts blob).complete = true ↔
      counts.complete = true ∧
        (blob.bind fun b => aesGcmDecrypt aead current.val b aad).isSome = true := by
  cases blob with
  | none =>
    rw [complete_iff]
    show counts.previous = 0 ∧ counts.neither + 1 = 0 ↔ _ ∧ false = true
    constructor
    · rintro ⟨-, h⟩
      omega
    · rintro ⟨-, h⟩
      cases h
  | some b =>
    rw [Option.bind_some]
    unfold countBlob
    dsimp only
    split
    · next hcurrent =>
      rw [complete_iff, complete_iff]
      exact ⟨fun h => ⟨h, hcurrent⟩, And.left⟩
    · next hcurrent =>
      have hnot : ∀ n m : Nat, m ≠ 0 → ¬ (n = 0 ∧ m = 0) := fun n m hm h => hm h.2
      split
      · rw [complete_iff]
        constructor
        · rintro ⟨h, -⟩
          exact absurd h (Nat.succ_ne_zero _)
        · rintro ⟨-, h⟩
          exact absurd h hcurrent
      · rw [complete_iff]
        constructor
        · intro h
          exact absurd h (hnot _ _ (Nat.succ_ne_zero _))
        · rintro ⟨-, h⟩
          exact absurd h hcurrent

/-- A loop of counts is complete when each turn is. -/
theorem foldl_complete {α : Type} {count : Counts → α → Counts} {Current : α → Prop}
    (h : ∀ counts a, (count counts a).complete = true ↔ counts.complete = true ∧ Current a)
    (l : List α) (counts : Counts) :
    (l.foldl count counts).complete = true ↔ counts.complete = true ∧ ∀ a ∈ l, Current a := by
  induction l generalizing counts with
  | nil => simp
  | cons a l ih =>
    rw [List.foldl_cons, ih, h, and_assoc]
    simp only [List.mem_cons, forall_eq_or_imp]

/-- The clients of a policy at a key that the scan parses. -/
def scannedClients (kv : ConfigStore) (key : String) : List ClientAuthConfig :=
  match (kv key).bind OriginPolicy.fromText with
  | none => []
  | some policy => policy.clients

theorem countPolicy_complete {kv : ConfigStore} {key : String} :
    (countPolicy aead current previous kv counts key).complete = true ↔
      counts.complete = true ∧ ∀ c ∈ scannedClients kv key, (c.dek aead current).isSome = true := by
  have hturn : ∀ counts (c : ClientAuthConfig),
      (countBlob aead current previous aadDek counts (decode c.dekEncrypted)).complete = true ↔
        counts.complete = true ∧ (c.dek aead current).isSome = true :=
    fun _ _ => countBlob_complete
  unfold countPolicy scannedClients
  cases (kv key).bind OriginPolicy.fromText with
  | none => simp
  | some policy => exact foldl_complete hturn _ _

theorem countHostedKey_complete {kv : HostedStore} {key : String} :
    (countHostedKey aead current previous kv counts key).complete = true ↔
      counts.complete = true ∧
        ∀ raw, kv key = some raw → (hostedPlaintext aead current raw).isSome = true := by
  unfold countHostedKey
  split
  · next hnone =>
    rw [hnone]
    simp
  · next raw hraw =>
    rw [countBlob_complete, hraw]
    simp only [Option.some.injEq, forall_eq']
    rfl

/-- **The report** says what the scan has seen. -/
theorem verifyMek_complete {pages : List (List String)} {kv : ConfigStore} :
    (verifyMek aead current previous pages kv).complete = true ↔
      ∀ key ∈ originKeys pages, ∀ c ∈ scannedClients kv key,
        (c.dek aead current).isSome = true := by
  have hturn : ∀ counts key, (countPolicy aead current previous kv counts key).complete = true ↔
      counts.complete = true ∧ ∀ c ∈ scannedClients kv key, (c.dek aead current).isSome = true :=
    fun _ _ => countPolicy_complete
  unfold verifyMek
  rw [foldl_complete hturn]
  exact and_iff_right rfl

theorem verifyHostedMek_complete {pages : List (List String)} {kv : HostedStore} :
    (verifyHostedMek aead current previous pages kv).complete = true ↔
      ∀ key ∈ pkKeys pages, ∀ raw, kv key = some raw →
        (hostedPlaintext aead current raw).isSome = true := by
  have hturn : ∀ counts key,
      (countHostedKey aead current previous kv counts key).complete = true ↔
        counts.complete = true ∧
          ∀ raw, kv key = some raw → (hostedPlaintext aead current raw).isSome = true :=
    fun _ _ => countHostedKey_complete
  unfold verifyHostedMek
  rw [foldl_complete hturn]
  exact and_iff_right rfl

/-! ## What it means -/

/-- Whatever a master key decrypts, this one does. -/
def UnderAlone (secret : Mek → Option Bytes) (current : Mek) : Prop :=
  ∀ mek plaintext, secret mek = some plaintext → secret current = some plaintext

/-- A secret whose data key is under the current key. -/
theorem underAlone_of_dek {c : ClientAuthConfig} (h : (c.dek aead current).isSome = true) :
    UnderAlone (c.secret aead ·) current := by
  intro mek plaintext hplain
  obtain ⟨dek, hdek⟩ := Option.isSome_iff_exists.mp h
  obtain ⟨dek', hdek', -⟩ := secret_some hplain
  have hmek : mek = current := dek_unique hdek hdek'
  rw [← hmek]
  exact hplain

theorem underAlone_of_hosted {raw : String} (h : (hostedPlaintext aead current raw).isSome = true) :
    UnderAlone (hostedPlaintext aead · raw) current := by
  intro mek plaintext hplain
  obtain ⟨found, hfound⟩ := Option.isSome_iff_exists.mp h
  have hmek : mek = current := hostedPlaintext_unique hfound hplain
  rw [← hmek]
  exact hplain

/-- Every secret of the configuration namespace is under the current key. -/
def ConfigCurrent (aead : Aead) (current : Mek) (kv : ConfigStore) : Prop :=
  ∀ key text, kv key = some text → ∀ client ∈ text.clients,
    UnderAlone (clientSecret aead · client) current

/-- Every hosted key is under the current key. -/
def HostedCurrent (aead : Aead) (current : Mek) (kv : HostedStore) : Prop :=
  ∀ key raw, kv key = some raw → UnderAlone (hostedPlaintext aead · raw) current

/-- Every client the scan comes upon has its data key under the current key. -/
def ScannedCurrent (aead : Aead) (current : Mek) (pages : List (List String))
    (kv : ConfigStore) : Prop :=
  ∀ key ∈ originKeys pages, ∀ c ∈ scannedClients kv key, (c.dek aead current).isSome = true

/-- Every hosted key the scan comes upon is under the current key. -/
def ScannedHostedCurrent (aead : Aead) (current : Mek) (pages : List (List String))
    (kv : HostedStore) : Prop :=
  ∀ key ∈ pkKeys pages, ∀ raw, kv key = some raw →
    (hostedPlaintext aead current raw).isSome = true

/-- The policies the scan passes over, since they are not listed or cannot be parsed, hold no
secret that is not under the current key. -/
def PassedOverCurrent (aead : Aead) (current : Mek) (pages : List (List String))
    (kv : ConfigStore) : Prop :=
  ∀ key text, kv key = some text →
    key ∉ originKeys pages ∨ (OriginPolicy.fromText text).isNone = true →
    ∀ client ∈ text.clients, UnderAlone (clientSecret aead · client) current

/-- The values the scan passes over hold nothing that is not under the current key. -/
def PassedOverHostedCurrent (aead : Aead) (current : Mek) (pages : List (List String))
    (kv : HostedStore) : Prop :=
  ∀ key raw, kv key = some raw → key ∉ pkKeys pages →
    UnderAlone (hostedPlaintext aead · raw) current

theorem configCurrent_iff {pages : List (List String)} {kv : ConfigStore}
    (h : ScannedCurrent aead current pages kv) :
    ConfigCurrent aead current kv ↔ PassedOverCurrent aead current pages kv := by
  constructor
  · intro hall key text htext _
    exact hall key text htext
  · intro hpassed key text htext client hclient
    by_cases hkey : key ∈ originKeys pages
    · cases hpolicy : OriginPolicy.fromText text with
      | none => exact hpassed key text htext (.inr (by rw [hpolicy]; rfl)) client hclient
      | some policy =>
        obtain ⟨c, hc, hread⟩ := (mem_of_forall₂ (fromText_some hpolicy).2).1 client hclient
        have hscanned : c ∈ scannedClients kv key := by
          unfold scannedClients
          rw [htext, Option.bind_some, hpolicy]
          exact hc
        have hsecret : (clientSecret aead · client) = (c.secret aead ·) := by
          funext mek
          exact clientSecret_of_fromJson hread
        rw [hsecret]
        exact underAlone_of_dek (h key hkey c hscanned)
    · exact hpassed key text htext (.inl hkey) client hclient

theorem hostedCurrent_iff {pages : List (List String)} {kv : HostedStore}
    (h : ScannedHostedCurrent aead current pages kv) :
    HostedCurrent aead current kv ↔ PassedOverHostedCurrent aead current pages kv := by
  constructor
  · intro hall key raw hraw _
    exact hall key raw hraw
  · intro hpassed key raw hraw
    by_cases hkey : key ∈ pkKeys pages
    · exact underAlone_of_hosted (h key hkey raw hraw)
    · exact hpassed key raw hraw hkey

/-- **A complete rotation** is complete exactly when the scan passes over no secret under another
key, unless it comes upon one itself. -/
theorem verify_rotation_complete_iff (aead : Aead) (current previous : Mek)
    (pages : List (List String)) (config : ConfigStore) (hosted : HostedStore) :
    (((verifyMek aead current previous pages config).complete = true →
        ConfigCurrent aead current config) ↔
      (ScannedCurrent aead current pages config →
        PassedOverCurrent aead current pages config)) ∧
    (((verifyHostedMek aead current previous pages hosted).complete = true →
        HostedCurrent aead current hosted) ↔
      (ScannedHostedCurrent aead current pages hosted →
        PassedOverHostedCurrent aead current pages hosted)) := by
  rw [verifyMek_complete, verifyHostedMek_complete]
  constructor
  · constructor
    · intro h hscanned
      exact (configCurrent_iff hscanned).mp (h hscanned)
    · intro h hscanned
      exact (configCurrent_iff hscanned).mpr (h hscanned)
  · constructor
    · intro h hscanned
      exact (hostedCurrent_iff hscanned).mp (h hscanned)
    · intro h hscanned
      exact (hostedCurrent_iff hscanned).mpr (h hscanned)

/-- **A green light too early**: nothing is listed before the short page, and the policy behind it
is under the previous key. -/
theorem short_page_verified :
    ¬ ∀ (pages : List (List String)) (kv : ConfigStore),
      (verifyMek Aead.labelled (sampleMek 2) (sampleMek 1) pages kv).complete = true →
      ConfigCurrent Aead.labelled (sampleMek 2) kv := by
  intro h
  have hkeys : originKeys shortPages = [] := by decide
  have hcomplete : (verifyMek Aead.labelled (sampleMek 2) (sampleMek 1) shortPages
      sampleStore).complete = true := by
    unfold verifyMek
    rw [hkeys]
    rfl
  obtain ⟨client, hclient, hold, hother⟩ := samplePolicy_secret (sampleMek 1)
  have hnew := h shortPages sampleStore hcomplete _ _ sampleStore_policy client hclient _ _ hold
  have hne : sampleMek 2 ≠ sampleMek 1 := by
    intro heq
    exact absurd (congrArg Subtype.val heq) (by decide)
  exact absurd ((hother _ hne).symm.trans hnew) (by decide)

end KeyRotation

end ProviiVerifier
