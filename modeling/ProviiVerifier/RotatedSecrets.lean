/-
  What `rotate-mek` and `rotate-hosted-mek` do to the secrets of a store, over interrupted and
  repeated runs.

  A hosted key is what its value decrypts to; the secrets of a policy are `RotatedPolicies`'.

  Proved: at every moment each secret decrypts to the same plaintext under the two keys as before,
  and everything else of each entry is what it was. After a run that counts no error every secret
  decrypts under the new key alone, and further runs change nothing, exactly when the keys that
  `list_all_keys` left out hold no secret that does not (`rotation_keeps_secrets_iff`). It leaves
  out none when every page but the last is full (`listAllKeys_full`).
-/
import ProviiVerifier.RotatedPolicies

namespace ProviiVerifier

namespace KeyRotation

variable {aead : Aead} {old new mek mek' : Mek} {param : RunParam}

/-! ## One hosted key -/

/-- The plaintext of a stored hosted key. -/
def hostedPlaintext (aead : Aead) (mek : Mek) (raw : String) : Option Bytes :=
  (decode raw).bind fun blob => aesGcmDecrypt aead mek.val blob publicKeyDataAad

/-- What a hosted key keeps: its plaintext, which is all of it. -/
def HostedPreserved (aead : Aead) (old new : Mek) (before after : String) : Prop :=
  ∀ plaintext, UnderSet (hostedPlaintext aead · after) old new plaintext ↔
    UnderSet (hostedPlaintext aead · before) old new plaintext

def HostedUnderNew (aead : Aead) (old new : Mek) (raw : String) : Prop :=
  UnderNew (hostedPlaintext aead · raw) old new

variable {isJson : Bytes → Bool} {key raw raw' : String} {errors : Nat}

theorem hostedPlaintext_unique {a b : Bytes} (h : hostedPlaintext aead mek raw = some a)
    (h' : hostedPlaintext aead mek' raw = some b) : mek' = mek := by
  obtain ⟨blob, hblob, h⟩ := Option.bind_eq_some_iff.mp h
  obtain ⟨blob', hblob', h'⟩ := Option.bind_eq_some_iff.mp h'
  rw [hblob, Option.some.injEq] at hblob'
  rw [← hblob'] at h'
  exact aesGcmDecrypt_unique h h'

/-- A hosted key is written when it is under the old key alone, and moves to the new one. -/
theorem visitHostedKey_write
    (h : visitHostedKey aead isJson old new param key raw = .write raw' errors) :
    ∃ plaintext, hostedPlaintext aead new raw = none ∧
      hostedPlaintext aead old raw = some plaintext ∧
      hostedPlaintext aead new raw' = some plaintext := by
  unfold visitHostedKey at h
  split at h
  · cases h
  · next blob hblob =>
    split at h
    · cases h
    · next hnew =>
      split at h
      · cases h
      · next plaintext hplain =>
        split at h
        · cases h
        · split at h
          · cases h
          · next blob' hblob' =>
            split at h
            · injection h with hraw _
              refine ⟨plaintext, ?_, ?_, ?_⟩
              · unfold hostedPlaintext
                rw [hblob, Option.bind_some]
                exact Option.not_isSome_iff_eq_none.mp hnew
              · unfold hostedPlaintext
                rw [hblob, Option.bind_some]
                exact hplain
              · unfold hostedPlaintext
                rw [← hraw, decode_encode, Option.bind_some]
                exact aesGcmDecrypt_encrypt hblob'
            · cases h

/-- A committed run that leaves a hosted key without an error found it under the new key. -/
theorem visitHostedKey_keep (hcommit : param.commit = true)
    (h : visitHostedKey aead isJson old new param key raw = .keep 0) :
    (hostedPlaintext aead new raw).isSome := by
  unfold visitHostedKey at h
  simp only [hcommit, if_true] at h
  split at h
  · cases h
  · next blob hblob =>
    split at h
    · next hnew =>
      unfold hostedPlaintext
      rw [hblob, Option.bind_some]
      exact hnew
    · split at h
      · cases h
      · split at h
        · cases h
        · split at h <;> cases h

theorem hostedPreserved_of_write
    (h : visitHostedKey aead isJson old new param key raw = .write raw' errors) :
    HostedPreserved aead old new raw raw' := by
  obtain ⟨written, -, hold, hnew⟩ := visitHostedKey_write h
  intro plaintext
  constructor
  · rintro ⟨mek, -, hplain⟩
    have hmek : mek = new := hostedPlaintext_unique hnew hplain
    subst hmek
    exact ⟨old, List.mem_cons_of_mem _ List.mem_cons_self, hold.trans (hnew.symm.trans hplain)⟩
  · rintro ⟨mek, -, hplain⟩
    have hmek : mek = old := hostedPlaintext_unique hold hplain
    subst hmek
    exact ⟨new, List.mem_cons_self, hnew.trans (hold.symm.trans hplain)⟩

theorem hostedUnderNew_of_isSome (h : (hostedPlaintext aead new raw).isSome) :
    HostedUnderNew aead old new raw := by
  intro plaintext hset
  obtain ⟨mek, -, hplain⟩ := hset
  obtain ⟨found, hfound⟩ := Option.isSome_iff_exists.mp h
  have hmek : mek = new := hostedPlaintext_unique hfound hplain
  rw [← hmek]
  exact hplain

theorem visitHostedKey_settled (h : HostedUnderNew aead old new raw) :
    visitHostedKey aead isJson old new param key raw ≠ .write raw' errors := by
  intro hwrite
  obtain ⟨plaintext, hnone, hold, -⟩ := visitHostedKey_write hwrite
  have hnew : hostedPlaintext aead new raw = some plaintext :=
    h plaintext ⟨old, List.mem_cons_of_mem _ List.mem_cons_self, hold⟩
  rw [hnone] at hnew
  cases hnew

/-! ## Runs -/

/-- A run that was interrupted after some keys, or stopped at an error there. -/
structure Interrupted where
  param : RunParam
  pages : List (List String)
  visited : Nat

section Rotation

variable {V : Type} (visit : Mek → Mek → RunParam → String → V → Sweep.Visit V)
  (keys : List (List String) → List String)

/-- The store such a run leaves. -/
def interrupted (oldMek newMek : String) (r : Interrupted) (kv : Sweep.Store String V) :
    Sweep.Store String V :=
  match decodeMek oldMek, decodeMek newMek with
  | some old, some new => (Sweep.run (visit old new r.param) kv ((keys r.pages).take r.visited)).1
  | _, _ => kv

/-- The store after some of them. -/
def afterRuns (oldMek newMek : String) (kv : Sweep.Store String V) (runs : List Interrupted) :
    Sweep.Store String V :=
  runs.foldl (fun kv r => interrupted visit keys oldMek newMek r kv) kv

/-- What a rotation is to keep, for a command `rotate` whose interrupted runs are those of `visit`
over `keys`. -/
structure KeepsSecrets (selected : String → Prop)
    (rotate : RunParam → List (List String) → Sweep.Store String V →
      Sweep.Store String V × Option Nat)
    (oldMek newMek : String) (Preserved : V → V → Prop) (Current : V → Prop) : Prop where
  /-- At every moment every entry is preserved. -/
  moments : ∀ kv runs, Sweep.Related Preserved kv (afterRuns visit keys oldMek newMek kv runs)
  /-- Keys of other names are not touched. -/
  others : ∀ kv runs key, ¬ selected key → afterRuns visit keys oldMek newMek kv runs key = kv key
  /-- After a run without errors all is under the new key and further runs change nothing, exactly
  when what the listing left out is under the new key. -/
  complete_iff : ∀ kv runs param pages, param.commit = true →
    (rotate param pages (afterRuns visit keys oldMek newMek kv runs)).2 = some 0 →
    (((∀ key v, selected key →
          (rotate param pages (afterRuns visit keys oldMek newMek kv runs)).1 key = some v →
          Current v) ∧
        ∀ further, afterRuns visit keys oldMek newMek
          (rotate param pages (afterRuns visit keys oldMek newMek kv runs)).1 further =
            (rotate param pages (afterRuns visit keys oldMek newMek kv runs)).1) ↔
      ∀ key v, selected key → key ∉ keys pages →
        afterRuns visit keys oldMek newMek kv runs key = some v → Current v)

variable {visit keys}

theorem afterRuns_eq (kv : Sweep.Store String V) (runs : List Interrupted) :
    afterRuns visit keys (encode old.val) (encode new.val) kv runs =
      Sweep.attempts (visit old new) kv
        (runs.map fun r => ⟨r.param, (keys r.pages).take r.visited⟩) := by
  induction runs generalizing kv with
  | nil => rfl
  | cons r runs ih =>
    have hstep : interrupted visit keys (encode old.val) (encode new.val) r kv =
        (Sweep.run (visit old new r.param) kv ((keys r.pages).take r.visited)).1 := by
      unfold interrupted
      rw [decodeMek_encode, decodeMek_encode]
    rw [List.map_cons, Sweep.attempts]
    show afterRuns visit keys _ _ (interrupted visit keys _ _ r kv) runs = _
    rw [ih, hstep]

/-- A command keeps the secrets when each of its turns does. -/
theorem keepsSecrets {selected : String → Prop}
    {rotate : RunParam → List (List String) → Sweep.Store String V →
      Sweep.Store String V × Option Nat} {Preserved : V → V → Prop} {Current : V → Prop}
    (hkeys : ∀ pages, ∀ k ∈ keys pages, selected k)
    (hrotate : ∀ param pages kv,
      rotate param pages kv = Sweep.run (visit old new param) kv (keys pages))
    (hrefl : ∀ v, Preserved v v)
    (htrans : ∀ a b c, Preserved a b → Preserved b c → Preserved a c)
    (hwrite : ∀ param k v v' errors, visit old new param k v = .write v' errors → Preserved v v')
    (hkeep : ∀ param : RunParam, param.commit = true → ∀ k v,
      visit old new param k v = .keep 0 → Current v)
    (hmove : ∀ param k v v', visit old new param k v = .write v' 0 → Current v')
    (hsettled : ∀ param k v v' errors, Current v → visit old new param k v ≠ .write v' errors) :
    KeepsSecrets visit keys selected rotate (encode old.val) (encode new.val) Preserved
      Current where
  moments := by
    intro kv runs
    rw [afterRuns_eq]
    exact Sweep.attempts_rel hrefl htrans hwrite _
  others := by
    intro kv runs key hkey
    rw [afterRuns_eq]
    apply Sweep.attempts_of_not_mem
    intro a ha hmem
    obtain ⟨r, -, rfl⟩ := List.mem_map.mp ha
    exact hkey (hkeys r.pages key (List.mem_of_mem_take hmem))
  complete_iff := by
    intro kv runs param pages hcommit herrors
    rw [hrotate] at herrors ⊢
    have hiff : (∀ k v, selected k → (Sweep.run (visit old new param) _ (keys pages)).1 k = some v →
          Current v) ↔ ∀ k v, selected k → k ∉ keys pages → _ = some v → Current v :=
      Sweep.done_iff_left_out (hkeep param hcommit) (hmove param) herrors
    constructor
    · rintro ⟨hall, -⟩
      exact hiff.mp hall
    · intro hleft
      have hall := hiff.mpr hleft
      refine ⟨hall, ?_⟩
      intro further
      rw [afterRuns_eq]
      apply Sweep.attempts_settled hall hsettled
      intro a ha k hk
      obtain ⟨r, -, rfl⟩ := List.mem_map.mp ha
      exact hkeys r.pages k (List.mem_of_mem_take hk)

end Rotation

/-- The keys of policies. -/
def isOriginKey (key : String) : Bool := (stripPrefix "origins/" key).isSome

/-- Thirty-two equal bytes. -/
def sampleMek (b : UInt8) : Mek := ⟨List.replicate 32 b, List.length_replicate⟩

def sampleIv : Iv := ⟨List.replicate 12 0, List.length_replicate⟩

/-- A client's data key. -/
def sampleDek : Bytes := List.replicate 32 9

/-- What the sample cipher makes of a plaintext. -/
def sampleBlob (key plaintext aad : Bytes) : Bytes :=
  sampleIv.val ++ Aead.labelled.encrypt key sampleIv.val aad plaintext

/-- A client under a master key. -/
def sampleClient (mek : Mek) : ClientAuthConfig :=
  { clientId := "client-1"
    encryptedHmacSecret := encode (sampleBlob sampleDek (utf8Bytes "secret") aadHmacSecret)
    dekEncrypted := encode (sampleBlob mek.val sampleDek aadDek)
    encryptionVersion := 1
    other := [] }

/-- A policy with this client. -/
def samplePolicy (mek : Mek) : OriginPolicy :=
  { other := [("origin", .string "https://shop.example")], clients := [sampleClient mek] }

/-- One policy, under the first key. -/
def sampleStore : ConfigStore := fun key =>
  if key = "origins/https://shop.example" then some (samplePolicy (sampleMek 1)).toText else none

theorem sampleStore_policy :
    sampleStore "origins/https://shop.example" = some (samplePolicy (sampleMek 1)).toText :=
  if_pos rfl

/-- A page of one key that comes with a cursor, and the page behind it. -/
def shortPages : List (List String) := [["settings"], ["origins/https://shop.example"]]

theorem encrypt_sampleBlob {key : Bytes} (hkey : key.length = 32) (plaintext aad : Bytes) :
    aesGcmEncrypt Aead.labelled sampleIv key plaintext aad =
      some (sampleBlob key plaintext aad) := by
  unfold aesGcmEncrypt
  rw [if_neg (not_not.mpr hkey)]
  rfl

theorem decrypt_sampleBlob {key : Bytes} (hkey : key.length = 32) (plaintext aad : Bytes) :
    aesGcmDecrypt Aead.labelled key (sampleBlob key plaintext aad) aad = some plaintext :=
  aesGcmDecrypt_encrypt (encrypt_sampleBlob hkey plaintext aad)

theorem sampleClient_dek (mek : Mek) :
    (sampleClient mek).dek Aead.labelled mek = some sampleDek := by
  unfold ClientAuthConfig.dek sampleClient
  rw [decode_encode, Option.bind_some]
  exact decrypt_sampleBlob mek.property _ _

theorem sampleClient_dek_ne {mek mek' : Mek} (hne : mek' ≠ mek) :
    (sampleClient mek).dek Aead.labelled mek' = none := by
  refine Option.eq_none_iff_forall_ne_some.mpr fun dek hdek => ?_
  exact hne (dek_unique (sampleClient_dek mek) hdek)

theorem sampleClient_secret (mek : Mek) :
    (sampleClient mek).secretUnder Aead.labelled sampleDek = some (utf8Bytes "secret") := by
  unfold ClientAuthConfig.secretUnder sampleClient
  rw [decode_encode, Option.bind_some]
  exact decrypt_sampleBlob List.length_replicate _ _

theorem samplePolicy_secret (mek : Mek) : ∃ client ∈ (samplePolicy mek).toText.clients,
    clientSecret Aead.labelled mek client = some (utf8Bytes "secret") ∧
      ∀ mek' ≠ mek, clientSecret Aead.labelled mek' client = none := by
  refine ⟨(sampleClient mek).toJson, List.mem_cons_self, ?_, ?_⟩
  · rw [clientSecret_toJson]
    unfold ClientAuthConfig.secret
    rw [sampleClient_dek, Option.bind_some]
    exact sampleClient_secret mek
  · intro mek' hne
    rw [clientSecret_toJson]
    unfold ClientAuthConfig.secret
    rw [sampleClient_dek_ne hne]
    rfl

theorem sampleMek_ne : sampleMek 2 ≠ sampleMek 1 := by
  intro heq
  exact absurd (congrArg Subtype.val heq) (by decide)

/-! ## Full pages -/

/-- Only the last page is short. -/
def FullPages (pages : List (List String)) : Prop := ∀ page ∈ pages.dropLast, 1000 ≤ page.length

/-- Full pages leave no key out. -/
theorem listAllKeys_full {pages : List (List String)} (h : FullPages pages) :
    listAllKeys pages = pages.flatten := by
  induction pages with
  | nil => rfl
  | cons page rest ih =>
    cases rest with
    | nil => exact (List.append_nil page).symm
    | cons next rest =>
      rw [FullPages, List.dropLast_cons_of_ne_nil (List.cons_ne_nil next rest)] at h
      have hpage : ¬ page.length < 1000 := Nat.not_lt.mpr (h page List.mem_cons_self)
      have hrest : FullPages (next :: rest) := fun p hp => h p (List.mem_cons_of_mem _ hp)
      rw [listAllKeys, if_neg hpage, ih hrest]
      · rfl
      · simp

/-- **Over full pages** that list every policy, a run that counts no error leaves every policy under
the new key. -/
theorem rotateMek_full {pages : List (List String)} {kv : ConfigStore} (hfull : FullPages pages)
    (hlisted : ∀ key text, isOriginKey key = true → kv key = some text → key ∈ pages.flatten)
    (hcommit : param.commit = true)
    (herrors : (rotateMek aead (encode old.val) (encode new.val) param pages kv).2 = some 0) :
    ∀ key text, isOriginKey key = true →
      (rotateMek aead (encode old.val) (encode new.val) param pages kv).1 key = some text →
        PolicyUnderNew aead old new text := by
  unfold rotateMek at herrors ⊢
  rw [decodeMek_encode, decodeMek_encode] at herrors ⊢
  dsimp only at herrors ⊢
  refine (Sweep.done_iff_left_out (fun k v h => underNew_of_keep hcommit h)
    (fun k v v' h => underNew_of_write h) herrors).mpr ?_
  intro key text horigin hleft htext
  refine absurd (List.mem_filter.mpr ⟨?_, horigin⟩) hleft
  rw [listAllKeys_full hfull]
  exact hlisted key text horigin htext

/-- A policy under the old key is re-encrypted. -/
theorem visitPolicy_sample (hne : new ≠ old) :
    visitPolicy Aead.labelled old new ⟨true, fun _ _ => sampleIv⟩ key (samplePolicy old).toText =
      .write (samplePolicy new).toText 0 := by
  have hpolicy : OriginPolicy.fromText (samplePolicy old).toText = some (samplePolicy old) := rfl
  have hclient : visitClient Aead.labelled old new sampleIv (sampleClient old) =
      .reEncrypted (sampleClient new) := by
    rw [visitClient_of_secret (sampleClient_dek_ne hne) (sampleClient_dek old)
      (sampleClient_secret old) (encrypt_sampleBlob new.property _ _)]
    unfold sampleClient
    rfl
  have hclients : visitClients Aead.labelled old new (fun _ => sampleIv)
      (samplePolicy old).clients = some ([sampleClient new], true, 0) := by
    simp only [samplePolicy, visitClients, hclient]
  unfold visitPolicy
  rw [hpolicy]
  dsimp only
  rw [hclients]
  rfl

/-- On one page the policy is re-encrypted, and no error is counted. -/
example : rotateMek Aead.labelled (encode (sampleMek 1).val) (encode (sampleMek 2).val)
    ⟨true, fun _ _ => sampleIv⟩ [shortPages.flatten] sampleStore =
      (Function.update sampleStore "origins/https://shop.example"
        (some (samplePolicy (sampleMek 2)).toText), some 0) := by
  have hkeys : originKeys [shortPages.flatten] = ["origins/https://shop.example"] := by decide
  unfold rotateMek
  rw [decodeMek_encode, decodeMek_encode]
  dsimp only
  rw [hkeys]
  rw [Sweep.run_write sampleStore_policy (visitPolicy_sample sampleMek_ne)]
  rfl

/-! ## A short page -/

end KeyRotation

end ProviiVerifier
