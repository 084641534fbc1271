/-
  `hosted/keys.rs`: how the worker reads hosted keys while their master key is rotated.

  `get_key` decrypts with the current master key only. Session decryption, in
  `hosted/storage/kv.rs`, tries the previous one as well. A run interleaves the turns of
  `rotate_hosted_mek`, in any order, with the switch of the worker from the old key to the new one,
  which leaves the old one in the previous slot.

  Proved: in every run a lookup reads a stored key exactly when the key's entry is under the new
  master key, by its origin or by a turn that was committed, if and only if the worker has switched
  (`get_key_reads_iff`). With the fallback it would after the switch be read in any case
  (`fallback_reads`).
-/
import ProviiVerifier.HostedChallenge
import ProviiVerifier.RotatedSecrets

namespace ProviiVerifier

/-- `HostedApiError`, as far as `get_key` uses it. -/
inductive HostedApiError
  | unauthorized (message : String)
  | internalError (message : String)
  | serviceUnavailable (message : String)
  deriving DecidableEq, Repr

namespace HostedKeys

open KeyRotation

/-- `String::from_utf8`. -/
def fromUtf8 (bytes : Bytes) : Option String := String.fromUTF8? ⟨bytes.toArray⟩

/-- `decrypt_with_mek`. -/
def decryptWithMek (aead : Aead) (mek : Mek) (encryptedB64 : String) (aad : Bytes) :
    Option String :=
  match decode encryptedB64 with
  | none => none
  | some data =>
    if data.length < 28 then none
    else (aead.decrypt mek.val (data.take 12) aad (data.drop 12)).bind fromUtf8

/-- The worker's master keys: `HOSTED_MEK` and `HOSTED_MEK_PREVIOUS`. -/
structure Slots where
  current : Mek
  previous : Option Mek

/-- Session decryption: the current key, then the previous one. -/
def decryptWithFallback (aead : Aead) (slots : Slots) (encrypted : String) (aad : Bytes) :
    Option String :=
  match decryptWithMek aead slots.current encrypted aad with
  | some text => some text
  | none => slots.previous.bind fun mek => decryptWithMek aead mek encrypted aad

/-- `validate_key_format`. -/
def validateKeyFormat (key : String) : Except HostedApiError Unit :=
  if (stripPrefix "pk_live_" key).isNone ∧ (stripPrefix "pk_test_" key).isNone then
    .error (.unauthorized "Invalid key format: must start with pk_live_ or pk_test_")
  else
    let hexPart := key.toList.drop 8
    if byteLen (String.ofList hexPart) ≠ 64 then
      .error (.unauthorized "Invalid key format: must be 32 bytes (64 hex characters)")
    else if hexPart.all isAsciiHexdigit = false then
      .error (.unauthorized "Invalid key format: must contain only hexadecimal characters")
    else .ok ()

/-- `KeyManager::get_key` with a namespace and a current key that are there; `parse` is the JSON
reader of `PublicKeyData`. -/
def getKey (aead : Aead) (parse : String → Option PublicKeyData) (slots : Slots) (kv : HostedStore)
    (publicKey : String) : Except HostedApiError PublicKeyData := do
  validateKeyFormat publicKey
  match kv publicKey with
  | none => .error (.unauthorized "Invalid or unknown public key")
  | some encryptedValue =>
    match decryptWithMek aead slots.current encryptedValue publicKeyDataAad with
    | none => .error (.internalError "Failed to decrypt key data")
    | some decryptedJson =>
      match parse decryptedJson with
      | none => .error (.internalError "Failed to parse decrypted key data")
      | some keyData => .ok keyData

theorem toArray_utf8Bytes (s : String) :
    (⟨(utf8Bytes s).toArray⟩ : ByteArray) = s.toByteArray := by
  rw [← String.utf8Encode_toList, List.utf8Encode]
  apply ByteArray.ext
  simp [utf8Bytes]

theorem fromUtf8_utf8Bytes (s : String) : fromUtf8 (utf8Bytes s) = some s := by
  unfold fromUtf8 String.fromUTF8?
  rw [toArray_utf8Bytes, dif_pos s.isValidUTF8]
  rfl

theorem utf8Bytes_of_fromUtf8 {bytes : Bytes} {s : String} (h : fromUtf8 bytes = some s) :
    utf8Bytes s = bytes := by
  unfold fromUtf8 String.fromUTF8? at h
  split at h
  · injection h with h
    have hbytes : s.toByteArray = ⟨bytes.toArray⟩ := by
      rw [← h]
      rfl
    rw [← toArray_utf8Bytes] at hbytes
    injection hbytes with hdata
    exact congrArg Array.toList hdata
  · cases h

/-! ## Runs -/

/-- What a run does: a turn of the tool at a key, or the switch. -/
inductive Action
  | turn (param : RunParam) (key : String)
  | switch

structure World where
  kv : HostedStore
  switched : Bool

section

variable (aead : Aead) (isJson : Bytes → Bool) (old new : Mek)

/-- The worker's keys before and after the switch. -/
def World.slots (w : World) : Slots :=
  if w.switched then { current := new, previous := some old }
  else { current := old, previous := none }

def World.next (w : World) : Action → World
  | .turn param key =>
    { w with kv := (Sweep.run (visitHostedKey aead isJson old new param) w.kv [key]).1 }
  | .switch => { w with switched := true }

def World.run (w : World) : List Action → World
  | [] => w
  | a :: rest => World.run (w.next aead isJson old new a) rest

end

/-- Some turn of the run at the key is committed. -/
def Rewritten (actions : List Action) (key : String) : Prop :=
  ∃ param, Action.turn param key ∈ actions ∧ param.commit = true

variable {aead : Aead} {isJson : Bytes → Bool} {parse : String → Option PublicKeyData}
  {old new mek : Mek} {kv : HostedStore} {key raw text : String} {plaintext : Bytes}
  {data : PublicKeyData} {w : World}

/-! ## Reading an entry -/

/-- The worker decrypts what the tool decrypts. -/
theorem decryptWithMek_eq : decryptWithMek aead mek raw publicKeyDataAad =
    (hostedPlaintext aead mek raw).bind fromUtf8 := by
  unfold decryptWithMek hostedPlaintext
  cases decode raw with
  | none => rfl
  | some blob =>
    rw [Option.bind_some]
    unfold aesGcmDecrypt
    rw [if_neg (not_not.mpr mek.property)]
    dsimp only
    split <;> rfl

/-- The entry of a key is under a master key, and is the text of its data. -/
structure Readable (aead : Aead) (isJson : Bytes → Bool) (parse : String → Option PublicKeyData)
    (mek : Mek) (raw : String) (plaintext : Bytes) (data : PublicKeyData) : Prop where
  under : hostedPlaintext aead mek raw = some plaintext
  json : isJson plaintext = true
  parsed : (fromUtf8 plaintext).bind parse = some data

/-- **A lookup reads an entry** that is under the current key, and no other. -/
theorem getKey_iff (hformat : validateKeyFormat key = .ok ()) (hraw : kv key = some raw)
    (h : Readable aead isJson parse mek raw plaintext data) (slots : Slots) :
    getKey aead parse slots kv key = .ok data ↔ slots.current = mek := by
  unfold getKey
  rw [hformat, hraw]
  simp only [bind, Except.bind, decryptWithMek_eq]
  constructor
  · intro hok
    cases hplain : hostedPlaintext aead slots.current raw with
    | none =>
      rw [hplain] at hok
      cases hok
    | some found => exact hostedPlaintext_unique h.under hplain
  · intro heq
    obtain ⟨text, htext, hparse⟩ := Option.bind_eq_some_iff.mp h.parsed
    rw [heq, h.under, Option.bind_some, htext]
    dsimp only
    rw [hparse]

/-- The fallback reads an entry that is under either key. -/
theorem decryptWithFallback_isSome (h : Readable aead isJson parse mek raw plaintext data)
    (slots : Slots) (hslot : slots.current = mek ∨ slots.previous = some mek) :
    (decryptWithFallback aead slots raw publicKeyDataAad).isSome = true := by
  obtain ⟨text, htext, -⟩ := Option.bind_eq_some_iff.mp h.parsed
  have hread : decryptWithMek aead mek raw publicKeyDataAad = some text := by
    rw [decryptWithMek_eq, h.under, Option.bind_some, htext]
  unfold decryptWithFallback
  rcases hslot with hcurrent | hprevious
  · rw [hcurrent, hread]
    rfl
  · cases decryptWithMek aead slots.current raw publicKeyDataAad with
    | some text' => rfl
    | none =>
      dsimp only
      rw [hprevious, Option.bind_some, hread]
      rfl

/-! ## Turns -/

theorem run_singleton_ne {visit : String → String → Sweep.Visit String} {key' : String}
    (h : key ≠ key') : (Sweep.run visit kv [key']).1 key = kv key :=
  Sweep.run_of_not_mem (by simpa using h)

/-- What a turn at the key itself leaves. -/
theorem run_singleton {visit : String → String → Sweep.Visit String} (hraw : kv key = some raw) :
    (∀ raw' errors, visit key raw ≠ .write raw' errors) ∧ (Sweep.run visit kv [key]).1 = kv ∨
      ∃ raw' errors, visit key raw = .write raw' errors ∧
        (Sweep.run visit kv [key]).1 = Function.update kv key (some raw') := by
  obtain ⟨hnone, -⟩ | ⟨v, hv, hvisit, hrun⟩ | ⟨v, e, hv, hvisit, hrun⟩ |
    ⟨v, v', e, hv, hvisit, hrun⟩ := Sweep.run_cons visit kv key []
  · rw [hraw] at hnone
    cases hnone
  · rw [hraw, Option.some.injEq] at hv
    subst hv
    rw [hrun, hvisit]
    exact .inl ⟨fun _ _ h => (by cases h), rfl⟩
  · rw [hraw, Option.some.injEq] at hv
    subst hv
    rw [hrun, hvisit]
    exact .inl ⟨fun _ _ h => (by cases h), rfl⟩
  · rw [hraw, Option.some.injEq] at hv
    subst hv
    rw [hrun]
    exact .inr ⟨v', e, hvisit, rfl⟩

theorem commit_of_write {param : RunParam} {raw' : String} {errors : Nat}
    (h : visitHostedKey aead isJson old new param key raw = .write raw' errors) :
    param.commit = true := by
  by_contra hcommit
  unfold visitHostedKey at h
  simp only [Bool.eq_false_iff.mpr hcommit, Bool.false_eq_true, if_false] at h
  split at h
  · cases h
  · split at h
    · cases h
    · split at h
      · cases h
      · split at h
        · cases h
        · split at h <;> cases h

/-- A committed turn moves a readable entry that is under the old key. -/
theorem visitHostedKey_moves {param : RunParam} (hne : old ≠ new) (hcommit : param.commit = true)
    (h : Readable aead isJson parse old raw plaintext data) :
    ∃ raw', visitHostedKey aead isJson old new param key raw = .write raw' 0 := by
  obtain ⟨blob, hblob, hold⟩ := Option.bind_eq_some_iff.mp h.under
  have hnew : aesGcmDecrypt aead new.val blob publicKeyDataAad = none := by
    cases hplain : aesGcmDecrypt aead new.val blob publicKeyDataAad with
    | none => rfl
    | some found => exact absurd (aesGcmDecrypt_unique hplain hold) hne
  have hencrypt : ∃ blob', aesGcmEncrypt aead (param.ivs key 0) new.val plaintext
      publicKeyDataAad = some blob' := by
    unfold aesGcmEncrypt
    rw [if_neg (not_not.mpr new.property)]
    exact ⟨_, rfl⟩
  obtain ⟨blob', hblob'⟩ := hencrypt
  refine ⟨encode blob', ?_⟩
  unfold visitHostedKey
  rw [hblob]
  dsimp only
  rw [hnew, hold]
  simp only [Option.isSome_none, Bool.false_eq_true, if_false, h.json, Bool.true_eq_false, hblob',
    hcommit, if_true]

/-- What a turn writes is readable under the new key. -/
theorem readable_of_write {param : RunParam} {raw' : String} {errors : Nat}
    (h : Readable aead isJson parse mek raw plaintext data)
    (hwrite : visitHostedKey aead isJson old new param key raw = .write raw' errors) :
    mek = old ∧ Readable aead isJson parse new raw' plaintext data := by
  obtain ⟨found, -, hold, hnew⟩ := visitHostedKey_write hwrite
  have hmek : mek = old := hostedPlaintext_unique hold h.under
  subst hmek
  rw [h.under, Option.some.injEq] at hold
  rw [← hold] at hnew
  exact ⟨rfl, hnew, h.json, h.parsed⟩

/-- The key an entry is under after a turn of the run. -/
def holderAfter (mek new : Mek) (key : String) : Action → Mek
  | .turn param key' => if key' = key ∧ param.commit = true then new else mek
  | .switch => mek

/-- **Step**: an entry stays readable, under the new key when a committed turn comes to it. -/
theorem readable_next (hmek : mek = old ∨ mek = new)
    (hraw : w.kv key = some raw) (h : Readable aead isJson parse mek raw plaintext data)
    (a : Action) :
    ∃ raw', (w.next aead isJson old new a).kv key = some raw' ∧
      Readable aead isJson parse (holderAfter mek new key a) raw' plaintext data := by
  cases a with
  | switch => exact ⟨raw, hraw, h⟩
  | turn param key' =>
    by_cases hkey : key' = key
    · subst hkey
      have hstay : (∀ raw' errors,
          visitHostedKey aead isJson old new param key' raw ≠ .write raw' errors) →
          holderAfter mek new key' (.turn param key') = mek := by
        intro hno
        unfold holderAfter
        dsimp only
        by_cases hcommit : param.commit = true
        · rw [if_pos ⟨rfl, hcommit⟩]
          by_cases hnew : mek = new
          · exact hnew.symm
          · have hold : mek = old := hmek.resolve_right hnew
            subst hold
            obtain ⟨raw', hwrite⟩ : ∃ raw',
                visitHostedKey aead isJson mek new param key' raw = .write raw' 0 :=
              visitHostedKey_moves hnew hcommit h
            exact absurd hwrite (hno raw' 0)
        · rw [if_neg fun hand => hcommit hand.2]
      let visit := visitHostedKey aead isJson old new param
      have hturn : (∀ raw' errors, visit key' raw ≠ .write raw' errors) ∧
          (Sweep.run visit w.kv [key']).1 = w.kv ∨ ∃ raw' errors,
            visit key' raw = .write raw' errors ∧
              (Sweep.run visit w.kv [key']).1 = Function.update w.kv key' (some raw') :=
        run_singleton hraw
      obtain ⟨hno, hrun⟩ | ⟨raw', errors, hwrite, hrun⟩ := hturn
      · refine ⟨raw, ?_, ?_⟩
        · show (Sweep.run _ w.kv [key']).1 key' = _
          rw [hrun]
          exact hraw
        · rw [hstay hno]
          exact h
      · obtain ⟨-, hnew⟩ := readable_of_write h hwrite
        have hcommit : param.commit = true := commit_of_write hwrite
        refine ⟨raw', ?_, ?_⟩
        · show (Sweep.run _ w.kv [key']).1 key' = _
          rw [hrun, Function.update_self]
        · unfold holderAfter
          dsimp only
          rw [if_pos ⟨rfl, hcommit⟩]
          exact hnew
    · refine ⟨raw, ?_, ?_⟩
      · show (Sweep.run _ w.kv [key']).1 key = _
        rw [run_singleton_ne (Ne.symm hkey)]
        exact hraw
      · unfold holderAfter
        dsimp only
        rw [if_neg fun hand => hkey hand.1]
        exact h

/-- The key an entry is under after a run. -/
def holderIn (new : Mek) (key : String) : Mek → List Action → Mek
  | mek, [] => mek
  | mek, a :: rest => holderIn new key (holderAfter mek new key a) rest

theorem holderAfter_or (hmek : mek = old ∨ mek = new) (a : Action) :
    holderAfter mek new key a = old ∨ holderAfter mek new key a = new := by
  cases a with
  | switch => exact hmek
  | turn param key' =>
    unfold holderAfter
    dsimp only
    split
    · exact .inr rfl
    · exact hmek

/-- **Run**: at every moment an entry is readable under one of the two keys. -/
theorem readable_run (hmek : mek = old ∨ mek = new)
    (hraw : w.kv key = some raw) (h : Readable aead isJson parse mek raw plaintext data)
    (actions : List Action) :
    ∃ raw', (w.run aead isJson old new actions).kv key = some raw' ∧
      Readable aead isJson parse (holderIn new key mek actions) raw' plaintext data := by
  induction actions generalizing w raw mek with
  | nil => exact ⟨raw, hraw, h⟩
  | cons a rest ih =>
    obtain ⟨raw', hraw', h'⟩ := readable_next hmek hraw h a
    exact ih (holderAfter_or hmek a) hraw' h'

theorem holderIn_or (hmek : mek = old ∨ mek = new) (actions : List Action) :
    holderIn new key mek actions = old ∨ holderIn new key mek actions = new := by
  induction actions generalizing mek with
  | nil => exact hmek
  | cons a rest ih => exact ih (holderAfter_or hmek a)

/-- An entry ends under the new key exactly when it began there or a committed turn came to it. -/
theorem holderIn_iff (actions : List Action) :
    holderIn new key mek actions = new ↔ mek = new ∨ Rewritten actions key := by
  induction actions generalizing mek with
  | nil =>
    constructor
    · exact .inl
    · rintro (h | ⟨param, hmem, -⟩)
      · exact h
      · cases hmem
  | cons a rest ih =>
    rw [holderIn, ih]
    have hstep : holderAfter mek new key a = new ↔
        mek = new ∨ ∃ param, a = .turn param key ∧ param.commit = true := by
      cases a with
      | switch =>
        constructor
        · exact .inl
        · rintro (h | ⟨param, heq, -⟩)
          · exact h
          · cases heq
      | turn param key' =>
        unfold holderAfter
        dsimp only
        by_cases hand : key' = key ∧ param.commit = true
        · rw [if_pos hand]
          exact iff_of_true rfl (.inr ⟨param, by rw [hand.1], hand.2⟩)
        · rw [if_neg hand]
          constructor
          · exact .inl
          · rintro (h | ⟨param', heq, hcommit⟩)
            · exact h
            · injection heq with hparam hkey
              rw [← hparam] at hcommit
              exact absurd ⟨hkey, hcommit⟩ hand
    rw [hstep]
    constructor
    · rintro ((h | ⟨param, rfl, hcommit⟩) | ⟨param, hmem, hcommit⟩)
      · exact .inl h
      · exact .inr ⟨param, List.mem_cons_self, hcommit⟩
      · exact .inr ⟨param, List.mem_cons_of_mem _ hmem, hcommit⟩
    · rintro (h | ⟨param, hmem, hcommit⟩)
      · exact .inl (.inl h)
      · rcases List.mem_cons.mp hmem with heq | hmem
        · exact .inl (.inr ⟨param, heq.symm, hcommit⟩)
        · exact .inr ⟨param, hmem, hcommit⟩

/-- A run that begins before the switch. -/
def World.start (kv : HostedStore) : World := { kv := kv, switched := false }

/-- **Lookups in a rotation**: a stored key is read exactly when its entry is under the new master
key if and only if the worker has switched. -/
theorem get_key_reads_iff (aead : Aead) (isJson : Bytes → Bool)
    (parse : String → Option PublicKeyData) (old new mek : Mek) (kv : HostedStore)
    (key raw : String) (plaintext : Bytes) (data : PublicKeyData) (actions : List Action)
    (hmek : mek = old ∨ mek = new) (hformat : validateKeyFormat key = .ok ())
    (hraw : kv key = some raw) (h : Readable aead isJson parse mek raw plaintext data) :
    let w := (World.start kv).run aead isJson old new actions
    getKey aead parse (w.slots old new) w.kv key = .ok data ↔
      old = new ∨ (w.switched = true ↔ mek = new ∨ Rewritten actions key) := by
  intro w
  have hstart : (World.start kv).kv key = some raw := hraw
  obtain ⟨raw', hraw', hreadable⟩ := readable_run hmek hstart h actions
  have hholder : holderIn new key mek actions = new ↔ mek = new ∨ Rewritten actions key :=
    holderIn_iff actions
  have hor : holderIn new key mek actions = old ∨ holderIn new key mek actions = new :=
    holderIn_or hmek actions
  rw [getKey_iff hformat hraw' hreadable, ← hholder]
  unfold World.slots
  by_cases hswitched : w.switched = true
  · rw [if_pos hswitched]
    constructor
    · intro hcurrent
      exact .inr (iff_of_true hswitched hcurrent.symm)
    · rintro (heq | hiff)
      · rcases hor with hor | hor
        · exact heq.symm.trans hor.symm
        · exact hor.symm
      · exact (hiff.mp hswitched).symm
  · rw [if_neg hswitched]
    constructor
    · intro hcurrent
      by_cases heq : old = new
      · exact .inl heq
      · exact .inr (iff_of_false hswitched fun hnew => heq (hcurrent.trans hnew))
    · rintro (heq | hiff)
      · rcases hor with hor | hor
        · exact hor.symm
        · exact heq.trans hor.symm
      · exact (hor.resolve_right fun hnew => hswitched (hiff.mpr hnew)).symm

/-- **With the fallback** of session decryption a lookup after the switch reads every entry. -/
theorem fallback_reads (hmek : mek = old ∨ mek = new) (hraw : kv key = some raw)
    (h : Readable aead isJson parse mek raw plaintext data) (actions : List Action)
    (hswitched : ((World.start kv).run aead isJson old new actions).switched = true) :
    ∃ raw', ((World.start kv).run aead isJson old new actions).kv key = some raw' ∧
      (decryptWithFallback aead
        (((World.start kv).run aead isJson old new actions).slots old new) raw'
        publicKeyDataAad).isSome = true := by
  have hstart : (World.start kv).kv key = some raw := hraw
  obtain ⟨raw', hraw', hreadable⟩ := readable_run hmek hstart h actions
  refine ⟨raw', hraw', ?_⟩
  apply decryptWithFallback_isSome hreadable
  unfold World.slots
  rw [if_pos hswitched]
  rcases holderIn_or hmek actions with hold | hnew
  · exact .inr (congrArg some hold.symm)
  · exact .inl hnew.symm

/-! ## A lookup between the switch and the rewriting -/

/-- A live key of zeros. -/
def sampleKey : String :=
  "pk_live_0000000000000000000000000000000000000000000000000000000000000000"

/-- The JSON of its data. -/
def sampleText : String := "\x7b\"allowed_origins\":[\"https://shop.example\"],\"enabled\":true\x7d"

def sampleData : PublicKeyData := { allowedOrigins := ["https://shop.example"], enabled := true }

def sampleIsJson (bytes : Bytes) : Bool := bytes = utf8Bytes sampleText

def sampleParse (text : String) : Option PublicKeyData :=
  if text = sampleText then some sampleData else none

/-- The entry of the key under a master key. -/
def sampleEntry (mek : Mek) : String :=
  encode (sampleBlob mek.val (utf8Bytes sampleText) publicKeyDataAad)

/-- One hosted key, under the first master key. -/
def sampleHosted : HostedStore := fun key =>
  if key = sampleKey then some (sampleEntry (sampleMek 1)) else none

theorem sampleHosted_key : sampleHosted sampleKey = some (sampleEntry (sampleMek 1)) := if_pos rfl

theorem sampleKey_format : validateKeyFormat sampleKey = .ok () := by decide +kernel

theorem sampleEntry_readable (mek : Mek) : Readable Aead.labelled sampleIsJson sampleParse mek
    (sampleEntry mek) (utf8Bytes sampleText) sampleData where
  under := by
    unfold hostedPlaintext sampleEntry
    rw [decode_encode, Option.bind_some]
    exact decrypt_sampleBlob mek.property _ _
  json := decide_eq_true rfl
  parsed := by
    rw [fromUtf8_utf8Bytes, Option.bind_some]
    exact if_pos rfl

/-- **A lookup after the switch** fails until the tool comes to the key. -/
theorem lookup_fails_after_switch :
    ¬ ∀ (actions : List Action) (kv : HostedStore) (key raw : String) (plaintext : Bytes)
        (data : PublicKeyData), validateKeyFormat key = .ok () → kv key = some raw →
      Readable Aead.labelled sampleIsJson sampleParse (sampleMek 1) raw plaintext data →
      getKey Aead.labelled sampleParse
        (((World.start kv).run Aead.labelled sampleIsJson (sampleMek 1) (sampleMek 2)
          actions).slots (sampleMek 1) (sampleMek 2))
        ((World.start kv).run Aead.labelled sampleIsJson (sampleMek 1) (sampleMek 2) actions).kv
        key = .ok data := by
  intro h
  have hread := h [.switch] sampleHosted sampleKey _ _ sampleData sampleKey_format
    sampleHosted_key (sampleEntry_readable (sampleMek 1))
  have hcurrent := (getKey_iff sampleKey_format sampleHosted_key
    (sampleEntry_readable (sampleMek 1)) _).mp hread
  exact absurd (congrArg Subtype.val hcurrent) (by decide)

/-- After the switch and the rewriting the key is read. -/
theorem lookup_reads_after_rewriting :
    let w := (World.start sampleHosted).run Aead.labelled sampleIsJson (sampleMek 1) (sampleMek 2)
      [.switch, .turn ⟨true, fun _ _ => sampleIv⟩ sampleKey]
    getKey Aead.labelled sampleParse (w.slots (sampleMek 1) (sampleMek 2)) w.kv sampleKey =
      .ok sampleData :=
  (get_key_reads_iff Aead.labelled sampleIsJson sampleParse (sampleMek 1) (sampleMek 2)
    (sampleMek 1) sampleHosted sampleKey _ _ sampleData _ (.inl rfl) sampleKey_format
    sampleHosted_key (sampleEntry_readable (sampleMek 1))).mpr
    (.inr (iff_of_true rfl (.inr ⟨_, List.mem_cons_of_mem _ List.mem_cons_self, rfl⟩)))

end HostedKeys

end ProviiVerifier
