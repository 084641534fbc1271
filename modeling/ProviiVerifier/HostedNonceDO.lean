/-
  `hosted/durable_objects/hosted_nonce_do.rs`: the Durable Object of the hosted flow that
  consumes nonces.

  The clock is read once for the check and once more for the record, after the expired record is
  deleted. The object has no alarm.
-/
import ProviiVerifier.NonceDO

namespace ProviiVerifier

namespace HostedNonceDO

/-- `NonceRecord`; nothing sets `used_by`. -/
structure NonceRecord where
  nonce : String
  createdAt : Nat
  expiresAt : Nat
  usedBy : Option String
  deriving DecidableEq, Repr

/-- The `nonce:{nonce}` records. -/
abbrev Storage := String → Option NonceRecord

/-- How the storage operations of one request go. -/
structure Faults where
  get : Bool
  delete : Bool
  put : Bool
  deriving DecidableEq

/-- Every storage operation succeeds. -/
def Faults.none : Faults := ⟨true, true, true⟩

/-- `check_and_set_internal`: whether the nonce was stored; `none` is an error. -/
def checkAndSetInternal (s : Storage) (checkedAt storedAt : Nat) (f : Faults) (nonce : String)
    (ttlSeconds : Nat) : Option Bool × Storage :=
  match (if f.get then s nonce else none) with
  | some record =>
    if record.expiresAt ≥ checkedAt then (some false, s)
    else
      let s := if f.delete then Function.update s nonce none else s
      store s storedAt f nonce ttlSeconds
  | none => store s storedAt f nonce ttlSeconds
where
  /-- The write of the record. -/
  store (s : Storage) (storedAt : Nat) (f : Faults) (nonce : String) (ttlSeconds : Nat) :
      Option Bool × Storage :=
    if f.put then
      (some true, Function.update s nonce
        (some ⟨nonce, storedAt, NonceDO.satAdd storedAt ttlSeconds, none⟩))
    else (none, s)

variable {s : Storage} {checkedAt storedAt : Nat} {f : Faults} {nonce : String} {ttl : Nat}

/-- A nonce that is not known to be used is stored if the write succeeds. -/
theorem checkAndSetInternal_free (hfree : ∀ record, f.get = true → s nonce = some record →
      record.expiresAt < checkedAt) (hput : f.put = true) :
    (checkAndSetInternal s checkedAt storedAt f nonce ttl).1 = some true := by
  unfold checkAndSetInternal
  split
  · next record hread =>
    have hget : f.get = true := by
      by_contra hget
      simp [hget] at hread
    rw [if_pos hget] at hread
    rw [if_neg (Nat.not_le.mpr (hfree record hget hread))]
    simp [checkAndSetInternal.store, hput]
  · simp [checkAndSetInternal.store, hput]

/-- **Inversion of a request**: it stores a fresh record and says so, when the nonce was free or
the read failed, or it says nothing of the kind and at most removes an expired record. -/
theorem checkAndSetInternal_cases (s : Storage) (checkedAt storedAt : Nat) (f : Faults)
    (nonce : String) (ttl : Nat) :
    let r := checkAndSetInternal s checkedAt storedAt f nonce ttl
    (r.1 = some true ∧ f.put = true ∧
      (f.get = true → ∀ record, s nonce = some record → record.expiresAt < checkedAt) ∧
      r.2 nonce = some ⟨nonce, storedAt, NonceDO.satAdd storedAt ttl, none⟩) ∨
    (r.1 ≠ some true ∧ (r.2 nonce = s nonce ∨
      r.2 nonce = none ∧ ∃ record, s nonce = some record ∧ record.expiresAt < checkedAt)) := by
  dsimp only
  unfold checkAndSetInternal
  split
  · next record hread =>
    have hget : f.get = true := by
      by_contra hget
      simp [hget] at hread
    rw [if_pos hget] at hread
    by_cases hlive : record.expiresAt ≥ checkedAt
    · simp [hlive]
    · rw [if_neg hlive]
      have hexp : record.expiresAt < checkedAt := Nat.not_le.mp hlive
      by_cases hput : f.put = true
      · left
        refine ⟨by simp [checkAndSetInternal.store, hput], hput, ?_,
          by simp [checkAndSetInternal.store, hput]⟩
        intro _ r hr
        rw [hread] at hr
        cases hr
        exact hexp
      · right
        refine ⟨by simp [checkAndSetInternal.store, hput], ?_⟩
        by_cases hdelete : f.delete = true
        · right
          exact ⟨by simp [checkAndSetInternal.store, hput, hdelete], record, hread, hexp⟩
        · left
          simp [checkAndSetInternal.store, hput, hdelete]
  · next hread =>
    by_cases hput : f.put = true
    · left
      refine ⟨by simp [checkAndSetInternal.store, hput], hput, ?_,
        by simp [checkAndSetInternal.store, hput]⟩
      intro hget record hrecord
      rw [if_pos hget, hrecord] at hread
      cases hread
    · right
      exact ⟨by simp [checkAndSetInternal.store, hput],
        .inl (by simp [checkAndSetInternal.store, hput])⟩

/-- Other nonces keep their record. -/
theorem checkAndSetInternal_other {u : String} (hu : u ≠ nonce) :
    (checkAndSetInternal s checkedAt storedAt f nonce ttl).2 u = s u := by
  unfold checkAndSetInternal checkAndSetInternal.store
  repeat' split
  all_goals simp_all [Function.update_of_ne]

end HostedNonceDO

end ProviiVerifier
