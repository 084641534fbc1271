/-
  Authenticated encryption, as far as its users can tell.

  An `Aead` is a pair of functions with the laws its users rely on: what is encrypted is decrypted,
  a ciphertext has a tag, and one ciphertext is decrypted by one key and one set of associated data
  only. A cipher is `Exact` when it decrypts nothing else than what it encrypts.

  A blob is a ciphertext behind its nonce of 12 bytes. Proved: a blob is opened to what was sealed
  in it (`opened_sealed`), with an exact cipher nothing else is opened (`opened_iff`), and by one
  key and one set of associated data only (`opened_unique`).

  `labelled` has all the laws: it writes the key and the associated data before the plaintext. It
  hides nothing, and shows that the laws can be met.
-/
import Mathlib.Data.List.Basic
import Mathlib.Data.List.Infix

/-- Authenticated encryption with a nonce and associated data. -/
structure Aead where
  encrypt : (key nonce aad plaintext : List UInt8) → List UInt8
  decrypt : (key nonce aad ciphertext : List UInt8) → Option (List UInt8)
  decrypt_encrypt : ∀ key nonce aad plaintext,
    decrypt key nonce aad (encrypt key nonce aad plaintext) = some plaintext
  tag_length : ∀ key nonce aad plaintext, 16 ≤ (encrypt key nonce aad plaintext).length
  unique : ∀ key key' nonce aad aad' ciphertext plaintext plaintext',
    decrypt key nonce aad ciphertext = some plaintext →
    decrypt key' nonce aad' ciphertext = some plaintext' → key' = key ∧ aad' = aad

namespace Aead

/-- What decrypts is what encryption makes of the plaintext. -/
def Exact (aead : Aead) : Prop :=
  ∀ key nonce aad ciphertext plaintext, aead.decrypt key nonce aad ciphertext = some plaintext →
    ciphertext = aead.encrypt key nonce aad plaintext

/-! ## A ciphertext behind its nonce -/

/-- The nonce and the ciphertext. -/
def sealed (aead : Aead) (key nonce aad plaintext : List UInt8) : List UInt8 :=
  nonce ++ aead.encrypt key nonce aad plaintext

/-- Split off a nonce of 12 bytes and decrypt the rest, which has a tag. -/
def opened (aead : Aead) (key aad blob : List UInt8) : Option (List UInt8) :=
  if blob.length < 12 + 16 then none else aead.decrypt key (blob.take 12) aad (blob.drop 12)

section

variable {aead : Aead} {key key' nonce aad aad' blob plaintext plaintext' : List UInt8}

theorem sealed_length (hnonce : nonce.length = 12) :
    12 + 16 ≤ (aead.sealed key nonce aad plaintext).length := by
  have htag := aead.tag_length key nonce aad plaintext
  unfold sealed
  rw [List.length_append]
  omega

theorem take_sealed (hnonce : nonce.length = 12) :
    (aead.sealed key nonce aad plaintext).take 12 = nonce := List.take_left' hnonce

theorem drop_sealed (hnonce : nonce.length = 12) :
    (aead.sealed key nonce aad plaintext).drop 12 = aead.encrypt key nonce aad plaintext :=
  List.drop_left' hnonce

/-- **Round trip**: a blob is opened to what was sealed in it. -/
theorem opened_sealed (hnonce : nonce.length = 12) :
    aead.opened key aad (aead.sealed key nonce aad plaintext) = some plaintext := by
  have hlen : ¬ (aead.sealed key nonce aad plaintext).length < 12 + 16 :=
    Nat.not_lt.mpr (sealed_length hnonce)
  unfold opened
  rw [if_neg hlen, take_sealed hnonce, drop_sealed hnonce]
  exact aead.decrypt_encrypt key nonce aad plaintext

theorem decrypt_of_opened (h : aead.opened key aad blob = some plaintext) :
    12 + 16 ≤ blob.length ∧
      aead.decrypt key (blob.take 12) aad (blob.drop 12) = some plaintext := by
  unfold opened at h
  split at h
  · cases h
  · next hlen => exact ⟨Nat.not_lt.mp hlen, h⟩

/-- **An exact cipher** opens what was sealed, and nothing else. -/
theorem opened_iff (hexact : aead.Exact) : aead.opened key aad blob = some plaintext ↔
    ∃ nonce, nonce.length = 12 ∧ blob = aead.sealed key nonce aad plaintext := by
  constructor
  · intro h
    obtain ⟨hlen, hdecrypt⟩ := decrypt_of_opened h
    have hnonce : (blob.take 12).length = 12 := by
      rw [List.length_take]
      omega
    have hdrop := hexact _ _ _ _ _ hdecrypt
    refine ⟨blob.take 12, hnonce, ?_⟩
    unfold sealed
    rw [← hdrop, List.take_append_drop]
  · intro h
    obtain ⟨nonce, hnonce, hblob⟩ := h
    rw [hblob]
    exact opened_sealed hnonce

/-- One blob is opened by one key and one set of associated data only. -/
theorem opened_unique (h : aead.opened key aad blob = some plaintext)
    (h' : aead.opened key' aad' blob = some plaintext') : key' = key ∧ aad' = aad :=
  aead.unique _ _ _ _ _ _ _ _ (decrypt_of_opened h).2 (decrypt_of_opened h').2

end

/-! ## A cipher with the laws -/

/-- A string behind its length in unary. -/
def framed (bytes : List UInt8) : List UInt8 := List.replicate bytes.length 1 ++ 0 :: bytes

theorem replicate_inj {m n : Nat} {a b : List UInt8}
    (h : List.replicate m 1 ++ 0 :: a = List.replicate n 1 ++ 0 :: b) : m = n ∧ a = b := by
  induction m generalizing n with
  | zero =>
    cases n with
    | zero =>
      injection h with _ h
      exact ⟨rfl, h⟩
    | succ n =>
      rw [List.replicate_succ] at h
      injection h with h _
      exact absurd h (by decide)
  | succ m ih =>
    cases n with
    | zero =>
      rw [List.replicate_succ] at h
      injection h with h _
      exact absurd h (by decide)
    | succ n =>
      rw [List.replicate_succ, List.replicate_succ] at h
      injection h with _ h
      obtain ⟨hmn, hab⟩ := ih h
      exact ⟨congrArg Nat.succ hmn, hab⟩

theorem framed_inj {a b x y : List UInt8} (h : framed a ++ x = framed b ++ y) :
    a = b ∧ x = y := by
  unfold framed at h
  rw [List.append_assoc, List.append_assoc, List.cons_append, List.cons_append] at h
  obtain ⟨hlen, hrest⟩ := replicate_inj h
  exact List.append_inj hrest hlen

/-- What stands before a plaintext. -/
def label (key aad : List UInt8) : List UInt8 :=
  List.replicate 16 0 ++ (framed key ++ framed aad)

theorem label_inj {key key' aad aad' x y : List UInt8}
    (h : label key aad ++ x = label key' aad' ++ y) : key' = key ∧ aad' = aad ∧ x = y := by
  unfold label at h
  simp only [List.append_assoc] at h
  obtain ⟨hkey, h⟩ := framed_inj (List.append_cancel_left h)
  obtain ⟨haad, h⟩ := framed_inj h
  exact ⟨hkey.symm, haad.symm, h⟩

/-- Remove a label. -/
def unlabel (key aad ciphertext : List UInt8) : Option (List UInt8) :=
  if (label key aad).isPrefixOf ciphertext then some (ciphertext.drop (label key aad).length)
  else none

theorem unlabel_some {key aad ciphertext plaintext : List UInt8}
    (h : unlabel key aad ciphertext = some plaintext) :
    ciphertext = label key aad ++ plaintext := by
  unfold unlabel at h
  split at h
  · next hpre =>
    obtain ⟨rest, hrest⟩ := List.isPrefixOf_iff_prefix.mp hpre
    rw [← hrest, List.drop_left, Option.some.injEq] at h
    rw [← hrest, h]
  · cases h

/-- The cipher that writes a label. -/
def labelled : Aead where
  encrypt := fun key _ aad plaintext => label key aad ++ plaintext
  decrypt := fun key _ aad ciphertext => unlabel key aad ciphertext
  decrypt_encrypt := by
    intro key nonce aad plaintext
    have hpre : (label key aad).isPrefixOf (label key aad ++ plaintext) = true :=
      List.isPrefixOf_iff_prefix.mpr (List.prefix_append _ _)
    unfold unlabel
    rw [if_pos hpre, List.drop_left]
  tag_length := by
    intro key nonce aad plaintext
    unfold label
    rw [List.length_append, List.length_append, List.length_replicate]
    omega
  unique := by
    intro key key' nonce aad aad' ciphertext plaintext plaintext' h h'
    have heq := unlabel_some h
    rw [unlabel_some h'] at heq
    obtain ⟨hkey, haad, -⟩ := label_inj heq
    exact ⟨hkey.symm, haad.symm⟩

theorem labelled_exact : labelled.Exact := by
  intro key nonce aad ciphertext plaintext h
  exact unlabel_some h

end Aead
