/-
  A cache that holds a bounded number of entries.

  Before an entry is put into a full cache, those that are not worth keeping are dropped; if the
  cache is still full, all are.

  Proved: the bound holds after every put (`length_put_le`), and a put changes no entry of another
  key except by dropping it (`lookup_put`).
-/
import Mathlib.Data.List.AList

namespace BoundedCache

/-- One entry for a key at most. -/
abbrev Cache (κ ε : Type) := AList fun _ : κ => ε

variable {κ ε : Type} [DecidableEq κ] {max : Nat} {keep : ε → Bool} {c : Cache κ ε} {k k' : κ}
  {e e' : ε}

/-- The entries that are worth keeping. -/
def retain (keep : ε → Bool) (c : Cache κ ε) : Cache κ ε :=
  ⟨c.entries.filter fun e => keep e.2, c.nodupKeys.sublist List.filter_sublist⟩

/-- Room for one more entry. -/
def makeRoom (max : Nat) (keep : ε → Bool) (c : Cache κ ε) : Cache κ ε :=
  if c.entries.length ≥ max then
    if (retain keep c).entries.length ≥ max then ∅ else retain keep c
  else c

def put (max : Nat) (keep : ε → Bool) (c : Cache κ ε) (k : κ) (e : ε) : Cache κ ε :=
  (makeRoom max keep c).insert k e

theorem lookup_retain (h : (retain keep c).lookup k = some e) : c.lookup k = some e :=
  AList.mem_lookup_iff.mpr (List.mem_of_mem_filter (AList.mem_lookup_iff.mp h))

theorem lookup_makeRoom (h : (makeRoom max keep c).lookup k = some e) : c.lookup k = some e := by
  unfold makeRoom at h
  split at h
  · split at h
    · rw [AList.lookup_empty] at h
      cases h
    · exact lookup_retain h
  · exact h

/-- **What is found after a put**: the new entry, or one of another key that was there. -/
theorem lookup_put (h : (put max keep c k e).lookup k' = some e') :
    k' = k ∧ e' = e ∨ k' ≠ k ∧ c.lookup k' = some e' := by
  unfold put at h
  by_cases hk : k' = k
  · subst hk
    rw [AList.lookup_insert, Option.some.injEq] at h
    exact .inl ⟨rfl, h.symm⟩
  · rw [AList.lookup_insert_ne hk] at h
    exact .inr ⟨hk, lookup_makeRoom h⟩

omit [DecidableEq κ] in
theorem length_makeRoom_lt (hmax : 0 < max) : (makeRoom max keep c).entries.length < max := by
  unfold makeRoom
  split
  · split
    · exact hmax
    · next hroom => exact Nat.lt_of_not_le hroom
  · next hroom => exact Nat.lt_of_not_le hroom

/-- **The bound holds after a put.** -/
theorem length_put_le (hmax : 0 < max) : (put max keep c k e).entries.length ≤ max := by
  have hroom : (makeRoom max keep c).entries.length < max := length_makeRoom_lt hmax
  have herase := (List.kerase_sublist k (makeRoom max keep c).entries).length_le
  rw [put, AList.entries_insert, List.length_cons]
  omega

end BoundedCache
