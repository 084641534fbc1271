/-
  A cache in front of a source that does not change.

  What the cache holds for a key is what the source holds for it, however entries are dropped, as
  long as only what was read from the source is put into it.
-/
import Mathlib.Tactic.Common

namespace ReadThrough

variable {K V : Type} {source cache cache' : K → Option V} {k : K} {v : V}

/-- Every cached value is the source's. -/
def Coherent (source cache : K → Option V) : Prop := ∀ k v, cache k = some v → source k = some v

theorem coherent_empty : Coherent source fun _ => none := by
  intro k v h
  cases h

/-- Entries may be dropped. -/
theorem Coherent.drop (h : Coherent source cache)
    (hsub : ∀ k v, cache' k = some v → cache k = some v) : Coherent source cache' := by
  intro k v hk
  exact h k v (hsub k v hk)

/-- What was read from the source may be put into the cache. -/
theorem Coherent.put (h : Coherent source cache) (hread : source k = some v)
    (hself : cache' k = some v) (hother : ∀ k', k' ≠ k → cache' k' = cache k') :
    Coherent source cache' := by
  intro k' v' hk'
  by_cases heq : k' = k
  · subst heq
    rw [hself] at hk'
    injection hk' with hv
    rw [← hv]
    exact hread
  · rw [hother k' heq] at hk'
    exact h k' v' hk'

/-- **Run rule**: what every call keeps holds after any calls. -/
theorem coherent_foldr {C Call : Type} {view : C → K → Option V} {step : Call → C → C} {c₀ : C}
    (hstart : Coherent source (view c₀))
    (hstep : ∀ call c, Coherent source (view c) → Coherent source (view (step call c)))
    (calls : List Call) : Coherent source (view (calls.foldr step c₀)) := by
  induction calls with
  | nil => exact hstart
  | cons call calls ih => exact hstep call _ ih

end ReadThrough
