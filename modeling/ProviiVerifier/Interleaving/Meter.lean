import ProviiVerifier.Interleaving.Clock

/-
  A counter in a store with a time to live, by which requests of a group that take turns are
  limited.

  A request reads the counter, goes on when it is below the limit, and writes one more than it last
  read; whoever writes renews the time to live. Reads and writes are operations of their own.
  Requests outside the group interleave at will. A group takes its turns when a request of it does
  nothing once a later one has arrived (`Latest`).

  Proved: in no window as long as the time to live the counter is written more often than the limit
  (`Meter.added_le`).
-/

namespace Interleaving

variable {Op : Type} {Res : Op → Type} {ε α Req : Type} {M : Machine Op Res}

/-! ## Turns -/

/-- Of the requests of a group, this one arrived last. -/
def Latest (group : Req → Prop) (i : Nat) : List (Event M Req) → Prop
  | [] => False
  | .arrive j req :: tr => group req ∧ i = j ∨ ¬ group req ∧ Latest group i tr
  | .call _ _ _ _ :: tr => Latest group i tr

theorem Latest.unique {group : Req → Prop} {i j : Nat} {tr : List (Event M Req)}
    (hi : Latest group i tr) (hj : Latest group j tr) : i = j := by
  induction tr with
  | nil => exact hi.elim
  | cons e tr ih =>
    cases e with
    | call => exact ih hi hj
    | arrive k req =>
      rcases hi with ⟨hgroup, rfl⟩ | ⟨hno, hi⟩
      · rcases hj with ⟨-, rfl⟩ | ⟨hno, -⟩
        · rfl
        · exact absurd hgroup hno
      · rcases hj with ⟨hgroup, -⟩ | ⟨-, hj⟩
        · exact absurd hgroup hno
        · exact ih hi hj

/-- A request of the group takes a step in its turn only. -/
def InTurn (group : Req → Prop) (i : Nat) (tr : List (Event M Req)) : Prop :=
  ∀ req, .arrive i req ∈ tr → group req → Latest group i tr

instance decidableLatest (group : Req → Prop) [DecidablePred group] (i : Nat) :
    (tr : List (Event M Req)) → Decidable (Latest group i tr)
  | [] => isFalse id
  | .arrive j req :: tr =>
    have : Decidable (Latest group i tr) := decidableLatest group i tr
    inferInstanceAs (Decidable (group req ∧ i = j ∨ ¬ group req ∧ Latest group i tr))
  | .call _ _ _ _ :: tr => decidableLatest group i tr

instance (group : Req → Prop) [DecidablePred group] (i : Nat) (tr : List (Event M Req)) :
    Decidable (InTurn group i tr) :=
  decidable_of_iff (∀ x ∈ tr.filterMap Event.arrival, x.1 = i → group x.2 → Latest group i tr) <| by
    constructor
    · intro h req harrive hgroup
      exact h (i, req) (mem_arrivals.mpr harrive) rfl hgroup
    · rintro h ⟨j, req⟩ hmem rfl hgroup
      exact h req (mem_arrivals.mp hmem) hgroup

/-! ## Windows -/

/-- How many times are in a window. -/
def within (start len : Nat) (times : List Nat) : Nat :=
  times.countP fun t => start ≤ t && decide (t < start + len)

theorem within_cons (start len t : Nat) (times : List Nat) :
    within start len (t :: times) =
      within start len times + if start ≤ t ∧ t < start + len then 1 else 0 := by
  unfold within
  rw [List.countP_cons]
  simp

/-- Nothing is in a window that begins later. -/
theorem within_eq_zero {start len now : Nat} {times : List Nat} (hpast : ∀ t ∈ times, t ≤ now)
    (hnow : now < start) : within start len times = 0 := by
  unfold within
  refine List.countP_eq_zero.mpr fun t ht => ?_
  have hle := hpast t ht
  simp
  omega

/-- The times at which a trace has operations of a kind. -/
def times (clock : M.State → Nat) (kind : Op → Prop) [DecidablePred kind] :
    List (Event M Req) → List Nat
  | [] => []
  | .arrive _ _ :: tr => times clock kind tr
  | .call _ s op _ :: tr => if kind op then clock s :: times clock kind tr else times clock kind tr

/-! ## Meters -/

/-- A counter: what is held at a time, what an answer says it holds, and which operations add. -/
structure Counter (M : Machine Op Res) where
  clock : M.State → Nat
  held : M.State → Nat → Nat
  seen : Sigma Res → Option Nat
  adds : Op → Prop
  decAdds : DecidablePred adds

variable (C : Counter M)

instance : DecidablePred C.adds := C.decAdds

/-- When the counter was added to. -/
def Counter.added (tr : List (Event M Req)) : List Nat := times C.clock C.adds tr

/-- **A meter**: runs in which a counter limits a group of requests. -/
structure Meter (handler : Req → Prog Op Res ε α) (R : Rules M Req)
    (G : Req → History Op Res → Op → Prop) (group : Req → Prop) (limit ttl : Nat) : Prop where
  forward : Forward M C.clock
  env : ∀ s e t, C.held (M.envStep s e) t = C.held s t
  other : ∀ s op c t, ¬ C.adds op → C.held (M.perform s op c).2 t = C.held s t
  read : ∀ w i op c n, R.call w i op c → C.seen ⟨op, (M.perform w.state op c).1⟩ = some n →
    n = C.held w.state (C.clock w.state)
  turn : ∀ w i op c req, R.call w i op c → C.adds op → .arrive i req ∈ w.trace →
    G req (own i w.trace) op → Latest group i w.trace
  /-- A request that adds has read a count below the limit and has not added yet. -/
  below : ∀ req h op, C.adds op → G req h op →
    (∃ x ∈ h, ∃ n, C.seen x = some n ∧ n < limit) ∧ ∀ x ∈ h, ¬ C.adds x.1
  /-- It adds to what it has read, and renews the time to live. -/
  add : ∀ w i op c req, R.call w i op c → C.adds op → G req (own i w.trace) op →
    ∃ x ∈ own i w.trace, ∃ n, C.seen x = some n ∧
      ∀ t, t < C.clock w.state + ttl → min (n + 1) limit ≤ C.held (M.perform w.state op c).2 t

/-- What the counter tells of a window: what was added is held, no request that may still add has
read less, and the limit is kept. -/
structure Metered (group : Req → Prop) (limit ttl start : Nat) (w : World M Req) : Prop where
  past : ∀ t ∈ C.added w.trace, t ≤ C.clock w.state
  held : ∀ t, C.clock w.state ≤ t → t < start + ttl →
    within start ttl (C.added w.trace) ≤ C.held w.state t
  read : ∀ i, Latest group i w.trace → (∀ x ∈ own i w.trace, ¬ C.adds x.1) →
    ∀ x ∈ own i w.trace, ∀ n, C.seen x = some n → C.clock w.state < start + ttl →
      within start ttl (C.added w.trace) ≤ n
  limited : within start ttl (C.added w.trace) ≤ limit

variable {C} {handler : Req → Prog Op Res ε α} {R : Rules M Req} {init : M.State → Prop}
  {p : Pool M Req ε α} {G : Req → History Op Res → Op → Prop}
  {Q : Req → History Op Res → Except ε α → Prop} {group : Req → Prop} {limit ttl start : Nat}
  {w : World M Req} {i : Nat} {req : Req} {op : Op} {c : M.Choice op}

@[simp] theorem added_arrive (tr : List (Event M Req)) :
    C.added (.arrive i req :: tr) = C.added tr := rfl

theorem added_call (s : M.State) (tr : List (Event M Req)) : C.added (.call i s op c :: tr) =
    if C.adds op then C.clock s :: C.added tr else C.added tr := rfl

/-- An arrival has done nothing yet. -/
theorem Metered.arrived (h : Metered C group limit ttl start w) (hnew : own i w.trace = []) :
    Metered C group limit ttl start (w.arrived i req) := by
  refine ⟨h.past, h.held, ?_, h.limited⟩
  rintro j (⟨-, rfl⟩ | ⟨-, hlatest⟩) hnone x hx n hn hlive
  · simp only [World.arrived_trace, own_arrive, hnew] at hx
    exact absurd hx List.not_mem_nil
  · exact h.read j hlatest hnone x hx n hn hlive

/-- **Step**: an operation that does not add. -/
theorem Metered.after_other (hm : Meter C handler R G group limit ttl)
    (h : Metered C group limit ttl start w) (hR : R.call w i op c) (hop : ¬ C.adds op) :
    Metered C group limit ttl start (w.after i op c) := by
  have hclock := hm.forward.perform w.state op c
  have hadded : C.added (w.after i op c).trace = C.added w.trace := by
    rw [World.after_trace, added_call, if_neg hop]
  refine ⟨?_, ?_, ?_, ?_⟩
  · intro t ht
    rw [hadded] at ht
    exact Nat.le_trans (h.past t ht) hclock
  · intro t hle hlt
    rw [hadded, World.after_state, hm.other w.state op c t hop]
    exact h.held t (Nat.le_trans hclock hle) hlt
  · intro j hlatest hnone x hx n hn hlive
    have hlive : C.clock w.state < start + ttl := Nat.lt_of_le_of_lt hclock hlive
    rw [hadded]
    have hnone : ∀ y ∈ own j w.trace, ¬ C.adds y.1 := by
      intro y hy
      exact hnone y ((own_suffix_cons j _ w.trace).subset hy)
    rcases mem_own_call hx with hx | ⟨rfl, rfl⟩
    · exact h.read j hlatest hnone x hx n hn hlive
    · rw [hm.read w i op c n hR hn]
      exact h.held _ Nat.le.refl hlive
  · rw [hadded]
    exact h.limited

/-- **Step**: an operation that adds. -/
theorem Metered.after_add (hm : Meter C handler R G group limit ttl)
    (h : Metered C group limit ttl start w) (harrive : .arrive i req ∈ w.trace)
    (hG : G req (own i w.trace) op) (hR : R.call w i op c) (hop : C.adds op) :
    Metered C group limit ttl start (w.after i op c) := by
  have hclock := hm.forward.perform w.state op c
  have hlatest := hm.turn w i op c req hR hop harrive hG
  obtain ⟨⟨x, hx, n, hseen, hbelow⟩, hnone⟩ := hm.below req _ op hop hG
  obtain ⟨y, hy, m, hread, hheld⟩ := hm.add w i op c req hR hop hG
  have hadded : C.added (w.after i op c).trace = C.clock w.state :: C.added w.trace := by
    rw [World.after_trace, added_call, if_pos hop]
  have hcount := within_cons start ttl (C.clock w.state) (C.added w.trace)
  -- what is in the window was there when the request read
  have hroom : C.clock w.state < start + ttl →
      within start ttl (C.added w.trace) ≤ m ∧ within start ttl (C.added w.trace) < limit := by
    intro hlive
    refine ⟨h.read i hlatest hnone y hy m hread hlive, ?_⟩
    exact Nat.lt_of_le_of_lt (h.read i hlatest hnone x hx n hseen hlive) hbelow
  refine ⟨?_, ?_, ?_, ?_⟩
  · intro t ht
    rw [hadded] at ht
    rcases List.mem_cons.mp ht with rfl | ht
    · exact hclock
    · exact Nat.le_trans (h.past t ht) hclock
  · intro t hle hlt
    have hlive : C.clock w.state < start + ttl :=
      Nat.lt_of_le_of_lt (Nat.le_trans hclock hle) hlt
    rw [hadded, hcount]
    by_cases hstart : start ≤ C.clock w.state
    · have hroom := hroom hlive
      have hheld := hheld t (by omega)
      rw [if_pos ⟨hstart, hlive⟩]
      refine Nat.le_trans ?_ hheld
      omega
    · have hzero : within start ttl (C.added w.trace) = 0 := within_eq_zero h.past (by omega)
      rw [hzero, if_neg fun hin => hstart hin.1]
      exact Nat.zero_le _
  · intro j hj hfirst
    have hij : j = i := hj.unique hlatest
    subst hij
    have hself : ⟨op, (M.perform w.state op c).1⟩ ∈ own j (w.after j op c).trace := by
      rw [World.after_trace, own_call_self]
      exact List.mem_cons_self
    exact absurd hop (hfirst _ hself)
  · rw [hadded, hcount]
    split
    · next hin =>
      have hroom := hroom hin.2
      omega
    · exact h.limited

/-- **The meter holds** in every run. -/
theorem Meter.run (hm : Meter C handler R G group limit ttl)
    (hG : ∀ req, (handler req).Guarded (G req) (Q req) []) (hr : Run handler R init p)
    (start : Nat) : Metered C group limit ttl start p.world := by
  induction hr with
  | start hs => exact ⟨nofun, fun _ _ _ => Nat.zero_le _, fun _ h => h.elim, Nat.zero_le _⟩
  | arrive hr hfree _ ih => exact ih.arrived (hr.no_event hfree).1
  | @call p i op k c hr hp hR ih =>
    obtain ⟨req, harrive, hguard⟩ := hr.guarded hG hp
    by_cases hop : C.adds op
    · exact ih.after_add hm harrive hguard.1 hR hop
    · exact ih.after_other hm hR hop
  | @env p e _ _ ih =>
    have hclock := hm.forward.env p.world.state e
    refine ⟨fun t ht => Nat.le_trans (ih.past t ht) hclock, ?_, ?_, ih.limited⟩
    · intro t hle hlt
      rw [World.moved_state, hm.env]
      exact ih.held t (Nat.le_trans hclock hle) hlt
    · intro j hlatest hnone x hx n hn hlive
      exact ih.read j hlatest hnone x hx n hn (Nat.lt_of_le_of_lt hclock hlive)

/-- **At most the limit** is added in a window. -/
theorem Meter.added_le (hm : Meter C handler R G group limit ttl)
    (hG : ∀ req, (handler req).Guarded (G req) (Q req) []) (hr : Run handler R init p)
    (start : Nat) : within start ttl (C.added p.world.trace) ≤ limit :=
  (hm.run hG hr start).limited

end Interleaving
