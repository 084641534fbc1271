/-
  A world seen as one of another kind of requests.

  Two systems over one machine may share some of their requests. Where the others leave nothing
  behind in what is proved about histories, an invariant of the smaller system is one of the
  larger: the larger world is projected by forgetting which request arrived.

  Proved: the projection keeps what every request did (`own_project`), and it commutes with the
  steps of a world (`project_after`, `project_moved`).
-/
import ProviiVerifier.Interleaving.Pool

namespace Interleaving

variable {Op : Type} {Res : Op → Type} {M : Machine Op Res} {Req Req' : Type}

/-- An event of the larger system as one of the smaller; arrivals of other requests are left
out. -/
def Event.project (f : Req → Option Req') : Event M Req → Option (Event M Req')
  | .arrive i req => (f req).map (.arrive i)
  | .call i s op c => some (.call i s op c)

/-- A trace of the larger system as one of the smaller. -/
def project (f : Req → Option Req') (tr : List (Event M Req)) : List (Event M Req') :=
  tr.filterMap (Event.project f)

/-- A world of the larger system as one of the smaller. -/
def World.project (f : Req → Option Req') (w : World M Req) : World M Req' :=
  ⟨w.state, Interleaving.project f w.trace⟩

variable {f : Req → Option Req'}

theorem project_call (i : Nat) (s : M.State) (op : Op) (c : M.Choice op)
    (tr : List (Event M Req)) :
    project f (.call i s op c :: tr) = .call i s op c :: project f tr := by
  have hevent : Event.project f (.call i s op c) = some (.call i s op c) := rfl
  exact List.filterMap_cons_some hevent

/-- An arrival adds an arrival or nothing. -/
theorem project_arrive (i : Nat) (req : Req) (tr : List (Event M Req)) :
    project f (.arrive i req :: tr) = project f tr ∨
      ∃ req', project f (.arrive i req :: tr) = .arrive i req' :: project f tr := by
  unfold project
  cases h : f req with
  | none =>
    refine .inl (List.filterMap_cons_none ?_)
    rw [Event.project, h]
    rfl
  | some req' =>
    refine .inr ⟨req', List.filterMap_cons_some ?_⟩
    rw [Event.project, h]
    rfl

/-- **The projection keeps what every request did.** -/
theorem own_project (i : Nat) (tr : List (Event M Req)) :
    own i (project f tr) = own i tr := by
  induction tr with
  | nil => rfl
  | cons e tr ih =>
    cases e with
    | arrive j req =>
      rw [own_arrive]
      rcases project_arrive (f := f) j req tr with h | ⟨req', h⟩
      · rw [h, ih]
      · rw [h, own_arrive, ih]
    | call j s op c =>
      rw [project_call]
      by_cases hij : j = i
      · subst hij
        rw [own_call_self, own_call_self, ih]
      · rw [own_call_ne hij, own_call_ne hij, ih]

theorem project_after (w : World M Req) (i : Nat) (op : Op) (c : M.Choice op) :
    (w.after i op c).project f = (w.project f).after i op c := by
  unfold World.project World.after
  rw [project_call]

theorem project_moved (w : World M Req) (e : M.Env) :
    (w.moved e).project f = (w.project f).moved e := rfl

end Interleaving
