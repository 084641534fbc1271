/-
  The short-code index of a challenge object, over every sequence of requests for one uuid.

  A record and its `code:` entry are two writes, and two deletes, without a transaction. A create
  whose record is written and whose entry is not leaves the record stranded: it answers 503, and a
  retry finds the record and answers 200. A removal that deletes the record and not the entry leaves
  the entry without its record.

  Proved: the index is intact throughout a sequence exactly when no create comes upon a stranded
  record and every removal of any other record deletes its entry too (`index_intact_iff`).
-/
import ProviiVerifier.ChallengeFrame
import ProviiVerifier.Interleaving.System

namespace ProviiVerifier

namespace ChallengeDO

open Interleaving

/-! ## Sequences of requests -/

/-- The uuid in the path of a request. -/
def Request.uuid : Request → Option String
  | .get uuid => some uuid
  | .getByCode _ => none
  | .create uuid _ => some uuid
  | .update uuid _ => some uuid
  | .delete uuid => some uuid

def Request.isCreate : Request → Bool
  | .create _ _ => true
  | _ => false

/-- A request for one uuid, or by a code, whose storage reads succeed. -/
structure Addressed (u : String) (st : Step) : Prop where
  uuid : ∀ v, st.request.uuid = some v → v = u
  recordGet : st.faults.recordGet = true
  codeGet : st.faults.codeGet = true

/-- What a request is answered after earlier ones. -/
def reply (old : List Step) (st : Step) : Option Reply :=
  (fetch (after old) st.now st.faults st.request).1

/-- A request removes the record. -/
def removed (u : String) (old : List Step) (st : Step) : Bool :=
  ((after old).records u).isSome && ((after (st :: old)).records u).isNone

/-- A request writes the record where none is. -/
def written (u : String) (old : List Step) (st : Step) : Bool :=
  ((after old).records u).isNone && ((after (st :: old)).records u).isSome

/-- A create was answered as created, or as already existing, and the record has not been removed
since. -/
def answered (u : String) : List Step → Bool
  | [] => false
  | st :: old =>
    !removed u old st &&
      (answered u old || st.request.isCreate && decide (reply old st = some (.status 200)))

/-- The create that wrote the record failed in all its attempts at the code entry, and the record
has not been removed since. -/
def stranded (u : String) : List Step → Bool
  | [] => false
  | st :: old =>
    !removed u old st &&
      if written u old st then !putWithRetry st.faults.codePut else stranded u old

/-- **The index is intact**: a record that a create was answered for has its entry, and every entry
has its record. -/
structure Intact (u : String) (old : List Step) : Prop where
  indexed : answered u old = true →
    ∃ c, (after old).records u = some c ∧ (after old).codes c.shortCode = some u
  owned : ∀ code v, (after old).codes code = some v →
    ∃ c, (after old).records v = some c ∧ c.shortCode = code

/-- A request takes the branch that removes a record, and the delete of the record succeeds. -/
def Removes (u : String) (s : Storage) (st : Step) (c : CachedChallenge) : Prop :=
  s.records u = some c ∧ validateChallengeId u = .ok () ∧ st.faults.recordDelete = true ∧
    match st.request with
    | .delete _ => c.state ≠ .verified ∧ c.state ≠ .proofOkWaitingForRedeem
    | .get _ => c.expiresAt ≤ st.now
    | .getByCode code =>
      c.expiresAt ≤ st.now ∧ validateShortCode code = .ok () ∧ s.codes code = some u
    | _ => False

/-- The condition on a request: no create comes upon a stranded record, and a removal of any other
record deletes its code entry too. -/
structure KeepsIndex (u : String) (old : List Step) (st : Step) : Prop where
  create : ∀ body c, st.request = .create u body → admitCreate u body = .ok c →
    stranded u old = false
  removal : ∀ c, Removes u (after old) st c → stranded u old = false →
    st.faults.codeDelete = true

/-! ## One request -/

/-- What a request for `u` can do to the storage, with what it answers. -/
inductive IndexStep (u : String) (s : Storage) (st : Step) : Option Reply → Storage → Prop
  | keep {r : Option Reply} (hr : st.request.isCreate = true → r ≠ some (.status 200)) :
      IndexStep u s st r s
  | found {c d : CachedChallenge} {body : Body CachedChallenge}
      (hreq : st.request = .create u body) (hadm : admitCreate u body = .ok d)
      (hrec : s.records u = some c) : IndexStep u s st (some (.status 200)) s
  | created {c : CachedChallenge} (hrec : s.records u = none)
      (hput : putWithRetry st.faults.codePut = true) :
      IndexStep u s st (some (.status 200)) ((s.putRecord u c).putCode c.shortCode u)
  | strand {c : CachedChallenge} (hrec : s.records u = none)
      (hput : putWithRetry st.faults.codePut = false) :
      IndexStep u s st (some (.status 503)) (s.putRecord u c)
  | rewrite {c d : CachedChallenge} {r : Option Reply} (hreq : st.request.isCreate = false)
      (hrec : s.records u = some c) (hcode : d.shortCode = c.shortCode) :
      IndexStep u s st r (s.putRecord u d)
  | remove {c : CachedChallenge} {r : Option Reply} (hrem : Removes u s st c) :
      IndexStep u s st r
        (if st.faults.codeDelete then (s.deleteRecord u).deleteCode c.shortCode
          else s.deleteRecord u)

section Request

variable {u : String} {s : Storage} {st : Step}

theorem readRecord_eq {f : Faults} (h : f.recordGet = true) : s.readRecord f u = s.records u := by
  unfold Storage.readRecord
  rw [if_pos h]

/-- A create that is refused is not answered 200. -/
theorem admitCreate_error {body : Body CachedChallenge} {r : Option Reply}
    (h : admitCreate u body = .error r) : r ≠ some (.status 200) := by
  unfold admitCreate at h
  repeat' split at h
  all_goals cases h
  all_goals decide

theorem create_indexStep {body : Body CachedChallenge} (hreq : st.request = .create u body)
    (hread : st.faults.recordGet = true) :
    IndexStep u s st (createChallenge s st.faults u body).1
      (createChallenge s st.faults u body).2 := by
  unfold createChallenge
  cases hadm : admitCreate u body with
  | error r => exact .keep fun _ => admitCreate_error hadm
  | ok c =>
    dsimp only
    rw [readRecord_eq hread]
    cases hrec : s.records u with
    | some d => exact .found hreq hadm hrec
    | none =>
      dsimp only
      split
      · split
        · next hcode => exact .created hrec hcode
        · next hcode => exact .strand hrec (Bool.not_eq_true _ ▸ hcode)
      · exact .keep fun _ => show some (Reply.status 503) ≠ some (Reply.status 200) by decide

/-- A read, under any request that it is part of. -/
theorem get_indexStep (hreq : st.request.isCreate = false) (hread : st.faults.recordGet = true)
    (hrem : ∀ c, s.records u = some c → validateChallengeId u = .ok () →
      st.faults.recordDelete = true → c.expiresAt ≤ st.now → Removes u s st c) :
    IndexStep u s st (getChallenge s st.now st.faults u).1
      (getChallenge s st.now st.faults u).2 := by
  have hkeep : ∀ r, IndexStep u s st r s :=
    fun r => .keep fun h => absurd (hreq.symm.trans h) Bool.false_ne_true
  unfold getChallenge
  cases hid : validateChallengeId u with
  | error e => exact hkeep _
  | ok =>
    dsimp only
    rw [readRecord_eq hread]
    cases hrec : s.records u with
    | none => exact hkeep _
    | some c =>
      dsimp only
      split
      · exact hkeep _
      · next hexp =>
        split
        · next hdelete =>
          have hstep : ∀ r, IndexStep u s st r _ :=
            fun r => .remove (r := r) (hrem c hrec hid hdelete (Nat.le_of_not_lt hexp))
          split
          · next hcode =>
            rw [if_pos hcode] at hstep
            exact hstep _
          · next hcode =>
            rw [if_neg hcode] at hstep
            exact hstep _
        · exact hkeep _

theorem update_indexStep {body : Body ChallengeUpdate} (hreq : st.request = .update u body)
    (hread : st.faults.recordGet = true) :
    IndexStep u s st (updateChallenge s st.now st.faults u body).1
      (updateChallenge s st.now st.faults u body).2 := by
  have hcreate : st.request.isCreate = false := by rw [hreq]; rfl
  have hkeep : ∀ r, IndexStep u s st r s :=
    fun r => .keep fun h => absurd (hcreate.symm.trans h) Bool.false_ne_true
  unfold updateChallenge
  rw [readRecord_eq hread]
  repeat' split
  all_goals try exact hkeep _
  next hrec _ upd _ _ _ _ =>
    exact .rewrite hcreate hrec (mergeUpdate_same _ upd).shortCode

theorem delete_indexStep (hreq : st.request = .delete u) (hread : st.faults.recordGet = true) :
    IndexStep u s st (deleteChallenge s st.faults u).1 (deleteChallenge s st.faults u).2 := by
  have hcreate : st.request.isCreate = false := by rw [hreq]; rfl
  have hkeep : ∀ r, IndexStep u s st r s :=
    fun r => .keep fun h => absurd (hcreate.symm.trans h) Bool.false_ne_true
  unfold deleteChallenge
  cases hid : validateChallengeId u with
  | error e => exact hkeep _
  | ok =>
    dsimp only
    rw [readRecord_eq hread]
    cases hrec : s.records u with
    | none => exact hkeep _
    | some c =>
      dsimp only
      split
      · exact hkeep _
      · next hstate =>
        split
        · next hdelete =>
          have hrem : Removes u s st c :=
            ⟨hrec, hid, hdelete, by rw [hreq]; exact not_or.mp hstate⟩
          have hstep : ∀ r, IndexStep u s st r _ := fun r => .remove (r := r) hrem
          split
          · next hcode =>
            rw [if_pos hcode] at hstep
            exact hstep _
          · next hcode =>
            rw [if_neg hcode] at hstep
            exact hstep _
        · exact hkeep _

/-- **Inversion of a request** for `u`, over a storage whose entries all name `u`. -/
theorem fetch_indexStep (haddr : Addressed u st) (hcodes : ∀ k v, s.codes k = some v → v = u) :
    IndexStep u s st (fetch s st.now st.faults st.request).1
      (fetch s st.now st.faults st.request).2 := by
  obtain ⟨now, f, req⟩ := st
  have hread : f.recordGet = true := haddr.recordGet
  cases req with
  | get v =>
    obtain rfl : v = u := haddr.uuid v rfl
    exact get_indexStep rfl hread fun c hrec hid hdelete hexp => ⟨hrec, hid, hdelete, hexp⟩
  | create v body =>
    obtain rfl : v = u := haddr.uuid v rfl
    exact create_indexStep rfl hread
  | update v body =>
    obtain rfl : v = u := haddr.uuid v rfl
    exact update_indexStep rfl hread
  | delete v =>
    obtain rfl : v = u := haddr.uuid v rfl
    exact delete_indexStep rfl hread
  | getByCode code =>
    have hcodeGet : f.codeGet = true := haddr.codeGet
    have hkeep : ∀ r, IndexStep u s ⟨now, f, .getByCode code⟩ r s :=
      fun r => .keep fun h => absurd h Bool.false_ne_true
    simp only [fetch, getChallengeByCode, hcodeGet, if_true]
    cases hvalid : validateShortCode code with
    | error e => exact hkeep _
    | ok =>
      dsimp only
      cases hentry : s.codes code with
      | none => exact hkeep _
      | some v =>
        obtain rfl : v = u := hcodes code v hentry
        exact get_indexStep rfl hread fun c hrec hid hdelete hexp =>
          ⟨hrec, hid, hdelete, hexp, hvalid, hentry⟩

end Request

/-! ## Over a sequence -/

/-- The phases of the object, in sequences that keep the index: no record, a record without its
entry that no create was answered for, and a record with its entry. -/
inductive Phase (u : String) (old : List Step) : Prop
  | absent (hrec : (after old).records u = none) (hcodes : ∀ k, (after old).codes k = none)
      (hanswered : answered u old = false) (hstranded : stranded u old = false)
  | bare {c : CachedChallenge} (hrec : (after old).records u = some c)
      (hcodes : ∀ k, (after old).codes k = none) (hanswered : answered u old = false)
      (hstranded : stranded u old = true)
  | indexed {c : CachedChallenge} (hrec : (after old).records u = some c)
      (hentry : (after old).codes c.shortCode = some u)
      (hcodes : ∀ k v, (after old).codes k = some v → k = c.shortCode ∧ v = u)
      (hstranded : stranded u old = false)

section Sequence

variable {u : String} {old : List Step} {st : Step}

theorem Phase.codes (h : Phase u old) (k v : String) (hk : (after old).codes k = some v) :
    v = u := by
  cases h with
  | absent hrec hcodes =>
    rw [hcodes k] at hk
    cases hk
  | bare hrec hcodes =>
    rw [hcodes k] at hk
    cases hk
  | indexed hrec hentry hcodes => exact (hcodes k v hk).2

theorem Phase.intact (h : Phase u old) : Intact u old := by
  cases h with
  | absent hrec hcodes hanswered =>
    refine ⟨fun ha => ?_, fun k v hk => ?_⟩
    · rw [hanswered] at ha
      cases ha
    · rw [hcodes k] at hk
      cases hk
  | bare hrec hcodes hanswered =>
    refine ⟨fun ha => ?_, fun k v hk => ?_⟩
    · rw [hanswered] at ha
      cases ha
    · rw [hcodes k] at hk
      cases hk
  | @indexed c hrec hentry hcodes =>
    refine ⟨fun _ => ⟨c, hrec, hentry⟩, fun k v hk => ?_⟩
    obtain ⟨hkey, hv⟩ := hcodes k v hk
    rw [hv]
    exact ⟨c, hrec, hkey.symm⟩

/-- The ghosts after a request that neither writes a new record nor removes one. -/
theorem ghosts_of_kept
    (h : ((after (st :: old)).records u).isSome = ((after old).records u).isSome) :
    answered u (st :: old) =
      (answered u old || st.request.isCreate && decide (reply old st = some (.status 200))) ∧
    stranded u (st :: old) = stranded u old := by
  have hremoved : removed u old st = false := by
    rw [removed, ← Option.not_isSome, h, Bool.and_not_self]
  have hwritten : written u old st = false := by
    rw [written, ← Option.not_isSome, h, Bool.not_and_self]
  rw [answered, stranded, hremoved, hwritten]
  exact ⟨rfl, rfl⟩

/-- The ghosts after a request that finds no record and leaves one. -/
theorem ghosts_of_written {c : CachedChallenge} (hrec : (after old).records u = none)
    (hrec' : (after (st :: old)).records u = some c) :
    answered u (st :: old) =
      (answered u old || st.request.isCreate && decide (reply old st = some (.status 200))) ∧
    stranded u (st :: old) = !putWithRetry st.faults.codePut := by
  have hremoved : removed u old st = false := by
    rw [removed, hrec, hrec']
    rfl
  have hwritten : written u old st = true := by
    rw [written, hrec, hrec']
    rfl
  rw [answered, stranded, hremoved, hwritten]
  exact ⟨rfl, rfl⟩

/-- The ghosts after a request that removes the record. -/
theorem ghosts_of_removed {c : CachedChallenge} (hrec : (after old).records u = some c)
    (hrec' : (after (st :: old)).records u = none) :
    answered u (st :: old) = false ∧ stranded u (st :: old) = false := by
  have hremoved : removed u old st = true := by
    rw [removed, hrec, hrec']
    rfl
  rw [answered, stranded, hremoved]
  exact ⟨rfl, rfl⟩

/-- Without a record there is no entry. -/
theorem Phase.codes_none (h : Phase u old) (hrec : (after old).records u = none) (k : String) :
    (after old).codes k = none := by
  cases h with
  | absent _ hcodes => exact hcodes k
  | bare hrec' =>
    rw [hrec] at hrec'
    cases hrec'
  | indexed hrec' =>
    rw [hrec] at hrec'
    cases hrec'

theorem Phase.answered_none (h : Phase u old) (hrec : (after old).records u = none) :
    answered u old = false := by
  cases h with
  | absent _ _ hanswered => exact hanswered
  | bare hrec' =>
    rw [hrec] at hrec'
    cases hrec'
  | indexed hrec' =>
    rw [hrec] at hrec'
    cases hrec'

/-- A removal that meets the condition leaves no entry. -/
theorem codes_of_removal {c : CachedChallenge} (h : Phase u old) (hkeeps : KeepsIndex u old st)
    (hrem : Removes u (after old) st c) (k : String) :
    (if st.faults.codeDelete then ((after old).deleteRecord u).deleteCode c.shortCode
      else (after old).deleteRecord u).codes k = none := by
  cases h with
  | absent hrec =>
    rw [hrem.1] at hrec
    cases hrec
  | bare _ hcodes =>
    split
    · exact (Function.update_apply _ _ _ _).trans (ite_eq_left_iff.mpr fun _ => hcodes k)
    · exact hcodes k
  | @indexed c' hrec hentry hcodes hstranded =>
    have hsame : c' = c := Option.some.inj (hrec.symm.trans hrem.1)
    subst hsame
    rw [if_pos (hkeeps.removal c' hrem hstranded)]
    refine (Function.update_apply _ _ _ _).trans (ite_eq_left_iff.mpr fun hkey => ?_)
    cases hk : (after old).codes k with
    | none => exact hk
    | some v => exact absurd (hcodes k v hk).1 hkey

/-- A request that leaves the storage as it is keeps the phase, unless it answers a create for a
record that is stranded or not there. -/
theorem Phase.kept (h : Phase u old) (hs : after (st :: old) = after old)
    (hnew : st.request.isCreate = true → reply old st = some (.status 200) →
      stranded u old = false ∧ (after old).records u ≠ none) : Phase u (st :: old) := by
  have hkept : ((after (st :: old)).records u).isSome = ((after old).records u).isSome := by
    rw [hs]
  obtain ⟨hans, hstr⟩ := ghosts_of_kept hkept
  have hquiet : answered u old = false →
      (stranded u old = true ∨ (after old).records u = none) → answered u (st :: old) = false := by
    intro ha hnot
    rw [hans, ha, Bool.false_or, Bool.and_eq_false_iff]
    by_cases hcreate : st.request.isCreate = true
    · refine .inr (decide_eq_false fun hreply => ?_)
      obtain ⟨hfalse, hsome⟩ := hnew hcreate hreply
      rcases hnot with htrue | hnone
      · rw [hfalse] at htrue
        cases htrue
      · exact hsome hnone
    · exact .inl (Bool.not_eq_true _ ▸ hcreate)
  cases h with
  | absent hrec hcodes hanswered hstranded =>
    refine .absent ?_ ?_ (hquiet hanswered (.inr hrec)) (hstr.trans hstranded)
    · rw [hs]
      exact hrec
    · rw [hs]
      exact hcodes
  | @bare c hrec hcodes hanswered hstranded =>
    refine .bare (c := c) ?_ ?_ (hquiet hanswered (.inl hstranded)) (hstr.trans hstranded)
    · rw [hs]
      exact hrec
    · rw [hs]
      exact hcodes
  | @indexed c hrec hentry hcodes hstranded =>
    refine .indexed (c := c) ?_ ?_ ?_ (hstr.trans hstranded)
    · rw [hs]
      exact hrec
    · rw [hs]
      exact hentry
    · rw [hs]
      exact hcodes

/-- **One request** that meets the condition moves the object from phase to phase. -/
theorem Phase.step (h : Phase u old) (haddr : Addressed u st) (hkeeps : KeepsIndex u old st) :
    Phase u (st :: old) := by
  have hstep : IndexStep u (after old) st (reply old st) (after (st :: old)) :=
    fetch_indexStep haddr h.codes
  generalize hs : after (st :: old) = s at hstep
  generalize hr : reply old st = r at hstep
  cases hstep with
  | keep hnot =>
    exact h.kept hs fun hcreate hreply => absurd (hr.symm.trans hreply) (hnot hcreate)
  | @found c d body hreq hadm hrec =>
    refine h.kept hs fun _ _ => ⟨hkeeps.create body d hreq hadm, ?_⟩
    rw [hrec]
    exact Option.some_ne_none c
  | @created c hrec hput =>
    have hrecord : (after (st :: old)).records u = some c := by
      rw [hs, putCode_records, putRecord_records, if_pos rfl]
    have hcodes : ∀ k, (after (st :: old)).codes k =
        if k = c.shortCode then some u else (after old).codes k := by
      intro k
      rw [hs]
      exact Function.update_apply _ _ _ _
    have hnone : ∀ k, (after old).codes k = none := h.codes_none hrec
    refine .indexed hrecord ?_ ?_ ?_
    · rw [hcodes, if_pos rfl]
    · intro k v hk
      rw [hcodes, hnone] at hk
      split at hk
      · next hkey =>
        exact ⟨hkey, (Option.some.inj hk).symm⟩
      · cases hk
    · rw [(ghosts_of_written hrec hrecord).2, hput]
      rfl
  | @strand c hrec hput =>
    have hrecord : (after (st :: old)).records u = some c := by
      rw [hs, putRecord_records, if_pos rfl]
    obtain ⟨hans, hstr⟩ := ghosts_of_written hrec hrecord
    refine .bare hrecord ?_ ?_ ?_
    · intro k
      rw [hs]
      exact h.codes_none hrec k
    · have hreply : decide (reply old st = some (.status 200)) = false := by
        rw [hr]
        decide
      rw [hans, h.answered_none hrec, hreply, Bool.and_false]
      rfl
    · rw [hstr, hput]
      rfl
  | @rewrite c d _ hreq hrec hcode =>
    have hrecord : (after (st :: old)).records u = some d := by
      rw [hs, putRecord_records, if_pos rfl]
    have hcodes : (after (st :: old)).codes = (after old).codes := by
      rw [hs]
      rfl
    have hkept : ((after (st :: old)).records u).isSome = ((after old).records u).isSome := by
      rw [hrecord, hrec, Option.isSome_some, Option.isSome_some]
    obtain ⟨hans, hstr⟩ := ghosts_of_kept hkept
    rw [hreq, Bool.false_and, Bool.or_false] at hans
    cases h with
    | absent hrec' =>
      rw [hrec'] at hrec
      cases hrec
    | bare hrec' hcodes' hanswered hstranded =>
      refine .bare hrecord ?_ (hans.trans hanswered) (hstr.trans hstranded)
      rw [hcodes]
      exact hcodes'
    | @indexed c' hrec' hentry hcodes' hstranded =>
      have hsame : c' = c := Option.some.inj (hrec'.symm.trans hrec)
      subst hsame
      refine .indexed hrecord ?_ ?_ (hstr.trans hstranded)
      · rw [hcodes, hcode]
        exact hentry
      · rw [hcodes, hcode]
        exact hcodes'
  | @remove c _ hrem =>
    have hrecord : (after (st :: old)).records u = none := by
      rw [hs]
      split
      · rw [deleteCode_records, deleteRecord_records, if_pos rfl]
      · rw [deleteRecord_records, if_pos rfl]
    obtain ⟨hans, hstr⟩ := ghosts_of_removed hrem.1 hrecord
    refine .absent hrecord ?_ hans hstr
    intro k
    rw [hs]
    exact codes_of_removal h hkeeps hrem k

/-- A create that comes upon a record is answered 200 and changes nothing. -/
theorem fetch_of_found {body : Body CachedChallenge} {c d : CachedChallenge}
    (haddr : Addressed u st) (hreq : st.request = .create u body)
    (hadm : admitCreate u body = .ok d) (hrec : (after old).records u = some c) :
    fetch (after old) st.now st.faults st.request = (some (.status 200), after old) := by
  rw [hreq, fetch, createChallenge, hadm, readRecord_eq haddr.recordGet, hrec]

/-- What a removal leaves. -/
theorem after_of_removes {c : CachedChallenge} (haddr : Addressed u st)
    (hrem : Removes u (after old) st c) : after (st :: old) =
      if st.faults.codeDelete then ((after old).deleteRecord u).deleteCode c.shortCode
      else (after old).deleteRecord u := by
  obtain ⟨hrec, hid, hdelete, hbranch⟩ := hrem
  have hget : c.expiresAt ≤ st.now → (getChallenge (after old) st.now st.faults u).2 =
      if st.faults.codeDelete then ((after old).deleteRecord u).deleteCode c.shortCode
      else (after old).deleteRecord u := by
    intro hexp
    unfold getChallenge
    rw [hid, readRecord_eq haddr.recordGet, hrec]
    dsimp only
    rw [if_neg (Nat.not_lt.mpr hexp), if_pos hdelete]
    split <;> rfl
  rw [after]
  cases hreq : st.request with
  | get v =>
    obtain rfl : v = u := haddr.uuid v (by rw [hreq]; rfl)
    rw [hreq] at hbranch
    exact hget hbranch
  | getByCode code =>
    rw [hreq] at hbranch
    obtain ⟨hexp, hvalid, hentry⟩ := hbranch
    rw [fetch, getChallengeByCode, hvalid, if_pos haddr.codeGet, hentry]
    exact hget hexp
  | create v body =>
    rw [hreq] at hbranch
    exact hbranch.elim
  | update v body =>
    rw [hreq] at hbranch
    exact hbranch.elim
  | delete v =>
    obtain rfl : v = u := haddr.uuid v (by rw [hreq]; rfl)
    rw [hreq] at hbranch
    rw [fetch, deleteChallenge, hid, readRecord_eq haddr.recordGet, hrec]
    dsimp only
    rw [if_neg (not_or.mpr hbranch), if_pos hdelete]
    split <;> rfl

/-- **A create upon a stranded record** leaves an index that is not intact. -/
theorem Phase.broken_of_create {body : Body CachedChallenge} {d : CachedChallenge}
    (h : Phase u old) (haddr : Addressed u st) (hreq : st.request = .create u body)
    (hadm : admitCreate u body = .ok d) (hstranded : ChallengeDO.stranded u old = true) :
    ¬ Intact u (st :: old) := by
  intro hintact
  cases h with
  | absent _ _ _ hfalse =>
    rw [hfalse] at hstranded
    cases hstranded
  | indexed _ _ _ hfalse =>
    rw [hfalse] at hstranded
    cases hstranded
  | bare hrec hcodes =>
    have hfetch := fetch_of_found haddr hreq hadm hrec
    have hsame : after (st :: old) = after old := by
      rw [after, hfetch]
    have hkept : ((after (st :: old)).records u).isSome = ((after old).records u).isSome := by
      rw [hsame]
    have hanswered : answered u (st :: old) = true := by
      rw [(ghosts_of_kept hkept).1, reply, hfetch, hreq]
      exact Bool.or_true _
    obtain ⟨e, -, hentry⟩ := hintact.indexed hanswered
    rw [hsame, hcodes] at hentry
    cases hentry

/-- **A removal that keeps the entry** of an indexed record leaves an index that is not intact. -/
theorem Phase.broken_of_removal {c : CachedChallenge} (h : Phase u old) (haddr : Addressed u st)
    (hrem : Removes u (after old) st c) (hstranded : ChallengeDO.stranded u old = false)
    (hkept : st.faults.codeDelete = false) : ¬ Intact u (st :: old) := by
  intro hintact
  have hafter := after_of_removes haddr hrem
  rw [hkept, if_neg Bool.false_ne_true] at hafter
  cases h with
  | absent hrec =>
    rw [hrem.1] at hrec
    cases hrec
  | bare _ _ _ htrue =>
    rw [hstranded] at htrue
    cases htrue
  | @indexed c' _ hentry =>
    have hentry' : (after (st :: old)).codes c'.shortCode = some u := by
      rw [hafter]
      exact hentry
    obtain ⟨e, hrecord, -⟩ := hintact.owned _ _ hentry'
    rw [hafter, deleteRecord_records, if_pos rfl] at hrecord
    cases hrecord

/-- **One request after a sequence that keeps the index** keeps it exactly when it meets the
condition. -/
theorem Phase.intact_iff (h : Phase u old) (haddr : Addressed u st) :
    Intact u (st :: old) ↔ KeepsIndex u old st := by
  constructor
  · intro hintact
    refine ⟨fun body d hreq hadm => ?_, fun c hrem hstranded => ?_⟩
    · by_contra hstranded
      exact h.broken_of_create haddr hreq hadm (Bool.not_eq_false _ ▸ hstranded) hintact
    · by_contra hkept
      exact h.broken_of_removal haddr hrem hstranded (Bool.not_eq_true _ ▸ hkept) hintact
  · intro hkeeps
    exact (h.step haddr hkeeps).intact

/-- A sequence whose requests all meet the condition leads to a phase. -/
theorem phase_of_keeps {steps : List Step} (haddr : ∀ st ∈ steps, Addressed u st)
    (hkeeps : ∀ st old, st :: old <:+ steps → KeepsIndex u old st) : Phase u steps := by
  induction steps with
  | nil => exact .absent rfl (fun _ => rfl) rfl rfl
  | cons st steps ih =>
    have hold := ih (fun st' hm => haddr st' (List.mem_cons_of_mem st hm))
      (fun st' old hs => hkeeps st' old (hs.trans (List.suffix_cons st steps)))
    exact hold.step (haddr st List.mem_cons_self) (hkeeps st steps List.suffix_rfl)

/-- **The short-code index is intact throughout a sequence exactly when every request meets the
condition**: no create comes upon a record that was written without its code entry, and every
removal of any other record deletes its entry too. -/
theorem index_intact_iff (u : String) (steps : List Step)
    (haddr : ∀ st ∈ steps, Addressed u st) :
    (∀ old, old <:+ steps → Intact u old) ↔
      ∀ st old, st :: old <:+ steps → KeepsIndex u old st := by
  refine throughout_iff ?_ ?_ haddr
  · exact (Phase.absent rfl (fun _ => rfl) rfl rfl : Phase u []).intact
  · intro st old hst hold _ hkeeps
    exact (phase_of_keeps hold hkeeps).intact_iff hst

end Sequence

/-! ## Sequences that lose the index -/

/-- The uuid of the sample record. -/
def sampleUuid : String := CachedChallenge.sample.id.toString

/-- The create of the sample record. -/
def createSample : Request :=
  .create sampleUuid ⟨1000, some CachedChallenge.sample⟩

/-- A create whose record is written and whose code entry is not, which is answered 503; then its
retry. -/
def retriedCreate : List Step :=
  [⟨1001, .none, createSample⟩,
    ⟨1000, { Faults.none with codePut := fun _ => false }, createSample⟩]

/-- A create; then a delete that deletes the record and fails at the code entry. -/
def interruptedDelete : List Step :=
  [⟨1001, { Faults.none with codeDelete := false }, .delete sampleUuid⟩,
    ⟨1000, .none, createSample⟩]

theorem addressed_retriedCreate : ∀ st ∈ retriedCreate, Addressed sampleUuid st := by
  intro st hm
  simp only [retriedCreate, List.mem_cons, List.not_mem_nil, or_false] at hm
  rcases hm with rfl | rfl
  · exact ⟨fun v hv => (Option.some.inj hv).symm, rfl, rfl⟩
  · exact ⟨fun v hv => (Option.some.inj hv).symm, rfl, rfl⟩

theorem addressed_interruptedDelete : ∀ st ∈ interruptedDelete, Addressed sampleUuid st := by
  intro st hm
  simp only [interruptedDelete, List.mem_cons, List.not_mem_nil, or_false] at hm
  rcases hm with rfl | rfl
  · exact ⟨fun v hv => (Option.some.inj hv).symm, rfl, rfl⟩
  · exact ⟨fun v hv => (Option.some.inj hv).symm, rfl, rfl⟩

/-- The condition on the retry is what the index turns on. -/
theorem index_intact_iff_retried :
    (∀ st ∈ retriedCreate, Addressed sampleUuid st) ∧
      ((∀ old, old <:+ retriedCreate → Intact sampleUuid old) ↔
        ∀ st old, st :: old <:+ retriedCreate → KeepsIndex sampleUuid old st) :=
  ⟨addressed_retriedCreate, index_intact_iff sampleUuid retriedCreate addressed_retriedCreate⟩

/-- The retry is answered as created and the record is there without its entry; the interrupted
delete leaves the entry without its record. -/
theorem index_not_intact :
    ((∀ st ∈ retriedCreate, Addressed sampleUuid st) ∧ ¬ Intact sampleUuid retriedCreate) ∧
    (∀ st ∈ interruptedDelete, Addressed sampleUuid st) ∧
      ¬ Intact sampleUuid interruptedDelete := by
  refine ⟨⟨addressed_retriedCreate, fun hintact => ?_⟩, addressed_interruptedDelete,
    fun hintact => ?_⟩
  · have hanswered : answered sampleUuid retriedCreate = true := by decide +kernel
    have hrecord : (after retriedCreate).records sampleUuid = some .sample := by decide +kernel
    have hentry : (after retriedCreate).codes CachedChallenge.sample.shortCode = none := by
      decide +kernel
    obtain ⟨c, hrec, hcode⟩ := hintact.indexed hanswered
    rw [hrecord] at hrec
    rw [← Option.some.inj hrec, hentry] at hcode
    cases hcode
  · have hrecord : (after interruptedDelete).records sampleUuid = none := by decide +kernel
    have hentry : (after interruptedDelete).codes CachedChallenge.sample.shortCode =
        some sampleUuid := by decide +kernel
    obtain ⟨c, hrec, -⟩ := hintact.owned _ _ hentry
    rw [hrecord] at hrec
    cases hrec

end ChallengeDO

end ProviiVerifier
