/-
  What `extract_payload` of `error.rs` makes of the payload of an error: of the details that the
  structured constructors put there, and of the free-form texts of the older call sites.

  Proved: a structured detail comes back with its code, field and detail, each `|` of the last two
  as `/`, under the status of its constructor, `unauthorized` included (`responded_build`). A
  free-form text comes back as it is under the status of its variant exactly when it does not itself
  begin like a structured detail or a status override (`responded_legacy_iff`). Both together are
  `details_survive_iff`.
-/
import ProviiVerifier.ErrorEnvelope

namespace ProviiVerifier

namespace ApiError

/-! ## The other structured constructors -/

/-- `ApiError::forbidden_with_field`. -/
def forbiddenWithField (code field detail : String) : ApiError :=
  forbidden (some (encodeStructuredDetail ⟨some code, some field, some detail⟩))

/-- `ApiError::service_unavailable`. -/
def serviceUnavailableWith (code detail : String) : ApiError :=
  serviceUnavailable (some (encodeStructuredDetail ⟨some code, none, some detail⟩))

/-- A call of a structured constructor. -/
inductive Structured
  | badRequest (code : String) (field : Option String) (detail : String)
  | forbidden (code detail : String)
  | forbiddenWithField (code field detail : String)
  | unauthorized (code detail : String)
  | gone (code detail : String)
  | conflict (code detail : String)
  | serviceUnavailable (code detail : String)
  deriving DecidableEq, Repr

namespace Structured

/-- The error that is built. -/
def build : Structured → ApiError
  | badRequest code field detail => badRequestWith code field detail
  | forbidden code detail => forbiddenWith code detail
  | forbiddenWithField code field detail => ApiError.forbiddenWithField code field detail
  | unauthorized code detail => unauthorizedWith code detail
  | gone code detail => goneWith code detail
  | conflict code detail => conflictWith code detail
  | serviceUnavailable code detail => serviceUnavailableWith code detail

/-- The status that is meant. -/
def status : Structured → Nat
  | badRequest .. => 400
  | forbidden .. => 403
  | forbiddenWithField .. => 403
  | unauthorized .. => 401
  | gone .. => 410
  | conflict .. => 409
  | serviceUnavailable .. => 503

/-- What the constructor is given. -/
def given : Structured → ErrorDetail
  | badRequest code field detail => ⟨some code, field, some detail⟩
  | forbidden code detail => ⟨some code, none, some detail⟩
  | forbiddenWithField code field detail => ⟨some code, some field, some detail⟩
  | unauthorized code detail => ⟨some code, none, some detail⟩
  | gone code detail => ⟨some code, none, some detail⟩
  | conflict code detail => ⟨some code, none, some detail⟩
  | serviceUnavailable code detail => ⟨some code, none, some detail⟩

end Structured

/-- A detail with each `|` of the field and the detail as `/`; empty text is absent. -/
def carried (d : ErrorDetail) : ErrorDetail :=
  { code := d.code.bind nonEmpty
    field := (d.field.map replaceBars).bind nonEmpty
    detail := (d.detail.map replaceBars).bind nonEmpty }

/-- The status and the detail that an error is answered with. -/
def responded (e : ApiError) : Nat × Option ErrorDetail :=
  let (override, detail) := extractPayload e.payload
  (override.getD e.defaults.1, detail)

/-! ## Structured details -/

theorem bar_not_mem_replaceBars (s : String) : '|' ∉ (replaceBars s).toList := by
  unfold replaceBars
  rw [String.toList_ofList]
  intro hmem
  obtain ⟨c, -, hc⟩ := List.mem_map.mp hmem
  split at hc
  · exact absurd hc (by decide)
  · next hne => exact hne hc

theorem nonEmpty_getD (text : Option String) : nonEmpty (text.getD "") = text.bind nonEmpty := by
  cases text <;> rfl

theorem nonEmpty_replaceBars_getD (text : Option String) :
    nonEmpty (replaceBars (text.getD "")) = (text.map replaceBars).bind nonEmpty := by
  cases text <;> rfl

/-- Four parts, the first three without the separator. -/
theorem splitN_four {head code field : List Char} (detail : List Char) (hhead : '|' ∉ head)
    (hcode : '|' ∉ code) (hfield : '|' ∉ field) :
    Splitting.splitN ['|'] 4 (head ++ ('|' :: (code ++ ('|' :: (field ++ ('|' :: detail)))))) =
      [head, code, field, detail] := by
  have hsplit : ∀ {a : List Char} (b : List Char), '|' ∉ a →
      Splitting.splitOnce ['|'] (a ++ ('|' :: b)) = some (a, b) := fun b ha =>
    Splitting.splitOnce_singleton.mpr ⟨rfl, ha⟩
  unfold Splitting.splitN
  rw [hsplit _ hhead]
  dsimp only
  unfold Splitting.splitN
  rw [hsplit _ hcode]
  dsimp only
  unfold Splitting.splitN
  rw [hsplit _ hfield]
  rfl

/-- **A structured detail** is decoded to what it carries. -/
theorem decodeStructuredDetail_encode {d : ErrorDetail} (h : '|' ∉ (d.code.getD "").toList) :
    decodeStructuredDetail (encodeStructuredDetail d) = some (carried d) := by
  have hsentinel : '|' ∉ structuredDetailSentinel.toList := by decide
  have hlist : (encodeStructuredDetail d).toList = structuredDetailSentinel.toList ++ ('|' ::
      ((d.code.getD "").toList ++ ('|' :: ((replaceBars (d.field.getD "")).toList ++
        ('|' :: (replaceBars (d.detail.getD "")).toList))))) := by
    unfold encodeStructuredDetail
    simp only [String.toList_append, List.append_assoc]
    rfl
  unfold decodeStructuredDetail
  rw [hlist, splitN_four _ hsentinel h (bar_not_mem_replaceBars _)]
  simp only [List.map_cons, List.map_nil, String.ofList_toList, ne_eq, not_true_eq_false, if_false,
    List.getD_cons_zero, List.getD_cons_succ]
  rw [nonEmpty_getD, nonEmpty_replaceBars_getD, nonEmpty_replaceBars_getD]
  rfl

theorem extractPayload_structured {d : ErrorDetail} (h : '|' ∉ (d.code.getD "").toList) :
    extractPayload (some (encodeStructuredDetail d)) = (none, some (carried d)) := by
  unfold extractPayload
  dsimp only
  rw [statusOverride_structured]
  dsimp only
  rw [decodeStructuredDetail_encode h]

theorem extractPayload_unauthorized {d : ErrorDetail} (h : '|' ∉ (d.code.getD "").toList) :
    extractPayload (some ("__STATUS:401__" ++ encodeStructuredDetail d)) =
      (some 401, some (carried d)) := by
  unfold extractPayload
  dsimp only
  rw [statusOverride_unauthorized]
  dsimp only
  rw [decodeStructuredDetail_encode h]

/-- **What a structured constructor builds** is answered as it is meant. -/
theorem responded_build (c : Structured) (h : '|' ∉ (c.given.code.getD "").toList) :
    responded c.build = (c.status, some (carried c.given)) := by
  have hplain : ∀ e : ApiError, e.payload = some (encodeStructuredDetail c.given) →
      responded e = (e.defaults.1, some (carried c.given)) := by
    intro e he
    unfold responded
    rw [he, extractPayload_structured h]
    rfl
  cases c with
  | badRequest code field detail => exact hplain _ rfl
  | forbidden code detail => exact hplain _ rfl
  | forbiddenWithField code field detail => exact hplain _ rfl
  | unauthorized code detail =>
    have hpayload : (Structured.unauthorized code detail).build.payload =
        some ("__STATUS:401__" ++ encodeStructuredDetail ⟨some code, none, some detail⟩) := rfl
    unfold responded
    rw [hpayload]
    have hextract := extractPayload_unauthorized (d := ⟨some code, none, some detail⟩) h
    rw [hextract]
    rfl
  | gone code detail => exact hplain _ rfl
  | conflict code detail => exact hplain _ rfl
  | serviceUnavailable code detail => exact hplain _ rfl

/-! ## Free-form texts -/

/-- A variant that carries a text. -/
inductive Variant
  | badRequest
  | conflict
  | gone
  | forbidden
  | payloadTooLarge
  | tooManyRequests
  | paymentRequired
  | serviceUnavailable
  deriving DecidableEq, Repr

/-- The variant with a free-form text. -/
def Variant.error (raw : String) : Variant → ApiError
  | badRequest => .badRequest (some raw)
  | conflict => .conflict (some raw)
  | gone => .gone (some raw)
  | forbidden => .forbidden (some raw)
  | payloadTooLarge => .payloadTooLarge (some raw)
  | tooManyRequests => .tooManyRequests (some raw)
  | paymentRequired => .paymentRequired (some raw)
  | serviceUnavailable => .serviceUnavailable (some raw)

/-- A text that begins with `__STATUS:`, a number of 16 bits and `__`. -/
def StatusLike (raw : String) : Prop :=
  ∃ number rest : String, raw = "__STATUS:" ++ (number ++ ("__" ++ rest)) ∧
    (parseU16 number).isSome = true

/-- A text that is `__SD__`, or begins with `__SD__|`. -/
def StructuredLike (raw : String) : Prop :=
  raw = structuredDetailSentinel ∨ ∃ rest : String, raw = structuredDetailSentinel ++ ("|" ++ rest)

/-- A text that begins like what the structured constructors build. -/
def Imitates (raw : String) : Prop := StatusLike raw ∨ StructuredLike raw

variable {raw number rest : String} {d : ErrorDetail}

/-- A number is digits, perhaps after a plus sign. -/
theorem underscore_not_mem_of_parseU16 (h : (parseU16 number).isSome = true) :
    '_' ∉ number.toList := by
  intro hmem
  have hdigits : '_' ∈ if number.toList.head? = some '+' then number.toList.tail
      else number.toList := by
    split
    · next hplus =>
      obtain ⟨cs, hcs⟩ := List.head?_eq_some_iff.mp hplus
      rw [hcs, List.mem_cons] at hmem
      rw [hcs]
      exact hmem.resolve_left (by decide)
    · exact hmem
  unfold parseU16 at h
  dsimp only at h
  rw [if_neg] at h
  · cases h
  · intro hparse
    exact absurd (List.all_eq_true.mp hparse.2 '_' hdigits) (by decide)

theorem statusOverride_append (h : (parseU16 number).isSome = true) :
    statusOverride ("__STATUS:" ++ (number ++ ("__" ++ rest))) = (parseU16 number, rest) := by
  have hsplit : Splitting.splitOnce "__".toList (number ++ ("__" ++ rest)).toList =
      some (number.toList, rest.toList) := by
    rw [String.toList_append, String.toList_append]
    exact Splitting.splitOnce_append (underscore_not_mem_of_parseU16 h)
  obtain ⟨status, hstatus⟩ := Option.isSome_iff_exists.mp h
  unfold statusOverride
  rw [stripPrefix_append]
  dsimp only
  rw [hsplit]
  dsimp only
  rw [String.ofList_toList, String.ofList_toList, hstatus]

/-- A text that does not begin with a status is left alone. -/
theorem statusOverride_of_not (h : ¬ StatusLike raw) : statusOverride raw = (none, raw) := by
  unfold statusOverride
  split
  · rfl
  · next stripped hstrip =>
    split
    · rfl
    · next number after hsplit =>
      split
      · next status hparse =>
        have hraw := stripPrefix_eq_some_iff.mp hstrip
        have hparts := Splitting.splitOnce_some hsplit
        refine absurd ⟨String.ofList number, String.ofList after, ?_, ?_⟩ h
        · rw [hraw]
          congr 1
          apply String.toList_inj.mp
          simp only [hparts, String.toList_append, String.toList_ofList]
        · rw [hparse]
          rfl
      · rfl

/-- The head of a split is what stands before the first separator. -/
theorem splitN_head {l head : List Char} {parts : List (List Char)}
    (h : Splitting.splitN ['|'] 4 l = head :: parts) :
    (l = head ∧ parts = []) ∨
      ∃ rest, l = head ++ ('|' :: rest) ∧ parts = Splitting.splitN ['|'] 3 rest := by
  unfold Splitting.splitN at h
  split at h
  · injection h with hhead hparts
    exact .inl ⟨hhead, hparts.symm⟩
  · next a b hsplit =>
    injection h with hhead hparts
    rw [← hhead]
    exact .inr ⟨b, Splitting.splitOnce_some hsplit, hparts.symm⟩

/-- A text that does not begin like a structured detail is none. -/
theorem decodeStructuredDetail_of_not (h : ¬ StructuredLike raw) :
    decodeStructuredDetail raw = none := by
  unfold decodeStructuredDetail
  cases hsplit : Splitting.splitN ['|'] 4 raw.toList with
  | nil => rfl
  | cons head parts =>
    rw [List.map_cons]
    dsimp only
    rw [if_pos]
    intro hhead
    apply h
    rcases splitN_head hsplit with ⟨hraw, -⟩ | ⟨rest, hraw, -⟩
    · left
      rw [← hhead, ← hraw, String.ofList_toList]
    · right
      refine ⟨String.ofList rest, ?_⟩
      apply String.toList_inj.mp
      simp only [String.toList_append, ← hhead, String.toList_ofList, hraw]
      rfl

/-- A part is no longer than the whole. -/
theorem length_le_of_mem_splitN {l part : List Char} {n : Nat}
    (h : part ∈ Splitting.splitN ['|'] n l) : part.length ≤ l.length := by
  induction n generalizing l with
  | zero => exact absurd h List.not_mem_nil
  | succ n ih =>
    cases n with
    | zero => rw [List.mem_singleton.mp h]
    | succ n =>
      unfold Splitting.splitN at h
      split at h
      · rw [List.mem_singleton.mp h]
      · next a b hsplit =>
        have hl := congrArg List.length (Splitting.splitOnce_some hsplit)
        rw [List.length_append, List.length_append] at hl
        rcases List.mem_cons.mp h with rfl | hmem
        · omega
        · have hle := ih hmem
          omega

/-- The detail in a text is shorter than the text. -/
theorem decodeStructuredDetail_shorter {text : String} (h : decodeStructuredDetail raw = some d)
    (htext : d.detail = some text) : text.toList.length < raw.toList.length := by
  unfold decodeStructuredDetail at h
  cases hsplit : Splitting.splitN ['|'] 4 raw.toList with
  | nil =>
    rw [hsplit] at h
    cases h
  | cons head parts =>
    rw [hsplit, List.map_cons] at h
    dsimp only at h
    split at h
    · cases h
    · injection h with h
      rw [← h] at htext
      dsimp only at htext
      unfold nonEmpty at htext
      split at htext
      · cases htext
      · next hne =>
        injection htext with htext
        rcases splitN_head hsplit with ⟨-, hparts⟩ | ⟨rest, hraw, hparts⟩
        · rw [hparts] at hne
          exact absurd rfl hne
        · have hlt : 2 < (parts.map String.ofList).length := by
            by_contra hge
            rw [List.getD_eq_getElem?_getD,
              List.getElem?_eq_none (Nat.le_of_not_gt hge)] at hne
            exact hne rfl
          have hmem : text ∈ parts.map String.ofList := by
            rw [← htext, List.getD_eq_getElem?_getD, List.getElem?_eq_getElem hlt]
            exact List.getElem_mem hlt
          obtain ⟨part, hpart, rfl⟩ := List.mem_map.mp hmem
          rw [hparts] at hpart
          have hle := length_le_of_mem_splitN hpart
          rw [String.toList_ofList, hraw, List.length_append, List.length_cons]
          omega

/-- What is taken out of a text in front of it makes it shorter. -/
theorem statusOverride_length (raw : String) :
    (statusOverride raw).2.toList.length ≤ raw.toList.length := by
  by_cases h : StatusLike raw
  · obtain ⟨number, rest, rfl, hnumber⟩ := h
    rw [statusOverride_append hnumber]
    simp only [String.toList_append, List.length_append]
    omega
  · rw [statusOverride_of_not h]

/-- **A text** is plain detail, under the status of its variant, exactly when it does not imitate
a structured detail or a status override. -/
theorem responded_legacy_iff (v : Variant) (raw : String) :
    responded (v.error raw) = ((v.error raw).defaults.1, some ⟨none, none, some raw⟩) ↔
      ¬ Imitates raw := by
  have hpayload : (v.error raw).payload = some raw := by cases v <;> rfl
  unfold responded extractPayload
  rw [hpayload]
  dsimp only
  constructor
  · intro h himitates
    have hdetail := congrArg Prod.snd h
    dsimp only at hdetail
    cases hdecode : decodeStructuredDetail (statusOverride raw).2 with
    | some d =>
      rw [hdecode] at hdetail
      injection hdetail with hdetail
      have hshort := decodeStructuredDetail_shorter hdecode (congrArg ErrorDetail.detail hdetail)
      have hle := statusOverride_length raw
      omega
    | none =>
      rw [hdecode] at hdetail
      injection hdetail with hdetail
      have hrest : (statusOverride raw).2 = raw :=
        Option.some.inj (congrArg ErrorDetail.detail hdetail)
      rcases himitates with ⟨number, rest, rfl, hnumber⟩ | hlike
      · rw [statusOverride_append hnumber] at hrest
        have hlength := congrArg (fun s : String => s.toList.length) hrest
        simp only [String.toList_append, List.length_append] at hlength
        have hpos : 0 < "__STATUS:".toList.length := by decide
        omega
      · rw [hrest] at hdecode
        rcases hlike with rfl | ⟨rest, rfl⟩
        · exact absurd hdecode (by decide)
        · unfold decodeStructuredDetail at hdecode
          rw [String.toList_append, String.toList_append] at hdecode
          have hsentinel : '|' ∉ structuredDetailSentinel.toList := by decide
          unfold Splitting.splitN at hdecode
          have hsplit : Splitting.splitOnce ['|'] (structuredDetailSentinel.toList ++
              ("|".toList ++ rest.toList)) = some (structuredDetailSentinel.toList, rest.toList) :=
            Splitting.splitOnce_singleton.mpr ⟨rfl, hsentinel⟩
          rw [hsplit] at hdecode
          dsimp only at hdecode
          rw [List.map_cons, String.ofList_toList] at hdecode
          dsimp only at hdecode
          rw [if_neg (not_not.mpr rfl)] at hdecode
          cases hdecode
  · intro h
    unfold Imitates at h
    rw [not_or] at h
    rw [statusOverride_of_not h.1]
    dsimp only
    rw [decodeStructuredDetail_of_not h.2]
    rfl

/-- **Details survive and are not forged.** Structured details come back as they are meant, and the
free-form text comes back as it is exactly when it does not imitate one. -/
theorem details_survive_iff (v : Variant) (raw : String) :
    ((∀ c : Structured, '|' ∉ (c.given.code.getD "").toList →
        responded c.build = (c.status, some (carried c.given))) ∧
      responded (v.error raw) = ((v.error raw).defaults.1, some ⟨none, none, some raw⟩)) ↔
        ¬ Imitates raw := by
  rw [responded_legacy_iff]
  exact and_iff_right responded_build

/-- The text of a forbidden request answers with another status, or with a code and a field. -/
theorem forged_details :
    responded (Variant.forbidden.error "__STATUS:200__ok") =
        (200, some ⟨none, none, some "ok"⟩) ∧
      responded (Variant.forbidden.error "__SD__|INVALID_HMAC|key|ok") =
        (403, some ⟨some "INVALID_HMAC", some "key", some "ok"⟩) ∧
      ¬ (responded (Variant.forbidden.error "__STATUS:200__ok") =
        (403, some ⟨none, none, some "__STATUS:200__ok"⟩)) := by
  decide +kernel

end ApiError

end ProviiVerifier
