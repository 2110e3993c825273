/-
The verdict on a filter token and the report on a query string. A token is worth one filter or one
problem, the first that applies of five; what the five are is said here of the text itself, and reading
a token is proved to decide it. A query string is accepted when no token has a problem and the two order
parameters are fine; otherwise every problem is reported, those of the tokens first and in token order.
-/
import SensorRegistry.Proofs.Filter.Acceptance
import SensorRegistry.Proofs.QueryString
import Mathlib.Data.List.Forall2

namespace SensorRegistry

/-! ## Parts of a token -/

/-- The token has exactly these three parts between colons. -/
structure TokenParts (token field operation raw : Text) : Prop where
  text : token = field ++ ':' :: operation ++ ':' :: raw
  field : ':' ∉ field
  operation : ':' ∉ operation
  raw : ':' ∉ raw

theorem splitOn_eq_iff {token field operation raw : Text} :
    token.splitOn ':' = [field, operation, raw] ↔ TokenParts token field operation raw := by
  have hjoin : [':'].intercalate [field, operation, raw] = field ++ ':' :: operation ++ ':' :: raw := by simp
  constructor
  · intro h
    refine ⟨?_, ?_, ?_, ?_⟩
    · rw [← hjoin, ← h, List.intercalate_splitOn]
    all_goals exact Text.not_mem_of_mem_splitOn (s := token) (by simp [h])
  · rintro ⟨rfl, hfield, hoperation, hraw⟩
    rw [← hjoin, List.splitOn_intercalate ':' (by simp [hfield, hoperation, hraw]) (by simp)]

/-! ## Operations by their tokens -/

theorem Operation.ofToken_token {op : Operation} (h : op ≠ .unknown) : ofToken op.token = op := by
  cases op with
  | unknown => exact absurd rfl h
  | _ => decide

theorem Operation.ofToken_eq_unknown {s : Text} (h : ∀ op, op ≠ unknown → op.token ≠ s) : ofToken s = unknown := by
  unfold ofToken
  cases hfind : all.find? (·.token == s) with
  | none => rfl
  | some op =>
    have hknown : ∀ op ∈ all, op ≠ unknown := by decide
    have htoken : op.token = s := by simpa using List.find?_some hfind
    exact absurd htoken (h op (hknown op (List.mem_of_find?_eq_some hfind)))

namespace Whitelist

/-! ## Verdicts on tokens -/

/-- The token has three parts, the last of which is a written form of the value. -/
def Reads (token field operation value : Text) : Prop :=
  ∃ raw, TokenParts token field operation raw ∧ Text.Spells raw (Text.bytes value)

/-- The verdict on a token: the filter that it asks for, or the first thing that is wrong with it. -/
inductive Judges (w : Whitelist) (token : Text) : Except Problem Filter → Prop
  | malformed :
      (∀ field operation raw, ¬ TokenParts token field operation raw) → Judges w token (.error (.malformed token))
  | invalidValue {field operation raw : Text} : TokenParts token field operation raw →
    (∀ value, ¬ Text.Spells raw (Text.bytes value)) → Judges w token (.error (.invalidValue raw))
  | unknownField {field operation value : Text} : Reads token field operation value → w.type? field = none →
    Judges w token (.error (.unknownField field w.fieldNames))
  | unknownOperation {field operation value : Text} {valueType : ValueType} : Reads token field operation value →
    w.type? field = some valueType → (∀ op : Operation, op ≠ .unknown → op.token ≠ operation) →
    Judges w token (.error (.unknownOperation operation Operation.tokens))
  | operationNotAllowed {field value : Text} {valueType : ValueType} {op : Operation} :
      Reads token field op.token value →
    w.type? field = some valueType → op ≠ .unknown → op.allows valueType = false →
    Judges w token (.error (.operationNotAllowed op.token valueType.name))
  | accepted {field value : Text} {valueType : ValueType} {op : Operation} : Reads token field op.token value →
    w.type? field = some valueType → op ≠ .unknown → op.allows valueType = true →
    Judges w token (.ok ⟨field, op, value, valueType⟩)

variable {w : Whitelist} {token : Text}

theorem readToken_of_reads {field operation value : Text} (h : Reads token field operation value) :
    w.readToken token = match w.type? field with
      | none => .error (.unknownField field w.fieldNames)
      | some valueType =>
        let op := Operation.ofToken operation
        if op = .unknown then .error (.unknownOperation operation Operation.tokens)
        else if op.allows valueType then .ok ⟨field, op, value, valueType⟩
        else .error (.operationNotAllowed operation valueType.name) := by
  obtain ⟨raw, hparts, hraw⟩ := h
  rw [readToken, splitOn_eq_iff.2 hparts]
  dsimp only
  rewrite [QueryString.decodeValue?_eq_some_iff.2 hraw]
  rfl

/-- Reading a token gives its verdict. -/
theorem readToken_of_judges {verdict : Except Problem Filter} (h : w.Judges token verdict) :
    w.readToken token = verdict := by
  cases h with
  | malformed hparts =>
    unfold readToken
    split
    · rename_i htoken
      exact absurd (splitOn_eq_iff.1 htoken) (hparts _ _ _)
    · rfl
  | @invalidValue field operation raw hparts hraw =>
    have hnone : QueryString.decodeValue? raw = none :=
      Option.eq_none_iff_forall_not_mem.2 fun value hvalue => hraw value (QueryString.decodeValue?_eq_some_iff.1 hvalue)
    rw [readToken, splitOn_eq_iff.2 hparts]
    dsimp only
    rw [hnone]
  | unknownField hreads htype => rw [readToken_of_reads hreads, htype]
  | unknownOperation hreads htype hop =>
    rw [readToken_of_reads hreads, htype]
    exact if_pos (Operation.ofToken_eq_unknown hop)
  | operationNotAllowed hreads htype hknown hallows =>
    rw [readToken_of_reads hreads, htype]
    dsimp only
    rw [Operation.ofToken_token hknown, if_neg hknown, hallows]
    rfl
  | accepted hreads htype hknown hallows =>
    rw [readToken_of_reads hreads, htype]
    dsimp only
    rw [Operation.ofToken_token hknown, if_neg hknown, if_pos hallows]

/-- Every token has a verdict. -/
theorem exists_judges (w : Whitelist) (token : Text) : ∃ verdict, w.Judges token verdict := by
  by_cases hparts : ∃ field operation raw, TokenParts token field operation raw
  swap
  · exact ⟨_, .malformed fun field operation raw h => hparts ⟨field, operation, raw, h⟩⟩
  obtain ⟨field, operation, raw, hparts⟩ := hparts
  by_cases hvalue : ∃ value, Text.Spells raw (Text.bytes value)
  swap
  · exact ⟨_, .invalidValue hparts fun value h => hvalue ⟨value, h⟩⟩
  obtain ⟨value, hvalue⟩ := hvalue
  have hreads : Reads token field operation value := ⟨raw, hparts, hvalue⟩
  cases htype : w.type? field with
  | none => exact ⟨_, .unknownField hreads htype⟩
  | some valueType =>
    by_cases hop : ∃ op : Operation, op ≠ .unknown ∧ op.token = operation
    swap
    · exact ⟨_, .unknownOperation hreads htype fun op hknown htoken => hop ⟨op, hknown, htoken⟩⟩
    obtain ⟨op, hknown, rfl⟩ := hop
    cases hallows : op.allows valueType with
    | false => exact ⟨_, .operationNotAllowed hreads htype hknown hallows⟩
    | true => exact ⟨_, .accepted hreads htype hknown hallows⟩

theorem judges_iff {verdict : Except Problem Filter} : w.Judges token verdict ↔ w.readToken token = verdict := by
  refine ⟨readToken_of_judges, ?_⟩
  rintro rfl
  obtain ⟨verdict, h⟩ := exists_judges w token
  rwa [readToken_of_judges h]

end Whitelist

/-! ## The order parameters -/

namespace OrderRequest

theorem field?_eq (query : Text) :
    field? query = if param "sort" query = [] then none else some (param "sort" query) := by
  unfold field?
  simp [List.isEmpty_iff]

theorem toList_fieldProblem? (orderable : List Text) (query : Text) :
    (fieldProblem? orderable query).toList =
      if param "sort" query = [] ∨ param "sort" query ∈ orderable then []
      else [.orderNotAllowed (param "sort" query) (Text.sorted orderable)] := by
  unfold fieldProblem?
  rw [field?_eq]
  by_cases hsort : param "sort" query = []
  · simp [hsort]
  · by_cases hmem : param "sort" query ∈ orderable <;> simp [hsort, hmem]

theorem isSome_ofParam?_iff {s : Text} :
    (Direction.ofParam? s).isSome = true ↔ s = "asc".toList ∨ s = "desc".toList := by
  unfold Direction.ofParam?
  split_ifs with hasc hdesc
  · exact ⟨fun _ => .inl hasc, fun _ => rfl⟩
  · exact ⟨fun _ => .inr hdesc, fun _ => rfl⟩
  · exact ⟨fun h => (by cases h), fun h => absurd h (not_or.2 ⟨hasc, hdesc⟩)⟩

theorem direction?_eq (query : Text) :
    direction? query = if param "order" query = "desc".toList then .descending else .ascending := by
  unfold direction? Direction.ofParam?
  split_ifs with hasc hdesc hdesc
  · exact absurd (hasc.symm.trans hdesc) (by decide)
  all_goals rfl

theorem toList_directionProblem? (query : Text) :
    (directionProblem? query).toList =
      if param "order" query = [] ∨ param "order" query = "asc".toList ∨ param "order" query = "desc".toList then []
      else [.invalidDirection (param "order" query)] := by
  unfold directionProblem?
  simp only [List.isEmpty_iff, isSome_ofParam?_iff]
  split_ifs <;> rfl

end OrderRequest

/-! ## Reports -/

theorem Outcomes.failures_eq_nil_iff_forall {ε α : Type} {os : List (Except ε α)} :
    failures os = [] ↔ ∀ o ∈ os, ∃ a, o = .ok a := by
  constructor
  · intro h o ho
    cases o with
    | ok a => exact ⟨a, rfl⟩
    | error e =>
      have := mem_failures.2 ho
      rw [h] at this
      cases this
  · intro h
    rw [List.eq_nil_iff_forall_not_mem]
    intro e he
    obtain ⟨a, ha⟩ := h _ (mem_failures.1 he)
    cases ha

namespace Whitelist

theorem problems_eq (w : Whitelist) (query : Text) :
    w.problems query = Outcomes.failures (w.outcomes query) ++
      (if OrderRequest.param "sort" query = [] ∨ OrderRequest.param "sort" query ∈ w.orderable then []
        else [.orderNotAllowed (OrderRequest.param "sort" query) (Text.sorted w.orderable)]) ++
      (if OrderRequest.param "order" query = [] ∨ OrderRequest.param "order" query = "asc".toList ∨
          OrderRequest.param "order" query = "desc".toList then []
        else [.invalidDirection (OrderRequest.param "order" query)]) := by
  rw [problems, OrderRequest.read, OrderRequest.toList_fieldProblem?, OrderRequest.toList_directionProblem?,
    List.append_assoc]

/-- All or nothing, with a complete report. The tokens are the texts behind `filters=`, each with its one
verdict. A query string is accepted exactly when every verdict is a filter, the field to sort by is
empty or orderable, and the direction is empty or one of the two; then the group is these filters,
this field and this direction. Otherwise the report has the problems of the tokens in token order, then
that of the field, then that of the direction. -/
theorem parse_reports (w : Whitelist) (query : Option Text) :
    let text := query.getD []
    let sort := OrderRequest.param "sort" text
    let order := OrderRequest.param "order" text
    (tokens text).map ("filters=".toList ++ ·) = (QueryString.pieces text).filter ("filters=".toList.isPrefixOf ·) ∧
    (∀ token, ∃! verdict, w.Judges token verdict) ∧
    ∃ verdicts, List.Forall₂ w.Judges (tokens text) verdicts ∧
      ((∃ group, w.parse query = .ok group) ↔ (∀ verdict ∈ verdicts, ∃ f, verdict = .ok f) ∧
        (sort = [] ∨ sort ∈ w.orderable) ∧ (order = [] ∨ order = "asc".toList ∨ order = "desc".toList)) ∧
      (∀ group, w.parse query = .ok group → verdicts = group.filters.map .ok ∧
        group.order = (if sort = [] then none else some sort) ∧
        group.direction = if order = "desc".toList then .descending else .ascending) ∧
      ∀ problems, w.parse query = .error problems → problems = Outcomes.failures verdicts ++
        (if sort = [] ∨ sort ∈ w.orderable then [] else [.orderNotAllowed sort (Text.sorted w.orderable)]) ++
        (if order = [] ∨ order = "asc".toList ∨ order = "desc".toList then [] else [.invalidDirection order]) := by
  intro text sort order
  refine ⟨QueryString.map_literals "filters".toList text, fun token => ?_, w.outcomes text, ?_, ?_, ?_, ?_⟩
  · obtain ⟨verdict, h⟩ := exists_judges w token
    exact ⟨verdict, h, fun other hother => (readToken_of_judges hother).symm.trans (readToken_of_judges h)⟩
  · rw [outcomes, List.forall₂_map_right_iff]
    exact List.forall₂_same.2 fun token _ => judges_iff.2 rfl
  · have hproblems : (∃ group, w.parse query = .ok group) ↔ w.problems text = [] := by
      constructor
      · rintro ⟨group, h⟩
        exact (Problem.check_eq_ok_iff.1 h).1
      · exact fun h => ⟨_, Problem.check_eq_ok_iff.2 ⟨h, rfl⟩⟩
    have hunless : ∀ (fine : Prop) [Decidable fine] (p : Problem), (if fine then [] else [p]) = [] ↔ fine := by
      intro fine _ p
      split_ifs with h <;> simp [h]
    rw [hproblems, problems_eq, List.append_eq_nil_iff, List.append_eq_nil_iff, Outcomes.failures_eq_nil_iff_forall,
      hunless, hunless, and_assoc]
  · intro group h
    obtain ⟨houtcomes, -, horder⟩ := parse_eq_ok_iff.1 h
    obtain ⟨hfield, hdirection⟩ := OrderRequest.mk.inj horder
    exact ⟨houtcomes,
      hfield.symm.trans (OrderRequest.field?_eq text), hdirection.symm.trans (OrderRequest.direction?_eq text)⟩
  · intro problems h
    rw [← (Problem.check_eq_error_iff.1 h).2]
    exact problems_eq w text

/-- A token with two parts, a fine one and one with a broken escape, before a refused order. -/
theorem parse_reports_mixed :
    let w := (Whitelist.empty.filter "alias".toList .string).allowOrder ["alias".toList]
    let query := "filters=alias:eq&filters=alias:eq:a%20b&filters=alias:eq:%zz&sort=rate&order=up".toList
    let problems : List Problem := [.malformed "alias:eq".toList, .invalidValue "%zz".toList,
      .orderNotAllowed "rate".toList ["alias".toList], .invalidDirection "up".toList]
    w.parse (some query) = .error problems ∧
      ∃ verdicts, List.Forall₂ w.Judges (tokens query) verdicts ∧ problems = Outcomes.failures verdicts ++
        [.orderNotAllowed "rate".toList ["alias".toList]] ++ [.invalidDirection "up".toList] := by
  intro w query problems
  have hparse : w.parse (some query) = .error problems := by decide +kernel
  obtain ⟨-, -, verdicts, hverdicts, -, -, hreport⟩ := parse_reports w (some query)
  refine ⟨hparse, verdicts, hverdicts, ?_⟩
  have hsort : OrderRequest.param "sort" query = "rate".toList := by decide +kernel
  have horder : OrderRequest.param "order" query = "up".toList := by decide +kernel
  have hsorted : Text.sorted w.orderable = ["alias".toList] := by decide +kernel
  have h := hreport problems hparse
  rwa [Option.getD_some, hsort, horder, if_neg (by decide), if_neg (by decide), hsorted] at h

end Whitelist

end SensorRegistry
